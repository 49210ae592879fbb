import NetConsole.Foundations.GuardedRuns
import NetConsole.Radio.Locality

/-!
# Rebuilt projections

The projections of a device are the fold over its stored events, each with the events that
were stored before it (`RadioStore.Sound`). Processing an event goes on with that fold, and
a rebuild does it again, where the stored texts of the times are in the order of the
arrivals and the rebuild is not limited to some runs of a device that has others.
-/

set_option autoImplicit false

namespace NetConsole.Radio

open Foundations (LocalStep eq_mergeSort_of_perm filter_mergeSort foldPrefixes
  foldPrefixes_append foldPrefixes_congr ownItems ownedRows_remove)
open List

section Evidence

variable (lib : RadioLibrary)

/-! ## Events near to one -/

theorem nearKey_apart (eventTime : String) {one two : ControlEvent}
    (before : decide (one.nearKey lib eventTime ≤ two.nearKey lib eventTime) = true)
    (behind : decide (two.nearKey lib eventTime ≤ one.nearKey lib eventTime) = true) :
    one.id = two.id := by
  have same := le_antisymm (of_decide_eq_true before) (of_decide_eq_true behind)
  exact congrArg (fun key => (ofLex key).2) same

variable {event : ControlEvent} {events : List ControlEvent}

theorem mem_storedNearby {other : ControlEvent} {family : ControlFamily}
    (mem : other ∈ storedNearby lib events event family) :
    other ∈ events ∧ other.deviceUuid = event.deviceUuid := by
  obtain ⟨stored, near⟩ := mem_filter.mp (mem_mergeSort.mp mem)
  simp only [isNearby, Bool.and_eq_true, decide_eq_true_eq] at near
  exact ⟨stored, near.1.1⟩

/-- The events near to one are found among those of its device. -/
theorem storedNearby_own (events : List ControlEvent) (event : ControlEvent) :
    storedNearby lib (ownItems (·.deviceUuid) events event.deviceUuid) event =
      storedNearby lib events event := by
  funext family
  unfold storedNearby findControlEvents ownItems
  rw [filter_filter]
  congr 1
  apply filter_congr
  intro other _
  by_cases mine : other.deviceUuid = event.deviceUuid
  · simp [mine]
  · simp [isNearby, mine]

theorem passedNearby_eq {passed : List ControlEvent} (event : ControlEvent)
    (distinct : (events.map (·.id)).Nodup) (nodup : passed.Nodup)
    (stored : ∀ other ∈ passed, other ∈ events) :
    passedNearby lib events passed event = storedNearby lib passed event := by
  have apart : ∀ one ∈ events, ∀ two ∈ events, one.id = two.id → one = two :=
    fun one memberOne two memberTwo same =>
      inj_on_of_nodup_map distinct memberOne memberTwo same
  have same : ∀ other ∈ events, (passed.map (·.id)).contains other.id = true ↔ other ∈ passed := by
    intro other mem
    rw [contains_iff_mem, mem_map]
    constructor
    · rintro ⟨found, listed, same⟩
      exact apart found (stored found listed) other mem same ▸ listed
    · intro listed
      exact ⟨other, listed, rfl⟩
  funext family
  apply eq_mergeSort_of_perm
  · intro one two three first second
    exact decide_eq_true (le_trans (of_decide_eq_true first) (of_decide_eq_true second))
  · intro one two
    simpa using le_total (one.nearKey _ event.eventTime) (two.nearKey _ event.eventTime)
  · intro one memberOne two memberTwo before behind
    exact apart one (stored one (mem_of_mem_filter memberOne)) two
      (stored two (mem_of_mem_filter memberTwo)) (nearKey_apart _ _ before behind)
  · refine ((mergeSort_perm _ _).filter _).trans ?_
    have distinctEvents : events.Nodup := List.Nodup.of_map _ distinct
    refine (perm_ext_iff_of_nodup ((distinctEvents.filter _).filter _) (nodup.filter _)).mpr ?_
    intro _
    constructor
    · intro mem
      obtain ⟨found, listed⟩ := mem_filter.mp mem
      obtain ⟨inEvents, near⟩ := mem_filter.mp found
      exact mem_filter.mpr ⟨(same _ inEvents).mp listed, near⟩
    · intro mem
      obtain ⟨listed, near⟩ := mem_filter.mp mem
      have inEvents := stored _ listed
      exact mem_filter.mpr ⟨mem_filter.mpr ⟨inEvents, near⟩, (same _ inEvents).mpr listed⟩
  · apply List.Pairwise.filter
    apply pairwise_mergeSort
    · intro one two three first second
      exact decide_eq_true (le_trans (of_decide_eq_true first) (of_decide_eq_true second))
    · intro one two
      simpa using le_total (one.nearKey _ event.eventTime) (two.nearKey _ event.eventTime)

/-! ## Readable times -/

/-- An event with a time that can be read. -/
def ControlValues.Readable (values : ControlValues) : Prop :=
  (lib.parseTime values.eventTime).isSome = true ∨
    (lib.parseTime values.receiveTime).isSome = true

variable {lib} (clock other : ControlEvent → Moment)

theorem eventDatetime_eq (readable : event.Readable lib) :
    eventDatetime lib clock event = eventDatetime lib other event := by
  unfold eventDatetime
  rcases readable with first | second
  · obtain ⟨moment, same⟩ := Option.isSome_iff_exists.mp first
    rw [same]
  · obtain ⟨moment, same⟩ := Option.isSome_iff_exists.mp second
    rw [same]
    cases lib.parseTime event.eventTime with
    | none => rfl
    | some first => rfl

theorem correlate_clock {cfg ifnet : ControlEvent}
    (readableCfg : cfg.Readable lib) (readableIfnet : ifnet.Readable lib) :
    correlate lib clock cfg ifnet = correlate lib other cfg ifnet := by
  funext tables
  unfold correlate projectCorrelation correlatedState
  rw [eventDatetime_eq _ _ readableCfg, eventDatetime_eq _ _ readableIfnet]

/-- The clock is not read for events whose times can be read. -/
theorem project_clock {nearby : Nearby} (readable : event.Readable lib)
    (readableNearby : ∀ family, ∀ near ∈ nearby family, near.Readable lib) :
    project lib clock nearby event = project lib other nearby event := by
  have cfgman : projectCfgman lib clock nearby event = projectCfgman lib other nearby event := by
    funext tables
    unfold projectCfgman
    split
    · rfl
    · split
      · rfl
      · apply foldl_ext
        intro tables ifnet mem
        rw [correlate_clock clock other readable
          (readableNearby .ifnet ifnet (mem_of_mem_filter mem))]
  have ifnet : projectIfnet lib clock nearby event = projectIfnet lib other nearby event := by
    funext tables
    unfold projectIfnet storeTransition changedState correlateNearbyCfgman
    rw [eventDatetime_eq clock other readable]
    split
    · rfl
    · split
      · rfl
      · apply foldl_ext
        intro tables cfg mem
        rw [correlate_clock clock other
          (readableNearby .cfgman cfg (mem_of_mem_filter mem)) readable]
  unfold project
  rw [cfgman, ifnet]

end Evidence

/-! ## The fold over the events of a device -/

/-- A clock that is not read. -/
def noClock : ControlEvent → Moment := fun _ => ⟨0, 0⟩

section Fold

variable (lib : RadioLibrary)

/-- An event is projected with the events that are stored before it. -/
def liveStep (passed : List ControlEvent) (event : ControlEvent) : Projections → Projections :=
  project lib noClock (storedNearby lib passed event) event

def folded (events : List ControlEvent) (device : String) : Projections :=
  foldPrefixes (liveStep lib) [] (ownItems (·.deviceUuid) events device) .empty

theorem storedNearby_owned {deviceOf : Nat → String} {passed : List ControlEvent}
    (valid : ∀ other ∈ passed, deviceOf other.id = other.deviceUuid) (event : ControlEvent) :
    NearbyOwned deviceOf event.deviceUuid (storedNearby lib passed event) where
  mine _ _ mem := (mem_storedNearby _ mem).2
  known := by
    intro family _ mem
    obtain ⟨stored, mine⟩ := mem_storedNearby _ mem
    rw [valid _ stored, mine]

theorem liveStep_local (deviceOf : Nat → String) :
    LocalStep (fun event : ControlEvent => event.deviceUuid)
      (fun device tables => Projections.ofDevice tables device)
      (fun event => deviceOf event.id = event.deviceUuid) (Projections.Owned deviceOf)
      (liveStep lib) where
  keeps := by
    intro passed event tables valid known owned
    exact (project_local _ noClock known
      (storedNearby_owned lib valid event)).keeps tables owned
  own := by
    intro passed event tables valid known owned
    have own := (project_local lib noClock known
      (storedNearby_owned lib valid event)).own tables owned
    unfold liveStep
    rw [own, storedNearby_own]
  other := by
    intro passed event tables device valid known owned apart
    exact (project_local _ noClock known
      (storedNearby_owned _ valid event)).other tables device owned apart

end Fold

/-! ## Sound stores -/

/-- The order of the texts of the times. -/
def ControlValues.textKey (values : ControlValues) : Lex (String × String) :=
  toLex (values.eventTime, values.receiveTime)

/-- The events have their own identifiers, times that can be read, and for each device the
order of these texts; the projections of a device are those of its events. -/
structure RadioStore.Sound (lib : RadioLibrary) (store : RadioStore) : Prop where
  numbered : ∀ event ∈ store.events, event.id ≤ store.lastId
  increasing : store.events.Pairwise fun one two => one.id < two.id
  readable : ∀ event ∈ store.events, event.Readable lib
  ordered : store.events.Pairwise fun one two =>
    one.deviceUuid = two.deviceUuid → one.textKey ≤ two.textKey
  owned : ∀ deviceOf : Nat → String,
    (∀ event ∈ store.events, deviceOf event.id = event.deviceUuid) →
      store.projections.Owned deviceOf
  views : ∀ device, store.projections.ofDevice device = folded lib store.events device

namespace RadioStore.Sound

variable {lib : RadioLibrary} {store : RadioStore}

theorem distinct (sound : store.Sound lib) : (store.events.map (·.id)).Nodup := by
  rw [List.Nodup, pairwise_map]
  exact sound.increasing.imp Nat.ne_of_lt

theorem exists_deviceOf (sound : store.Sound lib) :
    ∃ deviceOf : Nat → String, ∀ event ∈ store.events, deviceOf event.id = event.deviceUuid := by
  refine ⟨fun id => ((store.events.find? (·.id = id)).map (·.deviceUuid)).getD "", ?_⟩
  intro event mem
  cases found : store.events.find? (·.id = event.id) with
  | none =>
    have absent := List.find?_eq_none.mp found event mem
    simp at absent
  | some other =>
    have same : other.id = event.id := by simpa using List.find?_some found
    have listed := mem_of_find?_eq_some found
    have equal : other = event :=
      inj_on_of_nodup_map sound.distinct listed mem same
    dsimp only
    rw [found, equal]
    rfl

end RadioStore.Sound

variable {one two : ControlEvent}

/-- The order of the stored texts, with the identifiers. -/
theorem timeKey_le (texts : one.textKey ≤ two.textKey) (ids : one.id < two.id) :
    one.timeKey ≤ two.timeKey := by
  obtain ⟨event, receive⟩ := Prod.Lex.toLex_le_toLex'.mp texts
  refine Prod.Lex.toLex_le_toLex'.mpr ⟨event, ?_⟩
  intro sameEvent
  refine Prod.Lex.toLex_le_toLex'.mpr ⟨receive sameEvent, ?_⟩
  intro _
  exact ids.le

theorem timeKey_apart (before : decide (one.timeKey ≤ two.timeKey) = true)
    (behind : decide (two.timeKey ≤ one.timeKey) = true) : one.id = two.id := by
  have same := le_antisymm (of_decide_eq_true before) (of_decide_eq_true behind)
  exact congrArg (fun key => (ofLex (ofLex key).2).2) same

theorem timeKey_trans (one two three : ControlEvent)
    (first : decide (one.timeKey ≤ two.timeKey) = true)
    (second : decide (two.timeKey ≤ three.timeKey) = true) :
    decide (one.timeKey ≤ three.timeKey) = true :=
  decide_eq_true (le_trans (of_decide_eq_true first) (of_decide_eq_true second))

theorem timeKey_total (one two : ControlEvent) :
    (decide (one.timeKey ≤ two.timeKey) || decide (two.timeKey ≤ one.timeKey)) = true := by
  simpa using le_total one.timeKey two.timeKey

/-- A rebuild of these runs folds over the events of a device as they have arrived. -/
def RadioStore.Covers (store : RadioStore) (deviceUuid runId : String) : Prop :=
  runId = "" ∨ ∀ event ∈ store.events,
    deviceUuid = "" ∨ event.deviceUuid = deviceUuid → event.runId = runId

namespace RadioStore.Sound

variable {lib : RadioLibrary} {store : RadioStore} {deviceUuid device runId : String}

/-- What a rebuild lists of a device is what has arrived of it. -/
theorem listed_own (sound : store.Sound lib) (covers : store.Covers deviceUuid runId)
    (cleared : deviceUuid = "" ∨ deviceUuid = device) :
    ownItems (·.deviceUuid) (listControlEvents store.events deviceUuid runId) device =
      ownItems (·.deviceUuid) store.events device := by
  unfold listControlEvents ownItems
  rw [filter_mergeSort timeKey_trans timeKey_total, filter_filter]
  · have kept : (store.events.filter fun event =>
        decide (event.deviceUuid = device) &&
          decide ((deviceUuid = "" ∨ event.deviceUuid = deviceUuid) ∧
            (runId = "" ∨ event.runId = runId))) =
        store.events.filter fun event => decide (event.deviceUuid = device) := by
      apply filter_congr
      intro event mem
      by_cases mine : event.deviceUuid = device
      · have inScope : deviceUuid = "" ∨ event.deviceUuid = deviceUuid := by
          rcases cleared with all | own
          · exact .inl all
          · exact .inr (mine.trans own.symm)
        have ofRun : runId = "" ∨ event.runId = runId := by
          rcases covers with all | each
          · exact .inl all
          · exact .inr (each event mem inScope)
        rw [decide_eq_true mine, decide_eq_true (And.intro inScope ofRun)]
        rfl
      · simp [mine]
    rw [kept]
    apply mergeSort_of_pairwise
    rw [pairwise_filter]
    refine (sound.increasing.and sound.ordered).imp ?_
    rintro one two ⟨ids, texts⟩ mineOne mineTwo
    have same := (of_decide_eq_true mineOne).trans (of_decide_eq_true mineTwo).symm
    exact decide_eq_true (timeKey_le (texts same) ids)
  · intro one memberOne two memberTwo before behind
    exact inj_on_of_nodup_map sound.distinct (mem_of_mem_filter memberOne)
      (mem_of_mem_filter memberTwo) (timeKey_apart before behind)

/-- A rebuild lists nothing of the devices that it does not clear. -/
theorem listed_other (set : deviceUuid ≠ "") (other : deviceUuid ≠ device) :
    ownItems (·.deviceUuid) (listControlEvents store.events deviceUuid runId) device = [] := by
  unfold ownItems
  rw [filter_eq_nil_iff]
  intro event mem
  have listed := mem_filter.mp (mem_mergeSort.mp mem)
  simp only [decide_eq_true_eq] at listed ⊢
  intro mine
  exact other ((listed.2.1.resolve_left set).symm.trans mine)

end RadioStore.Sound

theorem clear_ofDevice (tables : Projections) (deviceUuid device : String) :
    (tables.clear deviceUuid).ofDevice device =
      if deviceUuid = "" ∨ deviceUuid = device then .empty else tables.ofDevice device := by
  unfold Projections.clear
  by_cases all : deviceUuid = ""
  · rw [if_pos all, if_pos (.inl all)]
    rfl
  · rw [if_neg all]
    unfold Projections.ofDevice
    rw [ownedRows_remove, ownedRows_remove, ownedRows_remove]
    by_cases mine : deviceUuid = device
    · rw [if_pos mine, if_pos mine, if_pos mine, if_pos (.inr mine)]
      rfl
    · rw [if_neg mine, if_neg mine, if_neg mine, if_neg (not_or.mpr ⟨all, mine⟩)]

theorem clear_owned {deviceOf : Nat → String} {tables : Projections}
    (owned : tables.Owned deviceOf) (deviceUuid : String) :
    (tables.clear deviceUuid).Owned deviceOf := by
  unfold Projections.clear
  split
  · intro correlation mem
    cases mem
  · intro correlation mem
    exact owned correlation (mem_of_mem_filter mem)

/-! ## Processing and rebuilding -/

section Steps

variable {lib : RadioLibrary} {store : RadioStore} (clock : ControlEvent → Moment)
  {deviceUuid runId : String} {event : ControlEvent}

theorem listed_stored (mem : event ∈ listControlEvents store.events deviceUuid runId) :
    event ∈ store.events :=
  mem_of_mem_filter (mem_mergeSort.mp mem)

variable (sound : store.Sound lib)
include sound

theorem listed_nodup (deviceUuid runId : String) :
    (listControlEvents store.events deviceUuid runId).Nodup := by
  have distinct : store.events.Nodup := List.Nodup.of_map _ sound.distinct
  exact (mergeSort_perm _ _).symm.nodup (distinct.filter _)

theorem rebuild_projections (deviceUuid runId : String) :
    (rebuild lib clock deviceUuid runId store).projections =
      foldPrefixes (liveStep lib) [] (listControlEvents store.events deviceUuid runId)
        (store.projections.clear deviceUuid) := by
  unfold rebuild
  apply foldPrefixes_congr
  intro before event after split tables
  have inList : ∀ other ∈ [] ++ before ++ [event], other ∈ store.events := by
    intro _ mem
    apply listed_stored
    rw [split]
    rcases mem_append.mp mem with earlier | same
    · exact mem_append_left _ earlier
    · exact mem_append_right _ (mem_singleton.mp same ▸ mem_cons_self)
  have nodup : ([] ++ before ++ [event]).Nodup := by
    have whole := listed_nodup sound deviceUuid runId
    rw [split, append_cons] at whole
    exact whole.of_append_left
  have stored : event ∈ store.events := inList event (by simp)
  rw [passedNearby_eq _ event sound.distinct nodup inList]
  unfold liveStep
  rw [project_clock _ noClock (sound.readable event stored)]
  intro family near mem
  exact sound.readable near (inList near (mem_storedNearby _ mem).1)

theorem rebuild_ofDevice (covers : store.Covers deviceUuid runId) (device : String) :
    (rebuild lib clock deviceUuid runId store).projections.ofDevice device =
      store.projections.ofDevice device := by
  obtain ⟨deviceOf, known⟩ := sound.exists_deviceOf
  have owned := clear_owned (sound.owned deviceOf known) deviceUuid
  rw [rebuild_projections clock sound, (liveStep_local lib deviceOf).view_foldPrefixes device
      (fun _ mem => absurd mem not_mem_nil)
      (fun event mem => known event (listed_stored mem)) owned,
    clear_ofDevice]
  by_cases cleared : deviceUuid = "" ∨ deviceUuid = device
  · rw [if_pos cleared, sound.listed_own covers cleared, sound.views device]
    rfl
  · obtain ⟨set, other⟩ := not_or.mp cleared
    rw [if_neg cleared, RadioStore.Sound.listed_other set other]
    rfl

theorem rebuild_sound (covers : store.Covers deviceUuid runId) :
    (rebuild lib clock deviceUuid runId store).Sound lib where
  numbered := sound.numbered
  increasing := sound.increasing
  readable := sound.readable
  ordered := sound.ordered
  owned := by
    intro deviceOf known
    rw [rebuild_projections clock sound]
    exact (liveStep_local lib deviceOf).holds_foldPrefixes
      (fun _ mem => absurd mem not_mem_nil)
      (fun event mem => known event (listed_stored mem))
      (clear_owned (sound.owned deviceOf known) deviceUuid)
  views := by
    intro device
    rw [rebuild_ofDevice clock sound covers device]
    exact sound.views device

/-- An event whose time can be read, and whose texts come behind those of its device. -/
structure RadioStore.Admits (lib : RadioLibrary) (store : RadioStore)
    (values : ControlValues) : Prop where
  readable : values.Readable lib
  behind : ∀ event ∈ store.events, event.deviceUuid = values.deviceUuid →
    event.textKey ≤ values.textKey

theorem storeEvent_sound (numbered : event.id = store.lastId + 1)
    (admits : store.Admits lib event.toControlValues) :
    (storeEvent lib clock event store).Sound lib := by
  have fresh : ∀ other ∈ store.events, other.id < event.id := by
    intro other mem
    have bound := sound.numbered other mem
    omega
  have readable : ∀ other ∈ store.events ++ [event], other.Readable lib := by
    intro other mem
    rcases mem_append.mp mem with earlier | same
    · exact sound.readable other earlier
    · exact mem_singleton.mp same ▸ admits.readable
  have projected : (storeEvent lib clock event store).projections =
      liveStep lib (store.events ++ [event]) event store.projections := by
    unfold storeEvent liveStep
    rw [project_clock clock noClock admits.readable]
    intro family near mem
    exact readable near (mem_storedNearby lib mem).1
  have local' : ∀ deviceOf : Nat → String,
      (∀ other ∈ store.events ++ [event], deviceOf other.id = other.deviceUuid) →
        LocalChange deviceOf event.deviceUuid (liveStep lib (store.events ++ [event]) event) := by
    intro deviceOf known
    exact project_local lib noClock (known event (by simp))
      (storedNearby_owned lib known event)
  constructor
  · intro other mem
    rcases mem_append.mp mem with earlier | same
    · exact (fresh other earlier).le
    · exact (congrArg ControlEvent.id (mem_singleton.mp same)).le
  · refine pairwise_append.mpr ⟨sound.increasing, pairwise_singleton _ _, ?_⟩
    intro other mem last same
    exact mem_singleton.mp same ▸ fresh other mem
  · exact readable
  · refine pairwise_append.mpr ⟨sound.ordered, pairwise_singleton _ _, ?_⟩
    intro other mem last same ofDevice
    obtain rfl := mem_singleton.mp same
    exact admits.behind other mem ofDevice
  · intro deviceOf known
    rw [projected]
    exact (local' deviceOf known).keeps _ (sound.owned deviceOf fun other mem =>
      known other (mem_append_left _ mem))
  · intro device
    obtain ⟨before, knownBefore⟩ := sound.exists_deviceOf
    let deviceOf := fun id => if id = event.id then event.deviceUuid else before id
    have known : ∀ other ∈ store.events ++ [event], deviceOf other.id = other.deviceUuid := by
      intro other mem
      rcases mem_append.mp mem with earlier | same
      · have apart : other.id ≠ event.id := (fresh other earlier).ne
        exact (if_neg apart).trans (knownBefore other earlier)
      · obtain rfl := mem_singleton.mp same
        exact if_pos rfl
    have owned := sound.owned deviceOf fun other mem =>
      known other (mem_append_left _ mem)
    rw [projected]
    by_cases mine : event.deviceUuid = device
    · subst mine
      have own : ownItems (·.deviceUuid) (store.events ++ [event]) event.deviceUuid =
          ownItems (·.deviceUuid) store.events event.deviceUuid ++ [event] := by
        simp [ownItems]
      have passed : liveStep lib (store.events ++ [event]) event = liveStep lib
            ([] ++ ownItems (·.deviceUuid) store.events event.deviceUuid ++ [event]) event := by
        unfold liveStep
        rw [nil_append, ← own, storedNearby_own]
      rw [(local' deviceOf known).own _ owned, sound.views]
      unfold folded storeEvent
      rw [own, foldPrefixes_append, passed]
      rfl
    · have own : ownItems (·.deviceUuid) (store.events ++ [event]) device =
          ownItems (·.deviceUuid) store.events device := by
        simp [ownItems, mine]
      rw [(local' deviceOf known).other _ device owned mine, sound.views]
      unfold folded storeEvent
      rw [own]

theorem process_sound {values : ControlValues} {after : RadioStore}
    (done : process lib clock values store = some after)
    (admits : store.events.any (·.dedupKey = values.dedupKey) = true ∨ store.Admits lib values) :
    after.Sound lib := by
  unfold process at done
  split at done
  · cases done
  · split at done
    · exact Option.some.inj done ▸ sound
    · next absent =>
      rw [← Option.some.inj done]
      exact storeEvent_sound clock sound rfl (admits.resolve_left absent)

omit sound

end Steps

end NetConsole.Radio
