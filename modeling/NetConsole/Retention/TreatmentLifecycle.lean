import NetConsole.Retention.OpticalTreatment

/-!
# The life of a treatment

Readings of access points arrive in any order. At every point, for every access point,
all treatment events but the last are resolved; the treatment is abnormal while the last
one is open, and counts the events after the first (`treatment_lifecycle`).

A reading without data neither opens nor resolves an event. It changes nothing at all
unless the other side of its access point still shows an issue: then the open event and
the treatment take over what the reading says of times, revisions and names
(`not_untouchedByNoData`).
-/

set_option autoImplicit false

namespace NetConsole.Retention

open Foundations List
open Worker (Event Json dictGet)

/-! ## Readings -/

/-- A row that is observed for one of its sides. -/
structure SideReading where
  side : OpticalSide
  now : String
  /-- `uuid4().hex`, should the reading open an event. -/
  eventUuid : String
  row : Event

def TreatmentTables.empty : TreatmentTables :=
  { optical := HistoryTables.empty, treatments := fun _ => none, events := [], lastEventId := 0 }

namespace SideReading

variable (lib : RetentionLibrary) (siteId : String) (reading : SideReading)

/-- What the reading says of its side. -/
def projection : Option OpticalProjection :=
  buildOpticalProjection lib siteId reading.side reading.now reading.row

/-- The tables behind the reading. -/
def observe (tables : TreatmentTables) : TreatmentTables :=
  observeSide lib siteId reading.side reading.now reading.eventUuid reading.row tables

/-- The tables with the current row of the side. -/
def upserted (tables : TreatmentTables) : TreatmentTables :=
  { tables with
    optical := (upsertOpticalCurrentAndHistory lib siteId reading.side reading.now reading.row
      tables.optical).1 }

/-- What `update_ap_optical_treatment` reads after the upsert. -/
def observation (tables : TreatmentTables) (projection : OpticalProjection) :
    TreatmentObservation :=
  { apIdentity := projection.apIdentity
    sourceRow := reading.row, now := reading.now, eventUuid := reading.eventUuid
    apRow := (reading.upserted lib siteId tables).sideRow projection.apIdentity .ap
    switchRow := (reading.upserted lib siteId tables).sideRow projection.apIdentity .switch }

/-- The reading has no data for its side: the status of the side is one of
`OPTICAL_NO_DATA_STATUSES`, or the source row is not valid and the side shows no issue. -/
def NoData (tables : TreatmentTables) : Prop :=
  ∀ projection, reading.projection lib siteId = some projection →
    canonicalStatus lib (.str projection.status) ∈ opticalNoDataStatuses ∨
      canonicalStatus lib (.str projection.status) ∉ opticalIssueStatuses ∧
        (reading.observation lib siteId tables projection).sourceIsNonValid lib = true

end SideReading

section Runs

variable (lib : RetentionLibrary) (siteId : String)

/-- The tables after some readings. -/
def treatedAfter (readings : List SideReading) : TreatmentTables :=
  readings.foldl (fun tables reading => reading.observe lib siteId tables) .empty

/-- The observations that are made of some readings. -/
def observationsFrom (tables : TreatmentTables) : List SideReading → List TreatmentObservation
  | [] => []
  | reading :: readings =>
    ((reading.projection lib siteId).map (reading.observation lib siteId tables)).toList ++
      observationsFrom (reading.observe lib siteId tables) readings

end Runs

/-- What the fingerprint of an observation is taken of. -/
def TreatmentObservation.fingerprinted (lib : RetentionLibrary)
    (observation : TreatmentObservation) : Json :=
  .obj [("source_revision", .str (sourceRevisionOf lib observation.sourceRow)),
    ("sides", .obj
      ((observation.apRow.toList.map fun row => ("AP", sideFingerprint lib row)) ++
        observation.switchRow.toList.map fun row => ("SWITCH", sideFingerprint lib row)))]

/-- No two different values among the observations have one SHA-256. -/
def CollisionFree (lib : RetentionLibrary) (observations : List TreatmentObservation) : Prop :=
  ∀ one ∈ observations, ∀ two ∈ observations, one.fingerprint lib = two.fingerprint lib →
    one.fingerprinted lib = two.fingerprinted lib

/-! ## What holds of an access point -/

namespace TreatmentTables

/-- The open events of an access point. -/
def openEvents (tables : TreatmentTables) (apIdentity : String) : List TreatmentEvent :=
  (tables.eventsOf apIdentity).filter fun event => event.eventStatus = .open'

/-- An event of the access point is open. -/
def HasOpen (tables : TreatmentTables) (apIdentity : String) : Prop :=
  ∃ event ∈ tables.eventsOf apIdentity, event.eventStatus = .open'

/-- A side of the access point shows an issue. -/
def ShowsIssue (lib : RetentionLibrary) (tables : TreatmentTables) (apIdentity : String) : Prop :=
  ∃ side row, tables.sideRow apIdentity side = some row ∧
    canonicalStatus lib (.str row.status) ∈ opticalIssueStatuses

/-- The treatment agrees with the events. -/
structure Agrees (tables : TreatmentTables) (apIdentity : String)
    (treatment : Treatment) : Prop where
  abnormal : treatment.currentStatus = .abnormal ↔ tables.HasOpen apIdentity
  recurrence : (treatment.recurrenceCount : Int) =
    max (((tables.eventsOf apIdentity).length : Int) - 1) 0

/-- At most one event is open, and the treatment agrees with the events. -/
structure Lifecycle (tables : TreatmentTables) (apIdentity : String) : Prop where
  oneOpen : (tables.openEvents apIdentity).length ≤ 1
  treated : ∀ treatment, tables.treatments apIdentity = some treatment →
    tables.Agrees apIdentity treatment
  untreated : tables.treatments apIdentity = none → tables.eventsOf apIdentity = []

/-- Treatments and events are the same. -/
def Untouched (before after : TreatmentTables) : Prop :=
  after.treatments = before.treatments ∧ after.events = before.events

/-- No event is added, opened or resolved, and no treatment changes its status or its count. -/
structure SameLifecycle (before after : TreatmentTables) : Prop where
  events : (after.events.map fun event => (event.id, event.apIdentity, event.eventStatus)) =
    before.events.map fun event => (event.id, event.apIdentity, event.eventStatus)
  treatments : ∀ apIdentity,
    ((after.treatments apIdentity).map fun treatment =>
      (treatment.currentStatus, treatment.recurrenceCount)) =
    (before.treatments apIdentity).map fun treatment =>
      (treatment.currentStatus, treatment.recurrenceCount)

end TreatmentTables

/-! ## The events of an access point -/

namespace TreatmentTables

variable {tables : TreatmentTables} {event : TreatmentEvent}

theorem mem_eventsOf {apIdentity : String} : event ∈ tables.eventsOf apIdentity ↔
      event ∈ tables.events ∧ event.apIdentity = apIdentity := by
  simp [eventsOf]

/-- Ids tell events apart, and all events of an access point but the last are resolved. -/
structure Ordered (tables : TreatmentTables) : Prop where
  identified : ∀ one ∈ tables.events, ∀ two ∈ tables.events, one.id = two.id → one = two
  bounded : ∀ event ∈ tables.events, event.id ≤ tables.lastEventId
  resolvedBefore : ∀ apIdentity, ∀ event ∈ (tables.eventsOf apIdentity).dropLast,
    event.eventStatus = .resolved

theorem not_open_of_resolved (resolved : event.eventStatus = .resolved) :
    event.eventStatus ≠ .open' := by
  rw [resolved]
  decide

theorem resolved_of_not_open (other : event.eventStatus ≠ .open') :
    event.eventStatus = .resolved := by
  cases status : event.eventStatus with
  | open' => exact absurd status other
  | resolved => rfl

theorem filter_open_of_resolved {events : List TreatmentEvent}
    (resolved : ∀ event ∈ events, event.eventStatus = .resolved) :
    (events.filter fun event => event.eventStatus = .open') = [] := by
  rw [filter_eq_nil_iff]
  intro event mem
  simp [resolved event mem]

variable (ordered : tables.Ordered)
include ordered

/-- Either every event of the access point is resolved, or exactly the last one is open. -/
theorem Ordered.openRow_cases (apIdentity : String) : (tables.openRow apIdentity = none ∧
        ∀ event ∈ tables.eventsOf apIdentity, event.eventStatus = .resolved) ∨
      ∃ earlier current, tables.openRow apIdentity = some current ∧
        tables.eventsOf apIdentity = earlier ++ [current] ∧ current.eventStatus = .open' ∧
        ∀ event ∈ earlier, event.eventStatus = .resolved := by
  have resolvedBefore := ordered.resolvedBefore apIdentity
  rcases eq_nil_or_concat (tables.eventsOf apIdentity) with nil | ⟨earlier, last, concat⟩
  · left
    simp [openRow, nil]
  · rw [concat_eq_append] at concat
    rw [concat, dropLast_concat] at resolvedBefore
    have filtered := filter_open_of_resolved resolvedBefore
    by_cases isOpen : last.eventStatus = .open'
    · right
      refine ⟨earlier, last, ?_, concat, isOpen, resolvedBefore⟩
      simp [openRow, concat, filtered, isOpen]
    · left
      constructor
      · simp [openRow, concat, filtered, isOpen]
      · intro event mem
        rw [concat, mem_append, mem_singleton] at mem
        rcases mem with before | rfl
        · exact resolvedBefore event before
        · exact resolved_of_not_open isOpen

/-- The events of one access point become others, and ids still tell all events apart. -/
structure Turned (before after : TreatmentTables) (apIdentity : String)
    (events : List TreatmentEvent) : Prop where
  ordered : after.Ordered
  same : after.eventsOf apIdentity = events
  others : ∀ other, other ≠ apIdentity → after.eventsOf other = before.eventsOf other

variable {values : TreatmentEvent}

theorem Ordered.replaceEvent {current : TreatmentEvent} {earlier : List TreatmentEvent}
    (events : tables.eventsOf current.apIdentity = earlier ++ [current])
    (isOpen : current.eventStatus = .open')
    (resolved : ∀ event ∈ earlier, event.eventStatus = .resolved) (sameId : values.id = current.id)
    (sameIdentity : values.apIdentity = current.apIdentity) :
    Turned tables (tables.replaceEvent values) current.apIdentity (earlier ++ [values]) := by
  have stored : current ∈ tables.events :=
    (mem_eventsOf.mp (events ▸ mem_append_right _ (mem_singleton_self current))).1
  have replaced : ∀ event ∈ tables.events, event.id = values.id → event = current := by
    intro event mem same
    exact ordered.identified event mem current stored (same.trans sameId)
  have mapped : ∀ other, (tables.replaceEvent values).eventsOf other =
      (tables.eventsOf other).map fun event => if event.id = values.id then values else event := by
    intro other
    unfold eventsOf TreatmentTables.replaceEvent
    rw [filter_map]
    congr 1
    apply filter_congr
    intro event mem
    by_cases same : event.id = values.id
    · simp [replaced event mem same, sameId.symm, sameIdentity]
    · simp [same]
  have same : (tables.replaceEvent values).eventsOf current.apIdentity = earlier ++ [values] := by
    rw [mapped, events, map_append, map_singleton, if_pos sameId.symm]
    congr 1
    conv_rhs => rw [← map_id earlier]
    apply map_congr_left
    intro event mem
    rw [if_neg, id]
    intro same
    have eventMember : event ∈ tables.events :=
      (mem_eventsOf.mp (events ▸ mem_append_left _ mem)).1
    obtain rfl := replaced event eventMember same
    exact not_open_of_resolved (resolved _ mem) isOpen
  have others : ∀ other, other ≠ current.apIdentity →
      (tables.replaceEvent values).eventsOf other = tables.eventsOf other := by
    intro other different
    rw [mapped]
    conv_rhs => rw [← map_id (tables.eventsOf other)]
    apply map_congr_left
    intro event mem
    rw [if_neg, id]
    intro same
    obtain ⟨eventMember, identity⟩ := mem_eventsOf.mp mem
    obtain rfl := replaced event eventMember same
    exact different identity.symm
  refine ⟨⟨?_, ?_, ?_⟩, same, others⟩
  · intro one oneMember two twoMember sameIds
    obtain ⟨first, firstMember, rfl⟩ := mem_map.mp oneMember
    obtain ⟨second, secondMember, rfl⟩ := mem_map.mp twoMember
    by_cases firstSame : first.id = values.id <;> by_cases secondSame : second.id = values.id
    · rw [if_pos firstSame, if_pos secondSame]
    · rw [if_pos firstSame, if_neg secondSame] at sameIds
      exact absurd sameIds.symm secondSame
    · rw [if_neg firstSame, if_pos secondSame] at sameIds
      exact absurd sameIds firstSame
    · rw [if_neg firstSame, if_neg secondSame] at sameIds ⊢
      exact ordered.identified first firstMember second secondMember sameIds
  · intro event mem
    obtain ⟨first, firstMember, rfl⟩ := mem_map.mp mem
    by_cases firstSame : first.id = values.id
    · rw [if_pos firstSame, sameId]
      exact ordered.bounded current stored
    · rw [if_neg firstSame]
      exact ordered.bounded first firstMember
  · intro other
    by_cases different : other = current.apIdentity
    · rw [different, same, dropLast_concat]
      exact resolved
    · rw [others other different]
      exact ordered.resolvedBefore other

theorem Ordered.insertEvent
    (resolved : ∀ event ∈ tables.eventsOf values.apIdentity, event.eventStatus = .resolved)
    (next : values.id = tables.lastEventId + 1) :
    Turned tables (tables.insertEvent values) values.apIdentity
      (tables.eventsOf values.apIdentity ++ [values]) := by
  have same : (tables.insertEvent values).eventsOf values.apIdentity =
      tables.eventsOf values.apIdentity ++ [values] := by
    simp [eventsOf, TreatmentTables.insertEvent, filter_append]
  have others : ∀ other, other ≠ values.apIdentity →
      (tables.insertEvent values).eventsOf other = tables.eventsOf other := by
    intro other different
    simp [eventsOf, TreatmentTables.insertEvent, filter_append, different.symm]
  refine ⟨⟨?_, ?_, ?_⟩, same, others⟩
  · intro one oneMember two twoMember sameIds
    rcases mem_append.mp oneMember with oneOld | oneNew <;>
      rcases mem_append.mp twoMember with twoOld | twoNew
    · exact ordered.identified one oneOld two twoOld sameIds
    · have bound := ordered.bounded one oneOld
      rw [mem_singleton.mp twoNew] at sameIds
      omega
    · have bound := ordered.bounded two twoOld
      rw [mem_singleton.mp oneNew] at sameIds
      omega
    · rw [mem_singleton.mp oneNew, mem_singleton.mp twoNew]
  · intro event mem
    rcases mem_append.mp mem with old | new
    · have bound := ordered.bounded event old
      simp only [TreatmentTables.insertEvent]
      omega
    · rw [mem_singleton.mp new]
      exact Nat.le_refl _
  · intro other
    by_cases different : other = values.apIdentity
    · rw [different, same, dropLast_concat]
      exact resolved
    · rw [others other different]
      exact ordered.resolvedBefore other

theorem Ordered.turned (apIdentity : String) :
    Turned tables tables apIdentity (tables.eventsOf apIdentity) :=
  ⟨ordered, rfl, fun _ _ => rfl⟩

end TreatmentTables

/-! ## Recording an event -/

section Recording

open TreatmentTables

variable {lib : RetentionLibrary}

/-- The sides that show an issue can be read off what the fingerprint is taken of. -/
theorem abnormalSide_of_fingerprinted {one two : TreatmentObservation}
    (same : one.fingerprinted lib = two.fingerprinted lib) :
    one.abnormalSide lib = two.abnormalSide lib := by
  have sides : ∀ first second : OpticalProjection,
      sideFingerprint lib first = sideFingerprint lib second →
      TreatmentObservation.isAbnormal lib (some first) =
        TreatmentObservation.isAbnormal lib (some second) := by
    intro first second equal
    simp only [sideFingerprint, Json.obj.injEq, List.cons.injEq, Prod.mk.injEq,
      Json.str.injEq] at equal
    have status : TreatmentObservation.statusOf lib (some first) =
        TreatmentObservation.statusOf lib (some second) := equal.2.1.2
    unfold TreatmentObservation.isAbnormal
    rw [status]
  simp only [TreatmentObservation.fingerprinted, Json.obj.injEq, List.cons.injEq,
    Prod.mk.injEq] at same
  have rows := same.2.1.2
  unfold TreatmentObservation.abnormalSide
  cases apOne : one.apRow <;> cases apTwo : two.apRow <;> cases switchOne : one.switchRow <;>
    cases switchTwo : two.switchRow <;> simp [apTwo, switchOne, switchTwo] at rows
  all_goals grind

/-- The open event was last written for an observation that shows an issue. -/
structure EventsKept (lib : RetentionLibrary) (observed : List TreatmentObservation)
    (tables : TreatmentTables) : Prop where
  ordered : tables.Ordered
  traced : ∀ apIdentity, ∀ event ∈ tables.eventsOf apIdentity, event.eventStatus = .open' →
    ∃ observation ∈ observed, observation.abnormalSide lib ≠ .none' ∧
      event.lastObservationFingerprint = observation.fingerprint lib

variable {tables : TreatmentTables} {apIdentity : String}

theorem hasOpen_of_concat {earlier : List TreatmentEvent} {last : TreatmentEvent}
    (events : tables.eventsOf apIdentity = earlier ++ [last]) (isOpen : last.eventStatus = .open') :
    tables.HasOpen apIdentity := by
  refine ⟨last, ?_, isOpen⟩
  rw [events]
  exact mem_append_right _ (mem_singleton_self last)

theorem not_hasOpen_of_resolved
    (resolved : ∀ event ∈ tables.eventsOf apIdentity, event.eventStatus = .resolved) :
    ¬tables.HasOpen apIdentity := by
  rintro ⟨event, mem, isOpen⟩
  exact not_open_of_resolved (resolved event mem) isOpen

variable {observation : TreatmentObservation} {observed : List TreatmentObservation}

theorem EventsKept.turned {before after : TreatmentTables} {events : List TreatmentEvent}
    (kept : EventsKept lib observed before)
    (turned : Turned before after observation.apIdentity events)
    (traced : ∀ event ∈ events, event.eventStatus = .open' →
      event ∈ before.eventsOf observation.apIdentity ∨ observation.abnormalSide lib ≠ .none' ∧
          event.lastObservationFingerprint = observation.fingerprint lib) :
    EventsKept lib (observed ++ [observation]) after := by
  have earlier : ∀ apIdentity, ∀ event ∈ before.eventsOf apIdentity, event.eventStatus = .open' →
      ∃ other ∈ observed ++ [observation], other.abnormalSide lib ≠ .none' ∧
        event.lastObservationFingerprint = other.fingerprint lib := by
    intro apIdentity event mem isOpen
    obtain ⟨other, known, shown⟩ := kept.traced apIdentity event mem isOpen
    exact ⟨other, mem_append_left _ known, shown⟩
  refine ⟨turned.ordered, ?_⟩
  intro apIdentity event mem isOpen
  by_cases same : apIdentity = observation.apIdentity
  · subst same
    rw [turned.same] at mem
    rcases traced event mem isOpen with old | new
    · exact earlier _ event old isOpen
    · exact ⟨observation, mem_append_right _ (mem_singleton_self _), new⟩
  · rw [turned.others apIdentity same] at mem
    exact earlier apIdentity event mem isOpen

theorem recordTreatmentEvent_keeps (kept : EventsKept lib observed tables)
    (free : CollisionFree lib (observed ++ [observation])) (metadata : TreatmentMetadata) :
    EventsKept lib (observed ++ [observation])
        (recordTreatmentEvent lib observation metadata tables) ∧
      ((recordTreatmentEvent lib observation metadata tables).HasOpen observation.apIdentity ↔
        observation.abnormalSide lib ≠ .none') ∧
      ∀ other, other ≠ observation.apIdentity →
        (recordTreatmentEvent lib observation metadata tables).eventsOf other =
          tables.eventsOf other := by
  unfold recordTreatmentEvent
  rcases kept.ordered.openRow_cases observation.apIdentity with
    ⟨noRow, resolved⟩ | ⟨earlier, current, row, events, isOpen, resolved⟩
  · rw [noRow]
    simp only
    by_cases shown : observation.abnormalSide lib = .none'
    · rw [if_neg (not_not.mpr shown)]
      refine ⟨kept.turned (kept.ordered.turned _) fun event mem _ => .inl mem, ?_,
        fun _ _ => rfl⟩
      exact iff_of_false (not_hasOpen_of_resolved resolved) (not_not.mpr shown)
    · rw [if_pos shown]
      have turned : Turned tables
          (tables.insertEvent (observation.opened lib metadata (tables.lastEventId + 1)))
          observation.apIdentity _ := kept.ordered.insertEvent resolved rfl
      refine ⟨kept.turned turned ?_, iff_of_true (hasOpen_of_concat turned.same rfl) shown,
        turned.others⟩
      intro event mem _
      rcases mem_append.mp mem with old | new
      · exact .inl old
      · rw [mem_singleton.mp new]
        exact .inr ⟨shown, rfl⟩
  · rw [row]
    simp only
    have identity : current.apIdentity = observation.apIdentity :=
      (mem_eventsOf.mp (events ▸ mem_append_right _ (mem_singleton_self current))).2
    have traced := kept.traced observation.apIdentity current
      (events ▸ mem_append_right _ (mem_singleton_self current)) isOpen
    by_cases repeated : current.lastObservationFingerprint = observation.fingerprint lib
    · rw [if_pos repeated]
      have shown : observation.abnormalSide lib ≠ .none' := by
        obtain ⟨other, known, shown, same⟩ := traced
        have equal := free other (mem_append_left _ known) observation
          (mem_append_right _ (mem_singleton_self _)) (same.symm.trans repeated)
        rwa [abnormalSide_of_fingerprinted equal] at shown
      exact ⟨kept.turned (kept.ordered.turned _) fun event mem _ => .inl mem,
        iff_of_true (hasOpen_of_concat events isOpen) shown, fun _ _ => rfl⟩
    · rw [if_neg repeated]
      rw [← identity] at events
      by_cases shown : observation.abnormalSide lib = .none'
      · rw [if_neg (not_not.mpr shown)]
        have turned : Turned tables
            (tables.replaceEvent (observation.resolvedEvent lib metadata current))
            current.apIdentity _ := kept.ordered.replaceEvent events isOpen resolved rfl rfl
        rw [identity] at turned
        have nowResolved : ∀ event ∈ earlier ++ [observation.resolvedEvent lib metadata current],
            event.eventStatus = .resolved := by
          intro event mem
          rcases mem_append.mp mem with old | new
          · exact resolved event old
          · rw [mem_singleton.mp new]
            rfl
        refine ⟨kept.turned turned ?_,
          iff_of_false (not_hasOpen_of_resolved ?_) (not_not.mpr shown),
          turned.others⟩
        · intro event mem stillOpen
          exact absurd stillOpen (not_open_of_resolved (nowResolved event mem))
        · rw [turned.same]
          exact nowResolved
      · rw [if_pos shown]
        have turned : Turned tables
            (tables.replaceEvent (observation.continued lib metadata current))
            current.apIdentity _ := kept.ordered.replaceEvent events isOpen resolved rfl rfl
        rw [identity] at turned
        refine ⟨kept.turned turned ?_, iff_of_true (hasOpen_of_concat turned.same rfl) shown,
          turned.others⟩
        intro event mem stillOpen
        rcases mem_append.mp mem with old | new
        · exact absurd stillOpen (not_open_of_resolved (resolved event old))
        · rw [mem_singleton.mp new]
          exact .inr ⟨shown, rfl⟩

/-- An observation without an issue leaves the number of events as it is. -/
theorem length_recordTreatmentEvent (ordered : tables.Ordered)
    (normal : observation.abnormalSide lib = .none') (metadata : TreatmentMetadata) :
    ((recordTreatmentEvent lib observation metadata tables).eventsOf
      observation.apIdentity).length = (tables.eventsOf observation.apIdentity).length := by
  unfold recordTreatmentEvent
  rcases ordered.openRow_cases observation.apIdentity with
    ⟨noRow, _⟩ | ⟨earlier, current, row, events, isOpen, resolved⟩
  · rw [noRow]
    simp only
    rw [if_neg (not_not.mpr normal)]
  · rw [row]
    simp only
    by_cases repeated : current.lastObservationFingerprint = observation.fingerprint lib
    · rw [if_pos repeated]
    · have identity : current.apIdentity = observation.apIdentity :=
        (mem_eventsOf.mp (events ▸ mem_append_right _ (mem_singleton_self current))).2
      rw [if_neg repeated, if_neg (not_not.mpr normal), ← identity]
      rw [← identity] at events
      have turned : Turned tables
          (tables.replaceEvent (observation.resolvedEvent lib metadata current))
          current.apIdentity _ := ordered.replaceEvent events isOpen resolved rfl rfl
      rw [turned.same, events, length_append, length_append]
      rfl

theorem sameEvents_recordTreatmentEvent (ordered : tables.Ordered)
    (isOpen : tables.HasOpen observation.apIdentity)
    (shown : observation.abnormalSide lib ≠ .none') (metadata : TreatmentMetadata) :
    ((recordTreatmentEvent lib observation metadata tables).events.map fun event =>
        (event.id, event.apIdentity, event.eventStatus)) =
      tables.events.map fun event => (event.id, event.apIdentity, event.eventStatus) := by
  unfold recordTreatmentEvent
  rcases ordered.openRow_cases observation.apIdentity with
    ⟨_, resolved⟩ | ⟨earlier, current, row, events, currentOpen, _⟩
  · exact absurd isOpen (not_hasOpen_of_resolved resolved)
  · rw [row]
    simp only
    by_cases repeated : current.lastObservationFingerprint = observation.fingerprint lib
    · rw [if_pos repeated]
    · rw [if_neg repeated, if_pos shown]
      unfold TreatmentTables.replaceEvent
      rw [map_map]
      apply map_congr_left
      intro event mem
      have stored : current ∈ tables.events :=
        (mem_eventsOf.mp (events ▸ mem_append_right _ (mem_singleton_self current))).1
      by_cases same : event.id = current.id
      · have equal := ordered.identified event mem current stored same
        subst equal
        simp [TreatmentObservation.continued, currentOpen]
      · have other : event.id ≠ (observation.continued lib metadata current).id := same
        simp [other]

end Recording

/-! ## The whole update -/

section Update

open TreatmentTables

variable {lib : RetentionLibrary} {siteId : String}

/-- What holds of treatments and events after some observations. -/
structure EventsTreated (lib : RetentionLibrary) (observed : List TreatmentObservation)
    (tables : TreatmentTables) : Prop where
  kept : EventsKept lib observed tables
  treated : ∀ apIdentity treatment, tables.treatments apIdentity = some treatment →
    tables.Agrees apIdentity treatment
  untreated : ∀ apIdentity, tables.treatments apIdentity = none → tables.eventsOf apIdentity = []

/-- What holds of all tables between two readings. -/
structure Treated (lib : RetentionLibrary) (observed : List TreatmentObservation)
    (tables : TreatmentTables) : Prop extends EventsTreated lib observed tables where
  shown : ∀ apIdentity, tables.ShowsIssue lib apIdentity → tables.HasOpen apIdentity

theorem Treated.empty (lib : RetentionLibrary) : Treated lib [] .empty := by
  refine ⟨⟨⟨⟨?_, ?_, ?_⟩, ?_⟩, ?_, fun _ _ => rfl⟩, ?_⟩
  · intro one mem
    cases mem
  · intro event mem
    cases mem
  · intro apIdentity event mem
    cases mem
  · intro apIdentity event mem
    cases mem
  · intro apIdentity treatment stored
    cases stored
  · rintro apIdentity ⟨_, _, stored, _⟩
    cases stored

theorem Treated.lifecycle {observed : List TreatmentObservation} {tables : TreatmentTables}
    (treated : Treated lib observed tables) (apIdentity : String) :
    tables.Lifecycle apIdentity := by
  refine ⟨?_, treated.treated apIdentity, treated.untreated apIdentity⟩
  unfold openEvents
  rcases treated.kept.ordered.openRow_cases apIdentity with
    ⟨_, resolved⟩ | ⟨earlier, current, _, events, _, resolved⟩
  · rw [filter_open_of_resolved resolved]
    exact Nat.zero_le 1
  · rw [events, filter_append, filter_open_of_resolved resolved, nil_append]
    exact length_filter_le _ [current]

/-- No row, no issue: the empty status folds to itself. -/
theorem isAbnormal_none (foldsEmpty : lib.python.casefold "" = "") :
    TreatmentObservation.isAbnormal lib none = false := by
  have text : textOf lib (.str "") = "" := rfl
  simp [TreatmentObservation.isAbnormal, TreatmentObservation.statusOf, canonicalStatus, text,
    foldsEmpty, opticalIssueStatuses]

theorem isAbnormal_iff (foldsEmpty : lib.python.casefold "" = "")
    (row : Option OpticalProjection) : TreatmentObservation.isAbnormal lib row = true ↔
      ∃ found, row = some found ∧
        canonicalStatus lib (.str found.status) ∈ opticalIssueStatuses := by
  cases row with
  | none => simp [isAbnormal_none foldsEmpty]
  | some found =>
    unfold TreatmentObservation.isAbnormal
    rw [decide_eq_true_iff]
    constructor
    · intro issue
      exact ⟨found, rfl, issue⟩
    · rintro ⟨_, same, issue⟩
      rwa [← Option.some.inj same] at issue

theorem abnormalSide_ne_none (observation : TreatmentObservation) :
    observation.abnormalSide lib ≠ .none' ↔
      TreatmentObservation.isAbnormal lib observation.apRow = true ∨
        TreatmentObservation.isAbnormal lib observation.switchRow = true := by
  unfold TreatmentObservation.abnormalSide
  cases TreatmentObservation.isAbnormal _ observation.apRow <;>
    cases TreatmentObservation.isAbnormal _ observation.switchRow <;> simp

namespace SideReading

variable {reading : SideReading} {tables : TreatmentTables} {projection : OpticalProjection}

theorem upsert_of_none (refused : reading.projection lib siteId = none) (tables : OpticalTables) :
    upsertOpticalCurrentAndHistory lib siteId reading.side reading.now reading.row tables =
      (tables, none) := by
  unfold SideReading.projection at refused
  rw [upsertOpticalCurrentAndHistory, opticalObservation, refused, Option.map_none]

theorem upsert_of_some (projected : reading.projection lib siteId = some projection)
    (tables : OpticalTables) :
    upsertOpticalCurrentAndHistory lib siteId reading.side reading.now reading.row tables =
      (tables.record opticalRules false { projection, now := reading.now }, some projection) := by
  unfold SideReading.projection at projected
  rw [upsertOpticalCurrentAndHistory, opticalObservation, projected, Option.map_some]

theorem observe_of_none (refused : reading.projection lib siteId = none) :
    reading.observe lib siteId tables = tables := by
  rw [observe, observeSide, upsert_of_none refused]

variable (projected : reading.projection lib siteId = some projection)
include projected

theorem observe_of_some : reading.observe lib siteId tables =
      updateApOpticalTreatment lib siteId (reading.observation lib siteId tables projection)
        (reading.upserted lib siteId tables) := by
  rw [observe, observeSide, observation, upserted, upsert_of_some projected]

theorem side_projection : projection.side = reading.side := by
  unfold SideReading.projection buildOpticalProjection at projected
  obtain ⟨_, _, built⟩ := Option.bind_eq_some_iff.mp projected
  simp only at built
  split at built
  · cases built
  · cases built
    rfl

theorem sideRow_upserted (apIdentity : String) (side : OpticalSide) :
    (reading.upserted lib siteId tables).sideRow apIdentity side =
      if apIdentity = projection.apIdentity ∧ side = reading.side then some projection
      else tables.sideRow apIdentity side := by
  have sameSide := side_projection projected
  rw [TreatmentTables.sideRow, TreatmentTables.sideRow, upserted, upsert_of_some projected]
  obtain ⟨row, written, current⟩ := HistoryTables.current_record tables.optical opticalRules
    { projection, now := reading.now }
  have columns : row.columns = projection := by
    rcases written with rfl | ⟨_, _, rfl⟩ <;> rfl
  rw [current]
  by_cases here : apIdentity = projection.apIdentity ∧ side = reading.side
  · obtain ⟨rfl, rfl⟩ := here
    simp [opticalRules, sameSide, columns]
  · have elsewhere : (apIdentity, side) ≠
        opticalRules.entityOf { projection, now := reading.now } := by
      intro same
      apply here
      simp only [opticalRules, Prod.mk.injEq, sameSide] at same
      exact same
    rw [Function.update_of_ne elsewhere, if_neg here]

omit projected

theorem eventsOf_upserted (apIdentity : String) :
    (reading.upserted lib siteId tables).eventsOf apIdentity = tables.eventsOf apIdentity := by
  simp only [TreatmentTables.eventsOf, upserted]

variable (siteId reading tables projection) in
theorem abnormalSide_observation (foldsEmpty : lib.python.casefold "" = "") :
    (reading.observation lib siteId tables projection).abnormalSide lib ≠ .none' ↔
      (reading.upserted lib siteId tables).ShowsIssue lib projection.apIdentity := by
  have apRow : (reading.observation lib siteId tables projection).apRow =
      (reading.upserted lib siteId tables).sideRow projection.apIdentity .ap := by
    simp only [observation]
  have switchRow : (reading.observation lib siteId tables projection).switchRow =
      (reading.upserted lib siteId tables).sideRow projection.apIdentity .switch := by
    simp only [observation]
  rw [abnormalSide_ne_none, isAbnormal_iff foldsEmpty, isAbnormal_iff foldsEmpty, apRow, switchRow]
  unfold TreatmentTables.ShowsIssue
  constructor
  · rintro (ap | switch)
    · exact ⟨.ap, ap⟩
    · exact ⟨.switch, switch⟩
  · rintro ⟨side, shown⟩
    cases side with
    | ap => exact .inl shown
    | switch => exact .inr shown

end SideReading

variable {tables : TreatmentTables} {treatment : Treatment} {apIdentity : String}

/-- The update sets the treatment of its access point at most. -/
theorem setTreatment_of_ne {other : String} (different : other ≠ apIdentity) :
    (tables.setTreatment apIdentity treatment).treatments other = tables.treatments other :=
  Function.update_of_ne different _ _

theorem setTreatment_self :
    (tables.setTreatment apIdentity treatment).treatments apIdentity = some treatment :=
  Function.update_self _ _ _

variable {before after : TreatmentTables}

section

variable {observed : List TreatmentObservation}

theorem EventsKept.congr
    (kept : EventsKept lib observed before) (events : after.events = before.events)
    (lastEventId : after.lastEventId = before.lastEventId) : EventsKept lib observed after := by
  have eventsOf : ∀ apIdentity, after.eventsOf apIdentity = before.eventsOf apIdentity := by
    intro apIdentity
    rw [TreatmentTables.eventsOf, events, TreatmentTables.eventsOf]
  refine ⟨⟨?_, ?_, ?_⟩, ?_⟩
  · rw [events]
    exact kept.ordered.identified
  · rw [events, lastEventId]
    exact kept.ordered.bounded
  · intro apIdentity
    rw [eventsOf]
    exact kept.ordered.resolvedBefore apIdentity
  · intro apIdentity
    rw [eventsOf]
    exact kept.traced apIdentity

theorem TreatmentTables.Agrees.congr (agrees : before.Agrees apIdentity treatment)
    (eventsOf : after.eventsOf apIdentity = before.eventsOf apIdentity) :
    after.Agrees apIdentity treatment := by
  constructor
  · rw [agrees.abnormal, HasOpen, HasOpen, eventsOf]
  · rw [agrees.recurrence, eventsOf]

variable (siteId) in
theorem EventsTreated.upserted
    (treated : EventsTreated lib observed tables) (reading : SideReading) :
    EventsTreated lib observed (reading.upserted lib siteId tables) := by
  refine ⟨treated.kept.congr (by simp only [SideReading.upserted])
    (by simp only [SideReading.upserted]), ?_, ?_⟩
  · intro apIdentity treatment stored
    exact (treated.treated apIdentity treatment stored).congr
      (SideReading.eventsOf_upserted apIdentity)
  · intro apIdentity missing
    rw [SideReading.eventsOf_upserted]
    exact treated.untreated apIdentity missing

end

theorem EventsTreated.observed {observed : List TreatmentObservation}
    (treated : EventsTreated lib observed tables) (observation : TreatmentObservation) :
    EventsTreated lib (observed ++ [observation]) tables := by
  refine ⟨treated.kept.turned (treated.kept.ordered.turned _) fun event mem _ => .inl mem,
    treated.treated, treated.untreated⟩

variable {observed : List TreatmentObservation}

/-- Setting the treatment of an access point whose events have turned. -/
theorem EventsTreated.setTreatment
    {earlier : List TreatmentObservation} (treated : EventsTreated lib earlier before)
    (kept : EventsKept lib observed after) (treatments : after.treatments = before.treatments)
    (others : ∀ other, other ≠ apIdentity → after.eventsOf other = before.eventsOf other)
    (agrees : after.Agrees apIdentity treatment) :
    EventsTreated lib observed (after.setTreatment apIdentity treatment) := by
  have eventsOf : ∀ other, (after.setTreatment apIdentity treatment).eventsOf other =
      after.eventsOf other := by
    intro other
    simp only [TreatmentTables.eventsOf, TreatmentTables.setTreatment]
  refine ⟨kept.congr (by simp only [TreatmentTables.setTreatment])
    (by simp only [TreatmentTables.setTreatment]), ?_, ?_⟩
  · intro other stored found
    by_cases same : other = apIdentity
    · subst same
      rw [setTreatment_self] at found
      cases found
      exact agrees.congr (eventsOf _)
    · rw [setTreatment_of_ne same, treatments] at found
      exact (treated.treated other stored found).congr ((eventsOf other).trans (others other same))
  · intro other missing
    by_cases same : other = apIdentity
    · subst same
      rw [setTreatment_self] at missing
      cases missing
    · rw [setTreatment_of_ne same, treatments] at missing
      rw [eventsOf, others other same]
      exact treated.untreated other missing

variable {observation : TreatmentObservation} {metadata : TreatmentMetadata}

theorem treatments_recordTreatmentEvent :
    (recordTreatmentEvent lib observation metadata tables).treatments = tables.treatments := by
  unfold recordTreatmentEvent
  split
  · split
    · rfl
    · split <;> rfl
  · split <;> rfl

theorem optical_recordTreatmentEvent :
    (recordTreatmentEvent lib observation metadata tables).optical = tables.optical := by
  unfold recordTreatmentEvent
  split
  · split
    · rfl
    · split <;> rfl
  · split <;> rfl

theorem sideRow_updateApOpticalTreatment (observation : TreatmentObservation)
    (tables : TreatmentTables) (apIdentity : String) (side : OpticalSide) :
    (updateApOpticalTreatment lib siteId observation tables).sideRow apIdentity side =
      tables.sideRow apIdentity side := by
  have optical : (updateApOpticalTreatment lib siteId observation tables).optical =
      tables.optical := by
    unfold updateApOpticalTreatment
    split
    · rfl
    · simp only
      split
      · exact optical_recordTreatmentEvent
      · split <;> exact optical_recordTreatmentEvent
  rw [TreatmentTables.sideRow, optical, TreatmentTables.sideRow]

variable (siteId) in
theorem updateApOpticalTreatment_keeps (treated : EventsTreated lib observed tables)
    (free : CollisionFree lib (observed ++ [observation])) :
    EventsTreated lib (observed ++ [observation])
        (updateApOpticalTreatment lib siteId observation tables) ∧
      (observation.leavesEarly lib = false →
        ((updateApOpticalTreatment lib siteId observation tables).HasOpen
          observation.apIdentity ↔ observation.abnormalSide lib ≠ .none')) ∧
      ∀ other, other ≠ observation.apIdentity →
        (updateApOpticalTreatment lib siteId observation tables).eventsOf other =
          tables.eventsOf other := by
  unfold updateApOpticalTreatment
  by_cases early : observation.leavesEarly lib = true
  · rw [if_pos early]
    refine ⟨treated.observed observation, ?_, fun _ _ => rfl⟩
    intro stays
    rw [early] at stays
    cases stays
  · rw [if_neg early]
    simp only
    generalize observation.metadata _ _ (tables.treatments observation.apIdentity) = metadata
    obtain ⟨kept, isOpen, others⟩ := recordTreatmentEvent_keeps treated.kept free metadata
    have length : observation.abnormalSide lib = .none' → _ := fun normal =>
      length_recordTreatmentEvent treated.kept.ordered normal metadata
    have treatments : (recordTreatmentEvent lib observation metadata tables).treatments =
      tables.treatments := treatments_recordTreatmentEvent
    generalize recordTreatmentEvent _ observation metadata tables = recorded at *
    by_cases shown : observation.abnormalSide lib = .none'
    · rw [if_neg (not_not.mpr shown)]
      cases stored : tables.treatments observation.apIdentity with
      | none =>
        refine ⟨⟨kept, ?_, ?_⟩, fun _ => isOpen, others⟩
        · intro other treatment found
          rw [treatments] at found
          have different : other ≠ observation.apIdentity := by
            rintro rfl
            rw [stored] at found
            cases found
          exact (treated.treated other treatment found).congr (others other different)
        · intro other missing
          by_cases same : other = observation.apIdentity
          · subst same
            rw [← length_eq_zero_iff, length shown, treated.untreated _ stored, length_nil]
          · rw [others other same]
            exact treated.untreated other (treatments ▸ missing)
      | some previous =>
        have agrees := treated.treated _ previous stored
        refine ⟨treated.setTreatment kept treatments others ⟨?_, ?_⟩, fun _ => isOpen, others⟩
        · refine iff_of_false ?_ (fun has => isOpen.mp has shown)
          simp only [normalTreatment]
          split <;> exact fun same => by cases same
        · rw [length shown]
          exact agrees.recurrence
    · rw [if_pos shown]
      refine ⟨treated.setTreatment kept treatments others ⟨?_, ?_⟩, fun _ => isOpen, others⟩
      · refine iff_of_true ?_ (isOpen.mpr shown)
        split <;> rfl
      · have count : ((recorded.recurrenceCount observation.apIdentity : Nat) : Int) =
            max (((recorded.eventsOf observation.apIdentity).length : Int) - 1) 0 := by
          unfold TreatmentTables.recurrenceCount
          omega
        split <;> exact count

theorem Treated.observe
    (treated : Treated lib observed tables) (foldsEmpty : lib.python.casefold "" = "")
    (reading : SideReading) (free : CollisionFree lib (observed ++
      ((reading.projection lib siteId).map (reading.observation lib siteId tables)).toList))
    : Treated lib (observed ++ ((reading.projection lib siteId).map
          (reading.observation lib siteId tables)).toList)
      (reading.observe lib siteId tables) := by
  cases projected : reading.projection lib siteId with
  | none =>
    rw [SideReading.observe_of_none projected, Option.map_none, Option.toList_none, append_nil]
    exact treated
  | some projection =>
    rw [projected, Option.map_some, Option.toList_some] at free
    rw [SideReading.observe_of_some projected, Option.map_some, Option.toList_some]
    have shows := SideReading.abnormalSide_observation siteId reading tables projection foldsEmpty
    obtain ⟨kept, isOpen, others⟩ := updateApOpticalTreatment_keeps siteId
      (treated.toEventsTreated.upserted siteId reading) free
    refine ⟨kept, ?_⟩
    rintro apIdentity ⟨side, row, stored, issue⟩
    rw [sideRow_updateApOpticalTreatment] at stored
    by_cases same : apIdentity = projection.apIdentity
    · subst same
      have shown := shows.mpr ⟨side, row, stored, issue⟩
      refine (isOpen ?_).mpr shown
      simp [TreatmentObservation.leavesEarly, shown]
    · rw [SideReading.sideRow_upserted projected, if_neg (fun here => same here.1)] at stored
      obtain ⟨event, mem, eventOpen⟩ := treated.shown apIdentity ⟨side, row, stored, issue⟩
      refine ⟨event, ?_, eventOpen⟩
      rw [others apIdentity same, SideReading.eventsOf_upserted]
      exact mem

/-! ## Readings without data -/

variable {reading : SideReading} {projection : OpticalProjection}

theorem not_issue_of_noData (noData : reading.NoData lib siteId tables)
    (projected : reading.projection lib siteId = some projection) :
    canonicalStatus lib (.str projection.status) ∉ opticalIssueStatuses := by
  rcases noData projection projected with status | ⟨noIssue, _⟩
  · intro issue
    revert status issue
    generalize canonicalStatus _ (.str projection.status) = status
    intro noStatus issue
    simp only [opticalNoDataStatuses, opticalIssueStatuses, mem_cons, not_mem_nil,
      or_false] at noStatus issue
    rcases issue with rfl | rfl | rfl | rfl | rfl | rfl | rfl <;> simp at noStatus
  · exact noIssue

theorem leavesEarly_of_noData (noData : reading.NoData lib siteId tables)
    (projected : reading.projection lib siteId = some projection)
    (normal : (reading.observation lib siteId tables projection).abnormalSide lib = .none')
    : (reading.observation lib siteId tables projection).leavesEarly lib = true := by
  have stored : (reading.upserted lib siteId tables).sideRow
      projection.apIdentity reading.side =
      _ := SideReading.sideRow_upserted projected projection.apIdentity reading.side
  rw [if_pos ⟨rfl, rfl⟩] at stored
  unfold TreatmentObservation.leavesEarly
  rw [decide_eq_true normal, Bool.true_and, Bool.or_eq_true, Bool.or_eq_true]
  rcases noData projection projected with status | ⟨_, nonValid⟩
  · left; right
    rw [any_eq_true]
    refine ⟨projection, ?_, decide_eq_true status⟩
    cases side : reading.side with
    | ap =>
      apply mem_append_left
      rw [side] at stored
      simp only [SideReading.observation, stored, Option.toList_some, mem_singleton]
    | switch =>
      apply mem_append_right
      rw [side] at stored
      simp only [SideReading.observation, stored, Option.toList_some, mem_singleton]
  · exact .inl (.inl nonValid)

/-- The number of events of an access point can be read off their ids and statuses. -/
theorem length_eventsOf_of_sameEvents
    (same : (after.events.map fun event => (event.id, event.apIdentity, event.eventStatus)) =
      before.events.map fun event => (event.id, event.apIdentity, event.eventStatus))
    (apIdentity : String) :
    (after.eventsOf apIdentity).length = (before.eventsOf apIdentity).length := by
  have counted : ∀ tables : TreatmentTables, (tables.eventsOf apIdentity).length =
      (tables.events.map fun event => (event.id, event.apIdentity, event.eventStatus)).countP
        fun event => event.2.1 = apIdentity := by
    intro tables
    rw [countP_map, countP_eq_length_filter]
    rfl
  rw [counted, counted, same]

/-- What a reading without data does to treatments and events. -/
structure NoDataEffect (lib : RetentionLibrary) (siteId : String) (before : TreatmentTables)
    (reading : SideReading) : Prop where
  untouched : (∀ projection, reading.projection lib siteId = some projection →
      ¬(reading.observe lib siteId before).ShowsIssue lib projection.apIdentity) →
    before.Untouched (reading.observe lib siteId before)
  sameLifecycle : before.SameLifecycle (reading.observe lib siteId before)

theorem sameLifecycle_update (treated : EventsTreated lib observed tables)
    (isOpen : tables.HasOpen observation.apIdentity)
    (shown : observation.abnormalSide lib ≠ .none') :
    tables.SameLifecycle (updateApOpticalTreatment lib siteId observation tables) := by
  have stays : ¬observation.leavesEarly lib = true := by
    simp [TreatmentObservation.leavesEarly, shown]
  unfold updateApOpticalTreatment
  rw [if_neg stays]
  simp only
  generalize observation.metadata _ _ (tables.treatments observation.apIdentity) = metadata
  have events := sameEvents_recordTreatmentEvent treated.kept.ordered isOpen shown metadata
  have treatments : (recordTreatmentEvent lib observation metadata tables).treatments =
    tables.treatments := treatments_recordTreatmentEvent
  have length := length_eventsOf_of_sameEvents events observation.apIdentity
  generalize recordTreatmentEvent _ observation metadata tables = recorded at *
  rw [if_pos shown]
  refine ⟨events, ?_⟩
  intro apIdentity
  by_cases same : apIdentity = observation.apIdentity
  · subst same
    rw [setTreatment_self]
    cases stored : tables.treatments observation.apIdentity with
    | none =>
      obtain ⟨_, mem, _⟩ := isOpen
      rw [treated.untreated _ stored] at mem
      cases mem
    | some previous =>
      have agrees := treated.treated _ previous stored
      have recurrence := agrees.recurrence
      simp only [Option.map_some, abnormalTreatment, agrees.abnormal.mpr isOpen,
        TreatmentTables.recurrenceCount, Option.some.injEq, Prod.mk.injEq, true_and]
      omega
  · rw [setTreatment_of_ne same, treatments]

theorem Treated.noDataEffect
    (treated : Treated lib observed tables) (foldsEmpty : lib.python.casefold "" = "")
    (noData : reading.NoData lib siteId tables) : NoDataEffect lib siteId tables reading := by
  cases projected : reading.projection lib siteId with
  | none =>
    have same : reading.observe lib siteId tables = tables :=
      SideReading.observe_of_none projected
    constructor
    · intro _
      rw [same]
      exact ⟨rfl, rfl⟩
    · rw [same]
      exact ⟨rfl, fun _ => rfl⟩
  | some projection =>
    have shows := SideReading.abnormalSide_observation siteId reading tables projection foldsEmpty
    by_cases normal : (reading.observation lib siteId tables projection).abnormalSide lib =
        .none'
    · have left : reading.observe lib siteId tables = reading.upserted lib siteId tables := by
        rw [SideReading.observe_of_some projected, updateApOpticalTreatment,
          if_pos (leavesEarly_of_noData noData projected normal)]
      rw [SideReading.upserted] at left
      constructor
      · intro _
        rw [left]
        exact ⟨rfl, rfl⟩
      · rw [left]
        exact ⟨rfl, fun _ => rfl⟩
    · have shown := shows.mp normal
      constructor
      · intro noIssue
        refine absurd ?_ (noIssue projection projected)
        obtain ⟨side, row, stored, issue⟩ := shown
        refine ⟨side, row, ?_, issue⟩
        rw [SideReading.observe_of_some projected, sideRow_updateApOpticalTreatment]
        exact stored
      · -- The issue is on the other side, whose row was there before.
        have before : tables.ShowsIssue lib projection.apIdentity := by
          obtain ⟨side, row, stored, issue⟩ := shown
          rw [SideReading.sideRow_upserted projected] at stored
          split at stored
          · rw [← Option.some.inj stored] at issue
            exact absurd issue (not_issue_of_noData noData projected)
          · exact ⟨side, row, stored, issue⟩
        have events : (reading.upserted lib siteId tables).events = tables.events := by
          simp only [SideReading.upserted]
        have treatments : (reading.upserted lib siteId tables).treatments = tables.treatments := by
          simp only [SideReading.upserted]
        have isOpen : (reading.upserted lib siteId tables).HasOpen projection.apIdentity := by
          rw [HasOpen, SideReading.eventsOf_upserted]
          exact treated.shown projection.apIdentity before
        have same : (reading.upserted lib siteId tables).SameLifecycle
            (updateApOpticalTreatment lib siteId (reading.observation lib siteId tables projection)
              (reading.upserted lib siteId tables)) :=
          sameLifecycle_update (treated.toEventsTreated.upserted siteId reading) isOpen normal
        rw [SideReading.observe_of_some projected]
        constructor
        · rw [← events]
          exact same.events
        · rw [← treatments]
          exact same.treatments

/-! ## Runs of readings -/

theorem Treated.run (foldsEmpty : lib.python.casefold "" = "") (readings : List SideReading)
    (treated : Treated lib observed tables)
    (free : CollisionFree lib (observed ++ observationsFrom lib siteId tables readings)) :
    Treated lib (observed ++ observationsFrom lib siteId tables readings)
      (readings.foldl (fun tables reading => reading.observe lib siteId tables) tables) := by
  induction readings generalizing observed tables with
  | nil => simpa [observationsFrom] using treated
  | cons _ readings ih =>
    rw [observationsFrom, ← append_assoc] at free ⊢
    rw [foldl_cons]
    apply ih _ free
    apply treated.observe foldsEmpty _
    intro one oneMember two twoMember same
    exact free one (mem_append_left _ oneMember) two (mem_append_left _ twoMember) same

/-- After every sequence of readings the treatment of each access point agrees with its events,
of which at most one is open, and a further reading without data adds, opens and resolves none. -/
theorem treatment_lifecycle (foldsEmpty : lib.python.casefold "" = "") (readings : List SideReading)
    (free : CollisionFree lib (observationsFrom lib siteId .empty readings)) :
    (∀ apIdentity, (treatedAfter lib siteId readings).Lifecycle apIdentity) ∧
      ∀ reading : SideReading,
        reading.NoData lib siteId (treatedAfter lib siteId readings) →
        NoDataEffect lib siteId (treatedAfter lib siteId readings) reading := by
  have treated := Treated.run foldsEmpty readings (Treated.empty _) free
  constructor
  · intro apIdentity
    exact treated.lifecycle apIdentity
  · intro _ noData
    exact treated.noDataEffect foldsEmpty noData

end Update

/-! ## An access point that goes offline -/

mutual

/-- The JSON text with sorted keys, of texts that need no escapes. -/
def plainDumps : Json → String
  | .str text => "\"" ++ text ++ "\""
  | .obj fields =>
    "\x7b" ++ ",".intercalate (((plainFields fields).insertionSort fun one two => one.1 ≤ two.1).map
      fun field => "\"" ++ field.1 ++ "\":" ++ field.2) ++ "\x7d"
  | .arr items => "[" ++ ",".intercalate (plainItems items) ++ "]"
  | .null => "null"
  | .bool value => if value then "true" else "false"
  | .int value => toString value
  | .float text => text

def plainItems : List Json → List String
  | [] => []
  | item :: items => plainDumps item :: plainItems items

def plainFields : List (String × Json) → List (String × String)
  | [] => []
  | field :: fields => plainField field :: plainFields fields

def plainField : String × Json → String × String
  | (name, value) => (name, plainDumps value)

end

def alarmState : String := "\x7b\"rx_dbm\":\"-30.5\",\"status\":\"alarm\",\"tx_dbm\":\"\"\x7d"

def offlineState : String := "\x7b\"rx_dbm\":\"\",\"status\":\"offline\",\"tx_dbm\":\"\"\x7d"

def alarmStateDigest : String := "374f7e800bf8df2b7b98dcf915cbe852c5832efc544a92b65ae9e68e1cc0dff4"

def offlineStateDigest : String :=
  "8cfca5ae9d55b3cc5680300d9dab2b473098b2f19d1ecd40e21e3b65bbfe4e31"

def alarmSide : String :=
  "\x7b\"collected_at\":\"2026-09-01T00:00:00\",\"rx_dbm\":\"-30.5\",\"state_fingerprint\":\"" ++
  alarmStateDigest ++ "\",\"status\":\"alarm\",\"tx_dbm\":\"\"\x7d"

def offlineSide : String :=
  "\x7b\"collected_at\":\"2026-09-01T00:05:00\",\"rx_dbm\":\"\",\"state_fingerprint\":\"" ++
  offlineStateDigest ++ "\",\"status\":\"offline\",\"tx_dbm\":\"\"\x7d"

/-- The SHA-256 of the texts below. -/
def opticalDigests : List (String × String) :=
  [(alarmState, alarmStateDigest), (offlineState, offlineStateDigest),
    ("\x7b\"sides\":\x7b\"AP\":" ++ alarmSide ++ "\x7d,\"source_revision\":\"r1\"\x7d",
      "c1a13c61cafba37c12349601a60f9acb981903e597d2d1d4b8480c00375c9f3c"),
    ("\x7b\"sides\":\x7b\"AP\":" ++ alarmSide ++ ",\"SWITCH\":" ++ alarmSide ++
        "\x7d,\"source_revision\":\"r1\"\x7d",
      "3b7fc4f85ee13c49e48a0cb71c90928f2ee90d6470aeba36ba683d7a70f73965"),
    ("\x7b\"sides\":\x7b\"AP\":" ++ offlineSide ++ ",\"SWITCH\":" ++ alarmSide ++
        "\x7d,\"source_revision\":\"r2\"\x7d",
      "eac25928a9b49648085eb1a7deb2324e6e903f1b01e23268588590e1fd71a8d5")]

/-- What the libraries compute of the rows below. -/
def opticalLibrary : RetentionLibrary where
  python := { Worker.PythonLibrary.plain with intOfFloat := fun _ => .error .valueError }
  sha256 := fun text => (opticalDigests.lookup text).getD ""
  dumps := plainDumps
  dumpsSorted := plainDumps
  decimalText := some
  decimalLe one two := if one = two then some true else none
  normalizeMacKey _ := none
  evaluateApBusinessRx _ := "unknown"
  normalizeLldpPayload row _ := row
  normalizeInterfaceKey _ := ""
  formatH3cMac := fun _ => ""
  nowIso := "2026-09-01T00:00:00+08:00"

def alarmRow : Event :=
  [("ap_uuid", .str "ap-1"), ("rx_dbm", .str "-30.5"), ("status", .str "alarm"),
    ("collected_at", .str "2026-09-01T00:00:00"), ("source_revision", .str "r1")]

def offlineRow : Event :=
  [("ap_uuid", .str "ap-1"), ("module_model", .str "SFP-GE"), ("status", .str "offline"),
    ("collected_at", .str "2026-09-01T00:05:00"), ("source_revision", .str "r2")]

/-- Both sides of a row are read, the side of the access point first. -/
def alarmReadings : List SideReading :=
  [{ side := .ap, now := "2026-09-01T00:00:01", eventUuid := "e1", row := alarmRow },
    { side := .switch, now := "2026-09-01T00:00:01", eventUuid := "e2", row := alarmRow }]

def offlineReading : SideReading :=
  { side := .ap, now := "2026-09-01T00:05:01", eventUuid := "e3", row := offlineRow }

theorem CollisionFree.of_nodup {lib : RetentionLibrary}
    {observations : List TreatmentObservation}
    (distinct : (observations.map fun one => one.fingerprint lib).Nodup) :
    CollisionFree lib observations := by
  intro one oneMember two twoMember same
  rw [inj_on_of_nodup_map distinct oneMember twoMember same]

theorem noData_offlineReading (tables : TreatmentTables) :
    offlineReading.NoData opticalLibrary "site-a" tables := by
  intro projection projected
  left
  have tested : (offlineReading.projection opticalLibrary "site-a").all (fun projection =>
      canonicalStatus opticalLibrary (.str projection.status) ∈ opticalNoDataStatuses) = true := by
    decide +kernel
  rw [projected] at tested
  simpa using tested

theorem collisionFree_offlineReading : CollisionFree opticalLibrary
    (observationsFrom opticalLibrary "site-a" .empty (alarmReadings ++ [offlineReading])) := by
  apply CollisionFree.of_nodup
  decide +kernel

theorem treatment_lifecycle_offline :
    (treatedAfter opticalLibrary "site-a" (alarmReadings ++ [offlineReading])).Lifecycle "ap-1" ∧
      NoDataEffect opticalLibrary "site-a"
        (treatedAfter opticalLibrary "site-a" (alarmReadings ++ [offlineReading]))
        offlineReading := by
  have lifecycle := treatment_lifecycle rfl _ collisionFree_offlineReading
  exact ⟨lifecycle.1 "ap-1", lifecycle.2 offlineReading (noData_offlineReading _)⟩

/-- An offline side takes over the open event of the other side. -/
theorem not_untouchedByNoData : ¬∀ (readings : List SideReading) (reading : SideReading),
      CollisionFree opticalLibrary
        (observationsFrom opticalLibrary "site-a" .empty (readings ++ [reading])) →
      reading.NoData opticalLibrary "site-a" (treatedAfter opticalLibrary "site-a" readings) →
      (treatedAfter opticalLibrary "site-a" readings).Untouched
        (treatedAfter opticalLibrary "site-a" (readings ++ [reading])) := by
  intro always
  have untouched := always alarmReadings offlineReading collisionFree_offlineReading
    (noData_offlineReading _)
  have revisions := congrArg (List.map TreatmentEvent.sourceRevisionLast) untouched.2
  revert revisions
  decide +kernel

end NetConsole.Retention
