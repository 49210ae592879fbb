import NetConsole.FleetPing.GraceSteps
import NetConsole.Foundations.GuardedRuns

/-!
# The grace of the ping targets over a run

A run polls the access controllers, writes to the rows of its trains, and is stopped and
started again, in any order, under a clock that does not go backwards. What is required of
the targets that the fleet ping was handed: their addresses are distinct, each was valid
in a classification within the grace, an address that is not valid now belongs to a train
that was lost from sight, and no address belongs to a train that the policy has disabled.

A classification is orderly when no train is disabled and lost from sight at once while
one of its targets has grace left, when the controllers have received what they say about
a train before it, and when no two trains share an address. In a run of orderly
classifications all that is required holds after every step (`lawful_of_orderly`). A train
that is disabled while it is lost from sight keeps its targets
(`not_lawful`).
-/

set_option autoImplicit false

namespace NetConsole.FleetPing

open Foundations NetConsole.Eligibility List

/-! ## Runs -/

/-- What a poll of the access controllers finds. -/
inductive AcPoll
  | noSnapshots
  | noNewSnapshots
  | newSnapshots (classification : Classification)

/-- A poll, a restart, or the write of a collection to the row of a train. -/
inductive GraceAction
  | poll (now : Int) (found : AcPoll)
  | restart (now : Int)
  | updateTrainRun (trainId : String) (priority : Option Bool) (updatedAt : String)

/-- The supervisor, the clock, and the classifications so far with their times. -/
structure GraceView where
  state : GraceState
  clock : Int
  log : List (Int × Classification)

section Steps

variable (fromIsoFormat : String → Option Int) (grace : Nat)

/-- One poll, and the pass over what it finds. -/
def pollAcAndClassify (now : Int) (found : AcPoll) (view : GraceView) : GraceView :=
  match found with
  | .noSnapshots | .noNewSnapshots =>
    { view with state := expire grace now view.state, clock := now }
  | .newSnapshots classification =>
    { state := classify grace now classification view.state, clock := now
      log := view.log ++ [(now, classification)] }

/-- One step of the process; its clock does not go back. -/
def graceStep (view : GraceView) : GraceAction → Option GraceView
  | .poll now found =>
    if view.clock ≤ now then some (pollAcAndClassify grace now found view) else none
  | .restart now =>
    if view.clock ≤ now then
      some { view with state := restore fromIsoFormat grace now view.state, clock := now }
    else none
  | .updateTrainRun trainId priority updatedAt =>
    some { view with state := touchRow trainId priority updatedAt view.state }

/-- A run begins with no targets and no rows. -/
def GraceView.start (clock : Int) : GraceView := ⟨⟨[], [], []⟩, clock, []⟩

def GraceView.addresses (view : GraceView) : List String := view.state.handed.map (·.targetIp)

/-! ## What is required -/

/-- What is required of the targets. -/
structure LawfulTargets (view : GraceView) : Prop where
  distinct : view.addresses.Nodup
  recent : ∀ address ∈ view.addresses, ∃ timed ∈ view.log,
    timed.2.ValidAddress address ∧ withinGrace grace view.clock timed.1
  lost : ∀ latest, view.log.getLast? = some latest → ∀ target ∈ view.state.handed,
    ¬latest.2.ValidAddress target.targetIp →
      ¬latest.2.Sees target.trainId ∨ latest.2.InGraceStatus target.trainId
  enabled : ∀ latest, view.log.getLast? = some latest → ∀ target ∈ view.state.handed,
    ¬latest.2.SawDisabled target.trainId

/-- What is required of a step. -/
structure LawfulStep (before : GraceView) (action : GraceAction) (after : GraceView) : Prop where
  targets : LawfulTargets grace after
  current : ∀ now classification, action = .poll now (.newSnapshots classification) →
    ∀ address, classification.ValidAddress address → address ∈ after.addresses
  restored : ∀ now, action = .restart now → after.addresses ⊆ before.addresses

/-- A classification that the grace can cope with. -/
structure OrderlyClassification (state : GraceState) (now : Int)
    (classification : Classification) : Prop where
  policy : ∀ entry ∈ state.memory, classification.SawDisabled entry.target.trainId →
    classification.InGraceStatus entry.target.trainId →
    withinGrace grace now entry.lastValidAt → classification.ValidAddress entry.address
  received : ∀ train ∈ classification.trains, train.pingEligible = true →
    train.acReceivedAt ≠ "" ∧ ∀ received, fromIsoFormat train.acReceivedAt = some received →
      received ≤ now
  stripped : ∀ address, classification.ValidAddress address → strip address = address ∧ address ≠ ""
  unshared : ∀ one ∈ classification.trains, ∀ two ∈ classification.trains, ∀ address,
    TrainOffers one address → TrainOffers two address → one.trainId = two.trainId
  unsharedRows : ∀ train ∈ classification.trains, ∀ row ∈ state.rows, ∀ address,
    TrainOffers train address → RowOffers row address → classification.Sees row.trainId

/-- The classifications of a run are orderly. -/
def Orderly (view : GraceView) : GraceAction → Prop
  | .poll now (.newSnapshots classification) =>
    OrderlyClassification fromIsoFormat grace view.state now classification
  | _ => True

/-! ## The invariant -/

/-- What holds of a row that offers an address. -/
structure RowSound (view : GraceView) (row : TrainRunRow) (address : String) : Prop where
  stripped : strip address = address ∧ address ≠ ""
  received : row.acReceivedAt ≠ ""
  valid : ∃ timed ∈ view.log, timed.2.ValidAddress address ∧
    ∀ received, fromIsoFormat row.acReceivedAt = some received → received ≤ timed.1
  latest : ∀ latest, view.log.getLast? = some latest → latest.2.Sees row.trainId →
    latest.2.ValidAddress address ∧ ¬latest.2.SawDisabled row.trainId
  remembered : ∀ received, fromIsoFormat row.acReceivedAt = some received →
    withinGrace grace view.clock received →
    ∃ entry ∈ view.state.memory, entry.address = address ∧
      entry.target.trainId = row.trainId ∧ received ≤ entry.lastValidAt

/-- What holds of an entry of the memory. -/
structure EntrySound (view : GraceView) (entry : GraceEntry) : Prop where
  within : withinGrace grace view.clock entry.lastValidAt
  valid : ∃ timed ∈ view.log, timed.2.ValidAddress entry.address ∧ entry.lastValidAt ≤ timed.1
  latest : ∀ latest, view.log.getLast? = some latest →
    (latest.2.ValidAddress entry.address ∨ ¬latest.2.Sees entry.target.trainId ∨
      latest.2.InGraceStatus entry.target.trainId) ∧
    ¬latest.2.SawDisabled entry.target.trainId

/-- What holds of memory and rows between two passes. -/
structure GraceInvariant (view : GraceView) : Prop where
  distinct : view.addresses.Nodup
  memoryDistinct : (view.state.memory.map (·.address)).Nodup
  handed : ∀ target, target ∈ view.state.handed ↔ ∃ entry ∈ view.state.memory, entry.target = target
  entries : ∀ entry ∈ view.state.memory, EntrySound grace view entry
  rows : ∀ row ∈ view.state.rows, ∀ address, RowOffers row address →
    RowSound fromIsoFormat grace view row address
  rowsDistinct : (view.state.rows.map (·.trainId)).Nodup
  unshared : ∀ one ∈ view.state.rows, ∀ two ∈ view.state.rows, ∀ address,
    RowOffers one address → RowOffers two address → one.trainId = two.trainId

end Steps

variable {fromIsoFormat : String → Option Int} {grace : Nat}

theorem withinGrace_of_le {now later at' at'' : Int} (clock : now ≤ later) (times : at' ≤ at'')
    (within : withinGrace grace later at') : withinGrace grace now at'' := by
  unfold withinGrace at within ⊢
  omega

variable {view : GraceView}

/-- The invariant implies what is required. -/
theorem GraceInvariant.lawfulTargets (invariant : GraceInvariant fromIsoFormat grace view) :
    LawfulTargets grace view where
  distinct := invariant.distinct
  recent := by
    intro address listed
    obtain ⟨target, there, rfl⟩ := mem_map.mp listed
    obtain ⟨entry, stored, rfl⟩ := (invariant.handed target).mp there
    obtain ⟨within, ⟨timed, logged, valid, before⟩, -⟩ := invariant.entries entry stored
    exact ⟨timed, logged, valid, withinGrace_of_le (Int.le_refl _) before within⟩
  lost := by
    intro latest last target there absent
    obtain ⟨entry, stored, rfl⟩ := (invariant.handed target).mp there
    exact (((invariant.entries entry stored).latest latest last).1).resolve_left absent
  enabled := by
    intro latest last target there
    obtain ⟨entry, stored, rfl⟩ := (invariant.handed target).mp there
    exact ((invariant.entries entry stored).latest latest last).2

theorem graceInvariant_start (clock : Int) : GraceInvariant fromIsoFormat grace (.start clock) where
  distinct := nodup_nil
  memoryDistinct := nodup_nil
  handed target := by simp [GraceView.start]
  entries entry mem := absurd mem not_mem_nil
  rows row mem := absurd mem not_mem_nil
  rowsDistinct := nodup_nil
  unshared row mem := absurd mem not_mem_nil

/-! ## Each step keeps the invariant -/

theorem nodup_targetIp {memory : List GraceEntry} (distinct : (memory.map (·.address)).Nodup) :
    ((memory.map (·.target)).map (·.targetIp)).Nodup := by
  rw [map_map]
  exact distinct

variable {now : Int}

theorem GraceInvariant.expire (invariant : GraceInvariant fromIsoFormat grace view)
    (clock : view.clock ≤ now) : GraceInvariant fromIsoFormat grace
      { view with state := expire grace now view.state, clock := now } := by
  have distinct : ((view.state.memory.filter fun entry =>
      withinGrace grace now entry.lastValidAt).map (·.address)).Nodup :=
    invariant.memoryDistinct.sublist (filter_sublist.map _)
  refine ⟨?_, distinct, ?_, ?_, ?_, invariant.rowsDistinct, invariant.unshared⟩
  · exact nodup_targetIp distinct
  · exact fun target => mem_map
  · intro entry listed
    obtain ⟨stored, within⟩ := mem_filter.mp listed
    obtain ⟨-, valid, latest⟩ := invariant.entries entry stored
    exact ⟨of_decide_eq_true within, valid, latest⟩
  · intro row mem address offers
    obtain ⟨stripped, received, valid, latest, remembered⟩ :=
      invariant.rows row mem address offers
    refine ⟨stripped, received, valid, latest, ?_⟩
    intro at' found within
    obtain ⟨entry, stored, same, train, after⟩ :=
      remembered at' found (withinGrace_of_le clock (Int.le_refl _) within)
    have kept : withinGrace grace now entry.lastValidAt :=
      withinGrace_of_le (Int.le_refl _) after within
    exact ⟨entry, mem_filter.mpr ⟨stored, decide_eq_true kept⟩, same, train, after⟩

theorem GraceInvariant.touchRow (invariant : GraceInvariant fromIsoFormat grace view)
    (trainId : String) (priority : Option Bool) (updatedAt : String) :
    GraceInvariant fromIsoFormat grace
      { view with state := touchRow trainId priority updatedAt view.state } := by
  have same : ∀ row ∈ (FleetPing.touchRow trainId priority updatedAt view.state).rows,
      ∃ old ∈ view.state.rows, row.trainId = old.trainId ∧
        row.acReceivedAt = old.acReceivedAt ∧ ∀ address, RowOffers row address →
          RowOffers old address := by
    intro row listed
    obtain ⟨old, mem, rfl⟩ := mem_map.mp listed
    refine ⟨old, mem, ?_⟩
    split
    · exact ⟨rfl, rfl, fun _ offers => offers⟩
    · exact ⟨rfl, rfl, fun _ offers => offers⟩
  refine ⟨invariant.distinct, invariant.memoryDistinct, invariant.handed, ?_, ?_, ?_, ?_⟩
  · intro entry stored
    obtain ⟨within, valid, latest⟩ := invariant.entries entry stored
    exact ⟨within, valid, latest⟩
  · intro row listed address offers
    obtain ⟨old, mem, train, received, offered⟩ := same row listed
    have sound := invariant.rows old mem address (offered address offers)
    exact ⟨sound.stripped, received ▸ sound.received, received ▸ sound.valid,
      train ▸ sound.latest, received ▸ train ▸ sound.remembered⟩
  · have ids : (FleetPing.touchRow trainId priority updatedAt view.state).rows.map (·.trainId) =
        view.state.rows.map (·.trainId) := by
      unfold FleetPing.touchRow
      rw [map_map]
      apply map_congr_left
      intro row _
      dsimp only [Function.comp_apply]
      split <;> rfl
    exact ids.symm ▸ invariant.rowsDistinct
  · intro one oneListed two twoListed address oneOffers twoOffers
    obtain ⟨oldOne, oneMember, oneTrain, -, oneOffered⟩ := same one oneListed
    obtain ⟨oldTwo, twoMember, twoTrain, -, twoOffered⟩ := same two twoListed
    rw [oneTrain, twoTrain]
    exact invariant.unshared oldOne oneMember oldTwo twoMember address
      (oneOffered address oneOffers) (twoOffered address twoOffers)

variable {address : String} {row : TrainRunRow}

/-- What a row gives back at a restart. -/
theorem RowSound.lastValidOf (sound : RowSound fromIsoFormat grace view row address) :
    lastValidOf fromIsoFormat row = fromIsoFormat row.acReceivedAt := by
  unfold FleetPing.lastValidOf
  rw [if_pos sound.received]

theorem GraceInvariant.recovered (invariant : GraceInvariant fromIsoFormat grace view)
    (clock : view.clock ≤ now) (mem : row ∈ view.state.rows) {entry : GraceEntry}
    (given : entry ∈ recoveredEntries fromIsoFormat grace now row) :
    RowOffers row entry.address ∧ fromIsoFormat row.acReceivedAt = some entry.lastValidAt ∧
      ∃ old ∈ view.state.memory, old.address = entry.address := by
  obtain ⟨_, found, within, address, offers, same⟩ := mem_recoveredEntries given
  have sound := invariant.rows row mem address offers
  rw [sound.stripped.1] at same
  subst same
  rw [sound.lastValidOf] at found
  obtain ⟨old, stored, named, -, -⟩ := sound.remembered _ found
    (withinGrace_of_le clock (Int.le_refl _) within)
  exact ⟨offers, found, old, stored, named⟩

variable {classification : Classification} {train : GroundTrain}

theorem GraceInvariant.restore (invariant : GraceInvariant fromIsoFormat grace view)
    (clock : view.clock ≤ now) : GraceInvariant fromIsoFormat grace
      { view with state := restore fromIsoFormat grace now view.state, clock := now } := by
  have restored : Restored fromIsoFormat grace now view.state.rows _ :=
    restored_restore grace now view.state
  refine ⟨?_, restored.distinct, ?_, ?_, ?_, invariant.rowsDistinct, invariant.unshared⟩
  · exact nodup_targetIp restored.distinct
  · exact fun target => mem_map
  · intro entry listed
    obtain ⟨row, mem, given⟩ := restored.recovered entry listed
    obtain ⟨train, -, within, -⟩ := mem_recoveredEntries given
    obtain ⟨offers, found, -⟩ := invariant.recovered clock mem given
    obtain ⟨-, -, ⟨timed, logged, valid, before⟩, latest, -⟩ := invariant.rows row mem _ offers
    refine ⟨within, ⟨timed, logged, valid, before _ found⟩, ?_⟩
    intro last isLast
    rw [train]
    by_cases seen : last.2.Sees row.trainId
    · obtain ⟨valid, enabled⟩ := latest last isLast seen
      exact ⟨.inl valid, enabled⟩
    · refine ⟨.inr (.inl seen), ?_⟩
      rintro ⟨train, there, same, -⟩
      exact seen ⟨train, there, same⟩
  · intro row mem address offers
    obtain ⟨stripped, received, valid, latest, _⟩ :=
      invariant.rows row mem address offers
    refine ⟨stripped, received, valid, latest, ?_⟩
    intro at' found within
    have sound := invariant.rows row mem address offers
    obtain ⟨entry, given, same⟩ := recoveredEntries_of_offers offers
      (stripped.1.symm ▸ stripped.2) (sound.lastValidOf.trans found) within
    obtain ⟨kept, listed, named⟩ := restored.complete row mem entry given
    obtain ⟨other, otherMember, otherGiven⟩ := restored.recovered kept listed
    have address' : kept.address = address := named.trans (same.trans stripped.1)
    obtain ⟨otherOffers, otherFound, -⟩ := invariant.recovered clock otherMember otherGiven
    rw [address'] at otherOffers
    obtain rfl : other = row := inj_on_of_nodup_map invariant.rowsDistinct otherMember mem
      (invariant.unshared other otherMember row mem address otherOffers offers)
    refine ⟨kept, listed, address', (mem_recoveredEntries otherGiven).1, ?_⟩
    exact (Option.some.inj (found.symm.trans otherFound)).le

theorem not_sawDisabled_of_offers {classification : Classification} {train : GroundTrain}
    {address : String} (seen : train ∈ classification.trains) (offers : TrainOffers train address) :
    ¬classification.SawDisabled train.trainId := by
  rintro ⟨_, otherSeen, same, disabled⟩
  obtain ⟨result, -, rfl⟩ := mem_map.mp seen
  obtain ⟨otherResult, -, rfl⟩ := mem_map.mp otherSeen
  have enabled := enabled_of_pingEligible _ _ _ offers.1
  unfold Classification.withPolicy at same disabled
  rw [applyTrainPolicy_trainId] at same
  rw [applyTrainPolicy_enabled] at enabled disabled
  have ids : otherResult.train.trainId = result.train.trainId :=
    same.trans (applyTrainPolicy_trainId ..)
  rw [ids, enabled] at disabled
  cases disabled

theorem getLast?_log {log : List (Int × Classification)} {latest : Int × Classification}
    (last : (log ++ [(now, classification)]).getLast? = some latest) :
    latest = (now, classification) := by
  rw [List.getLast?_concat] at last
  exact (Option.some.inj last).symm

theorem GraceInvariant.classify (invariant : GraceInvariant fromIsoFormat grace view)
    (clock : view.clock ≤ now)
    (met : OrderlyClassification fromIsoFormat grace view.state now classification) :
    GraceInvariant fromIsoFormat grace
      { state := classify grace now classification view.state, clock := now
        log := view.log ++ [(now, classification)] } := by
  have classified : Classified grace now classification view.state
      (FleetPing.classify grace now classification view.state) :=
    classified_classify invariant.memoryDistinct
  have logged : (now, classification) ∈ view.log ++ [(now, classification)] :=
    mem_append_right _ mem_cons_self
  refine ⟨classified.distinct, classified.memoryDistinct, classified.handed, ?_, ?_,
    classified.rowsDistinct invariant.rowsDistinct, ?_⟩
  · intro entry listed
    rcases classified.memory entry listed with
      ⟨at', train, seen, same, offers⟩ | ⟨old, absent, may, within⟩
    · refine ⟨?_, ⟨_, logged, ⟨train, seen, offers⟩, at'.le⟩, ?_⟩
      · unfold withinGrace
        rw [at']
        show now - now ≤ _
        omega
      · intro latest last
        obtain rfl := getLast?_log last
        exact ⟨.inl ⟨train, seen, offers⟩, same ▸ not_sawDisabled_of_offers seen offers⟩
    · obtain ⟨-, ⟨timed, there, valid, before⟩, -⟩ := invariant.entries entry old
      refine ⟨within, ⟨timed, mem_append_left _ there, valid, before⟩, ?_⟩
      intro latest last
      obtain rfl := getLast?_log last
      refine ⟨.inr (mayKeep_iff.mp may).symm, ?_⟩
      intro disabled
      rcases mayKeep_iff.mp may with status | unseen
      · exact absent (met.policy entry old disabled status within)
      · obtain ⟨train, seen, same, -⟩ := disabled
        exact unseen ⟨train, seen, same⟩
  · intro row listed address offers
    rcases classified.rows row listed with ⟨train, seen, id, receipt, offered⟩ | ⟨old, unseen⟩
    · have here := offered address offers
      have valid : classification.ValidAddress address := ⟨train, seen, here⟩
      obtain ⟨received, before⟩ := met.received train seen here.1
      rw [receipt] at received before
      refine ⟨met.stripped address valid, received, ⟨_, logged, valid, before⟩, ?_, ?_⟩
      · intro latest last _
        obtain rfl := getLast?_log last
        exact ⟨valid, id ▸ not_sawDisabled_of_offers seen here⟩
      · intro at' found within
        obtain ⟨entry, kept, same, renewed⟩ := classified.valid address valid
        refine ⟨entry, kept, same, ?_, renewed ▸ before at' found⟩
        rcases classified.memory entry kept with ⟨-, other, otherSeen, ids, others⟩ | ⟨-, absent, -⟩
        · rw [← ids, ← id]
          exact met.unshared other otherSeen train seen address (same ▸ others) here
        · exact absurd (same ▸ valid) absent
    · obtain ⟨stripped, received, ⟨timed, there, valid⟩, -, remembered⟩ :=
        invariant.rows row old address offers
      refine ⟨stripped, received, ⟨timed, mem_append_left _ there, valid⟩, ?_, ?_⟩
      · intro latest last seen
        obtain rfl := getLast?_log last
        exact absurd seen unseen
      · intro at' found within
        obtain ⟨entry, stored, same, train, after⟩ :=
          remembered at' found (withinGrace_of_le clock (Int.le_refl _) within)
        refine ⟨entry, classified.kept entry stored ?_ ?_
          (withinGrace_of_le (Int.le_refl _) after within), same, train, after⟩
        · rintro ⟨other, seen, others⟩
          exact unseen (met.unsharedRows other seen row old address (same ▸ others) offers)
        · rw [mayKeep_iff, train]
          exact .inr unseen
  · intro one oneListed two twoListed address oneOffers twoOffers
    rcases classified.rows one oneListed with ⟨train, seen, id, -, offered⟩ | ⟨oneOld, oneUnseen⟩
    · rcases classified.rows two twoListed with
        ⟨other, otherSeen, otherId, -, otherOffered⟩ | ⟨twoOld, twoUnseen⟩
      · rw [← id, ← otherId]
        exact met.unshared train seen other otherSeen address (offered address oneOffers)
          (otherOffered address twoOffers)
      · exact absurd (met.unsharedRows train seen two twoOld address (offered address oneOffers)
          twoOffers) twoUnseen
    · rcases classified.rows two twoListed with
        ⟨other, otherSeen, otherId, -, otherOffered⟩ | ⟨twoOld, twoUnseen⟩
      · exact absurd (met.unsharedRows other otherSeen one oneOld address
          (otherOffered address twoOffers) oneOffers) oneUnseen
      · exact invariant.unshared one oneOld two twoOld address oneOffers twoOffers

/-! ## Runs of orderly classifications -/

variable {after view : GraceView}

theorem graceStep_poll {found : AcPoll}
    (taken : graceStep fromIsoFormat grace view (.poll now found) = some after) :
    view.clock ≤ now ∧ after = pollAcAndClassify grace now found view := by
  obtain ⟨clock, same⟩ := Option.ite_none_right_eq_some.mp taken
  exact ⟨clock, (Option.some.inj same).symm⟩

theorem graceStep_restart (taken : graceStep fromIsoFormat grace view (.restart now) = some after) :
    view.clock ≤ now ∧ after =
      { view with state := restore fromIsoFormat grace now view.state, clock := now } := by
  obtain ⟨clock, same⟩ := Option.ite_none_right_eq_some.mp taken
  exact ⟨clock, (Option.some.inj same).symm⟩

variable {action : GraceAction}

theorem GraceInvariant.step (invariant : GraceInvariant fromIsoFormat grace view)
    (met : Orderly fromIsoFormat grace view action)
    (taken : graceStep fromIsoFormat grace view action = some after) :
    GraceInvariant fromIsoFormat grace after := by
  cases action with
  | poll now found =>
    obtain ⟨clock, rfl⟩ := graceStep_poll taken
    cases found with
    | noSnapshots => exact invariant.expire clock
    | noNewSnapshots => exact invariant.expire clock
    | newSnapshots classification => exact invariant.classify clock met
  | restart now =>
    obtain ⟨clock, rfl⟩ := graceStep_restart taken
    exact invariant.restore clock
  | updateTrainRun trainId priority updatedAt =>
    cases taken
    exact invariant.touchRow trainId priority updatedAt

theorem GraceInvariant.lawfulStep (invariant : GraceInvariant fromIsoFormat grace view)
    (met : Orderly fromIsoFormat grace view action)
    (taken : graceStep fromIsoFormat grace view action = some after) :
    LawfulStep grace view action after where
  targets := (invariant.step met taken).lawfulTargets
  current := by
    rintro now classification rfl address valid
    obtain ⟨-, rfl⟩ := graceStep_poll taken
    have classified : Classified grace now classification view.state
        (FleetPing.classify grace now classification view.state) :=
      classified_classify invariant.memoryDistinct
    obtain ⟨entry, kept, rfl, -⟩ := classified.valid address valid
    exact mem_map.mpr ⟨entry.target, (classified.handed _).mpr ⟨entry, kept, rfl⟩, rfl⟩
  restored := by
    rintro now rfl address listed
    obtain ⟨clock, rfl⟩ := graceStep_restart taken
    obtain ⟨target, there, rfl⟩ := mem_map.mp listed
    obtain ⟨entry, kept, rfl⟩ := mem_map.mp there
    have restored : Restored fromIsoFormat grace now view.state.rows _ :=
      restored_restore grace now view.state
    obtain ⟨_, mem, given⟩ := restored.recovered entry kept
    obtain ⟨-, -, old, stored, same⟩ := invariant.recovered clock mem given
    exact mem_map.mpr ⟨old.target, (invariant.handed _).mpr ⟨old, stored, rfl⟩, same⟩

/-- In a run of orderly classifications every step is lawful. -/
theorem lawful_of_orderly {clock : Int} {actions : List GraceAction} {action : GraceAction}
    {before after : GraceView}
    (run : GuardedRun (graceStep fromIsoFormat grace) (Orderly fromIsoFormat grace)
      (.start clock) actions before)
    (met : Orderly fromIsoFormat grace before action)
    (taken : graceStep fromIsoFormat grace before action = some after) :
    LawfulStep grace before action after :=
  (run.invariant (GraceInvariant fromIsoFormat grace)
    (fun _ _ _ invariant met taken => invariant.step met taken)
    (graceInvariant_start clock)).lawfulStep met taken

/-! ### A train on the main line -/

def ctEndpoint : GroundEndpoint :=
  { endpoint := .ct, mrId := "mr1", mrName := "", deviceId := none, managementIp := "10.0.0.1"
    onlineStatus := "ONLINE", pingTargetEligible := true, pingExclusionReason := "" }

/-- A train with one radio on the main line. -/
def mainlineTrain : GroundTrain :=
  { trainId := "0101", pingEligible := true, eligibilityStatus := .mainline
    acReceivedAt := "2026-07-01T08:00:00+08:00", endpoints := [ctEndpoint] }

def sinceEight : StationaryTracker := ⟨"id:1", "2026-07-01T08:00:00.000+08:00"⟩

def seenTrain : Classification := { results := [⟨mainlineTrain, sinceEight⟩] }

/-- The train is disabled when the controllers have lost it. -/
def disabledTrain : Classification :=
  { results := [⟨{ mainlineTrain with pingEligible := false, eligibilityStatus := .acStale },
      sinceEight⟩]
    inventory := [{ trainId := "0101", enabled := false }] }

/-- The instant of eight o'clock. -/
def eightOClock (text : String) : Option Int :=
  if text = "2026-07-01T08:00:00+08:00" then some 1782864000000000 else none

theorem mem_trains_seenTrain (seen : train ∈ seenTrain.trains) :
    train = seenTrain.withPolicy mainlineTrain := mem_singleton.mp seen

theorem address_of_offers (seen : train ∈ seenTrain.trains) (offers : TrainOffers train address) :
    address = "10.0.0.1" := by
  obtain rfl := mem_trains_seenTrain seen
  obtain ⟨-, endpoint, there, -, rfl⟩ := offers
  have mem : endpoint ∈ [ctEndpoint] := there
  rw [mem_singleton.mp mem]
  rfl

theorem orderly_seenTrain : OrderlyClassification eightOClock 120 ⟨[], [], []⟩ 1782864000000000
    seenTrain where
  policy entry mem := absurd mem not_mem_nil
  received := by
    intro train seen _
    obtain rfl := mem_trains_seenTrain seen
    refine ⟨by decide +kernel, fun received found => ?_⟩
    have instant : eightOClock (seenTrain.withPolicy mainlineTrain).acReceivedAt =
        some 1782864000000000 := by decide +kernel
    rw [instant] at found
    exact (Option.some.inj found).ge
  stripped := by
    rintro address ⟨train, seen, offers⟩
    obtain rfl := address_of_offers seen offers
    decide +kernel
  unshared := by
    intro one oneSeen two twoSeen _ _ _
    rw [mem_trains_seenTrain oneSeen, mem_trains_seenTrain twoSeen]
  unsharedRows train _ row mem := absurd mem not_mem_nil

/-- A train is seen, its row is written to, and the supervisor restarts after a minute. -/
theorem lawful_restart : ∃ before after, before.addresses = ["10.0.0.1"] ∧
    graceStep eightOClock 120 before (.restart 1782864060000000) = some after ∧
    after.addresses = ["10.0.0.1"] ∧ LawfulStep 120 before (.restart 1782864060000000) after := by
  have run : GuardedRun (graceStep eightOClock 120) (Orderly eightOClock 120) (.start 0)
      [.poll 1782864000000000 (.newSnapshots seenTrain),
        .updateTrainRun "0101" none "2026-07-01T08:00:05+08:00"] _ :=
    .cons orderly_seenTrain rfl (.cons trivial rfl (.nil _))
  exact ⟨_, _, by decide +kernel, rfl, by decide +kernel, lawful_of_orderly run trivial rfl⟩

/-- A train that is disabled while it is lost keeps its target. -/
theorem not_lawful : ¬∀ (fromIsoFormat : String → Option Int) (grace : Nat) (clock : Int)
    (actions : List GraceAction) (action : GraceAction) (before after : GraceView),
    GuardedRun (graceStep fromIsoFormat grace) (fun _ _ => True) (.start clock) actions before →
    graceStep fromIsoFormat grace before action = some after →
    LawfulStep grace before action after := by
  intro lawful
  have run : GuardedRun (graceStep eightOClock 120) (fun _ _ => True) (.start 0)
      [.poll 1782864000000000 (.newSnapshots seenTrain)] _ :=
    .cons trivial rfl (.nil _)
  have step := lawful eightOClock 120 0 _ (.poll 1782864030000000 (.newSnapshots disabledTrain)) _ _
    run rfl
  refine step.targets.enabled _ rfl (targetOf mainlineTrain sinceEight "" ctEndpoint) ?_
    ⟨_, mem_cons_self, rfl, rfl⟩
  decide +kernel

end NetConsole.FleetPing
