import NetConsole.FleetPing.TargetGrace

/-!
# What the polls and a restart leave in the grace memory

After the loop over the results the memory holds the valid targets, as of now, and the
older entries of other addresses (`Renewed`). The loop over the memory then keeps an
address that is valid, or whose train may keep its targets for a while (`StaysInMemory`), and hands
over what is kept (`Classified`). A restart gives back what the rows say (`Restored`).
-/

set_option autoImplicit false

namespace NetConsole.FleetPing

open Foundations NetConsole.Eligibility List

/-! ## Policies -/

section Policy

variable (train : GroundTrain) (row : Option InventoryPolicy) (priority : Bool)

theorem applyTrainPolicy_trainId :
    (applyTrainPolicy train row priority).trainId = train.trainId := by
  unfold applyTrainPolicy
  dsimp only
  split
  · rfl
  · split <;> rfl

theorem applyTrainPolicy_status :
    (applyTrainPolicy train row priority).eligibilityStatus = train.eligibilityStatus := by
  unfold applyTrainPolicy
  dsimp only
  split
  · rfl
  · split <;> rfl

theorem applyTrainPolicy_enabled :
    (applyTrainPolicy train row priority).enabled = (row.map (·.enabled)).getD true := by
  have default : (row.getD { trainId := train.trainId }).enabled =
      (row.map (·.enabled)).getD true := by
    cases row <;> rfl
  rw [← default]
  unfold applyTrainPolicy
  dsimp only
  split
  · rfl
  · split <;> rfl

theorem enabled_of_pingEligible
    (pinged : (applyTrainPolicy train row priority).pingEligible = true) :
    (applyTrainPolicy train row priority).enabled = true := by
  unfold applyTrainPolicy at pinged ⊢
  dsimp only at pinged ⊢
  split at pinged
  · cases pinged
  · rename_i enabled
    rw [if_neg enabled]
    split
    · simpa using enabled
    · simpa using enabled

end Policy

/-! ## Valid targets -/

/-- The targets of all trains, in their order. -/
def offeredTargets (classification : Classification) (rows : List TrainRunRow) :
    List FleetPingTarget :=
  classification.results.flatMap fun result =>
    pingTargets (classifiedTrain classification rows result) result.tracker
      classification.receivedAt

variable {train : GroundTrain}

theorem mem_pingTargets {tracker : StationaryTracker} {receivedAt : String}
    {target : FleetPingTarget} (listed : target ∈ pingTargets train tracker receivedAt) :
    target.trainId = train.trainId ∧ TrainOffers train target.targetIp := by
  unfold pingTargets at listed
  split at listed
  · rename_i eligible
    obtain ⟨endpoint, chosen, rfl⟩ := mem_map.mp listed
    obtain ⟨there, valid⟩ := mem_filter.mp chosen
    exact ⟨rfl, eligible, endpoint, there, valid, rfl⟩
  · cases listed

theorem pingTargets_of_offers (tracker : StationaryTracker) (receivedAt : String) {address : String}
    (offers : TrainOffers train address) :
    ∃ target ∈ pingTargets train tracker receivedAt, target.targetIp = address := by
  obtain ⟨eligible, _, there, valid, rfl⟩ := offers
  unfold pingTargets
  rw [if_pos eligible]
  exact ⟨_, mem_map_of_mem (mem_filter.mpr ⟨there, valid⟩), rfl⟩

section Offers

variable {classification : Classification} {rows : List TrainRunRow}

theorem mem_offeredTargets {target : FleetPingTarget}
    (listed : target ∈ offeredTargets classification rows) : ∃ train ∈ classification.trains,
      train.trainId = target.trainId ∧ TrainOffers train target.targetIp := by
  obtain ⟨_, there, offered⟩ := mem_flatMap.mp listed
  obtain ⟨same, offers⟩ := mem_pingTargets offered
  exact ⟨_, mem_map_of_mem there, same.symm, offers⟩

theorem validAddress_iff {address : String} : classification.ValidAddress address ↔
      address ∈ (offeredTargets classification rows).map (·.targetIp) := by
  constructor
  · rintro ⟨train, seen, offers⟩
    obtain ⟨result, there, rfl⟩ := mem_map.mp seen
    have kept : TrainOffers (classifiedTrain classification rows result) address := offers
    obtain ⟨target, listed, same⟩ :=
      pingTargets_of_offers result.tracker classification.receivedAt kept
    exact mem_map.mpr ⟨target, mem_flatMap.mpr ⟨result, there, listed⟩, same⟩
  · intro listed
    obtain ⟨target, offered, rfl⟩ := mem_map.mp listed
    obtain ⟨train, seen, -, offers⟩ := mem_offeredTargets offered
    exact ⟨train, seen, offers⟩

end Offers

/-! ## The memory after the results -/

/-- What the loop over some targets has made of a memory. -/
structure Renewed (now : Int) (before : List GraceEntry) (targets : List FleetPingTarget)
    (offered : Offered) : Prop where
  distinct : (offered.valid.map (·.targetIp)).Nodup
  memoryDistinct : (offered.memory.map (·.address)).Nodup
  addresses : ∀ address,
    address ∈ offered.valid.map (·.targetIp) ↔ address ∈ targets.map (·.targetIp)
  listed : ∀ target ∈ offered.valid, target ∈ targets
  memory : ∀ entry, entry ∈ offered.memory ↔
    (entry.target ∈ offered.valid ∧ entry.lastValidAt = now) ∨
      (entry ∈ before ∧ entry.address ∉ offered.valid.map (·.targetIp))

variable {before : List GraceEntry} {now : Int}

theorem Renewed.start (distinct : (before.map (·.address)).Nodup) :
    Renewed now before [] ⟨[], before⟩ where
  distinct := nodup_nil
  memoryDistinct := distinct
  addresses _ := Iff.rfl
  listed _ mem := mem
  memory entry := by simp

variable {offered : Offered}

theorem Renewed.offer {targets : List FleetPingTarget}
    (renewed : Renewed now before targets offered) (target : FleetPingTarget) :
    Renewed now before (targets ++ [target]) (offer now offered target) := by
  unfold FleetPing.offer
  split
  · rename_i taken
    rw [hasRow_iff] at taken
    refine ⟨renewed.distinct, renewed.memoryDistinct, ?_, ?_, renewed.memory⟩
    · intro address
      rw [renewed.addresses, map_append, mem_append, map_singleton, mem_singleton]
      constructor
      · exact Or.inl
      · rintro (there | rfl)
        · exact there
        · exact (renewed.addresses _).mp taken
    · exact fun other mem => mem_append_left _ (renewed.listed other mem)
  · rename_i free
    rw [hasRow_iff] at free
    refine ⟨?_, nodup_map_upsertRow _ renewed.memoryDistinct, ?_, ?_, ?_⟩
    · rw [map_append, nodup_append]
      refine ⟨renewed.distinct, pairwise_singleton .., ?_⟩
      intro address there other added same
      rw [map_singleton, mem_singleton] at added
      exact free (added ▸ same ▸ there)
    · intro address
      rw [map_append, map_append, mem_append, mem_append, renewed.addresses]
    · intro other mem
      rcases mem_append.mp mem with earlier | added
      · exact mem_append_left _ (renewed.listed other earlier)
      · exact mem_append_right _ added
    · intro entry
      rw [mem_upsertRow_iff, renewed.memory, map_append, mem_append, mem_append,
        map_singleton, mem_singleton, mem_singleton]
      constructor
      · rintro (rfl | ⟨⟨valid, at'⟩ | ⟨old, absent⟩, differ⟩)
        · exact .inl ⟨.inr rfl, rfl⟩
        · exact .inl ⟨.inl valid, at'⟩
        · exact .inr ⟨old, fun there => there.elim absent differ⟩
      · rintro (⟨valid | rfl, at'⟩ | ⟨old, absent⟩)
        · refine .inr ⟨.inl ⟨valid, at'⟩, ?_⟩
          intro same
          exact free (mem_map.mpr ⟨entry.target, valid, same⟩)
        · exact .inl (by cases entry; cases at'; rfl)
        · exact .inr ⟨.inr ⟨old, fun there => absent (.inl there)⟩, fun same => absent (.inr same)⟩

theorem Renewed.foldl {seen : List FleetPingTarget} (renewed : Renewed now before seen offered)
    (targets : List FleetPingTarget) :
    Renewed now before (seen ++ targets) (targets.foldl (FleetPing.offer now) offered) := by
  induction targets generalizing seen offered with
  | nil =>
    rw [append_nil]
    exact renewed
  | cons target targets ih =>
    rw [← singleton_append, ← append_assoc]
    exact ih (renewed.offer target)

/-- The row that a result leaves. -/
def writtenRow (classification : Classification) (previousRows : List TrainRunRow)
    (result : ClassificationResult) : TrainRunRow :=
  trainRunRow (classifiedTrain classification previousRows result) result.tracker
    (classification.writtenAt (classifiedTrain classification previousRows result).trainId)

theorem foldl_classifyResult (classification : Classification) (now : Int)
    (previousRows : List TrainRunRow) (results : List ClassificationResult)
    (looped : Offered × List TrainRunRow) :
    results.foldl (classifyResult classification now previousRows) looped =
      ((results.flatMap fun result =>
          pingTargets (classifiedTrain classification previousRows result) result.tracker
            classification.receivedAt).foldl (offer now) looped.1,
        (results.map (writtenRow classification previousRows)).foldl
          (upsertRow TrainRunRow.trainId) looped.2) := by
  induction results generalizing looped with
  | nil => rfl
  | cons result results ih =>
    rw [foldl_cons, ih, flatMap_cons, foldl_append, map_cons, foldl_cons]
    rfl

/-! ## The memory after the grace -/

/-- An entry stays in the memory, given the addresses that are valid now. -/
def StaysInMemory (classification : Classification) (grace : Nat) (now : Int) (valid : List String)
    (entry : GraceEntry) : Prop :=
  entry.address ∈ valid ∨
    mayKeep classification entry.target.trainId = true ∧ withinGrace grace now entry.lastValidAt

section Grace

variable {classification : Classification} {grace : Nat} {now : Int}

/-- What the loop over some entries makes of what was offered. -/
structure Graced (classification : Classification) (grace : Nat) (now : Int)
    (valid : List String) (entries : List GraceEntry) (before after : Offered) : Prop where
  distinct : (after.valid.map (·.targetIp)).Nodup
  mem_valid : ∀ target, target ∈ after.valid ↔ target ∈ before.valid ∨
    ∃ entry ∈ entries, entry.address ∉ valid ∧
      StaysInMemory classification grace now valid entry ∧ entry.target = target
  memory : after.memory.Sublist before.memory
  mem_memory : ∀ entry, entry ∈ after.memory ↔ entry ∈ before.memory ∧
    ∀ other ∈ entries, other.address = entry.address →
      StaysInMemory classification grace now valid other

theorem graced_foldl {valid : List String} {entries : List GraceEntry} {before : Offered}
    (apart : (entries.map (·.address)).Nodup) (distinct : (before.valid.map (·.targetIp)).Nodup)
    (taken : ∀ entry ∈ entries,
      entry.address ∈ before.valid.map (·.targetIp) ↔ entry.address ∈ valid) :
    Graced classification grace now valid entries before
      (entries.foldl (graceEntry classification grace now) before) := by
  induction entries generalizing before with
  | nil => exact ⟨distinct, fun target => by simp, .refl _, fun entry => by simp⟩
  | cons entry entries ih =>
    obtain ⟨fresh, rest⟩ := nodup_cons.mp apart
    have here := taken entry mem_cons_self
    have others : ∀ other ∈ entries, other.address ≠ entry.address :=
      fun other mem same => fresh (mem_map.mpr ⟨other, mem, same⟩)
    have later := fun other mem => taken other (mem_cons_of_mem entry mem)
    rw [foldl_cons]
    by_cases there : entry.address ∈ valid
    · -- the address is valid now
      have step : graceEntry classification grace now before entry = before :=
        if_pos (hasRow_iff.mpr (here.mpr there))
      rw [step]
      obtain ⟨distinct, inValid, memory, inMemory⟩ := ih rest distinct later
      refine ⟨distinct, ?_, memory, ?_⟩
      · intro target
        rw [inValid, exists_mem_cons_iff]
        simp [there]
      · intro other
        have stays : StaysInMemory classification grace now valid entry := .inl there
        rw [inMemory, forall_mem_cons]
        simp [stays]
    · have free : ¬hasRow FleetPingTarget.targetIp before.valid entry.address = true :=
        fun found => there (here.mp (hasRow_iff.mp found))
      by_cases keep : mayKeep classification entry.target.trainId ∧
          withinGrace grace now entry.lastValidAt
      · -- the target is kept for a while
        have step : graceEntry classification grace now before entry =
            { before with valid := before.valid ++ [entry.target] } :=
          (if_neg free).trans (if_pos keep)
        rw [step]
        have added : ((before.valid ++ [entry.target]).map (·.targetIp)).Nodup := by
          rw [map_append, nodup_append]
          refine ⟨distinct, pairwise_singleton .., ?_⟩
          intro address named other single same
          rw [map_singleton, mem_singleton] at single
          subst same single
          exact free (hasRow_iff.mpr named)
        have decided : ∀ other ∈ entries,
            other.address ∈ (before.valid ++ [entry.target]).map (·.targetIp) ↔
              other.address ∈ valid := by
          intro other mem
          rw [map_append, mem_append, map_singleton, mem_singleton, later other mem]
          exact or_iff_left (others other mem)
        obtain ⟨distinct, inValid, memory, inMemory⟩ :=
          @ih { before with valid := before.valid ++ [entry.target] } rest added decided
        have stays : StaysInMemory classification grace now valid entry := .inr keep
        refine ⟨distinct, ?_, memory, ?_⟩
        · intro target
          rw [inValid, exists_mem_cons_iff, mem_append, mem_singleton, or_assoc]
          simp [there, stays, eq_comm]
        · intro other
          rw [inMemory, forall_mem_cons]
          simp [stays]
      · -- the entry is forgotten
        have step : graceEntry classification grace now before entry = { before with
              memory := before.memory.filter fun other => other.address ≠ entry.address } :=
          (if_neg free).trans (if_neg keep)
        rw [step]
        obtain ⟨distinct, inValid, memory, inMemory⟩ :=
          @ih { before with
            memory := before.memory.filter fun other => other.address ≠ entry.address }
            rest distinct later
        have gone : ¬StaysInMemory classification grace now valid entry := fun stays =>
          stays.elim there keep
        refine ⟨distinct, ?_, memory.trans filter_sublist, ?_⟩
        · intro target
          rw [inValid, exists_mem_cons_iff]
          simp [gone]
        · intro other
          have differ : (decide (other.address ≠ entry.address) = true) ↔
              (entry.address = other.address →
                StaysInMemory classification grace now valid entry) := by
            rw [decide_eq_true_iff]
            exact ⟨fun apart same => absurd same.symm apart,
              fun stays same => gone (stays same.symm)⟩
          rw [inMemory, forall_mem_cons, mem_filter, and_assoc, differ]

end Grace

/-! ## What the polls and a restart leave -/

section Trains

variable {classification : Classification} {trainId : String}

theorem sees_iff : classification.Sees trainId ↔
      ∃ result ∈ classification.results, result.train.trainId = trainId := by
  constructor
  · rintro ⟨train, seen, rfl⟩
    obtain ⟨result, there, rfl⟩ := mem_map.mp seen
    exact ⟨result, there, (applyTrainPolicy_trainId ..).symm⟩
  · rintro ⟨result, there, rfl⟩
    exact ⟨_, mem_map_of_mem there, applyTrainPolicy_trainId ..⟩

theorem inGraceStatus_iff :
    classification.InGraceStatus trainId ↔ ∃ result ∈ classification.results,
      result.train.trainId = trainId ∧ result.train.eligibilityStatus ∈ graceStatuses := by
  constructor
  · rintro ⟨train, seen, rfl, grace⟩
    obtain ⟨result, there, rfl⟩ := mem_map.mp seen
    rw [Classification.withPolicy, applyTrainPolicy_status] at grace
    exact ⟨result, there, (applyTrainPolicy_trainId ..).symm, grace⟩
  · rintro ⟨result, there, rfl, grace⟩
    refine ⟨_, mem_map_of_mem there, applyTrainPolicy_trainId .., ?_⟩
    exact (applyTrainPolicy_status ..).symm ▸ grace

theorem mayKeep_iff : mayKeep classification trainId = true ↔
      classification.InGraceStatus trainId ∨ ¬classification.Sees trainId := by
  rw [inGraceStatus_iff, sees_iff]
  simp [mayKeep]

end Trains

/-- A row says what a train that was seen is like. -/
def RowWritten (classification : Classification) (row : TrainRunRow) : Prop :=
  ∃ train ∈ classification.trains, train.trainId = row.trainId ∧
    train.acReceivedAt = row.acReceivedAt ∧
    ∀ address, RowOffers row address → TrainOffers train address

/-- What a poll with new snapshots leaves. -/
structure Classified (grace : Nat) (now : Int) (classification : Classification)
    (before after : GraceState) : Prop where
  distinct : (after.handed.map (·.targetIp)).Nodup
  memoryDistinct : (after.memory.map (·.address)).Nodup
  handed : ∀ target, target ∈ after.handed ↔ ∃ entry ∈ after.memory, entry.target = target
  memory : ∀ entry ∈ after.memory,
    (entry.lastValidAt = now ∧ ∃ train ∈ classification.trains,
      train.trainId = entry.target.trainId ∧ TrainOffers train entry.address) ∨
    (entry ∈ before.memory ∧ ¬classification.ValidAddress entry.address ∧
      mayKeep classification entry.target.trainId = true ∧
      withinGrace grace now entry.lastValidAt)
  valid : ∀ address, classification.ValidAddress address →
    ∃ entry ∈ after.memory, entry.address = address ∧ entry.lastValidAt = now
  kept : ∀ entry ∈ before.memory, ¬classification.ValidAddress entry.address →
    mayKeep classification entry.target.trainId = true →
    withinGrace grace now entry.lastValidAt → entry ∈ after.memory
  rows : ∀ row ∈ after.rows, RowWritten classification row ∨
    (row ∈ before.rows ∧ ¬classification.Sees row.trainId)
  rowsDistinct : (before.rows.map (·.trainId)).Nodup → (after.rows.map (·.trainId)).Nodup

variable {rows : List TrainRunRow}

theorem nodup_foldl_upsertRow (written : List TrainRunRow) (distinct : (rows.map (·.trainId)).Nodup)
    : ((written.foldl (upsertRow TrainRunRow.trainId) rows).map (·.trainId)).Nodup := by
  induction written generalizing rows with
  | nil => exact distinct
  | cons row written ih => exact ih (nodup_map_upsertRow row distinct)

variable {classification : Classification}

theorem mem_foldl_upsertRow {previousRows : List TrainRunRow} {results : List ClassificationResult}
    {row : TrainRunRow} (listed : row ∈ (results.map (writtenRow classification previousRows)).foldl
      (upsertRow TrainRunRow.trainId) rows) :
    (∃ result ∈ results, row = writtenRow classification previousRows result) ∨
      (row ∈ rows ∧ ∀ result ∈ results,
        (writtenRow classification previousRows result).trainId ≠ row.trainId) := by
  induction results generalizing rows with
  | nil => exact .inr ⟨listed, fun result mem => absurd mem not_mem_nil⟩
  | cons first results ih =>
    rw [map_cons, foldl_cons] at listed
    rcases ih listed with ⟨result, there, same⟩ | ⟨earlier, others⟩
    · exact .inl ⟨result, mem_cons_of_mem _ there, same⟩
    · rcases mem_upsertRow_iff.mp earlier with rfl | ⟨stored, differ⟩
      · exact .inl ⟨first, mem_cons_self, rfl⟩
      · refine .inr ⟨stored, ?_⟩
        intro result there
        rcases mem_cons.mp there with rfl | later
        · exact fun same => differ same.symm
        · exact others result later

variable {grace : Nat} {now : Int}

/-- The entries that stay, where every address has one entry. -/
theorem mem_graced {valid : List String} {before after : Offered}
    (graced : Graced classification grace now valid before.memory before after)
    (apart : (before.memory.map (·.address)).Nodup) (entry : GraceEntry) : entry ∈ after.memory ↔
      entry ∈ before.memory ∧ StaysInMemory classification grace now valid entry := by
  rw [graced.mem_memory]
  refine and_congr_right fun there => ?_
  constructor
  · exact fun stays => stays entry there rfl
  · intro stays other mem same
    rw [inj_on_of_nodup_map apart mem there same]
    exact stays

variable {state : GraceState}

/-- The loop over the memory follows the loop over the results. -/
theorem classified_of_renewed {offered : Offered}
    (renewed : Renewed now state.memory (offeredTargets classification state.rows) offered)
    (written : ∀ row ∈ rows, RowWritten classification row ∨
      (row ∈ state.rows ∧ ¬classification.Sees row.trainId))
    (rowsDistinct : (state.rows.map (·.trainId)).Nodup → (rows.map (·.trainId)).Nodup) :
    Classified grace now classification state
      { memory := (offered.memory.foldl (graceEntry classification grace now) offered).memory
        rows := rows
        handed := (offered.memory.foldl (graceEntry classification grace now) offered).valid } := by
  have graced : Graced classification grace now (offered.valid.map (·.targetIp)) offered.memory
      offered (offered.memory.foldl (graceEntry classification grace now) offered) :=
    graced_foldl renewed.memoryDistinct renewed.distinct fun _ _ => Iff.rfl
  have mem := mem_graced graced renewed.memoryDistinct
  have isValid : ∀ address, classification.ValidAddress address ↔
      address ∈ offered.valid.map (·.targetIp) := fun address =>
    validAddress_iff.trans (renewed.addresses address).symm
  have stored : ∀ target ∈ offered.valid, ⟨target, now⟩ ∈
      (offered.memory.foldl (graceEntry classification grace now) offered).memory := by
    intro target valid
    rw [mem, renewed.memory]
    exact ⟨.inl ⟨valid, rfl⟩, .inl (mem_map_of_mem valid)⟩
  refine ⟨graced.distinct, renewed.memoryDistinct.sublist (graced.memory.map _), ?_, ?_, ?_, ?_,
    written, rowsDistinct⟩
  · intro target
    rw [graced.mem_valid]
    constructor
    · rintro (valid | ⟨entry, there, absent, stays, rfl⟩)
      · exact ⟨_, stored target valid, rfl⟩
      · exact ⟨entry, (mem entry).mpr ⟨there, stays⟩, rfl⟩
    · rintro ⟨entry, kept, rfl⟩
      obtain ⟨there, stays⟩ := (mem entry).mp kept
      rcases (renewed.memory entry).mp there with ⟨valid, -⟩ | ⟨-, absent⟩
      · exact .inl valid
      · exact .inr ⟨entry, there, absent, stays, rfl⟩
  · intro entry kept
    obtain ⟨there, stays⟩ := (mem entry).mp kept
    rcases (renewed.memory entry).mp there with ⟨valid, at'⟩ | ⟨old, absent⟩
    · exact .inl ⟨at', mem_offeredTargets (renewed.listed _ valid)⟩
    · obtain ⟨may, within⟩ := stays.resolve_left absent
      exact .inr ⟨old, fun valid => absent ((isValid _).mp valid), may, within⟩
  · intro address valid
    obtain ⟨target, there, rfl⟩ := mem_map.mp ((isValid address).mp valid)
    exact ⟨_, stored target there, rfl, rfl⟩
  · intro entry old absent may within
    rw [mem, renewed.memory]
    exact ⟨.inr ⟨old, fun valid => absent ((isValid _).mpr valid)⟩, .inr ⟨may, within⟩⟩

theorem classified_classify (distinct : (state.memory.map (·.address)).Nodup) :
    Classified grace now classification state (classify grace now classification state) := by
  unfold classify
  rw [foldl_classifyResult]
  have begun : Renewed now state.memory [] ⟨[], state.memory⟩ := .start distinct
  have renewed := begun.foldl (offeredTargets classification state.rows)
  refine classified_of_renewed renewed ?_ (nodup_foldl_upsertRow _)
  intro row listed
  refine (mem_foldl_upsertRow listed).imp ?_ fun ⟨stored, others⟩ => ⟨stored, ?_⟩
  · rintro ⟨result, there, rfl⟩
    exact ⟨_, mem_map_of_mem there, rfl, rfl, fun _ offers => offers⟩
  intro seen
  obtain ⟨result, there, same⟩ := sees_iff.mp seen
  exact others result there ((applyTrainPolicy_trainId ..).trans same)

section Restart

variable (fromIsoFormat : String → Option Int)

/-- The entries that a row gives back. -/
def recoveredEntries (grace : Nat) (now : Int) (row : TrainRunRow) : List GraceEntry :=
  if !row.pingEligible then []
  else
    match lastValidOf fromIsoFormat row with
    | none => []
    | some lastValidAt =>
      if withinGrace grace now lastValidAt then
        (recoveredTargets row).map fun target => ⟨target, lastValidAt⟩
      else []

variable {fromIsoFormat}

theorem recoverRow_eq (grace : Nat) (now : Int) (recovered : List GraceEntry) (row : TrainRunRow) :
    recoverRow fromIsoFormat grace now recovered row =
      (recoveredEntries fromIsoFormat grace now row).foldl (insertRow GraceEntry.address)
        recovered := by
  unfold recoverRow recoveredEntries
  cases !row.pingEligible with
  | true => rfl
  | false =>
    cases lastValidOf fromIsoFormat row with
    | none => rfl
    | some lastValidAt =>
      rw [if_neg Bool.false_ne_true, if_neg Bool.false_ne_true]
      dsimp only
      split
      · rw [foldl_map]
        rfl
      · rfl

theorem memory_restore (grace : Nat) (now : Int) (state : GraceState) :
    (restore fromIsoFormat grace now state).memory =
      ((listTrainRuns state.rows).flatMap (recoveredEntries fromIsoFormat grace now)).foldl
        (insertRow GraceEntry.address) [] := by
  have step : recoverRow fromIsoFormat grace now = fun recovered row =>
      (recoveredEntries fromIsoFormat grace now row).foldl (insertRow GraceEntry.address)
        recovered := by
    funext recovered row
    exact recoverRow_eq grace now recovered row
  rw [foldl_flatMap, ← step]
  rfl

variable {row : TrainRunRow}

theorem mem_listTrainRuns {rows : List TrainRunRow} : row ∈ listTrainRuns rows ↔ row ∈ rows :=
  (perm_insertionSort _ rows).mem_iff

/-- What a row gives back are its addresses, with the time of its last receipt. -/
theorem mem_recoveredEntries {grace : Nat} {now : Int} {entry : GraceEntry} :
    entry ∈ recoveredEntries fromIsoFormat grace now row → entry.target.trainId = row.trainId ∧
      lastValidOf fromIsoFormat row = some entry.lastValidAt ∧
      withinGrace grace now entry.lastValidAt ∧
      ∃ address, RowOffers row address ∧ entry.address = strip address := by
  intro listed
  unfold recoveredEntries at listed
  split at listed
  · cases listed
  · rename_i eligible
    split at listed
    · cases listed
    · rename_i found
      split at listed
      · rename_i within
        obtain ⟨target, there, rfl⟩ := mem_map.mp listed
        obtain ⟨endpoint, chosen, rfl⟩ := mem_map.mp there
        obtain ⟨mem, valid⟩ := mem_filter.mp (mem_filter.mp chosen).1
        exact ⟨rfl, found, within, _, ⟨by simpa using eligible, endpoint, mem, valid, rfl⟩, rfl⟩
      · cases listed

theorem recoveredEntries_of_offers {grace : Nat} {now lastValidAt : Int} {address : String}
    (offers : RowOffers row address) (named : strip address ≠ "")
    (found : lastValidOf fromIsoFormat row = some lastValidAt)
    (within : withinGrace grace now lastValidAt) :
    ∃ entry ∈ recoveredEntries fromIsoFormat grace now row, entry.address = strip address := by
  obtain ⟨eligible, endpoint, mem, valid, rfl⟩ := offers
  unfold recoveredEntries
  rw [if_neg (by simp [eligible]), found]
  dsimp only
  rw [if_pos within]
  have chosen : endpoint ∈ (row.endpoints.filter (·.pingTargetEligible)).filter
      fun endpoint => strip endpoint.managementIp ≠ "" :=
    mem_filter.mpr ⟨mem_filter.mpr ⟨mem, valid⟩, decide_eq_true named⟩
  exact ⟨_, mem_map_of_mem (mem_map_of_mem chosen), rfl⟩

/-- What a restart leaves in the memory. -/
structure Restored (fromIsoFormat : String → Option Int) (grace : Nat) (now : Int)
    (rows : List TrainRunRow) (memory : List GraceEntry) : Prop where
  distinct : (memory.map (·.address)).Nodup
  recovered : ∀ entry ∈ memory, ∃ row ∈ rows, entry ∈ recoveredEntries fromIsoFormat grace now row
  complete : ∀ row ∈ rows, ∀ entry ∈ recoveredEntries fromIsoFormat grace now row,
    ∃ kept ∈ memory, kept.address = entry.address

theorem restored_restore (grace : Nat) (now : Int) (state : GraceState) :
    Restored fromIsoFormat grace now state.rows (restore fromIsoFormat grace now state).memory := by
  rw [memory_restore]
  refine ⟨nodup_map_foldl_insertRow _ nodup_nil, ?_, ?_⟩
  · intro entry listed
    obtain ⟨row, there, given⟩ :=
      mem_flatMap.mp ((mem_foldl_insertRow listed).resolve_left not_mem_nil)
    exact ⟨row, mem_listTrainRuns.mp there, given⟩
  · intro row there entry given
    have listed : entry ∈ (listTrainRuns state.rows).flatMap
        (recoveredEntries fromIsoFormat grace now) :=
      mem_flatMap.mpr ⟨row, mem_listTrainRuns.mpr there, given⟩
    exact mem_map.mp (key_mem_foldl_insertRow listed)

end Restart

end NetConsole.FleetPing
