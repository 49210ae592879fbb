import NetConsole.TaskCenter.Reading
import NetConsole.TaskCenter.Service

/-!
# What the calls write

A call of the repository either changes nothing or stores one snapshot, and a
`record` adds one event (`TaskCall.run_effect`). Storing a snapshot changes the
row of its task and no other row (`upsert_some`), and preparing a terminal result
changes only the columns of the result (`PreparedBy.bare`).
-/

set_option autoImplicit false

namespace NetConsole.TaskCenter

open Foundations List
open Syslog (firstOf)

variable {Result : Type} {format : ResultFormat Result}

/-! ## The table of the snapshots -/

/-- The primary key of `task_snapshots`. -/
def TasksKeyed (store : TaskStore Result) : Prop := (store.snapshots.map TaskSnapshot.taskId).Nodup

variable {store : TaskStore Result} {taskId : String} {row : TaskSnapshot Result}

theorem snapshotRow_eq_some (found : store.snapshotRow taskId = some row) :
    row ∈ store.snapshots ∧ row.taskId = taskId :=
  ⟨mem_of_find?_eq_some found, by simpa using List.find?_some found⟩

theorem TasksKeyed.snapshotRow (keyed : TasksKeyed store) (mem : row ∈ store.snapshots) :
    store.snapshotRow row.taskId = some row :=
  find?_eq_some_of_nodup keyed mem

theorem SameTasks.snapshotRow {more : TaskStore Result} (same : SameTasks store more)
    (taskId : String) : more.snapshotRow taskId = store.snapshotRow taskId := by
  unfold TaskStore.snapshotRow
  rw [same.snapshots]

variable [DecidableEq Result]

/-- The row that stands for a snapshot after it was stored. -/
def TaskStore.columnsFor (format : ResultFormat Result) (store : TaskStore Result)
    (snapshot : TaskSnapshot Result) : TaskSnapshot Result :=
  match store.snapshotRow snapshot.taskId with
  | none => storedColumns snapshot
  | some stored => mergedColumns format stored snapshot

/-- What storing a snapshot does. -/
structure Upserted (format : ResultFormat Result) (store : TaskStore Result)
    (snapshot : TaskSnapshot Result) (allowed : Option (List TaskState))
    (after : TaskStore Result) : Prop where
  passes : ∀ stored, store.snapshotRow snapshot.taskId = some stored →
    ∀ states, allowed = some states → stored.status ∈ states
  lookup : ∀ taskId, after.snapshotRow taskId =
    if taskId = snapshot.taskId then some (store.columnsFor format snapshot)
    else store.snapshotRow taskId
  keyed : TasksKeyed store → TasksKeyed after
  results : after.results = store.results
  blobs : after.blobs = store.blobs
  events : after.events = store.events
  tombstones : after.tombstones = store.tombstones

omit [DecidableEq Result] in
theorem find?_map_update (rows : List (TaskSnapshot Result)) (snapshot : TaskSnapshot Result)
    (update : TaskSnapshot Result → TaskSnapshot Result)
    (sameId : ∀ row, (update row).taskId = snapshot.taskId) (taskId : String) :
    (rows.map fun row => if row.taskId = snapshot.taskId then update row else row).find?
        (fun row => row.taskId = taskId) =
      (rows.find? fun row => row.taskId = taskId).map fun row =>
        if row.taskId = snapshot.taskId then update row else row := by
  rw [List.find?_map]
  congr 2
  funext row
  simp only [Function.comp_apply]
  split
  case isTrue here => rw [sameId, here]
  · rfl

variable {after : TaskStore Result}

section

variable {snapshot : TaskSnapshot Result}

theorem upsert_some {allowed : Option (List TaskState)}
    (ok : store.upsert format snapshot allowed = some after) :
    Upserted format store snapshot allowed after := by
  unfold TaskStore.upsert at ok
  cases found : store.snapshotRow snapshot.taskId with
  | none =>
    simp only [found, Option.some.injEq] at ok
    subst ok
    refine ⟨?_, ?_, ?_, rfl, rfl, rfl, rfl⟩
    · intro stored present
      rw [found] at present
      cases present
    · intro taskId
      have absent : store.snapshots.find? (fun row => row.taskId = snapshot.taskId) = none := found
      show (store.snapshots ++ [storedColumns snapshot]).find? _ = _
      rw [List.find?_append]
      by_cases here : taskId = snapshot.taskId
      · have same : (storedColumns snapshot).taskId = taskId := here.symm
        rw [if_pos here, here, absent, TaskStore.columnsFor, found]
        simp [← here, same]
      · have other : (storedColumns snapshot).taskId ≠ taskId := fun same => here same.symm
        rw [if_neg here]
        simp [other, TaskStore.snapshotRow]
    · intro keyed
      show ((store.snapshots ++ [storedColumns snapshot]).map TaskSnapshot.taskId).Nodup
      rw [map_append, map_singleton, nodup_append]
      refine ⟨keyed, nodup_singleton _, ?_⟩
      intro taskId mem other single same
      obtain ⟨row, stored, rfl⟩ := mem_map.mp mem
      rw [mem_singleton.mp single] at same
      have absent := List.find?_eq_none.mp found row stored
      exact absent (decide_eq_true same)
  | some stored =>
    simp only [found] at ok
    split at ok
    case isFalse => cases ok
    case isTrue passes =>
      obtain rfl := (Option.some.inj ok).symm
      have lookup := find?_map_update store.snapshots snapshot
        (fun row => mergedColumns format row snapshot) fun _ => rfl
      refine ⟨?_, ?_, ?_, rfl, rfl, rfl, rfl⟩
      · intro row present states given
        rw [found] at present
        cases present
        simpa [given] using passes
      · intro taskId
        refine (lookup taskId).trans ?_
        by_cases here : taskId = snapshot.taskId
        · have present : store.snapshots.find? (fun row => row.taskId = snapshot.taskId) =
            some stored := found
          have same := (snapshotRow_eq_some found).2
          rw [here, present, if_pos rfl, Option.map_some, if_pos same, TaskStore.columnsFor, found]
        · rw [if_neg here]
          show Option.map _ (store.snapshotRow taskId) = _
          cases other : store.snapshotRow taskId with
          | none => rfl
          | some row =>
            have different : row.taskId ≠ snapshot.taskId := by
              rw [(snapshotRow_eq_some other).2]
              exact here
            rw [Option.map_some, if_neg different]
      · intro keyed
        have same : (store.snapshots.map fun row =>
            if row.taskId = snapshot.taskId then mergedColumns format row snapshot else row).map
              TaskSnapshot.taskId = store.snapshots.map TaskSnapshot.taskId := by
          rw [map_map]
          apply map_congr_left
          intro row _
          simp only [Function.comp_apply]
          split
          case isTrue here => exact here.symm
          · rfl
        unfold TasksKeyed
        rw [same]
        exact keyed

/-! ## The columns of a task -/

/-- A snapshot without the columns of its result. -/
def TaskSnapshot.bare (format : ResultFormat Result) (snapshot : TaskSnapshot Result) :
    TaskSnapshot Result :=
  { snapshot with
    result := format.empty, resultId := "", resultHash := "", resultSummary := format.empty }

variable {prepared : Prepared Result}

section

variable {event : TaskEvent Result} (by' : PreparedBy format store snapshot event prepared)
include by'

theorem PreparedBy.bare : prepared.snapshot.bare format = snapshot.bare format := by
  cases by' with
  | kept other keeps =>
    rcases keepReference_ok keeps with rfl | ⟨_, _, rfl⟩
    · rfl
    · rfl
  | bound terminal named binds => rfl
  | fresh terminal unnamed seals => rfl

theorem PreparedBy.tasks : SameTasks store prepared.store := by
  cases by' with
  | kept other keeps => exact .refl store
  | bound terminal named binds => exact (bindReference_ok binds).2.1
  | fresh terminal unnamed seals => exact seals.tasks

theorem PreparedBy.extends : Extends format store prepared.store := by
  cases by' with
  | kept other keeps => exact .refl store
  | bound terminal named binds => exact (bindReference_ok binds).1
  | fresh terminal unnamed seals => exact seals.extended

omit by'

theorem PreparedBy.keyed
    (keyed : ResultsKeyed store) (by' : PreparedBy format store snapshot event prepared) :
    ResultsKeyed prepared.store := by
  cases by' with
  | kept other keeps => exact keyed
  | bound terminal named binds =>
    rcases (bindReference_ok binds).2.2 with same | ⟨_, _, _, rows⟩
    · rw [show (⟨_, snapshot, event⟩ : Prepared Result).store = store from same]
      exact keyed
    · exact keyed.ready rows
  | fresh terminal unnamed seals => exact seals.keyed keyed

end

/-- The identity of an event stays. -/
theorem PreparedBy.event {event : TaskEvent Result}
    (by' : PreparedBy format store snapshot event prepared) :
    prepared.event.eventId = event.eventId ∧ prepared.event.taskId = event.taskId ∧
      prepared.event.type = event.type := by
  cases by' with
  | kept other keeps => exact ⟨rfl, rfl, rfl⟩
  | bound terminal named binds => exact ⟨rfl, rfl, rfl⟩
  | fresh terminal unnamed seals => exact ⟨rfl, rfl, rfl⟩

/-- Two snapshots agree on the columns that the state filter and the guard read. -/
structure SameTask (first second : TaskSnapshot Result) : Prop where
  taskId : first.taskId = second.taskId
  status : first.status = second.status
  resourceKeys : first.resourceKeys = second.resourceKeys
  siteName : first.siteName = second.siteName

variable {second first : TaskSnapshot Result}

omit [DecidableEq Result] in
theorem SameTask.of_bare (same : first.bare format = second.bare format) :
    SameTask first second := by
  constructor
  · have column := congrArg TaskSnapshot.taskId same
    exact column
  · have column := congrArg TaskSnapshot.status same
    exact column
  · have column := congrArg TaskSnapshot.resourceKeys same
    exact column
  · have column := congrArg TaskSnapshot.siteName same
    exact column

omit [DecidableEq Result] in
theorem SameTask.trans {third : TaskSnapshot Result} (one : SameTask first second)
    (two : SameTask second third) : SameTask first third :=
  ⟨one.taskId.trans two.taskId, one.status.trans two.status,
    one.resourceKeys.trans two.resourceKeys, one.siteName.trans two.siteName⟩

theorem columnsFor_sameTask (store : TaskStore Result) (snapshot : TaskSnapshot Result) :
    SameTask (store.columnsFor format snapshot) snapshot := by
  unfold TaskStore.columnsFor
  split
  · exact ⟨rfl, rfl, rfl, rfl⟩
  · exact ⟨rfl, rfl, rfl, rfl⟩

/-! ## The effect of a call -/

/-- A call that changes something stores a snapshot; `record` adds an event. -/
inductive Effect (format : ResultFormat Result) (store : TaskStore Result) :
    TaskCall Result → TaskStore Result → Prop where
  | plain {snapshot : TaskSnapshot Result} {after : TaskStore Result}
      (unretired : store.isTombstoned snapshot.taskId = false)
      (open' : ¬ (snapshot.status.isTerminal = true ∧ snapshot.result ≠ format.empty))
      (stored : Upserted format store snapshot none after) :
      Effect format store (.save snapshot) after
  | sealed {snapshot : TaskSnapshot Result} {prepared : Prepared Result} {after : TaskStore Result}
      (unretired : store.isTombstoned snapshot.taskId = false)
      (terminal : snapshot.status.isTerminal = true) (full : snapshot.result ≠ format.empty)
      (readied : PreparedBy format store snapshot (saveEvent snapshot) prepared)
      (stored : Upserted format prepared.store prepared.snapshot none after) :
      Effect format store (.save snapshot) after
  | guarded {snapshot : TaskSnapshot Result} {after : TaskStore Result}
      (requested : resourceKeySet snapshot.resourceKeys ≠ [])
      (unretired : store.isTombstoned snapshot.taskId = false)
      (free : findConflict format store snapshot (guardedRows store snapshot) = .ok none)
      (stored : Upserted format store snapshot none after) :
      Effect format store (.saveWithResourceGuard snapshot) after
  | unguarded {snapshot : TaskSnapshot Result} {after : TaskStore Result}
      (unrequested : resourceKeySet snapshot.resourceKeys = [])
      (saved : Effect format store (.save snapshot) after) :
      Effect format store (.saveWithResourceGuard snapshot) after
  | recorded {snapshot : TaskSnapshot Result} {event : TaskEvent Result}
      {allowed : Option (List TaskState)} {prepared : Prepared Result} {after : TaskStore Result}
      (fresh : ∀ other ∈ store.events, other.eventId ≠ event.eventId)
      (unretired : store.isTombstoned event.taskId = false)
      (readied : PreparedBy format store snapshot event prepared)
      (stored : Upserted format prepared.store prepared.snapshot allowed after) :
      Effect format store (.record snapshot event allowed)
        { after with events := after.events ++ [prepared.event] }

theorem upsert_none (format : ResultFormat Result) (store : TaskStore Result)
    (snapshot : TaskSnapshot Result) : ∃ after, store.upsert format snapshot none = some after := by
  unfold TaskStore.upsert
  split
  · exact ⟨_, rfl⟩
  · exact ⟨_, rfl⟩

variable (keyed : ResultsKeyed store)
include keyed

theorem save_effect
    (ok : save format store snapshot = .ok after) : Effect format store (.save snapshot) after := by
  obtain ⟨unretired, ok⟩ := guard_eq_ok.mp ok
  have unretired : store.isTombstoned snapshot.taskId = false := by simpa using unretired
  obtain ⟨_, prepares, rfl⟩ := map_eq_ok.mp ok
  unfold prepareSaved at prepares
  split at prepares
  case isTrue full =>
    simp only [Bool.and_eq_true, decide_eq_true_eq] at full
    obtain ⟨prepared, done, rfl⟩ := map_eq_ok.mp prepares
    obtain ⟨next, upserted⟩ := upsert_none format prepared.store prepared.snapshot
    simp only [upserted, Option.getD_some]
    exact .sealed unretired full.1 full.2 (prepareTerminalResult_cases keyed done)
      (upsert_some upserted)
  case isFalse blank =>
    simp only [Bool.and_eq_true, decide_eq_true_eq] at blank
    cases prepares
    obtain ⟨next, upserted⟩ := upsert_none format store snapshot
    simp only [upserted, Option.getD_some]
    exact .plain unretired blank (upsert_some upserted)

theorem saveWithResourceGuard_effect {conflict : Option (TaskSnapshot Result)}
    (ok : saveWithResourceGuard format store snapshot = .ok (conflict, after)) :
    conflict.isSome = true ∧ after = store ∨
      Effect format store (.saveWithResourceGuard snapshot) after := by
  unfold saveWithResourceGuard at ok
  split at ok
  case isTrue unrequested =>
    obtain ⟨next, saved, same⟩ := map_eq_ok.mp ok
    cases same
    exact .inr (.unguarded unrequested (save_effect keyed saved))
  case isFalse requested =>
    obtain ⟨unretired, ok⟩ := guard_eq_ok.mp ok
    have unretired : store.isTombstoned snapshot.taskId = false := by simpa using unretired
    obtain ⟨found, free, same⟩ := map_eq_ok.mp ok
    cases found with
    | some current =>
      cases same
      exact .inl ⟨rfl, rfl⟩
    | none =>
      obtain ⟨next, upserted⟩ := upsert_none format store snapshot
      simp only [upserted, Option.getD_some] at same
      obtain ⟨_, rfl⟩ := same
      exact .inr (.guarded requested unretired free (upsert_some upserted))

theorem record_effect {event : TaskEvent Result}
    {allowed : Option (List TaskState)} {recorded : Bool}
    (ok : record format store snapshot event allowed = .ok (recorded, after)) :
    after = store ∧ (recorded = true → event.type = "progress") ∨
      recorded = true ∧ Effect format store (.record snapshot event allowed) after := by
  unfold record at ok
  split at ok
  · cases ok
    exact .inl ⟨rfl, nofun⟩
  case isFalse fresh =>
    split at ok
    · cases ok
      exact .inl ⟨rfl, nofun⟩
    case isFalse unretired =>
      have unretired : store.isTombstoned event.taskId = false := by simpa using unretired
      split at ok
      case isTrue sampled =>
        cases ok
        exact .inl ⟨rfl, fun _ => of_decide_eq_true (Bool.and_eq_true_iff.mp sampled).1⟩
      · obtain ⟨prepared, done, ok⟩ := map_eq_ok.mp ok
        cases upserted : prepared.store.upsert format prepared.snapshot allowed with
        | none =>
          rw [upserted] at ok
          cases ok
          exact .inl ⟨rfl, nofun⟩
        | some next =>
          rw [upserted] at ok
          cases ok
          refine .inr ⟨rfl, .recorded ?_ unretired (prepareTerminalResult_cases keyed done)
            (upsert_some upserted)⟩
          intro other mem same
          exact fresh (any_eq_true.mpr ⟨other, mem, decide_eq_true same⟩)

/-- A call has its effect, or it changes nothing: then it has not gone through,
or it is a `record` of a progress event that was sampled. -/
theorem TaskCall.run_effect (call : TaskCall Result) :
    (call.run format store).2 = store ∧ ((call.run format store).1 = true →
        ∃ snapshot event allowed, call = .record snapshot event allowed ∧ event.type = "progress") ∨
      Effect format store call (call.run format store).2 := by
  cases call with
  | save snapshot =>
    cases ok : TaskCenter.save format store snapshot with
    | error failure =>
      left
      simp [TaskCall.run, ok]
    | ok after =>
      right
      simp only [TaskCall.run, ok]
      exact save_effect keyed ok
  | saveWithResourceGuard snapshot =>
    cases ok : TaskCenter.saveWithResourceGuard format store snapshot with
    | error failure =>
      left
      simp [TaskCall.run, ok]
    | ok result =>
      simp only [TaskCall.run, ok]
      rcases saveWithResourceGuard_effect keyed ok with ⟨conflict, same⟩ | effect
      · refine .inl ⟨same, fun through => ?_⟩
        rw [Option.isNone_iff_eq_none.mp through] at conflict
        cases conflict
      · exact .inr effect
  | record snapshot event allowed =>
    cases ok : TaskCenter.record format store snapshot event allowed with
    | error failure =>
      left
      simp [TaskCall.run, ok]
    | ok result =>
      simp only [TaskCall.run, ok]
      rcases record_effect keyed ok with ⟨same, sampled⟩ | ⟨_, effect⟩
      · exact .inl ⟨same, fun through => ⟨snapshot, event, allowed, rfl, sampled through⟩⟩
      · exact .inr effect

omit keyed

/-! ## What a call leaves alone -/

/-- Nothing of a task is written. -/
structure Untouched (taskId : String) (store later : TaskStore Result) : Prop where
  snapshot : later.snapshotRow taskId = store.snapshotRow taskId
  events : (later.events.filter fun event => event.taskId = taskId) =
    store.events.filter fun event => event.taskId = taskId
  results : (later.results.filter fun row => row.taskId = taskId) =
    store.results.filter fun row => row.taskId = taskId

omit [DecidableEq Result] in
theorem Untouched.refl (taskId : String) (store : TaskStore Result) :
    Untouched taskId store store := ⟨rfl, rfl, rfl⟩

omit [DecidableEq Result] in
theorem Untouched.trans {first second third : TaskStore Result}
    (one : Untouched taskId first second) (two : Untouched taskId second third) :
    Untouched taskId first third :=
  ⟨two.snapshot.trans one.snapshot, two.events.trans one.events, two.results.trans one.results⟩

theorem filter_readyRows {rows : List ResultRow} (distinct : (rows.map ResultRow.resultId).Nodup)
    {row : ResultRow} (mem : row ∈ rows) (other : row.taskId ≠ taskId) :
    (readyRows rows row.resultId).filter (fun row => row.taskId = taskId) =
      rows.filter fun row => row.taskId = taskId := by
  have sameTask : ∀ before : ResultRow,
      (if before.resultId = row.resultId then before.ready else before).taskId = before.taskId := by
    intro before
    split
    · rw [ready_taskId]
    · rfl
  rw [readyRows, filter_map]
  have filters : ((fun row : ResultRow => decide (row.taskId = taskId)) ∘ fun before =>
      if before.resultId = row.resultId then before.ready else before) =
        fun row => decide (row.taskId = taskId) := by
    funext before
    simp only [Function.comp_apply, sameTask]
  rw [filters]
  conv_rhs => rw [← map_id (rows.filter _)]
  apply map_congr_left
  intro before among
  obtain ⟨stored, task⟩ := mem_filter.mp among
  rw [if_neg, id]
  intro same
  have found := find?_eq_some_of_nodup distinct stored
  rw [same, find?_eq_some_of_nodup distinct mem] at found
  cases found
  exact other (of_decide_eq_true task)

theorem PreparedBy.untouched {event : TaskEvent Result}
    (keyed : ResultsKeyed store) (by' : PreparedBy format store snapshot event prepared)
    (other : snapshot.taskId ≠ taskId) : Untouched taskId store prepared.store := by
  have tasks := by'.tasks
  refine ⟨tasks.snapshotRow taskId, by rw [tasks.events], ?_⟩
  cases by' with
  | kept different keeps => rfl
  | bound terminal named binds =>
    rcases (bindReference_ok binds).2.2 with same | ⟨row, mem, task, rows⟩
    · rw [show (⟨_, snapshot, event⟩ : Prepared Result).store = store from same]
    · rw [show (⟨_, snapshot, event⟩ : Prepared Result).store.results = _ from rows]
      exact filter_readyRows keyed.distinct mem (by rw [task]; exact other)
  | @fresh after verified terminal unnamed seals =>
    rcases seals.rows with ⟨row, mem, _, rows⟩ | ⟨_, _, rows, _⟩
    · obtain ⟨stored, task, _⟩ := mem_resultsOf.mp mem
      rw [show (refer format after snapshot event _).store.results = _ from rows]
      exact filter_readyRows keyed.distinct stored (by rw [task]; exact other)
    · have different : verified.row.taskId ≠ taskId := by
        rw [seals.task]
        exact other
      rw [show (refer format after snapshot event _).store.results = _ from rows, filter_append]
      simp [different]

end

/-! ## Calls on one task -/

/-- The snapshot that is written. -/
def TaskCall.snapshot : TaskCall Result → TaskSnapshot Result
  | .save snapshot | .saveWithResourceGuard snapshot | .record snapshot _ _ => snapshot

/-- The states that the stored task may be in. -/
def TaskCall.allowed : TaskCall Result → Option (List TaskState)
  | .save _ | .saveWithResourceGuard _ => none
  | .record _ _ allowed => allowed

/-- The event of a `record` belongs to the task of the snapshot. -/
def TaskCall.OfOneTask : TaskCall Result → Prop
  | .record snapshot event _ => event.taskId = snapshot.taskId
  | _ => True

/-- What a call that stores a snapshot does to the tasks. -/
structure Written (store : TaskStore Result) (snapshot : TaskSnapshot Result)
    (allowed : Option (List TaskState)) (after : TaskStore Result) : Prop where
  unretired : store.isTombstoned snapshot.taskId = false
  passes : ∀ stored, store.snapshotRow snapshot.taskId = some stored →
    ∀ states, allowed = some states → stored.status ∈ states
  row : ∃ row, after.snapshotRow snapshot.taskId = some row ∧ SameTask row snapshot
  others : ∀ taskId, taskId ≠ snapshot.taskId → Untouched taskId store after
  keyed : TasksKeyed store → TasksKeyed after
  resultsKeyed : ResultsKeyed after
  tombstones : after.tombstones = store.tombstones

/-- The effect of a call, for the tasks. -/
theorem Upserted.written {middle : TaskStore Result} {given saved : TaskSnapshot Result}
    {allowed : Option (List TaskState)} (unretired : store.isTombstoned given.taskId = false)
    (tasks : SameTasks store middle) (same : saved.bare format = given.bare format)
    (untouched : ∀ taskId, given.taskId ≠ taskId → Untouched taskId store middle)
    (resultsKeyed : ResultsKeyed middle) (stored : Upserted format middle saved allowed after) :
    Written store given allowed after := by
  have id := (SameTask.of_bare same).taskId
  refine ⟨unretired, ?_, ⟨middle.columnsFor format saved, ?_,
    (columnsFor_sameTask middle saved).trans (.of_bare same)⟩, ?_, ?_, ?_, ?_⟩
  · intro row found
    apply stored.passes row
    rw [tasks.snapshotRow, id, found]
  · rw [stored.lookup, id, if_pos rfl]
  · intro taskId other
    refine (untouched taskId other.symm).trans ⟨?_, ?_, ?_⟩
    · rw [stored.lookup, id, if_neg other]
    · rw [stored.events]
    · rw [stored.results]
  · intro keyed
    apply stored.keyed
    unfold TasksKeyed at keyed ⊢
    rw [tasks.snapshots]
    exact keyed
  · exact ⟨by rw [stored.results]; exact resultsKeyed.distinct,
      by rw [stored.results]; exact resultsKeyed.types⟩
  · rw [stored.tombstones, tasks.tombstones]

theorem Effect.written {call : TaskCall Result} (keyed : ResultsKeyed store)
    (ofOneTask : call.OfOneTask) (effect : Effect format store call after) :
    Written store call.snapshot call.allowed after := by
  induction effect with
  | plain unretired blank stored =>
    exact stored.written unretired (.refl store) rfl (fun _ _ => .refl _ store) keyed
  | sealed unretired terminal full readied stored =>
    exact stored.written unretired readied.tasks readied.bare
      (fun _ other => readied.untouched keyed other) (readied.keyed keyed)
  | guarded requested unretired free stored =>
    exact stored.written unretired (.refl store) rfl (fun _ _ => .refl _ store) keyed
  | unguarded unrequested saved ih => exact ih trivial
  | @recorded snapshot event allowed prepared middle fresh unretired readied stored =>
    have task : event.taskId = snapshot.taskId := ofOneTask
    rw [task] at unretired
    have written := stored.written unretired readied.tasks readied.bare
      (fun _ other => readied.untouched keyed other) (readied.keyed keyed)
    refine ⟨written.unretired, written.passes, written.row, ?_, written.keyed, ?_,
      written.tombstones⟩
    · intro taskId other
      obtain ⟨row, events, results⟩ := written.others taskId other
      refine ⟨row, ?_, results⟩
      have different : prepared.event.taskId ≠ taskId := by
        rw [readied.event.2.1, task]
        exact other.symm
      show (middle.events ++ [prepared.event]).filter _ = _
      rw [filter_append, events]
      simp [different]
    · exact ⟨written.resultsKeyed.distinct, written.resultsKeyed.types⟩

end NetConsole.TaskCenter
