import NetConsole.Worker.Protocol

/-!
# Batches of the WPS synchronisation

A batch of `wps_sync_repository.py` is one synchronisation of the business data of a
site; it has a run for each target. A run keeps the request that is submitted, the
remote task, and what has become of it.

`findResumableBatch` looks for a batch that a synchronisation goes on with instead of
starting its own: one that is not completed, or one that has failed because the result
of a submitted task could not be confirmed in time.
-/

set_option autoImplicit false

namespace NetConsole.Wps

open Worker (Json Event strip)
open List

/-! ## Rows -/

/-- `wps_sync_target_runs.status`. -/
inductive RunStatus where
  | remoteSubmitting | remoteSubmitted | remoteRunning | remoteResultUnknown | remoteFinished
  | remoteArtifactPending | failed | success | successWithWarnings
  deriving DecidableEq

/-- `wps_sync_batches.status`. -/
inductive BatchStatus where
  | running | remoteResultUnknown | failed | success | successWithWarnings | partialSuccess
  deriving DecidableEq

/-- The status of a target in a summary. -/
inductive ResultStatus where
  | success | successWithWarnings | remoteResultUnknown | failed
  deriving DecidableEq

/-- A dictionary of `result_summary`: what a target has come to, with its list of format
warnings and their number, or the business result of a query alone, which has no status. -/
structure ResultSummary where
  status : Option ResultStatus
  formatWarnings : Option Nat := none
  formatWarningCount : Json := .null

/-- How the width of a column is set. -/
inductive WidthMode where
  | explicit | autoFit | autoFitWithLocalMin
  deriving DecidableEq

/-- A sheet of a workbook, as far as the report on the column widths reads it. -/
structure WorkbookSheet where
  sheetName : String
  columnWidths : List (String × Rat)
  autoFitColumns : List String
  deriving DecidableEq

/-- A column of `source_format_manifest`; a mode that is missing is `MISSING`. -/
structure ColumnSource where
  (sheetName column : String)
  sourceMode : WidthMode
  sheetDtoMode : Option WidthMode
  (localWorkbookWidth sheetDtoWidth : Option Rat)

/-- The data that is written: the business revision it has been taken from, the stations
it is limited to, and the sheets. -/
structure Workbook where
  businessRevision : String
  stations : List String
  sheets : List WorkbookSheet
  deriving DecidableEq

/-- `target_batch_id`: the text of the batch and the target. -/
structure TaskKey where
  (batchId targetCode : String)
  deriving DecidableEq

/-- The text of a `target_batch_id`. -/
def TaskKey.text (key : TaskKey) : String := key.batchId ++ "_" ++ key.targetCode

/-- The fields of a request that the answer is compared with, and the data. -/
structure RequestPayload where
  (targetBatchId siteId businessKey snapshotRevision snapshotSha256 : String)
  workbook : Workbook
  deriving DecidableEq

/-- A row of `wps_sync_target_runs`. -/
structure TargetRun where
  key : TaskKey
  status : RunStatus
  requestPayload : Option RequestPayload
  sourceFormatManifest : List ColumnSource
  (remoteTaskId remoteTaskStatus errorCode : String)
  resultSummary : Option ResultSummary

/-- A row of `wps_sync_batches`. -/
structure Batch where
  (batchId snapshotRevision requestedAt : String)
  completed : Bool
  status : BatchStatus
  targetCount : Nat
  deriving DecidableEq

/-- The tables of the repository of a site. Recorded beside them, for the statements, are
the batches whose remote task has reported a terminal state, the requests that have been
submitted, and the requests that an answer has been found valid for. -/
structure SyncStore where
  batches : List Batch
  runs : List TargetRun
  reported : List String
  submitted : List RequestPayload
  answered : List (RequestPayload × Event)

/-- A site without batches. -/
def SyncStore.empty : SyncStore := ⟨[], [], [], [], []⟩

/-- The error of a task that has timed out, here or on the remote side. -/
def remoteTaskTimeout : String := "WPS_REMOTE_TASK_TIMEOUT"

/-- A text that is not blank. -/
def isPresent (text : String) : Bool := strip text.toList ≠ []

/-! ## Updates -/

/-- An update of the runs with a key. -/
def SyncStore.updateRun (store : SyncStore) (key : TaskKey) (update : TargetRun → TargetRun) :
    SyncStore :=
  { store with runs := store.runs.map fun run => if run.key = key then update run else run }

/-- An update of the batch with an identifier. -/
def SyncStore.updateBatch (store : SyncStore) (batchId : String) (update : Batch → Batch) :
    SyncStore :=
  { store with
    batches := store.batches.map fun batch =>
      if batch.batchId = batchId then update batch else batch }

/-- The task of a run has reported a terminal state. -/
def SyncStore.report (store : SyncStore) (key : TaskKey) : SyncStore :=
  { store with reported := key.batchId :: store.reported }

/-- A request has been submitted. -/
def SyncStore.submit (store : SyncStore) (payload : RequestPayload) : SyncStore :=
  { store with submitted := payload :: store.submitted }

/-- An answer has been found valid for a request. -/
def SyncStore.answer (store : SyncStore) (payload : RequestPayload) (body : Event) : SyncStore :=
  { store with answered := (payload, body) :: store.answered }

/-- A new batch behind the others. -/
def SyncStore.createBatch (store : SyncStore) (batchId revision requestedAt : String)
    (targetCount : Nat) : SyncStore :=
  { store with
    batches := store.batches ++ [{
      batchId := batchId, snapshotRevision := revision, requestedAt := requestedAt
      completed := false, status := .running, targetCount := targetCount }] }

/-- The row of `create_target_run`. -/
def newTargetRun (key : TaskKey) (payload : RequestPayload) (manifest : List ColumnSource) :
    TargetRun where
  key := key
  status := .remoteSubmitting
  requestPayload := some payload
  sourceFormatManifest := manifest
  remoteTaskId := ""
  remoteTaskStatus := ""
  errorCode := ""
  resultSummary := none

/-- A new run behind the others. -/
def SyncStore.createTargetRun (store : SyncStore) (key : TaskKey) (payload : RequestPayload)
    (manifest : List ColumnSource) : SyncStore :=
  { store with runs := store.runs ++ [newTargetRun key payload manifest] }

/-- `update_remote_task_submitted`. -/
def SyncStore.updateRemoteTaskSubmitted (store : SyncStore) (key : TaskKey)
    (taskId remoteStatus : String) : SyncStore :=
  store.updateRun key fun run =>
    { run with
      status := .remoteSubmitted, remoteTaskId := taskId, remoteTaskStatus := remoteStatus
      errorCode := "" }

/-- `update_remote_task_poll`; the business result of the query is stored when there is
one. -/
def SyncStore.updateRemoteTaskPoll (store : SyncStore) (key : TaskKey) (status : RunStatus)
    (remoteStatus errorCode : String) (businessResult : Bool) : SyncStore :=
  store.updateRun key fun run =>
    { run with
      status := status, remoteTaskStatus := remoteStatus, errorCode := errorCode
      resultSummary := if businessResult then some { status := none } else run.resultSummary }

/-- The row that `complete_target_run` stores. -/
def SyncStore.completeTargetRun (store : SyncStore) (key : TaskKey) (status : RunStatus)
    (result : ResultSummary) (errorCode remoteTaskStatus : String) : SyncStore :=
  store.updateRun key fun run =>
    { run with
      status := status, errorCode := errorCode, resultSummary := some result
      remoteTaskStatus := remoteTaskStatus }

/-- `update_batch_state`. -/
def SyncStore.updateBatchState (store : SyncStore) (batchId : String) (status : BatchStatus) :
    SyncStore :=
  store.updateBatch batchId fun batch => { batch with status := status }

/-- `complete_batch`. -/
def SyncStore.completeBatch (store : SyncStore) (batchId : String) (status : BatchStatus) :
    SyncStore :=
  store.updateBatch batchId fun batch => { batch with status := status, completed := true }

/-! ## The batch to go on with -/

/-- The runs of a batch in the order of their targets. -/
def SyncStore.runsOf (store : SyncStore) (batchId : String) : List TargetRun :=
  (store.runs.filter (·.key.batchId = batchId)).mergeSort fun one two =>
    decide (one.key.targetCode ≤ two.key.targetCode)

/-- A task has been submitted, but its result could not be confirmed in time. -/
def TargetRun.timedOut (run : TargetRun) : Bool :=
  decide (run.errorCode = remoteTaskTimeout) && isPresent run.remoteTaskId

/-- `timeout_recovery` of a batch. -/
def timeoutRecovery (batch : Batch) (runs : List TargetRun) : Bool :=
  decide (batch.status = .failed) && batch.completed && runs.any (·.timedOut)

/-- A batch that a synchronisation of these targets goes on with. -/
def isResumable (requested : List String) (batch : Batch) (runs : List TargetRun) : Bool :=
  decide (batch.status = .running ∨ batch.status = .remoteResultUnknown ∨ batch.status = .failed) &&
    (!batch.completed || timeoutRecovery batch runs) &&
    (runs.all (fun run => requested.contains run.key.targetCode) &&
      requested.all fun code => runs.any fun run => run.key.targetCode == code) &&
    decide (runs.length = batch.targetCount) &&
    runs.all fun run => run.requestPayload.isSome

/-- `find_resumable_batch`: the latest one, with its runs. -/
def SyncStore.findResumableBatch (store : SyncStore) (requested : List String) :
    Option (Batch × List TargetRun) :=
  ((store.batches.mergeSort fun one two => decide (two.requestedAt ≤ one.requestedAt)).map
    fun batch => (batch, store.runsOf batch.batchId)).find? fun entry =>
      isResumable requested entry.1 entry.2

variable {requested : List String} {runs : List TargetRun} {batch : Batch}

theorem SyncStore.findResumableBatch_spec {store : SyncStore}
    (found : store.findResumableBatch requested = some (batch, runs)) :
    batch ∈ store.batches ∧ runs = store.runsOf batch.batchId ∧
      isResumable requested batch runs = true := by
  have resumable := List.find?_some found
  have listed := mem_of_find?_eq_some found
  obtain ⟨_, mem, same⟩ := mem_map.mp listed
  obtain ⟨rfl, rfl⟩ := Prod.mk.inj same
  exact ⟨mem_mergeSort.mp mem, rfl, resumable⟩

theorem SyncStore.mem_runsOf {store : SyncStore} {batchId : String} {run : TargetRun} :
    run ∈ store.runsOf batchId ↔ run ∈ store.runs ∧ run.key.batchId = batchId := by
  simp [SyncStore.runsOf]

variable (resumable : isResumable requested batch runs = true)
include resumable

theorem isResumable_requests : ∀ run ∈ runs, run.requestPayload.isSome := by
  simp only [isResumable, Bool.and_eq_true, all_eq_true] at resumable
  exact resumable.2

theorem isResumable_covers : ∀ code ∈ requested, ∃ run ∈ runs, run.key.targetCode = code := by
  simp only [isResumable, Bool.and_eq_true, all_eq_true, any_eq_true, beq_iff_eq] at resumable
  exact resumable.1.1.2.2

omit resumable

/-- An identifier that no row has. -/
structure SyncStore.Lacks (store : SyncStore) (batchId : String) : Prop where
  batches : ∀ batch ∈ store.batches, batch.batchId ≠ batchId
  runs : ∀ run ∈ store.runs, run.key.batchId ≠ batchId

end NetConsole.Wps
