import NetConsole.Wps.ColumnWidths

/-!
# The WPS synchronisation

`sync` checks the targets and looks for a batch to go on with. When there is none it
builds a snapshot of the business data, stores a batch with a run for the target, and
executes that. `_execute_persisted_batch` executes the runs of a batch that have no
result yet, and stores what the batch has come to.

There is one valid target. The checks of its configuration, the business data and the
remote side are what a call is given. The client is the one that submits tasks.
-/

set_option autoImplicit false

namespace NetConsole.Wps

open Worker (Json Event PythonError dictGet pythonInt)

/-- `STANDARD_TARGET_CODE`, the only one of `_VALID_TARGET_CODES`. -/
def standardTargetCode : String := "wps_standard_spreadsheet"

/-- `TRACKSIDE_AP_WPS_BUSINESS_KEY`. -/
def tracksideApWpsBusinessKey : String := "rail_transit.trackside_ap_business"

/-- A snapshot of the business data: its revision, the digest and the sheets of its
workbook, and the manifest of its columns. -/
structure Snapshot where
  (businessRevision sha256 : String)
  sheets : List WorkbookSheet := []
  sourceFormatManifest : List ColumnSource := []

/-- What a call is given: its arguments, the checks of the target, the cancellation, the
business data, the identifier and the time of a new batch, and the remote side. -/
structure SyncCall where
  targetCodes : List String
  expectedRevision : String
  stations : List String
  target : SyncTarget
  siteId : String
  (refusal configurationError : Option String)
  (cancelStart cancelRun : Option PythonError)
  currentRevision : String
  snapshot : Except SyncFailure Snapshot
  (batchId requestedAt : String)
  submission : Submission
  rounds : List PollRound

/-- What a call ends with. -/
inductive SyncResult where
  | summary (batchId : String) (status : BatchStatus) (snapshotRevision : String)
  | failed (failure : SyncFailure)

/-- The errors behind which a run is looked for again. -/
def recoverableCodes : List String :=
  ["ASYNC_SUBMIT_FAILED", "WPS_ASYNC_TASK_ID_MISSING", "REMOTE_POLL_TEMPORARY_FAILED",
    "REMOTE_RESULT_UNKNOWN"]

section Sync

variable (lib : WpsLibrary) (call : SyncCall)

/-! ## A run -/

/-- A sanitized value of a result. -/
def sanitized : Json → Json
  | .str text => .str (lib.sanitize text)
  | value => value

/-- `int(result.get(key) or 0)`, bound to an integer of 64 bits. -/
def writtenCount (value : Json) : Except SyncFailure Unit :=
  match pythonInt lib.python ((sanitized lib value).orElse (.int 0)) with
  | .ok count =>
    if -(2 ^ 63) ≤ count ∧ count < 2 ^ 63 then .ok () else .error (.python .other)
  | .error raised => .error (.python raised)

/-- `_target_format_warning_count`. -/
def targetFormatWarningCount (result : ResultSummary) : Except PythonError Nat :=
  match result.formatWarnings with
  | some warnings => .ok warnings
  | none => safeInt lib (result.formatWarningCount.orElse (.int 0))

/-- The length of the list of format warnings of a result, if it is one. -/
def formatWarnings (result : Event) : Option Nat :=
  match dictGet result "format_warnings" with
  | .arr warnings => some warnings.length
  | _ => none

/-- `_append_column_width_report_warning`: the warning goes into the list, which is made
when there is none, and the list is counted. -/
def resultSummary (result : Event) (widthsWarn : Bool) : ResultSummary :=
  let warnings := if widthsWarn then some ((formatWarnings result).getD 0 + 1)
    else formatWarnings result
  { status := some (if 0 < warnings.getD 0 then .successWithWarnings else .success)
    formatWarnings := warnings
    formatWarningCount := if widthsWarn then .int (warnings.getD 0)
      else sanitized lib (dictGet result "format_warning_count") }

/-- A run whose result has come. -/
def succeedRun (payload : RequestPayload) (run : TargetRun) (result : Event)
    (store : SyncStore) : SyncStore × Except SyncFailure ResultSummary :=
  match columnWidthsWarn lib payload run.sourceFormatManifest result with
  | .error raised => (store, .error (.python raised))
  | .ok widthsWarn =>
    match writtenCount lib (dictGet result "written_object_count"),
      writtenCount lib (dictGet result "written_row_count") with
    | .error failure, _ => (store, .error failure)
    | _, .error failure => (store, .error failure)
    | .ok (), .ok () =>
      let summary := resultSummary lib result widthsWarn
      let status := if 0 < summary.formatWarnings.getD 0 then .successWithWarnings else .success
      (store.completeTargetRun run.key status summary "" "finished", .ok summary)

/-- The state of a remote task in the row of a failed run. -/
def failedTaskStatus (run : TargetRun) (code : String) : String :=
  if code = "WPS_REMOTE_EXECUTION_FAILED" then "failed"
  else if code = remoteTaskTimeout then "timeout"
  else if run.remoteTaskStatus = "" then "unknown"
  else run.remoteTaskStatus

/-- The handler of a `WpsSyncError`. -/
def failRun (run : TargetRun) (error : WpsError) (store : SyncStore) :
    SyncStore × Except SyncFailure ResultSummary :=
  if error.code ∈ recoverableCodes then
    (store.updateRemoteTaskPoll run.key .remoteResultUnknown "unknown" error.code
      error.businessResult, .ok { status := some .remoteResultUnknown })
  else
    match writtenCount lib error.writtenRowCount with
    | .error failure => (store, .error failure)
    | .ok () =>
      (store.completeTargetRun run.key .failed { status := some .failed } error.code
        (failedTaskStatus run error.code), .ok { status := some .failed })

/-- The result that a run has got already. -/
def storedResult (run : TargetRun) : Option ResultSummary :=
  if (run.status = .success ∨ run.status = .successWithWarnings ∨ run.status = .failed) ∧
      ¬ (run.status = .failed ∧ run.timedOut) then
    run.resultSummary
  else none

/-- The task of a run and its result. -/
def submitRun (payload : RequestPayload) (run : TargetRun) (store : SyncStore) :
    SyncStore × Except SyncFailure ResultSummary :=
  match call.configurationError with
  | some code => failRun lib run { code := code } store
  | none =>
    match executeAsyncTarget lib call.target payload run call.submission call.rounds store with
    | (after, .ok result) => succeedRun lib payload run result after
    | (after, .error (.wps error)) => failRun lib run error after
    | (after, .error (.python raised)) => (after, .error (.python raised))

/-- A run of a batch: its result is the stored one, or that of its task. -/
def executeRun (run : TargetRun) (store : SyncStore) :
    SyncStore × Except SyncFailure ResultSummary :=
  match call.cancelRun with
  | some raised => (store, .error (.python raised))
  | none =>
    if run.key.targetCode ≠ standardTargetCode then
      (store, .error (.wps { code := "WPS_TARGET_INVALID" }))
    else
      match storedResult run with
      | some result => (store, .ok result)
      | none =>
        match run.requestPayload with
        | none => (store, .error (.wps { code := "WPS_REMOTE_RESUME_CONTEXT_MISSING" }))
        | some payload => submitRun lib call payload run store

/-! ## A batch -/

/-- The runs of a batch in their order, until one raises. -/
def executeRuns : List TargetRun → SyncStore → SyncStore × Except SyncFailure (List ResultSummary)
  | [], store => (store, .ok [])
  | run :: rest, store =>
    match executeRun lib call run store with
    | (after, .error failure) => (after, .error failure)
    | (after, .ok result) =>
      match executeRuns rest after with
      | (last, .error failure) => (last, .error failure)
      | (last, .ok results) => (last, .ok (result :: results))

/-- The number of results with a status. -/
def countStatus (results : List ResultSummary) (status : ResultStatus) : Nat :=
  results.countP fun result => result.status = some status

/-- The status of a batch, with the number of its format warnings. -/
def batchStatus (results : List ResultSummary) (warnings : Nat) : BatchStatus :=
  let success := countStatus results .success + countStatus results .successWithWarnings
  let failed := countStatus results .failed
  if 0 < countStatus results .remoteResultUnknown then .remoteResultUnknown
  else if failed = 0 ∧ 0 < warnings then .successWithWarnings
  else if failed = 0 then .success
  else if success = 0 then .failed
  else .partialSuccess

/-- `_execute_persisted_batch`; a stored result without a status is a `KeyError`. -/
def executePersistedBatch (batchId revision : String) (runs : List TargetRun)
    (store : SyncStore) : SyncStore × SyncResult :=
  match executeRuns lib call runs store with
  | (after, .error failure) => (after, .failed failure)
  | (after, .ok results) =>
    if results.any (·.status.isNone) then (after, .failed (.python .other))
    else
      match results.mapM (targetFormatWarningCount lib) with
      | .error raised => (after, .failed (.python raised))
      | .ok counts =>
        let status := batchStatus results counts.sum
        (if status = .remoteResultUnknown then after.updateBatchState batchId status
          else after.completeBatch batchId status, .summary batchId status revision)

/-! ## A call -/

/-- The request of a new batch. -/
def requestPayload (snapshot : Snapshot) : RequestPayload where
  targetBatchId := (TaskKey.mk call.batchId standardTargetCode).text
  siteId := call.siteId
  businessKey := tracksideApWpsBusinessKey
  snapshotRevision := snapshot.businessRevision
  snapshotSha256 := snapshot.sha256
  workbook := ⟨snapshot.businessRevision, call.stations, snapshot.sheets⟩

/-- A new batch with its run. -/
def newBatch (snapshot : Snapshot) (store : SyncStore) : SyncStore :=
  (store.createBatch call.batchId snapshot.businessRevision call.requestedAt 1).createTargetRun
    ⟨call.batchId, standardTargetCode⟩ (requestPayload call snapshot) snapshot.sourceFormatManifest

/-- The batch of a call, which is stored and executed. -/
def executeNewBatch (snapshot : Snapshot) (store : SyncStore) : SyncStore × SyncResult :=
  executePersistedBatch lib call call.batchId snapshot.businessRevision
    [newTargetRun ⟨call.batchId, standardTargetCode⟩ (requestPayload call snapshot)
      snapshot.sourceFormatManifest]
    (newBatch call snapshot store)

/-- `TracksideApWpsSyncService.sync`. -/
def sync (store : SyncStore) : SyncStore × SyncResult :=
  if call.targetCodes.any (· ≠ standardTargetCode) then
    (store, .failed (.wps { code := "WPS_TARGET_UNSUPPORTED" }))
  else
    match call.refusal with
    | some code => (store, .failed (.wps { code := code }))
    | none =>
      match store.findResumableBatch [standardTargetCode] with
      | some (batch, runs) =>
        executePersistedBatch lib call batch.batchId batch.snapshotRevision runs store
      | none =>
        match call.cancelStart with
        | some raised => (store, .failed (.python raised))
        | none =>
          if call.expectedRevision ≠ "" ∧ call.currentRevision ≠ call.expectedRevision then
            (store, .failed (.wps { code := "TRACKSIDE_AP_SNAPSHOT_STALE" }))
          else
            match call.snapshot with
            | .error failure => (store, .failed failure)
            | .ok snapshot => executeNewBatch lib call snapshot store

end Sync

end NetConsole.Wps
