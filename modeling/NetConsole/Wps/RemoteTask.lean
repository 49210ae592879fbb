import NetConsole.Wps.SyncStore

/-!
# Remote tasks of the WPS synchronisation

`_execute_async_target` submits the request of a run, or goes on with the task that has
been submitted, and queries the task until it reports a terminal state or the deadline
has passed. What a query reports is stored in the run before it is read further.

A call is given the answers of the remote side: one to the submission, and one to each
query before the deadline. An answer of the remote side is a JSON value.
-/

set_option autoImplicit false

namespace NetConsole.Wps

open Worker (Json Event PythonLibrary PythonError dictGet dictHas textOr pythonInt pythonStr strip)

/-! ## Errors -/

/-- A `WpsSyncError`, as far as its handler reads it: the code, and of the details the
number of written rows and the business result. -/
structure WpsError where
  code : String
  writtenRowCount : Json := .null
  businessResult : Bool := false

/-- What the functions raise. -/
inductive SyncFailure where
  | wps (error : WpsError)
  | python (error : PythonError)

/-- A target as it is configured. -/
structure SyncTarget where
  (targetCode targetType expectedDocumentId scriptId : String)

/-- `WPS_SYNC_PROTOCOL_VERSION`. -/
def wpsSyncProtocolVersion : Int := 2

/-- `WPS_SCRIPT_VERSIONS` of the one target. -/
def wpsScriptVersion : String := "2.8.4-standard"

/-- `WPS_DEPLOYMENT_IDS` of the one target. -/
def wpsDeploymentId : String := "trackside-ap-standard-2.8.4"

/-- What the standard library computes, and the cleaning of texts. A finite float is the
number it stands for: of an integer, which may be too large for one, of a text, and
`abs(left - right) <= tolerance` of floats. -/
structure WpsLibrary where
  python : PythonLibrary
  sanitize : String → String
  floatOfInt : Int → Except PythonError Rat
  finiteFloat : String → Option Rat
  within : Rat → Rat → Rat → Bool

variable (lib : WpsLibrary)

/-! ## The answer of a finished task -/

/-- A text without blanks at its ends, in lower case. -/
def folded (text : String) : String :=
  lib.python.casefold (String.ofList (strip text.toList))

/-- The states that a finished task reports. -/
def finishedStates : List String := ["finished", "success", "completed"]

/-- The result of a task that is a text. -/
def decodeResultText (text : String) : Except SyncFailure Event :=
  if folded lib text ∈ ["[undefined]", "undefined"] then
    .error (.wps { code := "WPS_SCRIPT_RESULT_EMPTY" })
  else if strip text.toList = [] then .error (.wps { code := "WPS_SCRIPT_RESULT_INVALID" })
  else
    match lib.python.loads text.toList with
    | .error .jsonDecodeError => .error (.wps { code := "WPS_SCRIPT_RESULT_INVALID" })
    | .error raised => .error (.python raised)
    | .ok (.obj result) => .ok result
    | .ok _ => .error (.wps { code := "WPS_SCRIPT_RESULT_INVALID" })

/-- `_unwrap_wps_sync_task_response`. -/
def unwrapResponse (body : Event) : Except SyncFailure Event :=
  if dictHas body "protocol_version" ∧ ¬ dictHas body "data" then .ok body
  else if folded lib (textOr lib.python body "status") ∉ finishedStates then
    .error (.wps { code := "WPS_SCRIPT_STATUS_INVALID" })
  else if (dictGet body "error").truthy then
    .error (.wps { code := "WPS_SCRIPT_EXECUTION_FAILED" })
  else
    match dictGet body "data" with
    | .obj data =>
      match dictGet data "result" with
      | .null => .error (.wps { code := "WPS_SCRIPT_RESULT_EMPTY" })
      | .obj result => .ok result
      | .str text => decodeResultText lib text
      | _ => .error (.wps { code := "WPS_SCRIPT_RESULT_INVALID" })
    | _ => .error (.wps { code := "WPS_SCRIPT_RESULT_EMPTY" })

/-- `_is_truthy_remote_flag`. -/
def isTruthyRemoteFlag : Json → Bool
  | .bool value => value
  | .int value => value != 0
  | .float text => text != "0.0" && text != "-0.0"
  | value =>
    ["1", "true", "yes", "ready", "success"].contains
      (folded lib (pythonStr lib.python (value.orElse (.str ""))))

/-- A check that fails with a code. -/
def check (holds : Bool) (code : String) : Except SyncFailure Unit :=
  if holds then .ok () else .error (.wps { code := code })

/-- An identity that a real deployment returns: it is not missing, and it is an expected
one. -/
def checkIdentity (result : Event) (key : String) (required : Bool) (expected : List String)
    (missing mismatch : String) : Except SyncFailure Unit := do
  check (!required || textOr lib.python result key != "") missing
  match dictGet result key with
  | .null => return ()
  | value => check (expected.contains (pythonStr lib.python value)) mismatch

/-- `_validate_common`. -/
def validateCommon (target : SyncTarget) (result : Event) : Except SyncFailure Unit := do
  match pythonInt lib.python ((dictGet result "protocol_version").orElse (.int 0)) with
  | .error raised => throw (.python raised)
  | .ok version => check (version == wpsSyncProtocolVersion) "WPS_PROTOCOL_MISMATCH"
  check (textOr lib.python result "target_type" == target.targetType) "WPS_TARGET_TYPE_MISMATCH"
  check (textOr lib.python result "document_id" == target.expectedDocumentId)
    "WPS_DOCUMENT_IDENTITY_MISMATCH"
  let required := dictHas result "runtime_capability"
  checkIdentity lib result "script_version" required [wpsScriptVersion, "test"]
    "WPS_SCRIPT_VERSION_MISSING" "WPS_SCRIPT_VERSION_MISMATCH"
  checkIdentity lib result "deployment_id" required [wpsDeploymentId]
    "WPS_DEPLOYMENT_ID_MISSING" "WPS_DEPLOYMENT_ID_MISMATCH"
  checkIdentity lib result "script_id"
    (required && textOr lib.python result "target_code" == target.targetCode)
    [target.scriptId, "test"] "WPS_SCRIPT_ID_MISSING" "WPS_SCRIPT_ID_MISMATCH"
  checkIdentity lib result "target_code" required [target.targetCode]
    "WPS_TARGET_CODE_MISSING" "WPS_TARGET_CODE_MISMATCH"

/-- The fields of an answer that are compared with those of the request. -/
def RequestPayload.identity (payload : RequestPayload) : List (String × String) :=
  [("target_batch_id", payload.targetBatchId), ("site_id", payload.siteId),
    ("business_key", payload.businessKey), ("snapshot_revision", payload.snapshotRevision),
    ("snapshot_sha256", payload.snapshotSha256)]

/-- `validate_sync_response`. -/
def validateSyncResponse (target : SyncTarget) (payload : RequestPayload) (body : Event) :
    Except SyncFailure Event := do
  let result ← unwrapResponse lib body
  match dictGet result "artifact_ready" with
  | .null => pure ()
  | ready => check (isTruthyRemoteFlag lib ready) "WPS_ARTIFACT_NOT_READY"
  validateCommon lib target result
  if !(dictGet result "success").truthy then
    let code := textOr lib.python result "error_code"
    throw (.wps {
      code := if code = "" then "WPS_REMOTE_FAILED" else code
      writtenRowCount := dictGet result "written_row_count" })
  check (payload.identity.all fun field => textOr lib.python result field.1 == field.2)
    "WPS_RESPONSE_IDENTITY_MISMATCH"
  return result

/-- `_remote_business_result_from_poll`, whose dictionary is not read. -/
def remoteBusinessResultFromPoll (body : Event) : Except SyncFailure Unit :=
  match dictGet body "data" with
  | .obj data =>
    match dictGet data "result" with
    | .str text =>
      match lib.python.loads text.toList with
      | .ok _ | .error .jsonDecodeError => .ok ()
      | .error raised => .error (.python raised)
    | _ => .ok ()
  | _ => .ok ()

/-! ## Queries -/

/-- The states of a task that is still on its way. -/
def runningStates : List String := ["pending", "queued", "starting", "running"]

/-- The states of a task that has timed out. -/
def timeoutStates : List String := ["timeout", "timed_out"]

/-- The states of a task that has failed. -/
def failedStates : List String := ["failed", "failure", "error", "cancelled", "canceled"]

/-- The errors of a query that another query follows. -/
def temporaryCodes : List String :=
  ["REMOTE_POLL_TEMPORARY_FAILED", "WPS_REMOTE_UNAVAILABLE", "WPS_REMOTE_RATE_LIMITED",
    "REMOTE_RESULT_UNKNOWN"]

/-- The errors of a result that is not there yet. -/
def pendingCodes : List String := ["WPS_ARTIFACT_NOT_READY", "WPS_SCRIPT_RESULT_EMPTY"]

/-- A pass of the loop before the deadline: an exception of the cancellation or of the
process, or a query with its error or answer. -/
inductive PollRound where
  | interrupted (error : PythonError)
  | refused (code : String)
  | answered (body : Json)

/-- What a pass comes to: another one, or the end of the loop. -/
inductive PollOutcome where
  | again (lastRemoteStatus : String)
  | finished (result : Except SyncFailure Event)

/-- The result of a task that reports that it has finished. -/
def readFinished (target : SyncTarget) (payload : RequestPayload) (key : TaskKey) (body : Event)
    (remoteStatus : String) (store : SyncStore) : SyncStore × PollOutcome :=
  let finished := store.updateRemoteTaskPoll key .remoteFinished remoteStatus "" true
  match validateSyncResponse lib target payload body with
  | .ok result => (finished.answer payload body, .finished (.ok result))
  | .error (.python raised) => (finished, .finished (.error (.python raised)))
  | .error (.wps error) =>
    if error.code ∈ pendingCodes then
      (finished.updateRemoteTaskPoll key .remoteArtifactPending remoteStatus error.code true,
        .again remoteStatus)
    else if error.code ≠ "WPS_SCRIPT_EXECUTION_FAILED" then
      (finished, .finished (.error (.wps error)))
    else
      (finished, .finished (.error (.wps { error with code := "WPS_REMOTE_EXECUTION_FAILED" })))

/-- A query that has been answered by a dictionary. -/
def readAnswer (target : SyncTarget) (payload : RequestPayload) (key : TaskKey) (body : Event)
    (store : SyncStore) : SyncStore × PollOutcome :=
  let remoteStatus := folded lib (textOr lib.python body "status")
  match remoteBusinessResultFromPoll lib body with
  | .error failure => (store, .finished (.error failure))
  | .ok () =>
    if remoteStatus ∈ runningStates then
      (store.updateRemoteTaskPoll key .remoteRunning remoteStatus "" true, .again remoteStatus)
    else if remoteStatus ∈ failedStates ∨ remoteStatus ∈ timeoutStates then
      let code :=
        if remoteStatus ∈ timeoutStates then remoteTaskTimeout else "WPS_REMOTE_EXECUTION_FAILED"
      ((store.report key).updateRemoteTaskPoll key .failed remoteStatus code true,
        .finished (.error (.wps { code := code, businessResult := true })))
    else if remoteStatus ∉ finishedStates then
      let code :=
        if remoteStatus ∈ ["", "unknown", "indeterminate"] then "REMOTE_RESULT_UNKNOWN"
        else "WPS_REMOTE_TASK_STATUS_INVALID"
      (store.updateRemoteTaskPoll key .remoteResultUnknown
        (if remoteStatus = "" then "unknown" else remoteStatus) code true,
        .again (if remoteStatus = "" then "unknown" else remoteStatus))
    else readFinished lib target payload key body remoteStatus (store.report key)

/-- A pass of the loop. -/
def pollRemote (target : SyncTarget) (payload : RequestPayload) (key : TaskKey)
    (lastRemoteStatus : String) (round : PollRound) (store : SyncStore) : SyncStore × PollOutcome :=
  match round with
  | .interrupted raised => (store, .finished (.error (.python raised)))
  | .refused code =>
    (store.updateRemoteTaskPoll key .remoteResultUnknown "unknown" code true,
      if code ∈ temporaryCodes then .again "unknown"
      else .finished (.error (.wps { code := code })))
  | .answered (.obj body) => readAnswer lib target payload key body store
  | .answered _ =>
    (store.updateRemoteTaskPoll key .failed
      (if lastRemoteStatus = "" then "unknown" else lastRemoteStatus)
      "WPS_REMOTE_RESPONSE_INVALID" false,
      .finished (.error (.wps { code := "WPS_REMOTE_RESPONSE_INVALID" })))

/-- The loop of `_execute_async_target`; behind the last pass the deadline has passed. -/
def pollUntilDone (target : SyncTarget) (payload : RequestPayload) (key : TaskKey) :
    String → List PollRound → SyncStore → SyncStore × Except SyncFailure Event
  | _, [], store => (store, .error (.wps { code := remoteTaskTimeout }))
  | lastRemoteStatus, round :: rest, store =>
    match pollRemote lib target payload key lastRemoteStatus round store with
    | (after, .again status) => pollUntilDone target payload key status rest after
    | (after, .finished result) => (after, result)

/-- The answer to a submission. -/
inductive Submission where
  | interrupted (error : PythonError)
  | refused (code : String)
  | accepted (taskId : String)

/-- `_execute_async_target`: the task of a run, which is submitted when there is none. -/
def executeAsyncTarget (target : SyncTarget) (payload : RequestPayload) (run : TargetRun)
    (submission : Submission) (rounds : List PollRound) (store : SyncStore) :
    SyncStore × Except SyncFailure Event :=
  if run.remoteTaskId ≠ "" then
    pollUntilDone lib target payload run.key
      (if run.remoteTaskStatus = "" then "unknown" else run.remoteTaskStatus) rounds store
  else
    match submission with
    | .interrupted raised => (store.submit payload, .error (.python raised))
    | .refused code => (store.submit payload, .error (.wps { code := code }))
    | .accepted taskId =>
      if strip taskId.toList = [] then
        (store.submit payload, .error (.wps { code := "WPS_ASYNC_TASK_ID_MISSING" }))
      else
        pollUntilDone lib target payload run.key
          (if run.remoteTaskStatus = "" then "unknown" else run.remoteTaskStatus) rounds
          ((store.submit payload).updateRemoteTaskSubmitted run.key taskId "submitted")

end NetConsole.Wps
