import NetConsole.Foundations.TextStream
import NetConsole.Worker.Protocol

/-!
# The task runtime

The host reads a worker's standard output in chunks and hands each to
`feedStdout`: the chunk is decoded, joined to the unfinished line, and its
complete lines are accepted one by one. `readPipe` is the loop of the reader,
which stops at the first chunk that is fatal or raises; `complete` is called
when the process has ended.

What lines can change is `Progress`: the events handed to the event hub, the
terminal event that waits for `complete`, and the protocol error.
-/

set_option autoImplicit false

namespace NetConsole.Worker

open Foundations

/-! ## Tasks -/

/-- The states of a task. -/
inductive TaskState where
  | pending | starting | running | stopping | completed | failed | cancelled
  deriving DecidableEq

def TaskState.value : TaskState → String
  | .pending => "PENDING"
  | .starting => "STARTING"
  | .running => "RUNNING"
  | .stopping => "STOPPING"
  | .completed => "COMPLETED"
  | .failed => "FAILED"
  | .cancelled => "CANCELLED"

/-- What is read of a job. -/
structure BackgroundJob where
  (jobId taskType : String)
  params : Event

/-- A call of `events.publish`. -/
structure Published where
  payload : Event
  source : String

/-- The arguments of the first `_fail_protocol`. -/
structure ProtocolError where
  (reason stream : String)
  frameBytes : Option Nat
  deriving DecidableEq

/-- What accepting lines changes. -/
structure Progress where
  published : List Published
  terminalEvent : Option Event
  protocolError : Option ProtocolError

/-- A task whose worker runs. -/
structure RuntimeTask where
  job : BackgroundJob
  cancelRequested : Bool
  progress : Progress
  stdoutBuffer : List Char
  stdoutDecoder : Utf8State
  stderrBuffer : List Char
  stderrDecoder : Utf8State

/-- A call goes on, returns that the protocol is broken, or raises. -/
inductive Signal where
  | goesOn | fatal | raised
  deriving DecidableEq

/-! ## Accepting lines -/

/-- `_fail_protocol`: the first error stays. -/
def failProtocol (progress : Progress) (error : ProtocolError) : Progress :=
  match progress.protocolError with
  | some _ => progress
  | none => { progress with protocolError := some error }

/-- The error of an undecodable stream. -/
def decodeFailed (stream : String) : ProtocolError :=
  ⟨"worker_protocol_decode_failed", stream, none⟩

def frameTooLarge (text : List Char) : ProtocolError :=
  ⟨"worker_protocol_frame_too_large", "stdout", some (encodedLength text)⟩

variable (lib : PythonLibrary) (job : BackgroundJob)

/-- An event of the worker is taken over. -/
def acceptWorkerEvent (progress : Progress) (event : Event) : Progress :=
  if textOr lib event "job_id" ≠ job.jobId then
    failProtocol progress ⟨"worker_protocol_schema_invalid", "event", none⟩
  else if containsReplacementCharacter (.obj event) then
    failProtocol progress ⟨"replacement_character_detected_in_current_event", "event", none⟩
  else
    let event := if isWebExportTask job.taskType then sanitizeWebExportEvent
      lib event else event
    let eventType := textOr lib event "type"
    if eventType ∈ ["finished", "error", "cancelled"] then
      { progress with terminalEvent := some event }
    else if eventType ≠ "" then
      { progress with published := progress.published ++ [⟨event, "worker"⟩] }
    else progress

/-- The answer to a change of progress. -/
def signalOf (progress : Progress) : Signal :=
  if progress.protocolError.isSome then .fatal else .goesOn

/-- The body of the loop over the complete lines. -/
def acceptLine (progress : Progress) (rawLine : List Char) : Progress × Signal :=
  let line := strip (rawLine.rdropWhile (· = '\r'))
  if line = [] then (progress, .goesOn)
  else if encodedLength line > workerProtocolMaxFrameBytes then
    (failProtocol progress (frameTooLarge line), .fatal)
  else
    match parseWorkerEventLine lib line with
    | .error _ => (progress, .raised)
    | .ok (.invalid reason) => (failProtocol progress ⟨reason, "stdout", none⟩, .fatal)
    | .ok (.event event) =>
      let progress := acceptWorkerEvent lib job progress event
      (progress, signalOf progress)

/-- The loop over the complete lines. -/
def acceptLines (progress : Progress) : List (List Char) → Progress × Signal
  | [] => (progress, .goesOn)
  | rawLine :: rest =>
    match acceptLine lib job progress rawLine with
    | (progress, .goesOn) => acceptLines progress rest
    | stopped => stopped

/-! ## Feeding chunks -/

/-- Text of the worker is split into lines. -/
def feedStdoutText (task : RuntimeTask) (text : List Char) : RuntimeTask × Signal :=
  let combined := frames '\n' (task.stdoutBuffer ++ text)
  let task := { task with stdoutBuffer := combined.2 }
  if encodedLength task.stdoutBuffer > workerProtocolMaxFrameBytes then
    ({ task with progress := failProtocol task.progress (frameTooLarge task.stdoutBuffer) }, .fatal)
  else
    let (progress, signal) := acceptLines lib task.job task.progress combined.1
    ({ task with progress }, signal)

/-- Bytes of the worker are decoded. -/
def feedStdout (task : RuntimeTask) (chunk : List UInt8) : RuntimeTask × Signal :=
  if task.progress.protocolError.isSome then (task, .goesOn)
  else
    match decode task.stdoutDecoder chunk with
    | none =>
      ({ task with progress := failProtocol task.progress (decodeFailed "stdout") }, .fatal)
    | some (decoder, text) => feedStdoutText lib { task with stdoutDecoder := decoder } text

/-- The chunks of a pipe, one after another. -/
def readPipe (task : RuntimeTask) : List (List UInt8) → RuntimeTask
  | [] => task
  | chunk :: rest =>
    match feedStdout lib task chunk with
    | (task, .goesOn) => readPipe task rest
    | (task, _) => task

theorem readPipe_goesOn {task : RuntimeTask} {chunk : List UInt8}
    (goesOn : (feedStdout lib task chunk).2 = .goesOn) (rest : List (List UInt8)) :
    readPipe lib task (chunk :: rest) = readPipe lib (feedStdout lib task chunk).1 rest := by
  simp only [readPipe]
  split
  · next fed equal => rw [equal]
  · next fed signal other equal =>
    rw [equal] at goesOn
    exact absurd goesOn other

theorem readPipe_stopped {task : RuntimeTask} {chunk : List UInt8}
    (stopped : (feedStdout lib task chunk).2 ≠ .goesOn) (rest : List (List UInt8)) :
    readPipe lib task (chunk :: rest) = (feedStdout lib task chunk).1 := by
  simp only [readPipe]

/-! ## Completion -/

/-- `_flush_decoders`: no byte completes a character at the end, so the final
text of either stream is empty. -/
def flushDecoders (task : RuntimeTask) : Progress :=
  if task.progress.protocolError.isSome then task.progress
  else if task.stdoutDecoder.owed ≠ 0 then failProtocol task.progress (decodeFailed "stdout")
  else if task.stderrDecoder.owed ≠ 0 then failProtocol task.progress (decodeFailed "stderr")
  else task.progress

/-- The unfinished line at the end of the stream; `none` when it raises. -/
def acceptRemainder (progress : Progress) (buffer : List Char) : Option Progress :=
  if progress.protocolError.isSome ∨ strip buffer = [] then some progress
  else if encodedLength buffer > workerProtocolMaxFrameBytes then
    some (failProtocol progress (frameTooLarge buffer))
  else
    match parseWorkerEventLine lib (strip buffer) with
    | .error _ => none
    | .ok (.invalid reason) => some (failProtocol progress ⟨reason, "stdout", none⟩)
    | .ok (.event event) => some (acceptWorkerEvent lib job progress event)

def workerProtocolErrorCode : String := "WORKER_PROTOCOL_CORRUPTED"

/-- The frame size in a payload. -/
def frameBytesValue (error : ProtocolError) : Json :=
  match error.frameBytes with
  | none => .null
  | some count => .int count

/-- The payload of `_fail_protocol`. -/
def protocolErrorPayload (error : ProtocolError) : Event :=
  let message := "Worker 内部通信协议损坏，任务已强制终止。"
  [("type", .str "error"), ("job_id", .str job.jobId), ("stage", .str "worker_protocol"),
    ("current", .int 0), ("total", .int 0), ("message", .str message),
    ("result", .obj
      [("error_code", .str workerProtocolErrorCode), ("text_integrity", .str "current_corrupted"),
        ("text_integrity_reason", .str error.reason), ("reason", .str error.reason),
        ("stream", .str error.stream), ("frame_bytes", frameBytesValue error),
        ("max_frame_bytes", .int workerProtocolMaxFrameBytes), ("worker_exit_code", .null),
        ("data_persisted", .null)]),
    ("error", .str message), ("error_code", .str workerProtocolErrorCode),
    ("reason", .str error.reason), ("stream", .str error.stream),
    ("frame_bytes", frameBytesValue error),
    ("max_frame_bytes", .int workerProtocolMaxFrameBytes), ("traceback", .str ""),
    ("cancelled", .bool false)]

/-- The exit code stands in the payload and in its result. -/
def attachWorkerExitCode (payload : Event) (exitCode : Int) : Event :=
  let payload := dictSet payload "worker_exit_code" (.int exitCode)
  let result : Event :=
    match dictGet payload "result" with
    | .obj fields => fields
    | _ => []
  let result := dictSet result "worker_exit_code" (.int exitCode)
  dictSet payload "result" (.obj (dictSetDefault result "data_persisted" .null))

/-- The state that a finished event names. -/
def finishedTerminalState (event : Event) : TaskState :=
  let stateText := lib.upper
    (String.ofList (strip (textOr lib event "terminal_state").toList))
  if stateText = TaskState.failed.value then .failed
  else if stateText = TaskState.cancelled.value then .cancelled
  else .completed

/-- The message of a worker that ended without a usable terminal event. -/
def exitMessage (task : RuntimeTask) (event : Event) (exitCode : Int) : String :=
  pythonStr lib <| (dictGet event "message").orElse <| (dictGet event "error").orElse <|
    (Json.str (String.ofList (strip task.stderrBuffer))).orElse <|
    .str ("后台任务异常退出，退出码 " ++ toString exitCode)

/-- The payload that `complete` builds, and the terminal state. -/
def terminalPayload (task : RuntimeTask) (progress : Progress) (exitCode : Int) :
    Event × TaskState :=
  match progress.protocolError with
  | some error => (attachWorkerExitCode (protocolErrorPayload task.job error) exitCode, .failed)
  | none =>
    let event := progress.terminalEvent.getD []
    let cancelled := (dictGet event "cancelled").truthy || task.cancelRequested
    let eventType := textOr lib event "type"
    if eventType = "cancelled" then (event, .cancelled)
    else if eventType = "error" then (attachWorkerExitCode event exitCode, .failed)
    else if exitCode = 0 ∧ eventType = "finished" then
      (event, finishedTerminalState lib event)
    else
      let message :=
        if cancelled then "后台任务已取消" else exitMessage lib task event exitCode
      let payload : Event :=
        [("type", .str (if cancelled then "cancelled" else "error")),
          ("job_id", .str task.job.jobId), ("stage", .str ""), ("current", .int 0),
          ("total", .int 0), ("message", .str message),
          ("result",
            match dictGet event "result" with
            | .obj fields => .obj fields
            | _ => .null),
          ("error", .str message),
          ("traceback", .str (pythonStr lib ((dictGet event "traceback").orElse
            (.str (String.ofList task.stderrBuffer))))),
          ("cancelled", .bool cancelled)]
      (attachWorkerExitCode payload exitCode, if cancelled then .cancelled else .failed)

def attachAcWebPlanId (payload : Event) : Event :=
  let planId := strip (textOr lib job.params "plan_id").toList
  if job.taskType = "ac_command_action_execute" ∧ planId ≠ [] ∧
      strip (textOr lib payload "plan_id").toList = [] then
    dictSet payload "plan_id" (.str (String.ofList planId))
  else payload

/-- The event of `_set_state` for a terminal state. -/
def stateEvent (state : TaskState) : Event :=
  attachAcWebPlanId lib job
    [("type", .str "state"), ("job_id", .str job.jobId), ("task_type", .str job.taskType),
      ("state", .str state.value)]

/-- What can be seen of a run: the events handed to the hub, the protocol
failure, and the returned payload with the terminal state, unless `complete`
raised. -/
structure Outcome where
  published : List Published
  failure : Option ProtocolError
  ended : Option (Event × TaskState)

/-- The worker has ended. -/
def complete (task : RuntimeTask) (exitCode : Int) : Outcome :=
  let flushed := flushDecoders task
  match acceptRemainder lib task.job flushed task.stdoutBuffer with
  | none => ⟨flushed.published, flushed.protocolError, none⟩
  | some progress =>
    let (payload, state) := terminalPayload lib task progress exitCode
    let payload :=
      if isWebExportTask task.job.taskType then sanitizeWebExportEvent lib payload else payload
    let payload := attachAcWebPlanId lib task.job payload
    ⟨progress.published ++ [⟨payload, "service"⟩, ⟨stateEvent lib task.job state, "service"⟩],
      progress.protocolError, some (payload, state)⟩

/-- A task whose worker has written nothing to its standard output, whatever it
wrote to its standard error. -/
def launched (cancelRequested : Bool) (stderr : List Char) : RuntimeTask :=
  ⟨job, cancelRequested, ⟨[], none, none⟩, [], .start, stderr, .start⟩

/-- A whole run: the chunks, then the end of the process. -/
def runChunks (task : RuntimeTask) (chunks : List (List UInt8)) (exitCode : Int) : Outcome :=
  complete lib (readPipe lib task chunks) exitCode

end NetConsole.Worker
