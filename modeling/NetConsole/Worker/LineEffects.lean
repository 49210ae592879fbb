import NetConsole.Worker.TaskRuntime

/-!
# What a line and a chunk do

What accepting a line does is decided by the line alone: it is silent, it ends
the task, it publishes an event, it breaks the protocol, or it raises
(`acceptLine_eq`). A chunk is refused as a whole, before any of its lines is
taken, when it does not decode or leaves an unfinished line that is too large
(`chunkError`). Otherwise feeding it after an accepted chunk is feeding the
concatenation (`feedStdout_append`).
-/

set_option autoImplicit false

namespace NetConsole.Worker

open Foundations List Option

/-! ## Effects of lines -/

/-- What accepting a line does to the progress of a task. -/
inductive LineEffect where
  | silent
  | ends (event : Event)
  | publishes (event : Event)
  | fails (error : ProtocolError)
  | raises

/-- Whether nothing can be seen of a line before the task completes. -/
def LineEffect.quiet : LineEffect → Bool
  | .silent | .ends _ => true
  | _ => false

/-- Whether no later line is taken. -/
def LineEffect.stops : LineEffect → Bool
  | .fails _ | .raises => true
  | _ => false

/-- The change of a live task's progress, and the signal. -/
def LineEffect.apply (progress : Progress) : LineEffect → Progress × Signal
  | .silent => (progress, .goesOn)
  | .ends event => ({ progress with terminalEvent := some event }, .goesOn)
  | .publishes event =>
    ({ progress with published := progress.published ++ [⟨event, "worker"⟩] }, .goesOn)
  | .fails error => ({ progress with protocolError := some error }, .fatal)
  | .raises => (progress, .raised)

variable (lib : PythonLibrary) (job : BackgroundJob)

/-- What an event does. -/
def eventEffect (event : Event) : LineEffect :=
  if textOr lib event "job_id" ≠ job.jobId then
    .fails ⟨"worker_protocol_schema_invalid", "event", none⟩
  else if containsReplacementCharacter (.obj event) then
    .fails ⟨"replacement_character_detected_in_current_event", "event", none⟩
  else
    let event := if isWebExportTask job.taskType then sanitizeWebExportEvent
      lib event else event
    let eventType := textOr lib event "type"
    if eventType ∈ ["finished", "error", "cancelled"] then .ends event
    else if eventType ≠ "" then .publishes event
    else .silent

/-- What a line does. -/
def lineEffect (rawLine : List Char) : LineEffect :=
  let line := strip (rawLine.rdropWhile (· = '\r'))
  if line = [] then .silent
  else if encodedLength line > workerProtocolMaxFrameBytes then .fails (frameTooLarge line)
  else
    match parseWorkerEventLine lib line with
    | .error _ => .raises
    | .ok (.invalid reason) => .fails ⟨reason, "stdout", none⟩
    | .ok (.event event) => eventEffect lib job event

variable {lib job} {progress : Progress}

theorem acceptWorkerEvent_eq (alive : progress.protocolError = none) (event : Event) :
    acceptWorkerEvent lib job progress event = ((eventEffect lib job event).apply progress).1 ∧
      signalOf (acceptWorkerEvent lib job progress event) =
        ((eventEffect lib job event).apply progress).2 := by
  simp only [acceptWorkerEvent, eventEffect]
  generalize (if isWebExportTask job.taskType then sanitizeWebExportEvent lib event
    else event) = accepted
  split
  · simp [failProtocol, signalOf, LineEffect.apply, alive]
  · split
    · simp [failProtocol, signalOf, LineEffect.apply, alive]
    · split
      · simp [signalOf, LineEffect.apply, alive]
      · split <;> simp [signalOf, LineEffect.apply, alive]

theorem acceptLine_eq (alive : progress.protocolError = none) (rawLine : List Char) :
    acceptLine lib job progress rawLine = (lineEffect lib job rawLine).apply progress := by
  simp only [acceptLine, lineEffect]
  generalize strip (rawLine.rdropWhile (· = '\r')) = line
  split
  · rfl
  · split
    · simp [failProtocol, alive, LineEffect.apply]
    · cases parseWorkerEventLine lib line with
      | error raised => rfl
      | ok parsed =>
        cases parsed with
        | invalid reason => simp [failProtocol, alive, LineEffect.apply]
        | event event =>
          obtain ⟨progressEqual, signalEqual⟩ :=
            acceptWorkerEvent_eq alive event
          exact Prod.ext progressEqual signalEqual

/-! ## Effects of lists of lines -/

variable (lib job) in
/-- The first effect after which no line is taken. -/
def firstStop (lines : List (List Char)) : Option LineEffect :=
  (lines.map (lineEffect lib job)).find? LineEffect.stops

variable (lib job) in
/-- The first effect that can be seen. -/
def firstVisible (lines : List (List Char)) : Option LineEffect :=
  (lines.map (lineEffect lib job)).find? fun effect => !effect.quiet

variable (lib job) in
theorem firstStop_cons (line : List Char) (rest : List (List Char)) :
    firstStop lib job (line :: rest) =
      if (lineEffect lib job line).stops then some (lineEffect lib job line)
      else firstStop lib job rest := by
  cases equal : (lineEffect lib job line).stops <;> simp [firstStop, equal]

variable (lib job) in
theorem firstVisible_cons (line : List Char) (rest : List (List Char)) :
    firstVisible lib job (line :: rest) =
      if (lineEffect lib job line).quiet then firstVisible lib job rest
      else some (lineEffect lib job line) := by
  cases equal : (lineEffect lib job line).quiet <;> simp [firstVisible, equal]

variable {lines : List (List Char)}

theorem firstStop_of_firstVisible {effect : LineEffect}
    (visible : firstVisible lib job lines = some effect) (stops : effect.stops = true) :
    firstStop lib job lines = some effect := by
  induction lines with
  | nil => cases visible
  | cons line rest ih =>
    rw [firstVisible_cons] at visible
    rw [firstStop_cons]
    cases equal : lineEffect lib job line <;> simp_all [LineEffect.quiet, LineEffect.stops]
    subst visible
    cases stops

theorem firstStop_of_invisible (invisible : firstVisible lib job lines = none) :
    firstStop lib job lines = none := by
  induction lines with
  | nil => rfl
  | cons line rest ih =>
    rw [firstVisible_cons] at invisible
    rw [firstStop_cons]
    cases equal : lineEffect lib job line <;> simp_all [LineEffect.quiet, LineEffect.stops]

theorem acceptLines_append (progress : Progress) (first second : List (List Char)) :
    acceptLines lib job progress (first ++ second) =
      match acceptLines lib job progress first with
      | (progress, .goesOn) => acceptLines lib job progress second
      | stopped => stopped := by
  induction first generalizing progress with
  | nil => rfl
  | cons line rest ih =>
    simp only [cons_append, acceptLines]
    cases acceptLine lib job progress line with
    | mk after signal =>
      cases signal with
      | goesOn => exact ih after
      | fatal => rfl
      | raised => rfl

/-- The signal of lines with the given first stop. -/
def stopSignal : Option LineEffect → Signal
  | none => .goesOn
  | some (.fails _) => .fatal
  | some _ => .raised

/-- The protocol error after lines with the given first stop. -/
def stopError : Option LineEffect → Option ProtocolError
  | some (.fails error) => some error
  | _ => none

theorem acceptLines_stop (alive : progress.protocolError = none) (lines : List (List Char)) :
    (acceptLines lib job progress lines).2 = stopSignal (firstStop lib job lines) ∧
      (acceptLines lib job progress lines).1.protocolError =
        stopError (firstStop lib job lines) := by
  induction lines generalizing progress with
  | nil => exact ⟨rfl, alive⟩
  | cons line rest ih =>
    simp only [acceptLines, acceptLine_eq alive, firstStop, map_cons]
    cases lineEffect lib job line with
    | silent => exact ih alive
    | ends event => exact ih (by exact alive)
    | publishes event => exact ih (by exact alive)
    | fails error => exact ⟨rfl, rfl⟩
    | raises => exact ⟨rfl, alive⟩

theorem published_prefix_acceptLines (progress : Progress) (lines : List (List Char))
    (alive : progress.protocolError = none) :
    progress.published <+: (acceptLines lib job progress lines).1.published := by
  induction lines generalizing progress with
  | nil => exact prefix_rfl
  | cons line rest ih =>
    simp only [acceptLines, acceptLine_eq alive]
    cases lineEffect lib job line with
    | silent => exact ih _ alive
    | ends event => exact ih { progress with terminalEvent := some event } alive
    | publishes event => exact (prefix_append _ _).trans (ih { progress with published := _ } alive)
    | fails error => exact prefix_rfl
    | raises => exact prefix_rfl

theorem acceptLines_publishes (alive : progress.protocolError = none) {event : Event}
    (visible : firstVisible lib job lines = some (.publishes event)) :
    progress.published ++ [⟨event, "worker"⟩] <+:
      (acceptLines lib job progress lines).1.published := by
  induction lines generalizing progress with
  | nil => cases visible
  | cons line rest ih =>
    simp only [firstVisible, map_cons] at visible
    simp only [acceptLines, acceptLine_eq alive]
    cases equal : lineEffect lib job line with
    | silent =>
      rw [equal] at visible
      exact ih alive visible
    | ends event =>
      rw [equal] at visible
      exact @ih { progress with terminalEvent := some event } alive visible
    | publishes other =>
      rw [equal] at visible
      obtain rfl : other = event := by simpa [LineEffect.quiet] using visible
      exact published_prefix_acceptLines { progress with published := _ } rest alive
    | fails error => simp [equal, LineEffect.quiet] at visible
    | raises => simp [equal, LineEffect.quiet] at visible

theorem acceptLines_unpublished (alive : progress.protocolError = none)
    (unpublished : ∀ event, firstVisible lib job lines ≠ some (.publishes event)) :
    (acceptLines lib job progress lines).1.published = progress.published := by
  induction lines generalizing progress with
  | nil => rfl
  | cons line rest ih =>
    simp only [firstVisible, map_cons] at unpublished
    simp only [acceptLines, acceptLine_eq alive]
    cases equal : lineEffect lib job line with
    | silent =>
      rw [equal] at unpublished
      exact ih alive unpublished
    | ends event =>
      rw [equal] at unpublished
      exact @ih { progress with terminalEvent := some event } alive unpublished
    | publishes event => simp [equal, LineEffect.quiet] at unpublished
    | fails error => rfl
    | raises => rfl

/-! ## Chunks -/

/-- The error with which a first chunk is refused before its lines are taken. -/
def chunkError (bytes : List UInt8) : Option ProtocolError :=
  match decode .start bytes with
  | none => some (decodeFailed "stdout")
  | some (_, text) =>
    if encodedLength (frames '\n' text).2 > workerProtocolMaxFrameBytes then
      some (frameTooLarge (frames '\n' text).2)
    else none

/-- The complete lines of a stream. -/
def completeLines (bytes : List UInt8) : List (List Char) :=
  match decode .start bytes with
  | none => []
  | some (_, text) => (frames '\n' text).1

/-- Whether a stream ends between two characters, with nothing but white space
after the last complete line. -/
def Idle (bytes : List UInt8) : Prop :=
  ∃ decoder text, decode .start bytes = some (decoder, text) ∧ decoder.owed = 0 ∧
    strip (frames '\n' text).2 = []

theorem chunkError_eq_none {bytes : List UInt8} : chunkError bytes = none ↔
      ∃ decoder text, decode .start bytes = some (decoder, text) ∧
        encodedLength (frames '\n' text).2 ≤ workerProtocolMaxFrameBytes := by
  simp only [chunkError]
  cases decode .start bytes with
  | none => simp
  | some decoded =>
    obtain ⟨decoder, text⟩ := decoded
    simp

/-- A task that has accepted the bytes in `done` and goes on. -/
structure Fed (lib : PythonLibrary) (start : RuntimeTask) (done : List UInt8)
    (task : RuntimeTask) : Prop where
  decoded : ∃ text, decode .start done = some (task.stdoutDecoder, text) ∧
    task.stdoutBuffer = (frames '\n' text).2 ∧
    acceptLines lib start.job start.progress (frames '\n' text).1 = (task.progress, .goesOn)
  alive : task.progress.protocolError = none
  shell : task = { start with
    progress := task.progress, stdoutBuffer := task.stdoutBuffer,
    stdoutDecoder := task.stdoutDecoder }

/-- The parts of a task that its standard output does not change. -/
def RuntimeTask.shell (task : RuntimeTask) : BackgroundJob × Bool × List Char × Utf8State :=
  (task.job, task.cancelRequested, task.stderrBuffer, task.stderrDecoder)

variable (lib) in
theorem feedStdout_shell (task : RuntimeTask) (chunk : List UInt8) :
    (feedStdout lib task chunk).1.shell = task.shell := by
  unfold feedStdout
  split
  · rfl
  · split
    · rfl
    · unfold feedStdoutText
      dsimp only
      split <;> rfl

variable (lib) in
theorem readPipe_shell (task : RuntimeTask) (chunks : List (List UInt8)) :
    (readPipe lib task chunks).shell = task.shell := by
  induction chunks generalizing task with
  | nil => rfl
  | cons chunk rest ih =>
    have one := feedStdout_shell lib task chunk
    by_cases goesOn : (feedStdout lib task chunk).2 = .goesOn
    · rw [readPipe_goesOn lib goesOn, ih, one]
    · rw [readPipe_stopped lib goesOn, one]

section Launched

variable {start task : RuntimeTask} {done chunk : List UInt8}

/-- A chunk is refused when the bytes up to its end would be. -/
theorem feedStdout_refused (fed : Fed lib start done task) {error : ProtocolError}
    (refused : chunkError (done ++ chunk) = some error) : (feedStdout lib task chunk).2 = .fatal ∧
      (feedStdout lib task chunk).1.progress.protocolError = some error ∧
      (feedStdout lib task chunk).1.progress.published = task.progress.published := by
  obtain ⟨_, decoded, buffer, -⟩ := fed.decoded
  simp only [chunkError, decode_append, decoded, bind_some] at refused
  simp only [feedStdout, fed.alive, isSome_none, Bool.false_eq_true, if_false]
  cases rest : decode task.stdoutDecoder chunk with
  | none =>
    simp only [rest, map_none, some.injEq] at refused
    simp [failProtocol, fed.alive, refused]
  | some tail =>
    obtain ⟨_, _⟩ := tail
    simp only [rest, map_some] at refused
    rw [frames_append, ← buffer] at refused
    split at refused
    · next large =>
      simp only [feedStdoutText, large, failProtocol, fed.alive]
      simpa using refused
    · cases refused

variable {cancelRequested : Bool} {stderr : List Char}
  (launch : start = launched job cancelRequested stderr)
include launch

variable (lib) in
theorem fed_launched : Fed lib start [] start := by
  subst launch
  exact ⟨⟨[], rfl, rfl, rfl⟩, rfl, rfl⟩

/-- Otherwise feeding a chunk is feeding the concatenation. -/
theorem feedStdout_append (fed : Fed lib start done task)
    (accepted : chunkError (done ++ chunk) = none) :
    feedStdout lib task chunk = feedStdout lib start (done ++ chunk) := by
  obtain ⟨text, decoded, buffer, lines⟩ := fed.decoded
  obtain ⟨decoder, whole, decodedWhole, small⟩ := chunkError_eq_none.mp accepted
  obtain ⟨middle, output, more, _, after, rfl⟩ := decode_cut decodedWhole
  obtain ⟨rfl, rfl⟩ : task.stdoutDecoder = middle ∧ text = output := by simp_all
  rw [frames_append, ← buffer] at small
  have alive : start.progress.protocolError = none := launch ▸ rfl
  have fresh : start.stdoutDecoder = .start := launch ▸ rfl
  simp only [feedStdout, fed.alive, alive, fresh, isSome_none, Bool.false_eq_true, if_false, after]
  change _ = (match decode .start (done ++ chunk) with
    | none => _
    | some (decoder, text) => _)
  rw [decodedWhole]
  have whole : frames '\n' ([] ++ (text ++ more)) =
      ((frames '\n' text).1 ++ (frames '\n' (task.stdoutBuffer ++ more)).1,
        (frames '\n' (task.stdoutBuffer ++ more)).2) := by
    rw [nil_append, frames_append, buffer]
  simp only [feedStdoutText, Nat.not_lt.mpr small, if_false]
  have buffered : start.stdoutBuffer = [] := launch ▸ rfl
  simp only [buffered, whole, Nat.not_lt.mpr small, if_false, acceptLines_append, lines]
  rw [fed.shell]

end Launched

end NetConsole.Worker
