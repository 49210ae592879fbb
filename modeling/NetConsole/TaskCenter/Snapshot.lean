import NetConsole.Syslog.RawStream

/-!
# Task snapshots and events

A task has a snapshot, and events change it: `applyEvent` is `_apply_event` of
the task service, and `allowedFrom` is the set of stored states from which the
service lets an event be recorded.

Results are Python dictionaries that only pass through: what is read of them,
and their JSON text, are the fields of a `ResultFormat`. An empty text stands for
a payload entry that is missing or false. Of a snapshot the model keeps the
fields that these functions and the repository read or change.
-/

set_option autoImplicit false

namespace NetConsole.TaskCenter

open Syslog (firstOf isPythonSpace stripWhere)
open List

/-! ## States -/

/-- `TaskState`. -/
inductive TaskState where
  | pending | starting | running | stopping | completed | failed | cancelled
  deriving DecidableEq, Repr

namespace TaskState

def text : TaskState → String
  | pending => "PENDING"
  | starting => "STARTING"
  | running => "RUNNING"
  | stopping => "STOPPING"
  | completed => "COMPLETED"
  | failed => "FAILED"
  | cancelled => "CANCELLED"

/-- `TaskState(value)`; another value raises. -/
def ofText (value : String) : Option TaskState :=
  [pending, starting, running, stopping, completed, failed, cancelled].find? fun state =>
    state.text = value

/-- `TERMINAL_TASK_STATES`. -/
def isTerminal : TaskState → Bool
  | completed | failed | cancelled => true
  | _ => false

/-- `_ACTIVE_TASK_STATES`. -/
def activeStates : List TaskState := [pending, starting, running, stopping]

theorem mem_activeStates {state : TaskState} : state ∈ activeStates ↔ state.isTerminal = false := by
  cases state <;> decide

/-- `_terminal_event_type_for_status`. -/
def terminalEventType : TaskState → String
  | completed => "finished"
  | failed => "error"
  | cancelled => "cancelled"
  | _ => ""

end TaskState

/-! ## Results, snapshots and events -/

/-- What the code reads of results, how it writes them as text, and the digest,
which is taken to have no collisions. -/
structure ResultFormat (Result : Type) where
  empty : Result
  /-- The entries of the second over those of the first. -/
  merge : Result → Result → Result
  planId : Result → String
  withPlanId : Result → String → Result
  withErrorCode : Result → String → Result
  /-- The result of a task whose worker sent a corrupted text. -/
  protocolCorrupted : Result
  resultPath : Result → String
  textIntegrity : Result → String
  textIntegrityReason : Result → String
  /-- `_result_summary`, with the size in bytes. -/
  resultSummary : Result → Nat → Result
  /-- `_canonical_result_json`; `none` when it raises for a NaN or an infinity. -/
  canonicalJson : Result → Option String
  /-- `json.loads`, when it gives a dictionary. -/
  parse : String → Option Result
  sha256 : String → String
  /-- `_event_datetime`, in milliseconds. -/
  eventTime : String → Option Int
  withPlanId_ne_empty : ∀ result plan, withPlanId result plan ≠ empty
  planId_withPlanId : ∀ result plan, plan ≠ "" → planId (withPlanId result plan) ≠ ""
  textIntegrity_withPlanId : ∀ result plan,
    textIntegrity (withPlanId result plan) = textIntegrity result
  textIntegrityReason_withPlanId : ∀ result plan,
    textIntegrityReason (withPlanId result plan) = textIntegrityReason result
  textIntegrity_empty : textIntegrity empty = ""
  textIntegrityReason_empty : textIntegrityReason empty = ""
  canonicalJson_withErrorCode : ∀ result code, (canonicalJson result).isSome →
    (canonicalJson (withErrorCode result code)).isSome
  parse_canonicalJson : ∀ result text, canonicalJson result = some text →
    parse text = some result
  parse_empty : parse "" = none
  sha256_injective : Function.Injective sha256
  sha256_ne_empty : ∀ text, sha256 text ≠ ""
  /-- Digests are printable. -/
  sha256_printable : ∀ text, '\x00' ∉ (sha256 text).toList

/-- A task, as it is stored and shown. -/
structure TaskSnapshot (Result : Type) where
  (taskId taskType : String)
  status : TaskState
  (createdTime updatedTime startedTime finishedTime : String)
  progress : Int
  stage : String
  (current total : Int)
  (message resultPath errorMessage : String)
  result : Result
  (resultId resultHash : String)
  resultSummary : Result
  (source siteName : String)
  ownerPid : Int
  resourceKeys : List String
  (textIntegrity textIntegrityReason textIntegrityUpdatedAt : String)
  textSchemaVersion : Int
  (producerKind producerVersion producerCommit : String)
  deriving DecidableEq

/-- The entries that stand for the result of a stored terminal event. -/
structure ResultReference (Result : Type) where
  (resultId resultHash : String)
  resultSummary : Result
  deriving DecidableEq

/-- The entries of an event's payload that are read. -/
structure EventPayload (Result : Type) where
  (stage message : String)
  (current total : Int)
  state : String
  /-- `details.prevent_running_100`. -/
  preventRunning100 : Bool
  /-- The result, when it is a dictionary. -/
  result : Option Result
  planId : String
  /-- `terminal_state`, stripped and in capitals. -/
  (terminalState error textIntegrity textIntegrityReason : String)
  /-- `_contains_replacement_character`. -/
  corrupted : Bool
  reference : Option (ResultReference Result)
  deriving DecidableEq

/-- An event of a task. -/
structure TaskEvent (Result : Type) where
  (eventId taskId type time source : String)
  payload : EventPayload Result
  deriving DecidableEq

variable {Result : Type}

def EventPayload.blank : EventPayload Result where
  stage := ""
  message := ""
  current := 0
  total := 0
  state := ""
  preventRunning100 := false
  result := none
  planId := ""
  terminalState := ""
  error := ""
  textIntegrity := ""
  textIntegrityReason := ""
  corrupted := false
  reference := none

/-! ## Applying an event -/

section Apply

variable [DecidableEq Result] (format : ResultFormat Result)

/-- `round(numerator / denominator)`: halves go to the even number. -/
def roundHalfEven (numerator denominator : Int) : Int :=
  let quotient := numerator / denominator
  let remainder := numerator % denominator
  if 2 * remainder < denominator then quotient
  else if denominator < 2 * remainder then quotient + 1
  else if quotient % 2 = 0 then quotient
  else quotient + 1

def clampPercent (value : Int) : Int := max 0 (min value 100)

/-- The state that a finished event leads to. -/
def finishedEventState (payload : EventPayload Result) : TaskState :=
  match TaskState.ofText payload.terminalState with
  | some state => if state.isTerminal then state else .completed
  | none => .completed

/-- The result keeps the plan of its event. -/
def mergePlanCorrelation (result : Result) (payload : EventPayload Result) : Result :=
  if payload.planId ≠ "" && format.planId result = "" then format.withPlanId result payload.planId
  else result

/-- What every event sets. -/
def applyCommon (snapshot : TaskSnapshot Result) (payload : EventPayload Result) (time : String) :
    TaskSnapshot Result :=
  { snapshot with
    updatedTime := time, stage := firstOf payload.stage snapshot.stage
    message := firstOf payload.message snapshot.message
    current := if payload.current ≠ 0 then payload.current else snapshot.current
    total := if payload.total ≠ 0 then payload.total else snapshot.total }

/-- The state that a payload names, by default the one of the snapshot. -/
def namedState (snapshot : TaskSnapshot Result) (payload : EventPayload Result) :
    Option TaskState :=
  TaskState.ofText (firstOf payload.state snapshot.status.text)

/-- The task goes into a state. -/
def applyState (snapshot : TaskSnapshot Result) (payload : EventPayload Result) (time : String)
    (target : TaskState) : TaskSnapshot Result :=
  { snapshot with
    status := target
    startedTime := if target = .running && snapshot.startedTime = "" then time
      else snapshot.startedTime
    finishedTime := if target.isTerminal then time else snapshot.finishedTime
    result := if target.isTerminal then mergePlanCorrelation format snapshot.result payload
      else snapshot.result }

/-- A `progress` event; `snapshot` already has the new counts. -/
def applyProgress (snapshot : TaskSnapshot Result) (payload : EventPayload Result) :
    TaskSnapshot Result :=
  if 0 < snapshot.total then
    let progress := clampPercent (roundHalfEven (snapshot.current * 100) snapshot.total)
    { snapshot with
      progress := if 100 ≤ progress && payload.preventRunning100 && !snapshot.status.isTerminal
        then 99 else progress }
  else snapshot

/-- The task is finished. -/
def applyFinished (snapshot : TaskSnapshot Result) (payload : EventPayload Result) (time : String) :
    TaskSnapshot Result :=
  let result := mergePlanCorrelation format (payload.result.getD format.empty) payload
  { snapshot with
    status := finishedEventState payload, finishedTime := time, progress := 100, result := result
    resultPath := firstOf (format.resultPath result) snapshot.resultPath }

/-- An `error` or a `cancelled` event. -/
def applyUnfinished (status : TaskState) (default : String) (snapshot : TaskSnapshot Result)
    (payload : EventPayload Result) (time : String) : TaskSnapshot Result :=
  let mapping := mergePlanCorrelation format (payload.result.getD format.empty) payload
  { snapshot with
    status := status, finishedTime := time
    errorMessage := firstOf (firstOf payload.error payload.message) default
    result := if mapping = format.empty then snapshot.result else mapping }

/-- The artifact of the task is there. -/
def applyArtifactFinalized (snapshot : TaskSnapshot Result) (payload : EventPayload Result) :
    TaskSnapshot Result :=
  { snapshot with
    result := payload.result.getD format.empty, resultPath := ""
    message := firstOf payload.message "报告完整性校验完成" }

/-- A `file_management_mesh_import` event. -/
def applyMeshImport (snapshot : TaskSnapshot Result) (payload : EventPayload Result) :
    TaskSnapshot Result :=
  match payload.result with
  | none => snapshot
  | some result => { snapshot with result := format.merge snapshot.result result }

/-- The artifact of the task is refused. -/
def applyArtifactRejected (snapshot : TaskSnapshot Result) (payload : EventPayload Result)
    (time : String) (state : TaskState) : TaskSnapshot Result :=
  { snapshot with
    status := state, result := payload.result.getD format.empty, resultPath := ""
    message := firstOf payload.message "报告不可用"
    errorMessage := if state = .failed then firstOf payload.error "报告完整性校验失败"
      else snapshot.errorMessage
    finishedTime := if state.isTerminal then time else snapshot.finishedTime }

def textIntegrityValues : List String :=
  ["ok", "current_corrupted", "historical_corrupted", "unknown_corrupted"]

/-- The integrity of a corrupted text, from what produced it, and the reason. -/
def corruptedIntegrity (snapshot : TaskSnapshot Result) : String × String :=
  if snapshot.producerKind = "legacy" || snapshot.textSchemaVersion = 1 then
    ("historical_corrupted", "legacy_task_before_text_schema_v2")
  else if snapshot.producerKind ∈ ["local_worker", "local_backend"] then
    ("current_corrupted", "replacement_character_detected_in_current_event")
  else if snapshot.producerKind = "agent" &&
      (snapshot.producerVersion ≠ "unknown" || snapshot.producerCommit ≠ "unknown") then
    ("current_corrupted", "replacement_character_detected_in_current_agent_event")
  else ("unknown_corrupted", "corrupted_text_producer_version_unknown")

/-- What is said of the texts of the task. -/
def applyTextIntegrity (snapshot : TaskSnapshot Result) (payload : EventPayload Result)
    (time : String) : TaskSnapshot Result :=
  let declared := (payload.result.map format.textIntegrity).getD ""
  let explicit := firstOf declared payload.textIntegrity
  if explicit ∈ textIntegrityValues && explicit ≠ "ok" then
    { snapshot with
      textIntegrity := explicit
      textIntegrityReason := firstOf
        (firstOf ((payload.result.map format.textIntegrityReason).getD "")
          payload.textIntegrityReason) "explicit_text_integrity"
      textIntegrityUpdatedAt := time }
  else if payload.corrupted then
    { snapshot with
      textIntegrity := (corruptedIntegrity snapshot).1
      textIntegrityReason := (corruptedIntegrity snapshot).2, textIntegrityUpdatedAt := time }
  else snapshot

/-- The part of `_apply_event` that depends on the type of the event. -/
def applyByType (snapshot : TaskSnapshot Result) (type : String) (payload : EventPayload Result)
    (time : String) : Option (TaskSnapshot Result) :=
  if type = "state" then (namedState snapshot payload).map (applyState format snapshot payload time)
  else if type = "progress" then some (applyProgress snapshot payload)
  else if type = "finished" then some (applyFinished format snapshot payload time)
  else if type = "error" then
    some (applyUnfinished format .failed "任务失败" snapshot payload time)
  else if type = "cancelled" then
    some (applyUnfinished format .cancelled "任务已取消" snapshot payload time)
  else if type = "artifact_finalized" then some (applyArtifactFinalized format snapshot payload)
  else if type = "file_management_mesh_import" then some (applyMeshImport format snapshot payload)
  else if type = "artifact_rejected" then
    (namedState snapshot payload).map (applyArtifactRejected format snapshot payload time)
  else some snapshot

/-- `_apply_event`; a state that is none raises. -/
def applyEvent (snapshot : TaskSnapshot Result) (event : TaskEvent Result) :
    Option (TaskSnapshot Result) :=
  (applyByType format (applyCommon snapshot event.payload event.time) event.type event.payload
    event.time).map fun updated => applyTextIntegrity format updated event.payload event.time

end Apply

/-! ## The state filter -/

/-- The stored states from which a `state` event may lead to `target`. -/
def allowedToState (snapshot : TaskSnapshot Result) (target : TaskState) : List TaskState :=
  if snapshot.status.isTerminal then if target = snapshot.status then [snapshot.status] else []
  else
    match target with
    | .pending => [.pending]
    | .starting => [.pending, .starting]
    | .running => [.pending, .starting, .running]
    | _ => TaskState.activeStates

/-- The states in which an event is recorded. -/
def allowedFrom (snapshot : TaskSnapshot Result) (event : TaskEvent Result) :
    Option (List TaskState) :=
  if event.type = "artifact_finalized" || event.type = "file_management_mesh_import" then
    some [.completed]
  else if event.type = "artifact_rejected" then some [snapshot.status]
  else if event.type = "state" then
    (namedState snapshot event.payload).map (allowedToState snapshot)
  else if snapshot.status.isTerminal then some []
  else if event.type ∈ ["finished", "error", "cancelled"] then some TaskState.activeStates
  else some [snapshot.status]

/-! ## A small format -/

/-- What the result of a small task says. -/
inductive SmallContent where
  | nothing | file | lost | corrupted
  /-- A number that JSON does not have. -/
  | infinite
  deriving DecidableEq, Repr

/-- A result of a small task: whether it names its plan, and what it says. -/
structure SmallResult where
  planned : Bool
  content : SmallContent
  deriving DecidableEq, Repr

namespace SmallResult

def all : List SmallResult :=
  [true, false].flatMap fun planned =>
    [SmallContent.nothing, .file, .lost, .corrupted].map fun content => ⟨planned, content⟩

def text (result : SmallResult) : String :=
  (if result.planned then "plan " else "only ") ++
    match result.content with
    | .nothing => "nothing"
    | .file => "file"
    | .lost => "lost"
    | .corrupted => "corrupted"
    | .infinite => "infinite"

/-- A character without the zero character. -/
def escaped (char : Char) : List Char :=
  if char = '\x00' then ['\\', '0'] else if char = '\\' then ['\\', '\\'] else [char]

/-- A text without the zero character, that tells the given text. -/
def printable (text : String) : String := String.ofList (text.toList.flatMap escaped)

theorem escaped_ne_nil (char : Char) : escaped char ≠ [] := by
  unfold escaped
  split
  · simp
  · split
    · simp
    · simp

/-- Escaped characters are told apart at the front of a text. -/
theorem escaped_append_inj {char other : Char} {rest others : List Char}
    (same : escaped char ++ rest = escaped other ++ others) : char = other ∧ rest = others := by
  unfold escaped at same
  grind

theorem printable_injective : Function.Injective printable := by
  intro first second same
  have same := String.ofList_injective same
  apply String.toList_injective
  generalize first.toList = one at same ⊢
  generalize second.toList = two at same ⊢
  induction one generalizing two with
  | nil =>
    cases two with
    | nil => rfl
    | cons char rest =>
      have blank := append_eq_nil_iff.mp same.symm
      exact absurd blank.1 (escaped_ne_nil char)
  | cons char rest ih =>
    cases two with
    | nil =>
      have blank := append_eq_nil_iff.mp same
      exact absurd blank.1 (escaped_ne_nil char)
    | cons other others =>
      obtain ⟨head, tail⟩ := escaped_append_inj same
      rw [head, ih others tail]

/-- A digest that tells its text. -/
def digest (text : String) : String := "sha256:" ++ printable text

theorem digest_injective : Function.Injective digest := by
  intro first second same
  have same := congrArg String.toList same
  rw [digest, digest, String.toList_append, String.toList_append] at same
  exact printable_injective (String.toList_injective (append_cancel_left same))

theorem digest_ne_empty (text : String) : digest text ≠ "" := by
  intro blank
  have blank := congrArg String.toList blank
  rw [digest, String.toList_append] at blank
  cases blank

theorem printable_free (text : String) : '\x00' ∉ (printable text).toList := by
  intro mem
  rw [printable, String.toList_ofList] at mem
  obtain ⟨_, _, among⟩ := mem_flatMap.mp mem
  unfold escaped at among
  split at among
  · simp at among
  case isFalse other =>
    split at among
    · simp at among
    · rw [mem_singleton] at among
      exact other among.symm

theorem digest_free (text : String) : '\x00' ∉ (digest text).toList := by
  rw [digest, String.toList_append, mem_append, not_or]
  exact ⟨by decide, printable_free text⟩

end SmallResult

def smallFormat : ResultFormat SmallResult where
  empty := ⟨false, .nothing⟩
  merge first second :=
    ⟨first.planned || second.planned,
      if second.content = .nothing then first.content else second.content⟩
  planId result := if result.planned then "plan" else ""
  withPlanId result _ := ⟨true, result.content⟩
  withErrorCode result _ := ⟨result.planned, .lost⟩
  protocolCorrupted := ⟨false, .corrupted⟩
  resultPath result := if result.content = .file then "reports/report.zip" else ""
  textIntegrity result := if result.content = .corrupted then "current_corrupted" else ""
  textIntegrityReason result := if result.content = .corrupted then
    "replacement_character_detected_in_current_event" else ""
  resultSummary _ _ := ⟨true, .nothing⟩
  canonicalJson result := if result.content = .infinite then none else some result.text
  parse text := SmallResult.all.find? fun result => result.text = text
  sha256 := SmallResult.digest
  eventTime text := text.toInt?
  withPlanId_ne_empty result plan := by simp
  planId_withPlanId result plan named := by simp
  textIntegrity_withPlanId _ _ := rfl
  textIntegrityReason_withPlanId _ _ := rfl
  textIntegrity_empty := rfl
  textIntegrityReason_empty := rfl
  canonicalJson_withErrorCode _ _ _ := by simp
  parse_canonicalJson result text written := by
    obtain ⟨planned, content⟩ := result
    cases content with
    | infinite => cases written
    | _ =>
      cases written
      cases planned <;> decide
  parse_empty := by decide
  sha256_injective := SmallResult.digest_injective
  sha256_ne_empty := SmallResult.digest_ne_empty
  sha256_printable := SmallResult.digest_free

end NetConsole.TaskCenter
