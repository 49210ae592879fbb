import Mathlib.Algebra.Order.Ring.Int
import Mathlib.Data.List.Infix
import NetConsole.Syslog.RawStream

/-!
# The worker protocol

A worker writes one JSON object per line. `parseWorkerEventLine` turns a line
into an event or a stable reason, as `worker_protocol.py` does; a JSON decoder
or a conversion that raises something the function does not catch is an error
of its own.

An event is a Python dictionary: its fields in insertion order. What the
standard library does with texts and numbers (`json.loads`, the text of a list
or a dictionary, `int` of a text or a float, `str.upper`, `str.casefold`, the
redaction expressions of the web export) is collected in `PythonLibrary`.
-/

set_option autoImplicit false

namespace NetConsole.Worker

open Syslog (isPythonSpace stripWhere)

/-! ## JSON values -/

/-- A decoded JSON value. A float is given by its shortest text. -/
inductive Json where
  | null
  | bool (value : Bool)
  | int (value : Int)
  | float (text : String)
  | str (value : String)
  | arr (items : List Json)
  | obj (fields : List (String × Json))

/-- A dictionary with text keys, in insertion order. -/
abbrev Event := List (String × Json)

/-- `event.get(key)`. -/
def dictGet (event : Event) (key : String) : Json := (event.lookup key).getD .null

/-- `key in event`. -/
def dictHas (event : Event) (key : String) : Bool := event.any (·.1 == key)

/-- `event[key] = value`. -/
def dictSet (event : Event) (key : String) (value : Json) : Event :=
  if dictHas event key then event.map fun field => if field.1 == key then (key, value) else field
  else event ++ [(key, value)]

/-- `event.setdefault(key, value)`. -/
def dictSetDefault (event : Event) (key : String) (value : Json) : Event :=
  if dictHas event key then event else event ++ [(key, value)]

/-- `bool(value)`. -/
def Json.truthy : Json → Bool
  | .null => false
  | .bool value => value
  | .int value => value != 0
  | .float text => text != "0.0" && text != "-0.0"
  | .str value => value != ""
  | .arr items => !items.isEmpty
  | .obj fields => !fields.isEmpty

/-- `first or second`. -/
def Json.orElse (first second : Json) : Json := if first.truthy then first else second

def strip (text : List Char) : List Char := stripWhere isPythonSpace text

/-- `len(text.encode("utf-8"))`. -/
def encodedLength (text : List Char) : Nat := (text.map Char.utf8Size).sum

/-! ## The standard library -/

/-- The exceptions that the protocol functions tell apart. -/
inductive PythonError where
  | jsonDecodeError | valueError | typeError | other
  deriving DecidableEq

/-- What the standard library computes. A text of one character is no object. -/
structure PythonLibrary where
  loads : List Char → Except PythonError Json
  containerText : Json → String
  intOfText : String → Except PythonError Int
  intOfFloat : String → Except PythonError Int
  upper : String → String
  casefold : String → String
  redactWebTaskText : String → String
  oneCharacter : ∀ char fields, loads [char] ≠ .ok (.obj fields)

/-- A library that decodes no text and changes none. -/
def PythonLibrary.plain : PythonLibrary where
  loads _ := .error .jsonDecodeError
  containerText _ := ""
  intOfText _ := .error .valueError
  intOfFloat _ := .error .other
  upper := id
  casefold := id
  redactWebTaskText := id
  oneCharacter := nofun

/-- A library that decodes one line. -/
def PythonLibrary.reading (line : List Char) (event : Event) (long : line.length ≠ 1) :
    PythonLibrary :=
  { PythonLibrary.plain with
    loads text := if text = line then .ok (.obj event) else .error .jsonDecodeError
    oneCharacter := by
      intro char fields loaded
      rw [if_neg fun equal : [char] = line => long (equal ▸ rfl)] at loaded
      cases loaded }

variable (lib : PythonLibrary)

/-- `str(value)`. -/
def pythonStr : Json → String
  | .null => "None"
  | .bool true => "True"
  | .bool false => "False"
  | .int value => toString value
  | .float text => text
  | .str value => value
  | container => lib.containerText container

/-- `int(value)`. -/
def pythonInt : Json → Except PythonError Int
  | .bool value => .ok (if value then 1 else 0)
  | .int value => .ok value
  | .float text => lib.intOfFloat text
  | .str value => lib.intOfText value
  | .null | .arr _ | .obj _ => .error .typeError

/-- `str(event.get(key) or "")`. -/
def textOr (event : Event) (key : String) : String :=
  pythonStr lib ((dictGet event key).orElse (.str ""))

/-! ## Parsing a line -/

def workerEventTypes : List String := ["progress", "log", "finished", "error", "cancelled"]

def workerProtocolMaxFrameBytes : Nat := 1048576

/-- The event type, and the defaults that come with an alias of it. -/
def normalizeEventType (event : Event) (eventType : String) : String × Event :=
  if eventType = "started" then
    ("progress", dictSetDefault (dictSetDefault event "current" (.int 0)) "total" (.int 0))
  else if eventType = "success" then ("finished", dictSetDefault event "ok" (.bool true))
  else if eventType = "failed" then ("error", dictSetDefault event "ok" (.bool false))
  else if eventType = "result" then
    (if (dictGet event "ok").truthy then "finished" else "error", event)
  else (eventType, event)

/-- The fields that `parse_event_line` adds to an event of the given type. -/
def completeEvent (eventType : String) (event : Event) : Except PythonError Event := do
  let event :=
    if eventType = "cancelled" then
      dictSetDefault (dictSet event "cancelled" (.bool true)) "ok" (.bool false)
    else event
  let event := dictSetDefault (dictSet event "type" (.str eventType)) "job_id" (.str "")
  let event := dictSetDefault event "stage" (.str "")
  let done ← pythonInt lib ((dictGet event "done").orElse (.int 0))
  let event := dictSetDefault (dictSetDefault event "current" (.int done)) "total" (.int 0)
  let event := dictSetDefault event "message"
    ((dictGet event "error_message").orElse ((dictGet event "error").orElse (.str "")))
  let event := dictSetDefault event "result" .null
  let event := dictSetDefault event "error" ((dictGet event "error_message").orElse (.str ""))
  return dictSetDefault (dictSetDefault event "traceback" (.str "")) "cancelled" (.bool false)

/-- The event of a line, none of an empty one. -/
def parseEventLine (line : List Char) : Except PythonError (Option Event) :=
  let text := strip line
  if text = [] then .ok none
  else
    match lib.loads text with
    | .error .jsonDecodeError => .ok none
    | .error raised => .error raised
    | .ok (.obj event) =>
      let rawType := pythonStr lib
        ((dictGet event "type").orElse ((dictGet event "event").orElse (.str "")))
      let (eventType, event) := normalizeEventType event rawType
      (completeEvent lib eventType event).map some
    | .ok _ => .ok none

/-- The type checks of `parse_worker_event_line`: the reason of the first one
that fails, or the empty text. -/
def schemaReason (event : Event) : String :=
  if textOr lib event "type" ∉ workerEventTypes then "worker_protocol_unexpected_message"
  else if strip (textOr lib event "job_id").toList = [] then "worker_protocol_schema_invalid"
  else if ["stage", "message", "error", "traceback"].any (fun key =>
      match dictGet event key with | .str _ => false | _ => true) then
    "worker_protocol_schema_invalid"
  else if ["current", "total"].any (fun key =>
      match dictGet event key with | .int _ => false | _ => true) then
    "worker_protocol_schema_invalid"
  else if (match dictGet event "cancelled" with | .bool _ => false | _ => true) then
    "worker_protocol_schema_invalid"
  else if (match dictGet event "result" with | .null | .obj _ => false | _ => true) then
    "worker_protocol_schema_invalid"
  else ""

/-- What a line is: an event, or a stable reason. -/
inductive ParsedLine where
  | event (event : Event)
  | invalid (reason : String)

/-- `parse_worker_event_line`; an error is an exception that it lets pass. -/
def parseWorkerEventLine (line : List Char) : Except PythonError ParsedLine :=
  let text := strip line
  if text = [] then .ok (.invalid "worker_protocol_schema_invalid")
  else
    match lib.loads text with
    | .error .jsonDecodeError => .ok (.invalid "worker_protocol_json_invalid")
    | .error raised => .error raised
    | .ok (.obj _) =>
      match parseEventLine lib text with
      | .error .other => .error .other
      | .error _ => .ok (.invalid "worker_protocol_schema_invalid")
      | .ok none => .ok (.invalid "worker_protocol_schema_invalid")
      | .ok (some event) =>
        if schemaReason lib event = "" then .ok (.event event)
        else .ok (.invalid (schemaReason lib event))
    | .ok _ => .ok (.invalid "worker_protocol_schema_invalid")

theorem parseWorkerEventLine_oneCharacter {char : Char}
    (visible : isPythonSpace char = false) (event : Event) :
    parseWorkerEventLine lib [char] ≠ .ok (.event event) := by
  have same : strip [char] = [char] := by
    simp [strip, stripWhere, visible]
  intro parsed
  simp only [parseWorkerEventLine, same] at parsed
  split at parsed
  · simp at parsed
  · split at parsed
    · simp at parsed
    · simp at parsed
    · next fields loaded => exact lib.oneCharacter char fields loaded
    · simp at parsed

/-! ## What an event may carry -/

mutual
def containsReplacementCharacter : Json → Bool
  | .str value => value.toList.contains '\uFFFD'
  | .obj fields => fieldsContainReplacementCharacter fields
  | .arr items => itemsContainReplacementCharacter items
  | _ => false

def fieldsContainReplacementCharacter : List (String × Json) → Bool
  | [] => false
  | (_, value) :: rest =>
    containsReplacementCharacter value || fieldsContainReplacementCharacter rest

def itemsContainReplacementCharacter : List Json → Bool
  | [] => false
  | value :: rest => containsReplacementCharacter value || itemsContainReplacementCharacter rest
end

def sensitiveKeys : List String :=
  ["db_path", "generated_files", "output_path", "package_path", "path", "relative_path",
    "report_path", "result_path", "tmp_path", "traceback", "authorization", "community",
    "credential", "password", "secret", "token", "x-agent-token"]

def isWebExportTask (taskType : String) : Bool :=
  "web_export_".toList.isPrefixOf taskType.toList

/-- The candidates of a `keys` list that name nothing sensitive. -/
def insensitiveKeys (items : List Json) : List Json :=
  items.filter fun candidate => lib.casefold (pythonStr lib candidate) ∉ sensitiveKeys

mutual
/-- The value without what an export must not tell. -/
def sanitizeWebExportValue : Json → Json
  | .obj fields =>
    let (sanitized, removed) := sanitizeFields fields
    .obj (if removed = some true then dictSet sanitized "keys_truncated" (.bool true)
      else sanitized)
  | .arr items => .arr (sanitizeItems items)
  | .str value => .str (lib.redactWebTaskText value)
  | value => value

/-- The fields that stay, and whether a sensitive name left the last `keys` list. -/
def sanitizeFields : List (String × Json) → Event × Option Bool
  | [] => ([], none)
  | (name, item) :: rest =>
    let (sanitized, removed) := sanitizeFields rest
    if lib.casefold name ∈ sensitiveKeys then (sanitized, removed)
    else
      match lib.casefold name == "keys", sanitizeWebExportValue item with
      | true, .arr items =>
        ((name, .arr (insensitiveKeys lib items)) :: sanitized,
          removed.or (some ((insensitiveKeys lib items).length != items.length)))
      | _, cleaned => ((name, cleaned) :: sanitized, removed)

def sanitizeItems : List Json → List Json
  | [] => []
  | item :: rest => sanitizeWebExportValue item :: sanitizeItems rest
end

def sanitizeWebExportEvent (event : Event) : Event :=
  match sanitizeWebExportValue lib (.obj event) with
  | .obj fields => fields
  | _ => []

end NetConsole.Worker
