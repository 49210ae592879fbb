import NetConsole.Syslog.DerivedEvents
import NetConsole.Worker.Protocol

/-!
# The scope of a selective deletion

`_matches_delete_scope` decides for one record of a raw file whether it is deleted: every
record of the run, the records that a key names, or the records that pass the filters. It
reads a record as JSON gives it, so some records make it raise: a sequence number that is
a list, a number that no integer can be made of, a message whose time the parser cannot
read. So does the decoder, for instance at a number with too many digits.

Of the standard library the model takes JSON, UTF-8, the reading of times and the numbers
as parameters, and with them the parser of the messages and the canonical train.
-/

set_option autoImplicit false

namespace NetConsole.Syslog

open Worker (Json Event PythonLibrary PythonError dictGet dictSet textOr pythonInt pythonStr)

/-- What the deletion uses. `readTime` is `datetime.fromisoformat`, in the local zone where
the text names none, and gives nothing for a `ValueError` of the former. -/
structure DeletionLibrary (DateTime : Type) where
  python : PythonLibrary
  utf8 : List UInt8 → Option (List Char)
  readTime : String → Except PythonError (Option DateTime)
  instant : DateTime → Int
  canonicalTrainId : Json → Except PythonError String
  parse : String → DateTime → Except PythonError (Option Event)

section Scope

variable {DateTime : Type} (lib : DeletionLibrary DateTime)

/-! ## Reading a record -/

/-- The record of a line. -/
def decodeRecord (rawLine : List UInt8) : Except PythonError (Option Event) :=
  match lib.utf8 rawLine with
  | none => .ok none
  | some text =>
    match lib.python.loads text with
    | .error .jsonDecodeError => .ok none
    | .error raised => .error raised
    | .ok (.obj record) => .ok (some record)
    | .ok _ => .ok none

/-- `_optional_int`. The test for the empty text needs a value that can be hashed. -/
def optionalInt (value : Json) : Except PythonError (Option Int) :=
  match value with
  | .null | .str "" => .ok none
  | .arr _ | .obj _ => .error .typeError
  | value =>
    match pythonInt lib.python value with
    | .ok number => .ok (some number)
    | .error .other => .error .other
    | .error _ => .ok none

/-- `_record_reference` of a record. -/
def readReference (record : Event) (fileId : String) (lineNumber : Nat) :
    Except PythonError RecordReference := do
  let globalReceiveSequence ← optionalInt lib (dictGet record "global_receive_sequence")
  let sourceReceiveSequence ← optionalInt lib (dictGet record "source_receive_sequence")
  return { rawFileId := fileId
           globalReceiveSequence := globalReceiveSequence
           sourceReceiveSequence := sourceReceiveSequence, rawLineNumber := lineNumber }

/-- `_parse_time`. -/
def readStamp (value : String) : Except PythonError (Option DateTime) :=
  let text := Worker.strip value.toList
  if text = [] then .ok none
  else lib.readTime (String.ofList (text.flatMap fun char =>
    if char = 'Z' then "+00:00".toList else [char]))

/-! ## Selected records -/

/-- The loop of `_selected_key_matches` over the discriminators. -/
def fieldsMatch (expected : Event) : List (String × Option Int) → Except PythonError Bool
  | [] => .ok true
  | (field, candidate) :: rest => do
    let value ← optionalInt lib (dictGet expected field)
    if value.isSome && candidate ≠ value then return false
    else fieldsMatch expected rest

/-- `_selected_key_matches`. -/
def keyMatches (candidate : RecordReference) (expected : Event) : Except PythonError Bool :=
  if candidate.rawFileId ≠ textOr lib.python expected "raw_file_id" then .ok false
  else fieldsMatch lib expected
    [("global_receive_sequence", candidate.globalReceiveSequence),
      ("source_receive_sequence", candidate.sourceReceiveSequence),
      ("raw_line_number", some candidate.rawLineNumber)]

/-- `any(_selected_key_matches(candidate, key) for key in record_keys)`. -/
def anyKeyMatches (candidate : RecordReference) : List Event → Except PythonError Bool
  | [] => .ok false
  | key :: keys => do
    if ← keyMatches lib candidate key then return true
    else anyKeyMatches candidate keys

/-! ## Filtered records -/

/-- `_filter_values`. -/
def scopeFilterValues (value : Json) : List String :=
  let values := match value with
    | .str text => [text]
    | .arr items => items.map (pythonStr lib.python)
    | .obj fields => fields.map Prod.fst
    | _ => []
  (((values.map fun text => String.ofList (Worker.strip text.toList)).filter fun text =>
    text ≠ "").map lib.python.casefold).eraseDups

/-- The filters that need the fields of the parsed message. -/
def parsedFilters : List String :=
  ["event_type", "event_family", "cfg_command_source", "physical_state", "correlation_status",
    "correlation_confidence", "peer_name"]

/-- The fields that filters compare. -/
def filteredFields : List String :=
  ["train_id", "mr_name", "source_ip", "system_name", "mr_role", "facility", "severity",
    "identity_status", "event_type", "event_family", "cfg_command_source", "physical_state",
    "correlation_status", "correlation_confidence", "peer_name", "data_source"]

/-- `{**record, **parsed}`, where a filter needs it. -/
def withParsed (filters record : Event) : Except PythonError Event :=
  if (parsedFilters.any fun field => (dictGet filters field).truthy) &&
      !(dictGet record "event_type").truthy && (dictGet record "raw_text").truthy then do
    match ← readStamp lib (textOr lib.python record "receive_time") with
    | none => return record
    | some received =>
      match ← lib.parse (pythonStr lib.python (dictGet record "raw_text")) received with
      | none => return record
      | some parsed =>
        return parsed.foldl (fun merged field => dictSet merged field.1 field.2) record
  else .ok record

/-- What a filter looks at. -/
def filteredText (record : Event) (field : String) : Except PythonError String :=
  if field = "train_id" then
    (lib.canonicalTrainId (dictGet record field)).map lib.python.casefold
  else if field = "system_name" then
    .ok (lib.python.casefold (pythonStr lib.python
      ((dictGet record field).orElse ((dictGet record "hostname").orElse (.str "")))))
  else if field = "peer_name" then
    .ok (lib.python.casefold (pythonStr lib.python
      ((dictGet record field).orElse ((dictGet record "peer_mac").orElse (.str "")))))
  else if field = "data_source" then .ok "active"
  else .ok (lib.python.casefold (textOr lib.python record field))

/-- `expected in actual`. -/
def textContains (actual expected : String) : Bool := decide (expected.toList <:+: actual.toList)

/-- The filters of a field let a record through. -/
def fieldPasses (filters record : Event) (field : String) : Except PythonError Bool := do
  let expectedValues := scopeFilterValues lib (dictGet filters field)
  if expectedValues.isEmpty then return true
  else
    let actual ← filteredText lib record field
    return expectedValues.any (textContains actual)

/-- The record is of the MR. -/
def mrPasses (filters record : Event) : Bool :=
  let mrId := lib.python.casefold (textOr lib.python filters "mr_id")
  mrId = "" || textContains (lib.python.casefold (pythonStr lib.python
    ((dictGet record "device_uuid").orElse ((dictGet record "mr_id").orElse (.str ""))))) mrId

/-- The keyword occurs in the record. -/
def keywordPasses (filters record : Event) : Bool :=
  let keyword := lib.python.casefold (textOr lib.python filters "keyword")
  keyword = "" ||
    textContains (lib.python.casefold (textOr lib.python record "raw_text")) keyword

/-- The record was received in the span. -/
def timePasses (filters record : Event) : Except PythonError Bool := do
  let received ← readStamp lib (textOr lib.python record "receive_time")
  let start ← readStamp lib (textOr lib.python filters "start_time")
  let finish ← readStamp lib (textOr lib.python filters "end_time")
  let notBefore := start.all fun start =>
    received.any fun received => decide (lib.instant start ≤ lib.instant received)
  let notAfter := finish.all fun finish =>
    received.any fun received => decide (lib.instant received ≤ lib.instant finish)
  return notBefore && notAfter

/-- The record passes all filters. -/
def passesFilters (filters record : Event) : Except PythonError Bool := do
  let record ← withParsed lib filters record
  if !(← filteredFields.allM (fieldPasses lib filters record)) then return false
  else if !mrPasses lib filters record then return false
  else if !keywordPasses lib filters record then return false
  else timePasses lib filters record

/-! ## The scope -/

/-- The mode of a deletion, its record keys and its filters. -/
structure SelectiveDeletion where
  mode : String
  recordKeys : List Event
  filters : Event

/-- An exception of the standard library. -/
def ofPython {α : Type} (result : Except PythonError α) : Except LifecycleError α :=
  result.mapError fun _ => .recordError

/-- The deletion takes the record. -/
def SelectiveDeletion.matchesDeleteScope (deletion : SelectiveDeletion) (record : Event)
    (fileId : String) (lineNumber : Nat) : Except LifecycleError Bool :=
  if deletion.mode = "RUN_ALL" then .ok true
  else if deletion.mode = "SELECTED" then ofPython do
    let candidate ← readReference lib record fileId lineNumber
    anyKeyMatches lib candidate deletion.recordKeys
  else if deletion.mode ≠ "FILTERED" then .error .deleteModeInvalid
  else ofPython (passesFilters lib deletion.filters record)

/-- The scope, as the loops over the lines use it. A line at which the decoder raises is a
record at which the scope raises, and so is a deleted record without a reference. -/
def SelectiveDeletion.scope (deletion : SelectiveDeletion) :
    DeletionScope (Except LifecycleError Event) RecordReference where
  decodeRecord rawLine :=
    match ofPython (decodeRecord lib rawLine) with
    | .error raised => some (.error raised)
    | .ok record => record.map .ok
  receiveTime record :=
    match record with
    | .error _ => ""
    | .ok record => textOr lib.python record "receive_time"
  recordReference record fileId lineNumber :=
    match record.bind fun record => ofPython (readReference lib record fileId lineNumber) with
    | .error _ => ⟨fileId, none, none, lineNumber⟩
    | .ok reference => reference
  matchesDeleteScope record fileId lineNumber := do
    let record ← record
    if ← deletion.matchesDeleteScope lib record fileId lineNumber then
      (ofPython (readReference lib record fileId lineNumber)).map fun _ => true
    else return false

end Scope

end NetConsole.Syslog
