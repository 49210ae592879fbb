import NetConsole.Worker.Protocol

/-!
# Reading raw records of a run

`_records` reads the registered raw files of a run, each from the active directory
or from the archive, and yields the records of a time range. When the files come
from both places it remembers a key of every record and drops a record whose key
it has seen: `_record_key` takes the identification that the record carries.

The registered files are those that the repository returns for the query. A line
source gives the lines of a file, and what goes wrong after them. The clock is
read at every check of the budget. The records are Python dictionaries
(`NetConsole.Worker.Event`).
-/

set_option autoImplicit false

namespace NetConsole.RawQuery

open Worker (Json Event PythonLibrary dictGet textOr)

/-! ## Records -/

/-- The two types of raw files. -/
inductive DataType where
  | ping | syslog
  deriving DecidableEq

def DataType.text : DataType → String
  | .ping => "ping"
  | .syslog => "syslog"

/-- The field with the time of a record. -/
def DataType.timeKey : DataType → String
  | .ping => "ts"
  | .syslog => "receive_time"

/-- A JSON value that can be hashed. -/
inductive Scalar where
  | null
  | bool (value : Bool)
  | int (value : Int)
  | float (text : String)
  | str (value : String)
  deriving DecidableEq

/-- The scalar that a JSON value is; a list or a dictionary is none. -/
def scalar : Json → Option Scalar
  | .null => some .null
  | .bool value => some (.bool value)
  | .int value => some (.int value)
  | .float text => some (.float text)
  | .str value => some (.str value)
  | .arr _ => none
  | .obj _ => none

/-- What the standard library computes. `decodeLine` is `json.loads` of a line in
UTF-8 and gives a dictionary or nothing. -/
structure RawQueryLibrary where
  python : PythonLibrary
  decodeLine : List UInt8 → Option Event
  fromIsoFormat : String → Option Int
  sha256 : List UInt8 → String

variable (lib : RawQueryLibrary)

def parseTime (value : String) : Option Int :=
  if value = "" then none else lib.fromIsoFormat value

/-- The key of a record: the digest of its line, or the identification that it
carries. The text of a key is the `repr` of its parts, which tells them apart. -/
inductive RecordKey where
  | digest (text : String)
  | value (dataType : DataType) (identification : Scalar)
  | parts (dataType : DataType) (first second third : Scalar)
  deriving DecidableEq

/-- `_record_key`; a list or a dictionary as identification is a `TypeError`. -/
def recordKey (dataType : DataType) (item : Event) (raw : List UInt8) : Option RecordKey :=
  match dataType with
  | .ping =>
    if (dictGet item "sample_id").truthy then
      (scalar (dictGet item "sample_id")).map (.value .ping)
    else
      (scalar (dictGet item "seq")).map fun seq =>
        .parts .ping (.str (textOr lib.python item "target_ip"))
          (.str (textOr lib.python item "ts")) seq
  | .syslog =>
    if (dictGet item "global_receive_sequence").truthy then
      (scalar (dictGet item "global_receive_sequence")).map (.value .syslog)
    else
      (scalar (dictGet item "source_receive_sequence")).map fun sequence =>
        let sourceIp := textOr lib.python item "source_ip"
        let receiveTime := textOr lib.python item "receive_time"
        if sourceIp = "" ∧ sequence = .null ∧ receiveTime = "" then .digest (lib.sha256 raw)
        else .parts .syslog (.str sourceIp) sequence (.str receiveTime)

/-! ## Sources -/

/-- A row of a registered raw file. -/
structure RegisteredFile where
  (fileId status : String)
  recordCount : Int

/-- What stops the reading of a file. -/
inductive ReadFailure where
  | os
  | archive (message : String)

/-- The lines of a file with their archive entries, and what happens after them. -/
structure LineSource where
  lines : List (List UInt8 × String)
  failure : Option ReadFailure

/-- The exceptions of a query. -/
inductive QueryError where
  | pathRejected
  | archiveCorrupt (message : String)
  | unreadable (dataType : DataType)
  | targetConflict | unhashable
  deriving DecidableEq

/-- Where the files are: the active file of a registered path if there is one, the
archive of the run with its legacy flag, and the archived lines. -/
structure Storage where
  activeFile : RegisteredFile → Except QueryError (Option LineSource)
  inspection : Except String (Option Bool)
  archivedLines : RegisteredFile → LineSource

/-- The arguments of `_records` that decide what is read. -/
structure RecordRequest where
  dataType : DataType
  runId : String
  (start finish : Int)
  stopBeforeFile : RegisteredFile → Bool
  timeIsUp : Nat → Bool

def maxMixedDedupKeys : Nat := 250000

/-- `MAX_QUERY_FILES` and `MAX_SYSLOG_QUERY_FILES`. -/
def DataType.maxFiles : DataType → Nat
  | .ping => 256
  | .syslog => 128

/-- `MAX_QUERY_RECORDS` and `MAX_SYSLOG_QUERY_RECORDS`. -/
def DataType.maxRecords : DataType → Nat
  | .ping => 1000000
  | .syslog => 250000

/-- `MAX_QUERY_BYTES` and `MAX_SYSLOG_QUERY_BYTES`. -/
def DataType.maxBytes : DataType → Nat
  | .ping => 256 * 1024 ^ 2
  | .syslog => 128 * 1024 ^ 2

/-! ## Reading -/

/-- A yielded record: the dictionary with where it comes from. -/
structure YieldedRecord where
  item : Event
  rawFileId : String
  rawLineNumber : Nat
  (rawFileStatus dataSource archiveEntry : String)

/-- The diagnostics, what the generator remembers, and what it has yielded. -/
structure ReadState where
  filesConsidered : Nat
  registeredRecordCount : Int
  filesScanned : Nat := 0
  bytesScanned : Nat := 0
  recordsScanned : Nat := 0
  malformedRecordCount : Nat := 0
  duplicateRecordCount : Nat := 0
  truncated : Bool := false
  optimizedLatestPage : Bool := false
  legacyArchive : Bool := false
  archiveUnavailable : Bool := false
  unavailableFiles : Nat := 0
  sources : List String := []
  budgetChecks : Nat := 0
  seen : Option (List RecordKey)
  yielded : List YieldedRecord := []
  raised : Option QueryError := none

/-- The limits of the read are reached. -/
def budgetExhausted (request : RecordRequest) (state : ReadState) : Bool :=
  decide (request.dataType.maxRecords ≤ state.recordsScanned) ||
    decide (request.dataType.maxBytes ≤ state.bytesScanned) || request.timeIsUp state.budgetChecks

/-- The key is new, or no keys are remembered. The flag says that reading stops. -/
def acceptRecord (request : RecordRequest) (line : List UInt8) (record : YieldedRecord)
    (state : ReadState) : ReadState × Bool :=
  let yielding := { state with yielded := state.yielded ++ [record] }
  match state.seen with
  | none => (yielding, false)
  | some seen =>
    match recordKey lib request.dataType record.item line with
    | none => ({ state with raised := some .unhashable }, true)
    | some key =>
      if key ∈ seen then
        ({ state with duplicateRecordCount := state.duplicateRecordCount + 1 }, false)
      else if maxMixedDedupKeys ≤ seen.length then ({ state with truncated := true }, true)
      else ({ yielding with seen := some (key :: seen) }, false)

/-- One line of a file. -/
def readLine (request : RecordRequest) (file : RegisteredFile) (source : String) (number : Nat)
    (line : List UInt8) (entry : String) (state : ReadState) : ReadState × Bool :=
  let scanned := { state with
    bytesScanned := state.bytesScanned + line.length, recordsScanned := state.recordsScanned + 1 }
  let checked := { scanned with budgetChecks := scanned.budgetChecks + 1 }
  if budgetExhausted request scanned then ({ checked with truncated := true }, true)
  else
    match lib.decodeLine line with
    | none =>
      ({ checked with malformedRecordCount := checked.malformedRecordCount + 1 }, false)
    | some item =>
      match parseTime lib (textOr lib.python item request.dataType.timeKey) with
      | none => (checked, false)
      | some time =>
        if time < request.start ∨ request.finish < time then (checked, false)
        else
          acceptRecord lib request line ⟨item, file.fileId, number, file.status, source,
              if source = "ARCHIVE" then entry else ""⟩ checked

/-- The lines of a file, until one stops the reading. -/
def readLines (request : RecordRequest) (file : RegisteredFile) (source : String) :
    Nat → List (List UInt8 × String) → ReadState → ReadState × Bool
  | _, [], state => (state, false)
  | number, (line, entry) :: rest, state =>
    match readLine lib request file source number line entry state with
    | (stopped, true) => (stopped, true)
    | (after, false) => readLines request file source (number + 1) rest after

/-- The error that a failure becomes. -/
def failureError (dataType : DataType) : ReadFailure → QueryError
  | .os => .unreadable dataType
  | .archive message => .archiveCorrupt message

/-- The lines of a file from one place. -/
def readSource (request : RecordRequest) (file : RegisteredFile) (source : String)
    (lineSource : LineSource) (state : ReadState) : ReadState :=
  let opened := { state with
    filesScanned := state.filesScanned + 1
    sources := if source ∈ state.sources then state.sources else source :: state.sources }
  match readLines lib request file source 1 lineSource.lines opened with
  | (stopped, true) => stopped
  | (after, false) =>
    { after with raised := lineSource.failure.map (failureError request.dataType) }

/-- A registered file; the active file has precedence. -/
def readFile (request : RecordRequest) (storage : Storage) (file : RegisteredFile)
    (active : Option LineSource) (state : ReadState) : ReadState :=
  match active with
  | some lineSource => readSource lib request file "ACTIVE" lineSource state
  | none =>
    match if request.runId = "" then .ok none else storage.inspection with
    | .error message => { state with raised := some (.archiveCorrupt message) }
    | .ok none =>
      { state with
        unavailableFiles := state.unavailableFiles + 1, archiveUnavailable := true }
    | .ok (some legacy) =>
      readSource lib request file "ARCHIVE" (storage.archivedLines file)
        { state with legacyArchive := state.legacyArchive || legacy }

/-- The registered files in their order. -/
def readFiles (request : RecordRequest) (storage : Storage) :
    List (RegisteredFile × Option LineSource) → ReadState → ReadState
  | [], state => state
  | (file, active) :: rest, state =>
    let checked := { state with budgetChecks := state.budgetChecks + 1 }
    if budgetExhausted request state then { checked with truncated := true }
    else if request.stopBeforeFile file then { checked with optimizedLatestPage := true }
    else
      let after := readFile lib request storage file active checked
      if after.raised.isSome then after
      else
        -- A file that is not available is passed over without the check.
        if after.truncated && decide (after.filesScanned ≠ checked.filesScanned) then after
        else readFiles request storage rest after

/-- `_records`, over the rows that the repository returns. -/
def records (request : RecordRequest) (storage : Storage) (rows : List RegisteredFile) :
    Except QueryError ReadState := do
  let files := rows.take request.dataType.maxFiles
  let paths ← files.mapM storage.activeFile
  let mixed := paths.any (·.isSome) && paths.any (·.isNone)
  return readFiles lib request storage (files.zip paths)
    { filesConsidered := rows.length
      registeredRecordCount := (files.map fun file => max 0 file.recordCount).sum
      truncated := decide (request.dataType.maxFiles < rows.length)
      seen := if mixed then some [] else none }

end NetConsole.RawQuery
