import NetConsole.RawQuery.Records
import NetConsole.Syslog.PositionStability

/-!
# Incremental ping queries

`ping_series_incremental` returns the ping records that have been written since a
cursor, and the next cursor. The cursor holds an offset for each file that the last
call has processed. A file with an offset is read from there. A file without one is
read from its start, and its records are compared with the time and the number of the
last record that was delivered.

A call is given the files that the repository lists for it, with their contents, the
current time and the start of the run. Files are read line by line up to the number of
points that the caller wants; a last line without a newline is left for the next call.
Statistics and the evidence of access points are left out.
-/

set_option autoImplicit false

namespace NetConsole.RawQuery

open Worker (Json Event PythonLibrary dictGet textOr pythonInt)
open Syslog (rawLines)

/-! ## Identities and cursors -/

/-- `GroundResolvedPingIdentity`: which records belong to the target, and which train
and end of the train a record names. -/
structure PingIdentity where
  targetIp : String
  expectedTargetSignatures : List (String × String)
  matchesRecord : Event → Bool
  targetSignature : Event → String × String
  signaturesConflict : String × String → String × String → Bool

/-- `assert_target_signature`: the signatures that have been observed, or nothing on a
conflict. -/
def PingIdentity.assertTargetSignature (identity : PingIdentity) (item : Event)
    (observed : List (String × String)) : Option (List (String × String)) :=
  let signature := identity.targetSignature item
  if identity.targetIp = "" then some observed
  else if identity.expectedTargetSignatures ≠ [] ∧
      identity.expectedTargetSignatures.all (identity.signaturesConflict signature) then none
  else if observed.any (identity.signaturesConflict signature) then none
  else some (signature :: observed)

/-- The part of a cursor that changes from call to call. -/
structure PingCursor where
  offsets : List (String × Nat) := []
  afterTimestamp : String := ""
  afterSequence : Option Int := none

/-- A listed raw file; the content of a file that is in the active directory. -/
structure PingFile where
  (fileId status startTime endTime : String)
  content : Option (List UInt8)

/-- What a call reads from outside. -/
structure IncrementalCall where
  files : List PingFile
  (now runStart : Int)
  includeWarmup : Bool
  maxPoints : Int
  timeIsUp : Nat → Bool

def maxIncrementalPoints : Int := 500

def maxCursorFiles : Nat := 32

/-- `max(1, min(max_points, MAX_INCREMENTAL_POINTS))`. -/
def IncrementalCall.limit (call : IncrementalCall) : Nat :=
  (max 1 (min call.maxPoints maxIncrementalPoints)).toNat

/-- A sample with the place where it was read. -/
structure PingPoint where
  item : Event
  rawFileId : String
  rawLineNumber : Nat
  rawFileStatus : String

/-- What a call has read so far. -/
structure PingScan where
  offsets : List (String × Nat)
  records : List PingPoint := []
  processed : List PingFile := []
  observed : List (String × String) := []
  bytesScanned : Nat := 0
  recordsScanned : Nat := 0
  malformedRecordCount : Nat := 0
  budgetChecks : Nat := 0
  truncated : Bool := false
  hasMore : Bool := false
  raised : Option QueryError := none

section IncrementalPing

variable (lib : RawQueryLibrary)

/-! ## Records -/

/-- `_optional_int`; a list or a dictionary is a `TypeError`. -/
def optionalInt (value : Json) : Except QueryError (Option Int) :=
  match value with
  | .null => .ok none
  | .arr _ | .obj _ => .error .unhashable
  | value =>
    match pythonInt lib.python value with
    | .ok number => .ok (some number)
    | .error _ => .ok none

/-- The sample comes after the cursor. -/
def afterPingCursor (cursor : PingCursor) (item : Event) (sampleTime : Int) :
    Except QueryError Bool :=
  match parseTime lib cursor.afterTimestamp with
  | none => .ok true
  | some cursorTime =>
    if cursorTime < sampleTime then .ok true
    else if sampleTime < cursorTime then .ok false
    else
      (optionalInt lib (dictGet item "seq")).map fun sequence =>
        match cursor.afterSequence, sequence with
        | some last, some number => decide (last < number)
        | _, _ => true

/-- `offsets[file_id] = offset`. -/
def setOffset (offsets : List (String × Nat)) (fileId : String) (offset : Nat) :
    List (String × Nat) :=
  (fileId, offset) :: offsets.filter (·.1 ≠ fileId)

/-- `_budget_exhausted` of a ping query. -/
def pingBudgetExhausted (call : IncrementalCall) (scan : PingScan) : Bool :=
  decide (DataType.ping.maxRecords ≤ scan.recordsScanned) ||
    decide (DataType.ping.maxBytes ≤ scan.bytesScanned) || call.timeIsUp scan.budgetChecks

/-! ## Reading -/

/-- A matching record of a file, unless it does not come after the cursor of a file
that has no offset. The flag says that reading stops. -/
def acceptPing (cursor : PingCursor) (file : PingFile) (item : Event) (scan : PingScan) :
    PingScan × Bool :=
  match parseTime lib (textOr lib.python item "ts") with
  | none => (scan, false)
  | some sampleTime =>
    let point : PingPoint := ⟨item, file.fileId, scan.recordsScanned, file.status⟩
    if (cursor.offsets.lookup file.fileId).isSome then
      ({ scan with records := scan.records ++ [point] }, false)
    else
      match afterPingCursor lib cursor item sampleTime with
      | .error error => ({ scan with raised := some error }, true)
      | .ok true => ({ scan with records := scan.records ++ [point] }, false)
      | .ok false => (scan, false)

/-- A complete line of a file. Its offset is stored before the budget is checked. -/
def readPingLine (identity : PingIdentity) (call : IncrementalCall) (cursor : PingCursor)
    (file : PingFile) (line : List UInt8) (tell : Nat) (scan : PingScan) : PingScan × Bool :=
  let taken := { scan with
    offsets := setOffset scan.offsets file.fileId tell
    bytesScanned := scan.bytesScanned + line.length, recordsScanned := scan.recordsScanned + 1 }
  let checked := { taken with budgetChecks := taken.budgetChecks + 1 }
  if pingBudgetExhausted call taken then
    ({ checked with truncated := true, hasMore := true }, true)
  else
    match lib.decodeLine line with
    | none =>
      ({ checked with malformedRecordCount := checked.malformedRecordCount + 1 }, false)
    | some item =>
      if !identity.matchesRecord item then (checked, false)
      else
        match identity.assertTargetSignature item checked.observed with
        | none => ({ checked with raised := some .targetConflict }, true)
        | some observed => acceptPing lib cursor file item { checked with observed := observed }

/-- The line has its end. -/
def isComplete (line : List UInt8) : Bool := line.getLast? == some 10

/-- The lines of a file behind a position, until one stops the reading. -/
def readPingLines (identity : PingIdentity) (call : IncrementalCall) (cursor : PingCursor)
    (file : PingFile) : List (List UInt8) → Nat → PingScan → PingScan × Nat
  | [], tell, scan => (scan, tell)
  | line :: rest, tell, scan =>
    if call.limit ≤ scan.records.length then (scan, tell)
    else if !isComplete line then (scan, tell)
    else
      match readPingLine lib identity call cursor file line (tell + line.length) scan with
      | (stopped, true) => (stopped, tell + line.length)
      | (after, false) =>
        readPingLines identity call cursor file rest (tell + line.length) after

/-- Where a call starts to read a file. -/
def startOffset (offsets : List (String × Nat)) (fileId : String) (content : List UInt8) : Nat :=
  min ((offsets.lookup fileId).getD 0) content.length

/-- A listed file that is there. -/
def readPingFile (identity : PingIdentity) (call : IncrementalCall) (cursor : PingCursor)
    (file : PingFile) (content : List UInt8) (scan : PingScan) : PingScan :=
  let opened := { scan with processed := scan.processed ++ [file] }
  let start := startOffset scan.offsets file.fileId content
  let (after, tell) := readPingLines lib identity call cursor file
    (rawLines (content.drop start)) start opened
  if after.raised.isNone ∧ call.limit ≤ after.records.length ∧ tell < content.length then
    { after with hasMore := true }
  else after

/-- The time from which files are listed. -/
def queryStart (call : IncrementalCall) (cursor : PingCursor) : Int :=
  min call.now ((parseTime lib cursor.afterTimestamp).getD call.runStart)

/-- A file without an offset has ended before the start. -/
def endedBefore (call : IncrementalCall) (cursor : PingCursor) (file : PingFile) : Bool :=
  (cursor.offsets.lookup file.fileId).isNone &&
    match parseTime lib file.endTime with
    | none => false
    | some finish => decide (finish < queryStart lib call cursor)

/-- The listed files in their order. -/
def readPingFiles (identity : PingIdentity) (call : IncrementalCall) (cursor : PingCursor) :
    List PingFile → PingScan → PingScan
  | [], scan => scan
  | file :: rest, scan =>
    match file.content with
    | none => readPingFiles identity call cursor rest scan
    | some content =>
      if endedBefore lib call cursor file then readPingFiles identity call cursor rest scan
      else
        let after := readPingFile lib identity call cursor file content scan
        if after.raised.isSome ∨ after.truncated ∨ call.limit ≤ after.records.length then after
        else readPingFiles identity call cursor rest after

/-! ## The result -/

/-- The key of a point. -/
structure PointKey where
  ts : String
  seq : Int
  sampleId : String

/-- The key of a point; the number of a point without one is -1, as that of number 0. -/
def pointKey (item : Event) : Except QueryError PointKey :=
  (optionalInt lib (dictGet item "seq")).map fun sequence =>
    { ts := textOr lib.python item "ts"
      seq := match sequence with
        | none => -1
        | some number => if number = 0 then -1 else number
      sampleId := textOr lib.python item "sample_id" }

def PointKey.le (one two : PointKey) : Bool :=
  decide (one.ts < two.ts ∨ one.ts = two.ts ∧
    (one.seq < two.seq ∨ one.seq = two.seq ∧ (one.sampleId < two.sampleId ∨
      one.sampleId = two.sampleId)))

/-- A record that counts as a point. -/
def isPoint (includeWarmup : Bool) (item : Event) : Bool :=
  includeWarmup || !(dictGet item "warmup_ignored").truthy

/-- The records in the order of their keys. -/
def sortPoints (records : List PingPoint) : Except QueryError (List PingPoint) :=
  (records.mapM fun record => (pointKey lib record.item).map fun key => (key, record)).map
    fun keyed => (keyed.mergeSort fun one two => one.1.le two.1).map (·.2)

/-- `_prune_cursor_offsets`: open files come first, then the latest. -/
def pruneCursorOffsets (files : List PingFile) (offsets : List (String × Nat)) :
    List (String × Nat) :=
  let newestFirst := files.mergeSort fun one two =>
    decide ((one.status = "OPEN") ∧ ¬ two.status = "OPEN" ∨
      ((one.status = "OPEN") ↔ (two.status = "OPEN")) ∧ two.startTime ≤ one.startTime)
  (newestFirst.take maxCursorFiles).filterMap fun file =>
    (offsets.lookup file.fileId).map (file.fileId, ·)

/-- The point with the latest time and number, the first of several. -/
def latestPoint : List (PointKey × PingPoint) → Option (PointKey × PingPoint)
  | [] => none
  | one :: rest =>
    match latestPoint rest with
    | none => some one
    | some other =>
      if one.1.ts < other.1.ts ∨ one.1.ts = other.1.ts ∧ one.1.seq < other.1.seq then some other
      else some one

/-- What a call returns. -/
structure IncrementalResult where
  points : List PingPoint
  rawSampleCount : Nat
  hasMore : Bool
  processed : List PingFile
  nextCursor : PingCursor

/-- `ping_series_incremental`, of a run and a target that the cursor is for. -/
def pingSeriesIncremental (identity : PingIdentity) (call : IncrementalCall) (cursor : PingCursor) :
    Except QueryError IncrementalResult :=
  let scan := readPingFiles lib identity call cursor call.files { offsets := cursor.offsets }
  match scan.raised with
  | some error => .error error
  | none => do
    let ordered ← sortPoints lib scan.records
    let points := (ordered.filter fun record => isPoint call.includeWarmup record.item).take
      call.limit
    let keyed ← points.mapM fun point =>
      (pointKey lib point.item).map fun key => (key, point)
    let last := match latestPoint keyed with
      | some (_, point) => some point.item
      | none => (scan.records.getLast?).map (·.item)
    let afterSequence ← match last with
      | none => .ok cursor.afterSequence
      | some item => optionalInt lib (dictGet item "seq")
    return {
      points := points, rawSampleCount := scan.records.length, hasMore := scan.hasMore
      processed := scan.processed
      nextCursor := {
        offsets := pruneCursorOffsets scan.processed scan.offsets
        afterTimestamp := match last with
          | none => cursor.afterTimestamp
          | some item => textOr lib.python item "ts"
        afterSequence := afterSequence } }

end IncrementalPing

end NetConsole.RawQuery
