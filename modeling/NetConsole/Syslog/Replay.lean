import NetConsole.Syslog.EventProjection
import NetConsole.Syslog.PositionStability

/-!
# Replaying raw files after a crash

`replay_pending_events` reads the raw files of a run whose parse status begins with
`PENDING_RECOVERY`, projects a bounded number of their lines and commits the events
in batches. The parse status holds the position behind the last line of a batch: a
line number, and a byte offset that a second write adds. A crash between the writes
leaves the first of them.

The replay is given by the states that are durable one after the other. A line whose
projection raises ends the call there, and so does a batch with a value that `sqlite3`
does not bind. A raw file has a nonblank id, so an event is found by its position. The
counts that a call returns are left out.
-/

set_option autoImplicit false

namespace NetConsole.Syslog

open Worker (Json Event PythonLibrary PythonError textOr)

/-! ## The parse status -/

/-- `str.partition`: the text before the separator, whether it was found, and the
text behind it. -/
def partition (separator : Char) : List Char → List Char × Bool × List Char
  | [] => ([], false, [])
  | char :: rest =>
    if char = separator then ([], true, rest)
    else
      let (before, found, after) := partition separator rest
      (char :: before, found, after)

/-- `max(0, int(text))`. -/
def naturalOfText (python : PythonLibrary) (text : List Char) : Except PythonError Nat :=
  (python.intOfText (String.ofList text)).map Int.toNat

/-- `_parse_recovery_cursor`: the line number, and the byte offset if there is one. -/
def parseRecoveryCursor (python : PythonLibrary) (value : String) : Nat × Option Nat :=
  let (_, _, payload) := partition '@' value.toList
  let (lineText, separated, offsetText) := partition ':' payload
  match if lineText = [] then .ok 0 else naturalOfText python lineText with
  | .error _ => (0, none)
  | .ok lineNumber =>
    if separated then
      match naturalOfText python offsetText with
      | .error _ => (lineNumber, none)
      | .ok offset => (lineNumber, some offset)
    else (lineNumber, none)

/-- The cursor that tells the line only. -/
def lineCursor (lineNumber : Nat) : String := "PENDING_RECOVERY@" ++ toString lineNumber

/-- The cursor behind a line. -/
def formatRecoveryCursor (lineNumber byteOffset : Nat) : String :=
  "PENDING_RECOVERY@" ++ toString lineNumber ++ ":" ++ toString byteOffset

/-- `startswith("PENDING_RECOVERY")`. -/
def awaitsRecovery (parseStatus : String) : Bool :=
  "PENDING_RECOVERY".toList.isPrefixOf parseStatus.toList

/-! ## Rows and positions -/

/-- A registered raw file; the content of a managed regular file. -/
structure RecoveryRow where
  (fileId dataType status parseStatus : String)
  content : Option (List UInt8)

/-- The rows that a replay considers. -/
def RecoveryRow.isCandidate (row : RecoveryRow) : Bool :=
  row.dataType == "syslog" && awaitsRecovery row.parseStatus

/-- A row whose file is not there. -/
def RecoveryRow.missing (row : RecoveryRow) : RecoveryRow :=
  { row with status := "MISSING", parseStatus := "MISSING" }

/-- `_seek_recovery_cursor`: the lines that are behind the position, and its offset. An
offset that does not lie behind a newline is ignored, and the lines are counted. -/
def seekRecoveryCursor (content : List UInt8) (cursor : Nat × Option Nat) : Nat × Nat :=
  let counted := (min cursor.1 (rawLines content).length,
    ((rawLines content).take cursor.1).flatten.length)
  match cursor.2 with
  | none => counted
  | some offset =>
    if offset ≤ content.length ∧ (offset = 0 ∨ content[offset - 1]? = some 10) then
      (cursor.1, offset)
    else counted

/-- The stored events have one at this position. -/
def hasEventAt (stored : List EventRow) (event : EventRow) : Bool :=
  stored.any fun other =>
    other.rawFileId == event.rawFileId && other.rawLineNumber == event.rawLineNumber

/-- An event of a batch. The texts are those of its timeline entry that the event does not have. -/
structure PendingEvent where
  event : EventRow
  timelineTexts : List String

section Insert

variable {DateTime : Type} (lib : SyslogLibrary DateTime)

/-- `sqlite3` binds a text as UTF-8. -/
def bindText (text : String) : Except PythonError Unit :=
  if lib.encodable text then .ok () else .error .valueError

/-- `sqlite3` binds integers of 64 bits, and neither lists nor dictionaries. -/
def bindValue : Json → Except PythonError Unit
  | .null | .bool _ | .float _ => .ok ()
  | .int value => if -2 ^ 63 ≤ value ∧ value < 2 ^ 63 then .ok () else .error .other
  | .str text => bindText lib text
  | .arr _ | .obj _ => .error .other

/-- The columns of an event that come as texts. -/
def eventTexts (event : EventRow) : List String :=
  [event.runId, event.identity.deviceUuid, event.identity.trainId, event.identity.mrRole,
    event.eventType, event.deviceTime, event.receiveTime, event.sourceIp, event.hostname,
    event.peerName, event.peerMac, event.previousPeerName, event.previousPeerMac, event.station,
    event.sectionName, event.dataQuality, event.rawFileId, event.eventFamily, event.eventTime,
    event.eventTimeSource, event.dedupKey, event.interfaceName, event.interfaceType,
    event.physicalState, event.cfgEventIndex, event.cfgCommandSource, event.cfgSource,
    event.cfgDestination, lib.dumps event.details]

/-- Fails where `sqlite3` refuses a value of the event. -/
def bindEvent (event : EventRow) : Except PythonError Unit := do
  (eventTexts lib event).forM (bindText lib)
  bindValue lib event.identity.deviceId
  bindValue lib event.clockOffsetMs

/-- `_insert_wmesh_events`, of events with positions. -/
def insertEvents : List EventRow → List PendingEvent → Except PythonError (List EventRow)
  | stored, [] => .ok stored
  | stored, pending :: rest =>
    if hasEventAt stored pending.event then insertEvents stored rest
    else do
      bindEvent lib pending.event
      insertEvents (stored ++ [pending.event]) rest

/-- `_insert_timeline_events`. -/
def insertTimelineEvents (batch : List PendingEvent) : Except PythonError Unit :=
  batch.forM fun pending =>
    (pending.timelineTexts ++ eventTexts lib pending.event).forM (bindText lib)

end Insert

/-! ## Replaying a file -/

section Replay

variable {DateTime : Type} (lib : SyslogLibrary DateTime) (runId : String)
  (services : ReceiverServices DateTime)

/-- The projection of a line; a line that is no dictionary has none. -/
def projectLine (fileId : String) (lineNumber : Nat) (line : List UInt8) :
    Except PythonError (Option PendingEvent) :=
  match lib.python.loads (lib.decodeReplace line) with
  | .error .jsonDecodeError => .ok none
  | .error raised => .error raised
  | .ok (.obj record) => do
    let event ← recoveredProjection lib runId services record fileId lineNumber
    return event.map fun event => {
      event := event
      timelineTexts := ["train_no", "mr_name"].map (textOr lib.python record) }
  | .ok _ => .ok none

/-- `commit_wmesh_projection_batch` of a file. -/
def commitBatch (row : RecoveryRow) (stored : List EventRow) (batch : List PendingEvent)
    (lineNumber : Nat) (completed : Bool) : Except PythonError (RecoveryRow × List EventRow) := do
  let stored ← insertEvents lib stored batch
  insertTimelineEvents lib batch
  return ({ row with
      parseStatus :=
        if completed then "PARSED"
        else if lib.python.upper row.status = "OPEN" then "STREAMING@" ++ toString lineNumber
        else lineCursor lineNumber },
    stored)

/-- The cursor is written into the row. -/
def persistRecoveryOffset (row : RecoveryRow) (lineNumber byteOffset : Nat) : RecoveryRow :=
  if awaitsRecovery row.parseStatus then
    { row with parseStatus := formatRecoveryCursor lineNumber byteOffset }
  else row

/-- The replay of a file: the durable states, the records that remain of the limit, and
an exception. -/
structure FileReplay where
  durable : List (RecoveryRow × List EventRow)
  remaining : Nat
  raised : Option PythonError

/-- The offset is written behind a batch. -/
def withOffset (committed : RecoveryRow × List EventRow) (lineNumber byteOffset : Nat) :
    RecoveryRow × List EventRow :=
  (persistRecoveryOffset committed.1 lineNumber byteOffset, committed.2)

/-- The last commit of a call for a file. -/
def finishFile (fileSize : Nat) (row : RecoveryRow) (stored : List EventRow)
    (batch : List PendingEvent) (lineNumber byteOffset remaining : Nat) : FileReplay :=
  match commitBatch lib row stored batch lineNumber (fileSize ≤ byteOffset) with
  | .error raised => ⟨[], remaining, some raised⟩
  | .ok committed =>
    let durable := if fileSize ≤ byteOffset then [committed]
      else [committed, withOffset committed lineNumber byteOffset]
    ⟨durable, remaining, none⟩

/-- The lines of a file that the limit allows. A batch has a hundred events. -/
def replayLines (fileSize : Nat) (row : RecoveryRow) (stored : List EventRow)
    (batch : List PendingEvent) (lineNumber byteOffset : Nat) :
    List (List UInt8) → Nat → FileReplay
  | [], remaining => finishFile lib fileSize row stored batch lineNumber byteOffset remaining
  | _ :: _, 0 => finishFile lib fileSize row stored batch lineNumber byteOffset 0
  | line :: rest, remaining + 1 =>
    match projectLine lib runId services row.fileId (lineNumber + 1) line with
    | .error raised => ⟨[], remaining, some raised⟩
    | .ok none =>
      replayLines fileSize row stored batch (lineNumber + 1) (byteOffset + line.length) rest
        remaining
    | .ok (some event) =>
      if 100 ≤ (batch ++ [event]).length then
        match commitBatch lib row stored (batch ++ [event]) (lineNumber + 1) false with
        | .error raised => ⟨[], remaining, some raised⟩
        | .ok committed =>
          let written := withOffset committed (lineNumber + 1) (byteOffset + line.length)
          let later := replayLines fileSize written.1 written.2 [] (lineNumber + 1)
            (byteOffset + line.length) rest remaining
          { later with durable := committed :: written :: later.durable }
      else
        replayLines fileSize row stored (batch ++ [event]) (lineNumber + 1)
          (byteOffset + line.length) rest remaining

/-- Where the replay of a row starts. -/
def startPosition (row : RecoveryRow) (content : List UInt8) : Nat × Nat :=
  seekRecoveryCursor content (parseRecoveryCursor lib.python row.parseStatus)

/-- The lines behind the cursor. -/
def pendingLines (row : RecoveryRow) (content : List UInt8) : List (List UInt8) :=
  rawLines (content.drop (startPosition lib row content).2)

/-- The lines of a file, from its cursor on. -/
def replayFile (row : RecoveryRow) (content : List UInt8) (stored : List EventRow)
    (remaining : Nat) : FileReplay :=
  replayLines lib runId services content.length row stored []
    (startPosition lib row content).1 (startPosition lib row content).2
    (pendingLines lib row content) remaining

/-! ## Replaying the files of a run -/

/-- The raw files of a run in their order, and the stored events. -/
structure ReplayStore where
  rows : List RecoveryRow
  stored : List EventRow

/-- A row in front of those of a store. -/
def ReplayStore.withRow (row : RecoveryRow) (store : ReplayStore) : ReplayStore :=
  { store with rows := row :: store.rows }

/-- The states that a call goes through, over the rows that it has listed. -/
def replayRows : List RecoveryRow → List EventRow → Nat → List ReplayStore
  | [], _, _ => []
  | row :: rest, stored, remaining =>
    if !row.isCandidate then
      (replayRows rest stored remaining).map (.withRow row)
    else if remaining = 0 then []
    else
      match row.content with
      | none =>
        ⟨row.missing :: rest, stored⟩ :: (replayRows rest stored remaining).map
          (.withRow row.missing)
      | some content =>
        let file := replayFile lib runId services row content stored remaining
        let after := file.durable.getLast?.getD (row, stored)
        file.durable.map (fun state => ⟨state.1 :: rest, state.2⟩) ++
          if file.raised.isSome then []
          else (replayRows rest after.2 file.remaining).map (.withRow after.1)

/-- One call; all states that it commits. -/
def replayPendingEvents (maxRecords : Int) (store : ReplayStore) : List ReplayStore :=
  replayRows lib runId services store.rows store.stored (max 1 maxRecords).toNat

end Replay

end NetConsole.Syslog
