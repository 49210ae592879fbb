import Mathlib.Data.Char
import Mathlib.Data.List.Lex
import Mathlib.Data.Prod.Lex
import NetConsole.Foundations.NewestWindow
import NetConsole.TaskCenter.Snapshot

/-!
# The task repository

`TaskRepository` keeps the snapshots, the events, and the sealed results of
tasks. A terminal event seals its result: `prepareTerminalResult` stores the
result once, and the snapshot and the event keep a reference to it. Readers
follow the reference and check it (`snapshotFromRow`).

Every writer is one transaction; one that raises changes nothing. A blob is kept
as its text, without the compression.
-/

set_option autoImplicit false

namespace NetConsole.TaskCenter

open Foundations
open Syslog (firstOf isPythonSpace stripWhere)

/-! ## The tables -/

/-- A row of `task_results`. -/
structure ResultRow where
  (resultId taskId terminalEventType : String)
  /-- The text of a row that has no blob. -/
  (canonicalJson sha256 : String)
  byteSize : Nat
  (createdTime contentSha256 : String)
  blobReady : Bool
  deriving DecidableEq

/-- The tables of tasks. -/
structure TaskStore (Result : Type) where
  snapshots : List (TaskSnapshot Result)
  results : List ResultRow
  /-- `task_result_blobs` by digest. -/
  blobs : String → Option String
  /-- The events in the order of their sequence numbers. -/
  events : List (TaskEvent Result)
  /-- `task_retention_tombstones`. -/
  tombstones : List String

def TaskStore.new (Result : Type) : TaskStore Result where
  snapshots := []
  results := []
  blobs _ := none
  events := []
  tombstones := []

/-- How a call fails. -/
inductive TaskError where
  | database (message : String)
  | retired | invalidState | value
  deriving DecidableEq, Repr

variable {Result : Type}

/-- The row of a task. -/
def TaskStore.snapshotRow (store : TaskStore Result) (taskId : String) :
    Option (TaskSnapshot Result) :=
  store.snapshots.find? fun row => row.taskId = taskId

/-- The row of a result. -/
def TaskStore.resultRow (store : TaskStore Result) (resultId : String) : Option ResultRow :=
  store.results.find? fun row => row.resultId = resultId

/-- `_is_retention_tombstoned`. -/
def TaskStore.isTombstoned (store : TaskStore Result) (taskId : String) : Bool :=
  store.tombstones.contains taskId

/-- `str(value or "").strip()`. -/
def stripped (value : String) : String :=
  String.ofList (stripWhere isPythonSpace value.toList)

def resourceKeySet (values : List String) : List String :=
  (values.map stripped).filter fun key => key ≠ ""

/-! ## Sealed results -/

section Sealed

variable (format : ResultFormat Result)

/-- A result row that was checked, with its text and its content. -/
structure VerifiedResult (Result : Type) where
  row : ResultRow
  canonicalJson : String
  result : Result

/-- The identifier of a sealed result. -/
def sealedResultId (taskId terminalEventType digest : String) : String :=
  "tr-" ++ format.sha256 (taskId ++ "\x00" ++ terminalEventType ++ "\x00" ++ digest)

/-- The text of a blob, checked. -/
def readBlob (blobs : String → Option String) (contentSha256 : String) (expectedBytes : Nat) :
    Except TaskError String :=
  match blobs contentSha256 with
  | none => .error (.database "task result blob is missing")
  | some text =>
    if text.utf8ByteSize ≠ expectedBytes then
      .error (.database "task result blob uncompressed size mismatch")
    else if format.sha256 text ≠ contentSha256 then
      .error (.database "task result blob hash mismatch")
    else if (format.parse text).isNone then
      .error (.database "task result blob JSON is invalid")
    else .ok text

/-- The text is the one that the row was made of. -/
def verifyTaskResultRow (row : ResultRow) (canonicalJson : String) :
    Except TaskError (VerifiedResult Result) :=
  if format.sha256 canonicalJson ≠ row.sha256 then
    .error (.database "task result hash mismatch")
  else if canonicalJson.utf8ByteSize ≠ row.byteSize then
    .error (.database "task result byte size mismatch")
  else if sealedResultId format row.taskId row.terminalEventType row.sha256 ≠ row.resultId then
    .error (.database "task result deterministic identity mismatch")
  else
    match format.parse canonicalJson with
    | none => .error (.database "task result canonical JSON is invalid")
    | some result => .ok ⟨row, canonicalJson, result⟩

/-- The result of a row, checked. -/
def verifiedResultForRead (blobs : String → Option String) (row : ResultRow) :
    Except TaskError (VerifiedResult Result) :=
  if row.contentSha256 ≠ "" && row.contentSha256 ≠ row.sha256 then
    .error (.database "task result content hash metadata mismatch")
  else if row.blobReady then
    (readBlob format blobs (firstOf row.contentSha256 row.sha256) row.byteSize).bind
      (verifyTaskResultRow format row)
  else if row.contentSha256 ≠ "" then .error (.database "task result blob is not ready")
  else verifyTaskResultRow format row row.canonicalJson

/-- `INSERT OR IGNORE` of a blob. -/
def insertBlob (blobs : String → Option String) (digest text : String) : String → Option String :=
  if (blobs digest).isSome then blobs else Function.update blobs digest (some text)

/-- The blob is there with this text. -/
def ensureBlob (store : TaskStore Result) (canonicalJson contentSha256 : String) :
    Except TaskError (TaskStore Result) :=
  if format.sha256 canonicalJson ≠ contentSha256 then
    .error (.database "task result blob content hash mismatch before write")
  else
    (readBlob format (insertBlob store.blobs contentSha256 canonicalJson) contentSha256
      canonicalJson.utf8ByteSize).bind fun decoded =>
        if decoded ≠ canonicalJson then
          .error (.database "task result blob decoded content mismatch")
        else .ok { store with blobs := insertBlob store.blobs contentSha256 canonicalJson }

def ResultRow.ready (row : ResultRow) : ResultRow :=
  if row.blobReady then row else { row with contentSha256 := row.sha256, blobReady := true }

/-- The result is held in a blob from now on. -/
def ensureResultBlobForRow (store : TaskStore Result) (verified : VerifiedResult Result) :
    Except TaskError (VerifiedResult Result × TaskStore Result) :=
  (ensureBlob format store verified.canonicalJson verified.row.sha256).bind fun store =>
    let results := store.results.map fun row =>
      if row.resultId = verified.row.resultId then row.ready else row
    let store := { store with results := results }
    match store.resultRow verified.row.resultId with
    | none => .error (.database "task result row is missing")
    | some row => (verifiedResultForRead format store.blobs row).map fun verified =>
        (verified, store)

def ResultRow.age (row : ResultRow) : List Char ×ₗ List Char :=
  toLex (row.createdTime.toList, row.resultId.toList)

/-- The oldest result of a task for a terminal event type. -/
def TaskStore.existingResult (store : TaskStore Result) (taskId terminalEventType : String) :
    Option ResultRow :=
  (newestFirst ResultRow.age (store.results.filter fun row =>
    row.taskId = taskId && row.terminalEventType = terminalEventType)).getLast?

/-- `INSERT OR IGNORE` of a result. -/
def TaskStore.insertResult (store : TaskStore Result) (row : ResultRow) : TaskStore Result :=
  if store.results.any fun other =>
      other.resultId = row.resultId || (other.taskId = row.taskId &&
        other.terminalEventType = row.terminalEventType && other.sha256 = row.sha256) then store
  else { store with results := store.results ++ [row] }

end Sealed

/-! ## Preparing a terminal result -/

section Prepare

variable [DecidableEq Result] (format : ResultFormat Result)

/-- The snapshot names no result. -/
def TaskSnapshot.withoutReference (snapshot : TaskSnapshot Result) : TaskSnapshot Result :=
  { snapshot with resultId := "", resultHash := "", resultSummary := format.empty }

/-- `_canonical_result_json`, which raises on NaN and infinities. -/
def canonicalResultJson (result : Result) : Except TaskError String :=
  match format.canonicalJson result with
  | some text => .ok text
  | none => .error .value

/-- The full result of a snapshot is compared with the sealed one. -/
def matchResult (result : Result) (canonicalJson message : String) : Except TaskError Unit :=
  if result = format.empty then .ok ()
  else (canonicalResultJson format result).bind fun text =>
    if text ≠ canonicalJson then .error (.database message) else .ok ()

/-- An event that seals nothing: a reference stays with a snapshot that has no
full result, or the same one. -/
def keepReference (store : TaskStore Result) (snapshot : TaskSnapshot Result) :
    Except TaskError (TaskSnapshot Result) :=
  if snapshot.result = format.empty || snapshot.resultId = "" then .ok snapshot
  else
    match store.resultRow snapshot.resultId with
    | none => .ok (snapshot.withoutReference format)
    | some row =>
      (verifiedResultForRead format store.blobs row).bind fun verified =>
        if row.taskId ≠ snapshot.taskId then
          .error (.database "task snapshot result task binding mismatch")
        else if snapshot.resultHash ≠ "" && snapshot.resultHash ≠ row.sha256 then
          .ok (snapshot.withoutReference format)
        else (canonicalResultJson format snapshot.result).map fun text =>
          if text = verified.canonicalJson then snapshot else snapshot.withoutReference format

/-- A terminal event whose snapshot names a sealed result. -/
def bindReference (store : TaskStore Result) (snapshot : TaskSnapshot Result) :
    Except TaskError (TaskStore Result) :=
  match store.resultRow snapshot.resultId with
  | none => .ok store
  | some row =>
    (verifiedResultForRead format store.blobs row).bind fun verified =>
      if row.taskId ≠ snapshot.taskId then
        .error (.database "task snapshot result task binding mismatch")
      else if snapshot.resultHash ≠ "" && snapshot.resultHash ≠ row.sha256 then
        .error (.database "task snapshot result hash mismatch")
      else (matchResult format snapshot.result verified.canonicalJson
          "task snapshot result content mismatch").bind fun _ =>
        (ensureResultBlobForRow format store verified).map Prod.snd

/-- The result that a terminal event brings. -/
def incomingResult (snapshot : TaskSnapshot Result) (event : TaskEvent Result) : Result :=
  if snapshot.result = format.empty then event.payload.result.getD snapshot.result
  else snapshot.result

/-- The row of a result that is stored first. -/
def newResultRow (snapshot : TaskSnapshot Result) (event : TaskEvent Result)
    (canonicalJson : String) : ResultRow :=
  let digest := format.sha256 canonicalJson
  { resultId := sealedResultId format snapshot.taskId snapshot.status.terminalEventType digest
    taskId := snapshot.taskId, terminalEventType := snapshot.status.terminalEventType
    canonicalJson := ""
    sha256 := digest
    byteSize := canonicalJson.utf8ByteSize
    createdTime := firstOf event.time (firstOf snapshot.finishedTime snapshot.updatedTime)
    contentSha256 := digest
    blobReady := true }

/-- The sealed result of a terminal event: the one that exists, or a new one. -/
def sealResult (store : TaskStore Result) (snapshot : TaskSnapshot Result)
    (event : TaskEvent Result) : Except TaskError (VerifiedResult Result × TaskStore Result) :=
  match store.existingResult snapshot.taskId snapshot.status.terminalEventType with
  | some row => (verifiedResultForRead format store.blobs row).bind
      (ensureResultBlobForRow format store)
  | none =>
    (canonicalResultJson format (incomingResult format snapshot event)).bind fun text =>
      let new := newResultRow format snapshot event text
      (ensureBlob format store text new.sha256).bind fun store =>
        let store := store.insertResult new
        match store.resultRow new.resultId with
        | none => .error (.database "task result row is missing")
        | some row => (verifiedResultForRead format store.blobs row).bind
            (ensureResultBlobForRow format store)

/-- What `_prepare_terminal_result` returns, with the store after it. -/
structure Prepared (Result : Type) where
  store : TaskStore Result
  snapshot : TaskSnapshot Result
  event : TaskEvent Result

/-- The reference to a sealed result. -/
def VerifiedResult.reference (verified : VerifiedResult Result) : ResultReference Result where
  resultId := verified.row.resultId
  resultHash := verified.row.sha256
  resultSummary := format.resultSummary verified.result verified.row.byteSize

/-- The snapshot and the event with a reference in the place of the result. -/
def refer (store : TaskStore Result) (snapshot : TaskSnapshot Result) (event : TaskEvent Result)
    (reference : ResultReference Result) : Prepared Result where
  store := store
  snapshot :=
    { snapshot with
      result := format.empty, resultId := reference.resultId, resultHash := reference.resultHash
      resultSummary := reference.resultSummary }
  event := { event with
    payload := { event.payload with result := none, reference := some reference } }

/-- The result of a finished task is stored or found. -/
def prepareTerminalResult (store : TaskStore Result) (snapshot : TaskSnapshot Result)
    (event : TaskEvent Result) : Except TaskError (Prepared Result) :=
  if snapshot.status.terminalEventType ≠ event.type then
    (keepReference format store snapshot).map fun snapshot => ⟨store, snapshot, event⟩
  else if snapshot.resultId ≠ "" then
    (bindReference format store snapshot).map fun store => ⟨store, snapshot, event⟩
  else
    (sealResult format store snapshot event).map fun (verified, store) =>
      refer format store snapshot event (verified.reference format)

/-! ## Writing -/

/-- The columns of a new row. -/
def storedColumns (snapshot : TaskSnapshot Result) : TaskSnapshot Result :=
  { snapshot with
    progress := clampPercent snapshot.progress
    textIntegrity := if snapshot.textIntegrity ∈ textIntegrityValues then snapshot.textIntegrity
      else "unknown_corrupted" }

/-- The columns of a row that exists: those of the result are merged. -/
def mergedColumns (stored snapshot : TaskSnapshot Result) : TaskSnapshot Result :=
  { storedColumns snapshot with
    createdTime := stored.createdTime
    result := if snapshot.resultId ≠ "" || snapshot.result ≠ format.empty then snapshot.result
      else if stored.resultId ≠ "" then stored.result
      else snapshot.result
    resultId := if snapshot.resultId ≠ "" then snapshot.resultId
      else if snapshot.result ≠ format.empty then ""
      else stored.resultId
    resultHash := if snapshot.resultHash ≠ "" then snapshot.resultHash
      else if snapshot.result ≠ format.empty then ""
      else stored.resultHash
    resultSummary := if snapshot.resultId ≠ "" then snapshot.resultSummary
      else if snapshot.result ≠ format.empty then format.empty
      else stored.resultSummary }

/-- `_upsert`; `none` when the state filter keeps the stored row. -/
def TaskStore.upsert (store : TaskStore Result) (snapshot : TaskSnapshot Result)
    (allowed : Option (List TaskState)) : Option (TaskStore Result) :=
  match store.snapshotRow snapshot.taskId with
  | none => some { store with snapshots := store.snapshots ++ [storedColumns snapshot] }
  | some stored =>
    if allowed.all fun states => states.contains stored.status then
      some { store with snapshots := store.snapshots.map fun row =>
        if row.taskId = snapshot.taskId then mergedColumns format row snapshot else row }
    else none

/-- The event that `save` seals a result with. -/
def saveEvent (snapshot : TaskSnapshot Result) : TaskEvent Result where
  eventId := "save-" ++ snapshot.taskId
  taskId := snapshot.taskId
  type := snapshot.status.terminalEventType
  time := firstOf snapshot.finishedTime snapshot.updatedTime
  source := "repository.save"
  payload := { EventPayload.blank with result := some snapshot.result }

/-- What `save` writes: a terminal snapshot with a result is sealed. -/
def prepareSaved (store : TaskStore Result) (snapshot : TaskSnapshot Result) :
    Except TaskError (TaskStore Result × TaskSnapshot Result) :=
  if snapshot.status.isTerminal && snapshot.result ≠ format.empty then
    (prepareTerminalResult format store snapshot (saveEvent snapshot)).map fun prepared =>
      (prepared.store, prepared.snapshot)
  else .ok (store, snapshot)

/-- The snapshot is written, unless the task is retired. -/
def save (store : TaskStore Result) (snapshot : TaskSnapshot Result) :
    Except TaskError (TaskStore Result) :=
  if store.isTombstoned snapshot.taskId then .error .retired
  else (prepareSaved format store snapshot).map fun (prepared, saved) =>
    (prepared.upsert format saved none).getD prepared

/-- The progress is not worth another row. -/
def sampleRepeatedProgress (store : TaskStore Result) (event : TaskEvent Result) : Bool :=
  event.type = "progress" &&
    match (store.events.filter fun other => other.taskId = event.taskId).getLast? with
    | none => false
    | some last =>
      last.type = "progress" && last.source = event.source && last.payload = event.payload &&
        match format.eventTime last.time, format.eventTime event.time with
        | some previous, some current => 0 ≤ current - previous && current - previous < 30000
        | _, _ => false

/-- `record`: whether the event is recorded, and the store after it. -/
def record (store : TaskStore Result) (snapshot : TaskSnapshot Result) (event : TaskEvent Result)
    (allowed : Option (List TaskState)) : Except TaskError (Bool × TaskStore Result) :=
  if store.events.any fun other => other.eventId = event.eventId then .ok (false, store)
  else if store.isTombstoned event.taskId then .ok (false, store)
  else if sampleRepeatedProgress format store event then .ok (true, store)
  else (prepareTerminalResult format store snapshot event).map fun prepared =>
    match prepared.store.upsert format prepared.snapshot allowed with
    | none => (false, store)
    | some after => (true, { after with events := after.events ++ [prepared.event] })

/-! ## Reading -/

/-- `_snapshot_from_row`: blank resource keys are left out. -/
def decodeRow (row : TaskSnapshot Result) : TaskSnapshot Result :=
  { row with resourceKeys := row.resourceKeys.filter fun key => stripped key ≠ "" }

/-- A row with a reference, read through its sealed result. -/
def TaskSnapshot.throughReference (row : TaskSnapshot Result) (verified : VerifiedResult Result) :
    TaskSnapshot Result :=
  { row with
    result := if row.result = format.empty then verified.result else row.result
    resultHash := verified.row.sha256
    resultSummary := if row.resultSummary = format.empty then
      format.resultSummary verified.result verified.row.byteSize else row.resultSummary }

/-- `_snapshot_from_connection_row`. -/
def snapshotFromRow (store : TaskStore Result) (row : TaskSnapshot Result) :
    Except TaskError (TaskSnapshot Result) :=
  if row.resultId = "" then .ok (decodeRow row)
  else
    match store.resultRow row.resultId with
    | none => .error (.database "task snapshot result reference is missing")
    | some sealed =>
      (verifiedResultForRead format store.blobs sealed).bind fun verified =>
        if sealed.taskId ≠ row.taskId then
          .error (.database "task snapshot result task binding mismatch")
        else if row.resultHash ≠ "" && row.resultHash ≠ sealed.sha256 then
          .error (.database "task snapshot result hash mismatch")
        else (matchResult format row.result verified.canonicalJson
            "task snapshot full result does not match result reference").map fun _ =>
          decodeRow (row.throughReference format verified)

/-- `get`. -/
def getSnapshot (store : TaskStore Result) (taskId : String) :
    Except TaskError (Option (TaskSnapshot Result)) :=
  match store.snapshotRow taskId with
  | none => .ok none
  | some row => (snapshotFromRow format store row).map some

/-- The order of the listings: newest first. -/
def snapshotKey (row : TaskSnapshot Result) : List Char ×ₗ List Char ×ₗ List Char :=
  toLex (row.updatedTime.toList, toLex (row.createdTime.toList, row.taskId.toList))

/-- `list` of the tasks in some states. -/
def listSnapshots (store : TaskStore Result) (statuses : List TaskState) (limit : Nat) :
    Except TaskError (List (TaskSnapshot Result)) :=
  (newest snapshotKey limit (store.snapshots.filter fun row =>
    statuses.contains row.status)).mapM (snapshotFromRow format store)

/-! ## The resource guard -/

/-- The loop of `save_with_resource_guard` over the active rows. -/
def findConflict (store : TaskStore Result) (snapshot : TaskSnapshot Result) :
    List (TaskSnapshot Result) → Except TaskError (Option (TaskSnapshot Result))
  | [] => .ok none
  | row :: rest =>
    (snapshotFromRow format store row).bind fun current =>
      if current.taskId = snapshot.taskId then findConflict store snapshot rest
      else if (resourceKeySet current.resourceKeys).any
          (resourceKeySet snapshot.resourceKeys).contains then .ok (some current)
      else findConflict store snapshot rest

/-- The rows that the guard looks at. -/
def guardedRows (store : TaskStore Result) (snapshot : TaskSnapshot Result) :
    List (TaskSnapshot Result) :=
  newestFirst snapshotKey (store.snapshots.filter fun row =>
    row.siteName = snapshot.siteName && TaskState.activeStates.contains row.status &&
      row.resourceKeys ≠ [])

/-- `save_with_resource_guard`, with the active states of the service: the
conflict, or the store after it. -/
def saveWithResourceGuard (store : TaskStore Result) (snapshot : TaskSnapshot Result) :
    Except TaskError (Option (TaskSnapshot Result) × TaskStore Result) :=
  if resourceKeySet snapshot.resourceKeys = [] then
    (save format store snapshot).map fun store => (none, store)
  else if store.isTombstoned snapshot.taskId then .error .retired
  else (findConflict format store snapshot (guardedRows store snapshot)).map fun conflict =>
    match conflict with
    | some current => (some current, store)
    | none => (none, (store.upsert format snapshot none).getD store)

end Prepare

end NetConsole.TaskCenter
