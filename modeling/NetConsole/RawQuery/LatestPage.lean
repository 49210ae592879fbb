import Mathlib.Data.Prod.Lex
import NetConsole.RawQuery.IncrementalPing
import NetConsole.Foundations.GreatestKept

/-!
# Pages of raw records

`ping_samples` and `syslog_records` return a page of the matching records, the newest
first. They keep as many records as the pages up to this one have, in a heap with the
oldest on top. A syslog query without filters on single fields reads the files by their
registered times, the newest first, and stops before a file that is registered as older
than every record it keeps.

The registered identity of a train, the identity of a ping target and the time range are
given with a query. A heap is a list with its least entry first.
-/

set_option autoImplicit false

namespace NetConsole.RawQuery

open Foundations
open Worker (Json Event PythonLibrary dictGet textOr)

/-! ## The registry -/

/-- A row of `ground_unattended_raw_files`. -/
structure RawFileRow extends RegisteredFile where
  (siteId dataType runId trainId deviceUuid mrRole startTime endTime createdAt : String)

/-- The table; `file_id` is its primary key. -/
structure Registry where
  rows : List RawFileRow
  distinct : (rows.map fun row => row.fileId).Nodup

/-- What SQLite and the standard library compute for the registry, and
`canonical_train_id_for`, for train numbers that `int` reads (up to 4300 digits). -/
structure RegistryLibrary where
  julianday : String → Option Int
  upper : String → String
  parseDatetime : String → Option Int
  isoformat : Int → String
  canonicalTrainId : Json → String

variable (lib : RawQueryLibrary) (registryLib : RegistryLibrary)

def filterValues (values : List String) : List String :=
  ((values.map fun value =>
    lib.python.casefold (String.ofList (Worker.strip value.toList))).filter
    fun value => value ≠ "").eraseDups

/-- The arguments of `list_raw_files_for_query`. -/
structure FileQuery where
  siteId : String
  dataType : DataType
  (startTime endTime runId trainId deviceUuid : String)
  mrRole : List String
  limit : Int
  newestFirst : Bool

/-- `end_time='' OR julianday(end_time) IS NULL OR julianday(end_time)>=julianday(?)`; a
comparison with NULL is not true. -/
def julianNotBefore (time bound : String) : Bool :=
  time = "" ||
    match registryLib.julianday time, registryLib.julianday bound with
    | none, _ => true
    | some time, some bound => decide (bound ≤ time)
    | some _, none => false

/-- `start_time='' OR julianday(start_time) IS NULL OR julianday(start_time)<=julianday(?)`. -/
def julianNotAfter (time bound : String) : Bool :=
  time = "" ||
    match registryLib.julianday time, registryLib.julianday bound with
    | none, _ => true
    | some time, some bound => decide (time ≤ bound)
    | some _, none => false

/-- The conditions of the query. -/
def FileQuery.selects (query : FileQuery) (row : RawFileRow) : Bool :=
  let roles := filterValues lib query.mrRole
  row.siteId = query.siteId && row.dataType = query.dataType.text &&
    (query.runId = "" || row.runId = query.runId) &&
    (query.trainId = "" || row.trainId = query.trainId) &&
    (query.deviceUuid = "" || row.deviceUuid = query.deviceUuid) &&
    (roles.isEmpty ||
      (roles.map lib.python.upper).contains (registryLib.upper row.mrRole)) &&
    (query.startTime = "" || julianNotBefore registryLib row.endTime query.startTime) &&
    (query.endTime = "" || julianNotAfter registryLib row.startTime query.endTime)

/-- `COALESCE(NULLIF(end_time, ''), start_time)`. -/
def RawFileRow.lastTime (row : RawFileRow) : String :=
  if row.endTime = "" then row.startTime else row.endTime

/-- The order of the query. -/
def FileQuery.rowLe (query : FileQuery) (one two : RawFileRow) : Bool :=
  if query.newestFirst then
    two.lastTime < one.lastTime || one.lastTime = two.lastTime &&
      (two.startTime < one.startTime || one.startTime = two.startTime &&
        two.createdAt ≤ one.createdAt)
  else one.startTime < two.startTime || one.startTime = two.startTime &&
    one.createdAt ≤ two.createdAt

/-- The file may hold records of the span. -/
def rawFileOverlaps (startTime endTime : String) (row : RawFileRow) : Bool :=
  let parse := fun value => if value = "" then none else registryLib.parseDatetime value
  let startsLater := (parse endTime).any fun bound =>
    (parse row.startTime).any fun start => decide (bound < start)
  let endsEarlier := (parse startTime).any fun bound =>
    (parse row.endTime).any fun stop => decide (stop < bound)
  !startsLater && !endsEarlier

/-- The files of a query, in the order of the listing. -/
def listRawFilesForQuery (registry : Registry) (query : FileQuery) : List RawFileRow :=
  (((registry.rows.filter (query.selects lib registryLib)).mergeSort query.rowLe).take
    (max 1 (min query.limit 1000)).toNat).filter
      (rawFileOverlaps registryLib query.startTime query.endTime)

/-! ## Reading until a stop -/

/-- The loop of `_records`, where the reader of the records may ask to stop before a file. -/
def readFilesUntil (request : RecordRequest) (storage : Storage)
    (stop : RawFileRow → List YieldedRecord → Bool) :
    List (RawFileRow × Option LineSource) → ReadState → ReadState
  | [], state => state
  | (file, active) :: rest, state =>
    let checked := { state with budgetChecks := state.budgetChecks + 1 }
    if budgetExhausted request state then { checked with truncated := true }
    else if stop file state.yielded then { checked with optimizedLatestPage := true }
    else
      let after := readFile lib request storage file.toRegisteredFile active checked
      if after.raised.isSome then after
      else
        if after.truncated && decide (after.filesScanned ≠ checked.filesScanned) then after
        else readFilesUntil request storage stop rest after

/-- The state before the first file. -/
def startState (dataType : DataType) (rows : List RawFileRow) (paths : List (Option LineSource)) :
    ReadState where
  filesConsidered := rows.length
  registeredRecordCount :=
    ((rows.take dataType.maxFiles).map fun file => max 0 file.recordCount).sum
  truncated := decide (dataType.maxFiles < rows.length)
  seen := if paths.any (·.isSome) && paths.any (·.isNone) then some [] else none

/-- `_records`. -/
def recordsUntil (request : RecordRequest) (storage : Storage)
    (stop : RawFileRow → List YieldedRecord → Bool) (rows : List RawFileRow) :
    Except QueryError ReadState := do
  let files := rows.take request.dataType.maxFiles
  let paths ← files.mapM fun file => storage.activeFile file.toRegisteredFile
  return readFilesUntil lib request storage stop (files.zip paths)
    (startState request.dataType rows paths)

/-! ## Entries of a page -/

/-- `(parsed.timestamp(), serial, item)`. -/
structure PageEntry where
  time : Int
  serial : Nat
  record : YieldedRecord

/-- `entry[:2]`. -/
def PageEntry.key (entry : PageEntry) : Lex (Int × Nat) := toLex (entry.time, entry.serial)

def clampPage (page : Int) : Nat := (max 1 (min page 200)).toNat

def clampPageSize (pageSize : Int) : Nat := (max 1 (min pageSize 500)).toNat

/-- The page of some entries: from the newest one, by the slice of the page. -/
def pageItems (page pageSize : Nat) (entries : List PageEntry) : List YieldedRecord :=
  (((descending PageEntry.key entries).map PageEntry.record).drop ((page - 1) * pageSize)).take
    pageSize

/-! ## Syslog records -/

/-- The arguments of `syslog_records`, without those that filter single fields. -/
structure SyslogQuery where
  (siteId runId trainId registeredTrainId mrId : String)
  mrRole : List String
  (start finish page pageSize : Int)

def SyslogQuery.keepCount (query : SyslogQuery) : Nat :=
  clampPage query.page * clampPageSize query.pageSize

/-- The entries of `filters` that can have values. -/
def SyslogQuery.filters (query : SyslogQuery) : List (String × List String) :=
  [("train_id", filterValues lib [registryLib.canonicalTrainId (.str query.trainId)]),
    ("device_uuid", filterValues lib [query.mrId]),
    ("mr_role", filterValues lib query.mrRole)]

/-- `_syslog_filter_value` for these fields. -/
def syslogFilterValue (item : Event) (field : String) : String :=
  lib.python.casefold
    (if field = "train_id" then registryLib.canonicalTrainId (dictGet item field)
    else textOr lib.python item field)

/-- The record passes the filters. -/
def SyslogQuery.matchesItem (query : SyslogQuery) (item : Event) : Bool :=
  (query.filters lib registryLib).all fun filter =>
    filter.2.isEmpty || filter.2.any fun value =>
      decide (value.toList <:+: (syslogFilterValue lib registryLib item filter.1).toList)

/-- What the scan of Syslog files has found. -/
structure SyslogScan where
  matchedCount : Nat := 0
  serial : Nat := 0
  rows : List PageEntry := []

/-- The body of the loop of `syslog_records`, with the way in which an entry is kept. -/
def takeSyslog (query : SyslogQuery) (keep : List PageEntry → PageEntry → List PageEntry)
    (scan : SyslogScan) (record : YieldedRecord) : SyslogScan :=
  if query.matchesItem lib registryLib record.item then
    match parseTime lib (textOr lib.python record.item "receive_time") with
    | none => { scan with matchedCount := scan.matchedCount + 1 }
    | some time =>
      { matchedCount := scan.matchedCount + 1, serial := scan.serial + 1
        rows := keep scan.rows ⟨time, scan.serial + 1, record⟩ }
  else scan

/-- The state of the loop after some records. -/
def syslogScan (query : SyslogQuery) (read : List YieldedRecord) : SyslogScan :=
  read.foldl
    (takeSyslog lib registryLib query (keepGreater PageEntry.key query.keepCount)) {}

/-- `stop_before_older_file`, after the records that have been read. -/
def stopBeforeOlderFile (query : SyslogQuery) (registered : RawFileRow)
    (read : List YieldedRecord) : Bool :=
  let rows := (syslogScan lib registryLib query read).rows
  if rows.length < query.keepCount then false
  else
    match parseTime lib registered.lastTime, rows.head? with
    | some registeredEnd, some oldest => decide (registeredEnd < oldest.time)
    | _, _ => false

/-- `latest_page_fast_path` of a query without filters on single fields. -/
def SyslogQuery.latestPageFastPath (query : SyslogQuery) : Bool :=
  !(query.trainId ≠ "" && query.registeredTrainId = "")

def SyslogQuery.fileQuery (query : SyslogQuery) : FileQuery where
  siteId := query.siteId
  dataType := .syslog
  startTime := registryLib.isoformat query.start
  endTime := registryLib.isoformat query.finish
  runId := query.runId
  trainId := query.registeredTrainId
  deviceUuid := query.mrId
  mrRole := query.mrRole
  limit := DataType.syslog.maxFiles + 1
  newestFirst := query.latestPageFastPath

/-- A page of Syslog records. -/
structure SyslogPage where
  items : List YieldedRecord
  total : Int
  totalExact : Bool
  (page pageSize : Nat)

def SyslogQuery.request (query : SyslogQuery) (timeIsUp : Nat → Bool) : RecordRequest where
  dataType := .syslog
  runId := query.runId
  start := query.start
  finish := query.finish
  stopBeforeFile _ := false
  timeIsUp := timeIsUp

/-- `syslog_records`, with a stop. -/
def syslogRecordsUntil (stop : RawFileRow → List YieldedRecord → Bool) (registry : Registry)
    (storage : Storage) (timeIsUp : Nat → Bool) (query : SyslogQuery) :
    Except QueryError SyslogPage := do
  let state ← recordsUntil lib (query.request timeIsUp) storage stop
    (listRawFilesForQuery lib registryLib registry (query.fileQuery registryLib))
  match state.raised with
  | some error => throw error
  | none =>
    let scan := syslogScan lib registryLib query state.yielded
    return {
      items := pageItems (clampPage query.page) (clampPageSize query.pageSize) scan.rows
      total :=
        if state.optimizedLatestPage then max scan.matchedCount state.registeredRecordCount
        else scan.matchedCount
      totalExact := !(state.truncated || state.optimizedLatestPage), page := clampPage query.page
      pageSize := clampPageSize query.pageSize }

/-- `syslog_records`. -/
def syslogRecords (registry : Registry) (storage : Storage) (timeIsUp : Nat → Bool)
    (query : SyslogQuery) : Except QueryError SyslogPage :=
  syslogRecordsUntil lib registryLib (fun registered read => query.latestPageFastPath &&
      stopBeforeOlderFile lib registryLib query registered read)
    registry storage timeIsUp query

/-! ## Ping samples -/

/-- The arguments of `ping_samples`. -/
structure PingSamplesQuery where
  (siteId runId trainId deviceUuid : String)
  mrRole : List String
  (start finish : Int)
  includeWarmup : Bool
  (page pageSize : Int)

def PingSamplesQuery.keepCount (query : PingSamplesQuery) : Nat :=
  clampPage query.page * clampPageSize query.pageSize

def PingSamplesQuery.fileQuery (query : PingSamplesQuery) : FileQuery where
  siteId := query.siteId
  dataType := .ping
  startTime := registryLib.isoformat query.start
  endTime := registryLib.isoformat query.finish
  runId := query.runId
  trainId := query.trainId
  deviceUuid := query.deviceUuid
  mrRole := query.mrRole
  limit := DataType.ping.maxFiles + 1
  newestFirst := false

def PingSamplesQuery.request (query : PingSamplesQuery) (timeIsUp : Nat → Bool) :
    RecordRequest where
  dataType := .ping
  runId := query.runId
  start := query.start
  finish := query.finish
  stopBeforeFile _ := false
  timeIsUp := timeIsUp

/-- What the scan of ping files has found. -/
structure PingSamplesScan where
  observed : List (String × String) := []
  raw : Nat := 0
  effective : Nat := 0
  ignored : Nat := 0
  serial : Nat := 0
  matched : List PageEntry := []

/-- The body of the loop of `ping_samples`, with the way in which an entry is kept. -/
def takePing (identity : PingIdentity) (query : PingSamplesQuery)
    (keep : List PageEntry → PageEntry → List PageEntry) (scan : PingSamplesScan)
    (record : YieldedRecord) : Except QueryError PingSamplesScan :=
  if identity.matchesRecord record.item then
    match identity.assertTargetSignature record.item scan.observed with
    | none => .error .targetConflict
    | some observed =>
      let ignored := (dictGet record.item "warmup_ignored").truthy
      let counted := { scan with
        observed := observed, raw := scan.raw + 1
        effective := if ignored then scan.effective else scan.effective + 1
        ignored := if ignored then scan.ignored + 1 else scan.ignored }
      if query.includeWarmup || !ignored then
        let numbered := { counted with serial := scan.serial + 1 }
        match parseTime lib (textOr lib.python record.item "ts") with
        | none => .ok numbered
        | some time =>
          .ok { numbered with matched := keep scan.matched ⟨time, scan.serial + 1, record⟩ }
      else .ok counted
  else .ok scan

/-- A page of ping samples. -/
structure PingSamplesPage where
  items : List YieldedRecord
  (total page pageSize rawSampleCount effectiveSampleCount ignoredSampleCount : Nat)

/-- `ping_samples`, with the way in which an entry is kept. -/
def pingSamplesKeeping (keep : List PageEntry → PageEntry → List PageEntry) (registry : Registry)
    (storage : Storage) (timeIsUp : Nat → Bool) (identity : PingIdentity)
    (query : PingSamplesQuery) : Except QueryError PingSamplesPage := do
  let state ← recordsUntil lib (query.request timeIsUp) storage (fun _ _ => false)
    (listRawFilesForQuery lib registryLib registry (query.fileQuery registryLib))
  let scan ← state.yielded.foldlM (takePing lib identity query keep) {}
  match state.raised with
  | some error => throw error
  | none =>
    return {
      items := pageItems (clampPage query.page) (clampPageSize query.pageSize) scan.matched
      total := if query.includeWarmup then scan.effective + scan.ignored else scan.effective
      page := clampPage query.page, pageSize := clampPageSize query.pageSize
      rawSampleCount := scan.raw, effectiveSampleCount := scan.effective
      ignoredSampleCount := scan.ignored }

/-- `ping_samples`. -/
def pingSamples (registry : Registry) (storage : Storage) (timeIsUp : Nat → Bool)
    (identity : PingIdentity) (query : PingSamplesQuery) : Except QueryError PingSamplesPage :=
  pingSamplesKeeping lib registryLib (keepGreater PageEntry.key query.keepCount) registry
    storage timeIsUp identity query

end NetConsole.RawQuery
