import Mathlib.Data.Prod.Lex
import Mathlib.Data.List.Lex
import Mathlib.Data.Char
import NetConsole.Foundations.NewestWindow

/-!
# The history store: outbox, catalog and monthly shards

`HistoryStore` keeps the events of a site in three places. New events stand in
the table `history_outbox` of the site database; older ones in shard files, one
or more for each month; and `catalog.db` says which shards exist, which month
each covers and in which state it is.

A row of any of the three event tables is a `HistoryEvent`; the dictionary ids
of the second shard schema are resolved and the payload is decoded. Texts are
compared by code point, as SQLite's binary collation does.
-/

set_option autoImplicit false

namespace NetConsole.History

open Foundations

/-- A row of `history_outbox`, `history_events` or `history_events_v2`. -/
@[ext]
structure HistoryEvent (Payload : Type) where
  (eventId kind entityKey eventType collectedAt : String)
  payload : Payload
  createdAt : String
  deriving DecidableEq

/-- The `status` of a catalog row. -/
inductive ShardStatus where
  | active | closed | archived | open | sealing | sealed | verified | retired
  deriving DecidableEq

def catalogQueryableStates : List ShardStatus :=
  [.active, .closed, .archived, .open, .sealing, .sealed, .verified]

/-- A row of `history_catalog`. The columns of the shard profile (counts, sizes,
digests) are left out: no reader chooses by them. -/
@[ext]
structure CatalogRow where
  (shardId periodStart periodEnd : String)
  segment : Nat
  relativePath : String
  status : ShardStatus
  deriving DecidableEq

/-- The event tables of a shard file; an old file has the first, a new one the
second, and an old file that was written to again has both. -/
structure ShardFile (Payload : Type) where
  (historyEvents historyEventsV2 : Option (List (HistoryEvent Payload)))

/-- The events of a shard file, of both tables. -/
def ShardFile.events {Payload : Type} (file : ShardFile Payload) : List (HistoryEvent Payload) :=
  file.historyEvents.getD [] ++ file.historyEventsV2.getD []

/-- What the files of a history root hold: the catalog and the shard files by
name. A missing catalog is an empty one. -/
structure Archive (Payload : Type) where
  catalog : List CatalogRow
  files : String → Option (ShardFile Payload)

def dynamicChangeOnlyKinds : List String :=
  ["device_interface", "device_optical", "device_lldp", "fit_ap_optical"]

def dynamicHistoryLimit : Nat := 10

/-- The type of the copies of rows of retired tables. -/
def legacyType : String := "legacy"

/-! ## Order -/

/-- Two texts, compared one after the other. -/
abbrev TextPair : Type := List Char ×ₗ List Char

/-- `collected_at` and `event_id`, by which events are sorted. -/
def timeAndId (collectedAt eventId : String) : TextPair :=
  toLex (collectedAt.toList, eventId.toList)

def HistoryEvent.sortKey {Payload : Type} (event : HistoryEvent Payload) : TextPair :=
  timeAndId event.collectedAt event.eventId

/-- Different ids, different sort keys. -/
theorem nodup_sortKey {α : Type} {items : List α} {time id : α → String}
    (distinct : (items.map id).Nodup) :
    (items.map fun item => timeAndId (time item) (id item)).Nodup := by
  rw [List.nodup_map_iff_inj_on (List.Nodup.of_map _ distinct)]
  intro first inItems second alsoIn same
  have ids : (id first).toList = (id second).toList := congrArg (fun pair => (ofLex pair).2) same
  exact List.inj_on_of_nodup_map distinct inItems alsoIn (String.toList_injective ids)

/-- `_catalog_order_by` with `descending`: period, segment and shard id. -/
def CatalogRow.orderKey (row : CatalogRow) : List Char ×ₗ ℕ ×ₗ List Char :=
  toLex (row.periodStart.toList, toLex (row.segment, row.shardId.toList))

/-! ## Reading the shards -/

/-- The name of a shard file: `devices-YYYY-MM.db` or `devices-YYYY-MM-NNNN.db`,
where the letters stand for ASCII digits, the only ones in a name that the store
writes (`\d` takes other decimal digits as well). -/
def isShardName (name : String) : Bool :=
  let digits (count : Nat) (text : List Char) : Bool :=
    text.length = count && text.all fun char => '0' ≤ char && char ≤ '9'
  match name.toList.splitOn '-' with
  | [devices, year, last] =>
    devices = "devices".toList && digits 4 year && digits 2 (last.take 2) &&
      last.drop 2 = ".db".toList
  | [devices, year, month, last] =>
    devices = "devices".toList && digits 4 year && digits 2 month && digits 4 (last.take 4) &&
      last.drop 4 = ".db".toList
  | _ => false

/-- `_safe_shard_path` and `is_file`: the file of a catalog row. -/
def Archive.shardFile {Payload : Type} (archive : Archive Payload) (row : CatalogRow) :
    Option (ShardFile Payload) :=
  if isShardName row.relativePath then archive.files row.relativePath else none

/-- The events in the file of a catalog row; none when there is no such file. -/
def Archive.eventsOf {Payload : Type} (archive : Archive Payload) (row : CatalogRow) :
    List (HistoryEvent Payload) :=
  (archive.shardFile row).elim [] ShardFile.events

/-- The catalog rows whose shards are read. -/
def Archive.queryable {Payload : Type} (archive : Archive Payload) : List CatalogRow :=
  archive.catalog.filter (·.status ∈ catalogQueryableStates)

/-- All events of the shards that are read. -/
def Archive.storedEvents {Payload : Type} (archive : Archive Payload) :
    List (HistoryEvent Payload) :=
  archive.queryable.flatMap archive.eventsOf

end NetConsole.History
