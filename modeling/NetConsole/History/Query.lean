import Mathlib.Algebra.GroupWithZero.Nat
import NetConsole.History.Store

/-!
# Queries over the outbox and the shards

`query_events` reads a window of the newest events that match a filter. It reads
the outbox and then every shard that the catalog admits under the bounds of the
filter, keeps one event for each id, and cuts to the window after every shard.
`count_events` adds up the matching rows of the same sources.

Both read from a store whose files can all be read; what they write to
`_last_query_errors` is left out.
-/

set_option autoImplicit false

namespace NetConsole.History

open Foundations

variable {Payload : Type}

/-- What a query reads: the rows of `history_outbox`, and the archive. -/
structure Store (Payload : Type) where
  outbox : List (HistoryEvent Payload)
  archive : Archive Payload

/-! ## Filters -/

/-- The filter arguments that `query_events` and `count_events` share. -/
structure EventFilter where
  kind : String
  (entityKey entityPrefix collectedFrom collectedTo : Option String)
  deriving DecidableEq

/-- A bound counts only when it is a text that is not empty. -/
def bound (value : Option String) : Option String :=
  value.filter (· ≠ "")

def foldCase (char : Char) : Char :=
  if 'A' ≤ char && char ≤ 'Z' then Char.ofNat (char.toNat + 32) else char

/-- `text LIKE pattern || '%'`. -/
def likePrefix (pattern text : List Char) : Bool :=
  match pattern, text with
  | [], _ => true
  | '%' :: pattern, [] => likePrefix pattern []
  | '%' :: pattern, char :: text =>
    likePrefix pattern (char :: text) || likePrefix ('%' :: pattern) text
  | _ :: _, [] => false
  | wanted :: pattern, char :: text =>
    (wanted = '_' || foldCase wanted = foldCase char) && likePrefix pattern text
termination_by pattern.length + text.length

/-- The entity clause of a filter. -/
def EventFilter.admitsEntity (filter : EventFilter) (entityKey : String) : Bool :=
  match filter.entityKey, filter.entityPrefix with
  | some key, _ => entityKey = key
  | none, some given => likePrefix given.toList entityKey.toList
  | none, none => true

/-- The clauses on `collected_at`. -/
def EventFilter.admitsTime (filter : EventFilter) (collectedAt : String) : Bool :=
  (bound filter.collectedFrom).all (fun lower => lower.toList ≤ collectedAt.toList) &&
    (bound filter.collectedTo).all (fun upper => collectedAt.toList ≤ upper.toList)

/-- The `WHERE` clauses of `_query_rows`, `_query_v2_events`, `count_rows` and
`_count_v2_events`. -/
def EventFilter.selects (filter : EventFilter) (event : HistoryEvent Payload) : Bool :=
  event.kind = filter.kind && event.eventType ≠ legacyType &&
    filter.admitsEntity event.entityKey && filter.admitsTime event.collectedAt

/-- The first seven characters, which are the month of an ISO time. -/
def monthText (time : String) : List Char := time.toList.take 7

/-- The catalog clauses: the state of the shard, and its month against the bounds. -/
def EventFilter.admitsShard (filter : EventFilter) (row : CatalogRow) : Bool :=
  row.status ∈ catalogQueryableStates &&
    (bound filter.collectedFrom).all (fun lower => monthText lower ≤ row.periodEnd.toList) &&
    (bound filter.collectedTo).all
      (fun upper => row.periodStart.toList ≤ monthText upper ++ "-31".toList)

/-- Queries for one entity of a change-only kind are limited. -/
def EventFilter.isBounded (filter : EventFilter) : Bool :=
  filter.kind ∈ dynamicChangeOnlyKinds && filter.entityKey.isSome

/-! ## `query_events` -/

/-- What a query returns for an event. -/
@[ext]
structure EventDict (Payload : Type) where
  payload : Payload
  (eventId eventType collectedAt : String)
  deriving DecidableEq

/-- `_event_dict` and `_event_dict_v2`. -/
def eventDict (event : HistoryEvent Payload) : EventDict Payload where
  payload := event.payload
  eventId := event.eventId
  eventType := event.eventType
  collectedAt := event.collectedAt

def EventDict.sortKey (event : EventDict Payload) : TextPair :=
  timeAndId event.collectedAt event.eventId

/-- One event for each id: the last one. The order is lost in the sort that follows. -/
def lastOfEachId : List (EventDict Payload) → List (EventDict Payload)
  | [] => []
  | event :: rest =>
    if event.eventId ∈ rest.map EventDict.eventId then lastOfEachId rest
    else event :: lastOfEachId rest

/-- Each event once, the newest first. -/
def sortUniqueEvents (events : List (EventDict Payload)) : List (EventDict Payload) :=
  newestFirst EventDict.sortKey (lastOfEachId events)

/-- `_query_rows` and `_query_v2_events`: the newest rows that the filter selects. -/
def queryRows (filter : EventFilter) (limit : Nat) (table : List (HistoryEvent Payload)) :
    List (EventDict Payload) :=
  (newest HistoryEvent.sortKey limit (table.filter filter.selects)).map eventDict

/-- The events of a shard that pass the filter, up to the limit. -/
def queryShard (filter : EventFilter) (limit : Nat) (file : ShardFile Payload) :
    List (EventDict Payload) :=
  queryRows filter limit (file.historyEvents.getD []) ++
    queryRows filter limit (file.historyEventsV2.getD [])

/-- The shards that a query opens, newest month first. -/
def Archive.shardsFor (archive : Archive Payload) (filter : EventFilter) : List CatalogRow :=
  newestFirst CatalogRow.orderKey (archive.catalog.filter filter.admitsShard)

/-- One turn of the loop over the shards. -/
def readShard (archive : Archive Payload) (filter : EventFilter) (requested : Nat)
    (events : List (EventDict Payload)) (row : CatalogRow) : List (EventDict Payload) :=
  match archive.shardFile row with
  | none => events
  | some file => (sortUniqueEvents (events ++ queryShard filter requested file)).take requested

/-- The body of `query_events`, for limits that are already safe. -/
def queryWindow (store : Store Payload) (filter : EventFilter) (safeLimit safeOffset : Nat) :
    List (EventDict Payload) :=
  let requested := safeLimit + safeOffset
  let pending := queryRows filter requested store.outbox
  let events := (store.archive.shardsFor filter).foldl
    (readShard store.archive filter requested) pending
  ((sortUniqueEvents events).take requested).drop safeOffset

/-- `query_events`. -/
def queryEvents (store : Store Payload) (filter : EventFilter) (limit offset : Int) :
    List (EventDict Payload) :=
  let safeLimit := (max 1 limit).toNat
  let safeOffset := (max 0 offset).toNat
  if filter.isBounded then
    if dynamicHistoryLimit ≤ safeOffset then []
    else queryWindow store filter (min safeLimit (dynamicHistoryLimit - safeOffset)) safeOffset
  else queryWindow store filter safeLimit safeOffset

/-! ## `count_events` -/

/-- `count_rows` and `_count_v2_events`. -/
def countRows (filter : EventFilter) (table : List (HistoryEvent Payload)) : Nat :=
  (table.filter filter.selects).length

/-- How many events of a shard pass the filter. -/
def countShard (archive : Archive Payload) (filter : EventFilter) (row : CatalogRow) : Nat :=
  match archive.shardFile row with
  | none => 0
  | some file =>
    countRows filter (file.historyEvents.getD []) + countRows filter (file.historyEventsV2.getD [])

/-- `count_events`, with `_bounded_dynamic_entity_count` as its last step. -/
def countEvents (store : Store Payload) (filter : EventFilter) : Nat :=
  let total := countRows filter store.outbox +
    ((store.archive.catalog.filter filter.admitsShard).map (countShard store.archive filter)).sum
  if filter.isBounded then min total dynamicHistoryLimit else total

/-! ## The plain scan -/

/-- All events of the outbox and the shards that the filter selects. -/
def selectedEvents (store : Store Payload) (filter : EventFilter) : List (HistoryEvent Payload) :=
  (store.outbox ++ store.archive.storedEvents).filter filter.selects

/-- The distinct events that the filter selects, newest first. -/
def plainScan [DecidableEq Payload] (store : Store Payload) (filter : EventFilter) :
    List (EventDict Payload) :=
  newestFirst EventDict.sortKey ((selectedEvents store filter).map eventDict).dedup

/-- The part of the scan that may be shown: the first ten events of an entity of
a change-only kind, otherwise all. -/
def shownEvents [DecidableEq Payload] (store : Store Payload) (filter : EventFilter) :
    List (EventDict Payload) :=
  if filter.isBounded then (plainScan store filter).take dynamicHistoryLimit
  else plainScan store filter

/-- The queries agree with the plain scan: a page is the slice of the events that
may be shown, and the count is their number. A page has at least one place and
does not begin before the first event. -/
def QueriesAgree [DecidableEq Payload] (store : Store Payload) : Prop :=
  ∀ filter : EventFilter, (∀ limit offset : Int, queryEvents store filter limit offset =
      ((shownEvents store filter).drop (max 0 offset).toNat).take (max 1 limit).toNat) ∧
    countEvents store filter = (shownEvents store filter).length

end NetConsole.History
