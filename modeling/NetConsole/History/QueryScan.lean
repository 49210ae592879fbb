import Mathlib.Data.List.Dedup
import Mathlib.Data.List.Pairwise
import NetConsole.History.Query

/-!
# When the queries agree with the plain scan

`query_events` and `count_events` are exact for one kind of stores: no event is
held twice, and a shard is never left out under bounds that one of its events
meets (`queriesAgree_iff`).

The way there is a loop invariant: after each shard the query holds the newest
events of all that was read so far (`foldl_readShard`).
-/

set_option autoImplicit false

namespace NetConsole.History

open Foundations List

variable {Payload : Type}

/-- The events of a kind that are not copies of retired rows. -/
def liveEvents (store : Store Payload) (kind : String) : List (HistoryEvent Payload) :=
  (store.outbox ++ store.archive.storedEvents).filter fun event =>
    event.kind = kind && event.eventType ≠ legacyType

/-- No event is in the outbox and a shard, or in two shards or tables. -/
def StoredOnce (store : Store Payload) : Prop :=
  ∀ kind, ((liveEvents store kind).map HistoryEvent.eventId).Nodup

/-- A shard is opened when it holds an event that the filter selects. -/
def OpensAll (store : Store Payload) (filter : EventFilter) : Prop :=
  ∀ row ∈ store.archive.queryable, ∀ event ∈ store.archive.eventsOf row,
    filter.selects event = true → filter.admitsShard row = true

/-- The month of a shard meets all bounds that one of its events meets. -/
def MonthsAdmit (store : Store Payload) : Prop :=
  ∀ filter : EventFilter, OpensAll store filter

/-! ## One source -/

variable (filter : EventFilter)

theorem queryRows_eq (limit : Nat) (table : List (HistoryEvent Payload)) :
    queryRows filter limit table =
      newest EventDict.sortKey limit ((table.filter filter.selects).map eventDict) :=
  map_newest EventDict.sortKey eventDict limit _

/-- What a filter selects from the events of a shard. -/
def scanShard (archive : Archive Payload) (filter : EventFilter) (row : CatalogRow) :
    List (EventDict Payload) :=
  ((archive.eventsOf row).filter filter.selects).map eventDict

variable {archive : Archive Payload} {row : CatalogRow}

theorem scanShard_none (missing : archive.shardFile row = none) :
    scanShard archive filter row = [] := by
  simp [scanShard, Archive.eventsOf, missing]

theorem scanShard_some {file : ShardFile Payload}
    (present : archive.shardFile row = some file) : scanShard archive filter row =
      ((file.historyEvents.getD []).filter filter.selects).map eventDict ++
        ((file.historyEventsV2.getD []).filter filter.selects).map eventDict := by
  simp [scanShard, Archive.eventsOf, present, ShardFile.events]

variable {events : List (EventDict Payload)}

theorem lastOfEachId_eq_self (distinct : (events.map EventDict.eventId).Nodup) :
    lastOfEachId events = events := by
  induction events with
  | nil => rfl
  | cons event rest ih =>
    rw [map_cons, nodup_cons] at distinct
    rw [lastOfEachId, if_neg distinct.1, ih distinct.2]

theorem lastOfEachId_sublist (events : List (EventDict Payload)) :
    (lastOfEachId events).Sublist events := by
  induction events with
  | nil => exact List.Sublist.slnil
  | cons event rest ih =>
    rw [lastOfEachId]
    split
    · exact ih.cons event
    · exact ih.cons_cons event

theorem lastOfEachId_nodup (events : List (EventDict Payload)) :
    ((lastOfEachId events).map EventDict.eventId).Nodup := by
  induction events with
  | nil => exact nodup_nil
  | cons event rest ih =>
    rw [lastOfEachId]
    split
    · exact ih
    · next fresh =>
      rw [map_cons, nodup_cons]
      exact ⟨fun mem => fresh (((lastOfEachId_sublist rest).map _).subset mem), ih⟩

theorem sortUniqueEvents_eq (distinct : (events.map EventDict.eventId).Nodup) :
    sortUniqueEvents events = newestFirst EventDict.sortKey events := by
  rw [sortUniqueEvents, lastOfEachId_eq_self distinct]

theorem sortUniqueEvents_nodup (events : List (EventDict Payload)) :
    ((sortUniqueEvents events).map EventDict.eventId).Nodup :=
  (((newestFirst_perm_self _ _).map _).nodup_iff).mpr (lastOfEachId_nodup events)

variable {event : EventDict Payload}

theorem mem_of_mem_sortUniqueEvents (mem : event ∈ sortUniqueEvents events) : event ∈ events :=
  (lastOfEachId_sublist events).subset ((mem_newestFirst _).mp mem)

/-! ## The loop over the shards -/

theorem nodup_sortKey_of_nodup (distinct : (events.map EventDict.eventId).Nodup) :
    (events.map EventDict.sortKey).Nodup :=
  nodup_sortKey distinct

theorem queryShard_eq (filter : EventFilter) (requested : Nat) (file : ShardFile Payload) :
    queryShard filter requested file = newest EventDict.sortKey requested
          (((file.historyEvents.getD []).filter filter.selects).map eventDict) ++
        newest EventDict.sortKey requested
          (((file.historyEventsV2.getD []).filter filter.selects).map eventDict) := by
  rw [queryShard, queryRows_eq, queryRows_eq]

variable {before : List (EventDict Payload)}

theorem readShard_newest (archive : Archive Payload) (filter : EventFilter) (requested : Nat)
    (distinct : ((before ++ scanShard archive filter row).map EventDict.eventId).Nodup) :
    readShard archive filter requested (newest EventDict.sortKey requested before) row =
      newest EventDict.sortKey requested (before ++ scanShard archive filter row) := by
  unfold readShard
  split
  · next missing => rw [scanShard_none _ missing, append_nil]
  · next file present =>
    rw [queryShard_eq, scanShard_some _ present] at *
    generalize ((file.historyEvents.getD []).filter filter.selects).map eventDict = first at *
    generalize ((file.historyEventsV2.getD []).filter filter.selects).map eventDict = second at *
    have later : ((first ++ second).map EventDict.eventId).Nodup := by
      rw [map_append] at distinct
      exact (nodup_append.mp distinct).2.1
    have window : ((newest EventDict.sortKey requested before ++
        (newest EventDict.sortKey requested first ++ newest EventDict.sortKey requested second)).map
          EventDict.eventId).Nodup :=
      nodup_map_of_subperm distinct ((newest_subperm _ _ _).append
        ((newest_subperm _ _ _).append (newest_subperm _ _ _)))
    rw [sortUniqueEvents_eq window]
    calc newest EventDict.sortKey requested (newest EventDict.sortKey requested before ++
          (newest EventDict.sortKey requested first ++ newest EventDict.sortKey requested second))
        = newest EventDict.sortKey requested (newest EventDict.sortKey requested before ++
            newest EventDict.sortKey requested (newest EventDict.sortKey requested first ++
              newest EventDict.sortKey requested second)) := by
          rw [newest_append_newest]
      _ = newest EventDict.sortKey requested (newest EventDict.sortKey requested before ++
            newest EventDict.sortKey requested (first ++ second)) := by
          rw [newest_newest_append_newest requested (nodup_sortKey_of_nodup later)]
      _ = newest EventDict.sortKey requested (before ++ (first ++ second)) :=
          newest_newest_append_newest requested (nodup_sortKey_of_nodup distinct)

/-- The loop: the window over all that the shards hold. -/
theorem foldl_readShard (archive : Archive Payload) (filter : EventFilter) (requested : Nat)
    (rows : List CatalogRow) (before : List (EventDict Payload))
    (distinct : ((before ++ rows.flatMap (scanShard archive filter)).map EventDict.eventId).Nodup) :
    rows.foldl (readShard archive filter requested) (newest EventDict.sortKey requested before) =
      newest EventDict.sortKey requested (before ++ rows.flatMap (scanShard archive filter)) := by
  induction rows generalizing before with
  | nil => simp
  | cons row rows ih =>
    rw [flatMap_cons, ← append_assoc] at distinct
    have here : ((before ++ scanShard archive filter row).map EventDict.eventId).Nodup := by
      rw [map_append] at distinct
      exact (nodup_append.mp distinct).1
    rw [foldl_cons, readShard_newest archive _ requested here, ih _ distinct,
      flatMap_cons, append_assoc]

variable {filter : EventFilter}

/-- What `query_events` can return comes from the outbox or an admitted shard. -/
theorem mem_foldl_readShard {requested : Nat} {rows : List CatalogRow}
    (mem : event ∈ rows.foldl (readShard archive filter requested) before) :
    event ∈ before ∨ ∃ row ∈ rows, event ∈ scanShard archive filter row := by
  induction rows generalizing before with
  | nil => exact Or.inl mem
  | cons row rows ih =>
    rcases ih mem with here | ⟨later, inRows, found⟩
    · unfold readShard at here
      split at here
      · exact Or.inl here
      · next file present =>
        have read := mem_of_mem_sortUniqueEvents (mem_of_mem_take here)
        rcases mem_append.mp read with old | new
        · exact Or.inl old
        · apply Or.inr
          refine ⟨row, mem_cons_self, ?_⟩
          rw [scanShard_some _ present]
          rw [queryShard_eq] at new
          exact ((newest_subperm _ _ _).append (newest_subperm _ _ _)).subset new
    · exact Or.inr ⟨later, mem_cons_of_mem _ inRows, found⟩

/-! ## The whole query -/

/-- What `filter` selects in the sources that a query opens. -/
def readEvents (store : Store Payload) (filter : EventFilter) : List (EventDict Payload) :=
  (store.outbox.filter filter.selects).map eventDict ++
    (store.archive.shardsFor filter).flatMap (scanShard store.archive filter)

variable {store : Store Payload}

theorem queryWindow_eq (safeLimit safeOffset : Nat)
    (distinct : ((readEvents store filter).map EventDict.eventId).Nodup) :
    queryWindow store filter safeLimit safeOffset =
      (newest EventDict.sortKey (safeLimit + safeOffset) (readEvents store filter)).drop
        safeOffset := by
  have window := nodup_map_of_subperm distinct
    (newest_subperm EventDict.sortKey (safeLimit + safeOffset) (readEvents store filter))
  have sorted : newestFirst EventDict.sortKey
      (newest EventDict.sortKey (safeLimit + safeOffset) (readEvents store filter)) =
      newest EventDict.sortKey (safeLimit + safeOffset) (readEvents store filter) :=
    ((newestFirst_pairwise _ _).sublist (take_sublist _ _)).insertionSort_eq
  have loop : (store.archive.shardsFor filter).foldl
      (readShard store.archive filter (safeLimit + safeOffset))
      (queryRows filter (safeLimit + safeOffset) store.outbox) =
      newest EventDict.sortKey (safeLimit + safeOffset) (readEvents store filter) := by
    rw [queryRows_eq]
    exact foldl_readShard store.archive filter _ _ _ distinct
  simp only [queryWindow]
  rw [loop, sortUniqueEvents_eq window, sorted, newest, take_take, Nat.min_self]

theorem flatMap_filter_of_empty {α β : Type} {items : List α} {group : α → List β} {keep : α → Bool}
    (empty : ∀ item ∈ items, keep item = false → group item = []) :
    (items.filter keep).flatMap group = items.flatMap group := by
  induction items with
  | nil => rfl
  | cons item items ih =>
    have later := ih fun other among => empty other (mem_cons_of_mem _ among)
    cases kept : keep item with
    | true => rw [filter_cons_of_pos kept, flatMap_cons, flatMap_cons, later]
    | false =>
      rw [filter_cons_of_neg (by simp [kept]), flatMap_cons, later,
        empty item mem_cons_self kept, nil_append]

theorem filter_admitsShard (archive : Archive Payload) (filter : EventFilter) :
    archive.catalog.filter filter.admitsShard = archive.queryable.filter filter.admitsShard := by
  rw [Archive.queryable, filter_filter]
  apply filter_congr
  intro row _
  cases admitted : filter.admitsShard row with
  | false => rfl
  | true =>
    simp only [EventFilter.admitsShard, Bool.and_eq_true] at admitted
    simp [admitted.1.1]

theorem flatMap_scanShard (opens : OpensAll store filter) :
    (store.archive.catalog.filter filter.admitsShard).flatMap (scanShard store.archive filter) =
      (store.archive.storedEvents.filter filter.selects).map eventDict := by
  rw [filter_admitsShard]
  rw [flatMap_filter_of_empty]
  · rw [Archive.storedEvents, filter_flatMap, map_flatMap]
    rfl
  · intro row inCatalog refused
    rw [scanShard, map_eq_nil_iff, filter_eq_nil_iff]
    intro event inShard selected
    rw [opens row inCatalog event inShard selected] at refused
    exact Bool.noConfusion refused

theorem readEvents_perm (opens : OpensAll store filter) :
    (readEvents store filter).Perm ((selectedEvents store filter).map eventDict) := by
  have opened : ((store.archive.shardsFor filter).flatMap (scanShard store.archive filter)).Perm
      ((store.archive.catalog.filter filter.admitsShard).flatMap
        (scanShard store.archive filter)) :=
    (newestFirst_perm_self _ _).flatMap_right _
  rw [flatMap_scanShard opens] at opened
  rw [readEvents, selectedEvents, filter_append, map_append]
  exact opened.append_left _

theorem selects_live {event : HistoryEvent Payload} (selected : filter.selects event = true) :
    event.kind = filter.kind ∧ event.eventType ≠ legacyType := by
  simp only [EventFilter.selects, Bool.and_eq_true, decide_eq_true_eq] at selected
  exact selected.1.1

theorem selectedEvents_nodup (filter : EventFilter) (once : StoredOnce store) :
    (((selectedEvents store filter).map eventDict).map EventDict.eventId).Nodup := by
  have ids : EventDict.eventId ∘ eventDict =
      (HistoryEvent.eventId : HistoryEvent Payload → _) := rfl
  rw [map_map, ids]
  have part : (selectedEvents store filter).Sublist (liveEvents store filter.kind) := by
    apply monotone_filter_right
    intro event selected
    have live := selects_live selected
    simp [live.1, live.2]
  exact (once filter.kind).sublist (part.map _)

theorem countShard_eq (archive : Archive Payload) (filter : EventFilter) (row : CatalogRow) :
    countShard archive filter row = (scanShard archive filter row).length := by
  unfold countShard
  split
  · next missing => rw [scanShard_none _ missing, length_nil]
  · next file present => simp [scanShard_some _ present, countRows]

/-- The count, before its bound, is the number of rows that the opened sources hold. -/
theorem countTotal_eq (store : Store Payload) (filter : EventFilter) :
    countRows filter store.outbox + ((store.archive.catalog.filter filter.admitsShard).map
          (countShard store.archive filter)).sum =
      (readEvents store filter).length := by
  have opened : ((store.archive.shardsFor filter).flatMap (scanShard store.archive filter)).length =
      ((store.archive.catalog.filter filter.admitsShard).flatMap
        (scanShard store.archive _)).length :=
    ((newestFirst_perm_self _ _).flatMap_right _).length_eq
  have counted : countShard store.archive filter =
      fun row => (scanShard store.archive _ row).length :=
    funext fun row => countShard_eq store.archive _ row
  rw [readEvents, length_append, opened, length_flatMap, length_map, countRows, counted]

theorem queryEvents_nodup (store : Store Payload) (filter : EventFilter) (limit offset : Int) :
    ((queryEvents store filter limit offset).map EventDict.eventId).Nodup := by
  have window : ∀ safeLimit safeOffset,
      ((queryWindow store filter safeLimit safeOffset).map EventDict.eventId).Nodup := by
    intro safeLimit safeOffset
    exact (sortUniqueEvents_nodup _).sublist (((drop_sublist _ _).trans (take_sublist _ _)).map _)
  simp only [queryEvents]
  split
  · split
    · exact nodup_nil
    · exact window _ _
  · exact window _ _

/-- The filter that selects all live events of a kind. -/
def allOfKind (kind : String) : EventFilter where
  kind := kind
  entityKey := none
  entityPrefix := none
  collectedFrom := none
  collectedTo := none

theorem opensAll_allOfKind (store : Store Payload) (kind : String) :
    OpensAll store (allOfKind kind) := by
  intro row inCatalog _ _ _
  have status := of_decide_eq_true (mem_filter.mp inCatalog).2
  simp [EventFilter.admitsShard, allOfKind, bound, status]

theorem selectedEvents_allOfKind (store : Store Payload) (kind : String) :
    selectedEvents store (allOfKind kind) = liveEvents store kind := by
  apply filter_congr
  intro event _
  simp [EventFilter.selects, EventFilter.admitsEntity, EventFilter.admitsTime, allOfKind, bound]
  rfl

theorem mem_queryEvents {limit offset : Int} (mem : event ∈ queryEvents store filter limit offset) :
    (∃ row ∈ store.outbox, filter.selects row = true ∧ eventDict row = event) ∨
      ∃ shard ∈ store.archive.catalog, filter.admitsShard shard = true ∧
        event ∈ scanShard store.archive filter shard := by
  have window : ∀ safeLimit safeOffset, event ∈ queryWindow store filter safeLimit safeOffset →
      event ∈ (store.outbox.filter filter.selects).map eventDict ∨
        ∃ shard ∈ store.archive.shardsFor filter, event ∈ scanShard store.archive filter shard := by
    intro safeLimit safeOffset inWindow
    have read := mem_of_mem_sortUniqueEvents (mem_of_mem_take (mem_of_mem_drop inWindow))
    rw [queryRows_eq] at read
    rcases mem_foldl_readShard read with pending | stored
    · exact Or.inl (newest_subset _ pending)
    · exact Or.inr stored
  have sources : event ∈ (store.outbox.filter filter.selects).map eventDict ∨
      ∃ shard ∈ store.archive.shardsFor filter, event ∈ scanShard store.archive filter shard := by
    simp only [queryEvents] at mem
    split at mem
    · split at mem
      · cases mem
      · exact window _ _ mem
    · exact window _ _ mem
  rcases sources with pending | ⟨shard, opened, stored⟩
  · obtain ⟨row, among, same⟩ := mem_map.mp pending
    obtain ⟨inOutbox, selected⟩ := mem_filter.mp among
    exact Or.inl ⟨row, inOutbox, selected, same⟩
  · obtain ⟨inCatalog, admitted⟩ := mem_filter.mp ((mem_newestFirst _).mp opened)
    exact Or.inr ⟨shard, inCatalog, admitted, stored⟩

theorem liveEvents_ids (store : Store Payload) (kind : String) :
    (liveEvents store kind).map HistoryEvent.eventId =
      (store.outbox.filter fun event => event.kind = kind && event.eventType ≠ legacyType).map
          HistoryEvent.eventId ++
        store.archive.queryable.flatMap fun row => ((store.archive.eventsOf row).filter fun event =>
            event.kind = kind && event.eventType ≠ legacyType).map HistoryEvent.eventId := by
  rw [liveEvents, filter_append, map_append, Archive.storedEvents, filter_flatMap, map_flatMap]

instance disjoint_symm {ι β : Type} (group : ι → List β) : Std.Symm
    (Function.onFun List.Disjoint group) :=
  ⟨fun _ _ apart => apart.symm⟩

/-- An event that is held once and stands in a shard stands nowhere else. -/
theorem StoredOnce.only_shard (once : StoredOnce store) {event : HistoryEvent Payload}
    (inCatalog : row ∈ store.archive.queryable) (inShard : event ∈ store.archive.eventsOf row)
    (live : event.eventType ≠ legacyType) :
    (∀ pending ∈ store.outbox, pending.kind = event.kind → pending.eventType ≠ legacyType →
        pending.eventId ≠ event.eventId) ∧
      ∀ other ∈ store.archive.queryable, ∀ stored ∈ store.archive.eventsOf other,
        stored.kind = event.kind → stored.eventType ≠ legacyType →
          stored.eventId = event.eventId → other = row := by
  have distinct := once event.kind
  rw [liveEvents_ids, nodup_append] at distinct
  obtain ⟨-, stored_once, disjoint⟩ := distinct
  have listed : ∀ (source : List (HistoryEvent Payload)), ∀ item ∈ source,
      item.kind = event.kind → item.eventType ≠ legacyType →
        item.eventId ∈ (source.filter fun event' => event'.kind = event.kind &&
          event'.eventType ≠ legacyType).map HistoryEvent.eventId := by
    intro source item mem kind notLegacy
    apply mem_map_of_mem
    apply mem_filter.mpr
    exact ⟨mem, by simp [kind, notLegacy]⟩
  have here := listed _ event inShard rfl live
  constructor
  · intro pending inOutbox kind notLegacy
    exact disjoint _ (listed _ pending inOutbox kind notLegacy) _
      (mem_flatMap.mpr ⟨row, inCatalog, here⟩)
  · intro other alsoIn stored inOther kind notLegacy same
    by_contra different
    have apart := (nodup_flatMap.mp stored_once).2
    exact apart.forall alsoIn inCatalog different
      (listed _ stored inOther kind notLegacy) (same ▸ here)

/-! ## Months that meet the bounds

When the text of an event's time begins with the month of its shard, as local ISO
times do, the shard meets all bounds that the event meets. -/

section Scan

variable [DecidableEq Payload] {store : Store Payload} (filter : EventFilter)
  (once : StoredOnce store)
include once

theorem plainScan_eq : plainScan store filter =
      newestFirst EventDict.sortKey ((selectedEvents store filter).map eventDict) := by
  rw [plainScan, List.Nodup.dedup (List.Nodup.of_map _ (selectedEvents_nodup filter once))]

variable (opens : OpensAll store filter)
include opens

theorem queryWindow_plainScan (safeLimit safeOffset : Nat) :
    queryWindow store filter safeLimit safeOffset =
      ((plainScan store filter).drop safeOffset).take safeLimit := by
  have perm := readEvents_perm opens
  have distinct : ((readEvents store filter).map EventDict.eventId).Nodup :=
    ((perm.map _).nodup_iff).mpr (selectedEvents_nodup filter once)
  rw [queryWindow_eq safeLimit safeOffset distinct, newest_congr _ (nodup_sortKey_of_nodup distinct)
    perm, plainScan_eq filter once, newest, drop_take, Nat.add_sub_cancel]

theorem queryEvents_eq (limit offset : Int) : queryEvents store filter limit offset =
      ((shownEvents store filter).drop (max 0 offset).toNat).take (max 1 limit).toNat := by
  simp only [queryEvents, shownEvents]
  split
  · split
    · next beyond =>
      have short : ((plainScan store filter).take dynamicHistoryLimit).length ≤
          (max 0 offset).toNat := le_trans (length_take_le _ _) beyond
      rw [drop_eq_nil_of_le short, take_nil]
    · rw [queryWindow_plainScan filter once opens, drop_take, take_take]
  · exact queryWindow_plainScan filter once opens _ _

theorem countEvents_eq : countEvents store filter = (shownEvents store filter).length := by
  have total : (readEvents store filter).length = (plainScan store filter).length := by
    rw [(readEvents_perm opens).length_eq, plainScan_eq filter once,
      (newestFirst_perm_self _ _).length_eq]
  simp only [countEvents, shownEvents, countTotal_eq, total]
  split
  · rw [length_take, Nat.min_comm]
  · rfl

omit opens once

/-! ## What agreement requires -/

/-- A page that is long enough shows all events of an unbounded filter. -/
theorem queryEvents_all {filter : EventFilter} (agree : QueriesAgree store)
    (unbounded : filter.isBounded = false) :
    queryEvents store filter (plainScan store filter).length 0 = plainScan store filter := by
  rw [(agree _).1]
  simp only [shownEvents, unbounded, Bool.false_eq_true, if_false]
  apply take_of_length_le
  rw [length_drop]
  omega

/-- Agreement on all events of each kind requires that each is held once. -/
theorem storedOnce_of_agree (agree : QueriesAgree store) : StoredOnce store := by
  intro kind
  have unbounded : (allOfKind kind).isBounded = false := by
    simp [EventFilter.isBounded, allOfKind]
  have counted : (readEvents store (allOfKind kind)).length =
      (plainScan store (allOfKind kind)).length := by
    have equal := (agree (allOfKind kind)).2
    simpa only [countEvents, shownEvents, unbounded, Bool.false_eq_true, if_false, countTotal_eq]
      using equal
  have perm := readEvents_perm (opensAll_allOfKind store kind)
  rw [selectedEvents_allOfKind] at perm
  -- as many rows as distinct rows
  have distinct_rows : ((liveEvents store kind).map eventDict).dedup =
      (liveEvents store kind).map eventDict := by
    apply (dedup_sublist _).eq_of_length
    rw [← perm.length_eq, counted, plainScan, (newestFirst_perm_self _ _).length_eq,
      selectedEvents_allOfKind]
  have scan : (plainScan store (allOfKind kind)).Perm ((liveEvents store kind).map eventDict) := by
    rw [plainScan, selectedEvents_allOfKind, distinct_rows]
    exact newestFirst_perm_self _ _
  have shown := queryEvents_nodup store (allOfKind kind) (plainScan store (allOfKind kind)).length 0
  rw [queryEvents_all agree unbounded, (scan.map _).nodup_iff, map_map] at shown
  exact shown

/-- Agreement under all bounds requires that no shard is left out. -/
theorem monthsAdmit_of_agree (agree : QueriesAgree store) : MonthsAdmit store := by
  intro filter row inCatalog event inShard selected
  by_contra refused
  have once := storedOnce_of_agree agree
  have live := selects_live selected
  -- the same bounds without a choice of the entity, so that no limit applies
  let wide : EventFilter := { filter with entityKey := none, entityPrefix := none }
  have unbounded : wide.isBounded = false := by
    simp [EventFilter.isBounded, wide]
  have alsoSelected : wide.selects event = true := by
    simp only [EventFilter.selects, Bool.and_eq_true] at selected ⊢
    exact ⟨⟨selected.1.1, rfl⟩, selected.2⟩
  have scanned : eventDict event ∈ plainScan store wide := by
    apply (mem_newestFirst _).mpr
    apply mem_dedup.mpr
    apply mem_map_of_mem
    apply mem_filter.mpr
    exact ⟨mem_append_right _ (mem_flatMap.mpr ⟨row, inCatalog, inShard⟩), alsoSelected⟩
  rw [← queryEvents_all agree unbounded] at scanned
  obtain ⟨notPending, onlyHere⟩ := once.only_shard inCatalog inShard live.2
  rcases mem_queryEvents scanned with ⟨pending, inOutbox, chosen, same⟩ |
    ⟨other, inOther, admitted, found⟩
  · have pending_live := selects_live chosen
    exact notPending pending inOutbox (pending_live.1.trans live.1.symm) pending_live.2
      (congrArg EventDict.eventId same)
  · obtain ⟨stored, among, same⟩ := mem_map.mp found
    obtain ⟨inFile, chosen⟩ := mem_filter.mp among
    have stored_live := selects_live chosen
    have queryable : other ∈ store.archive.queryable := by
      simp only [EventFilter.admitsShard, Bool.and_eq_true] at admitted
      exact mem_filter.mpr ⟨inOther, admitted.1.1⟩
    have eq := onlyHere other queryable stored inFile (stored_live.1.trans live.1.symm)
      stored_live.2 (congrArg EventDict.eventId same)
    exact refused (eq ▸ admitted)

/-- `query_events` and `count_events` agree with the plain scan of a store exactly
if no event is held twice and the month of each shard meets all bounds that one of
its events meets. -/
theorem queriesAgree_iff (store : Store Payload) :
    QueriesAgree store ↔ StoredOnce store ∧ MonthsAdmit store := by
  constructor
  · intro agree
    exact ⟨storedOnce_of_agree agree, monthsAdmit_of_agree agree⟩
  · rintro ⟨once, admits⟩ filter
    exact ⟨queryEvents_eq filter once (admits filter), countEvents_eq filter once (admits filter)⟩

/-! ## The two ways in which the queries fail -/

/-- A shard of February 2026 with one event whose time is zoned: it is still
January where the event was collected, but February where the store is. -/
def zonedTimeStore : Store String where
  outbox := []
  archive :=
    { catalog := [⟨"2026-02", "2026-02-01", "2026-02-28", 1, "devices-2026-02.db", .open⟩]
      files name :=
        if name = "devices-2026-02.db" then
          some ⟨none, some [⟨"a1", "device_fact", "sw-1", "change", "2026-01-31T23:30:00-05:00",
            "{}", "2026-02-01T12:30:05"⟩]⟩
        else none }

/-- The events of January, by the text of their time. -/
def untilEndOfJanuary : EventFilter where
  kind := "device_fact"
  entityKey := none
  entityPrefix := none
  collectedFrom := none
  collectedTo := some "2026-01-31T23:59:59"

/-- A drain has published an event and not yet deleted it from the outbox. -/
def drainingStore : Store String where
  outbox := [⟨"a1", "device_fact", "sw-1", "change", "2026-01-31T23:30:00", "{}",
    "2026-01-31T23:30:05"⟩]
  archive :=
    { catalog := [⟨"2026-01", "2026-01-01", "2026-01-31", 1, "devices-2026-01.db", .open⟩]
      files name :=
        if name = "devices-2026-01.db" then
          some ⟨none, some [⟨"a1", "device_fact", "sw-1", "change", "2026-01-31T23:30:00", "{}",
            "2026-01-31T23:30:05"⟩]⟩
        else none }

/-- A zoned time is missed by the query and by the count; an event on its way from
the outbox to a shard is counted twice. -/
theorem not_queriesAgree_zonedTime_draining :
    ¬ QueriesAgree zonedTimeStore ∧ ¬ QueriesAgree drainingStore := by
  constructor
  · intro agree
    have counted := (agree untilEndOfJanuary).2
    have missed : countEvents zonedTimeStore untilEndOfJanuary = 0 := by decide +kernel
    have present : (shownEvents zonedTimeStore untilEndOfJanuary).length = 1 := by decide +kernel
    rw [missed, present] at counted
    exact absurd counted (by decide)
  · intro agree
    have counted := (agree (allOfKind "device_fact")).2
    have twice : countEvents drainingStore (allOfKind "device_fact") = 2 := by decide +kernel
    have once : (shownEvents drainingStore (allOfKind "device_fact")).length = 1 := by
      decide +kernel
    rw [twice, once] at counted
    exact absurd counted (by decide)

end Scan

end NetConsole.History
