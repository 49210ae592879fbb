import NetConsole.RawQuery.LatestPageEntries

/-!
# The newest page without the older files

The query stops before a file that is registered as older than every entry it keeps. A
file that is still open has no registered end, and the query takes its start instead: the
records that were written since then are missing from the page (`not_pagesAgree`).

The page is the newest page of all records if and only if no file from the stop on holds a
record that belongs to it (`pagesAgree_iff`). The page of ping samples needs no condition.
-/

set_option autoImplicit false

namespace NetConsole.RawQuery

open Foundations List
open Worker (Json Event dictGet textOr)

section Agreement

variable (lib : RawQueryLibrary) (registryLib : RegistryLibrary)

/-! ## Pages -/

/-- The page that all records give. -/
def wholePage (query : SyslogQuery) (state : ReadState) : Except QueryError (List YieldedRecord) :=
  match state.raised with
  | some error => .error error
  | none =>
    .ok (pageItems (clampPage query.page) (clampPageSize query.pageSize)
      (wholeScan lib registryLib query state.yielded).rows)

/-- The page of all the records of the listed files, the newest first. -/
def allSyslogPage (registry : Registry) (storage : Storage) (timeIsUp : Nat → Bool)
    (query : SyslogQuery) : Except QueryError (List YieldedRecord) := do
  let state ← recordsUntil lib (query.request timeIsUp) storage (fun _ _ => false)
    (listRawFilesForQuery lib registryLib registry (query.fileQuery registryLib))
  wholePage lib registryLib query state

theorem SyslogQuery.keepCount_pos (query : SyslogQuery) : 0 < query.keepCount :=
  Nat.mul_pos (one_le_clampPage query.page) (one_le_clampPageSize query.pageSize)

theorem syslogRecords_items (registry : Registry) (storage : Storage) (timeIsUp : Nat → Bool)
    (query : SyslogQuery) :
    (syslogRecords lib registryLib registry storage timeIsUp query).map SyslogPage.items =
      (do
        let state ← recordsUntil lib (query.request timeIsUp) storage
          (fun registered read => query.latestPageFastPath &&
            stopBeforeOlderFile lib registryLib query registered read)
          (listRawFilesForQuery lib registryLib registry (query.fileQuery registryLib))
        wholePage lib registryLib query state) := by
  unfold syslogRecords syslogRecordsUntil
  cases recordsUntil _ (query.request timeIsUp) storage
      (fun registered read => query.latestPageFastPath &&
        stopBeforeOlderFile _ _ query registered read)
      (listRawFilesForQuery lib registryLib registry (query.fileQuery registryLib)) with
  | error error => rfl
  | ok state =>
    have page := pageItems_greatest (clampPageSize query.pageSize) (one_le_clampPage query.page)
      (wholeScan_distinct lib registryLib query state.yielded)
    simp only [bind, Except.bind, wholePage, syslogScan_eq, SyslogScan.bounded,
      SyslogQuery.keepCount, page]
    cases state.raised <;> rfl

theorem pageItems_last {page pageSize : Nat} (first : 1 ≤ page) (some : 1 ≤ pageSize)
    (entries : List PageEntry) : (pageItems page pageSize entries)[pageSize - 1]? =
      ((descending PageEntry.key entries)[page * pageSize - 1]?).map PageEntry.record := by
  have room : page * pageSize = (page - 1) * pageSize + pageSize := by
    rw [← Nat.succ_mul, Nat.succ_eq_add_one, Nat.sub_add_cancel first]
  rw [pageItems, List.getElem?_take_of_lt (by omega), List.getElem?_drop, List.getElem?_map]
  congr 2
  omega

/-! ## The condition -/

/-- The oldest entry on the pages that the records fill. -/
def oldestOnPages (query : SyslogQuery) (read : List YieldedRecord) : Option PageEntry :=
  (descending PageEntry.key
    (wholeScan lib registryLib query read).rows)[query.keepCount - 1]?

/-- When the registered time of a listed file lies before the oldest entry on the pages that
the files listed before it fill, then neither it nor a file listed after it fails or holds a
record that is as new as that entry. -/
def OlderFilesHoldOlder (query : SyslogQuery) (storage : Storage) (timeIsUp : Nat → Bool)
    (files : List (RawFileRow × Option LineSource)) (start : ReadState) : Prop :=
  ∀ read file unread, files = read ++ file :: unread → ∀ oldest registeredEnd,
    oldestOnPages lib registryLib query
        (readThrough lib (query.request timeIsUp) storage read start).yielded = some oldest →
      parseTime lib file.1.lastTime = some registeredEnd → registeredEnd < oldest.time →
        (readThrough lib (query.request timeIsUp) storage files start).raised =
            (readThrough lib (query.request timeIsUp) storage read start).raised ∧
          ∀ record ∈ (readThrough lib (query.request timeIsUp) storage files start).yielded.drop
            (readThrough lib (query.request timeIsUp) storage read start).yielded.length,
            ∀ time, query.takenTime lib registryLib record = some time → time < oldest.time

theorem stopBeforeOlderFile_iff (query : SyslogQuery) (registered : RawFileRow)
    (read : List YieldedRecord) :
    stopBeforeOlderFile lib registryLib query registered read = true ↔
      ∃ oldest registeredEnd, oldestOnPages lib registryLib query read = some oldest ∧
        parseTime lib registered.lastTime = some registeredEnd ∧ registeredEnd < oldest.time := by
  have last := descending_getElem? query.keepCount_pos
    (wholeScan_distinct lib registryLib query read)
  unfold stopBeforeOlderFile
  rw [oldestOnPages, last, syslogScan_eq]
  dsimp only [SyslogScan.bounded]
  split
  · simp
  · cases parseTime lib registered.lastTime with
    | none => simp
    | some registeredEnd =>
      cases (greatest PageEntry.key query.keepCount
          (wholeScan lib registryLib query read).rows).head? with
      | none => simp
      | some oldest => simp

/-! ## Records after a stop -/

section AfterStop

variable {lib registryLib} {query : SyslogQuery} {read news : List YieldedRecord}
  {oldest : PageEntry} (isOldest : oldestOnPages lib registryLib query read = some oldest)
include isOldest

theorem kept_of_oldest : ∃ rest, greatest PageEntry.key query.keepCount
        (wholeScan lib registryLib query read).rows = oldest :: rest ∧
      (oldest :: rest).length = query.keepCount := by
  obtain ⟨_, holds⟩ := holds_greatest PageEntry.key query.keepCount
    (wholeScan lib registryLib query read).rows
  rw [oldestOnPages, descending_getElem? query.keepCount_pos
    (wholeScan_distinct lib registryLib query read)] at isOldest
  split at isOldest
  · exact nomatch isOldest
  · next full =>
    obtain ⟨rest, kept⟩ := List.head?_eq_some_iff.mp isOldest
    exact ⟨rest, kept, kept ▸ le_antisymm holds.room (not_lt.mp full)⟩

/-- Older records leave the kept entries as they are. -/
theorem greatest_of_older
    (older : ∀ record ∈ news, ∀ time, query.takenTime lib registryLib record = some time →
      time < oldest.time) :
    greatest PageEntry.key query.keepCount
        (wholeScan lib registryLib query (read ++ news)).rows =
      greatest PageEntry.key query.keepCount (wholeScan lib registryLib query read).rows := by
  obtain ⟨_, entered⟩ := wholeScan_append lib registryLib query read news
  obtain ⟨rest, kept, full⟩ := kept_of_oldest isOldest
  rw [entered.rows, greatest_append, kept]
  refine foldl_keepGreater_of_le full fun entry mem greater => ?_
  have sooner : entry.time < oldest.time :=
    older entry.record (entered.sources.subset (mem_map_of_mem mem)) entry.time
      (entered.taken entry mem)
  rcases Prod.Lex.lt_iff.mp greater with less | ⟨same, -⟩
  · exact absurd less (not_lt.mpr sooner.le)
  · exact absurd same.symm sooner.ne

theorem older_of_page (distinct : ((read ++ news).map YieldedRecord.place).Nodup)
    (same : pageItems (clampPage query.page) (clampPageSize query.pageSize)
        (wholeScan lib registryLib query read).rows =
      pageItems (clampPage query.page) (clampPageSize query.pageSize)
        (wholeScan lib registryLib query (read ++ news)).rows) :
    ∀ record ∈ news, ∀ time, query.takenTime lib registryLib record = some time →
      time < oldest.time := by
  intro record mem time taken
  by_contra notOlder
  have firstPage := one_le_clampPage query.page
  have someRecords := one_le_clampPageSize query.pageSize
  have allDistinct := wholeScan_distinct lib registryLib query (read ++ news)
  obtain ⟨_, entered⟩ := wholeScan_append lib registryLib query read news
  obtain ⟨entry, isNew, -, sameTime⟩ := entered.every record mem time taken
  -- the last record of the page is the oldest entry, and an entry that is kept of all
  have last := congrArg (fun page => page[clampPageSize query.pageSize - 1]?) same
  simp only [pageItems_last firstPage someRecords] at last
  have isLast : (descending PageEntry.key (wholeScan lib registryLib query read).rows)[
      clampPage query.page * clampPageSize query.pageSize - 1]? = some oldest := isOldest
  rw [isLast] at last
  obtain ⟨other, isOther, sameRecord⟩ := Option.map_eq_some_iff.mp last.symm
  have otherKept : other ∈ greatest PageEntry.key query.keepCount
      (wholeScan lib registryLib query (read ++ news)).rows := by
    have place := descending_getElem? query.keepCount_pos allDistinct
    rw [show query.keepCount - 1 = clampPage query.page * clampPageSize query.pageSize - 1 from rfl,
      isOther] at place
    split at place
    · exact nomatch place
    · exact mem_of_head? place.symm
  -- records of different entries are different
  have places : ((wholeScan lib registryLib query (read ++ news)).rows.map fun entry =>
      entry.record.place).Nodup := by
    obtain ⟨whole, wholeEntered⟩ :=
      wholeScan_append lib registryLib query [] (read ++ news)
    have rows : (wholeScan lib registryLib query (read ++ news)).rows = whole :=
      wholeEntered.rows
    rw [rows]
    have sources := (wholeEntered.sources.map YieldedRecord.place).nodup distinct
    rwa [map_map] at sources
  obtain ⟨_, kept, full⟩ := kept_of_oldest isOldest
  obtain ⟨dropped, holds⟩ := holds_greatest PageEntry.key query.keepCount
    (wholeScan lib registryLib query read).rows
  obtain ⟨_, holdsAll⟩ := holds_greatest PageEntry.key query.keepCount
    (wholeScan lib registryLib query (read ++ news)).rows
  have oldestRead : oldest ∈ (wholeScan lib registryLib query read).rows :=
    holds.all.mem_iff.mpr (mem_append_left _ (by simp [kept]))
  have oldestIn : oldest ∈ (wholeScan lib registryLib query (read ++ news)).rows :=
    entered.rows ▸ mem_append_left _ oldestRead
  have otherIn : other ∈ (wholeScan lib registryLib query (read ++ news)).rows :=
    holdsAll.all.mem_iff.mpr (mem_append_left _ otherKept)
  have same : other = oldest :=
    inj_on_of_nodup_map places otherIn oldestIn (congrArg YieldedRecord.place sameRecord)
  have greater : oldest.key < entry.key := by
    have later : oldest.serial < entry.serial :=
      ((wholeScan_numbered lib registryLib query read).bound oldest oldestRead).trans_lt
        (entered.later entry isNew)
    have notSooner : oldest.time ≤ entry.time := by
      rw [sameTime]
      exact not_lt.mp notOlder
    exact Prod.Lex.lt_iff.mpr (notSooner.lt_or_eq.imp_right fun equal => ⟨equal, later⟩)
  refine least_not_mem (entered.rows ▸ allDistinct) kept full isNew greater ?_
  rw [← entered.rows]
  exact same ▸ otherKept

omit isOldest

end AfterStop

/-! ## Reading with and without the stop -/

section Until

variable {lib registryLib} {query : SyslogQuery} {storage : Storage} {timeIsUp : Nat → Bool}

theorem readThrough_nil (state : ReadState) :
    readThrough lib (query.request timeIsUp) storage [] state = state := rfl

theorem stop_agrees {files : List (RawFileRow × Option LineSource)} {state : ReadState}
    (unraised : state.raised = none)
    (distinct : ((readThrough lib (query.request timeIsUp) storage files
      state).yielded.map YieldedRecord.place).Nodup)
    {file : RawFileRow × Option LineSource} {rest : List (RawFileRow × Option LineSource)}
    (first : files = file :: rest)
    (stops : stopBeforeOlderFile lib registryLib query file.1 state.yielded = true) :
    wholePage lib registryLib query state = wholePage lib registryLib query
          (readThrough lib (query.request timeIsUp) storage files state) ↔
      OlderFilesHoldOlder lib registryLib query storage timeIsUp files state := by
  obtain ⟨oldest, registeredEnd, isOldest, registered, sooner⟩ :=
    (stopBeforeOlderFile_iff lib registryLib query file.1 state.yielded).mp stops
  obtain ⟨news, yielded⟩ :=
    readThrough_yielded lib (query.request timeIsUp) storage files state
  have partPage : wholePage lib registryLib query state =
      .ok (pageItems (clampPage query.page) (clampPageSize query.pageSize)
        (wholeScan lib registryLib query state.yielded).rows) := by
    simp only [wholePage, unraised]
  constructor
  · intro same read next unread split other otherEnd isOther otherRegistered otherSooner
    have fullRaised : (readThrough lib (query.request timeIsUp) storage files state).raised =
        none := by
      cases raised : (readThrough lib (query.request timeIsUp) storage files state).raised with
      | none => rfl
      | some error =>
        rw [partPage] at same
        simp only [wholePage, raised] at same
        exact nomatch same
    rw [partPage, wholePage, fullRaised] at same
    have older := older_of_page isOldest (yielded ▸ distinct) (by
      have items := Except.ok.inj same
      rwa [yielded] at items)
    rcases readThrough_append lib (query.request timeIsUp) storage read (next :: unread)
      unraised with ended | ⟨goesOn, readRaised⟩
    · rw [split, ended]
      exact ⟨rfl, by simp⟩
    · rw [← split] at goesOn
      refine ⟨fullRaised.trans readRaised.symm, ?_⟩
      obtain ⟨early, yieldedRead⟩ :=
        readThrough_yielded lib (query.request timeIsUp) storage read state
      obtain ⟨late, yieldedRest⟩ := readThrough_yielded lib (query.request timeIsUp) storage
        (next :: unread) (readThrough lib (query.request timeIsUp) storage read state)
      rw [← goesOn] at yieldedRest
      have parts : news = early ++ late := by
        rw [yieldedRead, append_assoc, yielded] at yieldedRest
        exact append_cancel_left yieldedRest
      -- the records of the read in between are older, so that the oldest entry stays
      have unchanged := greatest_of_older isOldest fun record (mem : record ∈ early) =>
        older record (parts ▸ mem_append_left _ mem)
      rw [yieldedRead] at isOther
      obtain ⟨kept, isKept, -⟩ := kept_of_oldest isOldest
      obtain ⟨keptOther, isKeptOther, -⟩ := kept_of_oldest isOther
      rw [isKept, isKeptOther] at unchanged
      obtain ⟨rfl, -⟩ := List.cons.inj unchanged
      rw [yieldedRest, drop_left]
      exact fun record mem => older record (parts ▸ mem_append_right _ mem)
  · intro condition
    obtain ⟨raised, older⟩ := condition [] file rest first oldest registeredEnd isOldest registered
      sooner
    rw [readThrough_nil] at raised older
    rw [yielded, drop_left] at older
    rw [partPage, wholePage, raised.trans unraised, yielded]
    have unchanged := greatest_of_older isOldest older
    have page := fun read => pageItems_greatest (clampPageSize query.pageSize)
      (one_le_clampPage query.page)
      (wholeScan_distinct lib registryLib query read)
    have kept : pageItems (clampPage query.page) (clampPageSize query.pageSize)
        (greatest PageEntry.key query.keepCount
          (wholeScan lib registryLib query state.yielded).rows) =
        pageItems (clampPage query.page) (clampPageSize query.pageSize)
          (greatest PageEntry.key query.keepCount
            (wholeScan lib registryLib query (state.yielded ++ news)).rows) := by
      rw [unchanged]
    exact congrArg Except.ok (((page state.yielded).symm.trans kept).trans (page _))

theorem until_agrees (files : List (RawFileRow × Option LineSource)) {state : ReadState}
    (unraised : state.raised = none)
    (distinct : ((readThrough lib (query.request timeIsUp) storage files
      state).yielded.map YieldedRecord.place).Nodup) :
    wholePage lib registryLib query (readFilesUntil lib (query.request timeIsUp) storage
          (stopBeforeOlderFile lib registryLib query) files state) =
      wholePage lib registryLib query
        (readThrough lib (query.request timeIsUp) storage files state) ↔
      OlderFilesHoldOlder lib registryLib query storage timeIsUp files state := by
  induction files generalizing state with
  | nil => exact ⟨fun _ read file unread split => by simp at split, fun _ => rfl⟩
  | cons file rest ih =>
    rw [readFilesUntil_cons]
    by_cases stops : (!budgetExhausted (query.request timeIsUp) state &&
        stopBeforeOlderFile lib registryLib query file.1 state.yielded) = true
    · rw [if_pos stops]
      exact stop_agrees unraised distinct rfl ((Bool.and_eq_true _ _).mp stops).2
    · rw [if_neg stops]
      have older (stopped : stopBeforeOlderFile lib registryLib query file.1 state.yielded =
          true) : budgetExhausted (query.request timeIsUp) state = true := by
        simpa [stopped] using stops
      by_cases ends : (readNext lib (query.request timeIsUp) storage file state).2 = true
      · have whole : readThrough lib (query.request timeIsUp) storage (file :: rest) state =
            (readNext lib (query.request timeIsUp) storage file state).1 := by
          rw [readThrough_cons, if_pos ends]
        rw [if_pos ends, whole]
        refine ⟨fun _ => ?_, fun _ => rfl⟩
        intro read next unread split oldest registeredEnd isOldest registered sooner
        rw [whole]
        cases read with
        | nil =>
          obtain ⟨rfl, rfl⟩ := List.cons.inj split
          have exhausted := older <| (stopBeforeOlderFile_iff ..).mpr
            ⟨oldest, registeredEnd, isOldest, registered, sooner⟩
          have same : (readNext lib (query.request timeIsUp) storage file state).1 =
              { state with budgetChecks := state.budgetChecks + 1, truncated := true } := by
            simp [readNext, exhausted]
          rw [same, readThrough_nil]
          exact ⟨rfl, by simp⟩
        | cons head read =>
          obtain ⟨rfl, rfl⟩ := List.cons.inj split
          rw [readThrough_cons, if_pos ends]
          exact ⟨rfl, by simp⟩
      · have whole (files : List (RawFileRow × Option LineSource)) :
            readThrough lib (query.request timeIsUp) storage (file :: files) state =
              readThrough lib (query.request timeIsUp) storage files
                (readNext lib (query.request timeIsUp) storage file state).1 := by
          rw [readThrough_cons, if_neg ends]
        rw [if_neg ends, whole]
        rw [whole] at distinct
        rw [ih (readNext_raised lib _ (by simpa using ends)) distinct]
        constructor
        · intro condition read next unread split oldest registeredEnd isOldest registered sooner
          cases read with
          | nil =>
            obtain ⟨rfl, rfl⟩ := List.cons.inj split
            have exhausted := older <| (stopBeforeOlderFile_iff ..).mpr
              ⟨oldest, registeredEnd, isOldest, registered, sooner⟩
            exact absurd (by simp [readNext, exhausted]) ends
          | cons head read =>
            obtain ⟨rfl, rfl⟩ := List.cons.inj split
            rw [whole] at isOldest ⊢
            rw [whole]
            exact condition read next unread rfl oldest registeredEnd isOldest registered sooner
        · intro condition read next unread split oldest registeredEnd isOldest registered sooner
          have both := condition (file :: read) next unread
              (by rw [split]; rfl) oldest registeredEnd
          rw [whole, whole] at both
          exact both isOldest registered sooner

end Until

/-! ## Both pages -/

/-- The page of syslog records and the page of ping samples are those of all the records. -/
def PagesAgree (registry : Registry) (storage : Storage) (timeIsUp : Nat → Bool)
    (query : SyslogQuery) (identity : PingIdentity) (pingQuery : PingSamplesQuery) : Prop :=
  (syslogRecords lib registryLib registry storage timeIsUp query).map SyslogPage.items =
      allSyslogPage lib registryLib registry storage timeIsUp query ∧
    pingSamples lib registryLib registry storage timeIsUp identity pingQuery =
      pingSamplesKeeping lib registryLib keepAll registry storage
        timeIsUp identity pingQuery

/-- The files that the query lists. -/
def SyslogQuery.files (registry : Registry) (query : SyslogQuery) : List RawFileRow :=
  listRawFilesForQuery lib registryLib registry (query.fileQuery registryLib)

/-- The condition on the files that a query lists, where the query may stop. -/
def ListedOlderFilesHoldOlder (registry : Registry) (storage : Storage) (timeIsUp : Nat → Bool)
    (query : SyslogQuery) : Prop :=
  query.latestPageFastPath = true → ∀ paths,
    ((query.files lib registryLib registry).take DataType.syslog.maxFiles).mapM
        (fun file => storage.activeFile file.toRegisteredFile) = .ok paths →
      OlderFilesHoldOlder lib registryLib query storage timeIsUp
        (((query.files lib registryLib registry).take DataType.syslog.maxFiles).zip paths)
        (startState .syslog (query.files lib registryLib registry) paths)

theorem listRawFilesForQuery_distinct (registry : Registry) (query : FileQuery) :
    ((listRawFilesForQuery lib registryLib registry query).map fun row =>
      row.fileId).Nodup := by
  have selected : ((registry.rows.filter (query.selects lib registryLib)).map
      fun row => row.fileId).Nodup := (filter_sublist.map _).nodup registry.distinct
  have sorted := ((mergeSort_perm (registry.rows.filter
    (query.selects _ _)) query.rowLe).map fun row => row.fileId).nodup_iff.mpr selected
  exact ((filter_sublist.trans (take_sublist _ _)).map _).nodup sorted

theorem map_fst_zip_sublist {α β : Type} (one : List α) (two : List β) :
    ((one.zip two).map Prod.fst).Sublist one := by
  induction one generalizing two with
  | nil => exact .refl _
  | cons first rest ih =>
    cases two with
    | nil => exact nil_sublist _
    | cons other more => exact (ih more).cons_cons first

theorem recordsUntil_eq (request : RecordRequest) (storage : Storage)
    (stop : RawFileRow → List YieldedRecord → Bool) (rows : List RawFileRow) :
    recordsUntil lib request storage stop rows =
      ((rows.take request.dataType.maxFiles).mapM fun file =>
        storage.activeFile file.toRegisteredFile).map fun paths =>
          readFilesUntil lib request storage stop
            ((rows.take request.dataType.maxFiles).zip paths)
            (startState request.dataType rows paths) := by
  unfold recordsUntil
  dsimp only
  cases (rows.take request.dataType.maxFiles).mapM fun file =>
      storage.activeFile file.toRegisteredFile <;> rfl

theorem syslogRecords_agrees_iff (registry : Registry) (storage : Storage)
    (timeIsUp : Nat → Bool) (query : SyslogQuery) :
    (syslogRecords lib registryLib registry storage timeIsUp query).map SyslogPage.items =
        allSyslogPage lib registryLib registry storage timeIsUp query ↔
      ListedOlderFilesHoldOlder lib registryLib registry storage timeIsUp query := by
  have distinct := listRawFilesForQuery_distinct lib registryLib registry
    (query.fileQuery registryLib)
  unfold ListedOlderFilesHoldOlder
  rw [syslogRecords_items, allSyslogPage]
  simp only [SyslogQuery.files] at distinct ⊢
  set rows := listRawFilesForQuery lib registryLib registry
    (query.fileQuery registryLib) with isRows
  rw [recordsUntil_eq, recordsUntil_eq]
  have isSyslog : (query.request timeIsUp).dataType = .syslog := rfl
  rw [isSyslog]
  cases (rows.take DataType.syslog.maxFiles).mapM fun file =>
      storage.activeFile file.toRegisteredFile with
  | error error => exact ⟨fun _ _ _ isOk => (nomatch isOk), fun _ => rfl⟩
  | ok paths =>
    simp only [bind, Except.ok.injEq, forall_eq']
    by_cases fastPath : query.latestPageFastPath = true
    · simp only [fastPath, Bool.true_and, true_implies]
      have ids : (((rows.take DataType.syslog.maxFiles).zip paths).map
          fun file => file.1.fileId).Nodup := by
        have firsts := (map_fst_zip_sublist (rows.take DataType.syslog.maxFiles) paths).trans
          (take_sublist _ rows)
        have ids := (firsts.map fun row => row.fileId).nodup distinct
        rwa [map_map] at ids
      obtain ⟨_, yielded, places, -⟩ := readFilesUntil_adds lib (query.request timeIsUp)
        storage (fun _ _ => false) ((rows.take DataType.syslog.maxFiles).zip paths)
        (startState .syslog rows paths) ids
      exact until_agrees _ rfl (by rw [readThrough, yielded]; exact places)
    · simp [fastPath]

/-- The page is the newest page of all the records of the listed files if and only if no file
from the stop on fails or holds a record that is as new as the page; the page of ping
samples always is the page of all samples. -/
theorem pagesAgree_iff (registry : Registry) (storage : Storage) (timeIsUp : Nat → Bool)
    (query : SyslogQuery) (identity : PingIdentity) (pingQuery : PingSamplesQuery) :
    PagesAgree lib registryLib registry storage timeIsUp query identity pingQuery ↔
      ListedOlderFilesHoldOlder lib registryLib registry storage timeIsUp query := by
  have ping := pingSamples_eq lib registryLib identity pingQuery registry storage timeIsUp
  rw [PagesAgree, and_iff_left ping]
  exact syslogRecords_agrees_iff lib registryLib registry storage timeIsUp query

end Agreement

/-! ## An open file -/

/-- Some times of a day, in seconds. -/
def dayTimes : List (String × Int) :=
  [("2026-07-25T08:00:00+08:00", 28800), ("2026-07-25T09:00:00+08:00", 32400),
    ("2026-07-25T09:50:00+08:00", 35400), ("2026-07-25T09:55:00+08:00", 35700),
    ("2026-07-25T10:00:00+08:00", 36000), ("2026-07-25T11:00:00+08:00", 39600),
    ("2026-07-25T12:00:00+08:00", 43200)]

/-- The line of a record that has only its time. -/
def timeLine (time : String) : List UInt8 :=
  ("\x7b\"receive_time\": \"" ++ time ++ "\"\x7d\n").toList.map fun char =>
    char.toNat.toUInt8

def dayLibrary : RawQueryLibrary where
  python := .plain
  decodeLine line :=
    (dayTimes.find? fun time => line = timeLine time.1).map fun time =>
      [("receive_time", .str time.1)]
  fromIsoFormat text := dayTimes.lookup text
  sha256 _ := ""

def dayRegistryLibrary : RegistryLibrary where
  julianday text := dayTimes.lookup text
  upper text := text
  parseDatetime text := dayTimes.lookup text
  isoformat time := ((dayTimes.find? fun entry => entry.2 = time).map Prod.fst).getD ""
  canonicalTrainId _ := ""

def dayFile (fileId status startTime endTime : String) : RawFileRow where
  fileId := fileId
  status := status
  recordCount := 1
  siteId := "site-a"
  dataType := "syslog"
  runId := "run"
  trainId := ""
  deviceUuid := ""
  mrRole := ""
  startTime := startTime
  endTime := endTime
  createdAt := startTime

def closedFile : RawFileRow :=
  dayFile "raw-closed" "CLOSED" "2026-07-25T09:50:00+08:00" "2026-07-25T10:00:00+08:00"

/-- The file that is written since nine o'clock. -/
def openFile : RawFileRow := dayFile "raw-open" "OPEN" "2026-07-25T09:00:00+08:00" ""

def dayRegistry : Registry where
  rows := [closedFile, openFile]
  distinct := by decide

def dayStorage : Storage where
  activeFile file :=
    .ok (some ⟨[(timeLine (if file.fileId = "raw-open" then "2026-07-25T11:00:00+08:00"
      else "2026-07-25T09:55:00+08:00"), "")], none⟩)
  inspection := .ok none
  archivedLines _ := ⟨[], none⟩

/-- The first page with one record. -/
def dayQuery : SyslogQuery where
  siteId := "site-a"
  runId := "run"
  trainId := ""
  registeredTrainId := ""
  mrId := ""
  mrRole := []
  start := 28800
  finish := 43200
  page := 1
  pageSize := 1

def dayIdentity : PingIdentity where
  targetIp := ""
  expectedTargetSignatures := []
  matchesRecord _ := false
  targetSignature _ := ("", "")
  signaturesConflict _ _ := false

def dayPingQuery : PingSamplesQuery where
  siteId := "site-a"
  runId := "run"
  trainId := ""
  deviceUuid := ""
  mrRole := []
  start := 28800
  finish := 43200
  includeWarmup := true
  page := 1
  pageSize := 1

theorem dayQuery_files :
    dayQuery.files dayLibrary dayRegistryLibrary dayRegistry = [closedFile, openFile] := by
  have selected : dayRegistry.rows.filter
      ((dayQuery.fileQuery dayRegistryLibrary).selects dayLibrary
      dayRegistryLibrary) = [closedFile, openFile] :=
    filter_eq_self.mpr (by decide +kernel)
  have sorted : [closedFile, openFile].mergeSort (dayQuery.fileQuery dayRegistryLibrary).rowLe =
      [closedFile, openFile] := mergeSort_of_pairwise (by decide +kernel)
  unfold SyslogQuery.files listRawFilesForQuery
  rw [selected, sorted]
  exact filter_eq_self.mpr (by decide +kernel)

/-- The content of a file, and the record in it. -/
def daySource (time : String) : Option LineSource := some ⟨[(timeLine time, "")], none⟩

def dayRecord (file : RawFileRow) (time : String) : YieldedRecord :=
  ⟨[("receive_time", .str time)], file.fileId, 1, file.status, "ACTIVE", ""⟩

/-- The query stops before the file that is written, and its newer record is missing. -/
theorem not_pagesAgree :
    ¬ PagesAgree dayLibrary dayRegistryLibrary dayRegistry dayStorage (fun _ => false) dayQuery
      dayIdentity dayPingQuery := by
  rintro ⟨agrees, -⟩
  have condition := (syslogRecords_agrees_iff dayLibrary dayRegistryLibrary dayRegistry dayStorage
    (fun _ => false) dayQuery).mp agrees (by decide)
  rw [dayQuery_files] at condition
  have listed := condition [daySource "2026-07-25T09:55:00+08:00",
    daySource "2026-07-25T11:00:00+08:00"] rfl
    [(closedFile, daySource "2026-07-25T09:55:00+08:00")]
    (openFile, daySource "2026-07-25T11:00:00+08:00") [] rfl
    ⟨35700, 1, dayRecord closedFile "2026-07-25T09:55:00+08:00"⟩ 32400
  have rows : (wholeScan dayLibrary dayRegistryLibrary dayQuery
      [dayRecord closedFile "2026-07-25T09:55:00+08:00"]).rows =
        [⟨35700, 1, dayRecord closedFile "2026-07-25T09:55:00+08:00"⟩] := by
    rfl
  have isOldest : oldestOnPages dayLibrary dayRegistryLibrary dayQuery
      [dayRecord closedFile "2026-07-25T09:55:00+08:00"] =
        some ⟨35700, 1, dayRecord closedFile "2026-07-25T09:55:00+08:00"⟩ := by
    rw [oldestOnPages, rows, descending, mergeSort_singleton]
    rfl
  obtain ⟨-, older⟩ := listed isOldest (by decide +kernel) (by decide)
  have late := older (dayRecord openFile "2026-07-25T11:00:00+08:00") (mem_singleton_self _)
    39600 (by decide +kernel)
  exact absurd late (by decide)

end NetConsole.RawQuery
