import NetConsole.RawQuery.LatestPageReads

/-!
# The entries of a page

A page that is cut from the kept entries is the page that is cut from all entries
(`pageItems_greatest`), for syslog records (`syslogScan_eq`) as for ping samples
(`pingSamples_eq`): entries are numbered, so that no two have the same key.
-/

set_option autoImplicit false

namespace NetConsole.RawQuery

open Foundations List
open Worker (Json Event dictGet textOr)

/-! ## Pages -/

/-- Every entry is kept. -/
def keepAll (entries : List PageEntry) (entry : PageEntry) : List PageEntry := entries ++ [entry]

/-- The entries are numbered upwards, none above the last number. -/
structure Numbered (serial : Nat) (entries : List PageEntry) : Prop where
  upwards : entries.Pairwise fun one two => one.serial < two.serial
  bound : ∀ entry ∈ entries, entry.serial ≤ serial

variable {entries : List PageEntry} {serial : Nat} (numbered : Numbered serial entries)
include numbered

theorem Numbered.mono {next : Nat} (le : serial ≤ next) : Numbered next entries :=
  ⟨numbered.upwards, fun entry mem => (numbered.bound entry mem).trans le⟩

theorem Numbered.keepAll {entry : PageEntry}
    (next : entry.serial = serial + 1) : Numbered (serial + 1) (keepAll entries entry) where
  upwards := pairwise_append.mpr ⟨numbered.upwards, pairwise_singleton _ _, by
    intro one mem two mem'
    rw [mem_singleton.mp mem', next]
    exact Nat.lt_succ_of_le (numbered.bound one mem)⟩
  bound := by
    intro one mem
    rcases mem_append.mp mem with mem | mem
    · exact (numbered.bound one mem).trans (Nat.le_succ _)
    · rw [mem_singleton.mp mem, next]

theorem Numbered.distinct : (entries.map PageEntry.key).Nodup := by
  refine pairwise_map.mpr (numbered.upwards.imp fun {one two} less same => ?_)
  have serials : one.serial = two.serial := congrArg (fun key => (ofLex key).2) same
  omega

omit numbered

theorem greatest_keepAll (count : Nat) (entries : List PageEntry) (entry : PageEntry) :
    greatest PageEntry.key count (keepAll entries entry) =
      keepGreater PageEntry.key count (greatest PageEntry.key count entries) entry :=
  greatest_append count entries [entry]

theorem one_le_clampPage (page : Int) : 1 ≤ clampPage page := by
  unfold clampPage
  omega

theorem one_le_clampPageSize (pageSize : Int) : 1 ≤ clampPageSize pageSize := by
  unfold clampPageSize
  omega

theorem pageItems_greatest {page : Nat} (pageSize : Nat) (first : 1 ≤ page)
    (distinct : (entries.map PageEntry.key).Nodup) :
    pageItems page pageSize (greatest PageEntry.key (page * pageSize) entries) =
      pageItems page pageSize entries := by
  have room : page * pageSize = (page - 1) * pageSize + pageSize := by
    rw [← Nat.succ_mul, Nat.succ_eq_add_one, Nat.sub_add_cancel first]
  unfold pageItems
  rw [descending_greatest _ distinct, map_take, room, drop_take, take_take]
  congr 1
  omega

/-! ## Syslog records -/

section Syslog

variable (lib : RawQueryLibrary) (registryLib : RegistryLibrary) (query : SyslogQuery)

/-- The state of the loop if every entry is kept. -/
def wholeScan (read : List YieldedRecord) : SyslogScan :=
  read.foldl (takeSyslog lib registryLib query keepAll) {}

/-- The time of a record that the query takes. -/
def SyslogQuery.takenTime (record : YieldedRecord) : Option Int :=
  if query.matchesItem lib registryLib record.item then
    parseTime lib (textOr lib.python record.item "receive_time")
  else none

/-- What some records add to a loop that keeps every entry. -/
structure Entered (records : List YieldedRecord) (scan after : SyslogScan)
    (news : List PageEntry) : Prop where
  rows : after.rows = scan.rows ++ news
  numbered : Numbered after.serial after.rows
  later : ∀ entry ∈ news, scan.serial < entry.serial
  taken : ∀ entry ∈ news, query.takenTime lib registryLib entry.record = some entry.time
  every : ∀ record ∈ records, ∀ time,
    query.takenTime lib registryLib record = some time →
      ∃ entry ∈ news, entry.record = record ∧ entry.time = time
  sources : (news.map PageEntry.record).Sublist records

theorem takeSyslog_eq (keep : List PageEntry → PageEntry → List PageEntry) (scan : SyslogScan)
    (record : YieldedRecord) :
    takeSyslog lib registryLib query keep scan record =
      match query.takenTime lib registryLib record with
      | some time =>
        { matchedCount := scan.matchedCount + 1, serial := scan.serial + 1
          rows := keep scan.rows ⟨time, scan.serial + 1, record⟩ }
      | none =>
        if query.matchesItem lib registryLib record.item then
          { scan with matchedCount := scan.matchedCount + 1 }
        else scan := by
  unfold takeSyslog SyslogQuery.takenTime
  by_cases matched : query.matchesItem lib registryLib record.item = true
  · simp only [matched]
    cases parseTime _ (textOr lib.python record.item "receive_time") <;> rfl
  · simp [matched]

theorem foldl_takeSyslog_entered (records : List YieldedRecord) (scan : SyslogScan)
    (numbered : Numbered scan.serial scan.rows) :
    ∃ news, Entered lib registryLib query records scan
      (records.foldl (takeSyslog lib registryLib query keepAll) scan) news := by
  induction records generalizing scan with
  | nil => exact ⟨[], by simp, numbered, nofun, nofun, nofun, .refl _⟩
  | cons record rest ih =>
    rw [foldl_cons, takeSyslog_eq]
    cases taken : query.takenTime lib registryLib record with
    | some time =>
      obtain ⟨news, entered⟩ := ih {
        matchedCount := scan.matchedCount + 1, serial := scan.serial + 1
        rows := keepAll scan.rows ⟨time, scan.serial + 1, record⟩ } (numbered.keepAll rfl)
      refine ⟨⟨time, scan.serial + 1, record⟩ :: news, ?_, entered.numbered, ?_, ?_, ?_, ?_⟩
      · rw [entered.rows, keepAll, append_assoc]
        rfl
      · intro entry mem
        rcases mem_cons.mp mem with rfl | mem
        · exact Nat.lt_succ_self _
        · exact (Nat.lt_succ_self _).trans (entered.later entry mem)
      · intro entry mem
        rcases mem_cons.mp mem with rfl | mem
        · exact taken
        · exact entered.taken entry mem
      · intro other mem otherTime isTaken
        rcases mem_cons.mp mem with rfl | mem
        · exact ⟨_, mem_cons_self, rfl, Option.some_inj.mp (taken.symm.trans isTaken)⟩
        · obtain ⟨entry, isNew, same⟩ := entered.every other mem otherTime isTaken
          exact ⟨entry, mem_cons_of_mem _ isNew, same⟩
      · exact entered.sources.cons_cons record
    | none =>
      dsimp only
      have goesOn {next : SyslogScan} (serial : next.serial = scan.serial)
          (rows : next.rows = scan.rows) :
          ∃ news, Entered lib registryLib query (record :: rest) scan
            (rest.foldl (takeSyslog lib registryLib query keepAll) next) news := by
        obtain ⟨news, entered⟩ := ih next (serial ▸ rows ▸ numbered)
        refine ⟨news, rows ▸ entered.rows, entered.numbered, serial ▸ entered.later, entered.taken,
          ?_, entered.sources.cons record⟩
        intro other mem time isTaken
        rcases mem_cons.mp mem with rfl | mem
        · exact nomatch taken.symm.trans isTaken
        · exact entered.every other mem time isTaken
      split
      · exact goesOn rfl rfl
      · exact goesOn rfl rfl

/-- More records add entries. -/
theorem wholeScan_append (read more : List YieldedRecord) :
    ∃ news, Entered lib registryLib query more (wholeScan lib registryLib query read)
      (wholeScan lib registryLib query (read ++ more)) news := by
  obtain ⟨_, entered⟩ := foldl_takeSyslog_entered _ _ _ read {} ⟨.nil, nofun⟩
  unfold wholeScan
  rw [foldl_append]
  exact foldl_takeSyslog_entered _ _ _ more _ entered.numbered

theorem wholeScan_numbered (read : List YieldedRecord) :
    Numbered (wholeScan lib registryLib query read).serial
      (wholeScan lib registryLib query read).rows := by
  obtain ⟨_, entered⟩ := wholeScan_append _ _ _ [] read
  exact entered.numbered

theorem wholeScan_distinct (read : List YieldedRecord) :
    ((wholeScan lib registryLib query read).rows.map PageEntry.key).Nodup :=
  (wholeScan_numbered _ _ _ read).distinct

/-- The state of the loop that keeps the greatest entries. -/
def SyslogScan.bounded (count : Nat) (scan : SyslogScan) : SyslogScan :=
  { scan with rows := greatest PageEntry.key count scan.rows }

theorem takeSyslog_bounded (count : Nat) (scan : SyslogScan) (record : YieldedRecord) :
    takeSyslog lib registryLib query (keepGreater PageEntry.key count) (scan.bounded count)
        record =
      (takeSyslog lib registryLib query keepAll scan record).bounded count := by
  rw [takeSyslog_eq, takeSyslog_eq]
  cases query.takenTime lib registryLib record with
  | some time =>
    dsimp only [SyslogScan.bounded]
    rw [greatest_keepAll]
  | none =>
    dsimp only
    split <;> rfl

/-- The loop keeps the greatest of all entries. -/
theorem syslogScan_eq (read : List YieldedRecord) : syslogScan lib registryLib query read =
      (wholeScan lib registryLib query read).bounded query.keepCount := by
  have goesOn (scan : SyslogScan) : read.foldl
          (takeSyslog lib registryLib query (keepGreater PageEntry.key query.keepCount))
          (scan.bounded query.keepCount) =
        (read.foldl (takeSyslog lib registryLib query keepAll) scan).bounded
          query.keepCount := by
    induction read generalizing scan with
    | nil => rfl
    | cons record rest ih =>
      rw [foldl_cons, foldl_cons, takeSyslog_bounded]
      exact ih _
  exact goesOn {}

end Syslog

/-! ## Ping samples -/

section Ping

variable (lib : RawQueryLibrary) (registryLib : RegistryLibrary) (identity : PingIdentity)
  (query : PingSamplesQuery)

/-- The state of the loop that keeps the greatest entries. -/
def PingSamplesScan.bounded (count : Nat) (scan : PingSamplesScan) : PingSamplesScan :=
  { scan with matched := greatest PageEntry.key count scan.matched }

theorem takePing_bounded (count : Nat) (scan : PingSamplesScan) (record : YieldedRecord) :
    takePing lib identity query (keepGreater PageEntry.key count) (scan.bounded count) record =
      (takePing lib identity query keepAll scan record).map (·.bounded count) := by
  unfold takePing
  by_cases matched : identity.matchesRecord record.item = true
  · simp only [matched, if_true]
    have same : (scan.bounded count).observed = scan.observed := rfl
    rw [same]
    cases identity.assertTargetSignature record.item scan.observed with
    | none => rfl
    | some observed =>
      dsimp only
      split
      · cases parseTime _ (textOr lib.python record.item "ts") with
        | none => rfl
        | some time =>
          dsimp only [Except.map, PingSamplesScan.bounded]
          rw [greatest_keepAll]
      · rfl
  · simp only [matched]
    rfl

variable {after : PingSamplesScan}

theorem takePing_numbered {scan : PingSamplesScan} {record : YieldedRecord}
    (numbered : Numbered scan.serial scan.matched)
    (taken : takePing lib identity query keepAll scan record = .ok after) :
    Numbered after.serial after.matched := by
  unfold takePing at taken
  split at taken
  · split at taken
    · exact nomatch taken
    · dsimp only at taken
      split at taken
      · split at taken
        · cases taken
          exact numbered.mono (Nat.le_succ _)
        · cases taken
          exact numbered.keepAll rfl
      · cases taken
        exact numbered
  · cases taken
    exact numbered

theorem foldlM_takePing_bounded (count : Nat) (records : List YieldedRecord)
    (scan : PingSamplesScan) :
    records.foldlM (takePing lib identity query (keepGreater PageEntry.key count))
        (scan.bounded count) =
      (records.foldlM (takePing lib identity query keepAll) scan).map (·.bounded count) := by
  induction records generalizing scan with
  | nil => rfl
  | cons record rest ih =>
    rw [foldlM_cons, foldlM_cons, takePing_bounded]
    cases takePing _ _ _ keepAll scan record with
    | error error => rfl
    | ok after => exact ih after

theorem foldlM_takePing_numbered (records : List YieldedRecord) (scan : PingSamplesScan)
    (numbered : Numbered scan.serial scan.matched)
    (taken : records.foldlM (takePing lib identity query keepAll) scan = .ok after) :
    Numbered after.serial after.matched := by
  induction records generalizing scan with
  | nil =>
    cases taken
    exact numbered
  | cons record rest ih =>
    rw [foldlM_cons] at taken
    cases step : takePing lib identity query keepAll scan record with
    | error error =>
      rw [step] at taken
      exact nomatch taken
    | ok next =>
      rw [step] at taken
      exact ih next (takePing_numbered lib identity query numbered step) taken

/-- The page of the heap is the page of all samples. -/
theorem pingSamples_eq (registry : Registry) (storage : Storage) (timeIsUp : Nat → Bool) :
    pingSamples lib registryLib registry storage timeIsUp identity query =
      pingSamplesKeeping lib registryLib keepAll registry storage timeIsUp identity query := by
  unfold pingSamples pingSamplesKeeping
  cases recordsUntil _ (query.request timeIsUp) storage (fun _ _ => false)
      (listRawFilesForQuery _ _ registry (query.fileQuery _)) with
  | error error => rfl
  | ok state =>
    have start : ({} : PingSamplesScan).bounded query.keepCount = {} := rfl
    have scans := foldlM_takePing_bounded lib identity query query.keepCount state.yielded {}
    rw [start] at scans
    simp only [bind, Except.bind]
    rw [scans]
    cases whole : state.yielded.foldlM (takePing lib identity query keepAll) {} with
    | error error => rfl
    | ok scan =>
      have numbered := foldlM_takePing_numbered lib identity query state.yielded
        {} ⟨.nil, nofun⟩ whole
      have page := pageItems_greatest (clampPageSize query.pageSize)
        (one_le_clampPage query.page) numbered.distinct
      simp only [Except.map, PingSamplesScan.bounded, PingSamplesQuery.keepCount, page]

end Ping

end NetConsole.RawQuery
