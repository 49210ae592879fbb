import Mathlib.Data.List.DropRight
import Mathlib.Data.List.Infix
import Mathlib.Data.PNat.Defs

/-!
# Log pages, read from the end

A log file is read in blocks from its end, and the first fragment of a block is carried
over to the block before it. For every size of the blocks the lines of the file come out,
last line first (`readLinesReversed_eq`), except the empty ones, which are passed over
(`not_allLines_emptyLine`). A page is a stretch of the rows that the parser and the
filters accept, and the pages together are these rows (`logs_partitioned`).
-/

set_option autoImplicit false

namespace NetConsole.AppLog

open List

/-! ## Lines in reverse -/

/-- What decodes a line, and the functions on texts. -/
structure LogLibrary where
  decodeBytesWithFallback : List UInt8 → String
  (strip upper casefold : String → String)

/-- The lines before `position`, last line first; `buffer` is the fragment behind them. -/
def readBlocks (chunkSize : ℕ+) (content : List UInt8) (position : Nat) (buffer : List UInt8) :
    List (List UInt8) :=
  if 0 < position then
    let readSize := min chunkSize.val position
    let chunk := (content.drop (position - readSize)).take readSize
    let parts := (chunk ++ buffer).splitOn 10
    parts.tail.reverse.filter (!·.isEmpty) ++
      readBlocks chunkSize content (position - readSize) (parts.headD [])
  else if buffer.isEmpty then [] else [buffer]
termination_by position
decreasing_by
  have := chunkSize.pos
  omega

variable (lib : LogLibrary)

/-- `decode_bytes_with_fallback(raw_line).text.rstrip("\r\n")`. -/
def LogLibrary.lineText (rawLine : List UInt8) : String :=
  String.ofList ((lib.decodeBytesWithFallback rawLine).toList.rdropWhile
    fun c => c == '\r' || c == '\n')

/-- The end of what is read, which a limit may bring forward. -/
def startPosition (content : List UInt8) : Option Int → Nat
  | none => content.length
  | some maxBytes => min content.length (max 0 maxBytes).toNat

def readLinesReversed (chunkSize : ℕ+) (maxBytes : Option Int) (content : List UInt8) :
    List String :=
  (readBlocks chunkSize content (startPosition content maxBytes) []).map lib.lineText

/-- The lines of a content, last line first, without the empty ones. -/
def linesReversed (content : List UInt8) : List String :=
  ((content.splitOn 10).reverse.filter (!·.isEmpty)).map lib.lineText

/-- Only the first part of a text changes when something is put before the text. -/
theorem splitOn_append (front back : List UInt8) : 10 ∉ (back.splitOn 10).headD [] ∧
    (front ++ back).splitOn 10 =
      (front ++ (back.splitOn 10).headD []).splitOn 10 ++ (back.splitOn 10).tail := by
  by_cases broken : 10 ∈ back
  · obtain ⟨first, rest, rfl, unbroken⟩ := eq_append_cons_of_mem broken
    rw [splitOn_append_cons_self_of_not_mem unbroken, ← append_assoc, splitOn_append_cons_self]
    exact ⟨unbroken, rfl⟩
  · rw [splitOn_eq_singleton broken]
    exact ⟨broken, (append_nil _).symm⟩

theorem readBlocks_eq (chunkSize : ℕ+) (content : List UInt8) (position : Nat)
    (buffer : List UInt8) (unbroken : 10 ∉ buffer) : readBlocks chunkSize content position buffer =
      ((content.take position ++ buffer).splitOn 10).reverse.filter (!·.isEmpty) := by
  induction position using Nat.strong_induction_on generalizing buffer with
  | _ position ih =>
    unfold readBlocks
    split
    · next more =>
      have shorter : position - min chunkSize.val position < position := by
        have := chunkSize.pos
        omega
      have front : content.take position = content.take (position - min chunkSize.val position) ++
          (content.drop (position - min chunkSize.val position)).take
            (min chunkSize.val position) := by
        rw [← take_add, Nat.sub_add_cancel (min_le_right _ _)]
      rw [front, append_assoc, (splitOn_append _ _).2, reverse_append, filter_append]
      exact congrArg _ (ih _ shorter _ (splitOn_append [] _).1)
    · next none' =>
      rw [Nat.eq_zero_of_not_pos none', take_zero, nil_append, splitOn_eq_singleton unbroken]
      cases buffer <;> rfl

theorem readLinesReversed_eq (chunkSize : ℕ+) (maxBytes : Option Int) (content : List UInt8) :
    readLinesReversed lib chunkSize maxBytes content =
      linesReversed lib (content.take (startPosition content maxBytes)) := by
  rw [readLinesReversed, readBlocks_eq chunkSize content _ [] not_mem_nil,
    append_nil, linesReversed]

/-! ## Pages -/

/-- A row of the log table, by column. -/
abbrev Row := List (String × String)

/-- A call's filters, and its parser. -/
structure LogQuery extends LogLibrary where
  (keyword level : Option String)
  parse : String → Option Row

/-- `PaginationState`, after it is bounded. -/
structure PaginationState where
  (pageSize currentPage totalItems totalPages : Nat)

/-- A page of the log with its pagination. -/
structure LogPage where
  rows : List Row
  state : PaginationState

/-- The sizes of pages that can be chosen. -/
def logPageSize (pageSize : Int) : Nat :=
  if pageSize ∈ [200, 500, 1000] then pageSize.toNat else 200

/-- The number of pages, at least one. -/
def totalPages (total size : Nat) : Nat := max ((total + size - 1) / size) 1

def defaultChunkSize : ℕ+ := ⟨64 * 1024, by decide⟩

variable (query : LogQuery)

namespace LogQuery

/-- An empty text filters nothing. -/
def accepts (parsed : Row) : Bool :=
  let given := fun text : Option String => text.filter (· ≠ "")
  let keywordText := given ((given query.keyword).map (query.casefold ∘ query.strip))
  let levelText := given ((given query.level).map (query.upper ∘ query.strip))
  levelText.all (fun text => parsed.lookup "level" == some text) &&
    keywordText.all fun text =>
      text.toList <:+: (query.casefold (" ".intercalate (parsed.map Prod.snd))).toList

/-- The row of a line that is not passed over. -/
def rowOf (line : String) : Option Row := (query.parse line).filter query.accepts

/-- The rows of a page, and the number of accepted rows so far. -/
def scanLine (offset size : Nat) : List Row × Nat → String → List Row × Nat
  | (rows, total), line =>
    match query.rowOf line with
    | none => (rows, total)
    | some parsed =>
      (if offset ≤ total ∧ total < offset + size then rows ++ [parsed] else rows, total + 1)

/-- A path without a file has no lines. -/
def scanFiles (files : List (Option (List UInt8))) (offset size : Nat) : List Row × Nat :=
  files.foldl (fun scan file => (file.elim [] (readLinesReversed query.toLogLibrary
    defaultChunkSize none)).foldl (query.scanLine offset size) scan) ([], 0)

/-- A page behind the last one is asked for again as the last one. -/
def requestPage (files : List (Option (List UInt8))) (size requestedPage : Nat) : LogPage :=
  let scan := query.scanFiles files ((requestedPage - 1) * size) size
  let currentPage := min requestedPage (totalPages scan.2 size)
  if _ : currentPage ≠ requestedPage then requestPage files size currentPage
  else ⟨scan.1, ⟨size, currentPage, scan.2, totalPages scan.2 size⟩⟩
termination_by requestedPage
decreasing_by
  exact lt_of_le_of_ne (min_le_left _ _) ‹_›

/-- The logs at some paths; `page or 1` is the first page for 0. -/
def getLogsFromPaths (files : List (Option (List UInt8))) (pageSize page : Int) : LogPage :=
  query.requestPage files (logPageSize pageSize) (max page 1).toNat

/-- The rows that the parser and the filters accept, in the order of the lines. -/
def acceptedRows (files : List (Option (List UInt8))) : List Row :=
  (files.flatMap fun file => file.elim [] (linesReversed query.toLogLibrary)).filterMap query.rowOf

end LogQuery

/-- A page of the rows. -/
def pageOf (rows : List Row) (size page : Nat) : LogPage :=
  ⟨(rows.drop ((page - 1) * size)).take size,
    ⟨size, page, rows.length, totalPages rows.length size⟩⟩

theorem flatMap_pages (rows : List Row) (size count : Nat) :
    ((range count).flatMap fun page => (rows.drop (page * size)).take size) =
      rows.take (count * size) := by
  induction count with
  | zero => simp
  | succ count ih =>
    rw [range_succ, flatMap_append, ih, flatMap_singleton, ← take_add, Nat.succ_mul]

theorem le_totalPages_mul (total : Nat) {size : Nat} (positive : 0 < size) :
    total ≤ totalPages total size * size := by
  have most := Nat.mul_le_mul_right size (le_max_left ((total + size - 1) / size) 1)
  have split := Nat.div_add_mod' (total + size - 1) size
  have rest := Nat.mod_lt (total + size - 1) positive
  simp only [totalPages]
  omega

theorem foldl_scanLine (offset size : Nat) (lines : List String) (rows : List Row) :
    lines.foldl (query.scanLine offset size) ((rows.drop offset).take size, rows.length) =
      let all := rows ++ lines.filterMap query.rowOf
      ((all.drop offset).take size, all.length) := by
  induction lines generalizing rows with
  | nil => simp
  | cons line lines ih =>
    rw [foldl_cons, LogQuery.scanLine]
    cases read : query.rowOf line with
    | none => simpa only [filterMap_cons_none read] using ih rows
    | some row =>
      rw [filterMap_cons_some read, append_cons, ← ih, length_append, length_singleton, drop_append,
        take_append, length_drop]
      congr 2
      dsimp only
      split
      · have within : offset - rows.length = 0 := by omega
        rw [within, drop_zero, take_of_length_le (l := [row]) (by simp; omega)]
      · have none' : (([row].drop (offset - rows.length)).take
            (size - (rows.length - offset))) = [] := by
          simp
          omega
        rw [none', append_nil]

theorem scanFiles_eq (files : List (Option (List UInt8))) (offset size : Nat) :
    query.scanFiles files offset size =
      (((query.acceptedRows files).drop offset).take size, (query.acceptedRows files).length) := by
  have whole : readLinesReversed query.toLogLibrary defaultChunkSize none =
      linesReversed query.toLogLibrary := by
    funext content
    rw [readLinesReversed_eq, startPosition, take_length]
  have scanned := foldl_scanLine query offset size
    (files.flatMap fun file => file.elim [] (linesReversed query.toLogLibrary)) []
  rw [LogQuery.scanFiles, whole, ← foldl_flatMap, LogQuery.acceptedRows]
  simpa using scanned

/-- The first scan of a call counts the rows, and the second one then finds its page. -/
theorem requestPage_eq (files : List (Option (List UInt8))) (size page : Nat) :
    query.requestPage files size page = pageOf (query.acceptedRows files) size
      (min page (totalPages (query.acceptedRows files).length size)) := by
  induction page using Nat.strong_induction_on with
  | _ page ih =>
    rw [LogQuery.requestPage]
    simp only [scanFiles_eq]
    split
    · next behind => rw [ih _ (by omega), min_assoc, min_self]
    · next present => rw [not_not.mp present]; rfl

theorem logPageSize_pos (pageSize : Int) : 0 < logPageSize pageSize := by
  unfold logPageSize
  split
  · next allowed =>
    simp only [mem_cons, not_mem_nil, or_false] at allowed
    omega
  · decide

/-- The lines of a file come out last first, and the pages of a log partition the accepted rows. -/
theorem logs_partitioned :
    (∀ (chunkSize : ℕ+) (maxBytes : Option Int) (content : List UInt8),
      readLinesReversed lib chunkSize maxBytes content =
        linesReversed lib (content.take (startPosition content maxBytes))) ∧
    ∀ (files : List (Option (List UInt8))) (pageSize : Int),
      let rows := query.acceptedRows files
      let pages := totalPages rows.length (logPageSize pageSize)
      let shown := query.getLogsFromPaths files pageSize
      (∀ page, shown page = pageOf rows (logPageSize pageSize) (min (max page 1).toNat pages)) ∧
        ((range pages).flatMap fun page : Nat => (shown (page + 1)).rows) = rows := by
  refine ⟨readLinesReversed_eq lib, fun files pageSize => ?_⟩
  intro rows pages shown
  have each : ∀ page, shown page = pageOf rows (logPageSize pageSize)
      (min (max page 1).toNat pages) :=
    fun page => requestPage_eq query files (logPageSize pageSize) (max page 1).toNat
  refine ⟨each, ?_⟩
  rw [← take_of_length_le (le_totalPages_mul rows.length (logPageSize_pos pageSize)),
    ← flatMap_pages]
  refine flatMap_congr fun page listed => ?_
  have number : min (max ((page : Int) + 1) 1).toNat pages = page + 1 := by
    have := mem_range.mp listed
    omega
  rw [each, number, pageOf, Nat.add_sub_cancel]

/-! ## The exported page -/

/-- Each path with its `max_bytes_by_path`. -/
def LogQuery.iterLogsFromPaths (files : List (Option (List UInt8) × Option Int)) : List Row :=
  files.flatMap fun file => (file.1.elim [] (readLinesReversed query.toLogLibrary
    defaultChunkSize file.2)).filterMap query.rowOf

/-- The loop of `export_app_logs_csv`. -/
def exportAppLogs (offset limit matchedIndex count : Nat) : List Row → List Row
  | [] => []
  | row :: rest =>
    if matchedIndex < offset then exportAppLogs offset limit (matchedIndex + 1) count rest
    else if limit ≠ 0 ∧ limit ≤ count then []
    else row :: exportAppLogs offset limit (matchedIndex + 1) (count + 1) rest

theorem exportAppLogs_eq (offset limit matchedIndex count : Nat) (rows : List Row) :
    exportAppLogs offset limit matchedIndex count rows =
      let left := rows.drop (offset - matchedIndex)
      if limit = 0 then left else left.take (limit - count) := by
  induction rows generalizing matchedIndex count with
  | nil => simp [exportAppLogs]
  | cons row rest ih =>
    rw [exportAppLogs, ih, ih]
    split
    · next before =>
      rw [show offset - matchedIndex = offset - (matchedIndex + 1) + 1 by omega, drop_succ_cons]
    · next reached =>
      rw [show offset - matchedIndex = 0 by omega, show offset - (matchedIndex + 1) = 0 by omega]
      split
      · next full => simp [full.1, Nat.sub_eq_zero_of_le full.2]
      · next more =>
        by_cases unlimited : limit = 0
        · simp [unlimited]
        · simp only [unlimited, if_false, drop_zero]
          rw [show limit - count = limit - (count + 1) + 1 by omega, take_succ_cons]

/-- The exported rows are those of the page that was shown, or of all pages, however the files
have grown since. -/
theorem exported_shown (files : List (List UInt8 × List UInt8)) (pageSize page : Int) :
    let shown := query.getLogsFromPaths (files.map (some ·.1)) pageSize page
    let matched := query.iterLogsFromPaths (files.map fun (shown, added) =>
      (some (shown ++ added), some (shown.length : Int)))
    exportAppLogs ((shown.state.currentPage - 1) * shown.state.pageSize) shown.state.pageSize 0 0
        matched = shown.rows ∧
      exportAppLogs 0 0 0 0 matched = query.acceptedRows (files.map (some ·.1)) := by
  intro shown matched
  have read : ∀ shown added, readLinesReversed query.toLogLibrary defaultChunkSize
      (some (shown.length : Int)) (shown ++ added) = linesReversed query.toLogLibrary shown := by
    intro shown added
    rw [readLinesReversed_eq, startPosition]
    simp
  have exported : matched = query.acceptedRows (files.map (some ·.1)) := by
    rw [LogQuery.acceptedRows, filterMap_flatMap, flatMap_map]
    exact (flatMap_map ..).trans (flatMap_congr fun file _ => congrArg _ (read file.1 file.2))
  have same : shown = pageOf _ _ _ := requestPage_eq query _ _ _
  rw [exportAppLogs_eq, exportAppLogs_eq, exported, same]
  exact ⟨if_neg (logPageSize_pos pageSize).ne', rfl⟩

/-- Texts of single-byte characters. -/
def singleBytes : LogLibrary where
  decodeBytesWithFallback bytes := String.ofList (bytes.map fun byte => Char.ofNat byte.toNat)
  strip := id
  upper := id
  casefold := id

/-- An empty line is not read. -/
theorem not_allLines_emptyLine : ¬∀ (chunkSize : ℕ+) (lines : List (List UInt8)),
    (∀ line ∈ lines, 10 ∉ line) →
    readLinesReversed singleBytes chunkSize none (lines.flatMap (· ++ [10])) =
      lines.reverse.map singleBytes.lineText := by
  intro claim
  have all := claim defaultChunkSize [[97], [], [98]] (by decide)
  rw [readLinesReversed_eq] at all
  exact absurd (congrArg length all) (by decide)

end NetConsole.AppLog
