import Mathlib.Data.Prod.Lex
import NetConsole.Foundations.ExactCovers
import NetConsole.Wps.CellFormats

/-!
# Runs of equally formatted cells

`_format_runs_for_feature` describes the formats of a worksheet by rectangles. Each row is split
into segments of equal signatures, with a column behind the last one that closes the last
segment; a run is active while the row below has a segment of the same columns and signature.

The rectangles are an exact cover of the cells that have a payload of the feature
(`formatRuns_cover`).
-/

set_option autoImplicit false

namespace NetConsole.Wps

open Foundations List Worker

variable {floats : PythonFloats}

/-! ## The runs -/

/-- A worksheet; rows and columns are counted from 1. -/
abbrev Worksheet (floats : PythonFloats) := Nat → Nat → Cell floats

/-- The key of a run in `active`. -/
structure RunKey where
  (startColumn endColumn : Nat)
  signature : List Char
  deriving DecidableEq

/-- Cells in a row with one format. -/
structure Segment (floats : PythonFloats) where
  (startColumn endColumn : Nat)
  signature : List Char
  payload : FeaturePayload floats

/-- What a segment shares with the next of its run. -/
def Segment.key (segment : Segment floats) : RunKey :=
  ⟨segment.startColumn, segment.endColumn, segment.signature⟩

/-- Equal segments of rows below each other. -/
structure FormatRun (floats : PythonFloats) where
  (startRow endRow startColumn endColumn : Nat)
  payload : FeaturePayload floats

/-- The variables of the scan of a row. -/
structure RowScan (floats : PythonFloats) where
  startColumn : Nat
  firstPayload : Option (FeaturePayload floats)
  signature : List Char
  segments : List (Segment floats)

/-- The runs so far. -/
structure RunTable (floats : PythonFloats) where
  active : List (RunKey × FormatRun floats)
  completed : List (FormatRun floats)

/-- The segments when a segment ends before a column, which is kept if it has a payload. -/
def RowScan.closed (scan : RowScan floats) (column : Nat) : List (Segment floats) :=
  match scan.firstPayload with
  | some payload => scan.segments ++ [⟨scan.startColumn, column - 1, scan.signature, payload⟩]
  | none => scan.segments

section Scans

variable (worksheet : Worksheet floats) (feature : FormatFeature) (maxColumn row : Nat)

/-- A row without borders to send. -/
def blankBorderRow : Bool :=
  feature = .border && (List.range' 1 maxColumn).all fun column => (worksheet row column).blank

/-- The payload of a cell, with the borders of blank rows taken for empty. -/
def cellPayload (column : Nat) : Option (FeaturePayload floats) :=
  if blankBorderRow worksheet feature maxColumn row then none
  else featureFormatPayload (worksheet row column) feature

/-- `payload`, which is `None` behind the last column. -/
def columnPayload (column : Nat) : Option (Option (FeaturePayload floats)) :=
  if blankBorderRow worksheet feature maxColumn row then some none
  else if column ≤ maxColumn then some (featureFormatPayload (worksheet row column) feature)
  else none

/-- One round of the loop over the columns. -/
def scanColumn (scan : RowScan floats) (column : Nat) : RowScan floats :=
  let payload := columnPayload worksheet feature maxColumn row column
  let nextSignature := (payload.map formatSignature).getD []
  if nextSignature = scan.signature then scan
  else {
    startColumn := column, firstPayload := payload.getD none, signature := nextSignature
    segments := scan.closed column }

/-- The scan of the columns before the first step. -/
def startScan : RowScan floats where
  startColumn := 1
  firstPayload := cellPayload worksheet feature maxColumn row 1
  signature := formatSignature (cellPayload worksheet feature maxColumn row 1)
  segments := []

/-- The segments of a row. -/
def rowSegments : List (Segment floats) :=
  ((List.range' 2 maxColumn).foldl (scanColumn worksheet feature maxColumn row)
    (startScan worksheet feature maxColumn row)).segments

/-- A segment extends the active run of its key, or begins one. -/
def placeSegment :
    List (RunKey × FormatRun floats) → Segment floats → List (RunKey × FormatRun floats) :=
  upsert Segment.key (fun run => { run with endRow := row })
    fun segment => ⟨row, row, segment.startColumn, segment.endColumn, segment.payload⟩

/-- One round of the loop over the rows. -/
def scanRow (table : RunTable floats) : RunTable floats :=
  let segments := rowSegments worksheet feature maxColumn row
  let currentKeys := segments.map Segment.key
  let active := segments.foldl (placeSegment row) table.active
  { active := active.filter fun entry => decide (entry.1 ∈ currentKeys)
    completed := table.completed ++
      (active.filter fun entry => !decide (entry.1 ∈ currentKeys)).map Prod.snd }

end Scans

/-- The finished runs, and those still active. -/
def RunTable.runs (table : RunTable floats) : List (FormatRun floats) :=
  table.completed ++ table.active.map Prod.snd

/-- `_format_runs_for_feature`. -/
def formatRunsForFeature (worksheet : Worksheet floats) (feature : FormatFeature)
    (maxRow maxColumn : Nat) : List (FormatRun floats) :=
  ((List.range' 1 maxRow).foldl (fun table row => scanRow worksheet feature maxColumn row table)
    ⟨[], []⟩).runs

/-- The order in which runs are mirrored. -/
def FormatRun.before (one other : FormatRun floats) : Bool :=
  toLex (one.startRow, toLex (one.startColumn, toLex (one.endRow, one.endColumn))) ≤
    toLex (other.startRow, toLex (other.startColumn, toLex (other.endRow, other.endColumn)))

/-- `_format_runs_from_worksheet`, before the runs are made into data transfer objects. -/
def formatRunsFromWorksheet (worksheet : Worksheet floats) (maxRow maxColumn : Nat) :
    List (FormatRun floats) :=
  ([FormatFeature.font, .fill, .numberFormat, .alignment, .border].flatMap fun feature =>
    formatRunsForFeature worksheet feature maxRow maxColumn).mergeSort FormatRun.before

/-! ## Segments of a row -/

/-- The column is in the segment. -/
def Segment.Covers (segment : Segment floats) (column : Nat) : Prop :=
  segment.startColumn ≤ column ∧ column ≤ segment.endColumn

instance (column : Nat) : DecidablePred fun segment : Segment floats => segment.Covers column :=
  fun _ => instDecidableAnd

/-- Segments that cover what has a payload in front of a column. -/
structure RowCover (payload : Nat → Option (FeaturePayload floats))
    (segments : List (Segment floats)) (stop : Nat) : Prop where
  bounds : ∀ segment ∈ segments, 1 ≤ segment.startColumn ∧
    segment.startColumn ≤ segment.endColumn ∧ segment.endColumn < stop
  signature : ∀ segment ∈ segments, segment.signature = formatSignature (some segment.payload)
  carried : ∀ segment ∈ segments, ∀ column, segment.Covers column →
    payload column = some segment.payload
  cover : ExactCover Segment.Covers segments
    {column | 1 ≤ column ∧ column < stop ∧ (payload column).isSome}

variable {payload : Nat → Option (FeaturePayload floats)} {segments : List (Segment floats)}
  {stop : Nat}

theorem RowCover.skip {start : Nat} (row : RowCover payload segments start) (before : start < stop)
    (same : ∀ column, start ≤ column → column < stop → payload column = none) :
    RowCover payload segments stop := by
  refine ⟨fun segment mem => ?_, row.signature, row.carried, ?_⟩
  · obtain ⟨low, order, high⟩ := row.bounds segment mem
    exact ⟨low, order, high.trans before⟩
  · have points : {column | 1 ≤ column ∧ column < stop ∧ (payload column).isSome} =
        {column | 1 ≤ column ∧ column < start ∧ (payload column).isSome} := by
      ext column
      refine and_congr_right fun _ => ⟨fun ⟨below, held⟩ => ⟨?_, held⟩,
        fun ⟨below, held⟩ => ⟨below.trans before, held⟩⟩
      by_contra late
      rw [same column (Nat.not_lt.mp late) below] at held
      cases held
    rw [points]
    exact row.cover

theorem RowCover.concat {start : Nat} {first : FeaturePayload floats}
    (row : RowCover payload segments start) (positive : 1 ≤ start) (before : start < stop)
    (same : ∀ column, start ≤ column → column < stop → payload column = some first) :
    RowCover payload (segments ++ [⟨start, stop - 1, formatSignature (some first), first⟩])
      stop := by
  have covers : ∀ column,
      (⟨start, stop - 1, formatSignature (some first), first⟩ : Segment floats).Covers column ↔
        start ≤ column ∧ column < stop := fun column =>
    and_congr_right fun _ => by
      show column ≤ stop - 1 ↔ column < stop
      omega
  refine ⟨?_, ?_, ?_, ?_⟩
  · refine forall_mem_append.mpr ⟨fun segment mem => ?_, forall_mem_singleton.mpr ?_⟩
    · obtain ⟨low, order, high⟩ := row.bounds segment mem
      exact ⟨low, order, high.trans before⟩
    · show 1 ≤ start ∧ start ≤ stop - 1 ∧ stop - 1 < stop
      omega
  · exact forall_mem_append.mpr ⟨row.signature, forall_mem_singleton.mpr rfl⟩
  · refine forall_mem_append.mpr ⟨row.carried, forall_mem_singleton.mpr ?_⟩
    intro column covered
    obtain ⟨behind, below⟩ := (covers column).mp covered
    exact same column behind below
  · have points : {column | 1 ≤ column ∧ column < stop ∧ (payload column).isSome} =
        {column | column ∈ {column | 1 ≤ column ∧ column < start ∧ (payload column).isSome} ∨
          (⟨start, stop - 1, formatSignature (some first), first⟩ : Segment floats).Covers
            column} := by
      ext column
      show (_ ∧ _ ∧ _) ↔ (_ ∧ _ ∧ _) ∨ _
      rw [covers column]
      constructor
      · rintro ⟨low, below, held⟩
        rcases Nat.lt_or_ge column start with early | late
        · exact .inl ⟨low, early, held⟩
        · exact .inr ⟨late, below⟩
      · rintro (⟨low, early, held⟩ | ⟨late, below⟩)
        · exact ⟨low, early.trans before, held⟩
        · exact ⟨positive.trans late, below, same column late below ▸ rfl⟩
    rw [points]
    refine row.cover.concat fun column inside covered => ?_
    exact absurd ((covers column).mp covered).1 (Nat.not_le.mpr inside.2.1)

theorem RowCover.nodup_keys (row : RowCover payload segments stop) :
    (segments.map Segment.key).Nodup := by
  have apart := row.cover.pairwise
  have bounds := row.bounds
  clear row
  induction segments with
  | nil => exact nodup_nil
  | cons segment segments ih =>
    obtain ⟨here, apart⟩ := pairwise_cons.mp apart
    refine nodup_cons.mpr ⟨fun mem => ?_,
      ih apart fun other mem => bounds other (mem_cons_of_mem _ mem)⟩
    obtain ⟨other, mem, same⟩ := mem_map.mp mem
    have starts := congrArg RunKey.startColumn same
    have order := (bounds other (mem_cons_of_mem _ mem)).2.1
    have within := (bounds segment mem_cons_self).2.1
    refine here other mem segment.startColumn ⟨⟨Nat.le_refl _, within⟩, Nat.le_of_eq starts, ?_⟩
    exact (Nat.le_of_eq starts.symm).trans order

section Rows

variable (worksheet : Worksheet floats) (feature : FormatFeature) (maxColumn row : Nat)

/-- What holds of the scan after a column. -/
structure Scanned (column : Nat) (scan : RowScan floats) : Prop where
  positive : 1 ≤ scan.startColumn
  reached : scan.startColumn ≤ column
  signature : scan.signature = formatSignature scan.firstPayload
  same : ∀ other, scan.startColumn ≤ other → other ≤ column →
    cellPayload worksheet feature maxColumn row other = scan.firstPayload
  row : RowCover (cellPayload worksheet feature maxColumn row) scan.segments scan.startColumn

variable {worksheet feature maxColumn row}

theorem scanned_start :
    Scanned worksheet feature maxColumn row 1 (startScan worksheet feature maxColumn row) where
  positive := Nat.le_refl 1
  reached := Nat.le_refl 1
  signature := rfl
  same other low high := by
    rw [Nat.le_antisymm high low]
    rfl
  row := by
    refine ⟨nofun, nofun, nofun, ?_⟩
    have empty : {column : Nat | 1 ≤ column ∧ column < 1 ∧
        (cellPayload worksheet feature maxColumn row column).isSome} = ∅ := by
      ext column
      constructor
      · rintro ⟨low, below, -⟩
        exact absurd low (Nat.not_le.mpr below)
      · exact False.elim
    rw [show (startScan worksheet feature maxColumn row).startColumn = 1 from rfl, empty]
    exact ExactCover.nil

variable {column : Nat}

theorem columnPayload_inside (inside : column ≤ maxColumn) :
    columnPayload worksheet feature maxColumn row column =
      some (cellPayload worksheet feature maxColumn row column) := by
  unfold columnPayload cellPayload
  rw [if_pos inside]
  split <;> rfl

variable {scan : RowScan floats} (scanned : Scanned worksheet feature maxColumn row column scan)
include scanned

/-- The segments when another signature begins. -/
theorem Scanned.close :
    RowCover (cellPayload worksheet feature maxColumn row) (scan.closed (column + 1))
      (column + 1) := by
  have before := Nat.lt_succ_of_le scanned.reached
  have same := fun other low high => scanned.same other low (Nat.le_of_lt_succ high)
  have signature := scanned.signature
  unfold RowScan.closed
  cases first : scan.firstPayload with
  | none =>
    rw [first] at same
    exact scanned.row.skip before same
  | some payload =>
    rw [first] at same signature
    rw [signature]
    exact scanned.row.concat scanned.positive before same

theorem Scanned.step
    (inside : column + 1 ≤ maxColumn) : Scanned worksheet feature maxColumn row (column + 1)
      (scanColumn worksheet feature maxColumn row scan (column + 1)) := by
  unfold scanColumn
  simp only [columnPayload_inside inside, Option.getD_some]
  split
  · rename_i equal
    -- equal signatures: the column is one more of its segment
    have payload := formatSignature_injective (equal.trans scanned.signature)
    refine ⟨scanned.positive, Nat.le_succ_of_le scanned.reached, scanned.signature, ?_, scanned.row⟩
    intro other low high
    rcases Nat.lt_or_eq_of_le high with early | rfl
    · exact scanned.same other low (Nat.le_of_lt_succ early)
    · exact payload
  · refine ⟨Nat.le_add_left 1 column, Nat.le_refl _, rfl, ?_, scanned.close⟩
    intro other low high
    rw [Nat.le_antisymm high low]

omit scanned

theorem scanned_columns {columns : Nat} (inside : columns + 1 ≤ maxColumn) :
    Scanned worksheet feature maxColumn row (columns + 1)
      ((List.range' 2 columns).foldl (scanColumn worksheet feature maxColumn row)
        (startScan worksheet feature maxColumn row)) := by
  induction columns with
  | zero => exact scanned_start
  | succ columns ih =>
    rw [List.range'_1_concat, foldl_append, Nat.add_comm 2 columns]
    exact (ih (Nat.le_of_succ_le inside)).step inside

variable (worksheet feature maxColumn row) in
theorem rowSegments_cover : RowCover (cellPayload worksheet feature maxColumn row)
      (rowSegments worksheet feature maxColumn row) (maxColumn + 1) := by
  unfold rowSegments
  cases maxColumn with
  | zero => exact scanned_start.row
  | succ columns =>
    have scanned : Scanned worksheet feature (columns + 1) row (columns + 1) _ :=
      scanned_columns (Nat.le_refl (columns + 1))
    rw [List.range'_1_concat, foldl_append, Nat.add_comm 2 columns]
    generalize (List.range' 2 columns).foldl _ _ = scan at scanned ⊢
    show RowCover _ (scanColumn _ _ (columns + 1) _ scan (columns + 1 + 1)).segments _
    unfold scanColumn
    simp only
    split
    · rename_i equal
      -- the end of the last segment is missing only in a row of blank cells
      have nothing : scan.firstPayload = none := by
        rw [scanned.signature] at equal
        unfold columnPayload at equal
        split at equal
        · have empty : formatSignature (none : Option (FeaturePayload floats)) = formatSignature
            scan.firstPayload := equal
          exact (formatSignature_injective empty).symm
        · rw [if_neg (Nat.not_succ_le_self _)] at equal
          exact absurd equal.symm (formatSignature_ne_nil _)
      have closed := scanned.close
      unfold RowScan.closed at closed
      rw [nothing] at closed
      exact closed
    · exact scanned.close

end Rows

/-! ## Runs of a worksheet -/

/-- The cell is in the run. -/
def FormatRun.Covers (run : FormatRun floats) (cell : Nat × Nat) : Prop :=
  (run.startRow ≤ cell.1 ∧ cell.1 ≤ run.endRow) ∧ run.startColumn ≤ cell.2 ∧ cell.2 ≤ run.endColumn

instance (cell : Nat × Nat) : DecidablePred fun run : FormatRun floats => run.Covers cell :=
  fun _ => instDecidableAnd

section Tables

variable (worksheet : Worksheet floats) (feature : FormatFeature) (maxColumn : Nat)

/-- A run in the first rows, with the payload of all its cells. -/
structure FormatRun.Carried (rows : Nat) (run : FormatRun floats) : Prop where
  rows : 1 ≤ run.startRow ∧ run.startRow ≤ run.endRow ∧ run.endRow ≤ rows
  columns : 1 ≤ run.startColumn ∧ run.startColumn ≤ run.endColumn ∧ run.endColumn ≤ maxColumn
  payload : ∀ cell, run.Covers cell →
    cellPayload worksheet feature maxColumn cell.1 cell.2 = some run.payload

/-- The cells of the first rows that have a payload. -/
def payloadCells (rows : Nat) : Set (Nat × Nat) :=
  {cell | (1 ≤ cell.1 ∧ cell.1 ≤ rows) ∧ (1 ≤ cell.2 ∧ cell.2 ≤ maxColumn) ∧
    (cellPayload worksheet feature maxColumn cell.1 cell.2).isSome}

/-- What holds of the runs after some rows. -/
structure Tabled (rows : Nat) (table : RunTable floats) : Prop where
  keyed : (table.active.map Prod.fst).Nodup
  current : ∀ entry ∈ table.active, entry.2.endRow = rows ∧
    entry.1 = ⟨entry.2.startColumn, entry.2.endColumn, formatSignature (some entry.2.payload)⟩
  carried : ∀ run ∈ table.runs, run.Carried worksheet feature maxColumn rows
  cover : ExactCover FormatRun.Covers table.runs (payloadCells worksheet feature maxColumn rows)

variable {worksheet feature maxColumn} {rows : Nat} {run : FormatRun floats}
  (carried : run.Carried worksheet feature maxColumn rows)
include carried

theorem FormatRun.Carried.mono : run.Carried worksheet feature maxColumn (rows + 1) where
  rows := ⟨carried.rows.1, carried.rows.2.1, Nat.le_succ_of_le carried.rows.2.2⟩
  columns := carried.columns
  payload := carried.payload

variable {segment : Segment floats}

theorem FormatRun.Carried.extend (ends : run.endRow = rows)
    (mem : segment ∈ rowSegments worksheet feature maxColumn (rows + 1))
    (key : segment.key = ⟨run.startColumn, run.endColumn, formatSignature (some run.payload)⟩) :
    ({ run with endRow := rows + 1 } : FormatRun floats).Carried worksheet feature maxColumn
      (rows + 1) where
  rows := ⟨carried.rows.1, carried.rows.2.1.trans (ends ▸ Nat.le_succ _), Nat.le_refl _⟩
  columns := carried.columns
  payload cell covered := by
    obtain ⟨⟨low, high⟩, columns⟩ := covered
    rcases Nat.lt_or_eq_of_le high with early | last
    · exact carried.payload cell ⟨⟨low, ends ▸ Nat.le_of_lt_succ early⟩, columns⟩
    · obtain ⟨starts, stops, signature⟩ := RunKey.mk.inj key
      have row := rowSegments_cover worksheet feature maxColumn (rows + 1)
      have same := formatSignature_injective ((row.signature segment mem).symm.trans signature)
      have payload := row.carried segment mem cell.2
        ⟨(Nat.le_of_eq starts).trans columns.1, columns.2.trans (Nat.le_of_eq stops.symm)⟩
      rw [last, payload, same]

omit carried in
theorem carried_begin (mem : segment ∈ rowSegments worksheet feature maxColumn (rows + 1)) :
    (⟨rows + 1, rows + 1, segment.startColumn, segment.endColumn, segment.payload⟩ :
      FormatRun floats).Carried worksheet feature maxColumn (rows + 1) := by
  have row := rowSegments_cover worksheet feature maxColumn (rows + 1)
  obtain ⟨low, order, high⟩ := row.bounds segment mem
  refine ⟨⟨Nat.le_add_left 1 rows, Nat.le_refl _, Nat.le_refl _⟩,
    ⟨low, order, Nat.le_of_lt_succ high⟩, fun cell covered => ?_⟩
  obtain ⟨⟨first, last⟩, columns⟩ := covered
  rw [Nat.le_antisymm last first]
  exact row.carried segment mem cell.2 columns

variable {cell : Nat × Nat}

theorem FormatRun.Carried.mem_payloadCells
    (covered : run.Covers cell) : cell ∈ payloadCells worksheet feature maxColumn rows := by
  obtain ⟨first, -, last⟩ := carried.rows
  obtain ⟨left, -, right⟩ := carried.columns
  refine ⟨⟨first.trans covered.1.1, covered.1.2.trans last⟩,
    ⟨left.trans covered.2.1, covered.2.2.trans right⟩, ?_⟩
  rw [carried.payload cell covered]
  rfl

omit carried

theorem scanRow_completed (row : Nat) (table : RunTable floats) :
    (scanRow worksheet feature maxColumn row table).completed =
      table.completed ++ (table.active.filter fun entry =>
        !decide (entry.1 ∈ (rowSegments worksheet feature maxColumn row).map Segment.key)).map
          Prod.snd := by
  show table.completed ++ (List.filter _ (List.foldl (upsert _ _ _) table.active _)).map _ = _
  rw [filter_untouched table.active (rowSegments_cover _ _ _ _).nodup_keys]

/-- The active runs after a row: those that are extended, and those that begin. -/
theorem scanRow_active (row : Nat) (table : RunTable floats) :
    (scanRow worksheet feature maxColumn row table).active = ((table.active.filter fun entry =>
          decide (entry.1 ∈ (rowSegments worksheet feature maxColumn row).map Segment.key)).map
        fun entry => (entry.1, { entry.2 with endRow := row })) ++
      ((rowSegments worksheet feature maxColumn row).filter fun segment =>
          decide (segment.key ∉ table.active.map Prod.fst)).map fun segment =>
        (segment.key, ⟨row, row, segment.startColumn, segment.endColumn, segment.payload⟩) := by
  show List.filter _ (List.foldl (upsert _ _ _) table.active _) = _
  exact filter_touched table.active (rowSegments_cover _ _ _ _).nodup_keys

variable {table : RunTable floats}

theorem scanRow_keys {row : Nat} (keyed : (table.active.map Prod.fst).Nodup) :
    ((scanRow worksheet feature maxColumn row table).active.map Prod.fst).Perm
      ((rowSegments worksheet feature maxColumn row).map Segment.key) := by
  show ((List.filter _ (List.foldl (upsert _ _ _) table.active _)).map _).Perm _
  exact perm_touched (rowSegments_cover _ _ _ _).nodup_keys keyed

theorem Tabled.scanRow_active (tabled : Tabled worksheet feature maxColumn rows table)
    {entry : RunKey × FormatRun floats}
    (mem : entry ∈ (scanRow worksheet feature maxColumn (rows + 1) table).active) :
    entry.2.endRow = rows + 1 ∧ entry.1 = ⟨entry.2.startColumn, entry.2.endColumn,
        formatSignature (some entry.2.payload)⟩ ∧
      entry.2.Carried worksheet feature maxColumn (rows + 1) := by
  rw [NetConsole.Wps.scanRow_active] at mem
  rcases mem_append.mp mem with extended | begun
  · obtain ⟨old, listed, rfl⟩ := mem_map.mp extended
    obtain ⟨listed, again⟩ := mem_filter.mp listed
    obtain ⟨segment, among, key⟩ := mem_map.mp (of_decide_eq_true again)
    obtain ⟨ends, named⟩ := tabled.current old listed
    have carried := tabled.carried old.2 (mem_append_right _ (mem_map_of_mem listed))
    exact ⟨rfl, named, carried.extend ends among (key.trans named)⟩
  · obtain ⟨segment, listed, rfl⟩ := mem_map.mp begun
    have among := (mem_filter.mp listed).1
    have signature := (rowSegments_cover _ _ _ _).signature segment among
    refine ⟨rfl, ?_, carried_begin among⟩
    show RunKey.mk _ _ segment.signature = _
    rw [signature]

theorem Tabled.scanRow_completed (tabled : Tabled worksheet feature maxColumn rows table)
    (mem : run ∈ (scanRow worksheet feature maxColumn (rows + 1) table).completed) :
    run.Carried worksheet feature maxColumn rows := by
  rw [NetConsole.Wps.scanRow_completed] at mem
  rcases mem_append.mp mem with before | gone
  · exact tabled.carried run (mem_append_left _ before)
  · obtain ⟨entry, listed, rfl⟩ := mem_map.mp gone
    exact tabled.carried entry.2 (mem_append_right _ (mem_map_of_mem (mem_filter.mp listed).1))

variable (tabled : Tabled worksheet feature maxColumn rows table)
include tabled

theorem Tabled.coverage_above (above : cell.1 ≤ rows) :
    coverage FormatRun.Covers (scanRow worksheet feature maxColumn (rows + 1) table).runs cell =
      coverage FormatRun.Covers table.runs cell := by
  have begun : coverage FormatRun.Covers
      (((rowSegments worksheet feature maxColumn (rows + 1)).filter fun segment =>
          decide (segment.key ∉ table.active.map Prod.fst)).map fun segment =>
        (⟨rows + 1, rows + 1, segment.startColumn, segment.endColumn, segment.payload⟩ :
          FormatRun floats)) cell = 0 := by
    refine coverage_eq_zero _ fun run mem covered => ?_
    obtain ⟨segment, -, rfl⟩ := mem_map.mp mem
    exact absurd (covered.1.1.trans above) (Nat.not_succ_le_self rows)
  have extended := coverage_partition FormatRun.Covers table.active (fun entry =>
      decide (entry.1 ∈ (rowSegments worksheet feature maxColumn (rows + 1)).map Segment.key))
    (fun entry => { entry.2 with endRow := rows + 1 }) Prod.snd Prod.snd
    (fun entry mem _ => by
      have ends := (tabled.current entry mem).1
      refine and_congr_left fun _ => and_congr_right fun _ => ?_
      show cell.1 ≤ rows + 1 ↔ cell.1 ≤ entry.2.endRow
      omega)
    fun _ _ _ => Iff.rfl
  unfold RunTable.runs
  rw [NetConsole.Wps.scanRow_completed, NetConsole.Wps.scanRow_active]
  simp only [coverage_append, map_append, map_map, Function.comp_def] at extended begun ⊢
  omega

theorem Tabled.coverage_row (column : Nat) :
    coverage FormatRun.Covers (scanRow worksheet feature maxColumn (rows + 1) table).runs
        (rows + 1, column) =
      coverage Segment.Covers (rowSegments worksheet feature maxColumn (rows + 1)) column := by
  have gone : coverage FormatRun.Covers
      (scanRow _ _ _ (rows + 1) table).completed (rows + 1, column) = 0 :=
    coverage_eq_zero _ fun run mem covered =>
      absurd (covered.1.2.trans (tabled.scanRow_completed mem).rows.2.2)
        (Nat.not_succ_le_self rows)
  unfold RunTable.runs
  rw [coverage_append, gone, Nat.zero_add]
  unfold coverage
  calc
    _ = (scanRow _ _ _ (rows + 1) table).active.countP
          ((fun key : RunKey => decide (key.startColumn ≤ column ∧ column ≤ key.endColumn)) ∘
            Prod.fst) := by
      rw [countP_map]
      refine countP_congr fun entry mem => ?_
      obtain ⟨ends, named, carried⟩ := tabled.scanRow_active mem
      have starts := carried.rows.2.1
      simp only [Function.comp, decide_eq_true_eq, FormatRun.Covers, named, ends]
      rw [ends] at starts
      exact and_iff_right ⟨starts, Nat.le_refl _⟩
    _ = ((rowSegments _ _ _ (rows + 1)).map Segment.key).countP
          (fun key => decide (key.startColumn ≤ column ∧ column ≤ key.endColumn)) := by
      rw [← countP_map]
      exact (scanRow_keys tabled.keyed).countP_eq _
    _ = _ := countP_map

theorem Tabled.step : Tabled worksheet feature maxColumn (rows + 1)
      (scanRow worksheet feature maxColumn (rows + 1) table) := by
  have carried : ∀ run ∈ (scanRow worksheet feature maxColumn (rows + 1) table).runs,
      run.Carried worksheet feature maxColumn (rows + 1) := by
    intro run mem
    rcases mem_append.mp mem with completed | active
    · exact (tabled.scanRow_completed completed).mono
    · obtain ⟨entry, listed, rfl⟩ := mem_map.mp active
      exact (tabled.scanRow_active listed).2.2
  refine ⟨(scanRow_keys tabled.keyed).nodup_iff.mpr (rowSegments_cover _ _ _ _).nodup_keys,
    fun entry mem => ?_, carried, ?_, ?_⟩
  · obtain ⟨ends, named, -⟩ := tabled.scanRow_active mem
    exact ⟨ends, named⟩
  · rintro ⟨_, column⟩ ⟨⟨first, last⟩, columns, held⟩
    rcases Nat.lt_or_eq_of_le last with early | rfl
    · have above := Nat.le_of_lt_succ early
      rw [tabled.coverage_above above]
      exact tabled.cover.once _ ⟨⟨first, above⟩, columns, held⟩
    · rw [tabled.coverage_row]
      exact (rowSegments_cover _ _ _ _).cover.once column
        ⟨columns.1, Nat.lt_succ_of_le columns.2, held⟩
  · exact fun cell other => coverage_eq_zero _ fun run mem covered =>
      other ((carried run mem).mem_payloadCells covered)

omit tabled

variable (worksheet feature maxColumn) in
theorem tabled_rows (rows : Nat) : Tabled worksheet feature maxColumn rows
      ((List.range' 1 rows).foldl
        (fun table row => scanRow worksheet feature maxColumn row table) ⟨[], []⟩) := by
  induction rows with
  | zero =>
    refine ⟨nodup_nil, nofun, nofun, ?_, fun _ _ => rfl⟩
    rintro cell ⟨⟨first, last⟩, -⟩
    exact absurd (first.trans last) (Nat.not_succ_le_self 0)
  | succ rows ih =>
    rw [List.range'_1_concat, foldl_append, Nat.add_comm 1 rows]
    exact ih.step

end Tables

/-- The runs of a feature are disjoint rectangles in the worksheet, their payload is that of each
of their cells, and they cover the cells that have a payload. -/
theorem formatRuns_cover (worksheet : Worksheet floats) (feature : FormatFeature)
    (maxRow maxColumn : Nat) : (formatRunsForFeature worksheet feature maxRow maxColumn).Pairwise
        (fun one other => ∀ cell, ¬ (one.Covers cell ∧ other.Covers cell)) ∧
      (∀ run ∈ formatRunsForFeature worksheet feature maxRow maxColumn,
        (1 ≤ run.startRow ∧ run.startRow ≤ run.endRow ∧ run.endRow ≤ maxRow) ∧
        (1 ≤ run.startColumn ∧ run.startColumn ≤ run.endColumn ∧ run.endColumn ≤ maxColumn)) ∧
      (∀ run ∈ formatRunsForFeature worksheet feature maxRow maxColumn, ∀ row column,
        run.Covers (row, column) →
          cellPayload worksheet feature maxColumn row column = some run.payload) ∧
      ∀ row column, (∃ run ∈ formatRunsForFeature worksheet feature maxRow maxColumn,
          run.Covers (row, column)) ↔
        (1 ≤ row ∧ row ≤ maxRow) ∧ (1 ≤ column ∧ column ≤ maxColumn) ∧
          (cellPayload worksheet feature maxColumn row column).isSome := by
  have tabled := tabled_rows worksheet feature maxColumn maxRow
  refine ⟨tabled.cover.pairwise, ?_, ?_, fun row column => tabled.cover.covered_iff (row, column)⟩
  · intro run mem
    have carried := tabled.carried run mem
    exact ⟨carried.rows, carried.columns⟩
  · intro run mem row column
    exact (tabled.carried run mem).payload (row, column)

/-- What a cell shows of a feature. -/
def shownPayload (worksheet : Worksheet floats) (maxRow maxColumn : Nat) (cell : Nat × Nat)
    (feature : FormatFeature) : Option (FeaturePayload floats) :=
  if (1 ≤ cell.1 ∧ cell.1 ≤ maxRow) ∧ 1 ≤ cell.2 ∧ cell.2 ≤ maxColumn then
    cellPayload worksheet feature maxColumn cell.1 cell.2
  else none

/-- Read back at any cell, the runs of a worksheet are what the cell shows. -/
theorem formatRuns_read (worksheet : Worksheet floats) (maxRow maxColumn : Nat) (cell : Nat × Nat) :
    (((formatRunsFromWorksheet worksheet maxRow maxColumn).filter (·.Covers cell)).map
      FormatRun.payload).Perm ([.font, .fill, .numberFormat, .alignment, .border].filterMap
        (shownPayload worksheet maxRow maxColumn cell)) := by
  have read : ∀ feature, ((formatRunsForFeature worksheet feature maxRow maxColumn).filter
      (·.Covers cell)).map FormatRun.payload =
        (shownPayload worksheet maxRow maxColumn cell feature).toList := by
    intro feature
    obtain ⟨-, -, carried, cover⟩ := tabled_rows worksheet feature maxColumn maxRow
    by_cases shown : cell ∈ payloadCells worksheet feature maxColumn maxRow
    · have once := cover.once cell shown
      rw [coverage, countP_eq_length_filter] at once
      obtain ⟨run, once⟩ := length_eq_one_iff.mp once
      obtain ⟨mem, covers⟩ := mem_filter.mp (once ▸ mem_singleton_self run)
      have same := (carried run mem).payload cell (of_decide_eq_true covers)
      rw [shownPayload, if_pos ⟨shown.1, shown.2.1⟩, same]
      exact congrArg _ once
    · have none' := cover.outside cell shown
      rw [coverage, countP_eq_length_filter, length_eq_zero_iff] at none'
      have hidden : shownPayload worksheet maxRow maxColumn cell feature = none := by
        rw [shownPayload, ite_eq_right_iff]
        intro inside
        by_contra some'
        exact shown ⟨inside.1, inside.2, Option.isSome_iff_ne_none.mpr some'⟩
      rw [hidden]
      exact congrArg _ none'
  rw [filterMap_eq_flatMap_toList, ← funext read, ← map_flatMap, ← filter_flatMap]
  exact ((mergeSort_perm _ _).filter _).map _

end NetConsole.Wps
