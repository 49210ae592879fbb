import Mathlib.Algebra.Order.Group.Multiset
import Mathlib.Algebra.Order.Sub.Unbundled.Basic
import NetConsole.ConfigText.DiffRows

/-!
# What a comparison reports

The rows of a side-by-side comparison are derived row by row from the two sequences
(`RowsOf`), whatever opcodes tile them.
-/

set_option autoImplicit false

namespace NetConsole.ConfigText

open MeshLog List

variable {left right : List Text} {i j : Nat} {opcodes : List Opcode}
  {rows rows' : List SideBySideDiffRow} {lefts rights lefts' rights' : List Text}

/-! ## Blocks -/

theorem Tiles.le (tiles : Tiles left right i j opcodes) : i ≤ left.length ∧ j ≤ right.length := by
  induction tiles with
  | nil => exact ⟨Nat.le_refl _, Nat.le_refl _⟩
  | cons leftLe rightLe _ _ ih => exact ⟨leftLe.trans ih.1, rightLe.trans ih.2⟩

theorem drop_of_le {lines : List Text} {start stop : Nat} (le : start ≤ stop) :
    lines.drop start = (lines.take stop).drop start ++ lines.drop stop := by
  conv_lhs => rw [← take_append_drop stop lines]
  rw [drop_append]
  by_cases short : lines.length < stop
  · simp [drop_eq_nil_of_le short.le]
  · rw [length_take, Nat.min_eq_left (Nat.not_lt.mp short), Nat.sub_eq_zero_of_le le]
    rfl

theorem length_block {lines : List Text} {start stop : Nat} (le : start ≤ stop)
    (within : stop ≤ lines.length) : start + ((lines.take stop).drop start).length = stop := by
  simp
  omega

/-! ## Rows -/

/-- The rows that two sequences have, from the given places on. -/
inductive RowsOf : Nat → Nat → List Text → List Text → List SideBySideDiffRow → Prop
  | nil {i j : Nat} : RowsOf i j [] [] []
  | pair {i j : Nat} {left right : Text} {lefts rights : List Text} {status : RowStatus}
      {rows : List SideBySideDiffRow} (same : status = .equal ∧ left = right ∨ status = .modified)
      (rest : RowsOf (i + 1) (j + 1) lefts rights rows) :
      RowsOf i j (left :: lefts) (right :: rights)
        (⟨some (i + 1), left, status, some (j + 1), right⟩ :: rows)
  | removed {i j : Nat} {left : Text} {lefts rights : List Text} {rows : List SideBySideDiffRow}
      (rest : RowsOf (i + 1) j lefts rights rows) :
      RowsOf i j (left :: lefts) rights (⟨some (i + 1), left, .removed, none, []⟩ :: rows)
  | added {i j : Nat} {right : Text} {lefts rights : List Text} {rows : List SideBySideDiffRow}
      (rest : RowsOf i (j + 1) lefts rights rows) :
      RowsOf i j lefts (right :: rights) (⟨none, [], .added, some (j + 1), right⟩ :: rows)

theorem RowsOf.append (first : RowsOf i j lefts rights rows)
    (second : RowsOf (i + lefts.length) (j + rights.length) lefts' rights' rows') :
    RowsOf i j (lefts ++ lefts') (rights ++ rights') (rows ++ rows') := by
  induction first with
  | nil => exact second
  | pair same _ ih =>
    exact .pair same (ih (by simpa only [length_cons, Nat.add_assoc, Nat.add_comm 1] using second))
  | removed _ ih =>
    exact .removed (ih (by simpa only [length_cons, Nat.add_assoc, Nat.add_comm 1] using second))
  | added _ ih =>
    exact .added (ih (by simpa only [length_cons, Nat.add_assoc, Nat.add_comm 1] using second))

theorem rowsOf_equalRows : RowsOf i j lefts lefts (equalRows i j lefts lefts) := by
  induction lefts generalizing i j with
  | nil => exact .nil
  | cons left lefts ih => exact .pair (.inl ⟨rfl, rfl⟩) ih

theorem rowsOf_removedRows : RowsOf i j lefts [] (removedRows i lefts) := by
  induction lefts generalizing i with
  | nil => exact .nil
  | cons left lefts ih => exact .removed ih

theorem rowsOf_addedRows : RowsOf i j [] rights (addedRows j rights) := by
  induction rights generalizing j with
  | nil => exact .nil
  | cons right rights ih => exact .added ih

theorem rowsOf_replacedRows : RowsOf i j lefts rights (replacedRows i j lefts rights) := by
  fun_induction replacedRows i j lefts rights with
  | case1 i j left lefts right rights ih => exact .pair (.inr rfl) ih
  | case2 i j lefts => exact rowsOf_removedRows
  | case3 i j rights => exact rowsOf_addedRows

variable {opcode : Opcode}

theorem Opcode.rowsOf (fits : opcode.Fits left right) :
    RowsOf opcode.leftStart opcode.rightStart (opcode.leftBlock left) (opcode.rightBlock right)
      (opcode.rows left right) := by
  unfold Opcode.rows
  unfold Opcode.Fits at fits
  split at fits
  · rw [← fits]
    exact rowsOf_equalRows
  · have none' : opcode.rightBlock right = [] := by simp [Opcode.rightBlock, fits]
    rw [none']
    exact rowsOf_removedRows
  · have none' : opcode.leftBlock left = [] := by simp [Opcode.leftBlock, fits]
    rw [none']
    exact rowsOf_addedRows
  · exact rowsOf_replacedRows

theorem Tiles.rowsOf (tiles : Tiles left right i j opcodes) :
    RowsOf i j (left.drop i) (right.drop j) (opcodes.flatMap (Opcode.rows left right)) := by
  induction tiles with
  | nil =>
    simp only [drop_length]
    exact .nil
  | cons leftLe rightLe fits rest ih =>
    rw [drop_of_le leftLe, drop_of_le rightLe, flatMap_cons]
    refine (Opcode.rowsOf fits).append ?_
    rw [Opcode.leftBlock, Opcode.rightBlock, length_block leftLe rest.le.1,
      length_block rightLe rest.le.2]
    exact ih

/-! ## What the rows show -/

/-- The left text of a row with its line number. -/
def SideBySideDiffRow.left? (row : SideBySideDiffRow) : Option (Text × Nat) :=
  row.leftLine.map fun number => (row.leftText, number)

def SideBySideDiffRow.right? (row : SideBySideDiffRow) : Option (Text × Nat) :=
  row.rightLine.map fun number => (row.rightText, number)

/-- The rows with a status. -/
def countStatus (status : RowStatus) (rows : List SideBySideDiffRow) : Nat :=
  rows.countP fun row => row.status = status

variable (derived : RowsOf i j lefts rights rows)
include derived

theorem RowsOf.sides : rows.filterMap SideBySideDiffRow.left? = lefts.zipIdx (i + 1) ∧
      rows.filterMap SideBySideDiffRow.right? = rights.zipIdx (j + 1) := by
  induction derived <;> simp_all [filterMap_cons, SideBySideDiffRow.left?, SideBySideDiffRow.right?]

theorem RowsOf.equalTexts : ∀ row ∈ rows, row.status = .equal → row.leftText = row.rightText := by
  induction derived <;> grind

theorem RowsOf.lengths : lefts.length = countStatus .removed rows +
      (countStatus .equal rows + countStatus .modified rows) ∧ rights.length =
        countStatus .added rows + (countStatus .equal rows + countStatus .modified rows) := by
  induction derived with
  | nil => exact ⟨rfl, rfl⟩
  | pair same _ ih =>
    rcases same with ⟨rfl, _⟩ | rfl <;> simp [countStatus] at ih ⊢ <;> omega
  | removed _ ih => simp [countStatus] at ih ⊢; omega
  | added _ ih => simp [countStatus] at ih ⊢; omega

omit derived

/-! ## Counters -/

theorem count_equalRows : countStatus .removed (equalRows i j lefts rights) = 0 ∧
    countStatus .added (equalRows i j lefts rights) = 0 := by
  fun_induction equalRows i j lefts rights <;> simp_all [countStatus]

theorem count_removedRows : countStatus .removed (removedRows i lefts) = lefts.length ∧
    countStatus .added (removedRows i lefts) = 0 := by
  fun_induction removedRows i lefts <;> simp_all [countStatus]

theorem count_addedRows : countStatus .removed (addedRows j rights) = 0 ∧
    countStatus .added (addedRows j rights) = rights.length := by
  fun_induction addedRows j rights <;> simp_all [countStatus]

theorem count_replacedRows :
    countStatus .removed (replacedRows i j lefts rights) = lefts.length - rights.length ∧
      countStatus .added (replacedRows i j lefts rights) = rights.length - lefts.length := by
  fun_induction replacedRows i j lefts rights with
  | case1 i j left lefts right rights ih => simpa [countStatus] using ih
  | case2 i j lefts => simpa using count_removedRows
  | case3 i j rights => simpa using count_addedRows

theorem SideBySide.add_eq (result : SideBySide) (opcode : Opcode) : result.add left right opcode =
      { rows := result.rows ++ opcode.rows left right
        added := result.added + countStatus .added (opcode.rows left right)
        removed := result.removed + countStatus .removed (opcode.rows left right)
        modifiedBlocks := result.modifiedBlocks + if opcode.tag = .replace then 1 else 0 } := by
  unfold SideBySide.add Opcode.rows
  cases opcode.tag with
  | equal => simp [count_equalRows]
  | delete => simp [count_removedRows]
  | insert => simp [count_addedRows]
  | replace => simp [count_replacedRows]

theorem foldl_add (opcodes : List Opcode) (result : SideBySide) :
    opcodes.foldl (SideBySide.add left right) result =
      { rows := result.rows ++ opcodes.flatMap (Opcode.rows left right)
        added := result.added + countStatus .added (opcodes.flatMap (Opcode.rows left right))
        removed := result.removed + countStatus .removed (opcodes.flatMap (Opcode.rows left right))
        modifiedBlocks := result.modifiedBlocks +
          opcodes.countP fun opcode => opcode.tag = .replace } := by
  induction opcodes generalizing result with
  | nil => simp [countStatus]
  | cons opcode opcodes ih =>
    rw [foldl_cons, ih, SideBySide.add_eq]
    simp [countStatus, countP_cons, Nat.add_assoc, Nat.add_comm, Nat.add_left_comm]

/-- The modified rows are those of replaced blocks. -/
def ModifiedDiffer (rows : List SideBySideDiffRow) : Prop :=
  ∀ row ∈ rows, row.status = .modified → row.leftText ≠ row.rightText

theorem ModifiedDiffer.removed : ModifiedDiffer (removedRows i lefts) := by
  fun_induction removedRows i lefts <;> simp_all [ModifiedDiffer]

theorem ModifiedDiffer.added : ModifiedDiffer (addedRows j rights) := by
  fun_induction addedRows j rights <;> simp_all [ModifiedDiffer]

theorem modifiedDiffer_replacedRows : ModifiedDiffer (replacedRows i j lefts rights) ↔
    ∀ pair ∈ lefts.zip rights, pair.1 ≠ pair.2 := by
  fun_induction replacedRows i j lefts rights with
  | case1 i j left lefts right rights ih =>
    simp only [ModifiedDiffer] at ih
    simp [ModifiedDiffer, ih]
  | case2 i j lefts => simp [ModifiedDiffer.removed]
  | case3 i j rights => simp [ModifiedDiffer.added]

theorem modifiedDiffer_rows : ModifiedDiffer (opcode.rows left right) ↔ (opcode.tag = .replace →
      ∀ pair ∈ (opcode.leftBlock left).zip (opcode.rightBlock right), pair.1 ≠ pair.2) := by
  unfold Opcode.rows
  cases opcode.tag with
  | equal =>
    refine iff_of_true ?_ (by simp)
    fun_induction equalRows opcode.leftStart opcode.rightStart (opcode.leftBlock left)
      (opcode.rightBlock right) <;> simp_all [ModifiedDiffer]
  | delete => exact iff_of_true .removed (by simp)
  | insert => exact iff_of_true .added (by simp)
  | replace => simpa using modifiedDiffer_replacedRows

/-! ## The laws -/

/-- A pair of a replaced block differs. -/
def PairsDiffer (left right : List Text) (opcodes : List Opcode) : Prop :=
  ∀ opcode ∈ opcodes, opcode.tag = .replace →
    ∀ pair ∈ (opcode.leftBlock left).zip (opcode.rightBlock right), pair.1 ≠ pair.2

/-- What the rows of a comparison show. -/
structure RowsSound (opcodes : List Opcode) (lefts rights : List Text) (result : SideBySide) :
    Prop where
  left : result.rows.filterMap SideBySideDiffRow.left? = lefts.zipIdx 1
  right : result.rows.filterMap SideBySideDiffRow.right? = rights.zipIdx 1
  equalTexts : ∀ row ∈ result.rows, row.status = .equal → row.leftText = row.rightText
  removed : result.removed = countStatus .removed result.rows
  added : result.added = countStatus .added result.rows
  blocks : result.modifiedBlocks = opcodes.countP fun opcode => opcode.tag = .replace
  leftLength : lefts.length = result.removed +
    (countStatus .equal result.rows + countStatus .modified result.rows)
  rightLength : rights.length = result.added +
    (countStatus .equal result.rows + countStatus .modified result.rows)
  modifiedTexts : ModifiedDiffer result.rows

/-- The rows show what they should exactly where no replaced block pairs equal lines. -/
theorem rowsSound_iff (lib : DiffLibrary) (left right : List Text) :
    RowsSound (lib.opcodes left right) left right (buildSideBySideRows left right lib) ↔
      PairsDiffer left right (lib.opcodes left right) := by
  have derived : RowsOf 0 0 left right _ := (lib.tiles left right).rowsOf
  rw [buildSideBySideRows, foldl_add]
  simp only [Nat.zero_add]
  have differ : ModifiedDiffer ((lib.opcodes left right).flatMap (Opcode.rows left right)) ↔
      PairsDiffer left right (lib.opcodes left right) := by
    simp only [PairsDiffer, ← modifiedDiffer_rows, ModifiedDiffer, mem_flatMap]
    grind
  rw [← differ]
  exact ⟨RowsSound.modifiedTexts, fun modified => ⟨derived.sides.1, derived.sides.2,
    derived.equalTexts, rfl, rfl, rfl, derived.lengths.1, derived.lengths.2, modified⟩⟩

/-! ## The unified diff -/

theorem Opcode.conserves (fits : opcode.Fits left right) :
    (opcode.rightBlock right : Multiset Text) + opcode.removed left =
      opcode.leftBlock left + opcode.added right := by
  unfold Opcode.removed Opcode.added
  unfold Opcode.Fits at fits
  cases tag : opcode.tag with
  | equal => simp_all
  | delete => simp_all [Opcode.rightBlock]
  | insert => simp_all [Opcode.leftBlock]
  | replace => simpa using perm_append_comm

theorem Tiles.conserves (tiles : Tiles left right i j opcodes) :
    (right.drop j : Multiset Text) + opcodes.flatMap (Opcode.removed left) =
      left.drop i + opcodes.flatMap (Opcode.added right) := by
  induction tiles with
  | nil => simp
  | cons leftLe rightLe fits rest ih =>
    rw [drop_of_le leftLe, drop_of_le rightLe]
    simp only [flatMap_cons, ← Multiset.coe_add]
    rw [add_add_add_comm, add_add_add_comm (left.take _ |>.drop _ : Multiset Text), ih]
    exact congrArg (· + _) (Opcode.conserves fits)

theorem Tiles.removed_sublist (tiles : Tiles left right i j opcodes) :
    (opcodes.flatMap (Opcode.removed left)).Sublist (left.drop i) := by
  induction tiles with
  | nil => exact nil_sublist _
  | @cons opcode _ leftLe _ _ _ ih =>
    rw [drop_of_le leftLe, flatMap_cons]
    refine List.Sublist.append ?_ ih
    unfold Opcode.removed
    split
    · exact List.Sublist.refl _
    · exact nil_sublist _

/-- The line begins with two signs, so that its line in the diff looks like a header. -/
def isDropped (sign : Char) (line : Text) : Bool := [sign, sign].isPrefixOf line

theorem signedLines_cons {sign first : Char} {line : Text} {diffLines : List Text} :
    signedLines sign ((first :: line) :: diffLines) =
      (if first = sign then [line].filter (!isDropped sign ·) else []) ++
        signedLines sign diffLines := by
  unfold signedLines isDropped
  by_cases same : first = sign
  · subst same
    cases dropped : [first, first].isPrefixOf line <;> simp [dropped]
  · simp [same, Ne.symm same]

variable {hunks : List HunkLine}

theorem signedLines_added : signedLines '+' (hunks.map HunkLine.text) =
    (hunks.filterMap HunkLine.added?).filter (!isDropped '+' ·) := by
  induction hunks with
  | nil => rfl
  | cons hunk hunks ih =>
    cases hunk with
    | added line =>
      rw [map_cons, HunkLine.text, signedLines_cons, if_pos rfl, ih]
      exact (filter_append [line] _).symm
    | _ =>
      rw [map_cons, HunkLine.text, signedLines_cons, if_neg (by decide)]
      exact ih

theorem signedLines_removed : signedLines '-' (hunks.map HunkLine.text) =
    (hunks.filterMap HunkLine.removed?).filter (!isDropped '-' ·) := by
  induction hunks with
  | nil => rfl
  | cons hunk hunks ih =>
    cases hunk with
    | removed line =>
      rw [map_cons, HunkLine.text, signedLines_cons, if_pos rfl, ih]
      exact (filter_append [line] _).symm
    | _ =>
      rw [map_cons, HunkLine.text, signedLines_cons, if_neg (by decide)]
      exact ih

variable {lib : DiffLibrary} (fromName toName : Text)

theorem signedLines_unifiedDiff {sign : Char} (isSign : sign = '+' ∨ sign = '-') :
    signedLines sign (lib.unifiedDiff left right fromName toName) =
      signedLines sign ((lib.hunks left right).map HunkLine.text) := by
  unfold DiffLibrary.unifiedDiff
  split
  · next none' => rw [none']; rfl
  · rcases isSign with rfl | rfl <;> rfl

theorem compareLines_added : (compareLines left right lib fromName toName).added =
    ((lib.opcodes left right).flatMap (Opcode.added right)).filter (!isDropped '+' ·) := by
  rw [← lib.added, ← signedLines_added]
  exact signedLines_unifiedDiff fromName toName (.inl rfl)

theorem compareLines_removed : (compareLines left right lib fromName toName).removed =
    ((lib.opcodes left right).flatMap (Opcode.removed left)).filter (!isDropped '-' ·) := by
  rw [← lib.removed, ← signedLines_removed]
  exact signedLines_unifiedDiff fromName toName (.inr rfl)

/-- The removed and the added lines account for the difference. -/
structure DiffConserves (fromLines toLines : List Text) (result : ConfigDiffResult) : Prop where
  balance : (toLines : Multiset Text) = fromLines - result.removed + result.added
  noneMissing : ∀ line, Multiset.count line fromLines ≠ Multiset.count line toLines →
    line ∈ result.removed ∨ line ∈ result.added

/-- The lines of the diff that begin with two signs. -/
def droppedLines (sign : Char) (changed : List Text) : Multiset Text :=
  changed.filter (isDropped sign)

theorem kept_add_dropped (sign : Char) (changed : List Text) :
    (changed.filter (!isDropped sign ·) : Multiset Text) + droppedLines sign changed = changed := by
  rw [add_comm]
  simpa [droppedLines] using filter_append_perm (isDropped sign) changed

theorem balance_iff {fromLines toLines taken put : Multiset Text} {removed added : List Text}
    (whole : toLines + removed = fromLines + added) (within : (removed : Multiset Text) ≤ fromLines)
    (isTaken : taken + droppedLines '-' removed = removed)
    (isPut : put + droppedLines '+' added = added) :
    toLines = fromLines - taken + put ↔ droppedLines '-' removed = droppedLines '+' added := by
  have takenLe : taken ≤ fromLines := (isTaken ▸ Multiset.le_add_right _ _).trans within
  rw [← isTaken, ← isPut, ← add_assoc, ← add_assoc] at whole
  have balance : toLines = fromLines - taken + put ↔ toLines + taken = fromLines + put := by
    rw [tsub_add_eq_add_tsub takenLe]
    exact (eq_tsub_iff_add_eq_of_le (takenLe.trans (Multiset.le_add_right _ _)))
  rw [balance]
  constructor
  · intro equal
    rw [equal] at whole
    exact add_left_cancel whole
  · intro equal
    rw [equal] at whole
    exact add_right_cancel whole

theorem dropped_eq_iff {removed added : List Text} :
    droppedLines '-' removed = droppedLines '+' added ↔
      (∀ line ∈ removed, isDropped '-' line = false) ∧
        ∀ line ∈ added, isDropped '+' line = false := by
  have apart : ∀ line, isDropped '-' line = true → isDropped '+' line = false := by
    rintro (_ | ⟨first, _⟩) minus
    · cases minus
    · obtain ⟨rfl, _⟩ : '-' = first ∧ _ := by simpa [isDropped] using minus
      rfl
  constructor
  · intro equal
    have same : ∀ line, line ∈ removed ∧ isDropped '-' line = true ↔
        line ∈ added ∧ isDropped '+' line = true := by
      intro line
      have mem : line ∈ droppedLines '-' removed ↔ line ∈ droppedLines '+' added := by rw [equal]
      simpa [droppedLines] using mem
    constructor <;> intro line mem <;> by_contra dropped <;> grind
  · rintro ⟨ofRemoved, ofAdded⟩
    rw [droppedLines, droppedLines, filter_eq_nil_iff.mpr (by simpa using ofRemoved),
      filter_eq_nil_iff.mpr (by simpa using ofAdded)]

/-- Every line that begins with two signs stays. -/
def DoubleSignsStay (lib : DiffLibrary) (fromLines toLines : List Text) : Prop :=
  ∀ opcode ∈ lib.opcodes fromLines toLines,
    (∀ line ∈ opcode.removed fromLines, ¬"--".toList <+: line) ∧
      ∀ line ∈ opcode.added toLines, ¬"++".toList <+: line

theorem compareLines_balance (fromLines toLines : List Text) : (toLines : Multiset Text) =
        fromLines - (compareLines fromLines toLines lib fromName toName).removed +
          (compareLines fromLines toLines lib fromName toName).added ↔
      DoubleSignsStay lib fromLines toLines := by
  rw [compareLines_removed, compareLines_added]
  refine (balance_iff (lib.tiles fromLines toLines).conserves
    (lib.tiles fromLines toLines).removed_sublist.subperm
    (kept_add_dropped '-' _) (kept_add_dropped '+' _)).trans ?_
  rw [dropped_eq_iff]
  simp only [DoubleSignsStay, isDropped, Bool.eq_false_iff, ne_eq, isPrefixOf_iff_prefix]
  grind

/-- The difference is accounted for exactly where every line that begins with two signs
stays. -/
theorem diffConserves_iff (texts : TextLibrary) (lib : DiffLibrary)
    (fromConfigText toConfigText fromName toName : Text) :
    DiffConserves (comparedLines texts fromConfigText) (comparedLines texts toConfigText)
        (compareNamedConfigText texts lib fromConfigText toConfigText fromName toName) ↔
      DoubleSignsStay lib (comparedLines texts fromConfigText)
        (comparedLines texts toConfigText) := by
  rw [← compareLines_balance fromName toName]
  refine ⟨DiffConserves.balance, fun balanced => ⟨balanced, ?_⟩⟩
  intro line changed
  by_contra missing
  obtain ⟨notRemoved, notAdded⟩ := not_or.mp missing
  apply changed
  have noneRemoved := Multiset.count_eq_zero_of_notMem (mt Multiset.mem_coe.mp notRemoved)
  have noneAdded := Multiset.count_eq_zero_of_notMem (mt Multiset.mem_coe.mp notAdded)
  rw [compareNamedConfigText] at noneRemoved noneAdded
  rw [balanced, Multiset.count_add, Multiset.count_sub, noneRemoved, noneAdded]
  rfl

/-! ## Two changes -/

/-- A matcher that finds nothing in common. -/
def replacing : DiffLibrary where
  opcodes left right := [⟨.replace, 0, left.length, 0, right.length⟩]
  hunks left right :=
    .header " -1 +1 @@".toList :: (left.map HunkLine.removed ++ right.map HunkLine.added)
  tiles left right :=
    @Tiles.cons left right ⟨.replace, 0, left.length, 0, right.length⟩ [] (Nat.zero_le _)
      (Nat.zero_le _) trivial .nil
  removed left right := by
    simp [filterMap_cons, HunkLine.removed?, Function.comp_def, Opcode.removed, Opcode.leftBlock]
  added left right := by
    simp [filterMap_cons, HunkLine.added?, Function.comp_def, Opcode.added, Opcode.rightBlock]

/-- The library on small letters. -/
def asciiTexts : TextLibrary where
  casefold text := text
  isWord := Char.isAlphanum
  casefold_nil := rfl

/-- An added line that begins with "++" is taken for a header. -/
theorem not_diffConserves : ¬DiffConserves (comparedLines asciiTexts "a".toList)
    (comparedLines asciiTexts "++b".toList)
    (compareNamedConfigText asciiTexts replacing "a".toList "++b".toList "saved".toList
      "running".toList) := by
  intro conserves
  have balance := conserves.balance
  revert balance
  decide +kernel

/-- Long sequences, in which `#` is too frequent to be matched. -/
def popularLeft : List Text := ["a".toList, "#".toList, "c".toList]

def popularRight : List Text :=
  ["b".toList, "#".toList, "d".toList] ++ List.replicate 200 "#".toList

/-- Equal lines stand in a modified row, when a line is too popular to be matched. -/
theorem not_rowsSound : ¬RowsSound (replacing.opcodes popularLeft popularRight) popularLeft
    popularRight (buildSideBySideRows popularLeft popularRight replacing) := by
  intro sound
  exact sound.modifiedTexts ⟨some 2, "#".toList, .modified, some 2, "#".toList⟩
    (by decide +kernel) rfl rfl

end NetConsole.ConfigText
