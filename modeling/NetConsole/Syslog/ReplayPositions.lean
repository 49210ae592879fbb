import NetConsole.Syslog.Replay

/-!
# Cursors and positions

A cursor is written as a text and read again: the text that a commit writes gives back
its line number (`parseRecoveryCursor_lineCursor`), and the text with an offset gives
back both (`parseRecoveryCursor_format`). A cursor that denotes a position is sought
to its line and the offset behind it (`seekRecoveryCursor_eq`), and the lines that are
read from there are the later lines of the file (`rawLines_drop_offsetAt`).
-/

set_option autoImplicit false

namespace NetConsole.Syslog

open Worker (PythonLibrary PythonError)
open List

/-! ## Cursors as texts -/

theorem partition_found {separator : Char} {before : List Char} (none : separator ∉ before)
    (after : List Char) :
    partition separator (before ++ separator :: after) = (before, true, after) := by
  induction before with
  | nil => simp [partition]
  | cons char rest ih =>
    have other : char ≠ separator := fun same => none (same ▸ mem_cons_self)
    have noneRest : separator ∉ rest := fun mem => none (mem_cons_of_mem _ mem)
    simp [partition, other, ih noneRest]

theorem partition_missing {separator : Char} {text : List Char} (none : separator ∉ text) :
    partition separator text = (text, false, []) := by
  induction text with
  | nil => rfl
  | cons char rest ih =>
    have other : char ≠ separator := fun same => none (same ▸ mem_cons_self)
    have noneRest : separator ∉ rest := fun mem => none (mem_cons_of_mem _ mem)
    simp [partition, other, ih noneRest]

/-- `int` reads the decimal text of a number. -/
def ReadsNumbers (python : PythonLibrary) : Prop :=
  ∀ number : Nat, python.intOfText (toString number) = .ok number

theorem notMem_digits {char : Char} (other : char.isDigit = false) (number : Nat) :
    char ∉ (toString number).toList := by
  intro mem
  rw [Nat.toString_eq_repr, Nat.toList_repr] at mem
  have digit := Nat.isDigit_of_mem_toDigits (by decide) (by decide) mem
  rw [other] at digit
  cases digit

theorem toString_toList_ne_nil (number : Nat) : (toString number).toList ≠ [] := by
  rw [Nat.toString_eq_repr, Nat.toList_repr]
  intro empty
  have positive : 0 < (Nat.toDigits 10 number).length := Nat.length_toDigits_pos
  rw [empty] at positive
  cases positive

variable {python : PythonLibrary}

theorem naturalOfText_toString (reads : ReadsNumbers python)
    (number : Nat) : naturalOfText python (toString number).toList = .ok number := by
  unfold naturalOfText
  rw [String.ofList_toList, reads number]
  rfl

theorem parseRecoveryCursor_lineCursor (reads : ReadsNumbers python)
    (lineNumber : Nat) : parseRecoveryCursor python (lineCursor lineNumber) =
      (lineNumber, none) := by
  have parts : (lineCursor lineNumber).toList =
      "PENDING_RECOVERY".toList ++ '@' :: (toString lineNumber).toList := by
    unfold lineCursor
    rw [String.toList_append]
    rfl
  unfold parseRecoveryCursor
  rw [parts, partition_found (by decide)]
  simp only []
  rw [partition_missing (notMem_digits (by decide) lineNumber)]
  simp only [if_neg (toString_toList_ne_nil lineNumber), naturalOfText_toString reads]
  rfl

theorem parseRecoveryCursor_format (reads : ReadsNumbers python) (lineNumber byteOffset : Nat) :
    parseRecoveryCursor python (formatRecoveryCursor lineNumber byteOffset) =
      (lineNumber, some byteOffset) := by
  have parts : (formatRecoveryCursor lineNumber byteOffset).toList =
      "PENDING_RECOVERY".toList ++ '@' ::
        ((toString lineNumber).toList ++ ':' :: (toString byteOffset).toList) := by
    unfold formatRecoveryCursor
    rw [String.toList_append, String.toList_append, String.toList_append, append_assoc,
      append_assoc]
    rfl
  unfold parseRecoveryCursor
  rw [parts, partition_found (by decide)]
  simp only []
  rw [partition_found (notMem_digits (by decide) lineNumber)]
  simp only [if_neg (toString_toList_ne_nil lineNumber), naturalOfText_toString reads]
  rfl

theorem awaitsRecovery_lineCursor (lineNumber : Nat) :
    awaitsRecovery (lineCursor lineNumber) = true := by
  unfold awaitsRecovery lineCursor
  exact isPrefixOf_iff_prefix.mpr ⟨'@' :: (toString lineNumber).toList, by simp⟩

theorem awaitsRecovery_format (lineNumber byteOffset : Nat) :
    awaitsRecovery (formatRecoveryCursor lineNumber byteOffset) = true := by
  unfold awaitsRecovery formatRecoveryCursor
  exact isPrefixOf_iff_prefix.mpr
    ⟨'@' :: ((toString lineNumber).toList ++ ':' :: (toString byteOffset).toList), by simp⟩

/-! ## Positions in a file -/

/-- The offset behind the first lines of a file. -/
def offsetAt (content : List UInt8) (lineNumber : Nat) : Nat :=
  ((rawLines content).take lineNumber).flatten.length

/-- A cursor with an offset denotes a position: the offset is the one behind its line. -/
def Denotes (content : List UInt8) (cursor : Nat × Option Nat) : Prop :=
  ∀ offset, cursor.2 = some offset →
    cursor.1 ≤ (rawLines content).length ∧ offset = offsetAt content cursor.1

theorem seekRecoveryCursor_eq {content : List UInt8} {cursor : Nat × Option Nat}
    (denotes : Denotes content cursor) : seekRecoveryCursor content cursor =
      (min cursor.1 (rawLines content).length, offsetAt content cursor.1) := by
  unfold seekRecoveryCursor
  cases behind : cursor.2 with
  | none => rfl
  | some offset =>
    obtain ⟨inside, same⟩ := denotes offset behind
    simp only []
    split
    · rw [same, Nat.min_eq_left inside]
    · rfl

theorem drop_offsetAt (content : List UInt8) (lineNumber : Nat) :
    content.drop (offsetAt content lineNumber) = ((rawLines content).drop lineNumber).flatten := by
  have parts : ((rawLines content).take lineNumber).flatten ++
      ((rawLines content).drop lineNumber).flatten = content := by
    rw [← flatten_append, take_append_drop, flatten_rawLines]
  have dropped : (((rawLines content).take lineNumber).flatten ++
      ((rawLines content).drop lineNumber).flatten).drop (offsetAt content lineNumber) =
        ((rawLines content).drop lineNumber).flatten := drop_left
  rw [parts] at dropped
  exact dropped

theorem rawLines_drop_offsetAt (content : List UInt8) (lineNumber : Nat) :
    rawLines (content.drop (offsetAt content lineNumber)) = (rawLines content).drop lineNumber := by
  rw [drop_offsetAt]
  exact rawLines_flatten ((areLines_rawLines content).sublist (drop_sublist ..))

/-- The offset reaches the end of the file exactly behind its last line. -/
theorem length_le_offsetAt_iff (content : List UInt8) (lineNumber : Nat) :
    content.length ≤ offsetAt content lineNumber ↔ (rawLines content).drop lineNumber = [] := by
  rw [← rawLines_drop_offsetAt, ← drop_eq_nil_iff]
  constructor
  · intro empty
    rw [empty]
    rfl
  · intro empty
    have joined := flatten_rawLines (content.drop (offsetAt content lineNumber))
    rw [empty] at joined
    exact joined.symm

theorem offsetAt_succ {content line : List UInt8} {rest : List (List UInt8)} {lineNumber : Nat}
    (next : (rawLines content).drop lineNumber = line :: rest) :
    offsetAt content (lineNumber + 1) = offsetAt content lineNumber + line.length ∧
      (rawLines content).drop (lineNumber + 1) = rest := by
  have taken : (rawLines content).take (lineNumber + 1) =
      (rawLines content).take lineNumber ++ [line] := by
    rw [take_add, next]
    rfl
  constructor
  · rw [offsetAt, taken]
    simp [offsetAt]
  · rw [← drop_drop, next]
    rfl

end NetConsole.Syslog
