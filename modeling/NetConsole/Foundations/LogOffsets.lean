import NetConsole.Foundations.TextStream

/-!
# Offsets into a log

A log is read line by line, from its beginning or from an offset. The items of a log are
what its lines say, the unfinished last line among them.

An offset splits a log when the items behind it are the items of the rest of the text
(`Splits`). The end of every line that is read splits the log (`readLines_cases`), and
keeps splitting it while the log grows, provided that an unfinished line is ended before
anything else is written (`Splits.append`).
-/

set_option autoImplicit false

namespace NetConsole.Foundations

open List

variable {Symbol Item : Type} [DecidableEq Symbol]

/-! ## Items -/

section Items

variable (newline : Symbol) (decode : List Symbol → Option Item)

/-- What the lines of a log say. -/
def logItems (file : List Symbol) : List Item :=
  (frames newline file).1.filterMap decode ++ (decode (frames newline file).2).toList

/-- What is written next does not go on with an unfinished line. -/
def EndsLine (file rest : List Symbol) : Prop :=
  (frames newline file).2 = [] ∨ rest = [] ∨ rest.head? = some newline

variable {newline decode}

theorem logItems_nil (blank : decode [] = none) : logItems newline decode [] = [] := by
  unfold logItems
  rw [frames_nil, blank]
  rfl

theorem logItems_line {line : List Symbol} (free : newline ∉ line) (rest : List Symbol) :
    logItems newline decode (line ++ newline :: rest) =
      (decode line).toList ++ logItems newline decode rest := by
  unfold logItems
  rw [frames_free_append free, frames_delimiter]
  dsimp only
  rw [append_nil, filterMap_cons]
  cases decode line <;> rfl

theorem logItems_unfinished {line : List Symbol} (free : newline ∉ line) :
    logItems newline decode line = (decode line).toList := by
  unfold logItems
  rw [frames_of_free free]
  rfl

theorem logItems_append (blank : decode [] = none) {file rest : List Symbol}
    (ends : EndsLine newline file rest) : logItems newline decode (file ++ rest) =
      logItems newline decode file ++ logItems newline decode rest := by
  have parts : logItems newline decode (file ++ rest) = (frames newline file).1.filterMap decode ++
        logItems newline decode ((frames newline file).2 ++ rest) := by
    unfold logItems
    rw [frames_append]
    rw [filterMap_append, append_assoc]
  rw [parts]
  rcases ends with complete | rfl | starts
  · rw [complete, nil_append]
    unfold logItems
    rw [complete, blank]
    simp
  · rw [append_nil, logItems_unfinished (delimiter_not_mem_remainder file),
      logItems_nil blank, append_nil]
    rfl
  · obtain ⟨tail, rfl⟩ : ∃ tail, rest = newline :: tail := by
      cases rest with
      | nil => cases starts
      | cons symbol tail => exact ⟨tail, congrArg (· :: tail) (Option.some.inj starts)⟩
    have first : logItems newline decode (newline :: tail) = logItems newline decode tail := by
      have line : logItems newline decode ([] ++ newline :: tail) =
          (decode []).toList ++ logItems newline decode tail :=
        logItems_line not_mem_nil tail
      rw [blank] at line
      exact line
    rw [logItems_line (delimiter_not_mem_remainder file), first, ← append_assoc]
    rfl

end Items

/-- A text without a whole line is an unfinished line. -/
theorem remainder_of_no_lines {newline : Symbol} {text remainder : List Symbol}
    (framed : frames newline text = ([], remainder)) : remainder = text := by
  induction text generalizing remainder with
  | nil => exact (Prod.mk.inj framed).2.symm
  | cons symbol rest ih =>
    rw [frames] at framed
    split at framed
    · cases framed
    · cases found : frames newline rest with
      | mk lines last =>
        rw [found] at framed
        cases lines with
        | nil =>
          rw [ih found] at framed
          exact (Prod.mk.inj framed).2.symm
        | cons line lines => cases framed

/-! ## Reading from an offset -/

section Offsets

variable (newline : Symbol)

/-- Lines, each with the offset behind it. -/
def lineEnds : Nat → List (List Symbol) → List Symbol → List (List Symbol × Nat)
  | _, [], [] => []
  | start, [], symbol :: rest => [(symbol :: rest, start + (symbol :: rest).length)]
  | start, line :: lines, remainder =>
    (line, start + line.length + 1) :: lineEnds (start + line.length + 1) lines remainder

/-- The lines behind an offset, as `readline` and `tell` give them. -/
def readLines (file : List Symbol) (start : Nat) : List (List Symbol × Nat) :=
  lineEnds start (frames newline (file.drop start)).1 (frames newline (file.drop start)).2

variable (decode : List Symbol → Option Item)

/-- The items are those before an offset and those of the rest. -/
structure Splits (file : List Symbol) (offset : Nat) (before : List Item) : Prop where
  within : offset ≤ file.length
  items : logItems newline decode file = before ++ logItems newline decode (file.drop offset)

variable {newline decode}

theorem Splits.start (file : List Symbol) : Splits newline decode file 0 [] :=
  ⟨Nat.zero_le _, rfl⟩

theorem endsLine_drop {file rest : List Symbol} (ends : EndsLine newline file rest)
    (offset : Nat) : EndsLine newline (file.drop offset) rest := by
  refine ends.imp ?_ id
  intro complete
  have whole : (frames newline (file.take offset ++ file.drop offset)).2 = [] := by
    rw [take_append_drop]
    exact complete
  rw [frames_append] at whole
  have free : newline ∉ (frames newline (file.take offset)).2 :=
    delimiter_not_mem_remainder (file.take offset)
  rw [frames_free_append free] at whole
  cases found : frames newline (file.drop offset) with
  | mk lines remainder =>
    rw [found] at whole
    cases lines with
    | nil => exact (append_eq_nil_iff.mp whole).2
    | cons line lines => exact whole

/-- An offset splits a log also when the log has grown. -/
theorem Splits.append (blank : decode [] = none) {file rest : List Symbol} {offset : Nat}
    {before : List Item} (splits : Splits newline decode file offset before)
    (ends : EndsLine newline file rest) : Splits newline decode (file ++ rest) offset before where
  within := by
    rw [length_append]
    exact Nat.le_add_right_of_le splits.within
  items := by
    rw [logItems_append blank ends, splits.items, drop_append_of_le_length splits.within,
      logItems_append blank (endsLine_drop ends offset), append_assoc]

/-- Reading stops at the end of the log, or goes on behind a line, whose end splits it. -/
theorem readLines_cases (blank : decode [] = none) (file : List Symbol) (start : Nat) :
    (readLines newline file start = [] ∧ logItems newline decode (file.drop start) = []) ∨
      ∃ line next, readLines newline file start = (line, next) :: readLines newline file next ∧
        logItems newline decode (file.drop start) =
          (decode line).toList ++ logItems newline decode (file.drop next) ∧
        (start ≤ file.length → next ≤ file.length) := by
  unfold readLines
  cases found : frames newline (file.drop start) with
  | mk lines remainder =>
    cases lines with
    | nil =>
      cases remainder with
      | nil =>
        refine .inl ⟨rfl, ?_⟩
        unfold logItems
        rw [found, blank]
        rfl
      | cons symbol rest =>
        right
        have whole : symbol :: rest = file.drop start := remainder_of_no_lines found
        have behind : file.drop (start + (symbol :: rest).length) = [] := by
          rw [whole, length_drop]
          exact drop_eq_nil_of_le (by omega)
        refine ⟨symbol :: rest, start + (symbol :: rest).length, ?_, ?_, ?_⟩
        · rw [behind]
          rfl
        · rw [behind, logItems_nil blank, append_nil, ← whole]
          apply logItems_unfinished
          have free : newline ∉ (frames newline (file.drop start)).2 :=
            delimiter_not_mem_remainder (file.drop start)
          rw [found] at free
          exact free
        · intro inside
          have size := congrArg List.length whole
          rw [length_drop] at size
          omega
    | cons line lines =>
      right
      obtain ⟨rest, cut, free, framed⟩ := frames_cons_cut found
      have behind : file.drop (start + line.length + 1) = rest := by
        rw [Nat.add_assoc, ← drop_drop, cut, ← drop_drop, drop_left]
        rfl
      refine ⟨line, start + line.length + 1, ?_, ?_, ?_⟩
      · rw [behind, framed]
        rfl
      · rw [behind, cut]
        exact logItems_line free rest
      · intro inside
        have size := congrArg List.length cut
        rw [length_drop, length_append, length_cons] at size
        omega

end Offsets

end NetConsole.Foundations
