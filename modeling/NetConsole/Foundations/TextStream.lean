import Mathlib.Data.List.DropRight

/-!
# Text streams cut into chunks

A byte stream that arrives in chunks is decoded by a machine that keeps the
unfinished character between chunks, and its text is framed by a delimiter, the
unfinished frame being kept between chunks as well.

`decode` is the strict UTF-8 machine: it refuses a byte as soon as no encoded
text starts with the bytes up to it. `frames` returns the finished frames and
the remainder. Both commute with cutting (`decode_append`, `frames_append`):
feeding one chunk after another is feeding the concatenation, as long as
nothing else looks at the state in between.
-/

set_option autoImplicit false

namespace NetConsole.Foundations

open List Option

/-! ## The strict UTF-8 machine -/

/-- The bytes still owed to the current character, the bounds of the next one,
and the value of the character so far. -/
structure Utf8State where
  (owed least greatest value : Nat)
  deriving DecidableEq

/-- Between two characters. -/
def Utf8State.start : Utf8State := ⟨0, 0, 0, 0⟩

/-- The state after the first byte of a character. -/
def firstByte (byte : Nat) : Option (Utf8State × List Char) :=
  if byte < 0x80 then some (.start, [Char.ofNat byte])
  else if byte < 0xC2 then none
  else if byte < 0xE0 then some (⟨1, 0x80, 0xBF, byte - 0xC0⟩, [])
  else if byte = 0xE0 then some (⟨2, 0xA0, 0xBF, 0⟩, [])
  else if byte = 0xED then some (⟨2, 0x80, 0x9F, 0xD⟩, [])
  else if byte < 0xF0 then some (⟨2, 0x80, 0xBF, byte - 0xE0⟩, [])
  else if byte = 0xF0 then some (⟨3, 0x90, 0xBF, 0⟩, [])
  else if byte < 0xF4 then some (⟨3, 0x80, 0xBF, byte - 0xF0⟩, [])
  else if byte = 0xF4 then some (⟨3, 0x80, 0x8F, 4⟩, [])
  else none

/-- The state after a continuation byte. -/
def nextByte (state : Utf8State) (byte : Nat) : Option (Utf8State × List Char) :=
  if state.least ≤ byte ∧ byte ≤ state.greatest then
    if state.owed = 1 then some (.start, [Char.ofNat (state.value * 64 + (byte - 0x80))])
    else some (⟨state.owed - 1, 0x80, 0xBF, state.value * 64 + (byte - 0x80)⟩, [])
  else none

/-- One byte; `none` when the byte is refused. -/
def decodeByte (state : Utf8State) (byte : UInt8) : Option (Utf8State × List Char) :=
  if state.owed = 0 then firstByte byte.toNat else nextByte state byte.toNat

/-- The bytes of one chunk. -/
def decode (state : Utf8State) : List UInt8 → Option (Utf8State × List Char)
  | [] => some (state, [])
  | byte :: rest =>
    (decodeByte state byte).bind fun (next, output) =>
      (decode next rest).map fun (last, more) => (last, output ++ more)

@[simp] theorem decode_nil (state : Utf8State) : decode state [] = some (state, []) := rfl

theorem decode_append (state : Utf8State) (first second : List UInt8) :
    decode state (first ++ second) = (decode state first).bind fun (next, output) =>
        (decode next second).map fun (last, more) => (last, output ++ more) := by
  induction first generalizing state with
  | nil => simp
  | cons byte rest ih =>
    simp only [cons_append, decode]
    cases decodeByte state byte with
    | none => rfl
    | some step =>
      obtain ⟨next, output⟩ := step
      simp only [bind_some, ih]
      cases decode next rest with
      | none => rfl
      | some tail =>
        simp [Function.comp_def]

variable {state last : Utf8State} {second first : List UInt8}

theorem decode_cut {text : List Char} (decoded : decode state (first ++ second) = some (last, text))
    : ∃ next output more, decode state first = some (next, output) ∧
      decode next second = some (last, more) ∧ text = output ++ more := by
  rw [decode_append] at decoded
  obtain ⟨⟨next, output⟩, before, after⟩ := bind_eq_some_iff.mp decoded
  obtain ⟨⟨final, more⟩, rest, equal⟩ := map_eq_some_iff.mp after
  cases equal
  exact ⟨next, output, more, before, rest, rfl⟩

/-- A step that outputs at most one character, and only when the machine then is
between characters. -/
def EmitsAtBoundary (step : Option (Utf8State × List Char)) : Prop :=
  ∀ next output, step = some (next, output) →
    output = [] ∨ (next = .start ∧ ∃ char, output = [char])

theorem emits_silent (state : Utf8State) : EmitsAtBoundary (some (state, [])) := by
  intro next output equal
  cases equal
  exact .inl rfl

theorem emits_character (char : Char) : EmitsAtBoundary (some (.start, [char])) := by
  intro next output equal
  cases equal
  exact .inr ⟨rfl, char, rfl⟩

theorem emits_refused : EmitsAtBoundary none := by
  intro next output equal
  cases equal

/-- A byte that completes a character leaves the machine between characters. -/
theorem decodeByte_output (state : Utf8State) (byte : UInt8) :
    EmitsAtBoundary (decodeByte state byte) := by
  unfold decodeByte
  split
  · unfold firstByte
    split_ifs
    all_goals
      first
      | exact emits_silent _
      | exact emits_character _
      | exact emits_refused
  · unfold nextByte
    split_ifs
    · exact emits_character _
    · exact emits_silent _
    · exact emits_refused

theorem decode_cut_after {bytes : List UInt8} {before after : List Char} {char : Char}
    (decoded : decode state bytes = some (last, before ++ char :: after)) :
    ∃ first second, bytes = first ++ second ∧
      decode state first = some (.start, before ++ [char]) ∧
      decode .start second = some (last, after) := by
  induction bytes generalizing state before with
  | nil => simp at decoded
  | cons byte rest ih =>
    simp only [decode] at decoded
    obtain ⟨⟨_, _⟩, step, tail⟩ := bind_eq_some_iff.mp decoded
    obtain ⟨⟨final, more⟩, decodedRest, equal⟩ := map_eq_some_iff.mp tail
    simp only [Prod.mk.injEq] at equal
    obtain ⟨rfl, text⟩ := equal
    rcases decodeByte_output state byte _ _ step with rfl | ⟨rfl, symbol, rfl⟩
    · obtain ⟨first, second, cut, decodedFirst, decodedSecond⟩ :=
        ih (by rw [decodedRest, ← text]; rfl)
      refine ⟨byte :: first, second, by simp [cut], ?_, decodedSecond⟩
      simp [decode, step, decodedFirst]
    · cases before with
      | nil =>
        simp only [singleton_append, nil_append, List.cons.injEq] at text
        obtain ⟨rfl, rfl⟩ := text
        exact ⟨[byte], rest, rfl, by simp [decode, step], decodedRest⟩
      | cons head before =>
        simp only [cons_append, List.cons.injEq] at text
        obtain ⟨rfl, rfl⟩ := text
        obtain ⟨first, second, cut, decodedFirst, decodedSecond⟩ := ih decodedRest
        refine ⟨byte :: first, second, by simp [cut], ?_, decodedSecond⟩
        simp [decode, step, decodedFirst]

/-! ## Frames -/

section Frames

variable {Symbol : Type} [DecidableEq Symbol]

/-- The frames that a delimiter ends, and what follows the last delimiter. -/
def frames (delimiter : Symbol) : List Symbol → List (List Symbol) × List Symbol
  | [] => ([], [])
  | symbol :: rest =>
    if symbol = delimiter then ([] :: (frames delimiter rest).1, (frames delimiter rest).2)
    else
      match frames delimiter rest with
      | ([], remainder) => ([], symbol :: remainder)
      | (frame :: more, remainder) => ((symbol :: frame) :: more, remainder)

variable {delimiter : Symbol}

@[simp] theorem frames_nil : frames delimiter [] = ([], []) := rfl

theorem frames_delimiter (text : List Symbol) : frames delimiter (delimiter :: text) =
      ([] :: (frames delimiter text).1, (frames delimiter text).2) := by
  simp [frames]

theorem frames_append (first second : List Symbol) : frames delimiter (first ++ second) =
      ((frames delimiter first).1 ++ (frames delimiter ((frames delimiter first).2 ++ second)).1,
        (frames delimiter ((frames delimiter first).2 ++ second)).2) := by
  induction first with
  | nil => simp
  | cons symbol rest ih =>
    by_cases ends : symbol = delimiter
    · simp [frames, ends, ih]
    · simp only [cons_append, frames, ends]
      rw [ih]
      cases equal : frames delimiter rest with
      | mk lines remainder =>
        cases lines with
        | nil => simp [frames, ends]
        | cons line more => simp

theorem delimiter_not_mem_remainder (text : List Symbol) :
    delimiter ∉ (frames delimiter text).2 := by
  induction text with
  | nil => simp
  | cons symbol rest ih =>
    by_cases ends : symbol = delimiter
    · simpa [frames, ends] using ih
    · cases equal : frames delimiter rest with
      | mk lines remainder =>
        cases lines with
        | nil => simpa [frames, ends, equal, Ne.symm ends] using ih
        | cons line more => simpa [frames, ends, equal] using ih

variable {free : List Symbol}

theorem frames_free_append (none : delimiter ∉ free) (text : List Symbol) :
    frames delimiter (free ++ text) =
      match frames delimiter text with
      | ([], remainder) => ([], free ++ remainder)
      | (frame :: more, remainder) => ((free ++ frame) :: more, remainder) := by
  induction free with
  | nil =>
    simp only [nil_append]
    split <;> simp_all
  | cons symbol rest ih =>
    simp only [mem_cons, not_or] at none
    simp only [cons_append, frames, Ne.symm none.1, ih none.2]
    cases frames delimiter text with
    | mk lines remainder => cases lines <;> rfl

theorem frames_of_free (none : delimiter ∉ free) : frames delimiter free = ([], free) := by
  simpa using frames_free_append none []

variable {text remainder line : List Symbol} {after : List (List Symbol)}

theorem frames_cons_cut (framed : frames delimiter text = (line :: after, remainder)) :
    ∃ rest, text = line ++ delimiter :: rest ∧ delimiter ∉ line ∧
      frames delimiter rest = (after, remainder) := by
  induction text generalizing line with
  | nil => simp at framed
  | cons symbol text ih =>
    by_cases ends : symbol = delimiter
    · subst ends
      rw [frames_delimiter, Prod.mk.injEq, List.cons.injEq] at framed
      obtain ⟨⟨rfl, rfl⟩, rfl⟩ := framed
      exact ⟨text, rfl, by simp, rfl⟩
    · cases equal : frames delimiter text with
      | mk lines last =>
        cases lines with
        | nil => simp [frames, ends, equal] at framed
        | cons head more =>
          simp only [frames, ends, equal, if_false, Prod.mk.injEq] at framed
          obtain ⟨⟨rfl, rfl⟩, rfl⟩ := framed
          obtain ⟨rest, cut, free, framedRest⟩ := ih equal
          exact ⟨rest, by simp [cut], by simp [free, Ne.symm ends], framedRest⟩

theorem frames_cut_after {before : List (List Symbol)}
    (framed : frames delimiter text = (before ++ line :: after, remainder)) :
    ∃ first rest, text = first ++ delimiter :: rest ∧
      frames delimiter (first ++ [delimiter]) = (before ++ [line], []) ∧
      frames delimiter rest = (after, remainder) := by
  induction before generalizing text with
  | nil =>
    obtain ⟨rest, cut, free, framedRest⟩ := frames_cons_cut framed
    refine ⟨line, rest, cut, ?_, framedRest⟩
    rw [frames_free_append free]
    simp [frames_delimiter]
  | cons head before ih =>
    obtain ⟨rest, cut, free, framedRest⟩ := frames_cons_cut framed
    obtain ⟨first, last, cutRest, framedFirst, framedLast⟩ := ih framedRest
    refine ⟨head ++ delimiter :: first, last, by simp [cut, cutRest], ?_, framedLast⟩
    rw [append_assoc, frames_free_append free, cons_append, frames_delimiter, framedFirst]
    simp

theorem mem_iff_mem_frames {symbol : Symbol} (other : symbol ≠ delimiter) : symbol ∈ text ↔
      symbol ∈ (frames delimiter text).2 ∨ ∃ frame ∈ (frames delimiter text).1, symbol ∈ frame := by
  induction text with
  | nil => simp
  | cons head rest ih =>
    by_cases ends : head = delimiter
    · subst ends
      simp [frames_delimiter, ih, other]
    · cases equal : frames delimiter rest with
      | mk lines remainder =>
        rw [equal] at ih
        cases lines with
        | nil => simp_all [frames]
        | cons line more =>
          simp only [frames, ends, equal, if_false, mem_cons, ih, exists_eq_or_imp]
          constructor
          · rintro (rfl | inRemainder | inLine | inMore)
            · exact .inr (.inl (.inl rfl))
            · exact .inl inRemainder
            · exact .inr (.inl (.inr inLine))
            · exact .inr (.inr inMore)
          · rintro (inRemainder | (rfl | inLine) | inMore)
            · exact .inr (.inl inRemainder)
            · exact .inl rfl
            · exact .inr (.inr (.inl inLine))
            · exact .inr (.inr (.inr inMore))

end Frames

end NetConsole.Foundations
