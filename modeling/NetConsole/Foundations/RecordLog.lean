import NetConsole.Foundations.TextStream

/-!
# Logs of records, one to a line

A log file holds one encoded record to a line and only grows at its end. A write
that fails leaves a part of what it was to append, so the last line of a file may
be torn.

`LineCodec` says what an encoding must provide: a record is read back from its
own text, no proper part of that text reads as anything, and the text holds no
line end. A reader that also looks at the unfinished last line then sees, after
any part of an append, the records of before followed by the first of the new
ones (`read_append_part`), provided that the append ends a torn line first.
-/

set_option autoImplicit false

namespace NetConsole.Foundations

open List

/-- An encoding of records as lines, and what a reader sees of a line. -/
structure LineCodec (Record View Symbol : Type) where
  newline : Symbol
  encode : Record → List Symbol
  decode : List Symbol → Option View
  view : Record → View
  decode_encode : ∀ record, decode (encode record) = some (view record)
  decode_part : ∀ record part, part <+: encode record → part ≠ encode record → decode part = none
  newline_notMem : ∀ record, newline ∉ encode record
  decode_nil : decode [] = none

/-! ## The unfinished line -/

section Remainder

variable {Symbol : Type} [DecidableEq Symbol] {delimiter : Symbol}

theorem frames_free_delimiter {free : List Symbol} (none : delimiter ∉ free) (text : List Symbol) :
    frames delimiter (free ++ delimiter :: text) =
      (free :: (frames delimiter text).1, (frames delimiter text).2) := by
  rw [frames_free_append none, frames_delimiter]
  simp

theorem remainder_concat_delimiter (text : List Symbol) :
    (frames delimiter (text ++ [delimiter])).2 = [] := by
  rw [frames_append, frames_free_delimiter (delimiter_not_mem_remainder text)]
  rfl

theorem remainder_concat {symbol : Symbol} (other : symbol ≠ delimiter) (text : List Symbol) :
    (frames delimiter (text ++ [symbol])).2 = (frames delimiter text).2 ++ [symbol] := by
  have free : delimiter ∉ (frames delimiter text).2 ++ [symbol] := by
    simp [delimiter_not_mem_remainder, other.symm]
  rw [frames_append, frames_of_free free]

/-- Nothing follows the last delimiter exactly if the text ends with it. -/
theorem remainder_eq_nil_iff (text : List Symbol) :
    (frames delimiter text).2 = [] ↔ text = [] ∨ text.getLast? = some delimiter := by
  rcases eq_nil_or_concat text with rfl | ⟨_, last, rfl⟩
  · simp
  · by_cases ends : last = delimiter
    · subst ends
      simp [remainder_concat_delimiter]
    · simp [remainder_concat ends, ends]

end Remainder

namespace LineCodec

variable {Record View Symbol : Type} [DecidableEq Symbol] (codec : LineCodec Record View Symbol)

/-! ## What a file says -/

def lines : List Record → List Symbol
  | [] => []
  | record :: records => codec.encode record ++ codec.newline :: lines records

/-- What the complete lines say. -/
def complete (file : List Symbol) : List View :=
  (frames codec.newline file).1.filterMap codec.decode

/-- What the complete lines and the unfinished one say. -/
def read (file : List Symbol) : List View :=
  codec.complete file ++ (codec.decode (frames codec.newline file).2).toList

/-- The text that ends an unfinished line. -/
def separator (file : List Symbol) : List Symbol :=
  if (frames codec.newline file).2 = [] then [] else [codec.newline]

variable (file : List Symbol)

theorem complete_prefix_read : codec.complete file <+: codec.read file :=
  prefix_append _ _

@[simp] theorem read_nil : codec.read [] = [] := by
  simp [read, complete, codec.decode_nil]

/-! ## Appending -/

/-- A finished line says what it says; what follows is read by itself. -/
theorem read_line {line : List Symbol} (free : codec.newline ∉ line) (rest : List Symbol) :
    codec.read (line ++ codec.newline :: rest) = (codec.decode line).toList ++ codec.read rest := by
  simp only [read, complete, frames_free_delimiter free, filterMap_cons]
  cases codec.decode line <;> rfl

theorem read_unfinished {line : List Symbol} (free : codec.newline ∉ line) :
    codec.read line = (codec.decode line).toList := by
  simp [read, complete, frames_of_free free]

variable (records : List Record)

theorem read_lines : codec.read (codec.lines records) = records.map codec.view := by
  induction records with
  | nil => simp [lines]
  | cons record records ih =>
    rw [lines, codec.read_line (codec.newline_notMem record), codec.decode_encode, ih]
    rfl

theorem read_part {part : List Symbol} (cut : part <+: codec.lines records) :
    ∃ kept, kept <+: records ∧ codec.read part = kept.map codec.view := by
  induction records generalizing part with
  | nil =>
    obtain rfl := prefix_nil.mp cut
    exact ⟨[], nil_prefix, by simp⟩
  | cons record records ih =>
    rcases prefix_or_prefix_of_prefix cut (prefix_append _ _) with inside | ⟨more, rfl⟩
    · have free : codec.newline ∉ part :=
        fun mem => codec.newline_notMem record (inside.subset mem)
      rw [codec.read_unfinished free]
      by_cases whole : part = codec.encode record
      · subst whole
        exact ⟨[record], prefix_append [record] records, by simp [codec.decode_encode]⟩
      · exact ⟨[], nil_prefix, by simp [codec.decode_part record part inside whole]⟩
    · have after : more <+: codec.newline :: codec.lines records :=
        (prefix_append_right_inj _).mp cut
      cases more with
      | nil =>
        refine ⟨[record], prefix_append [record] records, ?_⟩
        simp [codec.read_unfinished (codec.newline_notMem record), codec.decode_encode]
      | cons symbol more =>
        obtain ⟨rfl, rest⟩ := cons_prefix_cons.mp after
        obtain ⟨kept, first, said⟩ := ih rest
        refine ⟨record :: kept, cons_prefix_cons.mpr ⟨rfl, first⟩, ?_⟩
        rw [codec.read_line (codec.newline_notMem record), codec.decode_encode, said]
        rfl

theorem read_append (file rest : List Symbol) : codec.read (file ++ rest) =
      codec.complete file ++ codec.read ((frames codec.newline file).2 ++ rest) := by
  simp only [read, complete]
  rw [frames_append]
  simp

theorem read_append_separator (file rest : List Symbol) :
    codec.read (file ++ (codec.separator file ++ rest)) = codec.read file ++ codec.read rest := by
  rw [codec.read_append]
  by_cases ended : (frames codec.newline file).2 = []
  · simp [separator, ended, read, codec.decode_nil]
  · rw [separator, if_neg ended, singleton_append,
      codec.read_line (delimiter_not_mem_remainder file)]
    simp [read]

theorem read_append_lines : codec.read (file ++ (codec.separator file ++ codec.lines records)) =
      codec.read file ++ records.map codec.view := by
  rw [codec.read_append_separator, codec.read_lines]

theorem read_append_part {part : List Symbol}
    (cut : part <+: codec.separator file ++ codec.lines records) : ∃ kept, kept <+: records ∧
      codec.read (file ++ part) = codec.read file ++ kept.map codec.view := by
  rcases prefix_or_prefix_of_prefix cut (prefix_append _ _) with inside | ⟨_, rfl⟩
  · rw [separator] at inside
    split at inside
    · obtain rfl := prefix_nil.mp inside
      exact ⟨[], nil_prefix, by simp⟩
    · next open' =>
      cases part with
      | nil => exact ⟨[], nil_prefix, by simp⟩
      | cons symbol part =>
        obtain ⟨rfl, rest⟩ := cons_prefix_cons.mp inside
        obtain rfl := prefix_nil.mp rest
        refine ⟨[], nil_prefix, ?_⟩
        have ended := codec.read_append_separator file []
        rw [separator, if_neg open'] at ended
        simpa using ended
  · obtain ⟨kept, first, said⟩ := codec.read_part records ((prefix_append_right_inj _).mp cut)
    exact ⟨kept, first, by rw [codec.read_append_separator, said]⟩

end LineCodec

end NetConsole.Foundations
