import NetConsole.MeshLog.LogParser

/-!
# Cleaning a configuration

`clean_config_for_diff` cuts the body out of the output of a device: from the first `#`
to the last `return` behind it, and where there is no such body, what the fallback keeps.
The two never meet: a text that the fallback has cleaned goes through the fallback again,
because its lines are some of the lines of a text without a body (`cleanConfig_lawful`).
-/

set_option autoImplicit false

namespace NetConsole.ConfigText

open MeshLog
open Syslog (isPythonSpace stripWhere)
open Worker (strip)
open List

/-- What the cleaning uses of the Python library; `isWord` is `\w`. -/
structure TextLibrary where
  casefold : Text → Text
  isWord : Char → Bool
  casefold_nil : casefold [] = []

variable (lib : TextLibrary)

/-! ## Lines -/

/-- `line.rstrip()`. -/
def rstrip (line : Text) : Text := line.rdropWhile isPythonSpace

/-- The line that opens a configuration. -/
def isStart (line : Text) : Bool := strip line = ['#']

/-- The line that closes a configuration. -/
def isReturn (line : Text) : Bool := lib.casefold (strip line) = "return".toList

/-- The commands that devices echo. -/
def configCommandEchoes : List Text :=
  ["display current-configuration".toList, "display saved-configuration".toList]

/-- A character that a small letter matches under `re.IGNORECASE`. -/
def sameLetter (letter char : Char) : Bool :=
  char = letter || char = letter.toUpper ||
    letter = 'i' && (char = 'İ' || char = 'ı') || letter = 's' && char = 'ſ'

/-- `re.match(word + r"\b", stripped, re.IGNORECASE)`. -/
def startsWord (stripped word : Text) : Bool :=
  word.length ≤ stripped.length && ((word.zip stripped).all fun pair => sameLetter pair.1 pair.2) &&
    (stripped.drop word.length).head?.all fun next => !lib.isWord next

/-- `_CONFIG_BODY_START_PATTERN`. -/
def startsBody (stripped : Text) : Bool :=
  stripped.head? = some '#' || ["version", "sysname", "vlan", "interface"].any fun word =>
    startsWord lib stripped word.toList

/-- One alternative of `_PROMPT_PATTERN`, on a text without blanks at its ends. -/
def isBracketed (opening closing : Char) : Text → Bool
  | first :: rest => first = opening && rest.getLast? = some closing && rest.dropLast ≠ [] &&
      rest.dropLast.all fun inner => inner ≠ opening && inner ≠ closing
  | [] => false

/-- The line is a prompt. -/
def isPrompt (stripped : Text) : Bool :=
  isBracketed '<' '>' stripped || isBracketed '[' ']' stripped

local instance lawfulText : LawfulBEq Text := inferInstance

/-- A blank line or the echo of a command. -/
def isSkipped (line : Text) : Bool :=
  strip line = [] || lib.casefold (strip line) ∈ configCommandEchoes

/-! ## The two strategies -/

def joinLines (lines : List Text) : Text := ['\n'].intercalate lines

/-- The lines from the first `#` to the last `return` behind it. -/
def framedBody (lines : List Text) : List Text :=
  (lines.dropWhile fun line => !isStart line).rdropWhile fun line => !isReturn lib line

/-- The loop of `_fallback_clean_config_output`: `body_lines` and `fallback_lines`. -/
def fallbackLines : Bool → List Text → List Text × List Text
  | _, [] => ([], [])
  | inBody, line :: rest =>
    if isSkipped lib line then fallbackLines inBody rest
    else if isPrompt (strip line) then
      if inBody then ([], []) else fallbackLines inBody rest
    else if !inBody && !startsBody lib (strip line) then
      let (body, fallback) := fallbackLines false rest
      (body, rstrip line :: fallback)
    else if isReturn lib line then ([rstrip line], [rstrip line])
    else
      let (body, fallback) := fallbackLines true rest
      (rstrip line :: body, rstrip line :: fallback)

/-- The lines that `_fallback_clean_config_output` joins. -/
def fallbackCleanConfigOutput (lines : List Text) : List Text :=
  let (body, fallback) := fallbackLines lib false lines
  if body ≠ [] then body else fallback

/-- The lines that `extract_h3c_configuration_body` joins. -/
def bodyLines (lines : List Text) : List Text :=
  if framedBody lib lines ≠ [] then (framedBody lib lines).map rstrip
  else fallbackCleanConfigOutput lib lines

/-- The lines of the normalised text. -/
def normalizedLines (text : Text) : List Text := splitLines (cleanDeviceText text)

/-- `clean_config_for_diff`, which is `extract_h3c_configuration_body`. -/
def cleanConfigForDiff (text : Text) : Text := joinLines (bodyLines lib (normalizedLines text))

/-- The text has a first line and the last one behind it. -/
def hasCompleteConfigBody (text : Text) : Bool :=
  ((normalizedLines text).dropWhile fun line => !isStart line).any (isReturn lib)

/-! ## Lines of a text -/

theorem rdropWhile_cons_of_neg {isEnd : Char → Bool} {first : Char} {rest : Text}
    (inside : isEnd first = false) :
    (first :: rest).rdropWhile isEnd = first :: rest.rdropWhile isEnd := by
  simp only [List.rdropWhile, reverse_cons, dropWhile_append]
  split
  · next none' => simp [List.isEmpty_iff.mp none', inside]
  · simp

variable {char : Char}

theorem plain_of_mem_pieces {isEnd : Char → Bool} {text line : Text}
    (isLine : line ∈ pieces isEnd text) (mem : char ∈ line.rdropWhile isEnd) :
    isEnd char = false := by
  induction text generalizing line with
  | nil => cases isLine
  | cons first rest ih =>
    rw [pieces] at isLine
    split at isLine
    · next ends =>
      rcases mem_cons.mp isLine with rfl | isLine
      · simp [rdropWhile_singleton, ends] at mem
      · exact ih isLine mem
    · next inside =>
      have inside : isEnd first = false := by simpa using inside
      split at isLine
      · rw [mem_singleton.mp isLine, rdropWhile_cons_of_neg inside] at mem
        simp_all
      · next equal =>
        rcases mem_cons.mp isLine with rfl | isLine
        · rw [rdropWhile_cons_of_neg inside] at mem
          rcases mem_cons.mp mem with rfl | mem
          · exact inside
          · exact ih (equal ▸ mem_cons_self) mem
        · exact ih (equal ▸ mem_cons_of_mem _ isLine) mem

theorem pieces_append {line more : Text} (plain : ∀ char ∈ line, isLineEnd char = false) :
    pieces isLineEnd (line ++ '\n' :: more) = (line ++ ['\n']) :: pieces isLineEnd more := by
  induction line with
  | nil => rfl
  | cons first rest ih =>
    obtain ⟨inside, plain⟩ := forall_mem_cons.mp plain
    simp [pieces, inside, ih plain]

theorem pieces_single {line : Text} (plain : ∀ char ∈ line, isLineEnd char = false)
    (some : line ≠ []) : pieces isLineEnd line = [line] := by
  induction line with
  | nil => exact absurd rfl some
  | cons first rest ih =>
    obtain ⟨inside, plain⟩ := forall_mem_cons.mp plain
    cases rest with
    | nil => simp [pieces]
    | cons second rest => rw [pieces, ih plain (by simp)]; simp [inside]

theorem mem_of_mem_joinCrlf {text : Text} (mem : char ∈ joinCrlf text) : char ∈ text := by
  fun_induction joinCrlf text with
  | case1 rest ih => grind
  | case2 first rest _ ih => grind
  | case3 => exact mem

theorem mem_cleanDeviceText {text : Text}
    (mem : char ∈ cleanDeviceText text) : char ≠ '\r' ∧ char ≠ '\ufeff' := by
  obtain ⟨_, there, rfl⟩ := mem_map.mp mem
  have taken := (mem_filter.mp (mem_of_mem_joinCrlf there)).2
  split
  · decide
  · next differs => exact ⟨differs, by simpa using taken⟩

/-- No character of the line ends a line or is taken out. -/
def IsPlain (line : Text) : Prop :=
  ∀ char ∈ line, isLineEnd char = false ∧ char ≠ '\ufeff'

section Joined

variable {lines : List Text} (plain : ∀ line ∈ lines, IsPlain line)
include plain

theorem of_mem_joinLines {char : Char} (mem : char ∈ joinLines lines) :
    char ≠ '\r' ∧ char ≠ '\ufeff' := by
  induction lines with
  | nil => cases mem
  | cons line rest ih =>
    obtain ⟨own, plain⟩ := forall_mem_cons.mp plain
    have ofLine : char ∈ line → char ≠ '\r' ∧ char ≠ '\ufeff' := by
      intro inLine
      refine ⟨?_, (own char inLine).2⟩
      rintro rfl
      exact absurd (own _ inLine).1 (by decide)
    cases rest with
    | nil => exact ofLine (by simpa [joinLines] using mem)
    | cons second rest =>
      rw [joinLines, intercalate_cons_cons, mem_append, mem_append] at mem
      rcases mem with (inLine | newline) | behind
      · exact ofLine inLine
      · rw [mem_singleton.mp newline]
        decide
      · exact ih plain behind

theorem cleanDeviceText_joinLines : cleanDeviceText (joinLines lines) = joinLines lines := by
  rw [cleanDeviceText_eq fun mem => (of_mem_joinLines plain mem).1 rfl, filter_eq_self]
  exact fun char mem => decide_eq_true (of_mem_joinLines plain mem).2

/-- Lines that were joined are split again, unless the last one is empty. -/
theorem splitLines_joinLines (last : lines.getLast? ≠ some []) :
    splitLines (joinLines lines) = lines := by
  rw [splitLines, joinCrlf_eq fun mem => (of_mem_joinLines plain mem).1 rfl]
  induction lines with
  | nil => rfl
  | cons line rest ih =>
    obtain ⟨own, plain⟩ := forall_mem_cons.mp plain
    have inside : ∀ char ∈ line, isLineEnd char = false := fun char mem =>
      (own char mem).1
    have whole : line.rdropWhile isLineEnd = line := by
      rw [rdropWhile_eq_self_iff]
      intro some
      simp [inside _ (getLast_mem some)]
    cases rest with
    | nil =>
      have some : line ≠ [] := by simpa using last
      simp [joinLines, pieces_single inside some, whole]
    | cons second rest =>
      have later := ih plain (by simpa using last)
      rw [joinLines, intercalate_cons_cons, append_assoc, singleton_append,
        pieces_append inside, map_cons, rdropWhile_concat_pos _ _ _ (by decide), whole]
      exact congrArg (line :: ·) later

end Joined

/-! ## Stripped lines -/

variable {lib} {line : Text} {lines kept : List Text}

@[simp] theorem rstrip_rstrip : rstrip (rstrip line) = rstrip line := rdropWhile_idempotent _ _

@[simp] theorem strip_rstrip : strip (rstrip line) = strip line := by
  induction line using List.reverseRecOn with
  | nil => rfl
  | append_singleton line last ih =>
    by_cases blank : isPythonSpace last
    · rw [rstrip, rdropWhile_concat_pos _ _ _ blank]
      refine ih.trans ?_
      simp only [strip, stripWhere, dropWhile_append]
      split
      · next none' => simp [List.isEmpty_iff.mp none', blank]
      · rw [rdropWhile_concat_pos _ _ _ blank]
    · rw [rstrip, rdropWhile_concat_neg _ _ _ blank]

theorem framedBody_rstrip :
    framedBody lib (lines.map rstrip) = (framedBody lib lines).map rstrip := by
  simp only [framedBody, List.rdropWhile, dropWhile_map, ← map_reverse]
  simp [Function.comp_def, isStart, isReturn]

theorem framedBody_starts : (framedBody lib lines).dropWhile (fun line => !isStart line) =
    framedBody lib lines := by
  rw [dropWhile_eq_self_iff]
  intro some
  have cut := rdropWhile_prefix (fun line => !isReturn lib line)
    (lines.dropWhile fun line => !isStart line)
  have more := some.trans_le cut.length_le
  have isFirst := dropWhile_get_zero_not (fun line => !isStart line) lines more
  exact (cut.getElem some).symm ▸ isFirst

theorem framedBody_framedBody : framedBody lib (framedBody lib lines) = framedBody lib lines := by
  rw [framedBody, framedBody_starts]
  exact rdropWhile_idempotent _ _

/-- There is a body exactly where there is a `return` behind a `#`. -/
theorem framedBody_ne_nil : framedBody lib lines ≠ [] ↔
    (lines.dropWhile fun line => !isStart line).any (isReturn lib) = true := by
  rw [framedBody, ne_eq, rdropWhile_eq_nil_iff, any_eq_true]
  simp

theorem any_dropWhile_of_sublist {start stop : Text → Bool} (sublist : kept.Sublist lines) :
    (kept.dropWhile start).any stop = true → (lines.dropWhile start).any stop = true := by
  induction sublist with
  | slnil => exact id
  | cons line _ ih =>
    intro found
    rw [dropWhile_cons]
    split
    · exact ih found
    · obtain ⟨other, mem, isStop⟩ := any_eq_true.mp (ih found)
      exact any_eq_true.mpr ⟨other, mem_cons_of_mem _ (dropWhile_subset _ mem), isStop⟩
  | cons_cons line sublist ih =>
    rw [dropWhile_cons, dropWhile_cons]
    split
    · exact ih
    · intro found
      obtain ⟨other, mem, isStop⟩ := any_eq_true.mp found
      exact any_eq_true.mpr ⟨other, (sublist.cons_cons line).subset mem, isStop⟩

/-! ## The fallback -/

/-- Some of the lines, in order, without blank ones and without blanks at their ends. -/
def IsKept (lines out : List Text) : Prop :=
  ∃ kept : List Text, kept.Sublist lines ∧ (∀ line ∈ kept, strip line ≠ []) ∧ out = kept.map rstrip

variable {out : List Text}

theorem IsKept.skip (isKept : IsKept lines out) : IsKept (line :: lines) out := by
  obtain ⟨kept, sublist, some, rfl⟩ := isKept
  exact ⟨kept, sublist.cons line, some, rfl⟩

theorem IsKept.keep (isKept : IsKept lines out) (some : ¬isSkipped lib line = true) :
    IsKept (line :: lines) (rstrip line :: out) := by
  obtain ⟨kept, sublist, others, rfl⟩ := isKept
  refine ⟨line :: kept, sublist.cons_cons line, forall_mem_cons.mpr ⟨?_, others⟩, rfl⟩
  intro blank
  exact some (by simp [isSkipped, blank])

theorem IsKept.nil : IsKept lines [] := ⟨[], nil_sublist _, by simp, rfl⟩

variable (lib lines) in
theorem fallbackLines_kept (inBody : Bool) : IsKept lines (fallbackLines lib inBody lines).1 ∧
      IsKept lines (fallbackLines lib inBody lines).2 := by
  fun_induction fallbackLines _ inBody lines with
  | case1 => exact ⟨.nil, .nil⟩
  | case2 inBody line rest skipped ih => exact ⟨ih.1.skip, ih.2.skip⟩
  | case3 => exact ⟨.nil, .nil⟩
  | case4 inBody line rest skipped prompt outside ih => exact ⟨ih.1.skip, ih.2.skip⟩
  | case5 inBody line rest skipped prompt before body fallback parts ih =>
    rw [parts] at ih
    exact ⟨ih.1.skip, ih.2.keep skipped⟩
  | case6 inBody line rest skipped => exact ⟨IsKept.nil.keep skipped, IsKept.nil.keep skipped⟩
  | case7 inBody line rest skipped prompt inside ends body fallback parts ih =>
    rw [parts] at ih
    exact ⟨ih.1.keep skipped, ih.2.keep skipped⟩

theorem isSkipped_rstrip : isSkipped lib (rstrip line) = isSkipped lib line := by
  simp [isSkipped]

theorem isReturn_rstrip : isReturn lib (rstrip line) = isReturn lib line := by
  simp [isReturn]

variable (lib lines) in
/-- The body of a body is that body. -/
theorem fallbackLines_body (inBody : Bool) :
    fallbackLines lib inBody (fallbackLines lib inBody lines).1 =
      ((fallbackLines lib inBody lines).1, (fallbackLines lib inBody lines).1) := by
  fun_induction fallbackLines _ inBody lines with
  | case1 => rfl
  | case2 inBody line rest skipped ih => exact ih
  | case3 => rfl
  | case4 inBody line rest skipped prompt outside ih => exact ih
  | case5 inBody line rest skipped prompt before body fallback parts ih =>
    rw [parts] at ih
    have outside : inBody = false := by simp_all
    exact outside ▸ ih
  | case6 inBody line rest skipped prompt inside ends =>
    simp [fallbackLines, isSkipped_rstrip, isReturn_rstrip, skipped, prompt, inside, ends]
  | case7 inBody line rest skipped prompt inside ends body fallback parts ih =>
    rw [parts] at ih
    simp [fallbackLines, isSkipped_rstrip, isReturn_rstrip, skipped, prompt, inside, ends, ih]

/-- Where no line starts a body, the fallback lines stay. -/
theorem fallbackLines_rest (none' : (fallbackLines lib false lines).1 = []) :
    fallbackLines lib false (fallbackLines lib false lines).2 =
      ([], (fallbackLines lib false lines).2) := by
  generalize isFalse : false = inBody at none' ⊢
  fun_induction fallbackLines _ inBody lines with
  | case1 => rfl
  | case2 inBody line rest skipped ih => exact ih isFalse none'
  | case3 => rfl
  | case4 inBody line rest skipped prompt outside ih => exact ih isFalse none'
  | case5 inBody line rest skipped prompt before body fallback parts ih =>
    rw [parts] at ih
    simp [fallbackLines, isSkipped_rstrip, skipped, prompt, before, ih rfl none']
  | case6 => cases none'
  | case7 => cases none'

/-! ## Cleaning twice -/

section Twice

variable (lib lines)

theorem fallbackCleanConfigOutput_kept : IsKept lines (fallbackCleanConfigOutput lib lines) := by
  obtain ⟨body, fallback⟩ := fallbackLines_kept _ lines false
  simp only [fallbackCleanConfigOutput]
  split
  · exact body
  · exact fallback

theorem fallbackCleanConfigOutput_again :
    fallbackCleanConfigOutput lib (fallbackCleanConfigOutput lib lines) =
      fallbackCleanConfigOutput lib lines := by
  by_cases none' : (fallbackLines lib false lines).1 = []
  · have rest := fallbackLines_rest none'
    simp [fallbackCleanConfigOutput, none', rest]
  · have body := fallbackLines_body lib lines false
    simp [fallbackCleanConfigOutput, none', body]

theorem bodyLines_again : bodyLines lib (bodyLines lib lines) = bodyLines lib lines := by
  by_cases framed : framedBody lib lines = []
  · obtain ⟨_, sublist, _, isOut⟩ := fallbackCleanConfigOutput_kept _ lines
    have still : framedBody lib (fallbackCleanConfigOutput lib lines) = [] := by
      rw [isOut, framedBody_rstrip, map_eq_nil_iff]
      by_contra found
      exact framedBody_ne_nil.mpr
        (any_dropWhile_of_sublist sublist (framedBody_ne_nil.mp found)) framed
    simp [bodyLines, framed, still, fallbackCleanConfigOutput_again]
  · have again : framedBody lib ((framedBody lib lines).map rstrip) =
        (framedBody lib lines).map rstrip := by
      rw [framedBody_rstrip, framedBody_framedBody]
    simp [bodyLines, framed, again]

theorem bodyLines_kept : ∃ kept : List Text, kept.Sublist lines ∧
    bodyLines lib lines = kept.map rstrip := by
  rw [bodyLines]
  split
  · exact ⟨_, (List.rdropWhile_prefix _ _).sublist.trans (dropWhile_sublist _), rfl⟩
  · obtain ⟨kept, sublist, _, isOut⟩ := fallbackCleanConfigOutput_kept _ lines
    exact ⟨kept, sublist, isOut⟩

end Twice

theorem framedBody_ends (framed : framedBody lib lines ≠ []) :
    ((bodyLines lib lines).head?.any isStart) = true ∧
      ((bodyLines lib lines).getLast?.any (isReturn lib)) = true := by
  have first := List.head?_dropWhile_not (fun line => !isStart line) (framedBody lib lines)
  have last : ¬(!isReturn lib ((framedBody lib lines).getLast framed)) = true :=
    rdropWhile_last_not _ _ framed
  rw [framedBody_starts] at first
  rw [bodyLines, if_pos framed, List.head?_map, List.getLast?_map,
    List.getLast?_eq_some_getLast framed]
  constructor
  · rw [List.head?_eq_some_head framed] at first ⊢
    simpa [isStart] using first
  · simpa [isReturn_rstrip] using last

theorem rstrip_eq_nil (blank : rstrip line = []) : strip line = [] := by
  rw [← strip_rstrip, blank]
  rfl

theorem bodyLines_last : (bodyLines lib lines).getLast? ≠ some [] := by
  intro empty
  by_cases framed : framedBody lib lines = []
  · obtain ⟨_, _, some, isOut⟩ := fallbackCleanConfigOutput_kept _ lines
    rw [bodyLines, if_neg (not_not.mpr framed), isOut] at empty
    obtain ⟨line, mem, blank⟩ := mem_map.mp (mem_of_getLast? empty)
    exact some line mem (rstrip_eq_nil blank)
  · have last := (framedBody_ends framed).2
    rw [empty] at last
    have isNil : strip [] = [] := rfl
    simp [isReturn, isNil, lib.casefold_nil] at last

theorem bodyLines_plain (text : Text) :
    ∀ line ∈ bodyLines lib (normalizedLines text), IsPlain line := by
  obtain ⟨_, sublist, isOut⟩ := bodyLines_kept _ (normalizedLines text)
  rw [isOut]
  intro line isLine char mem
  obtain ⟨_, isKept, rfl⟩ := mem_map.mp isLine
  have mem := (List.rdropWhile_prefix _ _).subset mem
  obtain ⟨_, isPiece, rfl⟩ := mem_map.mp (sublist.subset isKept)
  exact ⟨plain_of_mem_pieces isPiece mem, (mem_cleanDeviceText (mem_of_mem_joinCrlf
    (mem_of_mem_pieces isPiece ((List.rdropWhile_prefix _ _).subset mem)))).2⟩

/-- What the cleaning does to a text. -/
structure CleanConfig (lib : TextLibrary) (text : Text) : Prop where
  idempotent : cleanConfigForDiff lib (cleanConfigForDiff lib text) =
    cleanConfigForDiff lib text
  subsequence : ∃ kept : List Text, kept.Sublist (normalizedLines text) ∧
    splitLines (cleanConfigForDiff lib text) = kept.map rstrip
  complete : hasCompleteConfigBody lib text = true →
    (splitLines (cleanConfigForDiff lib text)).head?.any isStart = true ∧
      (splitLines (cleanConfigForDiff lib text)).getLast?.any (isReturn lib) = true

/-- Cleaning twice is cleaning once. What stays are lines of the text, and a complete configuration
keeps its first line and its last. -/
theorem cleanConfig_lawful (lib : TextLibrary) (text : Text) : CleanConfig lib text := by
  have split' : splitLines (cleanConfigForDiff lib text) = bodyLines lib (normalizedLines text) :=
    splitLines_joinLines (bodyLines_plain text) bodyLines_last
  have normalized : normalizedLines (cleanConfigForDiff lib text) =
      bodyLines lib (normalizedLines text) := by
    rw [normalizedLines, cleanConfigForDiff, cleanDeviceText_joinLines (bodyLines_plain text)]
    exact split'
  constructor
  · rw [cleanConfigForDiff, normalized, bodyLines_again]
    rfl
  · rw [split']
    exact bodyLines_kept lib _
  · rw [split']
    exact fun isComplete => framedBody_ends (framedBody_ne_nil.mpr isComplete)

end NetConsole.ConfigText
