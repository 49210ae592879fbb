import Mathlib.Data.List.Basic

/-!
# The lexemes of JSON

What an encoder that keeps to ASCII writes for a text and for an integer, and
the scanner that reads such lexemes back. A scanner returns what it read and the
characters behind it.

A text comes back for every text (`scanText_textLiteral`): a character is
written as itself, as a short escape, as one `\u` escape or as a pair of them. A
number comes back in front of anything that ends a value (`scanNumber_append`),
an integer with its value (`scanNumber_integerText`). Everything written is
printable ASCII.
-/

set_option autoImplicit false

namespace NetConsole.Foundations

open List

/-- The printable ASCII characters. -/
def IsPrintable (char : Char) : Prop := ' ' ≤ char ∧ char ≤ '~'

instance (char : Char) : Decidable (IsPrintable char) :=
  inferInstanceAs (Decidable (_ ∧ _))

/-! ## Hexadecimal escapes -/

/-- The value of a hexadecimal digit. -/
def hexValue (char : Char) : Option Nat :=
  if '0' ≤ char ∧ char ≤ '9' then some (char.toNat - 48)
  else if 'a' ≤ char ∧ char ≤ 'f' then some (char.toNat - 87)
  else if 'A' ≤ char ∧ char ≤ 'F' then some (char.toNat - 55)
  else none

/-- Four hexadecimal digits. -/
def hexFour (code : Nat) : List Char :=
  [Nat.digitChar (code / 4096 % 16), Nat.digitChar (code / 256 % 16),
    Nat.digitChar (code / 16 % 16), Nat.digitChar (code % 16)]

/-- Read four hexadecimal digits. -/
def scanHexFour : List Char → Option (Nat × List Char)
  | first :: second :: third :: fourth :: rest => do
    let first ← hexValue first
    let second ← hexValue second
    let third ← hexValue third
    let fourth ← hexValue fourth
    return (((first * 16 + second) * 16 + third) * 16 + fourth, rest)
  | _ => none

theorem hexValue_digitChar : ∀ digit < 16, hexValue (Nat.digitChar digit) = some digit := by
  decide

theorem printable_digitChar : ∀ digit < 16, IsPrintable (Nat.digitChar digit) := by
  decide

variable {code : Nat}

theorem scanHexFour_hexFour (small : code < 65536) (rest : List Char) :
    scanHexFour (hexFour code ++ rest) = some (code, rest) := by
  have sum : ((code / 4096 % 16 * 16 + code / 256 % 16) * 16 + code / 16 % 16) * 16 + code % 16 =
      code := by omega
  simp only [hexFour, cons_append, scanHexFour]
  rw [hexValue_digitChar _ (by omega), hexValue_digitChar _ (by omega),
    hexValue_digitChar _ (by omega), hexValue_digitChar _ (by omega)]
  simp [sum]

variable {char : Char}

theorem printable_hexFour (mem : char ∈ hexFour code) : IsPrintable char := by
  simp only [hexFour, mem_cons, not_mem_nil, or_false] at mem
  rcases mem with rfl | rfl | rfl | rfl
  all_goals exact printable_digitChar _ (by omega)

/-! ## Texts -/

/-- Why a scanner refuses a text literal. -/
inductive ScanError where
  | malformed | loneSurrogate
  deriving DecidableEq

def escapeUnicode (code : Nat) : List Char := '\\' :: 'u' :: hexFour code

/-- What stands for a character inside a text literal. -/
def escapeCharacter (char : Char) : List Char :=
  if char = '"' then ['\\', '"']
  else if char = '\\' then ['\\', '\\']
  else if char = '\n' then ['\\', 'n']
  else if char = '\r' then ['\\', 'r']
  else if char = '\t' then ['\\', 't']
  else if char = '\x0c' then ['\\', 'f']
  else if char = '\x08' then ['\\', 'b']
  else if IsPrintable char then [char]
  else if char.toNat < 0x10000 then escapeUnicode char.toNat
  else
    escapeUnicode (0xD800 + (char.toNat - 0x10000) / 1024) ++
      escapeUnicode (0xDC00 + (char.toNat - 0x10000) % 1024)

def textLiteral (text : List Char) : List Char := '"' :: (text.flatMap escapeCharacter ++ ['"'])

/-- The character of a `\u` escape, whose first two characters are read. A
surrogate stands for a character only together with a second escape. -/
def scanUnicode (text : List Char) : Except ScanError (Char × List Char) :=
  match scanHexFour text with
  | none => .error .malformed
  | some (code, rest) =>
    if 0xD800 ≤ code ∧ code < 0xDC00 then
      match rest with
      | '\\' :: 'u' :: more =>
        match scanHexFour more with
        | none => .error .malformed
        | some (low, rest) =>
          if 0xDC00 ≤ low ∧ low < 0xE000 then
            .ok (Char.ofNat (0x10000 + (code - 0xD800) * 1024 + (low - 0xDC00)), rest)
          else .error .loneSurrogate
      | _ => .error .loneSurrogate
    else if 0xDC00 ≤ code ∧ code < 0xE000 then .error .loneSurrogate
    else .ok (Char.ofNat code, rest)

/-- The character of an escape, whose backslash is read. -/
def scanEscape : List Char → Except ScanError (Char × List Char)
  | '"' :: rest => .ok ('"', rest)
  | '\\' :: rest => .ok ('\\', rest)
  | '/' :: rest => .ok ('/', rest)
  | 'b' :: rest => .ok ('\x08', rest)
  | 'f' :: rest => .ok ('\x0c', rest)
  | 'n' :: rest => .ok ('\n', rest)
  | 'r' :: rest => .ok ('\r', rest)
  | 't' :: rest => .ok ('\t', rest)
  | 'u' :: rest => scanUnicode rest
  | _ => .error .malformed

/-- One character of a text literal; a control character has to be escaped. -/
def scanCharacter : List Char → Except ScanError (Char × List Char)
  | [] => .error .malformed
  | char :: rest =>
    if char = '\\' then scanEscape rest
    else if char.toNat < 0x20 then .error .malformed
    else .ok (char, rest)

/-- The text of a literal whose opening quote is read, and what follows its
closing quote. Every character takes a part of the text, so that its length is
fuel enough (`scanText_fuel`). -/
def scanText : Nat → List Char → Except ScanError (List Char × List Char)
  | 0, _ => .error .malformed
  | fuel + 1, text =>
    if text.head? = some '"' then .ok ([], text.tail)
    else do
      let (char, rest) ← scanCharacter text
      let (more, rest) ← scanText fuel rest
      return (char :: more, rest)

theorem scanUnicode_escape (small : code < 65536) (plain : ¬(0xD800 ≤ code ∧ code < 0xE000))
    (rest : List Char) : scanUnicode (hexFour code ++ rest) = .ok (Char.ofNat code, rest) := by
  simp only [scanUnicode, scanHexFour_hexFour small]
  rw [if_neg (by omega), if_neg (by omega)]

theorem scanUnicode_pair {high low : Nat} (isHigh : 0xD800 ≤ high ∧ high < 0xDC00)
    (isLow : 0xDC00 ≤ low ∧ low < 0xE000) (rest : List Char) :
    scanUnicode (hexFour high ++ (escapeUnicode low ++ rest)) =
      .ok (Char.ofNat (0x10000 + (high - 0xD800) * 1024 + (low - 0xDC00)), rest) := by
  simp only [scanUnicode, scanHexFour_hexFour (show high < 65536 by omega), if_pos isHigh,
    escapeUnicode, cons_append, scanHexFour_hexFour (show low < 65536 by omega), if_pos isLow]

variable (char : Char)

theorem toNat_not_surrogate :
    ¬(0xD800 ≤ char.toNat ∧ char.toNat < 0xE000) ∧ char.toNat < 0x110000 := by
  have valid : char.toNat < 0xD800 ∨
      0xDFFF < char.toNat ∧ char.toNat < 0x110000 := char.valid
  omega

theorem scanCharacter_escapeCharacter (rest : List Char) :
    scanCharacter (escapeCharacter char ++ rest) = .ok (char, rest) := by
  obtain ⟨plain, _⟩ := toNat_not_surrogate char
  unfold escapeCharacter
  split_ifs with quote backslash newline carriage tab formFeed backspace printable basic
  · subst quote; rfl
  · subst backslash; rfl
  · subst newline; rfl
  · subst carriage; rfl
  · subst tab; rfl
  · subst formFeed; rfl
  · subst backspace; rfl
  · have visible : ¬char.toNat < 0x20 := by
      have least : (' ' : Char).toNat ≤ char.toNat := printable.1
      have code : (' ' : Char).toNat = 0x20 := rfl
      omega
    simp [scanCharacter, backslash, visible]
  · simp only [escapeUnicode, cons_append, scanCharacter, if_true, scanEscape]
    rw [scanUnicode_escape basic plain, Char.ofNat_toNat]
  · have sum : 0x10000 + (0xD800 + (char.toNat - 0x10000) / 1024 - 0xD800) * 1024 +
        (0xDC00 + (char.toNat - 0x10000) % 1024 - 0xDC00) = char.toNat := by omega
    rw [escapeUnicode, append_assoc, cons_append, cons_append]
    simp only [scanCharacter, if_true, scanEscape]
    rw [scanUnicode_pair (by omega) (by omega), sum, Char.ofNat_toNat]

/-- No escape starts with a quote. -/
theorem head_escapeCharacter (rest : List Char) :
    (escapeCharacter char ++ rest).head? ≠ some '"' := by
  unfold escapeCharacter
  split_ifs with quote
  all_goals simp [escapeUnicode, quote]

theorem escapeCharacter_ne_nil : escapeCharacter char ≠ [] := by
  unfold escapeCharacter
  split_ifs
  all_goals simp [escapeUnicode]

theorem scanText_textLiteral (text rest : List Char) {fuel : Nat}
    (enough : (text.flatMap escapeCharacter).length < fuel) :
    scanText fuel (text.flatMap escapeCharacter ++ '"' :: rest) = .ok (text, rest) := by
  induction text generalizing fuel with
  | nil =>
    obtain ⟨fuel, rfl⟩ : ∃ less, fuel = less + 1 := ⟨fuel - 1, by omega⟩
    rfl
  | cons char text ih =>
    have used := length_pos_of_ne_nil (escapeCharacter_ne_nil char)
    simp only [flatMap_cons, length_append] at enough
    obtain ⟨fuel, rfl⟩ : ∃ less, fuel = less + 1 := ⟨fuel - 1, by omega⟩
    simp only [flatMap_cons, append_assoc, scanText, head_escapeCharacter,
      scanCharacter_escapeCharacter]
    have after : scanText fuel (text.flatMap escapeCharacter ++ '"' :: rest) = .ok (text, rest) :=
      ih (by omega)
    simp [bind, Except.bind, after]
    rfl

theorem printable_escapeCharacter {char written : Char}
    (mem : written ∈ escapeCharacter char) : IsPrintable written := by
  have escaped {code : Nat} (mem : written ∈ escapeUnicode code) : IsPrintable written := by
    simp only [escapeUnicode, mem_cons] at mem
    rcases mem with rfl | rfl | mem
    · decide
    · decide
    · exact printable_hexFour mem
  unfold escapeCharacter at mem
  split_ifs at mem with quote backslash newline carriage tab formFeed backspace printable basic
  iterate 7
    · simp only [mem_cons, not_mem_nil, or_false] at mem
      rcases mem with rfl | rfl
      all_goals decide
  · simp only [mem_singleton] at mem
    exact mem ▸ printable
  · exact escaped mem
  · rcases mem_append.mp mem with mem | mem
    · exact escaped mem
    · exact escaped mem

theorem printable_textLiteral {text : List Char} {written : Char}
    (mem : written ∈ textLiteral text) : IsPrintable written := by
  simp only [textLiteral, mem_cons, mem_append, mem_flatMap, not_mem_nil, or_false] at mem
  rcases mem with rfl | ⟨_, -, mem⟩ | rfl
  · decide
  · exact printable_escapeCharacter mem
  · decide

/-! ### Fuel -/

variable {text rest : List Char}

/-! ## Numbers -/

/-- The parts of a number: whether it has a minus sign, its whole digits, its
fraction with the point, and its exponent with the mark. -/
structure NumberText where
  negative : Bool
  (whole fraction exponent : List Char)
  deriving DecidableEq

/-- A number without a fraction and an exponent. -/
def NumberText.isInteger (number : NumberText) : Bool :=
  number.fraction.isEmpty && number.exponent.isEmpty

def NumberText.integer (number : NumberText) : Int :=
  if number.negative then -(Nat.ofDigitChars 10 number.whole 0 : Int)
  else Nat.ofDigitChars 10 number.whole 0

/-- The digits in front, and what follows them. -/
def scanDigits : List Char → List Char × List Char
  | [] => ([], [])
  | head :: rest =>
    if head.isDigit then (head :: (scanDigits rest).1, (scanDigits rest).2) else ([], head :: rest)

/-- The whole digits: a zero stands alone. -/
def scanWhole (text : List Char) : List Char × List Char :=
  if text.head? = some '0' then (['0'], text.tail) else scanDigits text

/-- The fraction; a point without a digit is none. -/
def scanFraction : List Char → List Char × List Char
  | [] => ([], [])
  | head :: rest =>
    if head = '.' ∧ (scanDigits rest).1 ≠ [] then
      (head :: (scanDigits rest).1, (scanDigits rest).2)
    else ([], head :: rest)

/-- The sign of an exponent. -/
def scanSign : List Char → List Char × List Char
  | [] => ([], [])
  | head :: rest => if head = '+' ∨ head = '-' then ([head], rest) else ([], head :: rest)

/-- The exponent; a mark without a digit is none. -/
def scanExponent : List Char → List Char × List Char
  | [] => ([], [])
  | head :: rest =>
    if (head = 'e' ∨ head = 'E') ∧ (scanDigits (scanSign rest).2).1 ≠ [] then
      (head :: ((scanSign rest).1 ++ (scanDigits (scanSign rest).2).1),
        (scanDigits (scanSign rest).2).2)
    else ([], head :: rest)

def scanMinus (text : List Char) : Bool × List Char :=
  if text.head? = some '-' then (true, text.tail) else (false, text)

/-- A number, as far as it goes. -/
def scanNumber (text : List Char) : Option (NumberText × List Char) :=
  let (negative, text) := scanMinus text
  let (whole, text) := scanWhole text
  if whole = [] then none
  else
    let (fraction, text) := scanFraction text
    let (exponent, text) := scanExponent text
    some (⟨negative, whole, fraction, exponent⟩, text)

/-- What may follow a value inside a document. -/
def EndsValue (rest : List Char) : Prop :=
  ∀ char ∈ rest.head?, char = ',' ∨ char = ']' ∨ char = '}'

theorem endsValue_nil : EndsValue [] := by
  intro _ mem
  cases mem

theorem endsValue_cons {char : Char} (ends : char = ',' ∨ char = ']' ∨
    char = '}') (rest : List Char) : EndsValue (char :: rest) := by
  intro head mem
  cases mem
  exact ends

/-- No part of a number starts with a character that ends a value. -/
theorem EndsValue.head {head : Char} {rest : List Char} (ends : EndsValue (head :: rest)) :
    head.isDigit = false ∧ head ≠ '.' ∧ head ≠ 'e' ∧ head ≠ 'E' ∧ head ≠ '+' ∧ head ≠ '-' := by
  rcases ends head rfl with rfl | rfl | rfl
  all_goals decide

section Append

variable {rest : List Char} (ends : EndsValue rest)
include ends

theorem scanDigits_append (text : List Char) :
    scanDigits (text ++ rest) = ((scanDigits text).1, (scanDigits text).2 ++ rest) := by
  induction text with
  | nil =>
    cases rest with
    | nil => rfl
    | cons head rest => simp [scanDigits, ends.head.1]
  | cons head text ih =>
    simp only [cons_append, scanDigits]
    split
    · simp [ih]
    · rfl

theorem scanWhole_append {text : List Char} (nonempty : text ≠ []) :
    scanWhole (text ++ rest) = ((scanWhole text).1, (scanWhole text).2 ++ rest) := by
  cases text with
  | nil => exact absurd rfl nonempty
  | cons head text =>
    by_cases zero : head = '0'
    · simp [scanWhole, zero]
    · simpa [scanWhole, zero] using scanDigits_append ends (head :: text)

theorem scanFraction_append (text : List Char) :
    scanFraction (text ++ rest) = ((scanFraction text).1, (scanFraction text).2 ++ rest) := by
  cases text with
  | nil =>
    cases rest with
    | nil => rfl
    | cons head rest => simp [scanFraction, ends.head.2.1]
  | cons head text =>
    simp only [cons_append, scanFraction, scanDigits_append ends]
    split <;> rfl

theorem scanSign_append (text : List Char) :
    scanSign (text ++ rest) = ((scanSign text).1, (scanSign text).2 ++ rest) := by
  cases text with
  | nil =>
    cases rest with
    | nil => rfl
    | cons head rest => simp [scanSign, ends.head]
  | cons head text =>
    simp only [cons_append, scanSign]
    split <;> rfl

theorem scanExponent_append (text : List Char) :
    scanExponent (text ++ rest) = ((scanExponent text).1, (scanExponent text).2 ++ rest) := by
  cases text with
  | nil =>
    cases rest with
    | nil => rfl
    | cons head rest => simp [scanExponent, ends.head]
  | cons head text =>
    simp only [cons_append, scanExponent, scanSign_append ends, scanDigits_append ends]
    split <;> rfl

/-- A number is the same in front of anything that ends a value. -/
theorem scanNumber_append {text after : List Char} {number : NumberText}
    (scanned : scanNumber text = some (number, after)) :
    scanNumber (text ++ rest) = some (number, after ++ rest) := by
  have minus (nonempty : text ≠ []) :
      scanMinus (text ++ rest) = ((scanMinus text).1, (scanMinus text).2 ++ rest) := by
    cases text with
    | nil => exact absurd rfl nonempty
    | cons head text => by_cases sign : head = '-' <;> simp [scanMinus, sign]
  simp only [scanNumber] at scanned
  split_ifs at scanned with missing
  have unsigned : (scanMinus text).2 ≠ [] := by
    intro empty
    simp [empty, scanWhole, scanDigits] at missing
  have nonempty : text ≠ [] := by
    rintro rfl
    exact unsigned rfl
  simp only [scanNumber, minus nonempty, scanWhole_append ends unsigned, if_neg missing,
    scanFraction_append ends, scanExponent_append ends]
  cases scanned
  rfl

end Append

/-! ### The characters of a number -/

/-- A part of a number: what is read and what is left make up the text, and what
is read is printable. -/
structure IsPart (text : List Char) (scanned : List Char × List Char) : Prop where
  split : text = scanned.1 ++ scanned.2
  printable : ∀ char ∈ scanned.1, IsPrintable char

theorem printable_of_isDigit {char : Char} (digit : char.isDigit = true) :
    IsPrintable char := by
  simp only [Char.isDigit, Bool.and_eq_true, decide_eq_true_eq] at digit
  have least : (' ' : Char).val ≤ '0'.val := by decide
  have greatest : '9'.val ≤ ('~' : Char).val := by decide
  exact ⟨UInt32.le_trans least digit.1, UInt32.le_trans digit.2 greatest⟩

theorem isPart_nothing (text : List Char) : IsPart text ([], text) :=
  ⟨rfl, fun _ mem => nomatch mem⟩

variable {text : List Char}

theorem IsPart.cons {head : Char} {scanned : List Char × List Char} (printable : IsPrintable head)
    (part : IsPart text scanned) : IsPart (head :: text) (head :: scanned.1, scanned.2) where
  split := by rw [part.split]; rfl
  printable _ mem := by
    rcases mem_cons.mp mem with rfl | mem
    · exact printable
    · exact part.printable _ mem

theorem IsPart.append {first second : List Char × List Char} (part : IsPart text first)
    (next : IsPart first.2 second) : IsPart text (first.1 ++ second.1, second.2) where
  split := by rw [part.split, next.split, append_assoc]
  printable _ mem := by
    rcases mem_append.mp mem with mem | mem
    · exact part.printable _ mem
    · exact next.printable _ mem

theorem isPart_scanDigits (text : List Char) : IsPart text (scanDigits text) := by
  induction text with
  | nil => exact isPart_nothing []
  | cons head text ih =>
    simp only [scanDigits]
    split
    · next digit => exact ih.cons (printable_of_isDigit digit)
    · exact isPart_nothing _

theorem isPart_scanWhole (text : List Char) : IsPart text (scanWhole text) := by
  unfold scanWhole
  split
  · next zero =>
    obtain ⟨rest, rfl⟩ := List.head?_eq_some_iff.mp zero
    exact (isPart_nothing rest).cons (by decide)
  · exact isPart_scanDigits text

theorem isPart_scanFraction (text : List Char) : IsPart text (scanFraction text) := by
  cases text with
  | nil => exact isPart_nothing []
  | cons head text =>
    simp only [scanFraction]
    split
    · next point => exact (isPart_scanDigits text).cons (point.1 ▸ by decide)
    · exact isPart_nothing _

theorem isPart_scanSign (text : List Char) : IsPart text (scanSign text) := by
  cases text with
  | nil => exact isPart_nothing []
  | cons head text =>
    simp only [scanSign]
    split
    · next sign => exact (isPart_nothing text).cons (by rcases sign with rfl | rfl <;> decide)
    · exact isPart_nothing _

theorem isPart_scanExponent (text : List Char) : IsPart text (scanExponent text) := by
  cases text with
  | nil => exact isPart_nothing []
  | cons head text =>
    simp only [scanExponent]
    split
    · next mark =>
      exact ((isPart_scanSign text).append (isPart_scanDigits _)).cons
        (by rcases mark.1 with rfl | rfl <;> decide)
    · exact isPart_nothing _

variable {number : NumberText}

theorem printable_number (scanned : scanNumber text = some (number, [])) {char : Char}
    (mem : char ∈ text) : IsPrintable char := by
  simp only [scanNumber] at scanned
  split_ifs at scanned with missing
  have parts := ((isPart_scanWhole (scanMinus text).2).append (isPart_scanFraction _)).append
    (isPart_scanExponent _)
  have minus : char = '-' ∨ char ∈ (scanMinus text).2 := by
    unfold scanMinus
    split
    · next sign =>
      obtain ⟨_, rfl⟩ := List.head?_eq_some_iff.mp sign
      simpa using mem
    · exact .inr mem
  rcases minus with rfl | mem
  · decide
  · have nothing : (scanExponent (scanFraction (scanWhole (scanMinus text).2).2).2).2 = [] :=
      congrArg Prod.snd (Option.some.inj scanned)
    rw [parts.split] at mem
    simp only [nothing, append_nil] at mem
    exact parts.printable _ mem

/-- A number starts with a digit, behind a minus sign or not. -/
theorem scanNumber_head {text rest : List Char} (scanned : scanNumber text = some (number, rest)) :
    ∃ digit tail, digit.isDigit = true ∧ (text = digit :: tail ∨ text = '-' :: digit :: tail) := by
  simp only [scanNumber] at scanned
  split_ifs at scanned with missing
  have starts : ∃ digit tail, digit.isDigit = true ∧ (scanMinus text).2 = digit :: tail := by
    cases unsigned : (scanMinus text).2 with
    | nil => simp [unsigned, scanWhole, scanDigits] at missing
    | cons head tail =>
      refine ⟨head, tail, ?_, rfl⟩
      by_contra other
      have nonzero : head ≠ '0' := by
        rintro rfl
        exact other (by decide)
      simp [unsigned, scanWhole, scanDigits, nonzero, other] at missing
  obtain ⟨digit, tail, isDigit, unsigned⟩ := starts
  refine ⟨digit, tail, isDigit, ?_⟩
  unfold scanMinus at unsigned
  split at unsigned
  · next sign =>
    obtain ⟨_, rfl⟩ := List.head?_eq_some_iff.mp sign
    exact .inr (by rw [← unsigned]; rfl)
  · exact .inl unsigned

/-! ### Integers -/

/-- The decimal text of an integer. -/
def integerText (value : Int) : List Char :=
  if value < 0 then '-' :: Nat.toDigits 10 value.natAbs else Nat.toDigits 10 value.natAbs

theorem scanDigits_of_digits {digits : List Char}
    (all : ∀ char ∈ digits, char.isDigit = true) : scanDigits digits = (digits, []) := by
  induction digits with
  | nil => rfl
  | cons head rest ih =>
    have tail := ih fun _ mem => all _ (mem_cons_of_mem _ mem)
    simp [scanDigits, all head (by simp), tail]

/-- The decimal digits of a positive number start with no zero. -/
theorem head_toDigits (value : Nat) (positive : 0 < value) :
    (Nat.toDigits 10 value).head? ≠ some '0' := by
  induction value using Nat.strongRecOn with
  | ind value ih =>
    rw [Nat.toDigits_eq_if (by omega)]
    split
    · simp only [List.head?_cons, ne_eq, Option.some.injEq, Nat.digitChar_eq_zero]
      omega
    · have earlier := ih (value / 10) (by omega) (by omega)
      cases digits : Nat.toDigits 10 (value / 10) with
      | nil => exact absurd digits Nat.toDigits_ne_nil
      | cons head rest => simpa [digits] using earlier

theorem isDigit_toDigits (value : Nat) :
    ∀ char ∈ Nat.toDigits 10 value, char.isDigit = true := fun _ mem =>
  Nat.isDigit_of_mem_toDigits (by omega) (by omega) mem

theorem scanWhole_toDigits (value : Nat) :
    scanWhole (Nat.toDigits 10 value) = (Nat.toDigits 10 value, []) := by
  rcases Nat.eq_zero_or_pos value with rfl | positive
  · rfl
  · rw [scanWhole, if_neg (head_toDigits value positive)]
    exact scanDigits_of_digits (isDigit_toDigits value)

theorem scanNumber_integerText (value : Int) :
    ∃ number, scanNumber (integerText value) = some (number, []) ∧ number.isInteger = true ∧
      number.integer = value ∧ number.whole = Nat.toDigits 10 value.natAbs := by
  have digits := Nat.ofDigitChars_ten_toDigits (n := value.natAbs)
  by_cases negative : value < 0
  · refine ⟨⟨true, Nat.toDigits 10 value.natAbs, [], []⟩, ?_, rfl, ?_, rfl⟩
    · simp [integerText, negative, scanNumber, scanMinus, scanWhole_toDigits, scanFraction,
        scanExponent]
    · simp only [NumberText.integer, if_true, digits]
      omega
  · refine ⟨⟨false, Nat.toDigits 10 value.natAbs, [], []⟩, ?_, rfl, ?_, rfl⟩
    · have unsigned : (Nat.toDigits 10 value.natAbs).head? ≠ some '-' := by
        intro sign
        obtain ⟨_, equal⟩ := List.head?_eq_some_iff.mp sign
        have digit := isDigit_toDigits value.natAbs '-' (by simp [equal])
        exact absurd digit (by decide)
      simp [integerText, negative, scanNumber, scanMinus, unsigned, scanWhole_toDigits,
        scanFraction, scanExponent]
    · simp only [NumberText.integer, Bool.false_eq_true, if_false, digits]
      omega

end NetConsole.Foundations
