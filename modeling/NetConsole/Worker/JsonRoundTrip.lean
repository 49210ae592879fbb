import NetConsole.Worker.JsonText

/-!
# Reading back what was written

`loads (dumps value) = image value`, for every value that is written
(`loads_dumps`). The proof goes through the value: a text that stands for a part
is read back in front of anything that ends a value, with fuel that its length
bounds.
-/

set_option autoImplicit false

namespace NetConsole.Worker

open Foundations List

variable {floats : PythonFloats}

/-! ## Lexemes -/

theorem scanString_textLiteral (text rest : List Char) :
    scanString (text.flatMap escapeCharacter ++ '"' :: rest) = .ok (String.ofList text, rest) := by
  unfold scanString
  rw [scanText_textLiteral text rest (by simp)]

/-- The first character of a value: it is neither blank nor a closing bracket. -/
def StartsValue (text : List Char) : Prop :=
  ∃ head rest, text = head :: rest ∧ isBlank head = false ∧ head ≠ ']'

variable {text : List Char}

theorem StartsValue.append (starts : StartsValue text) (rest : List Char) :
    StartsValue (text ++ rest) := by
  obtain ⟨head, tail, rfl, visible, opens⟩ := starts
  exact ⟨head, tail ++ rest, rfl, visible, opens⟩

theorem StartsValue.skipBlank (starts : StartsValue text) : skipBlank text = text := by
  obtain ⟨_, _, rfl, visible, -⟩ := starts
  simp [Worker.skipBlank, visible]

theorem StartsValue.head (starts : StartsValue text) : text.head? ≠ some ']' := by
  obtain ⟨head, _, rfl, -, opens⟩ := starts
  simpa using opens

variable {fuel : Nat}

/-- A text that is no literal and opens nothing is a constant or a number. -/
theorem scanOnce_atom {head : Char} {rest : List Char}
    (plain : head ≠ '"' ∧ head ≠ '[' ∧ head ≠ '{') :
    scanOnce floats (fuel + 1) (head :: rest) = scanAtom floats (head :: rest) := by
  obtain ⟨quote, bracket, brace⟩ := plain
  unfold scanOnce
  split
  · next equal => exact absurd (List.cons.inj equal).1 quote
  · next equal => exact absurd (List.cons.inj equal).1 bracket
  · next equal => exact absurd (List.cons.inj equal).1 brace
  · rfl

variable {value : Json} {name : List Char}

theorem scanOnce_constant (mem : (name, value) ∈ constants) (fuel : Nat) (rest : List Char) :
    scanOnce floats (fuel + 1) (name ++ rest) = .ok (value, rest) := by
  simp only [constants, mem_cons, not_mem_nil, or_false] at mem
  rcases mem with ⟨rfl, rfl⟩ | ⟨rfl, rfl⟩ | ⟨rfl, rfl⟩ | ⟨rfl, rfl⟩ | ⟨rfl, rfl⟩ | ⟨rfl, rfl⟩
  all_goals
    exact (scanOnce_atom (by decide)).trans rfl

theorem startsValue_constant (mem : (name, value) ∈ constants) : StartsValue name := by
  simp only [constants, mem_cons, not_mem_nil, or_false] at mem
  rcases mem with ⟨rfl, rfl⟩ | ⟨rfl, rfl⟩ | ⟨rfl, rfl⟩ | ⟨rfl, rfl⟩ | ⟨rfl, rfl⟩ | ⟨rfl, rfl⟩
  all_goals exact ⟨_, _, rfl, by decide, by decide⟩

theorem printable_of_all (all : (text.all fun char => decide (IsPrintable char)) = true) :
    ∀ char ∈ text, IsPrintable char := fun char mem =>
  of_decide_eq_true (all_eq_true.mp all char mem)

theorem printable_constant (mem : (name, value) ∈ constants) :
    ∀ char ∈ name, IsPrintable char := by
  simp only [constants, mem_cons, not_mem_nil, or_false] at mem
  rcases mem with ⟨rfl, rfl⟩ | ⟨rfl, rfl⟩ | ⟨rfl, rfl⟩ | ⟨rfl, rfl⟩ | ⟨rfl, rfl⟩ | ⟨rfl, rfl⟩
  all_goals exact printable_of_all (by decide)

/-- What is no digit, as far as it matters here. -/
theorem ne_of_isDigit {digit other : Char} (isDigit : digit.isDigit = true)
    (noDigit : other.isDigit = false) : digit ≠ other := by
  rintro rfl
  rw [isDigit] at noDigit
  cases noDigit

variable {number : NumberText} {rest text : List Char}

theorem startsValue_number (scanned : scanNumber text = some (number, rest)) :
    StartsValue text := by
  obtain ⟨digit, tail, isDigit, rfl | rfl⟩ := scanNumber_head scanned
  · refine ⟨digit, tail, rfl, ?_, ne_of_isDigit isDigit (by decide)⟩
    have visible (blank : Char) (noDigit : blank.isDigit = false) : digit ≠ blank :=
      ne_of_isDigit isDigit noDigit
    simp [isBlank, visible ' ' (by decide), visible '\t' (by decide), visible '\n' (by decide),
      visible '\r' (by decide)]
  · exact ⟨'-', digit :: tail, rfl, by decide, by decide⟩

theorem scanConstant_number (scanned : scanNumber text = some (number, rest)) :
    scanConstant text = none := by
  obtain ⟨digit, _, isDigit, rfl | rfl⟩ := scanNumber_head scanned
  all_goals
    have other (letter : Char) (noDigit : letter.isDigit = false) : letter ≠ digit :=
      (ne_of_isDigit isDigit noDigit).symm
    simp [scanConstant, constants, other 'n' (by decide), other 't' (by decide),
      other 'f' (by decide), other 'N' (by decide), other 'I' (by decide), other '-' (by decide)]

theorem scanOnce_number (scanned : scanNumber text = some (number, []))
    (read : numberValue floats number = .ok value) (ends : EndsValue rest) (fuel : Nat) :
    scanOnce floats (fuel + 1) (text ++ rest) = .ok (value, rest) := by
  have whole := scanNumber_append ends scanned
  have atom : scanOnce floats (fuel + 1) (text ++ rest) = scanAtom floats (text ++ rest) := by
    obtain ⟨_, _, isDigit, rfl | rfl⟩ := scanNumber_head scanned
    · exact scanOnce_atom ⟨ne_of_isDigit isDigit (by decide), ne_of_isDigit isDigit (by decide),
        ne_of_isDigit isDigit (by decide)⟩
    · exact scanOnce_atom (by decide)
  rw [atom, scanAtom, scanConstant_number whole, whole]
  simp [read, Except.map]

/-! ## Scalars -/

/-- What `dumps` writes for a scalar comes back as that scalar. -/
structure ReadsBack (floats : PythonFloats) (text : List Char) (value : Json) : Prop where
  starts : StartsValue text
  reads : ∀ (fuel : Nat) (rest : List Char), EndsValue rest →
    scanOnce floats (fuel + 1) (text ++ rest) = .ok (value, rest)
  printable : ∀ char ∈ text, IsPrintable char

theorem readsBack_constant (mem : (name, value) ∈ constants) : ReadsBack floats name value where
  starts := startsValue_constant mem
  reads fuel rest _ := scanOnce_constant mem fuel rest
  printable := printable_constant mem

theorem readsBack_number (scanned : scanNumber text = some (number, []))
    (read : numberValue floats number = .ok value) : ReadsBack floats text value where
  starts := startsValue_number scanned
  reads fuel _ ends := scanOnce_number scanned read ends fuel
  printable _ mem := printable_number scanned mem

theorem readsBack_bool (value : Bool) : ReadsBack floats (boolText value) (.bool value) := by
  cases value
  · exact readsBack_constant (by simp [constants, boolText])
  · exact readsBack_constant (by simp [constants, boolText])

theorem readsBack_int {value : Int} (written : integerRepr value = .ok text) :
    ReadsBack floats text (.int value) := by
  unfold integerRepr at written
  split_ifs at written with large
  cases written
  obtain ⟨_, scanned, isInteger, equal, digits⟩ := scanNumber_integerText value
  refine readsBack_number scanned ?_
  rw [numberValue, if_pos isInteger, digits, if_neg large, equal]

theorem readsBack_float (value : PyFloat floats) :
    ReadsBack floats (floatText value) (.float value.val) := by
  unfold floatText
  split_ifs with nan infinity minusInfinity
  · exact readsBack_constant (by simp [constants, nan])
  · exact readsBack_constant (by simp [constants, infinity])
  · exact readsBack_constant (by simp [constants, minusInfinity])
  · have finite : floats.IsRepr value.val := by
      rcases value.property with equal | equal | equal | finite
      · exact absurd equal nan
      · exact absurd equal infinity
      · exact absurd equal minusInfinity
      · exact finite
    obtain ⟨number, scanned, isInteger, equal⟩ := floats.number value.val finite
    refine readsBack_number scanned ?_
    simp [numberValue, isInteger, equal]

theorem readsBack_str (value : String) :
    ReadsBack floats (textLiteral value.toList) (.str value) where
  starts := ⟨'"', _, rfl, by decide, by decide⟩
  reads fuel rest _ := by
    simp only [textLiteral, cons_append, append_assoc, scanOnce, scanString_textLiteral,
      String.ofList_toList]
    rfl
  printable _ mem := printable_textLiteral mem

/-! ## Names -/

theorem keyName_eq {key : PyKey floats} (written : keyText key = .ok name) :
    keyName key = String.ofList name := by
  simp [keyName, written, Except.toOption]

/-! ## Values -/

/-- What stands behind the first of several parts that commas separate. -/
def behindFirst (close : Char) (texts : List (List Char)) (rest : List Char) : List Char :=
  match texts with
  | [] => close :: rest
  | text :: texts => ',' :: ([','].intercalate (text :: texts) ++ close :: rest)

theorem intercalate_append_close (close : Char) (text : List Char) (texts : List (List Char))
    (rest : List Char) :
    [','].intercalate (text :: texts) ++ close :: rest = text ++ behindFirst close texts rest := by
  cases texts with
  | nil => simp [behindFirst]
  | cons next texts => simp [behindFirst]

theorem endsValue_behindFirst {close : Char} (closes : close = ']' ∨ close = '}')
    (texts : List (List Char)) (rest : List Char) : EndsValue (behindFirst close texts rest) := by
  cases texts with
  | nil => exact endsValue_cons (.inr closes) _
  | cons next texts => exact endsValue_cons (.inl rfl) _

theorem length_intercalate_cons (text : List Char) (texts : List (List Char)) :
    ([','].intercalate (text :: texts)).length =
      text.length + (if texts = [] then 0 else 1 + ([','].intercalate texts).length) := by
  cases texts with
  | nil => simp
  | cons next texts =>
    simp
    omega

theorem startsValue_dumps {value : PyValue floats} (written : dumps value = .ok text) :
    StartsValue text := by
  cases value with
  | none =>
    cases written
    exact ⟨'n', _, rfl, by decide, by decide⟩
  | bool value =>
    cases written
    exact ReadsBack.starts (readsBack_bool value : ReadsBack floats _ _)
  | int value => exact ReadsBack.starts (readsBack_int written : ReadsBack floats _ _)
  | float value =>
    cases written
    exact (readsBack_float value).starts
  | str value =>
    cases written
    exact ReadsBack.starts (readsBack_str value : ReadsBack floats _ _)
  | list items =>
    obtain ⟨texts, -, equal⟩ := Foundations.bind_eq_ok.mp written
    cases equal
    exact ⟨'[', _, rfl, by decide, by decide⟩
  | tuple items =>
    obtain ⟨texts, -, equal⟩ := Foundations.bind_eq_ok.mp written
    cases equal
    exact ⟨'[', _, rfl, by decide, by decide⟩
  | dict fields =>
    obtain ⟨texts, -, equal⟩ := Foundations.bind_eq_ok.mp written
    cases equal
    exact ⟨'{', _, rfl, by decide, by decide⟩
  | object => cases written

theorem ReadsBack.enough (back : ReadsBack floats text value)
    (enough : 2 * text.length + 1 ≤ fuel) (ends : EndsValue rest) :
    scanOnce floats fuel (text ++ rest) = .ok (value, rest) := by
  obtain ⟨fuel, rfl⟩ : ∃ less, fuel = less + 1 := ⟨fuel - 1, by omega⟩
  exact back.reads fuel rest ends

theorem scanItems_last {text rest : List Char} {value : Json}
    (read : scanOnce floats fuel text = .ok (value, ']' :: rest)) (before : List Json) :
    scanItems floats (fuel + 1) before text = .ok (.arr (before ++ [value]), rest) := by
  simp only [scanItems, read]
  rfl

/-- An item of an array with another one behind it. -/
theorem scanItems_next (read : scanOnce floats fuel text = .ok (value, ',' :: rest))
    (starts : StartsValue rest) (before : List Json) :
    scanItems floats (fuel + 1) before text = scanItems floats fuel (before ++ [value]) rest := by
  have comma : skipBlank (',' :: rest) = ',' :: rest := rfl
  simp only [scanItems, read, bind, Except.bind, comma, starts.skipBlank]

section Members

variable {name : List Char} {fuel : Nat} {text rest : List Char} {value : Json}

theorem scanMembers_value (starts : StartsValue text) (before : Event) :
    scanMembers floats (fuel + 1) before (textLiteral name ++ ':' :: text) =
      (do
        let (value, rest) ← scanOnce floats fuel text
        match skipBlank rest with
        | ',' :: rest =>
          scanMembers floats fuel (dictSet before (String.ofList name) value) (skipBlank rest)
        | '}' :: rest => return (.obj (dictSet before (String.ofList name) value), rest)
        | _ => .error .jsonDecodeError) := by
  simp only [textLiteral, cons_append, append_assoc, nil_append, scanMembers,
    scanString_textLiteral]
  conv_rhs => rw [← starts.skipBlank]
  rfl

theorem scanMembers_last (starts : StartsValue text)
    (read : scanOnce floats fuel text = .ok (value, '}' :: rest)) (before : Event) :
    scanMembers floats (fuel + 1) before (textLiteral name ++ ':' :: text) =
      .ok (.obj (dictSet before (String.ofList name) value), rest) := by
  rw [scanMembers_value starts, read]
  rfl

/-- A member of an object with another one behind it. -/
theorem scanMembers_next (starts : StartsValue text) {more : List Char}
    (read : scanOnce floats fuel text = .ok (value, ',' :: '"' :: more)) (before : Event) :
    scanMembers floats (fuel + 1) before (textLiteral name ++ ':' :: text) =
      scanMembers floats fuel (dictSet before (String.ofList name) value) ('"' :: more) := by
  rw [scanMembers_value starts, read]
  rfl

end Members

theorem scanOnce_array {items : List (PyValue floats)} {texts : List (List Char)}
    (written : dumpsItems items = .ok texts)
    (reads : items ≠ [] → ∀ {fuel : Nat} {before : List Json} {rest : List Char},
      2 * ([','].intercalate texts).length + 2 ≤ fuel →
      scanItems floats fuel before ([','].intercalate texts ++ ']' :: rest) =
        .ok (.arr (before ++ imageItems items), rest))
    {fuel : Nat} (rest : List Char)
    (enough : 2 * ('[' :: ([','].intercalate texts ++ [']'])).length + 1 ≤ fuel) :
    scanOnce floats fuel ('[' :: ([','].intercalate texts ++ [']']) ++ rest) =
      .ok (.arr (imageItems items), rest) := by
  obtain ⟨fuel, rfl⟩ : ∃ less, fuel = less + 1 := ⟨fuel - 1, by omega⟩
  simp only [length_cons, length_append] at enough
  simp only [cons_append, append_assoc, nil_append, scanOnce]
  cases items with
  | nil =>
    cases written
    rfl
  | cons item items =>
    have starts : StartsValue ([','].intercalate texts ++ ']' :: rest) := by
      obtain ⟨_, first, behind⟩ := Foundations.bind_eq_ok.mp written
      obtain ⟨others, -, equal⟩ := Foundations.bind_eq_ok.mp behind
      cases equal
      rw [intercalate_append_close]
      exact (startsValue_dumps first).append _
    rw [starts.skipBlank, if_neg starts.head, reads (by simp) (by omega)]
    rfl

theorem scanOnce_object {fields : List (PyKey floats × PyValue floats)} {texts : List (List Char)}
    (written : dumpsFields fields = .ok texts)
    (reads : fields ≠ [] → ∀ {fuel : Nat} {before : Event} {rest : List Char},
      2 * ([','].intercalate texts).length + 2 ≤ fuel →
      scanMembers floats fuel before ([','].intercalate texts ++ '}' :: rest) =
        .ok (.obj (imageFields before fields), rest))
    {fuel : Nat} (rest : List Char)
    (enough : 2 * ('{' :: ([','].intercalate texts ++ ['}'])).length + 1 ≤ fuel) :
    scanOnce floats fuel ('{' :: ([','].intercalate texts ++ ['}']) ++ rest) =
      .ok (.obj (imageFields [] fields), rest) := by
  obtain ⟨fuel, rfl⟩ : ∃ less, fuel = less + 1 := ⟨fuel - 1, by omega⟩
  simp only [length_cons, length_append] at enough
  simp only [cons_append, append_assoc, nil_append, scanOnce]
  cases fields with
  | nil =>
    cases written
    rfl
  | cons field fields =>
    obtain ⟨name, _, behind⟩ := Foundations.bind_eq_ok.mp written
    obtain ⟨text, first, behind⟩ := Foundations.bind_eq_ok.mp behind
    obtain ⟨others, -, equal⟩ := Foundations.bind_eq_ok.mp behind
    cases equal
    have quoted : ∃ more, [','].intercalate ((textLiteral name ++ ':' :: text) :: others) ++
        '}' :: rest = '"' :: more := by
      rw [intercalate_append_close]
      exact ⟨_, rfl⟩
    obtain ⟨more, quoted⟩ := quoted
    have members : scanMembers floats fuel [] ('"' :: more) = .ok (.obj (imageFields [] _), rest) :=
      quoted ▸ reads (by simp) (by omega)
    rw [quoted]
    simpa [skipBlank, isBlank] using members

mutual
theorem scanOnce_dumps : ∀ (value : PyValue floats) {text : List Char}, dumps value = .ok text →
    ∀ {fuel : Nat} {rest : List Char}, 2 * text.length + 1 ≤ fuel → EndsValue rest →
      scanOnce floats fuel (text ++ rest) = .ok (image value, rest)
  | .none, _, written, _, _, enough, ends => by
    cases written
    exact (readsBack_constant (by simp [constants, image])).enough enough ends
  | .bool value, _, written, _, _, enough, ends => by
    cases written
    exact (readsBack_bool value).enough enough ends
  | .int _, _, written, _, _, enough, ends => (readsBack_int written).enough enough ends
  | .float value, _, written, _, _, enough, ends => by
    cases written
    exact (readsBack_float value).enough enough ends
  | .str value, _, written, _, _, enough, ends => by
    cases written
    exact (readsBack_str value).enough enough ends
  | .list items, _, written, _, rest, enough, _ => by
    obtain ⟨texts, each, equal⟩ := Foundations.bind_eq_ok.mp written
    cases equal
    exact scanOnce_array each (scanItems_dumps items each) rest enough
  | .tuple items, _, written, _, rest, enough, _ => by
    obtain ⟨texts, each, equal⟩ := Foundations.bind_eq_ok.mp written
    cases equal
    exact scanOnce_array each (scanItems_dumps items each) rest enough
  | .dict fields, _, written, _, rest, enough, _ => by
    obtain ⟨texts, each, equal⟩ := Foundations.bind_eq_ok.mp written
    cases equal
    exact scanOnce_object each (scanMembers_dumps fields each) rest enough
  | .object, _, written, _, _, _, _ => by cases written

theorem scanItems_dumps : ∀ (items : List (PyValue floats)) {texts : List (List Char)},
    dumpsItems items = .ok texts → items ≠ [] →
    ∀ {fuel : Nat} {before : List Json} {rest : List Char},
      2 * ([','].intercalate texts).length + 2 ≤ fuel →
      scanItems floats fuel before ([','].intercalate texts ++ ']' :: rest) =
        .ok (.arr (before ++ imageItems items), rest)
  | [], _, _, nonempty, _, _, _, _ => absurd rfl nonempty
  | item :: items, _, written, _, fuel, before, rest, enough => by
    obtain ⟨text, first, behind⟩ := Foundations.bind_eq_ok.mp written
    obtain ⟨texts, second, equal⟩ := Foundations.bind_eq_ok.mp behind
    cases equal
    obtain ⟨fuel, rfl⟩ : ∃ less, fuel = less + 1 := ⟨fuel - 1, by omega⟩
    rw [length_intercalate_cons] at enough
    have read : scanOnce floats fuel (text ++ behindFirst ']' texts rest) =
        .ok (image item, behindFirst ']' texts rest) :=
      scanOnce_dumps item first (by omega) (endsValue_behindFirst (.inl rfl) texts rest)
    have others := scanItems_dumps items second
    rw [intercalate_append_close]
    cases items with
    | nil =>
      cases second
      exact scanItems_last read before
    | cons next items =>
      obtain ⟨nextText, third, behind⟩ := Foundations.bind_eq_ok.mp second
      obtain ⟨last, -, equal⟩ := Foundations.bind_eq_ok.mp behind
      cases equal
      have starts : StartsValue ([','].intercalate (nextText :: last) ++ ']' :: rest) := by
        rw [intercalate_append_close]
        exact (startsValue_dumps third).append _
      rw [if_neg (by simp)] at enough
      rw [scanItems_next read starts, others (by simp) (by omega), append_assoc]
      rfl

theorem scanMembers_dumps : ∀ (fields : List (PyKey floats × PyValue floats))
    {texts : List (List Char)}, dumpsFields fields = .ok texts → fields ≠ [] →
    ∀ {fuel : Nat} {before : Event} {rest : List Char},
      2 * ([','].intercalate texts).length + 2 ≤ fuel →
      scanMembers floats fuel before ([','].intercalate texts ++ '}' :: rest) =
        .ok (.obj (imageFields before fields), rest)
  | [], _, _, nonempty, _, _, _, _ => absurd rfl nonempty
  | (key, value) :: fields, _, written, _, fuel, before, rest, enough => by
    obtain ⟨_, named, behind⟩ := Foundations.bind_eq_ok.mp written
    obtain ⟨text, first, behind⟩ := Foundations.bind_eq_ok.mp behind
    obtain ⟨texts, second, equal⟩ := Foundations.bind_eq_ok.mp behind
    cases equal
    obtain ⟨fuel, rfl⟩ : ∃ less, fuel = less + 1 := ⟨fuel - 1, by omega⟩
    rw [length_intercalate_cons, length_append, length_cons] at enough
    have read : scanOnce floats fuel (text ++ behindFirst '}' texts rest) =
        .ok (image value, behindFirst '}' texts rest) :=
      scanOnce_dumps value first (by omega) (endsValue_behindFirst (.inr rfl) texts rest)
    have starts : StartsValue (text ++ behindFirst '}' texts rest) :=
      (startsValue_dumps first).append _
    have others := scanMembers_dumps fields second
    rw [intercalate_append_close, append_assoc, cons_append, imageFields, keyName_eq named]
    cases fields with
    | nil =>
      cases second
      exact scanMembers_last starts read before
    | cons next fields =>
      obtain ⟨nextName, -, behind⟩ := Foundations.bind_eq_ok.mp second
      obtain ⟨nextText, -, behind⟩ := Foundations.bind_eq_ok.mp behind
      obtain ⟨last, -, equal⟩ := Foundations.bind_eq_ok.mp behind
      cases equal
      obtain ⟨more, quoted⟩ : ∃ more, [','].intercalate
          ((textLiteral nextName ++ ':' :: nextText) :: last) ++ '}' :: rest = '"' :: more := by
        rw [intercalate_append_close]
        exact ⟨_, rfl⟩
      rw [if_neg (by simp)] at enough
      have tail {before : Event} :
          scanMembers floats fuel before ('"' :: more) = .ok (.obj (imageFields before _), rest) :=
        quoted ▸ others (by simp) (by omega)
      rw [behindFirst, quoted] at read
      rw [behindFirst, quoted] at starts
      rw [behindFirst, quoted, scanMembers_next starts read, tail]
end

/-! ## What is written -/

theorem printable_enclosed {texts : List (List Char)} {opening closing : Char}
    (opens : IsPrintable opening) (closes : IsPrintable closing)
    (printable : ∀ text ∈ texts, ∀ char ∈ text, IsPrintable char) :
    ∀ char ∈ opening :: ([','].intercalate texts ++ [closing]), IsPrintable char := by
  intro char mem
  simp only [mem_cons, mem_append, not_mem_nil, or_false] at mem
  rcases mem with rfl | mem | rfl
  · exact opens
  · induction texts with
    | nil => simp at mem
    | cons text texts ih =>
      obtain ⟨first, others⟩ := forall_mem_cons.mp printable
      cases texts with
      | nil => exact first char (by simpa using mem)
      | cons next texts =>
        simp only [intercalate_cons_cons, mem_append, mem_cons, not_mem_nil, or_false] at mem
        rcases mem with (mem | rfl) | mem
        · exact first char mem
        · decide
        · exact ih others mem
  · exact closes

mutual
theorem printable_dumps : ∀ (value : PyValue floats) {text : List Char}, dumps value = .ok text →
    ∀ char ∈ text, IsPrintable char
  | .none, _, written => by
    cases written
    exact printable_of_all (by decide)
  | .bool value, _, written => by
    cases written
    exact ReadsBack.printable (readsBack_bool value : ReadsBack floats _ _)
  | .int _, _, written => ReadsBack.printable (readsBack_int written : ReadsBack floats _ _)
  | .float value, _, written => by
    cases written
    exact (readsBack_float value).printable
  | .str value, _, written => by
    cases written
    exact ReadsBack.printable (readsBack_str value : ReadsBack floats _ _)
  | .list items, _, written => by
    obtain ⟨texts, each, equal⟩ := Foundations.bind_eq_ok.mp written
    cases equal
    exact printable_enclosed (by decide) (by decide) (printable_dumpsItems items each)
  | .tuple items, _, written => by
    obtain ⟨texts, each, equal⟩ := Foundations.bind_eq_ok.mp written
    cases equal
    exact printable_enclosed (by decide) (by decide) (printable_dumpsItems items each)
  | .dict fields, _, written => by
    obtain ⟨texts, each, equal⟩ := Foundations.bind_eq_ok.mp written
    cases equal
    exact printable_enclosed (by decide) (by decide) (printable_dumpsFields fields each)
  | .object, _, written => by cases written

theorem printable_dumpsItems : ∀ (items : List (PyValue floats)) {texts : List (List Char)},
    dumpsItems items = .ok texts → ∀ text ∈ texts, ∀ char ∈ text, IsPrintable char
  | [], _, written => by
    cases written
    simp
  | item :: items, _, written => by
    obtain ⟨text, first, behind⟩ := Foundations.bind_eq_ok.mp written
    obtain ⟨texts, second, equal⟩ := Foundations.bind_eq_ok.mp behind
    cases equal
    exact forall_mem_cons.mpr ⟨printable_dumps item first, printable_dumpsItems items second⟩

theorem printable_dumpsFields : ∀ (fields : List (PyKey floats × PyValue floats))
    {texts : List (List Char)}, dumpsFields fields = .ok texts →
    ∀ text ∈ texts, ∀ char ∈ text, IsPrintable char
  | [], _, written => by
    cases written
    simp
  | (key, value) :: fields, _, written => by
    obtain ⟨_, _, behind⟩ := Foundations.bind_eq_ok.mp written
    obtain ⟨text, first, behind⟩ := Foundations.bind_eq_ok.mp behind
    obtain ⟨texts, second, equal⟩ := Foundations.bind_eq_ok.mp behind
    cases equal
    refine forall_mem_cons.mpr ⟨?_, printable_dumpsFields fields second⟩
    intro char mem
    rcases mem_append.mp mem with mem | mem
    · exact printable_textLiteral mem
    · rcases mem_cons.mp mem with rfl | mem
      · decide
      · exact printable_dumps value first char mem
end

/-! ## The round trip -/

/-- What is written is read back: a reader gets the image of the value. -/
theorem loads_dumps {value : PyValue floats} {text : List Char} (written : dumps value = .ok text) :
    loads floats text = .ok (image value) := by
  have starts := startsValue_dumps written
  have read : scanOnce floats (2 * text.length + 1) (text ++ []) = .ok (image value, []) :=
    scanOnce_dumps value written (by omega) endsValue_nil
  rw [append_nil] at read
  have mark : text.head? ≠ some '\uFEFF' := by
    intro mark
    exact absurd (printable_dumps value written _ (mem_of_mem_head? mark)) (by decide)
  simp only [loads, if_neg mark, starts.skipBlank, read]
  rfl

/-- A dictionary whose keys are different texts keeps its items in order. -/
theorem imageFields_texts {before : Event} {fields : List (String × PyValue floats)}
    (distinct : (fields.map Prod.fst).Nodup)
    (fresh : ∀ name ∈ fields.map Prod.fst, dictHas before name = false) :
    imageFields before (fields.map fun (name, value) => (.str name, value)) =
      before ++ fields.map fun (name, value) => (name, image value) := by
  induction fields generalizing before with
  | nil => simp [imageFields]
  | cons field fields ih =>
    simp only [map_cons, nodup_cons] at distinct
    obtain ⟨unlike, distinct⟩ := distinct
    have first := fresh field.1 (by simp)
    have named : keyName (.str field.1 : PyKey floats) = field.1 := by
      simp [keyName, keyText, Except.toOption]
    simp only [map_cons, imageFields, named, dictSet, first, Bool.false_eq_true, if_false]
    rw [ih distinct]
    · simp
    · intro name mem
      have other : field.1 ≠ name := by
        rintro rfl
        exact unlike mem
      have earlier := fresh name (mem_cons_of_mem _ mem)
      simp only [dictHas, any_append, any_cons, any_nil, Bool.or_false,
        Bool.or_eq_false_iff, beq_eq_false_iff_ne] at earlier ⊢
      exact ⟨earlier, other⟩

end NetConsole.Worker
