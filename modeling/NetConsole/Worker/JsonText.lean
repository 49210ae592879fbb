import NetConsole.Foundations.FallibleMaps
import NetConsole.Foundations.JsonLexemes
import NetConsole.Worker.Protocol

/-!
# JSON texts of the worker protocol

`dumps` writes a Python value as `json.dumps` does with `ensure_ascii` and the
separators of the protocol, and `loads` reads a document as `json.loads` does.

Python has values that JSON has not: a tuple is written as a list, a key that is
a number, a truth value or `None` as a text, and of equal keys the last one
counts. `image` is what a reader gets of a value. The round trip is
`loads (dumps value) = image value`, for every value that is written at all
(`loads_dumps`); what is written is printable ASCII (`printable_dumps`).

What floats do is a parameter. A lone surrogate is no character here, so a
document with an escaped one is refused.
-/

set_option autoImplicit false

namespace NetConsole.Worker

open Foundations

/-! ## Values -/

/-- Python's floats: the texts that `repr` has for finite ones, and the `repr`
of the float that a number stands for. The `repr` of a finite float is a number
with a fraction or an exponent, and stands for that float. -/
structure PythonFloats where
  IsRepr : String → Prop
  ofNumber : NumberText → String
  number : ∀ text, IsRepr text → ∃ number : NumberText,
    scanNumber text.toList = some (number, []) ∧ number.isInteger = false ∧ ofNumber number = text

variable {floats : PythonFloats}

/-- A float, given by its `repr`. -/
def PyFloat (floats : PythonFloats) : Type :=
  { text : String // text = "nan" ∨ text = "inf" ∨ text = "-inf" ∨ floats.IsRepr text }

/-- A key of a dictionary; `object` stands for what JSON cannot name. -/
inductive PyKey (floats : PythonFloats) where
  | none
  | bool (value : Bool)
  | int (value : Int)
  | float (value : PyFloat floats)
  | str (value : String)
  | object

/-- A Python value; `object` stands for what `json.dumps` refuses. -/
inductive PyValue (floats : PythonFloats) where
  | none
  | bool (value : Bool)
  | int (value : Int)
  | float (value : PyFloat floats)
  | str (value : String)
  | list (items : List (PyValue floats))
  | tuple (items : List (PyValue floats))
  | dict (fields : List (PyKey floats × PyValue floats))
  | object

/-! ## Writing -/

/-- The digits that `int` and `str` convert at most. -/
def maxIntegerDigits : Nat := 4300

/-- `int.__repr__`. -/
def integerRepr (value : Int) : Except PythonError (List Char) :=
  if maxIntegerDigits < (Nat.toDigits 10 value.natAbs).length then .error .valueError
  else .ok (integerText value)

/-- `floatstr` of the encoder. -/
def floatText (value : PyFloat floats) : List Char :=
  if value.val = "nan" then "NaN".toList
  else if value.val = "inf" then "Infinity".toList
  else if value.val = "-inf" then "-Infinity".toList
  else value.val.toList

def boolText (value : Bool) : List Char := if value then "true".toList else "false".toList

/-- The text of a key, before it is quoted. -/
def keyText : PyKey floats → Except PythonError (List Char)
  | .none => .ok "null".toList
  | .bool value => .ok (boolText value)
  | .int value => integerRepr value
  | .float value => .ok (floatText value)
  | .str value => .ok value.toList
  | .object => .error .typeError

mutual
/-- `json.dumps(value, ensure_ascii=True, separators=(",", ":"))`. -/
def dumps : PyValue floats → Except PythonError (List Char)
  | .none => .ok "null".toList
  | .bool value => .ok (boolText value)
  | .int value => integerRepr value
  | .float value => .ok (floatText value)
  | .str value => .ok (textLiteral value.toList)
  | .list items => do
    let texts ← dumpsItems items
    return '[' :: ([','].intercalate texts ++ [']'])
  | .tuple items => do
    let texts ← dumpsItems items
    return '[' :: ([','].intercalate texts ++ [']'])
  | .dict fields => do
    let texts ← dumpsFields fields
    return '{' :: ([','].intercalate texts ++ ['}'])
  | .object => .error .typeError

def dumpsItems : List (PyValue floats) → Except PythonError (List (List Char))
  | [] => .ok []
  | item :: rest => do
    let text ← dumps item
    let texts ← dumpsItems rest
    return text :: texts

def dumpsFields : List (PyKey floats × PyValue floats) → Except PythonError (List (List Char))
  | [] => .ok []
  | (key, value) :: rest => do
    let name ← keyText key
    let text ← dumps value
    let texts ← dumpsFields rest
    return (textLiteral name ++ ':' :: text) :: texts
end

/-! ## Reading -/

/-- The white space of JSON. -/
def isBlank (char : Char) : Bool := char ∈ [' ', '\t', '\n', '\r']

def skipBlank (text : List Char) : List Char := text.dropWhile isBlank

/-- A text literal, whose opening quote is read. -/
def scanString (text : List Char) : Except PythonError (String × List Char) :=
  match scanText text.length text with
  | .ok (literal, rest) => .ok (String.ofList literal, rest)
  | .error .malformed => .error .jsonDecodeError
  | .error .loneSurrogate => .error .other

/-- The names of values. -/
def constants : List (List Char × Json) :=
  [("null".toList, .null), ("true".toList, .bool true), ("false".toList, .bool false),
    ("NaN".toList, .float "nan"), ("Infinity".toList, .float "inf"),
    ("-Infinity".toList, .float "-inf")]

def scanConstant (text : List Char) : Option (Json × List Char) :=
  constants.findSome? fun (name, value) =>
    if name.isPrefixOf text then some (value, text.drop name.length) else none

variable (floats) in
/-- `int()` refuses long texts, `float()` none. -/
def numberValue (number : NumberText) : Except PythonError Json :=
  if number.isInteger then
    if maxIntegerDigits < number.whole.length then .error .valueError
    else .ok (.int number.integer)
  else .ok (.float (floats.ofNumber number))

variable (floats) in
/-- A constant or a number. -/
def scanAtom (text : List Char) : Except PythonError (Json × List Char) :=
  match scanConstant text with
  | some scanned => .ok scanned
  | none =>
    match scanNumber text with
    | some (number, rest) => (numberValue floats number).map fun value => (value, rest)
    | none => .error .jsonDecodeError

section Scan

variable (floats)

mutual
/-- `scan_once`. Every value takes a part of the text, so that twice its length is
fuel enough. -/
def scanOnce : Nat → List Char → Except PythonError (Json × List Char)
  | 0, _ => .error .jsonDecodeError
  | fuel + 1, text =>
    match text with
    | '"' :: rest => (scanString rest).map fun (literal, rest) => (.str literal, rest)
    | '[' :: rest =>
      if (skipBlank rest).head? = some ']' then .ok (.arr [], (skipBlank rest).tail)
      else scanItems fuel [] (skipBlank rest)
    | '{' :: rest =>
      if (skipBlank rest).head? = some '}' then .ok (.obj [], (skipBlank rest).tail)
      else scanMembers fuel [] (skipBlank rest)
    | text => scanAtom floats text

/-- The items of an array, from the next one on. -/
def scanItems : Nat → List Json → List Char → Except PythonError (Json × List Char)
  | 0, _, _ => .error .jsonDecodeError
  | fuel + 1, items, text => do
    let (value, rest) ← scanOnce fuel text
    match skipBlank rest with
    | ',' :: rest => scanItems fuel (items ++ [value]) (skipBlank rest)
    | ']' :: rest => return (.arr (items ++ [value]), rest)
    | _ => .error .jsonDecodeError

/-- The members of an object, from the next one on. -/
def scanMembers : Nat → Event → List Char → Except PythonError (Json × List Char)
  | 0, _, _ => .error .jsonDecodeError
  | fuel + 1, fields, text =>
    match text with
    | '"' :: rest => do
      let (name, rest) ← scanString rest
      match skipBlank rest with
      | ':' :: rest => do
        let (value, rest) ← scanOnce fuel (skipBlank rest)
        match skipBlank rest with
        | ',' :: rest => scanMembers fuel (dictSet fields name value) (skipBlank rest)
        | '}' :: rest => return (.obj (dictSet fields name value), rest)
        | _ => .error .jsonDecodeError
      | _ => .error .jsonDecodeError
    | _ => .error .jsonDecodeError
end

/-- `json.loads`. -/
def loads (text : List Char) : Except PythonError Json := do
  if text.head? = some '\uFEFF' then throw .jsonDecodeError
  let (value, rest) ← scanOnce floats (2 * text.length + 1) (skipBlank text)
  if skipBlank rest = [] then return value else throw .jsonDecodeError

end Scan

/-! ## What a reader gets -/

/-- The name that a key has in an object. -/
def keyName (key : PyKey floats) : String := String.ofList ((keyText key).toOption.getD [])

mutual
/-- What a reader gets of a value. -/
def image : PyValue floats → Json
  | .none => .null
  | .bool value => .bool value
  | .int value => .int value
  | .float value => .float value.val
  | .str value => .str value
  | .list items => .arr (imageItems items)
  | .tuple items => .arr (imageItems items)
  | .dict fields => .obj (imageFields [] fields)
  | .object => .null

def imageItems : List (PyValue floats) → List Json
  | [] => []
  | item :: rest => image item :: imageItems rest

/-- The fields of a dictionary behind those that are read already. -/
def imageFields (before : Event) : List (PyKey floats × PyValue floats) → Event
  | [] => before
  | (key, value) :: rest => imageFields (dictSet before (keyName key) (image value)) rest
end

end NetConsole.Worker
