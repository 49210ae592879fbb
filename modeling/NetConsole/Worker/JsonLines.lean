import NetConsole.Foundations.TextStream
import NetConsole.Worker.Protocol

/-!
# JSON lines

The reader `feed_jsonl` of the worker protocol, which is given a stream in chunks
and carries the unfinished line from one call to the next.
-/

set_option autoImplicit false

namespace NetConsole.Worker

open Foundations List

/-- What one call is given: bytes or text. -/
inductive Chunk where
  | bytes (received : List UInt8)
  | text (received : List Char)

/-- The text of a chunk; a `UnicodeDecodeError` is a `ValueError`. -/
def Chunk.decoded : Chunk → Except PythonError (List Char)
  | .bytes received =>
    match decode .start received with
    | some (state, output) => if state.owed = 0 then .ok output else .error .valueError
    | none => .error .valueError
  | .text received => .ok received

section Reader

variable (lib : PythonLibrary)

/-- The events and the diagnostics of one line. -/
def feedLine (rawLine : List Char) : Except PythonError (List Event × List (List Char)) :=
  let line := strip (rawLine.rdropWhile (· = '\r'))
  if line = [] then .ok ([], [])
  else
    match parseEventLine lib line with
    | .error error => .error error
    | .ok none => .ok ([], [line])
    | .ok (some event) => .ok ([event], [])

/-- The events and the diagnostics of several lines. -/
def feedLines : List (List Char) → Except PythonError (List Event × List (List Char))
  | [] => .ok ([], [])
  | line :: rest => do
    let (events, diagnostics) ← feedLine lib line
    let (moreEvents, moreDiagnostics) ← feedLines rest
    return (events ++ moreEvents, diagnostics ++ moreDiagnostics)

/-- `feed_jsonl`: events, diagnostics and the unfinished line. -/
def feedJsonl (buffer : List Char) (chunk : Chunk) :
    Except PythonError (List Event × List (List Char) × List Char) := do
  let text ← chunk.decoded
  let (lines, remainder) := frames '\n' (buffer ++ text)
  let (events, diagnostics) ← feedLines lib lines
  return (events, diagnostics, remainder)

end Reader

end NetConsole.Worker
