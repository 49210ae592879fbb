import Mathlib.Data.Multiset.AddSub
import NetConsole.ConfigText.Cleaning

/-!
# Comparing two configurations

`compare_named_config_text` takes the removed and the added lines from the unified diff
and the modified ones from `build_side_by_side_rows`. A line that begins with two signs
looks like a header of the diff and is dropped (`diffConserves_iff`), and a replaced block
is paired line by line, whether the lines of a pair differ or not (`rowsSound_iff`).
-/

set_option autoImplicit false

namespace NetConsole.ConfigText

open MeshLog

/-! ## `difflib` -/

/-- The tags of `SequenceMatcher.get_opcodes`. -/
inductive OpcodeTag
  | equal | delete | insert | replace
  deriving DecidableEq

/-- An entry of `SequenceMatcher.get_opcodes`. -/
structure Opcode where
  tag : OpcodeTag
  (leftStart leftEnd rightStart rightEnd : Nat)

variable (left right : List Text)

/-- `left_lines[left_start:left_end]`. -/
def Opcode.leftBlock (opcode : Opcode) : List Text :=
  (left.take opcode.leftEnd).drop opcode.leftStart

def Opcode.rightBlock (opcode : Opcode) : List Text :=
  (right.take opcode.rightEnd).drop opcode.rightStart

/-- What the tag says of the two blocks. -/
def Opcode.Fits (opcode : Opcode) : Prop :=
  match opcode.tag with
  | .equal => opcode.leftBlock left = opcode.rightBlock right
  | .delete => opcode.rightStart = opcode.rightEnd
  | .insert => opcode.leftStart = opcode.leftEnd
  | .replace => True

/-- The opcodes tile what is left of both sequences, in order. -/
inductive Tiles : Nat → Nat → List Opcode → Prop
  | nil : Tiles left.length right.length []
  | cons {opcode : Opcode} {opcodes : List Opcode} (leftLe : opcode.leftStart ≤ opcode.leftEnd)
      (rightLe : opcode.rightStart ≤ opcode.rightEnd) (fits : opcode.Fits left right)
      (rest : Tiles opcode.leftEnd opcode.rightEnd opcodes) :
      Tiles opcode.leftStart opcode.rightStart (opcode :: opcodes)

/-- The lines that an opcode takes away. -/
def Opcode.removed (opcode : Opcode) : List Text :=
  if opcode.tag = .delete ∨ opcode.tag = .replace then opcode.leftBlock left else []

def Opcode.added (opcode : Opcode) : List Text :=
  if opcode.tag = .insert ∨ opcode.tag = .replace then opcode.rightBlock right else []

/-- A line of a unified diff below its two headers. -/
inductive HunkLine
  | header (text : Text)
  | context (line : Text)
  | removed (line : Text)
  | added (line : Text)

def HunkLine.text : HunkLine → Text
  | .header text => '@' :: '@' :: text
  | .context line => ' ' :: line
  | .removed line => '-' :: line
  | .added line => '+' :: line

def HunkLine.removed? : HunkLine → Option Text
  | .removed line => some line
  | _ => none

def HunkLine.added? : HunkLine → Option Text
  | .added line => some line
  | _ => none

/-- `difflib`: opcodes that tile both sequences, and a unified diff that shows what they
take away and put in. -/
structure DiffLibrary where
  opcodes : List Text → List Text → List Opcode
  hunks : List Text → List Text → List HunkLine
  tiles : ∀ left right, Tiles left right 0 0 (opcodes left right)
  removed : ∀ left right, (hunks left right).filterMap HunkLine.removed? =
    (opcodes left right).flatMap (Opcode.removed left)
  added : ∀ left right, (hunks left right).filterMap HunkLine.added? =
    (opcodes left right).flatMap (Opcode.added right)

/-- `difflib.unified_diff`. -/
def DiffLibrary.unifiedDiff (lib : DiffLibrary) (fromName toName : Text) : List Text :=
  match lib.hunks left right with
  | [] => []
  | hunks => ("--- ".toList ++ fromName) :: ("+++ ".toList ++ toName) :: hunks.map HunkLine.text

/-! ## Rows -/

/-- `=`, `-`, `+` and `~`. -/
inductive RowStatus
  | equal | removed | added | modified
  deriving DecidableEq

/-- A row of the comparison side by side. -/
structure SideBySideDiffRow where
  leftLine : Option Nat
  leftText : Text
  status : RowStatus
  rightLine : Option Nat
  rightText : Text
  deriving DecidableEq

/-- The rows of an equal block. -/
def equalRows : Nat → Nat → List Text → List Text → List SideBySideDiffRow
  | i, j, left :: lefts, right :: rights =>
    ⟨some (i + 1), left, .equal, some (j + 1), right⟩ :: equalRows (i + 1) (j + 1) lefts rights
  | _, _, _, _ => []

/-- The rows of a removed block. -/
def removedRows : Nat → List Text → List SideBySideDiffRow
  | i, left :: lefts => ⟨some (i + 1), left, .removed, none, []⟩ :: removedRows (i + 1) lefts
  | _, [] => []

/-- The rows of an added block. -/
def addedRows : Nat → List Text → List SideBySideDiffRow
  | j, right :: rights => ⟨none, [], .added, some (j + 1), right⟩ :: addedRows (j + 1) rights
  | _, [] => []

/-- The rows of a replaced block: pairs, and the surplus of one side. -/
def replacedRows : Nat → Nat → List Text → List Text → List SideBySideDiffRow
  | i, j, left :: lefts, right :: rights =>
    ⟨some (i + 1), left, .modified, some (j + 1), right⟩ ::
      replacedRows (i + 1) (j + 1) lefts rights
  | i, _, lefts, [] => removedRows i lefts
  | _, j, [], rights => addedRows j rights

/-- The rows of an opcode. -/
def Opcode.rows (opcode : Opcode) : List SideBySideDiffRow :=
  match opcode.tag with
  | .equal => equalRows opcode.leftStart opcode.rightStart (opcode.leftBlock left)
      (opcode.rightBlock right)
  | .delete => removedRows opcode.leftStart (opcode.leftBlock left)
  | .insert => addedRows opcode.rightStart (opcode.rightBlock right)
  | .replace => replacedRows opcode.leftStart opcode.rightStart (opcode.leftBlock left)
      (opcode.rightBlock right)

/-- What `build_side_by_side_rows` returns. -/
structure SideBySide where
  rows : List SideBySideDiffRow
  (added removed modifiedBlocks : Nat)

/-- One turn of the loop; of a replaced block only the surplus is counted. -/
def SideBySide.add (result : SideBySide) (opcode : Opcode) : SideBySide :=
  let leftLength := (opcode.leftBlock left).length
  let rightLength := (opcode.rightBlock right).length
  { rows := result.rows ++ opcode.rows left right
    added := result.added +
      match opcode.tag with
      | .insert => rightLength
      | .replace => rightLength - leftLength
      | _ => 0
    removed := result.removed +
      match opcode.tag with
      | .delete => leftLength
      | .replace => leftLength - rightLength
      | _ => 0
    modifiedBlocks := result.modifiedBlocks + if opcode.tag = .replace then 1 else 0 }

/-- The rows of two texts, with their counts. -/
def buildSideBySideRows (lib : DiffLibrary) : SideBySide :=
  (lib.opcodes left right).foldl (SideBySide.add left right) ⟨[], 0, 0, 0⟩

/-! ## The comparison -/

/-- What a comparison of two configurations returns. -/
structure ConfigDiffResult where
  (added removed : List Text)
  modified : List (Text × Text)
  rawDiff : Text

/-- The lines that begin with a sign, but not with three, without the sign. -/
def signedLines (sign : Char) (diffLines : List Text) : List Text :=
  (diffLines.filter fun line =>
    [sign].isPrefixOf line && !([sign, sign, sign].isPrefixOf line)).map (List.drop 1)

/-- What is told of two lists of lines. -/
def compareLines (lib : DiffLibrary) (fromName toName : Text) : ConfigDiffResult :=
  let diffLines := lib.unifiedDiff left right fromName toName
  { added := signedLines '+' diffLines
    removed := signedLines '-' diffLines
    modified := ((buildSideBySideRows left right lib).rows.filter fun row =>
      row.status = .modified).map fun row => (row.leftText, row.rightText)
    rawDiff := joinLines diffLines }

/-- The lines that `compare_named_config_text` compares. -/
def comparedLines (lib : TextLibrary) (text : Text) : List Text :=
  splitLines (cleanConfigForDiff lib text)

/-- What is told of two named configurations. -/
def compareNamedConfigText (texts : TextLibrary) (lib : DiffLibrary)
    (fromConfigText toConfigText fromName toName : Text) : ConfigDiffResult :=
  compareLines (comparedLines texts fromConfigText) (comparedLines texts toConfigText) lib
    fromName toName

end NetConsole.ConfigText
