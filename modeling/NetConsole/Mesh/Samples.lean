import NetConsole.Foundations.ScopedLists
import NetConsole.Worker.Protocol
import Mathlib.Data.String.Basic

/-!
# Samples of a mesh log

A sample says what one radio of one source file saw at one time. The source file
and the radio are the scope of a sample; the analyses of mesh quality look at the
samples of a scope in their order.

The arithmetic of Python's floats is not modelled: `MeshLibrary` collects the
operations on numbers, the parsing of times and the formatting that the analyses
use. A time is a number of microseconds after `datetime.min`.
-/

set_option autoImplicit false

namespace NetConsole.Mesh

open Foundations
open Worker (strip)

/-! ## Samples and rows -/

/-- A source file and a radio. -/
abbrev Scope := Int × Int

/-- A row of `sample_quality`, as far as the analyses read it. A missing number is
`none`, a missing text is empty. -/
structure MeshSample (Number : Type) where
  (sourceFileId radio : Int)
  (sampleTime activePeerKey activePeerMac : String)
  (activePeerCount standbyPeerCount availableBackupCount : Int)
  bestBackupPeerMac : String
  (bestBackupRssi activeMrRssi activeTxBusy activeRxBusy maxTxBusy maxRxBusy : Option Number)
  sourceFile : String
  sourceLineNumber : Int

def MeshSample.scope {Number : Type} (sample : MeshSample Number) : Scope :=
  (sample.sourceFileId, sample.radio)

/-- A row of the mesh log, as far as `_finish_segment` reads it. -/
structure MeshRow where
  radio : Int
  (sampleTime peerMacNormalized peerMac peerMacRaw peerApName peerApMac peerSite peerRadio
    peerRadioLabel peerRadioMac : String)

/-- The thresholds of the quality rules. -/
structure MeshQualityRules where
  rssiGoodThreshold : Int := 30
  rssiWarningThreshold : Int := 25
  rssiBadThreshold : Int := 20
  backupAvailableThreshold : Int := 30
  busyWarningThreshold : Int := 60
  busyBadThreshold : Int := 75
  noBackupMinSeconds : Int := 5
  weakActiveMinSeconds : Int := 3
  switchLateWindowSeconds : Int := 5
  switchTargetWindowSeconds : Int := 5
  mainLinkSwitchTimeMs : Int := 2500
  pingpongToleranceMs : Int := 500
  pingpongReturnWindowMs : Option Int := none
  shortActiveSegmentSeconds : Int := 5

/-! ## The standard library -/

/-- What the standard library computes. `strptime` tries the four formats of
`_parse_time`; `milliseconds` is `int(round(value * 1000))`; `general` and
`twoDecimals` are the formats `g` and `.2f`, the latter of thousandths. `figures`
are the columns of a segment that no later step reads; they are computed from the
samples and the rows of the segment. -/
structure MeshLibrary (Number Figures : Type) where
  fromIsoFormat : String → Option Int
  strptime : String → Option Int
  lower : String → String
  ofInt : Int → Number
  less : Number → Number → Bool
  add : Number → Number → Number
  totalSeconds : Int → Number
  round3 : Number → Number
  milliseconds : Number → Int
  mean : List Number → Number
  median : List Number → Number
  general : Number → String
  twoDecimals : Int → String
  figures : MeshQualityRules → List (MeshSample Number) → List MeshRow → Figures

variable {Number Figures : Type} (lib : MeshLibrary Number Figures)

/-! ## Times -/

def dtOrNone (value : String) : Option Int :=
  let text := String.ofList (strip value.toList)
  if text = "" then none else lib.fromIsoFormat text

def dt (value : String) : Int := (dtOrNone lib value).getD 0

def parseTime (value : String) : Option Int :=
  if value = "" then none else (lib.fromIsoFormat value).or (lib.strptime value)

def secondsBetween (start finish : String) : Option Number := do
  let start ← parseTime lib start
  let finish ← parseTime lib finish
  return lib.totalSeconds (finish - start)

/-- The rows between two times of an index: `rows[bisect_left:bisect_right]`. -/
def rowsBetween {Row : Type} (time : Row → String) (rows : List Row) (start finish : Int) :
    List Row :=
  ((sortBy (fun row => dt lib (time row)) rows).dropWhile
    fun row => dt lib (time row) < start).takeWhile fun row => dt lib (time row) ≤ finish

/-! ## Numbers -/

/-- The numbers that are there. -/
def finite (values : List (Option Number)) : List Number := values.filterMap id

/-- `_avg`; `none` is the empty text. -/
def avg (values : List (Option Number)) : Option Number :=
  if (finite values).isEmpty then none else some (lib.round3 (lib.mean (finite values)))

/-- `min` of some numbers: the first of the least. -/
def minimum : List Number → Option Number
  | [] => none
  | value :: rest => some (rest.foldl (fun least other =>
      if lib.less other least then other else least) value)

/-- `max` of some numbers: the first of the greatest. -/
def maximum : List Number → Option Number
  | [] => none
  | value :: rest => some (rest.foldl (fun greatest other =>
      if lib.less greatest other then other else greatest) value)

def canonical (value : String) : String :=
  String.ofList ((lib.lower value).toList.filter ("0123456789abcdef".toList.contains ·))

/-- `first or second`. -/
def textOr (first second : String) : String := if first = "" then second else first

def formatMacH3c (value : String) : String :=
  let characters := value.toList
  if characters.length = 12 then
    String.ofList (characters.take 4) ++ "-" ++ String.ofList ((characters.drop 4).take 4) ++ "-" ++
      String.ofList (characters.drop 8)
  else value

/-! ## A small library -/

/-- Whole numbers, and times of which the last digit counts the seconds. -/
def integerLibrary : MeshLibrary Int Unit where
  fromIsoFormat text :=
    text.toList.getLast?.map fun digit => (digit.toNat - '0'.toNat : Int) * 1000000
  strptime _ := none
  lower := id
  ofInt := id
  less one two := decide (one < two)
  add := (· + ·)
  totalSeconds := (· / 1000000)
  round3 := id
  milliseconds := (· * 1000)
  mean values := values.sum / values.length
  median values := values.headD 0
  general := toString
  twoDecimals := toString
  figures _ _ _ := ()

/-- A sample of a source file with a main link. -/
def linkedSample (radio : Int) (sampleTime : String) : MeshSample Int where
  sourceFileId := 1
  radio := radio
  sampleTime := sampleTime
  activePeerKey := "00e0fc000001"
  activePeerMac := "00e0-fc00-0001"
  activePeerCount := 1
  standbyPeerCount := 0
  availableBackupCount := 0
  bestBackupPeerMac := ""
  bestBackupRssi := none
  activeMrRssi := some 40
  activeTxBusy := none
  activeRxBusy := none
  maxTxBusy := none
  maxRxBusy := none
  sourceFile := "mesh.log"
  sourceLineNumber := 1

/-! ## Numbered rows -/

/-- A row of a report with its number, which counts the rows of all scopes. -/
structure Numbered (Row : Type) where
  sequence : Nat
  row : Row

/-- The rows in their order, numbered from one. -/
def numbered {Row : Type} (rows : List Row) : List (Numbered Row) :=
  (rows.zipIdx 1).map fun (row, sequence) => ⟨sequence, row⟩

@[simp] theorem map_row_numbered {Row : Type} (rows : List Row) :
    (numbered rows).map (·.row) = rows := by
  simp [numbered, Function.comp_def]

theorem row_mem {Row : Type} {rows : List Row} {entry : Numbered Row}
    (mem : entry ∈ numbered rows) : entry.row ∈ rows := by
  have inRows : entry.row ∈ (numbered rows).map (·.row) := List.mem_map_of_mem mem
  rwa [map_row_numbered] at inRows

theorem map_row_sortBy {Row Key : Type} [LinearOrder Key] (key : Row → Key) (rows : List Row) :
    (sortBy (fun entry : Numbered Row => key entry.row) (numbered rows)).map (·.row) =
      sortBy key rows := by
  rw [map_sortBy (fun entry : Numbered Row => entry.row) _ key fun _ => rfl, map_row_numbered]

end NetConsole.Mesh
