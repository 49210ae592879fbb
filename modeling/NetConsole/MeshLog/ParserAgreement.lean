import Mathlib.Data.List.ReduceOption
import NetConsole.ApIdentity.OrderIndependence
import NetConsole.Foundations.FallibleMaps
import NetConsole.MeshLog.LogParser

/-!
# Two parsers of one log

`parse_file` forgets the sample time at a header that it cannot read, and
`parse_mesh_link_table` keeps it, so the lines below such a header are records for the
table only. The two return the same records exactly when these lines change nothing:
none of them stays in the table, and none makes a snapshot of other lines invalid
(`parsersAgree_iff`).
-/

set_option autoImplicit false

namespace NetConsole.MeshLog

open Foundations List
open Worker (strip)

variable {Time : Type} {lib : LogLibrary Time}

/-! ## A line and its place -/

/-- A record as another place would have it. -/
def MeshLogRecord.at (source : LineSource) (record : MeshLogRecord Time) : MeshLogRecord Time :=
  { record with
    sourceLineNumber := source.lineNumber, rawLine := source.rawLine }

variable {stripped : Text} {source other : LineSource} {state : HeaderState Time}

theorem readFields_at {time : Time} {tag : Option Text} {parts : List Text} {linkCount : Int}
    {issues issues' : List RowIssue} :
    (readFields lib source time tag parts linkCount issues).map Prod.fst =
      (readFields lib other time tag parts linkCount issues').map
        fun parsed => parsed.1.map (·.at source) := by
  simp only [readFields]
  cases stripRadio lib (parts.getD 0 []) with
  | error raised => rfl
  | ok radio =>
    cases radio with
    | none => rfl
    | some radio =>
      simp only [bind]
      cases parseLinkState lib (parts.getD 1 []) with
      | none => rfl
      | some linkState =>
        simp only
        cases parseDurationSeconds lib ((parts.drop 5).take 4) with
        | error raised => rfl
        | ok duration => cases lib.epochMs time <;> rfl

variable (other) in
/-- A record takes nothing from its place but the place. -/
theorem parseRecordLine_at : (parseRecordLine lib stripped source state).map Prod.fst =
      (parseRecordLine lib stripped other state).map fun parsed => parsed.1.map (·.at source) := by
  unfold parseRecordLine
  split
  · simp only
    split
    · rfl
    · split
      · rfl
      · split
        · rfl
        · exact readFields_at
  · rfl

variable (lib stripped source) in
theorem parseRecordLine_untimed (untimed : state.sampleTime = none) :
    ∃ issues, parseRecordLine lib stripped source state = .ok (none, issues) := by
  unfold parseRecordLine
  rw [untimed]
  exact ⟨_, rfl⟩

/-! ## Invalid snapshots -/

/-- A snapshot with an ACTIVE record without links. -/
def Invalid (records : List (MeshLogRecord Time)) (key : SnapshotKey Time) : Prop :=
  ∃ zero ∈ records, zero.IsInvalidActive ∧ zero.key = key

instance [DecidableEq Time] (records : List (MeshLogRecord Time)) (key : SnapshotKey Time) :
    Decidable (Invalid records key) := inferInstanceAs (Decidable (∃ _ ∈ _, _))

/-- The records that the filter keeps. -/
def kept [DecidableEq Time] (records : List (MeshLogRecord Time)) : List (MeshLogRecord Time) :=
  records.filter fun record => ¬Invalid records record.key ∧ record.linkCount ≠ 0

theorem snapshotIssue_isSome {group : SnapshotKey Time × List (MeshLogRecord Time)} :
    (snapshotIssue lib group).isSome = true ↔ ∃ zero ∈ group.2, zero.IsInvalidActive := by
  rw [snapshotIssue, Option.isSome_map, List.find?_isSome]
  simp

theorem mem_invalidGroups [DecidableEq Time] {records : List (MeshLogRecord Time)}
    {key : SnapshotKey Time} : key ∈ ((groupItems MeshLogRecord.key records).filter
      fun group => (snapshotIssue lib group).isSome).map Prod.fst ↔ Invalid records key := by
  have grouped : GroupsOf MeshLogRecord.key records _ := groupItems_spec records
  simp only [mem_map, mem_filter, snapshotIssue_isSome]
  constructor
  · rintro ⟨group, ⟨mem, zero, inGroup, invalid⟩, rfl⟩
    rw [grouped.holds group mem, mem_filter, decide_eq_true_eq] at inGroup
    exact ⟨zero, inGroup.1, invalid, inGroup.2⟩
  · rintro ⟨zero, mem, invalid, rfl⟩
    obtain ⟨group, found, isKey⟩ :=
      mem_map.mp (grouped.named.mpr (mem_map.mpr ⟨zero, mem, rfl⟩))
    refine ⟨group, ⟨found, zero, ?_, invalid⟩, isKey⟩
    rw [grouped.holds group found, mem_filter]
    exact ⟨mem, by simp [isKey]⟩

theorem filtered_records [DecidableEq Time] (records : List (MeshLogRecord Time)) :
    (filterInvalidLinkCountSnapshots lib records).records = kept records := by
  unfold filterInvalidLinkCountSnapshots kept
  simp only [mem_invalidGroups]

/-! ## The records of the lines -/

/-- The line is a row of a table. -/
def isRecordLine (lib : LogLibrary Time) (rawLine : Text) : Bool :=
  (matchTimestamp lib (strip rawLine)).isNone && (strip rawLine).head? = some '['

/-- The record of a line, if it has one. -/
def lineRecord (lib : LogLibrary Time) (source : LineSource) (state : HeaderState Time) :
    Except Raised (Option (MeshLogRecord Time)) :=
  if isRecordLine lib source.rawLine then
    (parseRecordLine lib (strip source.rawLine) source state).map Prod.fst
  else .ok none

/-- The header state behind a line. -/
def stateAfter (lib : LogLibrary Time) (rules : HeaderRules Time) (state : HeaderState Time)
    (line : Text) : HeaderState Time :=
  match matchTimestamp lib (strip (rawOf line)) with
  | some header => (readHeader lib rules state header).1
  | none => state

/-- The records of the lines, as far as nothing raises. -/
def lineRecords (lib : LogLibrary Time) (rules : HeaderRules Time) :
    Nat → HeaderState Time → List Text → Except Raised (List (Option (MeshLogRecord Time)))
  | _, _, [] => .ok []
  | number, state, line :: rest => do
    let record ← lineRecord lib ⟨number, rawOf line⟩ state
    let records ← lineRecords lib rules (number + 1) (stateAfter lib rules state line) rest
    return record :: records

variable {rules : HeaderRules Time} {number : Nat} {line : Text}
  {lines : List Text} {records : List (Option (MeshLogRecord Time))}

theorem lineRecord_at (same : source.rawLine = other.rawLine) : lineRecord lib source state =
      (lineRecord lib other state).map (Option.map (·.at source)) := by
  unfold lineRecord
  rw [same]
  split
  · rw [parseRecordLine_at other]
    cases parseRecordLine lib (strip other.rawLine) other state <;> rfl
  · rfl

theorem lineRecord_placed {record : MeshLogRecord Time}
    (found : lineRecord lib source state = .ok (some record)) : record.at source = record := by
  have own : lineRecord lib source state =
      (lineRecord lib source state).map (Option.map (·.at source)) := lineRecord_at rfl
  rw [found] at own
  exact (Option.some.inj (Except.ok.inj own)).symm

theorem lineRecord_untimed (untimed : state.sampleTime = none) :
    lineRecord lib source state = .ok none := by
  unfold lineRecord
  split
  · obtain ⟨_, parsed⟩ := parseRecordLine_untimed lib (strip source.rawLine) source untimed
    rw [parsed]
    rfl
  · rfl

variable (lib state rules number line) in
/-- One turn of the loop: the state, the record and whether the line is skipped. -/
theorem readLine_spec : (readLine lib rules number state line).map
        (fun read => (read.1, read.2.record?, read.2.isSkipped)) =
      (lineRecord lib ⟨number, rawOf line⟩ state).map fun record =>
        (stateAfter lib rules state line, record,
          isRecordLine lib (rawOf line) && record.isNone) := by
  cases matched : matchTimestamp lib (strip (rawOf line)) with
  | some header =>
    simp only [readLine, lineRecord, stateAfter, isRecordLine, matched]
    rfl
  | none =>
    by_cases bracket : (strip (rawOf line)).head? = some '['
    · simp only [readLine, lineRecord, stateAfter, isRecordLine, matched, bracket]
      rcases parseRecordLine lib (strip (rawOf line)) ⟨number, rawOf line⟩ state
        with raised | ⟨_ | record, issues⟩ <;> rfl
    · simp only [readLine, lineRecord, stateAfter, isRecordLine, matched, bracket]
      rfl

/-- The loop raises where a record of a line does. -/
theorem readLines_error {raised : Raised}
    (stopped : lineRecords lib rules number state lines = .error raised) :
    (readLines lib rules number state lines).2 = some raised := by
  induction lines generalizing number state with
  | nil => cases stopped
  | cons line rest ih =>
    have spec := readLine_spec lib state rules number line
    rw [lineRecords] at stopped
    rw [readLines]
    cases found : lineRecord lib ⟨number, rawOf line⟩ state with
    | error first =>
      rw [found] at spec stopped
      cases stopped
      cases read : readLine lib rules number state line with
      | error other => rw [read] at spec; cases spec; rfl
      | ok read' => rw [read] at spec; cases spec
    | ok record =>
      rw [found] at spec stopped
      cases read : readLine lib rules number state line with
      | error other => rw [read] at spec; cases spec
      | ok result =>
        rw [read] at spec
        have after := congrArg Prod.fst (Except.ok.inj spec)
        simp only at after ⊢
        rw [after]
        apply ih
        cases later : lineRecords lib rules (number + 1)
            (stateAfter lib rules state line) rest with
        | error other => rw [later] at stopped; cases stopped; rfl
        | ok records => rw [later] at stopped; cases stopped

variable (read : lineRecords lib rules number state lines = .ok records)
include read

theorem readLines_ok : (readLines lib rules number state lines).2 = none ∧
      (readLines lib rules number state lines).1.map LineOutcome.record? = records ∧
      (readLines lib rules number state lines).1.map LineOutcome.isSkipped =
        (lines.zip records).map fun entry =>
          isRecordLine lib (rawOf entry.1) && entry.2.isNone := by
  induction lines generalizing number state records with
  | nil => cases read; exact ⟨rfl, rfl, rfl⟩
  | cons line rest ih =>
    rw [lineRecords] at read
    obtain ⟨record, found, read⟩ := bind_eq_ok.mp read
    obtain ⟨later, others, read⟩ := bind_eq_ok.mp read
    cases read
    have spec := readLine_spec lib state rules number line
    rw [found] at spec
    rw [readLines]
    cases turn : readLine lib rules number state line with
    | error other => rw [turn] at spec; cases spec
    | ok result =>
      rw [turn] at spec
      obtain ⟨_, _⟩ := result
      have spec := Except.ok.inj spec
      simp only [Prod.mk.injEq] at spec
      obtain ⟨rfl, isRecord, isSkipped⟩ := spec
      obtain ⟨ends, records, skips⟩ := ih others
      exact ⟨ends, by simp [isRecord, records], by simp [isSkipped, skips]⟩

theorem lineRecords_placed : (∀ record ∈ records.reduceOption,
        number ≤ record.sourceLineNumber ∧ record.sourceLineNumber < number + lines.length) ∧
      (records.reduceOption).Pairwise fun first second =>
        first.sourceLineNumber < second.sourceLineNumber := by
  induction lines generalizing number state records with
  | nil =>
    cases read
    exact ⟨by simp, .nil⟩
  | cons line rest ih =>
    obtain ⟨record, found, read⟩ := bind_eq_ok.mp read
    obtain ⟨later, others, read⟩ := bind_eq_ok.mp read
    cases read
    obtain ⟨placed, ordered⟩ := ih others
    have behind : ∀ record ∈ later.reduceOption, number ≤ record.sourceLineNumber ∧
        record.sourceLineNumber < number + (line :: rest).length := by
      intro record mem
      have := placed record mem
      rw [length_cons]
      omega
    cases record with
    | none => exact ⟨behind, ordered⟩
    | some record =>
      have isNumber : record.sourceLineNumber = number := by
        rw [← lineRecord_placed found]
        rfl
      rw [reduceOption_cons_of_some]
      refine ⟨forall_mem_cons.mpr ⟨⟨isNumber.ge, ?_⟩, behind⟩, .cons ?_ ordered⟩
      · rw [isNumber]
        simp
      · intro other mem
        rw [isNumber]
        exact (placed other mem).1

omit read

variable (lines) in
/-- Only the raw lines count. -/
theorem lineRecords_raw : lineRecords lib rules number state (lines.map rawOf) =
      lineRecords lib rules number state lines := by
  induction lines generalizing number state with
  | nil => rfl
  | cons line rest ih =>
    have raw : rawOf (rawOf line) = rawOf line := rdropWhile_idempotent _ _
    simp only [map_cons, lineRecords, stateAfter, raw, ih]

/-- An empty line at the end adds nothing. -/
theorem lineRecords_blank : lineRecords lib rules number state (lines ++ [[]]) =
      (lineRecords lib rules number state lines).map (· ++ [none]) := by
  induction lines generalizing number state with
  | nil =>
    have blank : isRecordLine lib (rawOf []) = false := by
      simp [isRecordLine, rawOf, strip, Syslog.stripWhere]
    simp [lineRecords, lineRecord, blank]
    rfl
  | cons line rest ih =>
    rw [cons_append, lineRecords, lineRecords, ih]
    cases lineRecord lib ⟨number, rawOf line⟩ state with
    | error raised => rfl
    | ok record =>
      cases lineRecords lib rules (number + 1)
        (stateAfter lib rules state line) rest <;> rfl

/-! ## Lines below an unreadable header -/

/-- Where the last header above cannot be read, line by line. -/
def untimedLines (lib : LogLibrary Time) : HeaderState Time → List Text → List Bool
  | _, [] => []
  | state, line :: rest =>
    state.sampleTime.isNone :: untimedLines lib (stateAfter lib fileRules state line) rest

def markRecords (marks : List Bool) (records : List (Option (MeshLogRecord Time))) :
    List (Bool × MeshLogRecord Time) :=
  (marks.zip records).filterMap fun (mark, record) => record.map fun record => (mark, record)

/-- The records under a header that was read. -/
def timely (marked : List (Bool × MeshLogRecord Time)) : List (MeshLogRecord Time) :=
  (marked.filter fun entry => !entry.1).map Prod.snd

/-- The marked records change nothing: the filter leaves each of them out, and none makes
a snapshot of the others invalid that would be kept without it. -/
structure StaleHarmless (marked : List (Bool × MeshLogRecord Time)) : Prop where
  left : ∀ record, (true, record) ∈ marked →
    record.linkCount = 0 ∨ Invalid (marked.map Prod.snd) record.key
  spared : ∀ record, (false, record) ∈ marked → record.linkCount ≠ 0 →
    Invalid (marked.map Prod.snd) record.key → Invalid (timely marked) record.key

variable {marked : List (Bool × MeshLogRecord Time)}

theorem mem_timely {record : MeshLogRecord Time} :
    record ∈ timely marked ↔ (false, record) ∈ marked := by
  simp [timely]

theorem timely_append {more : List (Bool × MeshLogRecord Time)} :
    timely (marked ++ more) = timely marked ++ timely more := by
  simp [timely]

theorem Invalid.ofTimely {key : SnapshotKey Time} (invalid : Invalid (timely marked) key) :
    Invalid (marked.map Prod.snd) key := by
  obtain ⟨zero, mem, active, isKey⟩ := invalid
  exact ⟨zero, mem_map.mpr ⟨_, mem_timely.mp mem, rfl⟩, active, isKey⟩

theorem kept_eq_iff [DecidableEq Time] (once : (marked.map Prod.snd).Nodup) :
    kept (marked.map Prod.snd) = kept (timely marked) ↔ StaleHarmless marked := by
  constructor
  · intro equal
    constructor
    · intro record stale
      by_contra stays
      obtain ⟨counted, valid⟩ := not_or.mp stays
      have mem : record ∈ kept (marked.map Prod.snd) :=
        mem_filter.mpr ⟨mem_map.mpr ⟨_, stale, rfl⟩, by simp [valid, counted]⟩
      rw [equal] at mem
      have both := mem_timely.mp (mem_filter.mp mem).1
      cases inj_on_of_nodup_map once stale both rfl
    · intro record there counted invalid
      by_contra valid
      have mem : record ∈ kept (timely marked) :=
        mem_filter.mpr ⟨mem_timely.mpr there, by simp [valid, counted]⟩
      rw [← equal] at mem
      have stays := (mem_filter.mp mem).2
      simp [invalid] at stays
  · rintro ⟨left, spared⟩
    unfold kept
    rw [timely, filter_map, filter_map, filter_filter]
    congr 1
    apply filter_congr
    rintro ⟨stale, record⟩ mem
    cases stale with
    | true =>
      rcases left record mem with none' | invalid
      · simp [none']
      · simp [invalid]
    | false =>
      by_cases none' : record.linkCount = 0
      · simp [none']
      · have same : Invalid (marked.map Prod.snd) record.key ↔ Invalid (timely marked) record.key :=
          ⟨spared record mem none', Invalid.ofTimely⟩
        simp [same, timely]

variable {file table : HeaderState Time}
  (related : file = table ∨ file = { table with sampleTime := none })
include related

theorem stateAfter_related :
    stateAfter lib fileRules file line = stateAfter lib tableRules table line ∨
      stateAfter lib fileRules file line =
        { stateAfter lib tableRules table line with sampleTime := none } := by
  unfold stateAfter
  cases matchTimestamp lib (strip (rawOf line)) with
  | none => exact related
  | some header =>
    simp only [readHeader]
    cases parseInt lib header.radio with
    | none => rcases related with rfl | rfl <;> exact .inr rfl
    | some radio =>
      cases parseSampleTime lib header.date header.time with
      | none => rcases related with rfl | rfl <;> exact .inr rfl
      | some time => exact .inl rfl

/-- The file has the records of the table that are not marked. -/
theorem lineRecords_file (read : lineRecords lib tableRules number table lines = .ok records) :
    (markRecords (untimedLines lib file lines) records).map Prod.snd = records.reduceOption ∧
      ∃ others, lineRecords lib fileRules number file lines = .ok others ∧
        others.reduceOption = timely (markRecords (untimedLines lib file lines) records) := by
  induction lines generalizing number file table records with
  | nil =>
    cases read
    exact ⟨rfl, [], rfl, rfl⟩
  | cons line rest ih =>
    obtain ⟨record, found, read⟩ := bind_eq_ok.mp read
    obtain ⟨later, behind, read⟩ := bind_eq_ok.mp read
    cases read
    obtain ⟨marks, others, fileRead, fileRecords⟩ := ih (stateAfter_related related) behind
    have here : lineRecord lib ⟨number, rawOf line⟩ file =
        .ok (if file.sampleTime.isNone then none else record) := by
      cases untimed : file.sampleTime with
      | none => exact lineRecord_untimed untimed
      | some time =>
        rcases related with rfl | rfl
        · exact found
        · cases untimed
    have marked : markRecords (untimedLines lib file (line :: rest)) (record :: later) =
        (record.map fun record => (file.sampleTime.isNone, record)).toList ++
          markRecords (untimedLines lib (stateAfter lib fileRules file line) rest) later := by
      cases record <;> rfl
    rw [marked, timely_append, map_append, marks, ← fileRecords]
    refine ⟨by cases record <;> rfl,
      (if file.sampleTime.isNone then none else record) :: others, ?_, ?_⟩
    · simp only [lineRecords, here, fileRead]
      rfl
    · cases record <;> cases file.sampleTime <;> rfl

omit related

/-! ## The two parsers -/

/-- A text whose only line separator is the newline. -/
structure NewlineText where
  text : Text
  newlineOnly : ∀ char ∈ text, isLineEnd char = true → char = '\n'

/-- Both parsers return the same records for a file and for its text. -/
def ParsersAgree [DecidableEq Time] (lib : LogLibrary Time) (content : NewlineText) : Prop :=
  ∃ records,
    (parseFile lib (decodedLines content.text)).map (fun parsed => parsed.2.1) = .ok records ∧
    (parseMeshLinkTable lib (cleanDeviceText content.text)).map Prod.fst = .ok records

/-- The lines that both parsers read. -/
def NewlineText.rawLines (content : NewlineText) : List Text :=
  splitLines (cleanDeviceText content.text)

section Results

variable [DecidableEq Time]

variable (lib) in
theorem finish_records {outcomes : List (LineOutcome Time)} (issues : List RowIssue)
    (parsed : outcomes.map LineOutcome.record? = records) :
    (finish lib outcomes issues).1 = (kept records.reduceOption).zipIdx 1 := by
  have isRecords : outcomes.filterMap LineOutcome.record? = records.reduceOption := by
    rw [← parsed, List.reduceOption, filterMap_map]
    rfl
  rw [finish, filtered_records, isRecords]

theorem parseMeshLinkTable_records {text : Text}
    (read : lineRecords lib tableRules 1 .start (splitLines text) = .ok records) :
    (parseMeshLinkTable lib text).map Prod.fst = .ok ((kept records.reduceOption).zipIdx 1) := by
  obtain ⟨ends, parsed, _⟩ := readLines_ok read
  rw [parseMeshLinkTable]
  generalize readLines lib tableRules 1 .start (splitLines text) = run at *
  obtain ⟨_, _⟩ := run
  cases ends
  exact congrArg Except.ok (finish_records lib _ parsed)

theorem parseFile_records (read : lineRecords lib fileRules 1 .start lines = .ok records) :
    ∃ file issues, parseFile lib lines =
      .ok (file, (kept records.reduceOption).zipIdx 1, issues) ∧ file.status = "done" := by
  obtain ⟨ends, parsed, _⟩ := readLines_ok read
  rw [parseFile]
  generalize readLines lib fileRules 1 .start lines = run at *
  obtain ⟨outcomes, _⟩ := run
  cases ends
  rw [← finish_records lib (outcomes.flatMap LineOutcome.issues ++ []) parsed]
  exact ⟨_, _, rfl, rfl⟩

end Results

theorem pieces_congr {one two : Char → Bool} {text : Text}
    (same : ∀ char ∈ text, one char = two char) :
    pieces one text = pieces two text := by
  induction text with
  | nil => rfl
  | cons char rest ih =>
    rw [pieces, pieces, same char mem_cons_self,
      ih fun other mem => same other (mem_cons_of_mem _ mem)]

/-- Characters taken out of the lines may leave an empty one at the end. -/
theorem pieces_filter (stays : Char → Bool) (newline : stays '\n' = true) (text : Text) :
    ∃ tail, (tail = [] ∨ tail = [[]]) ∧ (pieces (· = '\n') text).map (List.filter stays) =
        pieces (· = '\n') (text.filter stays) ++ tail := by
  induction text with
  | nil => exact ⟨[], .inl rfl, rfl⟩
  | cons char rest ih =>
    obtain ⟨tail, isTail, equal⟩ := ih
    by_cases isNewline : char = '\n'
    · subst isNewline
      exact ⟨tail, isTail, by simp [pieces, newline, equal]⟩
    · cases lines : pieces (· = '\n') rest with
      | nil =>
        rw [lines] at equal
        obtain ⟨none', rfl⟩ := append_eq_nil_iff.mp equal.symm
        cases kept : stays char with
        | false => exact ⟨[[]], .inr rfl, by simp [pieces, lines, kept, none']⟩
        | true => exact ⟨[], .inl rfl, by simp [pieces, lines, kept, none']⟩
      | cons line others =>
        rw [lines] at equal
        cases kept : stays char with
        | false => exact ⟨tail, isTail, by simpa [pieces, isNewline, lines, kept] using equal⟩
        | true =>
          cases filtered : pieces (· = '\n') (rest.filter stays) with
          | nil =>
            rw [filtered] at equal
            rcases isTail with rfl | rfl
            · cases equal
            · simp only [map_cons, nil_append, List.cons.injEq, map_eq_nil_iff] at equal
              exact ⟨[], .inl rfl, by
                simp [pieces, isNewline, lines, kept, filtered, equal.1, equal.2]⟩
          | cons line' others' =>
            rw [filtered] at equal
            simp only [map_cons, cons_append, List.cons.injEq] at equal
            exact ⟨tail, isTail, by
              simp [pieces, isNewline, lines, kept, filtered, equal.1, equal.2]⟩

theorem rdropWhile_congr {one two : Char → Bool} {text : Text}
    (same : ∀ char ∈ text, one char = two char) :
    text.rdropWhile one = text.rdropWhile two := by
  induction text using List.reverseRecOn with
  | nil => rfl
  | append_singleton text last ih =>
    rw [rdropWhile_concat, rdropWhile_concat, same last (by simp),
      ih fun char mem => same char (mem_append_left _ mem)]

/-- The lines of the file are those of its text, up to an empty one at the end. -/
theorem rawLines_spec (content : NewlineText) : ∃ tail, (tail = [] ∨ tail = [[]]) ∧
    (decodedLines content.text).map rawOf = content.rawLines.map rawOf ++ tail := by
  have noReturn : '\r' ∉ content.text := fun mem =>
    absurd (content.newlineOnly _ mem (by decide)) (by decide)
  obtain ⟨tail, isTail, equal⟩ := pieces_filter (· ≠ '\ufeff') (by decide) content.text
  have clean : (decodedLines content.text) =
      pieces (· = '\n') (content.text.filter (· ≠ '\ufeff')) ++ tail := by
    rw [decodedLines, ← equal]
    apply map_congr_left
    intro line isLine
    exact cleanDeviceText_eq fun mem => noReturn (mem_of_mem_pieces isLine mem)
  have ends : ∀ char ∈ content.text.filter (· ≠ '\ufeff'),
      isLineEnd char = decide (char = '\n') := by
    intro char mem
    by_cases isNewline : char = '\n'
    · subst isNewline
      rfl
    · simp only [isNewline, decide_false, Bool.eq_false_iff]
      exact fun isEnd =>
        isNewline (content.newlineOnly char (mem_filter.mp mem).1 isEnd)
  refine ⟨tail, isTail, ?_⟩
  rw [clean, map_append, NewlineText.rawLines, splitLines, cleanDeviceText_eq noReturn,
    joinCrlf_eq fun mem => noReturn (mem_filter.mp mem).1, pieces_congr ends,
    map_map]
  congr 1
  · apply map_congr_left
    intro line isLine
    have same : line.rdropWhile isLineEnd = rawOf line :=
      rdropWhile_congr fun char mem => by
      have there := mem_of_mem_pieces isLine mem
      have noReturn' : char ≠ '\r' := fun same =>
        noReturn (mem_filter.mp (same ▸ there)).1
      rw [ends char there]
      simp [noReturn']
    rw [Function.comp_apply, same]
    exact (rdropWhile_idempotent _ _).symm
  · rcases isTail with rfl | rfl <;> rfl

variable (lib state rules number) in
theorem lineRecords_content (content : NewlineText) :
    lineRecords lib rules number state (decodedLines content.text) =
        lineRecords lib rules number state content.rawLines ∨
      lineRecords lib rules number state (decodedLines content.text) =
        (lineRecords lib rules number state content.rawLines).map (· ++ [none]) := by
  obtain ⟨_, isTail, equal⟩ := rawLines_spec content
  rw [← lineRecords_raw, equal, ← lineRecords_raw content.rawLines]
  rcases isTail with rfl | rfl
  · exact .inl (by rw [append_nil])
  · exact .inr lineRecords_blank

/-- The parsers agree exactly where nothing raises under the last readable header and the
lines below an unreadable one change nothing. -/
theorem parsersAgree_iff [DecidableEq Time] (lib : LogLibrary Time) (content : NewlineText) :
    ParsersAgree lib content ↔
      ∃ records, lineRecords lib tableRules 1 .start content.rawLines = .ok records ∧
        StaleHarmless (markRecords (untimedLines lib .start content.rawLines) records) := by
  cases table : lineRecords lib tableRules 1 .start content.rawLines with
  | error raised =>
    refine iff_of_false ?_ (by rintro ⟨_, same, _⟩; cases same)
    rintro ⟨_, _, found⟩
    have stops := readLines_error table
    rw [parseMeshLinkTable, ← NewlineText.rawLines] at found
    generalize readLines lib tableRules 1 .start content.rawLines = run at *
    obtain ⟨_, _⟩ := run
    cases stops
    cases found
  | ok records =>
    obtain ⟨all, others, read, unmarked⟩ := lineRecords_file (.inl rfl) table
    obtain ⟨own, ownRead, same⟩ : ∃ own,
        lineRecords lib fileRules 1 .start (decodedLines content.text) = .ok own ∧
          own.reduceOption = others.reduceOption := by
      rcases lineRecords_content lib .start fileRules 1 content with equal | equal
      · exact ⟨others, equal.trans read, rfl⟩
      · exact ⟨others ++ [none], by rw [equal, read]; rfl, by
          rw [reduceOption_append]
          exact append_nil _⟩
    have once : (records.reduceOption).Nodup := (lineRecords_placed table).2.imp fun less same =>
      Nat.ne_of_lt less (congrArg MeshLogRecord.sourceLineNumber same)
    obtain ⟨_, _, fileRead, _⟩ := parseFile_records ownRead
    rw [ParsersAgree, fileRead, parseMeshLinkTable_records table, same, unmarked, ← all]
    rw [← all] at once
    constructor
    · rintro ⟨found, inFile, inTable⟩
      refine ⟨records, rfl, (kept_eq_iff once).mp ?_⟩
      have equal := congrArg (List.map Prod.fst) (Except.ok.inj (inTable.trans inFile.symm))
      simpa only [zipIdx_map_fst] using equal
    · rintro ⟨_, equal, harmless⟩
      cases equal
      exact ⟨_, rfl, by rw [(kept_eq_iff once).mpr harmless]⟩

/-- The library on two headers of one day: the first hour of 2024, and no month 13. -/
def sampleLibrary : LogLibrary Int where
  python := { ApIdentity.asciiLibrary with
    intOfText text :=
      if text = "1" then .ok 1 else if text = "2" then .ok 2 else .error .valueError }
  isDecimal char := '0' ≤ char && char ≤ '9'
  strptime text format :=
    if format = "%Y/%m/%d %H:%M:%S" ∧ text = "2024/01/01 00:00:00".toList then some 1704067200
    else none
  epochMs time := .ok (time * 1000)
  secondsBetween later earlier := later - earlier
  isoformat _ := "2024-01-01 00:00:00.000"

theorem newlineOnly_of_all {text : Text}
    (all : (text.all fun char => !isLineEnd char || char = '\n') = true) :
    ∀ char ∈ text, isLineEnd char = true → char = '\n' := by
  intro char mem isEnd
  simpa [isEnd] using all_eq_true.mp all char mem

/-- A record line behind its radio. -/
def sampleFields : Text := "] Active - - - - - - - 1 - - - - - - - - - - - - -".toList

/-- A good header, one with an impossible date, and a record. -/
def staleText : NewlineText where
  text := "[1] 2024/01/01 00:00:00\n[1] 2024/13/01 00:00:00\n[1".toList ++ sampleFields
  newlineOnly := newlineOnly_of_all (by decide +kernel)

/-- A header with an impossible date leaves the one before in force for one parser only. -/
theorem not_parsersAgree : ¬∀ content, ParsersAgree sampleLibrary content := by
  intro agree
  obtain ⟨_, inFile, inTable⟩ := agree staleText
  have none' : (parseFile sampleLibrary (decodedLines staleText.text)).map
      (fun parsed => parsed.2.1.length) = .ok 0 := by decide +kernel
  have one : (parseMeshLinkTable sampleLibrary (cleanDeviceText staleText.text)).map
      (fun parsed => parsed.1.length) = .ok 1 := by decide +kernel
  obtain ⟨_, fileRead, nothing⟩ := map_eq_ok.mp none'
  obtain ⟨fromTable, tableRead, single⟩ := map_eq_ok.mp one
  rw [fileRead] at inFile
  rw [tableRead] at inTable
  have same := (Except.ok.inj inFile).trans (Except.ok.inj inTable).symm
  simp only [same, single] at nothing
  cases nothing

end NetConsole.MeshLog
