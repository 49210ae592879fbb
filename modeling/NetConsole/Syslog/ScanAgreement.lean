import NetConsole.Foundations.FallibleMaps
import NetConsole.Syslog.DeleteScope

/-!
# The scan of a raw file and its rewrite

A deletion reads a raw file twice, with the same scope: the scan of the preview counts what
is selected, and the rewrite keeps the rest. Both number the lines, keep a line that is no
record, and stop at the first line at which the scope raises.

So either both raise, at the same line, or the rewrite holds exactly the lines that the
scope does not select, in their order, and what the scan has counted is what the rewrite
leaves out (`scanSyslogFile_stagedRewrite`).
-/

set_option autoImplicit false

namespace NetConsole.Syslog

open List

variable {Record Reference : Type}

/-! ## The scan -/

/-- What the loop of `_scan_syslog_file` has collected. -/
structure ScannedLines (Reference : Type) where
  matchedRefs : List Reference
  (matchedBytes malformedCount : Nat)

/-- The loop of `_scan_syslog_file` over the numbered lines. -/
def scanLines (scope : DeletionScope Record Reference) (fileId : String) :
    Nat → List (List UInt8) → Except LifecycleError (ScannedLines Reference)
  | _, [] => .ok ⟨[], 0, 0⟩
  | lineNumber, rawLine :: rest =>
    match scope.decodeRecord rawLine with
    | none => do
      let later ← scanLines scope fileId (lineNumber + 1) rest
      return { later with malformedCount := later.malformedCount + 1 }
    | some record => do
      let delete ← scope.matchesDeleteScope record fileId lineNumber
      let later ← scanLines scope fileId (lineNumber + 1) rest
      if delete then
        return { later with
          matchedRefs := scope.recordReference record fileId lineNumber :: later.matchedRefs
          matchedBytes := rawLine.length + later.matchedBytes }
      else return later

/-- What `_scan_syslog_file` returns. -/
structure SyslogScan (Reference : Type) where
  matchedCount : Nat
  matchedRefs : List Reference
  (matchedBytes malformedCount : Nat)

/-- What the scan reports of a file. -/
def scanSyslogFile (scope : DeletionScope Record Reference) (fileId : String)
    (content : List UInt8) : Except LifecycleError (SyslogScan Reference) :=
  (scanLines scope fileId 1 (rawLines content)).map fun lines =>
    { matchedCount := lines.matchedRefs.length, matchedRefs := lines.matchedRefs
      matchedBytes := lines.matchedBytes, malformedCount := lines.malformedCount }

/-! ## What the scope says of the lines -/

/-- The scope selects a numbered line, or raises. -/
def lineSelected (scope : DeletionScope Record Reference) (fileId : String)
    (line : List UInt8 × Nat) : Except LifecycleError Bool :=
  match scope.decodeRecord line.1 with
  | none => .ok false
  | some record => scope.matchesDeleteScope record fileId line.2

/-- The scope takes the line. -/
def selectsLine (scope : DeletionScope Record Reference) (fileId : String)
    (line : List UInt8 × Nat) : Bool :=
  match lineSelected scope fileId line with
  | .ok selected => selected
  | .error _ => false

/-- The numbered lines of a file. -/
def numberedLines (content : List UInt8) : List (List UInt8 × Nat) := (rawLines content).zipIdx 1

/-- What a scan and a rewrite make of the same lines. -/
structure LinesAgree (scope : DeletionScope Record Reference) (fileId : String)
    (lines : List (List UInt8 × Nat)) (scanned : ScannedLines Reference)
    (kept : KeptLines Reference) : Prop where
  rest : kept.kept = (lines.filter fun line => !selectsLine scope fileId line).map Prod.fst
  references : scanned.matchedRefs = kept.matchedRefs
  count : scanned.matchedRefs.length = (lines.filter (selectsLine scope fileId)).length
  bytes : scanned.matchedBytes =
    ((lines.filter (selectsLine scope fileId)).map fun line => line.1.length).sum
  malformed : scanned.malformedCount =
    (lines.filter fun line => (scope.decodeRecord line.1).isNone).length

variable {scope : DeletionScope Record Reference} {scanned : ScannedLines Reference}
  {lines : List (List UInt8 × Nat)} {kept : KeptLines Reference} {rawLine : List UInt8}
  {lineNumber : Nat} {fileId : String}

theorem LinesAgree.selected {record : Record} (agree : LinesAgree scope fileId lines scanned kept)
    (decoded : scope.decodeRecord rawLine = some record)
    (selects : selectsLine scope fileId (rawLine, lineNumber) = true) :
    LinesAgree scope fileId ((rawLine, lineNumber) :: lines) { scanned with
        matchedRefs := scope.recordReference record fileId lineNumber :: scanned.matchedRefs
        matchedBytes := rawLine.length + scanned.matchedBytes }
      { kept with
        matchedRefs := scope.recordReference record fileId lineNumber :: kept.matchedRefs } where
  rest := by
    rw [filter_cons_of_neg (by simp [selects])]
    exact agree.rest
  references := congrArg _ agree.references
  count := by
    rw [filter_cons_of_pos selects, length_cons, length_cons, agree.count]
  bytes := by
    rw [filter_cons_of_pos selects, map_cons, sum_cons, agree.bytes]
  malformed := by
    rw [filter_cons_of_neg (by simp [decoded])]
    exact agree.malformed

theorem LinesAgree.passed {malformed : Nat} {times : List String}
    (agree : LinesAgree scope fileId lines scanned kept)
    (passes : selectsLine scope fileId (rawLine, lineNumber) = false)
    (counted : malformed =
      scanned.malformedCount + if (scope.decodeRecord rawLine).isNone then 1 else 0) :
    LinesAgree scope fileId ((rawLine, lineNumber) :: lines)
      { scanned with malformedCount := malformed }
      { kept with kept := rawLine :: kept.kept, timestamps := times } where
  rest := by
    rw [filter_cons_of_pos (by simp [passes]), map_cons, agree.rest]
  references := agree.references
  count := by
    rw [filter_cons_of_neg (by simp [passes])]
    exact agree.count
  bytes := by
    rw [filter_cons_of_neg (by simp [passes])]
    exact agree.bytes
  malformed := by
    rw [counted, agree.malformed, filter_cons]
    split <;> rfl

/-- Both loops raise at the first line at which the scope does, or end together. -/
theorem scanLines_keepLines (scope : DeletionScope Record Reference) (fileId : String)
    (lineNumber : Nat) (lines : List (List UInt8)) :
    (∃ line ∈ lines.zipIdx lineNumber, ∃ error, lineSelected scope fileId line = .error error ∧
      scanLines scope fileId lineNumber lines = .error error ∧
      keepLines scope fileId lineNumber lines = .error error) ∨
    ((∀ line ∈ lines.zipIdx lineNumber,
        lineSelected scope fileId line = .ok (selectsLine scope fileId line)) ∧
      ∃ scanned kept, scanLines scope fileId lineNumber lines = .ok scanned ∧
        keepLines scope fileId lineNumber lines = .ok kept ∧
        LinesAgree scope fileId (lines.zipIdx lineNumber) scanned kept) := by
  induction lines generalizing lineNumber with
  | nil =>
    exact .inr ⟨fun _ mem => absurd mem not_mem_nil, _, _, rfl, rfl, rfl, rfl, rfl, rfl, rfl⟩
  | cons rawLine rest ih =>
    rw [zipIdx_cons]
    unfold scanLines keepLines selectedReference
    cases decoded : scope.decodeRecord rawLine with
    | none =>
      have here : lineSelected scope fileId (rawLine, lineNumber) = .ok false := by
        unfold lineSelected
        rw [decoded]
      have passes : selectsLine scope fileId (rawLine, lineNumber) = false := by
        unfold selectsLine
        rw [here]
      rcases ih (lineNumber + 1) with
        ⟨line, mem, error, raises, scans, keeps⟩ | ⟨reads, scanned, kept, scans, keeps, agree⟩
      · rw [scans, keeps]
        exact .inl ⟨line, mem_cons_of_mem _ mem, error, raises, rfl, rfl⟩
      · rw [scans, keeps]
        refine .inr ⟨forall_mem_cons.mpr ⟨here.trans (passes ▸ rfl), reads⟩, _, _, rfl, rfl, ?_⟩
        exact agree.passed passes (by rw [decoded]; rfl)
    | some record =>
      cases outcome : scope.matchesDeleteScope record fileId lineNumber with
      | error error =>
        refine .inl ⟨_, mem_cons_self, error, ?_, ?_, ?_⟩
        · unfold lineSelected
          rw [decoded]
          exact outcome
        · dsimp only
          rw [outcome]
          rfl
        · dsimp only
          rw [outcome]
          rfl
      | ok delete =>
        have here : lineSelected scope fileId (rawLine, lineNumber) = .ok delete := by
          unfold lineSelected
          rw [decoded]
          exact outcome
        have selects : selectsLine scope fileId (rawLine, lineNumber) = delete := by
          unfold selectsLine
          rw [here]
        dsimp only
        rw [outcome]
        rcases ih (lineNumber + 1) with
          ⟨line, mem, error, raises, scans, keeps⟩ | ⟨reads, scanned, kept, scans, keeps, agree⟩
        · rw [scans, keeps]
          exact .inl ⟨line, mem_cons_of_mem _ mem, error, raises, rfl, rfl⟩
        · rw [scans, keeps]
          refine .inr ⟨forall_mem_cons.mpr ⟨here.trans (selects ▸ rfl), reads⟩, ?_⟩
          cases delete with
          | true => exact ⟨_, _, rfl, rfl, agree.selected decoded selects⟩
          | false =>
            exact ⟨_, _, rfl, rfl, agree.passed selects (by rw [decoded]; rfl)⟩

/-! ## What is removed -/

theorem length_flatten_filter {α : Type} (lines : List (List α × Nat))
    (selects : List α × Nat → Bool) : ((lines.filter selects).map fun line => line.1.length).sum +
        ((lines.filter fun line => !selects line).map Prod.fst).flatten.length =
      (lines.map Prod.fst).flatten.length := by
  induction lines with
  | nil => rfl
  | cons line lines ih =>
    rw [map_cons, flatten_cons, length_append, ← ih, filter_cons, filter_cons]
    cases selects line with
    | true => exact Nat.add_assoc ..
    | false =>
      rw [if_neg Bool.false_ne_true, Bool.not_false, if_pos rfl, map_cons,
        flatten_cons, length_append]
      exact Nat.add_left_comm ..

theorem length_filter_add {α : Type} (lines : List α) (selects : α → Bool) :
    (lines.filter selects).length + (lines.filter fun line => !selects line).length =
      lines.length := by
  have total := length_eq_countP_add_countP (l := lines) selects
  simpa [countP_eq_length_filter] using total.symm

theorem map_fst_numberedLines (content : List UInt8) :
    (numberedLines content).map Prod.fst = rawLines content := zipIdx_map_fst 1 _

/-- A scan and the rewrite of the same content. -/
structure RewriteKeepsRest (scope : DeletionScope Record Reference) (fileId : String)
    (content : List UInt8) (scan : SyslogScan Reference) (staged : StagedRewrite Reference) :
    Prop where
  rest : staged.content =
    (((numberedLines content).filter fun line => !selectsLine scope fileId line).map
      Prod.fst).flatten
  recordCount : staged.recordCount =
    ((numberedLines content).filter fun line => !selectsLine scope fileId line).length
  references : scan.matchedRefs = staged.matchedRefs
  count : scan.matchedCount = ((numberedLines content).filter (selectsLine scope fileId)).length
  bytes : scan.matchedBytes =
    (((numberedLines content).filter (selectsLine scope fileId)).map fun line => line.1.length).sum
  malformed : scan.malformedCount =
    ((numberedLines content).filter fun line => (scope.decodeRecord line.1).isNone).length
  linesRemoved : scan.matchedCount + staged.recordCount = (rawLines content).length
  bytesRemoved : scan.matchedBytes + staged.content.length = content.length

theorem scan_stagedRewrite (service : LifecycleService) (scope : DeletionScope Record Reference)
    (fileId path : String) (baseRevision : Nat) (content : List UInt8) :
    (∃ line ∈ numberedLines content, ∃ error, lineSelected scope fileId line = .error error ∧
      scanSyslogFile scope fileId content = .error error ∧
      stagedRewrite service scope fileId path baseRevision content = .error error) ∨
    ((∀ line ∈ numberedLines content,
        lineSelected scope fileId line = .ok (selectsLine scope fileId line)) ∧
      ∃ scan staged, scanSyslogFile scope fileId content = .ok scan ∧
        stagedRewrite service scope fileId path baseRevision content = .ok staged ∧
        RewriteKeepsRest scope fileId content scan staged) := by
  unfold scanSyslogFile stagedRewrite
  rcases scanLines_keepLines scope fileId 1 (rawLines content) with
    ⟨line, mem, error, raises, scans, keeps⟩ | ⟨reads, scanned, kept, scans, keeps, agree⟩
  · rw [scans, keeps]
    exact .inl ⟨line, mem, error, raises, rfl, rfl⟩
  · rw [scans, keeps]
    have recordCount : kept.kept.length = ((numberedLines content).filter fun line =>
        !selectsLine scope fileId line).length := by
      rw [agree.rest, length_map]
      rfl
    refine .inr ⟨reads, _, _, rfl, rfl, ?_, recordCount, agree.references, agree.count,
      agree.bytes, agree.malformed, ?_, ?_⟩
    · exact congrArg List.flatten agree.rest
    · show scanned.matchedRefs.length + kept.kept.length = _
      have total := length_filter_add (numberedLines content) (selectsLine scope fileId)
      rw [numberedLines, length_zipIdx] at total
      rw [agree.count, recordCount]
      exact total
    · show scanned.matchedBytes + kept.kept.flatten.length = _
      have total := length_flatten_filter (numberedLines content) (selectsLine scope fileId)
      rw [map_fst_numberedLines, flatten_rawLines] at total
      rw [agree.bytes, agree.rest]
      exact total

/-! ## Selective deletions -/

variable {DateTime : Type}

theorem selectsLine_iff (lib : DeletionLibrary DateTime) (deletion : SelectiveDeletion)
    (fileId : String) {line : List UInt8 × Nat} {selected : Bool}
    (reads : lineSelected (deletion.scope lib) fileId line = .ok selected) :
    selectsLine (deletion.scope lib) fileId line = true ↔
      ∃ record, decodeRecord lib line.1 = .ok (some record) ∧
        deletion.matchesDeleteScope lib record fileId line.2 = .ok true := by
  have same : selectsLine (deletion.scope lib) fileId line = selected := by
    unfold selectsLine
    rw [reads]
  rw [same]
  unfold lineSelected SelectiveDeletion.scope at reads
  dsimp only at reads
  cases decoded : decodeRecord lib line.1 with
  | error raised =>
    rw [decoded] at reads
    cases reads
  | ok found =>
    rw [decoded] at reads
    cases found with
    | none =>
      cases reads
      exact ⟨nofun, fun ⟨_, other, _⟩ => by cases other⟩
    | some record =>
      change (do
        if ← deletion.matchesDeleteScope lib record fileId line.2 then
          (ofPython (readReference lib record fileId line.2)).map fun _ => true
        else return false) = Except.ok selected at reads
      obtain ⟨delete, matched, reads⟩ := Foundations.bind_eq_ok.mp reads
      cases delete with
      | false =>
        cases reads
        refine ⟨nofun, fun ⟨other, there, matches'⟩ => ?_⟩
        cases there
        rw [matched] at matches'
        cases matches'
      | true =>
        obtain ⟨_, _, rfl⟩ := Foundations.map_eq_ok.mp reads
        exact ⟨fun _ => ⟨record, rfl, matched⟩, fun _ => rfl⟩

/-- Whatever a deletion selects and a file holds, the rewrite keeps exactly the rest, and
the scan has counted what it leaves out; or both raise at the same line. -/
theorem scanSyslogFile_stagedRewrite (lib : DeletionLibrary DateTime)
    (service : LifecycleService) (deletion : SelectiveDeletion) (fileId path : String)
    (baseRevision : Nat) (content : List UInt8) : (∃ line ∈ numberedLines content, ∃ error,
      lineSelected (deletion.scope lib) fileId line = .error error ∧
      scanSyslogFile (deletion.scope lib) fileId content = .error error ∧
      stagedRewrite service (deletion.scope lib) fileId path baseRevision content = .error error) ∨
    ((∀ line ∈ numberedLines content, selectsLine (deletion.scope lib) fileId line = true ↔
          ∃ record, decodeRecord lib line.1 = .ok (some record) ∧
            deletion.matchesDeleteScope lib record fileId line.2 = .ok true) ∧
      ∃ scan staged, scanSyslogFile (deletion.scope lib) fileId content = .ok scan ∧
        stagedRewrite service (deletion.scope lib) fileId path baseRevision content = .ok staged ∧
        RewriteKeepsRest (deletion.scope lib) fileId content scan staged) := by
  rcases scan_stagedRewrite service (deletion.scope lib) fileId path baseRevision content with
    raises | ⟨reads, agree⟩
  · exact .inl raises
  · exact .inr ⟨fun line mem => selectsLine_iff lib deletion fileId (reads line mem),
      agree⟩

end NetConsole.Syslog
