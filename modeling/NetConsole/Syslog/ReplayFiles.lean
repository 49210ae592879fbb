import NetConsole.Foundations.FallibleMaps
import NetConsole.Syslog.ReplayPositions

/-!
# The replay of one file

The completion of a row (`finishRow`) stores its pending events all at once. Every
state that is durable while a file is replayed has the completion of the start, and
the lines that the limit allows are done (`replayLines_spec`), as long as no line
raises and every event can be bound.
-/

set_option autoImplicit false

namespace NetConsole.Syslog

open Foundations List

/-! ## The completion of a row -/

/-- The stored events with those of a batch. -/
def addEvents (stored : List EventRow) (batch : List PendingEvent) : List EventRow :=
  batch.foldl (fun stored pending =>
    if hasEventAt stored pending.event then stored else stored ++ [pending.event]) stored

section Replays

variable {DateTime : Type} (lib : SyslogLibrary DateTime) (runId : String)
  (services : ReceiverServices DateTime)

/-- The events of lines behind a line number. -/
def lineEvents (fileId : String) : Nat → List (List UInt8) → List PendingEvent
  | _, [] => []
  | lineNumber, line :: rest =>
    match projectLine lib runId services fileId (lineNumber + 1) line with
    | .ok (some event) => event :: lineEvents fileId (lineNumber + 1) rest
    | _ => lineEvents fileId (lineNumber + 1) rest

/-- `sqlite3` binds the values of an event and of its timeline entry. -/
structure Bindable (pending : PendingEvent) : Prop where
  event : bindEvent lib pending.event = .ok ()
  timeline : ∀ text ∈ pending.timelineTexts, lib.encodable text = true

/-- No line raises when it is projected, and each event can be bound. -/
def LinesProject (fileId : String) : Nat → List (List UInt8) → Prop
  | _, [] => True
  | lineNumber, line :: rest =>
    (∃ event, projectLine lib runId services fileId (lineNumber + 1) line = .ok event ∧
      ∀ pending ∈ event, Bindable lib pending) ∧ LinesProject fileId (lineNumber + 1) rest

/-- A row whose replay is not stopped: it is not open, its cursor denotes a position,
and no line behind it raises. -/
structure Recoverable (row : RecoveryRow) : Prop where
  closed : row.isCandidate → lib.python.upper row.status ≠ "OPEN"
  denotes : row.isCandidate → ∀ content, row.content = some content →
    Denotes content (parseRecoveryCursor lib.python row.parseStatus)
  projects : row.isCandidate → ∀ content, row.content = some content →
    LinesProject lib runId services row.fileId (startPosition lib row content).1
      (pendingLines lib row content)

/-- The row after all its lines. -/
def RecoveryRow.parsed (row : RecoveryRow) : RecoveryRow := { row with parseStatus := "PARSED" }

/-- A row with its pending events, all at once. -/
def finishRow (row : RecoveryRow) (stored : List EventRow) : RecoveryRow × List EventRow :=
  if row.isCandidate then
    match row.content with
    | none => (row.missing, stored)
    | some content =>
      (row.parsed, addEvents stored (lineEvents lib runId services row.fileId
        (startPosition lib row content).1 (pendingLines lib row content)))
  else (row, stored)

theorem addEvents_append (stored : List EventRow) (first second : List PendingEvent) :
    addEvents stored (first ++ second) = addEvents (addEvents stored first) second :=
  foldl_append

variable {lib} {batch : List PendingEvent}

theorem insertEvents_eq (bindable : ∀ pending ∈ batch, Bindable lib pending)
    (stored : List EventRow) : insertEvents lib stored batch = .ok (addEvents stored batch) := by
  induction batch generalizing stored with
  | nil => rfl
  | cons pending rest ih =>
    obtain ⟨first, later⟩ := forall_mem_cons.mp bindable
    rw [insertEvents, addEvents, foldl_cons]
    split
    · exact ih later stored
    · rw [first.event]
      exact ih later _

theorem forM_bindText {texts : List String} :
    texts.forM (bindText lib) = .ok () ↔ ∀ text ∈ texts, lib.encodable text = true := by
  induction texts with
  | nil => simp [pure, Except.pure]
  | cons text rest ih =>
    rw [forall_mem_cons, ← ih]
    refine bind_eq_ok.trans ?_
    unfold bindText
    cases lib.encodable text <;> simp

theorem insertTimelineEvents_eq (bindable : ∀ pending ∈ batch, Bindable lib pending) :
    insertTimelineEvents lib batch = .ok () := by
  induction batch with
  | nil => rfl
  | cons pending rest ih =>
    obtain ⟨first, later⟩ := forall_mem_cons.mp bindable
    obtain ⟨_, texts, -⟩ := bind_eq_ok.mp first.event
    have own : (pending.timelineTexts ++ eventTexts lib pending.event).forM
        (bindText lib) = .ok () :=
      forM_bindText.mpr (forall_mem_append.mpr ⟨first.timeline, forM_bindText.mp texts⟩)
    exact bind_eq_ok.mpr ⟨(), own, ih later⟩

/-- A batch that can be bound is committed. -/
theorem commitBatch_eq (bindable : ∀ pending ∈ batch, Bindable lib pending)
    (row : RecoveryRow) (stored : List EventRow) (lineNumber : Nat) (completed : Bool) :
    commitBatch lib row stored batch lineNumber completed = .ok ({ row with
      parseStatus :=
        if completed then "PARSED"
        else if lib.python.upper row.status = "OPEN" then "STREAMING@" ++ toString lineNumber
        else lineCursor lineNumber }, addEvents stored batch) := by
  unfold commitBatch
  rw [insertEvents_eq bindable, insertTimelineEvents_eq bindable]
  rfl

variable (lib)

theorem parsed_isCandidate (row : RecoveryRow) : row.parsed.isCandidate = false := by
  have parsed : awaitsRecovery "PARSED" = false := by decide
  simp [RecoveryRow.isCandidate, RecoveryRow.parsed, parsed]

theorem missing_isCandidate (row : RecoveryRow) : row.missing.isCandidate = false := by
  have missing : awaitsRecovery "MISSING" = false := by decide
  simp [RecoveryRow.isCandidate, RecoveryRow.missing, missing]

variable {lib runId services} {row : RecoveryRow}

theorem recoverable_of_settled (settled : row.isCandidate = false) :
    Recoverable lib runId services row where
  closed candidate := by rw [settled] at candidate; cases candidate
  denotes candidate := by rw [settled] at candidate; cases candidate
  projects candidate := by rw [settled] at candidate; cases candidate

theorem finishRow_of_settled (settled : row.isCandidate = false) (stored : List EventRow) :
    finishRow lib runId services row stored = (row, stored) := by
  rw [finishRow, settled]
  rfl

/-! ## Standing behind a line -/

/-- A candidate whose cursor denotes the position behind the given line. -/
structure StandsAt (lib : SyslogLibrary DateTime) (content : List UInt8) (lineNumber : Nat)
    (row : RecoveryRow) : Prop where
  candidate : row.isCandidate = true
  closed : lib.python.upper row.status ≠ "OPEN"
  content_eq : row.content = some content
  denotes : Denotes content (parseRecoveryCursor lib.python row.parseStatus)
  inside : lineNumber ≤ (rawLines content).length
  start : startPosition lib row content = (lineNumber, offsetAt content lineNumber)

variable {content : List UInt8} {lineNumber : Nat} {row : RecoveryRow}
  (stands : StandsAt lib content lineNumber row)
include stands

theorem StandsAt.pendingLines_eq :
    pendingLines lib row content = (rawLines content).drop lineNumber := by
  rw [pendingLines, stands.start]
  exact rawLines_drop_offsetAt content lineNumber

omit stands in
/-- A candidate that is not open stands behind the line of its cursor. -/
theorem Recoverable.standsAt (recoverable : Recoverable lib runId services row)
    (candidate : row.isCandidate = true) (known : row.content = some content) :
    StandsAt lib content (startPosition lib row content).1 row := by
  have seek := seekRecoveryCursor_eq (recoverable.denotes candidate content known)
  have start : startPosition lib row content =
      (min (parseRecoveryCursor lib.python row.parseStatus).1 (rawLines content).length,
        offsetAt content (parseRecoveryCursor lib.python row.parseStatus).1) := seek
  exact {
    candidate := candidate, closed := recoverable.closed candidate, content_eq := known
    denotes := recoverable.denotes candidate content known
    inside := by rw [start]; exact Nat.min_le_right _ _
    start := by
      rw [start]
      rcases Nat.le_total (parseRecoveryCursor lib.python row.parseStatus).1
        (rawLines content).length with within | beyond
      · rw [Nat.min_eq_left within]
      · rw [Nat.min_eq_right beyond, offsetAt, offsetAt, take_of_length_le beyond, take_length]
  }

theorem StandsAt.recoverable (projects : LinesProject lib runId services row.fileId lineNumber
      ((rawLines content).drop lineNumber)) : Recoverable lib runId services row where
  closed _ := stands.closed
  denotes _ other known := by
    rw [stands.content_eq] at known
    cases known
    exact stands.denotes
  projects _ other known := by
    rw [stands.content_eq] at known
    cases known
    rw [stands.pendingLines_eq, stands.start]
    exact projects

theorem StandsAt.finishRow_eq (stored : List EventRow) : finishRow lib runId services row stored =
      (row.parsed, addEvents stored (lineEvents lib runId services row.fileId lineNumber
        ((rawLines content).drop lineNumber))) := by
  rw [finishRow, if_pos stands.candidate]
  simp only [stands.content_eq, stands.pendingLines_eq, stands.start]

variable {later : Nat} {batch : List PendingEvent}

/-- The states that a commit and the offset behind it leave. -/
def commitStates (row : RecoveryRow) (stored : List EventRow) (later offset : Nat) :
    List (RecoveryRow × List EventRow) :=
  [({ row with parseStatus := lineCursor later }, stored),
    ({ row with parseStatus := formatRecoveryCursor later offset }, stored)]

theorem StandsAt.commitBatch_eq (bindable : ∀ pending ∈ batch, Bindable lib pending)
    (stored : List EventRow) : commitBatch lib row stored batch later false =
      .ok ({ row with parseStatus := lineCursor later }, addEvents stored batch) := by
  rw [Syslog.commitBatch_eq bindable, if_neg Bool.false_ne_true, if_neg stands.closed]

omit stands in
theorem withOffset_eq (stored : List EventRow) (offset : Nat) :
    withOffset ({ row with parseStatus := lineCursor later }, stored) later offset =
      ({ row with parseStatus := formatRecoveryCursor later offset }, stored) := by
  unfold withOffset persistRecoveryOffset
  rw [awaitsRecovery_lineCursor]
  rfl

variable (reads : ReadsNumbers lib.python)
include reads

theorem StandsAt.withStatus (inside : later ≤ (rawLines content).length) {text : String}
    (written : text = lineCursor later ∨ text = formatRecoveryCursor later (offsetAt content later))
    : StandsAt lib content later { row with parseStatus := text } := by
  have syslog : row.dataType = "syslog" := by
    have candidate := stands.candidate
    simp only [RecoveryRow.isCandidate, Bool.and_eq_true, beq_iff_eq] at candidate
    exact candidate.1
  have awaits : awaitsRecovery text = true := by
    rcases written with rfl | rfl
    · exact awaitsRecovery_lineCursor later
    · exact awaitsRecovery_format later _
  have cursor : (parseRecoveryCursor lib.python text).1 = later ∧
      Denotes content (parseRecoveryCursor lib.python text) := by
    rcases written with rfl | rfl
    · rw [parseRecoveryCursor_lineCursor reads]
      exact ⟨rfl, fun offset behind => by cases behind⟩
    · rw [parseRecoveryCursor_format reads]
      refine ⟨rfl, ?_⟩
      intro offset behind
      cases behind
      exact ⟨inside, rfl⟩
  exact {
    candidate := by simp [RecoveryRow.isCandidate, syslog, awaits], closed := stands.closed
    content_eq := stands.content_eq, denotes := cursor.2, inside := inside
    start := by
      rw [startPosition, seekRecoveryCursor_eq cursor.2, cursor.1, Nat.min_eq_left inside]
  }

theorem StandsAt.commitStates_spec (stored : List EventRow)
    (inside : later ≤ (rawLines content).length) :
    ∀ state ∈ commitStates row stored later (offsetAt content later),
      StandsAt lib content later state.1 ∧ state.1.parsed = row.parsed ∧
        state.1.fileId = row.fileId ∧ state.2 = stored := by
  intro state mem
  rcases mem_cons.mp mem with rfl | mem
  · exact ⟨stands.withStatus reads inside (.inl rfl), rfl, rfl, rfl⟩
  · rw [mem_singleton] at mem
    subst mem
    exact ⟨stands.withStatus reads inside (.inr rfl), rfl, rfl, rfl⟩

/-! ## Replaying the lines of a file -/

/-- The row and the events once all lines are replayed. -/
def lastState (lib : SyslogLibrary DateTime) (runId : String)
    (services : ReceiverServices DateTime) (row : RecoveryRow) (stored : List EventRow)
    (batch : List PendingEvent)
    (lineNumber : Nat) (lines : List (List UInt8)) : RecoveryRow × List EventRow :=
  (row.parsed, addEvents stored
    (batch ++ lineEvents lib runId services row.fileId lineNumber lines))

/-- A durable state on the way to the last one. -/
structure OnTheWay (lib : SyslogLibrary DateTime) (runId : String)
    (services : ReceiverServices DateTime) (stored : List EventRow)
    (last state : RecoveryRow × List EventRow) : Prop where
  recoverable : Recoverable lib runId services state.1
  finish : finishRow lib runId services state.1 state.2 = last
  inserted : ∃ events, state.2 = addEvents stored events

/-- What a call does to a file of which the given lines are left. -/
structure FileReplayed (lib : SyslogLibrary DateTime) (runId : String)
    (services : ReceiverServices DateTime) (content : List UInt8) (stored : List EventRow)
    (last : RecoveryRow × List EventRow) (lineNumber left remaining : Nat) (file : FileReplay) :
    Prop where
  unraised : file.raised = none
  durable : ∀ state ∈ file.durable, OnTheWay lib runId services stored last state
  complete : left ≤ remaining →
    file.durable.getLast? = some last ∧ file.remaining = remaining - left
  bounded : remaining < left → file.remaining = 0 ∧
    ∃ state, file.durable.getLast? = some state ∧
      StandsAt lib content (lineNumber + remaining) state.1

theorem StandsAt.onTheWay (stored : List EventRow) (batch : List PendingEvent)
    (inside : later ≤ (rawLines content).length)
    (projects : LinesProject lib runId services row.fileId later ((rawLines content).drop later)) :
    ∀ state ∈ commitStates row (addEvents stored batch) later (offsetAt content later),
      OnTheWay lib runId services stored (lastState lib runId services row stored batch
        later ((rawLines content).drop later)) state := by
  intro state mem
  obtain ⟨standsNow, same, sameId, events⟩ :=
    stands.commitStates_spec reads _ inside state mem
  exact {
    recoverable := standsNow.recoverable (by rw [sameId]; exact projects)
    finish := by
      rw [standsNow.finishRow_eq, same, sameId, events, lastState, addEvents_append]
    inserted := ⟨batch, events⟩
  }

/-- The last commit: everything is replayed, or the limit is reached. -/
theorem StandsAt.finishFile_spec (bindable : ∀ pending ∈ batch, Bindable lib pending)
    (stored : List EventRow) (inside : later ≤ (rawLines content).length)
    (projects : LinesProject lib runId services row.fileId later ((rawLines content).drop later))
    (remaining : Nat) (stopped : (rawLines content).drop later = [] ∨ remaining = 0) :
    FileReplayed lib runId services content stored
      (lastState lib runId services row stored batch later ((rawLines content).drop later))
      later ((rawLines content).drop later).length remaining
      (finishFile lib content.length row stored batch later (offsetAt content later)
        remaining) := by
  by_cases finished : (rawLines content).drop later = []
  · have atEnd := (length_le_offsetAt_iff content later).mpr finished
    have lastEq : lastState lib runId services row stored batch later
        ((rawLines content).drop later) = (row.parsed, addEvents stored batch) := by
      rw [finished, lastState, lineEvents, append_nil]
    have states : finishFile lib content.length row stored batch later
        (offsetAt content later) remaining =
          ⟨[(row.parsed, addEvents stored batch)], remaining, none⟩ := by
      rw [finishFile, Syslog.commitBatch_eq bindable]
      simp only [atEnd, decide_true, if_true]
      rfl
    rw [lastEq, finished, states]
    exact {
      unraised := rfl
      durable := by
        intro state mem
        rw [mem_singleton] at mem
        subst mem
        have settled := parsed_isCandidate row
        exact ⟨recoverable_of_settled settled, finishRow_of_settled settled _, batch, rfl⟩
      complete _ := ⟨rfl, rfl⟩
      bounded short := absurd short (Nat.not_lt_zero _)
    }
  · have before : ¬ content.length ≤ offsetAt content later := by
      rwa [length_le_offsetAt_iff]
    have spent : remaining = 0 := stopped.resolve_left finished
    have states : finishFile lib content.length row stored batch later
        (offsetAt content later) remaining =
          ⟨commitStates row (addEvents stored batch) later (offsetAt content later),
            remaining, none⟩ := by
      rw [finishFile, decide_eq_false before, stands.commitBatch_eq bindable]
      simp only [before, if_false, withOffset_eq]
      rfl
    rw [states]
    have left : 0 < ((rawLines content).drop later).length := length_pos_iff.mpr finished
    exact {
      unraised := rfl
      durable := stands.onTheWay reads stored batch inside projects
      complete enough := by omega
      bounded := by
        intro _
        refine ⟨spent, ?_⟩
        rw [spent, Nat.add_zero]
        exact ⟨_, rfl, stands.withStatus reads inside (.inr rfl)⟩
    }

omit stands reads

variable {last : RecoveryRow × List EventRow} {stored : List EventRow} {file : FileReplay}
  {remaining : Nat}

theorem FileReplayed.succ {left : Nat}
    (rest : FileReplayed lib runId services content stored last (lineNumber + 1) left remaining
      file) :
    FileReplayed lib runId services content stored last lineNumber (left + 1) (remaining + 1)
      file where
  unraised := rest.unraised
  durable := rest.durable
  complete := by
    intro enough
    obtain ⟨reached, _⟩ := rest.complete (by omega)
    exact ⟨reached, by omega⟩
  bounded := by
    intro short
    obtain ⟨spent, state, reached, stands⟩ := rest.bounded (by omega)
    have line : lineNumber + 1 + remaining = lineNumber + (remaining + 1) := by omega
    exact ⟨spent, state, reached, line ▸ stands⟩

theorem FileReplayed.afterCommit
    {committed : List (RecoveryRow × List EventRow)} {left : Nat}
    (commits : ∀ state ∈ committed, OnTheWay lib runId services stored last state)
    (rest : FileReplayed lib runId services content (addEvents stored batch) last lineNumber
      left remaining file) :
    FileReplayed lib runId services content stored last lineNumber left remaining
      { file with durable := committed ++ file.durable } where
  unraised := rest.unraised
  durable := by
    intro state mem
    rcases mem_append.mp mem with early | late
    · exact commits state early
    · have onTheWay := rest.durable state late
      obtain ⟨events, inserted⟩ := onTheWay.inserted
      exact { onTheWay with
        inserted := ⟨batch ++ events, by rw [inserted, addEvents_append]⟩ }
  complete := by
    intro enough
    obtain ⟨reached, unused⟩ := rest.complete enough
    exact ⟨by rw [List.getLast?_append, reached]; rfl, unused⟩
  bounded := by
    intro short
    obtain ⟨spent, state, reached, stands⟩ := rest.bounded short
    exact ⟨spent, state, by rw [List.getLast?_append, reached]; rfl, stands⟩

/-- Without a line that raises or cannot be bound, a file is replayed as far as the limit allows. -/
theorem replayLines_spec (reads : ReadsNumbers lib.python) (lines : List (List UInt8))
    (row : RecoveryRow) (stored : List EventRow) (batch : List PendingEvent)
    (cursor later remaining : Nat) (stands : StandsAt lib content cursor row)
    (inside : later ≤ (rawLines content).length) (left : (rawLines content).drop later = lines)
    (bindable : ∀ pending ∈ batch, Bindable lib pending)
    (projects : LinesProject lib runId services row.fileId later lines) :
    FileReplayed lib runId services content stored
      (lastState lib runId services row stored batch later lines) later lines.length remaining
      (replayLines lib runId services content.length row stored batch later
        (offsetAt content later) lines remaining) := by
  induction lines generalizing row stored batch cursor later remaining with
  | nil =>
    have finish := stands.finishFile_spec reads bindable stored inside (left.symm ▸ projects)
      remaining (.inl left)
    rw [left] at finish
    rw [replayLines]
    exact finish
  | cons line rest ih =>
    cases remaining with
    | zero =>
      have finish := stands.finishFile_spec reads bindable stored inside (left.symm ▸ projects) 0
        (.inr rfl)
      rw [left] at finish
      rw [replayLines]
      exact finish
    | succ remaining =>
      obtain ⟨nextOffset, nextLines⟩ := offsetAt_succ left
      have more : 0 < ((rawLines content).drop later).length := by rw [left]; exact Nat.succ_pos _
      have nextInside : later + 1 ≤ (rawLines content).length := by
        rw [length_drop] at more
        omega
      obtain ⟨⟨result, projected, resultBindable⟩, later'⟩ := projects
      rw [replayLines, projected, ← nextOffset]
      apply FileReplayed.succ
      cases result with
      | none =>
        have same : lastState lib runId services row stored batch later (line :: rest) =
            lastState lib runId services row stored batch (later + 1) rest := by
          rw [lastState, lineEvents, projected, lastState]
        rw [same]
        exact ih row stored batch cursor (later + 1) remaining stands nextInside nextLines bindable
          later'
      | some event =>
        have same : lastState lib runId services row stored batch later (line :: rest) =
            lastState lib runId services row stored (batch ++ [event]) (later + 1) rest := by
          rw [lastState, lineEvents, projected, lastState, append_assoc]
          rfl
        have both : ∀ pending ∈ batch ++ [event], Bindable lib pending :=
          forall_mem_append.mpr ⟨bindable, forall_mem_singleton.mpr (resultBindable event rfl)⟩
        rw [same]
        simp only []
        split
        · rw [stands.commitBatch_eq both]
          simp only [withOffset_eq]
          have onTheWay := stands.onTheWay reads stored (batch ++ [event]) nextInside
            (nextLines.symm ▸ later')
          rw [nextLines] at onTheWay
          have continued := ih { row with
              parseStatus := formatRecoveryCursor (later + 1) (offsetAt content (later + 1)) }
            (addEvents stored (batch ++ [event])) [] (later + 1) (later + 1) remaining
            (stands.withStatus reads nextInside (.inr rfl)) nextInside nextLines nofun later'
          have target : lastState lib runId services { row with
                parseStatus := formatRecoveryCursor (later + 1) (offsetAt content (later + 1)) }
              (addEvents stored (batch ++ [event])) [] (later + 1) rest =
                lastState lib runId services row stored (batch ++ [event])
                  (later + 1) rest := by
            rw [lastState, lastState, nil_append, addEvents_append stored (batch ++ [event])]
            rfl
          rw [target] at continued
          exact continued.afterCommit onTheWay
        · exact ih row stored (batch ++ [event]) cursor (later + 1) remaining stands nextInside
            nextLines both later'

end Replays

end NetConsole.Syslog
