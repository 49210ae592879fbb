import NetConsole.Foundations.NumberedEntries
import NetConsole.Syslog.DerivedEvents
import NetConsole.Syslog.RewriteAtomicity

/-!
# Raw line positions under selective deletion

A rewritten file keeps the lines that were not selected, in their order; the
references of the remaining events are not touched. `Lineage` follows every raw
line back to its number at the start, and `PositionsStable` says that every
reference that an event still carries stands for the line that it stood for at
the start.

Deletions that remove no line up to a line that a remaining event refers to keep
the positions stable, over any number of deletions (`positionsStable_of_keeps`).
A deletion that removes an earlier line of the file makes the event refer to
another line, and selecting the event then removes that line
(`not_positionsStable_earlierLineRemoved`).
-/

set_option autoImplicit false

namespace NetConsole.Syslog

open Foundations List Option

/-! ## Lines of a rewritten file -/

/-- A line that ends in its only newline. -/
def IsTerminated (line : List UInt8) : Prop := ∃ body, 10 ∉ body ∧ line = body ++ [10]

/-- Lines as `rawLines` makes them: each is terminated, or the last one and
without a newline. -/
structure AreLines (lines : List (List UInt8)) : Prop where
  each : ∀ line ∈ lines, IsTerminated line ∨ line ≠ [] ∧ 10 ∉ line
  inner : lines.Pairwise fun line _ => IsTerminated line

theorem AreLines.sublist {kept lines : List (List UInt8)} (are : AreLines lines)
    (sub : kept.Sublist lines) : AreLines kept :=
  ⟨fun line mem => are.each line (sub.subset mem), are.inner.sublist sub⟩

theorem rawLines_unterminated {line : List UInt8} (nonempty : line ≠ []) (none : 10 ∉ line) :
    rawLines line = [line] := by
  induction line with
  | nil => exact absurd rfl nonempty
  | cons byte rest ih =>
    have other : byte ≠ 10 := fun same => none (same ▸ mem_cons_self ..)
    have noneRest : 10 ∉ rest := fun mem => none (mem_cons_of_mem _ mem)
    unfold rawLines
    rw [if_neg other]
    cases rest with
    | nil => rfl
    | cons next more => rw [ih (by simp) noneRest]

theorem rawLines_terminated {body : List UInt8} (none : 10 ∉ body) (rest : List UInt8) :
    rawLines (body ++ 10 :: rest) = (body ++ [10]) :: rawLines rest := by
  induction body with
  | nil => simp [rawLines]
  | cons byte body ih =>
    have other : byte ≠ 10 := fun same => none (same ▸ mem_cons_self ..)
    have noneBody : 10 ∉ body := fun mem => none (mem_cons_of_mem _ mem)
    rw [cons_append]
    conv_lhs => unfold rawLines
    rw [if_neg other, ih noneBody]
    rfl

theorem areLines_rawLines (content : List UInt8) : AreLines (rawLines content) := by
  induction content with
  | nil => exact ⟨by simp [rawLines], List.Pairwise.nil⟩
  | cons byte rest ih =>
    unfold rawLines
    split
    case isTrue newline =>
      have terminated : IsTerminated [byte] := ⟨[], by simp, by simp [newline]⟩
      exact ⟨forall_mem_cons.mpr ⟨.inl terminated, ih.each⟩,
        pairwise_cons.mpr ⟨fun _ _ => terminated, ih.inner⟩⟩
    case isFalse other =>
      split
      · exact ⟨by simp [Ne.symm other], pairwise_singleton _ _⟩
      case h_2 line more lines =>
        rw [lines] at ih
        have longer : IsTerminated line → IsTerminated (byte :: line) := by
          rintro ⟨body, none, rfl⟩
          exact ⟨byte :: body, by simp [none, Ne.symm other], rfl⟩
        obtain ⟨first, later⟩ := forall_mem_cons.mp ih.each
        obtain ⟨before, inner⟩ := pairwise_cons.mp ih.inner
        refine ⟨forall_mem_cons.mpr ⟨?_, later⟩,
          pairwise_cons.mpr ⟨fun next mem => longer (before next mem), inner⟩⟩
        rcases first with terminated | ⟨_, none⟩
        · exact .inl (longer terminated)
        · exact .inr ⟨by simp, by simp [none, Ne.symm other]⟩

theorem rawLines_flatten {lines : List (List UInt8)} (are : AreLines lines) :
    rawLines lines.flatten = lines := by
  induction lines with
  | nil => rfl
  | cons line rest ih =>
    have later := ih (are.sublist (sublist_cons_self ..))
    rw [flatten_cons]
    rcases are.each line (mem_cons_self ..) with ⟨body, none, rfl⟩ | ⟨nonempty, none⟩
    · rw [append_assoc, singleton_append, rawLines_terminated none, later]
    · cases rest with
      | nil =>
        rw [flatten_nil, append_nil]
        exact rawLines_unterminated nonempty none
      | cons next more =>
        obtain ⟨body, _, rfl⟩ := (pairwise_cons.mp are.inner).1 next (mem_cons_self ..)
        simp at none

/-! ## What a deletion selects -/

section Selected

variable {Record Reference : Type} (scope : DeletionScope Record Reference) (fileId : String)

def selected? (lineNumber : Nat) (rawLine : List UInt8) : Option Reference :=
  (selectedReference scope fileId lineNumber rawLine).toOption.join

/-- The deletion takes the line. -/
def isSelected (lineNumber : Nat) (rawLine : List UInt8) : Bool :=
  (selected? scope fileId lineNumber rawLine).isSome

/-- The references of the lines that are taken. -/
def selectedReferences (lineNumber : Nat) (lines : List (List UInt8)) : List Reference :=
  (lines.zipIdx lineNumber).filterMap fun (rawLine, number) =>
    selected? scope fileId number rawLine

variable {scope fileId}

/-- The loop keeps the lines that are not selected and collects the references
of the others. -/
theorem keepLines_eq {lineNumber : Nat} {lines : List (List UInt8)} {staged : KeptLines Reference}
    (kept : keepLines scope fileId lineNumber lines = .ok staged) :
    staged.kept = dropNumbered (isSelected scope fileId) lineNumber lines ∧
      staged.matchedRefs = selectedReferences scope fileId lineNumber lines := by
  induction lines generalizing lineNumber staged with
  | nil =>
    cases kept
    exact ⟨rfl, rfl⟩
  | cons line rest ih =>
    unfold keepLines at kept
    obtain ⟨reference, found, kept⟩ := bind_eq_ok.mp kept
    obtain ⟨more, later, kept⟩ := bind_eq_ok.mp kept
    obtain ⟨lines, references⟩ := ih later
    have here : selected? scope fileId lineNumber line = reference := by
      rw [selected?, found]
      rfl
    cases reference with
    | some reference =>
      cases kept
      simp [dropNumbered, selectedReferences, isSelected, here, lines, references]
    | none =>
      cases kept
      simp [dropNumbered, selectedReferences, isSelected, here, lines, references]

end Selected

/-! ## What a deletion does to the store -/

section Store

variable {Record Reference Derived : Type}

/-- The lines of a file. -/
def RawStore.lines (store : RawStore Derived) (path : String) : List (List UInt8) :=
  rawLines ((store.files (.target path)).getD [])

/-- The planned file that is stored at a path. -/
def plannedAt (plan : DeletionPlan Record Reference Derived) (store : RawStore Derived)
    (path : String) : Option PlannedFile :=
  plan.files.find? fun file => (store.registry file.fileId).any fun row => row.relativePath = path

/-- The references of all lines that a deletion removes. -/
def removedReferences (plan : DeletionPlan Record Reference Derived) (store : RawStore Derived) :
    List Reference :=
  (plan.sortedFiles.map PlannedFile.fileId).flatMap fun fileId =>
    match store.registry fileId with
    | none => []
    | some row => selectedReferences plan.scope fileId 1 (store.lines row.relativePath)

variable {service : LifecycleService} {plan : DeletionPlan Record Reference Derived}
  {store after : RawStore Derived}

theorem Rewrites.lines {scope : DeletionScope Record Reference} {item : StagedRewrite Reference}
    {row : RegisteredFile} {content : List UInt8}
    (rewrites : Rewrites service scope store item row content) :
    rawLines item.content = dropNumbered (isSelected scope item.fileId) 1 (store.lines item.path) ∧
      item.matchedRefs = selectedReferences scope item.fileId 1 (store.lines item.path) := by
  have stored : store.lines item.path = rawLines content := by
    rw [RawStore.lines, rewrites.stored]
    rfl
  obtain ⟨lines, kept, staged⟩ := map_eq_ok.mp rewrites.staged
  obtain ⟨remaining, references⟩ := keepLines_eq kept
  have are : AreLines lines.kept := (areLines_rawLines content).sublist (keepLines_sublist kept)
  rw [stored, ← remaining, ← references, ← staged]
  exact ⟨rawLines_flatten are, rfl⟩

theorem plannedAt_eq_some {path : String} {file : PlannedFile}
    (planned : plannedAt plan store path = some file) :
    file ∈ plan.files ∧ ∃ row, store.registry file.fileId = some row ∧ row.relativePath = path := by
  have found := List.find?_some planned
  rw [Option.any_eq_true] at found
  obtain ⟨row, registered, here⟩ := found
  exact ⟨mem_of_find?_eq_some planned, row, registered, by simpa using here⟩

variable (done : Done service plan store after)
include done

theorem Done.lines (path : String) :
    after.lines path = match plannedAt plan store path with
      | none => store.lines path
      | some file => dropNumbered (isSelected plan.scope file.fileId) 1 (store.lines path) := by
  obtain ⟨_, items, staged, forward⟩ := done
  cases planned : plannedAt plan store path with
  | some file =>
    obtain ⟨mem, row, registered, here⟩ := plannedAt_eq_some planned
    have listed : file.fileId ∈ items.map StagedRewrite.fileId := by
      rw [staged.planned]
      exact mem_map_of_mem (mem_sortedFiles.mpr mem)
    obtain ⟨item, memberItem, same⟩ := mem_map.mp listed
    obtain ⟨stored, content, rewrites⟩ := staged.each item memberItem
    have rows : stored = row := by
      have registered' := rewrites.registered
      rw [same, registered] at registered'
      exact (some.inj registered').symm
    have itemPath : item.path = path := by rw [← rewrites.path, rows, here]
    have now : after.lines path = rawLines item.content := by
      rw [RawStore.lines, ← itemPath, forward.rewritten item memberItem]
      rfl
    show after.lines path = dropNumbered (isSelected plan.scope file.fileId) 1 (store.lines path)
    rw [now, rewrites.lines.1, same, itemPath]
  | none =>
    have absent : path ∉ items.map StagedRewrite.path := by
      intro listed
      obtain ⟨item, memberItem, here⟩ := mem_map.mp listed
      obtain ⟨row, content, rewrites⟩ := staged.each item memberItem
      have inPlan : item.fileId ∈ plan.sortedFiles.map PlannedFile.fileId :=
        staged.planned ▸ mem_map_of_mem memberItem
      obtain ⟨file, memberFile, same⟩ := mem_map.mp inPlan
      have passed := List.find?_eq_none.mp planned file (mem_sortedFiles.mp memberFile)
      rw [same, rewrites.registered] at passed
      simp [rewrites.path, here] at passed
    show rawLines _ = rawLines _
    rw [forward.others path absent]

theorem Done.derived :
    after.derived = plan.deriveDeletion (removedReferences plan store) store.derived := by
  obtain ⟨_, items, staged, forward⟩ := done
  have references : items.flatMap StagedRewrite.matchedRefs = removedReferences plan store := by
    rw [removedReferences, ← staged.planned, flatMap_map]
    apply flatMap_congr
    intro item mem
    obtain ⟨_, _, rewrites⟩ := staged.each item mem
    rw [rewrites.registered, rewrites.lines.2, ← rewrites.path]
  rw [forward.derived, references]

/-- A deletion does not move files. -/
theorem Done.relativePath (fileId : String) :
    (after.registry fileId).map RegisteredFile.relativePath =
      (store.registry fileId).map RegisteredFile.relativePath := by
  obtain ⟨_, items, staged, forward⟩ := done
  obtain ⟨updated, others⟩ := applyFileUpdates_row forward.registry staged.fileIds_nodup
  by_cases listed : fileId ∈ items.map StagedRewrite.fileId
  · obtain ⟨item, mem, rfl⟩ := mem_map.mp listed
    obtain ⟨row, before, now⟩ := updated item mem
    rw [before, now]
    rfl
  · rw [others _ listed]

end Store

/-! ## The statement -/

/-- The lines of every raw file, each with its number at the start. -/
abbrev Lineage : Type := String → List (List UInt8 × Nat)

section Statement

variable {Record : Type}

/-- Each line stands where it was numbered. -/
def Lineage.start (store : RawStore EventTables) : Lineage := fun path =>
  (store.lines path).zipIdx 1

/-- The lineage after a deletion: the removed lines are gone. -/
def Lineage.after (lineage : Lineage) (plan : DeletionPlan Record RecordReference EventTables)
    (store : RawStore EventTables) : Lineage := fun path =>
  match plannedAt plan store path with
  | none => lineage path
  | some file =>
    dropNumbered (fun number entry => isSelected plan.scope file.fileId number entry.1) 1
      (lineage path)

variable (service : LifecycleService) (reader : RecordReader Record)

/-- The stores that completed deletions lead to, each deletion started within
`guard`, with the lineage of their lines. -/
inductive Deletions (guard : SyslogDeletion Record → RawStore EventTables → Prop)
    (start : RawStore EventTables) : RawStore EventTables → Lineage → Prop where
  | start : Deletions guard start start (Lineage.start start)
  | deletion {store after : RawStore EventTables} {lineage : Lineage}
      (earlier : Deletions guard start store lineage) (deletion : SyslogDeletion Record)
      (within : guard deletion store) (faults : List Fault)
      (returned : (executeSyslogDeletion service (deletion.plan reader)).run store faults =
        (.returned (), after)) :
      Deletions guard start after (lineage.after (deletion.plan reader) store)

/-- The event carries a reference to a line of a file. -/
structure EventReference.Carries (reference : EventReference) (fileId : String) (number : Int) :
    Prop where
  named : fileId ≠ ""
  file : reference.rawFileId = fileId
  line : reference.rawLineNumber = some number

/-- The line at the reference is the one that stood there at the start. -/
def EventReference.RefersToOrigin (reference : EventReference) (store : RawStore EventTables)
    (lineage : Lineage) : Prop :=
  ∀ fileId number, reference.Carries fileId number →
    ∃ (row : RegisteredFile) (index : Nat) (line : List UInt8),
      store.registry fileId = some row ∧ number = index + 1 ∧
      (lineage row.relativePath)[index]? = some (line, index + 1)

/-- References stand for the lines that they stood for at the start: a key with
the reference of an event selects its line, and an event is found by the
reference of its line. -/
structure PositionsStable (store : RawStore EventTables) (lineage : Lineage) : Prop where
  refers : ∀ reference ∈ store.derived.references, reference.RefersToOrigin store lineage
  selects : ∀ reference ∈ store.derived.references, ∀ fileId number row,
    reference.Carries fileId number → store.registry fileId = some row →
    ∀ (index : Nat) line (origin : Nat) record,
      (lineage row.relativePath)[index]? = some (line, origin) →
      reader.decodeRecord line = some record →
      ∀ key : RecordKey, key.rawFileId = fileId → key.rawLineNumber = some number →
        (selectedKeyMatches (recordReference reader record fileId (index + 1)) key = true ↔
          (origin : Int) = number ∧
            fieldFits key.globalReceiveSequence (reader.globalReceiveSequence record) = true ∧
            fieldFits key.sourceReceiveSequence (reader.sourceReceiveSequence record) = true)
  derives : ∀ reference ∈ store.derived.references, ∀ fileId number,
    reference.Carries fileId number →
    ∀ other row (index : Nat) line (origin : Nat) record, store.registry other = some row →
      (lineage row.relativePath)[index]? = some (line, origin) →
      (recordReference reader record other (index + 1)).agrees reference = true →
      other = fileId ∧ (origin : Int) = number

/-- Every sequence of completed deletions within `guard` keeps the positions. -/
def StablePositions (guard : SyslogDeletion Record → RawStore EventTables → Prop)
    (start : RawStore EventTables) : Prop :=
  ∀ store lineage, Deletions service reader guard start store lineage →
    PositionsStable reader store lineage

/-- No event that the deletion leaves in the tables refers to a removed line or
to a line after one. -/
def KeepsPositions (deletion : SyslogDeletion Record) (store : RawStore EventTables) : Prop :=
  ∀ reference ∈ store.derived.staying deletion.runId deletion.includeDerivedEvents
      (removedReferences (deletion.plan reader) store),
    ∀ fileId number row, reference.Carries fileId number → store.registry fileId = some row →
      ∀ file, plannedAt (deletion.plan reader) store row.relativePath = some file →
        ∀ (index : Nat) line, (store.lines row.relativePath)[index]? = some line →
          ((index + 1 : Nat) : Int) ≤ number →
          isSelected (deletion.mode.scope reader) file.fileId (index + 1) line = false

end Statement

/-! ## The invariant -/

section Invariant

variable {Record : Type} {service : LifecycleService} {reader : RecordReader Record}
  {store after : RawStore EventTables} {lineage : Lineage}

/-- The lineage shows the lines of the store, with growing numbers. -/
structure Traced (store : RawStore EventTables) (lineage : Lineage) : Prop where
  clean : store.journal = none
  named : store.registry "" = none
  lines : ∀ path, (lineage path).map Prod.fst = store.lines path
  grows : ∀ path, (lineage path).Pairwise fun first second => first.2 < second.2

theorem Traced.start (clean : store.journal = none) (named : store.registry "" = none) :
    Traced store (Lineage.start store) := by
  refine ⟨clean, named, ?_, ?_⟩
  · intro path
    exact zipIdx_map_fst 1 (store.lines path)
  · intro path
    rw [pairwise_iff_getElem]
    intro first second inFirst inSecond before
    simp only [Lineage.start, getElem_zipIdx]
    omega

variable (traced : Traced store lineage)
include traced

theorem Traced.deleted {plan : DeletionPlan Record RecordReference EventTables}
    (done : Done service plan store after) : Traced after (lineage.after plan store) := by
  refine ⟨done.1, ?_, ?_, ?_⟩
  · have path := done.relativePath ""
    rw [traced.named] at path
    exact map_eq_none_iff.mp path
  · intro path
    rw [done.lines path, Lineage.after]
    cases plannedAt plan store path with
    | none => exact traced.lines path
    | some file =>
      rw [← traced.lines path]
      exact map_dropNumbered Prod.fst 1 (lineage path)
  · intro path
    rw [Lineage.after]
    cases plannedAt plan store path with
    | none => exact traced.grows path
    | some file => exact (traced.grows path).sublist (dropNumbered_sublist 1 (lineage path))

/-- A line has one number, and a number one line. -/
theorem Traced.index_eq {path : String} {first second : Nat} {one other : List UInt8} {origin : Nat}
    (found : (lineage path)[first]? = some (one, origin))
    (again : (lineage path)[second]? = some (other, origin)) : first = second := by
  have ordered := pairwise_iff_getElem.mp (traced.grows path)
  obtain ⟨inFirst, atFirst⟩ := List.getElem?_eq_some_iff.mp found
  obtain ⟨inSecond, atSecond⟩ := List.getElem?_eq_some_iff.mp again
  rcases Nat.lt_trichotomy first second with less | same | greater
  · have labels := ordered first second inFirst inSecond less
    simp [atFirst, atSecond] at labels
  · exact same
  · have labels := ordered second first inSecond inFirst greater
    simp [atFirst, atSecond] at labels

theorem Traced.origin_iff {reference : EventReference}
    (refers : reference.RefersToOrigin store lineage) {fileId : String} {number : Int}
    (carries : reference.Carries fileId number) {row : RegisteredFile}
    (registered : store.registry fileId = some row) {index origin : Nat} {line : List UInt8}
    (found : (lineage row.relativePath)[index]? = some (line, origin)) :
    (origin : Int) = number ↔ ((index + 1 : Nat) : Int) = number := by
  obtain ⟨_, place, _, registered', rfl, there⟩ := refers _ number carries
  obtain rfl := some.inj (registered'.symm.trans registered)
  constructor
  · intro same
    have same : origin = place + 1 := by exact_mod_cast same
    have places := traced.index_eq found (same ▸ there)
    rw [places]
    rfl
  · intro same
    have same : index = place := by
      omega
    rw [same, there] at found
    obtain ⟨_, rfl⟩ := Prod.mk.inj (some.inj found)
    rfl

variable (refers : ∀ reference ∈ store.derived.references, reference.RefersToOrigin store lineage)
include refers

/-- Where references refer to their lines, selecting by them is exact. -/
theorem Traced.positionsStable : PositionsStable reader store lineage := by
  refine ⟨refers, ?_, ?_⟩
  · intro reference mem _ number row carries registered index line origin record found
      decoded key file line
    rw [traced.origin_iff (refers reference mem) carries registered found]
    simp only [selectedKeyMatches, recordReference, file, line, fieldFits, decide_true, isNone_some,
      Bool.true_and, Bool.false_or, Bool.and_eq_true, decide_eq_true_eq, some.injEq]
    exact and_comm
  · intro reference mem fileId number carries other row index line origin record registered
      found agrees
    have otherNamed : other ≠ "" := by
      intro same
      rw [same, traced.named] at registered
      cases registered
    obtain ⟨sameFile, sameLine⟩ := RecordReference.agrees_line otherNamed carries.line agrees
    have same : other = fileId := sameFile.trans carries.file
    subst same
    exact ⟨rfl, (traced.origin_iff (refers reference mem) carries registered found).mpr sameLine⟩

theorem refersToOrigin_after {deletion : SyslogDeletion Record}
    (keeps : KeepsPositions reader deletion store)
    (done : Done service (deletion.plan reader) store after) :
    ∀ reference ∈ after.derived.references,
      reference.RefersToOrigin after (lineage.after (deletion.plan reader) store) := by
  intro reference mem fileId number carries
  have stays : reference ∈ store.derived.staying deletion.runId deletion.includeDerivedEvents
      (removedReferences (deletion.plan reader) store) := by
    rw [done.derived] at mem
    exact references_deriveDeletion .. ▸ mem
  obtain ⟨row, index, line, registered, rfl, there⟩ :=
    refers reference (staying_subset stays) fileId number carries
  have moved := done.relativePath fileId
  rw [registered] at moved
  obtain ⟨row', registered', path⟩ := map_eq_some_iff.mp moved
  refine ⟨row', index, line, registered', rfl, ?_⟩
  rw [path, ← there, Lineage.after]
  cases planned : plannedAt (deletion.plan reader) store row.relativePath with
  | none => rfl
  | some file =>
    apply getElem?_dropNumbered
    rintro earlier before ⟨_, _⟩ found
    rw [Nat.add_comm]
    apply keeps reference stays fileId _ row carries registered file planned
    · rw [← traced.lines row.relativePath, List.getElem?_map, found]
      rfl
    · omega

omit refers traced

/-- Positions stay stable over deletions that keep them. -/
theorem stablePositions_of_keeps (service : LifecycleService) (reader : RecordReader Record)
    (start : RawStore EventTables) (clean : start.journal = none) (named : start.registry "" = none)
    (referenced : ∀ reference ∈ start.derived.references,
      reference.RefersToOrigin start (Lineage.start start)) :
    StablePositions service reader (KeepsPositions reader) start := by
  intro store lineage deletions
  have invariant : Traced store lineage ∧
      ∀ reference ∈ store.derived.references, reference.RefersToOrigin store lineage := by
    induction deletions with
    | start => exact ⟨.start clean named, referenced⟩
    | @deletion store after lineage _ deletion within faults returned ih =>
      obtain ⟨traced, refers⟩ := ih
      have spec : Ends (fun s => s = store) (executeSyslogDeletion service (deletion.plan reader))
          (fun _ => Done _ (deletion.plan _) store) (Interrupted _ (deletion.plan _) store) :=
        executeSyslogDeletion_spec traced.clean
      have done := spec.of_run rfl faults
      rw [returned] at done
      exact ⟨traced.deleted done, refersToOrigin_after traced refers within done⟩
  exact invariant.1.positionsStable invariant.2

end Invariant

/-! ## An earlier line is removed -/

section Samples

def sampleReader : RecordReader Unit where
  decodeRecord _ := some ()
  receiveTime _ := ""
  globalReceiveSequence _ := none
  sourceReceiveSequence _ := none

/-- The event of the second line. -/
def sampleEvent : WmeshEvent where
  id := 1
  runId := "run"
  rawFileId := "file"
  rawLineNumber := some 2
  details := ⟨"", none, none, none, false⟩

def sampleRow : RegisteredFile :=
  ⟨"run", "raw", "syslog", "CLOSED", "", "", 1, 3, 6, "A\nB\nC\n", "", ""⟩

/-- A file with three lines. -/
def projected : RawStore EventTables where
  files name := if name = .target "raw" then some [65, 10, 66, 10, 67, 10] else none
  journalTemp := false
  journal := none
  registry fileId := if fileId = "file" then some sampleRow else none
  derived := ⟨[sampleEvent], []⟩

def removeLine (number : Int) : SyslogDeletion Unit where
  siteId := "site"
  runId := "run"
  operationId := "operation"
  mode := .selected [⟨"file", none, none, some number⟩]
  files := [⟨"file", 1⟩]
  expectedMatchedCount := 1
  includeDerivedEvents := true

theorem projected_referenced : ∀ reference ∈ projected.derived.references,
    reference.RefersToOrigin projected (Lineage.start projected) := by
  intro reference mem fileId number carries
  obtain rfl : reference = sampleEvent.reference := mem_singleton.mp mem
  obtain rfl : "file" = fileId := carries.file
  obtain rfl : 2 = number := some.inj carries.line
  exact ⟨sampleRow, 1, [66, 10], rfl, rfl, rfl⟩

/-- Positions are not stable: with the first line removed, the event of the
second line refers to the third one. -/
theorem not_positionsStable_earlierLineRemoved : (∀ reference ∈ projected.derived.references,
      reference.RefersToOrigin projected (Lineage.start projected)) ∧
    ¬StablePositions sampleService sampleReader (fun _ _ => True) projected := by
  refine ⟨projected_referenced, ?_⟩
  intro stable
  have ran : ((executeSyslogDeletion sampleService ((removeLine 1).plan sampleReader)).run
        projected []).1 = .returned () ∧
      ((executeSyslogDeletion sampleService ((removeLine 1).plan sampleReader)).run
        projected []).2.derived.wmesh = [sampleEvent] ∧
      (((executeSyslogDeletion sampleService ((removeLine 1).plan sampleReader)).run
        projected []).2.registry "file").map RegisteredFile.relativePath = some "raw" := by
    decide +kernel
  have third : ((Lineage.start projected).after ((removeLine 1).plan sampleReader) projected
      "raw")[1]? = some ([67, 10], 3) := by
    decide +kernel
  generalize ended : (executeSyslogDeletion sampleService ((removeLine 1).plan sampleReader)).run
    projected [] = result at ran
  obtain ⟨outcome, after⟩ := result
  obtain ⟨returned, events, moved⟩ := ran
  obtain rfl : outcome = .returned () := returned
  have deletions : Deletions sampleService sampleReader (fun _ _ => True) projected after _ :=
    .deletion .start (removeLine 1) trivial [] ended
  have mem : sampleEvent.reference ∈ after.derived.references := by
    apply mem_append_left
    rw [show after.derived.wmesh = [sampleEvent] from events]
    exact mem_singleton_self _
  obtain ⟨row, index, _, registered, _, there⟩ :=
    (stable after _ deletions).refers _ mem "file" 2 ⟨by decide, rfl, rfl⟩
  have path : row.relativePath = "raw" := by
    rw [show after.registry "file" = some row from registered] at moved
    exact some.inj moved
  obtain rfl : index = 1 := by omega
  rw [path, third] at there
  cases there

/-- Removing the last line, after the line of the event, keeps the positions. -/
theorem stablePositions_lastLineRemoved : KeepsPositions sampleReader (removeLine 3) projected ∧
      StablePositions sampleService sampleReader (KeepsPositions sampleReader) projected := by
  constructor
  · intro reference stays _ number row carries registered file planned index line found below
    obtain rfl : reference = sampleEvent.reference :=
      mem_singleton.mp (staying_subset stays)
    obtain rfl : 2 = number := some.inj carries.line
    simp [isSelected, selected?, selectedReference, DeleteMode.scope, removeLine, sampleReader,
      DeleteMode.matchesDeleteScope, selectedKeyMatches, recordReference, fieldFits, Except.map,
      Except.toOption]
    omega
  · exact stablePositions_of_keeps sampleService sampleReader projected rfl rfl
      projected_referenced

end Samples

end NetConsole.Syslog
