import NetConsole.Foundations.FallibleMaps
import NetConsole.Syslog.RawRewrite

/-!
# The states of a rewrite

The states that a deletion and its recovery pass through, and what the file
operations do to them: untouched, replacing (some files are new and have
backups), committed. A rewrite drops whole lines, so a file that has the size
of the old content has the old content (`stagedRewrite_size`); no property of
the digest is needed.
-/

set_option autoImplicit false

namespace NetConsole.Syslog

open Foundations List

variable {Record Reference Derived : Type}

/-! ## File operations -/

theorem RawStore.setFile_self (store : RawStore Derived) (name : FileName)
    (content : Option (List UInt8)) : (store.setFile name content).files name = content :=
  Function.update_self ..

theorem RawStore.setFile_of_ne (store : RawStore Derived) {name other : FileName}
    (content : Option (List UInt8)) (different : other ≠ name) :
    (store.setFile name content).files other = store.files other :=
  Function.update_of_ne different ..

theorem RawStore.setFile_setFile (store : RawStore Derived) (name : FileName)
    (first second : Option (List UInt8)) :
    (store.setFile name first).setFile name second = store.setFile name second := by
  simp [RawStore.setFile]

variable {ε : Type}

theorem appendBytes_spec (error : ε) (name : FileName) (store : RawStore Derived)
    (before bytes : List UInt8) :
    Triple (fun s => s = store.setFile name (some before)) (appendBytes error name bytes)
      (fun _ s => s = store.setFile name (some (before ++ bytes)))
      (fun e s => e = error ∧ ∃ content, s = store.setFile name content)
      (fun s => ∃ content, s = store.setFile name content) := by
  induction bytes generalizing before with
  | nil =>
    apply Triple.pure
    intro s same
    simpa using same
  | cons byte rest ih =>
    apply Triple.bind (fun _ s => s = store.setFile name (some (before ++ [byte])))
    · apply Triple.act_ok
      · intro s same
        subst same
        rw [RawStore.setFile_self, RawStore.setFile_setFile]
        rfl
      · intro s same
        exact ⟨rfl, _, same⟩
      · intro s same
        exact ⟨_, same⟩
    · intro _
      have step := ih (before ++ [byte])
      rwa [append_assoc] at step

variable {raises : ε → RawStore Derived → Prop} {cutOff holds : RawStore Derived → Prop}

/-- A call that changes nothing keeps what holds. -/
theorem mayRaise_spec (error : ε) (missed : ∀ s, holds s → raises error s)
    (cut : ∀ s, holds s → cutOff s) :
    Assured holds (mayRaise error) (fun _ => holds) raises cutOff :=
  Assured.act_ok (fun _ entry => entry) missed cut

theorem mayRaise_bind {α : Type} {error : ε} {next : Unit → Proc (RawStore Derived) ε α}
    {returns : α → RawStore Derived → Prop} (missed : ∀ s, holds s → raises error s)
    (cut : ∀ s, holds s → cutOff s) (rest : Triple holds (next ()) returns raises cutOff) :
    Triple holds (mayRaise error >>= next) returns raises cutOff :=
  Triple.bind (fun _ => holds) (mayRaise_spec error missed cut).triple fun _ => rest

/-! ## What staging finds -/

variable (service : LifecycleService) {scope : DeletionScope Record Reference}
  {fileId : String} {lines : List (List UInt8)}

theorem keepLines_sublist {lineNumber : Nat} {staged : KeptLines Reference}
    (kept : keepLines scope fileId lineNumber lines = .ok staged) : staged.kept.Sublist lines := by
  induction lines generalizing lineNumber staged with
  | nil =>
    cases kept
    exact List.Sublist.slnil
  | cons line rest ih =>
    unfold keepLines at kept
    obtain ⟨reference, _, kept⟩ := bind_eq_ok.mp kept
    obtain ⟨more, later, kept⟩ := bind_eq_ok.mp kept
    cases reference with
    | some reference =>
      cases kept
      exact (ih later).cons line
    | none =>
      cases kept
      exact (ih later).cons_cons line

/-- Dropping a nonempty line makes the content shorter. -/
theorem length_flatten_of_sublist {kept : List (List UInt8)} (sub : kept.Sublist lines)
    (nonempty : ∀ line ∈ lines, line ≠ []) :
    kept = lines ∨ kept.flatten.length < lines.flatten.length := by
  induction sub with
  | slnil => exact .inl rfl
  | @cons kept lines line sub ih =>
    right
    have positive : 0 < line.length :=
      length_pos_iff.mpr (nonempty line (mem_cons_self ..))
    have rest := ih fun other mem => nonempty other (mem_cons_of_mem _ mem)
    simp only [flatten_cons, length_append]
    rcases rest with same | shorter
    · subst same
      omega
    · omega
  | @cons_cons kept lines line sub ih =>
    have rest := ih fun other mem => nonempty other (mem_cons_of_mem _ mem)
    rcases rest with same | shorter
    · exact .inl (by rw [same])
    · right
      simp only [flatten_cons, length_append]
      omega

variable {item : StagedRewrite Reference} {content : List UInt8}
  {baseRevision : Nat} {path : String}
  (staged : stagedRewrite service scope fileId path baseRevision content = .ok item)
include staged

theorem stagedRewrite_size : item.content = content ∨ item.content.length < content.length := by
  obtain ⟨_, kept, rfl⟩ := map_eq_ok.mp staged
  have lengths := length_flatten_of_sublist (keepLines_sublist kept)
    fun line mem => ne_nil_of_mem_rawLines mem
  rw [flatten_rawLines] at lengths
  rcases lengths with same | shorter
  · left
    rw [same, flatten_rawLines]
  · exact .inr shorter

/-- The sizes, the digest and the names that staging records. -/
theorem stagedRewrite_fields :
    item.fileId = fileId ∧ item.path = path ∧ item.baseRevision = baseRevision ∧
      item.oldSizeBytes = content.length ∧ item.oldSha256 = service.sha256 content := by
  obtain ⟨_, _, rfl⟩ := map_eq_ok.mp staged
  exact ⟨rfl, rfl, rfl, rfl, rfl⟩

omit staged

/-- A staged file: its registration and its content at the start. -/
structure Rewrites (scope : DeletionScope Record Reference) (start : RawStore Derived)
    (item : StagedRewrite Reference) (row : RegisteredFile) (content : List UInt8) : Prop where
  registered : start.registry item.fileId = some row
  path : row.relativePath = item.path
  stored : start.files (.target item.path) = some content
  staged : stagedRewrite service scope item.fileId item.path row.revision content = .ok item

variable {service} in
theorem Rewrites.revision {start : RawStore Derived} {row : RegisteredFile}
    (rewrites : Rewrites service scope start item row content) : item.baseRevision = row.revision :=
  (stagedRewrite_fields service rewrites.staged).2.2.1

/-- The staged files of an operation: each once. -/
structure AllStaged (plan : DeletionPlan Record Reference Derived) (start : RawStore Derived)
    (items : List (StagedRewrite Reference)) : Prop where
  each : ∀ item ∈ items, ∃ row content, Rewrites service plan.scope start item row content
  once : (items.map StagedRewrite.path).Nodup
  planned : items.map StagedRewrite.fileId = plan.sortedFiles.map PlannedFile.fileId

/-! ## The states -/

section States

variable (plan : DeletionPlan Record Reference Derived) (start : RawStore Derived)
  (items : List (StagedRewrite Reference))

/-- Every raw file and the database are as before. -/
structure RolledBack (disk : RawStore Derived) : Prop where
  targets : ∀ path, disk.files (.target path) = start.files (.target path)
  registry : disk.registry = start.registry
  derived : disk.derived = start.derived

/-- The raw files are new, the registry has the next revisions, and the events
of the removed records are dealt with. -/
structure Forward (disk : RawStore Derived) : Prop where
  rewritten : ∀ item ∈ items, disk.files (.target item.path) = some item.content
  others : ∀ path, path ∉ items.map StagedRewrite.path →
    disk.files (.target path) = start.files (.target path)
  registry : applyFileUpdates service plan.runId items start.registry = .ok disk.registry
  derived : disk.derived =
    plan.deriveDeletion (items.flatMap StagedRewrite.matchedRefs) start.derived

/-- The operation is through, and its journal gone. -/
def Done (disk : RawStore Derived) : Prop :=
  disk.journal = none ∧
    ∃ items, AllStaged service plan start items ∧ Forward service plan start items disk

/-- No operation is pending. -/
def Settled (disk : RawStore Derived) : Prop :=
  disk.journal = none ∧ (RolledBack start disk ∨
      ∃ items, AllStaged service plan start items ∧ Forward service plan start items disk)

/-- The journal is written and the registry is at the base revisions; the files
of `replaced` are new and have backups, the others are old. -/
structure Replacing (replaced : List String) (disk : RawStore Derived) : Prop where
  journal : disk.journal = some (rewriteJournal service plan items)
  registry : disk.registry = start.registry
  derived : disk.derived = start.derived
  once : replaced.Nodup
  old : ∀ path, path ∉ replaced → disk.files (.target path) = start.files (.target path)
  new : ∀ path ∈ replaced, ∃ item ∈ items, item.path = path ∧
    disk.files (.target path) = some item.content ∧
    disk.files (.backup plan.operationId path) = start.files (.target path)

/-- The registry is committed and the journal is still there. -/
structure Committed (disk : RawStore Derived) : Prop where
  journal : disk.journal = some (rewriteJournal service plan items)
  forward : Forward service plan start items disk

/-- The states that an interruption can leave. -/
inductive Interrupted (disk : RawStore Derived) : Prop where
  | settled (settled : Settled service plan start disk)
  | replacing (items : List (StagedRewrite Reference)) (replaced : List String)
      (staged : AllStaged service plan start items)
      (replacing : Replacing service plan start items replaced disk)
  | committed (items : List (StagedRewrite Reference)) (staged : AllStaged service plan start items)
      (committed : Committed service plan start items disk)

end States

section Changes

variable {plan : DeletionPlan Record Reference Derived} {start disk : RawStore Derived}
  {items : List (StagedRewrite Reference)} {replaced : List String} {service} {name : FileName}

theorem RolledBack.setFile (back : RolledBack start disk) (other : ∀ path, name ≠ .target path)
    (content : Option (List UInt8)) : RolledBack start (disk.setFile name content) := by
  refine ⟨?_, back.registry, back.derived⟩
  intro path
  rw [RawStore.setFile_of_ne _ _ (other path).symm]
  exact back.targets path

theorem Forward.setFile (forward : Forward service plan start items disk)
    (other : ∀ path, name ≠ .target path) (content : Option (List UInt8)) :
    Forward service plan start items (disk.setFile name content) := by
  refine ⟨?_, ?_, forward.registry, forward.derived⟩
  · intro item mem
    rw [RawStore.setFile_of_ne _ _ (other item.path).symm]
    exact forward.rewritten item mem
  · intro path absent
    rw [RawStore.setFile_of_ne _ _ (other path).symm]
    exact forward.others path absent

theorem Committed.setFile (committed : Committed service plan start items disk)
    (other : ∀ path, name ≠ .target path) (content : Option (List UInt8)) :
    Committed service plan start items (disk.setFile name content) :=
  ⟨committed.journal, committed.forward.setFile other content⟩

theorem Done.settled (done : Done service plan start disk) : Settled service plan start disk :=
  ⟨done.1, .inr done.2⟩

theorem Done.setFile (done : Done service plan start disk) (other : ∀ path, name ≠ .target path)
    (content : Option (List UInt8)) : Done service plan start (disk.setFile name content) := by
  obtain ⟨none, items, staged, forward⟩ := done
  exact ⟨none, items, staged, forward.setFile other content⟩

theorem Settled.setFile (settled : Settled service plan start disk)
    (other : ∀ path, name ≠ .target path) (content : Option (List UInt8)) :
    Settled service plan start (disk.setFile name content) := by
  obtain ⟨none, back | ⟨items, staged, forward⟩⟩ := settled
  · exact ⟨none, .inl (back.setFile other content)⟩
  · exact ⟨none, .inr ⟨items, staged, forward.setFile other content⟩⟩

/-- While files are replaced, parts and the backups of old files may change. -/
theorem Replacing.setFile (replacing : Replacing service plan start items replaced disk)
    (other : ∀ path, name ≠ .target path)
    (free : ∀ path ∈ replaced, name ≠ .backup plan.operationId path)
    (content : Option (List UInt8)) :
    Replacing service plan start items replaced (disk.setFile name content) := by
  refine ⟨replacing.journal, replacing.registry, replacing.derived, replacing.once, ?_, ?_⟩
  · intro path absent
    rw [RawStore.setFile_of_ne _ _ (other path).symm]
    exact replacing.old path absent
  · intro path mem
    rw [RawStore.setFile_of_ne _ _ (other path).symm,
      RawStore.setFile_of_ne _ _ (free path mem).symm]
    exact replacing.new path mem

/-- A part may change at any time. -/
theorem Interrupted.setPart (interrupted : Interrupted service plan start disk)
    (operationId path : String) (content : Option (List UInt8)) :
    Interrupted service plan start (disk.setFile (.part operationId path) content) := by
  have other : ∀ target, FileName.part operationId path ≠ .target target := by simp
  have free : ∀ target, FileName.part operationId path ≠ .backup plan.operationId target := by simp
  cases interrupted with
  | settled settled => exact .settled (settled.setFile other content)
  | replacing items replaced staged replacing =>
    exact .replacing items replaced staged
      (replacing.setFile other (fun target _ => free target) content)
  | committed items staged committed =>
    exact .committed items staged (committed.setFile other content)

/-- A file that was put back is one of the old ones. -/
theorem Replacing.restore {path : String} {rest : List String}
    (replacing : Replacing service plan start items replaced disk)
    (split : ∀ other, other ∈ replaced ↔ other = path ∨ other ∈ rest)
    (once : (path :: rest).Nodup) {content : List UInt8}
    (backup : disk.files (.backup plan.operationId path) = some content) :
    Replacing service plan start items rest ((disk.setFile (.target path)
      (some content)).setFile (.backup plan.operationId path) none) := by
  have different : path ∉ rest := (nodup_cons.mp once).1
  obtain ⟨_, _, _, new, saved⟩ := replacing.new path ((split path).mpr (.inl rfl))
  refine ⟨replacing.journal, replacing.registry, replacing.derived, (nodup_cons.mp once).2, ?_, ?_⟩
  · intro other absent
    rw [RawStore.setFile_of_ne _ _ (by simp)]
    by_cases equal : other = path
    · rw [equal, RawStore.setFile_self, ← saved, backup]
    · rw [RawStore.setFile_of_ne _ _ (by simpa using equal)]
      apply replacing.old
      rw [split]
      simp [equal, absent]
  · intro other inRest
    have apart : other ≠ path := fun equal => different (equal ▸ inRest)
    rw [RawStore.setFile_of_ne _ _ (by simp), RawStore.setFile_of_ne _ _ (by simpa using apart),
      RawStore.setFile_of_ne _ _ (by simpa using apart), RawStore.setFile_of_ne _ _ (by simp)]
    exact replacing.new other ((split other).mpr (.inr inRest))

theorem Replacing.rolledBack (replacing : Replacing service plan start items [] disk) :
    RolledBack start disk :=
  ⟨fun path => replacing.old path (by simp), replacing.registry, replacing.derived⟩

end Changes

end NetConsole.Syslog
