import NetConsole.SiteImport.Package

/-!
# What a replacement recovery finds and what it leaves

`Settled` is the purpose of the journal: no journal, and either the old site
with its old record or the imported site with the new record. `Interrupted` is
what holds on the disk at every crash and after every exception of the import
and of its recovery. It does not determine a rollback by itself: `Recoverable`
is the condition on the disk under which a recovery pass settles
(`recoverReplacementJournals_spec`).
-/

set_option autoImplicit false

namespace NetConsole.SiteImport

open Foundations

/-- The package as it stands in the staging directory. -/
def ImportRequest.stagedTree (request : ImportRequest) : SiteTree :=
  FileTree.after request.stagingSteps []

def ImportRequest.importedTree (request : ImportRequest) : SiteTree :=
  FileTree.after request.fieldBaseline (request.withMetadata request.stagedTree)

section States

variable (lifecycle : Lifecycle) (request : ImportRequest) (start : SiteDisk)

/-- The old site, with some of its databases checkpointed; nothing when there
was no site. -/
def IsOldTree (tree : Option SiteTree) : Prop :=
  match start.target with
  | none => tree = none
  | some old => ∃ count, tree = some (FileTree.after (request.checkpoints.take count) old)

/-- The record from before the import, as it was or field by field. -/
def IsOldRecord (record : Option RegistryRecord) : Prop :=
  record = start.registry ∨ registryRecordMatches record request.registryPreimage = true

/-- Exactly the imported site is published and registered. -/
def IsNew (disk : SiteDisk) : Prop :=
  disk.target = some request.importedTree ∧
    registryRecordMatches disk.registry (some request.site.registryExpected) = true

/-- The replacement is over: the old site or the imported one, complete. -/
def Settled (disk : SiteDisk) : Prop :=
  disk.journal = none ∧
    ((IsOldTree request start disk.target ∧ IsOldRecord request start disk.registry) ∨
      IsNew request disk)

/-- What a journal has recorded about the registry agrees with the registry and
with the state it names. -/
inductive Bound (journal : ReplacementJournal) (disk : SiteDisk) : Prop where
  | not_yet (version : journal.schemaVersion = 1)
      (uncommitted : journal.state ≠ .applicationCommitted)
      (untouched : disk.registry = start.registry)
  | published (version : journal.schemaVersion = 3)
      (preimage : journal.registryPreimage = request.registryPreimage)
      (expected : journal.registryExpected = some request.site.registryExpected)
      (identity : journal.targetIdentity = directoryIdentity lifecycle.sha256 request.importedTree)
      (progress : journal.state = .targetPublished ∨
        journal.state = .applicationCommitted ∧ IsNew request disk)

/-- What a journal says about the directories and the registry. Before the
backup is published a backup may be incomplete, after that it is the old site. -/
structure Tracked (journal : ReplacementJournal) (disk : SiteDisk) : Prop where
  kind : journal.backupPath.isSome = start.target.isSome
  unmoved : journal.state = .prepared → start.target.isSome → disk.backup = none →
    IsOldTree request start disk.target
  saved : journal.state ≠ .prepared → ∀ tree, disk.backup = some tree →
    IsOldTree request start (some tree)
  bound : Bound lifecycle request start journal disk

/-- The disk after a crash or an exception of the import or of its recovery. -/
def Interrupted (disk : SiteDisk) : Prop :=
  match disk.journal with
  | none => Settled request start disk
  | some journal => Tracked lifecycle request start journal disk

/-- The disk allows the rollback that its journal asks for: the journal passes
its checks, the registry holds the old or the new record, a backup that no
journal state vouches for is complete, and the directory the rollback starts
from is still there. -/
structure Recoverable (disk : SiteDisk) (journal : ReplacementJournal) : Prop where
  valid : validatedReplacementPaths lifecycle journal = .ok ()
  registry : journal.hasRegistry = true →
    registryRecordMatches disk.registry journal.registryExpected = true ∨
      registryRecordMatches disk.registry journal.registryPreimage = true
  complete : journal.state = .prepared → ∀ tree, disk.backup = some tree →
    IsOldTree request start (some tree)
  available : journal.state = .backupPublished ∨ journal.state = .targetPublished →
    if journal.backupPath.isSome then disk.backup.isSome else disk.target.isSome

/-- Every journal on the disk is recoverable. -/
def RecoverableDisk (disk : SiteDisk) : Prop :=
  ∀ journal, disk.journal = some journal → Recoverable lifecycle request start disk journal

end States

section Proofs

variable {lifecycle : Lifecycle} {request : ImportRequest} {start : SiteDisk}
  {disk : SiteDisk} {journal : ReplacementJournal}

/-! ## Small facts about the states -/

theorem isOldTree_none (absent : start.target = none) : IsOldTree request start none := by
  simp [IsOldTree, absent]

theorem Settled.interrupted (settled : Settled request start disk) :
    Interrupted lifecycle request start disk := by
  unfold Interrupted
  rw [settled.1]
  exact settled

theorem Interrupted.settled (interrupted : Interrupted lifecycle request start disk)
    (ended : disk.journal = none) : Settled request start disk := by
  unfold Interrupted at interrupted
  rwa [ended] at interrupted

theorem Interrupted.tracked (interrupted : Interrupted lifecycle request start disk)
    (held : disk.journal = some journal) : Tracked lifecycle request start journal disk := by
  unfold Interrupted at interrupted
  rwa [held] at interrupted

theorem Tracked.interrupted (tracked : Tracked lifecycle request start journal disk)
    (held : disk.journal = some journal) : Interrupted lifecycle request start disk := by
  unfold Interrupted
  rw [held]
  exact tracked

theorem Tracked.congr (tracked : Tracked lifecycle request start journal disk)
    {disk' : SiteDisk} (target : disk'.target = disk.target) (backup : disk'.backup = disk.backup)
    (registry : disk'.registry = disk.registry) :
    Tracked lifecycle request start journal disk' := by
  refine ⟨tracked.kind, by rw [backup, target]; exact tracked.unmoved,
    by rw [backup]; exact tracked.saved, ?_⟩
  cases tracked.bound with
  | not_yet version uncommitted untouched =>
    exact .not_yet version uncommitted (registry.trans untouched)
  | published version preimage expected identity progress =>
    refine .published version preimage expected identity ?_
    unfold IsNew at progress ⊢
    rwa [target, registry]

/-- The staging directory plays no part. -/
theorem Interrupted.set_imported (interrupted : Interrupted lifecycle request start disk)
    (tree : Option SiteTree) :
    Interrupted lifecycle request start { disk with imported := tree } := by
  cases held : disk.journal with
  | none => exact Settled.interrupted ⟨rfl, (interrupted.settled held).2⟩
  | some journal =>
    refine Tracked.interrupted ?_ rfl
    exact (interrupted.tracked held).congr rfl rfl rfl

variable {tree : Option SiteTree}

/-- A journal that is not committed does not bind the directories. -/
theorem Bound.relocate (bound : Bound lifecycle request start journal disk)
    (uncommitted : journal.state ≠ .applicationCommitted) {disk' : SiteDisk}
    (registry : journal.schemaVersion = 1 → disk'.registry = disk.registry) :
    Bound lifecycle request start journal disk' := by
  cases bound with
  | not_yet version _ untouched =>
    exact .not_yet version uncommitted ((registry version).trans untouched)
  | published version preimage expected identity progress =>
    exact .published version preimage expected identity
      (.inl (progress.resolve_right fun ended => uncommitted ended.1))

variable (tracked : Tracked lifecycle request start journal disk)
include tracked

theorem Tracked.set_target (uncommitted : journal.state ≠ .applicationCommitted)
    (unmoved : journal.state = .prepared → start.target.isSome → disk.backup = none →
      IsOldTree request start tree) :
    Tracked lifecycle request start journal { disk with target := tree } :=
  ⟨tracked.kind, unmoved, tracked.saved, tracked.bound.relocate uncommitted fun _ => rfl⟩

theorem Tracked.hasRegistry_iff : journal.hasRegistry = true ↔ journal.schemaVersion = 3 := by
  unfold ReplacementJournal.hasRegistry
  cases tracked.bound with
  | not_yet version => simp [version]
  | published version => simp [version]

theorem Tracked.committed (committed : journal.state = .applicationCommitted) :
    replacementCommitted lifecycle journal disk = true ∧ IsNew request disk := by
  cases tracked.bound with
  | not_yet _ uncommitted _ => exact absurd committed uncommitted
  | published version preimage expected identity progress =>
    rcases progress with targetPublished | ⟨_, new⟩
    · simp [committed] at targetPublished
    · refine ⟨?_, new⟩
      simp [replacementCommitted, registryCommitted, ReplacementJournal.hasRegistry, version,
        committed, expected, new.1, new.2, identity]

theorem Tracked.uncommitted (unrecognised : ¬replacementCommitted lifecycle journal disk = true) :
    journal.state ≠ .applicationCommitted :=
  fun committed => unrecognised (tracked.committed committed).1

omit tracked

/-! ## The parts of a recovery -/

variable {before : SiteDisk → Prop} {raises : SiteError → SiteDisk → Prop}

/-- Rules for a procedure that reads the journal first. -/
theorem readJournal_bind {α : Type} {next : ReplacementJournal → SiteProc α}
    {returns : α → SiteDisk → Prop}
    {cutOff : SiteDisk → Prop} (rest : ∀ s₀, before s₀ → ∀ journal, s₀.journal = some journal →
      Triple (· = s₀) (next journal) returns raises cutOff)
    (missing : ∀ s₀, before s₀ → raises .osError s₀) :
    Triple before (readJournal >>= next) returns raises cutOff := by
  refine .of_exact fun s₀ entry => .bind (fun journal s => s = s₀ ∧ s₀.journal = some journal)
    (.look_bind fun s₁ same => ?_) fun journal => ?_
  · subst same
    split
    · refine .raise _ ?_
      rintro s rfl
      exact missing s entry
    · next journal held => exact .pure _ fun s same => ⟨same, held⟩
  · rintro world ⟨same, held⟩
    exact rest s₀ entry journal held world same

theorem readJournal_held {cutOff : SiteDisk → Prop}
    {s₀ : SiteDisk} (held : s₀.journal = some journal) :
    Assured (· = s₀) readJournal (fun read s => journal = read ∧ s = s₀) raises cutOff := by
  refine .look_bind fun s same => ?_
  subst same
  rw [held]
  exact .pure _ fun s same => ⟨rfl, same⟩

theorem unlinkJournal_spec {settled : SiteDisk → Prop} (held : ∀ s, before s → s.journal.isSome)
    (done : ∀ s, before s → settled { s with journal := none }) :
    EndsAssured before unlinkJournal (fun _ => settled) before :=
  .act (fun s entry => ⟨{ s with journal := none }, by
      simp [Option.isNone_eq_false_iff.mpr (held s entry)], done s entry⟩)
    (fun _ entry => entry) fun _ entry => entry

variable (lifecycle request start) in
/-- A journal that is rolled back: it is not committed, the registry holds the
old record and a backup is the old site. -/
structure RollingBack (journal : ReplacementJournal) (disk : SiteDisk) : Prop where
  held : disk.journal = some journal
  tracked : Tracked lifecycle request start journal disk
  uncommitted : journal.state ≠ .applicationCommitted
  record : IsOldRecord request start disk.registry
  complete : ∀ tree, disk.backup = some tree → IsOldTree request start (some tree)

variable (rolling : RollingBack lifecycle request start journal disk)
include rolling

theorem RollingBack.interrupted : Interrupted lifecycle request start disk :=
  rolling.tracked.interrupted rolling.held

/-- A rollback with the backup in hand may change the target. -/
theorem RollingBack.set_target
    (unmoved : journal.state = .prepared → start.target.isSome → disk.backup = none →
      IsOldTree request start tree) :
    RollingBack lifecycle request start journal { disk with target := tree } :=
  ⟨rolling.held, rolling.tracked.set_target rolling.uncommitted unmoved, rolling.uncommitted,
    rolling.record, rolling.complete⟩

/-- Moving the backup to the target. -/
theorem RollingBack.restore {tree : SiteTree} (backup : disk.backup = some tree) :
    RollingBack lifecycle request start journal { disk with backup := none, target := some tree } :=
  ⟨rolling.held, ⟨rolling.tracked.kind, fun _ _ _ => rolling.complete tree backup, by simp,
    rolling.tracked.bound.relocate rolling.uncommitted fun _ => rfl⟩, rolling.uncommitted,
    rolling.record, by simp⟩

omit rolling

/-- The registry is put back when the import had already written it. -/
theorem RollingBack.set_registry (tracked : Tracked lifecycle request start journal disk)
    (held : disk.journal = some journal) (uncommitted : journal.state ≠ .applicationCommitted)
    (complete : ∀ tree, disk.backup = some tree → IsOldTree request start (some tree))
    (version : journal.schemaVersion = 3) : RollingBack lifecycle request start journal
      { disk with registry := journal.registryPreimage } := by
  refine ⟨held, ⟨tracked.kind, tracked.unmoved, tracked.saved,
    tracked.bound.relocate uncommitted fun earlier => by omega⟩, uncommitted, .inr ?_, complete⟩
  cases tracked.bound with
  | not_yet earlier => omega
  | published _ preimage =>
    rw [preimage]
    exact registryRecordMatches_self _

theorem restoreRegistryPreimage_spec (s₀ : SiteDisk)
    (tracked : Tracked lifecycle request start journal s₀) (held : s₀.journal = some journal)
    (uncommitted : journal.state ≠ .applicationCommitted)
    (complete : ∀ tree, s₀.backup = some tree → IsOldTree request start (some tree))
    (committed : registryCommitted journal s₀ = true) :
    EndsAssured (· = s₀) (restoreRegistryPreimage journal)
      (fun _ s => RollingBack lifecycle request start journal s ∧
        s.backup = s₀.backup ∧ s.target = s₀.target) (Interrupted lifecycle request start) := by
  simp only [registryCommitted, Bool.and_eq_true] at committed
  have restored := RollingBack.set_registry tracked held uncommitted complete
    (tracked.hasRegistry_iff.mp committed.1)
  refine .look_bind fun s same => ?_
  subst same
  simp only [committed.2, Bool.not_true, Bool.false_eq_true, if_false]
  refine .replaceFile ?_ ?_ ?_ ?_
  · rintro s' rfl
    exact ⟨restored, rfl, rfl⟩
  · rintro s' rfl
    exact tracked.interrupted held
  · rintro s' rfl
    exact restored.interrupted
  · rintro s' rfl
    exact ⟨tracked.interrupted held, restored.interrupted⟩

variable (lifecycle request start) in
/-- The rollback has put the old site back. -/
def RolledBack (journal : ReplacementJournal) (disk : SiteDisk) : Prop :=
  RollingBack lifecycle request start journal disk ∧ IsOldTree request start disk.target

/-- Every way through the rollback of the directories: the backup replaces the
target, the created target is removed, or nothing was moved yet. -/
theorem rollBackDirectories_spec (journal : ReplacementJournal) (s₀ : SiteDisk)
    (rolling : RollingBack lifecycle request start journal s₀)
    (available : journal.state = .backupPublished ∨ journal.state = .targetPublished →
      if journal.backupPath.isSome then s₀.backup.isSome else s₀.target.isSome) :
    EndsAssured (· = s₀) (rollBackDirectories journal)
      (fun _ => RolledBack lifecycle request start journal)
      (Interrupted lifecycle request start) := by
  refine .look_bind fun s same => ?_
  subst same
  split
  · next both =>
    obtain ⟨_, present⟩ := Bool.and_eq_true_iff.mp both
    obtain ⟨tree, backup⟩ := Option.isSome_iff_exists.mp present
    have anyTarget : ∀ other, RollingBack lifecycle request start journal
        { s with target := other } :=
      fun other => rolling.set_target fun _ _ absent => by simp [backup] at absent
    refine .bind (fun _ s' => s' = { s with target := none })
      (.when (fun there => ?_) fun absent => ?_) fun _ => ?_
    · refine (removeTree_spec targetSlot s).weaken (fun _ same => ⟨same, there⟩) ?_ ?_ ?_
      · exact fun _ _ removed => removed
      · rintro _ s' ⟨other, rfl⟩
        exact (anyTarget other).interrupted
      · rintro s' ⟨other, rfl⟩
        exact (anyTarget other).interrupted
    · rintro s' rfl
      have gone : s'.target = none := by simpa using absent
      rw [← gone]
    · have held' : backupSlot.get { s with target := none } = some tree := backup
      refine (renameSlot_assured backupSlot targetSlot _ held' rfl).weaken (fun _ same => same)
        ?_ ?_ ?_
      · rintro _ s' rfl
        exact ⟨rolling.restore backup, rolling.complete tree backup⟩
      · rintro _ s' rfl
        exact (anyTarget none).interrupted
      · rintro s' rfl
        exact (anyTarget none).interrupted
  · split
    · next noBackup both =>
      obtain ⟨_, there⟩ := Bool.and_eq_true_iff.mp both
      have absent : start.target = none := by
        have kind := rolling.tracked.kind
        simp_all
      have anyTarget : ∀ other, RollingBack lifecycle request start journal
          { s with target := other } :=
        fun other => rolling.set_target fun _ present => by simp [absent] at present
      refine (removeTree_spec targetSlot s).weaken (fun _ same => ⟨same, there⟩) ?_ ?_ ?_
      · rintro _ s' rfl
        exact ⟨anyTarget none, isOldTree_none absent⟩
      · rintro _ s' ⟨other, rfl⟩
        exact (anyTarget other).interrupted
      · rintro s' ⟨other, rfl⟩
        exact (anyTarget other).interrupted
    · split
      · next noBackup noTarget prepared =>
        refine .pure _ ?_
        rintro s' rfl
        refine ⟨rolling, ?_⟩
        have kind := rolling.tracked.kind
        cases present : start.target.isSome with
        | true =>
          refine rolling.tracked.unmoved prepared present ?_
          simp_all
        | false =>
          have gone : s'.target = none := by simp_all
          rw [gone]
          exact isOldTree_none (by simpa using present)
      · next noBackup noTarget moved =>
        exfalso
        have progressed : journal.state = .backupPublished ∨ journal.state = .targetPublished := by
          have uncommitted := rolling.uncommitted
          cases state : journal.state <;> simp_all
        have present := available progressed
        cases path : journal.backupPath.isSome <;> simp_all

theorem RolledBack.settled (rolled : RolledBack lifecycle request start journal disk) :
    Settled request start { disk with journal := none } :=
  ⟨rfl, .inl ⟨rolled.2, rolled.1.record⟩⟩

/-- The recovery of a disk that has a journal. -/
theorem recoverOneReplacement_held (s : SiteDisk)
    (interrupted : Interrupted lifecycle request start s)
    (held : s.journal = some journal) (condition : Recoverable lifecycle request start s journal) :
    EndsAssured (· = s) (recoverOneReplacement lifecycle) (fun _ => Settled request start)
      (Interrupted lifecycle request start) := by
  have tracked := interrupted.tracked held
  refine .bind _ (readJournal_held held) fun read => .of_exact ?_
  rintro s₀ ⟨rfl, rfl⟩
  refine .bind (fun _ s => s = s₀) (.ofExcept condition.valid fun _ same => same) fun _ =>
    .look_bind fun s same => ?_
  subst same
  split
  · next unmatched =>
    exfalso
    simp only [Bool.and_eq_true] at unmatched
    obtain ⟨⟨bound, committed⟩, preimage⟩ := unmatched
    simp only [registryCommitted, registryAtPreimage, bound] at committed preimage
    rcases condition.registry bound with now | before
    · rw [now] at committed
      cases committed
    · rw [before] at preimage
      cases preimage
  · next registryKnown =>
    split
    · next recognised =>
      have new : IsNew request s := by
        have committed : journal.state = .applicationCommitted := by
          simp only [replacementCommitted, Bool.and_eq_true, decide_eq_true_eq] at recognised
          exact recognised.1.1.2
        exact (tracked.committed committed).2
      refine .bind (fun _ => Settled _ _)
        ((@unlinkJournal_spec (· = s) (Settled request start) ?_ ?_).weaken
          (fun _ same => same) (fun _ _ settled => settled) ?_ ?_)
        fun _ => .pure _ fun _ settled => settled
      · rintro s' rfl
        simp [held]
      · rintro s' rfl
        exact ⟨rfl, .inr new⟩
      · rintro _ s' rfl
        exact interrupted
      · rintro s' rfl
        exact interrupted
    · next unrecognised =>
      have uncommitted := tracked.uncommitted unrecognised
      have complete : ∀ tree, s.backup = some tree → IsOldTree request start (some tree) := by
        by_cases prepared : journal.state = .prepared
        · exact condition.complete prepared
        · exact tracked.saved prepared
      refine .bind (fun _ s' => RollingBack _ _ _ journal s' ∧
          s'.backup = s.backup ∧ s'.target = s.target)
        (.when (fun committed => ?_) fun notCommitted => ?_) fun _ =>
          .bind (fun _ => RolledBack _ _ _ journal)
            (.of_exact fun s₁ rolling => rollBackDirectories_spec journal s₁ rolling.1 (by
              rw [rolling.2.1, rolling.2.2]
              exact condition.available)) fun _ =>
              .bind (fun _ => Settled _ _)
                ((unlinkJournal_spec (fun s' rolled => by simp [rolled.1.held])
                  fun s' rolled => rolled.settled).weaken (fun _ same => same)
                  (fun _ _ settled => settled) (fun _ _ rolled => rolled.1.interrupted)
                  fun _ rolled => rolled.1.interrupted)
                fun _ => .pure _ fun _ settled => settled
      · exact restoreRegistryPreimage_spec s tracked held uncommitted complete committed
      · rintro s' rfl
        refine ⟨⟨held, tracked, uncommitted, ?_, complete⟩, rfl, rfl⟩
        cases tracked.bound with
        | not_yet _ _ untouched => exact .inl untouched
        | published version preimage =>
          refine .inr ?_
          have bound : journal.hasRegistry = true := tracked.hasRegistry_iff.mpr version
          simp only [registryAtPreimage, bound] at *
          rw [← preimage]
          simpa [notCommitted] using registryKnown

theorem recoverOneReplacement_spec : Ends (fun s => Interrupted lifecycle request start s ∧
        RecoverableDisk lifecycle request start s)
      (recoverOneReplacement lifecycle) (fun _ => Settled request start)
      (Interrupted lifecycle request start) := by
  refine .of_exact fun s both => ?_
  cases held : s.journal with
  | none =>
    refine readJournal_bind (fun s' same journal held' => ?_) fun s' same => same ▸ both.1
    rw [same, held] at held'
    cases held'
  | some journal => exact (recoverOneReplacement_held s both.1 held (both.2 journal held)).triple

/-! ## A recovery pass -/

theorem recoverReplacementJournals_spec :
    EndsAssured (fun s => Interrupted lifecycle request start s ∧
        RecoverableDisk lifecycle request start s)
      (recoverReplacementJournals lifecycle) (fun _ => Settled request start)
      (Interrupted lifecycle request start) := by
  refine .look_bind fun s both => ?_
  split
  · next ended =>
    exact .pure _ fun _ same => same ▸ both.1.settled ended
  · next journal held =>
    exact .bind (fun _ => Settled _ _)
      (recoverOneReplacement_held s both.1 held (both.2 journal held)) fun _ =>
        .pure _ fun _ settled => settled

end Proofs

end NetConsole.SiteImport
