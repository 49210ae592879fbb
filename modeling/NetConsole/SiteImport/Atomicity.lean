import NetConsole.SiteImport.Import

/-!
# When the replacement of a site is atomic

`ReplacementAtomic` says what the journal is for: after a run of `importSite`
under any faults and any number of interrupted recovery passes, a pass that
completes leaves the old site or the imported one, and a pass can always
complete. It holds when every recovery starts on a recoverable disk
(`replacementAtomic_of_recoverable`). Without that condition it fails: a copy
of the old site into the backup can be cut off, and the recovery takes the
incomplete backup for the site (`not_replacementAtomic_torn`).
-/

set_option autoImplicit false

namespace NetConsole.SiteImport

open Foundations

section Handler

variable {lifecycle : Lifecycle} {request : ImportRequest} {start : SiteDisk}

variable (lifecycle request start) in
/-- The handler starts on a raised, recoverable disk. -/
def Handled (disk : SiteDisk) : Prop :=
  Raised lifecycle request start disk ∧ RecoverableDisk lifecycle request start disk

theorem Handled.set_imported {disk : SiteDisk} (handled : Handled lifecycle request start disk)
    (tree : Option SiteTree) : Handled lifecycle request start { disk with imported := tree } := by
  refine ⟨⟨handled.1.1.set_imported tree, handled.1.2⟩, fun journal held => ?_⟩
  have condition := handled.2 journal held
  exact ⟨condition.valid, condition.registry, condition.complete, condition.available⟩

/-- Removing the staging directory keeps what does not depend on it. -/
theorem removeTemporaryDirectory_spec {before : SiteDisk → Prop}
    {raises : SiteError → SiteDisk → Prop} {cutOff : SiteDisk → Prop}
    (stable : ∀ s, before s → ∀ tree, before { s with imported := tree })
    (cut : ∀ s, before s → cutOff s) :
    Triple before (removeTemporaryDirectory importedSlot) (fun _ => before) raises cutOff := by
  refine .of_exact fun s entry => .bind (fun _ => before) ((removeTreeAttempts_spec importedSlot s
      (fun s₁ => removeTreeIgnoring_spec importedSlot s₁ raises) 20 s ⟨s.imported, rfl⟩).weaken
      (fun _ same => same) ?_ (fun _ _ r => r) ?_) fun _ => .pure _ fun _ held => held
  · rintro _ s' ⟨tree, rfl, _⟩
    exact stable s entry tree
  · rintro s' ⟨tree, rfl⟩
    exact cut _ (stable s entry tree)

/-- Promotion commits only a journal whose target is the imported tree and
whose record is registered. -/
theorem promotePersistedRegistryCommit_spec :
    Ends (Handled lifecycle request start) (promotePersistedRegistryCommit lifecycle)
      (fun _ s => Interrupted lifecycle request start s ∧ RecoverableDisk lifecycle request start s)
      (Interrupted lifecycle request start) := by
  refine readJournal_bind ?_ fun s handled => handled.1.1
  rintro s ⟨⟨interrupted, complete⟩, recoverable⟩ journal held
  have condition := recoverable journal held
  have stays : ∀ value : Bool, Ends (· = s) (pure value : SiteProc Bool)
      (fun _ s' => Interrupted lifecycle request start s' ∧
        RecoverableDisk lifecycle request start s') (Interrupted lifecycle request start) := by
    refine fun value => .pure _ ?_
    rintro s' rfl
    exact ⟨interrupted, recoverable⟩
  refine .bind (fun _ s' => s' = s)
    (.ofExcept (fun _ _ _ same => same) fun e failed => by simp [condition.valid] at failed)
    fun _ => .look_bind fun s' same => ?_
  subst same
  split
  · exact stays false
  · next version =>
    split
    · exact stays _
    · split
      · exact stays false
      · next matching =>
        split
        · exact stays false
        · have version' : journal.schemaVersion = 3 := by simpa using version
          have matching' : registryRecordMatches s'.registry journal.registryExpected = true := by
            simpa using matching
          have tracked : Tracked lifecycle request start
              { journal with state := .applicationCommitted }
              { s' with journal := some { journal with state := .applicationCommitted } } := by
            have before := interrupted.tracked held
            refine ⟨before.kind, by simp, ?_, ?_⟩
            · cases before.bound with
              | not_yet earlier => omega
              | published _ _ _ _ progress =>
                refine fun _ => before.saved ?_
                rcases progress with state | ⟨state, _⟩ <;> simp [state]
            · cases before.bound with
              | not_yet earlier => omega
              | published version preimage expected identity =>
                exact .published version preimage expected identity
                  (.inr ⟨rfl, complete journal held version', expected ▸ matching'⟩)
          have recoverable' : RecoverableDisk lifecycle request start
              { s' with journal := some { journal with state := .applicationCommitted } } := by
            intro journal' held'
            cases held'
            exact ⟨condition.valid, condition.registry, by simp, by simp⟩
          refine .bind (fun _ s'' => Interrupted lifecycle request start s'' ∧
              RecoverableDisk lifecycle request start s'')
            (readJournal_bind ?_ ?_) fun _ => .pure _ fun _ both => both
          · rintro s'' rfl found held'
            obtain rfl := Option.some.inj (held.symm.trans held')
            refine .replaceFile ?_ ?_ ?_ ?_
            · rintro _ rfl
              exact ⟨tracked.interrupted rfl, recoverable'⟩
            · rintro _ rfl
              exact interrupted
            · rintro _ rfl
              exact tracked.interrupted rfl
            · rintro _ rfl
              exact ⟨interrupted, tracked.interrupted rfl⟩
          · rintro s'' rfl
            exact interrupted

theorem reconcileThrown_spec (thrown : Thrown) :
    Ends (Handled lifecycle request start) (reconcileThrown lifecycle thrown)
      (fun outcome s => Interrupted lifecycle request start s ∧
        (outcome.isSome → Settled request start s)) (Interrupted lifecycle request start) := by
  refine .look_bind fun s handled => ?_
  split
  · refine .bind _ (promotePersistedRegistryCommit_spec.strengthen ?_) fun _ =>
      .bind _ recoverOneReplacement_spec fun _ => .pure _ fun s' settled =>
        ⟨settled.interrupted, fun _ => settled⟩
    rintro s' rfl
    exact handled
  · exact .pure_exact _ ⟨handled.1.1, by simp⟩

/-- A handler that starts on a recoverable disk returns only with a settled
replacement, and keeps a tracked disk in every case. -/
theorem importHandler_spec (thrown : Thrown) :
    Ends (Handled lifecycle request start) (importHandler lifecycle thrown)
      (fun _ => Settled request start) (Interrupted lifecycle request start) := by
  have removes : Ends (Interrupted lifecycle request start)
      (removeTemporaryDirectory importedSlot) (fun _ => Interrupted lifecycle request start)
      (Interrupted lifecycle request start) :=
    removeTemporaryDirectory_spec (fun _ interrupted tree => interrupted.set_imported tree)
      fun _ interrupted => interrupted
  unfold importHandler
  split
  · refine .bind _ (reconcileThrown_spec thrown) fun outcome => ?_
    split
    · next committed =>
      refine (siteImportResult_spec fun s settled => Settled.interrupted settled).strengthen ?_
      rintro s ⟨_, settled⟩
      exact settled (by simp [committed])
    · exact .bind _ (removes.strengthen fun _ both => both.1) fun _ =>
        .raise _ fun _ interrupted => interrupted
  · refine .bind (fun _ => Handled lifecycle request start)
      (removeTemporaryDirectory_spec (fun _ handled tree => handled.set_imported tree)
        fun _ handled => handled.1.1) fun _ =>
      .bind _ (reconcileThrown_spec thrown) fun outcome => ?_
    split
    · next committed =>
      refine (siteImportResult_spec fun s settled => Settled.interrupted settled).strengthen ?_
      rintro s ⟨_, settled⟩
      exact settled (by simp [committed])
    · exact .raise _ fun _ both => both.1

/-- The whole import: whatever stops it leaves a tracked disk, provided that
its handler starts on a recoverable one. -/
theorem importSite_meets (fresh : start.journal = none) (unsaved : start.backup = none)
    (faults : List Fault) (handled : ∀ thrown disk, (importBody lifecycle request).run start faults
      = (.raised thrown, disk) → RecoverableDisk lifecycle request start disk) :
    Meets (importSite lifecycle request) (fun _ => Settled request start)
      (fun _ => Interrupted lifecycle request start) (Interrupted lifecycle request start)
      ⟨start, faults⟩ := by
  refine .tryFinally (fun _ => Settled request start) (fun _ => Interrupted lifecycle request start)
    (.tryExcept (fun _ => Raised lifecycle request start)
      (importBody_spec fresh unsaved ⟨start, faults⟩ rfl) fun thrown world ended raised =>
        importHandler_spec thrown world ⟨raised, handled thrown world.durable ?_⟩)
    (fun _ => removeTemporaryDirectory_spec (fun _ settled _ => settled)
      fun _ settled => settled.interrupted)
    fun _ => removeTemporaryDirectory_spec (fun _ interrupted tree => interrupted.set_imported tree)
      fun _ interrupted => interrupted
  rw [Proc.run, ended]

end Handler

/-! ## Atomicity of whole runs -/

/-- After a run of the import under `faults`, and after any number of
interrupted recovery passes that start on disks of `allowed`: a pass that
completes leaves the old or the imported site, and a pass without further
faults completes and removes the journal. -/
def ReplacementAtomic (lifecycle : Lifecycle) (request : ImportRequest) (start : SiteDisk)
    (faults : List Fault) (allowed : SiteDisk → Prop) : Prop :=
  ∀ disk, Attempts (recoverReplacementJournals lifecycle) allowed
      ((importSite lifecycle request).run start faults).2 disk → allowed disk →
    (∀ faults' after, (recoverReplacementJournals lifecycle).run disk faults'
      = (.returned (), after) → Settled request start after) ∧
    ∃ after, (recoverReplacementJournals lifecycle).run disk [] = (.returned (), after) ∧
      after.journal = none

/-- The replacement is atomic as long as every recovery starts on a recoverable
disk: the one in the handler of the import, and every later pass. -/
theorem replacementAtomic_of_recoverable (lifecycle : Lifecycle) (request : ImportRequest)
    (start : SiteDisk) (fresh : start.journal = none) (unsaved : start.backup = none)
    (faults : List Fault) (handled : ∀ thrown disk, (importBody lifecycle request).run start faults
      = (.raised thrown, disk) → RecoverableDisk lifecycle request start disk) :
    ReplacementAtomic lifecycle request start faults (RecoverableDisk lifecycle request start) := by
  intro disk attempts recoverable
  have interrupted : Interrupted lifecycle request start disk := by
    refine attempts.keeps recoverReplacementJournals_spec.triple ?_
    have outcome := (importSite_meets fresh unsaved faults handled).of_run
    revert outcome
    cases ended : (importSite lifecycle request).run start faults with
    | mk result after =>
      cases result with
      | returned _ => exact fun settled => settled.interrupted
      | raised _ => exact id
      | crashed => exact id
  constructor
  · intro faults' after ended
    have outcome := recoverReplacementJournals_spec.triple.of_run ⟨interrupted, recoverable⟩ faults'
    rw [ended] at outcome
    exact outcome
  · obtain ⟨_, after, ended, settled⟩ :=
      recoverReplacementJournals_spec.completes.run_eq ⟨interrupted, recoverable⟩
    exact ⟨after, ended, settled.1⟩

/-! ## Two runs -/

/-- Replacing a site whose only file has two bytes. -/
def sampleLifecycle : Lifecycle where
  sitesDir := "/data/sites"
  archiveDir := "/data/archive"
  sha256 bytes := toString (bytes.length)

def sampleRequest : ImportRequest where
  replaceSiteId := true
  site := { siteId := "demo", displayName := "Demo", relativePath := "sites/demo" }
  targetPath := ⟨"/data/sites", "demo"⟩
  backupPath := ⟨"/data/archive", "site-import-demo-0"⟩
  registryPreimage := none
  stagingSteps := [fun tree => tree.write "db/devices.db" [3]]
  checkpoints := []
  metadataTemporary := ".site_meta.0.tmp"
  siteMetadata _ := [4]
  fieldBaseline := []
  discovery _ := none
  alreadyExists := false
  now := "2026-01-01T00:00:00"

def sampleStart : SiteDisk where
  target := some [("db/devices.db", [1, 2])]
  backup := none
  imported := none
  registry := none
  journal := none

/-- The package is staged and the journal is written. -/
def journalWritten : List Fault := [.proceed, .proceed, .proceed, .proceed]

/-- Both renames of the old site fail and the process ends after the first byte
of the copy. -/
def tornCopy : List Fault :=
  journalWritten ++ [.fail, .fail, .proceed, .proceed, .proceed, .crash]

/-- The recovery completes and leaves one byte of the old database. -/
theorem recovery_of_tornCopy : (recoverReplacementJournals sampleLifecycle).run
      ((importSite sampleLifecycle sampleRequest).run sampleStart tornCopy).2 [] =
      (.returned (), {
        target := some [("db/devices.db", [1])], backup := none
        imported := some [("db/devices.db", [3])], registry := none, journal := none }) := rfl

/-- The replacement is not atomic: a copy of the old site that is cut off takes
the place of the site. -/
theorem not_replacementAtomic_torn :
    ¬ReplacementAtomic sampleLifecycle sampleRequest sampleStart tornCopy fun _ => True := by
  intro atomic
  have settled := (atomic _ .first trivial).1 [] _ recovery_of_tornCopy
  rcases settled.2 with ⟨⟨_, old⟩, _⟩ | ⟨new, _⟩
  · simp [sampleRequest, FileTree.after] at old
  · exact absurd (congrArg (Option.map List.length) new) (by decide)

/-- The process ends right after the old site was renamed to the backup. -/
def cutAfterRename : List Fault := journalWritten ++ [.proceed, .crash]

/-- That leaves a recoverable disk, with a complete backup. -/
theorem replacementAtomic_cutAfterRename : RecoverableDisk sampleLifecycle sampleRequest sampleStart
        ((importSite sampleLifecycle sampleRequest).run sampleStart cutAfterRename).2 ∧
      ReplacementAtomic sampleLifecycle sampleRequest sampleStart cutAfterRename
        (RecoverableDisk sampleLifecycle sampleRequest sampleStart) := by
  refine ⟨fun journal held => ?_,
    replacementAtomic_of_recoverable sampleLifecycle sampleRequest sampleStart rfl rfl _
      fun _ _ ended => by cases ended⟩
  cases held
  refine ⟨rfl, fun bound => (by cases bound), fun _ tree backup => ?_, fun moved => ?_⟩
  · exact ⟨0, backup.symm⟩
  · rcases moved with moved | moved <;> cases moved

end NetConsole.SiteImport
