import NetConsole.SiteImport.Recovery

/-!
# Every interruption of an import leaves a tracked disk

The guarded part of `importSite` is followed phase by phase: up to the first
journal, moving the old site to the backup, publishing the imported tree, and
registering it. Every step keeps `Interrupted`, and an exception moreover finds
the complete imported tree under a bound journal (`Raised`), which is what the
handler relies on when it promotes the journal (`importBody_spec`).
-/

set_option autoImplicit false

namespace NetConsole.SiteImport

open Foundations Option

section Import

variable {lifecycle : Lifecycle} {request : ImportRequest} {start : SiteDisk}
  {disk : SiteDisk} {journal : ReplacementJournal}

variable (lifecycle request start) in
/-- The disk after an exception of the guarded part: a bound journal has the
complete imported tree as its target. -/
def Raised (disk : SiteDisk) : Prop :=
  Interrupted lifecycle request start disk ∧
    ∀ journal, disk.journal = some journal → journal.schemaVersion = 3 →
      disk.target = some request.importedTree

variable (lifecycle request start) in
/-- The import is under way under a journal without registry fields. -/
structure Underway (journal : ReplacementJournal) (disk : SiteDisk) : Prop where
  held : disk.journal = some journal
  tracked : Tracked lifecycle request start journal disk
  version : journal.schemaVersion = 1

variable (underway : Underway lifecycle request start journal disk)
include underway

theorem Underway.interrupted : Interrupted lifecycle request start disk :=
  underway.tracked.interrupted underway.held

theorem Underway.raised : Raised lifecycle request start disk := by
  refine ⟨underway.interrupted, fun other held version => ?_⟩
  obtain rfl := some.inj (underway.held.symm.trans held)
  have earlier := underway.version
  omega

theorem Underway.untouched :
    journal.state ≠ .applicationCommitted ∧ disk.registry = start.registry := by
  cases underway.tracked.bound with
  | not_yet _ uncommitted untouched => exact ⟨uncommitted, untouched⟩
  | published version =>
    have earlier := underway.version
    omega

omit underway

theorem Settled.raised (settled : Settled request start disk) :
    Raised lifecycle request start disk :=
  ⟨settled.interrupted, fun journal held => by simp [settled.1] at held⟩

theorem Underway.set_target (underway : Underway lifecycle request start journal disk)
    {tree : Option SiteTree}
    (unmoved : journal.state = .prepared → start.target.isSome → disk.backup = none →
      IsOldTree request start tree) :
    Underway lifecycle request start journal { disk with target := tree } :=
  ⟨underway.held, underway.tracked.set_target underway.untouched.1 unmoved, underway.version⟩

variable (underway : Underway lifecycle request start journal disk)
include underway

theorem Underway.set_imported (tree : Option SiteTree) :
    Underway lifecycle request start journal { disk with imported := tree } :=
  ⟨underway.held, underway.tracked.congr rfl rfl rfl, underway.version⟩

/-- Before the backup is published, a backup of any kind may appear. -/
theorem Underway.set_backup (prepared : journal.state = .prepared) (target : Option SiteTree)
    (tree : SiteTree) : Underway lifecycle request start journal
      { disk with target := target, backup := some tree } := by
  refine ⟨underway.held, ⟨underway.tracked.kind, by simp, fun moved => absurd prepared moved,
    .not_yet underway.version underway.untouched.1 underway.untouched.2⟩, underway.version⟩

theorem Underway.set_state (state : ReplacementState) (uncommitted : state ≠ .applicationCommitted)
    (moved : state ≠ .prepared)
    (complete : ∀ tree, disk.backup = some tree → IsOldTree request start (some tree)) :
    Underway lifecycle request start { journal with state := state }
      { disk with journal := some { journal with state := state } } :=
  ⟨rfl, ⟨underway.tracked.kind, fun prepared => absurd prepared moved, fun _ => complete,
    .not_yet underway.version uncommitted underway.untouched.2⟩, underway.version⟩

omit underway

/-! ## Publishing directories -/

theorem publishDirectory_spec {source destination : Slot SiteDisk (List UInt8)}
    (apart : ∀ first second s, source.set first (destination.set second s)
      = destination.set second (source.set first s)) (s₀ : SiteDisk)
    {stopped : SiteDisk → Prop} (unchanged : stopped s₀)
    (part : ∀ tree, stopped (destination.set (some tree) s₀))
    (moved : ∀ tree rest, stopped (destination.set (some tree) (source.set rest s₀))) :
    Ends (· = s₀) (publishDirectory source destination)
      (fun _ s => ∃ tree rest, source.get s₀ = some tree ∧
        s = destination.set (some tree) (source.set rest s₀)) stopped := by
  have renames : ∀ raises : SiteError → SiteDisk → Prop, (∀ e, raises e s₀) →
      Triple (· = s₀) (renameSlot SiteError.osError source destination)
        (fun _ s => ∃ tree rest, source.get s₀ = some tree ∧
          s = destination.set (some tree) (source.set rest s₀)) raises stopped := by
    intro raises missed
    refine (renameSlot_spec source destination s₀).weaken (fun _ same => same) ?_ ?_ ?_
    · rintro _ s ⟨tree, held, _, rfl⟩
      exact ⟨tree, none, held, rfl⟩
    · rintro e s rfl
      exact missed e
    · rintro s rfl
      exact unchanged
  refine .tryExcept (fun _ s => s = s₀) (renames _ fun _ => rfl) fun _ =>
    .tryExcept (fun _ s => s = s₀) (renames _ fun _ => rfl) fun _ => .look_bind fun s same => ?_
  subst same
  split
  · exact .raise_exact _ unchanged
  · refine .bind (fun _ s' => ∃ tree, source.get s = some tree ∧ s' = destination.set (some tree) s)
      ((copyTree_spec source destination s).weaken (fun _ same => same) ?_ ?_ ?_)
      fun _ => .of_exact fun s₁ reached => ?_
    · rintro _ s' ⟨tree, held, _, rfl⟩
      exact ⟨tree, held, rfl⟩
    · rintro _ s' (rfl | ⟨tree, rfl⟩)
      · exact unchanged
      · exact part tree
    · rintro s' (rfl | ⟨tree, rfl⟩)
      · exact unchanged
      · exact part tree
    · obtain ⟨tree, held, rfl⟩ := reached
      refine (removeTreeIgnoring_spec source _ _).weaken (fun _ same => same) ?_ (fun _ _ s => s) ?_
      · rintro _ s' ⟨rest, rfl⟩
        exact ⟨tree, rest, held, apart _ _ _⟩
      · rintro s' ⟨rest, rfl⟩
        rw [apart]
        exact moved tree rest

/-! ## The phases of the guarded part -/

variable (lifecycle request start) in
/-- A part of the import that leaves a tracked disk when it raises. -/
abbrev Imports {α : Type} (before : SiteDisk → Prop) (procedure : SiteProc α)
    (returns : α → SiteDisk → Prop) : Prop :=
  Triple before procedure returns (fun _ => Raised lifecycle request start)
    (Interrupted lifecycle request start)

theorem writeJournal_spec {before : SiteDisk → Prop} {journal' : ReplacementJournal}
    {reached : SiteDisk → Prop}
    (done : ∀ s, before s → reached { s with journal := some journal' })
    (raisedBefore : ∀ s, before s → Raised lifecycle request start s)
    (raisedAfter : ∀ s, reached s → Raised lifecycle request start s) :
    Imports lifecycle request start before (writeJournal journal') (fun _ => reached) :=
  .replaceFile done raisedBefore (fun s entry => raisedAfter _ (done s entry))
    fun s entry => ⟨(raisedBefore s entry).1, (raisedAfter _ (done s entry)).1⟩

variable (lifecycle request start) in
/-- The first journal is written and nothing has moved. -/
structure Prepared (disk : SiteDisk) : Prop where
  underway : ∃ journal, Underway lifecycle request start journal disk ∧ journal.state = .prepared
  imported : disk.imported = some request.stagedTree
  target : disk.target = start.target
  backup : disk.backup = none

theorem isOldTree_start : IsOldTree request start start.target := by
  cases present : start.target with
  | none => exact isOldTree_none present
  | some tree =>
    unfold IsOldTree
    rw [present]
    exact ⟨0, rfl⟩

variable (fresh : start.journal = none)
include fresh

theorem settled_start (imported : Option SiteTree) :
    Settled request start { start with imported := imported } :=
  ⟨fresh, .inl ⟨isOldTree_start, .inl rfl⟩⟩

theorem beginSiteReplacement_spec (unsaved : start.backup = none)
    (path : Option SitePath) (kind : path.isSome = start.target.isSome) :
    Imports lifecycle request start (· = { start with imported := some request.stagedTree })
      (beginSiteReplacement request.targetPath path)
      (fun _ => Prepared lifecycle request start) := by
  refine writeJournal_spec ?_ ?_ ?_
  · rintro s rfl
    exact ⟨⟨_, ⟨rfl, ⟨kind, fun _ _ _ => isOldTree_start, fun moved => absurd rfl moved,
      .not_yet rfl (by simp) rfl⟩, rfl⟩, rfl⟩, rfl, rfl, unsaved⟩
  · rintro s rfl
    exact (settled_start fresh _).raised
  · rintro s ⟨⟨_, underway, _⟩, _⟩
    exact underway.raised

theorem prepareReplacement_spec (unsaved : start.backup = none) :
    Imports lifecycle request start (· = start) (prepareReplacement request)
      (fun replacing s => Prepared lifecycle request start s ∧
        replacing = start.target.isSome) := by
  have settled : ∀ imported, Settled request start { start with imported := imported } :=
    settled_start fresh
  refine .bind (fun _ s => s = { start with imported := some [] })
    (.act_exact rfl (settled _).raised (settled _).interrupted) fun _ =>
      .bind (fun _ s => s = { start with imported := some request.stagedTree })
        ((applySteps_spec importedSlot start request.stagingSteps []).weaken
          (fun _ same => same) (fun _ _ same => same) ?_ ?_) fun _ =>
            .look_bind fun s same => ?_
  · rintro _ s ⟨count, rfl⟩
    exact (settled _).raised
  · rintro s ⟨count, rfl⟩
    exact (settled _).interrupted
  · subst same
    split
    · next present =>
      split
      · exact .raise_exact _ ((settled _).raised)
      · refine .bind (fun _ => Prepared lifecycle request start)
          (beginSiteReplacement_spec fresh unsaved (some request.backupPath) present.symm)
          fun _ => .pure _ fun s prepared => ⟨prepared, present.symm⟩
    · next absent =>
      have gone : start.target.isSome = false := by simpa using absent
      exact .bind (fun _ => Prepared lifecycle request start)
        (beginSiteReplacement_spec fresh unsaved none gone.symm)
        fun _ => .pure _ fun s prepared => ⟨prepared, gone.symm⟩

omit fresh

variable (lifecycle request start) in
/-- The imported tree can be published: there was no site, or it is saved. -/
structure Cleared (journal : ReplacementJournal) (disk : SiteDisk) : Prop where
  underway : Underway lifecycle request start journal disk
  imported : disk.imported = some request.stagedTree
  created : journal.state = .prepared → start.target = none
  complete : ∀ tree, disk.backup = some tree → IsOldTree request start (some tree)

theorem markSiteReplacement_spec (s₀ : SiteDisk)
    (underway : Underway lifecycle request start journal s₀) (state : ReplacementState)
    (uncommitted : state ≠ .applicationCommitted) (moved : state ≠ .prepared)
    (complete : ∀ tree, s₀.backup = some tree → IsOldTree request start (some tree)) :
    Imports lifecycle request start (· = s₀) (markSiteReplacement state)
      (fun _ s => s = { s₀ with journal := some { journal with state := state } } ∧
        Underway lifecycle request start { journal with state := state } s) := by
  refine readJournal_bind ?_ ?_
  · rintro s rfl found held
    obtain rfl := some.inj (underway.held.symm.trans held)
    refine writeJournal_spec ?_ ?_ fun s both => both.2.raised
    · rintro s' rfl
      exact ⟨rfl, underway.set_state state uncommitted moved complete⟩
    · rintro s' rfl
      exact underway.raised
  · rintro s rfl
    exact underway.raised

theorem removeDirectoryAfterBackup_spec (s₀ : SiteDisk)
    (underway : Underway lifecycle request start journal s₀) (moved : journal.state ≠ .prepared) :
    Imports lifecycle request start (· = s₀) (removeDirectoryAfterBackup targetSlot)
      (fun _ s => ∃ tree, s = { s₀ with target := tree }) := by
  have anyTarget : ∀ tree, Underway lifecycle request start journal { s₀ with target := tree } :=
    fun tree => underway.set_target fun prepared => absurd prepared moved
  refine .bind (fun _ s => ∃ tree, s = { s₀ with target := tree })
    ((removeTreeAttempts_spec targetSlot s₀
      (fun s₁ => removeTreeIgnoring_spec targetSlot s₁ fun _ => Raised lifecycle request start)
        20 s₀
      ⟨s₀.target, rfl⟩).weaken (fun _ same => same) ?_ (fun _ _ r => r) ?_) fun gone => ?_
  · rintro _ s ⟨tree, rfl, _⟩
    exact ⟨tree, rfl⟩
  · rintro s ⟨tree, rfl⟩
    exact (anyTarget tree).interrupted
  · split
    · exact .pure _ fun _ reached => reached
    · refine .raise _ ?_
      rintro s ⟨tree, rfl⟩
      exact (anyTarget tree).raised

/-- Moving the old site to the backup. -/
theorem publishBackup_spec (replaced : start.target.isSome) :
    Imports lifecycle request start (Prepared lifecycle request start) (publishBackup request)
      (fun _ s => ∃ journal, Cleared lifecycle request start journal s) := by
  refine .of_exact fun s₀ prepared => ?_
  obtain ⟨journal, underway, state⟩ := prepared.underway
  obtain ⟨old, present⟩ := isSome_iff_exists.mp replaced
  have isOld : ∀ count, IsOldTree request start
      (some (FileTree.after (request.checkpoints.take count) old)) := by
    intro count
    unfold IsOldTree
    rw [present]
    exact ⟨count, rfl⟩
  have anyCheckpoint : ∀ count, Underway lifecycle request start journal
      { s₀ with target := some (FileTree.after (request.checkpoints.take count) old) } :=
    fun count => underway.set_target fun _ _ _ => isOld count
  have start_eq : s₀ = targetSlot.set (some old) s₀ := by
    rw [← present, ← prepared.target]
    rfl
  refine .bind (fun _ s => s = { s₀ with target := some (FileTree.after request.checkpoints old) })
    ((applySteps_spec targetSlot s₀ request.checkpoints old).weaken
      (fun s same => same.trans start_eq) (fun _ _ same => same) ?_ ?_) fun _ =>
    .bind (fun _ s => ∃ rest, s = { s₀ with
        target := rest
        backup := some (FileTree.after request.checkpoints old) }) ?_ fun _ =>
      .of_exact fun s₁ reached => ?_
  · rintro _ s ⟨count, rfl⟩
    exact (anyCheckpoint count).raised
  · rintro s ⟨count, rfl⟩
    exact (anyCheckpoint count).interrupted
  · have whole := anyCheckpoint request.checkpoints.length
    rw [List.take_length] at whole
    refine (publishDirectory_spec (fun _ _ _ => rfl) _ whole.raised
      (fun tree => (whole.set_backup state _ tree).raised)
      fun tree rest => (whole.set_backup state rest tree).raised).weaken
      (fun _ same => same) ?_ (fun _ _ raised => raised) fun _ raised => raised.1
    rintro _ s ⟨tree, rest, held, rfl⟩
    cases held
    exact ⟨rest, rfl⟩
  · obtain ⟨rest, rfl⟩ := reached
    have saved := underway.set_backup state rest (FileTree.after request.checkpoints old)
    have complete : ∀ tree, some (FileTree.after request.checkpoints old) = some tree →
        IsOldTree request start (some tree) := by
      intro tree same
      have whole := isOld request.checkpoints.length
      rw [List.take_length] at whole
      rwa [← same]
    refine .bind _ (markSiteReplacement_spec _ saved .backupPublished (by simp) (by simp) complete)
      fun _ => .of_exact fun s₂ reached => ?_
    obtain ⟨rfl, moved⟩ := reached
    refine (removeDirectoryAfterBackup_spec _ moved (by simp)).returning ?_
    rintro _ s ⟨tree, rfl⟩
    exact ⟨_, moved.set_target fun prepared => by simp at prepared, prepared.imported,
      fun prepared => by simp at prepared, complete⟩

variable (lifecycle request start) in
/-- A tree is published at the target and nothing is bound yet. -/
structure Published (tree : SiteTree) (journal : ReplacementJournal) (disk : SiteDisk) : Prop where
  underway : Underway lifecycle request start journal disk
  state : journal.state = .targetPublished
  target : disk.target = some tree

variable {tree : SiteTree}

theorem Published.set_target
    (published : Published lifecycle request start tree journal disk) (other : Option SiteTree) :
    Underway lifecycle request start journal { disk with target := other } :=
  published.underway.set_target fun prepared => by simp [published.state] at prepared

theorem applySteps_published (steps : List (SiteTree → SiteTree)) :
    Triple (Published lifecycle request start tree journal)
      (applySteps SiteError.osError targetSlot steps)
      (fun _ => Published lifecycle request start (FileTree.after steps tree) journal)
      (fun _ s => ∃ other, Published lifecycle request start other journal s)
      (fun s => ∃ other, Published lifecycle request start other journal s) := by
  refine .of_exact fun s₀ published => ?_
  have start_eq : s₀ = targetSlot.set (some tree) s₀ := by
    rw [← published.target]
    rfl
  refine (applySteps_spec targetSlot s₀ steps tree).weaken (fun s same => same.trans start_eq)
    ?_ ?_ ?_
  · rintro _ s rfl
    exact ⟨published.set_target _, published.state, rfl⟩
  · rintro _ s ⟨count, rfl⟩
    exact ⟨_, published.set_target _, published.state, rfl⟩
  · rintro s ⟨count, rfl⟩
    exact ⟨_, published.set_target _, published.state, rfl⟩

theorem saveSiteMetadata_spec :
    Imports lifecycle request start (Published lifecycle request start tree journal)
      (saveSiteMetadata request)
      (fun _ => Published lifecycle request start (request.withMetadata tree) journal) := by
  refine .look_bind fun s published => ?_
  rw [published.target]
  refine .tryFinally (fun _ => Published lifecycle request start
      (((tree.write request.metadataTemporary []).write request.metadataTemporary
        (request.siteMetadata tree)).rename request.metadataTemporary "site_meta.json") journal)
    (fun _ s' => ∃ other, Published lifecycle request start other journal s')
    (((applySteps_published _).strengthen ?_).weaken (fun _ same => same)
      (fun _ _ done => done) (fun _ _ part => part) ?_) (fun _ => ?_) fun _ => ?_
  · rintro s' rfl
    exact published
  · rintro s' ⟨other, part⟩
    exact part.underway.interrupted
  · refine (applySteps_published _).weaken (fun _ done => done) (fun _ _ done => done) ?_ ?_
    · rintro _ s' ⟨other, part⟩
      exact part.underway.raised
    · rintro s' ⟨other, part⟩
      exact part.underway.interrupted
  · refine .of_exists fun other => (applySteps_published _).weaken (fun _ part => part) ?_ ?_ ?_
    · exact fun _ s' done => done.underway.raised
    · rintro _ s' ⟨other, part⟩
      exact part.underway.raised
    · rintro s' ⟨other, part⟩
      exact part.underway.interrupted

theorem publishTarget_spec :
    Imports lifecycle request start (Cleared lifecycle request start journal)
      (publishTarget request) (fun _ s => ∃ journal,
        Published lifecycle request start request.importedTree journal s) := by
  refine .of_exact fun s₀ cleared => ?_
  have anyTarget : ∀ tree rest, Underway lifecycle request start journal
      { s₀ with imported := rest, target := tree } := fun tree rest =>
    (cleared.underway.set_imported rest).set_target fun prepared present => by
      simp [cleared.created prepared] at present
  refine .bind (fun _ s => ∃ rest, s = { s₀ with
      imported := rest
      target := some request.stagedTree }) ?_ fun _ => .of_exact fun s₁ reached => ?_
  · refine (publishDirectory_spec (fun _ _ _ => rfl) _ cleared.underway.raised
      (fun tree => (anyTarget (some tree) s₀.imported).raised)
      fun tree rest => (anyTarget (some tree) rest).raised).weaken
      (fun _ same => same) ?_ (fun _ _ raised => raised) fun _ raised => raised.1
    rintro _ s ⟨tree, rest, held, rfl⟩
    obtain rfl := some.inj (cleared.imported.symm.trans held)
    exact ⟨rest, rfl⟩
  · obtain ⟨rest, rfl⟩ := reached
    refine .bind (fun _ => Published lifecycle request start request.stagedTree
        { journal with state := .targetPublished })
      ((markSiteReplacement_spec _ (anyTarget _ rest) .targetPublished (by simp) (by simp)
        cleared.complete).returning ?_) fun _ =>
      .bind _ saveSiteMetadata_spec fun _ =>
        (applySteps_published _).weaken (fun _ published => published)
          (fun _ _ published => ⟨_, published⟩) ?_ ?_
    · rintro _ s ⟨rfl, underway⟩
      exact ⟨underway, rfl, rfl⟩
    · rintro _ s ⟨other, part⟩
      exact part.underway.raised
    · rintro s ⟨other, part⟩
      exact part.underway.interrupted

variable (lifecycle request start) in
/-- The registry fields are bound over the complete imported tree. -/
structure Registering (journal : ReplacementJournal) (disk : SiteDisk) : Prop where
  held : disk.journal = some journal
  tracked : Tracked lifecycle request start journal disk
  version : journal.schemaVersion = 3
  state : journal.state = .targetPublished
  target : disk.target = some request.importedTree

variable (registering : Registering lifecycle request start journal disk)
include registering

theorem Registering.raised : Raised lifecycle request start disk :=
  ⟨registering.tracked.interrupted registering.held, fun _ _ _ => registering.target⟩

theorem Registering.set_registry (record : Option RegistryRecord) :
    Registering lifecycle request start journal { disk with registry := record } := by
  have version := registering.version
  exact ⟨registering.held, ⟨registering.tracked.kind, registering.tracked.unmoved,
    registering.tracked.saved, registering.tracked.bound.relocate (by simp [registering.state])
      fun earlier => by omega⟩, version, registering.state, registering.target⟩

theorem Registering.commit
    (matching : registryRecordMatches disk.registry (some request.site.registryExpected) = true) :
    Tracked lifecycle request start { journal with state := .applicationCommitted }
      { disk with journal := some { journal with state := .applicationCommitted } } := by
  refine ⟨registering.tracked.kind, by simp,
    fun _ => registering.tracked.saved (by simp [registering.state]), ?_⟩
  cases registering.tracked.bound with
  | not_yet version =>
    have later := registering.version
    omega
  | published version preimage expected identity =>
    exact .published version preimage expected identity (.inr ⟨rfl, registering.target, matching⟩)

omit registering

theorem bindSiteReplacementRegistry_spec :
    Imports lifecycle request start (Published lifecycle request start request.importedTree journal)
      (bindSiteReplacementRegistry lifecycle request.site.siteId request.registryPreimage
        request.site.registryExpected)
      (fun _ s => ∃ journal, Registering lifecycle request start journal s) := by
  refine readJournal_bind ?_ fun s published => published.underway.raised
  rintro s published found held
  obtain rfl := some.inj (published.underway.held.symm.trans held)
  have refused : ∀ error, Imports lifecycle request start (· = s) (Proc.raise error : SiteProc Unit)
      (fun _ s => ∃ journal, Registering lifecycle request start journal s) := by
    refine fun error => .raise _ ?_
    rintro s' rfl
    exact published.underway.raised
  split
  · exact refused _
  · split
    · exact refused _
    · split
      · exact refused _
      · refine .look_bind fun s' same => ?_
        subst same
        rw [published.target]
        refine writeJournal_spec ?_ ?_ fun s'' both => both.choose_spec.raised
        · rintro s'' rfl
          exact ⟨_, rfl, ⟨published.underway.tracked.kind,
            fun prepared => by simp [published.state] at prepared,
            published.underway.tracked.saved,
            .published rfl rfl rfl rfl (.inl published.state)⟩, rfl, published.state,
            published.target⟩
        · rintro s'' rfl
          exact published.underway.raised

theorem register_spec : Imports lifecycle request start
      (Registering lifecycle request start journal) (register request)
      (fun _ s => Registering lifecycle request start journal s ∧
        registryRecordMatches s.registry (some request.site.registryExpected) = true) := by
  have writes : ∀ (before : SiteDisk → Prop) (record : Option RegistryRecord),
      (∀ s, before s → Registering lifecycle request start journal s) →
      Imports lifecycle request start before
        (Proc.replaceFile SiteError.osError fun disk => { disk with registry := record })
        (fun _ s => Registering lifecycle request start journal s ∧ s.registry = record) := by
    intro before record registering
    refine .replaceFile (fun s entry => ⟨(registering s entry).set_registry record, rfl⟩)
      (fun s entry => (registering s entry).raised)
      (fun s entry => ((registering s entry).set_registry record).raised)
      fun s entry => ⟨(registering s entry).raised.1,
        ((registering s entry).set_registry record).raised.1⟩
  refine .bind (fun _ => Registering lifecycle request start journal)
    (.look_bind fun s registering => ?_) fun _ => ?_
  · split
    · exact .pure_exact _ registering
    · refine (writes _ _ ?_).returning (fun _ _ both => both.1)
      rintro s' rfl
      exact registering
  · split
    · exact .raise _ fun _ registering => registering.raised
    · refine (writes _ _ fun _ registering => registering).returning ?_
      rintro _ s ⟨registering, written⟩
      exact ⟨registering, written ▸ serialize_matches_registryExpected _ _⟩

theorem siteImportResult_spec {before raises cutOff : SiteDisk → Prop}
    (raised : ∀ s, before s → raises s) :
    Triple before siteImportResult (fun _ => before) (fun _ => raises) cutOff := by
  refine .look_bind fun s entry => ?_
  split
  · refine .raise _ ?_
    rintro s' rfl
    exact raised s' entry
  · split
    · refine .raise _ ?_
      rintro s' rfl
      exact raised s' entry
    · exact .pure_exact _ entry

/-- Registering the site and ending the journal. -/
theorem commitReplacement_spec :
    Imports lifecycle request start (Published lifecycle request start request.importedTree journal)
      (commitReplacement lifecycle request) (fun _ => Settled request start) := by
  refine .bind _ bindSiteReplacementRegistry_spec fun _ => .of_exists fun journal =>
    .bind _ register_spec fun _ =>
    .bind (fun _ s => Tracked lifecycle request start
        { journal with state := .applicationCommitted } s ∧
        s.journal = some { journal with state := .applicationCommitted })
      (readJournal_bind ?_ fun s both => both.1.raised) fun _ =>
      .bind (fun _ => Settled request start) (.act_ok ?_ ?_ ?_) fun _ =>
        siteImportResult_spec fun s settled => settled.raised
  · rintro s ⟨registered, matching⟩ found held
    obtain rfl := some.inj (registered.held.symm.trans held)
    refine writeJournal_spec ?_ ?_ ?_
    · rintro s' rfl
      exact ⟨registered.commit matching, rfl⟩
    · rintro s' rfl
      exact registered.raised
    · rintro s' ⟨tracked, held'⟩
      exact ⟨tracked.interrupted held', fun _ _ _ => (tracked.committed rfl).2.1⟩
  · rintro s ⟨tracked, held⟩
    exact ⟨rfl, .inr (tracked.committed rfl).2⟩
  · rintro s ⟨tracked, held⟩
    exact ⟨tracked.interrupted held, fun _ _ _ => (tracked.committed rfl).2.1⟩
  · rintro s ⟨tracked, held⟩
    exact tracked.interrupted held

/-- The guarded part, under all faults: the new site when it returns, a tracked
disk otherwise. -/
theorem importBody_spec (fresh : start.journal = none) (unsaved : start.backup = none) :
    Triple (· = start) (importBody lifecycle request) (fun _ => Settled request start)
      (fun _ => Raised lifecycle request start) (Interrupted lifecycle request start) := by
  refine .bind _ (.tryExcept (fun _ => Raised lifecycle request start)
    (prepareReplacement_spec fresh unsaved) fun _ => .raise _ fun _ raised => raised)
    fun replacing => .tryExcept (fun _ => Raised lifecycle request start) ?_ fun _ =>
      .raise _ fun _ raised => raised
  refine .of_exact fun s₀ reached => ?_
  obtain ⟨prepared, replaced⟩ := reached
  refine .bind (fun _ s => ∃ journal, Cleared lifecycle request start journal s)
    (.when (fun present => ?_) fun absent => ?_) fun _ =>
      .bind (fun _ s => ∃ journal, Published lifecycle request start request.importedTree journal s)
        (.of_exists fun _ => publishTarget_spec) fun _ =>
        .of_exists fun _ => commitReplacement_spec
  · refine (publishBackup_spec (replaced ▸ present)).strengthen ?_
    rintro s rfl
    exact prepared
  · rintro s rfl
    obtain ⟨journal, underway, _⟩ := prepared.underway
    have none_there : start.target = none := by simpa [replaced] using absent
    exact ⟨journal, underway, prepared.imported, fun _ => none_there, by simp [prepared.backup]⟩

end Import

end NetConsole.SiteImport
