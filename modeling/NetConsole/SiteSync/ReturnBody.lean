import NetConsole.Foundations.FallibleMaps
import NetConsole.SiteSync.ReturnRecovery

/-!
# The import of a return package step by step

The parts of `importBody` one after another: each keeps the journal tracked at
every exception and every crash, and what it has written so far agrees with the
pure functions `mergedFiles` and `appliedDatabases`. At the end the journal says
applied only for a site that is fully applied (`importBody_spec`).
-/

set_option autoImplicit false

namespace NetConsole.SiteSync

open Foundations List Function

/-- Nothing on the disk belongs to this import yet; its paths contain an
identifier that was just drawn. -/
structure Fresh (request : ReturnImport) (start : SyncDisk) : Prop where
  journal : start.journal = none
  recovery : start.recovery = none
  temporaries : start.temporaries = []
  audit : start.site request.auditPath = none
  archive : ∀ entry relative, start.site (request.archivedPath entry relative) = none

section Body

variable {request : ReturnImport} {before disk : SyncDisk} {journal : SyncJournal}

/-! ## Directories -/

/-- Some directories are added. -/
def MoreDirectories (start disk : SyncDisk) : Prop :=
  ∃ directories, disk = { start with directories := directories } ∧
    ∀ path, start.directories path = true → directories path = true

variable {start : SyncDisk}

theorem MoreDirectories.refl (disk : SyncDisk) : MoreDirectories disk disk :=
  ⟨disk.directories, rfl, fun _ held => held⟩

theorem MoreDirectories.grown (more : MoreDirectories start disk) : Grown start disk := by
  obtain ⟨_, rfl, kept⟩ := more
  exact ⟨rfl, kept⟩

theorem Applying.more (applying : Applying request before journal start)
    (more : MoreDirectories start disk) : Applying request before journal disk := by
  refine applying.congr more.grown ?_
  obtain ⟨_, rfl, _⟩ := more
  rfl

theorem MoreDirectories.step (directory : SitePath)
    (more : MoreDirectories
      { start with directories := Function.update start.directories directory true } disk) :
    MoreDirectories start disk := by
  obtain ⟨directories, rfl, kept⟩ := more
  refine ⟨directories, rfl, fun path held => kept path ?_⟩
  show Function.update start.directories directory true path = true
  by_cases here : path = directory
  · rw [here, update_self]
  · rw [update_of_ne here, held]

theorem addDirectories_eq_true {directories : SiteDirectories} {made : List SitePath}
    {path : SitePath} :
    addDirectories directories made path = true ↔ directories path = true ∨ path ∈ made := by
  unfold addDirectories
  induction made generalizing directories with
  | nil => simp
  | cons directory rest ih =>
    rw [foldl_cons, ih]
    by_cases here : path = directory
    · simp [here]
    · simp [here]

/-- No directory is made at the target itself. -/
theorem addDirectories_target (directories : SiteDirectories) (target : SitePath) :
    addDirectories directories (parentsOf target) target = directories target := by
  rw [Bool.eq_iff_iff, addDirectories_eq_true]
  simp [parentsOf]

theorem makeDirectories_spec : ∀ (made : List SitePath) (s₀ : SyncDisk),
    Ends (· = s₀) (makeDirectories made)
      (fun _ s => (made.any fun directory => (s₀.site directory).isSome) = false ∧
        s = { s₀ with directories := addDirectories s₀.directories made }) (MoreDirectories s₀)
  | [], s₀ => .pure_exact _ ⟨rfl, rfl⟩
  | directory :: rest, s₀ => by
    have stays : ∀ s, s = s₀ → MoreDirectories s₀ s := by
      rintro s rfl
      exact .refl s
    refine .bind (fun _ s => (s₀.site directory).isSome = false ∧
        s = { s₀ with directories := Function.update s₀.directories directory true })
      (.act ?_ (fun s same _ _ => stays s same) stays stays) fun _ => .of_exact fun s made => ?_
    · rintro s rfl s' happened
      obtain ⟨free, same⟩ := guard_eq_ok.mp happened
      exact ⟨by simpa using free, (Except.ok.inj same).symm⟩
    · obtain ⟨free, rfl⟩ := made
      refine (makeDirectories_spec rest _).weaken (fun _ same => same) ?_ ?_ ?_
      · rintro _ s ⟨others, rfl⟩
        exact ⟨by simpa [free] using others, rfl⟩
      all_goals
        intros
        exact .step directory ‹_›

/-- Write a file where no directory is. -/
theorem setFile_ends {entry stopped : SyncDisk → Prop} {returns : Unit → SyncDisk → Prop}
    (path : SitePath) (content : Option FileContent)
    (done : ∀ s, entry s → s.directories path = false →
      returns () { s with site := Function.update s.site path content })
    (stays : ∀ s, entry s → stopped s) : Ends entry (setFile path content) returns stopped := by
  refine .act (fun s holds s' happened => ?_) (fun s holds _ _ => stays s holds) stays stays
  obtain ⟨free, same⟩ := guard_eq_ok.mp happened
  rw [← Except.ok.inj same]
  exact done s holds (by simpa using free)

/-! ## The journal -/

/-- A journal file is replaced or stays as it is. -/
theorem writeJournal_spec (s₀ : SyncDisk) (journal : SyncJournal) :
    Triple (· = s₀) (writeJournal journal) (fun _ s => s = { s₀ with journal := some journal })
      (fun _ s => s = s₀ ∨ s = { s₀ with journal := some journal })
      (fun s => s = s₀ ∨ s = { s₀ with journal := some journal }) := by
  refine .replaceFile ?_ ?_ ?_ ?_
  · rintro s rfl
    rfl
  · exact fun s same => Or.inl same
  · rintro s rfl
    exact Or.inr rfl
  · rintro s rfl
    exact ⟨Or.inl rfl, Or.inr rfl⟩

variable {s₀ : SyncDisk}

theorem writeJournal_tracked (interrupted : Interrupted request before s₀) {journal : SyncJournal}
    (tracked : Tracked request before journal { s₀ with journal := some journal }) :
    Ends (· = s₀) (writeJournal journal)
      (fun _ s => s = { s₀ with journal := some journal }) (Interrupted request before) := by
  have either : ∀ s, s = s₀ ∨ s = { s₀ with journal := some journal } →
      Interrupted request before s := by
    rintro s (rfl | rfl)
    · exact interrupted
    · exact .inr ⟨journal, tracked⟩
  exact (writeJournal_spec s₀ journal).weaken (fun _ same => same) (fun _ _ same => same)
    (fun _ => either) either

/-! ## The snapshot -/

variable (request before) in
/-- The snapshot is being written. -/
structure Preparing (journal : SyncJournal) (tree : FileTree FileContent) (disk : SyncDisk) :
    Prop where
  held : disk.journal = some journal
  begun : Begun request before journal
  state : journal.state = .preparing
  created : journal.createdPaths = []
  site : disk.site = before.site
  directories : disk.directories = mergeDirectories request before
  clean : disk.temporaries = []
  recovery : disk.recovery = some tree

theorem Preparing.interrupted {tree : FileTree FileContent}
    (preparing : Preparing request before journal tree disk) : Interrupted request before disk :=
  .inr ⟨journal, preparing.held, preparing.begun,
    .early (.inl preparing.state) preparing.created preparing.site⟩

theorem Preparing.set_recovery {tree : FileTree FileContent}
    (preparing : Preparing request before journal tree disk) (tree' : FileTree FileContent) :
    Preparing request before journal tree' { disk with recovery := some tree' } :=
  ⟨preparing.held, preparing.begun, preparing.state, preparing.created, preparing.site,
    preparing.directories, preparing.clean, rfl⟩

theorem saveFile_spec (path : SitePath) (saved : String) (tree : FileTree FileContent) :
    Ends (Preparing request before journal tree) (saveFile path saved)
      (fun _ => Preparing request before journal (savedFile before path saved tree))
      (Interrupted request before) := by
  refine .look_bind fun s₀ preparing => ?_
  rw [preparing.site]
  unfold savedFile
  cases before.site path with
  | none =>
    exact .pure_exact _ preparing
  | some content =>
    have unchanged : s₀ = recoverySlot.set (some tree) s₀ := by
      rw [← preparing.recovery]
      exact (recoverySlot.set_get s₀).symm
    refine (applySteps_spec recoverySlot s₀ _ tree).weaken ?_ ?_ ?_ ?_
    · exact fun s same => same.trans unchanged
    · rintro _ s rfl
      exact preparing.set_recovery _
    · rintro _ s ⟨_, rfl⟩
      exact (preparing.set_recovery _).interrupted
    · rintro s ⟨_, rfl⟩
      exact (preparing.set_recovery _).interrupted

theorem saveSnapshot_spec : Ends (Preparing request before journal []) saveSnapshot
      (fun _ => Preparing request before journal (snapshot before)) (Interrupted request before) :=
  .bind _ (saveFile_spec _ _ _) fun _ => .bind _ (saveFile_spec _ _ _) fun _ => saveFile_spec _ _ _

/-! ## The targets of the payload files -/

variable {path : SitePath}

theorem safeRelative_valid {value : String} (safe : safeRelative value = .ok path) :
    validCreatedPath path = true := by
  obtain ⟨accepted, same⟩ := guard_eq_ok.mp safe
  cases same
  simp only [Bool.or_eq_true, any_eq_true, not_or, not_exists] at accepted
  have nonempty : splitSlashes (normalizeSlashes value) ≠ [] := by
    simp [splitSlashes, splitOn_ne_nil]
  have below : ".." ∉ splitSlashes (normalizeSlashes value) :=
    fun mem => accepted.2 ".." ⟨mem, by simp⟩
  simp [validCreatedPath, nonempty, below]

theorem archivedPath_valid {relative : SitePath} (entry : FileEntry)
    (valid : validCreatedPath relative = true) :
    validCreatedPath (request.archivedPath entry relative) = true := by
  simp only [validCreatedPath, Bool.and_eq_true, decide_eq_true_eq] at valid ⊢
  refine ⟨by simp [ReturnImport.archivedPath], ?_⟩
  simp only [ReturnImport.archivedPath, mem_cons, mem_append, not_or]
  exact ⟨by decide, by decide, request.archivedBelow_valid entry, valid.2⟩

variable {target : SitePath}

variable (request) in
/-- The archive of the import has this path. -/
def Archived (target : SitePath) : Prop :=
  ∃ entry relative, target = request.archivedPath entry relative

theorem Archived.below (archived : Archived request target) (name : String) :
    Archived request (target ++ [name]) := by
  obtain ⟨entry, relative, rfl⟩ := archived
  exact ⟨entry, relative ++ [name], by simp [ReturnImport.archivedPath]⟩

theorem entryTarget_some {site : SiteFiles} {directories : SiteDirectories}
    {existing : List (String × SitePath)} {entry : FileEntry} {copy : PayloadCopy}
    (chosen : entryTarget request site directories existing entry = .ok (some copy)) :
    validCreatedPath copy.target = true ∧ (Archived request copy.target ∨
      site copy.target = none ∧ directories copy.target = false) := by
  unfold entryTarget at chosen
  split at chosen
  · cases chosen
  · obtain ⟨relative, safe, chosen⟩ := bind_eq_ok.mp chosen
    obtain ⟨_, _, chosen⟩ := bind_eq_ok.mp chosen
    split at chosen
    · cases chosen
    · obtain ⟨_, chosen⟩ := guard_eq_ok.mp chosen
      split at chosen
      · cases chosen
        exact ⟨archivedPath_valid entry (safeRelative_valid safe), .inl ⟨entry, relative, rfl⟩⟩
      · next free =>
        cases chosen
        refine ⟨safeRelative_valid safe, .inr ?_⟩
        simpa [pathExists] using free

/-! ## The payload files -/

variable (request before) in
/-- The payload files are being merged: outside the created paths, and what is
below a created path that is a directory, the site is as before. -/
structure Merging (journal : SyncJournal) (disk : SyncDisk) : Prop where
  applying : Applying request before journal disk
  clean : disk.temporaries = []
  only : (∀ path ∈ journal.createdPaths, disk.directories path = false) →
    ∀ path, path ∉ journal.createdPaths → disk.site path = before.site path
  kept : ∀ path, before.site path ≠ none → disk.site path = before.site path

variable (merging : Merging request before journal disk)
include merging

theorem Merging.interrupted : Interrupted request before disk :=
  merging.applying.interrupted

theorem Merging.absent (archive : ∀ path, Archived request path → before.site path = none)
    (free : Archived request target ∨ disk.site target = none) : before.site target = none := by
  rcases free with archived | free
  · exact archive target archived
  · by_contra there
    exact there ((merging.kept target there).symm.trans free)

/-- A file is written at a created path, or in the directory that a created path
is, where nothing was before. -/
theorem Merging.write {destination : SitePath} (absent : before.site destination = none)
    (recorded : destination ∈ journal.createdPaths ∨
      ∃ target ∈ journal.createdPaths, disk.directories target = true)
    (content : Option FileContent) : Merging request before journal
      { disk with site := Function.update disk.site destination content } := by
  have applying := merging.applying
  have others : (∀ path ∈ journal.createdPaths, disk.directories path = false) →
      ∀ path, path ∉ journal.createdPaths →
        Function.update disk.site destination content path = before.site path := by
    intro files path notCreated
    rcases recorded with created | ⟨target, created, directory⟩
    · have different : path ≠ destination := fun same => notCreated (same ▸ created)
      rw [update_of_ne different]
      exact merging.only files path notCreated
    · rw [files target created] at directory
      cases directory
  refine ⟨⟨applying.held, applying.begun, applying.state,
    fun files path notCreated _ => others files path notCreated, applying.untouched.free⟩,
    merging.clean, others, fun path there => ?_⟩
  have different : path ≠ destination := by
    rintro rfl
    exact there absent
  exact (update_of_ne different _ _).trans (merging.kept path there)

theorem Merging.more {disk' : SyncDisk} (more : MoreDirectories disk disk') :
    Merging request before journal disk' := by
  have grown := more.grown
  have applying := merging.applying.more more
  obtain ⟨_, rfl, _⟩ := more
  exact ⟨applying, merging.clean,
    fun files => merging.only fun path mem => grown.absent (files path mem), merging.kept⟩

theorem Merging.record {created : SitePath}
    (free : before.site created = none) (valid : validCreatedPath created = true)
    {journal' : SyncJournal}
    (extended : journal' = { journal with createdPaths := journal.createdPaths ++ [created] }) :
    Merging request before journal' { disk with journal := some journal' } := by
  subst extended
  have begun := merging.applying.begun
  have others : (∀ path ∈ journal.createdPaths ++ [created], disk.directories path = false) →
      ∀ path, path ∉ journal.createdPaths ++ [created] → disk.site path = before.site path :=
    fun files path notCreated =>
      merging.only (fun other mem => files other (mem_append_left _ mem)) path
        fun mem => notCreated (mem_append_left _ mem)
  refine ⟨⟨rfl, ⟨begun.1, begun.2, begun.3, begun.4⟩, merging.applying.state,
    fun files path notCreated _ => others files path notCreated, fun path mem => ?_⟩,
    merging.clean, others, merging.kept⟩
  rcases mem_append.mp mem with earlier | new
  · exact merging.applying.untouched.free path earlier
  · obtain rfl := mem_singleton.mp new
    exact ⟨free, valid⟩

theorem Merging.tracked : Tracked request before journal disk :=
  ⟨merging.applying.held, merging.applying.begun,
    .applying merging.applying.state merging.applying.untouched⟩

omit merging

theorem recordSyncImportCreatedPath_spec {created : SitePath}
    (merging : Merging request before journal s₀) (free : before.site created = none)
    (valid : validCreatedPath created = true) : Ends (· = s₀) (recordSyncImportCreatedPath created)
      (fun _ s => ∃ journal, Merging request before journal s ∧ created ∈ journal.createdPaths ∧
        s.site = s₀.site ∧ s.directories = s₀.directories) (Interrupted request before) := by
  refine readJournal_known merging.applying.held ?_
  split
  · next known =>
    exact .pure_exact _ ⟨journal, merging, known, rfl, rfl⟩
  · have extended := merging.record free valid rfl
    refine (writeJournal_tracked merging.interrupted extended.tracked).returning ?_
    rintro _ s rfl
    exact ⟨_, extended, by simp, rfl, rfl⟩

theorem makeParents_spec (target : SitePath) (merging : Merging request before journal s₀) :
    Ends (· = s₀) (makeParents target)
      (fun _ s => Merging request before journal s ∧ parentIsFile s₀.site target = false ∧
        s = { s₀ with directories := addDirectories s₀.directories (parentsOf target) })
      (Interrupted request before) := by
  refine (makeDirectories_spec (parentsOf target) s₀).weaken (fun _ same => same) ?_
    (fun _ s more => (merging.more more).interrupted) fun s more => (merging.more more).interrupted
  rintro _ s ⟨free, rfl⟩
  exact ⟨merging.more ⟨_, rfl, fun path held => addDirectories_eq_true.mpr (.inl held)⟩, free, rfl⟩

theorem copyPayload_spec (copy : PayloadCopy) {destination : SitePath}
    (there : destinationOf s₀.directories copy.target copy.name = destination)
    (merging : Merging request before journal s₀) (created : copy.target ∈ journal.createdPaths)
    (absent : before.site destination = none) :
    Ends (· = s₀) (copyPayload copy)
      (fun _ s => Merging request before journal s ∧ s₀.directories destination = false ∧
        s = { s₀ with
          site := Function.update s₀.site destination (some (.bytes copy.content)) })
      (Interrupted request before) := by
  refine .look_bind fun s same => ?_
  subst same
  have recorded : destination ∈ journal.createdPaths ∨
      ∃ target ∈ journal.createdPaths, s.directories target = true := by
    rw [← there]
    unfold destinationOf
    split
    · next directory => exact .inr ⟨_, created, directory⟩
    · exact .inl created
  have emptied := merging.write absent recorded (some (.bytes []))
  rw [there]
  refine .bind (fun _ s' => s.directories destination = false ∧
      s' = { s with site := Function.update s.site destination (some (.bytes [])) })
    (setFile_ends _ _ ?_ ?_) fun _ => setFile_ends _ _ ?_ ?_
  · rintro s' rfl free
    exact ⟨free, rfl⟩
  · rintro s' rfl
    exact merging.interrupted
  · rintro s' ⟨free, rfl⟩ _
    exact ⟨emptied.write absent recorded _, free, by rw [update_idem]⟩
  · rintro s' ⟨_, rfl⟩
    exact emptied.interrupted

theorem mergeReturnFiles_spec (archive : ∀ path, Archived request path → before.site path = none)
    (total : Except SyncError (SiteFiles × SiteDirectories × MergeCounts)) :
    ∀ (entries : List FileEntry) (existing : List (String × SitePath)) (counts : MergeCounts),
      Ends (fun s => (∃ journal, Merging request before journal s) ∧
          mergedFiles request entries s.site s.directories existing counts = total)
        (mergeReturnFiles request entries existing counts)
        (fun counts' s => (∃ journal, Merging request before journal s) ∧
          total = .ok (s.site, s.directories, counts')) (Interrupted request before)
  | [], existing, counts => .pure _ fun s reached => ⟨reached.1, reached.2.symm⟩
  | entry :: rest, existing, counts => by
    refine .look_bind fun s₀ reached => ?_
    obtain ⟨⟨journal, merging⟩, remaining⟩ := reached
    unfold mergedFiles at remaining
    refine .bind (fun chosen s => s = s₀ ∧
        entryTarget request s₀.site s₀.directories existing entry = .ok chosen)
      (.ofExcept (fun chosen found s same => ⟨same, found⟩) ?_) fun chosen => ?_
    · rintro e _ s rfl
      exact merging.interrupted
    · refine .of_exact fun s found => ?_
      obtain ⟨rfl, found⟩ := found
      rw [found] at remaining
      cases chosen with
      | none =>
        exact (mergeReturnFiles_spec archive total rest existing _).from_exact
          ⟨⟨journal, merging⟩, remaining⟩
      | some copy =>
        obtain ⟨valid, free⟩ := entryTarget_some found
        have absent := merging.absent archive (free.imp_right And.left)
        refine .bind _ (recordSyncImportCreatedPath_spec merging absent valid)
          fun _ => .of_exact fun s₁ recorded => ?_
        obtain ⟨journal', merging', created, site, directories⟩ := recorded
        refine .bind _ (makeParents_spec copy.target merging') fun _ => .of_exact fun s₂ made => ?_
        obtain ⟨made, above, rfl⟩ := made
        -- only the archive may have a directory at the target
        have nothing : before.site (destinationOf
            (addDirectories s₁.directories (parentsOf copy.target)) copy.target copy.name)
              = none := by
          unfold destinationOf
          split
          · next directory =>
            rw [addDirectories_target, directories] at directory
            rcases free with archived | ⟨_, noDirectory⟩
            · exact archive _ (archived.below copy.name)
            · rw [noDirectory] at directory
              cases directory
          · exact absent
        refine .bind _ (copyPayload_spec copy rfl made created nothing) fun _ =>
          (mergeReturnFiles_spec archive total rest _ _).strengthen ?_
        rintro s' ⟨merged, notDirectory, rfl⟩
        rw [← site, ← directories] at remaining
        simp only [above, Bool.false_or] at remaining
        rw [if_neg (Bool.eq_false_iff.mp notDirectory)] at remaining
        exact ⟨⟨journal', merged⟩, remaining⟩

/-! ## The databases -/

/-- Nothing but the site and the journal differ, the snapshot apart. -/
structure Beside (start disk : SyncDisk) : Prop where
  directories : disk.directories = start.directories
  temporaries : disk.temporaries = start.temporaries

theorem commitDatabase_spec (touched : path ∈ touchedPaths request)
    (effect : FileContent → Except SyncError FileContent)
    (applying : Applying request before journal s₀) : Triple (· = s₀) (commitDatabase path effect)
      (fun _ s => Applying request before journal s ∧ Beside s₀ s ∧
        committedDatabase path effect s₀.site = .ok s.site)
      (fun _ => Applying request before journal) (Interrupted request before) := by
  have stays : ∀ s, s = s₀ → Applying request before journal s := by
    rintro s rfl
    exact applying
  refine .look_bind fun s same => ?_
  subst same
  unfold committedDatabase
  cases s.site path with
  | none => exact .raise _ stays
  | some content =>
    refine .bind (fun changed s' => s' = s ∧ effect content = .ok changed)
      (.ofExcept (fun changed done s' same => ⟨same, done⟩) fun _ _ => stays) fun changed =>
        .of_exact fun s' done => ?_
    simp only [done]
    exact .act_exact ⟨applying.update (.inr touched) _ rfl rfl rfl, ⟨rfl, rfl⟩, rfl⟩ applying
      applying.interrupted

/-- The temporaries change. -/
theorem Applying.set_temporaries (applying : Applying request before journal disk)
    (temporaries : List String) :
    Applying request before journal { disk with temporaries := temporaries } :=
  applying.congr ⟨rfl, fun _ there => there⟩ rfl

theorem withLog_spec (log : String) {part : SyncProc Unit} (site : SiteFiles → Prop)
    (applying : Applying request before journal s₀)
    (runs : ∀ s₁ : SyncDisk, s₁.site = s₀.site → s₁.directories = s₀.directories →
      Applying request before journal s₁ → Triple (· = s₁) part
        (fun _ s => Applying request before journal s ∧ Beside s₁ s ∧ site s.site)
        (fun _ => Applying request before journal) (Interrupted request before)) :
    Triple (· = s₀) (withLog log part)
      (fun _ s => Applying request before journal s ∧ Beside s₀ s ∧ site s.site)
      (fun _ => Applying request before journal) (Interrupted request before) := by
  refine .bind (fun _ s => s = { s₀ with temporaries := log :: s₀.temporaries })
    (.act_exact rfl applying applying.interrupted) fun _ => .tryFinally
      (fun _ s => Applying request before journal s ∧
        Beside { s₀ with temporaries := log :: s₀.temporaries } s ∧ site s.site)
      (fun _ => Applying request before journal) (runs _ rfl rfl (applying.set_temporaries _))
      (fun _ => .act_ok ?_ ?_ ?_) fun _ => .act_ok ?_ (fun _ held => held) ?_
  · rintro s ⟨held, beside, result⟩
    exact ⟨held.set_temporaries _, ⟨beside.directories, by simp [beside.temporaries]⟩, result⟩
  · exact fun s held => held.1
  · exact fun s held => held.1.interrupted
  · exact fun s held => held.set_temporaries _
  · exact fun s held => held.interrupted

theorem applyTaskMerge_spec (applying : Applying request before journal s₀) :
    Triple (· = s₀) (applyTaskMerge request)
      (fun _ s => Applying request before journal s ∧ Beside s₀ s ∧
        appliedTasks request s₀.directories s₀.site = .ok s.site)
      (fun _ => Applying request before journal) (Interrupted request before) := by
  refine .when (fun returned => ?_) fun nothing => ?_
  · refine withLog_spec "tasks.db-wal"
      (fun site => appliedTasks request s₀.directories s₀.site = .ok site)
      applying fun s₁ same directories held => .look_bind fun s same' => ?_
    subst same'
    let initialized : SyncDisk := { s with
      site := Function.update s.site tasksPath (some (request.initializeTasks (s.site tasksPath))) }
    have current : Applying request before journal initialized :=
      held.update (.inr tasksPath_touched) _ rfl rfl rfl
    refine .bind (fun _ s' => s.directories tasksPath = false ∧ s' = initialized)
      (.act ?_ (fun s' same _ _ => same ▸ held) (fun s' same => same ▸ held)
        fun s' same => same ▸ held.interrupted) fun _ => .of_exact fun s' reached => ?_
    · rintro s' rfl s'' happened
      obtain ⟨free, same⟩ := guard_eq_ok.mp happened
      exact ⟨by simpa using free, (Except.ok.inj same).symm⟩
    · obtain ⟨free, rfl⟩ := reached
      refine (commitDatabase_spec tasksPath_touched request.mergeTasks current).returning ?_
      rintro _ s' ⟨done, beside, committed⟩
      refine ⟨done, ⟨beside.directories, beside.temporaries⟩, ?_⟩
      rw [appliedTasks, if_pos returned, ← same, ← directories, free]
      exact committed
  · rintro s rfl
    exact ⟨applying, ⟨rfl, rfl⟩, by simp [appliedTasks, nothing]⟩

theorem applyDatabases_spec (applying : Applying request before journal s₀) :
    Triple (· = s₀) (applyDatabases request)
      (fun _ s => Applying request before journal s ∧ Beside s₀ s ∧
        appliedDatabases request s₀.directories s₀.site = .ok s.site)
      (fun _ => Applying request before journal) (Interrupted request before) := by
  refine .when (fun structured => ?_) fun raw => ?_
  · refine .bind _ (withLog_spec "devices.db-wal"
      (fun site => committedDatabase devicesPath request.applyDatabasePlan s₀.site = .ok site)
      applying fun s₁ same _ held => ?_) fun _ => .of_exact fun s₁ reached => ?_
    · rw [← same]
      exact commitDatabase_spec devicesPath_touched request.applyDatabasePlan held
    · obtain ⟨held, beside, committed⟩ := reached
      refine (applyTaskMerge_spec held).returning ?_
      rintro _ s ⟨done, unchanged, merged⟩
      refine ⟨done, ⟨unchanged.directories.trans beside.directories,
        unchanged.temporaries.trans beside.temporaries⟩, ?_⟩
      rw [appliedDatabases, if_pos structured, committed, ← beside.directories]
      exact merged
  · rintro s rfl
    exact ⟨applying, ⟨rfl, rfl⟩, by simp [appliedDatabases, raw]⟩

/-- The transactions leave the metadata alone. -/
theorem committedDatabase_metadata (other : metadataPath ≠ path)
    {effect : FileContent → Except SyncError FileContent} {site after : SiteFiles}
    (done : committedDatabase path effect site = .ok after) :
    after metadataPath = site metadataPath := by
  unfold committedDatabase at done
  split at done
  · cases done
  · split at done
    · cases done
    · rw [← Except.ok.inj done, update_of_ne other]

theorem appliedDatabases_metadata {directories : SiteDirectories} {site after : SiteFiles}
    (done : appliedDatabases request directories site = .ok after) :
    after metadataPath = site metadataPath := by
  unfold appliedDatabases at done
  split at done
  · split at done
    · cases done
    · next devices committed =>
      have kept := committedDatabase_metadata (by decide) committed
      unfold appliedTasks at done
      split at done
      · obtain ⟨_, done⟩ := guard_eq_ok.mp done
        rw [committedDatabase_metadata (by decide) done, update_of_ne (by decide), kept]
      · rw [← Except.ok.inj done, kept]
  · rw [← Except.ok.inj done]

/-! ## The end of the import -/

theorem atomicJson_spec (touched : path ∈ touchedPaths request) (temporary : String)
    (content : FileContent) (applying : Applying request before journal s₀)
    (clean : s₀.temporaries = []) : Triple (· = s₀) (atomicJson path temporary content)
      (fun _ s => Applying request before journal s ∧ s.temporaries = [] ∧
        s.site = Function.update s₀.site path (some content))
      (fun _ => Applying request before journal) (Interrupted request before) := by
  refine .bind (fun _ s => Applying request before journal s ∧ s.temporaries = [] ∧
      s.site = s₀.site)
    ((makeDirectories_spec (parentsOf path) s₀).weaken (fun _ same => same) ?_
      (fun _ s more => applying.more more) fun s more => (applying.more more).interrupted)
    fun _ => .of_exact fun s₁ made => ?_
  · rintro _ s ⟨_, rfl⟩
    exact ⟨applying.more ⟨_, rfl, fun path held => addDirectories_eq_true.mpr (.inl held)⟩,
      clean, rfl⟩
  obtain ⟨applying', clean', site⟩ := made
  have written : Applying request before journal
      { s₁ with site := Function.update s₁.site path (some content) } :=
    applying'.update (.inr touched) _ rfl rfl rfl
  have held := applying'.set_temporaries [temporary]
  refine .tryFinally
    (fun _ s => s = { s₁ with site := Function.update s₁.site path (some content) })
    (fun _ => Applying request before journal)
    (.bind (fun _ s => s = { s₁ with temporaries := [temporary] })
      (.act_exact (by rw [clean']) applying' applying'.interrupted)
      fun _ => .act ?_ (fun s same _ _ => same ▸ held) (fun s same => same ▸ held)
        fun s same => same ▸ held.interrupted)
    (fun _ => .act_exact ⟨written.set_temporaries _, by simp [clean'], by rw [site]⟩ written
      written.interrupted)
    fun _ => .act_ok (fun _ held => held.set_temporaries _) (fun _ held => held)
      fun _ held => held.interrupted
  rintro s rfl s' happened
  obtain ⟨_, same⟩ := guard_eq_ok.mp happened
  rw [← Except.ok.inj same]
  simp [clean']

theorem finishImport_spec {revision : Nat} (applying : Applying request before journal s₀)
    (clean : s₀.temporaries = []) (applied : FullyApplied request before s₀.site)
    (agrees : appliedAgrees request
      { journal with state := .applied, appliedRevision := revision } s₀.site = true) :
    Ends (· = s₀) (do markApplied revision; finishSyncImport)
      (fun _ => Settled request before) (Interrupted request before) := by
  have begun := applying.begun
  have tracked : Tracked request before
      { journal with state := .applied, appliedRevision := revision }
      { s₀ with
        journal := some { journal with state := .applied, appliedRevision := revision } } :=
    ⟨rfl, ⟨begun.1, begun.2, begun.3, begun.4⟩, .applied rfl applied agrees⟩
  refine .bind _ (readJournal_known applying.held
    (writeJournal_tracked applying.interrupted tracked)) fun _ =>
      .act_exact ⟨rfl, clean, .inr applied⟩ (.inr ⟨_, tracked⟩) (.inr ⟨_, tracked⟩)

theorem commitImport_spec {counts : MergeCounts} {files : SiteFiles}
    (applying : Applying request before journal s₀) (clean : s₀.temporaries = [])
    (merged : mergedFiles request request.entries before.site (mergeDirectories request before)
      request.existingByHash {} = .ok (files, s₀.directories, counts))
    (databases : appliedDatabases request s₀.directories files = .ok s₀.site)
    (kept : (before.site metadataPath).isSome → s₀.site metadataPath = before.site metadataPath) :
    Ends (· = s₀) (commitImport request counts)
      (fun _ => Settled request before) (Interrupted request before) := by
  refine .look_bind fun s same => ?_
  subst same
  refine .bind (fun metadata s' => s' = s ∧
    readMetadata request s.directories s.site = .ok metadata)
    (.ofExcept (fun metadata read s' same => ⟨same, read⟩) ?_) fun metadata =>
      .of_exact fun s' found => ?_
  · rintro e _ s' rfl
    exact applying.interrupted
  · obtain ⟨rfl, read⟩ := found
    have different : metadataPath ≠ request.auditPath := by
      simp [metadataPath, ReturnImport.auditPath]
    refine .bind _ ((atomicJson_spec metadataPath_touched _ _ applying clean).weaken
      (fun _ same => same) (fun _ _ same => same) (fun _ _ held => held.interrupted)
      fun _ interrupted => interrupted) fun _ => .of_exact fun s₁ written => ?_
    obtain ⟨applying₁, clean₁, site₁⟩ := written
    refine .bind _ ((atomicJson_spec auditPath_touched _ _ applying₁ clean₁).weaken
        (fun _ same => same) (fun _ _ same => same) (fun _ _ held => held.interrupted)
        fun _ interrupted => interrupted) fun _ => .of_exact fun s₂ audited => ?_
    obtain ⟨applying₂, clean₂, site₂⟩ := audited
    rw [site₁] at site₂
    refine finishImport_spec applying₂ clean₂
      ⟨files, s'.directories, counts, s'.site, metadata, merged, databases, read, kept, site₂⟩ ?_
    simp [appliedAgrees, site₂, update_of_ne different, ReturnImport.audit,
      applying.begun.packageId, applying.begun.packageSha256]

/-! ## The whole body -/

/-- From a new journal the body ends fully applied or leaves a tracked journal. -/
theorem importBody_spec (archive : ∀ path, Archived request path → before.site path = none) :
    Ends (Preparing request before journal []) (importBody request)
      (fun _ => Settled request before) (Interrupted request before) := by
  refine .bind _ saveSnapshot_spec fun _ => .of_exact fun s₀ preparing => ?_
  have begun := preparing.begun
  have begun' : ∀ state, Begun request before { journal with state := state } :=
    fun _ => ⟨begun.1, begun.2, begun.3, begun.4⟩
  have prepared : Tracked request before { journal with state := .prepared }
      { s₀ with journal := some { journal with state := .prepared } } :=
    ⟨rfl, begun' _, .early (.inr rfl) preparing.created preparing.site⟩
  have merging : Merging request before { journal with state := .applying }
      { s₀ with journal := some { journal with state := .applying } } := by
    refine ⟨⟨rfl, begun' _, rfl, ?_, ?_⟩, preparing.clean, ?_, ?_⟩
    · exact fun _ path _ _ => congrFun preparing.site path
    · simp [preparing.created]
    · exact fun _ path _ => congrFun preparing.site path
    · exact fun path _ => congrFun preparing.site path
  refine .bind _ (readJournal_known preparing.held
      (writeJournal_tracked preparing.interrupted prepared)) fun _ =>
    .bind _ (readJournal_known prepared.held
      (writeJournal_tracked (.inr ⟨_, prepared⟩) merging.tracked)) fun _ =>
    .bind _ ((mergeReturnFiles_spec archive
      (mergedFiles request request.entries before.site (mergeDirectories request before)
        request.existingByHash {}) request.entries
      request.existingByHash {}).from_exact ?_) fun counts => .of_exact fun s₁ reached => ?_
  · refine ⟨⟨_, merging⟩, ?_⟩
    rw [← preparing.site, ← preparing.directories]
  · obtain ⟨⟨_, merged⟩, files⟩ := reached
    refine .bind _ ((applyDatabases_spec merged.applying).weaken (fun _ same => same)
      (fun _ _ done => done) (fun _ _ held => held.interrupted) fun _ i => i) fun _ =>
        .of_exact fun s₂ done => ?_
    obtain ⟨applying, beside, databases⟩ := done
    rw [← beside.directories] at files databases
    refine commitImport_spec applying (beside.temporaries.trans merged.clean) files databases ?_
    intro had
    rw [appliedDatabases_metadata databases]
    exact merged.kept metadataPath fun absent => by simp [absent] at had

end Body

end NetConsole.SiteSync
