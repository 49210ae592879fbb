import NetConsole.SiteSync.ReturnImport

/-!
# What a return-package recovery finds and what it leaves

`Settled` is the purpose of the journal: no journal and no temporary file, and
the site is as it was, without the snapshot, or the package is fully applied.
The pure functions `mergedFiles`, `appliedDatabases` and `appliedSite` say what
fully applied means.

`Interrupted` holds at every crash and after every exception. While a package is
being applied it says that only created paths and the four fixed paths differ
from the site before (`Untouched`), which is what a rollback needs besides a
complete snapshot (`Recoverable`). A copy onto a directory of the archive breaks
this: the rollback refuses a recorded path that is a directory.
-/

set_option autoImplicit false

namespace NetConsole.SiteSync

open Foundations List Option Function

/-! ## The applied site -/

/-- The files, the directories and the counts after the payload files are
merged. -/
def mergedFiles (request : ReturnImport) :
    List FileEntry → SiteFiles → SiteDirectories → List (String × SitePath) → MergeCounts →
      Except SyncError (SiteFiles × SiteDirectories × MergeCounts)
  | [], site, directories, _, counts => .ok (site, directories, counts)
  | entry :: rest, site, directories, existing, counts =>
    match entryTarget request site directories existing entry with
    | .error error => .error error
    | .ok none =>
      mergedFiles request rest site directories existing
        { counts with duplicateFiles := counts.duplicateFiles + 1 }
    | .ok (some copy) =>
      let made := addDirectories directories (parentsOf copy.target)
      let destination := destinationOf made copy.target copy.name
      if parentIsFile site copy.target || made destination then .error .osError
      else mergedFiles request rest
        (Function.update site destination (some (.bytes copy.content))) made
        ((entry.sha256, copy.target) :: existing)
        { counts with
          newFiles := counts.newFiles + 1
          renamedFiles := counts.renamedFiles + if copy.renamed then 1 else 0 }

/-- The files after one transaction. -/
def committedDatabase (path : SitePath) (effect : FileContent → Except SyncError FileContent)
    (site : SiteFiles) : Except SyncError SiteFiles :=
  match site path with
  | none => .error .osError
  | some content =>
    match effect content with
    | .error error => .error error
    | .ok changed => .ok (Function.update site path (some changed))

/-- The files after `_apply_task_merge`. -/
def appliedTasks (request : ReturnImport) (directories : SiteDirectories) (site : SiteFiles) :
    Except SyncError SiteFiles :=
  if request.tasksReturned then
    if directories tasksPath then .error .osError
    else committedDatabase tasksPath request.mergeTasks
      (Function.update site tasksPath (some (request.initializeTasks (site tasksPath))))
  else .ok site

/-- The files after the two databases are merged. -/
def appliedDatabases (request : ReturnImport) (directories : SiteDirectories)
    (site : SiteFiles) : Except SyncError SiteFiles :=
  if !request.rawOnly then
    match committedDatabase devicesPath request.applyDatabasePlan site with
    | .error error => .error error
    | .ok site => appliedTasks request directories site
  else .ok site

/-- The files after the metadata and the audit are written. -/
def committedSite (request : ReturnImport) (counts : MergeCounts) (metadata : SiteMetadata)
    (site : SiteFiles) : SiteFiles :=
  Function.update (Function.update site metadataPath (some (.metadata (metadata.next request.now))))
    request.auditPath
    (some (.audit (request.audit (metadata.next request.now).revision counts)))

/-- The directories when the payload files are merged: those above the snapshot
are there then. -/
def mergeDirectories (request : ReturnImport) (before : SyncDisk) : SiteDirectories :=
  addDirectories before.directories (parentsOf request.recoveryPath)

/-- The package is applied to the site `before`: its files and databases are
merged, the revision is the next one and the audit records it. The metadata is
that of `before`; only a site without metadata may have got it from a payload. -/
def FullyApplied (request : ReturnImport) (before : SyncDisk) (after : SiteFiles) : Prop :=
  ∃ files directories counts databases metadata,
    mergedFiles request request.entries before.site (mergeDirectories request before)
      request.existingByHash {} = .ok (files, directories, counts) ∧
    appliedDatabases request directories files = .ok databases ∧
    readMetadata request directories databases = .ok metadata ∧
    ((before.site metadataPath).isSome → databases metadataPath = before.site metadataPath) ∧
    after = committedSite request counts metadata databases

section States

variable (request : ReturnImport) (before : SyncDisk)

/-- The paths that the import changes besides the created ones. -/
def touchedPaths : List SitePath := [devicesPath, tasksPath, metadataPath, request.auditPath]

/-- Only created and touched paths differ, and created paths were free. Where a
created path is a directory, a copy may have gone into it. -/
structure Untouched (created : List SitePath) (disk : SyncDisk) : Prop where
  same : (∀ path ∈ created, disk.directories path = false) →
    ∀ path, path ∉ created → path ∉ touchedPaths request → disk.site path = before.site path
  free : ∀ path ∈ created, before.site path = none ∧ validCreatedPath path = true

/-- What `begin_sync_import` recorded. -/
structure Begun (journal : SyncJournal) : Prop where
  packageId : journal.packageId = request.packageId
  packageSha256 : journal.packageSha256 = request.packageSha256
  tasksExisted : journal.tasksExisted = (before.site tasksPath).isSome
  metadataExisted : journal.metadataExisted = (before.site metadataPath).isSome

/-- The import is over: as before and without a file of a snapshot, or fully
applied. -/
def Settled (disk : SyncDisk) : Prop :=
  disk.journal = none ∧ disk.temporaries = [] ∧
    ((disk.site = before.site ∧ disk.recovery.getD [] = []) ∨
      FullyApplied request before disk.site)

/-- What the state of a journal says about the site. -/
inductive Progress (journal : SyncJournal) (disk : SyncDisk) : Prop where
  | early (state : journal.state = .preparing ∨ journal.state = .prepared)
      (created : journal.createdPaths = []) (same : disk.site = before.site)
  | applying (state : journal.state = .applying)
      (untouched : Untouched request before journal.createdPaths disk)
  | applied (state : journal.state = .applied) (applied : FullyApplied request before disk.site)
      (agrees : appliedAgrees request journal disk.site = true)

/-- A journal on the disk and its progress. -/
structure Tracked (journal : SyncJournal) (disk : SyncDisk) : Prop where
  held : disk.journal = some journal
  begun : Begun request before journal
  progress : Progress request before journal disk

/-- The disk after a crash or an exception of the import or of its recovery. -/
def Interrupted (disk : SyncDisk) : Prop :=
  Settled request before disk ∨ ∃ journal, Tracked request before journal disk

/-- A file of the snapshot, when the site has it. -/
def savedFile (path : SitePath) (saved : String)
    (tree : FileTree FileContent) : FileTree FileContent :=
  match before.site path with
  | none => tree
  | some content => (tree.write saved (.bytes [])).write saved content

/-- The complete snapshot. -/
def snapshot : FileTree FileContent :=
  savedFile before metadataPath "site_meta.json"
    (savedFile before tasksPath "db/tasks.db" (savedFile before devicesPath "db/devices.db" []))

/-- The log that a rollback removes with the task database it puts back. -/
def tasksLogs (journal : SyncJournal) : List String :=
  if journal.tasksExisted then ["tasks.db-wal"] else []

/-- The logs that a rollback removes with the databases it puts back. -/
def restoredLogs (journal : SyncJournal) : List String := "devices.db-wal" :: tasksLogs journal

/-- The disk allows the recovery that its journal asks for. Nothing is left of
interrupted writes but, while the import was being applied, the logs of the
databases that come back; and then the snapshot is complete, no path that the
rollback works on is a directory, and the audit has no file above it before. -/
structure Recoverable (disk : SyncDisk) : Prop where
  clean : ∀ journal, disk.journal = some journal → ∀ name ∈ disk.temporaries,
    journal.state = .applying ∧ name ∈ restoredLogs journal
  complete : ∀ journal, disk.journal = some journal → journal.state = .applying →
    disk.recovery = some (snapshot before)
  files : ∀ journal, disk.journal = some journal → journal.state = .applying →
    ∀ path ∈ journal.createdPaths ++ touchedPaths request, disk.directories path = false
  audit : parentIsFile before.site request.auditPath = false

end States

section Proofs

variable {request : ReturnImport} {before disk : SyncDisk} {journal : SyncJournal}

/-! ## The snapshot -/

theorem Settled.interrupted (settled : Settled request before disk) :
    Interrupted request before disk :=
  .inl settled

theorem Interrupted.tracked (interrupted : Interrupted request before disk)
    (held : disk.journal = some journal) : Tracked request before journal disk := by
  rcases interrupted with settled | ⟨_, tracked⟩
  · rw [settled.1] at held
    cases held
  · obtain rfl := some.inj (tracked.held.symm.trans held)
    exact tracked

theorem Interrupted.settled (interrupted : Interrupted request before disk)
    (ended : disk.journal = none) : Settled request before disk := by
  rcases interrupted with settled | ⟨_, tracked⟩
  · exact settled
  · rw [tracked.held] at ended
    cases ended

variable {disk' : SyncDisk}

/-- A file is written, or nothing of the site changes, and directories are at most
added. -/
structure Grown (start made : SyncDisk) : Prop where
  site : made.site = start.site
  directories : ∀ path, start.directories path = true → made.directories path = true

theorem Grown.absent (grown : Grown disk disk') {path : SitePath}
    (absent : disk'.directories path = false) : disk.directories path = false := by
  by_contra there
  have still := grown.directories path (by simpa using there)
  rw [absent] at still
  cases still

theorem Untouched.congr {created : List SitePath}
    (untouched : Untouched request before created disk)
    (grown : Grown disk disk') : Untouched request before created disk' := by
  refine ⟨fun files path => ?_, untouched.free⟩
  rw [grown.site]
  exact untouched.same (fun path mem => grown.absent (files path mem)) path

/-- The snapshot and the temporaries play no part for a journal. -/
theorem Tracked.congr (tracked : Tracked request before journal disk)
    (grown : Grown disk disk') (held : disk'.journal = disk.journal) :
    Tracked request before journal disk' := by
  refine ⟨held.trans tracked.held, tracked.begun, ?_⟩
  cases tracked.progress with
  | early state created same => exact .early state created (grown.site.trans same)
  | applying state untouched => exact .applying state (untouched.congr grown)
  | applied state applied agrees =>
    rw [← grown.site] at applied agrees
    exact .applied state applied agrees

variable (request before) in
/-- The package is being applied. -/
structure Applying (journal : SyncJournal) (disk : SyncDisk) : Prop where
  held : disk.journal = some journal
  begun : Begun request before journal
  state : journal.state = .applying
  untouched : Untouched request before journal.createdPaths disk

theorem Applying.interrupted (applying : Applying request before journal disk) :
    Interrupted request before disk :=
  .inr ⟨journal, applying.held, applying.begun, .applying applying.state applying.untouched⟩

theorem Tracked.toApplying (tracked : Tracked request before journal disk)
    (state : journal.state = .applying) : Applying request before journal disk := by
  refine ⟨tracked.held, tracked.begun, state, ?_⟩
  cases tracked.progress with
  | early other => rcases other with other | other <;> simp [other] at state
  | applying _ untouched => exact untouched
  | applied other => simp [other] at state

theorem Applying.congr (applying : Applying request before journal disk)
    (grown : Grown disk disk') (held : disk'.journal = disk.journal) :
    Applying request before journal disk' :=
  ⟨held.trans applying.held, applying.begun, applying.state, applying.untouched.congr grown⟩

variable {path : SitePath}

/-- A created or touched path is written. -/
theorem Untouched.update {created : List SitePath}
    (untouched : Untouched request before created disk)
    (touched : path ∈ created ∨ path ∈ touchedPaths request) {content : Option FileContent}
    (site : disk'.site = Function.update disk.site path content)
    (directories : disk'.directories = disk.directories) :
    Untouched request before created disk' := by
  refine ⟨fun files other notCreated notTouched => ?_, untouched.free⟩
  have different : other ≠ path := by
    rintro rfl
    rcases touched with created | touched
    · exact notCreated created
    · exact notTouched touched
  rw [site, update_of_ne different]
  exact untouched.same (directories ▸ files) other notCreated notTouched

/-- The site changes at a touched path, the snapshot and the temporaries at will. -/
theorem Applying.update (applying : Applying request before journal disk)
    (touched : path ∈ journal.createdPaths ∨ path ∈ touchedPaths request)
    (content : Option FileContent) (site : disk'.site = Function.update disk.site path content)
    (directories : disk'.directories = disk.directories)
    (held : disk'.journal = disk.journal) : Applying request before journal disk' :=
  ⟨held.trans applying.held, applying.begun, applying.state,
    applying.untouched.update touched site directories⟩

variable (request before) in
/-- The rollback has put back the paths of `restored`; of the temporaries at
most `logs` are left, and the paths it works on are no directories. -/
structure Restoring (journal : SyncJournal) (restored : List SitePath) (logs : List String)
    (disk : SyncDisk) : Prop where
  applying : Applying request before journal disk
  clean : ∀ name ∈ disk.temporaries, name ∈ logs
  snapshot : disk.recovery = some (snapshot before)
  files : ∀ path, path ∈ journal.createdPaths ∨ path ∈ touchedPaths request →
    disk.directories path = false
  done : ∀ path ∈ restored, disk.site path = before.site path

variable {restored : List SitePath} {content : Option FileContent} {logs' logs : List String}

/-- Putting one more path back. -/
theorem Restoring.update (restoring : Restoring request before journal restored logs disk)
    (touched : path ∈ journal.createdPaths ∨ path ∈ touchedPaths request)
    (original : content = before.site path)
    (site : disk'.site = Function.update disk.site path content)
    (directories : disk'.directories = disk.directories)
    (held : disk'.journal = disk.journal) (clean : ∀ name ∈ disk'.temporaries, name ∈ logs')
    (recovery : disk'.recovery = disk.recovery) :
    Restoring request before journal (path :: restored) logs' disk' := by
  refine ⟨restoring.applying.update touched content site directories held, clean,
    recovery.trans restoring.snapshot, directories ▸ restoring.files, fun other mem => ?_⟩
  rw [site]
  by_cases same : other = path
  · rw [same, update_self, original]
  · rw [update_of_ne same]
    rcases mem_cons.mp mem with same' | mem
    · exact absurd same' same
    · exact restoring.done other mem

/-- A path that is to be put back changes, or its directories do not. -/
theorem Restoring.change (restoring : Restoring request before journal restored logs disk)
    (touched : path ∈ journal.createdPaths ∨ path ∈ touchedPaths request) (first : path ∉ restored)
    (site : disk'.site = Function.update disk.site path content)
    (directories : disk'.directories = disk.directories)
    (held : disk'.journal = disk.journal) (clean : ∀ name ∈ disk'.temporaries, name ∈ logs')
    (recovery : disk'.recovery = disk.recovery) :
    Restoring request before journal restored logs' disk' := by
  refine ⟨restoring.applying.update touched content site directories held, clean,
    recovery.trans restoring.snapshot, directories ▸ restoring.files, fun other mem => ?_⟩
  have different : other ≠ path := fun same => first (same ▸ mem)
  rw [site, update_of_ne different]
  exact restoring.done other mem

/-- A path that is as before counts as put back. -/
theorem Restoring.found (restoring : Restoring request before journal restored logs disk)
    (original : disk.site path = before.site path) :
    Restoring request before journal (path :: restored) logs disk := by
  refine ⟨restoring.applying, restoring.clean, restoring.snapshot, restoring.files,
    fun other mem => ?_⟩
  rcases mem_cons.mp mem with rfl | mem
  · exact original
  · exact restoring.done other mem

variable {entry : SyncDisk → Prop} {raises : SyncError → SyncDisk → Prop} {cutOff : SyncDisk → Prop}

theorem readJournal_held {s₀ : SyncDisk} (held : s₀.journal = some journal) :
    Assured (· = s₀) readJournal (fun read s => journal = read ∧ s = s₀) raises cutOff := by
  refine .look_bind fun s same => ?_
  subst same
  rw [held]
  exact .pure _ fun s same => ⟨rfl, same⟩

theorem readJournal_known {α : Type} {next : SyncJournal → SyncProc α} {s₀ : SyncDisk}
    {returns : α → SyncDisk → Prop} (held : s₀.journal = some journal)
    (rest : Triple (· = s₀) (next journal) returns raises cutOff) :
    Triple (· = s₀) (readJournal >>= next) returns raises cutOff := by
  refine .bind _ (readJournal_held held).triple fun read => .of_exact ?_
  rintro s ⟨rfl, rfl⟩
  exact rest

variable {next : FileContent → SyncProc Unit} {missing : String} {saved : SitePath}

theorem devicesPath_touched : devicesPath ∈ touchedPaths request := by simp [touchedPaths]

theorem tasksPath_touched : tasksPath ∈ touchedPaths request := by simp [touchedPaths]

theorem metadataPath_touched : metadataPath ∈ touchedPaths request := by simp [touchedPaths]

theorem auditPath_touched : request.auditPath ∈ touchedPaths request := by simp [touchedPaths]

/-- Everything but the audit is as before. -/
theorem Restoring.others (restoring : Restoring request before journal restored logs disk)
    (created : ∀ path ∈ journal.createdPaths, path ∈ restored)
    (touched : ∀ path ∈ touchedPaths request, path ≠ request.auditPath → path ∈ restored)
    (different : path ≠ request.auditPath) : disk.site path = before.site path := by
  by_cases isCreated : path ∈ journal.createdPaths
  · exact restoring.done path (created path isCreated)
  · by_cases isTouched : path ∈ touchedPaths request
    · exact restoring.done path (touched path isTouched different)
    · exact restoring.applying.untouched.same
        (fun other mem => restoring.files other (.inl mem)) path isCreated isTouched

variable (request before) in
/-- The site is as before and its journal is not committed. -/
structure RolledBack (journal : SyncJournal) (disk : SyncDisk) : Prop where
  tracked : Tracked request before journal disk
  clean : disk.temporaries = []
  site : disk.site = before.site

theorem RolledBack.interrupted (rolled : RolledBack request before journal disk) :
    Interrupted request before disk :=
  .inr ⟨journal, rolled.tracked⟩

theorem RolledBack.set_recovery (rolled : RolledBack request before journal disk)
    (tree : Option (FileTree FileContent)) :
    RolledBack request before journal { disk with recovery := tree } :=
  ⟨rolled.tracked.congr ⟨rfl, fun _ there => there⟩ rfl, rolled.clean, rolled.site⟩

theorem unlinkJournal_spec {entry settled : SyncDisk → Prop}
    (held : ∀ s, entry s → s.journal.isSome)
    (done : ∀ s, entry s → settled { s with journal := none })
    (missed : ∀ e s, entry s → raises e s) (cut : ∀ s, entry s → cutOff s) :
    Assured entry unlinkJournal (fun _ => settled) raises cutOff :=
  .act (fun s holds => ⟨{ s with journal := none }, by
      simp [isNone_eq_false_iff.mpr (held s holds)], done s holds⟩)
    (missed _) cut

theorem Restoring.rolledBack (applying : Applying request before journal disk)
    (clean : disk.temporaries = []) (site : disk.site = before.site) :
    RolledBack request before journal disk :=
  ⟨⟨applying.held, applying.begun, .applying applying.state applying.untouched⟩, clean, site⟩

/-- Where a rollback starts. -/
theorem Recoverable.restoring (recoverable : Recoverable request before disk)
    (tracked : Tracked request before journal disk) (state : journal.state = .applying) :
    Restoring request before journal [] (restoredLogs journal) disk where
  applying := tracked.toApplying state
  clean name mem := (recoverable.clean _ tracked.held name mem).2
  snapshot := recoverable.complete _ tracked.held state
  files path touched := recoverable.files _ tracked.held state path (mem_append.mpr touched)
  done := by simp

variable (devices : (before.site devicesPath).isSome)
include devices

variable (audit : before.site request.auditPath = none)
include audit

omit audit devices

end Proofs

end NetConsole.SiteSync
