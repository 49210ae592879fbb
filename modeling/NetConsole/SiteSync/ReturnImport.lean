import Mathlib.Data.List.Infix
import NetConsole.Foundations.DirectoryTree

/-!
# Importing a return package

`SiteSyncService.import_return_package` from the creation of its recovery
snapshot, and `_recover_one_sync_import`. The import copies payload files, runs
one transaction on each of two databases, and replaces the metadata and the
audit file, under a journal with four states. The recovery puts the snapshot
back when the journal says that the import was being applied.

A database is one file: its value is what a reader of the database sees, its
write-ahead log included. A log that is left beside a database, and a temporary
file that was not removed, are entries of `temporaries`. Files that hold JSON
are represented by the value. A path may have a directory instead of a file: a
copy onto a directory goes into it, and nothing else writes or removes one.
-/

set_option autoImplicit false

namespace NetConsole.SiteSync

open Foundations

/-- The parts of a path below the site. -/
abbrev SitePath : Type := List String

/-- `site_meta.json`: the revision, zero when it has none, and the other fields. -/
structure SiteMetadata where
  revision : Nat
  fields : List (String × String)
  deriving DecidableEq

/-- What `_merge_return_files` counts. -/
structure MergeCounts where
  newFiles : Nat := 0
  duplicateFiles : Nat := 0
  renamedFiles : Nat := 0
  deriving DecidableEq

/-- The audit file of an import. -/
structure SyncAudit where
  (importId packageId packageSha256 : String)
  (baseRevision appliedRevision : Nat)
  rawOnly : Bool
  files : MergeCounts
  deriving DecidableEq

/-- The content of a file of the site. -/
inductive FileContent where
  | bytes (content : List UInt8)
  | metadata (value : SiteMetadata)
  | audit (value : SyncAudit)
  deriving DecidableEq

/-- The file that a path of the site has, if any. -/
abbrev SiteFiles : Type := SitePath → Option FileContent

/-- Which paths of the site are directories. -/
abbrev SiteDirectories : Type := SitePath → Bool

/-- `state` of an import journal. -/
inductive ImportState where
  | preparing | prepared | applying | applied
  deriving DecidableEq, Repr

/-- The journal of one import: how far it is, what was there before, and the
paths that it may have created. -/
structure SyncJournal where
  state : ImportState
  (packageId packageSha256 : String)
  baseRevision : Nat
  (rawOnly tasksExisted metadataExisted : Bool)
  createdPaths : List SitePath
  appliedRevision : Nat

/-- The files of one import: the site without the snapshot, its directories, the
temporaries that the import has left in it, the snapshot directory, and the
journal. -/
structure SyncDisk where
  site : SiteFiles
  directories : SiteDirectories
  temporaries : List String
  recovery : Option (FileTree FileContent)
  journal : Option SyncJournal

/-- The snapshot directory as a part of the disk. -/
def recoverySlot : Slot SyncDisk FileContent where
  get := SyncDisk.recovery
  set tree disk := { disk with recovery := tree }
  get_set _ _ := rfl
  set_get _ := rfl
  set_set _ _ _ := rfl

/-- The exceptions: `SiteStorageError` with its code, `ValueError` with its
text, and a failed file or database operation. -/
inductive SyncError where
  | siteStorage (code : String)
  | valueError (message : String)
  | osError
  deriving DecidableEq, Repr

/-- A procedure over the files of one import. -/
abbrev SyncProc (α : Type) : Type := Proc SyncDisk SyncError α

/-! ## Paths -/

/-- The database of the devices. -/
def devicesPath : SitePath := ["db", "devices.db"]

/-- The database of the tasks. -/
def tasksPath : SitePath := ["db", "tasks.db"]

/-- The metadata of the site. -/
def metadataPath : SitePath := ["site_meta.json"]

/-- The parts of a text between its slashes. -/
def splitSlashes (text : String) : List String :=
  (text.toList.splitOn '/').map String.ofList

/-- Remove slashes at both ends and turn backslashes into slashes. -/
def normalizeSlashes (value : String) : String :=
  let slashed := value.toList.map fun char => if char = '\\' then '/' else char
  String.ofList ((slashed.dropWhile (· = '/')).reverse.dropWhile (· = '/')).reverse

/-- `_safe_relative`: the parts of a relative path, none of them empty or a dot
name. -/
def safeRelative (value : String) : Except SyncError SitePath :=
  let normalized := normalizeSlashes value
  if normalized = "" || normalized.toList[1]? = some ':'
      || (splitSlashes normalized).any fun part => part = "" || part = "." || part = ".." then
    .error (.siteStorage "SITE_IMPORT_INVALID_PACKAGE")
  else .ok (splitSlashes normalized)

/-- The check of a created path in the journal. -/
def validCreatedPath (path : SitePath) : Bool :=
  path ≠ [] && ".." ∉ path

/-! ## The request -/

/-- One entry of `file_entries` and the extracted payload. -/
structure FileEntry where
  (relativePath payload sha256 : String)
  content : Option (List UInt8)

/-- One import after its checks. The digest, the merge of the two databases and
the identifiers are parameters. -/
structure ReturnImport where
  (importId packageId packageSha256 : String)
  baseRevision : Nat
  rawOnly : Bool
  entries : List FileEntry
  /-- The candidate files of the site by digest. -/
  existingByHash : List (String × SitePath)
  sha256 : List UInt8 → String
  /-- The date, the machine and the import in the path of a renamed file; the date
  is that of the moment at which the entry is merged. None of them is `..`. -/
  archivedBelow : FileEntry → List String
  archivedBelow_valid : ∀ entry, ".." ∉ archivedBelow entry
  /-- The metadata that a payload file holds as JSON. -/
  parseMetadata : List UInt8 → Option SiteMetadata
  /-- A database once the log beside it is gone. -/
  withoutLog : FileContent → FileContent
  /-- `_apply_database_plan`: one transaction. -/
  applyDatabasePlan : FileContent → Except SyncError FileContent
  /-- The returned package has a task database. -/
  tasksReturned : Bool
  /-- The schema that the task repositories create or update. -/
  initializeTasks : Option FileContent → FileContent
  /-- The transaction of `_apply_task_merge`. -/
  mergeTasks : FileContent → Except SyncError FileContent
  /-- `_validate_sync_import_paths` accepts the paths of the import. -/
  pathsValid : Bool
  /-- `rmdir` of a directory succeeds: it has no entry left, of whatever kind. -/
  isRemovable : SyncDisk → SitePath → Bool
  now : String

/-- `sync/imports/<import id>.json`. -/
def ReturnImport.auditPath (request : ReturnImport) : SitePath :=
  ["sync", "imports", request.importId ++ ".json"]

/-- The directory of the recovery snapshot. -/
def ReturnImport.recoveryPath (request : ReturnImport) : SitePath :=
  ["files", "backups", "sync-import-" ++ request.importId]

/-- Where the file of an entry goes whose own path is taken. -/
def ReturnImport.archivedPath (request : ReturnImport) (entry : FileEntry)
    (relative : SitePath) : SitePath :=
  "files" :: "sync-imports" :: (request.archivedBelow entry ++ relative)

/-! ## Directories -/

/-- The directories above a path, the site itself apart. -/
def parentsOf (target : SitePath) : List SitePath :=
  target.inits.filter fun directory => directory ≠ [] && directory ≠ target

/-- A file has the path of a directory above the target. -/
def parentIsFile (site : SiteFiles) (target : SitePath) : Bool :=
  (parentsOf target).any fun parent => (site parent).isSome

/-- The directories once those of a list are made. -/
def addDirectories (directories : SiteDirectories) (made : List SitePath) : SiteDirectories :=
  made.foldl (fun directories directory => Function.update directories directory true) directories

/-- `mkdir(exist_ok=True)` of one directory after the other. -/
def makeDirectories : List SitePath → SyncProc Unit
  | [] => pure ()
  | directory :: rest => do
    Proc.act .osError fun disk =>
      if (disk.site directory).isSome then .error .osError
      else .ok { disk with directories := Function.update disk.directories directory true }
    makeDirectories rest

/-- `target.parent.mkdir(parents=True, exist_ok=True)`. -/
def makeParents (target : SitePath) : SyncProc Unit :=
  makeDirectories (parentsOf target)

/-- Write or remove the file of a path, which fails at a directory. -/
def setFile (path : SitePath) (content : Option FileContent) : SyncProc Unit :=
  Proc.act .osError fun disk =>
    if disk.directories path then .error .osError
    else .ok { disk with site := Function.update disk.site path content }

/-! ## The journal -/

/-- `_write_journal`: through a temporary file. -/
def writeJournal (journal : SyncJournal) : SyncProc Unit :=
  Proc.replaceFile .osError fun disk => { disk with journal := some journal }

/-- `_validated_sync_import_journal`; its checks of the paths are those the
journal was begun with. -/
def readJournal : SyncProc SyncJournal := do
  let disk ← Proc.look
  match disk.journal with
  | none => Proc.raise .osError
  | some journal => pure journal

/-- `mark_sync_import`: the journal with another state. -/
def markSyncImport (state : ImportState) : SyncProc Unit := do
  let journal ← readJournal
  writeJournal { journal with state := state }

/-- `mark_sync_import` with the applied revision. -/
def markApplied (appliedRevision : Nat) : SyncProc Unit := do
  let journal ← readJournal
  writeJournal { journal with state := .applied, appliedRevision := appliedRevision }

/-- `record_sync_import_created_path`: note a path before it is created. -/
def recordSyncImportCreatedPath (created : SitePath) : SyncProc Unit := do
  let journal ← readJournal
  if created ∈ journal.createdPaths then
    pure ()
  else
    writeJournal { journal with createdPaths := journal.createdPaths ++ [created] }

/-- `finish_sync_import`: unlink the journal, which may be gone. -/
def finishSyncImport : SyncProc Unit :=
  Proc.act .osError fun disk => .ok { disk with journal := none }

/-! ## Recovery -/

/-- The audit and the metadata agree with the journal. -/
def appliedAgrees (request : ReturnImport) (journal : SyncJournal) (site : SiteFiles) : Bool :=
  match site request.auditPath, site metadataPath with
  | some (.audit audit), some (.metadata metadata) =>
    audit.packageId = journal.packageId && audit.packageSha256 = journal.packageSha256
      && audit.appliedRevision = journal.appliedRevision
      && metadata.revision = journal.appliedRevision
  | _, _ => false

/-- The outcome of a recovery. -/
inductive RecoveryOutcome where
  | committed | rolledBack
  deriving DecidableEq, Repr

/-- `journal.unlink()`. -/
def unlinkJournal : SyncProc Unit :=
  Proc.act .osError fun disk =>
    if disk.journal.isNone then .error .osError else .ok { disk with journal := none }

/-- A file or a directory has the path. -/
def pathExists (site : SiteFiles) (directories : SiteDirectories) (path : SitePath) : Bool :=
  (site path).isSome || directories path

/-- A payload file that is to be copied: where to, its own name, its content, and
whether it goes to the archive. -/
structure PayloadCopy where
  (target : SitePath) (name : String) (content : List UInt8) (renamed : Bool)

/-- Where an entry goes: nowhere when its digest is there already, else to its
own path or, when that is taken, to the archive of the import. -/
def entryTarget (request : ReturnImport) (site : SiteFiles) (directories : SiteDirectories)
    (existing : List (String × SitePath)) (entry : FileEntry) :
    Except SyncError (Option PayloadCopy) := do
  if existing.any fun file => file.1 = entry.sha256 then
    return none
  let relative ← safeRelative entry.relativePath
  let payload ← safeRelative entry.payload
  match entry.content with
  | none => .error (.siteStorage "SITE_IMPORT_CHECKSUM_FAILED")
  | some content =>
    if request.sha256 content ≠ entry.sha256 then
      .error (.siteStorage "SITE_IMPORT_CHECKSUM_FAILED")
    else if pathExists site directories relative then
      return some {
        target := request.archivedPath entry relative, name := payload.getLast?.getD ""
        content := content, renamed := true }
    else
      return some {
        target := relative, name := payload.getLast?.getD ""
        content := content, renamed := false }

/-- A copy onto a directory goes into it. -/
def destinationOf (directories : SiteDirectories) (target : SitePath) (name : String) : SitePath :=
  if directories target then target ++ [name] else target

/-- `shutil.copy2` of a payload file; the copy first empties the file. -/
def copyPayload (copy : PayloadCopy) : SyncProc Unit := do
  let disk ← Proc.look
  let destination := destinationOf disk.directories copy.target copy.name
  setFile destination (some (.bytes []))
  setFile destination (some (.bytes copy.content))

/-- The loop of `_merge_return_files`. -/
def mergeReturnFiles (request : ReturnImport) :
    List FileEntry → List (String × SitePath) → MergeCounts → SyncProc MergeCounts
  | [], _, counts => pure counts
  | entry :: rest, existing, counts => do
    let disk ← Proc.look
    let chosen ← Proc.ofExcept (entryTarget request disk.site disk.directories existing entry)
    match chosen with
    | none =>
      mergeReturnFiles request rest existing
        { counts with duplicateFiles := counts.duplicateFiles + 1 }
    | some copy => do
      recordSyncImportCreatedPath copy.target
      makeParents copy.target
      copyPayload copy
      mergeReturnFiles request rest ((entry.sha256, copy.target) :: existing) { counts with
          newFiles := counts.newFiles + 1
          renamedFiles := counts.renamedFiles + if copy.renamed then 1 else 0 }

/-- Run a part while the log of a database lies beside it. -/
def withLog (log : String) (part : SyncProc Unit) : SyncProc Unit := do
  Proc.act .osError fun disk => .ok { disk with temporaries := log :: disk.temporaries }
  Proc.tryFinally part
    (Proc.act .osError fun disk => .ok { disk with temporaries := disk.temporaries.erase log })

/-- Commit one transaction on a database. -/
def commitDatabase (path : SitePath) (effect : FileContent → Except SyncError FileContent) :
    SyncProc Unit := do
  let disk ← Proc.look
  match disk.site path with
  | none => Proc.raise .osError
  | some content => do
    let changed ← Proc.ofExcept (effect content)
    Proc.act .osError fun disk =>
      .ok { disk with site := Function.update disk.site path (some changed) }

/-- `_apply_task_merge`: bring the schema up to date, then merge. -/
def applyTaskMerge (request : ReturnImport) : SyncProc Unit :=
  Proc.when request.tasksReturned
    (withLog "tasks.db-wal" do
      let disk ← Proc.look
      setFile tasksPath (some (request.initializeTasks (disk.site tasksPath)))
      commitDatabase tasksPath request.mergeTasks)

/-- `_atomic_json`: write a temporary file and put it in the place of the path. -/
def atomicJson (path : SitePath) (temporary : String) (content : FileContent) :
    SyncProc Unit := do
  makeParents path
  Proc.tryFinally
    (do
      Proc.act .osError fun disk => .ok { disk with temporaries := temporary :: disk.temporaries }
      Proc.act .osError fun disk =>
        if disk.directories path then .error .osError
        else .ok { disk with
          site := Function.update disk.site path (some content)
          temporaries := disk.temporaries.erase temporary })
    (Proc.act .osError fun disk =>
      .ok { disk with temporaries := disk.temporaries.erase temporary })

/-- `_read_metadata`: none is an empty document, and what is no document raises. -/
def readMetadata (request : ReturnImport) (directories : SiteDirectories) (site : SiteFiles) :
    Except SyncError SiteMetadata :=
  if directories metadataPath then .error (.siteStorage "SITE_SYNC_METADATA_INVALID")
  else
    match site metadataPath with
    | none => .ok { revision := 0, fields := [] }
    | some (.metadata value) => .ok value
    | some (.bytes content) =>
      match request.parseMetadata content with
      | some value => .ok value
      | none => .error (.siteStorage "SITE_SYNC_METADATA_INVALID")
    | some (.audit _) => .error (.siteStorage "SITE_SYNC_METADATA_INVALID")

/-- The metadata with the next revision. -/
def SiteMetadata.next (metadata : SiteMetadata) (now : String) : SiteMetadata where
  revision := (if metadata.revision = 0 then 1 else metadata.revision) + 1
  fields := metadata.fields.filter (fun field => field.1 ≠ "updated_at") ++ [("updated_at", now)]

/-- The audit that an import writes. -/
def ReturnImport.audit (request : ReturnImport) (revision : Nat) (counts : MergeCounts) :
    SyncAudit where
  importId := request.importId
  packageId := request.packageId
  packageSha256 := request.packageSha256
  baseRevision := request.baseRevision
  appliedRevision := revision
  rawOnly := request.rawOnly
  files := counts

/-- Copy one file of the site into the snapshot. -/
def saveFile (path : SitePath) (saved : String) : SyncProc Unit := do
  let disk ← Proc.look
  match disk.site path with
  | none => pure ()
  | some content =>
    applySteps .osError recoverySlot [ fun tree => tree.write saved (.bytes []),
      fun tree => tree.write saved content]

/-- The databases and the metadata go into the snapshot. -/
def saveSnapshot : SyncProc Unit := do
  saveFile devicesPath "db/devices.db"
  saveFile tasksPath "db/tasks.db"
  saveFile metadataPath "site_meta.json"

/-- The two databases are merged, unless only the files are wanted. -/
def applyDatabases (request : ReturnImport) : SyncProc Unit :=
  Proc.when (!request.rawOnly) do
    withLog "devices.db-wal" (commitDatabase devicesPath request.applyDatabasePlan)
    applyTaskMerge request

/-- The metadata, the audit, and the end of the journal. -/
def commitImport (request : ReturnImport) (counts : MergeCounts) : SyncProc Unit := do
  let disk ← Proc.look
  let metadata ← Proc.ofExcept (readMetadata request disk.directories disk.site)
  atomicJson metadataPath ".site_meta.json.tmp" (.metadata (metadata.next request.now))
  atomicJson request.auditPath ".audit.json.tmp"
    (.audit (request.audit (metadata.next request.now).revision counts))
  markApplied (metadata.next request.now).revision
  finishSyncImport

/-- The part of `import_return_package` between `try` and `except`. -/
def importBody (request : ReturnImport) : SyncProc Unit := do
  saveSnapshot
  markSyncImport .prepared
  markSyncImport .applying
  let counts ← mergeReturnFiles request request.entries request.existingByHash {}
  applyDatabases request
  commitImport request counts

end NetConsole.SiteSync
