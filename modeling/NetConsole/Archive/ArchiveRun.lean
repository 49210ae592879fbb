import Mathlib.Data.Char
import Mathlib.Data.List.Lex
import NetConsole.Foundations.DirectoryTree

/-!
# Archiving a ground unattended run

`GroundUnattendedArchiveService.archive_run` packs the active directory of a run
into a ZIP file, verifies it, moves it to its final path, registers it, and
removes the active directory. An attempt may fail at any step: an exception
after the build has begun marks the archive as failed, and a later attempt
starts from whatever is on the disk.

A directory and a ZIP file are lists of entries, a path with a content; an entry
of a directory has a path that ends in `/` and no content, as in a ZIP file.
Files of the archive directory are named by their name in it. Of a registered
archive the model keeps the fields that `archive_run` and `apply_retention`
read; sizes, summaries and messages are left out. Contents of generated files
come from the repository and are parameters of an attempt.
-/

set_option autoImplicit false

namespace NetConsole.Archive

open Foundations

/-- The content of a file. -/
abbrev Bytes : Type := List UInt8

/-! ## Paths -/

/-- `path.is_dir()`, read off the entry. -/
def isDirectory (path : String) : Bool := "/".toList.isSuffixOf path.toList

/-- `path.name.endswith(".tmp")`. -/
def isTemporary (path : String) : Bool := ".tmp".toList.isSuffixOf path.toList

/-- The file belongs to a spool. -/
def isSpoolPath (path : String) : Bool := (path.toList.splitOn '/').contains "_spool".toList

/-- The entries that `_write_zip` packs. -/
def isPacked (path : String) : Bool := !isTemporary path && !isSpoolPath path

/-- The directories that `_write_daily_artifacts` makes. -/
def artifactDirectories : List String :=
  ["fleet_ping/", "ac_snapshots/", "timeline/", "ping_summaries/"]

/-- The files that `_write_daily_artifacts` writes. -/
def artifactFiles : List String :=
  ["daily_summary.json", "scheduler_events.jsonl", "errors.jsonl", "coverage_summary.csv",
    "deep_collection_manifest.json", "ping_summaries/all_summaries.jsonl",
    "ping_summaries/daily_by_mr.json", "ping_summaries/daily_by_train.json"]

def manifestName : String := "manifest.json"

/-- The paths that archiving itself writes in the active directory. -/
def generatedPaths : List String := artifactDirectories ++ artifactFiles ++ [manifestName]

/-- `_validate_archive_path`: a file of the archive directory named `.zip`. -/
def validArchivePath (name : String) : Bool :=
  !name.toList.contains '/' && ".zip".toList.isSuffixOf (name.toList.map Char.toLower)

/-! ## State -/

/-- The status of an archive row. -/
inductive ArchiveStatus where
  | building | ready | failed
  deriving DecidableEq, Repr

/-- A row of `ground_unattended_archives`. -/
structure ArchiveRow where
  (archiveId runId : String)
  /-- The name of the file in the archive directory. -/
  path : String
  status : ArchiveStatus
  (sha256 retentionUntil : String)
  activeCleanupPending : Bool
  deriving DecidableEq, Repr

/-- A row of `ground_unattended_raw_files` of the run: whether it is closed or
recovered, and whether it is marked as archived. -/
structure RawFileRow where
  (closed archived : Bool)
  deriving DecidableEq, Repr

/-- The files and the rows of the archives. -/
structure ArchiveState where
  /-- The active directory of the run. -/
  active : Option (FileTree Bytes)
  /-- The files of the archive directory. -/
  archives : String → Option (FileTree Bytes)
  rows : List ArchiveRow
  rawFiles : List RawFileRow

/-- The active directory, as what is removed step by step. -/
def activeSlot : Slot ArchiveState Bytes where
  get s := s.active
  set tree s := { s with active := tree }
  get_set _ _ := rfl
  set_get _ := rfl
  set_set _ _ _ := rfl

/-- One file of the archive directory. -/
def archiveSlot (name : String) : Slot ArchiveState Bytes where
  get s := s.archives name
  set zip s := { s with archives := Function.update s.archives name zip }
  get_set _ _ := Function.update_self ..
  set_get s := by
    show { s with archives := Function.update s.archives name (s.archives name) } = s
    rw [Function.update_eq_self]
  set_set first second s := by
    show { s with archives :=
      Function.update (Function.update s.archives name first) name second } = _
    rw [Function.update_idem]

/-- How an archive fails. -/
inductive ArchiveError where
  | osError
  | valueError (message : String)
  deriving DecidableEq, Repr

/-- What `archive_run` returns. -/
structure ArchiveResult where
  archiveId : String
  success : Bool
  message : String
  activeCleanupPending : Bool
  deriving DecidableEq, Repr

/-- A procedure over the archives. -/
abbrev ArchiveProc (α : Type) : Type := Proc ArchiveState ArchiveError α

/-- Digests, and the JSON text of a manifest. -/
structure ArchiveService where
  sha256 : Bytes → String
  zipSha256 : FileTree Bytes → String
  dumpManifest : List (String × String) → Bytes
  loadManifest : Bytes → Option (List (String × String))

/-- What is read of a run. -/
structure Run where
  (runId runDate : String)
  deriving DecidableEq, Repr

namespace Run

variable (run : Run)

def archiveId : String := "archive_" ++ run.runId

def finalPath : String := run.runDate ++ "_ground_unattended.zip"

def tempPath : String := "." ++ run.finalPath ++ "." ++ run.archiveId ++ ".tmp"

end Run

/-- A run, and what one attempt to archive it finds: the end of its retention,
the date, the run that is active, and the contents of the generated files. -/
structure ArchiveRequest extends Run where
  (retentionUntil today : String)
  inUse : String → Bool
  artifact : String → Bytes

def ArchiveRequest.row (request : ArchiveRequest) (status : ArchiveStatus) (sha256 : String)
    (activeCleanupPending : Bool) : ArchiveRow where
  archiveId := request.archiveId
  runId := request.runId
  path := request.finalPath
  status := status
  sha256 := sha256
  retentionUntil := request.retentionUntil
  activeCleanupPending := activeCleanupPending

/-! ## The repository -/

/-- `get_archive_by_run`. -/
def ArchiveState.archiveByRun (s : ArchiveState) (runId : String) : Option ArchiveRow :=
  s.rows.find? fun row => row.runId = runId

/-- `upsert_archive`: the archive id is the primary key. -/
def ArchiveState.upsertArchive (s : ArchiveState) (row : ArchiveRow) : ArchiveState :=
  if s.rows.any fun other => other.archiveId = row.archiveId then
    { s with rows := s.rows.map fun other =>
      if other.archiveId = row.archiveId then row else other }
  else { s with rows := s.rows ++ [row] }

/-- The row of the archive is written. -/
def upsertArchive (row : ArchiveRow) : ArchiveProc Unit :=
  Proc.act .osError fun s => .ok (s.upsertArchive row)

/-- The rows of the raw files point into the archive. -/
def markRawFilesArchived : ArchiveProc Unit :=
  Proc.act .osError fun s =>
    .ok { s with rawFiles := s.rawFiles.map fun row =>
      if row.closed then { row with archived := true } else row }

/-- `count_unarchived_raw_files(run_id) > 0`. -/
def ArchiveState.unarchived (s : ArchiveState) : Bool := s.rawFiles.any fun row => !row.archived

/-! ## Removing the active directory -/

/-- A spool still holds lines. -/
def hasPendingSpool (tree : FileTree Bytes) : Bool :=
  tree.any fun (path, content) =>
    "realtime/syslog/_spool/".toList.isPrefixOf path.toList && !content.isEmpty

/-- The active directory is removed, unless a spool holds lines. -/
def safeRemoveActiveDir : ArchiveProc Unit := do
  let s ← Proc.look
  Proc.when (s.active.any hasPendingSpool) (Proc.raise .osError)
  removeTree .osError activeSlot

/-- Remove the active directory; an exception leaves the removal pending. -/
def cleanUpActive : ArchiveProc Bool :=
  Proc.tryExcept
    (do
      safeRemoveActiveDir
      return false)
    fun _ => return true

/-! ## Retention -/

/-- `delete_archive`. -/
def deleteArchive (inUse : String → Bool) (archiveId : String) : ArchiveProc Unit := do
  let s ← Proc.look
  match s.rows.find? fun row => row.archiveId = archiveId with
  | none => return ()
  | some row => do
    Proc.when (inUse row.runId) (Proc.raise (.valueError "archive is in use"))
    Proc.when (!validArchivePath row.path) (Proc.raise .osError)
    Proc.when (s.archives row.path).isSome (Proc.act .osError fun s =>
        .ok { s with archives := Function.update s.archives row.path none })
    Proc.mayRaise .osError
    Proc.act .osError fun s =>
      .ok { s with rows := s.rows.filter fun other => other.archiveId ≠ archiveId }

/-- Whether `apply_retention` passes over a row. -/
def keptByRetention (request : ArchiveRequest) (row : ArchiveRow) : Bool :=
  row.status ≠ .ready || !decide (row.retentionUntil.toList < request.today.toList) ||
    row.runId = request.runId

/-- The loop of `apply_retention`. -/
def deleteExpired (request : ArchiveRequest) : List ArchiveRow → ArchiveProc Unit
  | [] => return ()
  | row :: rest => do
    Proc.when (!keptByRetention request row) (deleteArchive request.inUse row.archiveId)
    deleteExpired request rest

/-- `apply_retention`, with the run of the request protected. -/
def applyRetention (request : ArchiveRequest) : ArchiveProc Unit := do
  let s ← Proc.look
  deleteExpired request s.rows
  Proc.mayRaise .osError

section Service

variable (service : ArchiveService) (request : ArchiveRequest)

/-! ## Verification -/

/-- The members that `_verify_zip` requires. -/
def requiredMembers : List String := manifestName :: artifactDirectories ++ artifactFiles

/-- `_verify_zip`: the required members are there, and every file of the
manifest with its digest. -/
def verifyZip (zip : Option (FileTree Bytes)) : Bool :=
  match zip with
  | none => false
  | some members =>
    requiredMembers.all (fun name => (members.file name).isSome) &&
      match (members.file manifestName).bind service.loadManifest with
      | none => false
      | some items => items.all fun (path, digest) =>
          (members.file path).any fun content => service.sha256 content = digest

/-- The checks of a registered archive. -/
def readyArchiveValid (existing : ArchiveRow) (s : ArchiveState) : Bool :=
  validArchivePath existing.path && verifyZip service (s.archives existing.path) &&
    (existing.sha256 = "" ||
      (s.archives existing.path).any fun zip => service.zipSha256 zip = existing.sha256)

/-! ## A registered archive -/

/-- The verification of a registered archive; exceptions count as a failure. -/
def checkReady (existing : ArchiveRow) : ArchiveProc Bool :=
  Proc.tryExcept
    (do
      Proc.mayRaise ArchiveError.osError
      let s ← Proc.look
      return readyArchiveValid service existing s)
    fun _ => return false

/-- Whether the removal of the active directory stays pending. -/
def finishCleanup (existing : ArchiveRow) : ArchiveProc Bool := do
  let s ← Proc.look
  if s.unarchived then return true
  else if existing.activeCleanupPending && s.active.isSome then cleanUpActive
  else return existing.activeCleanupPending

/-- The registered archive is valid: only the cleanup is finished. -/
def acceptReady (existing : ArchiveRow) : ArchiveProc ArchiveResult := do
  markRawFilesArchived
  let pending ← finishCleanup existing
  Proc.when (pending != existing.activeCleanupPending)
    (upsertArchive { existing with status := .ready, activeCleanupPending := pending })
  applyRetention request
  Proc.mayRaise .osError
  return { archiveId := existing.archiveId, success := true, message := "归档已存在并通过校验",
           activeCleanupPending := pending }

/-- The registered archive is not valid and there is nothing to build one from. -/
def rejectReady (existing : ArchiveRow) : ArchiveProc ArchiveResult := do
  upsertArchive { existing with status := .failed, activeCleanupPending := false }
  Proc.mayRaise .osError
  return { archiveId := existing.archiveId, success := false,
           message := "正式归档校验失败且原始数据不存在，已保留现有文件",
           activeCleanupPending := false }

/-- The first part of `archive_run`: the result, unless an archive has to be
built. -/
def resumeReady : ArchiveProc (Option ArchiveResult) := do
  Proc.mayRaise .osError
  let s ← Proc.look
  match s.archiveByRun request.runId with
  | none => return none
  | some existing =>
    if existing.status ≠ .ready then return none
    else do
      Proc.mayRaise .osError
      let valid ← checkReady service existing
      if valid then return some (← acceptReady request existing)
      else do
        let s ← Proc.look
        if s.active.isNone then return some (← rejectReady existing)
        else return none

/-! ## Building an archive -/

/-- The changes of `_write_daily_artifacts`. -/
def artifactSteps : List (FileTree Bytes → FileTree Bytes) :=
  artifactDirectories.map (fun path tree => tree.write path []) ++
    artifactFiles.map fun path tree => tree.write path (request.artifact path)

/-- `path.name == "manifest.json"`, in whatever directory. -/
def isManifest (path : String) : Bool :=
  (path.toList.splitOn '/').getLast? == some manifestName.toList

/-- `_build_manifest`: the files of the directory with their digests. -/
def buildManifest (tree : FileTree Bytes) : Bytes :=
  service.dumpManifest ((tree.filter fun (path, _) =>
      isPacked path && !isDirectory path && !isManifest path).map fun (path, content) =>
        (path, service.sha256 content))

/-- `_write_zip`: the members are added one after another. -/
def writeZip (target : String) : ArchiveProc Unit := do
  let s ← Proc.look
  match s.active with
  | none => Proc.raise .osError
  | some tree => do
    Proc.act .osError fun s => .ok ((archiveSlot target).set (some []) s)
    applySteps .osError (archiveSlot target)
      ((tree.filter fun (path, _) => isPacked path).map fun entry zip => zip ++ [entry])

/-- `os.replace(temp_path, final_path)`. -/
def replaceFinal (run : Run) : ArchiveProc Unit :=
  Proc.act .osError fun s =>
    match s.archives run.tempPath with
    | none => .error .osError
    | some zip =>
      .ok ((archiveSlot run.finalPath).set (some zip) ((archiveSlot run.tempPath).set none s))

/-- The ZIP file is built and verified, and takes its final path. -/
def publishZip : ArchiveProc Unit := do
  Proc.act .osError fun s => .ok { s with active := some (s.active.getD []) }
  applySteps .osError activeSlot (artifactSteps request)
  Proc.act .osError fun s =>
    .ok (activeSlot.modify (fun tree => tree.write manifestName (buildManifest service tree)) s)
  Proc.act .osError fun s => .ok ((archiveSlot request.tempPath).set none s)
  Proc.mayRaise .osError
  writeZip request.tempPath
  Proc.mayRaise .osError
  let s ← Proc.look
  Proc.when (!verifyZip service (s.archives request.tempPath)) (Proc.raise .osError)
  replaceFinal request.toRun

/-- The active directory is removed unless raw files are not yet registered. -/
def cleanUpUnless (cleanupPending : Bool) : ArchiveProc Bool :=
  if cleanupPending then return true else cleanUpActive

/-- The ZIP file is registered and the active directory removed. -/
def registerZip : ArchiveProc ArchiveResult := do
  Proc.mayRaise .osError
  let s ← Proc.look
  let digest := ((s.archives request.finalPath).map service.zipSha256).getD ""
  upsertArchive (request.row .ready digest true)
  markRawFilesArchived
  let marked ← Proc.look
  Proc.mayRaise .osError
  let pending ← cleanUpUnless marked.unarchived
  upsertArchive (request.row .ready digest pending)
  applyRetention request
  Proc.mayRaise .osError
  return { archiveId := request.archiveId, success := true, message := "归档完成",
           activeCleanupPending := pending }

/-- `except Exception as exc`: the attempt is marked as failed. -/
def markFailed : ArchiveProc ArchiveResult := do
  Proc.act .osError fun s => .ok ((archiveSlot request.tempPath).set none s)
  let s ← Proc.look
  Proc.mayRaise .osError
  upsertArchive (request.row .failed
    (((s.archives request.finalPath).map service.zipSha256).getD "") true)
  Proc.mayRaise .osError
  return { archiveId := request.archiveId, success := false, message := "归档失败，原始数据仍保留",
           activeCleanupPending := true }

/-- The second part of `archive_run`. -/
def buildArchive : ArchiveProc ArchiveResult := do
  Proc.mayRaise .osError
  upsertArchive (request.row .building "" false)
  Proc.tryExcept
    (do
      publishZip service request
      registerZip service request)
    fun _ => markFailed service request

/-- `archive_run`. -/
def archiveRun : ArchiveProc ArchiveResult := do
  match ← resumeReady service request with
  | some result => return result
  | none => buildArchive service request

end Service

end NetConsole.Archive
