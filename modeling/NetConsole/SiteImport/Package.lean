import NetConsole.SiteImport.Lifecycle

/-!
# Importing a site package over a site

`SitePackageService.import_site`, from the creation of the staging directory to
its result. `publishDirectory` renames a directory and falls back to a copy file
by file; `importBody` is the guarded part of `importSite`, whose handler
promotes the journal, runs the recovery at once, and returns normally when the
recovery finds the import committed.

The contents that the other services write are parameters of the request, as
sequences of atomic changes of a tree: the staged package, the checkpoints of
the databases of the old site, the payload of `site_meta.json` and the baseline
of a field package.
-/

set_option autoImplicit false

namespace NetConsole.SiteImport

open Foundations

/-- One call of `import_site`. -/
structure ImportRequest where
  /-- `replace_site_id` is given. -/
  replaceSiteId : Bool
  site : SiteRecord
  (targetPath backupPath : SitePath)
  /-- The record `raw_record` returned. -/
  registryPreimage : Option RegistryRecord
  /-- Extraction and preparation of the package in the staging directory. -/
  stagingSteps : List (SiteTree → SiteTree)
  /-- `_finalize_site_databases` on the old site. -/
  checkpoints : List (SiteTree → SiteTree)
  /-- The temporary file and the payload of `save_site_metadata`. -/
  metadataTemporary : String
  siteMetadata : SiteTree → List UInt8
  /-- `record_field_baseline`, empty for other packages. -/
  fieldBaseline : List (SiteTree → SiteTree)
  /-- What listing the sites persists when it discovers directories that the
  registry does not have; `none` when it writes nothing. -/
  discovery : Option RegistryRecord → Option (Option RegistryRecord)
  /-- The identifier or the name belongs to another site. -/
  alreadyExists : Bool
  now : String

/-- `_publish_directory`: replace, rename, or copy and remove. -/
def publishDirectory (source destination : Slot SiteDisk (List UInt8)) : SiteProc Unit :=
  Proc.tryExcept (renameSlot SiteError.osError source destination) fun _ =>
    Proc.tryExcept (renameSlot SiteError.osError source destination) fun _ => do
      let disk ← Proc.look
      if (destination.get disk).isSome then
        Proc.raise (.siteStorage "SITE_STORAGE_UNAVAILABLE")
      else do
        copyTree .osError source destination
        removeTreeIgnoring .osError source

/-- A directory that still stands after twenty attempts raises. -/
def removeDirectoryAfterBackup (slot : Slot SiteDisk (List UInt8)) : SiteProc Unit := do
  let gone ← removeTreeAttempts slot (removeTreeIgnoring .osError slot) 20
  if gone then pure () else Proc.raise (.siteStorage "SITE_STORAGE_UNAVAILABLE")

def removeTemporaryDirectory (slot : Slot SiteDisk (List UInt8)) : SiteProc Unit := do
  let _ ← removeTreeAttempts slot (removeTreeIgnoring .osError slot) 20
  pure ()

/-- What the target holds once `save_site_metadata` has returned. -/
def ImportRequest.withMetadata (request : ImportRequest) (tree : SiteTree) : SiteTree :=
  ((((tree.write request.metadataTemporary []).write request.metadataTemporary
    (request.siteMetadata tree)).rename request.metadataTemporary "site_meta.json")).remove
    request.metadataTemporary

/-- `save_site_metadata` on the target: open and write a temporary file, put it
in place, and unlink it at last. -/
def saveSiteMetadata (request : ImportRequest) : SiteProc Unit := do
  let disk ← Proc.look
  match disk.target with
  | none => Proc.raise .osError
  | some tree =>
    Proc.tryFinally (applySteps .osError targetSlot [
        fun tree => tree.write request.metadataTemporary [],
        fun current => current.write request.metadataTemporary (request.siteMetadata tree),
        fun tree => tree.rename request.metadataTemporary "site_meta.json"])
      (applySteps .osError targetSlot [fun tree => tree.remove request.metadataTemporary])

/-- What `SiteRegistryRepository.list` writes. -/
def persistDiscovery (request : ImportRequest) : SiteProc Unit := do
  let disk ← Proc.look
  match request.discovery disk.registry with
  | none => pure ()
  | some listed => Proc.replaceFile .osError fun disk => { disk with registry := listed }

/-- `SiteRegistryRepository.register`: list the sites, then persist the record. -/
def register (request : ImportRequest) : SiteProc Unit := do
  persistDiscovery request
  if request.alreadyExists then
    Proc.raise (.siteStorage "SITE_ALREADY_EXISTS")
  else
    Proc.replaceFile .osError fun disk =>
      { disk with registry := some (request.site.serialize request.now) }

/-- `_site_import_result`: the site must be registered and its target must hold
the device database. -/
def siteImportResult : SiteProc Unit := do
  let disk ← Proc.look
  if disk.registry.isNone then
    Proc.raise (.siteStorage "SITE_NOT_FOUND")
  else if !(disk.target.any fun tree => (tree.file "db/devices.db").isSome) then
    Proc.raise (.siteStorage "SITE_IMPORT_RUNTIME_REFRESH_FAILED")
  else
    pure ()

/-- From the staging directory to the first journal; tells whether there is a
site to replace. -/
def prepareReplacement (request : ImportRequest) : SiteProc Bool := do
  Proc.act .osError fun disk => .ok { disk with imported := some [] }
  applySteps .osError importedSlot request.stagingSteps
  let disk ← Proc.look
  if disk.target.isSome then
    if !request.replaceSiteId then
      Proc.raise (.siteStorage "SITE_IMPORT_CONFLICT")
    else do
      beginSiteReplacement request.targetPath (some request.backupPath)
      pure true
  else do
    beginSiteReplacement request.targetPath none
    pure false

/-- Move the old site out of the way. -/
def publishBackup (request : ImportRequest) : SiteProc Unit := do
  applySteps .osError targetSlot request.checkpoints
  publishDirectory targetSlot backupSlot
  markSiteReplacement .backupPublished
  removeDirectoryAfterBackup targetSlot

/-- Publish the imported tree and complete its files. -/
def publishTarget (request : ImportRequest) : SiteProc Unit := do
  publishDirectory importedSlot targetSlot
  markSiteReplacement .targetPublished
  saveSiteMetadata request
  applySteps .osError targetSlot request.fieldBaseline

/-- Register the site and end the journal. -/
def commitReplacement (lifecycle : Lifecycle) (request : ImportRequest) : SiteProc Unit := do
  bindSiteReplacementRegistry lifecycle request.site.siteId request.registryPreimage
    request.site.registryExpected
  register request
  markSiteReplacement .applicationCommitted
  finishSiteReplacement
  siteImportResult

/-- An exception of the guarded part; `journal` tells whether the local variable
`replacement_journal` was bound when it was raised. -/
structure Thrown where
  error : SiteError
  journal : Bool

/-- The part of `import_site` between `try` and `except`. -/
def importBody (lifecycle : Lifecycle) (request : ImportRequest) : Proc SiteDisk Thrown Unit := do
  let replacing ← Proc.tryExcept (prepareReplacement request) fun error =>
    Proc.raise ⟨error, false⟩
  Proc.tryExcept
    (do
      Proc.when replacing (publishBackup request)
      publishTarget request
      commitReplacement lifecycle request)
    fun error => Proc.raise ⟨error, true⟩

/-- Promote and reconcile a journal that is there. -/
def reconcileThrown (lifecycle : Lifecycle) (thrown : Thrown) : SiteProc
    (Option RecoveryOutcome) := do
  let disk ← Proc.look
  if thrown.journal && disk.journal.isSome then do
    let _ ← promotePersistedRegistryCommit lifecycle
    let outcome ← recoverOneReplacement lifecycle
    pure (some outcome)
  else
    pure none

/-- The two `except` clauses of `import_site`. -/
def importHandler (lifecycle : Lifecycle) (thrown : Thrown) : SiteProc Unit :=
  match thrown.error with
  | .siteStorage _ => do
    let outcome ← reconcileThrown lifecycle thrown
    if outcome = some .committed then
      siteImportResult
    else do
      removeTemporaryDirectory importedSlot
      Proc.raise thrown.error
  | _ => do
    removeTemporaryDirectory importedSlot
    let outcome ← reconcileThrown lifecycle thrown
    if outcome = some .committed then
      siteImportResult
    else
      Proc.raise (.siteStorage "SITE_IMPORT_FAILED")

/-- `import_site`. -/
def importSite (lifecycle : Lifecycle) (request : ImportRequest) : SiteProc Unit :=
  Proc.tryFinally (Proc.tryExcept (importBody lifecycle request) (importHandler lifecycle))
    (removeTemporaryDirectory importedSlot)

end NetConsole.SiteImport
