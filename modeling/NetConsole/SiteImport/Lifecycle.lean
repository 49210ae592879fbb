import NetConsole.SiteImport.Registry

/-!
# The replacement journal and its recovery

`SitePackageStagingLifecycle` keeps one journal file for each directory
replacement. The disk is seen as the directories of one replacement, the
registry record of its site and its journal; `recoverOneReplacement` decides
from these alone.

The journal is written to a temporary file and put in place by one replace, so
writing it is one action, after which removing the temporary file can still
raise (`Proc.replaceFile`).
-/

set_option autoImplicit false

namespace NetConsole.SiteImport

open Foundations

/-- `state` of a replacement journal. -/
inductive ReplacementState where
  | prepared | backupPublished | targetPublished | applicationCommitted
  deriving DecidableEq, Repr

/-- `operation_kind` of a replacement journal. -/
inductive OperationKind where
  | create | replace
  deriving DecidableEq, Repr

/-- An absolute, resolved path: the directory it lies in and its name. -/
structure SitePath where
  (parent name : String)
  deriving DecidableEq, Repr

/-- The journal file; the registry fields and the target identity are bound
after the target is published. -/
structure ReplacementJournal where
  schemaVersion : Nat
  state : ReplacementState
  targetPath : SitePath
  backupPath : Option SitePath
  operationKind : OperationKind
  siteId : String := ""
  registryPreimage : Option RegistryRecord := none
  registryExpected : Option RegistryRecord := none
  targetIdentity : String := ""

/-- The files of one replacement: the target tree, the backup tree, the imported
tree in the staging directory, the registry record of the site, and the
journal. -/
structure SiteDisk where
  (target backup imported : Option SiteTree)
  registry : Option RegistryRecord
  journal : Option ReplacementJournal

def targetSlot : Slot SiteDisk (List UInt8) where
  get := SiteDisk.target
  set tree disk := { disk with target := tree }
  get_set _ _ := rfl
  set_get _ := rfl
  set_set _ _ _ := rfl

def backupSlot : Slot SiteDisk (List UInt8) where
  get := SiteDisk.backup
  set tree disk := { disk with backup := tree }
  get_set _ _ := rfl
  set_get _ := rfl
  set_set _ _ _ := rfl

def importedSlot : Slot SiteDisk (List UInt8) where
  get := SiteDisk.imported
  set tree disk := { disk with imported := tree }
  get_set _ _ := rfl
  set_get _ := rfl
  set_set _ _ _ := rfl

/-- The exceptions: `SiteStorageError` with its code, `ValueError` with its
text, and a failed file operation. -/
inductive SiteError where
  | siteStorage (code : String)
  | valueError (message : String)
  | osError
  deriving DecidableEq, Repr

/-- The directories that `PathResolver` gives, and the digest function. -/
structure Lifecycle where
  (sitesDir archiveDir : String)
  sha256 : List UInt8 → String

/-- A procedure over the sites. -/
abbrev SiteProc (α : Type) : Type := Proc SiteDisk SiteError α

/-- How a recovery decides. -/
inductive RecoveryOutcome where
  | committed | rolledBack
  deriving DecidableEq, Repr

/-! ## The journal -/

/-- The journal is written beside its place and renamed. -/
def writeJournal (journal : ReplacementJournal) : SiteProc Unit :=
  Proc.replaceFile .osError fun disk => { disk with journal := some journal }

/-- The journal of a replacement is begun. -/
def beginSiteReplacement (target : SitePath) (backup : Option SitePath) : SiteProc Unit :=
  writeJournal {
    schemaVersion := 1, state := .prepared, targetPath := target, backupPath := backup
    operationKind := if backup.isSome then .replace else .create }

/-- `json.loads(journal.read_text(...))`. -/
def readJournal : SiteProc ReplacementJournal := do
  let disk ← Proc.look
  match disk.journal with
  | none => Proc.raise .osError
  | some journal => pure journal

/-- The journal gets to a state. -/
def markSiteReplacement (state : ReplacementState) : SiteProc Unit := do
  let journal ← readJournal
  writeJournal { journal with state := state }

def bindSiteReplacementRegistry (lifecycle : Lifecycle) (siteId : String)
    (preimage : Option RegistryRecord) (expected : RegistryRecord) : SiteProc Unit := do
  let journal ← readJournal
  if journal.schemaVersion ≠ 1 then
    Proc.raise (.valueError "invalid Site Package replacement journal")
  else if !validRegistryRecord expected siteId then
    Proc.raise (.valueError "invalid expected Site Registry record")
  else if preimage.any fun record => !validRegistryRecord record siteId then
    Proc.raise (.valueError "invalid Site Registry preimage")
  else do
    let disk ← Proc.look
    match disk.target with
    | none => Proc.raise (.valueError "Site Package target identity requires a real directory")
    | some tree =>
      writeJournal { journal with
        schemaVersion := 3, siteId := siteId, registryPreimage := preimage
        registryExpected := some expected
        targetIdentity := directoryIdentity lifecycle.sha256 tree }

/-- The journal is removed. -/
def finishSiteReplacement : SiteProc Unit :=
  Proc.act .osError fun disk => .ok { disk with journal := none }

/-- The checks of `_validated_replacement_paths`. -/
def validatedReplacementPaths (lifecycle : Lifecycle) (journal : ReplacementJournal) :
    Except SiteError Unit :=
  if journal.schemaVersion ∉ [1, 2, 3] then
    .error (.valueError "invalid Site Package replacement journal")
  else if decide (journal.operationKind = .create) ≠ journal.backupPath.isNone then
    .error (.valueError "Site Package replacement operation does not match backup")
  else if journal.targetPath.parent ≠ lifecycle.sitesDir then
    .error (.valueError "Site Package replacement target is outside sites root")
  else if journal.backupPath.any fun backup => backup.parent ≠ lifecycle.archiveDir then
    .error (.valueError "Site Package replacement backup is outside archive root")
  else if journal.backupPath.any fun backup =>
      !("site-import-" ++ journal.targetPath.name ++ "-").toList.isPrefixOf backup.name.toList then
    .error (.valueError "Site Package replacement backup name is invalid")
  else if journal.schemaVersion ≠ 1
      && !(journal.registryExpected.any fun record =>
        validRegistryRecord record journal.siteId) then
    .error (.valueError "invalid expected Site Registry record")
  else if journal.schemaVersion ≠ 1
      && journal.registryPreimage.any fun record => !validRegistryRecord record journal.siteId then
    .error (.valueError "invalid Site Registry preimage")
  else .ok ()

/-! ## Recovery -/

/-- The registry gets the old record back. -/
def restoreRegistryPreimage (journal : ReplacementJournal) : SiteProc Unit := do
  let disk ← Proc.look
  if !registryRecordMatches disk.registry journal.registryExpected then
    Proc.raise (.valueError "Site Registry changed before rollback")
  else
    Proc.replaceFile .osError fun disk => { disk with registry := journal.registryPreimage }

/-- Put the backup back, or remove the target that was created. -/
def rollBackDirectories (journal : ReplacementJournal) : SiteProc Unit := do
  let disk ← Proc.look
  if journal.backupPath.isSome && disk.backup.isSome then do
    Proc.when disk.target.isSome (removeTree .osError targetSlot)
    renameSlot .osError backupSlot targetSlot
  else if journal.backupPath.isNone && disk.target.isSome then
    removeTree .osError targetSlot
  else if journal.state = .prepared then
    pure ()
  else
    Proc.raise (.valueError "site replacement has neither target nor backup")

/-- `journal.unlink()`. -/
def unlinkJournal : SiteProc Unit :=
  Proc.act .osError fun disk =>
    if disk.journal.isNone then .error .osError else .ok { disk with journal := none }

/-- The journal has its registry fields. -/
def ReplacementJournal.hasRegistry (journal : ReplacementJournal) : Bool :=
  journal.schemaVersion = 2 || journal.schemaVersion = 3

/-- The registry holds the record that the import was to write. -/
def registryCommitted (journal : ReplacementJournal) (disk : SiteDisk) : Bool :=
  journal.hasRegistry && registryRecordMatches disk.registry journal.registryExpected

/-- The registry holds the record from before the import. -/
def registryAtPreimage (journal : ReplacementJournal) (disk : SiteDisk) : Bool :=
  journal.hasRegistry && registryRecordMatches disk.registry journal.registryPreimage

/-- The published target is kept: the journal says so, and both the registry
and the digest of the target agree. -/
def replacementCommitted (lifecycle : Lifecycle) (journal : ReplacementJournal)
    (disk : SiteDisk) : Bool :=
  journal.schemaVersion = 3 && journal.state = .applicationCommitted
    && registryCommitted journal disk
    && disk.target.any fun tree =>
      directoryIdentity lifecycle.sha256 tree = journal.targetIdentity

/-- The recovery of a replacement. -/
def recoverOneReplacement (lifecycle : Lifecycle) : SiteProc RecoveryOutcome := do
  let journal ← readJournal
  Proc.ofExcept (validatedReplacementPaths lifecycle journal)
  let disk ← Proc.look
  if journal.hasRegistry && !registryCommitted journal disk && !registryAtPreimage journal disk then
    Proc.raise (.valueError "Site Registry no longer matches replacement journal")
  else if replacementCommitted lifecycle journal disk then do
    unlinkJournal
    pure .committed
  else do
    Proc.when (registryCommitted journal disk) (restoreRegistryPreimage journal)
    rollBackDirectories journal
    unlinkJournal
    pure .rolledBack

/-- One pass of `_recover_replacement_journals` over the journal of this
replacement. The exception that ends it here is the one the source notes under
`failures` before it goes on to the next journal. -/
def recoverReplacementJournals (lifecycle : Lifecycle) : SiteProc Unit := do
  let disk ← Proc.look
  match disk.journal with
  | none => pure ()
  | some _ => do
    let _ ← recoverOneReplacement lifecycle
    pure ()

/-- A registry that holds the new record decides the commit. -/
def promotePersistedRegistryCommit (lifecycle : Lifecycle) : SiteProc Bool := do
  let journal ← readJournal
  Proc.ofExcept (validatedReplacementPaths lifecycle journal)
  let disk ← Proc.look
  if journal.schemaVersion ≠ 3 then
    pure false
  else if journal.state ≠ .targetPublished then
    pure (journal.state = .applicationCommitted)
  else if !registryRecordMatches disk.registry journal.registryExpected then
    pure false
  else if !(disk.target.any fun tree =>
      directoryIdentity lifecycle.sha256 tree = journal.targetIdentity) then
    pure false
  else do
    markSiteReplacement .applicationCommitted
    pure true

end NetConsole.SiteImport
