import NetConsole.DatabaseUpgrade.Coordinator

/-!
# Recovery of a production replacement

A production maintenance operation replaces a site database by a candidate. Its
journal names the rollback database, which a registered owner describes by size, digest
and schema. `_recover_production_journal` puts a copy of the rollback database at the
active path: a restoration file beside the active database is written first, checked
and moved over it.

The rollback file, the active file, the restoration file with its hidden name and the
copies in the backup directory are four different places. A file stands for the main
database file; the size of its `-wal` file is kept apart. The checks of the journal's
identity and authority read only, and are calls that may raise.
-/

set_option autoImplicit false

namespace NetConsole.DatabaseUpgrade.Production

open Foundations

variable {Content : Type}

/-- How a recovery fails. -/
inductive RecoveryError where
  | valueError (message : String)
  | runtimeError (message : String)
  /-- `sqlite3.DatabaseError`. -/
  | databaseError | osError
  deriving DecidableEq, Repr

/-! ## Paths -/

/-- The components of an absolute path, the last one first. -/
abbrev Path : Type := List String

/-- `Path(text)` of a text that is not blank; the last component first. -/
structure RawPath where
  absolute : Bool
  parts : List String
  deriving DecidableEq, Repr

/-- `base / raw`. -/
def RawPath.under (base : Path) (raw : RawPath) : Path :=
  if raw.absolute then raw.parts else raw.parts ++ base

/-- The directories of an installation, and what the file system says of links. -/
structure Installation where
  /-- `paths.data_root.resolve()`. -/
  dataRoot : Path
  /-- `paths.database_upgrade_backups_dir.resolve()`. -/
  backupsRoot : Path
  /-- `data_environment(paths.data_root).is_production`. -/
  isProduction : Bool
  isSymlink : Path → Bool
  resolve : RawPath → Path

/-- `path == root or path.is_relative_to(root)`. -/
def within (root path : Path) : Bool := root.isSuffixOf path

/-- The loop of `_controlled_path` over the parents. -/
def climb (installation : Installation) (field : String) : Path → Except RecoveryError Unit
  | [] =>
    if [] = installation.dataRoot then .ok ()
    else if installation.isSymlink [] then
      .error (.valueError s!"数据库升级 journal 的 {field} 包含符号链接")
    else .error (.valueError s!"数据库升级 journal 的 {field} 越界")
  | name :: parent =>
    if name :: parent = installation.dataRoot then .ok ()
    else if installation.isSymlink (name :: parent) then
      .error (.valueError s!"数据库升级 journal 的 {field} 包含符号链接")
    else climb installation field parent

/-- The path, when it is absolute and lies in the installation. -/
def controlledPath (installation : Installation) (value : Option RawPath) (field : String) :
    Except RecoveryError Path :=
  match value with
  | none => .error (.valueError s!"数据库升级 journal 的 {field} 必须是绝对路径")
  | some raw =>
    if !raw.absolute then .error (.valueError s!"数据库升级 journal 的 {field} 必须是绝对路径")
    else if installation.isSymlink raw.parts then
      .error (.valueError s!"数据库升级 journal 的 {field} 不得是符号链接")
    else if !within installation.dataRoot (installation.resolve raw) then
      .error (.valueError s!"数据库升级 journal 的 {field} 越界")
    else (climb installation field raw.parts).map fun _ => installation.resolve raw

/-! ## Databases -/

/-- What the SQLite calls and the digests say of the content of a file. -/
structure SqliteFiles (Content : Type) extends Sqlite Content where
  /-- SQLite reads the file as a database. -/
  readable : Content → Bool
  sha256 : Content → String
  schemaDigest : Content → String
  /-- What the Backup API writes for a database: its pages, with a header of the copy. -/
  backupCopy : Content → Content

/-- The profile that tells two database files apart. -/
structure QuickProfile where
  sizeBytes : Nat
  (sha256 schemaDigest : String)
  valid : Bool
  deriving DecidableEq, Repr

/-- `sqlite_quick_profile`, with `immutable=True`. -/
def sqliteQuickProfile (sqlite : SqliteFiles Content) :
    Option Content → Except RecoveryError QuickProfile
  | none => .ok ⟨0, "", "", false⟩
  | some content =>
    if sqlite.sizeBytes content = 0 then .ok ⟨0, "", "", false⟩
    else if !sqlite.readable content then .error .databaseError
    else .ok ⟨sqlite.sizeBytes content, sqlite.sha256 content, sqlite.schemaDigest content,
      sqlite.quickCheck content⟩

/-! ## Journals -/

/-- The stages that the journal of a maintenance names. -/
inductive Stage where
  | created | productionPreflight | backupVerified | executionQuiescenceVerified
  | productionSwitched | productionRolledBack | completed | failed | failedBeforeSwitch
  | failedRolledBack | recoveryFailed | recoveredNoSwitch | recoveredProductionRollback
  deriving DecidableEq, Repr

/-- `_TERMINAL_STAGES`. -/
def Stage.terminal : Stage → Bool
  | .completed | .productionRolledBack | .failedBeforeSwitch | .failedRolledBack => true
  | .recoveredNoSwitch | .recoveredProductionRollback => true
  | _ => false

/-- What a rollback owner, or one of its resources, says of the rollback database. -/
structure RollbackBinding where
  (siteId databaseRole database : String)
  backupRelativePath : RawPath
  /-- `int(binding.get("backup_size") or 0)`, where it is a number. -/
  backupSize : Option Int
  (backupSha256 schemaFingerprint : String)

/-- An owner of rollback files in the authority. -/
structure RollbackOwner where
  binding : RollbackBinding
  /-- The mappings in `resources`, where it is a list. -/
  resources : Option (List RollbackBinding)

/-- The fields of the recovery authority that the recovery reads. -/
structure RecoveryAuthority where
  productionRollbackOwner : Option RollbackOwner
  (databaseKind canonicalSiteId : String)
  siteRootRelativePath : RawPath

/-- The outcome fields of a journal. -/
structure RecoveryResult where
  stage : Stage
  rollbackPerformed : Bool
  productionRecoveryStatus : String
  productionRecoveryInterruptedStage : Option Stage
  deriving DecidableEq, Repr

/-- What a recovery reads of a journal. -/
structure Journal where
  operationId : String
  stage : Stage
  switched : Bool
  (activePath rollbackPath backupPath : Option RawPath)
  authority : RecoveryAuthority
  status : String
  recoveryError : Option RecoveryError
  result : Option RecoveryResult

/-- `value.update(result)`, and the status of a recovery. -/
def Journal.update (value : Journal) (result : RecoveryResult) : Journal :=
  { value with stage := result.stage, result := some result, status := "recovered" }

/-- The entry of a recovery that raised. -/
def Journal.fail (value : Journal) (error : RecoveryError) : Journal :=
  { value with stage := .recoveryFailed, status := "recovery_failed", recoveryError := some error }

/-! ## The durable state -/

/-- The files that a recovery works on. -/
structure State (Content : Type) where
  active : Option Content
  /-- The size of the `-wal` file of the active database; 0 where there is none. -/
  activeWal : Nat
  rollback : Option Content
  rollbackWal : Nat
  restoration : Option Content
  /-- The copies of the active database in the backup directory. -/
  failedCopies : List Content
  journal : Option Journal

/-- A procedure over the files of a recovery. -/
abbrev RecoveryProc (Content α : Type) : Type := Proc (State Content) RecoveryError α

section Recovery

variable (installation : Installation) (sqlite : SqliteFiles Content)

/-! ## The rollback database -/

/-- The binding that the owner has for the database of the journal. -/
def ownerBinding (authority : RecoveryAuthority) (owner : RollbackOwner) :
    Except RecoveryError RollbackBinding :=
  match owner.resources with
  | none => .ok owner.binding
  | some resources =>
    match resources.filter fun item =>
        item.siteId = authority.canonicalSiteId && item.databaseRole = authority.databaseKind with
    | [item] => .ok item
    | _ => .error (.valueError "DATABASE_PRODUCTION_ROLLBACK_OWNER_SCOPE_MISMATCH")

/-- The characters of a backup set's directory name. -/
def safeCharacter (char : Char) : Bool :=
  "abcdefghijklmnopqrstuvwxyzABCDEFGHIJKLMNOPQRSTUVWXYZ0123456789._-".toList.contains char

/-- In production the rollback path is the registered one. -/
def checkRegisteredPath (authority : RecoveryAuthority) (relative : RawPath) (rollback : Path) :
    Except RecoveryError Unit :=
  match relative.parts.reverse with
  | ["files", "backups", "production-maintenance", backupSet, _] =>
    if backupSet.toList.all safeCharacter then
      if rollback = installation.resolve ⟨true, relative.under
          (authority.siteRootRelativePath.under installation.dataRoot)⟩ then .ok ()
      else .error (.valueError "DATABASE_PRODUCTION_ROLLBACK_OWNER_PATH_MISMATCH")
    else .error (.valueError "DATABASE_PRODUCTION_ROLLBACK_OWNER_PATH_INVALID")
  | _ => .error (.valueError "DATABASE_PRODUCTION_ROLLBACK_OWNER_PATH_INVALID")

/-- The part of `_production_rollback_binding` that reads no file: the rollback path, what
the owner says of the database, and its size. -/
def registeredRollback (value : Journal) :
    Except RecoveryError (Path × RollbackBinding × Int) := do
  let authority := value.authority
  let owner ← authority.productionRollbackOwner.elim
    (.error (.valueError "DATABASE_PRODUCTION_ROLLBACK_OWNER_REQUIRED")) .ok
  let binding ← ownerBinding authority owner
  if (if binding.database = "" then binding.databaseRole else binding.database) ≠
      authority.databaseKind then
    throw (.valueError "DATABASE_PRODUCTION_ROLLBACK_OWNER_SCOPE_MISMATCH")
  let rollback ← controlledPath installation value.rollbackPath "rollback_path"
  let relative := binding.backupRelativePath
  if relative.absolute || relative.parts.head? ≠ some "database.sqlite" then
    throw (.valueError "DATABASE_PRODUCTION_ROLLBACK_OWNER_PATH_INVALID")
  if installation.isProduction then
    checkRegisteredPath installation authority relative rollback
  let expectedSize ← binding.backupSize.elim
    (.error (.valueError "DATABASE_PRODUCTION_ROLLBACK_OWNER_INVALID")) .ok
  if expectedSize ≤ 0 || binding.backupSha256 = "" || binding.schemaFingerprint = "" then
    throw (.valueError "DATABASE_PRODUCTION_ROLLBACK_OWNER_INCOMPLETE")
  return (rollback, binding, expectedSize)

/-- The rest of `_production_rollback_binding`: the rollback database is the one that the
owner describes. -/
def checkRollback (binding : RollbackBinding) (expectedSize : Int) (state : State Content) :
    Except RecoveryError QuickProfile :=
  if 0 < state.rollbackWal then .error (.valueError "DATABASE_PRODUCTION_ROLLBACK_WAL_ACTIVE")
  else
    match sqliteQuickProfile sqlite state.rollback with
    | .error error => .error error
    | .ok profile =>
      if !profile.valid || (profile.sizeBytes : Int) ≠ expectedSize ||
          profile.sha256 ≠ binding.backupSha256 ||
          profile.schemaDigest ≠ binding.schemaFingerprint then
        .error (.valueError "DATABASE_PRODUCTION_ROLLBACK_OWNER_MISMATCH")
      else .ok profile

/-- `_backup_directory`, up to making it. -/
def backupDirectory (value : Journal) : Except RecoveryError Path :=
  let path := match value.backupPath with
    | some raw => installation.resolve raw
    | none => value.operationId :: "_recovery" :: installation.backupsRoot
  if !within installation.backupsRoot path then
    .error (.valueError "数据库升级 journal 的 backup_path 越界")
  else if installation.isSymlink path then
    .error (.valueError "数据库升级 journal 的 backup_path 不得是符号链接")
  else .ok path

/-! ## The recovery -/

/-- `sqlite_backup`: the Backup API copies into a temporary file, which replaces the
destination. -/
def sqliteBackup (source : Option Content) (put : Content → State Content → State Content) :
    RecoveryProc Content Unit :=
  match source with
  | none => Proc.raise (.valueError "源 SQLite 数据库不存在或为空")
  | some content =>
    if sqlite.sizeBytes content = 0 then
      Proc.raise (.valueError "源 SQLite 数据库不存在或为空")
    else do
      Proc.mayRaise .osError
      Proc.when (!sqlite.readable content) (Proc.raise .databaseError)
      Proc.when (sqlite.sizeBytes (sqlite.backupCopy content) = 0)
        (Proc.raise (.valueError "SQLite Backup API 生成了空数据库"))
      Proc.replaceFile .osError (put (sqlite.backupCopy content))

/-- The file is an intact database with the profile of the rollback database. -/
def verifyRestored (file : State Content → Option Content) (expected : QuickProfile) :
    RecoveryProc Content Unit := do
  Proc.mayRaise .osError
  let state ← Proc.look
  let restored ← Proc.ofExcept (sqliteQuickProfile sqlite (file state))
  Proc.when (!restored.valid || !validateSqlite sqlite.toSqlite (file state) ||
      restored.sizeBytes ≠ expected.sizeBytes || restored.sha256 ≠ expected.sha256 ||
      restored.schemaDigest ≠ expected.schemaDigest)
    (Proc.raise (.runtimeError "production recovery restoration verification failed"))

/-- The restoration file of an earlier recovery is used again. -/
def prepareRestoration : RecoveryProc Content Unit := do
  let state ← Proc.look
  Proc.when state.restoration.isNone
    (sqliteBackup sqlite state.rollback fun copy state => { state with restoration := some copy })

/-- The active database, if there is one, is copied to the backup directory. -/
def keepActive : RecoveryProc Content Unit := do
  let state ← Proc.look
  Proc.when state.active.isSome do
    Proc.when (decide (0 < state.activeWal))
      (Proc.raise (.valueError "DATABASE_PRODUCTION_RECOVERY_WAL_ACTIVE"))
    sqliteBackup sqlite state.active fun copy state =>
      { state with failedCopies := state.failedCopies ++ [copy] }

/-- `os.replace(restoration, active)`. -/
def replaceActive : RecoveryProc Content Unit :=
  Proc.act .osError fun state =>
    match state.restoration with
    | none => .error .osError
    | some content => .ok { state with active := some content, restoration := none }

/-- The rollback database comes back. -/
def restoreRollback (value : Journal) : RecoveryProc Content RecoveryResult := do
  Proc.mayRaise .osError
  let state ← Proc.look
  let (rollback, binding, expectedSize) ← Proc.ofExcept (registeredRollback installation value)
  let rollbackProfile ← Proc.ofExcept (checkRollback sqlite binding expectedSize state)
  let active ← Proc.ofExcept (controlledPath installation value.activePath "active_path")
  Proc.when (active = rollback)
    (Proc.raise (.valueError "DATABASE_PRODUCTION_RECOVERY_ARTIFACTS_IDENTICAL"))
  let _ ← Proc.ofExcept (backupDirectory installation value)
  Proc.mayRaise .osError
  prepareRestoration sqlite
  verifyRestored sqlite State.restoration rollbackProfile
  keepActive sqlite
  replaceActive
  verifyRestored sqlite State.active rollbackProfile
  return {
    stage := .recoveredProductionRollback, rollbackPerformed := true
    productionRecoveryStatus := "OWNER_VERIFIED_ROLLBACK"
    productionRecoveryInterruptedStage := some value.stage }

/-- The recovery of a journal. -/
def recoverProductionJournal (value : Journal) : RecoveryProc Content RecoveryResult :=
  if value.switched then restoreRollback installation sqlite value
  else if value.stage = .productionPreflight ∨ value.stage = .backupVerified then
    return {
      stage := .recoveredNoSwitch, rollbackPerformed := false
      productionRecoveryStatus := "NO_SWITCH", productionRecoveryInterruptedStage := none }
  else Proc.raise (.runtimeError "DATABASE_PRODUCTION_SWITCH_STATE_UNCERTAIN")

def writeExistingJournal (value : Journal) : RecoveryProc Content Unit :=
  Proc.replaceFile .osError fun state => { state with journal := some value }

/-- The exception handler of `recover_incomplete_upgrades`. -/
def recordFailure (value : Journal) (error : RecoveryError) : RecoveryProc Content Unit :=
  Proc.tryExcept (writeExistingJournal (value.fail error)) fun _ => Proc.mayRaise .osError

/-- `_recover_production_journal` under the lock; its exception is kept for the handler. -/
def attemptRecovery (value : Journal) :
    RecoveryProc Content (Except RecoveryError RecoveryResult) :=
  Proc.tryExcept
    (do
      Proc.mayRaise .osError
      let result ← recoverProductionJournal installation sqlite value
      return .ok result)
    fun error => return .error error

/-- `recover_incomplete_upgrades` for a production journal. A journal without valid
authority is blocked and stays as it is. -/
def recoverIncompleteUpgrade : RecoveryProc Content Unit := do
  let state ← Proc.look
  match state.journal with
  | none => return ()
  | some value =>
    if value.stage.terminal then return ()
    else do
      let authorized ← Proc.tryExcept
        (do
          Proc.mayRaise (RecoveryError.valueError "DATABASE_STARTUP_AUTHORITY_REQUIRED")
          return true)
        fun _ => do
          Proc.mayRaise .osError
          return false
      Proc.when authorized do
        let outcome ← attemptRecovery installation sqlite value
        match outcome with
        | .error error => recordFailure value error
        | .ok result =>
          Proc.tryExcept
            (do
              writeExistingJournal (value.update result)
              Proc.mayRaise .osError)
            fun error => recordFailure (value.update result) error

/-- The states after any number of recoveries, each of them completed, failed or cut off
at any point. -/
inductive Recoveries (first : State Content) : State Content → Prop where
  | start : Recoveries first first
  | again {state : State Content} (earlier : Recoveries first state) (faults : List Fault) :
      Recoveries first ((recoverIncompleteUpgrade installation sqlite).run state faults).2

end Recovery

end NetConsole.DatabaseUpgrade.Production
