import NetConsole.Foundations.Interruptible

/-!
# The database upgrade coordinator

`DatabaseUpgradeCoordinator._upgrade_locked` replaces a SQLite database by a
new one. It writes its progress to a journal, makes a backup, lets the adapter
build a shadow database, checks the shadow, switches the files and smoke tests
the result; its exception handler rolls the files back.

The durable state has the four database files of an operation, the rollback
file kept in the backup directory, and the journal. A database file stands for
its content together with its `-wal` and `-shm` files. Files that are moved
aside for inspection (`failed_…`) are not read again and are left out. What the
process holds in memory (the local variables of `_upgrade_locked` and the
fields of the journal object) is part of the state, too: exception handlers
read it, recovery does not. `journaled` is a history of the stages written to
the journal file; no procedure reads it.

The two adapters of the repository (`_BackupRestoreAdapter`,
`_MeshUpgradeAdapter`) perform the same moves on the database files. They are
one set of procedures with the adapter's own values; moves of the parsed
directory appear as calls that may raise.
-/

set_option autoImplicit false

namespace NetConsole.DatabaseUpgrade

open Foundations

variable {Content : Type}

/-! ## Databases -/

/-- What `validate_sqlite` learns about a database file. -/
structure Sqlite (Content : Type) where
  sizeBytes : Content → Nat
  quickCheck : Content → Bool
  integrityCheck : Content → Bool

/-- The `valid` flag of `validate_sqlite`. -/
def validateSqlite (sqlite : Sqlite Content) : Option Content → Bool
  | none => false
  | some content =>
    sqlite.sizeBytes content ≠ 0 && sqlite.quickCheck content && sqlite.integrityCheck content

/-- The stages that the coordinator and the recovery write to a journal. -/
inductive Stage where
  | created | pauseWrites | checkpoint | backupFailed | backupValidated | shadowBuilding
  | shadowValidated | switched | smokeFailed | smokeValidated | completed | failed
  | failedRolledBack | failedBeforeSwitch | diagnosticRetentionFailed | rollbackFailed
  | recoveryFailed | recoveredNoSwitch | recoveredRollback | recoveredFromBackup
  | recoveredNewDatabase | recoveredNoExistingDatabase
  deriving DecidableEq, Repr

/-- `_TERMINAL_STAGES`: recovery skips a journal in one of these stages. -/
def Stage.terminal : Stage → Bool
  | .completed | .failedBeforeSwitch | .failedRolledBack | .diagnosticRetentionFailed => true
  | .recoveredNoSwitch | .recoveredRollback | .recoveredFromBackup => true
  | .recoveredNewDatabase | .recoveredNoExistingDatabase => true
  | _ => false

/-- The fields of a journal that recovery decides by. `backupPath` tells whether
the journal names the backup directory of the operation. -/
structure Journal where
  stage : Stage
  (switched backupPath : Bool)
  deriving DecidableEq, Repr

/-- What the coordinator keeps of the validation of its backup. -/
structure BackupResult where
  (existed valid : Bool)
  deriving DecidableEq, Repr

/-- How an upgrade fails. -/
inductive UpgradeError where
  | runtimeError (message : String)
  | valueError (message : String)
  | osError
  deriving DecidableEq, Repr

/-- The durable state and the memory of the process that upgrades. -/
structure UpgradeState (Content : Type) where
  (active shadow rollback : Option Content)
  /-- `database.sqlite` in the backup directory. -/
  backup : Option Content
  /-- `rollback.sqlite` in the backup directory. -/
  retained : Option Content
  journal : Option Journal
  journaled : List Stage
  /-- `_data` of the journal object. -/
  data : Journal
  backupResult : Option BackupResult
  (shadowParsed closed switchStarted switched reopened : Bool)

/-- A new operation: no journal file has its identifier. -/
def UpgradeState.start (active shadow rollback backup retained : Option Content) :
    UpgradeState Content where
  active := active
  shadow := shadow
  rollback := rollback
  backup := backup
  retained := retained
  journal := none
  journaled := []
  data := { stage := .created, switched := false, backupPath := false }
  backupResult := none
  shadowParsed := false
  closed := false
  switchStarted := false
  switched := false
  reopened := false

/-- A procedure over the files of an upgrade. -/
abbrev UpgradeProc (Content α : Type) : Type := Proc (UpgradeState Content) UpgradeError α

/-- The files that an upgrade has as `database.sqlite` in its failure directory:
without a backup this is another, empty directory. -/
def UpgradeState.failureBackup (s : UpgradeState Content) : Option Content :=
  if s.backupResult.isSome then s.backup else none

/-- `rollback.sqlite` in the failure directory. -/
def UpgradeState.failureRollback (s : UpgradeState Content) : Option Content :=
  if s.backupResult.isSome then s.retained else none

/-! ## The journal object -/

/-- The object after `_data` took new fields and a stage. -/
def UpgradeState.withData (s : UpgradeState Content) (stage : Stage)
    (fields : Journal → Journal) : UpgradeState Content :=
  { s with data := { fields s.data with stage } }

/-- The state after a value was written to the journal file. -/
def UpgradeState.write (s : UpgradeState Content) (value : Journal) : UpgradeState Content :=
  { s with journal := some value, journaled := s.journaled ++ [value.stage] }

/-- `DatabaseUpgradeJournal.update`: the fields enter `_data` first, building the
recovery authority and writing the file may raise. -/
def update (stage : Stage) (fields : Journal → Journal) : UpgradeProc Content Unit := do
  Proc.assign fun s => s.withData stage fields
  Proc.mayRaise .osError
  Proc.replaceFile .osError fun s => s.write s.data

/-! ## Copies -/

/-- `sqlite_backup` into one of the files: a temporary file replaces it. -/
def sqliteBackup (sqlite : Sqlite Content) (source : Option Content)
    (put : Content → UpgradeState Content → UpgradeState Content) : UpgradeProc Content Unit :=
  match source with
  | none => Proc.raise (.valueError "源 SQLite 数据库不存在或为空")
  | some content =>
    if sqlite.sizeBytes content = 0 then
      Proc.raise (.valueError "源 SQLite 数据库不存在或为空")
    else Proc.replaceFile .osError (put content)

/-- A backup directory that `_find_reusable` accepts for a content. A rollback
file in it is the database the backup was made of: `finalize_success` moved it
there at the end of the operation that made the backup. -/
structure ReusableBackup (content : Content) where
  rollback : Option Content
  rollback_eq : rollback = none ∨ rollback = some content

/-- A valid backup gives way to an earlier one of the same content. -/
def reuseBackup (sqlite : Sqlite Content)
    (findReusable : (content : Content) → Option (ReusableBackup content)) (content : Content) :
    UpgradeProc Content Unit :=
  match if validateSqlite sqlite (some content) then findReusable content else none with
  | some reusable => Proc.act .osError fun s => .ok { s with retained := reusable.rollback }
  | none => pure ()

/-- `DatabaseBackupStore.create` for the active database. -/
def createBackup (sqlite : Sqlite Content)
    (findReusable : (content : Content) → Option (ReusableBackup content)) :
    UpgradeProc Content BackupResult := do
  Proc.mayRaise .osError
  Proc.act .osError fun s => .ok { s with backup := none, retained := none }
  let s ← Proc.look
  match s.active with
  | none => do
    Proc.mayRaise .osError
    return { existed := false, valid := true }
  | some content =>
    if sqlite.sizeBytes content = 0 then do
      Proc.mayRaise .osError
      return { existed := true, valid := false }
    else do
      sqliteBackup sqlite (some content) fun copy s => { s with backup := some copy }
      Proc.mayRaise .osError
      reuseBackup sqlite findReusable content
      Proc.mayRaise .osError
      return { existed := true, valid := validateSqlite sqlite (some content) }

/-! ## Adapters -/

/-- What an adapter brings: the contents that the shadow goes through while it
is built, the checks it adds to `validate_sqlite`, whether it moves a parsed
directory beside the database, and how the moved paths are rewritten in the
database. -/
structure UpgradeAdapter (Content : Type) where
  shadowContents : List Content
  accepts : Content → Bool
  movesParsed : Bool
  rewriteParsedPaths : Content → Content

/-- `_BackupRestoreAdapter`: the shadow is a copy of the chosen backup. -/
def backupRestoreAdapter (source : Content) : UpgradeAdapter Content where
  shadowContents := [source]
  accepts _ := true
  movesParsed := false
  rewriteParsedPaths := id

/-- `validate` of an adapter. -/
def UpgradeAdapter.validate (adapter : UpgradeAdapter Content) (sqlite : Sqlite Content)
    (file : Option Content) : Bool :=
  validateSqlite sqlite file && file.any adapter.accepts

/-- What the coordinator reads of a descriptor. -/
structure DatabaseDescriptor (Content : Type) where
  (manualIntervention closeHook reopenHook : Bool)
  adapter : UpgradeAdapter Content
  /-- `version_reader(path) == target_version`. -/
  versionMatches : Option Content → Bool
  /-- `valid` of the smoke test; a descriptor without one accepts every file. -/
  smokeTest : Option Content → Bool
  findReusable : (content : Content) → Option (ReusableBackup content)

section Upgrade

variable (sqlite : Sqlite Content) (descriptor : DatabaseDescriptor Content)

/-- Build the shadow, one content after the other. -/
def writeShadow : List Content → UpgradeProc Content Unit
  | [] => Proc.mayRaise .osError
  | content :: rest => do
    Proc.act .osError fun s => .ok { s with shadow := some content }
    writeShadow rest

/-- The shadow is built in its steps. -/
def buildShadow : UpgradeProc Content Unit := do
  Proc.mayRaise (.runtimeError "数据库恢复任务已取消")
  Proc.assign fun s => { s with shadowParsed := descriptor.adapter.movesParsed }
  Proc.mayRaise .osError
  writeShadow descriptor.adapter.shadowContents

/-- `switch`: the active file becomes the rollback file and the shadow the
active file. -/
def switchDatabase : UpgradeProc Content Unit := do
  let s ← Proc.look
  Proc.when s.rollback.isSome (Proc.raise (.runtimeError "检测到未完成的 rollback 文件"))
  Proc.when s.active.isSome
    (Proc.act .osError fun s => .ok { s with active := none, rollback := s.active })
  Proc.when descriptor.adapter.movesParsed (Proc.mayRaise .osError)
  Proc.act .osError fun s =>
    match s.shadow with
    | none => .error .osError
    | some content => .ok { s with active := some content, shadow := none }
  Proc.when descriptor.adapter.movesParsed do
    Proc.mayRaise .osError
    Proc.act .osError fun s =>
      .ok { s with active := s.active.map descriptor.adapter.rewriteParsedPaths }

/-- The retained rollback file becomes the active file. -/
def restoreRollback : UpgradeProc Content Unit := do
  let s ← Proc.look
  if s.rollback.isSome then
    Proc.act .osError fun s => .ok { s with active := s.rollback, rollback := none }
  else
    Proc.when s.failureRollback.isSome
      (Proc.act .osError fun s => .ok { s with active := s.retained, retained := none })

/-- `rollback`: the active file is moved away and the old database put back, from
the rollback file or from the one kept in the backup directory. -/
def adapterRollback : UpgradeProc Content Unit := do
  Proc.mayRaise .osError
  let found ← Proc.look
  Proc.when found.active.isSome do
    Proc.act .osError fun s => .ok { s with active := none }
    Proc.when descriptor.adapter.movesParsed (Proc.mayRaise .osError)
  Proc.when (found.shadow.isSome && (descriptor.adapter.movesParsed || found.active.isNone))
    (Proc.act .osError fun s => .ok { s with shadow := none })
  Proc.when descriptor.adapter.movesParsed (Proc.mayRaise .osError)
  restoreRollback
  Proc.when descriptor.adapter.movesParsed (Proc.mayRaise .osError)

/-- The shadow and its files are removed. -/
def discardShadow : UpgradeProc Content Unit := do
  Proc.mayRaise .osError
  let s ← Proc.look
  Proc.when s.shadow.isSome (Proc.act .osError fun s => .ok { s with shadow := none })
  Proc.when descriptor.adapter.movesParsed (Proc.mayRaise .osError)

/-- `finalize_success`: the rollback file is kept in the backup directory. -/
def finalizeSuccess : UpgradeProc Content Unit := do
  let s ← Proc.look
  Proc.when s.rollback.isSome do
    Proc.when s.retained.isSome (Proc.raise (.runtimeError "备份目录中的 rollback 文件已存在"))
    Proc.act .osError fun s => .ok { s with retained := s.rollback, rollback := none }
  Proc.when descriptor.adapter.movesParsed (Proc.mayRaise .osError)

/-! ## The steps of an upgrade -/

/-- `_check_cancel`, and the progress callback. -/
def checkCancel : UpgradeProc Content Unit :=
  Proc.mayRaise (.runtimeError "数据库升级任务已取消")

/-- Writing is paused and the active database is backed up. -/
def backUpDatabase : UpgradeProc Content Unit := do
  checkCancel
  Proc.when descriptor.manualIntervention (Proc.raise (.runtimeError "数据库升级需要人工介入，自动升级已停止"))
  Proc.when descriptor.closeHook do
    Proc.assign fun s => { s with closed := true }
    Proc.mayRaise .osError
  checkCancel
  update .pauseWrites id
  Proc.mayRaise .osError
  checkCancel
  update .checkpoint id
  let backup ← createBackup sqlite descriptor.findReusable
  Proc.assign fun s => { s with backupResult := some backup }
  let s ← Proc.look
  Proc.when (s.active.isSome && !backup.valid) do
    update .backupFailed fun data => { data with backupPath := true }
    Proc.raise (.runtimeError "旧数据库备份完整性校验失败，升级已停止")
  checkCancel
  update .backupValidated fun data => { data with backupPath := true }

/-- The shadow is built and checked. -/
def prepareShadow : UpgradeProc Content Unit := do
  let s ← Proc.look
  Proc.when s.shadow.isSome (Proc.raise (.runtimeError "影子数据库路径已被占用"))
  Proc.when s.rollback.isSome (Proc.raise (.runtimeError "检测到未完成的 rollback 文件"))
  checkCancel
  update .shadowBuilding id
  buildShadow descriptor
  checkCancel
  let built ← Proc.look
  Proc.when (!descriptor.adapter.validate sqlite built.shadow)
    (Proc.raise (.runtimeError "新数据库完整性校验失败"))
  Proc.when (!descriptor.versionMatches built.shadow)
    (Proc.raise (.runtimeError "新数据库 schema_version 校验失败"))
  checkCancel
  update .shadowValidated id
  checkCancel

/-- The files are switched and the new database is smoke tested. -/
def switchAndTest : UpgradeProc Content Unit := do
  Proc.assign fun s => { s with switchStarted := true }
  switchDatabase descriptor
  Proc.assign fun s => { s with switched := true }
  update .switched fun data => { data with switched := true }
  Proc.when descriptor.reopenHook (Proc.mayRaise .osError)
  Proc.assign fun s => { s with reopened := true }
  Proc.mayRaise .osError
  let s ← Proc.look
  Proc.when (!descriptor.smokeTest s.active) do
    update .smokeFailed id
    Proc.raise (.runtimeError "新数据库业务 smoke test 失败")
  update .smokeValidated id

/-- The body of the `try` in `_upgrade_locked`. -/
def upgradeBody : UpgradeProc Content Unit := do
  backUpDatabase sqlite descriptor
  prepareShadow sqlite descriptor
  switchAndTest descriptor
  finalizeSuccess descriptor
  Proc.mayRaise .osError
  update .completed id
  checkCancel

/-! ## The exception handler -/

/-- The rollback of the adapter; its exception is kept for later. -/
def rollBackSwitch : UpgradeProc Content (Option UpgradeError) :=
  Proc.tryExcept
    (do
      adapterRollback descriptor
      return none)
    fun error => return some error

/-- The active database comes back from the backup, where it is not valid. -/
def restoreActiveFromBackupIfNeeded : UpgradeProc Content Bool := do
  let s ← Proc.look
  if !s.backupResult.any BackupResult.existed then return s.active.isNone
  else do
    Proc.when s.active.isSome (Proc.mayRaise .osError)
    if validateSqlite sqlite s.active then return true
    else if s.failureBackup.isNone then return false
    else do
      let copied ← Proc.tryExcept
        (do
          sqliteBackup sqlite s.failureBackup fun copy s => { s with active := some copy }
          return true)
        fun _ => return false
      if !copied then return false
      else do
        Proc.mayRaise .osError
        let restored ← Proc.look
        return validateSqlite sqlite restored.active

/-- Roll back a switch that may have begun. -/
def rollBackUpgrade : UpgradeProc Content Unit := do
  Proc.when descriptor.closeHook (Proc.mayRaise .osError)
  let rollbackError ← rollBackSwitch descriptor
  let restored ← restoreActiveFromBackupIfNeeded sqlite
  Proc.when (!restored) (Proc.raise (rollbackError.getD
      (.runtimeError "数据库升级回滚后正式数据库不可用，安全备份也无法恢复")))
  update .failedRolledBack id

/-- Put the shadow of an upgrade aside that never began to switch. -/
def discardUpgrade : UpgradeProc Content Unit := do
  let s ← Proc.look
  if s.shadow.isSome || s.shadowParsed then
    Proc.tryExcept
      (do
        discardShadow descriptor
        update .failedBeforeSwitch id)
      fun _ => update .diagnosticRetentionFailed id
  else update .failedBeforeSwitch id

/-- The `try` in the handler. -/
def rollBackOrDiscard : UpgradeProc Content Unit := do
  let s ← Proc.look
  if s.switchStarted || s.switched || s.rollback.isSome then rollBackUpgrade sqlite descriptor
  else discardUpgrade descriptor

/-- `except Exception as exc` of `_upgrade_locked`. -/
def handleUpgradeError (error : UpgradeError) : UpgradeProc Content Unit := do
  update .failed id
  Proc.tryFinally
    (Proc.tryExcept (rollBackOrDiscard sqlite descriptor) fun _ => do
      update .rollbackFailed id
      Proc.raise (.runtimeError "数据库升级失败且回滚失败"))
    (do
      let s ← Proc.look
      Proc.when (descriptor.reopenHook && s.closed && (!s.reopened || s.switched))
        (Proc.mayRaise .osError))
  Proc.raise error

/-- An upgrade, under its lock. -/
def upgradeLocked : UpgradeProc Content Unit := do
  update .created id
  Proc.tryExcept (upgradeBody sqlite descriptor) (handleUpgradeError sqlite descriptor)

end Upgrade

end NetConsole.DatabaseUpgrade
