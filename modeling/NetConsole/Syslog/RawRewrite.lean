import Mathlib.Data.Char
import Mathlib.Data.List.Lex
import Mathlib.Data.List.Sort
import NetConsole.Foundations.Interruptible

/-!
# Rewriting raw syslog files

`executeSyslogDeletion` removes the selected lines of the planned files. Each
file is rewritten to a part file first; a journal with the sizes and digests of
both contents is written; then each file is copied to a backup and replaced by
its part, and one registry transaction takes the new revisions and removes the
derived events. `recoverRewriteJournal` decides from the registry alone whether
an interrupted operation is finished or taken back.

A file of an operation is named by its identifier and by the path of the raw
file it belongs to (`FileName`). Which lines a deletion selects is a function of a record, the
file and the line number (`DeletionScope`); the digest is a parameter.
-/

set_option autoImplicit false

namespace NetConsole.Syslog

open Foundations

/-! ## Lines -/

/-- The lines of a file opened for binary reading, newlines included. -/
def rawLines : List UInt8 → List (List UInt8)
  | [] => []
  | byte :: rest =>
    if byte = 10 then [byte] :: rawLines rest
    else
      match rawLines rest with
      | [] => [[byte]]
      | line :: more => (byte :: line) :: more

theorem flatten_rawLines (content : List UInt8) : (rawLines content).flatten = content := by
  induction content with
  | nil => rfl
  | cons byte rest ih =>
    unfold rawLines
    split
    · simp [ih]
    · split
      · next empty =>
        rw [empty] at ih
        simp [← ih]
      · next line more lines =>
        rw [lines] at ih
        simp [← ih]

theorem ne_nil_of_mem_rawLines {content line : List UInt8} (mem : line ∈ rawLines content) :
    line ≠ [] := by
  induction content generalizing line with
  | nil => simp [rawLines] at mem
  | cons byte rest ih =>
    unfold rawLines at mem
    split at mem
    · rcases List.mem_cons.mp mem with equal | later
      · simp [equal]
      · exact ih later
    · split at mem
      · simp_all
      · next head more lines =>
        rcases List.mem_cons.mp mem with equal | later
        · simp [equal]
        · exact ih (lines ▸ List.mem_cons_of_mem head later)

/-! ## What is stored -/

/-- The fields of a registered raw file that a deletion reads or writes. -/
structure RegisteredFile where
  (runId relativePath dataType status archiveStatus compressedPath : String)
  (revision recordCount sizeBytes : Nat)
  (sha256 startTime endTime : String)
  deriving DecidableEq

/-- A raw file, and its backup and part of an operation. -/
inductive FileName where
  | target (path : String)
  | backup (operationId path : String)
  | part (operationId path : String)
  deriving DecidableEq

/-- A file in the journal of a rewrite. -/
structure JournalEntry where
  (fileId relativePath : String)
  (baseRevision oldSizeBytes : Nat)
  oldSha256 : String
  newSizeBytes : Nat
  newSha256 : String
  deriving DecidableEq

/-- The journal of a rewrite. -/
structure RewriteJournal where
  version : Nat
  (operationId siteId : String)
  files : List JournalEntry
  deriving DecidableEq

/-- The data root: the files, the journal of the operation with its temporary
file, the registry by file identifier, and the tables of derived events. -/
structure RawStore (Derived : Type) where
  files : FileName → Option (List UInt8)
  journalTemp : Bool
  journal : Option RewriteJournal
  registry : String → Option RegisteredFile
  derived : Derived

/-- The error codes of the lifecycle service, and the exceptions of the calls
that it makes. -/
inductive LifecycleError where
  | recoveryInvalid | recoveryUncertain | operationIdInvalid | operationExists | siteMismatch
  | runNotFound | runActive | archiveImmutable | fileMissing | typeMismatch | stateBlocked
  | revisionConflict | pathInvalid | lockUnavailable | deleteModeInvalid | recordError
  | rewriteVerifyFailed | rollbackFailed | cancelled | osError
  deriving DecidableEq

/-- A step of the lifecycle service. -/
abbrev RawProc (Derived : Type) := Proc (RawStore Derived) LifecycleError

/-! ## Plans -/

/-- How a deletion reads records: the decoder of a line (`none` for a line that
is no JSON object), the receive time of a record, its reference, and whether the
scope selects it. -/
structure DeletionScope (Record Reference : Type) where
  decodeRecord : List UInt8 → Option Record
  receiveTime : Record → String
  recordReference : Record → String → Nat → Reference
  matchesDeleteScope : Record → String → Nat → Except LifecycleError Bool

/-- A file as the plan has seen it. -/
structure PlannedFile where
  fileId : String
  revision : Nat
  deriving DecidableEq

/-- The run that a plan belongs to, as the repository returns it: its state, in
capitals, and the state of its archive. -/
structure RunRecord where
  (state archiveStatus : String)

/-- A deletion plan with its operation identifier. `deriveDeletion` is what the
registry transaction does to the derived events of the removed records. -/
structure DeletionPlan (Record Reference Derived : Type) where
  (siteId runId operationId : String)
  scope : DeletionScope Record Reference
  files : List PlannedFile
  expectedMatchedCount : Nat
  deriveDeletion : List Reference → Derived → Derived

/-- What is fixed for one lifecycle service: its site, the digest, and the runs. -/
structure LifecycleService where
  siteId : String
  sha256 : List UInt8 → String
  getRun : String → Option RunRecord

variable {Record Reference Derived : Type} (service : LifecycleService)

/-! ## File operations -/

def RawStore.setFile (store : RawStore Derived) (name : FileName) (content : Option (List UInt8)) :
    RawStore Derived :=
  { store with files := Function.update store.files name content }

/-- A call that reads or waits: it changes nothing, and may raise. -/
def mayRaise {ε : Type} (error : ε) : Proc (RawStore Derived) ε Unit := Proc.act error Except.ok

/-- Append to an open file, in pieces. -/
def appendBytes {ε : Type} (error : ε) (name : FileName) :
    List UInt8 → Proc (RawStore Derived) ε Unit
  | [] => pure ()
  | byte :: rest => do
    Proc.act error fun store =>
      .ok (store.setFile name (some ((store.files name).getD [] ++ [byte])))
    appendBytes error name rest

/-- `path.unlink(missing_ok=True)`. -/
def unlink {ε : Type} (error : ε) (name : FileName) : Proc (RawStore Derived) ε Unit :=
  Proc.act error fun store => .ok (store.setFile name none)

/-- `os.replace`. -/
def replace {ε : Type} (error : ε) (source target : FileName) : Proc (RawStore Derived) ε Unit :=
  Proc.act error fun store =>
    match store.files source with
    | none => .error error
    | some content => .ok ((store.setFile target (some content)).setFile source none)

/-- The file has the size and the digest. -/
def fileHasIdentity (store : RawStore Derived) (name : FileName) (sizeBytes : Nat)
    (digest : String) : Bool :=
  match store.files name with
  | none => false
  | some content => content.length = sizeBytes && service.sha256 content = digest

/-- Raises unless the file has the size and the digest. -/
def verifyFileIdentity (name : FileName) (sizeBytes : Nat) (digest : String) :
    RawProc Derived Unit :=
  Proc.act .osError fun store =>
    if fileHasIdentity service store name sizeBytes digest then .ok store
    else .error .recoveryUncertain

/-! ## Recovery -/

def rewriteJournalVersion : Nat := 1

/-- `_OPERATION_ID_PATTERN`. -/
def isOperationId (value : String) : Bool :=
  1 ≤ value.toList.length && value.toList.length ≤ 128 && value.toList.all fun char =>
      ('A' ≤ char && char ≤ 'Z') || ('a' ≤ char && char ≤ 'z') ||
        ('0' ≤ char && char ≤ '9') || char ∈ ['_', '-']

/-- Find the registration of every entry and take the lock of its file. -/
def resolveEntries : List JournalEntry → RawProc Derived (List (JournalEntry × RegisteredFile))
  | [] => pure []
  | entry :: rest => do
    let store ← Proc.look
    match store.registry entry.fileId with
    | none => Proc.raise .recoveryUncertain
    | some registered =>
      if registered.relativePath ≠ entry.relativePath then Proc.raise .recoveryUncertain
      else do
        mayRaise .pathInvalid
        mayRaise .lockUnavailable
        let resolved ← resolveEntries rest
        return (entry, registered) :: resolved

/-- Whether the registry holds the revision that the operation commits. -/
def isCommitted (resolved : List (JournalEntry × RegisteredFile)) : Bool :=
  resolved.all fun (entry, registered) =>
    registered.revision = entry.baseRevision + 1 && registered.sha256 = entry.newSha256

/-- Whether the registry holds the revision that the operation started from. -/
def isPending (resolved : List (JournalEntry × RegisteredFile)) : Bool :=
  resolved.all fun (entry, registered) => registered.revision = entry.baseRevision

/-- Put one file back, unless it is as it was. -/
def restoreTarget (operationId : String) (entry : JournalEntry) : RawProc Derived Unit := do
  mayRaise .osError
  let store ← Proc.look
  if fileHasIdentity service store (.target entry.relativePath) entry.oldSizeBytes entry.oldSha256
  then pure ()
  else do
    verifyFileIdentity service (.backup operationId entry.relativePath) entry.oldSizeBytes
      entry.oldSha256
    replace .osError (.backup operationId entry.relativePath) (.target entry.relativePath)
    verifyFileIdentity service (.target entry.relativePath) entry.oldSizeBytes entry.oldSha256

/-- A file is checked, or put back, and its copies are removed. -/
def recoverEntry (operationId : String) (committed : Bool) (entry : JournalEntry) :
    RawProc Derived Unit := do
  if committed then
    verifyFileIdentity service (.target entry.relativePath) entry.newSizeBytes entry.newSha256
  else restoreTarget service operationId entry
  unlink .osError (.backup operationId entry.relativePath)
  unlink .osError (.part operationId entry.relativePath)

/-- The recovery of the files one after another. -/
def recoverEntries (operationId : String) (committed : Bool) :
    List JournalEntry → RawProc Derived Unit
  | [] => pure ()
  | entry :: rest => do
    recoverEntry service operationId committed entry
    recoverEntries operationId committed rest

/-- The checks on the fields of a journal. -/
def validJournal (journal : RewriteJournal) : Bool :=
  journal.version = rewriteJournalVersion && journal.siteId = service.siteId &&
    isOperationId journal.operationId && !journal.files.isEmpty

/-- `journal_path.unlink()`. -/
def unlinkJournal {ε : Type} (error : ε) : Proc (RawStore Derived) ε Unit :=
  Proc.act error fun store => .ok { store with journal := none }

/-- The operation of a journal is ended. -/
def recoverRewriteJournal (journal : RewriteJournal) : RawProc Derived Unit := do
  mayRaise .recoveryInvalid
  if validJournal service journal then do
    let resolved ← resolveEntries journal.files
    if !isCommitted resolved && !isPending resolved then Proc.raise .recoveryUncertain
    else do
      recoverEntries service journal.operationId (isCommitted resolved) journal.files
      unlinkJournal .osError
  else Proc.raise .recoveryInvalid

/-- `recover_interrupted_operations`. -/
def recoverInterruptedOperations : RawProc Derived Unit := do
  let store ← Proc.look
  match store.journal with
  | none => pure ()
  | some journal => recoverRewriteJournal service journal

/-! ## Staging -/

/-- What `_stage_rewrite` returns, with the content of the part file. -/
structure StagedRewrite (Reference : Type) where
  (fileId path : String)
  baseRevision : Nat
  matchedRefs : List Reference
  oldSizeBytes : Nat
  oldSha256 : String
  content : List UInt8
  recordCount : Nat
  (startTime endTime : String)

/-- The kept lines of a file, the references of the others, and the receive
times of the kept records. -/
structure KeptLines (Reference : Type) where
  kept : List (List UInt8)
  matchedRefs : List Reference
  timestamps : List String

/-- The reference of a line that the scope selects. -/
def selectedReference (scope : DeletionScope Record Reference) (fileId : String)
    (lineNumber : Nat) (rawLine : List UInt8) : Except LifecycleError (Option Reference) :=
  match scope.decodeRecord rawLine with
  | none => .ok none
  | some record =>
    (scope.matchesDeleteScope record fileId lineNumber).map fun delete =>
      if delete then some (scope.recordReference record fileId lineNumber) else none

/-- The receive time of a line, when it has one. -/
def lineTimestamp (scope : DeletionScope Record Reference) (rawLine : List UInt8) : List String :=
  match scope.decodeRecord rawLine with
  | none => []
  | some record => if scope.receiveTime record = "" then [] else [scope.receiveTime record]

/-- The loop of `_stage_rewrite` over the numbered lines. -/
def keepLines (scope : DeletionScope Record Reference) (fileId : String) :
    Nat → List (List UInt8) → Except LifecycleError (KeptLines Reference)
  | _, [] => .ok ⟨[], [], []⟩
  | lineNumber, rawLine :: rest => do
    let selected ← selectedReference scope fileId lineNumber rawLine
    let later ← keepLines scope fileId (lineNumber + 1) rest
    match selected with
    | some reference => return { later with matchedRefs := reference :: later.matchedRefs }
    | none => return { later with
        kept := rawLine :: later.kept
        timestamps := lineTimestamp scope rawLine ++ later.timestamps }

/-- The smallest or the largest text; the empty text when there is none. -/
def extremeText (better : List Char → List Char → Bool) (texts : List String) : String :=
  texts.foldl
    (fun best text => if best = "" || better text.toList best.toList then text else best) ""

/-- What `_stage_rewrite` makes of a content. -/
def stagedRewrite (scope : DeletionScope Record Reference) (fileId path : String)
    (baseRevision : Nat) (content : List UInt8) : Except LifecycleError (StagedRewrite Reference) :=
  (keepLines scope fileId 1 (rawLines content)).map fun lines =>
    { fileId := fileId, path := path, baseRevision := baseRevision, matchedRefs := lines.matchedRefs
      oldSizeBytes := content.length
      oldSha256 := service.sha256 content
      content := lines.kept.flatten, recordCount := lines.kept.length
      startTime := extremeText (fun text best => text < best) lines.timestamps
      endTime := extremeText (fun text best => best < text) lines.timestamps }

/-- `_stage_rewrite`: the part file must not exist; the kept lines are appended
to it. -/
def stageRewrite (operationId : String) (scope : DeletionScope Record Reference) (fileId : String)
    (row : RegisteredFile) : RawProc Derived (StagedRewrite Reference) := do
  Proc.act .osError fun store =>
    match store.files (.target row.relativePath),
      store.files (.part operationId row.relativePath) with
    | some _, none => .ok (store.setFile (.part operationId row.relativePath) (some []))
    | _, _ => .error .osError
  let store ← Proc.look
  let content := (store.files (.target row.relativePath)).getD []
  let staged ← Proc.ofExcept
    (stagedRewrite service scope fileId row.relativePath row.revision content)
  appendBytes .osError (.part operationId row.relativePath) staged.content
  mayRaise .osError
  return staged

/-- Stage the files one after another; an exception comes with the parts that
are staged so far. -/
def stageFiles (operationId : String) (scope : DeletionScope Record Reference) :
    List (String × RegisteredFile) → List FileName →
      Proc (RawStore Derived) (LifecycleError × List FileName) (List (StagedRewrite Reference))
  | [], _ => pure []
  | (fileId, row) :: rest, parts => do
    mayRaise (.cancelled, parts)
    let staged ← Proc.tryExcept (stageRewrite service operationId scope fileId row) fun error =>
      Proc.raise (error, parts)
    mayRaise (.cancelled, parts ++ [.part operationId staged.path])
    let more ← stageFiles operationId scope rest (parts ++ [.part operationId staged.path])
    return staged :: more

/-! ## The journal and the registry -/

/-- What the journal says of one staged file. -/
def journalEntry (item : StagedRewrite Reference) : JournalEntry where
  fileId := item.fileId
  relativePath := item.path
  baseRevision := item.baseRevision
  oldSizeBytes := item.oldSizeBytes
  oldSha256 := item.oldSha256
  newSizeBytes := item.content.length
  newSha256 := service.sha256 item.content

/-- The journal of an operation. -/
def rewriteJournal (plan : DeletionPlan Record Reference Derived)
    (staged : List (StagedRewrite Reference)) : RewriteJournal where
  version := rewriteJournalVersion
  operationId := plan.operationId
  siteId := service.siteId
  files := staged.map (journalEntry service)

/-- The journal of the staged files. -/
def writeRewriteJournal (plan : DeletionPlan Record Reference Derived)
    (staged : List (StagedRewrite Reference)) : RawProc Derived Unit := do
  if isOperationId plan.operationId then do
    let store ← Proc.look
    match store.journal with
    | some _ => Proc.raise .operationExists
    | none => do
      Proc.act .osError fun store =>
        if store.journalTemp then .error .osError else .ok { store with journalTemp := true }
      mayRaise .osError
      Proc.act .osError fun store =>
        .ok { store with
          journalTemp := false, journal := some (rewriteJournal service plan staged) }
  else Proc.raise .operationIdInvalid

/-- The row after the operation. -/
def RegisteredFile.rewritten (row : RegisteredFile)
    (item : StagedRewrite Reference) : RegisteredFile :=
  { row with
    recordCount := item.recordCount, sizeBytes := item.content.length
    sha256 := service.sha256 item.content
    startTime := item.startTime, endTime := item.endTime, revision := row.revision + 1 }

/-- The updates of the registry; each must hit a row of the run at the base
revision. -/
def applyFileUpdates (runId : String) :
    List (StagedRewrite Reference) → (String → Option RegisteredFile) →
      Except LifecycleError (String → Option RegisteredFile)
  | [], registry => .ok registry
  | item :: rest, registry =>
    match registry item.fileId with
    | none => .error .revisionConflict
    | some row =>
      if row.runId = runId ∧ row.dataType = "syslog" ∧ row.revision = item.baseRevision then
        applyFileUpdates runId rest
          (Function.update registry item.fileId (some (row.rewritten service item)))
      else .error .revisionConflict

/-- `apply_syslog_deletion_metadata`, one transaction. -/
def applySyslogDeletionMetadata {ε : Type} (error : LifecycleError → ε)
    (plan : DeletionPlan Record Reference Derived) (staged : List (StagedRewrite Reference)) :
    Proc (RawStore Derived) ε Unit :=
  Proc.act (error .osError) fun store =>
    match applyFileUpdates service plan.runId staged store.registry with
    | .error failure => .error (error failure)
    | .ok registry =>
      .ok { store with
        registry := registry
        derived := plan.deriveDeletion (staged.flatMap StagedRewrite.matchedRefs) store.derived }

/-! ## Replacing the files -/

/-- An exception while the files are replaced, with the lists that its handler
reads: the backups and the replaced files, newest first. -/
structure Unwinding where
  error : LifecycleError
  (backups replaced : List String)

/-- Copy, replace and verify the files one after another, then update the
registry. -/
def replaceFiles (plan : DeletionPlan Record Reference Derived)
    (all : List (StagedRewrite Reference)) :
    List (StagedRewrite Reference) → List String → List String →
      Proc (RawStore Derived) Unwinding Unit
  | [], backups, replaced => do
    mayRaise ⟨.cancelled, backups, replaced⟩
    applySyslogDeletionMetadata service (fun error => ⟨error, backups, replaced⟩) plan all
  | item :: rest, backups, replaced => do
    let store ← Proc.look
    let content := (store.files (.target item.path)).getD []
    Proc.act ⟨.osError, backups, replaced⟩ fun store =>
      .ok (store.setFile (.backup plan.operationId item.path) (some []))
    appendBytes ⟨.osError, backups, replaced⟩ (.backup plan.operationId item.path) content
    mayRaise ⟨.osError, backups, replaced⟩
    replace ⟨.osError, item.path :: backups, replaced⟩ (.part plan.operationId item.path)
      (.target item.path)
    Proc.act ⟨.osError, item.path :: backups, item.path :: replaced⟩ fun store =>
      if fileHasIdentity service store (.target item.path) item.content.length
          (service.sha256 item.content) then .ok store
      else .error ⟨.rewriteVerifyFailed, item.path :: backups, item.path :: replaced⟩
    replaceFiles plan all rest (item.path :: backups) (item.path :: replaced)

/-- Put the replaced files back; whether all of them came back. -/
def rollbackFiles (operationId : String) : List String → RawProc Derived Bool
  | [] => pure true
  | path :: rest => do
    let restored ← Proc.tryExcept
      (do
        replace LifecycleError.osError (.backup operationId path) (.target path)
        return true)
      fun _ => (pure false : RawProc Derived Bool)
    let others ← rollbackFiles operationId rest
    return restored && others

def unlinkAll (names : List FileName) : RawProc Derived Unit :=
  match names with
  | [] => pure ()
  | name :: rest => do
    unlink .osError name
    unlinkAll rest

/-- The handler of an exception while the files are replaced. -/
def rollback (operationId : String) (unwinding : Unwinding) : RawProc Derived Unit := do
  let restored ← rollbackFiles operationId unwinding.replaced
  if restored then do
    unlinkAll (unwinding.backups.reverse.map (.backup operationId))
    unlinkJournal .osError
    Proc.raise unwinding.error
  else Proc.raise .rollbackFailed

/-! ## The deletion -/

def activeRunStates : List String :=
  ["STARTING", "RUNNING", "PAUSED", "STOPPING", "FINALIZING", "ARCHIVING", "ERROR"]

def rewritableFileStates : List String := ["CLOSED", "RECOVERED", "PENDING"]

/-- The checks on the site, the run and its archive. -/
def validatePlan (plan : DeletionPlan Record Reference Derived) : Except LifecycleError Unit :=
  if plan.siteId ≠ service.siteId then .error .siteMismatch
  else
    match service.getRun plan.runId with
    | none => .error .runNotFound
    | some run =>
      if run.state ∈ activeRunStates then .error .runActive
      else if run.archiveStatus ∈ ["READY", "VERIFYING", "DOWNLOADING"] then
        .error .archiveImmutable
      else .ok ()

/-- The file may be rewritten, and is still as planned. -/
def validatePlannedFile (store : RawStore Derived) (row : RegisteredFile) (planned : PlannedFile) :
    Except LifecycleError Unit :=
  if (store.files (.target row.relativePath)).isNone then .error .fileMissing
  else if row.dataType ≠ "syslog" then .error .typeMismatch
  else if row.status ∉ rewritableFileStates then .error .stateBlocked
  else if row.archiveStatus = "ARCHIVED" ∨ row.compressedPath ≠ "" then .error .archiveImmutable
  else if row.revision ≠ planned.revision then .error .revisionConflict
  else .ok ()

/-- Lock and validate the planned files one after another. -/
def lockFiles : List PlannedFile → RawProc Derived (List (String × RegisteredFile))
  | [] => pure []
  | planned :: rest => do
    mayRaise .cancelled
    let store ← Proc.look
    match store.registry planned.fileId with
    | none => Proc.raise .fileMissing
    | some row => do
      mayRaise .pathInvalid
      mayRaise .lockUnavailable
      Proc.ofExcept (validatePlannedFile store row planned)
      mayRaise .cancelled
      let more ← lockFiles rest
      return (planned.fileId, row) :: more

/-- The plan's files in the order of their identifiers. -/
def DeletionPlan.sortedFiles (plan : DeletionPlan Record Reference Derived) : List PlannedFile :=
  plan.files.insertionSort fun first second => first.fileId.toList ≤ second.fileId.toList

/-- The part of `execute_syslog_deletion` after the files are staged. -/
def rewriteFiles (plan : DeletionPlan Record Reference Derived)
    (staged : List (StagedRewrite Reference)) : RawProc Derived Unit := do
  if (staged.flatMap StagedRewrite.matchedRefs).length ≠ plan.expectedMatchedCount then
    Proc.raise .revisionConflict
  else do
    writeRewriteJournal service plan staged
    Proc.tryExcept (replaceFiles service plan staged staged [] [])
      (rollback plan.operationId)
    unlinkAll (staged.map fun item => .backup plan.operationId item.path)
    unlinkJournal .osError
    mayRaise .cancelled

/-- Remove the parts of an interrupted staging, then raise again. -/
def abandonStaging {α : Type} (failure : LifecycleError × List FileName) : RawProc Derived α := do
  unlinkAll failure.2
  Proc.raise failure.1

/-- `execute_syslog_deletion`. Its `finally` removes the parts of the files that
were staged. -/
def executeSyslogDeletion
    (plan : DeletionPlan Record Reference Derived) : RawProc Derived Unit := do
  recoverInterruptedOperations service
  Proc.ofExcept (validatePlan service plan)
  mayRaise .cancelled
  let locked ← lockFiles plan.sortedFiles
  mayRaise .cancelled
  let staged ← Proc.tryExcept (stageFiles service plan.operationId plan.scope locked [])
    abandonStaging
  Proc.tryFinally (rewriteFiles service plan staged)
    (unlinkAll (staged.map fun item => .part plan.operationId item.path))

end NetConsole.Syslog
