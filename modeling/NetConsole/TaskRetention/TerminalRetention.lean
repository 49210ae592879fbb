import NetConsole.Foundations.SortedGroups
import NetConsole.TaskRetention.HistoryCleanup

/-!
# The retention of terminal tasks

`enforce_terminal_history_retention` keeps the ten newest ordinary tasks of each site and task type,
and deletes the others with their results and events. The closure that `run_sqlite_with_retry`
repeats counts the protected tasks and the deleted rows in variables of its caller.

A lock that a blob meets is caught: the result counts as unreadable, and protects its task.
-/

set_option autoImplicit false

namespace NetConsole.TaskRetention

open Foundations List
open Syslog (firstOf)
open TaskCenter (ResultFormat ResultRow TaskError TaskState VerifiedResult readBlob stripped
  verifyTaskResultRow)

/-! ## What protects a task -/

/-- Why a task is kept. -/
inductive TerminalProtection where
  | active | onlineMrMapping | longTermReference | unreadableMetadata
  deriving DecidableEq

/-- `LONG_TERM_TASK_RESOURCE_PREFIXES`. -/
def longTermTaskResourcePrefixes : List String :=
  ["online_mr_session:", "online-mr:", "ground-unattended:", "ground_unattended:", "mesh-import:",
    "mesh_catalog:", "mesh_profile:", "mesh-source:", "mesh_source:", "mesh-session:",
    "mesh_session:"]

section Protection

variable {Result : Type} (lib : HistoryLibrary Result)

/-- The instant that a text tells. -/
def eventDatetime (value : String) : Except TaskError (Option Int) :=
  lib.fromIsoFormat (String.ofList (value.toList.flatMap fun char =>
    if char = 'Z' then "+00:00".toList else [char]))

/-- `_retention_json_list` and `_retention_json_object`. -/
def retentionJson {Content : Type} (blank : Content) (parse : String → Option Content)
    (value : String) : Option Content :=
  if stripped value ∈ ["", "null"] then some blank else parse (stripped value)

/-- A resource key or the result refers to lasting data. -/
def taskHasLongTermReference (resourceKeys : List String) (result : Result) : Bool :=
  (resourceKeys.any fun value => longTermTaskResourcePrefixes.any fun start =>
    start.toList.isPrefixOf (lib.casefold (stripped value)).toList) ||
    lib.hasLongTermResultReference result

/-- The sealed results by their identifiers; `none` for one that cannot be read. -/
abbrev ResultAuthority (Result : Type) : Type := List (String × Option (VerifiedResult Result))

/-- The content of the sealed result of a row, which is none when it has no reference. -/
def authorityResult (authority : ResultAuthority Result) (row : HistoryRow) : Option Result :=
  if row.resultId = "" then some lib.format.empty
  else
    match authority.lookup row.resultId with
    | some (some verified) =>
      if verified.row.taskId = row.taskId then some verified.result else none
    | _ => none

/-- Whether the time of a terminal task can be read. -/
def timeReadable (row : HistoryRow) : Except TaskError Bool :=
  if lib.upper row.status ∈ terminalValues then
    (eventDatetime lib (firstOf row.finishedTime row.updatedTime)).map Option.isSome
  else .ok true

/-- What the metadata of a task says. -/
def metadataProtection (authority : ResultAuthority Result) (row : HistoryRow) :
    Option TerminalProtection :=
  match retentionJson [] lib.parseList row.resourceKeysJson,
    retentionJson lib.format.empty lib.format.parse row.resultJson,
    retentionJson lib.format.empty lib.format.parse row.resultSummaryJson with
  | some resourceKeys, some taskResult, some resultSummary =>
    match authorityResult lib authority row with
    | none => some .unreadableMetadata
    | some authorityResult =>
      let result :=
        lib.format.merge (lib.format.merge authorityResult resultSummary) taskResult
      if taskHasLongTermReference lib resourceKeys result then some .longTermReference else none
  | _, _, _ => some .unreadableMetadata

/-- Why a task is kept, if it is. -/
def terminalRetentionProtection (onlineMrTaskIds : List String)
    (authority : ResultAuthority Result) (row : HistoryRow) :
    Except TaskError (Option TerminalProtection) :=
  if lib.upper row.status ∈ activeValues then .ok (some .active)
  else if row.taskId ∈ onlineMrTaskIds then .ok (some .onlineMrMapping)
  else (timeReadable lib row).map fun readable =>
    if readable then metadataProtection lib authority row else some .unreadableMetadata

end Protection

/-! ## What is deleted -/

/-- The key under which tasks are kept. -/
structure HistoryScope where
  (siteName taskType : String)
  deriving DecidableEq

def taskHistoryScopeLimit : Nat := 10

/-- The site and the type of a task. -/
def taskHistoryScope (row : HistoryRow) : HistoryScope :=
  ⟨stripped row.siteName, stripped row.taskType⟩

/-- The order in which the rows are selected: the last columns descend. -/
def HistoryRow.retentionOrder (row : HistoryRow) :
    (List Char)ᵒᵈ ×ₗ (List Char)ᵒᵈ ×ₗ List Char ×ₗ List Char ×ₗ List Char :=
  toLex (OrderDual.toDual row.siteName.toList, toLex (OrderDual.toDual row.taskType.toList,
    toLex (row.finishedTime.toList, toLex (row.updatedTime.toList, row.taskId.toList))))

/-- The timestamp of a candidate, with its task. -/
def HistoryRow.stamp (row : HistoryRow) : List Char ×ₗ List Char :=
  toLex ((firstOf row.finishedTime row.updatedTime).toList, row.taskId.toList)

/-- The tasks of a scope, the latest first. -/
def orderedTasks (candidates : List HistoryRow) : List HistoryRow :=
  newestFirst HistoryRow.stamp candidates

/-- The tasks that stay in their scopes. -/
def retainedTasks (scopes : List (HistoryScope × List HistoryRow)) : List String :=
  scopes.flatMap fun scope =>
    ((orderedTasks scope.2).take taskHistoryScopeLimit).map HistoryRow.taskId

/-- `delete_ids`. -/
def deletedTasks (scopes : List (HistoryScope × List HistoryRow)) : List String :=
  scopes.flatMap fun scope =>
    ((orderedTasks scope.2).drop taskHistoryScopeLimit).map HistoryRow.taskId

/-- The tables that rows of a task are deleted from, in this order. -/
inductive OwnedTable where
  | taskResults | taskEvents | taskSnapshots
  deriving DecidableEq

/-- A statement that deletes, or that prepares it. -/
inductive RetentionWrite where
  | tombstone (taskId retiredAt : String)
  | delete (table : OwnedTable) (taskIds : List String)

/-- `INSERT OR IGNORE` of a tombstone. -/
def insertTombstone (tombstones : List Tombstone) (tombstone : Tombstone) : List Tombstone :=
  if tombstone.taskId ∈ tombstones.map Tombstone.taskId then tombstones
  else tombstones ++ [tombstone]

/-- What a statement writes. -/
def RetentionWrite.apply (history : TaskHistory) : RetentionWrite → TaskHistory
  | .tombstone taskId retiredAt =>
    { history with
      tombstones := insertTombstone history.tombstones
        ⟨taskId, retiredAt, "terminal_history_retention"⟩ }
  | .delete .taskResults taskIds =>
    { history with
      results := history.results.filter fun row => row.taskId ∉ taskIds
      resultsDistinct := history.resultsDistinct.sublist ((filter_sublist).map _) }
  | .delete .taskEvents taskIds =>
    { history with events := history.events.filter fun event => event.taskId ∉ taskIds }
  | .delete .taskSnapshots taskIds =>
    { history with
      snapshots := history.snapshots.filter fun row => row.taskId ∉ taskIds
      distinct := history.distinct.sublist ((filter_sublist).map _) }

/-- The `rowcount` of a deletion. -/
def rowCount (history : TaskHistory) (table : OwnedTable) (taskIds : List String) : Nat :=
  match table with
  | .taskResults => history.results.countP fun row => row.taskId ∈ taskIds
  | .taskEvents => history.events.countP fun event => event.taskId ∈ taskIds
  | .taskSnapshots => history.snapshots.countP fun row => row.taskId ∈ taskIds

/-- The statements that delete some tasks, in chunks. -/
def retentionWrites (retiredAt : String) (deleteIds : List String) : List RetentionWrite :=
  (deleteIds.map fun taskId => .tombstone taskId retiredAt) ++
    (chunks 500 deleteIds).flatMap fun chunk =>
      [.delete .taskResults chunk, .delete .taskEvents chunk, .delete .taskSnapshots chunk]

theorem exists_of_mem_deletedTasks {candidates : List HistoryRow} {taskId : String}
    (mem : taskId ∈ deletedTasks (groupItems taskHistoryScope candidates)) :
    ∃ row ∈ candidates, row.taskId = taskId := by
  obtain ⟨scope, grouped, mem⟩ := mem_flatMap.mp mem
  obtain ⟨row, old, same⟩ := mem_map.mp mem
  have inScope : row ∈ scope.2 := (mem_newestFirst _).mp (mem_of_mem_drop old)
  rw [(groupItems_spec candidates).holds scope grouped] at inScope
  exact ⟨row, mem_of_mem_filter inScope, same⟩

/-! ## The operation -/

/-- The variables that the closure of
`enforce_terminal_history_retention` shares with its caller. -/
structure RetentionTotals where
  (scopes retainedTerminal : Nat)
  deletedTaskIds : List String
  deleted : OwnedTable → Nat
  protectedTasks : TerminalProtection → Nat

def RetentionTotals.zero : RetentionTotals where
  scopes := 0
  retainedTerminal := 0
  deletedTaskIds := []
  deleted _ := 0
  protectedTasks _ := 0

/-- One more task that this protection keeps. -/
def RetentionTotals.countProtected (totals : RetentionTotals)
    (protection : TerminalProtection) : RetentionTotals :=
  { totals with
    protectedTasks :=
      Function.update totals.protectedTasks protection (totals.protectedTasks protection + 1) }

/-- The totals after a statement. -/
def RetentionTotals.countWrite (totals : RetentionTotals) (history : TaskHistory) :
    RetentionWrite → RetentionTotals
  | .tombstone _ _ => totals
  | .delete table taskIds =>
    { totals with
      deleted :=
        Function.update totals.deleted table
          (totals.deleted table + rowCount history table taskIds) }

section Enforcement

variable {Result : Type} (lib : HistoryLibrary Result)

/-- The tasks that the online MR table maps. -/
def onlineMrMappedTaskIds (history : TaskHistory) :
    Attempt TaskHistory RetentionTotals TaskError (List String) :=
  match history.onlineMrTable with
  | none => pure []
  | some table => do
    Attempt.execute id
    match table.taskColumn with
    | none => return []
    | some taskIds => do
      Attempt.execute id
      return taskIds.filter (· ≠ "")

/-- A sealed result, when its blob was answered. -/
def readResult (blobs : String → Option String) (row : ResultRow) (answered : Bool) :
    Option (VerifiedResult Result) :=
  if row.blobReady then
    if answered then
      ((readBlob lib.format blobs (firstOf row.contentSha256 row.sha256) row.byteSize).bind
        (verifyTaskResultRow lib.format row)).toOption
    else none
  else (verifyTaskResultRow lib.format row row.canonicalJson).toOption

/-- The loop over the results: a blob is read where a row has one. -/
def readResults (blobs : String → Option String) :
    List ResultRow → Attempt TaskHistory RetentionTotals TaskError (ResultAuthority Result)
  | [] => pure []
  | row :: rest => do
    if row.resultId = "" then readResults blobs rest
    else
      let answered ← if row.blobReady then Attempt.tryQuery else pure true
      let authority ← readResults blobs rest
      return (row.resultId, readResult lib blobs row answered) :: authority

/-- The results of all tasks, read back. -/
def taskResultAuthorityById (history : TaskHistory) :
    Attempt TaskHistory RetentionTotals TaskError (ResultAuthority Result) := do
  Attempt.execute id
  Attempt.execute id
  readResults lib history.blobs history.results

/-- The statements that delete, each with its count. -/
def performWrites : List RetentionWrite → Attempt TaskHistory RetentionTotals TaskError Unit
  | [] => pure ()
  | write :: rest => do
    let history ← Attempt.readDatabase
    Attempt.execute write.apply
    Attempt.modifyTotals fun totals => totals.countWrite history write
    performWrites rest

/-- The rows with what protects them. -/
def protectRows (onlineMrTaskIds : List String) (authority : ResultAuthority Result)
    (rows : List HistoryRow) : Except TaskError (List (HistoryRow × Option TerminalProtection)) :=
  rows.mapM fun row =>
    (terminalRetentionProtection lib onlineMrTaskIds authority row).map fun protection =>
      (row, protection)

/-- The finished tasks without protection. -/
def ordinaryTasks (rows : List (HistoryRow × Option TerminalProtection)) : List HistoryRow :=
  (rows.filter fun entry => entry.2 = none ∧ lib.upper entry.1.status ∈ terminalValues).map
    Prod.fst

/-- The ordinary tasks by scope. -/
def ordinaryByScope (rows : List (HistoryRow × Option TerminalProtection)) :
    List (HistoryScope × List HistoryRow) :=
  groupItems taskHistoryScope (ordinaryTasks lib rows)

/-- The closure after the rows are read. -/
def enforceOn (retiredAt : String) (rows : List (HistoryRow × Option TerminalProtection)) :
    Attempt TaskHistory RetentionTotals TaskError Unit := do
  let scopes := ordinaryByScope lib rows
  Attempt.modifyTotals fun totals =>
    { (rows.filterMap Prod.snd).foldl RetentionTotals.countProtected totals with
      scopes := scopes.length, retainedTerminal := (retainedTasks scopes).dedup.length }
  if deletedTasks scopes = [] then Attempt.execute id
  else
    performWrites (retentionWrites retiredAt (deletedTasks scopes))
    Attempt.modifyTotals fun totals => { totals with deletedTaskIds := deletedTasks scopes }
    Attempt.execute id

/-- The closure of `enforce_terminal_history_retention`. -/
def retentionAttempt (retiredAt : String) :
    Attempt TaskHistory RetentionTotals TaskError Unit := do
  Attempt.execute id
  Attempt.execute id
  let history ← Attempt.readDatabase
  let onlineMrTaskIds ← onlineMrMappedTaskIds history
  let authority ← taskResultAuthorityById lib history
  Attempt.execute id
  let rows ← Attempt.ofExcept (protectRows lib onlineMrTaskIds authority
    (newestFirst HistoryRow.retentionOrder history.snapshots))
  enforceOn lib retiredAt rows

/-- `enforce_terminal_history_retention`, with the locks that its attempts meet; its summary has the
limit per scope besides the totals. -/
def enforceTerminalHistoryRetention (retiredAt : String) (locks : List (List Bool))
    (history : TaskHistory) : Except (AttemptFailure TaskError) (TaskHistory × RetentionTotals) :=
  (retentionAttempt lib retiredAt).retry 5 locks history .zero

end Enforcement

/-! ## Reading under locks -/

section Reading

variable {Result : Type} {lib : HistoryLibrary Result}

/-- The statements that ask for the tasks of Online MR. -/
def onlineMrStatements (history : TaskHistory) : Nat :=
  match history.onlineMrTable with
  | none => 0
  | some table => if table.taskColumn.isSome then 2 else 1

/-- The tasks of Online MR. -/
def mappedTasks (history : TaskHistory) : List String :=
  (((history.onlineMrTable.bind OnlineMrTable.taskColumn).getD []).filter (· ≠ ""))

/-- The number of blobs that are read. -/
def blobReads (results : List ResultRow) : Nat :=
  results.countP fun row => row.resultId ≠ "" && row.blobReady

/-- What is read of the results when blobs meet locks. -/
def resultsUnder (lib : HistoryLibrary Result) (blobs : String → Option String) :
    List ResultRow → List Bool → ResultAuthority Result
  | [], _ => []
  | row :: rest, locks =>
    if row.resultId = "" then resultsUnder lib blobs rest locks
    else if row.blobReady then
      (row.resultId, readResult lib blobs row (locks.head? != some true)) ::
        resultsUnder lib blobs rest locks.tail
    else (row.resultId, readResult lib blobs row true) :: resultsUnder lib blobs rest locks

variable {totals : RetentionTotals} {database : TaskHistory} {locks : List Bool}

theorem run_onlineMrMappedTaskIds {history : TaskHistory}
    {next : List String → Attempt TaskHistory RetentionTotals TaskError Unit} :
    (onlineMrMappedTaskIds history >>= next).run database totals locks =
      if true ∈ locks.take (onlineMrStatements history) then (.error .locked, totals)
      else (next (mappedTasks history)).run database totals
        (locks.drop (onlineMrStatements history)) := by
  unfold onlineMrMappedTaskIds onlineMrStatements mappedTasks
  cases history.onlineMrTable with
  | none => rfl
  | some table =>
    obtain ⟨column⟩ := table
    cases column with
    | none =>
      rw [bind_assoc, Attempt.run_execute]
      rfl
    | some taskIds =>
      simp only [bind_assoc, Attempt.run_execute, Option.isSome_some, if_true]
      simp only [@Attempt.mem_take_add _ _ _ 1 1, ite_or, drop_drop]
      rfl

theorem run_readResults {blobs : String → Option String} {results : List ResultRow}
    {next : ResultAuthority Result → Attempt TaskHistory RetentionTotals TaskError Unit} :
    (readResults lib blobs results >>= next).run database totals locks =
      (next (resultsUnder lib blobs results locks)).run database totals
        (locks.drop (blobReads results)) := by
  induction results generalizing locks next with
  | nil => rfl
  | cons row rest ih =>
    rw [readResults, resultsUnder]
    by_cases unnamed : row.resultId = ""
    · rw [if_pos unnamed, if_pos unnamed, ih]
      unfold blobReads
      rw [countP_cons_of_neg (by simp [unnamed])]
    · rw [if_neg unnamed, if_neg unnamed]
      cases ready : row.blobReady with
      | false =>
        simp only [Bool.false_eq_true, if_false, pure_bind, bind_assoc]
        rw [ih]
        unfold blobReads
        rw [countP_cons_of_neg (by simp [ready])]
      | true =>
        simp only [if_true, pure_bind, bind_assoc]
        rw [Attempt.run_tryQuery, ih]
        unfold blobReads
        rw [countP_cons_of_pos (by simp [ready, unnamed]), drop_tail]

end Reading

/-! ## Deleting under locks -/

/-- The rows that a statement removes. -/
def RetentionWrite.removes (history : TaskHistory) : RetentionWrite → Nat
  | .tombstone _ _ => 0
  | .delete table taskIds => rowCount history table taskIds

/-- The totals after some statements. -/
def countWrites (totals : RetentionTotals) : TaskHistory → List RetentionWrite → RetentionTotals
  | _, [] => totals
  | history, write :: rest =>
    countWrites (totals.countWrite history write) (write.apply history) rest

/-- The rows that some statements remove. -/
def removedRows : TaskHistory → List RetentionWrite → Nat
  | _, [] => 0
  | history, write :: rest => write.removes history + removedRows (write.apply history) rest

/-- What was counted, in tasks and rows. -/
def RetentionTotals.size (totals : RetentionTotals) : Nat :=
  totals.deleted .taskResults + totals.deleted .taskEvents + totals.deleted .taskSnapshots +
    (totals.protectedTasks .active + totals.protectedTasks .onlineMrMapping +
      totals.protectedTasks .longTermReference + totals.protectedTasks .unreadableMetadata)

variable (totals : RetentionTotals)
include totals

theorem RetentionTotals.size_countProtected (protection : TerminalProtection) :
    (totals.countProtected protection).size = totals.size + 1 := by
  cases protection <;> simp [countProtected, size] <;> omega

theorem RetentionTotals.size_countWrite (history : TaskHistory) (write : RetentionWrite) :
    (totals.countWrite history write).size = totals.size + write.removes history := by
  cases write with
  | tombstone taskId retiredAt => rfl
  | delete table taskIds =>
    cases table <;> simp [countWrite, size, RetentionWrite.removes] <;> omega

theorem RetentionTotals.size_foldl_countProtected (protections : List TerminalProtection) :
    (protections.foldl countProtected totals).size = totals.size + protections.length := by
  induction protections generalizing totals with
  | nil => rfl
  | cons protection rest ih =>
    rw [foldl_cons, ih, size_countProtected, length_cons]
    omega

theorem size_countWrites (history : TaskHistory) (writes : List RetentionWrite) :
    (countWrites totals history writes).size = totals.size + removedRows history writes := by
  induction writes generalizing totals history with
  | nil => rfl
  | cons write rest ih =>
    rw [countWrites, removedRows, ih, RetentionTotals.size_countWrite, Nat.add_assoc]

omit totals

variable {history : TaskHistory} {totals : RetentionTotals} {write : RetentionWrite}

/-- A statement that removes no row changes no count. -/
theorem RetentionTotals.countWrite_of_removes (none : write.removes history = 0) :
    totals.countWrite history write = totals := by
  cases write with
  | tombstone taskId retiredAt => rfl
  | delete table taskIds =>
    have none : rowCount history table taskIds = 0 := none
    simp only [countWrite, none, Nat.add_zero, Function.update_eq_self]

/-- A statement that removes no row leaves all rows to the others. -/
theorem RetentionWrite.removes_apply (none : write.removes history = 0) (other : RetentionWrite) :
    other.removes (write.apply history) = other.removes history := by
  cases other with
  | tombstone taskId retiredAt => rfl
  | delete otherTable otherIds =>
    cases write with
    | tombstone taskId retiredAt => cases otherTable <;> rfl
    | delete table taskIds =>
      cases table <;> cases otherTable <;> try rfl
      all_goals
        simp only [removes, rowCount, apply, countP_eq_zero] at none ⊢
        rw [filter_eq_self.mpr fun row mem => by simpa using none row mem]

variable {writes : List RetentionWrite}

theorem removedRows_eq_zero :
    removedRows history writes = 0 ↔ ∀ write ∈ writes, write.removes history = 0 := by
  induction writes generalizing history with
  | nil => simp [removedRows]
  | cons write rest ih =>
    rw [removedRows, Nat.add_eq_zero_iff, forall_mem_cons]
    refine and_congr_right fun none => ?_
    rw [ih]
    simp only [RetentionWrite.removes_apply none]

theorem countWrites_of_removedRows (none : removedRows history writes = 0) :
    countWrites totals history writes = totals := by
  induction writes generalizing history with
  | nil => rfl
  | cons write rest ih =>
    rw [removedRows, Nat.add_eq_zero_iff] at none
    rw [countWrites, RetentionTotals.countWrite_of_removes none.1]
    exact ih none.2

theorem run_performWrites {locks : List Bool}
    {next : Unit → Attempt TaskHistory RetentionTotals TaskError Unit} :
    (performWrites writes >>= next).run history totals locks =
      if true ∈ locks.take writes.length then
        (.error .locked, countWrites totals history (Attempt.beforeLock writes locks))
      else (next ()).run (writes.foldl RetentionWrite.apply history)
        (countWrites totals history writes) (locks.drop writes.length) := by
  induction writes generalizing history totals locks with
  | nil => rfl
  | cons write rest ih =>
    rw [performWrites]
    simp only [bind_assoc]
    rw [Attempt.run_readDatabase, Attempt.run_execute, Attempt.run_modifyTotals, ih,
      length_cons, Nat.add_comm rest.length, foldl_cons, Attempt.beforeLock]
    simp only [Attempt.mem_take_add, ite_or, drop_drop]
    by_cases here : true ∈ locks.take 1
    · simp only [here, if_true]
      rfl
    · simp only [here, if_false]
      rfl

/-! ## A run of the closure -/

section Runs

variable {Result : Type} {lib : HistoryLibrary Result} {retiredAt : String}

/-- The totals once the rows are protected or in scopes. -/
def RetentionTotals.protecting (totals : RetentionTotals)
    (scopes : List (HistoryScope × List HistoryRow))
    (rows : List (HistoryRow × Option TerminalProtection)) : RetentionTotals :=
  { (rows.filterMap Prod.snd).foldl RetentionTotals.countProtected totals with
    scopes := scopes.length, retainedTerminal := (retainedTasks scopes).dedup.length }

/-- The totals after a whole run. -/
def RetentionTotals.enforced (totals : RetentionTotals) (history : TaskHistory) (retiredAt : String)
    (scopes : List (HistoryScope × List HistoryRow))
    (rows : List (HistoryRow × Option TerminalProtection)) : RetentionTotals :=
  if deletedTasks scopes = [] then totals.protecting scopes rows
  else
    { countWrites (totals.protecting scopes rows) history
        (retentionWrites retiredAt (deletedTasks scopes)) with
      deletedTaskIds := deletedTasks scopes }

/-- The database after a whole run. -/
def enforcedHistory (history : TaskHistory) (retiredAt : String) (deleteIds : List String) :
    TaskHistory :=
  (retentionWrites retiredAt deleteIds).foldl RetentionWrite.apply history

variable {locks : List Bool} {totals : RetentionTotals} {history : TaskHistory}

theorem run_enforceOn {rows : List (HistoryRow × Option TerminalProtection)} :
    (enforceOn lib retiredAt rows).run history totals locks =
      let scopes := ordinaryByScope lib rows
      let writes := retentionWrites retiredAt (deletedTasks scopes)
      if true ∈ locks.take writes.length then
        (.error .locked, countWrites (totals.protecting scopes rows) history
          (Attempt.beforeLock writes locks))
      else if true ∈ (locks.drop writes.length).take 1 then
        (.error .locked, totals.enforced history retiredAt scopes rows)
      else (.ok (enforcedHistory history retiredAt (deletedTasks scopes)),
        totals.enforced history retiredAt scopes rows) := by
  unfold enforceOn
  rw [Attempt.run_modifyTotals]
  by_cases nothing : deletedTasks (ordinaryByScope lib rows) = []
  · rw [if_pos nothing, Attempt.run_commit]
    simp only [RetentionTotals.enforced, nothing]
    rfl
  · rw [if_neg nothing, run_performWrites, Attempt.run_modifyTotals, Attempt.run_commit]
    simp only [RetentionTotals.enforced, nothing]
    rfl

/-- The statements before the blobs are read, which all raise when they meet a lock. -/
def statementsBefore (history : TaskHistory) : Nat := 2 + onlineMrStatements history + 2

/-- The statements before the snapshots are read. -/
def statementsReading (history : TaskHistory) : Nat :=
  statementsBefore history + blobReads history.results

/-- What protects each row when the attempt meets locks. -/
def protectedUnder (lib : HistoryLibrary Result) (history : TaskHistory) (locks : List Bool) :
    Except TaskError (List (HistoryRow × Option TerminalProtection)) :=
  protectRows lib (mappedTasks history)
    (resultsUnder lib history.blobs history.results (locks.drop (statementsBefore history)))
    (newestFirst HistoryRow.retentionOrder history.snapshots)

/-- Neither the statements before the snapshots nor theirs meet a lock. -/
def SnapshotsRead (history : TaskHistory) (locks : List Bool) : Prop :=
  true ∉ locks.take (statementsBefore history) ∧
    true ∉ (locks.drop (statementsReading history)).take 1

instance (history : TaskHistory) (locks : List Bool) : Decidable (SnapshotsRead history locks) :=
  inferInstanceAs (Decidable (_ ∧ _))

theorem run_retentionAttempt : (retentionAttempt lib retiredAt).run history totals locks =
      if SnapshotsRead history locks then
        match protectedUnder lib history locks with
        | .ok rows => (enforceOn lib retiredAt rows).run history totals
            (locks.drop (statementsReading history + 1))
        | .error error => (.error (.raised error), totals)
      else (.error .locked, totals) := by
  have before : true ∈ locks.take (statementsBefore history) ↔
      true ∈ locks.take 1 ∨ true ∈ (locks.drop 1).take 1 ∨
        true ∈ (locks.drop 2).take (onlineMrStatements history) ∨
        true ∈ (locks.drop (2 + onlineMrStatements history)).take 1 ∨
        true ∈ (locks.drop (2 + onlineMrStatements history + 1)).take 1 := by
    unfold statementsBefore
    rw [Attempt.mem_take_add, Attempt.mem_take_add, @Attempt.mem_take_add _ _ _ 1 1,
      @Attempt.mem_take_add _ _ _ 1 1, drop_drop]
    tauto
  have place : 1 + 1 + onlineMrStatements history + 1 + 1 = statementsBefore history := by
    unfold statementsBefore
    omega
  unfold retentionAttempt taskResultAuthorityById SnapshotsRead
  simp only [bind_assoc]
  rw [Attempt.run_execute, Attempt.run_execute, Attempt.run_readDatabase, run_onlineMrMappedTaskIds,
    Attempt.run_execute, Attempt.run_execute, run_readResults, Attempt.run_execute]
  simp only [drop_drop, id_eq, ← ite_or, ← not_or, ite_not, before, or_assoc, place]
  refine if_congr Iff.rfl rfl ?_
  unfold protectedUnder statementsReading
  cases protectRows _ (mappedTasks history) (resultsUnder _ history.blobs
      history.results (locks.drop (statementsBefore history)))
      (newestFirst HistoryRow.retentionOrder history.snapshots) with
  | ok rows => rfl
  | error error => rfl

variable {authority : ResultAuthority Result} {onlineMrTaskIds : List String}

theorem protection_total {row : HistoryRow} {protection : Option TerminalProtection}
    (told : terminalRetentionProtection lib onlineMrTaskIds authority row = .ok protection)
    (other : ResultAuthority Result) :
    ∃ protection, terminalRetentionProtection lib onlineMrTaskIds other row = .ok protection := by
  unfold terminalRetentionProtection at told ⊢
  by_cases active : lib.upper row.status ∈ activeValues
  · exact ⟨_, if_pos active⟩
  · by_cases mapped : row.taskId ∈ onlineMrTaskIds
    · exact ⟨_, (if_neg active).trans (if_pos mapped)⟩
    · rw [if_neg active, if_neg mapped] at told ⊢
      obtain ⟨readable, read, _⟩ := map_eq_ok.mp told
      exact ⟨_, map_eq_ok.mpr ⟨readable, read, rfl⟩⟩

theorem mem_protectRows {rows : List HistoryRow}
    {entries : List (HistoryRow × Option TerminalProtection)}
    (read : protectRows lib onlineMrTaskIds authority rows = .ok entries)
    {entry : HistoryRow × Option TerminalProtection} (mem : entry ∈ entries) : entry.1 ∈ rows ∧
      terminalRetentionProtection lib onlineMrTaskIds authority entry.1 = .ok entry.2 := by
  obtain ⟨_, listed, same⟩ := exists_mem_of_mapM read mem
  obtain ⟨protection, told, rfl⟩ := map_eq_ok.mp same
  exact ⟨listed, told⟩

theorem removedRows_retentionWrites {deleteIds : List String}
    (stored : ∀ taskId ∈ deleteIds, ∃ row ∈ history.snapshots, row.taskId = taskId)
    (none : removedRows history (retentionWrites retiredAt deleteIds) = 0) : deleteIds = [] := by
  rw [eq_nil_iff_forall_not_mem]
  intro taskId mem
  obtain ⟨row, listed, same⟩ := stored taskId mem
  obtain ⟨chunk, cut, inside⟩ := (@exists_chunk_iff 500 (by decide) _ _).mpr mem
  have write : RetentionWrite.delete .taskSnapshots chunk ∈ retentionWrites retiredAt deleteIds :=
    mem_append_right _ (mem_flatMap.mpr ⟨chunk, cut, by simp⟩)
  have zero := removedRows_eq_zero.mp none _ write
  simp only [RetentionWrite.removes, rowCount, countP_eq_zero] at zero
  exact zero row listed (decide_eq_true (same ▸ inside))

/-- The totals that failed attempts can change for the last one: the others are assigned anew. -/
def RetentionTotals.shared (totals : RetentionTotals) : RetentionTotals :=
  { totals with
    scopes := 0, retainedTerminal := 0 }

/-- What a failed attempt counts. -/
def retentionAdded (lib : HistoryLibrary Result) (retiredAt : String) (history : TaskHistory)
    (locks : List Bool) : Nat :=
  if SnapshotsRead history locks then
    match protectedUnder lib history locks with
    | .ok rows => (rows.filterMap Prod.snd).length + removedRows history
        (Attempt.beforeLock (retentionWrites retiredAt
          (deletedTasks (ordinaryByScope lib rows)))
          (locks.drop (statementsReading history + 1)))
    | .error _ => 0
  else 0

variable {history : TaskHistory} {rows : List (HistoryRow × Option TerminalProtection)}

theorem size_protecting (totals : RetentionTotals)
    (scopes : List (HistoryScope × List HistoryRow)) :
    (totals.protecting scopes rows).size = totals.size + (rows.filterMap Prod.snd).length :=
  totals.size_foldl_countProtected _

theorem size_enforced (totals : RetentionTotals) (scopes : List (HistoryScope × List HistoryRow)) :
    (totals.enforced history retiredAt scopes rows).size =
      totals.size + ((rows.filterMap Prod.snd).length +
        removedRows history (retentionWrites retiredAt (deletedTasks scopes))) := by
  unfold RetentionTotals.enforced
  split
  · next nothing =>
    rw [nothing]
    exact size_protecting _ scopes
  · rw [← Nat.add_assoc, ← size_protecting _ scopes, ← size_countWrites]
    rfl

theorem beforeLock_of_free {δ : Type} {statements : List δ}
    (free : true ∉ locks.take statements.length) :
    Attempt.beforeLock statements locks = statements := by
  induction statements generalizing locks with
  | nil => rfl
  | cons statement rest ih =>
    rw [length_cons, Nat.add_comm, Attempt.mem_take_add, not_or] at free
    rw [Attempt.beforeLock, if_neg free.1, ih free.2]

/-- The variables of the caller after an attempt that reads the snapshots. -/
theorem run_enforceOn_totals : ((enforceOn lib retiredAt rows).run history totals locks).2 =
      if true ∈ locks.take
          (retentionWrites retiredAt (deletedTasks (ordinaryByScope lib rows))).length then
        countWrites (totals.protecting (ordinaryByScope lib rows) rows) history
          (Attempt.beforeLock
            (retentionWrites retiredAt (deletedTasks (ordinaryByScope lib rows))) locks)
      else totals.enforced history retiredAt (ordinaryByScope lib rows) rows := by
  rw [run_enforceOn]
  simp only [apply_ite Prod.snd, ite_self]

theorem stored_of_protectedUnder (read : protectedUnder lib history locks = .ok rows) :
    ∀ taskId ∈ deletedTasks (ordinaryByScope lib rows),
      ∃ row ∈ history.snapshots, row.taskId = taskId := by
  intro taskId mem
  obtain ⟨row, candidate, same⟩ := exists_of_mem_deletedTasks mem
  obtain ⟨entry, listed, rfl⟩ := mem_map.mp candidate
  have stored := (mem_protectRows read (mem_of_mem_filter listed)).1
  exact ⟨entry.1, (mem_newestFirst _).mp stored, same⟩

theorem shared_protecting {scopes : List (HistoryScope × List HistoryRow)}
    (none : rows.filterMap Prod.snd = []) :
    (totals.protecting scopes rows).shared = totals.shared := by
  unfold RetentionTotals.protecting RetentionTotals.shared
  rw [none]
  rfl

theorem retention_counts :
    Attempt.Counts (retentionAttempt lib retiredAt) history RetentionTotals.shared
      RetentionTotals.size (retentionAdded lib retiredAt history) where
  adds totals locks := by
    show RetentionTotals.size _ = totals.size + _
    rw [run_retentionAttempt]
    unfold retentionAdded
    by_cases early : SnapshotsRead history locks
    · rw [if_pos early, if_pos early]
      cases read : protectedUnder lib history locks with
      | error raised => rfl
      | ok rows =>
        show ((enforceOn _ retiredAt rows).run history _ _).2.size = totals.size +
          ((rows.filterMap Prod.snd).length + removedRows history (Attempt.beforeLock _ _))
        rw [run_enforceOn_totals]
        split
        · rw [size_countWrites, size_protecting, Nat.add_assoc]
        · next free => rw [size_enforced, beforeLock_of_free free]
    · rw [if_neg early, if_neg early]
      rfl
  keeps totals locks none := by
    rw [run_retentionAttempt]
    unfold retentionAdded at none
    by_cases early : SnapshotsRead history locks
    · rw [if_pos early] at none ⊢
      cases read : protectedUnder lib history locks with
      | error raised => rfl
      | ok rows =>
        simp only [read, Nat.add_eq_zero_iff, length_eq_zero_iff] at none
        obtain ⟨unprotected, kept⟩ := none
        show ((enforceOn lib retiredAt rows).run history totals _).2.shared = totals.shared
        rw [run_enforceOn_totals]
        split
        · rw [countWrites_of_removedRows kept, shared_protecting unprotected]
        · next free =>
          rw [beforeLock_of_free free] at kept
          have nothing := removedRows_retentionWrites (stored_of_protectedUnder read) kept
          rw [RetentionTotals.enforced, if_pos nothing, shared_protecting unprotected]
    · rw [if_neg early]

/-- An attempt that meets no lock. -/
theorem run_retentionAttempt_free (read : protectedUnder lib history [] = .ok rows)
    (totals : RetentionTotals) : (retentionAttempt lib retiredAt).run history totals [] =
      (.ok (enforcedHistory history retiredAt (deletedTasks (ordinaryByScope lib rows))),
        totals.enforced history retiredAt (ordinaryByScope lib rows) rows) := by
  have early : SnapshotsRead history [] := by simp [SnapshotsRead]
  rw [run_retentionAttempt, if_pos early, read]
  simp only [drop_nil, run_enforceOn, take_nil, not_mem_nil, if_false]

theorem shared_foldl_countProtected (totals : RetentionTotals)
    (protections : List TerminalProtection) :
    (protections.foldl RetentionTotals.countProtected totals).shared =
      protections.foldl RetentionTotals.countProtected totals.shared := by
  induction protections generalizing totals with
  | nil => rfl
  | cons protection rest ih => exact ih (totals.countProtected protection)

/-- Of the variables that the last attempt finds, the shared ones matter. -/
theorem protecting_shared (totals : RetentionTotals)
    (scopes : List (HistoryScope × List HistoryRow)) :
    totals.protecting scopes rows = totals.shared.protecting scopes rows := by
  unfold RetentionTotals.protecting
  rw [← shared_foldl_countProtected]
  rfl

theorem enforced_shared {totals others : RetentionTotals} (same : totals.shared = others.shared)
    (scopes : List (HistoryScope × List HistoryRow)) :
    totals.enforced history retiredAt scopes rows = others.enforced history
      retiredAt scopes rows := by
  unfold RetentionTotals.enforced
  rw [protecting_shared _, protecting_shared others, same]

/-- The tasks that are deleted when no task is protected. -/
def oldTasks (lib : HistoryLibrary Result) (history : TaskHistory) : List String :=
  deletedTasks (groupItems taskHistoryScope
    ((newestFirst HistoryRow.retentionOrder history.snapshots).filter fun row =>
      lib.upper row.status ∈ terminalValues))

/-- A failed attempt left the variables that matter alone: it found the database locked before the
snapshots were read, or no task is protected and no row was deleted before the lock. -/
def RetentionCountsNothing (lib : HistoryLibrary Result) (retiredAt : String)
    (history : TaskHistory) (locks : List Bool) : Prop :=
  ¬ SnapshotsRead history locks ∨
    (∀ row ∈ history.snapshots, terminalRetentionProtection lib (mappedTasks history)
      (resultsUnder lib history.blobs history.results (locks.drop (statementsBefore history)))
      row = .ok none) ∧
    ∀ write ∈ Attempt.beforeLock (retentionWrites retiredAt (oldTasks lib history))
      (locks.drop (statementsReading history + 1)), write.removes history = 0

theorem map_fst_of_protectRows {sorted : List HistoryRow}
    (read : protectRows lib onlineMrTaskIds authority sorted = .ok rows) :
    rows.map Prod.fst = sorted := by
  have each := mapM_eq_ok_iff.mp read
  clear read
  induction each with
  | nil => rfl
  | @cons row entry _ _ here _ ih =>
    obtain ⟨_, _, rfl⟩ := map_eq_ok.mp here
    rw [map_cons, ih]

variable (read : protectedUnder lib history locks = .ok rows)
include read

theorem unprotected_iff : rows.filterMap Prod.snd = [] ↔
      ∀ row ∈ history.snapshots, terminalRetentionProtection lib (mappedTasks history)
        (resultsUnder lib history.blobs history.results
          (locks.drop (statementsBefore history))) row = .ok none := by
  rw [filterMap_eq_nil_iff]
  constructor
  · intro none row stored
    have listed : row ∈ rows.map Prod.fst := by
      rw [map_fst_of_protectRows read]
      exact (mem_newestFirst _).mpr stored
    obtain ⟨entry, mem, rfl⟩ := mem_map.mp listed
    rw [(mem_protectRows read mem).2, none entry mem]
  · intro none entry mem
    obtain ⟨stored, told⟩ := mem_protectRows read mem
    rw [none entry.1 ((mem_newestFirst _).mp stored)] at told
    exact (Except.ok.inj told).symm

/-- When no row is protected, the terminal tasks are the candidates. -/
theorem deletedTasks_of_unprotected (none : rows.filterMap Prod.snd = []) :
    deletedTasks (ordinaryByScope lib rows) = oldTasks lib history := by
  rw [filterMap_eq_nil_iff] at none
  unfold ordinaryByScope oldTasks ordinaryTasks
  rw [← map_fst_of_protectRows read, filter_map]
  congr 3
  exact filter_congr fun entry mem => by simp [none entry mem]

theorem retentionAdded_eq_zero : retentionAdded lib retiredAt history locks = 0 ↔
      RetentionCountsNothing lib retiredAt history locks := by
  unfold retentionAdded RetentionCountsNothing
  by_cases early : SnapshotsRead history locks
  · rw [if_pos early, read, ← unprotected_iff read]
    simp only [early, not_true_eq_false, false_or, Nat.add_eq_zero_iff, length_eq_zero_iff,
      removedRows_eq_zero]
    refine and_congr_right fun none => ?_
    rw [deletedTasks_of_unprotected read none]
  · simp only [early, if_false, not_false_eq_true, true_or]

omit read

theorem protectedUnder_total (read : protectedUnder lib history [] = .ok rows)
    (locks : List Bool) : ∃ rows, protectedUnder lib history locks = .ok rows := by
  apply mapM_total
  intro row stored
  have listed : row ∈ rows.map Prod.fst := by
    rw [map_fst_of_protectRows read]
    exact stored
  obtain ⟨entry, mem, rfl⟩ := mem_map.mp listed
  obtain ⟨protection, told⟩ :=
    protection_total (mem_protectRows read mem).2 (resultsUnder lib
    history.blobs history.results (locks.drop (statementsBefore history)))
  exact ⟨(entry.1, protection), by rw [told]; rfl⟩

/-- A repeated retention deletes what a single one deletes, and tells the same exactly if no failed
attempt counted anything. -/
theorem enforceTerminalHistoryRetention_retried {after : TaskHistory} {summary : RetentionTotals}
    (single : enforceTerminalHistoryRetention lib retiredAt [] history = .ok (after, summary))
    {locks : List (List Bool)} (few : locks.length < 5)
    (fail : (retentionAttempt lib retiredAt).AllFail history .zero locks) :
    ∃ retried, enforceTerminalHistoryRetention lib retiredAt locks history = .ok (after, retried) ∧
      (retried = summary ↔ ∀ met ∈ locks, RetentionCountsNothing lib retiredAt history met) := by
  unfold enforceTerminalHistoryRetention at single ⊢
  cases read : protectedUnder lib history [] with
  | error error =>
    have raised : (retentionAttempt lib retiredAt).run history .zero [] =
        (.error (.raised error), .zero) := by
      have early : SnapshotsRead history [] := by simp [SnapshotsRead]
      rw [run_retentionAttempt, if_pos early, read]
    rw [Attempt.retry_raised raised] at single
    cases single
  | ok rows =>
    have free := @run_retentionAttempt_free Result lib retiredAt history rows read
    rw [Attempt.retry_committed (free .zero)] at single
    cases single
    have counting := @retention_counts Result lib retiredAt history
    refine ⟨_, Attempt.retry_allFail fail few (free _), ?_⟩
    constructor
    · intro same
      have sizes := congrArg RetentionTotals.size same
      rw [size_enforced, size_enforced] at sizes
      have none := (counting.retried_iff .zero locks).mp (Nat.add_right_cancel sizes)
      intro met mem
      obtain ⟨rows, read⟩ := protectedUnder_total read met
      exact (retentionAdded_eq_zero read).mp (none met mem)
    · intro nothing
      refine enforced_shared (counting.counts_leaked .zero fun met mem => ?_) _
      obtain ⟨rows, read⟩ := protectedUnder_total read met
      exact (retentionAdded_eq_zero read).mpr (nothing met mem)

end Runs

/-! ## Retried maintenance -/

/-- Maintenance that is repeated after failed attempts leaves the database of a single run. Its
summary is the one of a single run exactly if no failed attempt counted anything. -/
theorem maintenance_retried_iff {Result : Type} (lib : HistoryLibrary Result)
    (history after : TaskHistory) (locks : List (List Bool)) (few : locks.length < 5) :
    (∀ (request : CleanupRequest) (cleanup : CleanupType) (summary : CleanupSummary),
      cleanupTypeOf lib request.cleanupType = some cleanup →
      cleanupHistory lib request [] history = .ok (after, summary) →
      (cleanupAttempt lib request cleanup).AllFail history .zero locks →
      ∃ retried, cleanupHistory lib request locks history = .ok (after, retried) ∧
        (retried = summary ↔ ∀ met ∈ locks, CleanupCountsNothing lib request cleanup history met)) ∧
    ∀ (retiredAt : String) (summary : RetentionTotals),
      enforceTerminalHistoryRetention lib retiredAt [] history = .ok (after, summary) →
      (retentionAttempt lib retiredAt).AllFail history .zero locks →
      ∃ retried, enforceTerminalHistoryRetention lib retiredAt locks history =
          .ok (after, retried) ∧
        (retried = summary ↔ ∀ met ∈ locks, RetentionCountsNothing lib retiredAt history met) :=
  ⟨fun _ _ _ named single fail => cleanupHistory_retried named single few fail,
    fun _ _ single fail => enforceTerminalHistoryRetention_retried single few fail⟩

/-- The library of dictionaries with two entries. -/
def smallLibrary : HistoryLibrary TaskCenter.SmallResult where
  toRetentionLibrary := newYearLibrary
  format := TaskCenter.smallFormat
  hasWarning _ := false
  hasLongTermResultReference _ := false
  parseList text := if text = "[]" then some [] else none
  utcIso _ := .ok "2026-01-01T00:00:00.000Z"

def completedTask : HistoryRow where
  taskId := "job-1"
  taskType := "web_export_report"
  siteName := "demo"
  status := "COMPLETED"
  finishedTime := "2026-01-01T00:00:00Z"
  updatedTime := "2026-01-01T00:00:00Z"
  errorMessage := ""
  resultJson := ""
  resultId := ""
  resultSummaryJson := ""
  resourceKeysJson := "[]"
  expiresAt := "2026-01-01T00:00:00Z"
  acknowledgedAt := ""
  dismissedAt := ""
  dismissedBy := ""
  dismissReason := ""

/-- A store with a completed and a running task. -/
def twoTasks : TaskHistory where
  snapshots := [completedTask, { completedTask with taskId := "job-2", status := "RUNNING" }]
  distinct := by decide
  events := []
  results := []
  resultsDistinct := .nil
  blobs _ := none
  tombstones := []
  onlineMrTable := none

def cleanCompleted : CleanupRequest where
  cleanupType := "completed"
  includeStates := []
  excludeStates := []
  dismissedBy := ""
  dryRun := false
  timestamp := "2026-06-01T00:00:00Z"
  now := june

/-- An attempt that failed on a locked database. -/
def foundLocked {σ ε : Type} : Except (AttemptFailure ε) σ → Bool
  | .error .locked => true
  | _ => false

theorem eq_of_foundLocked {σ ε : Type} {outcome : Except (AttemptFailure ε) σ}
    (locked : foundLocked outcome = true) : outcome = .error .locked := by
  cases outcome with
  | ok value => cases locked
  | error failure =>
    cases failure with
    | locked => rfl
    | raised error => cases locked

/-- An attempt that finds the database locked at the first `UPDATE`. -/
theorem cleanup_fails : (cleanupAttempt smallLibrary cleanCompleted .completed).AllFail
    twoTasks .zero [[false, false, true]] :=
  ⟨eq_of_foundLocked (by decide +kernel), trivial⟩

/-- An attempt that finds the database locked when it commits. -/
theorem retention_fails :
    (retentionAttempt smallLibrary "2026-06-01T00:00:00Z").AllFail twoTasks .zero
    [[false, false, false, false, false, true]] :=
  ⟨eq_of_foundLocked (by decide +kernel), trivial⟩

/-- The failed attempt has matched the completed task, which the next one matches again; and it has
counted the running task as protected. -/
theorem not_maintenance_retried :
    (¬ ∀ (locks : List (List Bool)) (after : TaskHistory) (summary : CleanupSummary),
      cleanupHistory smallLibrary cleanCompleted [] twoTasks = .ok (after, summary) →
      locks.length < 5 →
      (cleanupAttempt smallLibrary cleanCompleted .completed).AllFail twoTasks .zero locks →
      cleanupHistory smallLibrary cleanCompleted locks twoTasks = .ok (after, summary)) ∧
    ¬ ∀ (locks : List (List Bool)) (after : TaskHistory) (summary : RetentionTotals),
      enforceTerminalHistoryRetention smallLibrary "2026-06-01T00:00:00Z" [] twoTasks =
        .ok (after, summary) →
      locks.length < 5 →
      (retentionAttempt smallLibrary "2026-06-01T00:00:00Z").AllFail twoTasks .zero locks →
      enforceTerminalHistoryRetention smallLibrary "2026-06-01T00:00:00Z" locks twoTasks =
        .ok (after, summary) := by
  constructor
  · intro transparent
    obtain ⟨outcome, single, once⟩ : ∃ outcome,
        (cleanupHistory smallLibrary cleanCompleted [] twoTasks).toOption = some outcome ∧
          outcome.2.matched = 1 := Option.map_eq_some_iff.mp (by decide +kernel)
    have twice : ((cleanupHistory smallLibrary cleanCompleted [[false, false, true]]
        twoTasks).toOption.map fun outcome => outcome.2.matched) = some 2 := by decide +kernel
    rw [transparent _ _ _ (toOption_eq_some.mp single) (by decide) cleanup_fails] at twice
    exact absurd (once.symm.trans (Option.some.inj twice)) (by decide)
  · intro transparent
    obtain ⟨outcome, single, once⟩ : ∃ outcome,
        (enforceTerminalHistoryRetention smallLibrary "2026-06-01T00:00:00Z" []
          twoTasks).toOption = some outcome ∧ outcome.2.protectedTasks .active = 1 :=
      Option.map_eq_some_iff.mp (by decide +kernel)
    have twice : ((enforceTerminalHistoryRetention smallLibrary "2026-06-01T00:00:00Z"
        [[false, false, false, false, false, true]] twoTasks).toOption.map
          fun outcome => outcome.2.protectedTasks .active) = some 2 := by
      decide +kernel
    rw [transparent _ _ _ (toOption_eq_some.mp single) (by decide) retention_fails] at twice
    exact absurd (once.symm.trans (Option.some.inj twice)) (by decide)

/-- An attempt that cannot begin leaves nothing behind. -/
theorem maintenance_retried_twoTasks : ∃ after summary,
      cleanupHistory smallLibrary cleanCompleted [] twoTasks = .ok (after, summary) ∧
      cleanupHistory smallLibrary cleanCompleted [[true]] twoTasks = .ok (after, summary) := by
  obtain ⟨⟨after, summary⟩, single⟩ : ∃ outcome,
      (cleanupHistory smallLibrary cleanCompleted [] twoTasks).toOption = some outcome :=
    Option.isSome_iff_exists.mp (by decide +kernel)
  rw [toOption_eq_some] at single
  obtain ⟨_, again, same⟩ := (maintenance_retried_iff smallLibrary twoTasks after [[true]]
    (by decide)).1 cleanCompleted .completed summary (by decide +kernel) single
    ⟨eq_of_foundLocked (by decide +kernel), trivial⟩
  have early : ∀ met ∈ [[true]],
      CleanupCountsNothing smallLibrary cleanCompleted .completed twoTasks met := by
    intro met mem
    rw [mem_singleton.mp mem]
    exact .inl (by decide)
  rw [same.mpr early] at again
  exact ⟨after, summary, single, again⟩

end NetConsole.TaskRetention
