import NetConsole.Foundations.RetriedAttempts
import NetConsole.TaskRetention.TypedPlan

/-!
# The cleanup of the task history

`cleanup_history` dismisses the tasks that a request matches. What it matches and what it leaves out
is counted in variables outside the closure that `run_sqlite_with_retry` repeats, so an attempt
counts on where the failed ones stopped. The database is the one of a single run; the summary is
exactly if no failed attempt had read a row that counts (`cleanupHistory_retried`).

A text is compared as SQLite does, by its characters.
-/

set_option autoImplicit false

namespace NetConsole.TaskRetention

open Foundations List
open Syslog (firstOf)
open TaskCenter (ResultFormat ResultRow TaskError TaskState stripped)

/-! ## The task store -/

/-- The columns of `task_snapshots` that maintenance reads or writes. -/
structure HistoryRow where
  (taskId taskType siteName status finishedTime updatedTime errorMessage resultJson resultId
    resultSummaryJson resourceKeysJson expiresAt acknowledgedAt dismissedAt dismissedBy : String)
  dismissReason : String
  deriving DecidableEq

/-- A row of `task_retention_tombstones`. -/
structure Tombstone where
  (taskId retiredAt reason : String)
  deriving DecidableEq

/-- The table `online_mr_task_sessions`, with its task column if it has one. -/
structure OnlineMrTable where
  taskColumn : Option (List String)

/-- A task store; its tables are created when it is opened. -/
structure TaskHistory where
  snapshots : List HistoryRow
  distinct : (snapshots.map HistoryRow.taskId).Nodup
  events : List EventRow
  results : List ResultRow
  resultsDistinct : (results.map ResultRow.resultId).Nodup
  blobs : String → Option String
  tombstones : List Tombstone
  onlineMrTable : Option OnlineMrTable

/-- What is read of dictionaries, and what the standard library computes. -/
structure HistoryLibrary (Result : Type) extends RetentionLibrary where
  format : ResultFormat Result
  /-- `business_result_has_warning`. -/
  hasWarning : Result → Bool
  hasLongTermResultReference : Result → Bool
  /-- `json.loads`, when it gives a list: each item as `str(value or "")`. -/
  parseList : String → Option (List String)
  /-- `_utc_iso`; a time outside the calendar raises. -/
  utcIso : Int → Except TaskError String

/-- The states of tasks that are not finished. -/
def activeValues : List String := TaskState.activeStates.map TaskState.text

/-- The states of finished tasks. -/
def terminalValues : List String := [TaskState.completed, .failed, .cancelled].map TaskState.text

/-! ## The history policy -/

section Policy

variable {Result : Type} (lib : HistoryLibrary Result)

/-- Someone has to acknowledge the task. -/
def taskRequiresAttention (status errorMessage : String) (result : Result) : Bool :=
  let value := lib.upper status
  value = TaskState.failed.text || (value = TaskState.completed.text &&
      (stripped errorMessage ≠ "" || lib.hasWarning result))

/-- When a finished task expires. -/
def taskExpiresAt (status finishedTime updatedTime errorMessage : String) (result : Result) :
    Except TaskError String := do
  if lib.upper status ∉ terminalValues then return ""
  match ← parseDatetime lib.toRetentionLibrary (firstOf finishedTime updatedTime) with
  | none => return ""
  | some finished =>
    lib.utcIso (finished + days
      (if taskRequiresAttention lib status errorMessage result then 30 else 7))

/-- The time has come. -/
def utcTimeReached (now : Int) (value : String) : Except TaskError Bool :=
  (parseDatetime lib.toRetentionLibrary value).map fun target =>
    target.any fun target => target ≤ now

/-- The object that a text holds; the empty one where it holds none. -/
def jsonObject (value : String) : Result :=
  (lib.format.parse (firstOf value "\x7b\x7d")).getD lib.format.empty

/-- `_policy_result` of a row that was selected without its `result_id`. -/
def policyResult (row : HistoryRow) : Result :=
  lib.format.merge (jsonObject lib row.resultJson)
    (jsonObject lib row.resultSummaryJson)

end Policy

/-! ## Requests -/

/-- The types of a cleanup. -/
inductive CleanupType where
  | completed | cancelled | expired | completedAndExpired | resolvedAlerts | allHistory
  deriving DecidableEq

def CleanupType.text : CleanupType → String
  | completed => "completed"
  | cancelled => "cancelled"
  | expired => "expired"
  | completedAndExpired => "completed_and_expired"
  | resolvedAlerts => "resolved_alerts"
  | allHistory => "all_history"

/-- The arguments of `cleanup_history`, with the time of the call. -/
structure CleanupRequest where
  cleanupType : String
  (includeStates excludeStates : List String)
  dismissedBy : String
  dryRun : Bool
  /-- `dismissed_at or utc_now_iso()`. -/
  timestamp : String
  now : Int

/-- The keys of `counts`. -/
inductive Category where
  | completed | cancelled | expired | alerts
  deriving DecidableEq

/-- The variables that the closure of `cleanup_history` shares with its caller. -/
structure CleanupTotals where
  matchedIds : List String
  (skippedActive skippedUnacknowledged : Nat)
  counts : Category → Nat

def CleanupTotals.zero : CleanupTotals where
  matchedIds := []
  skippedActive := 0
  skippedUnacknowledged := 0
  counts _ := 0

/-- What becomes of a row. -/
inductive Verdict where
  | matched (category : Category)
  | skippedActive | skippedUnacknowledged | ignored
  deriving DecidableEq

/-- A row is counted by its verdict. -/
def CleanupTotals.count (totals : CleanupTotals) (taskId : String) : Verdict → CleanupTotals
  | .matched category =>
    { totals with
      matchedIds := totals.matchedIds ++ [taskId]
      counts := Function.update totals.counts category (totals.counts category + 1) }
  | .skippedActive => { totals with skippedActive := totals.skippedActive + 1 }
  | .skippedUnacknowledged =>
    { totals with skippedUnacknowledged := totals.skippedUnacknowledged + 1 }
  | .ignored => totals

/-! ## The operation -/

section Cleanup

variable {Result : Type} (lib : HistoryLibrary Result)

/-- The states that an argument names. -/
def stateNames (values : List String) : List String :=
  ((values.map stripped).filter (· ≠ "")).map lib.upper

/-- The category under which a terminal task is matched, if it is eligible. -/
def eligibleCategory (cleanup : CleanupType) (status : String)
    (attention acknowledged expired : Bool) : Option Category :=
  match cleanup with
  | .completed => if status = TaskState.completed.text && !attention then some .completed else none
  | .cancelled => if status = TaskState.cancelled.text then some .cancelled else none
  | .expired => if expired && (!attention || acknowledged) then some .expired else none
  | .completedAndExpired =>
    if status = TaskState.completed.text && !attention then some .completed
    else if status = TaskState.cancelled.text then some .cancelled
    else if expired && attention && acknowledged then some .expired
    else none
  | .resolvedAlerts => if attention && acknowledged then some .alerts else none
  | .allHistory =>
    if !attention || acknowledged then
      some (if attention then .alerts
        else if status = TaskState.cancelled.text then .cancelled
        else .completed)
    else none

/-- Whether a task that needs attention is counted as left out. -/
def leavesOut (cleanup : CleanupType) (attention acknowledged expired : Bool) : Bool :=
  attention && !acknowledged && (cleanup ∈ [.resolvedAlerts, .allHistory] ||
      (cleanup ∈ [.expired, .completedAndExpired] && expired))

/-- The body of the loop over the rows. -/
def verdict (request : CleanupRequest) (cleanup : CleanupType) (row : HistoryRow) :
    Except TaskError Verdict := do
  let included := stateNames lib request.includeStates
  let status := lib.upper row.status
  if status ∈ activeValues then
    return if status ∈ included then .skippedActive else .ignored
  if status ∉ terminalValues then return .ignored
  if included ≠ [] ∧ status ∉ included then return .ignored
  if status ∈ stateNames lib request.excludeStates then return .ignored
  let result := policyResult lib row
  let attention := taskRequiresAttention lib status row.errorMessage result
  let acknowledged := row.acknowledgedAt ≠ ""
  let expiresAt ← if row.expiresAt ≠ "" then pure row.expiresAt else
    taskExpiresAt lib status row.finishedTime row.updatedTime row.errorMessage result
  let expired ← utcTimeReached lib request.now expiresAt
  match eligibleCategory cleanup status attention acknowledged expired with
  | some category => return .matched category
  | none =>
    return if leavesOut cleanup attention acknowledged expired then .skippedUnacknowledged
      else .ignored

def HistoryRow.age (row : HistoryRow) : List Char ×ₗ List Char :=
  toLex (row.updatedTime.toList, row.taskId.toList)

/-- The rows that are not dismissed, the latest first. -/
def visibleRows (history : TaskHistory) : List HistoryRow :=
  newestFirst HistoryRow.age (history.snapshots.filter fun row => row.dismissedAt = "")

/-- The slices of `range(0, len(ids), size)`. -/
def chunks (size : Nat) (ids : List String) : List (List String) :=
  (List.range ((ids.length + size - 1) / size)).map fun index =>
    (ids.drop (index * size)).take size

/-- The row is dismissed. -/
def HistoryRow.dismiss (request : CleanupRequest) (cleanup : CleanupType) (row : HistoryRow) :
    HistoryRow :=
  { row with
    dismissedAt := request.timestamp, dismissedBy := firstOf request.dismissedBy "local-user"
    dismissReason := cleanup.text }

/-- The `UPDATE` of some tasks. -/
def dismissTasks (request : CleanupRequest) (cleanup : CleanupType) (taskIds : List String)
    (history : TaskHistory) : TaskHistory :=
  { history with
    snapshots := history.snapshots.map fun row =>
      if row.dismissedAt = "" ∧ row.status ∈ terminalValues ∧ row.taskId ∈ taskIds then
        row.dismiss request cleanup
      else row
    distinct := by
      rw [map_map]
      convert history.distinct using 2
      funext row
      simp only [Function.comp_apply]
      split <;> rfl }

/-- All rows are judged and counted. -/
def scanRows (request : CleanupRequest) (cleanup : CleanupType) (rows : List HistoryRow)
    (totals : CleanupTotals) : Except TaskError CleanupTotals :=
  rows.foldlM (fun totals row =>
    (verdict lib request cleanup row).map (totals.count row.taskId)) totals

/-- The closure of `cleanup_history`. -/
def cleanupAttempt (request : CleanupRequest) (cleanup : CleanupType) :
    Attempt TaskHistory CleanupTotals TaskError Unit := do
  Attempt.execute id
  Attempt.execute id
  let rows := visibleRows (← Attempt.readDatabase)
  let totals ← Attempt.ofExcept (scanRows lib request cleanup rows (← Attempt.readTotals))
  Attempt.modifyTotals fun _ => totals
  Attempt.executeAll (if request.dryRun then [] else
    (chunks 500 totals.matchedIds).map (dismissTasks request cleanup))
  Attempt.execute id

/-- What `cleanup_history` returns. -/
structure CleanupSummary where
  (matched dismissed skippedActive skippedUnacknowledged artifactsDeleted : Nat)
  taskIds : List String
  counts : Category → Nat

/-- What a cleanup returns. -/
def cleanupSummary (request : CleanupRequest) (totals : CleanupTotals) : CleanupSummary where
  matched := totals.matchedIds.length
  dismissed := if request.dryRun then 0 else totals.matchedIds.length
  skippedActive := totals.skippedActive
  skippedUnacknowledged := totals.skippedUnacknowledged
  artifactsDeleted := 0
  taskIds := totals.matchedIds
  counts := totals.counts

/-- How a cleanup fails. -/
inductive CleanupFailure where
  | unknownType
  | attempt (failure : AttemptFailure TaskError)
  deriving DecidableEq

/-- The cleanup type that a text names. -/
def cleanupTypeOf (text : String) : Option CleanupType :=
  [CleanupType.completed, .cancelled, .expired, .completedAndExpired, .resolvedAlerts,
    .allHistory].find? fun cleanup => cleanup.text = lib.casefold (stripped text)

/-- `cleanup_history`, with the locks that its attempts meet. -/
def cleanupHistory (request : CleanupRequest) (locks : List (List Bool)) (history : TaskHistory) :
    Except CleanupFailure (TaskHistory × CleanupSummary) :=
  match cleanupTypeOf lib request.cleanupType with
  | none => .error .unknownType
  | some cleanup =>
    match (cleanupAttempt lib request cleanup).retry 5 locks history .zero with
    | .error failure => .error (.attempt failure)
    | .ok (history, totals) => .ok (history, cleanupSummary request totals)

end Cleanup

/-! ## Statements in chunks -/

/-- The chunks hold what is cut into them. -/
theorem exists_chunk_iff {size : Nat} (positive : 0 < size) {ids : List String} {id : String} :
    (∃ chunk ∈ chunks size ids, id ∈ chunk) ↔ id ∈ ids := by
  constructor
  · rintro ⟨chunk, listed, mem⟩
    obtain ⟨_, -, rfl⟩ := mem_map.mp listed
    exact mem_of_mem_drop (mem_of_mem_take mem)
  · intro mem
    obtain ⟨place, _, rfl⟩ := mem_iff_getElem.mp mem
    have below : place / size < (ids.length + size - 1) / size := by
      rw [Nat.div_lt_iff_lt_mul positive]
      have whole := Nat.div_add_mod (ids.length + size - 1) size
      have part := Nat.mod_lt (ids.length + size - 1) positive
      rw [Nat.mul_comm] at whole
      omega
    refine ⟨_, mem_map.mpr ⟨place / size, mem_range.mpr below, rfl⟩, ?_⟩
    have split := Nat.div_add_mod' place size
    have part := Nat.mod_lt place positive
    refine mem_iff_getElem.mpr ⟨place % size, ?_, ?_⟩
    · rw [length_take, length_drop]
      omega
    · rw [getElem_take, getElem_drop]
      congr 1

variable {request : CleanupRequest} {cleanup : CleanupType}

/-- Dismissing chunk by chunk is dismissing all at once. -/
theorem foldl_dismissTasks (parts : List (List String)) (history : TaskHistory) :
    (parts.map (dismissTasks request cleanup)).foldl
      (fun history change => change history) history =
      dismissTasks request cleanup parts.flatten history := by
  induction parts generalizing history with
  | nil => simp [dismissTasks]
  | cons part parts ih =>
    rw [map_cons, foldl_cons, ih]
    unfold dismissTasks
    congr 1
    rw [map_map, flatten_cons]
    apply map_congr_left
    intro row _
    simp only [Function.comp_apply, mem_append]
    by_cases here : row.dismissedAt = "" ∧ row.status ∈ terminalValues ∧ row.taskId ∈ part
    · have either : row.dismissedAt = "" ∧ row.status ∈ terminalValues ∧
          (row.taskId ∈ part ∨ row.taskId ∈ parts.flatten) :=
        ⟨here.1, here.2.1, .inl here.2.2⟩
      simp only [if_pos here, if_pos either]
      split <;> rfl
    · rw [if_neg here]
      refine if_congr ⟨fun later => ⟨later.1, later.2.1, .inr later.2.2⟩, fun later => ?_⟩ rfl rfl
      exact ⟨later.1, later.2.1, later.2.2.resolve_left fun mem =>
        here ⟨later.1, later.2.1, mem⟩⟩

/-- Which tasks are dismissed does not depend on their order or on repetitions. -/
theorem dismissTasks_congr {taskIds others : List String}
    (same : ∀ taskId, taskId ∈ taskIds ↔ taskId ∈ others) (history : TaskHistory) :
    dismissTasks request cleanup taskIds history = dismissTasks request cleanup others history := by
  unfold dismissTasks
  congr 1
  simp only [same]

/-! ## A run of the closure -/

section Runs

variable {Result : Type} {lib : HistoryLibrary Result} {request : CleanupRequest}
  {cleanup : CleanupType}

/-- What was counted, in tasks. -/
def CleanupTotals.size (totals : CleanupTotals) : Nat :=
  totals.matchedIds.length + totals.skippedActive + totals.skippedUnacknowledged

/-- Each row counts once, unless it is ignored. -/
theorem CleanupTotals.size_count (totals : CleanupTotals) (taskId : String) (reached : Verdict) :
    (totals.count taskId reached).size = totals.size + if reached = .ignored then 0 else 1 := by
  cases reached with
  | matched category => simp [count, size]; omega
  | skippedActive => simp [count, size]; omega
  | skippedUnacknowledged => simp [count, size]; omega
  | ignored => rfl

/-- The tasks of the rows that are matched. -/
def Matched (lib : HistoryLibrary Result) (request : CleanupRequest) (cleanup : CleanupType)
    (rows : List HistoryRow) (taskId : String) : Prop :=
  ∃ row ∈ rows, row.taskId = taskId ∧
    ∃ category, verdict lib request cleanup row = .ok (.matched category)

variable {reached : Verdict}

theorem CleanupTotals.mem_count {totals : CleanupTotals} {taskId other : String} :
    other ∈ (totals.count taskId reached).matchedIds ↔
      other ∈ totals.matchedIds ∨ taskId = other ∧ ∃ category, reached = .matched category := by
  cases reached with
  | matched category => simp [count, eq_comm]
  | skippedActive => simp [count]
  | skippedUnacknowledged => simp [count]
  | ignored => simp [count]

/-- What the loop over rows adds, from any totals. -/
structure Scanned (lib : HistoryLibrary Result) (request : CleanupRequest)
    (cleanup : CleanupType) (rows : List HistoryRow) (totals after : CleanupTotals) (added : Nat) :
    Prop where
  scanned : scanRows lib request cleanup rows totals = .ok after
  size : after.size = totals.size + added
  keeps : added = 0 → after = totals
  ids : ∀ taskId, taskId ∈ after.matchedIds ↔
    taskId ∈ totals.matchedIds ∨ Matched lib request cleanup rows taskId

/-- The number of rows that count. -/
def counted (lib : HistoryLibrary Result) (request : CleanupRequest) (cleanup : CleanupType)
    (rows : List HistoryRow) : Nat :=
  rows.countP fun row => verdict lib request cleanup row ≠ .ok .ignored

variable {rows : List HistoryRow}

theorem counted_cons {row : HistoryRow} (read : verdict lib request cleanup row = .ok reached) :
    counted lib request cleanup (row :: rows) =
      (if reached = .ignored then 0 else 1) + counted lib request cleanup rows := by
  unfold counted
  rw [countP_cons, read, Nat.add_comm]
  by_cases ignored : reached = .ignored <;> simp

theorem counted_eq_zero : counted lib request cleanup rows = 0 ↔
      ∀ row ∈ rows, verdict lib request cleanup row = .ok .ignored := by
  simp [counted]

theorem scanRows_scanned
    (readable : ∀ row ∈ rows, ∃ reached, verdict lib request cleanup row = .ok reached)
    (totals : CleanupTotals) : ∃ after, Scanned lib request cleanup rows totals after
      (counted lib request cleanup rows) := by
  induction rows generalizing totals with
  | nil => exact ⟨totals, rfl, rfl, fun _ => rfl, fun taskId => by simp [Matched]⟩
  | cons row rows ih =>
    obtain ⟨⟨reached, read⟩, readable⟩ := forall_mem_cons.mp readable
    obtain ⟨after, rest⟩ := ih readable (totals.count row.taskId reached)
    refine ⟨after, ?_, ?_, ?_, ?_⟩
    · rw [scanRows, foldlM_cons, read]
      exact rest.scanned
    · rw [rest.size, totals.size_count, counted_cons read, Nat.add_assoc]
    · intro none
      rw [counted_cons read, Nat.add_eq_zero_iff] at none
      have ignored : reached = .ignored := by
        by_contra other
        exact absurd none.1 (by simp [other])
      subst ignored
      exact rest.keeps none.2
    · intro taskId
      rw [rest.ids, CleanupTotals.mem_count]
      simp only [Matched, exists_mem_cons_iff, read, Except.ok.injEq]
      tauto

variable {totals after : CleanupTotals}

/-- Rows that a loop has read without raising. -/
theorem readable_of_scanRows (scanned : scanRows lib request cleanup rows totals = .ok after) :
    ∀ row ∈ rows, ∃ reached, verdict lib request cleanup row = .ok reached := by
  induction rows generalizing totals with
  | nil => exact fun row mem => absurd mem not_mem_nil
  | cons row rows ih =>
    rw [scanRows, foldlM_cons] at scanned
    obtain ⟨_, first, scanned⟩ := bind_eq_ok.mp scanned
    obtain ⟨reached, read, _⟩ := map_eq_ok.mp first
    exact forall_mem_cons.mpr ⟨⟨reached, read⟩, ih scanned⟩

variable {history : TaskHistory}
  (scanned : scanRows lib request cleanup (visibleRows history) totals = .ok after)
include scanned

theorem cleanupAttempt_eq (locks : List Bool) :
    (cleanupAttempt lib request cleanup).run history totals locks =
      if true ∈ locks.take 1 ∨ true ∈ (locks.drop 1).take 1 then (.error .locked, totals)
      else (Attempt.executeAll (if request.dryRun then [] else
          (chunks 500 after.matchedIds).map (dismissTasks request cleanup)) >>= fun _ =>
        Attempt.execute id : Attempt TaskHistory CleanupTotals TaskError Unit).run history after
          ((locks.drop 1).drop 1) := by
  unfold cleanupAttempt
  rw [Attempt.run_execute, Attempt.run_execute, Attempt.run_readDatabase, Attempt.run_readTotals]
  simp only [id_eq, scanned, Attempt.run_ofExcept, Attempt.run_modifyTotals]
  by_cases first : true ∈ locks.take 1
  · rw [if_pos first, if_pos (.inl first)]
  · simp only [first, if_false, false_or]

/-- The variables change as soon as the rows are read. -/
theorem run_cleanupAttempt_totals (locks : List Bool) :
    ((cleanupAttempt lib request cleanup).run history totals locks).2 =
      if true ∈ locks.take 2 then totals else after := by
  have two : true ∈ locks.take 2 ↔ true ∈ locks.take 1 ∨ true ∈ (locks.drop 1).take 1 :=
    @Attempt.mem_take_add _ _ _ 1 1
  rw [cleanupAttempt_eq scanned, Attempt.run_executeAll, Attempt.run_commit]
  simp only [two, apply_ite Prod.snd, ite_self]

theorem run_cleanupAttempt_free : (cleanupAttempt lib request cleanup).run history totals [] =
      (.ok (dismissTasks request cleanup (if request.dryRun then [] else after.matchedIds) history),
        after) := by
  rw [cleanupAttempt_eq scanned, Attempt.run_executeAll, Attempt.run_commit]
  simp only [take_nil, drop_nil, not_mem_nil, if_false]
  cases request.dryRun with
  | true =>
    have same := @foldl_dismissTasks request cleanup [] history
    exact congrArg (fun history => (Except.ok history, after)) same
  | false =>
    rw [if_neg Bool.false_ne_true, if_neg Bool.false_ne_true, foldl_dismissTasks]
    refine congrArg (fun history => (Except.ok history, after)) (dismissTasks_congr ?_ history)
    intro taskId
    rw [mem_flatten]
    exact exists_chunk_iff (by decide)

omit scanned

end Runs

/-! ## Retried cleanups -/

section Retried

variable {Result : Type} {lib : HistoryLibrary Result} {request : CleanupRequest}

/-- A failed attempt left the variables alone: it found the database locked before the rows were
read, or no row counts. -/
def CleanupCountsNothing (lib : HistoryLibrary Result) (request : CleanupRequest)
    (cleanup : CleanupType) (history : TaskHistory) (locks : List Bool) : Prop :=
  true ∈ locks.take 2 ∨ ∀ row ∈ visibleRows history,
    verdict lib request cleanup row = .ok .ignored

variable {cleanup : CleanupType} {history : TaskHistory}

theorem cleanup_counts (readable : ∀ row ∈ visibleRows history,
      ∃ reached, verdict lib request cleanup row = .ok reached) :
    Attempt.Counts (cleanupAttempt lib request cleanup) history id CleanupTotals.size
      (fun locks => if true ∈ locks.take 2 then 0
        else counted lib request cleanup (visibleRows history)) where
  adds totals locks := by
    obtain ⟨after, scanned⟩ := scanRows_scanned readable totals
    rw [run_cleanupAttempt_totals scanned.scanned]
    split
    · rfl
    · exact scanned.size
  keeps totals locks nothing := by
    obtain ⟨after, scanned⟩ := scanRows_scanned readable totals
    rw [run_cleanupAttempt_totals scanned.scanned]
    split
    · rfl
    · next early => exact scanned.keeps (by rwa [if_neg early] at nothing)

variable {totals : CleanupTotals}

theorem cleanupSummary_inj {others : CleanupTotals} :
    cleanupSummary request totals = cleanupSummary request others ↔ totals = others := by
  refine ⟨fun same => ?_, fun same => same ▸ rfl⟩
  obtain ⟨_, _, _, _⟩ := totals
  simp only [cleanupSummary, CleanupSummary.mk.injEq] at same
  obtain ⟨-, -, rfl, rfl, -, rfl, rfl⟩ := same
  rfl

variable {after : TaskHistory}

/-- The rows of a cleanup that succeeds are read without raising. -/
theorem readable_of_single (single : (cleanupAttempt lib request cleanup).retry 5
      [] history .zero = .ok (after, totals))
    : ∀ row ∈ visibleRows history, ∃ reached, verdict lib request cleanup row = .ok reached := by
  cases scanned : scanRows lib request cleanup (visibleRows history) .zero with
  | ok totals => exact readable_of_scanRows scanned
  | error error =>
    have raised : (cleanupAttempt lib request cleanup).run history .zero [] =
        (.error (.raised error), .zero) := by
      unfold cleanupAttempt
      rw [Attempt.run_execute, Attempt.run_execute, Attempt.run_readDatabase,
        Attempt.run_readTotals]
      simp [scanned]
    rw [Attempt.retry_raised raised] at single
    cases single

variable {locks : List (List Bool)}

theorem dismissed_retried (readable : ∀ row ∈ visibleRows history,
      ∃ reached, verdict lib request cleanup row = .ok reached)
    {counted : CleanupTotals} {added more : Nat}
    (scanned : Scanned lib request cleanup (visibleRows history) .zero totals added)
    (again : Scanned lib request cleanup (visibleRows history)
      ((cleanupAttempt lib request cleanup).leaked history .zero locks) counted more) :
    dismissTasks request cleanup (if request.dryRun then [] else counted.matchedIds) history =
      dismissTasks request cleanup (if request.dryRun then [] else totals.matchedIds) history := by
  have keeps : ∀ (totals : CleanupTotals) (met : List Bool),
      (∀ taskId ∈ totals.matchedIds, Matched lib request cleanup (visibleRows history) taskId) →
      ∀ taskId ∈ ((cleanupAttempt lib request cleanup).run history totals met).2.matchedIds,
        Matched lib request cleanup (visibleRows history) taskId := by
    intro totals met held
    obtain ⟨_, scanned⟩ := scanRows_scanned readable totals
    rw [run_cleanupAttempt_totals scanned.scanned]
    split
    · exact held
    · exact fun taskId mem => ((scanned.ids taskId).mp mem).elim (held taskId) id
  have leaked := Attempt.leaked_keeps keeps
    (fun taskId (mem : taskId ∈ CleanupTotals.zero.matchedIds) =>
      absurd mem not_mem_nil) locks
  cases request.dryRun with
  | true => rfl
  | false =>
    apply dismissTasks_congr
    intro taskId
    rw [if_neg Bool.false_ne_true, if_neg Bool.false_ne_true, again.ids, scanned.ids]
    exact ⟨fun either => either.elim (fun mem => .inr (leaked taskId mem)) .inr,
      fun either => either.elim (fun mem => absurd mem not_mem_nil) .inr⟩

/-- A repeated cleanup dismisses what a single one dismisses, and tells the same exactly if no
failed attempt counted anything. -/
theorem cleanupHistory_retried (named : cleanupTypeOf lib request.cleanupType = some cleanup)
    {summary : CleanupSummary}
    (single : cleanupHistory lib request [] history = .ok (after, summary)) (few : locks.length < 5)
    (fail : (cleanupAttempt lib request cleanup).AllFail history .zero locks) :
    ∃ retried, cleanupHistory lib request locks history = .ok (after, retried) ∧
      (retried = summary ↔
        ∀ met ∈ locks, CleanupCountsNothing lib request cleanup history met) := by
  unfold cleanupHistory at single ⊢
  simp only [named] at single ⊢
  have readable : ∀ row ∈ visibleRows history,
      ∃ reached, verdict lib request cleanup row = .ok reached := by
    cases once : (cleanupAttempt lib request cleanup).retry 5 [] history .zero with
    | ok outcome => exact readable_of_single once
    | error failure =>
      simp only [once] at single
      cases single
  set leaked := (cleanupAttempt lib request cleanup).leaked history .zero locks
  obtain ⟨totals, scanned⟩ := scanRows_scanned readable .zero
  obtain ⟨counted, again⟩ := scanRows_scanned readable leaked
  have once : (cleanupAttempt lib request cleanup).retry 5 [] history .zero = .ok (_, totals) :=
    Attempt.retry_committed (run_cleanupAttempt_free scanned.scanned)
  have last := Attempt.retry_allFail fail few (run_cleanupAttempt_free again.scanned)
  rw [once] at single
  cases single
  rw [last]
  have dismissed := dismissed_retried readable scanned again
  refine ⟨cleanupSummary request counted, by rw [dismissed], ?_⟩
  have counting := cleanup_counts readable
  rw [cleanupSummary_inj]
  constructor
  · intro same
    have sizes : leaked.size = CleanupTotals.zero.size := by
      have sum := again.size
      rw [same, scanned.size] at sum
      omega
    intro met mem
    have nothing := (counting.retried_iff .zero locks).mp sizes met mem
    by_cases early : true ∈ met.take 2
    · exact .inl early
    · rw [if_neg early] at nothing
      exact .inr (counted_eq_zero.mp nothing)
  · intro nothing
    have same : leaked = .zero := counting.counts_leaked .zero fun met mem => by
      rcases nothing met mem with early | ignored
      · exact if_pos early
      · rw [counted_eq_zero.mpr ignored, ite_self]
    have scan := again.scanned
    rw [same, scanned.scanned] at scan
    exact (Except.ok.inj scan).symm

end Retried

end NetConsole.TaskRetention
