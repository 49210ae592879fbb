import Mathlib.Data.List.Count
import NetConsole.TaskCenter.SealedResults
import NetConsole.TaskRetention.TerminalRetention

/-!
# What the retention of terminal tasks keeps

`RetentionLaw` says what the retention is for: of the ordinary terminal tasks of a
scope the ten that finished last are kept, the others go with all they own, and a second run has
nothing to do.

The code compares the times as texts, and leaves blobs in place. So the law holds exactly if the
texts put no task behind ten others that finished earlier than one of them, and no blob is used by
surplus tasks alone (`retentionLaw_iff`).
-/

set_option autoImplicit false

namespace NetConsole.TaskRetention

open Foundations List
open Syslog (firstOf)
open TaskCenter (ResultFormat ResultRow TaskError TaskState VerifiedResult readBlob
  verifyTaskResultRow verifyTaskResultRow_ok)

/-! ## The law -/

section Law

variable {Result : Type} (lib : HistoryLibrary Result)

/-- The sealed results of a store. -/
def resultAuthority (history : TaskHistory) : ResultAuthority Result :=
  resultsUnder lib history.blobs history.results []

/-- What protects a task of a store. -/
def protectionIn (history : TaskHistory) (row : HistoryRow) :
    Except TaskError (Option TerminalProtection) :=
  terminalRetentionProtection lib (mappedTasks history) (resultAuthority lib history) row

/-- A terminal task that nothing protects. -/
def ordinary (history : TaskHistory) (row : HistoryRow) : Bool :=
  match protectionIn lib history row with
  | .ok none => lib.upper row.status ∈ terminalValues
  | _ => false

/-- The ordinary tasks of a scope. -/
def ordinaryIn (history : TaskHistory) (scope : HistoryScope) : List HistoryRow :=
  history.snapshots.filter fun row =>
    ordinary lib history row && taskHistoryScope row = scope

/-- A task finished at an instant. -/
def FinishedAt (row : HistoryRow) (instant : Int) : Prop :=
  eventDatetime lib (firstOf row.finishedTime row.updatedTime) = .ok (some instant)

/-- The result is held in the blob. -/
def UsesBlob (row : ResultRow) (digest : String) : Prop :=
  row.blobReady = true ∧ row.contentSha256 = digest

/-- A blob that results of these tasks use, and no others. -/
def PrivateBlob (history : TaskHistory) (deleted : String → Prop) (digest : String) : Prop :=
  (∃ row ∈ history.results, deleted row.taskId ∧ UsesBlob row digest) ∧
    ∀ row ∈ history.results, UsesBlob row digest → deleted row.taskId

/-- What a store is after some of its tasks were retired. -/
structure RetentionLaw (history after : TaskHistory) (deleted : List String) : Prop where
  snapshots : after.snapshots = history.snapshots.filter fun row => row.taskId ∉ deleted
  /-- Only ordinary tasks go. -/
  ordinary : ∀ taskId ∈ deleted, ∃ row ∈ history.snapshots, row.taskId = taskId ∧
    TaskRetention.ordinary lib history row = true
  /-- Ten of a scope stay, or all. -/
  count : ∀ scope, ((ordinaryIn lib history scope).filter fun row =>
    row.taskId ∉ deleted).length =
    min taskHistoryScopeLimit (ordinaryIn lib history scope).length
  /-- They finished last. -/
  newest : ∀ scope, ∀ kept ∈ ordinaryIn lib history scope, kept.taskId ∉ deleted →
    ∀ gone ∈ ordinaryIn lib history scope, gone.taskId ∈ deleted →
    ∀ instant earlier, FinishedAt lib kept instant → FinishedAt lib gone earlier →
      earlier ≤ instant
  results : after.results = history.results.filter fun row => row.taskId ∉ deleted
  events : after.events = history.events.filter fun event => event.taskId ∉ deleted
  blobs : ∀ digest, (PrivateBlob history (· ∈ deleted) digest → after.blobs digest = none) ∧
    (¬ PrivateBlob history (· ∈ deleted) digest → after.blobs digest = history.blobs digest)
  tombstones : ∀ taskId, taskId ∈ after.tombstones.map Tombstone.taskId ↔
    taskId ∈ history.tombstones.map Tombstone.taskId ∨ taskId ∈ deleted
  /-- A second run deletes nothing. -/
  settled : ∀ retiredAt, ∃ summary,
    enforceTerminalHistoryRetention lib retiredAt [] after = .ok (after, summary) ∧
      summary.deletedTaskIds = []

/-- A task with ten ordinary tasks of its scope before it, by the texts of their times. -/
def Surplus (history : TaskHistory) (row : HistoryRow) : Prop :=
  taskHistoryScopeLimit ≤
    newerCount HistoryRow.stamp (ordinaryIn lib history (taskHistoryScope row)) row

end Law

/-! ## The database after a run -/

/-- Whether some statements delete the rows of a task from a table. -/
def deletesFrom (writes : List RetentionWrite) (table : OwnedTable) (taskId : String) : Bool :=
  writes.any fun write =>
    match write with
    | .tombstone _ _ => false
    | .delete other taskIds => other = table && taskId ∈ taskIds

/-- The tasks of which some statements leave tombstones. -/
def buriedBy (writes : List RetentionWrite) : List String :=
  writes.filterMap fun write =>
    match write with
    | .tombstone taskId _ => some taskId
    | .delete _ _ => none

/-- A store after some statements. -/
structure Written (history after : TaskHistory) (writes : List RetentionWrite) : Prop where
  snapshots : after.snapshots =
    history.snapshots.filter fun row => !deletesFrom writes .taskSnapshots row.taskId
  results : after.results =
    history.results.filter fun row => !deletesFrom writes .taskResults row.taskId
  events : after.events =
    history.events.filter fun event => !deletesFrom writes .taskEvents event.taskId
  tombstones : ∀ taskId, taskId ∈ after.tombstones.map Tombstone.taskId ↔
    taskId ∈ history.tombstones.map Tombstone.taskId ∨ taskId ∈ buriedBy writes
  blobs : after.blobs = history.blobs
  onlineMrTable : after.onlineMrTable = history.onlineMrTable

theorem mem_insertTombstone {tombstones : List Tombstone}
    {tombstone : Tombstone} {taskId : String} :
    taskId ∈ (insertTombstone tombstones tombstone).map Tombstone.taskId ↔
      taskId ∈ tombstones.map Tombstone.taskId ∨ taskId = tombstone.taskId := by
  unfold insertTombstone
  split
  · next held => exact ⟨.inl, fun either => either.elim id fun same => same ▸ held⟩
  · rw [map_append, mem_append, map_singleton, mem_singleton]

theorem written_apply (history : TaskHistory) (write : RetentionWrite) :
    Written history (write.apply history) [write] := by
  cases write with
  | tombstone taskId retiredAt =>
    refine ⟨?_, ?_, ?_, fun other => ?_, rfl, rfl⟩
    · simp [RetentionWrite.apply, deletesFrom]
    · simp [RetentionWrite.apply, deletesFrom]
    · simp [RetentionWrite.apply, deletesFrom]
    · exact mem_insertTombstone.trans (by simp [buriedBy])
  | delete table taskIds =>
    cases table <;>
      refine ⟨?_, ?_, ?_, fun other => ?_, rfl, rfl⟩ <;>
      simp [RetentionWrite.apply, deletesFrom, buriedBy]

theorem Written.trans {history between after : TaskHistory} {writes more : List RetentionWrite}
    (first : Written history between writes) (second : Written between after more) :
    Written history after (writes ++ more) := by
  refine ⟨?_, ?_, ?_, fun taskId => ?_, second.blobs.trans first.blobs,
    second.onlineMrTable.trans first.onlineMrTable⟩
  · rw [second.snapshots, first.snapshots, filter_filter]
    simp [deletesFrom, Bool.and_comm]
  · rw [second.results, first.results, filter_filter]
    simp [deletesFrom, Bool.and_comm]
  · rw [second.events, first.events, filter_filter]
    simp [deletesFrom, Bool.and_comm]
  · rw [second.tombstones, first.tombstones, buriedBy, buriedBy, buriedBy, filterMap_append,
      mem_append, or_assoc]

theorem written_foldl (history : TaskHistory) (writes : List RetentionWrite) :
    Written history (writes.foldl RetentionWrite.apply history) writes := by
  induction writes generalizing history with
  | nil => exact ⟨by simp [deletesFrom], by simp [deletesFrom], by simp [deletesFrom],
      fun taskId => by simp [buriedBy], rfl, rfl⟩
  | cons write rest ih => exact (written_apply history write).trans (ih (write.apply history))

variable {deleteIds : List String} {retiredAt : String}

theorem deletesFrom_retentionWrites (table : OwnedTable) (taskId : String) :
    deletesFrom (retentionWrites retiredAt deleteIds) table taskId = decide
      (taskId ∈ deleteIds) := by
  rw [Bool.eq_iff_iff, decide_eq_true_eq, ← @exists_chunk_iff 500 (by decide) deleteIds taskId]
  unfold deletesFrom retentionWrites
  rw [any_append, any_flatMap, Bool.or_eq_true, any_eq_true, any_eq_true]
  constructor
  · rintro (⟨_, tombstone, deletes⟩ | ⟨chunk, cut, deletes⟩)
    · obtain ⟨_, -, rfl⟩ := mem_map.mp tombstone
      cases deletes
    · refine ⟨chunk, cut, ?_⟩
      cases table <;> simpa using deletes
  · rintro ⟨chunk, cut, mem⟩
    refine .inr ⟨chunk, cut, ?_⟩
    cases table <;> simpa using mem

theorem buriedBy_retentionWrites : buriedBy (retentionWrites retiredAt deleteIds) = deleteIds := by
  unfold buriedBy retentionWrites
  rw [filterMap_append, filterMap_map, filterMap_flatMap]
  simp

/-- A store after some tasks were retired. -/
structure Retired (history after : TaskHistory) (deleted : List String) : Prop where
  snapshots : after.snapshots = history.snapshots.filter fun row => row.taskId ∉ deleted
  results : after.results = history.results.filter fun row => row.taskId ∉ deleted
  events : after.events = history.events.filter fun event => event.taskId ∉ deleted
  tombstones : ∀ taskId, taskId ∈ after.tombstones.map Tombstone.taskId ↔
    taskId ∈ history.tombstones.map Tombstone.taskId ∨ taskId ∈ deleted
  blobs : after.blobs = history.blobs
  onlineMrTable : after.onlineMrTable = history.onlineMrTable

theorem retired_enforcedHistory (history : TaskHistory) (retiredAt : String)
    (deleted : List String) :
    Retired history (enforcedHistory history retiredAt deleted) deleted := by
  have written : Written history (enforcedHistory history retiredAt deleted) _ :=
    written_foldl history (retentionWrites retiredAt deleted)
  refine ⟨?_, ?_, ?_, fun taskId => ?_, written.blobs, written.onlineMrTable⟩
  · simpa only [deletesFrom_retentionWrites, decide_not] using written.snapshots
  · simpa only [deletesFrom_retentionWrites, decide_not] using written.results
  · simpa only [deletesFrom_retentionWrites, decide_not] using written.events
  · simpa only [buriedBy_retentionWrites] using written.tombstones taskId

/-! ## Which tasks are surplus -/

section Surplus

variable {Result : Type} {lib : HistoryLibrary Result} {history : TaskHistory}
  {rows : List (HistoryRow × Option TerminalProtection)} {row : HistoryRow} {scope : HistoryScope}

theorem mem_ordinaryIn : row ∈ ordinaryIn lib history scope ↔
      row ∈ history.snapshots ∧ ordinary lib history row = true ∧ taskHistoryScope row = scope := by
  simp [ordinaryIn]

/-- The rows of a store have different keys. -/
theorem eq_of_taskId {row other : HistoryRow} (listed : row ∈ history.snapshots)
    (otherListed : other ∈ history.snapshots) (same : row.taskId = other.taskId) : row = other :=
  inj_on_of_nodup_map history.distinct listed otherListed same

theorem distinct_stamps (scope : HistoryScope) :
    ((ordinaryIn lib history scope).map HistoryRow.stamp).Nodup := by
  have nodup : (ordinaryIn lib history scope).Nodup :=
    (List.Nodup.of_map _ history.distinct).filter _
  refine nodup.map_on fun row listed other otherListed same => ?_
  have ids := congrArg (fun stamp => (ofLex stamp).2) same
  exact eq_of_taskId (mem_ordinaryIn.mp listed).1 (mem_ordinaryIn.mp otherListed).1
    (String.toList_injective ids)

variable (read : protectedUnder lib history [] = .ok rows)
include read

theorem ordinaryTasks_eq :
    ordinaryTasks lib rows = (newestFirst HistoryRow.retentionOrder history.snapshots).filter
        (ordinary lib history) := by
  unfold ordinaryTasks
  rw [← map_fst_of_protectRows read, filter_map]
  refine congrArg _ (filter_congr fun entry mem => ?_)
  have told : protectionIn lib history entry.1 = .ok entry.2 := by
    have told := (mem_protectRows read mem).2
    rwa [drop_nil] at told
  unfold ordinary
  rw [Function.comp_apply, told]
  cases entry.2 <;> simp

theorem ordinaryByScope_spec :
    ∀ scope ∈ ordinaryByScope lib rows, scope.2.Perm (ordinaryIn lib history scope.1) := by
  intro scope grouped
  unfold ordinaryByScope at grouped
  rw [(groupItems_spec _).holds scope grouped, ordinaryTasks_eq read, filter_filter]
  refine ((newestFirst_perm_self _ history.snapshots).filter _).trans ?_
  unfold ordinaryIn
  rw [filter_congr fun row _ => Bool.and_comm _ _]

omit read in
theorem mem_drop_orderedTasks {candidates : List HistoryRow}
    (perm : candidates.Perm (ordinaryIn lib history scope)) :
    row ∈ (orderedTasks candidates).drop taskHistoryScopeLimit ↔
      row ∈ ordinaryIn lib history scope ∧ Surplus lib history row := by
  have distinct := @distinct_stamps Result lib history scope
  rw [orderedTasks, newestFirst_congr ((perm.map _).nodup_iff.mpr distinct) perm,
    mem_drop_newestFirst distinct]
  refine and_congr_right fun mem => ?_
  rw [Surplus, (mem_ordinaryIn.mp mem).2.2]

theorem mem_deletedTasks
    (listed : row ∈ history.snapshots) : row.taskId ∈ deletedTasks (ordinaryByScope lib rows) ↔
      ordinary lib history row = true ∧ Surplus lib history row := by
  have perm := ordinaryByScope_spec read
  constructor
  · intro mem
    obtain ⟨scope, grouped, mem⟩ := mem_flatMap.mp mem
    obtain ⟨other, behind, same⟩ := mem_map.mp mem
    obtain ⟨inScope, surplus⟩ := (mem_drop_orderedTasks (perm scope grouped)).mp behind
    obtain ⟨otherListed, isOrdinary, -⟩ := mem_ordinaryIn.mp inScope
    rw [eq_of_taskId otherListed listed same] at isOrdinary surplus
    exact ⟨isOrdinary, surplus⟩
  · rintro ⟨isOrdinary, surplus⟩
    have candidate : row ∈ ordinaryTasks lib rows := by
      rw [ordinaryTasks_eq read]
      exact mem_filter.mpr ⟨(mem_newestFirst _).mpr listed, isOrdinary⟩
    obtain ⟨scope, grouped, named⟩ := mem_map.mp
      ((groupItems_spec (ordinaryTasks _ rows)).named.mpr
        (mem_map_of_mem (f := taskHistoryScope) candidate))
    have behind := (mem_drop_orderedTasks (perm scope grouped)).mpr
      ⟨mem_ordinaryIn.mpr ⟨listed, isOrdinary, named.symm⟩, surplus⟩
    exact mem_flatMap.mpr ⟨scope, grouped, mem_map_of_mem behind⟩

omit read in
theorem filter_not_mem_drop {α : Type} [DecidableEq α] {items : List α} (nodup : items.Nodup)
    (count : Nat) : (items.filter fun item => item ∉ items.drop count) = items.take count := by
  have split := take_append_drop count items
  rw [← split] at nodup
  have apart := (nodup_append.mp nodup).2.2
  have first : (items.take count).filter (fun item => item ∉ items.drop count) = items.take count :=
    filter_eq_self.mpr fun item mem => decide_eq_true fun behind =>
      apart item mem item behind rfl
  have second : (items.drop count).filter (fun item => item ∉ items.drop count) = [] :=
    filter_eq_nil_iff.mpr fun item mem => by simpa using mem
  calc items.filter (fun item => item ∉ items.drop count)
      = (items.take count ++ items.drop count).filter (fun item => item ∉ items.drop count) := by
        rw [split]
    _ = items.take count := by rw [filter_append, first, second, append_nil]

theorem length_kept (scope : HistoryScope) :
    ((ordinaryIn lib history scope).filter fun row =>
      row.taskId ∉ deletedTasks (ordinaryByScope lib rows)).length =
        min taskHistoryScopeLimit (ordinaryIn lib history scope).length := by
  have perm := newestFirst_perm_self HistoryRow.stamp (ordinaryIn lib history scope)
  have nodup : (orderedTasks (ordinaryIn lib history scope)).Nodup :=
    perm.nodup_iff.mpr (List.Nodup.of_map _ (distinct_stamps scope))
  have behind : ∀ row ∈ orderedTasks (ordinaryIn lib history scope),
      (row.taskId ∈ deletedTasks (ordinaryByScope lib rows) ↔
        row ∈ (orderedTasks (ordinaryIn lib history scope)).drop taskHistoryScopeLimit) := by
    intro row mem
    have inScope := perm.mem_iff.mp mem
    obtain ⟨listed, isOrdinary, -⟩ := mem_ordinaryIn.mp inScope
    rw [mem_deletedTasks read listed, mem_drop_orderedTasks (List.Perm.refl _)]
    exact ⟨fun both => ⟨inScope, both.2⟩, fun both => ⟨isOrdinary, both.2⟩⟩
  rw [← (perm.filter _).length_eq, ← perm.length_eq, ← length_take]
  congr 1
  show (orderedTasks (ordinaryIn lib history scope)).filter _ =
    (orderedTasks (ordinaryIn lib history scope)).take taskHistoryScopeLimit
  rw [filter_congr fun row mem => by rw [decide_eq_decide.mpr (not_congr (behind row mem))]]
  exact filter_not_mem_drop nodup taskHistoryScopeLimit

end Surplus

/-! ## A second run -/

section Second

variable {Result : Type} {lib : HistoryLibrary Result} {blobs : String → Option String}

theorem row_of_readResult {row : ResultRow} {answered : Bool} {verified : VerifiedResult Result}
    (read : readResult lib blobs row answered = some verified) : verified.row = row := by
  have verifies : ∀ text, (verifyTaskResultRow lib.format row text).toOption = some verified →
      verified.row = row := by
    intro text read
    exact (verifyTaskResultRow_ok (toOption_eq_some.mp read)).1
  unfold readResult at read
  split at read
  · split at read
    · obtain ⟨text, _, verified⟩ := bind_eq_ok.mp (toOption_eq_some.mp read)
      exact (verifyTaskResultRow_ok verified).1
    · cases read
  · exact verifies _ read

/-- What is found of a sealed result. -/
theorem lookup_resultsUnder (results : List ResultRow) {resultId : String} (named : resultId ≠ "") :
    (resultsUnder lib blobs results []).lookup resultId =
      (results.find? fun result => result.resultId = resultId).map fun result =>
        readResult lib blobs result true := by
  induction results with
  | nil => rfl
  | cons row rest ih =>
    have head : resultsUnder lib blobs (row :: rest) [] =
        if row.resultId = "" then resultsUnder lib blobs rest []
        else (row.resultId, readResult lib blobs row true) ::
          resultsUnder lib blobs rest [] := by
      rw [resultsUnder]
      cases row.blobReady <;> rfl
    rw [head, List.find?_cons]
    by_cases same : row.resultId = resultId
    · rw [if_neg (same ▸ named), lookup_cons]
      simp [same]
    · by_cases unnamed : row.resultId = ""
      · rw [if_pos unnamed, ih]
        simp [same]
      · rw [if_neg unnamed, lookup_cons, ih]
        have other : (resultId == row.resultId) = false := by simpa using Ne.symm same
        simp [same, other]

theorem find?_filter_of_unique {α : Type} {searched kept : α → Bool} {items : List α}
    (unique : ∀ one ∈ items, ∀ other ∈ items, searched one = true → searched other = true →
      one = other) :
    (items.filter kept).find? searched = (items.find? searched).filter kept := by
  induction items with
  | nil => rfl
  | cons item rest ih =>
    have ih := ih fun one mem other otherMember =>
      unique one (mem_cons_of_mem _ mem) other (mem_cons_of_mem _ otherMember)
    cases found : searched item with
    | false => cases stays : kept item <;> simp [found, stays, ih]
    | true =>
      cases stays : kept item with
      | true => simp [found, stays, Option.filter_some]
      | false =>
        rw [filter_cons_of_neg (by simp [stays]), ih, List.find?_cons_of_pos found]
        cases later : rest.find? searched with
        | none => exact (Option.filter_some_neg stays).symm
        | some other =>
          have same : item = other := unique item mem_cons_self other
            (mem_cons_of_mem _ (mem_of_find?_eq_some later)) found
            (List.find?_some later)
          rw [← same]

variable {row : HistoryRow}

/-- The content that a row finds in a store. -/
theorem authorityResult_eq {history : TaskHistory} (named : row.resultId ≠ "") :
    authorityResult lib (resultAuthority lib history) row =
      (((history.results.find? fun result => result.resultId = row.resultId).filter
        fun result => result.taskId = row.taskId).bind
          fun result => readResult lib history.blobs result true).map VerifiedResult.result := by
  unfold authorityResult resultAuthority
  rw [if_neg named, lookup_resultsUnder history.results named]
  cases history.results.find? fun result => decide (result.resultId = row.resultId) with
  | none => rfl
  | some result =>
    cases read : readResult lib history.blobs result true with
    | none => by_cases same : result.taskId = row.taskId <;> simp [read, same, Option.filter_some]
    | some verified =>
      have isRow := row_of_readResult read
      by_cases same : result.taskId = row.taskId <;>
        simp [read, same, isRow, Option.filter_some]

variable {history after : TaskHistory} {deleted : List String}
  (retired : Retired history after deleted)
include retired

theorem authorityResult_retired
    (kept : row.taskId ∉ deleted) : authorityResult lib (resultAuthority lib after) row =
      authorityResult lib (resultAuthority lib history) row := by
  by_cases named : row.resultId = ""
  · unfold authorityResult
    rw [if_pos named, if_pos named]
  · rw [authorityResult_eq named, authorityResult_eq named, retired.results, retired.blobs,
      find?_filter_of_unique fun one mem other otherMember isOne isOther =>
        inj_on_of_nodup_map history.resultsDistinct mem otherMember
          ((of_decide_eq_true isOne).trans (of_decide_eq_true isOther).symm)]
    rw [Option.filter_filter]
    congr 3
    funext result
    by_cases same : result.taskId = row.taskId <;> simp [same, kept]

theorem protectionIn_retired (kept : row.taskId ∉ deleted)
    : protectionIn lib after row = protectionIn lib history row := by
  unfold protectionIn terminalRetentionProtection metadataProtection mappedTasks
  rw [authorityResult_retired retired kept, retired.onlineMrTable]

theorem ordinaryIn_retired (scope : HistoryScope) : ordinaryIn lib after scope =
      (ordinaryIn lib history scope).filter fun row => row.taskId ∉ deleted := by
  unfold ordinaryIn
  rw [retired.snapshots, filter_filter, filter_filter]
  refine filter_congr fun row _ => ?_
  by_cases gone : row.taskId ∈ deleted
  · simp [gone]
  · unfold ordinary
    rw [protectionIn_retired retired gone, Bool.and_comm]

omit retired

variable {rows : List (HistoryRow × Option TerminalProtection)}

theorem protectedUnder_retired (retired : Retired history after deleted)
    (read : protectedUnder lib history [] = .ok rows) :
    ∃ kept, protectedUnder lib after [] = .ok kept := by
  apply mapM_total
  intro row listed
  rw [mem_newestFirst, retired.snapshots, mem_filter, decide_eq_true_eq] at listed
  obtain ⟨listed, kept⟩ := listed
  have inRows : row ∈ rows.map Prod.fst := by
    rw [map_fst_of_protectRows read]
    exact (mem_newestFirst _).mpr listed
  obtain ⟨entry, mem, rfl⟩ := mem_map.mp inRows
  have told : protectionIn lib after entry.1 = .ok entry.2 :=
    (protectionIn_retired retired kept).trans (mem_protectRows read mem).2
  exact ⟨(entry.1, entry.2), congrArg (Except.map _) told⟩

variable (read : protectedUnder lib history [] = .ok rows)
include read

theorem deletedTasks_eq_nil
    (few : ∀ scope, (ordinaryIn lib history scope).length ≤ taskHistoryScopeLimit) :
    deletedTasks (ordinaryByScope lib rows) = [] := by
  rw [eq_nil_iff_forall_not_mem]
  intro taskId mem
  obtain ⟨row, listed, rfl⟩ := stored_of_protectedUnder read taskId mem
  obtain ⟨isOrdinary, surplus⟩ := (mem_deletedTasks read listed).mp mem
  have inScope : row ∈ ordinaryIn lib history (taskHistoryScope row) :=
    mem_ordinaryIn.mpr ⟨listed, isOrdinary, rfl⟩
  have fewer : newerCount HistoryRow.stamp (ordinaryIn lib history (taskHistoryScope row)) row <
      (ordinaryIn _ history (taskHistoryScope row)).length :=
    countP_lt_length_iff.mpr ⟨row, inScope, by simp⟩
  exact absurd (fewer.trans_le (few _)) (not_lt.mpr surplus)

omit read in
theorem deletedTaskIds_foldl_countProtected (totals : RetentionTotals)
    (protections : List TerminalProtection) :
    (protections.foldl RetentionTotals.countProtected totals).deletedTaskIds =
      totals.deletedTaskIds := by
  induction protections generalizing totals with
  | nil => rfl
  | cons protection rest ih => exact ih (totals.countProtected protection)

omit read in
theorem deletedTaskIds_enforced {retiredAt : String}
    (scopes : List (HistoryScope × List HistoryRow))
    (rows : List (HistoryRow × Option TerminalProtection)) :
    (RetentionTotals.zero.enforced history retiredAt scopes rows).deletedTaskIds =
      deletedTasks scopes := by
  unfold RetentionTotals.enforced
  split
  · next none =>
    rw [none]
    exact deletedTaskIds_foldl_countProtected .zero _
  · rfl

/-- A run that succeeds, in terms of what it read. -/
theorem enforce_free (retiredAt : String) :
    ∃ summary, enforceTerminalHistoryRetention lib retiredAt [] history =
        .ok (enforcedHistory history retiredAt (deletedTasks (ordinaryByScope lib rows)),
          summary) ∧
      summary.deletedTaskIds = deletedTasks (ordinaryByScope lib rows) :=
  ⟨_, Attempt.retry_committed (run_retentionAttempt_free read .zero),
    deletedTaskIds_enforced _ rows⟩

/-- Once a store is retired, there is nothing to delete. -/
theorem settled_of_retired
    (retired : Retired history after (deletedTasks (ordinaryByScope lib rows)))
    (retiredAt : String) :
    ∃ summary, enforceTerminalHistoryRetention lib retiredAt [] after = .ok (after, summary) ∧
      summary.deletedTaskIds = [] := by
  obtain ⟨kept, again⟩ := protectedUnder_retired retired read
  have none : deletedTasks (ordinaryByScope lib kept) = [] := by
    refine deletedTasks_eq_nil again fun scope => ?_
    rw [ordinaryIn_retired retired, length_kept read]
    exact min_le_left _ _
  obtain ⟨summary, run, ids⟩ := enforce_free again retiredAt
  rw [none] at run ids
  exact ⟨summary, run, ids⟩

end Second

/-! ## When the law holds -/

section When

variable {Result : Type}

/-- The times are read, and surplus tasks are the older ones. -/
structure RetentionReady (lib : HistoryLibrary Result) (history : TaskHistory) : Prop where
  /-- No time is outside the calendar. -/
  told : ∀ row ∈ history.snapshots, ∃ protection, protectionIn lib history row = .ok protection
  /-- No surplus task finished later than one of its scope that is not surplus. -/
  texts : ∀ scope, ∀ kept ∈ ordinaryIn lib history scope, ¬ Surplus lib history kept →
    ∀ gone ∈ ordinaryIn lib history scope, Surplus lib history gone →
    ∀ instant later, FinishedAt lib kept instant → FinishedAt lib gone later →
      later ≤ instant
  /-- No stored blob is used by surplus tasks alone. -/
  blobs : ∀ digest, PrivateBlob history (fun taskId => ∃ row ∈ history.snapshots,
    row.taskId = taskId ∧ ordinary lib history row = true ∧
      Surplus lib history row) digest →
      history.blobs digest = none

variable {lib : HistoryLibrary Result} {history : TaskHistory}
  {rows : List (HistoryRow × Option TerminalProtection)}
  (read : protectedUnder lib history [] = .ok rows)
include read

theorem mem_deletedTasks_iff (taskId : String) : taskId ∈ deletedTasks (ordinaryByScope lib rows) ↔
      ∃ row ∈ history.snapshots, row.taskId = taskId ∧
        ordinary lib history row = true ∧ Surplus lib history row := by
  constructor
  · intro mem
    obtain ⟨row, listed, rfl⟩ := stored_of_protectedUnder read taskId mem
    exact ⟨row, listed, rfl, (mem_deletedTasks read listed).mp mem⟩
  · rintro ⟨row, listed, rfl, surplus⟩
    exact (mem_deletedTasks read listed).mpr surplus

omit read in
/-- The rows are read exactly if what protects each of them can be told. -/
theorem protectedUnder_iff : (∃ rows, protectedUnder lib history [] = .ok rows) ↔
      ∀ row ∈ history.snapshots, ∃ protection,
        protectionIn lib history row = .ok protection := by
  constructor
  · rintro ⟨rows, read⟩ row listed
    have inRows : row ∈ rows.map Prod.fst := by
      rw [map_fst_of_protectRows read]
      exact (mem_newestFirst _).mpr listed
    obtain ⟨entry, mem, rfl⟩ := mem_map.mp inRows
    exact ⟨entry.2, (mem_protectRows read mem).2⟩
  · intro told
    apply mapM_total
    intro row listed
    obtain ⟨protection, told⟩ := told row ((mem_newestFirst _).mp listed)
    exact ⟨(row, protection), congrArg (Except.map _) told⟩

variable {after : TaskHistory} {summary : RetentionTotals} {retiredAt : String}
  (run : enforceTerminalHistoryRetention lib retiredAt [] history = .ok (after, summary))
include run

omit read in
theorem read_of_enforce : ∃ rows, protectedUnder lib history [] = .ok rows := by
  cases read : protectedUnder lib history [] with
  | ok rows => exact ⟨rows, rfl⟩
  | error error =>
    have raised : (retentionAttempt lib retiredAt).run history .zero [] =
        (.error (.raised error), .zero) := by
      have early : SnapshotsRead history [] := by simp [SnapshotsRead]
      rw [run_retentionAttempt, if_pos early, read]
    rw [enforceTerminalHistoryRetention, Attempt.retry_raised raised] at run
    cases run

omit run in
theorem deleted_iff_surplus
    {scope : HistoryScope} {row : HistoryRow} (inScope : row ∈ ordinaryIn lib history scope) :
    row.taskId ∈ deletedTasks (ordinaryByScope lib rows) ↔ Surplus lib history row := by
  obtain ⟨listed, isOrdinary, -⟩ := mem_ordinaryIn.mp inScope
  rw [mem_deletedTasks read listed, and_iff_right isOrdinary]

omit run in
theorem retentionLaw_of_retired
    (retired : Retired history after (deletedTasks (ordinaryByScope lib rows))) :
    RetentionLaw lib history after (deletedTasks (ordinaryByScope lib rows)) ↔
      RetentionReady lib history := by
  have isPrivate : PrivateBlob history (· ∈ deletedTasks (ordinaryByScope lib rows)) =
      PrivateBlob history fun taskId => ∃ row ∈ history.snapshots, row.taskId = taskId ∧
        ordinary lib history row = true ∧ Surplus lib history row := by
    congr 1
    funext taskId
    exact propext (mem_deletedTasks_iff read taskId)
  constructor
  · intro law
    refine ⟨protectedUnder_iff.mp ⟨rows, read⟩, ?_, fun digest owned => ?_⟩
    · intro scope kept keptIn isKept gone goneIn isGone
      exact law.newest scope kept keptIn
        (mt (deleted_iff_surplus read keptIn).mp isKept) gone goneIn
        ((deleted_iff_surplus read goneIn).mpr isGone)
    · rw [← isPrivate] at owned
      rw [← retired.blobs]
      exact (law.blobs digest).1 owned
  · intro ready
    refine
      { snapshots := retired.snapshots
        ordinary taskId mem := ?_
        count := length_kept read, newest := ?_, results := retired.results
        events := retired.events
        blobs digest := ⟨fun owned => ?_, fun _ => congrFun retired.blobs digest⟩
        tombstones := retired.tombstones, settled := settled_of_retired read retired }
    · obtain ⟨row, listed, same, isOrdinary, -⟩ := (mem_deletedTasks_iff read taskId).mp mem
      exact ⟨row, listed, same, isOrdinary⟩
    · intro scope kept keptIn isKept gone goneIn isGone
      exact ready.texts scope kept keptIn
        (mt (deleted_iff_surplus read keptIn).mpr isKept) gone goneIn
        ((deleted_iff_surplus read goneIn).mp isGone)
    · rw [isPrivate] at owned
      rw [retired.blobs]
      exact ready.blobs digest owned

omit read

/-- What the law asks of the store before. -/
theorem ready_of_law (law : RetentionLaw lib history after summary.deletedTaskIds) :
    RetentionReady lib history := by
  obtain ⟨_, read⟩ := read_of_enforce run
  obtain ⟨totals, same, ids⟩ := enforce_free read retiredAt
  rw [run] at same
  cases same
  rw [ids] at law
  exact (retentionLaw_of_retired read (retired_enforcedHistory history retiredAt _)).mp law

omit run

/-- The retention does what it is for exactly if the texts of the times order the tasks of each
scope as the instants do, around the tenth place, and no blob is left without a result. -/
theorem retentionLaw_iff (lib : HistoryLibrary Result) (retiredAt : String)
    (history : TaskHistory) : (∃ after summary,
      enforceTerminalHistoryRetention lib retiredAt [] history = .ok (after, summary) ∧
        RetentionLaw lib history after summary.deletedTaskIds) ↔
      RetentionReady lib history := by
  constructor
  · rintro ⟨after, summary, run, law⟩
    exact ready_of_law run law
  · intro ready
    obtain ⟨_, read⟩ := protectedUnder_iff.mpr ready.told
    obtain ⟨summary, run, ids⟩ := enforce_free read retiredAt
    refine ⟨_, summary, run, ?_⟩
    rw [ids]
    exact (retentionLaw_of_retired read (retired_enforcedHistory history retiredAt _)).mpr ready

end When

/-! ## Two stores that break the law -/

/-- The library, for times that are written with two offsets. -/
def offsetLibrary : HistoryLibrary TaskCenter.SmallResult :=
  { smallLibrary with
    fromIsoFormat text :=
      if text = "2026-01-01T00:00:00+00:00" then .ok (some 1767225600000000)
      else if text = "2025-12-31T23:30:00-02:00" then .ok (some 1767231000000000)
      else .ok none }

def finishedTask (finishedTime taskId : String) : HistoryRow :=
  { completedTask with
    taskId := taskId, finishedTime := finishedTime, updatedTime := finishedTime }

/-- Ten tasks that finished at the new year. -/
def tenTasks : List HistoryRow :=
  ["job-01", "job-02", "job-03", "job-04", "job-05", "job-06", "job-07", "job-08", "job-09",
    "job-10"].map (finishedTask "2026-01-01T00:00:00Z")

/-- A task that finished later, in a time zone in which the old year was not over. -/
def lateTask : HistoryRow := finishedTask "2025-12-31T23:30:00-02:00" "job-00"

def offsetStore : TaskHistory :=
  { twoTasks with
    snapshots := lateTask :: tenTasks, distinct := by decide }

def reportText : String := TaskCenter.SmallResult.text ⟨false, .file⟩

/-- The result of a task, with its blob. -/
def reportResult : ResultRow where
  resultId := TaskCenter.sealedResultId TaskCenter.smallFormat "job-00" "finished"
    (TaskCenter.smallFormat.sha256 reportText)
  taskId := "job-00"
  terminalEventType := "finished"
  canonicalJson := ""
  sha256 := TaskCenter.smallFormat.sha256 reportText
  byteSize := reportText.utf8ByteSize
  createdTime := "2026-01-01T00:00:00Z"
  contentSha256 := TaskCenter.smallFormat.sha256 reportText
  blobReady := true

def reportTask : HistoryRow :=
  { finishedTask "2026-01-01T00:00:00Z" "job-00" with resultId := reportResult.resultId }

def blobStore : TaskHistory :=
  { twoTasks with
    snapshots := reportTask :: tenTasks, distinct := by decide, results := [reportResult]
    resultsDistinct := nodup_singleton _
    blobs digest :=
      if digest = TaskCenter.smallFormat.sha256 reportText then some reportText else none }

/-- The task that finished last is deleted, as the text of its time is the smallest; and the blob of
a deleted task stays. -/
theorem not_retentionLaw : (¬ ∃ after summary,
      enforceTerminalHistoryRetention offsetLibrary "2026-06-01T00:00:00Z" [] offsetStore =
        .ok (after, summary) ∧
      RetentionLaw offsetLibrary offsetStore after summary.deletedTaskIds) ∧
    ¬ ∃ after summary,
      enforceTerminalHistoryRetention offsetLibrary "2026-06-01T00:00:00Z" [] blobStore =
        .ok (after, summary) ∧
      RetentionLaw offsetLibrary blobStore after summary.deletedTaskIds := by
  constructor
  · rintro ⟨after, summary, run, law⟩
    have kept : ¬ taskHistoryScopeLimit ≤ newerCount HistoryRow.stamp (ordinaryIn offsetLibrary
        offsetStore ⟨"demo", "web_export_report"⟩)
          (finishedTask "2026-01-01T00:00:00Z" "job-10") := by
      decide +kernel
    have gone : taskHistoryScopeLimit ≤ newerCount HistoryRow.stamp (ordinaryIn offsetLibrary
        offsetStore ⟨"demo", "web_export_report"⟩) lateTask := by
      decide +kernel
    have later := (ready_of_law run law).texts ⟨"demo", "web_export_report"⟩
      (finishedTask "2026-01-01T00:00:00Z" "job-10") (by decide +kernel) kept lateTask
      (by decide +kernel) gone 1767225600000000 1767231000000000 rfl rfl
    exact absurd later (by decide)
  · rintro ⟨after, summary, run, law⟩
    have gone : taskHistoryScopeLimit ≤ newerCount HistoryRow.stamp (ordinaryIn offsetLibrary
        blobStore (taskHistoryScope reportTask)) reportTask := by
      decide +kernel
    have lost := (ready_of_law run law).blobs (TaskCenter.smallFormat.sha256 reportText)
      ⟨⟨reportResult, mem_singleton_self _, ⟨reportTask, mem_cons_self, rfl,
        by decide +kernel, gone⟩, rfl, rfl⟩, fun row listed _ => ⟨reportTask, mem_cons_self,
          by rw [mem_singleton.mp listed]; rfl, by decide +kernel, gone⟩⟩
    exact absurd lost (by decide +kernel)

end NetConsole.TaskRetention
