import NetConsole.TaskCenter.SealedResults

/-!
# What the readers accept

A stored snapshot can be read if its reference is complete (`Complete`): the
sealed result is there, it is a result of the task, and the hash and the content
that the snapshot has beside the reference agree with it. What is read is the row
itself with the content of the result (`snapshotFromRow_ok_iff`).
-/

set_option autoImplicit false

namespace NetConsole.TaskCenter

open Foundations List

variable {Result : Type} [DecidableEq Result] {format : ResultFormat Result}

/-- The reference of a snapshot leads to a result of its task, and the columns
beside it agree with the result. -/
structure Complete (format : ResultFormat Result) (store : TaskStore Result)
    (snapshot : TaskSnapshot Result) (verified : VerifiedResult Result) : Prop where
  found : store.resultRow snapshot.resultId = some verified.row
  readable : verifiedResultForRead format store.blobs verified.row = .ok verified
  task : verified.row.taskId = snapshot.taskId
  hash : snapshot.resultHash = "" ∨ snapshot.resultHash = verified.row.sha256
  content : snapshot.result = format.empty ∨
    format.canonicalJson snapshot.result = some verified.canonicalJson

/-- How a stored row is read. -/
inductive ReadAs (format : ResultFormat Result) (store : TaskStore Result)
    (row : TaskSnapshot Result) : TaskSnapshot Result → Prop where
  | plain (unnamed : row.resultId = "") : ReadAs format store row (decodeRow row)
  | through {verified : VerifiedResult Result} (named : row.resultId ≠ "")
      (complete : Complete format store row verified) :
      ReadAs format store row (decodeRow (row.throughReference format verified))

variable {store : TaskStore Result} {snapshot row : TaskSnapshot Result}

theorem snapshotFromRow_ok_iff :
    snapshotFromRow format store row = .ok snapshot ↔ ReadAs format store row snapshot := by
  constructor
  · intro ok
    unfold snapshotFromRow at ok
    split at ok
    case isTrue unnamed =>
      cases ok
      exact .plain unnamed
    case isFalse named =>
      split at ok
      · cases ok
      case h_2 sealed found =>
        obtain ⟨_, read, ok⟩ := bind_eq_ok.mp ok
        obtain rfl := verifiedResultForRead_row read
        obtain ⟨task, ok⟩ := guard_eq_ok.mp ok
        obtain ⟨hash, ok⟩ := guard_eq_ok.mp ok
        obtain ⟨_, content, rfl⟩ := map_eq_ok.mp ok
        refine .through named ⟨found, read, not_not.mp task, ?_, matchResult_ok.mp content⟩
        simpa [or_iff_not_imp_left] using hash
  · intro readAs
    cases readAs with
    | plain unnamed => rw [snapshotFromRow, if_pos unnamed]
    | through named complete =>
      obtain ⟨found, readable, task, hash, content⟩ := complete
      unfold snapshotFromRow
      rw [if_neg named, found]
      simp only [readable, Except.bind]
      rw [if_neg (by simpa using task), if_neg, matchResult_ok.mpr content]
      · rfl
      · simpa [or_iff_not_imp_left] using hash

theorem resourceKeySet_filter (keys : List String) :
    resourceKeySet (keys.filter fun key => stripped key ≠ "") = resourceKeySet keys := by
  induction keys with
  | nil => rfl
  | cons key rest ih =>
    by_cases blank : stripped key = ""
    · rw [filter_cons_of_neg (by simpa using blank), ih]
      simp [resourceKeySet, blank]
    · rw [filter_cons_of_pos (by simpa using blank)]
      simp only [resourceKeySet, map_cons] at ih ⊢
      rw [filter_cons_of_pos (by simpa using blank), filter_cons_of_pos (by simpa using blank), ih]

theorem ReadAs.task (readAs : ReadAs format store row snapshot) :
    snapshot.taskId = row.taskId ∧ snapshot.status = row.status ∧ snapshot.siteName = row.siteName ∧
      resourceKeySet snapshot.resourceKeys = resourceKeySet row.resourceKeys := by
  cases readAs with
  | plain unnamed => exact ⟨rfl, rfl, rfl, resourceKeySet_filter _⟩
  | through named complete => exact ⟨rfl, rfl, rfl, resourceKeySet_filter _⟩

theorem getSnapshot_some {taskId : String}
    (ok : getSnapshot format store taskId = .ok (some snapshot)) :
    ∃ row, store.snapshotRow taskId = some row ∧ ReadAs format store row snapshot := by
  unfold getSnapshot at ok
  split at ok
  · cases ok
  case h_2 row found =>
    obtain ⟨_, read, same⟩ := map_eq_ok.mp ok
    cases same
    exact ⟨row, found, snapshotFromRow_ok_iff.mp read⟩

theorem listSnapshots_ok {statuses : List TaskState} {limit : Nat}
    {snapshots : List (TaskSnapshot Result)}
    (ok : listSnapshots format store statuses limit = .ok snapshots) :
    ∀ snapshot ∈ snapshots, ∃ row ∈ store.snapshots, ReadAs format store row snapshot := by
  intro snapshot mem
  obtain ⟨row, among, read⟩ := exists_mem_of_mapM ok mem
  have stored := newest_subset snapshotKey among
  exact ⟨row, (mem_filter.mp stored).1, snapshotFromRow_ok_iff.mp read⟩

end NetConsole.TaskCenter
