import NetConsole.TaskCenter.Snapshot

/-!
# What an event changes

An event leaves the identity of its task, the resource keys, and the reference to
a sealed result alone (`applyEvent_task`), and the state after it depends on its
type only (`applyEvent_status`).
-/

set_option autoImplicit false

namespace NetConsole.TaskCenter

open Syslog (firstOf)
open Option

variable {Result : Type} [DecidableEq Result] {format : ResultFormat Result}

/-- The columns that no event changes. -/
structure SameOrigin (updated snapshot : TaskSnapshot Result) : Prop where
  taskId : updated.taskId = snapshot.taskId
  siteName : updated.siteName = snapshot.siteName
  resourceKeys : updated.resourceKeys = snapshot.resourceKeys
  createdTime : updated.createdTime = snapshot.createdTime
  resultId : updated.resultId = snapshot.resultId
  resultHash : updated.resultHash = snapshot.resultHash
  resultSummary : updated.resultSummary = snapshot.resultSummary

omit [DecidableEq Result] in
theorem applyTextIntegrity_eq (format : ResultFormat Result) (snapshot : TaskSnapshot Result)
    (payload : EventPayload Result) (time : String) :
    ∃ integrity reason updatedAt, applyTextIntegrity format snapshot payload time = { snapshot with
        textIntegrity := integrity, textIntegrityReason := reason
        textIntegrityUpdatedAt := updatedAt } := by
  unfold applyTextIntegrity
  dsimp only
  split
  · exact ⟨_, _, _, rfl⟩
  · split
    · exact ⟨_, _, _, rfl⟩
    · exact ⟨snapshot.textIntegrity, snapshot.textIntegrityReason,
        snapshot.textIntegrityUpdatedAt, rfl⟩

/-- The state after an event; a state that is none raises. -/
def statusAfter (snapshot : TaskSnapshot Result) (type : String) (payload : EventPayload Result) :
    Option TaskState :=
  if type = "state" || type = "artifact_rejected" then namedState snapshot payload
  else if type = "finished" then some (finishedEventState payload)
  else if type = "error" then some .failed
  else if type = "cancelled" then some .cancelled
  else some snapshot.status

variable {snapshot updated : TaskSnapshot Result}

theorem applyByType_sameOrigin {type time : String} {payload : EventPayload Result}
    (ok : applyByType format snapshot type payload time = some updated) :
    SameOrigin updated snapshot ∧ statusAfter snapshot type payload = some updated.status := by
  unfold applyByType at ok
  split_ifs at ok with state progress finished failed cancelled finalized imported rejected
  · obtain ⟨target, named, rfl⟩ := map_eq_some_iff.mp ok
    exact ⟨⟨rfl, rfl, rfl, rfl, rfl, rfl, rfl⟩, by simp [statusAfter, state, named, applyState]⟩
  · cases ok
    unfold applyProgress
    split <;> exact ⟨⟨rfl, rfl, rfl, rfl, rfl, rfl, rfl⟩, by simp [statusAfter, progress]⟩
  · cases ok
    exact ⟨⟨rfl, rfl, rfl, rfl, rfl, rfl, rfl⟩, by simp [statusAfter, finished, applyFinished]⟩
  · cases ok
    exact ⟨⟨rfl, rfl, rfl, rfl, rfl, rfl, rfl⟩, by simp [statusAfter, failed, applyUnfinished]⟩
  · cases ok
    exact ⟨⟨rfl, rfl, rfl, rfl, rfl, rfl, rfl⟩, by simp [statusAfter, cancelled, applyUnfinished]⟩
  · cases ok
    exact ⟨⟨rfl, rfl, rfl, rfl, rfl, rfl, rfl⟩,
      by simp [statusAfter, finalized, applyArtifactFinalized]⟩
  · cases ok
    unfold applyMeshImport
    split <;> exact ⟨⟨rfl, rfl, rfl, rfl, rfl, rfl, rfl⟩, by simp [statusAfter, imported]⟩
  · obtain ⟨target, named, rfl⟩ := map_eq_some_iff.mp ok
    exact ⟨⟨rfl, rfl, rfl, rfl, rfl, rfl, rfl⟩,
      by simp [statusAfter, rejected, named, applyArtifactRejected]⟩
  · cases ok
    exact ⟨⟨rfl, rfl, rfl, rfl, rfl, rfl, rfl⟩,
      by simp [statusAfter, state, finished, failed, cancelled, rejected]⟩

variable {event : TaskEvent Result} (ok : applyEvent format snapshot event = some updated)
include ok

theorem applyEvent_sameOrigin : SameOrigin updated snapshot := by
  unfold applyEvent at ok
  obtain ⟨changed, byType, rfl⟩ := map_eq_some_iff.mp ok
  obtain ⟨origin, _⟩ := applyByType_sameOrigin byType
  obtain ⟨_, _, _, same⟩ := applyTextIntegrity_eq format changed event.payload event.time
  rw [same]
  exact ⟨origin.taskId, origin.siteName, origin.resourceKeys, origin.createdTime, origin.resultId,
    origin.resultHash, origin.resultSummary⟩

theorem applyEvent_status :
    statusAfter snapshot event.type event.payload = some updated.status := by
  obtain ⟨changed, byType, rfl⟩ := map_eq_some_iff.mp ok
  obtain ⟨_, status⟩ := applyByType_sameOrigin byType
  obtain ⟨_, _, _, same⟩ := applyTextIntegrity_eq format changed event.payload event.time
  rw [same]
  exact status

end NetConsole.TaskCenter
