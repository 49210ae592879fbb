import NetConsole.Wps.Sync

/-!
# What an execution changes

Executing a run changes the row of that run and no other; it keeps the key and the
request of the run (`executeRun_changes`). Executing a batch keeps the requests of all
runs and the revisions of all batches (`executePersistedBatch_keeps`).
-/

set_option autoImplicit false

namespace NetConsole.Wps

open List

section Execution

variable (lib : WpsLibrary) (call : SyncCall)

/-- Only the row with a key has changed, which keeps its request, only the batch of that
row has been reported, and what has been submitted and answered stays so. -/
structure RunChanged (key : TaskKey) (store after : SyncStore) : Prop where
  batches : after.batches = store.batches
  reported : ∀ batchId ∈ after.reported, batchId = key.batchId ∨ batchId ∈ store.reported
  submits : store.submitted ⊆ after.submitted
  answers : store.answered ⊆ after.answered
  runs : ∃ update : TargetRun → TargetRun,
    (∀ run, (update run).key = run.key ∧ (update run).requestPayload = run.requestPayload) ∧
      after.runs = store.runs.map fun run => if run.key = key then update run else run

namespace RunChanged

variable (key : TaskKey) (store : SyncStore)

theorem refl : RunChanged key store store where
  batches := rfl
  reported _ := .inr
  submits := Subset.refl _
  answers := Subset.refl _
  runs := ⟨id, fun _ => ⟨rfl, rfl⟩, by simp⟩

theorem trans {key : TaskKey} {first second third : SyncStore}
    (one : RunChanged key first second) (two : RunChanged key second third) :
    RunChanged key first third where
  batches := two.batches.trans one.batches
  reported := by
    intro batchId mem
    rcases two.reported batchId mem with own | earlier
    · exact .inl own
    · exact one.reported batchId earlier
  submits := List.Subset.trans one.submits two.submits
  answers := List.Subset.trans one.answers two.answers
  runs := by
    obtain ⟨before, keepsBefore, runsBefore⟩ := one.runs
    obtain ⟨behind, keepsBehind, runsBehind⟩ := two.runs
    refine ⟨fun run => behind (before run), ?_, ?_⟩
    · intro run
      obtain ⟨keyBefore, payloadBefore⟩ := keepsBefore run
      obtain ⟨keyBehind, payloadBehind⟩ := keepsBehind (before run)
      exact ⟨keyBehind.trans keyBefore, payloadBehind.trans payloadBefore⟩
    · rw [runsBehind, runsBefore, map_map]
      apply map_congr_left
      intro run _
      by_cases own : run.key = key
      · simp [own, (keepsBefore run).1]
      · simp [own]

theorem updateRun {key : TaskKey} {store : SyncStore} {update : TargetRun → TargetRun}
    (keeps : ∀ run, (update run).key = run.key ∧ (update run).requestPayload = run.requestPayload) :
    RunChanged key store (store.updateRun key update) where
  batches := rfl
  reported _ := .inr
  submits := Subset.refl _
  answers := Subset.refl _
  runs := ⟨update, keeps, rfl⟩

theorem poll (status : RunStatus)
    (remoteStatus errorCode : String) (businessResult : Bool) : RunChanged key store
      (store.updateRemoteTaskPoll key status remoteStatus errorCode businessResult) :=
  .updateRun fun _ => ⟨rfl, rfl⟩

theorem complete (status : RunStatus) (result : ResultSummary)
    (errorCode remoteTaskStatus : String) : RunChanged key store
      (store.completeTargetRun key status result errorCode remoteTaskStatus) :=
  .updateRun fun _ => ⟨rfl, rfl⟩

theorem submitted (taskId remoteStatus : String) :
    RunChanged key store (store.updateRemoteTaskSubmitted key taskId remoteStatus) :=
  .updateRun fun _ => ⟨rfl, rfl⟩

theorem report : RunChanged key store (store.report key) where
  batches := rfl
  reported := by
    intro batchId mem
    exact mem_cons.mp mem
  submits := Subset.refl _
  answers := Subset.refl _
  runs := ⟨id, fun _ => ⟨rfl, rfl⟩, by simp [SyncStore.report]⟩

theorem submit (payload : RequestPayload) : RunChanged key store (store.submit payload) where
  batches := rfl
  reported _ := .inr
  submits := subset_cons_self _ _
  answers := Subset.refl _
  runs := ⟨id, fun _ => ⟨rfl, rfl⟩, by simp [SyncStore.submit]⟩

theorem answer (payload : RequestPayload) (body : Worker.Event) :
    RunChanged key store (store.answer payload body) where
  batches := rfl
  reported _ := .inr
  submits := Subset.refl _
  answers := subset_cons_self _ _
  runs := ⟨id, fun _ => ⟨rfl, rfl⟩, by simp [SyncStore.answer]⟩

end RunChanged

variable (target : SyncTarget) (payload : RequestPayload) (key : TaskKey)

theorem readFinished_changes (body : Worker.Event) (remoteStatus : String) (store : SyncStore) :
    RunChanged key store (readFinished lib target payload key body remoteStatus store).1 := by
  have finished := RunChanged.poll key store .remoteFinished remoteStatus "" true
  unfold readFinished
  split
  · exact finished.trans (.answer ..)
  · exact finished
  · split
    · exact finished.trans (.poll ..)
    · split
      · exact finished
      · exact finished

theorem readAnswer_changes (body : Worker.Event) (store : SyncStore) :
    RunChanged key store (readAnswer lib target payload key body store).1 := by
  unfold readAnswer
  dsimp only
  split
  · exact .refl _ _
  · split
    · exact .poll ..
    · split
      · exact (RunChanged.report _ _).trans (.poll ..)
      · split
        · exact .poll ..
        · exact (RunChanged.report _ _).trans (readFinished_changes ..)

theorem pollRemote_changes
    (lastRemoteStatus : String) (round : PollRound) (store : SyncStore) : RunChanged key store
      (pollRemote lib target payload key lastRemoteStatus round store).1 := by
  unfold pollRemote
  split
  · exact .refl _ _
  · exact .poll ..
  · exact readAnswer_changes ..
  · exact .poll ..

theorem pollUntilDone_changes
    (lastRemoteStatus : String) (rounds : List PollRound) (store : SyncStore) : RunChanged key store
      (pollUntilDone lib target payload key lastRemoteStatus rounds store).1 := by
  induction rounds generalizing lastRemoteStatus store with
  | nil => exact .refl _ _
  | cons round rest ih =>
    have first := pollRemote_changes lib target payload key lastRemoteStatus round store
    unfold pollUntilDone
    split
    · next after status passed =>
      rw [passed] at first
      exact first.trans (ih status after)
    · next after result passed =>
      rw [passed] at first
      exact first

variable (run : TargetRun)

theorem executeAsyncTarget_changes (submission : Submission)
    (rounds : List PollRound) (store : SyncStore) : RunChanged run.key store
      (executeAsyncTarget lib target payload run submission rounds store).1 := by
  unfold executeAsyncTarget
  split
  · exact pollUntilDone_changes ..
  · have handed := RunChanged.submit run.key store payload
    split
    · exact handed
    · exact handed
    · split
      · exact handed
      · exact (handed.trans (RunChanged.submitted ..)).trans (pollUntilDone_changes ..)

theorem succeedRun_changes (result : Worker.Event) (store : SyncStore) :
    RunChanged run.key store (succeedRun lib payload run result store).1 := by
  unfold succeedRun
  split
  · exact .refl run.key _
  · split
    · exact .refl run.key _
    · exact .refl run.key _
    · exact .complete ..

theorem failRun_changes (error : WpsError) (store : SyncStore) :
    RunChanged run.key store (failRun lib run error store).1 := by
  unfold failRun
  split
  · exact .poll ..
  · split
    · exact .refl run.key _
    · exact .complete ..

theorem submitRun_changes (store : SyncStore) :
    RunChanged run.key store (submitRun lib call payload run store).1 := by
  have remote := executeAsyncTarget_changes lib call.target payload run call.submission
    call.rounds store
  unfold submitRun
  split
  · exact failRun_changes ..
  · split
    · next after result executed =>
      rw [executed] at remote
      exact remote.trans (succeedRun_changes ..)
    · next after error executed =>
      rw [executed] at remote
      exact remote.trans (failRun_changes ..)
    · next after raised executed =>
      rw [executed] at remote
      exact remote

theorem executeRun_changes (store : SyncStore) :
    RunChanged run.key store (executeRun lib call run store).1 := by
  unfold executeRun
  split
  · exact .refl run.key _
  · split
    · exact .refl run.key _
    · split
      · exact .refl run.key _
      · split
        · exact .refl run.key _
        · exact submitRun_changes ..

/-! ## Requests and revisions -/

/-- What a run has been created with. -/
def TargetRun.request (run : TargetRun) : TaskKey × Option RequestPayload :=
  (run.key, run.requestPayload)

/-- The requests of the runs and the revisions of the batches are the same, and what has
been submitted and answered stays so. -/
structure RequestsKept (store after : SyncStore) : Prop where
  runs : after.runs.map (·.request) = store.runs.map (·.request)
  batches : after.batches.map (fun batch => (batch.batchId, batch.snapshotRevision)) =
    store.batches.map fun batch => (batch.batchId, batch.snapshotRevision)
  submits : store.submitted ⊆ after.submitted
  answers : store.answered ⊆ after.answered

namespace RequestsKept

theorem refl (store : SyncStore) : RequestsKept store store where
  runs := rfl
  batches := rfl
  submits := Subset.refl _
  answers := Subset.refl _

theorem trans {first second third : SyncStore} (one : RequestsKept first second)
    (two : RequestsKept second third) : RequestsKept first third where
  runs := two.runs.trans one.runs
  batches := two.batches.trans one.batches
  submits := List.Subset.trans one.submits two.submits
  answers := List.Subset.trans one.answers two.answers

theorem updateBatch (store : SyncStore) (batchId : String) {update : Batch → Batch}
    (keeps : ∀ batch, (update batch).batchId = batch.batchId ∧
      (update batch).snapshotRevision = batch.snapshotRevision) :
    RequestsKept store (store.updateBatch batchId update) where
  runs := rfl
  batches := by
    simp only [SyncStore.updateBatch, map_map]
    apply map_congr_left
    intro batch _
    by_cases own : batch.batchId = batchId
    · simp [own, (keeps batch).1, (keeps batch).2]
    · simp [own]
  submits := Subset.refl _
  answers := Subset.refl _

end RequestsKept

theorem RunChanged.requestsKept {key : TaskKey} {store after : SyncStore}
    (changed : RunChanged key store after) : RequestsKept store after where
  runs := by
    obtain ⟨_, keeps, runs⟩ := changed.runs
    rw [runs, map_map]
    apply map_congr_left
    intro run _
    by_cases own : run.key = key
    · simp [TargetRun.request, own, (keeps run).1, (keeps run).2]
    · simp [own]
  batches := by rw [changed.batches]
  submits := changed.submits
  answers := changed.answers

theorem executeRuns_keeps (runs : List TargetRun) (store : SyncStore) :
    RequestsKept store (executeRuns lib call runs store).1 := by
  induction runs generalizing store with
  | nil => exact .refl _
  | cons run rest ih =>
    have first := (executeRun_changes lib call run store).requestsKept
    unfold executeRuns
    split
    · next after failure executed =>
      rw [executed] at first
      exact first
    · next after result executed =>
      rw [executed] at first
      have others := ih after
      split
      · next last failure ended =>
        rw [ended] at others
        exact first.trans others
      · next last results ended =>
        rw [ended] at others
        exact first.trans others

theorem executePersistedBatch_keeps (batchId revision : String) (runs : List TargetRun)
    (store : SyncStore) :
    RequestsKept store (executePersistedBatch lib call batchId revision runs store).1 := by
  have executed := executeRuns_keeps lib call runs store
  unfold executePersistedBatch
  split
  · next after failure ended =>
    rw [ended] at executed
    exact executed
  · next after results ended =>
    rw [ended] at executed
    split
    · exact executed
    · split
      · exact executed
      · apply executed.trans
        dsimp only
        split
        · exact .updateBatch _ _ fun _ => ⟨rfl, rfl⟩
        · exact .updateBatch _ _ fun _ => ⟨rfl, rfl⟩

theorem executePersistedBatch_summary {batchId revision : String} {runs : List TargetRun}
    {store : SyncStore} {reported : String} {status : BatchStatus} {reportedRevision : String}
    (ended : (executePersistedBatch lib call batchId revision runs store).2 =
      .summary reported status reportedRevision) :
    reported = batchId ∧ reportedRevision = revision := by
  unfold executePersistedBatch at ended
  split at ended
  · cases ended
  · split at ended
    · cases ended
    · split at ended
      · cases ended
      · cases ended
        exact ⟨rfl, rfl⟩

/-! ## A call -/

/-- What a call does: it fails before it looks for a batch, it fails when there is none to
go on with, it goes on with one, or it executes one of its own. -/
inductive SyncCase (store : SyncStore) : SyncStore × SyncResult → Prop
  | refused (code : String) : SyncCase store (store, .failed (.wps { code := code }))
  | raised (failure : SyncFailure) (absent : store.findResumableBatch [standardTargetCode] = none) :
      SyncCase store (store, .failed failure)
  | resumed {batch : Batch} {runs : List TargetRun}
      (found : store.findResumableBatch [standardTargetCode] = some (batch, runs)) :
      SyncCase store
        (executePersistedBatch lib call batch.batchId batch.snapshotRevision runs store)
  | own {snapshot : Snapshot} (absent : store.findResumableBatch [standardTargetCode] = none)
      (current : call.expectedRevision = "" ∨ call.currentRevision = call.expectedRevision)
      (built : call.snapshot = .ok snapshot) :
      SyncCase store (executeNewBatch lib call snapshot store)

theorem sync_cases (store : SyncStore) : SyncCase lib call store (sync lib call store) := by
  unfold sync
  split
  · exact .refused _
  · split
    · exact .refused _
    · split
      · next batch runs found => exact .resumed found
      · next absent =>
        split
        · exact .raised _ absent
        · split
          · exact .raised _ absent
          · next passed =>
            split
            · exact .raised _ absent
            · next snapshot built =>
              have current :
                  call.expectedRevision = "" ∨ call.currentRevision = call.expectedRevision := by
                by_cases unasked : call.expectedRevision = ""
                · exact .inl unasked
                · exact .inr (not_not.mp fun other => passed ⟨unasked, other⟩)
              exact .own absent current built

end Execution

end NetConsole.Wps
