import Mathlib.Data.List.Nodup
import NetConsole.Wps.Execution

/-!
# Requests that have been submitted and answered

A run has a remote task only when its request has been submitted, and a successful result
only when an answer has been found valid for the request besides: one that names the batch,
the revision and the digest of the request (`SyncStore.Traced`).

Each step of a call keeps this, so a batch that ends with success has pushed the requests of
all its runs (`executePersistedBatch_pushed`).
-/

set_option autoImplicit false

namespace NetConsole.Wps

open Worker (Event)
open List

/-! ## Repositories whose results come from answers -/

/-- A result of success, with or without warnings. -/
def ResultSummary.IsSuccess (result : ResultSummary) : Prop :=
  result.status = some .success ∨ result.status = some .successWithWarnings

/-- A request that has been submitted, and for which an answer has been found valid. -/
def SyncStore.Pushed (store : SyncStore) (payload : RequestPayload) : Prop :=
  payload ∈ store.submitted ∧ ∃ body, (payload, body) ∈ store.answered

/-- A run whose task comes from a submission, and whose success comes from an answer. -/
structure TargetRun.Traced (store : SyncStore) (run : TargetRun) : Prop where
  submitted : run.remoteTaskId ≠ "" → ∀ payload, run.requestPayload = some payload →
    payload ∈ store.submitted
  pushed : ∀ result, run.resultSummary = some result → result.IsSuccess →
    ∀ payload, run.requestPayload = some payload → store.Pushed payload

/-- Every run has a key of its own and is traced, and every answer is valid for its
request. -/
structure SyncStore.Traced (lib : WpsLibrary) (store : SyncStore) : Prop where
  keys : (store.runs.map (·.key)).Nodup
  runs : ∀ run ∈ store.runs, run.Traced store
  valid : ∀ entry ∈ store.answered, ∃ target result,
    validateSyncResponse lib target entry.1 entry.2 = .ok result

/-- The rows with a key have a request. -/
def SyncStore.Requests (store : SyncStore) (key : TaskKey) (payload : RequestPayload) : Prop :=
  ∀ row ∈ store.runs, row.key = key → row.requestPayload = some payload

theorem empty_traced (lib : WpsLibrary) : SyncStore.empty.Traced lib where
  keys := nodup_nil
  runs _ mem := absurd mem not_mem_nil
  valid _ mem := absurd mem not_mem_nil

section Steps

variable {lib : WpsLibrary} {store after : SyncStore} {key other : TaskKey}
  {payload : RequestPayload} {run : TargetRun}

theorem RunChanged.pushed (changed : RunChanged key store after) (pushed : store.Pushed payload) :
    after.Pushed payload := by
  obtain ⟨submitted, body, answered⟩ := pushed
  exact ⟨changed.submits submitted, body, changed.answers answered⟩

theorem RequestsKept.pushed (kept : RequestsKept store after) (pushed : store.Pushed payload) :
    after.Pushed payload := by
  obtain ⟨submitted, body, answered⟩ := pushed
  exact ⟨kept.submits submitted, body, kept.answers answered⟩

theorem RunChanged.traced (changed : RunChanged key store after) (traced : run.Traced store) :
    run.Traced after where
  submitted tasked payload requested := changed.submits (traced.submitted tasked payload requested)
  pushed result told success payload requested :=
    changed.pushed (traced.pushed result told success payload requested)

theorem RunChanged.requests (changed : RunChanged key store after)
    (requests : store.Requests other payload) : after.Requests other payload := by
  obtain ⟨update, keeps, runs⟩ := changed.runs
  intro row mem own
  rw [runs] at mem
  obtain ⟨old, listed, rfl⟩ := mem_map.mp mem
  by_cases mine : old.key = key
  · rw [if_pos mine] at own ⊢
    rw [(keeps old).2]
    exact requests old listed ((keeps old).1.symm.trans own)
  · rw [if_neg mine] at own ⊢
    exact requests old listed own

theorem SyncStore.Traced.requests (traced : store.Traced lib) (mem : run ∈ store.runs)
    (requested : run.requestPayload = some payload) : store.Requests run.key payload := by
  intro row listed own
  rw [inj_on_of_nodup_map traced.keys listed mem own]
  exact requested

/-- An update of the rows with a key keeps the repository traced when it keeps these rows
traced. -/
theorem SyncStore.Traced.updateRun {update : TargetRun → TargetRun} (traced : store.Traced lib)
    (keeps : ∀ run, (update run).key = run.key ∧ (update run).requestPayload = run.requestPayload)
    (rows : ∀ row ∈ store.runs, row.key = key → row.Traced store → (update row).Traced store) :
    (store.updateRun key update).Traced lib := by
  have changed : RunChanged key store (store.updateRun key update) := .updateRun keeps
  constructor
  · have same : (store.updateRun key update).runs.map (·.key) = store.runs.map (·.key) := by
      simp only [SyncStore.updateRun, map_map]
      apply map_congr_left
      intro row _
      by_cases own : row.key = key
      · simp [own, (keeps row).1]
      · simp [own]
    rw [same]
    exact traced.keys
  · intro row mem
    obtain ⟨old, listed, rfl⟩ := mem_map.mp mem
    by_cases own : old.key = key
    · rw [if_pos own]
      exact changed.traced (rows old listed own (traced.runs old listed))
    · rw [if_neg own]
      exact changed.traced (traced.runs old listed)
  · exact traced.valid

theorem SyncStore.Traced.poll (traced : store.Traced lib) (status : RunStatus)
    (remoteStatus errorCode : String) (businessResult : Bool) :
    (store.updateRemoteTaskPoll key status remoteStatus errorCode businessResult).Traced lib := by
  refine traced.updateRun (fun _ => ⟨rfl, rfl⟩) ?_
  intro row _ _ rowTraced
  refine ⟨rowTraced.submitted, ?_⟩
  intro result told success
  cases businessResult with
  | true =>
    cases told
    rcases success with success | success
    · cases success
    · cases success
  | false => exact rowTraced.pushed result told success

theorem SyncStore.Traced.complete (traced : store.Traced lib) (status : RunStatus)
    {result : ResultSummary} (errorCode remoteTaskStatus : String)
    (requests : store.Requests key payload) (pushed : result.IsSuccess → store.Pushed payload) :
    (store.completeTargetRun key status result errorCode remoteTaskStatus).Traced lib := by
  refine traced.updateRun (fun _ => ⟨rfl, rfl⟩) ?_
  intro row listed own rowTraced
  refine ⟨rowTraced.submitted, ?_⟩
  intro told same success other requested
  cases same
  rw [Option.some.inj ((requests row listed own).symm.trans requested)] at pushed
  exact pushed success

theorem SyncStore.Traced.submitted (traced : store.Traced lib) (taskId remoteStatus : String)
    (requests : store.Requests key payload) (listed : payload ∈ store.submitted) :
    (store.updateRemoteTaskSubmitted key taskId remoteStatus).Traced lib := by
  refine traced.updateRun (fun _ => ⟨rfl, rfl⟩) ?_
  intro row mem own rowTraced
  refine ⟨?_, rowTraced.pushed⟩
  intro _ other requested
  rw [← Option.some.inj ((requests row mem own).symm.trans requested)]
  exact listed

theorem SyncStore.Traced.report (traced : store.Traced lib) (key : TaskKey) :
    (store.report key).Traced lib where
  keys := traced.keys
  runs row listed := (RunChanged.report key store).traced (traced.runs row listed)
  valid := traced.valid

theorem SyncStore.Traced.submit (traced : store.Traced lib) (payload : RequestPayload) :
    (store.submit payload).Traced lib where
  keys := traced.keys
  runs row listed := (RunChanged.submit row.key store payload).traced (traced.runs row listed)
  valid := traced.valid

theorem SyncStore.Traced.answer {target : SyncTarget} {body result : Event}
    (traced : store.Traced lib)
    (validated : validateSyncResponse lib target payload body = .ok result) :
    (store.answer payload body).Traced lib where
  keys := traced.keys
  runs row listed := (RunChanged.answer row.key store payload body).traced (traced.runs row listed)
  valid entry listed := by
    rcases mem_cons.mp listed with rfl | earlier
    · exact ⟨target, result, validated⟩
    · exact traced.valid entry earlier

/-! ## The loop -/

/-- A repository behind queries: it is traced, and a result comes from a valid answer. -/
structure Answered (lib : WpsLibrary) (payload : RequestPayload) (after : SyncStore)
    (ended : Except SyncFailure Event → Prop) : Prop where
  traced : after.Traced lib
  answered : ∀ result, ended (.ok result) → ∃ body, (payload, body) ∈ after.answered

variable (lib) (target : SyncTarget) (payload) (key)

theorem readFinished_answered (body : Event) (remoteStatus : String)
    (traced : store.Traced lib) : Answered lib payload
      (readFinished lib target payload key body remoteStatus store).1
      fun result => (readFinished lib target payload key body remoteStatus store).2 =
        .finished result := by
  have finished : (store.updateRemoteTaskPoll key .remoteFinished remoteStatus "" true).Traced
      lib := traced.poll ..
  unfold readFinished
  split
  · next result validated =>
    exact ⟨finished.answer validated, fun _ _ => ⟨body, mem_cons_self⟩⟩
  · exact ⟨finished, nofun⟩
  · split
    · exact ⟨finished.poll .., nofun⟩
    · split
      · exact ⟨finished, nofun⟩
      · exact ⟨finished, nofun⟩

theorem readAnswer_answered (body : Event) (traced : store.Traced lib) :
    Answered lib payload (readAnswer lib target payload key body store).1
      fun result => (readAnswer lib target payload key body store).2 = .finished result := by
  unfold readAnswer
  dsimp only
  split
  · exact ⟨traced, nofun⟩
  · split
    · exact ⟨traced.poll .., nofun⟩
    · split
      · exact ⟨(traced.report key).poll .., nofun⟩
      · split
        · exact ⟨traced.poll .., nofun⟩
        · exact readFinished_answered _ _ _ _ body _ (traced.report key)

theorem pollRemote_answered (lastRemoteStatus : String) (round : PollRound)
    (traced : store.Traced lib) : Answered lib payload
      (pollRemote lib target payload key lastRemoteStatus round store).1
      fun result => (pollRemote lib target payload key lastRemoteStatus round store).2 =
        .finished result := by
  unfold pollRemote
  split
  · exact ⟨traced, nofun⟩
  · refine ⟨traced.poll .., ?_⟩
    intro result ended
    dsimp only at ended
    split at ended
    · cases ended
    · cases ended
  · exact readAnswer_answered _ _ _ _ _ traced
  · exact ⟨traced.poll .., nofun⟩

theorem pollUntilDone_answered (lastRemoteStatus : String) (rounds : List PollRound)
    (traced : store.Traced lib) : Answered lib payload
      (pollUntilDone lib target payload key lastRemoteStatus rounds store).1
      fun result => (pollUntilDone lib target payload key lastRemoteStatus rounds store).2 =
        result := by
  induction rounds generalizing lastRemoteStatus store with
  | nil => exact ⟨traced, nofun⟩
  | cons round rest ih =>
    have first := pollRemote_answered lib key payload target lastRemoteStatus round traced
    unfold pollUntilDone
    generalize pollRemote lib target payload key lastRemoteStatus round store = passed at first
    obtain ⟨behind, outcome⟩ := passed
    cases outcome with
    | again status => exact ih status first.traced
    | finished result => exact ⟨first.traced, fun told ended => first.answered told (ended ▸ rfl)⟩

/-! ## Runs -/

variable {payload}

/-- A repository behind the execution of a run: it is traced, and a success has pushed the
request. -/
structure RunPushed (lib : WpsLibrary) (payload : RequestPayload) (after : SyncStore)
    (ended : ResultSummary → Prop) : Prop where
  traced : after.Traced lib
  pushed : ∀ result, ended result → result.IsSuccess → after.Pushed payload

theorem executeAsyncTarget_pushed (submission : Submission) (rounds : List PollRound)
    (traced : store.Traced lib) (requests : store.Requests run.key payload)
    (tasked : run.remoteTaskId ≠ "" → payload ∈ store.submitted) :
    (executeAsyncTarget lib target payload run submission rounds store).1.Traced lib ∧
      ∀ result, (executeAsyncTarget lib target payload run submission rounds store).2 = .ok result →
          (executeAsyncTarget lib target payload run submission rounds store).1.Pushed payload := by
  -- the loop keeps what has been submitted before it
  have polled (lastRemoteStatus : String) {handed : SyncStore} (listed : payload ∈ handed.submitted)
      (handedTraced : handed.Traced lib) :
      (pollUntilDone lib target payload run.key lastRemoteStatus rounds handed).1.Traced lib ∧
        ∀ result, (pollUntilDone lib target payload run.key lastRemoteStatus rounds handed).2 =
          .ok result →
            (pollUntilDone lib target payload run.key lastRemoteStatus rounds handed).1.Pushed
              payload := by
    have answered := pollUntilDone_answered lib run.key payload target lastRemoteStatus rounds
      handedTraced
    refine ⟨answered.traced, ?_⟩
    intro result ended
    have changed := pollUntilDone_changes lib target payload run.key lastRemoteStatus rounds
      handed
    exact ⟨changed.submits listed, answered.answered result ended⟩
  unfold executeAsyncTarget
  split
  · next resumed => exact polled _ (tasked resumed) traced
  · have handed := traced.submit payload
    split
    · exact ⟨handed, nofun⟩
    · exact ⟨handed, nofun⟩
    · split
      · exact ⟨handed, nofun⟩
      · have kept := (RunChanged.submit run.key store payload).requests requests
        exact polled _ mem_cons_self (handed.submitted _ _ kept mem_cons_self)

theorem succeedRun_pushed (result : Event) (traced : store.Traced lib)
    (requests : store.Requests run.key payload) (pushed : store.Pushed payload) :
    RunPushed lib payload (succeedRun lib payload run result store).1
      fun told => (succeedRun lib payload run result store).2 = .ok told := by
  unfold succeedRun
  split
  · exact ⟨traced, nofun⟩
  · split
    · exact ⟨traced, nofun⟩
    · exact ⟨traced, nofun⟩
    · exact ⟨traced.complete _ _ _ requests fun _ => pushed, fun _ _ _ =>
        (RunChanged.complete ..).pushed pushed⟩

theorem failRun_pushed (error : WpsError) (traced : store.Traced lib)
    (requests : store.Requests run.key payload) :
    RunPushed lib payload (failRun lib run error store).1
      fun told => (failRun lib run error store).2 = .ok told := by
  have unknown : ¬ ResultSummary.IsSuccess { status := some .remoteResultUnknown } := by
    simp [ResultSummary.IsSuccess]
  have failed : ¬ ResultSummary.IsSuccess { status := some .failed } := by
    simp [ResultSummary.IsSuccess]
  unfold failRun
  split
  · refine ⟨traced.poll .., ?_⟩
    intro told ended success
    cases ended
    exact absurd success unknown
  · split
    · exact ⟨traced, nofun⟩
    · refine ⟨traced.complete _ _ _ requests fun success => absurd success failed, ?_⟩
      intro told ended success
      cases ended
      exact absurd success failed

variable (call : SyncCall)

theorem submitRun_pushed (traced : store.Traced lib) (requests : store.Requests run.key payload)
    (tasked : run.remoteTaskId ≠ "" → payload ∈ store.submitted) :
    RunPushed lib payload (submitRun lib call payload run store).1
      fun told => (submitRun lib call payload run store).2 = .ok told := by
  unfold submitRun
  split
  · exact failRun_pushed lib _ traced requests
  · have remote := executeAsyncTarget_pushed lib call.target call.submission call.rounds traced
      requests tasked
    have kept := (executeAsyncTarget_changes lib call.target payload run call.submission
      call.rounds store).requests requests
    generalize executeAsyncTarget lib call.target payload run call.submission call.rounds
      store = executed at remote kept
    obtain ⟨behind, outcome⟩ := executed
    cases outcome with
    | ok result => exact succeedRun_pushed lib result remote.1 kept (remote.2 result rfl)
    | error failure =>
      cases failure with
      | wps error => exact failRun_pushed lib error remote.1 kept
      | python raised => exact ⟨remote.1, nofun⟩

theorem executeRun_pushed (traced : store.Traced lib) (mine : run.Traced store)
    (requests : store.Requests run.key payload) (requested : run.requestPayload = some payload) :
    RunPushed lib payload (executeRun lib call run store).1
      fun told => (executeRun lib call run store).2 = .ok told := by
  unfold executeRun
  split
  · exact ⟨traced, nofun⟩
  · split
    · exact ⟨traced, nofun⟩
    · split
      · next result stored =>
        refine ⟨traced, ?_⟩
        intro told ended success
        cases ended
        unfold storedResult at stored
        split at stored
        · exact mine.pushed _ stored success payload requested
        · cases stored
      · rw [requested]
        exact submitRun_pushed lib call traced requests fun tasked =>
          mine.submitted tasked payload requested

/-! ## Batches -/

/-- A run of a batch that is executed: the row of a run with a request. -/
structure TargetRun.IsRowOf (run : TargetRun) (store : SyncStore) : Prop where
  traced : run.Traced store
  requests : ∃ payload, run.requestPayload = some payload ∧ store.Requests run.key payload

theorem executeRuns_pushed (runs : List TargetRun) (traced : store.Traced lib)
    (rows : ∀ run ∈ runs, run.IsRowOf store) : (executeRuns lib call runs store).1.Traced lib ∧
      ∀ results, (executeRuns lib call runs store).2 = .ok results →
        (∀ result ∈ results, result.IsSuccess) → ∀ run ∈ runs, ∀ payload,
          run.requestPayload = some payload →
            (executeRuns lib call runs store).1.Pushed payload := by
  induction runs generalizing store with
  | nil => exact ⟨traced, fun _ _ _ _ mem => absurd mem not_mem_nil⟩
  | cons run rest ih =>
    obtain ⟨mine, payload, requested, requests⟩ := rows run mem_cons_self
    have first := executeRun_pushed lib call traced mine requests requested
    have changed := executeRun_changes lib call run store
    unfold executeRuns
    generalize executeRun lib call run store = executed at first changed
    obtain ⟨behind, outcome⟩ := executed
    cases outcome with
    | error failure =>
      refine ⟨first.traced, ?_⟩
      intro results ended
      cases ended
    | ok result =>
      have others := ih first.traced fun other mem => {
        traced := changed.traced (rows other (mem_cons_of_mem _ mem)).traced
        requests := by
          obtain ⟨_, payload', requested', requests'⟩ := rows other (mem_cons_of_mem _ mem)
          exact ⟨payload', requested', changed.requests requests'⟩ }
      have kept := executeRuns_keeps lib call rest behind
      dsimp only
      generalize executeRuns lib call rest behind = executed at others kept
      obtain ⟨last, outcome⟩ := executed
      cases outcome with
      | error failure =>
        refine ⟨others.1, ?_⟩
        intro results ended
        cases ended
      | ok results =>
        refine ⟨others.1, ?_⟩
        intro told ended success other mem payload' requested'
        cases ended
        rcases mem_cons.mp mem with rfl | later
        · rw [← Option.some.inj (requested.symm.trans requested')]
          exact kept.pushed (first.pushed result rfl (success result mem_cons_self))
        · exact others.2 results rfl (fun result listed =>
            success result (mem_cons_of_mem _ listed)) other later payload' requested'

theorem countStatus_eq_zero {results : List ResultSummary} {status : ResultStatus}
    (none' : countStatus results status = 0) : ∀ result ∈ results, result.status ≠ some status := by
  intro result mem same
  exact countP_eq_zero.mp none' result mem (decide_eq_true same)

theorem batchStatus_success {results : List ResultSummary} {warnings : Nat}
    (success : batchStatus results warnings = .success ∨
      batchStatus results warnings = .successWithWarnings)
    (told : ¬ results.any (·.status.isNone) = true) : ∀ result ∈ results, result.IsSuccess := by
  have known : countStatus results .remoteResultUnknown = 0 := by
    by_contra unknown
    rw [batchStatus, if_pos (Nat.pos_of_ne_zero unknown)] at success
    rcases success with success | success
    · cases success
    · cases success
  have passed : countStatus results .failed = 0 := by
    by_contra failed
    rw [batchStatus, known, if_neg (Nat.lt_irrefl 0), if_neg fun both => failed both.1,
      if_neg failed] at success
    split at success
    · rcases success with success | success
      · cases success
      · cases success
    · rcases success with success | success
      · cases success
      · cases success
  intro result mem
  have notUnknown := countStatus_eq_zero known result mem
  have notFailed := countStatus_eq_zero passed result mem
  cases status : result.status with
  | none => exact absurd (any_eq_true.mpr ⟨result, mem, by rw [status]; rfl⟩) told
  | some status' =>
    cases status' with
    | success => exact .inl status
    | successWithWarnings => exact .inr status
    | remoteResultUnknown => exact absurd status notUnknown
    | failed => exact absurd status notFailed

theorem SyncStore.Traced.updateBatch (traced : store.Traced lib) (batchId : String)
    (update : Batch → Batch) : (store.updateBatch batchId update).Traced lib where
  keys := traced.keys
  runs row listed :=
    ⟨(traced.runs row listed).submitted, (traced.runs row listed).pushed⟩
  valid := traced.valid

/-- A batch that ends with success has pushed the requests of its runs. -/
theorem executePersistedBatch_pushed (batchId revision : String) (runs : List TargetRun)
    (traced : store.Traced lib) (rows : ∀ run ∈ runs, run.IsRowOf store) :
    (executePersistedBatch lib call batchId revision runs store).1.Traced lib ∧
      ∀ reported status told,
        (executePersistedBatch lib call batchId revision runs store).2 =
            .summary reported status told → status = .success ∨ status = .successWithWarnings →
          ∀ run ∈ runs, ∀ payload, run.requestPayload = some payload →
            (executePersistedBatch lib call batchId revision runs store).1.Pushed payload := by
  have executed := executeRuns_pushed lib call runs traced rows
  unfold executePersistedBatch
  split
  · next behind failure ended =>
    rw [ended] at executed
    exact ⟨executed.1, nofun⟩
  · next behind results ended =>
    rw [ended] at executed
    split
    · exact ⟨executed.1, nofun⟩
    · next told =>
      split
      · exact ⟨executed.1, nofun⟩
      · next counts counted =>
        dsimp only
        constructor
        · split
          · exact executed.1.updateBatch ..
          · exact executed.1.updateBatch ..
        · intro reported status revision' summary success run mem payload requested
          cases summary
          have pushed := executed.2 results rfl (batchStatus_success success told) run mem
            payload requested
          split
          · exact ⟨pushed.1, pushed.2⟩
          · exact ⟨pushed.1, pushed.2⟩

end Steps

end NetConsole.Wps
