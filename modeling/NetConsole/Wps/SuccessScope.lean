import NetConsole.Wps.Submissions

/-!
# What a summary stands for

A call is asked for a revision and for stations. A batch of its own is built for these
stations, behind a check that the expected revision is the current one. A batch that it
goes on with keeps the requests that an earlier call has stored, whatever this call is
asked for (`sync_standsForBatch`).

In either case the revision that is reported is the one of the batch, and so the one of
its requests; and a success is told only when each of these requests has been submitted and
an answer has been found valid for it (`sync_pushes`).
-/

set_option autoImplicit false

namespace NetConsole.Wps

open Worker (Json Event)
open List

/-! ## The requests of a batch -/

/-- The requests of the runs of a batch. -/
def SyncStore.requestsOf (store : SyncStore) (batchId : String) : List RequestPayload :=
  store.runs.filterMap fun run => if run.key.batchId = batchId then run.requestPayload else none

theorem SyncStore.requestsOf_eq (store : SyncStore) (batchId : String) : store.requestsOf batchId =
      (store.runs.map (·.request)).filterMap fun request =>
        if request.1.batchId = batchId then request.2 else none := by
  simp [SyncStore.requestsOf, TargetRun.request]

variable {store : SyncStore}

theorem RequestsKept.requestsOf {after : SyncStore} (kept : RequestsKept store after)
    (batchId : String) : after.requestsOf batchId = store.requestsOf batchId := by
  rw [SyncStore.requestsOf_eq, SyncStore.requestsOf_eq, kept.runs]

theorem SyncStore.Lacks.requestsOf {batchId : String} (lacks : store.Lacks batchId) :
    store.requestsOf batchId = [] := by
  unfold SyncStore.requestsOf
  rw [filterMap_eq_nil_iff]
  intro run mem
  exact if_neg (lacks.runs run mem)

theorem requestsOf_newBatch (call : SyncCall) (snapshot : Snapshot) (store : SyncStore)
    (batchId : String) : (newBatch call snapshot store).requestsOf batchId =
      store.requestsOf batchId ++
        if call.batchId = batchId then [requestPayload call snapshot] else [] := by
  by_cases own : call.batchId = batchId
  · simp [newBatch, SyncStore.requestsOf, SyncStore.createTargetRun, SyncStore.createBatch,
      newTargetRun, own]
  · simp [newBatch, SyncStore.requestsOf, SyncStore.createTargetRun, SyncStore.createBatch,
      newTargetRun, own]

theorem SyncStore.findResumableBatch_requests {batch : Batch} {runs : List TargetRun}
    (found : store.findResumableBatch [standardTargetCode] = some (batch, runs)) :
    store.requestsOf batch.batchId ≠ [] := by
  obtain ⟨_, rfl, resumable⟩ := SyncStore.findResumableBatch_spec found
  obtain ⟨run, mem, _⟩ := isResumable_covers resumable standardTargetCode (by simp)
  obtain ⟨payload, some'⟩ := Option.isSome_iff_exists.mp (isResumable_requests resumable run mem)
  obtain ⟨stored, own⟩ := SyncStore.mem_runsOf.mp mem
  have listed : payload ∈ store.requestsOf batch.batchId :=
    mem_filterMap.mpr ⟨run, stored, by simp [own, some']⟩
  exact ne_nil_of_mem listed

/-! ## The batch of a summary -/

/-- What a summary of a batch stands for: the batch that the call goes on with, whose
requests are those that it has found, or a batch of its own with one request, for its
stations. -/
inductive StandsFor (store : SyncStore) (call : SyncCall) (after : SyncStore) :
    String → String → Prop
  | resumed {batch : Batch} {runs : List TargetRun}
      (found : store.findResumableBatch [standardTargetCode] = some (batch, runs))
      (kept : after.requestsOf batch.batchId = store.requestsOf batch.batchId) :
      StandsFor store call after batch.batchId batch.snapshotRevision
  | own {payload : RequestPayload} (absent : store.findResumableBatch [standardTargetCode] = none)
      (current : call.expectedRevision = "" ∨ call.currentRevision = call.expectedRevision)
      (scope : payload.workbook.stations = call.stations)
      (requests : after.requestsOf call.batchId = [payload]) :
      StandsFor store call after call.batchId payload.workbook.businessRevision

section Calls

variable (lib : WpsLibrary) (call : SyncCall)
  {store after : SyncStore} {revision batchId : String}

theorem sync_standsForBatch {status : BatchStatus} (fresh : store.Lacks call.batchId)
    (ended : sync lib call store = (after, .summary batchId status revision)) :
    StandsFor store call after batchId revision := by
  have done := sync_cases lib call store
  generalize executed : sync lib call store = outcome at done ended
  cases done with
  | refused code => cases ended
  | raised failure absent => cases ended
  | resumed found =>
    rename_i batch runs
    have kept := executePersistedBatch_keeps lib call batch.batchId batch.snapshotRevision
      runs store
    rw [ended] at kept
    obtain ⟨rfl, rfl⟩ := executePersistedBatch_summary lib call (congrArg Prod.snd ended)
    exact .resumed found (kept.requestsOf batch.batchId)
  | own absent current built =>
    rename_i snapshot
    have kept := executePersistedBatch_keeps lib call call.batchId snapshot.businessRevision
      [newTargetRun ⟨call.batchId, standardTargetCode⟩ (requestPayload call snapshot)
        snapshot.sourceFormatManifest]
      (newBatch call snapshot store)
    unfold executeNewBatch at ended
    rw [ended] at kept
    obtain ⟨rfl, rfl⟩ := executePersistedBatch_summary lib call (congrArg Prod.snd ended)
    have requests := kept.requestsOf call.batchId
    rw [requestsOf_newBatch, fresh.requestsOf, if_pos rfl] at requests
    have scope : (requestPayload call snapshot).workbook.stations = call.stations := rfl
    exact .own absent current scope requests

/-! ## Revisions -/

/-- Every request has the revision of its batch. -/
def SyncStore.RevisionsAgree (store : SyncStore) : Prop :=
  ∀ batch ∈ store.batches, ∀ payload ∈ store.requestsOf batch.batchId,
    payload.workbook.businessRevision = batch.snapshotRevision

theorem RequestsKept.revisionsAgree (kept : RequestsKept store after)
    (agree : store.RevisionsAgree) : after.RevisionsAgree := by
  intro batch mem payload listed
  have named : (batch.batchId, batch.snapshotRevision) ∈
      store.batches.map fun batch => (batch.batchId, batch.snapshotRevision) := by
    rw [← kept.batches]
    exact mem_map_of_mem mem
  obtain ⟨stored, storedMember, same⟩ := mem_map.mp named
  obtain ⟨sameId, sameRevision⟩ := Prod.mk.inj same
  rw [kept.requestsOf, ← sameId] at listed
  rw [← sameRevision]
  exact agree stored storedMember payload listed

theorem newBatch_revisionsAgree (snapshot : Snapshot) (fresh : store.Lacks call.batchId)
    (agree : store.RevisionsAgree) : (newBatch call snapshot store).RevisionsAgree := by
  intro batch mem payload listed
  rw [requestsOf_newBatch] at listed
  rcases mem_append.mp mem with stored | created
  · rw [if_neg (fresh.batches batch stored).symm, append_nil] at listed
    exact agree batch stored payload listed
  · rw [mem_singleton] at created
    subst created
    rw [fresh.requestsOf, if_pos rfl, nil_append, mem_singleton] at listed
    rw [listed]
    rfl

theorem sync_revisionsAgree (fresh : store.Lacks call.batchId) (agree : store.RevisionsAgree) :
    (sync lib call store).1.RevisionsAgree := by
  have done := sync_cases lib call store
  generalize sync lib call store = outcome at done
  cases done with
  | refused code => exact agree
  | raised failure absent => exact agree
  | resumed found => exact (executePersistedBatch_keeps ..).revisionsAgree agree
  | own absent current built =>
    exact (executePersistedBatch_keeps ..).revisionsAgree
      (newBatch_revisionsAgree call _ fresh agree)

theorem StandsFor.requests (stands : StandsFor store call after batchId revision)
    (agree : store.RevisionsAgree) : after.requestsOf batchId ≠ [] ∧
      ∀ payload ∈ after.requestsOf batchId, payload.workbook.businessRevision = revision := by
  cases stands with
  | resumed found kept =>
    obtain ⟨mem, _, _⟩ := SyncStore.findResumableBatch_spec found
    rw [kept]
    exact ⟨SyncStore.findResumableBatch_requests found, agree _ mem⟩
  | own absent current scope requests =>
    rw [requests]
    constructor
    · simp
    · intro payload listed
      rw [mem_singleton.mp listed]

/-! ## Submissions -/

theorem SyncStore.mem_requestsOf {payload : RequestPayload} : payload ∈ store.requestsOf batchId ↔
      ∃ run ∈ store.runs, run.key.batchId = batchId ∧ run.requestPayload = some payload := by
  simp [SyncStore.requestsOf]

theorem newBatch_traced (snapshot : Snapshot) (fresh : store.Lacks call.batchId)
    (traced : store.Traced lib) : (newBatch call snapshot store).Traced lib := by
  constructor
  · have keys : (newBatch call snapshot store).runs.map (·.key) =
        store.runs.map (·.key) ++ [⟨call.batchId, standardTargetCode⟩] := by
      simp [newBatch, SyncStore.createTargetRun, SyncStore.createBatch, newTargetRun]
    rw [keys]
    refine traced.keys.append (nodup_singleton _) ?_
    intro key listed created
    obtain ⟨run, mem, rfl⟩ := mem_map.mp listed
    exact fresh.runs run mem (congrArg TaskKey.batchId (mem_singleton.mp created))
  · intro run mem
    rcases mem_append.mp mem with stored | created
    · exact ⟨(traced.runs run stored).submitted, (traced.runs run stored).pushed⟩
    · rw [mem_singleton.mp created]
      exact ⟨fun tasked => absurd rfl tasked, nofun⟩
  · exact traced.valid

theorem SyncStore.Traced.isRowOf {run : TargetRun} (traced : store.Traced lib)
    (mem : run ∈ store.runs) (requested : run.requestPayload.isSome) : run.IsRowOf store := by
  obtain ⟨payload, some'⟩ := Option.isSome_iff_exists.mp requested
  exact ⟨traced.runs run mem, payload, some', traced.requests mem some'⟩

/-- A call keeps the repository traced, and tells a success only when the requests of the
batch have been submitted and answered. -/
theorem sync_pushes (fresh : store.Lacks call.batchId) (traced : store.Traced lib) :
    (sync lib call store).1.Traced lib ∧ ∀ batchId status revision,
      (sync lib call store).2 = .summary batchId status revision →
        status = .success ∨ status = .successWithWarnings →
          ∀ payload ∈ (sync lib call store).1.requestsOf batchId,
            (sync lib call store).1.Pushed payload := by
  have done := sync_cases lib call store
  generalize sync lib call store = outcome at done
  cases done with
  | refused code => exact ⟨traced, nofun⟩
  | raised failure absent => exact ⟨traced, nofun⟩
  | resumed found =>
    rename_i batch runs
    obtain ⟨_, rfl, resumable⟩ := SyncStore.findResumableBatch_spec found
    have rows : ∀ run ∈ store.runsOf batch.batchId, run.IsRowOf store := fun run mem =>
      traced.isRowOf lib (SyncStore.mem_runsOf.mp mem).1
        (isResumable_requests resumable run mem)
    obtain ⟨kept, pushed⟩ := executePersistedBatch_pushed lib call batch.batchId
      batch.snapshotRevision _ traced rows
    refine ⟨kept, ?_⟩
    intro batchId status revision ended success payload listed
    obtain ⟨rfl, _⟩ := executePersistedBatch_summary lib call ended
    rw [(executePersistedBatch_keeps ..).requestsOf] at listed
    obtain ⟨run, mem, own, requested⟩ := SyncStore.mem_requestsOf.mp listed
    exact pushed _ status revision ended success run (SyncStore.mem_runsOf.mpr ⟨mem, own⟩)
      payload requested
  | own absent current built =>
    rename_i snapshot
    have handed := newBatch_traced lib call snapshot fresh traced
    have rows : ∀ run ∈ [newTargetRun ⟨call.batchId, standardTargetCode⟩
        (requestPayload call snapshot) snapshot.sourceFormatManifest],
        run.IsRowOf (newBatch call snapshot store) := by
      intro run mem
      rw [mem_singleton.mp mem]
      exact handed.isRowOf lib (mem_append_right _ (mem_singleton_self _)) rfl
    unfold executeNewBatch
    obtain ⟨kept, pushed⟩ := executePersistedBatch_pushed lib call call.batchId
      snapshot.businessRevision _ handed rows
    refine ⟨kept, ?_⟩
    intro batchId status revision ended success payload listed
    obtain ⟨rfl, _⟩ := executePersistedBatch_summary lib call ended
    rw [(executePersistedBatch_keeps ..).requestsOf, requestsOf_newBatch, fresh.requestsOf,
      if_pos rfl] at listed
    rw [mem_singleton.mp listed]
    exact pushed _ status revision ended success _ (mem_singleton_self _) _ rfl

/-- A call stands for the batch that it has executed, which is its own only when there is
none to go on with, and reports the revision of the requests of that batch; a success is told
only when these requests have been submitted and answered. Each call keeps the revisions in
agreement and the repository traced. -/
theorem sync_pushesItsBatch {store after : SyncStore} {batchId revision : String}
    {status : BatchStatus} (fresh : store.Lacks call.batchId)
    (ended : sync lib call store = (after, .summary batchId status revision)) :
    StandsFor store call after batchId revision ∧ (store.RevisionsAgree →
        after.RevisionsAgree ∧ after.requestsOf batchId ≠ [] ∧ ∀ payload ∈ after.requestsOf batchId,
            payload.workbook.businessRevision = revision) ∧
      (store.Traced lib → after.Traced lib ∧ (status = .success ∨ status = .successWithWarnings →
          ∀ payload ∈ after.requestsOf batchId, after.Pushed payload)) := by
  have stands := sync_standsForBatch lib call fresh ended
  refine ⟨stands, ?_, ?_⟩
  · intro agree
    have kept := sync_revisionsAgree lib call fresh agree
    rw [ended] at kept
    exact ⟨kept, stands.requests call agree⟩
  · intro traced
    have pushes := sync_pushes lib call fresh traced
    rw [ended] at pushes
    exact ⟨pushes.1, pushes.2 batchId status revision rfl⟩

end Calls

/-! ## What a call is asked for -/

/-- A request for the revision and the stations that a call is asked for. -/
def RequestPayload.IsFor (payload : RequestPayload) (call : SyncCall) : Prop :=
  (call.expectedRevision = "" ∨ payload.workbook.businessRevision = call.expectedRevision) ∧
    payload.workbook.stations = call.stations

/-- A success stands for requests that the call is asked for. -/
def PushesWhatIsAsked (lib : WpsLibrary) (call : SyncCall) (store : SyncStore) : Prop :=
  ∀ after batchId status revision,
    sync lib call store = (after, .summary batchId status revision) →
      status = .success ∨ status = .successWithWarnings →
        ∀ payload ∈ after.requestsOf batchId, payload.IsFor call

/-- The summary of a call. -/
def SyncResult.summarized : SyncResult → Option (String × BatchStatus × String)
  | .summary batchId status revision => some (batchId, status, revision)
  | .failed _ => none

theorem SyncResult.eq_of_summarized {result : SyncResult} {batchId revision : String}
    {status : BatchStatus} (told : result.summarized = some (batchId, status, revision)) :
    result = .summary batchId status revision := by
  cases result with
  | summary _ _ _ =>
    cases told
    rfl
  | failed _ => cases told

/-- Texts of small letters, and no text that is decoded. -/
def plainLibrary : WpsLibrary where
  python := .plain
  sanitize := id
  floatOfInt value := .ok value
  finiteFloat _ := none
  within left right tolerance := left - right ≤ tolerance && right - left ≤ tolerance

/-- A call for all stations that ends while the remote task is on its way. -/
def interruptedCall : SyncCall where
  targetCodes := []
  expectedRevision := "r1"
  stations := []
  target := ⟨standardTargetCode, "WPS_STANDARD_SPREADSHEET", "document", "script"⟩
  siteId := "site"
  refusal := none
  configurationError := none
  cancelStart := none
  cancelRun := none
  currentRevision := "r1"
  snapshot := .ok ⟨"r1", "d1", [], []⟩
  batchId := "wps_1"
  requestedAt := "t1"
  submission := .accepted "task"
  rounds := [.interrupted .other]

/-- The repository behind it. -/
def interruptedStore : SyncStore := (sync plainLibrary interruptedCall .empty).1

/-- The answer of a task that has finished. -/
def finishedAnswer (payload : RequestPayload) : Event :=
  [("status", .str "finished"), ("protocol_version", .int 2),
    ("target_type", .str "WPS_STANDARD_SPREADSHEET"), ("document_id", .str "document"),
    ("success", .bool true)] ++ payload.identity.map fun field => (field.1, Json.str field.2)

/-- A call for another revision and one station, behind which the task has finished. -/
def laterCall : SyncCall :=
  { interruptedCall with
    expectedRevision := "r2", stations := ["S"], currentRevision := "r2"
    snapshot := .ok ⟨"r2", "d2", [], []⟩, batchId := "wps_2", requestedAt := "t2"
    rounds := [.answered (.obj
      (finishedAnswer (requestPayload interruptedCall ⟨"r1", "d1", [], []⟩)))] }

theorem interruptedStore_lacks : interruptedStore.Lacks laterCall.batchId where
  batches := by decide +kernel
  runs := by decide +kernel

theorem sync_laterCall : sync plainLibrary laterCall interruptedStore =
      ((sync plainLibrary laterCall interruptedStore).1, .summary "wps_1" .success "r1") :=
  Prod.ext rfl (SyncResult.eq_of_summarized (by decide +kernel))

/-- A call that goes on with a batch succeeds with its data. -/
theorem not_pushesWhatIsAsked : ¬ PushesWhatIsAsked plainLibrary laterCall interruptedStore := by
  intro pushes
  have asked := pushes _ _ _ _ sync_laterCall (.inl rfl)
    (requestPayload interruptedCall ⟨"r1", "d1", [], []⟩) (by decide +kernel)
  exact absurd asked.2 (by decide +kernel)

theorem interruptedStore_traced : interruptedStore.Traced plainLibrary :=
  (sync_pushes plainLibrary interruptedCall
    ⟨fun _ mem => absurd mem not_mem_nil, fun _ mem => absurd mem not_mem_nil⟩
    (empty_traced plainLibrary)).1

theorem pushesItsBatch_laterCall :
    StandsFor interruptedStore laterCall (sync plainLibrary laterCall interruptedStore).1
        "wps_1" "r1" ∧
      (sync plainLibrary laterCall interruptedStore).1.Pushed
        (requestPayload interruptedCall ⟨"r1", "d1", [], []⟩) := by
  obtain ⟨stands, _, pushes⟩ :=
    sync_pushesItsBatch plainLibrary laterCall interruptedStore_lacks sync_laterCall
  exact ⟨stands, (pushes interruptedStore_traced).2 (.inl rfl) _ (by decide +kernel)⟩

end NetConsole.Wps
