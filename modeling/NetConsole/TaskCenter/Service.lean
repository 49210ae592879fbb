import NetConsole.TaskCenter.Repository

/-!
# The task services

How the services use the repository of one site. Every repository call is atomic,
and a service that changes a task reads its snapshot in one call and writes in a
later one: between them other callers act. `TaskSystem` is the store with the
snapshots that callers have read, and `Request` lists the writes that the
services issue, with what each of them hands to the repository (`Request.call`).

An event that is published stands for the event after the sanitizing of exports.
-/

set_option autoImplicit false

namespace NetConsole.TaskCenter

open Syslog (firstOf)

variable {Result : Type}

/-! ## Snapshots of new tasks -/

section NewTasks

variable (format : ResultFormat Result)

/-- A pending task with the defaults of `TaskSnapshot`. -/
def newSnapshot (siteName taskId taskType now : String) : TaskSnapshot Result where
  taskId := taskId
  taskType := taskType
  status := .pending
  createdTime := now
  updatedTime := now
  startedTime := ""
  finishedTime := ""
  progress := 0
  stage := ""
  current := 0
  total := 0
  message := ""
  resultPath := ""
  errorMessage := ""
  result := format.empty
  resultId := ""
  resultHash := ""
  resultSummary := format.empty
  source := "local"
  siteName := siteName
  ownerPid := 0
  resourceKeys := []
  textIntegrity := "ok"
  textIntegrityReason := ""
  textIntegrityUpdatedAt := ""
  textSchemaVersion := 2
  producerKind := "local_backend"
  producerVersion := "unknown"
  producerCommit := "unknown"

/-- What `prepare` reads of a background job and of the service. -/
structure PreparedJob where
  (jobId taskType owner : String)
  /-- The plan, stripped. -/
  (planId resultPath source : String)
  ownerPid : Int
  /-- What `_resource_keys` gives. -/
  resourceKeys : List String
  (appVersion producerCommit : String)
  deriving DecidableEq

/-- The snapshot that `prepare` stores. -/
def preparedSnapshot (siteName : String) (job : PreparedJob) (now : String) : TaskSnapshot Result :=
  { newSnapshot format siteName job.jobId job.taskType now with
    result := if job.taskType = "ac_command_action_execute" && job.owner = "web_ac" &&
        job.source = "local" && job.planId ≠ "" then format.withPlanId format.empty job.planId
      else format.empty
    resultPath := job.resultPath, source := job.source, ownerPid := job.ownerPid
    resourceKeys := job.resourceKeys, producerKind := "local_worker"
    producerVersion := job.appVersion, producerCommit := job.producerCommit }

/-- What `create_external_task` is given, with the version and the commit of the
service. -/
structure ExternalTask where
  (taskId taskType source producerVersion producerCommit : String)
  textSchemaVersion : Option Int
  (appVersion serviceCommit : String)
  deriving DecidableEq

/-- The snapshot that `create_external_task` stores. -/
def externalSnapshot (siteName : String) (task : ExternalTask) (now : String) :
    TaskSnapshot Result :=
  let trustedLocal : Bool := task.source ≠ "agent"
  { newSnapshot format siteName task.taskId task.taskType now with
    source := task.source
    textSchemaVersion := task.textSchemaVersion.getD (if trustedLocal then 2 else 0)
    producerKind := if trustedLocal then "local_backend" else "agent"
    producerVersion := firstOf task.producerVersion
      (if trustedLocal then task.appVersion else "unknown")
    producerCommit := firstOf task.producerCommit
      (if trustedLocal then task.serviceCommit else "unknown") }

/-- The snapshot of `_persist_waiting_download`. -/
def waitingSnapshot (siteName taskId now : String) : TaskSnapshot Result :=
  { newSnapshot format siteName taskId "file_management_download" now with
    message := "等待前序文件下载完成" }

/-- What the import of an agent package writes of its task. -/
structure AgentImport (Result : Type) where
  (taskId importId : String)
  status : TaskState
  isTerminal : status.isTerminal = true
  (createdTime startedTime endedTime resultPath errorSummary : String)
  result : Result
  deriving DecidableEq

/-- The snapshot that the import of an agent package records. -/
def importedSnapshot (siteName : String) (package : AgentImport Result) (now : String) :
    TaskSnapshot Result :=
  { newSnapshot format siteName package.taskId "online_mr_collection_start" now with
    status := package.status, createdTime := package.createdTime, startedTime := package.startedTime
    finishedTime := package.endedTime, progress := 100, stage := "TERMINAL"
    message := if package.status = .failed then "Agent Online MR 采集失败包已导入"
      else "Agent Online MR 采集包已导入"
    resultPath := package.resultPath
    errorMessage := if package.status = .failed then package.errorSummary else ""
    result := package.result, source := "agent" }

end NewTasks

/-! ## Calls of the repository -/

/-- The calls that write tasks. -/
inductive TaskCall (Result : Type) where
  | save (snapshot : TaskSnapshot Result)
  | saveWithResourceGuard (snapshot : TaskSnapshot Result)
  | record (snapshot : TaskSnapshot Result) (event : TaskEvent Result)
      (allowed : Option (List TaskState))
  deriving DecidableEq

section Calls

variable [DecidableEq Result] (format : ResultFormat Result)

/-- Whether a call went through, and the store after it; one that raises changes
nothing. -/
def TaskCall.run (store : TaskStore Result) : TaskCall Result → Bool × TaskStore Result
  | .save snapshot =>
    match TaskCenter.save format store snapshot with
    | .ok after => (true, after)
    | .error _ => (false, store)
  | .saveWithResourceGuard snapshot =>
    match TaskCenter.saveWithResourceGuard format store snapshot with
    | .ok (conflict, after) => (conflict.isNone, after)
    | .error _ => (false, store)
  | .record snapshot event allowed =>
    match TaskCenter.record format store snapshot event allowed with
    | .ok recorded => recorded
    | .error _ => (false, store)

/-! ## Requests of the services -/

/-- An event that is published for a task. -/
structure Publication (Result : Type) where
  (eventId type time source : String)
  payload : EventPayload Result
  deriving DecidableEq

def Publication.event (publication : Publication Result) (taskId : String) : TaskEvent Result where
  eventId := publication.eventId
  taskId := taskId
  type := publication.type
  time := publication.time
  source := publication.source
  payload := publication.payload

/-- `record_external_event`, after the snapshot was read. -/
def recordExternalEvent (snapshot : TaskSnapshot Result) (publication : Publication Result) :
    Option (TaskCall Result) :=
  let event := publication.event snapshot.taskId
  (allowedFrom snapshot event).bind fun allowed =>
    (applyEvent format snapshot event).map fun updated => .record updated event (some allowed)

/-- The event that stands for a corrupted event of a worker. -/
def protocolCorruptedEvent (publication : Publication Result) (guardId : String) :
    Publication Result where
  eventId := guardId
  type := "error"
  time := publication.time
  source := "integrity_guard"
  payload :=
    { EventPayload.blank with
      stage := "worker_protocol", message := "Worker 内部通信协议损坏，任务已强制终止。"
      error := "Worker 内部通信协议损坏，任务已强制终止。", result := some format.protocolCorrupted }

/-- `_persist_event`, after the snapshot was read. -/
def persistEvent (snapshot : TaskSnapshot Result) (publication : Publication Result)
    (guardId : String) : Option (TaskCall Result) :=
  if publication.source = "worker" && publication.payload.corrupted then
    let event := (protocolCorruptedEvent format publication guardId).event snapshot.taskId
    (applyEvent format snapshot event).map fun updated =>
      .record updated event (some [snapshot.status])
  else recordExternalEvent format snapshot publication

/-- A task that failed without an event of its own. -/
def failedSnapshot (snapshot : TaskSnapshot Result) (message error now : String) :
    TaskSnapshot Result :=
  { snapshot with
    status := .failed, finishedTime := now, updatedTime := now, message := message
    errorMessage := error }

/-- The event that a task has failed. -/
def failedEvent (taskId eventId message error now source : String) : TaskEvent Result where
  eventId := eventId
  taskId := taskId
  type := "error"
  time := now
  source := source
  payload := { EventPayload.blank with message := message, error := error }

/-- `_record_prepare_failure`. -/
def prepareFailure (snapshot : TaskSnapshot Result) (error now eventId : String) :
    TaskCall Result :=
  .record (failedSnapshot snapshot "任务启动失败" error now)
    (failedEvent snapshot.taskId eventId "任务启动失败" error now "service")
    (some [snapshot.status])

/-- Whether the runtime of an export is lost with its process. -/
def exportRuntimeLost (snapshot : TaskSnapshot Result) : Bool :=
  snapshot.taskType.startsWith "web_export_" || snapshot.taskType.startsWith "device_export_"

/-- The message and the error of an orphaned task. -/
def orphanMessages (snapshot : TaskSnapshot Result) : String × String :=
  if snapshot.taskId.startsWith "device-form-test-" then
    ("临时表单连接测试不可恢复", "上次运行非正常中断，一次性表单凭据已失效，请重新提交测试")
  else if exportRuntimeLost snapshot then
    ("导出任务执行进程已丢失，请重新导出", "导出任务执行进程已丢失，请重新导出")
  else ("任务宿主已退出", "上次运行非正常中断，未发现仍存活的本地任务宿主")

/-- The failure that is recorded for an orphaned task. -/
def orphanedSnapshot (snapshot : TaskSnapshot Result) (now : String) : TaskSnapshot Result :=
  { failedSnapshot snapshot (orphanMessages snapshot).1 (orphanMessages snapshot).2 now with
    result := if exportRuntimeLost snapshot then
        format.withErrorCode snapshot.result "WORKER_RUNTIME_LOST"
      else snapshot.result }

/-- The event that the owner of a task is gone. -/
def orphanedEvent (snapshot : TaskSnapshot Result) (now : String) : TaskEvent Result :=
  failedEvent snapshot.taskId ("recovery-" ++ snapshot.taskId ++ "-" ++ now)
    (orphanMessages snapshot).1 (orphanMessages snapshot).2 now "recovery"

/-- What `reconcile_orphaned_local_tasks` records for a task that it has read. -/
def recoverOrphan (snapshot : TaskSnapshot Result) (now : String) : TaskCall Result :=
  .record (orphanedSnapshot format snapshot now) (orphanedEvent snapshot now)
    (some [snapshot.status])

/-- What the import of an agent package records; `known` says whether it has
found the task. -/
def importPackage (siteName : String) (package : AgentImport Result) (known : Bool)
    (now : String) : TaskCall Result :=
  .record (importedSnapshot format siteName package now)
    { eventId := "agent-import-" ++ package.taskId ++ "-" ++ package.importId
      taskId := package.taskId, type := package.status.terminalEventType, time := now
      source := "agent_import"
      payload := { EventPayload.blank with
        result := some package.result, error := package.errorSummary } }
    (some (if known then TaskState.activeStates else []))

/-- The writes that the services issue. A request that works on a snapshot has
read it before, or got it from the request that made the task. -/
inductive Request (Result : Type) where
  | prepare (job : PreparedJob) (now : String)
  | prepareFailure (snapshot : TaskSnapshot Result) (error now eventId : String)
  | createExternalTask (task : ExternalTask) (now eventId : String)
  /-- `save` of a device export, behind `create_external_task`. -/
  | saveExportOwner (snapshot : TaskSnapshot Result) (ownerPid : Int)
  | recordExternalEvent (snapshot : TaskSnapshot Result) (publication : Publication Result)
  | persistEvent (snapshot : TaskSnapshot Result) (publication : Publication Result)
      (guardId : String)
  /-- `_record_task_metadata`, and the last write of `_dispatch_next_waiting`. -/
  | recordTaskMetadata (snapshot : TaskSnapshot Result) (publication : Publication Result)
  | persistWaitingDownload (taskId now : String) (publication : Publication Result)
  | recoverOrphan (snapshot : TaskSnapshot Result) (now : String)
  | importPackage (package : AgentImport Result) (known : Bool) (now : String)
  deriving DecidableEq

/-- The snapshot that a request has read. -/
def Request.uses : Request Result → Option (TaskSnapshot Result)
  | .prepareFailure snapshot _ _ _ | .recordExternalEvent snapshot _ | .persistEvent snapshot _ _
  | .recordTaskMetadata snapshot _ | .recoverOrphan snapshot _
  | .saveExportOwner snapshot _ => some snapshot
  | .prepare _ _ | .createExternalTask _ _ _ | .persistWaitingDownload _ _ _
  | .importPackage _ _ _ => none

/-- The call that a request makes; none where the service raises before it. -/
def Request.call (siteName : String) : Request Result → Option (TaskCall Result)
  | .prepare job now =>
    let snapshot := preparedSnapshot format siteName job now
    some (if job.resourceKeys = [] then .save snapshot else .saveWithResourceGuard snapshot)
  | .prepareFailure snapshot error now eventId =>
    some (TaskCenter.prepareFailure snapshot error now eventId)
  | .createExternalTask task now eventId =>
    some (.record (externalSnapshot format siteName task now)
      { eventId := eventId, taskId := task.taskId, type := "state", time := now, source := "service"
        payload := { EventPayload.blank with state := TaskState.pending.text } } (some []))
  | .saveExportOwner snapshot ownerPid => some (.save { snapshot with ownerPid := ownerPid })
  | .recordExternalEvent snapshot publication =>
    TaskCenter.recordExternalEvent format snapshot publication
  | .persistEvent snapshot publication guardId =>
    TaskCenter.persistEvent format snapshot publication guardId
  | .recordTaskMetadata snapshot publication =>
    some (.record snapshot (publication.event snapshot.taskId) none)
  | .persistWaitingDownload taskId now publication =>
    some (.record (waitingSnapshot format siteName taskId now) (publication.event taskId) none)
  | .recoverOrphan snapshot now => some (TaskCenter.recoverOrphan format snapshot now)
  | .importPackage package known now =>
    some (TaskCenter.importPackage format siteName package known now)

/-- The snapshot that the service keeps after a request that went through. -/
def Request.keeps (siteName : String) : Request Result → List (TaskSnapshot Result)
  | .prepare job now => [preparedSnapshot format siteName job now]
  | .createExternalTask task now _ => [externalSnapshot format siteName task now]
  | _ => []

/-! ## The system -/

/-- The store of one site, and the snapshots that callers have read. -/
structure TaskSystem (Result : Type) where
  store : TaskStore Result
  held : List (TaskSnapshot Result)

/-- The tasks that `delete_task_owned_rows` finds finished. -/
def TaskStore.finishedAmong (store : TaskStore Result) (taskIds : List String) : List String :=
  taskIds.filter fun taskId => (store.snapshotRow taskId).any fun row => row.status.isTerminal

/-- `delete_task_owned_rows`: of the given tasks those are retired that have
finished, with the blobs that no result needs. -/
def TaskStore.retire (store : TaskStore Result) (taskIds : List String) : TaskStore Result :=
  let retired := store.finishedAmong taskIds
  let results := store.results.filter fun row => row.taskId ∉ retired
  { snapshots := store.snapshots.filter fun row => row.taskId ∉ retired
    results := results
    blobs digest := if retired = [] || results.any fun row =>
      row.blobReady && row.contentSha256 = digest then store.blobs digest else none
    events := store.events.filter fun event => event.taskId ∉ retired
    tombstones := store.tombstones ++ retired }

/-- What is asked of the service. -/
inductive TaskAction (Result : Type) where
  | get (taskId : String)
  | list (statuses : List TaskState) (limit : Nat)
  | request (request : Request Result)
  | retire (taskIds : List String)
  deriving DecidableEq

/-- One action of a caller; a request needs the snapshot that it has read. -/
def TaskSystem.act (siteName : String) (system : TaskSystem Result) :
    TaskAction Result → Option (TaskSystem Result)
  | .get taskId =>
    match getSnapshot format system.store taskId with
    | .ok (some snapshot) => some { system with held := snapshot :: system.held }
    | _ => some system
  | .list statuses limit =>
    match listSnapshots format system.store statuses limit with
    | .ok snapshots => some { system with held := snapshots ++ system.held }
    | .error _ => some system
  | .request request =>
    if request.uses.all fun snapshot => decide (snapshot ∈ system.held) then
      match request.call format siteName with
      | none => some system
      | some call =>
        let (through, store) := call.run format system.store
        some ⟨store, if through then request.keeps format siteName ++ system.held else system.held⟩
    else none
  | .retire taskIds => some { system with store := system.store.retire taskIds }

end Calls

end NetConsole.TaskCenter
