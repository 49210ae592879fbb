import NetConsole.Eligibility.Records
import NetConsole.FleetPing.Accounting
import NetConsole.Syslog.RawStream
import Mathlib.Algebra.Order.Group.Int

/-!
# The targets of the fleet ping and their grace

Each poll of the access controllers hands the fleet ping a set of targets. A poll with new
snapshots classifies the trains and hands over what is valid now, together with what was
valid before, for a while, when the controllers have lost sight of the train. A poll
without new snapshots only lets the memory of valid targets expire. A restart rebuilds
that memory from the rows of the trains, with the time of their last receipt.

Dictionaries are lists of their entries in insertion order, and times are microseconds on
one time line, a text without a zone being read in the zone of the service. Events, the
coverage and the configuration checks are left out: no target depends on them.
-/

set_option autoImplicit false

namespace NetConsole.FleetPing

open Foundations NetConsole.Eligibility

/-! ## Policies -/

/-- A row of the inventory of trains, as far as a policy reads it. -/
structure InventoryPolicy where
  trainId : String
  enabled : Bool := true
  schedulingPriority : Int := 0
  deepCollectionEnabled : Bool := true
  monitorOnly : Bool := false
  remark : String := ""
  inventoryStatus : String := "ACTIVE"
  priority : Bool := false
  deriving DecidableEq

/-- `_apply_train_policy`; a train without a row has the defaults of one. -/
def applyTrainPolicy (train : GroundTrain) (row : Option InventoryPolicy) (priority : Bool) :
    GroundTrain :=
  let policy := row.getD { trainId := train.trainId }
  let train :=
    { train with
      priority := priority, enabled := policy.enabled
      schedulingPriority := policy.schedulingPriority
      deepCollectionEnabled := policy.deepCollectionEnabled, monitorOnly := policy.monitorOnly
      remark := policy.remark
      inventoryStatus :=
        if policy.inventoryStatus = "" then "ACTIVE" else policy.inventoryStatus }
  if !train.enabled then
    { train with
      mainlineEligible := false, pingEligible := false, deepCollectionEligible := false
      exclusionReason := "列车已在无人值守策略中停用", pingInclusionReason := ""
      pingExclusionReason := "列车已在无人值守策略中停用", deepExclusionReason := "列车已在无人值守策略中停用" }
  else if train.monitorOnly || !train.deepCollectionEnabled then
    { train with
      deepCollectionEligible := false, deepExclusionReason := "当前策略仅执行基础监测，不进入深度采集" }
  else train

/-! ## A classification -/

/-- What a poll with new snapshots works on: the results of the classifier, the inventory,
the identities of the new rows by train and radio, and the time of each write. -/
structure Classification where
  results : List ClassificationResult
  inventory : List InventoryPolicy := []
  acIds : List ((String × String) × Int) := []
  receivedAt : String := ""
  writtenAt : String → String := fun _ => ""

namespace Classification

variable (classification : Classification)

/-- `policies.get(train_id)`, the last row of the train. -/
def policyOf (trainId : String) : Option InventoryPolicy :=
  classification.inventory.reverse.find? fun row => row.trainId = trainId

/-- The train with the policy that is stored for it. -/
def withPolicy (train : GroundTrain) : GroundTrain :=
  applyTrainPolicy train (classification.policyOf train.trainId)
    (((classification.policyOf train.trainId).map (·.priority)).getD false)

/-- The trains that were seen, with their policies. -/
def trains : List GroundTrain :=
  classification.results.map fun result => classification.withPolicy result.train

end Classification

/-- A row of the trains of a run, as far as a restart reads it. -/
structure TrainRunRow where
  (trainId trainNo : String)
  (priority pingEligible : Bool)
  (acReceivedAt updatedAt : String)
  endpoints : List GroundEndpoint
  acSnapshotId : Option Int
  (currentApIdentity sameApSince : String)
  deriving DecidableEq

/-- An entry of `_last_valid_ping_targets`, under the address of its target. -/
structure GraceEntry where
  target : FleetPingTarget
  lastValidAt : Int
  deriving DecidableEq

def GraceEntry.address (entry : GraceEntry) : String := entry.target.targetIp

/-- What is valid so far, and the memory. -/
structure Offered where
  valid : List FleetPingTarget
  memory : List GraceEntry

/-- The supervisor: the memory of valid targets, the rows of the trains, and the targets
that the fleet ping was handed last. -/
structure GraceState where
  memory : List GraceEntry
  rows : List TrainRunRow
  handed : List FleetPingTarget

/-- `ac_stale_grace_seconds` have not passed. -/
def withinGrace (grace : Nat) (now lastValidAt : Int) : Prop :=
  now - lastValidAt ≤ grace * 1000000

instance (grace : Nat) (now lastValidAt : Int) : Decidable (withinGrace grace now lastValidAt) :=
  inferInstanceAs (Decidable (now - lastValidAt ≤ grace * 1000000))

/-! ## A poll with new snapshots -/

/-- The identity of the controller row: that of a new row of one of the radios, or of the
row before. -/
def snapshotIdOf (acIds : List ((String × String) × Int)) (previous : Option TrainRunRow)
    (train : GroundTrain) : Option Int :=
  let mrIds := (train.endpoints.map (·.mrId)).filter fun mrId => mrId ≠ ""
  match mrIds.findSome? fun mrId => acIds.lookup (train.trainId, mrId) with
  | some found => some found
  | none => (previous.bind (·.acSnapshotId)).bind fun found =>
    if found = 0 then none else some found

/-- The target of an endpoint. -/
def targetOf (train : GroundTrain) (tracker : StationaryTracker) (receivedAt : String)
    (endpoint : GroundEndpoint) : FleetPingTarget :=
  { targetIp := endpoint.managementIp
    trainId := train.trainId, trainNo := train.trainNo, mrId := endpoint.mrId
    mrPositionCode := endpoint.endpoint.text, acSnapshotId := train.acSnapshotId
    acReceivedAt := receivedAt, currentApIdentity := tracker.apIdentity
    sameApSince := tracker.since }

/-- The targets of a train that may be pinged. -/
def pingTargets (train : GroundTrain) (tracker : StationaryTracker) (receivedAt : String) :
    List FleetPingTarget :=
  if train.pingEligible then
    (train.endpoints.filter (·.pingTargetEligible)).map (targetOf train tracker receivedAt)
  else []

/-- A target whose address is already taken is skipped. -/
def offer (now : Int) (offered : Offered) (target : FleetPingTarget) : Offered :=
  if hasRow FleetPingTarget.targetIp offered.valid target.targetIp then offered
  else
    { valid := offered.valid ++ [target]
      memory := upsertRow GraceEntry.address offered.memory ⟨target, now⟩ }

/-- `upsert_train_state`. -/
def trainRunRow (train : GroundTrain) (tracker : StationaryTracker) (writtenAt : String) :
    TrainRunRow :=
  { trainId := train.trainId
    trainNo := train.trainNo, priority := train.priority, pingEligible := train.pingEligible
    acReceivedAt := train.acReceivedAt, updatedAt := writtenAt, endpoints := train.endpoints
    acSnapshotId := train.acSnapshotId, currentApIdentity := tracker.apIdentity
    sameApSince := tracker.since }

/-- The train of a result, with its policy and the identity of its controller row. -/
def classifiedTrain (classification : Classification) (previousRows : List TrainRunRow)
    (result : ClassificationResult) : GroundTrain :=
  let train := classification.withPolicy result.train
  { train with
    acSnapshotId := snapshotIdOf classification.acIds
      (rowAt TrainRunRow.trainId previousRows train.trainId) train }

/-- What the loop over the results does with one of them. -/
def classifyResult (classification : Classification) (now : Int) (previousRows : List TrainRunRow)
    (looped : Offered × List TrainRunRow) (result : ClassificationResult) :
    Offered × List TrainRunRow :=
  let train := classifiedTrain classification previousRows result
  ((pingTargets train result.tracker classification.receivedAt).foldl (offer now) looped.1,
    upsertRow TrainRunRow.trainId looped.2
      (trainRunRow train result.tracker (classification.writtenAt train.trainId)))

/-- The states of a train in which its targets keep their grace. -/
def graceStatuses : List EligibilityStatus := [.acStale, .acUnknown, .apUnmatched]

/-- `train_id in abnormal_trains or train_missing`. -/
def mayKeep (classification : Classification) (trainId : String) : Bool :=
  (classification.results.any fun result =>
      result.train.trainId = trainId ∧ result.train.eligibilityStatus ∈ graceStatuses) ||
    !classification.results.any fun result => result.train.trainId = trainId

/-- The loop over the memory after the results. -/
def graceEntry (classification : Classification) (grace : Nat) (now : Int) (offered : Offered)
    (entry : GraceEntry) : Offered :=
  if hasRow FleetPingTarget.targetIp offered.valid entry.address then offered
  else if mayKeep classification entry.target.trainId ∧ withinGrace grace now entry.lastValidAt then
    { offered with valid := offered.valid ++ [entry.target] }
  else { offered with memory := offered.memory.filter fun other => other.address ≠ entry.address }

/-- One pass over a classification. -/
def classify (grace : Nat) (now : Int) (classification : Classification) (state : GraceState) :
    GraceState :=
  let (offered, rows) := classification.results.foldl
    (classifyResult classification now state.rows) (⟨[], state.memory⟩, state.rows)
  let kept := offered.memory.foldl (graceEntry classification grace now) offered
  { memory := kept.memory, rows := rows, handed := kept.valid }

/-! ## A poll without new snapshots -/

/-- `_expire_recovered_ping_targets`. -/
def expire (grace : Nat) (now : Int) (state : GraceState) : GraceState :=
  let memory := state.memory.filter fun entry => withinGrace grace now entry.lastValidAt
  { state with memory := memory, handed := memory.map (·.target) }

/-! ## A restart -/

/-- `ORDER BY priority DESC, train_no, train_id`. -/
def rowBefore (one two : TrainRunRow) : Bool :=
  if one.priority ≠ two.priority then one.priority
  else if one.trainNo ≠ two.trainNo then one.trainNo < two.trainNo
  else one.trainId ≤ two.trainId

def listTrainRuns (rows : List TrainRunRow) : List TrainRunRow :=
  rows.insertionSort fun one two => rowBefore one two

def strip (text : String) : String :=
  String.ofList (Syslog.stripWhere Syslog.isPythonSpace text.toList)

section Restart

variable (fromIsoFormat : String → Option Int)

/-- When a target of a row was last valid: its last receipt, or the last write. -/
def lastValidOf (row : TrainRunRow) : Option Int :=
  fromIsoFormat (if row.acReceivedAt ≠ "" then row.acReceivedAt else row.updatedAt)

/-- The targets that a stored row offers. -/
def recoveredTargets (row : TrainRunRow) : List FleetPingTarget :=
  ((row.endpoints.filter (·.pingTargetEligible)).filter fun endpoint =>
      strip endpoint.managementIp ≠ "").map fun endpoint =>
    { targetIp := strip endpoint.managementIp, trainId := row.trainId, trainNo := row.trainNo
      mrId := endpoint.mrId, mrPositionCode := endpoint.endpoint.text
      acSnapshotId := row.acSnapshotId, acReceivedAt := row.acReceivedAt
      currentApIdentity := row.currentApIdentity, sameApSince := row.sameApSince }

/-- A recovered target whose address is already taken is skipped. -/
def recoverTarget (lastValidAt : Int) (recovered : List GraceEntry) (target : FleetPingTarget) :
    List GraceEntry :=
  insertRow GraceEntry.address recovered ⟨target, lastValidAt⟩

/-- The memory that is made of a stored row. -/
def recoverRow (grace : Nat) (now : Int) (recovered : List GraceEntry) (row : TrainRunRow) :
    List GraceEntry :=
  if !row.pingEligible then recovered
  else
    match lastValidOf fromIsoFormat row with
    | none => recovered
    | some lastValidAt =>
      if withinGrace grace now lastValidAt then
        (recoveredTargets row).foldl (recoverTarget lastValidAt) recovered
      else recovered

/-- `_restore_fleet_ping_targets`. -/
def restore (grace : Nat) (now : Int) (state : GraceState) : GraceState :=
  let recovered := (listTrainRuns state.rows).foldl (recoverRow fromIsoFormat grace now) []
  { state with memory := recovered, handed := recovered.map (·.target) }

end Restart

/-- `update_train_run`: a collection of the train writes to its row. -/
def touchRow (trainId : String) (priority : Option Bool) (updatedAt : String)
    (state : GraceState) : GraceState :=
  { state with
    rows := state.rows.map fun row =>
      if row.trainId = trainId then
        { row with priority := priority.getD row.priority, updatedAt := updatedAt }
      else row }

/-! ## What a classification says -/

/-- A train has an address among its targets. -/
def TrainOffers (train : GroundTrain) (address : String) : Prop :=
  train.pingEligible = true ∧ ∃ endpoint ∈ train.endpoints,
    endpoint.pingTargetEligible = true ∧ endpoint.managementIp = address

/-- The stored row offers the address. -/
def RowOffers (row : TrainRunRow) (address : String) : Prop :=
  row.pingEligible = true ∧ ∃ endpoint ∈ row.endpoints,
    endpoint.pingTargetEligible = true ∧ endpoint.managementIp = address

namespace Classification

variable (classification : Classification)

/-- A train of the classification offers the address. -/
def ValidAddress (address : String) : Prop :=
  ∃ train ∈ classification.trains, TrainOffers train address

/-- The train is in the classification. -/
def Sees (trainId : String) : Prop := ∃ train ∈ classification.trains, train.trainId = trainId

/-- The train is in a status that keeps targets for a while. -/
def InGraceStatus (trainId : String) : Prop :=
  ∃ train ∈ classification.trains, train.trainId = trainId ∧ train.eligibilityStatus ∈ graceStatuses

/-- The train is switched off. -/
def SawDisabled (trainId : String) : Prop :=
  ∃ train ∈ classification.trains, train.trainId = trainId ∧ train.enabled = false

end Classification

end NetConsole.FleetPing
