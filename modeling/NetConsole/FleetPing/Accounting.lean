import NetConsole.Foundations.WriteBehind
import Mathlib.Data.List.Dedup
import Mathlib.Data.List.Sort
import Mathlib.Data.String.Basic

/-!
# Samples of the fleet ping and what they are counted in

Every sample of a current target is counted for its endpoint and in five buckets:
its minute, its five minutes, the poll of the access controller, the stay at the
access point, and the day. Buckets are counted in memory and flushed to the table
of ping summaries. A target update flushes first and then replaces the targets;
a stop flushes and clears them; a start loads what the table has.

A raised exception ends an operation where it is raised, and what was changed
before stays changed. Dictionaries that are only looked up are functions. The
raw record of a sample, its correlation with the timeline and the shards are left
out: they read the counters nowhere.
-/

set_option autoImplicit false

namespace NetConsole.FleetPing

open Foundations

/-! ## Times -/

/-- An aware or naive time: its fields, its zone, and its place on the time line in
microseconds. -/
structure DateTime where
  date : String
  (hour minute second microsecond : Nat)
  offset : Option String
  instant : Int
  deriving DecidableEq

/-- What the standard library computes: `datetime.fromisoformat`, `astimezone()` of a naive
time, and `isoformat(timespec="seconds")` of a time some seconds later. -/
structure TimeLibrary where
  fromIsoformat : String → Option DateTime
  astimezone : DateTime → DateTime
  laterIsoformat : DateTime → Nat → String

def twoDigits (number : Nat) : String :=
  String.ofList (List.leftpad 2 '0' (Nat.toDigits 10 number))

/-- `isoformat(timespec="seconds")`. -/
def DateTime.isoformatSeconds (time : DateTime) : String :=
  time.date ++ "T" ++ twoDigits time.hour ++ ":" ++ twoDigits time.minute ++ ":" ++
    twoDigits time.second ++ time.offset.getD ""

def TimeLibrary.aware (lib : TimeLibrary) (time : DateTime) : DateTime :=
  if time.offset.isSome then time else lib.astimezone time

/-- The time of a sample; now, when it cannot be read. -/
def parseSampleTs (lib : TimeLibrary) (now : DateTime) (value : String) : DateTime :=
  match lib.fromIsoformat value with
  | some result => lib.aware result
  | none => now

/-! ## Counters -/

/-- The arithmetic of round trip times and rates, which are floating point numbers. -/
structure FloatArithmetic (R : Type) where
  zero : R
  add : R → R → R
  min : R → R → R
  max : R → R → R
  /-- `round(rtt_sum / success, 4)`. -/
  average : R → Nat → R
  /-- `float(average) * success`. -/
  total : R → Nat → R
  /-- `round(loss * 100 / sent, 4)`. -/
  rate : Nat → Nat → R
  /-- `round(max_loss * period_ms / 1000, 3)`. -/
  seconds : Nat → Nat → R

/-- `_Stats`. -/
structure Stats (R : Type) where
  (raw ignored sent success loss : Nat)
  rttSum : R
  (minRtt maxRtt : Option R)
  (currentLoss maxLoss : Nat)

/-- A sample of `fping`, as it is parsed. -/
structure FpingV5Sample (R : Type) where
  (ts target : String)
  ok : Option Bool
  rttMs : Option R

section Counters

variable {R : Type} (floats : FloatArithmetic R)

def Stats.empty : Stats R :=
  { raw := 0, ignored := 0, sent := 0, success := 0, loss := 0, rttSum := floats.zero
    minRtt := none, maxRtt := none, currentLoss := 0, maxLoss := 0 }

/-- The round trip time of an answered sample. -/
def Stats.addRtt (stats : Stats R) : Option R → Stats R
  | none => stats
  | some rtt =>
    { stats with
      rttSum := floats.add stats.rttSum rtt
      minRtt := some ((stats.minRtt.map fun least => floats.min least rtt).getD rtt)
      maxRtt := some ((stats.maxRtt.map fun most => floats.max most rtt).getD rtt) }

/-- A sample is counted. -/
def Stats.add (stats : Stats R) (sample : FpingV5Sample R) (ignored : Bool) : Stats R :=
  let counted := { stats with raw := stats.raw + 1 }
  if ignored then { counted with ignored := counted.ignored + 1 }
  else
    let sent := { counted with sent := counted.sent + 1 }
    if sample.ok = some true then
      ({ sent with success := sent.success + 1, currentLoss := 0 } : Stats R).addRtt floats
        sample.rttMs
    else
      { sent with
        loss := sent.loss + 1, currentLoss := sent.currentLoss + 1
        maxLoss := max sent.maxLoss (sent.currentLoss + 1) }

/-! ## Targets, buckets and summaries -/

/-- A target with what is known of its train and access point. -/
structure FleetPingTarget where
  (targetIp trainId trainNo mrId mrPositionCode : String)
  acSnapshotId : Option Int
  (acReceivedAt currentApIdentity sameApSince : String)
  deriving DecidableEq

/-- The key of a bucket of summaries. -/
structure BucketKey where
  (bucketKind bucketStart targetIp apIdentity : String)
  deriving DecidableEq

/-- A row of `ping_summaries`. -/
structure PingSummary (R : Type) where
  (bucketKind bucketStart bucketEnd targetIp trainId trainNo mrId mrPositionCode : String)
  acSnapshotId : Option Int
  apIdentity : String
  (rawSampleCount warmupIgnoredCount sentCount successCount lossCount : Nat)
  lossRatePercent : R
  (minRttMs avgRttMs maxRttMs : Option R)
  continuousLossMaxCount : Nat
  continuousLossMaxSeconds : R
  createdAt : String

/-- The bucket of a row. -/
def PingSummary.key (row : PingSummary R) : BucketKey :=
  { bucketKind := row.bucketKind, bucketStart := row.bucketStart, targetIp := row.targetIp
    apIdentity := row.apIdentity }

/-- `ac_received_at or …`. -/
def textOrElse (text otherwise' : String) : String := if text = "" then otherwise' else text

/-- `str(target.ac_snapshot_id or "")`. -/
def snapshotText : Option Int → String
  | some number => if number = 0 then "" else toString number
  | none => ""

/-- `_bucket_keys`, as keys of the target. -/
def bucketKeys (ts : DateTime) (target : FleetPingTarget) (targetIp : String) : List BucketKey :=
  let minute := { ts with second := 0, microsecond := 0 }
  let five := { minute with minute := minute.minute / 5 * 5 }
  let daily := { ts with hour := 0, minute := 0, second := 0, microsecond := 0 }
  [{ bucketKind := "1m", bucketStart := minute.isoformatSeconds, targetIp, apIdentity := "" },
    { bucketKind := "5m", bucketStart := five.isoformatSeconds, targetIp, apIdentity := "" },
    { bucketKind := "ac_poll", bucketStart := textOrElse target.acReceivedAt minute.isoformatSeconds
      targetIp, apIdentity := snapshotText target.acSnapshotId },
    { bucketKind := "ap_segment"
      bucketStart := textOrElse target.sameApSince minute.isoformatSeconds
      targetIp, apIdentity := target.currentApIdentity },
    { bucketKind := "daily", bucketStart := daily.isoformatSeconds, targetIp, apIdentity := "" }]

/-- The length of a bucket; 0 for an unknown kind. -/
def bucketSeconds (kind : String) : Nat :=
  if kind = "1m" then 60 else if kind = "5m" then 300 else if kind = "daily" then 86400 else 0

/-- The time at which a bucket ends. -/
def bucketEnd (lib : TimeLibrary) (kind start : String) : String :=
  match lib.fromIsoformat start with
  | none => start
  | some value =>
    if bucketSeconds kind = 0 then start else lib.laterIsoformat value (bucketSeconds kind)

/-- `_summary_payload`, with the values of `_stats_values`. -/
def summaryPayload (lib : TimeLibrary) (periodMs : Nat) (now : String) (key : BucketKey)
    (target : FleetPingTarget) (stats : Stats R) : PingSummary R :=
  { bucketKind := key.bucketKind
    bucketStart := key.bucketStart, bucketEnd := bucketEnd lib key.bucketKind key.bucketStart
    targetIp := target.targetIp, trainId := target.trainId, trainNo := target.trainNo
    mrId := target.mrId, mrPositionCode := target.mrPositionCode
    acSnapshotId := target.acSnapshotId, apIdentity := key.apIdentity, rawSampleCount := stats.raw
    warmupIgnoredCount := stats.ignored, sentCount := stats.sent, successCount := stats.success
    lossCount := stats.loss
    lossRatePercent := if stats.sent = 0 then floats.zero else floats.rate stats.loss stats.sent
    minRttMs := stats.minRtt
    avgRttMs := if stats.success = 0 then none else some (floats.average stats.rttSum stats.success)
    maxRttMs := stats.maxRtt, continuousLossMaxCount := stats.maxLoss
    continuousLossMaxSeconds := floats.seconds stats.maxLoss periodMs, createdAt := now }

/-- `_stats_from_summary`; no row is an empty one. -/
def statsFromSummary : Option (PingSummary R) → Stats R
  | none => { Stats.empty floats with rttSum := floats.total floats.zero 0 }
  | some row =>
    { raw := row.rawSampleCount, ignored := row.warmupIgnoredCount, sent := row.sentCount
      success := row.successCount, loss := row.lossCount
      rttSum := floats.total (row.avgRttMs.getD floats.zero) row.successCount
      minRtt := row.minRttMs, maxRtt := row.maxRttMs, currentLoss := 0
      maxLoss := row.continuousLossMaxCount }

end Counters

/-! ## The supervisor -/

/-- The memory of the supervisor during a run, and the run's rows in the database. -/
structure Supervisor (R : Type) where
  running : Bool
  targets : List FleetPingTarget
  stats : String → Option (Stats R)
  buckets : WriteBehind BucketKey (Stats R) (PingSummary R)
  sampleCount : Nat
  persistedTargetStats : String → Option (Stats R)
  startedAt : String → Option String

/-- Settings of a run that the counters depend on. -/
structure PingSettings where
  (periodMs warmupSeconds : Nat)

/-- The order in which a set is iterated. -/
structure SetOrder (α : Type) where
  order : List α → List α
  perm : ∀ values, (order values).Perm values

/-- Where recording a sample raises, if it does: at its raw record, or at the loading of a
bucket after some buckets were counted. -/
inductive SampleFailure
  | rawWriting
  | loading (done : Nat)

/-- What is decided outside while summaries are written. -/
structure FlushFacts where
  now : String
  order : SetOrder BucketKey
  outcome : BucketKey → WriteOutcome

section Operations

variable {R : Type} (floats : FloatArithmetic R) (lib : TimeLibrary) (settings : PingSettings)

/-- The target at an address. -/
def Supervisor.targetAt (supervisor : Supervisor R) (address : String) : Option FleetPingTarget :=
  rowAt FleetPingTarget.targetIp supervisor.targets address

/-- What a flush writes for a key: nothing when the target or the bucket is gone. -/
def Supervisor.summaryOf (supervisor : Supervisor R) (now : String) (key : BucketKey) :
    Option (PingSummary R) :=
  match supervisor.targetAt key.targetIp, supervisor.buckets.entries key with
  | some target, some stats =>
    some (summaryPayload floats lib settings.periodMs now key target stats)
  | _, _ => none

/-- `_flush_summaries_locked`, and whether it returns. -/
def Supervisor.flushSummariesLocked (facts : FlushFacts) (supervisor : Supervisor R) :
    Supervisor R × Bool :=
  if supervisor.running ∧ supervisor.buckets.dirty ≠ [] then
    let flushed := supervisor.buckets.flush PingSummary.key facts.outcome
      (supervisor.summaryOf floats lib settings facts.now)
      (facts.order.order supervisor.buckets.dirty)
    ({ supervisor with buckets := flushed.1 }, flushed.2)
  else (supervisor, true)

/-- The sample comes too soon after its target was activated. -/
def isWarmup (ts : DateTime) (activatedAt : String) : Bool :=
  if settings.warmupSeconds = 0 ∨ activatedAt = "" then false
  else
    match lib.fromIsoformat activatedAt with
    | none => false
    | some activated =>
      ts.instant - (lib.aware activated).instant < settings.warmupSeconds * 1000000

/-- Whether a sample falls into the warm-up of its target. -/
def Supervisor.ignores (supervisor : Supervisor R) (ts : DateTime) (address : String) : Bool :=
  isWarmup lib settings ts ((supervisor.startedAt address).getD "")

/-- A sample is counted for its endpoint and in buckets. -/
def Supervisor.count (sample : FpingV5Sample R) (warmupIgnored : Bool) (keys : List BucketKey)
    (supervisor : Supervisor R) : Supervisor R :=
  let stats := (supervisor.stats sample.target).getD (Stats.empty floats)
  { supervisor with
    sampleCount := supervisor.sampleCount + 1
    stats := Function.update supervisor.stats sample.target
      (some (stats.add floats sample warmupIgnored))
    buckets := supervisor.buckets.touchAll PingSummary.key (statsFromSummary floats)
      (fun stats => stats.add floats sample warmupIgnored) keys }

/-- The part of `_record_sample` that counts. -/
def Supervisor.recordSample (now : DateTime) (failure : Option SampleFailure)
    (sample : FpingV5Sample R) (supervisor : Supervisor R) : Supervisor R :=
  match supervisor.targetAt sample.target with
  | none => supervisor
  | some target =>
    if supervisor.running then
      let ts := parseSampleTs lib now sample.ts
      let warmupIgnored := supervisor.ignores lib settings ts sample.target
      let keys := bucketKeys ts target sample.target
      match failure with
      | some .rawWriting => { supervisor with sampleCount := supervisor.sampleCount + 1 }
      | some (.loading done) => supervisor.count floats sample warmupIgnored (keys.take done)
      | none => supervisor.count floats sample warmupIgnored keys
    else supervisor

end Operations

/-- Where a target update raises after its flush, if it does. -/
inductive UpdateFailure
  | deactivating
  | activating (done : Nat)
  | correlating

/-- What is decided outside while the targets are replaced. -/
structure UpdateFacts where
  flush : FlushFacts
  /-- `ensure_ping_target_activation`. -/
  activation : String → String
  failure : Option UpdateFailure

section Updates

variable {R : Type} (floats : FloatArithmetic R) (lib : TimeLibrary) (settings : PingSettings)

/-- `{item.target_ip: item for item in targets if item.target_ip}`. -/
def desiredTargets (targets : List FleetPingTarget) : List FleetPingTarget :=
  (targets.filter fun item => item.targetIp ≠ "").foldl (upsertRow FleetPingTarget.targetIp) []

/-- The targets that are no longer wanted. -/
def Supervisor.removedTargets (supervisor : Supervisor R) (desired : List FleetPingTarget) :
    List FleetPingTarget :=
  supervisor.targets.filter fun target =>
    !hasRow FleetPingTarget.targetIp desired target.targetIp

/-- Removed targets lose their start times. -/
def Supervisor.deactivate (desired : List FleetPingTarget) (supervisor : Supervisor R) :
    Supervisor R :=
  let removed := supervisor.removedTargets desired
  if removed = [] then supervisor
  else
    { supervisor with
      startedAt address :=
        if hasRow FleetPingTarget.targetIp removed address then none
        else supervisor.startedAt address }

/-- Desired targets get their start times. -/
def Supervisor.activate (activation : String → String) (desired : List FleetPingTarget)
    (supervisor : Supervisor R) : Supervisor R :=
  { supervisor with
    startedAt := desired.foldl (fun started target =>
      Function.update started target.targetIp (some (activation target.targetIp)))
        supervisor.startedAt }

/-- Endpoints that are new to the counters continue from the loaded ones. -/
def continueStats (desired : List FleetPingTarget)
    (persisted stats : String → Option (Stats R)) : String → Option (Stats R) := fun address =>
  if hasRow FleetPingTarget.targetIp desired address ∧ stats address = none then persisted address
  else stats address

/-- The new targets are in place. -/
def Supervisor.retarget (desired : List FleetPingTarget) (supervisor : Supervisor R) :
    Supervisor R :=
  { supervisor with
    targets := desired
    stats := continueStats desired supervisor.persistedTargetStats supervisor.stats }

/-- The part of `update_targets` after its flush. -/
def Supervisor.replaceTargets (facts : UpdateFacts) (desired : List FleetPingTarget)
    (supervisor : Supervisor R) : Supervisor R :=
  if supervisor.running then
    let activated (done : List FleetPingTarget) :=
      (supervisor.deactivate desired).activate facts.activation done
    match facts.failure with
    | some .deactivating =>
      if supervisor.removedTargets desired = [] then (activated desired).retarget desired
      else supervisor
    | some (.activating done) => activated (desired.take done)
    | some .correlating => activated desired
    | none => (activated desired).retarget desired
  else
    match facts.failure with
    | some .correlating => supervisor
    | _ => supervisor.retarget desired

/-- `update_targets` without its shards, which the counters do not depend on. -/
def Supervisor.updateTargets (facts : UpdateFacts) (targets : List FleetPingTarget)
    (supervisor : Supervisor R) : Supervisor R :=
  let flushed := supervisor.flushSummariesLocked floats lib settings facts.flush
  if flushed.2 then flushed.1.replaceTargets facts (desiredTargets targets) else flushed.1

/-- `stop`, when all workers have ended. -/
def Supervisor.stop (facts : FlushFacts) (supervisor : Supervisor R) : Supervisor R :=
  let flushed := supervisor.flushSummariesLocked floats lib settings facts
  if flushed.2 then { flushed.1 with targets := [], running := false } else flushed.1

/-- `ORDER BY bucket_start, train_no, mr_position_code`. -/
def summaryBefore (one two : PingSummary R) : Prop :=
  one.bucketStart < two.bucketStart ∨ (one.bucketStart = two.bucketStart ∧
      (one.trainNo < two.trainNo ∨
        (one.trainNo = two.trainNo ∧ one.mrPositionCode ≤ two.mrPositionCode)))

instance : DecidableRel (summaryBefore (R := R)) := fun one two => by
  unfold summaryBefore
  infer_instance

/-- `list_ping_summaries(run_id)`. -/
def listPingSummaries (rows : List (PingSummary R)) : List (PingSummary R) :=
  (rows.filter fun row => row.bucketKind = "daily").insertionSort summaryBefore

/-- The counters of the endpoints in the daily summaries; of several days the last is kept. -/
def loadTargetStats (rows : List (PingSummary R)) (address : String) : Option (Stats R) :=
  if address = "" then none
  else ((listPingSummaries rows).reverse.find? fun row => row.targetIp = address).map fun row =>
    statsFromSummary floats (some row)

/-- `start` of the run, unless it is running. -/
def Supervisor.start (persistedSampleCount : Nat) (supervisor : Supervisor R) : Supervisor R :=
  if supervisor.running then supervisor
  else
    { supervisor with
      running := true
      stats _ := none
      buckets := { entries := fun _ => none, dirty := [], rows := supervisor.buckets.rows }
      sampleCount := persistedSampleCount
      persistedTargetStats := loadTargetStats floats supervisor.buckets.rows
      startedAt _ := none }

/-- The supervisor of a new process, over the rows that are stored. -/
def newSupervisor (rows : List (PingSummary R)) : Supervisor R :=
  { running := false
    targets := []
    stats _ := none
    buckets := { entries := fun _ => none, dirty := [], rows }, sampleCount := 0
    persistedTargetStats _ := none
    startedAt _ := none }

end Updates

end NetConsole.FleetPing
