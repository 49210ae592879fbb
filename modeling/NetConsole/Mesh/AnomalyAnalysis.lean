import NetConsole.Mesh.Samples
import Mathlib.Data.Prod.Lex

/-!
# Anomaly events

`analyze_anomaly_events` merges the samples that show an anomaly into blocks, of
one scope and without a gap of more than two seconds, and reports a block that
lasts long enough. The loop over the samples carries one block, over all scopes.

A sample of another scope therefore ends a block, whether it shows the anomaly or
not, and a block cut in two can become too short to be reported
(`not_anomaliesIsolated_twoRadios`). The blocks of a scope are those of its
samples alone exactly if no two samples that belong together are parted
(`scopeBlocks_eq_iff`), and then so are its events (`anomaliesIsolated_of_unparted`).
-/

set_option autoImplicit false

namespace NetConsole.Mesh

open Foundations List

variable {Number Figures : Type} (lib : MeshLibrary Number Figures) (rules : MeshQualityRules)

/-! ## Blocks -/

/-- Two samples that follow each other belong to one block. -/
def sameBlock (last sample : MeshSample Number) : Bool :=
  decide (last.scope = sample.scope) && !lib.less (lib.ofInt 2)
      ((secondsBetween lib last.sampleTime sample.sampleTime).getD (lib.ofInt 0))

/-- The blocks of samples that a predicate picks. -/
def mergeSamples (samples : List (MeshSample Number)) (predicate : MeshSample Number → Bool) :
    List (List (MeshSample Number)) :=
  collected (samples.foldl (collectStep predicate (sameBlock lib)) ([], []))

/-- How long a block lasts. -/
def duration (block : List (MeshSample Number)) : Number :=
  (block.head?.bind fun first => block.getLast?.bind fun last =>
    secondsBetween lib first.sampleTime last.sampleTime).getD (lib.ofInt 0)

/-! ## Kinds of anomalies -/

/-- An entry of `predicates`, with its entry of `min_duration`. -/
structure AnomalyKind (Number : Type) where
  eventType : String
  predicate : MeshSample Number → Bool
  (severity diagnosis : String)
  minDuration : Int := 0

def busyLevel (sample : MeshSample Number) : Number :=
  (maximum lib ([sample.activeTxBusy, sample.activeRxBusy, sample.maxTxBusy,
    sample.maxRxBusy].map (·.getD (lib.ofInt 0)))).getD (lib.ofInt 0)

/-- The signal of the main link is below a threshold. -/
def rssiBelow (threshold : Int) (sample : MeshSample Number) : Bool :=
  (sample.activeMrRssi.map (lib.less · (lib.ofInt threshold))).getD false

/-- `predicates`. -/
def anomalyKinds (includeBusyAnalysis : Bool) : List (AnomalyKind Number) :=
  [{ eventType := "NO_ACTIVE"
     predicate sample := sample.activePeerCount == 0
     severity := "BAD"
     diagnosis := "该时间段没有任何 Active 主链路。" },
   { eventType := "MULTI_ACTIVE"
     predicate sample := decide (1 < sample.activePeerCount)
     severity := "BAD"
     diagnosis := "同一采样点出现多条 Active 主链路。" },
   { eventType := "WEAK_ACTIVE", predicate := rssiBelow lib rules.rssiGoodThreshold
     severity := "WARNING", diagnosis := "Active RSSI 持续低于良好阈值。"
     minDuration := rules.weakActiveMinSeconds },
   { eventType := "BAD_ACTIVE", predicate := rssiBelow lib rules.rssiBadThreshold
     severity := "CRITICAL"
     diagnosis := "Active RSSI 严重偏低。" },
   { eventType := "NO_BACKUP"
     predicate sample := sample.activePeerCount == 1 && sample.availableBackupCount == 0
     severity := "WARNING", diagnosis := "Active 存在但无可用备份链路。"
     minDuration := rules.noBackupMinSeconds }] ++
  if includeBusyAnalysis then
    [{ eventType := "HIGH_BUSY"
       predicate sample :=
        !lib.less (busyLevel lib sample) (lib.ofInt rules.busyBadThreshold)
       severity := "BAD"
       diagnosis := "TxBusy 或 RxBusy 达到严重阈值。" },
     { eventType := "BUSY_WARNING"
       predicate sample :=
        !lib.less (busyLevel lib sample) (lib.ofInt rules.busyWarningThreshold)
       severity := "WARNING", diagnosis := "TxBusy 或 RxBusy 达到关注阈值。" }]
  else []

/-! ## Events -/

/-- A row of `anomaly_events`; `none` stands for the empty text. -/
structure AnomalyEvent (Number : Type) where
  (eventTimeStart eventTimeEnd : String)
  durationSeconds : Number
  radio : Int
  (eventType severity activePeer : String)
  (activeRssiMin activeRssiAvg : Option Number)
  (backupCountMin standbyPeerCountMin : Int)
  bestBackupPeerMac : String
  (bestBackupRssi txBusyMax rxBusyMax : Option Number)
  sourceFile : String
  (sourceLineNumberStart sourceLineNumberEnd : Int)
  (diagnosis suggestion : String)

def anomalySuggestion (eventType : String) : String :=
  ([("NO_ACTIVE", "建议重点检查对应时段 MR Mesh 主链路和轨旁 AP 覆盖连续性。"),
    ("MULTI_ACTIVE", "建议检查解析结果和设备侧 Active 状态是否异常。"),
    ("WEAK_ACTIVE", "建议检查对应轨旁 AP 覆盖、天线方向、安装位置或车载 MR 射频状态。"),
    ("BAD_ACTIVE", "建议优先复核严重弱信号时间段的原始日志和 AP 覆盖。"),
    ("NO_BACKUP", "建议检查备份链路覆盖余量，降低后续切换风险。"),
    ("HIGH_BUSY", "建议排查空口干扰、同频竞争或业务负载。"),
    ("BUSY_WARNING", "建议复核对应时间段空口繁忙来源。")].lookup eventType).getD ""

/-- `min` of whole numbers, with the default of an empty list. -/
def leastInt (values : List Int) : Int :=
  match values with
  | [] => 0
  | value :: rest => rest.foldl min value

/-- `max` of whole numbers, with the default of an empty list. -/
def greatestInt (values : List Int) : Int :=
  match values with
  | [] => 0
  | value :: rest => rest.foldl max value

/-- A number is zero, in the sense of `value or other`. -/
def isZero (value : Number) : Bool :=
  !lib.less value (lib.ofInt 0) && !lib.less (lib.ofInt 0) value

/-- `_best_backup_in_block`: the first sample of the block with the best backup,
where a backup without signal counts as minus one. -/
def bestBackupInBlock (block : List (MeshSample Number)) : String × Option Number :=
  let level := fun value => if isZero lib value then lib.ofInt (-1) else value
  let best := block.foldl (fun (best : Option (MeshSample Number × Number)) sample =>
    match sample.bestBackupRssi, best with
    | none, _ => best
    | some value, none => some (sample, value)
    | some value, some (_, greatest) =>
      if lib.less (level greatest) (level value) then some (sample, value) else best) none
  match best with
  | none => ("", none)
  | some (sample, value) =>
    (sample.bestBackupPeerMac, if isZero lib value then none else some value)

def noBackupDiagnosis (block : List (MeshSample Number)) : String :=
  let minStandby := leastInt (block.map MeshSample.standbyPeerCount)
  let maxStandby := greatestInt (block.map MeshSample.standbyPeerCount)
  let maxAvailable := greatestInt (block.map MeshSample.availableBackupCount)
  let best := maximum lib (finite (block.map MeshSample.bestBackupRssi))
  let threshold := toString rules.backupAvailableThreshold
  if 0 < maxAvailable then "Active 存在，且同采样点存在可用备链；该事件不应输出为无备份风险。"
  else if minStandby ≤ 0 ∧ maxStandby ≤ 0 then "Active 存在，但连续采样点没有任何 STANDBY/备链记录。"
  else
    match best with
    | some value =>
      if minStandby ≤ 0 then
        "Active 存在，部分采样点没有 STANDBY/备链记录，部分采样点有备链但最佳备链 RSSI " ++
          lib.general value ++ " 低于可用阈值 " ++ threshold ++ "。"
      else
        "Active 存在，有 STANDBY/备链记录，但最佳备链 RSSI " ++ lib.general value ++
          " 低于可用阈值 " ++ threshold ++ "。"
    | none => "Active 存在，有 STANDBY/备链记录，但备链 RSSI 缺失，无法判断可用备链。"

/-- The event of a block; an empty block has none. -/
def anomalyEvent (kind : AnomalyKind Number) (block : List (MeshSample Number)) :
    Option (AnomalyEvent Number) := do
  let first ← block.head?
  let last ← block.getLast?
  let active := block.map MeshSample.activeMrRssi
  return {
    eventTimeStart := first.sampleTime, eventTimeEnd := last.sampleTime
    durationSeconds := duration lib block, radio := first.radio, eventType := kind.eventType
    severity := kind.severity, activePeer := first.activePeerMac
    activeRssiMin := minimum lib (finite active), activeRssiAvg := avg lib active
    backupCountMin := leastInt (block.map MeshSample.availableBackupCount)
    standbyPeerCountMin := leastInt (block.map MeshSample.standbyPeerCount)
    bestBackupPeerMac := (bestBackupInBlock lib block).1
    bestBackupRssi := (bestBackupInBlock lib block).2
    txBusyMax := maximum lib (finite (block.map MeshSample.activeTxBusy ++
      block.map MeshSample.maxTxBusy))
    rxBusyMax := maximum lib (finite (block.map MeshSample.activeRxBusy ++
      block.map MeshSample.maxRxBusy))
    sourceFile := first.sourceFile, sourceLineNumberStart := first.sourceLineNumber
    sourceLineNumberEnd := last.sourceLineNumber
    diagnosis :=
      if kind.eventType = "NO_BACKUP" then noBackupDiagnosis lib rules block
      else kind.diagnosis
    suggestion := anomalySuggestion kind.eventType }

def longEnough (kind : AnomalyKind Number) (block : List (MeshSample Number)) : Bool :=
  !lib.less (duration lib block) (lib.ofInt kind.minDuration)

/-- The reported event of a block, with the scope of its first sample. -/
def blockEvent (kind : AnomalyKind Number) (block : List (MeshSample Number)) :
    Option (Scope × AnomalyEvent Number) :=
  if longEnough lib kind block then
    block.head?.bind fun first =>
      (anomalyEvent lib rules kind block).map fun event => (first.scope, event)
  else none

/-- The key of the final sort. -/
def anomalyOrder (event : AnomalyEvent Number) : Lex (String × String) :=
  toLex (event.eventTimeStart, event.eventType)

/-- The events of `analyze_anomaly_events` with their scopes. -/
def scopedAnomalyEvents (samples : List (MeshSample Number)) (includeBusyAnalysis : Bool) :
    List (Numbered (Scope × AnomalyEvent Number)) :=
  sortBy (fun event => anomalyOrder event.row.2)
    (numbered ((anomalyKinds lib rules includeBusyAnalysis).flatMap fun kind =>
      (mergeSamples lib samples kind.predicate).filterMap (blockEvent lib rules kind)))

/-- The anomalies of all kinds. -/
def analyzeAnomalyEvents (samples : List (MeshSample Number)) (includeBusyAnalysis : Bool) :
    List (Numbered (AnomalyEvent Number)) :=
  (scopedAnomalyEvents lib rules samples includeBusyAnalysis).map fun event =>
    ⟨event.sequence, event.row.2⟩

/-! ## The blocks of a scope -/

section Isolation

theorem sameBlock_scope (one two : MeshSample Number) (same : sameBlock lib one two = true) :
    one.scope = two.scope := by
  rw [sameBlock, Bool.and_eq_true, decide_eq_true_eq] at same
  exact same.1

/-- Two samples of the scope that show the anomaly without a gap stand next to each
other when no other sample of the scope stands between them. -/
abbrev BlocksUnparted (predicate : MeshSample Number → Bool) (own : Scope)
    (samples : List (MeshSample Number)) : Prop :=
  Unparted predicate (sameBlock lib) MeshSample.scope own samples

theorem scopeBlocks_eq_iff (predicate : MeshSample Number → Bool) (own : Scope)
    (samples : List (MeshSample Number)) :
    scopeRuns MeshSample.scope own (mergeSamples lib samples predicate) =
        mergeSamples lib (scopeElements MeshSample.scope own samples) predicate ↔
      BlocksUnparted lib predicate own samples := by
  rw [mergeSamples, mergeSamples, collect_eq_runs, collect_eq_runs]
  exact scopeRuns_eq_iff (sameBlock_scope lib) samples

/-! ## The events of a scope -/

theorem blockEvent_scope {kind : AnomalyKind Number} {block : List (MeshSample Number)}
    {event : Scope × AnomalyEvent Number} (reported : blockEvent lib rules kind block = some event)
    (own : Scope) : decide (event.1 = own) = beginsIn MeshSample.scope own block := by
  unfold blockEvent at reported
  split at reported
  · cases block with
    | nil => simp at reported
    | cons first rest =>
      rw [List.head?_cons, Option.bind_some] at reported
      obtain ⟨_, _, rfl⟩ := Option.map_eq_some_iff.mp reported
      rfl
  · simp at reported

theorem filter_blockEvents (kind : AnomalyKind Number) (own : Scope)
    (blocks : List (List (MeshSample Number))) :
    (blocks.filterMap (blockEvent lib rules kind)).filter (fun event =>
        decide (event.1 = own)) =
      (scopeRuns MeshSample.scope own blocks).filterMap (blockEvent lib rules kind) := by
  induction blocks with
  | nil => rfl
  | cons block rest ih =>
    cases reported : blockEvent lib rules kind block with
    | none =>
      rw [filterMap_cons_none reported, ih, scopeRuns, scopeRuns, filter_cons]
      split
      · rw [filterMap_cons_none reported]
      · rfl
    | some event =>
      have same := blockEvent_scope lib rules reported own
      rw [filterMap_cons_some reported, filter_cons, ih, same, scopeRuns, scopeRuns, filter_cons]
      split
      · rw [filterMap_cons_some reported]
      · rfl

def scopeAnomalies (own : Scope) (events : List (Numbered (Scope × AnomalyEvent Number))) :
    List (AnomalyEvent Number) :=
  ((events.map (·.row)).filter fun event => decide (event.1 = own)).map (·.2)

theorem scopeAnomalies_eq (samples : List (MeshSample Number)) (own : Scope)
    (includeBusyAnalysis : Bool) :
    scopeAnomalies own (scopedAnomalyEvents lib rules samples includeBusyAnalysis) =
      (sortBy (fun event => anomalyOrder event.2)
        ((anomalyKinds lib rules includeBusyAnalysis).flatMap fun kind =>
          (scopeRuns MeshSample.scope own (mergeSamples lib samples kind.predicate)).filterMap
            (blockEvent lib rules kind))).map (·.2) := by
  rw [scopeAnomalies, scopedAnomalyEvents,
    map_row_sortBy (fun event : Scope × AnomalyEvent Number => anomalyOrder event.2),
    filter_sortBy, filter_flatMap]
  simp only [filter_blockEvents]

theorem analyzeAnomalyEvents_eq (samples : List (MeshSample Number)) (includeBusyAnalysis : Bool) :
    (analyzeAnomalyEvents lib rules samples includeBusyAnalysis).map (·.row) =
      (sortBy (fun event => anomalyOrder event.2)
        ((anomalyKinds lib rules includeBusyAnalysis).flatMap fun kind =>
          (mergeSamples lib samples kind.predicate).filterMap
            (blockEvent lib rules kind))).map (·.2) := by
  rw [analyzeAnomalyEvents, map_map, scopedAnomalyEvents,
    ← map_row_sortBy (fun event : Scope × AnomalyEvent Number => anomalyOrder event.2),
    map_map]
  rfl

/-- The events of a scope, apart from their numbers, are those of its samples
alone. -/
def AnomaliesIsolated (samples : List (MeshSample Number)) (own : Scope)
    (includeBusyAnalysis : Bool) : Prop :=
  scopeAnomalies own (scopedAnomalyEvents lib rules samples includeBusyAnalysis) =
    (analyzeAnomalyEvents lib rules (scopeElements MeshSample.scope own samples)
      includeBusyAnalysis).map (·.row)

/-- A scope is analysed as if it were alone when no two of its samples that belong
to one block are parted by samples of other scopes. -/
theorem anomaliesIsolated_of_unparted {samples : List (MeshSample Number)} {own : Scope}
    {includeBusyAnalysis : Bool} (unparted : ∀ kind ∈ anomalyKinds lib rules includeBusyAnalysis,
      BlocksUnparted lib kind.predicate own samples) :
    AnomaliesIsolated lib rules samples own includeBusyAnalysis := by
  rw [AnomaliesIsolated, scopeAnomalies_eq, analyzeAnomalyEvents_eq]
  congr 2
  refine flatMap_congr ?_
  intro kind mem
  rw [(scopeBlocks_eq_iff lib kind.predicate own samples).mpr (unparted kind mem)]

end Isolation

/-! ## Two radios -/

/-- Six seconds of the first radio without a backup link. -/
def withoutBackup : List (MeshSample Int) :=
  [linkedSample 1 "2026-01-01 10:00:00", linkedSample 1 "2026-01-01 10:00:02",
    linkedSample 1 "2026-01-01 10:00:04", linkedSample 1 "2026-01-01 10:00:06"]

/-- The same samples with those of the second radio between them. -/
def interleavedRadios : List (MeshSample Int) :=
  withoutBackup.flatMap fun sample => [sample, { sample with radio := 2 }]

/-- The second radio hides the missing backup of the first one. -/
theorem not_anomaliesIsolated_twoRadios :
    ¬ AnomaliesIsolated integerLibrary {} interleavedRadios (1, 1) true := by
  have full : (scopeAnomalies (1, 1)
      (scopedAnomalyEvents integerLibrary {} interleavedRadios true)).length = 0 := by
    decide +kernel
  have alone : ((analyzeAnomalyEvents integerLibrary {}
      (scopeElements MeshSample.scope (1, 1) interleavedRadios) true).map (·.row)).length = 1 := by
    decide +kernel
  intro isolated
  rw [isolated, alone] at full
  exact absurd full (by decide)

/-- One radio after the other: the events of the first one stay. -/
theorem anomaliesIsolated_oneAfterOther :
    AnomaliesIsolated integerLibrary {} (withoutBackup ++ withoutBackup.map fun sample =>
      { sample with radio := 2 }) (1, 1) true := by
  apply anomaliesIsolated_of_unparted
  have whole : ∀ kind ∈ anomalyKinds integerLibrary {} true,
      partings kind.predicate (sameBlock integerLibrary) MeshSample.scope (1, 1)
        (withoutBackup ++ withoutBackup.map fun sample => { sample with radio := 2 }) = 0 := by
    decide +kernel
  intro kind mem
  exact (partings_eq_zero_iff (sameBlock_scope integerLibrary) _).mp (whole kind mem)

end NetConsole.Mesh
