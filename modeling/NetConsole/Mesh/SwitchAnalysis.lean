import NetConsole.Mesh.Samples

/-!
# Active segments and switch events

`build_active_segments` cuts the samples into segments with one main link, and
`analyze_switch_events` derives a switch event from every two segments of a scope
that follow each other. The loop over the samples carries one open segment, over
all scopes.

Segments and events are numbered through the whole report, so the number stands
beside the row (`Numbered`), and the scope of an event stands beside it as well.
-/

set_option autoImplicit false

namespace NetConsole.Mesh

open Foundations

variable {Number Figures : Type}

/-! ## Segments -/

/-- A segment that is still open: the dictionary of `build_active_segments`. -/
structure OpenSegment (Number : Type) where
  (sourceFileId radio : Int)
  (activePeerKey activePeerMac : String)
  sampleIntervalSeconds : Number
  (startTime endTime : String)

/-- A finished segment with its peer and its figures. -/
structure ActiveSegment (Number Figures : Type) extends OpenSegment Number where
  (peerApName peerApMac peerSite peerRadio peerRadioMac physicalApKey : String)
  durationSeconds : Number
  (firstMrRssi lastMrRssi : Option Number)
  figures : Figures

def ActiveSegment.scope (segment : ActiveSegment Number Figures) : Scope :=
  (segment.sourceFileId, segment.radio)

variable (lib : MeshLibrary Number Figures) (rules : MeshQualityRules)

/-- `_peer`. -/
def rowPeer (row : MeshRow) : String :=
  canonical lib (textOr row.peerMacNormalized (textOr row.peerMac row.peerMacRaw))

/-- `_physical_ap_key`, from the access point, the peer, its radio and the active
peer. -/
def physicalApKey (apMac peer radioMac activePeer : String) : String :=
  if canonical lib apMac ≠ "" then "ap_mac:" ++ canonical lib apMac
  else
    let peer := textOr peer (textOr (canonical lib radioMac) (canonical lib activePeer))
    if peer = "" then "" else "peer_mac:" ++ peer

/-- `_peer_rows_between`, over the index of `_build_peer_time_index`. -/
def peerRowsBetween (rows : List MeshRow) (radio : Int) (peer startTime endTime : String) :
    List MeshRow :=
  match dtOrNone lib startTime, dtOrNone lib endTime with
  | some start, some finish =>
    rowsBetween lib MeshRow.sampleTime (rows.filter fun row =>
        rowPeer lib row != "" && row.radio == radio && rowPeer lib row == peer)
      start finish
  | _, _ => []

def finishSegment (rows : List MeshRow) (segment : OpenSegment Number)
    (samples : List (MeshSample Number)) : ActiveSegment Number Figures :=
  let matched := peerRowsBetween lib rows segment.radio segment.activePeerKey
    segment.startTime segment.endTime
  let first := matched.head?
  let text := fun field => ((first.map field).getD "" : String)
  let base := (secondsBetween lib segment.startTime segment.endTime).getD (lib.ofInt 0)
  let interval :=
    if lib.less segment.sampleIntervalSeconds (lib.ofInt 0) then lib.ofInt 0
    else segment.sampleIntervalSeconds
  { segment with
    peerApName := text MeshRow.peerApName, peerApMac := text fun row => formatMacH3c row.peerApMac
    peerSite := text MeshRow.peerSite
    peerRadio := text fun row => textOr row.peerRadio row.peerRadioLabel
    peerRadioMac := text MeshRow.peerRadioMac
    physicalApKey :=
      match first with
      | some row => physicalApKey lib row.peerApMac (rowPeer lib row) row.peerRadioMac ""
      | none => "peer_mac:" ++ segment.activePeerKey
    durationSeconds := lib.round3 (lib.add base interval)
    firstMrRssi := samples.head?.bind MeshSample.activeMrRssi
    lastMrRssi := samples.getLast?.bind MeshSample.activeMrRssi
    figures := lib.figures rules samples matched }

/-- `_sample_interval_by_scope`, read at one scope. -/
def sampleInterval (samples : List (MeshSample Number)) (scope : Scope) : Number :=
  let times := (samples.filter fun sample => decide (sample.scope = scope)).filterMap fun sample =>
    dtOrNone lib sample.sampleTime
  let ordered := sortBy id times.eraseDups
  let deltas := (ordered.zip ordered.tail).map fun (previous, current) => current - previous
  let positive := deltas.filter fun delta => 0 < delta
  if positive.isEmpty then lib.ofInt 1
  else lib.median (positive.map lib.totalSeconds)

/-- What the loop of `build_active_segments` carries: the finished segments, and the
open one with its samples. -/
structure SegmentLoop (Number Figures : Type) where
  segments : List (ActiveSegment Number Figures)
  current : Option (OpenSegment Number × List (MeshSample Number))

/-- The segments when the open one is finished. -/
def SegmentLoop.finish (rows : List MeshRow) (loop : SegmentLoop Number Figures) :
    List (ActiveSegment Number Figures) :=
  match loop.current with
  | none => loop.segments
  | some (segment, samples) => loop.segments ++ [finishSegment lib rules rows segment samples]

def openSegment (interval : Scope → Number) (sample : MeshSample Number) : OpenSegment Number where
  sourceFileId := sample.sourceFileId
  radio := sample.radio
  activePeerKey := sample.activePeerKey
  activePeerMac := sample.activePeerMac
  sampleIntervalSeconds := interval sample.scope
  startTime := sample.sampleTime
  endTime := sample.sampleTime

/-- One sample. -/
def SegmentLoop.step (rows : List MeshRow) (interval : Scope → Number)
    (loop : SegmentLoop Number Figures) (sample : MeshSample Number) : SegmentLoop Number Figures :=
  if sample.activePeerKey = "" then ⟨loop.finish lib rules rows, none⟩
  else
    match loop.current with
    | some (segment, samples) =>
      if segment.sourceFileId = sample.sourceFileId ∧ segment.radio = sample.radio ∧
          segment.activePeerKey = sample.activePeerKey then
        ⟨loop.segments, some ({ segment with endTime := sample.sampleTime }, samples ++ [sample])⟩
      else ⟨loop.finish lib rules rows, some (openSegment interval sample, [sample])⟩
    | none => ⟨loop.segments, some (openSegment interval sample, [sample])⟩

/-- `build_active_segments`; the sequence of a segment is its place in the list. -/
def buildActiveSegments (samples : List (MeshSample Number)) (rows : List MeshRow) :
    List (Numbered (ActiveSegment Number Figures)) :=
  numbered ((samples.foldl (SegmentLoop.step lib rules rows (sampleInterval lib samples))
    ⟨[], none⟩).finish lib rules rows)

/-! ## Pingpong switches -/

/-- What `_classify_pingpong_switch` returns. -/
structure PingpongSwitch where
  (isApReturnEvent isPingpongAbnormal : Bool)
  (pingpongType pingpongGroupId : String)
  (pingpongReturnDurationMs middleApDwellMs : Int)
  (previousAp middleAp returnAp judgmentReason : String)

def fourDigits (number : Nat) : String :=
  let digits := Nat.toDigits 10 number
  String.ofList (List.replicate (4 - digits.length) '0' ++ digits)

def pingpongReturnWindowMs : Int :=
  match rules.pingpongReturnWindowMs with
  | some window => if window = 0 then preset else max window 1
  | none => preset
where
  /-- The window when none is configured. -/
  preset : Int :=
    max 8000 (3 * ((if rules.mainLinkSwitchTimeMs = 0 then 2500 else rules.mainLinkSwitchTimeMs) +
      (if rules.pingpongToleranceMs = 0 then 500 else rules.pingpongToleranceMs)))

def segmentApLabel (segment : ActiveSegment Number Figures) : String :=
  let name := String.ofList (Worker.strip segment.peerApName.toList)
  let label := textOr name (textOr (formatMacH3c segment.activePeerKey) "-")
  let station := String.ofList (Worker.strip segment.peerSite.toList)
  if station = "" then label else label ++ " / " ++ station

def segmentPhysicalApKey (segment : ActiveSegment Number Figures) : String :=
  textOr segment.physicalApKey
    (physicalApKey lib segment.peerApMac "" segment.peerRadioMac
      (textOr segment.activePeerKey segment.activePeerMac))

def segmentDurationSeconds (segment : ActiveSegment Number Figures) : Number :=
  if lib.less segment.durationSeconds (lib.ofInt 0) then lib.ofInt 0
  else segment.durationSeconds

/-- `_classify_pingpong_return`: the type, whether it is abnormal, and the reason. -/
def classifyPingpongReturn (previous middle returned : ActiveSegment Number Figures)
    (middleDwellMs : Int) : String × Bool × String :=
  let switchMs :=
    max (if rules.mainLinkSwitchTimeMs = 0 then 2500 else rules.mainLinkSwitchTimeMs) 1
  let toleranceMs := max rules.pingpongToleranceMs 0
  let sequence := segmentApLabel previous ++ " -> " ++ segmentApLabel middle ++ " -> " ++
    segmentApLabel returned
  let dwell := lib.twoDecimals middleDwellMs ++ "s"
  if middleDwellMs < max (switchMs - toleranceMs) 0 then
    ("AP乒乓切换异常", true, sequence ++ "，中间 AP 驻留 " ++ dwell ++ "，明显小于配置切换时间 " ++
      toString switchMs ++ "ms。")
  else if middleDwellMs ≤ switchMs + toleranceMs then
    ("临界回切", false, sequence ++ "，中间 AP 驻留 " ++ dwell ++ "，接近配置切换时间 " ++
      toString switchMs ++ "ms，不计入乒乓异常。")
  else
    ("普通回切事件", false, sequence ++ "，中间 AP 驻留 " ++ dwell ++ "，已超过配置切换时间 " ++
      toString switchMs ++ "ms，不计入乒乓异常。")

/-- `_classify_pingpong_switch`; `none` is the empty dictionary. -/
def classifyPingpongSwitch (segments : List (ActiveSegment Number Figures)) (index : Nat) :
    Option PingpongSwitch := do
  let previous ← segments[index]?
  let middle ← segments[index + 1]?
  let returned ← segments[index + 2]?
  let returnDuration ← secondsBetween lib previous.endTime returned.startTime
  guard !lib.less returnDuration (lib.ofInt 0)
  let returnDurationMs := lib.milliseconds returnDuration
  guard (returnDurationMs ≤ pingpongReturnWindowMs rules)
  let previousKey := segmentPhysicalApKey lib previous
  let middleKey := segmentPhysicalApKey lib middle
  let returnedKey := segmentPhysicalApKey lib returned
  guard (previousKey ≠ "" ∧ middleKey ≠ "" ∧ returnedKey ≠ "")
  let middleDwellMs := max (lib.milliseconds (segmentDurationSeconds lib middle)) 0
  let groupId := "PP" ++ fourDigits (index + 1)
  let classified : String × Bool × String → Bool → PingpongSwitch :=
    fun (kind, abnormal, reason) isReturn =>
      ⟨isReturn, abnormal, kind, groupId, returnDurationMs, middleDwellMs, segmentApLabel previous,
        segmentApLabel middle, segmentApLabel returned, reason⟩
  if previousKey = middleKey ∧ middleKey = returnedKey ∧
      previous.activePeerKey ≠ middle.activePeerKey then
    return classified ("同AP射频往返", false, "同一物理 AP 内 " ++ textOr previous.peerRadio "-" ++
      " -> " ++ textOr middle.peerRadio "-" ++ " -> " ++ textOr returned.peerRadio "-" ++
      "，不计入 AP 乒乓。") false
  guard (previousKey = returnedKey ∧ previousKey ≠ middleKey)
  return classified (classifyPingpongReturn lib rules previous middle returned middleDwellMs)
    true

/-! ## Switch events -/

/-- A row of `switch_events`; `none` stands for the empty text. -/
structure SwitchEvent (Number : Type) where
  radio : Int
  (switchTime fromPeer fromPeerApName toPeer toPeerApName : String)
  (previousSegmentDuration newSegmentDuration : Number)
  (fromLastRssi fromAvgRssiBeforeSwitch toFirstRssi toAvgRssiAfterSwitch : Option Number)
  bestBackupPeerBeforeSwitch : Option String
  (bestBackupRssiBeforeSwitch txBusyBeforeSwitch rxBusyBeforeSwitch
    txBusyAfterSwitch rxBusyAfterSwitch : Option (Option Number))
  (switchType severity diagnosis : String)
  pingpong : Option PingpongSwitch
  suggestion : String

/-- `_samples_between_indexed`. Without a time of the anchor it falls back to
`_samples_between`, which compares a radio with a scope and finds nothing. -/
def samplesBetweenIndexed (samples : List (MeshSample Number)) (scope : Scope) (anchor : String)
    (seconds : Int) (before : Bool) : List (MeshSample Number) :=
  match dtOrNone lib anchor with
  | none => []
  | some time =>
    let own := samples.filter fun sample => decide (sample.scope = scope)
    if before then rowsBetween lib MeshSample.sampleTime own (time - seconds * 1000000) time
    else rowsBetween lib MeshSample.sampleTime own time (time + seconds * 1000000)

def allLow (samples : List (MeshSample Number)) (threshold : Int) : Bool :=
  let values := finite (samples.map MeshSample.activeMrRssi)
  !values.isEmpty && values.all fun value => lib.less value (lib.ofInt threshold)

/-- In some sample the best backup is stronger than the active link. -/
def hasBetterBackup (samples : List (MeshSample Number)) : Bool :=
  samples.any fun sample =>
    match sample.activeMrRssi, sample.bestBackupRssi with
    | some active, some backup => lib.less active backup
    | _, _ => false

def switchSuggestion (switchType : String) : String :=
  if switchType = "LATE_SWITCH" then
    "建议复核切换前窗口内的备份链路、轨旁 AP 覆盖和车载 MR 射频状态。"
  else if switchType = "WEAK_TARGET_SWITCH" then
    "建议检查切入目标 AP 覆盖、天线方向、安装位置或车载 MR 射频状态。"
  else if switchType = "FLAP_SWITCH" then "建议复核切换边界和相邻 Peer 覆盖重叠区域。"
  else if switchType = "SHORT_SEGMENT_SWITCH" then "建议关注短时建链对应 Peer 的链路稳定性。"
  else ""

/-- The type, the severity and the diagnosis of a switch. -/
def judgeSwitch (current : ActiveSegment Number Figures) (pingpong : Option PingpongSwitch)
    (before after : List (MeshSample Number)) : String × String × String :=
  let good := lib.ofInt rules.rssiGoodThreshold
  let values := after.map MeshSample.activeMrRssi
  let weakAverage := ((avg lib values).map (lib.less · good)).getD false
  let weakLeast := lib.less ((minimum lib (finite values)).getD (lib.ofInt 999))
    (lib.ofInt rules.rssiWarningThreshold)
  if (pingpong.map (·.isPingpongAbnormal)).getD false then
    ("FLAP_SWITCH", "WARNING", textOr ((pingpong.map (·.judgmentReason)).getD "") "出现 AP 乒乓切换异常。")
  else if lib.less current.durationSeconds (lib.ofInt rules.shortActiveSegmentSeconds) then
    ("SHORT_SEGMENT_SWITCH", "WARNING", "新 Active 区段持续时间过短。")
  else if !before.isEmpty && (allLow lib before rules.rssiGoodThreshold &&
      hasBetterBackup lib before || allLow lib before rules.rssiWarningThreshold) then
    ("LATE_SWITCH", "BAD", "切换前主链路 RSSI 已偏低且未及时切换。")
  else if !after.isEmpty && (weakAverage || weakLeast) then
    ("WEAK_TARGET_SWITCH", "BAD", "切入后的新主链路 RSSI 偏低。")
  else ("NORMAL_SWITCH", "GOOD", "主链路切换未发现明显异常。")

/-- The event of a switch between two segments that follow each other. -/
def switchEvent (samples : List (MeshSample Number)) (scope : Scope)
    (ordered : List (ActiveSegment Number Figures)) (index : Nat)
    (previous current : ActiveSegment Number Figures) : SwitchEvent Number :=
  let before := samplesBetweenIndexed lib samples scope previous.endTime
    rules.switchLateWindowSeconds true
  let after := samplesBetweenIndexed lib samples scope current.startTime
    rules.switchTargetWindowSeconds false
  let pingpong := classifyPingpongSwitch lib rules ordered index
  let (switchType, severity, diagnosis) := judgeSwitch lib rules current pingpong before after
  { radio := scope.2
    switchTime := current.startTime, fromPeer := previous.activePeerMac
    fromPeerApName := previous.peerApName, toPeer := current.activePeerMac
    toPeerApName := current.peerApName, previousSegmentDuration := previous.durationSeconds
    newSegmentDuration := current.durationSeconds, fromLastRssi := previous.lastMrRssi
    fromAvgRssiBeforeSwitch := avg lib (before.map MeshSample.activeMrRssi)
    toFirstRssi := current.firstMrRssi
    toAvgRssiAfterSwitch := avg lib (after.map MeshSample.activeMrRssi)
    bestBackupPeerBeforeSwitch := before.getLast?.map MeshSample.bestBackupPeerMac
    bestBackupRssiBeforeSwitch := before.getLast?.map MeshSample.bestBackupRssi
    txBusyBeforeSwitch := before.getLast?.map MeshSample.activeTxBusy
    rxBusyBeforeSwitch := before.getLast?.map MeshSample.activeRxBusy
    txBusyAfterSwitch := after.head?.map MeshSample.activeTxBusy
    rxBusyAfterSwitch := after.head?.map MeshSample.activeRxBusy, switchType := switchType
    severity := severity, diagnosis := diagnosis, pingpong := pingpong
    suggestion := switchSuggestion switchType }

/-- The events of one scope, from its segments. -/
def scopeSwitchEvents (samples : List (MeshSample Number))
    (segments : List (ActiveSegment Number Figures)) (scope : Scope) : List (SwitchEvent Number) :=
  let ordered := sortBy (fun segment => segment.startTime) segments
  (ordered.zip ordered.tail).zipIdx.filterMap fun ((previous, current), index) =>
    if previous.activePeerKey = current.activePeerKey then none
    else some (switchEvent lib rules samples scope ordered index previous current)

/-- The events of `analyze_switch_events` with their scopes, which it visits in the
order of their first segments. -/
def scopedSwitchEvents (segments : List (ActiveSegment Number Figures))
    (samples : List (MeshSample Number)) : List (Numbered (Scope × SwitchEvent Number)) :=
  sortBy (fun event => event.row.2.switchTime)
    (numbered ((segments.map (·.scope)).eraseDups.flatMap fun scope =>
      (scopeSwitchEvents lib rules samples
        (segments.filter fun segment => decide (segment.scope = scope)) scope).map (scope, ·)))

/-- The switches between all segments. -/
def analyzeSwitchEvents (segments : List (ActiveSegment Number Figures))
    (samples : List (MeshSample Number)) : List (Numbered (SwitchEvent Number)) :=
  (scopedSwitchEvents lib rules segments samples).map fun event =>
    ⟨event.sequence, event.row.2⟩

end NetConsole.Mesh
