import NetConsole.Eligibility.LocationClass
import Mathlib.Data.List.Sort

/-!
# The classification of trains

`GroundUnattendedEligibilityClassifier.classify_all`: the rows of the AC and the base data are
grouped by train; of a train, the latest online row says where it is and whether it is on the
main line, and the first row of each end whether its radio is online.

Dictionaries that are only read are functions. What is shown of the identity of an AP
(`_identity_diagnostics`) is left out, as no decision reads it.
-/

set_option autoImplicit false

namespace NetConsole.Eligibility

open ApIdentity (stripText normalizeMacKey collapseSpace)
open Worker (Json Event PythonError)

/-! ## What is classified -/

/-- `AcMeshMrStatusDTO`, as far as the classification reads it. -/
structure AcMeshMrStatus where
  (mrId trainNo carEnd mrName mrDeviceId managementIp onlineStatus peerApId peerApName : String)
  peerApMac : String
  rssi : Option Int
  (station sectionName mileage lastSeenAt dataStatus : String)

/-- `VehicleMrDTO`, as far as the classification reads it; the position is none where it is
unknown. -/
structure VehicleMr where
  id : String
  deviceId : Option Int
  (name trainId trainNo : String)
  mrPositionCode : Option EndpointCode
  managementIp : String

/-- The arguments of `classify_all`. -/
structure ClassifierInput (DateTime : Type) where
  mainPathCode : String
  stations : List StationFact
  sections : List SectionFact
  aps : List TracksideAp
  mrs : List VehicleMr
  acRows : List AcMeshMrStatus
  trackers : List (String × StationaryTracker)
  stationaryExclusionMinutes : Int
  now : DateTime
  pingDepotTrainsEnabled : Bool

/-- `ap_identity_query_service.resolve_current_ap_macs`, where there is such a service: the
matches of a batch, or nothing when it fails in a way that is caught. -/
abbrev IdentityService :=
  Option (List String → Except PythonError (Option (String → Option ApIdentityMatch)))

variable {DateTime : Type} (lib : ClassifierLibrary DateTime)

/-! ## Keys -/

/-- `first or second`. -/
def orText (first second : String) : String := if first = "" then second else first

/-- The train, however it is written. -/
def trainKey (value : String) : String :=
  orText (lib.canonicalTrainId value) (lib.python.casefold (stripText value))

/-- `_mac_key`: the colons that `normalize_mac` puts in are taken out again. -/
def macKey (value : String) : String := (normalizeMacKey lib.python (.str value)).getD ""

/-- The place, however it is written. -/
def locationKey (value : String) : String :=
  lib.python.casefold (stripText
    (String.ofList (collapseSpace false (lib.nfkc value).toList)))

/-- The station, however it is written. -/
def stationKey (value : String) : String :=
  lib.python.casefold (lib.canonicalStationName value)

/-- `_unique_by_value(items, key).get(value)`. -/
def uniqueByValue {α : Type} (items : List α) (key : α → String) (value : String) : Option α :=
  if value = "" then none
  else
    match items.filter (key · = value) with
    | [item] => some item
    | _ => none

/-- `_unique_ap_registry_macs(items).get(value)`: the last AP that has the BSSID, unless
another has it. -/
def uniqueApRegistryMacs (aps : List TracksideAp) (value : String) : Option TracksideAp :=
  let pairs := (aps.flatMap fun ap => ap.radios.map fun bssid => (macKey lib bssid, ap)).filter
    fun (key, _) => key ≠ ""
  match (pairs.filter fun (key, _) => lib.python.casefold (stripText key) = value).map
    (·.2) with
  | [] => none
  | first :: rest =>
    if rest.all (·.id = first.id) then some (rest.getLast?.getD first) else none

/-! ## Octets -/

/-- An octet of `ipaddress.IPv4Address`. -/
def ipv4Octet (text : List Char) : Option Nat :=
  if text ≠ [] ∧ text.all Char.isDigit ∧ text.length ≤ 3 ∧
    (text.head? ≠ some '0' ∨ text = ['0']) then
    let value := text.foldl (fun value digit => 10 * value + (digit.toNat - 48)) 0
    if value ≤ 255 then some value else none
  else none

/-- The octets of a text that `ipaddress.ip_address` takes for an address of version 4. -/
def ipv4Octets (text : String) : Option (List Nat) :=
  let parts := text.toList.splitOn '.'
  if parts.length = 4 then parts.mapM ipv4Octet else none

/-- An address that is neither that of no host, nor of a group, nor of all hosts. -/
def isUnicastAddress (octets : List Nat) : Bool :=
  octets ≠ [0, 0, 0, 0] && !(octets.head?.any fun first => 224 ≤ first && first ≤ 239) &&
    octets ≠ [255, 255, 255, 255]

def validManagementIp (value : String) : Bool := (ipv4Octets (stripText value)).any isUnicastAddress

/-! ## Where a train is -/

/-- The access point that an identity match stands for. -/
def runtimeApFromIdentity (found : ApIdentityMatch) : Except PythonError TracksideAp := do
  let station := stripText found.station
  let sectionName := stripText found.sectionName
  let belongType := stripText (orText found.belongType "unknown")
  let baseMetadata : Event := [("belong_type", .str belongType), ("station_name", .str station),
    ("section_name", .str sectionName), ("location_desc", .str found.location)]
  let (locationClass, participates, source) ←
    if station = "" ∧
        lib.python.casefold belongType ∈ ["trackside", "station", "section", "yard"] then
      pure (.unknown, false, "AP_IDENTITY_LOCATION_INCOMPLETE")
    else do
      let (locationClass, participates, _) ← resolveTracksideApLocation lib baseMetadata
      pure (locationClass, participates, "AP_IDENTITY")
  return {
    id := orText found.matchedEntityId found.effectiveApMac
    name := orText found.effectiveApName found.effectiveApMac, mac := found.effectiveApMac
    station := station, sectionName := sectionName, mileage := stripText found.mileage
    locationClass := locationClass, participatesInMainline := participates
    locationClassSource := source, radios := [], baseMetadata := baseMetadata
    recordKind := "ap_identity_runtime" }

/-- The dictionaries that `_resolve_location` looks into. -/
structure LocationTables where
  stationByName : String → Option StationFact
  stationByAlias : String → Option StationFact
  sectionByName : String → Option SectionFact
  apById : String → Option TracksideAp
  apByMac : String → Option TracksideAp
  apByRegistryMac : String → Option TracksideAp

/-- The tables in which places are looked up. -/
def locationTables (input : ClassifierInput DateTime) : LocationTables where
  stationByName := uniqueByValue input.stations fun item => stationKey lib item.name
  stationByAlias := uniqueByValue input.stations fun item =>
    stationKey lib item.sourceStationValue
  sectionByName := uniqueByValue input.sections fun item => locationKey lib item.name
  apById value := if value = "" then none else (input.aps.filter (·.id = value)).getLast?
  apByMac := uniqueByValue input.aps fun item => macKey lib item.mac
  apByRegistryMac := uniqueApRegistryMacs lib input.aps

/-- The access point of a row, and how it was found. -/
def matchAp (tables : LocationTables) (row : AcMeshMrStatus) :
    Option (TracksideAp × MatchLevel × String) :=
  let mac := macKey lib row.peerApMac
  let exact := if mac = "" then none else tables.apByMac mac
  let registry := if mac = "" then none else tables.apByRegistryMac mac
  (exact.map fun ap => (ap, .apExact, "通过 AP MAC 精确匹配")) <|>
    (registry.map fun ap => (ap, .apRegistry, "通过基础资料中的 Radio/BSSID 映射到 AP")) <|>
    ((tables.apById row.peerApId).map fun ap => (ap, .apExact, "通过 AP ID 精确匹配"))

/-- The station that the row names, and how. -/
def rowStation (tables : LocationTables) (row : AcMeshMrStatus) :
    Option (StationFact × MatchLevel × String) :=
  let key := stationKey lib row.station
  let byName := if key = "" then none else tables.stationByName key
  let byAlias := if key = "" then none else tables.stationByAlias key
  (byName.map fun station =>
      (station, .stationExact, s!"AC 站点“{row.station}”规范化后精确匹配基础资料")) <|>
    (byAlias.map fun station =>
      (station, .stationAlias, s!"AC 站点“{row.station}”通过已保存来源别名匹配基础资料"))

/-- A station by its name, or by what its source calls it. -/
def namedStation (tables : LocationTables) (key : String) : Option StationFact :=
  tables.stationByName key <|> tables.stationByAlias key

/-- Where the row says that the train is. -/
def resolveLocation (tables : LocationTables) (row : Option AcMeshMrStatus)
    (identityMatch : Option ApIdentityMatch) : Except PythonError LocationResolution :=
  match row with
  | none => .ok { matchReason := "暂无 AC 位置数据" }
  | some row => do
    let named := rowStation lib tables row
    let matched := matchAp lib tables row
    let identified := (identityMatch.filter (·.status = "matched")).filter fun _ => matched.isNone
    let found ← match identified with
      | none => pure matched
      | some identity => do
        let ap ← runtimeApFromIdentity lib identity
        pure (some (ap, .apExact, "通过 AP Identity 精确解析 Current AP"))
    let identityStationKey :=
      (identified.map fun identity => stationKey lib identity.station).getD ""
    let identitySectionKey :=
      (identified.map fun identity => locationKey lib identity.sectionName).getD ""
    let station :=
      if identityStationKey = "" then named.map (·.1) else namedStation tables identityStationKey
    let sectionFact :=
      if identitySectionKey ≠ "" then tables.sectionByName identitySectionKey
      else if row.sectionName = "" then none
      else tables.sectionByName (locationKey lib row.sectionName)
    let ap := found.map (·.1)
    let station := station <|> ap.bind fun ap =>
      if ap.station = "" then none else namedStation tables (stationKey lib ap.station)
    let sectionFact := sectionFact <|> ap.bind fun ap =>
      if ap.sectionName = "" then none else tables.sectionByName
        (locationKey lib ap.sectionName)
    let (level, reason) := match found, named with
      | some (_, level, reason), _ => (level, reason)
      | none, some (_, level, reason) => (level, reason)
      | none, none =>
        if sectionFact.isSome then (.stationExact, s!"AC 区间“{row.sectionName}”精确匹配基础资料")
        else (.unmatched, "当前 AP 和站点均无法与基础资料匹配")
    let identityStation := (identityMatch.map (·.station)).getD ""
    return {
      ap := ap, station := station, sectionFact := sectionFact, matchLevel := level
      matchReason := reason
      canonicalStationName := lib.canonicalStationName
        ((station.map (·.name)).getD (orText identityStation row.station))
      identityMatch := identityMatch }

/-! ## How long it has been there -/

/-- `_stationary_tracker`; the difference of an aware and a naive time is a `TypeError`. -/
def stationaryTracker (previous : StationaryTracker) (ap : Option TracksideAp)
    (row : Option AcMeshMrStatus) (now : DateTime) : Except PythonError (StationaryTracker × Int) :=
  let rowMac := (row.map fun row => macKey lib row.peerApMac).getD ""
  let identity := match ap with
    | some ap => s!"id:{ap.id}"
    | none => if rowMac = "" then "" else s!"mac:{rowMac}"
  let renewed := (⟨identity, lib.isoformatMilliseconds now⟩, 0)
  if identity = "" then .ok (⟨"", ""⟩, 0)
  else if previous.apIdentity ≠ identity ∨ previous.since = "" then .ok renewed
  else
    match lib.fromIsoformat previous.since with
    | none => .ok renewed
    | some since =>
      let since :=
        if !lib.isAware since && lib.isAware now then lib.withZoneOf since
          now else since
      if lib.isAware since ≠ lib.isAware now then .error .typeError
      else .ok (previous, max 0 (lib.elapsedSeconds now since))

/-! ## What it may do -/

/-- What is decided of a train. -/
structure EligibilityDecision where
  status : EligibilityStatus
  reason : String
  locationClass : LocationClass
  mainlineEligible : Bool := false
  pingEligible : Bool := false
  deepCollectionEligible : Bool := false
  pingInclusionReason : String := ""
  pingExclusionReason : String := ""
  deepExclusionReason : String := ""

/-- `DEPOT_PING_LOCATION_CLASSES`, with the status of each. -/
def depotPingStatus : TracksideApLocationClass → Option EligibilityStatus
  | .depot => some .depot
  | .parkingYard => some .parkingLot
  | .stabling => some .storageTrack
  | _ => none

/-- A train that may do nothing. -/
def EligibilityDecision.excluded (status : EligibilityStatus) (reason : String)
    (locationClass : LocationClass) (pingReason deepReason : String) : EligibilityDecision where
  status := status
  reason := reason
  locationClass := locationClass
  pingExclusionReason := pingReason
  deepExclusionReason := deepReason

/-- The part of `_eligibility` about a train that is online at a known AP. -/
def placedEligibility (resolved : ResolvedClass) (sameApSeconds stationarySeconds : Int)
    (pingDepotTrainsEnabled : Bool) : EligibilityDecision :=
  match depotPingStatus resolved.locationClass with
  | some status =>
    if pingDepotTrainsEnabled then
      { status := status, reason := s!"{resolved.reason}；已启用车辆段长 Ping"
        locationClass := resolved.locationClass.ground, pingEligible := true
        pingInclusionReason := "已启用车辆段长 Ping", deepExclusionReason := "场段列车不参与深度采集" }
    else
      .excluded status resolved.reason resolved.locationClass.ground "未启用车辆段长 Ping" "场段列车不参与深度采集"
  | none =>
    if resolved.locationClass = .unknown then
      .excluded .locationUndetermined resolved.reason resolved.locationClass.ground
        "无法确认当前位置是否属于正线" "无法确认当前位置是否属于正线"
    else if resolved.locationClass ≠ .mainline ∨ !resolved.participates then
      .excluded
        (if resolved.locationClass = .depotConnection then .depotConnection else .nonMainPath)
        resolved.reason resolved.locationClass.ground "当前位置不参与正线长 Ping"
        "当前位置不参与深度采集"
    else if stationarySeconds ≤ sameApSeconds then
      { status := .mainlineStationary
        reason := "同一正线 AP 连续停留 " ++ toString (sameApSeconds / 60) ++ " 分钟，长 Ping 继续、暂停新的深度采集"
        locationClass := .mainline, mainlineEligible := true, pingEligible := true
        pingInclusionReason := "正线在线", deepExclusionReason := "同一正线 AP 停留超过阈值" }
    else
      { status := .mainline, reason := "正线在线", locationClass := .mainline, mainlineEligible := true
        pingEligible := true, deepCollectionEligible := true, pingInclusionReason := "正线在线" }

/-- What is decided of a train. -/
def eligibility (resolved : ResolvedClass) (location : LocationResolution)
    (row : Option AcMeshMrStatus) (sameApSeconds stationarySeconds : Int)
    (pingDepotTrainsEnabled : Bool) : EligibilityDecision :=
  let unknown := EligibilityDecision.excluded .acUnknown "暂无有效 AC 在线状态"
    resolved.locationClass.ground "暂无有效 AC 在线状态" "暂无有效 AC 在线状态"
  match row with
  | none => unknown
  | some row =>
    if row.dataStatus ∈ ["no_data", "error"] then unknown
    else if row.dataStatus ≠ "fresh" ∨ row.onlineStatus = "stale" then
      .excluded .acStale "AC 在线状态已过期，暂停新的任务调度" resolved.locationClass.ground
        "AC 在线状态已过期" "AC 在线状态已过期"
    else if row.onlineStatus ≠ "online" then
      .excluded .offline "车辆当前未在线"
        (if location.ap.isSome then resolved.locationClass.ground else .offline)
        "车辆当前未在线" "车辆当前未在线"
    else if location.ap.isNone then
      .excluded .apUnmatched "当前 AP MAC 未匹配任何轨旁 AP 基础资料" .unknown "AP 未匹配" "AP 未匹配"
    else placedEligibility resolved sameApSeconds stationarySeconds pingDepotTrainsEnabled

/-! ## The ends of a train -/

/-- What the AC calls an end. -/
def carEnds : EndpointCode → List String
  | .ct => ["CT"]
  | .cw => ["CW", "TC"]

/-- The row is of the radio at an end. -/
def isAtEnd (endpoint : EndpointCode) (row : AcMeshMrStatus) : Bool :=
  lib.python.upper (stripText row.carEnd) ∈ carEnds endpoint

/-- The row of one end of a train. -/
def endpointRow (rows : List AcMeshMrStatus) (endpoint : EndpointCode) : Option AcMeshMrStatus :=
  rows.find? (isAtEnd lib endpoint)

def shownStatus (row : AcMeshMrStatus) : String :=
  lib.python.upper (orText row.onlineStatus "unknown")

/-- `base.management_ip if base else ac.management_ip if ac else ""`. -/
def endpointAddress (base : Option VehicleMr) (ac : Option AcMeshMrStatus) : String :=
  ((base.map (·.managementIp)) <|> (ac.map (·.managementIp))).getD ""

/-- One round of `_endpoints`. -/
def endpointOf (baseMrs : List VehicleMr) (rows : List AcMeshMrStatus) (endpoint : EndpointCode) :
    GroundEndpoint :=
  let base := baseMrs.find? fun item => item.mrPositionCode = some endpoint
  let ac := endpointRow lib rows endpoint
  let managementIp := endpointAddress base ac
  let onlineStatus := (ac.map (shownStatus lib)).getD "UNKNOWN"
  let addressValid := validManagementIp managementIp
  { endpoint := endpoint
    mrId := ((base.map (·.id)) <|> (ac.map fun ac => orText ac.mrDeviceId ac.mrId)).getD ""
    mrName := ((base.map (·.name)) <|> (ac.map (·.mrName))).getD ""
    deviceId := base.bind (·.deviceId), managementIp := managementIp, onlineStatus := onlineStatus
    pingTargetEligible := onlineStatus = "ONLINE" && addressValid
    pingExclusionReason :=
      if onlineStatus ≠ "ONLINE" then s!"{endpoint.text} 当前不在线"
      else if managementIp = "" then s!"{endpoint.text} 未配置管理 IP"
      else if !addressValid then s!"{endpoint.text} 管理 IP 无效"
      else "" }

/-- Both ends of a train. -/
def endpoints (baseMrs : List VehicleMr) (rows : List AcMeshMrStatus) : List GroundEndpoint :=
  [EndpointCode.ct, .cw].map (endpointOf lib baseMrs rows)

/-- The decision after a look at the ends: a train without an end that is online is offline, and
one without an address to ping is not pinged. -/
def decisionForEndpoints (decision : EligibilityDecision) (endpoints : List GroundEndpoint) :
    EligibilityDecision :=
  if decision.status ∉ [.acUnknown, .acStale, .offline] ∧
      !endpoints.any (·.onlineStatus = "ONLINE") then
    .excluded .offline "当前没有在线 MR"
      (if decision.locationClass ≠ .unknown then decision.locationClass else .offline)
      "当前没有在线 MR" "当前没有在线 MR"
  else if !endpoints.any (·.pingTargetEligible) ∧ decision.pingEligible then
    let addressReason := ((endpoints.find? fun item =>
      item.onlineStatus = "ONLINE" && item.pingExclusionReason ≠ "").map
        (·.pingExclusionReason)).getD "当前没有可用的在线 MR 管理地址"
    { status := decision.status, reason := addressReason, locationClass := decision.locationClass
      mainlineEligible := decision.mainlineEligible, pingExclusionReason := addressReason
      deepExclusionReason := addressReason }
  else decision

/-! ## Codes of the reasons -/

def EligibilityStatus.text : EligibilityStatus → String
  | mainline => "MAINLINE"
  | mainlineStationary => "MAINLINE_STATIONARY"
  | depot => "DEPOT"
  | parkingLot => "PARKING_LOT"
  | storageTrack => "STORAGE_TRACK"
  | nonMainPath => "NON_MAIN_PATH"
  | depotConnection => "DEPOT_CONNECTION"
  | acStale => "AC_STALE"
  | acUnknown => "AC_UNKNOWN"
  | locationUndetermined => "LOCATION_UNDETERMINED"
  | apUnmatched => "AP_UNMATCHED"
  | offline => "OFFLINE"

/-- What `_decision_reason_contract` returns. -/
structure ReasonContract where
  (mainlineCode mainlineText pingCode pingText deepCode deepText : String)

/-- The code of a train that is not pinged. -/
def pingExclusionCode : EligibilityStatus → String
  | .offline => "TRAIN_OFFLINE"
  | .depot | .parkingLot | .storageTrack => "DEPOT_PING_DISABLED"
  | status => status.text

/-- The codes that explain a decision. -/
def decisionReasonContract (decision : EligibilityDecision) (resolved : ResolvedClass) :
    ReasonContract :=
  let mainlineCode :=
    if !decision.mainlineEligible then decision.status.text
    else if resolved.source = "DEFAULT_MAINLINE" then "MAINLINE_DEFAULT_CLASSIFICATION"
    else "MAINLINE_AP_MATCHED"
  let mainlineText :=
    if decision.mainlineEligible then orText resolved.reason "正线 AP 已匹配"
    else orText resolved.reason (orText decision.reason "未评估")
  { mainlineCode := mainlineCode
    mainlineText := mainlineText
    pingCode :=
      if decision.pingEligible then
        if decision.locationClass ∈ [.depot, .parkingYard, .stabling] then "DEPOT_PING_ENABLED"
        else mainlineCode
      else if mentions decision.pingExclusionReason "管理 IP" then "NO_MANAGEMENT_IP"
      else pingExclusionCode decision.status
    pingText :=
      if decision.pingEligible then orText decision.pingInclusionReason mainlineText
      else orText decision.pingExclusionReason (orText decision.reason "未评估")
    deepCode :=
      if decision.deepCollectionEligible then "ELIGIBLE"
      else if decision.status = .mainlineStationary then "LONG_STAY"
      else decision.status.text
    deepText :=
      if decision.deepCollectionEligible then "正线在线，符合深度采集资格"
      else orText decision.deepExclusionReason (orText decision.reason "未评估") }

/-! ## `classify_all` -/

/-- The rows of the base data and of the AC that are of a train. -/
def trainMrs (input : ClassifierInput DateTime) (key : String) : List VehicleMr :=
  input.mrs.filter fun mr => trainKey lib (orText mr.trainId mr.trainNo) = key

/-- The rows of a train. -/
def trainRows (input : ClassifierInput DateTime) (key : String) : List AcMeshMrStatus :=
  input.acRows.filter fun row => trainKey lib row.trainNo = key

/-- `sorted(set(mr_groups) | set(ac_groups))`. -/
def trainKeys (input : ClassifierInput DateTime) : List String :=
  let keys := (input.mrs.map fun mr => trainKey lib (orText mr.trainId mr.trainNo)) ++
    input.acRows.map fun row => trainKey lib row.trainNo
  ((keys.filter (· ≠ "")).eraseDups).mergeSort fun one two => decide (one ≤ two)

/-- `_representative_row`: of the online rows, or else of all, the first that was seen last. -/
def representativeRow (rows : List AcMeshMrStatus) : Option AcMeshMrStatus :=
  let online := rows.filter (·.onlineStatus = "online")
  match if online = [] then rows else online with
  | [] => none
  | row :: rest =>
    some (rest.foldl (fun latest row =>
      if latest.lastSeenAt < row.lastSeenAt then row else latest) row)

/-- `identity_matches.get`. -/
def identityMatches (service : IdentityService) (input : ClassifierInput DateTime) :
    Except PythonError (String → Option ApIdentityMatch) :=
  let rawMacs := input.acRows.map (·.peerApMac)
  match service with
  | none => .ok fun _ => none
  | some resolveCurrentApMacs =>
    if rawMacs = [] then .ok fun _ => none
    else do
      let batch ← resolveCurrentApMacs rawMacs
      return fun key =>
        if key ≠ "" ∧ key ∈ rawMacs.map (macKey lib) then batch.bind (· key) else none

/-- What is known of the place of a train: its representative row, where that is, since when,
and the class of the place. -/
structure TrainPlace where
  row : Option AcMeshMrStatus
  location : LocationResolution
  resolved : ResolvedClass
  tracker : StationaryTracker
  sameApSeconds : Int

def trainId (input : ClassifierInput DateTime) (key : String) : String :=
  match trainMrs lib input key with
  | mr :: _ => mr.trainId
  | [] => s!"mesh:{key}"

/-- Where a train is, and for how long. -/
def trainPlace (input : ClassifierInput DateTime) (identity : String → Option ApIdentityMatch)
    (key : String) : Except PythonError TrainPlace := do
  let row := representativeRow (trainRows lib input key)
  let location ← resolveLocation lib (locationTables lib input) row
    (row.bind fun row => identity (macKey lib row.peerApMac))
  let previous := (input.trackers.lookup (trainId lib input key)).getD ⟨"", ""⟩
  let (tracker, sameApSeconds) ← stationaryTracker lib previous location.ap row input.now
  let resolved ← resolvedLocationClass lib input.mainPathCode location
  return ⟨row, location, resolved, tracker, sameApSeconds⟩

/-- `max(60, int(stationary_exclusion_minutes) * 60)`. -/
def stationarySeconds (input : ClassifierInput DateTime) : Int :=
  max 60 (input.stationaryExclusionMinutes * 60)

/-- What the base data say of a place, or else the AC, or else the identity of the AP. -/
def shownPlace (byBase byRow byIdentity : Option String) : String :=
  match byBase with
  | some text => text
  | none => ((byRow.filter (· ≠ "")) <|> byIdentity).getD ""

/-- A round of the loop of `classify_all`. -/
def classifiedTrain (input : ClassifierInput DateTime) (key : String) (place : TrainPlace) :
    GroundTrain :=
  let baseMrs := trainMrs lib input key
  let rows := trainRows lib input key
  let endpoints := endpoints lib baseMrs rows
  let decision := decisionForEndpoints (eligibility place.resolved place.location place.row
    place.sameApSeconds (stationarySeconds input) input.pingDepotTrainsEnabled) endpoints
  let contract := decisionReasonContract decision place.resolved
  let identity := place.location.identityMatch
  { trainId := trainId lib input key
    trainNo := ((baseMrs.head?.map (·.trainNo)) <|> (rows.head?.map (·.trainNo))).getD ""
    trainName := trainId lib input key, locationClass := decision.locationClass
    locationClassSource := place.resolved.source
    participatesInMainline := place.resolved.participates && decision.locationClass = .mainline
    mainlineEligible := decision.mainlineEligible, mainlineReasonCode := contract.mainlineCode
    mainlineReasonText := contract.mainlineText, pingEligible := decision.pingEligible
    pingReasonCode := contract.pingCode, pingReasonText := contract.pingText
    deepCollectionEligible := decision.deepCollectionEligible
    deepCollectionReasonCode := contract.deepCode, deepCollectionReasonText := contract.deepText
    decisionRevision := 2, decisionSource := "RUNTIME_AP_IDENTITY"
    pingInclusionReason := decision.pingInclusionReason
    pingExclusionReason := decision.pingExclusionReason
    deepExclusionReason := decision.deepExclusionReason, eligibilityStatus := decision.status
    exclusionReason := decision.reason, locationMatchLevel := place.location.matchLevel
    locationMatchReason := place.location.matchReason
    resolvedApId := (place.location.ap.map (·.id)).getD ""
    resolvedApName := (place.location.ap.map (·.name)).getD ""
    rawPeerApName := (place.row.map (·.peerApName)).getD ""
    rawPeerApMac := (place.row.map (·.peerApMac)).getD ""
    canonicalStationName := place.location.canonicalStationName
    currentApName := (place.row.map (·.peerApName)).getD ""
    currentApMac := (place.row.map (·.peerApMac)).getD ""
    station := shownPlace (place.location.station.map (·.name)) (place.row.map (·.station))
      (identity.map (·.station))
    sectionName := shownPlace (place.location.sectionFact.map (·.name))
      (place.row.map (·.sectionName)) (identity.map (·.sectionName))
    mileage := shownPlace (place.location.ap.map (·.mileage)) (place.row.map (·.mileage))
      (identity.map (·.mileage))
    rssi := place.row.bind (·.rssi), sameApDurationSeconds := place.sameApSeconds
    acReceivedAt := (place.row.map (·.lastSeenAt)).getD "", endpoints := endpoints
    updatedAt := lib.isoformatMilliseconds input.now }

/-- One train is classified. -/
def classifyTrain (input : ClassifierInput DateTime) (identity : String → Option ApIdentityMatch)
    (key : String) : Except PythonError ClassificationResult := do
  let place ← trainPlace lib input identity key
  return ⟨classifiedTrain lib input key place, place.tracker⟩

/-- `classify_all`. -/
def classifyAll (service : IdentityService) (input : ClassifierInput DateTime) :
    Except PythonError (List ClassificationResult) := do
  let identity ← identityMatches lib service input
  (trainKeys lib input).mapM (classifyTrain lib input identity)

end NetConsole.Eligibility
