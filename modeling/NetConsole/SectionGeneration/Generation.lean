import NetConsole.Worker.Protocol

/-!
# Generating the sections of a line

`SectionGenerationService._generate` computes the sections of a line from the stations of
a draft: two for each pair of stations that are neighbours on a path, one in each
direction, and two beyond a terminal station of the main path.

Mileages are the finite floating point numbers: a linear order, whose arithmetic and whose
text formats are parameters, like SHA-1 and the case folding of the Python library.
-/

set_option autoImplicit false

namespace NetConsole.SectionGeneration

/-! ## Stations and sections -/

/-- The types of stations. -/
inductive StationNodeType
  | station | parkingLot | depot | connectionPoint | other | unknown
  deriving DecidableEq

/-- The fields of `StationDTO` that the generation reads. -/
structure Station (M : Type) where
  (id nodeUid name : String)
  sortOrder : Option Int
  nodeType : StationNodeType
  pathCode : String
  participatesInDirection : Bool
  centerMileage : Option M
  (isLineTerminal terminalExtensionEnabled : Bool)
  terminalEndpointLabel : String
  terminalExtensionDistance : Option M
  terminalEndpointMileageText : String
  enabled : Bool
  deriving DecidableEq

/-- The kinds of sections. -/
inductive SectionKind
  | betweenStations | terminalExtension | depotConnection | manual | legacy
  deriving DecidableEq

/-- The direction of a path. -/
inductive DirectionRole
  | increasing | decreasing | none | unknown
  deriving DecidableEq

/-- The types of the ends of a section. -/
inductive SectionNodeType
  | station | terminalEndpoint | legacy | unknown
  deriving DecidableEq

/-- Where a mileage range comes from. -/
inductive MileageSource
  | generated | manual | unavailable
  deriving DecidableEq

/-- Where a section comes from. -/
inductive SectionSourceKind
  | generated | manual | template | legacyApDerived
  deriving DecidableEq

/-- `SectionDTO`. -/
structure LineSection (M : Type) where
  (id name sectionCode : String)
  sectionKind : SectionKind
  pathCode : String
  directionRole : DirectionRole
  lineDirection : String
  startNodeType : SectionNodeType
  (startNodeUid startStation : String)
  endNodeType : SectionNodeType
  (endNodeUid endStation lineSide : String)
  autoGenerated : Bool
  generationKey : String
  manualOverrideFields : List String
  (sectionMileageStart sectionMileageEnd : Option M)
  sectionMileageOpenEnd : Bool
  sectionMileageSource : MileageSource
  enabled : Bool
  sourceKind : SectionSourceKind
  apCount : Int
  (mileageMin mileageMax : Option M)
  remark : String
  deriving DecidableEq

/-- The severity of a finding. -/
inductive Severity
  | error | warning | info
  deriving DecidableEq

/-- `StationSourceIssueDTO`. -/
structure Issue where
  severity : Severity
  (code message fieldName : String)
  blocking : Bool := false
  entityId : String := ""
  deriving DecidableEq

/-- `SectionGenerationLineMetadataDTO`. -/
structure LineMetadata where
  (mainPathCode increasingDirectionName decreasingDirectionName
    increasingDirectionLineSide : String)
  decreasingDirectionLineSide : String

/-- What the generation uses of the Python library and of binary floating point. -/
structure Library (M : Type) where
  zero : M
  add : M → M → M
  sub : M → M → M
  /-- The meters of `parse_track_mileage`, where it reports no error. -/
  parseTrackMileage : String → Option M
  formatMileage : M → String
  casefold : String → String
  /-- `hashlib.sha1(text.encode("utf-8")).hexdigest()`. -/
  sha1 : String → String

def strip (text : String) : String := String.ofList (Worker.strip text.toList)

/-- The values that occur more than once. -/
def repeated {α : Type} [BEq α] (values : List α) : List α :=
  (values.filter fun value => 1 < values.count value).eraseDups

variable {M : Type} [LinearOrder M] (lib : Library M)

/-! ## Mileage ranges -/

/-- A mileage range with its source, and the issue of a terminal range. -/
structure MileageRange (M : Type) where
  (start stop : Option M)
  openEnd : Bool
  source : MileageSource
  issue : Option Issue

/-- The range between two mileages. -/
def closedMileageRange (first second : Option M) : Option M × Option M × MileageSource :=
  match first, second with
  | some first, some second =>
    if first < lib.zero ∨ second < lib.zero ∨ first = second then
      (none, none, .unavailable)
    else (some (min first second), some (max first second), .generated)
  | _, _ => (none, none, .unavailable)

/-- The endpoint of a terminal range: the mileage in the text, the distance from the
station, or 0 at the low end. The high end stays open without both. -/
def endpointMileage (station : Station M) (center : M) (low : Bool) : Option (Option M) :=
  if strip station.terminalEndpointMileageText ≠ "" then
    some (lib.parseTrackMileage (strip station.terminalEndpointMileageText))
  else
    match station.terminalExtensionDistance with
    | some distance =>
      some (some (if low then lib.sub center distance else lib.add center distance))
    | none => if low then some (some lib.zero) else none

/-- The range beyond a terminal station. -/
def terminalMileageRange (pathCode : String) (station : Station M) (low : Bool) : MileageRange M :=
  match station.centerMileage with
  | none =>
    ⟨none, none, false, .unavailable, some {
      severity := .warning, code := "section_generation_mileage_unavailable"
      message := s!"{station.name} 缺少站台中心里程，无法生成端点区间里程范围", fieldName := "center_mileage_m"
      entityId := station.id }⟩
  | some center =>
    match endpointMileage lib station center low with
    | none => ⟨some center, none, true, .generated, none⟩
    | some none =>
      ⟨none, none, false, .unavailable, some {
        severity := .warning, code := "section_generation_terminal_mileage_invalid"
        message := s!"{station.name} 的端点里程无法解析，无法生成端点区间里程范围"
        fieldName := "terminal_endpoint_mileage_text", entityId := station.id }⟩
    | some (some endpoint) =>
      match closedMileageRange lib (some center) (some endpoint) with
      | (start, stop, .generated) => ⟨start, stop, false, .generated, none⟩
      | _ =>
        let reason := if endpoint < lib.zero then "计算结果小于 0" else "端点里程与站台中心里程相同"
        ⟨none, none, false, .unavailable, some {
          severity := .warning, code := "section_generation_mileage_unavailable"
          message := s!"{pathCode} 路径 {station.name} 的{reason}，无法生成端点区间里程范围"
          fieldName := "terminal_endpoint_mileage_text", entityId := station.id }⟩

/-! ## Sections -/

/-- A node that a section starts or ends at. -/
structure SectionNode where
  nodeType : SectionNodeType
  (uid label : String)
  deriving DecidableEq

def Station.node (station : Station M) : SectionNode := ⟨.station, station.nodeUid, station.name⟩

/-- `_section`. -/
def newSection (name : String) (kind : SectionKind) (pathCode : String) (role : DirectionRole)
    (lineDirection lineSide : String) (start stop : SectionNode) (generationKey : String)
    (range : MileageRange M) : LineSection M where
  id := "new:auto:" ++ String.ofList ((lib.sha1 generationKey).toList.take 16)
  name := name
  sectionCode := "AUTO-" ++ (String.ofList ((lib.sha1 generationKey).toList.take 12)).toUpper
  sectionKind := kind
  pathCode := pathCode
  directionRole := role
  lineDirection := lineDirection
  startNodeType := start.nodeType
  startNodeUid := start.uid
  startStation := start.label
  endNodeType := stop.nodeType
  endNodeUid := stop.uid
  endStation := stop.label
  lineSide := lineSide
  autoGenerated := true
  generationKey := generationKey
  manualOverrideFields := []
  sectionMileageStart := range.start
  sectionMileageEnd := range.stop
  sectionMileageOpenEnd := range.openEnd
  sectionMileageSource := range.source
  enabled := true
  sourceKind := .generated
  apCount := 0
  mileageMin := none
  mileageMax := none
  remark := ""

variable (metadata : LineMetadata)

/-- The sections between two neighbours. -/
def betweenSections (pathCode : String) (lower higher : Station M) :
    List (LineSection M) × List Issue :=
  let physicalName := s!"{lower.name}-{higher.name}"
  let (start, stop, source) := closedMileageRange lib lower.centerMileage higher.centerMileage
  let range : MileageRange M := ⟨start, stop, false, source, none⟩
  let issues : List Issue :=
    if source = .unavailable then
      [{ severity := .warning
         code := "section_generation_mileage_unavailable"
         message :=
          if lower.centerMileage.isNone || higher.centerMileage.isNone then
            let missingNames := String.intercalate "、"
              (([lower, higher].filter fun station => station.centerMileage.isNone).map
                Station.name)
            s!"{physicalName} 缺少站台中心里程（{missingNames}），无法生成区间里程范围"
          else s!"{physicalName} 的站台中心里程相同，无法生成零长度区间里程范围"
         fieldName := "center_mileage_m" }]
    else if lower.centerMileage.any fun low => higher.centerMileage.any fun high => high < low then
      [{ severity := .warning
         code := "section_generation_station_mileage_reversed"
         message :=
          s!"{physicalName} 的站点顺序与站台中心里程方向相反，已按物理里程从小到大生成范围"
         fieldName := "center_mileage_m" }]
    else []
  ([newSection lib s!"{physicalName}-{metadata.increasingDirectionName}"
    .betweenStations pathCode
      .increasing metadata.increasingDirectionName metadata.increasingDirectionLineSide lower.node
      higher.node s!"{pathCode}|between|{lower.nodeUid}|{higher.nodeUid}|increasing" range,
    newSection lib s!"{physicalName}-{metadata.decreasingDirectionName}"
      .betweenStations pathCode
      .decreasing metadata.decreasingDirectionName metadata.decreasingDirectionLineSide higher.node
      lower.node s!"{pathCode}|between|{lower.nodeUid}|{higher.nodeUid}|decreasing" range],
    issues)

/-- The sections beyond a terminal station at the low or the high end. -/
def terminalExtension (pathCode : String) (station : Station M) (low : Bool) :
    List (LineSection M) × List Issue :=
  let range := terminalMileageRange lib pathCode station low
  let side := if low then "low" else "high"
  let endpointUid := s!"endpoint:{pathCode}:{side}"
  let stripped := strip station.terminalEndpointLabel
  let endpointLabel := if stripped = "" then "端点" else stripped
  let endpoint : SectionNode := ⟨.terminalEndpoint, endpointUid, endpointLabel⟩
  let (start, stop) := if low then (endpoint, station.node) else (station.node, endpoint)
  let physicalName := s!"{start.label}-{stop.label}"
  ([newSection lib s!"{physicalName}-{metadata.increasingDirectionName}"
    .terminalExtension pathCode
      .increasing metadata.increasingDirectionName metadata.increasingDirectionLineSide start stop
      s!"{pathCode}|terminal|{endpointUid}|{station.nodeUid}|increasing" range,
    newSection lib s!"{physicalName}-{metadata.decreasingDirectionName}"
      .terminalExtension pathCode
      .decreasing metadata.decreasingDirectionName metadata.decreasingDirectionLineSide start stop
      s!"{pathCode}|terminal|{endpointUid}|{station.nodeUid}|decreasing" range],
    range.issue.toList)

/-- The error of a path whose terminal stations do not tell its two ends apart. -/
def endpointAmbiguous (message : String) : Issue where
  severity := .error
  code := "section_generation_endpoint_ambiguous"
  message := message
  fieldName := "is_line_terminal"
  blocking := true

/-- The sections beyond the terminal stations. -/
def terminalSections (pathCode : String) (ordered : List (Station M)) :
    List (LineSection M) × List Issue :=
  match ordered.head?, ordered.getLast? with
  | some lowStation, some highStation =>
    let configured := ordered.filter fun station =>
      station.isLineTerminal && station.terminalExtensionEnabled
    if 2 < configured.length then
      ([], [endpointAmbiguous s!"{pathCode} 路径配置了超过两个端点延伸站，无法区分低序端和高序端"])
    else if lowStation.nodeUid = highStation.nodeUid ∧ configured ≠ [] then
      ([], [endpointAmbiguous s!"{pathCode} 路径只有一个可生成站点，无法区分两端"])
    else
      let parts := configured.map fun station =>
        if station.nodeUid ≠ lowStation.nodeUid ∧ station.nodeUid ≠ highStation.nodeUid then
          ([], [({
            severity := .warning, code := "section_generation_endpoint_ambiguous"
            message := s!"{station.name} 不是 {pathCode} 路径最低序或最高序站，未生成端点延伸区间"
            fieldName := "is_line_terminal", entityId := station.id } : Issue)])
        else
          terminalExtension lib metadata pathCode station
            (decide (station.nodeUid = lowStation.nodeUid))
      (parts.flatMap Prod.fst, parts.flatMap Prod.snd)
  | _, _ => ([], [])

/-! ## Paths -/

/-- The station is on the line, and not a depot or the like. -/
def Station.onLine (station : Station M) : Bool :=
  station.enabled && station.participatesInDirection && decide (station.nodeType = .station)

/-- Why a station on the line does not take part. -/
def Station.identityIssue (station : Station M) : Option Issue :=
  if station.sortOrder = none then
    some {
      severity := .warning, code := "section_generation_station_order_missing"
      message := s!"{station.name} 缺少主线顺序，未参与区间生成", fieldName := "sort_order"
      entityId := station.id }
  else if station.nodeUid = "" then
    some {
      severity := .error, code := "section_generation_node_identity_missing"
      message := s!"{station.name} 缺少稳定节点标识", fieldName := "node_uid", blocking := true
      entityId := station.id }
  else none

def pathOf (station : Station M) : String :=
  if station.pathCode = "" then metadata.mainPathCode else station.pathCode

/-- The stations that take part. -/
def usableStations (stations : List (Station M)) : List (Station M) :=
  stations.filter fun station => station.onLine && station.identityIssue.isNone

/-- The key `(station.sort_order, station.node_uid)`; a station that takes part has an
order. -/
def stationLe (one two : Station M) : Bool :=
  one.sortOrder.getD 0 < two.sortOrder.getD 0 ||
    one.sortOrder.getD 0 = two.sortOrder.getD 0 && one.nodeUid ≤ two.nodeUid

/-- The stations of a path in their order. -/
def orderedStations (stations : List (Station M)) (pathCode : String) : List (Station M) :=
  ((usableStations stations).filter fun station => pathOf metadata station = pathCode).mergeSort
    stationLe

/-- The sections of a path. -/
def pathSections (stations : List (Station M)) (pathCode : String) :
    List (LineSection M) × List Issue :=
  let pathStations := (usableStations stations).filter fun station =>
    pathOf metadata station = pathCode
  let duplicates := repeated (pathStations.map fun station => station.sortOrder.getD 0)
  if duplicates ≠ [] then
    let orders := String.intercalate ", " ((duplicates.mergeSort).map toString)
    ([], [{
      severity := .error, code := "section_generation_station_order_duplicate"
      message := s!"{pathCode} 路径存在重复顺序：{orders}", fieldName := "sort_order", blocking := true }])
  else if repeated (pathStations.map Station.nodeUid) ≠ [] then
    ([], [{
      severity := .error, code := "section_generation_node_identity_missing"
      message := s!"{pathCode} 路径存在重复稳定节点标识", fieldName := "node_uid", blocking := true }])
  else
    let ordered := orderedStations metadata stations pathCode
    let duplicateMileages := repeated (ordered.filterMap Station.centerMileage)
    let mileageIssues : List Issue :=
      if duplicateMileages ≠ [] then
        let values := String.intercalate ", "
          (((duplicateMileages.mergeSort)).map lib.formatMileage)
        [{ severity := .warning
           code := "section_generation_station_mileage_duplicate"
           message := s!"{pathCode} 路径存在重复站台中心里程：{values} m"
           fieldName := "center_mileage_m" }]
      else []
    let between := (ordered.zip ordered.tail).map fun pair =>
      betweenSections lib metadata pathCode pair.1 pair.2
    let terminal :=
      if lib.casefold pathCode = lib.casefold metadata.mainPathCode then
        terminalSections lib metadata pathCode ordered
      else ([], [])
    (between.flatMap Prod.fst ++ terminal.1,
      mileageIssues ++ between.flatMap Prod.snd ++ terminal.2)

/-- The sections of all paths. -/
def generate (stations : List (Station M)) : List (LineSection M) × List Issue :=
  let identityIssues := (stations.filter Station.onLine).filterMap Station.identityIssue
  let paths := ((usableStations stations).map (pathOf metadata)).eraseDups
  let parts := paths.map (pathSections lib metadata stations)
  let generated := parts.flatMap Prod.fst
  let issues := identityIssues ++ parts.flatMap Prod.snd
  let duplicateKeys := repeated (generated.map LineSection.generationKey)
  if duplicateKeys ≠ [] then
    (generated.filter fun line => !duplicateKeys.contains line.generationKey, issues ++ [{
        severity := .error, code := "section_duplicate_generation_key", message := "区间生成结果包含重复生成标识"
        fieldName := "generation_key", blocking := true }])
  else (generated, issues)

end NetConsole.SectionGeneration
