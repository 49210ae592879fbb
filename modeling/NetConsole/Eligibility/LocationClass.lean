import NetConsole.ApIdentity.Sources
import NetConsole.Eligibility.Records
import NetConsole.SectionGeneration.Generation

/-!
# Where a trackside AP stands

The classes of places, as the base data of an AP give them (`trackside_ap_location.py`), and
`_resolved_location_class`, which also asks the station, the section and the main path.
-/

set_option autoImplicit false

namespace NetConsole.Eligibility

open ApIdentity (stripText)
open SectionGeneration (StationNodeType SectionKind)
open Syslog (isPythonSpace stripWhere)
open Worker (Json Event PythonLibrary PythonError dictGet dictSet pythonStr textOr)

/-- What the standard library computes, and the normalizers of names. `elapsedSeconds` is
`int((now - since).total_seconds())`. -/
structure ClassifierLibrary (DateTime : Type) where
  python : PythonLibrary
  nfkc : String → String
  canonicalStationName : String → String
  canonicalTrainId : String → String
  fromIsoformat : String → Option DateTime
  isAware : DateTime → Bool
  withZoneOf : DateTime → DateTime → DateTime
  elapsedSeconds : DateTime → DateTime → Int
  isoformatMilliseconds : DateTime → String

/-! ## Facts about the line -/

/-- The classes of trackside access points. -/
inductive TracksideApLocationClass
  | mainline
  | depot
  | parkingYard
  | stabling
  | depotConnection
  | testTrack
  | nonMainline
  | unknown
  deriving DecidableEq

def TracksideApLocationClass.text : TracksideApLocationClass → String
  | mainline => "MAINLINE"
  | depot => "DEPOT"
  | parkingYard => "PARKING_YARD"
  | stabling => "STABLING"
  | depotConnection => "DEPOT_CONNECTION"
  | testTrack => "TEST_TRACK"
  | nonMainline => "NON_MAINLINE"
  | unknown => "UNKNOWN"

/-- The class of a train that is there. -/
def TracksideApLocationClass.ground : TracksideApLocationClass → LocationClass
  | mainline => .mainline
  | depot => .depot
  | parkingYard => .parkingYard
  | stabling => .stabling
  | depotConnection => .depotConnection
  | testTrack => .testTrack
  | nonMainline => .nonMainline
  | unknown => .unknown

/-- `StationTrackFacility`. -/
inductive TrackFacility
  | turnbackTrack | crossover | storageTrack | depotConnection | tailTrack | loop | siding | other
  deriving DecidableEq

/-- `StationDTO`, as far as the classification reads it. -/
structure StationFact where
  (name sourceStationValue : String)
  nodeType : StationNodeType
  pathCode : String
  participatesInDirection : Bool
  trackFacilities : List TrackFacility

/-- `SectionDTO`, as far as the classification reads it. -/
structure SectionFact where
  name : String
  sectionKind : SectionKind
  pathCode : String

/-- `TracksideApDTO`, as far as the classification reads it; of a radio that is the BSSID,
and of the mileage its normalized text. -/
structure TracksideAp where
  (id name mac station sectionName mileage : String)
  locationClass : TracksideApLocationClass
  participatesInMainline : Bool
  locationClassSource : String
  radios : List String
  baseMetadata : Event
  recordKind : String

/-- `ApIdentityMatch`, as far as the classification reads it. -/
structure ApIdentityMatch where
  (status matchedEntityId effectiveApName effectiveApMac station sectionName location
    mileage belongType : String)

variable {DateTime : Type} (lib : ClassifierLibrary DateTime)

/-! ## `trackside_ap_location.py` -/

/-- `_text`. -/
def locationText (value : Json) : String :=
  stripText (lib.nfkc (pythonStr lib.python (value.orElse (.str ""))))

/-- `_ALIASES`. -/
def locationAliases : List (String × TracksideApLocationClass) :=
  [("mainline", .mainline), ("正线", .mainline), ("主线", .mainline), ("depot", .depot),
    ("车辆段", .depot), ("场段", .depot), ("parking_yard", .parkingYard),
    ("parking_lot", .parkingYard), ("停车场", .parkingYard), ("stabling", .stabling),
    ("storage_track", .stabling), ("存车线", .stabling), ("存车场", .stabling),
    ("depot_connection", .depotConnection), ("出入段线", .depotConnection),
    ("出段线", .depotConnection), ("入段线", .depotConnection), ("出场线", .depotConnection),
    ("入场线", .depotConnection), ("test_track", .testTrack), ("试车线", .testTrack),
    ("non_mainline", .nonMainline), ("非正线", .nonMainline), ("unknown", .unknown),
    ("未知", .unknown)]

/-- The class that a value names; none is mainline. -/
def normalizeLocationClass (value : Json) : Except PythonError TracksideApLocationClass :=
  let text := locationText lib value
  if text = "" then .ok .mainline
  else
    match locationAliases.lookup (lib.python.casefold text) with
    | some normalized => .ok normalized
    | none => .error .valueError

/-- The flag, with its default. -/
def parseParticipatesInMainline (value : Json) (default : Bool) : Except PythonError Bool :=
  if locationText lib value = "" then .ok default
  else
    match value with
    | .bool given => .ok given
    | .int _ | .float _ => .ok value.truthy
    | _ =>
      let text := lib.python.casefold (locationText lib value)
      if text ∈ ["1", "true", "yes", "y", "是", "参与", "启用"] then .ok true
      else if text ∈ ["0", "false", "no", "n", "否", "不参与", "停用"] then .ok false
      else .error .valueError

/-- `token in text`. -/
def mentions (text token : String) : Bool := decide (token.toList <:+: text.toList)

/-- The class that the names of a row suggest. -/
def inferLegacyLocationClass (row : Event) : TracksideApLocationClass :=
  let field key := locationText lib (dictGet row key)
  let text := " ".intercalate (["yard_name", "area_name", "station_name", "section_name",
    "location_desc", "install_scene"].map field)
  let belongType := lib.python.casefold (field "belong_type")
  match (locationAliases.lookup belongType).filter (· ≠ .mainline) with
  | some resolved => resolved
  | none =>
    if ["出入段线", "出段线", "入段线", "出场线", "入场线"].any (mentions text) then .depotConnection
    else if mentions text "试车线" then .testTrack
    else if mentions text "存车线" || mentions text "存车场" then .stabling
    else if mentions text "停车场" then .parkingYard
    else if mentions text "车辆段" then .depot
    else if mentions text "非正线" then .nonMainline
    else .mainline

/-- The class, the flag, and where they come from. -/
def resolveTracksideApLocation (row : Event) :
    Except PythonError (TracksideApLocationClass × Bool × String) := do
  let rawClass := locationText lib (dictGet row "location_class")
  let rawSource := locationText lib (dictGet row "location_class_source")
  let locationClass :=
    if rawClass = "" then inferLegacyLocationClass lib row
    else
      match normalizeLocationClass lib (.str rawClass) with
      | .ok normalized => normalized
      | .error _ => .unknown
  let source :=
    if rawClass ≠ "" ∧ rawSource ≠ "" then rawSource
    else if locationClass = .mainline then "DEFAULT_MAINLINE"
    else "LEGACY_INFERRED"
  let participates ← parseParticipatesInMainline lib
    (dictGet row "participates_in_mainline") (locationClass = .mainline)
  return (locationClass, participates, source)

/-- Someone has set the class. -/
def locationClassIsExplicit (source : String) : Bool :=
  lib.python.upper (locationText lib (.str source)) ∉
    ["", "DEFAULT_MAINLINE", "LEGACY_DEFAULT_MAINLINE"]

/-! ## The class of a matched place -/

/-- The characters between two tokens. -/
def separatesTokens (char : Char) : Bool :=
  char ∈ [',', ';', '|', '/', '、', '，'] || isPythonSpace char

/-- The characters that are taken off both ends of a token. -/
def wrapsToken (char : Char) : Bool :=
  char ∈ ['[', ']', '(', ')', '\x7b', '\x7d', '\x27', '\x22']

def textTokens (text : String) : List String :=
  ((text.toList.splitOnP separatesTokens).map fun token =>
    lib.python.casefold (String.ofList (stripWhere wrapsToken token))).filter (· ≠ "")

mutual
/-- `_metadata_tokens`, of one value. -/
def metadataTokens : Json → List String
  | .arr items => itemTokens items
  | value => textTokens lib (pythonStr lib.python (value.orElse (.str "")))

def itemTokens : List Json → List String
  | [] => []
  | value :: rest => metadataTokens value ++ itemTokens rest
end

/-- The base data of an AP under casefolded names, without what says its class. -/
def classMetadata (ap : TracksideAp) : Event :=
  let metadata := (ap.baseMetadata.map fun (key, value) =>
    (lib.python.casefold key, value)).foldl (fun metadata (key, value) =>
      if key ∈ ["location_class", "participates_in_mainline", "location_class_source"] then metadata
      else dictSet metadata key value) []
  let belongType := (dictGet metadata "belong_type").orElse (.str ap.recordKind)
  dictSet (dictSet (dictSet metadata "belong_type" belongType) "station_name" (.str ap.station))
    "section_name" (.str ap.sectionName)

/-- The class of a place, why, whether it counts for the main line, and from where that is
known. -/
structure ResolvedClass where
  locationClass : TracksideApLocationClass
  reason : String
  participates : Bool
  source : String

/-- A place as it was matched with the base data. -/
structure LocationResolution where
  ap : Option TracksideAp := none
  station : Option StationFact := none
  sectionFact : Option SectionFact := none
  matchLevel : MatchLevel := .unmatched
  matchReason : String := "当前 AP 和站点均无法与基础资料匹配"
  canonicalStationName : String := ""
  identityMatch : Option ApIdentityMatch := none

/-- `path.strip().casefold()`. -/
def pathKey (path : String) : String := lib.python.casefold (stripText path)

/-- What the station and the section say of the class, where they do. -/
def topologyClass (station : Option StationFact) (sectionFact : Option SectionFact) :
    Option ResolvedClass :=
  let byStation := station.bind fun station =>
    let stationName := lib.canonicalStationName station.name
    if station.nodeType = .depot then
      some ⟨.depot, s!"当前车辆位于{stationName}", false, "STATION_TOPOLOGY"⟩
    else if station.nodeType = .parkingLot then
      some ⟨.parkingYard, s!"当前车辆位于{stationName}", false, "STATION_TOPOLOGY"⟩
    else if .storageTrack ∈ station.trackFacilities then
      some ⟨.stabling, "当前站点设施为存车线", false, "STATION_TOPOLOGY"⟩
    else none
  let bySection := sectionFact.bind fun sectionFact =>
    if sectionFact.sectionKind = .depotConnection then
      some ⟨.depotConnection, "当前区间为出入段连接线", false, "SECTION_TOPOLOGY"⟩
    else none
  byStation <|> bySection

/-- What lies off the main path, where something does. -/
def offMainPath (mainPath apPath : String) (station : Option StationFact)
    (sectionFact : Option SectionFact) : Option ResolvedClass :=
  if station.any fun station =>
      !station.participatesInDirection || pathKey lib station.pathCode ≠ mainPath then
    some ⟨.nonMainline, "当前站点不参与局点正线判断", false, "STATION_TOPOLOGY"⟩
  else if sectionFact.any fun sectionFact => pathKey lib sectionFact.pathCode ≠ mainPath then
    some ⟨.nonMainline, "当前区间不属于局点主路径", false, "SECTION_TOPOLOGY"⟩
  else if apPath ≠ "" ∧ apPath ≠ mainPath then
    some ⟨.nonMainline, "当前 AP 不属于局点主路径", false, "AP_TOPOLOGY"⟩
  else none

/-- The class of the place, and why. -/
def resolvedLocationClass (mainPathCode : String) (location : LocationResolution) :
    Except PythonError ResolvedClass :=
  match location.ap with
  | none => .ok ⟨.unknown, "当前 AP 未匹配轨旁 AP 基础资料", false, "UNDETERMINED"⟩
  | some ap =>
    if ap.locationClass ≠ .unknown ∧ locationClassIsExplicit lib ap.locationClassSource then
      .ok ⟨ap.locationClass, s!"当前 AP 基础资料明确标记为 {ap.locationClass.text}",
        ap.participatesInMainline, ap.locationClassSource⟩
    else
      let metadata := classMetadata lib ap
      let facilities := ["track_facilities", "track_facility", "facility_type"].flatMap fun key =>
        metadataTokens lib (dictGet metadata key)
      if "storage_track" ∈ facilities then
        .ok ⟨.stabling, "当前 AP 基础资料明确归属于存车线", false, "AP_METADATA"⟩
      else do
        let (legacyClass, _, _) ← resolveTracksideApLocation lib metadata
        let mainPath := pathKey lib mainPathCode
        let apPath := pathKey lib (textOr lib.python metadata "path_code")
        if legacyClass ∉ [.mainline, .unknown] then
          return ⟨legacyClass, s!"当前 AP 历史基础资料解析为 {legacyClass.text}", false, "AP_METADATA"⟩
        else if let some resolved :=
          topologyClass lib location.station location.sectionFact then
          return resolved
        else if let some resolved :=
            offMainPath lib mainPath apPath location.station location.sectionFact then
          return resolved
        else if ap.locationClass = .mainline ∧ !ap.participatesInMainline then
          return ⟨.mainline, "当前 AP 已设置为不参与正线判断", false, ap.locationClassSource⟩
        else if location.station.isSome || location.sectionFact.isSome || apPath ≠ "" then
          return ⟨.mainline, "站点/区间属于局点主路径", true, "SITE_TOPOLOGY"⟩
        else
          return ⟨.mainline, "AP 已匹配且没有特殊区域标记，按默认正线纳入", true, "DEFAULT_MAINLINE"⟩

end NetConsole.Eligibility
