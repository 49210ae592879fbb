import NetConsole.Worker.Protocol

/-!
# Collected rows and their projections

A collected row is a dictionary. Each retention module reads it into a projection:
the columns of its tables, the state of the entity as one canonical JSON text, and
the SHA-256 of that text as the fingerprint.

What the standard library and other packages compute of single values (digests,
JSON texts, decimals, address and interface normalisation, the threshold of a
receive power) is collected in `RetentionLibrary`.
-/

set_option autoImplicit false

namespace NetConsole.Retention

open Syslog (isPythonSpace)
open Worker (Json Event PythonLibrary dictGet pythonInt pythonStr strip)

/-- What the standard library and other packages compute. -/
structure RetentionLibrary where
  python : PythonLibrary
  /-- `hashlib.sha256(text.encode("utf-8")).hexdigest()`. -/
  sha256 : String → String
  /-- `json.dumps(value, ensure_ascii=False, separators=(",", ":"))`. -/
  dumps : Json → String
  /-- The same with `sort_keys=True`. -/
  dumpsSorted : Json → String
  /-- `format(Decimal(token).normalize(), "f")`, unless `Decimal` raises. -/
  decimalText : String → Option String
  /-- `Decimal(one) <= Decimal(two)`, unless `Decimal` raises. -/
  decimalLe : String → String → Option Bool
  normalizeMacKey : Json → Option String
  evaluateApBusinessRx : Json → String
  normalizeLldpPayload : Event → String → Event
  normalizeInterfaceKey : Json → String
  formatH3cMac : Json → String
  /-- `datetime.now().astimezone().isoformat(timespec="seconds")`. -/
  nowIso : String

/-- `{**row, **entries}`. -/
def merged (row entries : Event) : Event :=
  entries.foldl (fun row entry => NetConsole.Worker.dictSet row entry.1 entry.2) row

section Values

variable (lib : RetentionLibrary)

/-- `str(value or "").strip()`. -/
def textOf (value : Json) : String :=
  String.ofList (strip (pythonStr lib.python (value.orElse (.str ""))).toList)

/-- `value not in (None, "")`. -/
def isGiven : Json → Bool
  | .null => false
  | .str text => text != ""
  | _ => true

/-- `_first(row, *fields)`. -/
def firstOf (row : Event) (fields : List String) : Json :=
  ((fields.map (dictGet row)).find? isGiven).getD (.str "")

/-- The status, folded. -/
def canonicalStatus (value : Json) : String := lib.python.casefold (textOf lib value)

/-- The number without zeros at its end, or the text where it is none. -/
def numberText (value : Json) : String :=
  let text := textOf lib value
  if text = "" then ""
  else
    match lib.decimalText (String.ofList (text.toList.takeWhile fun c => !isPythonSpace c)) with
    | none => text
    | some normalized =>
      if '.' ∈ normalized.toList then
        String.ofList ((normalized.toList.rdropWhile (· = '0')).rdropWhile (· = '.'))
      else normalized

end Values

/-! ## Optical readings -/

def opticalIssueStatuses : List String :=
  ["abnormal", "alarm", "link_abnormal", "link_down", "no_light", "notice", "warning"]

def opticalNoDataStatuses : List String :=
  ["", "unknown", "not_collected", "not_applicable", "skipped", "offline", "no_module", "failed",
    "timeout", "stale", "collection_failed", "connection_failed", "authentication_failed",
    "empty_configured_port"]

/-- The two ends of an optical link. -/
inductive OpticalSide
  | ap
  | switch
  deriving DecidableEq

/-- The columns of an optical row. -/
structure OpticalProjection where
  (siteId apIdentity apUuid apName apMac apMacNormalized serialNumber : String)
  side : OpticalSide
  (switchDeviceId switchName switchInterface rxDbm txDbm status source collectedAt stateJson
    stateFingerprint payloadJson sourceRevision : String)
  deriving DecidableEq

section Optical

variable (lib : RetentionLibrary)

/-- `optical_ap_identity(row)`, unless it raises. -/
def opticalApIdentity (row : Event) : Option String :=
  let apUuid := textOf lib (dictGet row "ap_uuid")
  if apUuid ≠ "" then some apUuid
  else
    match lib.normalizeMacKey (dictGet row "ap_mac") with
    | some apMac => if apMac = "" then none else some ("mac:" ++ apMac)
    | none => none

/-- The status that a row reports of a side. -/
def reportedStatus (row : Event) : OpticalSide → Json
  | .ap => firstOf row ["ap_optical_status", "optical_alarm_status", "status"]
  | .switch =>
    let reported := firstOf row
      ["switch_optical_status", "neighbor_optical_status", "neighbor_status"]
    if isGiven reported then reported else firstOf row ["optical_alarm_status", "status"]

/-- The status of a side; without one it is told from the power. -/
def statusForSide (row : Event) (side : OpticalSide) (rx : Json) : String :=
  let reported := canonicalStatus lib (reportedStatus row side)
  let status := if reported = "success" ∨ reported = "ok" then "" else reported
  if status = "" ∧ isGiven rx then lib.evaluateApBusinessRx rx
  else if status = "" then "unknown" else status

/-- `_state_json(rx_dbm, tx_dbm, status)`. -/
def opticalStateJson (rxDbm txDbm status : String) : String :=
  lib.dumpsSorted
    (.obj [("rx_dbm", .str rxDbm), ("status", .str status), ("tx_dbm", .str txDbm)])

def rxFields : OpticalSide → List String
  | .ap => ["rx_dbm", "ap_rx_power", "rx_power"]
  | .switch => ["switch_rx_power", "neighbor_rx_power", "rx_dbm", "rx_power"]

def txFields : OpticalSide → List String
  | .ap => ["tx_dbm", "ap_tx_power", "tx_power"]
  | .switch => ["switch_tx_power", "neighbor_tx_power", "tx_dbm", "tx_power"]

/-- `build_optical_projection`: nothing without an identity, a measurement, data of the module
or an issue. -/
def buildOpticalProjection (siteId : String) (side : OpticalSide) (now : String) (row : Event) :
    Option OpticalProjection :=
  (opticalApIdentity lib row).bind fun identity =>
    let rxValue := firstOf row (rxFields side)
    let txValue := firstOf row (txFields side)
    let status := statusForSide lib row side rxValue
    let hasMeasurement := isGiven rxValue || isGiven txValue
    let hasModuleMetadata :=
      ["module_model", "module_serial_number", "module_vendor", "temperature", "voltage",
        "bias_current"].any fun field => isGiven (dictGet row field)
    if !hasMeasurement && !hasModuleMetadata && !decide (status ∈ opticalIssueStatuses) then none
    else
      let collected := textOf lib
        (firstOf row ["collected_at", "optical_collected_at", "updated_at"])
      let rxDbm := numberText lib rxValue
      let txDbm := numberText lib txValue
      let stateJson := opticalStateJson lib rxDbm txDbm status
      some
        { siteId := textOf lib (.str siteId), apIdentity := identity
          apUuid := textOf lib (dictGet row "ap_uuid")
          apName := textOf lib (dictGet row "ap_name")
          apMac := textOf lib (dictGet row "ap_mac")
          apMacNormalized := (lib.normalizeMacKey (dictGet row "ap_mac")).getD ""
          serialNumber := textOf lib (dictGet row "serial_number")
          side
          switchDeviceId := textOf lib
            ((dictGet row "switch_device_id").orElse (dictGet row "device_uuid"))
          switchName := textOf lib ((dictGet row "switch_name").orElse
            ((dictGet row "neighbor_device_name").orElse (dictGet row "device_name")))
          switchInterface := textOf lib ((dictGet row "switch_interface").orElse
            ((dictGet row "neighbor_interface").orElse (dictGet row "interface_name")))
          rxDbm
          txDbm
          status
          source :=
            let source := textOf lib ((dictGet row "source").orElse (dictGet row "lldp_source"))
            if source = "" then "optical_refresh" else source
          collectedAt := if collected = "" then now else collected
          stateJson
          stateFingerprint := lib.sha256 stateJson
          payloadJson := lib.dumpsSorted (.obj row)
          sourceRevision := textOf lib
            ((dictGet row "source_revision").orElse (dictGet row "collect_run_uuid")) }

end Optical

/-! ## LLDP neighbours of access points -/

/-- The columns of an LLDP row. -/
structure LldpProjection where
  (acDeviceUuid apUuid apName apMac apMacNormalized source : String)
  lldpConfidence : Int
  (localInterface localInterfaceNormalized neighborInterface neighborInterfaceNormalized
    neighborMac neighborMacNormalized neighborDeviceName neighborName lldpMatchStatus : String)
  conflictFlag : Bool
  (collectedAt collectRunUuid rawLogPath sourceRevision stateJson stateFingerprint : String)

section Lldp

variable (lib : RetentionLibrary)

/-- `_timestamp(row, fallback)`. -/
def lldpTimestamp (row : Event) (fallback : String) : String :=
  let given := textOf lib
    (firstOf row ["lldp_collected_at", "collected_at", "last_seen_at", "updated_at"])
  if given = "" then fallback else given

/-- Where an LLDP row comes from. -/
def lldpSource (row : Event) : String :=
  let source := textOf lib (firstOf row ["lldp_source", "source"])
  if source = "" then "unknown" else source

/-- The row under the names of `normalize_lldp_payload`, normalised. -/
def normalizedLldp (row : Event) : Event :=
  lib.normalizeLldpPayload (merged row
      [("lldp_local_interface",
          firstOf row ["lldp_local_interface", "local_interface", "interface_name"]),
        ("lldp_neighbor_name",
          firstOf row ["lldp_neighbor_name", "neighbor_name", "lldp_neighbor",
            "neighbor_device_name"]),
        ("lldp_neighbor_mac", firstOf row ["lldp_neighbor_mac", "neighbor_mac"]),
        ("lldp_neighbor_interface", firstOf row ["lldp_neighbor_interface", "neighbor_interface"])])
    (lldpSource lib row)

/-- `canonical_lldp_state(row)`, in the order of its fields. -/
def canonicalLldpState (row : Event) : List (String × String) :=
  let normalized := normalizedLldp lib row
  [("local_interface_normalized",
      textOf lib (dictGet normalized "lldp_local_interface_normalized")),
    ("neighbor_mac_normalized", textOf lib (dictGet normalized "lldp_neighbor_mac_normalized")),
    ("neighbor_interface_normalized",
      lib.normalizeInterfaceKey (dictGet normalized "lldp_neighbor_interface")),
    ("neighbor_name", textOf lib (dictGet normalized "lldp_neighbor_name")),
    ("match_status",
      lib.python.casefold (textOf lib (dictGet normalized "lldp_match_status")))]

/-- `canonical_state_json(state)`. -/
def lldpStateJson (state : List (String × String)) : String :=
  lib.dumpsSorted
    (.obj (state.map fun field => (field.1, .str (textOf lib (.str field.2)))))

/-- `build_lldp_projection`, unless it raises. -/
def buildLldpProjection (sourceRevision fallbackTime : String) (row : Event) :
    Option LldpProjection :=
  let source := lldpSource lib row
  let normalized := normalizedLldp lib row
  let apUuid := textOf lib (dictGet row "ap_uuid")
  let neighborName := textOf lib (dictGet normalized "lldp_neighbor_name")
  let matchStatus := lib.python.casefold (textOf lib
    ((dictGet row "lldp_match_status").orElse (dictGet normalized "lldp_match_status")))
  let state := canonicalLldpState lib row
  let stateJson := lldpStateJson lib state
  let apMac := textOf lib (dictGet row "ap_mac")
  if apUuid = "" then none
  else
    (pythonInt lib.python ((dictGet row "lldp_confidence").orElse (.int 0))).toOption.map
      fun lldpConfidence =>
        { acDeviceUuid := textOf lib (dictGet row "ac_device_uuid")
          apUuid
          apName := textOf lib (dictGet row "ap_name")
          apMac := if apMac = "" then lib.formatH3cMac (dictGet row "ap_mac") else apMac
          apMacNormalized := (lib.normalizeMacKey (dictGet row "ap_mac")).getD ""
          source
          lldpConfidence
          localInterface := textOf lib (dictGet normalized "lldp_local_interface")
          localInterfaceNormalized := (state.lookup "local_interface_normalized").getD ""
          neighborInterface := textOf lib (dictGet normalized "lldp_neighbor_interface")
          neighborInterfaceNormalized := (state.lookup "neighbor_interface_normalized").getD ""
          neighborMac := textOf lib (dictGet normalized "lldp_neighbor_mac")
          neighborMacNormalized := (state.lookup "neighbor_mac_normalized").getD ""
          neighborDeviceName := textOf lib
            ((dictGet row "neighbor_device_name").orElse (.str neighborName))
          neighborName
          lldpMatchStatus := matchStatus
          conflictFlag := (dictGet row "conflict_flag").truthy || matchStatus == "conflict"
          collectedAt := lldpTimestamp lib row fallbackTime
          collectRunUuid := textOf lib
            ((dictGet row "collect_run_uuid").orElse (dictGet row "session_id"))
          rawLogPath := textOf lib (dictGet row "raw_log_path")
          sourceRevision := textOf lib (.str sourceRevision)
          stateJson
          stateFingerprint := lib.sha256 stateJson }

end Lldp

/-! ## Device interfaces -/

def interfaceColumns : List String :=
  ["device_uuid", "interface_name", "link_status", "admin_status", "physical_status",
    "protocol_status", "media_attribute", "media_type", "category", "speed", "duplex",
    "interface_type", "port_status", "port_mode", "pvid", "native_vlan", "tagged_vlans",
    "untagged_vlans", "pvid_source", "pvid_verified", "vlan_config_status",
    "vlan_config_collected_at", "vlan_warnings", "description", "ip_address", "mac_address", "vlan",
    "last_change", "collected_at", "collect_run_uuid", "raw_log_path", "updated_at"]

def interfaceStateFields : List String :=
  interfaceColumns.filter fun field => field ∉
    ["collected_at", "collect_run_uuid", "raw_log_path", "updated_at", "vlan_config_collected_at"]

/-- The columns of an interface row. -/
structure InterfaceProjection where
  (siteId deviceUuid interfaceName : String)
  /-- The values of `INTERFACE_COLUMNS`. -/
  columns : Event
  (collectedAt sourceRevision stateJson stateFingerprint : String)

section Interfaces

variable (lib : RetentionLibrary)

def isContainer : Json → Bool
  | .arr _ => true
  | .obj _ => true
  | _ => false

/-- The value as a column holds it. -/
def dbValue (value : Json) : Json := if isContainer value then .str (lib.dumps value) else value

def stateValue : Json → String
  | .null => ""
  | value =>
    if isContainer value then lib.dumpsSorted value
    else String.ofList (strip (pythonStr lib.python value).toList)

/-- `canonical_interface_state` and `canonical_state_json` of it. -/
def interfaceStateJson (row : Event) : String :=
  let state := interfaceStateFields.map fun field => (field, stateValue lib (dictGet row field))
  lib.dumpsSorted
    (.obj (state.map fun field => (field.1, .str (stateValue lib (.str field.2)))))

/-- `build_interface_projection`, unless it raises. -/
def buildInterfaceProjection (siteId now : String) (row : Event) : Option InterfaceProjection :=
  let deviceUuid := textOf lib (dictGet row "device_uuid")
  let interfaceName := textOf lib (dictGet row "interface_name")
  if deviceUuid = "" ∨ interfaceName = "" then none
  else
    let collected := textOf lib (dictGet row "collected_at")
    let collectedAt := if collected = "" then now else collected
    let updated := textOf lib (dictGet row "updated_at")
    let columns := merged (interfaceColumns.map fun field =>
      (field, dbValue lib (dictGet row field)))
      [("device_uuid", .str deviceUuid), ("interface_name", .str interfaceName),
        ("collected_at", .str collectedAt),
        ("updated_at", .str (if updated = "" then now else updated))]
    let stateJson := interfaceStateJson lib columns
    some
      { siteId := textOf lib (.str siteId)
        deviceUuid
        interfaceName
        columns
        collectedAt
        sourceRevision := textOf lib
          ((dictGet row "source_revision").orElse (dictGet row "collect_run_uuid"))
        stateJson
        stateFingerprint := lib.sha256 stateJson }

end Interfaces

end NetConsole.Retention
