import NetConsole.Worker.Protocol

/-!
# Event projections of syslog datagrams

A datagram becomes an event in two ways. `_process` computes the event while the
receiver runs, from the envelope. `_recovered_projection` computes it after a crash,
from the raw record that `_build_raw_record` has written for the datagram.

The parser and the identity query of the access points are services that the
receiver is given; a parser may raise. Dictionaries are those of
`NetConsole.Worker.Event`. The timeline entry that accompanies an event is left out.
-/

set_option autoImplicit false

namespace NetConsole.Syslog

open Worker (Json Event PythonLibrary PythonError dictGet dictSet textOr pythonInt)

/-! ## Datagrams and the inventory -/

/-- A datagram with its times and numbers of receipt. -/
structure UdpEnvelope where
  sourceIp : String
  sourcePort : Int
  receiveTime : String
  (globalReceiveSequence sourceReceiveSequence : Int)
  payload : List UInt8

/-- An active endpoint of the inventory with its train. -/
structure Endpoint where
  deviceUuid : String
  deviceId : Json
  (deviceName trainId trainNo mrRole managementIp : String)

/-- The loaded inventory: the endpoints of an address, and of a casefolded host name. -/
structure Inventory where
  byIp : String → List Endpoint
  byHostname : String → List Endpoint

/-- How surely the sender is known. -/
inductive IdentityStatus where
  | verified | identityConflict | unconfirmedHostname | unconfirmedSourceIp | unidentified
  deriving DecidableEq

def IdentityStatus.text : IdentityStatus → String
  | .verified => "VERIFIED"
  | .identityConflict => "IDENTITY_CONFLICT"
  | .unconfirmedHostname => "UNCONFIRMED_HOSTNAME"
  | .unconfirmedSourceIp => "UNCONFIRMED_SOURCE_IP"
  | .unidentified => "UNIDENTIFIED"

/-- The quality of a projected event. -/
inductive DataQuality where
  | complete | identityConflict | unidentifiedSource | duplicate | clockJump | clockOffset
  deriving DecidableEq

def DataQuality.text : DataQuality → String
  | .complete => "COMPLETE"
  | .identityConflict => "IDENTITY_CONFLICT"
  | .unidentifiedSource => "UNIDENTIFIED_SOURCE"
  | .duplicate => "DUPLICATE"
  | .clockJump => "CLOCK_JUMP"
  | .clockOffset => "CLOCK_OFFSET"

/-! ## Parsed messages -/

/-- What the parser finds in a message. -/
structure ParsedSyslog where
  (eventType eventFamily deviceTime peerName peerMac previousPeerName previousPeerMac : String)
  station : String := ""
  sectionName : String := ""
  interfaceName : String := ""
  interfaceType : String := ""
  physicalState : String := ""
  cfgEventIndex : String := ""
  cfgCommandSource : String := ""
  cfgSource : String := ""
  cfgDestination : String := ""
  expectedInternalChange : Bool := false
  details : Event

/-- What the identity query adds to a message. -/
structure ApEnrichment where
  (peerName peerMac previousPeerName previousPeerMac station sectionName : String)
  details : Event

/-- `enrich_parsed`, with what the query resolves the message to. -/
def enrichParsed (resolve : ParsedSyslog → ApEnrichment) (parsed : ParsedSyslog) : ParsedSyslog :=
  let found := resolve parsed
  { parsed with
    peerName := found.peerName, peerMac := found.peerMac, previousPeerName := found.previousPeerName
    previousPeerMac := found.previousPeerMac, station := found.station
    sectionName := found.sectionName, details := found.details }

/-- What the standard library computes. A clock offset is the text of a float of
milliseconds; `isFar` and `hasJumped` are its comparisons with 5 000 and 60 000. A text
with a lone surrogate is not `encodable` as UTF-8. -/
structure SyslogLibrary (DateTime : Type) where
  python : PythonLibrary
  decodeReplace : List UInt8 → List Char
  extractHostname : String → String
  extractFacilitySeverity : String → String × String
  base64 : List UInt8 → String
  fromIsoFormat : String → Option DateTime
  isoFormat : DateTime → String
  deviceDateTime : String → Option DateTime
  offsetMs : DateTime → DateTime → String
  isFar : String → Bool
  hasJumped : String → String → Bool
  sha256 : String → String
  /-- `json.dumps(details, ensure_ascii=False)`. -/
  dumps : Event → String
  encodable : String → Bool

/-- The text of a payload, without the zero bytes and line ends around it. -/
def rawText {DateTime : Type} (lib : SyslogLibrary DateTime) (payload : List UInt8) : String :=
  String.ofList (stripWhere (fun char => char ∈ [Char.ofNat 0, '\r', '\n'])
    (lib.decodeReplace payload))

/-- What the receiver asks of parser, resolver and change log. -/
structure ReceiverServices (DateTime : Type) where
  parse : String → DateTime → Except PythonError (Option ParsedSyslog)
  resolve : ParsedSyslog → ApEnrichment
  expectedConfigChangeAt : String → String → Bool

/-- The mobile radio that an event belongs to. -/
structure MrIdentity where
  deviceUuid : String
  deviceId : Json
  (trainId mrRole : String)

/-- An event as it is projected. -/
structure EventRow where
  (runId eventType eventFamily deviceTime eventTime eventTimeSource
    receiveTime dataQuality : String)
  identity : MrIdentity
  (sourceIp hostname peerName peerMac previousPeerName previousPeerMac station sectionName
    interfaceName interfaceType physicalState cfgEventIndex cfgCommandSource cfgSource : String)
  cfgDestination : String
  expectedInternalChange : Bool
  clockOffsetMs : Json
  rawFileId : String
  rawLineNumber : Nat
  dedupKey : String
  details : Event

section Projections

variable {DateTime : Type} (lib : SyslogLibrary DateTime) (siteId runId : String)

/-! ## Identities -/

/-- The distinct devices of some endpoints. -/
def deviceUuids (endpoints : List Endpoint) : List String :=
  (endpoints.map (·.deviceUuid)).eraseDups

/-- The endpoint of a device: the last one of a dictionary by device. -/
def endpointOf (endpoints : List Endpoint) (deviceUuid : String) : Option Endpoint :=
  endpoints.reverse.find? (·.deviceUuid = deviceUuid)

/-- The endpoint that the endpoints of the address and of the host name agree on. -/
def resolveEndpoints (byIp byHost : List Endpoint) : Option Endpoint × IdentityStatus :=
  if byIp ≠ [] ∧ byHost ≠ [] then
    match (deviceUuids byIp).filter (· ∈ deviceUuids byHost) with
    | [deviceUuid] => (endpointOf byIp deviceUuid, .verified)
    | _ => (none, .identityConflict)
  else
    match deviceUuids byHost, deviceUuids byIp with
    | [deviceUuid], _ => (endpointOf byHost deviceUuid, .unconfirmedHostname)
    | _, [deviceUuid] => (endpointOf byIp deviceUuid, .unconfirmedSourceIp)
    | _, _ => (none, .unidentified)

/-- The endpoint that sent a message, and how surely. -/
def resolveIdentity (inventory : Inventory) (sourceIp hostname : String) :
    Option Endpoint × IdentityStatus :=
  resolveEndpoints (inventory.byIp sourceIp)
    (if hostname = "" then [] else inventory.byHostname (lib.python.casefold hostname))

/-! ## The raw record -/

/-- A field of the endpoint, or nothing without one. -/
def endpointText (endpoint : Option Endpoint) (field : Endpoint → String) : Json :=
  .str ((endpoint.map field).getD "")

/-- The record that is stored of a datagram. -/
def buildRawRecord (inventory : Inventory) (envelope : UdpEnvelope) : Event :=
  let rawText := rawText lib envelope.payload
  let hostname := lib.extractHostname rawText
  let (endpoint, identityStatus) := resolveIdentity lib inventory envelope.sourceIp hostname
  let (facility, severity) := lib.extractFacilitySeverity rawText
  [("source_ip", .str envelope.sourceIp), ("source_port", .int envelope.sourcePort),
    ("hostname", .str hostname),
    ("system_name", .str hostname),
    ("facility", .str facility),
    ("severity", .str severity),
    ("raw_bytes_base64", .str (lib.base64 envelope.payload)),
    ("raw_text", .str rawText),
    ("receive_time", .str envelope.receiveTime),
    ("global_receive_sequence", .int envelope.globalReceiveSequence),
    ("source_receive_sequence", .int envelope.sourceReceiveSequence),
    ("device_time", .str ""),
    ("device_id", (endpoint.map (·.deviceId)).getD .null),
    ("device_uuid", endpointText endpoint (·.deviceUuid)),
    ("mr_name", endpointText endpoint (·.deviceName)),
    ("train_id", endpointText endpoint (·.trainId)),
    ("train_no", endpointText endpoint (·.trainNo)),
    ("mr_role", endpointText endpoint (·.mrRole)),
    ("site_id", .str siteId),
    ("parse_status", .str "PENDING"),
    ("identity_status", .str identityStatus.text),
    ("event_type", .str ""),
    ("event_family", .str "")]

/-! ## The quality of an event -/

/-- What the receiver remembers of a device: the digest of its last message and its
last clock offset. -/
structure QualityState where
  lastLineHash : String → Option String
  lastClockOffset : String → Option String

/-- The key of an endpoint in the memory of the receiver. -/
def qualityKey (endpoint : Endpoint) (identityStatus : IdentityStatus) : String :=
  if endpoint.deviceUuid = "" then identityStatus.text ++ ":" ++ endpoint.managementIp
  else endpoint.deviceUuid

/-- `_quality`: the quality, the clock offset, and what is remembered. -/
def quality (endpoint : Option Endpoint) (identityStatus : IdentityStatus) (rawText : String)
    (deviceTime : String) (receiveTime : DateTime) (state : QualityState) :
    (DataQuality × Option String) × QualityState :=
  if identityStatus = .identityConflict then ((.identityConflict, none), state)
  else
    match endpoint with
    | none => ((.unidentifiedSource, none), state)
    | some endpoint =>
      let key := qualityKey endpoint identityStatus
      let lineHash := lib.sha256 rawText
      if state.lastLineHash key = some lineHash then ((.duplicate, none), state)
      else
        let hashed := { state with
          lastLineHash device := if device = key then some lineHash
            else state.lastLineHash device }
        match lib.deviceDateTime deviceTime with
        | none => ((.complete, none), hashed)
        | some current =>
          let offset := lib.offsetMs receiveTime current
          let remembered := { hashed with
            lastClockOffset device := if device = key then some offset
              else state.lastClockOffset device }
          if (state.lastClockOffset key).any (lib.hasJumped offset) then
            ((.clockJump, some offset), remembered)
          else if lib.isFar offset then ((.clockOffset, some offset), remembered)
          else ((.complete, some offset), remembered)

/-! ## The two projections -/

/-- `{**details, **fields}`. -/
def dictUpdate (details : Event) (fields : List (String × Json)) : Event :=
  fields.foldl (fun merged field => dictSet merged field.1 field.2) details

/-- The time of the device counts, unless its clock is off. -/
def useDeviceTime (dataQuality deviceTime : String) : Bool :=
  decide (dataQuality ∉ ["CLOCK_OFFSET", "CLOCK_JUMP"] ∧ deviceTime ≠ "")

/-- The identity that a record was stored with. -/
def recordIdentity (record : Event) : MrIdentity where
  deviceUuid := textOr lib.python record "device_uuid"
  deviceId := dictGet record "device_id"
  trainId := textOr lib.python record "train_id"
  mrRole := textOr lib.python record "mr_role"

/-- What both projections take from the message and the place of its record. -/
def eventRow (parsed : ParsedSyslog) (identity : MrIdentity)
    (dataQuality receiveTime sourceIp hostname rawFileId : String) (rawLineNumber : Nat) :
    EventRow where
  runId := runId
  eventType := parsed.eventType
  eventFamily := parsed.eventFamily
  deviceTime := parsed.deviceTime
  eventTime := if useDeviceTime dataQuality parsed.deviceTime then parsed.deviceTime
    else receiveTime
  eventTimeSource :=
    if useDeviceTime dataQuality parsed.deviceTime then "DEVICE_TIME" else "RECEIVE_TIME"
  receiveTime := receiveTime
  dataQuality := dataQuality
  identity := identity
  sourceIp := sourceIp
  hostname := hostname
  peerName := parsed.peerName
  peerMac := parsed.peerMac
  previousPeerName := parsed.previousPeerName
  previousPeerMac := parsed.previousPeerMac
  station := parsed.station
  sectionName := parsed.sectionName
  interfaceName := parsed.interfaceName
  interfaceType := parsed.interfaceType
  physicalState := parsed.physicalState
  cfgEventIndex := parsed.cfgEventIndex
  cfgCommandSource := parsed.cfgCommandSource
  cfgSource := parsed.cfgSource
  cfgDestination := parsed.cfgDestination
  expectedInternalChange := parsed.expectedInternalChange
  clockOffsetMs := .null
  rawFileId := rawFileId
  rawLineNumber := rawLineNumber
  dedupKey := ""
  details := parsed.details

/-- A change of the configuration that the program itself has made is marked. -/
def markExpected (services : ReceiverServices DateTime) (endpoint : Option Endpoint)
    (receiveTime : String) (parsed : ParsedSyslog) : ParsedSyslog :=
  match endpoint with
  | some endpoint =>
    if parsed.eventFamily = "CFGMAN" ∧ lib.python.casefold parsed.cfgCommandSource ≠ "snmp" then
      let expected := services.expectedConfigChangeAt endpoint.deviceUuid receiveTime
      { parsed with
        expectedInternalChange := expected
        details := dictSet parsed.details "expected_internal_change" (.bool expected) }
    else parsed
  | none => parsed

def controlEventDedupKey (deviceUuid : String) (parsed : ParsedSyslog)
    (rawText : String) : String :=
  let rawHash := lib.sha256 rawText
  let parts :=
    if lib.python.upper parsed.eventType = "CFGMAN_CFGCHANGED" then
      [deviceUuid, parsed.eventType, parsed.cfgEventIndex, parsed.deviceTime,
        lib.python.casefold parsed.cfgCommandSource,
        if parsed.cfgEventIndex = "" then rawHash else ""]
    else
      [deviceUuid, parsed.eventType, lib.python.casefold parsed.interfaceName,
        lib.python.upper parsed.physicalState, parsed.deviceTime, rawHash]
  lib.sha256 (String.intercalate "\x1f" parts)

/-- `_process` of a datagram whose raw record has been written: the event, and what
the receiver remembers. -/
def process (services : ReceiverServices DateTime) (inventory : Inventory) (envelope : UdpEnvelope)
    (receiveTime : DateTime) (record : Event) (rawFileId : String) (rawLineNumber : Nat)
    (state : QualityState) : Except PythonError (Option EventRow × QualityState) := do
  let rawText := rawText lib envelope.payload
  let hostname := lib.extractHostname rawText
  let (facility, severity) := lib.extractFacilitySeverity rawText
  let (endpoint, identityStatus) := resolveIdentity lib inventory envelope.sourceIp hostname
  let parsed := (← services.parse rawText receiveTime).map fun parsed =>
    markExpected lib services endpoint envelope.receiveTime
      (enrichParsed services.resolve parsed)
  let ((dataQuality, clockOffset), remembered) := quality lib endpoint identityStatus rawText
    ((parsed.map (·.deviceTime)).getD "") receiveTime state
  match parsed with
  | none => return (none, remembered)
  | some parsed =>
    let identity := recordIdentity lib record
    let controls := parsed.eventFamily ∈ ["IFNET", "CFGMAN"] ∧ identity.deviceUuid ≠ ""
    let event := { eventRow runId parsed identity dataQuality.text envelope.receiveTime
        envelope.sourceIp hostname rawFileId rawLineNumber with
      clockOffsetMs := (clockOffset.map Json.float).getD .null
      dedupKey :=
        if controls then controlEventDedupKey lib identity.deviceUuid parsed rawText else ""
      details := dictUpdate parsed.details
        [("facility", .str facility), ("severity", .str severity),
          ("identity_status", .str identityStatus.text),
          ("global_receive_sequence", .int envelope.globalReceiveSequence),
          ("source_receive_sequence", .int envelope.sourceReceiveSequence)] }
    return (some event, remembered)

/-- The event that is made of a stored record. -/
def recoveredProjection (services : ReceiverServices DateTime) (record : Event) (rawFileId : String)
    (rawLineNumber : Nat) : Except PythonError (Option EventRow) := do
  let rawText := textOr lib.python record "raw_text"
  match lib.fromIsoFormat (textOr lib.python record "receive_time") with
  | none => return none
  | some receiveTime =>
    match ← services.parse rawText receiveTime with
    | none => return none
    | some parsed =>
      if parsed.eventFamily ≠ "WMESH" then return none
      else
        let parsed := enrichParsed services.resolve parsed
        let globalSequence ← pythonInt lib.python
          ((dictGet record "global_receive_sequence").orElse (.int 0))
        let sourceSequence ← pythonInt lib.python
          ((dictGet record "source_receive_sequence").orElse (.int 0))
        let stored := textOr lib.python record "data_quality"
        let dataQuality := if stored = "" then "COMPLETE" else stored
        return some { eventRow runId parsed (recordIdentity lib record) dataQuality
            (lib.isoFormat receiveTime) (textOr lib.python record "source_ip")
            (textOr lib.python record "hostname") rawFileId rawLineNumber with
          clockOffsetMs := dictGet record "clock_offset_ms"
          dedupKey := "raw-syslog:" ++ rawFileId ++ ":" ++ toString rawLineNumber
          details := dictUpdate parsed.details
            [("facility", .str (textOr lib.python record "facility")),
              ("severity", .str (textOr lib.python record "severity")),
              ("identity_status", .str (textOr lib.python record "identity_status")),
              ("global_receive_sequence", .int globalSequence),
              ("source_receive_sequence", .int sourceSequence),
              ("recovered_from_raw", .bool true)] }

end Projections

end NetConsole.Syslog
