import NetConsole.Retention.Tables

/-!
# Treatment of optical attenuation

Beside the optical tables stands, for every access point, one treatment row and a
list of treatment events. An observation of a side updates the current row of the
side and then the treatment (`observeSide`): while the current row of a side shows
an issue there is an open event, which an observation without an issue resolves.
Observations without data leave early, unless a side shows an issue.

`optical_current` has no columns for the station, the section, the direction and the
number of the access point, so that these come from the source row or from what was
stored before.
-/

set_option autoImplicit false

namespace NetConsole.Retention

open Foundations
open Worker (Event Json dictGet)

/-! ## Rows -/

/-- The sides that show an issue. -/
inductive AbnormalSide
  | none'
  | ap
  | switch
  | both
  | unknown
  deriving DecidableEq

/-- The status of a treatment event. -/
inductive EventStatus
  | open'
  | resolved
  deriving DecidableEq

/-- The status of a treatment. -/
inductive CurrentStatus
  | abnormal
  | recovered
  | normal
  deriving DecidableEq

/-- `_EVENT_METADATA_FIELDS`. -/
structure EventMetadata where
  (apUuid apName apMac apMacNormalized serialNumber apId stationId stationName sectionName
    direction switchDeviceId switchName switchInterface : String)
  deriving DecidableEq

/-- What every update writes into a treatment. -/
structure TreatmentMetadata where
  event : EventMetadata
  (currentApRxDbm currentSwitchRxDbm currentApTxDbm currentSwitchTxDbm currentApStatus : String)
  currentSwitchStatus : String
  currentAbnormalSide : AbnormalSide
  (lastCollectedAt updatedAt : String)
  deriving DecidableEq

/-- The treatment of an access point. -/
structure Treatment where
  metadata : TreatmentMetadata
  (firstDetectedAt lastAbnormalAt firstApRxDbm firstSwitchRxDbm recoveredApRxDbm : String)
  recoveredSwitchRxDbm : String
  firstAbnormalSide : AbnormalSide
  currentStatus : CurrentStatus
  (treatmentStatus firstResolvedAt lastResolvedAt : String)
  recurrenceCount : Nat
  (remark sourceRevision createdAt : String)
  deriving DecidableEq

/-- A time in which an access point showed an issue. -/
structure TreatmentEvent where
  id : Nat
  (eventUuid apIdentity : String)
  metadata : EventMetadata
  (firstAbnormalSide worstAbnormalSide lastAbnormalSide : AbnormalSide)
  (issueType initialSeverity worstSeverity firstDetectedAt lastAbnormalAt resolvedAt
    firstApRxDbm worstApRxDbm recoveredApRxDbm firstSwitchRxDbm worstSwitchRxDbm
    recoveredSwitchRxDbm firstRxDbm worstRxDbm recoveredRxDbm : String)
  eventStatus : EventStatus
  (treatmentStatus remark sourceRevisionFirst sourceRevisionLast backfillKey backfillSource
    evidenceQuality evidenceJson lastObservationFingerprint createdAt updatedAt : String)
  deriving DecidableEq

/-- The optical tables, the treatments and their events. -/
structure TreatmentTables where
  optical : OpticalTables
  treatments : String → Option Treatment
  events : List TreatmentEvent
  lastEventId : Nat

/-- The events of an access point. -/
def TreatmentTables.eventsOf (tables : TreatmentTables) (apIdentity : String) :
    List TreatmentEvent :=
  tables.events.filter fun event => event.apIdentity = apIdentity

/-- `_current_side_rows`, by side. -/
def TreatmentTables.sideRow (tables : TreatmentTables) (apIdentity : String) (side : OpticalSide) :
    Option OpticalProjection :=
  (tables.optical.current (apIdentity, side)).map OpticalCurrent.columns

/-! ## Texts of an event -/

/-- `first or second`. -/
def orText (first second : String) : String := if first = "" then second else first

section Texts

variable (lib : RetentionLibrary)

/-- `_text(value)` of a text. -/
def cleanText (text : String) : String := textOf lib (.str text)

/-- `_EVENT_SEVERITY_ORDER.get(status, 0)`. -/
def severityOrder (status : String) : Nat :=
  ([("notice", 1), ("warning", 2), ("abnormal", 3), ("link_abnormal", 4), ("link_down", 4),
    ("no_light", 5), ("alarm", 6)].lookup status).getD 0

/-- The more severe of two statuses, the first when they are equally so. -/
def moreSevere (first second : String) : String :=
  if severityOrder first < severityOrder second then second else first

/-- `_event_issue_status(*statuses)`. -/
def eventIssueStatus (apStatus switchStatus : String) : String :=
  match [apStatus, switchStatus].filter fun status => status ∈ opticalIssueStatuses with
  | [] => ""
  | first :: rest => rest.foldl moreSevere first

/-- The weaker of two receive powers. -/
def eventWorseRx (previous current : String) : String :=
  let previousText := numberText lib (.str previous)
  let currentText := numberText lib (.str current)
  if previousText = "" then currentText
  else if currentText = "" then previousText
  else
    match lib.decimalLe previousText currentText with
    | some false => currentText
    | _ => previousText

/-- The parts of a text between semicolons. -/
def splitRevisions (text : List Char) : List String :=
  (text.splitOn ';').map String.ofList

/-- The revisions of both texts, each once. -/
def eventJoinRevisions (previous current : String) : String :=
  let tokens := splitRevisions (cleanText lib previous).toList ++
    splitRevisions (cleanText lib current).toList
  ";".intercalate (tokens.foldl
    (fun values token => if token ≠ "" ∧ token ∉ values then values ++ [token] else values) [])

/-- The sides that have shown an issue so far. -/
def eventMergeSide (previous current : AbnormalSide) : AbnormalSide :=
  let named (side : AbnormalSide) : Bool := side = .ap ∨ side = .switch ∨ side = .both
  if previous = .both ∨ current = .both then .both
  else if named previous ∧ named current then if previous = current then previous else .both
  else if named previous then previous
  else if named current then current
  else .unknown

/-- One side in `_event_fingerprint`. -/
def sideFingerprint (row : OpticalProjection) : Json :=
  .obj [("state_fingerprint", .str (cleanText lib row.stateFingerprint)),
    ("status", .str (canonicalStatus lib (.str row.status))),
    ("rx_dbm", .str (cleanText lib row.rxDbm)), ("tx_dbm", .str (cleanText lib row.txDbm)),
    ("collected_at", .str (cleanText lib row.collectedAt))]

/-- `_text(source_row.get("source_revision") or source_row.get("collect_run_uuid"))`. -/
def sourceRevisionOf (sourceRow : Event) : String :=
  textOf lib ((dictGet sourceRow "source_revision").orElse
    (dictGet sourceRow "collect_run_uuid"))

/-- The fingerprint of what is observed of an access point. -/
def eventFingerprint (apRow switchRow : Option OpticalProjection) (sourceRow : Event) : String :=
  lib.sha256 (lib.dumpsSorted
    (.obj [("source_revision", .str (sourceRevisionOf lib sourceRow)),
      ("sides", .obj
        ((apRow.toList.map fun row => ("AP", sideFingerprint lib row)) ++
          switchRow.toList.map fun row => ("SWITCH", sideFingerprint lib row)))]))

end Texts

/-! ## An observation of an access point -/

/-- What `update_ap_optical_treatment` reads before it writes. -/
structure TreatmentObservation where
  apIdentity : String
  sourceRow : Event
  now : String
  /-- `uuid4().hex` of a new event. -/
  eventUuid : String
  (apRow switchRow : Option OpticalProjection)

namespace TreatmentObservation

variable (lib : RetentionLibrary) (observation : TreatmentObservation)

/-- The status of a side; a missing one has none. -/
def statusOf (row : Option OpticalProjection) : String :=
  canonicalStatus lib (.str ((row.map OpticalProjection.status).getD ""))

/-- The side shows an issue. -/
def isAbnormal (row : Option OpticalProjection) : Bool :=
  statusOf lib row ∈ opticalIssueStatuses

/-- Which sides show an issue. -/
def abnormalSide : AbnormalSide :=
  if isAbnormal lib observation.apRow then
    if isAbnormal lib observation.switchRow then .both else .ap
  else if isAbnormal lib observation.switchRow then .switch else .none'

/-- The current rows of both sides. -/
def rows : List OpticalProjection := observation.apRow.toList ++ observation.switchRow.toList

/-- The receive power of a side. -/
def sideRx (row : Option OpticalProjection) : String :=
  cleanText lib ((row.map OpticalProjection.rxDbm).getD "")

/-- The transmit power of a side. -/
def sideTx (row : Option OpticalProjection) : String :=
  cleanText lib ((row.map OpticalProjection.txDbm).getD "")

/-- The fingerprint of the observation. -/
def fingerprint : String :=
  eventFingerprint lib observation.apRow observation.switchRow observation.sourceRow

/-- The latest time of collection. -/
def latestCollected : String :=
  match (observation.rows.map fun row => cleanText lib row.collectedAt).filter (· ≠ "") with
  | [] => orText (textOf lib (dictGet observation.sourceRow "collected_at")) observation.now
  | first :: rest => rest.foldl max first

/-- `_source_observation_is_non_valid(source_row)`. -/
def sourceIsNonValid : Bool :=
  (["status", "ap_optical_status", "switch_optical_status", "neighbor_optical_status",
      "collection_status", "connection_status"].any fun field =>
    let value := canonicalStatus lib (dictGet observation.sourceRow field)
    value ≠ "" ∧ value ∈ opticalNoDataStatuses) ||
  ["primary_reason_code", "reason_code", "failure_stage"].any fun field =>
    canonicalStatus lib (dictGet observation.sourceRow field) = "empty_configured_port"

/-- The row says something of its side. -/
def hasRealData (row : OpticalProjection) : Bool :=
  row.rxDbm ≠ "" || row.txDbm ≠ "" ||
    canonicalStatus lib (.str row.status) ∉ opticalNoDataStatuses

/-- The observation leaves early: no side shows an issue, and it has no data. -/
def leavesEarly : Bool :=
  observation.abnormalSide lib = .none' && (observation.sourceIsNonValid lib ||
      (observation.rows.any fun row =>
        canonicalStatus lib (.str row.status) ∈ opticalNoDataStatuses) ||
      !observation.rows.any (hasRealData lib))

/-- A field of the source row, of the row of the access point, or of what was stored. -/
def firstText (field : String) (ofRow stored : Option String) : String :=
  orText (textOf lib (dictGet observation.sourceRow field))
    (orText (cleanText lib (ofRow.getD "")) (cleanText lib (stored.getD "")))

/-- A field under one of two names, or what was stored. -/
def eitherText (field other : String) (stored : Option String) : String :=
  orText (textOf lib
      ((dictGet observation.sourceRow field).orElse (dictGet observation.sourceRow other)))
    (cleanText lib (stored.getD ""))

/-- `station_name`, which is never the name of the site. -/
def stationName (siteId : String) (stored : Option String) : String :=
  let given := textOf lib ((dictGet observation.sourceRow "station_name").orElse
    ((dictGet observation.sourceRow "station").orElse (dictGet observation.sourceRow "site")))
  let other :=
    if lib.python.casefold given = lib.python.casefold (cleanText lib siteId) then ""
    else given
  orText other (cleanText lib (stored.getD ""))

/-- The columns that every update writes. -/
def metadata (siteId : String) (previous : Option Treatment) : TreatmentMetadata :=
  let stored := previous.map fun treatment => treatment.metadata.event
  let apRow := observation.apRow
  { event :=
      { apUuid := observation.firstText lib "ap_uuid" (apRow.map OpticalProjection.apUuid)
          (stored.map EventMetadata.apUuid)
        apName := observation.firstText lib "ap_name" (apRow.map OpticalProjection.apName)
          (stored.map EventMetadata.apName)
        apMac := observation.firstText lib "ap_mac" (apRow.map OpticalProjection.apMac)
          (stored.map EventMetadata.apMac)
        apMacNormalized := orText
          ((lib.normalizeMacKey ((dictGet observation.sourceRow "ap_mac").orElse
            ((Json.str ((apRow.map OpticalProjection.apMac).getD "")).orElse
              (.str ((stored.map EventMetadata.apMac).getD ""))))).getD "")
          (cleanText lib ((stored.map EventMetadata.apMacNormalized).getD ""))
        serialNumber := observation.firstText lib "serial_number"
          (apRow.map OpticalProjection.serialNumber) (stored.map EventMetadata.serialNumber)
        apId := observation.eitherText lib "ap_id" "apid" (stored.map EventMetadata.apId)
        stationId := observation.firstText lib "station_id" none
          (stored.map EventMetadata.stationId)
        stationName := observation.stationName lib siteId (stored.map EventMetadata.stationName)
        sectionName := observation.eitherText lib "section_name" "belong_section"
          (stored.map EventMetadata.sectionName)
        direction := observation.firstText lib "direction" none
          (stored.map EventMetadata.direction)
        switchDeviceId := cleanText lib
          ((observation.switchRow.map OpticalProjection.switchDeviceId).getD "")
        switchName := cleanText lib
          ((observation.switchRow.map OpticalProjection.switchName).getD "")
        switchInterface := cleanText lib
          ((observation.switchRow.map OpticalProjection.switchInterface).getD "") }
    currentApRxDbm := sideRx lib apRow
    currentSwitchRxDbm := sideRx lib observation.switchRow
    currentApTxDbm := sideTx lib apRow
    currentSwitchTxDbm := sideTx lib observation.switchRow
    currentApStatus := statusOf lib apRow
    currentSwitchStatus := statusOf lib observation.switchRow
    currentAbnormalSide := observation.abnormalSide lib
    lastCollectedAt := observation.latestCollected lib
    updatedAt := observation.now }

/-! ## Recording the event -/

/-- The receive power of a side that shows an issue. -/
def issueRx (row : Option OpticalProjection) : String :=
  if isAbnormal lib row then sideRx lib row else ""

/-- The type of the issue that is shown. -/
def issueType : String :=
  eventIssueStatus (statusOf lib observation.apRow) (statusOf lib observation.switchRow)

/-- The open event goes on. -/
def continued (metadata : TreatmentMetadata) (current : TreatmentEvent) : TreatmentEvent :=
  let firstApRx := issueRx lib observation.apRow
  let firstSwitchRx := issueRx lib observation.switchRow
  { current with
    metadata := metadata.event, eventStatus := .open'
    lastAbnormalAt := max (cleanText lib current.lastAbnormalAt)
      (observation.latestCollected lib)
    lastAbnormalSide := observation.abnormalSide lib
    worstAbnormalSide := eventMergeSide current.worstAbnormalSide (observation.abnormalSide lib)
    issueType := orText (observation.issueType lib) (cleanText lib current.issueType)
    worstSeverity := moreSevere (cleanText lib current.worstSeverity)
      (observation.issueType lib)
    firstApRxDbm := orText (cleanText lib current.firstApRxDbm) firstApRx
    worstApRxDbm := eventWorseRx lib current.worstApRxDbm firstApRx
    firstSwitchRxDbm := orText (cleanText lib current.firstSwitchRxDbm) firstSwitchRx
    worstSwitchRxDbm := eventWorseRx lib current.worstSwitchRxDbm firstSwitchRx
    firstRxDbm := orText (cleanText lib current.firstRxDbm) (orText firstApRx firstSwitchRx)
    worstRxDbm := eventWorseRx lib current.worstRxDbm (orText firstApRx firstSwitchRx)
    sourceRevisionLast := eventJoinRevisions lib current.sourceRevisionLast
      (sourceRevisionOf lib observation.sourceRow)
    lastObservationFingerprint := observation.fingerprint lib, updatedAt := observation.now }

/-- A new event is opened. -/
def opened (metadata : TreatmentMetadata) (id : Nat) : TreatmentEvent :=
  let firstApRx := issueRx lib observation.apRow
  let firstSwitchRx := issueRx lib observation.switchRow
  let sourceRevision := sourceRevisionOf lib observation.sourceRow
  { id
    eventUuid := observation.eventUuid, apIdentity := observation.apIdentity
    metadata := metadata.event, firstAbnormalSide := observation.abnormalSide lib
    worstAbnormalSide := observation.abnormalSide lib
    lastAbnormalSide := observation.abnormalSide lib, issueType := observation.issueType lib
    initialSeverity := observation.issueType lib, worstSeverity := observation.issueType lib
    firstDetectedAt := observation.latestCollected lib
    lastAbnormalAt := observation.latestCollected lib, resolvedAt := ""
    firstApRxDbm := firstApRx, worstApRxDbm := firstApRx, recoveredApRxDbm := ""
    firstSwitchRxDbm := firstSwitchRx, worstSwitchRxDbm := firstSwitchRx, recoveredSwitchRxDbm := ""
    firstRxDbm := orText firstApRx firstSwitchRx, worstRxDbm := orText firstApRx firstSwitchRx
    recoveredRxDbm := "", eventStatus := .open', treatmentStatus := "PENDING", remark := ""
    sourceRevisionFirst := sourceRevision, sourceRevisionLast := sourceRevision, backfillKey := ""
    backfillSource := "", evidenceQuality := "RUNTIME"
    evidenceJson := lib.dumpsSorted
      (.obj [("backfill_keys", .arr []), ("source", .str "RUNTIME")])
    lastObservationFingerprint := observation.fingerprint lib, createdAt := observation.now
    updatedAt := observation.now }

/-- The open event is resolved. -/
def resolvedEvent (metadata : TreatmentMetadata) (current : TreatmentEvent) : TreatmentEvent :=
  let currentApRx := sideRx lib observation.apRow
  let currentSwitchRx := sideRx lib observation.switchRow
  { current with
    metadata := metadata.event, eventStatus := .resolved
    resolvedAt := observation.latestCollected lib, recoveredApRxDbm := currentApRx
    recoveredSwitchRxDbm := currentSwitchRx, recoveredRxDbm := orText currentApRx currentSwitchRx
    sourceRevisionLast := eventJoinRevisions lib current.sourceRevisionLast
      (sourceRevisionOf lib observation.sourceRow)
    lastObservationFingerprint := observation.fingerprint lib, updatedAt := observation.now }

end TreatmentObservation

/-- The open event of an access point: `ORDER BY id DESC LIMIT 1`. -/
def TreatmentTables.openRow (tables : TreatmentTables) (apIdentity : String) :
    Option TreatmentEvent :=
  ((tables.eventsOf apIdentity).filter fun event => event.eventStatus = .open').getLast?

/-- `UPDATE … WHERE id=?`. -/
def TreatmentTables.replaceEvent (tables : TreatmentTables) (values : TreatmentEvent) :
    TreatmentTables :=
  { tables with
    events := tables.events.map fun event => if event.id = values.id then values else event }

/-- `INSERT` of an event. -/
def TreatmentTables.insertEvent (tables : TreatmentTables) (values : TreatmentEvent) :
    TreatmentTables :=
  { tables with events := tables.events ++ [values], lastEventId := values.id }

section Update

variable (lib : RetentionLibrary) (siteId : String)

/-- `_record_ap_optical_treatment_event`. -/
def recordTreatmentEvent (observation : TreatmentObservation) (metadata : TreatmentMetadata)
    (tables : TreatmentTables) : TreatmentTables :=
  match tables.openRow observation.apIdentity with
  | some current =>
    if current.lastObservationFingerprint = observation.fingerprint lib then tables
    else if observation.abnormalSide lib ≠ .none' then
      tables.replaceEvent (observation.continued lib metadata current)
    else tables.replaceEvent (observation.resolvedEvent lib metadata current)
  | none =>
    if observation.abnormalSide lib ≠ .none' then
      tables.insertEvent (observation.opened lib metadata (tables.lastEventId + 1))
    else tables

/-- `max(_event_count(…) - 1, 0)`. -/
def TreatmentTables.recurrenceCount (tables : TreatmentTables) (apIdentity : String) : Nat :=
  (tables.eventsOf apIdentity).length - 1

/-- `_event_summary_seed`: the first event by the time of its detection. -/
def TreatmentTables.eventSeed (tables : TreatmentTables) (apIdentity : String) :
    Option TreatmentEvent :=
  (tables.eventsOf apIdentity).foldl (fun first event =>
    match first with
    | none => some event
    | some seed => if event.firstDetectedAt < seed.firstDetectedAt then some event else some seed)
    none

/-- The treatment of an access point that shows an issue for the first time. -/
def firstTreatment (observation : TreatmentObservation) (metadata : TreatmentMetadata)
    (seed : Option TreatmentEvent) (recurrenceCount : Nat) : Treatment :=
  let latestCollected := observation.latestCollected lib
  let seeded (field : TreatmentEvent → String) : String :=
    cleanText lib ((seed.map field).getD "")
  { metadata
    firstDetectedAt := orText (seeded TreatmentEvent.firstDetectedAt) latestCollected
    lastAbnormalAt := latestCollected
    firstApRxDbm := orText (seeded TreatmentEvent.firstApRxDbm) metadata.currentApRxDbm
    firstSwitchRxDbm := orText (seeded TreatmentEvent.firstSwitchRxDbm) metadata.currentSwitchRxDbm
    recoveredApRxDbm := "", recoveredSwitchRxDbm := ""
    firstAbnormalSide := (seed.map TreatmentEvent.firstAbnormalSide).getD
      (observation.abnormalSide lib)
    currentStatus := .abnormal
    treatmentStatus := if recurrenceCount = 0 then "PENDING" else "RECURRENT"
    firstResolvedAt := seeded TreatmentEvent.resolvedAt
    lastResolvedAt := seeded TreatmentEvent.resolvedAt
    recurrenceCount
    remark := "", sourceRevision := sourceRevisionOf lib observation.sourceRow
    createdAt := observation.now }

/-- The treatment while an issue is shown. -/
def abnormalTreatment (observation : TreatmentObservation) (metadata : TreatmentMetadata)
    (recurrenceCount : Nat) (previous : Treatment) : Treatment :=
  { previous with
    metadata
    lastAbnormalAt := observation.latestCollected lib, currentStatus := .abnormal
    treatmentStatus :=
      if recurrenceCount = 0 then orText previous.treatmentStatus "PENDING" else "RECURRENT"
    recurrenceCount
    sourceRevision := sourceRevisionOf lib observation.sourceRow }

/-- The treatment when no issue is shown. -/
def normalTreatment (observation : TreatmentObservation) (metadata : TreatmentMetadata)
    (previous : Treatment) : Treatment :=
  { previous with
    metadata
    currentStatus := if previous.currentStatus = .abnormal then .recovered else .normal
    treatmentStatus := "RESOLVED", recoveredApRxDbm := metadata.currentApRxDbm
    recoveredSwitchRxDbm := metadata.currentSwitchRxDbm
    firstResolvedAt := orText previous.firstResolvedAt (observation.latestCollected lib)
    lastResolvedAt := observation.latestCollected lib
    sourceRevision := sourceRevisionOf lib observation.sourceRow }

/-- The treatment of an access point is written. -/
def TreatmentTables.setTreatment (tables : TreatmentTables) (apIdentity : String)
    (treatment : Treatment) : TreatmentTables :=
  { tables with
    treatments := Function.update tables.treatments apIdentity (some treatment) }

/-- `update_ap_optical_treatment`. -/
def updateApOpticalTreatment (observation : TreatmentObservation) (tables : TreatmentTables) :
    TreatmentTables :=
  if observation.leavesEarly lib then tables
  else
    let previous := tables.treatments observation.apIdentity
    let metadata := observation.metadata lib siteId previous
    let recorded := recordTreatmentEvent lib observation metadata tables
    let recurrenceCount := recorded.recurrenceCount observation.apIdentity
    if observation.abnormalSide lib ≠ .none' then
      recorded.setTreatment observation.apIdentity
        (match previous with
        | none => firstTreatment lib observation metadata
            (recorded.eventSeed observation.apIdentity) recurrenceCount
        | some previous => abnormalTreatment lib observation metadata recurrenceCount previous)
    else
      match previous with
      | none => recorded
      | some previous => recorded.setTreatment observation.apIdentity
          (normalTreatment lib observation metadata previous)

/-- One side of `_record_fit_ap_optical_history`: the side is upserted, and its treatment is
updated unless the row has nothing for the side. -/
def observeSide (side : OpticalSide) (now eventUuid : String) (row : Event)
    (tables : TreatmentTables) : TreatmentTables :=
  let upserted := upsertOpticalCurrentAndHistory lib siteId side now row tables.optical
  let stored := { tables with optical := upserted.1 }
  match upserted.2 with
  | none => stored
  | some projection =>
    updateApOpticalTreatment lib siteId
      { apIdentity := projection.apIdentity, sourceRow := row
        now
        eventUuid
        apRow := stored.sideRow projection.apIdentity .ap
        switchRow := stored.sideRow projection.apIdentity .switch } stored

end Update

end NetConsole.Retention
