import NetConsole.Foundations.PrefixFolds
import NetConsole.Radio.ControlEvents

/-!
# Projecting radio control events

`process` stores a control event once and projects it; `rebuild` clears the projections and
projects the stored events again. Both read the events near to one: `process` all that are
stored, `rebuild` those that it has passed.

The clock is read for an event whose times cannot be read; a call is given what it says.
-/

set_option autoImplicit false

namespace NetConsole.Radio

open Foundations (foldPrefixes)

/-! ## Times -/

section Times

variable (lib : RadioLibrary)

/-- `_event_datetime`, with what the clock says. -/
def eventDatetime (clock : ControlEvent → Moment) (event : ControlEvent) : Moment :=
  match lib.parseTime event.eventTime, lib.parseTime event.receiveTime with
  | some moment, _ => moment
  | none, some moment => moment
  | none, none => clock event

/-- `SNMP_FLAPPING_WINDOW_SECONDS`, in microseconds. -/
def snmpFlappingWindow : Int := 300000000

/-- `FLAPPING_WINDOW_SECONDS`, in microseconds. -/
def flappingWindow : Int := 60000000

/-- `_recent_times`, with `SNMP_FLAPPING_WINDOW_SECONDS`. -/
def recentTimes (values : List String) (now : Moment) : List String :=
  values.filterMap fun value =>
    match lib.parseTime value with
    | some moment =>
      if |now.micros - moment.micros| ≤ snmpFlappingWindow then
        some (lib.isoMilliseconds moment)
      else none
    | none => none

/-- How many transitions lie in the last minute. -/
def transitionsInMinute (values : List String) (now : Moment) : Nat :=
  values.countP fun value =>
    (lib.parseTime value).any fun moment => now.micros - moment.micros ≤ flappingWindow

/-- How long a radio has been down. -/
def outageMs (downSince : String) (now : Moment) : Option Int :=
  (lib.parseTime downSince).map fun downAt =>
    max 0 (lib.roundMilliseconds (now.micros - downAt.micros))

end Times

section Projection

variable (lib : RadioLibrary) (clock : ControlEvent → Moment)

/-! ## Correlations -/

/-- The summary of the interfaces of a device. -/
def overallState (states : List InterfaceState) : RadioState :=
  if states.any (·.currentState = .flapping) then .flapping
  else if states.any (·.stableState = .down) then .down
  else if states.any (·.stableState = .up) then .up
  else .unknown

/-- The row of a mobile radio, or a new one. -/
def Projections.runtimeOrNew (tables : Projections) (deviceUuid : String) : MrRuntimeState :=
  (tables.runtimeState deviceUuid).getD { deviceUuid := deviceUuid }

/-- The summary of the device is written. -/
def refreshMrSummary (event : ControlEvent) (tables : Projections) : Projections :=
  tables.upsertRuntime {
    tables.runtimeOrNew event.deviceUuid with
    deviceUuid := event.deviceUuid, trainId := event.trainId, mrRole := event.mrRole
    radioOverallState := overallState (tables.interfacesOf event.deviceUuid)
    lastRadioEventAt := event.eventTime }

def snmpFlappingTransitionCount : Nat := 3

/-- The state of an interface behind a correlation. -/
def correlatedState (cfg ifnet : ControlEvent) (confidence : Confidence)
    (state : InterfaceState) : InterfaceState :=
  let moment := eventDatetime lib clock ifnet
  let recent := recentTimes lib state.snmpTransitionTimes moment
  let counted := state.snmpTransitionEventIds.contains ifnet.id
  let times := if counted then recent else recent ++ [lib.isoMilliseconds moment]
  let ids :=
    if counted then state.snmpTransitionEventIds else state.snmpTransitionEventIds ++ [ifnet.id]
  { state with
    deviceUuid := ifnet.deviceUuid, interfaceName := ifnet.interfaceName
    lastCfgEventIndex := cfg.cfgEventIndex, lastCommandSource := "snmp"
    correlationConfidence := confidence
    snmpRelatedTransitionCount5m := times.length
    snmpTransitionTimes := times, snmpTransitionEventIds := ids.drop (ids.length - 100) }

/-- The state of SNMP control behind a correlation. -/
def snmpStateOf (ifnet : ControlEvent) (transitions : Nat) : SnmpState :=
  if snmpFlappingTransitionCount ≤ transitions then .frequentSwitching
  else if lib.upper ifnet.physicalState = "DOWN" then .radioDown
  else .radioRecovered

/-- What is stored of a correlation. -/
def newCorrelation (cfg ifnet : ControlEvent) (deltaMs : Int) (confidence : Confidence) :
    Correlation where
  runId := if ifnet.runId = "" then cfg.runId else ifnet.runId
  deviceUuid := ifnet.deviceUuid
  trainId := ifnet.trainId
  mrRole := ifnet.mrRole
  interfaceName := ifnet.interfaceName
  cfgEventId := cfg.id
  ifnetEventId := ifnet.id
  deltaMs := deltaMs
  confidence := confidence

/-- The state of an interface that is correlated, or a new one. -/
def stateToCorrelate (ifnet : ControlEvent) (tables : Projections) : InterfaceState :=
  (tables.interfaceState ifnet.deviceUuid ifnet.interfaceName).getD {
    deviceUuid := ifnet.deviceUuid, trainId := ifnet.trainId, mrRole := ifnet.mrRole
    interfaceName := ifnet.interfaceName }

/-- The runtime state behind a correlation. -/
def correlateRuntime (ifnet : ControlEvent) (confidence : Confidence) (transitions : Nat)
    (tables : Projections) : Projections :=
  tables.upsertRuntime {
    tables.runtimeOrNew ifnet.deviceUuid with
    deviceUuid := ifnet.deviceUuid, trainId := ifnet.trainId, mrRole := ifnet.mrRole
    snmpRadioControlState := snmpStateOf lib ifnet transitions
    lastCorrelationConfidence := confidence, lastSnmpControlAt := ifnet.eventTime }

/-- A correlated state of an interface is stored. -/
def storeCorrelated (ifnet : ControlEvent) (confidence : Confidence)
    (correlated : InterfaceState) (tables : Projections) : Projections :=
  refreshMrSummary ifnet (correlateRuntime lib ifnet confidence
    correlated.snmpTransitionTimes.length (tables.upsertInterface correlated))

/-- What `_correlate` writes when the correlation has been inserted. -/
def projectCorrelation (cfg ifnet : ControlEvent) (confidence : Confidence)
    (tables : Projections) : Projections :=
  storeCorrelated lib ifnet confidence
    (correlatedState lib clock cfg ifnet confidence (stateToCorrelate ifnet tables)) tables

/-- Two events are correlated, if they are near enough. -/
def correlate (cfg ifnet : ControlEvent) (tables : Projections) : Projections :=
  let deltaMs := lib.roundMilliseconds
    |(eventDatetime lib clock cfg).micros - (eventDatetime lib clock ifnet).micros|
  if 10000 < deltaMs then tables
  else
    let confidence := if deltaMs ≤ 3000 then Confidence.high else .medium
    if tables.hasCorrelation cfg.id ifnet.id then tables
    else
      projectCorrelation lib clock cfg ifnet confidence
        (tables.insertCorrelation (newCorrelation cfg ifnet deltaMs confidence))

/-! ## Events -/

/-- The events near to one: a list of events for each family. -/
abbrev Nearby := ControlFamily → List ControlEvent

/-- A configuration change over SNMP. -/
def isSnmp (event : ControlEvent) : Bool := lib.casefold event.cfgCommandSource = "snmp"

/-- The runtime state behind a configuration change. -/
def cfgmanState (event : ControlEvent) (current : MrRuntimeState) : MrRuntimeState :=
  { current with
    deviceUuid := event.deviceUuid, trainId := event.trainId, mrRole := event.mrRole
    lastCfgEventAt := event.eventTime, lastCfgEventIndex := event.cfgEventIndex
    lastCommandSource := lib.casefold event.cfgCommandSource
    lastConfigSource := event.cfgSource, lastConfigDestination := event.cfgDestination
    lastCfgEventId := some event.id
    snmpRadioControlState :=
      if isSnmp lib event then .recentChange else current.snmpRadioControlState
    lastSnmpControlAt :=
      if isSnmp lib event then event.eventTime else current.lastSnmpControlAt }

/-- The interface events of radios among those near to a configuration change. -/
def radioEvents (nearby : Nearby) : List ControlEvent :=
  (nearby .ifnet).filter fun ifnet => lib.upper ifnet.interfaceType = "RADIO"

/-- A configuration event is projected. -/
def projectCfgman (nearby : Nearby) (event : ControlEvent) (tables : Projections) : Projections :=
  if event.deviceUuid = "" then tables
  else
    let saved := tables.upsertRuntime
      (cfgmanState lib event (tables.runtimeOrNew event.deviceUuid))
    if !isSnmp lib event || event.expectedInternalChange then saved
    else
      (radioEvents lib nearby).foldl
        (fun tables ifnet => correlate lib clock event ifnet tables) saved

/-- The configuration changes over SNMP that are not expected, among those near to an
interface event. -/
def snmpEvents (nearby : Nearby) : List ControlEvent :=
  (nearby .cfgman).filter fun cfg => isSnmp lib cfg && !cfg.expectedInternalChange

/-- An interface event against the nearby SNMP changes. -/
def correlateNearbyCfgman (nearby : Nearby) (event : ControlEvent) (tables : Projections) :
    Projections :=
  (snmpEvents lib nearby).foldl
    (fun tables cfg => correlate lib clock cfg event tables) tables

/-- The physical state of an interface event. -/
def physicalStateOf (event : ControlEvent) : Option RadioState :=
  if lib.upper event.physicalState = "UP" then some .up
  else if lib.upper event.physicalState = "DOWN" then some .down
  else none

/-- The state of an interface behind a transition. -/
def changedState (event : ControlEvent) (physical : RadioState) (current : InterfaceState) :
    InterfaceState :=
  let moment := eventDatetime lib clock event
  let times := recentTimes lib current.transitionTimes moment ++
    [lib.isoMilliseconds moment]
  let recovered := physical = .up ∧ current.stableState = .down
  { current with
    deviceUuid := event.deviceUuid, trainId := event.trainId, mrRole := event.mrRole
    interfaceName := event.interfaceName
    currentState := if 3 ≤ transitionsInMinute lib times moment then .flapping else physical
    stableState := physical, previousState := current.stableState, lastChangedAt := event.eventTime
    downSince :=
      if physical = .down then event.eventTime
      else if recovered then "" else current.downSince
    lastUpAt := if physical = .up then event.eventTime else current.lastUpAt
    lastDownAt := if physical = .down then event.eventTime else current.lastDownAt
    latestOutageDurationMs :=
      if recovered then outageMs lib current.downSince moment else none
    transitionCount5m := times.length
    transitionTimes := times, lastEventId := some event.id
    lastDownEventId := if physical = .down then some event.id else current.lastDownEventId
    lastUpEventId := if physical = .up then some event.id else current.lastUpEventId }

/-- The state of the interface of an event, or a new one. -/
def stateToChange (event : ControlEvent) (tables : Projections) : InterfaceState :=
  (tables.interfaceState event.deviceUuid event.interfaceName).getD {
    deviceUuid := event.deviceUuid, interfaceName := event.interfaceName }

/-- The state of an interface is stored when it has changed. -/
def storeTransition (event : ControlEvent) (physical : RadioState) (current : InterfaceState)
    (tables : Projections) : Projections :=
  if current.stableState = physical then tables
  else tables.upsertInterface (changedState lib clock event physical current)

/-- An interface event is projected. -/
def projectIfnet (nearby : Nearby) (event : ControlEvent) (tables : Projections) : Projections :=
  if event.deviceUuid = "" ∨ event.interfaceName = "" then tables
  else
    match physicalStateOf lib event with
    | none => tables
    | some physical =>
      correlateNearbyCfgman lib clock nearby event (refreshMrSummary event
        (storeTransition lib clock event physical (stateToChange event tables) tables))

/-- An event is projected by its family. -/
def project (nearby : Nearby) (event : ControlEvent) (tables : Projections) : Projections :=
  match event.family with
  | .cfgman => projectCfgman lib clock nearby event tables
  | .ifnet =>
    if lib.upper event.interfaceType = "RADIO" then
      projectIfnet lib clock nearby event tables
    else tables

/-! ## Processing and rebuilding -/

/-- The stored events near to one. -/
def storedNearby (events : List ControlEvent) (event : ControlEvent) : Nearby :=
  fun family => findControlEvents lib events event.deviceUuid family event.eventTime

/-- The stored events near to one, as far as a rebuild has passed them. -/
def passedNearby (events passed : List ControlEvent) (event : ControlEvent) : Nearby :=
  fun family => (storedNearby lib events event family).filter fun other =>
    (passed.map (·.id)).contains other.id

/-- An event is stored and projected. -/
def storeEvent (event : ControlEvent) (store : RadioStore) : RadioStore where
  events := store.events ++ [event]
  lastId := event.id
  projections := project lib clock (storedNearby lib (store.events ++ [event]) event)
    event store.projections

/-- `process`; an event without a key is not accepted. -/
def process (values : ControlValues) (store : RadioStore) : Option RadioStore :=
  if values.dedupKey = "" then none
  else if store.events.any (·.dedupKey = values.dedupKey) then some store
  else some (storeEvent lib clock { values with id := store.lastId + 1 } store)

/-- The projections are made anew of the events. -/
def rebuild (deviceUuid runId : String) (store : RadioStore) : RadioStore :=
  { store with
    projections := foldPrefixes
      (fun passed event => project lib clock (passedNearby lib store.events passed event)
        event) []
      (listControlEvents store.events deviceUuid runId) (store.projections.clear deviceUuid) }

end Projection

end NetConsole.Radio
