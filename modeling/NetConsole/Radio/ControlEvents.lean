import Mathlib.Algebra.Order.Ring.Unbundled.Rat
import Mathlib.Data.Prod.Lex
import Mathlib.Data.String.Basic
import NetConsole.Foundations.OwnedRows

/-!
# Radio control events and their projections

The tables of `ground_unattended_repository.py` that `radio_control.py` reads and writes:
the stored control events, the states of the radio interfaces and of the mobile radios,
and the correlations of interface events with configuration changes.

The numbers of duplicates, the random identifiers of correlations and the times of writing
are not read and not kept, nor is the timeline, which no projection reads.
-/

set_option autoImplicit false

namespace NetConsole.Radio

open Foundations (rowAt hasRow upsertRow insertRow ownedRows)

/-! ## Times and texts -/

/-- An aware `datetime`: microseconds since an epoch, and the offset that it is written
with. -/
structure Moment where
  (micros offset : Int)
  deriving DecidableEq

/-- What the standard library and the database compute: `datetime.fromisoformat`, with the
local zone for a text without one, `isoformat(timespec="milliseconds")`, the rounding of a
difference in microseconds to milliseconds, cases of texts, and
`ABS((julianday(one)-julianday(two))*86400.0)`. -/
structure RadioLibrary where
  parseTime : String → Option Moment
  isoMilliseconds : Moment → String
  roundMilliseconds : Int → Int
  upper : String → String
  casefold : String → String
  julianSeconds : String → String → Option ℚ

/-! ## Control events -/

/-- `event_family` of a control event. -/
inductive ControlFamily where
  | ifnet | cfgman
  deriving DecidableEq

/-- The values that an event is recorded with. -/
structure ControlValues where
  (runId deviceUuid trainId mrRole : String)
  family : ControlFamily
  (eventTime receiveTime dedupKey interfaceName interfaceType physicalState cfgEventIndex
    cfgCommandSource cfgSource cfgDestination : String)
  expectedInternalChange : Bool
  deriving DecidableEq

/-- A row of the control events. -/
structure ControlEvent extends ControlValues where
  id : Nat
  deriving DecidableEq

/-! ## Projections -/

/-- The states of a radio. -/
inductive RadioState where
  | unknown | up | down | flapping
  deriving DecidableEq

/-- `snmp_radio_control_state`. -/
inductive SnmpState where
  | none' | recentChange | radioDown | radioRecovered | frequentSwitching
  deriving DecidableEq

/-- `correlation_confidence`. -/
inductive Confidence where
  | unconfirmed | medium | high
  deriving DecidableEq

/-- A row of `ground_unattended_radio_interface_states`, with the defaults of its columns. -/
structure InterfaceState where
  deviceUuid : String
  trainId : String := ""
  mrRole : String := ""
  interfaceName : String
  currentState : RadioState := .unknown
  stableState : RadioState := .unknown
  previousState : RadioState := .unknown
  lastChangedAt : String := ""
  downSince : String := ""
  lastUpAt : String := ""
  lastDownAt : String := ""
  latestOutageDurationMs : Option Int := none
  transitionCount5m : Nat := 0
  snmpRelatedTransitionCount5m : Nat := 0
  transitionTimes : List String := []
  snmpTransitionTimes : List String := []
  snmpTransitionEventIds : List Nat := []
  lastCfgEventIndex : String := ""
  lastCommandSource : String := ""
  correlationConfidence : Confidence := .unconfirmed
  lastEventId : Option Nat := none
  lastDownEventId : Option Nat := none
  lastUpEventId : Option Nat := none
  deriving DecidableEq

/-- A row of `ground_unattended_mr_runtime_states`, with the defaults of its columns. -/
structure MrRuntimeState where
  deviceUuid : String
  trainId : String := ""
  mrRole : String := ""
  radioOverallState : RadioState := .unknown
  snmpRadioControlState : SnmpState := .none'
  lastRadioEventAt : String := ""
  lastCfgEventAt : String := ""
  lastCfgEventIndex : String := ""
  lastCommandSource : String := ""
  lastConfigSource : String := ""
  lastConfigDestination : String := ""
  lastCfgEventId : Option Nat := none
  lastCorrelationConfidence : Confidence := .unconfirmed
  lastSnmpControlAt : String := ""
  deriving DecidableEq

/-- A row of `ground_unattended_radio_correlations`. -/
structure Correlation where
  (runId deviceUuid trainId mrRole interfaceName : String)
  (cfgEventId ifnetEventId : Nat)
  deltaMs : Int
  confidence : Confidence
  deriving DecidableEq

def InterfaceState.key (state : InterfaceState) : String × String :=
  (state.deviceUuid, state.interfaceName)

def Correlation.key (correlation : Correlation) : Nat × Nat :=
  (correlation.cfgEventId, correlation.ifnetEventId)

/-- The tables that are projected from the control events. -/
structure Projections where
  interfaces : List InterfaceState
  runtimes : List MrRuntimeState
  correlations : List Correlation
  deriving DecidableEq

def Projections.empty : Projections := ⟨[], [], []⟩

/-- The control events and what is projected from them. -/
structure RadioStore where
  events : List ControlEvent
  lastId : Nat
  projections : Projections

/-- `get_radio_interface_state`. -/
def Projections.interfaceState (tables : Projections) (deviceUuid interfaceName : String) :
    Option InterfaceState :=
  rowAt InterfaceState.key tables.interfaces (deviceUuid, interfaceName)

/-- `upsert_radio_interface_state`. -/
def Projections.upsertInterface (tables : Projections) (state : InterfaceState) : Projections :=
  { tables with interfaces := upsertRow InterfaceState.key tables.interfaces state }

/-- `list_radio_interface_states`, whose order is not read. -/
def Projections.interfacesOf (tables : Projections) (deviceUuid : String) : List InterfaceState :=
  ownedRows InterfaceState.deviceUuid tables.interfaces deviceUuid

/-- `get_mr_runtime_state`. -/
def Projections.runtimeState (tables : Projections) (deviceUuid : String) : Option MrRuntimeState :=
  rowAt MrRuntimeState.deviceUuid tables.runtimes deviceUuid

/-- `upsert_mr_runtime_state`. -/
def Projections.upsertRuntime (tables : Projections) (state : MrRuntimeState) : Projections :=
  { tables with runtimes := upsertRow MrRuntimeState.deviceUuid tables.runtimes state }

/-- A correlation of these events has been inserted. -/
def Projections.hasCorrelation (tables : Projections) (cfgEventId ifnetEventId : Nat) : Bool :=
  hasRow Correlation.key tables.correlations (cfgEventId, ifnetEventId)

/-- `insert_radio_correlation`, without its answer. -/
def Projections.insertCorrelation (tables : Projections) (correlation : Correlation) :
    Projections :=
  { tables with correlations := insertRow Correlation.key tables.correlations correlation }

/-- `clear_radio_projections`. -/
def Projections.clear (tables : Projections) (deviceUuid : String) : Projections :=
  if deviceUuid = "" then .empty
  else {
    interfaces := tables.interfaces.filter (·.deviceUuid ≠ deviceUuid)
    runtimes := tables.runtimes.filter (·.deviceUuid ≠ deviceUuid)
    correlations := tables.correlations.filter (·.deviceUuid ≠ deviceUuid) }

/-! ## Queries of the events -/

/-- `ORDER BY event_time, receive_time, id`. -/
def ControlEvent.timeKey (event : ControlEvent) : Lex (String × Lex (String × Nat)) :=
  toLex (event.eventTime, toLex (event.receiveTime, event.id))

/-- The events of a device, or of a run of it. -/
def listControlEvents (events : List ControlEvent) (deviceUuid runId : String) :
    List ControlEvent :=
  (events.filter fun event =>
      (deviceUuid = "" ∨ event.deviceUuid = deviceUuid) ∧
        (runId = "" ∨ event.runId = runId)).mergeSort
    fun one two => decide (one.timeKey ≤ two.timeKey)

variable (lib : RadioLibrary)

def maxCorrelationSeconds : ℚ := 10

/-- An event of a family of a device at most ten seconds from a time. -/
def isNearby (deviceUuid : String) (family : ControlFamily) (eventTime : String)
    (event : ControlEvent) : Bool :=
  decide (event.deviceUuid = deviceUuid ∧ event.family = family ∧ event.eventTime ≠ "") &&
    (lib.julianSeconds event.eventTime eventTime).any (· ≤ maxCorrelationSeconds)

/-- `ORDER BY ABS((julianday(event_time)-julianday(?))*86400.0), id`. -/
def ControlEvent.nearKey (eventTime : String) (event : ControlEvent) : Lex (ℚ × Nat) :=
  toLex ((lib.julianSeconds event.eventTime eventTime).getD 0, event.id)

/-- `find_control_events`, with `MAX_CORRELATION_SECONDS`. -/
def findControlEvents (events : List ControlEvent) (deviceUuid : String)
    (family : ControlFamily) (eventTime : String) : List ControlEvent :=
  (events.filter (isNearby lib deviceUuid family eventTime)).mergeSort
    fun one two => decide (one.nearKey lib eventTime ≤ two.nearKey lib eventTime)

end NetConsole.Radio
