import NetConsole.Worker.Protocol

/-!
# AP topology resolution

`resolve_ap_topology`: every field of an AP is resolved on its own, from the
first source of its priorities that has a value. The station of a switch that
LLDP reports comes first, but counts only when the evidence is valid, names a
switch and is in no conflict.
-/

set_option autoImplicit false

namespace NetConsole.ApIdentity

open Worker (strip)

def stripText (text : String) : String := String.ofList (strip text.toList)

/-- `tuple(dict.fromkeys(texts))`. -/
def firstOfEach (texts : List String) : List String := texts.eraseDups

/-- The fields of an AP that every source may know. -/
structure PlaceEvidence where
  (station section_ location mileage direction belongType : String)
  deriving DecidableEq

def PlaceEvidence.unknown : PlaceEvidence := ⟨"", "", "", "", "", ""⟩

/-- What each source says of the place. -/
structure ApTopologyEvidence where
  (lldpValid lldpConflict lldpSwitchConflict : Bool)
  (lldpSwitchUuid lldpStationId lldpStation : String)
  (fitAp device acRuntime base legacy : PlaceEvidence)

/-- A resolved value, its source and its confidence. -/
structure ResolvedTopologyField where
  (value source : String)
  confidence : Nat
  deriving DecidableEq

/-- The resolved place of an access point. -/
structure ResolvedApTopology where
  (station section_ location mileage direction belongType : ResolvedTopologyField)
  warnings : List String
  deriving DecidableEq

/-- How much a source is trusted. -/
def sourceConfidence (source : String) : Nat :=
  if source = "lldp_switch" then 100
  else if source = "fit_ap_runtime" then 90
  else if source = "device_management" then 80
  else if source = "ac_runtime" then 70
  else if source = "base_data" then 60
  else if source = "legacy" then 30
  else 0

/-- `_resolve_field`: the first source of the priorities that has a value. -/
def resolveField : List (String × String) → ResolvedTopologyField
  | [] => ⟨"", "unresolved", 0⟩
  | (source, held) :: rest =>
    if stripText held ≠ "" then ⟨stripText held, source, sourceConfidence source⟩
    else resolveField rest

/-- `_STATION_PRIORITY`; a switch is left out where LLDP is not allowed. -/
def stationPriority (evidence : ApTopologyEvidence) (lldpAllowed : Bool) : List (String × String) :=
  (if lldpAllowed then [("lldp_switch", evidence.lldpStation)] else []) ++
    [("fit_ap_runtime", evidence.fitAp.station), ("device_management", evidence.device.station),
      ("ac_runtime", evidence.acRuntime.station), ("base_data", evidence.base.station),
      ("legacy", evidence.legacy.station)]

/-- What the sources say, in their order. -/
def fieldPriority (evidence : ApTopologyEvidence) (field : PlaceEvidence → String) :
    List (String × String) :=
  [("device_management", field evidence.device), ("fit_ap_runtime", field evidence.fitAp),
    ("ac_runtime", field evidence.acRuntime), ("base_data", field evidence.base),
    ("legacy", field evidence.legacy)]

/-- A warning when its condition holds. -/
def warnWhen (condition : Bool) (warning : String) : List String :=
  if condition then [warning] else []

/-- Both stations are known, and not the same. -/
def stationsDiffer (first second : String) : Bool :=
  first != "" && second != "" && stripText first != stripText second

/-- The warnings of the evidence, as they are found. -/
def topologyWarnings (evidence : ApTopologyEvidence) : List String :=
  let stationMissing := evidence.lldpValid && stripText evidence.lldpStation == ""
  warnWhen evidence.lldpConflict "topology_lldp_ambiguous" ++
    warnWhen evidence.lldpSwitchConflict "topology_lldp_multiple_switches" ++
    warnWhen stationMissing "switch_station_missing" ++
    warnWhen (stationMissing && stripText evidence.lldpStationId != "") "station_id_unresolved" ++
    warnWhen (evidence.lldpValid && stationsDiffer evidence.lldpStation evidence.base.station)
      "topology_lldp_base_conflict" ++
    warnWhen (evidence.lldpValid && stationsDiffer evidence.lldpStation evidence.fitAp.station)
      "topology_lldp_fit_ap_conflict" ++
    warnWhen (stationsDiffer evidence.fitAp.station evidence.base.station)
      "topology_runtime_base_conflict"

/-- `resolve_ap_topology`. -/
def resolveApTopology (evidence : ApTopologyEvidence) : ResolvedApTopology :=
  let lldpAllowed :=
    evidence.lldpValid && !evidence.lldpConflict && stripText evidence.lldpSwitchUuid != ""
  { station := resolveField (stationPriority evidence lldpAllowed)
    section_ := resolveField (fieldPriority evidence (·.section_))
    location := resolveField (fieldPriority evidence (·.location))
    mileage := resolveField (fieldPriority evidence (·.mileage))
    direction := resolveField (fieldPriority evidence (·.direction))
    belongType := resolveField (fieldPriority evidence (·.belongType))
    warnings := firstOfEach (topologyWarnings evidence) }

end NetConsole.ApIdentity
