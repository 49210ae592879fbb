import Mathlib.Data.Int.Notation

/-!
# Records of the eligibility classification

What the classifier of the ground monitoring writes for a train, and what the
supervisor reads of it. Texts of a fixed choice are enumerations.
-/

set_option autoImplicit false

namespace NetConsole.Eligibility

/-- `GroundEligibilityStatus`. -/
inductive EligibilityStatus
  | mainline
  | mainlineStationary
  | depot
  | parkingLot
  | storageTrack
  | nonMainPath
  | depotConnection
  | acStale
  | acUnknown
  | locationUndetermined
  | apUnmatched
  | offline
  deriving DecidableEq

/-- `GroundLocationClass`. -/
inductive LocationClass
  | mainline
  | depot
  | parkingYard
  | stabling
  | depotConnection
  | testTrack
  | nonMainline
  | offline
  | unknown
  deriving DecidableEq

/-- How an access point was matched. -/
inductive MatchLevel
  | apExact
  | apRegistry
  | apAlias
  | stationExact
  | stationAlias
  | unmatched
  deriving DecidableEq

/-- The ends of a train that have a radio, `Literal["CT", "CW"]`. -/
inductive EndpointCode
  | ct
  | cw
  deriving DecidableEq

def EndpointCode.text : EndpointCode → String
  | ct => "CT"
  | cw => "CW"

/-- `GroundUnattendedEndpointDTO`, as far as the classification writes it. -/
structure GroundEndpoint where
  endpoint : EndpointCode
  (mrId mrName : String)
  deviceId : Option Int
  (managementIp onlineStatus : String)
  pingTargetEligible : Bool
  pingExclusionReason : String
  deriving DecidableEq

/-- `GroundUnattendedTrainDTO`, as far as the classification and the policy of a
train write it. -/
structure GroundTrain where
  trainId : String
  trainNo : String := ""
  trainName : String := ""
  locationClass : LocationClass := .unknown
  locationClassSource : String := "UNDETERMINED"
  participatesInMainline : Bool := false
  mainlineEligible : Bool := false
  mainlineReasonCode : String := "NOT_EVALUATED"
  mainlineReasonText : String := "未评估"
  pingEligible : Bool := false
  pingReasonCode : String := "NOT_EVALUATED"
  pingReasonText : String := "未评估"
  deepCollectionEligible : Bool := false
  deepCollectionReasonCode : String := "NOT_EVALUATED"
  deepCollectionReasonText : String := "未评估"
  decisionRevision : Int := 0
  decisionSource : String := "NOT_EVALUATED"
  pingInclusionReason : String := ""
  pingExclusionReason : String := ""
  deepExclusionReason : String := ""
  eligibilityStatus : EligibilityStatus := .acUnknown
  exclusionReason : String := ""
  locationMatchLevel : MatchLevel := .unmatched
  locationMatchReason : String := ""
  resolvedApId : String := ""
  resolvedApName : String := ""
  rawPeerApName : String := ""
  rawPeerApMac : String := ""
  canonicalStationName : String := ""
  currentApName : String := ""
  currentApMac : String := ""
  station : String := ""
  sectionName : String := ""
  mileage : String := ""
  rssi : Option Int := none
  sameApDurationSeconds : Int := 0
  acSnapshotId : Option Int := none
  acReceivedAt : String := ""
  priority : Bool := false
  enabled : Bool := true
  schedulingPriority : Int := 0
  deepCollectionEnabled : Bool := true
  monitorOnly : Bool := false
  remark : String := ""
  inventoryStatus : String := "ACTIVE"
  endpoints : List GroundEndpoint := []
  updatedAt : String := ""
  deriving DecidableEq

/-- `StationaryTracker`: since when a train has been at its AP. -/
structure StationaryTracker where
  (apIdentity since : String)
  deriving DecidableEq

/-- A classified train, and its tracker from then on. -/
structure ClassificationResult where
  train : GroundTrain
  tracker : StationaryTracker
  deriving DecidableEq

end NetConsole.Eligibility
