import NetConsole.ApIdentity.OrderIndependence
import NetConsole.Eligibility.Classification
import NetConsole.Foundations.FallibleMaps

/-!
# What the classification of a train implies

A train that may be collected from deeply is on the main line, is pinged and has not been at
its AP for too long; a train that is pinged has a representative row that is online and fresh, a
known AP and an end to ping (`classifiedTrain_lawful`).

That the ends to ping are themselves fresh, and that no end is passed over as offline while a
row of it is online and fresh, depends on the rows: an end is read from its first row, and of
that row only the online state is looked at. So both hold exactly when the first rows allow it
(`lawful_iff_firstRowsDecide`).
-/

set_option autoImplicit false

namespace NetConsole.Eligibility

open ApIdentity (stripText)
open Foundations List
open Worker (PythonError)

variable {DateTime : Type} (lib : ClassifierLibrary DateTime)

/-! ## Decisions -/

/-- The row is online, and its data are fresh. -/
def AcMeshMrStatus.Current (row : AcMeshMrStatus) : Prop :=
  row.onlineStatus = "online" ∧ row.dataStatus = "fresh"

/-- The place of a train allows that it is pinged. -/
def PingPlace (input : ClassifierInput DateTime) (place : TrainPlace) : Prop :=
  (∃ row, place.row = some row ∧ row.Current) ∧ place.location.ap.isSome = true ∧
    (((depotPingStatus place.resolved.locationClass).isSome = true ∧
        input.pingDepotTrainsEnabled = true) ∨
      (place.resolved.locationClass = .mainline ∧ place.resolved.participates = true))

/-- What a decision of `_eligibility` implies. -/
structure DecisionLaws (decision : EligibilityDecision) (place : TrainPlace)
    (threshold : Int) : Prop where
  deep : decision.deepCollectionEligible = true → decision.mainlineEligible = true ∧
    decision.pingEligible = true ∧ decision.locationClass = .mainline ∧
    place.sameApSeconds < threshold
  offline : decision.status = .offline → ∀ row, place.row = some row → row.onlineStatus ≠ "online"

variable {place : TrainPlace} {status : EligibilityStatus}

theorem DecisionLaws.excluded {reason pingReason deepReason : String}
    {locationClass : LocationClass} {threshold : Int}
    (offline : status = .offline → ∀ row, place.row = some row → row.onlineStatus ≠ "online") :
    DecisionLaws (.excluded status reason locationClass pingReason deepReason) place threshold :=
  ⟨nofun, offline⟩

theorem depotPingStatus_ne_offline {locationClass : TracksideApLocationClass}
    (found : depotPingStatus locationClass = some status) : status ≠ .offline := by
  cases locationClass with
  | depot | parkingYard | stabling =>
    cases found
    decide
  | mainline | depotConnection | testTrack | nonMainline | unknown => cases found

/-- The depot classes are none of the main line. -/
theorem depotPingStatus_mainline : depotPingStatus .mainline = none := rfl

theorem placedEligibility_laws (place : TrainPlace) (threshold : Int) (enabled : Bool) :
    DecisionLaws (placedEligibility place.resolved place.sameApSeconds threshold enabled) place
      threshold := by
  unfold placedEligibility
  cases depot : depotPingStatus place.resolved.locationClass with
  | some status =>
    have known := depotPingStatus_ne_offline depot
    cases enabled with
    | true => exact ⟨nofun, fun away => absurd away known⟩
    | false => exact .excluded fun away => absurd away known
  | none =>
    dsimp only
    split
    · exact .excluded nofun
    · split
      · refine .excluded fun away => ?_
        split at away <;> cases away
      · split
        · exact ⟨nofun, nofun⟩
        · next short => exact ⟨fun _ => ⟨rfl, rfl, rfl, by omega⟩, nofun⟩

theorem placedEligibility_ping_iff (place : TrainPlace) (threshold : Int) (enabled : Bool) :
    (placedEligibility place.resolved place.sameApSeconds threshold enabled).pingEligible = true ↔
      ((depotPingStatus place.resolved.locationClass).isSome = true ∧ enabled = true) ∨
        (place.resolved.locationClass = .mainline ∧ place.resolved.participates = true) := by
  unfold placedEligibility
  cases depot : depotPingStatus place.resolved.locationClass with
  | some status =>
    have yard : place.resolved.locationClass ≠ .mainline := by
      intro main
      rw [main, depotPingStatus_mainline] at depot
      cases depot
    cases enabled <;> simp [yard, EligibilityDecision.excluded]
  | none =>
    dsimp only
    by_cases main : place.resolved.locationClass = .mainline ∧ place.resolved.participates = true
    · have known : place.resolved.locationClass ≠ .unknown := by simp [main.1]
      rw [if_neg known, if_neg (by simp [main])]
      split <;> simp [main]
    · have away : place.resolved.locationClass ≠ .mainline ∨ !place.resolved.participates :=
        (not_and_or.mp main).imp id fun not => by simpa using not
      split <;> simp [main, EligibilityDecision.excluded]

variable {lib}

/-- The decision of `_eligibility` for a place. -/
def placeDecision (input : ClassifierInput DateTime) (place : TrainPlace) : EligibilityDecision :=
  eligibility place.resolved place.location place.row place.sameApSeconds (stationarySeconds input)
    input.pingDepotTrainsEnabled

theorem placeDecision_laws (input : ClassifierInput DateTime) (place : TrainPlace) :
    DecisionLaws (placeDecision input place) place (stationarySeconds input) := by
  unfold placeDecision eligibility
  cases held : place.row with
  | none => exact .excluded nofun
  | some row =>
    dsimp only
    split
    · exact .excluded nofun
    · split
      · exact .excluded nofun
      · split
        · next away =>
          refine .excluded fun _ other found => ?_
          obtain rfl := Option.some.inj (held.symm.trans found)
          exact away
        · split
          · exact .excluded nofun
          · exact placedEligibility_laws ..

theorem placeDecision_ping_iff (input : ClassifierInput DateTime) (place : TrainPlace) :
    (placeDecision input place).pingEligible = true ↔ PingPlace input place := by
  unfold placeDecision eligibility PingPlace AcMeshMrStatus.Current
  cases place.row with
  | none => simp [EligibilityDecision.excluded]
  | some row =>
    dsimp only
    by_cases current : row.onlineStatus = "online" ∧ row.dataStatus = "fresh"
    · obtain ⟨online, fresh⟩ := current
      rw [if_neg (by simp [fresh]), if_neg (by simp [online, fresh]), if_neg (by simp [online])]
      by_cases placed : place.location.ap.isSome = true
      · rw [if_neg (by simpa [Option.isSome_iff_ne_none] using placed), placedEligibility_ping_iff]
        simp [online, fresh, placed]
      · rw [if_pos (by simpa using placed)]
        simp [placed, EligibilityDecision.excluded]
    · have none : ¬((∃ other, some row = some other ∧ other.onlineStatus = "online" ∧
          other.dataStatus = "fresh")) := by
        rintro ⟨other, same, stands⟩
        cases same
        exact current stands
      refine iff_of_false ?_ fun stands => none stands.1
      split
      · simp [EligibilityDecision.excluded]
      · split
        · simp [EligibilityDecision.excluded]
        · next fresh =>
          rw [if_pos fun online => current ⟨online, by simp_all⟩]
          simp [EligibilityDecision.excluded]

/-! ## The ends -/

variable (lib) in
/-- An end of a train, and both of them. -/
def trainEnd (input : ClassifierInput DateTime) (key : String) (endpoint : EndpointCode) :
    GroundEndpoint :=
  endpointOf lib (trainMrs lib input key) (trainRows lib input key) endpoint

variable (lib) in
def trainEnds (input : ClassifierInput DateTime) (key : String) : List GroundEndpoint :=
  endpoints lib (trainMrs lib input key) (trainRows lib input key)

variable (lib) in
/-- The row that an end of a train is read from. -/
def firstRow (input : ClassifierInput DateTime) (key : String) (endpoint : EndpointCode) :
    Option AcMeshMrStatus :=
  endpointRow lib (trainRows lib input key) endpoint

variable (lib) in
/-- The address of an end that is read from the row can be pinged. -/
def AddressGood (input : ClassifierInput DateTime) (key : String) (endpoint : EndpointCode)
    (row : AcMeshMrStatus) : Prop :=
  validManagementIp (endpointAddress
    ((trainMrs lib input key).find? fun item => item.mrPositionCode = some endpoint)
    (some row)) = true

variable {input : ClassifierInput DateTime} {key : String} {endpoint : EndpointCode}

section

variable {row : AcMeshMrStatus}

theorem firstRow_mem (first : firstRow lib input key endpoint = some row)
    : row ∈ trainRows lib input key :=
  mem_of_find?_eq_some first

theorem mem_trainEnds {shown : GroundEndpoint} : shown ∈ trainEnds lib input key ↔
      ∃ endpoint, trainEnd lib input key endpoint = shown := by
  unfold trainEnds endpoints
  rw [mem_map]
  constructor
  · exact fun ⟨endpoint, _, same⟩ => ⟨endpoint, same⟩
  · rintro ⟨endpoint, same⟩
    refine ⟨endpoint, ?_, same⟩
    cases endpoint <;> decide

theorem trainEnd_target_iff : (trainEnd lib input key endpoint).pingTargetEligible = true ↔
      (trainEnd lib input key endpoint).onlineStatus = "ONLINE" ∧
        validManagementIp (trainEnd lib input key endpoint).managementIp = true := by
  unfold trainEnd endpointOf
  simp

theorem trainEnd_online_iff : (trainEnd lib input key endpoint).onlineStatus = "ONLINE" ↔
      ∃ row, firstRow lib input key endpoint = some row ∧ shownStatus lib row = "ONLINE" := by
  show ((firstRow _ input key endpoint).map (shownStatus _)).getD "UNKNOWN" = "ONLINE" ↔ _
  cases firstRow _ input key endpoint with
  | none => simp
  | some row => simp

theorem trainEnd_address_iff (first : firstRow lib input key endpoint = some row) :
    validManagementIp (trainEnd lib input key endpoint).managementIp = true ↔
      AddressGood lib input key endpoint row := by
  unfold AddressGood
  rw [← first]
  rfl

/-- What the ends leave of a decision. -/
structure EndpointsLaws (decision settled : EligibilityDecision) (ends : List GroundEndpoint) :
    Prop where
  deep : settled.deepCollectionEligible = true → settled = decision
  ping : settled.pingEligible = true ↔ decision.pingEligible = true ∧
    ∃ shown ∈ ends, shown.pingTargetEligible = true
  offline : settled.status = .offline → decision.status = .offline ∨
    ∀ shown ∈ ends, shown.onlineStatus ≠ "ONLINE"

theorem decisionForEndpoints_laws {decision : EligibilityDecision} {ends : List GroundEndpoint}
    (targets : ∀ shown ∈ ends, shown.pingTargetEligible = true → shown.onlineStatus = "ONLINE") :
    EndpointsLaws decision (decisionForEndpoints decision ends) ends := by
  unfold decisionForEndpoints
  split
  · next gone =>
    have none : ¬∃ shown ∈ ends, shown.onlineStatus = "ONLINE" := by
      simpa using gone.2
    refine ⟨nofun, ⟨nofun, ?_⟩,
      fun _ => .inr fun shown listed online => none ⟨shown, listed, online⟩⟩
    rintro ⟨-, shown, listed, target⟩
    exact absurd ⟨shown, listed, targets shown listed target⟩ none
  · next stays =>
    split
    · next unaddressed =>
      have none : ¬∃ shown ∈ ends, shown.pingTargetEligible = true := by
        simpa using unaddressed.1
      exact ⟨nofun, ⟨nofun, fun pinged => absurd pinged.2 none⟩, .inl⟩
    · next addressed =>
      refine ⟨fun _ => rfl, ⟨fun pinged => ⟨pinged, ?_⟩, And.left⟩, .inl⟩
      by_contra none
      exact addressed ⟨by simpa using none, pinged⟩

/-! ## The representative row -/

theorem foldl_choose_mem {α : Type} (better : α → α → Prop) [DecidableRel better] (first : α)
    (rest : List α) :
    rest.foldl (fun best item => if better best item then item else best)
      first ∈ first :: rest := by
  induction rest generalizing first with
  | nil => exact mem_singleton_self first
  | cons item rest ih =>
    rw [foldl_cons]
    rcases mem_cons.mp (ih (if better first item then item else first)) with same | later
    · rw [same]
      split
      · exact mem_cons_of_mem first mem_cons_self
      · exact mem_cons_self
    · exact mem_cons_of_mem first (mem_cons_of_mem item later)

theorem representativeRow_online {rows : List AcMeshMrStatus}
    (mem : row ∈ rows) (online : row.onlineStatus = "online") :
    ∃ chosen, representativeRow rows = some chosen ∧ chosen.onlineStatus = "online" := by
  have listed : row ∈ rows.filter (·.onlineStatus = "online") :=
    mem_filter.mpr ⟨mem, decide_eq_true online⟩
  unfold representativeRow
  cases candidates : rows.filter (·.onlineStatus = "online") with
  | nil => exact absurd (candidates ▸ listed) not_mem_nil
  | cons first rest =>
    have chosen := foldl_choose_mem
      (fun latest item : AcMeshMrStatus => latest.lastSeenAt < item.lastSeenAt) first rest
    rw [← candidates] at chosen
    exact ⟨_, rfl, of_decide_eq_true (mem_filter.mp chosen).2⟩

end

/-! ## A classified train -/

variable (lib) in
/-- What is to hold of a train that was classified. -/
structure Lawful (input : ClassifierInput DateTime) (key : String) (place : TrainPlace)
    (train : GroundTrain) : Prop where
  deep : train.deepCollectionEligible = true → train.mainlineEligible = true ∧
    train.pingEligible = true ∧ train.locationClass = .mainline ∧
    train.sameApDurationSeconds < stationarySeconds input
  representative : train.pingEligible = true →
    ∃ row, representativeRow (trainRows lib input key) = some row ∧ row.Current
  resolved : train.pingEligible = true →
    ∃ ap, place.location.ap = some ap ∧ train.resolvedApId = ap.id
  target : train.pingEligible = true → ∃ shown ∈ train.endpoints, shown.pingTargetEligible = true
  targets : train.pingEligible = true → ∀ shown ∈ train.endpoints,
    shown.pingTargetEligible = true →
      (∃ octets, ipv4Octets (stripText shown.managementIp) = some octets ∧
        isUnicastAddress octets = true) ∧
      ∃ row, firstRow lib input key shown.endpoint = some row ∧ row.Current
  online : ∀ row ∈ trainRows lib input key, row.Current → ∀ shown ∈ train.endpoints,
    isAtEnd lib shown.endpoint row = true →
      shown.onlineStatus = "ONLINE" ∧ train.eligibilityStatus ≠ .offline

variable (lib) in
/-- The first row of an end decides well: where the train may be pinged, it is not online with
a good address without being current, and it is online if some row of the end is current. -/
structure FirstRowsDecide (input : ClassifierInput DateTime) (key : String) (place : TrainPlace) :
    Prop where
  current : PingPlace input place → ∀ endpoint first,
    firstRow lib input key endpoint = some first → shownStatus lib first = "ONLINE" →
      AddressGood lib input key endpoint first → first.Current
  online : ∀ row ∈ trainRows lib input key, row.Current → ∀ endpoint first,
    isAtEnd lib endpoint row = true → firstRow lib input key endpoint = some first →
      shownStatus lib first = "ONLINE"

variable (lib) in
theorem classifiedTrain_laws (input : ClassifierInput DateTime) (key : String)
    (place : TrainPlace) : EndpointsLaws (placeDecision input place)
      (decisionForEndpoints (placeDecision input place) (trainEnds lib input key))
      (trainEnds lib input key) := by
  apply decisionForEndpoints_laws
  intro shown listed target
  obtain ⟨_, rfl⟩ := mem_trainEnds.mp listed
  exact (trainEnd_target_iff.mp target).1

theorem firstRowsDecide_of_lawful
    (lawful : Lawful lib input key place (classifiedTrain lib input key place)) :
    FirstRowsDecide lib input key place := by
  have ends := classifiedTrain_laws lib input key place
  have listed : ∀ endpoint, trainEnd lib input key endpoint ∈ trainEnds lib input key :=
    fun endpoint => mem_trainEnds.mpr ⟨endpoint, rfl⟩
  constructor
  · intro allowed endpoint first found online good
    have target : (trainEnd lib input key endpoint).pingTargetEligible = true :=
      trainEnd_target_iff.mpr
        ⟨trainEnd_online_iff.mpr ⟨first, found, online⟩, (trainEnd_address_iff found).mpr good⟩
    have pinged : (classifiedTrain lib input key place).pingEligible = true :=
      ends.ping.mpr ⟨(placeDecision_ping_iff input place).mpr allowed, _, listed endpoint, target⟩
    obtain ⟨-, other, same, current⟩ := lawful.targets pinged _ (listed endpoint) target
    obtain rfl := Option.some.inj (found.symm.trans same)
    exact current
  · intro row mem current endpoint first atEnd found
    obtain ⟨shown, -⟩ := lawful.online row mem current _ (listed endpoint) atEnd
    obtain ⟨other, same, online⟩ := trainEnd_online_iff.mp shown
    obtain rfl := Option.some.inj (found.symm.trans same)
    exact online

theorem lawful_of_firstRowsDecide
    (representative : place.row = representativeRow (trainRows lib input key))
    (decides : FirstRowsDecide lib input key place) :
    Lawful lib input key place (classifiedTrain lib input key place) := by
  have ends := classifiedTrain_laws lib input key place
  have laws := placeDecision_laws input place
  have allowed : (classifiedTrain lib input key place).pingEligible = true →
      PingPlace input place := fun pinged =>
    (placeDecision_ping_iff input place).mp (ends.ping.mp pinged).1
  constructor
  · intro deep
    have same : decisionForEndpoints (placeDecision input place) (trainEnds lib input key) =
        placeDecision input place := ends.deep deep
    have implied := laws.deep (same ▸ deep)
    rw [← same] at implied
    exact implied
  · intro pinged
    obtain ⟨⟨row, held, current⟩, -⟩ := allowed pinged
    exact ⟨row, representative ▸ held, current⟩
  · intro pinged
    obtain ⟨-, placed, -⟩ := allowed pinged
    obtain ⟨ap, found⟩ := Option.isSome_iff_exists.mp placed
    refine ⟨ap, found, ?_⟩
    show (place.location.ap.map (·.id)).getD "" = ap.id
    rw [found]
    rfl
  · exact fun pinged => (ends.ping.mp pinged).2
  · intro pinged shown listed target
    obtain ⟨endpoint, rfl⟩ := mem_trainEnds.mp listed
    obtain ⟨online, good⟩ := trainEnd_target_iff.mp target
    obtain ⟨first, found, seen⟩ := trainEnd_online_iff.mp online
    refine ⟨(Option.any_eq_true ..).mp good, first, found, ?_⟩
    exact decides.current (allowed pinged) endpoint first found seen
      ((trainEnd_address_iff found).mp good)
  · intro row mem current shown listed atEnd
    obtain ⟨endpoint, rfl⟩ := mem_trainEnds.mp listed
    obtain ⟨first, found⟩ : ∃ first, firstRow lib input key endpoint = some first :=
      Option.isSome_iff_exists.mp (List.find?_isSome.mpr ⟨row, mem, atEnd⟩)
    have online : (trainEnd lib input key endpoint).onlineStatus = "ONLINE" :=
      trainEnd_online_iff.mpr
        ⟨first, found, decides.online row mem current endpoint first atEnd found⟩
    refine ⟨online, fun away => ?_⟩
    rcases ends.offline away with offline | none
    · -- the representative row is online, as one of the rows is
      obtain ⟨chosen, held, stands⟩ := representativeRow_online mem current.1
      exact laws.offline offline chosen (representative.trans held) stands
    · exact none _ listed online

/-! ## All trains -/

variable (lib) in
/-- The place of a train in a classification. -/
def PlacedAt (service : IdentityService) (input : ClassifierInput DateTime) (key : String)
    (place : TrainPlace) : Prop :=
  ∃ identity, identityMatches lib service input = .ok identity ∧
    trainPlace lib input identity key = .ok place

variable {service : IdentityService}

theorem PlacedAt.unique {one two : TrainPlace} (first : PlacedAt lib service input key one)
    (second : PlacedAt lib service input key two) : one = two := by
  obtain ⟨_, identified, placed⟩ := first
  obtain ⟨other, again, also⟩ := second
  obtain rfl := Except.ok.inj (identified.symm.trans again)
  exact Except.ok.inj (placed.symm.trans also)

theorem PlacedAt.row (placed : PlacedAt lib service input key place) :
    place.row = representativeRow (trainRows lib input key) := by
  obtain ⟨_, -, placed⟩ := placed
  obtain ⟨location, -, placed⟩ := bind_eq_ok.mp placed
  obtain ⟨⟨_, _⟩, -, placed⟩ := bind_eq_ok.mp placed
  obtain ⟨resolved, -, placed⟩ := bind_eq_ok.mp placed
  cases placed
  rfl

theorem classifyAll_results {results : List ClassificationResult}
    (ran : classifyAll lib service input = .ok results) :
    List.Forall₂ (fun key result => ∃ place, PlacedAt lib service input key place ∧
      result.train = classifiedTrain lib input key place) (trainKeys lib input) results := by
  obtain ⟨identity, identified, each⟩ := bind_eq_ok.mp ran
  refine (mapM_eq_ok_iff.mp each).imp fun key result classified => ?_
  obtain ⟨place, placed, same⟩ := bind_eq_ok.mp classified
  cases same
  exact ⟨place, ⟨identity, identified, placed⟩, rfl⟩

/-- What a classification implies of its trains holds of all of them exactly when the first row
of every end decides well. -/
theorem lawful_iff_firstRowsDecide (service : IdentityService) (input : ClassifierInput DateTime)
    (results : List ClassificationResult) (ran : classifyAll lib service input = .ok results) :
    List.Forall₂ (fun key result => ∃ place, PlacedAt lib service input key place ∧
        Lawful lib input key place result.train) (trainKeys lib input) results ↔
      ∀ key ∈ trainKeys lib input, ∀ place, PlacedAt lib service input key place →
        FirstRowsDecide lib input key place := by
  have each := classifyAll_results ran
  clear ran
  generalize trainKeys _ input = keys at each ⊢
  induction each with
  | nil => simp
  | @cons key result keys results first rest ih =>
    obtain ⟨place, placed, train⟩ := first
    rw [List.forall₂_cons, forall_mem_cons]
    refine and_congr ?_ ih
    constructor
    · rintro ⟨_, stands, lawful⟩ there here
      obtain rfl := placed.unique stands
      obtain rfl := placed.unique here
      rw [train] at lawful
      exact firstRowsDecide_of_lawful lawful
    · intro decides
      refine ⟨place, placed, ?_⟩
      rw [train]
      exact lawful_of_firstRowsDecide placed.row (decides place placed)

/-! ## A train with stale data -/

/-- A library for ASCII texts and train "01". -/
def sampleLibrary : ClassifierLibrary Unit where
  python := ApIdentity.asciiLibrary
  nfkc text := text
  canonicalStationName text := text
  canonicalTrainId _ := "train:01"
  fromIsoformat _ := none
  isAware _ := true
  withZoneOf time _ := time
  elapsedSeconds _ _ := 0
  isoformatMilliseconds _ := "2024-05-01T08:00:00.000+08:00"

def sampleRow (carEnd address dataStatus : String) : AcMeshMrStatus where
  mrId := carEnd
  trainNo := "01"
  carEnd := carEnd
  mrName := carEnd
  mrDeviceId := ""
  managementIp := address
  onlineStatus := "online"
  peerApId := "ap-1"
  peerApName := "AP 1"
  peerApMac := ""
  rssi := none
  station := ""
  sectionName := ""
  mileage := ""
  lastSeenAt := "08:00"
  dataStatus := dataStatus

def sampleAp : TracksideAp where
  id := "ap-1"
  name := "AP 1"
  mac := ""
  station := ""
  sectionName := ""
  mileage := ""
  locationClass := .mainline
  participatesInMainline := true
  locationClassSource := "MANUAL"
  radios := []
  baseMetadata := []
  recordKind := "ap"

/-- A train with both ends online; the data of its CT end have the given status. -/
def sampleInput (dataStatus : String) : ClassifierInput Unit where
  mainPathCode := "MAIN"
  stations := []
  sections := []
  aps := [sampleAp]
  mrs := []
  acRows := [sampleRow "CW" "10.0.0.2" "fresh", sampleRow "CT" "10.0.0.1" dataStatus]
  trackers := []
  stationaryExclusionMinutes := 20
  now := ()
  pingDepotTrainsEnabled := false

def sampleCt (dataStatus : String) : AcMeshMrStatus := sampleRow "CT" "10.0.0.1" dataStatus

def sampleCw : AcMeshMrStatus := sampleRow "CW" "10.0.0.2" "fresh"

def samplePlace : TrainPlace where
  row := some sampleCw
  location :=
    { ap := some sampleAp, matchLevel := .apExact, matchReason := "通过 AP ID 精确匹配" }
  resolved := ⟨.mainline, "当前 AP 基础资料明确标记为 MAINLINE", true, "MANUAL"⟩
  tracker := ⟨"id:ap-1", "2024-05-01T08:00:00.000+08:00"⟩
  sameApSeconds := 0

variable (dataStatus : String)
include dataStatus

theorem sample_keys : trainKeys sampleLibrary (sampleInput dataStatus) = ["train:01"] := by
  have keys : ((((sampleInput dataStatus).mrs.map fun mr =>
        trainKey sampleLibrary (orText mr.trainId mr.trainNo)) ++
      (sampleInput dataStatus).acRows.map fun row => trainKey sampleLibrary row.trainNo).filter
        (· ≠ "")).eraseDups = ["train:01"] := rfl
  unfold trainKeys
  dsimp only
  rw [keys, mergeSort_singleton]

theorem sample_rows :
    trainRows sampleLibrary (sampleInput dataStatus) "train:01" = [sampleCw, sampleCt dataStatus] :=
  rfl

theorem sample_representative :
    representativeRow [sampleCw, sampleCt dataStatus] = some sampleCw := by
  exact congrArg some (if_neg (String.lt_irrefl "08:00"))

theorem sample_location :
    resolveLocation sampleLibrary (locationTables sampleLibrary (sampleInput dataStatus))
      (some sampleCw) none = .ok samplePlace.location := rfl

theorem sample_place :
    trainPlace sampleLibrary (sampleInput dataStatus) (fun _ => none) "train:01" =
      .ok samplePlace := by
  have tracked : ((sampleInput dataStatus).trackers.lookup
      (trainId sampleLibrary (sampleInput dataStatus) "train:01")).getD ⟨"", ""⟩ = ⟨"", ""⟩ := rfl
  unfold trainPlace
  dsimp only
  rw [sample_rows, sample_representative, tracked, Option.bind_some, sample_location]
  rfl

theorem sample_placedAt :
    PlacedAt sampleLibrary none (sampleInput dataStatus) "train:01" samplePlace :=
  ⟨fun _ => none, rfl, sample_place _⟩

/-- What the classification of the sample train gives. -/
def sampleResult (dataStatus : String) : ClassificationResult :=
  ⟨classifiedTrain sampleLibrary (sampleInput dataStatus) "train:01" samplePlace,
    samplePlace.tracker⟩

theorem sample_classifyAll :
    classifyAll sampleLibrary none (sampleInput dataStatus) = .ok [sampleResult dataStatus] := by
  refine bind_eq_ok.mpr ⟨fun _ => none, rfl, mapM_eq_ok_iff.mpr ?_⟩
  rw [sample_keys]
  exact .cons (bind_eq_ok.mpr ⟨samplePlace, sample_place _, rfl⟩) .nil

theorem sample_online {row : AcMeshMrStatus}
    (mem : row ∈ trainRows sampleLibrary (sampleInput dataStatus) "train:01") :
    shownStatus sampleLibrary row = "ONLINE" := by
  have upper : sampleLibrary.python.upper "online" = "ONLINE" := by decide
  rcases mem_cons.mp mem with rfl | other
  · exact upper
  · obtain rfl := mem_singleton.mp other
    exact upper

omit dataStatus

/-- Where the CT end is fresh, the train is lawful. -/
theorem lawful_fresh : List.Forall₂ (fun key result => ∃ place,
        PlacedAt sampleLibrary none (sampleInput "fresh") key place ∧
          Lawful sampleLibrary (sampleInput "fresh") key place result.train)
      (trainKeys sampleLibrary (sampleInput "fresh")) [sampleResult "fresh"] := by
  refine (lawful_iff_firstRowsDecide none (sampleInput "fresh") _ (sample_classifyAll "fresh")).mpr
    ?_
  intro key listed place placed
  rw [sample_keys, mem_singleton] at listed
  subst listed
  obtain rfl := placed.unique (sample_placedAt "fresh")
  constructor
  · intro _ endpoint first found _ _
    have mem := firstRow_mem found
    rw [sample_rows] at mem
    rcases mem_cons.mp mem with rfl | other
    · exact ⟨rfl, rfl⟩
    · obtain rfl := mem_singleton.mp other
      exact ⟨rfl, rfl⟩
  · intro _ _ _ endpoint first _ found
    exact sample_online "fresh" (firstRow_mem found)

/-- Where it is stale, its address is pinged all the same. -/
theorem not_lawful_stale :
    ¬∀ (lib : ClassifierLibrary Unit) (service : IdentityService) (input : ClassifierInput Unit)
      (results : List ClassificationResult), classifyAll lib service input = .ok results →
        List.Forall₂ (fun key result => ∃ place, PlacedAt lib service input key place ∧
          Lawful lib input key place result.train) (trainKeys lib input) results := by
  intro always
  have each := always sampleLibrary none (sampleInput "stale") _ (sample_classifyAll "stale")
  rw [sample_keys, List.forall₂_cons] at each
  obtain ⟨⟨place, placed, lawful⟩, -⟩ := each
  obtain rfl := placed.unique (sample_placedAt "stale")
  have decides := firstRowsDecide_of_lawful lawful
  have found : firstRow sampleLibrary (sampleInput "stale") "train:01" .ct =
      some (sampleCt "stale") := by
    have cw : isAtEnd sampleLibrary .ct sampleCw = false := by decide
    have ct : isAtEnd sampleLibrary .ct (sampleCt "stale") = true := by decide
    unfold firstRow endpointRow
    rw [sample_rows, List.find?_cons_of_neg (by simp [cw]), List.find?_cons_of_pos ct]
  have allowed : PingPlace (sampleInput "stale") samplePlace :=
    ⟨⟨sampleCw, rfl, rfl, rfl⟩, rfl, .inr ⟨rfl, rfl⟩⟩
  have good : AddressGood sampleLibrary (sampleInput "stale")
      "train:01" .ct (sampleCt "stale") := by
    show validManagementIp "10.0.0.1" = true
    decide
  have current := decides.current allowed .ct _ found
    (sample_online "stale" (firstRow_mem found)) good
  exact absurd current.2 (by decide)

end NetConsole.Eligibility
