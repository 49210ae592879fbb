import Mathlib.Data.Prod.Lex
import Mathlib.Data.String.Basic
import NetConsole.ApIdentity.Sources
import NetConsole.Foundations.SortedGroups

/-!
# The AP identity index

`build_ap_identity_index` groups the rows of the base data, of the ACs and of the
legacy cache, matches the groups with each other, and makes one entity of what
belongs together, with the MAC aliases and the conflicts it finds.

A group that matches is referred to by its place. The H3C prefixes of a build are
left out: the builder makes none. `digest` stands for the first 24 digits of the
SHA-256 of a text.
-/

set_option autoImplicit false

namespace NetConsole.ApIdentity

open Foundations (firstByKey sortedGroups)
open Worker (Event PythonLibrary)

/-! ## Records -/

/-- A row of the identity index. -/
structure ApIdentityEntityRecord where
  (entityId siteId effectiveApName effectiveApMacKey effectiveApMacDisplay
    effectiveStation : String)
  (effectiveSection effectivePointCode effectiveSerialNumber effectiveLocation : String)
  (effectiveMileage effectiveDirection effectiveBelongType stationSource sectionSource : String)
  (locationSource mileageSource directionSource belongTypeSource acApUuid acDeviceUuid : String)
  (acApName acApMacKey acStation acSection acUpdatedAt baseRecordId baseApName
    baseApMacKey : String)
  (baseStation baseSection baseUpdatedAt effectiveSource identityStatus dataQualityWarning : String)
  topologyWarning : String

/-- A MAC address that stands for an entity. -/
structure ApIdentityMacAliasRecord where
  (entityId siteId macKey macDisplay aliasType source : String)
  (matchPriority confidence : Nat)
  radioId : Option Nat
  derivationRule : String

/-- The two sides of a conflict. -/
structure ConflictDetails where
  (code acApName baseApName acStation baseStation acUpdatedAt baseUpdatedAt : String)

/-- A conflict between two sources of an entity. -/
structure ApIdentityConflictRecord where
  (entityId siteId conflictType acValue baseValue : String)
  details : ConflictDetails

/-- What the index builder returns. -/
structure ApIdentityIndexBuild where
  entities : List ApIdentityEntityRecord
  aliases : List ApIdentityMacAliasRecord
  conflicts : List ApIdentityConflictRecord
  (baseRecordCount acRecordCount : Nat)

variable (lib : PythonLibrary) (digest : String → String) (siteId : String)

/-! ## Grouping -/

/-- The name of the group that a source belongs to. -/
def groupName (item : SourceAp) : String :=
  if item.source ∈ ["ac_runtime", "legacy_cache"] ∧ item.apUuid ≠ "" then
    "uuid:" ++ lib.casefold item.apUuid
  else if item.apMacKey ≠ "" then "mac:" ++ item.apMacKey
  else "source:" ++ item.source ++ ":" ++ lib.casefold item.sourceId

/-- `_source_sort_key`: when a source was updated, how much it knows, its identifier. -/
def sourceSortKey (item : SourceAp) : String ×ₗ ℕ ×ₗ String :=
  toLex (item.updatedAt, toLex
    ([item.apMacKey, item.apName, item.place.station, item.place.section_,
      item.serialNumber].countP (· ≠ ""), item.sourceId))

/-- The rows of one source by access point. -/
def groupSources (rows : List SourceAp) : List (List SourceAp) :=
  sortedGroups (groupName lib) sourceSortKey rows

/-! ## Matching -/

/-- An identifier that a source may have. -/
def identifierOf (text : String) : Option String := if text ≠ "" then some text else none

/-- The places of the groups with a source that has an identifier, once for each
such source. -/
def targetIndexes (identifier : SourceAp → Option String) (targets : List (List SourceAp))
    (value : String) : List Nat :=
  targets.zipIdx.flatMap fun (group, index) =>
    (group.filter fun item => identifier item = some value).map fun _ => index

def singleIndex (values : List Nat) : Option Nat :=
  match values.eraseDups with
  | [index] => some index
  | _ => none

/-- The one group that has an identifier in common with the given one. -/
def matchBy (identifier : SourceAp → Option String) (targets : List (List SourceAp))
    (group : List SourceAp) : Option Nat :=
  singleIndex (group.flatMap fun item =>
    match identifier item with
    | some value => targetIndexes identifier targets value
    | none => [])

/-- The group that another one matches: by UUID, by MAC address, by serial number. -/
def matchGroup (targets : List (List SourceAp)) (group : List SourceAp) : Option Nat :=
  (matchBy (fun item => (identifierOf item.apUuid).map lib.casefold) targets group).or
    ((matchBy (fun item => identifierOf item.apMacKey) targets group).or
      (matchBy (fun item => (identifierOf item.serialNumber).map lib.casefold) targets group))

/-- `_match_groups`: for each group, the place of the one that it matches. -/
def matchGroups (sources targets : List (List SourceAp)) : List (Option Nat) :=
  sources.map (matchGroup lib targets)

/-- Where a legacy group goes. -/
inductive LegacyPlace where
  | ac (index : Nat)
  | base (index : Nat)
  | standalone
  deriving DecidableEq

/-- The place of a legacy group, given what it matches: an AC group, or the AC group
that its base group matches, or that base group, or none. -/
def legacyPlace (baseToAc : List (Option Nat)) : Option Nat → Option Nat → LegacyPlace
  | some acIndex, _ => .ac acIndex
  | none, none => .standalone
  | none, some baseIndex =>
    match (baseToAc[baseIndex]?).join with
    | some acIndex => .ac acIndex
    | none => .base baseIndex

/-- The sources of the groups whose entry is the given one, group after group. -/
def groupsAt {Place : Type} [DecidableEq Place] (groups : List (List SourceAp))
    (places : List Place) (place : Place) : List SourceAp :=
  ((groups.zip places).filter fun (_, other) => other = place).flatMap Prod.fst

/-! ## Aliases and conflicts -/

/-- `_alias`. -/
def makeAlias (entityId macKey aliasType source : String) (priority confidence : Nat)
    (rule : String) (radioId : Option Nat) : ApIdentityMacAliasRecord :=
  { entityId, siteId, macKey
    macDisplay := formatMac lib macKey
    aliasType, source
    matchPriority := priority
    confidence, radioId
    derivationRule := rule }

/-- The alias of one derivation, where it gives a MAC address. -/
def derivedAlias (entityId source : String) (priority confidence : Nat) (derived : Option String)
    (radioId : Nat) (aliasType rule : String) : List ApIdentityMacAliasRecord :=
  match derived.bind fun mac => normalizeMacKey lib (.str mac) with
  | some macKey =>
    if macKey = "" then []
    else [makeAlias lib siteId entityId macKey aliasType source priority confidence rule
      (some radioId)]
  | none => []

/-- The radio addresses that follow from a base address. -/
def h3cExactAliases (entityId baseMacKey source : String) (priority confidence : Nat)
    (vendor : String) (allowUnknownVendor : Bool) : List ApIdentityMacAliasRecord :=
  let normalizedVendor := lib.upper (stripText vendor)
  if normalizedVendor ≠ "H3C" ∧ ¬(allowUnknownVendor ∧ normalizedVendor = "") then []
  else if baseMacKey.toList.getLast? ≠ some '0' then []
  else
    derivedAlias lib siteId entityId source priority confidence (deriveH3cR1Mac baseMacKey) 1
      "h3c_r1_derived" "h3c_physical_mac_to_r1_exact_v1" ++
    derivedAlias lib siteId entityId source priority confidence (deriveH3cR2Mac baseMacKey) 2
      "h3c_r2_derived" "h3c_physical_mac_to_r2_exact_v1"

/-- The type, the rule and the priority of a reported address. -/
def actualAliasMetadata (fieldName : String) : String × String × Nat :=
  let text := lib.casefold fieldName
  if containsText text "bbssid" then ("ac_bbssid", "actual_bbssid_exact", 980)
  else if containsText text "bssid" then ("ac_bssid", "actual_bssid_exact", 990)
  else ("ac_radio_mac", "actual_radio_mac_exact", 1000)

/-- The aliases of the MAC address of a source in the group of an AC. -/
def acMacAliases (entityId : String) (item : SourceAp) : List ApIdentityMacAliasRecord :=
  if item.apMacKey = "" then []
  else if item.source = "ac_runtime" then
    makeAlias lib siteId entityId item.apMacKey "ac_ap_mac" item.source 900 98
      "ac_ap_mac_exact" none ::
    h3cExactAliases lib siteId entityId item.apMacKey "ac_runtime" 930 95 item.vendor false
  else
    [makeAlias lib siteId entityId item.apMacKey "legacy_mac" item.source 500 60
      "legacy_mac_exact" none]

/-- The aliases of a source in the group of an AC; the radios of a legacy source do
not count. -/
def acSourceAliases (entityId : String) (item : SourceAp) : List ApIdentityMacAliasRecord :=
  acMacAliases lib siteId entityId item ++
    if item.source ≠ "ac_runtime" then []
    else item.radioAliases.map fun (macKey, radioId, fieldName) =>
      let (aliasType, matchRule, priority) := actualAliasMetadata lib fieldName
      makeAlias lib siteId entityId macKey aliasType "ac_runtime" priority 100 matchRule radioId

/-- The aliases of a source in the group of the base data. -/
def baseSourceAliases (entityId acVendor baseVendor : String) (item : SourceAp) :
    List ApIdentityMacAliasRecord :=
  if item.apMacKey = "" then []
  else
    let entityVendor :=
      if acVendor ≠ "" then acVendor else if item.vendor ≠ "" then item.vendor else baseVendor
    makeAlias lib siteId entityId item.apMacKey "base_ap_mac" "base_data" 700 90
      "base_ap_mac_exact" none ::
    h3cExactAliases lib siteId entityId item.apMacKey "base_data" 830 90 entityVendor true

def acBaseConflictCode : String := "AP_IDENTITY_AC_BASE_CONFLICT"

/-- `_conflict`. -/
def makeConflict (entityId conflictType acValue baseValue : String) (ac base : SourceAp) :
    ApIdentityConflictRecord :=
  { entityId, siteId, conflictType, acValue, baseValue
    details :=
      { code := acBaseConflictCode, acApName := ac.apName, baseApName := base.apName
        acStation := ac.place.station, baseStation := base.place.station
        acUpdatedAt := ac.updatedAt, baseUpdatedAt := base.updatedAt } }

/-- The conflicts between the best source of an AC and of the base data. -/
def conflictRows (entityId : String) (ac base : Option SourceAp) : List ApIdentityConflictRecord :=
  match ac, base with
  | some ac, some base =>
    (if ac.apMacKey ≠ "" ∧ base.apMacKey ≠ "" ∧ ac.apMacKey ≠ base.apMacKey then
      [makeConflict siteId entityId "ap_mac_mismatch" (formatMac lib ac.apMacKey)
        (formatMac lib base.apMacKey) ac base]
    else []) ++
    (if ac.apName ≠ "" ∧ base.apName ≠ "" ∧ nameKey lib ac.apName ≠ nameKey lib base.apName
    then [makeConflict siteId entityId "ap_name_mismatch" ac.apName base.apName ac base]
    else [])
  | _, _ => []

/-! ## One entity -/

/-- `_best_source`: the first of those with the greatest key. -/
def bestSource : List SourceAp → Option SourceAp
  | [] => none
  | item :: rest =>
    some (rest.foldl (fun best other =>
      if sourceSortKey best < sourceSortKey other then other else best) item)

def textOf (source : Option SourceAp) (text : SourceAp → String) : String :=
  (source.map text).getD ""

/-- `_entity_id`. -/
def makeEntityId (ac base : Option SourceAp) : String :=
  if textOf ac (·.apUuid) ≠ "" then "ac:" ++ textOf ac (·.apUuid)
  else if textOf base (·.sourceId) ≠ "" then "base:" ++ textOf base (·.sourceId)
  else "ap:" ++ digest ("|".intercalate
    [siteId, textOf ac (·.apMacKey), textOf ac (·.apName), textOf base (·.apMacKey),
      textOf base (·.apName)])

/-- The first source that says anything. -/
def firstKnown (ac base legacy : Option SourceAp) (text : SourceAp → String) : String :=
  if textOf ac text ≠ "" then textOf ac text
  else if textOf base text ≠ "" then textOf base text
  else textOf legacy text

/-- The serial number comes from the base data whenever there is a base source, also
when that one knows none. -/
def effectiveSerialNumber (ac base legacy : Option SourceAp) : String :=
  if textOf ac (·.serialNumber) ≠ "" then textOf ac (·.serialNumber)
  else if base.isSome then textOf base (·.serialNumber)
  else textOf legacy (·.serialNumber)

/-- What the sources of an entity know about its place. -/
def topologyEvidence (ac base legacy : Option SourceAp) : ApTopologyEvidence :=
  { lldpValid := (ac.map (·.lldpValid)).getD false
    lldpConflict := (ac.map (·.lldpConflict)).getD false
    lldpSwitchConflict := (ac.map (·.lldpSwitchConflict)).getD false
    lldpSwitchUuid := textOf ac (·.lldpSwitchUuid), lldpStationId := textOf ac (·.lldpStationId)
    lldpStation := textOf ac (·.lldpStation), fitAp := (ac.map (·.place)).getD .unknown
    device := .unknown, acRuntime := .unknown, base := (base.map (·.place)).getD .unknown
    legacy := (legacy.map (·.place)).getD .unknown }

/-- What the builder makes of one group. -/
structure EntityProjection where
  entity : ApIdentityEntityRecord
  aliases : List ApIdentityMacAliasRecord
  conflicts : List ApIdentityConflictRecord

/-- `_entity_projection`; `none` is its `ValueError` for no source at all. -/
def entityProjection (acGroup baseGroup : List SourceAp) : Option EntityProjection :=
  let ac := bestSource (acGroup.filter (·.source = "ac_runtime"))
  let legacy := bestSource (acGroup.filter (·.source = "legacy_cache"))
  let base := bestSource baseGroup
  match ac.or (base.or legacy) with
  | none => none
  | some effective =>
    let entityId := makeEntityId digest siteId (ac.or legacy) base
    let effectiveMac := firstKnown ac base legacy (·.apMacKey)
    let effectiveName := firstKnown ac base legacy (·.apName)
    let topology := resolveApTopology (topologyEvidence ac base legacy)
    let conflicts := conflictRows lib siteId entityId ac base
    let conflicting := !conflicts.isEmpty
    some
      { entity :=
          { entityId, siteId
            effectiveApName := if effectiveName ≠ "" then effectiveName else effective.pointCode
            effectiveApMacKey := effectiveMac
            effectiveApMacDisplay := formatMac lib effectiveMac
            effectiveStation := topology.station.value, effectiveSection := topology.section_.value
            effectivePointCode := firstKnown ac base legacy (·.pointCode)
            effectiveSerialNumber := effectiveSerialNumber ac base legacy
            effectiveLocation := topology.location.value, effectiveMileage := topology.mileage.value
            effectiveDirection := topology.direction.value
            effectiveBelongType :=
              if topology.belongType.value ≠ "" then topology.belongType.value else "unknown"
            stationSource := topology.station.source, sectionSource := topology.section_.source
            locationSource := topology.location.source, mileageSource := topology.mileage.source
            directionSource := topology.direction.source
            belongTypeSource := topology.belongType.source, acApUuid := textOf ac (·.apUuid)
            acDeviceUuid := textOf ac (·.acDeviceUuid), acApName := textOf ac (·.apName)
            acApMacKey := textOf ac (·.apMacKey), acStation := textOf ac (·.place.station)
            acSection := textOf ac (·.place.section_), acUpdatedAt := textOf ac (·.updatedAt)
            baseRecordId := textOf base (·.sourceId), baseApName := textOf base (·.apName)
            baseApMacKey := textOf base (·.apMacKey), baseStation := textOf base (·.place.station)
            baseSection := textOf base (·.place.section_)
            baseUpdatedAt := textOf base (·.updatedAt)
            effectiveSource :=
              if ac.isSome then "ac_runtime" else if base.isSome then "base_data"
              else "legacy_cache"
            identityStatus := if conflicting then "conflict" else "matched"
            dataQualityWarning := ";".intercalate (firstOfEach
              ((if conflicting then [acBaseConflictCode] else []) ++ topology.warnings))
            topologyWarning := ";".intercalate topology.warnings }
        aliases :=
          acGroup.flatMap (acSourceAliases lib siteId entityId) ++
            baseGroup.flatMap (baseSourceAliases lib siteId entityId (textOf ac (·.vendor))
              (textOf base (·.vendor)))
        conflicts }

/-! ## The index -/

/-- The groups of the three kinds of rows. -/
structure SourceGroups where
  (base ac legacy : List (List SourceAp))

/-- What the entities of an index are made of: for each entity the sources of its AC
and of its base data. -/
def entitySources (groups : SourceGroups) : List (List SourceAp × List SourceAp) :=
  let baseToAc := matchGroups lib groups.base groups.ac
  let legacyToAc := matchGroups lib groups.legacy groups.ac
  let legacyToBase := matchGroups lib groups.legacy groups.base
  let legacyPlaces := (legacyToAc.zip legacyToBase).map fun (ac, base) =>
    legacyPlace baseToAc ac base
  let ofAc := groups.ac.zipIdx.map fun (acGroup, index) =>
    (acGroup ++ groupsAt groups.legacy legacyPlaces (.ac index),
      groupsAt groups.base baseToAc (some index))
  let ofBase := (groups.base.zip baseToAc).zipIdx.filterMap fun ((baseGroup, matched), index) =>
    if matched.isSome then none
    else some (groupsAt groups.legacy legacyPlaces (.base index), baseGroup)
  let standalone := (groups.legacy.zip legacyPlaces).filterMap fun (legacyGroup, place) =>
    if place = .standalone then some (legacyGroup, []) else none
  ofAc ++ ofBase ++ standalone

/-- The index of some entities: of records that agree in what marks them, the first
one stays. -/
def indexOf (projections : List EntityProjection) (baseRecordCount acRecordCount : Nat) :
    ApIdentityIndexBuild :=
  { entities := firstByKey (·.entityId) [] (projections.map (·.entity))
    aliases := firstByKey
      (fun item => (item.siteId, item.entityId, item.macKey, item.aliasType, item.source)) []
      (projections.flatMap (·.aliases))
    conflicts := firstByKey (fun item => (item.siteId, item.entityId, item.conflictType)) []
      (projections.flatMap (·.conflicts))
    baseRecordCount, acRecordCount }

/-- The base rows that identify an AP. -/
def baseSources (baseRows : List Event) : List SourceAp :=
  (baseRows.map (sourceAp lib "base_data")).filter fun item =>
    item.apMacKey ≠ "" ∨ item.apName ≠ "" ∨ item.pointCode ≠ ""

/-- The AC rows that identify an AP and are read as rows of the given source. -/
def identitySources (acRows : List Event) (source : String) : List SourceAp :=
  ((acRows.map (sourceAp lib "ac_runtime")).filter fun item =>
    item.apMacKey ≠ "" ∨ item.apName ≠ "" ∨ item.apUuid ≠ "").filter (·.source = source)

/-- The groups of both sources. -/
def sourceGroups (baseRows acRows : List Event) : SourceGroups where
  base := groupSources lib (baseSources lib baseRows)
  ac := groupSources lib (identitySources lib acRows "ac_runtime")
  legacy := groupSources lib (identitySources lib acRows "legacy_cache")

/-- `build_ap_identity_index`; `none` is a `ValueError`. -/
def buildApIdentityIndex (baseRows acRows : List Event) : Option ApIdentityIndexBuild :=
  ((entitySources lib (sourceGroups lib baseRows acRows)).mapM fun (acGroup, baseGroup) =>
    entityProjection lib digest siteId acGroup baseGroup).map fun projections =>
      indexOf projections (baseSources lib baseRows).length
        (identitySources lib acRows "ac_runtime").length

end NetConsole.ApIdentity
