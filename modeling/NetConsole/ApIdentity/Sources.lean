import NetConsole.ApIdentity.Topology
import NetConsole.Foundations.FirstByKey

/-!
# The sources of an AP identity

`_source_ap` reads a row of the base data or of an AC into what the index builder
uses of it. A row is a dictionary; what the standard library does with texts is
the parameter `lib`.

The model and the software version of a row, and the row itself, are left out:
the builder reads them but uses them nowhere.
-/

set_option autoImplicit false

namespace NetConsole.ApIdentity

open Foundations (firstByKey)
open Syslog (isPythonSpace)
open Worker (Json Event PythonLibrary dictGet pythonStr textOr strip)

variable (lib : PythonLibrary)

/-! ## Normalizers -/

/-- The texts that stand for nothing. -/
def emptyValues : List String :=
  ["", "-", "--", "n/a", "na", "none", "null", "unknown", "未知", "无"]

/-- The text of a value, if it says anything. -/
def cleanText (value : Json) : Option String :=
  match value with
  | .null => none
  | value =>
    let text := stripText (pythonStr lib value)
    if lib.casefold text ∈ emptyValues then none else some text

def isHex (char : Char) : Bool :=
  ('0' ≤ char && char ≤ '9') || ('a' ≤ char && char ≤ 'f') ||
    ('A' ≤ char && char ≤ 'F')

/-- A text whose characters satisfy the conditions one by one. -/
def matchesEach : List (Char → Bool) → List Char → Bool
  | [], [] => true
  | condition :: conditions, char :: rest => condition char && matchesEach conditions rest
  | _, _ => false

/-- Blocks of hexadecimal digits with separators between them. -/
def hexBlocks (count width : Nat) (separator : Char → Bool) : List (Char → Bool) :=
  [separator].intercalate (List.replicate count (List.replicate width isHex))

/-- The four forms of a MAC address: pairs with colons or hyphens, blocks of four
with points or with hyphens, and twelve digits. -/
def isMacText (text : List Char) : Bool :=
  matchesEach (hexBlocks 6 2 fun char => char = ':' || char = '-') text ||
    matchesEach (hexBlocks 3 4 (· = '.')) text ||
    matchesEach (hexBlocks 3 4 (· = '-')) text ||
    matchesEach (List.replicate 12 isHex) text

/-- The hexadecimal digits of a MAC address. -/
def normalizeMacKey (value : Json) : Option String :=
  match cleanText lib value with
  | none => none
  | some text =>
    if isMacText text.toList then
      some (String.ofList ((text.toList.filter fun char =>
        char ∉ ['-', ':', '.']).map Char.toLower))
    else none

/-- The MAC address as it is shown. -/
def formatMac (value : String) : String :=
  match normalizeMacKey lib (.str value) with
  | none => ""
  | some key =>
    String.ofList (key.toList.take 4 ++ ['-'] ++ (key.toList.drop 4).take 4 ++ ['-'] ++
      (key.toList.drop 8).take 4)

/-- Put one blank in place of each run of white space; `inRun` tells that the blank
of the current run is already there. -/
def collapseSpace (inRun : Bool) : List Char → List Char
  | [] => []
  | char :: rest =>
    if isPythonSpace char then
      if inRun then collapseSpace true rest else ' ' :: collapseSpace true rest
    else char :: collapseSpace false rest

/-- The name with single spaces. -/
def normalizeApName (value : String) : Option String :=
  (cleanText lib (.str value)).map fun text => String.ofList (collapseSpace false text.toList)

/-- The name, folded. -/
def nameKey (value : String) : String :=
  match normalizeApName lib value with
  | some name => lib.casefold name
  | none => ""

/-! ## MAC addresses derived from another -/

/-- `mac_to_hex12`; `none` is a `MacAddressError`. -/
def macToHex12 (mac : String) : Option (List Char) :=
  let text := mac.toList.filter isHex
  if text.length = 12 then some (text.map Char.toUpper) else none

/-- `format_mac` of `mac_utils`: pairs with colons. -/
def colonMac : List Char → List Char
  | [] => []
  | [digit] => [digit]
  | [first, second] => [first, second]
  | first :: second :: rest => first :: second :: ':' :: colonMac rest

/-- `derive_h3c_r1_mac`: the last digit becomes F. -/
def deriveH3cR1Mac (physicalMac : String) : Option String :=
  (macToHex12 physicalMac).map fun chars => String.ofList (colonMac (chars.take 11 ++ ['F']))

/-- The hexadecimal digit behind a digit below F. -/
def nextHex (digit : Char) : Char := Char.toUpper (Nat.digitChar (hexNumber digit + 1))
where
  /-- The value of an upper case hexadecimal digit. -/
  hexNumber (digit : Char) : Nat := if digit.isDigit then digit.toNat - 48 else digit.toNat - 55

/-- `derive_h3c_r2_mac`: the last digit but one grows by one, the last becomes F;
`none` where it is F already, an `H3cMacDeriveError`. -/
def deriveH3cR2Mac (physicalMac : String) : Option String :=
  match macToHex12 physicalMac with
  | none => none
  | some chars =>
    if chars.getD 10 'F' = 'F' then none
    else some (String.ofList (colonMac (chars.take 10 ++ [nextHex (chars.getD 10 'F'), 'F'])))

/-! ## Fields of a row -/

def stationAliases : List String :=
  ["station", "site", "site_name", "ap_station", "ownership_station", "metadata_station", "归属站点"]

def emptyStationValues : List String := ["", "-", "N/A", "n/a", "none", "None", "未归属"]

/-- `str(row.get(key) or "").strip()`. -/
def strippedField (row : Event) (key : String) : String := stripText (textOr lib row key)

/-- The first text that some condition holds of, or the empty text. -/
def firstText (keys : List String) (text : String → String) (kept : String → Bool) : String :=
  ((keys.map text).find? kept).getD ""

/-- The station that a row names. -/
def normalizeStationValue (row : Event) : String :=
  firstText stationAliases (strippedField lib row) fun text => text ∉ emptyStationValues

/-- `_first_text`. -/
def firstFieldText (row : Event) (keys : List String) : String :=
  firstText keys (strippedField lib row) (· != "")

/-- `row.get(first) or row.get(second) or …`, the last one as it is. -/
def anyField (row : Event) : List String → Json → Json
  | [], last => last
  | key :: rest, last => (dictGet row key).orElse (anyField row rest last)

/-- What an access point belongs to. -/
def belongType (row : Event) (station section_ : String) : String :=
  let value := lib.casefold (stripText
    (pythonStr lib (anyField row ["belong_type", "metadata_belong_type"] (.str ""))))
  if value ≠ "" then value
  else if stripText (pythonStr lib (anyField row ["yard_name", "area_name"] (.str ""))) ≠ ""
    then "yard"
  else if section_ ≠ "" then "section"
  else if station ≠ "" then "station"
  else "unknown"

/-! ## Radios -/

/-- The fields that hold MAC addresses of radios. -/
def radioKeys : List String :=
  ["radio_mac", "bssid", "bbssid", "rid1_mac", "rid2_mac", "rid3_mac", "rid1_bssid", "rid2_bssid",
    "rid3_bssid", "rid1_bbssid", "rid2_bbssid", "rid3_bbssid", "radio1_mac", "radio2_mac",
    "radio3_mac"]

/-- `token in text`. -/
def containsText (text token : String) : Bool :=
  text.toList.tails.any fun rest => token.toList.isPrefixOf rest

/-- A key that names a radio. -/
def isRadioKey (key : String) : Bool :=
  key ∈ radioKeys ||
    (["radio", "bssid", "bbssid"].any (containsText key) &&
      ["mac", "bssid", "bbssid"].any (containsText key))

/-- The number behind `rid` or `radio`, when the text starts with one of them. -/
def radioIdHere (text : List Char) : Option Nat :=
  ["rid".toList, "radio".toList].findSome? fun word =>
    if word.isPrefixOf text then
      let rest := text.drop word.length
      let rest := if rest.head? = some '_' ∨ rest.head? = some '-' then rest.tail else rest
      match rest with
      | '1' :: _ => some 1
      | '2' :: _ => some 2
      | '3' :: _ => some 3
      | _ => none
    else none

/-- `_radio_id`: the first place that matches. -/
def radioId (key : String) : Option Nat := key.toList.tails.findSome? radioIdHere

/-- The MAC addresses of the radios of a row. -/
def radioAliases (row : Event) (apMacKey : String) : List (String × Option Nat × String) :=
  firstByKey id [] (row.filterMap fun (key, value) =>
    let keyText := lib.casefold key
    if isRadioKey keyText then
      match normalizeMacKey lib value with
      | some macKey =>
        if macKey = "" ∨ macKey = apMacKey then none else some (macKey, radioId keyText, keyText)
      | none => none
    else none)

/-! ## A row as a source -/

/-- An access point as one of the sources gives it. -/
structure SourceAp where
  (source sourceId apUuid acDeviceUuid apName apMacKey pointCode serialNumber : String)
  place : PlaceEvidence
  (vendor updatedAt : String)
  radioAliases : List (String × Option Nat × String)
  (lldpValid lldpConflict lldpSwitchConflict : Bool)
  (lldpSwitchUuid lldpStationId lldpStation : String)

/-- The source that a row names, or the one it is read as. -/
def sourceName (row : Event) (source : String) : String :=
  let named := stripText (pythonStr lib (anyField row ["_identity_source"] (.str source)))
  if named ∈ ["ac_runtime", "base_data", "legacy_cache"] then named else source

/-- The access point of a row. -/
def sourceAp (source : String) (row : Event) : SourceAp :=
  let apMacKey := (normalizeMacKey lib
    (anyField row ["ap_mac", "ap_mac_norm"] (dictGet row "ap_mac_display"))).getD ""
  let apName := strippedField lib row "ap_name"
  let pointCode := stripText
    (pythonStr lib (anyField row ["ap_point_code", "point_code"] (.str "")))
  let station :=
    if normalizeStationValue lib row ≠ "" then normalizeStationValue lib row
    else strippedField lib row "station_name"
  let section_ := stripText (pythonStr lib
    (anyField row ["section_name", "belong_section", "metadata_belong_section"] (.str "")))
  let lastId := if apMacKey ≠ "" then apMacKey else if apName ≠ "" then apName else pointCode
  { source := sourceName lib row source
    sourceId := stripText (pythonStr lib
      (anyField row ["_identity_source_id", "ap_uuid", "id", "extension_id"] (.str lastId)))
    apUuid := strippedField lib row "ap_uuid"
    acDeviceUuid := strippedField lib row "ac_device_uuid"
    apName
    apMacKey
    pointCode
    serialNumber := firstFieldText lib row ["serial_number", "serial", "sn", "device_sn"]
    place :=
      { station
        section_
        location := firstFieldText lib row
          ["metadata_location_note", "location_note", "location_desc"]
        mileage := firstFieldText lib row ["metadata_mileage", "mileage", "mileage_text"]
        direction := firstFieldText lib row ["metadata_direction", "direction"]
        belongType := belongType lib row station section_ }
    vendor := lib.upper (firstFieldText lib row ["ap_vendor", "vendor", "device_vendor"])
    updatedAt := firstFieldText lib row ["updated_at", "collected_at"]
    radioAliases := radioAliases lib row apMacKey
    lldpValid := (dictGet row "_lldp_valid").truthy
    lldpConflict := (dictGet row "_lldp_conflict").truthy
    lldpSwitchConflict := (dictGet row "_lldp_switch_conflict").truthy
    lldpSwitchUuid := strippedField lib row "_lldp_switch_uuid"
    lldpStationId := strippedField lib row "_lldp_station_id"
    lldpStation := strippedField lib row "_lldp_station" }

end NetConsole.ApIdentity
