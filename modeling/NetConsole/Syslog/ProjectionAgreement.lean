import NetConsole.Syslog.EventProjection

/-!
# Recovered and live projections

The raw record of a datagram carries no data quality: `_build_raw_record` runs before
the event is parsed. `_recovered_projection` asks for it nevertheless and takes a
record without one for complete. It also passes over every event that is not a WMESH
event, while `_process` stores the interface and configuration events too.

Both projections of a datagram agree if and only if its event, if there is one, is a
WMESH event of an identified source, no repetition, and with a clock that is neither
off nor jumping (`projectionsAgree_iff`). The event of a device whose clock is off by
an hour is recovered at another time and as complete
(`not_projectionsAgree_clockOffset`).
-/

set_option autoImplicit false

namespace NetConsole.Syslog

open Worker (Json Event PythonError dictGet textOr pythonInt pythonStr Json.truthy Json.orElse)

/-- What the projections of a datagram are compared in: type, time, quality, identity
and radio state. -/
structure ProjectionCore where
  (eventType eventTime dataQuality : String)
  identity : MrIdentity
  (interfaceName interfaceType physicalState : String)

/-- The compared part of an event. -/
def EventRow.core (row : EventRow) : ProjectionCore where
  eventType := row.eventType
  eventTime := row.eventTime
  dataQuality := row.dataQuality
  identity := row.identity
  interfaceName := row.interfaceName
  interfaceType := row.interfaceType
  physicalState := row.physicalState

section Agreement

variable {DateTime : Type} (lib : SyslogLibrary DateTime) (siteId runId : String)
  (services : ReceiverServices DateTime) (resolveLater : ParsedSyslog → ApEnrichment)
  (written current : Inventory) (envelope : UdpEnvelope) (receiveTime : DateTime)
  (rawFileId : String) (rawLineNumber : Nat) (state : QualityState)

/-! ## The quality of an identified event -/

theorem resolveEndpoints_conflict (byIp byHost : List Endpoint) :
    (resolveEndpoints byIp byHost).2 = .identityConflict →
      (resolveEndpoints byIp byHost).1 = none := by
  unfold resolveEndpoints
  split
  · split
    · intro conflict
      cases conflict
    · intro _
      rfl
  · split <;> intro conflict <;> cases conflict

theorem resolveIdentity_conflict (sourceIp hostname : String) :
    (resolveIdentity lib current sourceIp hostname).2 = .identityConflict →
      (resolveIdentity lib current sourceIp hostname).1 = none :=
  resolveEndpoints_conflict _ _

/-- The source is identified, the message is new, and the clock of the device is
neither jumping nor off. -/
def Undisputed (endpoint : Option Endpoint) (identityStatus : IdentityStatus)
    (rawText deviceTime : String) : Prop :=
  ∃ known, endpoint = some known ∧
    state.lastLineHash (qualityKey known identityStatus) ≠ some (lib.sha256 rawText) ∧
    ∀ deviceNow, lib.deviceDateTime deviceTime = some deviceNow →
      (∀ previous, state.lastClockOffset (qualityKey known identityStatus) = some previous →
        lib.hasJumped (lib.offsetMs receiveTime deviceNow) previous = false) ∧
      lib.isFar (lib.offsetMs receiveTime deviceNow) = false

theorem quality_complete_iff {endpoint : Option Endpoint} {identityStatus : IdentityStatus}
    (resolved : identityStatus = .identityConflict → endpoint = none)
    (rawText deviceTime : String) :
    (quality lib endpoint identityStatus rawText deviceTime receiveTime state).1.1 = .complete ↔
      Undisputed lib receiveTime state endpoint identityStatus rawText deviceTime := by
  unfold quality Undisputed
  cases endpoint with
  | none =>
    split
    · simp
    · simp
  | some known =>
    have agreed : identityStatus ≠ .identityConflict := fun conflict => by
      cases resolved conflict
    simp only [if_neg agreed, Option.some.injEq, exists_eq_left']
    split
    · next repeated => simp [repeated]
    · next new =>
      cases clock : lib.deviceDateTime deviceTime with
      | none => simp [new]
      | some deviceNow =>
        have fresh : state.lastLineHash (qualityKey known identityStatus) ≠
            some (lib.sha256 rawText) := new
        simp only [Option.some.injEq, forall_eq']
        cases before : state.lastClockOffset (qualityKey known identityStatus) with
        | none =>
          by_cases far : lib.isFar (lib.offsetMs receiveTime deviceNow) <;>
            simp [fresh, far]
        | some previous =>
          by_cases jumped : lib.hasJumped (lib.offsetMs receiveTime deviceNow) previous
          · simp [jumped]
          · by_cases far : lib.isFar (lib.offsetMs receiveTime deviceNow) <;>
              simp [fresh, jumped, far]

/-! ## The two projections of a datagram -/

/-- The event that live processing stores. -/
def liveEvent : Option EventRow :=
  (process lib runId services current envelope receiveTime
    (buildRawRecord lib siteId written envelope) rawFileId rawLineNumber
    state).toOption.bind (·.1)

/-- The event that recovery computes from the raw record. -/
def recoveredEvent : Option EventRow :=
  (recoveredProjection lib runId { services with resolve := resolveLater }
    (buildRawRecord lib siteId written envelope) rawFileId rawLineNumber).toOption.join

/-- Both projections of a datagram agree, and both are there or none is. -/
def ProjectionsAgree : Prop :=
  (recoveredEvent lib siteId runId services resolveLater written envelope rawFileId
      rawLineNumber).map EventRow.core =
    (liveEvent lib siteId runId services written current envelope receiveTime rawFileId
      rawLineNumber state).map EventRow.core

/-- The receiver writes times as `isoformat` writes them. -/
structure WrittenTime (lib : SyslogLibrary DateTime) (text : String) (time : DateTime) : Prop where
  parsed : lib.fromIsoFormat text = some time
  written : lib.isoFormat time = text

/-- What recovery reads in the raw record of a datagram. -/
structure RawRecordFields (record : Event) : Prop where
  rawText : textOr lib.python record "raw_text" = rawText lib envelope.payload
  receiveTime : textOr lib.python record "receive_time" = envelope.receiveTime
  dataQuality : textOr lib.python record "data_quality" = ""
  globalSequence : dictGet record "global_receive_sequence" = .int envelope.globalReceiveSequence
  sourceSequence : dictGet record "source_receive_sequence" = .int envelope.sourceReceiveSequence

theorem textOr_of_str {record : Event} {key value : String}
    (stored : dictGet record key = .str value) : textOr lib.python record key = value := by
  unfold textOr Json.orElse
  rw [stored]
  by_cases blank : value = ""
  · simp [blank, pythonStr]
  · simp [blank, Json.truthy, pythonStr]

theorem pythonInt_orZero (number : Int) :
    pythonInt lib.python ((Json.int number).orElse (.int 0)) = .ok number := by
  unfold Json.orElse
  by_cases zero : number = 0
  · simp [zero, pythonInt]
  · simp [zero, Json.truthy, pythonInt]

theorem rawRecordFields :
    RawRecordFields lib envelope (buildRawRecord lib siteId written envelope) where
  rawText := textOr_of_str _ rfl
  receiveTime := textOr_of_str _ rfl
  dataQuality := rfl
  globalSequence := rfl
  sourceSequence := rfl

/-- The compared part of the event of a message with a quality. -/
def messageCore (parsed : ParsedSyslog) (dataQuality : DataQuality) : ProjectionCore where
  eventType := parsed.eventType
  eventTime :=
    if useDeviceTime dataQuality.text parsed.deviceTime then parsed.deviceTime
    else envelope.receiveTime
  dataQuality := dataQuality.text
  identity := recordIdentity lib (buildRawRecord lib siteId written envelope)
  interfaceName := parsed.interfaceName
  interfaceType := parsed.interfaceType
  physicalState := parsed.physicalState

/-- The enrichment and the mark of an expected change keep what is compared. -/
theorem markExpected_spec (endpoint : Option Endpoint) (text : String) (parsed : ParsedSyslog) :
    let marked := markExpected lib services endpoint text (enrichParsed services.resolve parsed)
    marked.deviceTime = parsed.deviceTime ∧
      ∀ dataQuality, messageCore lib siteId written envelope marked dataQuality =
        messageCore lib siteId written envelope parsed dataQuality := by
  intro marked
  simp only [marked]
  unfold markExpected
  cases endpoint with
  | none => exact ⟨rfl, fun _ => rfl⟩
  | some known =>
    dsimp only
    split
    · exact ⟨rfl, fun _ => rfl⟩
    · exact ⟨rfl, fun _ => rfl⟩

/-- Without an event in the message, nothing is stored and nothing is recovered. -/
theorem projectionsAgree_unparsed (time : WrittenTime lib envelope.receiveTime receiveTime)
    (unparsed : ∀ parsed, services.parse (rawText lib envelope.payload) receiveTime ≠
      .ok (some parsed)) :
    ProjectionsAgree lib siteId runId services resolveLater written current envelope receiveTime
      rawFileId rawLineNumber state := by
  have fields := rawRecordFields lib siteId written envelope
  unfold ProjectionsAgree recoveredEvent liveEvent recoveredProjection process
  simp only [fields.rawText, fields.receiveTime, time.parsed]
  cases found : services.parse (rawText lib envelope.payload) receiveTime with
  | error raised => rfl
  | ok result =>
    cases result with
    | none => rfl
    | some parsed => exact absurd found (unparsed parsed)

theorem liveEvent_spec {parsed : ParsedSyslog}
    (found : services.parse (rawText lib envelope.payload) receiveTime = .ok (some parsed)) :
    (liveEvent lib siteId runId services written current envelope receiveTime rawFileId
        rawLineNumber state).map EventRow.core =
      some (messageCore lib siteId written envelope parsed (quality lib
          (resolveIdentity lib current envelope.sourceIp
            (lib.extractHostname (rawText lib envelope.payload))).1
          (resolveIdentity lib current envelope.sourceIp
            (lib.extractHostname (rawText lib envelope.payload))).2
          (rawText lib envelope.payload) parsed.deviceTime receiveTime state).1.1) := by
  obtain ⟨sameTime, sameCore⟩ := markExpected_spec lib siteId services written envelope
    (resolveIdentity _ _ envelope.sourceIp (lib.extractHostname (rawText _ envelope.payload))).1
    envelope.receiveTime parsed
  rw [← sameCore, ← sameTime]
  unfold liveEvent process
  simp only [found]
  rfl

theorem recoveredEvent_spec (time : WrittenTime lib envelope.receiveTime receiveTime)
    {parsed : ParsedSyslog} (found : services.parse (rawText lib envelope.payload) receiveTime =
      .ok (some parsed)) :
    (recoveredEvent lib siteId runId services resolveLater written envelope rawFileId
        rawLineNumber).map EventRow.core =
      if parsed.eventFamily = "WMESH" then
        some (messageCore lib siteId written envelope parsed .complete)
      else none := by
  have fields := rawRecordFields lib siteId written envelope
  unfold recoveredEvent recoveredProjection
  simp only [fields.rawText, fields.receiveTime, time.parsed, found, fields.dataQuality,
    fields.globalSequence, fields.sourceSequence, pythonInt_orZero, bind, Except.bind]
  by_cases family : parsed.eventFamily = "WMESH"
  · simp only [family, ne_eq, not_true_eq_false, if_false, if_true, time.written]
    rfl
  · simp only [family, ne_eq, if_true, if_false]
    rfl

/-- The qualities have different texts. -/
theorem messageCore_inj (parsed : ParsedSyslog) {one two : DataQuality}
    (same : messageCore lib siteId written envelope parsed one =
      messageCore lib siteId written envelope parsed two) : one = two := by
  have texts : one.text = two.text := congrArg ProjectionCore.dataQuality same
  revert texts
  cases one <;> cases two <;> simp [DataQuality.text]

/-- The projections agree if and only if the event of the datagram, if it has one, is
an undisputed WMESH event. -/
theorem projectionsAgree_iff (time : WrittenTime lib envelope.receiveTime receiveTime) :
    ProjectionsAgree lib siteId runId services resolveLater written current envelope receiveTime
        rawFileId rawLineNumber state ↔
      ∀ parsed, services.parse (rawText lib envelope.payload) receiveTime = .ok (some parsed) →
        parsed.eventFamily = "WMESH" ∧ Undisputed lib receiveTime state
            (resolveIdentity lib current envelope.sourceIp
              (lib.extractHostname (rawText lib envelope.payload))).1
            (resolveIdentity lib current envelope.sourceIp
              (lib.extractHostname (rawText lib envelope.payload))).2
            (rawText lib envelope.payload) parsed.deviceTime := by
  by_cases event : ∃ parsed, services.parse (rawText lib envelope.payload) receiveTime =
      .ok (some parsed)
  · obtain ⟨parsed, found⟩ := event
    have live := liveEvent_spec lib siteId runId services written current envelope receiveTime
      rawFileId rawLineNumber state found
    have recovered := recoveredEvent_spec lib siteId runId services resolveLater written
      envelope receiveTime rawFileId rawLineNumber time found
    have complete := quality_complete_iff lib receiveTime state
      (resolveIdentity_conflict lib current envelope.sourceIp
        (lib.extractHostname (rawText lib envelope.payload)))
      (rawText lib envelope.payload) parsed.deviceTime
    unfold ProjectionsAgree
    rw [live, recovered]
    constructor
    · intro agree other foundOther
      rw [found] at foundOther
      cases foundOther
      by_cases family : parsed.eventFamily = "WMESH"
      · rw [if_pos family] at agree
        have same := messageCore_inj _ _ _ _ parsed (Option.some.inj agree)
        exact ⟨family, complete.mp same.symm⟩
      · rw [if_neg family] at agree
        cases agree
    · intro undisputed
      obtain ⟨family, fine⟩ := undisputed parsed found
      have same := complete.mpr fine
      rw [if_pos family, same]
  · have unparsed : ∀ parsed, services.parse (rawText lib envelope.payload) receiveTime ≠
        .ok (some parsed) := fun parsed found => event ⟨parsed, found⟩
    constructor
    · intro _ parsed found
      exact absurd found (unparsed parsed)
    · intro _
      exact projectionsAgree_unparsed _ _ _ _ _ _ _ envelope _ _ _ _ time unparsed

end Agreement

/-! ## A device whose clock is off -/

/-- Times are hours; a difference of an hour and more is far. -/
def hourLibrary : SyslogLibrary Nat where
  python := .plain
  decodeReplace _ := "Jan 1 08:00:00 MR1 WMESH/5/MESH_LINKUP: ...".toList
  extractHostname _ := "MR1"
  extractFacilitySeverity _ := ("", "")
  base64 _ := ""
  fromIsoFormat text := if text = "08:00" then some 8 else if text = "09:00" then some 9 else none
  isoFormat hour := if hour = 8 then "08:00" else "09:00"
  deviceDateTime text := if text = "08:00" then some 8 else none
  offsetMs received device := if received = device then "0.0" else "3600000.0"
  isFar offset := offset == "3600000.0"
  hasJumped offset previous := offset != previous
  sha256 text := text
  dumps _ := ""
  encodable _ := true

/-- The message is a link that a radio reports at eight. -/
def linkUpServices : ReceiverServices Nat where
  parse _ _ := .ok (some ⟨"MESH_LINKUP", "WMESH", "08:00", "", "", "", "", "",
    "", "", "", "", "", "",
    "", "", false, []⟩)
  resolve parsed := ⟨parsed.peerName, "", "", "", "", "", parsed.details⟩
  expectedConfigChangeAt _ _ := false

def radioInventory : Inventory where
  byIp _ := [⟨"mr-1", .int 1, "MR1", "T1", "1", "HEAD", "10.0.0.1"⟩]
  byHostname _ := [⟨"mr-1", .int 1, "MR1", "T1", "1", "HEAD", "10.0.0.1"⟩]

/-- The first message of the radio, received at the given time. -/
def linkUp (receiveTime : String) : UdpEnvelope := ⟨"10.0.0.1", 514, receiveTime, 1, 1, []⟩

/-- With the right time, the event is recovered as it was stored. -/
theorem projectionsAgree_rightClock :
    ProjectionsAgree hourLibrary "site" "run" linkUpServices linkUpServices.resolve radioInventory
      radioInventory (linkUp "08:00") 8 "raw_1" 1 ⟨fun _ => none, fun _ => none⟩ := by
  rw [projectionsAgree_iff hourLibrary "site" "run" linkUpServices linkUpServices.resolve
    radioInventory radioInventory (linkUp "08:00") 8 "raw_1" 1 ⟨fun _ => none, fun _ => none⟩
    ⟨rfl, rfl⟩]
  intro parsed found
  cases found
  refine ⟨rfl, _, rfl, by simp, ?_⟩
  intro deviceNow now
  cases now
  exact ⟨by simp, rfl⟩

/-- A message that arrives an hour late is recovered as complete and at eight. -/
theorem not_projectionsAgree_clockOffset :
    ¬ ProjectionsAgree hourLibrary "site" "run" linkUpServices linkUpServices.resolve radioInventory
      radioInventory (linkUp "09:00") 9 "raw_1" 1 ⟨fun _ => none, fun _ => none⟩ := by
  intro agree
  have times := congrArg (Option.map fun core : ProjectionCore =>
      (core.dataQuality, core.eventTime))
    agree
  exact absurd times (by decide +kernel)

end NetConsole.Syslog
