import NetConsole.Foundations.GuardedRuns
import NetConsole.Retention.Tables

/-!
# Histories of changes

A run upserts rows of all three kinds in any order. When every upsert is in turn
(`InTurn`), the history of every entity is the last ten of its changes, each going on
from the one before it up to the current row, and an observation that repeats the
current state adds nothing (`histories_of_changes`).

An upsert is out of turn when it changes an interface whose current row it preserves:
the change is recorded again each time, and the current row never shows it
(`not_historyOfChanges`). It is out of turn, too, when a full history is cut although its
first row does not have the earliest time.
-/

set_option autoImplicit false

namespace NetConsole.Retention

open Foundations List
open Worker (Event Json)

/-- The three change-only histories. -/
structure RetentionTables where
  optical : OpticalTables
  lldp : LldpTables
  interfaces : InterfaceTables

def noRows : RetentionTables :=
  { optical := HistoryTables.empty, lldp := HistoryTables.empty, interfaces := HistoryTables.empty }

/-- The calls that record an observation. -/
inductive Upsert
  | optical (side : OpticalSide) (now : String) (row : Event)
  | lldp (sourceRevision now : String) (row : Event)
  | interface (now : String) (preserveCurrent : Bool) (row : Event)

section Runs

variable (lib : RetentionLibrary) (siteId : String)

def RetentionTables.upsert (tables : RetentionTables) : Upsert → RetentionTables
  | .optical side now row =>
    { tables with
      optical := (upsertOpticalCurrentAndHistory lib siteId side now row tables.optical).1 }
  | .lldp sourceRevision now row =>
    { tables with
      lldp := upsertLldpCurrentAndHistory lib sourceRevision now row tables.lldp }
  | .interface now preserveCurrent row =>
    { tables with
      interfaces := upsertInterfaceCurrentAndHistory lib siteId now preserveCurrent row
        tables.interfaces }

/-! ## What is observed -/

def Upsert.opticalObserved : Upsert → Option (Timed OpticalProjection)
  | .optical side now row => opticalObservation lib siteId side now row
  | _ => none

def Upsert.lldpObserved : Upsert → Option (Timed LldpProjection)
  | .lldp sourceRevision now row => lldpObservation lib sourceRevision now row
  | _ => none

def Upsert.interfaceObserved : Upsert → Option (Timed InterfaceProjection)
  | .interface now _ row => interfaceObservation lib siteId now row
  | _ => none

/-- What the observations of a run say of every entity. -/
def seenAll {Key Current Observation : Type} [DecidableEq Key]
    (rules : HistoryRules Key Current Observation) (observations : List Observation) :
    Key → Observed Observation :=
  observations.foldl (see rules) fun _ => .nothing

/-- The histories of a run are those of its changes. -/
structure HistoriesOfChanges (upserts : List Upsert) (tables : RetentionTables) : Prop where
  optical : ∀ entity, ChangeHistory opticalRules tables.optical entity
    (seenAll opticalRules (upserts.filterMap (Upsert.opticalObserved lib siteId))
      entity).changes
  lldp : ∀ entity, ChangeHistory lldpRules tables.lldp entity
    (seenAll lldpRules (upserts.filterMap (Upsert.lldpObserved lib)) entity).changes
  interfaces : ∀ entity, ChangeHistory interfaceRules tables.interfaces entity
    (seenAll interfaceRules
      (upserts.filterMap (Upsert.interfaceObserved lib siteId)) entity).changes

/-! ## Upserts in turn -/

/-- The upsert comes in turn, for the entity that it concerns. -/
def InTurn (tables : RetentionTables) : Upsert → Prop
  | .optical side now row => ∀ observed,
    opticalObservation lib siteId side now row = some observed →
      Chronological opticalRules tables.optical false observed
  | .lldp sourceRevision now row => ∀ observed,
      lldpObservation lib sourceRevision now row = some observed →
      Chronological lldpRules tables.lldp false observed
  | .interface now preserveCurrent row => ∀ observed,
      interfaceObservation lib siteId now row = some observed →
      Chronological interfaceRules tables.interfaces preserveCurrent observed

def upsertStep (tables : RetentionTables) (upsert : Upsert) : Option RetentionTables :=
  some (tables.upsert lib siteId upsert)

/-- The tables, against all observations so far. -/
structure AllRecorded (upserts : List Upsert) (tables : RetentionTables) : Prop where
  optical : Recorded opticalRules
    (seenAll opticalRules (upserts.filterMap (Upsert.opticalObserved lib siteId)))
      tables.optical
  lldp : Recorded lldpRules
    (seenAll lldpRules (upserts.filterMap (Upsert.lldpObserved lib))) tables.lldp
  interfaces : Recorded interfaceRules
    (seenAll interfaceRules (upserts.filterMap (Upsert.interfaceObserved lib siteId)))
    tables.interfaces

variable {lib siteId}

theorem seenAll_concat {Key Current Observation : Type} [DecidableEq Key]
    (rules : HistoryRules Key Current Observation) (observedBy : Upsert → Option Observation)
    (upserts : List Upsert) (upsert : Upsert) :
    seenAll rules ((upserts ++ [upsert]).filterMap observedBy) =
      match observedBy upsert with
      | none => seenAll rules (upserts.filterMap observedBy)
      | some observed => see rules (seenAll rules (upserts.filterMap observedBy)) observed := by
  rw [filterMap_append]
  cases observation : observedBy upsert with
  | none => simp [observation]
  | some observed => simp [observation, seenAll]

theorem AllRecorded.upsert {upserts : List Upsert} {tables : RetentionTables}
    (recorded : AllRecorded lib siteId upserts tables) {upsert : Upsert}
    (inTurn : InTurn lib siteId tables upsert) :
    AllRecorded lib siteId (upserts ++ [upsert]) (tables.upsert lib siteId upsert) := by
  obtain ⟨optical, lldp, interfaces⟩ := recorded
  constructor <;> rw [seenAll_concat]
  · cases upsert with
    | lldp =>
      simp only [RetentionTables.upsert]
      exact optical
    | interface =>
      simp only [RetentionTables.upsert]
      exact optical
    | optical side now row =>
      simp only [RetentionTables.upsert, upsertOpticalCurrentAndHistory, Upsert.opticalObserved]
      cases observation : opticalObservation lib siteId side now row with
      | none => exact optical
      | some observed => exact optical.record (inTurn observed observation)
  · cases upsert with
    | optical =>
      simp only [RetentionTables.upsert]
      exact lldp
    | interface =>
      simp only [RetentionTables.upsert]
      exact lldp
    | lldp sourceRevision now row =>
      simp only [RetentionTables.upsert, upsertLldpCurrentAndHistory, Upsert.lldpObserved]
      cases observation : lldpObservation lib sourceRevision now row with
      | none => exact lldp
      | some observed => exact lldp.record (inTurn observed observation)
  · cases upsert with
    | optical =>
      simp only [RetentionTables.upsert]
      exact interfaces
    | lldp =>
      simp only [RetentionTables.upsert]
      exact interfaces
    | interface now preserveCurrent row =>
      simp only [RetentionTables.upsert, upsertInterfaceCurrentAndHistory, Upsert.interfaceObserved]
      cases observation : interfaceObservation lib siteId now row with
      | none => exact interfaces
      | some observed => exact interfaces.record (inTurn observed observation)

theorem AllRecorded.run {first last : RetentionTables} {upserts : List Upsert}
    (run : GuardedRun (upsertStep lib siteId) (InTurn lib siteId) first upserts last)
    {before : List Upsert} (recorded : AllRecorded lib siteId before first) :
    AllRecorded lib siteId (before ++ upserts) last := by
  induction run generalizing before with
  | nil state => simpa using recorded
  | cons met taken _ ih =>
    cases taken
    have next := ih (recorded.upsert met)
    rwa [append_assoc, singleton_append] at next

/-- In a run of upserts in turn every history is that of the entity's changes. -/
theorem histories_of_changes {tables : RetentionTables} {upserts : List Upsert}
    (run : GuardedRun (upsertStep lib siteId) (InTurn lib siteId) noRows upserts tables) :
    HistoriesOfChanges lib siteId upserts tables := by
  have initially : AllRecorded lib siteId [] noRows :=
    ⟨Recorded.empty _, Recorded.empty _, Recorded.empty _⟩
  have recorded := AllRecorded.run run initially
  exact ⟨recorded.optical.changeHistory, recorded.lldp.changeHistory,
    recorded.interfaces.changeHistory⟩

end Runs

/-! ## An interface that goes down -/

/-- The JSON text of the interface below, whose only state is that of its link. -/
def linkState (link : String) : String :=
  "\x7b\"admin_status\":\"\",\"category\":\"\",\"description\":\"\",\"device_uuid\":\"sw-1\"," ++
  "\"duplex\":\"\",\"interface_name\":\"GE1/0/1\",\"interface_type\":\"\",\"ip_address\":\"\"," ++
  "\"last_change\":\"\",\"link_status\":\"" ++ link ++ "\",\"mac_address\":\"\"," ++
  "\"media_attribute\":\"\",\"media_type\":\"\",\"native_vlan\":\"\",\"physical_status\":\"\"," ++
  "\"port_mode\":\"\",\"port_status\":\"\",\"protocol_status\":\"\",\"pvid\":\"\"," ++
  "\"pvid_source\":\"\",\"pvid_verified\":\"\",\"speed\":\"\",\"tagged_vlans\":\"\"," ++
  "\"untagged_vlans\":\"\",\"vlan\":\"\",\"vlan_config_status\":\"\",\"vlan_warnings\":\"\"\x7d"

def linkDumps : Json → String
  | .obj fields =>
    match fields.lookup "link_status" with
    | some (.str link) => linkState link
    | _ => ""
  | _ => ""

/-- The SHA-256 of the two texts. -/
def linkDigest (text : String) : String :=
  if text = linkState "UP" then "b2487c73b8d1ef33742f17d57633fe84065cbaf7e6ada8011131f79d29f5eace"
  else if text = linkState "DOWN" then
    "d85f74569e88f0b6b274e990bf6be0f38e0ccaf74687aa62c620a3e63e6c43a6"
  else ""

/-- What the libraries compute of the rows below. -/
def linkLibrary : RetentionLibrary where
  python := { Worker.PythonLibrary.plain with intOfFloat := fun _ => .error .valueError }
  sha256 := linkDigest
  dumps := linkDumps
  dumpsSorted := linkDumps
  decimalText := some
  decimalLe _ _ := none
  normalizeMacKey _ := none
  evaluateApBusinessRx _ := "unknown"
  normalizeLldpPayload row _ := row
  normalizeInterfaceKey _ := ""
  formatH3cMac := fun _ => ""
  nowIso := "2026-09-01T00:00:00+08:00"

def interfaceRow (link collectedAt : String) : Event :=
  [("device_uuid", .str "sw-1"), ("interface_name", .str "GE1/0/1"), ("link_status", .str link),
    ("collected_at", .str collectedAt)]

def interfaceUpsert (preserveCurrent : Bool) (link collectedAt : String) : Upsert :=
  .interface collectedAt preserveCurrent (interfaceRow link collectedAt)

/-- The interface goes down while its current row is preserved, and is seen down again. -/
def preservedChange : List Upsert :=
  [interfaceUpsert false "UP" "2026-09-01T00:00:00",
    interfaceUpsert true "DOWN" "2026-09-01T00:01:00",
    interfaceUpsert true "DOWN" "2026-09-01T00:02:00"]

/-- A change beside a preserved current row is recorded twice. -/
theorem not_historiesOfChanges : ¬∀ upserts, HistoriesOfChanges linkLibrary "site-a" upserts
      (upserts.foldl (RetentionTables.upsert linkLibrary "site-a") noRows) := by
  intro always
  have kept := congrArg List.length ((always preservedChange).interfaces ("sw-1", "GE1/0/1")).kept
  rw [length_map, length_drop] at kept
  have rows : ((preservedChange.foldl (RetentionTables.upsert linkLibrary "site-a")
      noRows).interfaces.historyOf ("sw-1", "GE1/0/1")).length = 2 := by
    decide +kernel
  have changes : (seenAll interfaceRules (preservedChange.filterMap
      (Upsert.interfaceObserved linkLibrary "site-a")) ("sw-1", "GE1/0/1")).changes.length = 1 := by
    decide +kernel
  rw [rows, changes] at kept
  have limit : interfaceRules.limit = 10 := rfl
  omega

def replacedChange : List Upsert :=
  [interfaceUpsert false "UP" "2026-09-01T00:00:00",
    interfaceUpsert false "DOWN" "2026-09-01T00:01:00",
    interfaceUpsert true "DOWN" "2026-09-01T00:02:00"]

theorem replacedChange_run : GuardedRun (upsertStep linkLibrary "site-a")
    (InTurn linkLibrary "site-a") noRows replacedChange
      (replacedChange.foldl (RetentionTables.upsert linkLibrary "site-a") noRows) := by
  have inTurn : ∀ {tables : RetentionTables} {now : String} {preserve : Bool} {row : Event},
      ((interfaceObservation linkLibrary "site-a" now row).all
        (Chronological.holds interfaceRules tables.interfaces preserve)) = true →
      InTurn linkLibrary "site-a" tables (.interface now preserve row) := by
    intro tables now preserve row tested observed observation
    rw [observation] at tested
    exact Chronological.of_holds tested
  refine .cons (inTurn ?_) rfl (.cons (inTurn ?_) rfl (.cons (inTurn ?_) rfl (.nil _)))
  all_goals decide +kernel

theorem histories_of_replacedChange : HistoriesOfChanges linkLibrary "site-a" replacedChange
      (replacedChange.foldl (RetentionTables.upsert linkLibrary "site-a") noRows) :=
  histories_of_changes replacedChange_run

end NetConsole.Retention
