import NetConsole.Foundations.BoundedHistory
import NetConsole.Retention.Rows

/-!
# Current tables with change-only histories

Optical readings, LLDP neighbours and device interfaces of a site are each kept in
a current table and a bounded history table. The three upserts differ in what
identifies an entity, in the columns of their current rows and in the flag that
preserves the current row; what they do with their tables is `HistoryTables.record`.

The site is that of the database, so that rows carry it but are not told apart by it.
A row that the projection refuses, or that makes it raise, changes nothing.
-/

set_option autoImplicit false

namespace NetConsole.Retention

open Foundations
open Worker (Event)

/-- A projection and the time of its upsert. -/
structure Timed (Projection : Type) where
  projection : Projection
  now : String

/-! ## Optical readings -/

/-- A current optical row. -/
structure OpticalCurrent where
  columns : OpticalProjection
  (lastSeenAt firstSeenAt createdAt updatedAt : String)

/-- An access point and a side. -/
abbrev OpticalEntity := String × OpticalSide

/-- The optical history. -/
abbrev OpticalTables := HistoryTables OpticalEntity OpticalCurrent (Timed OpticalProjection)

/-- `OPTICAL_HISTORY_LIMIT`, and the columns that an upsert writes. -/
def opticalRules : HistoryRules OpticalEntity OpticalCurrent (Timed OpticalProjection) where
  limit := 10
  entityOf observed := (observed.projection.apIdentity, observed.projection.side)
  stateOf observed := observed.projection.stateJson
  fingerprintOf observed := observed.projection.stateFingerprint
  changedAtOf observed := observed.projection.collectedAt
  insertCurrent observed :=
    { columns := observed.projection, lastSeenAt := observed.projection.collectedAt
      firstSeenAt := observed.projection.collectedAt, createdAt := observed.now
      updatedAt := observed.now }
  updateCurrent _ row observed :=
    { row with
      columns := observed.projection, lastSeenAt := observed.projection.collectedAt
      updatedAt := observed.now }
  currentState row := row.columns.stateJson
  currentFingerprint row := row.columns.stateFingerprint
  state_insert := fun _ => rfl
  fingerprint_insert := fun _ => rfl
  state_update := fun _ _ _ => rfl
  fingerprint_update := fun _ _ _ => rfl

section Upserts

variable (lib : RetentionLibrary) (siteId : String)

/-- What is recorded of a row. -/
def opticalObservation (side : OpticalSide) (now : String) (row : Event) :
    Option (Timed OpticalProjection) :=
  (buildOpticalProjection lib siteId side now row).map fun projection => { projection, now }

/-- `upsert_optical_current_and_history`, with the projection that it returns. -/
def upsertOpticalCurrentAndHistory (side : OpticalSide) (now : String) (row : Event)
    (tables : OpticalTables) : OpticalTables × Option OpticalProjection :=
  match opticalObservation lib siteId side now row with
  | none => (tables, none)
  | some observed => (tables.record opticalRules false observed, some observed.projection)

/-! ## LLDP neighbours -/

/-- A current LLDP row. -/
structure LldpCurrent where
  columns : LldpProjection
  (firstSeenAt lastSeenAt : String)
  changedAt : Option String
  (createdAt updatedAt : String)

/-- The LLDP history. -/
abbrev LldpTables := HistoryTables (String × String) LldpCurrent (Timed LldpProjection)

/-- The rules of the LLDP history. -/
def lldpRules : HistoryRules (String × String) LldpCurrent (Timed LldpProjection) where
  limit := 10
  entityOf observed := (observed.projection.acDeviceUuid, observed.projection.apUuid)
  stateOf observed := observed.projection.stateJson
  fingerprintOf observed := observed.projection.stateFingerprint
  changedAtOf observed := observed.projection.collectedAt
  insertCurrent observed :=
    { columns := observed.projection, firstSeenAt := observed.projection.collectedAt
      lastSeenAt := observed.projection.collectedAt, changedAt := none, createdAt := observed.now
      updatedAt := observed.now }
  updateCurrent changed row observed :=
    { row with
      columns := observed.projection, lastSeenAt := observed.projection.collectedAt
      changedAt := if changed then some observed.projection.collectedAt else row.changedAt
      updatedAt := observed.now }
  currentState row := row.columns.stateJson
  currentFingerprint row := row.columns.stateFingerprint
  state_insert := fun _ => rfl
  fingerprint_insert := fun _ => rfl
  state_update := fun _ _ _ => rfl
  fingerprint_update := fun _ _ _ => rfl

/-- `now or _now_iso()`. -/
def timeOr (now : String) : String := if now = "" then lib.nowIso else now

/-- The time of the row is both its `collected_at` and the time of its change. -/
def lldpObservation (sourceRevision now : String) (row : Event) : Option (Timed LldpProjection) :=
  let timestamp := lldpTimestamp lib row (timeOr lib now)
  (buildLldpProjection lib sourceRevision timestamp row).map fun projection =>
    { projection, now := timeOr lib now }

/-- An LLDP row is recorded. -/
def upsertLldpCurrentAndHistory (sourceRevision now : String) (row : Event) (tables : LldpTables) :
    LldpTables :=
  match lldpObservation lib sourceRevision now row with
  | none => tables
  | some observed => tables.record lldpRules false observed

/-! ## Interfaces -/

/-- A current interface row. -/
structure InterfaceCurrent where
  columns : InterfaceProjection
  (firstSeenAt lastSeenAt : String)
  changedAt : Option String

/-- The interface history. -/
abbrev InterfaceTables :=
  HistoryTables (String × String) InterfaceCurrent (Timed InterfaceProjection)

/-- `INTERFACE_HISTORY_LIMIT`, and the columns that an upsert writes. -/
def interfaceRules :
    HistoryRules (String × String) InterfaceCurrent (Timed InterfaceProjection) where
  limit := 10
  entityOf observed := (observed.projection.deviceUuid, observed.projection.interfaceName)
  stateOf observed := observed.projection.stateJson
  fingerprintOf observed := observed.projection.stateFingerprint
  changedAtOf observed := observed.projection.collectedAt
  insertCurrent observed :=
    { columns := observed.projection, firstSeenAt := observed.projection.collectedAt
      lastSeenAt := observed.projection.collectedAt, changedAt := none }
  updateCurrent changed row observed :=
    { row with
      columns := observed.projection, lastSeenAt := observed.projection.collectedAt
      changedAt := if changed then some observed.projection.collectedAt else row.changedAt }
  currentState row := row.columns.stateJson
  currentFingerprint row := row.columns.stateFingerprint
  state_insert := fun _ => rfl
  fingerprint_insert := fun _ => rfl
  state_update := fun _ _ _ => rfl
  fingerprint_update := fun _ _ _ => rfl

/-- What is recorded of an interface row. -/
def interfaceObservation (now : String) (row : Event) : Option (Timed InterfaceProjection) :=
  (buildInterfaceProjection lib siteId (timeOr lib now) row).map fun projection =>
    { projection, now := timeOr lib now }

/-- An interface row is recorded. -/
def upsertInterfaceCurrentAndHistory (now : String) (preserveCurrent : Bool) (row : Event)
    (tables : InterfaceTables) : InterfaceTables :=
  match interfaceObservation lib siteId now row with
  | none => tables
  | some observed => tables.record interfaceRules preserveCurrent observed

end Upserts

end NetConsole.Retention
