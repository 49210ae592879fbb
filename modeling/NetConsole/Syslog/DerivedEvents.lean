import NetConsole.Syslog.RawRewrite
import NetConsole.Syslog.RawStream

/-!
# Events derived from raw syslog records

A structured event refers to the raw line that it was made from by the file and
the line number, in its own columns or in its details. A selective deletion
(`DeleteMode`) names records by such references too, and it removes or marks the
events of the removed records: `apply_syslog_deletion_metadata` finds them with
`syslogReferenceMatches`.

What a filter deletion accepts, and how a line is decoded, are parameters. Of an
event the model keeps what the deletion reads or writes; numbers are what
`_optional_int` makes of the stored values.
-/

set_option autoImplicit false

namespace NetConsole.Syslog

open List

/-! ## References and keys -/

/-- What `_record_reference` returns. -/
structure RecordReference where
  rawFileId : String
  (globalReceiveSequence sourceReceiveSequence : Option Int)
  rawLineNumber : Nat
  deriving DecidableEq

/-- A record key of a `SELECTED` deletion. -/
structure RecordKey where
  rawFileId : String
  (globalReceiveSequence sourceReceiveSequence rawLineNumber : Option Int)
  deriving DecidableEq

/-- How raw lines are read: `_decode_record`, and the fields of a record. -/
structure RecordReader (Record : Type) where
  decodeRecord : List UInt8 → Option Record
  receiveTime : Record → String
  globalReceiveSequence : Record → Option Int
  sourceReceiveSequence : Record → Option Int

section Scope

variable {Record : Type} (reader : RecordReader Record)

def recordReference (record : Record) (fileId : String) (lineNumber : Nat) : RecordReference where
  rawFileId := fileId
  globalReceiveSequence := reader.globalReceiveSequence record
  sourceReceiveSequence := reader.sourceReceiveSequence record
  rawLineNumber := lineNumber

/-- A field that the key leaves out fits every record. -/
def fieldFits (expected candidate : Option Int) : Bool := expected.isNone || candidate = expected

/-- The record has the key. -/
def selectedKeyMatches (candidate : RecordReference) (expected : RecordKey) : Bool :=
  candidate.rawFileId = expected.rawFileId &&
    fieldFits expected.globalReceiveSequence candidate.globalReceiveSequence &&
    fieldFits expected.sourceReceiveSequence candidate.sourceReceiveSequence &&
    fieldFits expected.rawLineNumber (some candidate.rawLineNumber)

/-- The mode of a deletion with its parameters. -/
inductive DeleteMode (Record : Type) where
  | runAll
  | selected (recordKeys : List RecordKey)
  | filtered (accepts : Record → Bool)
  | unknown

/-- The deletion takes the record. -/
def DeleteMode.matchesDeleteScope (mode : DeleteMode Record) (record : Record) (fileId : String)
    (lineNumber : Nat) : Except LifecycleError Bool :=
  match mode with
  | .runAll => .ok true
  | .selected recordKeys =>
    .ok (recordKeys.any (selectedKeyMatches (recordReference reader record fileId lineNumber)))
  | .filtered accepts => .ok (accepts record)
  | .unknown => .error .deleteModeInvalid

/-- The mode as a scope of deletion. -/
def DeleteMode.scope (mode : DeleteMode Record) : DeletionScope Record RecordReference where
  decodeRecord := reader.decodeRecord
  receiveTime := reader.receiveTime
  recordReference := recordReference reader
  matchesDeleteScope := mode.matchesDeleteScope reader

end Scope

/-! ## Events -/

/-- The keys of `details_json`. -/
structure EventDetails where
  rawFileId : String
  (rawLineNumber globalReceiveSequence sourceReceiveSequence : Option Int)
  sourceDeleted : Bool
  deriving DecidableEq

/-- A row of `ground_unattended_wmesh_events`. -/
structure WmeshEvent where
  id : Nat
  (runId rawFileId : String)
  rawLineNumber : Option Int
  details : EventDetails
  deriving DecidableEq

/-- A row of `ground_unattended_events`. -/
structure TimelineEvent where
  id : Nat
  (runId eventType : String)
  details : EventDetails
  deriving DecidableEq

/-- The reference of an event, as `_syslog_reference_matches` reads it. -/
structure EventReference where
  rawFileId : String
  (rawLineNumber globalReceiveSequence sourceReceiveSequence : Option Int)
  deriving DecidableEq

/-- The columns come before the details. -/
def WmeshEvent.reference (event : WmeshEvent) : EventReference where
  rawFileId := firstOf event.rawFileId event.details.rawFileId
  rawLineNumber := event.rawLineNumber.or event.details.rawLineNumber
  globalReceiveSequence := event.details.globalReceiveSequence
  sourceReceiveSequence := event.details.sourceReceiveSequence

def TimelineEvent.reference (event : TimelineEvent) : EventReference where
  rawFileId := event.details.rawFileId
  rawLineNumber := event.details.rawLineNumber
  globalReceiveSequence := event.details.globalReceiveSequence
  sourceReceiveSequence := event.details.sourceReceiveSequence

/-- The loop over the discriminators of a reference: it stops at a difference,
and at least one has to agree. -/
def discriminatorsAgree (matched : Bool) : List (Option Int × Option Int) → Bool
  | [] => matched
  | (some expected, some candidate) :: rest =>
    if expected = candidate then discriminatorsAgree true rest else false
  | _ :: rest => discriminatorsAgree matched rest

/-- One round of `_syslog_reference_matches`. -/
def RecordReference.agrees (reference : RecordReference) (candidate : EventReference) : Bool :=
  (reference.rawFileId = "" || candidate.rawFileId = reference.rawFileId) &&
    discriminatorsAgree false [(some reference.rawLineNumber, candidate.rawLineNumber),
        (reference.globalReceiveSequence, candidate.globalReceiveSequence),
        (reference.sourceReceiveSequence, candidate.sourceReceiveSequence)]

/-- The event comes from one of the records. -/
def syslogReferenceMatches (references : List RecordReference)
    (candidate : EventReference) : Bool :=
  references.any fun reference => reference.agrees candidate

/-! ## The tables -/

/-- The two tables of derived events. -/
structure EventTables where
  wmesh : List WmeshEvent
  timeline : List TimelineEvent

/-- The timeline events that `_find_syslog_derived_ids` looks at. -/
def derivedTimelineTypes : List String :=
  ["mesh_linkup", "mesh_linkdown", "mesh_activelink_switch", "ifnet_phy_updown"]

/-- The events that `_find_syslog_derived_ids` returns. -/
def WmeshEvent.isDerived (runId : String) (references : List RecordReference)
    (event : WmeshEvent) : Bool :=
  event.runId = runId && syslogReferenceMatches references event.reference

/-- The event was derived from one of the records. -/
def TimelineEvent.isDerived (runId : String) (references : List RecordReference)
    (event : TimelineEvent) : Bool :=
  event.runId = runId && event.eventType ∈ derivedTimelineTypes &&
    syslogReferenceMatches references event.reference

/-- `_mark_source_deleted` on one row. -/
def WmeshEvent.markSourceDeleted (event : WmeshEvent) : WmeshEvent :=
  { event with details := { event.details with sourceDeleted := true } }

/-- The event says that its record is deleted. -/
def TimelineEvent.markSourceDeleted (event : TimelineEvent) : TimelineEvent :=
  { event with details := { event.details with sourceDeleted := true } }

/-- What `apply_syslog_deletion_metadata` does to the events. -/
def EventTables.deriveDeletion (runId : String) (includeDerivedEvents : Bool)
    (references : List RecordReference) (tables : EventTables) : EventTables :=
  if includeDerivedEvents then
    { wmesh := tables.wmesh.filter fun event => !event.isDerived runId references
      timeline := tables.timeline.filter fun event => !event.isDerived runId references }
  else
    { wmesh := tables.wmesh.map fun event =>
        if event.isDerived runId references then event.markSourceDeleted else event
      timeline := tables.timeline.map fun event =>
        if event.isDerived runId references then event.markSourceDeleted else event }

/-- The references that the stored events carry. -/
def EventTables.references (tables : EventTables) : List EventReference :=
  tables.wmesh.map WmeshEvent.reference ++ tables.timeline.map TimelineEvent.reference

/-- The references of the events that a deletion leaves in the tables. -/
def EventTables.staying (runId : String) (includeDerivedEvents : Bool)
    (references : List RecordReference) (tables : EventTables) : List EventReference :=
  (tables.wmesh.filter fun event =>
      !(includeDerivedEvents && event.isDerived runId references)).map WmeshEvent.reference ++
    (tables.timeline.filter fun event =>
      !(includeDerivedEvents && event.isDerived runId references)).map TimelineEvent.reference

theorem references_deriveDeletion (runId : String) (includeDerivedEvents : Bool)
    (references : List RecordReference) (tables : EventTables) :
    (tables.deriveDeletion runId includeDerivedEvents references).references =
      tables.staying runId includeDerivedEvents references := by
  cases includeDerivedEvents with
  | true => rfl
  | false =>
    have wmesh : ∀ event : WmeshEvent, (if event.isDerived runId references then
        event.markSourceDeleted else event).reference = event.reference := by
      intro event
      split <;> rfl
    have timeline : ∀ event : TimelineEvent, (if event.isDerived runId references then
        event.markSourceDeleted else event).reference = event.reference := by
      intro event
      split <;> rfl
    simp [EventTables.references, EventTables.deriveDeletion, EventTables.staying,
      Function.comp_def, wmesh, timeline]

theorem staying_subset {runId : String} {includeDerivedEvents : Bool}
    {references : List RecordReference} {tables : EventTables} {reference : EventReference}
    (stays : reference ∈ tables.staying runId includeDerivedEvents references) :
    reference ∈ tables.references := by
  rcases mem_append.mp stays with wmesh | timeline
  · exact mem_append_left _ ((filter_sublist.map _).subset wmesh)
  · exact mem_append_right _ ((filter_sublist.map _).subset timeline)

/-! ## Deletions -/

/-- A deletion that has been planned. -/
structure SyslogDeletion (Record : Type) where
  (siteId runId operationId : String)
  mode : DeleteMode Record
  files : List PlannedFile
  expectedMatchedCount : Nat
  includeDerivedEvents : Bool

def SyslogDeletion.plan {Record : Type} (reader : RecordReader Record)
    (deletion : SyslogDeletion Record) : DeletionPlan Record RecordReference EventTables where
  siteId := deletion.siteId
  runId := deletion.runId
  operationId := deletion.operationId
  scope := deletion.mode.scope reader
  files := deletion.files
  expectedMatchedCount := deletion.expectedMatchedCount
  deriveDeletion references tables :=
    tables.deriveDeletion deletion.runId deletion.includeDerivedEvents references

/-! ## What a reference says -/

theorem RecordReference.agrees_line {reference : RecordReference} {candidate : EventReference}
    {number : Int} (named : reference.rawFileId ≠ "")
    (carried : candidate.rawLineNumber = some number)
    (matched : reference.agrees candidate = true) :
    reference.rawFileId = candidate.rawFileId ∧ (reference.rawLineNumber : Int) = number := by
  simp only [agrees, carried, discriminatorsAgree, Bool.and_eq_true, Bool.or_eq_true,
    decide_eq_true_eq, named, false_or] at matched
  obtain ⟨file, line⟩ := matched
  refine ⟨file.symm, ?_⟩
  split at line
  case isTrue same => exact same
  case isFalse => cases line

end NetConsole.Syslog
