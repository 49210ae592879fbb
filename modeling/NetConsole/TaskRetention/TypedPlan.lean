import Mathlib.Data.List.Dedup
import Mathlib.Data.List.Infix
import Mathlib.Data.List.ReduceOption
import Mathlib.Data.String.Basic
import NetConsole.Foundations.FallibleMaps
import NetConsole.Foundations.IntegerRanges
import NetConsole.TaskCenter.Repository

/-!
# The typed retention plan

`preview_typed_task_retention` scans a database of tasks and plans what is archived. Tasks are
protected by what their snapshots say; the scan of the events protects more of them, when the
time of an event cannot be read or its task is unknown, and selects old events in the same loop.

What is selected before its task becomes ambiguous stays selected. So the plan respects the
protection it lists exactly if what makes a task ambiguous comes before its old events
(`previewTypedTaskRetention_respects_iff`).
-/

set_option autoImplicit false

namespace NetConsole.TaskRetention

open Foundations List
open Syslog (firstOf)
open TaskCenter (ResultFormat ResultRow TaskError TaskState VerifiedResult readBlob stripped
  verifyTaskResultRow)

/-! ## The database -/

/-- A row of `task_snapshots`. -/
structure SnapshotRow where
  (taskId taskType status resultPath resultJson resultId : String)

/-- A row of `task_events`. -/
structure EventRow where
  sequence : Int
  (eventId taskId eventType eventTime source payloadJson : String)

/-- A database of tasks; the sequence is the primary key of the events. -/
structure TasksDatabase where
  snapshots : List SnapshotRow
  events : List EventRow
  ordered : events.Pairwise fun one other => one.sequence < other.sequence
  results : List ResultRow
  blobs : String → Option String
  /-- The task column of `online_mr_task_sessions`. -/
  onlineMrTasks : List String

/-- What the standard library computes; times are in microseconds since 1970. -/
structure RetentionLibrary where
  upper : String → String
  casefold : String → String
  /-- `datetime.fromisoformat`, in UTC: `none` for a `ValueError`, while a time outside the
  calendar raises. -/
  fromIsoFormat : String → Except TaskError (Option Int)

/-- How a plan fails. -/
inductive RetentionError where
  | task (error : TaskError)
  | resultAuthorityMissing (resultId : String)
  deriving DecidableEq

/-- Why a task is protected. -/
inductive Protection where
  | active | onlineMr | ground | artifact | ambiguous
  deriving DecidableEq

section Reading

variable {Result : Type} (lib : RetentionLibrary) (format : ResultFormat Result)

/-- The result of a row, checked. -/
def verifyTaskResultAuthority (blobs : String → Option String) (row : ResultRow) :
    Except TaskError (VerifiedResult Result) :=
  if row.blobReady then
    (readBlob format blobs (firstOf row.contentSha256 row.sha256) row.byteSize).bind
      (verifyTaskResultRow format row)
  else if row.contentSha256 ≠ "" then .error (.database "task result blob is not ready")
  else verifyTaskResultRow format row row.canonicalJson

/-- The instant of a text; an empty one has none. -/
def parseDatetime (value : String) : Except TaskError (Option Int) :=
  let text := stripped value
  if text = "" then .ok none
  else lib.fromIsoFormat (String.ofList (text.toList.flatMap fun char =>
    if char = 'Z' then "+00:00".toList else [char]))

def days (count : Int) : Int := count * (24 * 60 * 60 * 1000000)

/-- `part in text`. -/
def contains (text part : String) : Bool := part.toList <:+: text.toList

/-- Why a snapshot is protected by itself. -/
def taskRetentionProtection (onlineMrIds : List String) (row : SnapshotRow) : Option Protection :=
  let status := lib.upper row.status
  let taskType := lib.casefold row.taskType
  if status ∈ TaskState.activeStates.map TaskState.text then some .active
  else if row.taskId ∈ onlineMrIds ∨ contains taskType "online_mr" then some .onlineMr
  else if "ground_".toList <+: taskType.toList ∨ contains taskType "ground_unattended" then
    some .ground
  else if stripped row.resultPath ≠ "" ∨ contains row.resultJson "\"artifact_id\"" ∨
      contains row.resultJson "\"artifact_path\"" ∨ contains row.resultJson "\"artifact_name\"" then
    some .artifact
  else none

/-- A snapshot with the text of its sealed result. -/
def withResultAuthority (authority : List (VerifiedResult Result)) (row : SnapshotRow) :
    Except RetentionError SnapshotRow :=
  if row.resultId = "" ∨ stripped row.resultJson ∉ ["", "\x7b\x7d", "null"] then .ok row
  else
    match authority.find? fun verified => verified.row.resultId = row.resultId with
    | none => .error (.resultAuthorityMissing row.resultId)
    | some verified => .ok { row with resultJson := verified.canonicalJson }

/-- `dict.setdefault`. -/
def setDefault (entries : List (String × Protection)) (key : String) (value : Protection) :
    List (String × Protection) :=
  if key ∈ entries.map Prod.fst then entries else entries ++ [(key, value)]

/-- The tasks that their snapshots protect. -/
def snapshotProtection (onlineMrIds : List String) (snapshots : List SnapshotRow) :
    List (String × Protection) :=
  snapshots.filterMap fun row =>
    (taskRetentionProtection lib onlineMrIds row).map fun reason => (row.taskId, reason)

/-! ## The scan of the events -/

/-- The variables of the loop over the events. -/
structure EventScan where
  protection : List (String × Protection)
  archiveEvents : List EventRow

/-- The name under which an event of no known task is protected. -/
def orphanKey (event : EventRow) : String :=
  firstOf event.taskId ("orphan:" ++ toString event.sequence)

/-- Whether an event of this age is archived. -/
def oldEnough (eventType : String) (age : Int) : Bool :=
  if eventType = "progress" ∧ days 14 ≤ age then true
  else days (if eventType ∈ ["finished", "error", "cancelled"] then 90 else 30) ≤ age

/-- A step of the loop over the events. -/
def scanEvent (now : Int) (taskIds : List String) (scan : EventScan) (event : EventRow) :
    Except TaskError EventScan :=
  if event.taskId ∉ taskIds then
    .ok { scan with protection := setDefault scan.protection (orphanKey event) .ambiguous }
  else if event.taskId ∈ scan.protection.map Prod.fst then .ok scan
  else
    (parseDatetime lib event.eventTime).map fun timestamp =>
      match timestamp with
      | none => { scan with protection := setDefault scan.protection event.taskId .ambiguous }
      | some timestamp =>
        if oldEnough event.eventType (now - timestamp) then
          { scan with archiveEvents := scan.archiveEvents ++ [event] }
        else scan

/-- The result, when it is 90 days old and its task unprotected. -/
def archivedResult (now : Int) (taskIds : List String) (protection : List (String × Protection))
    (verified : VerifiedResult Result) : Except TaskError (Option (VerifiedResult Result)) :=
  (parseDatetime lib verified.row.createdTime).map fun created =>
    match created with
    | none => none
    | some created =>
      if verified.row.taskId ∈ taskIds ∧ verified.row.taskId ∉ protection.map Prod.fst ∧
          days 90 ≤ now - created then some verified
      else none

/-! ## The plan -/

/-- The keys as ranges. -/
def compressIntegerKeys (values : List Int) : List IntegerRange :=
  compress (values.dedup.mergeSort fun one other => one ≤ other)

/-- `_expand_integer_ranges`; `none` where it raises. -/
def expandIntegerRanges : List IntegerRange → Option (List Int)
  | [] => some []
  | range :: ranges =>
    if range.start ≤ 0 ∨ range.finish < range.start then none
    else (expandIntegerRanges ranges).map (range.keys ++ ·)

/-- An entry of `owner_decisions`. -/
structure OwnerDecision where
  (taskId status classification : String)
  protection : Option Protection
  (archiveEvents archiveResults : Nat)

/-- The plan, with the rows that its digests are of. -/
structure RetentionPlan (Result : Type) where
  archiveEvents : List EventRow
  archiveEventSequenceRanges : List IntegerRange
  archiveResults : List (VerifiedResult Result)
  ownerDecisions : List OwnerDecision
  protection : List (String × Protection)
  emptyScope : Bool

/-- What the plan says of a task. -/
def ownerDecision (snapshots : List SnapshotRow) (protection : List (String × Protection))
    (archiveEvents : List EventRow) (archiveResults : List (VerifiedResult Result))
    (taskId : String) : OwnerDecision :=
  let events := archiveEvents.countP fun event => event.taskId = taskId
  let results := archiveResults.countP fun verified => verified.row.taskId = taskId
  { taskId := taskId
    status := ((snapshots.find? fun row => row.taskId = taskId).map SnapshotRow.status).getD ""
    classification :=
      if taskId ∈ protection.map Prod.fst then "OPERATIONAL_CURRENT"
      else if 0 < events + results then "HISTORICAL_RAW_FACT_AND_DISPOSABLE"
      else "OPERATIONAL_LIGHTWEIGHT_INDEX"
    protection := protection.lookup taskId, archiveEvents := events, archiveResults := results }

/-- The verified results, and the snapshots with their texts. -/
def readTasks (database : TasksDatabase) :
    Except RetentionError (List (VerifiedResult Result) × List SnapshotRow) := do
  let authority ←
    (database.results.mapM (verifyTaskResultAuthority format database.blobs)).mapError .task
  let snapshots ← database.snapshots.mapM (withResultAuthority authority)
  return (authority, snapshots)

def TasksDatabase.taskIds (database : TasksDatabase) : List String :=
  database.snapshots.map SnapshotRow.taskId

/-- `protected` before the events are scanned. -/
def initialProtection (database : TasksDatabase) (snapshots : List SnapshotRow) :
    List (String × Protection) :=
  snapshotProtection lib (database.onlineMrTasks.filter (· ≠ "")) snapshots

/-- The plan; nothing is deleted. -/
def previewTypedTaskRetention (now : Int) (database : TasksDatabase) :
    Except RetentionError (RetentionPlan Result) := do
  let (authority, snapshots) ← readTasks format database
  let scan ← (database.events.foldlM (scanEvent lib now database.taskIds)
    ⟨initialProtection lib database snapshots, []⟩).mapError .task
  let archived ←
    (authority.mapM (archivedResult lib now database.taskIds scan.protection)).mapError .task
  let archiveResults := archived.reduceOption
  let ids := (database.taskIds ++ scan.archiveEvents.map EventRow.taskId ++
    archiveResults.map (·.row.taskId) ++ scan.protection.map Prod.fst).dedup.mergeSort
      fun one other => one ≤ other
  return {
    archiveEvents := scan.archiveEvents
    archiveEventSequenceRanges := compressIntegerKeys (scan.archiveEvents.map EventRow.sequence)
    archiveResults := archiveResults
    ownerDecisions :=
      ids.map (ownerDecision snapshots scan.protection scan.archiveEvents archiveResults)
    protection := scan.protection
    emptyScope := scan.archiveEvents.isEmpty && archiveResults.isEmpty }

end Reading

/-! ## What the scan selects -/

section Scan

variable (lib : RetentionLibrary) (now : Int) (taskIds : List String)

/-- The name that an event makes ambiguous, whatever was scanned before it. -/
def ambiguousKey (event : EventRow) : Option String :=
  if event.taskId ∉ taskIds then some (orphanKey event)
  else
    match parseDatetime lib event.eventTime with
    | .ok none => some event.taskId
    | _ => none

/-- An event of a known task whose time can be read, and that is old enough. -/
def Archivable (event : EventRow) : Prop :=
  event.taskId ∈ taskIds ∧
    ∃ timestamp, parseDatetime lib event.eventTime = .ok (some timestamp) ∧
    oldEnough event.eventType (now - timestamp) = true

variable {lib now taskIds}

theorem mem_setDefault {entries : List (String × Protection)} {key other : String}
    {value : Protection} : other ∈ (setDefault entries key value).map Prod.fst ↔
      other ∈ entries.map Prod.fst ∨ key = other := by
  unfold setDefault
  split
  · rename_i known
    exact ⟨Or.inl, fun either => either.elim id fun same => same ▸ known⟩
  · rw [map_append, mem_append, map_singleton, mem_singleton, eq_comm]

/-- What a step does: a name is added, or an event is selected, or neither. -/
theorem scanEvent_ok {scan next : EventScan} {event : EventRow}
    (ok : scanEvent lib now taskIds scan event = .ok next) :
    (∀ key, key ∈ next.protection.map Prod.fst ↔
      key ∈ scan.protection.map Prod.fst ∨ ambiguousKey lib taskIds event = some key) ∧
    ((next.archiveEvents = scan.archiveEvents ++ [event] ∧ Archivable lib now taskIds event ∧
        event.taskId ∉ scan.protection.map Prod.fst) ∨
      (next.archiveEvents = scan.archiveEvents ∧ ¬ (Archivable lib now taskIds event ∧
        event.taskId ∉ scan.protection.map Prod.fst))) := by
  unfold scanEvent at ok
  unfold ambiguousKey
  by_cases known : event.taskId ∉ taskIds
  · rw [if_pos known] at ok ⊢
    cases ok
    refine ⟨fun key => ?_, .inr ⟨rfl, fun selected => known selected.1.1⟩⟩
    rw [mem_setDefault, Option.some_inj]
  · rw [if_neg known] at ok ⊢
    by_cases kept : event.taskId ∈ scan.protection.map Prod.fst
    · rw [if_pos kept] at ok
      cases ok
      refine ⟨fun key => ⟨Or.inl, fun either => either.elim id fun made => ?_⟩,
        .inr ⟨rfl, fun selected => selected.2 kept⟩⟩
      split at made
      · exact Option.some.inj made ▸ kept
      · cases made
    · rw [if_neg kept] at ok
      obtain ⟨timestamp, read, next_eq⟩ := map_eq_ok.mp ok
      rw [read]
      cases timestamp with
      | none =>
        subst next_eq
        refine ⟨fun key => ?_, .inr ⟨rfl, fun selected => ?_⟩⟩
        · rw [mem_setDefault, Option.some_inj]
        · obtain ⟨-, timestamp, readable, -⟩ := selected.1
          rw [read] at readable
          cases readable
      | some timestamp =>
        have made : ∀ key, (none : Option String) ≠ some key := nofun
        by_cases old : oldEnough event.eventType (now - timestamp) = true
        · obtain rfl := (if_pos old).symm.trans next_eq
          exact ⟨fun key => (or_iff_left (made key)).symm,
            .inl ⟨rfl, ⟨not_not.mp known, timestamp, read, old⟩, kept⟩⟩
        · obtain rfl := (if_neg old).symm.trans next_eq
          refine ⟨fun key => (or_iff_left (made key)).symm, .inr ⟨rfl, fun selected => ?_⟩⟩
          obtain ⟨-, _, readable, aged⟩ := selected.1
          rw [read] at readable
          cases readable
          exact old aged

theorem foldlM_scanEvent {events : List EventRow} {scan final : EventScan}
    (ordered : events.Pairwise fun one other => one.sequence < other.sequence)
    (ok : events.foldlM (scanEvent lib now taskIds) scan = .ok final) :
    (∀ key, key ∈ final.protection.map Prod.fst ↔ key ∈ scan.protection.map Prod.fst ∨
      ∃ event ∈ events, ambiguousKey lib taskIds event = some key) ∧
    ∃ selected, final.archiveEvents = scan.archiveEvents ++ selected ∧ selected.Sublist events ∧
      ∀ event, event ∈ selected ↔ event ∈ events ∧ Archivable lib now taskIds event ∧
        event.taskId ∉ scan.protection.map Prod.fst ∧
        ∀ other ∈ events, other.sequence < event.sequence →
          ambiguousKey lib taskIds other ≠ some event.taskId := by
  induction events generalizing scan with
  | nil =>
    cases ok
    exact ⟨by simp, [], (append_nil _).symm, List.Sublist.refl _, by simp⟩
  | cons first rest ih =>
    rw [foldlM_cons] at ok
    obtain ⟨_, step, ok⟩ := bind_eq_ok.mp ok
    obtain ⟨later, ordered⟩ := pairwise_cons.mp ordered
    obtain ⟨keys, archive⟩ := scanEvent_ok step
    obtain ⟨finalKeys, selected, appended, sublist, members⟩ := ih ordered ok
    have irrefl := lt_irrefl first.sequence
    refine ⟨fun key => ?_, ?_⟩
    · rw [finalKeys, keys, or_assoc]
      simp
    · -- what holds of a later event
      have behind : ∀ event, event ∈ selected ↔ event ∈ rest ∧
          Archivable lib now taskIds event ∧ event.taskId ∉ scan.protection.map Prod.fst ∧
          ∀ other ∈ first :: rest, other.sequence < event.sequence →
            ambiguousKey lib taskIds other ≠ some event.taskId := by
        intro event
        rw [members, keys, not_or, and_assoc]
        refine and_congr_right fun mem => and_congr_right fun _ => and_congr_right fun _ => ?_
        rw [forall_mem_cons]
        exact and_congr_left fun _ =>
          ⟨fun unlike _ => unlike, fun all => all (later event mem)⟩
      have notFirst : ∀ other ∈ first :: rest, ¬ other.sequence < first.sequence :=
        forall_mem_cons.mpr ⟨irrefl, fun other mem => (later other mem).asymm⟩
      rcases archive with ⟨added, archivable, free⟩ | ⟨same, notSelected⟩
      · refine ⟨first :: selected, ?_, sublist.cons_cons first, fun event => ?_⟩
        · rw [appended, added, append_assoc]
          rfl
        · rw [mem_cons, behind, mem_cons, or_and_right]
          refine or_congr ⟨?_, And.left⟩ Iff.rfl
          rintro rfl
          exact ⟨rfl, archivable, free, fun other mem before =>
            absurd before (notFirst other mem)⟩
      · refine ⟨selected, appended.trans (congrArg (· ++ selected) same), sublist.cons first,
          fun event => ?_⟩
        rw [behind, mem_cons, or_and_right]
        refine (or_iff_right ?_).symm
        rintro ⟨rfl, archivable, free, -⟩
        exact notSelected ⟨archivable, free⟩

end Scan

/-! ## Ranges -/

/-- The code expands ranges of positive numbers only. -/
theorem expandIntegerRanges_eq_some {ranges : List IntegerRange} {keys : List Int} :
    expandIntegerRanges ranges = some keys ↔ keys = expandRanges ranges ∧
        ∀ range ∈ ranges, 0 < range.start ∧ range.start ≤ range.finish := by
  induction ranges generalizing keys with
  | nil =>
    unfold expandIntegerRanges
    rw [Option.some_inj]
    exact ⟨fun same => ⟨same.symm, nofun⟩, fun both => both.1.symm⟩
  | cons range ranges ih =>
    unfold expandIntegerRanges
    rw [forall_mem_cons]
    split
    · rename_i invalid
      refine ⟨nofun, fun both => ?_⟩
      have valid := both.2.1
      omega
    · rename_i valid
      rw [Option.map_eq_some_iff]
      constructor
      · rintro ⟨_, expanded, rfl⟩
        obtain ⟨rfl, rest⟩ := ih.mp expanded
        exact ⟨rfl, by omega, rest⟩
      · rintro ⟨rfl, -, rest⟩
        exact ⟨expandRanges ranges, ih.mpr ⟨rfl, rest⟩, rfl⟩

theorem expand_compressIntegerKeys {keys : List Int}
    (ordered : keys.Pairwise fun one other => one < other) :
    expandIntegerRanges (compressIntegerKeys keys) = some keys ↔ ∀ key ∈ keys, 0 < key := by
  have distinct : keys.Nodup := ordered.imp fun less => less.ne
  have sorted : compressIntegerKeys keys = compress keys := by
    unfold compressIntegerKeys
    rw [distinct.dedup, mergeSort_of_pairwise]
    exact ordered.imp fun less => decide_eq_true less.le
  have expanded := expandRanges_compress keys
  have inside : ∀ key, key ∈ keys ↔ ∃ range ∈ compress keys, key ∈ range.keys := fun key => by
    rw [← mem_flatMap]
    show key ∈ keys ↔ key ∈ expandRanges (compress keys)
    rw [expanded]
  rw [sorted, expandIntegerRanges_eq_some, expanded]
  constructor
  · rintro ⟨-, positive⟩ key mem
    obtain ⟨range, listed, among⟩ := (inside key).mp mem
    exact (positive range listed).1.trans_le (IntegerRange.mem_keys.mp among).1
  · intro positive
    refine ⟨rfl, fun range listed => ?_⟩
    have order := compress_order keys range listed
    exact ⟨positive _ ((inside _).mpr
      ⟨range, listed, IntegerRange.mem_keys.mpr ⟨Int.le_refl _, order⟩⟩),
      order⟩

/-! ## Protection -/

section Plan

variable {Result : Type} (lib : RetentionLibrary) (format : ResultFormat Result)

/-- The plan archives nothing of a task that it lists as protected, and its ranges are those of the
selected events. -/
structure RespectsProtection (plan : RetentionPlan Result) : Prop where
  events : ∀ event ∈ plan.archiveEvents, event.taskId ∉ plan.protection.map Prod.fst
  results : ∀ verified ∈ plan.archiveResults, verified.row.taskId ∉ plan.protection.map Prod.fst
  ranges : expandIntegerRanges plan.archiveEventSequenceRanges =
    some (plan.archiveEvents.map EventRow.sequence)

/-- The snapshots protect the task, whatever the events say. -/
def ProtectedBySnapshot (database : TasksDatabase) (taskId : String) : Prop :=
  ∃ authority snapshots, readTasks format database = .ok (authority, snapshots) ∧
    taskId ∈ (initialProtection lib database snapshots).map Prod.fst

/-- Each old event of a task that its snapshot does not protect comes after one that makes the task
ambiguous, or no event does that, and its number is positive. -/
def AmbiguousFirst (now : Int) (database : TasksDatabase) : Prop :=
  ∀ event ∈ database.events, Archivable lib now database.taskIds event →
    ¬ ProtectedBySnapshot lib format database event.taskId →
      (∃ other ∈ database.events, other.sequence < event.sequence ∧
        ambiguousKey lib database.taskIds other = some event.taskId) ∨
      (0 < event.sequence ∧ ∀ other ∈ database.events,
        ambiguousKey lib database.taskIds other ≠ some event.taskId)

variable {lib format}

theorem mapError_eq_ok {ε ε' α : Type} {raise : ε → ε'} {step : Except ε α} {value : α}
    (ok : step.mapError raise = .ok value) : step = .ok value := by
  cases step with
  | error raised => cases ok
  | ok read => exact congrArg Except.ok (Except.ok.inj ok)

theorem archivedResult_ok {now : Int} {taskIds : List String}
    {protection : List (String × Protection)} {one two : VerifiedResult Result}
    (ok : archivedResult lib now taskIds protection one = .ok (some two)) :
    two.row.taskId ∉ protection.map Prod.fst := by
  obtain ⟨created, _, kept⟩ := map_eq_ok.mp ok
  cases created with
  | none => cases kept
  | some created =>
    dsimp only at kept
    split at kept
    · rename_i archived
      cases kept
      exact archived.2.1
    · cases kept

/-- A plan respects protection exactly if what makes a task ambiguous comes before its old
events. -/
theorem previewTypedTaskRetention_respects_iff {now : Int} {database : TasksDatabase}
    {plan : RetentionPlan Result}
    (built : previewTypedTaskRetention lib format now database = .ok plan) :
    RespectsProtection plan ↔ AmbiguousFirst lib format now database := by
  obtain ⟨⟨authority, snapshots⟩, tasks, built⟩ := bind_eq_ok.mp built
  obtain ⟨scan, scanned, built⟩ := bind_eq_ok.mp built
  obtain ⟨_, results, built⟩ := bind_eq_ok.mp built
  have results := mapError_eq_ok results
  obtain ⟨keys, selected, appended, sublist, members⟩ :=
    foldlM_scanEvent database.ordered (mapError_eq_ok scanned)
  have archive : scan.archiveEvents = selected := appended
  cases built
  have snapshotKeys : ∀ taskId, ProtectedBySnapshot lib format database taskId ↔
      taskId ∈ (initialProtection lib database snapshots).map Prod.fst := by
    intro taskId
    constructor
    · rintro ⟨_, _, read, mem⟩
      cases tasks.symm.trans read
      exact mem
    · exact fun mem => ⟨authority, snapshots, tasks, mem⟩
  have ordered : (selected.map EventRow.sequence).Pairwise fun one other => one < other :=
    pairwise_map.mpr (database.ordered.sublist sublist)
  have expands := expand_compressIntegerKeys ordered
  constructor
  · rintro ⟨events, -, ranges⟩ event mem archivable free
    have free := (snapshotKeys event.taskId).not.mp free
    by_cases before : ∃ other ∈ database.events, other.sequence < event.sequence ∧
        ambiguousKey lib database.taskIds other = some event.taskId
    · exact .inl before
    · -- the event is selected, so nothing may protect its task
      have chosen : event ∈ selected := (members event).mpr ⟨mem, archivable, free,
        fun other listed earlier made => before ⟨other, listed, earlier, made⟩⟩
      have unprotected := events event (archive ▸ chosen)
      refine .inr ⟨?_, fun other listed made =>
        unprotected ((keys event.taskId).mpr (.inr ⟨other, listed, made⟩))⟩
      rw [archive] at ranges
      exact expands.mp ranges _ (mem_map_of_mem chosen)
  · intro first
    have late : ∀ event ∈ selected, 0 < event.sequence ∧ ∀ other ∈ database.events,
        ambiguousKey lib database.taskIds other ≠ some event.taskId := by
      intro event chosen
      obtain ⟨mem, archivable, free, earlier⟩ := (members event).mp chosen
      refine (first event mem archivable
        ((snapshotKeys event.taskId).not.mpr free)).resolve_left ?_
      rintro ⟨other, listed, before, made⟩
      exact earlier other listed before made
    refine ⟨fun event chosen => ?_, fun verified kept => ?_, ?_⟩
    · have chosen : event ∈ selected := archive ▸ chosen
      intro protected'
      rcases (keys event.taskId).mp protected' with before | ⟨other, listed, made⟩
      · exact ((members event).mp chosen).2.2.1 before
      · exact (late event chosen).2 other listed made
    · have listed := reduceOption_mem_iff.mp kept
      obtain ⟨_, -, read⟩ := exists_mem_of_mapM results listed
      exact archivedResult_ok read
    · show expandIntegerRanges (compressIntegerKeys (scan.archiveEvents.map _)) =
        some (scan.archiveEvents.map _)
      rw [archive]
      refine expands.mpr fun key among => ?_
      obtain ⟨event, chosen, rfl⟩ := mem_map.mp among
      exact (late event chosen).1

end Plan

/-! ## An event without a time -/

/-- A library that reads one time. -/
def newYearLibrary : RetentionLibrary where
  upper text := text
  casefold text := text
  fromIsoFormat text :=
    if text = "2026-01-01T00:00:00+00:00" then .ok (some 1767225600000000) else .ok none

def june : Int := 1780272000000000

/-- A finished task with an old event, and behind it an event that has no time. -/
def untimedDatabase : TasksDatabase where
  snapshots := [⟨"collect-1", "device_collect", "COMPLETED", "", "", ""⟩]
  events := [⟨1, "event-1", "collect-1", "log", "2026-01-01T00:00:00Z", "worker", "{}"⟩,
    ⟨2, "event-2", "collect-1", "log", "", "worker", "{}"⟩]
  ordered := by decide
  results := []
  blobs _ := none
  onlineMrTasks := []

/-- The first event is archived, the second protects the task. -/
theorem untimedDatabase_plan : ∃ plan, previewTypedTaskRetention newYearLibrary
      TaskCenter.smallFormat june untimedDatabase = .ok plan ∧ ¬ RespectsProtection plan := by
  have planned : ∃ plan, previewTypedTaskRetention newYearLibrary
        TaskCenter.smallFormat june untimedDatabase = .ok plan ∧
      plan.archiveEvents.map EventRow.taskId = ["collect-1"] ∧
      plan.protection = [("collect-1", .ambiguous)] :=
    ⟨_, rfl, by decide +kernel, by decide +kernel⟩
  obtain ⟨plan, built, archived, listed⟩ := planned
  refine ⟨plan, built, fun respects => ?_⟩
  obtain ⟨event, mem, named⟩ : ∃ event ∈ plan.archiveEvents, event.taskId = "collect-1" :=
    mem_map.mp (archived ▸ mem_singleton.mpr rfl)
  refine respects.events event mem ?_
  rw [named, listed]
  exact mem_singleton.mpr rfl

/-- An event without a time protects its task after an earlier event was archived. -/
theorem not_respectsProtection : ¬ ∀ (lib : RetentionLibrary) (now : Int)
    (database : TasksDatabase) (plan : RetentionPlan TaskCenter.SmallResult),
      previewTypedTaskRetention lib TaskCenter.smallFormat now database = .ok plan →
        RespectsProtection plan := by
  intro all
  obtain ⟨plan, built, violates⟩ := untimedDatabase_plan
  exact violates (all newYearLibrary june untimedDatabase plan built)

theorem not_ambiguousFirst_untimed :
    ¬ AmbiguousFirst newYearLibrary TaskCenter.smallFormat june untimedDatabase := by
  intro first
  obtain ⟨_, built, violates⟩ := untimedDatabase_plan
  exact violates ((previewTypedTaskRetention_respects_iff built).mpr first)

end NetConsole.TaskRetention
