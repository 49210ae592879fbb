import NetConsole.Archive.EventJournal
import NetConsole.Foundations.GuardedRuns

/-!
# The journal of an archive and the live rows

A run stores events before it is archived, while an attempt goes on, and after that: stopping
and archiving ends with the event `run_completed`, which no archive has, since an archive that
is ready is not built again. `purge_run_details` and `delete_run_history` delete the rows of the
run whenever they are called.

In every state that a run comes to before its rows are deleted, the journal of its archive is
complete exactly if the run has at most 500 events and all of them were there when they were
listed (`archivedJournal_complete_iff`).
-/

set_option autoImplicit false

namespace NetConsole.Archive

open Foundations List

/-! ## The system -/

section System

variable (lib : EventLibrary) (service : ArchiveService) (siteId : String)

/-- The build of an archive when `list_events` raises: the directories and the summary are
written. -/
def buildUnlisted (request : ArchiveRequest) : ArchiveProc ArchiveResult := do
  Proc.mayRaise .osError
  upsertArchive (request.row .building "" false)
  Proc.tryExcept
    (do
      Proc.act ArchiveError.osError fun s =>
        .ok { s with active := some (s.active.getD []) }
      applySteps .osError activeSlot ((artifactSteps request).take 5)
      Proc.raise .osError)
    fun _ => markFailed service request

/-- `archive_run`, with the events that `_write_daily_artifacts` lists in this table. -/
def archiveListed (table : EventTable) (request : ArchiveRequest) : ArchiveProc ArchiveResult :=
  match schedulerEvents lib table siteId request.runId with
  | .ok events => archiveRun service (request.withEvents lib events)
  | .error _ => do
    match ← resumeReady service request with
    | some result => return result
    | none => buildUnlisted service request

/-- The events of a site, and the archive of one of its runs. -/
structure JournalSystem where
  table : EventTable
  files : ArchiveState
  /-- History: the rows of the run when its archive was made. -/
  journalled : List TimelineRow

/-- What happens to the events of runs and to their archives. -/
inductive JournalAction where
  | addEvent (row : TimelineRow)
  | addEventOnce (row : TimelineRow)
  | insertTimelineEvents (rows : List TimelineRow)
  | purgeRunDetails (runId : String)
  /-- An attempt to archive the run; the events that are stored meanwhile come before or after
  it, as they do for the listing. -/
  | archiveRun (request : ArchiveRequest) (faults : List Fault)
  /-- Whatever else happens to the archives: the file of the run is left or deleted. -/
  | elsewhere (files : ArchiveState)

/-- What an action makes of events and archives. -/
def JournalSystem.step (run : Run) (system : JournalSystem) :
    JournalAction → Option JournalSystem
  | .addEvent row => some { system with table := system.table.addEvent row }
  | .addEventOnce row =>
    (system.table.addEventOnce row).map fun table => { system with table := table }
  | .insertTimelineEvents rows =>
    some { system with table := system.table.insertTimelineEvents rows }
  | .purgeRunDetails runId =>
    some { system with table := system.table.purgeRunDetails siteId runId }
  | .archiveRun request faults =>
    if request.toRun = run then
      let files := ((archiveListed lib service siteId system.table request).run
        system.files faults).2
      some { system with
        files := files
        journalled :=
          if files.archives run.finalPath = system.files.archives run.finalPath
          then system.journalled else system.table.runRows siteId run.runId }
    else none
  | .elsewhere files =>
    if files.archives run.finalPath = none ∨
        files.archives run.finalPath = system.files.archives run.finalPath
    then some { system with files := files } else none

end System

/-! ## Storing events -/

section Storing

variable {siteId runId : String} {table : EventTable}

theorem runRows_insert (row : TimelineRow) :
    table.runRows siteId runId <+: (table.insert row).runRows siteId runId := by
  unfold EventTable.runRows EventTable.insert
  rw [filter_append]
  exact prefix_append ..

theorem runRows_insertTimelineEvents (rows : List TimelineRow) :
    table.runRows siteId runId <+: (table.insertTimelineEvents rows).runRows siteId runId := by
  induction rows generalizing table with
  | nil => exact prefix_rfl
  | cons row rows ih =>
    show table.runRows siteId runId <+: EventTable.runRows (EventTable.insertTimelineEvents
      (if table.hasKey row.siteId row.dedupKey then table else table.insert row) rows) siteId runId
    split
    · exact ih
    · exact (runRows_insert row).trans ih

theorem runRows_purge {other : String} (different : other ≠ runId) :
    (table.purgeRunDetails siteId other).runRows siteId runId = table.runRows siteId runId := by
  unfold EventTable.runRows EventTable.purgeRunDetails
  rw [filter_filter]
  apply filter_congr
  intro row _
  by_cases own : row.runId = runId
  · simp [own, Ne.symm different]
  · simp [own]

end Storing

/-! ## An attempt and the file of the run -/

section Attempt

variable {service : ArchiveService} {request : ArchiveRequest} {name : String}
  {kept : Option (FileTree Bytes) → Prop}

theorem upsertArchive_holding {row : ArchiveRow} :
    Keeps (Holding kept name) (upsertArchive row) := by
  apply Keeps.act
  intro s holding
  unfold ArchiveState.upsertArchive
  split <;> exact holding

theorem markRawFilesArchived_holding : Keeps (Holding kept name) markRawFilesArchived :=
  .act fun _ holding => holding

theorem cleanUpActive_holding : Keeps (Holding kept name) cleanUpActive := by
  apply Keeps.tryExcept
  · apply Keeps.bind
    · apply Keeps.look_bind
      intro s₀ _
      apply Keeps.bind
      · exact .when fun _ => .raise _
      · exact fun _ => removeTree_keeps activeSlot fun _ _ holding => holding
    · exact fun _ => .pure _
  · exact fun _ => .pure _

variable (deleted : kept none)
include deleted

theorem Holding.delete {s : ArchiveState} (holding : Holding kept name s) (other : String) :
    Holding kept name ((archiveSlot other).set none s) := by
  by_cases same : other = name
  · subst same
    show kept (Function.update s.archives other none other)
    rwa [Function.update_self]
  · exact holding.set same none

theorem applyRetention_holding : Keeps (Holding kept name) (applyRetention request) := by
  have expired : ∀ rows, Keeps (Holding kept name) (deleteExpired request rows) := by
    intro rows
    induction rows with
    | nil => exact .pure _
    | cons row rest ih =>
      refine .bind (.when fun _ => .look_bind fun s₀ _ => ?_) fun _ => ih
      split
      · exact .pure _
      · refine .bind (.when fun _ => .raise _) fun _ => .bind (.when fun _ => .raise _) fun _ => ?_
        refine .bind (.when fun _ => ?_) fun _ => .bind .mayRaise fun _ =>
          .act fun _ holding => holding
        exact .act fun _ holding => holding.delete deleted _
  exact .look_bind fun s₀ _ => .bind (expired _) fun _ => .mayRaise

theorem acceptReady_holding {existing : ArchiveRow} :
    Keeps (Holding kept name) (acceptReady request existing) := by
  refine .bind markRawFilesArchived_holding fun _ => .bind (.look_bind fun s₀ _ => ?_) fun _ => ?_
  · split
    · exact .pure _
    · split
      · exact cleanUpActive_holding
      · exact .pure _
  · refine .bind (.when fun _ => upsertArchive_holding) fun _ => ?_
    exact .bind (applyRetention_holding deleted) fun _ => .bind .mayRaise fun _ => .pure _

theorem resumeReady_holding : Keeps (Holding kept name) (resumeReady service request) := by
  refine .bind .mayRaise fun _ => .look_bind fun s₀ _ => ?_
  split
  · exact .pure _
  · split
    · exact .pure _
    · refine .bind .mayRaise fun _ => .bind checkReady_keeps fun _ => ?_
      split
      · exact .bind (acceptReady_holding deleted) fun _ => .pure _
      · refine .look_bind fun s₁ _ => ?_
        split
        · refine .bind (.bind upsertArchive_holding fun _ => ?_) fun _ => .pure _
          exact .bind .mayRaise fun _ => .pure _
        · exact .pure _

theorem registerZip_holding : Keeps (Holding kept name) (registerZip service request) := by
  refine .bind .mayRaise fun _ => .look_bind fun s₀ _ => .bind upsertArchive_holding fun _ => ?_
  refine .bind markRawFilesArchived_holding fun _ => .look_bind fun marked _ => ?_
  refine .bind .mayRaise fun _ => .bind ?_ fun _ => .bind upsertArchive_holding fun _ => ?_
  · unfold cleanUpUnless
    split
    · exact .pure _
    · exact cleanUpActive_holding
  · exact .bind (applyRetention_holding deleted) fun _ => .bind .mayRaise fun _ => .pure _

theorem markFailed_holding : Keeps (Holding kept name) (markFailed service request) := by
  refine .bind (.act fun _ holding => holding.delete deleted _) fun _ => .look_bind fun s₀ _ => ?_
  refine .bind .mayRaise fun _ => .bind upsertArchive_holding fun _ => ?_
  exact .bind .mayRaise fun _ => .pure _

theorem buildUnlisted_holding : Keeps (Holding kept name) (buildUnlisted service request) := by
  apply Keeps.bind .mayRaise
  intro _
  apply Keeps.bind upsertArchive_holding
  intro _
  apply Keeps.tryExcept
  · apply Keeps.bind
    · exact .act fun _ holding => holding
    intro _
    apply Keeps.bind
    · exact applySteps_keeps activeSlot _ fun _ _ _ holding => holding
    · exact fun _ => .raise _
  · exact fun _ => markFailed_holding deleted

variable {lib : EventLibrary} {events : List TimelineEvent}

omit deleted in
theorem artifact_withEvents (request : ArchiveRequest) :
    (request.withEvents lib events).artifact schedulerEventsName = jsonlBytes lib events := by
  simp only [ArchiveRequest.withEvents, if_true]

omit deleted in
theorem publishListed_holding (published : ∀ zip,
      contentsAt zip schedulerEventsName = [jsonlBytes lib events] → kept (some zip)) :
    Keeps (Holding kept (request.withEvents lib events).finalPath)
      (publishZip service (request.withEvents lib events)) := by
  have listedName : schedulerEventsName ∈ artifactFiles := by decide
  apply Triple.returning (publishZip_artifact listedName)
  intro _ s archived
  rw [artifact_withEvents] at archived
  unfold Holding
  unfold ArchiveState.archivedFiles at archived
  cases held : s.archives (request.withEvents lib events).finalPath with
  | none =>
    rw [held] at archived
    cases archived
  | some zip =>
    rw [held] at archived
    exact published zip archived

theorem buildArchive_holding (published : ∀ zip,
      contentsAt zip schedulerEventsName = [jsonlBytes lib events] → kept (some zip)) :
    Keeps (Holding kept (request.withEvents lib events).finalPath)
      (buildArchive service (request.withEvents lib events)) := by
  apply Keeps.bind .mayRaise
  intro _
  apply Keeps.bind upsertArchive_holding
  intro _
  apply Keeps.tryExcept
  · exact .bind (publishListed_holding published) fun _ => registerZip_holding deleted
  · exact fun _ => markFailed_holding deleted

/-- After an attempt the file of the run is as it was, gone, or one with the journal of the
events that were listed. -/
theorem archiveListed_holding {siteId : String} {table : EventTable} (published : ∀ events zip,
      schedulerEvents lib table siteId request.runId = .ok events →
      contentsAt zip schedulerEventsName = [jsonlBytes lib events] → kept (some zip)) :
    Keeps (Holding kept request.finalPath) (archiveListed lib service siteId table request) := by
  unfold archiveListed
  split
  · next events listed =>
    apply Keeps.bind (resumeReady_holding deleted)
    intro resumed
    cases resumed with
    | some result => exact .pure _
    | none => exact buildArchive_holding deleted fun zip archived =>
      published events zip listed archived
  · apply Keeps.bind (resumeReady_holding deleted)
    intro resumed
    cases resumed with
    | some result => exact .pure _
    | none => exact buildUnlisted_holding deleted

omit deleted

theorem attempt_file (lib : EventLibrary) (service : ArchiveService)
    (siteId : String) (table : EventTable)
    (request : ArchiveRequest) (files : ArchiveState) (faults : List Fault) :
    let after := ((archiveListed lib service siteId table request).run files faults).2
    after.archives request.finalPath = none ∨
      after.archives request.finalPath = files.archives request.finalPath ∨
      ∃ events zip, after.archives request.finalPath = some zip ∧
        schedulerEvents lib table siteId request.runId = .ok events ∧
        contentsAt zip schedulerEventsName = [jsonlBytes lib events] := by
  have keeps : Keeps (Holding (fun file => file = none ∨ file = files.archives request.finalPath ∨
      ∃ events zip, file = some zip ∧ schedulerEvents lib table siteId request.runId = .ok events ∧
        contentsAt zip schedulerEventsName = [jsonlBytes lib events]) request.finalPath)
      (archiveListed lib service siteId table request) :=
    archiveListed_holding (.inl rfl) fun events zip listed archived =>
      .inr (.inr ⟨events, zip, rfl, listed, archived⟩)
  exact (keeps ⟨files, faults⟩ (.inr (.inl rfl))).keeps

end Attempt

/-! ## Runs -/

section Runs

variable (lib : EventLibrary) (siteId : String) (run : Run)

/-- The file of the run, if it is there, has the journal of the rows that are remembered, and
these are the first rows of the run. -/
structure JournalSystem.Remembers (system : JournalSystem) : Prop where
  first : system.journalled <+: system.table.runRows siteId run.runId
  journal : ∀ zip, system.files.archives run.finalPath = some zip →
    ∃ listed events, listed.runRows siteId run.runId = system.journalled ∧
      schedulerEvents lib listed siteId run.runId = .ok events ∧
      contentsAt zip schedulerEventsName = [jsonlBytes lib events]

variable {lib siteId run} {service : ArchiveService} {system after : JournalSystem}

theorem remembers_step {action : JournalAction} (remembers : system.Remembers lib siteId run)
    (own : action ≠ .purgeRunDetails run.runId)
    (taken : system.step lib service siteId run action = some after) :
    after.Remembers lib siteId run := by
  obtain ⟨first, journal⟩ := remembers
  cases action with
  | addEvent row =>
    cases taken
    exact ⟨first.trans (runRows_insert _), journal⟩
  | addEventOnce row =>
    obtain ⟨table, stored, rfl⟩ := Option.map_eq_some_iff.mp taken
    refine ⟨first.trans ?_, journal⟩
    unfold EventTable.addEventOnce at stored
    split at stored
    · cases stored
    · split at stored
      · cases stored
        exact prefix_rfl
      · cases stored
        exact runRows_insert row
  | insertTimelineEvents rows =>
    cases taken
    exact ⟨first.trans (runRows_insertTimelineEvents rows), journal⟩
  | purgeRunDetails runId =>
    cases taken
    have different : runId ≠ run.runId := fun same => own (congrArg _ same)
    refine ⟨?_, journal⟩
    rwa [show EventTable.runRows _ siteId run.runId = _ from runRows_purge different]
  | archiveRun request faults =>
    simp only [JournalSystem.step] at taken
    split at taken
    · next same =>
      subst same
      cases taken
      have ended := attempt_file lib service siteId system.table request system.files faults
      generalize ((archiveListed lib service siteId system.table request).run system.files
        faults).2 = files at ended ⊢
      by_cases unchanged : files.archives request.finalPath =
        system.files.archives request.finalPath
      · simp only [if_pos unchanged]
        exact ⟨first, fun zip held => journal zip (unchanged.symm.trans held)⟩
      · simp only [if_neg unchanged]
        refine ⟨prefix_rfl, fun zip held => ?_⟩
        rcases ended with gone | same | ⟨events, made, isMade, listed, archived⟩
        · exact absurd (gone.symm.trans held) nofun
        · exact absurd same unchanged
        · cases isMade.symm.trans held
          exact ⟨system.table, events, rfl, listed, archived⟩
    · cases taken
  | elsewhere files =>
    simp only [JournalSystem.step] at taken
    split at taken
    · next left =>
      cases taken
      refine ⟨first, fun zip held => ?_⟩
      rcases left with gone | left
      · rw [gone] at held
        cases held
      · exact journal zip (left.symm.trans held)
    · cases taken

theorem remembers_run {start : JournalSystem} {actions : List JournalAction}
    (unarchived : start.files.archives run.finalPath = none) (forgotten : start.journalled = [])
    (ran : runFrom (JournalSystem.step lib service siteId run) start actions = some system)
    (live : .purgeRunDetails run.runId ∉ actions) : system.Remembers lib siteId run := by
  have started : start.Remembers lib siteId run :=
    ⟨forgotten ▸ nil_prefix, fun zip held => absurd (unarchived.symm.trans held) nofun⟩
  clear unarchived forgotten
  induction actions generalizing start with
  | nil => exact Option.some.inj ran ▸ started
  | cons action actions ih =>
    obtain ⟨middle, taken, rest⟩ := Option.bind_eq_some_iff.mp ran
    obtain ⟨own, later⟩ := not_or.mp (mem_cons.not.mp live)
    exact ih rest later (remembers_step started (Ne.symm own) taken)

theorem JournalSystem.Remembers.complete_iff (remembers : system.Remembers lib siteId run)
    (archived : system.files.archives run.finalPath ≠ none) :
    JournalComplete lib system.table siteId run.runId
        (system.files.archivedFiles run.finalPath schedulerEventsName) ↔
      (system.table.runRows siteId run.runId).length ≤ 500 ∧
        system.journalled = system.table.runRows siteId run.runId := by
  obtain ⟨zip, held⟩ := Option.ne_none_iff_exists'.mp archived
  obtain ⟨listed, events, isListed, found, journal⟩ := remembers.journal zip held
  have file : system.files.archivedFiles run.finalPath schedulerEventsName =
      [jsonlBytes lib events] := by
    unfold ArchiveState.archivedFiles
    rw [held]
    exact journal
  rw [file]
  constructor
  · intro complete
    have lines := complete.lines
    rw [length_schedulerEvents found, isListed] at lines
    have fewer := remembers.first.length_le
    have same : system.journalled.length = (system.table.runRows siteId run.runId).length := by
      omega
    exact ⟨by omega, remembers.first.eq_of_length same⟩
  · rintro ⟨few, same⟩
    have complete := (journalComplete_iff found).mpr (by rwa [isListed, same])
    unfold JournalComplete at complete ⊢
    rwa [isListed, same] at complete

/-- In every state before the rows of the run are deleted, the journal of its archive is complete
exactly if the run has at most 500 events, and all of them were there when it was archived. -/
theorem archivedJournal_complete_iff (lib : EventLibrary) (service : ArchiveService)
    (siteId : String) (run : Run) {start system : JournalSystem} {actions : List JournalAction}
    (unarchived : start.files.archives run.finalPath = none) (forgotten : start.journalled = [])
    (ran : runFrom (JournalSystem.step lib service siteId run) start actions = some system)
    (live : .purgeRunDetails run.runId ∉ actions)
    (archived : system.files.archives run.finalPath ≠ none) :
    JournalComplete lib system.table siteId run.runId
        (system.files.archivedFiles run.finalPath schedulerEventsName) ↔
      (system.table.runRows siteId run.runId).length ≤ 500 ∧
        system.journalled = system.table.runRows siteId run.runId :=
  (remembers_run unarchived forgotten ran live).complete_iff archived

end Runs

/-! ## An event after the archive -/

section Samples

/-- Every event is written as an empty object. -/
def plainLibrary : EventLibrary where
  loads _ := .ok (.obj [])
  dumps _ := [123, 125]
  casefold text := text
  lowerLike _ _ := true
  newline_notMem _ := by decide

def sampleRow (eventType : String) : TimelineRow where
  id := 0
  siteId := "s"
  runId := "r"
  ts := "2026-01-01T10:00:00"
  eventType := eventType
  severity := "info"
  trainId := ""
  mrId := ""
  title := ""
  message := ""
  dedupKey := ""
  detailsJson := "{}"

/-- The run of the sample archive, without events at the start. -/
def sampleJournal : List JournalAction → Option JournalSystem :=
  runFrom (JournalSystem.step plainLibrary sampleService "s" sampleRequest.toRun)
    ⟨.empty, collected, []⟩

def archivedRun : List JournalAction :=
  [.addEvent (sampleRow "run_started"), .addEvent (sampleRow "train_entered"),
    .purgeRunDetails "earlier", .archiveRun sampleRequest []]

/-- Stopping and archiving stores one event more. -/
def stoppedRun : List JournalAction := archivedRun ++ [.addEvent (sampleRow "run_completed")]

def JournalSystem.isArchived (system : JournalSystem) : Bool :=
  (system.files.archives sampleRequest.finalPath).isSome

/-- All that is stored when the archive is made is in its journal. -/
theorem archivedJournal_complete_archivedRun : ∃ system, sampleJournal archivedRun = some system ∧
    JournalComplete plainLibrary system.table "s" "r"
      (system.files.archivedFiles sampleRequest.finalPath schedulerEventsName) := by
  have reached : (sampleJournal archivedRun).any fun system => system.isArchived &&
      decide ((system.table.runRows "s" "r").length ≤ 500 ∧
        system.journalled = system.table.runRows "s" "r") := by
    decide +kernel
  obtain ⟨system, ran, holds⟩ := (Option.any_eq_true ..).mp reached
  obtain ⟨archived, stored⟩ := Bool.and_eq_true_iff.mp holds
  refine ⟨system, ran, ?_⟩
  exact (archivedJournal_complete_iff plainLibrary sampleService "s" sampleRequest.toRun rfl rfl ran
    (by simp [archivedRun, sampleRequest]) (Option.isSome_iff_ne_none.mp archived)).mpr
      (of_decide_eq_true stored)

/-- The archive of a run that was stopped misses the last event. -/
theorem not_archivedJournal_complete_stoppedRun :
    ¬∀ system, sampleJournal stoppedRun = some system →
    system.isArchived → JournalComplete plainLibrary system.table "s" "r"
      (system.files.archivedFiles sampleRequest.finalPath schedulerEventsName) := by
  intro complete
  have reached : (sampleJournal stoppedRun).any fun system => system.isArchived &&
      decide (system.journalled ≠ system.table.runRows "s" "r") := by
    decide +kernel
  obtain ⟨system, ran, holds⟩ := (Option.any_eq_true ..).mp reached
  obtain ⟨archived, missed⟩ := Bool.and_eq_true_iff.mp holds
  refine of_decide_eq_true missed ?_
  have remembers := remembers_run rfl rfl ran (by simp [stoppedRun, archivedRun, sampleRequest])
  exact ((remembers.complete_iff (Option.isSome_iff_ne_none.mp archived)).mp
    (complete system ran archived)).2

end Samples

end NetConsole.Archive
