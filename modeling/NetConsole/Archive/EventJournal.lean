import NetConsole.Archive.RawPreservation
import NetConsole.Foundations.FallibleMaps
import NetConsole.Foundations.NewestWindow
import NetConsole.Worker.Protocol
import Mathlib.Data.Prod.Lex
import Mathlib.Data.String.Basic

/-!
# The event journal of an archive

`_write_daily_artifacts` lists the scheduler events of a run and writes them, oldest
first, to `scheduler_events.jsonl`; the packed file is all that is left of them when the
live rows are deleted. It asks for 5 000 events, and `list_events` answers with at most
500 of them: the newest ones (`schedulerEvents_eq`).

A published archive has one member for each file that was written, with its content
(`publishZip_artifact`), and the journal in it is complete for the rows that were listed exactly
if they are at most 500 (`journalComplete_iff`).
-/

set_option autoImplicit false

namespace NetConsole.Archive

open Foundations List
open Worker (Json PythonError)

/-! ## The table of events -/

/-- The columns of `ground_unattended_events` that `_decode_row` leaves as they are. -/
structure TimelineColumns where
  id : Nat
  (siteId runId ts eventType severity trainId mrId title message dedupKey : String)
  deriving DecidableEq

/-- A row of `ground_unattended_events`. -/
structure TimelineRow extends TimelineColumns where
  detailsJson : String
  deriving DecidableEq

/-- A timeline row with its details read. -/
structure TimelineEvent extends TimelineColumns where
  details : Json

/-- `ORDER BY ts, id`. -/
def TimelineColumns.key (columns : TimelineColumns) : Lex (String × Nat) :=
  toLex (columns.ts, columns.id)

/-- The table. Its ids come from `AUTOINCREMENT`: a new row has a greater one than all
rows before it. -/
structure EventTable where
  rows : List TimelineRow
  lastId : Nat
  increasing : rows.Pairwise fun first second => first.id < second.id
  bounded : ∀ row ∈ rows, row.id ≤ lastId

namespace EventTable

def empty : EventTable := ⟨[], 0, .nil, by simp⟩

/-- A row with this key is there already. -/
def hasKey (table : EventTable) (siteId dedupKey : String) : Bool :=
  decide (dedupKey ≠ "") && table.rows.any fun row =>
    row.siteId = siteId && row.dedupKey = dedupKey

/-- A row gets the next id. -/
def insert (table : EventTable) (row : TimelineRow) : EventTable where
  rows := table.rows ++ [{ row with id := table.lastId + 1 }]
  lastId := table.lastId + 1
  increasing := by
    refine pairwise_append.mpr ⟨table.increasing, pairwise_singleton .., ?_⟩
    intro before mem added same
    rw [mem_singleton.mp same]
    exact Nat.lt_succ_of_le (table.bounded before mem)
  bounded := by
    intro before mem
    rcases mem_append.mp mem with earlier | added
    · exact Nat.le_succ_of_le (table.bounded before earlier)
    · rw [mem_singleton.mp added]

/-- An event is added, whatever is there. -/
def addEvent (table : EventTable) (row : TimelineRow) : EventTable :=
  table.insert { row with dedupKey := "" }

/-- `add_event_once`; nothing for an empty key. -/
def addEventOnce (table : EventTable) (row : TimelineRow) : Option EventTable :=
  if row.dedupKey = "" then none
  else if table.hasKey row.siteId row.dedupKey then some table
  else some (table.insert row)

/-- Events are added, those with a known key left out. -/
def insertTimelineEvents (table : EventTable) (rows : List TimelineRow) : EventTable :=
  rows.foldl (fun table row => if table.hasKey row.siteId row.dedupKey then table
    else table.insert row) table

/-- The deletion of the events of a run, by `purge_run_details` and by
`delete_run_history`. -/
def purgeRunDetails (table : EventTable) (siteId runId : String) : EventTable where
  rows := table.rows.filter fun row => !(decide (row.siteId = siteId) && decide (row.runId = runId))
  lastId := table.lastId
  increasing := table.increasing.sublist filter_sublist
  bounded row mem := table.bounded row (mem_of_mem_filter mem)

/-- The rows of a run. -/
def runRows (table : EventTable) (siteId runId : String) : List TimelineRow :=
  table.rows.filter fun row => decide (row.siteId = siteId) && decide (row.runId = runId)

end EventTable

/-! ## Listing events -/

/-- What the standard library computes: `json.loads`, `json.dumps` in UTF-8 without the
line end, `casefold`, and the comparison `LOWER(…) LIKE` of SQLite. -/
structure EventLibrary where
  loads : String → Except PythonError Json
  dumps : TimelineEvent → Bytes
  casefold : String → String
  lowerLike : String → String → Bool
  newline_notMem : ∀ event, 10 ∉ dumps event

/-- The filters of `list_events`; an empty one is not applied. -/
structure EventFilters where
  trainId : String := ""
  eventType : String := ""
  query : String := ""

section Listing

variable (lib : EventLibrary)

/-- The details of a row in `_decode_row`. -/
def decodeDetails (detailsJson : String) : Except PythonError Json :=
  match lib.loads (if detailsJson = "" then "\x7b\x7d" else detailsJson) with
  | .error .jsonDecodeError =>
    .ok (if "\x7b".toList.isPrefixOf detailsJson.toList then .obj [] else .arr [])
  | decoded => decoded

/-- The row with its details read. -/
def decodeRow (row : TimelineRow) : Except PythonError TimelineEvent :=
  (decodeDetails lib row.detailsJson).map fun details =>
    { toTimelineColumns := row.toTimelineColumns, details := details }

/-- The `WHERE` clause of `list_events`, after the site and the run. -/
def EventFilters.admits (filters : EventFilters) (row : TimelineRow) : Bool :=
  (decide (filters.trainId = "") || decide (row.trainId = filters.trainId)) &&
    (decide (filters.eventType = "") || decide (row.eventType = filters.eventType)) &&
      (decide (filters.query = "") ||
        lib.lowerLike
          (row.trainId ++ " " ++ row.mrId ++ " " ++ row.title ++ " " ++ row.message ++ " " ++
            row.detailsJson)
          ("%" ++ lib.casefold filters.query ++ "%"))

def listLimit (limit : Int) : Nat := (max 1 (min limit 500)).toNat

/-- A page of the events of a run. -/
def listEvents (table : EventTable) (siteId runId : String) (filters : EventFilters)
    (limit offset : Int) : Except PythonError (List TimelineEvent) :=
  (((newestFirst (fun row : TimelineRow => row.key)
    ((table.runRows siteId runId).filter (filters.admits lib))).drop
      (max 0 offset).toNat).take (listLimit limit)).mapM (decodeRow lib)

/-! ## Writing the journal -/

/-- The events that `_write_daily_artifacts` writes. -/
def schedulerEvents (table : EventTable) (siteId runId : String) :
    Except PythonError (List TimelineEvent) :=
  (listEvents lib table siteId runId {} 5000 0).map List.reverse

/-- The warnings and errors among the events. -/
def errorEvents (events : List TimelineEvent) : List TimelineEvent :=
  events.filter fun event => decide (event.severity ∈ ["warning", "error"])

/-- The content of a file that `_atomic_jsonl` writes. -/
def jsonlBytes (events : List TimelineEvent) : Bytes :=
  events.flatMap fun event => lib.dumps event ++ [10]

def schedulerEventsName : String := "scheduler_events.jsonl"

/-- An attempt that has listed these events. -/
def ArchiveRequest.withEvents (request : ArchiveRequest) (events : List TimelineEvent) :
    ArchiveRequest :=
  { request with
    artifact path :=
      if path = schedulerEventsName then jsonlBytes lib events
      else if path = "errors.jsonl" then jsonlBytes lib (errorEvents events)
      else request.artifact path }

/-- The contents of the entries of that path. -/
def contentsAt (tree : FileTree Bytes) (path : String) : List Bytes :=
  (tree.filter fun entry => entry.1 = path).map Prod.snd

/-- The contents of the members of that path in a file of the archive directory. -/
def ArchiveState.archivedFiles (s : ArchiveState) (name path : String) : List Bytes :=
  contentsAt ((s.archives name).getD []) path

/-- There is one journal, and it has every event of the run exactly once, in the order of their
times. -/
def JournalComplete (table : EventTable) (siteId runId : String) (journals : List Bytes) : Prop :=
  ∃ stored written, (table.runRows siteId runId).mapM (decodeRow lib) = .ok stored ∧
    journals = [jsonlBytes lib written] ∧ written.Perm stored ∧
      written.Pairwise fun first second => first.key < second.key

/-! ## What is listed -/

/-- What decoding keeps of the rows. -/
def Decoded (row : TimelineRow) (event : TimelineEvent) : Prop :=
  decodeRow lib row = .ok event

variable {lib}

theorem Decoded.columns {row : TimelineRow} {event : TimelineEvent}
    (decoded : Decoded lib row event) : event.toTimelineColumns = row.toTimelineColumns := by
  unfold Decoded decodeRow at decoded
  cases details : decodeDetails lib row.detailsJson with
  | error raised =>
    rw [details] at decoded
    cases decoded
  | ok json =>
    rw [details] at decoded
    rw [← Except.ok.inj decoded]

variable {events : List TimelineEvent} {siteId runId : String} {table : EventTable}
  (listed : schedulerEvents lib table siteId runId = .ok events)
include listed

theorem schedulerEvents_eq : List.Forall₂ (Decoded lib)
      (newest (fun row : TimelineRow => row.key) 500 (table.runRows siteId runId)).reverse
      events := by
  have unfiltered : (table.runRows siteId runId).filter (EventFilters.admits lib {}) =
      table.runRows siteId runId := by
    apply filter_eq_self.mpr
    intro row _
    rfl
  unfold schedulerEvents listEvents at listed
  rw [unfiltered] at listed
  cases newestFirst' : (newest (fun row : TimelineRow => row.key) 500
      (table.runRows siteId runId)).mapM (decodeRow lib) with
  | error raised =>
    have failed : (Except.error raised : Except PythonError (List TimelineEvent)).map
        List.reverse = .ok events := by
      rw [← newestFirst']
      exact listed
    cases failed
  | ok found =>
    have reversed : (Except.ok found : Except PythonError (List TimelineEvent)).map
        List.reverse = .ok events := by
      rw [← newestFirst']
      exact listed
    rw [← Except.ok.inj reversed]
    exact rel_reverse (mapM_eq_ok_iff.mp newestFirst')

theorem columns_schedulerEvents : events.map (fun event => event.toTimelineColumns) =
      (newest (fun row : TimelineRow => row.key) 500 (table.runRows siteId runId)).reverse.map
        fun row => row.toTimelineColumns := by
  have same := (schedulerEvents_eq listed).imp fun _ _ decoded => decoded.columns.symm
  exact (List.forall₂_eq_eq_eq ▸
    List.forall₂_map_left_iff.mpr (List.forall₂_map_right_iff.mpr same)).symm

omit listed

/-- Rows with equal times have different keys by their ids. -/
theorem runRows_keys_nodup (table : EventTable) (siteId runId : String) :
    ((table.runRows siteId runId).map fun row => row.key).Nodup := by
  have apart : ∀ {first second : TimelineRow}, first.id < second.id → first.key ≠ second.key := by
    intro first second before same
    have sameId : first.id = second.id :=
      congrArg (fun key : Lex (String × Nat) => (ofLex key).2) same
    omega
  have increasing : (table.runRows siteId runId).Pairwise fun first second =>
      first.id < second.id := table.increasing.sublist filter_sublist
  exact pairwise_map.mpr (increasing.imp apart)

variable (listed : schedulerEvents lib table siteId runId = .ok events)
include listed

/-- The events of the journal are in the order of their keys. -/
theorem schedulerEvents_pairwise : events.Pairwise fun first second => first.key < second.key := by
  have rows : ((newest (fun row : TimelineRow => row.key) 500
      (table.runRows siteId runId)).map fun row => row.key).Pairwise fun first second =>
        second < first := by
    have descending : ((newest (fun row : TimelineRow => row.key) 500
        (table.runRows siteId runId)).map fun row => row.key).Pairwise fun first second =>
          second ≤ first :=
      pairwise_map.mpr ((newestFirst_pairwise _ _).sublist (take_sublist _ _))
    have distinct := nodup_map_of_subperm (runRows_keys_nodup table siteId runId)
      (newest_subperm (fun row : TimelineRow => row.key) 500 (table.runRows siteId runId))
    exact (descending.and distinct).imp fun both => lt_of_le_of_ne both.1 (Ne.symm both.2)
  have keys : events.map (fun event => event.key) = ((newest (fun row : TimelineRow => row.key) 500
        (table.runRows siteId runId)).map fun row => row.key).reverse := by
    have columns := congrArg (List.map TimelineColumns.key) (columns_schedulerEvents listed)
    rw [map_map, map_map] at columns
    rw [← map_reverse]
    exact columns
  apply pairwise_map.mp
  rw [keys]
  exact pairwise_reverse.mpr rows

theorem length_schedulerEvents : events.length = min 500 (table.runRows siteId runId).length := by
  rw [← (schedulerEvents_eq listed).length_eq, length_reverse, newest, length_take,
    (newestFirst_perm_self _ _).length_eq]

omit listed

/-- A journal has a line for each of its events. -/
theorem count_jsonlBytes (events : List TimelineEvent) :
    (jsonlBytes lib events).count 10 = events.length := by
  induction events with
  | nil => rfl
  | cons event events ih =>
    have none' : (lib.dumps event).count 10 = 0 :=
      count_eq_zero.mpr (lib.newline_notMem event)
    unfold jsonlBytes at ih ⊢
    rw [flatMap_cons, count_append, count_append, none', ih]
    simp [Nat.add_comm]

/-- A complete journal has a line for each event of the run. -/
theorem JournalComplete.lines {events : List TimelineEvent}
    (complete : JournalComplete lib table siteId runId [jsonlBytes lib events]) :
    (table.runRows siteId runId).length = events.length := by
  obtain ⟨stored, written, decoded, same, perm, -⟩ := complete
  have counted : (jsonlBytes lib written).count 10 = written.length := count_jsonlBytes written
  rw [(mapM_eq_ok_iff.mp decoded).length_eq, ← perm.length_eq, ← counted,
    ← List.singleton_inj.mp same]
  exact count_jsonlBytes events

/-- The journal that is written is complete exactly if the limit of the listing is not
exceeded. -/
theorem journalComplete_iff (listed : schedulerEvents lib table siteId runId = .ok events) :
    JournalComplete lib table siteId runId [jsonlBytes lib events] ↔
      (table.runRows siteId runId).length ≤ 500 := by
  constructor
  · intro complete
    have lines := complete.lines
    have listed' := length_schedulerEvents listed
    omega
  · intro few
    have every : (newest (fun row : TimelineRow => row.key) 500
        (table.runRows siteId runId)).reverse.Perm (table.runRows siteId runId) := by
      rw [newest_of_length_le _ few]
      exact (reverse_perm _).trans (newestFirst_perm_self _ _)
    obtain ⟨stored, decoded, perm⟩ :=
      perm_comp_forall₂ every.symm (schedulerEvents_eq listed)
    exact ⟨stored, events, mapM_eq_ok_iff.mpr decoded, rfl, perm.symm,
      schedulerEvents_pairwise listed⟩

end Listing

/-! ## What is packed -/

section Packing

variable {service : ArchiveService} {request : ArchiveRequest} {path : String}

theorem contentsAt_write (tree : FileTree Bytes) (path : String) (content : Bytes) :
    contentsAt (tree.write path content) path = [content] := by
  unfold contentsAt FileTree.write
  rw [filter_append, filter_filter]
  simp

theorem contentsAt_write_of_ne (tree : FileTree Bytes) {other : String} (content : Bytes)
    (different : path ≠ other) :
    contentsAt (tree.write other content) path = contentsAt tree path := by
  unfold contentsAt FileTree.write
  have same : ∀ entry : String × Bytes,
      (decide (entry.1 = path) && decide (entry.1 ≠ other)) = decide (entry.1 = path) := by
    intro entry
    by_cases named : entry.1 = path <;> simp [named, different]
  rw [filter_append, filter_filter, filter_congr fun entry _ => same entry]
  simp [Ne.symm different]

theorem contentsAt_packed (tree : FileTree Bytes) (packed : isPacked path = true) :
    contentsAt (tree.filter fun (name, _) => isPacked name) path = contentsAt tree path := by
  unfold contentsAt
  rw [filter_filter]
  congr 1
  apply filter_congr
  intro entry _
  by_cases named : entry.1 = path <;> simp [named, packed]

theorem contentsAt_after_writes {content : String → Bytes} {names : List String}
    (distinct : names.Nodup) (listed : path ∈ names) (tree : FileTree Bytes) :
    contentsAt (FileTree.after (names.map fun name tree => tree.write name (content name)) tree)
      path = [content path] := by
  induction names using List.reverseRecOn with
  | nil => cases listed
  | append_singleton names name ih =>
    have step : FileTree.after ((names ++ [name]).map fun name tree =>
        FileTree.write tree name (content name)) tree =
          (FileTree.after (names.map fun name tree => tree.write name (content name)) tree).write
            name (content name) := by
      simp [FileTree.after]
    rw [step]
    by_cases same : path = name
    · rw [same, contentsAt_write]
    · have earlier : path ∈ names := by simpa [same] using listed
      rw [contentsAt_write_of_ne _ _ same]
      exact ih (distinct.sublist (sublist_append_left ..)) earlier

theorem contentsAt_after_artifacts (artifact : path ∈ artifactFiles) (tree : FileTree Bytes) :
    contentsAt (FileTree.after (artifactSteps request) tree) path = [request.artifact path] := by
  have parts : FileTree.after (artifactSteps request) tree =
      FileTree.after (artifactFiles.map fun path tree => tree.write path (request.artifact path))
        (FileTree.after (artifactDirectories.map fun path tree => tree.write path []) tree) := by
    unfold FileTree.after artifactSteps
    rw [foldl_append]
  rw [parts]
  exact contentsAt_after_writes (by decide) artifact _

@[simp] theorem archivedFiles_set (name path : String) (zip : FileTree Bytes) (s : ArchiveState) :
    ((archiveSlot name).set (some zip) s).archivedFiles name path = contentsAt zip path := by
  show contentsAt ((Function.update s.archives name (some zip) name).getD []) path = _
  rw [Function.update_self]
  rfl

/-- The file of the archive directory is one of those. -/
def Holding (kept : Option (FileTree Bytes) → Prop) (name : String) (s : ArchiveState) : Prop :=
  kept (s.archives name)

variable {kept : Option (FileTree Bytes) → Prop}

theorem Holding.set {name other : String} {s : ArchiveState} (holding : Holding kept name s)
    (different : other ≠ name) (zip : Option (FileTree Bytes)) :
    Holding kept name ((archiveSlot other).set zip s) := by
  show kept (Function.update s.archives other zip name)
  rwa [Function.update_of_ne (Ne.symm different)]

/-- The active directory has one file of that path, with this content. -/
def ActiveFile (path : String) (content : Bytes) (s : ArchiveState) : Prop :=
  ∃ tree, s.active = some tree ∧ contentsAt tree path = [content]

/-- The generated file is in the active directory, and the final file is one of those. -/
def Prepared (kept : Option (FileTree Bytes) → Prop) (request : ArchiveRequest) (path : String)
    (s : ArchiveState) : Prop :=
  Holding kept request.finalPath s ∧ ActiveFile path (request.artifact path) s

/-- Packing leaves the final file alone. -/
theorem writeZip_artifact (packed : isPacked path = true) :
    Ends (Prepared kept request path) (writeZip request.tempPath)
      (fun _ s => Holding kept request.finalPath s ∧
        s.archivedFiles request.tempPath path = [request.artifact path])
      (Holding kept request.finalPath) := by
  apply Triple.look_bind
  rintro s₀ ⟨holding, tree, held, present⟩
  have partly : ∀ zip, Holding kept request.finalPath ((archiveSlot request.tempPath).set zip s₀) :=
    fun zip => holding.set (tempPath_ne_finalPath request.toRun) zip
  have exactly : ∀ s, s = s₀ → Holding kept request.finalPath s := fun s same => same ▸ holding
  rw [held]
  apply Triple.bind fun _ s => s = (archiveSlot request.tempPath).set (some []) s₀
  · apply Triple.act_ok
    · rintro s rfl
      rfl
    · exact exactly
    · exact exactly
  · intro _
    apply (applySteps_spec (archiveSlot request.tempPath) s₀ _ []).weaken (fun _ same => same)
    · rintro _ s rfl
      refine ⟨partly _, ?_⟩
      rw [archivedFiles_set, after_append, nil_append]
      exact (contentsAt_packed tree packed).trans present
    · rintro _ s ⟨count, rfl⟩
      exact partly _
    · rintro s ⟨count, rfl⟩
      exact partly _

/-- A file reaches the final path only with the artifact, and with it once. -/
theorem publishZip_artifact (artifact : path ∈ artifactFiles) :
    Ends (Holding kept request.finalPath) (publishZip service request)
      (fun _ s => s.archivedFiles request.finalPath path = [request.artifact path])
      (Holding kept request.finalPath) := by
  have notManifest : path ≠ manifestName := by
    intro same
    exact absurd (same ▸ artifact : manifestName ∈ artifactFiles) (by decide)
  have packed : isPacked path = true := by
    have all : ∀ name ∈ artifactFiles, isPacked name = true := by decide +kernel
    exact all path artifact
  have holds : ∀ s, Prepared kept request path s → Holding kept request.finalPath s :=
    fun _ both => both.1
  apply Triple.bind fun _ s => Holding kept request.finalPath s ∧ s.active.isSome
  · exact .act_ok (fun _ holding => ⟨holding, rfl⟩) (fun _ holding => holding)
      fun _ holding => holding
  intro _
  apply Triple.bind fun _ => Prepared kept request path
  · apply Triple.of_exact
    rintro s₀ ⟨holding, present⟩
    obtain ⟨tree, held⟩ := Option.isSome_iff_exists.mp present
    apply (applySteps_spec activeSlot s₀ (artifactSteps request) tree).weaken
    · rintro s rfl
      show s = { s with active := some tree }
      rw [← held]
    · rintro _ s rfl
      exact ⟨holding, _, rfl, contentsAt_after_artifacts artifact tree⟩
    · rintro _ s ⟨count, rfl⟩
      exact holding
    · rintro s ⟨count, rfl⟩
      exact holding
  intro _
  apply Triple.bind fun _ => Prepared kept request path
  · apply Triple.act_ok
    · rintro s ⟨holding, tree, held, present⟩
      refine ⟨holding, tree.write manifestName (buildManifest service tree), ?_, ?_⟩
      · show s.active.map _ = _
        rw [held]
        rfl
      · rw [contentsAt_write_of_ne _ _ notManifest, present]
    · exact holds
    · exact holds
  intro _
  apply Triple.bind fun _ => Prepared kept request path
  · refine .act_ok (fun s both => ⟨both.1.set ?_ none, both.2⟩) holds holds
    exact tempPath_ne_finalPath request.toRun
  intro _
  apply Triple.mayRaise_bind
  · exact holds
  · exact holds
  apply Triple.bind _ (writeZip_artifact packed)
  intro _
  apply Triple.mayRaise_bind
  · exact fun _ both => both.1
  · exact fun _ both => both.1
  apply Triple.look_bind
  rintro s₀ ⟨holding, archived⟩
  have exactly : ∀ s, s = s₀ → Holding kept request.finalPath s := fun s same => same ▸ holding
  apply Triple.bind fun _ s => s = s₀
  · apply Triple.when
    · exact fun _ => .raise _ exactly
    · exact fun _ _ same => same
  intro _
  apply Triple.act
  · rintro s rfl s' happened
    unfold ArchiveState.archivedFiles at archived
    cases held : s.archives request.tempPath with
    | none =>
      rw [held] at happened
      cases happened
    | some zip =>
      rw [held] at happened archived
      rw [← Except.ok.inj happened, archivedFiles_set]
      exact archived
  · exact fun s same _ _ => exactly s same
  · exact exactly
  · exact exactly

/-- Whatever was met on the way, a published archive has one member for each generated file, with
the content that was made. -/
theorem publishedArchive_artifacts (service : ArchiveService) (request : ArchiveRequest)
    {before after : ArchiveState} {faults : List Fault}
    (published : (publishZip service request).run before faults = (.returned (), after)) :
    ∀ path ∈ artifactFiles,
      after.archivedFiles request.finalPath path = [request.artifact path] := by
  intro path artifact
  have spec : Ends (Holding (fun _ => True) request.finalPath) (publishZip service request)
      (fun _ s => s.archivedFiles request.finalPath path = [request.artifact path])
      (Holding (fun _ => True) request.finalPath) := publishZip_artifact artifact
  have ended := (spec ⟨before, faults⟩ trivial).of_run
  rw [published] at ended
  exact ended

/-- The generated files of two lines of events. -/
def sampleArtifact (path : String) : Bytes :=
  if path = schedulerEventsName then [123, 125, 10, 123, 125, 10] else []

theorem publishedArchive_artifacts_sample : ∃ after : ArchiveState, ∀ path ∈ artifactFiles,
    after.archivedFiles sampleRequest.finalPath path = [sampleArtifact path] := by
  have ended : ((publishZip sampleService { sampleRequest with artifact := sampleArtifact }).run
      collected []).1 = .returned () := by decide +kernel
  generalize ran : (publishZip sampleService { sampleRequest with artifact := sampleArtifact }).run
    collected [] = result at ended
  exact ⟨result.2, publishedArchive_artifacts sampleService _ (ran.trans (Prod.ext ended rfl))⟩

end Packing

end NetConsole.Archive
