import NetConsole.Archive.ArchiveRun

/-!
# Archiving keeps the raw files

`NeverLoses`: after any number of attempts to archive a run, each failing, cut
off or completing anywhere, every raw file of the run is in the active directory
or, with the same bytes, in the ZIP file at the final path.

The invariant of the attempts is `Preserved`: the ZIP file at the final path is
complete, or the active directory is and the archive is not registered as
ready. It survives every attempt that builds a ZIP file only from a complete
active directory (`neverLoses_of_complete`). An attempt that fails after the
active directory was removed is marked as failed, and the next one builds its
archive from what is left (`not_neverLoses_failedAfterCleanup`).
-/

set_option autoImplicit false

namespace NetConsole.Archive

open Foundations List

/-! ## The statement -/

/-- Every raw file is in the directory, or in the ZIP file. -/
def HasAll (raw : FileTree Bytes) (directory : Option (FileTree Bytes)) : Prop :=
  ∃ tree, directory = some tree ∧ ∀ entry ∈ raw, tree.file entry.1 = some entry.2

/-- Every raw file is in the active directory or in the final ZIP file. -/
def RawPreserved (raw : FileTree Bytes) (run : Run) (s : ArchiveState) : Prop :=
  ∀ entry ∈ raw, s.active.bind (FileTree.file · entry.1) = some entry.2 ∨
    (s.archives run.finalPath).bind (FileTree.file · entry.1) = some entry.2

/-- The states after some attempts to archive the run, each with its own
surroundings and faults, and started within `guard`. -/
inductive Attempted (service : ArchiveService) (run : Run)
    (guard : ArchiveRequest → ArchiveState → List Fault → Prop) (start : ArchiveState) :
    ArchiveState → Prop where
  | start : Attempted service run guard start start
  | attempt {s : ArchiveState} (earlier : Attempted service run guard start s)
      (request : ArchiveRequest) (same : request.toRun = run) (faults : List Fault)
      (within : guard request s faults) :
      Attempted service run guard start ((archiveRun service request).run s faults).2

/-- No attempts and recoveries lose the raw data. -/
def NeverLoses (service : ArchiveService) (run : Run) (raw : FileTree Bytes)
    (start : ArchiveState) (guard : ArchiveRequest → ArchiveState → List Fault → Prop) : Prop :=
  ∀ s, Attempted service run guard start s → RawPreserved raw run s

/-- When this attempt comes to building a ZIP file, the active directory still
has every raw file. -/
def BuildsFromAll (service : ArchiveService) (raw : FileTree Bytes) (request : ArchiveRequest)
    (s : ArchiveState) (faults : List Fault) : Prop :=
  ∀ world, resumeReady service request ⟨s, faults⟩ = .ok none world →
    HasAll raw world.durable.active

/-- Raw files are packed, and archiving writes no file of their names. -/
def RawNames (raw : FileTree Bytes) : Prop :=
  ∀ entry ∈ raw, isPacked entry.1 = true ∧ entry.1 ∉ generatedPaths

/-- Archive ids and file names follow from the run, and no two runs share a
date: rows of other runs have other ids and other files. -/
def RowsSeparate (run : Run) (s : ArchiveState) : Prop :=
  ∀ row ∈ s.rows, if row.runId = run.runId then
      row.archiveId = run.archiveId ∧ row.path = run.finalPath
    else row.archiveId ≠ run.archiveId ∧ row.path ≠ run.finalPath

/-! ## Files of a directory -/

section Files

variable {raw : FileTree Bytes} {path : String}

theorem file_filter (tree : FileTree Bytes) (keep : String → Bool) (kept : keep path = true) :
    FileTree.file (tree.filter fun (name, _) => keep name) path = tree.file path := by
  unfold FileTree.file
  induction tree with
  | nil => rfl
  | cons entry rest ih =>
    obtain ⟨name, _⟩ := entry
    by_cases same : path = name
    · subst same
      simp only [filter_cons, kept, if_true, lookup_cons_self]
    · have passed : (path == name) = false := by simpa using same
      cases keeps : keep name with
      | true => simp only [filter_cons, keeps, if_true, lookup_cons, passed, ih]
      | false =>
        simp only [filter_cons, keeps, lookup_cons, passed, ← ih]
        rfl

variable {tree : FileTree Bytes}

theorem HasAll.write (all : HasAll raw (some tree)) (names : RawNames raw)
    (generated : path ∈ generatedPaths) (content : Bytes) :
    HasAll raw (some (tree.write path content)) := by
  obtain ⟨_, same, present⟩ := all
  cases same
  refine ⟨_, rfl, fun entry mem => ?_⟩
  rw [FileTree.file_write_of_ne]
  · exact present entry mem
  · intro same
    exact (names entry mem).2 (same ▸ generated)

theorem HasAll.packed (all : HasAll raw (some tree)) (names : RawNames raw) :
    HasAll raw (some (tree.filter fun (path, _) => isPacked path)) := by
  obtain ⟨_, same, present⟩ := all
  cases same
  refine ⟨_, rfl, fun entry mem => ?_⟩
  rw [file_filter _ isPacked (names entry mem).1]
  exact present entry mem

/-- Adding the members one after another gives the list of the members. -/
theorem after_append (members zip : FileTree Bytes) :
    FileTree.after (members.map fun entry zip => zip ++ [entry]) zip = zip ++ members := by
  induction members generalizing zip with
  | nil => simp [FileTree.after]
  | cons entry rest ih =>
    have step := ih (zip ++ [entry])
    rw [append_assoc] at step
    exact step

end Files

/-! ## Rows of the repository -/

section Rows

variable {run : Run} {s : ArchiveState}

/-- A row that `archive_run` writes for the run. -/
def OwnRow (run : Run) (row : ArchiveRow) : Prop :=
  row.runId = run.runId ∧ row.archiveId = run.archiveId ∧ row.path = run.finalPath

variable {row : ArchiveRow} (separate : RowsSeparate run s)
include separate

theorem RowsSeparate.upsert (own : OwnRow run row) : RowsSeparate run (s.upsertArchive row) := by
  have stored : if row.runId = run.runId then
      row.archiveId = run.archiveId ∧ row.path = run.finalPath
    else row.archiveId ≠ run.archiveId ∧ row.path ≠ run.finalPath := by
    rw [if_pos own.1]
    exact own.2
  intro other mem
  unfold ArchiveState.upsertArchive at mem
  split at mem
  · obtain ⟨before, held, rfl⟩ := mem_map.mp mem
    split
    · exact stored
    · exact separate before held
  · rcases mem_append.mp mem with held | new
    · exact separate other held
    · rw [mem_singleton.mp new]
      exact stored

theorem RowsSeparate.filter (keep : ArchiveRow → Bool) :
    RowsSeparate run { s with rows := s.rows.filter keep } :=
  fun row mem => separate row (mem_filter.mp mem).1

theorem RowsSeparate.own (found : s.archiveByRun run.runId = some row) : OwnRow run row := by
  have mem := mem_of_find?_eq_some found
  have same : row.runId = run.runId := by simpa using List.find?_some found
  have stored := separate row mem
  rw [if_pos same] at stored
  exact ⟨same, stored⟩

/-- The archive of the run is registered as ready. -/
def ReadyRow (run : Run) (s : ArchiveState) : Prop :=
  ∃ row, s.archiveByRun run.runId = some row ∧ row.status = .ready

theorem archiveByRun_upsert {found : ArchiveRow}
    (own : OwnRow run row) (held : (s.upsertArchive row).archiveByRun run.runId = some found) :
    found = row := by
  have mem := mem_of_find?_eq_some held
  have same : found.runId = run.runId := by simpa using List.find?_some held
  unfold ArchiveState.upsertArchive at mem
  split at mem
  · obtain ⟨before, stored, rfl⟩ := mem_map.mp mem
    split
    · rfl
    case isFalse other =>
      rw [if_neg other] at same
      have ids := separate before stored
      rw [if_pos same] at ids
      exact absurd (ids.1.trans own.2.1.symm) other
  case isFalse absent =>
    rcases mem_append.mp mem with stored | new
    · have ids := separate found stored
      rw [if_pos same] at ids
      refine absurd (any_eq_true.mpr ⟨found, stored, ?_⟩) absent
      simpa using ids.1.trans own.2.1.symm
    · exact mem_singleton.mp new

theorem not_readyRow_upsert (own : OwnRow run row)
    (unready : row.status ≠ .ready) : ¬ReadyRow run (s.upsertArchive row) := by
  rintro ⟨_, held, ready⟩
  rw [archiveByRun_upsert separate own held] at ready
  exact unready ready

end Rows

/-! ## The invariant -/

section Invariant

variable (raw : FileTree Bytes) (run : Run)

/-- The ZIP file at the final path has every raw file. -/
structure Archived (s : ArchiveState) : Prop where
  separate : RowsSeparate run s
  final : HasAll raw (s.archives run.finalPath)

/-- The active directory has every raw file, and no attempt takes an archive for
ready. -/
structure Active (s : ArchiveState) : Prop where
  separate : RowsSeparate run s
  active : HasAll raw s.active
  unready : ¬ReadyRow run s

/-- The raw data is in the archive or still active. -/
def Preserved (s : ArchiveState) : Prop := Archived raw run s ∨ Active raw run s

variable {raw run} {s : ArchiveState}

theorem Preserved.rawPreserved (preserved : Preserved raw run s) : RawPreserved raw run s := by
  intro entry mem
  rcases preserved with archived | active
  · obtain ⟨_, held, present⟩ := archived.final
    exact .inr (by rw [held]; exact present entry mem)
  · obtain ⟨_, held, present⟩ := active.active
    exact .inl (by rw [held]; exact present entry mem)

theorem Preserved.separate (preserved : Preserved raw run s) : RowsSeparate run s := by
  rcases preserved with archived | active
  · exact archived.separate
  · exact active.separate

variable {row : ArchiveRow}

theorem Archived.upsert (archived : Archived raw run s) (own : OwnRow run row) :
    Archived raw run (s.upsertArchive row) := by
  refine ⟨archived.separate.upsert own, ?_⟩
  unfold ArchiveState.upsertArchive
  split
  · exact archived.final
  · exact archived.final

theorem Active.upsert (separate : RowsSeparate run s) (active : HasAll raw s.active)
    (own : OwnRow run row) (unready : row.status ≠ .ready) :
    Active raw run (s.upsertArchive row) := by
  refine ⟨separate.upsert own, ?_, not_readyRow_upsert separate own unready⟩
  unfold ArchiveState.upsertArchive
  split
  · exact active
  · exact active

theorem Archived.setActive (archived : Archived raw run s) (tree : Option (FileTree Bytes)) :
    Archived raw run { s with active := tree } :=
  ⟨archived.separate, archived.final⟩

/-- Files of other names may come and go. -/
theorem Archived.setArchive (archived : Archived raw run s) {name : String}
    (other : name ≠ run.finalPath) (zip : Option (FileTree Bytes)) :
    Archived raw run { s with archives := Function.update s.archives name zip } := by
  refine ⟨archived.separate, ?_⟩
  show HasAll raw (Function.update s.archives name zip run.finalPath)
  rw [Function.update_of_ne other.symm]
  exact archived.final

theorem Active.setArchive (active : Active raw run s) (name : String)
    (zip : Option (FileTree Bytes)) :
    Active raw run { s with archives := Function.update s.archives name zip } :=
  ⟨active.separate, active.active, active.unready⟩

theorem tempPath_ne_finalPath (run : Run) : run.tempPath ≠ run.finalPath := by
  intro same
  have lengths := congrArg String.length same
  simp only [Run.tempPath, String.length_append] at lengths
  have dot : ".".length = 1 := rfl
  omega

theorem Preserved.setTemp (preserved : Preserved raw run s) (zip : Option (FileTree Bytes)) :
    Preserved raw run { s with archives := Function.update s.archives run.tempPath zip } := by
  rcases preserved with archived | active
  · exact .inl (archived.setArchive (tempPath_ne_finalPath run) zip)
  · exact .inr (active.setArchive run.tempPath zip)

end Invariant

/-! ## Parts that do not touch the final ZIP file -/

section Parts

variable {raw : FileTree Bytes} {service : ArchiveService} {request : ArchiveRequest}

theorem upsertArchive_keeps {row : ArchiveRow} (own : OwnRow request.toRun row) :
    Keeps (Archived raw request.toRun) (upsertArchive row) :=
  .act fun _ archived => archived.upsert own

theorem markRawFilesArchived_keeps : Keeps (Archived raw request.toRun) markRawFilesArchived :=
  .act fun _ archived => ⟨archived.separate, archived.final⟩

theorem cleanUpActive_keeps : Keeps (Archived raw request.toRun) cleanUpActive := by
  apply Keeps.tryExcept
  · apply Keeps.bind
    · apply Keeps.look_bind
      intro s₀ _
      apply Keeps.bind
      · exact .when fun _ => .raise _
      · exact fun _ => removeTree_keeps activeSlot fun rest _ archived => archived.setActive rest
    · exact fun _ => .pure _
  · exact fun _ => .pure _

theorem cleanUpUnless_keeps {cleanupPending : Bool} :
    Keeps (Archived raw request.toRun) (cleanUpUnless cleanupPending) := by
  cases cleanupPending with
  | true => exact .pure _
  | false => exact cleanUpActive_keeps

/-- Rows of other runs and their files go; the final ZIP file stays. -/
theorem deleteArchive_keeps {archiveId : String} (other : archiveId ≠ request.archiveId) :
    Keeps (Archived raw request.toRun) (deleteArchive request.inUse archiveId) := by
  apply Keeps.look_bind
  intro s₀ archived
  cases found : s₀.rows.find? fun row => row.archiveId = archiveId with
  | none => exact .pure _
  | some row =>
    have same : row.archiveId = archiveId := by simpa using List.find?_some found
    have stored := archived.separate row (mem_of_find?_eq_some found)
    have elsewhere : row.path ≠ request.finalPath := by
      split at stored
      · exact absurd (same.symm.trans stored.1) other
      · exact stored.2
    apply Keeps.bind
    · exact .when fun _ => .raise _
    intro _
    apply Keeps.bind
    · exact .when fun _ => .raise _
    intro _
    apply Keeps.bind
    · apply Keeps.when
      intro _
      apply Keeps.act
      exact fun s archived => archived.setArchive elsewhere none
    intro _
    apply Keeps.bind .mayRaise
    intro _
    apply Keeps.act
    exact fun s archived => ⟨archived.separate.filter _, archived.final⟩

theorem deleteExpired_keeps (rows : List ArchiveRow)
    (other : ∀ row ∈ rows, row.runId ≠ request.runId → row.archiveId ≠ request.archiveId) :
    Keeps (Archived raw request.toRun) (deleteExpired request rows) := by
  induction rows with
  | nil => exact .pure _
  | cons row rest ih =>
    apply Keeps.bind
    · apply Keeps.when
      intro expired
      apply deleteArchive_keeps
      apply other row (mem_cons_self ..)
      simp only [keptByRetention, Bool.not_eq_true', Bool.or_eq_false_iff,
        decide_eq_false_iff_not] at expired
      exact expired.2
    · exact fun _ => ih fun row mem => other row (mem_cons_of_mem _ mem)

theorem applyRetention_keeps : Keeps (Archived raw request.toRun) (applyRetention request) := by
  apply Keeps.look_bind
  intro s₀ archived
  apply Keeps.bind
  · apply deleteExpired_keeps
    intro row mem different
    have stored := archived.separate row mem
    rw [if_neg different] at stored
    exact stored.1
  · exact fun _ => .mayRaise

variable {existing : ArchiveRow}

theorem acceptReady_keeps (own : OwnRow request.toRun existing) :
    Keeps (Archived raw request.toRun) (acceptReady request existing) := by
  apply Keeps.bind markRawFilesArchived_keeps
  intro _
  apply Keeps.bind
  · apply Keeps.look_bind
    intro s₀ _
    split
    · exact .pure _
    · split
      · exact cleanUpActive_keeps
      · exact .pure _
  intro pending
  apply Keeps.bind
  · exact .when fun _ => upsertArchive_keeps own
  intro _
  apply Keeps.bind applyRetention_keeps
  intro _
  exact .bind .mayRaise fun _ => .pure _

theorem rejectReady_keeps (own : OwnRow request.toRun existing) :
    Keeps (Archived raw request.toRun) (rejectReady existing) := by
  have rejected : OwnRow request.toRun
      { existing with status := .failed, activeCleanupPending := false } := own
  apply Keeps.bind (upsertArchive_keeps rejected)
  intro _
  exact .bind .mayRaise fun _ => .pure _

theorem row_own (status : ArchiveStatus) (sha256 : String) (pending : Bool) :
    OwnRow request.toRun (request.row status sha256 pending) :=
  ⟨rfl, rfl, rfl⟩

theorem registerZip_keeps : Keeps (Archived raw request.toRun) (registerZip service request) := by
  apply Keeps.bind .mayRaise
  intro _
  apply Keeps.look_bind
  intro s₀ _
  apply Keeps.bind (upsertArchive_keeps (row_own ..))
  intro _
  apply Keeps.bind markRawFilesArchived_keeps
  intro _
  apply Keeps.look_bind
  intro marked _
  apply Keeps.bind .mayRaise
  intro _
  apply Keeps.bind cleanUpUnless_keeps
  intro pending
  apply Keeps.bind (upsertArchive_keeps (row_own ..))
  intro _
  apply Keeps.bind applyRetention_keeps
  intro _
  exact .bind .mayRaise fun _ => .pure _

theorem markFailed_keeps : Keeps (Preserved raw request.toRun) (markFailed service request) := by
  apply Keeps.bind
  · exact .act fun _ preserved => preserved.setTemp none
  intro _
  apply Keeps.look_bind
  intro s₀ _
  apply Keeps.bind .mayRaise
  intro _
  apply Keeps.bind
  · apply Keeps.act
    rintro s (archived | active)
    · exact .inl (archived.upsert (row_own ..))
    · exact .inr (.upsert active.separate active.active (row_own ..) (by simp [ArchiveRequest.row]))
  intro _
  exact .bind .mayRaise fun _ => .pure _

end Parts

/-! ## An attempt -/

section Attempt

variable {raw : FileTree Bytes} {service : ArchiveService} {request : ArchiveRequest}

theorem checkReady_keeps {holds : ArchiveState → Prop} {existing : ArchiveRow} :
    Keeps holds (checkReady service existing) := by
  apply Keeps.tryExcept
  · exact .bind .mayRaise fun _ => .look_bind fun _ _ => .pure _
  · exact fun _ => .pure _

/-- An archive that is ready is complete: nothing that follows touches it. -/
theorem resumeReady_keeps : Keeps (Preserved raw request.toRun) (resumeReady service request) := by
  apply Keeps.bind .mayRaise
  intro _
  apply Triple.look_bind
  intro s₀ preserved
  have unchanged : Keeps (Preserved raw request.toRun)
      (pure none : ArchiveProc (Option ArchiveResult)) := .pure _
  have exactly : ∀ s, s = s₀ → Preserved raw request.toRun s := fun s same => same ▸ preserved
  cases found : s₀.archiveByRun request.runId with
  | none => exact unchanged.strengthen exactly
  | some existing =>
    simp only
    split
    · exact unchanged.strengthen exactly
    case isFalse ready =>
      have ready : ReadyRow request.toRun s₀ := ⟨existing, found, by simpa using ready⟩
      have archived : Archived raw request.toRun s₀ := by
        rcases preserved with archived | active
        · exact archived
        · exact absurd ready active.unready
      have own := archived.separate.own found
      have resumed : Keeps (Archived raw request.toRun) (do
          Proc.mayRaise ArchiveError.osError
          let valid ← checkReady service existing
          if valid then return some (← acceptReady request existing)
          else do
            let s ← Proc.look
            if s.active.isNone then return some (← rejectReady existing)
            else return none) := by
        apply Keeps.bind .mayRaise
        intro _
        apply Keeps.bind checkReady_keeps
        intro valid
        split
        · exact .bind (acceptReady_keeps own) fun _ => .pure _
        · apply Keeps.look_bind
          intro s₁ _
          split
          · exact .bind (rejectReady_keeps own) fun _ => .pure _
          · exact .pure _
      exact resumed.weaken (fun s same => same ▸ archived) (fun _ _ archived => .inl archived)
        (fun _ _ archived => .inl archived) fun _ archived => .inl archived

variable (names : RawNames raw)
include names

/-- The ZIP file in the making has every raw file when it is finished. -/
theorem writeZip_spec : Ends (Active raw request.toRun) (writeZip request.tempPath)
      (fun _ s => Active raw request.toRun s ∧ HasAll raw (s.archives request.tempPath))
      (Active raw request.toRun) := by
  apply Triple.look_bind
  intro s₀ active
  obtain ⟨tree, held, present⟩ := active.active
  have exactly : ∀ s, s = s₀ → Active raw request.toRun s := fun s same => same ▸ active
  rw [held]
  apply Triple.bind fun _ s => s = (archiveSlot request.tempPath).set (some []) s₀
  · apply Triple.act_ok
    · rintro s rfl
      rfl
    · exact exactly
    · exact exactly
  · intro _
    have partly : ∀ zip, Active raw request.toRun ((archiveSlot request.tempPath).set zip s₀) :=
      fun zip => active.setArchive request.tempPath zip
    apply (applySteps_spec (archiveSlot request.tempPath) s₀ _ []).weaken (fun _ same => same)
    · rintro _ s rfl
      refine ⟨partly _, ?_⟩
      show HasAll raw (Function.update s₀.archives request.tempPath (some _) request.tempPath)
      rw [Function.update_self, after_append, nil_append]
      exact HasAll.packed ⟨tree, rfl, present⟩ names
    · rintro _ s ⟨count, rfl⟩
      exact partly _
    · rintro s ⟨count, rfl⟩
      exact partly _

variable {s : ArchiveState}

omit names in
theorem Active.modify (active : Active raw request.toRun s)
    {change : FileTree Bytes → FileTree Bytes}
    (kept : ∀ tree, HasAll raw (some tree) → HasAll raw (some (change tree))) :
    Active raw request.toRun (activeSlot.modify change s) := by
  obtain ⟨tree, held, present⟩ := active.active
  refine ⟨active.separate, ?_, active.unready⟩
  show HasAll raw (s.active.map change)
  rw [held]
  exact kept tree ⟨tree, rfl, present⟩

/-- The generated files take no raw file's name. -/
theorem artifactSteps_keep {step : FileTree Bytes → FileTree Bytes}
    (mem : step ∈ artifactSteps request) (tree : FileTree Bytes)
    (all : HasAll raw (some tree)) : HasAll raw (some (step tree)) := by
  rcases mem_append.mp mem with directory | file
  · obtain ⟨path, listed, rfl⟩ := mem_map.mp directory
    exact all.write names (mem_append_left _ (mem_append_left _ listed)) _
  · obtain ⟨path, listed, rfl⟩ := mem_map.mp file
    exact all.write names (mem_append_left _ (mem_append_right _ listed)) _

/-- A ZIP file that reaches the final path has every raw file. -/
theorem publishZip_spec : Ends (Active raw request.toRun) (publishZip service request)
      (fun _ => Archived raw request.toRun) (Active raw request.toRun) := by
  have prepared : ∀ {α : Type} {procedure : ArchiveProc Unit} {next : Unit → ArchiveProc α}
      {returns : α → ArchiveState → Prop}, Keeps (Active raw request.toRun) procedure →
      Ends (Active raw request.toRun) (next ()) returns (Active raw request.toRun) →
      Ends (Active raw request.toRun) (procedure >>= next) returns (Active raw request.toRun) :=
    fun kept rest => .bind _ kept fun _ => rest
  apply prepared
  · apply Keeps.act
    intro s active
    obtain ⟨tree, held, present⟩ := active.active
    exact ⟨active.separate, ⟨tree, by rw [held]; rfl, present⟩, active.unready⟩
  apply prepared
  · apply applySteps_keeps
    exact fun step mem s active => active.modify fun tree all =>
      artifactSteps_keep names mem tree all
  apply prepared
  · apply Keeps.act
    exact fun s active => active.modify fun tree all =>
      all.write names (mem_append_right _ (mem_singleton_self _)) _
  apply prepared
  · exact .act fun s active => active.setArchive request.tempPath none
  apply prepared .mayRaise
  apply Triple.bind _ (writeZip_spec names)
  intro _
  apply Triple.mayRaise_bind
  · exact fun _ both => both.1
  · exact fun _ both => both.1
  apply Triple.look_bind
  rintro s₀ ⟨active, complete⟩
  have exactly : ∀ s, s = s₀ → Active raw request.toRun s := fun s same => same ▸ active
  apply Triple.bind fun _ s => s = s₀
  · apply Triple.when
    · exact fun _ => .raise _ exactly
    · exact fun _ _ same => same
  intro _
  apply Triple.act
  · rintro s rfl s' happened
    obtain ⟨zip, held, present⟩ := complete
    rw [held] at happened
    rw [← Except.ok.inj happened]
    exact ⟨active.separate, zip, Function.update_self .., present⟩
  · exact fun s same _ _ => exactly s same
  · exact exactly
  · exact exactly

/-- A ZIP file is built from a complete active directory. -/
theorem buildArchive_spec : Ends (fun s => Preserved raw request.toRun s ∧ HasAll raw s.active)
      (buildArchive service request) (fun _ => Preserved raw request.toRun)
      (Preserved raw request.toRun) := by
  apply Triple.mayRaise_bind
  · exact fun _ both => both.1
  · exact fun _ both => both.1
  apply Triple.bind fun _ => Active raw request.toRun
  · apply Triple.act_ok
    · exact fun s both => .upsert both.1.separate both.2 (row_own ..) (by simp [ArchiveRequest.row])
    · exact fun _ both => both.1
    · exact fun _ both => both.1
  intro _
  apply Triple.tryExcept fun _ => Preserved raw request.toRun
  · apply Triple.bind fun _ => Archived raw request.toRun
    · exact (publishZip_spec names).weaken (fun _ active => active) (fun _ _ archived => archived)
        (fun _ _ active => .inr active) fun _ active => .inr active
    · intro _
      exact registerZip_keeps.weaken (fun _ archived => archived)
        (fun _ _ archived => .inl archived) (fun _ _ archived => .inl archived)
        fun _ archived => .inl archived
  · exact fun _ => markFailed_keeps

/-- An attempt keeps the raw files, however it ends. -/
theorem archiveRun_preserves {faults : List Fault} (preserved : Preserved raw request.toRun s)
    (complete : BuildsFromAll service raw request s faults) :
    Preserved raw request.toRun ((archiveRun service request).run s faults).2 := by
  apply Meets.keeps
  apply Meets.bind _ (resumeReady_keeps ⟨s, faults⟩ preserved)
  intro resumed world ended preserved
  cases resumed with
  | some result => exact preserved
  | none => exact buildArchive_spec names world ⟨preserved, complete world ended⟩

omit names

/-- Archiving never loses a raw file, when every attempt that builds a ZIP file
finds all of them in the active directory. -/
theorem neverLoses_of_complete (service : ArchiveService) (run : Run) (raw : FileTree Bytes)
    (start : ArchiveState) (names : RawNames raw) (separate : RowsSeparate run start)
    (unregistered : start.archiveByRun run.runId = none) (present : HasAll raw start.active) :
    NeverLoses service run raw start (BuildsFromAll service raw) := by
  intro s attempted
  have preserved : Preserved raw run s := by
    induction attempted with
    | start =>
      refine .inr ⟨separate, present, ?_⟩
      rintro ⟨_, found, _⟩
      rw [unregistered] at found
      cases found
    | attempt _ request same faults within ih =>
      subst same
      exact archiveRun_preserves names ih within
  exact preserved.rawPreserved

end Attempt

/-! ## A failure after the cleanup -/

section Samples

def textBytes (text : String) : Bytes := text.toList.map fun c => UInt8.ofNat c.toNat

def dumpPairs (items : List (String × String)) : Bytes :=
  items.flatMap fun (path, digest) => textBytes path ++ 0 :: textBytes digest ++ [0]

def pairUp : List String → List (String × String)
  | path :: digest :: rest => (path, digest) :: pairUp rest
  | _ => []

/-- A service whose digests are lengths, and whose manifests separate their
fields by zero bytes. -/
def sampleService : ArchiveService where
  sha256 content := toString content.length
  zipSha256 zip := toString zip.length
  dumpManifest := dumpPairs
  loadManifest content := some (pairUp ((content.splitOn 0).map fun field =>
    String.ofList (field.map fun byte => Char.ofNat byte.toNat)))

def sampleRequest : ArchiveRequest where
  runId := "r"
  runDate := "2026-01-01"
  retentionUntil := "2026-02-01"
  today := "2026-01-02"
  inUse _ := false
  artifact _ := []

def sampleRaw : FileTree Bytes := [("realtime/a.ndjson", [1])]

def collected : ArchiveState where
  active := some sampleRaw
  archives _ := none
  rows := []
  rawFiles := []

/-- The registration after the removal of the active directory fails. -/
def secondRegistrationFails : List Fault := List.replicate 55 .proceed ++ [.fail]

/-- The state after that attempt and a complete one. -/
def retried : ArchiveState :=
  ((archiveRun sampleService sampleRequest).run
    ((archiveRun sampleService sampleRequest).run collected secondRegistrationFails).2 []).2

theorem retried_lost : (retried.active.bind (FileTree.file · "realtime/a.ndjson")).isNone ∧
      ((retried.archives sampleRequest.finalPath).bind
        (FileTree.file · "realtime/a.ndjson")).isNone := by
  decide +kernel

/-- Archiving loses raw files: the attempt that failed after its cleanup is
repeated, and its complete ZIP file is replaced by one of the emptied
directory. -/
theorem not_neverLoses_failedAfterCleanup :
    ¬NeverLoses sampleService sampleRequest.toRun sampleRaw collected fun _ _ _ => True := by
  intro preserved
  have lost := retried_lost
  have attempted : Attempted sampleService sampleRequest.toRun (fun _ _ _ => True) collected
      retried :=
    .attempt (.attempt .start sampleRequest rfl secondRegistrationFails trivial) sampleRequest rfl
      [] trivial
  generalize retried = after at lost attempted
  rcases preserved after attempted _ (mem_singleton_self _) with held | held
  · rw [held] at lost
    cases lost.1
  · rw [held] at lost
    cases lost.2

/-- A first attempt builds from the collected files, whatever fails later. -/
theorem neverLoses_collected :
    BuildsFromAll sampleService sampleRaw sampleRequest collected secondRegistrationFails ∧
      NeverLoses sampleService sampleRequest.toRun sampleRaw collected
        (BuildsFromAll sampleService sampleRaw) := by
  have present : HasAll sampleRaw collected.active := ⟨sampleRaw, rfl, by decide⟩
  constructor
  · intro world ended
    have resumed : resumeReady sampleService sampleRequest ⟨collected, secondRegistrationFails⟩ =
        .ok none ⟨collected, secondRegistrationFails.tail⟩ := rfl
    rw [resumed] at ended
    cases ended
    exact present
  · apply neverLoses_of_complete
    · show ∀ entry ∈ sampleRaw, isPacked entry.1 = true ∧ entry.1 ∉ generatedPaths
      decide
    · intro row mem
      cases mem
    · rfl
    · exact present

end Samples

end NetConsole.Archive
