import NetConsole.Foundations.FallibleMaps
import NetConsole.SiteSync.ReturnImport

/-!
# Merging the files of a return package

`_merge_return_files` with the directories of the site. A file of the package is skipped when a
file of its digest is there; else it is copied to its own path, or, when something has this path
already, to the archive of the import. Every target is noted in the journal first.

No file of the site is changed, whatever fails (`mergeReturnFiles_merges`). The archive has one
place for all files of one path: of two files that are diverted to one place the later one stays,
and a copy onto a directory of the archive goes into it. So the result is stated in terms of the
placements, one for each file that was copied.
-/

set_option autoImplicit false

namespace NetConsole.SiteSync.FileMerge

open Foundations List Function

/-! ## The merge -/

/-- The site and the `created_paths` of the journal. -/
structure MergeDisk where
  files : SitePath → Option (List UInt8)
  directories : SitePath → Bool
  createdPaths : List SitePath

/-- A procedure over the files of a merge. -/
abbrev MergeProc (α : Type) : Type := Proc MergeDisk SyncError α

/-- An entry of `file_entries`. -/
structure ManifestFile where
  (relativePath payload sha256 : String)
  deriving DecidableEq

/-- A merge: the manifest, the extracted package, what `rglob` lists of the site, the identity of
the import, and the date on which each entry is merged. -/
structure MergeRequest where
  entries : List ManifestFile
  extracted : SitePath → Option (List UInt8)
  listing : List SitePath
  sha256 : List UInt8 → String
  casefold : String → String
  /-- `_safe_component` of the machine. -/
  (sourceMachine importId : String)
  today : Nat → String

def excludedParts : List String :=
  ["agents.db", "bootstrap", "cache", "credentials", "locks", "sync", "temp", "token"]

/-- `Path.suffix` of a name. -/
def nameSuffix (name : List Char) : List Char :=
  let ending := name.reverse.takeWhile (· ≠ '.')
  if ending = [] ∨ name.length ≤ ending.length + 1 then [] else '.' :: ending.reverse

/-- The test of `_sync_candidate_files`. -/
def isSyncCandidate (casefold : String → String) (path : SitePath) : Bool :=
  let name := (path.getLast?.getD "").toList
  !(path.any fun part => casefold part ∈ excludedParts) &&
    !([".tmp", ".lock", ".part", "-wal", "-shm"].any fun ending => ending.toList <:+ name) &&
    !decide (".db-".toList <:+: name)

/-- The file is a database. -/
def isSqliteDatabasePath (casefold : String → String) (path : SitePath) : Bool :=
  casefold (String.ofList (nameSuffix (path.getLast?.getD "").toList)) ∈
    [".db", ".sqlite", ".sqlite3"]

/-- `existing_by_hash` before the loop. -/
def existingByHash (request : MergeRequest) (disk : MergeDisk) : List (String × SitePath) :=
  (request.listing.filter fun path => isSyncCandidate request.casefold path &&
      !isSqliteDatabasePath request.casefold path).filterMap fun path =>
    (disk.files path).map fun content => (request.sha256 content, path)

/-- Where a file of a path that is taken goes. -/
def MergeRequest.archivedPath (request : MergeRequest) (date : String)
    (relative : SitePath) : SitePath :=
  "files" :: "sync-imports" :: date :: request.sourceMachine :: request.importId :: relative

/-- The path of an entry, the name of its payload, and the payload, which has the digest. -/
def verifiedPayload (request : MergeRequest) (entry : ManifestFile) :
    Except SyncError (SitePath × String × List UInt8) := do
  let relative ← safeRelative entry.relativePath
  let payload ← safeRelative entry.payload
  match request.extracted payload with
  | none => .error (.siteStorage "SITE_IMPORT_CHECKSUM_FAILED")
  | some content =>
    if request.sha256 content ≠ entry.sha256 then
      .error (.siteStorage "SITE_IMPORT_CHECKSUM_FAILED")
    else .ok (relative, payload.getLast?.getD "", content)

def MergeDisk.exists (disk : MergeDisk) (path : SitePath) : Bool :=
  (disk.files path).isSome || disk.directories path

local instance lawfulPath : LawfulBEq SitePath := inferInstance

/-- The journal names a path before it exists. -/
def recordSyncImportCreatedPath (created : SitePath) : MergeProc Unit := do
  Proc.mayRaise .osError
  let disk ← Proc.look
  Proc.when (created ∉ disk.createdPaths) (Proc.replaceFile .osError fun disk =>
      { disk with createdPaths := disk.createdPaths ++ [created] })

/-- `mkdir(parents=True, exist_ok=True)`, from the outermost on. -/
def makeDirectories : List SitePath → MergeProc Unit
  | [] => pure ()
  | directory :: rest => do
    Proc.act .osError fun disk =>
      if (disk.files directory).isSome then .error .osError
      else .ok { disk with directories := Function.update disk.directories directory true }
    makeDirectories rest

/-- `target.parent.mkdir(parents=True, exist_ok=True)`. -/
def makeParents (target : SitePath) : MergeProc Unit :=
  makeDirectories (target.inits.filter fun directory => directory ≠ [] && directory ≠ target)

/-- A copy onto a directory goes into it. -/
def destinationOf (disk : MergeDisk) (target : SitePath) (name : String) : SitePath :=
  if disk.directories target then target ++ [name] else target

/-- `shutil.copy2`; the copy first empties the file. -/
def copyFile (target : SitePath) (name : String) (content : List UInt8) : MergeProc Unit := do
  let disk ← Proc.look
  let destination := destinationOf disk target name
  Proc.act .osError fun disk =>
    if disk.directories destination then .error .osError
    else .ok { disk with files := Function.update disk.files destination (some []) }
  Proc.act .osError fun disk =>
    .ok { disk with files := Function.update disk.files destination (some content) }

/-- The loop of `_merge_return_files`; the index counts the entries. -/
def mergeEntries (request : MergeRequest) : List ManifestFile → Nat → List (String × SitePath) →
    MergeCounts → MergeProc MergeCounts
  | [], _, _, counts => pure counts
  | entry :: rest, index, existing, counts =>
    if existing.any fun file => file.1 = entry.sha256 then
      mergeEntries request rest (index + 1) existing
        { counts with duplicateFiles := counts.duplicateFiles + 1 }
    else do
      let (relative, name, content) ← Proc.ofExcept (verifiedPayload request entry)
      let disk ← Proc.look
      let taken := disk.exists relative
      let target := if taken then request.archivedPath (request.today index) relative else relative
      recordSyncImportCreatedPath target
      makeParents target
      copyFile target name content
      mergeEntries request rest (index + 1) ((entry.sha256, target) :: existing) { counts with
          newFiles := counts.newFiles + 1
          renamedFiles := counts.renamedFiles + if taken then 1 else 0 }

/-- `_merge_return_files`. -/
def mergeReturnFiles (request : MergeRequest) : MergeProc MergeCounts := do
  let disk ← Proc.look
  mergeEntries request request.entries 0 (existingByHash request disk) {}

/-! ## Placements -/

/-- A copy of the payload of an entry. -/
structure Placement where
  entry : ManifestFile
  destination : SitePath
  content : List UInt8

/-- The files after a copy. -/
def place (files : SitePath → Option (List UInt8)) (placement : Placement) :
    SitePath → Option (List UInt8) :=
  Function.update files placement.destination (some placement.content)

variable {files : SitePath → Option (List UInt8)}

theorem foldl_place_of_ne {placements : List Placement} {path : SitePath}
    (others : ∀ placement ∈ placements, placement.destination ≠ path) :
    placements.foldl place files path = files path := by
  induction placements generalizing files with
  | nil => rfl
  | cons placement placements ih =>
    obtain ⟨other, others⟩ := forall_mem_cons.mp others
    rw [foldl_cons, ih others]
    exact update_of_ne other.symm _ _

/-- A copy stays until there is another one to the same place. -/
theorem foldl_place_last {before after : List Placement} {placement : Placement}
    (last : ∀ later ∈ after, later.destination ≠ placement.destination) :
    (before ++ placement :: after).foldl place files placement.destination =
      some placement.content := by
  rw [foldl_append, foldl_cons, foldl_place_of_ne last]
  exact update_self _ _ _

section Spec

variable (request : MergeRequest) (before : MergeDisk)

/-- A created path: it is in the journal, or a directory that is holds it. -/
def Recorded (disk : MergeDisk) (path : SitePath) : Prop :=
  path ∈ disk.createdPaths ∨ ∃ directory ∈ disk.createdPaths, disk.directories directory = true ∧
      ∃ name, path = directory ++ [name]

/-- The files of the site are as before, and what is new is recorded. -/
def Safe (disk : MergeDisk) : Prop :=
  ∀ path, disk.files path ≠ before.files path → before.files path = none ∧ Recorded disk path

/-- Something has the path after these copies: it was there, or a copy is at it or below it. -/
def Taken (copies : List Placement) (path : SitePath) : Prop :=
  before.exists path = true ∨ ∃ copy ∈ copies, path <+: copy.destination

/-- The import has a new identity: the site and the package have nothing in its archive. -/
structure Fresh : Prop where
  absent : ∀ date relative, before.exists (request.archivedPath date relative) = false
  unlisted : ∀ entry ∈ request.entries, ∀ date relative,
    safeRelative entry.relativePath ≠ .ok (request.archivedPath date relative)

/-- Where a file goes whose path is taken: to its place in the archive,
or into a directory there. -/
def Diverted (copies : List Placement) (relative destination : SitePath) : Prop :=
  ∃ date, destination = request.archivedPath date relative ∨
    (∃ copy ∈ copies, request.archivedPath date relative <+: copy.destination) ∧
      ∃ name, destination = request.archivedPath date relative ++ [name]

/-- A verified payload goes where nothing was before: after the copies `earlier`, to the path of
its entry, or to the archive when this path is taken. -/
structure Placed (earlier : List Placement) (placement : Placement) : Prop where
  listed : placement.entry ∈ request.entries
  digest : request.sha256 placement.content = placement.entry.sha256
  free : before.files placement.destination = none
  destination : ∃ relative, safeRelative placement.entry.relativePath = .ok relative ∧
    (¬Taken before earlier relative ∧ placement.destination = relative ∨
      Taken before earlier relative ∧ Diverted request earlier relative placement.destination)

/-- A file of this digest was in the site before. -/
def HeldBefore (digest : String) : Prop :=
  ∃ path content, before.files path = some content ∧ request.sha256 content = digest

/-- What a merge has done with some entries. -/
structure Merged (entries : List ManifestFile) (counts : MergeCounts)
    (placements : List Placement) (disk : MergeDisk) : Prop where
  files : disk.files = placements.foldl place before.files
  present : ∀ path, path ≠ [] → (disk.exists path = true ↔ Taken before placements path)
  placed : ∀ earlier placement later, placements = earlier ++ placement :: later →
    Placed request before earlier placement
  recorded : ∀ placement ∈ placements, Recorded disk placement.destination
  every : ∀ entry ∈ entries, HeldBefore request before entry.sha256 ∨
    ∃ placement ∈ placements, placement.entry.sha256 = entry.sha256
  counted : counts.newFiles + counts.duplicateFiles = entries.length
  copies : counts.newFiles = placements.length
  renamed : counts.renamedFiles ≤ counts.newFiles

/-- The digests that the loop knows are those of files. -/
def Known (existing : List (String × SitePath)) (placements : List Placement) : Prop :=
  ∀ file ∈ existing, HeldBefore request before file.1 ∨
    ∃ placement ∈ placements, placement.entry.sha256 = file.1

/-- Only directories and records are added. -/
structure Grown (start disk : MergeDisk) : Prop where
  files : disk.files = start.files
  directories : ∀ path, start.directories path = true → disk.directories path = true
  createdPaths : ∀ path ∈ start.createdPaths, path ∈ disk.createdPaths

variable {request before}

theorem Grown.refl (disk : MergeDisk) : Grown disk disk :=
  ⟨rfl, fun _ => id, fun _ => id⟩

theorem Grown.trans {one two three : MergeDisk} (first : Grown one two) (second : Grown two three) :
    Grown one three :=
  ⟨second.files.trans first.files,
    fun path held => second.directories path (first.directories path held),
    fun path mem => second.createdPaths path (first.createdPaths path mem)⟩

variable {start made disk : MergeDisk} {path : SitePath}

theorem Recorded.mono (recorded : Recorded start path)
    (directories : ∀ path, start.directories path = true → disk.directories path = true)
    (created : ∀ path ∈ start.createdPaths, path ∈ disk.createdPaths) : Recorded disk path := by
  rcases recorded with mem | ⟨directory, mem, held, name, rfl⟩
  · exact .inl (created path mem)
  · exact .inr ⟨directory, created directory mem, directories directory held, name, rfl⟩

theorem Safe.grown (safe : Safe before start) (grown : Grown start disk) : Safe before disk := by
  intro path changed
  rw [grown.files] at changed
  obtain ⟨absent, recorded⟩ := safe path changed
  exact ⟨absent, recorded.mono grown.directories grown.createdPaths⟩

variable {disk : MergeDisk}

/-- A file may be written where none was before, once its path is recorded. -/
theorem Safe.write (safe : Safe before disk) (absent : before.files path = none)
    (recorded : Recorded disk path) (content : List UInt8) :
    Safe before { disk with files := Function.update disk.files path (some content) } := by
  intro other changed
  by_cases same : other = path
  · subst same
    exact ⟨absent, recorded⟩
  · exact safe other fun equal => changed ((update_of_ne same _ _).trans equal)

/-! ## The steps -/

theorem recordSyncImportCreatedPath_spec (created : SitePath) (start : MergeDisk) :
    Ends (· = start) (recordSyncImportCreatedPath created)
      (fun _ disk => Grown start disk ∧ disk.directories = start.directories ∧
        created ∈ disk.createdPaths) (Grown start) := by
  have added : Grown start { start with createdPaths := start.createdPaths ++ [created] } :=
    ⟨rfl, fun _ => id, fun _ mem => mem_append_left _ mem⟩
  refine .mayRaise_bind ?_ ?_ (.look_bind fun disk same => .when (fun _ => ?_) fun known => ?_)
  · rintro _ rfl
    exact Grown.refl _
  · rintro _ rfl
    exact Grown.refl _
  · subst same
    refine .replaceFile ?_ ?_ ?_ ?_
    · rintro _ rfl
      exact ⟨added, rfl, mem_append_right _ mem_cons_self⟩
    · rintro _ rfl
      exact Grown.refl _
    · rintro _ rfl
      exact added
    · rintro _ rfl
      exact ⟨Grown.refl _, added⟩
  · subst same
    rintro _ rfl
    exact ⟨Grown.refl _, rfl, not_not.mp (of_decide_eq_false known)⟩

theorem makeDirectories_spec : ∀ (directories : List SitePath) (start : MergeDisk),
    Ends (· = start) (makeDirectories directories)
      (fun _ disk => Grown start disk ∧ ∀ path, disk.directories path = true ↔
        start.directories path = true ∨ path ∈ directories) (Grown start)
  | [], start => .pure _ fun disk same => same ▸ ⟨Grown.refl _, fun path => by simp⟩
  | directory :: rest, start => by
    have made : Grown start
        { start with directories := Function.update start.directories directory true } := by
      refine ⟨rfl, fun path held => ?_, fun _ => id⟩
      show Function.update start.directories directory true path = true
      by_cases here : path = directory
      · rw [here, update_self]
      · rwa [update_of_ne here]
    refine .bind (fun _ disk => disk =
      { start with directories := Function.update start.directories directory true })
      (.act ?_ ?_ ?_ ?_) fun _ => (makeDirectories_spec rest _).weaken (fun _ same => same)
        (fun _ disk both => ⟨made.trans both.1, fun path => ?_⟩)
        (fun _ _ grown => made.trans grown) fun _ grown => made.trans grown
    · rintro _ rfl disk' happened
      split at happened
      · cases happened
      · exact (Except.ok.inj happened).symm
    · rintro _ rfl _ _
      exact Grown.refl _
    · rintro _ rfl
      exact Grown.refl _
    · rintro _ rfl
      exact Grown.refl _
    · rw [both.2 path, mem_cons]
      by_cases here : path = directory
      · simp [here]
      · simp [here]

theorem makeParents_spec (target : SitePath) (start : MergeDisk) :
    Ends (· = start) (makeParents target)
      (fun _ disk => Grown start disk ∧ ∀ path, path ≠ [] → (disk.directories path = true ↔
        start.directories path = true ∨ path ≠ target ∧ path <+: target)) (Grown start) := by
  refine (makeDirectories_spec _ start).returning fun _ disk both => ⟨both.1, fun path some' => ?_⟩
  rw [both.2 path, mem_filter, mem_inits]
  simp [some', and_comm]

variable {target : SitePath}

theorem recorded_destinationOf (name : String) (mem : target ∈ disk.createdPaths) :
    Recorded disk (destinationOf disk target name) := by
  unfold destinationOf
  split
  · rename_i directory
    exact .inr ⟨target, mem, directory, name, rfl⟩
  · exact .inl mem

variable {name : String}

theorem copyFile_spec (content : List UInt8) {start : MergeDisk} (safe : Safe before start)
    (mem : target ∈ start.createdPaths)
    (absent : before.files (destinationOf start target name) = none) :
    Ends (· = start) (copyFile target name content) (fun _ disk => disk = { start with
        files := Function.update start.files (destinationOf start target name) (some content) })
      (Safe before) := by
  have recorded := recorded_destinationOf name mem
  have emptied := safe.write absent recorded []
  refine .look_bind fun disk same => ?_
  subst same
  refine .bind (fun _ disk' => disk' = { disk with
      files := Function.update disk.files (destinationOf disk target name) (some []) })
    (.act ?_ ?_ ?_ ?_) fun _ => .act_ok ?_ ?_ ?_
  · rintro _ rfl disk' made
    split at made
    · cases made
    · exact (Except.ok.inj made).symm
  · rintro _ rfl _ _
    exact safe
  · rintro _ rfl
    exact safe
  · rintro _ rfl
    exact safe
  · rintro _ rfl
    show ({ disk with files := Function.update (Function.update _ _ _) _ _ } : MergeDisk) = _
    rw [update_idem]
  · rintro _ rfl
    exact emptied
  · rintro _ rfl
    exact emptied

/-! ## The loop -/

variable {placements : List Placement} {counts : MergeCounts} {entries : List ManifestFile}
  (merged : Merged request before entries counts placements disk)
include merged

theorem Merged.free {placement : Placement} (mem : placement ∈ placements) :
    before.files placement.destination = none := by
  obtain ⟨earlier, later, split⟩ := append_of_mem mem
  exact (merged.placed earlier placement later split).free

theorem Merged.safe : Safe before disk := by
  intro path changed
  by_cases placed : ∃ placement ∈ placements, placement.destination = path
  · obtain ⟨placement, mem, rfl⟩ := placed
    exact ⟨merged.free mem, merged.recorded placement mem⟩
  · rw [merged.files, foldl_place_of_ne fun placement mem same =>
      placed ⟨placement, mem, same⟩] at changed
    exact absurd rfl changed

omit merged

variable {entry : ManifestFile} {done : List ManifestFile}

theorem Merged.duplicate {existing : List (String × SitePath)}
    (merged : Merged request before done counts placements disk)
    (known : Known request before existing placements)
    (found : (existing.any fun file => file.1 = entry.sha256) = true) :
    Merged request before (done ++ [entry])
      { counts with duplicateFiles := counts.duplicateFiles + 1 } placements disk := by
  obtain ⟨file, mem, same⟩ := any_eq_true.mp found
  have held := known file mem
  rw [of_decide_eq_true same] at held
  refine ⟨merged.files, merged.present, merged.placed, merged.recorded,
    forall_mem_append.mpr ⟨merged.every, forall_mem_singleton.mpr held⟩, ?_,
    merged.copies, merged.renamed⟩
  rw [length_append, ← merged.counted]
  exact (Nat.add_assoc _ _ _).symm

/-- What a copy to a target makes: the directories above it, and the file at it or in it. -/
theorem exists_copied {target : SitePath} {content : List UInt8}
    (files : made.files = start.files) (some' : path ≠ [])
    (directories : ∀ path, path ≠ [] → (made.directories path = true ↔
      start.directories path = true ∨ path ≠ target ∧ path <+: target)) :
    MergeDisk.exists { made with
        files := Function.update made.files (destinationOf made target name) (some content) } path
        = true ↔ start.exists path = true ∨ path <+: destinationOf made target name := by
  have written : (Function.update made.files (destinationOf made target name) (some content)
      path).isSome = true ↔ path = destinationOf made target name ∨
        (start.files path).isSome = true := by
    by_cases here : path = destinationOf made target name
    · simp [here]
    · rw [update_of_ne here, files]
      simp [here]
  unfold MergeDisk.exists
  rw [Bool.or_eq_true, Bool.or_eq_true, written, directories path some']
  unfold destinationOf
  split
  · rename_i inside
    rw [prefix_concat_iff]
    by_cases here : path = target
    · -- the target is a directory already
      subst here
      have old := (directories path some').mp inside
      simp only [ne_eq, not_true_eq_false, false_and, or_false] at old
      simp [old]
    · simp only [ne_eq, here, not_false_eq_true, true_and]
      tauto
  · by_cases here : path = target
    · simp [here]
    · simp only [ne_eq, here, not_false_eq_true, true_and, false_or]
      tauto

theorem taken_append {copies : List Placement} {placement : Placement} :
    Taken before (copies ++ [placement]) path ↔
      Taken before copies path ∨ path <+: placement.destination := by
  unfold Taken
  simp only [mem_append, mem_singleton, or_and_right, exists_or, exists_eq_left, or_assoc]

theorem Merged.place {placement : Placement} (disk : MergeDisk) (taken : Bool)
    (merged : Merged request before done counts placements start)
    (files : disk.files =
      Function.update start.files placement.destination (some placement.content))
    (present : ∀ path, path ≠ [] → (disk.exists path = true ↔
      start.exists path = true ∨ path <+: placement.destination))
    (directories : ∀ path, start.directories path = true → disk.directories path = true)
    (created : ∀ path ∈ start.createdPaths, path ∈ disk.createdPaths)
    (placed : Placed request before placements placement)
    (recorded : Recorded disk placement.destination) :
    Merged request before (done ++ [placement.entry]) { counts with
        newFiles := counts.newFiles + 1
        renamedFiles := counts.renamedFiles + if taken then 1 else 0 }
      (placements ++ [placement]) disk where
  files := by
    rw [foldl_append, ← merged.files, files]
    rfl
  present path some' := by rw [present path some', merged.present path some', taken_append]
  placed earlier other later split := by
    rcases later.eq_nil_or_concat with rfl | ⟨rest, last, rfl⟩
    · obtain ⟨rfl, same⟩ := append_inj' split rfl
      cases same
      exact placed
    · rw [concat_eq_append, ← cons_append, ← append_assoc] at split
      obtain ⟨rfl, -⟩ := append_inj' split rfl
      exact merged.placed earlier other rest rfl
  recorded := forall_mem_append.mpr ⟨fun other mem =>
    (merged.recorded other mem).mono directories created, forall_mem_singleton.mpr recorded⟩
  every := by
    refine forall_mem_append.mpr ⟨fun entry mem => ?_, forall_mem_singleton.mpr ?_⟩
    · refine (merged.every entry mem).imp_right ?_
      rintro ⟨other, listed, same⟩
      exact ⟨other, mem_append_left _ listed, same⟩
    · exact .inr ⟨placement, mem_append_right _ mem_cons_self, rfl⟩
  counted := by
    rw [length_append, ← merged.counted]
    exact Nat.add_right_comm _ _ _
  copies := by
    rw [length_append, ← merged.copies]
    rfl
  renamed := by
    have renamed := merged.renamed
    show counts.renamedFiles + (if taken then 1 else 0) ≤ counts.newFiles + 1
    split <;> omega

variable {content : List UInt8} {relative : SitePath}

theorem verifiedPayload_ok
    (verified : verifiedPayload request entry = .ok (relative, name, content)) :
    safeRelative entry.relativePath = .ok relative ∧ request.sha256 content = entry.sha256 := by
  obtain ⟨_, safe, verified⟩ := bind_eq_ok.mp verified
  obtain ⟨payload, -, verified⟩ := bind_eq_ok.mp verified
  cases held : request.extracted payload with
  | none =>
    rw [held] at verified
    cases verified
  | some bytes =>
    rw [held] at verified
    simp only at verified
    split at verified
    · cases verified
    · rename_i digest
      cases verified
      exact ⟨safe, not_not.mp digest⟩

theorem safeRelative_ne_nil {value : String} (safe : safeRelative value = .ok relative) :
    relative ≠ [] := by
  unfold safeRelative at safe
  simp only at safe
  split at safe
  · cases safe
  · cases safe
    exact fun none' => splitOn_ne_nil _ _ (map_eq_nil_iff.mp none')

/-- Where the copy of an entry goes. -/
theorem placed_destinationOf (fresh : Fresh request before)
    (merged : Merged request before done counts placements start)
    (listed : entry ∈ request.entries)
    (verified : verifiedPayload request entry = .ok (relative, name, content)) {date : String}
    (same : ∀ target, target = (if start.exists relative then request.archivedPath date relative
      else relative) → disk.directories target = start.directories target) :
    Placed request before placements ⟨entry, destinationOf disk
      (if start.exists relative then request.archivedPath date relative else relative) name,
        content⟩ := by
  obtain ⟨safe, digest⟩ := verifiedPayload_ok verified
  have present := merged.present relative (safeRelative_ne_nil safe)
  have absent (path : SitePath) : before.exists (request.archivedPath date path) = false →
      before.files (request.archivedPath date path) = none := by
    intro nothing
    have noFile := (Bool.or_eq_false_iff.mp nothing).1
    exact Option.isNone_iff_eq_none.mp (by simpa using noFile)
  cases taken : start.exists relative with
  | false =>
    -- nothing has the path, so it is no directory
    have free : ¬Taken before placements relative := fun held => by
      rw [present.mpr held] at taken
      cases taken
    have nothing : before.files relative = none := by
      by_contra held
      refine free (.inl ?_)
      unfold MergeDisk.exists
      rw [Option.isSome_iff_ne_none.mpr held]
      rfl
    have here : destinationOf disk relative name = relative := by
      have directory := same relative (by rw [taken]; rfl)
      unfold destinationOf
      rw [directory, (Bool.or_eq_false_iff.mp taken).2]
      rfl
    simp only [Bool.false_eq_true, if_false, here]
    exact ⟨listed, digest, nothing, relative, safe, .inl ⟨free, rfl⟩⟩
  | true =>
    have held := present.mp taken
    simp only [if_true]
    unfold destinationOf
    split
    · rename_i directory
      have old := same (request.archivedPath date relative) (by rw [taken]; rfl)
      rw [directory] at old
      have below : start.exists (request.archivedPath date relative) = true := by
        unfold MergeDisk.exists
        rw [← old, Bool.or_true]
      refine ⟨listed, digest, absent (relative ++ [name]) (fresh.absent date _), relative, safe,
        .inr ⟨held, date, .inr ⟨?_, name, rfl⟩⟩⟩
      rcases (merged.present _ (by simp [MergeRequest.archivedPath])).mp below with there | copied
      · rw [fresh.absent] at there
        cases there
      · exact copied
    · exact ⟨listed, digest, absent relative (fresh.absent date _), relative, safe,
        .inr ⟨held, date, .inl rfl⟩⟩

theorem mergeEntries_spec
    (fresh : Fresh request before) :
    ∀ (entries : List ManifestFile) (index : Nat) (existing : List (String × SitePath))
      (counts : MergeCounts) (done : List ManifestFile) (placements : List Placement),
      (∀ entry ∈ entries, entry ∈ request.entries) → Known request before existing placements →
      Ends (Merged request before done counts placements)
        (mergeEntries request entries index existing counts)
        (fun counts disk => ∃ placements,
          Merged request before (done ++ entries) counts placements disk) (Safe before)
  | [], _, _, _, done, placements, _, _ =>
    .pure _ fun disk merged => ⟨placements, (append_nil done).symm ▸ merged⟩
  | entry :: rest, index, existing, counts, done, placements, listed, known => by
    obtain ⟨here, later⟩ := forall_mem_cons.mp listed
    have regroup : done ++ entry :: rest = (done ++ [entry]) ++ rest := by simp
    rw [regroup]
    unfold mergeEntries
    split
    · rename_i found
      exact (mergeEntries_spec fresh rest (index + 1) existing _
        _ placements later known).strengthen
        fun disk merged => merged.duplicate known found
    · refine .of_exact fun start merged => .bind (fun verified disk =>
          verifiedPayload request entry = .ok verified ∧ disk = start)
        (.ofExcept (fun _ verified _ same => ⟨verified, same⟩) ?_) fun verified => ?_
      · rintro _ _ _ rfl
        exact merged.safe
      obtain ⟨relative, name, content⟩ := verified
      refine .look_bind fun disk both => ?_
      obtain ⟨verified, rfl⟩ := both
      generalize target_eq : (if disk.exists relative then
        request.archivedPath (request.today index) relative else relative) = target
      simp only [target_eq]
      refine .bind (fun _ made => Grown disk made ∧ made.directories = disk.directories ∧
        target ∈ made.createdPaths) ((recordSyncImportCreatedPath_spec target disk).weaken
          (fun _ same => same) (fun _ _ made => made) (fun _ _ grown => merged.safe.grown grown)
          fun _ grown => merged.safe.grown grown) fun _ => .of_exact fun noted both => ?_
      obtain ⟨grown, directories, mem⟩ := both
      refine .bind (fun _ made => Grown noted made ∧ ∀ path, path ≠ [] →
          (made.directories path = true ↔
            noted.directories path = true ∨ path ≠ target ∧ path <+: target))
        ((makeParents_spec target noted).weaken (fun _ same => same) (fun _ _ made => made)
          (fun _ _ more => merged.safe.grown (grown.trans more))
          fun _ more => merged.safe.grown (grown.trans more)) fun _ => .of_exact fun made both => ?_
      obtain ⟨more, above⟩ := both
      rw [directories] at above
      have all := grown.trans more
      have some' : target ≠ [] := by
        rw [← target_eq]
        split
        · exact cons_ne_nil _ _
        · exact safeRelative_ne_nil (verifiedPayload_ok verified).1
      have placed : Placed request before placements
          ⟨entry, destinationOf made target name, content⟩ := by
        rw [← target_eq]
        refine placed_destinationOf fresh merged here verified fun other same => ?_
        rw [same, target_eq, Bool.eq_iff_iff, above target some']
        simp
      have created := more.createdPaths target mem
      refine .bind _ (copyFile_spec content (merged.safe.grown all) created placed.free) fun _ => ?_
      refine (mergeEntries_spec fresh rest (index + 1) _ _ _
        (placements ++ [⟨entry, destinationOf made target name, content⟩]) later ?_).strengthen ?_
      · refine forall_mem_cons.mpr ⟨.inr ⟨_, mem_append_right _ mem_cons_self, rfl⟩,
          fun file mem => (known file mem).imp_right ?_⟩
        rintro ⟨placement, among, same⟩
        exact ⟨placement, mem_append_left _ among, same⟩
      · rintro _ rfl
        refine merged.place
          { made with
            files := Function.update made.files (destinationOf made target name) (some content) }
          (disk.exists relative) ?_
          (fun path some' => exists_copied all.files some' above) all.directories all.createdPaths
          placed (recorded_destinationOf name created)
        rw [all.files]

theorem mergeReturnFiles_spec (fresh : Fresh request before) :
    Ends (· = before) (mergeReturnFiles request) (fun counts disk => ∃ placements,
        Merged request before request.entries counts placements disk)
      (Safe before) := by
  refine .look_bind fun disk same => ?_
  subst same
  refine (mergeEntries_spec fresh request.entries 0 (existingByHash request disk) {} [] []
    (fun _ => id) ?_).strengthen ?_
  · intro file mem
    obtain ⟨path, -, held⟩ := mem_filterMap.mp mem
    obtain ⟨content, read, rfl⟩ := Option.map_eq_some_iff.mp held
    exact .inl ⟨path, content, read, rfl⟩
  · rintro _ rfl
    exact ⟨rfl, fun path _ => by simp [Taken], by simp, nofun, nofun, rfl, rfl, Nat.le_refl 0⟩

end Spec

section Result

variable {request : MergeRequest} {before disk : MergeDisk} {counts : MergeCounts}
  {earlier later : List Placement} {placement : Placement} {relative : SitePath}
  (merged : Merged request before request.entries counts (earlier ++ placement :: later) disk)
  (safe : safeRelative placement.entry.relativePath = .ok relative)
include merged safe

/-- A file whose path is free is copied there, and no later copy goes there. -/
theorem Merged.own_path (fresh : Fresh request before) (free : ¬Taken before earlier relative) :
    placement.destination = relative ∧ disk.files relative = some placement.content := by
  have placed := merged.placed earlier placement later rfl
  obtain ⟨own, ownSafe, ⟨-, here⟩ | ⟨taken, -⟩⟩ := placed.destination
  · cases safe.symm.trans ownSafe
    have last : ∀ other ∈ later, other.destination ≠ placement.destination := by
      intro other mem same
      obtain ⟨first, rest, rfl⟩ := append_of_mem mem
      have others := merged.placed (earlier ++ placement :: first) other rest (by simp)
      obtain ⟨path, -, ⟨free', there⟩ | ⟨-, date, diverted⟩⟩ := others.destination
      · -- a free path is not the one of this copy
        refine free' (.inr ⟨placement, by simp, ?_⟩)
        rw [← there, same]
      · rw [same, here] at diverted
        rcases diverted with there | ⟨-, name, there⟩
        · exact fresh.unlisted placement.entry placed.listed date path (there ▸ safe)
        · rw [there] at safe
          exact fresh.unlisted placement.entry placed.listed date (path ++ [name]) safe
    refine ⟨here, ?_⟩
    rw [merged.files, ← here]
    exact foldl_place_last last
  · cases safe.symm.trans ownSafe
    exact absurd taken free

/-- A file whose path is taken is copied to the archive, if no other copy goes to this place. -/
theorem Merged.archived (taken : Taken before earlier relative) : ∃ date,
    (∀ other ∈ earlier ++ later, ¬request.archivedPath date relative <+: other.destination) →
      placement.destination = request.archivedPath date relative ∧
      disk.files (request.archivedPath date relative) = some placement.content := by
  obtain ⟨own, ownSafe, ⟨free, -⟩ | ⟨-, date, diverted⟩⟩ :=
    (merged.placed earlier placement later rfl).destination
  · cases safe.symm.trans ownSafe
    exact absurd taken free
  · cases safe.symm.trans ownSafe
    refine ⟨date, fun alone => ?_⟩
    rcases diverted with here | ⟨⟨other, mem, below⟩, -⟩
    · refine ⟨here, ?_⟩
      rw [merged.files, ← here]
      exact foldl_place_last fun other mem same =>
        alone other (mem_append_right _ mem) (here ▸ same ▸ prefix_rfl)
    · exact absurd below (alone other (mem_append_left _ mem))

end Result

/-- However a merge ends, the files of the site are unchanged and the new ones are recorded. When it
returns, each entry is counted once, as new or as a duplicate. A new one is copied to its own path
when nothing has this path at its turn, else to its place in the archive, and its content is there
after the merge; a duplicate has the digest of a file of the site or of a copy. -/
theorem mergeReturnFiles_merges (request : MergeRequest) (before : MergeDisk)
    (fresh : Fresh request before) (faults : List Fault) :
    (∀ path content, before.files path = some content →
      ((mergeReturnFiles request).run before faults).2.files path = some content) ∧
    (∀ path, ((mergeReturnFiles request).run before faults).2.files path ≠ before.files path →
      Recorded ((mergeReturnFiles request).run before faults).2 path) ∧
    ∀ counts, ((mergeReturnFiles request).run before faults).1 = .returned counts →
      counts.newFiles + counts.duplicateFiles = request.entries.length ∧
      counts.renamedFiles ≤ counts.newFiles ∧
      ∃ placements : List Placement, placements.length = counts.newFiles ∧
        (∀ entry ∈ request.entries, HeldBefore request before entry.sha256 ∨
          ∃ placement ∈ placements, placement.entry.sha256 = entry.sha256) ∧
        ∀ earlier placement later, placements = earlier ++ placement :: later →
          placement.entry ∈ request.entries ∧
          request.sha256 placement.content = placement.entry.sha256 ∧
          ∃ relative, safeRelative placement.entry.relativePath = .ok relative ∧
            (¬Taken before earlier relative → placement.destination = relative ∧
              ((mergeReturnFiles request).run before faults).2.files relative =
                some placement.content) ∧
            (Taken before earlier relative → ∃ date, (∀ other ∈ earlier ++ later,
                ¬request.archivedPath date relative <+: other.destination) →
              placement.destination = request.archivedPath date relative ∧
              ((mergeReturnFiles request).run before faults).2.files
                (request.archivedPath date relative) = some placement.content) := by
  have ended := (mergeReturnFiles_spec fresh).of_run rfl faults
  have safe : Safe before ((mergeReturnFiles request).run before faults).2 := by
    revert ended
    rcases (mergeReturnFiles request).run before faults with ⟨outcome, after⟩
    cases outcome with
    | returned counts => exact fun ⟨_, merged⟩ => merged.safe
    | raised error => exact id
    | crashed => exact id
  refine ⟨fun path content held => ?_, fun path changed => (safe path changed).2,
    fun counts returned => ?_⟩
  · by_contra changed
    have different := safe path fun same => changed (same.trans held)
    rw [held] at different
    cases different.1
  · revert ended returned
    rcases (mergeReturnFiles request).run before faults with ⟨outcome, after⟩
    rintro ended rfl
    obtain ⟨placements, merged⟩ := ended
    refine ⟨merged.counted, merged.renamed, placements, merged.copies.symm, merged.every, ?_⟩
    rintro earlier placement later rfl
    have placed := merged.placed earlier placement later rfl
    obtain ⟨relative, safe, -⟩ := placed.destination
    exact ⟨placed.listed, placed.digest, relative, safe, merged.own_path safe fresh,
      merged.archived safe⟩

/-! ## A file whose path is taken -/

/-- A package with a file `a` of one byte. -/
def takenRequest : MergeRequest where
  entries := [{
    relativePath := "a", payload := "return/files/dbc1"
    sha256 := "dbc1b4c900ffe48d575b5da5c638040125f65db0fe3e24494b76ea986457d986" }]
  extracted path := if path = ["return", "files", "dbc1"] then some [2] else none
  listing := [["a"]]
  sha256 content :=
    if content = [1] then "4bf5122f344554c53bde2ebb8cd2b7e3d1600ad631c385a5d7cce23c7785459a"
    else "dbc1b4c900ffe48d575b5da5c638040125f65db0fe3e24494b76ea986457d986"
  casefold text := text
  sourceMachine := "field-1"
  importId := "0f0e"
  today _ := "2026-06-01"

/-- A site that has another file `a`. -/
def takenDisk : MergeDisk where
  files path := if path = ["a"] then some [1] else none
  directories _ := false
  createdPaths := []

theorem takenDisk_run : ((mergeReturnFiles takenRequest).run takenDisk []).1 =
    .returned ⟨1, 0, 1⟩ := by
  decide +kernel

/-- The file is counted as new and as renamed. -/
theorem not_countsAddUp : ¬ ∀ (request : MergeRequest) (before : MergeDisk) (faults : List Fault)
    (counts : MergeCounts), ((mergeReturnFiles request).run before faults).1 = .returned counts →
      counts.newFiles + counts.duplicateFiles + counts.renamedFiles = request.entries.length := by
  intro all
  have sum := all takenRequest takenDisk [] _ takenDisk_run
  cases sum

theorem fresh_taken : Fresh takenRequest takenDisk where
  absent date relative := by
    have other : takenRequest.archivedPath date relative ≠ ["a"] := fun same =>
      absurd (congrArg List.head? same) (by simp [MergeRequest.archivedPath])
    simp [MergeDisk.exists, takenDisk, other]
  unlisted := by
    have own : safeRelative "a" = .ok ["a"] := by decide +kernel
    intro entry mem date relative archived
    cases mem_singleton.mp mem
    have same := congrArg List.head? (Except.ok.inj (own.symm.trans archived))
    exact absurd same (by simp [MergeRequest.archivedPath])

/-- The site keeps its file, and the other one is in the archive. -/
theorem mergeReturnFiles_merges_taken :
    ((mergeReturnFiles takenRequest).run takenDisk []).2.files ["a"] = some [1] ∧
    ∃ date content, takenRequest.sha256 content =
        "dbc1b4c900ffe48d575b5da5c638040125f65db0fe3e24494b76ea986457d986" ∧
      ((mergeReturnFiles takenRequest).run takenDisk []).2.files
        (takenRequest.archivedPath date ["a"]) = some content := by
  obtain ⟨unchanged, -, returned⟩ := mergeReturnFiles_merges takenRequest takenDisk fresh_taken []
  refine ⟨unchanged ["a"] [1] rfl, ?_⟩
  obtain ⟨-, -, placements, single, -, placed⟩ := returned _ takenDisk_run
  obtain ⟨placement, rfl⟩ := length_eq_one_iff.mp single
  obtain ⟨listed, digest, relative, safe, -, archived⟩ := placed [] placement [] rfl
  rw [mem_singleton.mp listed] at safe digest
  have own : safeRelative "a" = .ok ["a"] := by decide +kernel
  cases Except.ok.inj (own.symm.trans safe)
  obtain ⟨date, there⟩ := archived (.inl (by decide))
  exact ⟨date, placement.content, digest, (there nofun).2⟩

end NetConsole.SiteSync.FileMerge
