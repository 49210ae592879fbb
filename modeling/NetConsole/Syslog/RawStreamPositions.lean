import NetConsole.Syslog.RawStream

/-!
# Positions of raw records

A run gives records to one writer and closes it from time to time.
`PositionsSound` is what readers of the raw files rely on: positions are
distinct, a line number is the physical line of the record, and a closed file
is registered with its number of lines. It holds exactly for the runs that
never write to a file again after it was closed (`positionsSound_iff`): the
counter of a file that is opened again starts at zero, above lines that are
already there.
-/

set_option autoImplicit false

namespace NetConsole.Syslog

open List Function

/-- What is asked of the raw store. -/
inductive RawOp where
  | write (record : RawRecord) (receivedAt : ReceivedAt)
  | close

/-- A record that was written, with the position that was returned for it. -/
structure WrittenRecord where
  key : FileKey
  fileId : String
  line : Nat
  json : String

/-- One call: the writer afterwards and the position that was returned. -/
def rawStep (config : WriterConfig) (stream : RawStream) : RawOp → RawStream × List WrittenRecord
  | .write record receivedAt =>
    let (stream', position) := stream.write config record receivedAt
    (stream', [⟨fileKey record receivedAt, position.1, position.2, record.json⟩])
  | .close => (stream.close, [])

/-- The writes of a run, and where each went. -/
def rawRun (config : WriterConfig) (stream : RawStream) :
    List RawOp → RawStream × List WrittenRecord
  | [] => (stream, [])
  | op :: ops =>
    let (stream', written) := rawStep config stream op
    let (last, rest) := rawRun config stream' ops
    (last, written ++ rest)

theorem rawRun_append (config : WriterConfig) (stream : RawStream) (first second : List RawOp) :
    rawRun config stream (first ++ second) =
      ((rawRun config (rawRun config stream first).1 second).1,
        (rawRun config stream first).2 ++
          (rawRun config (rawRun config stream first).1 second).2) := by
  induction first generalizing stream with
  | nil => rfl
  | cons op ops ih => simp only [cons_append, rawRun, ih, append_assoc]

/-- The call writes to the file of the key. -/
def RawOp.writes (key : FileKey) : RawOp → Prop
  | .write record receivedAt => fileKey record receivedAt = key
  | .close => False

/-- The call closes the file of the key when it is open. -/
def RawOp.closes (key : FileKey) : RawOp → Prop
  | .write record receivedAt => (fileKey record receivedAt).rotates key = true
  | .close => True

/-- No file is written to again after a call that closes it. -/
def NeverReopened (ops : List RawOp) : Prop :=
  ∀ before first between second after, ops = before ++ first :: (between ++ second :: after) →
    ∀ key, first.writes key → second.writes key → ∀ op ∈ between, ¬op.closes key

/-- The digest does not give two paths of the run the same identifier. -/
def CollisionFree (config : WriterConfig) (ops : List RawOp) : Prop :=
  ∀ first ∈ ops, ∀ second ∈ ops, ∀ key key', first.writes key → second.writes key' →
    fileId config key = fileId config key' → relativePath config key = relativePath config key'

/-- What readers of the raw files rely on. -/
structure PositionsSound (config : WriterConfig) (ops : List RawOp) : Prop where
  unique : ((rawRun config .initial ops).2.map fun record => (record.fileId, record.line)).Nodup
  physical : ∀ key, (((rawRun config .initial ops).2.filter fun record => record.key = key).map
      fun record => (record.json, record.line)) =
    ((rawRun config .initial ops).1.disk (relativePath config key)).zipIdx 1
  registered : ∀ record ∈ (rawRun config .initial ops).2, ∀ row,
    (rawRun config .initial ops).1.registry record.fileId = some row → row.closed = true →
      row.recordCount = ((rawRun config .initial ops).1.disk
        (relativePath config record.key)).length

section Writer

variable {config : WriterConfig} {stream : RawStream} {key : FileKey}

/-! ## Closing -/

variable (closing : List OpenRawFile)

theorem foldl_closeOne_files (stream : RawStream) :
    (closing.foldl RawStream.closeOne stream).files =
      stream.files.filter fun file => closing.all fun current => file.key ≠ current.key := by
  induction closing generalizing stream with
  | nil => simp
  | cons current rest ih =>
    rw [foldl_cons, ih]
    simp only [RawStream.closeOne, filter_filter]
    congr 1
    funext file
    exact Bool.and_comm _ _

variable (concerned : FileKey → Bool)

theorem closeWhere_files :
    (stream.closeWhere concerned).files = stream.files.filter fun file => !concerned file.key := by
  unfold RawStream.closeWhere
  rw [foldl_closeOne_files]
  refine filter_congr fun file mem => ?_
  cases closes : concerned file.key with
  | true =>
    simp only [Bool.not_true, all_eq_false]
    exact ⟨file, mem_filter.mpr ⟨mem, closes⟩, by simp⟩
  | false =>
    simp only [Bool.not_false, all_eq_true]
    intro current isClosing
    have closes' := (mem_filter.mp isClosing).2
    refine decide_eq_true fun same => ?_
    rw [same, closes'] at closes
    cases closes

theorem foldl_closeOne_disk (stream : RawStream) :
    (closing.foldl RawStream.closeOne stream).disk = stream.disk := by
  induction closing generalizing stream with
  | nil => rfl
  | cons current rest ih => rw [foldl_cons, ih]; rfl

@[simp] theorem closeWhere_disk : (stream.closeWhere concerned).disk = stream.disk :=
  foldl_closeOne_disk _ _

theorem foldl_closeOne_registry (stream : RawStream) (id : String) :
    (∃ current ∈ closing, current.fileId = id ∧
      (closing.foldl RawStream.closeOne stream).registry id =
        some { closed := true, recordCount := current.recordCount }) ∨
    ((∀ current ∈ closing, current.fileId ≠ id) ∧
      (closing.foldl RawStream.closeOne stream).registry id = stream.registry id) := by
  induction closing generalizing stream with
  | nil => exact .inr ⟨by simp, rfl⟩
  | cons current rest ih =>
    rw [foldl_cons]
    rcases ih (stream.closeOne current) with ⟨later, mem, same, row⟩ | ⟨others, unchanged⟩
    · exact .inl ⟨later, mem_cons_of_mem _ mem, same, row⟩
    · by_cases same : current.fileId = id
      · refine .inl ⟨current, mem_cons_self, same, ?_⟩
        rw [unchanged]
        simp [RawStream.closeOne, same]
      · refine .inr ⟨?_, ?_⟩
        · rintro other mem
          rcases mem_cons.mp mem with rfl | mem
          · exact same
          · exact others other mem
        · rw [unchanged]
          simp [RawStream.closeOne, update_of_ne (Ne.symm same)]

/-! ## Whether a file is open -/

theorem current_eq_none_iff :
    stream.current key = none ↔ ∀ file ∈ stream.files, file.key ≠ key := by
  simp [RawStream.current]

theorem current_closeWhere_of_closes {concerned : FileKey → Bool} (closes : concerned key = true) :
    (stream.closeWhere concerned).current key = none := by
  rw [current_eq_none_iff, closeWhere_files]
  rintro file mem rfl
  simp [closes] at mem

theorem current_closeWhere_of_none (absent : stream.current key = none) :
    (stream.closeWhere concerned).current key = none := by
  rw [current_eq_none_iff] at absent ⊢
  rw [closeWhere_files]
  exact fun file mem => absent file (mem_filter.mp mem).1

theorem append_keys (target : FileKey) (line : String) :
    (stream.append config target line).files.map OpenRawFile.key =
      stream.files.map OpenRawFile.key := by
  simp only [RawStream.append, map_map]
  refine map_congr_left fun file _ => ?_
  simp only [comp_apply]
  split <;> rfl

theorem current_append_eq_none_iff (target : FileKey) (line : String) :
    (stream.append config target line).current key = none ↔ stream.current key = none := by
  have same := @append_keys config stream target line
  simp only [current_eq_none_iff]
  constructor
  · intro absent file mem
    have mapped : file.key ∈ (stream.append config target line).files.map OpenRawFile.key :=
      same ▸ mem_map_of_mem mem
    obtain ⟨file', mem', keys⟩ := mem_map.mp mapped
    exact keys ▸ absent file' mem'
  · intro absent file mem
    have mapped : file.key ∈ stream.files.map OpenRawFile.key :=
      same ▸ mem_map_of_mem mem
    obtain ⟨file', mem', keys⟩ := mem_map.mp mapped
    exact keys ▸ absent file' mem'

theorem rotates_irrefl (key : FileKey) : key.rotates key = false := by
  simp [FileKey.rotates]

theorem current_openFile_eq_none {opened : FileKey} (absent : stream.current key = none)
    (other : opened ≠ key) : (stream.openFile config opened).current key = none := by
  rw [current_eq_none_iff] at absent ⊢
  exact forall_mem_append.mpr ⟨absent, forall_mem_singleton.mpr other⟩

variable {op : RawOp}

/-- A file that is not open stays so until it is written to. -/
theorem current_rawStep_of_none (absent : stream.current key = none)
    (other : ¬op.writes key) : (rawStep config stream op).1.current key = none := by
  cases op with
  | close => exact current_closeWhere_of_none _ absent
  | write record receivedAt =>
    simp only [rawStep, RawStream.write, current_append_eq_none_iff]
    have rotated := current_closeWhere_of_none (fileKey record receivedAt).rotates absent
    split
    · exact rotated
    · exact current_openFile_eq_none rotated other

/-- A call that closes a file leaves it closed. -/
theorem current_rawStep_of_closes (closes : op.closes key) :
    (rawStep config stream op).1.current key = none := by
  cases op with
  | close => exact current_closeWhere_of_closes rfl
  | write record receivedAt =>
    simp only [rawStep, RawStream.write, current_append_eq_none_iff]
    have rotated : (stream.closeWhere (fileKey record receivedAt).rotates).current key = none :=
      current_closeWhere_of_closes closes
    split
    · exact rotated
    · refine current_openFile_eq_none rotated ?_
      rintro rfl
      simp only [RawOp.closes, rotates_irrefl] at closes
      cases closes

/-! ## The first position after opening -/

theorem current_append_openFile (line : String) (absent : stream.current key = none) :
    ((stream.openFile config key).append config key line).current key =
      some { key := key, fileId := fileId config key, recordCount := 1 } := by
  simp only [RawStream.current, RawStream.append, RawStream.openFile, map_append, List.find?_append]
  rw [List.find?_eq_none.mpr ?_]
  · simp
  · intro file mem
    obtain ⟨file', mem', rfl⟩ := mem_map.mp mem
    have different := current_eq_none_iff.mp absent file' mem'
    simp [different]

/-- Writing to a file that is not open opens it and returns its first line. -/
theorem rawStep_opens {record : RawRecord} {receivedAt : ReceivedAt}
    (absent : stream.current (fileKey record receivedAt) = none) :
    rawStep config stream (.write record receivedAt) =
      (((stream.closeWhere (fileKey record receivedAt).rotates).openFile config
          (fileKey record receivedAt)).append config (fileKey record receivedAt) record.json,
        [⟨fileKey record receivedAt, fileId config (fileKey record receivedAt), 1, record.json⟩])
    := by
  have rotated := current_closeWhere_of_none (fileKey record receivedAt).rotates absent
  simp only [rawStep, RawStream.write, rotated, Option.isSome_none, Bool.false_eq_true, if_false,
    current_append_openFile record.json rotated, Option.map_some, Option.getD_some]

variable (config) in
theorem first_position (ops : List RawOp) (absent : stream.current key = none)
    (written : ∃ op ∈ ops, op.writes key) : (fileId config key, 1) ∈
      (rawRun config stream ops).2.map fun record => (record.fileId, record.line) := by
  induction ops generalizing stream with
  | nil => simp at written
  | cons op ops ih =>
    simp only [rawRun, map_append, mem_append]
    by_cases here : op.writes key
    · cases op with
      | close => exact absurd here id
      | write record receivedAt =>
        obtain rfl : fileKey record receivedAt = key := here
        refine .inl ?_
        rw [rawStep_opens absent]
        simp
    · refine .inr (ih (current_rawStep_of_none absent here) ?_)
      obtain ⟨op', mem, writes⟩ := written
      rcases mem_cons.mp mem with rfl | mem
      · exact absurd writes here
      · exact ⟨op', mem, writes⟩

/-- Distinct positions mean that no file is opened twice. -/
theorem neverReopened_of_unique {ops : List RawOp}
    (unique : ((rawRun config .initial ops).2.map fun record =>
      (record.fileId, record.line)).Nodup) : NeverReopened ops := by
  rintro before first between second after rfl key writes writes' op mem closes
  obtain ⟨earlier, later, rfl⟩ := append_of_mem mem
  have split : before ++ first :: ((earlier ++ op :: later) ++ second :: after) =
      (before ++ first :: (earlier ++ [op])) ++ (later ++ second :: after) := by simp
  have split' : before ++ first :: (earlier ++ [op]) = (before ++ first :: earlier) ++ [op] := by
    simp
  rw [split, rawRun_append, map_append, nodup_append] at unique
  have position : (fileId config key, 1) ∈
      (rawRun config .initial (before ++ first :: (earlier ++ [op]))).2.map fun record =>
        (record.fileId, record.line) :=
    first_position config _ (by simp [RawStream.current, RawStream.initial])
      ⟨first, by simp, writes⟩
  have closed : (rawRun config .initial (before ++ first :: (earlier ++ [op]))).1.current key
      = none := by
    rw [split', rawRun_append]
    exact current_rawStep_of_closes closes
  have position' := first_position config (later ++ second :: after) closed
    ⟨second, by simp, writes'⟩
  exact unique.2.2 _ position _ position' rfl

/-! ## The invariant of runs that do not reopen files -/

/-- The lines of the file of a key. -/
def RawStream.lines (config : WriterConfig) (stream : RawStream) (key : FileKey) : List String :=
  stream.disk (relativePath config key)

/-- A file with lines was written to, and closed since then unless it is open. -/
def Remembered (past : List RawOp) (stream : RawStream) (key : FileKey) : Prop :=
  ∃ before first between, past = before ++ first :: between ∧ first.writes key ∧
    (stream.current key = none → ∃ op ∈ between, op.closes key)

/-- After the calls `past`, which returned the positions `written`; `keys` are
the files that the whole run writes to. -/
structure StreamInvariant (config : WriterConfig) (keys : FileKey → Prop) (past : List RawOp)
    (stream : RawStream) (written : List WrittenRecord) : Prop where
  counted : ∀ file ∈ stream.files, keys file.key ∧ file.fileId = fileId config file.key ∧
    file.recordCount = (stream.lines config file.key).length
  remembered : ∀ key, stream.lines config key ≠ [] ∨ stream.current key ≠ none →
    Remembered past stream key
  positions : ∀ key, ((written.filter fun record => record.key = key).map
    fun record => (record.json, record.line)) = (stream.lines config key).zipIdx 1
  identified : ∀ record ∈ written, keys record.key ∧ record.fileId = fileId config record.key
  unique : (written.map fun record => (record.fileId, record.line)).Nodup
  opened : ∀ file ∈ stream.files, ∀ row, stream.registry file.fileId = some row → row.closed = false
  registered : ∀ key, keys key → ∀ row, stream.registry (fileId config key) = some row →
    row.closed = true → row.recordCount = (stream.lines config key).length

variable {keys : FileKey → Prop} {past : List RawOp} {written : List WrittenRecord}

theorem current_mem {file : OpenRawFile} (found : stream.current key = some file) :
    file ∈ stream.files ∧ file.key = key :=
  ⟨mem_of_find?_eq_some found, by simpa using List.find?_some found⟩

theorem current_append (line : String) : (stream.append config key line).current key =
      (stream.current key).map fun file => { file with recordCount := file.recordCount + 1 } := by
  simp only [RawStream.current, RawStream.append]
  induction stream.files with
  | nil => rfl
  | cons file files ih =>
    by_cases same : file.key = key
    · simp [same]
    · simp [same, ih]

theorem lines_append_self (line : String) :
    (stream.append config key line).lines config key = stream.lines config key ++ [line] := by
  simp [RawStream.lines, RawStream.append]

theorem lines_append_of_ne {other : FileKey} (different : other ≠ key) (line : String) :
    (stream.append config key line).lines config other = stream.lines config other := by
  have paths : relativePath config other ≠ relativePath config key :=
    fun same => different (relativePath_injective config same)
  simp [RawStream.lines, RawStream.append, update_of_ne paths]

theorem Remembered.later {stream' : RawStream} (remembered : Remembered past stream key)
    (closed : stream'.current key = none → stream.current key = none ∨ op.closes key) :
    Remembered (past ++ [op]) stream' key := by
  obtain ⟨before, first, between, rfl, writes, closing⟩ := remembered
  refine ⟨before, first, between ++ [op], by simp, writes, fun absent => ?_⟩
  rcases closed absent with absent | closes
  · obtain ⟨op', mem, closes⟩ := closing absent
    exact ⟨op', mem_append_left _ mem, closes⟩
  · exact ⟨op, by simp, closes⟩

variable (distinct : ∀ first second, keys first → keys second → fileId config first = fileId config
  second → first = second)
include distinct

variable (invariant : StreamInvariant config keys past stream written)
include invariant

/-- Closing files registers their numbers of lines. -/
theorem StreamInvariant.closeWhere (concerned : FileKey → Bool)
    (op : RawOp) (closes : ∀ key, concerned key = true → op.closes key) :
    StreamInvariant config keys (past ++ [op]) (stream.closeWhere concerned) written := by
  have lines : ∀ key, (stream.closeWhere concerned).lines config key = stream.lines config key := by
    simp [RawStream.lines]
  have files : ∀ file ∈ (stream.closeWhere concerned).files,
      file ∈ stream.files ∧ concerned file.key = false := by
    intro file mem
    rw [closeWhere_files] at mem
    simpa using mem_filter.mp mem
  have rows := foldl_closeOne_registry (stream.files.filter fun file => concerned file.key) stream
  refine ⟨?_, ?_, ?_, invariant.identified, invariant.unique, ?_, ?_⟩
  · intro file mem
    rw [lines]
    exact invariant.counted file (files file mem).1
  · intro key evidence
    rw [lines] at evidence
    have old : stream.lines config key ≠ [] ∨ stream.current key ≠ none :=
      evidence.imp id fun still absent => still (current_closeWhere_of_none _ absent)
    refine (invariant.remembered key old).later fun absent => ?_
    · cases closing : concerned key with
      | true => exact .inr (closes key closing)
      | false =>
        refine .inl (current_eq_none_iff.mpr fun file mem same => ?_)
        refine current_eq_none_iff.mp absent file ?_ same
        rw [closeWhere_files]
        exact mem_filter.mpr ⟨mem, by simp [same, closing]⟩
  · intro key
    rw [lines]
    exact invariant.positions key
  · intro file mem row held
    obtain ⟨isOpen, stays⟩ := files file mem
    rcases rows file.fileId with ⟨current, closing, same, _⟩ | ⟨_, unchanged⟩
    · exfalso
      obtain ⟨wasOpen, goes⟩ := mem_filter.mp closing
      obtain ⟨known, id, _⟩ := invariant.counted file isOpen
      obtain ⟨known', id', _⟩ := invariant.counted current wasOpen
      have keysEq := distinct _ _ known' known (id'.symm.trans (same.trans id))
      rw [keysEq, stays] at goes
      cases goes
    · exact invariant.opened file isOpen row (unchanged ▸ held)
  · intro key known row held closed
    rw [lines]
    rcases rows (fileId config key) with ⟨current, closing, same, registered⟩ | ⟨_, unchanged⟩
    · obtain ⟨wasOpen, _⟩ := mem_filter.mp closing
      obtain ⟨known', id', count⟩ := invariant.counted current wasOpen
      obtain rfl := distinct _ _ known' known (id'.symm.trans same)
      have row_eq := Option.some.inj (registered.symm.trans held)
      rw [← row_eq]
      exact count
    · exact invariant.registered key known row (unchanged ▸ held) closed

theorem StreamInvariant.openFile (known : keys key)
    (absent : stream.current key = none) (empty : stream.lines config key = [])
    (writing : ∃ before op, past = before ++ [op] ∧ op.writes key) :
    StreamInvariant config keys past (stream.openFile config key) written := by
  have isOpen : (stream.openFile config key).current key ≠ none := by
    rw [Ne, current_eq_none_iff]
    intro others
    exact others _ (mem_append_right _ (mem_singleton.mpr rfl)) rfl
  have stays : ∀ other, (stream.openFile config key).current other = none →
      stream.current other = none := by
    intro other gone
    rw [current_eq_none_iff] at gone ⊢
    exact fun file mem => gone file (mem_append_left _ mem)
  have otherRow : ∀ other, keys other → other ≠ key →
      (stream.openFile config key).registry (fileId config other) =
        stream.registry (fileId config other) := by
    intro other known' different
    exact update_of_ne (fun same => different (distinct _ _ known' known same)) _ _
  have ownRow : ∀ row, (stream.openFile config key).registry (fileId config key) = some row →
      row.closed = false := by
    intro row held
    simp only [RawStream.openFile, update_self] at held
    rw [← Option.some.inj held]
  refine ⟨?_, ?_, invariant.positions, invariant.identified, invariant.unique, ?_, ?_⟩
  · intro file mem
    rcases mem_append.mp mem with mem | mem
    · exact invariant.counted file mem
    · obtain rfl := mem_singleton.mp mem
      exact ⟨known, rfl, by rw [show (stream.openFile config key).lines config key
        = stream.lines config key from rfl, empty]; rfl⟩
  · intro other evidence
    by_cases same : other = key
    · subst same
      obtain ⟨before, op, rfl, writes⟩ := writing
      exact ⟨before, op, [], rfl, writes, fun gone => absurd gone isOpen⟩
    · have old : stream.lines config other ≠ [] ∨ stream.current other ≠ none := by
        refine evidence.imp id fun there gone => there ?_
        rw [current_eq_none_iff] at gone ⊢
        intro file mem
        rcases mem_append.mp mem with mem | mem
        · exact gone file mem
        · obtain rfl := mem_singleton.mp mem
          exact Ne.symm same
      obtain ⟨before, first, between, split, writes, closing⟩ := invariant.remembered other old
      exact ⟨before, first, between, split, writes, fun gone => closing (stays other gone)⟩
  · intro file mem row held
    rcases mem_append.mp mem with mem | mem
    · obtain ⟨known', id, _⟩ := invariant.counted file mem
      have different : file.key ≠ key := current_eq_none_iff.mp absent file mem
      rw [id, otherRow _ known' different, ← id] at held
      exact invariant.opened file mem row held
    · obtain rfl := mem_singleton.mp mem
      exact ownRow row held
  · intro other known' row held closed
    by_cases same : other = key
    · subst same
      rw [ownRow row held] at closed
      cases closed
    · rw [otherRow other known' same] at held
      exact invariant.registered other known' row held closed

theorem StreamInvariant.append {file : OpenRawFile}
    (isOpen : stream.current key = some file) (json : String) :
    StreamInvariant config keys past (stream.append config key json)
      (written ++ [⟨key, fileId config key, file.recordCount + 1, json⟩]) := by
  obtain ⟨mem, rfl⟩ := current_mem isOpen
  obtain ⟨known, id, count⟩ := invariant.counted file mem
  have sameOpen : ∀ other, (stream.append config file.key json).current other = none ↔
      stream.current other = none := fun _ => current_append_eq_none_iff _ _
  refine ⟨?_, ?_, ?_, ?_, ?_, ?_, ?_⟩
  · intro changed isChanged
    obtain ⟨original, wasOpen, rfl⟩ := mem_map.mp isChanged
    obtain ⟨known', id', count'⟩ := invariant.counted original wasOpen
    split
    · next same =>
      refine ⟨known', id', ?_⟩
      show original.recordCount + 1 = _
      rw [same, lines_append_self, length_append, count', same]
      rfl
    · next different =>
      exact ⟨known', id', by rw [lines_append_of_ne different]; exact count'⟩
  · intro other evidence
    have old : stream.lines config other ≠ [] ∨ stream.current other ≠ none := by
      by_cases same : other = file.key
      · exact .inr (by rw [same, isOpen]; simp)
      · rw [lines_append_of_ne same] at evidence
        exact evidence.imp (fun there => there) fun there gone => there ((sameOpen other).mpr gone)
    obtain ⟨before, first, between, split, writes, closing⟩ := invariant.remembered other old
    exact ⟨before, first, between, split, writes, fun gone => closing ((sameOpen other).mp gone)⟩
  · intro other
    rw [filter_append, map_append, invariant.positions]
    by_cases same : other = file.key
    · subst same
      rw [lines_append_self, zipIdx_append, count]
      simp [Nat.add_comm]
    · rw [lines_append_of_ne same]
      simp [Ne.symm same]
  · intro record isWritten
    rcases mem_append.mp isWritten with isWritten | isWritten
    · exact invariant.identified record isWritten
    · obtain rfl := mem_singleton.mp isWritten
      exact ⟨known, rfl⟩
  · rw [map_append, nodup_append]
    refine ⟨invariant.unique, by simp, ?_⟩
    rintro position isPosition _ isNew rfl
    obtain ⟨record, isWritten, rfl⟩ := mem_map.mp isPosition
    simp only [map_cons, map_nil, mem_singleton, Prod.mk.injEq] at isNew
    obtain ⟨sameId, _⟩ := isNew
    obtain ⟨known', id'⟩ := invariant.identified record isWritten
    have sameKey := distinct _ _ known' known (id'.symm.trans sameId)
    have numbered : (record.json, record.line) ∈ (stream.lines config file.key).zipIdx 1 := by
      rw [← invariant.positions]
      exact mem_map_of_mem (mem_filter.mpr ⟨isWritten, by simp [sameKey]⟩)
    have bound := snd_lt_of_mem_zipIdx numbered
    omega
  · intro changed isChanged row held
    obtain ⟨original, wasOpen, rfl⟩ := mem_map.mp isChanged
    refine invariant.opened original wasOpen row ?_
    split at held <;> exact held
  · intro other known' row held closed
    by_cases same : other = file.key
    · subst same
      have notClosed := invariant.opened file mem row (id ▸ held)
      rw [notClosed] at closed
      cases closed
    · rw [lines_append_of_ne same]
      exact invariant.registered other known' row held closed

/-- One call of a run that does not reopen files. -/
theorem StreamInvariant.rawStep {rest : List RawOp}
    (known : ∀ key, op.writes key → keys key) (never : NeverReopened (past ++ op :: rest)) :
    StreamInvariant config keys (past ++ [op]) (rawStep config stream op).1
      (written ++ (rawStep config stream op).2) := by
  cases op with
  | close =>
    have closed := invariant.closeWhere distinct (fun _ => true) .close fun _ _ => trivial
    simpa [NetConsole.Syslog.rawStep, RawStream.close] using closed
  | write record receivedAt =>
    have rotated := invariant.closeWhere distinct (fileKey record receivedAt).rotates
      (.write record receivedAt) fun _ closes => closes
    cases current : (stream.closeWhere (fileKey record receivedAt).rotates).current
        (fileKey record receivedAt) with
    | some file =>
      have appended := rotated.append distinct current record.json
      obtain ⟨mem, same⟩ := current_mem current
      obtain ⟨_, id, _⟩ := rotated.counted file mem
      simpa [NetConsole.Syslog.rawStep, RawStream.write, current, current_append, id, same]
        using appended
    | none =>
      have absent : stream.current (fileKey record receivedAt) = none := by
        rw [current_eq_none_iff] at current ⊢
        intro file mem same
        refine current file ?_ same
        rw [closeWhere_files]
        exact mem_filter.mpr ⟨mem, by simp [same, rotates_irrefl]⟩
      have empty : stream.lines config (fileKey record receivedAt) = [] := by
        by_contra there
        obtain ⟨before, first, between, split, writes, closing⟩ :=
          invariant.remembered _ (.inl there)
        obtain ⟨op, mem, closes⟩ := closing absent
        refine never before first between (.write record receivedAt) rest ?_ _ writes rfl op mem
          closes
        rw [split]
        simp
      have opened := rotated.openFile distinct (known _ rfl) current
        (by simpa [RawStream.lines] using empty) ⟨past, _, rfl, rfl⟩
      have found : ((stream.closeWhere (fileKey record receivedAt).rotates).openFile config
          (fileKey record receivedAt)).current (fileKey record receivedAt) =
          some ⟨fileKey record receivedAt, fileId config (fileKey record receivedAt), 0⟩ := by
        simp only [RawStream.current, RawStream.openFile, List.find?_append]
        rw [show List.find? _ _ = none from current]
        simp
      rw [rawStep_opens absent]
      exact opened.append distinct found record.json

omit invariant

theorem StreamInvariant.rawRun
    (ops : List RawOp) (invariant : StreamInvariant config keys past stream written)
    (known : ∀ op ∈ ops, ∀ key, op.writes key → keys key) (never : NeverReopened (past ++ ops)) :
    StreamInvariant config keys (past ++ ops) (rawRun config stream ops).1
      (written ++ (rawRun config stream ops).2) := by
  induction ops generalizing past stream written with
  | nil => simpa [NetConsole.Syslog.rawRun] using invariant
  | cons op ops ih =>
    have next := invariant.rawStep distinct (known op mem_cons_self) never
    have rest := ih next (fun op' mem => known op' (mem_cons_of_mem _ mem))
      (by simpa using never)
    simpa [NetConsole.Syslog.rawRun] using rest

omit distinct

theorem StreamInvariant.initial : StreamInvariant config keys [] .initial [] := by
  refine ⟨by simp [RawStream.initial], ?_, by simp [RawStream.lines, RawStream.initial], by simp,
    by simp, by simp [RawStream.initial], by simp [RawStream.initial]⟩
  rintro key (there | there)
  · exact absurd rfl there
  · exact absurd rfl there

end Writer

/-! ## When positions are sound -/

/-- Positions are unique and physical, and closed files are registered with
their numbers of lines, exactly when no file is written to again after it was
closed. -/
theorem positionsSound_iff (config : WriterConfig) (ops : List RawOp)
    (collisionFree : CollisionFree config ops) : PositionsSound config ops ↔ NeverReopened ops := by
  refine ⟨fun sound => neverReopened_of_unique sound.unique, fun never => ?_⟩
  have distinct : ∀ first second, (∃ op ∈ ops, op.writes first) → (∃ op ∈ ops, op.writes second) →
      fileId config first = fileId config second → first = second := by
    rintro first second ⟨op, mem, writes⟩ ⟨op', mem', writes'⟩ same
    exact relativePath_injective config
      (collisionFree op mem op' mem' first second writes writes' same)
  have start : StreamInvariant config (fun key => ∃ op ∈ ops, op.writes key) [] .initial [] :=
    .initial
  have invariant := start.rawRun distinct ops
    (fun op mem key writes => ⟨op, mem, writes⟩) (by simpa using never)
  refine ⟨invariant.unique, invariant.positions, fun record isWritten row held closed => ?_⟩
  obtain ⟨known, id⟩ := invariant.identified record isWritten
  exact invariant.registered _ known row (id ▸ held) closed

/-! ## An hour that comes back -/

def sampleConfig : WriterConfig where
  directory := ⟨"raw".toList, by decide⟩
  generation := ⟨"0".toList, by decide⟩
  sha256 := String.ofList

def sampleRecord (json : String) : RawRecord where
  trainId := "t1"
  mrRole := "head"
  sourceIp := ""
  json := json

def receivedIn (hour : PathComponent) : ReceivedAt := ⟨⟨"2026-01-01".toList, by decide⟩, hour⟩

def hourTen : ReceivedAt := receivedIn ⟨"10".toList, by decide⟩

def hourEleven : ReceivedAt := receivedIn ⟨"11".toList, by decide⟩

/-- A record of the earlier hour arrives after one of the later hour. -/
def hourComesBack : List RawOp :=
  [.write (sampleRecord "a") hourTen, .write (sampleRecord "b") hourEleven,
    .write (sampleRecord "c") hourTen]

theorem positions_hourComesBack : (rawRun sampleConfig .initial hourComesBack).2.map
      (fun record => (record.fileId, record.line)) =
      [("raw_raw/t1/head/2026-01-01/10_0.ndjson", 1), ("raw_raw/t1/head/2026-01-01/11_0.ndjson", 1),
        ("raw_raw/t1/head/2026-01-01/10_0.ndjson", 1)] := by
  decide

/-- The third record gets the position of the first one. -/
theorem not_positionsSound_hourComesBack : ¬PositionsSound sampleConfig hourComesBack := by
  intro sound
  have unique := sound.unique
  rw [positions_hourComesBack] at unique
  exact absurd unique (by decide)

/-- Two records of one hour and one of the next. -/
theorem positionsSound_iff_advancing :
    PositionsSound sampleConfig [.write (sampleRecord "a") hourTen,
        .write (sampleRecord "b") hourTen, .write (sampleRecord "c") hourEleven] ↔
      NeverReopened [.write (sampleRecord "a") hourTen,
        .write (sampleRecord "b") hourTen, .write (sampleRecord "c") hourEleven] := by
  refine positionsSound_iff _ _ fun _ _ _ _ key key' _ _ same => ?_
  simpa [fileId, sampleConfig] using congrArg String.toList same

end NetConsole.Syslog
