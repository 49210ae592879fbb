import NetConsole.Foundations.FallibleMaps
import NetConsole.TaskCenter.Repository

/-!
# Sealed results stay

What the repository does to the tables of results: blobs and rows are added, and
a row that had its text inline gets a blob. A result that can be read before can
be read after, with the same content (`Extends`).

`prepareTerminalResult` either leaves the tables and the event alone, and keeps
or drops the reference of the snapshot, or binds the snapshot and the event to a
sealed result (`prepareTerminalResult_cases`).
-/

set_option autoImplicit false

namespace NetConsole.TaskCenter

open Foundations List Function
open Syslog (firstOf)

variable {Result : Type} {format : ResultFormat Result}

/-! ## Verification -/

theorem canonicalResultJson_ok {result : Result} {text : String} :
    canonicalResultJson format result = .ok text ↔ format.canonicalJson result = some text := by
  unfold canonicalResultJson
  cases format.canonicalJson result <;> simp

variable {verified : VerifiedResult Result} {row : ResultRow} {text : String}

theorem verifyTaskResultRow_eq_ok : verifyTaskResultRow format row text = .ok verified ↔
      format.sha256 text = row.sha256 ∧ text.utf8ByteSize = row.byteSize ∧
        sealedResultId format row.taskId row.terminalEventType row.sha256 = row.resultId ∧
        ∃ result, format.parse text = some result ∧ ⟨row, text, result⟩ = verified := by
  unfold verifyTaskResultRow
  rw [guard_eq_ok, guard_eq_ok, guard_eq_ok, not_ne_iff, not_ne_iff, not_ne_iff]
  cases format.parse text <;> simp

theorem verifyTaskResultRow_ok (ok : verifyTaskResultRow format row text = .ok verified) :
    verified.row = row ∧ verified.canonicalJson = text ∧
      format.parse text = some verified.result ∧ format.sha256 text = row.sha256 ∧
      text.utf8ByteSize = row.byteSize := by
  obtain ⟨digest, size, _, result, parsed, rfl⟩ := verifyTaskResultRow_eq_ok.mp ok
  exact ⟨rfl, rfl, parsed, digest, size⟩

theorem verifyTaskResultRow_identity (ok : verifyTaskResultRow format row text = .ok verified) :
    sealedResultId format row.taskId row.terminalEventType row.sha256 = row.resultId :=
  (verifyTaskResultRow_eq_ok.mp ok).2.2.1

/-- A verification looks at the identity columns of the row only. -/
theorem verifyTaskResultRow_congr {row other : ResultRow}
    (ok : verifyTaskResultRow format row text = .ok verified) (taskId : other.taskId = row.taskId)
    (terminalEventType : other.terminalEventType = row.terminalEventType)
    (sha256 : other.sha256 = row.sha256) (byteSize : other.byteSize = row.byteSize)
    (resultId : other.resultId = row.resultId) : verifyTaskResultRow format other text =
      .ok ⟨other, verified.canonicalJson, verified.result⟩ := by
  obtain ⟨digest, size, identity, result, parsed, rfl⟩ := verifyTaskResultRow_eq_ok.mp ok
  rw [← sha256] at digest
  rw [← byteSize] at size
  rw [← taskId, ← terminalEventType, ← sha256, ← resultId] at identity
  exact verifyTaskResultRow_eq_ok.mpr ⟨digest, size, identity, result, parsed, rfl⟩

variable {blobs : String → Option String} {digest text : String} {size : Nat}

theorem readBlob_ok (ok : readBlob format blobs digest size = .ok text) :
    blobs digest = some text ∧ text.utf8ByteSize = size ∧ format.sha256 text = digest ∧
      (format.parse text).isSome := by
  unfold readBlob at ok
  split at ok
  · cases ok
  case h_2 stored found =>
    simp only [guard_eq_ok, not_ne_iff] at ok
    obtain ⟨length, hash, parsed, same⟩ := ok
    cases same
    exact ⟨found, length, hash, by simpa [Option.isSome_iff_ne_none] using parsed⟩

theorem readBlob_of (found : blobs digest = some text) (length : text.utf8ByteSize = size)
    (hash : format.sha256 text = digest) (parsed : (format.parse text).isSome) :
    readBlob format blobs digest size = .ok text := by
  simp [readBlob, found, length, hash, Option.isSome_iff_ne_none.mp parsed]

/-- Blobs are added and never replaced. -/
def BlobsGrow (blobs more : String → Option String) : Prop :=
  ∀ digest text, blobs digest = some text → more digest = some text

theorem blobsGrow_insertBlob (blobs : String → Option String) (digest text : String) :
    BlobsGrow blobs (insertBlob blobs digest text) := by
  intro other stored found
  unfold insertBlob
  split
  · exact found
  case isFalse absent =>
    have different : other ≠ digest := by
      rintro rfl
      rw [found] at absent
      exact absent rfl
    rw [update_of_ne different]
    exact found

variable {blobs more : String → Option String}

theorem readBlob_grow (grow : BlobsGrow blobs more)
    (ok : readBlob format blobs digest size = .ok text) :
    readBlob format more digest size = .ok text := by
  obtain ⟨found, length, hash, parsed⟩ := readBlob_ok ok
  exact readBlob_of (grow digest text found) length hash parsed

variable (ok : verifiedResultForRead format blobs row = .ok verified)
include ok

theorem verifiedResultForRead_ok :
    verifyTaskResultRow format row verified.canonicalJson = .ok verified ∧
      (row.contentSha256 = "" ∨ row.contentSha256 = row.sha256) ∧ (row.blobReady = true →
        readBlob format blobs row.sha256 row.byteSize = .ok verified.canonicalJson) := by
  obtain ⟨metadata, ok⟩ := guard_eq_ok.mp ok
  have same : row.contentSha256 = "" ∨ row.contentSha256 = row.sha256 := by
    simpa [or_iff_not_imp_left] using metadata
  have digest : firstOf row.contentSha256 row.sha256 = row.sha256 := by
    unfold firstOf
    rcases same with blank | equal
    · rw [if_pos blank]
    · rw [equal, ite_self]
  split at ok
  case isTrue ready =>
    rw [digest] at ok
    obtain ⟨_, read, ok⟩ := bind_eq_ok.mp ok
    rw [(verifyTaskResultRow_ok ok).2.1]
    exact ⟨ok, same, fun _ => read⟩
  case isFalse notReady =>
    obtain ⟨_, ok⟩ := guard_eq_ok.mp ok
    rw [(verifyTaskResultRow_ok ok).2.1]
    exact ⟨ok, same, fun ready => absurd ready notReady⟩

theorem verifiedResultForRead_row : verified.row = row :=
  (verifyTaskResultRow_ok (verifiedResultForRead_ok ok).1).1

omit ok in
theorem verifiedResultForRead_grow (grow : BlobsGrow blobs more)
    (ok : verifiedResultForRead format blobs row = .ok verified) :
    verifiedResultForRead format more row = .ok verified := by
  obtain ⟨metadata, ok⟩ := guard_eq_ok.mp ok
  refine guard_eq_ok.mpr ⟨metadata, ?_⟩
  split at ok
  case isTrue ready =>
    rw [if_pos ready]
    obtain ⟨text, read, ok⟩ := bind_eq_ok.mp ok
    exact bind_eq_ok.mpr ⟨text, readBlob_grow grow read, ok⟩
  case isFalse notReady =>
    rw [if_neg notReady]
    exact ok

/-- A row whose text is in a blob can be read through the blob. -/
theorem verifiedResultForRead_ready
    (grow : BlobsGrow blobs more) (stored : more row.sha256 = some verified.canonicalJson) :
    verifiedResultForRead format more row.ready =
      .ok ⟨row.ready, verified.canonicalJson, verified.result⟩ := by
  obtain ⟨checked, _, _⟩ := verifiedResultForRead_ok ok
  obtain ⟨sameRow, _, parsed, digest, size⟩ := verifyTaskResultRow_ok checked
  unfold ResultRow.ready
  split
  · rw [verifiedResultForRead_grow grow ok]
    simp only [← sameRow]
  · have read : readBlob format more row.sha256 row.byteSize = .ok verified.canonicalJson :=
      readBlob_of stored size digest (by rw [parsed]; rfl)
    have first : firstOf row.sha256 row.sha256 = row.sha256 := by
      unfold firstOf
      rw [ite_self]
    simp only [verifiedResultForRead, ne_eq, not_true_eq_false, decide_false, Bool.and_false,
      Bool.false_eq_true, if_false, first, read]
    exact verifyTaskResultRow_congr checked rfl rfl rfl rfl rfl

omit ok

/-! ## Stores that keep their results -/

/-- Blobs are found under their digests. -/
def BlobsSound (format : ResultFormat Result) (blobs : String → Option String) : Prop :=
  ∀ digest text, blobs digest = some text → format.sha256 text = digest

theorem BlobsSound.insert (sound : BlobsSound format blobs) (hash : format.sha256 text = digest) :
    BlobsSound format (insertBlob blobs digest text) := by
  unfold insertBlob
  split
  · exact sound
  · intro other stored found
    by_cases same : other = digest
    · rw [same, update_self] at found
      rw [← Option.some.inj found, hash, same]
    · rw [update_of_ne same] at found
      exact sound other stored found

/-- Every result of the first store is in the second one, with the same content;
its row may have got a blob. -/
structure Extends (format : ResultFormat Result) (store more : TaskStore Result) : Prop where
  results : ∀ resultId row verified, store.resultRow resultId = some row →
    verifiedResultForRead format store.blobs row = .ok verified →
    ∃ row', more.resultRow resultId = some row' ∧ (row' = row ∨ row' = row.ready) ∧
      verifiedResultForRead format more.blobs row' =
        .ok ⟨row', verified.canonicalJson, verified.result⟩
  blobs : BlobsSound format store.blobs → BlobsSound format more.blobs

theorem ready_ready (row : ResultRow) : row.ready.ready = row.ready := by
  unfold ResultRow.ready
  split
  · rfl
  · rfl

@[simp] theorem ready_resultId (row : ResultRow) : row.ready.resultId = row.resultId := by
  unfold ResultRow.ready
  split
  · rfl
  · rfl

@[simp] theorem ready_taskId (row : ResultRow) : row.ready.taskId = row.taskId := by
  unfold ResultRow.ready
  split
  · rfl
  · rfl

@[simp] theorem ready_terminalEventType (row : ResultRow) :
    row.ready.terminalEventType = row.terminalEventType := by
  unfold ResultRow.ready
  split
  · rfl
  · rfl

@[simp] theorem ready_sha256 (row : ResultRow) : row.ready.sha256 = row.sha256 := by
  unfold ResultRow.ready
  split
  · rfl
  · rfl

theorem Extends.refl (store : TaskStore Result) : Extends format store store := by
  refine ⟨?_, fun sound => sound⟩
  intro resultId row verified found ok
  refine ⟨row, found, .inl rfl, ?_⟩
  rw [ok, ← verifiedResultForRead_row ok]

theorem Extends.trans {first second third : TaskStore Result} (one : Extends format first second)
    (two : Extends format second third) : Extends format first third := by
  refine ⟨?_, fun sound => two.blobs (one.blobs sound)⟩
  intro resultId row verified found ok
  obtain ⟨row', found', change, ok'⟩ := one.results resultId row verified found ok
  obtain ⟨row'', found'', change', ok''⟩ := two.results resultId row' _ found' ok'
  refine ⟨row'', found'', ?_, ok''⟩
  rcases change with rfl | rfl
  · exact change'
  · right
    rcases change' with same | same
    · exact same
    · rw [same, ready_ready]

/-- The tables other than those of the results. -/
structure SameTasks (store more : TaskStore Result) : Prop where
  snapshots : more.snapshots = store.snapshots
  events : more.events = store.events
  tombstones : more.tombstones = store.tombstones

theorem SameTasks.refl (store : TaskStore Result) : SameTasks store store := ⟨rfl, rfl, rfl⟩

/-- Result rows have different identifiers, and the types of terminal events. -/
structure ResultsKeyed (store : TaskStore Result) : Prop where
  distinct : (store.results.map ResultRow.resultId).Nodup
  types : ∀ row ∈ store.results, ∃ status : TaskState,
    row.terminalEventType = status.terminalEventType

variable {store : TaskStore Result} {resultId : String}

theorem resultRow_eq_some (found : store.resultRow resultId = some row) :
    row ∈ store.results ∧ row.resultId = resultId :=
  ⟨mem_of_find?_eq_some found, by simpa using List.find?_some found⟩

theorem find?_eq_some_of_nodup {α κ : Type} [DecidableEq κ] {key : α → κ} {items : List α}
    (distinct : (items.map key).Nodup) {item : α} (mem : item ∈ items) :
    items.find? (fun other => key other = key item) = some item := by
  induction items with
  | nil => cases mem
  | cons first rest ih =>
    rw [map_cons, nodup_cons] at distinct
    rcases mem_cons.mp mem with rfl | later
    · exact List.find?_cons_of_pos (by simp)
    · have different : key first ≠ key item := by
        intro same
        exact distinct.1 (same ▸ mem_map_of_mem later)
      rw [List.find?_cons_of_neg (by simpa using different)]
      exact ih distinct.2 later

theorem ResultsKeyed.resultRow (keyed : ResultsKeyed store) (mem : row ∈ store.results) :
    store.resultRow row.resultId = some row :=
  find?_eq_some_of_nodup keyed.distinct mem

variable {store after : TaskStore Result} {digest : String}

theorem ensureBlob_ok (ok : ensureBlob format store text digest = .ok after) :
    after = { store with blobs := insertBlob store.blobs digest text } ∧
      after.blobs digest = some text ∧ format.sha256 text = digest := by
  obtain ⟨hash, ok⟩ := guard_eq_ok.mp ok
  obtain ⟨decoded, read, ok⟩ := bind_eq_ok.mp ok
  obtain ⟨same, ok⟩ := guard_eq_ok.mp ok
  obtain rfl := not_not.mp same
  cases ok
  exact ⟨rfl, (readBlob_ok read).1, not_not.mp hash⟩

/-- The rows with one of them ready. -/
def readyRows (rows : List ResultRow) (resultId : String) : List ResultRow :=
  rows.map fun row => if row.resultId = resultId then row.ready else row

theorem map_resultId_readyRows (rows : List ResultRow) (resultId : String) :
    (readyRows rows resultId).map ResultRow.resultId = rows.map ResultRow.resultId := by
  rw [readyRows, map_map]
  apply map_congr_left
  intro row _
  simp only [comp_apply]
  split
  · exact ready_resultId row
  · rfl

theorem find?_readyRows (rows : List ResultRow) (resultId other : String) :
    (readyRows rows resultId).find? (fun row => row.resultId = other) =
      (rows.find? fun row => row.resultId = other).map fun row =>
        if row.resultId = resultId then row.ready else row := by
  rw [readyRows, List.find?_map]
  congr 2
  funext row
  simp only [comp_apply]
  split
  · rw [ready_resultId]
  · rfl

/-- A sealed result: its row is stored and can be read. -/
structure Sealed (format : ResultFormat Result) (store : TaskStore Result)
    (verified : VerifiedResult Result) : Prop where
  found : store.resultRow verified.row.resultId = some verified.row
  readable : verifiedResultForRead format store.blobs verified.row = .ok verified

theorem ensureResultBlobForRow_eq {middle : TaskStore Result} (is : Sealed format store verified)
    (ensured : ensureBlob format store verified.canonicalJson verified.row.sha256 = .ok middle) :
    ensureResultBlobForRow format store verified =
      .ok (⟨verified.row.ready, verified.canonicalJson, verified.result⟩,
        { middle with results := readyRows middle.results verified.row.resultId }) := by
  obtain ⟨grown, stored, _⟩ := ensureBlob_ok ensured
  have now : (readyRows middle.results verified.row.resultId).find?
      (fun row => row.resultId = verified.row.resultId) = some verified.row.ready := by
    rw [find?_readyRows, grown]
    show Option.map _ (store.resultRow verified.row.resultId) = _
    rw [is.found, Option.map_some, if_pos rfl]
  have grow : BlobsGrow store.blobs middle.blobs := by
    rw [grown]
    exact blobsGrow_insertBlob store.blobs verified.row.sha256 verified.canonicalJson
  have readable := verifiedResultForRead_ready is.readable grow stored
  unfold ensureResultBlobForRow
  rw [ensured]
  simp only [Except.bind, TaskStore.resultRow]
  unfold readyRows at now
  rw [now]
  simp only [readable]
  rfl

variable {verified : VerifiedResult Result}

theorem ensureResultBlobForRow_ok {updated : VerifiedResult Result}
    (is : Sealed format store verified)
    (ok : ensureResultBlobForRow format store verified = .ok (updated, after)) :
    updated = ⟨verified.row.ready, verified.canonicalJson, verified.result⟩ ∧
      Sealed format after updated ∧ Extends format store after ∧ SameTasks store after ∧
      after.results = readyRows store.results verified.row.resultId := by
  obtain ⟨_, ensured, _⟩ := bind_eq_ok.mp ok
  rw [ensureResultBlobForRow_eq is ensured] at ok
  obtain ⟨rfl, stored, hash⟩ := ensureBlob_ok ensured
  simp only [Except.ok.injEq] at ok
  obtain ⟨rfl, rfl⟩ := ok
  have grow := blobsGrow_insertBlob store.blobs verified.row.sha256 verified.canonicalJson
  have lookup : ∀ id, (readyRows store.results verified.row.resultId).find?
      (fun row => row.resultId = id) = (store.resultRow id).map fun row =>
        if row.resultId = verified.row.resultId then row.ready else row :=
    fun id => find?_readyRows store.results verified.row.resultId id
  have readable := verifiedResultForRead_ready is.readable grow stored
  refine ⟨rfl, ⟨?_, readable⟩, ⟨?_, fun sound => sound.insert hash⟩, ⟨rfl, rfl, rfl⟩, rfl⟩
  · rw [ready_resultId]
    show (readyRows store.results _).find? _ = _
    rw [lookup, is.found, Option.map_some, if_pos rfl]
  · intro resultId row other found read
    have sameId := (resultRow_eq_some found).2
    by_cases here : row.resultId = verified.row.resultId
    · have same : row = verified.row := by
        rw [← sameId, here, is.found] at found
        exact (Option.some.inj found).symm
      subst same
      have same : other = verified := Except.ok.inj (read.symm.trans is.readable)
      subst same
      refine ⟨_, ?_, .inr rfl, readable⟩
      show (readyRows store.results _).find? _ = _
      rw [lookup, found, Option.map_some, if_pos rfl]
    · refine ⟨row, ?_, .inl rfl, ?_⟩
      · show (readyRows store.results _).find? _ = _
        rw [lookup, found, Option.map_some, if_neg here]
      · rw [verifiedResultForRead_grow grow read, ← verifiedResultForRead_row read]

/-! ## Identifiers of sealed results -/

/-- A text is split at its last separator in one way. -/
theorem append_separator_inj {α : Type} {separator : α} {first second later others : List α}
    (same : first ++ separator :: later = second ++ separator :: others)
    (free : separator ∉ later) (freeOthers : separator ∉ others) :
    first = second ∧ later = others := by
  rcases append_eq_append_iff.mp same with ⟨rest, rfl, split⟩ | ⟨rest, rfl, split⟩
  · cases rest with
    | nil => exact ⟨by simp, (List.cons.inj split).2⟩
    | cons head tail =>
      obtain ⟨rfl, rfl⟩ := List.cons.inj split
      simp at free
  · cases rest with
    | nil => exact ⟨by simp, (List.cons.inj split).2.symm⟩
    | cons head tail =>
      obtain ⟨rfl, rfl⟩ := List.cons.inj split
      simp at freeOthers

theorem terminalEventType_printable (status : TaskState) :
    '\x00' ∉ status.terminalEventType.toList := by
  cases status <;> decide

theorem sealedResultId_inj {taskId other : String} {status : TaskState} {type : String}
    (same : sealedResultId format taskId status.terminalEventType digest =
      sealedResultId format other type (format.sha256 text))
    (printable : '\x00' ∉ digest.toList)
    (known : ∃ status : TaskState, type = status.terminalEventType) :
    taskId = other ∧ status.terminalEventType = type := by
  obtain ⟨_, rfl⟩ := known
  have digests := congrArg String.toList same
  simp only [sealedResultId, String.toList_append] at digests
  have texts := congrArg String.toList
    (format.sha256_injective (String.toList_injective (append_cancel_left digests)))
  have nul : "\x00".toList = ['\x00'] := rfl
  simp only [String.toList_append, nul, append_assoc, singleton_append] at texts
  rw [← append_assoc, ← append_assoc] at texts
  obtain ⟨tasks, _⟩ := append_separator_inj texts printable (format.sha256_printable text)
  obtain ⟨task, type⟩ := append_separator_inj tasks (terminalEventType_printable _)
    (terminalEventType_printable _)
  exact ⟨String.toList_injective task, String.toList_injective type⟩

/-! ## Sealing a result -/

/-- The results of a task and a type of end. -/
def TaskStore.resultsOf (store : TaskStore Result) (taskId terminalEventType : String) :
    List ResultRow :=
  store.results.filter fun row => row.taskId = taskId && row.terminalEventType = terminalEventType

variable {taskId type : String}

theorem mem_resultsOf : row ∈ store.resultsOf taskId type ↔
      row ∈ store.results ∧ row.taskId = taskId ∧ row.terminalEventType = type := by
  simp [TaskStore.resultsOf]

theorem existingResult_eq_none :
    store.existingResult taskId type = none ↔ store.resultsOf taskId type = [] := by
  unfold TaskStore.existingResult
  rw [List.getLast?_eq_none_iff]
  have perm := newestFirst_perm_self ResultRow.age (store.resultsOf taskId type)
  constructor
  · intro empty
    have empty : newestFirst ResultRow.age (store.resultsOf taskId type) = [] := empty
    rw [empty] at perm
    exact nil_perm.mp perm
  · intro empty
    exact perm_nil.mp (empty ▸ perm)

theorem existingResult_eq_some (found : store.existingResult taskId type = some row) :
    row ∈ store.resultsOf taskId type := by
  have mem := mem_of_getLast? found
  rwa [mem_newestFirst] at mem

variable [DecidableEq Result]

/-- What sealing a result did: the result of the task is stored, it is the one
that was there or the one of the event, and no other result changed. -/
structure SealedFor (format : ResultFormat Result) (store : TaskStore Result)
    (snapshot : TaskSnapshot Result) (event : TaskEvent Result) (verified : VerifiedResult Result)
    (after : TaskStore Result) : Prop where
  isSealed : Sealed format after verified
  task : verified.row.taskId = snapshot.taskId
  type : verified.row.terminalEventType = snapshot.status.terminalEventType
  extended : Extends format store after
  tasks : SameTasks store after
  rows : (∃ row ∈ store.resultsOf snapshot.taskId snapshot.status.terminalEventType,
      verified.row = row.ready ∧ after.results = readyRows store.results row.resultId) ∨
    store.resultsOf snapshot.taskId snapshot.status.terminalEventType = [] ∧
      store.resultRow verified.row.resultId = none ∧
      after.results = store.results ++ [verified.row] ∧
      verified.result = incomingResult format snapshot event ∧
      ∃ text, format.canonicalJson verified.result = some text ∧
        verified.row = newResultRow format snapshot event text

variable {snapshot : TaskSnapshot Result} {event : TaskEvent Result}

omit [DecidableEq Result] in
theorem newResultRow_untaken {taken : ResultRow} (keyed : ResultsKeyed store)
    (none : store.resultsOf snapshot.taskId snapshot.status.terminalEventType = [])
    (mem : taken ∈ store.results)
    (readable : verifiedResultForRead format store.blobs taken = .ok verified) :
    taken.resultId ≠ (newResultRow format snapshot event text).resultId := by
  intro same
  obtain ⟨checked, _⟩ := verifiedResultForRead_ok readable
  have identity := (verifyTaskResultRow_identity checked).trans same
  have digest := (verifyTaskResultRow_ok checked).2.2.2.1
  rw [← digest] at identity
  obtain ⟨task, type⟩ := sealedResultId_inj identity.symm (format.sha256_printable _)
    (keyed.types taken mem)
  have among : taken ∈ store.resultsOf snapshot.taskId snapshot.status.terminalEventType :=
    mem_resultsOf.mpr ⟨mem, task.symm, type.symm⟩
  rw [none] at among
  cases among

variable {new : ResultRow}

omit [DecidableEq Result] in
/-- A new result is added where its identifier is not taken. -/
theorem insertResult_fresh (none : store.resultsOf new.taskId new.terminalEventType = [])
    (fresh : store.resultRow new.resultId = Option.none) :
    store.insertResult new = { store with results := store.results ++ [new] } ∧
      (store.insertResult new).resultRow new.resultId = some new := by
  have inserted : store.insertResult new = { store with results := store.results ++ [new] } := by
    unfold TaskStore.insertResult
    rw [if_neg]
    intro taken
    obtain ⟨other, mem, same⟩ := any_eq_true.mp taken
    simp only [Bool.or_eq_true, Bool.and_eq_true, decide_eq_true_eq] at same
    rcases same with id | ⟨⟨task, type⟩, _⟩
    · have missing := List.find?_eq_none.mp fresh other mem
      simp [id] at missing
    · have among : other ∈ store.resultsOf new.taskId new.terminalEventType :=
        mem_resultsOf.mpr ⟨mem, task, type⟩
      rw [none] at among
      cases among
  refine ⟨inserted, ?_⟩
  rw [inserted]
  show (store.results ++ [new]).find? _ = _
  rw [List.find?_append, show store.results.find? _ = Option.none from fresh]
  simp

variable (isNew : new = newResultRow format snapshot event text)
include isNew

omit [DecidableEq Result] in
theorem insertResult_new (keyed : ResultsKeyed store)
    (none : store.resultsOf snapshot.taskId snapshot.status.terminalEventType = [])
    (found : (store.insertResult new).resultRow new.resultId = some row)
    (readable : verifiedResultForRead format store.blobs row = .ok verified) :
    row = new ∧ store.insertResult new = { store with results := store.results ++ [new] } ∧
      store.resultRow new.resultId = Option.none := by
  have fresh : store.resultRow new.resultId = Option.none := by
    cases other : store.resultRow new.resultId with
    | none => rfl
    | some taken =>
      -- Then nothing is inserted, and the row that is read is the one that was there.
      obtain ⟨mem, same⟩ := resultRow_eq_some other
      have ignored : store.insertResult new = store := by
        unfold TaskStore.insertResult
        rw [if_pos (any_eq_true.mpr ⟨taken, mem, by simp [same]⟩)]
      rw [ignored, other] at found
      cases found
      exact absurd (isNew ▸ same) (newResultRow_untaken keyed none mem readable)
  obtain ⟨inserted, lookup⟩ := insertResult_fresh (isNew ▸ none) fresh
  rw [lookup] at found
  exact ⟨(Option.some.inj found).symm, inserted, fresh⟩

omit isNew

omit [DecidableEq Result] in
theorem insertResult_blobs (store : TaskStore Result) (row : ResultRow) :
    (store.insertResult row).blobs = store.blobs := by
  unfold TaskStore.insertResult
  split
  · rfl
  · rfl

omit [DecidableEq Result] in
theorem Extends.append : Extends format store { store with results := store.results ++ [row] } := by
  refine ⟨?_, fun sound => sound⟩
  intro resultId other verified found readable
  refine ⟨other, ?_, .inl rfl, ?_⟩
  · show (store.results ++ [row]).find? _ = _
    rw [List.find?_append, show store.results.find? _ = some other from found]
    rfl
  · rw [show ({ store with results := store.results ++ [row] } : TaskStore Result).blobs =
      store.blobs from rfl, readable, ← verifiedResultForRead_row readable]

omit [DecidableEq Result] in
theorem Extends.grow (hash : format.sha256 text = digest) :
    Extends format store { store with blobs := insertBlob store.blobs digest text } := by
  have grow := blobsGrow_insertBlob store.blobs digest text
  refine ⟨?_, fun sound => sound.insert hash⟩
  intro resultId row verified found readable
  refine ⟨row, found, .inl rfl, ?_⟩
  rw [verifiedResultForRead_grow grow readable, ← verifiedResultForRead_row readable]

theorem readyRows_of_absent {rows : List ResultRow}
    (absent : rows.find? (fun row => row.resultId = resultId) = none) :
    readyRows rows resultId = rows := by
  conv_rhs => rw [← map_id rows]
  apply map_congr_left
  intro row mem
  have other := List.find?_eq_none.mp absent row mem
  rw [if_neg (by simpa using other), id]

include isNew in
theorem sealNew_ok {first : VerifiedResult Result} (keyed : ResultsKeyed store)
    (none : store.resultsOf snapshot.taskId snapshot.status.terminalEventType = [])
    (written : format.canonicalJson (incomingResult format snapshot event) = some text)
    (stored : store.blobs new.sha256 = some text)
    (found : (store.insertResult new).resultRow new.resultId = some row)
    (read : verifiedResultForRead format (store.insertResult new).blobs row = .ok first)
    (ok : ensureResultBlobForRow format (store.insertResult new) first = .ok (verified, after)) :
    verified.row = new ∧ store.resultRow new.resultId = Option.none ∧
      verified.result = incomingResult format snapshot event ∧ Sealed format after verified ∧
      Extends format store after ∧ SameTasks store after ∧
      after.results = store.results ++ [new] := by
  rw [insertResult_blobs] at read
  obtain ⟨same, inserted, fresh⟩ := insertResult_new isNew keyed none found read
  subst row
  have same := verifiedResultForRead_row read
  rw [inserted] at ok found
  have is : Sealed format { store with results := store.results ++ [new] } first :=
    ⟨by rw [same]; exact found, by rw [same]; exact read⟩
  obtain ⟨rfl, isSealed, extended, tasks, rows⟩ := ensureResultBlobForRow_ok is ok
  have ready : new.ready = new := isNew ▸ rfl
  have content : first.result = incomingResult format snapshot event := by
    obtain ⟨checked, _, throughBlob⟩ := verifiedResultForRead_ok read
    have blob := (readBlob_ok (throughBlob (isNew ▸ rfl))).1
    rw [stored] at blob
    have parsed := (verifyTaskResultRow_ok checked).2.2.1
    rw [← Option.some.inj blob, format.parse_canonicalJson _ text written] at parsed
    exact (Option.some.inj parsed).symm
  refine ⟨?_, fresh, content, isSealed, Extends.append.trans extended,
    ⟨tasks.snapshots, tasks.events, tasks.tombstones⟩, ?_⟩
  · show first.row.ready = _
    rw [same, ready]
  · rw [rows, same]
    show readyRows (store.results ++ [_]) _ = _
    rw [readyRows, map_append]
    have kept := readyRows_of_absent fresh
    unfold readyRows at kept
    rw [kept, map_singleton, if_pos rfl, ready]

theorem sealResult_ok (keyed : ResultsKeyed store)
    (ok : sealResult format store snapshot event = .ok (verified, after)) :
    SealedFor format store snapshot event verified after := by
  unfold sealResult at ok
  cases existing : store.existingResult snapshot.taskId snapshot.status.terminalEventType with
  | some row =>
    have mem := existingResult_eq_some existing
    obtain ⟨stored, task, type⟩ := mem_resultsOf.mp mem
    rw [existing] at ok
    obtain ⟨first, read, ensures⟩ := bind_eq_ok.mp ok
    obtain rfl := verifiedResultForRead_row read
    obtain ⟨rfl, isSealed, extended, tasks, rows⟩ :=
      ensureResultBlobForRow_ok ⟨keyed.resultRow stored, read⟩ ensures
    refine ⟨isSealed, ?_, ?_, extended, tasks, .inl ⟨_, mem, rfl, rows⟩⟩
    · rw [ready_taskId, task]
    · rw [ready_terminalEventType, type]
  | none =>
    have none := existingResult_eq_none.mp existing
    rw [existing] at ok
    obtain ⟨text, written, ok⟩ := bind_eq_ok.mp ok
    have written := canonicalResultJson_ok.mp written
    obtain ⟨middle, ensured, ok⟩ := bind_eq_ok.mp ok
    obtain ⟨grown, stored, hash⟩ := ensureBlob_ok ensured
    have middleKeyed : ResultsKeyed middle := grown ▸ ⟨keyed.distinct, keyed.types⟩
    have middleNone : middle.resultsOf snapshot.taskId snapshot.status.terminalEventType = [] :=
      grown ▸ none
    dsimp only at ok
    split at ok
    · cases ok
    case h_2 row found =>
      obtain ⟨first, read, ok⟩ := bind_eq_ok.mp ok
      obtain ⟨same, fresh, content, isSealed, extended, tasks, rows⟩ :=
        sealNew_ok rfl middleKeyed middleNone written stored found read ok
      subst grown
      refine ⟨isSealed, by rw [same]; rfl, by rw [same]; rfl, ?_, ?_,
        .inr ⟨none, by rw [same]; exact fresh, ?_, content, text, by rw [content, written], same⟩⟩
      · exact (Extends.grow hash).trans extended
      · exact ⟨tasks.snapshots, tasks.events, tasks.tombstones⟩
      · rw [same]
        exact rows

omit [DecidableEq Result] in
theorem ResultsKeyed.ready (keyed : ResultsKeyed store)
    (rows : after.results = readyRows store.results resultId) : ResultsKeyed after := by
  constructor
  · rw [rows, map_resultId_readyRows]
    exact keyed.distinct
  · intro row mem
    rw [rows] at mem
    obtain ⟨before, stored, rfl⟩ := mem_map.mp mem
    obtain ⟨status, type⟩ := keyed.types before stored
    refine ⟨status, ?_⟩
    split
    · rw [ready_terminalEventType, type]
    · exact type

/-- After sealing, the rows still have different identifiers. -/
theorem SealedFor.keyed (keyed : ResultsKeyed store)
    (done : SealedFor format store snapshot event verified after) : ResultsKeyed after := by
  rcases done.rows with ⟨row, _, _, rows⟩ | ⟨_, fresh, rows, _⟩
  · exact keyed.ready rows
  · constructor
    · rw [rows, map_append, map_singleton, nodup_append]
      refine ⟨keyed.distinct, nodup_singleton _, ?_⟩
      intro id mem other single same
      obtain ⟨row, stored, rfl⟩ := mem_map.mp mem
      have absent := List.find?_eq_none.mp fresh row stored
      rw [mem_singleton.mp single] at same
      simp [same] at absent
    · intro row mem
      rw [rows] at mem
      rcases mem_append.mp mem with stored | new
      · exact keyed.types row stored
      · rw [mem_singleton.mp new]
        exact ⟨snapshot.status, done.type⟩

/-! ## Preparing -/

theorem matchResult_ok {result : Result} {message : String} :
    matchResult format result text message = .ok () ↔
      result = format.empty ∨ format.canonicalJson result = some text := by
  unfold matchResult
  split
  case isTrue blank => simp [blank]
  case isFalse full =>
    refine bind_eq_ok.trans ?_
    simp only [canonicalResultJson_ok, guard_eq_ok, not_ne_iff, and_true, full, false_or,
      exists_eq_right]

/-- A bound reference: its row may get a blob. -/
theorem bindReference_ok (ok : bindReference format store snapshot = .ok after) :
    Extends format store after ∧ SameTasks store after ∧
      (after = store ∨ ∃ row ∈ store.results, row.taskId = snapshot.taskId ∧
        after.results = readyRows store.results row.resultId) := by
  unfold bindReference at ok
  cases found : store.resultRow snapshot.resultId with
  | none =>
    simp only [found, Except.ok.injEq] at ok
    subst ok
    exact ⟨.refl store, .refl store, .inl rfl⟩
  | some row =>
    rw [found] at ok
    obtain ⟨_, read, ok⟩ := bind_eq_ok.mp ok
    obtain ⟨task, ok⟩ := guard_eq_ok.mp ok
    obtain ⟨_, ok⟩ := guard_eq_ok.mp ok
    obtain ⟨_, _, ok⟩ := bind_eq_ok.mp ok
    obtain ⟨⟨_, _⟩, ensured, rfl⟩ := map_eq_ok.mp ok
    obtain rfl := verifiedResultForRead_row read
    obtain ⟨stored, named⟩ := resultRow_eq_some found
    rw [← named] at found
    obtain ⟨_, _, extended, tasks, rows⟩ := ensureResultBlobForRow_ok ⟨found, read⟩ ensured
    exact ⟨extended, tasks, .inr ⟨_, stored, not_not.mp task, rows⟩⟩

/-- An event that seals nothing keeps the reference of its snapshot or drops it,
and drops it only for a full result. -/
theorem keepReference_ok {snapshot updated : TaskSnapshot Result}
    (ok : keepReference format store snapshot = .ok updated) :
    updated = snapshot ∨ snapshot.result ≠ format.empty ∧ snapshot.resultId ≠ "" ∧
      updated = snapshot.withoutReference format := by
  unfold keepReference at ok
  split at ok
  · cases ok
    exact .inl rfl
  case isFalse full =>
    simp only [Bool.or_eq_true, decide_eq_true_eq, not_or] at full
    have dropped : updated = snapshot.withoutReference format →
        updated = snapshot ∨ snapshot.result ≠ format.empty ∧ snapshot.resultId ≠ "" ∧
          updated = snapshot.withoutReference format := fun same => .inr ⟨full.1, full.2, same⟩
    split at ok
    · exact dropped (Except.ok.inj ok).symm
    case h_2 row found =>
      obtain ⟨_, _, ok⟩ := bind_eq_ok.mp ok
      obtain ⟨_, ok⟩ := guard_eq_ok.mp ok
      split at ok
      · exact dropped (Except.ok.inj ok).symm
      · obtain ⟨text, _, same⟩ := map_eq_ok.mp ok
        split at same
        · exact .inl same.symm
        · exact dropped same.symm

/-- What `_prepare_terminal_result` does: an event of another type seals nothing,
a snapshot with a reference is bound to it, any other result is sealed. -/
inductive PreparedBy (format : ResultFormat Result) (store : TaskStore Result)
    (snapshot : TaskSnapshot Result) (event : TaskEvent Result) : Prepared Result → Prop where
  | kept {updated : TaskSnapshot Result} (other : snapshot.status.terminalEventType ≠ event.type)
      (keeps : keepReference format store snapshot = .ok updated) :
      PreparedBy format store snapshot event ⟨store, updated, event⟩
  | bound {after : TaskStore Result} (terminal : snapshot.status.terminalEventType = event.type)
      (named : snapshot.resultId ≠ "") (binds : bindReference format store snapshot = .ok after) :
      PreparedBy format store snapshot event ⟨after, snapshot, event⟩
  | fresh {after : TaskStore Result} {verified : VerifiedResult Result}
      (terminal : snapshot.status.terminalEventType = event.type) (unnamed : snapshot.resultId = "")
      (seals : SealedFor format store snapshot event verified after) :
      PreparedBy format store snapshot event
        (refer format after snapshot event (verified.reference format))

theorem prepareTerminalResult_cases {prepared : Prepared Result} (keyed : ResultsKeyed store)
    (ok : prepareTerminalResult format store snapshot event = .ok prepared) :
    PreparedBy format store snapshot event prepared := by
  unfold prepareTerminalResult at ok
  split at ok
  case isTrue other =>
    obtain ⟨_, kept, rfl⟩ := map_eq_ok.mp ok
    exact .kept other kept
  case isFalse terminal =>
    have terminal := not_not.mp terminal
    split at ok
    case isTrue named =>
      obtain ⟨_, bound, rfl⟩ := map_eq_ok.mp ok
      exact .bound terminal named bound
    case isFalse unnamed =>
      obtain ⟨_, done, rfl⟩ := map_eq_ok.mp ok
      exact .fresh terminal (not_not.mp unnamed) (sealResult_ok keyed done)

end NetConsole.TaskCenter
