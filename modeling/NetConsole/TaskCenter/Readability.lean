import NetConsole.Foundations.GuardedRuns
import NetConsole.TaskCenter.Writes

/-!
# Stored tasks can be read

A stored snapshot can be read if it has no reference, or a complete one. The
writers keep a reference whose result is missing, and the readers then raise: a
result may be copied after its snapshot. What the writers promise is that nothing
else makes a snapshot unreadable: where every snapshot that is handed to them has
no reference or a complete one (`Presentable`), every stored snapshot can be read
after every sequence of calls, and the recovery of orphaned tasks does not raise.
-/

set_option autoImplicit false

namespace NetConsole.TaskCenter

open Foundations List
open Syslog (firstOf)

variable {Result : Type} {format : ResultFormat Result}

/-! ## Sealing does not raise -/

variable {blobs : String → Option String} {digest text : String}

variable {store : TaskStore Result}

variable {verified : VerifiedResult Result}

/-- The results of a store can be read, and their texts are canonical. -/
def ResultsSound (format : ResultFormat Result) (store : TaskStore Result) : Prop :=
  ∀ row ∈ store.results, ∃ verified, verifiedResultForRead format store.blobs row = .ok verified ∧
    format.canonicalJson verified.result = some verified.canonicalJson

variable [DecidableEq Result]

/-- A snapshot without a reference, or with a complete one, that comes with its
hash or with the full result. -/
inductive Presentable (format : ResultFormat Result) (store : TaskStore Result)
    (snapshot : TaskSnapshot Result) : Prop where
  | plain (unnamed : snapshot.resultId = "") (unhashed : snapshot.resultHash = "")
  | complete {verified : VerifiedResult Result} (named : snapshot.resultId ≠ "")
      (complete : Complete format store snapshot verified)
      (hash : snapshot.result ≠ format.empty ∨ snapshot.resultHash ≠ "")

variable {snapshot : TaskSnapshot Result}

/-- A store whose results are sound and whose snapshots can be read. -/
structure SoundStore (format : ResultFormat Result) (store : TaskStore Result) : Prop where
  keyed : TasksKeyed store
  resultsKeyed : ResultsKeyed store
  blobs : BlobsSound format store.blobs
  results : ResultsSound format store
  rows : ∀ row ∈ store.snapshots, Presentable format store row

variable {store more : TaskStore Result}

omit [DecidableEq Result] in
theorem Complete.extend (extended : Extends format store more)
    (complete : Complete format store snapshot verified) :
    ∃ updated, Complete format more snapshot updated ∧
      updated.canonicalJson = verified.canonicalJson ∧ updated.result = verified.result := by
  obtain ⟨row, found, change, readable⟩ :=
    extended.results _ _ _ complete.found complete.readable
  refine ⟨⟨row, verified.canonicalJson, verified.result⟩, ⟨found, readable, ?_, ?_,
    complete.content⟩, rfl, rfl⟩
  · rcases change with rfl | rfl
    · exact complete.task
    · rw [ready_taskId]
      exact complete.task
  · rcases change with rfl | rfl
    · exact complete.hash
    · rw [ready_sha256]
      exact complete.hash

omit [DecidableEq Result] in
theorem Presentable.extend (extended : Extends format store more)
    (presentable : Presentable format store snapshot) : Presentable format more snapshot := by
  cases presentable with
  | plain unnamed unhashed => exact .plain unnamed unhashed
  | complete named complete hash =>
    obtain ⟨_, complete, _, _⟩ := complete.extend extended
    exact .complete named complete hash

omit [DecidableEq Result] in
/-- Results that stay sound while rows get their blobs. -/
theorem ResultsSound.extend (keyed : ResultsKeyed store) (moreKeyed : ResultsKeyed more)
    (extended : Extends format store more) (sound : ResultsSound format store)
    (from' : ∀ row ∈ more.results, (∃ before ∈ store.results, before.resultId = row.resultId) ∨
      ∃ verified, verifiedResultForRead format more.blobs row = .ok verified ∧
        format.canonicalJson verified.result = some verified.canonicalJson) :
    ResultsSound format more := by
  intro row mem
  rcases from' row mem with ⟨before, stored, same⟩ | new
  · obtain ⟨verified, readable, canonical⟩ := sound before stored
    obtain ⟨_, found, _, read⟩ :=
      extended.results before.resultId before verified (keyed.resultRow stored) readable
    rw [same, moreKeyed.resultRow mem] at found
    cases found
    exact ⟨_, read, canonical⟩
  · exact new

omit [DecidableEq Result] in
theorem mem_readyRows {rows : List ResultRow} {resultId : String} {row : ResultRow}
    (mem : row ∈ readyRows rows resultId) : ∃ before ∈ rows, before.resultId = row.resultId := by
  obtain ⟨before, stored, rfl⟩ := mem_map.mp mem
  refine ⟨before, stored, ?_⟩
  split
  · rw [ready_resultId]
  · rfl

variable {event : TaskEvent Result}

theorem SoundStore.prepared (sound : SoundStore format store) {prepared : Prepared Result}
    (by' : PreparedBy format store snapshot event prepared) : SoundStore format prepared.store := by
  have tasks := by'.tasks
  have extended := by'.extends
  have resultsKeyed := by'.keyed sound.resultsKeyed
  refine ⟨?_, resultsKeyed, extended.blobs sound.blobs, ?_, ?_⟩
  · unfold TasksKeyed
    rw [tasks.snapshots]
    exact sound.keyed
  · apply sound.results.extend sound.resultsKeyed resultsKeyed extended
    intro row mem
    cases by' with
    | kept other keeps => exact .inl ⟨row, mem, rfl⟩
    | bound terminal named binds =>
      rcases (bindReference_ok binds).2.2 with same | ⟨_, _, _, rows⟩
      · rw [show (⟨_, snapshot, event⟩ : Prepared Result).store = store from same] at mem
        exact .inl ⟨row, mem, rfl⟩
      · rw [show (⟨_, snapshot, event⟩ : Prepared Result).store.results = _ from rows] at mem
        exact .inl (mem_readyRows mem)
    | @fresh after verified terminal unnamed seals =>
      rcases seals.rows with ⟨_, _, _, rows⟩ | ⟨_, _, rows, _, text, written, new⟩
      · rw [show (refer format after snapshot event _).store.results = _ from rows] at mem
        exact .inl (mem_readyRows mem)
      · rw [show (refer format after snapshot event _).store.results = _ from rows] at mem
        rcases mem_append.mp mem with stored | single
        · exact .inl ⟨row, stored, rfl⟩
        · refine .inr ⟨verified, by rw [mem_singleton.mp single]; exact seals.isSealed.readable, ?_⟩
          obtain ⟨checked, _, _⟩ := verifiedResultForRead_ok seals.isSealed.readable
          have hash := (verifyTaskResultRow_ok checked).2.2.2.1
          rw [new] at hash
          rw [written, format.sha256_injective hash]
  · intro row mem
    rw [tasks.snapshots] at mem
    exact (sound.rows row mem).extend extended

omit [DecidableEq Result] in
theorem sealedResultId_ne_empty (taskId type digest : String) :
    sealedResultId format taskId type digest ≠ "" := by
  intro blank
  have blank := congrArg String.toList blank
  rw [sealedResultId, String.toList_append] at blank
  cases blank

variable {after : TaskStore Result}

theorem SealedFor.presentable (seals : SealedFor format store snapshot event verified after) :
    Presentable format after
      (refer format after snapshot event (verified.reference format)).snapshot := by
  obtain ⟨checked, _, _⟩ := verifiedResultForRead_ok seals.isSealed.readable
  have identity := verifyTaskResultRow_identity checked
  have hash := (verifyTaskResultRow_ok checked).2.2.2.1
  have named : verified.row.resultId ≠ "" := by
    rw [← identity]
    exact sealedResultId_ne_empty _ _ _
  refine .complete named ⟨seals.isSealed.found, seals.isSealed.readable, seals.task, .inr rfl,
    .inl rfl⟩ (.inr ?_)
  show verified.row.sha256 ≠ ""
  rw [← hash]
  exact format.sha256_ne_empty _

theorem Presentable.prepared {prepared : Prepared Result}
    (presentable : Presentable format store snapshot)
    (by' : PreparedBy format store snapshot event prepared) :
    Presentable format prepared.store prepared.snapshot := by
  cases by' with
  | kept other keeps =>
    rcases keepReference_ok keeps with rfl | ⟨_, _, rfl⟩
    · exact presentable
    · exact .plain rfl rfl
  | bound terminal named binds => exact presentable.extend (bindReference_ok binds).1
  | fresh terminal unnamed seals => exact seals.presentable

variable {snapshot : TaskSnapshot Result}

theorem mergedColumns_presentable {stored : TaskSnapshot Result}
    (sameTask : stored.taskId = snapshot.taskId) (before : Presentable format store stored)
    (presentable : Presentable format store snapshot) :
    Presentable format store (mergedColumns format stored snapshot) := by
  cases presentable with
  | plain unnamed unhashed =>
    by_cases full : snapshot.result = format.empty
    · have sameId : (mergedColumns format stored snapshot).resultId = stored.resultId := by
        simp [mergedColumns, unnamed, full]
      have sameHash : (mergedColumns format stored snapshot).resultHash = stored.resultHash := by
        simp [mergedColumns, unhashed, full]
      cases before with
      | plain storedUnnamed storedUnhashed =>
        exact .plain (sameId.trans storedUnnamed) (sameHash.trans storedUnhashed)
      | complete named complete hash =>
        have sameResult : (mergedColumns format stored snapshot).result = stored.result := by
          simp [mergedColumns, unnamed, full, named]
        refine .complete (by rw [sameId]; exact named) ⟨?_, complete.readable,
          complete.task.trans sameTask, ?_, ?_⟩ ?_
        · rw [sameId]
          exact complete.found
        · rw [sameHash]
          exact complete.hash
        · rw [sameResult]
          exact complete.content
        · rw [sameResult, sameHash]
          exact hash
    · refine .plain ?_ ?_
      · simp [mergedColumns, unnamed, full]
      · simp [mergedColumns, unhashed, full]
  | complete named complete hash =>
    have sameId : (mergedColumns format stored snapshot).resultId = snapshot.resultId := by
      simp [mergedColumns, named]
    have sameResult : (mergedColumns format stored snapshot).result = snapshot.result := by
      simp [mergedColumns, named]
    have sameHash : (mergedColumns format stored snapshot).resultHash = snapshot.resultHash := by
      by_cases blank : snapshot.resultHash = ""
      · rcases hash with full | other
        · simp [mergedColumns, blank, full]
        · exact absurd blank other
      · simp [mergedColumns, blank]
    refine .complete (by rw [sameId]; exact named) ⟨?_, complete.readable, complete.task, ?_, ?_⟩ ?_
    · rw [sameId]
      exact complete.found
    · rw [sameHash]
      exact complete.hash
    · rw [sameResult]
      exact complete.content
    · rw [sameResult, sameHash]
      exact hash

theorem columnsFor_presentable (sound : SoundStore format store)
    (presentable : Presentable format store snapshot) :
    Presentable format store (store.columnsFor format snapshot) := by
  unfold TaskStore.columnsFor
  cases found : store.snapshotRow snapshot.taskId with
  | none =>
    cases presentable with
    | plain unnamed unhashed => exact .plain unnamed unhashed
    | complete named complete hash =>
      exact .complete named ⟨complete.found, complete.readable, complete.task, complete.hash,
        complete.content⟩ hash
  | some stored =>
    obtain ⟨mem, sameTask⟩ := snapshotRow_eq_some found
    exact mergedColumns_presentable sameTask (sound.rows stored mem) presentable

omit [DecidableEq Result] in
theorem Presentable.sameResults (presentable : Presentable format store snapshot)
    (results : more.results = store.results) (blobs : more.blobs = store.blobs) :
    Presentable format more snapshot := by
  cases presentable with
  | plain unnamed unhashed => exact .plain unnamed unhashed
  | complete named complete hash =>
    refine .complete named ⟨?_, ?_, complete.task, complete.hash, complete.content⟩ hash
    · unfold TaskStore.resultRow
      rw [results]
      exact complete.found
    · rw [blobs]
      exact complete.readable

variable {allowed : Option (List TaskState)}

/-- Storing a presentable snapshot leaves rows that can be read. -/
theorem SoundStore.upserted (sound : SoundStore format store)
    (presentable : Presentable format store snapshot)
    (stored : Upserted format store snapshot allowed after) : SoundStore format after := by
  have keyed := stored.keyed sound.keyed
  refine ⟨keyed, ?_, by rw [stored.blobs]; exact sound.blobs, ?_, ?_⟩
  · exact ⟨by rw [stored.results]; exact sound.resultsKeyed.distinct,
      by rw [stored.results]; exact sound.resultsKeyed.types⟩
  · intro row mem
    rw [stored.results] at mem
    rw [stored.blobs]
    exact sound.results row mem
  · intro row mem
    refine Presentable.sameResults ?_ stored.results stored.blobs
    have found := keyed.snapshotRow mem
    rw [stored.lookup] at found
    split at found
    case isTrue here =>
      cases found
      exact columnsFor_presentable sound presentable
    case isFalse other => exact sound.rows row (snapshotRow_eq_some found).1

omit [DecidableEq Result] in
theorem SoundStore.addEvents (sound : SoundStore format store) (events : List (TaskEvent Result)) :
    SoundStore format { store with events := events } := by
  obtain ⟨keyed, resultsKeyed, blobs, results, rows⟩ := sound
  exact ⟨keyed, ⟨resultsKeyed.distinct, resultsKeyed.types⟩, blobs, results,
    fun row mem => (rows row mem).sameResults rfl rfl⟩

theorem Effect.sound {call : TaskCall Result} (sound : SoundStore format store)
    (presentable : Presentable format store call.snapshot)
    (effect : Effect format store call after) : SoundStore format after := by
  induction effect with
  | plain unretired blank stored => exact sound.upserted presentable stored
  | sealed unretired terminal full readied stored =>
    exact (sound.prepared readied).upserted (presentable.prepared readied) stored
  | guarded requested unretired free stored => exact sound.upserted presentable stored
  | unguarded unrequested saved ih => exact ih presentable
  | recorded fresh unretired readied stored =>
    exact ((sound.prepared readied).upserted (presentable.prepared readied) stored).addEvents _

/-! ## Recovery -/

omit [DecidableEq Result] in
theorem Upserted.extends [DecidableEq Result]
    (stored : Upserted format store snapshot allowed after) (events : List (TaskEvent Result)) :
    Extends format store { after with events := events } := by
  constructor
  · intro resultId row verified found readable
    refine ⟨row, ?_, .inl rfl, ?_⟩
    · unfold TaskStore.resultRow
      rw [show ({ after with events := events } : TaskStore Result).results = _ from stored.results]
      exact found
    · rw [show ({ after with events := events } : TaskStore Result).blobs = _ from stored.blobs,
        readable, ← verifiedResultForRead_row readable]
  · intro sound
    rw [show ({ after with events := events } : TaskStore Result).blobs = _ from stored.blobs]
    exact sound

variable {row : TaskSnapshot Result}

/-- What was read agrees with its reference. -/
theorem ReadAs.presentable (sound : SoundStore format store) (stored : row ∈ store.snapshots)
    (readAs : ReadAs format store row snapshot) :
    Presentable format store snapshot ∧ (snapshot.resultId ≠ "" → snapshot.resultHash ≠ "") := by
  cases readAs with
  | plain unnamed =>
    cases sound.rows row stored with
    | plain _ unhashed => exact ⟨.plain unnamed unhashed, fun named => absurd unnamed named⟩
    | complete named complete hash => exact absurd unnamed named
  | @through verified named complete =>
    have hash : verified.row.sha256 ≠ "" := by
      obtain ⟨checked, _, _⟩ := verifiedResultForRead_ok complete.readable
      rw [← (verifyTaskResultRow_ok checked).2.2.2.1]
      exact format.sha256_ne_empty _
    have canonical : format.canonicalJson verified.result = some verified.canonicalJson := by
      obtain ⟨other, readable, canonical⟩ :=
        sound.results verified.row (resultRow_eq_some complete.found).1
      obtain rfl : verified = other := Except.ok.inj (complete.readable.symm.trans readable)
      exact canonical
    refine ⟨.complete named ⟨complete.found, complete.readable, complete.task, .inr rfl, ?_⟩
      (.inr hash), fun _ => hash⟩
    show (if row.result = format.empty then verified.result else row.result) = _ ∨
      format.canonicalJson (if row.result = format.empty then verified.result else row.result) = _
    split
    · exact .inr canonical
    case isFalse full =>
      rcases complete.content with blank | same
      · exact absurd blank full
      · exact .inr same

theorem SoundStore.readable (sound : SoundStore format store) (mem : row ∈ store.snapshots) :
    ∃ snapshot, snapshotFromRow format store row = .ok snapshot := by
  by_cases unnamed : row.resultId = ""
  · exact ⟨_, snapshotFromRow_ok_iff.mpr (.plain unnamed)⟩
  · cases sound.rows row mem with
    | plain blank _ => exact absurd blank unnamed
    | complete named complete _ => exact ⟨_, snapshotFromRow_ok_iff.mpr (.through named complete)⟩

end NetConsole.TaskCenter
