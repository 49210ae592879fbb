import NetConsole.RawQuery.LatestPage

/-!
# What a read adds

A read only adds records, each from its own place (`readFilesUntil_adds`). A read of more
files goes on from the read of the first ones, unless that has ended early
(`readThrough_append`).
-/

set_option autoImplicit false

namespace NetConsole.RawQuery

open List

variable (lib : RawQueryLibrary) (request : RecordRequest)

/-! ## Places -/

/-- Where a record comes from. -/
def YieldedRecord.place (record : YieldedRecord) : String × Nat :=
  (record.rawFileId, record.rawLineNumber)

/-- The records that a step adds come from different lines of these files. -/
def Adds (fileIds : List String) (state after : ReadState) : Prop :=
  ∃ news, after.yielded = state.yielded ++ news ∧ (news.map YieldedRecord.place).Nodup ∧
    ∀ record ∈ news, record.rawFileId ∈ fileIds

theorem Adds.same (fileIds : List String) {state after : ReadState}
    (same : after.yielded = state.yielded) : Adds fileIds state after :=
  ⟨[], by simp [same], .nil, nofun⟩

theorem Adds.trans (first second : List String) {state middle after : ReadState}
    (apart : (first ++ second).Nodup) (one : Adds first state middle)
    (two : Adds second middle after) : Adds (first ++ second) state after := by
  obtain ⟨news, yielded, distinct, files⟩ := one
  obtain ⟨more, yielded', distinct', files'⟩ := two
  refine ⟨news ++ more, by rw [yielded', yielded, append_assoc], ?_, ?_⟩
  · rw [map_append]
    refine nodup_append.mpr ⟨distinct, distinct', ?_⟩
    rintro place isNew other isMore rfl
    obtain ⟨record, mem, rfl⟩ := mem_map.mp isNew
    obtain ⟨record', mem', same⟩ := mem_map.mp isMore
    have sameFile : record'.rawFileId = record.rawFileId := congrArg Prod.fst same
    exact (nodup_append.mp apart).2.2 _ (files record mem) _ (files' record' mem') sameFile.symm
  · intro record mem
    rcases mem_append.mp mem with mem | mem
    · exact mem_append_left _ (files record mem)
    · exact mem_append_right _ (files' record mem)

/-! ## One file -/

theorem acceptRecord_yielded (line : List UInt8) (record : YieldedRecord) (state : ReadState) :
    ∃ news, (acceptRecord lib request line record state).1.yielded = state.yielded ++ news ∧
      news.length ≤ 1 ∧ ∀ added ∈ news, added = record := by
  have nothing {after : ReadState} (same : after.yielded = state.yielded) :
      ∃ news, after.yielded = state.yielded ++ news ∧ news.length ≤ 1 ∧
        ∀ added ∈ news, added = record := ⟨[], by simp [same], by simp, nofun⟩
  have one : ∃ news, state.yielded ++ [record] = state.yielded ++ news ∧ news.length ≤ 1 ∧
      ∀ added ∈ news, added = record := ⟨[record], rfl, by simp, by simp⟩
  unfold acceptRecord
  split
  · exact one
  · split
    · exact nothing rfl
    · split
      · exact nothing rfl
      · split
        · exact nothing rfl
        · exact one

variable (file : RegisteredFile)

theorem readLine_yielded (source : String) (number : Nat)
    (line : List UInt8) (entry : String) (state : ReadState) :
    ∃ news, (readLine lib request file source number line entry state).1.yielded =
        state.yielded ++ news ∧ news.length ≤ 1 ∧
      ∀ record ∈ news, record.place = (file.fileId, number) := by
  have nothing {after : ReadState} (same : after.yielded = state.yielded) :
      ∃ news : List YieldedRecord, after.yielded = state.yielded ++ news ∧ news.length ≤ 1 ∧
        ∀ record ∈ news, record.place = (file.fileId, number) :=
    ⟨[], by simp [same], by simp, nofun⟩
  unfold readLine
  dsimp only
  split
  · exact nothing rfl
  · split
    · exact nothing rfl
    · split
      · exact nothing rfl
      · split
        · exact nothing rfl
        · refine (acceptRecord_yielded _ _ line _ _).imp fun news added =>
            ⟨added.1, added.2.1, fun record mem => ?_⟩
          rw [added.2.2 record mem]
          rfl

theorem readLines_yielded (source : String) (number : Nat)
    (lines : List (List UInt8 × String)) (state : ReadState) :
    ∃ news, (readLines lib request file source number lines state).1.yielded =
        state.yielded ++ news ∧ (news.map YieldedRecord.place).Nodup ∧
      ∀ record ∈ news, record.rawFileId = file.fileId ∧ number ≤ record.rawLineNumber := by
  induction lines generalizing number state with
  | nil => exact ⟨[], by simp [readLines], .nil, nofun⟩
  | cons first rest ih =>
    obtain ⟨line, entry⟩ := first
    obtain ⟨news, yielded, single, places⟩ :=
      readLine_yielded lib request file source number line entry state
    have distinct : (news.map YieldedRecord.place).Nodup := by
      match news, single with
      | [], _ => exact .nil
      | [record], _ => exact nodup_singleton _
    have files : ∀ record ∈ news, record.rawFileId = file.fileId ∧ record.rawLineNumber = number :=
      fun record mem => ⟨congrArg Prod.fst (places record mem),
        congrArg Prod.snd (places record mem)⟩
    unfold readLines
    split
    · next stopped result =>
      rw [result] at yielded
      exact ⟨news, yielded, distinct,
        fun record mem => ⟨(files record mem).1, (files record mem).2.ge⟩⟩
    · next after result =>
      rw [result] at yielded
      obtain ⟨more, yielded', distinct', later⟩ := ih (number + 1) after
      refine ⟨news ++ more, by rw [yielded', yielded, append_assoc], ?_, ?_⟩
      · rw [map_append]
        refine nodup_append.mpr ⟨distinct, distinct', ?_⟩
        rintro place isNew other isMore rfl
        obtain ⟨record, mem, rfl⟩ := mem_map.mp isNew
        obtain ⟨record', mem', same⟩ := mem_map.mp isMore
        have sameLine : record'.rawLineNumber = record.rawLineNumber := congrArg Prod.snd same
        have := (later record' mem').2
        have := (files record mem).2
        omega
      · intro record mem
        rcases mem_append.mp mem with mem | mem
        · exact ⟨(files record mem).1, (files record mem).2.ge⟩
        · exact ⟨(later record mem).1, by have := (later record mem).2; omega⟩

theorem readSource_adds (source : String) (lineSource : LineSource) (state : ReadState) :
    Adds [file.fileId] state (readSource lib request file source lineSource state) := by
  obtain ⟨news, yielded, distinct, places⟩ :=
    readLines_yielded _ _ _ source 1 lineSource.lines { state with
        filesScanned := state.filesScanned + 1
        sources := if source ∈ state.sources then state.sources else source :: state.sources }
  unfold readSource
  dsimp only
  split
  · next stopped result =>
    rw [result] at yielded
    exact ⟨news, yielded, distinct, fun record mem => by simp [(places record mem).1]⟩
  · next after result =>
    rw [result] at yielded
    exact ⟨news, yielded, distinct, fun record mem => by simp [(places record mem).1]⟩

variable (storage : Storage)

theorem readFile_adds (file : RegisteredFile) (active : Option LineSource) (state : ReadState) :
    Adds [file.fileId] state (readFile lib request storage file active state) := by
  unfold readFile
  split
  · exact readSource_adds _ _ _ _ _ state
  · split
    · exact .same _ rfl
    · exact .same _ rfl
    · exact readSource_adds _ _ _ "ARCHIVE" (storage.archivedLines _)
        { state with legacyArchive := _ }

/-! ## All files -/

/-- The files add records from different places. -/
theorem readFilesUntil_adds (stop : RawFileRow → List YieldedRecord → Bool)
    (files : List (RawFileRow × Option LineSource)) (state : ReadState)
    (distinct : (files.map fun file => file.1.fileId).Nodup) :
    Adds (files.map fun file => file.1.fileId) state
      (readFilesUntil lib request storage stop files state) := by
  induction files generalizing state with
  | nil => exact .same _ rfl
  | cons first rest ih =>
    obtain ⟨file, active⟩ := first
    have one := readFile_adds lib request storage file.toRegisteredFile active
      { state with budgetChecks := state.budgetChecks + 1 }
    have head : Adds (([(file, active)] ++ rest).map fun file => file.1.fileId) state
        (readFile lib request storage file.toRegisteredFile active
          { state with budgetChecks := state.budgetChecks + 1 }) := by
      obtain ⟨news, yielded, apart, ids⟩ := one
      exact ⟨news, yielded, apart, fun record mem => by
        simpa using Or.inl (mem_singleton.mp (ids record mem))⟩
    unfold readFilesUntil
    dsimp only
    split
    · exact .same _ rfl
    · split
      · exact .same _ rfl
      · split
        · exact head
        · split
          · exact head
          · rw [map_cons] at distinct ⊢
            exact Adds.trans [file.fileId] _ distinct one (ih _ (nodup_cons.mp distinct).2)

/-- The read of every file, without a budget. -/
def readThrough (storage : Storage) (files : List (RawFileRow × Option LineSource))
    (state : ReadState) : ReadState :=
  readFilesUntil lib request storage (fun _ _ => false) files state

/-- The state after one file, and whether the reading ends there. -/
def readNext (storage : Storage) (file : RawFileRow × Option LineSource) (state : ReadState) :
    ReadState × Bool :=
  let checked := { state with budgetChecks := state.budgetChecks + 1 }
  if budgetExhausted request state then ({ checked with truncated := true }, true)
  else
    let after := readFile lib request storage file.1.toRegisteredFile file.2 checked
    (after, after.raised.isSome || after.truncated && decide
      (after.filesScanned ≠ checked.filesScanned))

theorem readFilesUntil_cons (stop : RawFileRow → List YieldedRecord → Bool)
    (file : RawFileRow × Option LineSource) (rest : List (RawFileRow × Option LineSource))
    (state : ReadState) :
    readFilesUntil lib request storage stop (file :: rest) state =
      if !budgetExhausted request state && stop file.1 state.yielded then
        { state with budgetChecks := state.budgetChecks + 1, optimizedLatestPage := true }
      else if (readNext lib request storage file state).2 then
        (readNext lib request storage file state).1
      else
        readFilesUntil lib request storage stop rest
          (readNext lib request storage file state).1 := by
  unfold readNext
  rw [readFilesUntil]
  by_cases exhausted : budgetExhausted request state = true
  · simp [exhausted]
  · simp only [exhausted, Bool.false_eq_true, if_false, Bool.not_false, Bool.true_and]
    by_cases stops : stop file.1 state.yielded = true
    · rw [if_pos stops, if_pos stops]
    · rw [if_neg stops, if_neg stops]
      split
      · next raised => simp [raised]
      · next raised =>
        have none : (readFile lib request storage file.1.toRegisteredFile file.2
            { state with budgetChecks := state.budgetChecks + 1 }).raised.isSome = false := by
          simpa using raised
        simp only [none, Bool.false_or]

theorem readThrough_cons (file : RawFileRow × Option LineSource)
    (rest : List (RawFileRow × Option LineSource)) (state : ReadState) :
    readThrough lib request storage (file :: rest) state =
      if (readNext lib request storage file state).2 then
        (readNext lib request storage file state).1
      else
        readThrough lib request storage rest
          (readNext lib request storage file state).1 := by
  rw [readThrough, readFilesUntil_cons, Bool.and_false]
  rfl

theorem readNext_raised {storage : Storage} {file : RawFileRow × Option LineSource}
    {state : ReadState} (goesOn : (readNext lib request storage file state).2 = false) :
    (readNext lib request storage file state).1.raised = none := by
  unfold readNext at goesOn ⊢
  split at goesOn
  · exact nomatch goesOn
  · next inBudget =>
    rw [if_neg inBudget]
    simpa using (Bool.or_eq_false_iff.mp goesOn).1

/-- More files: the read of the first ones has ended early, or it goes on. -/
theorem readThrough_append (files rest : List (RawFileRow × Option LineSource))
    {state : ReadState} (unraised : state.raised = none) :
    readThrough lib request storage (files ++ rest) state =
        readThrough lib request storage files state ∨
      readThrough lib request storage (files ++ rest) state = readThrough lib request storage rest
            (readThrough lib request storage files state) ∧
        (readThrough lib request storage files state).raised = none := by
  induction files generalizing state with
  | nil => exact .inr ⟨rfl, unraised⟩
  | cons _ files ih =>
    rw [cons_append, readThrough_cons, readThrough_cons]
    split
    · exact .inl rfl
    · next goesOn => exact ih (readNext_raised _ _ (by simpa using goesOn))

/-- A read only adds records. -/
theorem readThrough_yielded (files : List (RawFileRow × Option LineSource)) (state : ReadState) :
    ∃ news, (readThrough lib request storage files state).yielded = state.yielded ++ news := by
  induction files generalizing state with
  | nil => exact ⟨[], by simp [readThrough, readFilesUntil]⟩
  | cons file rest ih =>
    have one : ∃ news, (readNext lib request storage file state).1.yielded =
        state.yielded ++ news := by
      unfold readNext
      split
      · exact ⟨[], by simp⟩
      · obtain ⟨news, yielded, -⟩ := readFile_adds lib request storage file.1.toRegisteredFile
          file.2 { state with budgetChecks := state.budgetChecks + 1 }
        exact ⟨news, yielded⟩
    obtain ⟨news, yielded⟩ := one
    rw [readThrough_cons]
    split
    · exact ⟨news, yielded⟩
    · obtain ⟨more, yielded'⟩ := ih (readNext _ _ _ _ state).1
      exact ⟨news ++ more, by rw [yielded', yielded, append_assoc]⟩

end NetConsole.RawQuery
