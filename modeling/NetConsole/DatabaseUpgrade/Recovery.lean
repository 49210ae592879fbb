import NetConsole.DatabaseUpgrade.Coordinator

/-!
# Recovery of an interrupted upgrade

`recover_incomplete_upgrades` runs at every start of the program. For a journal
that is not in a terminal stage it calls `_recover_journal`, which decides from
the journal and from which database files exist. A result becomes the new stage
of the journal; an exception makes the stage `recovery_failed`, and the next
start tries again.

`Reliable` collects what holds whenever the process can end: an active database
that is neither absent, nor the old one, nor the new one with a journaled smoke
test has the old database beside it as the rollback file. When there was no old
database nothing is beside it, and recovery has to know the switch from the
journal; `RecoverableStart` says when it does.
-/

set_option autoImplicit false

namespace NetConsole.DatabaseUpgrade

open Foundations Option

variable {Content : Type}

/-! ## The recovery of one journal -/

/-- `database.sqlite` in the backup directory that a journal names. -/
def UpgradeState.journalBackup (s : UpgradeState Content) (value : Journal) : Option Content :=
  if value.backupPath then s.backup else none

/-- The switch was journaled and the smoke test was not. -/
def Journal.interruptedAfterSwitch (value : Journal) : Bool :=
  value.switched && (value.stage = .switched || value.stage = .smokeFailed || value.stage = .failed)

def writeExistingJournal (value : Journal) : UpgradeProc Content Unit :=
  Proc.replaceFile .osError fun s => s.write value

section Recovery

variable (sqlite : Sqlite Content)

/-- The shadow is not needed any more. -/
def discardRecoveredShadow : UpgradeProc Content Unit := do
  let s ← Proc.look
  Proc.when s.shadow.isSome (Proc.act .osError fun s => .ok { s with shadow := none })
  Proc.mayRaise .osError

/-- The smoke test was journaled: the new database stays. -/
def keepNewDatabase : UpgradeProc Content Stage := do
  let s ← Proc.look
  Proc.when s.rollback.isSome (Proc.act .osError fun s => .ok { s with rollback := none })
  Proc.mayRaise .osError
  discardRecoveredShadow
  return .recoveredNewDatabase

/-- The last part of `_recover_journal`: what is left is put aside and the active
database is checked. -/
def finishRecovery (stage : Stage) : UpgradeProc Content Stage := do
  Proc.mayRaise .osError
  discardRecoveredShadow
  let s ← Proc.look
  Proc.when (!validateSqlite sqlite s.active) (Proc.raise (.runtimeError "异常退出恢复后的正式数据库完整性校验失败"))
  return stage

/-- The active database is kept under another name. -/
def moveActiveAside : UpgradeProc Content Unit := do
  let s ← Proc.look
  Proc.when s.active.isSome (Proc.act .osError fun s => .ok { s with active := none })

/-- The active database is copied from the backup. -/
def restoreFromBackup (source : Content) : UpgradeProc Content Stage := do
  sqliteBackup sqlite (some source) fun copy s => { s with active := some copy }
  finishRecovery sqlite .recoveredFromBackup

/-- Decide from the files which database is the old one. -/
def rollBackInterrupted (value : Journal) : UpgradeProc Content Stage := do
  let s ← Proc.look
  if value.interruptedAfterSwitch && s.rollback.isNone then do
    moveActiveAside
    Proc.mayRaise .osError
    let s ← Proc.look
    match s.journalBackup value with
    | some source => restoreFromBackup sqlite source
    | none => return .recoveredNoExistingDatabase
  else if s.rollback.isSome then do
    moveActiveAside
    Proc.act .osError fun s => .ok { s with active := s.rollback, rollback := none }
    finishRecovery sqlite .recoveredRollback
  else if s.active.isNone then
    match s.journalBackup value with
    | some source => restoreFromBackup sqlite source
    | none => Proc.raise (.runtimeError "正式数据库和 rollback 均不存在，且安全备份不可用")
  else finishRecovery sqlite .recoveredNoSwitch

/-- The recovery of a journal. -/
def recoverJournal (value : Journal) : UpgradeProc Content Stage := do
  Proc.mayRaise .osError
  let s ← Proc.look
  if value.stage = .smokeValidated && validateSqlite sqlite s.active then keepNewDatabase
  else rollBackInterrupted sqlite value

/-- `recover_incomplete_upgrades` for the journal of this operation. A journal
without valid authority is blocked and stays as it is. -/
def recoverIncompleteUpgrade : UpgradeProc Content Unit := do
  let s ← Proc.look
  match s.journal with
  | none => return ()
  | some value =>
    if value.stage.terminal then return ()
    else do
      let authorized ← Proc.tryExcept
        (do
          Proc.mayRaise (UpgradeError.valueError "DATABASE_STARTUP_AUTHORITY_REQUIRED")
          return true)
        fun _ => do
          Proc.mayRaise .osError
          return false
      Proc.when authorized (Proc.tryExcept
          (do
            Proc.mayRaise .osError
            let stage ← recoverJournal sqlite value
            writeExistingJournal { value with stage })
          fun _ =>
            Proc.tryExcept (writeExistingJournal { value with stage := .recoveryFailed })
              fun _ => Proc.mayRaise .osError)

/-- The states after an upgrade and any number of recovery passes, completed or
not, each started in a state of `guard`. -/
inductive Recoveries (guard : UpgradeState Content → Prop) (first : UpgradeState Content) :
    UpgradeState Content → Prop where
  | start : Recoveries guard first first
  | pass {s : UpgradeState Content} (earlier : Recoveries guard first s) (within : guard s)
      (faults : List Fault) :
      Recoveries guard first ((recoverIncompleteUpgrade sqlite).run s faults).2

end Recovery

/-! ## What holds whenever the process can end -/

section Reliability

variable (sqlite : Sqlite Content) (descriptor : DatabaseDescriptor Content)

/-- The new database of an operation: the shadow as it was built, checked,
switched and smoke tested. -/
def ValidatedNew (active : Option Content) : Prop :=
  ∃ shadow, descriptor.adapter.shadowContents.getLast? = some shadow ∧
    descriptor.adapter.validate sqlite (some shadow) = true ∧
    descriptor.versionMatches (some shadow) = true ∧
    active = some (if descriptor.adapter.movesParsed then
      descriptor.adapter.rewriteParsedPaths shadow else shadow) ∧
    descriptor.smokeTest active = true

/-- The smoke test of the new database was journaled. -/
def UpgradeState.smokeJournaled (s : UpgradeState Content) : Prop :=
  .smokeValidated ∈ s.journaled ∨ .completed ∈ s.journaled

/-- The active database is the old one, or the validated new one with a
journaled smoke test. -/
def ActiveConsistent (old : Option Content) (s : UpgradeState Content) : Prop :=
  s.active = old ∨ s.smokeJournaled ∧ ValidatedNew sqlite descriptor s.active

/-- No recovery is left to do. -/
def UpgradeState.settled (s : UpgradeState Content) : Prop :=
  ∀ value, s.journal = some value → value.stage.terminal = true

/-- The files whenever the process can end. -/
structure Reliable (old : Option Content) (s : UpgradeState Content) : Prop where
  rollback : s.rollback = none ∨ s.rollback = old
  active : s.active = none ∨ ActiveConsistent sqlite descriptor old s ∨
    ¬s.smokeJournaled ∧ s.rollback = old

/-- What a journal says about the files. -/
structure Truthful (old : Option Content) (s : UpgradeState Content) (value : Journal) : Prop where
  backup : value.backupPath = true → s.backup = none ∨ s.backup = old
  switched : value.switched = true → value.backupPath = true ∧ s.backup = old
  smoke : value.stage = .smokeValidated → s.smokeJournaled
  settled : value.stage.terminal = true → ActiveConsistent sqlite descriptor old s

/-- The durable part of the state whenever the process can end. -/
structure Interrupted (old : Option Content) (s : UpgradeState Content) : Prop where
  files : Reliable sqlite descriptor old s
  journal : ∀ value, s.journal = some value → Truthful sqlite descriptor old s value
  unwritten : s.journal = none → s.active = old

/-- When there was no database before the upgrade, an active database is known
to the journal: by the switch, or by the smoke test. -/
def RecoverableStart (old : Option Content) (s : UpgradeState Content) : Prop :=
  old = none → s.active = none ∨ s.smokeJournaled ∨
    ∃ value, s.journal = some value ∧ value.interruptedAfterSwitch = true

end Reliability

/-! ## Writing the journal -/

section Writing

variable {sqlite : Sqlite Content} {descriptor : DatabaseDescriptor Content}
  {old : Option Content} {s : UpgradeState Content} {value : Journal}

/-- Only the two stages of a new database change what the history says. -/
theorem smokeJournaled_write (smoke : value.stage ≠ .smokeValidated)
    (completed : value.stage ≠ .completed) : (s.write value).smokeJournaled ↔ s.smokeJournaled := by
  simp [UpgradeState.smokeJournaled, UpgradeState.write, smoke.symm, completed.symm]

theorem UpgradeState.smokeJournaled.write (value : Journal) (smoke : s.smokeJournaled) :
    (s.write value).smokeJournaled := by
  rcases smoke with validated | completed
  · exact .inl (List.mem_append_left _ validated)
  · exact .inr (List.mem_append_left _ completed)

theorem ActiveConsistent.write (value : Journal)
    (consistent : ActiveConsistent sqlite descriptor old s) :
    ActiveConsistent sqlite descriptor old (s.write value) := by
  rcases consistent with unchanged | ⟨smoke, new⟩
  · exact .inl unchanged
  · exact .inr ⟨smoke.write _, new⟩

theorem Reliable.write (files : Reliable sqlite descriptor old s)
    (unproved : value.stage = .smokeValidated ∨ value.stage = .completed →
      s.active = none ∨ ActiveConsistent sqlite descriptor old (s.write value)) :
    Reliable sqlite descriptor old (s.write value) := by
  refine ⟨files.rollback, ?_⟩
  by_cases new : value.stage = .smokeValidated ∨ value.stage = .completed
  · rcases unproved new with absent | consistent
    · exact .inl absent
    · exact .inr (.inl consistent)
  · have new := not_or.mp new
    rcases files.active with absent | consistent | ⟨silent, beside⟩
    · exact .inl absent
    · exact .inr (.inl (consistent.write _))
    · exact .inr (.inr ⟨mt (smokeJournaled_write new.1 new.2).mp silent, beside⟩)

end Writing

/-! ## What a recovery pass keeps -/

section Passes

variable (sqlite : Sqlite Content) (descriptor : DatabaseDescriptor Content)
  (old : Option Content) (value : Journal)

/-- The files while a journal that is not in a terminal stage is recovered. -/
structure Recovering (s : UpgradeState Content) : Prop where
  journal : s.journal = some value
  files : Reliable sqlite descriptor old s
  truthful : Truthful sqlite descriptor old s value

/-- The active database needs no further step. -/
structure Recovered (s : UpgradeState Content) : Prop where
  recovering : Recovering sqlite descriptor old value s
  consistent : ActiveConsistent sqlite descriptor old s

variable {sqlite descriptor old value} {s : UpgradeState Content}
  (recovering : Recovering sqlite descriptor old value s)
include recovering

theorem Recovering.interrupted : Interrupted sqlite descriptor old s where
  files := recovering.files
  journal := by
    intro held present
    rw [recovering.journal] at present
    cases present
    exact recovering.truthful
  unwritten absent := by
    rw [recovering.journal] at absent
    cases absent

variable {rollback active : Option Content} (unfinished : value.stage.terminal = false)
include unfinished

/-- Files move, the journal and the backup stay. -/
theorem Recovering.move
    (files : Reliable sqlite descriptor old { s with active := active, rollback := rollback }) :
    Recovering sqlite descriptor old value { s with active := active, rollback := rollback } where
  journal := recovering.journal
  files := files
  truthful :=
    { backup := recovering.truthful.backup, switched := recovering.truthful.switched
      smoke := recovering.truthful.smoke
      settled terminal := by
        rw [unfinished] at terminal
        cases terminal }

theorem Recovering.clear : Recovering sqlite descriptor old value { s with active := none } :=
  recovering.move unfinished ⟨recovering.files.rollback, .inl rfl⟩

/-- The old database is put at the active path. -/
theorem Recovering.restore (same : active = old) (beside : rollback = none ∨ rollback = old) :
    Recovered sqlite descriptor old value { s with active := active, rollback := rollback } where
  recovering := recovering.move unfinished ⟨beside, .inr (.inl (.inl same))⟩
  consistent := .inl same

omit unfinished recovering

variable (recovered : Recovered sqlite descriptor old value s)
include recovered

theorem Recovered.setShadow (shadow : Option Content) :
    Recovered sqlite descriptor old value { s with shadow := shadow } where
  recovering :=
    { journal := recovered.recovering.journal
      files := ⟨recovered.recovering.files.rollback, recovered.recovering.files.active⟩
      truthful :=
        { backup := recovered.recovering.truthful.backup
          switched := recovered.recovering.truthful.switched
          smoke := recovered.recovering.truthful.smoke
          settled := recovered.recovering.truthful.settled } }
  consistent := recovered.consistent

theorem Recovered.dropRollback (unfinished : value.stage.terminal = false) :
    Recovered sqlite descriptor old value { s with rollback := none } where
  recovering := recovered.recovering.move unfinished ⟨.inl rfl, .inr (.inl recovered.consistent)⟩
  consistent := recovered.consistent

/-- A journal entry for a state that needs no further step. -/
theorem Recovered.write {stage : Stage} (unproved : stage ≠ .smokeValidated) :
    Interrupted sqlite descriptor old (s.write { value with stage }) where
  files := recovered.recovering.files.write fun _ => .inr (recovered.consistent.write _)
  journal := by
    intro held present
    cases present
    exact
      { backup := recovered.recovering.truthful.backup
        switched := recovered.recovering.truthful.switched
        smoke same := absurd same unproved
        settled _ := recovered.consistent.write _ }
  unwritten absent := by cases absent

omit recovered

/-- The entry of a recovery that failed. -/
theorem Reliable.fail (files : Reliable sqlite descriptor old s)
    (truthful : Truthful sqlite descriptor old s value) :
    Interrupted sqlite descriptor old (s.write { value with stage := .recoveryFailed }) where
  files := files.write fun either => by rcases either with same | same <;> cases same
  journal := by
    intro held present
    cases present
    exact
      { backup := truthful.backup, switched := truthful.switched
        smoke same := by cases same
        settled terminal := by cases terminal }
  unwritten absent := by cases absent

theorem Truthful.write (unfinished : value.stage.terminal = false)
    (truthful : Truthful sqlite descriptor old s value) (entry : Journal) :
    Truthful sqlite descriptor old (s.write entry) value where
  backup := truthful.backup
  switched := truthful.switched
  smoke same := (truthful.smoke same).write entry
  settled terminal := by
    rw [unfinished] at terminal
    cases terminal

end Passes

/-! ## Specifications of the recovery -/

section Specifications

variable {sqlite : Sqlite Content} {descriptor : DatabaseDescriptor Content}
  {old : Option Content} {value : Journal} {raises : UpgradeError → UpgradeState Content → Prop}
  {cutOff holds : UpgradeState Content → Prop}

theorem sqliteBackup_spec {source : Option Content}
    {put : Content → UpgradeState Content → UpgradeState Content}
    {returns : UpgradeState Content → Prop}
    (copied : ∀ content, source = some content → ∀ s, holds s → returns (put content s))
    (missed : ∀ e s, holds s → raises e s) (late : ∀ e s, returns s → raises e s)
    (cut : ∀ s, holds s → cutOff s) (cutLate : ∀ s, returns s → cutOff s) :
    Triple holds (sqliteBackup sqlite source put) (fun _ => returns) raises cutOff := by
  unfold sqliteBackup
  cases source with
  | none => exact .raise _ (missed _)
  | some content =>
    simp only
    split
    · exact .raise _ (missed _)
    · apply Triple.replaceFile
      · exact copied content rfl
      · exact missed _
      · exact fun s entry => late _ _ (copied content rfl s entry)
      · exact fun s entry => ⟨cut s entry, cutLate _ (copied content rfl s entry)⟩

theorem moveActiveAside_spec (kept : ∀ s, holds s → holds { s with active := none })
    (missed : ∀ e s, holds s → raises e s) (cut : ∀ s, holds s → cutOff s) :
    Triple holds moveActiveAside (fun _ s => holds s ∧ s.active = none) raises cutOff := by
  apply Triple.look_bind
  intro s₀ entry
  apply Triple.when
  · intro _
    apply Triple.act_ok
    · rintro s rfl
      exact ⟨kept s entry, rfl⟩
    · rintro s rfl
      exact missed _ s entry
    · rintro s rfl
      exact cut s entry
  · rintro absent s rfl
    exact ⟨entry, by simpa using absent⟩

theorem discardRecoveredShadow_spec :
    Ends (Recovered sqlite descriptor old value) discardRecoveredShadow
      (fun _ => Recovered sqlite descriptor old value)
      (Recovering sqlite descriptor old value) := by
  apply Triple.look_bind
  intro s₀ entry
  apply Triple.bind fun _ => Recovered _ _ _ _
  · apply Triple.when
    · intro _
      apply Triple.act_ok
      · rintro s rfl
        exact entry.setShadow none
      · rintro s rfl
        exact entry.recovering
      · rintro s rfl
        exact entry.recovering
    · rintro _ s rfl
      exact entry
  · intro _
    exact .mayRaise (fun _ recovered => recovered.recovering)
      fun _ recovered => recovered.recovering

/-- What a call of `_recover_journal` promises: a result comes with a consistent
active database. -/
def RecoversTo (sqlite : Sqlite Content) (descriptor : DatabaseDescriptor Content)
    (old : Option Content) (value : Journal) (before : UpgradeState Content → Prop)
    (procedure : UpgradeProc Content Stage) : Prop :=
  Triple before procedure
    (fun stage s => stage ≠ .smokeValidated ∧ Recovered sqlite descriptor old value s)
    (fun _ => Recovering sqlite descriptor old value)
    (Recovering sqlite descriptor old value)

variable {stage : Stage}

theorem finishRecovery_spec (unproved : stage ≠ .smokeValidated) :
    RecoversTo sqlite descriptor old value (Recovered sqlite descriptor old value)
      (finishRecovery sqlite stage) := by
  apply Triple.mayRaise_bind (fun _ recovered => recovered.recovering)
    (fun _ recovered => recovered.recovering)
  apply Triple.bind (fun _ => Recovered _ _ _ _) discardRecoveredShadow_spec
  intro _
  apply Triple.look_bind
  intro s₀ recovered
  apply Triple.bind fun _ s => s = s₀
  · apply Triple.when
    · intro _
      exact .raise_exact _ recovered.recovering
    · exact fun _ _ same => same
  · intro _
    exact .pure_exact _ ⟨unproved, recovered⟩

variable {source : Content}

theorem restoreFromBackup_spec (unfinished : value.stage.terminal = false)
    (same : some source = old) :
    RecoversTo sqlite descriptor old value (Recovering sqlite descriptor old value)
      (restoreFromBackup sqlite source) := by
  apply Triple.bind fun _ => Recovered _ _ _ _
  · apply sqliteBackup_spec
    · intro content copied s recovering
      exact recovering.restore unfinished (copied ▸ same) recovering.files.rollback
    · exact fun _ _ recovering => recovering
    · exact fun _ _ recovered => recovered.recovering
    · exact fun _ recovering => recovering
    · exact fun _ recovered => recovered.recovering
  · exact fun _ => finishRecovery_spec (by decide)

variable {s : UpgradeState Content} (recovering : Recovering sqlite descriptor old value s)
include recovering

/-- After the smoke test an active database needs no further step. -/
theorem Recovering.recovered_of_smoke (smoke : s.smokeJournaled) (present : s.active ≠ none) :
    Recovered sqlite descriptor old value s := by
  refine ⟨recovering, ?_⟩
  rcases recovering.files.active with absent | consistent | ⟨silent, _⟩
  · exact absurd absent present
  · exact consistent
  · exact absurd smoke silent

omit recovering in
theorem keepNewDatabase_spec (unfinished : value.stage.terminal = false) :
    RecoversTo sqlite descriptor old value (Recovered sqlite descriptor old value)
      keepNewDatabase := by
  apply Triple.look_bind
  intro s₀ entry
  apply Triple.bind fun _ => Recovered _ _ _ _
  · apply Triple.when
    · intro _
      apply Triple.act_ok
      · rintro s rfl
        exact entry.dropRollback unfinished
      · rintro s rfl
        exact entry.recovering
      · rintro s rfl
        exact entry.recovering
    · rintro _ s rfl
      exact entry
  · intro _
    apply Triple.mayRaise_bind (fun _ recovered => recovered.recovering)
      (fun _ recovered => recovered.recovering)
    apply Triple.bind (fun _ => Recovered _ _ _ _) discardRecoveredShadow_spec
    intro _
    exact .pure _ fun _ recovered => ⟨by decide, recovered⟩

theorem Recovering.journalBackup
    (found : s.journalBackup value = some source) : some source = old := by
  unfold UpgradeState.journalBackup at found
  split at found
  case isTrue named =>
    rcases recovering.truthful.backup named with absent | same
    · rw [absent] at found
      cases found
    · rw [← found, same]
  case isFalse => cases found

/-- An interrupted switch without a rollback file and without a backup had no
old database. -/
theorem Recovering.nothing_before
    (interrupted : value.interruptedAfterSwitch = true) (missing : s.journalBackup value = none) :
    old = none := by
  have switched : value.switched = true := by
    simp only [Journal.interruptedAfterSwitch, Bool.and_eq_true] at interrupted
    exact interrupted.1
  obtain ⟨named, same⟩ := recovering.truthful.switched switched
  rw [UpgradeState.journalBackup, named, if_pos rfl] at missing
  rw [← same, missing]

omit recovering

variable (unfinished : value.stage.terminal = false)
include unfinished

theorem rollBackInterrupted_spec : RecoversTo sqlite descriptor old value
      (fun s => Recovering sqlite descriptor old value s ∧ RecoverableStart old s)
      (rollBackInterrupted sqlite value) := by
  apply Triple.look_bind
  rintro s₀ ⟨recovering, known⟩
  split
  case isTrue switched =>
    simp only [Bool.and_eq_true, isNone_iff_eq_none] at switched
    apply Triple.bind fun _ s => Recovering sqlite descriptor old value s ∧ s.active = none
    · apply Triple.strengthen
      · exact moveActiveAside_spec (fun _ recovering => recovering.clear unfinished)
          (fun _ _ recovering => recovering) fun _ recovering => recovering
      · rintro s rfl
        exact recovering
    · intro _
      apply Triple.mayRaise_bind (fun _ moved => moved.1) (fun _ moved => moved.1)
      apply Triple.look_bind
      rintro s₁ ⟨moved, gone⟩
      cases found : s₁.journalBackup value with
      | some source =>
        apply (restoreFromBackup_spec unfinished (moved.journalBackup found)).strengthen
        rintro s rfl
        exact moved
      | none =>
        exact .pure_exact _ ⟨by decide, moved,
          .inl (gone.trans (moved.nothing_before switched.1 found).symm)⟩
  case isFalse unswitched =>
    split
    case isTrue beside =>
      have same : s₀.rollback = old := by
        rcases recovering.files.rollback with absent | same
        · rw [absent] at beside
          cases beside
        · exact same
      apply Triple.bind fun _ s => Recovering sqlite descriptor old value s ∧ s.rollback = old
      · have moved : Ends
            (fun s => Recovering sqlite descriptor old value s ∧ s.rollback = old) moveActiveAside
            (fun _ s => (Recovering sqlite descriptor old value s ∧ s.rollback = old) ∧
              s.active = none) (Recovering sqlite descriptor old value) :=
          moveActiveAside_spec (fun _ both => ⟨both.1.clear unfinished, both.2⟩)
            (fun _ _ both => both.1) fun _ both => both.1
        apply moved.weaken
        · rintro s rfl
          exact ⟨recovering, same⟩
        · exact fun _ _ moved => moved.1
        · exact fun _ _ recovering => recovering
        · exact fun _ recovering => recovering
      · intro _
        apply Triple.bind fun _ => Recovered sqlite descriptor old value
        · apply Triple.act_ok
          · exact fun _ both => both.1.restore unfinished both.2 (.inl rfl)
          · exact fun _ both => both.1
          · exact fun _ both => both.1
        · exact fun _ => finishRecovery_spec (by decide)
    case isFalse alone =>
      split
      case isTrue gone =>
        cases found : s₀.journalBackup value with
        | some source =>
          apply (restoreFromBackup_spec unfinished (recovering.journalBackup found)).strengthen
          rintro s rfl
          exact recovering
        | none =>
          exact .raise_exact _ recovering
      case isFalse present =>
        apply (finishRecovery_spec (by decide)).strengthen
        rintro s rfl
        refine ⟨recovering, ?_⟩
        simp only [Bool.not_eq_true, isSome_eq_false_iff, isNone_iff_eq_none] at alone
        simp only [isNone_iff_eq_none] at present
        rcases recovering.files.active with absent | consistent | ⟨silent, beside⟩
        · exact absurd absent present
        · exact consistent
        -- Without an old database the switch is known to the journal.
        · rcases known (beside.symm.trans alone) with absent | smoke | ⟨_, journal, switched⟩
          · exact absurd absent present
          · exact absurd smoke silent
          · rw [recovering.journal] at journal
            cases journal
            simp [switched, alone] at unswitched

theorem recoverJournal_spec : RecoversTo sqlite descriptor old value
      (fun s => Recovering sqlite descriptor old value s ∧ RecoverableStart old s)
      (recoverJournal sqlite value) := by
  apply Triple.mayRaise_bind (fun _ both => both.1) (fun _ both => both.1)
  apply Triple.look_bind
  rintro s₀ ⟨recovering, known⟩
  split
  case isTrue validated =>
    simp only [Bool.and_eq_true, decide_eq_true_eq] at validated
    apply (keepNewDatabase_spec unfinished).strengthen
    rintro s rfl
    apply recovering.recovered_of_smoke (recovering.truthful.smoke validated.1)
    intro absent
    rw [absent] at validated
    cases validated.2
  case isFalse =>
    exact (rollBackInterrupted_spec unfinished).from_exact ⟨recovering, known⟩

/-- Writing the result of a recovery; an exception leaves files that can be
recovered again. -/
theorem writeResult_spec (unproved : stage ≠ .smokeValidated) :
    Triple (Recovered sqlite descriptor old value) (writeExistingJournal { value with stage })
      (fun _ => Interrupted sqlite descriptor old)
      (fun _ s => Reliable sqlite descriptor old s ∧ Truthful sqlite descriptor old s value ∧
        Interrupted sqlite descriptor old s)
      (Interrupted sqlite descriptor old) := by
  apply Triple.replaceFile
  · exact fun _ recovered => recovered.write unproved
  · exact fun _ recovered => ⟨recovered.recovering.files, recovered.recovering.truthful,
      recovered.recovering.interrupted⟩
  · intro s recovered
    have written := recovered.write unproved
    exact ⟨written.files, recovered.recovering.truthful.write unfinished _, written⟩
  · exact fun _ recovered => ⟨recovered.recovering.interrupted, recovered.write unproved⟩

omit unfinished

/-- A recovery pass keeps the invariant, however it ends. -/
theorem recoverIncompleteUpgrade_spec :
    Ends (fun s => Interrupted sqlite descriptor old s ∧ RecoverableStart old s)
      (recoverIncompleteUpgrade sqlite) (fun _ => Interrupted sqlite descriptor old)
      (Interrupted sqlite descriptor old) := by
  apply Triple.look_bind
  rintro s₀ ⟨interrupted, known⟩
  have ended : ∀ s, s = s₀ → Interrupted sqlite descriptor old s := by
    rintro s rfl
    exact interrupted
  cases journal : s₀.journal with
  | none => exact .pure _ ended
  | some value =>
    simp only
    split
    case isTrue => exact .pure _ ended
    case isFalse unfinished =>
      have unfinished : value.stage.terminal = false := by simpa using unfinished
      have recovering : Recovering sqlite descriptor old value s₀ :=
        ⟨journal, interrupted.files, interrupted.journal _ journal⟩
      apply Triple.bind fun _ s => s = s₀
      · apply Triple.tryExcept fun _ s => s = s₀
        · exact .bind (fun _ s => s = s₀) (.mayRaise (fun _ same => same) ended)
            fun _ => .pure _ fun _ same => same
        · intro _
          exact .bind (fun _ s => s = s₀) (.mayRaise ended ended) fun _ =>
            .pure _ fun _ same => same
      · intro authorized
        apply Triple.when
        · intro _
          apply Triple.tryExcept fun _ s => Reliable _ _ _ s ∧
            Truthful _ _ _ s _ ∧ Interrupted _ _ _ s
          · apply Triple.mayRaise_bind _ ended
            · apply Triple.bind fun stage s =>
                stage ≠ .smokeValidated ∧ Recovered _ _ _ _ s
              · apply Triple.weaken (recoverJournal_spec unfinished)
                · rintro s rfl
                  exact ⟨recovering, known⟩
                · exact fun _ _ result => result
                · exact fun _ _ again => ⟨again.files, again.truthful, again.interrupted⟩
                · exact fun _ again => again.interrupted
              · intro stage
                by_cases unproved : stage = .smokeValidated
                · exact fun _ result => absurd unproved result.1
                · exact (writeResult_spec unfinished unproved).strengthen fun _ result => result.2
            · rintro s rfl
              exact ⟨recovering.files, recovering.truthful, interrupted⟩
          · intro _
            apply Triple.tryExcept fun _ => Interrupted _ _ _
            · apply Triple.replaceFile
              · exact fun _ again => again.1.fail again.2.1
              · exact fun _ again => again.2.2
              · exact fun _ again => again.1.fail again.2.1
              · exact fun _ again => ⟨again.2.2, again.1.fail again.2.1⟩
            · exact fun _ => .mayRaise (fun _ held => held) fun _ held => held
        · exact fun _ => ended

end Specifications

end NetConsole.DatabaseUpgrade
