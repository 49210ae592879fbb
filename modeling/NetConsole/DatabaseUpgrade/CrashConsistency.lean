import NetConsole.DatabaseUpgrade.UpgradeBody

/-!
# Crash consistency of a database upgrade

`UpgradeConsistent`: after an upgrade that may raise or be cut off anywhere, and
any number of recovery passes that may raise or be cut off anywhere, a state
without anything left to recover has the old database at the active path, or the
validated new one after its smoke test was journaled.

It holds (`upgradeConsistent_of_sound`) unless one of two things happens. When
there was no database before the upgrade, a recovery pass that starts with an
active file needs the switch or the smoke test in the journal: a process that
ends between the switch and its journal entry leaves an unproved database that
recovery keeps (`not_upgradeConsistent_unjournaledSwitch`). And the safety check
of the exception handler accepts every valid active file, also the new one that
the rollback of the adapter failed to move (`SafeToCheck`).
-/

set_option autoImplicit false

namespace NetConsole.DatabaseUpgrade

open Foundations Option

variable {Content : Type}

/-! ## The statement -/

section Statement

variable (sqlite : Sqlite Content) (descriptor : DatabaseDescriptor Content)

/-- Whatever faults the recovery passes meet, each started in a state of
`guard`: when nothing is left to recover, the active database is consistent. -/
def UpgradeConsistent (start : UpgradeState Content) (faults : List Fault)
    (guard : UpgradeState Content → Prop) : Prop :=
  ∀ s, Recoveries sqlite guard ((upgradeLocked sqlite descriptor).run start faults).2 s →
    s.settled → ActiveConsistent sqlite descriptor start.active s

/-- The exception handler of this run comes to
`_restore_active_from_backup_if_needed` in the world `checked`. -/
def ReachesCheck (start : UpgradeState Content) (faults : List Fault)
    (checked : World (UpgradeState Content)) : Prop :=
  ∃ opened raised failed ready error rollbackError,
    update .created id ⟨start, faults⟩ = .ok () opened ∧
    upgradeBody sqlite descriptor opened = .error (.raised error) raised ∧
    update .failed id raised = .ok () failed ∧
    (failed.durable.switchStarted || failed.durable.switched ||
      failed.durable.rollback.isSome) = true ∧
    Proc.when descriptor.closeHook (Proc.mayRaise UpgradeError.osError) failed = .ok () ready ∧
    rollBackSwitch descriptor ready = .ok rollbackError checked

/-- A valid active file is the old database, or its smoke test was journaled. -/
def SafeToCheck (old : Option Content) (s : UpgradeState Content) : Prop :=
  old ≠ none → validateSqlite sqlite s.active = true → s.active = old ∨ s.smokeJournaled

end Statement

/-! ## The exception handler -/

section Handler

variable {sqlite : Sqlite Content} {descriptor : DatabaseDescriptor Content} {old : Option Content}

variable (sqlite descriptor old) in
/-- The handler undoes a switch that has begun. -/
structure Undoing (s : UpgradeState Content) : Prop where
  unfinished : Unfinished sqlite descriptor old s
  started : s.switchStarted = true

variable (sqlite descriptor old) in
/-- A part of the rollback: it may raise anywhere and the handler goes on. -/
def Undoes (procedure : UpgradeProc Content Unit) : Prop :=
  Triple (Undoing sqlite descriptor old) procedure (fun _ => Undoing sqlite descriptor old)
    (fun _ => Undoing sqlite descriptor old) (Interrupted sqlite descriptor old)

variable {s : UpgradeState Content} (undoing : Undoing sqlite descriptor old s)
include undoing

theorem Undoing.interrupted : Interrupted sqlite descriptor old s :=
  undoing.unfinished.running.interrupted

theorem Undoing.move (active shadow rollback retained : Option Content)
    (files : Reliable sqlite descriptor old { s with active, rollback })
    (kept : retained = none ∨ retained = old) :
    Undoing sqlite descriptor old { s with active, shadow, rollback, retained } :=
  ⟨undoing.unfinished.move undoing.started files kept, undoing.started⟩

/-- What stays in the backup directory is the old database. -/
theorem Undoing.retained : s.retained = none ∨ s.retained = old :=
  undoing.unfinished.running.retained undoing.started

omit undoing

theorem Undoes.bind {first : UpgradeProc Content Unit} {next : Unit → UpgradeProc Content Unit}
    (before : Undoes sqlite descriptor old first) (after : Undoes sqlite descriptor old (next ())) :
    Undoes sqlite descriptor old (first >>= next) :=
  Triple.bind _ before fun _ => after

theorem Undoes.look_bind {next : UpgradeState Content → UpgradeProc Content Unit}
    (rest : ∀ s₀, Undoing sqlite descriptor old s₀ → Undoes sqlite descriptor old (next s₀)) :
    Undoes sqlite descriptor old (Proc.look >>= next) := by
  apply Triple.look_bind
  intro s₀ undoing
  exact (rest s₀ undoing).from_exact undoing

variable {error : UpgradeError}

theorem Undoes.mayRaise : Undoes sqlite descriptor old (Proc.mayRaise error) :=
  Triple.mayRaise (fun _ undoing => undoing) fun _ undoing => undoing.interrupted

theorem Undoes.when {condition : Bool} {procedure : UpgradeProc Content Unit}
    (undoes : Undoes sqlite descriptor old procedure) :
    Undoes sqlite descriptor old (Proc.when condition procedure) :=
  Triple.when (fun _ => undoes) fun _ _ undoing => undoing

theorem Undoes.act {change : UpgradeState Content → UpgradeState Content}
    (kept : ∀ s, Undoing sqlite descriptor old s → Undoing sqlite descriptor old (change s)) :
    Undoes sqlite descriptor old (Proc.act error fun s => .ok (change s)) :=
  Triple.act_ok kept (fun _ undoing => undoing) fun _ undoing => undoing.interrupted

/-- The rollback file, or the one in the backup directory, is the old database. -/
theorem restoreRollback_undoes : Undoes sqlite descriptor old restoreRollback := by
  apply Triple.look_bind
  intro s₀ undoing
  have unchanged : ∀ s, s = s₀ → Undoing sqlite descriptor old s := by
    rintro s rfl
    exact undoing
  have cut : ∀ s, s = s₀ → Interrupted sqlite descriptor old s := fun s same =>
    (unchanged s same).interrupted
  split
  case isTrue present =>
    apply Triple.act_ok
    · rintro s rfl
      have same : s.rollback = old := by
        rcases undoing.unfinished.running.files.rollback with absent | same
        · simp [absent] at present
        · exact same
      exact undoing.move s.rollback s.shadow none s.retained
        ⟨.inl rfl, .inr (.inl (.inl same))⟩ undoing.retained
    · exact unchanged
    · exact cut
  case isFalse =>
    apply Triple.when
    · intro present
      apply Triple.act_ok
      · rintro s rfl
        have same : s.retained = old := by
          rcases undoing.retained with absent | same
          · simp [UpgradeState.failureRollback, absent] at present
          · exact same
        exact undoing.move s.retained s.shadow s.rollback none
          ⟨undoing.unfinished.running.files.rollback, .inr (.inl (.inl same))⟩ (.inl rfl)
      · exact unchanged
      · exact cut
    · exact fun _ => unchanged

theorem adapterRollback_undoes : Undoes sqlite descriptor old (adapterRollback descriptor) := by
  apply Undoes.bind .mayRaise
  apply Undoes.look_bind
  intro found _
  apply Undoes.bind
  · apply Undoes.when
    apply Undoes.bind
    · apply Undoes.act
      intro s undoing
      exact undoing.move none s.shadow s.rollback s.retained
        ⟨undoing.unfinished.running.files.rollback, .inl rfl⟩ undoing.retained
    · exact .when .mayRaise
  apply Undoes.bind
  · apply Undoes.when
    apply Undoes.act
    intro s undoing
    exact undoing.move s.active none s.rollback s.retained
      ⟨undoing.unfinished.running.files.rollback, undoing.unfinished.running.files.active⟩
      undoing.retained
  apply Undoes.bind
  · exact .when .mayRaise
  apply Undoes.bind restoreRollback_undoes
  exact .when .mayRaise

theorem rollBackSwitch_spec : Triple (Undoing sqlite descriptor old) (rollBackSwitch descriptor)
      (fun _ => Undoing sqlite descriptor old) (fun _ => Undoing sqlite descriptor old)
      (Interrupted sqlite descriptor old) := by
  apply Triple.tryExcept fun _ => Undoing _ _ old
  · exact .bind _ adapterRollback_undoes fun _ => .pure _ fun _ undoing => undoing
  · exact fun _ => .pure _ fun _ undoing => undoing

/-- A check that succeeds found, or made, a consistent active database. -/
theorem restoreActiveFromBackupIfNeeded_spec : Upgrades sqlite descriptor old
      (fun s => Undoing sqlite descriptor old s ∧ SafeToCheck sqlite old s)
      (restoreActiveFromBackupIfNeeded sqlite) (fun restored s => Undoing sqlite descriptor old s ∧
        (restored = true → ActiveConsistent sqlite descriptor old s)) := by
  apply Triple.look_bind
  rintro s₀ ⟨undoing, safe⟩
  have running := undoing.unfinished.running
  obtain ⟨result, made⟩ := isSome_iff_exists.mp (running.started undoing.started).1
  obtain ⟨existed, _, _⟩ := running.result result made
  have backup : s₀.failureBackup = old := by
    rw [UpgradeState.failureBackup, made, isSome_some, if_pos rfl]
    exact (running.started undoing.started).2.1
  rw [made, any_some, existed]
  split
  case isTrue absent =>
    apply Triple.pure_exact
    refine ⟨undoing, fun gone => .inl ?_⟩
    rw [isNone_iff_eq_none.mp gone]
    cases old with
    | none => rfl
    | some _ => cases absent
  case isFalse present =>
    have present : old ≠ none := by
      rintro rfl
      exact present rfl
    apply Triple.bind fun _ s => s = s₀
    · apply Triple.when
      · intro _
        apply Triple.mayRaise
        · rintro s rfl
          exact running
        · rintro s rfl
          exact running.interrupted
      · exact fun _ _ same => same
    intro _
    split
    case isTrue valid =>
      apply Triple.pure_exact
      refine ⟨undoing, fun _ => ?_⟩
      rcases safe present valid with same | smoke
      · exact .inl same
      · rcases running.files.active with gone | consistent | ⟨silent, _⟩
        · rw [gone] at valid
          cases valid
        · exact consistent
        · exact absurd smoke silent
    case isFalse =>
      split
      · exact .pure_exact _ ⟨undoing, fun restored => by cases restored⟩
      · apply Triple.bind fun copied s => Undoing _ _ old s ∧
          (copied = true → s.active = old)
        · apply Triple.tryExcept fun _ => Undoing _ _ old
          · apply Triple.bind fun _ s => Undoing sqlite descriptor old s ∧ s.active = old
            · apply sqliteBackup_spec
              · rintro content source s rfl
                have same : some content = old := by rw [← source, backup]
                exact ⟨undoing.move (some content) s.shadow s.rollback s.retained
                  ⟨running.files.rollback, .inr (.inl (.inl same))⟩ undoing.retained, same⟩
              · rintro _ s rfl
                exact undoing
              · exact fun _ _ both => both.1
              · rintro s rfl
                exact running.interrupted
              · exact fun _ both => both.1.interrupted
            · exact fun _ => .pure _ fun _ both => ⟨both.1, fun _ => both.2⟩
          · exact fun _ => .pure _ fun _ undoing => ⟨undoing, fun copied => by cases copied⟩
        · intro copied
          cases copied with
          | false => exact .pure _ fun _ both => ⟨both.1, fun restored => by cases restored⟩
          | true =>
            apply Triple.mayRaise_bind
            · exact fun _ both => both.1.unfinished.running
            · exact fun _ both => both.1.interrupted
            apply Triple.look_bind
            intro s₁ both
            exact .pure_exact _ ⟨both.1, fun _ => .inl (both.2 rfl)⟩

theorem updateRolledBack_spec {stage : Stage} : Upgrades sqlite descriptor old
      (fun s => Running sqlite descriptor old s ∧ ActiveConsistent sqlite descriptor old s)
      (update stage id) (fun _ => Running sqlite descriptor old) := by
  apply update_spec
  · exact fun _ both => both.1
  · exact fun _ both => both.1.fieldsKnown_id
  · exact fun s both _ => both.2.write (s.withData stage id).data
  · exact fun s both => both.1.updated stage both.1.fieldsKnown_id fun _ =>
      both.2.write (s.withData stage id).data

variable {world : World (UpgradeState Content)}

theorem rollBackUpgrade_meets (undoing : Undoing sqlite descriptor old world.durable)
    (safe : ∀ ready rollbackError checked,
      Proc.when descriptor.closeHook (Proc.mayRaise UpgradeError.osError) world = .ok () ready →
      rollBackSwitch descriptor ready = .ok rollbackError checked →
      SafeToCheck sqlite old checked.durable) :
    Meets (rollBackUpgrade sqlite descriptor) (fun _ => Running sqlite descriptor old)
      (fun _ => Running sqlite descriptor old) (Interrupted sqlite descriptor old) world := by
  have running : ∀ (e : UpgradeError) s, Undoing sqlite descriptor old s →
      Running sqlite descriptor old s := fun _ _ undoing => undoing.unfinished.running
  apply Meets.bind fun _ => Undoing _ _ old
  · exact (Undoes.when .mayRaise world undoing).weaken (fun _ _ undoing => undoing) running
      fun _ cut => cut
  intro _ ready closed undoing
  apply Meets.bind fun _ => Undoing sqlite descriptor old
  · exact (rollBackSwitch_spec ready undoing).weaken (fun _ _ undoing => undoing) running
      fun _ cut => cut
  intro rollbackError checked rolledBack undoing
  have check := safe ready rollbackError checked closed rolledBack
  apply Meets.bind _ (restoreActiveFromBackupIfNeeded_spec checked ⟨undoing, check⟩)
  intro restored world' _ after
  apply Meets.bind fun _ s => Running _ _ old s ∧ ActiveConsistent _ _ old s
  · cases restored with
    | true => exact ⟨after.1.unfinished.running, after.2 rfl⟩
    | false => exact after.1.unfinished.running
  · exact fun _ world' _ both => updateRolledBack_spec world' both

variable (sqlite descriptor old) in
/-- Nothing has moved: the old database is at its place. -/
structure Unmoved (s : UpgradeState Content) : Prop where
  running : Running sqlite descriptor old s
  unstarted : s.switchStarted = false

theorem Unmoved.updated (unmoved : Unmoved sqlite descriptor old s) (stage : Stage) :
    Unmoved sqlite descriptor old (s.updated stage id) :=
  ⟨unmoved.running.updated stage unmoved.running.fieldsKnown_id fun _ =>
    .inl (unmoved.running.unstarted unmoved.unstarted).1, unmoved.unstarted⟩

theorem updateUnmoved_spec (stage : Stage) :
    Triple (Unmoved sqlite descriptor old) (update stage id)
      (fun _ => Unmoved sqlite descriptor old) (fun _ => Unmoved sqlite descriptor old)
      (Interrupted sqlite descriptor old) := by
  apply update_triple
  · exact fun s unmoved => unmoved.updated stage
  · intro s unmoved
    have entered := unmoved.running.withData stage unmoved.running.fieldsKnown_id
    exact ⟨⟨entered, unmoved.unstarted⟩, entered.interrupted⟩
  · exact fun s unmoved => ⟨unmoved.updated stage, (unmoved.updated stage).running.interrupted⟩

/-- The shadow is put aside; the old database never moved. -/
theorem discardUpgrade_spec :
    Triple (fun s => Unfinished sqlite descriptor old s ∧ s.switchStarted = false)
      (discardUpgrade descriptor) (fun _ => Unmoved sqlite descriptor old)
      (fun _ => Unmoved sqlite descriptor old) (Interrupted sqlite descriptor old) := by
  have unmoved : ∀ s, Unfinished sqlite descriptor old s ∧ s.switchStarted = false →
      Unmoved sqlite descriptor old s := fun s both => ⟨both.1.running, both.2⟩
  have cut : ∀ s, Unfinished sqlite descriptor old s ∧ s.switchStarted = false →
      Interrupted sqlite descriptor old s := fun s both => both.1.running.interrupted
  have discarded : Triple (fun s => Unfinished sqlite descriptor old s ∧ s.switchStarted = false)
      (discardShadow descriptor) (fun _ => Unmoved sqlite descriptor old)
      (fun _ => Unmoved sqlite descriptor old) (Interrupted sqlite descriptor old) := by
    apply Triple.mayRaise_bind
    · exact unmoved
    · exact cut
    apply Triple.look_bind
    intro s₀ entry
    apply Triple.bind fun _ => Unmoved sqlite descriptor old
    · apply Triple.when
      · intro _
        apply Triple.act_ok
        · rintro s rfl
          exact ⟨(entry.1.setLocals none s.shadowParsed s.closed s.reopened).running, entry.2⟩
        · rintro s rfl
          exact unmoved s entry
        · rintro s rfl
          exact cut s entry
      · rintro _ s rfl
        exact unmoved s entry
    · intro _
      apply Triple.when
      · exact fun _ => .mayRaise (fun _ unmoved => unmoved) fun _ unmoved =>
          unmoved.running.interrupted
      · exact fun _ _ unmoved => unmoved
  apply Triple.look_bind
  intro s₀ entry
  have exactly : ∀ s, s = s₀ → Unfinished sqlite descriptor old s ∧ s.switchStarted = false := by
    rintro s rfl
    exact entry
  split
  · apply Triple.tryExcept fun _ => Unmoved sqlite descriptor old
    · exact .bind _ (discarded.strengthen exactly) fun _ => updateUnmoved_spec _
    · exact fun _ => updateUnmoved_spec _
  · exact (updateUnmoved_spec _).strengthen fun s same => unmoved s (exactly s same)

theorem Running.started_of_files (running : Running sqlite descriptor old s)
    (files : (s.switchStarted || s.switched || s.rollback.isSome) = true) :
    s.switchStarted = true := by
  cases started : s.switchStarted with
  | true => rfl
  | false =>
    obtain ⟨_, alone, unswitched⟩ := running.unstarted started
    simp [started, alone, unswitched] at files

theorem rollBackOrDiscard_meets (unfinished : Unfinished sqlite descriptor old world.durable)
    (safe : (world.durable.switchStarted || world.durable.switched ||
        world.durable.rollback.isSome) = true → ∀ ready rollbackError checked,
      Proc.when descriptor.closeHook (Proc.mayRaise UpgradeError.osError) world = .ok () ready →
      rollBackSwitch descriptor ready = .ok rollbackError checked →
      SafeToCheck sqlite old checked.durable) :
    Meets (rollBackOrDiscard sqlite descriptor) (fun _ => Running sqlite descriptor old)
      (fun _ => Running sqlite descriptor old) (Interrupted sqlite descriptor old) world := by
  apply Meets.look_bind
  split
  case isTrue files =>
    exact rollBackUpgrade_meets ⟨unfinished, unfinished.running.started_of_files files⟩ (safe files)
  case isFalse quiet =>
    have unstarted : world.durable.switchStarted = false := by
      simp only [Bool.or_eq_true, not_or, Bool.not_eq_true] at quiet
      exact quiet.1.1
    exact (discardUpgrade_spec world ⟨unfinished, unstarted⟩).weaken
      (fun _ _ unmoved => unmoved.running) (fun _ _ unmoved => unmoved.running) fun _ cut => cut

theorem updateFailed_spec {stage : Stage} (plain : stage.plain) :
    Upgrades sqlite descriptor old (Running sqlite descriptor old) (update stage id)
      (fun _ => Unfinished sqlite descriptor old) := by
  have updated : Upgrades sqlite descriptor old (fun s => Running sqlite descriptor old s ∧ True)
      (update stage id) (fun _ s => Unfinished _ _ old s ∧ True) :=
    update_plain plain (fun _ running _ => running.fieldsKnown_id) fun _ _ => trivial
  exact updated.weaken (fun _ running => ⟨running, trivial⟩) (fun _ _ both => both.1)
    (fun _ _ running => running) fun _ cut => cut

theorem handleUpgradeError_meets (running : Running sqlite descriptor old world.durable)
    (safe : ∀ failed ready rollbackError checked, update .failed id world = .ok () failed →
      (failed.durable.switchStarted || failed.durable.switched ||
        failed.durable.rollback.isSome) = true →
      Proc.when descriptor.closeHook (Proc.mayRaise UpgradeError.osError) failed = .ok () ready →
      rollBackSwitch descriptor ready = .ok rollbackError checked →
      SafeToCheck sqlite old checked.durable) :
    Meets (handleUpgradeError sqlite descriptor error) (fun _ => Running sqlite descriptor old)
      (fun _ => Running sqlite descriptor old) (Interrupted sqlite descriptor old) world := by
  apply Meets.bind _ (updateFailed_spec ⟨by decide, rfl⟩ world running)
  intro _ failed journaled unfinished
  apply Meets.bind fun _ => Running _ _ old
  · have hooked : Upgrades sqlite descriptor old (Running sqlite descriptor old)
        (do
          let s ← Proc.look
          Proc.when (descriptor.reopenHook && s.closed && (!s.reopened || s.switched))
            (Proc.mayRaise UpgradeError.osError))
        (fun _ => Running sqlite descriptor old) := by
      apply Triple.look_bind
      intro s₀ running
      apply Triple.strengthen _ fun s same => show Running _ _ old s by rw [same]; exact running
      apply Triple.when
      · exact fun _ => .mayRaise (fun _ running => running) fun _ running => running.interrupted
      · exact fun _ _ running => running
    apply Meets.tryFinally (fun _ => Running _ _ old) (fun _ => Running _ _ old)
    · apply Meets.tryExcept fun _ => Running _ _ old
      · exact rollBackOrDiscard_meets unfinished fun files ready rollbackError checked =>
          safe failed ready rollbackError checked journaled files
      · intro _ world' _ running
        apply Meets.bind _ (updateFailed_spec ⟨by decide, rfl⟩ world' running)
        exact fun _ _ _ unfinished => unfinished.running
    · exact fun _ => hooked
    · exact fun _ => hooked
  · exact fun _ _ _ running => running

end Handler

/-! ## The theorem -/

section Theorem

variable {sqlite : Sqlite Content} {descriptor : DatabaseDescriptor Content}

theorem upgradeLocked_meets (active shadow backup retained : Option Content) (faults : List Fault)
    (safe : ∀ checked,
      ReachesCheck sqlite descriptor (.start active shadow none backup retained) faults checked →
      SafeToCheck sqlite active checked.durable) :
    Meets (upgradeLocked sqlite descriptor) (fun _ => Running sqlite descriptor active)
      (fun _ => Running sqlite descriptor active) (Interrupted sqlite descriptor active)
      ⟨.start active shadow none backup retained, faults⟩ := by
  have running : Running sqlite descriptor active (.start active shadow none backup retained) :=
    { files := ⟨.inl rfl, .inr (.inl (.inl rfl))⟩
      journal _ held := by cases held
      unwritten _ := rfl
      data := ⟨fun named => (by cases named), fun switched => (by cases switched)⟩
      result _ made := by cases made
      started started := by cases started
      unstarted _ := ⟨rfl, rfl, rfl⟩ }
  have fresh : Fresh (.start active shadow none backup retained : UpgradeState Content) :=
    ⟨⟨by simp [UpgradeState.smokeJournaled, UpgradeState.start], rfl⟩, rfl⟩
  have plain : Stage.plain .created := ⟨by decide, rfl⟩
  apply Meets.bind fun _ => During _ _ active Fresh
  · exact update_plain plain (fun _ running _ => running.fieldsKnown_id)
      (fun _ fresh => fresh.updated plain id) _ ⟨running, fresh⟩
  intro _ opened created during
  apply Meets.tryExcept _ (upgradeBody_spec opened during)
  intro error raised thrown running
  apply handleUpgradeError_meets running
  intro failed ready rollbackError checked journaled files closed rolledBack
  exact safe checked ⟨opened, raised, failed, ready, error, rollbackError, created, thrown,
    journaled, files, closed, rolledBack⟩

/-- When the exception handler is safe to check and every recovery pass is safe
to start, whatever is left to be found is the old database or the validated new
one. -/
theorem upgradeConsistent_of_sound (sqlite : Sqlite Content)
    (descriptor : DatabaseDescriptor Content) (active shadow backup retained : Option Content)
    (faults : List Fault) (safe : ∀ checked,
      ReachesCheck sqlite descriptor (.start active shadow none backup retained) faults checked →
      SafeToCheck sqlite active checked.durable) :
    UpgradeConsistent sqlite descriptor (.start active shadow none backup retained) faults
      (RecoverableStart active) := by
  intro s recoveries settled
  have interrupted : Interrupted sqlite descriptor active s := by
    clear settled
    induction recoveries with
    | start =>
      have ended := upgradeLocked_meets active shadow backup retained faults safe
      exact (ended.weaken (fun _ _ running => running.interrupted)
        (fun _ _ running => running.interrupted) fun _ cut => cut).keeps
    | pass earlier within faults ih =>
      exact Meets.keeps (recoverIncompleteUpgrade_spec ⟨_, faults⟩ ⟨ih, within⟩)
  cases journal : s.journal with
  | none => exact .inl (interrupted.unwritten journal)
  | some value => exact (interrupted.journal value journal).settled (settled value journal)

end Theorem

/-! ## Two runs -/

/-- Databases that are numbers, all of them valid. -/
def sampleSqlite : Sqlite Nat where
  sizeBytes _ := 1
  quickCheck _ := true
  integrityCheck _ := true

/-- The restoration of a backup with the content 7. -/
def sampleRestore : DatabaseDescriptor Nat where
  manualIntervention := false
  closeHook := false
  reopenHook := false
  adapter := backupRestoreAdapter 7
  versionMatches _ := true
  smokeTest := validateSqlite sampleSqlite
  findReusable _ := none

/-- There is no database at the path that is restored. -/
def absentStart : UpgradeState Nat := .start none none none none none

/-- The process ends after the shadow became the active file, before the switch
is journaled. -/
def unjournaledSwitch : List Fault := List.replicate 35 .proceed ++ [.crash]

/-- The recovery keeps the new database, which no smoke test has seen. -/
theorem recovery_of_unjournaledSwitch :
    let after := ((recoverIncompleteUpgrade sampleSqlite).run
      ((upgradeLocked sampleSqlite sampleRestore).run absentStart unjournaledSwitch).2 []).2
    after.active = some 7 ∧
      after.journal = some { stage := .recoveredNoSwitch, switched := false, backupPath := true } ∧
      .smokeValidated ∉ after.journaled ∧ .completed ∉ after.journaled := by
  decide +kernel

/-- The upgrade is not crash consistent: an interrupted first installation leaves
a database that was never validated in place. -/
theorem not_upgradeConsistent_unjournaledSwitch :
    ¬UpgradeConsistent sampleSqlite sampleRestore absentStart unjournaledSwitch fun _ => True := by
  intro consistent
  have recovered := recovery_of_unjournaledSwitch
  have pass : Recoveries sampleSqlite (fun _ => True)
      ((upgradeLocked sampleSqlite sampleRestore).run absentStart unjournaledSwitch).2 _ :=
    .pass .start trivial []
  generalize ((recoverIncompleteUpgrade sampleSqlite).run
    ((upgradeLocked sampleSqlite sampleRestore).run absentStart unjournaledSwitch).2 []).2 = after
    at recovered pass
  obtain ⟨active, journal, validated, completed⟩ := recovered
  have settled : after.settled := by
    intro value held
    rw [journal] at held
    cases held
    rfl
  rcases consistent after pass settled with absent | ⟨smoke | smoke, _⟩
  · rw [active] at absent
    cases absent
  · exact validated smoke
  · exact completed smoke

/-- The database 3 is there before the upgrade. -/
def presentStart : UpgradeState Nat := .start (some 3) none none none none

/-- The process ends between the two renames of the switch. -/
def cutBetweenRenames : List Fault := List.replicate 38 .proceed ++ [.crash]

/-- That leaves nothing at the active path, and the recovery puts the old
database back. -/
theorem upgradeConsistent_cutBetweenRenames :
    ((upgradeLocked sampleSqlite sampleRestore).run presentStart cutBetweenRenames).2.active =
        none ∧
      UpgradeConsistent sampleSqlite sampleRestore presentStart cutBetweenRenames
        (RecoverableStart (some 3)) := by
  have unraised : (match update .created id ⟨presentStart, cutBetweenRenames⟩ with
      | .ok _ opened =>
        match upgradeBody sampleSqlite sampleRestore opened with
        | .error (.raised _) _ => false
        | _ => true
      | _ => true) = true := by decide +kernel
  refine ⟨by decide +kernel, upgradeConsistent_of_sound sampleSqlite sampleRestore (some 3) none
    none none cutBetweenRenames ?_⟩
  rintro checked ⟨opened, raised, _, _, error, _, created, thrown, _⟩
  change update .created id ⟨presentStart, cutBetweenRenames⟩ = _ at created
  rw [created] at unraised
  simp only [thrown] at unraised
  cases unraised

end NetConsole.DatabaseUpgrade
