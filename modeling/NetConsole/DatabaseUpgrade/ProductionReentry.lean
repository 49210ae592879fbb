import NetConsole.DatabaseUpgrade.ProductionRecovery

/-!
# A production recovery can be repeated

A recovery that is cut off leaves the rollback database as it was, and at the name of the
restoration file nothing or a whole copy of it (`Ready`). So the next recovery finds what
the first one found, and ends with the rollback database at the active path
(`recoveries_restore`).

The restored file has to have the digest of the rollback database. The Backup API gives
its copy a header of its own, so only a rollback database that is such a copy itself is
copied byte by byte (`Verified.copied`).

The recovery does not replace an active database that has data in its `-wal` file. For
such a database the next start fails again, with or without an interruption
(`not_recoversAgain`).
-/

set_option autoImplicit false

namespace NetConsole.DatabaseUpgrade.Production

open Foundations

variable {Content : Type}

/-! ## What a recovery needs -/

section Conditions

variable (installation : Installation) (sqlite : SqliteFiles Content)

/-- The owner describes the rollback database, which is intact, and the paths of the
switched journal are where they may be. -/
structure Verified (value : Journal) (content : Content) (state : State Content) : Prop where
  switched : value.switched = true
  rollback : state.rollback = some content
  intact : validateSqlite sqlite.toSqlite (some content) = true
  /-- As for a database that the Backup API has written. -/
  copied : sqlite.backupCopy content = content
  owned : ∃ path binding expectedSize profile,
    registeredRollback installation value = .ok (path, binding, expectedSize) ∧
      checkRollback sqlite binding expectedSize state = .ok profile ∧
      ∃ active, controlledPath installation value.activePath "active_path" = .ok active ∧
        active ≠ path
  backups : ∃ directory, backupDirectory installation value = .ok directory

/-- `sqlite_backup` can copy the content. -/
def Copyable (content : Content) : Prop :=
  sqlite.sizeBytes content ≠ 0 ∧ sqlite.readable content = true ∧
    sqlite.sizeBytes (sqlite.backupCopy content) ≠ 0

/-- What a recovery needs, and leaves for the next one. -/
structure Ready (value : Journal) (content : Content) (state : State Content) : Prop where
  verified : Verified installation sqlite value content state
  restoration : state.restoration = none ∨ state.restoration = some content
  activeWal : state.activeWal = 0
  active : ∀ found, state.active = some found → Copyable sqlite found

/-- The rollback database is at the active path, and no recovery is left to do. -/
def Restored (content : Content) (state : State Content) : Prop :=
  state.active = some content ∧ state.rollback = some content ∧
    ∃ value, state.journal = some value ∧ value.stage = .recoveredProductionRollback

/-- A recovery is still to do, or done. -/
inductive Interrupted (content : Content) (state : State Content) : Prop
  | unfinished (value : Journal) (journal : state.journal = some value)
      (pending : value.stage.terminal = false)
      (ready : Ready installation sqlite value content state)
  | finished (restored : Restored content state)

end Conditions

variable {installation : Installation} {sqlite : SqliteFiles Content} {value : Journal}
  {content : Content} {state : State Content}

/-! ## The rollback database -/

variable {profile : QuickProfile}

theorem copyable_of_profile (profiled : sqliteQuickProfile sqlite (some content) = .ok profile)
    (valid : profile.valid = true) (copied : sqlite.backupCopy content = content) :
    Copyable sqlite content := by
  unfold sqliteQuickProfile at profiled
  simp only at profiled
  split at profiled
  · cases profiled
    cases valid
  · next size =>
    split at profiled
    · cases profiled
    · next readable => exact ⟨size, by simpa using readable, by rwa [copied]⟩

/-- An accepted rollback database has the profile that the restored files are compared
with. -/
theorem profile_of_checkRollback {binding : RollbackBinding} {expectedSize : Int}
    (accepted : checkRollback sqlite binding expectedSize state = .ok profile) :
    sqliteQuickProfile sqlite state.rollback = .ok profile ∧ profile.valid = true := by
  unfold checkRollback at accepted
  split at accepted
  · cases accepted
  · split at accepted
    · cases accepted
    · next found profiled =>
      split at accepted
      · cases accepted
      · next same =>
        cases accepted
        simp only [Bool.or_eq_true, not_or, Bool.not_eq_true', Bool.not_eq_false] at same
        exact ⟨profiled, same.1.1.1⟩

theorem Verified.copyable (verified : Verified installation sqlite value content state) :
    Copyable sqlite content := by
  obtain ⟨_, _, _, _, -, accepted, -⟩ := verified.owned
  obtain ⟨profiled, valid⟩ := profile_of_checkRollback accepted
  rw [verified.rollback] at profiled
  exact copyable_of_profile profiled valid verified.copied

/-! ## What the steps keep -/

variable (ready : Ready installation sqlite value content state)
include ready

/-- Another entry for the same operation. -/
theorem Ready.entry (stage : Stage) (status : String) (error : Option RecoveryError)
    (result : Option RecoveryResult) :
    Ready installation sqlite
      { value with stage := stage, status := status, recoveryError := error, result := result }
      content state := by
  obtain ⟨⟨switched, rollback, intact, copied, owned, backups⟩, restoration, activeWal, active⟩ :=
    ready
  exact ⟨⟨switched, rollback, intact, copied, owned, backups⟩, restoration, activeWal, active⟩

/-- The files do not depend on what the journal file says. -/
theorem Ready.write (entry : Journal) :
    Ready installation sqlite value content { state with journal := some entry } := by
  obtain ⟨⟨switched, rollback, intact, copied, owned, backups⟩, restoration, activeWal, active⟩ :=
    ready
  exact ⟨⟨switched, rollback, intact, copied, owned, backups⟩, restoration, activeWal, active⟩

/-- The files that a recovery changes. -/
theorem Ready.files {active restoration : Option Content} (copies : List Content)
    (whole : restoration = none ∨ restoration = some content)
    (kept : active = state.active ∨ active = some content) : Ready installation sqlite value content
      { state with active := active, restoration := restoration, failedCopies := copies } := by
  have copyable := ready.verified.copyable
  obtain ⟨⟨switched, rollback, intact, copied, owned, backups⟩, -, activeWal, found⟩ := ready
  refine ⟨⟨switched, rollback, intact, copied, owned, backups⟩, whole,
    activeWal, fun other has => ?_⟩
  rcases kept with same | restored
  · exact found other (same.symm.trans has)
  · obtain rfl := Option.some.inj (restored.symm.trans has)
    exact copyable

omit ready

section Steps

variable (installation sqlite value content)

/-- The state while the journal is recovered. -/
def Working (state : State Content) : Prop :=
  state.journal = some value ∧ Ready installation sqlite value content state

/-- The procedure works on the journal, however it ends. -/
def Works {α : Type} (before : State Content → Prop) (procedure : RecoveryProc Content α)
    (returns : α → State Content → Prop) : Prop :=
  Triple before procedure returns (fun _ => Working installation sqlite value content)
    (Working installation sqlite value content)

/-- The procedure works on the journal, and nothing but a fault stops it. -/
def Accomplishes {α : Type} (before : State Content → Prop) (procedure : RecoveryProc Content α)
    (returns : α → State Content → Prop) : Prop :=
  Assured before procedure returns (fun _ => Working installation sqlite value content)
    (Working installation sqlite value content)

variable {installation sqlite value content} {before : State Content → Prop}

/-- A copy is made or not, and both are states to work on. -/
theorem sqliteBackup_works {after : State Content → Prop}
    {put : Content → State Content → State Content} {copied : Content}
    (copyable : Copyable sqlite copied)
    (done : ∀ state, before state → after (put (sqlite.backupCopy copied) state))
    (working : ∀ state, before state → Working installation sqlite value content state)
    (working' : ∀ state, after state → Working installation sqlite value content state) :
    Accomplishes installation sqlite value content before (sqliteBackup sqlite (some copied) put)
      fun _ => after := by
  obtain ⟨size, readable, written⟩ := copyable
  simp only [sqliteBackup, if_neg size, readable]
  refine .bind _ (.mayRaise working working) fun _ => ?_
  refine .bind (fun _ => before) (.when (fun unreadable => by cases unreadable) ?_) fun _ => ?_
  · exact fun _ _ entry => entry
  refine .bind (fun _ => before) (.when (fun empty => ?_) ?_) fun _ => ?_
  · exact absurd (of_decide_eq_true empty) written
  · exact fun _ _ entry => entry
  · exact .replaceFile done working (fun state entry => working' _ (done state entry))
      fun state entry => ⟨working state entry, working' _ (done state entry)⟩

/-- A copy of the rollback database passes the comparison. -/
theorem verifyRestored_works {file : State Content → Option Content} {profile : QuickProfile}
    (intact : validateSqlite sqlite.toSqlite (some content) = true)
    (profiled : sqliteQuickProfile sqlite (some content) = .ok profile)
    (valid : profile.valid = true) (copy : ∀ state, before state → file state = some content)
    (working : ∀ state, before state → Working installation sqlite value content state) :
    Accomplishes installation sqlite value content before (verifyRestored sqlite file profile)
      fun _ => before := by
  refine .bind _ (.mayRaise working working) fun _ => .look_bind fun state entry => ?_
  rw [copy state entry]
  refine .bind (fun restored found => restored = profile ∧ found = state)
    (.ofExcept profiled fun _ same => ⟨rfl, same⟩) fun restored => .of_exact ?_
  rintro found ⟨rfl, rfl⟩
  refine .when (fun differs => ?_) fun _ _ same => same ▸ entry
  simp [valid, intact] at differs

theorem prepareRestoration_works :
    Accomplishes installation sqlite value content (Working installation sqlite value content)
      (prepareRestoration sqlite) fun _ state => Working installation sqlite value content state ∧
        state.restoration = some content := by
  refine .look_bind fun state working => .when ?_ ?_
  · intro _
    rw [working.2.verified.rollback]
    apply sqliteBackup_works working.2.verified.copyable
    · rintro found rfl
      rw [working.2.verified.copied]
      exact ⟨⟨working.1, working.2.files _ (.inr rfl) (.inl rfl)⟩, rfl⟩
    · rintro found rfl
      exact working
    · exact fun _ both => both.1
  · rintro present found rfl
    refine ⟨working, working.2.restoration.resolve_left fun absent => ?_⟩
    rw [absent] at present
    cases present

theorem keepActive_works : Accomplishes installation sqlite value content
      (fun state => Working installation sqlite value content state ∧
        state.restoration = some content)
      (keepActive sqlite) fun _ state => Working installation sqlite value content state ∧
        state.restoration = some content := by
  refine .look_bind fun state both => .when (fun present => ?_) ?_
  · have working : ∀ found, found = state → Working installation sqlite value content found := by
      rintro found rfl
      exact both.1
    refine .bind (fun _ found => found = state) (.when (fun data => ?_) ?_) fun _ => ?_
    · simp [both.1.2.activeWal] at data
    · exact fun _ _ same => same
    · obtain ⟨active, has⟩ := Option.isSome_iff_exists.mp present
      rw [has]
      apply sqliteBackup_works (both.1.2.active active has)
      · rintro found rfl
        exact ⟨⟨both.1.1, both.1.2.files _ (.inr both.2) (.inl rfl)⟩, both.2⟩
      · exact working
      · exact fun _ both => both.1
  · rintro _ found rfl
    exact both

theorem replaceActive_works : Accomplishes installation sqlite value content
      (fun state => Working installation sqlite value content state ∧
        state.restoration = some content)
      replaceActive fun _ state => Working installation sqlite value content state ∧
        state.active = some content := by
  refine .act (fun state both => ⟨{ state with active := some content, restoration := none }, ?_,
    ⟨both.1.1, both.1.2.files _ (.inl rfl) (.inr rfl)⟩, rfl⟩) (fun _ both => both.1)
      fun _ both => both.1
  rw [both.2]

/-- What the recovery of the journal promises: where all is ready, the rollback database
comes back. -/
theorem restoreRollback_works :
    Accomplishes installation sqlite value content (Working installation sqlite value content)
      (restoreRollback installation sqlite value)
      fun result state => Working installation sqlite value content state ∧
        state.active = some content ∧ result.stage = .recoveredProductionRollback := by
  refine .of_exact fun state entry => ?_
  have verified := entry.2.verified
  obtain ⟨_, _, _, _, registered, checked, active, controlled, differs⟩ :=
    verified.owned
  obtain ⟨_, backups⟩ := verified.backups
  obtain ⟨profiled, valid⟩ := profile_of_checkRollback checked
  rw [verified.rollback] at profiled
  have working : ∀ found, found = state → Working installation sqlite value content found := by
    rintro found rfl
    exact entry
  refine .bind _ (.mayRaise working working) fun _ => .look_bind fun found same => ?_
  obtain rfl := same
  have reads {α β : Type} {result : Except RecoveryError α} {read : α}
      {next : α → RecoveryProc Content β} {returns : β → State Content → Prop}
      (ended : result = .ok read)
      (rest : Accomplishes installation sqlite value content (· = found) (next read) returns) :
      Accomplishes installation sqlite value content (· = found)
        (Proc.ofExcept result >>= next) returns := by
    subst ended
    exact rest
  refine reads registered (reads checked (reads controlled ?_))
  refine .bind (fun _ state => state = found) (.when (fun same => ?_) fun _ _ same => same)
    fun _ => reads backups ?_
  · exact absurd (of_decide_eq_true same) differs
  refine .bind _ (.mayRaise working working) fun _ => ?_
  refine .bind _ (prepareRestoration_works.strengthen working) fun _ => ?_
  refine .bind _ (verifyRestored_works verified.intact profiled valid (fun _ held => held.2)
    fun _ held => held.1) fun _ => ?_
  refine .bind _ keepActive_works fun _ => ?_
  refine .bind _ replaceActive_works fun _ => ?_
  refine .bind _ (verifyRestored_works verified.intact profiled valid (fun _ held => held.2)
    fun _ held => held.1) fun _ => ?_
  exact .pure _ fun _ both => ⟨both.1, both.2, rfl⟩

theorem recoverProductionJournal_works :
    Accomplishes installation sqlite value content (Working installation sqlite value content)
      (recoverProductionJournal installation sqlite value)
      fun result state => Working installation sqlite value content state ∧
        state.active = some content ∧ result.stage = .recoveredProductionRollback := by
  refine .of_exact fun state working => ?_
  rw [recoverProductionJournal, if_pos working.2.verified.switched]
  exact restoreRollback_works.strengthen fun _ same => same ▸ working

theorem attemptRecovery_works :
    Works installation sqlite value content (Working installation sqlite value content)
      (attemptRecovery installation sqlite value)
      fun outcome state => Working installation sqlite value content state ∧
        ∀ result, outcome = .ok result →
          state.active = some content ∧ result.stage = .recoveredProductionRollback := by
  refine .tryExcept (fun _ => Working installation sqlite value content) ?_ ?_
  · refine .bind _ (.mayRaise (fun _ working => working) fun _ working => working) fun _ => ?_
    refine .bind _ recoverProductionJournal_works.triple fun result => .pure _ fun state ended => ?_
    refine ⟨ended.1, fun found same => ?_⟩
    cases same
    exact ended.2
  · exact fun _ => .pure _ fun _ working => ⟨working, fun _ same => by cases same⟩

end Steps

/-! ## A whole recovery -/

theorem Working.interrupted (working : Working installation sqlite value content state)
    (pending : value.stage.terminal = false) : Interrupted installation sqlite content state :=
  .unfinished value working.1 pending working.2

/-- The entry of a failed recovery is not a terminal one. -/
theorem Ready.fail (ready : Ready installation sqlite value content state) (error : RecoveryError) :
    Interrupted installation sqlite content { state with journal := some (value.fail error) } :=
  .unfinished (value.fail error) rfl rfl ((ready.entry _ _ _ _).write _)

theorem recordFailure_keeps (error : RecoveryError) :
    Ends (fun state => Ready installation sqlite value content state ∧
        Interrupted installation sqlite content state)
      (recordFailure value error) (fun _ => Interrupted installation sqlite content)
      (Interrupted installation sqlite content) := by
  refine .tryExcept (fun _ => Interrupted installation sqlite content) ?_ ?_
  · exact .replaceFile (fun _ both => both.1.fail error) (fun _ both => both.2)
      (fun _ both => both.1.fail error) fun _ both => ⟨both.2, both.1.fail error⟩
  · exact fun _ => .mayRaise (fun _ held => held) fun _ held => held

theorem writeResult_keeps {result : RecoveryResult} (pending : value.stage.terminal = false)
    (stage : result.stage = .recoveredProductionRollback) :
    Ends (fun state => Working installation sqlite value content state ∧
        state.active = some content)
      (Proc.tryExcept
        (do
          writeExistingJournal (value.update result)
          Proc.mayRaise .osError)
        fun error => recordFailure (value.update result) error)
      (fun _ => Interrupted installation sqlite content)
      (Interrupted installation sqlite content) := by
  have written : ∀ state, Working installation sqlite value content state ∧
      state.active = some content →
      Ready installation sqlite (value.update result) content
          { state with journal := some (value.update result) } ∧
        Interrupted installation sqlite content
          { state with journal := some (value.update result) } := by
    rintro state ⟨working, active⟩
    refine ⟨(working.2.entry _ _ _ _).write _, .finished ⟨active, ?_, _, rfl, stage⟩⟩
    exact working.2.verified.rollback
  have unwritten : ∀ state, Working installation sqlite value content state ∧
      state.active = some content → Ready installation sqlite (value.update result) content state ∧
        Interrupted installation sqlite content state := by
    rintro state ⟨working, -⟩
    exact ⟨working.2.entry _ _ _ _, working.interrupted pending⟩
  refine .tryExcept (fun _ state => Ready installation sqlite (value.update result) content state ∧
    Interrupted installation sqlite content state) ?_ fun error => recordFailure_keeps error
  refine .bind (fun _ state => Ready installation sqlite (value.update result) content state ∧
    Interrupted installation sqlite content state) ?_ fun _ => ?_
  · exact .replaceFile written unwritten written
      fun state both => ⟨(unwritten state both).2, (written state both).2⟩
  · exact (Triple.mayRaise (fun _ held => held) fun _ held => held.2).weaken (fun _ held => held)
      (fun _ _ held => held.2) (fun _ _ held => held) fun _ held => held

/-- A recovery keeps what the next one needs, however it ends. -/
theorem recoverIncompleteUpgrade_keeps : Keeps (Interrupted installation sqlite content)
      (recoverIncompleteUpgrade installation sqlite) := by
  refine Triple.look_bind fun state interrupted => ?_
  have ended : ∀ found, found = state → Interrupted installation sqlite content found := by
    rintro found rfl
    exact interrupted
  cases interrupted with
  | finished restored =>
    obtain ⟨-, -, value, journal, stage⟩ := restored
    have terminal : value.stage.terminal = true := by rw [stage]; rfl
    simp only [journal, terminal]
    exact .pure _ ended
  | unfinished value journal pending ready =>
    have working : ∀ found, found = state → Working installation sqlite value content found := by
      rintro found rfl
      exact ⟨journal, ready⟩
    simp only [journal, pending, Bool.false_eq_true]
    refine .bind (fun _ found => found = state) ?_ fun authorized => ?_
    · refine .tryExcept (fun _ found => found = state) ?_ fun _ => ?_
      · exact .bind _ (.mayRaise (fun _ same => same) ended) fun _ => .pure _ fun _ same => same
      · exact .bind _ (.mayRaise ended ended) fun _ => .pure _ fun _ same => same
    · refine .when (fun _ => ?_) fun _ => ended
      have attempt := Triple.weaken attemptRecovery_works working (fun _ _ held => held)
        (fun _ found held => held.interrupted pending) fun _ held => held.interrupted pending
      refine .bind _ attempt fun outcome => ?_
      cases outcome with
      | error error =>
        refine (recordFailure_keeps error).strengthen fun found held => ?_
        exact ⟨held.1.2, held.1.interrupted pending⟩
      | ok result =>
        refine Triple.of_exact fun found held => ?_
        obtain ⟨active, stage⟩ := held.2 result rfl
        exact (writeResult_keeps pending stage).strengthen fun _ same => same ▸ ⟨held.1, active⟩

/-- Whatever interrupted the recoveries so far, the next one has what it needs. -/
theorem Recoveries.interrupted {first : State Content}
    (recoveries : Recoveries installation sqlite first state)
    (start : Interrupted installation sqlite content first) :
    Interrupted installation sqlite content state := by
  induction recoveries with
  | start => exact start
  | again _ faults ih => exact Meets.keeps (recoverIncompleteUpgrade_keeps _ ih)

/-! ## A recovery without interruption -/

variable {before : State Content → Prop}

theorem mayRaise_completes (failure : RecoveryError) :
    Completes before (Proc.mayRaise failure) fun _ => before :=
  .act fun state entry => ⟨state, rfl, entry⟩

theorem attemptRecovery_completes : Completes (Working installation sqlite value content)
      (attemptRecovery installation sqlite value)
      fun outcome state => ∃ result, outcome = .ok result ∧
        Working installation sqlite value content state ∧ state.active = some content ∧
          result.stage = .recoveredProductionRollback := by
  refine .tryExcept (.bind _ (mayRaise_completes _) fun _ => ?_)
  exact .bind _ recoverProductionJournal_works.completes fun result =>
    .pure _ fun _ held => ⟨result, rfl, held⟩

/-- A recovery that nothing interrupts ends with the rollback database at the active path. -/
theorem recoverIncompleteUpgrade_completes : Completes (Interrupted installation sqlite content)
      (recoverIncompleteUpgrade installation sqlite) fun _ => Restored content := by
  refine .look_bind fun state interrupted => ?_
  cases interrupted with
  | finished restored =>
    obtain ⟨value, journal, stage⟩ := restored.2.2
    have terminal : value.stage.terminal = true := by rw [stage]; rfl
    simp only [journal, terminal]
    exact .pure _ fun _ same => same ▸ restored
  | unfinished value journal pending ready =>
    simp only [journal, pending, Bool.false_eq_true]
    refine .bind (fun authorized found => authorized = true ∧ found = state) ?_ fun authorized => ?_
    · exact .tryExcept (.bind _ (mayRaise_completes _) fun _ => .pure _ fun _ same => ⟨rfl, same⟩)
    · refine .when (fun _ => ?_) fun no _ held => by rw [held.1] at no; cases no
      have working : ∀ authorized found, authorized = true ∧ found = state →
          Working installation sqlite value content found := by
        rintro _ found ⟨-, rfl⟩
        exact ⟨journal, ready⟩
      refine .bind _ (attemptRecovery_completes.weaken (working authorized) fun _ _ held => held)
        fun outcome => ?_
      refine .of_exact fun found held => ?_
      obtain ⟨_, rfl, working, active, stage⟩ := held
      refine .tryExcept (.bind (fun _ => Restored content) (.replaceFile ?_) fun _ => ?_)
      · rintro _ rfl
        exact ⟨active, working.2.verified.rollback, _, rfl, stage⟩
      · exact mayRaise_completes _

/-! ## Repeated recoveries -/

/-- After any number of recoveries, each of them completed, failed or cut off at any point,
the rollback database is as it was, and a recovery that nothing interrupts ends with it at
the active path. -/
theorem recoveries_restore {first : State Content} (journal : first.journal = some value)
    (pending : value.stage.terminal = false) (ready : Ready installation sqlite value content first)
    (recoveries : Recoveries installation sqlite first state) : state.rollback = some content ∧
      ∃ after, (recoverIncompleteUpgrade installation sqlite).run state [] =
          (.returned (), after) ∧ Restored content after := by
  have interrupted : Interrupted installation sqlite content state :=
    recoveries.interrupted (.unfinished value journal pending ready)
  constructor
  · cases interrupted with
    | unfinished _ _ _ ready => exact ready.verified.rollback
    | finished restored => exact restored.2.1
  · obtain ⟨_, after, ended, restored⟩ := recoverIncompleteUpgrade_completes.run_eq interrupted
    exact ⟨after, ended, restored⟩

/-! ## An example -/

/-- The contents of the sample databases: the database before the replacement, and the
candidate that replaced it. -/
inductive Sample where
  | before | candidate
  deriving DecidableEq

def sampleSqlite : SqliteFiles Sample where
  sizeBytes _ := 4096
  quickCheck _ := true
  integrityCheck _ := true
  readable _ := true
  sha256
    | .before => "5f"
    | .candidate => "c0"
  schemaDigest _ := "e1"
  backupCopy content := content

def sampleInstallation : Installation where
  dataRoot := ["data"]
  backupsRoot := ["backups", "data"]
  isProduction := true
  isSymlink _ := false
  resolve raw := raw.parts

/-- The rollback database in the directory of a backup set. -/
def sampleBackup : RawPath :=
  ⟨false, ["database.sqlite", "set-1", "production-maintenance", "backups", "files"]⟩

def sampleSite : RawPath := ⟨false, ["north", "sites"]⟩

def sampleJournal : Journal where
  operationId := "op-1"
  stage := .productionSwitched
  switched := true
  activePath := some ⟨true, ["devices.db", "db", "north", "sites", "data"]⟩
  rollbackPath := some ⟨true, sampleBackup.parts ++ sampleSite.parts ++ ["data"]⟩
  backupPath := none
  authority := {
    productionRollbackOwner := some {
      binding := {
        siteId := "north", databaseRole := "", database := "devices.db"
        backupRelativePath := sampleBackup, backupSize := some 4096
        backupSha256 := "5f"
        schemaFingerprint := "e1" }
      resources := none }
    databaseKind := "devices.db", canonicalSiteId := "north", siteRootRelativePath := sampleSite }
  status := ""
  recoveryError := none
  result := none

/-- The candidate is at the active path, with this much data in its `-wal` file. -/
def sampleState (activeWal : Nat) : State Sample where
  active := some .candidate
  activeWal := activeWal
  rollback := some .before
  rollbackWal := 0
  restoration := none
  failedCopies := []
  journal := some sampleJournal

/-- The process stops while the rollback database is copied to the restoration file. -/
def stopsInCopy : List Fault := [.proceed, .proceed, .proceed, .proceed, .proceed, .crash]

/-- The process stops between the replacement of the active database and the journal. -/
def stopsBeforeJournal : List Fault := List.replicate 12 .proceed ++ [.crash]

theorem sampleState_verified (activeWal : Nat) :
    Verified sampleInstallation sampleSqlite sampleJournal .before (sampleState activeWal) where
  switched := rfl
  rollback := rfl
  intact := rfl
  copied := rfl
  owned := ⟨_, _, _, _, rfl, rfl, _, rfl, by decide⟩
  backups := ⟨_, rfl⟩

theorem sampleState_ready :
    Ready sampleInstallation sampleSqlite sampleJournal .before (sampleState 0) where
  verified := sampleState_verified 0
  restoration := .inl rfl
  activeWal := rfl
  active _ _ := ⟨Nat.succ_ne_zero _, rfl, Nat.succ_ne_zero _⟩

theorem recoveries_restore_sample :
    ∃ after, (recoverIncompleteUpgrade sampleInstallation sampleSqlite).run
        ((recoverIncompleteUpgrade sampleInstallation sampleSqlite).run
          ((recoverIncompleteUpgrade sampleInstallation sampleSqlite).run (sampleState 0)
            stopsInCopy).2 stopsBeforeJournal).2 [] = (.returned (), after) ∧
      Restored .before after :=
  (recoveries_restore rfl rfl sampleState_ready (.again (.again .start _) _)).2

/-! ## Data in the `-wal` file -/

/-- Wherever the recovery of a verified rollback database stops, the next one completes it. -/
def RecoversAgain (installation : Installation) (sqlite : SqliteFiles Content) : Prop :=
  ∀ (value : Journal) (content : Content) (state : State Content) (faults : List Fault),
    state.journal = some value → value.stage.terminal = false →
    Verified installation sqlite value content state → state.restoration = none →
    ((recoverIncompleteUpgrade installation sqlite).run state faults).1 = .crashed →
    ∃ after, (recoverIncompleteUpgrade installation sqlite).run
        ((recoverIncompleteUpgrade installation sqlite).run state faults).2 [] =
          (.returned (), after) ∧ Restored content after

/-- With data in the `-wal` file, a recovery that stops while it copies is not completed. -/
theorem not_recoversAgain : ¬RecoversAgain sampleInstallation sampleSqlite := by
  intro recovers
  obtain ⟨_, ended, active, -⟩ := recovers sampleJournal .before (sampleState 1) stopsInCopy
    rfl rfl (sampleState_verified 1) rfl (by decide)
  have refused : (((recoverIncompleteUpgrade sampleInstallation sampleSqlite).run
      ((recoverIncompleteUpgrade sampleInstallation sampleSqlite).run (sampleState 1)
        stopsInCopy).2 []).2).active = some .candidate := by
    decide
  rw [ended] at refused
  exact absurd (active.symm.trans refused) (by decide)

end NetConsole.DatabaseUpgrade.Production
