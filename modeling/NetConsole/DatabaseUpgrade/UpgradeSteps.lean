import NetConsole.DatabaseUpgrade.Recovery

/-!
# The steps of an upgrade keep the files reliable

`Running` is the invariant of the process that upgrades: the durable part of
`Interrupted`, and what the memory of the process knows. The phases of
`upgradeBody` add to it how far the upgrade is: nothing has moved (`Quiet`), the
old database is backed up (`BackedUp`), the shadow is checked (`Built`), files
move (`Switching`), the new database is at the active path (`Switched`), its
smoke test is journaled (`Tested`). Every exception leaves `Running`.
-/

set_option autoImplicit false

namespace NetConsole.DatabaseUpgrade

open Foundations Option

variable {Content : Type}

/-! ## The invariant of the process -/

section Invariants

variable (sqlite : Sqlite Content) (descriptor : DatabaseDescriptor Content) (old : Option Content)

/-- The process knows what a journal says. -/
structure Known (s : UpgradeState Content) (value : Journal) : Prop where
  named : value.backupPath = true → s.backupResult.isSome = true
  switched : value.switched = true → s.switchStarted = true ∧ value.backupPath = true

/-- What holds at every point of an upgrade. -/
structure Running (s : UpgradeState Content) : Prop where
  files : Reliable sqlite descriptor old s
  journal : ∀ value, s.journal = some value → Known s value ∧
    (value.stage = .smokeValidated → s.smokeJournaled) ∧
    (value.stage.terminal = true → ActiveConsistent sqlite descriptor old s)
  unwritten : s.journal = none → s.active = old
  data : Known s s.data
  result : ∀ result, s.backupResult = some result → result.existed = old.isSome ∧
    (s.backup = none ∨ s.backup = old) ∧ (s.retained = none ∨ s.retained = old)
  started : s.switchStarted = true → s.backupResult.isSome = true ∧ s.backup = old ∧
    s.data.backupPath = true
  unstarted : s.switchStarted = false → s.active = old ∧ s.rollback = none ∧ s.switched = false

/-- The journal file is there, in a stage that recovery does not skip. -/
structure Unfinished (s : UpgradeState Content) : Prop where
  running : Running sqlite descriptor old s
  journal : ∃ value, s.journal = some value ∧ value.stage.terminal = false

/-- Nothing has moved. -/
structure Quiet (s : UpgradeState Content) : Prop where
  unproved : ¬s.smokeJournaled
  unstarted : s.switchStarted = false

/-- The old database is backed up, and the journal object names the backup. -/
structure BackedUp (s : UpgradeState Content) : Prop where
  quiet : Quiet s
  result : s.backupResult.isSome = true
  backup : s.backup = old
  named : s.data.backupPath = true

/-- A shadow that was built to its end and passed the checks. -/
def CheckedShadow (shadow : Option Content) : Prop :=
  ∃ content, shadow = some content ∧ descriptor.adapter.shadowContents.getLast? = some content ∧
    descriptor.adapter.validate sqlite (some content) = true ∧
    descriptor.versionMatches (some content) = true

/-- The shadow is built beside a backup. -/
structure Built (s : UpgradeState Content) : Prop where
  backedUp : BackedUp old s
  shadow : CheckedShadow sqlite descriptor s.shadow

/-- Files move, or have moved, without a journaled smoke test. -/
structure Switching (s : UpgradeState Content) : Prop where
  unproved : ¬s.smokeJournaled
  started : s.switchStarted = true

/-- The new database is at the active path and the old one beside it. -/
structure Switched (s : UpgradeState Content) : Prop where
  switching : Switching s
  beside : s.rollback = old
  active : ∃ shadow, CheckedShadow sqlite descriptor (some shadow) ∧
    s.active = some (if descriptor.adapter.movesParsed then
      descriptor.adapter.rewriteParsedPaths shadow else shadow)

/-- The smoke test of the new database is journaled. -/
structure Tested (s : UpgradeState Content) : Prop where
  started : s.switchStarted = true
  smoke : s.smokeJournaled
  new : ValidatedNew sqlite descriptor s.active

end Invariants

section Steps

variable {sqlite : Sqlite Content} {descriptor : DatabaseDescriptor Content}
  {old : Option Content} {s : UpgradeState Content}

theorem Running.interrupted (running : Running sqlite descriptor old s) :
    Interrupted sqlite descriptor old s where
  files := running.files
  journal value held :=
    have ⟨known, smoke, settled⟩ := running.journal value held
    { backup named := by
        obtain ⟨result, made⟩ := isSome_iff_exists.mp (known.named named)
        exact (running.result result made).2.1
      switched switched :=
        have started := known.switched switched
        ⟨started.2, (running.started started.1).2.1⟩
      smoke := smoke, settled := settled }
  unwritten := running.unwritten

variable (unfinished : Unfinished sqlite descriptor old s)
include unfinished

/-- A running upgrade after its switch began moves files: the journal and the
backup stay. -/
theorem Unfinished.move {active shadow rollback retained : Option Content}
    (started : s.switchStarted = true)
    (files : Reliable sqlite descriptor old { s with active := active, rollback := rollback })
    (kept : retained = none ∨ retained = old) :
    Unfinished sqlite descriptor old
      { s with active, shadow, rollback, retained } := by
  obtain ⟨value, held, open'⟩ := unfinished.journal
  have unsettled : ∀ other, s.journal = some other → other.stage.terminal = false := by
    intro other present
    rw [held] at present
    exact some.inj present ▸ open'
  exact
    { running :=
        { files := ⟨files.rollback, files.active⟩
          journal other present :=
            have ⟨known, smoke, _⟩ := unfinished.running.journal other present
            ⟨⟨known.named, known.switched⟩, smoke, fun terminal => by
              rw [unsettled other present] at terminal
              cases terminal⟩
          unwritten absent := by
            rw [show s.journal = none from absent] at held
            cases held
          data := ⟨unfinished.running.data.named, unfinished.running.data.switched⟩
          result result made :=
            have ⟨existed, backup, _⟩ := unfinished.running.result result made
            ⟨existed, backup, kept⟩
          started := unfinished.running.started
          unstarted none' := by
            rw [show s.switchStarted = false from none'] at started
            cases started }
      journal := ⟨value, held, open'⟩ }

/-- What the process keeps in memory changes; the files in use and the journal stay. -/
theorem Unfinished.remember {s' : UpgradeState Content}
    (same : (s'.active, s'.rollback, s'.journal, s'.journaled, s'.data) =
      (s.active, s.rollback, s.journal, s.journaled, s.data))
    (known : ∀ value, Known s value → Known s' value)
    (result : ∀ result, s'.backupResult = some result → result.existed = old.isSome ∧
      (s'.backup = none ∨ s'.backup = old) ∧ (s'.retained = none ∨ s'.retained = old))
    (started : s'.switchStarted = true → s'.backupResult.isSome = true ∧ s'.backup = old ∧
      s'.data.backupPath = true)
    (unstarted : s'.switchStarted = false →
      s'.active = old ∧ s'.rollback = none ∧ s'.switched = false) :
    Unfinished sqlite descriptor old s' := by
  simp only [Prod.mk.injEq] at same
  obtain ⟨active, rollback, journal, journaled, data⟩ := same
  have ⟨⟨files, held, unwritten, memory, _, _, _⟩, open'⟩ := unfinished
  refine ⟨⟨⟨?_, ?_⟩, fun value present => ?_, ?_, ?_, result, started, unstarted⟩, ?_⟩
  all_goals simp only [ActiveConsistent, UpgradeState.smokeJournaled, active, rollback, journal,
    journaled, data] at *
  · exact files.rollback
  · exact files.active
  · exact ⟨known value (held value present).1, (held value present).2⟩
  · exact unwritten
  · exact known _ memory
  · exact open'

/-- Fields that the invariant does not mention. -/
theorem Unfinished.setLocals (shadow : Option Content) (shadowParsed closed reopened : Bool) :
    Unfinished sqlite descriptor old { s with shadow, shadowParsed, closed, reopened } :=
  unfinished.remember rfl (fun _ known => ⟨known.named, known.switched⟩)
    unfinished.running.result unfinished.running.started unfinished.running.unstarted

omit unfinished

variable (running : Running sqlite descriptor old s)
include running

/-- What stays in the backup directory is the old database. -/
theorem Running.retained
    (started : s.switchStarted = true) : s.retained = none ∨ s.retained = old := by
  obtain ⟨result, made⟩ := isSome_iff_exists.mp (running.started started).1
  exact (running.result result made).2.2

/-! ## The journal object -/

/-- New fields of the journal object that say nothing the process does not know. -/
structure FieldsKnown (fields : Journal → Journal) (s : UpgradeState Content) : Prop where
  known : Known s (fields s.data)
  kept : s.data.backupPath = true → (fields s.data).backupPath = true

theorem Running.fieldsKnown_id : FieldsKnown id s := ⟨running.data, id⟩

variable {fields : Journal → Journal}

theorem Running.withData (stage : Stage) (fieldsKnown : FieldsKnown fields s) :
    Running sqlite descriptor old (s.withData stage fields) where
  files := ⟨running.files.rollback, running.files.active⟩
  journal value held :=
    have ⟨known, smoke, settled⟩ := running.journal value held
    ⟨⟨known.named, known.switched⟩, smoke, settled⟩
  unwritten := running.unwritten
  data := ⟨fieldsKnown.known.named, fieldsKnown.known.switched⟩
  result := running.result
  started started :=
    have ⟨result, backup, named⟩ := running.started started
    ⟨result, backup, fieldsKnown.kept named⟩
  unstarted := running.unstarted

/-- The journal object is written to the file. -/
theorem Running.write (consistent : s.data.stage = .smokeValidated ∨ s.data.stage.terminal = true →
      ActiveConsistent sqlite descriptor old (s.write s.data)) :
    Running sqlite descriptor old (s.write s.data) where
  files := by
    apply running.files.write
    rintro (same | same)
    · exact .inr (consistent (.inl same))
    · exact .inr (consistent (.inr (by rw [same]; rfl)))
  journal value held := by
    cases held
    refine ⟨⟨running.data.named, running.data.switched⟩, fun same => .inl ?_, fun terminal =>
      consistent (.inr terminal)⟩
    exact List.mem_append_right _ (by rw [same]; exact List.mem_singleton_self _)
  unwritten absent := by cases absent
  data := ⟨running.data.named, running.data.switched⟩
  result := running.result
  started := running.started
  unstarted := running.unstarted

/-- The state after a journal update that went through. -/
def UpgradeState.updated (s : UpgradeState Content) (stage : Stage) (fields : Journal → Journal) :
    UpgradeState Content :=
  (s.withData stage fields).write (s.withData stage fields).data

theorem Running.updated (stage : Stage) (fieldsKnown : FieldsKnown fields s)
    (consistent : stage = .smokeValidated ∨ stage.terminal = true →
      ActiveConsistent sqlite descriptor old (s.updated stage fields)) :
    Running sqlite descriptor old (s.updated stage fields) :=
  (running.withData stage fieldsKnown).write consistent

omit running

variable {stage : Stage} {returns holds : UpgradeState Content → Prop}

theorem update_triple {raises cutOff : UpgradeState Content → Prop}
    (done : ∀ s, holds s → returns (s.updated stage fields))
    (entered : ∀ s, holds s → raises (s.withData stage fields) ∧ cutOff (s.withData stage fields))
    (written : ∀ s, holds s → raises (s.updated stage fields) ∧ cutOff (s.updated stage fields)) :
    Triple holds (update stage fields) (fun _ => returns) (fun _ => raises) cutOff := by
  apply Triple.assign_bind fun s => ∃ s₀, holds s₀ ∧ s = s₀.withData stage fields
  · exact fun s entry => ⟨s, entry, rfl⟩
  · apply Triple.mayRaise_bind
    · rintro s ⟨s₀, entry, rfl⟩
      exact (entered s₀ entry).1
    · rintro s ⟨s₀, entry, rfl⟩
      exact (entered s₀ entry).2
    apply Triple.replaceFile
    · rintro s ⟨s₀, entry, rfl⟩
      exact done s₀ entry
    · rintro s ⟨s₀, entry, rfl⟩
      exact (entered s₀ entry).1
    · rintro s ⟨s₀, entry, rfl⟩
      exact (written s₀ entry).1
    · rintro s ⟨s₀, entry, rfl⟩
      exact ⟨(entered s₀ entry).2, (written s₀ entry).2⟩

variable (sqlite descriptor old) in
/-- A part of an upgrade that leaves the process running when it raises. -/
abbrev Upgrades {α : Type} (before : UpgradeState Content → Prop)
    (procedure : UpgradeProc Content α) (returns : α → UpgradeState Content → Prop) : Prop :=
  Triple before procedure returns (fun _ => Running sqlite descriptor old)
    (Interrupted sqlite descriptor old)

theorem update_spec (running : ∀ s, holds s → Running sqlite descriptor old s)
    (fieldsKnown : ∀ s, holds s → FieldsKnown fields s)
    (consistent : ∀ s, holds s → stage = .smokeValidated ∨ stage.terminal = true →
      ActiveConsistent sqlite descriptor old (s.updated stage fields))
    (done : ∀ s, holds s → returns (s.updated stage fields)) :
    Upgrades sqlite descriptor old holds (update stage fields) (fun _ => returns) := by
  apply update_triple done
  · intro s entry
    have entered := (running s entry).withData stage (fieldsKnown s entry)
    exact ⟨entered, entered.interrupted⟩
  · intro s entry
    have written := (running s entry).updated stage (fieldsKnown s entry) (consistent s entry)
    exact ⟨written, written.interrupted⟩

/-- A stage that claims nothing about the active database. -/
def Stage.plain (stage : Stage) : Prop := stage ≠ .smokeValidated ∧ stage.terminal = false

theorem Stage.plain.unclaimed (plain : stage.plain)
    (claims : stage = .smokeValidated ∨ stage.terminal = true) : False := by
  rcases claims with same | terminal
  · exact plain.1 same
  · rw [plain.2] at terminal
    cases terminal

theorem Stage.plain.smokeJournaled (plain : stage.plain) (fields : Journal → Journal)
    (unproved : ¬s.smokeJournaled) : ¬(s.updated stage fields).smokeJournaled := by
  intro claimed
  apply unproved
  refine (smokeJournaled_write plain.1 fun same => ?_).mp claimed
  exact plain.unclaimed (.inr (congrArg Stage.terminal same))

variable {phase : UpgradeState Content → Prop}

theorem update_plain {phase' : UpgradeState Content → Prop} (plain : stage.plain)
    (fieldsKnown : ∀ s, Running sqlite descriptor old s → phase s → FieldsKnown fields s)
    (stable : ∀ s, phase s → phase' (s.updated stage fields)) :
    Upgrades sqlite descriptor old (fun s => Running sqlite descriptor old s ∧ phase s)
      (update stage fields) (fun _ s => Unfinished sqlite descriptor old s ∧ phase' s) := by
  apply update_spec
  · exact fun _ both => both.1
  · exact fun s both => fieldsKnown s both.1 both.2
  · exact fun _ _ claims => (plain.unclaimed claims).elim
  · intro s both
    refine ⟨⟨?_, _, rfl, plain.2⟩, stable s both.2⟩
    exact both.1.updated stage (fieldsKnown s both.1 both.2) fun claims =>
      (plain.unclaimed claims).elim

/-! ## Rules for the phases -/

variable (sqlite descriptor old) in
/-- A state of an unfinished upgrade in a phase. -/
def During (phase : UpgradeState Content → Prop) (s : UpgradeState Content) : Prop :=
  Unfinished sqlite descriptor old s ∧ phase s

variable (sqlite descriptor old) in
/-- A part of `upgradeBody` that leads from one phase to another. -/
def Leads {α : Type} (phase : UpgradeState Content → Prop) (procedure : UpgradeProc Content α)
    (phase' : α → UpgradeState Content → Prop) : Prop :=
  Triple (During sqlite descriptor old phase) procedure
    (fun value => During sqlite descriptor old (phase' value))
    (fun _ => Running sqlite descriptor old) (Interrupted sqlite descriptor old)

theorem During.interrupted (during : During sqlite descriptor old phase s) :
    Interrupted sqlite descriptor old s :=
  during.1.running.interrupted

variable {α : Type}

theorem Leads.bind {β : Type} {procedure : UpgradeProc Content α} {next : α → UpgradeProc Content β}
    {phase' : β → UpgradeState Content → Prop} (middle : α → UpgradeState Content → Prop)
    (first : Leads sqlite descriptor old phase procedure middle)
    (second : ∀ value, Leads sqlite descriptor old (middle value) (next value) phase') :
    Leads sqlite descriptor old phase (procedure >>= next) phase' :=
  Triple.bind _ first second

variable {error : UpgradeError}

theorem Leads.mayRaise : Leads sqlite descriptor old phase (Proc.mayRaise error) fun _ => phase :=
  Triple.mayRaise (fun _ during => during.1.running) fun _ during => during.interrupted

variable {phase' : α → UpgradeState Content → Prop} {next : Unit → UpgradeProc Content α}

theorem Leads.mayRaise_bind (rest : Leads sqlite descriptor old phase (next ()) phase') :
    Leads sqlite descriptor old phase (Proc.mayRaise error >>= next) phase' :=
  .bind (fun _ => phase) .mayRaise fun _ => rest

variable {procedure : UpgradeProc Content Unit} {condition : Bool}

theorem Leads.when (kept : Leads sqlite descriptor old phase procedure fun _ => phase) :
    Leads sqlite descriptor old phase (Proc.when condition procedure) fun _ => phase :=
  Triple.when (fun _ => kept) fun _ _ during => during

variable {change : UpgradeState Content → UpgradeState Content}

theorem Leads.act {phase' : UpgradeState Content → Prop}
    (done : ∀ s, Unfinished sqlite descriptor old s → phase s →
      Unfinished sqlite descriptor old (change s) ∧ phase' (change s)) :
    Leads sqlite descriptor old phase (Proc.act error fun s => .ok (change s)) fun _ => phase' :=
  Triple.act_ok (fun s during => done s during.1 during.2) (fun _ during => during.1.running)
    fun _ during => during.interrupted

variable {phase'' : α → UpgradeState Content → Prop}

theorem Leads.assign_bind (phase' : UpgradeState Content → Prop)
    (done : ∀ s, Unfinished sqlite descriptor old s → phase s →
      Unfinished sqlite descriptor old (change s) ∧ phase' (change s))
    (rest : Leads sqlite descriptor old phase' (next ()) phase'') :
    Leads sqlite descriptor old phase (Proc.assign change >>= next) phase'' :=
  Triple.assign_bind _ (fun s during => done s during.1 during.2) rest

/-- A state that was read: what it shows is known from then on. -/
theorem Leads.look_bind {next : UpgradeState Content → UpgradeProc Content α}
    (rest : ∀ s₀, Unfinished sqlite descriptor old s₀ → phase s₀ →
      Leads sqlite descriptor old (· = s₀) (next s₀) phase') :
    Leads sqlite descriptor old phase (Proc.look >>= next) phase' := by
  apply Triple.look_bind
  intro s₀ during
  exact (rest s₀ during.1 during.2).from_exact ⟨during.1, rfl⟩

theorem Leads.weaken {phase₀ : UpgradeState Content → Prop} {procedure : UpgradeProc Content α}
    (leads : Leads sqlite descriptor old phase procedure phase') (start : ∀ s, phase₀ s → phase s)
    (value : ∀ a s, phase' a s → phase'' a s) :
    Leads sqlite descriptor old phase₀ procedure phase'' :=
  Triple.weaken leads (fun s during => ⟨during.1, start s during.2⟩)
    (fun a s during => ⟨during.1, value a s during.2⟩) (fun _ _ running => running)
    fun _ interrupted => interrupted

theorem Leads.check_bind (refused : Leads sqlite descriptor old phase procedure fun _ _ => False)
    (rest : condition = false → Leads sqlite descriptor old phase (next ()) phase') :
    Leads sqlite descriptor old phase (Proc.when condition procedure >>= next) phase' := by
  cases condition with
  | true => exact Leads.bind (fun _ _ => False) refused fun _ _ during => during.2.elim
  | false =>
    exact Leads.bind (fun _ => phase) (Triple.pure _ fun _ during => during) fun _ => rest rfl

theorem Leads.raise : Leads sqlite descriptor old phase (Proc.raise error) phase' :=
  Triple.raise _ fun _ during => during.1.running

theorem Leads.update {phase' : UpgradeState Content → Prop} (plain : stage.plain)
    (fieldsKnown : ∀ s, Running sqlite descriptor old s → phase s → FieldsKnown fields s)
    (stable : ∀ s, phase s → phase' (s.updated stage fields)) :
    Leads sqlite descriptor old phase (update stage fields) fun _ => phase' :=
  (update_plain plain fieldsKnown stable).strengthen fun _ during => ⟨during.1.running, during.2⟩

/-- A plain stage without new fields. -/
theorem Leads.update_bind (plain : stage.plain) (stable : ∀ s, phase s → phase (s.updated stage id))
    (rest : Leads sqlite descriptor old phase (next ()) phase') :
    Leads sqlite descriptor old phase (DatabaseUpgrade.update stage id >>= next) phase' :=
  .bind (fun _ => phase) (.update plain (fun _ running _ => running.fieldsKnown_id) stable)
    fun _ => rest

end Steps

end NetConsole.DatabaseUpgrade
