import NetConsole.DatabaseUpgrade.UpgradeSteps

/-!
# The body of an upgrade

Each part of `upgradeBody` leads from one phase to the next: `backUpDatabase`
from `Fresh` to `BackedUp`, `prepareShadow` to `Built`, `switchAndTest` to
`Tested`, and `finalizeSuccess` keeps `Tested`. An exception at any point leaves
the files reliable (`upgradeBody_spec`).
-/

set_option autoImplicit false

namespace NetConsole.DatabaseUpgrade

open Foundations Option

variable {Content : Type} {sqlite : Sqlite Content} {descriptor : DatabaseDescriptor Content}
  {old : Option Content}

/-! ## Quiet phases -/

variable {s : UpgradeState Content} {stage : Stage}

theorem Quiet.updated (quiet : Quiet s) (plain : stage.plain) (fields : Journal → Journal) :
    Quiet (s.updated stage fields) :=
  ⟨plain.smokeJournaled fields quiet.unproved, quiet.unstarted⟩

/-- Nothing has moved and no backup was made. -/
structure Fresh (s : UpgradeState Content) : Prop where
  quiet : Quiet s
  noBackup : s.backupResult = none

theorem Fresh.updated (fresh : Fresh s) (plain : stage.plain) (fields : Journal → Journal) :
    Fresh (s.updated stage fields) :=
  ⟨fresh.quiet.updated plain fields, fresh.noBackup⟩

theorem BackedUp.updated (backedUp : BackedUp old s) (plain : stage.plain) :
    BackedUp old (s.updated stage id) :=
  ⟨backedUp.quiet.updated plain id, backedUp.result, backedUp.backup, backedUp.named⟩

variable (unfinished : Unfinished sqlite descriptor old s)
include unfinished

theorem Unfinished.active_eq (quiet : Quiet s) : s.active = old :=
  (unfinished.running.unstarted quiet.unstarted).1

theorem Unfinished.rollback_eq (quiet : Quiet s) : s.rollback = none :=
  (unfinished.running.unstarted quiet.unstarted).2.1

omit unfinished in
theorem Fresh.setBackup (fresh : Fresh s) (backup retained : Option Content) :
    Fresh { s with backup := backup, retained := retained } :=
  ⟨⟨fresh.quiet.unproved, fresh.quiet.unstarted⟩, fresh.noBackup⟩

/-- The backup directory is not yet known to anyone. -/
theorem Unfinished.setBackup (fresh : Fresh s) (backup retained : Option Content) :
    Unfinished sqlite descriptor old { s with backup := backup, retained := retained } :=
  unfinished.remember rfl (fun _ known => ⟨known.named, known.switched⟩)
    (fun result made => by cases fresh.noBackup.symm.trans made)
    (fun started => by cases fresh.quiet.unstarted.symm.trans started)
    unfinished.running.unstarted

/-! ## The backup -/

/-- What `createBackup` returns describes what it made. -/
structure Copied (old : Option Content) (result : BackupResult) (s : UpgradeState Content) :
    Prop where
  fresh : Fresh s
  existed : result.existed = old.isSome
  backup : s.backup = none ∨ s.backup = old
  retained : s.retained = none ∨ s.retained = old
  valid : result.valid = true → s.backup = old

variable {findReusable : (content : Content) → Option (ReusableBackup content)}

omit unfinished in
theorem reuseBackup_leads {source : Content} (present : old = some source) :
    Leads sqlite descriptor old (fun s => Fresh s ∧ s.backup = old ∧ s.retained = none)
      (reuseBackup sqlite findReusable source)
      fun _ => Copied old { existed := true, valid := validateSqlite sqlite (some source) } := by
  have reused : ∀ retained : Option Content, (retained = none ∨ retained = some source) →
      ∀ s, Unfinished sqlite descriptor old s → Fresh s ∧ s.backup = old ∧ s.retained = none →
      Unfinished sqlite descriptor old { s with retained := retained } ∧
        Copied old { existed := true, valid := validateSqlite sqlite (some source) }
          { s with retained := retained } := by
    intro retained kept s unfinished ⟨fresh, backup, _⟩
    exact ⟨unfinished.setBackup fresh s.backup retained, fresh.setBackup s.backup retained,
      by rw [present]; rfl, .inr backup, by rw [present]; exact kept, fun _ => backup⟩
  unfold reuseBackup
  split
  · rename_i reusable _
    exact .act (reused reusable.rollback reusable.rollback_eq)
  · apply Triple.pure
    rintro s ⟨unfinished, entry⟩
    have same : { s with retained := none } = s := by rw [← entry.2.2]
    exact same ▸ reused none (.inl rfl) s unfinished entry

omit unfinished in
theorem createBackup_leads :
    Leads sqlite descriptor old Fresh (createBackup sqlite findReusable) fun result =>
      Copied old result := by
  apply Leads.mayRaise_bind
  apply Leads.bind fun _ s => Fresh s ∧ s.backup = none ∧ s.retained = none
  · apply Leads.act
    intro s unfinished fresh
    exact ⟨unfinished.setBackup fresh none none, fresh.setBackup none none, rfl, rfl⟩
  intro _
  apply Leads.look_bind
  rintro s₀ unfinished ⟨fresh, noBackup, noRetained⟩
  have active := unfinished.active_eq fresh.quiet
  cases content : s₀.active with
  | none =>
    have absent : old = none := by rw [← active, content]
    apply Leads.mayRaise_bind
    apply Triple.pure
    rintro s ⟨unfinished, rfl⟩
    exact ⟨unfinished, fresh, by rw [absent]; rfl, .inl noBackup, .inl noRetained,
      fun _ => noBackup.trans absent.symm⟩
  | some source =>
    have present : old = some source := by rw [← active, content]
    simp only
    split
    · apply Leads.mayRaise_bind
      apply Triple.pure
      rintro s ⟨unfinished, rfl⟩
      exact ⟨unfinished, fresh, by rw [present]; rfl, .inl noBackup, .inl noRetained,
        fun valid => by cases valid⟩
    · apply Leads.bind fun _ s => Fresh s ∧ s.backup = old ∧ s.retained = none
      · have copied : Upgrades sqlite descriptor old
            (During sqlite descriptor old fun s => Fresh s ∧ s.retained = none)
            (sqliteBackup sqlite (some source) fun copy s => { s with backup := some copy })
            (fun _ => During sqlite descriptor old fun s =>
              Fresh s ∧ s.backup = old ∧ s.retained = none) := by
          apply sqliteBackup_spec
          · rintro copy same s ⟨unfinished, fresh, noRetained⟩
            exact ⟨unfinished.setBackup fresh (some copy) s.retained,
              fresh.setBackup (some copy) s.retained, by rw [present, same], noRetained⟩
          · exact fun _ _ during => during.1.running
          · exact fun _ _ during => during.1.running
          · exact fun _ during => during.interrupted
          · exact fun _ during => during.interrupted
        apply copied.strengthen
        rintro s ⟨unfinished, rfl⟩
        exact ⟨unfinished, fresh, noRetained⟩
      intro _
      apply Leads.mayRaise_bind
      apply Leads.bind fun _ => Copied old
        { existed := true, valid := validateSqlite sqlite (some source) }
      · exact reuseBackup_leads present
      · intro _
        apply Leads.mayRaise_bind
        exact Triple.pure _ fun _ during => during

/-- The result of the backup is kept in a local variable. -/
theorem Unfinished.setResult {result : BackupResult} (copied : Copied old result s) :
    Unfinished sqlite descriptor old { s with backupResult := some result } :=
  unfinished.remember rfl (fun _ known => ⟨fun _ => rfl, known.switched⟩)
    (fun _ made => by
      cases made
      exact ⟨copied.existed, copied.backup, copied.retained⟩)
    (fun started => by cases copied.fresh.quiet.unstarted.symm.trans started)
    unfinished.running.unstarted

omit unfinished in
/-- The journal object takes the path of a backup that exists. -/
theorem FieldsKnown.backupPath (running : Running sqlite descriptor old s)
    (made : s.backupResult.isSome = true) :
    FieldsKnown (fun data => { data with backupPath := true }) s :=
  ⟨⟨fun _ => made, fun switched => ⟨(running.data.switched switched).1, rfl⟩⟩, fun _ => rfl⟩

omit unfinished in
theorem backUpDatabase_leads :
    Leads sqlite descriptor old Fresh (backUpDatabase sqlite descriptor) fun _ => BackedUp old := by
  apply Leads.mayRaise_bind
  apply Leads.check_bind .raise
  intro _
  apply Leads.bind fun _ => Fresh
  · apply Leads.when
    apply Leads.assign_bind Fresh
    · intro s unfinished fresh
      exact ⟨unfinished.setLocals s.shadow s.shadowParsed true s.reopened,
         ⟨fresh.quiet.unproved, fresh.quiet.unstarted⟩, fresh.noBackup⟩
    · exact .mayRaise
  intro _
  apply Leads.mayRaise_bind
  have plain : Stage.plain .pauseWrites := ⟨by decide, rfl⟩
  apply Leads.update_bind plain fun s fresh => fresh.updated plain id
  apply Leads.mayRaise_bind
  apply Leads.mayRaise_bind
  have plain : Stage.plain .checkpoint := ⟨by decide, rfl⟩
  apply Leads.update_bind plain fun s fresh => fresh.updated plain id
  apply Leads.bind _ createBackup_leads
  intro result
  apply Leads.assign_bind fun s => Quiet s ∧ s.backupResult.isSome = true ∧
    (s.active.isSome = true ∧ result.valid = false ∨ s.backup = old)
  · intro s unfinished copied
    refine ⟨unfinished.setResult copied,
      ⟨copied.fresh.quiet.unproved, copied.fresh.quiet.unstarted⟩, rfl, ?_⟩
    have active := unfinished.active_eq copied.fresh.quiet
    cases valid : result.valid with
    | true => exact .inr (copied.valid valid)
    | false =>
      cases content : s.active with
      | some _ => exact .inl ⟨rfl, rfl⟩
      | none =>
        have absent : old = none := by rw [← active, content]
        rcases copied.backup with noBackup | same
        · exact .inr (noBackup.trans absent.symm)
        · exact .inr same
  apply Leads.look_bind
  rintro s₀ unfinished ⟨quiet, made, backup⟩
  apply Leads.check_bind
  · have plain : Stage.plain .backupFailed := ⟨by decide, rfl⟩
    apply Leads.bind fun _ _ => True
    · apply Leads.update plain
      · rintro s running rfl
        exact .backupPath running made
      · exact fun _ _ => trivial
    · exact fun _ => .raise
  intro valid
  have backup : s₀.backup = old := by
    rcases backup with ⟨present, invalid⟩ | same
    · rw [present, invalid] at valid
      cases valid
    · exact same
  apply Leads.mayRaise_bind
  have plain : Stage.plain .backupValidated := ⟨by decide, rfl⟩
  apply Leads.update plain
  · rintro s running rfl
    exact .backupPath running made
  · rintro s rfl
    exact ⟨quiet.updated plain _, made, backup, rfl⟩

/-! ## The shadow -/

/-- The shadow path while nothing else changes. -/
def Shadowed (old shadow : Option Content) (s : UpgradeState Content) : Prop :=
  BackedUp old s ∧ s.shadow = shadow

theorem Unfinished.setShadow
    (backedUp : BackedUp old s) (shadow : Option Content) (shadowParsed : Bool) :
    Unfinished sqlite descriptor old { s with shadow, shadowParsed } ∧
      Shadowed old shadow { s with shadow, shadowParsed } :=
  ⟨unfinished.setLocals shadow shadowParsed s.closed s.reopened,
    ⟨⟨backedUp.quiet.unproved, backedUp.quiet.unstarted⟩, backedUp.result, backedUp.backup,
      backedUp.named⟩, rfl⟩

omit unfinished in
theorem writeShadow_leads (contents : List Content) (shadow : Option Content) :
    Leads sqlite descriptor old (Shadowed old shadow) (writeShadow contents)
      fun _ => Shadowed old (contents.getLast?.or shadow) := by
  induction contents generalizing shadow with
  | nil => exact .mayRaise
  | cons content rest ih =>
    apply Leads.bind fun _ => Shadowed old (some content)
    · apply Leads.act
      intro s unfinished shadowed
      exact unfinished.setShadow shadowed.1 (some content) s.shadowParsed
    · intro _
      have last : rest.getLast?.or (some content) = (content :: rest).getLast?.or shadow := by
        cases rest with
        | nil => rfl
        | cons next rest => simp [List.getLast?_cons]
      exact last ▸ ih (some content)

omit unfinished in
theorem buildShadow_leads : Leads sqlite descriptor old (Shadowed old none) (buildShadow descriptor)
      fun _ => Shadowed old descriptor.adapter.shadowContents.getLast? := by
  apply Leads.mayRaise_bind
  apply Leads.assign_bind (Shadowed old none)
  · intro s unfinished shadowed
    have moved := unfinished.setShadow shadowed.1 s.shadow descriptor.adapter.movesParsed
    exact ⟨moved.1, moved.2.1, shadowed.2⟩
  apply Leads.mayRaise_bind
  apply (writeShadow_leads descriptor.adapter.shadowContents none).weaken fun _ shadowed => shadowed
  intro _ s shadowed
  rwa [or_none] at shadowed

omit unfinished in
theorem prepareShadow_leads :
    Leads sqlite descriptor old (BackedUp old) (prepareShadow sqlite descriptor)
      fun _ => Built sqlite descriptor old := by
  apply Leads.look_bind
  intro s₀ unfinished backedUp
  apply Leads.check_bind .raise
  intro free
  apply Leads.check_bind .raise
  intro _
  apply Leads.mayRaise_bind
  have plain : Stage.plain .shadowBuilding := ⟨by decide, rfl⟩
  apply Leads.bind fun _ => Shadowed old none
  · apply Leads.update plain
    · exact fun _ running _ => running.fieldsKnown_id
    · rintro s rfl
      exact ⟨backedUp.updated plain, show s.shadow = none by simpa using free⟩
  intro _
  apply Leads.bind _ buildShadow_leads
  intro _
  apply Leads.mayRaise_bind
  apply Leads.look_bind
  rintro s₁ _ ⟨backedUp, shadow⟩
  apply Leads.check_bind .raise
  intro valid
  apply Leads.check_bind .raise
  intro version
  have checked : CheckedShadow sqlite descriptor s₁.shadow := by
    cases content : s₁.shadow with
    | none => simp [content, UpgradeAdapter.validate] at valid
    | some built =>
      rw [content] at valid version shadow
      exact ⟨built, rfl, shadow.symm, by simpa using valid, by simpa using version⟩
  apply Leads.mayRaise_bind
  have plain : Stage.plain .shadowValidated := ⟨by decide, rfl⟩
  apply Leads.bind fun _ => Built sqlite descriptor old
  · apply Leads.update plain
    · exact fun _ running _ => running.fieldsKnown_id
    · rintro s rfl
      exact ⟨backedUp.updated plain, checked⟩
  · exact fun _ => .mayRaise

/-! ## The switch -/

/-- The old database is at its place, or beside an empty active path. -/
structure Moved (sqlite : Sqlite Content) (descriptor : DatabaseDescriptor Content)
    (old : Option Content) (s : UpgradeState Content) : Prop where
  switching : Switching s
  beside : s.rollback = old
  gone : s.active = none
  shadow : CheckedShadow sqlite descriptor s.shadow

theorem Unfinished.setStarted (backedUp : BackedUp old s) :
    Unfinished sqlite descriptor old { s with switchStarted := true } :=
  unfinished.remember rfl
    (fun _ known => ⟨known.named, fun switched => ⟨rfl, (known.switched switched).2⟩⟩)
    unfinished.running.result (fun _ => ⟨backedUp.result, backedUp.backup, backedUp.named⟩) nofun

/-- Files move while the old database is the rollback file. -/
theorem Unfinished.beside
    (switching : Switching s) (active shadow : Option Content) {rollback : Option Content}
    (same : rollback = old) : Unfinished sqlite descriptor old { s with active, shadow, rollback } ∧
      Switching { s with active, shadow, rollback } :=
  ⟨unfinished.move switching.started ⟨.inr same, .inr (.inr ⟨switching.unproved, same⟩)⟩
    (unfinished.running.retained switching.started), switching.unproved, switching.started⟩

omit unfinished

theorem switchDatabase_leads : Leads sqlite descriptor old
      (fun s => Switching s ∧ s.active = old ∧ s.rollback = none ∧
        CheckedShadow sqlite descriptor s.shadow)
      (switchDatabase descriptor) fun _ => Switched sqlite descriptor old := by
  apply Leads.look_bind
  rintro s₀ unfinished ⟨switching, active, noRollback, shadow⟩
  apply Leads.check_bind .raise
  intro _
  apply Leads.bind fun _ => Moved sqlite descriptor old
  · apply Triple.when
    · intro _
      apply Leads.act
      rintro s unfinished rfl
      have moved := unfinished.beside switching none s.shadow active
      exact ⟨moved.1, moved.2, active, rfl, shadow⟩
    · rintro absent s ⟨unfinished, rfl⟩
      have gone : s.active = none := by simpa using absent
      exact ⟨unfinished, switching, noRollback.trans (gone.symm.trans active), gone, shadow⟩
  intro _
  apply Leads.bind fun _ => Moved sqlite descriptor old
  · exact .when .mayRaise
  intro _
  apply Leads.bind fun _ s => Switching s ∧ s.rollback = old ∧
    ∃ shadow, CheckedShadow sqlite descriptor (some shadow) ∧ s.active = some shadow
  · apply Triple.act
    · rintro s ⟨unfinished, moved⟩ s' happened
      obtain ⟨content, shadow, checked⟩ := moved.shadow
      rw [shadow] at happened
      rw [← Except.ok.inj happened]
      have placed := unfinished.beside moved.switching (some content) none moved.beside
      exact ⟨placed.1, placed.2, moved.beside, content, ⟨content, rfl, checked⟩, rfl⟩
    · exact fun _ during _ _ => during.1.running
    · exact fun _ during => during.1.running
    · exact fun _ during => during.interrupted
  intro _
  apply Triple.when
  · intro moves
    apply Leads.mayRaise_bind
    apply Leads.act
    rintro s unfinished ⟨switching, beside, shadow, checked, active⟩
    have rewritten := unfinished.beside switching
      (s.active.map descriptor.adapter.rewriteParsedPaths) s.shadow beside
    refine ⟨rewritten.1, rewritten.2, beside, shadow, checked, ?_⟩
    rw [active, moves, if_pos rfl, map_some]
  · rintro stays s ⟨unfinished, switching, beside, shadow, checked, active⟩
    refine ⟨unfinished, switching, beside, shadow, checked, ?_⟩
    rw [active, stays]
    rfl

/-- The journal object says that the switch is done. -/
theorem FieldsKnown.switched (running : Running sqlite descriptor old s)
    (started : s.switchStarted = true) :
    FieldsKnown (fun data => { data with switched := true }) s :=
  ⟨⟨running.data.named, fun _ => ⟨started, (running.started started).2.2⟩⟩, id⟩

theorem Switched.updated (switched : Switched sqlite descriptor old s) (plain : stage.plain)
    (fields : Journal → Journal) : Switched sqlite descriptor old (s.updated stage fields) :=
  ⟨⟨plain.smokeJournaled fields switched.switching.unproved, switched.switching.started⟩,
    switched.beside, switched.active⟩

theorem Unfinished.setSwitched (unfinished : Unfinished sqlite descriptor old s)
    (started : s.switchStarted = true) (switched reopened : Bool) :
    Unfinished sqlite descriptor old { s with switched, reopened } :=
  unfinished.remember rfl (fun _ known => ⟨known.named, known.switched⟩)
    unfinished.running.result unfinished.running.started
    fun unstarted => by cases started.symm.trans unstarted

theorem Switched.validated (switched : Switched sqlite descriptor old s)
    (accepted : descriptor.smokeTest s.active = true) :
    ValidatedNew sqlite descriptor s.active := by
  obtain ⟨shadow, ⟨_, same, last, valid, version⟩, active⟩ := switched.active
  cases same
  exact ⟨shadow, last, valid, version, active, accepted⟩

theorem switchAndTest_leads :
    Leads sqlite descriptor old (Built sqlite descriptor old) (switchAndTest descriptor)
      fun _ => Tested sqlite descriptor := by
  apply Leads.assign_bind fun s => Switching s ∧ s.active = old ∧ s.rollback = none ∧
    CheckedShadow sqlite descriptor s.shadow
  · intro s unfinished built
    exact ⟨unfinished.setStarted built.backedUp, ⟨built.backedUp.quiet.unproved, rfl⟩,
      unfinished.active_eq built.backedUp.quiet, unfinished.rollback_eq built.backedUp.quiet,
      built.shadow⟩
  apply Leads.bind _ switchDatabase_leads
  intro _
  have kept : ∀ (flag flag' : Bool) s, Unfinished sqlite descriptor old s →
      Switched sqlite descriptor old s →
      Unfinished sqlite descriptor old { s with switched := flag, reopened := flag' } ∧
        Switched sqlite descriptor old { s with switched := flag, reopened := flag' } :=
    fun flag flag' s unfinished switched =>
      ⟨unfinished.setSwitched switched.switching.started flag flag',
        ⟨switched.switching.unproved, switched.switching.started⟩, switched.beside,
        switched.active⟩
  apply Leads.assign_bind (Switched sqlite descriptor old) fun s => kept true s.reopened s
  have plain : Stage.plain .switched := ⟨by decide, rfl⟩
  apply Leads.bind fun _ => Switched sqlite descriptor old
  · apply Leads.update plain
    · exact fun s running switched => .switched running switched.switching.started
    · exact fun s switched => switched.updated plain _
  intro _
  apply Leads.bind fun _ => Switched sqlite descriptor old
  · exact .when .mayRaise
  intro _
  apply Leads.assign_bind (Switched sqlite descriptor old) fun s => kept s.switched true s
  apply Leads.mayRaise_bind
  apply Leads.look_bind
  intro s₀ unfinished switched
  apply Leads.check_bind
  · have plain : Stage.plain .smokeFailed := ⟨by decide, rfl⟩
    apply Leads.bind fun _ _ => True
    · apply Leads.update plain
      · exact fun _ running _ => running.fieldsKnown_id
      · exact fun _ _ => trivial
    · exact fun _ => .raise
  intro accepted
  have new := switched.validated (by simpa using accepted)
  have smoke : (s₀.updated .smokeValidated id).smokeJournaled :=
    .inl (List.mem_append_right _ (List.mem_singleton_self _))
  have consistent : ActiveConsistent sqlite descriptor old (s₀.updated .smokeValidated id) :=
    .inr ⟨smoke, new⟩
  apply update_spec
  · exact fun _ during => during.1.running
  · exact fun _ during => during.1.running.fieldsKnown_id
  · rintro s ⟨_, rfl⟩ _
    exact consistent
  · rintro s ⟨unfinished, rfl⟩
    have running := unfinished.running.updated .smokeValidated
      unfinished.running.fieldsKnown_id fun _ => consistent
    exact ⟨⟨running, _, rfl, rfl⟩, switched.switching.started, smoke, new⟩

/-! ## The end of an upgrade -/

theorem finalizeSuccess_leads :
    Leads sqlite descriptor old (Tested sqlite descriptor) (finalizeSuccess descriptor)
      fun _ => Tested sqlite descriptor := by
  apply Leads.look_bind
  intro s₀ unfinished tested
  apply Leads.bind fun _ => Tested sqlite descriptor
  · apply Triple.when
    · intro present
      apply Leads.check_bind .raise
      intro _
      apply Leads.act
      rintro s unfinished rfl
      have consistent : ActiveConsistent sqlite descriptor old s := .inr ⟨tested.smoke, tested.new⟩
      exact ⟨unfinished.move tested.started ⟨.inl rfl, .inr (.inl consistent)⟩
        unfinished.running.files.rollback, tested.started, tested.smoke, tested.new⟩
    · rintro _ s ⟨unfinished, rfl⟩
      exact ⟨unfinished, tested⟩
  · exact fun _ => .when .mayRaise

/-- The body of an upgrade leaves the files reliable, however it ends. -/
theorem upgradeBody_spec : Upgrades sqlite descriptor old (During sqlite descriptor old Fresh)
      (upgradeBody sqlite descriptor) (fun _ => Running sqlite descriptor old) := by
  apply Triple.bind _ backUpDatabase_leads
  intro _
  apply Triple.bind _ prepareShadow_leads
  intro _
  apply Triple.bind _ switchAndTest_leads
  intro _
  apply Triple.bind _ finalizeSuccess_leads
  intro _
  apply Triple.bind (fun _ => During sqlite descriptor old (Tested sqlite descriptor))
    Leads.mayRaise
  intro _
  apply Triple.bind fun _ => Running sqlite descriptor old
  · have consistent : ∀ s : UpgradeState Content, Tested sqlite descriptor s →
        ActiveConsistent sqlite descriptor old (s.updated .completed id) :=
      fun s tested => .inr ⟨tested.smoke.write _, tested.new⟩
    apply update_spec
    · exact fun _ during => during.1.running
    · exact fun _ during => during.1.running.fieldsKnown_id
    · exact fun s during _ => consistent s during.2
    · exact fun s during => during.1.running.updated _ during.1.running.fieldsKnown_id
        fun _ => consistent s during.2
  · exact fun _ => .mayRaise (fun _ running => running) fun _ running => running.interrupted

end NetConsole.DatabaseUpgrade
