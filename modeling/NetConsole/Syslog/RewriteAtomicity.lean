import NetConsole.Syslog.RewriteRecovery

/-!
# Atomicity of a rewrite

However `executeSyslogDeletion` is interrupted, and however often its recovery
is, a recovery that ends leaves every raw file and the registry as before the
deletion, or every planned file rewritten and registered at the next revision
(`executeSyslogDeletion_atomic`).
-/

set_option autoImplicit false

namespace NetConsole.Syslog

open Foundations List

variable {Record Reference Derived : Type}
  {service : LifecycleService} {plan : DeletionPlan Record Reference Derived}
  {start disk : RawStore Derived} {items : List (StagedRewrite Reference)}

/-! ## Before the journal is written -/

variable (start) in
/-- Nothing but parts has changed, and no operation is pending. -/
structure Untouched (disk : RawStore Derived) : Prop where
  journal : disk.journal = none
  back : RolledBack start disk

theorem Untouched.interrupted (untouched : Untouched start disk) :
    Interrupted service plan start disk :=
  .settled ⟨untouched.journal, .inl untouched.back⟩

theorem Untouched.setPart (untouched : Untouched start disk) (operationId path : String)
    (content : Option (List UInt8)) :
    Untouched start (disk.setFile (.part operationId path) content) :=
  ⟨untouched.journal, untouched.back.setFile (by simp) content⟩

/-- The parts of staged files are complete. -/
def PartsReady (operationId : String) (items : List (StagedRewrite Reference))
    (disk : RawStore Derived) : Prop :=
  ∀ item ∈ items, disk.files (.part operationId item.path) = some item.content

variable {operationId : String}

theorem PartsReady.setFile (ready : PartsReady operationId items disk) {name : FileName}
    (other : ∀ item ∈ items, name ≠ .part operationId item.path)
    (content : Option (List UInt8)) : PartsReady operationId items (disk.setFile name content) := by
  intro item mem
  rw [RawStore.setFile_of_ne _ _ (other item mem).symm]
  exact ready item mem

/-! ## Staging -/

/-- A part file is created for a path that has none, and holds the kept lines. -/
theorem stageRewrite_spec {scope : DeletionScope Record Reference} {fileId : String}
    {row : RegisteredFile} (registered : start.registry fileId = some row)
    (earlier : List (StagedRewrite Reference)) :
    Ends (fun s => Untouched start s ∧ PartsReady operationId earlier s)
      (stageRewrite service operationId scope fileId row)
      (fun item s => (Untouched start s ∧ PartsReady operationId (earlier ++ [item]) s) ∧
        item.fileId = fileId ∧ item.path ∉ earlier.map StagedRewrite.path ∧
        ∃ content, Rewrites service scope start item row content) (Untouched start) := by
  apply Triple.of_exact
  intro s₀ entry
  obtain ⟨untouched, ready⟩ := entry
  have keeps : ∀ s, s = s₀ → Untouched start s := by
    intro s same
    exact same ▸ untouched
  have changed : ∀ s, (∃ content, s = s₀.setFile (.part operationId row.relativePath) content) →
      Untouched start s := by
    intro s equal
    obtain ⟨content, same⟩ := equal
    exact same ▸ untouched.setPart _ _ _
  refine Triple.bind (fun _ s => s = s₀.setFile (.part operationId row.relativePath) (some []) ∧
    ∃ content, s₀.files (.target row.relativePath) = some content ∧
      s₀.files (.part operationId row.relativePath) = none)
        (Triple.act ?_ ?_ keeps keeps) fun _ => ?_
  · intro s same s' happened
    subst same
    split at happened
    · next content stored free =>
      cases happened
      exact ⟨rfl, content, stored, free⟩
    · cases happened
  · intro s same e _
    exact keeps s same
  · apply Triple.of_exact
    intro s₁ created
    obtain ⟨same, content, stored, free⟩ := created
    subst same
    apply Triple.look_bind
    intro s₁ same
    have target : s₁.files (.target row.relativePath) = some content := by
      rw [same, RawStore.setFile_of_ne _ _ (by simp)]
      exact stored
    rw [target, Option.getD_some]
    refine Triple.bind (fun item s => s = s₁ ∧
      stagedRewrite service scope fileId row.relativePath row.revision content = .ok item)
      (Triple.ofExcept ?_ ?_) fun item => ?_
    · intro item staged s equal
      exact ⟨equal, staged⟩
    · intro e _ s equal
      rw [equal, same]
      exact untouched.setPart _ _ _
    · apply Triple.of_exact
      intro s₂ found
      obtain ⟨equal, staged⟩ := found
      obtain ⟨fileIdEqual, path, _, _, _⟩ := stagedRewrite_fields service staged
      have written := appendBytes_spec LifecycleError.osError
          (.part operationId row.relativePath) s₀ []
        item.content
      refine Triple.bind _ (written.weaken (fun s last => ?_) (fun _ _ last => last)
        (fun _ s last => changed s last.2) changed) fun _ => ?_
      · rw [last, equal, same]
      · refine mayRaise_bind (fun s last => changed s ⟨_, last⟩)
          (fun s last => changed s ⟨_, last⟩) ?_
        apply Triple.pure
        intro s last
        have fresh : item.path ∉ earlier.map StagedRewrite.path := by
          intro mem
          obtain ⟨other, memberOther, samePath⟩ := mem_map.mp mem
          have there := ready other memberOther
          rw [samePath, path, free] at there
          cases there
        refine ⟨⟨changed s ⟨_, last⟩, ?_⟩, fileIdEqual, fresh, content, ?_⟩
        · intro other mem
          rw [last]
          rcases mem_append.mp mem with before | new
          · have different : other.path ≠ row.relativePath := by
              intro samePath
              exact fresh (path ▸ samePath ▸ mem_map_of_mem before)
            rw [RawStore.setFile_of_ne _ _ (by simpa using different)]
            exact ready other before
          · rw [mem_singleton.mp new, path, RawStore.setFile_self]
            rfl
        · refine ⟨fileIdEqual ▸ registered, path.symm, ?_, ?_⟩
          · rw [path, ← untouched.back.targets, stored]
          · rw [fileIdEqual, path]
            exact staged

theorem stageFiles_spec (scope : DeletionScope Record Reference)
    (locked : List (String × RegisteredFile)) (parts : List FileName)
    (registered : ∀ file ∈ locked, start.registry file.1 = some file.2)
    (areParts : ∀ name ∈ parts, ∃ path, name = .part operationId path)
    (earlier : List (StagedRewrite Reference)) (once : (earlier.map StagedRewrite.path).Nodup) :
    Triple (fun s => Untouched start s ∧ PartsReady operationId earlier s)
      (stageFiles service operationId scope locked parts)
      (fun items s => (Untouched start s ∧ PartsReady operationId (earlier ++ items) s) ∧
        ((earlier ++ items).map StagedRewrite.path).Nodup ∧
        items.map StagedRewrite.fileId = locked.map Prod.fst ∧
        ∀ item ∈ items, ∃ row content, Rewrites service scope start item row content)
      (fun failure s => Untouched start s ∧
        ∀ name ∈ failure.2, ∃ path, name = .part operationId path)
      (Untouched start) := by
  induction locked generalizing parts earlier with
  | nil =>
    apply Triple.pure
    intro s entry
    exact ⟨by simpa using entry, by simpa using once, rfl, by simp⟩
  | cons file rest ih =>
    obtain ⟨fileId, row⟩ := file
    have first : start.registry fileId = some row := registered _ (mem_cons_self ..)
    refine mayRaise_bind (fun _ entry => ⟨entry.1, areParts⟩) (fun _ entry => entry.1) ?_
    refine Triple.bind _ (Triple.tryExcept _ (stageRewrite_spec first earlier)
      fun error => .raise _ fun _ untouched => ⟨untouched, areParts⟩) fun item => ?_
    apply Triple.of_exact
    intro s₁ reached
    obtain ⟨entry, fileIdEqual, fresh, rewrites⟩ := reached
    have onceItem : ((earlier ++ [item]).map StagedRewrite.path).Nodup := by
      rw [map_append, nodup_append]
      refine ⟨once, nodup_singleton _, ?_⟩
      intro path mem other last same
      rw [map_singleton, mem_singleton] at last
      exact fresh (last ▸ same ▸ mem)
    have keeps : ∀ s, s = s₁ → Untouched start s := fun s same => same ▸ entry.1
    have arePartsItem : ∀ name ∈ parts ++ [.part operationId item.path],
        ∃ path, name = .part operationId path := by
      intro name mem
      rcases mem_append.mp mem with before | last
      · exact areParts name before
      · exact ⟨_, mem_singleton.mp last⟩
    refine mayRaise_bind (fun s same => ⟨keeps s same, arePartsItem⟩) keeps ?_
    refine Triple.bind _ ((ih (parts ++ [.part operationId item.path])
      (fun other mem => registered other (mem_cons_of_mem _ mem)) arePartsItem
      (earlier ++ [item]) onceItem).strengthen (by
        intro s same
        rw [same]
        exact entry)) fun more => ?_
    apply Triple.pure
    intro s later
    obtain ⟨state, nodup, names, each⟩ := later
    rw [append_assoc] at state nodup
    refine ⟨state, nodup, by simp [names, fileIdEqual], ?_⟩
    intro other mem
    rcases mem_cons.mp mem with same | inMore
    · subst same
      exact ⟨row, rewrites⟩
    · exact each other inMore

/-! ## Replacing the files -/

theorem writeRewriteJournal_spec (items : List (StagedRewrite Reference)) :
    Ends (fun s => Untouched start s ∧ PartsReady plan.operationId items s)
      (writeRewriteJournal service plan items)
      (fun _ s => Replacing service plan start items [] s ∧ PartsReady plan.operationId items s)
      (Untouched start) := by
  unfold writeRewriteJournal
  split
  · apply Triple.look_bind
    intro s₀ entry
    rw [entry.1.journal]
    have keeps : ∀ s, s = s₀ → Untouched start s := fun s same => same ▸ entry.1
    have opened : ∀ s, s = { s₀ with journalTemp := true } → Untouched start s := by
      intro s same
      subst same
      exact ⟨entry.1.journal, entry.1.back.targets, entry.1.back.registry, entry.1.back.derived⟩
    refine Triple.bind (fun _ s => s = { s₀ with journalTemp := true })
      (Triple.act ?_ ?_ keeps keeps) fun _ => ?_
    · intro s same s' happened
      subst same
      split at happened
      · cases happened
      · cases happened
        rfl
    · exact fun s same _ _ => keeps s same
    · refine mayRaise_bind opened opened ?_
      apply Triple.act_ok
      · intro s same
        subst same
        refine ⟨⟨rfl, entry.1.back.registry, entry.1.back.derived, nodup_nil, ?_, ?_⟩, entry.2⟩
        · exact fun path _ => entry.1.back.targets path
        · simp
      · exact opened
      · exact opened
  · exact .raise _ fun _ entry => entry.1

theorem Replacing.advance {replaced : List String} {item : StagedRewrite Reference}
    (replacing : Replacing service plan start items replaced disk) (mem : item ∈ items)
    (fresh : item.path ∉ replaced)
    (saved : disk.files (.backup plan.operationId item.path) = start.files (.target item.path)) :
    Replacing service plan start items (item.path :: replaced)
      ((disk.setFile (.target item.path) (some item.content)).setFile
        (.part plan.operationId item.path) none) := by
  refine ⟨replacing.journal, replacing.registry, replacing.derived,
    nodup_cons.mpr ⟨fresh, replacing.once⟩, ?_, ?_⟩
  · intro path absent
    simp only [mem_cons, not_or] at absent
    rw [RawStore.setFile_of_ne _ _ (by simp), RawStore.setFile_of_ne _ _ (by simpa using absent.1)]
    exact replacing.old path absent.2
  · intro path inReplaced
    have backupApart : FileName.backup plan.operationId path ≠
        .part plan.operationId item.path := by simp
    rw [RawStore.setFile_of_ne _ _ (by simp), RawStore.setFile_of_ne _ _ backupApart,
      RawStore.setFile_of_ne _ _
        (show FileName.backup plan.operationId path ≠ .target item.path by simp)]
    rcases mem_cons.mp inReplaced with same | earlier
    · subst same
      exact ⟨item, mem, rfl, RawStore.setFile_self _ _ _, saved⟩
    · have different : path ≠ item.path := fun same => fresh (same ▸ earlier)
      rw [RawStore.setFile_of_ne _ _ (by simpa using different)]
      exact replacing.new path earlier

variable (staged : AllStaged service plan start items)
include staged

/-- With every file replaced, the registry transaction commits the operation. -/
theorem applySyslogDeletionMetadata_spec (backups replaced : List String)
    (all : items.map StagedRewrite.path = replaced.reverse) :
    Triple (Replacing service plan start items replaced)
      (applySyslogDeletionMetadata service (fun error => Unwinding.mk error backups replaced) plan
        items)
      (fun _ => Committed service plan start items)
      (fun unwinding => Replacing service plan start items unwinding.replaced)
      (Interrupted service plan start) := by
  apply Triple.act
  · intro s replacing s' happened
    cases updated : applyFileUpdates service plan.runId items s.registry with
    | error failure => simp [updated] at happened
    | ok registry =>
      simp only [updated, Except.ok.injEq] at happened
      subst happened
      refine ⟨replacing.journal, ?_, ?_, ?_, ?_⟩
      · intro item mem
        have inReplaced : item.path ∈ replaced := by
          rw [← mem_reverse, ← all]
          exact mem_map_of_mem mem
        obtain ⟨other, memberOther, same, new, _⟩ := replacing.new item.path inReplaced
        have equal : other = item := inj_on_of_nodup_map staged.once memberOther mem same
        exact equal ▸ new
      · intro path absent
        apply replacing.old
        rwa [all, mem_reverse] at absent
      · rw [← replacing.registry]
        exact updated
      · show plan.deriveDeletion _ s.derived = _
        rw [replacing.derived]
  · intro s replacing e refused
    split at refused
    · cases refused
      exact replacing
    · cases refused
  · exact fun s replacing => replacing
  · exact fun s replacing => .replacing items replaced staged replacing

theorem replaceFiles_spec (rest : List (StagedRewrite Reference)) (backups replaced : List String)
    (within : ∀ item ∈ rest, item ∈ items)
    (all : items.map StagedRewrite.path = replaced.reverse ++ rest.map StagedRewrite.path) :
    Triple (fun s => Replacing service plan start items replaced s ∧
      PartsReady plan.operationId rest s) (replaceFiles service plan items rest backups replaced)
      (fun _ => Committed service plan start items)
      (fun unwinding => Replacing service plan start items unwinding.replaced)
      (Interrupted service plan start) := by
  have keeps : ∀ (replaced : List String) s, Replacing service plan start items replaced s →
      Interrupted service plan start s := fun replaced _ replacing =>
    .replacing items replaced staged replacing
  induction rest generalizing backups replaced with
  | nil =>
    refine mayRaise_bind (fun _ entry => entry.1) (fun s entry => keeps _ s entry.1) ?_
    apply (applySyslogDeletionMetadata_spec staged backups replaced (by simpa using all)).strengthen
    exact fun s entry => entry.1
  | cons item rest ih =>
    have mem := within item (mem_cons_self ..)
    have below : ∀ other ∈ rest, other ∈ items := fun other later =>
      within other (mem_cons_of_mem item later)
    have once := staged.once
    rw [all, nodup_append] at once
    obtain ⟨-, onceRest, apart⟩ := once
    have fresh : item.path ∉ replaced := by
      intro earlier
      exact apart _ (mem_reverse.mpr earlier) _ (by simp) rfl
    have restApart : ∀ other ∈ rest, other.path ≠ item.path := by
      intro other later same
      rw [map_cons, nodup_cons] at onceRest
      exact onceRest.1 (same ▸ mem_map_of_mem later)
    apply Triple.look_bind
    intro s₀ entry
    obtain ⟨replacing, ready⟩ := entry
    obtain ⟨row, content, rewrites⟩ := staged.each item mem
    have target : s₀.files (.target item.path) = some content := by
      rw [replacing.old item.path fresh, rewrites.stored]
    rw [target, Option.getD_some]
    have copying : ∀ s, (∃ copied, s = s₀.setFile (.backup plan.operationId item.path) copied) →
        Replacing service plan start items replaced s := by
      intro s equal
      obtain ⟨copied, same⟩ := equal
      subst same
      apply replacing.setFile (by simp)
      intro path earlier same
      cases same
      exact fresh earlier
    refine Triple.bind (fun _ s => s = s₀.setFile (.backup plan.operationId item.path) (some []))
      (Triple.act_ok ?_ ?_ ?_) fun _ => ?_
    · intro s same
      rw [same]
    · intro s same
      exact same ▸ replacing
    · intro s same
      exact keeps _ _ (same ▸ replacing)
    · have copied := appendBytes_spec (Unwinding.mk .osError backups replaced)
        (.backup plan.operationId item.path) s₀ [] content
      refine Triple.bind _ (copied.weaken (fun _ same => same) (fun _ _ same => same) ?_ ?_)
        fun _ => ?_
      · intro e s last
        rw [last.1]
        exact copying s last.2
      · intro s last
        exact keeps _ _ (copying s last)
      · have saved : ∀ s, s = s₀.setFile (.backup plan.operationId item.path)
          (some ([] ++ content)) →
            Replacing service plan start items replaced s := fun s same => copying s ⟨_, same⟩
        refine mayRaise_bind saved (fun s same => keeps _ _ (saved s same)) ?_
        refine Triple.bind (fun _ s =>
          Replacing service plan start items (item.path :: replaced) s ∧
          PartsReady plan.operationId rest s)
            (Triple.act ?_ ?_ saved fun s same => keeps _ _ (saved s same))
          fun _ => ?_
        · intro s same s' happened
          have part : s.files (.part plan.operationId item.path) = some item.content := by
            rw [same, RawStore.setFile_of_ne _ _ (by simp)]
            exact ready item (mem_cons_self ..)
          simp only [part, Except.ok.injEq] at happened
          subst happened
          refine ⟨(saved s same).advance mem fresh ?_, ?_⟩
          · rw [same, RawStore.setFile_self, rewrites.stored]
            rfl
          · have others : PartsReady plan.operationId rest s := by
              rw [same]
              apply PartsReady.setFile _ (by simp)
              exact fun other later => ready other (mem_cons_of_mem _ later)
            apply PartsReady.setFile _ _
            · exact others.setFile (by simp) _
            · intro other later same
              exact restApart other later (FileName.part.inj same).2.symm
        · intro s same e refused
          split at refused
          · cases refused
            exact saved s same
          · cases refused
        · refine Triple.bind _ (Triple.act ?_ ?_ (fun _ entry => entry.1)
            fun s entry => keeps _ s entry.1)
            fun _ => ih (item.path :: backups) (item.path :: replaced) below ?_
          · intro s entry s' happened
            split at happened
            · cases happened
              exact entry
            · cases happened
          · intro s entry e refused
            split at refused
            · cases refused
            · cases refused
              exact entry.1
          · rw [all]
            simp

/-! ## Rolling back -/

/-- The files of `left` are put back as far as possible; those of `failed`
already could not be. -/
theorem rollbackFiles_spec (failed left : List String) :
    Ends (Replacing service plan start items (failed ++ left)) (rollbackFiles plan.operationId left)
      (fun restored s => ∃ more, Replacing service plan start items (failed ++ more) s ∧
        (restored = true → more = [])) (Interrupted service plan start) := by
  have keeps : ∀ (replaced : List String) s, Replacing service plan start items replaced s →
      Interrupted service plan start s := fun replaced _ replacing =>
    .replacing items replaced staged replacing
  induction left generalizing failed with
  | nil =>
    apply Triple.pure
    intro s replacing
    exact ⟨[], replacing, fun _ => rfl⟩
  | cons path rest ih =>
    refine Triple.bind (fun restored s =>
      (restored = true ∧ Replacing service plan start items (failed ++ rest) s) ∨
      (restored = false ∧ Replacing service plan start items (failed ++ path :: rest) s))
      (Triple.tryExcept (fun _ => Replacing service plan start items (failed ++ path :: rest))
        (Triple.bind (fun _ => Replacing service plan start items (failed ++ rest))
          (Triple.act ?_ ?_ (fun _ replacing => replacing) (keeps _)) fun _ =>
            .pure _ fun _ replacing => .inl ⟨rfl, replacing⟩)
        fun _ => .pure _ fun _ replacing => .inr ⟨rfl, replacing⟩) fun restored => ?_
    · intro s replacing s' happened
      split at happened
      · cases happened
      · next content backup =>
        cases happened
        have perm : (failed ++ path :: rest).Perm (path :: (failed ++ rest)) := perm_middle
        apply replacing.restore _ (perm.nodup_iff.mp replacing.once) backup
        intro other
        rw [perm.mem_iff, mem_cons]
    · intro s replacing e _
      exact replacing
    · apply Triple.of_exact
      intro s entry
      rcases entry with ⟨yes, replacing⟩ | ⟨no, replacing⟩
      · subst yes
        refine Triple.bind _ ((ih failed).strengthen fun s' same => same ▸ replacing)
          fun others => .pure _ fun s' ended => ?_
        obtain ⟨more, reached, none⟩ := ended
        exact ⟨more, reached, by simpa using none⟩
      · subst no
        have regroup : failed ++ path :: rest = (failed ++ [path]) ++ rest := by simp
        refine Triple.bind _ ((ih (failed ++ [path])).strengthen fun s' same => ?_)
          fun others => .pure _ fun s' ended => ?_
        · rw [same, ← regroup]
          exact replacing
        · obtain ⟨more, reached, _⟩ := ended
          exact ⟨path :: more, by simpa using reached, by simp⟩

omit staged

/-- Removing files, when what holds does not depend on them. -/
theorem unlinkAll_spec {holds : RawStore Derived → Prop}
    {raises : LifecycleError → RawStore Derived → Prop} {cutOff : RawStore Derived → Prop}
    (names : List FileName) (kept : ∀ name ∈ names, ∀ s, holds s → holds (s.setFile name none))
    (missed : ∀ e s, holds s → raises e s) (cut : ∀ s, holds s → cutOff s) :
    Triple holds (unlinkAll names) (fun _ => holds) raises cutOff := by
  induction names with
  | nil => exact .pure _ fun _ entry => entry
  | cons name rest ih =>
    refine Triple.bind _ (unlink_spec (kept name (mem_cons_self ..)) (missed _) cut).triple
      fun _ => ih fun other mem => kept other (mem_cons_of_mem _ mem)

theorem rollback_spec (staged : AllStaged service plan start items) (unwinding : Unwinding) :
    Ends (Replacing service plan start items unwinding.replaced)
      (rollback plan.operationId unwinding)
      (fun _ => Committed service plan start items) (Interrupted service plan start) := by
  have back : ∀ s, Replacing service plan start items [] s → Interrupted service plan start s :=
    fun _ replacing => .replacing items [] staged replacing
  refine Triple.bind _ (rollbackFiles_spec staged [] unwinding.replaced) fun restored => ?_
  cases restored with
  | false =>
    apply Triple.raise
    intro s ended
    obtain ⟨more, replacing, _⟩ := ended
    exact .replacing items more staged replacing
  | true =>
    have backupsGone : Ends (Replacing service plan start items [])
        (unlinkAll (unwinding.backups.reverse.map (.backup plan.operationId)))
        (fun _ => Replacing service plan start items []) (Interrupted service plan start) := by
      apply unlinkAll_spec _ _ (fun _ => back) back
      intro name mem s replacing
      obtain ⟨_, _, equal⟩ := mem_map.mp mem
      subst equal
      exact replacing.setFile (by simp) (by simp) none
    refine Triple.bind _ (backupsGone.strengthen ?_) fun _ => ?_
    · intro s ended
      obtain ⟨more, replacing, none⟩ := ended
      rwa [none rfl] at replacing
    · refine Triple.bind _ ((unlinkJournal_spec _ staged).triple.strengthen ?_) fun _ =>
        .raise _ fun _ settled => .settled settled
      intro s replacing
      exact .inl ⟨[], replacing, by simp⟩

/-! ## The deletion -/

theorem rewriteFiles_spec (staged : AllStaged service plan start items) :
    Ends (fun s => Untouched start s ∧ PartsReady plan.operationId items s)
      (rewriteFiles service plan items)
      (fun _ => Done service plan start) (Interrupted service plan start) := by
  have untouched : ∀ s, Untouched start s → Interrupted service plan start s :=
    fun _ untouched => untouched.interrupted
  have committed : ∀ s, Committed service plan start items s → Interrupted service plan start s :=
    fun _ committed => .committed items staged committed
  unfold rewriteFiles
  split
  · exact .raise _ fun s entry => untouched s entry.1
  · refine Triple.bind _ ((writeRewriteJournal_spec items).weaken (fun _ entry => entry)
      (fun _ _ reached => reached) (fun _ => untouched) untouched) fun _ => ?_
    refine Triple.bind _ (Triple.tryExcept _ (replaceFiles_spec staged items [] []
      (fun _ mem => mem) (by simp)) (rollback_spec staged)) fun _ => ?_
    refine Triple.bind _ (unlinkAll_spec _ ?_ (fun _ => committed) committed) fun _ => ?_
    · intro name mem s reached
      obtain ⟨_, _, equal⟩ := mem_map.mp mem
      subst equal
      exact reached.setFile (by simp) none
    · refine Triple.bind (fun _ => Done service plan start) ?_ fun _ => ?_
      · refine Triple.act_ok ?_ committed committed
        intro s reached
        have forward := reached.forward
        exact ⟨rfl, items, staged, forward.rewritten, forward.others, forward.registry,
          forward.derived⟩
      · have settled : ∀ s, Done service plan start s → Interrupted service plan start s :=
          fun _ done => .settled done.settled
        exact Assured.triple (mayRaise_spec _ settled settled)

theorem lockFiles_spec (files : List PlannedFile) : Triple (· = start) (lockFiles files)
      (fun locked s => s = start ∧ locked.map Prod.fst = files.map PlannedFile.fileId ∧
        ∀ file ∈ locked, start.registry file.1 = some file.2)
      (fun _ s => s = start) (· = start) := by
  induction files with
  | nil => exact .pure _ fun _ same => ⟨same, rfl, by simp⟩
  | cons planned rest ih =>
    refine mayRaise_bind (fun _ same => same) (fun _ same => same) ?_
    apply Triple.look_bind
    intro s same
    subst same
    cases registered : s.registry planned.fileId with
    | none => exact .raise _ fun _ same => same
    | some row =>
      refine mayRaise_bind (fun _ same => same) (fun _ same => same) ?_
      refine mayRaise_bind (fun _ same => same) (fun _ same => same) ?_
      refine Triple.bind (fun _ s' => s' = s)
        (Triple.ofExcept (fun _ _ _ same => same) fun _ _ _ same => same) fun _ => ?_
      refine mayRaise_bind (fun _ same => same) (fun _ same => same) ?_
      refine Triple.bind _ ih fun more => .pure _ fun s' found => ?_
      obtain ⟨same, names, rows⟩ := found
      refine ⟨same, by simp [names], ?_⟩
      intro file mem
      rcases mem_cons.mp mem with equal | later
      · subst equal
        exact registered
      · exact rows file later

/-- However it ends, a deletion leaves a state that recovery understands; when
it returns, it is done. -/
theorem executeSyslogDeletion_spec (clean : start.journal = none) :
    Ends (· = start) (executeSyslogDeletion service plan)
      (fun _ => Done service plan start) (Interrupted service plan start) := by
  have first : Untouched start start := ⟨clean, fun _ => rfl, rfl, rfl⟩
  have same : ∀ s, s = start → Untouched start s := fun s equal => equal ▸ first
  have interrupted : ∀ s, s = start → Interrupted service plan start s :=
    fun s equal => (same s equal).interrupted
  refine Triple.bind (fun _ s => s = start) ?_ fun _ => ?_
  · apply Triple.look_bind
    intro s equal
    rw [equal, clean]
    exact .pure _ fun _ last => last
  · refine Triple.bind (fun _ s => s = start) (Triple.ofExcept (fun _ _ _ equal => equal)
      fun _ _ => interrupted) fun _ => ?_
    refine mayRaise_bind interrupted interrupted ?_
    refine Triple.bind _ ((lockFiles_spec plan.sortedFiles).weaken (fun _ equal => equal)
      (fun _ _ found => found) (fun _ => interrupted) interrupted) fun locked => ?_
    apply Triple.of_exact
    intro s found
    obtain ⟨equal, names, registered⟩ := found
    subst equal
    refine mayRaise_bind interrupted interrupted ?_
    have partGone : ∀ names : List FileName,
        (∀ name ∈ names, ∃ path, name = .part plan.operationId path) →
        ∀ name ∈ names, ∀ s', Interrupted service plan s s' →
          Interrupted service plan s (s'.setFile name none) := by
      intro names areParts name mem s' reached
      obtain ⟨path, equal⟩ := areParts name mem
      exact equal ▸ reached.setPart _ path none
    refine Triple.bind _ (Triple.tryExcept _ ((stageFiles_spec plan.scope locked [] registered
      (by simp) [] nodup_nil).weaken (fun s' equal => ?_) (fun _ _ reached => reached)
      (fun _ _ reached => reached) fun _ => Untouched.interrupted) fun failure => ?_)
      fun items => ?_
    · exact ⟨same s' equal, by simp [PartsReady]⟩
    · apply Triple.of_exact
      intro s' reached
      refine Triple.bind (fun _ => Interrupted service plan s)
        ((unlinkAll_spec _ (partGone _ reached.2) (fun _ _ i => i) fun _ i => i).strengthen ?_)
        fun _ => .raise _ fun _ i => i
      intro s'' equal
      exact equal ▸ reached.1.interrupted
    · apply Triple.of_exact
      intro s' reached
      obtain ⟨entry, once, ids, each⟩ := reached
      have staged : AllStaged service plan s items :=
        ⟨each, by simpa using once, by rw [ids, names]⟩
      have areParts : ∀ name ∈ items.map fun item => FileName.part plan.operationId item.path,
          ∃ path, name = .part plan.operationId path := by
        intro name mem
        obtain ⟨item, _, equal⟩ := mem_map.mp mem
        exact ⟨_, equal.symm⟩
      refine Triple.tryFinally _ _ ((rewriteFiles_spec staged).strengthen fun s'' equal => ?_)
        (fun _ => unlinkAll_spec _ ?_ (fun _ _ done => .settled done.settled)
          fun _ done => .settled done.settled)
        fun _ => unlinkAll_spec _ (partGone _ areParts) (fun _ _ i => i) fun _ i => i
      · rw [equal]
        simpa using entry
      · intro name mem s'' done
        obtain ⟨path, equal⟩ := areParts name mem
        exact equal ▸ done.setFile (by simp) none

/-! ## The result -/

variable (service plan start) in
/-- Every planned file has its rewritten content and is registered at the next
revision; no other raw file and no other registration changed. -/
structure RolledForward (after : RawStore Derived) : Prop where
  planned : ∀ file ∈ plan.files, ∃ row content item, start.registry file.fileId = some row ∧
    start.files (.target row.relativePath) = some content ∧
    stagedRewrite service plan.scope file.fileId row.relativePath row.revision content = .ok item ∧
    after.files (.target row.relativePath) = some item.content ∧
    after.registry file.fileId = some (row.rewritten service item)
  otherFiles : ∀ path, (∀ file ∈ plan.files, ∀ row, start.registry file.fileId = some row →
      row.relativePath ≠ path) →
    after.files (.target path) = start.files (.target path)
  otherRows : ∀ fileId, fileId ∉ plan.files.map PlannedFile.fileId →
    after.registry fileId = start.registry fileId

theorem mem_sortedFiles {file : PlannedFile} : file ∈ plan.sortedFiles ↔ file ∈ plan.files :=
  (perm_insertionSort _ plan.files).mem_iff

theorem Forward.rolledForward (staged : AllStaged service plan start items)
    (forward : Forward service plan start items disk) : RolledForward service plan start disk := by
  obtain ⟨rows, otherRows⟩ := applyFileUpdates_row forward.registry staged.fileIds_nodup
  refine ⟨?_, ?_, ?_⟩
  · intro file mem
    have inItems : file.fileId ∈ items.map StagedRewrite.fileId := by
      rw [staged.planned]
      exact mem_map_of_mem (mem_sortedFiles.mpr mem)
    obtain ⟨item, memberItem, same⟩ := mem_map.mp inItems
    obtain ⟨row, content, rewrites⟩ := staged.each item memberItem
    obtain ⟨other, registered, after⟩ := rows item memberItem
    have equal : other = row := Option.some.inj (registered.symm.trans rewrites.registered)
    rw [← same]
    exact ⟨row, content, item, rewrites.registered, rewrites.path ▸ rewrites.stored,
      rewrites.path ▸ rewrites.staged, rewrites.path ▸ forward.rewritten item memberItem,
      equal ▸ after⟩
  · intro path absent
    apply forward.others
    intro mem
    obtain ⟨item, memberItem, same⟩ := mem_map.mp mem
    obtain ⟨row, _, rewrites⟩ := staged.each item memberItem
    have inPlan : item.fileId ∈ plan.sortedFiles.map PlannedFile.fileId :=
      staged.planned ▸ mem_map_of_mem memberItem
    obtain ⟨file, memberFile, fileIdEqual⟩ := mem_map.mp inPlan
    exact absent file (mem_sortedFiles.mp memberFile) row (fileIdEqual ▸ rewrites.registered)
      (rewrites.path.trans same)
  · intro fileId absent
    apply otherRows
    rw [staged.planned]
    intro mem
    obtain ⟨file, memberFile, same⟩ := mem_map.mp mem
    exact absent (same ▸ mem_map_of_mem (mem_sortedFiles.mp memberFile))

theorem Settled.result (settled : Settled service plan start disk) :
    disk.journal = none ∧ (RolledBack start disk ∨ RolledForward service plan start disk) := by
  obtain ⟨none, back | ⟨_, staged, forward⟩⟩ := settled
  · exact ⟨none, .inl back⟩
  · exact ⟨none, .inr (forward.rolledForward staged)⟩

/-- A deletion that is interrupted anywhere, and a recovery that is interrupted
any number of times: a recovery that ends leaves everything as before or
everything rewritten, and running it again changes nothing. A recovery without
faults does end. -/
theorem executeSyslogDeletion_atomic (service : LifecycleService)
    (plan : DeletionPlan Record Reference Derived) {start disk : RawStore Derived}
    (clean : start.journal = none) (faults : List Fault)
    (attempts : Attempts (recoverInterruptedOperations service) (fun _ => True)
      ((executeSyslogDeletion service plan).run start faults).2 disk) :
    (∀ recovery after,
      (recoverInterruptedOperations service).run disk recovery = (.returned (), after) →
        after.journal = none ∧ (RolledBack start after ∨ RolledForward service plan start after) ∧
        ∀ again, (recoverInterruptedOperations service).run after again = (.returned (), after)) ∧
    (plan.files ≠ [] → isOperationId plan.operationId = true →
      ∃ after, (recoverInterruptedOperations service).run disk [] = (.returned (), after)) := by
  have first : Interrupted service plan start
      ((executeSyslogDeletion service plan).run start faults).2 := by
    have spec : Ends (fun s => s = start) (executeSyslogDeletion service plan)
        (fun _ => Done service plan start)
        (Interrupted service plan start) := executeSyslogDeletion_spec clean
    have ended := spec.of_run rfl faults
    revert ended
    cases (executeSyslogDeletion service plan).run start faults with
    | mk outcome left =>
      cases outcome with
      | returned _ => exact fun done => .settled done.settled
      | raised _ => exact fun reached => reached
      | crashed => exact fun reached => reached
  have interrupted : Interrupted service plan start disk := by
    refine Attempts.keeps (recoverInterruptedOperations_spec.strengthen fun s entry => ?_) first
      attempts
    exact entry.1
  constructor
  · intro recovery after completed
    have settled := recoverInterruptedOperations_spec.of_run interrupted recovery
    rw [completed] at settled
    obtain ⟨none, result⟩ := settled.result
    refine ⟨none, result, ?_⟩
    intro again
    simp [Proc.run, recoverInterruptedOperations, Proc.look, none, bind, EStateM.bind, pure,
      EStateM.pure]
  · intro files operationId
    obtain ⟨_, after, ended, _⟩ :=
      (recoverInterruptedOperations_completes files operationId).run_eq interrupted
    exact ⟨after, ended⟩

/-! ## An interrupted deletion -/

/-- A service whose digest is the content itself. -/
def sampleService : LifecycleService where
  siteId := "site"
  sha256 content := String.ofList (content.map fun byte => Char.ofNat byte.toNat)
  getRun _ := some ⟨"COMPLETED", ""⟩

/-- A plan that removes the first line of a file. -/
def samplePlan : DeletionPlan Unit Nat Unit where
  siteId := "site"
  runId := "run"
  operationId := "operation"
  scope :=
    { decodeRecord _ := some ()
      receiveTime _ := ""
      recordReference _ _ lineNumber := lineNumber
      matchesDeleteScope _ _ lineNumber := .ok (lineNumber = 1) }
  files := [⟨"file", 1⟩]
  expectedMatchedCount := 1
  deriveDeletion _ derived := derived

/-- The file with two lines. -/
def sampleStore : RawStore Unit where
  files name := if name = .target "raw" then some [65, 10, 66, 10] else none
  journalTemp := false
  journal := none
  registry fileId :=
    if fileId = "file" then
      some ⟨"run", "raw", "syslog", "CLOSED", "", "", 1, 2, 4, "A\nB\n", "", ""⟩
    else none
  derived := ()

/-- The process is cut off right after the file was replaced, before the
registry is committed. -/
theorem executeSyslogDeletion_atomic_replaced :
    ∃ after, (recoverInterruptedOperations sampleService).run
        ((executeSyslogDeletion sampleService samplePlan).run sampleStore
          (List.replicate 24 .proceed ++ [.crash])).2 [] = (.returned (), after) ∧
      (RolledBack sampleStore after ∨
        RolledForward sampleService samplePlan sampleStore after) := by
  have clean : sampleStore.journal = none := rfl
  obtain ⟨result, completes⟩ := executeSyslogDeletion_atomic sampleService samplePlan clean
    (List.replicate 24 .proceed ++ [.crash]) .first
  obtain ⟨after, ended⟩ := completes (by decide) (by decide +kernel)
  exact ⟨after, ended, (result [] after ended).2.1⟩

end NetConsole.Syslog
