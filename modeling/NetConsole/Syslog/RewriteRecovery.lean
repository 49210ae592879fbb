import NetConsole.Syslog.RewriteStates

/-!
# Recovery of an interrupted rewrite

From every state that an interruption can leave, `recoverInterruptedOperations`
ends settled, or is itself interrupted in such a state
(`recoverInterruptedOperations_spec`). The registry tells whether the operation
is taken back or finished: it changes in one transaction, so all of its
revisions are the base ones or all are the next.
-/

set_option autoImplicit false

namespace NetConsole.Syslog

open Foundations List

variable {Record Reference Derived : Type}
  {service : LifecycleService} {plan : DeletionPlan Record Reference Derived}
  {start disk : RawStore Derived} {items : List (StagedRewrite Reference)}

/-! ## The registry decides -/

variable (staged : AllStaged service plan start items)
include staged

/-- Different paths have different identifiers. -/
theorem AllStaged.fileIds_nodup : (items.map StagedRewrite.fileId).Nodup := by
  rw [List.Nodup, pairwise_map]
  apply List.Pairwise.imp_of_mem _ (pairwise_map.mp staged.once)
  intro first second memberFirst memberSecond different same
  obtain ⟨row, _, rewrites⟩ := staged.each first memberFirst
  obtain ⟨other, _, rewritesOther⟩ := staged.each second memberSecond
  have rows : row = other := by
    have registered := rewrites.registered
    rw [same, rewritesOther.registered] at registered
    exact (Option.some.inj registered).symm
  apply different
  rw [← rewrites.path, rows, rewritesOther.path]

omit staged in
theorem applyFileUpdates_row {runId : String} {registry registry' : String → Option RegisteredFile}
    (updated : applyFileUpdates service runId items registry = .ok registry')
    (once : (items.map StagedRewrite.fileId).Nodup) :
    (∀ item ∈ items, ∃ row, registry item.fileId = some row ∧
      registry' item.fileId = some (row.rewritten service item)) ∧
    ∀ fileId, fileId ∉ items.map StagedRewrite.fileId → registry' fileId = registry fileId := by
  induction items generalizing registry with
  | nil =>
    cases updated
    simp
  | cons item rest ih =>
    simp only [map_cons, nodup_cons] at once
    unfold applyFileUpdates at updated
    cases registered : registry item.fileId with
    | none => simp [registered] at updated
    | some row =>
      simp only [registered] at updated
      split at updated
      · obtain ⟨inRest, others⟩ := ih updated once.2
        constructor
        · intro other mem
          rcases mem_cons.mp mem with same | later
          · subst same
            refine ⟨row, registered, ?_⟩
            rw [others _ once.1, Function.update_self]
          · have different : other.fileId ≠ item.fileId := by
              intro same
              exact once.1 (same ▸ mem_map_of_mem later)
            obtain ⟨found, before, after⟩ := inRest other later
            rw [Function.update_of_ne different] at before
            exact ⟨found, before, after⟩
        · intro fileId absent
          simp only [map_cons, mem_cons, not_or] at absent
          rw [others fileId absent.2, Function.update_of_ne absent.1]
      · cases updated

omit staged in
/-- Every file of the journal is registered under its path. -/
theorem resolveEntries_spec (entries : List JournalEntry) (s₀ : RawStore Derived)
    (registered : ∀ entry ∈ entries, ∃ row, s₀.registry entry.fileId = some row ∧
      row.relativePath = entry.relativePath) :
    Assured (· = s₀) (resolveEntries entries)
      (fun resolved s => s = s₀ ∧ resolved.map Prod.fst = entries ∧
        ∀ pair ∈ resolved, s₀.registry pair.1.fileId = some pair.2)
      (fun _ s => s = s₀) (· = s₀) := by
  induction entries with
  | nil => exact .pure _ fun s same => ⟨same, rfl, by simp⟩
  | cons entry rest ih =>
    apply Assured.look_bind
    intro s same
    subst same
    obtain ⟨row, found, path⟩ := registered entry (mem_cons_self ..)
    simp only [found, path, ne_eq, not_true_eq_false]
    refine Assured.bind _ (mayRaise_spec _ (fun _ same => same) fun _ same => same) fun _ => ?_
    refine Assured.bind _ (mayRaise_spec _ (fun _ same => same) fun _ same => same) fun _ => ?_
    refine Assured.bind _ (ih fun other mem =>
      registered other (mem_cons_of_mem entry mem)) fun resolved => ?_
    apply Assured.pure
    intro s' found'
    obtain ⟨same, entries, rows⟩ := found'
    refine ⟨same, by simp [entries], ?_⟩
    intro pair mem
    rcases mem_cons.mp mem with equal | later
    · subst equal
      exact found
    · exact rows pair later

variable {resolved : List (JournalEntry × RegisteredFile)}

theorem isPending_of_base (entries : resolved.map Prod.fst = items.map (journalEntry service))
    (rows : ∀ pair ∈ resolved, start.registry pair.1.fileId = some pair.2) (nonempty : items ≠ []) :
    isPending resolved = true ∧ isCommitted resolved = false := by
  have base : ∀ pair ∈ resolved, pair.2.revision = pair.1.baseRevision := by
    intro pair mem
    have inItems : pair.1 ∈ items.map (journalEntry service) :=
      entries ▸ mem_map_of_mem mem
    obtain ⟨item, memberItem, equal⟩ := mem_map.mp inItems
    obtain ⟨row, _, rewrites⟩ := staged.each item memberItem
    have found := rows pair mem
    rw [← equal] at found ⊢
    have same : row = pair.2 := Option.some.inj (rewrites.registered.symm.trans found)
    rw [← same]
    exact rewrites.revision.symm
  constructor
  · simp only [isPending, all_eq_true, decide_eq_true_eq]
    exact base
  · cases resolved with
    | nil =>
      exact absurd (map_eq_nil_iff.mp entries.symm) nonempty
    | cons pair rest =>
      have first := base pair (mem_cons_self ..)
      simp [isCommitted, first]

/-- With the registry at the next revisions the operation is committed. -/
theorem isCommitted_of_forward (forward : Forward service plan start items disk)
    (entries : resolved.map Prod.fst = items.map (journalEntry service))
    (rows : ∀ pair ∈ resolved, disk.registry pair.1.fileId = some pair.2) :
    isCommitted resolved = true := by
  simp only [isCommitted, all_eq_true, Bool.and_eq_true, decide_eq_true_eq]
  intro pair mem
  have inItems : pair.1 ∈ items.map (journalEntry service) :=
    entries ▸ mem_map_of_mem mem
  obtain ⟨item, memberItem, equal⟩ := mem_map.mp inItems
  obtain ⟨row, registered, after⟩ :=
    (applyFileUpdates_row forward.registry staged.fileIds_nodup).1 item memberItem
  obtain ⟨other, _, rewrites⟩ := staged.each item memberItem
  have found := rows pair mem
  rw [← equal] at found ⊢
  have same : row.rewritten service item = pair.2 := Option.some.inj (after.symm.trans found)
  have base : row = other := Option.some.inj (registered.symm.trans rewrites.registered)
  rw [← same, base]
  exact ⟨by simp [RegisteredFile.rewritten, journalEntry, rewrites.revision], rfl⟩

/-! ## Taking back -/

variable (service plan start items) in
/-- The files outside `left` are old. -/
def Recovering (left : List String) (disk : RawStore Derived) : Prop :=
  ∃ replaced, Replacing service plan start items replaced disk ∧ ∀ path ∈ replaced, path ∈ left

variable {left : List String}

theorem Recovering.interrupted (recovering : Recovering service plan start items left disk) :
    Interrupted service plan start disk := by
  obtain ⟨replaced, replacing, _⟩ := recovering
  exact .replacing items replaced staged replacing

variable {rest : List String} {path : String}
  (recovering : Recovering service plan start items (path :: rest) disk)
include recovering

omit staged in
/-- A file that is old needs no backup. -/
theorem Recovering.skip (old : disk.files (.target path) = start.files (.target path)) :
    Recovering service plan start items rest disk := by
  obtain ⟨replaced, replacing, within⟩ := recovering
  refine ⟨replaced.erase path, ?_, ?_⟩
  · refine ⟨replacing.journal, replacing.registry, replacing.derived,
      replacing.once.erase path, ?_, ?_⟩
    · intro other absent
      by_cases same : other = path
      · rw [same, old]
      · apply replacing.old
        intro mem
        exact absent ((mem_erase_of_ne same).mpr mem)
    · intro other mem
      exact replacing.new other (mem_of_mem_erase mem)
  · intro other mem
    have apart := (replacing.once.mem_erase_iff).mp mem
    exact (mem_cons.mp (within other apart.2)).resolve_left apart.1

omit staged in
theorem Recovering.restore {content : List UInt8}
    (new : disk.files (.target path) ≠ start.files (.target path))
    (backup : disk.files (.backup plan.operationId path) = some content) :
    Recovering service plan start items rest ((disk.setFile (.target path)
      (some content)).setFile (.backup plan.operationId path) none) := by
  obtain ⟨replaced, replacing, within⟩ := recovering
  have mem : path ∈ replaced := by
    by_contra absent
    exact new (replacing.old path absent)
  refine ⟨replaced.erase path, ?_, ?_⟩
  · apply replacing.restore _ _ backup
    · intro other
      by_cases same : other = path
      · simp [same, mem]
      · simp [same]
    · rw [nodup_cons]
      exact ⟨replacing.once.not_mem_erase, replacing.once.erase path⟩
  · intro other inErased
    have apart := (replacing.once.mem_erase_iff).mp inErased
    exact (mem_cons.mp (within other apart.2)).resolve_left apart.1

omit recovering

variable {item : StagedRewrite Reference}

theorem fileHasIdentity_old
    (recovering : Recovering service plan start items left disk) (mem : item ∈ items) :
    fileHasIdentity service disk (.target item.path) item.oldSizeBytes item.oldSha256 = true ↔
      disk.files (.target item.path) = start.files (.target item.path) := by
  obtain ⟨_, _, rewrites⟩ := staged.each item mem
  obtain ⟨_, _, _, size, digest⟩ := stagedRewrite_fields service rewrites.staged
  obtain ⟨replaced, replacing, _⟩ := recovering
  constructor
  · intro identity
    by_cases replacedPath : item.path ∈ replaced
    · obtain ⟨other, memberOther, same, new, _⟩ := replacing.new item.path replacedPath
      have equal : other = item :=
        inj_on_of_nodup_map staged.once memberOther mem same
      subst equal
      rw [new, rewrites.stored]
      simp only [fileHasIdentity, new, size, Bool.and_eq_true, decide_eq_true_eq] at identity
      rcases stagedRewrite_size service rewrites.staged with unchanged | shorter
      · rw [unchanged]
      · omega
    · exact replacing.old item.path replacedPath
  · intro old
    simp [fileHasIdentity, old, rewrites.stored, size, digest]

variable {holds : RawStore Derived → Prop} {name : FileName}
  {cutOff : RawStore Derived → Prop} {sizeBytes : Nat} {digest : String}

omit staged in
theorem verifyFileIdentity_spec {raises : LifecycleError → RawStore Derived → Prop}
    (identity : ∀ s, holds s → fileHasIdentity service s name sizeBytes digest = true)
    (failed : ∀ e s, holds s → raises e s) (cut : ∀ s, holds s → cutOff s) :
    Assured holds (verifyFileIdentity service name sizeBytes digest) (fun _ => holds) raises
      cutOff := by
  refine .act ?_ (failed _) cut
  intro s entry
  exact ⟨s, by simp [identity s entry], entry⟩

theorem restoreTarget_spec (mem : item ∈ items)
    (rest : List String) : EndsAssured (Recovering service plan start items (item.path :: rest))
      (restoreTarget service plan.operationId (journalEntry service item))
      (fun _ => Recovering service plan start items rest) (Interrupted service plan start) := by
  have keeps : ∀ (left : List String) s, Recovering service plan start items left s →
      Interrupted service plan start s := fun _ _ recovering => recovering.interrupted staged
  refine .bind _ (mayRaise_spec _ (keeps _) (keeps _)) fun _ => .look_bind ?_
  intro s recovering
  have interrupted : ∀ s', s' = s → Interrupted service plan start s' := by
    rintro s' rfl
    exact keeps _ _ recovering
  split
  · next identity =>
    apply Assured.pure
    intro s' same
    subst same
    exact recovering.skip ((fileHasIdentity_old staged recovering mem).mp identity)
  · next changed =>
    have new : s.files (.target item.path) ≠ start.files (.target item.path) := fun old =>
      changed ((fileHasIdentity_old staged recovering mem).mpr old)
    -- the file is new, so its backup is the old content
    have replaced : item.path ∈ recovering.choose := by
      by_contra absent
      exact new (recovering.choose_spec.1.old _ absent)
    obtain ⟨_, _, _, _, saved⟩ := recovering.choose_spec.1.new _ replaced
    obtain ⟨row, content, rewrites⟩ := staged.each item mem
    obtain ⟨_, _, _, size, digest⟩ := stagedRewrite_fields service rewrites.staged
    rw [rewrites.stored] at saved
    apply Assured.bind (fun _ s' => s' = s)
    · refine verifyFileIdentity_spec ?_ (fun _ => interrupted) interrupted
      intro s' same
      subst same
      simp [journalEntry, fileHasIdentity, saved, size, digest]
    · intro _
      apply Assured.bind (fun _ s' => s' = (s.setFile (.target item.path) (some content)).setFile
        (.backup plan.operationId item.path) none)
      · refine .act ?_ interrupted interrupted
        intro s' same
        subst same
        exact ⟨_, by simp [journalEntry, saved], rfl⟩
      · intro _
        have restored := recovering.restore new saved
        refine (verifyFileIdentity_spec (fun s' same => ?_) (fun _ s' same => ?_)
          fun s' same => ?_).weaken (fun _ same => same) (fun _ s' same => same ▸ restored)
            (fun _ _ i => i) fun _ i => i
        · subst same
          simp [journalEntry, fileHasIdentity, RawStore.setFile_of_ne, RawStore.setFile_self, size,
            digest]
        · exact keeps _ _ (same ▸ restored)
        · exact keeps _ _ (same ▸ restored)

variable {ε : Type}

omit staged in
/-- Removing a backup or a part, when what holds does not depend on it. -/
theorem unlink_spec {error : ε} {raises : ε → RawStore Derived → Prop}
    (kept : ∀ s, holds s → holds (s.setFile name none)) (missed : ∀ s, holds s → raises error s)
    (cut : ∀ s, holds s → cutOff s) :
    Assured holds (unlink error name) (fun _ => holds) raises cutOff :=
  .act_ok kept missed cut

omit staged in
theorem Recovering.setFile (recovering : Recovering service plan start items left disk)
    (other : ∀ path, name ≠ .target path)
    (free : ∀ path ∈ left, name ≠ .backup plan.operationId path) (content : Option (List UInt8)) :
    Recovering service plan start items left (disk.setFile name content) := by
  obtain ⟨replaced, replacing, within⟩ := recovering
  exact ⟨replaced, replacing.setFile other (fun _ mem => free _ (within _ mem)) _, within⟩

/-- Taking back the files of the entries one after another. -/
theorem recoverEntries_pending
    (rest : List (StagedRewrite Reference)) (within : ∀ item ∈ rest, item ∈ items)
    (once : (rest.map StagedRewrite.path).Nodup) :
    EndsAssured (Recovering service plan start items (rest.map StagedRewrite.path))
      (recoverEntries service plan.operationId false (rest.map (journalEntry service)))
      (fun _ => Recovering service plan start items []) (Interrupted service plan start) := by
  have keeps : ∀ (left : List String) s, Recovering service plan start items left s →
      Interrupted service plan start s := fun _ _ recovering => recovering.interrupted staged
  induction rest with
  | nil => exact .pure _ fun _ recovering => recovering
  | cons item rest ih =>
    simp only [map_cons, nodup_cons] at once
    have below : ∀ other ∈ rest, other ∈ items := fun other mem =>
      within other (mem_cons_of_mem item mem)
    refine Assured.bind (fun _ => Recovering service plan start items
      (rest.map StagedRewrite.path)) ?_ fun _ => ih below once.2
    refine Assured.bind _ (restoreTarget_spec staged (within item (mem_cons_self ..)) _) fun _ => ?_
    refine Assured.bind _ (unlink_spec ?_ (keeps _) (keeps _)) fun _ =>
      unlink_spec ?_ (keeps _) (keeps _)
    · intro s recovering
      apply recovering.setFile (by simp)
      intro path mem same
      cases same
      exact once.1 mem
    · intro s recovering
      exact recovering.setFile (by simp) (by simp) none

/-- Finishing: the backups and the parts go. -/
theorem recoverEntries_committed
    (rest : List (StagedRewrite Reference)) (within : ∀ item ∈ rest, item ∈ items) :
    EndsAssured (Committed service plan start items)
      (recoverEntries service plan.operationId true (rest.map (journalEntry service)))
      (fun _ => Committed service plan start items) (Interrupted service plan start) := by
  have keeps : ∀ s, Committed service plan start items s → Interrupted service plan start s :=
    fun _ committed => .committed items staged committed
  induction rest with
  | nil => exact .pure _ fun _ committed => committed
  | cons item rest ih =>
    refine Assured.bind (fun _ => Committed service plan start items) ?_
      fun _ => ih fun other mem => within other (mem_cons_of_mem item mem)
    refine Assured.bind _ (verifyFileIdentity_spec ?_ (fun _ => keeps) keeps) fun _ => ?_
    · intro s committed
      have new := committed.forward.rewritten item (within item (mem_cons_self ..))
      simp [journalEntry, fileHasIdentity, new]
    · refine Assured.bind _ (unlink_spec ?_ keeps keeps) fun _ => unlink_spec ?_ keeps keeps
      · intro s committed
        exact committed.setFile (by simp) none
      · intro s committed
        exact committed.setFile (by simp) none

/-! ## Recovery -/

omit staged in
theorem Interrupted.of_journal {journal : RewriteJournal}
    (interrupted : Interrupted service plan start disk) (held : disk.journal = some journal) :
    ∃ items, AllStaged service plan start items ∧ journal = rewriteJournal service plan items ∧
      (Recovering service plan start items (items.map StagedRewrite.path) disk ∨
        Committed service plan start items disk) := by
  cases interrupted with
  | settled settled =>
    rw [settled.1] at held
    cases held
  | replacing items replaced staged replacing =>
    have same := Option.some.inj (held.symm.trans replacing.journal)
    refine ⟨items, staged, same, .inl ⟨replaced, replacing, ?_⟩⟩
    intro _ mem
    obtain ⟨_, memberItem, equal, _⟩ := replacing.new _ mem
    exact equal ▸ mem_map_of_mem memberItem
  | committed items staged committed =>
    exact ⟨items, staged, Option.some.inj (held.symm.trans committed.journal), .inr committed⟩

omit staged in
theorem validJournal_items_ne_nil
    (valid : validJournal service (rewriteJournal service plan items) = true) : items ≠ [] := by
  intro empty
  subst empty
  simp [validJournal, rewriteJournal] at valid

variable {s₀ : RawStore Derived}

theorem recoverEntries_spec (nonempty : items ≠ [])
    (state : Recovering service plan start items (items.map StagedRewrite.path) s₀ ∨
      Committed service plan start items s₀)
    (entries : resolved.map Prod.fst = items.map (journalEntry service))
    (rows : ∀ pair ∈ resolved, s₀.registry pair.1.fileId = some pair.2) :
    (isCommitted resolved = true ∨ isPending resolved = true) ∧ EndsAssured (· = s₀)
      (recoverEntries service plan.operationId (isCommitted resolved)
        (items.map (journalEntry service)))
      (fun _ s => Recovering service plan start items [] s ∨ Committed service plan start items s)
      (Interrupted service plan start) := by
  rcases state with recovering | committed
  · obtain ⟨_, replacing, _⟩ := id recovering
    rw [replacing.registry] at rows
    obtain ⟨pending, notCommitted⟩ := isPending_of_base staged entries rows nonempty
    refine ⟨.inr pending, ?_⟩
    rw [notCommitted]
    apply (recoverEntries_pending staged items (fun _ mem => mem) staged.once).weaken
    · intro s same
      exact same ▸ recovering
    · exact fun _ _ reached => .inl reached
    · exact fun _ _ interrupted => interrupted
    · exact fun _ interrupted => interrupted
  · have finished := isCommitted_of_forward staged committed.forward entries rows
    refine ⟨.inl finished, ?_⟩
    rw [finished]
    apply (recoverEntries_committed staged items fun _ mem => mem).weaken
    · intro s same
      exact same ▸ committed
    · exact fun _ _ reached => .inr reached
    · exact fun _ _ interrupted => interrupted
    · exact fun _ interrupted => interrupted

omit staged

theorem Recovering.rolledBack (recovering : Recovering service plan start items [] disk) :
    RolledBack start disk := by
  obtain ⟨replaced, replacing, within⟩ := recovering
  have none : replaced = [] :=
    eq_nil_iff_forall_not_mem.mpr fun _ mem => not_mem_nil (within _ mem)
  subst none
  exact replacing.rolledBack

/-- Once every file is old, or all are new, the journal may go. -/
theorem unlinkJournal_spec (error : ε) (staged : AllStaged service plan start items) : EndsAssured
      (fun s => Recovering service plan start items [] s ∨ Committed service plan start items s)
      (unlinkJournal error) (fun _ => Settled service plan start)
      (Interrupted service plan start) := by
  have keeps : ∀ s, Recovering service plan start items [] s ∨
      Committed service plan start items s → Interrupted service plan start s := by
    intro s either
    rcases either with recovering | committed
    · exact recovering.interrupted staged
    · exact .committed items staged committed
  refine Assured.act_ok ?_ keeps keeps
  intro s either
  rcases either with recovering | committed
  · have back := recovering.rolledBack
    exact ⟨rfl, .inl ⟨back.targets, back.registry, back.derived⟩⟩
  · have forward := committed.forward
    exact ⟨rfl, .inr ⟨items, staged, forward.rewritten, forward.others, forward.registry,
      forward.derived⟩⟩

variable (staged : AllStaged service plan start items)
include staged

variable (state : Recovering service plan start items (items.map StagedRewrite.path) disk ∨
  Committed service plan start items disk)
include state

theorem registered_of_state :
    ∀ entry ∈ items.map (journalEntry service), ∃ row, disk.registry entry.fileId = some row ∧
      row.relativePath = entry.relativePath := by
  intro entry mem
  obtain ⟨item, memberItem, equal⟩ := mem_map.mp mem
  subst equal
  obtain ⟨row, _, rewrites⟩ := staged.each item memberItem
  rcases state with ⟨_, replacing, _⟩ | committed
  · exact ⟨row, by rw [replacing.registry]; exact rewrites.registered, rewrites.path⟩
  · obtain ⟨other, registered, after⟩ :=
      (applyFileUpdates_row committed.forward.registry staged.fileIds_nodup).1 item memberItem
    have same : other = row := Option.some.inj (registered.symm.trans rewrites.registered)
    exact ⟨_, after, by rw [same]; exact rewrites.path⟩

theorem interrupted_of_state : Interrupted service plan start disk := by
  rcases state with recovering | committed
  · exact recovering.interrupted staged
  · exact .committed items staged committed

omit state

/-- A journal that the validation accepts. -/
theorem recoverRewriteJournal_valid
    (state : Recovering service plan start items (items.map StagedRewrite.path) s₀ ∨
      Committed service plan start items s₀)
    (valid : validJournal service (rewriteJournal service plan items) = true) :
    EndsAssured (· = s₀) (recoverRewriteJournal service (rewriteJournal service plan items))
      (fun _ => Settled service plan start) (Interrupted service plan start) := by
  have keeps : ∀ s, s = s₀ → Interrupted service plan start s := by
    rintro s rfl
    exact interrupted_of_state staged state
  refine .bind _ (mayRaise_spec _ keeps keeps) fun _ => ?_
  rw [if_pos valid]
  refine .bind _ ((resolveEntries_spec _ s₀ (registered_of_state staged state)).weaken
    (fun _ same => same) (fun _ _ found => found) (fun _ => keeps) keeps) fun resolved => ?_
  apply Assured.of_exact
  intro s found
  obtain ⟨same, entries, rows⟩ := found
  subst same
  obtain ⟨decided, spec⟩ :=
    recoverEntries_spec staged (validJournal_items_ne_nil valid) state entries rows
  have clear : (!isCommitted resolved && !isPending resolved) = false := by
    rcases decided with committed | pending
    · simp [committed]
    · simp [pending]
  rw [clear]
  exact .bind _ spec fun _ => unlinkJournal_spec _ staged

theorem recoverRewriteJournal_spec
    (state : Recovering service plan start items (items.map StagedRewrite.path) s₀ ∨
      Committed service plan start items s₀) :
    Ends (· = s₀) (recoverRewriteJournal service (rewriteJournal service plan items))
      (fun _ => Settled service plan start) (Interrupted service plan start) := by
  by_cases valid : validJournal service (rewriteJournal service plan items) = true
  · exact (recoverRewriteJournal_valid staged state valid).triple
  · have keeps : ∀ s, s = s₀ → Interrupted service plan start s := by
      rintro s rfl
      exact interrupted_of_state staged state
    refine mayRaise_bind keeps keeps ?_
    rw [if_neg valid]
    exact .raise _ keeps

omit staged

theorem recoverInterruptedOperations_spec :
    Ends (Interrupted service plan start) (recoverInterruptedOperations service)
      (fun _ => Settled service plan start) (Interrupted service plan start) := by
  apply Triple.look_bind
  intro s interrupted
  cases held : s.journal with
  | none =>
    apply Triple.pure
    intro s' same
    subst same
    cases interrupted with
    | settled settled => exact settled
    | replacing items replaced _ replacing =>
      rw [replacing.journal] at held
      cases held
    | committed items _ committed =>
      rw [committed.journal] at held
      cases held
  | some journal =>
    obtain ⟨items, staged, same, state⟩ := interrupted.of_journal held
    subst same
    exact recoverRewriteJournal_spec staged state

/-- A recovery without faults ends, for a plan with files and an operation
identifier of the right form. -/
theorem recoverInterruptedOperations_completes (files : plan.files ≠ [])
    (operationId : isOperationId plan.operationId = true) :
    Completes (Interrupted service plan start) (recoverInterruptedOperations service)
      fun _ _ => True := by
  apply Completes.look_bind
  intro s interrupted
  cases held : s.journal with
  | none => exact .pure _ fun _ _ => trivial
  | some journal =>
    obtain ⟨items, staged, same, state⟩ := interrupted.of_journal held
    subst same
    have nonempty : items ≠ [] := by
      intro empty
      have planned := staged.planned
      subst empty
      have sorted : plan.sortedFiles = [] := map_eq_nil_iff.mp planned.symm
      apply files
      rw [DeletionPlan.sortedFiles] at sorted
      have permuted := perm_insertionSort
        (fun first second : PlannedFile => first.fileId.toList ≤ second.fileId.toList) plan.files
      rw [sorted] at permuted
      exact permuted.nil_eq.symm
    have valid : validJournal service (rewriteJournal service plan items) = true := by
      simp [validJournal, rewriteJournal, operationId, nonempty]
    exact (recoverRewriteJournal_valid staged state valid).completes.weaken (fun _ same => same)
      fun _ _ _ => trivial

end NetConsole.Syslog
