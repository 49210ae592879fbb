import NetConsole.Foundations.GuardedRuns
import NetConsole.TaskCenter.EventEffects
import NetConsole.TaskCenter.Writes

/-!
# The resource guard

No two active tasks hold a common resource key, a finished task stays finished,
and nothing of a retired task is written: `ResourcesGuarded` says so of every run
of the services on one site.

The state filter of `record` and the guard of `prepare` look at the stored rows.
A write that passes no filter stores what its caller has read before
(`Request.recordTaskMetadata`), and an event may name the state that its caller
has read (`artifact_rejected`): either brings a finished task back. The law holds
where that does not happen (`Request.IsSafe`, `resourcesGuarded_of_safe`).
-/

set_option autoImplicit false

namespace NetConsole.TaskCenter

open Foundations List
open Syslog (firstOf)

variable {Result : Type}

/-! ## The law -/

/-- No two active tasks hold a common resource key. -/
def Exclusive (store : TaskStore Result) : Prop :=
  ∀ first ∈ store.snapshots, ∀ second ∈ store.snapshots, first.taskId ≠ second.taskId →
    first.status.isTerminal = false → second.status.isTerminal = false →
    ∀ key ∈ resourceKeySet first.resourceKeys, key ∉ resourceKeySet second.resourceKeys

/-- What may follow on a store. -/
structure Follows (store later : TaskStore Result) : Prop where
  finished : ∀ taskId row row', store.snapshotRow taskId = some row →
    row.status.isTerminal = true → later.snapshotRow taskId = some row' →
    row'.status.isTerminal = true
  retired : ∀ taskId, store.isTombstoned taskId = true → Untouched taskId store later

variable [DecidableEq Result] (format : ResultFormat Result) (siteName : String)

/-- In every run whose actions meet the guard, the states are exclusive and
follow one another. -/
def ResourcesGuarded (guard : TaskSystem Result → TaskAction Result → Prop)
    (start : TaskSystem Result) : Prop :=
  ∀ earlier later first rest,
    GuardedRun (TaskSystem.act format siteName) guard start first earlier →
    GuardedRun (TaskSystem.act format siteName) guard earlier rest later →
    Exclusive later.store ∧ Follows earlier.store later.store

/-! ## The condition -/

/-- A new snapshot replaces no row but an active one with the same keys. -/
def ReplacesAlike (store : TaskStore Result) (taskId : String) (keys : List String) : Prop :=
  ∀ row, store.snapshotRow taskId = some row →
    row.status.isTerminal = false ∧ resourceKeySet row.resourceKeys = resourceKeySet keys

/-- A published event does not name an active state for a finished task, and an
event that only finished tasks accept was not made from an active snapshot. -/
def SafePublication (store : TaskStore Result) (snapshot : TaskSnapshot Result)
    (publication : Publication Result) : Prop :=
  ∀ row, store.snapshotRow snapshot.taskId = some row → row.status.isTerminal = true →
    (publication.type = "artifact_finalized" ∨
        publication.type = "file_management_mesh_import" → snapshot.status.isTerminal = true) ∧
      (publication.type = "artifact_rejected" →
        ∀ state, namedState snapshot publication.payload = some state → state.isTerminal = true)

/-- A request brings no finished task back. -/
def Request.IsSafe (store : TaskStore Result) : Request Result → Prop
  | .prepare job _ => ReplacesAlike store job.jobId job.resourceKeys
  | .persistWaitingDownload taskId _ _ => ReplacesAlike store taskId []
  | .recordTaskMetadata snapshot _ | .saveExportOwner snapshot _ =>
    ∀ row, store.snapshotRow snapshot.taskId = some row →
      row.status.isTerminal = true → snapshot.status.isTerminal = true
  | .recordExternalEvent snapshot publication | .persistEvent snapshot publication _ =>
    SafePublication store snapshot publication
  | .prepareFailure _ _ _ _ | .createExternalTask _ _ _ | .recoverOrphan _ _
  | .importPackage _ _ _ => True

/-- The condition on the actions of a run. -/
def SafeAction (system : TaskSystem Result) : TaskAction Result → Prop
  | .request request => request.IsSafe system.store
  | _ => True

/-! ## What the services keep -/

/-- A snapshot that a caller holds: its task has a row, that is finished if the
snapshot is, or it was retired. -/
def HeldFrom (store : TaskStore Result) (snapshot : TaskSnapshot Result) : Prop :=
  store.isTombstoned snapshot.taskId = true ∨ ∃ row, store.snapshotRow snapshot.taskId = some row ∧
      (row.status.isTerminal = true ∨ snapshot.status.isTerminal = false ∧
        resourceKeySet snapshot.resourceKeys = resourceKeySet row.resourceKeys)

/-- A store of one site as the code leaves it. -/
structure GuardedStore (siteName : String) (store : TaskStore Result) : Prop where
  keyed : TasksKeyed store
  resultsKeyed : ResultsKeyed store
  site : ∀ row ∈ store.snapshots, row.siteName = siteName
  retired : ∀ taskId, store.isTombstoned taskId = true → store.snapshotRow taskId = none
  exclusive : Exclusive store

/-- The store of one site with snapshots that were read from it. -/
structure GuardedSystem (siteName : String) (system : TaskSystem Result) : Prop where
  store : GuardedStore siteName system.store
  heldSite : ∀ snapshot ∈ system.held, snapshot.siteName = siteName
  held : ∀ snapshot ∈ system.held, HeldFrom system.store snapshot

/-! ## What a safe call stores -/

/-- A call keeps the law: it stores an active snapshot over no finished row, and
over an active row with its keys only; a new row is checked by the guard, or it
is finished or has no keys. -/
structure SafeCall (siteName : String) (store : TaskStore Result) (call : TaskCall Result) :
    Prop where
  ofOneTask : call.OfOneTask
  site : call.snapshot.siteName = siteName
  stays : ∀ row, store.snapshotRow call.snapshot.taskId = some row →
    (∀ states, call.allowed = some states → row.status ∈ states) →
    call.snapshot.status.isTerminal = true ∨ row.status.isTerminal = false ∧
      resourceKeySet call.snapshot.resourceKeys = resourceKeySet row.resourceKeys
  fresh : store.snapshotRow call.snapshot.taskId = none →
    call = .saveWithResourceGuard call.snapshot ∨ call.snapshot.status.isTerminal = true ∨
      resourceKeySet call.snapshot.resourceKeys = []

/-- What holds from a store to a later one. -/
structure Leads (store later : TaskStore Result) : Prop where
  finished : ∀ taskId row, store.snapshotRow taskId = some row → row.status.isTerminal = true →
    later.isTombstoned taskId = true ∨
      ∃ row', later.snapshotRow taskId = some row' ∧ row'.status.isTerminal = true
  retired : ∀ taskId, store.isTombstoned taskId = true →
    later.isTombstoned taskId = true ∧ Untouched taskId store later
  held : ∀ snapshot, HeldFrom store snapshot → HeldFrom later snapshot

omit [DecidableEq Result] in
theorem Leads.refl (store : TaskStore Result) : Leads store store where
  finished _ row found terminal := .inr ⟨row, found, terminal⟩
  retired taskId tombstoned := ⟨tombstoned, .refl taskId store⟩
  held _ held := held

omit [DecidableEq Result] in
theorem Leads.trans {first second third : TaskStore Result} (one : Leads first second)
    (two : Leads second third) : Leads first third := by
  refine ⟨?_, ?_, fun snapshot held => two.held snapshot (one.held snapshot held)⟩
  · intro taskId row found terminal
    rcases one.finished taskId row found terminal with tombstoned | ⟨row', found', terminal'⟩
    · exact .inl (two.retired taskId tombstoned).1
    · exact two.finished taskId row' found' terminal'
  · intro taskId tombstoned
    obtain ⟨still, same⟩ := one.retired taskId tombstoned
    obtain ⟨later, same'⟩ := two.retired taskId still
    exact ⟨later, same.trans same'⟩

omit [DecidableEq Result] in
theorem Leads.follows {siteName : String} {store later : TaskStore Result}
    (guarded : GuardedStore siteName later) (leads : Leads store later) : Follows store later := by
  constructor
  · intro taskId row row' found terminal found'
    rcases leads.finished taskId row found terminal with tombstoned | ⟨_, present, done⟩
    · rw [guarded.retired taskId tombstoned] at found'
      cases found'
    · rw [present] at found'
      cases found'
      exact done
  · intro taskId tombstoned
    exact (leads.retired taskId tombstoned).2

/-! ## One call -/

section Calls

variable {format : ResultFormat Result} {siteName : String}
  {store : TaskStore Result} {snapshot : TaskSnapshot Result}

theorem findConflict_none {rows : List (TaskSnapshot Result)}
    (free : findConflict format store snapshot rows = .ok none) :
    ∀ row ∈ rows, row.taskId ≠ snapshot.taskId →
      ∀ key ∈ resourceKeySet snapshot.resourceKeys, key ∉ resourceKeySet row.resourceKeys := by
  induction rows with
  | nil =>
    intro row mem
    cases mem
  | cons first rest ih =>
    obtain ⟨_, read, free⟩ := bind_eq_ok.mp free
    obtain ⟨taskId, _, _, keys⟩ := (snapshotFromRow_ok_iff.mp read).task
    simp only [taskId, keys] at free
    intro row mem other key wanted
    rcases mem_cons.mp mem with rfl | later
    · rw [if_neg other] at free
      split at free
      · cases free
      case isFalse disjoint =>
        intro held
        exact disjoint (any_eq_true.mpr ⟨key, held, by simpa using wanted⟩)
    · have free : findConflict format store snapshot rest = .ok none := by
        split at free
        · exact free
        · split at free
          · cases free
          · exact free
      exact ih free row later other key wanted

theorem guard_free (guarded : GuardedStore siteName store) (site : snapshot.siteName = siteName)
    (free : findConflict format store snapshot (guardedRows store snapshot) = .ok none) :
    ∀ row ∈ store.snapshots, row.taskId ≠ snapshot.taskId → row.status.isTerminal = false →
      ∀ key ∈ resourceKeySet snapshot.resourceKeys, key ∉ resourceKeySet row.resourceKeys := by
  intro row stored other active key wanted held
  have keys : row.resourceKeys ≠ [] := by
    intro blank
    rw [blank] at held
    cases held
  have among : row ∈ guardedRows store snapshot := by
    unfold guardedRows
    have activeState := TaskState.mem_activeStates.mpr active
    simp [stored, guarded.site row stored, site, activeState, keys]
  exact findConflict_none free row among other key wanted held

variable {after : TaskStore Result}

theorem SafeCall.free {call : TaskCall Result} (guarded : GuardedStore siteName store)
    (safe : SafeCall siteName store call) (effect : Effect format store call after)
    (active : call.snapshot.status.isTerminal = false) :
    ∀ row ∈ store.snapshots, row.taskId ≠ call.snapshot.taskId → row.status.isTerminal = false →
      ∀ key ∈ resourceKeySet call.snapshot.resourceKeys, key ∉ resourceKeySet row.resourceKeys := by
  have written := effect.written guarded.resultsKeyed safe.ofOneTask
  intro row stored other rowActive key wanted
  cases found : store.snapshotRow call.snapshot.taskId with
  | some before =>
    rcases safe.stays before found (written.passes before found) with done | ⟨beforeActive, same⟩
    · rw [active] at done
      cases done
    · obtain ⟨mem, id⟩ := snapshotRow_eq_some found
      rw [same] at wanted
      exact guarded.exclusive before mem row stored (by rw [id]; exact other.symm) beforeActive
        rowActive key wanted
  | none =>
    rcases safe.fresh found with guard | done | blank
    · rw [guard] at effect
      cases effect with
      | guarded requested unretired free stored' =>
        exact guard_free guarded safe.site free row stored other rowActive key wanted
      | unguarded unrequested saved =>
        rw [unrequested] at wanted
        cases wanted
    · rw [active] at done
      cases done
    · rw [blank] at wanted
      cases wanted

theorem SafeCall.exclusive {call : TaskCall Result} (guarded : GuardedStore siteName store)
    (safe : SafeCall siteName store call) (effect : Effect format store call after) :
    Exclusive after := by
  have written := effect.written guarded.resultsKeyed safe.ofOneTask
  have keyed := written.keyed guarded.keyed
  obtain ⟨new, newFound, same⟩ := written.row
  have fromStore : ∀ row ∈ after.snapshots, row.taskId ≠ call.snapshot.taskId →
      row ∈ store.snapshots := by
    intro row mem other
    have found := keyed.snapshotRow mem
    rw [(written.others row.taskId other).snapshot] at found
    exact (snapshotRow_eq_some found).1
  have isNew : ∀ row ∈ after.snapshots, row.taskId = call.snapshot.taskId → row = new := by
    intro row mem here
    have found := keyed.snapshotRow mem
    rw [here, newFound] at found
    exact (Option.some.inj found).symm
  intro first firstIn second secondIn different firstActive secondActive key firstHolds secondHolds
  by_cases firstNew : first.taskId = call.snapshot.taskId
  · have secondOther : second.taskId ≠ call.snapshot.taskId := by
      rw [← firstNew]
      exact different.symm
    rw [isNew first firstIn firstNew] at firstActive firstHolds
    rw [same.status] at firstActive
    rw [same.resourceKeys] at firstHolds
    exact safe.free guarded effect firstActive second (fromStore second secondIn secondOther)
      secondOther secondActive key firstHolds secondHolds
  · by_cases secondNew : second.taskId = call.snapshot.taskId
    · rw [isNew second secondIn secondNew] at secondActive secondHolds
      rw [same.status] at secondActive
      rw [same.resourceKeys] at secondHolds
      exact safe.free guarded effect secondActive first (fromStore first firstIn firstNew) firstNew
        firstActive key secondHolds firstHolds
    · exact guarded.exclusive first (fromStore first firstIn firstNew) second
        (fromStore second secondIn secondNew) different firstActive secondActive key firstHolds
        secondHolds

theorem SafeCall.guarded {call : TaskCall Result} (guarded : GuardedStore siteName store)
    (safe : SafeCall siteName store call) (effect : Effect format store call after) :
    GuardedStore siteName after := by
  have written := effect.written guarded.resultsKeyed safe.ofOneTask
  have keyed := written.keyed guarded.keyed
  obtain ⟨_, newFound, same⟩ := written.row
  refine ⟨keyed, written.resultsKeyed, ?_, ?_, safe.exclusive guarded effect⟩
  · intro row mem
    have found := keyed.snapshotRow mem
    by_cases here : row.taskId = call.snapshot.taskId
    · rw [here, newFound] at found
      rw [← Option.some.inj found, same.siteName]
      exact safe.site
    · rw [(written.others row.taskId here).snapshot] at found
      exact guarded.site row (snapshotRow_eq_some found).1
  · intro taskId tombstoned
    have tombstoned : store.isTombstoned taskId = true := by
      rw [← tombstoned]
      unfold TaskStore.isTombstoned
      rw [written.tombstones]
    have other : taskId ≠ call.snapshot.taskId := by
      intro same
      rw [same, written.unretired] at tombstoned
      cases tombstoned
    rw [(written.others taskId other).snapshot]
    exact guarded.retired taskId tombstoned

/-- A safe call brings no finished task back and writes nothing of a retired one. -/
theorem SafeCall.leads {call : TaskCall Result} (guarded : GuardedStore siteName store)
    (safe : SafeCall siteName store call) (effect : Effect format store call after) :
    Leads store after := by
  have written := effect.written guarded.resultsKeyed safe.ofOneTask
  obtain ⟨new, newFound, same⟩ := written.row
  have tombstones : ∀ taskId, after.isTombstoned taskId = store.isTombstoned taskId := by
    intro taskId
    unfold TaskStore.isTombstoned
    rw [written.tombstones]
  refine ⟨?_, ?_, ?_⟩
  · intro taskId row found terminal
    right
    by_cases here : taskId = call.snapshot.taskId
    · rw [here] at found
      refine ⟨new, by rw [here]; exact newFound, ?_⟩
      rw [same.status]
      rcases safe.stays row found (written.passes row found) with done | ⟨active, _⟩
      · exact done
      · rw [terminal] at active
        cases active
    · exact ⟨row, by rw [(written.others taskId here).snapshot]; exact found, terminal⟩
  · intro taskId tombstoned
    refine ⟨by rw [tombstones]; exact tombstoned, written.others taskId ?_⟩
    intro here
    rw [here, written.unretired] at tombstoned
    cases tombstoned
  · intro snapshot held
    rcases held with tombstoned | ⟨row, found, alike⟩
    · exact .inl (by rw [tombstones]; exact tombstoned)
    · right
      by_cases here : snapshot.taskId = call.snapshot.taskId
      · rw [here] at found
        refine ⟨new, by rw [here]; exact newFound, ?_⟩
        rw [same.status, same.resourceKeys]
        rcases safe.stays row found (written.passes row found) with done | ⟨active, keys⟩
        · exact .inl done
        · rw [active] at alike
          rw [keys]
          rcases alike with terminal | alike
          · cases terminal
          · exact .inr alike
      · exact ⟨row, by rw [(written.others _ here).snapshot]; exact found, alike⟩

theorem Effect.heldFrom {call : TaskCall Result} (guarded : GuardedStore siteName store)
    (safe : SafeCall siteName store call) (effect : Effect format store call after) :
    HeldFrom after call.snapshot := by
  obtain ⟨new, newFound, same⟩ :=
    (effect.written guarded.resultsKeyed safe.ofOneTask).row
  right
  refine ⟨new, newFound, ?_⟩
  rw [same.status, same.resourceKeys]
  cases call.snapshot.status.isTerminal with
  | true => exact .inl rfl
  | false => exact .inr ⟨rfl, rfl⟩

/-! ## The requests -/

variable {updated : TaskSnapshot Result} {allowed : Option (List TaskState)}
  {event : TaskEvent Result}

omit [DecidableEq Result] in
theorem SafeCall.ofHeld {call : TaskCall Result} (held : HeldFrom store snapshot)
    (site : snapshot.siteName = siteName) (unretired : store.isTombstoned snapshot.taskId = false)
    (ofOneTask : call.OfOneTask) (sameId : call.snapshot.taskId = snapshot.taskId)
    (sameSite : call.snapshot.siteName = snapshot.siteName)
    (sameKeys : call.snapshot.resourceKeys = snapshot.resourceKeys)
    (returns : ∀ row, store.snapshotRow snapshot.taskId = some row → row.status.isTerminal = true →
      (∀ states, call.allowed = some states → row.status ∈ states) →
        call.snapshot.status.isTerminal = true) :
    SafeCall siteName store call := by
  rcases held with tombstoned | ⟨row, found, alike⟩
  · rw [unretired] at tombstoned
    cases tombstoned
  · refine ⟨ofOneTask, sameSite.trans site, ?_, ?_⟩
    · intro other present passes
      rw [sameId, found] at present
      cases present
      cases terminal : row.status.isTerminal with
      | true => exact .inl (returns row found terminal passes)
      | false =>
        rw [terminal] at alike
        rcases alike with done | ⟨_, keys⟩
        · cases done
        · refine .inr ⟨rfl, ?_⟩
          rw [sameKeys, keys]
    · intro absent
      rw [sameId, found] at absent
      cases absent

variable {publication : Publication Result} {row : TaskSnapshot Result}

theorem publication_returns {allowed : List TaskState}
    (safe : SafePublication store snapshot publication)
    (allows : allowedFrom snapshot (publication.event snapshot.taskId) = some allowed)
    (applied : applyEvent format snapshot (publication.event snapshot.taskId) = some updated)
    (found : store.snapshotRow snapshot.taskId = some row) (terminal : row.status.isTerminal = true)
    (passes : row.status ∈ allowed) : updated.status.isTerminal = true := by
  obtain ⟨finishedOnly, rejected⟩ := safe row found terminal
  have status := applyEvent_status applied
  have type : (publication.event snapshot.taskId).type = publication.type := rfl
  have payload : (publication.event snapshot.taskId).payload = publication.payload := rfl
  rw [type, payload] at status
  unfold allowedFrom at allows
  rw [type, payload] at allows
  split at allows
  case isTrue artifact =>
    have artifact : publication.type = "artifact_finalized" ∨
        publication.type = "file_management_mesh_import" := by simpa using artifact
    have kept : statusAfter snapshot publication.type publication.payload =
        some snapshot.status := by
      rcases artifact with same | same
      · simp [statusAfter, same]
      · simp [statusAfter, same]
    rw [kept] at status
    rw [← Option.some.inj status]
    exact finishedOnly artifact
  case isFalse notArtifact =>
    split at allows
    case isTrue isRejected =>
      rw [statusAfter, if_pos (by simp [isRejected])] at status
      exact rejected isRejected updated.status status
    case isFalse notRejected =>
      split at allows
      case isTrue isState =>
        rw [statusAfter, if_pos (by simp [isState])] at status
        rw [status, Option.map_some, Option.some.injEq] at allows
        subst allows
        unfold allowedToState at passes
        split at passes
        · split at passes
          case isTrue _ same =>
            rw [mem_singleton] at passes
            rw [same, ← passes]
            exact terminal
          · cases passes
        · exfalso
          have active : row.status.isTerminal = false := by
            split at passes
            · rw [mem_singleton.mp passes]
              rfl
            · rcases mem_pair.mp passes with same | same
              · rw [same]
                rfl
              · rw [same]
                rfl
            · simp only [mem_cons, not_mem_nil, or_false] at passes
              rcases passes with same | same | same
              · rw [same]
                rfl
              · rw [same]
                rfl
              · rw [same]
                rfl
            · exact TaskState.mem_activeStates.mp passes
          rw [terminal] at active
          cases active
      case isFalse notState =>
        exfalso
        split at allows
        · cases allows
          cases passes
        case isFalse active =>
          split at allows
          · cases allows
            have stays := TaskState.mem_activeStates.mp passes
            rw [terminal] at stays
            cases stays
          · cases allows
            rw [mem_singleton.mp passes] at terminal
            exact active terminal

theorem recordExternalEvent_safe {call : TaskCall Result} (held : HeldFrom store snapshot)
    (site : snapshot.siteName = siteName) (unretired : store.isTombstoned snapshot.taskId = false)
    (safe : SafePublication store snapshot publication)
    (issued : recordExternalEvent format snapshot publication = some call) :
    SafeCall siteName store call := by
  obtain ⟨allowed, allows, issued⟩ := Option.bind_eq_some_iff.mp issued
  obtain ⟨updated, applied, rfl⟩ := Option.map_eq_some_iff.mp issued
  have origin := applyEvent_sameOrigin applied
  refine .ofHeld held site unretired origin.taskId.symm origin.taskId origin.siteName
    origin.resourceKeys fun row found terminal passes => ?_
  exact publication_returns safe allows applied found terminal (passes allowed rfl)

omit [DecidableEq Result] in
theorem failure_safe (held : HeldFrom store snapshot) (site : snapshot.siteName = siteName)
    (unretired : store.isTombstoned snapshot.taskId = false)
    (sameTask : event.taskId = snapshot.taskId) (sameId : updated.taskId = snapshot.taskId)
    (sameSite : updated.siteName = snapshot.siteName)
    (sameKeys : updated.resourceKeys = snapshot.resourceKeys) (failed : updated.status = .failed) :
    SafeCall siteName store (.record updated event allowed) := by
  refine .ofHeld held site unretired (sameTask.trans sameId.symm) sameId sameSite sameKeys
    fun _ _ _ _ => ?_
  show updated.status.isTerminal = true
  rw [failed]
  rfl

omit [DecidableEq Result] in
theorem SafeCall.ofReplaces {call : TaskCall Result} (ofOneTask : call.OfOneTask)
    (site : call.snapshot.siteName = siteName)
    (replaces : ReplacesAlike store call.snapshot.taskId call.snapshot.resourceKeys)
    (checked : call = .saveWithResourceGuard call.snapshot ∨
      resourceKeySet call.snapshot.resourceKeys = []) : SafeCall siteName store call := by
  refine ⟨ofOneTask, site, ?_, ?_⟩
  · intro row found _
    obtain ⟨active, keys⟩ := replaces row found
    exact .inr ⟨active, keys.symm⟩
  · intro _
    rcases checked with guard | blank
    · exact .inl guard
    · exact .inr (.inr blank)

variable {system : TaskSystem Result} {request : Request Result}

theorem recordExternalEvent_taskId {call : TaskCall Result} {snapshot : TaskSnapshot Result}
    {publication : Publication Result}
    (issued : TaskCenter.recordExternalEvent format snapshot publication = some call) :
    call.snapshot.taskId = snapshot.taskId := by
  obtain ⟨_, _, issued⟩ := Option.bind_eq_some_iff.mp issued
  obtain ⟨updated, applied, rfl⟩ := Option.map_eq_some_iff.mp issued
  exact (applyEvent_sameOrigin applied).taskId

theorem Request.IsSafe.call {call : TaskCall Result} (guarded : GuardedSystem siteName system)
    (uses : ∀ snapshot, request.uses = some snapshot → snapshot ∈ system.held)
    (safe : request.IsSafe system.store) (issued : request.call format siteName = some call)
    (unretired : system.store.isTombstoned call.snapshot.taskId = false) :
    SafeCall siteName system.store call := by
  cases request with
  | prepare job now =>
    cases issued
    split
    case isTrue blank =>
      refine .ofReplaces trivial rfl safe (.inr ?_)
      show resourceKeySet job.resourceKeys = []
      rw [blank]
      rfl
    · exact .ofReplaces trivial rfl safe (.inl rfl)
  | prepareFailure snapshot error now eventId =>
    cases issued
    have mem := uses snapshot rfl
    exact failure_safe (guarded.held snapshot mem) (guarded.heldSite snapshot mem) unretired
      rfl rfl rfl rfl rfl
  | createExternalTask task now eventId =>
    cases issued
    refine ⟨rfl, rfl, ?_, fun _ => .inr (.inr rfl)⟩
    intro row found passes
    have never := passes [] rfl
    cases never
  | recordExternalEvent snapshot publication =>
    have mem := uses snapshot rfl
    rw [recordExternalEvent_taskId issued] at unretired
    exact recordExternalEvent_safe (guarded.held snapshot mem) (guarded.heldSite snapshot mem)
      unretired safe issued
  | persistEvent snapshot publication guardId =>
    have mem := uses snapshot rfl
    have held := guarded.held snapshot mem
    have site := guarded.heldSite snapshot mem
    simp only [Request.call, TaskCenter.persistEvent] at issued
    split at issued
    · obtain ⟨updated, applied, rfl⟩ := Option.map_eq_some_iff.mp issued
      have origin := applyEvent_sameOrigin applied
      have unretired : system.store.isTombstoned updated.taskId = false := unretired
      rw [origin.taskId] at unretired
      have failed : updated.status = .failed := by
        have status := applyEvent_status applied
        simpa [statusAfter, Publication.event, protocolCorruptedEvent] using status.symm
      exact failure_safe held site unretired rfl origin.taskId origin.siteName origin.resourceKeys
        failed
    · rw [recordExternalEvent_taskId issued] at unretired
      exact recordExternalEvent_safe held site unretired safe issued
  | recordTaskMetadata snapshot publication =>
    cases issued
    have mem := uses snapshot rfl
    exact .ofHeld (guarded.held snapshot mem) (guarded.heldSite snapshot mem) unretired
      rfl rfl rfl rfl fun row found terminal _ => safe row found terminal
  | saveExportOwner snapshot ownerPid =>
    cases issued
    have mem := uses snapshot rfl
    exact .ofHeld (guarded.held snapshot mem) (guarded.heldSite snapshot mem) unretired
      trivial rfl rfl rfl fun row found terminal _ => safe row found terminal
  | persistWaitingDownload taskId now publication =>
    cases issued
    exact .ofReplaces rfl rfl safe (.inr rfl)
  | recoverOrphan snapshot now =>
    cases issued
    have mem := uses snapshot rfl
    exact failure_safe (guarded.held snapshot mem) (guarded.heldSite snapshot mem) unretired
      rfl rfl rfl rfl rfl
  | importPackage package known now =>
    cases issued
    refine ⟨rfl, rfl, ?_, ?_⟩
    · intro row found passes
      exact .inl package.isTerminal
    · intro _
      exact .inr (.inl package.isTerminal)

theorem Request.call_ofOneTask {call : TaskCall Result}
    (issued : request.call format siteName = some call) : call.OfOneTask := by
  have published : ∀ (snapshot : TaskSnapshot Result) (publication : Publication Result),
      TaskCenter.recordExternalEvent format snapshot publication = some call → call.OfOneTask := by
    intro snapshot publication issued
    obtain ⟨_, _, issued⟩ := Option.bind_eq_some_iff.mp issued
    obtain ⟨updated, applied, rfl⟩ := Option.map_eq_some_iff.mp issued
    exact (applyEvent_sameOrigin applied).taskId.symm
  cases request with
  | prepare job now =>
    cases issued
    split
    · trivial
    · trivial
  | saveExportOwner snapshot ownerPid =>
    cases issued
    trivial
  | recordExternalEvent snapshot publication => exact published snapshot publication issued
  | persistEvent snapshot publication guardId =>
    simp only [Request.call, TaskCenter.persistEvent] at issued
    split at issued
    · obtain ⟨updated, applied, rfl⟩ := Option.map_eq_some_iff.mp issued
      exact (applyEvent_sameOrigin applied).taskId.symm
    · exact published snapshot publication issued
  | _ =>
    cases issued
    rfl

/-! ## Retention -/

omit [DecidableEq Result] in
theorem retire_snapshotRow (store : TaskStore Result) (taskIds : List String) (taskId : String) :
    (store.retire taskIds).snapshotRow taskId =
      if taskId ∈ store.finishedAmong taskIds then none else store.snapshotRow taskId := by
  unfold TaskStore.snapshotRow TaskStore.retire
  rw [List.find?_filter]
  split
  case isTrue retired =>
    rw [List.find?_eq_none]
    intro row _ kept
    obtain ⟨outside, same⟩ : row.taskId ∉ store.finishedAmong taskIds ∧ row.taskId = taskId := by
      simpa using kept
    rw [same] at outside
    exact outside retired
  case isFalse kept =>
    congr 1
    funext row
    by_cases here : row.taskId = taskId
    · simp [here, kept]
    · simp [here]

omit [DecidableEq Result] in
theorem retire_isTombstoned (store : TaskStore Result) (taskIds : List String) (taskId : String) :
    (store.retire taskIds).isTombstoned taskId = true ↔
      store.isTombstoned taskId = true ∨ taskId ∈ store.finishedAmong taskIds := by
  simp [TaskStore.isTombstoned, TaskStore.retire]

omit [DecidableEq Result] in
/-- Retention keeps the store as it should be. -/
theorem GuardedStore.retire (guarded : GuardedStore siteName store) (taskIds : List String) :
    GuardedStore siteName (store.retire taskIds) ∧ Leads store (store.retire taskIds) := by
  have fewer : (store.retire taskIds).snapshots.Sublist store.snapshots := filter_sublist
  have fewerResults : (store.retire taskIds).results.Sublist store.results := filter_sublist
  refine ⟨⟨?_, ⟨?_, ?_⟩, ?_, ?_, ?_⟩, ⟨?_, ?_, ?_⟩⟩
  · exact guarded.keyed.sublist (fewer.map _)
  · exact guarded.resultsKeyed.distinct.sublist (fewerResults.map _)
  · intro row mem
    exact guarded.resultsKeyed.types row (fewerResults.subset mem)
  · intro row mem
    exact guarded.site row (fewer.subset mem)
  · intro taskId tombstoned
    rw [retire_snapshotRow]
    split
    · rfl
    case isFalse kept =>
      rcases (retire_isTombstoned store taskIds taskId).mp tombstoned with before | retired
      · exact guarded.retired taskId before
      · exact absurd retired kept
  · intro first firstIn second secondIn
    exact guarded.exclusive first (fewer.subset firstIn) second (fewer.subset secondIn)
  · intro taskId row found terminal
    by_cases retired : taskId ∈ store.finishedAmong taskIds
    · exact .inl ((retire_isTombstoned store taskIds taskId).mpr (.inr retired))
    · refine .inr ⟨row, ?_, terminal⟩
      rw [retire_snapshotRow, if_neg retired, found]
  · intro taskId tombstoned
    have gone := guarded.retired taskId tombstoned
    have kept : taskId ∉ store.finishedAmong taskIds := by
      intro retired
      have finished := (mem_filter.mp retired).2
      rw [gone] at finished
      cases finished
    refine ⟨(retire_isTombstoned store taskIds taskId).mpr (.inl tombstoned), ?_, ?_, ?_⟩
    · rw [retire_snapshotRow, if_neg kept]
    · show (store.events.filter _).filter _ = _
      rw [filter_filter]
      congr 1
      funext event
      by_cases here : event.taskId = taskId
      · simp [here, kept]
      · simp [here]
    · show (store.results.filter _).filter _ = _
      rw [filter_filter]
      congr 1
      funext row
      by_cases here : row.taskId = taskId
      · simp [here, kept]
      · simp [here]
  · intro snapshot held
    rcases held with tombstoned | ⟨row, found, alike⟩
    · exact .inl ((retire_isTombstoned store taskIds _).mpr (.inl tombstoned))
    · by_cases retired : snapshot.taskId ∈ store.finishedAmong taskIds
      · exact .inl ((retire_isTombstoned store taskIds _).mpr (.inr retired))
      · refine .inr ⟨row, ?_, alike⟩
        rw [retire_snapshotRow, if_neg retired, found]

/-! ## Runs -/

theorem ReadAs.heldFrom (guarded : GuardedStore siteName store) (stored : row ∈ store.snapshots)
    (readAs : ReadAs format store row snapshot) :
    HeldFrom store snapshot ∧ snapshot.siteName = siteName := by
  obtain ⟨taskId, status, site, keys⟩ := readAs.task
  refine ⟨.inr ⟨row, by rw [taskId]; exact guarded.keyed.snapshotRow stored, ?_⟩, ?_⟩
  · cases terminal : row.status.isTerminal with
    | true => exact .inl rfl
    | false => exact .inr ⟨by rw [status, terminal], keys⟩
  · rw [site]
    exact guarded.site row stored

/-- One request that meets its condition. -/
theorem Request.IsSafe.step {call : TaskCall Result} (guarded : GuardedSystem siteName system)
    (uses : ∀ snapshot, request.uses = some snapshot → snapshot ∈ system.held)
    (safe : request.IsSafe system.store) (issued : request.call format siteName = some call) :
    GuardedSystem siteName ⟨(call.run format system.store).2,
        if (call.run format system.store).1 then request.keeps format siteName ++ system.held
        else system.held⟩ ∧
      Leads system.store (call.run format system.store).2 := by
  have kept : ∀ snapshot ∈ request.keeps format siteName, snapshot = call.snapshot := by
    intro snapshot mem
    cases request with
    | prepare job now =>
      cases issued
      rw [mem_singleton.mp mem]
      split
      · rfl
      · rfl
    | createExternalTask task now eventId =>
      cases issued
      exact mem_singleton.mp mem
    | _ => cases mem
  rcases call.run_effect guarded.store.resultsKeyed with ⟨same, sampled⟩ | effect
  · rw [same]
    have none : (call.run format system.store).1 = true → request.keeps format siteName = [] := by
      intro through
      obtain ⟨snapshot, _, _, rfl, progress⟩ := sampled through
      cases request with
      | createExternalTask task now eventId =>
        cases issued
        have other : "state" = "progress" := progress
        exact absurd other (by decide)
      | prepare job now =>
        have other := Option.some.inj issued
        split at other
        · cases other
        · cases other
      | _ => rfl
    have sameHeld : (if (call.run format system.store).1 = true then
        request.keeps format siteName ++ system.held else system.held) = system.held := by
      split
      case isTrue through => rw [none through, nil_append]
      · rfl
    rw [sameHeld]
    exact ⟨guarded, .refl _⟩
  · have unretired :=
      (effect.written guarded.store.resultsKeyed (Request.call_ofOneTask issued)).unretired
    have safeCall := Request.IsSafe.call guarded uses safe issued unretired
    have leads := safeCall.leads guarded.store effect
    have among : ∀ snapshot ∈ (if (call.run format system.store).1 = true then
        request.keeps format siteName ++ system.held else system.held),
        snapshot = call.snapshot ∨ snapshot ∈ system.held := by
      intro snapshot mem
      split at mem
      · rcases mem_append.mp mem with new | old
        · exact .inl (kept snapshot new)
        · exact .inr old
      · exact .inr mem
    refine ⟨⟨safeCall.guarded guarded.store effect, ?_, ?_⟩, leads⟩
    · intro snapshot mem
      rcases among snapshot mem with rfl | old
      · exact safeCall.site
      · exact guarded.heldSite snapshot old
    · intro snapshot mem
      rcases among snapshot mem with rfl | old
      · exact effect.heldFrom guarded.store safeCall
      · exact leads.held snapshot (guarded.held snapshot old)

theorem SafeAction.step {after : TaskSystem Result} {action : TaskAction Result}
    (guarded : GuardedSystem siteName system) (safe : SafeAction system action)
    (taken : system.act format siteName action = some after) :
    GuardedSystem siteName after ∧ Leads system.store after.store := by
  obtain ⟨store, heldSite, held⟩ := guarded
  have unchanged : GuardedSystem siteName system ∧ Leads system.store system.store :=
    ⟨⟨store, heldSite, held⟩, .refl _⟩
  -- Snapshots that are read change nothing of the store.
  have reads : ∀ snapshots : List (TaskSnapshot Result), (∀ snapshot ∈ snapshots,
      ∃ row ∈ system.store.snapshots, ReadAs format system.store row snapshot) →
      GuardedSystem siteName { system with held := snapshots ++ system.held } := by
    intro snapshots read
    refine ⟨store, ?_, ?_⟩
    · intro snapshot mem
      rcases mem_append.mp mem with new | old
      · obtain ⟨row, stored, readAs⟩ := read snapshot new
        exact (readAs.heldFrom store stored).2
      · exact heldSite snapshot old
    · intro snapshot mem
      rcases mem_append.mp mem with new | old
      · obtain ⟨row, stored, readAs⟩ := read snapshot new
        exact (readAs.heldFrom store stored).1
      · exact held snapshot old
  cases action with
  | get taskId =>
    simp only [TaskSystem.act] at taken
    split at taken
    case h_1 snapshot ok =>
      cases taken
      refine ⟨reads [snapshot] ?_, .refl _⟩
      intro other mem
      obtain ⟨row, found, readAs⟩ := getSnapshot_some ok
      rw [mem_singleton.mp mem]
      exact ⟨row, (snapshotRow_eq_some found).1, readAs⟩
    · cases taken
      exact unchanged
  | list statuses limit =>
    simp only [TaskSystem.act] at taken
    split at taken
    case h_1 snapshots ok =>
      cases taken
      exact ⟨reads snapshots (listSnapshots_ok ok), .refl _⟩
    · cases taken
      exact unchanged
  | retire taskIds =>
    cases taken
    obtain ⟨retired, leads⟩ := store.retire taskIds
    exact ⟨⟨retired, heldSite, fun snapshot mem => leads.held snapshot (held snapshot mem)⟩,
      leads⟩
  | request request =>
    simp only [TaskSystem.act] at taken
    split at taken
    case isFalse => cases taken
    case isTrue uses =>
      have uses : ∀ snapshot, request.uses = some snapshot → snapshot ∈ system.held := by
        intro snapshot used
        simpa [used] using uses
      cases issued : request.call format siteName with
      | none =>
        rw [issued] at taken
        cases taken
        exact unchanged
      | some call =>
        rw [issued] at taken
        cases taken
        exact Request.IsSafe.step ⟨store, heldSite, held⟩ uses safe issued

end Calls

/-! ## The theorem -/

variable {format siteName} in
/-- Where every request meets its condition, the guard holds in every run. -/
theorem resourcesGuarded_of_safe {start : TaskSystem Result}
    (guarded : GuardedSystem siteName start) :
    ResourcesGuarded format siteName SafeAction start := by
  intro earlier later first rest before after
  have step : ∀ system action after, GuardedSystem siteName system → SafeAction system action →
      system.act format siteName action = some after →
        GuardedSystem _ after ∧ Leads system.store after.store :=
    fun system action after guarded safe taken => SafeAction.step guarded safe taken
  have keeps : ∀ system action after, GuardedSystem siteName system → SafeAction system action →
      system.act _ _ action = some after → GuardedSystem _ after :=
    fun system action after guarded safe taken => (step system action after guarded safe taken).1
  have earlierGuarded := before.invariant (GuardedSystem _) keeps guarded
  have laterGuarded := after.invariant (GuardedSystem _) keeps earlierGuarded
  have leads := after.relates (GuardedSystem _)
    (fun system other => Leads system.store other.store) (fun system => Leads.refl system.store)
    (fun _ _ _ one two => one.trans two) step earlierGuarded
  exact ⟨laterGuarded.store.exclusive, leads.follows laterGuarded.store⟩

/-! ## A run from a store without tasks -/

omit [DecidableEq Result] in
theorem guardedSystem_new : GuardedSystem siteName ⟨TaskStore.new Result, []⟩ where
  store :=
    { keyed := nodup_nil, resultsKeyed := ⟨nodup_nil, fun _ mem => nomatch mem⟩
      site _ mem := nomatch mem
      retired _ _ := rfl
      exclusive _ mem := nomatch mem }
  heldSite _ mem := nomatch mem
  held _ mem := nomatch mem

theorem resourcesGuarded_fromNew :
    ResourcesGuarded smallFormat "demo" SafeAction ⟨TaskStore.new SmallResult, []⟩ :=
  resourcesGuarded_of_safe (guardedSystem_new "demo")

def downloadJob : PreparedJob where
  jobId := "job-1"
  taskType := "file_management_download"
  owner := "web_file_management"
  planId := ""
  resultPath := ""
  source := "local"
  ownerPid := 4711
  resourceKeys := []
  appVersion := "1.0"
  producerCommit := "unknown"

def downloadStarted : TaskSnapshot SmallResult :=
  preparedSnapshot smallFormat "demo" downloadJob "2026-01-01T10:00:00"

/-- The worker of the download fails. -/
def downloadFailed : Publication SmallResult where
  eventId := "event-1"
  type := "error"
  time := "2026-01-01T10:00:01"
  source := "worker"
  payload := { EventPayload.blank with error := "connection refused" }

/-- The descriptor of the download is recorded after it was started. -/
def downloadDescriptor : Publication SmallResult where
  eventId := "event-2"
  type := "file_management_descriptor"
  time := "2026-01-01T10:00:00"
  source := "file_management"
  payload := EventPayload.blank

/-- The snapshot for the descriptor is read before the worker fails. -/
def failureMeanwhile : List (TaskAction SmallResult) :=
  [.request (.prepare downloadJob "2026-01-01T10:00:00"), .get "job-1",
    .request (.persistEvent downloadStarted downloadFailed "guard-1")]

def statusOf (taskId : String) (system : TaskSystem SmallResult) : Option TaskState :=
  (system.store.snapshotRow taskId).map fun row => row.status

/-- A failed download becomes pending again. -/
theorem not_resourcesGuarded_failureMeanwhile :
    ¬ ∀ start : TaskSystem SmallResult, GuardedSystem "demo" start →
      ResourcesGuarded smallFormat "demo" (fun _ _ => True) start := by
  intro guarded
  have failed : ((runFrom (TaskSystem.act smallFormat "demo") ⟨TaskStore.new SmallResult, []⟩
      failureMeanwhile).bind (statusOf "job-1")) = some .failed := by
    decide +kernel
  have pending : ((runFrom (TaskSystem.act smallFormat "demo") ⟨TaskStore.new SmallResult, []⟩
      failureMeanwhile).bind fun system => (runFrom (TaskSystem.act smallFormat "demo") system
        [.request (.recordTaskMetadata downloadStarted downloadDescriptor)]).bind
          (statusOf "job-1")) = some .pending := by
    decide +kernel
  obtain ⟨earlier, first, failed⟩ := Option.bind_eq_some_iff.mp failed
  rw [first, Option.bind_some] at pending
  obtain ⟨later, rest, pending⟩ := Option.bind_eq_some_iff.mp pending
  obtain ⟨_, follows⟩ := guarded _ (guardedSystem_new "demo") earlier later _ _
    (.of_runFrom first) (.of_runFrom rest)
  obtain ⟨row, found, isFailed⟩ := Option.map_eq_some_iff.mp failed
  obtain ⟨row', found', isPending⟩ := Option.map_eq_some_iff.mp pending
  have stays := follows.finished "job-1" row row' found (by rw [isFailed]; rfl) found'
  rw [isPending] at stays
  cases stays

end NetConsole.TaskCenter
