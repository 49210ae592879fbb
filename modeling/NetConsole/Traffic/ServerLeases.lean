import NetConsole.Traffic.SharedServers

/-!
# Leases on shared servers

What is to hold of the leases (`LeasesKept`), when a step is in order (`InOrder`), and the
invariant behind it (`Leased`): the count of a registered server is the number of sessions
that hold a lease on it, and a server that is stopped is not registered and held by nobody.
-/

set_option autoImplicit false

namespace NetConsole.Traffic

open Foundations

variable {Session Key : Type}

namespace System

variable (system : System Session Key)

/-! ## Leases -/

/-- The lease of the object stands, on that server. -/
def Holds (object runner : Nat) : Prop :=
  (system.traffic object).holding = true ∧ (system.traffic object).serverRunner = some runner

instance (object runner : Nat) : Decidable (system.Holds object runner) :=
  inferInstanceAs (Decidable (_ ∧ _))

/-- How many sessions hold a server. -/
def holders (runner : Nat) : Nat :=
  Nat.count (fun object => system.Holds object runner) system.nextTraffic

/-- The session was told that the server is available, and was not stopped since. -/
def Uses (object runner : Nat) : Prop :=
  (system.traffic object).phase = .available (.managed runner) ∧
    (system.traffic object).serverReleased = false

/-- Someone has asked the server to stop. -/
def Stopped (runner : Nat) : Prop := (system.runners runner).stopRequested ≠ none

/-- A thread is on the way to stop the server. -/
def AboutToStop (runner : Nat) : Prop :=
  (∃ thread reason, system.calls thread = .stopping runner reason) ∨
    ∃ object key, (system.traffic object).phase = .failing key runner

/-- The server is stopped, or will be. -/
def Gone (runner : Nat) : Prop := system.Stopped runner ∨ system.AboutToStop runner

/-- The server is the one that is shared. -/
def Registered (runner : Nat) : Prop :=
  (system.servers (system.runners runner).key).map SharedServer.runner = some runner

/-- The start of the session has failed. -/
def StartFailed (object : Nat) : Prop :=
  (system.traffic object).phase = .startFailed ∨
    ∃ key runner, (system.traffic object).phase = .failing key runner

/-- The lease of the session is being released. -/
def Releasing (object : Nat) : Prop :=
  ∃ thread key reason, system.calls thread = .releasing object key reason

/-- The session was stopped, or its start failed. -/
def Finished (object : Nat) : Prop :=
  system.StartFailed object ∨
    (system.traffic object).serverReleased = true ∧ ¬system.Releasing object

/-- Servers are stopped when unused, and leases count exactly. -/
structure LeasesKept : Prop where
  stoppedUnused : ∀ runner object, system.Stopped runner ∨ system.AboutToStop runner →
    ¬system.Uses object runner
  stoppedAfterLast : ∀ runner < system.nextRunner,
    (∀ object, (system.traffic object).serverRunner = some runner → system.Finished object) →
    system.Stopped runner ∨ system.AboutToStop runner ∨ (system.runners runner).exited = true
  countedOnce : ∀ object, (system.traffic object).counted ≤ 1
  countedExactly : ∀ key shared, system.servers key = some shared →
    shared.refCount = system.holders shared.runner
  releasedOnce : ∀ object, (system.traffic object).releases.length ≤ (system.traffic object).counted
  releasedOwn : ∀ object, ∀ release ∈ (system.traffic object).releases,
    release.own = true ∧ (system.traffic object).serverRunner = some release.runner

/-- The condition under which a step keeps the leases. -/
def InOrder : Action Session Key → Prop
  | .lookUp object key _ => ∀ shared, system.servers key = some shared →
      system.runnerIsAlive shared.runner = true →
      (system.traffic object).serverReleased = false
  | .probe _ (some (.managed _)) verified => verified = false
  | .register object => (system.traffic object).serverReleased = false ∧
      ∀ key shared, (system.traffic object).phase = .creating key →
        system.servers key = some shared → system.runnerIsAlive shared.runner = false
  | .listening object (.managed runner) => (system.traffic object).serverRunner = some runner
  | .giveUp object => ∀ key runner, (system.traffic object).phase = .waiting key runner →
      (∀ shared, system.servers key = some shared → shared.runner = runner) ∧
        ∀ other, other ≠ object → ¬system.Holds other runner
  | .release thread => ∀ object key reason, system.calls thread = .releasing object key reason →
      ∀ shared, system.servers key = some shared →
        (system.traffic object).serverRunner = some shared.runner
  | _ => True

end System

/-! ## What holds of one session -/

/-- What the phase of a session says of its lease. -/
structure Consistent (state : TrafficState Session Key) : Prop where
  early : state.phase = .starting ∨ (∃ key, state.phase = .probing key) ∨
      (∃ key, state.phase = .creating key) →
    state.serverRunner = none ∧ state.leaseKey = none ∧ state.holding = false ∧ state.counted = 0
  waiting : ∀ key runner, state.phase = .waiting key runner →
    state.serverRunner = some runner ∧ state.leaseKey = some key ∧
      (state.serverReleased = false → state.holding = true)
  failing : ∀ key runner, state.phase = .failing key runner →
    state.serverRunner = some runner ∧ state.holding = false
  startFailed : state.phase = .startFailed → state.holding = false
  available : ∀ runner, state.phase = .available (.managed runner) →
    state.serverReleased = false → state.holding = true ∧ state.serverRunner = some runner
  holding : state.holding = true → state.counted = 1 ∧ state.releases = [] ∧
    ∃ runner, state.serverRunner = some runner
  leased : ∀ key, state.leaseKey = some key → state.serverReleased = false →
    state.holding = true ∨ state.phase = .startFailed ∨
      ∃ key runner, state.phase = .failing key runner
  countedOnce : state.counted ≤ 1
  releasedOnce : state.releases.length ≤ state.counted
  releasedOwn : ∀ release ∈ state.releases,
    release.own = true ∧ state.serverRunner = some release.runner

/-! ## What holds of the system -/

namespace System

/-- The invariant of the leases. -/
structure Leased (system : System Session Key) : Prop where
  consistent : ∀ object, Consistent (system.traffic object)
  unborn : ∀ object, system.nextTraffic ≤ object →
    (system.traffic object).phase = .starting ∧ (system.traffic object).holding = false ∧
      (system.traffic object).serverRunner = none ∧ (system.traffic object).leaseKey = none
  given : ∀ object runner, (system.traffic object).serverRunner = some runner →
    runner < system.nextRunner ∧ (system.traffic object).leaseKey = some (system.runners runner).key
  held : ∀ object runner, system.Holds object runner →
    system.Registered runner ∨ (system.runners runner).exited = true
  stands : ∀ object, (system.traffic object).holding = true →
    (system.traffic object).serverReleased = true → system.Releasing object
  registered : ∀ key shared, system.servers key = some shared →
    shared.runner < system.nextRunner ∧ (system.runners shared.runner).key = key ∧
      shared.refCount = system.holders shared.runner ∧ 0 < shared.refCount
  unregistered : ∀ runner < system.nextRunner,
    system.Registered runner ∨ system.Gone runner ∨ (system.runners runner).exited = true
  gone : ∀ runner, system.Gone runner →
    runner < system.nextRunner ∧ ¬system.Registered runner ∧ ∀ object, ¬system.Holds object runner
  releasing : ∀ thread object key reason, system.calls thread = .releasing object key reason →
    (system.traffic object).serverReleased = true ∧ (system.traffic object).leaseKey = some key ∧
      ((system.traffic object).holding = true ∨ system.StartFailed object)
  oneRelease : ∀ one two object key key' reason reason',
    system.calls one = .releasing object key reason →
    system.calls two = .releasing object key' reason' → one = two
  failed : ∀ object runner, system.StartFailed object →
    (system.traffic object).serverRunner = some runner → system.Gone runner

variable {system : System Session Key}

theorem Leased.leasesKept (leased : system.Leased) : system.LeasesKept := by
  refine ⟨?_, ?_, ?_, ?_, ?_, ?_⟩
  · intro runner object gone uses
    exact (leased.gone runner gone).2.2 object
      ((leased.consistent object).available runner uses.1 uses.2)
  · intro runner below finished
    rcases leased.unregistered runner below with registered | gone
    · obtain ⟨shared, stored, rfl⟩ := Option.map_eq_some_iff.mp registered
      obtain ⟨_, _, exactly, positive⟩ := leased.registered _ _ stored
      rw [exactly] at positive
      obtain ⟨object, _, holds⟩ := Nat.count_ne_iff_exists.mp (Nat.ne_of_gt positive)
      rcases finished object holds.2 with failed | ⟨released, done⟩
      · rcases failed with phase | ⟨key, other, phase⟩
        · have lost := (leased.consistent object).startFailed phase
          rw [holds.1] at lost
          cases lost
        · have lost := ((leased.consistent object).failing key other phase).2
          rw [holds.1] at lost
          cases lost
      · exact absurd (leased.stands object holds.1 released) done
    · exact or_assoc.mp gone
  · intro object
    exact (leased.consistent object).countedOnce
  · intro key shared stored
    exact (leased.registered key shared stored).2.2.1
  · intro object
    exact (leased.consistent object).releasedOnce
  · intro object
    exact (leased.consistent object).releasedOwn

/-! ## Steps that do not touch leases -/

/-- What a step that does not touch a lease leaves as it is. -/
structure SameLease (before after : TrafficState Session Key) : Prop where
  holding : after.holding = before.holding
  serverRunner : after.serverRunner = before.serverRunner
  leaseKey : after.leaseKey = before.leaseKey
  serverReleased : after.serverReleased = before.serverReleased

theorem SameLease.refl (state : TrafficState Session Key) : SameLease state state :=
  ⟨rfl, rfl, rfl, rfl⟩

variable {before after : System Session Key}

/-- A step that leaves the servers, and who holds which of them. -/
theorem Leased.sameServers (leased : before.Leased)
    (consistent : ∀ object, Consistent (after.traffic object))
    (holding : ∀ object, (after.traffic object).holding = (before.traffic object).holding)
    (serverRunner : ∀ object,
      (after.traffic object).serverRunner = (before.traffic object).serverRunner)
    (leaseKey : ∀ object, (after.traffic object).leaseKey = (before.traffic object).leaseKey)
    (unborn : ∀ object, after.nextTraffic ≤ object → (after.traffic object).phase = .starting)
    (nextTraffic : before.nextTraffic ≤ after.nextTraffic)
    (servers : after.servers = before.servers) (nextRunner : after.nextRunner = before.nextRunner)
    (key : ∀ runner, (after.runners runner).key = (before.runners runner).key)
    (exited : ∀ runner, (before.runners runner).exited = true →
      (after.runners runner).exited = true)
    (gone : ∀ runner, after.Gone runner ↔ before.Gone runner)
    (startFailed : ∀ object, after.StartFailed object ↔ before.StartFailed object)
    (stands : ∀ object, (before.traffic object).holding = true →
      (after.traffic object).serverReleased = true → after.Releasing object)
    (releasing : ∀ thread object key reason, after.calls thread = .releasing object key reason →
      (after.traffic object).serverReleased = true ∧ (before.traffic object).leaseKey = some key ∧
        ((before.traffic object).holding = true ∨ before.StartFailed object))
    (oneRelease : ∀ one two object key key' reason reason',
      after.calls one = .releasing object key reason →
      after.calls two = .releasing object key' reason' → one = two) : after.Leased := by
  have holds : ∀ object runner, after.Holds object runner ↔ before.Holds object runner := by
    intro object runner
    rw [Holds, Holds, holding, serverRunner]
  have holders : ∀ runner, after.holders runner = before.holders runner := by
    intro runner
    unfold System.holders
    rw [count_congr fun object _ => holds object runner]
    apply count_of_none_above nextTraffic
    intro object above held
    rw [Holds, (leased.unborn object above).2.1] at held
    cases held.1
  have registered : ∀ runner, after.Registered runner ↔ before.Registered runner := by
    intro runner
    rw [Registered, Registered, servers, key]
  refine ⟨consistent, ?_, ?_, ?_, ?_, ?_, ?_, ?_, ?_, oneRelease, ?_⟩
  · intro object above
    rw [holding, serverRunner, leaseKey]
    exact ⟨unborn object above, (leased.unborn object (nextTraffic.trans above)).2⟩
  · intro object runner given
    rw [nextRunner, key, leaseKey]
    exact leased.given object runner (serverRunner object ▸ given)
  · intro object runner held
    rw [registered]
    exact (leased.held object runner ((holds object runner).mp held)).imp_right (exited runner)
  · intro object held
    exact stands object (holding object ▸ held)
  · intro key' shared stored
    rw [nextRunner, key, holders]
    exact leased.registered key' shared (servers ▸ stored)
  · intro runner below
    rw [registered, gone]
    exact (leased.unregistered runner (nextRunner ▸ below)).imp_right
      fun other => other.imp_right (exited runner)
  · intro runner isGone
    rw [nextRunner, registered]
    obtain ⟨below, out, free⟩ := leased.gone runner ((gone runner).mp isGone)
    exact ⟨below, out, fun object held => free object ((holds object runner).mp held)⟩
  · intro thread object key' reason call
    rw [leaseKey, holding, startFailed]
    exact releasing thread object key' reason call
  · intro object runner lost given
    rw [gone]
    exact leased.failed object runner ((startFailed object).mp lost) (serverRunner object ▸ given)

theorem Leased.congr (leased : before.Leased)
    (consistent : ∀ object, Consistent (after.traffic object))
    (lease : ∀ object, SameLease (before.traffic object) (after.traffic object))
    (unborn : ∀ object, before.nextTraffic ≤ object → (after.traffic object).phase = .starting)
    (nextTraffic : after.nextTraffic = before.nextTraffic)
    (servers : after.servers = before.servers) (nextRunner : after.nextRunner = before.nextRunner)
    (key : ∀ runner, (after.runners runner).key = (before.runners runner).key)
    (exited : ∀ runner, (before.runners runner).exited = true →
      (after.runners runner).exited = true)
    (gone : ∀ runner, after.Gone runner ↔ before.Gone runner)
    (startFailed : ∀ object, after.StartFailed object ↔ before.StartFailed object)
    (releasing : ∀ thread object key reason, after.calls thread = .releasing object key reason ↔
      before.calls thread = .releasing object key reason) : after.Leased := by
  refine leased.sameServers consistent (fun object => (lease object).holding)
    (fun object => (lease object).serverRunner) (fun object => (lease object).leaseKey)
    (nextTraffic ▸ unborn) nextTraffic.ge servers nextRunner key exited gone startFailed ?_ ?_ ?_
  · intro object stands released
    simp only [Releasing, releasing]
    exact leased.stands object stands ((lease object).serverReleased ▸ released)
  · intro thread object key' reason call
    rw [(lease object).serverReleased]
    exact leased.releasing thread object key' reason ((releasing _ _ _ _).mp call)
  · intro one two object key' key'' reason reason' first second
    exact leased.oneRelease one two object key' key'' reason reason'
      ((releasing _ _ _ _).mp first) ((releasing _ _ _ _).mp second)

theorem Leased.setTraffic (leased : system.Leased) {object : Nat} {state : TrafficState Session Key}
    (consistent : Consistent state) (lease : SameLease (system.traffic object) state)
    (unborn : system.nextTraffic ≤ object → state.phase = .starting)
    (failing : ∀ key runner, state.phase = .failing key runner ↔
      (system.traffic object).phase = .failing key runner)
    (startFailed : state.phase = .startFailed ↔ (system.traffic object).phase = .startFailed) :
    (system.setTraffic object state).Leased := by
  have traffic : ∀ other, (system.setTraffic object state).traffic other =
      if other = object then state else system.traffic other :=
    fun other => Function.update_apply _ _ _ _
  have failingAll : ∀ other key runner,
      ((system.setTraffic object state).traffic other).phase = .failing key runner ↔
        (system.traffic other).phase = .failing key runner := by
    intro other key runner
    rw [traffic]
    split
    · rename_i same
      rw [same]
      exact failing key runner
    · rfl
  refine leased.congr ?_ ?_ ?_ rfl rfl rfl (fun _ => rfl) (fun _ => id) ?_ ?_
    (fun _ _ _ _ => Iff.rfl)
  · intro other
    rw [traffic]
    split
    · exact consistent
    · exact leased.consistent other
  · intro other
    rw [traffic]
    split
    · rename_i same
      rw [same]
      exact lease
    · exact SameLease.refl _
  · intro other above
    rw [traffic]
    split
    · rename_i same
      exact unborn (same ▸ above)
    · exact (leased.unborn other above).1
  · intro runner
    simp only [Gone, AboutToStop, failingAll]
    rfl
  · intro other
    simp only [StartFailed, failingAll]
    rw [traffic]
    split
    · rename_i same
      rw [same, startFailed]
    · rfl

theorem Leased.setCall (leased : system.Leased) {thread : Nat} {call : StopCall Key}
    (before : ∀ object key reason, system.calls thread ≠ .releasing object key reason)
    (before' : ∀ runner reason, system.calls thread ≠ .stopping runner reason)
    (after : ∀ object key reason, call ≠ .releasing object key reason)
    (after' : ∀ runner reason, call ≠ .stopping runner reason) :
    (system.setCall thread call).Leased := by
  refine leased.congr leased.consistent (fun object => SameLease.refl _)
    (fun object above => (leased.unborn object above).1) rfl rfl rfl (fun _ => rfl) (fun _ => id)
    ?_ (fun _ => Iff.rfl) ?_
  · intro runner
    have stopping : ∀ other reason, (system.setCall thread call).calls other =
        .stopping runner reason ↔ system.calls other = .stopping runner reason := by
      intro other reason
      by_cases same : other = thread
      · subst same
        simp [System.setCall, before', after']
      · simp [System.setCall, Function.update_of_ne same]
    simp only [Gone, AboutToStop, stopping]
    rfl
  · intro other object key reason
    by_cases same : other = thread
    · subst same
      simp [System.setCall, before, after]
    · simp [System.setCall, Function.update_of_ne same]

end System

end NetConsole.Traffic
