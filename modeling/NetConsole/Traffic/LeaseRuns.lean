import NetConsole.Traffic.LeaseSteps

/-!
# Runs of sessions on shared servers

When every step of a run is in order, no server is stopped while a session uses it, a
server is stopped after the last session that was given it, and each session counts and
gives back one lease at most, its own (`leases_kept`).

The steps out of order are these: a lease is counted for a session that was stopped
before; a server is registered beside a live one; a start gives up a server that others
attached to, or takes out another one; a lease is given back to another server than the
one it was counted on; a managed server is mistaken for a foreign one. The lease of a
failed start is enough for two sessions to meet (`not_leasesKept`).
-/

set_option autoImplicit false

namespace NetConsole.Traffic

open Foundations

variable {Session Key : Type} [DecidableEq Key]

namespace System

variable [DecidableEq Session]

/-! ## Steps and runs -/

variable {state : TrafficState Session Key} {system : System Session Key} {object : Nat}

omit [DecidableEq Key] [DecidableEq Session] in
theorem Leased.proceed (leased : system.Leased) (born : object < system.nextTraffic)
    (consistent : Consistent state) (lease : SameLease (system.traffic object) state)
    (before : ∀ key runner, (system.traffic object).phase ≠ .failing key runner)
    (before' : (system.traffic object).phase ≠ .startFailed)
    (after : ∀ key runner, state.phase ≠ .failing key runner)
    (after' : state.phase ≠ .startFailed) : (system.setTraffic object state).Leased :=
  leased.setTraffic consistent lease (fun above => absurd born (Nat.not_lt_of_le above))
    (fun key runner => iff_of_false (after key runner) (before key runner))
    (iff_of_false after' before')

omit [DecidableEq Key] [DecidableEq Session] in
theorem consistent_without
    {before after : TrafficState Session Key} (consistent : Consistent before)
    (early : before.phase = .starting ∨ (∃ key, before.phase = .probing key) ∨
      ∃ key, before.phase = .creating key)
    (lease : SameLease before after) (counted : after.counted = before.counted)
    (releases : after.releases = before.releases)
    (waiting : ∀ key runner, after.phase ≠ .waiting key runner)
    (failing : ∀ key runner, after.phase ≠ .failing key runner)
    (available : ∀ runner, after.phase ≠ .available (.managed runner)) : Consistent after := by
  obtain ⟨noRunner, noKey, notHolding, notCounted⟩ := consistent.early early
  have few := consistent.releasedOnce
  have own := consistent.releasedOwn
  rw [← lease.serverRunner] at noRunner
  rw [← lease.leaseKey] at noKey
  rw [← lease.holding] at notHolding
  rw [← counted] at notCounted few
  rw [← releases, ← lease.serverRunner] at own
  rw [← releases] at few
  refine ⟨fun _ => ⟨noRunner, noKey, notHolding, notCounted⟩,
    fun key runner phase => absurd phase (waiting key runner),
    fun key runner phase => absurd phase (failing key runner), fun _ => notHolding,
    fun runner phase => absurd phase (available runner), ?_, ?_, ?_, few, own⟩
  · intro holding
    rw [notHolding] at holding
    cases holding
  · intro key isKey
    rw [noKey] at isKey
    cases isKey
  · rw [notCounted]
    exact Nat.zero_le 1

omit [DecidableEq Key] [DecidableEq Session] in
theorem consistent_listening (consistent : Consistent state) {key : Key} {runner : Nat}
    (phase : state.phase = .waiting key runner) {listener : Listener}
    (own : ∀ other, listener = .managed other → state.serverRunner = some other) :
    Consistent { state with phase := .available listener, serverStatus := .running } := by
  obtain ⟨_, _, holding⟩ := consistent.waiting key runner phase
  refine ⟨?_, ?_, ?_, ?_, ?_, consistent.holding, ?_, consistent.countedOnce,
    consistent.releasedOnce, consistent.releasedOwn⟩
  · rintro (same | ⟨_, same⟩ | ⟨_, same⟩) <;> cases same
  · intro key' runner' same
    cases same
  · intro key' runner' same
    cases same
  · intro same
    cases same
  · intro other same fresh
    cases same
    exact ⟨holding fresh, own other rfl⟩
  · intro key' _ fresh
    exact .inl (holding fresh)

omit [DecidableEq Key] [DecidableEq Session] in
/-- A start without a lease goes on without one. -/
theorem Leased.goOn (leased : system.Leased) (born : object < system.nextTraffic)
    (early : (system.traffic object).phase = .starting ∨
      (∃ key, (system.traffic object).phase = .probing key) ∨
      ∃ key, (system.traffic object).phase = .creating key)
    (lease : SameLease (system.traffic object) state)
    (counted : state.counted = (system.traffic object).counted)
    (releases : state.releases = (system.traffic object).releases)
    (waiting : ∀ key runner, state.phase ≠ .waiting key runner)
    (failing : ∀ key runner, state.phase ≠ .failing key runner)
    (startFailed : state.phase ≠ .startFailed)
    (available : ∀ runner, state.phase ≠ .available (.managed runner)) :
    (system.setTraffic object state).Leased := by
  apply leased.proceed born _ lease
  · intro key runner phase
    rw [phase] at early
    rcases early with same | ⟨_, same⟩ | ⟨_, same⟩ <;> cases same
  · intro phase
    rw [phase] at early
    rcases early with same | ⟨_, same⟩ | ⟨_, same⟩ <;> cases same
  · exact failing
  · exact startFailed
  · exact consistent_without (leased.consistent object) early lease counted releases waiting failing
      available

omit [DecidableEq Session] in
/-- The first locked part attaches to a live server, or takes out a dead one. -/
theorem Leased.lookUp (leased : system.Leased) {key : Key} {mirrorRaises : Bool}
    (born : object < system.nextTraffic) (starting : (system.traffic object).phase = .starting)
    (inOrder : system.InOrder (.lookUp object key mirrorRaises)) :
    (system.lookUp object key mirrorRaises).Leased := by
  have probing : ∀ system' : System Session Key, system'.Leased →
      system'.traffic object = system.traffic object → system'.nextTraffic = system.nextTraffic →
      (system'.setTraffic object { system.traffic object with phase := .probing key }).Leased := by
    intro system' leased' same sameBound
    rw [← same] at starting ⊢
    refine leased'.goOn (sameBound ▸ born) (.inl starting) ⟨rfl, rfl, rfl, rfl⟩ rfl rfl ?_ ?_ ?_ ?_
    all_goals simp
  unfold System.lookUp
  cases stored : system.servers key with
  | none => exact probing system leased rfl rfl
  | some shared =>
    simp only
    by_cases alive : system.runnerIsAlive shared.runner = true
    · rw [if_pos alive]
      exact leased.attach born starting (inOrder shared stored alive) stored
    · rw [if_neg alive]
      have dead : (system.runners shared.runner).exited = true := by
        simpa [System.runnerIsAlive] using alive
      exact probing _ (leased.dropDead stored dead) rfl rfl

omit [DecidableEq Key] [DecidableEq Session] in
/-- No managed server passes the probe for a foreign one. -/
theorem Leased.probed (leased : system.Leased) {key : Key} {listener : Option Listener}
    {verified : Bool} (phase : (system.traffic object).phase = .probing key)
    (inOrder : system.InOrder (.probe object listener verified)) :
    (system.setTraffic object (probed key listener verified (system.traffic object))).Leased := by
  have born : object < system.nextTraffic :=
    leased.born (by rw [phase]; exact fun same => by cases same)
  have early : (system.traffic object).phase = .starting ∨
      (∃ key, (system.traffic object).phase = .probing key) ∨
      ∃ key, (system.traffic object).phase = .creating key := .inr (.inl ⟨key, phase⟩)
  cases listener with
  | none =>
    refine leased.goOn born early ⟨rfl, rfl, rfl, rfl⟩ rfl rfl ?_ ?_ ?_ ?_
    all_goals simp [System.probed]
  | some listener =>
    cases verified with
    | false =>
      refine leased.goOn born early ⟨rfl, rfl, rfl, rfl⟩ rfl rfl ?_ ?_ ?_ ?_
      all_goals simp [System.probed]
    | true =>
      cases listener with
      | managed runner => exact absurd inOrder (by simp [InOrder])
      | foreign =>
        refine leased.goOn born early ⟨rfl, rfl, rfl, rfl⟩ rfl rfl ?_ ?_ ?_ ?_
        all_goals simp [System.probed]

omit [DecidableEq Key] [DecidableEq Session] in
/-- A listener is accepted: its own server, or a foreign one. -/
theorem Leased.listening (leased : system.Leased) {key : Key} {runner : Nat} {listener : Listener}
    (phase : (system.traffic object).phase = .waiting key runner)
    (inOrder : system.InOrder (.listening object listener)) :
    (system.setTraffic object { system.traffic object with
      phase := .available listener, serverStatus := .running }).Leased := by
  have born : object < system.nextTraffic :=
    leased.born (by rw [phase]; exact fun same => by cases same)
  apply leased.proceed born
  · apply consistent_listening (leased.consistent object) phase
    rintro other rfl
    exact inOrder
  · exact ⟨rfl, rfl, rfl, rfl⟩
  all_goals simp [phase]

/-- One step in order keeps the invariant. -/
theorem Leased.step {after : System Session Key} {action : Action Session Key}
    (leased : system.Leased) (inOrder : system.InOrder action)
    (taken : system.step action = some after) : after.Leased := by
  cases action with
  | enter session =>
    cases taken
    exact leased.enter session
  | fpingFails object =>
    simp only [System.step] at taken
    split at taken
    · rename_i ready
      cases taken
      have raised : (system.setTraffic object
          { system.traffic object with phase := .raised }).Leased := by
        refine leased.goOn ready.1 (.inl ready.2) ⟨rfl, rfl, rfl, rfl⟩ rfl rfl ?_ ?_ ?_ ?_
        all_goals simp
      exact raised.congr raised.consistent (fun _ => SameLease.refl _)
        (fun other above => (raised.unborn other above).1) rfl rfl rfl (fun _ => rfl) (fun _ => id)
        (fun _ => Iff.rfl) (fun _ => Iff.rfl) (fun _ _ _ _ => Iff.rfl)
    · cases taken
  | needsNoServer object =>
    simp only [System.step] at taken
    split at taken
    · rename_i ready
      cases taken
      refine leased.goOn ready.1 (.inl ready.2) ⟨rfl, rfl, rfl, rfl⟩ rfl rfl ?_ ?_ ?_ ?_
      all_goals simp
    · cases taken
  | lookUp object key mirrorRaises =>
    simp only [System.step] at taken
    split at taken
    · rename_i ready
      cases taken
      exact leased.lookUp ready.1 ready.2 inOrder
    · cases taken
  | probe object listener verified =>
    simp only [System.step] at taken
    split at taken
    · rename_i key phase
      cases taken
      exact leased.probed phase inOrder
    · cases taken
  | register object =>
    simp only [System.step] at taken
    split at taken
    · rename_i key phase
      cases taken
      apply leased.register phase inOrder.1
      intro shared stored
      simpa [System.runnerIsAlive] using inOrder.2 key shared phase stored
    · cases taken
  | listening object listener =>
    simp only [System.step] at taken
    split at taken
    · rename_i key runner phase
      cases taken
      exact leased.listening phase inOrder
    · cases taken
  | giveUp object =>
    simp only [System.step] at taken
    split at taken
    · rename_i key runner phase
      cases taken
      obtain ⟨own, alone⟩ := inOrder key runner phase
      exact leased.giveUp phase own alone
    · cases taken
  | stopFailed object =>
    simp only [System.step] at taken
    split at taken
    · rename_i key runner phase
      cases taken
      exact leased.stopFailed phase
    · cases taken
  | callStop thread session reason =>
    simp only [System.step] at taken
    split at taken
    · rename_i idle
      cases taken
      unfold System.stopTraffic
      split
      · exact leased
      · apply leased.setCall
        all_goals simp [idle]
    · cases taken
  | checkReleased thread =>
    simp only [System.step] at taken
    split at taken
    · rename_i object reason call
      cases taken
      exact leased.checkReleased call
    · cases taken
  | release thread =>
    simp only [System.step] at taken
    split at taken
    · rename_i object key reason call
      cases taken
      exact leased.releaseServer call (inOrder object key reason call)
    · cases taken
  | stopRunner thread =>
    simp only [System.step] at taken
    split at taken
    · rename_i runner reason call
      cases taken
      exact leased.endStop call
    · cases taken
  | exit runner =>
    cases taken
    exact leased.exit runner

section Initial

variable [Inhabited Session] [Inhabited Key]

def initial : System Session Key :=
  { states _ := none
    traffic _ := .new default
    nextTraffic := 0
    servers _ := none
    runners _ := { key := default, stopRequested := none, exited := false }
    nextRunner := 0
    calls _ := .idle }

omit [DecidableEq Key] [DecidableEq Session] in
theorem Leased.initial : (System.initial : System Session Key).Leased := by
  refine ⟨fun _ => consistent_new default, fun _ _ => ⟨rfl, rfl, rfl, rfl⟩, ?_,
    ?_, ?_, ?_, ?_, ?_, ?_,
    ?_, ?_⟩
  · intro object runner given
    cases given
  · intro object runner held
    cases held.1
  · intro object stands
    cases stands
  · intro key shared stored
    cases stored
  · intro runner below
    exact absurd below (Nat.not_lt_zero _)
  · rintro runner (stopped | ⟨thread, reason, call⟩ | ⟨object, key, phase⟩)
    · exact absurd rfl stopped
    · cases call
    · cases phase
  · intro thread object key reason call
    cases call
  · intro one two object key key' reason reason' call
    cases call
  · intro object runner lost given
    cases given

/-- In every run whose steps are in order, the leases are kept at every point. -/
theorem leases_kept {actions : List (Action Session Key)} {system : System Session Key}
    (run : GuardedRun System.step System.InOrder System.initial actions system) :
    system.LeasesKept := by
  have leased : system.Leased := run.invariant System.Leased
    (fun _ _ _ leased inOrder taken => leased.step inOrder taken) Leased.initial
  exact leased.leasesKept

end Initial

/-! ## Two sessions -/

/-- `InOrder`, as a test; a start that gives up is not tested. -/
def inOrder (system : System Session Key) : Action Session Key → Bool
  | .lookUp object key _ =>
    match system.servers key with
    | none => true
    | some shared =>
      !system.runnerIsAlive shared.runner || !(system.traffic object).serverReleased
  | .probe _ (some (.managed _)) verified => !verified
  | .register object =>
    !(system.traffic object).serverReleased &&
      match (system.traffic object).phase with
      | .creating key =>
        match system.servers key with
        | none => true
        | some shared => !system.runnerIsAlive shared.runner
      | _ => true
  | .listening object (.managed runner) =>
    decide ((system.traffic object).serverRunner = some runner)
  | .giveUp _ => false
  | .release thread =>
    match system.calls thread with
    | .releasing object key _ =>
      match system.servers key with
      | none => true
      | some shared => decide ((system.traffic object).serverRunner = some shared.runner)
    | _ => true
  | _ => true

omit [DecidableEq Key] [DecidableEq Session] in
theorem inOrder_sound (system : System Session Key) (action : Action Session Key)
    (tested : system.inOrder action = true) : system.InOrder action := by
  cases action with
  | lookUp object key mirrorRaises =>
    intro shared stored alive
    simpa [inOrder, stored, alive] using tested
  | probe object listener verified =>
    cases listener with
    | none => trivial
    | some listener =>
      cases listener with
      | foreign => trivial
      | managed runner => simpa [inOrder, InOrder] using tested
  | register object =>
    simp only [inOrder, Bool.and_eq_true, Bool.not_eq_true'] at tested
    refine ⟨tested.1, ?_⟩
    intro key shared phase stored
    simpa [phase, stored] using tested.2
  | listening object listener =>
    cases listener with
    | foreign => trivial
    | managed runner => simpa [inOrder, InOrder] using tested
  | giveUp object => cases tested
  | release thread =>
    intro object key reason call shared stored
    simpa [inOrder, call, stored] using tested
  | _ => trivial

def loopback : String × Nat := ("/opt/netconsole/iperf3", 5201)

/-- The second session attaches to the server of the first, and is stopped after it. -/
def sharedRun : List (Action String (String × Nat)) :=
  [.enter "a", .lookUp 0 loopback false, .probe 0 none false, .register 0,
    .listening 0 (.managed 0), .enter "b", .lookUp 1 loopback false,
    .callStop 0 "a" .stoppedByCollection, .checkReleased 0, .release 0,
    .callStop 0 "b" .stoppedByCollection, .checkReleased 0, .release 0, .stopRunner 0]

theorem leases_kept_sharedRun : ∃ system,
    GuardedRun System.step System.InOrder System.initial sharedRun system ∧ system.LeasesKept := by
  have possible : (runFrom (fun system action =>
      if inOrder system action then System.step system action else none)
      System.initial sharedRun).isSome = true := by
    decide
  obtain ⟨system, taken⟩ := Option.isSome_iff_exists.mp possible
  have run : GuardedRun System.step System.InOrder System.initial sharedRun system :=
    GuardedRun.of_tested inOrder_sound taken
  exact ⟨system, run, leases_kept run⟩

/-- The start of the first session fails, the second one starts a server, and the first one is
stopped. -/
def failedStart : List (Action String (String × Nat)) :=
  [.enter "a", .lookUp 0 loopback false, .probe 0 none false, .register 0, .giveUp 0,
    .stopFailed 0, .enter "b", .lookUp 1 loopback false, .probe 1 none false, .register 1,
    .listening 1 (.managed 1), .callStop 0 "a" .stoppedByCollection, .checkReleased 0, .release 0]

/-- The first session, whose start failed, stops the server of the second. -/
theorem not_leasesKept : ¬∀ actions system,
    runFrom System.step (System.initial : System String (String × Nat)) actions = some system →
      system.LeasesKept := by
  intro always
  have ends : (runFrom System.step System.initial failedStart).map (fun system =>
      (system.calls 0, (system.traffic 1).phase, (system.traffic 1).serverReleased)) =
      some (.stopping 1 .stoppedByCollection, .available (.managed 1), false) := by
    decide
  obtain ⟨system, taken, views⟩ := Option.map_eq_some_iff.mp ends
  simp only [Prod.mk.injEq] at views
  exact (always failedStart system taken).stoppedUnused 1 1 (.inr (.inl ⟨0, _, views.1⟩))
    ⟨views.2.1, views.2.2⟩

end System

end NetConsole.Traffic
