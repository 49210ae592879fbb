import NetConsole.Traffic.LeaseChanges

/-!
# Steps that touch leases

A lease is counted when a session attaches or registers a server (`Leased.attach`,
`Leased.register`), and lost when a start gives up or a stop releases it
(`Leased.giveUp`, `Leased.releaseServer`). Each step in order keeps the invariant.
-/

set_option autoImplicit false

namespace NetConsole.Traffic

open Foundations Option Function

variable {Session Key : Type}

namespace System

/-! ## Taking a lease -/

variable [DecidableEq Key] {system : System Session Key} {key : Key} {shared : SharedServer}

/-- A server that has ended by itself is taken out. -/
theorem Leased.dropDead (leased : system.Leased) (stored : system.servers key = some shared)
    (dead : (system.runners shared.runner).exited = true) : (system.setServer key none).Leased := by
  have registered : ∀ runner, system.Registered runner →
      (system.setServer key none).Registered runner ∨ (system.runners runner).exited = true := by
    intro runner there
    unfold Registered at there ⊢
    by_cases same : (system.runners runner).key = key
    · rw [same, stored, map_some, some.injEq] at there
      exact .inr (there ▸ dead)
    · left
      simpa [System.setServer, update_of_ne same] using there
  have kept : ∀ other shared, (system.setServer key none).servers other = some shared →
      system.servers other = some shared := by
    intro other shared there
    by_cases same : other = key
    · subst same
      simp [System.setServer] at there
    · simpa [System.setServer, update_of_ne same] using there
  refine { leased with held := ?_, registered := ?_, unregistered := ?_, gone := ?_ }
  · intro object runner held
    rcases leased.held object runner held with there | exited
    · exact registered runner there
    · exact .inr exited
  · intro other shared there
    exact leased.registered other shared (kept other shared there)
  · intro runner below
    rcases leased.unregistered runner below with there | gone
    · rcases registered runner there with still | exited
      · exact .inl still
      · exact .inr (.inr exited)
    · exact .inr gone
  · intro runner gone
    obtain ⟨below, out, free⟩ := leased.gone runner gone
    refine ⟨below, ?_, free⟩
    intro there
    obtain ⟨shared, found, isRunner⟩ := map_eq_some_iff.mp there
    exact out (map_eq_some_iff.mpr ⟨shared, kept _ _ found, isRunner⟩)

variable {state : TrafficState Session Key}

omit [DecidableEq Key] in
theorem consistent_attachSharedServer (consistent : Consistent state)
    (phase : state.phase = .starting) (fresh : state.serverReleased = false) (key : Key)
    (shared : SharedServer) (mirrorRaises : Bool) :
    Consistent (attachSharedServer key shared mirrorRaises state) := by
  obtain ⟨_, _, _, counted⟩ := consistent.early (.inl phase)
  have releases : state.releases = [] := by
    have few := consistent.releasedOnce
    rw [counted] at few
    exact List.length_eq_zero_iff.mp (Nat.le_zero.mp few)
  cases mirrorRaises <;> constructor <;> simp_all [attachSharedServer]

variable {before after : System Session Key} {object runner : Nat} {entry : Option SharedServer}

variable (leased : system.Leased)
include leased

theorem Leased.attach {mirrorRaises : Bool}
    (below : object < system.nextTraffic) (phase : (system.traffic object).phase = .starting)
    (fresh : (system.traffic object).serverReleased = false)
    (stored : system.servers key = some shared) :
    ((system.setServer key (some { shared with refCount := shared.refCount + 1 })).setTraffic object
      (attachSharedServer key shared mirrorRaises (system.traffic object))).Leased := by
  obtain ⟨_, _, notHolding, _⟩ := (leased.consistent object).early (.inl phase)
  obtain ⟨runnerBelow, runnerKey, exactly, _⟩ := leased.registered key shared stored
  have isRegistered : system.Registered shared.runner := by
    rw [Registered, runnerKey, stored, map_some]
  have notGone : ¬system.Gone shared.runner := fun gone => (leased.gone _ gone).2.1 isRegistered
  have gains : Gains system ((system.setServer key (some { shared with
      refCount := shared.refCount + 1 })).setTraffic object
        (attachSharedServer key shared mirrorRaises (system.traffic object)))
      object shared.runner key (attachSharedServer key shared mirrorRaises (system.traffic object))
      { shared with refCount := shared.refCount + 1 } := {
    below, fresh, notHolding, notGone
    consistent := consistent_attachSharedServer (leased.consistent object) phase fresh key shared
      mirrorRaises
    fresh' := fresh
    phase := by simp [phase]
    phase' := by cases mirrorRaises <;> simp [attachSharedServer]
    isHolding := rfl
    serverRunner := rfl
    leaseKey := rfl
    traffic _ := update_apply _ _ _ _
    nextTraffic := rfl
    calls := rfl
    servers _ := update_apply _ _ _ _
    isServer := rfl
    counts := by rw [← exactly]
    replaced other there :=
      .inl (congrArg SharedServer.runner (some.inj (there.symm.trans stored)))
    isKey := runnerKey
    old _ _ := rfl
    nextRunner := le_rfl
    bound := runnerBelow
    newest _ small := .inl small
    notStopped stopped := notGone (.inl stopped) }
  exact leased.gain gains

omit [DecidableEq Key] in
/-- A session beyond its start is among those that entered. -/
theorem Leased.born (phase : (system.traffic object).phase ≠ .starting) :
    object < system.nextTraffic := by
  by_contra above
  exact phase (leased.unborn object (Nat.le_of_not_lt above)).1

/-- A new server is registered where no live one is. -/
theorem Leased.register (phase : (system.traffic object).phase = .creating key)
    (fresh : (system.traffic object).serverReleased = false)
    (dead : ∀ shared, system.servers key = some shared →
      (system.runners shared.runner).exited = true) : (system.register object key).Leased := by
  obtain ⟨_, _, notHolding, counted⟩ :=
    (leased.consistent object).early (.inr (.inr ⟨key, phase⟩))
  have releases : (system.traffic object).releases = [] := by
    have few := (leased.consistent object).releasedOnce
    rw [counted] at few
    exact List.length_eq_zero_iff.mp (Nat.le_zero.mp few)
  have nobody : system.holders system.nextRunner = 0 := by
    by_contra some
    obtain ⟨other, _, held⟩ := Nat.count_ne_iff_exists.mp some
    exact absurd (leased.given other _ held.2).1 (Nat.lt_irrefl _)
  have runners : ∀ other, (system.register object key).runners other =
      if other = system.nextRunner then { key, stopRequested := none, exited := false }
      else system.runners other := fun other => update_apply _ _ _ _
  have traffic : ∀ other, (system.register object key).traffic other =
      if other = object then (system.register object key).traffic object
      else system.traffic other := by
    intro other
    split
    · rename_i same
      rw [same]
    · rename_i differs
      exact update_of_ne differs _ _
  have state : (system.register object key).traffic object = { system.traffic object with
        phase := .waiting key system.nextRunner, serverRunner := some system.nextRunner,
        leaseKey := some key, serverStatus := .starting, serverOwnership := .managed,
        counted := (system.traffic object).counted + 1, holding := true } :=
    update_self _ _ _
  have gains : Gains system (system.register object key) object system.nextRunner key
      ((system.register object key).traffic object)
      { runner := system.nextRunner, refCount := 1 } := {
    below := leased.born (by simp [phase])
    consistent := by
      rw [state]
      constructor <;> simp_all
    fresh, notHolding, traffic
    fresh' := by rw [state, fresh]
    phase := by simp [phase]
    phase' := by simp [state]
    isHolding := by rw [state]
    serverRunner := by rw [state]
    leaseKey := by rw [state]
    nextTraffic := rfl
    calls := rfl
    servers _ := update_apply _ _ _ _
    isServer := rfl
    counts := by rw [nobody]
    replaced shared there := .inr (dead shared there)
    isKey := by rw [runners, if_pos rfl]
    old other differs := by
      rcases differs with differs | small
      · rw [runners, if_neg differs]
      · rw [runners, if_neg (Nat.ne_of_lt small)]
    nextRunner := Nat.le_succ _
    bound := Nat.lt_succ_self _
    newest _ := Nat.lt_succ_iff_lt_or_eq.mp
    notGone gone := absurd (leased.gone _ gone).1 (Nat.lt_irrefl _)
    notStopped := by
      rw [Stopped, runners, if_pos rfl]
      simp }
  exact leased.gain gains

/-! ## Giving a lease back -/

/-- A start gives up its server, which nobody else holds. -/
theorem Leased.giveUp (phase : (system.traffic object).phase = .waiting key runner)
    (own : ∀ shared, system.servers key = some shared → shared.runner = runner)
    (alone : ∀ other, other ≠ object → ¬system.Holds other runner) :
    (system.giveUp object key runner).Leased := by
  obtain ⟨given, leaseKey, _⟩ := (leased.consistent object).waiting key runner phase
  obtain ⟨bound, isKey⟩ := leased.given object runner given
  rw [leaseKey, some.injEq] at isKey
  have servers : ∀ other, (system.giveUp object key runner).servers other =
      if other = key then none else system.servers other :=
    fun other => update_apply _ _ _ _
  obtain ⟨state, isState⟩ : ∃ state, state =
    { system.traffic object with phase := .failing key runner, holding := false } := ⟨_, rfl⟩
  have traffic : ∀ other, (system.giveUp object key runner).traffic other =
      if other = object then state else system.traffic other := by
    intro other
    rw [isState]
    exact update_apply _ _ _ _
  have notHolding : state.holding = false := by rw [isState]
  have phaseNow : state.phase = .failing key runner := by rw [isState]
  have sameRunner : state.serverRunner = (system.traffic object).serverRunner := by rw [isState]
  have consistent : Consistent state := by
    obtain ⟨_, _, _, _, _, _, _, _, _, releasedOwn⟩ := leased.consistent object
    subst isState
    constructor <;> simp_all
    exact fun release mem => (releasedOwn release mem).2
  have failing : ∀ other key' runner',
      ((system.giveUp object key runner).traffic other).phase = .failing key' runner' ↔
        (system.traffic other).phase = .failing key' runner' ∨
          other = object ∧ key' = key ∧ runner' = runner := by
    intro other key' runner'
    rw [traffic]
    split
    · rename_i same
      rw [phaseNow, same, phase]
      simp [eq_comm]
    · rename_i differs
      simp [differs]
  have gone : ∀ other, (system.giveUp object key runner).Gone other ↔
      system.Gone other ∨ other = runner := by
    intro other
    have same : (system.giveUp object key runner).Stopped other ↔ system.Stopped other := Iff.rfl
    simp only [Gone, AboutToStop, failing]
    constructor
    · rintro (stopped | call | ⟨object', key', before | ⟨_, _, now⟩⟩)
      · exact .inl (.inl stopped)
      · exact .inl (.inr (.inl call))
      · exact .inl (.inr (.inr ⟨object', key', before⟩))
      · exact .inr now
    · rintro ((stopped | call | ⟨object', key', before⟩) | rfl)
      · exact .inl stopped
      · exact .inr (.inl call)
      · exact .inr (.inr ⟨object', key', .inl before⟩)
      · exact .inr (.inr ⟨object, key, .inr ⟨rfl, rfl, rfl⟩⟩)
  have startFailed : ∀ other, (system.giveUp object key runner).StartFailed other →
      system.StartFailed other ∨
        other = object ∧ ∀ other, state.serverRunner = some other → other = runner := by
    intro other lost
    by_cases same : other = object
    · refine .inr ⟨same, ?_⟩
      intro other' isRunner
      rw [sameRunner, given, some.injEq] at isRunner
      exact isRunner.symm
    · left
      unfold StartFailed at lost ⊢
      rw [traffic, if_neg same] at lost
      exact lost
  have startFailed' : ∀ other, system.StartFailed other →
      (system.giveUp object key runner).StartFailed other := by
    intro other lost
    unfold StartFailed at lost ⊢
    rw [traffic]
    split
    · exact .inr ⟨key, runner, phaseNow⟩
    · exact lost
  have loses : Loses system (system.giveUp object key runner) object key state none
      (· = runner) := {
    lease := leaseKey
    consistent, notHolding, traffic, servers, gone, startFailed, startFailed'
    serverRunner := sameRunner
    leaseKey := by rw [isState]
    serverReleased := by rw [isState]
    unborn above := by
      have starting := (leased.unborn object above).1
      rw [phase] at starting
      cases starting
    nextTraffic := rfl
    nextRunner := rfl
    runners := rfl
    kept shared stored := .inr (own shared stored)
    own _ isEntry := by cases isEntry
    goneOut other now := by
      subst now
      exact ⟨by rintro ⟨⟩, bound, isKey.symm, alone⟩
    releasing thread other key' reason call := by
      refine ⟨call, fun _ => .inr ⟨key, runner, ?_⟩⟩
      rw [traffic, if_pos rfl, phaseNow]
    releases other _ release := release }
  exact leased.lose loses

variable {reason : StopReason} {thread object : Nat} {next : StopCall Key}

omit leased in
theorem changed
    (isAfter : ((system.setServer key entry).setTraffic object state).setCall thread next = after) :
    (∀ other, after.traffic other = if other = object then state else system.traffic other) ∧
      (∀ other, after.servers other = if other = key then entry else system.servers other) ∧
      (∀ other, after.calls other = if other = thread then next else system.calls other) ∧
      after.runners = system.runners ∧ after.nextTraffic = system.nextTraffic ∧
      after.nextRunner = system.nextRunner := by
  subst isAfter
  exact ⟨fun _ => update_apply _ _ _ _, fun _ => update_apply _ _ _ _,
    fun _ => update_apply _ _ _ _, rfl, rfl, rfl⟩

variable {releases : List Release}

omit leased in
omit [DecidableEq Key] in
theorem consistent_lose (consistent : Consistent state) (released : state.serverReleased = true)
    (leaseKey : state.leaseKey = some key) (few : releases.length ≤ state.counted)
    (own : ∀ release ∈ releases, release.own = true ∧ state.serverRunner = some release.runner)
    (ownership : Ownership) :
    Consistent { state with holding := false, releases, serverOwnership := ownership } := by
  have notFresh : state.serverReleased ≠ false := by
    rw [released]
    decide
  refine ⟨?_, ?_, ?_, fun _ => rfl, ?_, ?_, fun _ _ fresh => absurd fresh notFresh,
    consistent.countedOnce, few, own⟩
  · intro early
    have none' := (consistent.early early).2.1
    rw [leaseKey] at none'
    cases none'
  · intro key' runner phase
    obtain ⟨isRunner, isKey, _⟩ := consistent.waiting key' runner phase
    exact ⟨isRunner, isKey, fun fresh => absurd fresh notFresh⟩
  · intro key' runner phase
    exact ⟨(consistent.failing key' runner phase).1, rfl⟩
  · intro runner _ fresh
    exact absurd fresh notFresh
  · intro holding
    cases holding

/-- A release meets the server on which its lease was counted. -/
structure MeetsOwn (system : System Session Key) (object : Nat) (key : Key)
    (shared : SharedServer) : Prop where
  below : shared.runner < system.nextRunner
  isKey : (system.runners shared.runner).key = key
  counts : shared.refCount = system.holders shared.runner
  born : object < system.nextTraffic
  held : system.Holds object shared.runner
  consistent : ∀ ownership, Consistent
    { gaveBack shared (system.traffic object) with serverOwnership := ownership }

variable (call : system.calls thread = .releasing object key reason)
include call

omit [DecidableEq Key] in
theorem Leased.meetsOwn (stored : system.servers key = some shared)
    (isRunner : (system.traffic object).serverRunner = some shared.runner) :
    MeetsOwn system object key shared := by
  obtain ⟨released, leaseKey, stands⟩ := leased.releasing thread object key reason call
  have consistent := leased.consistent object
  obtain ⟨below, isKey, counts, _⟩ := leased.registered key shared stored
  have isRegistered : system.Registered shared.runner := by
    rw [Registered, isKey, stored, map_some]
  have holding : (system.traffic object).holding = true := by
    rcases stands with holding | failed
    · exact holding
    · exact absurd isRegistered (leased.gone _ (leased.failed object _ failed isRunner)).2.1
  obtain ⟨counted, noReleases, _⟩ := consistent.holding holding
  have releases : (gaveBack shared (system.traffic object)).releases =
      [{ runner := shared.runner, own := true }] := by
    simp [gaveBack, noReleases, holding, isRunner]
  refine ⟨below, isKey, counts, ?_, ⟨holding, isRunner⟩, ?_⟩
  · by_contra above
    have free := (leased.unborn object (Nat.le_of_not_lt above)).2.1
    rw [holding] at free
    cases free
  · intro ownership
    apply consistent_lose consistent released leaseKey
    · rw [releases, counted]
      exact Nat.le_refl 1
    · rw [releases]
      intro release mem
      rw [List.mem_singleton.mp mem]
      exact ⟨rfl, isRunner⟩

/-- A release comes to its end. -/
theorem Leased.giveBack {ownership : Ownership}
    (consistent : Consistent { system.traffic object with
      holding := false, releases, serverOwnership := ownership })
    (kept : ∀ shared, system.servers key = some shared →
      entry.map SharedServer.runner = some shared.runner ∨ next = .stopping shared.runner reason)
    (own : ∀ server, entry = some server → ∃ shared, system.servers key = some shared ∧
      server = { shared with refCount := shared.refCount - 1 } ∧ shared.refCount - 1 ≠ 0 ∧
        MeetsOwn system object key shared)
    (notReleasing : ∀ object key reason, next ≠ .releasing object key reason)
    (out : ∀ runner reason, next = .stopping runner reason →
      entry.map SharedServer.runner ≠ some runner ∧ runner < system.nextRunner ∧
        (system.runners runner).key = key ∧ ∀ other, other ≠ object → ¬system.Holds other runner) :
    (((system.setServer key entry).setTraffic object { system.traffic object with
      holding := false, releases, serverOwnership := ownership }).setCall thread next).Leased := by
  obtain ⟨_, leaseKey, _⟩ := leased.releasing thread object key reason call
  obtain ⟨state, isState⟩ : ∃ state, state = { system.traffic object with
    holding := false, releases, serverOwnership := ownership } := ⟨_, rfl⟩
  have notHolding : state.holding = false := by rw [isState]
  have phase : state.phase = (system.traffic object).phase := by rw [isState]
  rw [← isState] at consistent ⊢
  generalize isAfter : ((system.setServer key entry).setTraffic object state).setCall thread next =
    after
  obtain ⟨traffic, servers, calls, runners, nextTraffic, nextRunner⟩ := changed isAfter
  have phases : ∀ other, (after.traffic other).phase = (system.traffic other).phase := by
    intro other
    rw [traffic]
    split
    · rename_i same
      rw [phase, same]
    · rfl
  have startFailed : ∀ other, after.StartFailed other ↔ system.StartFailed other := by
    intro other
    rw [StartFailed, StartFailed, phases]
  have gone : ∀ runner, after.Gone runner ↔
      system.Gone runner ∨ ∃ reason, next = .stopping runner reason := by
    intro runner
    have stopped : after.Stopped runner ↔ system.Stopped runner := by
      rw [Stopped, Stopped, runners]
    have stopping : (∃ other reason, after.calls other = .stopping runner reason) ↔
        (∃ other reason, system.calls other = .stopping runner reason) ∨
          ∃ reason, next = .stopping runner reason := by
      constructor
      · rintro ⟨other, reason', there⟩
        rw [calls] at there
        split at there
        · exact .inr ⟨reason', there⟩
        · exact .inl ⟨other, reason', there⟩
      · rintro (⟨other, reason', there⟩ | ⟨reason', there⟩)
        · refine ⟨other, reason', ?_⟩
          rw [calls, if_neg]
          · exact there
          · rintro rfl
            rw [call] at there
            cases there
        · exact ⟨thread, reason', by rw [calls, if_pos rfl, there]⟩
    simp only [Gone, AboutToStop, stopped, phases, stopping]
    constructor
    · rintro (is | (is | now) | failing)
      · exact .inl (.inl is)
      · exact .inl (.inr (.inl is))
      · exact .inr now
      · exact .inl (.inr (.inr failing))
    · rintro ((is | is | failing) | now)
      · exact .inl is
      · exact .inr (.inl (.inl is))
      · exact .inr (.inr failing)
      · exact .inr (.inl (.inr now))
  have loses : Loses system after object key state entry
      (fun runner => ∃ reason, next = .stopping runner reason) := {
    lease := leaseKey
    consistent, notHolding, traffic, nextTraffic, nextRunner, runners, servers, gone
    serverRunner := by rw [isState]
    leaseKey := by rw [isState]
    serverReleased := by rw [isState]
    unborn above := by
      rw [phase]
      exact (leased.unborn object above).1
    kept shared stored := (kept shared stored).imp_right fun now => ⟨reason, now⟩
    own server isEntry := by
      obtain ⟨shared, stored, rfl, _, meets⟩ := own server isEntry
      have fewer := (holders_of_lost notHolding traffic nextTraffic).2 meets.held meets.born
      have counts := meets.counts
      exact ⟨shared, stored, rfl, by simp only; omega, by simp only; omega⟩
    goneOut runner now := by
      obtain ⟨reason', isNext⟩ := now
      exact out runner reason' isNext
    startFailed other lost := .inl ((startFailed other).mp lost)
    startFailed' other lost := (startFailed other).mpr lost
    releasing other object' key' reason' there := by
      rw [calls] at there
      split at there
      · exact absurd there (notReleasing _ _ _)
      · rename_i differs
        refine ⟨there, ?_⟩
        rintro rfl
        exact absurd (leased.oneRelease _ _ _ _ _ _ _ there call) differs
    releases other differs release := by
      obtain ⟨other', key', reason', there⟩ := release
      refine ⟨other', key', reason', ?_⟩
      rw [calls, if_neg]
      · exact there
      · rintro rfl
        rw [call] at there
        cases there
        exact differs rfl }
  exact leased.lose loses

omit call in
omit leased in
omit [DecidableEq Key] in
/-- Nobody else holds a server that is counted once. -/
theorem MeetsOwn.alone (meets : MeetsOwn system object key shared) (leased : system.Leased)
    (last : shared.refCount - 1 = 0) :
    ∀ other, other ≠ object → ¬system.Holds other shared.runner := by
  intro other differs held
  generalize isAfter : system.setTraffic object { system.traffic object with holding := false } =
    after
  have traffic : ∀ other, after.traffic other =
      if other = object then { system.traffic object with holding := false }
      else system.traffic other := by
    intro other
    rw [← isAfter]
    exact update_apply _ _ _ _
  have nextTraffic : after.nextTraffic = system.nextTraffic := by
    rw [← isAfter]
    rfl
  have fewer := (holders_of_lost rfl traffic nextTraffic).2 meets.held meets.born
  have counts := meets.counts
  have born : other < system.nextTraffic := by
    by_contra above
    have free := (leased.unborn other (Nat.le_of_not_lt above)).2.1
    rw [held.1] at free
    cases free
  have still : after.holders shared.runner ≠ 0 := by
    rw [System.holders, nextTraffic]
    refine Nat.count_ne_iff_exists.mpr ⟨other, born, ?_⟩
    rw [Holds, traffic, if_neg differs]
    exact held
  omega

theorem Leased.releaseServer (own : ∀ shared, system.servers key = some shared →
      (system.traffic object).serverRunner = some shared.runner) :
    (system.releaseServer thread object key reason).Leased := by
  unfold System.releaseServer
  cases stored : system.servers key with
  | none =>
    obtain ⟨released, leaseKey, _⟩ := leased.releasing thread object key reason call
    have consistent := leased.consistent object
    have absent : system.setServer key none = system := by
      rw [setServer, ← stored, update_eq_self]
    suffices given : (((system.setServer key none).setTraffic object
        { system.traffic object with holding := false }).setCall thread .idle).Leased by
      rw [absent] at given
      exact given
    apply leased.giveBack call (consistent_lose consistent released leaseKey
      consistent.releasedOnce consistent.releasedOwn _)
    · intro shared there
      rw [stored] at there
      cases there
    · nofun
    · nofun
    · nofun
  | some shared =>
    simp only
    have meets := leased.meetsOwn call stored (own shared stored)
    have isShared : ∀ other, system.servers key = some other → other = shared :=
      fun other there => some.inj (there.symm.trans stored)
    by_cases last : shared.refCount - 1 = 0
    · rw [if_pos last]
      apply leased.giveBack call (meets.consistent _)
      · intro other there
        rw [isShared other there]
        exact .inr rfl
      · nofun
      · nofun
      · intro runner reason' same
        cases same
        exact ⟨nofun, meets.below, meets.isKey, meets.alone leased last⟩
    · rw [if_neg last]
      apply leased.giveBack call (meets.consistent _)
      · intro other there
        rw [isShared other there]
        exact .inl rfl
      · intro server isEntry
        exact ⟨shared, stored, (some.inj isEntry).symm, last, meets⟩
      · nofun
      · nofun

omit call

/-! ## Stops, and a new session -/

omit leased in
omit [DecidableEq Key] in
/-- A stop is seen by the session for the first time. -/
theorem consistent_release (consistent : Consistent state) :
    Consistent { state with stopRequested := true, serverReleased := true } := by
  refine ⟨consistent.early, ?_, consistent.failing, consistent.startFailed, ?_,
    consistent.holding, ?_,
    consistent.countedOnce, consistent.releasedOnce, consistent.releasedOwn⟩
  · intro key runner phase
    obtain ⟨isRunner, isKey, _⟩ := consistent.waiting key runner phase
    exact ⟨isRunner, isKey, fun fresh => by cases fresh⟩
  · intro runner _ fresh
    cases fresh
  · intro key _ fresh
    cases fresh

omit [DecidableEq Key] in
theorem Leased.beginRelease (call : system.calls thread = .fetched object reason)
    (fresh : (system.traffic object).serverReleased = false)
    (notStopping : ∀ runner reason, next ≠ .stopping runner reason)
    (isRelease : ∀ other key reason, next = .releasing other key reason →
      other = object ∧ (system.traffic object).leaseKey = some key)
    (releases : ∀ key, (system.traffic object).leaseKey = some key →
      ∃ reason, next = .releasing object key reason) :
    ((system.setTraffic object { system.traffic object with
      stopRequested := true, serverReleased := true }).setCall thread next).Leased := by
  obtain ⟨state, isState⟩ : ∃ state, state = { system.traffic object with
    stopRequested := true, serverReleased := true } := ⟨_, rfl⟩
  have consistent : Consistent state := isState ▸ consistent_release (leased.consistent object)
  rw [← isState]
  have serverReleased : state.serverReleased = true := by rw [isState]
  generalize isAfter : (system.setTraffic object state).setCall thread next = after
  have traffic : ∀ other, after.traffic other =
      if other = object then state else system.traffic other := by
    intro other
    rw [← isAfter]
    exact update_apply _ _ _ _
  have calls : ∀ other, after.calls other = if other = thread then next
      else system.calls other := by
    intro other
    rw [← isAfter]
    exact update_apply _ _ _ _
  have servers : after.servers = system.servers := by
    rw [← isAfter]
    rfl
  have runners : after.runners = system.runners := by
    rw [← isAfter]
    rfl
  have nextTraffic : after.nextTraffic = system.nextTraffic := by
    rw [← isAfter]
    rfl
  have nextRunner : after.nextRunner = system.nextRunner := by
    rw [← isAfter]
    rfl
  have phases : ∀ other, (after.traffic other).phase = (system.traffic other).phase := by
    grind
  have stopping : ∀ other runner reason, after.calls other = .stopping runner reason ↔
      system.calls other = .stopping runner reason := by
    intro other runner reason'
    rw [calls]
    split
    · rename_i same
      rw [same, call]
      simp [notStopping]
    · rfl
  have notReleasing : ∀ other key reason, system.calls other ≠ .releasing object key reason := by
    intro other key reason' there
    have before := (leased.releasing other object key reason' there).1
    rw [fresh] at before
    cases before
  refine leased.sameServers ?_ (by grind) (by grind) (by grind) ?_ nextTraffic.ge servers nextRunner
    (fun _ => by rw [runners]) (fun _ exited => runners ▸ exited) ?_ ?_ ?_ ?_ ?_
  · intro other
    rw [traffic]
    split
    · exact consistent
    · exact leased.consistent other
  · intro other above
    rw [phases]
    exact (leased.unborn other (nextTraffic ▸ above)).1
  · intro runner
    simp only [Gone, Stopped, AboutToStop, runners, stopping, phases]
  · intro other
    rw [StartFailed, StartFailed, phases]
  · intro other stands released
    by_cases same : other = object
    · subst same
      obtain ⟨_, _, runner, isRunner⟩ := (leased.consistent other).holding stands
      obtain ⟨reason', isNext⟩ := releases _ (leased.given other runner isRunner).2
      exact ⟨thread, _, reason', by rw [calls, if_pos rfl, isNext]⟩
    · rw [traffic, if_neg same] at released
      obtain ⟨other', key, reason', there⟩ := leased.stands other stands released
      refine ⟨other', key, reason', ?_⟩
      rw [calls, if_neg]
      · exact there
      · rintro rfl
        rw [call] at there
        cases there
  · intro other object' key reason' there
    rw [calls] at there
    split at there
    · obtain ⟨rfl, isKey⟩ := isRelease object' key reason' there
      rw [traffic, if_pos rfl]
      exact ⟨serverReleased, isKey, (leased.consistent object').leased key isKey fresh⟩
    · obtain ⟨released, rest⟩ := leased.releasing other object' key reason' there
      refine ⟨?_, rest⟩
      rw [traffic]
      split
      · exact serverReleased
      · exact released
  · intro one two object' key key' reason₁ reason₂ first second
    rw [calls] at first second
    split at first <;> split at second
    · rename_i isOne isTwo
      exact isOne.trans isTwo.symm
    · obtain ⟨rfl, _⟩ := isRelease _ _ _ first
      exact absurd second (notReleasing _ _ _)
    · obtain ⟨rfl, _⟩ := isRelease _ _ _ second
      exact absurd first (notReleasing _ _ _)
    · exact leased.oneRelease _ _ _ _ _ _ _ first second

omit [DecidableEq Key] in
theorem Leased.checkReleased (call : system.calls thread = .fetched object reason) :
    (system.checkReleased thread object reason).Leased := by
  unfold System.checkReleased
  by_cases released : (system.traffic object).serverReleased = true
  · rw [if_pos released]
    apply Leased.setCall
    · apply leased.setTraffic
      · obtain ⟨early, waiting, failing, startFailed, available, holding, isLeased, countedOnce,
          releasedOnce, releasedOwn⟩ := leased.consistent object
        exact ⟨early, waiting, failing, startFailed, available, holding, isLeased, countedOnce,
          releasedOnce, releasedOwn⟩
      · exact ⟨rfl, rfl, rfl, rfl⟩
      · exact fun above => (leased.unborn object above).1
      · exact fun _ _ => Iff.rfl
      · exact Iff.rfl
    · intro object' key reason' there
      have there : system.calls thread = .releasing object' key reason' := there
      rw [call] at there
      cases there
    · intro runner reason' there
      have there : system.calls thread = .stopping runner reason' := there
      rw [call] at there
      cases there
    · intro object' key reason' same
      cases same
    · intro runner reason' same
      cases same
  · rw [if_neg released]
    have fresh : (system.traffic object).serverReleased = false := by simpa using released
    apply leased.beginRelease call fresh
    · intro runner reason' same
      split at same <;> cases same
    · intro object' key reason' same
      split at same
      · cases same
      · rename_i lease
        cases same
        exact ⟨rfl, lease⟩
    · intro key isKey
      exact ⟨reason, by simp only [isKey]⟩

omit leased in
omit [DecidableEq Key] in
/-- A server is asked to stop that was on the way to be stopped. -/
theorem Leased.stopGone (leased : before.Leased) (isGone : before.Gone runner)
    (consistent : ∀ object, Consistent (after.traffic object))
    (lease : ∀ object, SameLease (before.traffic object) (after.traffic object))
    (unborn : ∀ object, before.nextTraffic ≤ object → (after.traffic object).phase = .starting)
    (nextTraffic : after.nextTraffic = before.nextTraffic)
    (servers : after.servers = before.servers) (nextRunner : after.nextRunner = before.nextRunner)
    (runners : ∀ other, after.runners other =
      if other = runner then { before.runners runner with stopRequested := some reason }
      else before.runners other)
    (about : ∀ other, after.AboutToStop other → before.AboutToStop other)
    (about' : ∀ other, before.AboutToStop other → after.AboutToStop other ∨ other = runner)
    (startFailed : ∀ object, after.StartFailed object ↔ before.StartFailed object)
    (releasing : ∀ thread object key reason, after.calls thread = .releasing object key reason ↔
      before.calls thread = .releasing object key reason) : after.Leased := by
  refine leased.congr consistent lease unborn nextTraffic servers nextRunner ?_ ?_ ?_ startFailed
    releasing
  · intro other
    rw [runners]
    split
    · rename_i same
      rw [same]
    · rfl
  · intro other exited
    rw [runners]
    split
    · rename_i same
      rw [← same]
      exact exited
    · exact exited
  · intro other
    by_cases same : other = runner
    · subst same
      refine iff_of_true (.inl ?_) isGone
      rw [Stopped, runners, if_pos rfl]
      exact fun none' => by cases none'
    · have stopped : after.Stopped other ↔ before.Stopped other := by
        rw [Stopped, Stopped, runners, if_neg same]
      constructor
      · rintro (is | is)
        · exact .inl (stopped.mp is)
        · exact .inr (about other is)
      · rintro (is | is)
        · exact .inl (stopped.mpr is)
        · exact .inr ((about' other is).resolve_right same)

omit [DecidableEq Key] in
theorem Leased.stopFailed (phase : (system.traffic object).phase = .failing key runner) :
    (system.stopFailed object runner).Leased := by
  obtain ⟨state, isState⟩ : ∃ state, state = { system.traffic object with
    phase := .startFailed, serverStatus := .failed, serverOwnership := .portConflict
    errorCode := .serverStartFailed } := ⟨_, rfl⟩
  have traffic : ∀ other, (system.stopFailed object runner).traffic other =
      if other = object then state else system.traffic other := by
    intro other
    rw [isState]
    exact update_apply _ _ _ _
  have phaseNow : state.phase = .startFailed := by rw [isState]
  have failing : ∀ other key' runner',
      ((system.stopFailed object runner).traffic other).phase = .failing key' runner' ↔
        (system.traffic other).phase = .failing key' runner' ∧ other ≠ object := by
    intro other key' runner'
    rw [traffic]
    split
    · rename_i same
      rw [phaseNow]
      simp [same]
    · rename_i differs
      simp [differs]
  have isFailed : system.StartFailed object := .inr ⟨key, runner, phase⟩
  have runners : ∀ other, (system.stopFailed object runner).runners other =
      if other = runner then { system.runners runner with stopRequested := some .startFailed }
      else system.runners other := fun other => update_apply _ _ _ _
  refine leased.stopGone (leased.failed object runner isFailed
    ((leased.consistent object).failing key runner phase).1) ?_ ?_ ?_ rfl rfl rfl runners
    ?_ ?_ ?_ (fun _ _ _ _ => Iff.rfl)
  · intro other
    rw [traffic]
    split
    · obtain ⟨_, _, _, _, _, _, _, _, _, releasedOwn⟩ :=
        leased.consistent object
      subst isState
      constructor <;> simp_all
      exact fun release mem => (releasedOwn release mem).2
    · exact leased.consistent other
  · intro other
    rw [traffic]
    split
    · rename_i same
      rw [same, isState]
      exact ⟨rfl, rfl, rfl, rfl⟩
    · exact SameLease.refl _
  · intro other above
    have starting := (leased.unborn other above).1
    rw [traffic, if_neg]
    · exact starting
    · rintro rfl
      rw [phase] at starting
      cases starting
  · rintro other (call | ⟨object', key', there⟩)
    · exact .inl call
    · exact .inr ⟨object', key', ((failing _ _ _).mp there).1⟩
  · rintro other (call | ⟨object', key', there⟩)
    · exact .inl (.inl call)
    · by_cases same : object' = object
      · right
        rw [same, phase] at there
        cases there
        rfl
      · exact .inl (.inr ⟨object', key', (failing _ _ _).mpr ⟨there, same⟩⟩)
  · intro other
    by_cases same : other = object
    · subst same
      refine iff_of_true (.inl ?_) isFailed
      rw [traffic, if_pos rfl, phaseNow]
    · rw [StartFailed, StartFailed, traffic, if_neg same]

omit [DecidableEq Key] in
theorem Leased.endStop {thread : Nat} (call : system.calls thread = .stopping runner reason) :
    ((system.stopRunner runner reason).setCall thread .idle).Leased := by
  have calls : ∀ other, ((system.stopRunner runner reason).setCall thread .idle).calls other =
      if other = thread then .idle else system.calls other :=
    fun other => update_apply _ _ _ _
  have runners : ∀ other, ((system.stopRunner runner reason).setCall thread .idle).runners other =
      if other = runner then { system.runners runner with stopRequested := some reason }
      else system.runners other := fun other => update_apply _ _ _ _
  refine leased.stopGone (.inr (.inl ⟨thread, reason, call⟩)) leased.consistent
    (fun object => SameLease.refl _)
      (fun object above => (leased.unborn object above).1) rfl rfl rfl
    runners ?_ ?_ (fun _ => Iff.rfl) ?_
  · rintro other (⟨thread', reason', there⟩ | failing)
    · rw [calls] at there
      split at there
      · cases there
      · exact .inl ⟨thread', reason', there⟩
    · exact .inr failing
  · rintro other (⟨thread', reason', there⟩ | failing)
    · by_cases same : thread' = thread
      · right
        rw [same, call] at there
        cases there
        rfl
      · exact .inl (.inl ⟨thread', reason', by rw [calls, if_neg same]; exact there⟩)
    · exact .inl (.inr failing)
  · intro other object key reason'
    rw [calls]
    split
    · rename_i same
      rw [same, call]
      simp
    · rfl

omit [DecidableEq Key] in
/-- The process of a server ends. -/
theorem Leased.exit (runner : Nat) : ({ system with
      runners := Function.update system.runners runner
        { system.runners runner with exited := true } } : System Session Key).Leased := by
  have runners : ∀ other, Function.update system.runners runner
      { system.runners runner with exited := true } other =
      if other = runner then { system.runners runner with exited := true }
      else system.runners other := fun other => update_apply _ _ _ _
  refine leased.congr leased.consistent (fun object => SameLease.refl _)
    (fun object above => (leased.unborn object above).1) rfl rfl rfl ?_ ?_ ?_ (fun _ => Iff.rfl)
    (fun _ _ _ _ => Iff.rfl)
  · intro other
    simp only [runners]
    split
    · rename_i same
      rw [same]
    · rfl
  · intro other exited
    simp only [runners]
    split
    · rfl
    · exact exited
  · intro other
    simp only [Gone, Stopped, AboutToStop, runners]
    split
    · rename_i same
      rw [same]
    · rfl

omit leased in
omit [DecidableEq Key] in
theorem consistent_new (session : Session) :
    Consistent (TrafficState.new session : TrafficState Session Key) := by
  constructor <;> simp [TrafficState.new]

omit [DecidableEq Key] in
theorem Leased.enter [DecidableEq Session] (session : Session) :
    (system.startForSession session).Leased := by
  unfold System.startForSession
  cases there : system.states session with
  | some object => exact leased
  | none =>
    simp only
    generalize isAfter : ({ system with
      states := Function.update system.states session (some system.nextTraffic)
      traffic := Function.update system.traffic system.nextTraffic (.new session)
      nextTraffic := system.nextTraffic + 1 } : System Session Key) = after
    obtain ⟨_, notHolding, _, noKey⟩ := leased.unborn _ (Nat.le_refl _)
    have traffic : ∀ other, after.traffic other =
        if other = system.nextTraffic then .new session else system.traffic other := by
      intro other
      rw [← isAfter]
      exact update_apply _ _ _ _
    have phases : ∀ other, (after.traffic other).phase = (system.traffic other).phase := by
      grind [TrafficState.new]
    have holdings : ∀ other, (after.traffic other).holding = (system.traffic other).holding := by
      grind [TrafficState.new]
    have runnerOf : ∀ other,
        (after.traffic other).serverRunner = (system.traffic other).serverRunner := by
      grind [TrafficState.new]
    have keys : ∀ other, (after.traffic other).leaseKey = (system.traffic other).leaseKey := by
      grind [TrafficState.new]
    have released : ∀ other, other ≠ system.nextTraffic →
        (after.traffic other).serverReleased = (system.traffic other).serverReleased := by
      grind
    have calls : after.calls = system.calls := by
      rw [← isAfter]
    have nextTraffic : after.nextTraffic = system.nextTraffic + 1 := by
      rw [← isAfter]
    have runners : after.runners = system.runners := by
      rw [← isAfter]
    refine leased.sameServers ?_ holdings runnerOf keys ?_ (nextTraffic ▸ Nat.le_succ _)
      (by rw [← isAfter]) (by rw [← isAfter]) (fun _ => by rw [runners])
      (fun _ exited => runners ▸ exited) ?_ ?_ ?_ ?_ ?_
    · intro other
      rw [traffic]
      split
      · exact consistent_new session
      · exact leased.consistent other
    · intro other above
      rw [phases]
      exact (leased.unborn other (by omega)).1
    · intro runner
      simp only [Gone, Stopped, AboutToStop, runners, calls, phases]
    · intro other
      rw [StartFailed, StartFailed, phases]
    · intro other stands isReleased
      have differs : other ≠ system.nextTraffic := by
        rintro rfl
        rw [notHolding] at stands
        cases stands
      rw [Releasing, calls]
      exact leased.stands other stands (released other differs ▸ isReleased)
    · intro thread other key reason call
      have before := leased.releasing thread other key reason (calls ▸ call)
      have differs : other ≠ system.nextTraffic := by
        rintro rfl
        rw [noKey] at before
        cases before.2.1
      rw [released other differs]
      exact before
    · rw [calls]
      exact leased.oneRelease

end System

end NetConsole.Traffic
