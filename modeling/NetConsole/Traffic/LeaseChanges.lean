import NetConsole.Traffic.ServerLeases

/-!
# How one lease changes

`Gains` says that a session takes a lease on a server, `Loses` that the lease of a session
is given back or given up. For each there is one lemma for every part of the invariant, and
`Leased.gain` and `Leased.lose` put them together.
-/

set_option autoImplicit false

namespace NetConsole.Traffic

open Foundations Option Function

variable {Session Key : Type}

namespace System

variable [DecidableEq Key] {key : Key} {state : TrafficState Session Key}

/-! ## Taking a lease -/

variable {before after : System Session Key} {object runner : Nat}

/-- A session takes a lease on the server of a key, which is new or stands there. -/
structure Gains (before after : System Session Key) (object runner : Nat) (key : Key)
    (state : TrafficState Session Key) (server : SharedServer) : Prop where
  below : object < before.nextTraffic
  consistent : Consistent state
  fresh : (before.traffic object).serverReleased = false
  fresh' : state.serverReleased = false
  notHolding : (before.traffic object).holding = false
  phase : (before.traffic object).phase ≠ .startFailed ∧
    ∀ key runner, (before.traffic object).phase ≠ .failing key runner
  phase' : state.phase ≠ .startFailed ∧ ∀ key runner, state.phase ≠ .failing key runner
  isHolding : state.holding = true
  serverRunner : state.serverRunner = some runner
  leaseKey : state.leaseKey = some key
  traffic : ∀ other, after.traffic other = if other = object then state else before.traffic other
  nextTraffic : after.nextTraffic = before.nextTraffic
  calls : after.calls = before.calls
  servers : ∀ other, after.servers other =
    if other = key then some server else before.servers other
  isServer : server.runner = runner
  counts : server.refCount = before.holders runner + 1
  replaced : ∀ shared, before.servers key = some shared →
    shared.runner = runner ∨ (before.runners shared.runner).exited = true
  isKey : (after.runners runner).key = key
  old : ∀ other, other ≠ runner ∨ other < before.nextRunner →
    after.runners other = before.runners other
  nextRunner : before.nextRunner ≤ after.nextRunner
  bound : runner < after.nextRunner
  newest : ∀ other < after.nextRunner, other < before.nextRunner ∨ other = runner
  notGone : ¬before.Gone runner
  notStopped : ¬after.Stopped runner

section Gains

variable {server : SharedServer} (gains : Gains before after object runner key state server)
include gains

theorem Gains.holds (other runner' : Nat) : after.Holds other runner' ↔
    before.Holds other runner' ∨ other = object ∧ runner' = runner := by
  unfold Holds
  rw [gains.traffic]
  split
  · rename_i same
    subst same
    simp [gains.notHolding, gains.isHolding, gains.serverRunner, eq_comm]
  · rename_i differs
    simp [differs]

theorem Gains.holders_self : after.holders runner = before.holders runner + 1 := by
  unfold System.holders
  rw [gains.nextTraffic]
  apply count_of_gained gains.below
  · intro held
    rw [Holds, gains.notHolding] at held
    cases held.1
  · exact (gains.holds _ _).mpr (.inr ⟨rfl, rfl⟩)
  · intro other differs
    simp [gains.holds, differs]

theorem Gains.holders_of_ne {other : Nat} (differs : other ≠ runner) :
    after.holders other = before.holders other := by
  unfold System.holders
  rw [gains.nextTraffic]
  apply count_congr
  intro session _
  simp [gains.holds, differs]

theorem Gains.registered_self : after.Registered runner := by
  rw [Registered, gains.isKey, gains.servers, if_pos rfl, map_some, gains.isServer]

theorem Gains.registered {other : Nat} (small : other < before.nextRunner)
    (there : before.Registered other) :
    after.Registered other ∨ (before.runners other).exited = true := by
  unfold Registered at there
  by_cases same : (before.runners other).key = key
  · rw [same] at there
    obtain ⟨shared, found, rfl⟩ := map_eq_some_iff.mp there
    rcases gains.replaced shared found with isRunner | exited
    · exact .inl (isRunner ▸ gains.registered_self)
    · exact .inr exited
  · left
    rw [Registered, gains.old other (.inr small), gains.servers, if_neg same]
    exact there

theorem Gains.registered_before {other : Nat} (small : other < before.nextRunner)
    (there : after.Registered other) (differs : other ≠ runner) : before.Registered other := by
  rw [Registered, gains.old other (.inr small), gains.servers] at there
  split at there
  · rw [map_some, some.injEq, gains.isServer] at there
    exact absurd there.symm differs
  · exact there

theorem Gains.failing (other : Nat) (key' : Key) (runner' : Nat) :
    (after.traffic other).phase = .failing key' runner' ↔
      (before.traffic other).phase = .failing key' runner' := by
  rw [gains.traffic]
  split
  · rename_i same
    rw [same]
    exact iff_of_false (gains.phase'.2 key' runner') (gains.phase.2 key' runner')
  · rfl

theorem Gains.startFailed (other : Nat) : after.StartFailed other ↔ before.StartFailed other := by
  simp only [StartFailed, gains.failing]
  rw [gains.traffic]
  split
  · rename_i same
    rw [same, iff_false_intro gains.phase.1, iff_false_intro gains.phase'.1]
  · rfl

theorem Gains.gone (other : Nat) : after.Gone other ↔ before.Gone other := by
  have about : after.AboutToStop other ↔ before.AboutToStop other := by
    simp only [AboutToStop, gains.calls, gains.failing]
  by_cases same : other = runner
  · subst same
    exact iff_of_false
      (not_or.mpr ⟨gains.notStopped, fun is => gains.notGone (.inr (about.mp is))⟩) gains.notGone
  · rw [Gone, Gone, about, Stopped, Stopped, gains.old other (.inl same)]

variable (leased : before.Leased)
include leased

theorem Gains.given {other runner' : Nat}
    (given : (after.traffic other).serverRunner = some runner') : runner' < after.nextRunner ∧
      (after.traffic other).leaseKey = some (after.runners runner').key := by
  rw [gains.traffic] at given ⊢
  split at given
  · rename_i same
    rw [gains.serverRunner, some.injEq] at given
    subst given
    rw [if_pos same]
    exact ⟨gains.bound, gains.leaseKey.trans (congrArg some gains.isKey.symm)⟩
  · rename_i differs
    obtain ⟨small, lease⟩ := leased.given other runner' given
    rw [if_neg differs, gains.old runner' (.inr small)]
    exact ⟨small.trans_le gains.nextRunner, lease⟩

theorem Gains.held {other runner' : Nat} (held : after.Holds other runner') :
    after.Registered runner' ∨ (after.runners runner').exited = true := by
  rcases (gains.holds other runner').mp held with earlier | ⟨_, rfl⟩
  · have small := (leased.given other runner' earlier.2).1
    rw [gains.old runner' (.inr small)]
    rcases leased.held other runner' earlier with there | exited
    · exact gains.registered small there
    · exact .inr exited
  · exact .inl gains.registered_self

theorem Gains.stands {other : Nat} (stands : (after.traffic other).holding = true)
    (released : (after.traffic other).serverReleased = true) : after.Releasing other := by
  rw [Releasing, gains.calls]
  rw [gains.traffic] at stands released
  split at released
  · rw [gains.fresh'] at released
    cases released
  · rename_i differs
    rw [if_neg differs] at stands
    exact leased.stands other stands released

theorem Gains.isRegistered {other : Key} {shared : SharedServer}
    (there : after.servers other = some shared) : shared.runner < after.nextRunner ∧
      (after.runners shared.runner).key = other ∧
        shared.refCount = after.holders shared.runner ∧ 0 < shared.refCount := by
  rw [gains.servers] at there
  split at there
  · rename_i same
    cases there
    rw [gains.isServer, gains.holders_self, gains.counts]
    exact ⟨gains.bound, gains.isKey.trans same.symm, rfl, Nat.succ_pos _⟩
  · rename_i differs
    obtain ⟨small, sharedKey, exactly, some⟩ := leased.registered other shared there
    have elsewhere : shared.runner ≠ runner := by
      intro same
      have isKey := gains.isKey
      rw [← same, gains.old _ (.inr small), sharedKey] at isKey
      exact differs isKey
    rw [gains.old _ (.inl elsewhere), gains.holders_of_ne elsewhere]
    exact ⟨small.trans_le gains.nextRunner, sharedKey, exactly, some⟩

theorem Gains.unregistered {other : Nat} (within : other < after.nextRunner) :
    after.Registered other ∨ after.Gone other ∨ (after.runners other).exited = true := by
  rcases gains.newest other within with small | rfl
  · rw [gains.old other (.inr small), gains.gone]
    rcases leased.unregistered other small with there | rest
    · exact (gains.registered small there).imp_right .inr
    · exact .inr rest
  · exact .inl gains.registered_self

theorem Gains.isGone {other : Nat} (isGone : after.Gone other) : other < after.nextRunner ∧
    ¬after.Registered other ∧ ∀ object, ¬after.Holds object other := by
  have isGone := (gains.gone other).mp isGone
  obtain ⟨small, out, free⟩ := leased.gone other isGone
  have differs : other ≠ runner := fun same => gains.notGone (same ▸ isGone)
  refine ⟨small.trans_le gains.nextRunner,
    fun there => out (gains.registered_before small there differs), ?_⟩
  intro session held
  rcases (gains.holds session other).mp held with earlier | ⟨_, same⟩
  · exact free session earlier
  · exact differs same

theorem Gains.releasing {thread other : Nat} {key' : Key} {reason : StopReason}
    (call : after.calls thread = .releasing other key' reason) :
    (after.traffic other).serverReleased = true ∧ (after.traffic other).leaseKey = some key' ∧
      ((after.traffic other).holding = true ∨ after.StartFailed other) := by
  have earlier := leased.releasing thread other key' reason (gains.calls ▸ call)
  have elsewhere : other ≠ object := by
    rintro rfl
    rw [gains.fresh] at earlier
    cases earlier.1
  rw [gains.traffic, if_neg elsewhere, gains.startFailed]
  exact earlier

theorem Gains.failed {other runner' : Nat} (lost : after.StartFailed other)
    (given : (after.traffic other).serverRunner = some runner') : after.Gone runner' := by
  rw [gains.startFailed] at lost
  have elsewhere : other ≠ object := by
    rintro rfl
    rcases lost with failed | ⟨key', runner'', failed⟩
    · exact gains.phase.1 failed
    · exact gains.phase.2 key' runner'' failed
  rw [gains.traffic, if_neg elsewhere] at given
  rw [gains.gone]
  exact leased.failed other runner' lost given

/-- The lease that is gained is counted. -/
theorem Leased.gain : after.Leased where
  consistent other := by
    rw [gains.traffic]
    split
    · exact gains.consistent
    · exact leased.consistent other
  unborn other above := by
    rw [gains.nextTraffic] at above
    rw [gains.traffic, if_neg (Nat.ne_of_gt (gains.below.trans_le above))]
    exact leased.unborn other above
  given _ _ := gains.given leased
  held _ _ := gains.held leased
  stands _ := gains.stands leased
  registered _ _ := gains.isRegistered leased
  unregistered _ := gains.unregistered leased
  gone _ := gains.isGone leased
  releasing _ _ _ _ := gains.releasing leased
  oneRelease := gains.calls ▸ leased.oneRelease
  failed _ _ := gains.failed leased

end Gains

/-! ## Losing a lease -/

omit [DecidableEq Key] in
/-- The lease that is lost is the only one that changes the count of a server. -/
theorem holders_of_lost (notHolding : state.holding = false)
    (traffic : ∀ other, after.traffic other =
      if other = object then state else before.traffic other)
    (nextTraffic : after.nextTraffic = before.nextTraffic) :
    (¬before.Holds object runner → after.holders runner = before.holders runner) ∧
      (before.Holds object runner → object < before.nextTraffic →
        after.holders runner + 1 = before.holders runner) := by
  have other' : ∀ other, other ≠ object →
      (after.Holds other runner ↔ before.Holds other runner) := by
    intro other differs
    rw [Holds, Holds, traffic, if_neg differs]
  have lost : ¬after.Holds object runner := by
    rw [Holds, traffic, if_pos rfl, notHolding]
    exact fun held => by cases held.1
  unfold holders
  rw [nextTraffic]
  constructor
  · intro notHeld
    apply count_congr
    intro other _
    by_cases same : other = object
    · subst same
      exact iff_of_false lost notHeld
    · exact other' other same
  · intro held below
    exact count_of_lost below held lost other'

variable {entry : Option SharedServer}

/-- The lease of a session on the server of its key is lost, and the runners of `goneNow` are
on the way to be stopped from now on. -/
structure Loses (before after : System Session Key) (object : Nat) (key : Key)
    (state : TrafficState Session Key) (entry : Option SharedServer) (goneNow : Nat → Prop) :
    Prop where
  lease : (before.traffic object).leaseKey = some key
  consistent : Consistent state
  notHolding : state.holding = false
  serverRunner : state.serverRunner = (before.traffic object).serverRunner
  leaseKey : state.leaseKey = (before.traffic object).leaseKey
  serverReleased : state.serverReleased = (before.traffic object).serverReleased
  unborn : before.nextTraffic ≤ object → state.phase = .starting
  traffic : ∀ other, after.traffic other = if other = object then state else before.traffic other
  nextTraffic : after.nextTraffic = before.nextTraffic
  nextRunner : after.nextRunner = before.nextRunner
  runners : after.runners = before.runners
  servers : ∀ other, after.servers other = if other = key then entry else before.servers other
  kept : ∀ shared, before.servers key = some shared →
    entry.map SharedServer.runner = some shared.runner ∨ goneNow shared.runner
  own : ∀ server, entry = some server → ∃ shared, before.servers key = some shared ∧
    server.runner = shared.runner ∧ server.refCount = after.holders shared.runner ∧
      0 < server.refCount
  gone : ∀ runner, after.Gone runner ↔ before.Gone runner ∨ goneNow runner
  goneOut : ∀ runner, goneNow runner → entry.map SharedServer.runner ≠ some runner ∧
    runner < before.nextRunner ∧ (before.runners runner).key = key ∧
      ∀ other, other ≠ object → ¬before.Holds other runner
  startFailed : ∀ other, after.StartFailed other → before.StartFailed other ∨
    other = object ∧ ∀ runner, state.serverRunner = some runner → goneNow runner
  startFailed' : ∀ other, before.StartFailed other → after.StartFailed other
  releasing : ∀ thread other key reason, after.calls thread = .releasing other key reason →
    before.calls thread = .releasing other key reason ∧ (other = object → after.StartFailed object)
  releases : ∀ other, other ≠ object → before.Releasing other → after.Releasing other

section Loses

variable {goneNow : Nat → Prop} (loses : Loses before after object key state entry goneNow)
include loses

theorem Loses.holds {other runner : Nat} (held : after.Holds other runner) :
    before.Holds other runner ∧ other ≠ object := by
  rw [Holds, loses.traffic] at held
  split at held
  · rw [loses.notHolding] at held
    cases held.1
  · rename_i differs
    exact ⟨held, differs⟩

theorem Loses.registered {runner : Nat} (there : before.Registered runner) :
    after.Registered runner ∨ goneNow runner := by
  unfold Registered at there ⊢
  rw [loses.runners, loses.servers]
  split
  · rename_i same
    rw [same] at there
    obtain ⟨shared, stored, rfl⟩ := map_eq_some_iff.mp there
    exact loses.kept shared stored
  · exact .inl there

theorem Loses.registered_before {runner : Nat} (there : after.Registered runner) :
    before.Registered runner := by
  unfold Registered at there ⊢
  rw [loses.runners, loses.servers] at there
  split at there
  · rename_i same
    obtain ⟨server, isEntry, rfl⟩ := map_eq_some_iff.mp there
    obtain ⟨shared, stored, isRunner, _⟩ := loses.own server isEntry
    rw [same, stored, isRunner]
    rfl
  · exact there

theorem Loses.out {runner : Nat} (now : goneNow runner) : runner < before.nextRunner ∧
    ¬after.Registered runner ∧ ∀ other, ¬after.Holds other runner := by
  obtain ⟨differs, below, isKey, free⟩ := loses.goneOut runner now
  refine ⟨below, ?_, fun other held => ?_⟩
  · rw [Registered, loses.runners, loses.servers, if_pos isKey]
    exact differs
  · obtain ⟨earlier, elsewhere⟩ := loses.holds held
    exact free other elsewhere earlier

variable (leased : before.Leased)
include leased

theorem Loses.unborn' {other : Nat} (above : after.nextTraffic ≤ other) :
    (after.traffic other).phase = .starting ∧ (after.traffic other).holding = false ∧
      (after.traffic other).serverRunner = none ∧ (after.traffic other).leaseKey = none := by
  rw [loses.nextTraffic] at above
  have old := leased.unborn other above
  rw [loses.traffic]
  split
  · rename_i same
    subst same
    exact ⟨loses.unborn above, loses.notHolding, loses.serverRunner.trans old.2.2.1,
      loses.leaseKey.trans old.2.2.2⟩
  · exact old

theorem Loses.given {other runner : Nat}
    (given : (after.traffic other).serverRunner = some runner) : runner < after.nextRunner ∧
      (after.traffic other).leaseKey = some (after.runners runner).key := by
  rw [loses.traffic] at given ⊢
  rw [loses.nextRunner, loses.runners]
  split at given
  · rename_i same
    subst same
    rw [loses.serverRunner] at given
    rw [if_pos rfl, loses.leaseKey]
    exact leased.given other runner given
  · rename_i differs
    rw [if_neg differs]
    exact leased.given other runner given

theorem Loses.held {other runner : Nat} (held : after.Holds other runner) :
    after.Registered runner ∨ (after.runners runner).exited = true := by
  rw [loses.runners]
  rcases leased.held other runner (loses.holds held).1 with there | exited
  · rcases loses.registered there with still | now
    · exact .inl still
    · exact absurd held ((loses.out now).2.2 other)
  · exact .inr exited

theorem Loses.stands {other : Nat} (stands : (after.traffic other).holding = true)
    (released : (after.traffic other).serverReleased = true) : after.Releasing other := by
  rw [loses.traffic] at stands released
  split at stands
  · rw [loses.notHolding] at stands
    cases stands
  · rename_i differs
    rw [if_neg differs] at released
    exact loses.releases other differs (leased.stands other stands released)

theorem Loses.isRegistered {other : Key} {server : SharedServer}
    (there : after.servers other = some server) : server.runner < after.nextRunner ∧
      (after.runners server.runner).key = other ∧
        server.refCount = after.holders server.runner ∧ 0 < server.refCount := by
  rw [loses.servers] at there
  rw [loses.nextRunner, loses.runners]
  split at there
  · rename_i same
    obtain ⟨shared, stored, isRunner, counts, some⟩ := loses.own server there
    obtain ⟨below, isKey, _⟩ := leased.registered key shared stored
    rw [isRunner]
    exact ⟨below, isKey.trans same.symm, counts, some⟩
  · rename_i differs
    obtain ⟨below, isKey, counts, some⟩ := leased.registered other server there
    have notHeld : ¬before.Holds object server.runner := by
      intro held
      have sameKey := (leased.given object server.runner held.2).2
      rw [loses.lease, Option.some.injEq, isKey] at sameKey
      exact differs sameKey.symm
    have holders := (holders_of_lost loses.notHolding loses.traffic loses.nextTraffic).1 notHeld
    exact ⟨below, isKey, by rw [holders, counts], some⟩

theorem Loses.unregistered {runner : Nat} (below : runner < after.nextRunner) :
    after.Registered runner ∨ after.Gone runner ∨ (after.runners runner).exited = true := by
  rw [loses.gone, loses.runners]
  rcases leased.unregistered runner (loses.nextRunner ▸ below) with there | isGone | exited
  · exact (loses.registered there).imp_right fun now => .inl (.inr now)
  · exact .inr (.inl (.inl isGone))
  · exact .inr (.inr exited)

theorem Loses.isGone {runner : Nat} (isGone : after.Gone runner) : runner < after.nextRunner ∧
    ¬after.Registered runner ∧ ∀ other, ¬after.Holds other runner := by
  rw [loses.nextRunner]
  rcases (loses.gone runner).mp isGone with old | now
  · obtain ⟨below, notThere, free⟩ := leased.gone runner old
    exact ⟨below, fun there => notThere (loses.registered_before there),
      fun other held => free other (loses.holds held).1⟩
  · exact loses.out now

theorem Loses.stillReleasing {thread other : Nat} {key' : Key} {reason : StopReason}
    (call : after.calls thread = .releasing other key' reason) :
    (after.traffic other).serverReleased = true ∧ (after.traffic other).leaseKey = some key' ∧
      ((after.traffic other).holding = true ∨ after.StartFailed other) := by
  obtain ⟨old, failed⟩ := loses.releasing thread other key' reason call
  obtain ⟨released, isKey, stands⟩ := leased.releasing thread other key' reason old
  rw [loses.traffic]
  split
  · rename_i same
    subst same
    exact ⟨loses.serverReleased.trans released, loses.leaseKey.trans isKey, .inr (failed rfl)⟩
  · exact ⟨released, isKey, stands.imp_right (loses.startFailed' other)⟩

theorem Loses.failed {other runner : Nat} (lost : after.StartFailed other)
    (given : (after.traffic other).serverRunner = some runner) : after.Gone runner := by
  rw [loses.gone]
  rw [loses.traffic] at given
  rcases loses.startFailed other lost with old | ⟨rfl, now⟩
  · left
    split at given
    · rename_i same
      subst same
      exact leased.failed other runner old (loses.serverRunner ▸ given)
    · exact leased.failed other runner old given
  · rw [if_pos rfl] at given
    exact .inr (now runner given)

/-- A lease that is lost is no longer counted. -/
theorem Leased.lose : after.Leased where
  consistent other := by
    rw [loses.traffic]
    split
    · exact loses.consistent
    · exact leased.consistent other
  unborn _ := loses.unborn' leased
  given _ _ := loses.given leased
  held _ _ := loses.held leased
  stands _ := loses.stands leased
  registered _ _ := loses.isRegistered leased
  unregistered _ := loses.unregistered leased
  gone _ := loses.isGone leased
  releasing _ _ _ _ := loses.stillReleasing leased
  oneRelease one two other key key' reason reason' first second :=
    leased.oneRelease one two other key key' reason reason' (loses.releasing _ _ _ _ first).1
      (loses.releasing _ _ _ _ second).1
  failed _ _ := loses.failed leased

end Loses

end System

end NetConsole.Traffic
