import NetConsole.Boot.Sessions
import NetConsole.Foundations.GuardedRuns

/-!
# Reboots are detected by the uptime

The uptime that a device lacks at an observation is its deficit: the uptime of the
observation before, and the time since then, less the uptime now. In every run of
observations whose check times increase for each device, the latest session of a device
carries its last observation (`BootInvariant`). A deficit within the tolerance opens no
session, whatever the clocks say (`sameBoot_of_deficit`); one above twice the tolerance
opens one, if both boot estimates come from one clock that has not moved by the tolerance
(`not_sameBoot_of_deficit`).
-/

set_option autoImplicit false

namespace NetConsole.Boot

open Foundations List Function

/-! ## Deficits -/

/-- Previous uptime and elapsed time less the new uptime, in milliseconds. -/
def deficitMs (previous next : BootObservation) : Int :=
  previous.uptimeSeconds * 1000 + (next.checkedAt - previous.checkedAt) - next.uptimeSeconds * 1000

/-- How far the clock of an estimate is from the time of the check, in microseconds. -/
def BootObservation.clockOffset (observation : BootObservation) : Int :=
  observation.clock.1 - observation.checkedAt * 1000

/-- Both estimates come from the device clock, or both from the controller clock, and this
clock has moved by less than the tolerance. -/
def SameSteadyClock (service : MrBootSessionService) (previous next : BootObservation) : Prop :=
  previous.clock.2 = next.clock.2 ∧
    |next.clockOffset - previous.clockOffset| < service.toleranceSeconds * 1000000

/-- A session carries the uptime, the check time and the boot estimate of an observation. -/
structure Carries (session : BootSession) (observation : BootObservation) : Prop where
  device : session.deviceUuid = observation.deviceUuid
  uptime : session.lastUptimeSeconds = observation.uptimeSeconds
  checked : session.lastCheckedAt = observation.checkedAt
  estimated : session.estimatedBootTime = wholeMilliseconds observation.estimated

section Deficits

variable {service : MrBootSessionService} {current : BootSession} {previous next : BootObservation}
  (carries : Carries current previous)
include carries

theorem sameBoot_of_deficit (later : previous.checkedAt < next.checkedAt)
    (small : deficitMs previous next ≤ service.toleranceSeconds * 1000) :
    sameBoot service current next = true := by
  unfold deficitMs at small
  have kept : uptimeRolledBack service current next = false := by
    unfold uptimeRolledBack
    rw [carries.uptime, decide_eq_false_iff_not]
    omega
  have steady : uptimeResetDuringGap service current next = false := by
    unfold uptimeResetDuringGap elapsedMs
    rw [carries.uptime, carries.checked, Bool.and_eq_false_iff]
    right
    rw [decide_eq_false_iff_not]
    omega
  unfold sameBoot
  rw [kept, steady]
  rfl

theorem estimatedDelta_ge :
    deficitMs previous next * 1000 + (next.clockOffset - previous.clockOffset) ≤
      estimatedDeltaMicros current next := by
  unfold estimatedDeltaMicros deficitMs BootObservation.clockOffset
  rw [carries.estimated]
  unfold wholeMilliseconds BootObservation.estimated BootObservation.uptimeMicros
  omega

theorem not_sameBoot_of_deficit (later : previous.checkedAt < next.checkedAt)
    (large : 2 * (service.toleranceSeconds * 1000) < deficitMs previous next)
    (steady : SameSteadyClock service previous next) : sameBoot service current next = false := by
  have moved : deficitMs previous next * 1000 + (next.clockOffset - previous.clockOffset) ≤
      estimatedDeltaMicros current next := estimatedDelta_ge carries
  have bounds := abs_lt.mp steady.2
  have changed : bootEstimateChanged service current next = true := by
    have above : service.toleranceSeconds * 1000000 < estimatedDeltaMicros current next := by omega
    exact decide_eq_true (lt_of_lt_of_le above (le_abs_self _))
  unfold deficitMs at large
  by_cases gap : service.toleranceSeconds * 1000 < next.checkedAt - previous.checkedAt
  · have reset : uptimeResetDuringGap service current next = true := by
      unfold uptimeResetDuringGap elapsedMs
      rw [carries.uptime, carries.checked, Bool.and_eq_true, decide_eq_true_eq, decide_eq_true_eq]
      omega
    unfold sameBoot
    rw [reset, changed, Bool.and_self, Bool.not_true, Bool.and_false]
  · have rolledBack : uptimeRolledBack service current next = true := by
      unfold uptimeRolledBack
      rw [carries.uptime, decide_eq_true_eq]
      omega
    unfold sameBoot
    rw [rolledBack, Bool.not_true, Bool.false_and]

end Deficits

/-! ## Runs of observations -/

/-- The sessions, and the last observation of each device. -/
structure ObservedSessions where
  store : BootStore
  last : String → Option BootObservation

def ObservedSessions.start : ObservedSessions := ⟨⟨[], []⟩, fun _ => none⟩

/-- A call of `observe`; a call that raises observes nothing. -/
def observeStep (service : MrBootSessionService) (state : ObservedSessions)
    (observation : BootObservation) : Option ObservedSessions :=
  some <| match observe service observation state.store with
    | some (store, _, _) =>
      ⟨store, Function.update state.last observation.deviceUuid (some observation)⟩
    | none => state

/-- The check times of a device increase. -/
def Later (state : ObservedSessions) (observation : BootObservation) : Prop :=
  ∀ previous, state.last observation.deviceUuid = some previous →
    previous.checkedAt < observation.checkedAt

/-- A session that carries the last observation of its device, with only older sessions of
the device beside it. -/
structure LatestSession (sessions : List BootSession) (session : BootSession)
    (observation : BootObservation) : Prop where
  stored : session ∈ sessions
  carries : Carries session observation
  newest : ∀ other ∈ sessions, other.deviceUuid = observation.deviceUuid → other ≠ session →
    other.lastCheckedAt < session.lastCheckedAt

/-- What holds of the sessions at every point of a run. -/
structure BootInvariant (state : ObservedSessions) : Prop where
  distinct : (state.store.sessions.map BootSession.bootSessionId).Nodup
  observed : ∀ device observation, state.last device = some observation →
    observation.deviceUuid = device ∧
      ∃ session, LatestSession state.store.sessions session observation
  unobserved : ∀ device, state.last device = none →
    ∀ session ∈ state.store.sessions, session.deviceUuid ≠ device

theorem start_invariant : BootInvariant .start where
  distinct := .nil
  observed _ _ found := by cases found
  unobserved _ _ _ mem := by cases mem

variable {store : BootStore} {observation : BootObservation} {session : BootSession}

theorem LatestSession.latestBootSession (latest : LatestSession store.sessions session observation)
    : store.latestBootSession observation.deviceUuid = some session := by
  apply head?_newestFirst
  · exact mem_filter.mpr ⟨latest.stored, decide_eq_true latest.carries.device⟩
  · intro other mem differ
    obtain ⟨stored, device⟩ := mem_filter.mp mem
    exact latest.newest other stored (of_decide_eq_true device) differ

theorem latestBootSession_unobserved {device : String}
    (none' : ∀ session ∈ store.sessions, session.deviceUuid ≠ device) :
    store.latestBootSession device = none := by
  have empty : store.sessionsOf device = [] :=
    filter_eq_nil_iff.mpr fun session mem => by simpa using none' session mem
  unfold BootStore.latestBootSession
  rw [empty]
  rfl

theorem freshId_notMem (store : BootStore) :
    ∀ session ∈ store.sessions, session.bootSessionId ≠ store.freshId := by
  have above : ∀ (ids : List Nat) (most : Nat), most ≤ ids.foldl max most ∧
      ∀ id ∈ ids, id ≤ ids.foldl max most := by
    intro ids
    induction ids with
    | nil => exact fun most => ⟨le_refl _, by simp⟩
    | cons id ids ih =>
      intro most
      obtain ⟨start, rest⟩ := ih (max most id)
      refine ⟨(le_max_left ..).trans start, ?_⟩
      intro other mem
      rcases mem_cons.mp mem with rfl | later
      · exact (le_max_right ..).trans start
      · exact rest other later
  intro session mem same
  have bound := (above (store.sessions.map fun session => session.bootSessionId + 1) 0).2 _
    (mem_map_of_mem mem)
  have equal : session.bootSessionId = (store.sessions.map fun session =>
    session.bootSessionId + 1).foldl max 0 := same
  omega

theorem LatestSession.upsert (carries : Carries session observation)
    (older : ∀ other ∈ store.sessions, other.deviceUuid = observation.deviceUuid →
      other.bootSessionId ≠ session.bootSessionId → other.lastCheckedAt < session.lastCheckedAt) :
    LatestSession (store.upsertBootSession session).sessions session observation where
  stored := mem_upsertRow_iff.mpr (.inl rfl)
  carries := carries
  newest other mem device differ := by
    rcases mem_upsertRow_iff.mp mem with same | ⟨stored, apart⟩
    · exact absurd same differ
    · exact older other stored device apart

section Steps

variable {service : MrBootSessionService} {state : ObservedSessions} {observation : BootObservation}
  {store : BootStore} {session : BootSession} {created : Bool}

theorem continuedSession_carries {current : BootSession}
    (device : current.deviceUuid = observation.deviceUuid) :
    Carries (continuedSession service current observation) observation :=
  ⟨device, rfl, rfl, rfl⟩

theorem newSession_carries (id : Nat) : Carries (observation.newSession id) observation :=
  ⟨rfl, rfl, rfl, rfl⟩

theorem observe_cases (invariant : BootInvariant state) {previous : BootObservation}
    (earlier : state.last observation.deviceUuid = some previous)
    (observed : observe service observation state.store = some (store, session, created)) :
    ∃ current, LatestSession state.store.sessions current previous ∧
      previous.deviceUuid = observation.deviceUuid ∧
      ((sameBoot service current observation = true ∧ created = false ∧
        session = continuedSession service current observation ∧
        store.sessions = upsertRow BootSession.bootSessionId state.store.sessions session) ∨
      (sameBoot service current observation = false ∧ created = true ∧
        session = observation.newSession state.store.freshId ∧
        store.sessions = upsertRow BootSession.bootSessionId state.store.sessions session)) := by
  obtain ⟨device, current, latest⟩ := invariant.observed _ _ earlier
  refine ⟨current, latest, device, ?_⟩
  have found := latest.latestBootSession
  rw [device] at found
  unfold observe at observed
  split at observed
  · rw [found] at observed
    simp only [] at observed
    cases same : sameBoot service current observation with
    | true =>
      rw [same, if_pos rfl] at observed
      cases observed
      exact .inl ⟨rfl, rfl, rfl, rfl⟩
    | false =>
      rw [same, if_neg Bool.false_ne_true] at observed
      cases observed
      exact .inr ⟨rfl, rfl, rfl, rfl⟩
  · cases observed

theorem exists_observe (service : MrBootSessionService) (before : BootStore)
    {observation : BootObservation}
    (inRange : 0 ≤ observation.estimated ∧ observation.estimated < datetimeRange) :
    ∃ store session created,
      observe service observation before = some (store, session, created) := by
  unfold observe
  rw [if_pos inRange]
  split
  · split <;> exact ⟨_, _, _, rfl⟩
  · exact ⟨_, _, _, rfl⟩

variable (invariant : BootInvariant state)
include invariant

theorem observe_first (first : state.last observation.deviceUuid = none)
    (observed : observe service observation state.store = some (store, session, created)) :
    created = true ∧ session = observation.newSession state.store.freshId ∧
      store.sessions = upsertRow BootSession.bootSessionId state.store.sessions session := by
  have found := latestBootSession_unobserved (invariant.unobserved _ first)
  unfold observe at observed
  split at observed
  · rw [found] at observed
    cases observed
    exact ⟨rfl, rfl, rfl⟩
  · cases observed

theorem observe_latest (later : Later state observation)
    (observed : observe service observation state.store = some (store, session, created)) :
    LatestSession store.sessions session observation ∧
      store.sessions = upsertRow BootSession.bootSessionId state.store.sessions session := by
  cases earlier : state.last observation.deviceUuid with
  | none =>
    obtain ⟨-, rfl, written⟩ := observe_first invariant earlier observed
    refine ⟨?_, written⟩
    rw [written]
    apply LatestSession.upsert (newSession_carries _)
    intro other mem device _
    exact absurd device (invariant.unobserved _ earlier other mem)
  | some previous =>
    obtain ⟨current, latest, device, cases'⟩ := observe_cases invariant earlier observed
    have newer : current.lastCheckedAt < observation.checkedAt := by
      rw [latest.carries.checked]
      exact later previous earlier
    have older : ∀ other ∈ state.store.sessions, other.deviceUuid = observation.deviceUuid →
        other.lastCheckedAt < observation.checkedAt := by
      intro other mem own
      by_cases same : other = current
      · rw [same]
        exact newer
      · exact (latest.newest other mem (own.trans device.symm) same).trans newer
    rcases cases' with ⟨-, -, rfl, written⟩ | ⟨-, -, rfl, written⟩
    · refine ⟨?_, written⟩
      rw [written]
      exact LatestSession.upsert (continuedSession_carries (latest.carries.device.trans device))
        fun other mem own _ => older other mem own
    · refine ⟨?_, written⟩
      rw [written]
      exact LatestSession.upsert (newSession_carries _) fun other mem own _ =>
        older other mem own

theorem observe_apart
    (observed : observe service observation state.store = some (store, session, created)) :
    ∀ other ∈ state.store.sessions, other.deviceUuid ≠ observation.deviceUuid →
      other.bootSessionId ≠ session.bootSessionId := by
  intro other mem differ
  cases earlier : state.last observation.deviceUuid with
  | none =>
    obtain ⟨-, rfl, -⟩ := observe_first invariant earlier observed
    exact freshId_notMem state.store other mem
  | some previous =>
    obtain ⟨_, latest, device, cases'⟩ := observe_cases invariant earlier observed
    rcases cases' with ⟨-, -, rfl, -⟩ | ⟨-, -, rfl, -⟩
    · intro same
      have equal := inj_on_of_nodup_map invariant.distinct mem latest.stored same
      rw [equal] at differ
      exact differ (latest.carries.device.trans device)
    · exact freshId_notMem state.store other mem

/-- Every call keeps the invariant. -/
theorem observeStep_invariant {after : ObservedSessions} (later : Later state observation)
    (stepped : observeStep service state observation = some after) : BootInvariant after := by
  unfold observeStep at stepped
  cases observed : observe service observation state.store with
  | none =>
    rw [observed] at stepped
    exact Option.some.inj stepped ▸ invariant
  | some result =>
    obtain ⟨store, session, _⟩ := result
    rw [observed] at stepped
    obtain rfl : (⟨store, Function.update state.last observation.deviceUuid (some observation)⟩ :
      ObservedSessions) = after := Option.some.inj stepped
    obtain ⟨latest, written⟩ := observe_latest invariant later observed
    have apart := observe_apart invariant observed
    have others : ∀ other, other.deviceUuid ≠ observation.deviceUuid →
        (other ∈ store.sessions ↔ other ∈ state.store.sessions) := by
      intro other differ
      rw [written, mem_upsertRow_iff]
      constructor
      · rintro (rfl | ⟨stored, -⟩)
        · exact absurd latest.carries.device differ
        · exact stored
      · exact fun stored => .inr ⟨stored, apart other stored differ⟩
    refine ⟨?_, ?_, ?_⟩
    · show (store.sessions.map _).Nodup
      rw [written]
      exact nodup_map_upsertRow session invariant.distinct
    · intro device last found
      dsimp only at found
      by_cases same : device = observation.deviceUuid
      · subst same
        rw [update_self] at found
        rw [← Option.some.inj found]
        exact ⟨rfl, session, latest⟩
      · rw [update_of_ne same] at found
        obtain ⟨own, current, stored⟩ := invariant.observed device last found
        have differ : last.deviceUuid ≠ observation.deviceUuid := own ▸ same
        refine ⟨own, current, ?_, stored.carries, ?_⟩
        · exact (others current (stored.carries.device.symm ▸ differ)).mpr stored.stored
        · intro other mem device' notCurrent
          exact stored.newest other ((others other (device' ▸ differ)).mp mem) device' notCurrent
    · intro device absent other mem
      dsimp only at absent
      by_cases same : device = observation.deviceUuid
      · subst same
        rw [update_self] at absent
        cases absent
      · rw [update_of_ne same] at absent
        intro own
        exact invariant.unobserved device absent other ((others other (own ▸ same)).mp mem) own

omit invariant

theorem length_upsert (written : store.sessions =
      upsertRow BootSession.bootSessionId state.store.sessions session) :
    (∀ other ∈ state.store.sessions, other.bootSessionId ≠ session.bootSessionId) →
      store.sessions = state.store.sessions ++ [session] := by
  intro fresh
  rw [written, upsertRow, if_neg]
  intro there
  obtain ⟨other, stored, same⟩ := any_eq_true.mp there
  exact fresh other stored (of_decide_eq_true same)

end Steps

/-! ## The theorem -/

/-- In every run of observations the latest session of a device carries its last
observation. At the next one a deficit within the tolerance opens no session, and a deficit
above twice the tolerance, seen with a steady clock, opens one. -/
theorem reboots_detected (service : MrBootSessionService) {observations : List BootObservation}
    {state : ObservedSessions}
    (run : GuardedRun (observeStep service) Later .start observations state)
    {previous : BootObservation} (last : state.last previous.deviceUuid = some previous) :
    (∃ session, state.store.latestBootSession previous.deviceUuid = some session ∧
      Carries session previous) ∧
    ∀ (next : BootObservation) (store : BootStore) (session : BootSession) (created : Bool),
      next.deviceUuid = previous.deviceUuid → previous.checkedAt < next.checkedAt →
      observe service next state.store = some (store, session, created) →
      (deficitMs previous next ≤ service.toleranceSeconds * 1000 →
        created = false ∧ store.sessions.map BootSession.bootSessionId =
          state.store.sessions.map BootSession.bootSessionId) ∧
      (2 * (service.toleranceSeconds * 1000) < deficitMs previous next →
        SameSteadyClock service previous next →
        created = true ∧ store.sessions = state.store.sessions ++ [session]) := by
  have invariant : BootInvariant state := run.invariant BootInvariant
    (fun _ _ _ holds later stepped => observeStep_invariant holds later stepped) start_invariant
  obtain ⟨-, latest, isLatest⟩ := invariant.observed _ _ last
  refine ⟨⟨latest, isLatest.latestBootSession, isLatest.carries⟩, ?_⟩
  intro next store session created device later observed
  have earlier : state.last next.deviceUuid = some previous := device ▸ last
  obtain ⟨current, stored, -, cases'⟩ := observe_cases invariant earlier observed
  constructor
  · intro small
    have same := sameBoot_of_deficit stored.carries later small
    rcases cases' with ⟨-, notCreated, rfl, written⟩ | ⟨reboot, -⟩
    · refine ⟨notCreated, ?_⟩
      have there : hasRow BootSession.bootSessionId state.store.sessions
          (continuedSession service current next).bootSessionId = true :=
        any_eq_true.mpr ⟨current, stored.stored, decide_eq_true rfl⟩
      rw [written, upsertRow, if_pos there, map_map]
      apply map_congr_left
      intro other _
      show BootSession.bootSessionId (if _ then _ else other) = _
      split
      · rename_i placed
        exact placed.symm
      · rfl
    · rw [same] at reboot
      cases reboot
  · intro large steady
    have reboot := not_sameBoot_of_deficit stored.carries later large steady
    rcases cases' with ⟨same, -⟩ | ⟨-, isCreated, rfl, written⟩
    · rw [reboot] at same
      cases same
    · exact ⟨isCreated, length_upsert written (freshId_notMem state.store)⟩

/-! ## A reboot behind a gap -/

/-- A check at a second, with the uptime that it shows and no device clock. -/
def sampleCheck (second uptimeSeconds : Int) : BootObservation where
  deviceUuid := "mr"
  deviceId := none
  trainId := "t"
  mrRole := "A"
  checkedAt := 63900000000000 + second * 1000
  uptimeSeconds := uptimeSeconds
  evidencePath := ""
  deviceClockBefore := none
  deviceClockAfter := none
  bootTimeUncertaintySeconds := 60
  rebootReason := ""
  timezoneName := ""
  utcOffsetSeconds := none
  timeQuality := .localFallback

/-- After an hour an uptime of three minutes is a reboot, one of an hour and a minute more
is none. -/
theorem reboots_detected_afterGap :
    ∃ state : ObservedSessions, GuardedRun (observeStep (.new 120)) Later .start
        [sampleCheck 0 1000] state ∧
      (∃ store session, observe (.new 120) (sampleCheck 3600 180) state.store =
        some (store, session, true) ∧ store.sessions = state.store.sessions ++ [session]) ∧
      ∃ store session, observe (.new 120) (sampleCheck 3600 4660) state.store =
        some (store, session, false) := by
  obtain ⟨first, stepped⟩ : ∃ first, observeStep (.new 120) .start (sampleCheck 0 1000) =
    some first := ⟨_, rfl⟩
  have started : GuardedRun (observeStep (.new 120)) Later .start [sampleCheck 0 1000] first :=
    .cons (fun _ found => by cases found) stepped (.nil first)
  have observed : first.last (sampleCheck 0 1000).deviceUuid = some (sampleCheck 0 1000) := by
    rw [← Option.some.inj stepped]
    rfl
  obtain ⟨-, detects⟩ := reboots_detected (.new 120) started observed
  refine ⟨first, started, ?_, ?_⟩
  · obtain ⟨store, session, created, ended⟩ := exists_observe (.new 120) first.store
      (show 0 ≤ (sampleCheck 3600 180).estimated ∧ _ by decide)
    obtain ⟨rfl, opened⟩ := (detects (sampleCheck 3600 180) store session created rfl (by decide)
      ended).2 (by decide)
      ⟨rfl, by decide⟩
    exact ⟨store, session, ended, opened⟩
  · obtain ⟨store, session, created, ended⟩ := exists_observe (.new 120) first.store
      (show 0 ≤ (sampleCheck 3600 4660).estimated ∧ _ by decide)
    obtain ⟨rfl, -⟩ := (detects (sampleCheck 3600 4660) store session created
        rfl (by decide) ended).1
      (by decide)
    exact ⟨store, session, ended⟩

end NetConsole.Boot
