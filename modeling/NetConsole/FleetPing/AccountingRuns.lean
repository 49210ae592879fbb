import NetConsole.FleetPing.Accounting

/-!
# No sample is lost or counted twice

A run of the supervisor is a list of actions: starts, samples, target updates,
flushes and stops, each with its failures, and new processes. Beside the
supervisor stand two history variables that no action reads: the samples that
were accepted since the buckets were last emptied, and what the summaries had
counted then.

In every run the counters add up, and the summary of a bucket has counted some
first part of those samples. It has counted all of them unless the bucket is
pending, and a flush that does not fail leaves no bucket pending
(`accounts_kept`).
-/

set_option autoImplicit false

namespace NetConsole.FleetPing

open Foundations List

/-! ## Counts -/

/-- The counters of samples. -/
structure Counts where
  (raw ignored sent success loss : Nat)
  deriving DecidableEq

/-- A sample as the counters see it. -/
structure SampleEvent where
  (ok ignored : Bool)
  deriving DecidableEq

def Counts.add (counts : Counts) (sample : SampleEvent) : Counts :=
  { raw := counts.raw + 1
    ignored := counts.ignored + if sample.ignored then 1 else 0
    sent := counts.sent + if sample.ignored then 0 else 1
    success := counts.success + if !sample.ignored && sample.ok then 1 else 0
    loss := counts.loss + if !sample.ignored && !sample.ok then 1 else 0 }

section Values

variable {R : Type} {floats : FloatArithmetic R}

def Stats.counts (stats : Stats R) : Counts :=
  { raw := stats.raw, ignored := stats.ignored, sent := stats.sent, success := stats.success
    loss := stats.loss }

/-- What a summary has counted; a missing one nothing. -/
def summaryCounts : Option (PingSummary R) → Counts
  | none => { raw := 0, ignored := 0, sent := 0, success := 0, loss := 0 }
  | some row =>
    { raw := row.rawSampleCount, ignored := row.warmupIgnoredCount, sent := row.sentCount
      success := row.successCount, loss := row.lossCount }

/-- The sample as `Stats.add` takes it. -/
def sampleEvent (sample : FpingV5Sample R) (ignored : Bool) : SampleEvent :=
  { ok := decide (sample.ok = some true), ignored }

theorem counts_addRtt (stats : Stats R) (rtt : Option R) :
    (stats.addRtt floats rtt).counts = stats.counts := by
  cases rtt <;> rfl

theorem counts_add (stats : Stats R) (sample : FpingV5Sample R) (ignored : Bool) :
    (stats.add floats sample ignored).counts = stats.counts.add (sampleEvent sample ignored) := by
  unfold Stats.add sampleEvent Counts.add
  cases ignored with
  | true => simp [Stats.counts]
  | false =>
    by_cases answered : sample.ok = some true
    · simp only [answered, Bool.false_eq_true, if_false, if_true, counts_addRtt]
      simp [Stats.counts]
    · simp [answered, Stats.counts]

theorem counts_statsFromSummary (row : Option (PingSummary R)) :
    (statsFromSummary floats row).counts = summaryCounts row := by
  cases row <;> rfl

/-- The counters of one endpoint or bucket add up. -/
structure Stats.Balanced (stats : Stats R) : Prop where
  raw : stats.raw = stats.sent + stats.ignored
  sent : stats.sent = stats.success + stats.loss
  longest : stats.currentLoss ≤ stats.maxLoss

/-- The counters of a row add up. -/
structure PingSummary.Balanced (row : PingSummary R) : Prop where
  raw : row.rawSampleCount = row.sentCount + row.warmupIgnoredCount
  sent : row.sentCount = row.successCount + row.lossCount

theorem balanced_empty : (Stats.empty floats).Balanced where
  raw := rfl
  sent := rfl
  longest := Nat.le_refl 0

variable {stats : Stats R}

theorem balanced_addRtt (balanced : stats.Balanced) (rtt : Option R) :
    (stats.addRtt floats rtt).Balanced := by
  cases rtt with
  | none => exact balanced
  | some rtt => exact ⟨balanced.raw, balanced.sent, balanced.longest⟩

theorem balanced_add (balanced : stats.Balanced) (sample : FpingV5Sample R) (ignored : Bool) :
    (stats.add floats sample ignored).Balanced := by
  obtain ⟨_, _, _⟩ := balanced
  unfold Stats.add
  cases ignored with
  | true =>
    simp only [if_true]
    constructor <;> simp only <;> omega
  | false =>
    simp only [Bool.false_eq_true, if_false]
    split
    · apply balanced_addRtt
      constructor <;> simp only <;> omega
    · constructor <;> simp only <;> omega

theorem balanced_statsFromSummary {row : PingSummary R} (balanced : row.Balanced) :
    (statsFromSummary floats (some row)).Balanced where
  raw := balanced.raw
  sent := balanced.sent
  longest := Nat.zero_le _

theorem balanced_summaryPayload (balanced : stats.Balanced) (lib : TimeLibrary) (periodMs : Nat)
    (now : String) (key : BucketKey) (target : FleetPingTarget) :
    (summaryPayload floats lib periodMs now key target stats).Balanced where
  raw := balanced.raw
  sent := balanced.sent

end Values

theorem bucketKeys_nodup (ts : DateTime) (target : FleetPingTarget) (targetIp : String) :
    (bucketKeys ts target targetIp).Nodup := by
  simp [bucketKeys]

theorem targetIp_of_mem_bucketKeys {ts : DateTime} {target : FleetPingTarget} {targetIp : String}
    {key : BucketKey} (mem : key ∈ bucketKeys ts target targetIp) : key.targetIp = targetIp := by
  simp only [bucketKeys, mem_cons, not_mem_nil, or_false] at mem
  rcases mem with rfl | rfl | rfl | rfl | rfl <;> rfl

/-! ## Runs -/

/-- What can happen to a supervisor, and a process that is replaced. -/
inductive Action (R : Type)
  | newProcess
  | start (persistedSampleCount : Nat)
  | sample (now : DateTime) (failure : Option SampleFailure) (received : FpingV5Sample R)
  | updateTargets (facts : UpdateFacts) (targets : List FleetPingTarget)
  | flushSummaries (facts : FlushFacts)
  | stop (facts : FlushFacts)

/-- The supervisor with the history variables. -/
structure Observed (R : Type) where
  supervisor : Supervisor R
  /-- What the summaries had counted when the buckets were last emptied. -/
  baseline : BucketKey → Counts
  /-- The samples since, each with the buckets it was counted in. -/
  history : List (List BucketKey × SampleEvent)

section Runs

variable {R : Type} (floats : FloatArithmetic R) (lib : TimeLibrary) (settings : PingSettings)

/-- What an action makes of a supervisor. -/
def act (supervisor : Supervisor R) : Action R → Supervisor R
  | .newProcess => newSupervisor supervisor.buckets.rows
  | .start persistedSampleCount => supervisor.start floats persistedSampleCount
  | .sample now failure received =>
    supervisor.recordSample floats lib settings now failure received
  | .updateTargets facts targets => supervisor.updateTargets floats lib settings facts targets
  | .flushSummaries facts => (supervisor.flushSummariesLocked floats lib settings facts).1
  | .stop facts => supervisor.stop floats lib settings facts

/-- A sample is accepted from a current target while the run is on. It belongs to the five
buckets of its time and target, of which a failure keeps it from those after. -/
def acceptedSample (supervisor : Supervisor R) (now : DateTime) (failure : Option SampleFailure)
    (received : FpingV5Sample R) : List (List BucketKey × SampleEvent) :=
  match supervisor.targetAt received.target with
  | none => []
  | some target =>
    if supervisor.running then
      let ts := parseSampleTs lib now received.ts
      let keys := bucketKeys ts target received.target
      let event := sampleEvent received (supervisor.ignores lib settings ts received.target)
      match failure with
      | some .rawWriting => []
      | some (.loading done) => [(keys.take done, event)]
      | none => [(keys, event)]
    else []

/-- What the rows have counted in a bucket. -/
def countsIn (rows : List (PingSummary R)) (key : BucketKey) : Counts :=
  summaryCounts (rowAt PingSummary.key rows key)

/-- An action, with what has to be kept of the past. -/
def observe (observed : Observed R) (action : Action R) : Observed R :=
  let after := act floats lib settings observed.supervisor action
  let emptied : Observed R :=
    { supervisor := after, baseline := countsIn observed.supervisor.buckets.rows, history := [] }
  match action with
  | .newProcess => emptied
  | .start _ =>
    if observed.supervisor.running then { observed with supervisor := after } else emptied
  | .sample now failure received =>
    { observed with
      supervisor := after
      history := observed.history ++
        acceptedSample lib settings observed.supervisor now failure received }
  | _ => { observed with supervisor := after }

def initial : Observed R :=
  { supervisor := newSupervisor [],
    baseline := countsIn ([] : List (PingSummary R)), history := [] }

/-- What holds in every state of a run. -/
structure Accounts (observed : Observed R) : Prop where
  behind : WriteBehind.Behind PingSummary.key Stats.counts summaryCounts Counts.add
    observed.baseline observed.history observed.supervisor.buckets
  endpoints : ∀ address stats, observed.supervisor.stats address = some stats → stats.Balanced
  loaded : ∀ address stats, observed.supervisor.persistedTargetStats address = some stats →
    stats.Balanced
  buckets : ∀ key stats, observed.supervisor.buckets.entries key = some stats → stats.Balanced
  rows : ∀ row ∈ observed.supervisor.buckets.rows, row.Balanced
  targeted : ∀ key ∈ observed.supervisor.buckets.dirty,
    (observed.supervisor.targetAt key.targetIp).isSome
  idle : observed.supervisor.running = false → observed.supervisor.buckets.dirty = []

/-! ## Flushes -/

section Flush

variable {floats lib settings} {supervisor : Supervisor R}

theorem summaryOf_eq_some {now : String} {key : BucketKey} {row : PingSummary R}
    (found : supervisor.summaryOf floats lib settings now key = some row) :
    ∃ target stats, supervisor.targetAt key.targetIp = some target ∧
      supervisor.buckets.entries key = some stats ∧
      row = summaryPayload floats lib settings.periodMs now key target stats := by
  unfold Supervisor.summaryOf at found
  split at found
  · rename_i target stats here inMemory
    cases found
    exact ⟨target, stats, here, inMemory, rfl⟩
  · cases found

theorem summaryOf_key {now : String} (key : BucketKey) (row : PingSummary R)
    (found : supervisor.summaryOf floats lib settings now key = some row) : row.key = key := by
  obtain ⟨target, _, here, _, rfl⟩ := summaryOf_eq_some found
  have same : target.targetIp = key.targetIp := by simpa using List.find?_some here
  rw [PingSummary.key, summaryPayload, same]

theorem summaryOf_counts {now : String} (key : BucketKey) (row : PingSummary R)
    (found : supervisor.summaryOf floats lib settings now key = some row) :
    ∃ stats, supervisor.buckets.entries key = some stats ∧
      summaryCounts (some row) = stats.counts := by
  obtain ⟨_, stats, _, inMemory, rfl⟩ := summaryOf_eq_some found
  exact ⟨stats, inMemory, rfl⟩

variable {observed : Observed R}

/-- Every pending bucket has a target, so that the next flush writes it. -/
theorem Accounts.summaryOf_isSome (accounts : Accounts observed) {key : BucketKey}
    (dirty : key ∈ observed.supervisor.buckets.dirty) (now : String) :
    (observed.supervisor.summaryOf floats lib settings now key).isSome := by
  obtain ⟨_, here⟩ := Option.isSome_iff_exists.mp (accounts.targeted key dirty)
  cases inMemory : observed.supervisor.buckets.entries key with
  | none => exact (accounts.behind.absent key inMemory dirty).elim
  | some stats => simp [Supervisor.summaryOf, here, inMemory]

theorem Accounts.flush (accounts : Accounts observed) (facts : FlushFacts) :
    Accounts { observed with supervisor :=
      (observed.supervisor.flushSummariesLocked floats lib settings facts).1 } := by
  unfold Supervisor.flushSummariesLocked
  split
  · rename_i pending
    refine ⟨accounts.behind.flush summaryOf_key summaryOf_counts _, accounts.endpoints,
      accounts.loaded, ?_, ?_, ?_, ?_⟩
    · intro key stats found
      apply accounts.buckets key stats
      rw [← found]
      unfold WriteBehind.flush
      simp only
      split <;> rfl
    · intro row mem
      have written : row ∈ (WriteBehind.writeRows PingSummary.key facts.outcome
          (observed.supervisor.summaryOf floats lib settings facts.now)
          (facts.order.order observed.supervisor.buckets.dirty)
          observed.supervisor.buckets.rows).1 := by
        unfold WriteBehind.flush at mem
        simp only at mem
        split at mem <;> exact mem
      rcases WriteBehind.mem_writeRows written with stored | ⟨key, found⟩
      · exact accounts.rows row stored
      · obtain ⟨_, stats, _, inMemory, rfl⟩ := summaryOf_eq_some found
        exact balanced_summaryPayload (accounts.buckets key stats inMemory) _ _ _ _ _
    · intro key dirty
      apply accounts.targeted key
      unfold WriteBehind.flush at dirty
      simp only at dirty
      split at dirty
      · exact mem_of_mem_filter dirty
      · exact dirty
    · intro notRunning
      rw [pending.1] at notRunning
      cases notRunning
  · exact accounts

/-- A flush that returns leaves nothing pending. -/
theorem Accounts.dirty_flush (accounts : Accounts observed) {facts : FlushFacts}
    (returned : (observed.supervisor.flushSummariesLocked floats lib settings facts).2 = true) :
    (observed.supervisor.flushSummariesLocked floats lib settings facts).1.buckets.dirty = [] := by
  unfold Supervisor.flushSummariesLocked at returned ⊢
  split at returned
  · rename_i pending
    rw [if_pos pending]
    exact WriteBehind.dirty_flush summaryOf_key (facts.order.perm _)
      (fun key dirty => accounts.summaryOf_isSome dirty facts.now) returned
  · rename_i nothing
    rw [if_neg nothing]
    cases running : observed.supervisor.running with
    | false => exact accounts.idle running
    | true => simpa [running] using nothing

end Flush

/-! ## Steps -/

section Steps

variable {floats lib settings} {observed : Observed R} {supervisor : Supervisor R}

/-- While nothing is pending the targets may change. -/
theorem Accounts.retarget (accounts : Accounts observed)
    (nothing : observed.supervisor.buckets.dirty = [])
    (same : supervisor.buckets = observed.supervisor.buckets)
    (persisted : supervisor.persistedTargetStats = observed.supervisor.persistedTargetStats)
    (endpoints : ∀ address stats, supervisor.stats address = some stats → stats.Balanced) :
    Accounts { observed with supervisor } where
  behind := by
    rw [same]
    exact accounts.behind
  endpoints := endpoints
  loaded := by
    rw [persisted]
    exact accounts.loaded
  buckets := by
    rw [same]
    exact accounts.buckets
  rows := by
    rw [same]
    exact accounts.rows
  targeted := by
    rw [same, nothing]
    intro key impossible
    cases impossible
  idle := by
    intro _
    rw [same, nothing]

theorem balanced_retarget
    (loaded : ∀ address stats, supervisor.persistedTargetStats address = some stats →
      stats.Balanced)
    (endpoints : ∀ address stats, supervisor.stats address = some stats → stats.Balanced)
    (desired : List FleetPingTarget) (address : String) (stats : Stats R)
    (found : (supervisor.retarget desired).stats address = some stats) : stats.Balanced := by
  unfold Supervisor.retarget continueStats at found
  simp only at found
  split at found
  · exact loaded address stats found
  · exact endpoints address stats found

variable (accounts : Accounts observed)
include accounts

theorem Accounts.replaceTargets
    (nothing : observed.supervisor.buckets.dirty = []) (facts : UpdateFacts)
    (desired : List FleetPingTarget) :
    Accounts { observed with supervisor := observed.supervisor.replaceTargets facts desired } := by
  have restarted : ∀ supervisor : Supervisor R, supervisor.buckets = observed.supervisor.buckets →
      supervisor.persistedTargetStats = observed.supervisor.persistedTargetStats →
      supervisor.stats = observed.supervisor.stats → Accounts { observed with supervisor } ∧
        Accounts { observed with supervisor := supervisor.retarget desired } := by
    intro supervisor same persisted counted
    constructor
    · exact accounts.retarget nothing same persisted (counted ▸ accounts.endpoints)
    · exact accounts.retarget nothing same persisted (balanced_retarget
        (persisted ▸ accounts.loaded) (counted ▸ accounts.endpoints) desired)
  have activated : ∀ done, Accounts { observed with supervisor :=
        (observed.supervisor.deactivate desired).activate facts.activation done } ∧
      Accounts { observed with
          supervisor := ((observed.supervisor.deactivate desired).activate facts.activation
            done).retarget desired } := by
    intro done
    apply restarted <;>
    · unfold Supervisor.activate Supervisor.deactivate
      simp only
      split <;> rfl
  unfold Supervisor.replaceTargets
  split
  · split
    · split
      · exact (activated _).2
      · exact accounts
    · exact (activated _).1
    · exact (activated _).1
    · exact (activated _).2
  · split
    · exact accounts
    · exact (restarted _ rfl rfl rfl).2

theorem Accounts.updateTargets (facts : UpdateFacts) (targets : List FleetPingTarget) :
    Accounts { observed with supervisor :=
      observed.supervisor.updateTargets floats lib settings facts targets } := by
  have flushed : Accounts { observed with supervisor :=
      (observed.supervisor.flushSummariesLocked floats lib settings facts.flush).1 } :=
    accounts.flush facts.flush
  unfold Supervisor.updateTargets
  simp only
  split
  · rename_i returned
    exact flushed.replaceTargets (accounts.dirty_flush returned) facts _
  · exact flushed

theorem Accounts.stop (facts : FlushFacts) :
    Accounts { observed with supervisor :=
      observed.supervisor.stop floats lib settings facts } := by
  have flushed : Accounts { observed with supervisor :=
      (observed.supervisor.flushSummariesLocked floats lib settings facts).1 } :=
    accounts.flush facts
  unfold Supervisor.stop
  simp only
  split
  · rename_i returned
    exact flushed.retarget (accounts.dirty_flush returned) rfl rfl flushed.endpoints
  · exact flushed

theorem Accounts.count (running : observed.supervisor.running = true)
    {sample : FpingV5Sample R} {target : FleetPingTarget}
    (here : observed.supervisor.targetAt sample.target = some target) (ignored : Bool)
    {keys : List BucketKey} (distinct : keys.Nodup)
    (own : ∀ key ∈ keys, key.targetIp = sample.target) :
    Accounts { observed with
        supervisor := observed.supervisor.count floats sample ignored keys
        history := observed.history ++ [(keys, sampleEvent sample ignored)] } where
  behind := accounts.behind.touchAll counts_statsFromSummary
    (fun stats => counts_add stats sample ignored) distinct
  endpoints := by
    intro address stats found
    simp only [Supervisor.count] at found
    by_cases this : address = sample.target
    · subst this
      rw [Function.update_self] at found
      cases found
      apply balanced_add
      cases before : observed.supervisor.stats sample.target with
      | none => exact balanced_empty
      | some stats => exact accounts.endpoints _ stats before
    · rw [Function.update_of_ne this] at found
      exact accounts.endpoints address stats found
  loaded := accounts.loaded
  buckets := by
    intro key stats found
    simp only [Supervisor.count] at found
    by_cases mem : key ∈ keys
    · rw [WriteBehind.entries_touchAll_of_mem distinct mem] at found
      cases found
      apply balanced_add
      unfold WriteBehind.current
      cases inMemory : observed.supervisor.buckets.entries key with
      | some stats => exact accounts.buckets key stats inMemory
      | none =>
        cases stored : rowAt PingSummary.key observed.supervisor.buckets.rows key with
        | none => exact ⟨rfl, rfl, Nat.le_refl 0⟩
        | some row =>
          exact balanced_statsFromSummary (accounts.rows row (mem_of_find?_eq_some stored))
    · rw [WriteBehind.entries_touchAll_of_not_mem mem] at found
      exact accounts.buckets key stats found
  rows := by
    simp only [Supervisor.count, WriteBehind.rows_touchAll]
    exact accounts.rows
  targeted := by
    intro key dirty
    rcases WriteBehind.mem_dirty_touchAll.mp dirty with before | mem
    · exact accounts.targeted key before
    · show (observed.supervisor.targetAt key.targetIp).isSome = true
      rw [own key mem, here]
      rfl
  idle := by
    intro notRunning
    cases running.symm.trans notRunning

theorem Accounts.sample (now : DateTime)
    (failure : Option SampleFailure) (received : FpingV5Sample R) :
    Accounts { observed with
        supervisor :=
          observed.supervisor.recordSample floats lib settings now failure received
        history := observed.history ++
          acceptedSample lib settings observed.supervisor now failure received } := by
  have unchanged : Accounts { observed with
        supervisor := observed.supervisor
        history := observed.history ++ [] } := by
    rw [append_nil]
    exact accounts
  unfold Supervisor.recordSample acceptedSample
  cases here : observed.supervisor.targetAt received.target with
  | none => exact unchanged
  | some target =>
    cases running : observed.supervisor.running with
    | false => exact unchanged
    | true =>
      have distinct := bucketKeys_nodup (parseSampleTs lib now received.ts) target
        received.target
      have own : ∀ key ∈ bucketKeys (parseSampleTs lib now received.ts) target received.target,
          key.targetIp = received.target := fun key => targetIp_of_mem_bucketKeys
      simp only [if_true]
      split
      · exact { unchanged with
          idle := by
            intro impossible
            cases impossible }
      · rename_i done
        exact accounts.count running here _ (distinct.sublist (take_sublist done _))
          (fun key mem => own key (mem_of_mem_take mem))
      · exact accounts.count running here _ distinct own

theorem Accounts.emptied (buckets : supervisor.buckets =
      { entries _ := none, dirty := [], rows := observed.supervisor.buckets.rows })
    (stats : supervisor.stats = fun _ => none)
    (loaded : ∀ address stats, supervisor.persistedTargetStats address = some stats →
      stats.Balanced) :
    Accounts
      { supervisor, baseline := countsIn observed.supervisor.buckets.rows, history := [] } where
  behind := by
    rw [buckets]
    exact WriteBehind.Behind.start _
  endpoints := by
    rw [stats]
    intro address counters impossible
    cases impossible
  loaded := loaded
  buckets := by
    rw [buckets]
    intro key counters impossible
    cases impossible
  rows := by
    rw [buckets]
    exact accounts.rows
  targeted := by
    rw [buckets]
    intro key impossible
    cases impossible
  idle := by
    rw [buckets]
    intro _
    rfl

omit accounts

theorem balanced_loadTargetStats {rows : List (PingSummary R)}
    (balanced : ∀ row ∈ rows, row.Balanced) (address : String) (stats : Stats R)
    (found : loadTargetStats floats rows address = some stats) : stats.Balanced := by
  unfold loadTargetStats at found
  split at found
  · cases found
  · obtain ⟨row, listed, rfl⟩ := Option.map_eq_some_iff.mp found
    apply balanced_statsFromSummary
    have mem := mem_reverse.mp (mem_of_find?_eq_some listed)
    exact balanced row (mem_of_mem_filter ((mem_insertionSort _).mp mem))

theorem Accounts.step (accounts : Accounts observed) (action : Action R) :
    Accounts (observe floats lib settings observed action) := by
  cases action with
  | newProcess =>
    apply accounts.emptied rfl rfl
    intro address stats impossible
    cases impossible
  | start persistedSampleCount =>
    unfold observe act Supervisor.start
    cases running : observed.supervisor.running with
    | true => exact accounts
    | false => exact accounts.emptied rfl rfl (balanced_loadTargetStats accounts.rows)
  | sample now failure received => exact accounts.sample now failure received
  | updateTargets facts targets => exact accounts.updateTargets facts targets
  | flushSummaries facts => exact accounts.flush facts
  | stop facts => exact accounts.stop facts

end Steps

/-- The state and the history variables after a run. -/
def observeAll (actions : List (Action R)) : Observed R :=
  actions.foldl (observe floats lib settings) initial

theorem accounts_initial : Accounts (initial : Observed R) where
  behind := WriteBehind.Behind.start []
  endpoints := by
    intro address stats impossible
    cases impossible
  loaded := by
    intro address stats impossible
    cases impossible
  buckets := by
    intro key stats impossible
    cases impossible
  rows := by
    intro row impossible
    cases impossible
  targeted := by
    intro key impossible
    cases impossible
  idle _ := rfl

theorem accounts_observeAll (actions : List (Action R)) :
    Accounts (observeAll floats lib settings actions) := by
  have run : ∀ (actions : List (Action R)) (observed : Observed R), Accounts observed →
      Accounts (actions.foldl (observe floats lib settings) observed) := by
    intro actions
    induction actions with
    | nil =>
      intro observed accounts
      exact accounts
    | cons action actions ih =>
      intro observed accounts
      exact ih _ (accounts.step action)
  exact run actions initial accounts_initial

/-- The buckets of the minute and of the day of a sample. -/
def timeBuckets (ts : DateTime) (targetIp : String) : List BucketKey :=
  let minute := { ts with second := 0, microsecond := 0 }
  let daily := { ts with hour := 0, minute := 0, second := 0, microsecond := 0 }
  [{ bucketKind := "1m", bucketStart := minute.isoformatSeconds, targetIp, apIdentity := "" },
    { bucketKind := "daily", bucketStart := daily.isoformatSeconds, targetIp, apIdentity := "" }]

/-- The next sample that is accepted and recorded counts in the buckets of its minute and of
its day, which are then pending. -/
def PlacesSamples (observed : Observed R) : Prop :=
  ∀ now received target, observed.supervisor.targetAt received.target = some target →
    observed.supervisor.running = true →
    ∀ key ∈ timeBuckets (parseSampleTs lib now received.ts) received.target,
      ∃ keys ignored, key ∈ keys ∧
        (observe floats lib settings observed (.sample now none received)).history =
          observed.history ++ [(keys, sampleEvent received ignored)] ∧
        key ∈ (observe floats lib settings observed
          (.sample now none received)).supervisor.buckets.dirty

theorem placesSamples (observed : Observed R) : PlacesSamples floats lib settings observed := by
  intro now received target here running key mem
  have among : key ∈ bucketKeys (parseSampleTs lib now received.ts) target received.target := by
    simp only [timeBuckets, mem_cons, not_mem_nil, or_false] at mem
    rcases mem with rfl | rfl <;> simp [bucketKeys]
  let ignored := observed.supervisor.ignores lib settings
    (parseSampleTs lib now received.ts) received.target
  refine ⟨_, ignored, among, by
    simp only [observe, acceptedSample, here, running, if_true, ignored],
    ?_⟩
  simp only [observe, act, Supervisor.recordSample, here, running, if_true, Supervisor.count]
  exact WriteBehind.mem_dirty_touchAll.mpr (.inr among)

/-- What a run promises about its samples. -/
structure AccountsKept (observed : Observed R) : Prop where
  /-- The counters of every endpoint add up. -/
  endpoints : ∀ address stats, observed.supervisor.stats address = some stats → stats.Balanced
  /-- A bucket in memory adds up and has counted every sample. -/
  buckets : ∀ key stats, observed.supervisor.buckets.entries key = some stats →
    stats.Balanced ∧ stats.counts =
      WriteBehind.tally Counts.add (observed.baseline key) observed.history key
  /-- A bucket that is not pending has a summary that has counted every sample. -/
  written : ∀ key, key ∉ observed.supervisor.buckets.dirty →
    countsIn observed.supervisor.buckets.rows key =
      WriteBehind.tally Counts.add (observed.baseline key) observed.history key
  /-- The next flush has a summary for every pending bucket. -/
  pending : ∀ key ∈ observed.supervisor.buckets.dirty, ∀ now,
    (observed.supervisor.summaryOf floats lib settings now key).isSome
  /-- No summary has counted a sample twice or out of turn. -/
  once : ∀ key, ∃ seen, seen <+: observed.history ∧
    countsIn observed.supervisor.buckets.rows key =
      WriteBehind.tally Counts.add (observed.baseline key) seen key
  /-- After a flush that returns every summary has counted every sample. -/
  flushed : ∀ facts,
    (observed.supervisor.flushSummariesLocked floats lib settings facts).2 = true → ∀ key,
    countsIn (observed.supervisor.flushSummariesLocked floats lib settings facts).1.buckets.rows
        key =
      WriteBehind.tally Counts.add (observed.baseline key) observed.history key
  placed : PlacesSamples floats lib settings observed

/-- In every run the counters agree with the samples that were accepted, and so do the rows. -/
theorem accounts_kept (actions : List (Action R)) :
    AccountsKept floats lib settings (observeAll floats lib settings actions) := by
  have accounts := accounts_observeAll floats lib settings actions
  refine ⟨accounts.endpoints, ?_, accounts.behind.clean,
    fun key dirty now => accounts.summaryOf_isSome dirty now, accounts.behind.behind, ?_,
    placesSamples floats lib settings _⟩
  · intro key stats found
    exact ⟨accounts.buckets key stats found, accounts.behind.memory key stats found⟩
  · intro facts returned key
    apply (accounts.flush facts).behind.clean key
    rw [accounts.dirty_flush returned]
    exact not_mem_nil

end Runs

end NetConsole.FleetPing
