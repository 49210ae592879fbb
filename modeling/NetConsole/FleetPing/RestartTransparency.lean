import NetConsole.FleetPing.AccountingRuns
import NetConsole.Foundations.Streaks

/-!
# Restarts in the middle of a run

The supervisor hears the samples of an endpoint, flushes at any time, and is stopped and
started again in the middle. What it has counted for the endpoint is then what the daily
summary of one day says, without the loss streak that was going on.

So the counters go on as without the restart exactly where everything that was heard
before lies on one day, and the loss streak across the restart is not longer than those
before and after it (`restart_transparent_iff`).
-/

set_option autoImplicit false

namespace NetConsole.FleetPing

open Foundations List Option Function

/-! ## Counters -/

/-- The counters of an endpoint. -/
structure EndpointCounters where
  (sent success loss ignored continuousLossMax : Nat)
  deriving DecidableEq

/-- What is counted, with the streaks of losses. -/
structure Tally where
  counts : Counts
  losses : Streak
  deriving DecidableEq

/-- The samples that are not ignored, as losses. -/
def lossesOf (events : List SampleEvent) : List Bool :=
  (events.filter fun event => !event.ignored).map fun event => !event.ok

theorem lossesOf_append (one two : List SampleEvent) :
    lossesOf (one ++ two) = lossesOf one ++ lossesOf two := by
  unfold lossesOf
  rw [filter_append, map_append]

namespace Tally

def zero : Tally := ⟨⟨0, 0, 0, 0, 0⟩, .zero⟩

def add (tally : Tally) (event : SampleEvent) : Tally :=
  ⟨tally.counts.add event, tally.losses.scan (lossesOf [event])⟩

def addAll (tally : Tally) (events : List SampleEvent) : Tally := events.foldl add tally

/-- What a summary says of a tally. -/
def restored (tally : Tally) : Tally := ⟨tally.counts, tally.losses.forget⟩

def counters (tally : Tally) : EndpointCounters :=
  { sent := tally.counts.sent, success := tally.counts.success, loss := tally.counts.loss
    ignored := tally.counts.ignored, continuousLossMax := tally.losses.longest }

variable (tally : Tally)

theorem addAll_append (one two : List SampleEvent) :
    tally.addAll (one ++ two) = (tally.addAll one).addAll two :=
  foldl_append

variable (events : List SampleEvent)

theorem counts_addAll : (tally.addAll events).counts = events.foldl Counts.add tally.counts := by
  induction events generalizing tally with
  | nil => rfl
  | cons event _ ih => exact ih (tally.add event)

theorem losses_addAll : (tally.addAll events).losses = tally.losses.scan (lossesOf events) := by
  induction events generalizing tally with
  | nil => rfl
  | cons event events ih =>
    have parts : lossesOf (event :: events) = lossesOf [event] ++ lossesOf events :=
      lossesOf_append [event] events
    rw [parts, Streak.scan_append]
    exact ih (tally.add event)

theorem sent_add_ignored :
    (tally.addAll events).counts.sent + (tally.addAll events).counts.ignored =
      tally.counts.sent + tally.counts.ignored + events.length := by
  induction events generalizing tally with
  | nil => rfl
  | cons event events ih =>
    refine (ih (tally.add event)).trans ?_
    show tally.counts.sent + (if event.ignored then 0 else 1) +
      (tally.counts.ignored + (if event.ignored then 1 else 0)) + events.length = _
    rw [length_cons]
    split <;> omega

/-- After a cut the tally goes on, except for a streak across it. -/
theorem restored_counters_iff (before after : List SampleEvent) :
    ((zero.addAll before).restored.addAll after).counters =
        (zero.addAll (before ++ after)).counters ↔
      trailingStreak (lossesOf before) + leadingStreak (lossesOf after) ≤
        max (longestStreak (lossesOf before)) (longestStreak (lossesOf after)) := by
  have counts : ((zero.addAll before).restored.addAll after).counts =
      (zero.addAll (before ++ after)).counts := by
    rw [counts_addAll, addAll_append, counts_addAll (zero.addAll before)]
    rfl
  rw [← forgotten_longest_iff, ← lossesOf_append]
  have one : ((zero.addAll before).restored.addAll after).losses =
      ((Streak.zero.scan (lossesOf before)).forget).scan (lossesOf after) := by
    rw [losses_addAll]
    show ((zero.addAll before).losses.forget).scan _ = _
    rw [losses_addAll]
    rfl
  have two : (zero.addAll (before ++ after)).losses =
      Streak.zero.scan (lossesOf (before ++ after)) := losses_addAll zero _
  rw [← one, ← two]
  unfold counters
  rw [counts, EndpointCounters.mk.injEq]
  exact ⟨fun same => same.2.2.2.2, fun same => ⟨rfl, rfl, rfl, rfl, same⟩⟩

end Tally

section Values

variable {R : Type} {floats : FloatArithmetic R}

def Stats.tally (stats : Stats R) : Tally := ⟨stats.counts, ⟨stats.currentLoss, stats.maxLoss⟩⟩

theorem tally_addRtt (stats : Stats R) (rtt : Option R) :
    (stats.addRtt floats rtt).tally = stats.tally := by
  cases rtt <;> rfl

theorem tally_add (stats : Stats R) (sample : FpingV5Sample R) (ignored : Bool) :
    (stats.add floats sample ignored).tally = stats.tally.add (sampleEvent sample ignored) := by
  have losses : (stats.add floats sample ignored).tally.losses =
      (stats.tally.add (sampleEvent sample ignored)).losses := by
    unfold Stats.add sampleEvent
    cases ignored with
    | true => rfl
    | false =>
      by_cases answered : sample.ok = some true
      · simp only [answered, Bool.false_eq_true, if_false, if_true, tally_addRtt]
        rfl
      · simp only [answered, Bool.false_eq_true]
        rfl
  rw [Tally.mk.injEq]
  exact ⟨counts_add stats sample ignored, losses⟩

/-- What a summary says of the counters of an endpoint. -/
def Stores (floats : FloatArithmetic R) (row : PingSummary R) (stats : Stats R) : Prop :=
  (statsFromSummary floats (some row)).tally = stats.tally.restored

end Values

/-! ## What is heard of an endpoint -/

/-- A sample is received, or the summaries are flushed. -/
inductive Tick (R : Type)
  | sample (now : DateTime) (received : FpingV5Sample R)
  | flushSummaries (facts : FlushFacts)

def Tick.action {R : Type} : Tick R → Action R
  | .sample now received => .sample now none received
  | .flushSummaries facts => .flushSummaries facts

/-- A sample of an endpoint: its day, and what is counted. -/
structure Heard where
  day : String
  event : SampleEvent
  deriving DecidableEq

/-- The start of the daily bucket of a time. -/
def dayOf (ts : DateTime) : String :=
  DateTime.isoformatSeconds { ts with hour := 0, minute := 0, second := 0, microsecond := 0 }

/-- The daily bucket of an endpoint. -/
def dailyKey (address day : String) : BucketKey :=
  { bucketKind := "daily", bucketStart := day, targetIp := address, apIdentity := "" }

theorem mem_bucketKeys_daily {ts : DateTime} {target : FleetPingTarget} {targetIp : String}
    {key : BucketKey} (daily : key.bucketKind = "daily") :
    key ∈ bucketKeys ts target targetIp ↔ key = dailyKey targetIp (dayOf ts) := by
  unfold bucketKeys
  simp only [mem_cons, not_mem_nil, or_false]
  constructor
  · rintro (rfl | rfl | rfl | rfl | rfl)
    · exact absurd daily (by simp)
    · exact absurd daily (by simp)
    · exact absurd daily (by simp)
    · exact absurd daily (by simp)
    · rfl
  · rintro rfl
    exact .inr (.inr (.inr (.inr rfl)))

section Hearing

variable {R : Type} (floats : FloatArithmetic R) (lib : TimeLibrary) (settings : PingSettings)
  (address activatedAt : String)

/-- What a tick says of an endpoint that is a target since some time. -/
def Tick.heard : Tick R → List Heard
  | .sample now received =>
    if received.target = address then
      let ts := parseSampleTs lib now received.ts
      [⟨dayOf ts, sampleEvent received (isWarmup lib settings ts activatedAt)⟩]
    else []
  | .flushSummaries _ => []

/-- What the ticks tell of an endpoint. -/
def heardIn (ticks : List (Tick R)) : List Heard :=
  ticks.flatMap (Tick.heard lib settings address activatedAt)

/-- What is heard of an endpoint on a day. -/
def heardOn (heard : List Heard) (day : String) : List SampleEvent :=
  (heard.filter fun one => one.day = day).map (·.event)

/-- The supervisor hears the endpoint, from a tally on. -/
structure Hearing (start : Tally) (heard : List Heard) (supervisor : Supervisor R) : Prop where
  running : supervisor.running = true
  started : supervisor.startedAt address = some activatedAt
  targeted : (supervisor.targetAt address).isSome = true
  endpoint : ((supervisor.stats address).getD (Stats.empty floats)).tally =
    start.addAll (heard.map (·.event))

variable {floats lib settings address activatedAt}

variable (lib settings) in
theorem exists_flushed (facts : FlushFacts) (supervisor : Supervisor R) :
    ∃ buckets, (supervisor.flushSummariesLocked floats lib settings facts).1 =
      { supervisor with buckets } := by
  unfold Supervisor.flushSummariesLocked
  split
  · exact ⟨_, rfl⟩
  · exact ⟨supervisor.buckets, rfl⟩

variable {supervisor : Supervisor R} {heard : List Heard}

variable (lib settings) in
/-- A tick changes nothing and says nothing of the endpoint, or it is a flush, or it counts a
sample, which is one of the endpoint or of another. -/
theorem Hearing.tick_cases {start : Tally}
    (hearing : Hearing floats address activatedAt start heard supervisor) (tick : Tick R) :
    tick.heard lib settings address activatedAt = [] ∧
        act floats lib settings supervisor tick.action = supervisor ∨
      tick.heard lib settings address activatedAt = [] ∧
        (∃ facts, act floats lib settings supervisor tick.action =
          (supervisor.flushSummariesLocked floats lib settings facts).1) ∨
      ∃ (sample : FpingV5Sample R) (ignored : Bool) (ts : DateTime) (target : FleetPingTarget),
        tick.heard lib settings address activatedAt =
            (if sample.target = address then [⟨dayOf ts, sampleEvent sample ignored⟩] else []) ∧
          act floats lib settings supervisor tick.action =
            supervisor.count floats sample ignored (bucketKeys ts target sample.target) := by
  cases tick with
  | flushSummaries facts => exact .inr (.inl ⟨rfl, facts, rfl⟩)
  | sample now received =>
    have recorded : act floats lib settings supervisor (Tick.sample now received).action =
        supervisor.recordSample _ _ _ now none received := rfl
    have said : (Tick.sample now received).heard lib settings address activatedAt =
        if received.target = address then
          [⟨dayOf (parseSampleTs _ now received.ts), sampleEvent received
            (isWarmup _ _ (parseSampleTs _ now received.ts) _)⟩]
        else [] := rfl
    rw [recorded, said]
    unfold Supervisor.recordSample
    cases found : supervisor.targetAt received.target with
    | none =>
      have other : received.target ≠ address := by
        intro same
        have targeted := hearing.targeted
        rw [← same, found] at targeted
        cases targeted
      exact .inl ⟨if_neg other, rfl⟩
    | some target =>
      rw [hearing.running]
      refine .inr (.inr ⟨received, _, _, target, ?_, rfl⟩)
      by_cases same : received.target = address
      · unfold Supervisor.ignores
        rw [if_pos same, if_pos same, same, hearing.started]
        rfl
      · rw [if_neg same, if_neg same]

theorem Hearing.count {start : Tally}
    (hearing : Hearing floats address activatedAt start heard supervisor) (sample : FpingV5Sample R)
    (ignored : Bool) (keys : List BucketKey) (day : String) :
    Hearing floats address activatedAt start
      (heard ++ if sample.target = address then [⟨day, sampleEvent sample ignored⟩] else [])
      (supervisor.count floats sample ignored keys) where
  running := hearing.running
  started := hearing.started
  targeted := hearing.targeted
  endpoint := by
    show ((Function.update supervisor.stats sample.target _ _).getD _).tally = _
    by_cases same : sample.target = address
    · rw [if_pos same, same, update_self, getD_some, tally_add, hearing.endpoint,
        map_append, Tally.addAll_append]
      rfl
    · rw [if_neg same, update_of_ne (Ne.symm same), append_nil]
      exact hearing.endpoint

variable (lib settings) in
theorem Hearing.tick {start : Tally}
    (hearing : Hearing floats address activatedAt start heard supervisor) (tick : Tick R) :
    Hearing floats address activatedAt start (heard ++ tick.heard lib settings address activatedAt)
      (act floats lib settings supervisor tick.action) := by
  rcases hearing.tick_cases _ _ tick with
    ⟨nothing, same⟩ | ⟨nothing, facts, same⟩ | ⟨sample, ignored, ts, target, said, same⟩
  · rw [nothing, same, append_nil]
    exact hearing
  · obtain ⟨_, flushed⟩ := exists_flushed _ _ facts supervisor
    rw [nothing, same, append_nil, flushed]
    exact ⟨hearing.running, hearing.started, hearing.targeted, hearing.endpoint⟩
  · rw [said, same]
    exact hearing.count sample ignored _ _

/-- What the daily bucket of an endpoint has counted; nothing where there is none. -/
def dayTally (heard : List Heard) (day : String) : Option Tally :=
  if heardOn heard day = [] then none else some (Tally.zero.addAll (heardOn heard day))

/-- The daily buckets of an endpoint have counted what is heard of it, and the table has been
filled from the buckets. -/
structure Recording (floats : FloatArithmetic R) (address : String) (heard : List Heard)
    (supervisor : Supervisor R) : Prop where
  filling : supervisor.buckets.Filling PingSummary.key (Stores floats)
  days : ∀ day, (supervisor.buckets.entries (dailyKey address day)).map Stats.tally =
    dayTally heard day
  plain : ∀ key stats, supervisor.buckets.entries key = some stats → key.bucketKind = "daily" →
    key = dailyKey key.targetIp key.bucketStart

variable (recording : Recording floats address heard supervisor)
include recording

theorem Recording.current (day : String) : ((supervisor.buckets.entries (dailyKey address day)).getD
      (statsFromSummary floats none)).tally = Tally.zero.addAll (heardOn heard day) := by
  have counted := recording.days day
  unfold dayTally at counted
  cases found : supervisor.buckets.entries (dailyKey address day) with
  | none =>
    rw [found] at counted
    split at counted
    · rename_i nothing
      rw [nothing]
      rfl
    · cases counted
  | some stats =>
    rw [found] at counted
    split at counted
    · cases counted
    · exact some.inj counted

omit recording in
theorem heardOn_append (heard more : List Heard) (day : String) :
    heardOn (heard ++ more) day = heardOn heard day ++ heardOn more day := by
  unfold heardOn
  rw [filter_append, map_append]

theorem Recording.entries_count
    (sample : FpingV5Sample R) (ignored : Bool) (ts : DateTime) (target : FleetPingTarget)
    (key : BucketKey) :
    (supervisor.count floats sample ignored (bucketKeys ts target sample.target)).buckets.entries
        key =
      if key ∈ bucketKeys ts target sample.target then
        some (((supervisor.buckets.entries key).getD (statsFromSummary floats none)).add floats
          sample ignored)
      else supervisor.buckets.entries key :=
  recording.filling.entries_touchAll (bucketKeys_nodup ts target sample.target) key

theorem Recording.count
    (sample : FpingV5Sample R) (ignored : Bool) (ts : DateTime) (target : FleetPingTarget) :
    Recording floats address
      (heard ++ if sample.target = address then [⟨dayOf ts, sampleEvent sample ignored⟩] else [])
      (supervisor.count floats sample ignored (bucketKeys ts target sample.target)) where
  filling := recording.filling.touchAll (bucketKeys_nodup ts target sample.target)
  days := by
    intro day
    have entry := recording.entries_count sample ignored ts target (dailyKey address day)
    have touched : dailyKey address day ∈ bucketKeys ts target sample.target ↔
        sample.target = address ∧ dayOf ts = day := by
      rw [mem_bucketKeys_daily rfl]
      rw [BucketKey.mk.injEq]
      exact ⟨fun same => ⟨same.2.2.1.symm, same.2.1.symm⟩,
        fun same => ⟨rfl, same.2.symm, same.1.symm, rfl⟩⟩
    refine (congrArg (Option.map Stats.tally) entry).trans ?_
    by_cases mine : sample.target = address ∧ dayOf ts = day
    · have more : heardOn (heard ++ [⟨dayOf ts, sampleEvent sample ignored⟩]) day =
          heardOn heard day ++ [sampleEvent sample ignored] := by
        rw [heardOn_append]
        unfold heardOn
        rw [filter_cons_of_pos (by simpa using mine.2)]
        rfl
      rw [if_pos (touched.mpr mine), if_pos mine.1]
      unfold dayTally
      rw [more, if_neg (append_ne_nil_of_right_ne_nil _ (cons_ne_nil _ _)),
        map_some, tally_add, recording.current, Tally.addAll_append]
      rfl
    · have more : heardOn (heard ++ if sample.target = address then
          [⟨dayOf ts, sampleEvent sample ignored⟩] else []) day = heardOn heard day := by
        rw [heardOn_append]
        split
        · rename_i same
          have otherDay : dayOf ts ≠ day := fun sameDay => mine ⟨same, sameDay⟩
          unfold heardOn
          rw [filter_cons_of_neg (a := (⟨dayOf ts, sampleEvent sample ignored⟩ : Heard))
            (by simpa using otherDay)]
          exact append_nil _
        · exact append_nil _
      rw [if_neg (mt touched.mp mine), recording.days]
      unfold dayTally
      rw [more]
  plain := by
    intro key stats found daily
    rw [recording.entries_count] at found
    split at found
    · rename_i mem
      rw [(mem_bucketKeys_daily daily).mp mem]
      rfl
    · exact recording.plain key stats found daily

variable (lib settings) in
theorem Recording.flush (facts : FlushFacts) : Recording floats address heard
      (supervisor.flushSummariesLocked floats lib settings facts).1 := by
  unfold Supervisor.flushSummariesLocked
  split
  · have entries : (supervisor.buckets.flush PingSummary.key facts.outcome
        (supervisor.summaryOf floats lib settings facts.now)
        (facts.order.order supervisor.buckets.dirty)).1.entries = supervisor.buckets.entries := by
      unfold WriteBehind.flush
      simp only
      split <;> rfl
    refine ⟨recording.filling.flush summaryOf_key ?_ _, ?_, ?_⟩
    · intro key row found
      obtain ⟨_, stats, -, inMemory, rfl⟩ := summaryOf_eq_some found
      exact ⟨stats, inMemory, rfl⟩
    · intro day
      refine Eq.trans ?_ (recording.days day)
      exact congrArg (fun entries => (entries (dailyKey address day)).map Stats.tally) entries
    · intro key stats found
      exact recording.plain key stats ((congrFun entries key).symm.trans found)
  · exact recording

end Hearing

/-! ## Starts and stops -/

/-- A start of the run, and its targets. -/
structure RunStart where
  persistedSampleCount : Nat
  facts : UpdateFacts
  targets : List FleetPingTarget

/-- The actions with which a run starts. -/
def RunStart.actions {R : Type} (opening : RunStart) : List (Action R) :=
  [.start opening.persistedSampleCount, .updateTargets opening.facts opening.targets]

/-- The update does not fail, and the endpoint is one of the targets. -/
structure RunStart.Watches (opening : RunStart) (address : String) : Prop where
  returns : opening.facts.failure = none
  named : address ≠ ""
  listed : ∃ target ∈ opening.targets, target.targetIp = address

section Openings

variable {R : Type} {floats : FloatArithmetic R} {lib : TimeLibrary} {settings : PingSettings}
  {address : String}

theorem rowAt_desiredTargets {targets : List FleetPingTarget} (named : address ≠ "")
    (listed : ∃ target ∈ targets, target.targetIp = address) :
    (rowAt FleetPingTarget.targetIp (desiredTargets targets) address).isSome = true := by
  have placed : ∀ (targets rows : List FleetPingTarget),
      (rowAt FleetPingTarget.targetIp rows address).isSome = true ∨
          (∃ target ∈ targets, target.targetIp = address) →
        (rowAt FleetPingTarget.targetIp (targets.foldl (upsertRow FleetPingTarget.targetIp) rows)
          address).isSome = true := by
    intro targets
    induction targets with
    | nil =>
      intro rows there
      exact there.resolve_right fun ⟨_, mem, _⟩ => nomatch mem
    | cons first rest ih =>
      intro rows there
      apply ih
      rw [rowAt_upsertRow]
      by_cases here : first.targetIp = address
      · rw [if_pos here]
        exact .inl rfl
      · rw [if_neg here]
        refine there.imp id ?_
        rintro ⟨target, mem, same⟩
        rcases mem_cons.mp mem with rfl | later
        · exact absurd same here
        · exact ⟨target, later, same⟩
  obtain ⟨target, mem, same⟩ := listed
  have kept : target ∈ targets.filter fun item => item.targetIp ≠ "" :=
    mem_filter.mpr ⟨mem, by simpa [same] using named⟩
  exact placed _ [] (.inr ⟨target, kept, same⟩)

theorem startedAt_activate {desired : List FleetPingTarget} (activation : String → String)
    (supervisor : Supervisor R) (listed : hasRow FleetPingTarget.targetIp desired address = true) :
    (supervisor.activate activation desired).startedAt address = some (activation address) := by
  have started : ∀ (desired : List FleetPingTarget) (before : String → Option String),
      before address = some (activation address) ∨
          hasRow FleetPingTarget.targetIp desired address = true →
        desired.foldl (fun (started : String → Option String) target =>
          Function.update started target.targetIp (some (activation target.targetIp)))
            before address = some (activation address) := by
    intro desired
    induction desired with
    | nil =>
      intro before there
      exact there.resolve_right (by simp [hasRow])
    | cons first rest ih =>
      intro before there
      apply ih
      dsimp only
      by_cases here : address = first.targetIp
      · rw [← here, update_self]
        exact .inl rfl
      · rw [update_of_ne here]
        refine there.imp id fun mem => ?_
        have other : decide (first.targetIp = address) = false := decide_eq_false (Ne.symm here)
        have split : (decide (first.targetIp = address) ||
            hasRow FleetPingTarget.targetIp rest address) = true := mem
        rw [other, Bool.false_or] at split
        exact split
  exact started desired supervisor.startedAt (.inr listed)

variable (floats lib settings) in
theorem opened {opening : RunStart} (watches : opening.Watches address)
    (rows : List (PingSummary R)) : Hearing floats address (opening.facts.activation address)
        ((loadTargetStats floats rows address).getD (Stats.empty floats)).tally []
        (opening.actions.foldl (act floats lib settings) (newSupervisor rows)) ∧
      (opening.actions.foldl (act floats lib settings) (newSupervisor rows)).buckets =
        { entries _ := none, dirty := [], rows } := by
  have there := rowAt_desiredTargets watches.named watches.listed
  have listed : hasRow FleetPingTarget.targetIp
      (desiredTargets opening.targets) address = true := by
    rw [← isSome_rowAt]
    exact there
  have done : opening.actions.foldl (act floats lib settings) (newSupervisor rows) =
      ((((newSupervisor rows).start floats opening.persistedSampleCount).deactivate
        (desiredTargets opening.targets)).activate opening.facts.activation
          (desiredTargets opening.targets)).retarget (desiredTargets opening.targets) := by
    show ((newSupervisor rows).start floats opening.persistedSampleCount).updateTargets floats
      lib settings opening.facts opening.targets = _
    unfold Supervisor.updateTargets Supervisor.replaceTargets
    rw [watches.returns]
    rfl
  have kept : (((newSupervisor rows).start floats opening.persistedSampleCount).deactivate
      (desiredTargets opening.targets)) =
        (newSupervisor rows).start floats opening.persistedSampleCount := rfl
  rw [done, kept]
  refine ⟨⟨rfl, startedAt_activate _ _ listed, there, ?_⟩, rfl⟩
  show ((continueStats (desiredTargets opening.targets) (loadTargetStats floats rows)
    (fun _ => none) address).getD _).tally = _
  unfold continueStats
  rw [if_pos ⟨listed, rfl⟩]
  rfl

variable (floats) in
theorem loadTargetStats_cases (named : address ≠ "") (rows : List (PingSummary R)) :
    (loadTargetStats floats rows address = none ∧
        ∀ row ∈ rows, row.bucketKind = "daily" → row.targetIp ≠ address) ∨
      ∃ row ∈ rows, row.bucketKind = "daily" ∧ row.targetIp = address ∧
        loadTargetStats floats rows address = some (statsFromSummary floats (some row)) := by
  have listed : ∀ row, row ∈ (listPingSummaries rows).reverse ↔
      row ∈ rows ∧ row.bucketKind = "daily" := by
    intro row
    unfold listPingSummaries
    rw [mem_reverse, mem_insertionSort, mem_filter, decide_eq_true_iff]
  unfold loadTargetStats
  rw [if_neg named]
  cases found : (listPingSummaries rows).reverse.find? fun row => row.targetIp = address with
  | none =>
    refine .inl ⟨rfl, ?_⟩
    intro row mem daily mine
    have missed := List.find?_eq_none.mp found row ((listed row).mpr ⟨mem, daily⟩)
    exact missed (decide_eq_true mine)
  | some row =>
    obtain ⟨mem, daily⟩ := (listed row).mp (mem_of_find?_eq_some found)
    exact .inr ⟨row, mem, daily, by simpa using List.find?_some found, rfl⟩

theorem Recording.loaded {heard : List Heard} {supervisor : Supervisor R}
    (recording : Recording floats address heard supervisor) (named : address ≠ "")
    (nothing : supervisor.buckets.dirty = []) :
    heard = [] ∧ ((loadTargetStats floats supervisor.buckets.rows address).getD
        (Stats.empty floats)).tally = .zero ∨
      ∃ day, heardOn heard day ≠ [] ∧ ((loadTargetStats floats supervisor.buckets.rows address).getD
          (Stats.empty floats)).tally = (Tally.zero.addAll (heardOn heard day)).restored := by
  rcases loadTargetStats_cases _ named supervisor.buckets.rows with
    ⟨unknown, absent⟩ | ⟨row, mem, daily, mine, loaded⟩
  · left
    rw [unknown]
    refine ⟨?_, rfl⟩
    rw [eq_nil_iff_forall_not_mem]
    intro one listed
    have counted : dayTally heard one.day ≠ none := by
      unfold dayTally
      rw [if_neg]
      · exact some_ne_none _
      · have there : one.event ∈ heardOn heard one.day :=
          mem_map.mpr ⟨one, mem_filter.mpr ⟨listed, decide_eq_true rfl⟩, rfl⟩
        exact ne_nil_of_mem there
    rw [← recording.days] at counted
    obtain ⟨tally, found⟩ := ne_none_iff_exists'.mp counted
    obtain ⟨stats, inMemory, -⟩ := map_eq_some_iff.mp found
    obtain ⟨row, placed, -⟩ := recording.filling.clean _ stats inMemory (nothing ▸ not_mem_nil)
    have key : row.key = dailyKey address one.day := by simpa using List.find?_some placed
    exact absent row (mem_of_find?_eq_some placed) (congrArg BucketKey.bucketKind key)
      (congrArg BucketKey.targetIp key)
  · right
    rw [loaded]
    obtain ⟨stats, inMemory, stored⟩ := recording.filling.stored_of_mem nothing mem
    have key : row.key = dailyKey address row.bucketStart := by
      rw [← mine]
      exact recording.plain _ stats inMemory daily
    have counted := recording.days row.bucketStart
    rw [← key, inMemory] at counted
    unfold dayTally at counted
    split at counted
    · cases counted
    · rename_i some'
      refine ⟨row.bucketStart, some', ?_⟩
      rw [← some.inj counted]
      exact stored

end Openings

/-! ## Runs with a cut -/

section Runs

variable {R : Type} (floats : FloatArithmetic R) (lib : TimeLibrary) (settings : PingSettings)

/-- The supervisor after some actions. -/
def runActions (actions : List (Action R)) : Supervisor R :=
  actions.foldl (act floats lib settings) (newSupervisor [])

/-- The counters that are shown of an endpoint. -/
def Supervisor.countersOf (supervisor : Supervisor R) (address : String) : EndpointCounters :=
  ((supervisor.stats address).getD (Stats.empty floats)).tally.counters

/-- What is heard before a cut is of one day, and the losses across the cut are no longer
streak than those before and after. -/
def SurvivesCut (before after : List Heard) : Prop :=
  (∀ one ∈ before, ∀ two ∈ before, one.day = two.day) ∧
    trailingStreak (lossesOf (before.map (·.event))) +
        leadingStreak (lossesOf (after.map (·.event))) ≤
      max (longestStreak (lossesOf (before.map (·.event))))
        (longestStreak (lossesOf (after.map (·.event))))

variable {floats lib settings} {address : String}

theorem supervisor_observeAll (actions : List (Action R)) :
    (observeAll floats lib settings actions).supervisor =
      runActions floats lib settings actions := by
  have observed : ∀ (actions : List (Action R)) (start : Observed R),
      (actions.foldl (observe floats lib settings) start).supervisor =
        actions.foldl (act floats lib settings) start.supervisor := by
    intro actions
    induction actions with
    | nil => exact fun _ => rfl
    | cons action actions ih =>
      intro start
      refine (ih _).trans (congrArg (actions.foldl (act floats lib settings)) ?_)
      unfold observe
      cases action with
      | start count =>
        dsimp only
        split <;> rfl
      | _ => rfl
  exact observed actions initial

variable {supervisor : Supervisor R} {activatedAt : String} {start : Tally} {heard : List Heard}

variable (lib settings) in
theorem Hearing.run (hearing : Hearing floats address activatedAt start heard supervisor)
    (ticks : List (Tick R)) : Hearing floats address activatedAt start
      (heard ++ heardIn lib settings address activatedAt ticks)
      ((ticks.map Tick.action).foldl (act floats lib settings) supervisor) := by
  induction ticks generalizing heard supervisor with
  | nil =>
    unfold heardIn
    rw [flatMap_nil, append_nil]
    exact hearing
  | cons tick ticks ih =>
    have rest := ih (hearing.tick lib settings tick)
    rw [append_assoc] at rest
    exact rest

variable (lib settings) in
theorem Recording.run (hearing : Hearing floats address activatedAt start heard supervisor)
    (recording : Recording floats address heard supervisor) (ticks : List (Tick R)) :
    Recording floats address (heard ++ heardIn lib settings address activatedAt ticks)
      ((ticks.map Tick.action).foldl (act floats lib settings) supervisor) := by
  induction ticks generalizing heard supervisor with
  | nil =>
    unfold heardIn
    rw [flatMap_nil, append_nil]
    exact recording
  | cons tick ticks ih =>
    have next : Recording floats address (heard ++ tick.heard lib settings address activatedAt)
        (act floats lib settings supervisor tick.action) := by
      rcases hearing.tick_cases _ _ tick with
        ⟨nothing, same⟩ | ⟨nothing, facts, same⟩ | ⟨sample, ignored, ts, target, said, same⟩
      · rw [nothing, same, append_nil]
        exact recording
      · rw [nothing, same, append_nil]
        exact recording.flush _ _ facts
      · rw [said, same]
        exact recording.count sample ignored ts target
    have rest := ih (hearing.tick _ _ tick) next
    rw [append_assoc] at rest
    exact rest

theorem Tally.counters_ne_of_fewer {part before after : List SampleEvent}
    (fewer : part.length < before.length) : ((zero.addAll part).restored.addAll after).counters ≠
      (zero.addAll (before ++ after)).counters := by
  intro same
  have sent : _ = (zero.addAll (before ++ after)).counts.sent :=
    congrArg EndpointCounters.sent same
  have ignored : _ = (zero.addAll (before ++ after)).counts.ignored :=
    congrArg EndpointCounters.ignored same
  have whole := sent_add_ignored zero (before ++ after)
  rw [← sent, ← ignored, length_append] at whole
  have first : (zero.addAll part).restored.counts.sent +
      (zero.addAll part).restored.counts.ignored =
      0 + 0 + part.length := sent_add_ignored zero part
  have cut : ((zero.addAll part).restored.addAll after).counters.sent +
      ((zero.addAll part).restored.addAll after).counters.ignored = _ :=
    sent_add_ignored (zero.addAll part).restored after
  omega

/-- Going on from what one day says gives the counters of the whole exactly where the cut is
survived. -/
theorem resumed_counters_iff {before after : List Heard} (loaded : before = [] ∧ start = .zero ∨
      ∃ day, heardOn before day ≠ [] ∧ start = (Tally.zero.addAll (heardOn before day)).restored) :
    (start.addAll (after.map (·.event))).counters =
        (Tally.zero.addAll ((before ++ after).map (·.event))).counters ↔
      SurvivesCut before after := by
  rw [map_append]
  rcases loaded with ⟨rfl, rfl⟩ | ⟨day, some', rfl⟩
  · refine iff_of_true rfl ⟨fun _ mem => absurd mem not_mem_nil, ?_⟩
    exact (Nat.zero_add _).trans_le ((leading_le_longest _).trans (Nat.le_max_right _ _))
  · obtain ⟨event, there⟩ := exists_mem_of_ne_nil _ some'
    obtain ⟨known, listed, -⟩ := mem_map.mp there
    obtain ⟨mem, onDay⟩ := mem_filter.mp listed
    have knownDay : known.day = day := of_decide_eq_true onDay
    by_cases sameDay : ∀ one ∈ before, ∀ two ∈ before, one.day = two.day
    · have all : heardOn before day = before.map (·.event) := by
        unfold heardOn
        rw [filter_eq_self.mpr]
        intro one one_mem
        exact decide_eq_true ((sameDay one one_mem known mem).trans knownDay)
      rw [all, Tally.restored_counters_iff]
      exact (and_iff_right sameDay).symm
    · refine iff_of_false (Tally.counters_ne_of_fewer ?_) fun survives => sameDay survives.1
      unfold heardOn
      rw [length_map, length_map]
      refine lt_of_le_of_ne (length_filter_le _ _) ?_
      intro equal
      have kept : ∀ one ∈ before, one.day = day := fun one one_mem =>
        of_decide_eq_true (length_filter_eq_length_iff.mp equal one one_mem)
      exact sameDay fun one one_mem two two_mem =>
        (kept one one_mem).trans (kept two two_mem).symm

theorem tally_loadTargetStats_nil :
    ((loadTargetStats floats [] address).getD (Stats.empty floats)).tally = .zero := by
  unfold loadTargetStats
  split <;> rfl

theorem stopped {facts : FlushFacts}
    (persists : (supervisor.flushSummariesLocked floats lib settings facts).2 = true) :
    [.stop facts, .newProcess].foldl (act floats lib settings) supervisor = newSupervisor
        (supervisor.flushSummariesLocked floats lib settings facts).1.buckets.rows := by
  show newSupervisor (supervisor.stop _ _ _ facts).buckets.rows = _
  unfold Supervisor.stop
  rw [if_pos persists]

theorem Hearing.countersOf (hearing : Hearing floats address activatedAt start heard supervisor) :
    supervisor.countersOf floats address = (start.addAll (heard.map (·.event))).counters :=
  congrArg Tally.counters hearing.endpoint

variable (floats lib settings) in
/-- The first process hears and records the endpoint from the beginning. -/
theorem opened_empty {opening : RunStart} (watches : opening.Watches address) :
    Hearing floats address (opening.facts.activation address) .zero []
        (opening.actions.foldl (act floats lib settings) (newSupervisor [])) ∧
      Recording floats address []
        (opening.actions.foldl (act floats lib settings) (newSupervisor [])) := by
  obtain ⟨hearing, empty⟩ := opened _ _ _ watches []
  rw [tally_loadTargetStats_nil] at hearing
  refine ⟨hearing, ?_, ?_, ?_⟩
  · rw [empty]
    exact .start
  · rw [empty]
    exact fun _ => rfl
  · rw [empty]
    exact fun _ _ found => nomatch found

/-- The counters of an endpoint go on behind a restart as without it exactly where what was
heard before is of one day, and no streak of losses across the restart is longer than
those before and after. -/
theorem restart_transparent_iff {opening reopening : RunStart} {before after : List (Tick R)}
    {facts : FlushFacts} (watches : opening.Watches address)
    (watchesAgain : reopening.Watches address)
    (active : reopening.facts.activation address = opening.facts.activation address)
    (persists : ((runActions floats lib settings
      (opening.actions ++ before.map Tick.action)).flushSummariesLocked floats lib settings
        facts).2 = true) :
    (runActions floats lib settings (opening.actions ++ before.map Tick.action ++
          [.stop facts, .newProcess] ++ reopening.actions ++ after.map Tick.action)).countersOf
        floats address =
      (runActions floats lib settings (opening.actions ++ before.map Tick.action ++
        after.map Tick.action)).countersOf floats address ↔
    SurvivesCut (heardIn lib settings address (opening.facts.activation address) before)
      (heardIn lib settings address (opening.facts.activation address) after) := by
  obtain ⟨fresh, unrecorded⟩ := opened_empty floats lib settings watches
  have hearing := fresh.run lib settings before
  have recording := (unrecorded.run lib settings fresh before).flush lib settings facts
  rw [← foldl_append] at hearing recording
  have nothing := (accounts_observeAll floats lib settings
    (opening.actions ++ before.map Tick.action)).dirty_flush (by
      rw [supervisor_observeAll]
      exact persists)
  rw [supervisor_observeAll] at nothing
  have loaded := recording.loaded watches.named nothing
  have whole := hearing.run lib settings after
  obtain ⟨reopened, -⟩ := opened floats lib settings watchesAgain
    ((runActions floats lib settings
      (opening.actions ++ before.map Tick.action)).flushSummariesLocked floats lib settings
        facts).1.buckets.rows
  rw [active, ← stopped persists] at reopened
  have resumed := reopened.run lib settings after
  have one := resumed.countersOf
  have two := whole.countersOf
  unfold runActions
  rw [foldl_append, foldl_append, foldl_append,
    foldl_append (l := opening.actions ++ before.map Tick.action)]
  refine Iff.trans (Eq.congr one two) ?_
  exact resumed_counters_iff loaded

end Runs

/-! ## A restart on the second day -/

def digit (char : Char) : Nat := char.toNat - '0'.toNat

def marchTime (day second : Nat) : DateTime :=
  { date := "2026-03-" ++ twoDigits day, hour := second / 3600, minute := second % 3600 / 60
    second := second % 60, microsecond := 0, offset := some "+08:00"
    instant := (day * 86400 + second) * 1000000 }

/-- The library, for times in March 2026 with whole seconds. -/
def marchLibrary : TimeLibrary where
  fromIsoformat text :=
    match text.toList with
    | ['2', '0', '2', '6', '-', '0', '3', '-', dayTens, day, 'T', hourTens, hour, ':', minuteTens,
        minute, ':', secondTens, second, '+', '0', '8', ':', '0', '0'] =>
      some (marchTime (digit dayTens * 10 + digit day)
        ((digit hourTens * 10 + digit hour) * 3600 + (digit minuteTens * 10 + digit minute) * 60 +
          (digit secondTens * 10 + digit second)))
    | _ => none
  astimezone := id
  laterIsoformat time seconds :=
    let total := (time.instant / 1000000).toNat + seconds
    (marchTime (total / 86400) (total % 86400)).isoformatSeconds

/-- Round trip times are not given. -/
def noRtt : FloatArithmetic Unit :=
  ⟨(), fun _ _ => (), fun _ _ => (), fun _ _ => (), fun _ _ => (), fun _ _ => (), fun _ _ => (),
    fun _ _ => ()⟩

/-- A flush that writes everything. -/
def marchFlush : FlushFacts :=
  { now := "2026-03-02T08:00:00.000+08:00", order := ⟨id, fun _ => .refl _⟩
    outcome _ := .written }

/-- The run is started with one target. -/
def marchOpening : RunStart where
  persistedSampleCount := 0
  facts :=
    { flush := marchFlush, activation := fun _ => "2026-03-01T20:00:00+08:00", failure := none }
  targets := [{ targetIp := "10.0.0.1", trainId := "train-1", trainNo := "1", mrId := "mr-1"
                mrPositionCode := "CT", acSnapshotId := none, acReceivedAt := ""
                currentApIdentity := "", sameApSince := "" }]

/-- A sample of the target. -/
def marchSample (day second : Nat) (ok : Bool) : Tick Unit :=
  .sample (marchTime day second)
    { ts := (marchTime day second).isoformatSeconds, target := "10.0.0.1", ok := some ok
      rttMs := none }

theorem march_watches : marchOpening.Watches "10.0.0.1" where
  returns := rfl
  named := by decide
  listed := ⟨_, mem_cons_self, rfl⟩

/-- A restart on the second day forgets the first day. -/
theorem not_restart_transparent : ¬ ∀ (R : Type) (floats : FloatArithmetic R) lib settings address
      (opening reopening : RunStart) (before after : List (Tick R)) facts,
      opening.Watches address → reopening.Watches address →
      reopening.facts.activation address = opening.facts.activation address →
      ((runActions floats lib settings
        (opening.actions ++ before.map Tick.action)).flushSummariesLocked floats lib settings
          facts).2 = true →
      (runActions floats lib settings (opening.actions ++ before.map Tick.action ++
            [.stop facts, .newProcess] ++ reopening.actions ++ after.map Tick.action)).countersOf
          floats address =
        (runActions floats lib settings (opening.actions ++ before.map Tick.action ++
          after.map Tick.action)).countersOf floats address := by
  intro holds
  have same := holds Unit noRtt marchLibrary ⟨1000, 0⟩ "10.0.0.1" marchOpening marchOpening
    [marchSample 1 86399 true, marchSample 2 1 true] [marchSample 2 60 true] marchFlush
    march_watches march_watches rfl (by decide +kernel)
  revert same
  decide +kernel

theorem restart_transparent_oneDay :
    (runActions noRtt marchLibrary ⟨1000, 0⟩ (marchOpening.actions ++
        [marchSample 1 100 true, marchSample 1 101 false, marchSample 1 102 true].map Tick.action ++
          [.stop marchFlush, .newProcess] ++ marchOpening.actions ++
            [marchSample 1 200 false].map Tick.action)).countersOf noRtt "10.0.0.1" =
      (runActions noRtt marchLibrary ⟨1000, 0⟩ (marchOpening.actions ++
        [marchSample 1 100 true, marchSample 1 101 false, marchSample 1 102 true].map Tick.action ++
          [marchSample 1 200 false].map Tick.action)).countersOf noRtt "10.0.0.1" :=
  (restart_transparent_iff march_watches march_watches rfl (by decide +kernel)).mpr
    ⟨by decide +kernel, by decide +kernel⟩

end NetConsole.FleetPing
