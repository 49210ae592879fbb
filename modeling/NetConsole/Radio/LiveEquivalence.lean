import NetConsole.Radio.Rebuild

/-!
# Rebuilding and live processing

Events arrive and projections are rebuilt, in any order. Where the texts of the times of a
device are in the order of its arrivals, and no rebuild is limited to some runs of what it
clears, the rebuilds leave no trace: the rows of every device are those of processing the
arrivals alone (`rebuilt_equals_live`).

A rebuild of one run clears the others, and texts with two offsets from UTC are not in the
order of their times (`not_rebuildsAsLive`).
-/

set_option autoImplicit false

namespace NetConsole.Radio

open Foundations (GuardedRun eq_mergeSort_of_perm runFrom)
open List Option

/-- An event arrives, or projections are rebuilt. -/
inductive RadioAction where
  | arrive (values : ControlValues) (clock : ControlEvent → Moment)
  | rebuild (deviceUuid runId : String) (clock : ControlEvent → Moment)

/-- What an action makes of the store. -/
def radioStep (lib : RadioLibrary) (store : RadioStore) : RadioAction → Option RadioStore
  | .arrive values clock => process lib clock values store
  | .rebuild deviceUuid runId clock => some (rebuild lib clock deviceUuid runId store)

def RadioStore.start : RadioStore := ⟨[], 0, .empty⟩

def RadioAction.isArrival : RadioAction → Bool
  | .arrive _ _ => true
  | .rebuild _ _ _ => false

/-- A new event comes behind those of its device, as texts, and a rebuild folds over all
runs of what it clears. -/
def RadioAction.InOrder (lib : RadioLibrary) (store : RadioStore) : RadioAction → Prop
  | .arrive values _ =>
    store.events.any (·.dedupKey = values.dedupKey) = true ∨ store.Admits lib values
  | .rebuild deviceUuid runId _ => store.Covers deviceUuid runId

theorem start_sound (lib : RadioLibrary) : RadioStore.start.Sound lib where
  numbered _ mem := absurd mem not_mem_nil
  increasing := .nil
  readable _ mem := absurd mem not_mem_nil
  ordered := .nil
  owned _ _ _ mem := absurd mem not_mem_nil
  views _ := rfl

variable {lib : RadioLibrary} {clock : ControlEvent → Moment} {store : RadioStore}

theorem process_events {values : ControlValues} {other after : RadioStore}
    (done : process lib clock values store = some after) (events : other.events = store.events)
    (lastId : other.lastId = store.lastId) :
    ∃ otherAfter, process lib clock values other = some otherAfter ∧
      otherAfter.events = after.events ∧ otherAfter.lastId = after.lastId := by
  unfold process at done ⊢
  rw [events, lastId]
  split at done
  · cases done
  · next accepted =>
    rw [if_neg accepted]
    split at done
    · next known =>
      rw [if_pos known, ← some.inj done]
      exact ⟨other, rfl, events, lastId⟩
    · next absent =>
      rw [if_neg absent, ← some.inj done]
      refine ⟨_, rfl, ?_, rfl⟩
      unfold storeEvent
      rw [events]

/-- Two systems with the same events: one that has been rebuilt, and one that has not. -/
structure SameEvents (lib : RadioLibrary) (rebuilt live : RadioStore) : Prop where
  soundRebuilt : rebuilt.Sound lib
  soundLive : live.Sound lib
  events : live.events = rebuilt.events
  lastId : live.lastId = rebuilt.lastId

variable {live : RadioStore}

theorem SameEvents.ofDevice {rebuilt : RadioStore} (same : SameEvents lib rebuilt live)
    (device : String) : rebuilt.projections.ofDevice device = live.projections.ofDevice device := by
  rw [same.soundRebuilt.views, same.soundLive.views, same.events]

theorem run_sameEvents (lib : RadioLibrary) {actions : List RadioAction}
    {first last : RadioStore}
    (run : GuardedRun (radioStep lib) (fun store action => action.InOrder lib store)
      first actions last)
    (same : SameEvents lib first live) :
    ∃ liveLast, runFrom (radioStep lib) live (actions.filter (·.isArrival)) = some liveLast ∧
      SameEvents lib last liveLast := by
  induction run generalizing live with
  | nil state => exact ⟨live, rfl, same⟩
  | @cons state middle last action actions met taken _ ih =>
    cases action with
    | arrive values clock =>
      obtain ⟨after, done, events, lastId⟩ := process_events taken same.events same.lastId
      have admits : live.events.any (·.dedupKey = values.dedupKey) = true ∨
          live.Admits lib values := by
        rcases met with known | admits
        · exact .inl (same.events.symm ▸ known)
        · exact .inr ⟨admits.readable, same.events.symm ▸ admits.behind⟩
      obtain ⟨liveLast, rest, ended⟩ := ih {
        soundRebuilt := process_sound clock same.soundRebuilt taken met
        soundLive := process_sound clock same.soundLive done admits, events := events
        lastId := lastId }
      refine ⟨liveLast, ?_, ended⟩
      have head : (RadioAction.arrive values clock :: actions).filter (·.isArrival) =
          .arrive values clock :: actions.filter (·.isArrival) := rfl
      rw [head]
      exact bind_eq_some_iff.mpr ⟨after, done, rest⟩
    | rebuild deviceUuid runId clock =>
      cases taken
      exact ih {
        soundRebuilt := rebuild_sound clock same.soundRebuilt met, soundLive := same.soundLive
        events := same.events, lastId := same.lastId }

/-- Rebuilding leaves no trace, and rebuilding again changes no rows of any device. -/
theorem rebuilt_equals_live (lib : RadioLibrary) {actions : List RadioAction}
    {last : RadioStore}
    (run : GuardedRun (radioStep lib) (fun store action => action.InOrder lib store)
      .start actions last) :
    (∃ live, runFrom (radioStep lib) .start (actions.filter (·.isArrival)) = some live ∧
      ∀ device, last.projections.ofDevice device = live.projections.ofDevice device) ∧
    ∀ deviceUuid runId clock, last.Covers deviceUuid runId → ∀ device,
      (rebuild lib clock deviceUuid runId last).projections.ofDevice device =
        last.projections.ofDevice device := by
  obtain ⟨live, ended, same⟩ := run_sameEvents lib run {
    soundRebuilt := start_sound lib, soundLive := start_sound lib, events := rfl
    lastId := rfl }
  refine ⟨⟨live, ended, same.ofDevice⟩, ?_⟩
  intro deviceUuid runId clock covers device
  exact rebuild_ofDevice clock same.soundRebuilt covers device

/-! ## The conditions are needed -/

/-- An event arrives not earlier than those that are stored. -/
def RadioAction.InTime (lib : RadioLibrary) (store : RadioStore) : RadioAction → Prop
  | .arrive values _ =>
    ∃ moment, lib.parseTime values.eventTime = some moment ∧ ∀ event ∈ store.events,
      ∀ earlier, lib.parseTime event.eventTime = some earlier → earlier.micros ≤ moment.micros
  | .rebuild _ _ _ => True

/-- Rebuilding gives what processing the arrivals has given. -/
def RebuildsAsLive (lib : RadioLibrary) (deviceUuid runId : String) (store : RadioStore) : Prop :=
  ∀ clock device, (rebuild lib clock deviceUuid runId store).projections.ofDevice device =
    store.projections.ofDevice device

/-- A library that knows some times, and texts in capitals. -/
def tableLibrary (times : List (String × Moment)) : RadioLibrary where
  parseTime text := times.lookup text
  isoMilliseconds moment := ((times.find? (·.2 = moment)).map (·.1)).getD ""
  roundMilliseconds micros := micros / 1000
  upper := id
  casefold := id
  julianSeconds one two :=
    match times.lookup one, times.lookup two with
    | some first, some second => some ((|first.micros - second.micros| : Int) / 1000000)
    | _, _ => none

/-- An event of the radio interface of a device. -/
def interfaceEvent (runId eventTime physicalState : String) : ControlValues where
  runId := runId
  deviceUuid := "mr"
  trainId := "train"
  mrRole := "CT"
  family := .ifnet
  eventTime := eventTime
  receiveTime := eventTime
  dedupKey := eventTime
  interfaceName := "WLAN-Radio1/0/1"
  interfaceType := "RADIO"
  physicalState := physicalState
  cfgEventIndex := ""
  cfgCommandSource := ""
  cfgSource := ""
  cfgDestination := ""
  expectedInternalChange := false

/-- Seconds of the night when the clocks are set back. -/
def setBack : List (String × Moment) :=
  [("2026-10-25T02:59:59.000+02:00", ⟨0, 7200⟩), ("2026-10-25T02:00:01.000+01:00", ⟨2000000, 3600⟩),
    ("2026-10-25T02:00:03.000+01:00", ⟨4000000, 3600⟩)]

/-- The interface goes down before the clocks are set back. -/
def goesDown : ControlEvent :=
  { interfaceEvent "run-1" "2026-10-25T02:59:59.000+02:00" "DOWN" with id := 1 }

/-- It comes up behind that. -/
def comesUp (id : Nat) : ControlEvent :=
  { interfaceEvent "run-1" "2026-10-25T02:00:01.000+01:00" "UP" with id := id }

/-- It goes down again in another run. -/
def goesDownAgain : ControlEvent :=
  { interfaceEvent "run-2" "2026-10-25T02:00:03.000+01:00" "DOWN" with id := 2 }

def behindTwo (one two : ControlEvent) : RadioStore :=
  storeEvent (tableLibrary setBack) noClock two
    (storeEvent (tableLibrary setBack) noClock one .start)

theorem process_new {event : ControlEvent} (accepted : event.dedupKey ≠ "")
    (absent : store.events.any (·.dedupKey = event.dedupKey) = false)
    (numbered : event.id = store.lastId + 1) : process lib clock event.toControlValues store =
      some (storeEvent lib clock event store) := by
  unfold process
  rw [if_neg accepted, absent, ← numbered]
  rfl

theorem behindTwo_run {guard : RadioStore → RadioAction → Prop} {one two : ControlEvent}
    (accepted : one.dedupKey ≠ "" ∧ two.dedupKey ≠ "") (apart : one.dedupKey ≠ two.dedupKey)
    (ids : one.id = 1 ∧ two.id = 2) (first : guard .start (.arrive one.toControlValues noClock))
    (second : guard (storeEvent (tableLibrary setBack) noClock one .start)
      (.arrive two.toControlValues noClock)) :
    GuardedRun (radioStep (tableLibrary setBack)) guard .start
      [.arrive one.toControlValues noClock, .arrive two.toControlValues noClock]
      (behindTwo one two) := by
  have stored : process (tableLibrary setBack) noClock one.toControlValues .start =
      some (storeEvent (tableLibrary setBack) noClock one .start) :=
    process_new accepted.1 rfl ids.1
  have storedNext : process (tableLibrary setBack) noClock two.toControlValues
      (storeEvent (tableLibrary setBack) noClock one .start) = some (behindTwo one two) := by
    apply process_new accepted.2
    · simp [storeEvent, RadioStore.start, apart]
    · rw [ids.2]
      exact (congrArg (· + 1) ids.1).symm
  exact .cons first stored (.cons second storedNext (.nil _))

/-- Two events at known times, the second not before the first. -/
theorem setBack_run : GuardedRun (radioStep (tableLibrary setBack))
      (fun store action => action.InTime (tableLibrary setBack) store) .start
      [.arrive goesDown.toControlValues noClock, .arrive (comesUp 2).toControlValues noClock]
      (behindTwo goesDown (comesUp 2)) := by
  apply behindTwo_run ⟨by decide, by decide⟩ (by decide) ⟨rfl, rfl⟩
  · refine ⟨⟨0, 7200⟩, by decide +kernel, ?_⟩
    intro event mem
    cases mem
  · refine ⟨⟨2000000, 3600⟩, by decide +kernel, ?_⟩
    intro event mem earlier parsed
    obtain rfl := mem_singleton.mp mem
    rw [← some.inj parsed]
    decide

theorem twoRuns_run : GuardedRun (radioStep (tableLibrary setBack))
      (fun store action => action.InOrder (tableLibrary setBack) store) .start
      [.arrive (comesUp 1).toControlValues noClock, .arrive goesDownAgain.toControlValues noClock]
      (behindTwo (comesUp 1) goesDownAgain) := by
  apply behindTwo_run ⟨by decide, by decide⟩ (by decide) ⟨rfl, rfl⟩
  · refine .inr ⟨.inl (by decide +kernel), ?_⟩
    intro event mem
    cases mem
  · refine .inr ⟨.inl (by decide +kernel), ?_⟩
    intro event mem _
    obtain rfl := mem_singleton.mp mem
    decide +kernel

/-- A rebuild takes the text of the earlier time for the later one. -/
theorem listed_setBack :
    listControlEvents (behindTwo goesDown (comesUp 2)).events "mr" "" = [comesUp 2, goesDown] := by
  symm
  apply eq_mergeSort_of_perm timeKey_trans timeKey_total
  · decide +kernel
  · decide +kernel
  · decide +kernel

/-- The state of the interface. -/
def stableStateOf (tables : Projections) : Option RadioState :=
  (tables.interfaceState "mr" "WLAN-Radio1/0/1").map (·.stableState)

theorem stableStateOf_ofDevice (tables : Projections) :
    stableStateOf (tables.ofDevice "mr") = stableStateOf tables := by
  unfold stableStateOf
  rw [interfaceState_ofDevice]

/-- A rebuild of all runs goes by the texts of the times; a rebuild of one run forgets the
others. -/
theorem not_rebuildsAsLive : ¬ (∀ lib actions last, GuardedRun (radioStep lib)
        (fun store action => action.InTime lib store) .start actions last →
          ∀ deviceUuid, RebuildsAsLive lib deviceUuid "" last) ∧
      ¬ (∀ lib actions last, GuardedRun (radioStep lib)
        (fun store action => action.InOrder lib store) .start actions last →
          ∀ deviceUuid runId, RebuildsAsLive lib deviceUuid runId last) := by
  constructor
  · intro holds
    have same := holds _ _ _ setBack_run "mr" noClock "mr"
    have live : stableStateOf (behindTwo goesDown (comesUp 2)).projections = some .up := by
      decide +kernel
    have rebuilt : stableStateOf (rebuild (tableLibrary setBack) noClock "mr" ""
        (behindTwo goesDown (comesUp 2))).projections = some .down := by
      unfold rebuild
      rw [listed_setBack]
      decide +kernel
    rw [← stableStateOf_ofDevice, same, stableStateOf_ofDevice, live] at rebuilt
    cases rebuilt
  · intro holds
    have same := holds _ _ _ twoRuns_run "mr" "run-1" noClock "mr"
    have live : stableStateOf (behindTwo (comesUp 1) goesDownAgain).projections = some .down := by
      decide +kernel
    have rebuilt : stableStateOf (rebuild (tableLibrary setBack) noClock "mr" "run-1"
        (behindTwo (comesUp 1) goesDownAgain)).projections = some .up := by
      decide +kernel
    rw [← stableStateOf_ofDevice, same, stableStateOf_ofDevice, live] at rebuilt
    cases rebuilt

theorem rebuilt_equals_live_twoRuns : (rebuild (tableLibrary setBack) noClock "mr" ""
      (behindTwo (comesUp 1) goesDownAgain)).projections.ofDevice "mr" =
        (behindTwo (comesUp 1) goesDownAgain).projections.ofDevice "mr" :=
  (rebuilt_equals_live (tableLibrary setBack) twoRuns_run).2 "mr" "" noClock (.inl rfl) "mr"

end NetConsole.Radio
