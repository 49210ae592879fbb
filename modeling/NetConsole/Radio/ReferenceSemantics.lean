import Mathlib.Algebra.Order.Group.Int
import Mathlib.Data.List.Induction
import NetConsole.Foundations.SlidingWindows
import NetConsole.Radio.LiveEquivalence

/-!
# What the projection of a radio says

The events of a radio say at each time whether it is up or down; an event with another
state than the one before is a change. `MeetsReference` is what the projected row is to
say at a time, in terms of the whole history: the last state, the changes of the last five
minutes, whether three changes lie in the last minute, and since when the radio is down.

The row says this of the time of the last change (`projection_meetsReference`). An event
that repeats the state leaves the row as it is, so that its windows end at the last change
and not at the last event (`not_projection_meetsReference`).
-/

set_option autoImplicit false

namespace NetConsole.Radio

open Foundations List Option

/-! ## Radios and their histories -/

/-- A radio of a device. Events without these names are not projected. -/
structure RadioInterface where
  (deviceUuid interfaceName : String)
  deviceUuid_ne : deviceUuid ≠ ""
  interfaceName_ne : interfaceName ≠ ""

section History

variable (lib : RadioLibrary) (radio : RadioInterface)

/-- An event that says whether the radio is up or down. -/
def IsEventOf (values : ControlValues) : Prop :=
  values.family = .ifnet ∧ lib.upper values.interfaceType = "RADIO" ∧
    values.deviceUuid = radio.deviceUuid ∧ values.interfaceName = radio.interfaceName ∧
      (lib.upper values.physicalState = "UP" ∨ lib.upper values.physicalState = "DOWN")

instance (values : ControlValues) : Decidable (IsEventOf lib radio values) :=
  inferInstanceAs (Decidable (_ ∧ _))

/-- The history of the radio. -/
def eventsOf (events : List ControlEvent) : List ControlEvent :=
  events.filter fun event => IsEventOf lib radio event.toControlValues

def momentOf (event : ControlEvent) : Moment := (lib.parseTime event.eventTime).getD ⟨0, 0⟩

def eventState (event : ControlEvent) : RadioState :=
  if lib.upper event.physicalState = "UP" then .up else .down

/-- The state behind some events. -/
def lastState (history : List ControlEvent) : RadioState :=
  (history.getLast?.map (eventState lib)).getD .unknown

def changesFrom (state : RadioState) : List ControlEvent → List ControlEvent
  | [] => []
  | event :: rest =>
    if eventState lib event = state then changesFrom state rest
    else event :: changesFrom (eventState lib event) rest

/-- The events that change the state. -/
def changesOf (history : List ControlEvent) : List ControlEvent :=
  changesFrom lib .unknown history

/-- The changes of a history in a window. -/
def changesWithin (width : Int) (now : Moment) (history : List ControlEvent) : List ControlEvent :=
  within (fun event => (momentOf lib event).micros) width now.micros (changesOf lib history)

/-- The columns of an interface that the events of its radio decide. -/
structure RadioView where
  (currentState stableState : RadioState)
  transitionTimes : List String
  downSince : String
  deriving DecidableEq

def InterfaceState.view (state : InterfaceState) : RadioView :=
  ⟨state.currentState, state.stableState, state.transitionTimes, state.downSince⟩

/-- The columns of the radio; the defaults where it has no row. -/
def Projections.view (tables : Projections) : RadioView :=
  ((tables.interfaceState radio.deviceUuid radio.interfaceName).map InterfaceState.view).getD
    ⟨.unknown, .unknown, [], ""⟩

/-- What the columns are to say of a history at a time. -/
structure MeetsReference (history : List ControlEvent) (now : Moment) (view : RadioView) :
    Prop where
  stable : view.stableState = lastState lib history
  transitions : view.transitionTimes =
    (changesWithin lib snmpFlappingWindow now history).map fun change =>
      lib.isoMilliseconds (momentOf lib change)
  flapping : view.currentState = .flapping ↔
    3 ≤ (changesWithin lib flappingWindow now history).length
  steady : view.currentState ≠ .flapping → view.currentState = view.stableState
  down : view.downSince ≠ "" ↔ view.stableState = .down
  downTime : view.stableState = .down →
    (changesOf lib history).getLast?.map (·.eventTime) = some view.downSince

end History

/-! ## Changes -/

section Changes

variable {lib : RadioLibrary}

theorem lastState_concat (history : List ControlEvent) (event : ControlEvent) :
    lastState lib (history ++ [event]) = eventState lib event := by
  unfold lastState
  rw [List.getLast?_concat]
  rfl

theorem changesFrom_append (state : RadioState) (history later : List ControlEvent) :
    changesFrom lib state (history ++ later) = changesFrom lib state history ++
        changesFrom lib ((history.getLast?.map (eventState lib)).getD state) later := by
  induction history generalizing state with
  | nil => rfl
  | cons event rest ih =>
    have last : (((event :: rest).getLast?).map (eventState lib)).getD state =
        ((rest.getLast?).map (eventState lib)).getD (eventState lib event) := by
      rw [List.getLast?_cons]
      cases rest.getLast? <;> rfl
    rw [cons_append, last, changesFrom, changesFrom]
    by_cases same : eventState lib event = state
    · rw [if_pos same, if_pos same, ih, same]
    · rw [if_neg same, if_neg same, ih, cons_append]

variable {history : List ControlEvent} {event : ControlEvent}

theorem changesOf_concat_same (same : eventState lib event = lastState lib history) :
    changesOf lib (history ++ [event]) = changesOf lib history := by
  unfold changesOf
  rw [changesFrom_append]
  have none' : changesFrom lib (lastState lib history) [event] = [] := by
    rw [changesFrom, if_pos same]
    rfl
  show changesFrom _ .unknown history ++ changesFrom _ (lastState _ history) _ = _
  rw [none', append_nil]

theorem changesOf_concat_other (other : eventState lib event ≠ lastState lib history) :
    changesOf lib (history ++ [event]) = changesOf lib history ++ [event] := by
  unfold changesOf
  rw [changesFrom_append]
  have one : changesFrom lib (lastState lib history) [event] = [event] := by
    rw [changesFrom, if_neg other]
    rfl
  show changesFrom _ .unknown history ++ changesFrom _ (lastState _ history) _ = _
  rw [one]

theorem mem_changesFrom {state : RadioState} {change : ControlEvent}
    (mem : change ∈ changesFrom lib state history) : change ∈ history := by
  induction history generalizing state with
  | nil => cases mem
  | cons event rest ih =>
    unfold changesFrom at mem
    split at mem
    · exact mem_cons_of_mem _ (ih mem)
    · rcases mem_cons.mp mem with rfl | later
      · exact mem_cons_self
      · exact mem_cons_of_mem _ (ih later)

theorem eventState_up_or_down (event : ControlEvent) :
    eventState lib event = .up ∨ eventState lib event = .down := by
  unfold eventState
  split
  · exact .inl rfl
  · exact .inr rfl

theorem eventState_ne_unknown (event : ControlEvent) : eventState lib event ≠ .unknown := by
  rcases @eventState_up_or_down _ event with up | down
  · rw [up]
    decide
  · rw [down]
    decide

theorem lastState_eq_of_change (history : List ControlEvent) : lastState lib history =
      ((changesOf lib history).getLast?.map (eventState lib)).getD .unknown := by
  induction history using List.reverseRecOn with
  | nil => rfl
  | append_singleton history event ih =>
    rw [lastState_concat]
    by_cases same : eventState lib event = lastState lib history
    · rw [changesOf_concat_same same, ← ih, same]
    · rw [changesOf_concat_other same, List.getLast?_concat]
      rfl

theorem exists_lastChange (there : history ≠ []) :
    ∃ change, (changesOf lib history).getLast? = some change := by
  have known : lastState lib history ≠ .unknown := by
    obtain ⟨_, event, rfl⟩ := eq_nil_or_concat history |>.resolve_left there
    rw [concat_eq_append, lastState_concat]
    exact eventState_ne_unknown event
  rw [lastState_eq_of_change] at known
  cases found : (changesOf lib history).getLast? with
  | none =>
    rw [found] at known
    exact absurd rfl known
  | some change => exact ⟨change, rfl⟩

end Changes

/-! ## The row of a radio -/

section Rows

variable {lib : RadioLibrary} {clock : ControlEvent → Moment} {radio : RadioInterface}

theorem view_upsertInterface (tables : Projections) (state : InterfaceState) :
    (tables.upsertInterface state).view radio =
      if state.key = (radio.deviceUuid, radio.interfaceName) then state.view
      else tables.view radio := by
  unfold Projections.view Projections.interfaceState Projections.upsertInterface
  rw [rowAt_upsertRow]
  split <;> rfl

variable {event : ControlEvent}

theorem view_stateToChange (tables : Projections) (device : event.deviceUuid = radio.deviceUuid)
    (interface : event.interfaceName = radio.interfaceName) :
    (stateToChange event tables).view = tables.view radio := by
  unfold stateToChange Projections.view
  rw [device, interface]
  cases tables.interfaceState radio.deviceUuid radio.interfaceName <;> rfl

theorem view_projectCorrelation (cfg ifnet : ControlEvent) (confidence : Confidence)
    (tables : Projections) : (projectCorrelation lib clock cfg ifnet confidence tables).view radio =
      tables.view radio := by
  refine Eq.trans (view_upsertInterface tables
    (correlatedState _ clock cfg ifnet confidence (stateToCorrelate ifnet tables))) ?_
  split
  · rename_i same
    have device : ifnet.deviceUuid = radio.deviceUuid := congrArg Prod.fst same
    have interface : ifnet.interfaceName = radio.interfaceName := congrArg Prod.snd same
    unfold stateToCorrelate Projections.view
    rw [device, interface]
    cases tables.interfaceState radio.deviceUuid radio.interfaceName <;> rfl
  · rfl

theorem view_correlate (cfg ifnet : ControlEvent) (tables : Projections) :
    (correlate lib clock cfg ifnet tables).view radio = tables.view radio := by
  unfold correlate
  dsimp only
  split
  · rfl
  · split
    · rfl
    · exact view_projectCorrelation cfg ifnet _ _

theorem view_foldl {β : Type} {change : Projections → β → Projections}
    (keeps : ∀ tables item, (change tables item).view radio = tables.view radio)
    (items : List β) (tables : Projections) :
    (items.foldl change tables).view radio = tables.view radio := by
  induction items generalizing tables with
  | nil => rfl
  | cons item items ih => exact (ih _).trans (keeps tables item)

theorem view_projectCfgman (nearby : Nearby) (event : ControlEvent) (tables : Projections) :
    (projectCfgman lib clock nearby event tables).view radio = tables.view radio := by
  unfold projectCfgman
  split
  · rfl
  · dsimp only
    split
    · rfl
    · exact view_foldl (fun tables ifnet => view_correlate event ifnet tables) _ _

/-- The columns behind an event that changes the state. -/
def changedView (lib : RadioLibrary) (clock : ControlEvent → Moment) (event : ControlEvent)
    (physical : RadioState) (view : RadioView) : RadioView :=
  let moment := eventDatetime lib clock event
  let times := recentTimes lib view.transitionTimes moment ++ [lib.isoMilliseconds moment]
  { currentState := if 3 ≤ transitionsInMinute lib times moment then .flapping else physical
    stableState := physical, transitionTimes := times
    downSince :=
      if physical = .down then event.eventTime
      else if physical = .up ∧ view.stableState = .down then "" else view.downSince }

/-- The columns behind an event of the radio. -/
def RadioView.after (lib : RadioLibrary) (clock : ControlEvent → Moment) (event : ControlEvent)
    (view : RadioView) : RadioView :=
  if view.stableState = eventState lib event then view
  else changedView lib clock event (eventState lib event) view

theorem view_storeTransition (physical : RadioState) (tables : Projections)
    (device : event.deviceUuid = radio.deviceUuid)
    (interface : event.interfaceName = radio.interfaceName) :
    (storeTransition lib clock event physical (stateToChange event tables) tables).view radio =
      if (tables.view radio).stableState = physical then tables.view radio
      else changedView lib clock event physical (tables.view radio) := by
  have current := view_stateToChange tables device interface
  have stable : (stateToChange event tables).stableState = (tables.view radio).stableState :=
    congrArg RadioView.stableState current
  unfold storeTransition
  rw [stable]
  split
  · rfl
  · rw [view_upsertInterface, if_pos (Prod.ext device interface), ← current]
    rfl

theorem view_storeTransition_other (physical : RadioState) (current : InterfaceState)
    (tables : Projections)
    (other : ¬ (event.deviceUuid = radio.deviceUuid ∧ event.interfaceName = radio.interfaceName)) :
    (storeTransition lib clock event physical current tables).view radio = tables.view radio := by
  unfold storeTransition
  split
  · rfl
  · rw [view_upsertInterface, if_neg]
    intro same
    exact other ⟨congrArg Prod.fst same, congrArg Prod.snd same⟩

theorem view_projectIfnet (nearby : Nearby) {physical : RadioState} (tables : Projections)
    (named : ¬ (event.deviceUuid = "" ∨ event.interfaceName = ""))
    (state : physicalStateOf lib event = some physical) :
    (projectIfnet lib clock nearby event tables).view radio =
      (storeTransition lib clock event physical (stateToChange event tables) tables).view
        radio := by
  unfold projectIfnet
  rw [if_neg named, state]
  exact view_foldl (fun tables cfg => view_correlate cfg event tables) _ _

theorem view_project (nearby : Nearby) (tables : Projections)
    (mine : IsEventOf lib radio event.toControlValues) :
    (project lib clock nearby event tables).view radio =
      (tables.view radio).after lib clock event := by
  obtain ⟨family, type, device, interface, states⟩ := mine
  have state : physicalStateOf lib event = some (eventState lib event) := by
    unfold physicalStateOf eventState
    by_cases up : lib.upper event.physicalState = "UP"
    · rw [if_pos up, if_pos up]
    · rw [if_neg up, if_neg up, if_pos (states.resolve_left up)]
  have named : ¬ (event.deviceUuid = "" ∨ event.interfaceName = "") := by
    rintro (blank | blank)
    · exact radio.deviceUuid_ne (device.symm.trans blank)
    · exact radio.interfaceName_ne (interface.symm.trans blank)
  unfold project
  rw [family, if_pos type, view_projectIfnet nearby tables named state,
    view_storeTransition _ tables device interface]
  rfl

theorem view_project_other (nearby : Nearby) (tables : Projections)
    (other : ¬ IsEventOf lib radio event.toControlValues) :
    (project lib clock nearby event tables).view radio = tables.view radio := by
  unfold project
  split
  · exact view_projectCfgman nearby event tables
  · rename_i family
    split
    · rename_i type
      by_cases named : event.deviceUuid = "" ∨ event.interfaceName = ""
      · unfold projectIfnet
        rw [if_pos named]
      · cases state : physicalStateOf lib event with
        | none =>
          unfold projectIfnet
          rw [if_neg named, state]
        | some physical =>
          rw [view_projectIfnet nearby tables named state, view_storeTransition_other]
          rintro ⟨device, interface⟩
          apply other
          refine ⟨family, type, device, interface, ?_⟩
          unfold physicalStateOf at state
          by_cases up : lib.upper event.physicalState = "UP"
          · exact .inl up
          · rw [if_neg up] at state
            by_cases down : lib.upper event.physicalState = "DOWN"
            · exact .inr down
            · rw [if_neg down] at state
              cases state
    · rfl

end Rows

/-! ## Events in time -/

section InTime

variable {lib : RadioLibrary} {clock : ControlEvent → Moment}

/-- The text of a time can be read, and the time is written with its milliseconds. -/
def Timed (lib : RadioLibrary) (text : String) (moment : Moment) : Prop :=
  text ≠ "" ∧ lib.parseTime text = some moment ∧
    lib.parseTime (lib.isoMilliseconds moment) = some moment

instance (lib : RadioLibrary) (text : String) (moment : Moment) :
    Decidable (Timed lib text moment) :=
  inferInstanceAs (Decidable (_ ∧ _))

/-- Events that come in the order of their times. -/
structure InTimeOrder (lib : RadioLibrary) (history : List ControlEvent) : Prop where
  timed : ∀ event ∈ history, Timed lib event.eventTime (momentOf lib event)
  ordered : history.Pairwise fun one two =>
    (momentOf lib one).micros ≤ (momentOf lib two).micros

/-- The texts that are stored of some changes. -/
def writtenTimes (lib : RadioLibrary) (changes : List ControlEvent) : List String :=
  changes.map fun change => lib.isoMilliseconds (momentOf lib change)

variable {changes : List ControlEvent}

theorem recentTimes_written {now : Moment}
    (timed : ∀ change ∈ changes, Timed lib change.eventTime (momentOf lib change))
    (passed : ∀ change ∈ changes, (momentOf lib change).micros ≤ now.micros) :
    recentTimes lib (writtenTimes lib changes) now =
      writtenTimes lib (within (fun change => (momentOf lib change).micros)
        snmpFlappingWindow now.micros changes) := by
  rw [← within_eq_filter_abs passed]
  unfold recentTimes writtenTimes
  rw [filterMap_map]
  clear passed
  induction changes with
  | nil => rfl
  | cons change changes ih =>
    have read := (timed change mem_cons_self).2.2
    have rest := ih fun other mem => timed other (mem_cons_of_mem _ mem)
    rw [filterMap_cons, filter_cons, rest, Function.comp_apply, read]
    by_cases recent : |now.micros - (momentOf lib change).micros| ≤ snmpFlappingWindow
    · simp only [recent, decide_true, if_true, map_cons]
    · simp only [recent, decide_false, Bool.false_eq_true, if_false]

theorem transitionsInMinute_written (now : Moment)
    (timed : ∀ change ∈ changes, Timed lib change.eventTime (momentOf lib change)) :
    transitionsInMinute lib (writtenTimes lib changes) now =
      (within (fun change => (momentOf lib change).micros) flappingWindow now.micros
        changes).length := by
  unfold transitionsInMinute writtenTimes within
  rw [countP_map, ← countP_eq_length_filter]
  apply countP_congr
  intro change mem
  simp only [Function.comp_apply, (timed change mem).2.2, any_some]

/-- What the row says of the history, at the time of the last change. -/
structure Tracks (lib : RadioLibrary) (history : List ControlEvent) (view : RadioView) : Prop where
  before : changesOf lib history = [] → view = ⟨.unknown, .unknown, [], ""⟩
  meets : ∀ change, (changesOf lib history).getLast? = some change →
    MeetsReference lib history (momentOf lib change) view

namespace Tracks

variable {history : List ControlEvent} {view : RadioView}

theorem stable (tracks : Tracks lib history view) : view.stableState = lastState lib history := by
  cases found : (changesOf lib history).getLast? with
  | none =>
    rw [lastState_eq_of_change, found, tracks.before (List.getLast?_eq_none_iff.mp found)]
    rfl
  | some change => exact (tracks.meets change found).stable

theorem downSince (tracks : Tracks lib history view) (steady : view.stableState ≠ .down) :
    view.downSince = "" := by
  cases found : (changesOf lib history).getLast? with
  | none => rw [tracks.before (List.getLast?_eq_none_iff.mp found)]
  | some change =>
    by_contra set
    exact steady ((tracks.meets change found).down.mp set)

theorem inTime_changes (inTime : InTimeOrder lib history) : ∀ change ∈ changesOf lib history,
      Timed lib change.eventTime (momentOf lib change) :=
  fun change mem => inTime.timed change (mem_changesFrom mem)

/-- The retained window is enough for the windows to come. -/
theorem recentTimes_eq (tracks : Tracks lib history view)
    (inTime : InTimeOrder lib history) {now : Moment}
    (passed : ∀ event ∈ history, (momentOf lib event).micros ≤ now.micros) :
    recentTimes lib view.transitionTimes now =
      writtenTimes lib (changesWithin lib snmpFlappingWindow now history) := by
  cases found : (changesOf lib history).getLast? with
  | none =>
    have noChange := List.getLast?_eq_none_iff.mp found
    unfold changesWithin
    rw [tracks.before noChange, noChange]
    rfl
  | some change =>
    have listed : change ∈ changesOf lib history := mem_of_getLast? found
    have later : (momentOf lib change).micros ≤ now.micros :=
      passed change (mem_changesFrom listed)
    have windowed : ∀ other ∈ changesWithin lib snmpFlappingWindow (momentOf lib change)
        history, other ∈ changesOf _ history := fun other mem =>
      mem_of_mem_filter mem
    rw [(tracks.meets change found).transitions]
    refine (recentTimes_written (fun other mem => inTime_changes inTime other
      (windowed other mem)) (fun other mem => passed other
        (mem_changesFrom (windowed other mem)))).trans ?_
    exact congrArg (writtenTimes _) (within_within later le_rfl _)

variable {event : ControlEvent} (tracks : Tracks lib history view)
include tracks

theorem after_same (same : eventState lib event = lastState lib history) :
    Tracks lib (history ++ [event]) view := by
  have changes := changesOf_concat_same same
  have last : lastState lib (history ++ [event]) = lastState lib history :=
    (lastState_concat history event).trans same
  constructor
  · rw [changes]
    exact tracks.before
  · rw [changes]
    intro change found
    have meets := tracks.meets change found
    refine ⟨last ▸ meets.stable, ?_, ?_, meets.steady, meets.down, ?_⟩
    · unfold changesWithin
      rw [changes]
      exact meets.transitions
    · unfold changesWithin
      rw [changes]
      exact meets.flapping
    · rw [changes]
      exact meets.downTime

theorem after_other (inTime : InTimeOrder lib (history ++ [event]))
    (other : eventState lib event ≠ lastState lib history) :
    MeetsReference lib (history ++ [event]) (momentOf lib event)
      (changedView lib clock event (eventState lib event) view) := by
  obtain ⟨dated, read, _⟩ := inTime.timed event (mem_append_right _ mem_cons_self)
  have now : eventDatetime lib clock event = momentOf lib event := by
    unfold eventDatetime
    rw [read]
  have earlier : InTimeOrder lib history :=
    ⟨fun one mem => inTime.timed one (mem_append_left _ mem),
      (pairwise_append.mp inTime.ordered).1⟩
  have passed : ∀ one ∈ history,
      (momentOf lib one).micros ≤ (momentOf lib event).micros := fun one mem =>
    (pairwise_append.mp inTime.ordered).2.2 one mem event mem_cons_self
  have changes := changesOf_concat_other other
  have windowOf : ∀ width : Int, 0 ≤ width →
      changesWithin lib width (momentOf lib event) (history ++ [event]) =
        changesWithin lib width (momentOf lib event) history ++ [event] := by
    intro width nonneg
    unfold changesWithin
    rw [changes, within_append, within_singleton nonneg rfl]
  have times : recentTimes lib view.transitionTimes (momentOf lib event) ++
      [lib.isoMilliseconds (momentOf lib event)] = writtenTimes lib
          (changesWithin lib snmpFlappingWindow (momentOf lib event) (history ++ [event])) := by
    rw [tracks.recentTimes_eq earlier passed, windowOf _ (by decide)]
    unfold writtenTimes
    rw [map_append, map_singleton]
  have counted : transitionsInMinute lib (writtenTimes lib
      (changesWithin lib snmpFlappingWindow (momentOf lib event) (history ++ [event])))
        (momentOf lib event) =
      (changesWithin lib flappingWindow (momentOf lib event) (history ++ [event])).length := by
    refine (transitionsInMinute_written _ fun change mem =>
      inTime_changes inTime change (mem_of_mem_filter mem)).trans ?_
    exact congrArg List.length (within_within le_rfl (by decide) _)
  have states := @eventState_up_or_down lib event
  unfold changedView
  dsimp only
  rw [now, times, counted]
  refine ⟨(lastState_concat history event).symm, rfl, ?_, ?_, ?_, ?_⟩
  · split
    · rename_i enough
      exact iff_of_true rfl enough
    · rename_i few
      refine iff_of_false ?_ few
      intro (state : eventState lib event = .flapping)
      rw [state] at states
      exact states.elim (by decide) (by decide)
  · split
    · exact fun steady => absurd rfl steady
    · exact fun _ => rfl
  · dsimp only
    split
    · rename_i down
      exact iff_of_true dated down
    · rename_i up
      refine iff_of_false ?_ up
      rw [not_not]
      split
      · rfl
      · rename_i still
        apply tracks.downSince
        intro wasDown
        apply still
        exact ⟨states.resolve_right up, wasDown⟩
  · intro down
    rw [changes, List.getLast?_concat, if_pos down]
    rfl

/-- An event of the radio keeps the row in step with its history. -/
theorem after (clock : ControlEvent → Moment) (inTime : InTimeOrder lib (history ++ [event])) :
    Tracks lib (history ++ [event]) (view.after lib clock event) := by
  unfold RadioView.after
  rw [tracks.stable]
  split
  · rename_i same
    exact tracks.after_same same.symm
  · rename_i differ
    have other : eventState lib event ≠ lastState lib history := Ne.symm differ
    have changes := changesOf_concat_other other
    constructor
    · intro noChange
      rw [changes] at noChange
      exact absurd noChange (append_ne_nil_of_right_ne_nil _ (cons_ne_nil _ _))
    · intro change found
      rw [changes, List.getLast?_concat] at found
      rw [← some.inj found]
      exact tracks.after_other inTime other

end Tracks

end InTime

/-! ## Arrivals -/

section Arrivals

variable {lib : RadioLibrary} {radio : RadioInterface}

/-- An event arrives: its values, and what the clock says. -/
abbrev Arrival := ControlValues × (ControlEvent → Moment)

/-- `process`, as a step. -/
def arriveStep (lib : RadioLibrary) (store : RadioStore) (arrival : Arrival) : Option RadioStore :=
  process lib arrival.2 arrival.1 store

/-- A new event of the radio is not earlier than those that are stored. The events of
other radios, and the configuration changes, come at any time. -/
def InSequence (lib : RadioLibrary) (radio : RadioInterface) (store : RadioStore)
    (arrival : Arrival) : Prop :=
  store.events.any (·.dedupKey = arrival.1.dedupKey) = true ∨ (IsEventOf lib radio arrival.1 →
      ∃ moment, Timed lib arrival.1.eventTime moment ∧
        ∀ event ∈ eventsOf lib radio store.events,
          (momentOf lib event).micros ≤ moment.micros)

variable {store after : RadioStore}

/-- An arrival changes nothing, or its event is stored. -/
theorem process_cases {clock : ControlEvent → Moment} {values : ControlValues}
    (done : process lib clock values store = some after) :
    (store.events.any (·.dedupKey = values.dedupKey) = true ∧ after = store) ∨
      (store.events.any (·.dedupKey = values.dedupKey) = false ∧
        ∃ event : ControlEvent, event.toControlValues = values ∧
          after = storeEvent lib clock event store) := by
  unfold process at done
  split at done
  · cases done
  · split at done
    · rename_i known
      exact .inl ⟨known, (some.inj done).symm⟩
    · rename_i absent
      exact .inr ⟨Bool.eq_false_of_not_eq_true absent, _, rfl, (some.inj done).symm⟩

/-- The row of the radio is in step with the events that are stored. -/
structure RadioStore.InStep (lib : RadioLibrary) (radio : RadioInterface)
    (store : RadioStore) : Prop where
  inTime : InTimeOrder lib (eventsOf lib radio store.events)
  tracks : Tracks lib (eventsOf lib radio store.events) (store.projections.view radio)

theorem start_inStep : RadioStore.start.InStep lib radio where
  inTime := ⟨fun _ mem => absurd mem not_mem_nil, .nil⟩
  tracks := ⟨fun _ => rfl, fun _ found => nomatch found⟩

variable {events : List ControlEvent} {event : ControlEvent}

theorem eventsOf_concat_mine (mine : IsEventOf lib radio event.toControlValues) :
    eventsOf lib radio (events ++ [event]) = eventsOf lib radio events ++ [event] := by
  have kept : eventsOf lib radio [event] = [event] :=
    filter_cons_of_pos (decide_eq_true mine)
  exact (filter_append ..).trans (congrArg _ kept)

theorem eventsOf_concat_other (other : ¬ IsEventOf lib radio event.toControlValues) :
    eventsOf lib radio (events ++ [event]) = eventsOf lib radio events := by
  have dropped : eventsOf lib radio [event] = [] :=
    filter_cons_of_neg (by simpa using other)
  exact (filter_append ..).trans ((congrArg _ dropped).trans (append_nil _))

theorem arriveStep_inStep {arrival : Arrival} (inStep : store.InStep lib radio)
    (met : InSequence lib radio store arrival)
    (taken : arriveStep lib store arrival = some after) : after.InStep lib radio := by
  obtain ⟨_, clock⟩ := arrival
  rcases process_cases taken with ⟨-, rfl⟩ | ⟨absent, event, rfl, rfl⟩
  · exact inStep
  · by_cases mine : IsEventOf lib radio event.toControlValues
    · obtain ⟨moment, timed, behind⟩ :=
        (met.resolve_left (by rw [absent]; decide)) mine
      have read : momentOf lib event = moment := by
        unfold momentOf
        rw [timed.2.1]
        rfl
      rw [← read] at timed behind
      have inTime : InTimeOrder lib (eventsOf lib radio store.events ++ [event]) := by
        constructor
        · intro one mem
          rcases mem_append.mp mem with stored | new
          · exact inStep.inTime.timed one stored
          · rw [mem_singleton.mp new]
            exact timed
        · refine pairwise_append.mpr ⟨inStep.inTime.ordered, pairwise_singleton .., ?_⟩
          intro one stored other new
          rw [mem_singleton.mp new]
          exact behind one stored
      constructor
      · show InTimeOrder _ (eventsOf _ _ (store.events ++ [event]))
        rw [eventsOf_concat_mine mine]
        exact inTime
      · show Tracks _ (eventsOf _ _ (store.events ++ [event]))
          ((project _ clock _ event store.projections).view _)
        rw [eventsOf_concat_mine mine, view_project _ _ mine]
        exact inStep.tracks.after clock inTime
    · constructor
      · show InTimeOrder _ (eventsOf _ _ (store.events ++ [event]))
        rw [eventsOf_concat_other mine]
        exact inStep.inTime
      · show Tracks _ (eventsOf _ _ (store.events ++ [event]))
          ((project _ clock _ event store.projections).view _)
        rw [eventsOf_concat_other mine, view_project_other _ _ mine]
        exact inStep.tracks

/-- Behind its first event, the row of a radio says what the history says at the time of
the last change. -/
theorem projection_meetsReference {arrivals : List Arrival} {last : RadioStore}
    (run : GuardedRun (arriveStep lib) (InSequence lib radio) .start arrivals last)
    (there : eventsOf lib radio last.events ≠ []) :
    ∃ change, (changesOf lib (eventsOf lib radio last.events)).getLast? = some change ∧
      MeetsReference lib (eventsOf lib radio last.events) (momentOf lib change)
        (last.projections.view radio) := by
  have inStep : last.InStep lib radio :=
    run.invariant (fun store => store.InStep lib radio)
      (fun _ _ _ inStep met taken => arriveStep_inStep inStep met taken) start_inStep
  obtain ⟨change, found⟩ := exists_lastChange there
  exact ⟨change, found, inStep.tracks.meets change found⟩

end Arrivals

/-! ## Repeated events -/

/-- Times of a night: three changes in twenty seconds, and an event six minutes later. -/
def nightTimes : List (String × Moment) :=
  [("2026-10-25T02:00:00.000+08:00", ⟨0, 28800⟩),
    ("2026-10-25T02:00:10.000+08:00", ⟨10000000, 28800⟩),
    ("2026-10-25T02:00:20.000+08:00", ⟨20000000, 28800⟩),
    ("2026-10-25T02:06:40.000+08:00", ⟨400000000, 28800⟩)]

/-- The interface of `interfaceEvent`. -/
def nightRadio : RadioInterface := ⟨"mr", "WLAN-Radio1/0/1", by decide, by decide⟩

def nightEvent (id : Nat) (eventTime physicalState : String) : ControlEvent :=
  { interfaceEvent "run-1" eventTime physicalState with id := id }

/-- The interface comes up, goes down and comes up, and is up six minutes later. -/
def nightEvents : List ControlEvent :=
  [nightEvent 1 "2026-10-25T02:00:00.000+08:00" "UP",
    nightEvent 2 "2026-10-25T02:00:10.000+08:00" "DOWN",
    nightEvent 3 "2026-10-25T02:00:20.000+08:00" "UP",
    nightEvent 4 "2026-10-25T02:06:40.000+08:00" "UP"]

/-- The store behind some events. -/
def storeAll (lib : RadioLibrary) (store : RadioStore) (events : List ControlEvent) : RadioStore :=
  events.foldl (fun store event => storeEvent lib noClock event store) store

/-- New events of a radio, numbered and in time. -/
def ArriveInTime (lib : RadioLibrary) (radio : RadioInterface) :
    RadioStore → List ControlEvent → Prop
  | _, [] => True
  | store, event :: rest =>
    (event.dedupKey ≠ "" ∧ store.events.any (·.dedupKey = event.dedupKey) = false ∧
      event.id = store.lastId + 1) ∧
    (Timed lib event.eventTime (momentOf lib event) ∧
      ∀ stored ∈ eventsOf lib radio store.events,
        (momentOf lib stored).micros ≤ (momentOf lib event).micros) ∧
    ArriveInTime lib radio (storeEvent lib noClock event store) rest

instance decidableArriveInTime (lib : RadioLibrary) (radio : RadioInterface) :
    ∀ store events, Decidable (ArriveInTime lib radio store events)
  | _, [] => inferInstanceAs (Decidable True)
  | store, event :: rest =>
    have := decidableArriveInTime lib radio (storeEvent lib noClock event store) rest
    inferInstanceAs (Decidable (_ ∧ _ ∧ _))

theorem run_storeAll {lib : RadioLibrary} {radio : RadioInterface} {store : RadioStore}
    {events : List ControlEvent} (arrive : ArriveInTime lib radio store events) :
    GuardedRun (arriveStep lib) (InSequence lib radio) store
      (events.map fun event => (event.toControlValues, noClock)) (storeAll lib store events) := by
  induction events generalizing store with
  | nil => exact .nil store
  | cons event rest ih =>
    obtain ⟨⟨accepted, absent, numbered⟩, ⟨timed, behind⟩, others⟩ := arrive
    exact .cons (.inr fun _ => ⟨_, timed, behind⟩)
      (process_new accepted absent numbered) (ih others)

/-- A repeated event leaves the windows where they are: six minutes after three changes the
radio is said to flap. -/
theorem not_projection_meetsReference : ¬ ∀ lib radio arrivals last,
      GuardedRun (arriveStep lib) (InSequence lib radio) .start arrivals last →
        ∀ event, (eventsOf lib radio last.events).getLast? = some event →
          MeetsReference lib (eventsOf lib radio last.events) (momentOf lib event)
            (last.projections.view radio) := by
  intro holds
  have arrive : ArriveInTime (tableLibrary nightTimes) nightRadio .start nightEvents := by
    decide +kernel
  have meets := holds _ _ _ _ (run_storeAll arrive)
    (nightEvent 4 "2026-10-25T02:06:40.000+08:00" "UP") (by decide +kernel)
  have flapping : ((storeAll (tableLibrary nightTimes) .start nightEvents).projections.view
      nightRadio).currentState = .flapping := by decide +kernel
  have calm : ¬ 3 ≤ (changesWithin (tableLibrary nightTimes) flappingWindow
      (momentOf (tableLibrary nightTimes) (nightEvent 4 "2026-10-25T02:06:40.000+08:00" "UP"))
      (eventsOf (tableLibrary nightTimes) nightRadio
        (storeAll (tableLibrary nightTimes) .start nightEvents).events)).length := by
    decide +kernel
  exact calm (meets.flapping.mp flapping)

theorem projection_meetsReference_night :
    ∃ change, (changesOf (tableLibrary nightTimes) (eventsOf (tableLibrary nightTimes) nightRadio
        (storeAll (tableLibrary nightTimes) .start nightEvents).events)).getLast? = some change ∧
      MeetsReference (tableLibrary nightTimes) (eventsOf (tableLibrary nightTimes) nightRadio
        (storeAll (tableLibrary nightTimes) .start nightEvents).events)
          (momentOf (tableLibrary nightTimes) change)
          ((storeAll (tableLibrary nightTimes) .start nightEvents).projections.view nightRadio) :=
  projection_meetsReference (run_storeAll (by decide +kernel)) (by decide +kernel)

end NetConsole.Radio
