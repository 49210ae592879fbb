import NetConsole.Radio.Projection

/-!
# What an event changes

Projecting an event changes the rows of its device, by what these rows say, and no rows of
another device (`project_local`). The correlations are the only rows whose key does not
name the device; the events of a correlation do.
-/

set_option autoImplicit false

namespace NetConsole.Radio

open Foundations (KeyOwned hasRow_ownedRows ownedRows ownedRows_insertRow
  ownedRows_upsertRow rowAt_ownedRows mem_insertRow)
open List

def Projections.ofDevice (tables : Projections) (device : String) : Projections where
  interfaces := ownedRows InterfaceState.deviceUuid tables.interfaces device
  runtimes := ownedRows MrRuntimeState.deviceUuid tables.runtimes device
  correlations := ownedRows Correlation.deviceUuid tables.correlations device

/-- A correlation belongs to the device of its interface event. -/
def Projections.Owned (deviceOf : Nat → String) (tables : Projections) : Prop :=
  ∀ correlation ∈ tables.correlations, correlation.deviceUuid = deviceOf correlation.ifnetEventId

/-! ## Queries and updates -/

theorem interfaces_keyOwned (rows : List InterfaceState) (device interface : String) :
    KeyOwned InterfaceState.key InterfaceState.deviceUuid rows (device, interface) device := by
  intro row _ same
  exact congrArg Prod.fst same

theorem runtimes_keyOwned (rows : List MrRuntimeState) (device : String) :
    KeyOwned MrRuntimeState.deviceUuid MrRuntimeState.deviceUuid rows device device := by
  intro row _ same
  exact same

variable {deviceOf : Nat → String} {tables : Projections}

theorem Projections.Owned.keyOwned (owned : tables.Owned deviceOf) (cfgEventId ifnetEventId : Nat) :
    KeyOwned Correlation.key Correlation.deviceUuid tables.correlations
      (cfgEventId, ifnetEventId) (deviceOf ifnetEventId) := by
  intro row mem same
  rw [owned row mem]
  exact congrArg (fun key => deviceOf key.2) same

theorem interfaceState_ofDevice (tables : Projections) (device interface : String) :
    (tables.ofDevice device).interfaceState device interface =
      tables.interfaceState device interface :=
  rowAt_ownedRows (interfaces_keyOwned tables.interfaces device interface)

theorem runtimeState_ofDevice (tables : Projections) (device : String) :
    (tables.ofDevice device).runtimeState device = tables.runtimeState device :=
  rowAt_ownedRows (runtimes_keyOwned tables.runtimes device)

theorem interfacesOf_ofDevice (tables : Projections) (device : String) :
    (tables.ofDevice device).interfacesOf device = tables.interfacesOf device := by
  simp [Projections.interfacesOf, Projections.ofDevice, ownedRows]

theorem upsertInterface_ofDevice (tables : Projections) (state : InterfaceState) (device : String) :
    (tables.upsertInterface state).ofDevice device =
      if state.deviceUuid = device then (tables.ofDevice device).upsertInterface state
      else tables.ofDevice device := by
  have rows : ownedRows InterfaceState.deviceUuid
      (tables.upsertInterface state).interfaces device = _ :=
    ownedRows_upsertRow (interfaces_keyOwned tables.interfaces state.deviceUuid state.interfaceName)
  unfold Projections.ofDevice
  rw [rows]
  split
  · rfl
  · rfl

theorem upsertRuntime_ofDevice (tables : Projections) (state : MrRuntimeState) (device : String) :
    (tables.upsertRuntime state).ofDevice device =
      if state.deviceUuid = device then (tables.ofDevice device).upsertRuntime state
      else tables.ofDevice device := by
  have rows : ownedRows MrRuntimeState.deviceUuid
      (tables.upsertRuntime state).runtimes device = _ :=
    ownedRows_upsertRow (runtimes_keyOwned tables.runtimes state.deviceUuid)
  unfold Projections.ofDevice
  rw [rows]
  split
  · rfl
  · rfl

theorem insertCorrelation_ofDevice {correlation : Correlation} (owned : tables.Owned deviceOf)
    (mine : correlation.deviceUuid = deviceOf correlation.ifnetEventId) (device : String) :
    (tables.insertCorrelation correlation).ofDevice device = if correlation.deviceUuid = device then
        (tables.ofDevice device).insertCorrelation correlation
      else tables.ofDevice device := by
  have keyOwned := owned.keyOwned correlation.cfgEventId correlation.ifnetEventId
  rw [← mine] at keyOwned
  have rows : ownedRows Correlation.deviceUuid
      (tables.insertCorrelation correlation).correlations device = _ :=
    ownedRows_insertRow keyOwned
  unfold Projections.ofDevice
  rw [rows]
  split
  · rfl
  · rfl

theorem hasCorrelation_ofDevice (owned : tables.Owned deviceOf) (cfgEventId ifnetEventId : Nat) :
    (tables.ofDevice (deviceOf ifnetEventId)).hasCorrelation cfgEventId ifnetEventId =
      tables.hasCorrelation cfgEventId ifnetEventId :=
  hasRow_ownedRows (owned.keyOwned cfgEventId ifnetEventId)

/-! ## Local changes -/

/-- A change of the rows of a device by what these rows say. -/
structure LocalChange (deviceOf : Nat → String) (device : String)
    (change : Projections → Projections) : Prop where
  keeps : ∀ tables, tables.Owned deviceOf → (change tables).Owned deviceOf
  own : ∀ tables, tables.Owned deviceOf →
    (change tables).ofDevice device = change (tables.ofDevice device)
  other : ∀ tables other, tables.Owned deviceOf → device ≠ other →
    (change tables).ofDevice other = tables.ofDevice other

namespace LocalChange

variable {deviceOf : Nat → String} {device : String}

theorem id' : LocalChange deviceOf device fun tables => tables where
  keeps _ owned := owned
  own _ _ := rfl
  other _ _ _ _ := rfl

theorem comp {first second : Projections → Projections} (one : LocalChange deviceOf device first)
    (two : LocalChange deviceOf device second) :
    LocalChange deviceOf device fun tables => second (first tables) where
  keeps tables owned := two.keeps _ (one.keeps tables owned)
  own := by
    intro tables owned
    rw [two.own _ (one.keeps tables owned), one.own tables owned]
  other := by
    intro tables other owned apart
    rw [two.other _ other (one.keeps tables owned) apart, one.other tables other owned apart]

theorem foldl {β : Type} {change : Projections → β → Projections} {items : List β}
    (each : ∀ item ∈ items, LocalChange deviceOf device fun tables => change tables item) :
    LocalChange deviceOf device fun tables => items.foldl change tables := by
  induction items with
  | nil => exact id'
  | cons item rest ih =>
    exact (each item mem_cons_self).comp
      (ih fun other mem => each other (mem_cons_of_mem item mem))

/-- A change that is chosen by what the rows of the device say. -/
theorem choose {test : Projections → Bool} {yes no : Projections → Projections}
    (local' : ∀ tables, tables.Owned deviceOf → test (tables.ofDevice device) = test tables)
    (one : LocalChange deviceOf device yes) (two : LocalChange deviceOf device no) :
    LocalChange deviceOf device fun tables => if test tables then yes tables else no tables where
  keeps := by
    intro tables owned
    split
    · exact one.keeps tables owned
    · exact two.keeps tables owned
  own := by
    intro tables owned
    rw [local' tables owned]
    split
    · exact one.own tables owned
    · exact two.own tables owned
  other := by
    intro tables other owned apart
    split
    · exact one.other tables other owned apart
    · exact two.other tables other owned apart

theorem read {α : Type} {value : Projections → α} {change : α → Projections → Projections}
    (local' : ∀ tables, value (tables.ofDevice device) = value tables)
    (each : ∀ given, LocalChange deviceOf device (change given)) :
    LocalChange deviceOf device fun tables => change (value tables) tables where
  keeps tables owned := (each (value tables)).keeps tables owned
  own := by
    intro tables owned
    rw [(each (value tables)).own tables owned, local' tables]
  other tables other owned apart := (each (value tables)).other tables other owned apart

theorem upsertInterface {state : Projections → InterfaceState}
    (mine : ∀ tables, (state tables).deviceUuid = device)
    (local' : ∀ tables, state (tables.ofDevice device) = state tables) :
    LocalChange deviceOf device fun tables => tables.upsertInterface (state tables) where
  keeps _ owned := owned
  own := by
    intro tables _
    rw [upsertInterface_ofDevice, if_pos (mine tables), local' tables]
  other := by
    intro tables other _ apart
    rw [upsertInterface_ofDevice, mine tables, if_neg apart]

theorem upsertRuntime {state : Projections → MrRuntimeState}
    (mine : ∀ tables, (state tables).deviceUuid = device)
    (local' : ∀ tables, state (tables.ofDevice device) = state tables) :
    LocalChange deviceOf device fun tables => tables.upsertRuntime (state tables) where
  keeps _ owned := owned
  own := by
    intro tables _
    rw [upsertRuntime_ofDevice, if_pos (mine tables), local' tables]
  other := by
    intro tables other _ apart
    rw [upsertRuntime_ofDevice, mine tables, if_neg apart]

theorem insertCorrelation {correlation : Correlation} (mine : correlation.deviceUuid = device)
    (known : deviceOf correlation.ifnetEventId = device) :
    LocalChange deviceOf device fun tables => tables.insertCorrelation correlation where
  keeps := by
    intro tables owned other mem
    rcases mem_insertRow mem with rfl | stored
    · rw [mine, known]
    · exact owned other stored
  own := by
    intro tables owned
    rw [insertCorrelation_ofDevice owned (mine.trans known.symm), if_pos mine]
  other := by
    intro tables other owned apart
    rw [insertCorrelation_ofDevice owned (mine.trans known.symm), mine, if_neg apart]

end LocalChange

section Projection

variable (lib : RadioLibrary) (clock : ControlEvent → Moment) {deviceOf : Nat → String}

theorem runtimeOrNew_ofDevice (tables : Projections) (device : String) :
    (tables.ofDevice device).runtimeOrNew device = tables.runtimeOrNew device := by
  unfold Projections.runtimeOrNew
  rw [runtimeState_ofDevice]

theorem refreshMrSummary_local (event : ControlEvent) :
    LocalChange deviceOf event.deviceUuid (refreshMrSummary event) := by
  apply LocalChange.upsertRuntime
  · intro tables
    rfl
  · intro tables
    rw [runtimeOrNew_ofDevice, interfacesOf_ofDevice]

theorem correlateRuntime_local (ifnet : ControlEvent) (confidence : Confidence)
    (transitions : Nat) : LocalChange deviceOf ifnet.deviceUuid
      (correlateRuntime lib ifnet confidence transitions) := by
  apply LocalChange.upsertRuntime
  · intro tables
    rfl
  · intro tables
    rw [runtimeOrNew_ofDevice]

theorem storeCorrelated_local (ifnet : ControlEvent) (confidence : Confidence)
    {correlated : InterfaceState} (mine : correlated.deviceUuid = ifnet.deviceUuid) :
    LocalChange deviceOf ifnet.deviceUuid (storeCorrelated lib ifnet confidence correlated) := by
  have stored : LocalChange deviceOf ifnet.deviceUuid
      fun tables => tables.upsertInterface correlated :=
    .upsertInterface (fun _ => mine) fun _ => rfl
  exact (stored.comp (correlateRuntime_local _ ifnet confidence _)).comp
    (refreshMrSummary_local ifnet)

theorem projectCorrelation_local (cfg ifnet : ControlEvent) (confidence : Confidence) :
    LocalChange deviceOf ifnet.deviceUuid (projectCorrelation lib clock cfg ifnet confidence) := by
  have local' : ∀ tables : Projections, stateToCorrelate ifnet (tables.ofDevice ifnet.deviceUuid) =
        stateToCorrelate ifnet tables := by
    intro tables
    unfold stateToCorrelate
    rw [interfaceState_ofDevice]
  have each : ∀ state, LocalChange deviceOf ifnet.deviceUuid (storeCorrelated lib ifnet confidence
        (correlatedState lib clock cfg ifnet confidence state)) :=
    fun state => storeCorrelated_local lib ifnet confidence rfl
  have done := LocalChange.read local' each
  exact done

theorem correlate_local {cfg ifnet : ControlEvent} {device : String}
    (mine : ifnet.deviceUuid = device) (known : deviceOf ifnet.id = device) :
    LocalChange deviceOf device (correlate lib clock cfg ifnet) := by
  subst mine
  unfold correlate
  dsimp only
  split
  · exact .id'
  · apply LocalChange.choose
    · intro tables owned
      rw [← known, hasCorrelation_ofDevice owned]
    · exact .id'
    · have inserted : ∀ deltaMs confidence, LocalChange deviceOf ifnet.deviceUuid fun tables =>
          tables.insertCorrelation (newCorrelation cfg ifnet deltaMs confidence) :=
        fun _ _ => .insertCorrelation rfl known
      exact (inserted _ _).comp (projectCorrelation_local _ _ cfg ifnet _)

/-- The events near to one are events of its device. -/
structure NearbyOwned (deviceOf : Nat → String) (device : String) (nearby : Nearby) : Prop where
  mine : ∀ family, ∀ other ∈ nearby family, other.deviceUuid = device
  known : ∀ family, ∀ other ∈ nearby family, deviceOf other.id = device

variable {event : ControlEvent}

theorem projectCfgman_local {nearby : Nearby} (owned : NearbyOwned deviceOf event.deviceUuid nearby)
    : LocalChange deviceOf event.deviceUuid (projectCfgman lib clock nearby event) := by
  unfold projectCfgman
  split
  · exact .id'
  · have changed : LocalChange deviceOf event.deviceUuid fun tables =>
        tables.upsertRuntime (cfgmanState lib event
          (tables.runtimeOrNew event.deviceUuid)) := by
      apply LocalChange.upsertRuntime
      · intro tables
        rfl
      · intro tables
        rw [runtimeOrNew_ofDevice]
    split
    · exact changed
    · have correlated : LocalChange deviceOf event.deviceUuid fun tables =>
          (radioEvents lib nearby).foldl
            (fun tables ifnet => correlate lib clock event ifnet tables) tables := by
        apply LocalChange.foldl
        intro ifnet mem
        have listed := mem_of_mem_filter mem
        exact correlate_local _ _ (owned.mine .ifnet ifnet listed) (owned.known .ifnet ifnet listed)
      exact changed.comp correlated

theorem correlateNearbyCfgman_local (nearby : Nearby) (known : deviceOf event.id = event.deviceUuid)
    : LocalChange deviceOf event.deviceUuid (correlateNearbyCfgman lib clock nearby event) := by
  apply LocalChange.foldl
  intro cfg _
  exact correlate_local _ _ rfl known

theorem projectIfnet_local (nearby : Nearby) (known : deviceOf event.id = event.deviceUuid) :
    LocalChange deviceOf event.deviceUuid (projectIfnet lib clock nearby event) := by
  unfold projectIfnet
  split
  · exact .id'
  · split
    · exact .id'
    · next physical _ =>
      have local' : ∀ tables : Projections,
          stateToChange event (tables.ofDevice event.deviceUuid) = stateToChange event tables := by
        intro tables
        unfold stateToChange
        rw [interfaceState_ofDevice]
      have each : ∀ current, LocalChange deviceOf event.deviceUuid
          (storeTransition lib clock event physical current) := by
        intro current
        unfold storeTransition
        split
        · exact .id'
        · exact .upsertInterface (fun _ => rfl) fun _ => rfl
      exact ((LocalChange.read local' each).comp (refreshMrSummary_local event)).comp
        (correlateNearbyCfgman_local _ _ nearby known)

theorem project_local {nearby : Nearby} (known : deviceOf event.id = event.deviceUuid)
    (owned : NearbyOwned deviceOf event.deviceUuid nearby) :
    LocalChange deviceOf event.deviceUuid (project lib clock nearby event) := by
  unfold project
  split
  · exact projectCfgman_local _ _ owned
  · split
    · exact projectIfnet_local _ _ nearby known
    · exact .id'

end Projection

end NetConsole.Radio
