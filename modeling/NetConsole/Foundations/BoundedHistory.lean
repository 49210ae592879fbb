import NetConsole.Foundations.NewestWindow
import Mathlib.Data.List.Chain
import Mathlib.Data.Prod.Lex
import Mathlib.Data.String.Basic

/-!
# Current rows with a bounded history of their changes

Observations of entities are kept in two tables: a current row for each entity,
and a history with one row for each change. An observation whose fingerprint is
that of the current row changes nothing in the history. A change adds a row with
the state before it, and then the history of the entity is cut to its newest rows,
by the time that the observations give and by their ids.

The history of an entity is the end of its list of changes as long as the times do
not run against the order of arrival where rows are cut, and no observation is
recorded beside a current row that it leaves as it is (`Chronological`). Each row
then continues the row before it (`Recorded.record`).
-/

set_option autoImplicit false

namespace NetConsole.Foundations

open List Function

variable {Key Current Observation : Type} [DecidableEq Key]

/-- A change of an entity, with the state before it. -/
structure HistoryRow (Key Observation : Type) where
  entity : Key
  id : Nat
  observed : Observation
  (previousState changedAt : String)

/-- The current row of each entity, and the changes of all. -/
structure HistoryTables (Key Current Observation : Type) where
  current : Key → Option Current
  history : List (HistoryRow Key Observation)
  lastId : Nat

/-- How observations become rows. The current row shows the state that it was written with. -/
structure HistoryRules (Key Current Observation : Type) where
  limit : Nat
  entityOf : Observation → Key
  stateOf : Observation → String
  fingerprintOf : Observation → String
  changedAtOf : Observation → String
  insertCurrent : Observation → Current
  updateCurrent : Bool → Current → Observation → Current
  currentState : Current → String
  currentFingerprint : Current → String
  state_insert : ∀ observed, currentState (insertCurrent observed) = stateOf observed
  fingerprint_insert : ∀ observed,
    currentFingerprint (insertCurrent observed) = fingerprintOf observed
  state_update : ∀ changed row observed,
    currentState (updateCurrent changed row observed) = stateOf observed
  fingerprint_update : ∀ changed row observed,
    currentFingerprint (updateCurrent changed row observed) = fingerprintOf observed

namespace HistoryTables

/-- The history of an entity, in the order of the ids. -/
def historyOf (tables : HistoryTables Key Current Observation) (entity : Key) :
    List (HistoryRow Key Observation) :=
  tables.history.filter fun row => row.entity = entity

/-- `ORDER BY changed_at DESC, id DESC`. -/
def rowOrder (row : HistoryRow Key Observation) : String ×ₗ Nat := toLex (row.changedAt, row.id)

/-- `DELETE … WHERE id NOT IN (SELECT id … ORDER BY changed_at DESC, id DESC LIMIT …)`. -/
def prune (limit : Nat) (entity : Key) (tables : HistoryTables Key Current Observation) :
    HistoryTables Key Current Observation :=
  let kept := (newest rowOrder limit (tables.historyOf entity)).map HistoryRow.id
  { tables with history := tables.history.filter fun row => row.entity ≠ entity ∨ row.id ∈ kept }

/-- A row for a change, with the next id. -/
def append (rules : HistoryRules Key Current Observation) (previousState : String)
    (observed : Observation) (tables : HistoryTables Key Current Observation) :
    HistoryTables Key Current Observation :=
  { tables with
    history := tables.history ++
      [{ entity := rules.entityOf observed, id := tables.lastId + 1, observed, previousState
         changedAt := rules.changedAtOf observed }]
    lastId := tables.lastId + 1 }

def setCurrent (entity : Key) (row : Current) (tables : HistoryTables Key Current Observation) :
    HistoryTables Key Current Observation :=
  { tables with current := Function.update tables.current entity (some row) }

/-- One observation. With `preserve` the current row stays as it is. -/
def record (rules : HistoryRules Key Current Observation) (preserve : Bool)
    (observed : Observation) (tables : HistoryTables Key Current Observation) :
    HistoryTables Key Current Observation :=
  let entity := rules.entityOf observed
  match tables.current entity with
  | none => tables.setCurrent entity (rules.insertCurrent observed)
  | some row =>
    let changed := rules.currentFingerprint row != rules.fingerprintOf observed
    let appended :=
      if changed then tables.append rules (rules.currentState row) observed else tables
    let updated :=
      if preserve then appended
      else appended.setCurrent entity (rules.updateCurrent changed row observed)
    if changed then updated.prune rules.limit entity else updated

def empty : HistoryTables Key Current Observation :=
  { current _ := none, history := [], lastId := 0 }

end HistoryTables

/-! ## The changes of an entity -/

/-- What was observed of an entity: the last observation, and every change with the state
before it. -/
structure Observed (Observation : Type) where
  last : Option Observation
  changes : List (String × Observation)

def Observed.nothing : Observed Observation := { last := none, changes := [] }

def Observed.observe (rules : HistoryRules Key Current Observation) (seen : Observed Observation)
    (observed : Observation) : Observed Observation :=
  match seen.last with
  | none => { last := some observed, changes := seen.changes }
  | some last =>
    { last := some observed
      changes :=
        if rules.fingerprintOf last = rules.fingerprintOf observed then seen.changes
        else seen.changes ++ [(rules.stateOf last, observed)] }

/-- An observation is seen of its entity. -/
def see (rules : HistoryRules Key Current Observation) (seen : Key → Observed Observation)
    (observed : Observation) : Key → Observed Observation :=
  Function.update seen (rules.entityOf observed)
    ((seen (rules.entityOf observed)).observe rules observed)

/-- A change goes on from the one before it, to something else. -/
def Continues (rules : HistoryRules Key Current Observation)
    (one two : String × Observation) : Prop :=
  rules.fingerprintOf one.2 ≠ rules.fingerprintOf two.2 ∧ two.1 = rules.stateOf one.2

/-- The condition under which an observation is recorded in turn. Equal fingerprints mean
equal states; a change is not made beside a preserved current row; and where the history of the
entity is full, its first row has the earliest time. -/
structure Chronological (rules : HistoryRules Key Current Observation)
    (tables : HistoryTables Key Current Observation) (preserve : Bool) (observed : Observation) :
    Prop where
  collisionFree : ∀ row, tables.current (rules.entityOf observed) = some row →
    rules.currentFingerprint row = rules.fingerprintOf observed →
    rules.currentState row = rules.stateOf observed
  replaces : ∀ row, tables.current (rules.entityOf observed) = some row →
    rules.currentFingerprint row ≠ rules.fingerprintOf observed → preserve = false
  oldestFirst : ∀ row, tables.current (rules.entityOf observed) = some row →
    rules.currentFingerprint row ≠ rules.fingerprintOf observed →
    ∀ oldest rest, tables.historyOf (rules.entityOf observed) = oldest :: rest →
    rules.limit ≤ rest.length + 1 →
    oldest.changedAt ≤ rules.changedAtOf observed ∧
      ∀ later ∈ rest, oldest.changedAt ≤ later.changedAt

/-- `Chronological`, as a test of the tables. -/
def Chronological.holds (rules : HistoryRules Key Current Observation)
    (tables : HistoryTables Key Current Observation) (preserve : Bool) (observed : Observation) :
    Bool :=
  match tables.current (rules.entityOf observed) with
  | none => true
  | some row =>
    if rules.currentFingerprint row = rules.fingerprintOf observed then
      decide (rules.currentState row = rules.stateOf observed)
    else
      !preserve &&
        match tables.historyOf (rules.entityOf observed) with
        | [] => true
        | oldest :: rest =>
          decide (rest.length + 1 < rules.limit) ||
            (decide (oldest.changedAt ≤ rules.changedAtOf observed) &&
              rest.all fun later => decide (oldest.changedAt ≤ later.changedAt))

theorem Chronological.of_holds {rules : HistoryRules Key Current Observation}
    {tables : HistoryTables Key Current Observation} {preserve : Bool} {observed : Observation}
    (tested : Chronological.holds rules tables preserve observed = true) :
    Chronological rules tables preserve observed := by
  unfold Chronological.holds at tested
  constructor
  · intro row there same
    simpa [there, same] using tested
  · intro row there changed
    simp only [there, if_neg changed, Bool.and_eq_true] at tested
    simpa using tested.1
  · intro row there changed oldest rest stored full
    simp only [there, if_neg changed, stored, Bool.and_eq_true, Bool.or_eq_true, decide_eq_true_eq,
      all_eq_true] at tested
    rcases tested.2 with room | early
    · omega
    · exact early

/-- The change that a row tells of. -/
def HistoryRow.change (row : HistoryRow Key Observation) : String × Observation :=
  (row.previousState, row.observed)

/-- The tables, against what was observed of every entity. -/
structure Recorded (rules : HistoryRules Key Current Observation)
    (seen : Key → Observed Observation) (tables : HistoryTables Key Current Observation) :
    Prop where
  numbered : (tables.history.map HistoryRow.id).Pairwise (· < ·)
  bounded : ∀ row ∈ tables.history, row.id ≤ tables.lastId
  absent : ∀ entity, tables.current entity = none → (seen entity).last = none
  present : ∀ entity row, tables.current entity = some row →
    ∃ last, (seen entity).last = some last ∧ rules.currentState row = rules.stateOf last ∧
      rules.currentFingerprint row = rules.fingerprintOf last
  kept : ∀ entity, (tables.historyOf entity).map HistoryRow.change =
    (seen entity).changes.drop ((seen entity).changes.length - rules.limit)
  linked : ∀ entity, (seen entity).changes.IsChain (Continues rules)
  newest : ∀ entity change, (seen entity).changes.getLast? = some change →
    ∃ last, (seen entity).last = some last ∧ rules.stateOf change.2 = rules.stateOf last ∧
      rules.fingerprintOf change.2 = rules.fingerprintOf last

/-! ## Cutting a history -/

namespace HistoryTables

variable {tables : HistoryTables Key Current Observation} {entity other : Key} {limit : Nat}

theorem historyOf_prune_self : (tables.prune limit entity).historyOf entity =
    (tables.historyOf entity).filter fun row =>
      row.id ∈ (newest rowOrder limit (tables.historyOf entity)).map HistoryRow.id := by
  unfold prune historyOf
  simp only [filter_filter]
  apply filter_congr
  intro row _
  by_cases here : row.entity = entity <;> simp [here]

theorem historyOf_prune_of_ne (differ : other ≠ entity) :
    (tables.prune limit entity).historyOf other = tables.historyOf other := by
  unfold prune historyOf
  simp only [filter_filter]
  apply filter_congr
  intro row _
  by_cases here : row.entity = other
  · have elsewhere : row.entity ≠ entity := here ▸ differ
    simp [here, differ]
  · simp [here]

/-- A history within its bound is not cut. -/
theorem historyOf_prune_of_short (short : (tables.historyOf entity).length ≤ limit) :
    (tables.prune limit entity).historyOf entity = tables.historyOf entity := by
  rw [historyOf_prune_self, newest_of_length_le rowOrder short, filter_eq_self]
  intro row mem
  rw [decide_eq_true_eq]
  exact mem_map.mpr ⟨row, (mem_newestFirst rowOrder).mpr mem, rfl⟩

/-- A history with one row too many loses its first row when that has the earliest time. -/
theorem historyOf_prune_of_oldest {oldest : HistoryRow Key Observation}
    {rest : List (HistoryRow Key Observation)} (whole : tables.historyOf entity = oldest :: rest)
    (full : rest.length = limit) (numbered : ((oldest :: rest).map HistoryRow.id).Pairwise (· < ·))
    (earliest : ∀ row ∈ rest, oldest.changedAt ≤ row.changedAt) :
    (tables.prune limit entity).historyOf entity = rest := by
  rw [map_cons, pairwise_cons] at numbered
  have later : ∀ row ∈ rest, oldest.id < row.id :=
    fun row mem => numbered.1 row.id (mem_map_of_mem mem)
  have least : ∀ row ∈ rest, rowOrder oldest < rowOrder row := by
    intro row mem
    rw [rowOrder, rowOrder, Prod.Lex.toLex_lt_toLex]
    rcases (earliest row mem).lt_or_eq with before | same
    · exact .inl before
    · exact .inr ⟨same, later row mem⟩
  rw [historyOf_prune_self, whole, ← full, newest_cons_of_oldest rowOrder least]
  have oldestCut : oldest.id ∉ (newestFirst rowOrder rest).map HistoryRow.id := by
    intro mem
    obtain ⟨row, inRest, same⟩ := mem_map.mp mem
    have below := later row ((mem_newestFirst rowOrder).mp inRest)
    omega
  rw [filter_cons_of_neg (by simpa using oldestCut), filter_eq_self]
  intro row mem
  rw [decide_eq_true_eq]
  exact mem_map.mpr ⟨row, (mem_newestFirst rowOrder).mpr mem, rfl⟩

/-! ## Adding a row -/

variable {rules : HistoryRules Key Current Observation} {observed : Observation}
  {previousState : String}

theorem historyOf_append_self :
    (tables.append rules previousState observed).historyOf (rules.entityOf observed) =
      tables.historyOf (rules.entityOf observed) ++
        [{ entity := rules.entityOf observed, id := tables.lastId + 1, observed, previousState
           changedAt := rules.changedAtOf observed }] := by
  simp [append, historyOf]

theorem historyOf_append_of_ne (differ : other ≠ rules.entityOf observed) :
    (tables.append rules previousState observed).historyOf other = tables.historyOf other := by
  have elsewhere : ¬rules.entityOf observed = other := fun same => differ same.symm
  simp [append, historyOf, elsewhere]

theorem historyOf_setCurrent (row : Current) :
    (tables.setCurrent entity row).historyOf other = tables.historyOf other := rfl

variable (rules tables observed) in
theorem current_record : ∃ row, (row = rules.insertCurrent observed ∨
      ∃ changed old, row = rules.updateCurrent changed old observed) ∧
    (tables.record rules false observed).current =
      Function.update tables.current (rules.entityOf observed) (some row) := by
  cases stored : tables.current (rules.entityOf observed) with
  | none =>
    refine ⟨_, .inl rfl, ?_⟩
    simp only [record, stored, setCurrent]
  | some old =>
    refine ⟨_, .inr ⟨rules.currentFingerprint old != rules.fingerprintOf observed, old, rfl⟩, ?_⟩
    simp only [record, stored, Bool.false_eq_true, if_false]
    split
    · rfl
    · rfl

omit [DecidableEq Key] in
/-- The ids stay in order. -/
theorem numbered_append (numbered : (tables.history.map HistoryRow.id).Pairwise (· < ·))
    (bounded : ∀ row ∈ tables.history, row.id ≤ tables.lastId) :
    ((tables.append rules previousState observed).history.map HistoryRow.id).Pairwise (· < ·) := by
  unfold append
  rw [map_append, pairwise_append]
  refine ⟨numbered, pairwise_singleton _ _, ?_⟩
  intro id mem last lastMember
  obtain ⟨row, listed, rfl⟩ := mem_map.mp mem
  have below := bounded row listed
  have same : last = tables.lastId + 1 := mem_singleton.mp lastMember
  omega

theorem numbered_historyOf (numbered : (tables.history.map HistoryRow.id).Pairwise (· < ·)) :
    ((tables.historyOf entity).map HistoryRow.id).Pairwise (· < ·) :=
  numbered.sublist (filter_sublist.map _)

end HistoryTables

/-! ## Recording an observation -/

theorem drop_concat {α : Type} {limit : Nat} (items : List α) (item : α)
    (full : limit ≤ items.length) : ((items.drop (items.length - limit)) ++ [item]).drop 1 =
      (items ++ [item]).drop ((items ++ [item]).length - limit) := by
  rw [← drop_append_of_le_length (Nat.sub_le _ _), drop_drop, length_append, length_singleton]
  congr 1
  omega

namespace Recorded

variable {rules : HistoryRules Key Current Observation} {seen : Key → Observed Observation}
  {tables : HistoryTables Key Current Observation}

theorem empty (rules : HistoryRules Key Current Observation) :
    Recorded rules (fun _ => .nothing) HistoryTables.empty where
  numbered := List.Pairwise.nil
  bounded := by
    intro row impossible
    cases impossible
  absent _ _ := rfl
  present := by
    intro entity row impossible
    cases impossible
  kept := by
    intro entity
    simp [HistoryTables.historyOf, HistoryTables.empty, Observed.nothing]
  linked _ := isChain_nil
  newest := by
    intro entity change impossible
    cases impossible

variable (recorded : Recorded rules seen tables)
include recorded

/-- The history of an entity stays within its bound. -/
theorem length_historyOf (entity : Key) :
    (tables.historyOf entity).length = min rules.limit (seen entity).changes.length := by
  have counted := congrArg List.length (recorded.kept entity)
  rw [length_map, length_drop] at counted
  omega

variable {observed : Observation} {preserve : Bool} {row : Current}

theorem kept_record (there : tables.current (rules.entityOf observed) = some row)
    (changed : rules.currentFingerprint row ≠ rules.fingerprintOf observed)
    (chronological : Chronological rules tables preserve observed) :
    (((tables.append rules (rules.currentState row) observed).prune rules.limit
        (rules.entityOf observed)).historyOf (rules.entityOf observed)).map HistoryRow.change =
      ((seen (rules.entityOf observed)).changes ++ [(rules.currentState row, observed)]).drop
        (((seen (rules.entityOf observed)).changes ++
          [(rules.currentState row, observed)]).length - rules.limit) := by
  have before := recorded.kept (rules.entityOf observed)
  have counted := recorded.length_historyOf (rules.entityOf observed)
  have appended : (tables.append rules (rules.currentState row) observed).historyOf
      (rules.entityOf observed) = _ := HistoryTables.historyOf_append_self
  have numbered : (((tables.append rules (rules.currentState row) observed).historyOf
      (rules.entityOf observed)).map HistoryRow.id).Pairwise (· < ·) :=
    HistoryTables.numbered_historyOf
      (HistoryTables.numbered_append recorded.numbered recorded.bounded)
  rcases Nat.lt_or_ge (seen (rules.entityOf observed)).changes.length rules.limit with room | full
  · have short : ((tables.append rules (rules.currentState row) observed).historyOf
        (rules.entityOf observed)).length ≤ rules.limit := by
      rw [appended, length_append, length_singleton]
      omega
    rw [HistoryTables.historyOf_prune_of_short short, appended, map_append, before]
    have nothingCut : (seen (rules.entityOf observed)).changes.length - rules.limit = 0 := by omega
    have stillNothing : ((seen (rules.entityOf observed)).changes ++
        [(rules.currentState row, observed)]).length - rules.limit = 0 := by
      rw [length_append, length_singleton]
      omega
    rw [nothingCut, stillNothing]
    rfl
  · obtain ⟨oldest, rest, whole⟩ : ∃ oldest rest,
        (tables.append rules (rules.currentState row) observed).historyOf
          (rules.entityOf observed) = oldest :: rest := by
      rw [appended]
      exact exists_cons_of_ne_nil (concat_ne_nil _ _)
    have restFull : rest.length = rules.limit := by
      have total := congrArg List.length (appended.symm.trans whole)
      rw [length_append, length_singleton, length_cons] at total
      omega
    have earliest : ∀ later ∈ rest, oldest.changedAt ≤ later.changedAt := by
      rw [appended] at whole
      cases stored : tables.historyOf (rules.entityOf observed) with
      | nil =>
        rw [stored, nil_append] at whole
        obtain ⟨_, rfl⟩ := List.cons.inj whole
        simp
      | cons first others =>
        rw [stored, cons_append] at whole
        obtain ⟨rfl, rfl⟩ := List.cons.inj whole
        rw [length_append, length_singleton] at restFull
        obtain ⟨toNew, toOthers⟩ := chronological.oldestFirst row there changed first others stored
          (by omega)
        intro later mem
        rcases mem_append.mp mem with mem | mem
        · exact toOthers later mem
        · rw [mem_singleton.mp mem]
          exact toNew
    rw [HistoryTables.historyOf_prune_of_oldest whole restFull (whole ▸ numbered) earliest]
    calc rest.map HistoryRow.change = ((oldest :: rest).drop 1).map HistoryRow.change := rfl
      _ = ((tables.historyOf (rules.entityOf observed)).map HistoryRow.change ++
            [(rules.currentState row, observed)]).drop 1 := by
          rw [← whole, appended, map_drop, map_append]
          rfl
      _ = _ := by rw [before, drop_concat _ _ full]

theorem update {entity : Key}
    {after : HistoryTables Key Current Observation} {now : Observed Observation} (row : Current)
    (last : Observation) (numbered : (after.history.map HistoryRow.id).Pairwise (· < ·))
    (bounded : ∀ row ∈ after.history, row.id ≤ after.lastId)
    (others : ∀ other, other ≠ entity → after.current other = tables.current other ∧
      after.historyOf other = tables.historyOf other)
    (current : after.current entity = some row) (isLast : now.last = some last)
    (sameState : rules.currentState row = rules.stateOf last)
    (sameFingerprint : rules.currentFingerprint row = rules.fingerprintOf last)
    (kept : (after.historyOf entity).map HistoryRow.change =
      now.changes.drop (now.changes.length - rules.limit))
    (linked : now.changes.IsChain (Continues rules))
    (newest : ∀ change, now.changes.getLast? = some change →
      rules.stateOf change.2 = rules.stateOf last ∧
        rules.fingerprintOf change.2 = rules.fingerprintOf last) :
    Recorded rules (Function.update seen entity now) after where
  numbered := numbered
  bounded := bounded
  absent := by
    intro other absent
    by_cases here : other = entity
    · rw [here, current] at absent
      cases absent
    · rw [(others other here).1] at absent
      rw [update_of_ne here]
      exact recorded.absent other absent
  present := by
    intro other found present
    by_cases here : other = entity
    · rw [here, current] at present
      cases present
      rw [here, update_self]
      exact ⟨last, isLast, sameState, sameFingerprint⟩
    · rw [(others other here).1] at present
      rw [update_of_ne here]
      exact recorded.present other found present
  kept := by
    intro other
    by_cases here : other = entity
    · rw [here, update_self]
      exact kept
    · rw [update_of_ne here, (others other here).2]
      exact recorded.kept other
  linked := by
    intro other
    by_cases here : other = entity
    · rw [here, update_self]
      exact linked
    · rw [update_of_ne here]
      exact recorded.linked other
  newest := by
    intro other change isNewest
    by_cases here : other = entity
    · rw [here, update_self] at isNewest ⊢
      exact ⟨last, isLast, newest change isNewest⟩
    · rw [update_of_ne here] at isNewest ⊢
      exact recorded.newest other change isNewest

theorem record_change (there : tables.current (rules.entityOf observed) = some row)
    (changed : rules.currentFingerprint row ≠ rules.fingerprintOf observed)
    (chronological : Chronological rules tables preserve observed) :
    Recorded rules (see rules seen observed)
      (((tables.append rules (rules.currentState row) observed).setCurrent
        (rules.entityOf observed) (rules.updateCurrent true row observed)).prune rules.limit
          (rules.entityOf observed)) := by
  obtain ⟨last, isLast, sameState, sameFingerprint⟩ := recorded.present _ row there
  have differ : rules.fingerprintOf last ≠ rules.fingerprintOf observed := sameFingerprint ▸ changed
  have observedNow : (seen (rules.entityOf observed)).observe rules observed =
      { last := some observed
        changes := (seen (rules.entityOf observed)).changes ++
          [(rules.currentState row, observed)] } := by
    rw [Observed.observe, isLast]
    simp only [if_neg differ, sameState]
  rw [see, observedNow]
  refine recorded.update (rules.updateCurrent true row observed) observed ?_ ?_ ?_ ?_ rfl
    (rules.state_update _ _ _) (rules.fingerprint_update _ _ _) ?_ ?_ ?_
  · exact (HistoryTables.numbered_append recorded.numbered recorded.bounded).sublist
      (filter_sublist.map _)
  · intro kept mem
    rcases mem_append.mp (mem_of_mem_filter mem) with stored | new
    · exact Nat.le_succ_of_le (recorded.bounded kept stored)
    · rw [mem_singleton.mp new]
      exact Nat.le_refl _
  · intro other elsewhere
    constructor
    · exact update_of_ne elsewhere _ _
    · rw [HistoryTables.historyOf_prune_of_ne elsewhere, HistoryTables.historyOf_setCurrent,
        HistoryTables.historyOf_append_of_ne elsewhere]
  · exact update_self _ _ _
  · exact recorded.kept_record there changed chronological
  · apply List.IsChain.append (recorded.linked _) (isChain_singleton _)
    intro one isNewest two isNew
    obtain ⟨_, isBefore, state, fingerprint⟩ := recorded.newest _ one isNewest
    rw [isLast] at isBefore
    cases isBefore
    cases isNew
    exact ⟨fingerprint ▸ differ, sameState.trans state.symm⟩
  · intro change isNewest
    rw [List.getLast?_concat] at isNewest
    cases isNewest
    exact ⟨rfl, rfl⟩

/-- An observation of an entity in turn. -/
theorem record (chronological : Chronological rules tables preserve observed) :
    Recorded rules (see rules seen observed) (tables.record rules preserve observed) := by
  unfold HistoryTables.record see
  simp only
  cases there : tables.current (rules.entityOf observed) with
  | none =>
    have unseen := recorded.absent _ there
    have observedNow : (seen (rules.entityOf observed)).observe rules observed =
        { last := some observed, changes := (seen (rules.entityOf observed)).changes } := by
      rw [Observed.observe, unseen]
    rw [observedNow]
    refine recorded.update (rules.insertCurrent observed) observed recorded.numbered
      recorded.bounded ?_ (update_self _ _ _) rfl (rules.state_insert _)
      (rules.fingerprint_insert _) (recorded.kept _) (recorded.linked _) ?_
    · intro other elsewhere
      exact ⟨update_of_ne elsewhere _ _, rfl⟩
    · intro change isNewest
      obtain ⟨last, isLast, _⟩ := recorded.newest _ change isNewest
      rw [unseen] at isLast
      cases isLast
  | some row =>
    by_cases changed : rules.currentFingerprint row = rules.fingerprintOf observed
    · obtain ⟨last, isLast, sameState, sameFingerprint⟩ := recorded.present _ row there
      have state := chronological.collisionFree row there changed
      have fingerprint : rules.fingerprintOf last = rules.fingerprintOf observed :=
        sameFingerprint.symm.trans changed
      have observedNow : (seen (rules.entityOf observed)).observe rules observed =
          { last := some observed, changes := (seen (rules.entityOf observed)).changes } := by
        rw [Observed.observe, isLast]
        simp only [if_pos fingerprint]
      have newest : ∀ change, (seen (rules.entityOf observed)).changes.getLast? = some change →
          rules.stateOf change.2 = rules.stateOf observed ∧
            rules.fingerprintOf change.2 = rules.fingerprintOf observed := by
        intro change isNewest
        obtain ⟨_, isBefore, beforeState, beforeFingerprint⟩ :=
          recorded.newest _ change isNewest
        rw [isLast] at isBefore
        cases isBefore
        exact ⟨beforeState.trans (sameState.symm.trans state), beforeFingerprint.trans fingerprint⟩
      rw [observedNow]
      simp only [changed, bne_self_eq_false, Bool.false_eq_true]
      cases preserve with
      | true =>
        exact recorded.update row observed recorded.numbered recorded.bounded
          (fun _ _ => ⟨rfl, rfl⟩) there rfl state changed (recorded.kept _)
            (recorded.linked _) newest
      | false =>
        refine recorded.update (rules.updateCurrent false row observed) observed
          recorded.numbered recorded.bounded ?_ (update_self _ _ _) rfl
          (rules.state_update _ _ _) (rules.fingerprint_update _ _ _) (recorded.kept _)
          (recorded.linked _) newest
        intro other elsewhere
        exact ⟨update_of_ne elsewhere _ _, rfl⟩
    · obtain rfl := chronological.replaces row there changed
      simp only [bne_iff_ne.mpr changed, Bool.false_eq_true]
      exact recorded.record_change there changed chronological

end Recorded

/-! ## Histories of changes -/

/-- The history of an entity, as it should be: the last of its changes, each row going on from
the row before it up to the current row, and no row for an observation that repeats. -/
structure ChangeHistory (rules : HistoryRules Key Current Observation)
    (tables : HistoryTables Key Current Observation) (entity : Key)
    (changes : List (String × Observation)) : Prop where
  kept : (tables.historyOf entity).map HistoryRow.change = changes.drop
    (changes.length - rules.limit)
  differ : (tables.historyOf entity).IsChain fun one two =>
    rules.fingerprintOf one.observed ≠ rules.fingerprintOf two.observed
  linked : (tables.historyOf entity).IsChain fun one two =>
    two.previousState = rules.stateOf one.observed
  newest : ∀ row, (tables.historyOf entity).getLast? = some row →
    ∃ current, tables.current entity = some current ∧
      rules.currentState current = rules.stateOf row.observed ∧
      rules.currentFingerprint current = rules.fingerprintOf row.observed
  repeats : ∀ preserve observed current, rules.entityOf observed = entity →
    tables.current entity = some current →
    rules.currentFingerprint current = rules.fingerprintOf observed →
    (tables.record rules preserve observed).history = tables.history

variable {tables : HistoryTables Key Current Observation}
  {rules : HistoryRules Key Current Observation}

theorem HistoryTables.history_record_of_same {preserve : Bool} {observed : Observation}
    {row : Current} (there : tables.current (rules.entityOf observed) = some row)
    (same : rules.currentFingerprint row = rules.fingerprintOf observed) :
    (tables.record rules preserve observed).history = tables.history := by
  unfold HistoryTables.record
  simp only [there, same, bne_self_eq_false, Bool.false_eq_true, if_false]
  split <;> rfl

theorem Recorded.changeHistory {seen : Key → Observed Observation}
    (recorded : Recorded rules seen tables) (entity : Key) :
    ChangeHistory rules tables entity (seen entity).changes := by
  have chain : (tables.historyOf entity).IsChain fun one two =>
      Continues rules one.change two.change := by
    rw [← isChain_map, recorded.kept]
    exact (recorded.linked entity).drop _
  refine ⟨recorded.kept entity, chain.imp fun _ _ continues => continues.1,
    chain.imp fun _ _ continues => continues.2, ?_, ?_⟩
  · intro row isNewest
    have isLastChange : (seen entity).changes.getLast? = some row.change := by
      have ends := congrArg List.getLast? (recorded.kept entity)
      rw [List.getLast?_map, isNewest, List.getLast?_drop] at ends
      split at ends
      · cases ends
      · exact ends.symm
    obtain ⟨_, isLast, state, fingerprint⟩ := recorded.newest entity _ isLastChange
    cases there : tables.current entity with
    | none =>
      rw [recorded.absent entity there] at isLast
      cases isLast
    | some current =>
      obtain ⟨_, isBefore, sameState, sameFingerprint⟩ := recorded.present entity current there
      rw [isLast] at isBefore
      cases isBefore
      exact ⟨current, rfl, sameState.trans state.symm, sameFingerprint.trans fingerprint.symm⟩
  · intro preserve observed current same there repeated
    subst same
    exact HistoryTables.history_record_of_same there repeated

end NetConsole.Foundations
