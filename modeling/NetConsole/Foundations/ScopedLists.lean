import Mathlib.Data.List.Sort

/-!
# Lists whose elements belong to scopes

A stable sort and a choice of elements commute (`filter_sortBy`), so that the
elements of one scope are sorted as if they were alone.

Runs are different. A run is a maximal stretch of elements that are kept and of which each joins the
next one. A loop that carries the run it is in, and gives it away when it ends,
collects the runs (`collect_eq_runs`). Elements that join share their scope, but
the loop looks at neighbours in the whole list: two elements of a scope
that would be neighbours in that scope alone belong to different runs when an
element of another scope stands between them. So the runs of a scope within the
whole list are the runs of the scope alone exactly if no such pair would have
joined (`scopeRuns_eq_iff`).
-/

set_option autoImplicit false

namespace NetConsole.Foundations

open List

/-! ## Stable sorts -/

section Sorting

variable {Element Other Key : Type} [LinearOrder Key]

/-- The elements in the order of their keys; equal keys keep their order. -/
def sortBy (key : Element → Key) (list : List Element) : List Element :=
  list.insertionSort fun one two => key one ≤ key two

variable (key : Element → Key)

theorem sortBy_perm (list : List Element) : (sortBy key list).Perm list :=
  perm_insertionSort _ _

theorem sortBy_pairwise (list : List Element) :
    (sortBy key list).Pairwise fun one two => key one ≤ key two := by
  exact pairwise_insertionSort _ _

/-- The keys decide, whatever the elements carry besides. -/
theorem map_sortBy (change : Element → Other) (key : Element → Key) (otherKey : Other → Key)
    (same : ∀ element, otherKey (change element) = key element) (list : List Element) :
    (sortBy key list).map change = sortBy otherKey (list.map change) := by
  refine map_insertionSort _ _ change _ ?_
  intro one _ two _
  rw [same, same]

theorem orderedInsert_first {element : Element} {list : List Element}
    (first : ∀ other ∈ list, key element ≤ key other) :
    list.orderedInsert (fun one two => key one ≤ key two) element = element :: list := by
  cases list with
  | nil => rfl
  | cons other rest =>
    exact orderedInsert_cons_of_le _ rest (first other mem_cons_self)

theorem filter_orderedInsert (chosen : Element → Bool) (element : Element)
    {list : List Element} (sorted : list.Pairwise fun one two => key one ≤ key two) :
    (list.orderedInsert (fun one two => key one ≤ key two) element).filter chosen =
      if chosen element then
        (list.filter chosen).orderedInsert (fun one two => key one ≤ key two) element
      else list.filter chosen := by
  induction list with
  | nil => by_cases mem : chosen element <;> simp [mem]
  | cons first rest ih =>
    rw [pairwise_cons] at sorted
    by_cases before : key element ≤ key first
    · have least : ∀ other ∈ (first :: rest).filter chosen, key element ≤ key other := by
        intro other mem
        rcases mem_cons.mp (mem_filter.mp mem).1 with rfl | later
        · exact before
        · exact before.trans (sorted.1 other later)
      rw [orderedInsert_cons_of_le _ rest before, orderedInsert_first _ least]
      by_cases mem : chosen element <;> simp [mem]
    · rw [orderedInsert_of_not_le _ rest before, filter_cons, ih sorted.2]
      by_cases kept : chosen first
      · by_cases mem : chosen element
        · simp only [kept, mem, filter_cons]
          exact (orderedInsert_of_not_le (fun one two => key one ≤ key two)
            (rest.filter chosen) before).symm
        · simp [kept, mem]
      · simp [kept]

/-- Choosing elements commutes with sorting. -/
theorem filter_sortBy (chosen : Element → Bool) (list : List Element) :
    (sortBy key list).filter chosen = sortBy key (list.filter chosen) := by
  induction list with
  | nil => rfl
  | cons element rest ih =>
    have inserted := filter_orderedInsert key chosen element (sortBy_pairwise key rest)
    rw [sortBy, insertionSort_cons]
    rw [sortBy] at inserted ih
    rw [inserted, ih]
    by_cases mem : chosen element <;> simp [mem, sortBy]

end Sorting

theorem nodup_eraseDups {Element : Type} [BEq Element] [LawfulBEq Element] (list : List Element) :
    list.eraseDups.Nodup := by
  induction size : list.length using Nat.strong_induction_on generalizing list with
  | _ count ih =>
    cases list with
    | nil => simp
    | cons first rest =>
      have shorter : (rest.filter fun other => !other == first).length < count := by
        have bound := length_filter_le (fun other => !other == first) rest
        rw [length_cons] at size
        omega
      rw [eraseDups_cons, nodup_cons]
      exact ⟨by simp, ih _ shorter _ rfl⟩

section Runs

variable {Element : Type} (keep : Element → Bool) (joins : Element → Element → Bool)

/-! ## Runs -/

/-- The element joins the first one of the list. -/
def joinsNext (element : Element) : List Element → Bool
  | [] => false
  | next :: _ => keep next && joins element next

@[simp] theorem joinsNext_nil (element : Element) : joinsNext keep joins element [] = false := rfl

@[simp] theorem joinsNext_cons (element next : Element) (rest : List Element) :
    joinsNext keep joins element (next :: rest) = (keep next && joins element next) := rfl

/-- Put elements at the beginning of the first run. -/
def attach (front : List Element) : List (List Element) → List (List Element)
  | [] => [front]
  | run :: runs => (front ++ run) :: runs

/-- The maximal stretches of kept elements of which each joins the next one. -/
def runs : List Element → List (List Element)
  | [] => []
  | element :: rest =>
    if keep element then
      if joinsNext keep joins element rest then attach [element] (runs rest)
      else [element] :: runs rest
    else runs rest

/-- One element, for a loop that carries the finished runs and the current one. -/
def collectStep (state : List (List Element) × List Element) (element : Element) :
    List (List Element) × List Element :=
  if keep element then
    match state.2.getLast? with
    | none => (state.1, [element])
    | some last =>
      if joins last element then (state.1, state.2 ++ [element])
      else (state.1 ++ [state.2], [element])
  else if state.2.isEmpty then (state.1, [])
  else (state.1 ++ [state.2], [])

/-- What the loop returns. -/
def collected (state : List (List Element) × List Element) : List (List Element) :=
  if state.2.isEmpty then state.1 else state.1 ++ [state.2]

theorem attach_attach (front back : List Element) (others : List (List Element)) :
    attach front (attach back others) = attach (front ++ back) others := by
  cases others <;> simp [attach]

def runsBehind (current list : List Element) : List (List Element) :=
  match current.getLast? with
  | none => runs keep joins list
  | some last =>
    if joinsNext keep joins last list then attach current (runs keep joins list)
    else current :: runs keep joins list

theorem collected_foldl (list : List Element) (state : List (List Element) × List Element) :
    collected (list.foldl (collectStep keep joins) state) =
      state.1 ++ runsBehind keep joins state.2 list := by
  induction list generalizing state with
  | nil =>
    obtain ⟨done, current⟩ := state
    rcases eq_nil_or_concat current with rfl | ⟨front, last, rfl⟩
    · simp [collected, runsBehind, runs]
    · simp [collected, runsBehind, runs]
  | cons element rest ih =>
    obtain ⟨done, current⟩ := state
    rw [foldl_cons, ih]
    rcases eq_nil_or_concat current with rfl | ⟨front, last, rfl⟩
    · by_cases kept : keep element
      · simp [collectStep, runsBehind, runs, kept]
      · simp [collectStep, runsBehind, runs, kept]
    · by_cases kept : keep element
      · by_cases joined : joins last element
        · by_cases next : joinsNext keep joins element rest
          · simp [collectStep, runsBehind, runs, kept, joined, next, attach_attach]
          · simp [collectStep, runsBehind, runs, kept, joined, next, attach]
        · simp [collectStep, runsBehind, runs, kept, joined]
      · simp [collectStep, runsBehind, runs, kept]

theorem collect_eq_runs (list : List Element) :
    collected (list.foldl (collectStep keep joins) ([], [])) = runs keep joins list := by
  rw [collected_foldl]
  rfl

end Runs

/-! ## The runs of a scope -/

section Scopes

variable {Element Scope : Type} [DecidableEq Scope] (keep : Element → Bool)
  (joins : Element → Element → Bool) (scope : Element → Scope) (own : Scope)

def scopeElements (list : List Element) : List Element :=
  list.filter fun element => decide (scope element = own)

/-- The run begins in the scope. -/
def beginsIn : List Element → Bool
  | [] => false
  | element :: _ => decide (scope element = own)

/-- The runs that begin in the scope. -/
def scopeRuns (list : List (List Element)) : List (List Element) :=
  list.filter (beginsIn scope own)

/-- No two elements of the scope that would join as neighbours are parted by
elements of other scopes. -/
def Unparted (list : List Element) : Prop :=
  ∀ before first between second after, list = before ++ first :: (between ++ second :: after) →
    scope first = own → scope second = own → (∀ element ∈ between, scope element ≠ own) →
    keep first = true → keep second = true → joins first second = true → between = []

variable {keep joins scope own} {element : Element} {rest : List Element}
  (sameScope : ∀ one two, joins one two = true → scope one = scope two)
include sameScope

omit [DecidableEq Scope] in
theorem runs_of_joinsNext (next : joinsNext keep joins element rest = true) :
    ∃ second run others, runs keep joins rest = (second :: run) :: others ∧
      scope second = scope element := by
  cases rest with
  | nil => simp at next
  | cons second rest =>
    rw [joinsNext_cons, Bool.and_eq_true] at next
    obtain ⟨kept, joined⟩ := next
    rw [runs, if_pos kept, sameScope element second joined]
    split
    · cases runs _ _ rest with
      | nil => exact ⟨second, [], [], rfl, rfl⟩
      | cons run others => exact ⟨second, run, others, rfl, rfl⟩
    · exact ⟨second, [], _, rfl, rfl⟩

theorem scopeRuns_cons_other (other : scope element ≠ own) (rest : List Element) :
    scopeRuns scope own (runs keep joins (element :: rest)) =
      scopeRuns scope own (runs keep joins rest) := by
  rw [runs]
  split
  · split
    · next joined =>
      obtain ⟨_, _, _, equal, same⟩ := runs_of_joinsNext sameScope joined
      simp [equal, attach, scopeRuns, beginsIn, same, other]
    · simp [scopeRuns, beginsIn, other]
  · rfl

theorem scopeRuns_cons_own (same : scope element = own) (kept : keep element = true)
    (rest : List Element) : scopeRuns scope own (runs keep joins (element :: rest)) =
      if joinsNext keep joins element rest = true then
        attach [element] (scopeRuns scope own (runs keep joins rest))
      else [element] :: scopeRuns scope own (runs keep joins rest) := by
  rw [runs, if_pos kept]
  split
  · next joined =>
    obtain ⟨_, _, _, equal, begins⟩ := runs_of_joinsNext sameScope joined
    simp [equal, attach, scopeRuns, beginsIn, begins, same]
  · simp [scopeRuns, beginsIn, same]

omit sameScope

theorem scopeElements_cons_own (same : scope element = own) (rest : List Element) :
    scopeElements scope own (element :: rest) = element :: scopeElements scope own rest := by
  simp [scopeElements, same]

theorem scopeElements_cons_other (other : scope element ≠ own) (rest : List Element) :
    scopeElements scope own (element :: rest) = scopeElements scope own rest := by
  simp [scopeElements, other]

/-- Neighbours that join are neighbours in their scope. -/
theorem joinsNext_scopeElements
    (sameScope : ∀ one two, joins one two = true → scope one = scope two)
    (same : scope element = own) (next : joinsNext keep joins element rest = true) :
    joinsNext keep joins element (scopeElements scope own rest) = true := by
  cases rest with
  | nil => simp at next
  | cons second rest =>
    have joined : joins element second = true := by
      rw [joinsNext_cons, Bool.and_eq_true] at next
      exact next.2
    have inOwn : scope second = own := (sameScope element second joined).symm.trans same
    rw [scopeElements_cons_own inOwn]
    exact next

variable (keep joins scope own)

/-- How often an element of the scope is parted from the one it would join. -/
def partings : List Element → Nat
  | [] => 0
  | element :: rest =>
    partings rest +
      if scope element = own ∧ keep element = true ∧
          joinsNext keep joins element (scopeElements scope own rest) = true ∧
          joinsNext keep joins element rest = false then 1
      else 0

variable {keep joins scope own}

theorem length_attach (front : List Element) {others : List (List Element)} (some' : others ≠ []) :
    (attach front others).length = others.length := by
  cases others with
  | nil => contradiction
  | cons run others => rfl

theorem runs_cons_of_not_keep (dropped : keep element ≠ true) (rest : List Element) :
    runs keep joins (element :: rest) = runs keep joins rest := by
  rw [runs, if_neg dropped]

variable (sameScope : ∀ one two, joins one two = true → scope one = scope two)
include sameScope

omit [DecidableEq Scope] in
theorem runs_ne_nil (next : joinsNext keep joins element rest = true) :
    runs keep joins rest ≠ [] := by
  obtain ⟨_, _, _, equal, _⟩ := runs_of_joinsNext sameScope next
  simp [equal]

theorem scopeRuns_ne_nil (inOwn : scope element = own)
    (next : joinsNext keep joins element rest = true) :
    scopeRuns scope own (runs keep joins rest) ≠ [] := by
  obtain ⟨_, _, _, equal, same⟩ := runs_of_joinsNext sameScope next
  simp [equal, scopeRuns, beginsIn, same, inOwn]

/-- Every parting makes one more run. -/
theorem length_scopeRuns (list : List Element) :
    (scopeRuns scope own (runs keep joins list)).length =
      (runs keep joins (scopeElements scope own list)).length +
        partings keep joins scope own list := by
  induction list with
  | nil => simp [scopeRuns, scopeElements, runs, partings]
  | cons element rest ih =>
    by_cases inOwn : scope element = own
    · rw [scopeElements_cons_own inOwn]
      by_cases kept : keep element = true
      · rw [scopeRuns_cons_own sameScope inOwn kept, partings, runs, if_pos kept]
        by_cases here : joinsNext keep joins element rest = true
        · have alone := joinsNext_scopeElements sameScope inOwn here
          rw [if_pos here, if_pos alone, length_attach _ (scopeRuns_ne_nil sameScope inOwn here),
            length_attach _ (runs_ne_nil sameScope alone), ih]
          simp [here]
        · by_cases alone : joinsNext keep joins element (scopeElements scope own rest) = true
          · rw [if_neg here, if_pos alone, length_attach _ (runs_ne_nil sameScope alone),
              length_cons, ih]
            simp [inOwn, kept, here, alone]
            omega
          · rw [if_neg here, if_neg alone, length_cons, length_cons, ih]
            simp [alone]
            omega
      · rw [runs_cons_of_not_keep kept, runs_cons_of_not_keep kept, partings, ih]
        simp [kept]
    · rw [scopeRuns_cons_other sameScope inOwn, scopeElements_cons_other inOwn, partings, ih]
      simp [inOwn]

theorem scopeRuns_of_partings {list : List Element} (none : partings keep joins scope own list = 0)
    : scopeRuns scope own (runs keep joins list) =
      runs keep joins (scopeElements scope own list) := by
  induction list with
  | nil => rfl
  | cons element rest ih =>
    rw [partings, Nat.add_eq_zero_iff] at none
    obtain ⟨later, here⟩ := none
    by_cases inOwn : scope element = own
    · rw [scopeElements_cons_own inOwn]
      by_cases kept : keep element = true
      · rw [scopeRuns_cons_own sameScope inOwn kept, ih later, runs, if_pos kept]
        by_cases next : joinsNext keep joins element rest = true
        · rw [if_pos next, if_pos (joinsNext_scopeElements sameScope inOwn next)]
        · have alone : ¬ joinsNext keep joins element (scopeElements scope own rest) = true := by
            intro joined
            simp [inOwn, kept, joined, next] at here
          rw [if_neg next, if_neg alone]
      · rw [runs_cons_of_not_keep kept, runs_cons_of_not_keep kept, ih later]
    · rw [scopeRuns_cons_other sameScope inOwn, scopeElements_cons_other inOwn, ih later]

omit sameScope

omit [DecidableEq Scope] in
theorem of_mem_runs {list run : List Element} (mem : run ∈ runs keep joins list) :
    run ≠ [] ∧ run ⊆ list := by
  induction list generalizing run with
  | nil => simp [runs] at mem
  | cons element rest ih =>
    have later : ∀ {other}, other ∈ runs keep joins rest → other ≠ [] ∧ other ⊆ element :: rest :=
      fun inRest => ⟨(ih inRest).1, subset_cons_of_subset _ (ih inRest).2⟩
    rw [runs] at mem
    split at mem
    · split at mem
      · cases equal : runs keep joins rest with
        | nil =>
          simp only [equal, attach, mem_singleton] at mem
          simp [mem]
        | cons first others =>
          simp only [equal, attach, singleton_append, mem_cons] at mem
          rcases mem with rfl | inOthers
          · have inside := (ih (equal ▸ mem_cons_self : first ∈ runs keep joins rest)).2
            exact ⟨by simp, cons_subset_cons element inside⟩
          · exact later (equal ▸ mem_cons_of_mem _ inOthers)
      · rcases mem_cons.mp mem with rfl | inRest
        · simp
        · exact later inRest
    · exact later mem

theorem beginsIn_of_mem_runs {list run : List Element}
    (mem : run ∈ runs keep joins (scopeElements scope own list)) :
    beginsIn scope own run = true := by
  obtain ⟨_, inside⟩ := of_mem_runs mem
  cases run with
  | nil => contradiction
  | cons element rest =>
    have inScope := (mem_filter.mp (inside mem_cons_self)).2
    exact inScope

theorem scopeElements_eq_cons {list others : List Element} {first : Element}
    (equal : scopeElements scope own list = first :: others) :
    ∃ before after, list = before ++ first :: after ∧
      (∀ element ∈ before, scope element ≠ own) ∧ scope first = own := by
  obtain ⟨before, after, cut, others', mem, _⟩ := filter_eq_cons_iff.mp equal
  exact ⟨before, after, cut, fun element inside => by simpa using others' element inside,
    by simpa using mem⟩

theorem scopeElements_behind {before : List Element}
    (others : ∀ element ∈ before, scope element ≠ own) {first : Element}
    (same : scope first = own) (after : List Element) :
    scopeElements scope own (before ++ first :: after) =
      first :: scopeElements scope own after := by
  have none : before.filter (fun element => decide (scope element = own)) = [] :=
    filter_eq_nil_iff.mpr fun element mem => by simpa using others element mem
  rw [scopeElements, filter_append, none, nil_append]
  exact scopeElements_cons_own same after

variable (sameScope : ∀ one two, joins one two = true → scope one = scope two)
include sameScope

variable (list : List Element)

theorem partings_eq_zero_iff :
    partings keep joins scope own list = 0 ↔ Unparted keep joins scope own list := by
  induction list with
  | nil => simp [partings, Unparted]
  | cons element rest ih =>
    rw [partings, Nat.add_eq_zero_iff, ih]
    constructor
    · intro ⟨later, here⟩ before first between second after cut inOwn same
        others kept keptToo joined
      cases before with
      | cons head before =>
        obtain ⟨rfl, cutRest⟩ := List.cons.inj cut
        exact later before first between second after cutRest inOwn same others kept keptToo joined
      | nil =>
        obtain ⟨rfl, rfl⟩ := List.cons.inj cut
        cases between with
        | nil => rfl
        | cons head between =>
          have other : scope head ≠ own := others head mem_cons_self
          have apart : joins element head ≠ true := by
            intro joinedHead
            exact other ((sameScope element head joinedHead).symm.trans inOwn)
          rw [scopeElements_behind others same after] at here
          simp [inOwn, kept, keptToo, joined, apart] at here
    · intro unparted
      refine ⟨?_, ?_⟩
      · intro before first between second after cut
        exact unparted (element :: before) first between second after (by rw [cut]; rfl)
      · rw [if_neg]
        intro ⟨inOwn, kept, alone, apart⟩
        cases equal : scopeElements scope own rest with
        | nil => simp [equal] at alone
        | cons second others =>
          rw [equal, joinsNext_cons, Bool.and_eq_true] at alone
          obtain ⟨between, after, cut, parting, same⟩ := scopeElements_eq_cons equal
          have adjacent := unparted [] element between second after (by rw [cut]; rfl) inOwn same
            parting kept alone.1 alone.2
          subst adjacent
          simp [cut, alone.1, alone.2] at apart

theorem length_scopeRuns_eq_iff : (scopeRuns scope own (runs keep joins list)).length =
        (runs keep joins (scopeElements scope own list)).length ↔
      Unparted keep joins scope own list := by
  rw [← partings_eq_zero_iff sameScope, length_scopeRuns sameScope]
  omega

theorem scopeRuns_eq_iff :
    scopeRuns scope own (runs keep joins list) = runs keep joins (scopeElements scope own list) ↔
      Unparted keep joins scope own list := by
  constructor
  · intro equal
    exact (length_scopeRuns_eq_iff sameScope list).mp (congrArg List.length equal)
  · intro unparted
    exact scopeRuns_of_partings sameScope ((partings_eq_zero_iff sameScope list).mpr unparted)

omit sameScope

end Scopes

end NetConsole.Foundations
