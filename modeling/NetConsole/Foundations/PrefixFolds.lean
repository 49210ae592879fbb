import Mathlib.Data.List.Sort

/-!
# Folds that read what has been passed

A fold over a list of items whose step is given the items up to and with its own
(`foldPrefixes`). The items have owners, and a state has a view of each owner.

A step is local when it changes the view of its owner, by what the passed items of this
owner and the view say, and no other view (`LocalStep`). Then a view of a fold is the
fold over the items of its owner (`LocalStep.view_foldPrefixes`), so that folding the
items of one owner again restores this view.

Sorting a list whose items are told apart by the order commutes with a filter
(`filter_mergeSort`).
-/

set_option autoImplicit false

namespace NetConsole.Foundations

open List

section Folds

variable {Item State Owner : Type}

/-- A fold whose step reads the items that have been passed, and its own. -/
def foldPrefixes (step : List Item → Item → State → State) : List Item → List Item → State → State
  | _, [], state => state
  | passed, item :: rest, state =>
    foldPrefixes step (passed ++ [item]) rest (step (passed ++ [item]) item state)

theorem foldPrefixes_append (step : List Item → Item → State → State)
    (passed one two : List Item) (state : State) : foldPrefixes step passed (one ++ two) state =
      foldPrefixes step (passed ++ one) two (foldPrefixes step passed one state) := by
  induction one generalizing passed state with
  | nil => simp [foldPrefixes]
  | cons item rest ih => simp [foldPrefixes, ih]

variable {passed items : List Item} {state : State}

theorem foldPrefixes_congr {one two : List Item → Item → State → State}
    (agree : ∀ before item after, items = before ++ item :: after → ∀ state,
      one (passed ++ before ++ [item]) item state = two (passed ++ before ++ [item]) item state) :
    foldPrefixes one passed items state = foldPrefixes two passed items state := by
  induction items generalizing passed state with
  | nil => rfl
  | cons item rest ih =>
    have first := agree [] item rest rfl state
    rw [append_nil] at first
    unfold foldPrefixes
    rw [first]
    apply ih
    intro before other after split state
    have later := agree (item :: before) other after (by rw [split]; rfl) state
    simpa using later

variable [DecidableEq Owner] (ownerOf : Item → Owner) (view : Owner → State → State)
  (valid : Item → Prop) (holds : State → Prop)

def ownItems (items : List Item) (owner : Owner) : List Item :=
  items.filter fun item => ownerOf item = owner

/-- A step that changes the view of its owner by what belongs to this owner. -/
structure LocalStep (step : List Item → Item → State → State) : Prop where
  keeps : ∀ passed item state, (∀ other ∈ passed, valid other) → valid item → holds state →
    holds (step passed item state)
  own : ∀ passed item state, (∀ other ∈ passed, valid other) → valid item → holds state →
    view (ownerOf item) (step passed item state) =
      step (ownItems ownerOf passed (ownerOf item)) item (view (ownerOf item) state)
  other : ∀ passed item state owner, (∀ other ∈ passed, valid other) → valid item →
    holds state → ownerOf item ≠ owner → view owner (step passed item state) = view owner state

variable {ownerOf view valid holds} {step : List Item → Item → State → State}

theorem LocalStep.holds_foldPrefixes (islocal : LocalStep ownerOf view valid holds step)
    (validPassed : ∀ item ∈ passed, valid item) (validItems : ∀ item ∈ items, valid item)
    (initially : holds state) : holds (foldPrefixes step passed items state) := by
  induction items generalizing passed state with
  | nil => exact initially
  | cons item rest ih =>
    have own : valid item := validItems item mem_cons_self
    have validNext : ∀ other ∈ passed ++ [item], valid other :=
      forall_mem_append.mpr ⟨validPassed, forall_mem_singleton.mpr own⟩
    exact ih validNext (fun other mem => validItems other (mem_cons_of_mem item mem))
      (islocal.keeps _ item state validNext own initially)

theorem LocalStep.view_foldPrefixes (islocal : LocalStep ownerOf view valid holds step)
    (owner : Owner) (validPassed : ∀ item ∈ passed, valid item)
    (validItems : ∀ item ∈ items, valid item) (initially : holds state) :
    view owner (foldPrefixes step passed items state) =
      foldPrefixes step (ownItems ownerOf passed owner) (ownItems ownerOf items owner)
        (view owner state) := by
  induction items generalizing passed state with
  | nil => rfl
  | cons item rest ih =>
    have own : valid item := validItems item mem_cons_self
    have validNext : ∀ other ∈ passed ++ [item], valid other :=
      forall_mem_append.mpr ⟨validPassed, forall_mem_singleton.mpr own⟩
    have later := ih validNext (fun other mem => validItems other (mem_cons_of_mem item mem))
      (islocal.keeps _ item state validNext own initially)
    rw [foldPrefixes, later]
    by_cases mine : ownerOf item = owner
    · subst mine
      rw [islocal.own _ item state validNext own initially]
      simp [ownItems, foldPrefixes]
    · rw [islocal.other _ item state owner validNext own initially mine]
      simp [ownItems, mine]

end Folds

section Sorting

variable {α : Type} {le : α → α → Bool} {items : List α}
  (trans : ∀ one two three, le one two = true → le two three = true → le one three = true)
include trans

theorem eq_mergeSort_of_perm
    (total : ∀ one two, (le one two || le two one) = true) {sorted : List α}
    (apart : ∀ one ∈ items, ∀ two ∈ items, le one two = true → le two one = true → one = two)
    (permuted : sorted.Perm items) (inOrder : sorted.Pairwise fun one two => le one two = true) :
    sorted = items.mergeSort le := by
  have other : (items.mergeSort le).Pairwise fun one two => le one two = true :=
    pairwise_mergeSort trans total items
  have same : sorted.Perm (items.mergeSort le) := permuted.trans (mergeSort_perm items le).symm
  refine same.eq_of_pairwise ?_ inOrder other
  intro one two memberOne memberTwo before behind
  exact apart one (permuted.subset memberOne) two (mem_mergeSort.mp memberTwo) before behind

/-- Sorting commutes with a filter, where the order tells the items apart. -/
theorem filter_mergeSort (total : ∀ one two, (le one two || le two one) = true)
    (apart : ∀ one ∈ items, ∀ two ∈ items, le one two = true → le two one = true → one = two)
    (keep : α → Bool) : (items.mergeSort le).filter keep = (items.filter keep).mergeSort le := by
  have inOrder : (items.mergeSort le).Pairwise fun one two => le one two = true :=
    pairwise_mergeSort trans total items
  apply eq_mergeSort_of_perm trans total
  · intro one memberOne two memberTwo
    exact apart one (mem_of_mem_filter memberOne) two (mem_of_mem_filter memberTwo)
  · exact (mergeSort_perm items le).filter keep
  · exact inOrder.filter keep

end Sorting

end NetConsole.Foundations
