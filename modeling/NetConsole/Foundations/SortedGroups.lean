import Mathlib.Data.List.Induction
import Mathlib.Data.List.Perm.Basic
import NetConsole.Foundations.PrefixFolds

/-!
# Items in sorted groups

Items are put into named groups as they come, the groups are taken in the order
of their names, and the items of a group from the greatest key down. Equal keys
keep their order, and that is the only trace of the order in which the items
came: when no group holds a key twice, every permutation of the items gives the
same groups (`sortedGroups_perm`).
-/

set_option autoImplicit false

namespace NetConsole.Foundations

open List

variable {Item Name Key : Type}

section Grouping

variable [DecidableEq Name] (name : Item → Name)

/-- Put an item into the group of its name. -/
def addToGroup (item : Item) : List (Name × List Item) → List (Name × List Item)
  | [] => [(name item, [item])]
  | (held, items) :: rest =>
    if held = name item then (held, items ++ [item]) :: rest
    else (held, items) :: addToGroup item rest

/-- The groups of the items, in the order of their first items. -/
def groupItems (items : List Item) : List (Name × List Item) :=
  items.foldl (fun groups item => addToGroup name item groups) []

/-- The groups hold the items, each those with its name. -/
structure GroupsOf (items : List Item) (groups : List (Name × List Item)) : Prop where
  distinct : (groups.map Prod.fst).Nodup
  holds : ∀ group ∈ groups, group.2 = items.filter fun item => name item = group.1
  named : ∀ {held : Name}, held ∈ groups.map Prod.fst ↔ held ∈ items.map name

variable {name} {groups : List (Name × List Item)}

theorem mem_names_addToGroup {item : Item} {held : Name} :
    held ∈ (addToGroup name item groups).map Prod.fst ↔
      held = name item ∨ held ∈ groups.map Prod.fst := by
  induction groups with
  | nil => simp [addToGroup]
  | cons group rest ih =>
    obtain ⟨_, _⟩ := group
    rw [addToGroup]
    split
    · next same =>
      subst same
      simp
    · simp only [map_cons, mem_cons]
      tauto

theorem distinct_addToGroup {item : Item} (distinct : (groups.map Prod.fst).Nodup) :
    ((addToGroup name item groups).map Prod.fst).Nodup := by
  induction groups with
  | nil => simp [addToGroup]
  | cons group rest ih =>
    obtain ⟨fresh, distinct⟩ := nodup_cons.mp distinct
    rw [addToGroup]
    split
    · exact nodup_cons.mpr ⟨fresh, distinct⟩
    · next other =>
      refine nodup_cons.mpr ⟨fun again => ?_, ih distinct⟩
      rcases mem_names_addToGroup.mp again with same | mem
      · exact other same
      · exact fresh mem

theorem mem_addToGroup {item : Item} (distinct : (groups.map Prod.fst).Nodup)
    {group : Name × List Item} (mem : group ∈ addToGroup name item groups) :
    (group.1 ≠ name item ∧ group ∈ groups) ∨
    (group.1 = name item ∧ ∃ before, group.2 = before ++ [item] ∧
      ((group.1, before) ∈ groups ∨ before = [] ∧ group.1 ∉ groups.map Prod.fst)) := by
  induction groups with
  | nil =>
    simp only [addToGroup, mem_singleton] at mem
    subst mem
    exact .inr ⟨rfl, [], rfl, .inr ⟨rfl, by simp⟩⟩
  | cons first rest ih =>
    obtain ⟨_, items⟩ := first
    obtain ⟨fresh, distinct⟩ := nodup_cons.mp distinct
    rw [addToGroup] at mem
    split at mem
    · next same =>
      rcases mem_cons.mp mem with rfl | mem
      · exact .inr ⟨same, items, rfl, .inl mem_cons_self⟩
      · refine .inl ⟨fun again => fresh ?_, mem_cons_of_mem _ mem⟩
        exact mem_map.mpr ⟨group, mem, again.trans same.symm⟩
    · next other =>
      rcases mem_cons.mp mem with rfl | mem
      · exact .inl ⟨other, mem_cons_self⟩
      · rcases ih distinct mem with ⟨unlike, mem⟩ | ⟨same, before, equal, earlier⟩
        · exact .inl ⟨unlike, mem_cons_of_mem _ mem⟩
        · refine .inr ⟨same, before, equal, ?_⟩
          rcases earlier with earlier | ⟨rfl, absent⟩
          · exact .inl (mem_cons_of_mem _ earlier)
          · refine .inr ⟨rfl, ?_⟩
            rw [map_cons, mem_cons, not_or]
            exact ⟨fun equal => other (equal.symm.trans same), absent⟩

theorem GroupsOf.add {items : List Item} (grouped : GroupsOf name items groups) (item : Item) :
    GroupsOf name (items ++ [item]) (addToGroup name item groups) where
  distinct := distinct_addToGroup grouped.distinct
  holds group mem := by
    rw [filter_append]
    rcases mem_addToGroup grouped.distinct mem with
      ⟨unlike, mem⟩ | ⟨same, before, equal, earlier⟩
    · rw [grouped.holds group mem]
      simp [Ne.symm unlike]
    · have own : [item].filter (fun other => decide (name other = group.1)) = [item] := by
        simp [same]
      rw [equal, own]
      rcases earlier with earlier | ⟨rfl, absent⟩
      · have content : before = _ := grouped.holds _ earlier
        rw [content]
      · have nothing : items.filter (fun other => decide (name other = group.1)) = [] := by
          rw [filter_eq_nil_iff]
          intro other mem
          simp only [decide_eq_true_eq]
          intro equal
          exact absent (grouped.named.mpr (mem_map.mpr ⟨other, mem, equal⟩))
        rw [nothing]
  named := by
    intro held
    rw [mem_names_addToGroup, grouped.named, map_append, mem_append, map_singleton,
      mem_singleton, or_comm]

theorem groupItems_spec (items : List Item) : GroupsOf name items (groupItems name items) := by
  induction items using List.reverseRecOn with
  | nil => exact ⟨.nil, by simp [groupItems], by simp [groupItems]⟩
  | append_singleton items item ih =>
    have added := ih.add item
    rw [groupItems, foldl_append]
    exact added

end Grouping

/-! ## Sorting -/

section Sorting

variable [LinearOrder Name] [LinearOrder Key] (name : Item → Name) (key : Item → Key)

/-- The items from the greatest key down; equal keys keep their order. -/
def sortDescending (items : List Item) : List Item :=
  items.mergeSort fun one two => decide (key two ≤ key one)

/-- The groups in the order of their names. -/
def sortByName (groups : List (Name × List Item)) : List (Name × List Item) :=
  groups.mergeSort fun one two => decide (one.1 ≤ two.1)

/-- The groups of the items in the order of their names, each from the greatest
key down. -/
def sortedGroups (items : List Item) : List (List Item) :=
  (sortByName (groupItems name items)).map fun group => sortDescending key group.2

variable {name key}

theorem mem_sortDescending {items : List Item} {item : Item} :
    item ∈ sortDescending key items ↔ item ∈ items := mem_mergeSort

variable {items other : List Item}

/-- Where no key occurs twice, the order in which items come does not matter. -/
theorem sortDescending_perm (permuted : items.Perm other) (distinct : (items.map key).Nodup) :
    sortDescending key items = sortDescending key other := by
  have trans (one two three : Item) (first : decide (key two ≤ key one) = true)
      (second : decide (key three ≤ key two) = true) : decide (key three ≤ key one) = true := by
    simp only [decide_eq_true_eq] at first second ⊢
    exact le_trans second first
  have total (one two : Item) :
      (decide (key two ≤ key one) || decide (key one ≤ key two)) = true := by
    simpa using le_total (key two) (key one)
  refine eq_mergeSort_of_perm trans total ?_ ((mergeSort_perm items _).trans permuted)
    (pairwise_mergeSort trans total items)
  intro one memberOne two memberTwo first second
  simp only [decide_eq_true_eq] at first second
  exact inj_on_of_nodup_map distinct (permuted.mem_iff.mpr memberOne)
    (permuted.mem_iff.mpr memberTwo) (le_antisymm second first)

theorem mem_sortedGroups {items group : List Item} (mem : group ∈ sortedGroups name key items) :
    group ≠ [] ∧ ∀ item ∈ group, item ∈ items := by
  obtain ⟨⟨_, holds⟩, inGroups, rfl⟩ := mem_map.mp mem
  have grouped : GroupsOf name items (groupItems name items) := groupItems_spec items
  have inGroups := mem_mergeSort.mp inGroups
  have content := grouped.holds _ inGroups
  obtain ⟨item, itemMember, itemName⟩ :=
    mem_map.mp (grouped.named.mp (mem_map.mpr ⟨_, inGroups, rfl⟩))
  dsimp only at content itemName
  constructor
  · intro nothing
    have inside : item ∈ sortDescending key holds := by
      rw [mem_sortDescending, content]
      simp [itemMember, itemName]
    rw [nothing] at inside
    cases inside
  · intro other otherMember
    rw [mem_sortDescending, content] at otherMember
    exact mem_of_mem_filter otherMember

theorem mem_sorted_groupItems {items : List Item} {group : Name × List Item} :
    group ∈ (groupItems name items).map (fun group => (group.1, sortDescending key group.2)) ↔
      group.1 ∈ items.map name ∧
        group.2 = sortDescending key (items.filter fun item => name item = group.1) := by
  have grouped : GroupsOf name items (groupItems name items) := groupItems_spec items
  constructor
  · intro mem
    obtain ⟨first, inGroups, rfl⟩ := mem_map.mp mem
    exact ⟨grouped.named.mp (mem_map.mpr ⟨first, inGroups, rfl⟩),
      congrArg (sortDescending key) (grouped.holds first inGroups)⟩
  · rintro ⟨named, content⟩
    obtain ⟨first, inGroups, same⟩ := mem_map.mp (grouped.named.mpr named)
    refine mem_map.mpr ⟨first, inGroups, Prod.ext same ?_⟩
    rw [content, grouped.holds first inGroups, same]

theorem distinct_sorted_groupItems (items : List Item) :
    (((groupItems name items).map fun group => (group.1, sortDescending key group.2)).map
      Prod.fst).Nodup := by
  rw [map_map]
  have grouped : GroupsOf name items (groupItems name items) := groupItems_spec items
  exact grouped.distinct

theorem groupItems_perm (permuted : items.Perm other)
    (distinct : ∀ held, ((items.filter fun item => name item = held).map key).Nodup) :
    ((groupItems name items).map fun group => (group.1, sortDescending key group.2)).Perm
      ((groupItems name other).map fun group => (group.1, sortDescending key group.2)) := by
  refine (perm_ext_iff_of_nodup (distinct_sorted_groupItems items).of_map
    (distinct_sorted_groupItems other).of_map).mpr fun group => ?_
  rw [mem_sorted_groupItems, mem_sorted_groupItems, (permuted.map name).mem_iff,
    sortDescending_perm (permuted.filter _) (distinct group.1)]

theorem sortedGroups_perm (permuted : items.Perm other)
    (distinct : ∀ held, ((items.filter fun item => name item = held).map key).Nodup) :
    sortedGroups name key items = sortedGroups name key other := by
  have trans (one two three : Name × List Item) (first : decide (one.1 ≤ two.1) = true)
      (second : decide (two.1 ≤ three.1) = true) : decide (one.1 ≤ three.1) = true := by
    simp only [decide_eq_true_eq] at first second ⊢
    exact le_trans first second
  have total (one two : Name × List Item) :
      (decide (one.1 ≤ two.1) || decide (two.1 ≤ one.1)) = true := by
    simpa using le_total one.1 two.1
  have byName (all : List Item) : sortedGroups name key all =
      (sortByName ((groupItems name all).map fun group =>
        (group.1, sortDescending key group.2))).map Prod.snd := by
    have sorted := map_mergeSort (l := groupItems name all)
      (r := fun one two => decide (one.1 ≤ two.1)) (s := fun one two => decide (one.1 ≤ two.1))
      (f := fun group => (group.1, sortDescending key group.2)) fun _ _ _ _ => rfl
    rw [sortByName, ← sorted, map_map]
    rfl
  have same : sortByName ((groupItems name items).map fun group =>
        (group.1, sortDescending key group.2)) =
      sortByName ((groupItems name other).map fun group =>
        (group.1, sortDescending key group.2)) := by
    refine eq_mergeSort_of_perm trans total ?_
      ((mergeSort_perm _ _).trans (groupItems_perm permuted distinct))
      (pairwise_mergeSort trans total _)
    intro one memberOne two memberTwo first second
    simp only [decide_eq_true_eq] at first second
    exact inj_on_of_nodup_map (distinct_sorted_groupItems other) memberOne memberTwo
      (le_antisymm first second)
  rw [byName, byName, same]

end Sorting

end NetConsole.Foundations
