import Mathlib.Data.List.Sort
import Mathlib.Data.List.Perm.Subperm

/-!
# The newest items of a list

Items carry a key of a linear order, and the newest item has the greatest key.
`newest key n items` is what a descending sort followed by a limit of `n` leaves.

Taking the newest items of one part of a list before the other part is added
changes nothing of the result (`newest_append_newest`, `newest_newest_append`):
a reader that walks over several sources needs to keep no more than one window.
Where the first item has the least key, one place less leaves out just that item
(`newest_cons_of_oldest`). Without equal keys, an item is behind the first `n` places when `n` items
are newer (`mem_drop_newestFirst`).
-/

set_option autoImplicit false

namespace NetConsole.Foundations

open List

theorem nodup_map_of_subperm {β ι : Type} {id : β → ι} {items others : List β}
    (distinct : (items.map id).Nodup) (part : List.Subperm others items) :
    (others.map id).Nodup := by
  obtain ⟨_, perm, sub⟩ := part
  exact ((perm.map id).nodup_iff).mp (distinct.sublist (sub.map id))

variable {α κ : Type} [LinearOrder κ] (key : α → κ)

/-- The order of a descending sort: the first item is at least as new. -/
def NewerEq (first second : α) : Prop := key second ≤ key first

instance : DecidableRel (NewerEq key) := fun first second =>
  inferInstanceAs (Decidable (key second ≤ key first))

instance : Std.Total (NewerEq key) := ⟨fun first second => le_total (key second) (key first)⟩

instance : IsTrans α (NewerEq key) := ⟨fun _ _ _ left right => le_trans right left⟩

/-- The items, the newest first. -/
def newestFirst (items : List α) : List α := items.insertionSort (NewerEq key)

/-- The first `count` items in a descending sort. -/
def newest (count : Nat) (items : List α) : List α := (newestFirst key items).take count

theorem newestFirst_perm_self (items : List α) : (newestFirst key items).Perm items :=
  perm_insertionSort _ items

theorem newestFirst_pairwise (items : List α) : (newestFirst key items).Pairwise (NewerEq key) :=
  pairwise_insertionSort _ items

variable {items : List α} {item : α}

@[simp] theorem mem_newestFirst : item ∈ newestFirst key items ↔ item ∈ items :=
  mem_insertionSort _

theorem newest_subset {count : Nat} (mem : item ∈ newest key count items) : item ∈ items :=
  (mem_newestFirst _).mp (mem_of_mem_take mem)

theorem newest_subperm (count : Nat) (items : List α) :
    List.Subperm (newest key count items) items :=
  ((take_sublist _ _).subperm).trans (newestFirst_perm_self _ items).subperm

theorem newest_of_length_le {count : Nat} (short : items.length ≤ count) :
    newest key count items = newestFirst key items := by
  apply take_of_length_le
  rw [(newestFirst_perm_self _ items).length_eq]
  exact short

theorem head?_newestFirst (mem : item ∈ items)
    (newer : ∀ other ∈ items, other ≠ item → key other < key item) :
    (newestFirst key items).head? = some item := by
  have listed : item ∈ newestFirst key items := (mem_newestFirst key).mpr mem
  have sorted := newestFirst_pairwise key items
  cases found : newestFirst key items with
  | nil =>
    rw [found] at listed
    cases listed
  | cons first rest =>
    rw [found] at listed sorted
    by_contra differ
    have differ : first ≠ item := fun same => differ (congrArg some same)
    have inItems : first ∈ items := (mem_newestFirst key).mp (found ▸ mem_cons_self)
    have later : item ∈ rest := (mem_cons.mp listed).resolve_left (Ne.symm differ)
    exact absurd ((pairwise_cons.mp sorted).1 item later) (not_le.mpr (newer first inItems differ))

theorem map_newest {β : Type} (image : β → α) (count : Nat) (items : List β) :
    (newest (fun item => key (image item)) count items).map image =
      newest key count (items.map image) := by
  have sorted := map_insertionSort (NewerEq fun item => key (image item)) (NewerEq _) image
    items fun _ _ _ _ => Iff.rfl
  rw [newest, newest, newestFirst, newestFirst, map_take, sorted]

/-! ## Windows over several sources -/

/-- What an insertion leaves in the first places depends on the first places only. -/
theorem take_orderedInsert (order : α → α → Prop) [DecidableRel order] (item : α)
    (items : List α) (count : Nat) : (items.orderedInsert order item).take count =
      ((items.take count).orderedInsert order item).take count := by
  induction items generalizing count with
  | nil => simp
  | cons first rest ih =>
    cases count with
    | zero => simp
    | succ count =>
      by_cases before : order item first
      · simp only [take_succ_cons, List.orderedInsert, before]
        cases count with
        | zero => rfl
        | succ count => simp [take_take]
      · simp only [take_succ_cons, List.orderedInsert, before, if_false]
        rw [ih count]

theorem take_foldr_orderedInsert (order : α → α → Prop) [DecidableRel order]
    (added items : List α) (count : Nat) :
    (added.foldr (List.orderedInsert order) items).take count =
      (added.foldr (List.orderedInsert order) (items.take count)).take count := by
  induction added with
  | nil => simp [take_take]
  | cons item added ih =>
    simp only [foldr_cons]
    rw [take_orderedInsert order item, ih, ← take_orderedInsert order item]

/-- The later part may be cut to its newest items first. -/
theorem newest_append_newest (count : Nat) (added items : List α) :
    newest key count (added ++ newest key count items) = newest key count (added ++ items) := by
  have sorted_window : (newest key count items).insertionSort (NewerEq key) =
      newest _ count items :=
    ((newestFirst_pairwise _ items).sublist (take_sublist _ _)).insertionSort_eq
  have unfolded : ∀ later : List α, newestFirst key (added ++ later) =
      added.foldr (List.orderedInsert (NewerEq key)) (later.insertionSort (NewerEq key)) := by
    intro later
    simp [newestFirst, List.insertionSort]
  calc newest _ count (added ++ newest _ count items)
      = (added.foldr (List.orderedInsert (NewerEq _)) (newest _ count items)).take count := by
        rw [newest, unfolded, sorted_window]
    _ = (added.foldr (List.orderedInsert (NewerEq _)) (newestFirst _ items)).take count :=
        (take_foldr_orderedInsert (NewerEq _) added (newestFirst _ items) count).symm
    _ = newest _ count (added ++ items) := by
        rw [newest, unfolded, newestFirst]

section DistinctKeys

variable {key} {items others : List α}

/-- With distinct keys the order in which the items come does not matter. -/
theorem newestFirst_congr (distinct : (items.map key).Nodup) (same : items.Perm others) :
    newestFirst key items = newestFirst key others := by
  have together : (newestFirst key items).Perm (newestFirst key others) :=
    (newestFirst_perm_self _ items).trans (same.trans (newestFirst_perm_self _ others).symm)
  apply together.eq_of_pairwise _ (newestFirst_pairwise _ items) (newestFirst_pairwise _ others)
  intro first second inItems inOthers newer older
  have secondIn : second ∈ items := same.mem_iff.mpr ((mem_newestFirst key).mp inOthers)
  exact inj_on_of_nodup_map distinct ((mem_newestFirst _).mp inItems) secondIn
    (le_antisymm older newer)

theorem newest_congr (count : Nat) (distinct : (items.map key).Nodup) (same : items.Perm others) :
    newest key count items = newest key count others := by
  rw [newest, newest, newestFirst_congr distinct same]

variable {added : List α}

/-- The earlier part may be cut to its newest items first. -/
theorem newest_newest_append (count : Nat) (distinct : ((items ++ added).map key).Nodup) :
    newest key count (newest key count items ++ added) = newest key count (items ++ added) :=
  calc newest _ count (newest _ count items ++ added)
      = newest _ count (added ++ newest _ count items) :=
        newest_congr count (nodup_map_of_subperm distinct
          ((newest_subperm _ count items).append (List.Subperm.refl added))) perm_append_comm
    _ = newest _ count (added ++ items) := newest_append_newest _ count added items
    _ = newest _ count (items ++ added) := (newest_congr count distinct perm_append_comm).symm

/-- Both parts may be cut. -/
theorem newest_newest_append_newest (count : Nat) (distinct : ((items ++ added).map key).Nodup) :
    newest key count (newest key count items ++ newest key count added) =
      newest key count (items ++ added) := by
  rw [newest_append_newest]
  exact newest_newest_append count distinct

end DistinctKeys

variable {items : List α}

theorem orderedInsert_of_oldest {oldest : α} (least : ∀ item ∈ items, key oldest < key item) :
    items.orderedInsert (NewerEq key) oldest = items ++ [oldest] := by
  induction items with
  | nil => rfl
  | cons item items ih =>
    have later : ¬NewerEq key oldest item := not_le.mpr (least item mem_cons_self)
    rw [orderedInsert_cons, if_neg later,
      ih fun other mem => least other (mem_cons_of_mem _ mem), cons_append]

/-- Of one item too many the oldest is left out. -/
theorem newest_cons_of_oldest {oldest : α} (least : ∀ item ∈ items, key oldest < key item) :
    newest key items.length (oldest :: items) = newestFirst key items := by
  have sorted : newestFirst key (oldest :: items) = newestFirst key items ++ [oldest] := by
    exact orderedInsert_of_oldest _ fun item mem =>
      least item ((mem_insertionSort _).mp mem)
  rw [newest, sorted, ← (newestFirst_perm_self key items).length_eq]
  exact take_left' rfl

/-! ## Ranks -/

/-- The number of items that are newer. -/
def newerCount (items : List α) (item : α) : Nat := items.countP fun other => key item < key other

variable {key}

/-- In a descending order without equal keys the newer items are those before. -/
theorem newerCount_of_split {before after : List α} {item : α}
    (sorted : (before ++ item :: after).Pairwise (NewerEq key))
    (distinct : ((before ++ item :: after).map key).Nodup) :
    newerCount key (before ++ item :: after) item = before.length := by
  obtain ⟨-, later, earlier⟩ := pairwise_append.mp sorted
  rw [map_append, map_cons] at distinct
  have unlike : ∀ other ∈ before, key other ≠ key item := fun other mem same =>
    (nodup_append.mp distinct).2.2 _ (mem_map_of_mem mem) _ mem_cons_self same
  have newer : before.countP (fun other => key item < key other) = before.length :=
    countP_eq_length.mpr fun other mem => decide_eq_true
      (lt_of_le_of_ne (earlier other mem item mem_cons_self) (unlike other mem).symm)
  have older : (item :: after).countP (fun other => key item < key other) = 0 := by
    refine countP_eq_zero.mpr fun other mem => ?_
    rw [decide_eq_true_eq, not_lt]
    rcases mem_cons.mp mem with rfl | mem
    · exact le_rfl
    · exact (pairwise_cons.mp later).1 other mem
  rw [newerCount, countP_append, newer, older, Nat.add_zero]

/-- Behind the first places are the items with so many newer ones. -/
theorem mem_drop_newestFirst (distinct : (items.map key).Nodup) {count : Nat} {item : α} :
    item ∈ (newestFirst key items).drop count ↔ item ∈ items ∧
      count ≤ newerCount key items item := by
  have perm := newestFirst_perm_self key items
  have rank : newerCount key items item = newerCount key (newestFirst key items) item :=
    (perm.countP_eq _).symm
  have listed : item ∈ items ↔ item ∈ newestFirst key items := (mem_newestFirst key).symm
  rw [listed, rank]
  have sorted := newestFirst_pairwise key items
  have distinct := (perm.map _).nodup_iff.mpr distinct
  by_cases mem : item ∈ newestFirst key items
  · obtain ⟨before, after, split⟩ := append_of_mem mem
    rw [split] at sorted distinct ⊢
    rw [newerCount_of_split sorted distinct]
    constructor
    · intro behind
      refine ⟨mem_of_mem_drop behind, not_lt.mp fun short => ?_⟩
      have nodup := List.Nodup.of_map _ distinct
      rw [← take_append_drop count (before ++ item :: after)] at nodup
      refine (nodup_append.mp nodup).2.2 item ?_ item behind rfl
      rw [take_append, mem_append]
      obtain ⟨places, _⟩ := Nat.exists_eq_add_of_lt short
      have room : count - before.length = places + 1 := by omega
      rw [room, take_succ_cons]
      exact .inr mem_cons_self
    · rintro ⟨-, enough⟩
      rw [drop_append_of_le_length enough]
      exact mem_append_right _ mem_cons_self
  · exact ⟨fun behind => absurd (mem_of_mem_drop behind) mem, fun both => absurd both.1 mem⟩

end NetConsole.Foundations
