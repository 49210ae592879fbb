import Mathlib.Data.List.Nodup
import Mathlib.Data.Set.Basic

/-!
# Exact covers, and upserts into keyed entries

Items cover points. A list of items is an exact cover of a set when every point of the set is in
exactly one item of the list, and no other point is in any.

An upsert changes the entry of a key, or adds one. Upserts of distinct keys change and add what
each of them does alone (`foldl_upsert`), so the entries that are left when all other keys are
dropped have just these keys (`perm_touched`).
-/

set_option autoImplicit false

namespace NetConsole.Foundations

open List

/-! ## Covers -/

section Covers

variable {ι α : Type} (covers : ι → α → Prop) [∀ point, DecidablePred (covers · point)]

/-- How many items a point is in. -/
def coverage (items : List ι) (point : α) : Nat :=
  items.countP fun item => decide (covers item point)

@[simp] theorem coverage_append (one two : List ι) (point : α) :
    coverage covers (one ++ two) point = coverage covers one point + coverage covers two point :=
  countP_append

variable {items : List ι}

theorem coverage_eq_zero {point : α} (uncovered : ∀ item ∈ items, ¬ covers item point) :
    coverage covers items point = 0 :=
  countP_eq_zero.mpr fun item mem => by simpa using uncovered item mem

/-- The items of a partition, taken through functions that cover the same at the point. -/
theorem coverage_partition {β : Type} (entries : List β) (keeps : β → Bool) (kept gone all : β → ι)
    {point : α} (sameKept : ∀ entry ∈ entries, keeps entry = true →
      (covers (kept entry) point ↔ covers (all entry) point))
    (sameGone : ∀ entry ∈ entries, keeps entry = false →
      (covers (gone entry) point ↔ covers (all entry) point)) :
    coverage covers ((entries.filter keeps).map kept) point +
        coverage covers ((entries.filter (!keeps ·)).map gone) point =
      coverage covers (entries.map all) point := by
  unfold coverage
  induction entries with
  | nil => rfl
  | cons entry entries ih =>
    have rest := ih (fun other mem => sameKept other (mem_cons_of_mem _ mem))
      (fun other mem => sameGone other (mem_cons_of_mem _ mem))
    cases keep : keeps entry with
    | true =>
      have here := sameKept entry mem_cons_self keep
      simp only [filter_cons, keep, Bool.not_true, if_true, Bool.false_eq_true, if_false,
        map_cons, countP_cons, here]
      omega
    | false =>
      have here := sameGone entry mem_cons_self keep
      simp only [filter_cons, keep, Bool.not_false, if_true, Bool.false_eq_true, if_false,
        map_cons, countP_cons, here]
      omega

/-- Every point of the set is in exactly one item, and no other point is in any. -/
structure ExactCover (items : List ι) (points : Set α) : Prop where
  once : ∀ point ∈ points, coverage covers items point = 1
  outside : ∀ point, point ∉ points → coverage covers items point = 0

variable {covers} {points : Set α}

theorem ExactCover.covered_iff (cover : ExactCover covers items points) (point : α) :
    (∃ item ∈ items, covers item point) ↔ point ∈ points := by
  constructor
  · rintro ⟨item, mem, covered⟩
    by_contra other
    have none := countP_eq_zero.mp (cover.outside point other) item mem
    exact none (decide_eq_true covered)
  · intro mem
    have one : 0 < coverage covers items point := by
      rw [cover.once point mem]
      exact Nat.one_pos
    obtain ⟨item, mem, covered⟩ := countP_pos_iff.mp one
    exact ⟨item, mem, of_decide_eq_true covered⟩

theorem ExactCover.pairwise (cover : ExactCover covers items points) :
    items.Pairwise fun one other => ∀ point, ¬ (covers one point ∧ covers other point) := by
  have atMost : ∀ point, coverage covers items point ≤ 1 := by
    intro point
    by_cases mem : point ∈ points
    · exact (cover.once point mem).le
    · exact (cover.outside point mem).le.trans (Nat.zero_le 1)
  clear cover
  induction items with
  | nil => exact List.Pairwise.nil
  | cons item items ih =>
    refine pairwise_cons.mpr ⟨?_, ih fun point => ?_⟩
    · intro other mem point both
      have here : coverage covers (item :: items) point = coverage covers items point + 1 :=
        countP_cons_of_pos (decide_eq_true both.1)
      have again : 0 < coverage covers items point :=
        countP_pos_iff.mpr ⟨other, mem, decide_eq_true both.2⟩
      have most := atMost point
      omega
    · have most := atMost point
      unfold coverage at most ⊢
      rw [countP_cons] at most
      omega

theorem ExactCover.nil : ExactCover covers [] ∅ where
  once _ mem := mem.elim
  outside _ _ := rfl

/-- One more item, which meets none of the points so far. -/
theorem ExactCover.concat {item : ι} (cover : ExactCover covers items points)
    (apart : ∀ point ∈ points, ¬ covers item point) :
    ExactCover covers (items ++ [item]) {point | point ∈ points ∨ covers item point} where
  once point mem := by
    rw [coverage_append]
    by_cases covered : covers item point
    · rw [cover.outside point fun inside => apart point inside covered]
      exact (Nat.zero_add _).trans (countP_cons_of_pos (decide_eq_true covered))
    · rw [cover.once point (mem.resolve_right covered),
        coverage_eq_zero covers (forall_mem_singleton.mpr covered)]
  outside point other := by
    rw [coverage_append, cover.outside point fun inside => other (.inl inside),
      coverage_eq_zero covers (forall_mem_singleton.mpr fun covered => other (.inr covered))]

end Covers

/-! ## Upserts -/

section Upserts

variable {κ β γ : Type} [DecidableEq κ]

/-- The entry of the item's key is updated; if there is none, one is created behind the others. -/
def upsert (key : γ → κ) (update : β → β) (create : γ → β) (entries : List (κ × β)) (item : γ) :
    List (κ × β) :=
  if key item ∈ entries.map Prod.fst then
    entries.map fun entry => if entry.1 = key item then (entry.1, update entry.2) else entry
  else entries ++ [(key item, create item)]

variable {key : γ → κ} {update : β → β} {create : γ → β}

theorem map_fst_touch (update : β → β) (changed : List κ) (entries : List (κ × β)) :
    (entries.map fun entry =>
        if entry.1 ∈ changed then (entry.1, update entry.2) else entry).map Prod.fst =
      entries.map Prod.fst := by
  rw [map_map]
  refine map_congr_left fun entry _ => ?_
  show (if entry.1 ∈ changed then (entry.1, update entry.2) else entry).1 = entry.1
  split <;> rfl

variable {items : List γ}

theorem foldl_upsert (entries : List (κ × β)) (distinct : (items.map key).Nodup) :
    items.foldl (upsert key update create) entries = (entries.map fun entry =>
          if entry.1 ∈ items.map key then (entry.1, update entry.2) else entry) ++
        (items.filter fun item => decide (key item ∉ entries.map Prod.fst)).map
          fun item => (key item, create item) := by
  induction items generalizing entries with
  | nil => simp
  | cons item items ih =>
    obtain ⟨fresh, distinct⟩ := nodup_cons.mp distinct
    rw [foldl_cons, ih _ distinct]
    unfold upsert
    by_cases known : key item ∈ entries.map Prod.fst
    · -- the entry is there, and no later item touches it
      have keys := map_fst_touch update [key item] entries
      simp only [mem_singleton] at keys
      rw [if_pos known, keys, map_map, filter_cons_of_neg (by simpa using known)]
      congr 1
      refine map_congr_left fun entry _ => ?_
      by_cases same : entry.1 = key item
      · have untouched : entry.1 ∉ items.map key := same ▸ fresh
        have touched : entry.1 ∈ (item :: items).map key := same ▸ mem_cons_self
        simp only [Function.comp, if_pos same, if_neg untouched, if_pos touched]
      · have iff : entry.1 ∈ (item :: items).map key ↔ entry.1 ∈ items.map key := by
          rw [map_cons, mem_cons, or_iff_right same]
        simp only [Function.comp, if_neg same, iff]
    · have others : ∀ entry ∈ entries, entry.1 ≠ key item := fun entry mem same =>
        known (same ▸ mem_map_of_mem mem)
      rw [if_neg known, map_append, map_singleton, if_neg fresh, append_assoc,
        filter_cons_of_pos (by simpa using known), map_cons, singleton_append]
      congr 1
      · refine map_congr_left fun entry mem => ?_
        have iff : entry.1 ∈ key item :: items.map key ↔ entry.1 ∈ items.map key := by
          rw [mem_cons, or_iff_right (others entry mem)]
        simp only [iff]
      · congr 2
        refine filter_congr fun other mem => ?_
        have unlike : key other ≠ key item := fun same =>
          fresh (same ▸ mem_map_of_mem mem)
        simp [unlike]

theorem filter_touched (entries : List (κ × β)) (distinct : (items.map key).Nodup) :
    (items.foldl (upsert key update create) entries).filter
        (fun entry => decide (entry.1 ∈ items.map key)) =
      ((entries.filter fun entry => decide (entry.1 ∈ items.map key)).map
          fun entry => (entry.1, update entry.2)) ++
        (items.filter fun item => decide (key item ∉ entries.map Prod.fst)).map
          fun item => (key item, create item) := by
  rw [foldl_upsert entries distinct, filter_append]
  congr 1
  · clear distinct
    induction entries with
    | nil => rfl
    | cons entry entries ih =>
      by_cases touched : entry.1 ∈ items.map key <;>
        simp only [map_cons, filter_cons, touched, if_true, if_false, decide_true,
          decide_false, Bool.false_eq_true, ih]
  · refine filter_eq_self.mpr fun entry mem => ?_
    obtain ⟨item, listed, rfl⟩ := mem_map.mp mem
    exact decide_eq_true (mem_map_of_mem (mem_filter.mp listed).1)

theorem filter_untouched (entries : List (κ × β)) (distinct : (items.map key).Nodup) :
    (items.foldl (upsert key update create) entries).filter
        (fun entry => !decide (entry.1 ∈ items.map key)) =
      entries.filter fun entry => !decide (entry.1 ∈ items.map key) := by
  rw [foldl_upsert entries distinct, filter_append]
  have none : ((items.filter fun item => decide (key item ∉ entries.map Prod.fst)).map
      fun item => (key item, create item)).filter
        (fun entry => !decide (entry.1 ∈ items.map key)) = [] := by
    refine filter_eq_nil_iff.mpr fun entry mem => ?_
    obtain ⟨item, listed, rfl⟩ := mem_map.mp mem
    simpa using ⟨item, (mem_filter.mp listed).1, rfl⟩
  rw [none, append_nil]
  clear distinct none
  induction entries with
  | nil => rfl
  | cons entry entries ih =>
    by_cases touched : entry.1 ∈ items.map key <;>
      simp only [map_cons, filter_cons, touched, if_true, if_false, decide_true, Bool.not_true,
        Bool.false_eq_true, ih]

/-- When the entries have distinct keys, those that are left have just the keys of the items. -/
theorem perm_touched {entries : List (κ × β)} (distinct : (items.map key).Nodup)
    (keyed : (entries.map Prod.fst).Nodup) :
    (((items.foldl (upsert key update create) entries).filter
      fun entry => decide (entry.1 ∈ items.map key)).map Prod.fst).Perm (items.map key) := by
  rw [filter_touched entries distinct, map_append, map_map, map_map]
  show ((_ : List (κ × β)).map Prod.fst ++ (_ : List γ).map key).Perm _
  refine (perm_ext_iff_of_nodup ?_ distinct).mpr fun name => ?_
  · refine nodup_append.mpr ⟨keyed.sublist (filter_sublist.map _),
      distinct.sublist (filter_sublist.map _), ?_⟩
    rintro _ old _ new rfl
    obtain ⟨entry, mem, rfl⟩ := mem_map.mp old
    obtain ⟨item, listed, same⟩ := mem_map.mp new
    have unknown := of_decide_eq_true (mem_filter.mp listed).2
    exact unknown (same ▸ mem_map_of_mem (mem_filter.mp mem).1)
  · rw [mem_append]
    constructor
    · rintro (old | new)
      · obtain ⟨entry, mem, rfl⟩ := mem_map.mp old
        exact of_decide_eq_true (mem_filter.mp mem).2
      · obtain ⟨item, listed, rfl⟩ := mem_map.mp new
        exact mem_map_of_mem (mem_filter.mp listed).1
    · intro touched
      by_cases known : name ∈ entries.map Prod.fst
      · obtain ⟨entry, mem, rfl⟩ := mem_map.mp known
        exact .inl (mem_map_of_mem (mem_filter.mpr ⟨mem, decide_eq_true touched⟩))
      · obtain ⟨item, listed, rfl⟩ := mem_map.mp touched
        exact .inr (mem_map_of_mem (mem_filter.mpr ⟨listed, decide_eq_true known⟩))

end Upserts

end NetConsole.Foundations
