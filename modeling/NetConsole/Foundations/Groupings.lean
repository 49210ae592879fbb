import Mathlib.Data.List.Nodup
import Mathlib.Data.List.Perm.Basic

/-!
# Values in named groups

A list of named groups shares values out: `members groups` lists what the groups
hold. When no member is listed twice, a value lies in one group only
(`eq_of_mem_members`), and a new group takes its values out of what is left
(`append_filter_perm`). A filter that keeps nothing of the other groups keeps
what it keeps of one (`filter_flatMap_group`).
-/

set_option autoImplicit false

namespace NetConsole.Foundations

open List

variable {Name α : Type}

/-! ## Filters of groups -/

/-- A filter that keeps nothing of the other groups keeps what it keeps of one. -/
theorem filter_flatMap_group {ι β : Type} {indices : List ι} {group : ι → List β} {keep : β → Bool}
    {index : ι} (mem : index ∈ indices) (different : indices.Nodup)
    (others : ∀ other ∈ indices, other ≠ index → ∀ item ∈ group other, keep item = false) :
    (indices.flatMap group).filter keep = (group index).filter keep := by
  induction indices with
  | nil => cases mem
  | cons first rest ih =>
    rw [nodup_cons] at different
    rw [flatMap_cons, filter_append]
    rcases mem_cons.mp mem with rfl | mem
    · have none_later : (rest.flatMap group).filter keep = [] := by
        refine filter_eq_nil_iff.mpr fun item among => ?_
        obtain ⟨other, inRest, inGroup⟩ := mem_flatMap.mp among
        have apart : other ≠ index := fun eq => different.1 (eq ▸ inRest)
        rw [others other (mem_cons_of_mem _ inRest) apart item inGroup]
        exact Bool.false_ne_true
      rw [none_later, append_nil]
    · have none_here : (group first).filter keep = [] := by
        refine filter_eq_nil_iff.mpr fun item inGroup => ?_
        have apart : first ≠ index := fun eq => different.1 (eq ▸ mem)
        rw [others first mem_cons_self apart item inGroup]
        exact Bool.false_ne_true
      rw [none_here, nil_append]
      exact ih mem different.2 fun other among =>
        others other (mem_cons_of_mem _ among)

/-- A filter that keeps nothing of any group keeps nothing. -/
theorem filter_flatMap_eq_nil {ι β : Type} {indices : List ι} {group : ι → List β}
    {keep : β → Bool} (none_kept : ∀ index ∈ indices, ∀ item ∈ group index, keep item = false) :
    (indices.flatMap group).filter keep = [] := by
  refine filter_eq_nil_iff.mpr fun item among => ?_
  obtain ⟨index, mem, inGroup⟩ := mem_flatMap.mp among
  rw [none_kept index mem item inGroup]
  exact Bool.false_ne_true

/-! ## Named groups -/

/-- What the groups hold, group by group. -/
def members (groups : List (Name × List α)) : List α := groups.flatMap Prod.snd

theorem members_append (one two : List (Name × List α)) :
    members (one ++ two) = members one ++ members two := flatMap_append

theorem members_singleton (group : Name × List α) : members [group] = group.2 :=
  flatMap_singleton _ _

variable {groups : List (Name × List α)}

theorem mem_members {value : α} :
    value ∈ members groups ↔ ∃ group ∈ groups, value ∈ group.2 := mem_flatMap

theorem nodup_of_mem_members (distinct : (members groups).Nodup)
    {group : Name × List α} (mem : group ∈ groups) : group.2.Nodup :=
  (nodup_flatMap.mp distinct).1 group mem

theorem eq_of_mem_members (distinct : (members groups).Nodup)
    {group other : Name × List α} (mem : group ∈ groups) (otherMember : other ∈ groups)
    {value : α} (here : value ∈ group.2) (there : value ∈ other.2) : group = other := by
  induction groups with
  | nil => cases mem
  | cons first rest ih =>
    obtain ⟨_, restDistinct, apart⟩ := nodup_append'.mp distinct
    rcases mem_cons.mp mem with rfl | inRest <;>
      rcases mem_cons.mp otherMember with rfl | otherInRest
    · rfl
    · exact (apart here (mem_members.mpr ⟨other, otherInRest, there⟩)).elim
    · exact (apart there (mem_members.mpr ⟨group, inRest, here⟩)).elim
    · exact ih restDistinct inRest otherInRest

/-- Taking values out of what is left loses and doubles nothing. -/
theorem append_filter_perm [DecidableEq α] {taken rest : List α} (distinct : rest.Nodup)
    (takenDistinct : taken.Nodup) (inside : ∀ value ∈ taken, value ∈ rest) :
    (taken ++ rest.filter (fun value => value ∉ taken)).Perm rest := by
  apply (perm_ext_iff_of_nodup _ distinct).mpr
  · intro value
    simp only [mem_append, mem_filter, decide_eq_true_eq]
    constructor
    · rintro (here | ⟨there, _⟩)
      · exact inside value here
      · exact there
    · intro there
      by_cases here : value ∈ taken
      · exact .inl here
      · exact .inr ⟨there, here⟩
  · apply List.Nodup.append takenDistinct (distinct.filter _)
    intro value here there
    simp [here] at there

end NetConsole.Foundations
