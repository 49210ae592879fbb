import Mathlib.Data.List.Forall2

/-!
# Fallible functions

Two steps that may fail, one after the other, and a list that is read item by item with a
function that may fail.
-/

set_option autoImplicit false

namespace NetConsole.Foundations

open List

variable {α β ε : Type}

/-- What a step before has to give for two steps to succeed. -/
theorem bind_eq_ok {first : Except ε α} {second : α → Except ε β} {value : β} :
    (first >>= second) = .ok value ↔ ∃ before, first = .ok before ∧ second before = .ok value := by
  cases first with
  | error raised => simp [bind, Except.bind]
  | ok before => simp [bind, Except.bind]

theorem map_eq_ok {value : Except ε α} {apply : α → β} {image : β} :
    value.map apply = .ok image ↔ ∃ item, value = .ok item ∧ apply item = image := by
  cases value <;> simp [Except.map]

theorem toOption_eq_some {value : Except ε α} {item : α} :
    value.toOption = some item ↔ value = .ok item := by
  cases value <;> simp [Except.toOption]

/-- A guard is passed exactly if it does not refuse and the rest succeeds. -/
theorem guard_eq_ok {refused : Prop} [Decidable refused] {raised : ε} {next : Except ε α}
    {value : α} :
    (if refused then .error raised else next) = .ok value ↔ ¬ refused ∧ next = .ok value := by
  by_cases refuses : refused <;> simp [refuses]

variable {read : α → Except ε β} {items : List α} {images : List β}

/-- A fallible function succeeds on a list exactly if it does so item by item. -/
theorem mapM_eq_ok_iff : items.mapM read = .ok images ↔
      List.Forall₂ (fun item image => read item = .ok image) items images := by
  induction items generalizing images with
  | nil =>
    rw [mapM_nil, List.forall₂_nil_left_iff]
    exact ⟨fun same => (Except.ok.inj same).symm, fun same => same ▸ rfl⟩
  | cons item items ih =>
    rw [mapM_cons, List.forall₂_cons_left_iff]
    constructor
    · intro listed
      obtain ⟨image, first, listed⟩ := bind_eq_ok.mp listed
      obtain ⟨later, others, listed⟩ := bind_eq_ok.mp listed
      exact ⟨image, later, first, ih.mp others, (Except.ok.inj listed).symm⟩
    · rintro ⟨image, later, first, others, rfl⟩
      rw [first, ih.mpr others]
      rfl

theorem exists_mem_of_mapM (listed : items.mapM read = .ok images) {image : β}
    (mem : image ∈ images) : ∃ item ∈ items, read item = .ok image := by
  have each := mapM_eq_ok_iff.mp listed
  clear listed
  induction each with
  | nil => cases mem
  | cons first _ ih =>
    rcases mem_cons.mp mem with rfl | later
    · exact ⟨_, mem_cons_self, first⟩
    · obtain ⟨item, among, same⟩ := ih later
      exact ⟨item, mem_cons_of_mem _ among, same⟩

theorem mapM_total (total : ∀ item ∈ items, ∃ image, read item = .ok image) :
    ∃ images, items.mapM read = .ok images := by
  induction items with
  | nil => exact ⟨[], rfl⟩
  | cons item items ih =>
    obtain ⟨image, first⟩ := total item mem_cons_self
    obtain ⟨images, rest⟩ := ih fun other mem => total other (mem_cons_of_mem item mem)
    refine ⟨image :: images, ?_⟩
    rw [mapM_cons, first, rest]
    rfl

end NetConsole.Foundations
