import Mathlib.Data.Nat.Count

/-!
# Tallies

`Nat.count` tallies the numbers below a bound that have a property. When the
property changes at one number only, the tally changes by one.
-/

set_option autoImplicit false

namespace NetConsole.Foundations

variable {before after : Nat → Prop} [DecidablePred before] [DecidablePred after]

theorem count_congr {bound : Nat} (same : ∀ index < bound, after index ↔ before index) :
    Nat.count after bound = Nat.count before bound := by
  induction bound with
  | zero => simp
  | succ bound ih =>
    rw [Nat.count_succ, Nat.count_succ, ih fun index below => same index (by omega)]
    simp only [same bound (by omega)]

theorem count_of_gained {bound index : Nat} (below : index < bound) (old : ¬before index)
    (new : after index) (same : ∀ other, other ≠ index → (after other ↔ before other)) :
    Nat.count after bound = Nat.count before bound + 1 := by
  induction bound with
  | zero => omega
  | succ bound ih =>
    rw [Nat.count_succ, Nat.count_succ]
    by_cases here : index = bound
    · subst here
      rw [count_congr fun other less => same other (by omega), if_pos new, if_neg old]
    · rw [ih (by omega)]
      simp only [same bound fun equal => here equal.symm]
      omega

theorem count_of_lost {bound index : Nat} (below : index < bound) (old : before index)
    (new : ¬after index) (same : ∀ other, other ≠ index → (after other ↔ before other)) :
    Nat.count after bound + 1 = Nat.count before bound :=
  (count_of_gained below new old fun other differs => (same other differs).symm).symm

theorem count_of_none_above {low high : Nat} (le : low ≤ high)
    (none' : ∀ index, low ≤ index → ¬before index) :
    Nat.count before high = Nat.count before low := by
  induction high, le using Nat.le_induction with
  | base => rfl
  | succ high le ih => rw [Nat.count_succ, if_neg (none' high le), ih, Nat.add_zero]

end NetConsole.Foundations
