import Mathlib.Data.List.Induction
import Mathlib.Order.Lattice

/-!
# Streaks

A streak is a run of hits without a miss between them. A scan keeps the length of the
streak that is going on, and that of the longest one so far.

The longest streak of two lists is one of the first, one of the second, or the one across
(`longestStreak_append`). A scan that forgets the streak that is going on misses the one across,
and gives the same exactly where this one is not longer than the others
(`forgotten_longest_iff`).
-/

set_option autoImplicit false

namespace NetConsole.Foundations

/-- The length of the last streak and of the longest. -/
structure Streak where
  (current longest : Nat)
  deriving DecidableEq

namespace Streak

def zero : Streak := ⟨0, 0⟩

/-- The next item is a hit or a miss. -/
def add (streak : Streak) (hit : Bool) : Streak :=
  if hit then ⟨streak.current + 1, max streak.longest (streak.current + 1)⟩
  else ⟨0, streak.longest⟩

def scan (streak : Streak) (hits : List Bool) : Streak := hits.foldl add streak

/-- The streak that is going on is forgotten. -/
def forget (streak : Streak) : Streak := ⟨0, streak.longest⟩

end Streak

/-! ## Streaks of a list -/

/-- The length of the streak that a list starts with. -/
def leadingStreak (hits : List Bool) : Nat := (hits.takeWhile id).length

/-- The length of the streak that it ends with. -/
def trailingStreak (hits : List Bool) : Nat := leadingStreak hits.reverse

/-- The longest streak of hits. -/
def longestStreak : List Bool → Nat
  | [] => 0
  | hit :: rest => max (leadingStreak (hit :: rest)) (longestStreak rest)

theorem leading_cons_true (rest : List Bool) :
    leadingStreak (true :: rest) = leadingStreak rest + 1 :=
  rfl

theorem leading_cons_false (rest : List Bool) : leadingStreak (false :: rest) = 0 := rfl

theorem leading_le_longest (hits : List Bool) : leadingStreak hits ≤ longestStreak hits := by
  cases hits with
  | nil => exact Nat.le_refl 0
  | cons hit rest => exact Nat.le_max_left _ _

theorem trailing_concat (hits : List Bool) (hit : Bool) :
    trailingStreak (hits ++ [hit]) = if hit then trailingStreak hits + 1 else 0 := by
  unfold trailingStreak
  rw [List.reverse_append]
  cases hit <;> rfl

/-! ## Scans -/

namespace Streak

theorem scan_append (streak : Streak) (one two : List Bool) :
    streak.scan (one ++ two) = (streak.scan one).scan two :=
  List.foldl_append

theorem current_scan (hits : List Bool) : (zero.scan hits).current = trailingStreak hits := by
  induction hits using List.reverseRecOn with
  | nil => rfl
  | append_singleton hits hit ih =>
    rw [scan_append, trailing_concat, ← ih]
    cases hit <;> rfl

theorem longest_scan {streak : Streak} (below : streak.current ≤ streak.longest)
    (hits : List Bool) : (streak.scan hits).longest =
      max streak.longest (max (streak.current + leadingStreak hits) (longestStreak hits)) := by
  induction hits generalizing streak with
  | nil =>
    show streak.longest = max streak.longest (max (streak.current + 0) 0)
    omega
  | cons hit rest ih =>
    cases hit with
    | true =>
      have next : (streak.add true).current ≤ (streak.add true).longest := Nat.le_max_right _ _
      refine (ih next).trans ?_
      rw [longestStreak, leading_cons_true]
      show max (max streak.longest (streak.current + 1))
        (max (streak.current + 1 + leadingStreak rest) (longestStreak rest)) = _
      omega
    | false =>
      have next : (streak.add false).current ≤ (streak.add false).longest := Nat.zero_le _
      refine (ih next).trans ?_
      rw [longestStreak, leading_cons_false]
      show max streak.longest (max (0 + leadingStreak rest) (longestStreak rest)) = _
      have least := leading_le_longest rest
      omega

theorem longest_scan_zero (hits : List Bool) : (zero.scan hits).longest = longestStreak hits := by
  rw [longest_scan (Nat.le_refl 0)]
  show max 0 (max (0 + leadingStreak hits) (longestStreak hits)) = longestStreak hits
  have least := leading_le_longest hits
  omega

theorem current_le_longest (hits : List Bool) :
    (zero.scan hits).current ≤ (zero.scan hits).longest := by
  induction hits using List.reverseRecOn with
  | nil => exact Nat.le_refl 0
  | append_singleton hits hit ih =>
    rw [scan_append]
    cases hit with
    | true => exact Nat.le_max_right _ _
    | false => exact Nat.zero_le _

end Streak

theorem longestStreak_append (one two : List Bool) : longestStreak (one ++ two) =
      max (max (longestStreak one) (longestStreak two))
        (trailingStreak one + leadingStreak two) := by
  rw [← Streak.longest_scan_zero, Streak.scan_append, Streak.longest_scan (Streak.current_le_longest
    one), Streak.current_scan, Streak.longest_scan_zero]
  omega

theorem forgotten_longest_iff (one two : List Bool) :
    (((Streak.zero.scan one).forget).scan two).longest = (Streak.zero.scan (one ++ two)).longest ↔
      trailingStreak one + leadingStreak two ≤ max (longestStreak one) (longestStreak two) := by
  have forgotten : (((Streak.zero.scan one).forget).scan two).longest =
      max (longestStreak one) (max (0 + leadingStreak two) (longestStreak two)) := by
    rw [← Streak.longest_scan_zero one]
    exact Streak.longest_scan (Nat.zero_le _) two
  rw [forgotten, Streak.longest_scan_zero, longestStreak_append]
  have least := leading_le_longest two
  omega

end NetConsole.Foundations
