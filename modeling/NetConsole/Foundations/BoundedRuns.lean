import NetConsole.Foundations.GuardedRuns
import Mathlib.Data.Nat.Init

/-!
# Bounded runs

All runs from a state are bounded when, under an invariant, every step lowers a measure
(`runsWithin_measure`). They are not when there are states from which some step always
leads to such a state again (`not_runsWithin_of_goesOn`).
-/

set_option autoImplicit false

namespace NetConsole.Foundations

variable {State Action : Type} {step : State → Action → Option State}

/-- No run from the state takes more steps. -/
def RunsWithin (step : State → Action → Option State) (state : State) (bound : Nat) : Prop :=
  ∀ actions after, runFrom step state actions = some after → actions.length ≤ bound

theorem runFrom_append (state : State) (first second : List Action) :
    runFrom step state (first ++ second) =
      (runFrom step state first).bind fun middle => runFrom step middle second := by
  induction first generalizing state with
  | nil => rfl
  | cons action first ih =>
    simp only [List.cons_append, runFrom, Option.bind_assoc, ih]

/-- What is behind a run takes no more steps either. -/
theorem RunsWithin.behind {state middle : State} {bound : Nat} {actions : List Action}
    (within : RunsWithin step state bound) (taken : runFrom step state actions = some middle) :
    RunsWithin step middle bound := by
  intro others last rest
  have whole : runFrom step state (actions ++ others) = some last := by
    rw [runFrom_append, taken]
    exact rest
  have limit := within _ last whole
  rw [List.length_append] at limit
  omega

theorem runsWithin_measure (holds : State → Prop) (measure : State → Nat)
    (lowers : ∀ state action after, holds state → step state action = some after →
      holds after ∧ measure after < measure state)
    {state : State} (initially : holds state) : RunsWithin step state (measure state) := by
  intro actions
  induction actions generalizing state with
  | nil => exact fun _ _ => Nat.zero_le _
  | cons action actions ih =>
    intro last taken
    obtain ⟨after, first, rest⟩ := Option.bind_eq_some_iff.mp taken
    obtain ⟨still, lower⟩ := lowers state action after initially first
    have later := ih still last rest
    rw [List.length_cons]
    omega

theorem not_runsWithin_of_goesOn (stuck : State → Prop)
    (goesOn : ∀ state, stuck state → ∃ action after, step state action = some after ∧ stuck after)
    {state : State} (initially : stuck state) (bound : Nat) : ¬RunsWithin step state bound := by
  have long : ∀ count, ∃ actions after, runFrom step state actions = some after ∧
      actions.length = count := by
    intro count
    induction count generalizing state with
    | zero => exact ⟨[], state, rfl, rfl⟩
    | succ count ih =>
      obtain ⟨action, middle, first, still⟩ := goesOn state initially
      obtain ⟨actions, after, rest, length⟩ := ih still
      refine ⟨action :: actions, after, ?_, by rw [List.length_cons, length]⟩
      exact Option.bind_eq_some_iff.mpr ⟨middle, first, rest⟩
  intro within
  obtain ⟨actions, after, taken, length⟩ := long (bound + 1)
  have limit := within actions after taken
  omega

end NetConsole.Foundations
