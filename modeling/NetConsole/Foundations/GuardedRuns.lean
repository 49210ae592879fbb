import Mathlib.Logic.Basic

/-!
# Guarded runs

A system takes steps: `step state action` is the state after the action, or
`none` where the action is not possible. In a guarded run every action meets a
condition on the state before it.

An invariant that each guarded step preserves holds at the end of a guarded run
(`GuardedRun.invariant`), and a preorder that each guarded step respects relates
the ends of a run (`GuardedRun.relates`).
-/

set_option autoImplicit false

namespace NetConsole.Foundations

open Option

variable {State Action : Type} {step : State → Action → Option State}
  {guard : State → Action → Prop}

/-- The actions lead from the first state to the last, and each meets the guard. -/
inductive GuardedRun (step : State → Action → Option State) (guard : State → Action → Prop) :
    State → List Action → State → Prop
  | nil (state : State) : GuardedRun step guard state [] state
  | cons {state middle last : State} {action : Action} {actions : List Action}
      (met : guard state action) (taken : step state action = some middle)
      (rest : GuardedRun step guard middle actions last) :
      GuardedRun step guard state (action :: actions) last

namespace GuardedRun

variable {actions : List Action} {first last : State}

theorem invariant (holds : State → Prop)
    (preserved : ∀ state action after, holds state → guard state action →
      step state action = some after → holds after)
    (run : GuardedRun step guard first actions last) (initially : holds first) : holds last := by
  induction run with
  | nil state => exact initially
  | cons met taken _ ih => exact ih (preserved _ _ _ initially met taken)

/-- A preorder that the steps respect, under an invariant, relates the ends. -/
theorem relates (holds : State → Prop) (related : State → State → Prop)
    (refl : ∀ state, related state state)
    (trans : ∀ first second third, related first second → related second third →
      related first third)
    (preserved : ∀ state action after, holds state → guard state action →
      step state action = some after → holds after ∧ related state after)
    (run : GuardedRun step guard first actions last) (initially : holds first) :
    related first last := by
  induction run with
  | nil state => exact refl state
  | cons met taken _ ih =>
    obtain ⟨holds, related⟩ := preserved _ _ _ initially met taken
    exact trans _ _ _ related (ih holds)

end GuardedRun

/-- The state after some actions. -/
def runFrom (step : State → Action → Option State) (state : State) : List Action → Option State
  | [] => some state
  | action :: actions => (step state action).bind fun after => runFrom step after actions

variable {actions : List Action} {state last : State}

theorem GuardedRun.of_tested {test : State → Action → Bool}
    (sound : ∀ state action, test state action = true → guard state action)
    (taken : runFrom (fun state action => if test state action then step state action else none)
      state actions = some last) : GuardedRun step guard state actions last := by
  induction actions generalizing state with
  | nil =>
    obtain rfl := some.inj taken
    exact .nil state
  | cons action actions ih =>
    obtain ⟨_, first, rest⟩ := bind_eq_some_iff.mp taken
    simp only at first
    by_cases passed : test state action = true
    · rw [if_pos passed] at first
      exact .cons (sound state action passed) first (ih rest)
    · rw [if_neg passed] at first
      cases first

/-- The actions that are possible are a run without a condition. -/
theorem GuardedRun.of_runFrom (taken : runFrom step state actions = some last) :
    GuardedRun step (fun _ _ => True) state actions last :=
  of_tested (fun _ _ (_ : true = true) => trivial) (by simpa using taken)

end NetConsole.Foundations
