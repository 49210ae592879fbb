import Mathlib.Data.List.Basic

/-!
# Calls that a crash may cut short

A call makes its changes durable one after the other, and `durable` lists the states
that it goes through. A crash keeps the first few of them. What every durable state
of a call keeps holds after any run of calls (`attempts_keep`).
-/

set_option autoImplicit false

namespace NetConsole.Foundations

section CrashedCalls

variable {Call State : Type} (durable : Call → State → List State)

/-- The state after a call of which everything was done. -/
def callResult (call : Call) (state : State) : State :=
  (durable call state).getLast?.getD state

/-- The state after a call. A crash keeps the given number of its states. -/
def attempt (state : State) (call : Call × Option Nat) : State :=
  match call.2 with
  | none => callResult durable call.1 state
  | some kept => ((durable call.1 state).take kept).getLast?.getD state

/-- The state after a run of calls. -/
def attempts (state : State) (calls : List (Call × Option Nat)) : State :=
  calls.foldl (attempt durable) state

variable {durable}

theorem getLast?_getD_mem (states : List State) (state : State) :
    states.getLast?.getD state = state ∨ states.getLast?.getD state ∈ states := by
  cases last : states.getLast? with
  | none => exact .inl rfl
  | some reached => exact .inr (List.mem_of_getLast? last)

theorem attempt_mem (state : State) (call : Call × Option Nat) :
    attempt durable state call = state ∨ attempt durable state call ∈ durable call.1 state := by
  unfold attempt
  split
  · exact getLast?_getD_mem _ state
  · next kept _ =>
    rcases getLast?_getD_mem ((durable call.1 state).take kept) state with same | mem
    · exact .inl same
    · exact .inr (List.mem_of_mem_take mem)

theorem attempts_keep (holds : State → Prop)
    (step : ∀ call state, holds state → ∀ reached ∈ durable call state, holds reached)
    (state : State) (entry : holds state) (calls : List (Call × Option Nat)) :
    holds (attempts durable state calls) := by
  induction calls generalizing state with
  | nil => exact entry
  | cons call rest ih =>
    apply ih
    rcases attempt_mem state call with same | mem
    · rw [same]
      exact entry
    · exact step call.1 state entry _ mem

end CrashedCalls

end NetConsole.Foundations
