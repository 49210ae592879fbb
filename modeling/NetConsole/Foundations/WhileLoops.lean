import Mathlib.Data.List.Basic

/-!
# While loops

`whileLoop test body fuel state` runs `while test: body` for at most `fuel`
rounds. A round may itself not end, and a loop whose fuel does not reach has no
result, so that a result always is the state in which the test failed.

More fuel never changes a result (`whileLoop_mono`). An invariant with a measure
that every round lowers gives a result and says what holds of it
(`whileLoop_ends`).
-/

set_option autoImplicit false

namespace NetConsole.Foundations

variable {State : Type}

/-- `while test: body`, for at most `fuel` rounds. -/
def whileLoop (test : State → Bool) (body : State → Option State) : Nat → State → Option State
  | 0, state => if test state then none else some state
  | fuel + 1, state =>
    if test state then (body state).bind (whileLoop test body fuel) else some state

variable {test : State → Bool} {body wider : State → Option State}

theorem whileLoop_of_not {state : State} (failed : test state = false) (fuel : Nat) :
    whileLoop test body fuel state = some state := by
  cases fuel <;> simp [whileLoop, failed]

/-- More fuel, for the loop and for its rounds, gives the same result. -/
theorem whileLoop_mono (widens : ∀ state after, body state = some after → wider state = some after)
    {fuel more : Nat} (enough : fuel ≤ more) {state after : State}
    (ended : whileLoop test body fuel state = some after) :
    whileLoop test wider more state = some after := by
  induction fuel generalizing state more with
  | zero =>
    unfold whileLoop at ended
    split at ended
    · cases ended
    · cases ended
      exact whileLoop_of_not (by simpa using ‹¬test _ = true›) more
  | succ fuel ih =>
    obtain ⟨more, rfl⟩ : ∃ rest, more = rest + 1 := ⟨more - 1, by omega⟩
    unfold whileLoop at ended ⊢
    split at ended
    · obtain ⟨_, taken, rest⟩ := Option.bind_eq_some_iff.mp ended
      rw [if_pos ‹_›, widens _ _ taken]
      exact ih (by omega) rest
    · rw [if_neg ‹_›]
      exact ended

theorem whileLoop_ends (holds : State → Prop) (measure : State → Nat)
    (round : ∀ state, holds state → test state = true →
      ∃ after, body state = some after ∧ holds after ∧ measure after < measure state)
    {fuel : Nat} {state : State} (initially : holds state) (enough : measure state ≤ fuel) :
    ∃ after, whileLoop test body fuel state = some after ∧ holds after ∧ test after = false := by
  induction fuel generalizing state with
  | zero =>
    cases tested : test state with
    | true =>
      obtain ⟨_, _, _, lower⟩ := round state initially tested
      omega
    | false => exact ⟨state, whileLoop_of_not tested 0, initially, tested⟩
  | succ fuel ih =>
    cases tested : test state with
    | true =>
      obtain ⟨_, taken, kept, lower⟩ := round state initially tested
      obtain ⟨after, rest, held, failed⟩ := ih kept (by omega)
      refine ⟨after, ?_, held, failed⟩
      rw [whileLoop, if_pos tested, taken]
      exact rest
    | false => exact ⟨state, whileLoop_of_not tested (fuel + 1), initially, tested⟩

end NetConsole.Foundations
