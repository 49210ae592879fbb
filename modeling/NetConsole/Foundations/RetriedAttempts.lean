import Mathlib.Algebra.Order.BigOperators.Group.List
import Mathlib.Algebra.Order.Ring.Nat

/-!
# Attempts on a locked database

An attempt executes statements in one transaction. A statement may find the database locked: then
the transaction is rolled back and the attempt is repeated. What the attempt has done to variables
of its caller is not undone.

When the variables count, each failed attempt adds to what the last one counts. The totals are those
of a single attempt exactly if no failed attempt counted anything (`retried_iff`).
-/

set_option autoImplicit false

namespace NetConsole.Foundations

open List

/-- Why an attempt fails. -/
inductive AttemptFailure (ε : Type) where
  | locked
  | raised (error : ε)
  deriving DecidableEq

/-- The state of an attempt: the database as the transaction sees it, the variables of the caller,
and for each statement to come whether it finds the database locked. -/
structure AttemptState (σ α : Type) where
  database : σ
  totals : α
  locks : List Bool

/-- An attempt that may fail, over the outside world and what is saved. -/
abbrev Attempt (σ α ε β : Type) : Type :=
  EStateM (AttemptFailure ε) (AttemptState σ α) β

namespace Attempt

variable {σ α ε β : Type}

/-! ## Statements -/

/-- A statement, which fails where the database is locked. -/
def execute (change : σ → σ) : Attempt σ α ε Unit := fun state =>
  match state.locks with
  | true :: rest => .error .locked { state with locks := rest }
  | false :: rest => .ok () { state with database := change state.database, locks := rest }
  | [] => .ok () { state with database := change state.database }

/-- A query whose failure is caught: whether it was answered. -/
def tryQuery : Attempt σ α ε Bool := fun state =>
  .ok (state.locks.head? != some true) { state with locks := state.locks.tail }

def readDatabase : Attempt σ α ε σ := fun state => .ok state.database state

def readTotals : Attempt σ α ε α := fun state => .ok state.totals state

def modifyTotals (change : α → α) : Attempt σ α ε Unit := fun state =>
  .ok () { state with totals := change state.totals }

/-- What is computed without the database. -/
def ofExcept (computed : Except ε β) : Attempt σ α ε β := fun state =>
  match computed with
  | .ok value => .ok value state
  | .error error => .error (.raised error) state

/-- Some statements, one after the other. -/
def executeAll : List (σ → σ) → Attempt σ α ε Unit
  | [] => pure ()
  | change :: rest => do
    execute change
    executeAll rest

/-- The statements that come before a lock. -/
def beforeLock {δ : Type} : List δ → List Bool → List δ
  | [], _ => []
  | statement :: rest, locks =>
    if true ∈ locks.take 1 then [] else statement :: beforeLock rest (locks.drop 1)

theorem mem_take_add {δ : Type} {member : δ} {items : List δ} {count more : Nat} :
    member ∈ items.take (count + more) ↔
      member ∈ items.take count ∨ member ∈ (items.drop count).take more := by
  rw [← mem_append, ← take_add]

/-! ## Retrying -/

/-- The committed database, unless the attempt failed, and the variables of the caller. -/
def run (attempt : Attempt σ α ε Unit) (database : σ) (totals : α) (locks : List Bool) :
    Except (AttemptFailure ε) σ × α :=
  match attempt ⟨database, totals, locks⟩ with
  | .ok _ state => (.ok state.database, state.totals)
  | .error failure state => (.error failure, state.totals)

section Runs

variable {database : σ} {totals : α} {locks : List Bool}

@[simp] theorem run_readDatabase {next : σ → Attempt σ α ε Unit} :
    run (readDatabase >>= next) database totals locks = run (next database) database totals locks :=
  rfl

@[simp] theorem run_readTotals {next : α → Attempt σ α ε Unit} :
    run (readTotals >>= next) database totals locks = run (next totals) database totals locks :=
  rfl

variable {next : Unit → Attempt σ α ε Unit}

@[simp] theorem run_modifyTotals {change : α → α} :
    run (modifyTotals change >>= next) database totals locks =
      run (next ()) database (change totals) locks :=
  rfl

@[simp] theorem run_ofExcept {value : β} {next : β → Attempt σ α ε Unit} :
    run (ofExcept (.ok value) >>= next) database totals locks =
      run (next value) database totals locks :=
  rfl

@[simp] theorem run_ofExcept_error {error : ε} {next : β → Attempt σ α ε Unit} :
    run (ofExcept (.error error) >>= next) database totals locks =
      (.error (.raised error), totals) :=
  rfl

@[simp] theorem run_tryQuery {next : Bool → Attempt σ α ε Unit} :
    run (tryQuery >>= next) database totals locks =
      run (next (locks.head? != some true)) database totals locks.tail :=
  rfl

variable {change : σ → σ}

theorem run_execute : run (execute change >>= next) database totals locks =
      if true ∈ locks.take 1 then (.error .locked, totals)
      else run (next ()) (change database) totals (locks.drop 1) := by
  cases locks with
  | nil => rfl
  | cons locked locks => cases locked <;> rfl

theorem run_commit : run (execute change : Attempt σ α ε Unit) database totals locks =
      if true ∈ locks.take 1 then (.error .locked, totals)
        else (.ok (change database), totals) := by
  cases locks with
  | nil => rfl
  | cons locked locks => cases locked <;> rfl

theorem run_executeAll {changes : List (σ → σ)} :
    run (executeAll changes >>= next) database totals locks =
      if true ∈ locks.take changes.length then (.error .locked, totals)
      else run (next ()) (changes.foldl (fun database change => change database) database) totals
        (locks.drop changes.length) := by
  induction changes generalizing database locks with
  | nil => rfl
  | cons change changes ih =>
    have split : executeAll (change :: changes) >>= next =
        execute change >>= fun _ => executeAll changes >>= next := bind_assoc _ _ _
    rw [split, run_execute, ih]
    cases locks with
    | nil => simp
    | cons locked locks => cases locked <;> simp

end Runs

/-- `run_sqlite_with_retry`: an attempt that finds the database locked is repeated, and the last
failure is raised. The locks are those that the attempts meet in turn. -/
def retry (attempt : Attempt σ α ε Unit) : Nat → List (List Bool) → σ → α →
    Except (AttemptFailure ε) (σ × α)
  | 0, _, _, _ => .error .locked
  | attempts + 1, locks, database, totals =>
    match attempt.run database totals (locks.headD []) with
    | (.ok database, totals) => .ok (database, totals)
    | (.error .locked, totals) => retry attempt attempts locks.tail database totals
    | (.error (.raised error), _) => .error (.raised error)

/-- The attempts that meet these locks fail, one after the other. -/
def AllFail (attempt : Attempt σ α ε Unit) (database : σ) : α → List (List Bool) → Prop
  | _, [] => True
  | totals, locks :: rest =>
    (attempt.run database totals locks).1 = .error .locked ∧
      AllFail attempt database (attempt.run database totals locks).2 rest

/-- The variables after failed attempts. -/
def leaked (attempt : Attempt σ α ε Unit) (database : σ) (totals : α) (locks : List (List Bool)) :
    α :=
  locks.foldl (fun totals locks => (attempt.run database totals locks).2) totals

variable {attempt : Attempt σ α ε Unit} {database : σ} {totals : α}
  {attempts : Nat} {after : α} {committed : σ}

theorem retry_committed (first : attempt.run database totals [] = (.ok committed, after)) :
    retry attempt (attempts + 1) [] database totals = .ok (committed, after) := by
  unfold retry
  rw [headD_nil, first]

theorem retry_raised {error : ε}
    (raised : attempt.run database totals [] = (.error (.raised error), after)) :
    retry attempt (attempts + 1) [] database totals = .error (.raised error) := by
  unfold retry
  rw [headD_nil, raised]

/-- After failed attempts, the next one starts on the same database with what they left. -/
theorem retry_allFail {locks : List (List Bool)} (fail : AllFail attempt database totals locks)
    (enough : locks.length < attempts)
    (last : attempt.run database (leaked attempt database totals locks) [] = (.ok committed, after))
    : retry attempt attempts locks database totals = .ok (committed, after) := by
  induction locks generalizing totals attempts with
  | nil =>
    obtain ⟨attempts, rfl⟩ := Nat.exists_eq_succ_of_ne_zero (Nat.pos_iff_ne_zero.mp enough)
    exact retry_committed last
  | cons first locks ih =>
    obtain ⟨attempts, rfl⟩ :=
      Nat.exists_eq_succ_of_ne_zero (Nat.pos_iff_ne_zero.mp (Nat.zero_lt_of_lt enough))
    obtain ⟨failed, fail⟩ := fail
    have here : attempt.run database totals first =
        (.error .locked, (attempt.run database totals first).2) := Prod.ext failed rfl
    unfold retry
    rw [headD_cons, here]
    exact ih fail (Nat.lt_of_succ_lt_succ enough) last

theorem leaked_keeps {holds : α → Prop}
    (keeps : ∀ totals locks, holds totals → holds (attempt.run database totals locks).2)
    (start : holds totals) (locks : List (List Bool)) :
    holds (leaked attempt database totals locks) := by
  induction locks generalizing totals with
  | nil => exact start
  | cons first locks ih => exact ih (keeps totals first start)

/-! ## Counting -/

section Counting

variable {γ : Type}

/-- An attempt counts: it adds to the size of the counts what depends on its locks only, and leaves
the counts alone when that is nothing. -/
structure Counts (attempt : Attempt σ α ε Unit) (database : σ) (counts : α → γ) (size : γ → Nat)
    (added : List Bool → Nat) : Prop where
  adds : ∀ totals locks, size (counts (attempt.run database totals locks).2) =
    size (counts totals) + added locks
  keeps : ∀ totals locks, added locks = 0 →
    counts (attempt.run database totals locks).2 = counts totals

variable {counts : α → γ} {size : γ → Nat} {added : List Bool → Nat}
  (counting : Counts attempt database counts size added)
include counting

theorem Counts.size_leaked (totals : α) (locks : List (List Bool)) :
    size (counts (leaked attempt database totals locks)) =
      size (counts totals) + (locks.map added).sum := by
  induction locks generalizing totals with
  | nil => rfl
  | cons first locks ih =>
    have rest := ih (attempt.run database totals first).2
    rw [counting.adds] at rest
    rw [map_cons, sum_cons, ← Nat.add_assoc]
    exact rest

theorem Counts.counts_leaked (totals : α) {locks : List (List Bool)}
    (nothing : ∀ first ∈ locks, added first = 0) :
    counts (leaked attempt database totals locks) = counts totals := by
  induction locks generalizing totals with
  | nil => rfl
  | cons first locks ih =>
    obtain ⟨here, nothing⟩ := forall_mem_cons.mp nothing
    exact (ih _ nothing).trans (counting.keeps totals first here)

/-- Failed attempts leave the size alone exactly if none of them counted anything. -/
theorem Counts.retried_iff (totals : α) (locks : List (List Bool)) :
    size (counts (leaked attempt database totals locks)) = size (counts totals) ↔
      ∀ met ∈ locks, added met = 0 := by
  rw [counting.size_leaked, Nat.add_eq_left, sum_eq_zero_iff, forall_mem_map]

omit counting

end Counting

end Attempt

end NetConsole.Foundations
