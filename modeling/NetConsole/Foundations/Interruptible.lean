import Mathlib.Logic.Relation

/-!
# Procedures that can fail or be cut off at every action

A procedure changes a durable state by atomic actions. Before each action the
environment decides whether the action happens, whether it raises instead, or
whether the process stops there for good. The decisions are a list of faults
that the procedure consumes; once the list is used up every action happens.
Quantifying over the list quantifies over all failing steps and all crash
points, and a procedure stays a function that can be evaluated.

A specification (`Triple`) names four predicates on the durable state: one
before, one after a normal return, one after an exception and one for every
point at which the process can be cut off. The rules follow the constructions
of the procedures: `Triple.pure`, `Triple.bind`, `Triple.act`,
`Triple.tryExcept`, `Triple.tryFinally`. `Completes` is the companion for runs
without faults, and `Assured` says both.

A procedure that is started again after each interruption is described by
`Attempts`: a predicate kept by every interruption holds at the start of every
attempt (`Attempts.keeps`).
-/

set_option autoImplicit false

namespace NetConsole.Foundations

/-- What the environment does to the next atomic action. -/
inductive Fault where
  | proceed | fail | crash
  deriving DecidableEq, Repr

/-- The durable state, and the decisions about the actions still to come. -/
structure World (σ : Type) where
  durable : σ
  faults : List Fault

/-- Why a procedure ended without a result. -/
inductive Halt (ε : Type) where
  | raised (error : ε)
  | crashed
  deriving DecidableEq, Repr

/-- A procedure on a durable state `σ` with exceptions in `ε`. -/
abbrev Proc (σ ε α : Type) : Type := EStateM (Halt ε) (World σ) α

/-- How an execution ended. -/
inductive Outcome (ε α : Type) where
  | returned (value : α)
  | raised (error : ε)
  | crashed
  deriving DecidableEq, Repr

namespace Proc

variable {σ ε δ α β : Type}

/-- One execution: how it ended, and the durable state it left. -/
def run (procedure : Proc σ ε α) (durable : σ) (faults : List Fault) : Outcome ε α × σ :=
  match procedure ⟨durable, faults⟩ with
  | .ok value world => (.returned value, world.durable)
  | .error (.raised error) world => (.raised error, world.durable)
  | .error .crashed world => (.crashed, world.durable)

/-- Read the durable state. -/
def look : Proc σ ε σ := fun world => .ok world.durable world

def raise (error : ε) : Proc σ ε α := fun world => .error (.raised error) world

/-- An action that happens: `effect` computes the new state or the exception of
the action itself. -/
def perform (effect : σ → Except ε σ) : Proc σ ε Unit := fun world =>
  match effect world.durable with
  | .ok durable => .ok () ⟨durable, world.faults⟩
  | .error error => .error (.raised error) world

/-- One atomic action; `failure` is the exception when it does not happen. -/
def act (failure : ε) (effect : σ → Except ε σ) : Proc σ ε Unit := fun world =>
  match world.faults with
  | [] => perform effect world
  | .proceed :: rest => perform effect ⟨world.durable, rest⟩
  | .fail :: rest => .error (.raised failure) ⟨world.durable, rest⟩
  | .crash :: rest => .error .crashed ⟨world.durable, rest⟩

/-- A call that only reads or waits: it changes nothing, and may raise. -/
def mayRaise (failure : ε) : Proc σ ε Unit := act failure Except.ok

/-- An assignment to what the process holds in memory: nothing can come
between it and the next step. -/
def assign (change : σ → σ) : Proc σ ε Unit := perform fun s => .ok (change s)

/-- `try … except`: the handler sees exceptions, not crashes. -/
def tryExcept (body : Proc σ ε α) (handler : ε → Proc σ δ α) : Proc σ δ α := fun world =>
  match body world with
  | .ok value world' => .ok value world'
  | .error (.raised error) world' => handler error world'
  | .error .crashed world' => .error .crashed world'

/-- `try … finally`: the last part runs after a return and after an exception,
and its own exception replaces the outcome. -/
def tryFinally (body : Proc σ ε α) (last : Proc σ ε Unit) : Proc σ ε α := fun world =>
  match body world with
  | .ok value world' =>
    match last world' with
    | .ok _ world'' => .ok value world''
    | .error halt world'' => .error halt world''
  | .error (.raised error) world' =>
    match last world' with
    | .ok _ world'' => .error (.raised error) world''
    | .error halt world'' => .error halt world''
  | .error .crashed world' => .error .crashed world'

/-- Raise the exception of a computed result. -/
def ofExcept : Except ε α → Proc σ ε α
  | .ok value => pure value
  | .error error => raise error

/-- Run a procedure under a condition. -/
def when (condition : Bool) (procedure : Proc σ ε Unit) : Proc σ ε Unit :=
  if condition then procedure else pure ()

/-- Replace a file through a temporary one: the file changes in one action, and
removing the temporary file afterwards may still raise. -/
def replaceFile (failure : ε) (change : σ → σ) : Proc σ ε Unit :=
  tryFinally (act failure fun s => .ok (change s)) (act failure Except.ok)

end Proc

/-! ## Specifications -/

section Triples

variable {σ ε δ α β : Type}

/-- In this world the procedure ends in `returns` with its value, or in
`raises` with its exception, or it is cut off in a state of `cutOff`. -/
def Meets (procedure : Proc σ ε α) (returns : α → σ → Prop) (raises : ε → σ → Prop)
    (cutOff : σ → Prop) (world : World σ) : Prop :=
  match procedure world with
  | .ok value world' => returns value world'.durable
  | .error (.raised error) world' => raises error world'.durable
  | .error .crashed world' => cutOff world'.durable

/-- From every state in `before`, under all faults, the procedure ends in
`returns`, in `raises` or in `cutOff`. -/
def Triple (before : σ → Prop) (procedure : Proc σ ε α) (returns : α → σ → Prop)
    (raises : ε → σ → Prop) (cutOff : σ → Prop) : Prop :=
  ∀ world, before world.durable → Meets procedure returns raises cutOff world

/-- A triple that promises the same after an exception and after a crash. -/
abbrev Ends (before : σ → Prop) (procedure : Proc σ ε α) (returns : α → σ → Prop)
    (stopped : σ → Prop) : Prop :=
  Triple before procedure returns (fun _ => stopped) stopped

variable {before : σ → Prop} {procedure : Proc σ ε α} {returns : α → σ → Prop}
  {raises : ε → σ → Prop} {cutOff : σ → Prop} {world : World σ} {faults : List Fault} {durable : σ}

/-- What a procedure meets, read as a statement about its execution. -/
theorem Meets.of_run (met : Meets procedure returns raises cutOff ⟨durable, faults⟩) :
    match procedure.run durable faults with
    | (.returned value, after) => returns value after
    | (.raised error, after) => raises error after
    | (.crashed, after) => cutOff after := by
  unfold Proc.run
  unfold Meets at met
  revert met
  cases procedure ⟨durable, faults⟩ with
  | ok value world => exact id
  | error halt world => cases halt <;> exact id

/-- A predicate that every end of a procedure has. -/
theorem Meets.keeps {after : σ → Prop}
    (met : Meets procedure (fun _ => after) (fun _ => after) after ⟨durable, faults⟩) :
    after (procedure.run durable faults).2 := by
  have ended := met.of_run
  revert ended
  rcases procedure.run durable faults with ⟨outcome, _⟩
  cases outcome <;> exact id

variable {returns' : α → σ → Prop} {raises' : ε → σ → Prop} {cutOff' : σ → Prop}

theorem Meets.weaken (met : Meets procedure returns raises cutOff world)
    (value : ∀ a s, returns a s → returns' a s) (exception : ∀ e s, raises e s → raises' e s)
    (cut : ∀ s, cutOff s → cutOff' s) : Meets procedure returns' raises' cutOff' world := by
  unfold Meets at met ⊢
  revert met
  cases procedure world with
  | ok a world' => exact value a world'.durable
  | error halt world' =>
    cases halt with
    | raised e => exact exception e world'.durable
    | crashed => exact cut world'.durable

variable {handler : ε → Proc σ δ α}

theorem Meets.tryExcept {raises : δ → σ → Prop} (thrown : ε → σ → Prop)
    (body : Meets procedure returns thrown cutOff world)
    (handle : ∀ error world', procedure world = .error (.raised error) world' →
      thrown error world'.durable → Meets (handler error) returns raises cutOff world') :
    Meets (Proc.tryExcept procedure handler) returns raises cutOff world := by
  unfold Meets at body
  unfold Meets Proc.tryExcept
  revert body
  cases ended : procedure world with
  | ok value world' => exact id
  | error halt world' =>
    cases halt with
    | raised error => exact handle error world' ended
    | crashed => exact id

variable {last : Proc σ ε Unit}

/-- The last part runs after a return and after an exception. -/
theorem Meets.tryFinally (value : α → σ → Prop) (thrown : ε → σ → Prop)
    (body : Meets procedure value thrown cutOff world)
    (afterValue : ∀ a, Triple (value a) last (fun _ => returns a) raises cutOff)
    (afterRaise : ∀ e, Triple (thrown e) last (fun _ => raises e) raises cutOff) :
    Meets (Proc.tryFinally procedure last) returns raises cutOff world := by
  unfold Meets at body
  unfold Meets Proc.tryFinally
  revert body
  cases procedure world with
  | ok a world' =>
    intro reached
    have ended := afterValue a world' reached
    unfold Meets at ended
    revert ended
    simp only
    cases last world' with
    | ok _ _ => exact id
    | error halt _ => cases halt <;> exact id
  | error halt world' =>
    cases halt with
    | raised e =>
      intro reached
      have ended := afterRaise e world' reached
      unfold Meets at ended
      revert ended
      simp only
      cases last world' with
      | ok _ _ => exact id
      | error halt _ => cases halt <;> exact id
    | crashed => exact id

variable {next : α → Proc σ ε β}

theorem Meets.bind {returns : β → σ → Prop} (middle : α → σ → Prop)
    (first : Meets procedure middle raises cutOff world)
    (second : ∀ value world', procedure world = .ok value world' → middle value world'.durable →
      Meets (next value) returns raises cutOff world') :
    Meets (procedure >>= next) returns raises cutOff world := by
  show match EStateM.bind procedure next world with
    | .ok value world' => returns value world'.durable
    | .error (.raised error) world' => raises error world'.durable
    | .error .crashed world' => cutOff world'.durable
  unfold Meets at first
  unfold EStateM.bind
  revert first
  cases ended : procedure world with
  | ok value world' => exact second value world' ended
  | error halt world' => cases halt <;> exact id

/-- Reading the state first makes it known to the rest of the procedure. -/
theorem Meets.look_bind {next : σ → Proc σ ε α}
    (rest : Meets (next world.durable) returns raises cutOff world) :
    Meets (Proc.look >>= next) returns raises cutOff world :=
  rest

variable (spec : Triple before procedure returns raises cutOff)
include spec

/-- A specification read as a statement about executions. -/
theorem Triple.of_run (start : before durable) (faults : List Fault) :
    match procedure.run durable faults with
    | (.returned value, after) => returns value after
    | (.raised error, after) => raises error after
    | (.crashed, after) => cutOff after :=
  (spec ⟨durable, faults⟩ start).of_run

variable {before' : σ → Prop}

/-- The rule of consequence. -/
theorem Triple.weaken
    (start : ∀ s, before' s → before s) (value : ∀ a s, returns a s → returns' a s)
    (exception : ∀ e s, raises e s → raises' e s) (cut : ∀ s, cutOff s → cutOff' s) :
    Triple before' procedure returns' raises' cutOff' :=
  fun world entry => (spec world (start _ entry)).weaken value exception cut

/-- Only the entry condition changes. -/
theorem Triple.strengthen
    (start : ∀ s, before' s → before s) : Triple before' procedure returns raises cutOff :=
  spec.weaken start (fun _ _ h => h) (fun _ _ h => h) fun _ h => h

/-- Only what holds on return changes. -/
theorem Triple.returning
    (value : ∀ a s, returns a s → returns' a s) : Triple before procedure returns' raises cutOff :=
  spec.weaken (fun _ h => h) value (fun _ _ h => h) fun _ h => h

variable {s₀ : σ}

/-- A procedure that starts in one known state. -/
theorem Triple.from_exact (entry : before s₀) : Triple (· = s₀) procedure returns raises cutOff :=
  spec.strengthen fun _ same => same ▸ entry

omit spec

theorem Triple.pure (value : α) (enough : ∀ s, before s → returns value s) :
    Triple before (Pure.pure value : Proc σ ε α) returns raises cutOff :=
  fun world entry => enough world.durable entry

theorem Triple.pure_exact (value : α) (enough : returns value s₀) :
    Triple (· = s₀) (Pure.pure value : Proc σ ε α) returns raises cutOff :=
  .pure value fun _ same => same ▸ enough

theorem Triple.look {returns : σ → σ → Prop} (enough : ∀ s, before s → returns s s) :
    Triple before (Proc.look : Proc σ ε σ) returns raises cutOff :=
  fun world entry => enough world.durable entry

theorem Triple.raise (error : ε) (enough : ∀ s, before s → raises error s) :
    Triple before (Proc.raise error : Proc σ ε α) returns raises cutOff :=
  fun world entry => enough world.durable entry

theorem Triple.raise_exact (error : ε) (enough : raises error s₀) :
    Triple (· = s₀) (Proc.raise error : Proc σ ε α) returns raises cutOff :=
  .raise error fun _ same => same ▸ enough

theorem Triple.bind {returns : β → σ → Prop} (middle : α → σ → Prop)
    (first : Triple before procedure middle raises cutOff)
    (second : ∀ value, Triple (middle value) (next value) returns raises cutOff) :
    Triple before (procedure >>= next) returns raises cutOff :=
  fun world entry =>
    .bind middle (first world entry) fun value world' _ => second value world'

variable {effect : σ → Except ε σ}

theorem Triple.perform {returns : Unit → σ → Prop}
    (done : ∀ s, before s → ∀ s', effect s = .ok s' → returns () s')
    (refused : ∀ s, before s → ∀ e, effect s = .error e → raises e s) :
    Triple before (Proc.perform effect) returns raises cutOff := by
  intro world entry
  unfold Meets Proc.perform
  cases result : effect world.durable with
  | ok s' => exact done _ entry s' result
  | error e => exact refused _ entry e result

variable {failure : ε}

/-- An atomic action happens, raises on its own, raises because it did not
happen, or is never reached. -/
theorem Triple.act {returns : Unit → σ → Prop}
    (done : ∀ s, before s → ∀ s', effect s = .ok s' → returns () s')
    (refused : ∀ s, before s → ∀ e, effect s = .error e → raises e s)
    (missed : ∀ s, before s → raises failure s) (cut : ∀ s, before s → cutOff s) :
    Triple before (Proc.act failure effect) returns raises cutOff := by
  have happens : Triple before (Proc.perform effect) returns raises cutOff :=
    .perform done refused
  rintro ⟨s, faults⟩ entry
  cases faults with
  | nil => exact happens ⟨s, []⟩ entry
  | cons fault rest =>
    cases fault with
    | proceed => exact happens ⟨s, rest⟩ entry
    | fail => exact missed s entry
    | crash => exact cut s entry

variable {change : σ → σ}

/-- An action that nothing but a fault can stop. -/
theorem Triple.act_ok {returns : Unit → σ → Prop} (done : ∀ s, before s → returns () (change s))
    (missed : ∀ s, before s → raises failure s) (cut : ∀ s, before s → cutOff s) :
    Triple before (Proc.act failure fun s => .ok (change s)) returns raises cutOff := by
  refine .act ?_ ?_ missed cut
  · intro s entry s' happened
    rw [← Except.ok.inj happened]
    exact done s entry
  · intro s entry e refused
    cases refused

theorem Triple.act_exact {returns : Unit → σ → Prop} (done : returns () (change s₀))
    (missed : raises failure s₀) (cut : cutOff s₀) :
    Triple (· = s₀) (Proc.act failure fun s => .ok (change s)) returns raises cutOff :=
  .act_ok (fun _ same => same ▸ done) (fun _ same => same ▸ missed) fun _ same => same ▸ cut

theorem Triple.mayRaise (missed : ∀ s, before s → raises failure s) (cut : ∀ s, before s → cutOff s)
    : Triple before (Proc.mayRaise failure) (fun _ => before) raises cutOff :=
  .act_ok (fun _ entry => entry) missed cut

theorem Triple.mayRaise_bind {next : Unit → Proc σ ε α} (missed : ∀ s, before s → raises failure s)
    (cut : ∀ s, before s → cutOff s) (rest : Triple before (next ()) returns raises cutOff) :
    Triple before (Proc.mayRaise failure >>= next) returns raises cutOff :=
  .bind (fun _ => before) (.mayRaise missed cut) fun _ => rest

theorem Triple.assign {returns : Unit → σ → Prop} (done : ∀ s, before s → returns () (change s)) :
    Triple before (Proc.assign change) returns raises cutOff :=
  fun world entry => done world.durable entry

theorem Triple.assign_bind {next : Unit → Proc σ ε α} (middle : σ → Prop)
    (done : ∀ s, before s → middle (change s))
    (rest : Triple middle (next ()) returns raises cutOff) :
    Triple before (Proc.assign change >>= next) returns raises cutOff :=
  .bind (fun _ => middle) (.assign done) fun _ => rest

theorem Triple.tryExcept {raises : δ → σ → Prop} (thrown : ε → σ → Prop)
    (body : Triple before procedure returns thrown cutOff)
    (handle : ∀ error, Triple (thrown error) (handler error) returns raises cutOff) :
    Triple before (Proc.tryExcept procedure handler) returns raises cutOff :=
  fun world entry =>
    .tryExcept thrown (body world entry) fun error world' _ => handle error world'

theorem Triple.tryFinally (value : α → σ → Prop) (thrown : ε → σ → Prop)
    (body : Triple before procedure value thrown cutOff)
    (afterValue : ∀ a, Triple (value a) last (fun _ => returns a) raises cutOff)
    (afterRaise : ∀ e, Triple (thrown e) last (fun _ => raises e) raises cutOff) :
    Triple before (Proc.tryFinally procedure last) returns raises cutOff :=
  fun world entry => .tryFinally value thrown (body world entry) afterValue afterRaise

theorem Triple.ofExcept {result : Except ε α}
    (value : ∀ a, result = .ok a → ∀ s, before s → returns a s)
    (exception : ∀ e, result = .error e → ∀ s, before s → raises e s) :
    Triple before (Proc.ofExcept result) returns raises cutOff := by
  cases result with
  | ok a => exact .pure a (value a rfl)
  | error e => exact .raise e (exception e rfl)

theorem Triple.when {condition : Bool} {procedure : Proc σ ε Unit} {returns : Unit → σ → Prop}
    (holds : condition = true → Triple before procedure returns raises cutOff)
    (skips : condition = false → ∀ s, before s → returns () s) :
    Triple before (Proc.when condition procedure) returns raises cutOff := by
  cases condition with
  | true => exact holds rfl
  | false => exact .pure _ (skips rfl)

theorem Triple.replaceFile {returns : Unit → σ → Prop}
    (done : ∀ s, before s → returns () (change s)) (missed : ∀ s, before s → raises failure s)
    (late : ∀ s, before s → raises failure (change s))
    (cut : ∀ s, before s → cutOff s ∧ cutOff (change s)) :
    Triple before (Proc.replaceFile failure change) returns raises cutOff := by
  refine .tryFinally (fun _ s => ∃ s₀, before s₀ ∧ s = change s₀)
    (fun e s => e = failure ∧ before s)
    (.act_ok (fun s entry => ⟨s, entry, rfl⟩) (fun s entry => ⟨rfl, entry⟩)
      fun s entry => (cut s entry).1)
    (fun _ => .act_ok ?_ ?_ ?_) (fun e => .act_ok ?_ ?_ ?_)
  · rintro s ⟨s₀, entry, rfl⟩
    exact done s₀ entry
  · rintro s ⟨s₀, entry, rfl⟩
    exact late s₀ entry
  · rintro s ⟨s₀, entry, rfl⟩
    exact (cut s₀ entry).2
  · rintro s ⟨rfl, entry⟩
    exact missed s entry
  · rintro s ⟨rfl, entry⟩
    exact missed s entry
  · exact fun s both => (cut s both.2).1

/-- A specification from every exact state of the entry condition. -/
theorem Triple.of_exact
    (exactly : ∀ s₀, before s₀ → Triple (· = s₀) procedure returns raises cutOff) :
    Triple before procedure returns raises cutOff :=
  fun world entry => exactly world.durable entry world rfl

/-- A specification for every witness of the entry condition. -/
theorem Triple.of_exists {ι : Type} {before : ι → σ → Prop}
    (each : ∀ i, Triple (before i) procedure returns raises cutOff) :
    Triple (fun s => ∃ i, before i s) procedure returns raises cutOff := by
  rintro world ⟨i, entry⟩
  exact each i world entry

/-- Reading the state first makes it known to the rest of the procedure. -/
theorem Triple.look_bind {next : σ → Proc σ ε α}
    (rest : ∀ s₀, before s₀ → Triple (· = s₀) (next s₀) returns raises cutOff) :
    Triple before (Proc.look >>= next) returns raises cutOff :=
  .of_exact fun s₀ entry =>
    .bind (fun seen s => seen = s₀ ∧ s = s₀) (.look fun _ same => ⟨same, same⟩) fun seen => by
      rintro world ⟨rfl, same⟩
      exact rest seen entry world same

/-! ### Predicates that every action keeps -/

/-- However the procedure ends, and wherever it is cut off, the predicate still
holds. -/
def Keeps (holds : σ → Prop) (procedure : Proc σ ε α) : Prop :=
  Triple holds procedure (fun _ => holds) (fun _ => holds) holds

section Keeping

variable {holds : σ → Prop} {failure : ε}

theorem Keeps.pure (value : α) : Keeps holds (Pure.pure value : Proc σ ε α) :=
  Triple.pure value fun _ entry => entry

theorem Keeps.raise (error : ε) : Keeps holds (Proc.raise error : Proc σ ε α) :=
  Triple.raise error fun _ entry => entry

theorem Keeps.bind {next : α → Proc σ ε β} (first : Keeps holds procedure)
    (second : ∀ value, Keeps holds (next value)) : Keeps holds (procedure >>= next) :=
  Triple.bind (fun _ => holds) first second

theorem Keeps.look_bind {next : σ → Proc σ ε α}
    (rest : ∀ s₀, holds s₀ → Keeps holds (next s₀)) : Keeps holds (Proc.look >>= next) :=
  Triple.look_bind fun s₀ entry => Triple.strengthen (rest s₀ entry) fun _ same => same ▸ entry

theorem Keeps.act {change : σ → σ} (kept : ∀ s, holds s → holds (change s)) :
    Keeps holds (Proc.act failure fun s => .ok (change s)) :=
  Triple.act_ok kept (fun _ entry => entry) fun _ entry => entry

theorem Keeps.mayRaise : Keeps holds (Proc.mayRaise failure) :=
  Triple.mayRaise (fun _ entry => entry) fun _ entry => entry

theorem Keeps.when {condition : Bool} {procedure : Proc σ ε Unit}
    (kept : condition = true → Keeps holds procedure) :
    Keeps holds (Proc.when condition procedure) :=
  Triple.when kept fun _ _ entry => entry

theorem Keeps.tryExcept {handler : ε → Proc σ δ α} (body : Keeps holds procedure)
    (handle : ∀ error, Keeps holds (handler error)) :
    Keeps holds (Proc.tryExcept procedure handler) :=
  Triple.tryExcept (fun _ => holds) body handle

end Keeping

end Triples

/-! ## Runs without faults -/

section Completions

variable {σ ε δ α β : Type}

/-- Without faults the procedure returns, in a state of `returns`. -/
def Completes (before : σ → Prop) (procedure : Proc σ ε α) (returns : α → σ → Prop) : Prop :=
  ∀ s, before s → ∃ value s', procedure ⟨s, []⟩ = .ok value ⟨s', []⟩ ∧ returns value s'

variable {before : σ → Prop} {procedure : Proc σ ε α} {returns : α → σ → Prop}

theorem Completes.run_eq (complete : Completes before procedure returns) {s : σ}
    (start : before s) :
    ∃ value s', procedure.run s [] = (.returned value, s') ∧ returns value s' := by
  obtain ⟨value, s', ended, reached⟩ := complete s start
  exact ⟨value, s', by rw [Proc.run, ended], reached⟩

theorem Completes.weaken {before' : σ → Prop} {returns' : α → σ → Prop}
    (complete : Completes before procedure returns) (start : ∀ s, before' s → before s)
    (value : ∀ a s, returns a s → returns' a s) : Completes before' procedure returns' := by
  intro s entry
  obtain ⟨a, s', ended, reached⟩ := complete s (start s entry)
  exact ⟨a, s', ended, value a s' reached⟩

theorem Completes.pure (value : α) (enough : ∀ s, before s → returns value s) :
    Completes before (Pure.pure value : Proc σ ε α) returns :=
  fun s entry => ⟨value, s, rfl, enough s entry⟩

theorem Completes.bind {next : α → Proc σ ε β} {returns : β → σ → Prop} (middle : α → σ → Prop)
    (first : Completes before procedure middle)
    (second : ∀ value, Completes (middle value) (next value) returns) :
    Completes before (procedure >>= next) returns := by
  intro s entry
  obtain ⟨a, s', ended, reached⟩ := first s entry
  obtain ⟨b, s'', ended', reached'⟩ := second a s' reached
  refine ⟨b, s'', ?_, reached'⟩
  show EStateM.bind procedure next ⟨s, []⟩ = _
  simp only [EStateM.bind, ended, ended']

theorem Completes.of_exact (exactly : ∀ s₀, before s₀ → Completes (· = s₀) procedure returns) :
    Completes before procedure returns :=
  fun s entry => exactly s entry s rfl

theorem Completes.look_bind {next : σ → Proc σ ε α}
    (rest : ∀ s₀, before s₀ → Completes (· = s₀) (next s₀) returns) :
    Completes before (Proc.look >>= next) returns :=
  fun s entry => rest s entry s rfl

variable {failure : ε}

theorem Completes.act {effect : σ → Except ε σ} {returns : Unit → σ → Prop}
    (done : ∀ s, before s → ∃ s', effect s = .ok s' ∧ returns () s') :
    Completes before (Proc.act failure effect) returns := by
  intro s entry
  obtain ⟨s', happened, reached⟩ := done s entry
  exact ⟨(), s', by simp only [Proc.act, Proc.perform, happened], reached⟩

variable {change : σ → σ}

theorem Completes.when {condition : Bool} {procedure : Proc σ ε Unit} {returns : Unit → σ → Prop}
    (holds : condition = true → Completes before procedure returns)
    (skips : condition = false → ∀ s, before s → returns () s) :
    Completes before (Proc.when condition procedure) returns := by
  cases condition with
  | true => exact holds rfl
  | false => exact .pure _ (skips rfl)

theorem Completes.replaceFile {returns : Unit → σ → Prop}
    (done : ∀ s, before s → returns () (change s)) :
    Completes before (Proc.replaceFile failure change) returns :=
  fun s entry => ⟨(), change s, rfl, done s entry⟩

theorem Completes.tryExcept {handler : ε → Proc σ δ α} (body : Completes before procedure returns) :
    Completes before (Proc.tryExcept procedure handler) returns := by
  intro s entry
  obtain ⟨a, s', ended, reached⟩ := body s entry
  exact ⟨a, s', by simp only [Proc.tryExcept, ended], reached⟩

/-! ### Procedures that only faults can stop -/

/-- The procedure meets its specification under all faults, and returns when there are none. -/
structure Assured (before : σ → Prop) (procedure : Proc σ ε α) (returns : α → σ → Prop)
    (raises : ε → σ → Prop) (cutOff : σ → Prop) : Prop where
  triple : Triple before procedure returns raises cutOff
  completes : Completes before procedure returns

/-- What holds after an exception holds after a stop. -/
abbrev EndsAssured (before : σ → Prop) (procedure : Proc σ ε α) (returns : α → σ → Prop)
    (stopped : σ → Prop) : Prop :=
  Assured before procedure returns (fun _ => stopped) stopped

namespace Assured

variable {raises : ε → σ → Prop} {cutOff : σ → Prop}

theorem weaken {before' : σ → Prop} {returns' : α → σ → Prop} {raises' : ε → σ → Prop}
    {cutOff' : σ → Prop} (assured : Assured before procedure returns raises cutOff)
    (start : ∀ s, before' s → before s) (value : ∀ a s, returns a s → returns' a s)
    (exception : ∀ e s, raises e s → raises' e s) (cut : ∀ s, cutOff s → cutOff' s) :
    Assured before' procedure returns' raises' cutOff' :=
  ⟨assured.triple.weaken start value exception cut, assured.completes.weaken start value⟩

theorem strengthen {before' : σ → Prop} (assured : Assured before procedure returns raises cutOff)
    (start : ∀ s, before' s → before s) : Assured before' procedure returns raises cutOff :=
  ⟨assured.triple.strengthen start, assured.completes.weaken start fun _ _ reached => reached⟩

theorem pure (value : α) (enough : ∀ s, before s → returns value s) :
    Assured before (Pure.pure value : Proc σ ε α) returns raises cutOff :=
  ⟨.pure value enough, .pure value enough⟩

theorem bind {next : α → Proc σ ε β} {returns : β → σ → Prop} (middle : α → σ → Prop)
    (first : Assured before procedure middle raises cutOff)
    (second : ∀ value, Assured (middle value) (next value) returns raises cutOff) :
    Assured before (procedure >>= next) returns raises cutOff :=
  ⟨.bind middle first.triple fun value => (second value).triple,
    .bind middle first.completes fun value => (second value).completes⟩

theorem of_exact (exactly : ∀ s₀, before s₀ → Assured (· = s₀) procedure returns raises cutOff) :
    Assured before procedure returns raises cutOff :=
  ⟨.of_exact fun s₀ entry => (exactly s₀ entry).triple,
    .of_exact fun s₀ entry => (exactly s₀ entry).completes⟩

theorem look_bind {next : σ → Proc σ ε α}
    (rest : ∀ s₀, before s₀ → Assured (· = s₀) (next s₀) returns raises cutOff) :
    Assured before (Proc.look >>= next) returns raises cutOff :=
  ⟨.look_bind fun s₀ entry => (rest s₀ entry).triple,
    .look_bind fun s₀ entry => (rest s₀ entry).completes⟩

/-- An action that is not refused. -/
theorem act {effect : σ → Except ε σ} {returns : Unit → σ → Prop}
    (done : ∀ s, before s → ∃ s', effect s = .ok s' ∧ returns () s')
    (missed : ∀ s, before s → raises failure s) (cut : ∀ s, before s → cutOff s) :
    Assured before (Proc.act failure effect) returns raises cutOff := by
  refine ⟨.act ?_ ?_ missed cut, .act done⟩
  · intro s entry s' happened
    obtain ⟨reached, same, _⟩ := done s entry
    rwa [← Except.ok.inj (same.symm.trans happened)]
  · intro s entry e refused
    obtain ⟨reached, same, -⟩ := done s entry
    cases same.symm.trans refused

theorem act_ok {returns : Unit → σ → Prop} (done : ∀ s, before s → returns () (change s))
    (missed : ∀ s, before s → raises failure s) (cut : ∀ s, before s → cutOff s) :
    Assured before (Proc.act failure fun s => .ok (change s)) returns raises cutOff :=
  .act (fun s entry => ⟨change s, rfl, done s entry⟩) missed cut

theorem mayRaise (missed : ∀ s, before s → raises failure s) (cut : ∀ s, before s → cutOff s) :
    Assured before (Proc.mayRaise failure) (fun _ => before) raises cutOff :=
  .act_ok (fun _ entry => entry) missed cut

theorem ofExcept {result : Except ε α} {value : α} (ended : result = .ok value)
    (enough : ∀ s, before s → returns value s) :
    Assured before (Proc.ofExcept result) returns raises cutOff := by
  subst ended
  exact .pure value enough

theorem when {condition : Bool} {procedure : Proc σ ε Unit} {returns : Unit → σ → Prop}
    (holds : condition = true → Assured before procedure returns raises cutOff)
    (skips : condition = false → ∀ s, before s → returns () s) :
    Assured before (Proc.when condition procedure) returns raises cutOff :=
  ⟨.when (fun met => (holds met).triple) skips, .when (fun met => (holds met).completes) skips⟩

theorem replaceFile {returns : Unit → σ → Prop} (done : ∀ s, before s → returns () (change s))
    (missed : ∀ s, before s → raises failure s) (late : ∀ s, before s → raises failure (change s))
    (cut : ∀ s, before s → cutOff s ∧ cutOff (change s)) :
    Assured before (Proc.replaceFile failure change) returns raises cutOff :=
  ⟨.replaceFile done missed late cut, .replaceFile done⟩

theorem tryExcept {handler : ε → Proc σ δ α} {raises : δ → σ → Prop} (thrown : ε → σ → Prop)
    (body : Assured before procedure returns thrown cutOff)
    (handle : ∀ error, Triple (thrown error) (handler error) returns raises cutOff) :
    Assured before (Proc.tryExcept procedure handler) returns raises cutOff :=
  ⟨.tryExcept thrown body.triple handle, .tryExcept body.completes⟩

theorem tryFinally {last : Proc σ ε Unit} (value : α → σ → Prop) (thrown : ε → σ → Prop)
    (body : Assured before procedure value thrown cutOff)
    (afterValue : ∀ a, Assured (value a) last (fun _ => returns a) raises cutOff)
    (afterRaise : ∀ e, Triple (thrown e) last (fun _ => raises e) raises cutOff) :
    Assured before (Proc.tryFinally procedure last) returns raises cutOff := by
  refine ⟨.tryFinally value thrown body.triple (fun a => (afterValue a).triple) afterRaise, ?_⟩
  intro s entry
  obtain ⟨a, s', ended, reached⟩ := body.completes s entry
  obtain ⟨_, s'', ended', reached'⟩ := (afterValue a).completes s' reached
  exact ⟨a, s'', by simp only [Proc.tryFinally, ended, ended'], reached'⟩

end Assured

end Completions

/-! ## Attempts repeated after each interruption -/

section Attempts

variable {σ ε α : Type}

/-- The states at the start of an attempt, when a procedure is started over and
over and every attempt so far was interrupted. Each attempt starts in a state
of `guard`. -/
inductive Attempts (procedure : Proc σ ε α) (guard : σ → Prop) (start : σ) : σ → Prop where
  | first : Attempts procedure guard start start
  | crashed {s s' : σ} (earlier : Attempts procedure guard start s) (within : guard s)
      (faults : List Fault) (cut : procedure.run s faults = (.crashed, s')) :
      Attempts procedure guard start s'
  | raised {s s' : σ} {error : ε} (earlier : Attempts procedure guard start s)
      (within : guard s) (faults : List Fault)
      (thrown : procedure.run s faults = (.raised error, s')) :
      Attempts procedure guard start s'

variable {procedure : Proc σ ε α} {guard : σ → Prop}

theorem Attempts.keeps {invariant : σ → Prop} {start s : σ} {returns : α → σ → Prop}
    (spec : Ends (fun s => invariant s ∧ guard s) procedure returns invariant)
    (holds : invariant start) (attempts : Attempts procedure guard start s) : invariant s := by
  induction attempts with
  | first => exact holds
  | crashed _ within faults cut ih =>
    have outcome := spec.of_run ⟨ih, within⟩ faults
    rw [cut] at outcome
    exact outcome
  | raised _ within faults thrown ih =>
    have outcome := spec.of_run ⟨ih, within⟩ faults
    rw [thrown] at outcome
    exact outcome

end Attempts

end NetConsole.Foundations
