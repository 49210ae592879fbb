import Mathlib.Data.List.Count
import NetConsole.Locks.InterprocessLock

/-!
# The invariant of the interprocess lock

The calls of a thread are nested: all but the innermost one are in their protected
block, and the outermost of them is the one that has the file locked (`CallsSound`).
A level of the local lock stands for each call between its acquisition and its release,
and `active_count` is the number of the calls that are registered (`ObjectSound`), so
the handle is closed when nobody uses it any more.

A step of a thread concerns its own process only (`SameElsewhere`).
-/

set_option autoImplicit false

namespace NetConsole.Locks

open List

variable {Process Thread : Type} [DecidableEq Process] [DecidableEq Thread]

/-! ## The calls of a thread -/

/-- The levels of the local lock that the calls hold. -/
def levels (frames : List Frame) : Nat := frames.countP fun frame => frame.phase.locked

def registrations (frames : List Frame) : Nat := frames.countP fun frame => frame.phase.counted

/-- What the place of a call says of the handle, of the lock of the file and of the
calls around it. -/
def Phase.Fits (handle osLock : Option Nat) (outer : List Frame) : Phase → Prop
  | .waiting | .leaving | .unregistering => True
  | .opening depth => depth = outer.length
  | .locking own => outer = [] ∧ handle = some own
  | .inside own osLocked =>
    handle = some own ∧ osLocked = outer.isEmpty ∧ (outer = [] → osLock = some own)
  | .releasing own => outer = [] ∧ handle = some own ∧ osLock = some own
  | .closing _ => False

/-- The nested calls of a thread on an object with this handle. -/
def CallsSound (object : Nat) (handle osLock : Option Nat) : List Frame → Prop
  | [] => True
  | frame :: outer =>
    frame.object = object ∧ frame.phase.Fits handle osLock outer ∧
      (∀ around ∈ outer, around.phase.isInside = true) ∧ CallsSound object handle osLock outer

theorem Phase.locked_of_isInside {phase : Phase} (inside : phase.isInside = true) :
    phase.locked = true := by
  cases phase <;> first | rfl | cases inside

theorem Phase.counted_of_locked {phase : Phase} (holds : phase.locked = true) :
    phase.counted = true := by
  cases phase <;> first | rfl | cases holds

theorem levels_of_inside {frames : List Frame}
    (inside : ∀ frame ∈ frames, frame.phase.isInside = true) : levels frames = frames.length :=
  countP_eq_length.mpr fun frame mem => Phase.locked_of_isInside (inside frame mem)

theorem levels_cons (frame : Frame) (outer : List Frame) :
    levels (frame :: outer) = levels outer + if frame.phase.locked = true then 1 else 0 :=
  countP_cons

theorem registrations_cons (frame : Frame) (outer : List Frame) : registrations (frame :: outer) =
      registrations outer + if frame.phase.counted = true then 1 else 0 :=
  countP_cons

section Calls

variable {object : Nat} {handle osLock : Option Nat} {frames : List Frame}
  (sound : CallsSound object handle osLock frames)
include sound

theorem CallsSound.registrations_eq : registrations frames = frames.length := by
  refine countP_eq_length.mpr fun frame mem => ?_
  induction frames with
  | nil => cases mem
  | cons first outer ih =>
    obtain ⟨-, fits, -, rest⟩ := sound
    rcases mem_cons.mp mem with rfl | later
    · cases place : frame.phase with
      | closing own =>
        rw [place] at fits
        exact fits.elim
      | _ => rfl
    · exact ih rest later

theorem CallsSound.of_free (free : levels frames = 0) (handle' osLock' : Option Nat) :
    CallsSound object handle' osLock' frames := by
  cases frames with
  | nil => trivial
  | cons frame outer =>
    obtain ⟨same, fits, inside, -⟩ := sound
    rw [levels_cons, levels_of_inside inside] at free
    obtain rfl : outer = [] := length_eq_zero_iff.mp (by omega)
    refine ⟨same, ?_, by simp, trivial⟩
    cases place : frame.phase <;> rw [place] at fits free <;> trivial

theorem CallsSound.setOsLock {osLock' : Option Nat}
    (kept : ∀ own, handle = some own → osLock = some own → osLock' = some own) :
    CallsSound object handle osLock' frames := by
  induction frames with
  | nil => trivial
  | cons frame outer ih =>
    obtain ⟨same, fits, inside, rest⟩ := sound
    refine ⟨same, ?_, inside, ih rest⟩
    cases place : frame.phase <;> rw [place] at fits <;> try exact fits
    · obtain ⟨here, outermost, locked⟩ := fits
      exact ⟨here, outermost, fun alone => kept _ here (locked alone)⟩
    · obtain ⟨alone, here, locked⟩ := fits
      exact ⟨alone, here, kept _ here locked⟩

/-- A thread in a protected block has the file locked. -/
theorem CallsSound.locked_of_inside (inside : ∃ frame ∈ frames, frame.phase.isInside = true) :
    ∃ own, handle = some own ∧ osLock = some own := by
  induction frames with
  | nil => simp at inside
  | cons frame outer ih =>
    obtain ⟨-, fits, around, rest⟩ := sound
    cases outer with
    | cons next more => exact ih rest ⟨next, by simp, around next (by simp)⟩
    | nil =>
      obtain ⟨frame', mem, inside⟩ := inside
      obtain rfl := mem_singleton.mp mem
      cases place : frame'.phase <;> rw [place] at fits inside <;> try cases inside
      obtain ⟨here, -, locked⟩ := fits
      exact ⟨_, here, locked rfl⟩

omit sound

end Calls

/-! ## Counting calls -/

section Counting

variable (processOf : Thread → Process) (process : Process)

/-- `active_count` is the number of the registered calls of the process. -/
def UsersCounted (activeCount : Nat) (frames : Thread → List Frame) : Prop :=
  ∃ users : List Thread, users.length = activeCount ∧ ∀ thread,
    users.count thread = if processOf thread = process then registrations (frames thread) else 0

/-- The local lock has one owner, and its count is the number of the owner's levels. -/
structure OwnerCounted (owner : Option Thread) (count : Nat) (frames : Thread → List Frame) :
    Prop where
  owned : ∀ thread, processOf thread = process → 0 < levels (frames thread) → owner = some thread
  counted : ∀ thread, owner = some thread →
    processOf thread = process ∧ count = levels (frames thread) ∧ 0 < count
  uncounted : owner = none → count = 0

variable {processOf process} {activeCount count : Nat} {owner : Option Thread}
  {frames frames' : Thread → List Frame} {thread : Thread}
  (counted : UsersCounted processOf process activeCount frames)
include counted

theorem UsersCounted.congr (same : ∀ other, processOf other = process →
      registrations (frames' other) = registrations (frames other)) :
    UsersCounted processOf process activeCount frames' := by
  obtain ⟨users, length, counts⟩ := counted
  refine ⟨users, length, fun other => ?_⟩
  rw [counts other]
  split
  · next own => rw [same other own]
  · rfl

theorem UsersCounted.add (own : processOf thread = process)
    (more : registrations (frames' thread) = registrations (frames thread) + 1)
    (same : ∀ other, other ≠ thread → frames' other = frames other) :
    UsersCounted processOf process (activeCount + 1) frames' := by
  obtain ⟨users, length, counts⟩ := counted
  refine ⟨thread :: users, by rw [length_cons, length], fun other => ?_⟩
  by_cases self : other = thread
  · subst self
    rw [count_cons_self, counts other, if_pos own, if_pos own, more]
  · rw [count_cons_of_ne (Ne.symm self), counts other, same other self]

theorem UsersCounted.remove (own : processOf thread = process)
    (less : registrations (frames thread) = registrations (frames' thread) + 1)
    (same : ∀ other, other ≠ thread → frames' other = frames other) :
    UsersCounted processOf process (activeCount - 1) frames' := by
  obtain ⟨users, length, counts⟩ := counted
  have mem : thread ∈ users := by
    apply count_pos_iff.mp
    rw [counts thread, if_pos own, less]
    exact Nat.succ_pos _
  refine ⟨users.erase thread, by rw [length_erase_of_mem mem, length], fun other => ?_⟩
  by_cases self : other = thread
  · subst self
    rw [count_erase_self, counts other, if_pos own, if_pos own, less, Nat.add_sub_cancel]
  · rw [count_erase_of_ne self, counts other, same other self]

omit counted

theorem UsersCounted.last (counted : UsersCounted processOf process activeCount frames)
    (own : processOf thread = process) (positive : 0 < registrations (frames thread))
    (last : ¬0 < activeCount - 1) : registrations (frames thread) = 1 ∧
      ∀ other, processOf other = process → other ≠ thread → registrations (frames other) = 0 := by
  obtain ⟨users, length, counts⟩ := counted
  have mem : thread ∈ users := by
    apply count_pos_iff.mp
    rw [counts thread, if_pos own]
    exact positive
  have single : users = [thread] := by
    have one : users.length = 1 := by
      have := length_pos_of_mem mem
      omega
    obtain ⟨_, rfl⟩ := length_eq_one_iff.mp one
    rw [mem_singleton.mp mem]
  subst single
  constructor
  · have here := counts thread
    rw [if_pos own, count_singleton_self] at here
    exact here.symm
  · intro other same differs
    have there := counts other
    rw [if_pos same, count_cons_of_ne (Ne.symm differs), count_nil] at there
    exact there.symm

omit [DecidableEq Process] [DecidableEq Thread] in
theorem OwnerCounted.congr (counted : OwnerCounted processOf process owner count frames)
    (same : ∀ other, processOf other = process → levels (frames' other) = levels (frames other)) :
    OwnerCounted processOf process owner count frames' where
  owned other own holds := counted.owned other own (same other own ▸ holds)
  counted := by
    intro other has
    obtain ⟨own, level, positive⟩ := counted.counted other has
    exact ⟨own, by rw [same other own, level], positive⟩
  uncounted := counted.uncounted

omit [DecidableEq Process] in
theorem OwnerCounted.single (thread : Thread) (own : processOf thread = process)
    (others : ∀ other, processOf other = process → other ≠ thread → levels (frames other) = 0) :
    OwnerCounted processOf process
      (if levels (frames thread) = 0 then none else some thread)
        (levels (frames thread)) frames where
  owned := by
    intro other same holds
    by_cases self : other = thread
    · subst self
      rw [if_neg (Nat.ne_of_gt holds)]
    · rw [others other same self] at holds
      cases holds
  counted := by
    intro other has
    split at has
    · cases has
    · next positive =>
      cases has
      exact ⟨own, rfl, Nat.pos_of_ne_zero positive⟩
  uncounted := by
    intro free
    split at free
    · assumption
    · cases free

omit [DecidableEq Process] [DecidableEq Thread] in
theorem OwnerCounted.others (counted : OwnerCounted processOf process owner count frames)
    (has : owner = none ∨ owner = some thread) :
    ∀ other, processOf other = process → other ≠ thread → levels (frames other) = 0 := by
  intro other same differs
  by_contra positive
  have other' := counted.owned other same (Nat.pos_of_ne_zero positive)
  rcases has with free | mine
  · rw [free] at other'
    cases other'
  · rw [mine] at other'
    exact differs (Option.some.inj other').symm

end Counting

/-! ## The system -/

namespace System

variable (processOf : Thread → Process) (system : System Process Thread)

/-- What holds of a registered `_LocalLockState`. -/
structure ObjectSound (process : Process) (object : Nat) : Prop where
  known : object < system.nextObject
  users : UsersCounted processOf process (system.objects object).activeCount system.frames
  owner : OwnerCounted processOf process (system.objects object).owner
    (system.objects object).count system.frames
  handle : ∀ handle, (system.objects object).handle = some handle →
    belongs process system handle = true ∧ system.isOpen handle = true

/-- A handle that was taken out of its object. -/
def Detached (process : Process) (handle : Nat) : Prop :=
  belongs process system handle = true ∧ ∀ object, system.registered process = some object →
      (system.objects object).handle ≠ some handle

/-- The calls of a thread: nested calls, or the close of a handle at the end. -/
def ThreadSound (process : Process) (frames : List Frame) : Prop :=
  (∃ object, system.registered process = some object ∧
    CallsSound object (system.objects object).handle system.osLock frames) ∨
  ∃ frame handle, frames = [frame] ∧ frame.phase = .closing handle ∧ system.Detached process handle

/-- What holds of the threads of a process. -/
structure ProcessSound (process : Process) : Prop where
  alive : ∀ thread, processOf thread = process → system.frames thread ≠ [] →
    system.alive process = true
  calls : ∀ thread, processOf thread = process → system.frames thread ≠ [] →
    system.ThreadSound process (system.frames thread)
  depths : ∀ thread, processOf thread = process →
    (system.depths thread).getD 0 = levels (system.frames thread)
  object : ∀ object, system.registered process = some object →
    system.ObjectSound processOf process object

/-- What holds of the system in every state. -/
structure Sound : Prop where
  processes : ∀ process, system.ProcessSound processOf process
  separate : ∀ one other object, system.registered one = some object →
    system.registered other = some object → one = other
  fresh : ∀ handle, system.nextHandle ≤ handle → system.handles handle = none

/-- Nothing has changed for the other processes. -/
structure SameElsewhere (process : Process) (system after : System Process Thread) : Prop where
  alive : ∀ other, other ≠ process → after.alive other = system.alive other
  registered : ∀ other, other ≠ process → after.registered other = system.registered other
  objects : ∀ other object, other ≠ process → system.registered other = some object →
    after.objects object = system.objects object
  handles : ∀ other handle, other ≠ process → belongs other system handle = true →
    after.handles handle = system.handles handle
  nextObject : system.nextObject ≤ after.nextObject
  frames : ∀ thread, processOf thread ≠ process → after.frames thread = system.frames thread
  depths : ∀ thread, processOf thread ≠ process → after.depths thread = system.depths thread
  osLock : ∀ other handle, other ≠ process → belongs other system handle = true →
    system.osLock = some handle → after.osLock = some handle

variable {processOf} {system} {after : System Process Thread} {process other : Process}

omit [DecidableEq Thread] in
theorem ThreadSound.transfer {frames : List Frame} (sound : system.ThreadSound process frames)
    (nested : ∀ object, system.registered process = some object →
      CallsSound object (system.objects object).handle system.osLock frames →
      after.registered process = some object ∧
        CallsSound object (after.objects object).handle after.osLock frames)
    (detached : ∀ handle, system.Detached process handle → after.Detached process handle) :
    after.ThreadSound process frames := by
  rcases sound with ⟨object, registered, calls⟩ | ⟨frame, handle, alone, place, apart⟩
  · obtain ⟨registered', calls'⟩ := nested object registered calls
    exact .inl ⟨object, registered', calls'⟩
  · exact .inr ⟨frame, handle, alone, place, detached handle apart⟩

/-- A step of one process keeps the soundness of the others. -/
theorem SameElsewhere.processSound (same : SameElsewhere processOf process system after)
    (differs : other ≠ process) (sound : system.ProcessSound processOf other) :
    after.ProcessSound processOf other := by
  have elsewhere (thread : Thread) (own : processOf thread = other) :
      after.frames thread = system.frames thread :=
    same.frames thread (own ▸ differs)
  constructor
  case alive =>
    intro thread own
    rw [elsewhere thread own, same.alive other differs]
    exact sound.alive thread own
  case calls =>
    intro thread own
    rw [elsewhere thread own]
    intro calls
    refine (sound.calls thread own calls).transfer ?_ ?_
    · intro object registered nested
      refine ⟨by rw [same.registered other differs, registered], ?_⟩
      rw [same.objects other object differs registered]
      refine nested.setOsLock fun own attached locked => ?_
      exact same.osLock other own differs ((sound.object object registered).handle own attached).1
        locked
    · intro handle ⟨mine, apart⟩
      constructor
      · rwa [belongs, same.handles other handle differs mine]
      · intro object registered
        rw [same.registered other differs] at registered
        rw [same.objects other object differs registered]
        exact apart object registered
  case depths =>
    intro thread own
    rw [elsewhere thread own, same.depths thread (own ▸ differs)]
    exact sound.depths thread own
  case object =>
    intro object registered
    rw [same.registered other differs] at registered
    obtain ⟨known, users, owner, handle⟩ := sound.object object registered
    have unchanged := same.objects other object differs registered
    refine ⟨Nat.lt_of_lt_of_le known same.nextObject, ?_, ?_, ?_⟩
    · rw [unchanged]
      exact users.congr fun thread own => by rw [elsewhere thread own]
    · rw [unchanged]
      exact owner.congr fun thread own => by rw [elsewhere thread own]
    · intro own attached
      rw [unchanged] at attached
      obtain ⟨mine, _⟩ := handle own attached
      have file := same.handles other own differs mine
      exact ⟨by rwa [belongs, file], by rwa [isOpen, file]⟩

theorem Sound.step_of (sound : system.Sound processOf) (process : Process)
    (same : SameElsewhere processOf process system after)
    (own : after.ProcessSound processOf process)
    (separate : ∀ other object, other ≠ process → after.registered process = some object →
      system.registered other ≠ some object)
    (fresh : ∀ handle, after.nextHandle ≤ handle → after.handles handle = none) :
    after.Sound processOf := by
  refine ⟨?_, ?_, fresh⟩
  · intro other
    by_cases equal : other = process
    · rw [equal]
      exact own
    · exact same.processSound equal (sound.processes other)
  · intro one other object first second
    by_cases isOne : one = process <;> by_cases isOther : other = process
    · rw [isOne, isOther]
    · subst isOne
      rw [same.registered other isOther] at second
      exact absurd second (separate other object isOther first)
    · subst isOther
      rw [same.registered one isOne] at first
      exact absurd first (separate one object isOne second)
    · rw [same.registered one isOne] at first
      rw [same.registered other isOther] at second
      exact sound.separate one other object first second

end System

end NetConsole.Locks
