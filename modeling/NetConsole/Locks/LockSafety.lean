import NetConsole.Locks.LockSteps

/-!
# Safety of the interprocess lock

The outermost call of a thread names the object and the handle, so a thread holds the
same lock as long as that call is in the protected block (`Sound.holds_of_outermost`).
Only its end, or the crash of the process, takes the thread out of the block
(`Sound.step_outermost`).
-/

set_option autoImplicit false

namespace NetConsole.Locks

open Foundations List Option Function

variable {Process Thread : Type} [DecidableEq Process] [DecidableEq Thread]
  {frames : List Frame} {frame : Frame}

theorem CallsSound.outermost {object : Nat} {handle osLock : Option Nat}
    (sound : CallsSound object handle osLock frames) {own : Nat} {osLocked : Bool}
    (last : frames.getLast? = some frame) (place : frame.phase = .inside own osLocked) :
    frame.object = object ∧ handle = some own ∧ osLock = some own := by
  induction frames with
  | nil => cases last
  | cons first outer ih =>
    obtain ⟨same, fits, -, rest⟩ := sound
    cases outer with
    | cons next more =>
      exact ih rest last
    | nil =>
      obtain rfl : first = frame := some.inj last
      rw [place] at fits
      obtain ⟨attached, -, locked⟩ := fits
      exact ⟨same, attached, locked rfl⟩

/-- A call goes on to another place, or ends, within the calls around it. -/
theorem getLast?_of_outer {outer : List Frame} (around : outer ≠ [])
    (next : frames = outer ∨ ∃ phase, frames = { frame with phase := phase } :: outer) :
    frames.getLast? = (frame :: outer).getLast? := by
  obtain ⟨_, _, rfl⟩ := exists_cons_of_ne_nil around
  rcases next with rfl | ⟨phase, rfl⟩
  · rw [List.getLast?_cons_cons]
  · rw [List.getLast?_cons_cons, List.getLast?_cons_cons]

namespace System

variable {processOf : Thread → Process} {system after : System Process Thread} {thread : Thread}
  {frame : Frame} {outer : List Frame} {action : Action Process Thread}

/-- The thread is in the protected block of one of its calls. -/
def InBlock (system : System Process Thread) (thread : Thread) : Prop :=
  ∃ frame ∈ system.frames thread, frame.phase.isInside = true

/-- The thread holds the local lock of its process, once for each of its calls that took
it, and the handle of the process is open and has the file locked. -/
structure Holds (processOf : Thread → Process) (system : System Process Thread) (thread : Thread)
    (object handle : Nat) : Prop where
  registered : system.registered (processOf thread) = some object
  owner : (system.objects object).owner = some thread
  count : (system.objects object).count = levels (system.frames thread)
  depth : (system.depths thread).getD 0 = levels (system.frames thread)
  attached : (system.objects object).handle = some handle
  isOpen : system.isOpen handle = true
  locked : system.osLock = some handle

/-! ## Who is in the block -/

variable (sound : system.Sound processOf)
include sound

theorem Sound.outermost (inBlock : system.InBlock thread) :
    ∃ frame own osLocked, (system.frames thread).getLast? = some frame ∧
      frame.phase = .inside own osLocked := by
  obtain ⟨_, mem, inside⟩ := inBlock
  cases calls : system.frames thread with
  | nil =>
    rw [calls] at mem
    cases mem
  | cons first rest =>
    have outermost : ∃ frame ∈ (first :: rest).getLast?, frame.phase.isInside = true := by
      rw [calls] at mem
      cases rest with
      | nil => exact ⟨first, rfl, mem_singleton.mp mem ▸ inside⟩
      | cons next more =>
        have called := (sound.processes (processOf thread)).calls thread rfl (by simp [calls])
        rw [calls] at called
        rcases called with ⟨_, -, -, -, around, -⟩ | ⟨frame, _, alone, -, -⟩
        · rw [List.getLast?_cons_cons]
          have isLast := List.getLast?_eq_some_getLast (cons_ne_nil next more)
          exact ⟨_, isLast, around _ (mem_of_getLast? isLast)⟩
        · cases alone
    obtain ⟨frame, last, inside⟩ := outermost
    cases place : frame.phase with
    | inside own osLocked => exact ⟨frame, own, osLocked, last, place⟩
    | _ =>
      rw [place] at inside
      cases inside

/-- A thread whose outermost call is in the block holds what this call names. -/
theorem Sound.holds_of_outermost {own : Nat} {osLocked : Bool}
    (last : (system.frames thread).getLast? = some frame)
    (place : frame.phase = .inside own osLocked) :
    system.Holds processOf thread frame.object own := by
  have here := sound.processes (processOf thread)
  have mem : frame ∈ system.frames thread := mem_of_getLast? last
  rcases here.calls thread rfl (ne_nil_of_mem mem) with
    ⟨object, registered, nested⟩ | ⟨only, handle, alone, closing, -⟩
  · obtain ⟨rfl, attached, locked⟩ := nested.outermost last place
    have state := here.object frame.object registered
    have holds : 0 < levels (system.frames thread) :=
      countP_pos_iff.mpr ⟨frame, mem, by rw [place]; rfl⟩
    have owner := state.owner.owned thread rfl holds
    exact ⟨registered, owner, (state.owner.counted thread owner).2.1, here.depths thread rfl,
      attached, (state.handle own attached).2, locked⟩
  · rw [alone] at mem
    obtain rfl := mem_singleton.mp mem
    rw [closing] at place
    cases place

theorem Sound.holds (inBlock : system.InBlock thread) :
    ∃ object handle, system.Holds processOf thread object handle := by
  obtain ⟨frame, own, _, last, place⟩ := sound.outermost inBlock
  exact ⟨frame.object, own, sound.holds_of_outermost last place⟩

omit sound

variable {object handle : Nat}

/-- There is one lock of the file, and one local lock behind it. -/
theorem Sound.holds_unique (sound : system.Sound processOf) {one other : Thread}
    {object' handle' : Nat} (first : system.Holds processOf one object handle)
    (second : system.Holds processOf other object' handle') : one = other := by
  have handles : handle = handle' := some.inj (first.locked.symm.trans second.locked)
  have belongsTo {thread : Thread} {object handle : Nat}
      (holds : system.Holds processOf thread object handle) :
      belongs (processOf thread) system handle = true :=
    (((sound.processes _).object object holds.registered).handle handle holds.attached).1
  have processes : processOf one = processOf other :=
    belongs_unique (belongsTo first) (handles ▸ belongsTo second)
  have objects : object = object' := by
    have registered := first.registered
    rw [processes, second.registered] at registered
    exact (some.inj registered).symm
  have owners := first.owner
  rw [objects, second.owner] at owners
  exact (some.inj owners).symm

/-! ## What a step does to the calls -/

omit [DecidableEq Process] in
theorem setFrames_frames {base : System Process Thread} (same : base.frames = system.frames)
    (frames : List Frame) :
    (base.setFrames thread frames).frames = Function.update system.frames thread frames := by
  rw [System.setFrames, same]

omit [DecidableEq Thread] in
theorem registerLocalState_frames (system : System Process Thread) (process : Process) :
    (system.registerLocalState process).1.frames = system.frames ∧
      (system.registerLocalState process).1.depths = system.depths := by
  unfold registerLocalState
  split <;> exact ⟨rfl, rfl⟩

omit [DecidableEq Thread] in
omit [DecidableEq Process] in
theorem osLockHandleFor_frames (system : System Process Thread) (process : Process) (object : Nat) :
    (system.osLockHandleFor process object).1.frames = system.frames ∧
      (system.osLockHandleFor process object).1.depths = system.depths := by
  unfold osLockHandleFor
  simp only
  split <;> exact ⟨rfl, rfl⟩

omit [DecidableEq Thread] in
theorem unregisterLocalState_frames (system : System Process Thread) (process : Process)
    (object : Nat) : (system.unregisterLocalState process object).1.frames = system.frames ∧
      (system.unregisterLocalState process object).1.depths = system.depths := by
  unfold unregisterLocalState
  simp only
  split <;> exact ⟨rfl, rfl⟩

/-- The calls of the threads after a step of an innermost call: a call that is in its
block can only leave it. -/
structure FrameStep (thread : Thread) (frame : Frame) (outer : List Frame)
    (action : Action Process Thread) (system after : System Process Thread) : Prop where
  others : ∀ other, other ≠ thread →
    after.frames other = system.frames other ∧ after.depths other = system.depths other
  own : after.frames thread = outer ∨
    ∃ phase, after.frames thread = { frame with phase := phase } :: outer
  inside : frame.phase.isInside = true → action = .exitBlock thread ∧
    ∃ phase, phase.isInside = false ∧ after.frames thread = { frame with phase := phase } :: outer

omit [DecidableEq Process] in
/-- A call that is not in its block moves to another place. -/
theorem FrameStep.move (place : frame.phase.isInside = false) (phase : Phase)
    (frames : after.frames = Function.update system.frames thread
      ({ frame with phase := phase } :: outer))
    (depths : ∀ other, other ≠ thread → after.depths other = system.depths other) :
    FrameStep thread frame outer action system after where
  others other differs := ⟨by rw [frames, update_of_ne differs], depths other differs⟩
  own := .inr ⟨phase, by rw [frames, update_self]⟩
  inside inside := by
    rw [place] at inside
    cases inside

omit [DecidableEq Process] in
theorem FrameStep.return (place : frame.phase.isInside = false)
    (frames : after.frames = Function.update system.frames thread outer)
    (depths : ∀ other, other ≠ thread → after.depths other = system.depths other) :
    FrameStep thread frame outer action system after where
  others other differs := ⟨by rw [frames, update_of_ne differs], depths other differs⟩
  own := .inl (by rw [frames, update_self])
  inside inside := by
    rw [place] at inside
    cases inside

theorem stepFrame_frames (own : action.thread = some thread)
    (taken : system.stepFrame processOf thread frame outer action = some after) :
    FrameStep thread frame outer action system after := by
  cases action with
  | enter | crash => cases taken
  | acquireLocal =>
    simp only [System.stepFrame, ite_none_right_eq_some, some.injEq] at taken
    obtain ⟨⟨place, -⟩, rfl⟩ := taken
    exact .move (by rw [place]; rfl) _ rfl fun other differs => update_of_ne differs ..
  | localTimesOut =>
    simp only [System.stepFrame, ite_none_right_eq_some, some.injEq] at taken
    obtain ⟨⟨place, -, -⟩, rfl⟩ := taken
    exact .move (by rw [place]; rfl) _ rfl fun _ _ => rfl
  | openHandle _ succeeds =>
    simp only [System.stepFrame] at taken
    split at taken
    · next depth place =>
      split at taken <;> cases taken
      · have opened := osLockHandleFor_frames system (processOf thread) frame.object
        refine .move (by rw [place]; rfl)
          (if depth = 0 then .locking (system.osLockHandleFor (processOf thread) frame.object).2
            else .inside (system.osLockHandleFor (processOf thread) frame.object).2 false)
          (setFrames_frames opened.1 _) fun other _ => congrFun opened.2 other
      · exact .move (by rw [place]; rfl) _ rfl fun _ _ => rfl
    · cases taken
  | acquireOs =>
    simp only [System.stepFrame] at taken
    split at taken
    · next handle place =>
      simp only [ite_none_right_eq_some, some.injEq] at taken
      obtain ⟨-, rfl⟩ := taken
      exact .move (by rw [place]; rfl) _ rfl fun _ _ => rfl
    · cases taken
  | osFails =>
    simp only [System.stepFrame] at taken
    split at taken
    · next handle place =>
      cases taken
      exact .move (by rw [place]; rfl) _ rfl fun _ _ => rfl
    · cases taken
  | exitBlock =>
    cases own
    simp only [System.stepFrame] at taken
    split at taken
    · next handle osLocked place =>
      cases taken
      refine ⟨fun other differs => ⟨setFrames_of_ne differs _, rfl⟩, .inr ⟨_, setFrames_self _⟩,
        fun _ => ⟨rfl, _, ?_, setFrames_self _⟩⟩
      split <;> rfl
    · cases taken
  | releaseOs _ succeeds =>
    simp only [System.stepFrame] at taken
    split at taken
    · next handle place =>
      cases taken
      split <;> exact .move (by rw [place]; rfl) _ rfl fun _ _ => rfl
    · cases taken
  | leave =>
    simp only [System.stepFrame, ite_none_right_eq_some, some.injEq] at taken
    obtain ⟨place, rfl⟩ := taken
    unfold System.leave
    simp only
    split
    · exact .move (by rw [place]; rfl) _ rfl fun other differs => update_of_ne differs ..
    · exact .return (by rw [place]; rfl) rfl fun other differs => update_of_ne differs ..
  | unregister =>
    simp only [System.stepFrame, ite_none_right_eq_some, some.injEq] at taken
    obtain ⟨place, rfl⟩ := taken
    have unchanged := unregisterLocalState_frames system (processOf thread) frame.object
    unfold System.unregister
    cases result : system.unregisterLocalState (processOf thread) frame.object with
    | mk left handle =>
      rw [result] at unchanged
      cases handle with
      | none =>
        exact .return (by rw [place]; rfl) (setFrames_frames unchanged.1 _)
          fun other _ => congrFun unchanged.2 other
      | some handle =>
        exact .move (by rw [place]; rfl) _ (setFrames_frames unchanged.1 _)
          fun other _ => congrFun unchanged.2 other
  | closeHandle =>
    simp only [System.stepFrame] at taken
    split at taken
    · next handle place =>
      cases taken
      exact .return (by rw [place]; rfl) rfl fun _ _ => rfl
    · cases taken

/-- A call begins around nothing else. -/
theorem enter_frames (system : System Process Thread) (process : Process) (thread : Thread)
    (timed : Bool) : (∃ object, (system.enter process thread timed).frames =
      Function.update system.frames thread (⟨object, timed, .waiting⟩ :: system.frames thread)) ∧
      (system.enter process thread timed).depths = system.depths := by
  have registered := registerLocalState_frames system process
  exact ⟨⟨_, setFrames_frames registered.1 _⟩, registered.2⟩

variable (taken : system.step processOf action = some after)
include taken

theorem step_frames
    (elsewhere : action.thread ≠ some thread) (survives : action ≠ .crash (processOf thread)) :
    after.frames thread = system.frames thread ∧ after.depths thread = system.depths thread := by
  rcases step_cases taken with ⟨other, timed, rfl, -, -, rfl⟩ | ⟨process, rfl, rfl⟩ |
    ⟨other, frame, outer, own, -, taken⟩
  · have differs : thread ≠ other := fun equal => elsewhere (equal ▸ rfl)
    obtain ⟨⟨_, frames⟩, depths⟩ := enter_frames system (processOf other) other timed
    exact ⟨by rw [frames, update_of_ne differs], by rw [depths]⟩
  · have differs : processOf thread ≠ process := fun equal => survives (equal ▸ rfl)
    exact ⟨if_neg differs, if_neg differs⟩
  · have differs : thread ≠ other := fun equal => elsewhere (equal ▸ own)
    exact (stepFrame_frames own taken).others thread differs

/-- Its outermost call keeps a thread in the block, until this call leaves the block or
the process dies. -/
theorem step_outermost (inBlock : system.InBlock thread) :
    (after.frames thread).getLast? = (system.frames thread).getLast? ∨
      ¬after.InBlock thread ∧ (action = .crash (processOf thread) ∨
        action = .exitBlock thread ∧ ∃ frame, system.frames thread = [frame]) := by
  by_cases crashes : action = .crash (processOf thread)
  · refine .inr ⟨?_, .inl crashes⟩
    subst crashes
    cases taken
    rintro ⟨frame, mem, -⟩
    rw [show (system.crash processOf (processOf thread)).frames thread = []
      from if_pos rfl] at mem
    cases mem
  by_cases own : action.thread = some thread
  swap
  · exact .inl (by rw [(step_frames taken own crashes).1])
  obtain ⟨inner, mem, inside⟩ := inBlock
  rcases step_cases taken with ⟨other, timed, rfl, -, -, rfl⟩ | ⟨process, rfl, -⟩ |
    ⟨other, frame, outer, own', calls, taken⟩
  · obtain rfl := some.inj own
    obtain ⟨⟨object, frames⟩, -⟩ := enter_frames system (processOf other) other timed
    obtain ⟨_, _, calls⟩ := exists_cons_of_ne_nil (ne_nil_of_mem mem)
    exact .inl (by rw [frames, update_self, calls, List.getLast?_cons_cons])
  · cases own
  · obtain rfl := some.inj (own'.symm.trans own)
    have step := stepFrame_frames own taken
    by_cases around : outer = []
    · subst around
      rw [calls] at mem
      obtain rfl := mem_singleton.mp mem
      obtain ⟨exits, phase, outside, after'⟩ := step.inside inside
      refine .inr ⟨?_, .inr ⟨exits, inner, calls⟩⟩
      rintro ⟨_, mem, inside⟩
      rw [after'] at mem
      rw [mem_singleton.mp mem, outside] at inside
      cases inside
    · rw [calls]
      exact .inl (getLast?_of_outer around step.own)

variable (sound : system.Sound processOf)
include sound

theorem Sound.holds_step
    (holds : system.Holds processOf thread object handle) (before : system.InBlock thread)
    (stays : after.InBlock thread) : after.Holds processOf thread object handle := by
  obtain ⟨frame, own, _, last, place⟩ := sound.outermost before
  have same := sound.holds_of_outermost last place
  obtain rfl : frame.object = object :=
    some.inj (same.registered.symm.trans holds.registered)
  obtain rfl : own = handle := some.inj (same.locked.symm.trans holds.locked)
  rcases step_outermost taken before with unchanged | ⟨left, -⟩
  · exact (sound.step taken).holds_of_outermost (unchanged.trans last) place
  · exact absurd stays left

omit taken in
theorem Sound.inBlock_of_outermost (before : system.InBlock thread)
    (unchanged : (after.frames thread).getLast? = (system.frames thread).getLast?) :
    after.InBlock thread := by
  obtain ⟨frame, _, _, last, place⟩ := sound.outermost before
  exact ⟨frame, mem_of_getLast? (unchanged.trans last), by rw [place]; rfl⟩

omit taken in
theorem Sound.holds_later {later : List (Action Process Thread)}
    (run : GuardedRun (System.step processOf)
      (fun state _ => state.InBlock thread) system later after)
    (holds : system.Holds processOf thread object handle) (stays : after.InBlock thread) :
    after.Holds processOf thread object handle := by
  induction run with
  | nil => exact holds
  | @cons state middle _ _ _ before taken rest ih =>
    have between : middle.InBlock thread := by
      cases rest with
      | nil => exact stays
      | cons met => exact met
    exact ih (sound.step taken) (sound.holds_step taken holds before between) stays

/-- A step of another thread leaves the holder in the block, with the same lock. -/
theorem Sound.holds_other
    (holds : system.Holds processOf thread object handle) (inBlock : system.InBlock thread)
    (elsewhere : action.thread ≠ some thread) (survives : action ≠ .crash (processOf thread)) :
    after.InBlock thread ∧ after.Holds processOf thread object handle := by
  have stays : after.InBlock thread := by
    rwa [InBlock, (step_frames taken elsewhere survives).1]
  exact ⟨stays, sound.holds_step taken holds inBlock stays⟩

omit taken

/-- The outermost call of the holder releases the lock that it took. -/
theorem Sound.releaseOs_frees
    (released : system.step processOf (.releaseOs thread true) = some after) :
    after.osLock = none := by
  cases calls : system.frames thread with
  | nil => simp [System.step, Action.thread, calls] at released
  | cons frame outer =>
    have frameSound := (sound.processes (processOf thread)).calls thread rfl (by simp [calls])
    rw [calls] at frameSound
    simp only [System.step, Action.thread, calls, System.stepFrame] at released
    split at released
    · next own place =>
      obtain rfl := some.inj released
      rcases frameSound with ⟨_, -, -, fits, -⟩ | ⟨only, handle, alone, closing, -⟩
      · rw [place] at fits
        simp [System.setFrames, System.releaseOsLock, fits.2.2]
      · obtain ⟨rfl, -⟩ := cons.inj alone
        rw [place] at closing
        cases closing
    · cases released

omit sound

/-- The last user of a handle leaves no lock on it. -/
theorem closeHandle_frees (calls : system.frames thread = frame :: outer)
    (place : frame.phase = .closing handle)
    (closed : system.step processOf (.closeHandle thread) = some after) :
    after.osLock ≠ some handle := by
  simp only [step, Action.thread, calls, stepFrame, place] at closed
  obtain rfl := some.inj closed
  simp only [setFrames, closeHandle, releaseOsLock]
  split
  · simp
  · assumption

/-! ## Runs -/

/-- Whatever the threads and processes do, one thread at most is in the protected block.
It holds the lock until its outermost call leaves the block or its process dies, and no
step of another thread takes it out of the block or changes its calls or its lock. A
release that succeeds, or closing the handle, frees the file. -/
theorem interprocessFileLock_safe (processOf : Thread → Process)
    {actions : List (Action Process Thread)} {system : System Process Thread}
    (ran : runFrom (System.step processOf) .new actions = some system) :
    (∀ one other, system.InBlock one → system.InBlock other → one = other) ∧
      (∀ thread, system.InBlock thread → ∃ object handle,
        system.Holds processOf thread object handle ∧ (∀ later after,
          GuardedRun (System.step processOf)
            (fun state _ => state.InBlock thread) system later after →
          after.InBlock thread → after.Holds processOf thread object handle) ∧
        ∀ action after, system.step processOf action = some after →
          (¬after.InBlock thread → action = .crash (processOf thread) ∨
            action = .exitBlock thread ∧ ∃ frame, system.frames thread = [frame]) ∧
          (action.thread ≠ some thread → action ≠ .crash (processOf thread) →
            after.InBlock thread ∧ after.Holds processOf thread object handle ∧
              after.frames thread = system.frames thread ∧
              after.depths thread = system.depths thread)) ∧
      ∀ thread after,
        (system.step processOf (.releaseOs thread true) = some after → after.osLock = none) ∧
        ∀ frame outer handle, system.frames thread = frame :: outer →
          frame.phase = .closing handle → system.step processOf (.closeHandle thread) = some after →
            after.osLock ≠ some handle := by
  have sound := Sound.of_run ran
  refine ⟨?_, ?_, fun thread after => ⟨sound.releaseOs_frees, fun _ _ _ => closeHandle_frees⟩⟩
  · intro one other first second
    obtain ⟨_, _, holds⟩ := sound.holds first
    obtain ⟨_, _, holds'⟩ := sound.holds second
    exact sound.holds_unique holds holds'
  · intro thread inBlock
    obtain ⟨object, handle, holds⟩ := sound.holds inBlock
    refine ⟨object, handle, holds, fun later after run stays => ?_, fun action after taken => ?_⟩
    · exact sound.holds_later run holds stays
    · constructor
      · intro left
        rcases step_outermost taken inBlock with unchanged | ⟨-, why⟩
        · exact absurd (sound.inBlock_of_outermost inBlock unchanged) left
        · exact why
      · intro elsewhere survives
        obtain ⟨stays, kept⟩ := sound.holds_other taken holds inBlock elsewhere survives
        exact ⟨stays, kept, step_frames taken elsewhere survives⟩

/-- Two threads of one process and one of another call while the first has the lock
twice: their waits end with a timeout, and the first leaves its inner block. -/
def sampleRun : List (Action Nat Nat) :=
  [.enter 0 false, .acquireLocal 0, .openHandle 0 true, .acquireOs 0,
    .enter 0 true, .acquireLocal 0, .openHandle 0 true,
    .enter 1 true, .localTimesOut 1, .unregister 1,
    .enter 2 true, .acquireLocal 2, .openHandle 2 true, .osFails 2, .leave 2, .unregister 2,
    .closeHandle 2, .exitBlock 0, .leave 0, .unregister 0]

def sampleSystem : System Nat Nat := (runFrom (System.step (· / 2)) .new sampleRun).getD .new

theorem interprocessFileLock_safe_sampleRun :
    (∀ one other, sampleSystem.InBlock one → sampleSystem.InBlock other → one = other) ∧
      sampleSystem.InBlock 0 ∧ ∃ object handle, sampleSystem.Holds (· / 2) 0 object handle := by
  have inBlock : sampleSystem.InBlock 0 := ⟨⟨0, false, .inside 0 true⟩, by decide, rfl⟩
  obtain ⟨exclusive, holding, -⟩ := interprocessFileLock_safe (· / 2)
    (show runFrom (System.step (· / 2)) .new sampleRun = some sampleSystem from rfl)
  obtain ⟨object, handle, holds, -⟩ := holding 0 inBlock
  exact ⟨exclusive, inBlock, object, handle, holds⟩

/-- Whatever the threads and processes do, `active_count` counts the calls of a process, its local
lock has one owner with the levels and the depth of that thread, and its handle is open. -/
theorem interprocessFileLock_counted (processOf : Thread → Process)
    {actions : List (Action Process Thread)} {system : System Process Thread}
    (ran : runFrom (System.step processOf) .new actions = some system) (process : Process) :
    (∀ thread, processOf thread = process →
      (system.depths thread).getD 0 = levels (system.frames thread)) ∧
    ∀ object, system.registered process = some object →
      system.ObjectSound processOf process object := by
  have sound := (Sound.of_run ran).processes process
  exact ⟨sound.depths, sound.object⟩

theorem interprocessFileLock_counted_sampleRun :
    (sampleSystem.depths 0).getD 0 = levels (sampleSystem.frames 0) :=
  (interprocessFileLock_counted (· / 2) (show runFrom (System.step (· / 2)) .new sampleRun =
    some sampleSystem from rfl) 0).1 0 rfl

end System

end NetConsole.Locks
