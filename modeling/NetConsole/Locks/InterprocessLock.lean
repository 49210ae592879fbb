import Mathlib.Logic.Function.Basic
import NetConsole.Foundations.GuardedRuns

/-!
# The interprocess file lock

`interprocess_file_lock` serialises the threads of all processes that name the same
path. In a process its threads share one `_LocalLockState`: a re-entrant lock, the
handle of the lock file, and the number of calls that use it. A thread takes the
re-entrant lock first, and its outermost call then locks the file.

A system is everything that concerns one path. A step is what one thread does up to
its next action that another thread or process can notice; whether a wait times out and
whether a call of the operating system raises is part of the action. The file lock of
the operating system belongs to a handle, and goes with the handle or with the process.
-/

set_option autoImplicit false

namespace NetConsole.Locks

/-- `_LocalLockState`; its `threading.RLock` is the owner and the recursion count. -/
structure LocalLockState (Thread : Type) where
  owner : Option Thread
  count : Nat
  handle : Option Nat
  activeCount : Nat

/-- An open file and its process. -/
structure FileHandle (Process : Type) where
  process : Process
  closed : Bool

/-- Where a call of `interprocess_file_lock` stands. -/
inductive Phase
  /-- At `local_lock.acquire`. -/
  | waiting
  /-- The local lock is taken; the depth before this call is known. -/
  | opening (depth : Nat)
  /-- At `_acquire_os_lock`. -/
  | locking (handle : Nat)
  | inside (handle : Nat) (osLocked : Bool)
  /-- At `_release_os_lock`. -/
  | releasing (handle : Nat)
  /-- In the outer `finally`. -/
  | leaving
  /-- At `_unregister_local_state`. -/
  | unregistering
  /-- The last user closes the handle that it took out. -/
  | closing (handle : Nat)
  deriving DecidableEq

/-- The call holds a level of the local lock. -/
def Phase.locked : Phase → Bool
  | .opening _ | .locking _ | .inside _ _ | .releasing _ | .leaving => true
  | .waiting | .unregistering | .closing _ => false

/-- The call is counted in `active_count`. -/
def Phase.counted : Phase → Bool
  | .closing _ => false
  | _ => true

def Phase.isInside : Phase → Bool
  | .inside _ _ => true
  | _ => false

/-- One call of `interprocess_file_lock`. -/
structure Frame where
  object : Nat
  /-- `timeout_seconds is not None`. -/
  timed : Bool
  phase : Phase
  deriving DecidableEq

/-- The processes, their locks in memory, and the locked file. -/
structure System (Process Thread : Type) where
  alive : Process → Bool
  /-- `_LOCAL_STATES.get(lock_key)`. -/
  registered : Process → Option Nat
  objects : Nat → LocalLockState Thread
  nextObject : Nat
  handles : Nat → Option (FileHandle Process)
  nextHandle : Nat
  /-- The handle that has the file locked. -/
  osLock : Option Nat
  /-- The calls of a thread, the innermost first. -/
  frames : Thread → List Frame
  /-- `_thread_depths().get(lock_key)`. -/
  depths : Thread → Option Nat

/-- What a thread does next, or the death of a process. -/
inductive Action (Process Thread : Type)
  | enter (thread : Thread) (timed : Bool)
  | acquireLocal (thread : Thread)
  | localTimesOut (thread : Thread)
  | openHandle (thread : Thread) (succeeds : Bool)
  | acquireOs (thread : Thread)
  /-- The file is not locked in time, or the call raises. -/
  | osFails (thread : Thread)
  /-- The protected block ends, normally or with an exception. -/
  | exitBlock (thread : Thread)
  | releaseOs (thread : Thread) (succeeds : Bool)
  | leave (thread : Thread)
  | unregister (thread : Thread)
  | closeHandle (thread : Thread)
  | crash (process : Process)

def Action.thread {Process Thread : Type} : Action Process Thread → Option Thread
  | .enter thread _ | .acquireLocal thread | .localTimesOut thread | .openHandle thread _
  | .acquireOs thread | .osFails thread | .exitBlock thread | .releaseOs thread _
  | .leave thread | .unregister thread | .closeHandle thread => some thread
  | .crash _ => none

variable {Process Thread : Type} [DecidableEq Process] [DecidableEq Thread]

namespace System

def setFrames (thread : Thread) (frames : List Frame) (system : System Process Thread) :
    System Process Thread :=
  { system with frames := Function.update system.frames thread frames }

def setObject (object : Nat) (state : LocalLockState Thread) (system : System Process Thread) :
    System Process Thread :=
  { system with objects := Function.update system.objects object state }

def isOpen (system : System Process Thread) (handle : Nat) : Bool :=
  (system.handles handle).any fun file => !file.closed

def belongs (process : Process) (system : System Process Thread) (handle : Nat) : Bool :=
  (system.handles handle).any fun file => decide (file.process = process)

/-! ## The registry -/

/-- The lock object of a process, made where it has none. -/
def registerLocalState (process : Process) (system : System Process Thread) :
    System Process Thread × Nat :=
  match system.registered process with
  | some object =>
    let state := system.objects object
    (system.setObject object { state with activeCount := state.activeCount + 1 }, object)
  | none =>
    let object := system.nextObject
    ({ system.setObject object ⟨none, 0, none, 1⟩ with
        registered := Function.update system.registered process (some object)
        nextObject := object + 1 }, object)

/-- `_os_lock_handle_for`, where nothing raises. -/
def osLockHandleFor (process : Process) (object : Nat) (system : System Process Thread) :
    System Process Thread × Nat :=
  let state := system.objects object
  match state.handle.filter system.isOpen with
  | some handle => (system, handle)
  | none =>
    let handle := system.nextHandle
    ({ system.setObject object { state with handle := some handle } with
        handles := Function.update system.handles handle (some ⟨process, false⟩)
        nextHandle := handle + 1 }, handle)

/-- The locked part of `_unregister_local_state`, with the handle to close. -/
def unregisterLocalState (process : Process) (object : Nat) (system : System Process Thread) :
    System Process Thread × Option Nat :=
  let state := system.objects object
  if 0 < state.activeCount - 1 then
    (system.setObject object { state with activeCount := state.activeCount - 1 }, none)
  else
    ({ system.setObject object { state with activeCount := 0, handle := none } with
        registered :=
          if system.registered process = some object then
            Function.update system.registered process none
          else system.registered }, state.handle)

/-! ## The file lock -/

/-- The file is unlocked, if the handle has locked it. -/
def releaseOsLock (handle : Nat) (system : System Process Thread) : System Process Thread :=
  { system with osLock := if system.osLock = some handle then none else system.osLock }

/-- The handle is closed, and what it has locked is free. -/
def closeHandle (handle : Nat) (system : System Process Thread) : System Process Thread :=
  { system.releaseOsLock handle with
    handles := Function.update system.handles handle
      ((system.handles handle).map fun file => { file with closed := true }) }

/-! ## A call -/

/-- A call begins. -/
def enter (process : Process) (thread : Thread) (timed : Bool) (system : System Process Thread) :
    System Process Thread :=
  let (registered, object) := system.registerLocalState process
  registered.setFrames thread (⟨object, timed, .waiting⟩ :: system.frames thread)

/-- Taking the local lock, and counting the depth. -/
def acquireLocal (thread : Thread) (frame : Frame) (outer : List Frame)
    (system : System Process Thread) : System Process Thread :=
  let state := system.objects frame.object
  let depth := (system.depths thread).getD 0
  { (system.setObject frame.object
      { state with owner := some thread, count := state.count + 1 }).setFrames thread
      ({ frame with phase := .opening depth } :: outer) with
    depths := Function.update system.depths thread (some (depth + 1)) }

/-- The handle is there; only the outermost call locks the file. -/
def openHandle (process : Process) (thread : Thread) (depth : Nat) (frame : Frame)
    (outer : List Frame) (system : System Process Thread) : System Process Thread :=
  let (opened, handle) := system.osLockHandleFor process frame.object
  opened.setFrames thread
    ({ frame with phase := if depth = 0 then .locking handle else .inside handle false } :: outer)

/-- The outer `finally` up to `local_lock.release()`, which raises if the thread does
not own the lock. -/
def leave (thread : Thread) (frame : Frame) (outer : List Frame) (system : System Process Thread) :
    System Process Thread :=
  let state := system.objects frame.object
  let nextDepth := (system.depths thread).getD 0 - 1
  let system :=
    { system with
      depths := Function.update system.depths thread
        (if 0 < nextDepth then some nextDepth else none) }
  if state.owner = some thread then
    (system.setObject frame.object { state with
        owner := if state.count - 1 = 0 then none else some thread
        count := state.count - 1 }).setFrames thread
          ({ frame with phase := .unregistering } :: outer)
  else system.setFrames thread outer

/-- A frame gives up its registration; the last one closes the handle. -/
def unregister (process : Process) (thread : Thread) (frame : Frame) (outer : List Frame)
    (system : System Process Thread) : System Process Thread :=
  let (left, handle) := system.unregisterLocalState process frame.object
  left.setFrames thread
    (match handle with
    | none => outer
    | some handle => { frame with phase := .closing handle } :: outer)

/-- The process dies: its threads are gone, and the operating system closes its handles. -/
def crash (processOf : Thread → Process) (process : Process) (system : System Process Thread) :
    System Process Thread :=
  { system with
    alive := Function.update system.alive process false
    registered := Function.update system.registered process none
    osLock := system.osLock.filter fun handle => !belongs process system handle
    frames thread := if processOf thread = process then [] else system.frames thread
    depths thread := if processOf thread = process then none else system.depths thread }

/-! ## Steps -/

/-- A thread may call from outside, or from the protected block of its innermost call. -/
def MayEnter (frames : List Frame) : Prop := ∀ frame ∈ frames.head?, frame.phase.isInside = true

instance (frames : List Frame) : Decidable (MayEnter frames) :=
  inferInstanceAs (Decidable (∀ frame ∈ frames.head?, frame.phase.isInside = true))

variable (processOf : Thread → Process)

/-- The next step of the innermost call of a thread. -/
def stepFrame (system : System Process Thread) (thread : Thread) (frame : Frame)
    (outer : List Frame) : Action Process Thread → Option (System Process Thread)
  | .acquireLocal _ =>
    if frame.phase = .waiting ∧ ((system.objects frame.object).owner = none ∨
        (system.objects frame.object).owner = some thread) then
      some (system.acquireLocal thread frame outer)
    else none
  | .localTimesOut _ =>
    if frame.phase = .waiting ∧ frame.timed = true ∧
        (system.objects frame.object).owner ≠ some thread then
      some (system.setFrames thread ({ frame with phase := .unregistering } :: outer))
    else none
  | .openHandle _ succeeds =>
    match frame.phase with
    | .opening depth =>
      if succeeds then some (system.openHandle (processOf thread) thread depth frame outer)
      else some (system.setFrames thread ({ frame with phase := .leaving } :: outer))
    | _ => none
  | .acquireOs _ =>
    match frame.phase with
    | .locking handle =>
      if system.osLock = none ∨ system.osLock = some handle then
        some ({ system with osLock := some handle }.setFrames thread
          ({ frame with phase := .inside handle true } :: outer))
      else none
    | _ => none
  | .osFails _ =>
    match frame.phase with
    | .locking _ => some (system.setFrames thread ({ frame with phase := .leaving } :: outer))
    | _ => none
  | .exitBlock _ =>
    match frame.phase with
    | .inside handle osLocked =>
      some (system.setFrames thread
        ({ frame with phase := if osLocked then .releasing handle else .leaving } :: outer))
    | _ => none
  | .releaseOs _ succeeds =>
    match frame.phase with
    | .releasing handle =>
      some ((if succeeds then system.releaseOsLock handle else system).setFrames thread
        ({ frame with phase := .leaving } :: outer))
    | _ => none
  | .leave _ => if frame.phase = .leaving then some (system.leave thread frame outer) else none
  | .unregister _ =>
    if frame.phase = .unregistering then
      some (system.unregister (processOf thread) thread frame outer)
    else none
  | .closeHandle _ =>
    match frame.phase with
    | .closing handle => some ((system.closeHandle handle).setFrames thread outer)
    | _ => none
  | .enter _ _ | .crash _ => none

/-- The system after an action, if the action is possible. -/
def step (system : System Process Thread) (action : Action Process Thread) :
    Option (System Process Thread) :=
  match action with
  | .enter thread timed =>
    if system.alive (processOf thread) = true ∧ MayEnter (system.frames thread) then
      some (system.enter (processOf thread) thread timed)
    else none
  | .crash process => some (system.crash processOf process)
  | action =>
    match action.thread with
    | none => none
    | some thread =>
      match system.frames thread with
      | [] => none
      | frame :: outer => system.stepFrame processOf thread frame outer action

/-- Nobody has called yet. -/
def new : System Process Thread where
  alive _ := true
  registered _ := none
  objects _ := ⟨none, 0, none, 0⟩
  nextObject := 0
  handles _ := none
  nextHandle := 0
  osLock := none
  frames _ := []
  depths _ := none

end System

end NetConsole.Locks
