import NetConsole.Locks.LockInvariant

/-!
# The steps of the interprocess lock

Each step keeps the invariant. A step of a thread changes its own calls and, where it
holds the local lock, the object of its process. The other threads of the process have
no level of the local lock then, and rely on nothing (`Sound.threadStep`).
-/

set_option autoImplicit false

namespace NetConsole.Locks

open Foundations List Option Function

variable {Process Thread : Type} [DecidableEq Process] [DecidableEq Thread]

namespace System

variable {processOf : Thread → Process} {system : System Process Thread} {thread : Thread}

/-! ## A step of one thread -/

omit [DecidableEq Process] in
theorem setFrames_self (frames : List Frame) :
    (system.setFrames thread frames).frames thread = frames :=
  update_self ..

omit [DecidableEq Process] in
theorem setFrames_of_ne {other : Thread} (differs : other ≠ thread) (frames : List Frame) :
    (system.setFrames thread frames).frames other = system.frames other :=
  update_of_ne differs ..

/-- What a thread leaves as it is when it takes a step on its object. -/
structure ThreadStep (processOf : Thread → Process) (thread : Thread) (object : Nat)
    (system after : System Process Thread) : Prop where
  elsewhere : SameElsewhere processOf (processOf thread) system after
  separate : ∀ other, other ≠ processOf thread → system.registered other ≠ some object
  frames : ∀ other, other ≠ thread → after.frames other = system.frames other
  depths : ∀ other, other ≠ thread → after.depths other = system.depths other
  others : ∀ other known, processOf other = processOf thread → other ≠ thread →
    system.registered (processOf thread) = some known →
    CallsSound known (system.objects known).handle system.osLock (system.frames other) →
    known = object ∧
      CallsSound object (after.objects object).handle after.osLock (system.frames other)
  detached : ∀ handle, system.Detached (processOf thread) handle →
    after.Detached (processOf thread) handle

variable {after : System Process Thread}

theorem Sound.threadStep (sound : system.Sound processOf) (thread : Thread) (object : Nat)
    (step : ThreadStep processOf thread object system after)
    (alive : after.alive (processOf thread) = true)
    (registered : after.registered (processOf thread) = some object)
    (own : after.frames thread ≠ [] → after.ThreadSound (processOf thread) (after.frames thread))
    (depth : (after.depths thread).getD 0 = levels (after.frames thread))
    (state : after.ObjectSound processOf (processOf thread) object)
    (fresh : ∀ handle, after.nextHandle ≤ handle → after.handles handle = none) :
    after.Sound processOf := by
  have here := sound.processes (processOf thread)
  refine sound.step_of (processOf thread) step.elsewhere ?_ ?_ fresh
  · constructor
    · exact fun _ _ _ => alive
    · intro other same calls
      by_cases self : other = thread
      · subst self
        exact own calls
      · rw [step.frames other self] at calls ⊢
        refine (here.calls other same calls).transfer ?_ step.detached
        intro known has nested
        obtain ⟨rfl, kept⟩ := step.others other known same self has nested
        exact ⟨registered, kept⟩
    · intro other same
      by_cases self : other = thread
      · subst self
        exact depth
      · rw [step.frames other self, step.depths other self]
        exact here.depths other same
    · intro known has
      rw [registered] at has
      cases has
      exact state
  · intro other known differs has
    rw [registered] at has
    cases has
    exact step.separate other differs

/-! ## The innermost call -/

/-- What is known of a thread whose innermost call is registered. -/
structure Calling (processOf : Thread → Process) (system : System Process Thread)
    (thread : Thread) (frame : Frame) (outer : List Frame) : Prop where
  frames : system.frames thread = frame :: outer
  alive : system.alive (processOf thread) = true
  registered : system.registered (processOf thread) = some frame.object
  fits : frame.phase.Fits (system.objects frame.object).handle system.osLock outer
  around : ∀ call ∈ outer, call.phase.isInside = true
  outer : CallsSound frame.object (system.objects frame.object).handle system.osLock outer

variable {frame : Frame} {outer : List Frame}

theorem Sound.calling (sound : system.Sound processOf)
    (calls : system.frames thread = frame :: outer)
    (counted : frame.phase.counted = true) : Calling processOf system thread frame outer := by
  have own := sound.processes (processOf thread)
  have some' : system.frames thread ≠ [] := by simp [calls]
  have alive := own.alive thread rfl some'
  have called := own.calls thread rfl some'
  rw [calls] at called
  rcases called with ⟨_, registered, same, fits, around, rest⟩ | ⟨_, _, only, place, -⟩
  · subst same
    exact ⟨calls, alive, registered, fits, around, rest⟩
  · obtain ⟨rfl, -⟩ := List.cons.inj only
    rw [place] at counted
    cases counted

variable (calling : Calling processOf system thread frame outer)
include calling

omit [DecidableEq Process] [DecidableEq Thread] in
theorem Calling.levels :
    levels (system.frames thread) = outer.length + if frame.phase.locked = true then 1 else 0 := by
  rw [calling.frames, levels_cons, levels_of_inside calling.around]

omit [DecidableEq Process] [DecidableEq Thread] in
theorem Calling.registrations (counted : frame.phase.counted = true) :
    registrations (system.frames thread) = outer.length + 1 := by
  rw [calling.frames, registrations_cons, calling.outer.registrations_eq, if_pos counted]

omit [DecidableEq Process] [DecidableEq Thread] in
/-- The nested calls after the innermost one has moved to another place. -/
theorem Calling.nested {phase : Phase}
    (fits : phase.Fits (system.objects frame.object).handle system.osLock outer) :
    CallsSound frame.object (system.objects frame.object).handle system.osLock
      ({ frame with phase := phase } :: outer) :=
  ⟨rfl, fits, calling.around, calling.outer⟩

variable (sound : system.Sound processOf)
include sound

/-- The thread has the local lock of its process, and nobody else has a level of it. -/
theorem Sound.owner (locked : frame.phase.locked = true) :
    (system.objects frame.object).owner = some thread ∧
      (system.objects frame.object).count = outer.length + 1 ∧
      ∀ other, processOf other = processOf thread → other ≠ thread →
        NetConsole.Locks.levels (system.frames other) = 0 := by
  have state := (sound.processes (processOf thread)).object frame.object calling.registered
  have level : NetConsole.Locks.levels (system.frames thread) = outer.length + 1 := by
    rw [calling.levels, if_pos locked]
  have owner := state.owner.owned thread rfl (by omega)
  obtain ⟨-, count, -⟩ := state.owner.counted thread owner
  exact ⟨owner, by rw [count, level], state.owner.others (.inr owner)⟩

omit calling in
/-- A step on the object of a process concerns no other process. -/
theorem Sound.separate_own {process : Process} {own : Nat}
    (mine : system.registered process = some own) (other : Process) (differs : other ≠ process) :
    system.registered other ≠ some own :=
  fun taken => differs (sound.separate other _ _ taken mine)

omit calling in
/-- Where only this object of a process changes, the objects of the others stay. -/
theorem Sound.setObject_of_ne {process other : Process}
    {own object : Nat} (mine : system.registered process = some own) (differs : other ≠ process)
    (registered : system.registered other = some object) (state : LocalLockState Thread) :
    Function.update system.objects own state object = system.objects object := by
  refine update_of_ne ?_ ..
  rintro rfl
  exact sound.separate_own mine other differs registered

omit calling in
theorem Sound.setFrames {frames : List Frame}
    (sameLevels : NetConsole.Locks.levels frames = NetConsole.Locks.levels (system.frames thread))
    (sameRegistrations : NetConsole.Locks.registrations frames =
      NetConsole.Locks.registrations (system.frames thread))
    (alive : frames ≠ [] → system.alive (processOf thread) = true)
    (calls : frames ≠ [] → system.ThreadSound (processOf thread) frames) :
    (system.setFrames thread frames).Sound processOf := by
  have own := sound.processes (processOf thread)
  refine sound.step_of (processOf thread) ?_ ?_ ?_ sound.fresh
  · constructor <;> intros <;> first | rfl | exact Nat.le_refl _ | assumption | skip
    next other differs => exact setFrames_of_ne (fun equal => differs (by rw [equal])) _
  · constructor
    · intro other same
      by_cases self : other = thread
      · subst self
        rw [setFrames_self]
        exact alive
      · rw [setFrames_of_ne self]
        exact own.alive other same
    · intro other same
      by_cases self : other = thread
      · subst self
        rw [setFrames_self]
        exact calls
      · rw [setFrames_of_ne self]
        exact own.calls other same
    · intro other same
      by_cases self : other = thread
      · subst self
        rw [setFrames_self, sameLevels]
        exact own.depths other same
      · rw [setFrames_of_ne self]
        exact own.depths other same
    · intro object registered
      obtain ⟨known, users, owner, handle⟩ := own.object object registered
      refine ⟨known, users.congr fun other _ => ?_, owner.congr fun other _ => ?_, handle⟩
      · by_cases self : other = thread
        · rw [self, setFrames_self, sameRegistrations]
        · rw [setFrames_of_ne self]
      · by_cases self : other = thread
        · rw [self, setFrames_self, sameLevels]
        · rw [setFrames_of_ne self]
  · intro other object differs registered taken
    exact differs (sound.separate _ _ object taken registered)

/-- The innermost call moves to another place, with the same level of the local lock. -/
theorem Sound.move (phase : Phase)
    (counted : frame.phase.counted = true) (locked : phase.locked = frame.phase.locked)
    (fits : phase.Fits (system.objects frame.object).handle system.osLock outer) :
    (system.setFrames thread ({ frame with phase := phase } :: outer)).Sound processOf := by
  have counted' : phase.counted = true := by
    cases phase <;> first | rfl | exact fits.elim
  apply sound.setFrames
  · rw [calling.frames, levels_cons, levels_cons, locked]
  · rw [calling.frames, registrations_cons, registrations_cons, counted, counted']
  · exact fun _ => calling.alive
  · exact fun _ => .inl ⟨frame.object, calling.registered, calling.nested fits⟩

omit sound

/-! ## The lock of the file -/

variable {handle : Nat}

omit calling in
omit [DecidableEq Thread] in
theorem belongs_unique {one other : Process} (first : belongs one system handle = true)
    (second : belongs other system handle = true) : one = other := by
  unfold belongs at first second
  cases file : system.handles handle with
  | none =>
    rw [file] at first
    cases first
  | some own =>
    rw [file] at first second
    exact (of_decide_eq_true first).symm.trans (of_decide_eq_true second)

variable (sound : system.Sound processOf)
include sound

theorem Sound.belongs_calling (attached : (system.objects frame.object).handle = some handle) :
    belongs (processOf thread) system handle = true :=
  (((sound.processes (processOf thread)).object frame.object calling.registered).handle handle
    attached).1

omit calling in
/-- The lock changes hands within what one process can do. -/
theorem Sound.setOsLock (process : Process) {osLock : Option Nat}
    (elsewhere : ∀ other handle, other ≠ process → belongs other system handle = true →
      system.osLock = some handle → osLock = some handle)
    (own : ∀ thread object, processOf thread = process →
      CallsSound object (system.objects object).handle system.osLock (system.frames thread) →
      system.registered process = some object →
      CallsSound object (system.objects object).handle osLock (system.frames thread)) :
    ({ system with osLock := osLock } : System Process Thread).Sound processOf := by
  have here := sound.processes process
  refine sound.step_of process ?_ ?_ ?_ sound.fresh
  · constructor <;> intros <;> first | rfl | exact Nat.le_refl _ | skip
    exact elsewhere _ _ ‹_› ‹_› ‹_›
  · constructor
    · exact here.alive
    · intro thread same calls
      refine (here.calls thread same calls).transfer ?_ fun _ apart => apart
      exact fun object registered nested => ⟨registered, own thread object same nested registered⟩
    · exact here.depths
    · intro object registered
      obtain ⟨known, users, owner, handle⟩ := here.object object registered
      exact ⟨known, users, owner, handle⟩
  · intro other object differs registered taken
    exact differs (sound.separate _ _ object taken registered)

/-- The file is locked where it was free, or locked by the same handle. -/
theorem Sound.acquireOs (place : frame.phase = .locking handle)
    (possible : system.osLock = none ∨ system.osLock = some handle) :
    (({ system with osLock := some handle } : System Process Thread).setFrames thread
      ({ frame with phase := .inside handle true } :: outer)).Sound processOf := by
  have fits := calling.fits
  rw [place] at fits
  obtain ⟨rfl, attached⟩ := fits
  have mine := sound.belongs_calling calling attached
  have locked : ({ system with osLock := some handle } : System Process Thread).Sound
      processOf := by
    apply sound.setOsLock (processOf thread)
    · intro other own differs theirs has
      rcases possible with free | same
      · rw [free] at has
        cases has
      · rw [same] at has
        cases has
        exact absurd (belongs_unique theirs mine) differs
    · intro other object same nested registered
      refine nested.setOsLock fun own _ has => ?_
      rcases possible with free | same
      · rw [free] at has
        cases has
      · rwa [same] at has
  have counted : frame.phase.counted = true := by rw [place]; rfl
  exact locked.move (locked.calling calling.frames counted) _ counted (by rw [place]; rfl)
    ⟨attached, rfl, fun _ => rfl⟩

/-- The outermost call gives the lock of the file back. -/
theorem Sound.releaseOs (place : frame.phase = .releasing handle) :
    ((system.releaseOsLock handle).setFrames thread
      ({ frame with phase := .leaving } :: outer)).Sound processOf := by
  have fits := calling.fits
  rw [place] at fits
  obtain ⟨rfl, attached, _⟩ := fits
  have counted : frame.phase.counted = true := by rw [place]; rfl
  have locked : frame.phase.locked = true := by rw [place]; rfl
  have mine := sound.belongs_calling calling attached
  obtain ⟨-, -, others⟩ := sound.owner calling locked
  have left := sound.move calling .leaving counted (by rw [place]; rfl) trivial
  apply left.setOsLock (processOf thread)
  · intro other own differs theirs has
    have equal : own ≠ handle := by
      rintro rfl
      exact differs (belongs_unique theirs mine)
    show (if system.osLock = some handle then none else system.osLock) = some own
    rw [show system.osLock = some own from has, if_neg fun same => equal (some.inj same)]
  · intro other object same nested registered
    by_cases self : other = thread
    · subst self
      rw [setFrames_self] at nested ⊢
      exact ⟨nested.1, trivial, by simp, trivial⟩
    · rw [setFrames_of_ne self] at nested ⊢
      exact nested.of_free (others other same self) _ _

omit sound

omit calling in
theorem Sound.closeHandle (sound : system.Sound processOf) {process : Process}
    (detached : system.Detached process handle) : (system.closeHandle handle).Sound processOf := by
  have here := sound.processes process
  have released (own : Nat) (other : own ≠ handle) (locked : system.osLock = some own) :
      (system.closeHandle handle).osLock = some own := by
    show (if system.osLock = some handle then none else system.osLock) = some own
    rw [locked, if_neg fun equal => other (some.inj equal)]
  have file (own : Nat) (other : own ≠ handle) :
      (system.closeHandle handle).handles own = system.handles own :=
    update_of_ne other ..
  have closed : (system.closeHandle handle).handles handle =
      (system.handles handle).map fun file => { file with closed := true } :=
    update_self ..
  have stays (own : Nat) (mine : belongs process system own = true) :
      belongs process (system.closeHandle handle) own = true := by
    by_cases same : own = handle
    · subst same
      rw [belongs] at mine ⊢
      rw [closed, Option.any_map]
      exact mine
    · rwa [belongs, file own same]
  refine sound.step_of process ?_ ?_ ?_ ?_
  · constructor <;> intros <;> first | rfl | exact Nat.le_refl _ | skip
    · next other own differs mine =>
      exact file own fun equal => differs (belongs_unique mine (equal ▸ detached.1))
    · next other own differs mine locked =>
      exact released own (fun equal => differs (belongs_unique mine (equal ▸ detached.1))) locked
  · constructor
    · exact here.alive
    · intro thread same calls
      refine (here.calls thread same calls).transfer ?_ ?_
      · intro object registered nested
        refine ⟨registered, nested.setOsLock fun own attached locked => ?_⟩
        exact released own (fun equal => detached.2 object registered (equal ▸ attached)) locked
      · exact fun own mine => ⟨stays own mine.1, mine.2⟩
    · exact here.depths
    · intro object registered
      obtain ⟨known, users, owner, attached⟩ := here.object object registered
      refine ⟨known, users, owner, fun own has => ?_⟩
      obtain ⟨mine, _⟩ := attached own has
      have other : own ≠ handle := fun equal => detached.2 object registered (equal ▸ has)
      exact ⟨stays own mine, by rwa [isOpen, file own other]⟩
  · intro other object differs registered taken
    exact differs (sound.separate _ _ object taken registered)
  · intro own free
    by_cases same : own = handle
    · subst same
      rw [closed, sound.fresh own free]
      rfl
    · rw [file own same]
      exact sound.fresh own free

omit calling in
/-- The last user closes the handle, and its call ends. -/
theorem Sound.endClosing (sound : system.Sound processOf)
    (calls : system.frames thread = frame :: outer) (place : frame.phase = .closing handle) :
    ((system.closeHandle handle).setFrames thread outer).Sound processOf := by
  have called := (sound.processes (processOf thread)).calls thread rfl (by simp [calls])
  rw [calls] at called
  rcases called with ⟨_, -, -, fits, -⟩ | ⟨_, _, only, closing, apart⟩
  · rw [place] at fits
    exact fits.elim
  · obtain ⟨rfl, rfl⟩ := List.cons.inj only
    rw [place] at closing
    obtain rfl := Phase.closing.inj closing
    have level : frame.phase.locked = false := by rw [place]; rfl
    have counted : frame.phase.counted = false := by rw [place]; rfl
    have same : (system.closeHandle handle).frames thread = [frame] := calls
    apply (sound.closeHandle apart).setFrames
    · rw [same, levels_cons, if_neg (by simp [level]), Nat.add_zero]
    · rw [same, registrations_cons, if_neg (by simp [counted]), Nat.add_zero]
    · exact fun calls => absurd rfl calls
    · exact fun calls => absurd rfl calls

/-! ## Opening the lock file -/

omit [DecidableEq Process] [DecidableEq Thread] in
theorem Calling.outermost (none' : (system.objects frame.object).handle = none) : outer = [] := by
  cases outer with
  | nil => rfl
  | cons next more =>
    obtain ⟨_, has, -⟩ :=
      calling.outer.locked_of_inside ⟨next, by simp, calling.around next (by simp)⟩
    rw [none'] at has
    cases has

variable (sound : system.Sound processOf)
include sound

theorem Sound.osLockHandleFor {depth : Nat}
    (place : frame.phase = .opening depth) {opened : System Process Thread}
    (result : system.osLockHandleFor (processOf thread) frame.object = (opened, handle)) :
    opened.Sound processOf ∧ Calling processOf opened thread frame outer ∧
      (opened.objects frame.object).handle = some handle := by
  have locked : frame.phase.locked = true := by rw [place]; rfl
  have here := sound.processes (processOf thread)
  obtain ⟨known, users, owner, handles⟩ := here.object frame.object calling.registered
  unfold System.osLockHandleFor at result
  cases attached : (system.objects frame.object).handle with
  | some own =>
    obtain ⟨-, open'⟩ := handles own attached
    simp only [attached, filter_some, open', if_true] at result
    obtain ⟨rfl, rfl⟩ := Prod.mk.inj result
    exact ⟨sound, calling, attached⟩
  | none =>
    simp only [attached, filter_none] at result
    obtain ⟨rfl, rfl⟩ := Prod.mk.inj result
    obtain ⟨-, -, others⟩ := sound.owner calling locked
    obtain rfl := calling.outermost attached
    have opening (handle osLock : Option Nat) : frame.phase.Fits handle osLock [] := by
      have fits := calling.fits
      rw [place] at fits ⊢
      exact fits
    have file {process : Process} {own : Nat} (mine : belongs process system own = true) :
        Function.update system.handles system.nextHandle (some ⟨processOf thread, false⟩) own =
          system.handles own := by
      refine update_of_ne (fun equal => ?_) ..
      rw [belongs, equal, sound.fresh _ (Nat.le_refl _)] at mine
      cases mine
    have calling' : Calling processOf ({ system.setObject frame.object
            { system.objects frame.object with handle := some system.nextHandle } with
          handles := Function.update system.handles system.nextHandle
            (some ⟨processOf thread, false⟩)
          nextHandle := system.nextHandle + 1 } : System Process Thread) thread frame [] :=
      ⟨calling.frames, calling.alive, calling.registered, opening _ _, by simp, trivial⟩
    refine ⟨?_, calling', by simp only [setObject, update_self]⟩
    refine sound.threadStep thread frame.object ?_ calling.alive
      calling.registered ?_ (here.depths thread rfl) ?_ ?_
    · refine ⟨?_, sound.separate_own calling.registered, fun _ _ => rfl, fun _ _ => rfl, ?_, ?_⟩
      · constructor <;> intros <;> first | rfl | exact Nat.le_refl _ | assumption | skip
        · next other object differs registered =>
          exact sound.setObject_of_ne calling.registered differs registered _
        · next mine => exact file mine
      · intro other object same differs registered nested
        rw [calling.registered] at registered
        cases registered
        exact ⟨rfl, nested.of_free (others other same differs) _ _⟩
      · rintro own ⟨mine, apart⟩
        refine ⟨?_, fun object registered => ?_⟩
        · show (Function.update system.handles system.nextHandle _ own).any _ = true
          rw [file mine]
          exact mine
        · obtain rfl : object = frame.object :=
            some.inj (registered.symm.trans calling.registered)
          simp only [setObject, update_self]
          intro equal
          rw [← some.inj equal, belongs, sound.fresh _ (Nat.le_refl _)] at mine
          cases mine
    · intro calls
      show ThreadSound _ _ (system.frames thread)
      rw [calling.frames]
      exact .inl ⟨frame.object, calling.registered, rfl, opening _ _, by simp, trivial⟩
    · refine ⟨known, ?_, ?_, ?_⟩ <;> simp only [setObject, update_self]
      · exact users
      · exact owner
      · intro own has
        cases has
        simp [belongs, isOpen]
    · intro own free
      have other : own ≠ system.nextHandle := Nat.ne_of_gt free
      show Function.update system.handles system.nextHandle _ own = none
      rw [update_of_ne other]
      exact sound.fresh own (Nat.le_of_succ_le free)

/-- The lock file is open: the outermost call goes on to lock it. -/
theorem Sound.openHandle {depth : Nat} (place : frame.phase = .opening depth) :
    (system.openHandle (processOf thread) thread depth frame outer).Sound processOf := by
  have fits := calling.fits
  rw [place] at fits
  obtain rfl : depth = outer.length := fits
  have counted : frame.phase.counted = true := by rw [place]; rfl
  unfold System.openHandle
  cases result : system.osLockHandleFor (processOf thread) frame.object with
  | mk opened handle =>
    obtain ⟨sound', calling', attached⟩ := sound.osLockHandleFor calling place result
    cases outer with
    | nil =>
      exact sound'.move calling' _ counted (by rw [place]; rfl) ⟨rfl, attached⟩
    | cons next more =>
      refine sound'.move calling' _ counted (by rw [place]; rfl) ?_
      exact ⟨attached, rfl, fun alone => by cases alone⟩

omit calling

/-! ## Levels of the local lock -/

/-- A thread changes its calls, its levels, and the state of its object but for the handle. -/
theorem Sound.setState {object : Nat}
    (registered : system.registered (processOf thread) = some object)
    (alive : system.alive (processOf thread) = true) (frames : List Frame)
    (state : LocalLockState Thread) (handle : state.handle = (system.objects object).handle)
    {depth : Option Nat} (deep : depth.getD 0 = levels frames)
    (nested : CallsSound object (system.objects object).handle system.osLock frames)
    (users : UsersCounted processOf (processOf thread) state.activeCount
      (Function.update system.frames thread frames))
    (owner : OwnerCounted processOf (processOf thread) state.owner state.count
      (Function.update system.frames thread frames)) :
    ({ (system.setObject object state).setFrames thread frames with
      depths := Function.update system.depths thread depth } : System Process Thread).Sound
      processOf := by
  obtain ⟨known, -, -, handles⟩ := (sound.processes (processOf thread)).object object registered
  have framesOf (other : Thread) (differs : other ≠ thread) :
      Function.update system.frames thread frames other = system.frames other :=
    update_of_ne differs ..
  have only {other : Nat} (has : system.registered (processOf thread) = some other) :
      other = object :=
    some.inj (has.symm.trans registered)
  refine sound.threadStep thread object ?_ alive registered ?_ ?_ ?_ sound.fresh
  · refine ⟨?_, sound.separate_own registered, framesOf,
      fun other differs => update_of_ne differs .., ?_, ?_⟩
    · constructor <;> intros <;> first | rfl | exact Nat.le_refl _ | assumption | skip
      · next other known differs theirs => exact sound.setObject_of_ne registered differs theirs _
      · next other differs => exact framesOf other fun equal => differs (by rw [equal])
      · next other differs =>
        exact update_of_ne (fun equal => differs (by rw [equal])) ..
    · intro other same _ _ has calls
      obtain rfl := only has
      refine ⟨rfl, ?_⟩
      simp only [System.setFrames, setObject, update_self, handle]
      exact calls
    · intro own ⟨mine, apart⟩
      refine ⟨mine, fun same has => ?_⟩
      obtain rfl := only has
      simp only [System.setFrames, setObject, update_self, handle]
      exact apart _ registered
  · intro
    refine .inl ⟨object, registered, ?_⟩
    simp only [System.setFrames, setObject, update_self, handle]
    exact nested
  · simp only [System.setFrames, update_self]
    exact deep
  · refine ⟨known, ?_, ?_, ?_⟩ <;>
      simp only [System.setFrames, setObject, update_self, handle]
    · exact users
    · exact owner
    · exact handles

variable (calling : Calling processOf system thread frame outer)
include calling

theorem Sound.setLevel (phase : Phase) (depth : Option Nat) (count : Nat)
    (others : ∀ other, processOf other = processOf thread → other ≠ thread →
      NetConsole.Locks.levels (system.frames other) = 0)
    (counted : frame.phase.counted = true)
    (fits : phase.Fits (system.objects frame.object).handle system.osLock outer)
    (level : NetConsole.Locks.levels ({ frame with phase := phase } :: outer) = count)
    (deep : depth.getD 0 = count) :
    ({ (system.setObject frame.object
          { system.objects frame.object with
            owner := if count = 0 then none else some thread
            count := count }).setFrames thread ({ frame with phase := phase } :: outer) with
      depths := Function.update system.depths thread depth } : System Process Thread).Sound
      processOf := by
  obtain ⟨-, users, -, -⟩ :=
    (sound.processes (processOf thread)).object frame.object calling.registered
  have counted' : phase.counted = true := by
    cases phase <;> first | rfl | exact fits.elim
  have framesOf (other : Thread) (differs : other ≠ thread) :
      Function.update system.frames thread ({ frame with phase := phase } :: outer) other =
        system.frames other :=
    update_of_ne differs ..
  refine sound.setState calling.registered calling.alive _
    { system.objects frame.object with owner := if count = 0 then none else some thread, count } rfl
    (deep.trans level.symm) (calling.nested fits) ?_ ?_
  · refine users.congr fun other _ => ?_
    by_cases self : other = thread
    · subst self
      rw [update_self, calling.frames, registrations_cons, registrations_cons, counted, counted']
    · rw [framesOf other self]
  · have single : OwnerCounted processOf (processOf thread) _ _
        (Function.update system.frames thread ({ frame with phase := phase } :: outer)) :=
      .single thread rfl fun other same differs => by
        rw [framesOf other differs, others other same differs]
    rw [update_self, level] at single
    exact single

/-- The local lock is taken where it was free, or once more by its owner. -/
theorem Sound.acquireLocal (place : frame.phase = .waiting)
    (possible : (system.objects frame.object).owner = none ∨
      (system.objects frame.object).owner = some thread) :
    (system.acquireLocal thread frame outer).Sound processOf := by
  have here := sound.processes (processOf thread)
  obtain ⟨_, _, owner, _⟩ := here.object frame.object calling.registered
  have counted : frame.phase.counted = true := by rw [place]; rfl
  have unlocked : frame.phase.locked = false := by rw [place]; rfl
  have level : NetConsole.Locks.levels (system.frames thread) = outer.length := by
    rw [calling.levels, if_neg (by simp [unlocked]), Nat.add_zero]
  have depth : (system.depths thread).getD 0 = outer.length := by
    rw [here.depths thread rfl, level]
  have count : (system.objects frame.object).count = outer.length := by
    rcases possible with free | mine
    · have none' : ¬0 < NetConsole.Locks.levels (system.frames thread) := by
        intro holds
        have has := owner.owned thread rfl holds
        rw [free] at has
        cases has
      rw [owner.uncounted free]
      omega
    · rw [(owner.counted thread mine).2.1, level]
  have next := sound.setLevel calling (.opening outer.length) (some (outer.length + 1))
    (outer.length + 1) (owner.others possible) counted rfl
    (by rw [levels_cons, levels_of_inside calling.around]; rfl) rfl
  unfold System.acquireLocal
  simp only [depth, count]
  exact next

/-- The outer `finally` gives one level of the local lock back. -/
theorem Sound.leave (place : frame.phase = .leaving) :
    (system.leave thread frame outer).Sound processOf := by
  have here := sound.processes (processOf thread)
  have counted : frame.phase.counted = true := by rw [place]; rfl
  have locked : frame.phase.locked = true := by rw [place]; rfl
  obtain ⟨owner, count, others⟩ := sound.owner calling locked
  have depth : (system.depths thread).getD 0 = outer.length + 1 := by
    rw [here.depths thread rfl, calling.levels, if_pos locked]
  have next := sound.setLevel calling .unregistering
    (if 0 < outer.length then some outer.length else none) outer.length
    others counted trivial (by rw [levels_cons, levels_of_inside calling.around]; rfl)
    (by
      split
      · rfl
      · simp only [getD_none]
        omega)
  unfold System.leave
  simp only [owner, depth, count]
  exact next

omit calling sound

/-! ## The registry -/

variable (sound : system.Sound processOf)
include sound

/-- The calls around a new one are all in their protected block. -/
theorem Sound.mayEnter (may : MayEnter (system.frames thread)) :
    system.frames thread = [] ∨ ∃ object, system.registered (processOf thread) = some object ∧
      CallsSound object (system.objects object).handle system.osLock (system.frames thread) ∧
      ∀ call ∈ system.frames thread, call.phase.isInside = true := by
  cases calls : system.frames thread with
  | nil => exact .inl rfl
  | cons frame outer =>
    have inside : frame.phase.isInside = true := by
      rw [MayEnter, calls] at may
      exact may frame rfl
    have counted := Phase.counted_of_locked (Phase.locked_of_isInside inside)
    have calling := sound.calling calls counted
    refine .inr ⟨frame.object, calling.registered, ⟨rfl, calling.fits, calling.around,
      calling.outer⟩, fun call mem => ?_⟩
    rcases mem_cons.mp mem with rfl | later
    · exact inside
    · exact calling.around call later

variable (alive : system.alive (processOf thread) = true)
include alive

theorem Sound.enterRegistered (may : MayEnter (system.frames thread)) (timed : Bool) {object : Nat}
    (registered : system.registered (processOf thread) = some object) :
    ((system.setObject object { system.objects object with
        activeCount := (system.objects object).activeCount + 1 }).setFrames thread
      (⟨object, timed, .waiting⟩ :: system.frames thread)).Sound processOf := by
  have here := sound.processes (processOf thread)
  obtain ⟨_, users, owner, _⟩ := here.object object registered
  have nested : CallsSound object (system.objects object).handle system.osLock
      (⟨object, timed, .waiting⟩ :: system.frames thread) := by
    rcases sound.mayEnter may with nothing | ⟨same, registered', nested, inside⟩
    · rw [nothing]
      exact ⟨rfl, trivial, by simp, trivial⟩
    · obtain rfl : same = object := some.inj (registered'.symm.trans registered)
      exact ⟨rfl, trivial, inside, nested⟩
  have framesOf (other : Thread) (differs : other ≠ thread) :
      Function.update system.frames thread (⟨object, timed, .waiting⟩ :: system.frames thread)
        other = system.frames other :=
    update_of_ne differs ..
  have next := sound.setState registered alive (⟨object, timed, .waiting⟩ :: system.frames thread)
    { system.objects object with activeCount := (system.objects object).activeCount + 1 } rfl
    (here.depths thread rfl) nested
    (users.add rfl (by rw [update_self, registrations_cons]; rfl) framesOf)
    (owner.congr fun other _ => by
      by_cases self : other = thread
      · rw [self, update_self]
        rfl
      · rw [framesOf other self])
  rwa [update_eq_self] at next

omit alive in
/-- Without a registered object, the calls of a process only close handles. -/
theorem Sound.unregistered (none' : system.registered (processOf thread) = none) :
    levels (system.frames thread) = 0 ∧ registrations (system.frames thread) = 0 := by
  by_cases calls : system.frames thread = []
  · rw [calls]
    exact ⟨rfl, rfl⟩
  · rcases (sound.processes (processOf thread)).calls thread rfl calls with
      ⟨object, registered, -⟩ | ⟨frame, handle, alone, place, -⟩
    · rw [none'] at registered
      cases registered
    · rw [alone, levels_cons, registrations_cons, place]
      exact ⟨rfl, rfl⟩

theorem Sound.enterNew (may : MayEnter (system.frames thread)) (timed : Bool)
    (none' : system.registered (processOf thread) = none) :
    (({ system.setObject system.nextObject ⟨none, 0, none, 1⟩ with
        registered := Function.update system.registered (processOf thread) (some system.nextObject)
        nextObject := system.nextObject + 1 } : System Process Thread).setFrames thread
      (⟨system.nextObject, timed, .waiting⟩ :: system.frames thread)).Sound processOf := by
  have here := sound.processes (processOf thread)
  have empty : system.frames thread = [] := by
    rcases sound.mayEnter may with nothing | ⟨object, registered, -⟩
    · exact nothing
    · rw [none'] at registered
      cases registered
  have framesOf (other : Thread) (differs : other ≠ thread) : Function.update system.frames thread
        (⟨system.nextObject, timed, .waiting⟩ :: system.frames thread) other =
        system.frames other :=
    update_of_ne differs ..
  have older {other : Process} {object : Nat} (theirs : system.registered other = some object) :
      object ≠ system.nextObject :=
    Nat.ne_of_lt ((sound.processes other).object object theirs).known
  refine sound.threadStep thread system.nextObject ?_ alive (update_self ..) ?_ ?_ ?_ sound.fresh
  · refine ⟨?_, fun other _ theirs => older theirs rfl, framesOf, fun _ _ => rfl, ?_, ?_⟩
    · constructor <;> intros <;> first | rfl | exact Nat.le_succ _ | assumption | skip
      · next other differs => exact update_of_ne differs ..
      · next other object differs theirs => exact update_of_ne (older theirs) ..
      · next other differs => exact framesOf other fun equal => differs (by rw [equal])
    · intro other object same differs registered
      rw [none'] at registered
      cases registered
    · intro own ⟨mine, _⟩
      refine ⟨mine, fun object registered => ?_⟩
      simp only [System.setFrames, setObject, update_self] at registered
      cases registered
      simp [System.setFrames, setObject]
  · intro
    refine .inl ⟨system.nextObject, update_self _ _ _, ?_⟩
    simp only [System.setFrames, update_self, empty]
    exact ⟨rfl, trivial, by simp, trivial⟩
  · simp only [System.setFrames, setObject, update_self]
    rw [here.depths thread rfl]
    rfl
  · refine ⟨Nat.lt_succ_self _, ?_, ?_, ?_⟩ <;>
      simp only [System.setFrames, setObject, update_self]
    · have nobody : UsersCounted processOf (processOf thread) 0 system.frames := by
        refine ⟨[], rfl, fun other => ?_⟩
        split
        · next same => rw [(sound.unregistered (same ▸ none')).2, count_nil]
        · rfl
      refine nobody.add rfl ?_ framesOf
      rw [update_self, registrations_cons]
      rfl
    · have free (other : Thread) (same : processOf other = processOf thread) :
          levels (Function.update system.frames thread
            (⟨system.nextObject, timed, .waiting⟩ :: system.frames thread) other) = 0 := by
        by_cases self : other = thread
        · rw [self, update_self, empty]
          rfl
        · rw [framesOf other self]
          exact (sound.unregistered (same ▸ none')).1
      have single : OwnerCounted processOf (processOf thread) _ _ _ :=
        .single thread rfl fun other same _ => free other same
      rw [free thread rfl] at single
      exact single
    · exact fun own has => by cases has

omit sound

variable (sound : system.Sound processOf)
include sound

theorem Sound.enter (may : MayEnter (system.frames thread)) (timed : Bool) :
    (system.enter (processOf thread) thread timed).Sound processOf := by
  unfold System.enter registerLocalState
  cases registered : system.registered (processOf thread) with
  | some object => exact sound.enterRegistered alive may timed registered
  | none => exact sound.enterNew alive may timed registered

omit alive

theorem Sound.unregisterLast (calling : Calling processOf system thread frame [])
    (level : levels (system.frames thread) = 0)
    (none' : ∀ other, processOf other = processOf thread → other ≠ thread →
      registrations (system.frames other) = 0) :
    (({ system.setObject frame.object
          { system.objects frame.object with activeCount := 0, handle := none } with
        registered := Function.update system.registered (processOf thread) none } :
        System Process Thread).setFrames thread
      (match (system.objects frame.object).handle with
      | none => []
      | some handle => [{ frame with phase := .closing handle }])).Sound processOf := by
  have here := sound.processes (processOf thread)
  have unregistered (object : Nat) (has : Function.update system.registered (processOf thread) none
      (processOf thread) = some object) : False := by
    rw [update_self] at has
    cases has
  obtain ⟨-, -, -, handles⟩ := here.object frame.object calling.registered
  refine sound.step_of (processOf thread) ?_ ?_ ?_ sound.fresh
  · constructor <;> intros <;> first | rfl | exact Nat.le_refl _ | assumption | skip
    · next other differs => exact update_of_ne differs ..
    · next other object differs theirs =>
      exact sound.setObject_of_ne calling.registered differs theirs _
    · next other differs => exact setFrames_of_ne (fun equal => differs (by rw [equal])) _
  · constructor
    · exact fun _ _ _ => calling.alive
    · intro other same calls
      by_cases self : other = thread
      · subst self
        rw [setFrames_self] at calls ⊢
        cases attached : (system.objects frame.object).handle with
        | none =>
          rw [attached] at calls
          exact absurd rfl calls
        | some handle =>
          refine .inr ⟨_, handle, rfl, rfl, (handles handle attached).1, fun object has => ?_⟩
          exact (unregistered object has).elim
      · rw [setFrames_of_ne self] at calls ⊢
        rcases here.calls other same calls with ⟨object, -, nested⟩ |
          ⟨last, own, alone, place, mine, -⟩
        · have empty := nested.registrations_eq
          rw [none' other same self] at empty
          exact absurd (length_eq_zero_iff.mp empty.symm) calls
        · refine .inr ⟨last, own, alone, place, mine, fun object has => ?_⟩
          exact (unregistered object has).elim
    · intro other same
      by_cases self : other = thread
      · subst self
        rw [setFrames_self]
        show (system.depths other).getD 0 = _
        rw [here.depths other rfl, level]
        split <;> rfl
      · rw [setFrames_of_ne self]
        exact here.depths other same
    · intro object has
      exact (unregistered object has).elim
  · exact fun other object _ has => (unregistered object has).elim

/-- The end of a call; the last one takes the object out of the registry. -/
theorem Sound.unregister
    (calling : Calling processOf system thread frame outer) (place : frame.phase = .unregistering) :
    (system.unregister (processOf thread) thread frame outer).Sound processOf := by
  have here := sound.processes (processOf thread)
  obtain ⟨_, users, owner, _⟩ := here.object frame.object calling.registered
  have counted : frame.phase.counted = true := by rw [place]; rfl
  have unlocked : frame.phase.locked = false := by rw [place]; rfl
  have registrations' := calling.registrations counted
  have level : NetConsole.Locks.levels (system.frames thread) = outer.length := by
    rw [calling.levels, if_neg (by simp [unlocked]), Nat.add_zero]
  have framesOf (frames : List Frame) (other : Thread) (differs : other ≠ thread) :
      Function.update system.frames thread frames other = system.frames other :=
    update_of_ne differs ..
  unfold System.unregister unregisterLocalState
  by_cases more : 0 < (system.objects frame.object).activeCount - 1
  · simp only [if_pos more]
    have next := sound.setState calling.registered calling.alive outer
      { system.objects frame.object with
        activeCount := (system.objects frame.object).activeCount - 1 } rfl
      (by rw [here.depths thread rfl, level, levels_of_inside calling.around]) calling.outer
      (users.remove rfl (by rw [registrations', update_self,
        calling.outer.registrations_eq]) (framesOf _))
      (owner.congr fun other _ => by
        by_cases self : other = thread
        · rw [self, update_self, level, levels_of_inside calling.around]
        · rw [framesOf _ other self])
    rwa [update_eq_self] at next
  · simp only [if_neg more, if_pos calling.registered]
    -- Nobody else of the process is registered, so nobody relies on the handle.
    obtain ⟨_, none'⟩ := users.last rfl (by omega) more
    obtain rfl : outer = [] := length_eq_zero_iff.mp (by omega)
    exact sound.unregisterLast calling level none'

/-! ## The whole system -/

/-- A process dies; nothing of it is left. -/
theorem Sound.crash (process : Process) : (system.crash processOf process).Sound processOf := by
  have gone (thread : Thread) (own : processOf thread = process) :
      (system.crash processOf process).frames thread = [] := if_pos own
  have unregistered (object : Nat)
      (has : Function.update system.registered process none process = some object) : False := by
    rw [update_self] at has
    cases has
  refine sound.step_of process ?_ ?_ (fun _ object _ has => (unregistered object has).elim)
    sound.fresh
  · constructor <;> intros <;> first | rfl | exact Nat.le_refl _ | skip
    · next other differs => exact update_of_ne differs ..
    · next other differs => exact update_of_ne differs ..
    · next thread differs => exact if_neg differs
    · next thread differs => exact if_neg differs
    · next other handle differs theirs locked =>
      have kept : belongs process system handle = false :=
        Bool.eq_false_iff.mpr fun mine => differs (belongs_unique theirs mine)
      show system.osLock.filter _ = some handle
      rw [locked, filter_some, if_pos (by simp [kept])]
  · constructor
    · exact fun thread own calls => absurd (gone thread own) calls
    · exact fun thread own calls => absurd (gone thread own) calls
    · intro thread own
      rw [gone thread own, show (system.crash processOf process).depths
        thread = none from if_pos own]
      rfl
    · exact fun object has => (unregistered object has).elim

omit sound

variable {action : Action Process Thread}

theorem Sound.stepFrame (sound : system.Sound processOf)
    (calls : system.frames thread = frame :: outer)
    (taken : system.stepFrame processOf thread frame outer action = some after) :
    after.Sound processOf := by
  have calling (phase : Phase) (place : frame.phase = phase) (counted : phase.counted = true) :
      Calling processOf system thread frame outer :=
    sound.calling calls (place ▸ counted)
  cases action with
  | enter | crash => cases taken
  | acquireLocal =>
    simp only [System.stepFrame, ite_none_right_eq_some, some.injEq] at taken
    obtain ⟨⟨place, possible⟩, rfl⟩ := taken
    exact sound.acquireLocal (calling _ place rfl) place possible
  | localTimesOut =>
    simp only [System.stepFrame, ite_none_right_eq_some, some.injEq] at taken
    obtain ⟨⟨place, -, -⟩, rfl⟩ := taken
    exact sound.move (calling _ place rfl) _ (by rw [place]; rfl) (by rw [place]; rfl) trivial
  | openHandle _ succeeds =>
    simp only [System.stepFrame] at taken
    split at taken
    · next depth place =>
      split at taken <;> cases taken
      · exact sound.openHandle (calling _ place rfl) place
      · exact sound.move (calling _ place rfl) _ (by rw [place]; rfl) (by rw [place]; rfl) trivial
    · cases taken
  | acquireOs =>
    simp only [System.stepFrame] at taken
    split at taken
    · next handle place =>
      simp only [ite_none_right_eq_some, some.injEq] at taken
      obtain ⟨possible, rfl⟩ := taken
      exact sound.acquireOs (calling _ place rfl) place possible
    · cases taken
  | osFails =>
    simp only [System.stepFrame] at taken
    split at taken
    · next handle place =>
      cases taken
      exact sound.move (calling _ place rfl) _ (by rw [place]; rfl) (by rw [place]; rfl) trivial
    · cases taken
  | exitBlock =>
    simp only [System.stepFrame] at taken
    split at taken
    · next handle osLocked place =>
      cases taken
      have fits := (calling _ place rfl).fits
      rw [place] at fits
      obtain ⟨attached, outermost, held⟩ := fits
      refine sound.move (calling _ place rfl) _ (by rw [place]; rfl) ?_ ?_
      · rw [place]
        split <;> rfl
      · split
        · next locked =>
          have alone : outer = [] := List.isEmpty_iff.mp (outermost.symm.trans locked)
          exact ⟨alone, attached, held alone⟩
        · trivial
    · cases taken
  | releaseOs _ succeeds =>
    simp only [System.stepFrame] at taken
    split at taken
    · next handle place =>
      cases taken
      split
      · exact sound.releaseOs (calling _ place rfl) place
      · exact sound.move (calling _ place rfl) _ (by rw [place]; rfl) (by rw [place]; rfl) trivial
    · cases taken
  | leave =>
    simp only [System.stepFrame, ite_none_right_eq_some, some.injEq] at taken
    obtain ⟨place, rfl⟩ := taken
    exact sound.leave (calling _ place rfl) place
  | unregister =>
    simp only [System.stepFrame, ite_none_right_eq_some, some.injEq] at taken
    obtain ⟨place, rfl⟩ := taken
    exact sound.unregister (calling _ place rfl) place
  | closeHandle =>
    simp only [System.stepFrame] at taken
    split at taken
    · next handle place =>
      cases taken
      exact sound.endClosing calls place
    · cases taken

/-- A step begins a call, crashes a process or is one of an innermost call. -/
theorem step_cases (taken : system.step processOf action = some after) :
    (∃ thread timed, action = .enter thread timed ∧ system.alive (processOf thread) = true ∧
      MayEnter (system.frames thread) ∧ after = system.enter (processOf thread) thread timed) ∨
    (∃ process, action = .crash process ∧ after = system.crash processOf process) ∨
    ∃ thread frame outer, action.thread = some thread ∧ system.frames thread = frame :: outer ∧
      system.stepFrame processOf thread frame outer action = some after := by
  unfold System.step at taken
  split at taken
  · next thread timed =>
    simp only [ite_none_right_eq_some, some.injEq] at taken
    obtain ⟨⟨alive, may⟩, rfl⟩ := taken
    exact .inl ⟨thread, timed, rfl, alive, may, rfl⟩
  · next process =>
    cases taken
    exact .inr (.inl ⟨process, rfl, rfl⟩)
  · split at taken
    · cases taken
    · next thread own =>
      split at taken
      · cases taken
      · next frame outer calls => exact .inr (.inr ⟨thread, frame, outer, own, calls, taken⟩)

theorem Sound.step (sound : system.Sound processOf)
    (taken : system.step processOf action = some after) : after.Sound processOf := by
  rcases step_cases taken with ⟨thread, timed, -, alive, may, rfl⟩ | ⟨process, -, rfl⟩ |
    ⟨thread, frame, outer, -, calls, taken⟩
  · exact sound.enter alive may timed
  · exact sound.crash process
  · exact sound.stepFrame calls taken

/-- Where nobody has called, there is nothing to keep. -/
theorem Sound.new : Sound processOf (System.new : System Process Thread) := by
  refine ⟨fun process => ?_, fun one other object has => ?_, fun _ _ => rfl⟩
  · refine ⟨fun thread _ calls => absurd rfl calls, fun thread _ calls => absurd rfl calls,
      fun _ _ => rfl, fun object has => ?_⟩
    cases has
  · cases has

theorem Sound.of_run {actions : List (Action Process Thread)}
    (ran : runFrom (System.step processOf) .new actions = some system) : system.Sound processOf :=
  (GuardedRun.of_runFrom ran).invariant (System.Sound processOf)
    (fun _ _ _ sound _ taken => sound.step taken) Sound.new

end System

end NetConsole.Locks
