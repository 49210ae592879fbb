import NetConsole.Foundations.Interruptible

/-!
# Directory trees moved by interruptible procedures

A directory tree is the list of its files. A procedure sees a tree through a
`Slot`: a component of the durable state that holds a directory or nothing.

Renaming a directory is one action. Copying a tree creates the directory, then
every file, then writes its bytes one after another, and removing a tree
unlinks one file after another, so both can stop anywhere in between. The
specifications start from one exact state: they say that nothing but the slot
has changed, and, for a copy that returns, that it is complete
(`copyTree_spec`, `removeTree_spec`, `removeTreeIgnoring_spec`,
`renameSlot_spec`).
-/

set_option autoImplicit false

namespace NetConsole.Foundations

open List Option

/-- The files of a directory: the path below the directory and the content. -/
abbrev FileTree (β : Type) : Type := List (String × β)

section Trees

variable {β : Type}

/-- The content of a file of the tree. -/
def FileTree.file (tree : FileTree β) (path : String) : Option β := tree.lookup path

/-- Write a whole file, in the place of the file of that path when there is one. -/
def FileTree.write (tree : FileTree β) (path : String) (content : β) : FileTree β :=
  tree.filter (fun entry => entry.1 ≠ path) ++ [(path, content)]

def FileTree.remove (tree : FileTree β) (path : String) : FileTree β :=
  tree.filter fun entry => entry.1 ≠ path

/-- Rename a file over the file of the new path. -/
def FileTree.rename (tree : FileTree β) (path newPath : String) : FileTree β :=
  match tree.file path with
  | none => tree
  | some content => (tree.remove path).write newPath content

/-- What a directory holds after all the changes. -/
def FileTree.after (steps : List (FileTree β → FileTree β)) (tree : FileTree β) : FileTree β :=
  steps.foldl (fun tree step => step tree) tree

theorem FileTree.file_write_of_ne (tree : FileTree β) {path other : String} (content : β)
    (different : other ≠ path) : (tree.write path content).file other = tree.file other := by
  unfold FileTree.file FileTree.write
  rw [lookup_append]
  have absent : List.lookup other [(path, content)] = none := by simp [different]
  rw [absent, or_none]
  induction tree with
  | nil => rfl
  | cons entry rest ih =>
    obtain ⟨key, _⟩ := entry
    by_cases same : key = path
    · subst same
      have passed : (other == key) = false := by simpa using different
      rw [filter_cons_of_neg (by simp), lookup_cons, passed]
      exact ih
    · simp only [ne_eq, same, not_false_eq_true, decide_true, filter_cons_of_pos, lookup_cons, ih]

end Trees

/-- Append one byte to the last file of a listing. -/
def FileTree.appendByte : FileTree (List UInt8) → UInt8 → FileTree (List UInt8)
  | [], _ => []
  | [(path, bytes)], byte => [(path, bytes ++ [byte])]
  | entry :: next :: rest, byte => entry :: FileTree.appendByte (next :: rest) byte

theorem FileTree.appendByte_append (front : FileTree (List UInt8))
    (path : String) (bytes : List UInt8) (byte : UInt8) :
    FileTree.appendByte (front ++ [(path, bytes)]) byte = front ++ [(path, bytes ++ [byte])] := by
  induction front with
  | nil => rfl
  | cons entry front ih =>
    cases front with
    | nil => rfl
    | cons next front =>
      show entry :: FileTree.appendByte (next :: front ++ [(path, bytes)]) byte = _
      rw [ih]
      rfl

/-- A place of the durable state that holds a directory or nothing. -/
structure Slot (σ β : Type) where
  get : σ → Option (FileTree β)
  set : Option (FileTree β) → σ → σ
  get_set : ∀ value s, get (set value s) = value
  set_get : ∀ s, set (get s) s = s
  set_set : ∀ first second s, set second (set first s) = set second s

namespace Slot

variable {σ β : Type} (slot : Slot σ β)

/-- Change the directory in the slot, when there is one. -/
def modify (change : FileTree β → FileTree β) (s : σ) : σ := slot.set ((slot.get s).map change) s

theorem modify_set (change : FileTree β → FileTree β) (tree : FileTree β) (s : σ) :
    slot.modify change (slot.set (some tree) s) = slot.set (some (change tree)) s := by
  simp only [modify, slot.get_set, map_some, slot.set_set]

end Slot

/-! ## The procedures -/

section Procedures

variable {σ ε β : Type} (failure : ε)

/-- Rename the directory of one slot into another; refused when there is none
or when the destination exists. -/
def renameSlot (source destination : Slot σ β) : Proc σ ε Unit :=
  Proc.act failure fun s =>
    match source.get s, destination.get s with
    | some tree, none => .ok (destination.set (some tree) (source.set none s))
    | _, _ => .error failure

/-- Write the bytes of the file opened last. -/
def copyBytes (destination : Slot σ (List UInt8)) : List UInt8 → Proc σ ε Unit
  | [] => pure ()
  | byte :: rest => do
    Proc.act failure fun s => .ok (destination.modify (fun tree => FileTree.appendByte tree byte) s)
    copyBytes destination rest

/-- Copy one file, past a failure; tells whether it is copied. -/
def copyFile (destination : Slot σ (List UInt8)) (path : String) (bytes : List UInt8) :
    Proc σ ε Bool :=
  Proc.tryExcept (do
      Proc.act failure fun s => .ok (destination.modify (fun tree => tree ++ [(path, [])]) s)
      copyBytes failure destination bytes
      pure true)
    fun _ => pure false

/-- Copy the files of a listing one after another; tells whether all are copied. -/
def copyFiles (destination : Slot σ (List UInt8)) : FileTree (List UInt8) → Proc σ ε Bool
  | [] => pure true
  | (path, bytes) :: rest => do
    let copied ← copyFile failure destination path bytes
    let others ← copyFiles destination rest
    pure (copied && others)

/-- Copy a directory: make the new one, copy every file that can be copied, and
raise at the end when one is missing. -/
def copyTree (source destination : Slot σ (List UInt8)) : Proc σ ε Unit := do
  let s ← Proc.look
  match source.get s with
  | none => Proc.raise failure
  | some tree => do
    Proc.act failure fun s =>
      if (destination.get s).isSome then .error failure else .ok (destination.set (some []) s)
    let copied ← copyFiles failure destination tree
    if copied then pure () else Proc.raise failure

/-- Change the directory in the slot by one action after another. -/
def applySteps (slot : Slot σ β) : List (FileTree β → FileTree β) → Proc σ ε Unit
  | [] => pure ()
  | step :: rest => do
    Proc.act failure fun s => .ok (slot.modify step s)
    applySteps slot rest

/-- Try to remove a directory by `remove` up to so many times; tells whether it
is gone. -/
def removeTreeAttempts (slot : Slot σ β) (remove : Proc σ ε Unit) : Nat → Proc σ ε Bool
  | 0 => pure false
  | attempts + 1 => do
    let s ← Proc.look
    if (slot.get s).isNone then
      pure true
    else do
      remove
      let s ← Proc.look
      if (slot.get s).isNone then pure true else removeTreeAttempts slot remove attempts

variable [DecidableEq β]

/-- Unlink the files of a listing one after another. -/
def unlinkFiles (slot : Slot σ β) : FileTree β → Proc σ ε Unit
  | [] => pure ()
  | entry :: rest => do
    Proc.act failure fun s => .ok (slot.modify (fun tree => tree.erase entry) s)
    unlinkFiles slot rest

/-- Remove a directory; the first file that cannot be removed ends it. -/
def removeTree (slot : Slot σ β) : Proc σ ε Unit := do
  let s ← Proc.look
  match slot.get s with
  | none => Proc.raise failure
  | some tree => do
    unlinkFiles failure slot tree
    Proc.act failure fun s => .ok (slot.set none s)

/-- Unlink files one after another and pass over those that stay. -/
def unlinkFilesIgnoring (slot : Slot σ β) : FileTree β → Proc σ ε Unit
  | [] => pure ()
  | entry :: rest => do
    Proc.tryExcept (Proc.act failure fun s => .ok (slot.modify (fun tree => tree.erase entry) s))
      fun _ => pure ()
    unlinkFilesIgnoring slot rest

/-- Remove a directory as far as possible; it stays while a file in it stays. -/
def removeTreeIgnoring (slot : Slot σ β) : Proc σ ε Unit := do
  let s ← Proc.look
  match slot.get s with
  | none => pure ()
  | some tree => do
    unlinkFilesIgnoring failure slot tree
    Proc.tryExcept (Proc.act failure fun s =>
        if slot.get s = some [] then .ok (slot.set none s) else .error failure)
      fun _ => pure ()

end Procedures

/-! ## Their specifications, from one exact state -/

section Specifications

variable {σ ε β : Type} {failure : ε}

/-- The slot holds some directory and nothing else has changed. -/
def Slot.Partial (slot : Slot σ β) (s₀ s : σ) : Prop := ∃ tree, s = slot.set (some tree) s₀

theorem renameSlot_spec (source destination : Slot σ β) (s₀ : σ) :
    Triple (· = s₀) (renameSlot failure source destination)
      (fun _ s => ∃ tree, source.get s₀ = some tree ∧ destination.get s₀ = none ∧
        s = destination.set (some tree) (source.set none s₀))
      (fun _ s => s = s₀) (· = s₀) := by
  refine .act ?_ ?_ (fun _ same => same) (fun _ same => same)
  · rintro s rfl s' happened
    split at happened
    · next tree held free =>
      exact ⟨tree, held, free, (Except.ok.inj happened).symm⟩
    · cases happened
  · rintro s rfl e _
    rfl

theorem copyBytes_spec (destination : Slot σ (List UInt8)) (s₀ : σ)
    (front : FileTree (List UInt8)) (path : String) :
    ∀ written remaining : List UInt8,
      Ends (fun s => s = destination.set (some (front ++ [(path, written)])) s₀)
        (copyBytes failure destination remaining)
        (fun _ s => s = destination.set (some (front ++ [(path, written ++ remaining)])) s₀)
        (destination.Partial s₀)
  | written, [] => .pure _ (by simp)
  | written, byte :: rest => by
    refine .bind (fun _ s => s = destination.set (some (front ++ [(path, written ++ [byte])])) s₀)
      (.act_ok ?_ ?_ ?_) fun _ => ?_
    · rintro s rfl
      rw [destination.modify_set, FileTree.appendByte_append]
    · rintro s rfl
      exact ⟨_, rfl⟩
    · rintro s rfl
      exact ⟨_, rfl⟩
    · simpa using copyBytes_spec destination s₀ front path (written ++ [byte]) rest

theorem copyFile_spec (destination : Slot σ (List UInt8)) (s₀ : σ)
    (front : FileTree (List UInt8)) (path : String) (bytes : List UInt8) :
    Ends (fun s => s = destination.set (some front) s₀) (copyFile failure destination path bytes)
      (fun copied s => destination.Partial s₀ s ∧
        (copied = true → s = destination.set (some (front ++ [(path, bytes)])) s₀))
      (destination.Partial s₀) := by
  refine .tryExcept (fun _ => destination.Partial s₀)
    (.bind (fun _ s => s = destination.set (some (front ++ [(path, [])])) s₀)
      (.act_ok ?_ ?_ ?_) fun _ =>
        .bind (fun _ s => s = destination.set (some (front ++ [(path, bytes)])) s₀)
          (by simpa using copyBytes_spec destination s₀ front path [] bytes) fun _ => ?_)
    fun _ => .pure _ fun _ part => ⟨part, fun none => nomatch none⟩
  · rintro s rfl
    rw [destination.modify_set]
  · rintro s rfl
    exact ⟨_, rfl⟩
  · rintro s rfl
    exact ⟨_, rfl⟩
  · exact .pure _ fun _ written => ⟨⟨_, written⟩, fun _ => written⟩

theorem copyFiles_spec (destination : Slot σ (List UInt8)) (s₀ : σ) :
    ∀ front remaining : FileTree (List UInt8), Ends (fun s => s = destination.set (some front) s₀)
        (copyFiles failure destination remaining)
        (fun copied s => destination.Partial s₀ s ∧
          (copied = true → s = destination.set (some (front ++ remaining)) s₀))
        (destination.Partial s₀)
  | front, [] => .pure _ fun _ same => ⟨⟨front, same⟩, fun _ => by simpa using same⟩
  | front, (path, bytes) :: rest => by
    refine .bind _ (copyFile_spec destination s₀ front path bytes) fun copied => ?_
    refine .of_exact fun s₁ ⟨⟨tree, left⟩, whole⟩ => ?_
    cases copied with
    | true =>
      refine .bind _ ((copyFiles_spec destination s₀ (front ++ [(path, bytes)]) rest).from_exact
        (whole rfl)) fun others => .pure _ fun s reached => ⟨reached.1, fun all => ?_⟩
      simpa using reached.2 all
    | false =>
      -- the file that is missing stays missing
      exact .bind _ ((copyFiles_spec destination s₀ tree rest).from_exact left) fun others =>
        .pure _ fun s reached => ⟨reached.1, fun all => nomatch all⟩

/-- A copy that returns is complete; one that does not has written a part of
the destination and nothing else. -/
theorem copyTree_spec (source destination : Slot σ (List UInt8)) (s₀ : σ) :
    Triple (· = s₀) (copyTree failure source destination)
      (fun _ s => ∃ tree, source.get s₀ = some tree ∧ destination.get s₀ = none ∧
        s = destination.set (some tree) s₀)
      (fun _ s => s = s₀ ∨ destination.Partial s₀ s)
      (fun s => s = s₀ ∨ destination.Partial s₀ s) := by
  refine .bind (fun seen s => seen = s₀ ∧ s = s₀) (.look fun s same => ⟨same, same⟩) fun seen => ?_
  cases held : source.get seen with
  | none => exact .raise _ fun _ both => Or.inl both.2
  | some tree =>
    refine .bind (fun _ s => seen = s₀ ∧ destination.get s₀ = none ∧
        s = destination.set (some []) s₀) (.act ?_ ?_ ?_ ?_) fun _ => ?_
    · rintro s ⟨rfl, rfl⟩ s' happened
      split at happened
      · cases happened
      · next free =>
        exact ⟨rfl, by simpa using free, (Except.ok.inj happened).symm⟩
    · rintro s ⟨_, same⟩ e _
      exact Or.inl same
    · exact fun s both => Or.inl both.2
    · exact fun s both => Or.inl both.2
    · refine .of_exact fun s₁ reached => ?_
      obtain ⟨rfl, free, rfl⟩ := reached
      refine .bind _ ((copyFiles_spec destination seen [] tree).weaken (fun _ same => same)
        (fun _ _ reached => reached) (fun _ _ part => Or.inr part) fun _ part => Or.inr part)
        fun copied => ?_
      cases copied with
      | true => exact .pure _ fun s reached => ⟨tree, held, free, by simpa using reached.2 rfl⟩
      | false => exact .raise _ fun s reached => Or.inr reached.1

/-- The changes are made one after another: all of them when the procedure
returns, a first part of them when it does not. -/
theorem applySteps_spec (slot : Slot σ β) (s₀ : σ) :
    ∀ (steps : List (FileTree β → FileTree β)) (tree : FileTree β),
      Triple (fun s => s = slot.set (some tree) s₀) (applySteps failure slot steps)
        (fun _ s => s = slot.set (some (FileTree.after steps tree)) s₀)
        (fun _ s => ∃ count, s = slot.set (some (FileTree.after (steps.take count) tree)) s₀)
        (fun s => ∃ count, s = slot.set (some (FileTree.after (steps.take count) tree)) s₀)
  | [], tree => .pure _ fun _ same => same
  | step :: rest, tree => by
    refine .bind (fun _ s => s = slot.set (some (step tree)) s₀) (.act_ok ?_ ?_ ?_) fun _ =>
      (applySteps_spec slot s₀ rest (step tree)).weaken (fun _ same => same)
        (fun _ _ same => same) ?_ ?_
    · rintro s rfl
      rw [slot.modify_set]
    · exact fun s same => ⟨0, same⟩
    · exact fun s same => ⟨0, same⟩
    · rintro e s ⟨count, reached⟩
      exact ⟨count + 1, reached⟩
    · rintro s ⟨count, reached⟩
      exact ⟨count + 1, reached⟩

theorem removeTreeAttempts_spec (slot : Slot σ β) (s₀ : σ) {remove : Proc σ ε Unit}
    {raises : ε → σ → Prop}
    (removes : ∀ s₁, Triple (· = s₁) remove (fun _ s => ∃ rest, s = slot.set rest s₁)
      raises (fun s => ∃ rest, s = slot.set rest s₁)) :
    ∀ (attempts : Nat) (s₁ : σ), (∃ rest, s₁ = slot.set rest s₀) →
      Triple (· = s₁) (removeTreeAttempts slot remove attempts)
        (fun gone s => ∃ rest, s = slot.set rest s₀ ∧ (gone = true → rest = none)) raises
        (fun s => ∃ rest, s = slot.set rest s₀)
  | 0, s₁, ⟨rest, only⟩ =>
    .pure _ fun s same => ⟨rest, same.trans only, fun never => by simp at never⟩
  | attempts + 1, s₁, ⟨rest, only⟩ => by
    refine .look_bind fun s same => ?_
    subst same
    have value : slot.get s = rest := by rw [only, slot.get_set]
    split
    · next gone =>
      exact .pure_exact _ ⟨rest, only, fun _ => by simpa [value] using gone⟩
    · refine .bind (fun _ s' => ∃ rest, s' = slot.set rest s)
        ((removes s).weaken (fun _ same => same) (fun _ _ left => left) (fun _ _ e => e) ?_)
        fun _ => .look_bind fun s' left => ?_
      · rintro s' ⟨rest', rfl⟩
        exact ⟨rest', by rw [only, slot.set_set]⟩
      · obtain ⟨rest', rfl⟩ := left
        have only' : slot.set rest' s = slot.set rest' s₀ := by rw [only, slot.set_set]
        split
        · next gone =>
          exact .pure_exact _ ⟨rest', only', fun _ => by simpa [slot.get_set] using gone⟩
        · exact removeTreeAttempts_spec slot s₀ removes attempts _ ⟨rest', only'⟩

theorem renameSlot_assured (source destination : Slot σ β) (s₀ : σ) {tree : FileTree β}
    (held : source.get s₀ = some tree) (free : destination.get s₀ = none) :
    Assured (· = s₀) (renameSlot failure source destination)
      (fun _ s => s = destination.set (some tree) (source.set none s₀))
      (fun _ s => s = s₀) (· = s₀) := by
  refine .act ?_ (fun _ same => same) fun _ same => same
  rintro s rfl
  exact ⟨_, by simp only [held, free], rfl⟩

variable [DecidableEq β]

theorem unlinkFiles_spec (slot : Slot σ β) (s₀ : σ) : ∀ listing : FileTree β,
      EndsAssured (slot.Partial s₀) (unlinkFiles failure slot listing)
        (fun _ => slot.Partial s₀) (slot.Partial s₀)
  | [] => .pure _ fun _ part => part
  | entry :: rest => by
    refine .bind (fun _ => slot.Partial s₀) (.act_ok ?_ (fun _ part => part) fun _ part => part)
      fun _ => unlinkFiles_spec slot s₀ rest
    · rintro s ⟨_, rfl⟩
      exact ⟨_, slot.modify_set _ _ _⟩

/-- A removal that returns has removed the directory; one that does not has
left a directory there. Nothing else has changed. -/
theorem removeTree_spec (slot : Slot σ β) (s₀ : σ) :
    EndsAssured (fun s => s = s₀ ∧ (slot.get s₀).isSome) (removeTree failure slot)
      (fun _ s => s = slot.set none s₀) (slot.Partial s₀) := by
  apply Assured.look_bind
  rintro s ⟨rfl, held⟩
  obtain ⟨tree, present⟩ := isSome_iff_exists.mp held
  rw [present]
  refine .bind (fun _ => slot.Partial s) ((unlinkFiles_spec slot s tree).strengthen ?_)
    fun _ => .act_ok ?_ (fun _ part => part) fun _ part => part
  · rintro s' rfl
    exact ⟨tree, by rw [← present, slot.set_get]⟩
  · rintro s' ⟨_, rfl⟩
    rw [slot.set_set]

theorem unlinkFilesIgnoring_spec (slot : Slot σ β) (s₀ : σ) (raises : ε → σ → Prop) :
    ∀ listing : FileTree β, Triple (slot.Partial s₀) (unlinkFilesIgnoring failure slot listing)
        (fun _ => slot.Partial s₀) raises (slot.Partial s₀)
  | [] => .pure _ fun _ part => part
  | entry :: rest => by
    refine .bind (fun _ => slot.Partial s₀) (.tryExcept (fun _ => slot.Partial s₀)
        (.act_ok ?_ (fun _ part => part) fun _ part => part) fun _ =>
          .pure _ fun _ part => part)
      fun _ => unlinkFilesIgnoring_spec slot s₀ raises rest
    · rintro s ⟨_, rfl⟩
      exact ⟨_, slot.modify_set _ _ _⟩

/-- Nothing but the slot has changed; the directory may be gone or still hold
files. No exception comes out. -/
theorem removeTreeIgnoring_spec (slot : Slot σ β) (s₀ : σ) (raises : ε → σ → Prop) :
    Triple (· = s₀) (removeTreeIgnoring failure slot)
      (fun _ s => ∃ rest, s = slot.set rest s₀) raises (fun s => ∃ rest, s = slot.set rest s₀) := by
  refine .bind (fun seen s => seen = s₀ ∧ s = s₀) (.look fun s same => ⟨same, same⟩) fun seen => ?_
  cases present : slot.get seen with
  | none =>
    refine .pure _ ?_
    rintro s ⟨rfl, rfl⟩
    exact ⟨slot.get s, (slot.set_get s).symm⟩
  | some tree =>
    refine .bind (fun _ => slot.Partial s₀) ?_ fun _ =>
      .tryExcept (fun _ => slot.Partial s₀) (.act ?_ ?_ ?_ ?_) fun _ =>
        .pure _ (by
          rintro s ⟨rest, left⟩
          exact ⟨some rest, left⟩)
    · refine (unlinkFilesIgnoring_spec slot s₀ raises tree).weaken ?_ (fun _ _ part => part)
        (fun _ _ e => e) ?_
      · rintro s ⟨rfl, rfl⟩
        exact ⟨tree, by rw [← present, slot.set_get]⟩
      · rintro s ⟨rest, left⟩
        exact ⟨some rest, left⟩
    · rintro s ⟨rest, rfl⟩ s' happened
      split at happened
      · exact ⟨none, by rw [← Except.ok.inj happened, slot.set_set]⟩
      · cases happened
    · exact fun _ part _ _ => part
    · exact fun _ part => part
    · rintro s ⟨rest, left⟩
      exact ⟨some rest, left⟩

/-! ## Predicates that do not mention the slot -/

variable {holds : σ → Prop}

omit [DecidableEq β] in
/-- Every change of the directory keeps the predicate. -/
theorem applySteps_keeps (slot : Slot σ β) (steps : List (FileTree β → FileTree β))
    (kept : ∀ step ∈ steps, ∀ s, holds s → holds (slot.modify step s)) :
    Keeps holds (applySteps failure slot steps) := by
  induction steps with
  | nil => exact .pure _
  | cons step rest ih =>
    apply Keeps.bind
    · exact .act (kept step (mem_cons_self ..))
    · exact fun _ => ih fun other mem => kept other (mem_cons_of_mem _ mem)

theorem unlinkFiles_keeps (slot : Slot σ β)
    (free : ∀ rest s, holds s → holds (slot.set rest s)) (listing : FileTree β) :
    Keeps holds (unlinkFiles failure slot listing) := by
  induction listing with
  | nil => exact .pure _
  | cons entry rest ih =>
    exact .bind (.act fun s entry => free _ s entry) fun _ => ih

theorem removeTree_keeps (slot : Slot σ β) (free : ∀ rest s, holds s → holds (slot.set rest s)) :
    Keeps holds (removeTree failure slot) := by
  apply Keeps.look_bind
  intro s₀ _
  cases slot.get s₀ with
  | none => exact .raise _
  | some tree =>
    exact .bind (unlinkFiles_keeps slot free tree) fun _ => .act fun s entry => free none s entry

/-! ## Without faults -/

end Specifications

end NetConsole.Foundations
