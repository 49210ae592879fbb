import Mathlib.Data.List.Sort

/-!
# The greatest values of a stream

A reader that has room for some values puts each value of a stream into its place, and
once the room is full a greater value takes the place of the least one. What it keeps is
the beginning of the stream in descending order (`descending_greatest`). More values leave
it as it is if and only if none of them is greater than the least that is kept
(`greatest_append`, `least_not_mem`).
-/

set_option autoImplicit false

namespace NetConsole.Foundations

open List

variable {α κ : Type} [LinearOrder κ] (key : α → κ)

/-! ## Ascending and descending keys -/

def Ascends (one two : α) : Prop := key one ≤ key two

def Descends (one two : α) : Prop := key two ≤ key one

instance : DecidableRel (Ascends key) :=
    fun one two => inferInstanceAs (Decidable (key one ≤ key two))

instance : DecidableRel (Descends key) :=
    fun one two => inferInstanceAs (Decidable (key two ≤ key one))

instance : Std.Total (Ascends key) := ⟨fun one two => le_total (key one) (key two)⟩

instance : Std.Total (Descends key) := ⟨fun one two => le_total (key two) (key one)⟩

instance : IsTrans α (Ascends key) := ⟨fun _ _ _ first second => le_trans first second⟩

instance : IsTrans α (Descends key) := ⟨fun _ _ _ first second => le_trans second first⟩

/-- Into the room that is left, or in the place of the least value. -/
def keepGreater (count : Nat) (held : List α) (value : α) : List α :=
  if held.length < count then held.orderedInsert (Ascends key) value
  else
    match held with
    | [] => []
    | least :: rest =>
      if key least < key value then rest.orderedInsert (Ascends key) value else least :: rest

/-- What is kept of a stream, the least value first. -/
def greatest (count : Nat) (values : List α) : List α := values.foldl (keepGreater key count) []

/-- The values in descending order. -/
def descending (values : List α) : List α :=
  values.mergeSort fun one two => decide (Descends key one two)

/-! ## One value -/

/-- What is held of the values, and what is not. -/
structure Holds (count : Nat) (values held dropped : List α) : Prop where
  ascending : held.Pairwise (Ascends key)
  all : values.Perm (held ++ dropped)
  below : ∀ lost ∈ dropped, ∀ value ∈ held, key lost ≤ key value
  room : held.length ≤ count
  full : dropped ≠ [] → held.length = count

variable {key} {values held dropped : List α} {count : Nat}

theorem Holds.step (holds : Holds key count values held dropped) (value : α) :
    ∃ dropped', Holds key count (values ++ [value])
      (keepGreater key count held value) dropped' := by
  have all : (values ++ [value]).Perm (value :: (held ++ dropped)) :=
    (perm_append_singleton value values).trans (holds.all.cons value)
  unfold keepGreater
  by_cases room : held.length < count
  · rw [if_pos room]
    have none : dropped = [] := by
      by_contra lost
      exact absurd (holds.full lost) (by omega)
    subst none
    have perm := perm_orderedInsert (Ascends key) value held
    refine ⟨[], holds.ascending.orderedInsert value held, ?_, nofun, ?_,
      fun some => absurd rfl some⟩
    · exact (all.trans (by simpa using perm.symm)).trans (by simp)
    · rw [perm.length_eq]
      exact room
  · rw [if_neg room]
    have length : held.length = count := le_antisymm holds.room (not_lt.mp room)
    cases held with
    | nil =>
      exact ⟨value :: dropped, .nil, all, (fun _ _ _ mem => nomatch mem), holds.room,
        fun _ => length⟩
    | cons least rest =>
      obtain ⟨isLeast, ascends⟩ := pairwise_cons.mp holds.ascending
      dsimp only
      by_cases greater : key least < key value
      · rw [if_pos greater]
        have perm := perm_orderedInsert (Ascends key) value rest
        refine ⟨least :: dropped, ascends.orderedInsert value rest, ?_, ?_, ?_, ?_⟩
        · have moved : (value :: (least :: rest ++ dropped)).Perm
              (value :: rest ++ least :: dropped) :=
            (perm_middle.symm : (least :: (rest ++ dropped)).Perm _).cons value
          exact (all.trans moved).trans (perm.symm.append_right _)
        · intro lost isLost other isHeld
          have low : key lost ≤ key least := by
            rcases mem_cons.mp isLost with rfl | isLost
            · exact le_rfl
            · exact holds.below lost isLost least (by simp)
          rcases mem_cons.mp (perm.mem_iff.mp isHeld) with rfl | isHeld
          · exact low.trans greater.le
          · exact low.trans (isLeast other isHeld)
        · rw [perm.length_eq]
          exact holds.room
        · intro _
          rw [perm.length_eq]
          exact length
      · rw [if_neg greater]
        refine ⟨value :: dropped, holds.ascending, all.trans perm_middle.symm, ?_, holds.room,
          fun _ => length⟩
        intro lost isLost other isHeld
        rcases mem_cons.mp isLost with rfl | isLost
        · refine (not_lt.mp greater).trans ?_
          rcases mem_cons.mp isHeld with rfl | isHeld
          · exact le_rfl
          · exact isLeast other isHeld
        · exact holds.below lost isLost other isHeld

/-! ## A stream -/

theorem Holds.stream (holds : Holds key count values held dropped) (more : List α) :
    ∃ dropped', Holds key count (values ++ more) (more.foldl (keepGreater key count) held)
      dropped' := by
  induction more generalizing values held dropped with
  | nil => exact ⟨dropped, by simpa using holds⟩
  | cons value rest ih =>
    obtain ⟨dropped', next⟩ := holds.step value
    obtain ⟨dropped'', last⟩ := ih next
    exact ⟨dropped'', by simpa using last⟩

theorem holds_greatest (key : α → κ) (count : Nat) (values : List α) :
    ∃ dropped, Holds key count values (greatest key count values) dropped := by
  have start : Holds key count [] [] [] :=
    ⟨.nil, .refl _, nofun, Nat.zero_le _, fun some => absurd rfl some⟩
  obtain ⟨dropped, holds⟩ := start.stream values
  exact ⟨dropped, holds⟩

theorem descending_perm (key : α → κ) (values : List α) : (descending key values).Perm values :=
  mergeSort_perm _ _

theorem eq_of_descending {one two : List α} (distinct : (one.map key).Nodup)
    (perm : one.Perm two) (first : one.Pairwise (Descends key))
    (second : two.Pairwise (Descends key)) : one = two :=
  List.Perm.eq_of_pairwise (fun _ _ mem mem' le le' =>
      inj_on_of_nodup_map distinct mem (perm.mem_iff.mpr mem') (le_antisymm le' le))
    first second perm

theorem Holds.descending_eq (holds : Holds key count values held dropped)
    (distinct : (values.map key).Nodup) :
    descending key values = descending key held ++ descending key dropped := by
  have perm : values.Perm (descending key held ++ descending key dropped) :=
    holds.all.trans ((descending_perm key held).append (descending_perm key dropped)).symm
  refine eq_of_descending (((descending_perm key values).map key).nodup_iff.mpr distinct)
    ((descending_perm key values).trans perm) (pairwise_mergeSort' _ _) ?_
  refine pairwise_append.mpr ⟨pairwise_mergeSort' _ _, pairwise_mergeSort' _ _, ?_⟩
  intro value isHeld lost isLost
  exact holds.below lost ((descending_perm key dropped).mem_iff.mp isLost) value
    ((descending_perm key held).mem_iff.mp isHeld)

/-- What is kept is the beginning of the values in descending order. -/
theorem descending_greatest (count : Nat) {values : List α} (distinct : (values.map key).Nodup) :
    descending key (greatest key count values) = (descending key values).take count := by
  obtain ⟨dropped, holds⟩ := holds_greatest key count values
  have length := (descending_perm key (greatest key count values)).length_eq
  rw [holds.descending_eq distinct]
  by_cases none : dropped = []
  · subst none
    have empty : descending key ([] : List α) = [] := mergeSort_nil
    rw [empty, append_nil, take_of_length_le (length ▸ holds.room)]
  · rw [take_left' (length.trans (holds.full none))]

/-- The last place that is kept: the least value, once the room is full. -/
theorem descending_getElem? (room : 0 < count) {values : List α} (distinct : (values.map key).Nodup)
    : (descending key values)[count - 1]? = if (greatest key count values).length < count then none
      else (greatest key count values).head? := by
  obtain ⟨_, holds⟩ := holds_greatest key count values
  have kept : ((greatest key count values).map key).Nodup := by
    have all := (holds.all.map key).nodup_iff.mp distinct
    rw [map_append] at all
    exact (nodup_append.mp all).1
  have reversed : descending key (greatest key count values) =
      (greatest key count values).reverse :=
    eq_of_descending (((descending_perm key _).map key).nodup_iff.mpr kept)
      ((descending_perm key _).trans (reverse_perm _).symm) (pairwise_mergeSort' _ _)
      (pairwise_reverse.mpr holds.ascending)
  have last : (descending key values)[count - 1]? =
      (greatest key count values).reverse[count - 1]? := by
    rw [← reversed, descending_greatest count distinct, List.getElem?_take_of_lt (by omega)]
  rw [last]
  split
  · next short => exact List.getElem?_eq_none (by rw [length_reverse]; omega)
  · next full =>
    have length : (greatest key count values).length = count :=
      le_antisymm holds.room (not_lt.mp full)
    rw [List.getElem?_reverse (by omega), length, List.head?_eq_getElem?]
    congr 1
    omega

/-! ## More values -/

theorem greatest_append (count : Nat) (values more : List α) : greatest key count (values ++ more) =
      more.foldl (keepGreater key count) (greatest key count values) := by
  rw [greatest, foldl_append]
  rfl

theorem foldl_keepGreater_of_le {least : α} {rest : List α} (full : (least :: rest).length = count)
    {more : List α} (low : ∀ value ∈ more, ¬ key least < key value) :
    more.foldl (keepGreater key count) (least :: rest) = least :: rest := by
  induction more with
  | nil => rfl
  | cons value more ih =>
    have noRoom : ¬ (least :: rest).length < count := by omega
    have same : keepGreater key count (least :: rest) value = least :: rest := by
      rw [keepGreater, if_neg noRoom]
      exact if_neg (low value (by simp))
    rw [foldl_cons, same]
    exact ih fun later mem => low later (by simp [mem])

theorem least_not_mem {values more rest : List α} {least value : α}
    (distinct : ((values ++ more).map key).Nodup)
    (holds : greatest key count values = least :: rest) (full : (least :: rest).length = count)
    (mem : value ∈ more) (greater : key least < key value) :
    least ∉ greatest key count (values ++ more) := by
  obtain ⟨_, before⟩ := holds_greatest key count values
  obtain ⟨lost, after⟩ := holds_greatest key count (values ++ more)
  intro kept
  rw [holds] at before
  obtain ⟨isLeast, -⟩ := pairwise_cons.mp before.ascending
  have inValues : ∀ held ∈ least :: rest, held ∈ values := fun held isHeld =>
    before.all.mem_iff.mpr (mem_append_left _ isHeld)
  have apart := nodup_append.mp (map_append ▸ distinct)
  -- the values that were held and the greater one are held together
  have above : ∀ held ∈ value :: least :: rest, held ∈ greatest key count (values ++ more) := by
    intro held isHeld
    have isValue : held ∈ values ++ more := by
      rcases mem_cons.mp isHeld with rfl | isHeld
      · exact mem_append_right _ mem
      · exact mem_append_left _ (inValues held isHeld)
    rcases mem_append.mp (after.all.mem_iff.mp isValue) with isKept | isLost
    · exact isKept
    · have low := after.below held isLost least kept
      rcases mem_cons.mp isHeld with rfl | isHeld
      · exact absurd low (not_le.mpr greater)
      · rcases mem_cons.mp isHeld with rfl | isHeld
        · exact kept
        · have same : held = least := inj_on_of_nodup_map distinct isValue
            (mem_append_left _ (inValues least (by simp))) (le_antisymm low (isLeast held isHeld))
          exact same ▸ kept
  have nodup : (value :: least :: rest).Nodup := by
    refine nodup_cons.mpr ⟨fun isHeld => ?_, ?_⟩
    · exact apart.2.2 (key value) (mem_map_of_mem (inValues value isHeld)) (key value)
        (mem_map_of_mem mem) rfl
    · exact (nodup_append.mp (before.all.nodup_iff.mp (List.Nodup.of_map key apart.1))).1
  have length := (subperm_of_subset nodup above).length_le
  have room := after.room
  simp only [length_cons] at length full
  omega

end NetConsole.Foundations
