import Mathlib.Data.List.Basic

/-!
# Tables whose rows have owners

A table is a list of rows, with at most one row for a key. A row is put in the place of
the row of its key (`upsertRow`), or inserted when there is none (`insertRow`). Every row
has an owner.

When all rows of a key have one owner, such a change is one of the rows of that owner and
leaves the rows of the others as they are (`ownedRows_upsertRow`, `ownedRows_insertRow`).
-/

set_option autoImplicit false

namespace NetConsole.Foundations

open List

section Rows

variable {ρ κ δ : Type} [DecidableEq κ] [DecidableEq δ] (keyOf : ρ → κ) (ownerOf : ρ → δ)

/-- The row of a key. -/
def rowAt (rows : List ρ) (key : κ) : Option ρ := rows.find? fun row => keyOf row = key

/-- A table has a row for a key. -/
def hasRow (rows : List ρ) (key : κ) : Bool := rows.any fun row => keyOf row = key

/-- A row replaces the row of its key, or is appended. -/
def upsertRow (rows : List ρ) (row : ρ) : List ρ :=
  if hasRow keyOf rows (keyOf row) then
    rows.map fun old => if keyOf old = keyOf row then row else old
  else rows ++ [row]

/-- A row is appended when its key has none. -/
def insertRow (rows : List ρ) (row : ρ) : List ρ :=
  if hasRow keyOf rows (keyOf row) then rows else rows ++ [row]

def ownedRows (rows : List ρ) (owner : δ) : List ρ := rows.filter fun row => ownerOf row = owner

/-- All rows of a key have this owner. -/
def KeyOwned (rows : List ρ) (key : κ) (owner : δ) : Prop :=
  ∀ row ∈ rows, keyOf row = key → ownerOf row = owner

variable {keyOf ownerOf} {rows : List ρ} {member row : ρ}

theorem mem_upsertRow (listed : member ∈ upsertRow keyOf rows row) :
    member = row ∨ member ∈ rows := by
  unfold upsertRow at listed
  split at listed
  · obtain ⟨_, stored, same⟩ := mem_map.mp listed
    split at same
    · exact .inl same.symm
    · exact .inr (same ▸ stored)
  · rcases mem_append.mp listed with stored | added
    · exact .inr stored
    · exact .inl (mem_singleton.mp added)

theorem mem_upsertRow_iff : member ∈ upsertRow keyOf rows row ↔ member = row ∨ member ∈ rows ∧
      keyOf member ≠ keyOf row := by
  unfold upsertRow
  split
  · rename_i there
    obtain ⟨placed, stored, same⟩ := any_eq_true.mp there
    rw [mem_map]
    constructor
    · rintro ⟨old, listed, rfl⟩
      split
      · exact .inl rfl
      · rename_i differ
        exact .inr ⟨listed, differ⟩
    · rintro (rfl | ⟨listed, differ⟩)
      · exact ⟨placed, stored, if_pos (of_decide_eq_true same)⟩
      · exact ⟨member, listed, if_neg differ⟩
  · rename_i absent
    have differ : ∀ old ∈ rows, keyOf old ≠ keyOf row := by
      intro old listed same
      exact absent (any_eq_true.mpr ⟨old, listed, decide_eq_true same⟩)
    rw [mem_append, mem_singleton]
    constructor
    · rintro (listed | rfl)
      · exact .inr ⟨listed, differ member listed⟩
      · exact .inl rfl
    · rintro (rfl | ⟨listed, -⟩)
      · exact .inr rfl
      · exact .inl listed

/-- An upsert keeps the keys apart. -/
theorem nodup_map_upsertRow (row : ρ) (distinct : (rows.map keyOf).Nodup) :
    ((upsertRow keyOf rows row).map keyOf).Nodup := by
  unfold upsertRow
  split
  · have same : (rows.map fun old => if keyOf old = keyOf row then row else old).map keyOf =
        rows.map keyOf := by
      rw [map_map]
      apply map_congr_left
      intro old _
      show keyOf (if keyOf old = keyOf row then row else old) = keyOf old
      split
      · rename_i placed
        exact placed.symm
      · rfl
    rw [same]
    exact distinct
  · rename_i absent
    rw [map_append, nodup_append]
    refine ⟨distinct, pairwise_singleton .., ?_⟩
    intro key listed other added same
    obtain ⟨old, stored, rfl⟩ := mem_map.mp listed
    rw [map_singleton, mem_singleton] at added
    exact absent (any_eq_true.mpr ⟨old, stored, decide_eq_true (same.trans added)⟩)

variable {row : ρ}

theorem rowAt_of_mem (distinct : (rows.map keyOf).Nodup) (mem : row ∈ rows) :
    rowAt keyOf rows (keyOf row) = some row := by
  unfold rowAt
  induction rows with
  | nil => cases mem
  | cons first rows ih =>
    obtain ⟨fresh, rest⟩ := nodup_cons.mp distinct
    rcases mem_cons.mp mem with rfl | later
    · exact List.find?_cons_of_pos (decide_eq_true rfl)
    · have differ : keyOf first ≠ keyOf row := fun same =>
        fresh (mem_map.mpr ⟨row, later, same.symm⟩)
      rw [List.find?_cons_of_neg (by simpa using differ)]
      exact ih rest later

variable {key : κ}

theorem rowAt_map_of_ne (differ : keyOf row ≠ key) (rows : List ρ) :
    rowAt keyOf (rows.map fun old => if keyOf old = keyOf row then row else old) key =
      rowAt keyOf rows key := by
  unfold rowAt
  induction rows with
  | nil => rfl
  | cons first rows ih =>
    rw [map_cons, List.find?_cons, List.find?_cons, ih]
    by_cases placed : keyOf first = keyOf row
    · have other : keyOf first ≠ key := placed ▸ differ
      rw [if_pos placed, decide_eq_false differ, decide_eq_false other]
    · rw [if_neg placed]

theorem rowAt_map_self (there : hasRow keyOf rows (keyOf row) = true) :
    rowAt keyOf (rows.map fun old => if keyOf old = keyOf row then row else old) (keyOf row) =
      some row := by
  unfold rowAt
  unfold hasRow at there
  induction rows with
  | nil => cases there
  | cons first rows ih =>
    rw [map_cons, List.find?_cons]
    by_cases placed : keyOf first = keyOf row
    · rw [if_pos placed, decide_eq_true rfl]
    · rw [if_neg placed, decide_eq_false placed]
      exact ih (by simpa [placed] using there)

theorem rowAt_upsertRow (rows : List ρ) (row : ρ) (key : κ) :
    rowAt keyOf (upsertRow keyOf rows row) key =
      if keyOf row = key then some row else rowAt keyOf rows key := by
  unfold upsertRow
  split
  · rename_i there
    split
    · rename_i same
      subst same
      exact rowAt_map_self there
    · rename_i differ
      exact rowAt_map_of_ne differ rows
  · rename_i absent
    unfold rowAt
    rw [List.find?_append]
    split
    · rename_i same
      subst same
      have none' : rows.find? (fun old => keyOf old = keyOf row) = none := by
        simpa [hasRow] using absent
      simp [none']
    · rename_i differ
      simp [differ]

theorem mem_insertRow (listed : member ∈ insertRow keyOf rows row) :
    member = row ∨ member ∈ rows := by
  unfold insertRow at listed
  split at listed
  · exact .inr listed
  · rcases mem_append.mp listed with stored | added
    · exact .inr stored
    · exact .inl (mem_singleton.mp added)

theorem hasRow_iff : hasRow keyOf rows key = true ↔ key ∈ rows.map keyOf := by
  unfold hasRow
  rw [any_eq_true, mem_map]
  constructor
  · rintro ⟨row, listed, same⟩
    exact ⟨row, listed, of_decide_eq_true same⟩
  · rintro ⟨row, listed, same⟩
    exact ⟨row, listed, decide_eq_true same⟩

/-! ### Inserting rows in turn -/

theorem subset_insertRow (rows : List ρ) (row : ρ) : rows ⊆ insertRow keyOf rows row := by
  intro member listed
  unfold insertRow
  split
  · exact listed
  · exact mem_append_left _ listed

theorem nodup_map_insertRow (row : ρ) (distinct : (rows.map keyOf).Nodup) :
    ((insertRow keyOf rows row).map keyOf).Nodup := by
  unfold insertRow
  split
  · exact distinct
  · rename_i absent
    rw [hasRow_iff] at absent
    rw [map_append, nodup_append]
    refine ⟨distinct, pairwise_singleton .., ?_⟩
    intro key listed other added same
    rw [map_singleton, mem_singleton] at added
    exact absent (added ▸ same ▸ listed)

variable {added rows : List ρ}

theorem mem_foldl_insertRow (listed : member ∈ added.foldl (insertRow keyOf) rows) :
    member ∈ rows ∨ member ∈ added := by
  induction added generalizing rows with
  | nil => exact .inl listed
  | cons row added ih =>
    rcases ih listed with inserted | later
    · rcases mem_insertRow inserted with rfl | stored
      · exact .inr mem_cons_self
      · exact .inl stored
    · exact .inr (mem_cons_of_mem _ later)

theorem nodup_map_foldl_insertRow (added : List ρ) (distinct : (rows.map keyOf).Nodup) :
    ((added.foldl (insertRow keyOf) rows).map keyOf).Nodup := by
  induction added generalizing rows with
  | nil => exact distinct
  | cons row added ih => exact ih (nodup_map_insertRow row distinct)

theorem subset_foldl_insertRow (rows added : List ρ) :
    rows ⊆ added.foldl (insertRow keyOf) rows := by
  induction added generalizing rows with
  | nil => exact List.Subset.refl _
  | cons row added ih => exact List.Subset.trans (subset_insertRow rows row) (ih _)

theorem key_mem_foldl_insertRow (listed : row ∈ added) :
    keyOf row ∈ (added.foldl (insertRow keyOf) rows).map keyOf := by
  induction added generalizing rows with
  | nil => cases listed
  | cons first added ih =>
    rcases mem_cons.mp listed with rfl | later
    · have inserted : keyOf row ∈ (insertRow keyOf rows row).map keyOf := by
        unfold insertRow
        split
        · rename_i there
          exact hasRow_iff.mp there
        · exact mem_map_of_mem (mem_append_right _ mem_cons_self)
      exact map_subset keyOf (subset_foldl_insertRow _ added) inserted
    · exact ih later

variable {owner : δ}

theorem rowAt_ownedRows (owned : KeyOwned keyOf ownerOf rows key owner) :
    rowAt keyOf (ownedRows ownerOf rows owner) key = rowAt keyOf rows key := by
  unfold rowAt ownedRows
  induction rows with
  | nil => rfl
  | cons row rest ih =>
    have others := ih fun other mem => owned other (mem_cons_of_mem row mem)
    by_cases found : keyOf row = key
    · have mine : ownerOf row = owner := owned row mem_cons_self found
      simp [mine, found]
    · by_cases mine : ownerOf row = owner
      · simp [mine, found, others]
      · simp [mine, found, others]

theorem isSome_rowAt (rows : List ρ) (key : κ) :
    (rowAt keyOf rows key).isSome = hasRow keyOf rows key := by
  rw [Bool.eq_iff_iff]
  simp [rowAt, hasRow]

theorem hasRow_ownedRows (owned : KeyOwned keyOf ownerOf rows key owner) :
    hasRow keyOf (ownedRows ownerOf rows owner) key = hasRow keyOf rows key := by
  rw [← isSome_rowAt, ← isSome_rowAt, rowAt_ownedRows owned]

variable (owned : KeyOwned keyOf ownerOf rows (keyOf row) (ownerOf row))
include owned

theorem ownedRows_upsertRow : ownedRows ownerOf (upsertRow keyOf rows row) owner =
      if ownerOf row = owner then upsertRow keyOf (ownedRows ownerOf rows owner) row
      else ownedRows ownerOf rows owner := by
  by_cases mine : ownerOf row = owner
  · subst mine
    rw [if_pos rfl]
    unfold upsertRow
    rw [hasRow_ownedRows owned]
    split
    · unfold ownedRows
      rw [filter_map]
      congr 1
      apply filter_congr
      intro old mem
      by_cases same : keyOf old = keyOf row
      · simp [same, owned old mem same]
      · simp [same]
    · simp [ownedRows]
  · rw [if_neg mine]
    unfold upsertRow
    split
    · unfold ownedRows
      rw [filter_map]
      have passed : rows.filter ((fun old => decide (ownerOf old = owner)) ∘
          fun old => if keyOf old = keyOf row then row else old) =
          rows.filter fun old => decide (ownerOf old = owner) := by
        apply filter_congr
        intro old mem
        by_cases same : keyOf old = keyOf row
        · simp [same, owned old mem same]
        · simp [same]
      rw [passed]
      have unchanged : ∀ old ∈ rows.filter fun old => decide (ownerOf old = owner),
          (if keyOf old = keyOf row then row else old) = old := by
        intro old mem
        obtain ⟨stored, theirs⟩ := mem_filter.mp mem
        apply if_neg
        intro same
        exact mine ((owned old stored same).symm.trans (of_decide_eq_true theirs))
      rw [map_congr_left unchanged, map_id']
    · simp [ownedRows, mine]

theorem ownedRows_insertRow : ownedRows ownerOf (insertRow keyOf rows row) owner =
      if ownerOf row = owner then insertRow keyOf (ownedRows ownerOf rows owner) row
      else ownedRows ownerOf rows owner := by
  by_cases mine : ownerOf row = owner
  · subst mine
    rw [if_pos rfl]
    unfold insertRow
    rw [hasRow_ownedRows owned]
    split
    · rfl
    · simp [ownedRows]
  · rw [if_neg mine]
    unfold insertRow
    split
    · rfl
    · simp [ownedRows, mine]

omit owned

theorem ownedRows_remove (rows : List ρ) (removed owner : δ) :
    ownedRows ownerOf (rows.filter fun row => ownerOf row ≠ removed) owner =
      if removed = owner then [] else ownedRows ownerOf rows owner := by
  unfold ownedRows
  rw [filter_filter]
  split
  · next same =>
    rw [filter_eq_nil_iff]
    intro row _
    simp [same]
  · next other =>
    apply filter_congr
    intro row _
    by_cases mine : ownerOf row = owner
    · have kept : owner ≠ removed := fun same => other same.symm
      simp [mine, kept]
    · simp [mine]

end Rows

end NetConsole.Foundations
