import NetConsole.Foundations.OwnedRows

/-!
# Counters that are written behind

Entries are counted up in memory under a key and written to rows of a table
later: a touched key is dirty until a flush has written its entry. An entry that
is not in memory yet is loaded from its row, and a flush that fails in the middle
leaves every key dirty, also those that it has written.

What is counted is the value of an entry, as a function of the events that touch
its key. In memory every event counts once (`Behind.memory`), the row of a key has
counted the events up to some time (`Behind.behind`), and the row of a key that is
not dirty has counted all of them (`Behind.clean`).
-/

set_option autoImplicit false

namespace NetConsole.Foundations

open List

variable {Key Entry Row Event Value : Type} [DecidableEq Key] {keyOf : Row → Key}

/-- Entries in memory, the keys not yet written, and the rows. -/
structure WriteBehind (Key Entry Row : Type) where
  entries : Key → Option Entry
  dirty : List Key
  rows : List Row

/-- How one write of a row ends. A write that raises may have reached the table. -/
inductive WriteOutcome
  | written
  | raised (landed : Bool)

namespace WriteBehind

/-! ## Touching keys -/

/-- The entry of a key: in memory, or loaded from its row. -/
def current (keyOf : Row → Key) (load : Option Row → Entry) (cache : WriteBehind Key Entry Row)
    (key : Key) : Entry :=
  (cache.entries key).getD (load (rowAt keyOf cache.rows key))

/-- An entry is loaded, where it is not yet, and changed. -/
def touch (keyOf : Row → Key) (load : Option Row → Entry) (change : Entry → Entry)
    (cache : WriteBehind Key Entry Row) (key : Key) : WriteBehind Key Entry Row :=
  { cache with
    entries := Function.update cache.entries key (some (change (cache.current keyOf load key)))
    dirty := if key ∈ cache.dirty then cache.dirty else cache.dirty ++ [key] }

def touchAll (keyOf : Row → Key) (load : Option Row → Entry) (change : Entry → Entry)
    (keys : List Key) (cache : WriteBehind Key Entry Row) : WriteBehind Key Entry Row :=
  keys.foldl (touch keyOf load change) cache

variable {load : Option Row → Entry} {change : Entry → Entry} {cache : WriteBehind Key Entry Row}
  {key : Key}

theorem mem_dirty_touch {touched : Key} :
    key ∈ (cache.touch keyOf load change touched).dirty ↔ key ∈ cache.dirty ∨ key = touched := by
  unfold touch
  split
  · constructor
    · exact Or.inl
    · rintro (there | rfl)
      · exact there
      · assumption
  · rw [mem_append, mem_singleton]

variable {keys : List Key}

theorem mem_dirty_touchAll :
    key ∈ (cache.touchAll keyOf load change keys).dirty ↔ key ∈ cache.dirty ∨ key ∈ keys := by
  induction keys generalizing cache with
  | nil => simp [touchAll]
  | cons touched keys ih =>
    rw [touchAll, foldl_cons, ← touchAll, ih, mem_dirty_touch, mem_cons, or_assoc]

theorem rows_touchAll (keys : List Key) (cache : WriteBehind Key Entry Row) :
    (cache.touchAll keyOf load change keys).rows = cache.rows := by
  induction keys generalizing cache with
  | nil => rfl
  | cons touched keys ih => exact ih _

theorem entries_touchAll_of_not_mem (outside : key ∉ keys) :
    (cache.touchAll keyOf load change keys).entries key = cache.entries key := by
  induction keys generalizing cache with
  | nil => rfl
  | cons touched keys ih =>
    rw [mem_cons, not_or] at outside
    obtain ⟨differ, rest⟩ := outside
    rw [touchAll, foldl_cons, ← touchAll, ih rest]
    exact Function.update_of_ne differ _ _

theorem entries_touchAll_of_mem (distinct : keys.Nodup) (mem : key ∈ keys) :
    (cache.touchAll keyOf load change keys).entries key =
      some (change (cache.current keyOf load key)) := by
  induction keys generalizing cache with
  | nil => cases mem
  | cons touched keys ih =>
    obtain ⟨fresh, restDistinct⟩ := nodup_cons.mp distinct
    rw [touchAll, foldl_cons, ← touchAll]
    by_cases here : key = touched
    · subst here
      rw [entries_touchAll_of_not_mem fresh]
      exact Function.update_self _ _ _
    · rw [ih restDistinct ((mem_cons.mp mem).resolve_left here)]
      simp only [current, touch, Function.update_of_ne here]

/-! ## Flushing -/

/-- Write the rows of the keys in their order until a write raises, with the keys that are
written when none does. A key without a row is skipped. -/
def writeRows (keyOf : Row → Key) (outcome : Key → WriteOutcome) (rowOf : Key → Option Row) :
    List Key → List Row → List Row × Option (List Key)
  | [], rows => (rows, some [])
  | key :: keys, rows =>
    match rowOf key with
    | none => writeRows keyOf outcome rowOf keys rows
    | some row =>
      match outcome key with
      | .written =>
        let rest := writeRows keyOf outcome rowOf keys (upsertRow keyOf rows row)
        (rest.1, rest.2.map (key :: ·))
      | .raised landed => (if landed then upsertRow keyOf rows row else rows, none)

/-- A flush goes through the dirty keys in some order, and takes those it has written
out of the dirty ones when no write raises. -/
def flush (keyOf : Row → Key) (outcome : Key → WriteOutcome) (rowOf : Key → Option Row)
    (order : List Key) (cache : WriteBehind Key Entry Row) : WriteBehind Key Entry Row × Bool :=
  let written := writeRows keyOf outcome rowOf order cache.rows
  match written.2 with
  | some flushed =>
    ({ cache with rows := written.1, dirty := cache.dirty.filter (fun key => key ∉ flushed) }, true)
  | none => ({ cache with rows := written.1 }, false)

section Writes

variable {outcome : Key → WriteOutcome} {rowOf : Key → Option Row}

theorem rowAt_writeRows (keyed : ∀ key row, rowOf key = some row → keyOf row = key)
    (keys : List Key) (rows : List Row) (key : Key) :
    rowAt keyOf (writeRows keyOf outcome rowOf keys rows).1 key = rowAt keyOf rows key ∨
      ∃ row, rowOf key = some row ∧
        rowAt keyOf (writeRows keyOf outcome rowOf keys rows).1 key = some row := by
  have upserted : ∀ {first row} (rows : List Row), rowOf first = some row →
      rowAt keyOf (upsertRow keyOf rows row) key = rowAt keyOf rows key ∨
        ∃ other, rowOf key = some other ∧
          rowAt keyOf (upsertRow keyOf rows row) key = some other := by
    intro first row rows found
    rw [rowAt_upsertRow]
    split
    · rename_i same
      rw [keyed _ _ found] at same
      exact .inr ⟨row, same ▸ found, rfl⟩
    · exact .inl rfl
  induction keys generalizing rows with
  | nil => exact .inl rfl
  | cons first keys ih =>
    unfold writeRows
    split
    · exact ih rows
    · rename_i row found
      split
      · rcases ih (upsertRow keyOf rows row) with same | written
        · rcases upserted rows found with before | ⟨other, there, placed⟩
          · exact .inl (same.trans before)
          · exact .inr ⟨other, there, same.trans placed⟩
        · exact .inr written
      · rename_i landed _
        cases landed with
        | false => exact .inl rfl
        | true =>
          rcases upserted rows found with before | ⟨other, there, placed⟩
          · exact .inl before
          · exact .inr ⟨other, there, by simpa using placed⟩

variable {keys : List Key} {rows : List Row}

theorem writeRows_flushed (keyed : ∀ key row, rowOf key = some row → keyOf row = key)
    {flushed : List Key} (done : (writeRows keyOf outcome rowOf keys rows).2 = some flushed)
    (key : Key) : (key ∈ flushed ↔ key ∈ keys ∧ (rowOf key).isSome) ∧
      (key ∈ flushed → rowAt keyOf (writeRows keyOf outcome rowOf keys rows).1
        key = rowOf key) := by
  induction keys generalizing rows flushed with
  | nil =>
    cases done
    simp
  | cons first keys ih =>
    unfold writeRows at done ⊢
    split at done
    · rename_i nothing
      obtain ⟨listed, written⟩ := ih done
      refine ⟨?_, by simpa using written⟩
      rw [listed, mem_cons]
      constructor
      · rintro ⟨mem, some'⟩
        exact ⟨.inr mem, some'⟩
      · rintro ⟨rfl | mem, some'⟩
        · simp [nothing] at some'
        · exact ⟨mem, some'⟩
    · rename_i row found
      split at done
      · rename_i isWritten
        obtain ⟨rest, restDone, rfl⟩ := Option.map_eq_some_iff.mp done
        obtain ⟨listed, written⟩ := ih restDone
        constructor
        · rw [mem_cons, mem_cons, listed]
          constructor
          · rintro (rfl | ⟨mem, some'⟩)
            · exact ⟨.inl rfl, by simp [found]⟩
            · exact ⟨.inr mem, some'⟩
          · rintro ⟨rfl | mem, some'⟩
            · exact .inl rfl
            · exact .inr ⟨mem, some'⟩
        · intro mem
          by_cases later : key ∈ rest
          · exact written later
          · obtain rfl := (mem_cons.mp mem).resolve_right later
            rcases rowAt_writeRows keyed keys (upsertRow keyOf rows row) key with same | there
            · rw [same, rowAt_upsertRow, if_pos (keyed key row found), found]
            · obtain ⟨_, foundAgain, placed⟩ := there
              rw [placed, foundAgain]
      · cases done

/-- What is in the table was there, or is a row to be written. -/
theorem mem_writeRows {row : Row} (mem : row ∈ (writeRows keyOf outcome rowOf keys rows).1) :
    row ∈ rows ∨ ∃ key, rowOf key = some row := by
  induction keys generalizing rows with
  | nil => exact .inl mem
  | cons first keys ih =>
    have placed : ∀ {first other}, rowOf first = some other → row ∈ upsertRow keyOf rows other →
        row ∈ rows ∨ ∃ key, rowOf key = some row := by
      intro first other found listed
      rcases mem_upsertRow listed with rfl | stored
      · exact .inr ⟨first, found⟩
      · exact .inl stored
    unfold writeRows at mem
    split at mem
    · exact ih mem
    · rename_i other found
      split at mem
      · rcases ih mem with listed | there
        · exact placed found listed
        · exact .inr there
      · split at mem
        · exact placed found mem
        · exact .inl mem

end Writes

/-! ## What is counted -/

/-- The value of a key after the events of a history that touch it. -/
def tally (count : Value → Event → Value) (start : Value) (history : List (List Key × Event))
    (key : Key) : Value :=
  (history.filter fun touched => key ∈ touched.1).foldl (fun value touched => count value touched.2)
    start

theorem tally_append (count : Value → Event → Value) (start : Value)
    (history : List (List Key × Event)) (keys : List Key) (event : Event) (key : Key) :
    tally count start (history ++ [(keys, event)]) key =
      if key ∈ keys then count (tally count start history key) event
      else tally count start history key := by
  unfold tally
  rw [filter_append, foldl_append]
  split
  · rename_i mem
    simp [mem]
  · rename_i outside
    simp [outside]

/-- The cache, seen against the events since it was empty. -/
structure Behind (keyOf : Row → Key) (valueOf : Entry → Value) (rowValue : Option Row → Value)
    (count : Value → Event → Value) (baseline : Key → Value)
    (history : List (List Key × Event)) (cache : WriteBehind Key Entry Row) : Prop where
  memory : ∀ key entry, cache.entries key = some entry →
    valueOf entry = tally count (baseline key) history key
  absent : ∀ key, cache.entries key = none → key ∉ cache.dirty
  clean : ∀ key, key ∉ cache.dirty →
    rowValue (rowAt keyOf cache.rows key) = tally count (baseline key) history key
  behind : ∀ key, ∃ seen, seen <+: history ∧
    rowValue (rowAt keyOf cache.rows key) = tally count (baseline key) seen key

namespace Behind

variable {valueOf : Entry → Value} {rowValue : Option Row → Value}
  {count : Value → Event → Value} {baseline : Key → Value}
  {history : List (List Key × Event)} {cache : WriteBehind Key Entry Row}

/-- An empty cache has counted nothing beyond the rows. -/
theorem start (rows : List Row) :
    Behind keyOf valueOf rowValue count (fun key => rowValue (rowAt keyOf rows key))
      ([] : List (List Key × Event))
      ({ entries := fun _ => none, dirty := [], rows } : WriteBehind Key Entry Row) where
  memory := by
    intro key entry found
    cases found
  absent _ _ := not_mem_nil
  clean _ _ := rfl
  behind _ := ⟨[], prefix_refl [], rfl⟩

variable (behind : Behind keyOf valueOf rowValue count baseline history cache)
include behind

theorem valueOf_current (loads : ∀ row, valueOf (load row) = rowValue row) (key : Key) :
    valueOf (cache.current keyOf load key) = tally count (baseline key) history key := by
  unfold current
  cases found : cache.entries key with
  | none => rw [Option.getD_none, loads, behind.clean key (behind.absent key found)]
  | some entry => rw [Option.getD_some, behind.memory key entry found]

theorem touchAll (loads : ∀ row, valueOf (load row) = rowValue row) {event : Event}
    (changes : ∀ entry, valueOf (change entry) = count (valueOf entry) event) {keys : List Key}
    (distinct : keys.Nodup) :
    Behind keyOf valueOf rowValue count baseline (history ++ [(keys, event)])
      (cache.touchAll keyOf load change keys) where
  memory := by
    intro key entry found
    rw [tally_append]
    split
    · rename_i mem
      rw [entries_touchAll_of_mem distinct mem] at found
      cases found
      rw [changes, behind.valueOf_current loads]
    · rename_i outside
      rw [entries_touchAll_of_not_mem outside] at found
      exact behind.memory key entry found
  absent := by
    intro key found
    rw [mem_dirty_touchAll]
    rintro (there | mem)
    · by_cases mem : key ∈ keys
      · rw [entries_touchAll_of_mem distinct mem] at found
        cases found
      · rw [entries_touchAll_of_not_mem mem] at found
        exact behind.absent key found there
    · rw [entries_touchAll_of_mem distinct mem] at found
      cases found
  clean := by
    intro key isClean
    rw [mem_dirty_touchAll, not_or] at isClean
    rw [rows_touchAll, tally_append, if_neg isClean.2]
    exact behind.clean key isClean.1
  behind := by
    intro key
    obtain ⟨seen, earlier, same⟩ := behind.behind key
    rw [rows_touchAll]
    exact ⟨seen, earlier.trans (prefix_append _ _), same⟩

omit behind

section Flush

variable {outcome : Key → WriteOutcome} {rowOf : Key → Option Row}

/-- A flush writes what is counted in memory, however it ends. -/
theorem flush (behind : Behind keyOf valueOf rowValue count baseline history cache)
    (keyed : ∀ key row, rowOf key = some row → keyOf row = key)
    (stores : ∀ key row, rowOf key = some row →
      ∃ entry, cache.entries key = some entry ∧ rowValue (some row) = valueOf entry)
    (order : List Key) : Behind keyOf valueOf rowValue count baseline history
      (cache.flush keyOf outcome rowOf order).1 := by
  have counted : ∀ key row, rowOf key = some row →
      rowValue (some row) = tally count (baseline key) history key := by
    intro key row found
    obtain ⟨entry, inMemory, same⟩ := stores key row found
    rw [same, behind.memory key entry inMemory]
  have rowBehind : ∀ key, ∃ seen, seen <+: history ∧
      rowValue (rowAt keyOf (writeRows keyOf outcome rowOf order cache.rows).1 key) =
        tally count (baseline key) seen key := by
    intro key
    rcases rowAt_writeRows keyed order cache.rows key with same | ⟨row, found, placed⟩
    · rw [same]
      exact behind.behind key
    · rw [placed]
      exact ⟨history, prefix_refl _, counted key row found⟩
  have rowClean : ∀ key, key ∉ cache.dirty →
      rowValue (rowAt keyOf (writeRows keyOf outcome rowOf order cache.rows).1 key) =
        tally count (baseline key) history key := by
    intro key isClean
    rcases rowAt_writeRows keyed order cache.rows key with same | ⟨row, found, placed⟩
    · rw [same]
      exact behind.clean key isClean
    · rw [placed]
      exact counted key row found
  unfold WriteBehind.flush
  simp only
  split
  · rename_i flushed done
    refine ⟨behind.memory, ?_, ?_, rowBehind⟩
    · intro key found there
      exact behind.absent key found (mem_of_mem_filter there)
    · intro key isClean
      by_cases dirty : key ∈ cache.dirty
      · have mem : key ∈ flushed := by
          by_contra outside
          exact isClean (mem_filter.mpr ⟨dirty, by simpa using outside⟩)
        obtain ⟨listed, written⟩ := writeRows_flushed keyed done key
        obtain ⟨row, found⟩ := Option.isSome_iff_exists.mp (listed.mp mem).2
        rw [written mem, found]
        exact counted key row found
      · exact rowClean key dirty
  · exact ⟨behind.memory, behind.absent, rowClean, rowBehind⟩

end Flush

end Behind

variable {outcome : Key → WriteOutcome} {rowOf : Key → Option Row}

theorem dirty_flush {cache : WriteBehind Key Entry Row}
    (keyed : ∀ key row, rowOf key = some row → keyOf row = key) {order : List Key}
    (complete : order.Perm cache.dirty) (writable : ∀ key ∈ cache.dirty, (rowOf key).isSome)
    (done : (cache.flush keyOf outcome rowOf order).2 = true) :
    (cache.flush keyOf outcome rowOf order).1.dirty = [] := by
  unfold flush at done ⊢
  simp only at done ⊢
  split at done
  · rename_i flushed ended
    rw [filter_eq_nil_iff]
    intro key dirty
    have mem : key ∈ flushed := ((writeRows_flushed keyed ended key).1).mpr
      ⟨complete.mem_iff.mpr dirty, writable key dirty⟩
    simpa using mem
  · cases done

/-! ## Filling an empty table -/

theorem nodup_writeRows (keys : List Key) {rows : List Row} (distinct : (rows.map keyOf).Nodup) :
    ((writeRows keyOf outcome rowOf keys rows).1.map keyOf).Nodup := by
  induction keys generalizing rows with
  | nil => exact distinct
  | cons first keys ih =>
    unfold writeRows
    split
    · exact ih distinct
    · rename_i row _
      split
      · exact ih (nodup_map_upsertRow row distinct)
      · rename_i landed _
        cases landed with
        | false => exact distinct
        | true => exact nodup_map_upsertRow row distinct

/-- The rows have all been written from memory: a key that is not in memory has no row, and
the row of a key that is not dirty stores its entry. -/
structure Filling (keyOf : Row → Key) (stores : Row → Entry → Prop)
    (cache : WriteBehind Key Entry Row) : Prop where
  fresh : ∀ key, cache.entries key = none → rowAt keyOf cache.rows key = none
  clean : ∀ key entry, cache.entries key = some entry → key ∉ cache.dirty →
    ∃ row, rowAt keyOf cache.rows key = some row ∧ stores row entry
  distinct : (cache.rows.map keyOf).Nodup

namespace Filling

variable {stores : Row → Entry → Prop} {cache : WriteBehind Key Entry Row}

theorem start : Filling keyOf stores
    ({ entries := fun _ => none, dirty := [], rows := [] } : WriteBehind Key Entry Row) where
  fresh _ _ := rfl
  clean _ _ found := nomatch found
  distinct := nodup_nil

variable (filling : Filling keyOf stores cache)
include filling

/-- No entry is loaded from a row. -/
theorem current_eq (key : Key) :
    cache.current keyOf load key = (cache.entries key).getD (load none) := by
  unfold current
  cases found : cache.entries key with
  | some entry => rfl
  | none => rw [filling.fresh key found]

variable {keys : List Key}

theorem entries_touchAll (distinct : keys.Nodup) (key : Key) :
    (cache.touchAll keyOf load change keys).entries key =
      if key ∈ keys then some (change ((cache.entries key).getD (load none)))
      else cache.entries key := by
  split
  · rename_i mem
    rw [entries_touchAll_of_mem distinct mem, filling.current_eq]
  · rename_i outside
    exact entries_touchAll_of_not_mem outside

theorem touchAll (distinct : keys.Nodup) :
    Filling keyOf stores (cache.touchAll keyOf load change keys) where
  fresh := by
    intro key found
    rw [filling.entries_touchAll distinct] at found
    rw [rows_touchAll]
    split at found
    · cases found
    · exact filling.fresh key found
  clean := by
    intro key entry found isClean
    rw [mem_dirty_touchAll, not_or] at isClean
    rw [filling.entries_touchAll distinct, if_neg isClean.2] at found
    rw [rows_touchAll]
    exact filling.clean key entry found isClean.1
  distinct := by
    rw [rows_touchAll]
    exact filling.distinct

theorem flush {outcome : Key → WriteOutcome}
    {rowOf : Key → Option Row} (keyed : ∀ key row, rowOf key = some row → keyOf row = key)
    (writes : ∀ key row, rowOf key = some row →
      ∃ entry, cache.entries key = some entry ∧ stores row entry)
    (order : List Key) : Filling keyOf stores (cache.flush keyOf outcome rowOf order).1 := by
  have fresh : ∀ key, cache.entries key = none →
      rowAt keyOf (writeRows keyOf outcome rowOf order cache.rows).1 key = none := by
    intro key found
    rcases rowAt_writeRows keyed order cache.rows key with same | ⟨row, there, -⟩
    · exact same.trans (filling.fresh key found)
    · obtain ⟨entry, inMemory, -⟩ := writes key row there
      rw [found] at inMemory
      cases inMemory
  have written : ∀ key entry row, cache.entries key = some entry → rowOf key = some row →
      stores row entry := by
    intro key entry row found there
    obtain ⟨_, inMemory, stored⟩ := writes key row there
    rw [found] at inMemory
    cases inMemory
    exact stored
  have clean : ∀ key entry, cache.entries key = some entry → key ∉ cache.dirty →
      ∃ row, rowAt keyOf (writeRows keyOf outcome rowOf order cache.rows).1 key = some row ∧
        stores row entry := by
    intro key entry found isClean
    rcases rowAt_writeRows keyed order cache.rows key with same | ⟨row, there, placed⟩
    · rw [same]
      exact filling.clean key entry found isClean
    · exact ⟨row, placed, written key entry row found there⟩
  have distinct : ((writeRows keyOf outcome rowOf order cache.rows).1.map keyOf).Nodup :=
    nodup_writeRows order filling.distinct
  unfold WriteBehind.flush
  simp only
  split
  · rename_i flushed done
    refine ⟨fresh, ?_, distinct⟩
    intro key entry found isClean
    by_cases dirty : key ∈ cache.dirty
    · have mem : key ∈ flushed := by
        by_contra outside
        exact isClean (mem_filter.mpr ⟨dirty, by simpa using outside⟩)
      obtain ⟨listed, placed⟩ := writeRows_flushed keyed done key
      obtain ⟨row, there⟩ := Option.isSome_iff_exists.mp (listed.mp mem).2
      exact ⟨row, (placed mem).trans there, written key entry row found there⟩
    · exact clean key entry found dirty
  · exact ⟨fresh, clean, distinct⟩

theorem stored_of_mem (nothing : cache.dirty = []) {row : Row} (mem : row ∈ cache.rows) :
    ∃ entry, cache.entries (keyOf row) = some entry ∧ stores row entry := by
  have placed : rowAt keyOf cache.rows (keyOf row) = some row :=
    rowAt_of_mem filling.distinct mem
  cases found : cache.entries (keyOf row) with
  | none =>
    rw [filling.fresh _ found] at placed
    cases placed
  | some entry =>
    obtain ⟨_, there, stored⟩ := filling.clean _ entry found (nothing ▸ not_mem_nil)
    rw [placed] at there
    cases there
    exact ⟨entry, rfl, stored⟩

end Filling

end WriteBehind

end NetConsole.Foundations
