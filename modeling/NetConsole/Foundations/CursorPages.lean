import Mathlib.Data.List.Basic
import Mathlib.Order.Lattice
import Mathlib.Data.List.Pairwise

/-!
# Pages behind a cursor

A list is sorted by a key, and no key occurs twice. A reader has the items up to
its cursor. A page brings some of the items behind the cursor, and the cursor
then moves to the last of them.

The reader then has the items up to the new cursor (`upTo_append_page`), and
items that are added at the end with greater keys leave what it has as it is
(`upTo_append`).
-/

set_option autoImplicit false

namespace NetConsole.Foundations

open List

variable {Item Key : Type} [LinearOrder Key] (key : Item → Key)

/-- The keys go up. -/
abbrev KeysIncrease (items : List Item) : Prop :=
  items.Pairwise fun first second => key first < key second

/-- The items up to a cursor. -/
def upTo (cursor : Key) (items : List Item) : List Item :=
  items.filter fun item => decide (key item ≤ cursor)

/-- The items behind a cursor. -/
def behind (cursor : Key) (items : List Item) : List Item :=
  items.filter fun item => decide (cursor < key item)

/-- Where a page moves the cursor. -/
def cursorAfter (cursor : Key) (page : List Item) : Key :=
  (page.getLast?.map key).getD cursor

variable {key} {cursor : Key} {items : List Item}

theorem upTo_of_le (reached : ∀ item ∈ items, key item ≤ cursor) : upTo key cursor items = items :=
  filter_eq_self.mpr fun item mem => decide_eq_true (reached item mem)

theorem upTo_of_lt (ahead : ∀ item ∈ items, cursor < key item) : upTo key cursor items = [] := by
  apply filter_eq_nil_iff.mpr
  intro item mem
  simpa using ahead item mem

/-- Items with greater keys are none of those up to the cursor. -/
theorem upTo_append {items more : List Item} (ahead : ∀ item ∈ more, cursor < key item) :
    upTo key cursor (items ++ more) = upTo key cursor items := by
  have none' : upTo key cursor more = [] := upTo_of_lt ahead
  unfold upTo at none' ⊢
  rw [filter_append, none', append_nil]

theorem upTo_append_behind (increasing : KeysIncrease key items) :
    upTo key cursor items ++ behind key cursor items = items := by
  induction items with
  | nil => rfl
  | cons item items ih =>
    obtain ⟨first, rest⟩ := pairwise_cons.mp increasing
    by_cases reached : key item ≤ cursor
    · have here : upTo key cursor (item :: items) = item :: upTo key cursor items := by
        simp [upTo, reached]
      have there : behind key cursor (item :: items) = behind key cursor items := by
        simp [behind, reached]
      rw [here, there, cons_append, ih rest]
    · have ahead : ∀ other ∈ item :: items, cursor < key other := by
        intro other mem
        rcases mem_cons.mp mem with rfl | later
        · exact not_le.mp reached
        · exact (not_le.mp reached).trans (first other later)
      rw [upTo_of_lt ahead, nil_append]
      apply filter_eq_self.mpr
      intro other mem
      simpa using ahead other mem

omit [LinearOrder Key] in
theorem cursorAfter_concat (cursor : Key) (page : List Item) (last : Item) :
    cursorAfter key cursor (page ++ [last]) = key last := by
  simp [cursorAfter]

theorem upTo_append_page {items page : List Item} (increasing : KeysIncrease key items)
    (first : page <+: behind key cursor items) :
    upTo key cursor items ++ page = upTo key (cursorAfter key cursor page) items := by
  obtain ⟨rest, split⟩ := first
  rcases eq_nil_or_concat page with rfl | ⟨front, last, rfl⟩
  · simp [cursorAfter]
  · rw [concat_eq_append] at split ⊢
    have whole : upTo key cursor items ++ (front ++ [last]) ++ rest = items := by
      rw [append_assoc, split, upTo_append_behind increasing]
    have ordered : KeysIncrease key (upTo key cursor items ++ (front ++ [last]) ++ rest) := by
      rw [whole]
      exact increasing
    obtain ⟨had, -, later⟩ := pairwise_append.mp ordered
    rw [← append_assoc] at had
    have reached : ∀ item ∈ upTo key cursor items ++ (front ++ [last]), key item ≤ key last := by
      intro item mem
      rw [← append_assoc] at mem
      rcases mem_append.mp mem with before | isLast
      · exact le_of_lt ((pairwise_append.mp had).2.2 item before last (by simp))
      · rw [mem_singleton.mp isLast]
    have ahead : ∀ item ∈ rest, key last < key item := by
      intro item mem
      exact later last (by simp) item mem
    rw [cursorAfter_concat]
    have taken : upTo key (key last) (upTo key cursor items ++ (front ++ [last]) ++ rest) =
        upTo key (key last) (upTo key cursor items ++ (front ++ [last])) := upTo_append ahead
    rw [whole, upTo_of_le reached] at taken
    exact taken.symm

omit [LinearOrder Key] in
/-- The cursor stays, or moves to one of the items. -/
theorem cursorAfter_mem {page : List Item} : cursorAfter key cursor page = cursor ∨
      ∃ item ∈ page, key item = cursorAfter key cursor page := by
  rcases eq_nil_or_concat page with rfl | ⟨front, last, rfl⟩
  · exact .inl rfl
  · rw [concat_eq_append]
    exact .inr ⟨last, by simp, (cursorAfter_concat cursor front last).symm⟩

end NetConsole.Foundations
