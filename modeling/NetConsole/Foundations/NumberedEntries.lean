import Mathlib.Data.List.Basic

/-!
# Dropping entries of a numbered list

`dropNumbered drops first entries` goes through the entries, numbered from
`first` on, and leaves out those that `drops` selects by number and content.

What is left is renumbered: an entry keeps its number as long as nothing before
it is dropped (`getElem?_dropNumbered`).
-/

set_option autoImplicit false

namespace NetConsole.Foundations

variable {α β : Type} {drops : Nat → α → Bool}

/-- The entries that are not dropped. -/
def dropNumbered (drops : Nat → α → Bool) : Nat → List α → List α
  | _, [] => []
  | number, entry :: rest =>
    if drops number entry then dropNumbered drops (number + 1) rest
    else entry :: dropNumbered drops (number + 1) rest

theorem dropNumbered_sublist (number : Nat) (entries : List α) :
    (dropNumbered drops number entries).Sublist entries := by
  induction entries generalizing number with
  | nil => exact List.Sublist.slnil
  | cons entry rest ih =>
    unfold dropNumbered
    split
    · exact (ih (number + 1)).cons entry
    · exact (ih (number + 1)).cons_cons entry

/-- Labels do not matter when only contents are looked at. -/
theorem map_dropNumbered (content : β → α) (number : Nat) (entries : List β) :
    (dropNumbered (fun number entry => drops number (content entry)) number entries).map content =
      dropNumbered drops number (entries.map content) := by
  induction entries generalizing number with
  | nil => rfl
  | cons entry rest ih =>
    simp only [dropNumbered, List.map_cons]
    split
    · exact ih (number + 1)
    · simp only [List.map_cons, ih (number + 1)]

/-- Up to the first dropped entry, entries keep their places. -/
theorem getElem?_dropNumbered {number index : Nat} {entries : List α}
    (kept : ∀ earlier ≤ index, ∀ entry, entries[earlier]? = some entry →
      drops (number + earlier) entry = false) :
    (dropNumbered drops number entries)[index]? = entries[index]? := by
  induction entries generalizing number index with
  | nil => rfl
  | cons entry rest ih =>
    have here : drops number entry = false := kept 0 (Nat.zero_le _) entry rfl
    simp only [dropNumbered, here, Bool.false_eq_true]
    cases index with
    | zero => rfl
    | succ index =>
      apply ih
      intro earlier before other found
      have later := kept (earlier + 1) (by omega) other (by simpa using found)
      rwa [show number + 1 + earlier = number + (earlier + 1) by omega]

end NetConsole.Foundations
