import Mathlib.Data.List.Basic

/-!
# Ranges of integers

A list of integers is compressed to the ranges of consecutive ones, and the ranges expand to the
list again (`expandRanges_compress`).
-/

set_option autoImplicit false

namespace NetConsole.Foundations

open List

/-- The integers from `start` to `finish`, both included. -/
structure IntegerRange where
  (start finish : Int)
  deriving DecidableEq

namespace IntegerRange

def keys (range : IntegerRange) : List Int :=
  (List.range (range.finish + 1 - range.start).toNat).map fun offset : Nat =>
    range.start + (offset : Int)

theorem mem_keys {range : IntegerRange} {key : Int} :
    key ∈ range.keys ↔ range.start ≤ key ∧ key ≤ range.finish := by
  unfold keys
  rw [mem_map]
  constructor
  · rintro ⟨_, mem, rfl⟩
    have bound := mem_range.mp mem
    omega
  · rintro ⟨_, _⟩
    exact ⟨(key - range.start).toNat, mem_range.mpr (by omega), by omega⟩

theorem keys_single (key : Int) : keys ⟨key, key⟩ = [key] := by
  have one : (key + 1 - key).toNat = 1 := by omega
  unfold keys
  rw [one]
  simp

/-- A range that grows by the next integer. -/
theorem keys_succ {start finish : Int} (order : start ≤ finish) :
    keys ⟨start, finish + 1⟩ = keys ⟨start, finish⟩ ++ [finish + 1] := by
  have size : (finish + 1 + 1 - start).toNat = (finish + 1 - start).toNat + 1 := by omega
  have last : start + ((finish + 1 - start).toNat : Int) = finish + 1 := by omega
  unfold keys
  rw [size, range_succ, map_append, map_singleton, last]

end IntegerRange

/-- The ranges of the integers that follow, while a range is open. -/
def compressFrom (start previous : Int) : List Int → List IntegerRange
  | [] => [⟨start, previous⟩]
  | value :: rest =>
    if value = previous + 1 then compressFrom start value rest
    else ⟨start, previous⟩ :: compressFrom value value rest

/-- The ranges of keys in ascending order. -/
def compress : List Int → List IntegerRange
  | [] => []
  | first :: rest => compressFrom first first rest

def expandRanges (ranges : List IntegerRange) : List Int := ranges.flatMap IntegerRange.keys

theorem expandRanges_compressFrom {start previous : Int} (rest : List Int)
    (order : start ≤ previous) : expandRanges (compressFrom start previous rest) =
      IntegerRange.keys ⟨start, previous⟩ ++ rest := by
  induction rest generalizing start previous with
  | nil => rfl
  | cons value rest ih =>
    unfold compressFrom
    split
    · rename_i next
      subst next
      rw [ih (Int.le_add_one order), IntegerRange.keys_succ order, append_assoc]
      rfl
    · show IntegerRange.keys _ ++ expandRanges (compressFrom value value rest) = _
      rw [ih (Int.le_refl value), IntegerRange.keys_single]
      rfl

theorem expandRanges_compress (values : List Int) : expandRanges (compress values) = values := by
  cases values with
  | nil => rfl
  | cons first rest =>
    unfold compress
    rw [expandRanges_compressFrom rest (Int.le_refl first), IntegerRange.keys_single]
    rfl

theorem compressFrom_order {start previous : Int} (rest : List Int) (order : start ≤ previous) :
    ∀ range ∈ compressFrom start previous rest, range.start ≤ range.finish := by
  induction rest generalizing start previous with
  | nil => exact forall_mem_singleton.mpr order
  | cons value rest ih =>
    unfold compressFrom
    split
    · rename_i next
      exact ih (next ▸ Int.le_add_one order)
    · exact forall_mem_cons.mpr ⟨order, ih (Int.le_refl value)⟩

theorem compress_order (values : List Int) :
    ∀ range ∈ compress values, range.start ≤ range.finish := by
  cases values with
  | nil => exact nofun
  | cons first rest => exact compressFrom_order rest (Int.le_refl first)

end NetConsole.Foundations
