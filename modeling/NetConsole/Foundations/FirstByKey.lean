import Mathlib.Data.List.Nodup

/-!
# The first item of each key

A reader that remembers the keys it has seen keeps the first item of each key.
Items have a content, which decides the key. What is kept then holds each content
exactly once, no more and no less, exactly if items with one key have one content
(`eachOnce_iff`).
-/

set_option autoImplicit false

namespace NetConsole.Foundations

open List

variable {Item Key Content : Type} [DecidableEq Key] (key : Item → Key)

/-- The items whose keys have not been seen before. -/
def firstByKey : List Key → List Item → List Item
  | _, [] => []
  | seen, item :: rest =>
    if key item ∈ seen then firstByKey seen rest
    else item :: firstByKey (key item :: seen) rest

def seenAfter : List Key → List Item → List Key
  | seen, [] => seen
  | seen, item :: rest =>
    if key item ∈ seen then seenAfter seen rest else seenAfter (key item :: seen) rest

variable (seen : List Key)

theorem firstByKey_append (first second : List Item) : firstByKey key seen (first ++ second) =
      firstByKey key seen first ++ firstByKey key (seenAfter key seen first) second := by
  induction first generalizing seen with
  | nil => rfl
  | cons item rest ih =>
    simp only [cons_append, firstByKey, seenAfter]
    split
    · exact ih seen
    · rw [ih, cons_append]

theorem seenAfter_append (first second : List Item) :
    seenAfter key seen (first ++ second) = seenAfter key (seenAfter key seen first) second := by
  induction first generalizing seen with
  | nil => rfl
  | cons item rest ih =>
    simp only [cons_append, seenAfter]
    split
    · exact ih seen
    · exact ih (key item :: seen)

theorem length_seenAfter_le (items : List Item) :
    (seenAfter key seen items).length ≤ seen.length + items.length := by
  induction items generalizing seen with
  | nil => exact Nat.le_refl _
  | cons item rest ih =>
    rw [seenAfter, length_cons]
    split
    · have later := ih seen
      omega
    · have later := ih (key item :: seen)
      rw [length_cons] at later
      omega

theorem firstByKey_sublist (items : List Item) : (firstByKey key seen items).Sublist items := by
  induction items generalizing seen with
  | nil => exact .slnil
  | cons item rest ih =>
    rw [firstByKey]
    split
    · exact (ih seen).cons item
    · exact (ih (key item :: seen)).cons_cons item

theorem key_notMem_seen {seen : List Key} {items : List Item} {item : Item}
    (kept : item ∈ firstByKey key seen items) : key item ∉ seen := by
  induction items generalizing seen with
  | nil => simp [firstByKey] at kept
  | cons first rest ih =>
    rw [firstByKey] at kept
    split at kept
    · exact ih kept
    · next new =>
      rcases mem_cons.mp kept with rfl | later
      · exact new
      · exact fun inSeen => ih later (mem_cons_of_mem _ inSeen)

theorem nodup_keys (items : List Item) : ((firstByKey key seen items).map key).Nodup := by
  induction items generalizing seen with
  | nil => simp [firstByKey]
  | cons item rest ih =>
    rw [firstByKey]
    split
    · exact ih seen
    · rw [map_cons, nodup_cons]
      refine ⟨?_, ih (key item :: seen)⟩
      intro again
      obtain ⟨_, kept, same⟩ := mem_map.mp again
      exact key_notMem_seen key kept (same ▸ mem_cons_self)

theorem exists_kept {seen : List Key} {items : List Item} {item : Item} (mem : item ∈ items)
    (new : key item ∉ seen) : ∃ kept ∈ firstByKey key seen items, key kept = key item := by
  induction items generalizing seen with
  | nil => cases mem
  | cons first rest ih =>
    rw [firstByKey]
    split
    · next old =>
      rcases mem_cons.mp mem with rfl | later
      · exact absurd old new
      · exact ih later new
    · by_cases same : key item = key first
      · exact ⟨first, mem_cons_self, same.symm⟩
      · rcases mem_cons.mp mem with rfl | later
        · exact absurd rfl same
        · have fresh : key item ∉ key first :: seen := by simp [same, new]
          obtain ⟨kept, inKept, equal⟩ := ih later fresh
          exact ⟨kept, mem_cons_of_mem _ inKept, equal⟩

/-- The kept items hold every content of the items exactly once. -/
def EachOnce (content : Item → Content) (items kept : List Item) : Prop :=
  (kept.map content).Nodup ∧ ∀ item ∈ items, content item ∈ kept.map content

theorem eachOnce_iff (content : Item → Content) (items : List Item)
    (decides : ∀ one ∈ items, ∀ two ∈ items, content one = content two → key one = key two) :
    EachOnce content items (firstByKey key [] items) ↔
      ∀ one ∈ items, ∀ two ∈ items, key one = key two → content one = content two := by
  have inside := (firstByKey_sublist key [] items).subset
  have distinct := nodup_keys key [] items
  constructor
  · intro ⟨_, covers⟩ one memberOne two memberTwo same
    obtain ⟨keptOne, inOne, equalOne⟩ := mem_map.mp (covers one memberOne)
    obtain ⟨keptTwo, inTwo, equalTwo⟩ := mem_map.mp (covers two memberTwo)
    have keys : key keptOne = key keptTwo := by
      rw [decides keptOne (inside inOne) one memberOne equalOne, same,
        decides keptTwo (inside inTwo) two memberTwo equalTwo]
    have equal := inj_on_of_nodup_map distinct inOne inTwo keys
    rw [← equalOne, ← equalTwo, equal]
  · intro separates
    refine ⟨?_, ?_⟩
    · refine List.Nodup.map_on ?_ distinct.of_map
      intro one inOne two inTwo same
      exact inj_on_of_nodup_map distinct inOne inTwo
        (decides one (inside inOne) two (inside inTwo) same)
    · intro item mem
      obtain ⟨kept, inKept, same⟩ := exists_kept key mem (not_mem_nil)
      rw [separates item mem kept (inside inKept) same.symm]
      exact mem_map_of_mem inKept

end NetConsole.Foundations
