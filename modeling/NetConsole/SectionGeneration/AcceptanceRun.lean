import NetConsole.SectionGeneration.Acceptance

/-!
# Accepting every item

What the rows of a key are after the whole loop is told by the one item about that key,
whatever the order of the items (`accept_kept`).
-/

set_option autoImplicit false

namespace NetConsole.SectionGeneration

open List

variable {M : Type} [LinearOrder M] (lib : Library M)

/-! ## Items about a generated section -/

/-- The item about a generated section. -/
abbrev itemOf (validNodeUids : List String) (current : List (LineSection M))
    (proposed : LineSection M) : PreviewItem M :=
  (compareSection lib validNodeUids current proposed).1

/-- The three kinds of items about a generated section. -/
theorem itemOf_cases (validNodeUids : List String) (current : List (LineSection M))
    (proposed : LineSection M) : (∃ issue found, itemOf lib validNodeUids current proposed
        = conflictItem lib proposed issue found) ∨
      (itemOf lib validNodeUids current proposed = createItem lib proposed ∧
        keyMatches current proposed.generationKey = []) ∨
      ∃ found, itemOf lib validNodeUids current proposed = existingItem lib proposed found ∧
        keyMatches current proposed.generationKey = [found] ∧ found.autoGenerated = true ∧
        missingNodeField validNodeUids found = none := by
  unfold itemOf compareSection
  split
  · next issue found _ => exact .inl ⟨issue, found, rfl⟩
  · next met => exact .inr (.inl ⟨rfl, matchSection_absent _ met⟩)
  · next found met =>
    obtain ⟨only, automatic⟩ := matchSection_existing _ met
    split
    · exact .inl ⟨_, _, rfl⟩
    · next present => exact .inr (.inr ⟨found, rfl, only, automatic, present⟩)

/-! ## The invariant of the loop -/

section Steps

variable (validNodeUids : List String) (generated current : List (LineSection M))
  (temporaryId : String)

/-- What holds of the draft while the items are accepted, in any order. -/
structure Running (draft : Draft M) : Prop where
  known : ∀ row ∈ draft.sections, ∃ source ∈ current ++ generated, row.id = source.id ∧
    row.generationKey = source.generationKey ∧ row.autoGenerated = source.autoGenerated
  pending : ∀ id ∈ draft.pendingDeletes, ∃ line ∈ staleSections generated current, line.id = id
  rows : ∀ proposed ∈ generated,
    draft.rowsOf proposed.generationKey = keyMatches current proposed.generationKey ∨
      draft.rowsOf proposed.generationKey =
        (itemOf lib validNodeUids current proposed).settle
          (keyMatches current proposed.generationKey)
  manual : (draft.sections.filter fun line => !line.autoGenerated) =
    current.filter fun line => !line.autoGenerated

variable {validNodeUids generated current} {draft : Draft M}

theorem Running.key_of_id (running : Running lib validNodeUids generated current draft)
    (identified : Identified (current ++ generated)) {row known : LineSection M}
    (mem : row ∈ draft.sections) (isKnown : known ∈ current ++ generated)
    (sameId : row.id = known.id) :
    row.generationKey = known.generationKey ∧ row.autoGenerated = known.autoGenerated := by
  obtain ⟨source, isSource, id, key, automatic⟩ := running.known row mem
  obtain ⟨sameKey, sameOrigin⟩ := identified source isSource known isKnown (id ▸ sameId)
  exact ⟨key.trans sameKey, automatic.trans sameOrigin⟩

variable {proposed : LineSection M}

theorem applyItem_itemOf (running : Running lib validNodeUids generated current draft)
    (wellFormed : Generated generated) (identified : Identified (current ++ generated))
    (mem : proposed ∈ generated) :
    Accepted (itemOf lib validNodeUids current proposed) proposed draft
      (applyItem temporaryId draft (itemOf lib validNodeUids current proposed)) := by
  have rows := running.rows proposed mem
  rcases itemOf_cases _ _ _ proposed with
    ⟨issue, found, conflict⟩ | ⟨create, absent⟩ | ⟨found, existing, only, automatic, -⟩
  · rw [conflict]
    exact .same (PreviewItem.settle_other (by simp [conflictItem]) (by simp [conflictItem]))
  · rw [create] at rows ⊢
    have settled : (createItem lib proposed).settle [] = [proposed] :=
      PreviewItem.settle_accepted rfl (.inl rfl) []
    refine applyItem_accepted _ rfl (.inl rfl) rfl (wellFormed.keyed _ mem) rfl
      (wellFormed.automatic _ mem) (fun line _ => by simp [createItem]) ?_
      (.inl ⟨rfl, wellFormed.new _ mem⟩)
    rw [absent, settled] at rows
    intro line isRow
    rcases rows with rows | rows <;> rw [rows] at isRow
    · exact nomatch isRow
    · rw [mem_singleton.mp isRow]
      exact wellFormed.automatic _ mem
  · rw [existing] at rows ⊢
    have isCurrent : found ∈ keyMatches current proposed.generationKey := by simp [only]
    simp only [keyMatches, mem_filter, Bool.and_eq_true, decide_eq_true_eq] at isCurrent
    by_cases unchanged : comparable (merged found proposed) = comparable found
    · have result : (existingItem lib proposed found).result = .unchanged := by
        simp [existingItem, unchanged]
      have same : applyItem temporaryId draft (existingItem lib proposed found) = draft := by
        unfold applyItem
        rw [result]
        rfl
      rw [same]
      exact .same (PreviewItem.settle_other (by simp [result]) (by simp [result]))
    · have result : (existingItem lib proposed found).result = .update := by
        simp [existingItem, unchanged]
      have settled : (existingItem lib proposed found).settle [found] =
          [assigned (merged found proposed) found] :=
        PreviewItem.settle_accepted rfl (.inr result) [found]
      rw [only, settled] at rows
      refine applyItem_accepted _ rfl (.inr result) rfl (wellFormed.keyed _ mem) rfl
        (wellFormed.automatic proposed mem) ?_ ?_ (.inr ?_)
      · intro line isRow sameId
        have sameId : line.id = found.id := by simpa [existingItem] using sameId
        exact (running.key_of_id _ identified isRow (by simp [isCurrent.1]) sameId).1.trans
          isCurrent.2.2
      · intro line isRow
        rcases rows with rows | rows <;> rw [rows] at isRow <;> rw [mem_singleton.mp isRow]
        · exact automatic
        · exact wellFormed.automatic proposed mem
      · rcases rows with rows | rows <;> simp [rows]

variable {draft draft' : Draft M}

/-- The step of an item about a generated section keeps the invariant. -/
theorem Running.accepted (running : Running lib validNodeUids generated current draft)
    (wellFormed : Generated generated) (mem : proposed ∈ generated)
    (accepted : Accepted (itemOf lib validNodeUids current proposed) proposed draft draft') :
    Running lib validNodeUids generated current draft' where
  known row isRow := by
    rcases accepted.mem_sections isRow with rfl | ⟨before, isBefore, id, key, origin⟩
    · exact ⟨row, by simp [mem], rfl, rfl, rfl⟩
    · obtain ⟨source, isSource, sourceId, sourceKey, sourceOrigin⟩ := running.known before isBefore
      exact ⟨source, isSource, id.trans sourceId, key.trans sourceKey, origin.trans sourceOrigin⟩
  pending := accepted.pendingDeletes_eq ▸ running.pending
  rows other isOther := by
    by_cases same : proposed.generationKey = other.generationKey
    · rw [← wellFormed.unique proposed mem other isOther same, accepted.rowsOf_key]
      rcases running.rows proposed mem with rows | rows <;> rw [rows]
      · exact .inr rfl
      · exact .inr (PreviewItem.settle_settle _ _)
    · rw [accepted.rowsOf_other same]
      exact running.rows other isOther
  manual := (accepted.manual_eq (wellFormed.automatic _ mem)).trans running.manual

variable {line : LineSection M} (running : Running lib validNodeUids generated current draft)
include running

theorem Running.rowsOf_stale {proposed : LineSection M}
    (identified : Identified (current ++ generated))
    (stale : line ∈ staleSections generated current) (mem : proposed ∈ generated) :
    (applyItem temporaryId draft (staleItem lib line)).rowsOf proposed.generationKey =
      draft.rowsOf proposed.generationKey := by
  have isKnown : line ∈ current ++ generated :=
    mem_append_left _ (staleSections_current stale).1
  rcases applyItem_staleItem _ _ draft line with ⟨-, same⟩ | removed | marked
  · rw [same]
  · rw [removed]
    simp only [Draft.rowsOf, filter_filter]
    refine filter_congr fun row isRow => ?_
    by_cases key : row.generationKey = proposed.generationKey
    · have other : row.id ≠ line.id := fun sameId =>
        staleSections_key stale mem
          ((running.key_of_id _ identified isRow isKnown sameId).1.symm.trans key)
      simp [other]
    · simp [key]
  · rw [marked]
    rfl

/-- The step of an item about a stale section keeps the invariant. -/
theorem Running.stale (identified : Identified (current ++ generated))
    (stale : line ∈ staleSections generated current) : Running lib validNodeUids generated current
      (applyItem temporaryId draft (staleItem lib line)) := by
  have rows : ∀ proposed ∈ generated, _ := fun proposed mem =>
    running.rowsOf_stale lib temporaryId identified stale mem
  obtain ⟨isCurrent, automatic⟩ := staleSections_current stale
  rcases applyItem_staleItem lib temporaryId draft line with ⟨-, same⟩ | removed | marked
  · rw [same]
    exact running
  · rw [removed] at rows ⊢
    exact {
      known row mem := running.known row (mem_of_mem_filter mem)
      pending := running.pending
      rows proposed mem := rows proposed mem ▸ running.rows proposed mem
      manual := by
        rw [← running.manual, filter_filter]
        refine filter_congr fun row isRow => ?_
        by_cases sameId : row.id = line.id
        · have label := running.key_of_id lib identified isRow
            (mem_append_left _ isCurrent) sameId
          simp [label.2, automatic]
        · simp [sameId] }
  · rw [marked]
    exact { running with
      pending := by
        intro id mem
        rcases mem_cons.mp mem with rfl | mem
        · exact ⟨line, stale, rfl⟩
        · exact running.pending id mem }

omit running

/-! ## Every item accepted -/

variable (validNodeUids generated current) in
/-- What the acceptance of an item is to reach: its rows are settled, or gone. -/
structure Reached (item : PreviewItem M) (draft : Draft M) : Prop where
  rows : ∀ proposed ∈ generated, item = itemOf lib validNodeUids current proposed →
    draft.rowsOf proposed.generationKey = item.settle (keyMatches current proposed.generationKey)
  gone : ∀ line ∈ staleSections generated current, item = staleItem lib line →
    ∀ row ∈ draft.resulting, row.id ≠ line.id

theorem itemOf_ne_staleItem (proposed line : LineSection M) :
    itemOf lib validNodeUids current proposed ≠ staleItem lib line := by
  intro same
  have noProposal := congrArg PreviewItem.proposedSection same
  rcases itemOf_cases _ _ _ proposed with
    ⟨_, _, conflict⟩ | ⟨create, -⟩ | ⟨_, existing, -⟩
  · rw [conflict] at noProposal
    exact nomatch noProposal
  · rw [create] at noProposal
    exact nomatch noProposal
  · rw [existing] at noProposal
    exact nomatch noProposal

theorem itemOf_key {one two : LineSection M}
    (same : itemOf lib validNodeUids current one = itemOf lib validNodeUids current two) :
    one.generationKey = two.generationKey := by
  have keyed (proposed : LineSection M) :
      (itemOf lib validNodeUids current proposed).proposedSection.map LineSection.generationKey =
        some proposed.generationKey := by
    rcases itemOf_cases lib validNodeUids current proposed with
      ⟨_, _, conflict⟩ | ⟨create, -⟩ | ⟨_, existing, -⟩
    · rw [conflict]
      rfl
    · rw [create]
      rfl
    · rw [existing]
      rfl
  exact Option.some_inj.mp ((keyed one).symm.trans (same ▸ keyed two))

variable (running : Running lib validNodeUids generated current draft)
include running

theorem Running.settled (mem : proposed ∈ generated)
    (accepted : Accepted (itemOf lib validNodeUids current proposed) proposed draft draft') :
    draft'.rowsOf proposed.generationKey = (itemOf lib validNodeUids current proposed).settle
        (keyMatches current proposed.generationKey) := by
  rw [accepted.rowsOf_key]
  rcases running.rows proposed mem with rows | rows <;> rw [rows]
  exact PreviewItem.settle_settle _ _

theorem Running.reached (mem : proposed ∈ generated)
    (accepted : Accepted (itemOf lib validNodeUids current proposed) proposed draft draft') :
    Reached lib validNodeUids generated current
      (itemOf lib validNodeUids current proposed) draft' where
  rows other _ same := by
    rw [← itemOf_key _ same]
    exact running.settled _ mem accepted
  gone line _ same := absurd same (itemOf_ne_staleItem _ proposed line)

omit running

variable {item : PreviewItem M}

/-- The step about a generated section loses no goal. -/
theorem Reached.accepted (reached : Reached lib validNodeUids generated current item draft)
    (running : Running lib validNodeUids generated current draft)
    (wellFormed : Generated generated) (identified : Identified (current ++ generated))
    (mem : proposed ∈ generated)
    (accepted : Accepted (itemOf lib validNodeUids current proposed) proposed draft draft') :
    Reached lib validNodeUids generated current item draft' where
  rows other isOther same := by
    by_cases key : proposed.generationKey = other.generationKey
    · obtain rfl := wellFormed.unique proposed mem other isOther key
      rw [same]
      exact running.settled _ mem accepted
    · rw [accepted.rowsOf_other key]
      exact reached.rows other isOther same
  gone line stale same row isRow := by
    obtain ⟨isRow, _⟩ := Draft.mem_resulting.mp isRow
    rcases accepted.mem_sections isRow with rfl | ⟨before, isBefore, id, -, -⟩
    · intro sameId
      have isKnown : line ∈ current ++ generated :=
        mem_append_left _ (staleSections_current stale).1
      exact staleSections_key stale mem (identified row (by simp [mem]) line isKnown sameId).1.symm
    · rw [id]
      refine reached.gone line stale same before (Draft.mem_resulting.mpr ⟨isBefore, ?_⟩)
      rwa [← id, ← accepted.pendingDeletes_eq]

theorem Reached.staleItem (draft : Draft M) (line : LineSection M) :
    Reached lib validNodeUids generated current (staleItem lib line)
      (applyItem temporaryId draft (SectionGeneration.staleItem lib line)) where
  rows proposed _ same := absurd same.symm (itemOf_ne_staleItem _ proposed line)
  gone other _ same row isRow := by
    obtain rfl : line = other := Option.some_inj.mp (congrArg PreviewItem.currentSection same)
    obtain ⟨isRow, notPending⟩ := Draft.mem_resulting.mp isRow
    rcases applyItem_staleItem _ _ draft line with ⟨absent, eq⟩ | eq | eq <;>
      rw [eq] at isRow notPending
    · exact absent row isRow
    · simpa using (mem_filter.mp isRow).2
    · exact fun sameId => notPending (by simp [sameId])

/-- The step about a stale section loses no goal. -/
theorem Reached.stale (reached : Reached lib validNodeUids generated current item draft)
    (running : Running lib validNodeUids generated current draft)
    (identified : Identified (current ++ generated))
    (stale : line ∈ staleSections generated current) :
    Reached lib validNodeUids generated current item
      (applyItem temporaryId draft (SectionGeneration.staleItem lib line)) where
  rows proposed mem same :=
    (running.rowsOf_stale _ _ identified stale mem).trans (reached.rows proposed mem same)
  gone other isStale same row isRow := by
    refine reached.gone other isStale same row (Draft.mem_resulting.mpr ?_)
    obtain ⟨isRow, notPending⟩ := Draft.mem_resulting.mp isRow
    rcases applyItem_staleItem _ _ draft line with ⟨-, eq⟩ | eq | eq <;>
      rw [eq] at isRow notPending
    · exact ⟨isRow, notPending⟩
    · exact ⟨mem_of_mem_filter isRow, notPending⟩
    · exact ⟨isRow, fun pending => notPending (mem_cons_of_mem _ pending)⟩

theorem mem_itemsInOrder : item ∈ itemsInOrder lib validNodeUids generated current ↔
      (∃ proposed ∈ generated, item = itemOf lib validNodeUids current proposed) ∨
        ∃ line ∈ staleSections generated current, item = staleItem lib line := by
  simp [itemsInOrder, eq_comm]

theorem Running.start (wellFormed : Generated generated) :
    Running lib validNodeUids generated current ⟨current, []⟩ where
  known row mem := ⟨row, mem_append_left _ mem, rfl, rfl, rfl⟩
  pending _ mem := nomatch mem
  rows proposed mem := .inl (keyMatches_eq _ (wellFormed.keyed proposed mem)).symm
  manual := rfl

theorem accept_kept (wellFormed : Generated generated)
    (identified : Identified (current ++ generated)) (items : List (PreviewItem M))
    (permutes : items.Perm (itemsInOrder lib validNodeUids generated current)) :
    Running lib validNodeUids generated current
        (items.foldl (applyItem temporaryId) ⟨current, []⟩) ∧
      ∀ item ∈ items, Reached lib validNodeUids generated current item
        (items.foldl (applyItem temporaryId) ⟨current, []⟩) := by
  obtain ⟨running, reached, -⟩ := foldl_reaches (applyItem _) (Running _ _ _ _)
    (Reached _ _ _ _) items ⟨current, []⟩
    (Running.start _ wellFormed)
    (by
      intro item mem draft running
      rcases (mem_itemsInOrder lib).mp (permutes.mem_iff.mp mem) with
        ⟨proposed, isGenerated, rfl⟩ | ⟨line, stale, rfl⟩
      · have accepted := applyItem_itemOf lib temporaryId running wellFormed
          identified isGenerated
        exact ⟨running.accepted lib wellFormed isGenerated accepted,
          running.reached lib isGenerated accepted⟩
      · exact ⟨running.stale lib temporaryId identified stale,
          Reached.staleItem _ _ draft line⟩)
    (by
      intro item mem draft running other reached
      rcases (mem_itemsInOrder lib).mp (permutes.mem_iff.mp mem) with
        ⟨proposed, isGenerated, rfl⟩ | ⟨line, stale, rfl⟩
      · exact reached.accepted lib running wellFormed identified isGenerated
          (applyItem_itemOf lib temporaryId running wellFormed identified isGenerated)
      · exact reached.stale lib temporaryId running identified stale)
  exact ⟨running, reached⟩

end Steps

end NetConsole.SectionGeneration
