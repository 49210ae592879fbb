import NetConsole.SectionGeneration.Comparison

/-!
# Accepting the items of a comparison

An item about a generated section changes only the rows that carry its generation key
(`Accepted`), and an item about a stale section only takes rows away
(`applyItem_staleItem`).
-/

set_option autoImplicit false

namespace NetConsole.SectionGeneration

open List

variable {M : Type} (lib : Library M)

/-! ## Merged sections -/

variable {α : Type}

theorem LineSection.keep_self (line : LineSection M) (field : String) (own : α) :
    line.keep field own own = own := by
  simp [LineSection.keep]

theorem LineSection.keep_congr {one two : LineSection M} (field : String) (own generated : α)
    (same : one.manualOverrideFields = two.manualOverrideFields) :
    one.keep field (two.keep field own generated) generated = two.keep field own generated := by
  unfold LineSection.keep
  rw [same]
  split <;> rfl

theorem merged_self (line : LineSection M) : merged line line = line := by
  simp [merged, LineSection.keep_self]

theorem merged_merged (current proposed : LineSection M) :
    merged (merged current proposed) proposed = merged current proposed := by
  have same : (merged current proposed).manualOverrideFields = current.manualOverrideFields := rfl
  have keeps {α : Type} (field : String) (own generated : α) :=
    LineSection.keep_congr field own generated same
  simp only [merged] at keeps ⊢
  simp only [keeps]

/-! ## Runs of a loop -/

/-- A loop that reaches each of its goals in the step about it, and loses none of them. -/
theorem foldl_reaches {σ ι : Type} (step : σ → ι → σ) (Kept : σ → Prop) (Goal : ι → σ → Prop) :
    ∀ (items : List ι) (state : σ), Kept state →
      (∀ item ∈ items, ∀ state, Kept state → Kept (step state item) ∧ Goal item (step state item)) →
      (∀ item ∈ items, ∀ state, Kept state → ∀ other, Goal other state →
        Goal other (step state item)) →
      Kept (items.foldl step state) ∧ (∀ item ∈ items, Goal item (items.foldl step state)) ∧
        ∀ other, Goal other state → Goal other (items.foldl step state)
  | [], _, kept, _, _ => ⟨kept, by simp, fun _ goal => goal⟩
  | item :: items, state, kept, reaches, keeps => by
    obtain ⟨kept', goal⟩ := reaches item (by simp) state kept
    obtain ⟨keptEnd, goals, others⟩ := foldl_reaches step Kept Goal items (step state item) kept'
      (fun later mem => reaches later (by simp [mem]))
      (fun later mem => keeps later (by simp [mem]))
    refine ⟨keptEnd, ?_, fun other reached =>
      others other (keeps item (by simp) state kept other reached)⟩
    intro later mem
    rcases mem_cons.mp mem with rfl | mem
    · exact others later goal
    · exact goals later mem

theorem assignFirst_cases (found : α → Bool) (change : α → α) (values : List α) :
    (assignFirst found change values = none ∧ ∀ value ∈ values, found value = false) ∨
      ∃ before value after, values = before ++ value :: after ∧
        (∀ earlier ∈ before, found earlier = false) ∧ found value = true ∧
        assignFirst found change values = some (before ++ change value :: after) := by
  induction values with
  | nil => exact .inl ⟨rfl, by simp⟩
  | cons first rest ih =>
    by_cases here : found first = true
    · exact .inr ⟨[], first, rest, rfl, by simp, here, by simp [assignFirst, here]⟩
    · rw [Bool.not_eq_true] at here
      rcases ih with ⟨none, absent⟩ | ⟨before, value, after, split, earlier, isFound, result⟩
      · exact .inl ⟨by simp [assignFirst, here, none], by simpa [here] using absent⟩
      · refine .inr ⟨first :: before, value, after, by simp [split], by simpa [here] using earlier,
          isFound, by simp [assignFirst, here, result]⟩

/-! ## What a generated section meets -/

variable {proposed : LineSection M} {current : List (LineSection M)}

theorem matchSection_existing {found : LineSection M}
    (met : matchSection lib current proposed = .existing found) :
    keyMatches current proposed.generationKey = [found] ∧ found.autoGenerated = true := by
  unfold matchSection at met
  split at met
  · exact nomatch met
  · next one only =>
    split at met
    · next automatic => exact ⟨by cases met; exact only, by cases met; exact automatic⟩
    · exact nomatch met
  · split at met <;> exact nomatch met

theorem matchSection_absent (met : matchSection lib current proposed = .absent) :
    keyMatches current proposed.generationKey = [] := by
  unfold matchSection at met
  split at met
  · exact nomatch met
  · split at met <;> exact nomatch met
  · next none => exact none

/-! ## One accepted item -/

/-- What the generation promises of its sections. -/
structure Generated (generated : List (LineSection M)) : Prop where
  keyed : ∀ proposed ∈ generated, proposed.generationKey ≠ ""
  new : ∀ proposed ∈ generated, isNewId proposed.id = true
  automatic : ∀ proposed ∈ generated, proposed.autoGenerated = true
  unedited : ∀ proposed ∈ generated, proposed.manualOverrideFields = []
  unique : ∀ one ∈ generated, ∀ two ∈ generated, one.generationKey = two.generationKey → one = two

/-- Sections with one identifier are one section: its key and its origin agree. -/
def Identified (sections : List (LineSection M)) : Prop :=
  ∀ one ∈ sections, ∀ two ∈ sections, one.id = two.id →
    one.generationKey = two.generationKey ∧ one.autoGenerated = two.autoGenerated

/-- The rows of a draft that carry a key. -/
def Draft.rowsOf (draft : Draft M) (key : String) : List (LineSection M) :=
  draft.sections.filter fun line => line.generationKey = key

/-- The rows of its key after an item about a generated section. -/
def PreviewItem.settle (item : PreviewItem M) (rows : List (LineSection M)) :
    List (LineSection M) :=
  match item.proposedSection with
  | none => rows
  | some proposed =>
    if item.result = .create ∨ item.result = .update then
      match rows with
      | [] => [proposed]
      | row :: rest => assigned proposed row :: rest
    else rows

variable {item : PreviewItem M}

theorem PreviewItem.settle_accepted (proposes : item.proposedSection = some proposed)
    (result : item.result = .create ∨ item.result = .update) (rows : List (LineSection M)) :
    item.settle rows =
      match rows with
      | [] => [proposed]
      | row :: rest => assigned proposed row :: rest := by
  simp only [PreviewItem.settle, proposes, if_pos result]

theorem PreviewItem.settle_other (notNew : item.result ≠ .create)
    (notChanged : item.result ≠ .update) (rows : List (LineSection M)) :
    item.settle rows = rows := by
  unfold PreviewItem.settle
  split
  · rfl
  · rw [if_neg (by simp [notNew, notChanged])]

theorem PreviewItem.settle_settle (item : PreviewItem M) (rows : List (LineSection M)) :
    item.settle (item.settle rows) = item.settle rows := by
  unfold PreviewItem.settle
  split
  · rfl
  · split
    · cases rows with
      | nil => rfl
      | cons row rest => rfl
    · rfl

/-- What the acceptance of an item about `generated` does to a draft: nothing, or a new row
at the end, or another value in the first row of the key. -/
inductive Accepted (item : PreviewItem M) (generated : LineSection M) (draft : Draft M) :
    Draft M → Prop
  | same (settled : ∀ rows, item.settle rows = rows) : Accepted item generated draft draft
  | appended (settled : item.settle [] = [generated])
      (absent : draft.rowsOf generated.generationKey = []) :
      Accepted item generated draft { draft with sections := draft.sections ++ [generated] }
  | changed (before after : List (LineSection M)) (row proposed : LineSection M)
      (split : draft.sections = before ++ row :: after)
      (earlier : ∀ line ∈ before, line.generationKey ≠ generated.generationKey)
      (carries : row.generationKey = generated.generationKey) (origin : row.autoGenerated = true)
      (keeps : proposed.generationKey = generated.generationKey)
      (automatic : proposed.autoGenerated = true)
      (settled : ∀ rest, item.settle (row :: rest) = assigned proposed row :: rest) :
      Accepted item generated draft
        { draft with sections := before ++ assigned proposed row :: after }

variable {draft : Draft M} {key : String}

theorem Draft.rowsOf_eq_nil (absent : ∀ line ∈ draft.sections, line.generationKey ≠ key) :
    draft.rowsOf key = [] := by
  simpa [Draft.rowsOf] using absent

theorem Draft.mem_rowsOf {line : LineSection M} :
    line ∈ draft.rowsOf key ↔ line ∈ draft.sections ∧ line.generationKey = key := by
  simp [Draft.rowsOf]

/-- A new or changed section goes to the first row of its key, or to the end. -/
theorem applyItem_accepted {generated : LineSection M} (temporaryId : String)
    (selectable : item.selectable = true) (result : item.result = .create ∨ item.result = .update)
    (proposes : item.proposedSection = some proposed) (keyed : generated.generationKey ≠ "")
    (keeps : proposed.generationKey = generated.generationKey)
    (automatic : proposed.autoGenerated = true) (about : ∀ line ∈ draft.sections,
      item.currentSection.any (fun current => line.id = current.id) = true →
        line.generationKey = generated.generationKey)
    (origin : ∀ line ∈ draft.rowsOf generated.generationKey, line.autoGenerated = true)
    (place : proposed = generated ∧ isNewId generated.id = true ∨
      draft.rowsOf generated.generationKey ≠ []) :
    Accepted item generated draft (applyItem temporaryId draft item) := by
  have settled := PreviewItem.settle_accepted proposes result
  have applied : applyItem temporaryId draft item =
      (assignFirst (item.isRow proposed) (assigned proposed) draft.sections).elim
        (let id := if isNewId proposed.id then proposed.id else temporaryId
        { draft with sections := draft.sections ++ [{ proposed with id := id }] })
        fun sections => { draft with sections := sections } := by
    rcases result with result | result <;> simp [applyItem, selectable, result, proposes] <;>
      cases assignFirst (item.isRow proposed) (assigned proposed) draft.sections <;> rfl
  rw [applied]
  -- a row that is found carries the key, and every row that carries it is found
  have foundKey : ∀ line ∈ draft.sections, item.isRow proposed line = true →
      line.generationKey = generated.generationKey := by
    intro line mem found
    rcases (Bool.or_eq_true _ _).mp found with byId | byKey
    · exact about line mem byId
    · have same : line.generationKey = proposed.generationKey := by
        simpa using ((Bool.and_eq_true _ _).mp byKey).2
      exact same.trans keeps
  have keyFound : ∀ line : LineSection M, item.isRow proposed line = false →
      line.generationKey ≠ generated.generationKey := by
    intro line notFound same
    simp [PreviewItem.isRow, keeps, keyed, same] at notFound
  rcases assignFirst_cases _ (assigned proposed) draft.sections with
    ⟨none, absent⟩ | ⟨before, row, after, split, earlier, isFound, some⟩
  · rw [none]
    have noRows : draft.rowsOf generated.generationKey = [] :=
      Draft.rowsOf_eq_nil fun line mem => keyFound line (absent line mem)
    obtain ⟨rfl, isNew⟩ := place.resolve_right fun rows => rows noRows
    simp only [isNew, if_true]
    exact .appended (settled []) noRows
  · rw [some]
    have isRow : row ∈ draft.sections := by simp [split]
    have carries := foundKey row isRow isFound
    exact .changed before after row proposed split
      (fun line mem => keyFound line (earlier line mem)) carries
      (origin row (Draft.mem_rowsOf.mpr ⟨isRow, carries⟩)) keeps automatic
      (fun rest => settled (row :: rest))

section Accepted

variable {item : PreviewItem M} {generated : LineSection M} {draft draft' : Draft M}
  (accepted : Accepted item generated draft draft')
include accepted

theorem Accepted.pendingDeletes_eq : draft'.pendingDeletes = draft.pendingDeletes := by
  cases accepted <;> rfl

theorem Accepted.rowsOf_key : draft'.rowsOf generated.generationKey =
      item.settle (draft.rowsOf generated.generationKey) := by
  cases accepted with
  | same settled => exact (settled _).symm
  | appended settled absent =>
    have own : (draft.sections ++ [generated]).filter
        (fun line => line.generationKey = generated.generationKey) =
          draft.rowsOf generated.generationKey ++ [generated] := by
      simp [Draft.rowsOf]
    rw [absent] at own
    rw [absent, settled]
    exact own
  | changed before after row proposed split earlier carries origin keeps automatic settled =>
    have none : before.filter (fun line => line.generationKey = generated.generationKey) = [] := by
      simpa [filter_eq_nil_iff] using earlier
    have keyed : (assigned proposed row).generationKey = generated.generationKey := keeps
    simp [Draft.rowsOf, split, none, carries, keyed, settled]

theorem Accepted.rowsOf_other {key : String} (other : generated.generationKey ≠ key) :
    draft'.rowsOf key = draft.rowsOf key := by
  cases accepted with
  | same => rfl
  | appended => simp [Draft.rowsOf, other]
  | changed before after row proposed split earlier carries origin keeps automatic settled =>
    have keyed : (assigned proposed row).generationKey = generated.generationKey := keeps
    simp [Draft.rowsOf, split, carries, keyed, other]

/-- The rows that were made by hand stay. -/
theorem Accepted.manual_eq (automatic : generated.autoGenerated = true) :
    (draft'.sections.filter fun line => !line.autoGenerated) =
      draft.sections.filter fun line => !line.autoGenerated := by
  cases accepted with
  | same => rfl
  | appended => simp [automatic]
  | changed before after row proposed split earlier carries origin keeps isAutomatic settled =>
    have origin' : (assigned proposed row).autoGenerated = true := isAutomatic
    simp [split, origin, origin']

theorem Accepted.mem_sections {row : LineSection M} (mem : row ∈ draft'.sections) :
    row = generated ∨ ∃ before ∈ draft.sections, row.id = before.id ∧
      row.generationKey = before.generationKey ∧ row.autoGenerated = before.autoGenerated := by
  cases accepted with
  | same => exact .inr ⟨row, mem, rfl, rfl, rfl⟩
  | appended =>
    rcases mem_append.mp mem with mem | mem
    · exact .inr ⟨row, mem, rfl, rfl, rfl⟩
    · exact .inl (mem_singleton.mp mem)
  | changed before after changed proposed split earlier carries origin keeps automatic settled =>
    right
    rcases mem_append.mp mem with mem | mem
    · exact ⟨row, by simp [split, mem], rfl, rfl, rfl⟩
    · rcases mem_cons.mp mem with rfl | mem
      · exact ⟨changed, by simp [split], rfl, keeps.trans carries.symm, automatic.trans origin.symm⟩
      · exact ⟨row, by simp [split, mem], rfl, rfl, rfl⟩

omit accepted

end Accepted

/-- An item about a stale section takes away the rows with its identifier, now or by the
save. -/
theorem applyItem_staleItem (temporaryId : String) (draft : Draft M) (line : LineSection M) :
    ((∀ row ∈ draft.sections, row.id ≠ line.id) ∧
        applyItem temporaryId draft (staleItem lib line) = draft) ∨
      applyItem temporaryId draft (staleItem lib line) =
        { draft with sections := draft.sections.filter fun row => row.id ≠ line.id } ∨
      applyItem temporaryId draft (staleItem lib line) =
        { draft with pendingDeletes := line.id :: draft.pendingDeletes } := by
  cases isFound : draft.sections.find? fun row => row.id = line.id with
  | some found =>
    have same : found.id = line.id := by simpa using List.find?_some isFound
    have applied : applyItem temporaryId draft (staleItem lib line) =
        draft.markForDeletion line.id := by
      simp [applyItem, staleItem, isFound, same]
    rw [applied, Draft.markForDeletion]
    split
    · exact .inr (.inl rfl)
    · exact .inr (.inr rfl)
  | none =>
    exact .inl ⟨by simpa using isFound, by simp [applyItem, staleItem, isFound]⟩

theorem Draft.mem_resulting {draft : Draft M} {row : LineSection M} :
    row ∈ draft.resulting ↔ row ∈ draft.sections ∧ row.id ∉ draft.pendingDeletes := by
  simp [Draft.resulting]

theorem keyMatches_eq (sections : List (LineSection M)) {key : String} (keyed : key ≠ "") :
    keyMatches sections key = sections.filter fun line => line.generationKey = key := by
  refine filter_congr fun line _ => ?_
  by_cases same : line.generationKey = key
  · simp [same, keyed]
  · simp [same]

section Stale

variable {generated current : List (LineSection M)} {line : LineSection M}

theorem staleSections_key (stale : line ∈ staleSections generated current)
    {proposed : LineSection M} (mem : proposed ∈ generated) :
    line.generationKey ≠ proposed.generationKey := by
  intro same
  simp only [staleSections, mem_filter, Bool.and_eq_true, decide_eq_true_eq] at stale
  exact stale.2.2 (same ▸ mem_map_of_mem mem)

theorem staleSections_current (stale : line ∈ staleSections generated current) :
    line ∈ current ∧ line.autoGenerated = true := by
  simp only [staleSections, mem_filter, Bool.and_eq_true] at stale
  exact ⟨stale.1, stale.2.1.1⟩

end Stale

end NetConsole.SectionGeneration
