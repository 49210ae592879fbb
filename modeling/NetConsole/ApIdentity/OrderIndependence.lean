import NetConsole.ApIdentity.IndexBuilder

/-!
# The AP identity index does not depend on the order of the rows

Rows reach the index in groups only, and a group keeps of the order of its rows
no more than how equal sort keys follow each other. So the index of every
permutation of the rows is the same when no group holds a sort key twice
(`buildApIdentityIndex_perm`).

An index refers to what it holds: aliases and conflicts carry the identifier of
the entity they were found for, and of entities with one identifier one stays
(`refers_indexOf`). Every entity has a source, so that building never fails
(`entityProjection_isSome`).
-/

set_option autoImplicit false

namespace NetConsole.ApIdentity

open Foundations (exists_kept firstByKey firstByKey_sublist mem_sortedGroups
  sortedGroups_perm)
open Worker (Event PythonLibrary)
open List

variable (lib : PythonLibrary) (digest : String → String) (siteId : String)

/-! ## Order -/

/-- No group of the sources holds a sort key twice. -/
def KeysDistinct (rows : List SourceAp) : Prop :=
  ∀ name, ((rows.filter fun item => groupName lib item = name).map sourceSortKey).Nodup

/-- The sort keys of the rows are distinct within each group. -/
structure RowsDistinct (baseRows acRows : List Event) : Prop where
  base : KeysDistinct lib (baseSources lib baseRows)
  ac : KeysDistinct lib (identitySources lib acRows "ac_runtime")
  legacy : KeysDistinct lib (identitySources lib acRows "legacy_cache")

variable {lib digest siteId} {baseRows acRows otherBase otherAc : List Event}
  {rows : List SourceAp}

theorem groupSources_perm {other : List SourceAp} (permuted : rows.Perm other)
    (distinct : KeysDistinct lib rows) : groupSources lib rows = groupSources lib other :=
  sortedGroups_perm permuted distinct

theorem baseSources_perm (permuted : baseRows.Perm otherBase) :
    (baseSources lib baseRows).Perm (baseSources lib otherBase) :=
  (permuted.map _).filter _

theorem identitySources_perm (permuted : acRows.Perm otherAc) (source : String) :
    (identitySources lib acRows source).Perm (identitySources lib otherAc source) :=
  ((permuted.map _).filter _).filter _

theorem sourceGroups_perm (distinct : RowsDistinct lib baseRows acRows)
    (base : baseRows.Perm otherBase) (ac : acRows.Perm otherAc) :
    sourceGroups lib baseRows acRows = sourceGroups lib otherBase otherAc := by
  have sameBase := groupSources_perm (baseSources_perm base) distinct.base
  have sameAc := groupSources_perm (identitySources_perm ac "ac_runtime") distinct.ac
  have sameLegacy := groupSources_perm (identitySources_perm ac "legacy_cache") distinct.legacy
  rw [sourceGroups, sourceGroups, sameBase, sameAc, sameLegacy]

theorem buildApIdentityIndex_perm (distinct : RowsDistinct lib baseRows acRows)
    (base : baseRows.Perm otherBase) (ac : acRows.Perm otherAc) :
    buildApIdentityIndex lib digest siteId baseRows acRows =
      buildApIdentityIndex lib digest siteId otherBase otherAc := by
  rw [buildApIdentityIndex, buildApIdentityIndex, sourceGroups_perm distinct base ac,
    (baseSources_perm base).length_eq, (identitySources_perm ac "ac_runtime").length_eq]

/-! ## References -/

/-- Every alias and every conflict of an index refers to one of its entities. -/
structure Refers (index : ApIdentityIndexBuild) : Prop where
  aliases : ∀ item ∈ index.aliases, ∃ entity ∈ index.entities, entity.entityId = item.entityId
  conflicts : ∀ item ∈ index.conflicts, ∃ entity ∈ index.entities, entity.entityId = item.entityId

/-- What an entity brings along is about that entity. -/
structure EntityProjection.Own (projection : EntityProjection) : Prop where
  aliases : ∀ item ∈ projection.aliases, item.entityId = projection.entity.entityId
  conflicts : ∀ item ∈ projection.conflicts, item.entityId = projection.entity.entityId

variable {entityId : String} {item : ApIdentityMacAliasRecord}
  {source : String} {confidence priority : ℕ}

theorem entityId_derivedAlias {aliasType rule : String} {radioId : ℕ} {derived : Option String}
    (mem : item ∈ derivedAlias lib siteId entityId source priority confidence derived radioId
      aliasType rule) : item.entityId = entityId := by
  unfold derivedAlias at mem
  split at mem
  · split at mem
    · cases mem
    · rw [mem_singleton.mp mem]
      rfl
  · cases mem

theorem entityId_h3cExactAliases {baseMacKey vendor : String} {allowUnknownVendor : Bool}
    (mem : item ∈ h3cExactAliases lib siteId entityId baseMacKey source priority confidence
      vendor allowUnknownVendor) : item.entityId = entityId := by
  unfold h3cExactAliases at mem
  dsimp only at mem
  split_ifs at mem
  · cases mem
  · cases mem
  · rcases mem_append.mp mem with mem | mem
    · exact entityId_derivedAlias mem
    · exact entityId_derivedAlias mem

theorem entityId_acMacAliases {source : SourceAp}
    (mem : item ∈ acMacAliases lib siteId entityId source) : item.entityId = entityId := by
  unfold acMacAliases at mem
  split_ifs at mem
  · cases mem
  · rcases mem_cons.mp mem with rfl | mem
    · rfl
    · exact entityId_h3cExactAliases mem
  · rw [mem_singleton.mp mem]
    rfl

theorem entityId_acSourceAliases {source : SourceAp}
    (mem : item ∈ acSourceAliases lib siteId entityId source) : item.entityId = entityId := by
  rcases mem_append.mp mem with mem | mem
  · exact entityId_acMacAliases mem
  · split_ifs at mem
    · cases mem
    · obtain ⟨_, -, rfl⟩ := mem_map.mp mem
      rfl

theorem entityId_baseSourceAliases {source : SourceAp} {acVendor baseVendor : String}
    (mem : item ∈ baseSourceAliases lib siteId entityId acVendor baseVendor source) :
    item.entityId = entityId := by
  unfold baseSourceAliases at mem
  split_ifs at mem
  · cases mem
  all_goals
    rcases mem_cons.mp mem with rfl | mem
    · rfl
    · exact entityId_h3cExactAliases mem

theorem entityId_conflictRows {ac base : Option SourceAp} {row : ApIdentityConflictRecord}
    (mem : row ∈ conflictRows lib siteId entityId ac base) : row.entityId = entityId := by
  unfold conflictRows at mem
  split at mem
  · rcases mem_append.mp mem with mem | mem
    all_goals
      split_ifs at mem
      · rw [mem_singleton.mp mem]
        rfl
      · cases mem
  · cases mem

variable {baseGroup acGroup : List SourceAp}

theorem own_entityProjection {projection : EntityProjection}
    (projected : entityProjection lib digest siteId acGroup baseGroup = some projection) :
    projection.Own := by
  unfold entityProjection at projected
  dsimp only at projected
  split at projected
  · cases projected
  · rw [← Option.some.inj projected]
    constructor
    · intro item mem
      rcases mem_append.mp mem with mem | mem
      · obtain ⟨source, -, mem⟩ := mem_flatMap.mp mem
        exact entityId_acSourceAliases mem
      · obtain ⟨source, -, mem⟩ := mem_flatMap.mp mem
        exact entityId_baseSourceAliases mem
    · intro row mem
      exact entityId_conflictRows mem

/-- Leaving records out that agree in their marks leaves an entity for each. -/
theorem refers_indexOf {projections : List EntityProjection}
    (own : ∀ projection ∈ projections, projection.Own) (baseRecordCount acRecordCount : ℕ) :
    Refers (indexOf projections baseRecordCount acRecordCount) := by
  have kept {projection : EntityProjection} (mem : projection ∈ projections) :
      ∃ entity ∈ (indexOf projections baseRecordCount acRecordCount).entities,
        entity.entityId = projection.entity.entityId :=
    exists_kept _ (mem_map_of_mem mem) not_mem_nil
  constructor
  · intro item mem
    have found := (firstByKey_sublist _ _ _).subset mem
    obtain ⟨projection, inside, mem⟩ := mem_flatMap.mp found
    rw [(own projection inside).aliases item mem]
    exact kept inside
  · intro item mem
    have found := (firstByKey_sublist _ _ _).subset mem
    obtain ⟨projection, inside, mem⟩ := mem_flatMap.mp found
    rw [(own projection inside).conflicts item mem]
    exact kept inside

/-! ## Every entity has a source -/

theorem bestSource_isSome (nonempty : rows ≠ []) : (bestSource rows).isSome := by
  cases rows with
  | nil => exact absurd rfl nonempty
  | cons item rest => rfl

theorem entityProjection_isSome
    (sources : (∃ item ∈ acGroup, item.source = "ac_runtime" ∨ item.source = "legacy_cache") ∨
      baseGroup ≠ []) :
    (entityProjection lib digest siteId acGroup baseGroup).isSome := by
  have filtered {name : String} {item : SourceAp} (mem : item ∈ acGroup)
      (named : item.source = name) : (bestSource (acGroup.filter (·.source = name))).isSome :=
    bestSource_isSome (ne_nil_of_mem (mem_filter.mpr ⟨mem, by simpa using named⟩))
  have some : ((bestSource (acGroup.filter (·.source = "ac_runtime"))).or ((bestSource baseGroup).or
        (bestSource (acGroup.filter (·.source = "legacy_cache"))))).isSome := by
    rcases sources with ⟨item, mem, named | named⟩ | nonempty
    · simp [filtered mem named]
    · simp [filtered mem named]
    · simp [bestSource_isSome nonempty]
  unfold entityProjection
  dsimp only
  split
  · next missing => simp [missing] at some
  · rfl

theorem source_of_identitySources {item : SourceAp}
    (mem : item ∈ identitySources lib acRows source) : item.source = source := by
  simpa using (mem_filter.mp mem).2

theorem exists_source {group : List SourceAp}
    (mem : group ∈ groupSources lib (identitySources lib acRows source)) :
    ∃ item ∈ group, item.source = source := by
  obtain ⟨nonempty, inside⟩ := mem_sortedGroups mem
  obtain ⟨item, itemMember⟩ := exists_mem_of_ne_nil group nonempty
  exact ⟨item, itemMember, source_of_identitySources (inside item itemMember)⟩

theorem entitySources_project {group : List SourceAp × List SourceAp}
    (mem : group ∈ entitySources lib (sourceGroups lib baseRows acRows)) :
    (entityProjection lib digest siteId group.1 group.2).isSome := by
  apply entityProjection_isSome
  unfold entitySources at mem
  dsimp only at mem
  rcases mem_append.mp mem with mem | mem
  · rcases mem_append.mp mem with mem | mem
    · obtain ⟨⟨_, index⟩, placed, rfl⟩ := mem_map.mp mem
      have inside := mem_of_getElem? (mem_zipIdx_iff_getElem?.mp placed)
      obtain ⟨item, itemMember, named⟩ := exists_source inside
      exact .inl ⟨item, mem_append_left _ itemMember, .inl named⟩
    · obtain ⟨⟨⟨_, _⟩, index⟩, placed, projected⟩ := mem_filterMap.mp mem
      have inside := mem_of_getElem? (mem_zipIdx_iff_getElem?.mp placed)
      split_ifs at projected
      cases projected
      exact .inr (mem_sortedGroups (of_mem_zip inside).1).1
  · obtain ⟨⟨_, _⟩, placed, projected⟩ := mem_filterMap.mp mem
    split_ifs at projected
    cases projected
    obtain ⟨item, itemMember, named⟩ := exists_source (of_mem_zip placed).1
    exact .inl ⟨item, itemMember, .inr named⟩

/-- Where every step succeeds, all of them do, and what they give is what the steps give. -/
theorem mapM_isSome {Input Output : Type} {step : Input → Option Output} {inputs : List Input}
    (succeeds : ∀ input ∈ inputs, (step input).isSome) :
    ∃ outputs, inputs.mapM step = some outputs ∧
      ∀ output ∈ outputs, ∃ input ∈ inputs, step input = some output := by
  induction inputs with
  | nil => exact ⟨[], rfl, by simp⟩
  | cons input rest ih =>
    obtain ⟨first, others⟩ := forall_mem_cons.mp succeeds
    obtain ⟨output, stepped⟩ := Option.isSome_iff_exists.mp first
    obtain ⟨outputs, mapped, from_⟩ := ih others
    refine ⟨output :: outputs, by simp [stepped, mapped], ?_⟩
    intro other mem
    rcases mem_cons.mp mem with rfl | mem
    · exact ⟨input, mem_cons_self, stepped⟩
    · obtain ⟨source, inside, equal⟩ := from_ other mem
      exact ⟨source, mem_cons_of_mem _ inside, equal⟩

theorem buildApIdentityIndex_refers (baseRows acRows : List Event) :
    ∃ index, buildApIdentityIndex lib digest siteId baseRows acRows = some index ∧
      Refers index := by
  have succeeds (group : List SourceAp × List SourceAp)
      (mem : group ∈ entitySources lib (sourceGroups lib baseRows acRows)) :
      (entityProjection lib digest siteId group.1 group.2).isSome :=
    entitySources_project mem
  obtain ⟨projections, mapped, from_⟩ := mapM_isSome succeeds
  refine ⟨indexOf projections _ _, by rw [buildApIdentityIndex, mapped]; rfl, ?_⟩
  refine refers_indexOf (fun projection mem => ?_) _ _
  obtain ⟨group, -, projected⟩ := from_ projection mem
  exact own_entityProjection projected

/-! ## The laws of the index -/

/-- Rows whose sort keys are distinct within each group have the same index in every
order, and every index refers to what it holds. -/
theorem apIdentityIndex_orderIndependent (lib : PythonLibrary) (digest : String → String)
    (siteId : String) :
    (∀ baseRows acRows otherBase otherAc : List Event, RowsDistinct lib baseRows acRows →
      baseRows.Perm otherBase → acRows.Perm otherAc →
      buildApIdentityIndex lib digest siteId baseRows acRows =
        buildApIdentityIndex lib digest siteId otherBase otherAc) ∧
    ∀ baseRows acRows : List Event, ∃ index,
      buildApIdentityIndex lib digest siteId baseRows acRows = some index ∧ Refers index :=
  ⟨fun _ _ _ _ distinct base ac => buildApIdentityIndex_perm distinct base ac,
    fun baseRows acRows => buildApIdentityIndex_refers baseRows acRows⟩

theorem keysDistinct_of_nodup (distinct : (rows.map sourceSortKey).Nodup) :
    KeysDistinct lib rows := fun _ =>
  distinct.sublist (filter_sublist.map _)

/-- A library for ASCII texts. -/
def asciiLibrary : PythonLibrary where
  loads _ := .error .jsonDecodeError
  containerText _ := "[]"
  intOfText _ := .error .valueError
  intOfFloat _ := .ok 0
  upper text := String.ofList (text.toList.map Char.toUpper)
  casefold text := String.ofList (text.toList.map Char.toLower)
  redactWebTaskText text := text
  oneCharacter := PythonLibrary.plain.oneCharacter

def sampleBaseRows : List Event :=
  [[("id", .int 1), ("ap_mac", .str "00:11:22:33:44:50"), ("ap_name", .str "AP 1"),
      ("updated_at", .str "2024-05-01")],
    [("id", .int 2), ("ap_mac", .str "0011-2233-4450"), ("ap_name", .str "AP one"),
      ("updated_at", .str "2024-05-02")]]

def sampleAcRows : List Event :=
  [[("ap_uuid", .str "U-1"), ("ap_mac", .str "001122334450"), ("ap_name", .str "AP 1"),
      ("ap_vendor", .str "h3c"), ("updated_at", .str "2024-05-03")],
    [("ap_uuid", .str "u-1"), ("ap_mac", .str "001122334450"), ("ap_name", .str "AP 1"),
      ("radio1_mac", .str "00:11:22:33:44:5f"), ("updated_at", .str "2024-05-04")],
    [("_identity_source", .str "legacy_cache"), ("ap_mac", .str "001122334460"),
      ("ap_uuid", .str "u-1"), ("updated_at", .str "2023-01-01")]]

theorem rowsDistinct_sample : RowsDistinct asciiLibrary sampleBaseRows sampleAcRows where
  base := keysDistinct_of_nodup (by decide +kernel)
  ac := keysDistinct_of_nodup (by decide +kernel)
  legacy := keysDistinct_of_nodup (by decide +kernel)

theorem apIdentityIndex_orderIndependent_sample :
    buildApIdentityIndex asciiLibrary id "site" sampleBaseRows sampleAcRows =
      buildApIdentityIndex asciiLibrary id "site" sampleBaseRows.reverse sampleAcRows.reverse :=
  (apIdentityIndex_orderIndependent asciiLibrary id "site").1 _ _ _ _ rowsDistinct_sample
    (reverse_perm _).symm (reverse_perm _).symm

end NetConsole.ApIdentity
