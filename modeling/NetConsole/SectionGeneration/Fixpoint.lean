import NetConsole.SectionGeneration.Neighbours

/-!
# Generation reaches a fixpoint

Once every item of a preview is accepted, the next preview finds each generated section
unchanged, or in the same conflict as before: a section that is new has the generated
value, and a merged section absorbs another merge.
-/

set_option autoImplicit false

namespace NetConsole.SectionGeneration

open List

variable {M : Type} [LinearOrder M] (lib : Library M)

/-! ## The second comparison -/

variable {one two : List (LineSection M)}

omit [LinearOrder M] in
theorem nameMatches_find? (name : String) (manual : (one.filter fun line => !line.autoGenerated) =
      two.filter fun line => !line.autoGenerated) :
    ((nameMatches lib one name).find? fun line => !line.autoGenerated) =
      (nameMatches lib two name).find? fun line => !line.autoGenerated := by
  have swapped (sections : List (LineSection M)) :
      ((nameMatches lib sections name).find? fun line => !line.autoGenerated) =
        (sections.filter fun line => !line.autoGenerated).find? fun line =>
          line.name ≠ "" && lib.casefold line.name = lib.casefold name := by
    rw [nameMatches, List.find?_filter, List.find?_filter]
    refine congrArg (fun found => sections.find? found) (funext fun line => ?_)
    exact decide_eq_decide.mpr and_comm
  rw [swapped, swapped, manual]

omit [LinearOrder M] in
theorem matchSection_congr (proposed : LineSection M)
    (keys : keyMatches one proposed.generationKey = keyMatches two proposed.generationKey)
    (manual : (one.filter fun line => !line.autoGenerated) =
      two.filter fun line => !line.autoGenerated) :
    matchSection lib one proposed = matchSection lib two proposed := by
  unfold matchSection
  rw [keys, nameMatches_find? lib proposed.name manual]

variable {proposed found : LineSection M} {current : List (LineSection M)}

theorem itemOf_existing {validNodeUids : List String}
    (only : keyMatches current proposed.generationKey = [found])
    (automatic : found.autoGenerated = true) (present : missingNodeField validNodeUids found = none)
    : itemOf lib validNodeUids current proposed = existingItem lib proposed found := by
  have met : matchSection lib current proposed = .existing found := by
    simp [matchSection, only, automatic]
  simp [itemOf, compareSection, met, present]

theorem existingItem_unchanged (absorbed : merged found proposed = found) :
    (existingItem lib proposed found).result = .unchanged := by
  simp [existingItem, absorbed]

omit [LinearOrder M] in
theorem missingNodeField_unedited (validNodeUids : List String) {line : LineSection M}
    (unedited : line.manualOverrideFields = []) : missingNodeField validNodeUids line = none := by
  simp [missingNodeField, unedited]

omit [LinearOrder M] in
/-- A merged section keeps the nodes that were adjusted by hand. -/
theorem missingNodeField_merged (validNodeUids : List String) (current proposed : LineSection M) :
    missingNodeField validNodeUids (merged current proposed) =
      missingNodeField validNodeUids current := by
  simp only [missingNodeField, merged, LineSection.keep]
  by_cases start : "start_node_uid" ∈ current.manualOverrideFields <;>
    by_cases stop : "end_node_uid" ∈ current.manualOverrideFields <;>
    simp [List.find?_cons, start, stop]

theorem itemOf_again {validNodeUids : List String} {accepted : List (LineSection M)}
    (automatic : proposed.autoGenerated = true) (unedited : proposed.manualOverrideFields = [])
    (rows : keyMatches accepted proposed.generationKey =
      (itemOf lib validNodeUids current proposed).settle
        (keyMatches current proposed.generationKey))
    (manual : (accepted.filter fun line => !line.autoGenerated) =
      current.filter fun line => !line.autoGenerated) :
    (itemOf lib validNodeUids accepted proposed).result = .unchanged ∨
      (itemOf lib validNodeUids accepted proposed).result = .conflict := by
  -- an item that changes nothing is met again
  have again (notNew : (itemOf lib validNodeUids current proposed).result ≠ .create)
      (notChanged : (itemOf lib validNodeUids current proposed).result ≠ .update) :
      itemOf lib validNodeUids accepted proposed = itemOf lib validNodeUids current proposed := by
    have same := rows.trans (PreviewItem.settle_other notNew notChanged _)
    simp only [itemOf, compareSection, matchSection_congr lib proposed same manual]
  rcases itemOf_cases lib validNodeUids current proposed with
    ⟨issue, found, conflict⟩ | ⟨create, absent⟩ | ⟨found, existing, only, origin, present⟩
  · right
    have result : (itemOf lib validNodeUids current proposed).result = .conflict := by
      rw [conflict]
      rfl
    rw [again (by simp [result]) (by simp [result]), result]
  · left
    rw [create, absent, PreviewItem.settle_accepted rfl (.inl rfl)] at rows
    rw [itemOf_existing lib rows automatic (missingNodeField_unedited _ unedited)]
    exact existingItem_unchanged lib (merged_self proposed)
  · left
    by_cases unchanged : comparable (merged found proposed) = comparable found
    · have result : (itemOf lib validNodeUids current proposed).result = .unchanged := by
        simp [existing, existingItem, unchanged]
      rw [again (by simp [result]) (by simp [result]), result]
    · have result : (existingItem lib proposed found).result = .update := by
        simp [existingItem, unchanged]
      have rows : keyMatches accepted proposed.generationKey = [merged found proposed] := by
        rw [rows, existing, only, PreviewItem.settle_accepted rfl (.inr result)]
        rfl
      have nodes : missingNodeField validNodeUids (merged found proposed) = none :=
        (missingNodeField_merged validNodeUids found proposed).trans present
      rw [itemOf_existing lib rows automatic nodes]
      exact existingItem_unchanged lib (merged_merged found proposed)

/-! ## The draft after every item -/

section Accepted

variable {validNodeUids : List String} {generated current : List (LineSection M)} {draft : Draft M}

/-- A row whose label differs from those of the stale sections is not deleted. -/
theorem Running.mem_resulting (running : Running lib validNodeUids generated current draft)
    (identified : Identified (current ++ generated)) {row : LineSection M}
    (mem : row ∈ draft.sections)
    (other : ∀ line ∈ staleSections generated current, row.generationKey ≠ line.generationKey ∨
      row.autoGenerated ≠ line.autoGenerated) : row ∈ draft.resulting := by
  refine Draft.mem_resulting.mpr ⟨mem, fun pending => ?_⟩
  obtain ⟨line, stale, id⟩ := running.pending _ pending
  have label := running.key_of_id _ identified mem
    (mem_append_left _ (staleSections_current stale).1) id.symm
  exact (other line stale).elim (fun key => key label.1) (fun origin => origin label.2)

variable (running : Running lib validNodeUids generated current draft)
include running

theorem Running.resulting_rows (wellFormed : Generated generated)
    (identified : Identified (current ++ generated)) {proposed : LineSection M}
    (mem : proposed ∈ generated) : keyMatches draft.resulting proposed.generationKey =
      draft.rowsOf proposed.generationKey := by
  rw [keyMatches_eq _ (wellFormed.keyed proposed mem), Draft.resulting, filter_filter]
  refine filter_congr fun row isRow => ?_
  by_cases key : row.generationKey = proposed.generationKey
  · have kept := running.mem_resulting _ identified isRow fun line stale =>
      .inl fun same => staleSections_key stale mem (same.symm.trans key)
    simp [key, (Draft.mem_resulting.mp kept).2]
  · simp [key]

theorem Running.resulting_manual (identified : Identified (current ++ generated)) :
    (draft.resulting.filter fun line => !line.autoGenerated) =
      current.filter fun line => !line.autoGenerated := by
  rw [← running.manual, Draft.resulting, filter_filter]
  refine filter_congr fun row isRow => ?_
  by_cases origin : row.autoGenerated = true
  · simp [origin]
  · have kept := running.mem_resulting _ identified isRow fun line stale =>
      .inr fun same => origin (same.trans (staleSections_current stale).2)
    simp [origin, (Draft.mem_resulting.mp kept).2]

theorem Running.resulting_stale
    (gone : ∀ line ∈ staleSections generated current, ∀ row ∈ draft.resulting, row.id ≠ line.id) :
    staleSections generated draft.resulting = [] := by
  refine filter_eq_nil_iff.mpr fun row isRow isStale => ?_
  obtain ⟨source, isSource, id, key, origin⟩ :=
    running.known row (Draft.mem_resulting.mp isRow).1
  rw [key, origin] at isStale
  rcases mem_append.mp isSource with isCurrent | isGenerated
  · exact gone source (mem_filter.mpr ⟨isCurrent, isStale⟩) row isRow id
  · simp at isStale
    exact isStale.2 source isGenerated rfl

omit running

end Accepted

/-! ## The fixpoint -/

/-- The preview proposes no addition, change or removal. -/
structure Preview.Settled (preview : Preview M) : Prop where
  creates : preview.createCount = 0
  updates : preview.updateCount = 0
  stales : preview.staleCount = 0
  items : ∀ item ∈ preview.generatedSections, item.result = .unchanged ∨ item.result = .conflict

variable (metadata : LineMetadata) (temporaryId : String)

theorem compare_perm (validNodeUids : List String) (generated current : List (LineSection M)) :
    (compare lib validNodeUids generated current).1.Perm
      (itemsInOrder lib validNodeUids generated current) :=
  mergeSort_perm _ _

omit [LinearOrder M] in
theorem settled_of_items {preview : Preview M}
    (counts : ∀ result, preview.generatedSections.countP (fun item => item.result = result) =
      match result with
      | .create => preview.createCount
      | .update => preview.updateCount
      | .unchanged => preview.unchangedCount
      | .conflict => preview.conflictCount
      | .stale => preview.staleCount)
    (items : ∀ item ∈ preview.generatedSections,
      item.result = .unchanged ∨ item.result = .conflict) : preview.Settled := by
  have none {result : GenerationResult} (notUnchanged : result ≠ .unchanged)
      (notConflict : result ≠ .conflict) :
      preview.generatedSections.countP (fun item => item.result = result) = 0 := by
    refine countP_eq_zero.mpr fun item mem same => ?_
    have same : item.result = result := by simpa using same
    exact (items item mem).elim (fun eq => notUnchanged (same.symm.trans eq))
      fun eq => notConflict (same.symm.trans eq)
  exact ⟨(counts .create).symm.trans (none (by simp) (by simp)),
    (counts .update).symm.trans (none (by simp) (by simp)),
    (counts .stale).symm.trans (none (by simp) (by simp)), items⟩

theorem preview_settled (stations : List (Station M)) (currentSections : List (LineSection M))
    (identified : Identified (currentSections ++ (generate lib metadata stations).1)) :
    (preview lib metadata stations (acceptAll temporaryId currentSections
        (preview lib metadata stations currentSections).generatedSections)).Settled := by
  set generated := (generate lib metadata stations).1 with isGenerated
  set valid := validNodeUids stations generated with isValid
  have wellFormed : Generated generated := generate_generated lib metadata stations
  have permutes := compare_perm lib valid generated currentSections
  obtain ⟨running, reached⟩ := accept_kept lib temporaryId wellFormed identified _ permutes
  set draft := List.foldl (applyItem temporaryId) ⟨currentSections, []⟩
    (compare lib valid generated currentSections).1 with isDraft
  have noStale : staleSections generated draft.resulting = [] :=
    running.resulting_stale lib fun line stale =>
      (reached _ (permutes.mem_iff.mpr
        ((mem_itemsInOrder lib).mpr (.inr ⟨line, stale, rfl⟩)))).gone line stale rfl
  refine settled_of_items (fun result => by cases result <;> rfl) fun item mem => ?_
  have mem : item ∈ itemsInOrder lib valid generated draft.resulting :=
    (compare_perm lib valid generated draft.resulting).mem_iff.mp mem
  rcases (mem_itemsInOrder lib).mp mem with ⟨proposed, isProposed, rfl⟩ | ⟨line, stale, -⟩
  · refine itemOf_again lib (wellFormed.automatic _ isProposed)
      (wellFormed.unedited _ isProposed) ?_ (running.resulting_manual lib identified)
    rw [running.resulting_rows lib wellFormed identified isProposed]
    exact (reached _ (permutes.mem_iff.mpr
      ((mem_itemsInOrder lib).mpr (.inl ⟨proposed, isProposed, rfl⟩)))).rows proposed
        isProposed rfl
  · rw [noStale] at stale
    exact nomatch stale

/-! ## What the proposals refer to -/

/-- The proposed section is a generated one, whose ends it has where they were not adjusted
by hand to a valid node. -/
def Follows (stations : List (Station M)) (proposed : LineSection M) : Prop :=
  ∃ line ∈ (generate lib metadata stations).1, (proposed.startNodeUid = line.startNodeUid ∨
        "start_node_uid" ∈ proposed.manualOverrideFields ∧
          proposed.startNodeUid ∈ validNodeUids stations (generate lib metadata stations).1) ∧
      (proposed.endNodeUid = line.endNodeUid ∨
        "end_node_uid" ∈ proposed.manualOverrideFields ∧
          proposed.endNodeUid ∈ validNodeUids stations (generate lib metadata stations).1)

omit [LinearOrder M] in
theorem missingNodeField_none {valid : List String} {current : LineSection M}
    (present : missingNodeField valid current = none) :
    ("start_node_uid" ∈ current.manualOverrideFields → current.startNodeUid ∈ valid) ∧
      ("end_node_uid" ∈ current.manualOverrideFields → current.endNodeUid ∈ valid) := by
  simpa [missingNodeField] using present

theorem preview_follows (stations : List (Station M)) (currentSections : List (LineSection M))
    {item : PreviewItem M}
    (mem : item ∈ (preview lib metadata stations currentSections).generatedSections)
    {proposed : LineSection M} (proposes : item.proposedSection = some proposed) :
    Follows lib metadata stations proposed := by
  set valid := validNodeUids stations (generate _ _ stations).1 with isValid
  have mem : item ∈ itemsInOrder lib valid (generate lib metadata stations).1
      currentSections := (compare_perm _ _ _ _).mem_iff.mp mem
  rcases (mem_itemsInOrder _).mp mem with ⟨line, isGenerated, rfl⟩ | ⟨line, -, rfl⟩
  · rcases itemOf_cases _ valid currentSections line with
      ⟨issue, found, conflict⟩ | ⟨create, -⟩ | ⟨found, existing, -, -, present⟩
    · rw [conflict] at proposes
      obtain rfl := Option.some_inj.mp proposes
      exact ⟨line, isGenerated, .inl rfl, .inl rfl⟩
    · rw [create] at proposes
      obtain rfl := Option.some_inj.mp proposes
      exact ⟨line, isGenerated, .inl rfl, .inl rfl⟩
    · rw [existing] at proposes
      obtain rfl := Option.some_inj.mp proposes
      obtain ⟨starts, stops⟩ := missingNodeField_none present
      refine ⟨line, isGenerated, ?_, ?_⟩
      · by_cases edited : "start_node_uid" ∈ found.manualOverrideFields
        · exact .inr ⟨edited, by simpa [merged, LineSection.keep, edited] using starts edited⟩
        · exact .inl (by simp [merged, LineSection.keep, edited])
      · by_cases edited : "end_node_uid" ∈ found.manualOverrideFields
        · exact .inr ⟨edited, by simpa [merged, LineSection.keep, edited] using stops edited⟩
        · exact .inl (by simp [merged, LineSection.keep, edited])
  · cases proposes

/-! ## The whole statement -/

/-- Once every item of a preview is accepted, the next preview proposes no addition, change
or removal; a generated section joins neighbours on its path, or a terminal station and
the endpoint beyond it; and a proposed section is a generated one, but for the ends that
were adjusted by hand to a valid node. -/
theorem sectionGeneration_settles (stations : List (Station M))
    (currentSections : List (LineSection M))
    (identified : Identified (currentSections ++ (generate lib metadata stations).1)) :
    (preview lib metadata stations (acceptAll temporaryId currentSections
          (preview lib metadata stations currentSections).generatedSections)).Settled ∧
      (∀ line ∈ (generate lib metadata stations).1, Joins metadata stations line) ∧
      ∀ item ∈ (preview lib metadata stations currentSections).generatedSections,
        ∀ proposed, item.proposedSection = some proposed → Follows lib metadata stations proposed :=
  ⟨preview_settled _ _ _ stations currentSections identified, fun _ mem => generate_joins _ _ mem,
    fun _ mem _ proposes => preview_follows _ _ stations currentSections mem proposes⟩

/-! ## A sample line -/

def sampleStation (uid name : String) (order center : Int) (terminal : Bool) : Station Int where
  id := uid
  nodeUid := uid
  name := name
  sortOrder := some order
  nodeType := .station
  pathCode := ""
  participatesInDirection := true
  centerMileage := some center
  isLineTerminal := terminal
  terminalExtensionEnabled := terminal
  terminalEndpointLabel := ""
  terminalExtensionDistance := none
  terminalEndpointMileageText := ""
  enabled := true

def sampleFirst : Station Int := sampleStation "n1" "A" 1 100 true

def sampleSecond : Station Int := sampleStation "n2" "B" 2 200 false

def sampleStations : List (Station Int) := [sampleFirst, sampleSecond]

def sampleMetadata : LineMetadata := ⟨"MAIN", "上行", "下行", "左线", "右线"⟩

/-- Whole meters, and the digests of the keys of the sample line. -/
def sampleLibrary : Library Int where
  zero := 0
  add := (· + ·)
  sub := (· - ·)
  parseTrackMileage _ := none
  formatMileage := toString
  casefold text := String.ofList (text.toList.map Char.toLower)
  sha1 := fun text =>
    if text = "MAIN|between|n1|n2|increasing" then "d4cfa8f57be93e906fb798ac9789e1247d405cca"
    else if text = "MAIN|between|n1|n2|decreasing" then "8560d8a11a7499a850ad5b1db1fa7629a90e6c69"
    else if text = "MAIN|terminal|endpoint:MAIN:low|n1|increasing" then
      "03cb69089ea89c99e677d1d1e5258fed3639cd2d"
    else "86a115db2325633b3060aae6cd7a413ad658f649"

/-- The generated sections: two between the stations, and two beyond the first. -/
def sampleGenerated : List (LineSection Int) :=
  (betweenSections sampleLibrary sampleMetadata "MAIN" sampleFirst sampleSecond).1 ++
    (terminalExtension sampleLibrary sampleMetadata "MAIN" sampleFirst true).1

theorem sample_ordered : orderedStations sampleMetadata sampleStations "MAIN" = sampleStations :=
  mergeSort_of_pairwise (by decide)

theorem sample_generate :
    (generate sampleLibrary sampleMetadata sampleStations).1 = sampleGenerated := by
  have paths : ((usableStations sampleStations).map (pathOf sampleMetadata)).eraseDups =
      ["MAIN"] := by
    decide
  have parts : (pathSections sampleLibrary sampleMetadata sampleStations "MAIN").1 =
      sampleGenerated := by
    unfold pathSections
    rw [sample_ordered]
    decide +kernel
  have once : repeated (sampleGenerated.map LineSection.generationKey) = [] := by decide +kernel
  unfold generate
  simp [paths, parts, once]

/-- An existing section that its station order still generates, and one that it does not. -/
def sampleCurrent : List (LineSection Int) :=
  sampleGenerated.take 1 |>.flatMap fun line =>
    [{ line with id := "s1", name := "A-B" },
      { line with id := "s2", generationKey := "MAIN|between|n2|n3|increasing" }]

instance (sections : List (LineSection Int)) : Decidable (Identified sections) :=
  inferInstanceAs (Decidable (∀ one ∈ sections, ∀ two ∈ sections, one.id = two.id →
    one.generationKey = two.generationKey ∧ one.autoGenerated = two.autoGenerated))

theorem sectionGeneration_settles_sample : (preview sampleLibrary sampleMetadata sampleStations
        (acceptAll "new:1" sampleCurrent (preview sampleLibrary sampleMetadata sampleStations
            sampleCurrent).generatedSections)).Settled ∧
      (∀ line ∈ (generate sampleLibrary sampleMetadata sampleStations).1,
        Joins sampleMetadata sampleStations line) ∧
      ∀ item ∈ (preview sampleLibrary sampleMetadata sampleStations
        sampleCurrent).generatedSections,
        ∀ proposed, item.proposedSection = some proposed →
          Follows sampleLibrary sampleMetadata sampleStations proposed :=
  sectionGeneration_settles sampleLibrary sampleMetadata "new:1" sampleStations sampleCurrent
    (by rw [sample_generate]; decide +kernel)

/-- The nodes of a section are two stations that are neighbours on its path. -/
def RefersToNeighbours (metadata : LineMetadata) (stations : List (Station M))
    (line : LineSection M) : Prop :=
  ∃ lower higher, Neighbours (orderedStations metadata stations line.pathCode) lower higher ∧
    (line.startNodeUid = lower.nodeUid ∧ line.endNodeUid = higher.nodeUid ∨
      line.startNodeUid = higher.nodeUid ∧ line.endNodeUid = lower.nodeUid)

/-- The statement without its two provisos. -/
def SettlesBetweenNeighbours (lib : Library M) (metadata : LineMetadata)
    (temporaryId : String) (stations : List (Station M)) (currentSections : List (LineSection M)) :
    Prop :=
  (preview lib metadata stations (acceptAll temporaryId currentSections
        (preview lib metadata stations currentSections).generatedSections)).Settled ∧
    ∀ item ∈ (preview lib metadata stations currentSections).generatedSections,
      ∀ proposed, item.proposedSection = some proposed →
        RefersToNeighbours metadata stations proposed

/-- Two existing sections with one identifier, of which one is stale. -/
def sampleTwins : List (LineSection Int) :=
  match sampleGenerated with
  | [] => []
  | line :: rest =>
    { line with id := "s1" } ::
      { line with id := "s1", generationKey := "MAIN|between|n2|n3|increasing" } :: rest

theorem sample_items :
    (preview sampleLibrary sampleMetadata sampleStations sampleTwins).generatedSections =
      itemsInOrder sampleLibrary (validNodeUids sampleStations sampleGenerated) sampleGenerated
        sampleTwins := by
  have ordered : (itemsInOrder sampleLibrary (validNodeUids sampleStations sampleGenerated)
      sampleGenerated sampleTwins).Pairwise fun one two => itemLe one two = true := by
    decide +kernel
  have items : (preview sampleLibrary sampleMetadata sampleStations sampleTwins).generatedSections =
      (compare sampleLibrary
        (validNodeUids sampleStations (generate sampleLibrary sampleMetadata sampleStations).1)
        (generate sampleLibrary sampleMetadata sampleStations).1 sampleTwins).1 := rfl
  rw [items, sample_generate]
  exact mergeSort_of_pairwise ordered

theorem sample_createCount (currentSections : List (LineSection Int)) :
    (preview sampleLibrary sampleMetadata sampleStations currentSections).createCount =
      (itemsInOrder sampleLibrary (validNodeUids sampleStations sampleGenerated) sampleGenerated
        currentSections).countP fun item => item.result = .create := by
  rw [← sample_generate]
  exact (compare_perm sampleLibrary _ _ _).countP_eq _

theorem sample_endpoint_not_between {line : LineSection Int} (path : line.pathCode = "MAIN")
    (endpoint : line.startNodeUid = "endpoint:MAIN:low") :
    ¬ RefersToNeighbours sampleMetadata sampleStations line := by
  rintro ⟨lower, higher, ⟨_, _, split⟩, ends⟩
  rw [path, sample_ordered] at split
  have uids : ∀ station ∈ sampleStations, station.nodeUid ≠ "endpoint:MAIN:low" := by decide
  have isLower : lower ∈ sampleStations := by simp [split]
  have isHigher : higher ∈ sampleStations := by simp [split]
  rcases ends with ⟨start, -⟩ | ⟨start, -⟩
  · exact uids lower isLower (start.symm.trans endpoint)
  · exact uids higher isHigher (start.symm.trans endpoint)

/-- A terminal extension refers to one station only, and the removal of a stale section
takes away another section with its identifier. -/
theorem not_settlesBetweenNeighbours :
    ¬ SettlesBetweenNeighbours sampleLibrary sampleMetadata "new:1" sampleStations [] ∧
      ¬ (preview sampleLibrary sampleMetadata sampleStations (acceptAll "new:1" sampleTwins
            (preview sampleLibrary sampleMetadata sampleStations
              sampleTwins).generatedSections)).Settled := by
  constructor
  · rintro ⟨-, refers⟩
    have proposed : ((itemsInOrder sampleLibrary (validNodeUids sampleStations sampleGenerated)
        sampleGenerated []).any fun item => item.proposedSection.any fun line =>
          line.pathCode = "MAIN" && line.startNodeUid = "endpoint:MAIN:low") = true := by
      decide +kernel
    obtain ⟨item, mem, proposes⟩ := any_eq_true.mp proposed
    obtain ⟨line, isProposed, ends⟩ := (Option.any_eq_true _ _).mp proposes
    obtain ⟨path, endpoint⟩ : line.pathCode = "MAIN" ∧ line.startNodeUid = "endpoint:MAIN:low" := by
      simpa using ends
    rw [← sample_generate] at mem
    exact sample_endpoint_not_between path endpoint
      (refers item ((compare_perm sampleLibrary _ _ _).mem_iff.mpr mem) line isProposed)
  · rintro ⟨creates, -⟩
    rw [sample_items, sample_createCount] at creates
    revert creates
    decide +kernel

end NetConsole.SectionGeneration
