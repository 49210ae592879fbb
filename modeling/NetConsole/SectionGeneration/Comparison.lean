import NetConsole.SectionGeneration.Generation

/-!
# Comparing generated sections with the existing ones

`SectionGenerationService._compare` says for each generated section whether it is new,
changes an existing section, is there already, or meets a conflict, and which automatic
sections are generated no more. The editor applies the items that the operator accepts to
its draft (`applySectionGenerationToDraft`); a deletion that waits for the next save takes
a section out of the sections that result.
-/

set_option autoImplicit false

namespace NetConsole.SectionGeneration

variable {M : Type} [LinearOrder M] (lib : Library M)

/-! ## Items -/

/-- What a preview proposes. -/
inductive GenerationResult
  | create | update | unchanged | conflict | stale
  deriving DecidableEq

/-- The order of the results in a preview. -/
def GenerationResult.order : GenerationResult → Nat
  | .create => 0
  | .update => 1
  | .unchanged => 2
  | .conflict => 3
  | .stale => 4

/-- `SectionGenerationPreviewItemDTO`. -/
structure PreviewItem (M : Type) where
  itemId : String
  result : GenerationResult
  (proposedSection currentSection : Option (LineSection M))
  (selectedByDefault selectable : Bool)
  issues : List Issue

def itemId (kind value : String) : String :=
  "section-generation:" ++ kind ++ ":" ++ String.ofList ((lib.sha1 value).toList.take 16)

/-! ## Matching -/

/-- `current_by_key.get(key, [])`. -/
def keyMatches (current : List (LineSection M)) (key : String) : List (LineSection M) :=
  current.filter fun line => line.generationKey ≠ "" && line.generationKey = key

/-- `current_by_name.get(name.casefold(), [])`. -/
def nameMatches (current : List (LineSection M)) (name : String) : List (LineSection M) :=
  current.filter fun line =>
    line.name ≠ "" && lib.casefold line.name = lib.casefold name

def generationConflict (message fieldName : String) : Issue where
  severity := .error
  code := "section_generation_conflict"
  message := message
  fieldName := fieldName
  blocking := true

/-- What a generated section meets among the existing ones. -/
inductive Match (M : Type)
  | conflict (issue : Issue) (current : Option (LineSection M))
  | existing (current : LineSection M)
  | absent

/-- The first part of the comparison of one generated section. -/
def matchSection (current : List (LineSection M)) (proposed : LineSection M) : Match M :=
  match keyMatches current proposed.generationKey with
  | _ :: _ :: _ =>
    .conflict (generationConflict "同一生成标识对应多个现有区间" "generation_key") none
  | [found] =>
    if found.autoGenerated then .existing found
    else .conflict (generationConflict "生成标识已被人工区间占用" "generation_key") (some found)
  | [] =>
    match (nameMatches lib current proposed.name).find? fun line => !line.autoGenerated with
    | some found =>
      .conflict (generationConflict "自动生成结果与人工区间同名，未覆盖人工数据" "name") (some found)
    | none => .absent

/-! ## Merging -/

/-- A field that was adjusted by hand keeps its value. -/
def LineSection.keep {α : Type} (current : LineSection M) (field : String)
    (own generated : α) : α :=
  if field ∈ current.manualOverrideFields then own else generated

/-- The generated section in the place of an existing one. -/
def merged (current proposed : LineSection M) : LineSection M :=
  { proposed with
    id := current.id, remark := current.remark, apCount := current.apCount
    mileageMin := current.mileageMin, mileageMax := current.mileageMax
    manualOverrideFields := current.manualOverrideFields
    name := current.keep "name" current.name proposed.name
    sectionKind := current.keep "section_kind" current.sectionKind proposed.sectionKind
    pathCode := current.keep "path_code" current.pathCode proposed.pathCode
    startNodeType := current.keep "start_node_type" current.startNodeType proposed.startNodeType
    startNodeUid := current.keep "start_node_uid" current.startNodeUid proposed.startNodeUid
    startStation := current.keep "start_station" current.startStation proposed.startStation
    endNodeType := current.keep "end_node_type" current.endNodeType proposed.endNodeType
    endNodeUid := current.keep "end_node_uid" current.endNodeUid proposed.endNodeUid
    endStation := current.keep "end_station" current.endStation proposed.endStation
    directionRole := current.keep "direction_role" current.directionRole proposed.directionRole
    lineDirection := current.keep "line_direction" current.lineDirection proposed.lineDirection
    lineSide := current.keep "line_side" current.lineSide proposed.lineSide
    enabled := current.keep "enabled" current.enabled proposed.enabled
    sectionMileageStart :=
      current.keep "section_mileage_start_m" current.sectionMileageStart
        proposed.sectionMileageStart
    sectionMileageEnd :=
      current.keep "section_mileage_end_m" current.sectionMileageEnd proposed.sectionMileageEnd
    sectionMileageOpenEnd :=
      current.keep "section_mileage_open_end" current.sectionMileageOpenEnd
        proposed.sectionMileageOpenEnd
    sectionMileageSource :=
      current.keep "section_mileage_source" current.sectionMileageSource
        proposed.sectionMileageSource }

/-- The managed fields in which two sections differ. -/
def differingFields (one two : LineSection M) : List String :=
  [("name", decide (one.name ≠ two.name)),
    ("section_kind", decide (one.sectionKind ≠ two.sectionKind)),
    ("path_code", decide (one.pathCode ≠ two.pathCode)),
    ("start_node_type", decide (one.startNodeType ≠ two.startNodeType)),
    ("start_node_uid", decide (one.startNodeUid ≠ two.startNodeUid)),
    ("start_station", decide (one.startStation ≠ two.startStation)),
    ("end_node_type", decide (one.endNodeType ≠ two.endNodeType)),
    ("end_node_uid", decide (one.endNodeUid ≠ two.endNodeUid)),
    ("end_station", decide (one.endStation ≠ two.endStation)),
    ("direction_role", decide (one.directionRole ≠ two.directionRole)),
    ("line_direction", decide (one.lineDirection ≠ two.lineDirection)),
    ("line_side", decide (one.lineSide ≠ two.lineSide)),
    ("enabled", decide (one.enabled ≠ two.enabled)),
    ("section_mileage_start_m", decide (one.sectionMileageStart ≠ two.sectionMileageStart)),
    ("section_mileage_end_m", decide (one.sectionMileageEnd ≠ two.sectionMileageEnd)),
    ("section_mileage_open_end", decide (one.sectionMileageOpenEnd ≠ two.sectionMileageOpenEnd)),
    ("section_mileage_source",
      decide (one.sectionMileageSource ≠ two.sectionMileageSource))].filterMap
    fun field => if field.2 then some field.1 else none

/-- `_comparable`: every field but these six. -/
def comparable (line : LineSection M) : LineSection M :=
  { line with
    id := "", manualOverrideFields := [], apCount := 0, mileageMin := none, mileageMax := none
    remark := "" }

/-- The first node field that was adjusted by hand to a node that is not there. -/
def missingNodeField (validNodeUids : List String) (current : LineSection M) :
    Option (String × String) :=
  [("start_node_uid", current.startNodeUid), ("end_node_uid", current.endNodeUid)].find?
    fun field => field.1 ∈ current.manualOverrideFields ∧ field.2 ∉ validNodeUids

/-! ## The comparison -/

/-- An item that the operator cannot select. -/
def conflictItem (proposed : LineSection M) (issue : Issue) (current : Option (LineSection M)) :
    PreviewItem M where
  itemId := itemId lib "conflict" proposed.generationKey
  result := .conflict
  proposedSection := some proposed
  currentSection := current
  selectedByDefault := false
  selectable := false
  issues := [issue]

/-- The item of a generated section that is there already. -/
def existingItem (proposed current : LineSection M) : PreviewItem M :=
  let unchanged := decide (comparable (merged current proposed) = comparable current)
  let overrideDifferences := (differingFields proposed current).filter fun field =>
    field ∈ current.manualOverrideFields
  { itemId := itemId lib "current" proposed.generationKey
    result := if unchanged then .unchanged else .update
    proposedSection := some (merged current proposed), currentSection := some current
    selectedByDefault := !unchanged && overrideDifferences.isEmpty, selectable := true
    issues :=
      if overrideDifferences.isEmpty then []
      else [{
        severity := .warning, code := "section_generation_manual_override"
        message := "已保留人工调整字段：" ++ String.intercalate "、" overrideDifferences.mergeSort
        fieldName := "manual_override_fields", entityId := current.id }] }

/-- The proposal of a new section. -/
def createItem (proposed : LineSection M) : PreviewItem M where
  itemId := itemId lib "create" proposed.generationKey
  result := .create
  proposedSection := some proposed
  currentSection := none
  selectedByDefault := true
  selectable := true
  issues := []

/-- One generated section, with the issues that the whole preview lists. -/
def compareSection (validNodeUids : List String) (current : List (LineSection M))
    (proposed : LineSection M) : PreviewItem M × List Issue :=
  match matchSection lib current proposed with
  | .conflict issue found => (conflictItem lib proposed issue found, [issue])
  | .absent => (createItem lib proposed, [])
  | .existing found =>
    match missingNodeField validNodeUids found with
    | some (field, uid) =>
      let shown := if uid = "" then "未设置" else uid
      let issue : Issue := {
        severity := .error, code := "section_generation_manual_node_missing"
        message := s!"人工调整的节点已不存在：{shown}", fieldName := field, blocking := true
        entityId := found.id }
      (conflictItem lib proposed issue (some found), [issue])
    | none => (existingItem lib proposed found, [])

/-- The automatic sections that are generated no more. -/
def staleSections (generated current : List (LineSection M)) : List (LineSection M) :=
  current.filter fun line =>
    line.autoGenerated && line.generationKey ≠ "" &&
      line.generationKey ∉ generated.map LineSection.generationKey

/-- A section that the station order no longer gives. -/
def staleIssue (line : LineSection M) : Issue where
  severity := .warning
  code := "section_generation_stale"
  message :=
    if line.manualOverrideFields ≠ [] then "站点顺序已不再生成该区间，但该区间含人工修改"
    else "该自动区间已不在当前站点顺序的生成结果中，默认保留"
  fieldName := "generation_key"
  entityId := line.id

/-- The proposal that a section goes. -/
def staleItem (line : LineSection M) : PreviewItem M where
  itemId := itemId lib "stale" line.generationKey
  result := .stale
  proposedSection := none
  currentSection := some line
  selectedByDefault := false
  selectable := true
  issues := [staleIssue line]

/-- The path and the name that an item is sorted by. -/
def PreviewItem.place (item : PreviewItem M) : String × String :=
  match item.proposedSection.or item.currentSection with
  | some line => (line.pathCode, line.name)
  | none => ("MAIN", "")

def itemLe (one two : PreviewItem M) : Bool :=
  one.result.order < two.result.order || one.result.order = two.result.order &&
      (one.place.1 < two.place.1 || one.place.1 = two.place.1 && one.place.2 ≤ two.place.2)

/-- The items of `_compare` before they are sorted. -/
def itemsInOrder (validNodeUids : List String) (generated current : List (LineSection M)) :
    List (PreviewItem M) :=
  generated.map (fun proposed => (compareSection lib validNodeUids current proposed).1) ++
    (staleSections generated current).map (staleItem lib)

/-- The proposals for the sections that there are. -/
def compare (validNodeUids : List String) (generated current : List (LineSection M)) :
    List (PreviewItem M) × List Issue :=
  ((itemsInOrder lib validNodeUids generated current).mergeSort itemLe,
    generated.flatMap (fun proposed => (compareSection lib validNodeUids current proposed).2) ++
      (staleSections generated current).map staleIssue)

/-- `SectionGenerationPreviewDTO`. -/
structure Preview (M : Type) where
  generatedSections : List (PreviewItem M)
  (createCount updateCount unchangedCount conflictCount staleCount blockingCount : Nat)
  issues : List Issue

/-- The nodes that a field adjusted by hand may name. -/
def validNodeUids (stations : List (Station M)) (generated : List (LineSection M)) : List String :=
  (stations.map Station.nodeUid ++
    generated.flatMap fun line => [line.startNodeUid, line.endNodeUid]).filter fun uid => uid ≠ ""

/-- `preview`, for the current revision of the base data. -/
def preview (metadata : LineMetadata) (stations : List (Station M))
    (currentSections : List (LineSection M)) : Preview M :=
  let (generated, issues) := generate lib metadata stations
  let (items, compareIssues) :=
    compare lib (validNodeUids stations generated) generated currentSections
  let count := fun result => items.countP fun item => item.result = result
  { generatedSections := items
    createCount := count .create, updateCount := count .update, unchangedCount := count .unchanged
    conflictCount := count .conflict, staleCount := count .stale
    blockingCount := (issues ++ compareIssues).countP Issue.blocking
    issues := issues ++ compareIssues }

/-! ## Accepting items -/

/-- The sections of the editor's draft, and the identifiers of those that the next save
deletes. -/
structure Draft (M : Type) where
  sections : List (LineSection M)
  pendingDeletes : List String

/-- The sections that are left once the draft is saved. -/
def Draft.resulting (draft : Draft M) : List (LineSection M) :=
  draft.sections.filter fun line => line.id ∉ draft.pendingDeletes

/-- `id.startsWith("new:")`: the section was never saved. -/
def isNewId (id : String) : Bool := "new:".toList.isPrefixOf id.toList

/-- `markSectionForDeletion`. -/
def Draft.markForDeletion (id : String) (draft : Draft M) : Draft M :=
  if isNewId id then
    { draft with sections := draft.sections.filter fun line => line.id ≠ id }
  else { draft with pendingDeletes := id :: draft.pendingDeletes }

/-- `find` and `Object.assign`: the first value that is found changes. -/
def assignFirst {α : Type} (found : α → Bool) (change : α → α) : List α → Option (List α)
  | [] => none
  | value :: rest =>
    if found value then some (change value :: rest)
    else (assignFirst found change rest).map (value :: ·)

/-- The fields of an accepted section; those that the generation does not manage stay. -/
def assigned (proposed row : LineSection M) : LineSection M :=
  { proposed with
    id := row.id, remark := row.remark, apCount := row.apCount, mileageMin := row.mileageMin
    mileageMax := row.mileageMax, manualOverrideFields := row.manualOverrideFields }

/-- The row that an accepted section goes to: the one that the item shows, or one that
carries its generation key. -/
def PreviewItem.isRow (item : PreviewItem M) (proposed line : LineSection M) : Bool :=
  (item.currentSection.any fun current => line.id = current.id) ||
    proposed.generationKey ≠ "" && line.generationKey = proposed.generationKey

/-- The body of the loop of `applySectionGenerationToDraft`, for a selected item. -/
def applyItem (temporaryId : String) (draft : Draft M) (item : PreviewItem M) : Draft M :=
  if !item.selectable || item.result = .conflict then draft
  else
    match item.result, item.currentSection with
    | .stale, some current =>
      match draft.sections.find? fun line => line.id = current.id with
      | some found => draft.markForDeletion found.id
      | none => draft
    | _, _ =>
      match item.proposedSection with
      | none => draft
      | some proposed =>
        if item.result = .unchanged then draft
        else
          match assignFirst (item.isRow proposed) (assigned proposed) draft.sections with
          | some sections => { draft with sections := sections }
          | none =>
            let id := if isNewId proposed.id then proposed.id else temporaryId
            { draft with sections := draft.sections ++ [{ proposed with id := id }] }

/-- The sections that result when the operator accepts every item. -/
def acceptAll (temporaryId : String) (currentSections : List (LineSection M))
    (items : List (PreviewItem M)) : List (LineSection M) :=
  (items.foldl (applyItem temporaryId) ⟨currentSections, []⟩).resulting

end NetConsole.SectionGeneration
