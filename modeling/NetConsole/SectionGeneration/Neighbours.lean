import Mathlib.Data.List.Nodup
import NetConsole.SectionGeneration.AcceptanceRun

/-!
# What the generated sections join

A generated section runs between two stations that are neighbours on its path, in either
direction, or between a terminal station at an end of its path and the endpoint beyond it
(`generate_joins`). Its key tells it apart from the other generated sections
(`generate_generated`).
-/

set_option autoImplicit false

namespace NetConsole.SectionGeneration

open List

variable {M : Type} [LinearOrder M] (lib : Library M) (metadata : LineMetadata)

/-! ## Repeated values -/

theorem count_le_one_of_not_mem_repeated {α : Type} [BEq α] [LawfulBEq α] {values : List α}
    {value : α} (once : value ∉ repeated values) : values.count value ≤ 1 := by
  by_contra more
  have twice : 1 < values.count value := by omega
  have mem : value ∈ values := count_pos_iff.mp (by omega)
  exact once (by simp [repeated, mem, twice])

theorem nodup_of_repeated_eq_nil {α : Type} [BEq α] [LawfulBEq α] {values : List α}
    (none : repeated values = []) : values.Nodup := by
  classical
  refine nodup_iff_count_le_one.mpr fun value => ?_
  have absent : value ∉ repeated values := by simp [none]
  convert count_le_one_of_not_mem_repeated absent

theorem nodup_filter_repeated {α β : Type} [DecidableEq β] (label : α → β) (values : List α) :
    ((values.filter fun value => !(repeated (values.map label)).contains (label value)).map
      label).Nodup := by
  refine nodup_iff_count_le_one.mpr fun one => ?_
  by_cases mem : one ∈ repeated (values.map label)
  · rw [count_eq_zero.mpr]
    · exact Nat.zero_le 1
    · simp only [mem_map, mem_filter, not_exists, not_and]
      rintro value ⟨-, kept⟩ rfl
      simp [mem] at kept
  · exact ((filter_sublist.map label).count_le one).trans (count_le_one_of_not_mem_repeated mem)

/-! ## Ends of a section -/

def LineSection.start (line : LineSection M) : SectionNode :=
  ⟨line.startNodeType, line.startNodeUid, line.startStation⟩

def LineSection.stop (line : LineSection M) : SectionNode :=
  ⟨line.endNodeType, line.endNodeUid, line.endStation⟩

omit [LinearOrder M] in
@[simp] theorem newSection_start (name : String) (kind : SectionKind) (pathCode : String)
    (role : DirectionRole) (lineDirection lineSide : String) (start stop : SectionNode)
    (generationKey : String) (range : MileageRange M) :
    (newSection lib name kind pathCode role lineDirection lineSide start stop generationKey
      range).start = start := rfl

omit [LinearOrder M] in
@[simp] theorem newSection_stop (name : String) (kind : SectionKind) (pathCode : String)
    (role : DirectionRole) (lineDirection lineSide : String) (start stop : SectionNode)
    (generationKey : String) (range : MileageRange M) :
    (newSection lib name kind pathCode role lineDirection lineSide start stop generationKey
      range).stop = stop := rfl

/-- The endpoint beyond a terminal station. -/
def terminalEndpoint (pathCode : String) (station : Station M) (low : Bool) : SectionNode where
  nodeType := .terminalEndpoint
  uid :=
    let side := if low then "low" else "high"
    s!"endpoint:{pathCode}:{side}"
  label := if strip station.terminalEndpointLabel = "" then "端点" else strip
    station.terminalEndpointLabel

/-- Two stations that follow each other. -/
def Neighbours (ordered : List (Station M)) (lower higher : Station M) : Prop :=
  ∃ before after, ordered = before ++ lower :: higher :: after

/-- What a generated section joins. -/
inductive Joins (stations : List (Station M)) (line : LineSection M) : Prop
  | between (lower higher : Station M)
      (neighbours : Neighbours (orderedStations metadata stations line.pathCode) lower higher)
      (kind : line.sectionKind = .betweenStations)
      (ends : line.directionRole = .increasing ∧ line.start = lower.node ∧ line.stop = higher.node ∨
        line.directionRole = .decreasing ∧ line.start = higher.node ∧ line.stop = lower.node)
  | terminal (station : Station M) (isTerminal : station.isLineTerminal = true)
      (extended : station.terminalExtensionEnabled = true)
      (kind : line.sectionKind = .terminalExtension)
      (ends :
        (orderedStations metadata stations line.pathCode).head? = some station ∧
            line.start = terminalEndpoint line.pathCode station true ∧ line.stop = station.node ∨
          (orderedStations metadata stations line.pathCode).getLast? = some station ∧
            line.start = station.node ∧ line.stop = terminalEndpoint line.pathCode station false)

/-! ## The sections of a path -/

variable {ordered : List (Station M)}

omit [LinearOrder M] in
theorem neighbours_of_mem_zip
    {pair : Station M × Station M} (mem : pair ∈ ordered.zip ordered.tail) :
    Neighbours ordered pair.1 pair.2 := by
  induction ordered with
  | nil => exact nomatch mem
  | cons first rest ih =>
    cases rest with
    | nil => exact nomatch mem
    | cons second rest =>
      rcases mem_cons.mp mem with rfl | mem
      · exact ⟨[], rest, rfl⟩
      · obtain ⟨before, after, split⟩ := ih mem
        exact ⟨first :: before, after, by rw [split]; rfl⟩

/-- A section of a path is one of a pair of neighbours, or of a terminal station. -/
inductive OfPath (stations : List (Station M)) (pathCode : String) (line : LineSection M) : Prop
  | between (lower higher : Station M)
      (neighbours : Neighbours (orderedStations metadata stations pathCode) lower higher)
      (mem : line ∈ (betweenSections lib metadata pathCode lower higher).1)
  | terminal (station : Station M) (low : Bool)
      (isTerminal : station.isLineTerminal = true)
      (extended : station.terminalExtensionEnabled = true)
      (atEnd : (if low then (orderedStations metadata stations pathCode).head?
        else (orderedStations metadata stations pathCode).getLast?) = some station)
      (mem : line ∈ (terminalExtension lib metadata pathCode station low).1)

omit [LinearOrder M] in
theorem eq_of_nodeUid (distinct : (ordered.map Station.nodeUid).Nodup) {one two : Station M}
    (mem : one ∈ ordered) (mem' : two ∈ ordered) (same : one.nodeUid = two.nodeUid) : one = two :=
  inj_on_of_nodup_map distinct mem mem' same

variable {line : LineSection M} {pathCode : String}

theorem terminalSections_mem (distinct : (ordered.map Station.nodeUid).Nodup)
    (mem : line ∈ (terminalSections lib metadata pathCode ordered).1) :
    ∃ station low, station.isLineTerminal = true ∧ station.terminalExtensionEnabled = true ∧
      (if low then ordered.head? else ordered.getLast?) = some station ∧
      line ∈ (terminalExtension lib metadata pathCode station low).1 := by
  unfold terminalSections at mem
  split at mem
  · next lowest highest isLowest isHighest =>
    simp only at mem
    split at mem
    · exact nomatch mem
    split at mem
    · exact nomatch mem
    simp only [flatMap_map, mem_flatMap, mem_filter, Bool.and_eq_true] at mem
    obtain ⟨station, ⟨isStation, isTerminal, extended⟩, mem⟩ := mem
    split at mem
    · exact nomatch mem
    · next atEnd =>
      refine ⟨station, _, isTerminal, extended, ?_, mem⟩
      by_cases low : station.nodeUid = lowest.nodeUid
      · obtain rfl := eq_of_nodeUid distinct isStation (mem_of_head? isLowest) low
        simpa using isLowest
      · have high : station.nodeUid = highest.nodeUid := by
          by_contra other
          exact atEnd ⟨low, other⟩
        obtain rfl := eq_of_nodeUid distinct isStation (mem_of_getLast? isHighest) high
        simpa [low] using isHighest
  · exact nomatch mem

variable {stations : List (Station M)}

theorem pathSections_mem (mem : line ∈ (pathSections lib metadata stations pathCode).1) :
    OfPath lib metadata stations pathCode line := by
  unfold pathSections at mem
  simp only at mem
  split at mem
  · exact nomatch mem
  split at mem
  · exact nomatch mem
  next distinct =>
    have uids : ((orderedStations metadata stations pathCode).map Station.nodeUid).Nodup :=
      ((mergeSort_perm _ stationLe).map Station.nodeUid).nodup_iff.mpr
        (nodup_of_repeated_eq_nil (not_not.mp distinct))
    rcases mem_append.mp mem with mem | mem
    · simp only [flatMap_map, mem_flatMap] at mem
      obtain ⟨pair, isPair, mem⟩ := mem
      exact .between pair.1 pair.2 (neighbours_of_mem_zip isPair) mem
    · split at mem
      · obtain ⟨station, low, isTerminal, extended, atEnd, mem⟩ :=
          terminalSections_mem lib metadata uids mem
        exact .terminal station low isTerminal extended atEnd mem
      · exact nomatch mem

/-! ## All sections -/

omit [LinearOrder M] in
theorem isNewId_newSection (name : String) (kind : SectionKind) (pathCode : String)
    (role : DirectionRole) (lineDirection lineSide : String) (start stop : SectionNode)
    (generationKey : String) (range : MileageRange M) :
    isNewId (newSection lib name kind pathCode role lineDirection lineSide start stop
      generationKey range).id = true := by
  simp [isNewId, newSection]

/-- The values of a section of a path that do not depend on its ends. -/
theorem OfPath.shape (ofPath : OfPath lib metadata stations pathCode line) :
    line.autoGenerated = true ∧ line.manualOverrideFields = [] ∧
      isNewId line.id = true ∧ line.generationKey ≠ "" := by
  cases ofPath with
  | between lower higher _ mem =>
    simp only [betweenSections, mem_cons, not_mem_nil, or_false] at mem
    rcases mem with rfl | rfl
    · exact ⟨rfl, rfl, isNewId_newSection _ .., by simp [newSection, ToString.toString]⟩
    · exact ⟨rfl, rfl, isNewId_newSection _ .., by simp [newSection, ToString.toString]⟩
  | terminal station low _ _ _ mem =>
    simp only [terminalExtension, mem_cons, not_mem_nil, or_false] at mem
    rcases mem with rfl | rfl
    · exact ⟨rfl, rfl, isNewId_newSection _ .., by simp [newSection, ToString.toString]⟩
    · exact ⟨rfl, rfl, isNewId_newSection _ .., by simp [newSection, ToString.toString]⟩

theorem OfPath.joins (ofPath : OfPath lib metadata stations pathCode line) :
    Joins metadata stations line := by
  cases ofPath with
  | between lower higher neighbours mem =>
    simp only [betweenSections, mem_cons, not_mem_nil, or_false] at mem
    rcases mem with rfl | rfl
    · exact .between lower higher neighbours rfl (.inl ⟨rfl, rfl, rfl⟩)
    · exact .between lower higher neighbours rfl (.inr ⟨rfl, rfl, rfl⟩)
  | terminal station low isTerminal extended atEnd mem =>
    cases low with
    | true =>
      simp only [terminalExtension, mem_cons, not_mem_nil, or_false] at mem
      have ends : line.start = terminalEndpoint pathCode station true ∧
          line.stop = station.node := by
        rcases mem with rfl | rfl <;> simp [terminalEndpoint]
      have shape : line.sectionKind = .terminalExtension ∧ line.pathCode = pathCode := by
        rcases mem with rfl | rfl <;> exact ⟨rfl, rfl⟩
      obtain ⟨kind, rfl⟩ := shape
      exact .terminal station isTerminal extended kind (.inl ⟨atEnd, ends⟩)
    | false =>
      simp only [terminalExtension, Bool.false_eq_true, mem_cons, not_mem_nil, or_false] at mem
      have ends : line.start = station.node ∧
          line.stop = terminalEndpoint pathCode station false := by
        rcases mem with rfl | rfl <;> simp [terminalEndpoint]
      have shape : line.sectionKind = .terminalExtension ∧ line.pathCode = pathCode := by
        rcases mem with rfl | rfl <;> exact ⟨rfl, rfl⟩
      obtain ⟨kind, rfl⟩ := shape
      exact .terminal station isTerminal extended kind (.inr ⟨atEnd, ends⟩)

variable (mem : line ∈ (generate lib metadata stations).1)
include mem

theorem generate_mem : ∃ pathCode, OfPath lib metadata stations pathCode line := by
  unfold generate at mem
  simp only [flatMap_map] at mem
  have isPath : line ∈ ((usableStations stations).map (pathOf metadata)).eraseDups.flatMap
      (fun path => (pathSections lib metadata stations path).1) := by
    split at mem
    · exact mem_of_mem_filter mem
    · exact mem
  obtain ⟨pathCode, -, mem⟩ := mem_flatMap.mp isPath
  exact ⟨pathCode, pathSections_mem lib metadata mem⟩

theorem generate_joins : Joins metadata stations line := by
  obtain ⟨_, ofPath⟩ := generate_mem lib metadata mem
  exact ofPath.joins

omit mem

theorem generate_keys (stations : List (Station M)) :
    ((generate lib metadata stations).1.map LineSection.generationKey).Nodup := by
  unfold generate
  simp only
  split
  · exact nodup_filter_repeated LineSection.generationKey _
  · next distinct => exact nodup_of_repeated_eq_nil (not_not.mp distinct)

theorem generate_generated (stations : List (Station M)) :
    Generated (generate lib metadata stations).1 := by
  have shape {line : LineSection M} (mem : line ∈ (generate lib metadata stations).1) :
      line.autoGenerated = true ∧ line.manualOverrideFields = [] ∧ isNewId line.id = true ∧
        line.generationKey ≠ "" :=
    (generate_mem lib metadata mem).elim fun _ ofPath => ofPath.shape
  exact {
    keyed line mem := (shape mem).2.2.2
    new line mem := (shape mem).2.2.1
    automatic line mem := (shape mem).1
    unedited line mem := (shape mem).2.1
    unique one mem two mem' same :=
      inj_on_of_nodup_map (generate_keys lib metadata stations) mem mem' same }

end NetConsole.SectionGeneration
