import NetConsole.Mesh.SwitchAnalysis
import NetConsole.Foundations.Groupings

/-!
# Switch analysis of one scope

The segments and the switch events of a scope should be those of its samples
alone. They are not when a sample of another scope stands between two samples
with the same main link: the loop then closes the open segment, so that one
segment becomes two (`not_scopeIsolated_twoRadios`). This is the only way in which
the scopes touch each other: the segments and the events of a scope are those of
its samples alone exactly if no such pair is parted (`scopeIsolated_iff`).
-/

set_option autoImplicit false

namespace NetConsole.Mesh

open Foundations List

section Isolation

variable {Number Figures : Type} (lib : MeshLibrary Number Figures) (rules : MeshQualityRules)

/-! ## Segments are runs -/

def hasPeer (sample : MeshSample Number) : Bool := sample.activePeerKey != ""

def sameLink (one two : MeshSample Number) : Bool :=
  decide (one.scope = two.scope ∧ one.activePeerKey = two.activePeerKey)

theorem sameLink_scope (one two : MeshSample Number) (same : sameLink one two = true) :
    one.scope = two.scope := by
  simp only [sameLink, decide_eq_true_eq] at same
  exact same.1

/-- The open segment of some samples. -/
def openRun (interval : Scope → Number) (run : List (MeshSample Number)) :
    Option (OpenSegment Number × List (MeshSample Number)) :=
  run.head?.bind fun first => run.getLast?.map fun last =>
    ({ openSegment interval first with endTime := last.sampleTime }, run)

def runSegment (rows : List MeshRow) (interval : Scope → Number) (run : List (MeshSample Number)) :
    Option (ActiveSegment Number Figures) :=
  (openRun interval run).map fun (segment, samples) =>
    finishSegment lib rules rows segment samples

/-- The samples are of one link. -/
def OneLink (samples : List (MeshSample Number)) : Prop :=
  ∀ one ∈ samples, ∀ two ∈ samples, sameLink one two = true

/-- The segments of the loop are those of the collected runs. -/
structure Carries (rows : List MeshRow) (interval : Scope → Number)
    (loop : SegmentLoop Number Figures)
    (state : List (List (MeshSample Number)) × List (MeshSample Number)) : Prop where
  segments : loop.segments.map some = state.1.map (runSegment lib rules rows interval)
  current : loop.current = openRun interval state.2
  oneLink : OneLink state.2

variable {state : List (List (MeshSample Number)) × List (MeshSample Number)}
  {loop : SegmentLoop Number Figures} {interval : Scope → Number} {rows : List MeshRow}

theorem Carries.finish (carries : Carries lib rules rows interval loop state) :
    (loop.finish lib rules rows).map some =
      (collected state).map (runSegment lib rules rows interval) := by
  obtain ⟨_, current⟩ := state
  have segments := carries.segments
  have open' := carries.current
  cases current with
  | nil =>
    simp only [openRun, List.head?_nil, Option.bind_none] at open'
    simpa [SegmentLoop.finish, open', collected] using segments
  | cons first rest =>
    cases last : (first :: rest).getLast? with
    | none => simp at last
    | some final =>
      simp only [openRun, List.head?_cons, last, Option.map_some] at open'
      simp [SegmentLoop.finish, open', collected, segments, runSegment, openRun, last]

theorem openRun_singleton (interval : Scope → Number) (sample : MeshSample Number) :
    openRun interval [sample] = some (openSegment interval sample, [sample]) := rfl

variable {first : MeshSample Number}

theorem openRun_append (interval : Scope → Number) {samples : List (MeshSample Number)}
    (begins : samples.head? = some first) (sample : MeshSample Number) :
    openRun interval (samples ++ [sample]) =
      some ({ openSegment interval first with endTime := sample.sampleTime },
        samples ++ [sample]) := by
  simp [openRun, begins]

theorem oneLink_singleton (sample : MeshSample Number) : OneLink [sample] := by
  intro one memberOne two memberTwo
  rw [mem_singleton.mp memberOne, mem_singleton.mp memberTwo]
  simp [sameLink]

variable {sample last : MeshSample Number}

theorem OneLink.append {samples : List (MeshSample Number)} (oneLink : OneLink samples)
    (mem : last ∈ samples) (joined : sameLink last sample = true) :
    OneLink (samples ++ [sample]) := by
  have toSample : ∀ one ∈ samples, sameLink one sample = true := by
    intro one inSamples
    have before := oneLink one inSamples last mem
    simp only [sameLink, decide_eq_true_eq] at before joined ⊢
    exact ⟨before.1.trans joined.1, before.2.trans joined.2⟩
  intro one memberOne two memberTwo
  rcases mem_append.mp memberOne with inOne | isOne
  · rcases mem_append.mp memberTwo with inTwo | isTwo
    · exact oneLink one inOne two inTwo
    · rw [mem_singleton.mp isTwo]
      exact toSample one inOne
  · rw [mem_singleton.mp isOne]
    rcases mem_append.mp memberTwo with inTwo | isTwo
    · have back := toSample two inTwo
      simp only [sameLink, decide_eq_true_eq] at back ⊢
      exact ⟨back.1.symm, back.2.symm⟩
    · rw [mem_singleton.mp isTwo]
      simp [sameLink]

theorem accepts_iff (interval : Scope → Number) (linked : sameLink first last = true) :
    ((openSegment interval first).sourceFileId = sample.sourceFileId ∧
        (openSegment interval first).radio = sample.radio ∧
        (openSegment interval first).activePeerKey = sample.activePeerKey) ↔
      sameLink last sample = true := by
  simp only [sameLink, MeshSample.scope, Prod.mk.injEq, decide_eq_true_eq] at linked ⊢
  obtain ⟨⟨file, radio⟩, peer⟩ := linked
  simp only [openSegment]
  rw [file, radio, peer, and_assoc]

theorem Carries.step (carries : Carries lib rules rows interval loop state)
    (sample : MeshSample Number) :
    Carries lib rules rows interval (loop.step lib rules rows interval sample)
      (collectStep hasPeer sameLink state sample) := by
  have finished := carries.finish _ _
  obtain ⟨done, current⟩ := state
  have segments := carries.segments
  have open' := carries.current
  have oneLink := carries.oneLink
  by_cases peer : sample.activePeerKey = ""
  · have dropped : hasPeer sample = false := by simp [hasPeer, peer]
    have closed : collectStep hasPeer sameLink (done, current) sample =
        (collected (done, current), []) := by
      simp only [collectStep, dropped, Bool.false_eq_true, if_false, collected]
      split <;> rfl
    rw [closed, SegmentLoop.step, if_pos peer]
    exact ⟨finished, rfl, by simp [OneLink]⟩
  · have kept : hasPeer sample = true := by simp [hasPeer, peer]
    rw [SegmentLoop.step, if_neg peer]
    cases current with
    | nil =>
      simp only [openRun, List.head?_nil] at open'
      simp only [open', collectStep, kept, if_true]
      exact ⟨segments, (openRun_singleton interval sample).symm, oneLink_singleton sample⟩
    | cons first rest =>
      cases ends : (first :: rest).getLast? with
      | none => simp at ends
      | some last =>
        have inside : last ∈ first :: rest := mem_of_getLast? ends
        have linked := oneLink first mem_cons_self last inside
        simp only [openRun, List.head?_cons, Option.bind_some, ends, Option.map_some] at open'
        simp only [open', collectStep, kept, if_true, ends]
        by_cases joined : sameLink last sample = true
        · rw [if_pos ((accepts_iff interval linked).mpr joined), if_pos joined]
          exact ⟨segments, (openRun_append interval rfl sample).symm, oneLink.append inside joined⟩
        · rw [if_neg (fun accepted => joined ((accepts_iff interval linked).mp accepted)),
            if_neg joined]
          refine ⟨?_, (openRun_singleton interval sample).symm, oneLink_singleton sample⟩
          simpa [collected] using finished

theorem carries_foldl (samples : List (MeshSample Number))
    (carries : Carries lib rules rows interval loop state) : Carries lib rules rows interval
      (samples.foldl (SegmentLoop.step lib rules rows interval) loop)
      (samples.foldl (collectStep hasPeer sameLink) state) := by
  induction samples generalizing loop state with
  | nil => exact carries
  | cons sample rest ih => exact ih (carries.step _ _ sample)

theorem buildActiveSegments_runs (samples : List (MeshSample Number)) (rows : List MeshRow) :
    ((buildActiveSegments lib rules samples rows).map (·.row)).map some =
      (runs hasPeer sameLink samples).map
        (runSegment lib rules rows (sampleInterval lib samples)) := by
  have start : Carries lib rules rows (sampleInterval lib samples) ⟨[], none⟩ ([], []) :=
    ⟨rfl, rfl, by simp [OneLink]⟩
  have finished := (carries_foldl lib rules samples start).finish lib rules
  rw [collect_eq_runs] at finished
  rw [buildActiveSegments, map_row_numbered]
  exact finished

/-! ## The segments of a scope -/

theorem sampleInterval_scopeElements (samples : List (MeshSample Number)) (own : Scope) :
    sampleInterval lib (scopeElements MeshSample.scope own samples) own =
      sampleInterval lib samples own := by
  simp only [sampleInterval, scopeElements, filter_filter, Bool.and_self]

theorem runSegment_scope (rows : List MeshRow) (interval : Scope → Number) (own : Scope)
    (run : List (MeshSample Number)) :
    (match runSegment lib rules rows interval run with
      | none => false
      | some segment => decide (segment.scope = own)) = beginsIn MeshSample.scope own run := by
  cases run with
  | nil => rfl
  | cons first rest =>
    cases ends : (first :: rest).getLast? with
    | none => simp at ends
    | some last =>
      simp only [runSegment, openRun, List.head?_cons, ends]
      rfl

theorem runSegment_interval (rows : List MeshRow) {interval other : Scope → Number} {own : Scope}
    (same : interval own = other own) {run : List (MeshSample Number)}
    (begins : beginsIn MeshSample.scope own run = true) :
    runSegment lib rules rows interval run = runSegment lib rules rows other run := by
  cases run with
  | nil => rfl
  | cons first rest =>
    have inOwn : first.scope = own := by simpa [beginsIn] using begins
    simp [runSegment, openRun, openSegment, inOwn, same]

/-- The segments of one scope, in their order. -/
def scopeSegments (own : Scope) (segments : List (Numbered (ActiveSegment Number Figures))) :
    List (ActiveSegment Number Figures) :=
  (segments.map (·.row)).filter fun segment => decide (segment.scope = own)

variable (samples : List (MeshSample Number))
include samples

variable (rows : List MeshRow) (own : Scope)
include own

theorem scopeSegments_runs :
    (scopeSegments own (buildActiveSegments lib rules samples rows)).map some =
      (scopeRuns MeshSample.scope own (runs hasPeer sameLink samples)).map
        (runSegment lib rules rows (sampleInterval lib samples)) := by
  have built := buildActiveSegments_runs lib rules samples rows
  rw [scopeSegments]
  generalize (buildActiveSegments lib rules samples rows).map (·.row) = segments at built ⊢
  have chosen := congrArg (List.filter fun segment => match segment with
    | none => false
    | some segment => decide (segment.scope = own)) built
  rw [filter_map, filter_map] at chosen
  refine chosen.trans ?_
  congr 1
  refine filter_congr ?_
  intro run _
  exact runSegment_scope lib rules rows _ own run

theorem segments_scopeElements :
    ((buildActiveSegments lib rules (scopeElements MeshSample.scope own samples) rows).map
        (·.row)).map some =
      (runs hasPeer sameLink (scopeElements MeshSample.scope own samples)).map
        (runSegment lib rules rows (sampleInterval lib samples)) := by
  rw [buildActiveSegments_runs]
  refine map_congr_left ?_
  intro run mem
  exact runSegment_interval _ _ _ (sampleInterval_scopeElements _ _ own)
    (beginsIn_of_mem_runs mem)

/-- Two samples of the scope with the same main link stand next to each other when
no other sample of the scope stands between them. -/
abbrev LinksUnparted (own : Scope) (samples : List (MeshSample Number)) : Prop :=
  Unparted hasPeer sameLink MeshSample.scope own samples

theorem scopeSegments_eq_iff : scopeSegments own (buildActiveSegments lib rules samples rows) =
        (buildActiveSegments lib rules (scopeElements MeshSample.scope own samples) rows).map
          (·.row) ↔
      LinksUnparted own samples := by
  have full := scopeSegments_runs lib rules samples rows own
  have alone := segments_scopeElements lib rules samples rows own
  constructor
  · intro equal
    rw [equal, alone] at full
    have lengths := congrArg List.length full
    rw [length_map, length_map] at lengths
    exact (length_scopeRuns_eq_iff sameLink_scope samples).mp lengths.symm
  · intro unparted
    have same := (scopeRuns_eq_iff sameLink_scope samples).mpr unparted
    rw [same, ← alone] at full
    exact map_injective_iff.mpr (Option.some_injective _) full

/-! ## The switch events of a scope -/

theorem samplesBetweenIndexed_scopeElements (anchor : String) (seconds : Int) (before : Bool) :
    samplesBetweenIndexed lib (scopeElements MeshSample.scope own samples) own anchor seconds
        before =
      samplesBetweenIndexed lib samples own anchor seconds before := by
  simp only [samplesBetweenIndexed, scopeElements, filter_filter, Bool.and_self]

variable (segments : List (ActiveSegment Number Figures))

theorem scopeSwitchEvents_scopeElements :
    scopeSwitchEvents lib rules (scopeElements MeshSample.scope own samples) segments own =
      scopeSwitchEvents lib rules samples segments own := by
  simp only [scopeSwitchEvents, switchEvent, samplesBetweenIndexed_scopeElements]

theorem scopeSwitchEvents_nil :
    scopeSwitchEvents lib rules samples ([] : List (ActiveSegment Number Figures)) own = [] :=
  rfl

def scopeEvents (own : Scope) (events : List (Numbered (Scope × SwitchEvent Number))) :
    List (SwitchEvent Number) :=
  ((events.map (·.row)).filter fun event => decide (event.1 = own)).map (·.2)

theorem filter_visits :
    ((segments.map (·.scope)).eraseDups.flatMap fun scope =>
        (scopeSwitchEvents lib rules samples
          (segments.filter fun segment => decide (segment.scope = scope)) scope).map
            (scope, ·)).filter (fun event => decide (event.1 = own)) =
      (scopeSwitchEvents lib rules samples
        (segments.filter fun segment => decide (segment.scope = own)) own).map (own, ·) := by
  have apart : ∀ other, other ≠ own → ∀ event ∈ (scopeSwitchEvents lib rules samples
      (segments.filter fun segment => decide (segment.scope = other)) other).map (other, ·),
      decide (event.1 = own) = false := by
    intro other different event mem
    obtain ⟨switch, _, rfl⟩ := mem_map.mp mem
    simpa using different
  by_cases visited : own ∈ (segments.map (·.scope)).eraseDups
  · rw [filter_flatMap_group visited (nodup_eraseDups _) fun other _ => apart other]
    refine filter_eq_self.mpr ?_
    intro event mem
    obtain ⟨switch, _, rfl⟩ := mem_map.mp mem
    simp
  · have without : (segments.filter fun segment => decide (segment.scope = own)) = [] := by
      refine filter_eq_nil_iff.mpr ?_
      intro segment mem inOwn
      have listed : segment.scope ∈ segments.map (·.scope) := mem_map_of_mem mem
      rw [of_decide_eq_true inOwn] at listed
      exact visited (mem_eraseDups.mpr listed)
    rw [without, scopeSwitchEvents_nil, map_nil]
    refine filter_flatMap_eq_nil ?_
    intro other mem
    exact apart other fun same => visited (same ▸ mem)

theorem scopeEvents_eq : scopeEvents own (scopedSwitchEvents lib rules segments samples) =
      sortBy (fun event => event.switchTime) (scopeSwitchEvents lib rules samples
          (segments.filter fun segment => decide (segment.scope = own)) own) := by
  have times : ∀ visit : List (SwitchEvent Number),
      (sortBy (fun event => event.2.switchTime) (visit.map (own, ·))).map (·.2) =
        sortBy (fun event => event.switchTime) visit := by
    intro visit
    rw [map_sortBy (fun event : Scope × SwitchEvent Number => event.2) _
      (fun event => event.switchTime) fun _ => rfl, map_map]
    simp
  rw [scopeEvents, scopedSwitchEvents,
    map_row_sortBy (fun event : Scope × SwitchEvent Number => event.2.switchTime), filter_sortBy,
    filter_visits, times]

omit own

theorem analyzeSwitchEvents_eq {segments : List (ActiveSegment Number Figures)} {own : Scope}
    (alone : ∀ segment ∈ segments, segment.scope = own) :
    (analyzeSwitchEvents lib rules segments samples).map (·.row) =
      scopeEvents own (scopedSwitchEvents lib rules segments samples) := by
  have belongs : ∀ event ∈ (scopedSwitchEvents lib rules segments samples).map (·.row),
      decide (event.1 = own) = true := by
    intro event mem
    obtain ⟨_, inEvents, rfl⟩ := mem_map.mp mem
    have inVisits := row_mem ((sortBy_perm _ _).mem_iff.mp inEvents)
    obtain ⟨scope, visited, inVisit⟩ := mem_flatMap.mp inVisits
    obtain ⟨switch, _, same⟩ := mem_map.mp inVisit
    obtain ⟨segment, inSegments, isScope⟩ := mem_map.mp (mem_eraseDups.mp visited)
    rw [← same, ← isScope]
    exact decide_eq_true (alone segment inSegments)
  rw [scopeEvents, filter_eq_self.mpr belongs, analyzeSwitchEvents]
  simp

omit samples

/-! ## Isolation -/

/-- The segments and the switch events of a scope, apart from their numbers, are
those of its samples alone. -/
structure ScopeIsolated (samples : List (MeshSample Number)) (rows : List MeshRow) (own : Scope) :
    Prop where
  segments : scopeSegments own (buildActiveSegments lib rules samples rows) =
    (buildActiveSegments lib rules (scopeElements MeshSample.scope own samples) rows).map
      (·.row)
  switches : scopeEvents own (scopedSwitchEvents lib rules
      ((buildActiveSegments lib rules samples rows).map (·.row)) samples) =
    (analyzeSwitchEvents lib rules
      ((buildActiveSegments lib rules (scopeElements MeshSample.scope own samples) rows).map
        (·.row)) (scopeElements MeshSample.scope own samples)).map (·.row)

/-- A scope is analysed as if it were alone exactly if no two of its samples with
the same main link are parted by samples of other scopes. -/
theorem scopeIsolated_iff (samples : List (MeshSample Number)) (rows : List MeshRow) (own : Scope) :
    ScopeIsolated lib rules samples rows own ↔ LinksUnparted own samples := by
  constructor
  · intro isolated
    exact (scopeSegments_eq_iff _ _ _ _ own).mp isolated.segments
  · intro unparted
    have segments := (scopeSegments_eq_iff lib rules samples rows own).mpr unparted
    have alone : ∀ segment ∈ (buildActiveSegments lib rules
        (scopeElements MeshSample.scope own samples) rows).map (·.row), segment.scope = own := by
      rw [← segments]
      intro segment mem
      exact of_decide_eq_true (mem_filter.mp mem).2
    refine ⟨segments, ?_⟩
    rw [analyzeSwitchEvents_eq _ _ _ alone, scopeEvents_eq, scopeEvents_eq,
      scopeSwitchEvents_scopeElements]
    have same := segments
    rw [scopeSegments] at same
    rw [same]
    congr 2
    exact (filter_eq_self.mpr fun segment mem => decide_eq_true (alone segment mem)).symm

end Isolation

/-! ## Two radios -/

/-- Two samples of the first radio, and one of the second between them. -/
def twoRadios : List (MeshSample Int) :=
  [linkedSample 1 "2026-01-01 10:00:00", linkedSample 2 "2026-01-01 10:00:00",
    linkedSample 1 "2026-01-01 10:00:01"]

/-- The second radio makes two segments of the one of the first radio. -/
theorem not_scopeIsolated_twoRadios : ¬ ScopeIsolated integerLibrary {} twoRadios [] (1, 1) := by
  have full : (scopeSegments (1, 1)
      (buildActiveSegments integerLibrary {} twoRadios [])).length = 2 := by
    decide +kernel
  have alone : ((buildActiveSegments integerLibrary {}
      (scopeElements MeshSample.scope (1, 1) twoRadios) []).map (·.row)).length = 1 := by
    decide +kernel
  intro isolated
  rw [isolated.segments, alone] at full
  exact absurd full (by decide)

end NetConsole.Mesh
