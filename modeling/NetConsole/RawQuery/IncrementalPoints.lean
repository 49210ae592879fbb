import NetConsole.RawQuery.IncrementalScan

/-!
# What an incremental call returns

A position behind a newline cuts a file into lines on both sides (`completePart_append`).
Sorting keeps the records of a file in their order where their keys are in order
(`sortPoints_spec`), and pruning changes no offset (`lookup_pruneCursorOffsets`).
-/

set_option autoImplicit false

namespace NetConsole.RawQuery

open Worker (Event)
open Syslog (AreLines rawLines areLines_rawLines flatten_rawLines rawLines_flatten)
open List

/-! ## Contents that end in a line -/

/-- Bytes that are empty or end in a newline. -/
def EndsLine (bytes : List UInt8) : Prop := bytes = [] ∨ isComplete bytes = true

theorem EndsLine.tail {byte : UInt8} {rest : List UInt8} (ends : EndsLine (byte :: rest)) :
    EndsLine rest := by
  cases rest with
  | nil => exact .inl rfl
  | cons next more =>
    rcases ends with empty | complete
    · cases empty
    · exact .inr (by simpa [isComplete] using complete)

variable {bytes : List UInt8}

theorem EndsLine.drop (ends : EndsLine bytes) (count : Nat) : EndsLine (bytes.drop count) := by
  induction count generalizing bytes with
  | zero => exact ends
  | succ count ih =>
    cases bytes with
    | nil => exact .inl rfl
    | cons byte rest => exact ih ends.tail

variable {first : List UInt8}

theorem EndsLine.append {second : List UInt8} (endsFirst : EndsLine first)
    (endsSecond : EndsLine second) : EndsLine (first ++ second) := by
  rcases endsSecond with rfl | complete
  · rwa [append_nil]
  · refine .inr ?_
    unfold isComplete at complete ⊢
    rw [List.getLast?_append, eq_of_beq complete]
    rfl

theorem rawLines_ne_nil {byte : UInt8} (ends : EndsLine (byte :: bytes)) (other : byte ≠ 10) :
    rawLines bytes ≠ [] := by
  intro lines
  have empty := flatten_rawLines bytes
  rw [lines] at empty
  subst empty
  rcases ends with none' | complete
  · cases none'
  · simp only [isComplete, List.getLast?_singleton, beq_iff_eq, Option.some.injEq,
      flatten_nil] at complete
    exact other complete

/-- The lines behind bytes that end in a newline do not depend on them. -/
theorem rawLines_append (ends : EndsLine first) (second : List UInt8) :
    rawLines (first ++ second) = rawLines first ++ rawLines second := by
  induction first with
  | nil => rfl
  | cons byte rest ih =>
    have later := ih ends.tail
    rw [cons_append, rawLines, later]
    conv_rhs => rw [rawLines]
    split
    · rfl
    · next other =>
      cases lines : rawLines rest with
      | nil => exact absurd lines (rawLines_ne_nil ends other)
      | cons line more => rfl

theorem completePart_rawLines (ends : EndsLine bytes) :
    completePart (rawLines bytes) = rawLines bytes := by
  induction bytes with
  | nil => rfl
  | cons byte rest ih =>
    have later := ih ends.tail
    rw [rawLines]
    split
    · next newline =>
      rw [completePart, takeWhile_cons_of_pos (by simp [isComplete, newline])]
      exact congrArg _ later
    · next other =>
      cases lines : rawLines rest with
      | nil => exact absurd lines (rawLines_ne_nil ends other)
      | cons line more =>
        rw [lines] at later
        have complete : isComplete line = true := by
          by_contra torn
          rw [completePart, takeWhile_cons_of_neg torn] at later
          cases later
        have nonempty : line ≠ [] := by
          intro empty
          rw [empty] at complete
          cases complete
        have longer : isComplete (byte :: line) = true := by
          obtain ⟨_, tail, rfl⟩ := exists_cons_of_ne_nil nonempty
          simpa [isComplete] using complete
        rw [completePart, takeWhile_cons_of_pos complete] at later
        rw [completePart, takeWhile_cons_of_pos longer, tail_eq_of_cons_eq later]

theorem completePart_append (ends : EndsLine first) (second : List UInt8) :
    completePart (rawLines (first ++ second)) =
      rawLines first ++ completePart (rawLines second) := by
  have all := completePart_rawLines ends
  rw [rawLines_append ends, completePart, takeWhile_append_of_pos, completePart]
  intro line mem
  rw [← all, completePart] at mem
  exact mem_takeWhile_imp mem

/-- Complete lines end in a newline together. -/
theorem endsLine_flatten {lines : List (List UInt8)}
    (complete : ∀ line ∈ lines, isComplete line = true) : EndsLine lines.flatten := by
  induction lines with
  | nil => exact .inl rfl
  | cons line rest ih =>
    exact EndsLine.append (.inr (complete line mem_cons_self))
      (ih fun other mem => complete other (mem_cons_of_mem _ mem))

theorem drop_eq_of_completePart {first rest : List (List UInt8)}
    (parts : completePart (rawLines bytes) = first ++ rest) :
    ∃ more, bytes = first.flatten ++ more ∧ EndsLine first.flatten ∧
      rawLines first.flatten = first ∧ completePart (rawLines more) = rest := by
  obtain ⟨torn, whole⟩ : completePart (rawLines bytes) <+: rawLines bytes :=
    takeWhile_prefix isComplete
  rw [parts, append_assoc] at whole
  have are := areLines_rawLines bytes
  rw [← whole] at are
  have lines : rawLines first.flatten = first :=
    rawLines_flatten (are.sublist (sublist_append_left ..))
  have ends : EndsLine first.flatten := by
    apply endsLine_flatten
    intro line mem
    apply mem_takeWhile_imp (l := rawLines bytes)
    change line ∈ completePart (rawLines bytes)
    rw [parts]
    exact mem_append_left _ mem
  have joined : bytes = first.flatten ++ (rest ++ torn).flatten := by
    rw [← flatten_append, whole, flatten_rawLines]
  refine ⟨(rest ++ torn).flatten, joined, ends, lines, ?_⟩
  rw [joined, completePart_append ends, lines] at parts
  exact append_cancel_left parts

/-! ## The order of points -/

section IncrementalPoints

variable (lib : RawQueryLibrary) (identity : PingIdentity)

theorem PointKey.le_total (one two : PointKey) : (one.le two || two.le one) = true := by
  simp only [PointKey.le, Bool.or_eq_true, decide_eq_true_eq]
  by_cases earlier : one.ts < two.ts
  · exact .inl (.inl earlier)
  · by_cases later : two.ts < one.ts
    · exact .inr (.inl later)
    · have sameTs := String.le_antisymm (String.not_lt.mp later) (String.not_lt.mp earlier)
      rcases Int.lt_trichotomy one.seq two.seq with smaller | sameSeq | larger
      · exact .inl (.inr ⟨sameTs, .inl smaller⟩)
      · by_cases before : one.sampleId < two.sampleId
        · exact .inl (.inr ⟨sameTs, .inr ⟨sameSeq, .inl before⟩⟩)
        · by_cases behind : two.sampleId < one.sampleId
          · exact .inr (.inr ⟨sameTs.symm, .inr ⟨sameSeq.symm, .inl behind⟩⟩)
          · have sameId := String.le_antisymm (String.not_lt.mp behind) (String.not_lt.mp before)
            exact .inl (.inr ⟨sameTs, .inr ⟨sameSeq, .inr sameId⟩⟩)
      · exact .inr (.inr ⟨sameTs.symm, .inl larger⟩)

theorem PointKey.le_trans (one two three : PointKey) (first : one.le two = true)
    (second : two.le three = true) : one.le three = true := by
  simp only [PointKey.le, decide_eq_true_eq] at first second ⊢
  rcases first with earlier | ⟨sameTs, inTs⟩
  · rcases second with later | ⟨sameTs', _⟩
    · exact .inl (String.lt_trans earlier later)
    · exact .inl (sameTs' ▸ earlier)
  · rw [sameTs]
    refine second.imp_right fun second => ⟨second.1, ?_⟩
    rcases inTs with smaller | ⟨sameSeq, inSeq⟩
    · rcases second.2 with larger | ⟨sameSeq', _⟩
      · exact .inl (by omega)
      · exact .inl (by omega)
    · rw [sameSeq]
      refine second.2.imp_right fun second => ⟨second.1, ?_⟩
      rcases inSeq with before | sameId
      · rcases second.2 with behind | sameId'
        · exact .inl (String.lt_trans before behind)
        · exact .inl (sameId' ▸ before)
      · rw [sameId]
        exact second.2

/-- The keys of two records are in this order. -/
def KeyOrdered (one two : Event) : Prop :=
  ∀ key, pointKey lib one = .ok key → ∀ other, pointKey lib two = .ok other →
    key.le other = true

variable {lib identity} {records : List PingPoint}

theorem mapM_pointKey {keyed : List (PointKey × PingPoint)} (done : (records.mapM fun record =>
      (pointKey lib record.item).map fun key => (key, record)) = .ok keyed) :
    keyed.map (·.2) = records ∧ ∀ entry ∈ keyed, pointKey lib entry.2.item = .ok entry.1 := by
  induction records generalizing keyed with
  | nil =>
    cases done
    exact ⟨rfl, fun _ mem => (not_mem_nil mem).elim⟩
  | cons record rest ih =>
    rw [mapM_cons] at done
    obtain ⟨entry, first, done⟩ := Foundations.bind_eq_ok.mp done
    obtain ⟨key, read, rfl⟩ := Foundations.map_eq_ok.mp first
    obtain ⟨_, later, done⟩ := Foundations.bind_eq_ok.mp done
    cases done
    obtain ⟨same, keys⟩ := ih later
    refine ⟨by rw [map_cons, same], ?_⟩
    intro entry mem
    rcases mem_cons.mp mem with rfl | mem
    · exact read
    · exact keys entry mem

/-- Sorting keeps the records of a file in their order, where the keys are. -/
theorem sortPoints_spec {ordered : List PingPoint} (done : sortPoints lib records = .ok ordered)
    : ordered.length = records.length ∧ ∀ fileId,
      ((records.filter (·.rawFileId = fileId)).map (·.item)).Pairwise (KeyOrdered lib) →
        ordered.filter (·.rawFileId = fileId) = records.filter (·.rawFileId = fileId) := by
  obtain ⟨keyed, keys, rfl⟩ := Foundations.map_eq_ok.mp done
  obtain ⟨rfl, known⟩ := mapM_pointKey keys
  constructor
  · rw [length_map, length_mergeSort, length_map]
  intro fileId inOrder
  let sorted := keyed.mergeSort fun one two => one.1.le two.1
  let own := keyed.filter fun entry => entry.2.rawFileId = fileId
  have pairwise : own.Pairwise fun one two => one.1.le two.1 = true := by
    rw [filter_map, map_map, pairwise_map] at inOrder
    refine List.Pairwise.imp_of_mem ?_ inOrder
    intro one two memberOne memberTwo ordered
    exact ordered one.1 (known one (mem_of_mem_filter memberOne)) two.1
      (known two (mem_of_mem_filter memberTwo))
  have trans : ∀ one two three : PointKey × PingPoint, one.1.le two.1 = true →
      two.1.le three.1 = true → one.1.le three.1 = true :=
    fun one two three => PointKey.le_trans one.1 two.1 three.1
  have total : ∀ one two : PointKey × PingPoint, (one.1.le two.1 || two.1.le one.1) = true :=
    fun one two => PointKey.le_total one.1 two.1
  have kept : own.Sublist sorted :=
    sublist_mergeSort trans total pairwise filter_sublist
  have filtered : own.Sublist (sorted.filter fun entry => entry.2.rawFileId = fileId) := by
    have twice := kept.filter fun entry => entry.2.rawFileId = fileId
    simpa only [own, filter_filter, Bool.and_self] using twice
  have lengths : own.length = (sorted.filter fun entry => entry.2.rawFileId = fileId).length :=
    ((mergeSort_perm keyed _).filter _).length_eq.symm
  have same := filtered.eq_of_length lengths
  rw [filter_map, filter_map]
  exact congrArg (List.map (·.2)) same.symm

/-! ## A call -/

variable {offsets : List (String × Nat)} {fileId : String} {offset : Nat}

theorem lookup_filterMap_offsets {chosen : List PingFile} (kept : (chosen.filterMap fun file =>
      (offsets.lookup file.fileId).map (file.fileId, ·)).lookup fileId = some offset) :
    offsets.lookup fileId = some offset := by
  induction chosen with
  | nil => cases kept
  | cons file rest ih =>
    rw [filterMap_cons] at kept
    cases found : offsets.lookup file.fileId with
    | none =>
      rw [found] at kept
      exact ih kept
    | some stored =>
      rw [found] at kept
      simp only [Option.map_some, lookup_cons] at kept
      by_cases same : fileId = file.fileId
      · rw [same, beq_self_eq_true] at kept
        rw [same, found, ← Option.some.inj kept]
      · have unequal : (fileId == file.fileId) = false := by simp [same]
        rw [unequal] at kept
        exact ih kept

/-- Pruning forgets offsets and changes none. -/
theorem lookup_pruneCursorOffsets {files : List PingFile}
    (kept : (pruneCursorOffsets files offsets).lookup fileId = some offset) :
    offsets.lookup fileId = some offset :=
  lookup_filterMap_offsets kept

theorem pingSeriesIncremental_eq {call : IncrementalCall} {cursor : PingCursor}
    {result : IncrementalResult}
    (done : pingSeriesIncremental lib identity call cursor = .ok result) :
    ∃ scan ordered, readPingFiles lib identity call cursor call.files
        { offsets := cursor.offsets } = scan ∧ scan.raised = none ∧
      sortPoints lib scan.records = .ok ordered ∧
      result.points = (ordered.filter fun record => isPoint call.includeWarmup record.item).take
        call.limit ∧
      result.rawSampleCount = scan.records.length ∧
      result.nextCursor.offsets = pruneCursorOffsets scan.processed scan.offsets := by
  simp only [pingSeriesIncremental] at done
  split at done
  · cases done
  · next unraised =>
    obtain ⟨ordered, sorted, done⟩ := Foundations.bind_eq_ok.mp done
    obtain ⟨keyed, _, done⟩ := Foundations.bind_eq_ok.mp done
    split at done
    · cases done
      exact ⟨_, ordered, rfl, unraised, sorted, rfl, rfl, rfl⟩
    · obtain ⟨_, _, done⟩ := Foundations.bind_eq_ok.mp done
      cases done
      exact ⟨_, ordered, rfl, unraised, sorted, rfl, rfl, rfl⟩

end IncrementalPoints

end NetConsole.RawQuery
