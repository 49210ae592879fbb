import NetConsole.Foundations.FallibleMaps
import NetConsole.Traffic.EventStore

/-!
# Sequences in the event file

The complete lines of an event file should carry strictly increasing local
sequences, and strictly increasing remote ones.

An append continues from the watermark in memory, and a write that fails leaves
that watermark as it was, whatever has reached the file. When whole events have
reached it, the next append hands out their sequences again. The files stay
sound in every run in which no append finds a watermark in memory that its file
is already past (`storeSound_of_upToDate`): a restart, which forgets the
watermarks, before the next append after such a write is enough.
-/

set_option autoImplicit false

namespace NetConsole.Traffic

open Foundations List Function

/-! ## Ordered events -/

/-- Both sequences increase along the events. -/
structure Ordered (headers : List EventHeader) : Prop where
  sequences : (headers.map (·.sequence)).Pairwise (· < ·)
  remotes : (headers.filterMap (·.remoteSequence)).Pairwise (· < ·)

/-- No event is past the watermark. -/
def Covers (reached : Watermark) (headers : List EventHeader) : Prop :=
  ∀ header ∈ headers, header.sequence ≤ reached.1 ∧
    ∀ remote ∈ header.remoteSequence, remote ≤ reached.2

instance (reached : Watermark) (headers : List EventHeader) : Decidable (Covers reached headers) :=
  inferInstanceAs (Decidable (∀ header ∈ headers, _ ∧ _))

/-- Every header lies behind the watermark. -/
def Past (reached : Watermark) (headers : List EventHeader) : Prop :=
  ∀ header ∈ headers, reached.1 < header.sequence ∧
    ∀ remote ∈ header.remoteSequence, reached.2 < remote

theorem Ordered.nil : Ordered [] := ⟨.nil, .nil⟩

variable {headers fewer : List EventHeader}

theorem Ordered.sublist (ordered : Ordered headers) (sub : fewer.Sublist headers) :
    Ordered fewer where
  sequences := ordered.sequences.sublist (sub.map _)
  remotes := ordered.remotes.sublist (sub.filterMap _)

variable {reached : Watermark}

theorem Ordered.append {old new : List EventHeader} (before : Ordered old) (after : Ordered new)
    (covers : Covers reached old) (past : Past reached new) : Ordered (old ++ new) where
  sequences := by
    rw [map_append, pairwise_append]
    refine ⟨before.sequences, after.sequences, ?_⟩
    intro first inOld second inNew
    obtain ⟨oldHeader, oldMember, rfl⟩ := mem_map.mp inOld
    obtain ⟨newHeader, newMember, rfl⟩ := mem_map.mp inNew
    have low := (covers oldHeader oldMember).1
    have high := (past newHeader newMember).1
    omega
  remotes := by
    rw [filterMap_append, pairwise_append]
    refine ⟨before.remotes, after.remotes, ?_⟩
    intro first inOld second inNew
    obtain ⟨oldHeader, oldMember, said⟩ := mem_filterMap.mp inOld
    obtain ⟨newHeader, newMember, saying⟩ := mem_filterMap.mp inNew
    have low := (covers oldHeader oldMember).2 first said
    have high := (past newHeader newMember).2 second saying
    omega

theorem Past.subset (past : Past reached headers) (sub : fewer ⊆ headers) : Past reached fewer :=
  fun header mem => past header (sub mem)

variable {headers : List EventHeader}

theorem Past.lower {lower : Watermark} (past : Past reached headers) (local' : lower.1 ≤ reached.1)
    (remote : lower.2 ≤ reached.2) : Past lower headers := by
  intro header mem
  obtain ⟨_, remotes⟩ := past header mem
  exact ⟨by omega, fun value stored => by have := remotes value stored; omega⟩

variable (trafficRunId : String)

/-- An event that takes the next sequence, before events past its own ones. -/
theorem Ordered.accept (controller remote : Int) (stored : Option Int)
    {rest : List EventHeader} (ordered : Ordered rest) (newer : ∀ value ∈ stored, remote < value)
    (past : Past (controller + 1, stored.getD remote) rest) :
    Ordered (⟨trafficRunId, controller + 1, stored⟩ :: rest) ∧
      Past (controller, remote) (⟨trafficRunId, controller + 1, stored⟩ :: rest) := by
  have single : Ordered [⟨trafficRunId, controller + 1, stored⟩] := by
    constructor
    · simp
    · cases stored <;> simp
  have covers :
      Covers (controller + 1, stored.getD remote) [⟨trafficRunId, controller + 1, stored⟩] := by
    intro header mem
    obtain rfl := mem_singleton.mp mem
    refine ⟨Int.le_refl _, ?_⟩
    intro value same
    obtain rfl := Option.mem_def.mp same
    exact Int.le_refl _
  have lower : remote ≤ stored.getD remote := by
    cases stored with
    | none => exact Int.le_refl _
    | some value => exact Int.le_of_lt (newer value rfl)
  refine ⟨single.append ordered covers past, ?_⟩
  intro header mem
  rcases mem_cons.mp mem with rfl | later
  · exact ⟨Int.lt_succ controller, newer⟩
  · exact past.lower (Int.le_of_lt (Int.lt_succ controller)) lower header later

theorem acceptEvents_spec {last : Watermark} {events accepted : List TrafficEvent}
    (done : acceptEvents reached events = .ok (last, accepted)) :
    Ordered (accepted.map (·.header)) ∧ Past reached (accepted.map (·.header)) := by
  induction events generalizing reached accepted with
  | nil =>
    obtain ⟨rfl, rfl⟩ := done
    exact ⟨.nil, by simp [Past]⟩
  | cons event rest ih =>
    obtain ⟨controller, remote⟩ := reached
    cases stored : event.remoteSequence with
    | none =>
      simp only [acceptEvents, stored] at done
      obtain ⟨result, others, done⟩ := bind_eq_ok.mp done
      obtain ⟨rfl, rfl⟩ := done
      obtain ⟨ordered, past⟩ := ih others
      exact ordered.accept event.trafficRunId controller remote none (by simp) past
    | some candidate =>
      simp only [acceptEvents, stored] at done
      split at done
      · simp at done
      · split at done
        · exact ih done
        · next newer =>
          obtain ⟨result, others, done⟩ := bind_eq_ok.mp done
          obtain ⟨rfl, rfl⟩ := done
          obtain ⟨ordered, past⟩ := ih others
          have fresh : ∀ value ∈ some candidate, remote < value := by
            intro value same
            cases same
            omega
          exact ordered.accept event.trafficRunId controller remote _ fresh past

/-! ## The watermark covers its file -/

theorem raiseWatermark_le (reached : Watermark) (header : EventHeader) :
    reached.1 ≤ (raiseWatermark trafficRunId reached header).1 ∧
      reached.2 ≤ (raiseWatermark trafficRunId reached header).2 := by
  unfold raiseWatermark
  split
  · refine ⟨Int.le_max_left _ _, ?_⟩
    cases header.remoteSequence with
    | none => exact Int.le_refl _
    | some value => exact Int.le_max_left _ _
  · exact ⟨Int.le_refl _, Int.le_refl _⟩

theorem foldl_raiseWatermark_le (headers : List EventHeader)
    (reached : Watermark) : reached.1 ≤ (headers.foldl (raiseWatermark trafficRunId) reached).1 ∧
      reached.2 ≤ (headers.foldl (raiseWatermark trafficRunId) reached).2 := by
  induction headers generalizing reached with
  | nil => simp
  | cons header rest ih =>
    have first := raiseWatermark_le trafficRunId reached header
    have others := ih (raiseWatermark trafficRunId reached header)
    exact ⟨Int.le_trans first.1 others.1, Int.le_trans first.2 others.2⟩

variable {trafficRunId : String}

theorem le_foldl_raiseWatermark {header : EventHeader} (mem : header ∈ headers)
    (own : header.trafficRunId = trafficRunId) (reached : Watermark) :
    header.sequence ≤ (headers.foldl (raiseWatermark trafficRunId) reached).1 ∧
      ∀ value ∈ header.remoteSequence,
        value ≤ (headers.foldl (raiseWatermark trafficRunId) reached).2 := by
  induction headers generalizing reached with
  | nil => cases mem
  | cons first rest ih =>
    rcases mem_cons.mp mem with rfl | later
    · have grown := foldl_raiseWatermark_le trafficRunId rest
        (raiseWatermark trafficRunId reached header)
      have local' : header.sequence ≤ (raiseWatermark trafficRunId reached header).1 := by
        simp only [raiseWatermark, if_pos own]
        exact Int.le_max_right _ _
      refine ⟨Int.le_trans local' grown.1, ?_⟩
      intro value stored
      have remote : value ≤ (raiseWatermark trafficRunId reached header).2 := by
        simp only [raiseWatermark, if_pos own, Option.mem_def.mp stored, Option.map_some]
        exact Int.le_max_right _ _
      exact Int.le_trans remote grown.2
    · exact ih later _

variable (own : ∀ header ∈ headers, header.trafficRunId = trafficRunId)
include own

theorem covers_foldl
    (reached : Watermark) : Covers (headers.foldl (raiseWatermark trafficRunId) reached) headers :=
  fun header mem => le_foldl_raiseWatermark mem (own header mem) reached

theorem covers_readWatermark
    (last : Option Int) : Covers (readWatermark trafficRunId headers last) headers := by
  intro header mem
  obtain ⟨sequence, remotes⟩ := covers_foldl own (0, 0) header mem
  refine ⟨?_, remotes⟩
  cases last with
  | none => exact sequence
  | some value => exact Int.le_trans sequence (Int.le_max_left _ _)

omit own

/-! ## What an append does to the files -/

section Append

variable (lib : TrafficLibrary) (store : EventStore)

@[simp] theorem watermark_files (trafficRunId name : String) :
    (watermark lib store trafficRunId name).2.files = store.files := by
  simp only [watermark]
  cases getWatermark store.watermarks name with
  | mk found watermarks => cases found <;> rfl

@[simp] theorem updateLastEventSequence_files (trafficRunId : String) (sequence : Int) :
    (updateLastEventSequence store trafficRunId sequence).1.files = store.files := by
  unfold updateLastEventSequence
  split <;> rfl

theorem appendLocked_files (trafficRunId name : String)
    (pending : List TrafficEvent) (fault : AppendFault) :
    (appendLocked lib store trafficRunId name pending fault).1.files = store.files ∨
      ∃ last accepted part,
        acceptEvents (watermark lib store trafficRunId name).1 pending = .ok (last, accepted) ∧
        part <+: batchText lib (store.files name) accepted ∧
        (appendLocked lib store trafficRunId name pending fault).1.files =
          Function.update store.files name (store.files name ++ part) := by
  unfold appendLocked
  split
  · exact .inl rfl
  · simp only
    split
    · exact .inl (watermark_files _ _ _ name)
    · next last accepted done =>
      split
      · exact .inl (watermark_files _ _ _ name)
      · split
        · exact .inl (watermark_files _ _ _ name)
        · next written _ =>
          refine .inr ⟨last, accepted, _, done, take_prefix written _, ?_⟩
          simp [EventStore.appendFile]
        · refine .inr ⟨last, accepted, _, done, prefix_refl _, ?_⟩
          split <;> simp [EventStore.appendFile]

/-- The run id and the name of the file that a batch is for. -/
def batchFile (events : List TrafficEvent) : Option (String × String) :=
  events.head?.bind fun event =>
    (trafficRunName lib event.trafficRunId).map fun name => (event.trafficRunId, name)

theorem sanitizeEvent_trafficRunId {event sanitized : TrafficEvent}
    (done : sanitizeEvent lib event = .ok sanitized) :
    sanitized.trafficRunId = event.trafficRunId := by
  obtain ⟨_, _, rfl⟩ := map_eq_ok.mp done
  rfl

theorem appendMany_files (events : List TrafficEvent) (fault : AppendFault) :
    (appendMany lib store events fault).1.files = store.files ∨
      ∃ trafficRunId name pending last accepted part,
        batchFile lib events = some (trafficRunId, name) ∧
        (∀ event ∈ pending, event.trafficRunId = trafficRunId) ∧
        acceptEvents (watermark lib store trafficRunId name).1 pending = .ok (last, accepted) ∧
        part <+: batchText lib (store.files name) accepted ∧
        (appendMany lib store events fault).1.files =
          Function.update store.files name (store.files name ++ part) := by
  unfold appendMany
  split
  · exact .inl rfl
  · exact .inl rfl
  · next first others sanitized =>
    split
    · exact .inl rfl
    · next uniform =>
      have own : ∀ event ∈ first :: others, event.trafficRunId = first.trafficRunId := by
        intro event mem
        by_contra differs
        exact uniform (.inr (any_eq_true.mpr ⟨event, mem, bne_iff_ne.mpr differs⟩))
      split
      · exact .inl rfl
      · next name named =>
        rcases appendLocked_files _ _ first.trafficRunId name (first :: others) fault with
          same | ⟨last, accepted, part, done, cut, written⟩
        · exact .inl same
        · refine .inr ⟨first.trafficRunId, name, _, last, accepted, part, ?_, own, done, cut,
            written⟩
          cases events with
          | nil => simp [pure, Except.pure] at sanitized
          | cons _ rest =>
            rw [mapM_cons] at sanitized
            obtain ⟨_, one, sanitized⟩ := bind_eq_ok.mp sanitized
            obtain ⟨values, _, sanitized⟩ := bind_eq_ok.mp sanitized
            obtain ⟨rfl, rfl⟩ := sanitized
            have same := sanitizeEvent_trafficRunId _ one
            simp [batchFile, ← same, named]

/-- Without a carriage return in the file, a separator ends an unfinished line. -/
theorem batchText_eq {file : List UInt8} (free : 13 ∉ file) (accepted : List TrafficEvent) :
    batchText lib file accepted = lib.jsonLines.separator file ++ lib.jsonLines.lines accepted := by
  have ended : (frames lib.jsonLines.newline file).2 = [] ↔ _ := remainder_eq_nil_iff file
  rw [lib.newline_eq] at ended
  simp only [batchText, LineCodec.separator, lib.newline_eq, ended]
  cases last : file.getLast? with
  | none => simp [needsLineSeparator, List.getLast?_eq_none_iff.mp last]
  | some byte =>
    have inside : byte ∈ file := mem_of_getLast? last
    have other : byte ≠ 13 := fun same => free (same ▸ inside)
    have full : file ≠ [] := ne_nil_of_mem inside
    by_cases newline : byte = 10 <;> simp [needsLineSeparator, last, other, full, newline]

theorem return_notMem_lines (accepted : List TrafficEvent) : 13 ∉ lib.jsonLines.lines accepted := by
  induction accepted with
  | nil => simp [LineCodec.lines]
  | cons _ rest ih =>
    simp [LineCodec.lines, lib.return_notMem _, ih, lib.newline_eq]

theorem return_notMem_batchText (file : List UInt8) (accepted : List TrafficEvent) :
    13 ∉ batchText lib file accepted := by
  unfold batchText
  split <;> simp [return_notMem_lines]

end Append

/-! ## Runs -/

section Runs

variable (lib : TrafficLibrary)

/-- The complete lines carry increasing sequences of both kinds. -/
def FileSound (file : List UInt8) : Prop := Ordered (lib.jsonLines.complete file)

/-- The numbers of every event file rise. -/
def StoreSound (store : EventStore) : Prop := ∀ name, FileSound lib (store.files name)

/-- The watermark that an append starts from is not behind its file: the one in
memory covers it; where there is none, the lines all name the run. -/
def WatermarkCurrent (trafficRunId : String) (headers : List EventHeader) : Option Watermark → Prop
  | some cached => Covers cached headers
  | none => ∀ header ∈ headers, header.trafficRunId = trafficRunId

instance (trafficRunId : String) (headers : List EventHeader) :
    (cached : Option Watermark) → Decidable (WatermarkCurrent trafficRunId headers cached)
  | some cached => inferInstanceAs (Decidable (Covers cached headers))
  | none => inferInstanceAs (Decidable (∀ header ∈ headers, header.trafficRunId = trafficRunId))

/-- An append finds a watermark that is not behind its file. -/
def UpToDate (store : EventStore) : StoreAction → Prop
  | .append events _ => ∀ file ∈ batchFile lib events,
      WatermarkCurrent file.1 (lib.jsonLines.read (store.files file.2))
        (store.watermarks.lookup file.2)
  | .restart => True
  | .saveRun _ _ => True

instance (store : EventStore) : (action : StoreAction) → Decidable (UpToDate lib store action)
  | .append events _ => inferInstanceAs (Decidable (∀ file ∈ batchFile lib events, _))
  | .restart => .isTrue trivial
  | .saveRun _ _ => .isTrue trivial

/-- Also with an unfinished last line the events are in order. -/
structure FileOrdered (file : List UInt8) : Prop where
  ordered : Ordered (lib.jsonLines.read file)
  return_notMem : 13 ∉ file

variable {file : List UInt8}

theorem FileOrdered.sound (ordered : FileOrdered lib file) : FileSound lib file :=
  ordered.ordered.sublist (lib.jsonLines.complete_prefix_read file).sublist

variable {store : EventStore}

theorem covers_watermark {trafficRunId name : String}
    (current : WatermarkCurrent trafficRunId (lib.jsonLines.read (store.files name))
      (store.watermarks.lookup name)) :
    Covers (watermark lib store trafficRunId name).1 (lib.jsonLines.read (store.files name)) := by
  cases found : store.watermarks.lookup name with
  | none =>
    rw [found] at current
    simp only [watermark, getWatermark, found]
    exact covers_readWatermark current (store.runs _)
  | some cached =>
    rw [found] at current
    simp only [watermark, getWatermark, found]
    exact current

variable {reached last : Watermark}

theorem FileOrdered.append {part : List UInt8} {pending accepted : List TrafficEvent}
    (before : FileOrdered lib file) (covers : Covers reached (lib.jsonLines.read file))
    (done : acceptEvents reached pending = .ok (last, accepted))
    (cut : part <+: batchText lib file accepted) : FileOrdered lib (file ++ part) where
  ordered := by
    rw [batchText_eq _ before.return_notMem] at cut
    obtain ⟨kept, first, readPart⟩ := lib.jsonLines.read_append_part file accepted cut
    obtain ⟨ordered, past⟩ := acceptEvents_spec done
    have headers : kept.map lib.jsonLines.view = kept.map (·.header) :=
      map_congr_left fun _ _ => lib.view_eq _
    have sub : (kept.map (·.header)).Sublist (accepted.map (·.header)) := first.sublist.map _
    rw [readPart, headers]
    exact before.ordered.append (ordered.sublist sub) covers (past.subset sub.subset)
  return_notMem := by
    have free : 13 ∉ part :=
      fun mem => return_notMem_batchText _ file accepted (cut.subset mem)
    simp [before.return_notMem, free]

/-- Every event file is in order. -/
def StoreOrdered (store : EventStore) : Prop := ∀ name, FileOrdered lib (store.files name)

theorem storeOrdered_new : StoreOrdered lib EventStore.new := by
  intro name
  exact ⟨by simp [EventStore.new, Ordered.nil], by simp [EventStore.new]⟩

theorem StoreOrdered.append {events : List TrafficEvent} (fault : AppendFault)
    (ordered : StoreOrdered lib store) (upToDate : UpToDate lib store (.append events fault)) :
    StoreOrdered lib (appendMany lib store events fault).1 := by
  intro other
  rcases appendMany_files _ _ events fault with
    same | ⟨trafficRunId, name, pending, last, accepted, part, file, -, done, cut, written⟩
  · rw [same]
    exact ordered other
  · have covers := covers_watermark _ (upToDate (trafficRunId, name) file)
    rw [written]
    by_cases own : other = name
    · subst own
      rw [update_self]
      exact (ordered other).append _ covers done cut
    · rw [update_of_ne own]
      exact ordered other

theorem StoreOrdered.step {after : EventStore} {action : StoreAction}
    (ordered : StoreOrdered lib store) (upToDate : UpToDate lib store action)
    (taken : action.perform lib store = some after) : StoreOrdered lib after := by
  cases action with
  | append events fault =>
    cases taken
    exact ordered.append _ fault upToDate
  | restart =>
    cases taken
    exact ordered
  | saveRun _ lastEventSequence =>
    cases taken
    exact ordered

/-- As long as no append finds a watermark that is behind its file, every event
file carries increasing sequences, whatever fails in between. -/
theorem storeSound_of_upToDate {actions : List StoreAction} {last : EventStore}
    (run : GuardedRun (fun store action => action.perform lib store) (UpToDate lib)
      EventStore.new actions last) : StoreSound lib last := by
  have ordered := run.invariant (StoreOrdered _)
    (fun _ _ _ ordered upToDate taken => ordered.step _ upToDate taken)
    (storeOrdered_new _)
  intro name
  exact (ordered name).sound _

end Runs

/-! ## A retry after a failed write -/

section Retry

/-- An integer as a natural number. -/
def integerCode : Int → Nat
  | .ofNat value => 2 * value
  | .negSucc value => 2 * value + 1

def codedInteger (code : Nat) : Int :=
  if code % 2 = 0 then .ofNat (code / 2) else .negSucc (code / 2)

theorem codedInteger_integerCode (value : Int) : codedInteger (integerCode value) = value := by
  cases value with
  | ofNat value => simp [integerCode, codedInteger]
  | negSucc value =>
    have odd : (2 * value + 1) % 2 = 1 := by omega
    have half : (2 * value + 1) / 2 = value := by omega
    simp [integerCode, codedInteger, half]

/-- A header as numbers: the two sequences, then the characters of the run id. -/
def headerNumbers (header : EventHeader) : List Nat :=
  integerCode header.sequence ::
    ((header.remoteSequence.map fun remote => integerCode remote + 1).getD 0) ::
    header.trafficRunId.toList.map Char.toNat

def numbersHeader : List Nat → Option EventHeader
  | sequence :: remote :: characters =>
    some ⟨String.ofList (characters.map Char.ofNat), codedInteger sequence,
      if remote = 0 then none else some (codedInteger (remote - 1))⟩
  | _ => none

theorem numbersHeader_headerNumbers (header : EventHeader) :
    numbersHeader (headerNumbers header) = some header := by
  obtain ⟨_, _, remoteSequence⟩ := header
  cases remoteSequence <;>
    simp [headerNumbers, numbersHeader, codedInteger_integerCode, comp_def]

/-- Numbers in a unary notation, each before a comma. -/
def numbersText : List Nat → List UInt8
  | [] => []
  | number :: numbers => List.replicate number 49 ++ 44 :: numbersText numbers

theorem frames_numbersText (numbers : List Nat) :
    frames 44 (numbersText numbers) = (numbers.map (List.replicate · 49), []) := by
  induction numbers with
  | nil => simp [numbersText]
  | cons number numbers ih =>
    have free : (44 : UInt8) ∉ List.replicate number 49 := by simp
    rw [numbersText, frames_free_delimiter free, ih]
    rfl

variable {byte : UInt8}

theorem mem_numbersText {numbers : List Nat} (mem : byte ∈ numbersText numbers) :
    byte = 49 ∨ byte = 44 := by
  induction numbers with
  | nil => simp [numbersText] at mem
  | cons number numbers ih =>
    simp only [numbersText, mem_append, mem_replicate, mem_cons] at mem
    rcases mem with ⟨_, rfl⟩ | rfl | later
    · exact .inl rfl
    · exact .inr rfl
    · exact ih later

/-- The text of an event between braces. -/
def unaryText (event : TrafficEvent) : List UInt8 :=
  123 :: (numbersText (headerNumbers event.header) ++ [125])

def readUnary : List UInt8 → Option EventHeader
  | 123 :: rest =>
    if rest.getLast? = some 125 then
      numbersHeader ((frames 44 rest.dropLast).1.map List.length)
    else none
  | _ => none

variable (event : TrafficEvent)

theorem readUnary_unaryText : readUnary (unaryText event) = some event.header := by
  simp [readUnary, unaryText, frames_numbersText, comp_def, numbersHeader_headerNumbers]

theorem readUnary_part (part : List UInt8) (cut : part <+: unaryText event)
    (proper : part ≠ unaryText event) : readUnary part = none := by
  cases part with
  | nil => rfl
  | cons first part =>
    obtain ⟨rfl, rest⟩ := cons_prefix_cons.mp cut
    rcases prefix_concat_iff.mp rest with whole | inside
    · exact absurd (congrArg (123 :: ·) whole) proper
    · have absent : part.getLast? ≠ some 125 := by
        intro last
        rcases mem_numbersText (inside.subset (mem_of_getLast? last)) with same | same <;>
          exact absurd same (by decide)
      simp [readUnary, absent]

theorem notMem_unaryText (low : byte < 44) : byte ∉ unaryText event := by
  intro mem
  simp only [unaryText, mem_cons, mem_append, not_mem_nil, or_false] at mem
  rcases mem with rfl | inside | rfl
  · exact absurd low (by decide)
  · rcases mem_numbersText inside with rfl | rfl <;> exact absurd low (by decide)
  · exact absurd low (by decide)

/-- A small library: texts stay as they are, and events are stored in the unary
notation. -/
def unaryLibrary : TrafficLibrary where
  casefold := id
  redactAbsolutePaths := id
  pathName := id
  jsonLines := {
    newline := 10, encode := unaryText, decode := readUnary, view := TrafficEvent.header
    decode_encode := readUnary_unaryText, decode_part := readUnary_part
    newline_notMem := fun event => notMem_unaryText event (by decide), decode_nil := rfl }
  newline_eq := rfl
  view_eq := fun _ => rfl
  return_notMem := fun event => notMem_unaryText event (by decide)

/-- A sample that the agent reports under the given remote sequence. -/
def agentSample (remoteSequence : Int) : TrafficEvent :=
  ⟨"r", "task", "agent", .sample, .obj [], "", 0, some remoteSequence⟩

/-- Two samples are appended, the disk is full after the first of them, and they
are appended again. -/
def retriedBatch : List StoreAction :=
  [.append [agentSample 1, agentSample 2] (.writing 130),
    .append [agentSample 1, agentSample 2] .none]

/-- The first of the samples has taken its sequence twice. -/
theorem not_storeSound_retriedBatch :
    ∃ last, runFrom (fun store action => action.perform unaryLibrary store) EventStore.new
      retriedBatch = some last ∧ ¬ StoreSound unaryLibrary last := by
  have repeated : (runFrom (fun store action => action.perform unaryLibrary store) EventStore.new
        retriedBatch).map (fun store =>
          (unaryLibrary.jsonLines.complete (store.files "r")).map (·.sequence)) =
        some [1, 1, 2] := by
    decide +kernel
  obtain ⟨last, reached, sequences⟩ := Option.map_eq_some_iff.mp repeated
  refine ⟨last, reached, ?_⟩
  intro sound
  have increasing := (sound "r").sequences
  rw [sequences] at increasing
  exact absurd increasing (by decide)

/-- The store after the first of the appends. -/
def interruptedStore : EventStore :=
  (appendMany unaryLibrary .new [agentSample 1, agentSample 2] (.writing 130)).1

/-- A restart between the two appends keeps the file sound. -/
theorem storeSound_restartedBatch : StoreSound unaryLibrary
      (appendMany unaryLibrary { interruptedStore with watermarks := [] }
        [agentSample 1, agentSample 2] .none).1 := by
  have interrupted : UpToDate unaryLibrary EventStore.new
      (.append [agentSample 1, agentSample 2] (.writing 130)) := by
    decide +kernel
  have restarted : UpToDate unaryLibrary interruptedStore .restart := trivial
  have repeated : UpToDate unaryLibrary { interruptedStore with watermarks := [] }
      (.append [agentSample 1, agentSample 2] .none) := by
    decide +kernel
  exact storeSound_of_upToDate unaryLibrary
    (.cons interrupted rfl (.cons restarted rfl (.cons repeated rfl (.nil _))))

end Retry

end NetConsole.Traffic
