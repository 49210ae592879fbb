import NetConsole.RawQuery.IncrementalPoints
import NetConsole.Foundations.GuardedRuns

/-!
# Chains of incremental calls

A chain passes the cursor that a call returns to the next call; a call that fails is
repeated with the same cursor. Between the calls files grow, and come and go.

A call whose budget suffices reads of each file the lines behind those that earlier
calls have read (`CallFits.advance`). In a chain of such calls every matching record
that has been written after the first cursor is delivered once, in the order of its
file, and a call that reaches the end of the files has delivered all of them
(`deliversOnce_of_fits`). A call that runs out of its budget moves the offset behind a
line whose record it does not deliver (`not_deliversOnce_budget`).
-/

set_option autoImplicit false

namespace NetConsole.RawQuery

open Foundations List
open Worker (Event Json textOr)
open Syslog (rawLines flatten_rawLines)

section Delivery

variable {lib : RawQueryLibrary} {identity : PingIdentity}

/-! ## Chains -/

/-- A chain of calls: the cursor of the next call, the contents of the files that the
last call has seen, how far each file has been read, what has been delivered, and the
files that the last call has read to their ends. -/
structure PingChain where
  cursor : PingCursor
  contents : String → List UInt8
  readTo : String → Nat
  delivered : List PingPoint
  complete : List String

/-- Where the records of a file begin that are written after a cursor. -/
def PingCursor.start (cursor : PingCursor) (fileId : String) : Nat :=
  (cursor.offsets.lookup fileId).getD 0

def PingChain.new (first : PingCursor) (contents : String → List UInt8) : PingChain where
  cursor := first
  contents := contents
  readTo := first.start
  delivered := []
  complete := []

/-- The contents that a call finds. -/
def IncrementalCall.contentsOver (call : IncrementalCall) (contents : String → List UInt8)
    (fileId : String) : List UInt8 :=
  match call.files.find? (·.fileId = fileId) with
  | none => contents fileId
  | some file => file.content.getD (contents fileId)

variable (lib identity)

/-- The lines of each file that the next call reads. -/
def PingChain.reads (chain : PingChain) (call : IncrementalCall) :
    List (String × List (List UInt8)) :=
  callLines lib identity call chain.cursor call.files call.limit

/-- How far each file has been read after the call. -/
def PingChain.readBehind (chain : PingChain) (call : IncrementalCall) (fileId : String) : Nat :=
  let lines := linesOf (chain.reads lib identity call) fileId
  if lines = [] then chain.readTo fileId
  else
    startOffset chain.cursor.offsets fileId (call.contentsOver chain.contents fileId) +
      lineBytes lines

/-- The next call of a chain. -/
def PingChain.step (chain : PingChain) (call : IncrementalCall) : PingChain :=
  match pingSeriesIncremental lib identity call chain.cursor with
  | .error _ =>
    { chain with
      contents := call.contentsOver chain.contents, complete := [] }
  | .ok result =>
    { cursor := result.nextCursor, contents := call.contentsOver chain.contents
      readTo := chain.readBehind lib identity call
      delivered := chain.delivered ++ result.points
      complete :=
        if result.rawSampleCount < call.limit then
          (call.files.filter (·.content.isSome)).map (·.fileId)
        else [] }

/-- The points in some lines of a file that are written after a cursor. -/
def pointsAfter (cursor : PingCursor) (includeWarmup : Bool) (fileId : String)
    (lines : List (List UInt8)) : List Event :=
  (acceptedItems lib identity cursor fileId lines).filter (isPoint includeWarmup)

/-- The points that a file holds behind the first cursor. -/
def pointsOfFile (first : PingCursor) (includeWarmup : Bool) (fileId : String)
    (content : List UInt8) : List Event :=
  pointsAfter lib identity first includeWarmup fileId
    (completePart (rawLines (content.drop (first.start fileId))))

/-- The points of a file that a chain has delivered. -/
def PingChain.deliveredOf (chain : PingChain) (fileId : String) : List Event :=
  (chain.delivered.filter (·.rawFileId = fileId)).map (·.item)

/-- What has been delivered of a file are its first points behind the first cursor, each
once and in their order; of a file that has been read to its end these are all. -/
structure DeliversOnce (first : PingCursor) (includeWarmup : Bool) (chain : PingChain) : Prop where
  inOrder : ∀ fileId, chain.deliveredOf fileId <+:
    pointsOfFile lib identity first includeWarmup fileId (chain.contents fileId)
  complete : ∀ fileId ∈ chain.complete, chain.deliveredOf fileId =
    pointsOfFile lib identity first includeWarmup fileId (chain.contents fileId)

/-! ## Calls that fit -/

/-- The offsets of a cursor are behind complete lines. -/
def PingCursor.StartsAtLines (first : PingCursor) (contents : String → List UInt8) : Prop :=
  ∀ fileId, first.start fileId ≤ (contents fileId).length ∧
    EndsLine ((contents fileId).take (first.start fileId))

/-- The next call fits a chain: its budget suffices for the lines that it needs, files only
grow, the keys of a file are in order, and a file without an offset is read as one with an
offset would be. -/
structure CallFits (first : PingCursor) (includeWarmup : Bool) (chain : PingChain)
    (call : IncrementalCall) : Prop where
  sameTarget : call.includeWarmup = includeWarmup
  distinct : (call.files.map (·.fileId)).Nodup
  grows : ∀ file ∈ call.files, ∀ content, file.content = some content →
    chain.contents file.fileId <+: content
  affordable : LinesAffordable call ((chain.reads lib identity call).flatMap (·.2))
    { offsets := chain.cursor.offsets }
  keys : ∀ file ∈ call.files, (acceptedItems lib identity chain.cursor file.fileId
    (linesOf (chain.reads lib identity call) file.fileId)).Pairwise (KeyOrdered lib)
  notAgain : ∀ file ∈ call.files, ∀ content, file.content = some content →
    chain.cursor.offsets.lookup file.fileId = none →
      endedBefore lib call chain.cursor file = true ∨
        acceptedItems lib identity chain.cursor file.fileId
          (rawLines (content.take (chain.readTo file.fileId))) = []
  wanted : ∀ file ∈ call.files, ∀ content, file.content = some content →
    ∀ item ∈ lineItems lib identity
        (completePart (rawLines (content.drop (chain.readTo file.fileId)))),
      (!endedBefore lib call chain.cursor file &&
        acceptsItem lib chain.cursor file.fileId item) =
          acceptsItem lib first file.fileId item

variable {lib identity}

/-! ## What a call delivers -/

variable {content : List UInt8} {file : PingFile} {contents : String → List UInt8}

theorem contentsOver_of_mem {call : IncrementalCall} (distinct : (call.files.map (·.fileId)).Nodup)
    (mem : file ∈ call.files) (known : file.content = some content) :
    call.contentsOver contents file.fileId = content := by
  have found : call.files.find? (·.fileId = file.fileId) = some file := by
    cases other : call.files.find? (·.fileId = file.fileId) with
    | none =>
      have missing := List.find?_eq_none.mp other file mem
      simp at missing
    | some first =>
      have same : first.fileId = file.fileId := by simpa using List.find?_some other
      exact congrArg some (inj_on_of_nodup_map distinct (mem_of_find?_eq_some other) mem same)
  rw [IncrementalCall.contentsOver, found]
  simp only [known, Option.getD_some]

variable {fileId : String}

theorem contentsOver_of_not {call : IncrementalCall}
    (missing : ∀ file ∈ call.files, file.fileId = fileId → file.content = none) :
    call.contentsOver contents fileId = contents fileId := by
  unfold IncrementalCall.contentsOver
  cases found : call.files.find? (·.fileId = fileId) with
  | none => rfl
  | some file =>
    have same : file.fileId = fileId := by simpa using List.find?_some found
    simp only [missing file (mem_of_find?_eq_some found) same, Option.getD_none]

variable {first : PingCursor} {includeWarmup : Bool} {chain : PingChain} {call : IncrementalCall}
  (fits : CallFits lib identity first includeWarmup chain call)
include fits

theorem reads_of_missing
    (missing : ∀ file ∈ call.files, file.fileId = fileId → file.content = none) :
    linesOf (chain.reads lib identity call) fileId = [] := by
  by_cases listed : fileId ∈ call.files.map (·.fileId)
  · obtain ⟨file, mem, rfl⟩ := mem_map.mp listed
    obtain ⟨left, needed⟩ :=
      callLines_needed lib identity chain.cursor call.limit fits.distinct mem
    have nothing : pingPending lib call chain.cursor file = [] := by
      simp [pingPending, missing file mem rfl]
    rw [PingChain.reads, needed, nothing]
    rfl
  · apply linesOf_of_notMem
    rw [PingChain.reads, map_callLines]
    exact listed

/-- The call reads what it needs. -/
theorem CallFits.filesRead (unraised : (readPingFiles lib identity call chain.cursor call.files
      { offsets := chain.cursor.offsets }).raised = none) :
    FilesRead lib identity chain.cursor call.files (chain.reads lib identity call)
      { offsets := chain.cursor.offsets }
      (readPingFiles lib identity call chain.cursor call.files
        { offsets := chain.cursor.offsets }) :=
  readPingFiles_spec call.files { offsets := chain.cursor.offsets } fits.distinct
    (fun _ _ => rfl) fits.affordable rfl unraised

theorem CallFits.points {result : IncrementalResult}
    (done : pingSeriesIncremental lib identity call chain.cursor = .ok result)
    (fileId : String) : (result.points.filter (·.rawFileId = fileId)).map (·.item) =
      pointsAfter lib identity chain.cursor includeWarmup fileId
        (linesOf (chain.reads lib identity call) fileId) := by
  obtain ⟨_, ordered, rfl, unraised, sorted, points, _, _⟩ := pingSeriesIncremental_eq done
  have read := fits.filesRead unraised
  have records := read.records
  rw [map_nil, nil_append] at records
  generalize (readPingFiles lib identity call chain.cursor call.files
    { offsets := chain.cursor.offsets }).records = collected at records sorted
  have ofFile : (collected.filter (·.rawFileId = fileId)).map (·.item) =
      acceptedItems lib identity chain.cursor fileId
        (linesOf (chain.reads lib identity call) fileId) := by
    have distinct : ((chain.reads lib identity call).map (·.1)).Nodup := by
      rw [PingChain.reads, map_callLines]
      exact fits.distinct
    rw [← callItems_ofFile fileId distinct, ← records, filter_map, map_map]
    rfl
  obtain ⟨_, kept⟩ := sortPoints_spec sorted
  have inOrder : ((collected.filter (·.rawFileId = fileId)).map (·.item)).Pairwise
      (KeyOrdered lib) := by
    rw [ofFile]
    by_cases listed : fileId ∈ call.files.map (·.fileId)
    · obtain ⟨file, mem, rfl⟩ := mem_map.mp listed
      exact fits.keys file mem
    · have nothing : linesOf (chain.reads lib identity call) fileId = [] := by
        apply linesOf_of_notMem
        rw [PingChain.reads, map_callLines]
        exact listed
      rw [nothing]
      exact List.Pairwise.nil
  have few : ordered.length ≤ call.limit := by
    have accepted : (callItems lib identity chain.cursor
        (chain.reads lib identity call)).length ≤ call.limit := length_callLines_le _ _
    rw [← records, length_map] at accepted
    omega
  have allPoints : result.points =
      ordered.filter fun record => isPoint includeWarmup record.item := by
    rw [points, fits.sameTarget]
    exact take_of_length_le ((length_filter_le ..).trans few)
  have swapped : (ordered.filter fun record => isPoint includeWarmup record.item).filter
      (·.rawFileId = fileId) = (ordered.filter (·.rawFileId = fileId)).filter
        fun record => isPoint includeWarmup record.item := by
    rw [filter_filter, filter_filter]
    apply filter_congr
    intro record _
    exact Bool.and_comm ..
  rw [allPoints, swapped, kept fileId inOrder, pointsAfter, ← ofFile, filter_map]
  rfl

omit fits

/-! ## The invariant -/

/-- What has been delivered of a file are the points of the lines that have been read. -/
structure ChainInvariant (lib : RawQueryLibrary) (identity : PingIdentity)
    (first : PingCursor) (includeWarmup : Bool) (chain : PingChain) : Prop where
  offsets : ∀ fileId offset, chain.cursor.offsets.lookup fileId = some offset →
    chain.readTo fileId = offset
  inside : ∀ fileId, chain.readTo fileId ≤ (chain.contents fileId).length
  ends : ∀ fileId, EndsLine ((chain.contents fileId).take (chain.readTo fileId))
  behind : ∀ fileId, first.start fileId ≤ chain.readTo fileId
  delivered : ∀ fileId, chain.deliveredOf fileId =
    pointsAfter lib identity first includeWarmup fileId
      (rawLines (((chain.contents fileId).take (chain.readTo fileId)).drop (first.start fileId)))
  complete : ∀ fileId ∈ chain.complete, pointsAfter lib identity first includeWarmup fileId
    (completePart (rawLines ((chain.contents fileId).drop (chain.readTo fileId)))) = []

theorem ChainInvariant.initial (starts : first.StartsAtLines contents) :
    ChainInvariant lib identity first includeWarmup (PingChain.new first contents) where
  offsets fileId offset known := by
    have stored : first.offsets.lookup fileId = some offset := known
    show (first.offsets.lookup fileId).getD 0 = offset
    rw [stored]
    rfl
  inside fileId := (starts fileId).1
  ends fileId := (starts fileId).2
  behind _ := Nat.le_refl _
  delivered fileId := by
    show [] = pointsAfter lib identity first includeWarmup fileId
      (rawLines (((contents fileId).take (first.start fileId)).drop (first.start fileId)))
    rw [drop_eq_nil_of_le (length_take_le ..)]
    rfl
  complete _ mem := (not_mem_nil mem).elim

theorem pointsOfFile_split {position : Nat} (inside : position ≤ content.length)
    (ends : EndsLine (content.take position)) (behind : first.start fileId ≤ position) :
    pointsOfFile lib identity first includeWarmup fileId content =
      pointsAfter lib identity first includeWarmup fileId
          (rawLines ((content.take position).drop (first.start fileId))) ++
        pointsAfter lib identity first includeWarmup fileId
          (completePart (rawLines (content.drop position))) := by
  have parts : content.drop (first.start fileId) =
      (content.take position).drop (first.start fileId) ++ content.drop position := by
    conv_lhs => rw [← take_append_drop position content]
    apply drop_append_of_le_length
    rw [length_take, Nat.min_eq_left inside]
    exact behind
  rw [pointsOfFile, parts, completePart_append (ends.drop _), pointsAfter, acceptedItems_append,
    filter_append]
  rfl

theorem ChainInvariant.deliversOnce
    (invariant : ChainInvariant lib identity first includeWarmup chain) :
    DeliversOnce lib identity first includeWarmup chain where
  inOrder fileId := by
    rw [pointsOfFile_split (invariant.inside fileId) (invariant.ends fileId)
      (invariant.behind fileId), invariant.delivered]
    exact prefix_append ..
  complete fileId mem := by
    rw [pointsOfFile_split (invariant.inside fileId) (invariant.ends fileId) (invariant.behind
      fileId), invariant.delivered, invariant.complete fileId mem, append_nil]

/-! ## A call of a chain -/

/-- A call reads the first of the lines behind those that have been read, and accepts
those of their records that are written after the first cursor. -/
structure Advances (lib : RawQueryLibrary) (identity : PingIdentity) (first : PingCursor)
    (chain : PingChain) (call : IncrementalCall) (fileId : String) (content : List UInt8)
    (fresh rest : List (List UInt8)) : Prop where
  parts : completePart (rawLines (content.drop (chain.readTo fileId))) = fresh ++ rest
  readBehind : chain.readBehind lib identity call fileId = chain.readTo fileId + lineBytes fresh
  accepted : acceptedItems lib identity chain.cursor fileId
      (linesOf (chain.reads lib identity call) fileId) =
    acceptedItems lib identity first fileId fresh
  short : (callItems lib identity chain.cursor
      (chain.reads lib identity call)).length < call.limit →
    acceptedItems lib identity first fileId rest = []

theorem acceptedItems_congr {one two : PingCursor} {lines : List (List UInt8)}
    (same : ∀ item ∈ lineItems lib identity lines,
      acceptsItem lib one fileId item = acceptsItem lib two fileId item) :
    acceptedItems lib identity one fileId lines = acceptedItems lib identity two fileId lines :=
  filter_congr same

theorem lineBytes_append (one two : List (List UInt8)) :
    lineBytes (one ++ two) = lineBytes one + lineBytes two := by
  simp [lineBytes]

variable (fits : CallFits lib identity first includeWarmup chain call)
include fits

/-- A growing file keeps what has been read. -/
theorem CallFits.take_readTo (invariant : ChainInvariant lib identity first includeWarmup chain)
    (mem : file ∈ call.files) (known : file.content = some content) :
    chain.readTo file.fileId ≤ content.length ∧ content.take (chain.readTo file.fileId) =
        (chain.contents file.fileId).take (chain.readTo file.fileId) := by
  obtain ⟨_, rfl⟩ := fits.grows file mem content known
  have inside := invariant.inside file.fileId
  constructor
  · rw [length_append]
    omega
  · exact take_append_of_le_length inside

theorem CallFits.needed (mem : file ∈ call.files) :
    ∃ left, linesOf (chain.reads lib identity call) file.fileId =
      neededLines lib identity chain.cursor file.fileId
        (pingPending lib call chain.cursor file) left :=
  callLines_needed lib identity chain.cursor call.limit fits.distinct mem

theorem CallFits.short (mem : file ∈ call.files) (few : (callItems lib identity chain.cursor
      (chain.reads lib identity call)).length < call.limit) :
    linesOf (chain.reads lib identity call) file.fileId = pingPending lib call chain.cursor file :=
  callLines_of_short fits.distinct mem few

omit fits

theorem readBehind_unread (none' : linesOf (chain.reads lib identity call) fileId = []) :
    chain.readBehind lib identity call fileId = chain.readTo fileId := by
  rw [PingChain.readBehind]
  simp only [none', if_pos]

theorem CallFits.readBehind (fits : CallFits lib identity first includeWarmup chain call)
    (mem : file ∈ call.files) (known : file.content = some content)
    (some' : linesOf (chain.reads lib identity call) file.fileId ≠ []) :
    chain.readBehind lib identity call file.fileId =
      startOffset chain.cursor.offsets file.fileId content +
        lineBytes (linesOf (chain.reads lib identity call) file.fileId) := by
  rw [PingChain.readBehind, contentsOver_of_mem fits.distinct mem known]
  simp only [if_neg some']

variable (fits : CallFits lib identity first includeWarmup chain call)
include fits

/-- Nothing is read of a file that has ended before the start. -/
theorem CallFits.advance_ended (mem : file ∈ call.files) (known : file.content = some content)
    (ended : endedBefore lib call chain.cursor file = true) : ∃ fresh rest,
      Advances lib identity first chain call file.fileId content fresh rest := by
  obtain ⟨_, needed⟩ := fits.needed mem
  have nothing : pingPending lib call chain.cursor file = [] := by
    simp [pingPending, known, ended]
  rw [nothing] at needed
  refine ⟨[], _, rfl, readBehind_unread needed, by rw [needed]; rfl, fun _ => ?_⟩
  rw [acceptedItems, filter_eq_nil_iff]
  intro item stored accepted
  have same := fits.wanted file mem content known item stored
  rw [ended, accepted] at same
  cases same

theorem CallFits.advance_known (mem : file ∈ call.files) (known : file.content = some content)
    (open' : endedBefore lib call chain.cursor file = false)
    (start : startOffset chain.cursor.offsets file.fileId content = chain.readTo file.fileId) :
    ∃ fresh rest, Advances lib identity first chain call file.fileId content fresh rest := by
  obtain ⟨left, needed⟩ := fits.needed mem
  have pending : pingPending lib call chain.cursor file =
      completePart (rawLines (content.drop (chain.readTo file.fileId))) := by
    simp [pingPending, known, open', start]
  obtain ⟨rest, parts⟩ := neededLines_prefix lib identity chain.cursor file.fileId
    (pingPending lib call chain.cursor file) left
  rw [← needed, pending] at parts
  refine ⟨_, rest, parts, ?_, ?_, ?_⟩
  · by_cases none' : linesOf (chain.reads lib identity call) file.fileId = []
    · rw [readBehind_unread none', none']
      rfl
    · rw [fits.readBehind mem known none', start]
  · apply acceptedItems_congr
    intro item own
    have stored : item ∈ lineItems lib identity
        (completePart (rawLines (content.drop (chain.readTo file.fileId)))) := by
      rw [parts, lineItems_append]
      exact mem_append_left _ own
    have same := fits.wanted file mem content known item stored
    rwa [open', Bool.not_false, Bool.true_and] at same
  · intro few
    rw [fits.short mem few, pending] at parts
    rw [self_eq_append_right.mp parts]
    rfl

variable (invariant : ChainInvariant lib identity first includeWarmup chain)
include invariant

/-- A file without an offset is read from its start: what has been read of it is passed
over. -/
theorem CallFits.advance_unknown (mem : file ∈ call.files) (known : file.content = some content)
    (open' : endedBefore lib call chain.cursor file = false)
    (unknown : chain.cursor.offsets.lookup file.fileId = none) : ∃ fresh rest,
      Advances lib identity first chain call file.fileId content fresh rest := by
  obtain ⟨inside, sameTake⟩ := fits.take_readTo invariant mem known
  obtain ⟨left, needed⟩ := fits.needed mem
  have start : startOffset chain.cursor.offsets file.fileId content = 0 := by
    rw [startOffset, unknown]
    exact Nat.zero_min _
  have ends : EndsLine (content.take (chain.readTo file.fileId)) := by
    rw [sameTake]
    exact invariant.ends file.fileId
  have old : acceptedItems lib identity chain.cursor file.fileId
      (rawLines (content.take (chain.readTo file.fileId))) = [] := by
    rcases fits.notAgain file mem content known unknown with ended | none'
    · rw [open'] at ended
      cases ended
    · exact none'
  have bytes : lineBytes (rawLines (content.take (chain.readTo file.fileId))) =
      chain.readTo file.fileId := by
    rw [lineBytes, flatten_rawLines, length_take, Nat.min_eq_left inside]
  have parts : pingPending lib call chain.cursor file =
      rawLines (content.take (chain.readTo file.fileId)) ++
        completePart (rawLines (content.drop (chain.readTo file.fileId))) := by
    rw [← completePart_append ends, take_append_drop]
    simp [pingPending, known, open', start]
  by_cases noneLeft : left = 0
  · rw [noneLeft, neededLines_zero] at needed
    refine ⟨[], _, rfl, readBehind_unread needed, by rw [needed]; rfl, fun few => ?_⟩
    have empty := (fits.short mem few).symm.trans needed
    rw [parts, append_eq_nil_iff] at empty
    show acceptedItems lib identity first file.fileId
      (completePart (rawLines (content.drop (chain.readTo file.fileId)))) = []
    rw [empty.2]
    rfl
  · rw [parts, neededLines_append old _ noneLeft] at needed
    obtain ⟨rest, fresh⟩ := neededLines_prefix lib identity chain.cursor file.fileId
      (completePart (rawLines (content.drop (chain.readTo file.fileId)))) left
    refine ⟨_, rest, fresh, ?_, ?_, ?_⟩
    · by_cases none' : linesOf (chain.reads lib identity call) file.fileId = []
      · rw [readBehind_unread none']
        rw [needed, append_eq_nil_iff] at none'
        rw [none'.2]
        rfl
      · rw [fits.readBehind mem known none', start, needed, lineBytes_append, bytes, Nat.zero_add]
    · rw [needed, acceptedItems_append, old, nil_append]
      apply acceptedItems_congr
      intro item own
      have stored : item ∈ lineItems lib identity
          (completePart (rawLines (content.drop (chain.readTo file.fileId)))) := by
        rw [fresh, lineItems_append]
        exact mem_append_left _ own
      have same := fits.wanted file mem content known item stored
      rwa [open', Bool.not_false, Bool.true_and] at same
    · intro few
      have whole := (fits.short mem few).symm.trans needed
      rw [parts] at whole
      have same := append_cancel_left whole
      rw [← same] at fresh
      rw [self_eq_append_right.mp fresh]
      rfl

/-- A call reads each file where the calls before it have stopped. -/
theorem CallFits.advance (mem : file ∈ call.files) (known : file.content = some content) :
    ∃ fresh rest, Advances lib identity first chain call file.fileId content fresh rest := by
  cases ended : endedBefore lib call chain.cursor file with
  | true => exact fits.advance_ended mem known ended
  | false =>
    cases stored : chain.cursor.offsets.lookup file.fileId with
    | none => exact fits.advance_unknown invariant mem known ended stored
    | some offset =>
      have there := invariant.offsets file.fileId offset stored
      have inside := (fits.take_readTo invariant mem known).1
      apply fits.advance_known mem known ended
      rw [startOffset, stored, there]
      exact Nat.min_eq_left (there ▸ inside)

/-- What a call does to one file of a chain: some lines behind those that have been read
are read as well. -/
structure FileStep (lib : RawQueryLibrary) (identity : PingIdentity) (first : PingCursor)
    (chain : PingChain) (call : IncrementalCall) (fileId : String)
    (fresh : List (List UInt8)) : Prop where
  readBehind : chain.readBehind lib identity call fileId = chain.readTo fileId + lineBytes fresh
  inside : chain.readBehind lib identity call fileId ≤
    (call.contentsOver chain.contents fileId).length
  taken : (call.contentsOver chain.contents fileId).take
      (chain.readBehind lib identity call fileId) =
    (chain.contents fileId).take (chain.readTo fileId) ++ fresh.flatten
  ends : EndsLine fresh.flatten
  lines : rawLines fresh.flatten = fresh
  accepted : acceptedItems lib identity chain.cursor fileId
      (linesOf (chain.reads lib identity call) fileId) =
    acceptedItems lib identity first fileId fresh

theorem CallFits.fileStep (mem : file ∈ call.files) (known : file.content = some content) :
    ∃ fresh, FileStep lib identity first chain call file.fileId fresh ∧
      ((callItems lib identity chain.cursor (chain.reads lib identity call)).length < call.limit →
        acceptedItems lib identity first file.fileId (completePart (rawLines (content.drop
            (chain.readBehind lib identity call file.fileId)))) = []) := by
  obtain ⟨_, sameTake⟩ := fits.take_readTo invariant mem known
  obtain ⟨fresh, rest, advances⟩ := fits.advance invariant mem known
  obtain ⟨more, joined, ends, lines, behind⟩ := drop_eq_of_completePart advances.parts
  have finds : call.contentsOver chain.contents file.fileId = content :=
    contentsOver_of_mem fits.distinct mem known
  have lengths := congrArg List.length joined
  rw [length_drop, length_append] at lengths
  have taken : content.take (chain.readTo file.fileId + lineBytes fresh) =
      content.take (chain.readTo file.fileId) ++ fresh.flatten := by
    rw [take_add, joined, lineBytes, take_left]
  have dropped : content.drop (chain.readTo file.fileId + lineBytes fresh) = more := by
    rw [← drop_drop, joined, lineBytes, drop_left]
  refine ⟨fresh, ⟨advances.readBehind, ?_, ?_, ends, lines, advances.accepted⟩, ?_⟩
  · rw [finds, advances.readBehind, lineBytes]
    omega
  · rw [finds, advances.readBehind, taken, sameTake]
  · intro few
    rw [advances.readBehind, dropped, behind]
    exact advances.short few

theorem CallFits.fileStep_missing
    (missing : ∀ file ∈ call.files, file.fileId = fileId → file.content = none) :
    FileStep lib identity first chain call fileId [] := by
  have none' := reads_of_missing fits missing
  have behind := readBehind_unread none'
  refine ⟨behind, ?_, ?_, .inl rfl, rfl, by rw [none']; rfl⟩
  · rw [contentsOver_of_not missing, behind]
    exact invariant.inside fileId
  · rw [contentsOver_of_not missing, behind]
    exact (append_nil _).symm

theorem CallFits.fileStep_any (fileId : String) :
    ∃ fresh, FileStep lib identity first chain call fileId fresh := by
  by_cases missing : ∀ file ∈ call.files, file.fileId = fileId → file.content = none
  · exact ⟨[], fits.fileStep_missing invariant missing⟩
  · simp only [not_forall] at missing
    obtain ⟨file, mem, rfl, present⟩ := missing
    obtain ⟨content, known⟩ := Option.ne_none_iff_exists'.mp present
    obtain ⟨fresh, step, _⟩ := fits.fileStep invariant mem known
    exact ⟨fresh, step⟩

theorem CallFits.nextOffsets {result : IncrementalResult}
    (done : pingSeriesIncremental lib identity call chain.cursor = .ok result) {offset : Nat}
    (stored : result.nextCursor.offsets.lookup fileId = some offset) :
    chain.readBehind lib identity call fileId = offset := by
  obtain ⟨_, _, rfl, unraised, _, _, _, next⟩ := pingSeriesIncremental_eq done
  have read := fits.filesRead unraised
  rw [next] at stored
  have behind := lookup_pruneCursorOffsets stored
  by_cases listed : fileId ∈ call.files.map (·.fileId)
  · obtain ⟨file, mem, rfl⟩ := mem_map.mp listed
    by_cases none' : linesOf (chain.reads lib identity call) file.fileId = []
    · rw [read.unread file mem none'] at behind
      rw [readBehind_unread none']
      exact invariant.offsets _ _ behind
    · cases known : file.content with
      | none =>
        refine absurd (reads_of_missing fits ?_) none'
        intro other memberOther same
        rw [inj_on_of_nodup_map fits.distinct memberOther mem same]
        exact known
      | some content =>
        rw [read.offset file mem content known none'] at behind
        rw [fits.readBehind mem known none']
        exact Option.some.inj behind
  · rw [read.unlisted fileId listed] at behind
    have none' : linesOf (chain.reads lib identity call) fileId = [] := by
      apply linesOf_of_notMem
      rw [PingChain.reads, map_callLines]
      exact listed
    rw [readBehind_unread none']
    exact invariant.offsets _ _ behind

omit invariant fits

variable (invariant : ChainInvariant lib identity first includeWarmup chain)
include invariant

variable (fits : CallFits lib identity first includeWarmup chain call)
include fits

/-- A failed call is repeated: only the files have grown. -/
theorem ChainInvariant.failed : ChainInvariant lib identity first includeWarmup { chain with
        contents := call.contentsOver chain.contents
        complete := [] } := by
  have kept : ∀ fileId, chain.readTo fileId ≤ (call.contentsOver chain.contents fileId).length ∧
      (call.contentsOver chain.contents fileId).take (chain.readTo fileId) =
        (chain.contents fileId).take (chain.readTo fileId) := by
    intro fileId
    by_cases missing : ∀ file ∈ call.files, file.fileId = fileId → file.content = none
    · rw [contentsOver_of_not missing]
      exact ⟨invariant.inside fileId, rfl⟩
    · simp only [not_forall] at missing
      obtain ⟨file, mem, rfl, present⟩ := missing
      obtain ⟨content, known⟩ := Option.ne_none_iff_exists'.mp present
      rw [contentsOver_of_mem fits.distinct mem known]
      exact fits.take_readTo invariant mem known
  refine ⟨invariant.offsets, fun fileId => (kept fileId).1, ?_, invariant.behind, ?_, ?_⟩
  · intro fileId
    simp only [(kept fileId).2]
    exact invariant.ends fileId
  · intro fileId
    simp only [(kept fileId).2]
    exact invariant.delivered fileId
  · intro fileId mem
    exact (not_mem_nil mem).elim

theorem ChainInvariant.step :
    ChainInvariant lib identity first includeWarmup (chain.step lib identity call) := by
  unfold PingChain.step
  cases done : pingSeriesIncremental lib identity call chain.cursor with
  | error raised => exact invariant.failed fits
  | ok result =>
    dsimp only
    refine ⟨fun fileId offset => fits.nextOffsets invariant done, ?_, ?_, ?_, ?_, ?_⟩
    · intro fileId
      obtain ⟨fresh, step⟩ := fits.fileStep_any invariant fileId
      exact step.inside
    · intro fileId
      obtain ⟨fresh, step⟩ := fits.fileStep_any invariant fileId
      rw [step.taken]
      exact (invariant.ends fileId).append step.ends
    · intro fileId
      obtain ⟨fresh, step⟩ := fits.fileStep_any invariant fileId
      show first.start fileId ≤ chain.readBehind lib identity call fileId
      rw [step.readBehind]
      exact Nat.le_add_right_of_le (invariant.behind fileId)
    · intro fileId
      obtain ⟨fresh, step⟩ := fits.fileStep_any invariant fileId
      have position : first.start fileId ≤
          ((chain.contents fileId).take (chain.readTo fileId)).length := by
        rw [length_take, Nat.min_eq_left (invariant.inside fileId)]
        exact invariant.behind fileId
      have before := invariant.delivered fileId
      have now := fits.points done fileId
      rw [pointsAfter, step.accepted] at now
      show ((chain.delivered ++ result.points).filter (·.rawFileId = fileId)).map (·.item) =
        pointsAfter lib identity first includeWarmup fileId
          (rawLines (((call.contentsOver chain.contents fileId).take
            (chain.readBehind lib identity call fileId)).drop (first.start fileId)))
      rw [step.taken, drop_append_of_le_length position,
        rawLines_append ((invariant.ends fileId).drop _), step.lines, pointsAfter,
        acceptedItems_append, filter_append, filter_append, map_append, now]
      exact congrArg (· ++ _) before
    · intro fileId mem
      obtain ⟨_, _, rfl, unraised, _, _, count, _⟩ := pingSeriesIncremental_eq done
      have records := congrArg List.length (fits.filesRead unraised).records
      rw [map_nil, nil_append, length_map, ← count] at records
      split at mem
      · next few =>
        obtain ⟨file, found, rfl⟩ := mem_map.mp mem
        obtain ⟨inFiles, present⟩ := mem_filter.mp found
        obtain ⟨_, known⟩ := Option.isSome_iff_exists.mp present
        obtain ⟨_, _, done⟩ := fits.fileStep invariant inFiles known
        show pointsAfter lib identity first includeWarmup file.fileId
          (completePart (rawLines ((call.contentsOver chain.contents file.fileId).drop
            (chain.readBehind lib identity call file.fileId)))) = []
        rw [contentsOver_of_mem fits.distinct inFiles known, pointsAfter, done (records ▸ few)]
        rfl
      · exact (not_mem_nil mem).elim

omit fits invariant

/-- In a chain of calls that fit, every point that has been written after the first cursor
is delivered once and in the order of its file. -/
theorem deliversOnce_of_fits {contents : String → List UInt8} {calls : List IncrementalCall}
    {last : PingChain} (starts : first.StartsAtLines contents)
    (run : GuardedRun (fun chain call => some (chain.step lib identity call))
      (CallFits lib identity first includeWarmup) (PingChain.new first contents) calls last) :
    DeliversOnce lib identity first includeWarmup last := by
  have invariant := run.invariant (ChainInvariant lib identity first includeWarmup)
    (fun chain call after invariant fits taken =>
      Option.some.inj taken ▸ invariant.step fits)
    (ChainInvariant.initial starts)
  exact invariant.deliversOnce

end Delivery

/-! ## A budget that runs out -/

def pingLine (content : UInt8) : List UInt8 := [content, 10]

/-- Lines of one character: the first and the second ping. -/
def pingLibrary : RawQueryLibrary where
  python := .plain
  decodeLine line :=
    if line = pingLine 65 then some [("ts", .str "8"), ("seq", .int 1)]
    else if line = pingLine 66 then some [("ts", .str "9"), ("seq", .int 2)]
    else none
  fromIsoFormat text := if text = "8" then some 8 else if text = "9" then some 9 else none
  sha256 _ := ""

/-- Every record belongs to the target. -/
def pingTarget : PingIdentity where
  targetIp := ""
  expectedTargetSignatures := []
  matchesRecord _ := true
  targetSignature _ := ("", "")
  signaturesConflict _ _ := false

/-- A call that finds these contents of the open file. -/
def pingCall (content : List UInt8) (timeIsUp : Bool) : IncrementalCall where
  files := [⟨"one", "OPEN", "", "", some content⟩]
  now := 100
  runStart := 0
  includeWarmup := true
  maxPoints := 200
  timeIsUp _ := timeIsUp

/-- The cursor at the start of the open file. -/
def pingStart : PingCursor := { offsets := [("one", 0)] }

/-- After the first call, which finds the first ping. -/
def afterFirstPing (timeIsUp : Bool) : PingChain :=
  (PingChain.new pingStart fun _ => []).step pingLibrary pingTarget
    (pingCall (pingLine 65) timeIsUp)

/-- After the second call, which finds both pings. -/
def afterSecondPing (timeIsUp : Bool) : PingChain :=
  (afterFirstPing timeIsUp).step pingLibrary pingTarget
    (pingCall (pingLine 65 ++ pingLine 66) false)

/-- A call that finds at most one new record of the open file. -/
theorem pingCall_fits {chain : PingChain} {content : List UInt8}
    (known : (chain.cursor.offsets.lookup "one").isSome = true)
    (grows : chain.contents "one" <+: content)
    (count : ((chain.reads pingLibrary pingTarget (pingCall content false)).flatMap (·.2)).length <
      DataType.ping.maxRecords)
    (bytes : lineBytes ((chain.reads pingLibrary pingTarget (pingCall content false)).flatMap
      (·.2)) < DataType.ping.maxBytes)
    (one : (acceptedItems pingLibrary pingTarget chain.cursor "one"
      (linesOf (chain.reads pingLibrary pingTarget (pingCall content false)) "one")).length ≤ 1) :
    CallFits pingLibrary pingTarget pingStart true chain (pingCall content false) where
  sameTarget := rfl
  distinct := nodup_singleton _
  grows file mem found := by
    obtain rfl := mem_singleton.mp mem
    intro same
    rwa [← Option.some.inj same]
  affordable := ⟨fun _ _ => rfl, fun _ => by rwa [Nat.zero_add], fun _ => by rwa [Nat.zero_add]⟩
  keys file mem := by
    obtain rfl := mem_singleton.mp mem
    apply pairwise_iff_getElem.mpr
    intro index other inside insideOther before
    dsimp only at insideOther
    omega
  notAgain file mem found same unknown := by
    obtain rfl := mem_singleton.mp mem
    simp [unknown] at known
  wanted file mem found same item stored := by
    obtain rfl := mem_singleton.mp mem
    have listed : endedBefore pingLibrary (pingCall content false) chain.cursor
        ⟨"one", "OPEN", "", "", some content⟩ = false := by
      simp [endedBefore, Option.isSome_iff_ne_none.mp known]
    rw [listed]
    simp [acceptsItem, known, pingStart]

/-- Both pings are delivered. -/
theorem deliversOnce_twoPings :
    DeliversOnce pingLibrary pingTarget pingStart true (afterSecondPing false) := by
  have starts : pingStart.StartsAtLines fun _ => [] := by
    intro fileId
    have zero : pingStart.start fileId = 0 := by
      by_cases same : fileId = "one" <;>
        simp [PingCursor.start, pingStart, lookup_cons, beq_eq_false_iff_ne.mpr, same]
    rw [zero]
    exact ⟨Nat.le_refl _, .inl rfl⟩
  have first : CallFits pingLibrary pingTarget pingStart true
      (PingChain.new pingStart fun _ => []) (pingCall (pingLine 65) false) :=
    pingCall_fits rfl (List.nil_prefix) (by decide +kernel) (by decide +kernel) (by decide +kernel)
  have second : CallFits pingLibrary pingTarget pingStart true (afterFirstPing false)
      (pingCall (pingLine 65 ++ pingLine 66) false) :=
    pingCall_fits (by decide +kernel) (by decide +kernel) (by decide +kernel)
      (by decide +kernel) (by decide +kernel)
  exact deliversOnce_of_fits starts (.cons first rfl (.cons second rfl (.nil _)))

/-- When the time of the first call runs out at the first ping, its offset is behind the
ping; the second call delivers the second ping only. -/
theorem not_deliversOnce_budget :
    ¬ DeliversOnce pingLibrary pingTarget pingStart true (afterSecondPing true) := by
  intro delivers
  have ordered := (delivers.inOrder "one").map (textOr pingLibrary.python · "ts")
  have given : ((afterSecondPing true).deliveredOf "one").map
      (textOr pingLibrary.python · "ts") = ["9"] := by decide +kernel
  have written : (pointsOfFile pingLibrary pingTarget pingStart true "one"
      ((afterSecondPing true).contents "one")).map
        (textOr pingLibrary.python · "ts") = ["8", "9"] := by decide +kernel
  rw [given, written] at ordered
  revert ordered
  decide

end NetConsole.RawQuery
