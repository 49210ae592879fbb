import NetConsole.RawQuery.Records
import NetConsole.Foundations.FirstByKey

/-!
# Records from the active directory and the archive

When the files of a run are read from both places, `_records` drops a record whose
key it has seen. It should drop copies only. The key is the number that the
receiver gave the record, and every receiver session counts from one: the records
of two sessions of a run share their numbers, and the later one is dropped
(`not_yieldsEachOnce_twoSessions`).

A read that stays within its budget yields every record of the time range exactly
once if and only if no two different records carry the same identification
(`yieldsEachOnce_iff`).
-/

set_option autoImplicit false

namespace NetConsole.RawQuery

open Foundations List
open Worker (Json Event dictGet textOr)

section MixedReads

variable (lib : RawQueryLibrary) (request : RecordRequest)

/-! ## Stored records -/

/-- The text of the time field of a record. -/
def timeText (item : Event) : String := textOr lib.python item request.dataType.timeKey

/-- The time of a record lies in the range. -/
def InRange (item : Event) : Prop :=
  ∃ time, parseTime lib (timeText lib request item) = some time ∧
    request.start ≤ time ∧ time ≤ request.finish

/-- The record of a line, if it lies in the time range. -/
def lineRecord (line : List UInt8) : Option (Event × List UInt8) :=
  match lib.decodeLine line with
  | none => none
  | some item =>
    match parseTime lib (timeText lib request item) with
    | none => none
    | some time =>
      if time < request.start ∨ request.finish < time then none else some (item, line)

def lineRecords (lines : List (List UInt8 × String)) : List (Event × List UInt8) :=
  lines.filterMap fun entry => lineRecord lib request entry.1

def lineKey (record : Event × List UInt8) : Option RecordKey :=
  recordKey lib request.dataType record.1 record.2

/-- The bytes of some lines. -/
def byteCount (lines : List (List UInt8 × String)) : Nat :=
  (lines.map fun entry => entry.1.length).sum

variable {record : Event × List UInt8} {line : List UInt8}

theorem inRange_of_lineRecord (stored : lineRecord lib request line = some record) :
    InRange lib request record.1 := by
  unfold lineRecord at stored
  split at stored
  · cases stored
  · next item decoded =>
    split at stored
    · cases stored
    · next time parsed =>
      simp only [Option.ite_none_left_eq_some, Option.some.injEq] at stored
      obtain ⟨_, rfl⟩ := stored
      exact ⟨time, parsed, by omega, by omega⟩

theorem inRange_of_mem {lines : List (List UInt8 × String)}
    (mem : record ∈ lineRecords lib request lines) : InRange lib request record.1 := by
  obtain ⟨_, _, stored⟩ := mem_filterMap.mp mem
  exact inRange_of_lineRecord _ _ stored

/-! ## Reading within the budget -/

/-- What is left of the budget suffices for the lines, and their records can be
compared. -/
structure Affordable (lines : List (List UInt8 × String)) (state : ReadState) : Prop where
  recordCount : state.recordsScanned + lines.length < request.dataType.maxRecords
  bytes : state.bytesScanned + byteCount lines < request.dataType.maxBytes
  hashable : ∀ record ∈ lineRecords lib request lines, (lineKey lib request record).isSome
  keys : ∃ seen, state.seen = some seen ∧
    seen.length + (lineRecords lib request lines).length ≤ maxMixedDedupKeys
  untruncated : state.truncated = false
  unraised : state.raised = none

/-- The keys that are remembered. -/
def seenKeys (state : ReadState) : List (Option RecordKey) := (state.seen.getD []).map some

/-- What reading the lines does. -/
structure HasRead (lines : List (List UInt8 × String)) (state after : ReadState) : Prop where
  recordCount : after.recordsScanned = state.recordsScanned + lines.length
  bytes : after.bytesScanned = state.bytesScanned + byteCount lines
  untruncated : after.truncated = false
  unraised : after.raised = none
  remembers : after.seen.isSome
  seen : seenKeys after =
    seenAfter (lineKey lib request) (seenKeys state) (lineRecords lib request lines)
  yielded : after.yielded.map (·.item) = state.yielded.map (·.item) ++
    (firstByKey (lineKey lib request) (seenKeys state)
      (lineRecords lib request lines)).map (·.1)

variable {lib request} {state : ReadState}

theorem HasRead.nil (affordable : Affordable lib request [] state) :
    HasRead lib request [] state state := by
  obtain ⟨seen, remembered, _⟩ := affordable.keys
  exact {
    recordCount := rfl, bytes := rfl, untruncated := affordable.untruncated
    unraised := affordable.unraised, remembers := by rw [remembered]; rfl, seen := rfl
    yielded := (append_nil _).symm
  }

variable {first second : List (List UInt8 × String)} {state middle after : ReadState}

theorem HasRead.append (readFirst : HasRead lib request first state middle)
    (readSecond : HasRead lib request second middle after) :
    HasRead lib request (first ++ second) state after where
  recordCount := by
    rw [readSecond.recordCount, readFirst.recordCount, length_append, Nat.add_assoc]
  bytes := by
    rw [readSecond.bytes, readFirst.bytes]
    simp [byteCount, Nat.add_assoc]
  untruncated := readSecond.untruncated
  unraised := readSecond.unraised
  remembers := readSecond.remembers
  seen := by
    rw [readSecond.seen, readFirst.seen, lineRecords, lineRecords, lineRecords,
      filterMap_append, seenAfter_append]
  yielded := by
    rw [readSecond.yielded, readFirst.yielded, readFirst.seen, append_assoc]
    simp only [lineRecords, filterMap_append, firstByKey_append, map_append]

theorem Affordable.left (affordable : Affordable lib request (first ++ second) state) :
    Affordable lib request first state := by
  obtain ⟨seen, remembered, room⟩ := affordable.keys
  have records := affordable.recordCount
  have bytes := affordable.bytes
  simp only [lineRecords, filterMap_append, length_append] at room
  simp only [byteCount, map_append, sum_append] at bytes
  rw [length_append] at records
  exact {
    recordCount := by omega, bytes := by rw [byteCount]; omega
    hashable := by
      intro record mem
      apply affordable.hashable
      rw [lineRecords, filterMap_append]
      exact mem_append_left _ mem
    keys := ⟨seen, remembered, by rw [lineRecords]; omega⟩, untruncated := affordable.untruncated
    unraised := affordable.unraised
  }

/-- After some lines, the rest is affordable. -/
theorem Affordable.right (affordable : Affordable lib request (first ++ second) state)
    (readFirst : HasRead lib request first state middle) :
    Affordable lib request second middle := by
  obtain ⟨seen, remembered, room⟩ := affordable.keys
  obtain ⟨later, rememberedLater⟩ := Option.isSome_iff_exists.mp readFirst.remembers
  have records := affordable.recordCount
  have bytes := affordable.bytes
  have grown := length_seenAfter_le (lineKey lib request) (seenKeys state)
    (lineRecords lib request first)
  rw [← readFirst.seen] at grown
  simp only [seenKeys, remembered, rememberedLater, Option.getD_some, length_map] at grown
  simp only [lineRecords, filterMap_append, length_append] at room grown
  simp only [byteCount, map_append, sum_append] at bytes
  rw [length_append] at records
  exact {
    recordCount := by rw [readFirst.recordCount]; omega
    bytes := by rw [readFirst.bytes, byteCount, byteCount]; omega
    hashable := by
      intro record mem
      apply affordable.hashable
      rw [lineRecords, filterMap_append]
      exact mem_append_right _ mem
    keys := ⟨later, rememberedLater, by rw [lineRecords]; omega⟩
    untruncated := readFirst.untruncated, unraised := readFirst.unraised
  }

theorem budgetExhausted_eq_false (clock : ∀ check, request.timeIsUp check = false)
    (records : state.recordsScanned < request.dataType.maxRecords)
    (bytes : state.bytesScanned < request.dataType.maxBytes) :
    budgetExhausted request state = false := by
  simp [budgetExhausted, clock, records, bytes]

variable {entry : String}

theorem HasRead.skipped (affordable : Affordable lib request [(line, entry)] state)
    (outside : lineRecord lib request line = none)
    (recordCount : after.recordsScanned = state.recordsScanned + 1)
    (bytes : after.bytesScanned = state.bytesScanned + line.length)
    (untruncated : after.truncated = state.truncated) (unraised : after.raised = state.raised)
    (seen : after.seen = state.seen) (yielded : after.yielded = state.yielded) :
    HasRead lib request [(line, entry)] state after := by
  obtain ⟨keys, remembered, _⟩ := affordable.keys
  have none' : lineRecords lib request [(line, entry)] = [] := by
    simp [lineRecords, outside]
  exact {
    recordCount := recordCount, bytes := by simp [bytes, byteCount]
    untruncated := untruncated.trans affordable.untruncated
    unraised := unraised.trans affordable.unraised, remembers := by rw [seen, remembered]; rfl
    seen := by rw [none', seenAfter, seenKeys, seenKeys, seen]
    yielded := by rw [none', firstByKey, yielded, map_nil, append_nil]
  }

/-- A record of the range is yielded if its key is new. -/
theorem acceptRecord_spec {record : YieldedRecord} {checked : ReadState}
    (affordable : Affordable lib request [(line, entry)] state)
    (inside : lineRecord lib request line = some (record.item, line))
    (recordCount : checked.recordsScanned = state.recordsScanned + 1)
    (bytes : checked.bytesScanned = state.bytesScanned + line.length)
    (untruncated : checked.truncated = state.truncated) (unraised : checked.raised = state.raised)
    (seen : checked.seen = state.seen) (yielded : checked.yielded = state.yielded) :
    ∃ after, acceptRecord lib request line record checked = (after, false) ∧
      HasRead lib request [(line, entry)] state after := by
  obtain ⟨keys, remembered, room⟩ := affordable.keys
  have one : lineRecords lib request [(line, entry)] = [(record.item, line)] := by
    simp [lineRecords, inside]
  have hashable := affordable.hashable (record.item, line) (one ▸ mem_singleton_self _)
  obtain ⟨key, keyed⟩ := Option.isSome_iff_exists.mp hashable
  have keyed' : recordKey lib request.dataType record.item line = some key := keyed
  have known : (some key ∈ seenKeys state) ↔ key ∈ keys := by simp [seenKeys, remembered]
  rw [one, length_singleton] at room
  unfold acceptRecord
  simp only [seen, remembered, keyed']
  by_cases old : key ∈ keys
  · rw [if_pos old]
    refine ⟨_, rfl, ?_⟩
    exact {
      recordCount := recordCount, bytes := by simp [bytes, byteCount]
      untruncated := untruncated.trans affordable.untruncated
      unraised := unraised.trans affordable.unraised, remembers := rfl
      seen := by
        rw [one, seenAfter, keyed, if_pos (known.mpr old), seenAfter]
        simp [seenKeys, remembered]
      yielded := by
        rw [one, firstByKey, keyed, if_pos (known.mpr old), firstByKey, map_nil, append_nil]
        simp [yielded]
    }
  · have fits : ¬ maxMixedDedupKeys ≤ keys.length := by omega
    rw [if_neg old, if_neg fits]
    refine ⟨_, rfl, ?_⟩
    exact {
      recordCount := recordCount, bytes := by simp [bytes, byteCount]
      untruncated := untruncated.trans affordable.untruncated
      unraised := unraised.trans affordable.unraised, remembers := rfl
      seen := by
        rw [one, seenAfter, keyed, if_neg (fun inSeen => old (known.mp inSeen)), seenAfter]
        simp [seenKeys, remembered]
      yielded := by
        rw [one, firstByKey, keyed, if_neg (fun inSeen => old (known.mp inSeen)), firstByKey]
        simp [yielded]
    }

variable (clock : ∀ check, request.timeIsUp check = false)
include clock

theorem readLine_spec (file : RegisteredFile) (source : String) (number : Nat) (line : List UInt8)
    (entry : String) (state : ReadState)
    (affordable : Affordable lib request [(line, entry)] state) :
    ∃ after, readLine lib request file source number line entry state = (after, false) ∧
      HasRead lib request [(line, entry)] state after := by
  have records := affordable.recordCount
  have bytes := affordable.bytes
  simp only [length_singleton] at records
  simp only [byteCount, map_cons, map_nil, sum_cons, sum_nil] at bytes
  let scanned := { state with
    bytesScanned := state.bytesScanned + line.length, recordsScanned := state.recordsScanned + 1 }
  have inBudget : budgetExhausted request scanned = false :=
    budgetExhausted_eq_false clock records bytes
  unfold readLine
  simp only [scanned] at inBudget
  simp only [inBudget, Bool.false_eq_true, if_false]
  cases decoded : lib.decodeLine line with
  | none =>
    have outside : lineRecord lib request line = none := by simp [lineRecord, decoded]
    refine ⟨_, rfl, ?_⟩
    exact .skipped affordable outside rfl rfl rfl rfl rfl rfl
  | some item =>
    simp only []
    cases parsed : parseTime lib (textOr lib.python item request.dataType.timeKey) with
    | none =>
      have outside : lineRecord lib request line = none := by
        simp [lineRecord, decoded, timeText, parsed]
      refine ⟨_, rfl, ?_⟩
      exact .skipped affordable outside rfl rfl rfl rfl rfl rfl
    | some time =>
      simp only []
      split
      · next far =>
        have outside : lineRecord lib request line = none := by
          simp only [lineRecord, decoded, timeText, parsed, far, if_true]
        refine ⟨_, rfl, ?_⟩
        exact .skipped affordable outside rfl rfl rfl rfl rfl rfl
      · next near =>
        have inside : lineRecord lib request line = some (item, line) := by
          simp only [lineRecord, decoded, timeText, parsed, near, if_false]
        exact acceptRecord_spec affordable inside rfl rfl rfl rfl rfl rfl

theorem readLines_spec (file : RegisteredFile) (source : String) (number : Nat)
    (lines : List (List UInt8 × String)) (state : ReadState)
    (affordable : Affordable lib request lines state) :
    ∃ after, readLines lib request file source number lines state = (after, false) ∧
      HasRead lib request lines state after := by
  induction lines generalizing number state with
  | nil => exact ⟨state, rfl, .nil affordable⟩
  | cons first rest ih =>
    obtain ⟨line, entry⟩ := first
    have parts : (line, entry) :: rest = [(line, entry)] ++ rest := rfl
    rw [parts] at affordable
    obtain ⟨middle, stepped, readFirst⟩ :=
      readLine_spec clock file source number line entry state affordable.left
    obtain ⟨after, finished, readRest⟩ := ih (number + 1) middle (affordable.right readFirst)
    refine ⟨after, ?_, readFirst.append readRest⟩
    rw [readLines, stepped]
    exact finished

theorem readSource_spec (file : RegisteredFile) (source : String) {lineSource : LineSource}
    (whole : lineSource.failure = none) (state : ReadState)
    (affordable : Affordable lib request lineSource.lines state) :
    HasRead lib request lineSource.lines state
      (readSource lib request file source lineSource state) := by
  let opened := { state with
    filesScanned := state.filesScanned + 1
    sources := if source ∈ state.sources then state.sources else source :: state.sources }
  have affordableOpened : Affordable lib request lineSource.lines opened :=
    { affordable with }
  obtain ⟨_, finished, hasRead⟩ :=
    readLines_spec clock file source 1 lineSource.lines opened affordableOpened
  unfold readSource
  simp only [opened] at finished
  simp only [finished, whole]
  exact { hasRead with unraised := rfl }

omit clock

/-! ## Mixed reads -/

def fileSource (storage : Storage) (file : RegisteredFile) (active : Option LineSource) :
    LineSource :=
  active.getD (storage.archivedLines file)

def storedLines (storage : Storage) (files : List (RegisteredFile × Option LineSource)) :
    List (List UInt8 × String) :=
  files.flatMap fun (file, active) => (fileSource storage file active).lines

/-- A read of files in both places that nothing stops: all of them are there, the
archive is intact, and the time suffices. -/
structure Undisturbed (request : RecordRequest) (storage : Storage)
    (files : List (RegisteredFile × Option LineSource)) : Prop where
  run : request.runId ≠ ""
  archive : ∃ legacy, storage.inspection = .ok (some legacy)
  whole : ∀ file active, (file, active) ∈ files → (fileSource storage file active).failure = none
  wanted : ∀ file active, (file, active) ∈ files → request.stopBeforeFile file = false
  clock : ∀ check, request.timeIsUp check = false

variable {storage : Storage}

theorem readFile_spec {files : List (RegisteredFile × Option LineSource)}
    (undisturbed : Undisturbed request storage files) {file : RegisteredFile}
    {active : Option LineSource} (mem : (file, active) ∈ files) (state : ReadState)
    (affordable : Affordable lib request (fileSource storage file active).lines state) :
    HasRead lib request (fileSource storage file active).lines state
      (readFile lib request storage file active state) := by
  have whole := undisturbed.whole file active mem
  cases active with
  | some lineSource => exact readSource_spec undisturbed.clock file "ACTIVE" whole state affordable
  | none =>
    obtain ⟨legacy, intact⟩ := undisturbed.archive
    unfold readFile
    simp only [undisturbed.run, intact]
    have affordableNow : Affordable lib request (storage.archivedLines file).lines
        { state with legacyArchive := state.legacyArchive || legacy } := { affordable with }
    exact { readSource_spec undisturbed.clock file "ARCHIVE" whole _ affordableNow with }

theorem readFiles_spec (files : List (RegisteredFile × Option LineSource))
    (undisturbed : Undisturbed request storage files) (state : ReadState)
    (affordable : Affordable lib request (storedLines storage files) state) :
    HasRead lib request (storedLines storage files) state
      (readFiles lib request storage files state) := by
  induction files generalizing state with
  | nil => exact .nil affordable
  | cons first rest ih =>
    obtain ⟨file, active⟩ := first
    have parts : storedLines storage ((file, active) :: rest) =
        (fileSource storage file active).lines ++ storedLines storage rest := rfl
    rw [parts] at affordable ⊢
    have checkedAffordable : Affordable lib request
        ((fileSource storage file active).lines ++ storedLines storage rest)
        { state with budgetChecks := state.budgetChecks + 1 } := { affordable with }
    have readFirst := readFile_spec undisturbed mem_cons_self _ checkedAffordable.left
    have readRest := ih { undisturbed with
        whole file active mem :=
          undisturbed.whole file active (mem_cons_of_mem _ mem)
        wanted file active mem :=
          undisturbed.wanted file active (mem_cons_of_mem _ mem) }
      _ (checkedAffordable.right readFirst)
    have records := affordable.recordCount
    have bytes := affordable.bytes
    have inBudget : budgetExhausted request state = false :=
      budgetExhausted_eq_false undisturbed.clock (by omega) (by omega)
    have wanted := undisturbed.wanted file active mem_cons_self
    unfold readFiles
    simp only [inBudget, wanted, Bool.false_eq_true, readFirst.unraised, readFirst.untruncated,
      Option.isSome_none]
    exact { readFirst.append readRest with }

/-! ## Identifications -/

/-- The field with the number that the writer gave a record. -/
def DataType.numberKey : DataType → String
  | .ping => "sample_id"
  | .syslog => "global_receive_sequence"

/-- The field with the address of a record. -/
def DataType.addressKey : DataType → String
  | .ping => "target_ip"
  | .syslog => "source_ip"

/-- The field with the number of a record at its address. -/
def DataType.sequenceKey : DataType → String
  | .ping => "seq"
  | .syslog => "source_receive_sequence"

variable (lib request)

/-- Two records carry the same number, or no number and the same address, time and
number at the address. -/
def SameIdentification (one two : Event) : Prop :=
  if (dictGet one request.dataType.numberKey).truthy ∨
      (dictGet two request.dataType.numberKey).truthy then
    dictGet one request.dataType.numberKey = dictGet two request.dataType.numberKey
  else
    textOr lib.python one request.dataType.addressKey =
        textOr lib.python two request.dataType.addressKey ∧
      timeText lib request one = timeText lib request two ∧
      dictGet one request.dataType.sequenceKey = dictGet two request.dataType.sequenceKey

variable {lib request}

theorem scalar_injective {one two : Json} {value : Scalar} (first : scalar one = some value)
    (second : scalar two = some value) : one = two := by
  cases one <;> cases first <;> cases two <;> cases second <;> rfl

theorem timeText_ne_empty {item : Event} (inside : InRange lib request item) :
    timeText lib request item ≠ "" := by
  intro empty
  obtain ⟨_, parsed, _⟩ := inside
  simp [parseTime, empty] at parsed

/-- The key of the parts, in the order of the kind of record. -/
def partsKey (dataType : DataType) (address time : String) (sequence : Scalar) : RecordKey :=
  match dataType with
  | .ping => .parts .ping (.str address) (.str time) sequence
  | .syslog => .parts .syslog (.str address) sequence (.str time)

variable {dataType : DataType} {sequence : Scalar} {address time : String}

theorem partsKey_inj {address' time' : String} {sequence' : Scalar} :
    partsKey dataType address time sequence = partsKey dataType address' time' sequence' ↔
      address = address' ∧ time = time' ∧ sequence = sequence' := by
  cases dataType <;> simp [partsKey, and_comm]

theorem partsKey_ne_value {kind : DataType} {number : Scalar} :
    partsKey dataType address time sequence ≠ .value kind number := by
  cases dataType <;> simp [partsKey]

theorem lineKey_eq (inside : InRange lib request record.1) : lineKey lib request record =
      if (dictGet record.1 request.dataType.numberKey).truthy then
        (scalar (dictGet record.1 request.dataType.numberKey)).map (.value request.dataType)
      else (scalar (dictGet record.1 request.dataType.sequenceKey)).map
          (partsKey request.dataType (textOr lib.python record.1 request.dataType.addressKey)
            (timeText lib request record.1)) := by
  have timed := timeText_ne_empty inside
  unfold lineKey recordKey
  unfold timeText at timed ⊢
  cases kind : request.dataType with
  | ping => rfl
  | syslog =>
    simp only [kind, DataType.timeKey] at timed
    simp only [DataType.sequenceKey, timed, and_false, if_false]
    rfl

theorem lineKey_eq_iff {one two : Event × List UInt8} (insideOne : InRange lib request one.1)
    (insideTwo : InRange lib request two.1) (hashableOne : (lineKey lib request one).isSome)
    (hashableTwo : (lineKey lib request two).isSome) :
    lineKey lib request one = lineKey lib request two ↔
      SameIdentification lib request one.1 two.1 := by
  obtain ⟨_, keyedOne⟩ := Option.isSome_iff_exists.mp hashableOne
  obtain ⟨keyTwo, keyedTwo⟩ := Option.isSome_iff_exists.mp hashableTwo
  rw [keyedOne, keyedTwo]
  rw [lineKey_eq insideOne] at keyedOne
  rw [lineKey_eq insideTwo] at keyedTwo
  unfold SameIdentification
  by_cases numberOne : (dictGet one.1 request.dataType.numberKey).truthy <;>
    by_cases numberTwo : (dictGet two.1 request.dataType.numberKey).truthy
  · rw [if_pos numberOne] at keyedOne
    rw [if_pos numberTwo] at keyedTwo
    obtain ⟨valueOne, scalarOne, rfl⟩ := Option.map_eq_some_iff.mp keyedOne
    obtain ⟨valueTwo, scalarTwo, rfl⟩ := Option.map_eq_some_iff.mp keyedTwo
    rw [if_pos (Or.inl numberOne)]
    constructor
    · intro same
      cases same
      exact scalar_injective scalarOne scalarTwo
    · intro same
      rw [same, scalarTwo] at scalarOne
      cases scalarOne
      rfl
  · rw [if_pos numberOne] at keyedOne
    rw [if_neg numberTwo] at keyedTwo
    obtain ⟨valueOne, scalarOne, rfl⟩ := Option.map_eq_some_iff.mp keyedOne
    obtain ⟨valueTwo, scalarTwo, rfl⟩ := Option.map_eq_some_iff.mp keyedTwo
    rw [if_pos (Or.inl numberOne)]
    constructor
    · intro same
      exact absurd (Option.some.inj same).symm partsKey_ne_value
    · intro same
      exact absurd (same ▸ numberOne) numberTwo
  · rw [if_neg numberOne] at keyedOne
    rw [if_pos numberTwo] at keyedTwo
    obtain ⟨valueOne, scalarOne, rfl⟩ := Option.map_eq_some_iff.mp keyedOne
    obtain ⟨valueTwo, scalarTwo, rfl⟩ := Option.map_eq_some_iff.mp keyedTwo
    rw [if_pos (Or.inr numberTwo)]
    constructor
    · intro same
      exact absurd (Option.some.inj same) partsKey_ne_value
    · intro same
      exact absurd (same ▸ numberTwo) numberOne
  · rw [if_neg numberOne] at keyedOne
    rw [if_neg numberTwo] at keyedTwo
    obtain ⟨valueOne, scalarOne, rfl⟩ := Option.map_eq_some_iff.mp keyedOne
    obtain ⟨valueTwo, scalarTwo, rfl⟩ := Option.map_eq_some_iff.mp keyedTwo
    rw [if_neg (by simp [numberOne, numberTwo]), Option.some.injEq, partsKey_inj]
    constructor
    · intro ⟨address, time, sequence⟩
      exact ⟨address, time, scalar_injective scalarOne (sequence ▸ scalarTwo)⟩
    · intro ⟨address, time, sequence⟩
      rw [sequence, scalarTwo] at scalarOne
      exact ⟨address, time, (Option.some.inj scalarOne).symm⟩

/-! ## Every record once -/

variable (lib request)

/-- The records of the range that are stored in the registered files. -/
def storedRecords (storage : Storage) (rows : List RegisteredFile)
    (paths : List (Option LineSource)) : List (Event × List UInt8) :=
  lineRecords lib request (storedLines storage (rows.zip paths))

/-- A read of a run whose files are partly in the active directory and partly in
the archive. It reads all of them within its budget, and the records carry numbers
and texts as identifications. -/
structure MixedRead (storage : Storage) (rows : List RegisteredFile)
    (paths : List (Option LineSource)) : Prop where
  located : rows.mapM storage.activeFile = .ok paths
  active : paths.any (·.isSome)
  archived : paths.any (·.isNone)
  undisturbed : Undisturbed request storage (rows.zip paths)
  listed : rows.length ≤ request.dataType.maxFiles
  recordCount : (storedLines storage (rows.zip paths)).length < request.dataType.maxRecords
  bytes : byteCount (storedLines storage (rows.zip paths)) < request.dataType.maxBytes
  keys : (storedRecords lib request storage rows paths).length ≤ maxMixedDedupKeys
  hashable : ∀ record ∈ storedRecords lib request storage rows paths,
    (lineKey lib request record).isSome

/-- Every distinct stored record of the range is yielded exactly once. -/
def YieldsEachOnce (storage : Storage) (rows : List RegisteredFile)
    (paths : List (Option LineSource)) : Prop :=
  ∃ state, records lib request storage rows = .ok state ∧ state.raised = none ∧
    (state.yielded.map (·.item)).Nodup ∧
    ∀ record ∈ storedRecords lib request storage rows paths,
      record.1 ∈ state.yielded.map (·.item)

variable {lib request}

theorem records_spec {rows : List RegisteredFile} {paths : List (Option LineSource)}
    (mixed : MixedRead lib request storage rows paths) :
    ∃ state, records lib request storage rows = .ok state ∧ state.raised = none ∧
      state.yielded.map (·.item) = (firstByKey (lineKey lib request) []
        (storedRecords lib request storage rows paths)).map (·.1) := by
  let initial : ReadState :=
    { filesConsidered := rows.length
      registeredRecordCount := (rows.map fun file => max 0 file.recordCount).sum, seen := some [] }
  have affordable : Affordable lib request (storedLines storage (rows.zip paths)) initial :=
    { recordCount := by rw [Nat.zero_add]; exact mixed.recordCount
      bytes := by rw [Nat.zero_add]; exact mixed.bytes, hashable := mixed.hashable
      keys := ⟨[], rfl, by rw [length_nil, Nat.zero_add]; exact mixed.keys⟩, untruncated := rfl
      unraised := rfl }
  have hasRead := readFiles_spec (rows.zip paths) mixed.undisturbed initial affordable
  refine ⟨_, ?_, hasRead.unraised, hasRead.yielded⟩
  have all : rows.take request.dataType.maxFiles = rows := take_of_length_le mixed.listed
  have listed : ¬ request.dataType.maxFiles < rows.length := Nat.not_lt.mpr mixed.listed
  unfold records
  simp only [all, mixed.located, bind, Except.bind, pure, mixed.active, mixed.archived, listed,
    Bool.and_self, if_true]
  rfl

variable (lib request)

/-- A mixed read yields every record of the range once if and only if no two
different records of the range carry the same identification. -/
theorem yieldsEachOnce_iff (storage : Storage) (rows : List RegisteredFile)
    (paths : List (Option LineSource)) (mixed : MixedRead lib request storage rows paths) :
    YieldsEachOnce lib request storage rows paths ↔
      ∀ one ∈ storedRecords lib request storage rows paths,
        ∀ two ∈ storedRecords lib request storage rows paths,
          SameIdentification lib request one.1 two.1 → one.1 = two.1 := by
  obtain ⟨state, read, unraised, yielded⟩ := records_spec mixed
  have keyed : ∀ one ∈ storedRecords lib request storage rows paths,
      ∀ two ∈ storedRecords lib request storage rows paths,
        (lineKey lib request one = lineKey lib request two ↔
          SameIdentification lib request one.1 two.1) := by
    intro one memberOne two memberTwo
    exact lineKey_eq_iff (inRange_of_mem lib request memberOne)
      (inRange_of_mem lib request memberTwo) (mixed.hashable one memberOne)
      (mixed.hashable two memberTwo)
  have decides : ∀ one ∈ storedRecords lib request storage rows paths,
      ∀ two ∈ storedRecords lib request storage rows paths,
        one.1 = two.1 → lineKey lib request one = lineKey lib request two := by
    intro one memberOne two memberTwo same
    rw [keyed one memberOne two memberTwo, ← same]
    unfold SameIdentification
    split
    · rfl
    · exact ⟨rfl, rfl, rfl⟩
  have once : YieldsEachOnce lib request storage rows paths ↔
      EachOnce (fun record : Event × List UInt8 => record.1)
        (storedRecords lib request storage rows paths) (firstByKey (lineKey lib request) []
          (storedRecords lib request storage rows paths)) := by
    constructor
    · intro ⟨other, readOther, _, distinct, covers⟩
      have same : state = other := Except.ok.inj (read.symm.trans readOther)
      rw [← same, yielded] at distinct covers
      exact ⟨distinct, covers⟩
    · intro ⟨distinct, covers⟩
      rw [← yielded] at distinct covers
      exact ⟨state, read, unraised, distinct, covers⟩
  rw [once, eachOnce_iff (lineKey lib request) (fun record => record.1) _ decides]
  constructor
  · intro separates one memberOne two memberTwo same
    exact separates one memberOne two memberTwo ((keyed one memberOne two memberTwo).mpr same)
  · intro separates one memberOne two memberTwo same
    exact separates one memberOne two memberTwo ((keyed one memberOne two memberTwo).mp same)

end MixedReads

/-! ## Two receiver sessions -/

/-- A record of a receiver session: the receiver counts from one. -/
def sessionLine (content : UInt8) : List UInt8 := [content, 10]

/-- Lines of one character: the record with that text, the first of its session. -/
def sessionLibrary : RawQueryLibrary where
  python := .plain
  decodeLine line :=
    if line = sessionLine 65 then
      some [("global_receive_sequence", .int 1), ("receive_time", .str "8"),
        ("raw_message", .str "A")]
    else if line = sessionLine 66 then
      some [("global_receive_sequence", .int 1), ("receive_time", .str "9"),
        ("raw_message", .str "B")]
    else if line = sessionLine 67 then
      some [("global_receive_sequence", .int 2), ("receive_time", .str "9"),
        ("raw_message", .str "C")]
    else none
  fromIsoFormat text := if text = "8" then some 8 else if text = "9" then some 9 else none
  sha256 _ := ""

/-- The file with the first session is archived, the other is active. -/
def sessionStorage (second : UInt8) : Storage where
  activeFile file :=
    .ok (if file.fileId = "two" then some ⟨[(sessionLine second, "")], none⟩ else none)
  inspection := .ok (some false)
  archivedLines _ := ⟨[(sessionLine 65, "raw/one.jsonl")], none⟩

/-- All records of the run. -/
def sessionRequest : RecordRequest where
  dataType := .syslog
  runId := "run"
  start := 0
  finish := 100
  stopBeforeFile _ := false
  timeIsUp _ := false

/-- The two files of the run. -/
def sessionFiles : List RegisteredFile := [⟨"one", "ARCHIVED", 1⟩, ⟨"two", "CLOSED", 1⟩]

/-- Both sources are read to their ends. -/
theorem sessionRead_undisturbed (second : UInt8) :
    Undisturbed sessionRequest (sessionStorage second)
      (sessionFiles.zip [none, some ⟨[(sessionLine second, "")], none⟩]) where
  run := by decide
  archive := ⟨false, rfl⟩
  whole := by
    intro file active mem
    simp only [sessionFiles, zip_cons_cons, zip_nil_right, mem_cons, not_mem_nil, or_false] at mem
    rcases mem with ⟨_, rfl⟩ | ⟨_, rfl⟩ <;> rfl
  wanted _ _ _ := rfl
  clock _ := rfl

theorem sessionRead_mixed {second : UInt8} (known : second = 66 ∨ second = 67) :
    MixedRead sessionLibrary sessionRequest (sessionStorage second) sessionFiles
      [none, some ⟨[(sessionLine second, "")], none⟩] where
  located := rfl
  active := rfl
  archived := rfl
  undisturbed := sessionRead_undisturbed second
  listed := by decide
  recordCount := by rcases known with rfl | rfl <;> decide +kernel
  bytes := by rcases known with rfl | rfl <;> decide +kernel
  keys := by rcases known with rfl | rfl <;> decide +kernel
  hashable := by rcases known with rfl | rfl <;> decide +kernel

/-- Two records with different numbers are both yielded. -/
theorem yieldsEachOnce_oneSession :
    YieldsEachOnce sessionLibrary sessionRequest (sessionStorage 67) sessionFiles
      [none, some ⟨[(sessionLine 67, "")], none⟩] := by
  rw [yieldsEachOnce_iff sessionLibrary sessionRequest (sessionStorage 67) sessionFiles _
    (sessionRead_mixed (Or.inr rfl))]
  have stored : storedRecords sessionLibrary sessionRequest (sessionStorage 67) sessionFiles
      [none, some ⟨[(sessionLine 67, "")], none⟩] =
      [([("global_receive_sequence", .int 1), ("receive_time", .str "8"),
          ("raw_message", .str "A")], sessionLine 65),
        ([("global_receive_sequence", .int 2), ("receive_time", .str "9"),
          ("raw_message", .str "C")], sessionLine 67)] := by rfl
  rw [stored]
  intro one memberOne two memberTwo
  simp only [mem_cons, not_mem_nil, or_false] at memberOne memberTwo
  rcases memberOne with rfl | rfl <;> rcases memberTwo with rfl | rfl
  all_goals simp [SameIdentification, sessionRequest, DataType.numberKey, dictGet, Json.truthy]

/-- The first record of the second session has the number of the first record of the
first session, and is dropped. -/
theorem not_yieldsEachOnce_twoSessions :
    ¬ YieldsEachOnce sessionLibrary sessionRequest (sessionStorage 66) sessionFiles
      [none, some ⟨[(sessionLine 66, "")], none⟩] := by
  intro ⟨state, read, _, _, covers⟩
  have yielded : (records sessionLibrary sessionRequest (sessionStorage 66)
      sessionFiles).toOption.map (fun state => (state.yielded.map (·.item)).length) = some 1 := by
    decide +kernel
  rw [read] at yielded
  obtain ⟨item, only⟩ := length_eq_one_iff.mp (Option.some.inj yielded)
  rw [only] at covers
  have first := covers ([("global_receive_sequence", .int 1), ("receive_time", .str "8"),
    ("raw_message", .str "A")], sessionLine 65) (mem_cons_self ..)
  have second := covers ([("global_receive_sequence", .int 1), ("receive_time", .str "9"),
    ("raw_message", .str "B")], sessionLine 66) (mem_cons_of_mem _ (mem_cons_self ..))
  have same := (mem_singleton.mp first).trans (mem_singleton.mp second).symm
  simp at same

end NetConsole.RawQuery
