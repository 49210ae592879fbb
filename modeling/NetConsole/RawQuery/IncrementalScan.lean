import NetConsole.RawQuery.IncrementalPing

/-!
# What an incremental call reads

A call that stays within its budget reads the complete lines behind the offsets of its
files until it has accepted as many records as it wants (`callLines`). It collects their
accepted records and moves the offsets behind the lines (`readPingFiles_spec`).
-/

set_option autoImplicit false

namespace NetConsole.RawQuery

open Worker (Event textOr)
open Syslog (rawLines)
open List

section IncrementalScan

variable (lib : RawQueryLibrary) (identity : PingIdentity) (call : IncrementalCall)
  (cursor : PingCursor)

/-! ## Lines and records -/

/-- The complete lines at the start of some lines. -/
def completePart (lines : List (List UInt8)) : List (List UInt8) := lines.takeWhile isComplete

/-- The matching record of a line. -/
def lineItem (line : List UInt8) : Option Event :=
  match lib.decodeLine line with
  | none => none
  | some item =>
    if identity.matchesRecord item ∧
        (parseTime lib (textOr lib.python item "ts")).isSome then
      some item
    else none

/-- The matching records of some lines. -/
def lineItems (lines : List (List UInt8)) : List Event :=
  lines.filterMap (lineItem lib identity)

/-- A cursor accepts each record of a file that it has an offset of, and the records of
another file that come after it. -/
def acceptsItem (fileId : String) (item : Event) : Bool :=
  (cursor.offsets.lookup fileId).isSome ||
    match parseTime lib (textOr lib.python item "ts") with
    | none => false
    | some time =>
      match afterPingCursor lib cursor item time with
      | .ok later => later
      | .error _ => false

/-- The records of some lines of a file that a cursor accepts. -/
def acceptedItems (fileId : String) (lines : List (List UInt8)) : List Event :=
  (lineItems lib identity lines).filter (acceptsItem lib cursor fileId)

def lineBytes (lines : List (List UInt8)) : Nat := lines.flatten.length

/-- What a record is compared by: its content and its file. -/
def PingPoint.source (point : PingPoint) : Event × String := (point.item, point.rawFileId)

/-! ## What a call needs -/

/-- The lines up to a number of accepted records. -/
def neededLines (fileId : String) : List (List UInt8) → Nat → List (List UInt8)
  | [], _ => []
  | line :: rest, wanted =>
    if wanted = 0 then []
    else
      line :: neededLines fileId rest
        (wanted - (acceptedItems lib identity cursor fileId [line]).length)

/-- The complete lines that a call finds behind the offset of a file. -/
def pingPending (file : PingFile) : List (List UInt8) :=
  match file.content with
  | none => []
  | some content =>
    if endedBefore lib call cursor file then []
    else completePart (rawLines (content.drop (startOffset cursor.offsets file.fileId content)))

/-- The lines of each file that a call needs. -/
def callLines : List PingFile → Nat → List (String × List (List UInt8))
  | [], _ => []
  | file :: rest, wanted =>
    let lines := neededLines lib identity cursor file.fileId
      (pingPending lib call cursor file) wanted
    (file.fileId, lines) :: callLines rest
      (wanted - (acceptedItems lib identity cursor file.fileId lines).length)

/-- The accepted records of the lines of some files. -/
def callItems (read : List (String × List (List UInt8))) : List (Event × String) :=
  read.flatMap fun part =>
    (acceptedItems lib identity cursor part.1 part.2).map (·, part.1)

def linesOf (read : List (String × List (List UInt8))) (fileId : String) : List (List UInt8) :=
  (read.lookup fileId).getD []

variable {lib identity call cursor}

theorem lineItems_append (first second : List (List UInt8)) :
    lineItems lib identity (first ++ second) =
      lineItems lib identity first ++ lineItems lib identity second :=
  filterMap_append

theorem acceptedItems_append (fileId : String) (first second : List (List UInt8)) :
    acceptedItems lib identity cursor fileId (first ++ second) =
      acceptedItems lib identity cursor fileId first ++
        acceptedItems lib identity cursor fileId second := by
  rw [acceptedItems, lineItems_append, filter_append]
  rfl

theorem length_acceptedItems_singleton_le (fileId : String) (line : List UInt8) :
    (acceptedItems lib identity cursor fileId [line]).length ≤ 1 := by
  have items : (lineItems lib identity [line]).length ≤ 1 :=
    length_filterMap_le (lineItem lib identity) [line]
  have accepted := length_filter_le (acceptsItem lib cursor fileId)
    (lineItems lib identity [line])
  rw [acceptedItems]
  omega

variable (lib identity cursor) in
theorem neededLines_prefix (fileId : String) (lines : List (List UInt8)) (wanted : Nat) :
    ∃ rest, lines = neededLines lib identity cursor fileId lines wanted ++ rest := by
  induction lines generalizing wanted with
  | nil => exact ⟨[], rfl⟩
  | cons line lines ih =>
    rw [neededLines]
    split
    · exact ⟨_, rfl⟩
    · obtain ⟨rest, parts⟩ :=
        ih (wanted - (acceptedItems _ _ _ fileId [line]).length)
      refine ⟨rest, ?_⟩
      rw [cons_append, ← parts]

theorem length_neededLines_le (fileId : String) (lines : List (List UInt8)) (wanted : Nat) :
    (acceptedItems lib identity cursor fileId
      (neededLines lib identity cursor fileId lines wanted)).length ≤ wanted := by
  induction lines generalizing wanted with
  | nil => exact Nat.zero_le _
  | cons line lines ih =>
    rw [neededLines]
    split
    · exact Nat.zero_le _
    · have one : (acceptedItems lib identity cursor fileId [line]).length ≤ 1 :=
        length_acceptedItems_singleton_le fileId line
      have later := ih (wanted - (acceptedItems lib identity cursor fileId [line]).length)
      rw [← singleton_append, acceptedItems_append, length_append]
      omega

variable {fileId : String} {lines : List (List UInt8)} {wanted : Nat}

theorem neededLines_of_short (short : (acceptedItems lib identity cursor fileId
      (neededLines lib identity cursor fileId lines wanted)).length < wanted) :
    neededLines lib identity cursor fileId lines wanted = lines := by
  induction lines generalizing wanted with
  | nil => rfl
  | cons line lines ih =>
    have some' : wanted ≠ 0 := by omega
    rw [neededLines, if_neg some'] at short ⊢
    rw [← singleton_append, acceptedItems_append, length_append] at short
    rw [ih (by omega)]

theorem neededLines_append {old : List (List UInt8)}
    (none' : acceptedItems lib identity cursor fileId old = []) (lines : List (List UInt8))
    (some' : wanted ≠ 0) : neededLines lib identity cursor fileId (old ++ lines) wanted =
      old ++ neededLines lib identity cursor fileId lines wanted := by
  induction old with
  | nil => rfl
  | cons line rest ih =>
    rw [← singleton_append, acceptedItems_append, append_eq_nil_iff] at none'
    rw [cons_append, neededLines, if_neg some', none'.1, length_nil, Nat.sub_zero,
      ih none'.2, cons_append]

/-! ## A line -/

variable (lib identity call cursor)

/-- What is left of the budget suffices for the lines. -/
structure LinesAffordable (lines : List (List UInt8)) (scan : PingScan) : Prop where
  clock : ∀ check < scan.budgetChecks + lines.length, call.timeIsUp check = false
  count : lines ≠ [] → scan.recordsScanned + lines.length < DataType.ping.maxRecords
  bytes : lines ≠ [] → scan.bytesScanned + lineBytes lines < DataType.ping.maxBytes

/-- What reading some lines of a file does. -/
structure LinesRead (fileId : String) (lines : List (List UInt8)) (tell tellAfter : Nat)
    (scan after : PingScan) : Prop where
  records : after.records.map PingPoint.source = scan.records.map PingPoint.source ++
    (acceptedItems lib identity cursor fileId lines).map (·, fileId)
  tell : tellAfter = tell + lineBytes lines
  offset : after.offsets.lookup fileId =
    if lines = [] then scan.offsets.lookup fileId else some tellAfter
  others : ∀ other, other ≠ fileId → after.offsets.lookup other = scan.offsets.lookup other
  count : after.recordsScanned = scan.recordsScanned + lines.length
  bytes : after.bytesScanned = scan.bytesScanned + lineBytes lines
  checks : after.budgetChecks = scan.budgetChecks + lines.length
  truncated : after.truncated = scan.truncated

variable {lib identity call cursor}

theorem lookup_setOffset_self (offsets : List (String × Nat)) (fileId : String) (offset : Nat) :
    (setOffset offsets fileId offset).lookup fileId = some offset := by
  simp [setOffset]

variable {fileId other : String}

theorem lookup_filter_ne (offsets : List (String × Nat)) (different : other ≠ fileId) :
    (offsets.filter (·.1 ≠ fileId)).lookup other = offsets.lookup other := by
  induction offsets with
  | nil => rfl
  | cons entry rest ih =>
    obtain ⟨key, _⟩ := entry
    by_cases same : key = fileId
    · have unequal : (other == key) = false := by simp [same, different]
      rw [filter_cons_of_neg (by simp [same]), lookup_cons, unequal, ih]
    · rw [filter_cons_of_pos (by simp [same]), lookup_cons, lookup_cons, ih]

theorem lookup_setOffset_ne (offsets : List (String × Nat)) (offset : Nat)
    (different : other ≠ fileId) :
    (setOffset offsets fileId offset).lookup other = offsets.lookup other := by
  have unequal : (other == fileId) = false := by simp [different]
  rw [setOffset, lookup_cons, unequal]
  exact lookup_filter_ne offsets different

theorem LinesRead.nil (fileId : String) (tell : Nat) (scan : PingScan) :
    LinesRead lib identity cursor fileId [] tell tell scan scan where
  records := by simp [acceptedItems, lineItems]
  tell := rfl
  offset := by simp
  others _ _ := rfl
  count := rfl
  bytes := rfl
  checks := rfl
  truncated := rfl

variable {first second : List (List UInt8)} {scan middle after : PingScan} {tell : Nat}

theorem LinesRead.append {middleTell lastTell : Nat}
    (readFirst : LinesRead lib identity cursor fileId first tell middleTell scan middle)
    (readSecond : LinesRead lib identity cursor fileId second middleTell lastTell middle after)
    : LinesRead lib identity cursor fileId (first ++ second) tell lastTell scan after where
  records := by
    rw [readSecond.records, readFirst.records, acceptedItems_append, map_append, append_assoc]
  tell := by
    rw [readSecond.tell, readFirst.tell]
    simp [lineBytes, Nat.add_assoc]
  offset := by
    rw [readSecond.offset, readFirst.offset]
    by_cases noneSecond : second = []
    · have same : lastTell = middleTell := by rw [readSecond.tell, noneSecond]; rfl
      simp [noneSecond, same]
    · simp [noneSecond]
  others other different :=
    (readSecond.others other different).trans (readFirst.others other different)
  count := by
    rw [readSecond.count, readFirst.count, length_append, Nat.add_assoc]
  bytes := by
    rw [readSecond.bytes, readFirst.bytes]
    simp [lineBytes, Nat.add_assoc]
  checks := by
    rw [readSecond.checks, readFirst.checks, length_append, Nat.add_assoc]
  truncated := readSecond.truncated.trans readFirst.truncated

variable {scan after : PingScan} {line : List UInt8}

/-- The effect of one line, from the fields of the state behind it. -/
theorem LinesRead.one
    (records : after.records.map PingPoint.source = scan.records.map PingPoint.source ++
      (acceptedItems lib identity cursor fileId [line]).map (·, fileId))
    (offsets : after.offsets = setOffset scan.offsets fileId (tell + line.length))
    (count : after.recordsScanned = scan.recordsScanned + 1)
    (bytes : after.bytesScanned = scan.bytesScanned + line.length)
    (checks : after.budgetChecks = scan.budgetChecks + 1)
    (truncated : after.truncated = scan.truncated) :
    LinesRead lib identity cursor fileId [line] tell (tell + line.length) scan after where
  records := records
  tell := by simp [lineBytes]
  offset := by rw [offsets, lookup_setOffset_self]; simp
  others other different := by rw [offsets, lookup_setOffset_ne _ _ different]
  count := count
  bytes := by simp [bytes, lineBytes]
  checks := checks
  truncated := truncated

theorem pingBudgetExhausted_eq_false (clock : call.timeIsUp scan.budgetChecks = false)
    (count : scan.recordsScanned < DataType.ping.maxRecords)
    (bytes : scan.bytesScanned < DataType.ping.maxBytes) :
    pingBudgetExhausted call scan = false := by
  simp [pingBudgetExhausted, clock, count, bytes]

/-- The record of a line whose decoding, matching and time are known. -/
theorem acceptedItems_singleton {item : Event} (stored : lineItem lib identity line = some item)
    : acceptedItems lib identity cursor fileId [line] =
      if acceptsItem lib cursor fileId item then [item] else [] := by
  rw [acceptedItems, lineItems, filterMap_cons, stored]
  simp only [filterMap_nil, filter_cons, filter_nil]

theorem acceptedItems_singleton_none (missing : lineItem lib identity line = none) :
    acceptedItems lib identity cursor fileId [line] = [] := by
  rw [acceptedItems, lineItems, filterMap_cons, missing]
  rfl

variable (lib identity cursor) in
theorem readPingLine_spec (file : PingFile) (tell : Nat)
    (affordable : LinesAffordable call [line] scan) : ∃ after stopped,
      readPingLine lib identity call cursor file line (tell + line.length) scan = (after, stopped) ∧
        (stopped = true → after.raised.isSome) ∧ (stopped = false →
          LinesRead lib identity cursor file.fileId [line] tell (tell + line.length) scan
            after) := by
  have count := affordable.count (by simp)
  have bytes := affordable.bytes (by simp)
  have clock := affordable.clock scan.budgetChecks (by simp)
  simp only [length_singleton] at count
  simp only [lineBytes, flatten_cons, flatten_nil, append_nil] at bytes
  let taken := { scan with
    offsets := setOffset scan.offsets file.fileId (tell + line.length)
    bytesScanned := scan.bytesScanned + line.length, recordsScanned := scan.recordsScanned + 1 }
  have inBudget : pingBudgetExhausted call taken = false :=
    pingBudgetExhausted_eq_false clock count bytes
  simp only [taken] at inBudget
  unfold readPingLine
  simp only [inBudget, Bool.false_eq_true]
  cases decoded : lib.decodeLine line with
  | none =>
    have noItem : acceptedItems lib identity cursor file.fileId [line] = [] :=
      acceptedItems_singleton_none (by simp [lineItem, decoded])
    refine ⟨_, _, rfl, (nomatch ·), fun _ => ?_⟩
    exact .one (by rw [noItem]; simp) rfl rfl rfl rfl rfl
  | some item =>
    cases fits : identity.matchesRecord item with
    | false =>
      have noItem : acceptedItems lib identity cursor file.fileId [line] = [] :=
        acceptedItems_singleton_none (by simp [lineItem, decoded, fits])
      simp only [fits, Bool.not_false]
      refine ⟨_, _, rfl, (nomatch ·), fun _ => ?_⟩
      exact .one (by rw [noItem]; simp) rfl rfl rfl rfl rfl
    | true =>
      simp only [fits, Bool.not_true, Bool.false_eq_true, if_false]
      cases asserted : identity.assertTargetSignature item scan.observed with
      | none =>
        exact ⟨_, _, rfl, fun _ => rfl, (nomatch ·)⟩
      | some observed =>
        simp only []
        unfold acceptPing
        cases timed : parseTime lib (textOr lib.python item "ts") with
        | none =>
          have noItem : acceptedItems lib identity cursor file.fileId [line] = [] :=
            acceptedItems_singleton_none (by simp [lineItem, decoded, fits, timed])
          refine ⟨_, _, rfl, (nomatch ·), fun _ => ?_⟩
          exact .one (by rw [noItem]; simp) rfl rfl rfl rfl rfl
        | some time =>
          have stored : lineItem lib identity line = some item := by
            simp [lineItem, decoded, fits, timed]
          have oneItem : acceptedItems lib identity cursor file.fileId [line] =
              if acceptsItem _ _ file.fileId item then [item] else [] :=
            acceptedItems_singleton stored
          simp only []
          split
          · next known =>
            have accepted : acceptsItem lib cursor file.fileId item = true := by
              simp [acceptsItem, known]
            rw [accepted, if_pos rfl] at oneItem
            refine ⟨_, _, rfl, (nomatch ·), fun _ => ?_⟩
            exact .one (by rw [oneItem]; simp [PingPoint.source]) rfl rfl rfl rfl rfl
          · next unknown =>
            cases compared : afterPingCursor lib cursor item time with
            | error error => exact ⟨_, _, rfl, fun _ => rfl, (nomatch ·)⟩
            | ok later =>
              have accepted : acceptsItem lib cursor file.fileId item = later := by
                simp [acceptsItem, unknown, timed, compared]
              rw [accepted] at oneItem
              cases later with
              | true =>
                refine ⟨_, _, rfl, (nomatch ·), fun _ => ?_⟩
                exact .one (by rw [oneItem]; simp [PingPoint.source]) rfl rfl rfl rfl rfl
              | false =>
                refine ⟨_, _, rfl, (nomatch ·), fun _ => ?_⟩
                exact .one (by rw [oneItem]; simp) rfl rfl rfl rfl rfl

/-! ## The lines of a file -/

theorem LinesAffordable.left (affordable : LinesAffordable call (first ++ second) scan) :
    LinesAffordable call first scan := by
  have count := affordable.count
  have bytes := affordable.bytes
  have clock := affordable.clock
  simp only [lineBytes, flatten_append, length_append] at count bytes clock
  refine ⟨?_, ?_, ?_⟩
  · intro check early
    exact clock check (by omega)
  · intro some'
    have small := count (by simp [some'])
    omega
  · intro some'
    have small := bytes (by simp [some'])
    rw [lineBytes]
    omega

variable {tellAfter : Nat}

theorem LinesAffordable.right (affordable : LinesAffordable call (first ++ second) scan)
    (readFirst : LinesRead lib identity cursor fileId first tell tellAfter scan after) :
    LinesAffordable call second after := by
  have count := affordable.count
  have bytes := affordable.bytes
  have clock := affordable.clock
  simp only [lineBytes, flatten_append, length_append] at count bytes clock
  refine ⟨?_, ?_, ?_⟩
  · intro check early
    rw [readFirst.checks] at early
    exact clock check (by omega)
  · intro some'
    have small := count (by simp [some'])
    rw [readFirst.count]
    omega
  · intro some'
    have small := bytes (by simp [some'])
    rw [readFirst.bytes, lineBytes, lineBytes]
    omega

theorem LinesRead.length_records
    (read : LinesRead lib identity cursor fileId lines tell tellAfter scan after) :
    after.records.length =
      scan.records.length + (acceptedItems lib identity cursor fileId lines).length := by
  have lengths := congrArg List.length read.records
  simp only [length_append, length_map] at lengths
  exact lengths

variable (lib identity cursor) in
theorem readPingLines_spec (file : PingFile) (lines : List (List UInt8)) (tell : Nat)
    (scan : PingScan)
    (affordable : LinesAffordable call (neededLines lib identity cursor file.fileId
      (completePart lines) (call.limit - scan.records.length)) scan)
    (unraised : (readPingLines lib identity call cursor file lines tell scan).1.raised = none) :
    LinesRead lib identity cursor file.fileId
      (neededLines lib identity cursor file.fileId (completePart lines)
        (call.limit - scan.records.length)) tell
      (readPingLines lib identity call cursor file lines tell scan).2 scan
      (readPingLines lib identity call cursor file lines tell scan).1 := by
  induction lines generalizing tell scan with
  | nil => exact .nil _ _ _
  | cons line lines ih =>
    rw [readPingLines] at unraised ⊢
    split
    · next full =>
      have none' : call.limit - scan.records.length = 0 := by omega
      have needed : neededLines lib identity cursor file.fileId (completePart (line :: lines))
          (call.limit - scan.records.length) = [] := by
        rw [none']
        cases completePart (line :: lines) with
        | nil => rfl
        | cons first rest => rw [neededLines, if_pos rfl]
      rw [needed]
      exact .nil _ _ _
    · next open' =>
      rw [if_neg open'] at unraised
      have some' : call.limit - scan.records.length ≠ 0 := by omega
      cases complete : isComplete line with
      | false =>
        have none' : completePart (line :: lines) = [] := by
          rw [completePart, takeWhile_cons_of_neg (by simp [complete])]
        simp only [Bool.not_false]
        rw [none']
        exact .nil _ _ _
      | true =>
        have parts : completePart (line :: lines) = line :: completePart lines := by
          rw [completePart, takeWhile_cons_of_pos complete]
          rfl
        rw [parts, neededLines, if_neg some'] at affordable ⊢
        rw [← singleton_append] at affordable ⊢
        obtain ⟨after, stopped, stepped, raises, reads⟩ :=
          readPingLine_spec lib identity cursor file tell affordable.left
        simp only [complete, Bool.not_true, Bool.false_eq_true, if_false, stepped] at unraised ⊢
        cases stopped with
        | true =>
          have raised := raises rfl
          simp only [] at unraised
          rw [unraised] at raised
          cases raised
        | false =>
          have readFirst := reads rfl
          have wanted : call.limit - scan.records.length -
              (acceptedItems lib identity cursor file.fileId [line]).length =
                call.limit - after.records.length := by
            rw [readFirst.length_records]
            omega
          simp only [] at unraised ⊢
          rw [wanted] at affordable ⊢
          exact readFirst.append
            (ih (tell + line.length) after (affordable.right readFirst) unraised)

/-! ## A file -/

variable {file : PingFile} {content : List UInt8}

theorem readPingFile_spec (known : file.content = some content)
    (listed : endedBefore lib call cursor file = false)
    (same : scan.offsets.lookup file.fileId = cursor.offsets.lookup file.fileId)
    (affordable : LinesAffordable call (neededLines lib identity cursor file.fileId
      (pingPending lib call cursor file) (call.limit - scan.records.length)) scan)
    (unraised : (readPingFile lib identity call cursor file content scan).raised = none) :
    LinesRead lib identity cursor file.fileId
      (neededLines lib identity cursor file.fileId (pingPending lib call cursor file)
        (call.limit - scan.records.length))
      (startOffset cursor.offsets file.fileId content)
      (startOffset cursor.offsets file.fileId content +
        lineBytes (neededLines lib identity cursor file.fileId
          (pingPending lib call cursor file) (call.limit - scan.records.length)))
      scan (readPingFile lib identity call cursor file content scan) := by
  have pending : pingPending lib call cursor file =
      completePart (rawLines (content.drop (startOffset cursor.offsets file.fileId content))) := by
    simp [pingPending, known, listed]
  have start : startOffset scan.offsets file.fileId content =
      startOffset cursor.offsets file.fileId content := by
    rw [startOffset, same, startOffset]
  rw [pending] at affordable ⊢
  unfold readPingFile at unraised ⊢
  simp only [start] at unraised ⊢
  have lines := readPingLines_spec _ _ _ file
    (rawLines (content.drop (startOffset cursor.offsets file.fileId content)))
    (startOffset cursor.offsets file.fileId content)
    { scan with processed := scan.processed ++ [file] }
    ⟨affordable.clock, affordable.count, affordable.bytes⟩
  revert lines unraised
  cases readPingLines _ _ _ _ file
    (rawLines (content.drop (startOffset cursor.offsets file.fileId content)))
    (startOffset cursor.offsets file.fileId content)
    { scan with processed := scan.processed ++ [file] } with
  | mk after tell =>
    intro unraised lines
    have unraised' : after.raised = none := by
      split at unraised
      · exact unraised
      · exact unraised
    have hasRead := lines unraised'
    have told := hasRead.tell
    rw [← told]
    split
    · exact { hasRead with }
    · exact { hasRead with }

/-! ## The files of a call -/

variable (lib identity call cursor)

/-- What a call does to its files: it collects the records of the lines that it reads, and
moves the offsets behind them. -/
structure FilesRead (files : List PingFile) (read : List (String × List (List UInt8)))
    (scan after : PingScan) : Prop where
  records : after.records.map PingPoint.source =
    scan.records.map PingPoint.source ++ callItems lib identity cursor read
  unread : ∀ file ∈ files, linesOf read file.fileId = [] →
    after.offsets.lookup file.fileId = cursor.offsets.lookup file.fileId
  offset : ∀ file ∈ files, ∀ content, file.content = some content →
    linesOf read file.fileId ≠ [] → after.offsets.lookup file.fileId =
      some (startOffset cursor.offsets file.fileId content + lineBytes (linesOf read file.fileId))
  unlisted : ∀ fileId, fileId ∉ files.map (·.fileId) →
    after.offsets.lookup fileId = scan.offsets.lookup fileId

variable {lib identity call cursor}

theorem map_callLines (files : List PingFile) (wanted : Nat) :
    (callLines lib identity call cursor files wanted).map (·.1) = files.map (·.fileId) := by
  induction files generalizing wanted with
  | nil => rfl
  | cons file rest ih =>
    rw [callLines, map_cons, map_cons, ih]

theorem linesOf_cons_self (fileId : String) (lines : List (List UInt8))
    (read : List (String × List (List UInt8))) :
      linesOf ((fileId, lines) :: read) fileId = lines := by
  simp [linesOf]

theorem linesOf_cons_ne (lines : List (List UInt8)) (read : List (String × List (List UInt8)))
    (different : other ≠ fileId) :
    linesOf ((fileId, lines) :: read) other = linesOf read other := by
  have unequal : (other == fileId) = false := by simp [different]
  rw [linesOf, lookup_cons, unequal]
  rfl

variable {read : List (String × List (List UInt8))}

theorem linesOf_of_notMem (missing : fileId ∉ read.map (·.1)) : linesOf read fileId = [] := by
  induction read with
  | nil => rfl
  | cons part rest ih =>
    obtain ⟨other, lines⟩ := part
    have different : fileId ≠ other := fun same => missing (same ▸ mem_cons_self)
    rw [linesOf_cons_ne lines rest different]
    exact ih fun mem => missing (mem_cons_of_mem _ mem)

theorem neededLines_zero (fileId : String) (lines : List (List UInt8)) :
    neededLines lib identity cursor fileId lines 0 = [] := by
  cases lines with
  | nil => rfl
  | cons line rest => rw [neededLines, if_pos rfl]

theorem callLines_zero (files : List PingFile) :
    callLines lib identity call cursor files 0 = files.map fun file => (file.fileId, []) := by
  induction files with
  | nil => rfl
  | cons file rest ih =>
    rw [callLines]
    simp only [neededLines_zero, Nat.zero_sub, ih, map_cons]

theorem linesOf_empty (files : List PingFile) (fileId : String) :
    linesOf (files.map fun file => (file.fileId, [])) fileId = [] := by
  induction files with
  | nil => rfl
  | cons file rest ih =>
    rw [map_cons]
    by_cases same : fileId = file.fileId
    · rw [same, linesOf_cons_self]
    · rw [linesOf_cons_ne _ _ same, ih]

variable {files : List PingFile}

theorem fileId_ne_of_fresh {file other : PingFile} (fresh : file.fileId ∉ files.map (·.fileId))
    (mem : other ∈ files) : other.fileId ≠ file.fileId := by
  intro same
  rw [← same] at fresh
  exact fresh (mem_map_of_mem mem)

theorem FilesRead.none'
    (same : ∀ file ∈ files, scan.offsets.lookup file.fileId = cursor.offsets.lookup file.fileId) :
    FilesRead lib identity cursor files (files.map fun file => (file.fileId, [])) scan scan where
  records := by simp [callItems, acceptedItems, lineItems]
  unread file mem _ := same file mem
  offset file mem _ _ some' := absurd (linesOf_empty files file.fileId) some'
  unlisted _ _ := rfl

theorem FilesRead.skip (fresh : file.fileId ∉ files.map (·.fileId))
    (same : scan.offsets.lookup file.fileId = cursor.offsets.lookup file.fileId)
    (rest : FilesRead lib identity cursor files read scan after) :
    FilesRead lib identity cursor (file :: files) ((file.fileId, []) :: read) scan after where
  records := by
    rw [rest.records]
    simp [callItems, acceptedItems, lineItems]
  unread other mem none' := by
    rcases mem_cons.mp mem with rfl | mem
    · rw [rest.unlisted _ fresh, same]
    · rw [linesOf_cons_ne _ _ (fileId_ne_of_fresh fresh mem)] at none'
      exact rest.unread other mem none'
  offset other mem content known some' := by
    rcases mem_cons.mp mem with rfl | mem
    · exact absurd (linesOf_cons_self ..) some'
    · have different := fileId_ne_of_fresh fresh mem
      rw [linesOf_cons_ne _ _ different] at some' ⊢
      exact rest.offset other mem content known some'
  unlisted fileId missing := rest.unlisted fileId fun mem =>
    missing (mem_cons_of_mem _ mem)

theorem FilesRead.cons (fresh : file.fileId ∉ files.map (·.fileId))
    (known : file.content = some content)
    (same : scan.offsets.lookup file.fileId = cursor.offsets.lookup file.fileId)
    (readFirst : LinesRead lib identity cursor file.fileId lines
      (startOffset cursor.offsets file.fileId content)
      (startOffset cursor.offsets file.fileId content + lineBytes lines) scan middle)
    (rest : FilesRead lib identity cursor files read middle after) :
    FilesRead lib identity cursor (file :: files) ((file.fileId, lines) :: read) scan after where
  records := by
    rw [rest.records, readFirst.records, append_assoc]
    rfl
  unread other mem none' := by
    rcases mem_cons.mp mem with rfl | mem
    · rw [linesOf_cons_self] at none'
      rw [rest.unlisted _ fresh, readFirst.offset, if_pos none', same]
    · have different := fileId_ne_of_fresh fresh mem
      rw [linesOf_cons_ne _ _ different] at none'
      exact rest.unread other mem none'
  offset other mem content' known' some' := by
    rcases mem_cons.mp mem with rfl | mem
    · rw [known] at known'
      cases known'
      rw [linesOf_cons_self] at some' ⊢
      rw [rest.unlisted _ fresh, readFirst.offset, if_neg some']
    · have different := fileId_ne_of_fresh fresh mem
      rw [linesOf_cons_ne _ _ different] at some' ⊢
      exact rest.offset other mem content' known' some'
  unlisted fileId missing := by
    have other : fileId ≠ file.fileId := fun here => missing (here ▸ mem_cons_self)
    have kept := rest.unlisted fileId fun mem => missing (mem_cons_of_mem _ mem)
    exact kept.trans (readFirst.others fileId other)

/-- A call that stays within its budget reads the lines that it needs. -/
theorem readPingFiles_spec (files : List PingFile) (scan : PingScan)
    (distinct : (files.map (·.fileId)).Nodup)
    (same : ∀ file ∈ files, scan.offsets.lookup file.fileId = cursor.offsets.lookup file.fileId)
    (affordable : LinesAffordable call ((callLines lib identity call cursor files
      (call.limit - scan.records.length)).flatMap (·.2)) scan)
    (untruncated : scan.truncated = false)
    (unraised : (readPingFiles lib identity call cursor files scan).raised = none) :
    FilesRead lib identity cursor files
      (callLines lib identity call cursor files (call.limit - scan.records.length)) scan
      (readPingFiles lib identity call cursor files scan) := by
  induction files generalizing scan with
  | nil => exact .none' same
  | cons file rest ih =>
    obtain ⟨fresh, distinctRest⟩ := nodup_cons.mp distinct
    have sameRest : ∀ other ∈ rest,
        scan.offsets.lookup other.fileId = cursor.offsets.lookup other.fileId :=
      fun other mem => same other (mem_cons_of_mem _ mem)
    have sameFile := same file mem_cons_self
    -- a file whose pending lines are none is passed over
    have passed : pingPending lib call cursor file = [] →
        (readPingFiles lib identity call cursor rest scan).raised = none →
        FilesRead lib identity cursor (file :: rest)
          (callLines lib identity call cursor (file :: rest)
            (call.limit - scan.records.length)) scan
          (readPingFiles lib identity call cursor rest scan) := by
      intro nothing unraisedRest
      have parts : callLines lib identity call cursor (file :: rest)
          (call.limit - scan.records.length) =
            (file.fileId, []) :: callLines lib identity call cursor rest
              (call.limit - scan.records.length) := by
        rw [callLines, nothing]
        rfl
      rw [parts] at affordable ⊢
      exact .skip fresh sameFile (ih scan distinctRest sameRest affordable untruncated unraisedRest)
    unfold readPingFiles at unraised ⊢
    cases known : file.content with
    | none =>
      simp only [known] at unraised ⊢
      exact passed (by simp [pingPending, known]) unraised
    | some content =>
      simp only [known] at unraised ⊢
      cases ended : endedBefore lib call cursor file with
      | true =>
        simp only [ended] at unraised ⊢
        exact passed (by simp [pingPending, known, ended]) unraised
      | false =>
        simp only [ended, Bool.false_eq_true, if_false] at unraised ⊢
        rw [callLines] at affordable ⊢
        simp only [flatMap_cons] at affordable
        have unraisedFile :
            (readPingFile lib identity call cursor file content scan).raised = none := by
          split at unraised
          · exact unraised
          · next continues =>
            simp only [not_or, Option.not_isSome_iff_eq_none] at continues
            exact continues.1
        have readFile := readPingFile_spec known ended sameFile affordable.left unraisedFile
        have wanted : call.limit - scan.records.length -
            (acceptedItems lib identity cursor file.fileId
              (neededLines lib identity cursor file.fileId (pingPending lib call cursor file)
                (call.limit - scan.records.length))).length =
              call.limit - (readPingFile lib identity call cursor file content
                scan).records.length := by
          rw [readFile.length_records]
          omega
        have sameAfter : ∀ other ∈ rest,
            (readPingFile lib identity call cursor file content scan).offsets.lookup
              other.fileId = cursor.offsets.lookup other.fileId := by
          intro other mem
          have different := fileId_ne_of_fresh fresh mem
          rw [readFile.others _ different, sameRest other mem]
        have untruncatedAfter := readFile.truncated.trans untruncated
        have affordableRest := affordable.right readFile
        rw [wanted] at affordableRest ⊢
        refine .cons fresh known sameFile readFile ?_
        split
        · next stops =>
          have full : call.limit ≤
              (readPingFile lib identity call cursor file content scan).records.length := by
            simpa [unraisedFile, untruncatedAfter] using stops
          rw [Nat.sub_eq_zero_of_le full, callLines_zero]
          exact .none' sameAfter
        · next continues =>
          rw [if_neg continues] at unraised
          exact ih _ distinctRest sameAfter affordableRest untruncatedAfter unraised

theorem callItems_ofFile (fileId : String) (distinct : (read.map (·.1)).Nodup) :
    ((callItems lib identity cursor read).filter (·.2 = fileId)).map (·.1) =
      acceptedItems lib identity cursor fileId (linesOf read fileId) := by
  induction read with
  | nil => rfl
  | cons part rest ih =>
    obtain ⟨other, lines⟩ := part
    obtain ⟨fresh, distinctRest⟩ := nodup_cons.mp distinct
    have parts : callItems lib identity cursor ((other, lines) :: rest) =
        (acceptedItems _ _ _ other lines).map (·, other) ++ callItems _ _ _ rest := rfl
    rw [parts, filter_append, map_append, ih distinctRest]
    by_cases same : fileId = other
    · subst same
      have all : ((acceptedItems lib identity cursor fileId lines).map
          (·, fileId)).filter (·.2 = fileId) =
            (acceptedItems lib identity cursor fileId lines).map (·, fileId) := by
        rw [filter_eq_self]
        intro entry mem
        obtain ⟨item, _, rfl⟩ := mem_map.mp mem
        simp
      have items : ((acceptedItems lib identity cursor fileId lines).map
          (·, fileId)).map (·.1) = acceptedItems lib identity cursor fileId lines := by
        rw [map_map]
        exact map_id _
      rw [all, items, linesOf_cons_self, linesOf_of_notMem fresh]
      simp [acceptedItems, lineItems]
    · have none' : ((acceptedItems lib identity cursor other lines).map
          (·, other)).filter (·.2 = fileId) = [] := by
        rw [filter_eq_nil_iff]
        intro entry mem
        obtain ⟨item, _, rfl⟩ := mem_map.mp mem
        simpa using fun equal : other = fileId => same equal.symm
      rw [none', linesOf_cons_ne lines rest same]
      rfl

variable (lib identity cursor) in
/-- The lines that are read of a file are those that some number of records needs. -/
theorem callLines_needed (wanted : Nat) (distinct : (files.map (·.fileId)).Nodup)
    (mem : file ∈ files) :
    ∃ left, linesOf (callLines lib identity call cursor files wanted) file.fileId =
      neededLines lib identity cursor file.fileId (pingPending lib call cursor file) left := by
  induction files generalizing wanted with
  | nil => cases mem
  | cons first others ih =>
    obtain ⟨fresh, distinctOthers⟩ := nodup_cons.mp distinct
    rw [callLines]
    rcases mem_cons.mp mem with rfl | mem
    · rw [linesOf_cons_self]
      exact ⟨wanted, rfl⟩
    · have different := fileId_ne_of_fresh fresh mem
      rw [linesOf_cons_ne _ _ different]
      exact ih _ distinctOthers mem

theorem length_callItems_cons (fileId : String) (lines : List (List UInt8))
    (read : List (String × List (List UInt8))) :
    (callItems lib identity cursor ((fileId, lines) :: read)).length =
      (acceptedItems lib identity cursor fileId lines).length +
        (callItems lib identity cursor read).length := by
  simp [callItems]

/-- All pending lines are needed when fewer records are accepted than are wanted. -/
theorem callLines_of_short (distinct : (files.map (·.fileId)).Nodup) (mem : file ∈ files)
    (short : (callItems lib identity cursor
      (callLines lib identity call cursor files wanted)).length < wanted) :
    linesOf (callLines lib identity call cursor files wanted) file.fileId =
      pingPending lib call cursor file := by
  induction files generalizing wanted with
  | nil => cases mem
  | cons first others ih =>
    obtain ⟨fresh, distinctOthers⟩ := nodup_cons.mp distinct
    rw [callLines, length_callItems_cons] at short
    rw [callLines]
    rcases mem_cons.mp mem with rfl | mem
    · rw [linesOf_cons_self]
      exact neededLines_of_short (by omega)
    · have different := fileId_ne_of_fresh fresh mem
      rw [linesOf_cons_ne _ _ different]
      exact ih distinctOthers mem (by omega)

/-- A call accepts no more records than it wants. -/
theorem length_callLines_le (files : List PingFile) (wanted : Nat) : (callItems lib identity cursor
      (callLines lib identity call cursor files wanted)).length ≤ wanted := by
  induction files generalizing wanted with
  | nil => exact Nat.zero_le _
  | cons file rest ih =>
    rw [callLines, length_callItems_cons]
    have first : (acceptedItems lib identity cursor file.fileId (neededLines _ _ _ file.fileId
          (pingPending lib call cursor file) wanted)).length ≤ wanted :=
      length_neededLines_le _ _ _
    have later := ih (wanted - (acceptedItems lib identity cursor file.fileId
      (neededLines lib identity cursor file.fileId
        (pingPending lib call cursor file) wanted)).length)
    omega

end IncrementalScan

end NetConsole.RawQuery
