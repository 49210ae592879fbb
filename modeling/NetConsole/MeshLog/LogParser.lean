import NetConsole.ApIdentity.Sources
import NetConsole.Foundations.SortedGroups

/-!
# Mesh log lines

`MeshLogParser._parse_record_line`, `filter_invalid_link_count_snapshots` and the
loop over the lines of a log, which carries the radio, the time and the tag of the
last timestamp header. `parse_file` and `parse_mesh_link_table` share the loop and
differ in what a header leaves that cannot be read (`HeaderRules`).

The label and the path of the file are the same for all that one parse returns and are
left out, as are offsets, the duplicate hash, what `stat` says of the file, and its time
range and counts by severity: nothing here reads them.
-/

set_option autoImplicit false

namespace NetConsole.MeshLog

open ApIdentity (matchesEach normalizeMacKey)
open Foundations (groupItems)
open Syslog (isPythonSpace)
open Worker (PythonLibrary strip)
open List

/-- A text by its characters. -/
abbrev Text := List Char

/-- What the parser raises. -/
inductive Raised where
  | osError (message : String)
  | valueError | overflowError
  deriving DecidableEq

/-- The standard library, with `\d` as `isDecimal`, `int(time.timestamp() * 1000)` as
`epochMs` and `int((later - earlier).total_seconds())` as `secondsBetween`. -/
structure LogLibrary (Time : Type) where
  python : PythonLibrary
  isDecimal : Char → Bool
  strptime : Text → String → Option Time
  epochMs : Time → Except Raised Int
  secondsBetween : Time → Time → Int
  isoformat : Time → String

variable {Time : Type} [DecidableEq Time] (lib : LogLibrary Time)

/-! ## Expressions -/

/-- `int(value)`, or nothing where it raises. -/
def parseInt (value : Text) : Option Int :=
  (lib.python.intOfText (String.ofList value)).toOption

/-- `int(digits)`, which refuses only too many digits. -/
def intOfDigits (digits : Text) : Except Raised Int :=
  match parseInt lib digits with
  | some value => .ok value
  | none => .error .valueError

/-- Skip white space, of which there is some. -/
def skipSpaces : Text → Option Text
  | [] => none
  | char :: rest =>
    if isPythonSpace char then some (rest.dropWhile isPythonSpace) else none

/-- Digits between two brackets, and what follows. -/
def enclosedDigits (left right : Char) : Text → Option (Text × Text)
  | [] => none
  | char :: rest =>
    if char = left ∧ rest.takeWhile lib.isDecimal ≠ [] ∧
        (rest.dropWhile lib.isDecimal).head? = some right then
      some (rest.takeWhile lib.isDecimal, (rest.dropWhile lib.isDecimal).tail)
    else none

/-- Characters of a fixed form, and what follows. -/
def takeForm (form : List (Char → Bool)) (text : Text) : Option (Text × Text) :=
  if matchesEach form (text.take form.length) then
    some (text.take form.length, text.drop form.length)
  else none

/-- A point and up to six digits, or nothing. -/
def fraction : Text → Text
  | '.' :: rest =>
    let digits := (rest.takeWhile lib.isDecimal).take 6
    if digits = [] then [] else '.' :: digits
  | _ => []

/-- `(?:\s+.*)?$`. -/
def endsHeader (text : Text) : Bool :=
  text = [] || (skipSpaces text).any fun rest => '\n' ∉ rest

/-- The groups of `TIMESTAMP_RE`. -/
structure TimestampMatch where
  (radio date time : Text)
  tag : Option Text

/-- `TIMESTAMP_RE.match` on a stripped text. Digits and white space exclude each other,
so the only choice is whether a number in parentheses is the tag or part of the rest. -/
def matchTimestamp (stripped : Text) : Option TimestampMatch := do
  let digit := lib.isDecimal
  let separator : Char → Bool := fun char => char = '/' || char = '-'
  let colon : Char → Bool := (· = ':')
  let (radio, text) ← enclosedDigits lib '[' ']' stripped
  let text ← skipSpaces text
  let (date, text) ← takeForm [digit, digit, digit, digit, separator, digit, digit, separator,
    digit, digit] text
  let text ← skipSpaces text
  let (clock, text) ← takeForm [digit, digit, colon, digit, digit, colon, digit, digit] text
  let part := fraction lib text
  let rest := text.drop part.length
  let tag := (skipSpaces rest).bind fun text =>
    (enclosedDigits lib '(' ')' text).bind fun (tag, text) =>
      if endsHeader text then some tag else none
  if tag.isSome || endsHeader rest then some ⟨radio, date, clock ++ part, tag⟩ else none

/-- The time of a header line, with or without a fraction. -/
def parseDatetime (date time : Text) : Option Time :=
  let text := date.map (fun char => if char = '-' then '/' else char) ++ ' ' :: time
  (lib.strptime text "%Y/%m/%d %H:%M:%S.%f").orElse fun _ =>
    lib.strptime text "%Y/%m/%d %H:%M:%S"

/-- `_parse_sample_time`; nothing stands for a `ValueError`. -/
def parseSampleTime (date time : Text) : Option Time :=
  (parseDatetime lib date time).orElse fun _ =>
    lib.strptime (date ++ ' ' :: time) "%Y/%m/%d %H:%M:%S"

/-- `re.split(r"\s+", stripped)`, of a text without white space at its ends. -/
def splitSpaces (stripped : Text) : List Text :=
  (stripped.splitOnP isPythonSpace).filter (· ≠ [])

/-- The number of a radio in brackets. -/
def stripRadio (value : Text) : Except Raised (Option Int) :=
  match enclosedDigits lib '[' ']' value with
  | some (digits, []) => some <$> intOfDigits lib digits
  | _ => .ok none

/-- The states of a link. -/
inductive LinkState where
  | active | standby
  deriving DecidableEq

/-- `parse_link_state`: "standy" is taken for standby. -/
def parseLinkState (raw : Text) : Option LinkState :=
  let text := (lib.python.casefold (String.ofList (strip raw))).toList
  if "active".toList <:+: text then some .active
  else if "standby".toList <:+: text ∨ "standy".toList <:+: text then some .standby
  else if strip raw = "Active".toList then some .active
  else if strip raw = "Standy".toList ∨ strip raw = "Standby".toList then some .standby
  else none

/-- The MAC address with colons, where there is one. -/
def normalizeMac (value : Text) : Option String :=
  match normalizeMacKey lib.python (.str (String.ofList value)) with
  | none => none
  | some key =>
    if key = "" then none
    else some (":".intercalate ((List.range 6).map fun index =>
      String.ofList ((key.toList.drop (2 * index)).take 2)))

/-- The digits before a unit, `fullmatch(r"\d+d")`. -/
def unitDigits (unit : Char) (part : Text) : Option Text :=
  let digits := part.takeWhile lib.isDecimal
  if digits ≠ [] ∧ part.dropWhile lib.isDecimal = [unit] then some digits else none

/-- The seconds of a duration in days, hours, minutes and seconds. -/
def parseDurationSeconds (parts : List Text) : Except Raised (Option Int) :=
  match parts with
  | [days, hours, minutes, seconds] =>
    match unitDigits lib 'd' days, unitDigits lib 'h' hours,
        unitDigits lib 'm' minutes, unitDigits lib 's' seconds with
    | some days, some hours, some minutes, some seconds => do
      return some ((← intOfDigits lib days) * 86400 + (← intOfDigits lib hours) * 3600 +
        (← intOfDigits lib minutes) * 60 + (← intOfDigits lib seconds))
    | _, _, _, _ => .ok none
  | _ => .ok none

/-- The two numbers of a pair, and whether the token is one. -/
def parsePairToken (token : Text) (percent : Bool) : Option Int × Option Int × Bool :=
  if '/' ∉ token then (none, none, false)
  else
    let number := fun side : Text =>
      parseInt lib (if percent then side.rdropWhile (· = '%') else side)
    let left := number (token.takeWhile (· ≠ '/'))
    let right := number (token.dropWhile (· ≠ '/')).tail
    (left, right, left.isSome && right.isSome)

/-- The names of the paired metrics, and their fields. -/
def pairedMetrics : List (String × String × String) :=
  [("rssi", "local_rssi_db", "peer_rssi_db"), ("cpu", "local_cpu_percent", "peer_cpu_percent"),
    ("mem", "local_mem_percent", "peer_mem_percent"), ("tx_busy", "local_tx_busy", "peer_tx_busy"),
    ("rx_busy", "local_rx_busy", "peer_rx_busy"), ("rate", "local_rate_raw", "peer_rate_raw"),
    ("noise", "local_noise_raw", "peer_noise_raw"),
    ("tx_des_free_cnt", "local_tx_des_free_cnt", "peer_tx_des_free_cnt"),
    ("tx", "local_tx", "peer_tx"), ("rx", "local_rx", "peer_rx"),
    ("retry", "local_retry", "peer_retry"), ("err", "local_err", "peer_err"),
    ("garp", "local_tx_garp", "peer_rx_garp"),
    ("mul_join", "local_tx_mul_join", "peer_rx_mul_join")]

/-- The metrics of a record by field; those not given are missing. -/
abbrev Metrics := List (String × Option Int)

/-- The negated noise, if it is positive. -/
def noiseDbm (metrics : Metrics) (key : String) : Option Int :=
  match (metrics.lookup key).join with
  | some noise => if noise > 0 then some (-noise) else none
  | none => none

/-- `calculate_signal` for one side, from its noise in dBm. -/
def signalDbm (metrics : Metrics) (rssiKey : String) (noise : Option Int) : Option Int :=
  match (metrics.lookup rssiKey).join, noise with
  | some rssi, some noise => if rssi > 0 then some (rssi + noise) else none
  | _, _ => none

/-! ## Records -/

/-- A record of the log. -/
structure MeshLogRecord (Time : Type) where
  sourceLineNumber : Nat
  rawLine : Text
  radio : Int
  sampleTime : Time
  timestampTag : Option Text
  linkStateRaw : Text
  linkState : LinkState
  peerMacRaw : Text
  peerMacNormalized : Option String
  establishTime : Option Time
  durationText : Text
  durationSeconds : Option Int
  linkCount : Int
  metrics : Metrics
  (localNoiseDbm peerNoiseDbm localSignalDbm peerSignalDbm : Option Int)
  sampleTimeEpochMs : Int
  (expectedDurationSeconds durationDeviationSeconds : Option Int)
  deriving DecidableEq

/-- A complaint about a line. -/
structure ParseIssue where
  lineNumber : Nat
  (issueType message : String)
  rawLine : Text
  (severity fieldName : String)

/-- The type of the issues about whole snapshots. -/
def snapshotType : String := "无效主链快照"

/-- A complaint about a row, not about a snapshot. -/
structure RowIssue extends ParseIssue where
  ofRow : issueType ≠ snapshotType

/-- Where a line stands. -/
structure LineSource where
  lineNumber : Nat
  rawLine : Text

/-- A warning about a line. -/
def LineSource.issue (source : LineSource) (issueType message : String)
    (ofRow : issueType ≠ snapshotType := by decide) : RowIssue :=
  ⟨⟨source.lineNumber, issueType, message, source.rawLine, "WARNING", ""⟩, ofRow⟩

/-- A complaint about the link count of a line. -/
def LineSource.linkCountIssue (source : LineSource) (issueType message severity : String)
    (ofRow : issueType ≠ snapshotType := by decide) : RowIssue :=
  ⟨⟨source.lineNumber, issueType, message, source.rawLine, severity, "LinkCnt"⟩, ofRow⟩

/-- What the last timestamp header left. -/
structure HeaderState (Time : Type) where
  radio : Option Int
  sampleTime : Option Time
  tag : Option Text
  deriving DecidableEq

/-- `_parse_record_line` from the radio field on. -/
def readFields (source : LineSource) (sampleTime : Time) (tag : Option Text) (parts : List Text)
    (linkCount : Int) (issues : List RowIssue) :
    Except Raised (Option (MeshLogRecord Time) × List RowIssue) := do
  let part := fun index => parts.getD index []
  match ← stripRadio lib (part 0) with
  | none => return (none, issues ++ [source.issue "字段数量不足" "记录行缺少Radio字段"])
  | some radio =>
    match parseLinkState lib (part 1) with
    | none => return (none, issues ++ [source.issue "无法识别链路状态" (String.ofList (part 1))])
    | some linkState =>
      let peerMac := normalizeMac lib (part 2)
      let establish := parseDatetime lib (part 3) (part 4)
      let duration ← parseDurationSeconds lib ((parts.drop 5).take 4)
      let pairs := pairedMetrics.zipIdx.map fun (metric, index) =>
        let token := ((parts.drop 10).take 14).getD index []
        (metric, token, parsePairToken lib token (metric.1 = "cpu" || metric.1 = "mem"))
      let metrics : Metrics := pairs.flatMap fun (metric, _, pair) =>
        [(metric.2.1, pair.1), (metric.2.2, pair.2.1)]
      let epoch ← lib.epochMs sampleTime
      let expected := (establish.map fun time => lib.secondsBetween sampleTime time).filter
        (0 ≤ ·)
      let localNoise := noiseDbm metrics "local_noise_raw"
      let peerNoise := noiseDbm metrics "peer_noise_raw"
      return (some {
          sourceLineNumber := source.lineNumber, rawLine := source.rawLine, radio := radio
          sampleTime := sampleTime, timestampTag := tag, linkStateRaw := part 1
          linkState := linkState, peerMacRaw := part 2, peerMacNormalized := peerMac
          establishTime := establish, durationText := [' '].intercalate ((parts.drop 5).take 4)
          durationSeconds := duration, linkCount := linkCount, metrics := metrics
          localNoiseDbm := localNoise, peerNoiseDbm := peerNoise
          localSignalDbm := signalDbm metrics "local_rssi_db" localNoise
          peerSignalDbm := signalDbm metrics "peer_rssi_db" peerNoise, sampleTimeEpochMs := epoch
          expectedDurationSeconds := expected
          durationDeviationSeconds := duration.bind fun seconds => expected.map (seconds - ·) },
        issues ++
          (if peerMac = none then [source.issue "MAC格式异常" (String.ofList (part 2))] else []) ++
          (if establish = none then
            [source.issue "时间格式异常" (String.ofList (part 3 ++ ' ' :: part 4))] else []) ++
          (pairs.filter fun (_, _, pair) => !pair.2.2).map fun (metric, token, _) =>
            source.issue "指标格式异常" (metric.1 ++ ": " ++ String.ofList token))

/-- The record of a row, or the complaints about it. -/
def parseRecordLine (stripped : Text) (source : LineSource) (state : HeaderState Time) :
    Except Raised (Option (MeshLogRecord Time) × List RowIssue) :=
  match state.sampleTime, state.radio with
  | some sampleTime, some _ =>
    let parts := splitSpaces stripped
    if parts.length < 23 then
      .ok (none, [source.issue "字段数量不足" ("字段数量不足：" ++ toString parts.length)])
    else
      match parseInt lib (parts.getD 9 []) with
      | none => .ok (none, [source.linkCountIssue "LinkCnt 格式异常"
          ("无法识别 LinkCnt：" ++ String.ofList (parts.getD 9 []) ++ "；该记录已忽略。") "WARNING"])
      | some linkCount =>
        if linkCount < 0 then
          .ok (none, [source.linkCountIssue "LinkCnt 值异常"
            ("LinkCnt 不能为负数：" ++ toString linkCount ++ "；该记录已忽略。") "WARNING"])
        else
          readFields lib source sampleTime state.tag parts linkCount
            (if linkCount = 0 then [source.linkCountIssue "无效 LinkCnt 槽位"
                "LinkCnt=0 是驱动层无效槽位；将按所属采样快照在链路事实层过滤。" "INFO"]
              else if 2 < linkCount then [source.linkCountIssue "扩展 LinkCnt 值"
                ("保留 LinkCnt=" ++ toString linkCount ++ " 作为有效链路事实；请结合设备协议确认其拓扑语义。") "WARNING"]
              else [])
  | _, _ => .ok (none, [source.issue "缺少采样时间" "记录行前没有有效采样时间"])

/-! ## Snapshots -/

/-- The radio, the time and the time tag of a snapshot. -/
abbrev SnapshotKey (Time : Type) := Int × Time × Text

/-- The snapshot of a record; no tag and an empty one are the same. -/
def MeshLogRecord.key (record : MeshLogRecord Time) : SnapshotKey Time :=
  (record.radio, record.sampleTime, record.timestampTag.getD [])

/-- An ACTIVE record without links. -/
def MeshLogRecord.IsInvalidActive (record : MeshLogRecord Time) : Prop :=
  record.linkState = .active ∧ record.linkCount = 0

instance (record : MeshLogRecord Time) : Decidable record.IsInvalidActive :=
  inferInstanceAs (Decidable (_ ∧ _))

/-- The issue of a snapshot, if it is invalid. -/
def snapshotIssue (group : SnapshotKey Time × List (MeshLogRecord Time)) : Option ParseIssue :=
  (group.2.find? fun record => decide record.IsInvalidActive).map fun invalid =>
    let (radio, sampleTime, tag) := group.1
    let tagText := if tag = [] then "" else "（采样标识 " ++ String.ofList tag ++ "）"
    ⟨invalid.sourceLineNumber, snapshotType,
      "Radio " ++ toString radio ++ " 于 " ++ lib.isoformat sampleTime ++ tagText ++
        " 存在 ACTIVE LinkCnt=0，整组 " ++ toString group.2.length ++
        " 条链路记录已在事实层忽略。", invalid.rawLine, "INFO", "LinkCnt"⟩

/-- What `filter_invalid_link_count_snapshots` returns. -/
structure FilteredRecords (Time : Type) where
  records : List (MeshLogRecord Time)
  issues : List ParseIssue
  discarded : Nat
  discardedIssueLines : List Nat

/-- Snapshots with an issue, and rows that count no link, are taken out. -/
def filterInvalidLinkCountSnapshots (records : List (MeshLogRecord Time)) : FilteredRecords Time :=
  let bySnapshot := groupItems MeshLogRecord.key records
  let invalid := bySnapshot.filter fun group => (snapshotIssue lib group).isSome
  let kept := records.filter fun record =>
    record.key ∉ invalid.map Prod.fst ∧ record.linkCount ≠ 0
  { records := kept
    issues := bySnapshot.filterMap (snapshotIssue lib)
    discarded := records.length - kept.length
    discardedIssueLines := (invalid.flatMap Prod.snd).filterMap fun record =>
      if record.linkCount = 0 then some record.sourceLineNumber else none }

/-! ## The loop -/

/-- What a header that cannot be read leaves, and how it is reported. -/
structure HeaderRules (Time : Type) where
  afterError : HeaderState Time → HeaderState Time
  (issueType message : String)
  ofRow : issueType ≠ snapshotType := by decide

/-- The rules of `parse_file`. -/
def fileRules : HeaderRules Time :=
  { afterError state := { state with sampleTime := none }
    issueType := "时间格式异常", message := "采样时间格式异常" }

/-- The rules of `parse_mesh_link_table`, which sets nothing. -/
def tableRules : HeaderRules Time :=
  { afterError state := state
    issueType := "鏃堕棿鏍煎紡寮傚父", message := "閲囨牱鏃堕棿鏍煎紡寮傚父" }

/-- What a line comes to. -/
inductive LineOutcome (Time : Type) where
  | other (issues : List RowIssue)
  | skipped (issues : List RowIssue)
  | record (record : MeshLogRecord Time) (issues : List RowIssue)

def LineOutcome.record? : LineOutcome Time → Option (MeshLogRecord Time)
  | .record parsed _ => some parsed
  | _ => none

def LineOutcome.issues : LineOutcome Time → List RowIssue
  | .other issues | .skipped issues | .record _ issues => issues

def LineOutcome.isSkipped : LineOutcome Time → Bool
  | .skipped _ => true
  | _ => false

variable (rules : HeaderRules Time)

/-- The state after a header. The radio is set before the time is read. -/
def readHeader (state : HeaderState Time) (header : TimestampMatch) : HeaderState Time × Bool :=
  match parseInt lib header.radio with
  | none => (rules.afterError state, false)
  | some radio =>
    match parseSampleTime lib header.date header.time with
    | none => (rules.afterError { state with radio := some radio }, false)
    | some time => (⟨some radio, some time, header.tag⟩, true)

/-- `line.rstrip("\r\n")`. -/
def rawOf (line : Text) : Text :=
  line.rdropWhile fun char => char = '\r' || char = '\n'

/-- One round of the loop over the lines. -/
def readLine (number : Nat) (state : HeaderState Time) (line : Text) :
    Except Raised (HeaderState Time × LineOutcome Time) :=
  let source : LineSource := ⟨number, rawOf line⟩
  let stripped := strip (rawOf line)
  match matchTimestamp lib stripped with
  | some header =>
    let (after, wellFormed) := readHeader lib rules state header
    .ok (after, .other (if wellFormed then []
      else [source.issue rules.issueType rules.message rules.ofRow]))
  | none =>
    if stripped.head? = some '[' then
      match parseRecordLine lib stripped source state with
      | .error raised => .error raised
      | .ok (none, issues) => .ok (state, .skipped issues)
      | .ok (some record, issues) => .ok (state, .record record issues)
    else .ok (state, .other [])

/-- The loop: what the lines add, in order, up to the one that raises. -/
def readLines : Nat → HeaderState Time → List Text → List (LineOutcome Time) × Option Raised
  | _, _, [] => ([], none)
  | number, state, line :: rest =>
    match readLine lib rules number state line with
    | .error raised => ([], some raised)
    | .ok (after, outcome) =>
      let (outcomes, raised) := readLines (number + 1) after rest
      (outcome :: outcomes, raised)

/-- Before the first line. -/
def HeaderState.start : HeaderState Time := ⟨none, none, none⟩

/-- A record and its `record_seq`. -/
abbrev Numbered (Time : Type) := MeshLogRecord Time × Nat

/-- The records and the issues at the end of a parse. -/
def finish (outcomes : List (LineOutcome Time)) (issues : List RowIssue) :
    List (Numbered Time) × List ParseIssue :=
  let filtered := filterInvalidLinkCountSnapshots lib (outcomes.filterMap LineOutcome.record?)
  (filtered.records.zipIdx 1,
    (issues.filter fun issue => !(issue.issueType = "无效 LinkCnt 槽位" &&
      issue.lineNumber ∈ filtered.discardedIssueLines)).map RowIssue.toParseIssue ++
        filtered.issues)

/-- What `parse_file` notes of a file. -/
structure ImportedLogFile where
  (status errorMessage : String)
  (recordCount skippedCount linesRead : Nat)

/-- `MeshLogParser.parse_file` over the decoded lines of a file, not cancelled: an
`OSError` of a time ends the loop, any other exception leaves the function. -/
def parseFile (lines : List Text) :
    Except Raised (ImportedLogFile × List (Numbered Time) × List ParseIssue) :=
  let (outcomes, raised) := readLines lib fileRules 1 .start lines
  let close := fun (status message : String) (read : Nat) (failure : List RowIssue) =>
    let (records, issues) := finish lib outcomes
      (outcomes.flatMap LineOutcome.issues ++ failure)
    let parsed := outcomes.filterMap LineOutcome.record?
    ({ status := status
       errorMessage := message, recordCount := records.length
       skippedCount := outcomes.countP LineOutcome.isSkipped +
         (filterInvalidLinkCountSnapshots lib parsed).discarded
       linesRead := read }, records, issues)
  match raised with
  | none => .ok (close "done" "" outcomes.length [])
  | some (.osError message) => .ok (close "failed" message (outcomes.length + 1)
      [LineSource.issue ⟨0, []⟩ "文件读取失败" message])
  | some raised => .error raised

/-- The lines of a text, each with the character that ends it. -/
def pieces (isEnd : Char → Bool) : Text → List Text
  | [] => []
  | char :: rest =>
    if isEnd char then [char] :: pieces isEnd rest
    else
      match pieces isEnd rest with
      | [] => [[char]]
      | line :: lines => (char :: line) :: lines

/-- `\r\n` becomes `\n`. -/
def joinCrlf : Text → Text
  | '\r' :: '\n' :: rest => '\n' :: joinCrlf rest
  | char :: rest => char :: joinCrlf rest
  | [] => []

/-- The characters at which `str.splitlines` splits. -/
def isLineEnd (char : Char) : Bool :=
  let code := char.toNat
  (10 ≤ code && code ≤ 13) || (28 ≤ code && code ≤ 30) || code ∈ [133, 8232, 8233]

/-- `text.splitlines()`. -/
def splitLines (text : Text) : List Text :=
  (pieces isLineEnd (joinCrlf text)).map fun line => line.rdropWhile isLineEnd

/-- The text without U+FEFF, with `\n` at the ends of its lines. -/
def cleanDeviceText (text : Text) : Text :=
  (joinCrlf (text.filter (· ≠ '\ufeff'))).map fun char =>
    if char = '\r' then '\n' else char

theorem joinCrlf_eq {text : Text} (noReturn : '\r' ∉ text) : joinCrlf text = text := by
  induction text with
  | nil => rfl
  | cons char rest ih =>
    have own : char ≠ '\r' := fun same => noReturn (same ▸ mem_cons_self)
    rw [joinCrlf.eq_2, ih fun mem => noReturn (mem_cons_of_mem _ mem)]
    exact fun _ same => absurd same own

theorem mem_of_mem_pieces {isEnd : Char → Bool} {text line : Text} {char : Char}
    (isLine : line ∈ pieces isEnd text) (mem : char ∈ line) : char ∈ text := by
  induction text generalizing line with
  | nil => cases isLine
  | cons first rest ih =>
    rw [pieces] at isLine
    split at isLine
    · rcases mem_cons.mp isLine with rfl | isLine
      · simp_all
      · exact mem_cons_of_mem _ (ih isLine mem)
    · split at isLine
      · simp_all
      · next equal =>
        rcases mem_cons.mp isLine with rfl | isLine
        · rcases mem_cons.mp mem with rfl | mem
          · exact mem_cons_self
          · exact mem_cons_of_mem _ (ih (equal ▸ mem_cons_self) mem)
        · exact mem_cons_of_mem _ (ih (equal ▸ mem_cons_of_mem _ isLine) mem)

theorem cleanDeviceText_eq {text : Text} (noReturn : '\r' ∉ text) :
    cleanDeviceText text = text.filter (· ≠ '\ufeff') := by
  have clean : '\r' ∉ text.filter (· ≠ '\ufeff') :=
    fun mem => noReturn (mem_filter.mp mem).1
  rw [cleanDeviceText, joinCrlf_eq clean]
  conv_rhs => rw [← map_id (text.filter (· ≠ '\ufeff'))]
  apply map_congr_left
  intro char mem
  rw [if_neg]
  · rfl
  · rintro rfl
    exact clean mem

/-- `_iter_decoded_lines` of an uncompressed UTF-8 file. -/
def decodedLines (content : Text) : List Text := (pieces (· = '\n') content).map cleanDeviceText

/-- `parse_mesh_link_table`, without an initial radio and sample time. -/
def parseMeshLinkTable (text : Text) : Except Raised (List (Numbered Time) × List ParseIssue) :=
  match readLines lib tableRules 1 .start (splitLines text) with
  | (_, some raised) => .error raised
  | (outcomes, none) => .ok (finish lib outcomes (outcomes.flatMap LineOutcome.issues))

end NetConsole.MeshLog
