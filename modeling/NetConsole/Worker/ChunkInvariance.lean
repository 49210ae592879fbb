import NetConsole.Worker.LineEffects

/-!
# Chunk invariance of the worker stream

The reader's pipe may cut a worker's output anywhere. The outcome of a run does
not depend on the cuts when no cut is refused as a whole and nothing but white
space follows a line that raises (`Steady`), or when every cut that shows
anything shows the same protocol error (`Uniform`); in no other case
(`chunkInvariant_iff`).

The condition is needed: a byte that does not decode, behind complete lines,
takes the lines of its chunk with it, and an unfinished line is measured before
the complete lines in front of it are taken, blanks and all.
-/

set_option autoImplicit false

namespace NetConsole.Worker

open Foundations List
open Syslog (isPythonSpace stripWhere)

variable (lib : PythonLibrary) (job : BackgroundJob)

/-! ## The property and its condition -/

/-- Every two ways of cutting the stream have the same outcome. -/
def ChunkInvariant (start : RuntimeTask) (exitCode : Int) (bytes : List UInt8) : Prop :=
  ∀ first second : List (List UInt8), first.flatten = bytes → second.flatten = bytes →
    runChunks lib start first exitCode = runChunks lib start second exitCode

/-- No beginning of the stream is refused as a whole, and where a line raised,
every cut is between two characters with only white space behind the line. -/
structure Steady (bytes : List UInt8) : Prop where
  accepted : ∀ first second, first ++ second = bytes → chunkError first = none
  raisesLast : ∀ first second, first ++ second = bytes →
    firstStop lib job (completeLines first) = some .raises → Idle first

/-- What is seen first of a stream that arrives in one chunk. -/
def verdict (bytes : List UInt8) : Option LineEffect :=
  match chunkError bytes with
  | some error => some (.fails error)
  | none => firstVisible lib job (completeLines bytes)

/-- The whole stream is refused, and no beginning of it shows anything but the
same error. -/
structure Uniform (error : ProtocolError) (bytes : List UInt8) : Prop where
  everyCut : ∀ first second, first ++ second = bytes →
    verdict lib job first = none ∨ verdict lib job first = some (.fails error)
  whole : verdict lib job bytes = some (.fails error)

variable {lib job}

/-! ## What the outcome of a run depends on -/

variable {error : ProtocolError} {other task : RuntimeTask}

theorem complete_of_failed (exitCode : Int) (shell : task.shell = other.shell)
    (published : task.progress.published = other.progress.published)
    (failed : task.progress.protocolError = some error)
    (otherFailed : other.progress.protocolError = some error) :
    complete lib task exitCode = complete lib other exitCode := by
  have sameJob : task.job = other.job := congrArg Prod.fst shell
  simp only [complete, flushDecoders, acceptRemainder, failed, otherFailed, Option.isSome_some,
    if_true, true_or, terminalPayload, sameJob, published]

variable {task : RuntimeTask}

variable (lib) in
theorem complete_failed (exitCode : Int) (failed : task.progress.protocolError = some error) :
    (complete lib task exitCode).failure = some error ∧ (complete lib task exitCode).ended.isSome ∧
      ∃ payload state, (complete lib task exitCode).published =
        task.progress.published ++ [⟨payload, "service"⟩, ⟨state, "service"⟩] := by
  simp only [complete, flushDecoders, acceptRemainder, failed, Option.isSome_some, if_true, true_or]
  exact ⟨trivial, trivial, _, _, rfl⟩

/-- Between characters and after white space, the buffers do not matter. -/
theorem complete_of_idle (exitCode : Int) (shell : task.shell = other.shell)
    (progress : task.progress = other.progress) (decoder : task.stdoutDecoder.owed = 0)
    (otherDecoder : other.stdoutDecoder.owed = 0) (blank : strip task.stdoutBuffer = [])
    (otherBlank : strip other.stdoutBuffer = []) :
    complete lib task exitCode = complete lib other exitCode := by
  simp only [RuntimeTask.shell, Prod.mk.injEq] at shell
  obtain ⟨sameJob, cancel, stderr, stderrDecoder⟩ := shell
  have flushed : flushDecoders task = flushDecoders other := by
    simp only [flushDecoders, progress, decoder, otherDecoder, stderrDecoder]
  simp only [complete, flushed, acceptRemainder, blank, otherBlank, or_true, if_true,
    terminalPayload, exitMessage, sameJob, cancel, stderr]

/-- Between characters and after white space, a live task has no failure. -/
theorem complete_idle (exitCode : Int) (alive : task.progress.protocolError = none)
    (decoder : task.stdoutDecoder.owed = 0) (stderr : task.stderrDecoder.owed = 0)
    (blank : strip task.stdoutBuffer = []) : (complete lib task exitCode).failure = none ∧
      (complete lib task exitCode).ended.isSome := by
  have flushed : flushDecoders task = task.progress := by
    simp [flushDecoders, decoder, stderr]
  simp only [complete, flushed, acceptRemainder, blank, or_true, if_true]
  exact ⟨alive, rfl⟩

theorem complete_unfinished (exitCode : Int) (alive : task.progress.protocolError = none)
    (owed : task.stdoutDecoder.owed ≠ 0) : (complete lib task exitCode).failure ≠ none := by
  have flushed : (flushDecoders task).protocolError = some (decodeFailed "stdout") := by
    simp [flushDecoders, failProtocol, alive, owed]
  simp [complete, acceptRemainder, flushed]

theorem flushDecoders_cases (alive : task.progress.protocolError = none) :
    flushDecoders task = task.progress ∨
      ∃ stream, (flushDecoders task).protocolError = some (decodeFailed stream) := by
  unfold flushDecoders
  split_ifs
  · exact .inl rfl
  · exact .inr ⟨"stdout", by simp [failProtocol, alive]⟩
  · exact .inr ⟨"stderr", by simp [failProtocol, alive]⟩
  · exact .inl rfl

theorem complete_visible {char : Char} (exitCode : Int)
    (alive : task.progress.protocolError = none) (visible : isPythonSpace char = false)
    (buffer : strip task.stdoutBuffer = [char]) : (complete lib task exitCode).failure ≠ none ∨
      (complete lib task exitCode).ended = none := by
  rcases flushDecoders_cases alive with flushed | ⟨_, flushed⟩
  · simp only [complete, flushed, acceptRemainder, alive, buffer, Option.isSome_none, reduceCtorEq,
      or_self, if_false]
    split
    · exact .inr rfl
    · next after accepted =>
      left
      split at accepted
      · cases accepted
        simp [failProtocol, alive]
      · split at accepted
        · cases accepted
        · cases accepted
          simp [failProtocol, alive]
        · next event parsed =>
          exact absurd parsed (parseWorkerEventLine_oneCharacter _ visible event)
  · left
    simp [complete, acceptRemainder, flushed]

variable {progress : Progress}

/-- The failure that an event causes has no frame size. -/
theorem acceptWorkerEvent_unsized (alive : progress.protocolError = none) {event : Event}
    (failed : (acceptWorkerEvent lib job progress event).protocolError = some error) :
    error.frameBytes = none := by
  rw [(acceptWorkerEvent_eq alive event).1] at failed
  simp only [eventEffect] at failed
  generalize (if isWebExportTask job.taskType then sanitizeWebExportEvent _ event
    else event) = accepted at failed
  split at failed
  · cases failed
    rfl
  · split at failed
    · cases failed
      rfl
    · split at failed
      · simp [LineEffect.apply, alive] at failed
      · split at failed <;> simp [LineEffect.apply, alive] at failed

theorem complete_failure_unsized (exitCode : Int) (alive : task.progress.protocolError = none)
    (small : encodedLength task.stdoutBuffer ≤ workerProtocolMaxFrameBytes)
    (failed : (complete lib task exitCode).failure = some error) : error.frameBytes = none := by
  rcases flushDecoders_cases alive with flushed | ⟨_, flushed⟩
  · simp only [complete, flushed, acceptRemainder, Nat.not_lt.mpr small, if_false] at failed
    split at failed
    · simp [alive] at failed
    · next after accepted =>
      split at accepted
      · cases accepted
        simp [alive] at failed
      · split at accepted
        · cases accepted
        · cases accepted
          simp only [failProtocol, alive, Option.some.injEq] at failed
          subst failed
          rfl
        · cases accepted
          exact acceptWorkerEvent_unsized alive failed
  · simp only [complete, acceptRemainder, flushed, Option.isSome_some, true_or, if_true,
      Option.some.injEq] at failed
    subst failed
    rfl

theorem published_failProtocol (progress : Progress) (error : ProtocolError) :
    (failProtocol progress error).published = progress.published := by
  unfold failProtocol
  split <;> rfl

theorem published_prefix_failProtocol (progress : Progress) (error : ProtocolError) :
    progress.published <+: (failProtocol progress error).published :=
  (published_failProtocol progress error).symm ▸ prefix_rfl

theorem published_flushDecoders (task : RuntimeTask) :
    (flushDecoders task).published = task.progress.published := by
  unfold flushDecoders
  split_ifs <;> simp only [published_failProtocol]

theorem published_prefix_acceptWorkerEvent (progress : Progress) (event : Event) :
    progress.published <+: (acceptWorkerEvent lib job progress event).published := by
  simp only [acceptWorkerEvent]
  generalize (if isWebExportTask job.taskType then sanitizeWebExportEvent _ event
    else event) = accepted
  split
  · exact published_prefix_failProtocol _ _
  · split
    · exact published_prefix_failProtocol _ _
    · split
      · exact prefix_rfl
      · split
        · exact prefix_append _ _
        · exact prefix_rfl

theorem published_prefix_acceptRemainder {after : Progress} {buffer : List Char}
    (accepted : acceptRemainder lib job progress buffer = some after) :
    progress.published <+: after.published := by
  unfold acceptRemainder at accepted
  split at accepted
  · cases accepted
    exact prefix_rfl
  · split at accepted
    · cases accepted
      exact published_prefix_failProtocol _ _
    · split at accepted
      · cases accepted
      · cases accepted
        exact published_prefix_failProtocol _ _
      · cases accepted
        exact published_prefix_acceptWorkerEvent _ _

theorem published_prefix_complete (task : RuntimeTask) (exitCode : Int) :
    task.progress.published <+: (complete lib task exitCode).published := by
  rw [← published_flushDecoders]
  unfold complete
  dsimp only
  split
  · exact prefix_rfl
  · next after accepted =>
    exact (published_prefix_acceptRemainder accepted).trans (prefix_append _ _)

variable (lib) in
theorem published_prefix_feedStdout (task : RuntimeTask) (chunk : List UInt8) :
    task.progress.published <+: (feedStdout lib task chunk).1.progress.published := by
  unfold feedStdout
  split
  · exact prefix_rfl
  · next alive =>
    split
    · exact published_prefix_failProtocol _ _
    · unfold feedStdoutText
      dsimp only
      split
      · exact published_prefix_failProtocol _ _
      · exact published_prefix_acceptLines _ _ (by simpa using alive)

variable (lib) in
theorem published_prefix_readPipe (task : RuntimeTask) (chunks : List (List UInt8)) :
    task.progress.published <+: (readPipe lib task chunks).progress.published := by
  induction chunks generalizing task with
  | nil => exact prefix_rfl
  | cons chunk rest ih =>
    have one := published_prefix_feedStdout lib task chunk
    by_cases goesOn : (feedStdout lib task chunk).2 = .goesOn
    · rw [readPipe_goesOn _ goesOn]
      exact one.trans (ih _)
    · rw [readPipe_stopped _ goesOn]
      exact one

/-! ## A first chunk -/

/-- A signal other than going on tells which effect stopped the lines. -/
theorem firstStop_of_signal (lines : List (List Char)) :
    (stopSignal (firstStop lib job lines) = .fatal →
      ∃ error, firstStop lib job lines = some (.fails error)) ∧
    (stopSignal (firstStop lib job lines) = .raised → firstStop lib job lines = some .raises) := by
  cases found : firstStop lib job lines with
  | none => simp [stopSignal]
  | some effect =>
    have stops := List.find?_some found
    cases effect <;> simp_all [LineEffect.stops, stopSignal]

theorem firstStop_append {lines : List (List Char)} {effect : LineEffect}
    (stopped : firstStop lib job lines = some effect) (more : List (List Char)) :
    firstStop lib job (lines ++ more) = some effect := by
  simp only [firstStop, map_append, List.find?_append] at stopped ⊢
  rw [stopped]
  rfl

theorem completeLines_append {first second : List UInt8}
    (accepted : chunkError (first ++ second) = none) :
    ∃ more, completeLines (first ++ second) = completeLines first ++ more := by
  obtain ⟨_, _, decoded, -⟩ := chunkError_eq_none.mp accepted
  obtain ⟨middle, output, rest, before, -, rfl⟩ := decode_cut decoded
  refine ⟨(frames '\n' ((frames '\n' output).2 ++ rest)).1, ?_⟩
  simp only [completeLines, decoded, before]
  rw [frames_append]

section Launched

variable {cancelRequested : Bool} {stderr : List Char} {start : RuntimeTask}
  {bytes first second : List UInt8} (lib) (launch : start = launched job cancelRequested stderr)
include launch

omit lib in
theorem launched_start : start.job = job ∧ start.progress = ⟨[], none, none⟩ := by
  subst launch
  exact ⟨rfl, rfl⟩

variable (accepted : chunkError bytes = none)
include accepted

theorem feedStdout_launched : ∃ decoder text, decode .start bytes = some (decoder, text) ∧
      completeLines bytes = (frames '\n' text).1 ∧
      feedStdout lib start bytes = ({ start with
            progress := (acceptLines lib job ⟨[], none, none⟩ (completeLines bytes)).1
            stdoutBuffer := (frames '\n' text).2
            stdoutDecoder := decoder },
          (acceptLines lib job ⟨[], none, none⟩ (completeLines bytes)).2) := by
  obtain ⟨decoder, text, decoded, small⟩ := chunkError_eq_none.mp accepted
  have lines : completeLines bytes = (frames '\n' text).1 := by simp [completeLines, decoded]
  refine ⟨decoder, text, decoded, lines, ?_⟩
  obtain ⟨own, progress⟩ := launched_start launch
  have fresh : start.stdoutDecoder = .start := launch ▸ rfl
  have empty : start.stdoutBuffer = [] := launch ▸ rfl
  simp only [feedStdout, own, progress, Option.isSome_none, Bool.false_eq_true, if_false, fresh,
    decoded, feedStdoutText, empty, nil_append, Nat.not_lt.mpr small, lines]

theorem feedStdout_stop : (feedStdout lib start bytes).2 =
        stopSignal (firstStop lib job (completeLines bytes)) ∧
      (feedStdout lib start bytes).1.progress.protocolError =
        stopError (firstStop lib job (completeLines bytes)) := by
  obtain ⟨_, _, -, -, fed⟩ := feedStdout_launched lib launch accepted
  rw [fed]
  exact acceptLines_stop rfl _

theorem fed_of_goesOn (goesOn : (feedStdout lib start bytes).2 = .goesOn) : Fed lib start bytes
      (feedStdout lib start bytes).1 := by
  obtain ⟨signal, error⟩ := feedStdout_stop lib launch accepted
  obtain ⟨decoder, text, decoded, lines, fed⟩ := feedStdout_launched lib launch accepted
  have none : firstStop lib job (completeLines bytes) = none := by
    rw [goesOn] at signal
    cases found : firstStop lib job (completeLines bytes) with
    | none => rfl
    | some effect => cases effect <;> simp [found, stopSignal] at signal
  rw [none] at error
  rw [fed] at goesOn error ⊢
  refine ⟨⟨text, decoded, rfl, ?_⟩, error, rfl⟩
  rw [← lines, (launched_start launch).1, (launched_start launch).2]
  exact Prod.ext rfl goesOn

omit accepted

variable {task : RuntimeTask}

theorem feedStdout_of_fed (fed : Fed lib start bytes task)
    (accepted : chunkError bytes = none) : feedStdout lib start bytes = (task, .goesOn) := by
  obtain ⟨text, decoded, buffer, lines⟩ := fed.decoded
  obtain ⟨decoder, whole, decodedWhole, framed, equal⟩ :=
    feedStdout_launched lib launch accepted
  obtain ⟨rfl, rfl⟩ : task.stdoutDecoder = decoder ∧ text = whole := by simp_all
  rw [(launched_start launch).1, (launched_start launch).2] at lines
  have accepts : acceptLines lib job ⟨[], none, none⟩ (completeLines bytes) =
      (task.progress, .goesOn) := framed ▸ lines
  rw [equal, accepts, fed.shell, ← buffer]

/-- Where lines stopped, later bytes change no progress. -/
theorem feedStdout_stopped (accepted : chunkError (first ++ second) = none)
    (acceptedFirst : chunkError first = none) (stopped : (feedStdout lib start first).2 ≠ .goesOn) :
    (feedStdout lib start (first ++ second)).1.progress =
      (feedStdout lib start first).1.progress := by
  obtain ⟨_, lines⟩ := completeLines_append accepted
  obtain ⟨_, _, _, _, fed⟩ := feedStdout_launched lib launch accepted
  obtain ⟨_, _, _, _, fedFirst⟩ :=
    feedStdout_launched lib launch acceptedFirst
  rw [fedFirst] at stopped
  rw [fed, fedFirst, lines]
  simp only [acceptLines_append]
  cases equal : acceptLines lib job ⟨[], none, none⟩ (completeLines first) with
  | mk progress signal =>
    rw [equal] at stopped
    cases signal with
    | goesOn => exact absurd rfl stopped
    | fatal => rfl
    | raised => rfl

theorem idle_feedStdout (accepted : chunkError bytes = none) (idle : Idle bytes) :
    (feedStdout lib start bytes).1.stdoutDecoder.owed = 0 ∧
      strip (feedStdout lib start bytes).1.stdoutBuffer = [] := by
  obtain ⟨decoder, text, _, -, fed⟩ := feedStdout_launched lib launch accepted
  obtain ⟨other, whole, decodedWhole, owed, blank⟩ := idle
  obtain ⟨rfl, rfl⟩ : decoder = other ∧ text = whole := by simp_all
  rw [fed]
  exact ⟨owed, blank⟩

/-! ## Steady streams -/

/-- Where a beginning of a steady stream stopped, the rest changes nothing. -/
theorem complete_of_stopped (steady : Steady lib job bytes) (exitCode : Int)
    (cut : first ++ second = bytes) (stopped : (feedStdout lib start first).2 ≠ .goesOn) :
    complete lib (feedStdout lib start first).1 exitCode =
      complete lib (feedStdout lib start bytes).1 exitCode := by
  have accepted := steady.accepted first second cut
  have acceptedWhole := steady.accepted bytes [] (append_nil _)
  have shell : (feedStdout lib start first).1.shell = (feedStdout lib start bytes).1.shell := by
    rw [feedStdout_shell, feedStdout_shell]
  have progress : (feedStdout lib start bytes).1.progress =
      (feedStdout lib start first).1.progress := by
    have same := feedStdout_stopped lib launch (cut ▸ acceptedWhole) accepted stopped
    rwa [cut] at same
  obtain ⟨signal, error⟩ := feedStdout_stop lib launch accepted
  cases ends : (feedStdout lib start first).2 with
  | goesOn => exact absurd ends stopped
  | fatal =>
    obtain ⟨_, stop⟩ := (firstStop_of_signal (completeLines first)).1 (signal ▸ ends)
    rw [stop] at error
    exact complete_of_failed exitCode shell (by rw [progress]) error (by rw [progress, error]; rfl)
  | raised =>
    have raises := (firstStop_of_signal (completeLines first)).2 (signal ▸ ends)
    obtain ⟨more, lines⟩ := completeLines_append (cut ▸ acceptedWhole)
    have raisesWhole : firstStop lib job (completeLines bytes) = some .raises := by
      rw [← cut, lines]
      exact firstStop_append raises more
    obtain ⟨decoder, blank⟩ := idle_feedStdout lib launch accepted
      (steady.raisesLast first second cut raises)
    obtain ⟨decoderWhole, blankWhole⟩ := idle_feedStdout lib launch
      acceptedWhole (steady.raisesLast bytes [] (append_nil _) raisesWhole)
    exact complete_of_idle exitCode shell progress.symm decoder decoderWhole blank blankWhole

variable {chunks : List (List UInt8)} {done : List UInt8}

/-- Any cuts of a steady stream end as the whole stream in one chunk. -/
theorem complete_readPipe_of_steady (steady : Steady lib job bytes) (exitCode : Int)
    (fed : Fed lib start done task) (whole : done ++ chunks.flatten = bytes) :
    complete lib (readPipe lib task chunks) exitCode =
      complete lib (feedStdout lib start bytes).1 exitCode := by
  have acceptedWhole := steady.accepted bytes [] (append_nil _)
  induction chunks generalizing done task with
  | nil =>
    obtain rfl : done = bytes := by simpa using whole
    rw [feedStdout_of_fed lib launch fed acceptedWhole]
    rfl
  | cons chunk rest ih =>
    have cut : (done ++ chunk) ++ rest.flatten = bytes := by simpa using whole
    have accepted := steady.accepted _ _ cut
    have step := feedStdout_append launch fed accepted
    by_cases goesOn : (feedStdout lib task chunk).2 = .goesOn
    · rw [readPipe_goesOn lib goesOn, step]
      rw [step] at goesOn
      exact ih (fed_of_goesOn lib launch accepted goesOn) cut
    · rw [readPipe_stopped lib goesOn, step]
      rw [step] at goesOn
      exact complete_of_stopped lib launch steady exitCode cut goesOn

/-! ## Uniform streams -/

theorem feedStdout_verdict (bytes : List UInt8) :
    (∀ error, verdict lib job bytes = some (.fails error) →
      (feedStdout lib start bytes).2 = .fatal ∧
      (feedStdout lib start bytes).1.progress.protocolError = some error ∧
      (feedStdout lib start bytes).1.progress.published = []) ∧
    (verdict lib job bytes = none → chunkError bytes = none ∧
      (feedStdout lib start bytes).2 = .goesOn) := by
  cases refused : chunkError bytes with
  | some other =>
    simp only [verdict, refused, Option.some.injEq, LineEffect.fails.injEq, reduceCtorEq,
      false_implies, and_true]
    intro error equal
    subst equal
    have refuses := feedStdout_refused (fed_launched lib launch) refused
    rwa [(launched_start launch).2] at refuses
  | none =>
    simp only [verdict, refused, true_and]
    obtain ⟨_, _, _, _, fed⟩ := feedStdout_launched lib launch refused
    obtain ⟨signal, error⟩ := feedStdout_stop lib launch refused
    constructor
    · intro reason visible
      have stop := firstStop_of_firstVisible visible rfl
      rw [stop] at signal error
      refine ⟨signal, error, ?_⟩
      rw [fed]
      have unpublished : ∀ event,
          firstVisible lib job (completeLines bytes) ≠ some (.publishes event) := by
        simp [visible]
      exact acceptLines_unpublished rfl unpublished
    · intro invisible
      rw [firstStop_of_invisible invisible] at signal
      exact signal

/-- A fed task that shows nothing yet has published nothing. -/
theorem published_of_fed (fed : Fed lib start bytes task)
    (invisible : verdict lib job bytes = none) : task.progress.published = [] := by
  obtain ⟨accepted, -⟩ := (feedStdout_verdict lib launch bytes).2 invisible
  obtain ⟨_, _, _, _, equal⟩ := feedStdout_launched lib launch accepted
  rw [feedStdout_of_fed lib launch fed accepted, Prod.mk.injEq] at equal
  have hidden : firstVisible lib job (completeLines bytes) = none := by
    simpa [verdict, accepted] using invisible
  have unpublished : ∀ event,
      firstVisible lib job (completeLines bytes) ≠ some (.publishes event) := by
    simp [hidden]
  rw [equal.1]
  exact acceptLines_unpublished rfl unpublished

variable {error : ProtocolError}

/-- A uniform stream ends with its error, however it is cut. -/
theorem readPipe_of_uniform (uniform : Uniform lib job error bytes) (fed : Fed lib start done task)
    (invisible : verdict lib job done = none) (whole : done ++ chunks.flatten = bytes) :
    (readPipe lib task chunks).progress.protocolError = some error ∧
      (readPipe lib task chunks).progress.published = [] := by
  induction chunks generalizing done task with
  | nil =>
    obtain rfl : done = bytes := by simpa using whole
    rw [uniform.whole] at invisible
    cases invisible
  | cons chunk rest ih =>
    have cut : (done ++ chunk) ++ rest.flatten = bytes := by simpa using whole
    obtain ⟨fails, goes⟩ :=
      feedStdout_verdict lib launch (done ++ chunk)
    rcases uniform.everyCut _ _ cut with hidden | seen
    · obtain ⟨accepted, goesOn⟩ := goes hidden
      have step := feedStdout_append launch fed accepted
      rw [readPipe_goesOn lib (step ▸ goesOn), step]
      exact ih (fed_of_goesOn lib launch accepted goesOn) hidden cut
    · cases refused : chunkError (done ++ chunk) with
      | some other =>
        obtain ⟨fatal, failed, published⟩ := feedStdout_refused fed refused
        obtain rfl : other = error := by simpa [verdict, refused] using seen
        rw [readPipe_stopped lib (by simp [fatal])]
        exact ⟨failed, by rw [published, published_of_fed lib launch fed invisible]⟩
      | none =>
        obtain ⟨fatal, failed, unpublished⟩ := fails error seen
        have step := feedStdout_append launch fed refused
        rw [readPipe_stopped lib (by simp [step, fatal]), step]
        exact ⟨failed, unpublished⟩

/-! ## Cuts that show a difference -/

variable {text : List Char}

omit launch

theorem raising_line (raises : firstStop lib job (frames '\n' text).1 = some .raises) :
    ∃ head tail lines, text = head ++ '\n' :: tail ∧ frames '\n' (head ++ ['\n']) = (lines, []) ∧
      firstStop lib job lines = some .raises := by
  obtain ⟨stops, _, _, cut, unstopped⟩ := List.find?_eq_some_iff_append.mp raises
  obtain ⟨beforeLines, rest, lines, rfl, tail⟩ := map_eq_append_iff.mp cut
  obtain ⟨line, afterLines, rfl, raising, rfl⟩ := map_eq_cons_iff.mp tail
  have whole : frames '\n' text =
      (beforeLines ++ line :: afterLines, (frames '\n' text).2) := by rw [← lines]
  obtain ⟨head, last, equal, framed, -⟩ := frames_cut_after whole
  refine ⟨head, last, _, equal, framed, ?_⟩
  simp only [firstStop, map_append, List.find?_append]
  rw [List.find?_eq_none.mpr (by simpa using unstopped)]
  simp [raising, LineEffect.stops]

theorem runChunks_stopped (exitCode : Int) (stopped : (feedStdout lib start first).2 ≠ .goesOn) :
    runChunks lib start [first, second] exitCode =
      complete lib (feedStdout lib start first).1 exitCode := by
  simp only [runChunks, readPipe_stopped _ stopped]

include launch

/-- Right behind the line that raises, a task ends without a failure. -/
theorem cut_after_raising (exitCode : Int) (accepted : chunkError bytes = none)
    (raises : firstStop lib job (completeLines bytes) = some .raises) :
    ∃ first second, bytes = first ++ second ∧ (feedStdout lib start first).2 ≠ .goesOn ∧
      (complete lib (feedStdout lib start first).1 exitCode).failure = none ∧
      (complete lib (feedStdout lib start first).1 exitCode).ended.isSome := by
  obtain ⟨_, _, decoded, -⟩ := chunkError_eq_none.mp accepted
  simp only [completeLines, decoded] at raises
  obtain ⟨_, _, _, rfl, framed, stop⟩ := raising_line lib raises
  obtain ⟨first, second, cut, decodedFirst, -⟩ := decode_cut_after decoded
  refine ⟨first, second, cut, ?_⟩
  have small : chunkError first = none := by
    simp [chunkError, decodedFirst, framed, encodedLength, workerProtocolMaxFrameBytes]
  have idle : Idle first :=
    ⟨.start, _, decodedFirst, rfl, by rw [framed]; rfl⟩
  have stopFirst : firstStop lib job (completeLines first) = some .raises := by
    simp [completeLines, decodedFirst, framed, stop]
  obtain ⟨signal, error⟩ := feedStdout_stop lib launch small
  rw [stopFirst] at signal error
  obtain ⟨owed, blank⟩ := idle_feedStdout lib launch small idle
  have shell := feedStdout_shell lib start first
  have stderrOwed : (feedStdout lib start first).1.stderrDecoder.owed = 0 := by
    have same : (feedStdout lib start first).1.stderrDecoder = .start :=
          (congrArg (fun part => part.2.2.2) shell).trans (launch ▸ rfl)
    rw [same]
    rfl
  refine ⟨by simp [signal, stopSignal], ?_⟩
  exact complete_idle exitCode error owed stderrOwed blank

omit launch

theorem exists_visible (visible : strip text ≠ []) :
    ∃ char ∈ text, isPythonSpace char = false := by
  by_contra none
  push Not at none
  apply visible
  have blank : text.dropWhile isPythonSpace = [] := by
    rw [dropWhile_eq_nil_iff]
    intro char mem
    simpa using none char mem
  rw [strip, stripWhere, blank]
  rfl

theorem strip_blanks_append {blanks : List Char} {char : Char}
    (blank : ∀ space ∈ blanks, isPythonSpace space = true)
    (visible : isPythonSpace char = false) : strip (blanks ++ [char]) = [char] := by
  rw [strip, stripWhere, dropWhile_append, dropWhile_eq_nil_iff.mpr blank]
  simp [visible]

theorem cut_at_visible {decoder : Utf8State} (decoded : decode .start bytes = some (decoder, text))
    (raises : firstStop lib job (frames '\n' text).1 = some .raises)
    (visible : strip (frames '\n' text).2 ≠ []) :
    ∃ first second whole char, bytes = first ++ second ∧
      decode .start first = some (.start, whole) ∧
      firstStop lib job (frames '\n' whole).1 = some .raises ∧
      isPythonSpace char = false ∧ strip (frames '\n' whole).2 = [char] := by
  obtain ⟨head, tail, lines, rfl, framed, stop⟩ := raising_line _ raises
  have remainder : (frames '\n' (head ++ '\n' :: tail)).2 = (frames '\n' tail).2 := by
    rw [show head ++ '\n' :: tail = (head ++ ['\n']) ++ tail by simp, frames_append, framed]
    rfl
  rw [remainder] at visible
  obtain ⟨shown, mem, notSpace⟩ := exists_visible visible
  have other : shown ≠ '\n' := by
    rintro rfl
    exact absurd notSpace (by decide)
  have inTail : shown ∈ tail := (mem_iff_mem_frames other).mpr (.inl mem)
  -- the tail is cut at its first character that is no space
  obtain ⟨char, rest, dropped⟩ :
      ∃ char rest, tail.dropWhile isPythonSpace = char :: rest := by
    cases equal : tail.dropWhile isPythonSpace with
    | nil =>
      rw [dropWhile_eq_nil_iff] at equal
      simp [equal shown inTail] at notSpace
    | cons char rest => exact ⟨char, rest, rfl⟩
  have hidden : isPythonSpace char = false := by
    have first : isPythonSpace ((tail.dropWhile isPythonSpace).head (by simp [dropped])) = false :=
      by simpa using head_dropWhile_not isPythonSpace _
    simpa [dropped] using first
  have blank : ∀ space ∈ tail.takeWhile isPythonSpace, isPythonSpace space = true := by
    intro space inBlanks
    exact mem_takeWhile_imp inBlanks
  have split : tail = tail.takeWhile isPythonSpace ++ char :: rest := by
    rw [← dropped, takeWhile_append_dropWhile]
  generalize tail.takeWhile isPythonSpace = blanks at blank split
  subst split
  have regroup : head ++ '\n' :: (blanks ++ char :: rest) =
      (head ++ '\n' :: blanks) ++ char :: rest := by simp
  rw [regroup] at decoded
  obtain ⟨first, second, cut, decodedFirst, -⟩ := decode_cut_after decoded
  have free : '\n' ∉ (frames '\n' blanks).2 ++ [char] := by
    simp only [mem_append, mem_singleton, not_or]
    refine ⟨delimiter_not_mem_remainder blanks, ?_⟩
    rintro rfl
    exact absurd hidden (by decide)
  have whole : frames '\n' (head ++ '\n' :: blanks ++ [char]) =
      (lines ++ (frames '\n' blanks).1, (frames '\n' blanks).2 ++ [char]) := by
    rw [show head ++ '\n' :: blanks ++ [char] = (head ++ ['\n']) ++ (blanks ++ [char]) by
      simp, frames_append, framed, nil_append, frames_append, frames_of_free free]
    simp
  refine ⟨first, second, _, char, cut, decodedFirst, ?_, hidden, ?_⟩
  · rw [whole]
    exact firstStop_append stop _
  · rw [whole]
    apply strip_blanks_append _ hidden
    intro space inRemainder
    by_cases newline : space = '\n'
    · subst newline
      decide
    · exact blank space ((mem_iff_mem_frames newline).mpr (.inl inRemainder))

variable {exitCode : Int}

include launch

/-- A stream that every cut treats alike, and that no cut refuses as a whole, is
steady. -/
theorem steady_of_invariant (invariant : ChunkInvariant lib start exitCode bytes)
    (accepted : ∀ first second, first ++ second = bytes → chunkError first = none) :
    Steady lib job bytes := by
  refine ⟨accepted, ?_⟩
  intro first second cut raises
  have small := accepted first second cut
  obtain ⟨head, tail, splitHead, stopHead, unfailed, ended⟩ :=
    cut_after_raising lib launch exitCode small raises
  -- every other cut must end as the one right behind the raising line
  have outcome (other rest : List UInt8) (cutOther : other ++ rest = bytes)
      (stopOther : (feedStdout lib start other).2 ≠ .goesOn) :
      complete lib (feedStdout lib start other).1 exitCode =
        complete lib (feedStdout lib start head).1 exitCode := by
    rw [← runChunks_stopped lib exitCode stopOther, ← runChunks_stopped lib exitCode stopHead]
    apply invariant [other, rest] [head, tail ++ second] (by simpa using cutOther)
    simp [← cut, splitHead]
  obtain ⟨decoder, text, decoded, _⟩ := chunkError_eq_none.mp small
  obtain ⟨signal, alive⟩ := feedStdout_stop lib launch small
  rw [raises] at signal alive
  by_cases owed : decoder.owed = 0
  · refine ⟨decoder, text, decoded, owed, ?_⟩
    by_contra visible
    simp only [completeLines, decoded] at raises
    obtain ⟨shown, rest, whole, _, splitShown, decodedShown, stop, hidden, buffer⟩ :=
      cut_at_visible lib decoded raises visible
    have cutShown : shown ++ (rest ++ second) = bytes := by simp [← cut, splitShown]
    have smallShown := accepted shown _ cutShown
    obtain ⟨_, other, decodedOther, _, fed⟩ :=
      feedStdout_launched lib launch smallShown
    obtain ⟨signalShown, aliveShown⟩ :=
      feedStdout_stop lib launch smallShown
    obtain rfl : other = whole := by simp_all
    simp only [completeLines, decodedShown, stop] at signalShown aliveShown
    have equal := outcome shown _ cutShown (by simp [signalShown, stopSignal])
    rcases complete_visible exitCode aliveShown hidden (by rw [fed]; exact buffer) with
      failed | raisedAgain
    · rw [equal] at failed
      exact failed unfailed
    · rw [equal] at raisedAgain
      simp [raisedAgain] at ended
  · obtain ⟨other, _, decodedOther, _, fed⟩ :=
      feedStdout_launched lib launch small
    obtain rfl : other = decoder := by simp_all
    have equal := outcome first second cut (by simp [signal, stopSignal])
    apply absurd unfailed
    rw [← equal]
    exact complete_unfinished exitCode alive (by rw [fed]; exact owed)

omit launch

/-- A verdict is something that can be seen. -/
theorem verdict_not_quiet {effect : LineEffect} (quiet : effect.quiet = true) :
    verdict lib job bytes ≠ some effect := by
  intro seen
  unfold verdict at seen
  split at seen
  · cases seen
    cases quiet
  · have visible := List.find?_some seen
    simp [quiet] at visible

theorem stop_of_verdict (seen : verdict lib job bytes = some .raises) :
    chunkError bytes = none ∧ firstStop lib job (completeLines bytes) = some .raises := by
  unfold verdict at seen
  split at seen
  · cases seen
  · next accepted => exact ⟨accepted, firstStop_of_firstVisible seen rfl⟩

include launch

theorem published_prefix_of_verdict {event : Event}
    (seen : verdict lib job first = some (.publishes event)) (second : List UInt8)
    (exitCode : Int) : [⟨event, "worker"⟩] <+: (runChunks lib start
      [first, second] exitCode).published := by
  unfold verdict at seen
  split at seen
  · cases seen
  · next accepted =>
    obtain ⟨_, _, _, _, fed⟩ := feedStdout_launched lib launch accepted
    have shown : [⟨event, "worker"⟩] <+: (feedStdout lib start first).1.progress.published := by
      have alive : (⟨[], none, none⟩ : Progress).protocolError = none := rfl
      rw [fed]
      exact acceptLines_publishes alive seen
    apply shown.trans
    unfold runChunks
    apply List.IsPrefix.trans _ (published_prefix_complete _ _)
    by_cases goesOn : (feedStdout lib start first).2 = .goesOn
    · rw [readPipe_goesOn lib goesOn]
      exact published_prefix_readPipe lib _ _
    · exact (readPipe_stopped lib goesOn [second]).symm ▸ prefix_rfl

theorem uniform_of_invariant (invariant : ChunkInvariant lib start exitCode bytes)
    (cut : first ++ second = bytes) (refused : chunkError first = some error) :
    Uniform lib job error bytes := by
  obtain ⟨fatal, failed, unpublished⟩ :=
    feedStdout_refused (fed_launched lib launch)
      (show chunkError ([] ++ first) = some error from refused)
  have stopped : (feedStdout lib start first).2 ≠ .goesOn := by
    simp [fatal]
  obtain ⟨failure, _, _, _, published⟩ := complete_failed lib exitCode failed
  have outcome (chunks : List (List UInt8)) (whole : chunks.flatten = bytes) :
      runChunks lib start chunks exitCode = complete lib (feedStdout lib start first).1
          exitCode := by
    rw [← runChunks_stopped lib exitCode stopped]
    exact invariant chunks [first, second] whole (by simpa using cut)
  have everyCut : ∀ other rest, other ++ rest = bytes →
      verdict lib job other = none ∨ verdict lib job other = some (.fails error) := by
    intro other rest cutOther
    have equal := outcome [other, rest] (by simpa using cutOther)
    cases seen : verdict lib job other with
    | none => exact .inl rfl
    | some effect =>
      right
      cases effect with
      | silent => exact absurd seen (verdict_not_quiet lib rfl)
      | ends event => exact absurd seen (verdict_not_quiet lib rfl)
      | publishes event =>
        have shown := published_prefix_of_verdict lib launch seen rest exitCode
        rw [equal, published, unpublished, (launched_start launch).2] at shown
        change _ <+: [_, _] at shown
        simp at shown
      | fails reason =>
        obtain ⟨fatalOther, failedOther, -⟩ :=
          (feedStdout_verdict lib launch other).1 reason seen
        have stopOther : (feedStdout lib start other).2 ≠ .goesOn := by
          simp [fatalOther]
        rw [runChunks_stopped lib exitCode stopOther] at equal
        have same := (complete_failed lib exitCode failedOther).1
        rw [equal, failure] at same
        cases same
        rfl
      | raises =>
        obtain ⟨small, stop⟩ := stop_of_verdict lib seen
        obtain ⟨head, tail, splitHead, stopHead, unfailed, -⟩ :=
          cut_after_raising lib launch exitCode small stop
        have same := outcome [head, tail ++ rest] (by simp [← cutOther, splitHead])
        rw [runChunks_stopped lib exitCode stopHead] at same
        rw [same, failure] at unfailed
        cases unfailed
  refine ⟨everyCut, ?_⟩
  rcases everyCut bytes [] (append_nil _) with hidden | seen
  · -- the last chunk would have to fail in `complete`, which measures no frame
    obtain ⟨accepted, goesOn⟩ :=
      (feedStdout_verdict lib launch bytes).2 hidden
    obtain ⟨_, text, decoded, small⟩ := chunkError_eq_none.mp accepted
    obtain ⟨_, middle, decodedText, _, fed⟩ :=
      feedStdout_launched lib launch accepted
    obtain rfl : middle = text := by simp_all
    have alive := (fed_of_goesOn lib launch accepted goesOn).alive
    have equal := outcome [bytes] (by simp)
    rw [runChunks, readPipe_goesOn lib goesOn, readPipe] at equal
    have unsized := complete_failure_unsized exitCode alive (by rw [fed]; exact small)
      (by rw [equal]; exact failure)
    rw [← cut] at decoded
    obtain ⟨_, _, _, decodedFirst, -, -⟩ := decode_cut decoded
    simp only [chunkError, decodedFirst] at refused
    split at refused
    · cases refused
      cases unsized
    · cases refused
  · exact seen

end Launched

/-- The cuts of a worker's stream do not matter exactly when the stream is
steady or uniform. -/
theorem chunkInvariant_iff (lib : PythonLibrary) (job : BackgroundJob)
    (cancelRequested : Bool) (stderr : List Char) (exitCode : Int) (bytes : List UInt8) :
    ChunkInvariant lib (launched job cancelRequested stderr) exitCode bytes ↔
      Steady lib job bytes ∨ ∃ error, Uniform lib job error bytes := by
  have fed := fed_launched lib (rfl : _ = launched job cancelRequested stderr)
  constructor
  · intro invariant
    by_cases accepted : ∀ first second, first ++ second = bytes → chunkError first = none
    · exact .inl (steady_of_invariant lib rfl invariant accepted)
    · push Not at accepted
      obtain ⟨first, second, cut, refused⟩ := accepted
      obtain ⟨error, refused⟩ := Option.ne_none_iff_exists'.mp refused
      exact .inr ⟨error, uniform_of_invariant _ rfl invariant cut refused⟩
  · intro either first second cutFirst cutSecond
    unfold runChunks
    rcases either with steady | ⟨error, uniform⟩
    · rw [complete_readPipe_of_steady _ rfl steady exitCode fed cutFirst,
        complete_readPipe_of_steady _ rfl steady exitCode fed cutSecond]
    · obtain ⟨failed, unpublished⟩ :=
        readPipe_of_uniform _ rfl uniform fed rfl cutFirst
      obtain ⟨failedSecond, unpublishedSecond⟩ :=
        readPipe_of_uniform _ rfl uniform fed rfl cutSecond
      apply complete_of_failed exitCode _ _ failed failedSecond
      · rw [readPipe_shell, readPipe_shell]
      · rw [unpublished, unpublishedSecond]

/-! ## The condition is needed -/

/-- A line that a worker writes. -/
def logLine : List Char := ['{'] ++ "\"type\":\"log\",\"job_id\":\"j\"".toList ++ ['}']

/-- A library that decodes this line. -/
def logLibrary : PythonLibrary :=
  .reading logLine [("type", .str "log"), ("job_id", .str "j")] (by decide)

/-- The bytes of the line and its newline. -/
def logLineBytes : List UInt8 := logLine.map (fun char => char.toNat.toUInt8) ++ [10]

/-- With the line and an undecodable byte in one chunk, the event is lost. -/
theorem not_chunkInvariant_brokenStream :
    ¬ ChunkInvariant logLibrary (launched ⟨"j", "probe", []⟩ false []) 0
      (logLineBytes ++ [255]) := by
  intro invariant
  have equal := invariant [logLineBytes ++ [255]] [logLineBytes, [255]] (by simp) (by simp)
  have lengths := congrArg (fun outcome => outcome.published.length) equal
  exact absurd lengths (by decide +kernel)

end NetConsole.Worker
