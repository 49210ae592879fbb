import NetConsole.Foundations.BoundedRuns
import NetConsole.Syslog.RawRewrite

/-!
# Draining the spools of the syslog receiver

Once the receiver is told to stop and no packet arrives, its writer thread goes on until
the memory queue is empty and its spool is counted empty, and its processing thread until
the same holds of what the writer has handed over. A spool is a file that is read line by
line; its count is not what is left in the file but a number of its own.

The writer counts down only for a line that it can decode. So it ends exactly when its count
is not larger than the number of lines that can be decoded, or when a line makes it raise.

The spool of the processing thread is shared: the writer appends a line and counts up behind
the lock, the processing thread reads a line and counts down behind it. Each of them loads the
count and stores it again, and any step of the other thread may come in between. A line that
is read before it is counted is counted for ever (`not_drainEnds_race`), so the processing
thread is safe when its count is not larger than the number of lines and the queue takes all
that is still handed over (`drain_ends`).
-/

set_option autoImplicit false

namespace NetConsole.Syslog

open Foundations List Option

/-! ## Spools -/

/-- What a thread makes of a line: a record, nothing, or an exception that it does not
catch, as for bytes that are no UTF-8 text or a number that is infinite. -/
inductive SpoolLine
  | record
  | malformed
  | raises
  deriving DecidableEq

/-- What is unread of a spool: the finished lines, what is behind the last line end, and
the count. -/
structure Spool where
  lines : List (List UInt8)
  torn : List UInt8
  count : Nat

/-- The lines of a file opened for reading text, and what is behind the last line end. A
carriage return ends a line as well, alone or with a line feed. -/
def textFrames : List UInt8 → List (List UInt8) × List UInt8
  | [] => ([], [])
  | byte :: rest =>
    let (lines, torn) := textFrames rest
    if byte = 10 ∨ byte = 13 ∧ rest.head? ≠ some 10 then ([byte] :: lines, torn)
    else
      match lines with
      | [] => ([], byte :: torn)
      | line :: more => ((byte :: line) :: more, torn)

namespace Spool

/-- A spool file as `start` finds it, read from an offset. -/
def opened (content : List UInt8) (offset : Nat) : Spool where
  lines := (textFrames (content.drop offset)).1
  torn := (textFrames (content.drop offset)).2
  count := (rawLines content).length

/-- The lines that are read one after another. -/
def texts (spool : Spool) : List (List UInt8) :=
  spool.lines ++ if spool.torn = [] then [] else [spool.torn]

/-- `handle.readline()`. -/
def readline (spool : Spool) : Option (List UInt8 × Spool) :=
  match spool.lines with
  | line :: more => some (line, { spool with lines := more })
  | [] => if spool.torn = [] then none else some (spool.torn, { spool with torn := [] })

/-- One record is read. -/
def countDown (spool : Spool) : Spool := { spool with count := spool.count - 1 }

/-- A line is written behind what is there. -/
def append (spool : Spool) (line : List UInt8) : Spool :=
  { spool with lines := spool.lines ++ [spool.torn ++ line], torn := [] }

/-- A write that fails may leave the beginning of a line. -/
def tear (spool : Spool) (part : List UInt8) : Spool := { spool with torn := spool.torn ++ part }

end Spool

/-! ## The two threads -/

/-- What the threads make of the lines of their spools, and the size of the parser queue. -/
structure SpoolReaders where
  writerLine : List UInt8 → SpoolLine
  parserLine : List UInt8 → SpoolLine
  capacity : Nat

/-- Where the writer is: at the begin of a round, behind a full queue with a line for the
parser spool, behind the append, or with the count that it has loaded. -/
inductive WriterPhase
  | polling
  | spooling (line : List UInt8)
  | counting
  | storing (count : Nat)

/-- Where the processing thread is: at the begin of a round, behind the read of a line, with
the count that it has loaded besides, or about to take a record from the queue. -/
inductive ProcessPhase
  | polling
  | counting (line : List UInt8)
  | storing (line : List UInt8) (count : Nat)
  | getting

/-- The receiver after the stop: the spools, the lengths of the queues, where the threads
are, and which of them has ended by an exception. -/
structure DrainState where
  writerSpool : Spool
  queue : Nat
  writerPhase : WriterPhase
  parserSpool : Spool
  parserQueue : Nat
  processPhase : ProcessPhase
  (writerRaised processRaised : Bool)

variable (readers : SpoolReaders)

/-- An envelope is written and handed over, as the line that a spooled record would be; or
the write fails. -/
def handOver (written : Option (List UInt8)) (state : DrainState) : DrainState :=
  match written with
  | none => state
  | some line =>
    if state.parserQueue < readers.capacity then
      { state with parserQueue := state.parserQueue + 1 }
    else { state with writerPhase := .spooling line }

/-- `self._queue.get(timeout=0.05)`, and what follows. -/
def writeQueued (written : Option (List UInt8)) (state : DrainState) : DrainState :=
  if state.queue = 0 then state
  else handOver readers written { state with queue := state.queue - 1 }

/-- A round of `_writer_loop`, up to a full queue. -/
def writerRound (written : Option (List UInt8)) (state : DrainState) : DrainState :=
  match state.writerSpool.readline with
  | none => writeQueued readers written state
  | some (line, rest) =>
    match readers.writerLine line with
    | .raises => { state with writerRaised := true }
    | .malformed => writeQueued readers written { state with writerSpool := rest }
    | .record => handOver readers written { state with writerSpool := rest.countDown }

/-- A step of the writer. Behind a full queue `_spool_persisted` appends the line, or fails
with a part of it, and counts. -/
def writerStep (written : Option (List UInt8)) (part : List UInt8) (state : DrainState) :
    DrainState :=
  match state.writerPhase with
  | .polling => writerRound readers written state
  | .spooling line =>
    if written.isSome then
      { state with parserSpool := state.parserSpool.append line, writerPhase := .counting }
    else { state with parserSpool := state.parserSpool.tear part, writerPhase := .polling }
  | .counting => { state with writerPhase := .storing state.parserSpool.count }
  | .storing count =>
    { state with
      parserSpool := { state.parserSpool with count := count + 1 }, writerPhase := .polling }

/-- What the processing thread makes of a line that it has counted. -/
def processLine (raised : Bool) (line : List UInt8) (state : DrainState) : DrainState :=
  match readers.parserLine line with
  | .raises => { state with processRaised := true }
  | .malformed => { state with processPhase := .getting }
  | .record => { state with processPhase := .polling, processRaised := raised }

/-- A step of the processing thread: `_next_parser_spooled` reads a line and counts it, and
`_process_loop` takes a record from the queue when there was none. What it does about a
failure of a handler may itself raise. -/
def processStep (raised : Bool) (state : DrainState) : DrainState :=
  match state.processPhase with
  | .polling =>
    match state.parserSpool.readline with
    | none => { state with processPhase := .getting }
    | some (line, rest) => { state with parserSpool := rest, processPhase := .counting line }
  | .counting line => { state with processPhase := .storing line state.parserSpool.count }
  | .storing line count =>
    processLine readers raised line
      { state with parserSpool := { state.parserSpool with count := count - 1 } }
  | .getting =>
    { state with
      parserQueue := state.parserQueue - 1, processPhase := .polling, processRaised := raised }

/-- `while not self._stop.is_set() or not self._queue.empty() or self._disk_queue_count`,
which the writer asks between its rounds. -/
def writerRuns (state : DrainState) : Bool :=
  !state.writerRaised &&
    match state.writerPhase with
    | .polling => state.queue ≠ 0 || state.writerSpool.count ≠ 0
    | _ => true

/-- The same of the processing thread. -/
def processRuns (state : DrainState) : Bool :=
  !state.processRaised &&
    match state.processPhase with
    | .polling => state.parserQueue ≠ 0 || state.parserSpool.count ≠ 0
    | _ => true

/-- A step of one of the threads: the outcome of a write, or of a handler. -/
inductive DrainAction
  | writer (written : Option (List UInt8)) (part : List UInt8)
  | process (raised : Bool)

/-- A step of a thread that has not ended. -/
def drainStep (state : DrainState) : DrainAction → Option DrainState
  | .writer written part =>
    if writerRuns state then some (writerStep readers written part state) else none
  | .process raised => if processRuns state then some (processStep readers raised state) else none

/-! ## What is left to do -/

/-- The lines of a spool that a thread can decode. -/
def Spool.records (line : List UInt8 → SpoolLine) (spool : Spool) : Nat :=
  spool.texts.countP fun text => line text = .record

/-- The records that the writer has yet to hand over, at most. -/
def pending (state : DrainState) : Nat :=
  if state.writerRaised then 0
  else state.writerSpool.records readers.writerLine + state.queue

/-- The steps that the writer still takes behind a full queue, and what they add to the
load of the processing thread. -/
def WriterPhase.weight : WriterPhase → Nat
  | .polling => 0
  | .spooling _ => 7
  | .counting => 2
  | .storing _ => 1

/-- The steps that the processing thread still takes in its round; with a record in the queue
its step counts as the load that it takes off. -/
def ProcessPhase.weight (parserQueue : Nat) : ProcessPhase → Nat
  | .polling => 1
  | .counting _ => 4
  | .storing _ _ => 3
  | .getting => if parserQueue = 0 then 2 else 0

/-- What is left to the writer. -/
def writerWeight (state : DrainState) : Nat :=
  if state.writerRaised then 0
  else 8 * (state.writerSpool.texts.length + state.queue) + state.writerPhase.weight + 1

/-- What is left to the processing thread. -/
def processWeight (state : DrainState) : Nat :=
  if state.processRaised then 0
  else 4 * (state.parserSpool.texts.length + state.parserQueue) +
    state.processPhase.weight state.parserQueue + 1

/-- Every step of a thread that runs lowers this. -/
def drainMeasure (state : DrainState) : Nat := writerWeight state + processWeight state

/-- The count of the writer comes down to nothing, or the writer raises. -/
def WriterSafe (state : DrainState) : Prop :=
  state.writerRaised = true ∨
    (∃ line ∈ state.writerSpool.texts, readers.writerLine line = .raises) ∨
    state.writerSpool.count ≤ state.writerSpool.records readers.writerLine

/-- The line that the processing thread has read but not yet decoded. -/
def ProcessPhase.inHand : ProcessPhase → List (List UInt8)
  | .counting line | .storing line _ => [line]
  | .polling | .getting => []

/-- The count of the parser spool as it is behind the round. -/
def parserDue (state : DrainState) : Nat :=
  match state.processPhase with
  | .polling | .getting => state.parserSpool.count
  | .counting _ => state.parserSpool.count - 1
  | .storing _ count => count - 1

/-- The same of the processing thread, to which at most so many records are handed over: the
writer does not count, as the queue takes them all. -/
def ProcessCounts (handed : Nat) (state : DrainState) : Prop :=
  state.writerPhase = .polling ∧ parserDue state ≤ state.parserSpool.texts.length ∧
    handed + state.parserQueue ≤ readers.capacity

/-- The processing thread comes to its end, or raises. -/
def ProcessSafe (handed : Nat) (state : DrainState) : Prop :=
  state.processRaised = true ∨
    (∃ line ∈ state.processPhase.inHand ++ state.parserSpool.lines,
      readers.parserLine line = .raises) ∨
    ProcessCounts readers handed state

/-- Both threads are safe. -/
def Drains (state : DrainState) : Prop :=
  WriterSafe readers state ∧ ProcessSafe readers (pending readers state) state

variable {readers}

/-! ## Reading and appending -/

theorem Spool.readline_cases (spool : Spool) : (spool.readline = none ∧ spool.texts = []) ∨
      ∃ line rest, spool.readline = some (line, rest) ∧ spool.texts = line :: rest.texts ∧
        rest.count = spool.count ∧ ((spool.lines = line :: rest.lines ∧ rest.torn = spool.torn) ∨
          (spool.lines = [] ∧ rest.torn = [])) := by
  obtain ⟨lines, torn, count⟩ := spool
  cases lines with
  | cons line more => exact .inr ⟨line, ⟨more, torn, count⟩, rfl, rfl, rfl, .inl ⟨rfl, rfl⟩⟩
  | nil =>
    by_cases empty : torn = []
    · exact .inl ⟨if_pos empty, if_pos empty⟩
    · refine .inr ⟨torn, ⟨[], [], count⟩, if_neg empty, ?_, rfl, .inr ⟨rfl, rfl⟩⟩
      show [] ++ (if torn = [] then [] else [torn]) = _
      rw [if_neg empty]
      rfl

theorem Spool.length_texts_append (spool : Spool) (line : List UInt8) :
    (spool.append line).texts.length = spool.lines.length + 1 := by
  unfold texts append
  rw [if_pos rfl, append_nil, length_append]
  rfl

theorem Spool.length_texts (spool : Spool) :
    spool.texts.length = spool.lines.length + if spool.torn = [] then 0 else 1 := by
  unfold texts
  rw [length_append]
  split <;> rfl

/-! ## Handing over -/

variable {state : DrainState}

theorem ProcessSafe.weaken {more less : Nat} (fewer : less ≤ more)
    (safe : ProcessSafe readers more state) : ProcessSafe readers less state := by
  refine safe.imp id (Or.imp id fun ⟨phase, counted, fits⟩ => ⟨phase, counted, ?_⟩)
  omega

theorem processWeight_getting_le (parserQueue : Nat) (phase : ProcessPhase) :
    phase.weight (parserQueue + 1) ≤ phase.weight parserQueue := by
  cases phase with
  | getting => exact Nat.zero_le _
  | polling => exact Nat.le_refl _
  | counting line => exact Nat.le_refl _
  | storing line count => exact Nat.le_refl _

variable (readers) in
/-- What handing over a record changes. -/
structure HandedOver (before after : DrainState) : Prop where
  writerSpool : after.writerSpool = before.writerSpool
  queue : after.queue = before.queue
  writerRaised : after.writerRaised = before.writerRaised
  load : after.writerPhase.weight + processWeight after ≤
    before.writerPhase.weight + processWeight before + 7
  safe : ∀ handed, ProcessSafe readers (handed + 1) before → ProcessSafe readers handed after

theorem handedOver_handOver (written : Option (List UInt8)) (state : DrainState) :
    HandedOver readers state (handOver readers written state) := by
  cases written with
  | none =>
    refine ⟨rfl, rfl, rfl, Nat.le_add_right .., ?_⟩
    exact fun handed safe => safe.weaken (Nat.le_succ handed)
  | some line =>
    unfold handOver
    dsimp only
    by_cases room : state.parserQueue < readers.capacity
    · rw [if_pos room]
      refine ⟨rfl, rfl, rfl, ?_, ?_⟩
      · have lighter := processWeight_getting_le state.parserQueue state.processPhase
        unfold processWeight
        dsimp only
        split
        · omega
        · omega
      · intro handed safe
        refine safe.imp id (Or.imp id fun ⟨phase, counted, fits⟩ => ⟨phase, counted, ?_⟩)
        show handed + (state.parserQueue + 1) ≤ readers.capacity
        omega
    · rw [if_neg room]
      refine ⟨rfl, rfl, rfl, ?_, ?_⟩
      · show 7 + processWeight state ≤ _
        omega
      · intro handed safe
        refine safe.imp id (Or.imp id fun ⟨_, _, fits⟩ => ?_)
        omega

/-! ## The rounds of the writer -/

theorem Spool.records_of_texts {line : List UInt8 → SpoolLine} {spool rest : Spool}
    {text : List UInt8} (texts : spool.texts = text :: rest.texts) :
    spool.records line = rest.records line + if line text = .record then 1 else 0 := by
  unfold records
  rw [texts, countP_cons]
  simp

/-- A round of a safe writer ends it, or takes a line or an envelope. -/
theorem writerRound_cases (written : Option (List UInt8)) (safe : WriterSafe readers state)
    (polling : state.writerPhase = .polling) (runs : writerRuns state = true) :
    writerRound readers written state = { state with writerRaised := true } ∨
    ∃ spool queue, spool.texts.length + queue < state.writerSpool.texts.length + state.queue ∧
      WriterSafe readers { state with writerSpool := spool, queue := queue } ∧
      ((writerRound readers written state = { state with writerSpool := spool, queue := queue } ∧
          spool.records readers.writerLine + queue ≤
            state.writerSpool.records readers.writerLine + state.queue) ∨
        (writerRound readers written state =
            handOver readers written { state with writerSpool := spool, queue := queue } ∧
          spool.records readers.writerLine + queue + 1 ≤
            state.writerSpool.records readers.writerLine + state.queue)) := by
  obtain ⟨alive, busy⟩ : state.writerRaised = false ∧
      (state.queue ≠ 0 ∨ state.writerSpool.count ≠ 0) := by
    simpa [writerRuns, polling] using runs
  have safe : (∃ line ∈ state.writerSpool.texts, readers.writerLine line = .raises) ∨
      state.writerSpool.count ≤ state.writerSpool.records readers.writerLine :=
    safe.resolve_left (by simp [alive])
  unfold writerRound
  rcases state.writerSpool.readline_cases with ⟨nothing, empty⟩ |
    ⟨line, rest, read, texts, count, -⟩
  · -- the spool is empty, so its count is down and an envelope waits
    rw [nothing]
    have down : state.writerSpool.count = 0 := by
      rcases safe with ⟨line, there, -⟩ | counted
      · exact absurd (empty ▸ there) not_mem_nil
      · rw [Spool.records, empty] at counted
        exact Nat.le_zero.mp counted
    have waiting : state.queue ≠ 0 := busy.resolve_right (not_not.mpr down)
    refine .inr ⟨state.writerSpool, state.queue - 1, by omega, ?_, .inr ⟨if_neg waiting, by omega⟩⟩
    exact .inr (.inr (down.trans_le (Nat.zero_le _)))
  · rw [read]
    have length : state.writerSpool.texts.length = rest.texts.length + 1 := by
      rw [texts, length_cons]
    have records : state.writerSpool.records readers.writerLine =
        rest.records readers.writerLine + if readers.writerLine line = .record then 1 else 0 :=
      Spool.records_of_texts texts
    by_cases raising : readers.writerLine line = .raises
    · left
      dsimp only
      rw [raising]
    · have later : (∃ text ∈ state.writerSpool.texts, readers.writerLine text = .raises) →
          ∃ text ∈ rest.texts, readers.writerLine text = .raises := by
        rintro ⟨text, there, raises⟩
        rw [texts] at there
        rcases mem_cons.mp there with rfl | later
        · exact absurd raises raising
        · exact ⟨text, later, raises⟩
      right
      cases kind : readers.writerLine line with
      | raises => exact absurd kind raising
      | record =>
        rw [kind, if_pos rfl] at records
        refine ⟨rest.countDown, state.queue, ?_, ?_, .inr ⟨by dsimp only; rw [kind], ?_⟩⟩
        · show rest.texts.length + _ < _
          omega
        · refine .inr (safe.imp later fun counted => ?_)
          show rest.count - 1 ≤ rest.records readers.writerLine
          omega
        · show rest.records readers.writerLine + _ + 1 ≤ _
          omega
      | malformed =>
        rw [kind, if_neg nofun] at records
        have still : WriterSafe readers
            { state with writerSpool := rest, queue := state.queue - 1 } :=
          .inr (safe.imp later fun counted => by
            show rest.count ≤ rest.records readers.writerLine
            omega)
        refine ⟨rest, state.queue - 1, by omega, still, ?_⟩
        dsimp only
        rw [kind]
        by_cases idle : state.queue = 0
        · refine .inl ⟨?_, by omega⟩
          have same : state.queue - 1 = state.queue := by omega
          rw [same]
          exact if_pos idle
        · exact .inr ⟨if_neg idle, by omega⟩

theorem writerWeight_alive (alive : state.writerRaised = false) : writerWeight state =
    8 * (state.writerSpool.texts.length + state.queue) + state.writerPhase.weight + 1 := by
  unfold writerWeight
  rw [alive]
  rfl

theorem writerRuns_alive (runs : writerRuns state = true) : state.writerRaised = false := by
  simpa using (Bool.and_eq_true_iff.mp runs).1

theorem drains_writerRound (written : Option (List UInt8)) (drains : Drains readers state)
    (polling : state.writerPhase = .polling) (runs : writerRuns state = true) :
    Drains readers (writerRound readers written state) ∧
      drainMeasure (writerRound readers written state) < drainMeasure state := by
  obtain ⟨writer, process⟩ := drains
  have alive := writerRuns_alive runs
  have held : pending readers state =
      state.writerSpool.records readers.writerLine + state.queue := if_neg (by simp [alive])
  have weight := writerWeight_alive alive
  rw [polling] at weight
  unfold drainMeasure
  rcases writerRound_cases written writer polling runs with
    ended | ⟨spool, queue, less, safe, ⟨same, fewer⟩ | ⟨same, fewer⟩⟩
  · rw [ended]
    refine ⟨⟨.inl rfl, ProcessSafe.weaken (Nat.zero_le _) process⟩, ?_⟩
    show 0 + processWeight state < _
    omega
  · rw [same]
    have holds : pending readers { state with writerSpool := spool, queue := queue } =
        spool.records readers.writerLine + queue := if_neg (by simp [alive])
    refine ⟨⟨safe, ?_⟩, ?_⟩
    · rw [holds]
      rw [held] at process
      exact ProcessSafe.weaken fewer process
    · rw [show writerWeight { state with writerSpool := spool, queue := queue } = _ from
        writerWeight_alive alive]
      dsimp only
      rw [polling]
      show _ + processWeight state < _
      omega
  · rw [same]
    have handed : HandedOver readers _ _ := handedOver_handOver written
      { state with writerSpool := spool, queue := queue }
    refine ⟨⟨?_, ?_⟩, ?_⟩
    · unfold WriterSafe
      rw [handed.writerRaised, handed.writerSpool]
      exact safe
    · apply handed.safe
      have holds : pending readers (handOver readers written
          { state with writerSpool := spool, queue := queue }) =
          spool.records readers.writerLine + queue := by
        unfold pending
        rw [handed.writerRaised, handed.writerSpool, handed.queue]
        exact if_neg (by simp [alive])
      rw [holds]
      rw [held] at process
      exact ProcessSafe.weaken fewer process
    · have load := handed.load
      have idle : state.writerPhase.weight = 0 := by
        rw [polling]
        rfl
      rw [writerWeight_alive (handed.writerRaised.trans alive), handed.writerSpool, handed.queue]
      dsimp only at load ⊢
      have unchanged : processWeight { state with writerSpool := spool, queue := queue } =
          processWeight state := rfl
      omega

/-- Behind a full queue the writer comes to its next round. -/
theorem drains_writerBehind (written : Option (List UInt8)) (part : List UInt8)
    (drains : Drains readers state) (behind : state.writerPhase ≠ .polling)
    (alive : state.writerRaised = false) : Drains readers (writerStep readers written part state) ∧
      drainMeasure (writerStep readers written part state) < drainMeasure state := by
  obtain ⟨writer, process⟩ := drains
  have ends := process.imp id fun reads => reads.resolve_right fun counts => behind counts.1
  have weight := writerWeight_alive alive
  have length := state.parserSpool.length_texts
  unfold drainMeasure
  unfold writerStep
  cases phase : state.writerPhase with
  | polling => exact absurd phase behind
  | spooling line =>
    rw [phase] at weight
    have full : (WriterPhase.spooling line).weight = 7 := rfl
    dsimp only
    cases written with
    | some stored =>
      rw [if_pos (by rfl)]
      refine ⟨⟨writer, ends.imp id ?_⟩, ?_⟩
      · rintro ⟨text, there, raises⟩
        refine .inl ⟨text, ?_, raises⟩
        show text ∈ state.processPhase.inHand ++
          (state.parserSpool.lines ++ [state.parserSpool.torn ++ line])
        rw [← append_assoc]
        exact mem_append_left _ there
      · rw [writerWeight_alive (by exact alive)]
        unfold processWeight
        dsimp only
        rw [Spool.length_texts_append]
        have counts : WriterPhase.counting.weight = 2 := rfl
        split
        · omega
        · omega
    | none =>
      rw [if_neg (by simp)]
      refine ⟨⟨writer, ends.imp id .inl⟩, ?_⟩
      have longer : (state.parserSpool.tear part).texts.length ≤
          state.parserSpool.texts.length + 1 := by
        rw [Spool.length_texts, length]
        show state.parserSpool.lines.length + _ ≤ _
        split
        · omega
        · omega
      rw [writerWeight_alive (by exact alive)]
      unfold processWeight
      dsimp only
      have idle : WriterPhase.polling.weight = 0 := rfl
      split
      · omega
      · omega
  | counting =>
    rw [phase] at weight
    have counts : WriterPhase.counting.weight = 2 := rfl
    refine ⟨⟨writer, ends.imp id .inl⟩, ?_⟩
    rw [writerWeight_alive (by exact alive)]
    show _ + (WriterPhase.storing _).weight + 1 + processWeight state < _
    have stores : (WriterPhase.storing state.parserSpool.count).weight = 1 := rfl
    dsimp only
    omega
  | storing count =>
    rw [phase] at weight
    have stores : (WriterPhase.storing count).weight = 1 := rfl
    refine ⟨⟨writer, ends.imp id .inl⟩, ?_⟩
    rw [writerWeight_alive (by exact alive)]
    show _ + WriterPhase.polling.weight + 1 + processWeight state < _
    have idle : WriterPhase.polling.weight = 0 := rfl
    dsimp only
    omega

theorem drains_writerStep (written : Option (List UInt8)) (part : List UInt8)
    (drains : Drains readers state) (runs : writerRuns state = true) :
    Drains readers (writerStep readers written part state) ∧
      drainMeasure (writerStep readers written part state) < drainMeasure state := by
  by_cases polling : state.writerPhase = .polling
  · have same : writerStep readers written part state = writerRound readers written state := by
      unfold writerStep
      rw [polling]
    rw [same]
    exact drains_writerRound written drains polling runs
  · exact drains_writerBehind written part drains polling (writerRuns_alive runs)

/-! ## The rounds of the processing thread -/

theorem processWeight_alive (alive : state.processRaised = false) : processWeight state =
    4 * (state.parserSpool.texts.length + state.parserQueue) +
      state.processPhase.weight state.parserQueue + 1 := by
  unfold processWeight
  rw [alive]
  rfl

/-- The processing thread reads a line, or finds none and a record in the queue. -/
theorem drains_processPolling (raised : Bool) (drains : Drains readers state)
    (alive : state.processRaised = false) (phase : state.processPhase = .polling)
    (runs : processRuns state = true) : Drains readers (processStep readers raised state) ∧
      drainMeasure (processStep readers raised state) < drainMeasure state := by
  obtain ⟨writer, process⟩ := drains
  have busy : state.parserQueue ≠ 0 ∨ state.parserSpool.count ≠ 0 := by
    simpa [processRuns, alive, phase] using runs
  have safe := process.resolve_left (by simp [alive])
  have weight := processWeight_alive alive
  have due : parserDue state = state.parserSpool.count := by
    unfold parserDue
    rw [phase]
  rw [phase] at safe weight
  have idle : ProcessPhase.polling.weight state.parserQueue = 1 := rfl
  rcases state.parserSpool.readline_cases with
    ⟨nothing, empty⟩ | ⟨line, rest, read, texts, count, shape⟩
  · have step : processStep readers raised state = { state with processPhase := .getting } := by
      unfold processStep
      rw [phase]
      dsimp only
      rw [nothing]
    rw [step]
    have bare := state.parserSpool.length_texts
    rw [empty, length_nil] at bare
    obtain ⟨writes, counted, fits⟩ : ProcessCounts readers (pending readers state) state := by
      rcases safe with ⟨line, there, -⟩ | counts
      · have some' : 0 < state.parserSpool.lines.length := length_pos_of_mem there
        omega
      · exact counts
    rw [due] at counted
    have waiting : state.parserQueue ≠ 0 := by
      rw [empty] at counted
      exact busy.resolve_right (not_not.mpr (Nat.le_zero.mp counted))
    refine ⟨⟨writer, .inr (.inr ⟨writes, counted, fits⟩)⟩, Nat.add_lt_add_left ?_ _⟩
    rw [processWeight_alive (by exact alive), weight]
    show _ + (if state.parserQueue = 0 then 2 else 0) + 1 < _
    rw [if_neg waiting]
    dsimp only
    omega
  · have step : processStep readers raised state =
        { state with parserSpool := rest, processPhase := .counting line } := by
      unfold processStep
      rw [phase]
      dsimp only
      rw [read]
    rw [step]
    have length : state.parserSpool.texts.length = rest.texts.length + 1 := by
      rw [texts, length_cons]
    refine ⟨⟨writer, .inr (safe.imp ?_ ?_)⟩, Nat.add_lt_add_left ?_ _⟩
    · rintro ⟨text, there, raises⟩
      rcases shape with ⟨lines, -⟩ | ⟨lines, -⟩
      · refine ⟨text, ?_, raises⟩
        show text ∈ line :: rest.lines
        rw [← lines]
        exact there
      · rw [lines] at there
        cases there
    · rintro ⟨writes, counted, fits⟩
      refine ⟨writes, ?_, fits⟩
      show rest.count - 1 ≤ rest.texts.length
      omega
    · rw [processWeight_alive (by exact alive), weight]
      show _ + 4 + 1 < _
      dsimp only
      omega

theorem drains_processStep (raised : Bool) (drains : Drains readers state)
    (runs : processRuns state = true) : Drains readers (processStep readers raised state) ∧
      drainMeasure (processStep readers raised state) < drainMeasure state := by
  have alive : state.processRaised = false := by simpa using (Bool.and_eq_true_iff.mp runs).1
  have weight := processWeight_alive alive
  obtain ⟨writer, process⟩ := id drains
  have safe := process.resolve_left (by simp [alive])
  -- a thread that has raised has nothing left to do
  have ended : ∀ spool queue phase, Drains readers { state with
        parserSpool := spool, parserQueue := queue, processPhase := phase, processRaised := true } ∧
      drainMeasure { state with
        parserSpool := spool, parserQueue := queue, processPhase := phase
        processRaised := true } < drainMeasure state := by
    intro spool queue phase
    refine ⟨⟨writer, .inl rfl⟩, ?_⟩
    show writerWeight state + 0 < writerWeight state + processWeight state
    omega
  cases phase : state.processPhase with
  | polling => exact drains_processPolling raised drains alive phase runs
  | counting line =>
    have step : processStep readers raised state =
        { state with processPhase := .storing line state.parserSpool.count } := by
      unfold processStep
      rw [phase]
    rw [step]
    rw [phase] at weight safe
    refine ⟨⟨writer, .inr (safe.imp id ?_)⟩, Nat.add_lt_add_left ?_ _⟩
    · rintro ⟨writes, counted, fits⟩
      unfold parserDue at counted
      rw [phase] at counted
      exact ⟨writes, counted, fits⟩
    · rw [processWeight_alive (by exact alive), weight]
      show _ + 3 + 1 < _ + 4 + 1
      dsimp only
      omega
  | storing line count =>
    have step : processStep readers raised state = processLine readers raised line
        { state with parserSpool := { state.parserSpool with count := count - 1 } } := by
      unfold processStep
      rw [phase]
    rw [step]
    unfold processLine
    rw [phase] at weight safe
    have three : (ProcessPhase.storing line count).weight state.parserQueue = 3 := rfl
    -- a line that does not raise leaves the raising one unread
    have next : ∀ phase : ProcessPhase, phase.inHand = [] →
        readers.parserLine line ≠ .raises → parserDue { state with
          parserSpool := { state.parserSpool with count := count - 1 }
          processPhase := phase } = count - 1 →
        Drains readers { state with
          parserSpool := { state.parserSpool with count := count - 1 }
          processPhase := phase } := by
      intro later empty quiet due
      refine ⟨writer, .inr (safe.imp ?_ ?_)⟩
      · rintro ⟨text, there, raises⟩
        rcases mem_cons.mp there with rfl | unread
        · exact absurd raises quiet
        · refine ⟨text, ?_, raises⟩
          dsimp only
          rw [empty]
          exact unread
      · rintro ⟨writes, counted, fits⟩
        unfold parserDue at counted
        rw [phase] at counted
        exact ⟨writes, due.trans_le counted, fits⟩
    have lighter : ∀ phase : ProcessPhase, phase.weight state.parserQueue < 3 →
        drainMeasure { state with
          parserSpool := { state.parserSpool with count := count - 1 }
          processPhase := phase } < drainMeasure state := by
      intro later light
      refine Nat.add_lt_add_left ?_ _
      rw [processWeight_alive (by exact alive), weight]
      show 4 * (state.parserSpool.texts.length + _) + _ + 1 < _
      dsimp only
      omega
    dsimp only
    cases kind : readers.parserLine line with
    | raises => exact ended _ _ _
    | malformed =>
      refine ⟨next .getting rfl (by simp [kind]) rfl, lighter .getting ?_⟩
      show (if state.parserQueue = 0 then 2 else 0) < 3
      split
      · omega
      · omega
    | record =>
      cases raised with
      | true => exact ended _ _ _
      | false =>
        have kept := next .polling rfl (by simp [kind]) rfl
        have less := lighter .polling (Nat.lt_of_succ_lt (Nat.lt_succ_self 2))
        rw [alive] at kept less
        exact ⟨kept, less⟩
  | getting =>
    have step : processStep readers raised state = { state with
        parserQueue := state.parserQueue - 1, processPhase := .polling
        processRaised := raised } := by
      unfold processStep
      rw [phase]
    rw [step]
    rw [phase] at weight safe
    cases raised with
    | true => exact ended _ _ _
    | false =>
      refine ⟨⟨writer, .inr (safe.imp id ?_)⟩, Nat.add_lt_add_left ?_ _⟩
      · rintro ⟨writes, counted, fits⟩
        unfold parserDue at counted
        rw [phase] at counted
        refine ⟨writes, counted, ?_⟩
        show pending readers state + (state.parserQueue - 1) ≤ _
        omega
      · rw [processWeight_alive rfl, weight]
        show _ + 1 + 1 < _ + (if state.parserQueue = 0 then 2 else 0) + 1
        dsimp only
        split
        · omega
        · omega

/-! ## Runs -/

theorem drainStep_writer {state after : DrainState} {written : Option (List UInt8)}
    {part : List UInt8} (taken : drainStep readers state (.writer written part) = some after) :
    writerRuns state = true ∧ after = writerStep readers written part state := by
  obtain ⟨runs, same⟩ := ite_none_right_eq_some.mp taken
  exact ⟨runs, (some.inj same).symm⟩

theorem drainStep_process {state after : DrainState} {raised : Bool}
    (taken : drainStep readers state (.process raised) = some after) :
    processRuns state = true ∧ after = processStep readers raised state := by
  obtain ⟨runs, same⟩ := ite_none_right_eq_some.mp taken
  exact ⟨runs, (some.inj same).symm⟩

variable (readers) in
/-- Every run of the rounds of both threads comes to an end. -/
def DrainEnds (state : DrainState) : Prop := ∃ bound, RunsWithin (drainStep readers) state bound

theorem drainEnds_of_drains (drains : Drains readers state) : DrainEnds readers state := by
  refine ⟨_, runsWithin_measure (Drains _) drainMeasure ?_ drains⟩
  intro state action after drains taken
  cases action with
  | writer written part =>
    obtain ⟨runs, rfl⟩ := drainStep_writer taken
    exact drains_writerStep written part drains runs
  | process raised =>
    obtain ⟨runs, rfl⟩ := drainStep_process taken
    exact drains_processStep raised drains runs

/-! ## Threads that go on for ever -/

variable (readers) in
/-- The writer counts more than it can read. -/
def WriterStuck (state : DrainState) : Prop :=
  state.writerRaised = false ∧
    (∀ line ∈ state.writerSpool.texts, readers.writerLine line ≠ .raises) ∧
    state.writerSpool.records readers.writerLine < state.writerSpool.count

variable (readers) in
/-- The processing thread counts more than it can read. -/
def ProcessStuck (state : DrainState) : Prop :=
  state.processRaised = false ∧
    (∀ line ∈ state.processPhase.inHand ++ state.parserSpool.texts,
      readers.parserLine line ≠ .raises) ∧
    state.parserSpool.texts.length < parserDue state

theorem not_writerSafe_iff : ¬WriterSafe readers state ↔ WriterStuck readers state := by
  unfold WriterSafe WriterStuck
  simp

theorem writerStuck_goesOn (stuck : WriterStuck readers state) :
    ∃ action after, drainStep readers state action = some after ∧ WriterStuck readers after := by
  obtain ⟨alive, reads, more⟩ := stuck
  have runs : writerRuns state = true := by
    have counted : state.writerSpool.count ≠ 0 := by omega
    unfold writerRuns
    rw [alive]
    cases state.writerPhase with
    | polling => simp [counted]
    | spooling line => rfl
    | counting => rfl
    | storing count => rfl
  refine ⟨.writer none [], writerStep readers none [] state, if_pos runs, ?_⟩
  unfold writerStep
  cases state.writerPhase with
  | spooling line => exact ⟨alive, reads, more⟩
  | counting => exact ⟨alive, reads, more⟩
  | storing count => exact ⟨alive, reads, more⟩
  | polling =>
    -- whatever the queue holds, a failing write changes nothing of the spool
    have queued : ∀ state, WriterStuck readers state →
        WriterStuck readers (writeQueued readers none state) := by
      intro state stuck
      unfold writeQueued
      split
      · exact stuck
      · exact stuck
    dsimp only
    unfold writerRound
    rcases state.writerSpool.readline_cases with ⟨nothing, -⟩ | ⟨line, rest, read, texts, count, -⟩
    · rw [nothing]
      exact queued state ⟨alive, reads, more⟩
    · rw [read]
      have records : state.writerSpool.records readers.writerLine =
          rest.records readers.writerLine + if readers.writerLine line = .record then 1 else 0 :=
        Spool.records_of_texts texts
      rw [texts] at reads
      obtain ⟨fine, others⟩ := forall_mem_cons.mp reads
      cases kind : readers.writerLine line with
      | raises => exact absurd kind fine
      | malformed =>
        dsimp only
        rw [kind]
        refine queued _ ⟨alive, others, ?_⟩
        show rest.records readers.writerLine < rest.count
        omega
      | record =>
        rw [kind, if_pos rfl] at records
        dsimp only
        rw [kind]
        refine ⟨alive, others, ?_⟩
        show rest.records readers.writerLine < rest.count - 1
        omega

theorem processStuck_goesOn (stuck : ProcessStuck readers state) :
    ∃ action after, drainStep readers state action = some after ∧ ProcessStuck readers after := by
  obtain ⟨alive, reads, more⟩ := stuck
  unfold parserDue at more
  have runs : processRuns state = true := by
    unfold processRuns
    rw [alive]
    cases phase : state.processPhase with
    | polling =>
      rw [phase] at more
      dsimp only at more
      have counted : state.parserSpool.count ≠ 0 := by omega
      simp [counted]
    | counting line => rfl
    | storing line count => rfl
    | getting => rfl
  refine ⟨.process false, processStep readers false state, if_pos runs, ?_⟩
  unfold processStep
  cases phase : state.processPhase with
  | polling =>
    rw [phase] at more reads
    dsimp only at more ⊢
    rcases state.parserSpool.readline_cases with ⟨nothing, -⟩ | ⟨line, rest, read, texts, count, -⟩
    · rw [nothing]
      exact ⟨alive, reads, more⟩
    · rw [read]
      have length : state.parserSpool.texts.length = rest.texts.length + 1 := by
        rw [texts, length_cons]
      refine ⟨alive, ?_, ?_⟩
      · rw [texts] at reads
        exact reads
      · show rest.texts.length < rest.count - 1
        omega
  | counting line =>
    rw [phase] at more reads
    exact ⟨alive, reads, more⟩
  | storing line count =>
    rw [phase] at more reads
    obtain ⟨fine, others⟩ := forall_mem_cons.mp reads
    dsimp only
    unfold processLine
    cases kind : readers.parserLine line with
    | raises => exact absurd kind fine
    | malformed => exact ⟨alive, others, more⟩
    | record => exact ⟨rfl, others, more⟩
  | getting =>
    rw [phase] at more reads
    exact ⟨rfl, reads, more⟩

/-- The threads end when their spools let them, whatever else happens and however their steps
follow one another; the writer does not when it counts more than it can decode, nor the
processing thread when it counts more than it can read. -/
theorem drain_ends (readers : SpoolReaders) (state : DrainState) :
    (Drains readers state → DrainEnds readers state) ∧
      (DrainEnds readers state → WriterSafe readers state ∧ ¬ProcessStuck readers state) := by
  refine ⟨drainEnds_of_drains, ?_⟩
  rintro ⟨bound, within⟩
  constructor
  · by_contra unsafe'
    exact not_runsWithin_of_goesOn (WriterStuck _) (fun _ => writerStuck_goesOn)
      (not_writerSafe_iff.mp unsafe') bound within
  · intro stuck
    exact not_runsWithin_of_goesOn (ProcessStuck _) (fun _ => processStuck_goesOn) stuck
      bound within

/-- One empty line in the spool of the writer is counted for ever. -/
theorem not_drainEnds_emptyLine :
    ¬∀ (readers : SpoolReaders) (spooled parsed : List UInt8) (queue parserQueue : Nat),
      DrainEnds readers
        ⟨.opened spooled 0, queue, .polling, .opened parsed 0, parserQueue, .polling, false,
          false⟩ := by
  intro ends
  obtain ⟨bound, within⟩ := ends ⟨fun _ => .malformed, fun _ => .malformed, 1⟩ [10] [] 0 0
  refine not_runsWithin_of_goesOn (WriterStuck _) (fun _ => writerStuck_goesOn) ?_ bound within
  exact ⟨rfl, fun _ _ => nofun, by decide⟩

/-- An envelope for a full queue goes into the empty parser spool; the processing thread reads
its line at a count of nothing, and only then it is counted, for ever. -/
theorem not_drainEnds_race {line : List UInt8} (queue : Nat) (room : 0 < readers.capacity)
    (quiet : readers.parserLine line ≠ .raises) :
    ¬DrainEnds readers ⟨⟨[], [], 0⟩, queue + 1, .polling, ⟨[], [], 0⟩, readers.capacity, .polling,
      false, false⟩ := by
  rintro ⟨bound, within⟩
  have full : readers.capacity ≠ 0 := Nat.ne_of_gt room
  -- the writer finds the queue full and appends, the other thread reads and counts down
  have spools : ∃ phase, runFrom (drainStep readers) ⟨⟨[], [], 0⟩, queue + 1, .polling,
        ⟨[], [], 0⟩, readers.capacity, .polling, false, false⟩
        [.writer (some line) [], .writer (some line) [], .process false, .process false,
          .process false, .writer none [], .writer none []] =
        some ⟨⟨[], [], 0⟩, queue, .polling, ⟨[], [], 1⟩, readers.capacity, phase, false, false⟩ ∧
      (phase = .polling ∨ phase = .getting) := by
    cases kind : readers.parserLine line with
    | raises => exact absurd kind quiet
    | malformed =>
      refine ⟨.getting, ?_, .inr rfl⟩
      simp [runFrom, drainStep, writerRuns, writerStep, writerRound, writeQueued, handOver,
        Spool.append, processRuns, full, processStep, Spool.readline, processLine, kind]
    | record =>
      refine ⟨.polling, ?_, .inl rfl⟩
      simp [runFrom, drainStep, writerRuns, writerStep, writerRound, writeQueued, handOver,
        Spool.append, processRuns, full, processStep, Spool.readline, processLine, kind]
  obtain ⟨phase, taken, idle⟩ := spools
  refine not_runsWithin_of_goesOn (ProcessStuck _) (fun _ => processStuck_goesOn) ?_ bound
    (within.behind taken)
  rcases idle with rfl | rfl
  · exact ⟨rfl, fun _ mem => absurd mem not_mem_nil, Nat.zero_lt_one⟩
  · exact ⟨rfl, fun _ mem => absurd mem not_mem_nil, Nat.zero_lt_one⟩

end NetConsole.Syslog
