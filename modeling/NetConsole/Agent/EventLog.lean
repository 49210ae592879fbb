import NetConsole.Foundations.RecordLog
import NetConsole.Foundations.GuardedRuns

/-!
# The event log of an agent task

Every task of the agent keeps `events.jsonl` in its directory: one JSON event to
a line, numbered from one. The store counts in memory; when it is opened it
takes the last number from the file. A reader asks for a page of the events
after a number, and goes on after the last one that it got.

`append` opens the file for each event and writes the text and its line end with
one call. A write that fails leaves any part of them, and the store does not look
at how the file ends before it writes the next event.

Both readers go through the file with a scanner that holds 4 MiB. A longer line
stops it: the page then fails, while `lastSequence` keeps what it has seen.

`encoding/json` is `EventJson`: an event is read back from its own text, no
proper part of the text reads as an event, and the text escapes the line ends.
The steps of an `EventLog` are the calls on one file, by one store at a time and
by one client that goes on from page to page.
-/

set_option autoImplicit false

namespace NetConsole.Agent

open Foundations

/-! ## Events -/

/-- A task event of the agent. -/
structure Event (Payload : Type) where
  sequence : Int
  (timestamp type source : String)
  payload : Payload
  deriving DecidableEq

/-- A page of the events of a task. -/
structure EventPage (Payload : Type) where
  taskID : String
  events : List (Event Payload)
  nextAfter : Int
  hasMore : Bool

/-- The errors of `readEventPage`: `ErrInvalidEventCursor` and
`bufio.ErrTooLong`. -/
inductive EventError where
  | invalidEventCursor | tooLong
  deriving DecidableEq

/-- What `encoding/json` makes of events. `decoded` is the event as it is read
back: the numbers of its payload become floats. -/
structure EventJson (Payload : Type) where
  marshal : Event Payload → Option (List UInt8)
  unmarshal : List UInt8 → Option (Event Payload)
  decoded : Event Payload → Event Payload
  emptyPayload : Payload
  decoded_sequence : ∀ event, (decoded event).sequence = event.sequence
  unmarshal_marshal : ∀ event text, marshal event = some text →
    unmarshal text = some (decoded event)
  unmarshal_part : ∀ event text part, marshal event = some text → part <+: text → part ≠ text →
    unmarshal part = none
  unmarshal_nil : unmarshal [] = none
  newline_notMem : ∀ event text, marshal event = some text → 10 ∉ text
  return_notMem : ∀ event text, marshal event = some text → 13 ∉ text

variable {Payload : Type}

/-! ## Scanning -/

/-- The end of a line. -/
abbrev newline : UInt8 := 10

/-- What the scanners hold at most. -/
def maxTokenSize : Nat := 4 * 1024 * 1024

/-- The lines of a file; what follows the last line end is a line if there is
any. -/
def scanLines (bytes : List UInt8) : List (List UInt8) :=
  (frames newline bytes).1 ++
    if (frames newline bytes).2 = [] then [] else [(frames newline bytes).2]

/-- `bufio.ScanLines` leaves out a carriage return at the end of a line. -/
def dropReturn (line : List UInt8) : List UInt8 :=
  if line.getLast? = some 13 then line.dropLast else line

variable (json : EventJson Payload)

/-- The loop of `readEventPage`. -/
def collectEvents (after limit : Int) :
    EventPage Payload → List (List UInt8) → Except EventError (EventPage Payload)
  | page, [] => .ok page
  | page, line :: lines =>
    -- The scanner's buffer is full before it has seen the end of the line.
    if maxTokenSize ≤ line.length then .error .tooLong
    else
      match json.unmarshal (dropReturn line) with
      | none => collectEvents after limit page lines
      | some event =>
        if event.sequence ≤ after then collectEvents after limit page lines
        else if limit ≤ page.events.length then .ok { page with hasMore := true }
        else
          collectEvents after limit
            { page with events := page.events ++ [event], nextAfter := event.sequence } lines

/-- The limit that a page keeps to: `defaultEventLimit` if none is given, and at
most `maxEventLimit`. -/
def eventLimit (limit : Int) : Int :=
  let given := if limit ≤ 0 then 200 else limit
  if given > 1000 then 1000 else given

/-- A page of the events in a file. -/
def readEventPage (taskID : String) (file : Option (List UInt8)) (after limit : Int) :
    Except EventError (EventPage Payload) :=
  if after < 0 then .error .invalidEventCursor
  else
    let page : EventPage Payload := ⟨taskID, [], after, false⟩
    match file with
    | none => .ok page
    | some bytes => collectEvents json after (eventLimit limit) page (scanLines bytes)

/-- The loop of `lastSequence`. -/
def greatestSequence : Int → List (List UInt8) → Int
  | last, [] => last
  | last, line :: lines =>
    if maxTokenSize ≤ line.length then last
    else
      match json.unmarshal (dropReturn line) with
      | none => greatestSequence last lines
      | some event =>
        greatestSequence (if event.sequence > last then event.sequence else last) lines

/-- The number of the last event in a file. -/
def lastSequence (file : Option (List UInt8)) : Int :=
  match file with
  | none => 0
  | some bytes => greatestSequence json 0 (scanLines bytes)

/-! ## Appending -/

/-- `eventStore`, with the file at its path. -/
structure EventStore where
  file : Option (List UInt8)
  sequence : Int

def EventStore.bytes (store : EventStore) : List UInt8 := store.file.getD []

/-- The arguments of `append`, and the time. -/
structure AppendCall (Payload : Type) where
  (eventType source : String)
  payload : Option Payload
  timestamp : String

/-- What becomes of opening, writing and closing the file. A write that fails
leaves a part of the bytes; `torn` with all of them is a failure of the close. -/
inductive WriteOutcome where
  | notOpened | written
  | torn (left : List UInt8)

/-- The bytes that reach the file. -/
def WriteOutcome.landing (text : List UInt8) : WriteOutcome → List UInt8
  | .notOpened => []
  | .written => text ++ [newline]
  | .torn left => left

/-- The event that `append` is about to write. -/
def EventStore.event (store : EventStore) (call : AppendCall Payload) : Event Payload where
  sequence := store.sequence + 1
  timestamp := call.timestamp
  type := call.eventType
  source := call.source
  payload := call.payload.getD json.emptyPayload

/-- The store after bytes of the next event have reached the file. -/
def EventStore.landed (store : EventStore) (bytes : List UInt8) : EventStore :=
  ⟨some (store.bytes ++ bytes), store.sequence + 1⟩

/-- `append`: the event if no error is returned, and the store. -/
def EventStore.append (store : EventStore) (call : AppendCall Payload) (outcome : WriteOutcome) :
    Option (Option (Event Payload) × EventStore) :=
  match json.marshal (store.event json call) with
  -- The number is taken back if the event cannot be encoded or the file not opened.
  | none => some (none, store)
  | some text =>
    match outcome with
    | .notOpened => some (none, store)
    | .written => some (some (store.event json call), store.landed (text ++ [newline]))
    | .torn left =>
      if left <+: text ++ [newline] then some (none, store.landed left) else none

/-! ## Runs -/

/-- A log with its store, the events that were appended without an error, and the
client: the number after which it goes on, and the events that it got. -/
structure EventLog (Payload : Type) where
  store : EventStore
  succeeded : List (Event Payload)
  after : Int
  received : List (Event Payload)

/-- What is done with a log. -/
inductive LogAction (Payload : Type) where
  | append (call : AppendCall Payload) (outcome : WriteOutcome)
  | reopen
  | page (taskID : String) (limit : Int)

namespace EventLog

/-- The log of a new task: there is no file yet. -/
def new : EventLog Payload where
  store := ⟨none, lastSequence json none⟩
  succeeded := []
  after := 0
  received := []

/-- What an action makes of a log. -/
def step (log : EventLog Payload) : LogAction Payload → Option (EventLog Payload)
  | .append call outcome =>
    (log.store.append json call outcome).map fun (event, store) =>
      { log with
        store := store, succeeded := log.succeeded ++ event.toList }
  | .reopen =>
    some { log with store := ⟨log.store.file, lastSequence json log.store.file⟩ }
  | .page taskID limit =>
    match readEventPage json taskID log.store.file log.after limit with
    | .ok page =>
      some { log with
          after := page.nextAfter, received := log.received ++ page.events }
    | .error _ => some log

/-- What is written next starts a line of its own. -/
def StartsLine (bytes : List UInt8) : Prop :=
  bytes = [] ∨ bytes.getLast? = some newline

instance (bytes : List UInt8) : Decidable (StartsLine bytes) :=
  inferInstanceAs (Decidable (_ ∨ _))

/-- Bytes may reach a file if they start a line of its own there, and the scanners
hold that line. -/
def MayLand (bytes landing : List UInt8) : Prop :=
  landing = [] ∨ StartsLine bytes ∧
    (landing.takeWhile fun byte => decide (byte ≠ newline)).length < maxTokenSize

instance (bytes landing : List UInt8) : Decidable (MayLand bytes landing) :=
  inferInstanceAs (Decidable (_ ∨ _ ∧ _))

/-- Every event that reaches the file starts a line of its own, which the
scanners hold. -/
def WritesWhole (log : EventLog Payload) : LogAction Payload → Prop
  | .append call outcome =>
    ∀ text ∈ json.marshal (log.store.event json call),
      MayLand log.store.bytes (outcome.landing text)
  | _ => True

instance (log : EventLog Payload) :
    (action : LogAction Payload) → Decidable (log.WritesWhole json action)
  | .append call outcome =>
    inferInstanceAs (Decidable (∀ text ∈ json.marshal (log.store.event json call),
      MayLand log.store.bytes (outcome.landing text)))
  | .reopen => .isTrue trivial
  | .page _ _ => .isTrue trivial

/-- What a log promises: the numbers of the events that were appended go up, every
page can be read, and a client that goes on until there is no more has got every
event that was appended, once and in order. -/
structure Delivers (log : EventLog Payload) : Prop where
  increasing : log.succeeded.Pairwise fun first second => first.sequence < second.sequence
  readable : ∀ taskID after limit, 0 ≤ after →
    ∃ page, readEventPage json taskID log.store.file after limit = .ok page
  pages : ∀ taskID limit, ∃ page,
    readEventPage json taskID log.store.file log.after limit = .ok page ∧
      ((log.received ++ page.events).Pairwise fun first second =>
        first.sequence < second.sequence) ∧
      (page.hasMore = true → page.events ≠ []) ∧
      (page.hasMore = false →
        (log.succeeded.map json.decoded).Sublist (log.received ++ page.events))

end EventLog

end NetConsole.Agent
