import NetConsole.Foundations.RecordLog
import NetConsole.Foundations.GuardedRuns
import NetConsole.Worker.Protocol

/-!
# The traffic event store

`TrafficEventStore` appends the events of a traffic run to `events.jsonl` in the
directory of the run, one JSON object to a line. Each event gets the next local
sequence; an event of the agent brings a remote sequence, and is left out when
the file already holds that one or a later one.

Where to continue is the watermark of the file. It is read from the file and
from the row of the run, and then kept in memory for the life of the process
(for the 4096 files used last). `append_many` runs under the lock of its file,
so that it is one step here; what can fail in it is `AppendFault`. That lock is
one of the process, kept among those used last: the appends to a file come one
after another, also those of several processes, and no lock is evicted while held.

What the standard library does with texts and paths, and the JSON lines, is
collected in `TrafficLibrary`.
-/

set_option autoImplicit false

namespace NetConsole.Traffic

open Foundations
open Worker (Json strip)

/-! ## Events -/

/-- The types of traffic events. -/
inductive TrafficEventType where
  | state | stdout | stderr | sample | summary | error | system
  deriving DecidableEq

/-- A line of an event file. -/
structure TrafficEvent where
  (trafficRunId controllerTaskId source : String)
  type : TrafficEventType
  payload : Json
  timestamp : String
  sequence : Int
  remoteSequence : Option Int

/-- What `_watermark` reads of a stored event. -/
structure EventHeader where
  trafficRunId : String
  sequence : Int
  remoteSequence : Option Int
  deriving DecidableEq

def TrafficEvent.header (event : TrafficEvent) : EventHeader :=
  ⟨event.trafficRunId, event.sequence, event.remoteSequence⟩

/-- How a call fails. -/
inductive TrafficError where
  | valueError (message : String)
  | keyError (trafficRunId : String)
  | osError
  deriving DecidableEq

/-! ## The standard library -/

/-- What the standard library computes. `jsonLines` writes `json.dumps` of
`to_dict` in UTF-8, and reads a line that `json.loads` turns into a dictionary;
`json.dumps` escapes both line end characters. -/
structure TrafficLibrary where
  casefold : String → String
  redactAbsolutePaths : String → String
  pathName : String → String
  jsonLines : LineCodec TrafficEvent EventHeader UInt8
  newline_eq : jsonLines.newline = 10
  view_eq : ∀ event, jsonLines.view event = event.header
  return_notMem : ∀ event, 13 ∉ jsonLines.encode event

variable (lib : TrafficLibrary)

/-! ## Payloads -/

/-- The names that no payload may have as a part of a key. -/
def sensitiveParts : List String := ["authorization", "credential", "password", "secret", "token"]

/-- The field holds a secret. -/
def isSensitiveKey (key : String) : Bool :=
  let normalized :=
    (lib.casefold (String.ofList (strip key.toList))).toList.map fun char =>
      if char = '_' then '-' else char
  sensitiveParts.any fun part => decide (part.toList <:+: normalized)

mutual
/-- The payload without absolute paths; a field with a secret is refused. -/
def sanitizePayload : Json → Except TrafficError Json
  | .obj fields => (sanitizeFields fields).map .obj
  | .arr items => (sanitizeItems items).map .arr
  | .str value => .ok (.str (lib.redactAbsolutePaths value))
  | value => .ok value

def sanitizeFields : List (String × Json) → Except TrafficError (List (String × Json))
  | [] => .ok []
  | (key, item) :: rest =>
    if isSensitiveKey lib key then
      .error (.valueError ("sensitive field is not allowed in traffic event storage: " ++ key))
    else do
      let sanitized ← sanitizePayload item
      let others ← sanitizeFields rest
      return (key, sanitized) :: others

def sanitizeItems : List Json → Except TrafficError (List Json)
  | [] => .ok []
  | item :: rest => do
    let sanitized ← sanitizePayload item
    let others ← sanitizeItems rest
    return sanitized :: others
end

/-- `replace(event, payload=_sanitize_payload(event.payload))`. -/
def sanitizeEvent (event : TrafficEvent) : Except TrafficError TrafficEvent :=
  (sanitizePayload lib event.payload).map fun payload => { event with payload := payload }

/-! ## The store -/

/-- The name of the directory of a run, from `traffic_run_dir`. -/
def trafficRunName (trafficRunId : String) : Option String :=
  let value := String.ofList (strip trafficRunId.toList)
  if value = "" ∨ value = "." ∨ value = ".." ∨ lib.pathName value ≠ value ∨
      value.toList.contains '/' ∨ value.toList.contains '\\' then none
  else some value

/-- The local and the remote sequence that a file has come to. -/
abbrev Watermark := Int × Int

/-- The event files by the names of their runs, the watermarks in memory in the
order of their last use, and `last_event_sequence` of the rows of the runs. -/
structure EventStore where
  files : String → List UInt8
  watermarks : List (String × Watermark)
  runs : String → Option Int

/-- No file, no watermark and no run. -/
def EventStore.new : EventStore := ⟨fun _ => [], [], fun _ => none⟩

def maxWatermarks : Nat := 4096

/-- The loop of `_set_watermark` that forgets the entries used longest ago. -/
def forgetOldest : List (String × Watermark) → List (String × Watermark)
  | [] => []
  | oldest :: rest =>
    if maxWatermarks < (oldest :: rest).length then forgetOldest rest else oldest :: rest

/-- The newest entry of the cache stands last. -/
def setWatermark (watermarks : List (String × Watermark)) (name : String)
    (value : Watermark) : List (String × Watermark) :=
  forgetOldest (watermarks.filter (fun entry => entry.1 != name) ++ [(name, value)])

/-- `_get_watermark`: the entry that it finds becomes the one used last. -/
def getWatermark (watermarks : List (String × Watermark)) (name : String) :
    Option Watermark × List (String × Watermark) :=
  match watermarks.lookup name with
  | none => (none, watermarks)
  | some value =>
    (some value, watermarks.filter (fun entry => entry.1 != name) ++ [(name, value)])

/-- The watermark after a line. -/
def raiseWatermark (trafficRunId : String) (reached : Watermark) (header : EventHeader) :
    Watermark :=
  if header.trafficRunId = trafficRunId then
    (max reached.1 header.sequence, (header.remoteSequence.map (max reached.2)).getD reached.2)
  else reached

/-- The watermark that the lines and the row give. -/
def readWatermark (trafficRunId : String) (headers : List EventHeader)
    (lastEventSequence : Option Int) : Watermark :=
  let (controller, remote) := headers.foldl (raiseWatermark trafficRunId) (0, 0)
  ((lastEventSequence.map (max controller)).getD controller, remote)

/-- The last numbers of a run, cached or read from its file. -/
def watermark (store : EventStore) (trafficRunId name : String) : Watermark × EventStore :=
  match getWatermark store.watermarks name with
  | (some cached, watermarks) => (cached, { store with watermarks := watermarks })
  | (none, watermarks) =>
    let result := readWatermark trafficRunId (lib.jsonLines.read (store.files name))
      (store.runs trafficRunId)
    (result, { store with watermarks := setWatermark watermarks name result })

/-- The events that are new, with their sequences, and the watermark after them. -/
def acceptEvents : Watermark → List TrafficEvent →
    Except TrafficError (Watermark × List TrafficEvent)
  | reached, [] => .ok (reached, [])
  | (controller, remote), event :: rest =>
    match event.remoteSequence with
    | none => do
      let (last, accepted) ← acceptEvents (controller + 1, remote) rest
      return (last, { event with sequence := controller + 1 } :: accepted)
    | some candidate =>
      if candidate ≤ 0 then .error (.valueError "remote_sequence must be positive")
      else if candidate ≤ remote then acceptEvents (controller, remote) rest
      else do
        let (last, accepted) ← acceptEvents (controller + 1, candidate) rest
        return (last, { event with sequence := controller + 1 } :: accepted)

/-- The file does not end with a line end. -/
def needsLineSeparator (file : List UInt8) : Bool :=
  match file.getLast? with
  | none => false
  | some byte => byte != 10 && byte != 13

/-- The text that a batch appends. -/
def batchText (file : List UInt8) (accepted : List TrafficEvent) : List UInt8 :=
  (if needsLineSeparator file then [10] else []) ++ lib.jsonLines.lines accepted

/-- A file with something appended. -/
def EventStore.appendFile (store : EventStore) (name : String) (text : List UInt8) : EventStore :=
  { store with files := Function.update store.files name (store.files name ++ text) }

/-- The sequence of a run never goes back. -/
def updateLastEventSequence (store : EventStore) (trafficRunId : String) (sequence : Int) :
    EventStore × Except TrafficError Unit :=
  match store.runs trafficRunId with
  | none => (store, .error (.keyError trafficRunId))
  | some last =>
    ({ store with
        runs := Function.update store.runs trafficRunId (some (max last (max 0 sequence))) },
      .ok ())

/-- Where an append fails: while `_watermark` reads, before the file is open for
writing, while it is written (so many bytes have reached the disk), or when the
row of the run is updated. -/
inductive AppendFault where
  | none | reading | opening
  | writing (written : Nat)
  | updating
  deriving DecidableEq

/-- What `append_many` does with the lock of the file. -/
def appendLocked (store : EventStore) (trafficRunId name : String) (pending : List TrafficEvent)
    (fault : AppendFault) : EventStore × Except TrafficError (List TrafficEvent) :=
  if fault = .reading then (store, .error .osError)
  else
    let (reached, store) := watermark lib store trafficRunId name
    match acceptEvents reached pending with
    | .error raised => (store, .error raised)
    | .ok (last, accepted) =>
      if accepted.isEmpty then (store, .ok [])
      else
        let text := batchText lib (store.files name) accepted
        match fault with
        | .opening => (store, .error .osError)
        | .writing written => (store.appendFile name (text.take written), .error .osError)
        | _ =>
          let appended := store.appendFile name text
          let store := { appended with watermarks := setWatermark appended.watermarks name last }
          if fault = .updating then (store, .error .osError)
          else
            let (store, updated) := updateLastEventSequence store trafficRunId last.1
            (store, updated.map fun _ => accepted)

/-- `append_many`. -/
def appendMany (store : EventStore) (events : List TrafficEvent) (fault : AppendFault) :
    EventStore × Except TrafficError (List TrafficEvent) :=
  match events.mapM (sanitizeEvent lib) with
  | .error raised => (store, .error raised)
  | .ok [] => (store, .ok [])
  | .ok (first :: others) =>
    if first.trafficRunId = "" ∨
        (first :: others).any (fun event => event.trafficRunId != first.trafficRunId) then
      (store, .error (.valueError "traffic event batch must contain one non-empty traffic_run_id"))
    else
      match trafficRunName lib first.trafficRunId with
      | none => (store, .error (.valueError "invalid traffic_run_id"))
      | some name =>
        appendLocked lib store first.trafficRunId name (first :: others) fault

/-! ## The life of a store -/

/-- What happens to a store. The rows of the runs are written by others as well. -/
inductive StoreAction where
  | append (events : List TrafficEvent) (fault : AppendFault)
  | restart
  | saveRun (trafficRunId : String) (lastEventSequence : Option Int)

/-- A step; a restart loses what is in memory. -/
def StoreAction.perform (store : EventStore) : StoreAction → Option EventStore
  | .append events fault => some (appendMany lib store events fault).1
  | .restart => some { store with watermarks := [] }
  | .saveRun trafficRunId lastEventSequence =>
    some { store with runs := Function.update store.runs trafficRunId lastEventSequence }

end NetConsole.Traffic
