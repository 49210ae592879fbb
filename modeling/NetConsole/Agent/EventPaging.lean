import NetConsole.Foundations.CursorPages
import NetConsole.Agent.EventLog

/-!
# Paging through the event log

As long as the lines of the file fit the scanners, a page holds the first events
behind its cursor (`readEventPage_eq`), and `lastSequence` is the greatest number
in the file (`lastSequence_spec`).

`Kept` is the invariant of a log whose events start lines of their own: the
numbers in the file go up to that of the store, the events that were appended
are among those of the file, and the client has those up to its cursor. With it
the log delivers (`delivers_run`). An event that is written behind the rest of a
failed write is lost instead.
-/

set_option autoImplicit false

namespace NetConsole.Agent

open Foundations List Option

variable {Payload : Type} (json : EventJson Payload)

/-! ## The lines -/

variable {line : List UInt8}

theorem dropReturn_of_notMem (free : 13 ∉ line) : dropReturn line = line := by
  rw [dropReturn, if_neg]
  intro ends
  exact free (mem_of_getLast? ends)

def EventJson.lineCodec :
    LineCodec { written : Event Payload × List UInt8 // json.marshal written.1 = some written.2 }
      (Event Payload) UInt8 where
  newline := newline
  encode written := written.val.2
  decode line := json.unmarshal (dropReturn line)
  view written := json.decoded written.val.1
  decode_encode := by
    intro written
    rw [dropReturn_of_notMem (json.return_notMem _ _ written.property)]
    exact json.unmarshal_marshal _ _ written.property
  decode_part := by
    intro written part cut other
    have free : 13 ∉ part := by
      intro mem
      exact json.return_notMem _ _ written.property (cut.subset mem)
    rw [dropReturn_of_notMem free]
    exact json.unmarshal_part _ _ _ written.property cut other
  newline_notMem written := json.newline_notMem _ _ written.property
  decode_nil := json.unmarshal_nil

def eventsOf (lines : List (List UInt8)) : List (Event Payload) :=
  lines.filterMap fun line => json.unmarshal (dropReturn line)

variable {json} in
theorem eventsOf_cons_none (read : json.unmarshal (dropReturn line) = none)
    (lines : List (List UInt8)) : eventsOf json (line :: lines) = eventsOf json lines := by
  simp [eventsOf, read]

variable {event : Event Payload}

variable {json} in
theorem eventsOf_cons_some (read : json.unmarshal (dropReturn line) = some event)
    (lines : List (List UInt8)) : eventsOf json (line :: lines) = event :: eventsOf json lines := by
  simp [eventsOf, read]

/-- The events that a file says. -/
def eventsIn (bytes : List UInt8) : List (Event Payload) := json.lineCodec.read bytes

@[simp] theorem eventsIn_nil : eventsIn json [] = [] := json.lineCodec.read_nil

theorem eventsIn_eq (bytes : List UInt8) :
    eventsOf json (scanLines bytes) = eventsIn json bytes := by
  have empty : json.unmarshal (dropReturn []) = none := json.unmarshal_nil
  unfold eventsOf scanLines eventsIn LineCodec.read LineCodec.complete
  simp only [filterMap_append, EventJson.lineCodec]
  congr 1
  split
  · next ended => simp [ended, empty]
  · rw [filterMap_cons]
    cases json.unmarshal (dropReturn (frames newline bytes).2) <;> rfl

/-- The scanners hold every line. -/
def LinesFit (bytes : List UInt8) : Prop := ∀ line ∈ scanLines bytes, line.length < maxTokenSize

theorem linesFit_nil : LinesFit [] := by
  intro line mem
  cases mem

/-! ## What the readers see -/

/-- The events after a number. -/
abbrev eventsBehind (after : Int) (events : List (Event Payload)) : List (Event Payload) :=
  behind Event.sequence after events

variable {lines : List (List UInt8)}

theorem collectEvents_eq {after limit : Int} {page : EventPage Payload}
    (fit : ∀ line ∈ lines, line.length < maxTokenSize) (room : (page.events.length : Int) ≤ limit)
    (first : page.hasMore = false) :
    ∃ got rest, eventsBehind after (eventsOf json lines) = got ++ rest ∧
      ((page.events ++ got).length : Int) ≤ limit ∧
      (rest ≠ [] → ((page.events ++ got).length : Int) = limit) ∧
      collectEvents json after limit page lines = .ok { page with
              events := page.events ++ got
              nextAfter := cursorAfter Event.sequence page.nextAfter got
              hasMore := decide (rest ≠ []) } := by
  induction lines generalizing page with
  | nil =>
    refine ⟨[], [], rfl, by simpa using room, by simp, ?_⟩
    simp [collectEvents, cursorAfter, ← first]
  | cons line lines ih =>
    have short : ¬ maxTokenSize ≤ line.length := not_le.mpr (fit line (by simp))
    have others : ∀ line ∈ lines, line.length < maxTokenSize :=
      fun line mem => fit line (by simp [mem])
    simp only [collectEvents, if_neg short]
    cases read : json.unmarshal (dropReturn line) with
    | none =>
      simp only [eventsOf_cons_none read]
      exact ih others room first
    | some event =>
      simp only [eventsOf_cons_some read]
      by_cases old : event.sequence ≤ after
      · have skipped (events : List (Event Payload)) :
            eventsBehind after (event :: events) = eventsBehind after events := by
          simp [behind, not_lt.mpr old]
        simp only [if_pos old, skipped]
        exact ih others room first
      · have fresh (events : List (Event Payload)) :
            eventsBehind after (event :: events) = event :: eventsBehind after events := by
          simp [behind, not_le.mp old]
        simp only [if_neg old, fresh]
        by_cases full : limit ≤ page.events.length
        · refine ⟨[], event :: eventsBehind after (eventsOf _ lines), rfl, by simpa using room,
            ?_, ?_⟩
          · intro _
            simpa using le_antisymm room full
          · simp [if_pos full, cursorAfter]
        · rw [if_neg full]
          have fits : ((page.events ++ [event]).length : Int) ≤ limit := by
            rw [length_append, length_singleton]
            omega
          have next := @ih { page with
              events := page.events ++ [event], nextAfter := event.sequence } others fits first
          obtain ⟨got, rest, split, bound, filled, collected⟩ := next
          simp only [append_assoc, singleton_append] at bound filled collected
          refine ⟨event :: got, rest, by rw [split]; rfl, bound, filled, ?_⟩
          rw [collected]
          have cursor : cursorAfter Event.sequence event.sequence got =
              cursorAfter Event.sequence page.nextAfter (event :: got) := by
            rcases eq_nil_or_concat got with rfl | ⟨_, _, rfl⟩
            · rfl
            · rw [concat_eq_append, ← cons_append]
              rw [cursorAfter_concat, cursorAfter_concat]
          rw [cursor]

theorem eventLimit_pos (limit : Int) : 0 < eventLimit limit := by
  unfold eventLimit
  grind

variable {file : Option (List UInt8)}

theorem readEventPage_eq {after : Int} (fit : LinesFit (file.getD [])) (valid : 0 ≤ after)
    (taskID : String) (limit : Int) :
    ∃ got rest, eventsBehind after (eventsIn json (file.getD [])) = got ++ rest ∧
      (rest ≠ [] → got ≠ []) ∧ readEventPage json taskID file after limit =
        .ok ⟨taskID, got, cursorAfter Event.sequence after got, decide (rest ≠ [])⟩ := by
  have positive := eventLimit_pos limit
  unfold readEventPage
  rw [if_neg (not_lt.mpr valid)]
  cases file with
  | none => exact ⟨[], [], by simp [behind], by simp, rfl⟩
  | some bytes =>
    have room : ((⟨taskID, [], after, false⟩ : EventPage Payload).events.length : Int) ≤
        eventLimit limit := positive.le
    obtain ⟨got, rest, split, -, filled, collected⟩ := collectEvents_eq _ fit room rfl
    rw [eventsIn_eq] at split
    refine ⟨got, rest, split, ?_, by simpa using collected⟩
    intro more empty
    subst empty
    have := filled more
    simp at this
    omega

theorem greatestSequence_spec (fit : ∀ line ∈ lines, line.length < maxTokenSize) (last : Int) :
    last ≤ greatestSequence json last lines ∧
      ∀ event ∈ eventsOf json lines, event.sequence ≤ greatestSequence json last lines := by
  induction lines generalizing last with
  | nil => simp [greatestSequence, eventsOf]
  | cons line lines ih =>
    have short : ¬ maxTokenSize ≤ line.length := not_le.mpr (fit line (by simp))
    have others : ∀ line ∈ lines, line.length < maxTokenSize :=
      fun line mem => fit line (by simp [mem])
    simp only [greatestSequence, if_neg short]
    cases read : json.unmarshal (dropReturn line) with
    | none =>
      simp only [eventsOf_cons_none read]
      exact ih others last
    | some event =>
      simp only [eventsOf_cons_some read]
      have kept : last ≤ (if event.sequence > last then event.sequence else last) ∧
          event.sequence ≤ (if event.sequence > last then event.sequence else last) := by
        split <;> omega
      generalize (if event.sequence > last then event.sequence else last) = next at kept ⊢
      obtain ⟨_, all⟩ := ih others next
      refine ⟨by omega, ?_⟩
      intro other mem
      rcases mem_cons.mp mem with rfl | later
      · omega
      · exact all other later

theorem lastSequence_spec (fit : LinesFit (file.getD [])) : 0 ≤ lastSequence json file ∧
      ∀ event ∈ eventsIn json (file.getD []), event.sequence ≤ lastSequence json file := by
  cases file with
  | none => simp [lastSequence]
  | some bytes =>
    have spec := greatestSequence_spec json fit 0
    rw [eventsIn_eq] at spec
    exact spec

/-! ## What an append adds -/

variable {bytes : List UInt8}

theorem remainder_of_startsLine (starts : EventLog.StartsLine bytes) :
    (frames newline bytes).2 = [] :=
  (remainder_eq_nil_iff bytes).mpr starts

theorem scanLines_append (starts : EventLog.StartsLine bytes) (more : List UInt8) :
    scanLines (bytes ++ more) = scanLines bytes ++ scanLines more := by
  unfold scanLines
  rw [frames_append, remainder_of_startsLine starts]
  simp

variable {text : List UInt8}

theorem scanLines_part {part : List UInt8} (free : newline ∉ text)
    (cut : part <+: text ++ [newline]) :
    ∀ line ∈ scanLines part, line = part.takeWhile fun byte => decide (byte ≠ newline) := by
  intro line mem
  have within {more : List UInt8} (inside : more <+: text) :
      (more.takeWhile fun byte => decide (byte ≠ newline)) = more := by
    apply takeWhile_eq_self_iff.mpr
    intro byte inMore
    exact decide_eq_true fun equal => free (equal ▸ inside.subset inMore)
  unfold scanLines at mem
  rcases prefix_concat_iff.mp cut with rfl | inside
  · rw [frames_free_delimiter free, frames_nil, if_pos rfl, append_nil] at mem
    rw [mem_singleton.mp mem, takeWhile_append, within (prefix_refl text)]
    simp
  · rw [frames_of_free fun inPart => free (inside.subset inPart)] at mem
    rw [within inside]
    split at mem
    · cases mem
    · exact mem_singleton.mp mem

/-- The events of bytes that reach a file where they may. -/
theorem eventsIn_append {landing : List UInt8} (marshalled : json.marshal event = some text)
    (fit : LinesFit bytes) (cut : landing <+: text ++ [newline])
    (may : EventLog.MayLand bytes landing) : LinesFit (bytes ++ landing) ∧
      ∃ gained, eventsIn json (bytes ++ landing) = eventsIn json bytes ++ gained ∧
        (gained = [] ∨ gained = [json.decoded event]) := by
  rcases may with rfl | ⟨starts, short⟩
  · rw [append_nil]
    exact ⟨fit, [], by simp, .inl rfl⟩
  · constructor
    · intro line mem
      rw [scanLines_append starts] at mem
      rcases mem_append.mp mem with before | new
      · exact fit line before
      · rw [scanLines_part (json.newline_notMem _ _ marshalled) cut line new]
        exact short
    · have separate : json.lineCodec.separator bytes = [] := if_pos (remainder_of_startsLine starts)
      have part : landing <+:
          json.lineCodec.separator bytes ++ json.lineCodec.lines [⟨(event, text), marshalled⟩] := by
        rw [separate]
        exact cut
      obtain ⟨kept, first, said⟩ := json.lineCodec.read_append_part bytes _ part
      refine ⟨_, said, ?_⟩
      cases kept with
      | nil => exact .inl rfl
      | cons written kept =>
        obtain ⟨rfl, last⟩ := cons_prefix_cons.mp first
        obtain rfl := prefix_nil.mp last
        exact .inr rfl

theorem eventsIn_written (marshalled : json.marshal event = some text)
    (starts : EventLog.StartsLine bytes) :
    eventsIn json (bytes ++ (text ++ [newline])) = eventsIn json bytes ++ [json.decoded event] := by
  have whole := json.lineCodec.read_append_lines bytes [⟨(event, text), marshalled⟩]
  rw [show json.lineCodec.separator bytes = [] from if_pos
    (remainder_of_startsLine starts)] at whole
  exact whole

theorem append_cases {store after : EventStore} {call : AppendCall Payload}
    {outcome : WriteOutcome} {result : Option (Event Payload)}
    (taken : store.append json call outcome = some (result, after)) :
    result = none ∧ after = store ∨ ∃ text, json.marshal (store.event json call) = some text ∧
        outcome.landing text <+: text ++ [newline] ∧ after = store.landed (outcome.landing text) ∧
        (result = none ∨ result = some (store.event json call) ∧ outcome = .written) := by
  unfold EventStore.append at taken
  cases marshalled : json.marshal (store.event json call) with
  | none =>
    simp only [marshalled, some.injEq, Prod.mk.injEq] at taken
    exact .inl ⟨taken.1.symm, taken.2.symm⟩
  | some text =>
    simp only [marshalled] at taken
    cases outcome with
    | notOpened =>
      simp only [some.injEq, Prod.mk.injEq] at taken
      exact .inl ⟨taken.1.symm, taken.2.symm⟩
    | written =>
      simp only [some.injEq, Prod.mk.injEq] at taken
      exact .inr ⟨text, rfl, prefix_refl _, taken.2.symm, .inr ⟨taken.1.symm, rfl⟩⟩
    | torn left =>
      simp only at taken
      split at taken
      · next cut =>
        simp only [some.injEq, Prod.mk.injEq] at taken
        exact .inr ⟨text, rfl, cut, taken.2.symm, .inl taken.1.symm⟩
      · cases taken

/-! ## The invariant -/

namespace EventLog

/-- The events in the file of a log. -/
def said (log : EventLog Payload) : List (Event Payload) := eventsIn json log.store.bytes

/-- The invariant of a log that writes whole lines. -/
structure Kept (log : EventLog Payload) : Prop where
  fit : LinesFit log.store.bytes
  increasing : KeysIncrease Event.sequence (log.said json)
  counted : ∀ event ∈ log.said json, event.sequence ≤ log.store.sequence
  positive : ∀ event ∈ log.said json, 0 < event.sequence
  sequence_nonneg : 0 ≤ log.store.sequence
  appended : (log.succeeded.map json.decoded).Sublist (log.said json)
  got : log.received = upTo Event.sequence log.after (log.said json)
  cursor : log.after = 0 ∨ ∃ event ∈ log.said json, event.sequence = log.after

variable {log : EventLog Payload}

theorem Kept.after_nonneg (kept : Kept json log) : 0 ≤ log.after := by
  rcases kept.cursor with start | ⟨event, mem, _⟩
  · omega
  · have := kept.positive event mem
    omega

theorem Kept.after_le (kept : Kept json log) : log.after ≤ log.store.sequence := by
  rcases kept.cursor with start | ⟨event, mem, _⟩
  · have := kept.sequence_nonneg
    omega
  · have := kept.counted event mem
    omega

theorem kept_new : Kept json (new json) where
  fit := linesFit_nil
  increasing := by simp [said, new, EventStore.bytes]
  counted := by simp [said, new, EventStore.bytes]
  positive := by simp [said, new, EventStore.bytes]
  sequence_nonneg := le_refl _
  appended := by simp [new]
  got := by simp [said, new, EventStore.bytes, upTo]
  cursor := .inl rfl

variable {text : List UInt8}

/-- Bytes of the next event reach the file. -/
theorem Kept.land (kept : Kept json log) {call : AppendCall Payload} {landing : List UInt8}
    (marshalled : json.marshal (log.store.event json call) = some text)
    (cut : landing <+: text ++ [newline]) (may : MayLand log.store.bytes landing)
    {succeeded : List (Event Payload)}
    (appended : (succeeded.map json.decoded).Sublist (eventsIn json (log.store.bytes ++ landing))) :
    Kept json { log with store := log.store.landed landing, succeeded := succeeded } := by
  obtain ⟨fit, gained, grown, isNext⟩ := eventsIn_append _ marshalled kept.fit cut may
  have next : ∀ event ∈ gained, event.sequence = log.store.sequence + 1 := by
    intro event mem
    rcases isNext with rfl | rfl
    · cases mem
    · rw [mem_singleton.mp mem, json.decoded_sequence]
      rfl
  have nonneg := kept.sequence_nonneg
  have grows : eventsIn json (log.store.bytes ++ landing) = log.said json ++ gained := grown
  constructor
  · exact fit
  · show KeysIncrease Event.sequence (eventsIn _ (log.store.bytes ++ landing))
    rw [grows]
    apply pairwise_append.mpr
    refine ⟨kept.increasing, ?_, ?_⟩
    · rcases isNext with rfl | rfl
      · exact List.Pairwise.nil
      · exact pairwise_singleton _ _
    · intro event mem other isNew
      have := kept.counted event mem
      have := next other isNew
      omega
  · show ∀ event ∈ eventsIn _ (log.store.bytes ++ landing),
      event.sequence ≤ log.store.sequence + 1
    rw [grows]
    intro event mem
    rcases mem_append.mp mem with before | isNew
    · have := kept.counted event before
      omega
    · exact (next event isNew).le
  · show ∀ event ∈ eventsIn _ (log.store.bytes ++ landing), 0 < event.sequence
    rw [grows]
    intro event mem
    rcases mem_append.mp mem with before | isNew
    · exact kept.positive event before
    · have := next event isNew
      omega
  · show 0 ≤ log.store.sequence + 1
    omega
  · exact appended
  · show log.received = upTo Event.sequence log.after (eventsIn _ (log.store.bytes ++ landing))
    rw [grows, upTo_append]
    · exact kept.got
    · intro event isNew
      have := next event isNew
      have := kept.after_le
      omega
  · show log.after = 0 ∨
      ∃ event ∈ eventsIn _ (log.store.bytes ++ landing), event.sequence = log.after
    rw [grows]
    rcases kept.cursor with start | ⟨event, mem, isAfter⟩
    · exact .inl start
    · exact .inr ⟨event, mem_append_left gained mem, isAfter⟩

/-- What the client is given next. -/
theorem Kept.page (kept : Kept json log) (taskID : String) (limit : Int) :
    ∃ page, readEventPage json taskID log.store.file log.after limit = .ok page ∧
      page.events <+: eventsBehind log.after (log.said json) ∧
      page.nextAfter = cursorAfter Event.sequence log.after page.events ∧
      (page.hasMore = true → page.events ≠ []) ∧
      (page.hasMore = false → page.events = eventsBehind log.after (log.said json)) := by
  obtain ⟨_, rest, split, some', read⟩ :=
    readEventPage_eq _ kept.fit kept.after_nonneg taskID limit
  refine ⟨_, read, ⟨rest, split.symm⟩, rfl, ?_, ?_⟩
  · intro more
    exact some' (of_decide_eq_true more)
  · intro done
    have empty : rest = [] := by simpa using done
    rw [empty, append_nil] at split
    exact split.symm

theorem Kept.step {log after : EventLog Payload} {action : LogAction Payload}
    (kept : Kept json log) (whole : log.WritesWhole json action)
    (taken : log.step json action = some after) : Kept json after := by
  cases action with
  | append call outcome =>
    obtain ⟨⟨_, store⟩, appended, rfl⟩ := map_eq_some_iff.mp taken
    rcases append_cases _ appended with ⟨rfl, rfl⟩ | ⟨text, marshalled, cut, rfl, succeeds⟩
    · simpa using kept
    · have may := whole text marshalled
      apply kept.land _ marshalled cut may
      rcases succeeds with rfl | ⟨rfl, rfl⟩
      · obtain ⟨-, _, grown, -⟩ := eventsIn_append _ marshalled kept.fit cut may
        rw [grown, toList_none, append_nil]
        exact kept.appended.trans (sublist_append_left _ _)
      · have starts : StartsLine log.store.bytes := by
          rcases may with nothing | ⟨starts, -⟩
          · simp [WriteOutcome.landing] at nothing
          · exact starts
        rw [WriteOutcome.landing, eventsIn_written _ marshalled starts, toList_some, map_append]
        exact kept.appended.append (List.Sublist.refl _)
  | reopen =>
    simp only [EventLog.step, some.injEq] at taken
    subst taken
    have fit : LinesFit (log.store.file.getD []) := kept.fit
    obtain ⟨nonneg, greatest⟩ := lastSequence_spec _ fit
    exact { kept with counted := greatest, sequence_nonneg := nonneg }
  | page taskID limit =>
    obtain ⟨page, read, first, next, -, -⟩ := kept.page _ taskID limit
    simp only [EventLog.step, read, some.injEq] at taken
    subst taken
    refine { kept with got := ?_, cursor := ?_ }
    · show log.received ++ page.events = upTo Event.sequence page.nextAfter (log.said _)
      rw [kept.got, next]
      exact upTo_append_page kept.increasing first
    · show page.nextAfter = 0 ∨ ∃ event ∈ log.said _, event.sequence = page.nextAfter
      rw [next]
      have place : cursorAfter Event.sequence log.after page.events = log.after ∨
          ∃ event ∈ page.events,
            event.sequence = cursorAfter Event.sequence log.after page.events := cursorAfter_mem
      rcases place with stays | ⟨event, mem, moves⟩
      · rw [stays]
        exact kept.cursor
      · have behind' := first.subset mem
        exact .inr ⟨event, (mem_filter.mp behind').1, moves⟩

theorem Kept.delivers (kept : Kept json log) : Delivers json log where
  increasing := by
    have numbers : KeysIncrease Event.sequence (log.succeeded.map json.decoded) :=
      kept.increasing.sublist kept.appended
    have numbers := pairwise_map.mp numbers
    simpa only [json.decoded_sequence] using numbers
  readable := by
    intro taskID after limit valid
    obtain ⟨got, _, -, -, read⟩ := readEventPage_eq _ kept.fit valid taskID limit
    exact ⟨_, read⟩
  pages := by
    intro taskID limit
    obtain ⟨page, read, first, -, more, done⟩ := kept.page _ taskID limit
    refine ⟨page, read, ?_, more, ?_⟩
    · rw [kept.got, upTo_append_page kept.increasing first]
      exact kept.increasing.sublist filter_sublist
    · intro last
      rw [kept.got, done last, upTo_append_behind kept.increasing]
      exact kept.appended

/-- A log of which every event starts a line of its own delivers. -/
theorem delivers_run {actions : List (LogAction Payload)} {last : EventLog Payload}
    (run : GuardedRun (step json) (WritesWhole json) (new json) actions last) :
    Delivers json last := by
  have kept : Kept json last :=
    run.invariant (Kept _) (fun _ _ _ kept whole taken => kept.step _ whole taken) (kept_new _)
  exact kept.delivers _

/-! ## Two events of a task -/

/-- The event that a task starts with, under either of two numbers. -/
def sampleEvent (number : Bool) : Event Unit where
  sequence := if number then 2 else 1
  timestamp := "2026-01-01T08:00:00Z"
  type := "state"
  source := "task"
  payload := ()

def sampleText (number : Bool) : List UInt8 :=
  ("\x7b\"sequence\":".toList ++ (if number then '2' else '1') ::
    (",\"timestamp\":\"2026-01-01T08:00:00Z\",\"type\":\"state\",".toList ++
      "\"source\":\"task\",\"payload\":\x7b\x7d\x7d".toList)).map fun char =>
    char.toNat.toUInt8

theorem sampleText_injective {one two : Bool} (part : sampleText one <+: sampleText two) :
    one = two := by
  revert part
  cases one <;> cases two <;> decide

/-- `json.Marshal` of these two events. -/
def sampleMarshal (event : Event Unit) : Option (List UInt8) :=
  if event = sampleEvent false then some (sampleText false)
  else if event = sampleEvent true then some (sampleText true)
  else none

/-- `json.Unmarshal` of their lines and the parts of these. -/
def sampleUnmarshal (text : List UInt8) : Option (Event Unit) :=
  if text = sampleText false then some (sampleEvent false)
  else if text = sampleText true then some (sampleEvent true)
  else none

theorem sampleMarshal_cases {event : Event Unit} (marshalled : sampleMarshal event = some text) :
    ∃ number, event = sampleEvent number ∧ text = sampleText number := by
  unfold sampleMarshal at marshalled
  split_ifs at marshalled with first second
  · exact ⟨false, first, (some.inj marshalled).symm⟩
  · exact ⟨true, second, (some.inj marshalled).symm⟩

theorem sampleUnmarshal_text (number : Bool) :
    sampleUnmarshal (sampleText number) = some (sampleEvent number) := by
  cases number with
  | false => exact if_pos rfl
  | true =>
    have other : sampleText true ≠ sampleText false := by
      intro equal
      have part : sampleText true <+: sampleText false := equal ▸ prefix_refl _
      exact absurd (sampleText_injective part) (by decide)
    rw [sampleUnmarshal, if_neg other, if_pos rfl]

/-- `encoding/json` on the two events. -/
def sampleJson : EventJson Unit where
  marshal := sampleMarshal
  unmarshal := sampleUnmarshal
  decoded event := event
  emptyPayload := ()
  decoded_sequence _ := rfl
  unmarshal_marshal := by
    intro event text marshalled
    obtain ⟨number, rfl, rfl⟩ := sampleMarshal_cases marshalled
    exact sampleUnmarshal_text number
  unmarshal_part := by
    intro event text part marshalled cut other
    obtain ⟨number, rfl, rfl⟩ := sampleMarshal_cases marshalled
    have isNot (digit : Bool) : part ≠ sampleText digit := by
      intro equal
      subst equal
      exact other (congrArg sampleText (sampleText_injective cut))
    rw [sampleUnmarshal, if_neg (isNot false), if_neg (isNot true)]
  unmarshal_nil := by decide
  newline_notMem := by
    intro event text marshalled
    obtain ⟨number, rfl, rfl⟩ := sampleMarshal_cases marshalled
    cases number <;> decide
  return_notMem := by
    intro event text marshalled
    obtain ⟨number, rfl, rfl⟩ := sampleMarshal_cases marshalled
    cases number <;> decide

def sampleCall : AppendCall Unit := ⟨"state", "task", none, "2026-01-01T08:00:00Z"⟩

/-- An event, a page, a write that fails after one byte, and a restart. -/
def sampleRun : List (LogAction Unit) :=
  [.append sampleCall .written, .page "t" 1, .append sampleCall (.torn [0x7b]), .reopen]

theorem delivers_sampleRun :
    ∃ last, GuardedRun (step sampleJson) (WritesWhole sampleJson) (new sampleJson) sampleRun last ∧
      last.received = [sampleEvent false] ∧ Delivers sampleJson last := by
  have possible : ∃ last, runFrom (fun log action =>
      if decide (log.WritesWhole sampleJson action) then step sampleJson log action else none)
      (new sampleJson) sampleRun = some last ∧ last.received = [sampleEvent false] :=
    ⟨_, rfl, by decide⟩
  obtain ⟨last, taken, received⟩ := possible
  have run : GuardedRun (step sampleJson) (WritesWhole sampleJson)
      (new sampleJson) sampleRun last :=
    GuardedRun.of_tested (fun _ _ => of_decide_eq_true) taken
  exact ⟨last, run, received, delivers_run sampleJson run⟩

/-- The first write of a task fails after one byte. -/
def tornRun : List (LogAction Unit) :=
  [.append sampleCall (.torn [0x7b]), .append sampleCall .written]

/-- The event behind the rest of the failed write is lost. -/
theorem not_delivers : ¬ ∀ (actions : List (LogAction Unit)) (last : EventLog Unit),
      runFrom (step sampleJson) (new sampleJson) actions = some last →
        Delivers sampleJson last := by
  intro all
  have possible : ∃ last, runFrom (step sampleJson) (new sampleJson) tornRun = some last ∧
      last.succeeded ≠ [] ∧ last.received = [] ∧
      (∀ page, readEventPage sampleJson "t" last.store.file last.after 0 = .ok page →
        page.events = [] ∧ page.hasMore = false) := by
    refine ⟨_, rfl, by decide, rfl, ?_⟩
    intro page read
    cases read
    exact ⟨rfl, rfl⟩
  obtain ⟨last, taken, some', nothing, empty⟩ := possible
  obtain ⟨page, read, -, -, done⟩ := (all tornRun last taken).pages "t" 0
  obtain ⟨noEvents, noMore⟩ := empty page read
  have lost := done noMore
  rw [nothing, noEvents] at lost
  exact some' (map_eq_nil_iff.mp (sublist_nil.mp lost))

end EventLog

end NetConsole.Agent
