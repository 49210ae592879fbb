import NetConsole.Foundations.FallibleMaps
import NetConsole.Worker.JsonLines

/-!
# Lines that make the reader raise

A line of a worker is an event or is refused with one of three reasons, unless the reader
raises. `parse_worker_event_line` raises exactly when the JSON decoder raises something other
than a decoding error, as for an integer of too many digits, or when the field `done` of an
object overflows, as an infinity does; `feed_jsonl` also when that field is no number at all
(`linesRead_iff`). The field is converted even where the event has a field `current`.
-/

set_option autoImplicit false

namespace NetConsole.Worker

open Foundations List
open Syslog (isPythonSpace stripWhere)

/-! ## Dictionaries -/

variable (event : Event)

theorem dictHas_eq_isSome (key : String) : dictHas event key = (event.lookup key).isSome := by
  induction event with
  | nil => rfl
  | cons field rest ih =>
    obtain ⟨name, _⟩ := field
    by_cases same : name = key
    · simp [dictHas, same]
    · have other : (key == name) = false := beq_eq_false_iff_ne.mpr (Ne.symm same)
      have first : (name == key) = false := beq_eq_false_iff_ne.mpr same
      simp only [dictHas] at ih
      simp [dictHas, lookup_cons, other, first, ih]

variable {event : Event} {key : String}

theorem lookup_replace (key other : String) (value : Json) :
    (event.map fun field => if field.1 == key then (key, value) else field).lookup other =
      if other = key ∧ dictHas event key then some value else event.lookup other := by
  induction event with
  | nil => simp [dictHas]
  | cons field rest ih =>
    obtain ⟨name, held⟩ := field
    have step : dictHas ((name, held) :: rest) key = (name == key || dictHas rest key) := rfl
    rw [map_cons]
    by_cases same : name = key
    · subst same
      by_cases asked : other = name
      · simp [asked, step]
      · have unlike : (other == name) = false := beq_eq_false_iff_ne.mpr asked
        simp only [beq_self_eq_true, if_true, lookup_cons, unlike, ih, asked, false_and, if_false]
    · have unlike : (name == key) = false := beq_eq_false_iff_ne.mpr same
      simp only [unlike, Bool.false_eq_true, if_false, lookup_cons, ih, step, Bool.false_or]
      by_cases found : other = name
      · have different : ¬other = key := fun equal => same (found.symm.trans equal)
        simp [found, same]
      · simp [beq_eq_false_iff_ne.mpr found]

theorem lookup_append_one (key other : String) (value : Json) :
    (event ++ [(key, value)]).lookup other =
      if other = key ∧ dictHas event key = false then some value else event.lookup other := by
  rw [lookup_append, lookup_cons, lookup_nil, dictHas_eq_isSome]
  by_cases asked : other = key
  · subst asked
    cases event.lookup other <;> simp
  · simp [asked, beq_eq_false_iff_ne.mpr asked]

theorem dictGet_dictSet (key other : String) (value : Json) :
    dictGet (dictSet event key value) other =
      if other = key then value else dictGet event other := by
  unfold dictSet dictGet
  split
  · next has =>
    rw [lookup_replace]
    by_cases asked : other = key <;> simp [asked, has]
  · next has =>
    rw [lookup_append_one]
    by_cases asked : other = key <;> simp [asked, has]

theorem dictGet_dictSetDefault (key other : String) (value : Json) :
    dictGet (dictSetDefault event key value) other =
      if other = key ∧ dictHas event key = false then value else dictGet event other := by
  unfold dictSetDefault dictGet
  split
  · next has => simp [has]
  · next has =>
    rw [lookup_append_one]
    by_cases asked : other = key <;> simp [asked, has]

theorem dictHas_dictSet (key other : String) (value : Json) :
    dictHas (dictSet event key value) other = (decide (other = key) || dictHas event other) := by
  rw [dictHas_eq_isSome, dictHas_eq_isSome]
  unfold dictSet
  split
  · next has =>
    rw [lookup_replace]
    by_cases asked : other = key <;> simp [asked, has]
  · next has =>
    rw [lookup_append_one]
    by_cases asked : other = key <;> simp [asked, has]

/-! ## What the reader completes -/

section Complete

variable (lib : PythonLibrary) {event parsed : Event} {eventType : String} {done : Int}

/-- The event before its missing fields are filled in. -/
def markCancelled (eventType : String) (event : Event) : Event :=
  if eventType = "cancelled" then
    dictSetDefault (dictSet event "cancelled" (.bool true)) "ok" (.bool false)
  else event

variable {key : String} (kept : key = "cancelled" → eventType ≠ "cancelled")
include kept

theorem dictGet_markCancelled (other : key = "ok" → dictHas event "ok") :
    dictGet (markCancelled eventType event) key = dictGet event key := by
  unfold markCancelled
  split
  · next cancels =>
    have unlike : key ≠ "cancelled" := fun same => kept same cancels
    rw [dictGet_dictSetDefault, dictHas_dictSet, dictGet_dictSet]
    by_cases asked : key = "ok"
    · simp [asked, other asked]
    · simp [asked, unlike]
  · rfl

omit kept

/-- What `completeEvent` fills in, given the number of the field `done`. -/
def withDefaults (eventType : String) (done : Int) (event : Event) : Event :=
  let event := dictSetDefault (dictSet event "type" (.str eventType)) "job_id" (.str "")
  let event := dictSetDefault event "stage" (.str "")
  let event := dictSetDefault (dictSetDefault event "current" (.int done)) "total" (.int 0)
  let event := dictSetDefault event "message"
    ((dictGet event "error_message").orElse ((dictGet event "error").orElse (.str "")))
  let event := dictSetDefault event "result" .null
  let event := dictSetDefault event "error" ((dictGet event "error_message").orElse (.str ""))
  dictSetDefault (dictSetDefault event "traceback" (.str "")) "cancelled" (.bool false)

/-- The field `done` is read before it is used. -/
theorem dictGet_done : dictGet (dictSetDefault (dictSetDefault
      (dictSet (markCancelled eventType event) "type" (.str eventType)) "job_id" (.str ""))
      "stage" (.str "")) "done" = dictGet event "done" := by
  simp only [dictGet_dictSetDefault, dictGet_dictSet, String.reduceEq, false_and]
  exact dictGet_markCancelled (by simp) (by simp)

theorem completeEvent_eq : completeEvent lib eventType event =
      (pythonInt lib ((dictGet event "done").orElse (.int 0))).map fun done =>
        withDefaults eventType done (markCancelled eventType event) := by
  simp only [completeEvent, ← markCancelled.eq_1, dictGet_done]
  cases pythonInt _ ((dictGet _ "done").orElse (.int 0)) <;> rfl

end Complete

/-! ## Stripping twice -/

theorem dropWhile_prefix_dropWhile {α : Type} {unwanted : α → Bool} {text short : List α}
    (starts : short <+: text.dropWhile unwanted) : short.dropWhile unwanted = short := by
  obtain ⟨behind, whole⟩ := starts
  cases short with
  | nil => rfl
  | cons first rest =>
    have wanted : ¬unwanted first = true := by
      have again := dropWhile_idempotent (p := unwanted) (l := text)
      rw [← whole, cons_append, dropWhile_cons] at again
      intro dropped
      rw [if_pos dropped] at again
      have shorter := (dropWhile_sublist (l := rest ++ behind) unwanted).length_le
      rw [again, length_cons] at shorter
      omega
    rw [dropWhile_cons, if_neg wanted]

theorem strip_strip (text : List Char) : strip (strip text) = strip text := by
  unfold strip stripWhere
  rw [dropWhile_prefix_dropWhile (List.rdropWhile_prefix _ _), rdropWhile_idempotent]

section Lines

variable (lib : PythonLibrary)

/-! ## The conditions -/

/-- What `parse_event_line` converts to an integer. -/
def doneField (event : Event) : Json := (dictGet event "done").orElse (.int 0)

/-- The decoder raises at most what is caught. -/
def Decodes (text : List Char) : Prop :=
  ∀ raised, lib.loads text = .error raised → raised = .jsonDecodeError

/-- A stripped line that `parse_event_line` can read. -/
def EventLineReads (text : List Char) : Prop :=
  text = [] ∨ (Decodes lib text ∧ ∀ event, lib.loads text = .ok (.obj event) →
    ∃ done, pythonInt lib (doneField event) = .ok done)

/-- A stripped line that `parse_worker_event_line` can read. -/
def FrameReads (text : List Char) : Prop :=
  text = [] ∨ (Decodes lib text ∧ ∀ event, lib.loads text = .ok (.obj event) →
    pythonInt lib (doneField event) ≠ .error .other)

/-- The reasons that a line is refused with. -/
def workerProtocolReasons : List String :=
  ["worker_protocol_schema_invalid", "worker_protocol_json_invalid",
    "worker_protocol_unexpected_message"]

/-- An event, or a line refused with one of the reasons. -/
def ParsedLine.Stable : ParsedLine → Prop
  | .event _ => True
  | .invalid reason => reason ∈ workerProtocolReasons

variable {lib}

/-! ## One line -/

theorem doneField_normalizeEventType (event : Event) (eventType : String) :
    doneField (normalizeEventType event eventType).2 = doneField event := by
  have unread : ∀ key value, key ≠ "done" →
      ∀ event, dictGet (dictSetDefault event key value) "done" = dictGet event "done" := by
    intro key value other event
    rw [dictGet_dictSetDefault, if_neg fun both => other both.1.symm]
  unfold doneField normalizeEventType
  split
  · rw [unread "total" _ (by decide), unread "current" _ (by decide)]
  · split
    · rw [unread "ok" _ (by decide)]
    · split
      · rw [unread "ok" _ (by decide)]
      · split <;> rfl

variable (lib) in
theorem completeEvent_cases (eventType : String) (event : Event) :
    (∃ done parsed, pythonInt lib (doneField event) = .ok done ∧
      completeEvent lib eventType event = .ok parsed) ∨
    ∃ raised, pythonInt lib (doneField event) = .error raised ∧
      completeEvent lib eventType event = .error raised := by
  rw [completeEvent_eq]
  unfold doneField
  cases pythonInt lib ((dictGet event "done").orElse (.int 0)) with
  | ok done => exact .inl ⟨done, _, rfl, rfl⟩
  | error raised => exact .inr ⟨raised, rfl, rfl⟩

theorem parseEventLine_obj {line : List Char} {event : Event} (visible : strip line ≠ [])
    (read : lib.loads (strip line) = .ok (.obj event)) :
    (∃ done parsed, pythonInt lib (doneField event) = .ok done ∧
      parseEventLine lib line = .ok (some parsed)) ∨
    ∃ raised, pythonInt lib (doneField event) = .error raised ∧
      parseEventLine lib line = .error raised := by
  unfold parseEventLine
  dsimp only
  rw [if_neg visible, read]
  dsimp only
  generalize typed : pythonStr lib _ = rawType
  have done := doneField_normalizeEventType event rawType
  rcases completeEvent_cases lib (normalizeEventType event rawType).1
    (normalizeEventType event rawType).2 with ⟨value, parsed, converted, complete⟩ |
      ⟨raised, converted, complete⟩
  · rw [done] at converted
    exact .inl ⟨value, parsed, converted, by rw [complete]; rfl⟩
  · rw [done] at converted
    exact .inr ⟨raised, converted, by rw [complete]; rfl⟩

variable (lib) in
theorem parseEventLine_ok_iff (line : List Char) :
    (∃ parsed, parseEventLine lib line = .ok parsed) ↔ EventLineReads lib (strip line) := by
  unfold EventLineReads Decodes
  by_cases blank : strip line = []
  · refine iff_of_true ⟨none, ?_⟩ (.inl blank)
    exact if_pos blank
  cases read : lib.loads (strip line) with
  | error raised =>
    have parsed : parseEventLine lib line =
        if raised = .jsonDecodeError then .ok none else .error raised := by
      unfold parseEventLine
      rw [if_neg blank, read]
      cases raised <;> rfl
    rw [parsed]
    by_cases caught : raised = .jsonDecodeError
    · simp [caught]
    · simp [caught, blank]
  | ok value =>
    cases value with
    | obj event =>
      rcases parseEventLine_obj blank read with ⟨_, parsed, converted, line⟩ |
        ⟨raised, converted, line⟩
      · simp [line, converted]
      · simp [line, converted, blank]
    | null | bool | int | float | str | arr =>
      refine iff_of_true ⟨none, ?_⟩ (.inr ⟨nofun, nofun⟩)
      unfold parseEventLine
      rw [if_neg blank, read]

theorem schemaReason_stable (event : Event) :
    schemaReason lib event = "" ∨ schemaReason lib event ∈ workerProtocolReasons := by
  have choose : ∀ {p : Prop} [Decidable p] {first second : String},
      first ∈ "" :: workerProtocolReasons → second ∈ "" :: workerProtocolReasons →
        (if p then first else second) ∈ "" :: workerProtocolReasons := by
    intro p _ first second one two
    split
    · exact one
    · exact two
  have invalid : "worker_protocol_schema_invalid" ∈ "" :: workerProtocolReasons := by decide
  have reason : schemaReason lib event ∈ "" :: workerProtocolReasons :=
    choose (by decide) (choose invalid (choose invalid (choose invalid (choose invalid
      (choose invalid mem_cons_self)))))
  exact mem_cons.mp reason

theorem stable_schemaInvalid : (ParsedLine.invalid "worker_protocol_schema_invalid").Stable := by
  show "worker_protocol_schema_invalid" ∈ workerProtocolReasons
  decide

theorem parseWorkerEventLine_obj {line : List Char} {event : Event} (visible : strip line ≠ [])
    (read : lib.loads (strip line) = .ok (.obj event)) :
    (pythonInt lib (doneField event) ≠ .error .other ∧
      ∃ parsed, parseWorkerEventLine lib line = .ok parsed ∧ parsed.Stable) ∨
    (pythonInt lib (doneField event) = .error .other ∧
      parseWorkerEventLine lib line = .error .other) := by
  have again : strip (strip line) = strip line := strip_strip line
  unfold parseWorkerEventLine
  dsimp only
  rw [if_neg visible, read]
  dsimp only
  have shown : strip (strip line) ≠ [] := by rwa [again]
  have decoded : lib.loads (strip (strip line)) = .ok (.obj event) := by rwa [again]
  rcases parseEventLine_obj shown decoded with
    ⟨done, parsed, converted, within⟩ | ⟨raised, converted, within⟩
  · rw [within, converted]
    refine .inl ⟨nofun, ?_⟩
    dsimp only
    split
    · exact ⟨_, rfl, trivial⟩
    · next refused =>
      exact ⟨_, rfl, (schemaReason_stable parsed).resolve_left refused⟩
  · rw [within, converted]
    cases raised with
    | other => exact .inr ⟨rfl, rfl⟩
    | jsonDecodeError | valueError | typeError => exact .inl ⟨nofun, _, rfl, stable_schemaInvalid⟩

/-- A line is an event or refused for a stable reason, unless the reader raises. -/
theorem parseWorkerEventLine_iff (line : List Char) :
    (∃ parsed, parseWorkerEventLine lib line = .ok parsed ∧ parsed.Stable) ↔
      FrameReads lib (strip line) := by
  unfold FrameReads Decodes
  by_cases blank : strip line = []
  · refine iff_of_true ⟨_, ?_, stable_schemaInvalid⟩ (.inl blank)
    unfold parseWorkerEventLine
    exact if_pos blank
  cases read : lib.loads (strip line) with
  | error raised =>
    have parsed : parseWorkerEventLine lib line =
        if raised = .jsonDecodeError then .ok (.invalid "worker_protocol_json_invalid")
        else .error raised := by
      unfold parseWorkerEventLine
      dsimp only
      rw [if_neg blank, read]
      cases raised <;> rfl
    rw [parsed]
    by_cases caught : raised = .jsonDecodeError
    · refine iff_of_true ⟨_, if_pos caught, ?_⟩ (.inr ⟨by simp [caught], nofun⟩)
      show "worker_protocol_json_invalid" ∈ workerProtocolReasons
      decide
    · simp [caught, blank]
  | ok value =>
    cases value with
    | obj event =>
      rcases parseWorkerEventLine_obj blank read with ⟨converted, accepted⟩ | ⟨converted, raised⟩
      · exact iff_of_true accepted (.inr ⟨nofun, by rintro _ ⟨⟩; exact converted⟩)
      · simp [raised, converted, blank]
    | null | bool | int | float | str | arr =>
      refine iff_of_true ⟨_, ?_, stable_schemaInvalid⟩ (.inr ⟨nofun, nofun⟩)
      unfold parseWorkerEventLine
      dsimp only
      rw [if_neg blank, read]

/-! ## Several lines -/

theorem feedLine_ok_iff (rawLine : List Char) : (∃ fed, feedLine lib rawLine = .ok fed) ↔
      EventLineReads lib (strip (rawLine.rdropWhile (· = '\r'))) := by
  have parsed := parseEventLine_ok_iff lib (strip (rawLine.rdropWhile (· = '\r')))
  rw [strip_strip] at parsed
  rw [← parsed]
  unfold feedLine
  dsimp only
  split
  · next blank =>
    refine iff_of_true ⟨_, rfl⟩ (parsed.mpr (.inl blank))
  · cases parseEventLine lib (strip (rawLine.rdropWhile (· = '\r'))) with
    | error raised => simp
    | ok event => cases event <;> simp

theorem feedLines_ok_iff (lines : List (List Char)) : (∃ fed, feedLines lib lines = .ok fed) ↔
      ∀ line ∈ lines, EventLineReads lib (strip (line.rdropWhile (· = '\r'))) := by
  induction lines with
  | nil => exact iff_of_true ⟨_, rfl⟩ nofun
  | cons line rest ih =>
    rw [forall_mem_cons, ← feedLine_ok_iff, ← ih]
    constructor
    · rintro ⟨fed, read⟩
      obtain ⟨first, one, behind⟩ := bind_eq_ok.mp read
      obtain ⟨others, more, -⟩ := bind_eq_ok.mp behind
      exact ⟨⟨first, one⟩, others, more⟩
    · rintro ⟨⟨first, one⟩, others, more⟩
      exact ⟨_, bind_eq_ok.mpr ⟨first, one, bind_eq_ok.mpr ⟨others, more, rfl⟩⟩⟩

theorem feedJsonl_ok_iff (buffer text : List Char) :
    (∃ fed, feedJsonl lib buffer (.text text) = .ok fed) ↔
      ∀ line ∈ (frames '\n' (buffer ++ text)).1,
        EventLineReads lib (strip (line.rdropWhile (· = '\r'))) := by
  rw [← feedLines_ok_iff]
  constructor
  · rintro ⟨fed, read⟩
    obtain ⟨_, same, behind⟩ := bind_eq_ok.mp read
    cases same
    obtain ⟨events, lines, -⟩ := bind_eq_ok.mp behind
    exact ⟨events, lines⟩
  · rintro ⟨events, lines⟩
    exact ⟨_, bind_eq_ok.mpr ⟨text, rfl, bind_eq_ok.mpr ⟨events, lines, rfl⟩⟩⟩

end Lines

/-- When the readers of worker lines do not raise. -/
theorem linesRead_iff (lib : PythonLibrary) :
    (∀ line, (∃ parsed, parseWorkerEventLine lib line = .ok parsed ∧ parsed.Stable) ↔
      FrameReads lib (strip line)) ∧
    ∀ buffer text, (∃ fed, feedJsonl lib buffer (.text text) = .ok fed) ↔
      ∀ line ∈ (frames '\n' (buffer ++ text)).1,
        EventLineReads lib (strip (line.rdropWhile (· = '\r'))) :=
  ⟨parseWorkerEventLine_iff, feedJsonl_ok_iff⟩

def infiniteLine : List Char := ['{'] ++ "\"done\":Infinity".toList ++ ['}']

/-- A library that decodes this line, and in which an infinity is no integer. -/
def overflowLibrary : PythonLibrary :=
  .reading infiniteLine [("done", .float "inf")] (by decide)

/-- An event that is done to infinity makes both readers raise. -/
theorem not_linesRead :
    (¬∃ parsed, parseWorkerEventLine overflowLibrary infiniteLine = .ok parsed ∧ parsed.Stable) ∧
      ¬∃ fed, feedJsonl overflowLibrary [] (.text (infiniteLine ++ ['\n'])) = .ok fed := by
  have read : overflowLibrary.loads infiniteLine = .ok (.obj [("done", .float "inf")]) := by
    simp [overflowLibrary, PythonLibrary.reading]
  have converted : pythonInt overflowLibrary (doneField [("done", .float "inf")]) =
      .error .other := rfl
  have stripped : strip infiniteLine = infiniteLine := by decide
  constructor
  · rw [parseWorkerEventLine_iff, stripped]
    rintro (blank | ⟨-, converts⟩)
    · exact absurd blank (by decide)
    · exact converts _ read converted
  · rw [feedJsonl_ok_iff]
    intro reads
    have line := reads infiniteLine (by decide)
    rcases line with blank | ⟨-, converts⟩
    · exact absurd blank (by decide)
    · obtain ⟨done, number⟩ := converts _ read
      exact absurd (converted.symm.trans number) nofun

end NetConsole.Worker
