import Mathlib.Data.Finset.Lattice.Fold
import NetConsole.Retention.TreatmentLifecycle

/-!
# The worst receive power of an event

An event keeps the worst reading of the access point, of the switch, and of both. For the
last one an observation gives one reading only: that of the access point where there is one.
So it is the least of all readings of the event exactly when every reading of the switch
is matched by one that was taken and is not greater (`worstRx_least_iff`).
-/

set_option autoImplicit false

namespace NetConsole.Retention

open Syslog (isPythonSpace)
open Worker (Event)
open List

variable {Number : Type} [LinearOrder Number]

/-! ## Readings -/

/-- What `Decimal` does with the texts of numbers, which have a value. -/
structure ReadsDecimals (lib : RetentionLibrary) (value : String → Option Number) : Prop where
  word : ∀ text number, value text = some number →
    text ≠ "" ∧ ∀ char ∈ text.toList, isPythonSpace char = false
  normal : ∀ text number, value text = some number →
    ∃ normalized, lib.decimalText text = some normalized ∧ value normalized = some number ∧
      ('.' ∈ normalized.toList → ∀ some', normalized.toList.getLast some' ≠ '0' ∧
        normalized.toList.getLast some' ≠ '.')
  compared : ∀ one two first second, value one = some first → value two = some second →
    lib.decimalLe one two = some (decide (first ≤ second))

section Powers

variable (value : String → Option Number)

/-- No reading is above all readings. -/
def power (text : String) : WithTop Number :=
  match value text with
  | some number => number
  | none => ⊤

/-- The least power among some texts. -/
def least (texts : List String) : WithTop Number := texts.toFinset.inf (power value)

/-- There is no reading, or it is a number. -/
def Reads (text : String) : Prop := text = "" ∨ (value text).isSome = true

instance (text : String) : Decidable (Reads value text) := inferInstanceAs (Decidable (_ ∨ _))

variable {value} {text : String} {texts : List String}

theorem le_least_iff {bound : WithTop Number} :
    bound ≤ least value texts ↔ ∀ text ∈ texts, bound ≤ power value text := by
  simp [least]

end Powers

/-! ## Comparing readings -/

namespace ReadsDecimals

variable {lib : RetentionLibrary} {value : String → Option Number}
  (decimals : ReadsDecimals lib value) {text one two : String}
include decimals

theorem value_empty : value "" = none := by
  cases found : value "" with
  | none => rfl
  | some number => exact absurd rfl (decimals.word _ _ found).1

theorem power_eq_top_iff (reads : Reads value text) : power value text = ⊤ ↔ text = "" := by
  constructor
  · intro top
    rcases reads with nothing | some'
    · exact nothing
    · obtain ⟨_, found⟩ := Option.isSome_iff_exists.mp some'
      rw [power, found] at top
      cases top
  · rintro rfl
    rw [power, decimals.value_empty]

/-- The text of a number is read as a text of the same number. -/
theorem numberText (reads : Reads value text) : Reads value (numberText lib (.str text)) ∧
      power value (Retention.numberText lib (.str text)) = power value text := by
  rcases reads with rfl | some'
  · have nothing : Retention.numberText lib (.str "") = "" := rfl
    rw [nothing]
    exact ⟨.inl rfl, rfl⟩
  · obtain ⟨number, found⟩ := Option.isSome_iff_exists.mp some'
    obtain ⟨some', word⟩ := decimals.word text number found
    obtain ⟨normalized, reads, same, short⟩ := decimals.normal text number found
    have kept : Worker.strip text.toList = text.toList := by
      unfold Worker.strip Syslog.stripWhere
      rw [dropWhile_eq_self_iff.mpr fun some' => by simp [word _ (getElem_mem some')],
        rdropWhile_eq_self_iff.mpr fun some' => by simp [word _ (getLast_mem some')]]
    have cleaned : textOf lib (.str text) = text := by
      have given : (Worker.Json.str text).orElse (.str "") = .str text :=
        if_pos (bne_iff_ne.mpr some')
      rw [textOf, given]
      exact (congrArg String.ofList kept).trans String.ofList_toList
    have token : text.toList.takeWhile (fun char => !isPythonSpace char) = text.toList :=
      takeWhile_eq_self_iff.mpr fun char mem => by simp [word char mem]
    have whole : Retention.numberText lib (.str text) = normalized := by
      unfold Retention.numberText
      simp only [cleaned, if_neg some', token, String.ofList_toList, reads]
      split
      · rename_i point
        have zeros : normalized.toList.rdropWhile (· = '0') = normalized.toList :=
          rdropWhile_eq_self_iff.mpr fun some' => by simpa using (short point some').1
        have points : normalized.toList.rdropWhile (· = '.') = normalized.toList :=
          rdropWhile_eq_self_iff.mpr fun some' => by simpa using (short point some').2
        rw [zeros, points, String.ofList_toList]
      · rfl
    rw [whole, power, power, found, same]
    exact ⟨.inr (Option.isSome_iff_exists.mpr ⟨number, same⟩), rfl⟩

theorem eventWorseRx (first : Reads value one) (second : Reads value two) :
    Reads value (eventWorseRx lib one two) ∧ power value (Retention.eventWorseRx lib one two) =
        min (power value one) (power value two) := by
  obtain ⟨readsOne, sameOne⟩ := decimals.numberText first
  obtain ⟨readsTwo, sameTwo⟩ := decimals.numberText second
  rw [← sameOne, ← sameTwo]
  unfold Retention.eventWorseRx
  generalize Retention.numberText _ (.str one) = one' at *
  generalize Retention.numberText _ (.str two) = two' at *
  simp only
  by_cases noOne : one' = ""
  · rw [if_pos noOne, (decimals.power_eq_top_iff readsOne).mpr noOne, min_eq_right le_top]
    exact ⟨readsTwo, rfl⟩
  · rw [if_neg noOne]
    by_cases noTwo : two' = ""
    · rw [if_pos noTwo, (decimals.power_eq_top_iff readsTwo).mpr noTwo, min_eq_left le_top]
      exact ⟨readsOne, rfl⟩
    · rw [if_neg noTwo]
      obtain ⟨firstNumber, foundOne⟩ := Option.isSome_iff_exists.mp (readsOne.resolve_left noOne)
      obtain ⟨secondNumber, foundTwo⟩ := Option.isSome_iff_exists.mp (readsTwo.resolve_left noTwo)
      rw [decimals.compared one' two' _ _ foundOne foundTwo]
      have powerOne : power value one' = firstNumber := by rw [power, foundOne]
      have powerTwo : power value two' = secondNumber := by rw [power, foundTwo]
      by_cases less : firstNumber ≤ secondNumber
      · rw [decide_eq_true less, powerOne, powerTwo, min_eq_left (WithTop.coe_le_coe.mpr less)]
        exact ⟨readsOne, rfl⟩
      · rw [decide_eq_false less, powerOne, powerTwo,
          min_eq_right (WithTop.coe_le_coe.mpr (le_of_not_ge less))]
        exact ⟨readsTwo, rfl⟩

end ReadsDecimals

/-! ## The readings of an event -/

section Summaries

open TreatmentObservation (issueRx)

variable (lib : RetentionLibrary) (value : String → Option Number)

/-- The observations that an event was opened with and goes on with. -/
inductive Summarises : List TreatmentObservation → TreatmentEvent → Prop
  | opened (observation : TreatmentObservation) (metadata : TreatmentMetadata) (id : Nat) :
    Summarises [observation] (observation.opened lib metadata id)
  | continued {observed : List TreatmentObservation} {event : TreatmentEvent}
    (observation : TreatmentObservation) (metadata : TreatmentMetadata)
    (earlier : Summarises observed event) :
    Summarises (observed ++ [observation]) (observation.continued lib metadata event)
  | resolved {observed : List TreatmentObservation} {event : TreatmentEvent}
    (observation : TreatmentObservation) (metadata : TreatmentMetadata)
    (earlier : Summarises observed event) :
    Summarises observed (observation.resolvedEvent lib metadata event)

/-- The readings of the sides that show an issue. -/
def readingsOf (observed : List TreatmentObservation) : List String :=
  observed.flatMap fun observation =>
    [issueRx lib observation.apRow, issueRx lib observation.switchRow]

/-- The reading that an observation gives for both sides. -/
def TreatmentObservation.takenRx (observation : TreatmentObservation) : String :=
  orText (issueRx lib observation.apRow) (issueRx lib observation.switchRow)

/-- The worst receive power of an event is the worst. -/
structure WorstIsLeast (observed : List TreatmentObservation) (event : TreatmentEvent) : Prop where
  present : event.worstApRxDbm ≠ "" ∨ event.worstSwitchRxDbm ≠ "" → event.worstRxDbm ≠ ""
  ap : power value event.worstRxDbm ≤ power value event.worstApRxDbm
  switch : power value event.worstRxDbm ≤ power value event.worstSwitchRxDbm
  least : power value event.worstRxDbm = least value (readingsOf lib observed)

/-- No reading of the switch is less than all readings that are taken. -/
def SwitchHeeded (observed : List TreatmentObservation) : Prop :=
  ∀ one ∈ observed, ∃ other ∈ observed,
    power value (other.takenRx lib) ≤ power value (issueRx lib one.switchRow)

variable {lib value} {observed : List TreatmentObservation} {event : TreatmentEvent}
  (summarises : Summarises lib observed event)
include summarises

theorem Summarises.ne_nil : observed ≠ [] := by
  induction summarises with
  | opened => exact cons_ne_nil _ _
  | continued => exact append_ne_nil_of_right_ne_nil _ (cons_ne_nil _ _)
  | resolved _ _ _ ih => exact ih

/-- A column that takes a reading of each observation holds the least of them. -/
theorem Summarises.column (decimals : ReadsDecimals lib value) (column : TreatmentEvent → String)
    (taken : TreatmentObservation → String) (opens : ∀ one metadata id,
      column (TreatmentObservation.opened lib one metadata id) = taken one)
    (continues : ∀ one metadata current,
      column (TreatmentObservation.continued lib one metadata current) =
        eventWorseRx lib (column current) (taken one))
    (resolves : ∀ one metadata current,
      column (TreatmentObservation.resolvedEvent lib one metadata current) = column current)
    (reads : ∀ one ∈ observed, Reads value (taken one)) :
    Reads value (column event) ∧ power value (column event) = least value (observed.map taken) := by
  induction summarises with
  | opened observation metadata id =>
    rw [opens]
    exact ⟨reads observation (mem_singleton_self _), by simp [least]⟩
  | @continued observed event observation metadata earlier ih =>
    obtain ⟨readsBefore, before⟩ := ih fun one mem => reads one (mem_append_left _ mem)
    obtain ⟨readsNow, now⟩ := decimals.eventWorseRx readsBefore
      (reads observation (mem_append_right _ (mem_singleton_self _)))
    rw [continues, now, before, map_append]
    exact ⟨readsNow, by simp [least, inf_comm]⟩
  | resolved observation metadata earlier ih =>
    rw [resolves]
    exact ih reads

open TreatmentObservation (takenRx) in
theorem Summarises.worst_iff (decimals : ReadsDecimals lib value)
    (reads : ∀ text ∈ readingsOf lib observed, Reads value text) :
    WorstIsLeast lib value observed event ↔ SwitchHeeded lib value observed := by
  have listed : ∀ one ∈ observed, issueRx lib one.apRow ∈ readingsOf lib observed ∧
      issueRx lib one.switchRow ∈ readingsOf lib observed := by
    intro one mem
    constructor <;> refine mem_flatMap.mpr ⟨one, mem, ?_⟩
    · exact mem_cons_self
    · exact mem_cons_of_mem _ (mem_singleton_self _)
  have taken : ∀ one : TreatmentObservation, one.takenRx lib = issueRx lib one.apRow ∨
      issueRx lib one.apRow = "" ∧ one.takenRx lib = issueRx lib one.switchRow := by
    intro one
    unfold takenRx orText
    split
    · exact .inr ⟨‹_›, rfl⟩
    · exact .inl rfl
  have takenListed : ∀ one ∈ observed, one.takenRx lib ∈ readingsOf lib observed := by
    intro one mem
    rcases taken one with same | ⟨-, same⟩ <;> rw [same]
    · exact (listed one mem).1
    · exact (listed one mem).2
  obtain ⟨apReads, ap⟩ := summarises.column decimals TreatmentEvent.worstApRxDbm
    (fun one => issueRx lib one.apRow)
    (fun _ _ _ => by simp only [TreatmentObservation.opened])
    (fun _ _ _ => by simp only [TreatmentObservation.continued])
    (fun _ _ _ => by simp only [TreatmentObservation.resolvedEvent])
    fun one mem => reads _ (listed one mem).1
  obtain ⟨switchReads, switch⟩ := summarises.column decimals TreatmentEvent.worstSwitchRxDbm
    (fun one => issueRx lib one.switchRow)
    (fun _ _ _ => by simp only [TreatmentObservation.opened])
    (fun _ _ _ => by simp only [TreatmentObservation.continued])
    (fun _ _ _ => by simp only [TreatmentObservation.resolvedEvent])
    fun one mem => reads _ (listed one mem).2
  obtain ⟨bothReads, both⟩ := summarises.column decimals TreatmentEvent.worstRxDbm (takenRx lib)
    (fun _ _ _ => by simp only [TreatmentObservation.opened, takenRx])
    (fun _ _ _ => by simp only [TreatmentObservation.continued, takenRx])
    (fun _ _ _ => by simp only [TreatmentObservation.resolvedEvent])
    fun one mem => reads _ (takenListed one mem)
  have below : ∀ one ∈ observed, power value event.worstRxDbm ≤ power value (one.takenRx lib) := by
    intro one mem
    rw [both]
    exact le_least_iff.mp le_rfl _ (mem_map_of_mem mem)
  constructor
  · intro worst one mem
    have some' : (observed.map (takenRx lib)).toFinset.Nonempty := by
      simpa using summarises.ne_nil
    obtain ⟨text, mapped, same⟩ := Finset.exists_mem_eq_inf _ some' (power value)
    obtain ⟨other, otherMember, rfl⟩ := mem_map.mp (mem_toFinset.mp mapped)
    refine ⟨other, otherMember, ?_⟩
    rw [← same]
    change least value _ ≤ _
    rw [← both, worst.least]
    exact le_least_iff.mp le_rfl _ (listed one mem).2
  · intro heeded
    have belowSwitch : ∀ one ∈ observed,
        power value event.worstRxDbm ≤ power value (issueRx lib one.switchRow) := by
      intro one mem
      obtain ⟨other, otherMember, less⟩ := heeded one mem
      exact (below other otherMember).trans less
    have belowAp : ∀ one ∈ observed,
        power value event.worstRxDbm ≤ power value (issueRx lib one.apRow) := by
      intro one mem
      rcases taken one with same | ⟨nothing, -⟩
      · exact same ▸ below one mem
      · rw [nothing, (decimals.power_eq_top_iff (.inl rfl)).mpr rfl]
        exact le_top
    have leAp : power value event.worstRxDbm ≤ power value event.worstApRxDbm := by
      rw [ap, le_least_iff]
      exact forall_mem_map.mpr belowAp
    have leSwitch : power value event.worstRxDbm ≤ power value event.worstSwitchRxDbm := by
      rw [switch, le_least_iff]
      exact forall_mem_map.mpr belowSwitch
    refine ⟨?_, leAp, leSwitch, ?_⟩
    · intro some' nothing
      rw [(decimals.power_eq_top_iff bothReads).mpr nothing, top_le_iff] at leAp leSwitch
      exact some'.elim (· ((decimals.power_eq_top_iff apReads).mp leAp))
        (· ((decimals.power_eq_top_iff switchReads).mp leSwitch))
    · apply le_antisymm
      · rw [le_least_iff]
        intro text mem
        obtain ⟨one, oneMember, side⟩ := mem_flatMap.mp mem
        rcases mem_cons.mp side with rfl | rest
        · exact belowAp one oneMember
        · rw [mem_singleton.mp rest]
          exact belowSwitch one oneMember
      · rw [both, le_least_iff]
        exact forall_mem_map.mpr fun one mem =>
          le_least_iff.mp le_rfl _ (takenListed one mem)

omit summarises

/-! ## Events after a run -/

variable {siteId : String}

theorem mem_recordTreatmentEvent {observation : TreatmentObservation}
    {metadata : TreatmentMetadata} {tables : TreatmentTables}
    (mem : event ∈ (recordTreatmentEvent lib observation metadata tables).events) :
    event ∈ tables.events ∨ (∃ id, event = observation.opened lib metadata id) ∨
      ∃ current ∈ tables.events, event = observation.continued lib metadata current ∨
        event = observation.resolvedEvent lib metadata current := by
  have replaced : ∀ values : TreatmentEvent, event ∈ (tables.replaceEvent values).events →
      event ∈ tables.events ∨ event = values := by
    intro values there
    obtain ⟨old, oldMember, rfl⟩ := mem_map.mp there
    split
    · exact .inr rfl
    · exact .inl oldMember
  unfold recordTreatmentEvent at mem
  split at mem
  · rename_i current row
    have stored : current ∈ tables.events :=
      (TreatmentTables.mem_eventsOf.mp (mem_of_mem_filter (mem_of_getLast? row))).1
    split at mem
    · exact .inl mem
    · split at mem
      · exact (replaced _ mem).imp_right fun same => .inr ⟨current, stored, .inl same⟩
      · exact (replaced _ mem).imp_right fun same => .inr ⟨current, stored, .inr same⟩
  · split at mem
    · rcases mem_append.mp mem with old | new
      · exact .inl old
      · exact .inr (.inl ⟨_, mem_singleton.mp new⟩)
    · exact .inl mem

/-- The events were opened with and go on with known observations. -/
def Summarised (lib : RetentionLibrary) (known : List TreatmentObservation)
    (tables : TreatmentTables) : Prop :=
  ∀ event ∈ tables.events, ∃ observed, Summarises lib observed event ∧
    ∀ one ∈ observed, one ∈ known

variable {known : List TreatmentObservation} {tables : TreatmentTables}

theorem Summarised.update (summarised : Summarised lib known tables)
    (observation : TreatmentObservation) : Summarised lib (known ++ [observation])
      (updateApOpticalTreatment lib siteId observation tables) := by
  have earlier : ∀ event ∈ tables.events, ∃ observed, Summarises lib observed event ∧
      ∀ one ∈ observed, one ∈ known ++ [observation] := by
    intro event mem
    obtain ⟨observed, summarises, from'⟩ := summarised event mem
    exact ⟨observed, summarises, fun one there => mem_append_left _ (from' one there)⟩
  have here : observation ∈ known ++ [observation] :=
    mem_append_right _ (mem_singleton_self _)
  have recorded : ∀ metadata, Summarised lib (known ++ [observation])
      (recordTreatmentEvent lib observation metadata tables) := by
    intro metadata event mem
    rcases mem_recordTreatmentEvent mem with old | ⟨id, rfl⟩ | ⟨current, stored, turned⟩
    · exact earlier event old
    · exact ⟨_, .opened observation metadata id, forall_mem_singleton.mpr here⟩
    · obtain ⟨observed, summarises, from'⟩ := earlier current stored
      rcases turned with rfl | rfl
      · refine ⟨_, summarises.continued observation metadata, ?_⟩
        exact forall_mem_append.mpr ⟨from', forall_mem_singleton.mpr here⟩
      · exact ⟨_, summarises.resolved observation metadata, from'⟩
  unfold updateApOpticalTreatment
  split
  · exact earlier
  · simp only
    split
    · exact recorded _
    · split
      · exact recorded _
      · exact recorded _

theorem Summarised.run (readings : List SideReading) (summarised : Summarised lib known tables) :
    Summarised lib (known ++ observationsFrom lib siteId tables readings)
      (readings.foldl (fun tables reading => reading.observe lib siteId tables) tables) := by
  induction readings generalizing known tables with
  | nil => simpa [observationsFrom] using summarised
  | cons reading readings ih =>
    rw [observationsFrom, ← append_assoc, foldl_cons]
    apply ih
    cases projected : reading.projection lib siteId with
    | none =>
      rw [SideReading.observe_of_none projected, Option.map_none, Option.toList_none, append_nil]
      exact summarised
    | some projection =>
      have upserted : Summarised lib known (reading.upserted lib siteId tables) := by
        simpa only [Summarised, SideReading.upserted] using summarised
      rw [SideReading.observe_of_some projected, Option.map_some, Option.toList_some]
      exact upserted.update _

theorem Summarised.treatedAfter (readings : List SideReading) :
    Summarised lib (observationsFrom lib siteId .empty readings)
      (treatedAfter lib siteId readings) := by
  have start : Summarised lib [] .empty := fun event mem => by cases mem
  exact Summarised.run readings start

/-- In every state that readings lead to, the worst receive power of an event is the least of its
readings exactly when no reading of the switch is less than all that were taken. -/
theorem worstRx_least_iff (decimals : ReadsDecimals lib value) (readings : List SideReading)
    (mem : event ∈ (treatedAfter lib siteId readings).events) :
    (∃ observed, Summarises lib observed event ∧
      ∀ one ∈ observed, one ∈ observationsFrom lib siteId .empty readings) ∧
    ∀ observed, Summarises lib observed event →
      (∀ text ∈ readingsOf lib observed, Reads value text) →
        (WorstIsLeast lib value observed event ↔ SwitchHeeded lib value observed) := by
  constructor
  · exact Summarised.treatedAfter readings event mem
  · intro observed summarises reads
    exact summarises.worst_iff decimals reads

end Summaries

/-! ## A switch that receives less -/

def rxValue (text : String) : Option Int :=
  if text = "-20" then some (-20) else if text = "-30" then some (-30) else none

def rxLibrary : RetentionLibrary :=
  { opticalLibrary with
    sha256 := id
    decimalLe one two :=
      match rxValue one, rxValue two with
      | some first, some second => some (decide (first ≤ second))
      | _, _ => none }

theorem rxDecimals : ReadsDecimals rxLibrary rxValue := by
  have known : ∀ text number, rxValue text = some number → text = "-20" ∨ text = "-30" := by
    intro text number found
    unfold rxValue at found
    grind
  refine ⟨?_, ?_, ?_⟩
  · intro text number found
    rcases known text number found with rfl | rfl <;> simp [isPythonSpace]
  · intro text number found
    refine ⟨text, rfl, found, ?_⟩
    rcases known text number found with rfl | rfl <;> simp
  · intro one two first second foundOne foundTwo
    simp only [rxLibrary, foundOne, foundTwo]

def rxRow (rxDbm : String) : Event :=
  [("ap_uuid", .str "ap-1"), ("rx_dbm", .str rxDbm), ("status", .str "alarm"),
    ("collected_at", .str "2026-09-01T00:00:00")]

/-- The access point receives -20 dBm and the switch -30 dBm. -/
def rxReadings : List SideReading :=
  [{ side := .ap, now := "2026-09-01T00:00:01", eventUuid := "e1", row := rxRow "-20" },
    { side := .switch, now := "2026-09-01T00:00:01", eventUuid := "e2", row := rxRow "-30" }]

theorem rxReadings_event : ∃ event ∈ (treatedAfter rxLibrary "site-a" rxReadings).events,
    event.worstRxDbm = "-20" ∧ event.worstSwitchRxDbm = "-30" := by
  decide +kernel

theorem rxReadings_reads {observed : List TreatmentObservation}
    (known : ∀ one ∈ observed, one ∈ observationsFrom rxLibrary "site-a" .empty rxReadings) :
    ∀ text ∈ readingsOf rxLibrary observed, Reads rxValue text := by
  have all : ∀ one ∈ observationsFrom rxLibrary "site-a" .empty rxReadings,
      ∀ text ∈ readingsOf rxLibrary [one], Reads rxValue text := by
    decide +kernel
  intro text mem
  obtain ⟨one, oneMember, there⟩ := mem_flatMap.mp mem
  exact all one (known one oneMember) text (mem_flatMap.mpr ⟨one, mem_singleton_self _, there⟩)

theorem worstRx_least_iff_switchLower :
    ∃ event ∈ (treatedAfter rxLibrary "site-a" rxReadings).events, ∃ observed,
      Summarises rxLibrary observed event ∧ (WorstIsLeast rxLibrary rxValue observed event ↔
          SwitchHeeded rxLibrary rxValue observed) := by
  obtain ⟨event, mem, -⟩ := rxReadings_event
  obtain ⟨⟨observed, summarises, known⟩, exactly⟩ :=
    worstRx_least_iff rxDecimals rxReadings mem
  exact ⟨event, mem, observed, summarises, exactly observed summarises (rxReadings_reads known)⟩

/-- The reading of the switch is passed over. -/
theorem not_worstIsLeast :
    ¬∀ (lib : RetentionLibrary) (value : String → Option Int), ReadsDecimals lib value →
      ∀ (siteId : String) (readings : List SideReading),
        ∀ event ∈ (treatedAfter lib siteId readings).events,
          ∀ observed, Summarises lib observed event →
            (∀ text ∈ readingsOf lib observed, Reads value text) →
              WorstIsLeast lib value observed event := by
  intro always
  obtain ⟨event, mem, worst, switch⟩ := rxReadings_event
  obtain ⟨observed, summarises, known⟩ := Summarised.treatedAfter rxReadings event mem
  have least := (always rxLibrary rxValue rxDecimals "site-a" rxReadings event mem observed
    summarises (rxReadings_reads known)).switch
  rw [worst, switch] at least
  exact absurd least (by decide +kernel)

end NetConsole.Retention
