import NetConsole.Foundations.LogOffsets
import NetConsole.Traffic.EventSequences

/-!
# Listing the events of a run

`list_events` reads the event file line by line, and remembers for every event of the run
that it reads the offset behind its line. A later listing starts at the remembered offset
of the greatest sequence that it has to leave out.

As in `EventStore`, appends and listings of a file come one after another: the lock of its
path is one of the process, and is not evicted while it is held.

So a listing gives what a scan of the whole file gives, as long as no batch starts below a
sequence that the file already holds for the run (`listEvents_eq_scan`). After a batch
that does, which a repeated append can be, events are left out (`not_listEvents_eq_scan`).
-/

set_option autoImplicit false

namespace NetConsole.Traffic

open Foundations List Function

/-! ## Remembered offsets -/

/-- `_offsets`: for each run the sequences with the offsets behind their lines, both in
the order of their last use. -/
abbrev Offsets := List (String × List (Int × Nat))

/-- The loops that forget the entries used longest ago. -/
def keepLast {α : Type} (limit : Nat) (entries : List α) : List α :=
  entries.drop (entries.length - limit)

/-- What `_offset_bucket` finds for a run. -/
def offsetBucket (offsets : Offsets) (trafficRunId : String) : List (Int × Nat) :=
  (offsets.lookup trafficRunId).getD []

/-- `_offset_bucket`, with what is put into the bucket. -/
def putBucket (offsets : Offsets) (trafficRunId : String) (bucket : List (Int × Nat)) : Offsets :=
  keepLast 256 (offsets.filter (fun entry => entry.1 != trafficRunId) ++ [(trafficRunId, bucket)])

/-- An offset is cached. -/
def rememberOffset (offsets : Offsets) (trafficRunId : String) (sequence : Int) (offset : Nat) :
    Offsets :=
  putBucket offsets trafficRunId (keepLast 4096
    ((offsetBucket offsets trafficRunId).filter (fun item => item.1 != sequence) ++
      [(sequence, offset)]))

/-- `max` by the sequences, which gives the first of the greatest. -/
def greatest : List (Int × Nat) → Option (Int × Nat)
  | [] => none
  | first :: rest =>
    match greatest rest with
    | none => some first
    | some best => if first.1 < best.1 then some best else some first

/-- Where the reading of a listing begins. -/
def startOffset (offsets : Offsets) (trafficRunId : String) (afterSequence : Int)
    (fileSize : Nat) : Nat × Offsets :=
  let bucket := offsetBucket offsets trafficRunId
  let candidates := bucket.filter fun item => item.1 ≤ afterSequence ∧ item.2 ≤ fileSize
  (((greatest candidates).getD (0, 0)).2, putBucket offsets trafficRunId bucket)

/-! ## Listing -/

/-- `TrafficEvent.from_dict` of a line that `json.loads` turns into a dictionary; nothing
where one of them raises. `_watermark` reads the same header. -/
structure EventReader (lib : TrafficLibrary) where
  fromLine : List UInt8 → Option TrafficEvent
  header_eq : ∀ line event, fromLine line = some event →
    lib.jsonLines.decode line = some event.header

section Listing

variable {lib : TrafficLibrary} (reader : EventReader lib)

/-- The loop of `list_events`, with the number of events that are still to come. -/
def scanEvents (trafficRunId : String) (afterSequence : Int) :
    Nat → List (List UInt8 × Nat) → Offsets → List TrafficEvent × Offsets
  | _, [], offsets => ([], offsets)
  | remaining, (line, next) :: rest, offsets =>
    match reader.fromLine line with
    | none => scanEvents trafficRunId afterSequence remaining rest offsets
    | some event =>
      if event.trafficRunId = trafficRunId then
        let remembered := rememberOffset offsets trafficRunId event.sequence next
        if event.sequence ≤ afterSequence then
          scanEvents trafficRunId afterSequence remaining rest remembered
        else if remaining ≤ 1 then ([event], remembered)
        else
          let (events, last) :=
            scanEvents trafficRunId afterSequence (remaining - 1) rest remembered
          (event :: events, last)
      else scanEvents trafficRunId afterSequence remaining rest offsets

def maxEvents (limit : Int) : Nat := (max 1 (min limit 2000)).toNat

/-- `list_events`. An empty file may be there or not. -/
def listEvents (files : String → List UInt8) (present : Bool) (offsets : Offsets)
    (trafficRunId : String) (afterSequence limit : Int) :
    Except TrafficError (List TrafficEvent) × Offsets :=
  if afterSequence < 0 then
    (.error (.valueError "after_sequence must be non-negative"), offsets)
  else
    match trafficRunName lib trafficRunId with
    | none => (.error (.valueError "invalid traffic_run_id"), offsets)
    | some name =>
      if files name = [] ∧ present = false then (.ok [], offsets)
      else
        let (start, used) := startOffset offsets trafficRunId afterSequence (files name).length
        let (events, last) := scanEvents reader trafficRunId afterSequence (maxEvents limit)
          (readLines lib.jsonLines.newline (files name) start) used
        (.ok events, last)

/-- The events of a run in a file. -/
def storedEvents (file : List UInt8) (trafficRunId : String) : List TrafficEvent :=
  (logItems lib.jsonLines.newline reader.fromLine file).filter fun event =>
    event.trafficRunId = trafficRunId

/-- What a scan of the whole file gives. -/
def scanFile (file : List UInt8) (trafficRunId : String) (afterSequence : Int) (count : Nat) :
    List TrafficEvent :=
  ((storedEvents reader file trafficRunId).filter fun event =>
    afterSequence < event.sequence).take count

/-! ## Sound offsets -/

variable {reader}

theorem fromLine_nil : reader.fromLine [] = none := by
  cases found : reader.fromLine [] with
  | none => rfl
  | some event =>
    have read := reader.header_eq [] event found
    rw [lib.jsonLines.decode_nil] at read
    cases read

variable (reader) in
/-- The events of the run before an offset do not go beyond a sequence. -/
def OffsetSound (file : List UInt8) (trafficRunId : String) (sequence : Int) (offset : Nat) :
    Prop :=
  ∃ before, Splits lib.jsonLines.newline reader.fromLine file offset before ∧
    ∀ event ∈ before, event.trafficRunId = trafficRunId → event.sequence ≤ sequence

variable (reader) in
/-- All that is remembered is sound. -/
def OffsetsSound (files : String → List UInt8) (offsets : Offsets) : Prop :=
  ∀ trafficRunId bucket, (trafficRunId, bucket) ∈ offsets →
    ∀ name, trafficRunName lib trafficRunId = some name →
      ∀ item ∈ bucket, OffsetSound reader (files name) trafficRunId item.1 item.2

variable {files : String → List UInt8} {offsets : Offsets} {trafficRunId name : String}
  (sound : OffsetsSound reader files offsets)
include sound

theorem OffsetsSound.bucket (named : trafficRunName lib trafficRunId = some name) :
    ∀ item ∈ offsetBucket offsets trafficRunId,
      OffsetSound reader (files name) trafficRunId item.1 item.2 := by
  intro item mem
  unfold offsetBucket at mem
  cases found : offsets.lookup trafficRunId with
  | none =>
    rw [found] at mem
    cases mem
  | some bucket =>
    rw [found] at mem
    have listed : (trafficRunId, bucket) ∈ offsets := by
      obtain ⟨_, _, cut, -⟩ := lookup_eq_some_iff.mp found
      rw [cut]
      exact mem_append_right _ mem_cons_self
    exact sound trafficRunId bucket listed name named item mem

theorem OffsetsSound.put {bucket : List (Int × Nat)}
    (items : ∀ name, trafficRunName lib trafficRunId = some name →
      ∀ item ∈ bucket, OffsetSound reader (files name) trafficRunId item.1 item.2) :
    OffsetsSound reader files (putBucket offsets trafficRunId bucket) := by
  intro other otherBucket mem
  rcases mem_append.mp (mem_of_mem_drop mem) with kept | new
  · exact sound other otherBucket (mem_of_mem_filter kept)
  · obtain ⟨rfl, rfl⟩ := Prod.mk.inj (mem_singleton.mp new)
    exact items

theorem OffsetsSound.remember
    (named : trafficRunName lib trafficRunId = some name) {sequence : Int} {offset : Nat}
    (reached : OffsetSound reader (files name) trafficRunId sequence offset) :
    OffsetsSound reader files (rememberOffset offsets trafficRunId sequence offset) := by
  apply sound.put
  intro other otherNamed item mem
  obtain rfl : name = other := Option.some.inj (named.symm.trans otherNamed)
  rcases mem_append.mp (mem_of_mem_drop mem) with kept | new
  · exact sound.bucket named item (mem_of_mem_filter kept)
  · rw [mem_singleton.mp new]
    exact reached

omit sound

theorem mem_of_greatest {items : List (Int × Nat)} {best : Int × Nat}
    (found : greatest items = some best) : best ∈ items := by
  induction items generalizing best with
  | nil => cases found
  | cons first rest ih =>
    rw [greatest] at found
    split at found
    · rw [← Option.some.inj found]
      exact mem_cons_self
    · rename_i other inRest
      split at found
      · rw [← Option.some.inj found]
        exact mem_cons_of_mem _ (ih inRest)
      · rw [← Option.some.inj found]
        exact mem_cons_self

/-- A listing starts behind no event that it has to give. -/
theorem OffsetsSound.start (sound : OffsetsSound reader files offsets)
    (named : trafficRunName lib trafficRunId = some name) (afterSequence : Int)
    (fileSize : Nat) : OffsetSound reader (files name) trafficRunId afterSequence
        (startOffset offsets trafficRunId afterSequence fileSize).1 ∧
      OffsetsSound reader files (startOffset offsets trafficRunId afterSequence fileSize).2 := by
  constructor
  · have chosen : (startOffset offsets trafficRunId afterSequence fileSize).1 =
        ((greatest ((offsetBucket offsets trafficRunId).filter fun item =>
          item.1 ≤ afterSequence ∧ item.2 ≤ fileSize)).getD (0, 0)).2 := rfl
    rw [chosen]
    cases found : greatest ((offsetBucket offsets trafficRunId).filter fun item =>
        item.1 ≤ afterSequence ∧ item.2 ≤ fileSize) with
    | none => exact ⟨[], .start _, fun _ mem => absurd mem not_mem_nil⟩
    | some best =>
      obtain ⟨listed, fits⟩ := mem_filter.mp (mem_of_greatest found)
      obtain ⟨before, splits, below⟩ := sound.bucket named best listed
      have enough : best.1 ≤ afterSequence ∧ best.2 ≤ fileSize := by simpa using fits
      exact ⟨before, splits, fun event mem own =>
        Int.le_trans (below event mem own) enough.1⟩
  · unfold startOffset
    dsimp only
    exact sound.put fun other otherNamed => sound.bucket otherNamed

/-! ## A listing is a scan -/

variable (reader) in
/-- The sequences of the run do not decrease along the file. -/
def Nondecreasing (file : List UInt8) (trafficRunId : String) : Prop :=
  (storedEvents reader file trafficRunId).Pairwise fun one two => one.sequence ≤ two.sequence

variable {before : List TrafficEvent} {file : List UInt8}

theorem OffsetSound.next (nondecreasing : Nondecreasing reader file trafficRunId)
    {event : TrafficEvent} {next : Nat}
    (splits : Splits lib.jsonLines.newline reader.fromLine file next (before ++ [event]))
    (own : event.trafficRunId = trafficRunId) :
    OffsetSound reader file trafficRunId event.sequence next := by
  refine ⟨_, splits, ?_⟩
  intro other mem otherOwn
  rcases mem_append.mp mem with earlier | same
  · have ordered := nondecreasing
    unfold Nondecreasing storedEvents at ordered
    rw [splits.items, filter_append, filter_append] at ordered
    have first := (pairwise_append.mp ordered).1
    exact (pairwise_append.mp first).2.2 other
      (mem_filter.mpr ⟨earlier, decide_eq_true otherOwn⟩) event
      (mem_filter.mpr ⟨mem_cons_self, decide_eq_true own⟩)
  · obtain rfl := mem_singleton.mp same
    exact Int.le_refl _

theorem scanEvents_spec (named : trafficRunName lib trafficRunId = some name)
    (nondecreasing : Nondecreasing reader (files name) trafficRunId) (afterSequence : Int)
    {pairs : List (List UInt8 × Nat)} {start remaining : Nat} {offsets : Offsets}
    (lines : readLines lib.jsonLines.newline (files name) start = pairs)
    (splits : Splits lib.jsonLines.newline reader.fromLine (files name) start before)
    (sound : OffsetsSound reader files offsets) (some' : 1 ≤ remaining) :
    (scanEvents reader trafficRunId afterSequence remaining pairs offsets).1 =
        scanFile reader ((files name).drop start) trafficRunId afterSequence remaining ∧
      OffsetsSound reader files
        (scanEvents reader trafficRunId afterSequence remaining pairs offsets).2 := by
  have cases := @readLines_cases _ _ _ lib.jsonLines.newline reader.fromLine fromLine_nil
    (files name)
  induction pairs generalizing start remaining before offsets with
  | nil =>
    refine ⟨?_, sound⟩
    rcases cases start with ⟨-, nothing⟩ | ⟨line, next, read, -⟩
    · unfold scanFile storedEvents
      rw [nothing, filter_nil, filter_nil, take_nil]
      rfl
    · rw [lines] at read
      cases read
  | cons pair rest ih =>
    rcases cases start with ⟨nothing, -⟩ | ⟨line, next, read, items, inside⟩
    · rw [lines] at nothing
      cases nothing
    · rw [lines] at read
      obtain ⟨rfl, others⟩ := List.cons.inj read
      have nextSplits : Splits lib.jsonLines.newline reader.fromLine (files name) next
          (before ++ (reader.fromLine line).toList) := by
        refine ⟨inside splits.within, ?_⟩
        rw [splits.items, items, append_assoc]
      unfold scanEvents
      unfold scanFile storedEvents
      rw [items]
      cases found : reader.fromLine line with
      | none =>
        rw [found] at nextSplits
        exact ih others.symm nextSplits sound some'
      | some event =>
        rw [found] at nextSplits
        dsimp only
        by_cases own : event.trafficRunId = trafficRunId
        · have remembered := sound.remember named (OffsetSound.next nondecreasing nextSplits own)
          rw [if_pos own, Option.toList_some, singleton_append,
            filter_cons_of_pos (by simpa using own)]
          by_cases passed : event.sequence ≤ afterSequence
          · rw [if_pos passed, filter_cons_of_neg (by simpa using passed)]
            exact ih others.symm nextSplits remembered some'
          · rw [if_neg passed, filter_cons_of_pos (by simpa using passed)]
            split
            · rename_i last
              obtain rfl : remaining = 1 := Nat.le_antisymm last some'
              dsimp only
              exact ⟨rfl, remembered⟩
            · rename_i more
              obtain ⟨count, rfl⟩ : ∃ count, remaining = count + 1 :=
                ⟨remaining - 1, by omega⟩
              have tail := ih others.symm nextSplits remembered (show 1 ≤ count by omega)
              refine ⟨?_, tail.2⟩
              rw [take_succ_cons]
              exact congrArg (event :: ·) tail.1
        · rw [if_neg own, Option.toList_some, singleton_append,
            filter_cons_of_neg (by simpa using own)]
          exact ih others.symm nextSplits sound some'

/-- The headers of the events are among those that `_watermark` reads. -/
theorem headers_sublist (reader : EventReader lib) (file : List UInt8) :
    ((logItems lib.jsonLines.newline reader.fromLine file).map (·.header)).Sublist
      (lib.jsonLines.read file) := by
  have lines : ∀ lines : List (List UInt8),
      ((lines.filterMap reader.fromLine).map (·.header)).Sublist
        (lines.filterMap lib.jsonLines.decode) := by
    intro lines
    induction lines with
    | nil => exact .refl _
    | cons line lines ih =>
      rw [filterMap_cons, filterMap_cons]
      cases found : reader.fromLine line with
      | none =>
        cases lib.jsonLines.decode line with
        | none => exact ih
        | some header => exact ih.cons _
      | some event =>
        rw [reader.header_eq line event found]
        exact ih.cons_cons _
  unfold logItems LineCodec.read LineCodec.complete
  rw [map_append]
  refine (lines _).append ?_
  cases found : reader.fromLine (frames lib.jsonLines.newline file).2 with
  | none => exact nil_sublist _
  | some event =>
    rw [reader.header_eq _ event found]
    exact .refl _

/-- The sequences that are stored for a run do not decrease. -/
def HeadersNondecreasing (headers : List EventHeader) (trafficRunId : String) : Prop :=
  (headers.filter fun header => header.trafficRunId = trafficRunId).Pairwise fun one two =>
    one.sequence ≤ two.sequence

theorem HeadersNondecreasing.events
    (headers : HeadersNondecreasing (lib.jsonLines.read file) trafficRunId) :
    Nondecreasing reader file trafficRunId := by
  have fewer := headers.sublist ((headers_sublist reader file).filter _)
  rw [filter_map, pairwise_map] at fewer
  exact fewer

variable (reader) in
/-- A listing gives what a scan gives, and leaves sound offsets. -/
theorem listEvents_spec (nondecreasing : ∀ name, trafficRunName lib trafficRunId = some name →
      HeadersNondecreasing (lib.jsonLines.read (files name)) trafficRunId)
    (sound : OffsetsSound reader files offsets) (present : Bool) (afterSequence limit : Int) :
    (listEvents reader files present offsets trafficRunId afterSequence limit).1 =
        (if afterSequence < 0 then
          .error (.valueError "after_sequence must be non-negative")
        else
          match trafficRunName lib trafficRunId with
          | none => .error (.valueError "invalid traffic_run_id")
          | some name =>
            .ok (scanFile reader (files name) trafficRunId afterSequence (maxEvents limit))) ∧
      OffsetsSound reader files
        (listEvents reader files present offsets trafficRunId afterSequence limit).2 := by
  unfold listEvents
  split
  · exact ⟨rfl, sound⟩
  · cases named : trafficRunName lib trafficRunId with
    | none => exact ⟨rfl, sound⟩
    | some name =>
      dsimp only
      split
      · rename_i missing
        refine ⟨?_, sound⟩
        unfold scanFile storedEvents
        rw [missing.1, logItems_nil fromLine_nil, filter_nil, filter_nil, take_nil]
      · obtain ⟨⟨before, splits, below⟩, used⟩ :=
          sound.start named afterSequence (files name).length
        have some' : 1 ≤ maxEvents limit := by
          unfold maxEvents
          omega
        obtain ⟨given, left⟩ := scanEvents_spec named (nondecreasing name named).events
          afterSequence rfl splits used some'
        refine ⟨?_, left⟩
        dsimp only
        rw [given]
        unfold scanFile storedEvents
        rw [splits.items, filter_append, filter_append]
        have skipped : (before.filter fun event => event.trafficRunId = trafficRunId).filter
            (fun event => afterSequence < event.sequence) = [] := by
          rw [filter_filter, filter_eq_nil_iff]
          intro event mem
          have passed := below event mem
          simp only [Bool.and_eq_true, decide_eq_true_eq, not_and]
          exact fun later own => absurd (passed own) (Int.not_le.mpr later)
        rw [skipped, nil_append]

end Listing

/-! ## The stores of a site -/

/-- The files and runs of a site, the watermarks of each process, and the offsets of each
store. -/
structure TrafficSite (Process Store : Type) where
  files : String → List UInt8
  runs : String → Option Int
  watermarks : Process → List (String × Watermark)
  offsets : Store → Offsets

/-- What happens to the event files of a site. -/
inductive SiteAction (Process Store : Type) where
  | append (process : Process) (events : List TrafficEvent) (fault : AppendFault)
  | restart (process : Process)
  | saveRun (trafficRunId : String) (lastEventSequence : Option Int)
  | create (store : Store)
  | list (store : Store) (present : Bool) (trafficRunId : String) (afterSequence limit : Int)

section Site

variable {Process Store : Type} [DecidableEq Process] [DecidableEq Store]

/-- No file, no run, and nothing in memory. -/
def TrafficSite.new : TrafficSite Process Store :=
  ⟨fun _ => [], fun _ => none, fun _ => [], fun _ => []⟩

/-- What a process appends to. -/
def TrafficSite.seenBy (site : TrafficSite Process Store) (process : Process) : EventStore :=
  ⟨site.files, site.watermarks process, site.runs⟩

variable {lib : TrafficLibrary} (reader : EventReader lib)

/-- A step. A restart loses the watermarks of a process, and a new store has no offsets. -/
def SiteAction.perform (site : TrafficSite Process Store) :
    SiteAction Process Store → Option (TrafficSite Process Store)
  | .append process events fault =>
    let appended := (appendMany lib (site.seenBy process) events fault).1
    some { site with
      files := appended.files, runs := appended.runs
      watermarks := Function.update site.watermarks process appended.watermarks }
  | .restart process =>
    some { site with watermarks := Function.update site.watermarks process [] }
  | .saveRun trafficRunId lastEventSequence =>
    some { site with runs := Function.update site.runs trafficRunId lastEventSequence }
  | .create store => some { site with offsets := Function.update site.offsets store [] }
  | .list store present trafficRunId afterSequence limit =>
    let listed := listEvents reader site.files present (site.offsets store) trafficRunId
      afterSequence limit
    some { site with offsets := Function.update site.offsets store listed.2 }

variable (lib) in
/-- A watermark in memory is not so far behind that the next event of the run gets a
sequence below one that the file holds. -/
def Continues (site : TrafficSite Process Store) : SiteAction Process Store → Prop
  | .append process events _ => ∀ file ∈ batchFile lib events,
      ∀ cached ∈ (site.watermarks process).lookup file.2,
        ∀ header ∈ lib.jsonLines.read (site.files file.2),
          header.trafficRunId = file.1 → header.sequence ≤ cached.1 + 1
  | _ => True

instance (site : TrafficSite Process Store) :
    (action : SiteAction Process Store) → Decidable (Continues lib site action)
  | .append _ events _ => inferInstanceAs (Decidable (∀ file ∈ batchFile lib events, _))
  | .restart _ => .isTrue trivial
  | .saveRun _ _ => .isTrue trivial
  | .create _ => .isTrue trivial
  | .list _ _ _ _ _ => .isTrue trivial

/-- What holds of the files and the cached offsets. -/
structure TrafficSite.Sound (site : TrafficSite Process Store) : Prop where
  return_notMem : ∀ name, 13 ∉ site.files name
  nondecreasing : ∀ name trafficRunId,
    HeadersNondecreasing (lib.jsonLines.read (site.files name)) trafficRunId
  offsets : ∀ store, OffsetsSound reader site.files (site.offsets store)

variable {reader} {site : TrafficSite Process Store}

omit [DecidableEq Process] [DecidableEq Store] in
theorem TrafficSite.new_sound : (TrafficSite.new : TrafficSite Process Store).Sound reader where
  return_notMem := fun _ => not_mem_nil
  nondecreasing := by
    intro name trafficRunId
    show HeadersNondecreasing (lib.jsonLines.read []) trafficRunId
    rw [LineCodec.read_nil]
    exact .nil
  offsets _ _ _ mem := absurd mem not_mem_nil

variable {trafficRunId : String} {accepted events : List TrafficEvent}

theorem acceptEvents_trafficRunId {reached last : Watermark}
    (own : ∀ event ∈ events, event.trafficRunId = trafficRunId)
    (done : acceptEvents reached events = .ok (last, accepted)) :
    ∀ event ∈ accepted, event.trafficRunId = trafficRunId := by
  induction events generalizing reached last accepted with
  | nil =>
    obtain ⟨-, rfl⟩ := done
    exact fun _ mem => absurd mem not_mem_nil
  | cons event rest ih =>
    have restOwn : ∀ other ∈ rest, other.trafficRunId = trafficRunId :=
      fun other mem => own other (mem_cons_of_mem _ mem)
    have accept : ∀ next,
        (acceptEvents next rest >>= fun found =>
          pure (found.1, { event with sequence := reached.1 + 1 } :: found.2)) =
            Except.ok (last, accepted) →
        ∀ event ∈ accepted, event.trafficRunId = trafficRunId := by
      intro next bound
      obtain ⟨_, others, bound⟩ := bind_eq_ok.mp bound
      obtain ⟨-, rfl⟩ := Prod.mk.inj (Except.ok.inj bound)
      intro other mem
      rcases mem_cons.mp mem with rfl | later
      · exact own event mem_cons_self
      · exact ih restOwn others other later
    rw [acceptEvents] at done
    split at done
    · exact accept _ done
    · split at done
      · cases done
      · split at done
        · exact ih restOwn done
        · exact accept _ done

theorem sequence_le_watermark {store : EventStore} {name : String}
    (continues : ∀ cached ∈ store.watermarks.lookup name,
      ∀ header ∈ lib.jsonLines.read (store.files name), header.trafficRunId = trafficRunId →
        header.sequence ≤ cached.1 + 1) :
    ∀ header ∈ lib.jsonLines.read (store.files name), header.trafficRunId = trafficRunId →
      header.sequence ≤ (watermark lib store trafficRunId name).1.1 + 1 := by
  intro header mem own
  unfold watermark getWatermark
  cases found : store.watermarks.lookup name with
  | some cached => exact continues cached found header mem own
  | none =>
    have read := (le_foldl_raiseWatermark mem own (0, 0)).1
    show header.sequence ≤ (readWatermark trafficRunId _ _).1 + 1
    unfold readWatermark
    dsimp only
    cases store.runs trafficRunId with
    | none => exact Int.le_add_one read
    | some last => exact Int.le_add_one (Int.le_trans read (Int.le_max_left _ _))

theorem HeadersNondecreasing.append {old new : List EventHeader}
    (before : HeadersNondecreasing old trafficRunId) (after : HeadersNondecreasing new trafficRunId)
    (above : ∀ one ∈ old, one.trafficRunId = trafficRunId → ∀ two ∈ new,
      two.trafficRunId = trafficRunId → one.sequence ≤ two.sequence) :
    HeadersNondecreasing (old ++ new) trafficRunId := by
  unfold HeadersNondecreasing
  rw [filter_append]
  refine pairwise_append.mpr ⟨before, after, ?_⟩
  intro one inOld two inNew
  obtain ⟨oldMember, oldOwn⟩ := mem_filter.mp inOld
  obtain ⟨newMember, newOwn⟩ := mem_filter.mp inNew
  exact above one oldMember (of_decide_eq_true oldOwn) two newMember (of_decide_eq_true newOwn)

theorem endsLine_batchText {file part : List UInt8} (free : 13 ∉ file)
    (cut : part <+: batchText lib file accepted) : EndsLine lib.jsonLines.newline file part := by
  rw [batchText_eq lib free] at cut
  unfold LineCodec.separator at cut
  split at cut
  · rename_i complete
    exact .inl complete
  · cases part with
    | nil => exact .inr (.inl rfl)
    | cons first rest =>
      obtain ⟨rfl, -⟩ := cons_prefix_cons.mp cut
      exact .inr (.inr rfl)

omit [DecidableEq Process] [DecidableEq Store] in
theorem TrafficSite.Sound.append (sound : site.Sound reader) {process : Process}
    (fault : AppendFault) (continues : Continues lib site (.append process events fault)) :
    let files := (appendMany lib (site.seenBy process) events fault).1.files
    (∀ name, 13 ∉ files name) ∧ (∀ name trafficRunId,
        HeadersNondecreasing (lib.jsonLines.read (files name)) trafficRunId) ∧
      ∀ store, OffsetsSound reader files (site.offsets store) := by
  rcases appendMany_files lib (site.seenBy process) events fault with
    same | ⟨trafficRunId, name, pending, last, accepted, part, file, own, done, cut, written⟩
  · rw [same]
    exact ⟨sound.return_notMem, sound.nondecreasing, sound.offsets⟩
  · rw [written]
    have free : 13 ∉ site.files name := sound.return_notMem name
    have partFree : 13 ∉ part := fun mem =>
      return_notMem_batchText lib _ accepted (cut.subset mem)
    have ends : EndsLine lib.jsonLines.newline (site.files name) part :=
      endsLine_batchText free cut
    refine ⟨?_, ?_, ?_⟩
    · intro other
      by_cases here : other = name
      · subst here
        rw [update_self, mem_append, not_or]
        exact ⟨free, partFree⟩
      · rw [update_of_ne here]
        exact sound.return_notMem other
    · intro other run
      by_cases here : other = name
      · subst here
        rw [update_self]
        show HeadersNondecreasing (lib.jsonLines.read (site.files other ++ part)) run
        have lines : part <+: batchText lib (site.files other) accepted := cut
        rw [batchText_eq lib free] at lines
        obtain ⟨kept, first, readPart⟩ :=
          lib.jsonLines.read_append_part (site.files other) accepted lines
        obtain ⟨ordered, past⟩ := acceptEvents_spec done
        have headers : kept.map lib.jsonLines.view = kept.map (·.header) :=
          map_congr_left fun event _ => lib.view_eq event
        rw [readPart, headers]
        refine (sound.nondecreasing other run).append ?_ ?_
        · have increasing := ordered.sequences
          rw [pairwise_map] at increasing
          unfold HeadersNondecreasing
          refine (increasing.sublist ?_).imp fun less => Int.le_of_lt less
          exact filter_sublist.trans (first.sublist.map TrafficEvent.header)
        · intro one inOld oldOwn two inNew newOwn
          obtain ⟨event, inKept, rfl⟩ := mem_map.mp inNew
          have listed := first.subset inKept
          obtain rfl : trafficRunId = run :=
            (acceptEvents_trafficRunId own done event listed).symm.trans newOwn
          have below : one.sequence ≤
              (watermark lib (site.seenBy process) trafficRunId other).1.1 + 1 :=
            sequence_le_watermark (continues (trafficRunId, other) file) one inOld oldOwn
          have above := (past event.header (mem_map_of_mem listed)).1
          exact Int.le_trans below above
      · rw [update_of_ne here]
        exact sound.nondecreasing other run
    · intro store run bucket mem other named item inBucket
      obtain ⟨before, splits, below⟩ :=
        sound.offsets store run bucket mem other named item inBucket
      by_cases here : other = name
      · subst here
        rw [update_self]
        exact ⟨before, splits.append fromLine_nil ends, below⟩
      · rw [update_of_ne here]
        exact ⟨before, splits, below⟩

theorem TrafficSite.Sound.step (sound : site.Sound reader) {action : SiteAction Process Store}
    (continues : Continues lib site action) {after : TrafficSite Process Store}
    (taken : action.perform reader site = some after) : after.Sound reader := by
  cases action with
  | append process events fault =>
    cases taken
    obtain ⟨free, nondecreasing, offsets⟩ := sound.append fault continues
    exact ⟨free, nondecreasing, offsets⟩
  | restart process =>
    cases taken
    exact ⟨sound.return_notMem, sound.nondecreasing, sound.offsets⟩
  | saveRun trafficRunId lastEventSequence =>
    cases taken
    exact ⟨sound.return_notMem, sound.nondecreasing, sound.offsets⟩
  | create store =>
    cases taken
    refine ⟨sound.return_notMem, sound.nondecreasing, ?_⟩
    intro other
    show OffsetsSound reader site.files (Function.update site.offsets store [] other)
    by_cases same : other = store
    · rw [same, update_self]
      exact fun _ _ mem => absurd mem not_mem_nil
    · rw [update_of_ne same]
      exact sound.offsets other
  | list store present trafficRunId afterSequence limit =>
    cases taken
    refine ⟨sound.return_notMem, sound.nondecreasing, ?_⟩
    intro other
    show OffsetsSound reader site.files (Function.update site.offsets store _ other)
    by_cases same : other = store
    · rw [same, update_self]
      exact (listEvents_spec reader (fun name _ => sound.nondecreasing name trafficRunId)
        (sound.offsets store) present afterSequence limit).2
    · rw [update_of_ne same]
      exact sound.offsets other

variable (reader) in
/-- Whatever a store has remembered, a listing gives the first events of the run behind a
sequence, at least one and at most 2000 of them. -/
theorem listEvents_eq_scan {actions : List (SiteAction Process Store)}
    (run : GuardedRun (fun site action => action.perform reader site) (Continues lib)
      TrafficSite.new actions site)
    (store : Store) (present : Bool) (trafficRunId : String) (afterSequence limit : Int) :
    (listEvents reader site.files present (site.offsets store) trafficRunId afterSequence limit).1 =
      if afterSequence < 0 then .error (.valueError "after_sequence must be non-negative")
      else
        match trafficRunName lib trafficRunId with
        | none => .error (.valueError "invalid traffic_run_id")
        | some name =>
          .ok (scanFile reader (site.files name) trafficRunId afterSequence (maxEvents limit)) := by
  have sound : site.Sound reader := run.invariant (fun site => site.Sound reader)
    (fun _ _ _ sound continues taken => sound.step continues taken) TrafficSite.new_sound
  exact (listEvents_spec reader (fun name _ => sound.nondecreasing name trafficRunId)
    (sound.offsets store) present afterSequence limit).1

end Site

/-! ## A repeated batch -/

/-- The reader of the unary notation; what is not in the header is as in `agentSample`. -/
def unaryReader : EventReader unaryLibrary where
  fromLine line := (readUnary line).map fun header =>
    { agentSample 0 with
      trafficRunId := header.trafficRunId, sequence := header.sequence
      remoteSequence := header.remoteSequence }
  header_eq := by
    intro line event found
    obtain ⟨header, read, rfl⟩ := Option.map_eq_some_iff.mp found
    exact read

/-- Every listing gives so many events of a scan. -/
def ListsAsScan (guard : TrafficLibrary → TrafficSite Unit Unit → SiteAction Unit Unit → Prop)
    (count : Int → Nat) : Prop :=
  ∀ (lib : TrafficLibrary) (reader : EventReader lib) actions site,
    GuardedRun (fun site action => action.perform reader site) (guard lib) TrafficSite.new
      actions site →
    ∀ trafficRunId name afterSequence limit, 0 ≤ afterSequence →
      trafficRunName lib trafficRunId = some name →
        (listEvents reader site.files true (site.offsets ()) trafficRunId afterSequence limit).1 =
          .ok (scanFile reader (site.files name) trafficRunId afterSequence (count limit))

def appendSamples (fault : AppendFault) : SiteAction Unit Unit :=
  .append () [agentSample 1, agentSample 2] fault

def siteAfter (actions : List (SiteAction Unit Unit)) : TrafficSite Unit Unit :=
  (runFrom (fun site action => action.perform unaryReader site) TrafficSite.new actions).getD .new

/-- The write of two samples fails when both have reached the disk. They are appended again,
and all events are listed. -/
def repeatedBatch : List (SiteAction Unit Unit) :=
  [appendSamples (.writing 1000), appendSamples .none, .list () true "r" 0 500]

def sequencesOf (events : Except TrafficError (List TrafficEvent)) : Option (List Int) :=
  events.toOption.map fun events => events.map (·.sequence)

/-- A limit of zero gives an event. A batch that is appended again takes its sequences
twice, and of those the listing behind the first leaves one out. -/
theorem not_listEvents_eq_scan : ¬ ListsAsScan (fun lib => Continues lib) Int.toNat ∧
      ¬ ListsAsScan (fun _ _ _ => True) maxEvents := by
  constructor
  · intro holds
    have run : GuardedRun (fun site action => action.perform unaryReader site)
        (Continues unaryLibrary) .new [appendSamples .none] (siteAfter [appendSamples .none]) :=
      .cons (by decide +kernel) rfl (.nil _)
    have same := congrArg sequencesOf
      (holds unaryLibrary unaryReader _ _ run "r" "r" 0 0 (by decide) (by decide +kernel))
    revert same
    decide +kernel
  · intro holds
    have run : GuardedRun (fun site action => action.perform unaryReader site)
        (fun _ _ => True) .new repeatedBatch (siteAfter repeatedBatch) :=
      .cons trivial rfl (.cons trivial rfl (.cons trivial rfl (.nil _)))
    have same := congrArg sequencesOf
      (holds unaryLibrary unaryReader _ _ run "r" "r" 1 500 (by decide) (by decide +kernel))
    revert same
    decide +kernel

theorem listEvents_eq_scan_two :
    (listEvents unaryReader (siteAfter [appendSamples .none, .list () true "r" 0 1]).files true
        ((siteAfter [appendSamples .none, .list () true "r" 0 1]).offsets ()) "r" 1 500).1 =
      if (1 : Int) < 0 then .error (.valueError "after_sequence must be non-negative")
      else
        match trafficRunName unaryLibrary "r" with
        | none => .error (.valueError "invalid traffic_run_id")
        | some name =>
          .ok (scanFile unaryReader
            ((siteAfter [appendSamples .none, .list () true "r" 0 1]).files name) "r" 1
            (maxEvents 500)) := by
  have run : GuardedRun (fun site action => action.perform unaryReader site)
      (Continues unaryLibrary) .new [appendSamples .none, .list () true "r" 0 1]
      (siteAfter [appendSamples .none, .list () true "r" 0 1]) :=
    .cons (by decide +kernel) rfl (.cons trivial rfl (.nil _))
  exact listEvents_eq_scan unaryReader run () true "r" 1 500

end NetConsole.Traffic
