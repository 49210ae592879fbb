import Mathlib.Data.List.Chain
import NetConsole.Worker.Protocol

/-!
# The runs of an active link

The chart of a mesh log has one index for each sample time. An index with exactly
one ACTIVE row has a peer, the canonical address of that row, which may be empty.
`build_active_runs` walks over the indices and closes its current run when the
peer changes or is missing. Cut the indices into stretches of one peer such that
neighbours have different peers (`Stretches`): the runs are the stretches that have
a peer, in order (`activeRuns_exact`).
-/

set_option autoImplicit false

namespace NetConsole.Mesh

open List
open Worker (Event Json PythonLibrary dictGet pythonStr)

/-! ## Samples with one active row -/

/-- `row.get("link_state") == LINK_STATE_ACTIVE`. -/
def isActive (row : Event) : Bool :=
  match dictGet row "link_state" with
  | .str state => state == "ACTIVE"
  | _ => false

variable (lib : PythonLibrary)

/-- Of a row. No other character has a hexadecimal digit as its lower case. -/
def canonicalMeshMac (row : Event) : List Char :=
  let value := (dictGet row "peer_mac_normalized").orElse
    ((dictGet row "peer_mac_raw").orElse (.str ""))
  ((pythonStr lib value).toList.map Char.toLower).filter ("0123456789abcdef".toList.contains ·)

variable (masterTimes : List String) (rowsByTime : List (String × List Event))

/-- The active rows of a sample. -/
def activeRows (sampleTime : String) : List Event :=
  ((rowsByTime.lookup sampleTime).getD []).filter isActive

/-- The samples with one active link, with none, and with several. -/
structure UniqueActiveSamples where
  uniqueActiveByIndex : Nat → Option Event
  noActiveIndices : List Nat
  multiActiveIndices : List Nat

def UniqueActiveSamples.add (samples : UniqueActiveSamples) (index : Nat) :
    List Event → UniqueActiveSamples
  | [row] => { samples with
      uniqueActiveByIndex := Function.update samples.uniqueActiveByIndex index (some row) }
  | [] => { samples with noActiveIndices := samples.noActiveIndices ++ [index] }
  | _ => { samples with multiActiveIndices := samples.multiActiveIndices ++ [index] }

def buildUniqueActiveSamples : UniqueActiveSamples :=
  masterTimes.zipIdx.foldl (fun samples entry =>
    samples.add entry.2 (activeRows rowsByTime entry.1)) ⟨fun _ => none, [], []⟩

/-! ## The loop over the indices -/

/-- Samples in a row that are active with one peer. -/
structure ActiveRun where
  peerMac : List Char
  startSampleIndex : Nat
  endSampleIndex : Nat
  activeSampleIndices : List Nat

/-- The run of a peer over some indices: `current_indices[0]` is the first one and
`current_indices[-1]` the last one. -/
def activeRun (peer : List Char) (indices : List Nat) : ActiveRun :=
  ⟨peer, indices.headD 0, indices.getLastD 0, indices⟩

/-- The variables of the loop that builds the runs. -/
structure RunLoop where
  runs : List ActiveRun
  currentPeer : List Char
  currentIndices : List Nat

/-- The runs, with the current one if it has indices. -/
def RunLoop.closed (loop : RunLoop) : List ActiveRun :=
  if loop.currentIndices = [] then loop.runs
  else loop.runs ++ [activeRun loop.currentPeer loop.currentIndices]

/-- A blank peer closes the run, another peer begins a new one. -/
def RunLoop.step (loop : RunLoop) (index : Nat) (peer : List Char) : RunLoop :=
  if peer = [] then
    if loop.currentIndices = [] then loop else ⟨loop.closed, [], []⟩
  else if loop.currentIndices ≠ [] ∧ peer ≠ loop.currentPeer then ⟨loop.closed, peer, [index]⟩
  else ⟨loop.runs, peer, loop.currentIndices ++ [index]⟩

/-- `canonical_mesh_mac(row) if row else ""`. -/
def peerOf : Option Event → List Char
  | none | some [] => []
  | some row => canonicalMeshMac lib row

/-- The runs of all peers. -/
def buildActiveRuns (uniqueActiveByIndex : Nat → Option Event) : List ActiveRun :=
  ((range masterTimes.length).foldl (fun (loop : RunLoop) index =>
    loop.step index (peerOf lib (uniqueActiveByIndex index))) ⟨[], [], []⟩).closed

/-! ## The loop follows the stretches -/

section Stretches

variable (peerAt : Nat → List Char)

/-- The indices below `count`, cut where the peer changes. -/
structure Stretches (count : Nat) (stretches : List (List Char × List Nat)) : Prop where
  indices : stretches.flatMap Prod.snd = range count
  some' : ∀ stretch ∈ stretches, stretch.2 ≠ []
  peer : ∀ stretch ∈ stretches, ∀ index ∈ stretch.2, peerAt index = stretch.1
  apart : (stretches.map Prod.fst).IsChain (· ≠ ·)

/-- The runs of the stretches that have a peer. -/
def runsOf (stretches : List (List Char × List Nat)) : List ActiveRun :=
  (stretches.filter (·.1 ≠ [])).map fun stretch => activeRun stretch.1 stretch.2

/-- The loop after some stretches: the current indices are the last one, if that has a peer. -/
def loopOf (stretches : List (List Char × List Nat)) : RunLoop :=
  match stretches.getLast? with
  | none => ⟨[], [], []⟩
  | some (peer, last) =>
    if peer = [] then ⟨runsOf stretches, [], []⟩ else ⟨runsOf stretches.dropLast, peer, last⟩

variable {peerAt} {index : Nat} {before : List (List Char × List Nat)} {last : List Nat}

theorem Stretches.begin (stretches : Stretches peerAt index before)
    (differs : ∀ stretch ∈ before.getLast?, stretch.1 ≠ peerAt index) :
    Stretches peerAt (index + 1) (before ++ [(peerAt index, [index])]) where
  indices := by simp [stretches.indices, range_succ]
  some' := forall_mem_append.mpr ⟨stretches.some', forall_mem_singleton.mpr (cons_ne_nil _ _)⟩
  peer := by
    refine forall_mem_append.mpr ⟨stretches.peer, forall_mem_singleton.mpr ?_⟩
    exact forall_mem_singleton.mpr rfl
  apart := by
    rw [map_append, isChain_append]
    refine ⟨stretches.apart, isChain_singleton _, ?_⟩
    simpa [getLast?_map] using differs

theorem Stretches.extend {peer : List Char}
    (stretches : Stretches peerAt index (before ++ [(peer, last)])) (same : peerAt index = peer) :
    Stretches peerAt (index + 1) (before ++ [(peer, last ++ [index])]) := by
  obtain ⟨indices, some', peers, apart⟩ := stretches
  rw [forall_mem_append, forall_mem_singleton] at some' peers
  constructor
  · simp only [flatMap_append, flatMap_singleton] at indices ⊢
    rw [← append_assoc, indices, range_succ]
  · exact forall_mem_append.mpr ⟨some'.1, forall_mem_singleton.mpr (by simp)⟩
  · refine forall_mem_append.mpr ⟨peers.1, forall_mem_singleton.mpr ?_⟩
    exact forall_mem_append.mpr ⟨peers.2, forall_mem_singleton.mpr same⟩
  · simpa using apart

variable {stretches : List (List Char × List Nat)}

theorem closed_loopOf (cut : Stretches peerAt index stretches) :
    (loopOf stretches).closed = runsOf stretches := by
  rcases eq_nil_or_concat' stretches with rfl | ⟨before, ⟨peer, last⟩, rfl⟩
  · rfl
  · have some' : last ≠ [] := cut.some' (peer, last) (by simp)
    by_cases missing : peer = [] <;> simp [loopOf, RunLoop.closed, runsOf, missing, some']

theorem step_loopOf (cut : Stretches peerAt index stretches) :
    ∃ next, Stretches peerAt (index + 1) next ∧
      (loopOf stretches).step index (peerAt index) = loopOf next := by
  rcases eq_nil_or_concat' stretches with rfl | ⟨before, ⟨peer, last⟩, rfl⟩
  · refine ⟨_, cut.begin nofun, ?_⟩
    by_cases missing : peerAt index = [] <;> simp [loopOf, RunLoop.step, runsOf, missing]
  · have some' : last ≠ [] := cut.some' (peer, last) (by simp)
    by_cases same : peerAt index = peer
    · refine ⟨_, cut.extend same, ?_⟩
      by_cases missing : peer = [] <;> simp [loopOf, RunLoop.step, runsOf, same, missing]
    · refine ⟨_, cut.begin (by simpa using Ne.symm same), ?_⟩
      by_cases missing : peer = [] <;> by_cases missing' : peerAt index = [] <;>
        simp [loopOf, RunLoop.step, RunLoop.closed, runsOf, same, missing, missing', some']

theorem foldl_step {peers : Nat → List Char} (count : Nat)
    (same : ∀ index < count, peers index = peerAt index) :
    ∃ stretches, Stretches peerAt count stretches ∧ (range count).foldl
      (fun (loop : RunLoop) index => loop.step index (peers index)) ⟨[], [], []⟩ =
        loopOf stretches := by
  induction count with
  | zero => exact ⟨[], ⟨rfl, nofun, nofun, .nil⟩, rfl⟩
  | succ count ih =>
    obtain ⟨stretches, cut, loop⟩ := ih fun index below => same index (Nat.lt_succ_of_lt below)
    rw [range_succ, foldl_append, loop, foldl_cons, same count (Nat.lt_succ_self _)]
    exact step_loopOf cut

/-- Each index with a peer is in one run. -/
theorem Stretches.cover (cut : Stretches peerAt index stretches) :
    (runsOf stretches).flatMap ActiveRun.activeSampleIndices =
      (range index).filter (peerAt · ≠ []) := by
  obtain ⟨indices, -, peers, -⟩ := cut
  rw [← indices, filter_flatMap, runsOf, flatMap_map]
  clear indices
  induction stretches with
  | nil => rfl
  | cons stretch rest ih =>
    rw [forall_mem_cons] at peers
    have own : stretch.2.filter (peerAt · ≠ []) = stretch.2.filter fun _ => stretch.1 ≠ [] :=
      filter_congr fun index mem => by rw [peers.1 index mem]
    rw [flatMap_cons, own, ← ih peers.2]
    by_cases missing : stretch.1 = [] <;> simp [missing, activeRun]

end Stretches

/-! ## The rows of the indices -/

def activeAt (index : Nat) : List Event := activeRows rowsByTime (masterTimes.getD index "")

/-- The canonical peer of an index, empty unless exactly one row is active. -/
def peerAt (index : Nat) : List Char :=
  match activeAt masterTimes rowsByTime index with
  | [row] => canonicalMeshMac lib row
  | _ => []

/-- The samples before an index, sorted out by their number of active rows. -/
def sortedOut (count : Nat) : UniqueActiveSamples where
  uniqueActiveByIndex index := if index < count then
    match activeAt masterTimes rowsByTime index with
    | [row] => some row
    | _ => none
    else none
  noActiveIndices := (range count).filter fun index =>
    (activeAt masterTimes rowsByTime index).length = 0
  multiActiveIndices := (range count).filter fun index =>
    1 < (activeAt masterTimes rowsByTime index).length

theorem add_sortedOut (index : Nat) :
    (sortedOut masterTimes rowsByTime index).add index (activeAt masterTimes rowsByTime index) =
      sortedOut masterTimes rowsByTime (index + 1) := by
  have others : ∀ other, other ≠ index → (other < index + 1 ↔ other < index) := by omega
  rcases rows : activeAt masterTimes rowsByTime index with _ | ⟨row, _ | ⟨row', rest⟩⟩ <;>
    simp only [sortedOut, UniqueActiveSamples.add, range_succ, filter_append,
      UniqueActiveSamples.mk.injEq]
  all_goals
    refine ⟨funext fun other => ?_, by simp [rows], by simp [rows]⟩
    by_cases same : other = index
    · subst same
      simp [rows]
    · simp [others other same, same]

theorem buildUniqueActiveSamples_eq : buildUniqueActiveSamples masterTimes rowsByTime =
    sortedOut masterTimes rowsByTime masterTimes.length := by
  have entries : masterTimes.zipIdx =
      (range masterTimes.length).map fun index => (masterTimes.getD index "", index) := by
    refine ext_getElem (by simp) fun index below _ => ?_
    rw [length_zipIdx] at below
    simp [getElem?_eq_getElem below]
  rw [buildUniqueActiveSamples, entries, foldl_map]
  generalize masterTimes.length = count
  induction count with
  | zero => rfl
  | succ count ih =>
    rw [range_succ, foldl_append, ih]
    exact add_sortedOut masterTimes rowsByTime count

/-- What the two functions make of the sample times and their rows. -/
structure RunsExact (samples : UniqueActiveSamples) (runs : List ActiveRun) : Prop where
  sorted : samples = sortedOut masterTimes rowsByTime masterTimes.length
  maximal : ∃ stretches, runs = runsOf stretches ∧
    Stretches (peerAt lib masterTimes rowsByTime) masterTimes.length stretches
  cover : runs.flatMap ActiveRun.activeSampleIndices =
    (range masterTimes.length).filter (peerAt lib masterTimes rowsByTime · ≠ [])

/-- The indices are sorted out by their number of active rows, and the runs are the
stretches with a peer. -/
theorem activeRuns_exact :
    RunsExact lib masterTimes rowsByTime (buildUniqueActiveSamples masterTimes rowsByTime)
      (buildActiveRuns lib masterTimes
        (buildUniqueActiveSamples masterTimes rowsByTime).uniqueActiveByIndex) := by
  rw [buildUniqueActiveSamples_eq]
  have same : ∀ index < masterTimes.length, peerOf lib ((sortedOut masterTimes rowsByTime
      masterTimes.length).uniqueActiveByIndex index) = peerAt lib masterTimes rowsByTime index := by
    intro index below
    simp only [sortedOut, below, if_true, peerAt]
    rcases activeAt masterTimes rowsByTime index with _ | ⟨_ | _, _ | _⟩ <;> rfl
  obtain ⟨stretches, cut, loop⟩ := foldl_step masterTimes.length same
  rw [buildActiveRuns, loop, closed_loopOf cut]
  exact ⟨rfl, ⟨stretches, rfl, cut⟩, cut.cover⟩

end NetConsole.Mesh
