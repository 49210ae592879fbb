import NetConsole.Foundations.CrashedCalls
import NetConsole.Syslog.ReplayFiles

/-!
# Bounded and unbounded replay

A replay in several calls, with any limits and with crashes between the commits,
should store what one unbounded call stores. A line without JSON does not stop it,
but a line on which the parser raises does: the exception ends the call, and the
events since the last batch of a hundred are not committed. A call whose limit ends
just before that line commits them (`not_boundedEqualsFull_invalidDate`). An event
that `sqlite3` does not bind ends its batch in the same way.

If no line that is still to be replayed raises or cannot be bound, every run of
bounded calls leads to the state of one unbounded call, stores each event once and
leaves cursors that denote their positions (`boundedEqualsFull_of_recoverable`).
-/

set_option autoImplicit false

namespace NetConsole.Syslog

open Foundations List
open Worker (PythonError)

section Runs

variable {DateTime : Type} {lib : SyslogLibrary DateTime} {runId : String}
  {services : ReceiverServices DateTime} {content : List UInt8} {lineNumber : Nat}
  {row : RecoveryRow}

/-! ## Replaying the files of a run -/

/-- What is left of a row: its pending lines, and one for its end. -/
def rowWork (lib : SyslogLibrary DateTime) (row : RecoveryRow) : Nat :=
  if row.isCandidate then
    match row.content with
    | none => 1
    | some content => (pendingLines lib row content).length + 1
  else 0

/-- What is left of some rows. -/
def totalWork (lib : SyslogLibrary DateTime) (rows : List RecoveryRow) : Nat :=
  (rows.map (rowWork lib)).sum

/-- A store with its pending events, all at once. -/
def finishRows (lib : SyslogLibrary DateTime) (runId : String)
    (services : ReceiverServices DateTime) : List RecoveryRow → List EventRow → ReplayStore
  | [], stored => ⟨[], stored⟩
  | row :: rest, stored =>
    let finished := finishRow lib runId services row stored
    (finishRows lib runId services rest finished.2).withRow finished.1

/-- A durable state of a call. -/
structure StoreOnTheWay (lib : SyslogLibrary DateTime) (runId : String)
    (services : ReceiverServices DateTime) (stored : List EventRow) (last state : ReplayStore) :
    Prop where
  recoverable : ∀ row ∈ state.rows, Recoverable lib runId services row
  finish : finishRows lib runId services state.rows state.stored = last
  inserted : ∃ events, state.stored = addEvents stored events

theorem rowWork_of_settled (lib : SyslogLibrary DateTime) (settled : row.isCandidate = false) :
    rowWork lib row = 0 := by
  rw [rowWork, settled]
  rfl

theorem rowWork_of_standsAt (stands : StandsAt lib content lineNumber row) :
    rowWork lib row = ((rawLines content).drop lineNumber).length + 1 := by
  rw [rowWork, if_pos stands.candidate]
  simp only [stands.content_eq, stands.pendingLines_eq]

variable {rest : List RecoveryRow}

theorem StoreOnTheWay.withRow {stored later : List EventRow} {state : ReplayStore}
    (settled : row.isCandidate = false) (inserted : ∃ events, later = addEvents stored events)
    (onTheWay : StoreOnTheWay lib runId services later
      (finishRows lib runId services rest later) state) :
    StoreOnTheWay lib runId services stored
      ((finishRows lib runId services rest later).withRow row) (state.withRow row) where
  recoverable := by
    intro other mem
    rcases mem_cons.mp mem with rfl | mem
    · exact recoverable_of_settled settled
    · exact onTheWay.recoverable other mem
  finish := by
    show finishRows lib runId services (row :: state.rows) state.stored = _
    rw [finishRows, finishRow_of_settled settled]
    rw [onTheWay.finish]
  inserted := by
    obtain ⟨first, early⟩ := inserted
    obtain ⟨second, late⟩ := onTheWay.inserted
    refine ⟨first ++ second, ?_⟩
    show state.stored = _
    rw [late, early, addEvents_append]

theorem getLast?_map_withRow (row : RecoveryRow) (states : List ReplayStore) (rest : ReplayStore) :
    (states.map (ReplayStore.withRow row)).getLast?.getD (rest.withRow row) =
      (states.getLast?.getD rest).withRow row := by
  rw [List.getLast?_map]
  cases states.getLast? <;> rfl

/-- What a call does to the rows that it has listed. -/
structure RowsReplayed (lib : SyslogLibrary DateTime) (runId : String)
    (services : ReceiverServices DateTime) (rows : List RecoveryRow) (stored : List EventRow)
    (remaining : Nat) (states : List ReplayStore) : Prop where
  durable : ∀ state ∈ states, StoreOnTheWay lib runId services stored
    (finishRows lib runId services rows stored) state
  work : totalWork lib (states.getLast?.getD ⟨rows, stored⟩).rows ≤
    totalWork lib rows - remaining

variable {stored : List EventRow}

theorem RowsReplayed.withRow {remaining : Nat} {states : List ReplayStore}
    (settled : row.isCandidate = false)
    (replayed : RowsReplayed lib runId services rest stored remaining states) :
    RowsReplayed lib runId services (row :: rest) stored remaining
      (states.map (ReplayStore.withRow row)) where
  durable := by
    intro state mem
    obtain ⟨later, memberLater, rfl⟩ := mem_map.mp mem
    have onTheWay := (replayed.durable later memberLater).withRow settled ⟨[], rfl⟩
    rw [finishRows, finishRow_of_settled settled]
    exact onTheWay
  work := by
    have same := getLast?_map_withRow row states ⟨rest, stored⟩
    have start : (⟨row :: rest, stored⟩ : ReplayStore) = ReplayStore.withRow
        row ⟨rest, stored⟩ := rfl
    rw [start, same]
    have work := replayed.work
    have none' := rowWork_of_settled lib settled
    simp only [totalWork, ReplayStore.withRow, map_cons, sum_cons, none', Nat.zero_add] at work ⊢
    exact work

/-- A state of the first row in front of the others. -/
theorem OnTheWay.withRest {state : RecoveryRow × List EventRow}
    (onTheWay : OnTheWay lib runId services stored (finishRow lib runId services row stored) state)
    (recoverable : ∀ other ∈ rest, Recoverable lib runId services other) :
    StoreOnTheWay lib runId services stored
      (finishRows lib runId services (row :: rest) stored) ⟨state.1 :: rest, state.2⟩ where
  recoverable := by
    intro other mem
    rcases mem_cons.mp mem with rfl | mem
    · exact onTheWay.recoverable
    · exact recoverable other mem
  finish := by
    simp only [finishRows, onTheWay.finish]
  inserted := onTheWay.inserted

theorem replayRows_zero (rows : List RecoveryRow) (stored : List EventRow) :
    replayRows lib runId services rows stored 0 = [] := by
  induction rows generalizing stored with
  | nil => rfl
  | cons row rest ih =>
    rw [replayRows]
    split
    · rw [ih, map_nil]
    · rfl

theorem RowsReplayed.behind (used : Nat) (before : List ReplayStore) {remaining : Nat}
    {states : List ReplayStore} {settled : RecoveryRow × List EventRow}
    (finished : finishRow lib runId services row stored = settled)
    (done : settled.1.isCandidate = false)
    (inserted : ∃ events, settled.2 = addEvents stored events)
    (early : ∀ state ∈ before, StoreOnTheWay lib runId services stored
      (finishRows lib runId services (row :: rest) stored) state)
    (reached : before.getLast? = some ⟨settled.1 :: rest, settled.2⟩)
    (work : used + 1 ≤ rowWork lib row)
    (replayed : RowsReplayed lib runId services rest settled.2 (remaining - used) states) :
    RowsReplayed lib runId services (row :: rest) stored remaining
      (before ++ states.map (ReplayStore.withRow settled.1)) where
  durable := by
    intro state mem
    rcases mem_append.mp mem with first | later
    · exact early state first
    · obtain ⟨last, memberLast, rfl⟩ := mem_map.mp later
      rw [finishRows, finished]
      exact (replayed.durable last memberLast).withRow done inserted
  work := by
    have same := getLast?_map_withRow settled.1 states ⟨rest, settled.2⟩
    have last : (before ++ states.map (ReplayStore.withRow settled.1)).getLast?.getD
        ⟨row :: rest, stored⟩ = (states.getLast?.getD ⟨rest, settled.2⟩).withRow settled.1 := by
      rw [← same, List.getLast?_append, reached]
      cases (states.map (ReplayStore.withRow settled.1)).getLast? <;> rfl
    have workRest := replayed.work
    have none' := rowWork_of_settled lib done
    rw [last]
    simp only [totalWork, ReplayStore.withRow, map_cons, sum_cons, none'] at workRest ⊢
    omega

variable (reads : ReadsNumbers lib.python)
include reads

/-- A call keeps the completion and does as much of the work as its limit allows. -/
theorem replayRows_spec (rows : List RecoveryRow) (stored : List EventRow) (remaining : Nat)
    (recoverable : ∀ row ∈ rows, Recoverable lib runId services row) :
    RowsReplayed lib runId services rows stored remaining
      (replayRows lib runId services rows stored remaining) := by
  induction rows generalizing stored remaining with
  | nil => exact ⟨fun state mem => (not_mem_nil mem).elim, Nat.zero_le _⟩
  | cons row rest ih =>
    have first := recoverable row mem_cons_self
    have others : ∀ other ∈ rest, Recoverable lib runId services other :=
      fun other mem => recoverable other (mem_cons_of_mem _ mem)
    rw [replayRows]
    cases candidate : row.isCandidate with
    | false => exact (ih stored remaining others).withRow candidate
    | true =>
      simp only [Bool.not_true, Bool.false_eq_true, if_false]
      split
      · next spent =>
        refine ⟨fun state mem => (not_mem_nil mem).elim, ?_⟩
        rw [spent]
        exact Nat.le_refl _
      · next positive =>
        cases known : row.content with
        | none =>
          have finished : finishRow lib runId services row stored = (row.missing, stored) := by
            rw [finishRow, if_pos candidate]
            simp only [known]
          have settled := missing_isCandidate row
          have onTheWay : OnTheWay lib runId services stored
              (finishRow lib runId services row stored) (row.missing, stored) :=
            ⟨recoverable_of_settled settled, by rw [finished, finishRow_of_settled settled],
              [], rfl⟩
          have work : 0 + 1 ≤ rowWork lib row := by
            rw [rowWork, if_pos candidate]
            simp only [known]
            exact Nat.le_refl _
          exact RowsReplayed.behind 0 [⟨row.missing :: rest, stored⟩] finished settled ⟨[], rfl⟩ (by
              intro state mem
              rw [mem_singleton] at mem
              subst mem
              exact onTheWay.withRest others)
            rfl work (ih stored remaining others)
        | some content =>
          have stands := first.standsAt candidate known
          have finished : finishRow lib runId services row stored =
              (row.parsed, addEvents stored (lineEvents lib runId services row.fileId
                (startPosition lib row content).1
                ((rawLines content).drop (startPosition lib row content).1))) :=
            stands.finishRow_eq stored
          have same : lastState lib runId services row stored [] (startPosition lib row content).1
              ((rawLines content).drop (startPosition lib row content).1) =
                finishRow lib runId services row stored := by
            rw [finished, lastState, nil_append]
          have projects := first.projects candidate content known
          have pending := stands.pendingLines_eq
          rw [pending] at projects
          have replayed := replayLines_spec reads _ row stored []
            (startPosition lib row content).1 (startPosition lib row content).1 remaining
            stands stands.inside rfl (fun _ mem => absurd mem not_mem_nil) projects
          have start : (startPosition lib row content).2 =
              offsetAt content (startPosition lib row content).1 :=
            congrArg Prod.snd stands.start
          rw [same, ← start, ← pending] at replayed
          have work := rowWork_of_standsAt stands
          rw [← pending] at work
          have early : ∀ state ∈ (replayFile lib runId services row content stored
              remaining).durable.map (fun state => (⟨state.1 :: rest, state.2⟩ : ReplayStore)),
              StoreOnTheWay lib runId services stored
                (finishRows lib runId services (row :: rest) stored) state := by
            intro state mem
            obtain ⟨one, memberOne, rfl⟩ := mem_map.mp mem
            exact (replayed.durable one memberOne).withRest others
          have unraised : (replayFile lib runId services row content stored
              remaining).raised = none := replayed.unraised
          simp only [unraised, Option.isSome_none, Bool.false_eq_true, if_false]
          rcases Nat.lt_or_ge remaining
            (pendingLines lib row content).length with short | enough
          · obtain ⟨spent, state, reached, standsLater⟩ := replayed.bounded short
            have none' : (replayFile lib runId services row content stored
                remaining).remaining = 0 := spent
            have last : (replayFile lib runId services row content stored
                remaining).durable.getLast? = some state := reached
            have workLater := rowWork_of_standsAt standsLater
            rw [none', replayRows_zero, map_nil, append_nil]
            refine ⟨early, ?_⟩
            rw [List.getLast?_map, last]
            simp only [totalWork, Option.map_some, Option.getD_some, map_cons, sum_cons,
              work, workLater]
            rw [pending, length_drop] at short
            rw [pending, length_drop, length_drop]
            omega
          · obtain ⟨reached, unused⟩ := replayed.complete enough
            have left : (replayFile lib runId services row content stored
                remaining).remaining = remaining -
                  (pendingLines lib row content).length := unused
            have last : (replayFile lib runId services row content stored
                remaining).durable.getLast? = some (finishRow lib runId services row stored) :=
              reached
            have settled : (finishRow lib runId services row stored).1.isCandidate = false := by
              rw [finished]
              exact parsed_isCandidate row
            have inserted : ∃ events, (finishRow lib runId services row stored).2 =
                addEvents stored events := by
              rw [finished]
              exact ⟨_, rfl⟩
            rw [last, left]
            exact RowsReplayed.behind (pendingLines lib row content).length _ rfl settled
              inserted early (by rw [List.getLast?_map, last]; rfl) (Nat.le_of_eq work.symm)
              (ih _ _ others)

/-! ## Runs of calls -/

omit reads in
theorem finishRows_of_settled {rows : List RecoveryRow}
    (settled : ∀ row ∈ rows, row.isCandidate = false) (stored : List EventRow) :
    finishRows lib runId services rows stored = ⟨rows, stored⟩ := by
  induction rows generalizing stored with
  | nil => rfl
  | cons row rest ih =>
    rw [finishRows, finishRow_of_settled (settled row mem_cons_self)]
    rw [ih (fun other mem => settled other (mem_cons_of_mem _ mem))]
    rfl

/-- No file is left to recover. -/
def NothingPending (store : ReplayStore) : Prop := ∀ row ∈ store.rows, row.isCandidate = false

variable {store : ReplayStore}

omit reads in
theorem nothingPending_of_totalWork (none : totalWork lib store.rows = 0) :
    NothingPending store := by
  intro row mem
  have rowNone : rowWork lib row = 0 := by
    have each := List.sum_eq_zero_iff_forall_eq_nat.mp none
    exact each _ (mem_map_of_mem mem)
  rw [rowWork] at rowNone
  cases candidate : row.isCandidate with
  | false => rfl
  | true =>
    rw [if_pos candidate] at rowNone
    split at rowNone
    · cases rowNone
    · cases rowNone

/-- A limit that suffices for all pending lines and files. -/
def Unbounded (lib : SyslogLibrary DateTime) (store : ReplayStore) (limit : Int) : Prop :=
  totalWork lib store.rows ≤ (max 1 limit).toNat

instance (store : ReplayStore) (limit : Int) : Decidable (Unbounded lib store limit) :=
  inferInstanceAs (Decidable (_ ≤ _))

theorem callResult_unbounded
    (recoverable : ∀ row ∈ store.rows, Recoverable lib runId services row) {limit : Int}
    (unbounded : Unbounded lib store limit) :
    callResult (replayPendingEvents lib runId services) limit store =
      finishRows lib runId services store.rows store.stored := by
  have replayed := replayRows_spec reads store.rows store.stored (max 1 limit).toNat recoverable
  have work : totalWork lib
      (callResult (replayPendingEvents lib runId services) limit store).rows = 0 := by
    have left := replayed.work
    unfold Unbounded at unbounded
    have none : totalWork lib store.rows - (max 1 limit).toNat = 0 := by omega
    rw [none] at left
    exact Nat.le_zero.mp left
  have settled := nothingPending_of_totalWork work
  have finished : finishRows lib runId services
      (callResult (replayPendingEvents lib runId services) limit store).rows
      (callResult (replayPendingEvents lib runId services) limit store).stored =
        finishRows lib runId services store.rows store.stored := by
    rcases getLast?_getD_mem (replayPendingEvents lib runId services limit store) store with
      same | mem
    · rw [callResult, same]
    · exact (replayed.durable _ mem).finish
  rw [← finished, finishRows_of_settled settled]

/-- Each position has one event at most. -/
def DistinctPositions (stored : List EventRow) : Prop :=
  (stored.map fun event => (event.rawFileId, event.rawLineNumber)).Nodup

omit reads in
theorem DistinctPositions.addEvents (distinct : DistinctPositions stored)
    (batch : List PendingEvent) : DistinctPositions (addEvents stored batch) := by
  induction batch generalizing stored with
  | nil => exact distinct
  | cons pending rest ih =>
    show DistinctPositions (Syslog.addEvents
      (if hasEventAt stored pending.event then stored else stored ++ [pending.event]) rest)
    apply ih
    split
    · exact distinct
    · next new =>
      unfold DistinctPositions
      rw [map_append, nodup_append]
      refine ⟨distinct, by simp, ?_⟩
      intro position mem other memberOther same
      obtain ⟨old, memberOld, rfl⟩ := mem_map.mp mem
      simp only [map_cons, map_nil, mem_singleton] at memberOther
      subst memberOther
      apply new
      rw [hasEventAt, any_eq_true]
      rw [Prod.mk.injEq] at same
      exact ⟨old, memberOld, by simp [same]⟩

/-- Some calls with limits, each with the number of states that a crash keeps, do the
work of one unbounded call. -/
structure BoundedEqualsFull (lib : SyslogLibrary DateTime) (runId : String)
    (services : ReceiverServices DateTime) (store : ReplayStore) (calls : List (Int × Option Nat)) :
    Prop where
  continues : ∀ limit later, Unbounded lib store limit →
    Unbounded lib (attempts (replayPendingEvents lib runId services) store calls) later →
    callResult (replayPendingEvents lib runId services) later
        (attempts (replayPendingEvents lib runId services) store calls) =
      callResult (replayPendingEvents lib runId services) limit store
  settled : ∀ limit, Unbounded lib store limit →
    NothingPending (attempts (replayPendingEvents lib runId services) store calls) →
    attempts (replayPendingEvents lib runId services) store calls =
      callResult (replayPendingEvents lib runId services) limit store
  ends : ∀ limits : List Int,
    totalWork lib (attempts (replayPendingEvents lib runId services) store calls).rows ≤
      limits.length →
    NothingPending (attempts (replayPendingEvents lib runId services) store
      (calls ++ limits.map fun limit => (limit, none)))
  eachOnce : DistinctPositions store.stored →
    DistinctPositions (attempts (replayPendingEvents lib runId services) store calls).stored
  cursors : ∀ row ∈ (attempts (replayPendingEvents lib runId services) store calls).rows,
    row.isCandidate → ∀ content, row.content = some content →
      ∃ lineNumber, StandsAt lib content lineNumber row

theorem attempts_onTheWay (recoverable : ∀ row ∈ store.rows, Recoverable lib runId services row)
    (calls : List (Int × Option Nat)) : StoreOnTheWay lib runId services store.stored
      (finishRows lib runId services store.rows store.stored)
      (attempts (replayPendingEvents lib runId services) store calls) := by
  apply attempts_keep (StoreOnTheWay lib runId services store.stored
    (finishRows lib runId services store.rows store.stored))
  · intro limit middle onTheWay reached mem
    have replayed := replayRows_spec reads middle.rows middle.stored (max 1 limit).toNat
      onTheWay.recoverable
    have next := replayed.durable reached mem
    obtain ⟨first, early⟩ := onTheWay.inserted
    obtain ⟨second, late⟩ := next.inserted
    exact {
      recoverable := next.recoverable, finish := next.finish.trans onTheWay.finish
      inserted := ⟨first ++ second, by rw [late, early, addEvents_append]⟩
    }
  · exact ⟨recoverable, rfl, [], rfl⟩

/-- Enough calls without a crash leave nothing pending. -/
theorem attempts_end (limits : List Int)
    (recoverable : ∀ row ∈ store.rows, Recoverable lib runId services row)
    (enough : totalWork lib store.rows ≤ limits.length) :
    NothingPending (attempts (replayPendingEvents lib runId services) store
      (limits.map fun limit => (limit, none))) := by
  induction limits generalizing store with
  | nil => exact nothingPending_of_totalWork (Nat.le_zero.mp enough)
  | cons limit rest ih =>
    have replayed := replayRows_spec reads store.rows store.stored (max 1 limit).toNat recoverable
    have onTheWay := attempts_onTheWay reads recoverable [(limit, none)]
    rw [map_cons]
    apply ih onTheWay.recoverable
    have left := replayed.work
    rw [length_cons] at enough
    have positive : 1 ≤ (max 1 limit).toNat := by omega
    have fewer : totalWork lib store.rows - (max 1 limit).toNat ≤ rest.length := by omega
    exact Nat.le_trans left fewer

omit reads

/-- If no line that is still to be replayed raises or has an event that cannot be bound, every
run of bounded calls, with crashes between the commits, does the work of one unbounded call. -/
theorem boundedEqualsFull_of_recoverable (reads : ReadsNumbers lib.python) (store : ReplayStore)
    (recoverable : ∀ row ∈ store.rows, Recoverable lib runId services row)
    (calls : List (Int × Option Nat)) : BoundedEqualsFull lib runId services store calls := by
  have onTheWay := attempts_onTheWay reads recoverable calls
  exact {
    continues := by
      intro limit later unbounded unboundedLater
      rw [callResult_unbounded reads onTheWay.recoverable unboundedLater,
        callResult_unbounded reads recoverable unbounded, onTheWay.finish]
    settled := by
      intro limit unbounded nothing
      rw [callResult_unbounded reads recoverable unbounded, ← onTheWay.finish,
        finishRows_of_settled nothing]
    ends := by
      intro limits enough
      rw [attempts, foldl_append]
      exact attempts_end reads limits onTheWay.recoverable enough
    eachOnce := by
      intro distinct
      obtain ⟨events, inserted⟩ := onTheWay.inserted
      rw [inserted]
      exact distinct.addEvents events
    cursors := by
      intro row mem candidate content known
      exact ⟨_, (onTheWay.recoverable row mem).standsAt candidate known⟩
  }

end Runs

/-! ## A line with an invalid date -/

/-- Lines of one character: a record with a good message, and one with February 30. -/
def replayLibrary : SyslogLibrary Nat where
  python := { Worker.PythonLibrary.plain with
    loads text :=
      if text = ['A', '\n'] then
        .ok (.obj [("raw_text", .str "A"), ("receive_time", .str "08:00")])
      else if text = ['B', '\n'] then
        .ok (.obj [("raw_text", .str "Feb 30"), ("receive_time", .str "08:00")])
      else .error .jsonDecodeError
    intOfText text :=
      if text.toList ≠ [] ∧ text.toList.all Char.isDigit then
        .ok (Nat.ofDigitChars 10 text.toList 0)
      else .error .valueError
    oneCharacter := by
      intro char fields loaded
      simp at loaded }
  decodeReplace bytes := bytes.map fun byte => Char.ofNat byte.toNat
  extractHostname _ := ""
  extractFacilitySeverity _ := ("", "")
  base64 _ := ""
  fromIsoFormat text := if text = "08:00" then some 8 else none
  isoFormat _ := "08:00"
  deviceDateTime _ := none
  offsetMs _ _ := "0.0"
  isFar _ := false
  hasJumped _ _ := false
  sha256 text := text
  dumps _ := "{}"
  encodable _ := true

/-- `datetime` raises on the date of the second message. -/
def replayServices : ReceiverServices Nat where
  parse text _ :=
    if text = "Feb 30" then .error .valueError
    else .ok (some ⟨"MESH_LINKUP", "WMESH", "08:00", "", "", "", "", "", "", "", "", "", "", "", "",
      "", false, []⟩)
  resolve parsed := ⟨parsed.peerName, "", "", "", "", "", parsed.details⟩
  expectedConfigChangeAt _ _ := false

/-- One closed file with these lines, before its recovery. -/
def replayStore (lines : List UInt8) : ReplayStore :=
  ⟨[⟨"raw_1", "syslog", "CLOSED", "PENDING_RECOVERY", some lines⟩], []⟩

theorem replayLibrary_reads : ReadsNumbers replayLibrary.python := by
  intro number
  have digits : (toString number).toList = Nat.toDigits 10 number := by
    rw [Nat.toString_eq_repr, Nat.toList_repr]
  have all : (Nat.toDigits 10 number).all Char.isDigit := by
    rw [all_eq_true]
    intro char mem
    exact Nat.isDigit_of_mem_toDigits (by decide) (by decide) mem
  have some' : Nat.toDigits 10 number ≠ [] := digits ▸ toString_toList_ne_nil number
  show (if (toString number).toList ≠ [] ∧ (toString number).toList.all Char.isDigit then
    Except.ok ((Nat.ofDigitChars 10 (toString number).toList 0 : Nat) : Int)
    else Except.error PythonError.valueError) = _
  rw [digits, if_pos ⟨some', all⟩, Nat.ofDigitChars_ten_toDigits]

/-- Two good lines, one at a time. -/
theorem boundedEqualsFull_goodLines :
    BoundedEqualsFull replayLibrary "run" replayServices (replayStore [65, 10, 65, 10])
      [(1, none), (1, some 1)] := by
  apply boundedEqualsFull_of_recoverable replayLibrary_reads
  intro row mem
  rw [replayStore, mem_singleton] at mem
  subst mem
  exact {
    closed _ := by decide
    denotes := by
      intro _ content known offset behind
      cases behind
    projects := by
      intro _ content known
      cases known
      refine ⟨⟨_, rfl, ?_⟩, ⟨_, rfl, ?_⟩, trivial⟩
      · rintro _ ⟨⟩
        exact ⟨rfl, by decide⟩
      · rintro _ ⟨⟩
        exact ⟨rfl, by decide⟩
  }

/-- A call for the first line stores its event; an unbounded call raises on the second
line and stores none. -/
theorem not_boundedEqualsFull_invalidDate :
    ¬ BoundedEqualsFull replayLibrary "run" replayServices (replayStore [65, 10, 66, 10])
      [(1, none)] := by
  intro equal
  have same := equal.continues 10 10 (by decide +kernel) (by decide +kernel)
  have counts := congrArg (fun store => store.stored.length) same
  exact absurd counts (by decide +kernel)

end NetConsole.Syslog
