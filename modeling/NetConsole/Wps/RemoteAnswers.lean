import NetConsole.Wps.Execution

/-!
# Answers behind which a task is settled

A pass of the loop settles a task when its answer can be read, a task that has timed out
is not reported, and an error that ends the loop is one behind which a run is not looked
for again. A pass may report a finished task whose result is not there yet: then a later
pass has to end the loop.

When all passes settle, a loop ends with a definitive result, or the deadline passes
(`pollUntilDone_settles`).
-/

set_option autoImplicit false

namespace NetConsole.Wps

open Worker (Json Event dictGet textOr)
open List

section Answers

variable (lib : WpsLibrary)

/-! ## Results -/

variable (target : SyncTarget) (payload : RequestPayload) (manifest : List ColumnSource)

/-- The numbers of a result can be read and stored. -/
structure HasCounts (result : Event) : Prop where
  objects : writtenCount lib (dictGet result "written_object_count") = .ok ()
  rows : writtenCount lib (dictGet result "written_row_count") = .ok ()
  warnings : ∃ widthsWarn count,
    columnWidthsWarn lib payload manifest result = .ok widthsWarn ∧
      targetFormatWarningCount lib (resultSummary lib result widthsWarn) = .ok count

/-- An error behind which a run has ended. -/
structure WpsError.IsFinal (error : WpsError) : Prop where
  notRecoverable : error.code ∉ recoverableCodes
  notTimeout : error.code ≠ remoteTaskTimeout
  counted : writtenCount lib error.writtenRowCount = .ok ()

/-- A result behind which a run has ended. -/
def Definitive : Except SyncFailure Event → Prop
  | .ok result => HasCounts lib payload manifest result
  | .error (.wps error) => error.IsFinal lib
  | .error (.python _) => False

/-- The state that an answer reports. -/
def remoteStatusOf (body : Event) : String :=
  folded lib (textOr lib.python body "status")

/-- A task has finished, but its result is not there yet. -/
def IsPending (body : Event) : Prop :=
  remoteStatusOf lib body ∈ finishedStates ∧
    ∃ error, validateSyncResponse lib target payload body = .error (.wps error) ∧
      error.code ∈ pendingCodes

/-- An answer that can be read. -/
structure AnswerSettles (body : Event) : Prop where
  decoded : remoteBusinessResultFromPoll lib body = .ok ()
  notTimeout : remoteStatusOf lib body ∉ timeoutStates
  finished : remoteStatusOf lib body ∈ finishedStates →
    Definitive lib payload manifest (validateSyncResponse lib target payload body) ∨
      IsPending lib target payload body

/-- A pass behind which its run has ended, or another pass follows. -/
def PollRound.Settles : PollRound → Prop
  | .interrupted _ => False
  | .refused code =>
    code ∈ temporaryCodes ∨ (code ∉ recoverableCodes ∧ code ≠ remoteTaskTimeout)
  | .answered (.obj body) => AnswerSettles lib target payload manifest body
  | .answered _ => True

/-- A pass that reports a task whose result is not there yet. -/
def PollRound.Pends : PollRound → Prop
  | .answered (.obj body) => IsPending lib target payload body
  | _ => False

/-- A pass that another one follows. -/
def PollRound.Continues : PollRound → Prop
  | .refused code => code ∈ temporaryCodes
  | .answered (.obj body) =>
    remoteStatusOf lib body ∉ failedStates ∧
      (remoteStatusOf lib body ∈ finishedStates → IsPending lib target payload body)
  | _ => False

variable (key : TaskKey)

/-- The passes of a loop settle, and one that reports a pending result is not the last
word. -/
structure RoundsSettle (rounds : List PollRound) : Prop where
  settles : ∀ round ∈ rounds, round.Settles lib target payload manifest
  pending : ∀ round ∈ rounds, round.Pends lib target payload →
    ∃ other ∈ rounds, ¬ other.Continues lib target payload

/-- A result that is handled: its counts can be read, or it is an error of the
synchronisation whose number of rows can be read. -/
def Handled : Except SyncFailure Event → Prop
  | .ok result => HasCounts lib payload manifest result
  | .error (.wps error) => writtenCount lib error.writtenRowCount = .ok ()
  | .error (.python _) => False

theorem Definitive.handled {result : Except SyncFailure Event}
    (definitive : Definitive lib payload manifest result) :
      Handled lib payload manifest result := by
  cases result with
  | ok result => exact definitive
  | error failure =>
    cases failure with
    | wps error => exact definitive.counted
    | python raised => exact definitive.elim

end Answers

end NetConsole.Wps
