import NetConsole.Foundations.GuardedRuns
import NetConsole.Foundations.Tallies

/-!
# Shared iperf servers

Sessions that measure against the loopback address share one managed iperf server for
each tool and port. A session that finds a live server counts a lease on it; the first
one creates the server. A stop gives the lease back, and the last one stops the server.

A step is what one thread does up to the next acquisition of a lock. What it sees of
the world (whether something listens at the port, whether the preflight passes, whether
the start gives up waiting) is part of its action. The client of a session and its pings
are left out, but for the failure of a required ping, which ends the start.
-/

set_option autoImplicit false

namespace NetConsole.Traffic

open Foundations

/-- Why a server is stopped. -/
inductive StopReason
  | stoppedByCollection
  | forcedStoppedByCollection
  | startFailed
  deriving DecidableEq

/-- `IperfProcessRunner`. Its `key` is the tool and the port of its command. -/
structure Runner (Key : Type) where
  key : Key
  stopRequested : Option StopReason
  /-- The process has ended, or was never going to start. -/
  exited : Bool

/-- Who accepts connections at a port. -/
inductive Listener
  | managed (runner : Nat)
  | foreign
  deriving DecidableEq

/-- Where `start_for_session` stands. -/
inductive StartPhase (Key : Type)
  | starting
  /-- No live server was found; the port is probed. -/
  | probing (key : Key)
  /-- Nobody listens; a server is to be registered. -/
  | creating (key : Key)
  /-- The server is started, and waited for. -/
  | waiting (key : Key) (runner : Nat)
  /-- The server was taken out and is to be stopped. -/
  | failing (key : Key) (runner : Nat)
  | startFailed
  | portConflict
  /-- The session was told that the server is available. -/
  | available (listener : Listener)
  | withoutServer
  | raised
  deriving DecidableEq

/-- What a session shows of its server. -/
inductive ServerStatus
  | disabled
  | starting
  | running
  | failed
  | externalVerified
  | portConflict
  deriving DecidableEq

/-- Whose server a session uses. -/
inductive Ownership
  | none'
  | managed
  | managedShared
  | externalVerified
  | portConflict
  deriving DecidableEq

/-- The error that a session shows. -/
inductive ErrorCode
  | none'
  | portOccupiedByNonIperf
  | serverStartFailed
  deriving DecidableEq

/-- A lease that was given back: the server whose count was reduced, and whether the session
held a lease on that server. -/
structure Release where
  runner : Nat
  own : Bool
  deriving DecidableEq

/-- `_TrafficState`. The last three fields are not in the code: how often a lease was counted
for the session, whether it stands, and what the session gave back. -/
structure TrafficState (Session Key : Type) where
  session : Session
  phase : StartPhase Key
  stopRequested : Bool
  serverRunner : Option Nat
  leaseKey : Option Key
  serverReleased : Bool
  serverStatus : ServerStatus
  serverOwnership : Ownership
  errorCode : ErrorCode
  counted : Nat
  holding : Bool
  releases : List Release

/-- `_SharedIperfServer`. -/
structure SharedServer where
  (runner refCount : Nat)
  deriving DecidableEq

/-- Where a call of `stop_traffic_for_session` or `force_stop_traffic_for_session` stands. -/
inductive StopCall (Key : Type)
  | idle
  | fetched (object : Nat) (reason : StopReason)
  | releasing (object : Nat) (key : Key) (reason : StopReason)
  | stopping (runner : Nat) (reason : StopReason)
  deriving DecidableEq

/-- Sessions, servers, runners and the calls that stop them. -/
structure System (Session Key : Type) where
  /-- `_states`. -/
  states : Session → Option Nat
  traffic : Nat → TrafficState Session Key
  nextTraffic : Nat
  /-- `_SHARED_SERVERS`. -/
  servers : Key → Option SharedServer
  runners : Nat → Runner Key
  nextRunner : Nat
  calls : Nat → StopCall Key

/-- The steps of sessions and stops. -/
inductive Action (Session Key : Type)
  /-- `start_for_session` enters. -/
  | enter (session : Session)
  /-- A required ping fails. -/
  | fpingFails (object : Nat)
  /-- The configuration asks for no managed server. -/
  | needsNoServer (object : Nat)
  | lookUp (object : Nat) (key : Key) (mirrorRaises : Bool)
  | probe (object : Nat) (listener : Option Listener) (verified : Bool)
  | register (object : Nat)
  | listening (object : Nat) (listener : Listener)
  | giveUp (object : Nat)
  | stopFailed (object : Nat)
  /-- A stop enters. -/
  | callStop (thread : Nat) (session : Session) (reason : StopReason)
  | checkReleased (thread : Nat)
  | release (thread : Nat)
  | stopRunner (thread : Nat)
  /-- The process of a server ends. -/
  | exit (runner : Nat)

variable {Session Key : Type} [DecidableEq Session] [DecidableEq Key]

def TrafficState.new (session : Session) : TrafficState Session Key :=
  { session
    phase := .starting, stopRequested := false, serverRunner := none, leaseKey := none
    serverReleased := false, serverStatus := .disabled, serverOwnership := .none'
    errorCode := .none', counted := 0, holding := false, releases := [] }

namespace System

/-- The server has not ended by itself. -/
def runnerIsAlive (system : System Session Key) (runner : Nat) : Bool :=
  !(system.runners runner).exited

def setTraffic (object : Nat) (state : TrafficState Session Key) (system : System Session Key) :
    System Session Key :=
  { system with traffic := Function.update system.traffic object state }

def setServer (key : Key) (server : Option SharedServer) (system : System Session Key) :
    System Session Key :=
  { system with servers := Function.update system.servers key server }

def setCall (thread : Nat) (call : StopCall Key) (system : System Session Key) :
    System Session Key :=
  { system with calls := Function.update system.calls thread call }

/-- `runner.stop(reason)`. -/
def stopRunner (runner : Nat) (reason : StopReason) (system : System Session Key) :
    System Session Key :=
  { system with
    runners := Function.update system.runners runner
      { system.runners runner with stopRequested := some reason } }

/-! ## Starting -/

/-- The beginning of `start_for_session`. -/
def startForSession (session : Session) (system : System Session Key) : System Session Key :=
  match system.states session with
  | some _ => system
  | none =>
    { system with
      states := Function.update system.states session (some system.nextTraffic)
      traffic := Function.update system.traffic system.nextTraffic (.new session)
      nextTraffic := system.nextTraffic + 1 }

/-- The state is popped before the error is raised. -/
def failFping (object : Nat) (system : System Session Key) : System Session Key :=
  let state := system.traffic object
  { (system.setTraffic object { state with phase := .raised }) with
    states := Function.update system.states state.session none }

/-- `_attach_shared_server`, with the count before it. The log mirror can raise. -/
def attachSharedServer (key : Key) (shared : SharedServer) (mirrorRaises : Bool)
    (state : TrafficState Session Key) : TrafficState Session Key :=
  { state with
    phase := if mirrorRaises then .raised else .available (.managed shared.runner)
    serverRunner := some shared.runner, leaseKey := some key, serverStatus := .running
    serverOwnership := .managedShared, counted := state.counted + 1, holding := true }

/-- The first locked part of `_ensure_loopback_iperf_server`. -/
def lookUp (object : Nat) (key : Key) (mirrorRaises : Bool) (system : System Session Key) :
    System Session Key :=
  let state := system.traffic object
  match system.servers key with
  | none => system.setTraffic object { state with phase := .probing key }
  | some shared =>
    if system.runnerIsAlive shared.runner then
      (system.setServer key (some { shared with refCount := shared.refCount + 1 })).setTraffic
        object
        (attachSharedServer key shared mirrorRaises state)
    else
      (system.setServer key none).setTraffic object { state with phase := .probing key }

/-- The probe of the port, and of the server that listens there. -/
def probed (key : Key) (listener : Option Listener) (verified : Bool)
    (state : TrafficState Session Key) : TrafficState Session Key :=
  match listener with
  | none => { state with phase := .creating key }
  | some listener =>
    if verified then
      { state with
        phase := .available listener, serverStatus := .externalVerified
        serverOwnership := .externalVerified }
    else
      { state with
        phase := .portConflict, serverStatus := .portConflict, serverOwnership := .portConflict
        errorCode := .portOccupiedByNonIperf }

/-- The second locked part: the server is registered and started. -/
def register (object : Nat) (key : Key) (system : System Session Key) : System Session Key :=
  let state := system.traffic object
  let runner := system.nextRunner
  { ((system.setServer key (some { runner, refCount := 1 })).setTraffic object { state with
        phase := .waiting key runner, serverRunner := some runner, leaseKey := some key
        serverStatus := .starting, serverOwnership := .managed, counted := state.counted + 1
        holding := true }) with
    runners := Function.update system.runners runner { key, stopRequested := none, exited := false }
    nextRunner := runner + 1 }

/-- The third locked part: the server did not come up, and is taken out. -/
def giveUp (object : Nat) (key : Key) (runner : Nat) (system : System Session Key) :
    System Session Key :=
  (system.setServer key none).setTraffic object
    { system.traffic object with phase := .failing key runner, holding := false }

/-- The server of a start that failed is stopped. -/
def stopFailed (object runner : Nat) (system : System Session Key) : System Session Key :=
  (system.stopRunner runner .startFailed).setTraffic object { system.traffic object with
      phase := .startFailed, serverStatus := .failed, serverOwnership := .portConflict
      errorCode := .serverStartFailed }

/-! ## Stopping -/

/-- A stop looks up the state of its session. -/
def stopTraffic (thread : Nat) (session : Session) (reason : StopReason)
    (system : System Session Key) : System Session Key :=
  match system.states session with
  | none => system
  | some object => system.setCall thread (.fetched object reason)

/-- The part of `_release_iperf_server` before the lock. -/
def checkReleased (thread object : Nat) (reason : StopReason) (system : System Session Key) :
    System Session Key :=
  let state := { system.traffic object with stopRequested := true }
  if state.serverReleased then (system.setTraffic object state).setCall thread .idle
  else
    (system.setTraffic object { state with serverReleased := true }).setCall thread
      (match state.leaseKey with
      | none => .idle
      | some key => .releasing object key reason)

/-- What the session gives back of a lease on the server. -/
def gaveBack (shared : SharedServer) (state : TrafficState Session Key) :
    TrafficState Session Key :=
  { state with
    holding := false
    releases := state.releases ++
      [{ runner := shared.runner
         own := state.holding && decide (state.serverRunner = some shared.runner) }] }

/-- The locked part of `_release_iperf_server`. -/
def releaseServer (thread object : Nat) (key : Key) (reason : StopReason)
    (system : System Session Key) : System Session Key :=
  let state := system.traffic object
  match system.servers key with
  | none => (system.setTraffic object { state with holding := false }).setCall thread .idle
  | some shared =>
    if shared.refCount - 1 = 0 then
      ((system.setServer key none).setTraffic object (gaveBack shared state)).setCall thread
        (.stopping shared.runner reason)
    else
      ((system.setServer key (some { shared with refCount := shared.refCount - 1 })).setTraffic
        object { gaveBack shared state with serverOwnership := .managedShared }).setCall thread
          .idle

/-! ## Steps -/

/-- What an action makes of the system. -/
def step (system : System Session Key) : Action Session Key → Option (System Session Key)
  | .enter session => some (system.startForSession session)
  | .fpingFails object =>
    if object < system.nextTraffic ∧ (system.traffic object).phase = .starting then
      some (system.failFping object)
    else none
  | .needsNoServer object =>
    if object < system.nextTraffic ∧ (system.traffic object).phase = .starting then
      some (system.setTraffic object { system.traffic object with phase := .withoutServer })
    else none
  | .lookUp object key mirrorRaises =>
    if object < system.nextTraffic ∧ (system.traffic object).phase = .starting then
      some (system.lookUp object key mirrorRaises)
    else none
  | .probe object listener verified =>
    match (system.traffic object).phase with
    | .probing key =>
      some (system.setTraffic object (probed key listener verified (system.traffic object)))
    | _ => none
  | .register object =>
    match (system.traffic object).phase with
    | .creating key => some (system.register object key)
    | _ => none
  | .listening object listener =>
    match (system.traffic object).phase with
    | .waiting _ _ =>
      some (system.setTraffic object
        { system.traffic object with phase := .available listener, serverStatus := .running })
    | _ => none
  | .giveUp object =>
    match (system.traffic object).phase with
    | .waiting key runner => some (system.giveUp object key runner)
    | _ => none
  | .stopFailed object =>
    match (system.traffic object).phase with
    | .failing _ runner => some (system.stopFailed object runner)
    | _ => none
  | .callStop thread session reason =>
    match system.calls thread with
    | .idle => some (system.stopTraffic thread session reason)
    | _ => none
  | .checkReleased thread =>
    match system.calls thread with
    | .fetched object reason => some (system.checkReleased thread object reason)
    | _ => none
  | .release thread =>
    match system.calls thread with
    | .releasing object key reason => some (system.releaseServer thread object key reason)
    | _ => none
  | .stopRunner thread =>
    match system.calls thread with
    | .stopping runner reason => some ((system.stopRunner runner reason).setCall thread .idle)
    | _ => none
  | .exit runner =>
    some { system with
        runners := Function.update system.runners runner
          { system.runners runner with exited := true } }

end System

end NetConsole.Traffic
