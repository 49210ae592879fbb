import Mathlib.Algebra.Order.Group.Unbundled.Int
import NetConsole.Foundations.NewestWindow
import NetConsole.Foundations.OwnedRows

/-!
# Boot sessions of mobile radios

`MrBootSessionService.observe` is told the uptime of a device and, where the device has
shown them, its clock before and after the uptime was read. It continues the latest boot
session of the device or opens a new one.

All times have one UTC offset and are local times since the beginning of year 1. A check
is made at a whole millisecond; a device clock has microseconds. The columns of a session
that `isoformat(timespec="milliseconds")` writes hold whole milliseconds, and their texts
are ordered as they are. The random identifier of a new session is a number that no
session has. The columns of the Syslog configuration are left out: `observe` carries them
along unread.
-/

set_option autoImplicit false

namespace NetConsole.Boot

open Foundations

/-! ## Observations and sessions -/

/-- How far the clock of a device is trusted. -/
inductive TimeQuality where
  | deviceClock | localFallback | clockJump
  deriving DecidableEq

/-- The arguments of `observe`: times in milliseconds, device clocks in microseconds. -/
structure BootObservation where
  deviceUuid : String
  deviceId : Option Int
  (trainId mrRole : String)
  (checkedAt uptimeSeconds : Int)
  evidencePath : String
  (deviceClockBefore deviceClockAfter : Option Int)
  bootTimeUncertaintySeconds : Int
  (rebootReason timezoneName : String)
  utcOffsetSeconds : Option Int
  timeQuality : TimeQuality
  deriving DecidableEq

/-- The columns that every observation writes anew. -/
structure TimeValues where
  (deviceClockBefore deviceClockAfter : Option Int)
  bootTimeUncertaintySeconds : Int
  (rebootReason timezoneName : String)
  utcOffsetSeconds : Option Int
  timeQuality : TimeQuality
  clockJumpMicros : Option Int
  deriving DecidableEq

/-- A row of `ground_unattended_boot_sessions`. -/
structure BootSession where
  bootSessionId : Nat
  deviceUuid : String
  deviceId : Option Int
  (trainId mrRole : String)
  (firstDetectedAt lastCheckedAt estimatedBootTime firstUptimeSeconds lastUptimeSeconds : Int)
  timeValues : TimeValues
  versionEvidencePath : String
  deriving DecidableEq

/-- The event `device_clock_jump` of the timeline. -/
structure ClockJumpEvent where
  (trainId mrId : String)
  (clockJumpMicros previousUptimeSeconds currentUptimeSeconds : Int)
  deriving DecidableEq

/-- The boot sessions and the clock jumps of a site. -/
structure BootStore where
  sessions : List BootSession
  timeline : List ClockJumpEvent
  deriving DecidableEq

/-- The sessions of a device. -/
def BootStore.sessionsOf (store : BootStore) (deviceUuid : String) : List BootSession :=
  store.sessions.filter fun session => session.deviceUuid = deviceUuid

/-- The session that was checked last. -/
def BootStore.latestBootSession (store : BootStore) (deviceUuid : String) : Option BootSession :=
  (newestFirst (fun session : BootSession => session.lastCheckedAt)
    (store.sessionsOf deviceUuid)).head?

def BootStore.upsertBootSession (store : BootStore) (session : BootSession) : BootStore :=
  { store with sessions := upsertRow BootSession.bootSessionId store.sessions session }

/-! ## The estimated boot time -/

/-- `(device_clock_after - device_clock_before) / 2`: halves go to the even microsecond. -/
def halfTimedelta (micros : Int) : Int :=
  if micros % 2 = 0 ∨ micros / 2 % 2 = 0 then micros / 2 else micros / 2 + 1

namespace BootObservation

variable (observation : BootObservation)

/-- The clock that the boot time is estimated with, and whether it is the device's. -/
def clock : Int × Bool :=
  match observation.deviceClockBefore, observation.deviceClockAfter with
  | some before, some after => (before + halfTimedelta (after - before), true)
  | _, _ => (observation.checkedAt * 1000, false)

/-- `timedelta(seconds=uptime_seconds)`. -/
def uptimeMicros : Int := observation.uptimeSeconds * 1000000

/-- The estimated boot time in microseconds. -/
def estimated : Int := observation.clock.1 - observation.uptimeMicros

end BootObservation

/-- The microseconds that `datetime` has. -/
def datetimeRange : Int := 3652059 * 86400 * 1000000

/-- What `isoformat(timespec="milliseconds")` keeps of microseconds. -/
def wholeMilliseconds (micros : Int) : Int := micros / 1000

/-! ## Observing -/

/-- The service; its tolerance is never below ten seconds. -/
structure MrBootSessionService where
  toleranceSeconds : Int
  toleranceSeconds_ge : 10 ≤ toleranceSeconds

/-- `max(10, int(tolerance_seconds))`. -/
def MrBootSessionService.new (toleranceSeconds : Int) : MrBootSessionService :=
  ⟨max 10 toleranceSeconds, Int.le_max_left ..⟩

section Observing

variable (service : MrBootSessionService) (current : BootSession) (observation : BootObservation)

/-- The uptime is less than it was. -/
def uptimeRolledBack : Bool :=
  observation.uptimeSeconds + service.toleranceSeconds < current.lastUptimeSeconds

/-- `elapsed_seconds`, in milliseconds. -/
def elapsedMs : Int := max 0 (observation.checkedAt - current.lastCheckedAt)

/-- The uptime has grown by less than the time that has passed. -/
def uptimeResetDuringGap : Bool :=
  service.toleranceSeconds * 1000 < elapsedMs current observation &&
    (observation.uptimeSeconds + service.toleranceSeconds) * 1000 <
      current.lastUptimeSeconds * 1000 + elapsedMs current observation

/-- `estimated_delta_seconds`, in microseconds. -/
def estimatedDeltaMicros : Int := observation.estimated - current.estimatedBootTime * 1000

/-- The estimated time of the boot has moved. -/
def bootEstimateChanged : Bool :=
  service.toleranceSeconds * 1000000 < |estimatedDeltaMicros current observation|

/-- The device has not booted in between. -/
def sameBoot : Bool :=
  !uptimeRolledBack service current observation &&
    !(uptimeResetDuringGap service current observation &&
      bootEstimateChanged service current observation)

/-- The quality of the time, before a jump of the clock is looked for. -/
def BootObservation.quality : TimeQuality :=
  if observation.clock.2 then observation.timeQuality else .localFallback

/-- The clock of a device that has not been rebooted has jumped. -/
def clockJumped : Bool :=
  observation.quality = .deviceClock && bootEstimateChanged service current observation

/-- The columns of an observation. -/
def BootObservation.timeValues (quality : TimeQuality) (clockJumpMicros : Option Int) :
    TimeValues where
  deviceClockBefore := observation.deviceClockBefore.map wholeMilliseconds
  deviceClockAfter := observation.deviceClockAfter.map wholeMilliseconds
  bootTimeUncertaintySeconds := max 1 observation.bootTimeUncertaintySeconds
  rebootReason := observation.rebootReason
  timezoneName := observation.timezoneName
  utcOffsetSeconds := observation.utcOffsetSeconds
  timeQuality := quality
  clockJumpMicros := clockJumpMicros

/-- The session that an observation opens. -/
def BootObservation.newSession (bootSessionId : Nat) : BootSession where
  bootSessionId := bootSessionId
  deviceUuid := observation.deviceUuid
  deviceId := observation.deviceId
  trainId := observation.trainId
  mrRole := observation.mrRole
  firstDetectedAt := observation.checkedAt
  lastCheckedAt := observation.checkedAt
  estimatedBootTime := wholeMilliseconds observation.estimated
  firstUptimeSeconds := observation.uptimeSeconds
  lastUptimeSeconds := observation.uptimeSeconds
  timeValues := observation.timeValues observation.quality none
  versionEvidencePath := observation.evidencePath

/-- The session goes on with an observation. -/
def continuedSession : BootSession :=
  { current with
    lastCheckedAt := observation.checkedAt
    estimatedBootTime := wholeMilliseconds observation.estimated
    lastUptimeSeconds := observation.uptimeSeconds, versionEvidencePath := observation.evidencePath
    timeValues := observation.timeValues
      (if clockJumped service current observation then .clockJump else observation.quality)
      (some (estimatedDeltaMicros current observation)) }

/-- The event that the clock has jumped. -/
def clockJumpEvent : ClockJumpEvent where
  trainId := observation.trainId
  mrId := observation.deviceUuid
  clockJumpMicros := estimatedDeltaMicros current observation
  previousUptimeSeconds := current.lastUptimeSeconds
  currentUptimeSeconds := observation.uptimeSeconds

def BootStore.freshId (store : BootStore) : Nat :=
  (store.sessions.map fun session => session.bootSessionId + 1).foldl max 0

/-- `observe`: the store, the session, and whether it is new. An estimate that no
`datetime` has raises before anything is written. -/
def observe (store : BootStore) : Option (BootStore × BootSession × Bool) :=
  if 0 ≤ observation.estimated ∧ observation.estimated < datetimeRange then
    match store.latestBootSession observation.deviceUuid with
    | some current =>
      if sameBoot service current observation then
        let session := continuedSession service current observation
        let timeline :=
          if clockJumped service current observation then
            store.timeline ++ [clockJumpEvent current observation]
          else store.timeline
        some ({ store with timeline := timeline }.upsertBootSession session, session, false)
      else
        let session := observation.newSession store.freshId
        some (store.upsertBootSession session, session, true)
    | none =>
      let session := observation.newSession store.freshId
      some (store.upsertBootSession session, session, true)
  else none

end Observing

end NetConsole.Boot
