import NetConsole.Foundations.OwnedRows

/-!
# The realtime cache of mobile router sessions

The cache has a session for an id, and the latest session of every device, over all sites
(`deviceLatest`) and in each (`siteDeviceLatest`). A registration, an event and a snapshot make
their session the latest one of the device, also when it is closed. A session that is not there
is created, by an event or a snapshot without a site; one that is there keeps its site when it is
registered.

So a late event hides what the device shows, and a session whose event came first is listed
for no site. A run without such calls (`RealtimeCache.Spared`) is `Lawful`.
-/

set_option autoImplicit false

namespace NetConsole.OnlineMr

open Foundations Function

/-! ## The cache -/

section Sessions

variable (DateTime Payload : Type)

/-- A raw or a parsed event; `rest` is what the cache does not read. -/
structure CacheEvent where
  timestamp : DateTime
  deviceId : Option Int
  rest : Payload

/-- What is read of a snapshot. -/
structure Snapshot where
  sessionId : String
  deviceId : Option Int
  rest : Payload

/-- What events and snapshots change. -/
structure SessionData where
  lastSeenAt : DateTime
  (rawEvents parsedSamples : List (CacheEvent DateTime Payload))
  latestSnapshot : Option (Snapshot Payload)
  counters : String → Nat

/-- A session in the cache. -/
structure RealtimeSession where
  (sessionId siteId : String)
  deviceId : Option Int
  closedAt : Option DateTime
  data : SessionData DateTime Payload

/-- The sessions and the latest of each device. -/
structure RealtimeCache where
  sessions : List (RealtimeSession DateTime Payload)
  deviceLatest : Int → Option String
  siteDeviceLatest : String × Int → Option String

/-- A call, with its event as `_coerce_raw_event` or `_coerce_parsed_event` leaves it. -/
inductive CacheCall where
  | registerSession (siteId sessionId : String) (deviceId : Option Int)
      (snapshot : Option (Snapshot Payload))
  | appendRawEvent (sessionId : String) (event : CacheEvent DateTime Payload)
  | appendParsedSample (sessionId : String) (sample : CacheEvent DateTime Payload)
  | updateSnapshot (snapshot : Snapshot Payload)
  | closeSession (sessionId : String)
  | clearDeviceLatest (siteId : String) (deviceId : Int)

end Sessions

variable {DateTime Payload : Type}

/-- `append` on a deque with `maxlen=20000`. -/
def pushed {α : Type} (items : List α) (item : α) : List α :=
  (items ++ [item]).drop (items.length + 1 - 20000)

/-- A counter goes up. -/
def counted (counters : String → Nat) (name : String) : String → Nat :=
  update counters name (counters name + 1)

namespace RealtimeCache

/-- No sessions. -/
def empty : RealtimeCache DateTime Payload := ⟨[], fun _ => none, fun _ => none⟩

variable (cache : RealtimeCache DateTime Payload) (now : DateTime)

/-- The session of an id. -/
def session (sessionId : String) : Option (RealtimeSession DateTime Payload) :=
  rowAt RealtimeSession.sessionId cache.sessions sessionId

/-- The session of an id, or else a new one. -/
def sessionOr (sessionId siteId : String) (deviceId : Option Int) :
    RealtimeSession DateTime Payload :=
  (cache.session sessionId).getD
    ⟨sessionId, siteId, deviceId, none, ⟨now, [], [], none, fun _ => 0⟩⟩

/-- That session is edited, and is the latest one of the device, in the site `pointerSite` or
else in its own. -/
def arrive (sessionId siteId : String) (deviceId : Option Int) (pointerSite : Option String)
    (edit : SessionData DateTime Payload → SessionData DateTime Payload) :
    RealtimeCache DateTime Payload :=
  let session := cache.sessionOr now sessionId siteId deviceId
  { sessions := upsertRow RealtimeSession.sessionId cache.sessions
      { session with data := edit session.data }
    deviceLatest := deviceId.elim cache.deviceLatest fun device =>
      update cache.deviceLatest device (some sessionId)
    siteDeviceLatest := deviceId.elim cache.siteDeviceLatest fun device =>
      update cache.siteDeviceLatest (pointerSite.getD session.siteId, device) (some sessionId) }

/-- `register_session`. -/
def registerSession (siteId sessionId : String) (deviceId : Option Int)
    (snapshot : Option (Snapshot Payload)) : RealtimeCache DateTime Payload :=
  cache.arrive now sessionId siteId deviceId (some siteId) fun data =>
    { data with latestSnapshot := snapshot.or data.latestSnapshot }

/-- `append_raw_event`. -/
def appendRawEvent (sessionId : String) (event : CacheEvent DateTime Payload) :
    RealtimeCache DateTime Payload :=
  cache.arrive now sessionId "" event.deviceId none fun data =>
    { data with
      rawEvents := pushed data.rawEvents event, lastSeenAt := event.timestamp
      counters := counted data.counters "raw_events" }

/-- `append_parsed_sample`. -/
def appendParsedSample (sessionId : String) (sample : CacheEvent DateTime Payload) :
    RealtimeCache DateTime Payload :=
  cache.arrive now sessionId "" sample.deviceId none fun data =>
    { data with
      parsedSamples := pushed data.parsedSamples sample, lastSeenAt := sample.timestamp
      counters := counted data.counters "parsed_samples" }

/-- `update_snapshot`. -/
def updateSnapshot (snapshot : Snapshot Payload) : RealtimeCache DateTime Payload :=
  cache.arrive now snapshot.sessionId "" snapshot.deviceId none fun data =>
    { data with latestSnapshot := some snapshot, lastSeenAt := now }

/-- `close_session`. -/
def closeSession (sessionId : String) : RealtimeCache DateTime Payload where
  sessions := match cache.session sessionId with
    | none => cache.sessions
    | some session =>
      upsertRow RealtimeSession.sessionId cache.sessions { session with closedAt := some now }
  deviceLatest device := (cache.deviceLatest device).filter (· ≠ sessionId)
  siteDeviceLatest key := (cache.siteDeviceLatest key).filter (· ≠ sessionId)

/-- `clear_device_latest`. -/
def clearDeviceLatest (siteId : String) (device : Int) : RealtimeCache DateTime Payload :=
  match cache.siteDeviceLatest (siteId, device) with
  | none => cache
  | some old =>
    { cache with
      siteDeviceLatest := update cache.siteDeviceLatest (siteId, device) none
      deviceLatest := if cache.deviceLatest device = some old
        then update cache.deviceLatest device none else cache.deviceLatest }

/-- The id that is looked up for a device. -/
def latestId (device : Int) (siteId : Option String) : String :=
  (match siteId with
    | some siteId => cache.siteDeviceLatest (siteId, device)
    | none => cache.deviceLatest device).getD ""

/-- `get_latest_snapshot`. -/
def getLatestSnapshot (device : Int) (siteId : Option String) : Option (Snapshot Payload) :=
  match cache.session (cache.latestId device siteId) with
  | some session => if session.closedAt.isNone then session.data.latestSnapshot else none
  | none => none

/-- `list_running_sessions`. -/
def listRunningSessions (siteId : Option String) : List (RealtimeSession DateTime Payload) :=
  cache.sessions.filter fun session =>
    session.closedAt.isNone && (siteId.isNone || siteId = some session.siteId)

/-- One call at its time. -/
def perform : DateTime × CacheCall DateTime Payload → RealtimeCache DateTime Payload
  | (now, .registerSession siteId sessionId deviceId snapshot) =>
    cache.registerSession now siteId sessionId deviceId snapshot
  | (now, .appendRawEvent sessionId event) => cache.appendRawEvent now sessionId event
  | (now, .appendParsedSample sessionId sample) => cache.appendParsedSample now sessionId sample
  | (now, .updateSnapshot snapshot) => cache.updateSnapshot now snapshot
  | (now, .closeSession sessionId) => cache.closeSession now sessionId
  | (_, .clearDeviceLatest siteId deviceId) => cache.clearDeviceLatest siteId deviceId

end RealtimeCache

/-- The cache after some calls. -/
def cacheAfter (calls : List (DateTime × CacheCall DateTime Payload)) :
    RealtimeCache DateTime Payload :=
  calls.foldl RealtimeCache.perform .empty

/-! ## What is promised -/

/-- The session that an event or a snapshot is for, and its device. -/
def CacheCall.arrival : CacheCall DateTime Payload → Option (String × Option Int)
  | .appendRawEvent sessionId event => some (sessionId, event.deviceId)
  | .appendParsedSample sessionId sample => some (sessionId, sample.deviceId)
  | .updateSnapshot snapshot => some (snapshot.sessionId, snapshot.deviceId)
  | _ => none

/-- What a run from an empty cache keeps. -/
structure Lawful (calls : List (DateTime × CacheCall DateTime Payload)) : Prop where
  running : ∀ device siteId snapshot,
    (cacheAfter calls).getLatestSnapshot device siteId = some snapshot →
    ∃ session ∈ (cacheAfter calls).sessions, session.closedAt = none ∧
      session.data.latestSnapshot = some snapshot
  late : ∀ before call after sessionId deviceId session, calls = before ++ call :: after →
    call.2.arrival = some (sessionId, deviceId) →
    (cacheAfter before).session sessionId = some session → session.closedAt ≠ none →
    ((cacheAfter before).perform call).getLatestSnapshot = (cacheAfter before).getLatestSnapshot
  listed : ∀ before now siteId sessionId deviceId snapshot after,
    calls = before ++ (now, .registerSession siteId sessionId deviceId snapshot) :: after →
    (∀ session, (cacheAfter before).session sessionId = some session → session.closedAt = none) →
    (∀ now, (now, .closeSession sessionId) ∉ after) →
    ∃ session ∈ (cacheAfter calls).listRunningSessions (some siteId), session.sessionId = sessionId

namespace RealtimeCache

variable (cache : RealtimeCache DateTime Payload)

/-- The latest session of the device runs, and has a snapshot. -/
def Current (device : Int) (siteId : Option String) : Prop :=
  ∃ session, cache.session (cache.latestId device siteId) = some session ∧
    session.closedAt = none ∧ session.data.latestSnapshot ≠ none

/-- A late event is for a device without a current session, and a session that runs is
registered for its own site. -/
structure Spared (call : CacheCall DateTime Payload) : Prop where
  late : ∀ sessionId device session, call.arrival = some (sessionId, some device) →
    cache.session sessionId = some session → session.closedAt ≠ none →
    ¬cache.Current device none ∧ ¬cache.Current device (some session.siteId)
  registered : ∀ siteId sessionId deviceId snapshot session,
    call = .registerSession siteId sessionId deviceId snapshot →
    cache.session sessionId = some session → session.closedAt = none → session.siteId = siteId

variable {cache} {now : DateTime} {sessionId siteId : String} {deviceId : Option Int}
  {pointerSite : Option String} {edit : SessionData DateTime Payload → SessionData DateTime Payload}
  {session : RealtimeSession DateTime Payload} {call : DateTime × CacheCall DateTime Payload}

/-! ## Sessions -/

theorem session_id (found : cache.session sessionId = some session) :
    session.sessionId = sessionId :=
  of_decide_eq_true (List.find?_some found :)

theorem session_arrive (other : String) :
    (cache.arrive now sessionId siteId deviceId pointerSite edit).session other =
      if sessionId = other then
        let session := cache.sessionOr now sessionId siteId deviceId
        some { session with data := edit session.data }
      else cache.session other := by
  have key : (cache.sessionOr now sessionId siteId deviceId).sessionId = sessionId := by
    unfold sessionOr
    cases found : cache.session sessionId with
    | none => rfl
    | some session => exact session_id found
  exact (rowAt_upsertRow ..).trans (by simp only [key]; rfl)

theorem getLatestSnapshot_eq_some {device : Int} {site : Option String}
    {snapshot : Snapshot Payload} : cache.getLatestSnapshot device site = some snapshot ↔
      ∃ session, cache.session (cache.latestId device site) = some session ∧
        session.closedAt = none ∧ session.data.latestSnapshot = some snapshot := by
  unfold getLatestSnapshot
  split <;> simp_all

theorem latestId_arrive (device : Int) (site : Option String) :
    (cache.arrive now sessionId siteId deviceId pointerSite edit).latestId device site =
      if deviceId = some device ∧ (site = none ∨
        site = some (pointerSite.getD (cache.sessionOr now sessionId siteId deviceId).siteId))
      then sessionId else cache.latestId device site := by
  unfold arrive latestId
  cases deviceId <;> cases site <;> simp [update_apply, eq_comm, and_comm]
  all_goals split <;> simp_all

/-- An event for a closed session shows nothing, where nothing was shown before. -/
theorem arrive_late (found : cache.session sessionId = some session)
    (closed : session.closedAt ≠ none) (spared : ∀ device, deviceId = some device →
      ¬cache.Current device none ∧ ¬cache.Current device (some session.siteId)) :
    (cache.arrive now sessionId siteId deviceId none edit).getLatestSnapshot =
      cache.getLatestSnapshot := by
  funext device site
  ext snapshot
  have kept : cache.sessionOr now sessionId siteId deviceId = session := by
    rw [sessionOr, found, Option.getD_some]
  rw [getLatestSnapshot_eq_some, getLatestSnapshot_eq_some, latestId_arrive, kept]
  simp only [session_arrive, kept]
  split
  · next hit =>
    obtain ⟨rfl, own⟩ := hit
    apply iff_of_false
    · rintro ⟨shown, same, running, _⟩
      rw [if_pos rfl] at same
      cases same
      exact closed running
    · rintro ⟨shown, there, running, snapshot⟩
      have current : cache.Current device site := ⟨shown, there, running, by simp [snapshot]⟩
      rcases own with rfl | rfl
      · exact (spared device rfl).1 current
      · exact (spared device rfl).2 current
  · by_cases same : sessionId = cache.latestId device site
    · subst same
      simp_all
    · simp only [if_neg same]

/-- The session runs, in that site. -/
def Stands (cache : RealtimeCache DateTime Payload) (sessionId siteId : String) : Prop :=
  ∃ session, cache.session sessionId = some session ∧ session.closedAt = none ∧
    session.siteId = siteId

theorem arrive_stands {running site : String} (stands : cache.Stands running site) :
    (cache.arrive now sessionId siteId deviceId pointerSite edit).Stands running site := by
  obtain ⟨session, found, open', isSite⟩ := stands
  unfold Stands
  rw [session_arrive]
  split
  · next same =>
    subst same
    exact ⟨_, rfl, by simp [sessionOr, found, open', isSite]⟩
  · exact ⟨session, found, open', isSite⟩

/-- A session runs until it is closed. -/
theorem perform_stands (stands : cache.Stands sessionId siteId)
    (stays : ∀ now, call ≠ (now, .closeSession sessionId)) :
    (cache.perform call).Stands sessionId siteId := by
  obtain ⟨now, call⟩ := call
  cases call with
  | registerSession site id device snapshot => exact arrive_stands stands
  | appendRawEvent id event => exact arrive_stands stands
  | appendParsedSample id sample => exact arrive_stands stands
  | updateSnapshot snapshot => exact arrive_stands stands
  | closeSession id =>
    have differ : id ≠ sessionId := fun same => stays now (same ▸ rfl)
    have others : (cache.closeSession now id).session sessionId = cache.session sessionId := by
      unfold closeSession RealtimeCache.session
      split
      · rfl
      · next session found =>
        rw [rowAt_upsertRow, if_neg (by rwa [session_id found])]
    rw [Stands, perform, others]
    exact stands
  | clearDeviceLatest site device =>
    have others : (cache.clearDeviceLatest site device).sessions = cache.sessions := by
      unfold clearDeviceLatest
      split <;> rfl
    rw [Stands, perform, RealtimeCache.session, others]
    exact stands

theorem registerSession_stands {snapshot : Option (Snapshot Payload)}
    (spared : cache.Spared (.registerSession siteId sessionId deviceId snapshot))
    (running : ∀ session, cache.session sessionId = some session → session.closedAt = none) :
    (cache.registerSession now siteId sessionId deviceId snapshot).Stands sessionId siteId := by
  unfold Stands registerSession
  rw [session_arrive, if_pos rfl]
  refine ⟨_, rfl, ?_⟩
  unfold sessionOr
  cases found : cache.session sessionId with
  | none => exact ⟨rfl, rfl⟩
  | some session =>
    exact ⟨running session found,
      spared.registered _ _ _ _ session rfl found (running session found)⟩

theorem foldl_stands {after : List (DateTime × CacheCall DateTime Payload)}
    (stands : cache.Stands sessionId siteId)
    (stays : ∀ now, (now, .closeSession sessionId) ∉ after) :
    (after.foldl perform cache).Stands sessionId siteId := by
  induction after generalizing cache with
  | nil => exact stands
  | cons call after ih =>
    apply ih
    · exact perform_stands stands fun now same => stays now (same ▸ List.mem_cons_self)
    · exact fun now later => stays now (List.mem_cons_of_mem _ later)

/-! ## Runs -/

theorem perform_late {session : RealtimeSession DateTime Payload}
    (spared : cache.Spared call.2) (arrives : call.2.arrival = some (sessionId, deviceId))
    (found : cache.session sessionId = some session) (closed : session.closedAt ≠ none) :
    (cache.perform call).getLatestSnapshot = cache.getLatestSnapshot := by
  have current : ∀ device, deviceId = some device →
      ¬cache.Current device none ∧ ¬cache.Current device (some session.siteId) := by
    rintro device rfl
    exact spared.late sessionId device session arrives found closed
  obtain ⟨_, call⟩ := call
  cases call <;> cases arrives <;> exact arrive_late found closed current

end RealtimeCache

open RealtimeCache

variable {calls : List (DateTime × CacheCall DateTime Payload)}

/-- In every run whose calls are all spared, the cache answers as it should. -/
theorem lawful_of_spared (spared : ∀ before call after, calls = before ++ call :: after →
    (cacheAfter before).Spared call.2) : Lawful calls where
  running device siteId snapshot shown := by
    obtain ⟨session, found, open', shown⟩ := getLatestSnapshot_eq_some.mp shown
    exact ⟨session, List.mem_of_find?_eq_some found, open', shown⟩
  late before call after sessionId deviceId session splits arrives :=
    perform_late (spared before call after splits) arrives
  listed before now siteId sessionId deviceId snapshot after splits running stays := by
    have stands : ((cacheAfter before).registerSession now siteId sessionId
        deviceId snapshot).Stands
        sessionId siteId := registerSession_stands (spared before _ after splits) running
    have same : cacheAfter calls = after.foldl perform
        ((cacheAfter before).registerSession now siteId sessionId deviceId snapshot) := by
      rw [splits, cacheAfter, List.foldl_append]
      rfl
    obtain ⟨session, found, open', rfl⟩ := foldl_stands stands stays
    refine ⟨session, List.mem_filter.mpr ⟨?_, by simp [open']⟩, session_id found⟩
    exact same ▸ List.mem_of_find?_eq_some found

def registration (now : Nat) (sessionId : String) : Nat × CacheCall Nat Unit :=
  (now, .registerSession "site" sessionId (some 7) (some ⟨sessionId, some 7, ()⟩))

/-- An event of a session, for the device. -/
def arrival (now : Nat) (sessionId : String) : Nat × CacheCall Nat Unit :=
  (now, .appendRawEvent sessionId ⟨now, some 7, ()⟩)

/-- A session sends events while it runs and after it is closed, and a second one follows. -/
def sampleCalls : List (Nat × CacheCall Nat Unit) :=
  [registration 0 "old", arrival 1 "old", (2, .closeSession "old"), arrival 3 "old",
    registration 4 "new", arrival 5 "new"]

section Sample

variable {cache : RealtimeCache Nat Unit} {id : String}

theorem spared_registration (unknown : cache.session id = none) (now : Nat) :
    cache.Spared (registration now id).2 where
  late _ _ _ arrives := by cases arrives
  registered _ _ _ _ _ same found := by
    cases same
    rw [unknown] at found
    cases found

theorem spared_running (running : (cache.session id).map RealtimeSession.closedAt = some none)
    (now : Nat) : cache.Spared (arrival now id).2 where
  late _ _ _ arrives found closed := by
    cases arrives
    rw [found] at running
    exact absurd (Option.some.inj running) closed
  registered _ _ _ _ _ same := by cases same

theorem lawful_sampleCalls : Lawful sampleCalls := by
  refine lawful_of_spared fun before call after splits => ?_
  match before, splits with
  | [], splits | [_, _, _, _], splits =>
    cases splits
    exact spared_registration rfl _
  | [_], splits | [_, _, _, _, _], splits =>
    cases splits
    exact spared_running rfl _
  | [_, _], splits =>
    cases splits
    exact ⟨fun _ _ _ arrives => (by cases arrives), fun _ _ _ _ _ same => by cases same⟩
  | [_, _, _], splits =>
    cases splits
    refine ⟨fun _ device session arrives found _ => ?_, fun _ _ _ _ _ same => by cases same⟩
    cases arrives
    -- The close has left the device without a latest session, in any site.
    have hidden : ∀ siteId, siteId = none ∨ siteId = some "site" →
        ¬(cacheAfter (sampleCalls.take 3)).Current 7 siteId := by
      rintro _ (rfl | rfl) ⟨_, shown, -⟩ <;>
        exact absurd (congrArg Option.isSome shown) Bool.false_ne_true
    have own : ((cacheAfter (sampleCalls.take 3)).session "old").map (·.siteId) = some "site" := rfl
    rw [show (cacheAfter (sampleCalls.take 3)).session "old" = some session from found] at own
    exact ⟨hidden none (.inl rfl), hidden _ (.inr own)⟩
  | _ :: _ :: _ :: _ :: _ :: _ :: _, splits => simp [sampleCalls] at splits

end Sample

/-- An event of the closed session hides the snapshot of the one that runs. -/
theorem not_lawful_lateEvent : ¬∀ calls : List (Nat × CacheCall Nat Unit), Lawful calls := by
  intro all
  have kept := (all _).late [registration 0 "old", (1, .closeSession "old"), registration 2 "new"]
    (3, .appendRawEvent "old" ⟨3, some 7, ()⟩) [] "old" (some 7) _ rfl rfl rfl nofun
  have hidden : none = some (⟨"new", some 7, ()⟩ : Snapshot Unit) := congrFun₂ kept 7 none
  cases hidden

end NetConsole.OnlineMr
