import FlowClassifier.Lib.FiniteMap
import FlowClassifier.Lib.Runs
import FlowClassifier.Workloads

/-!
`PublisherRegistry`: which publisher incarnations exist, which of them are live and
how far each has used its evidence generations. A registration is volatile and
describes liveness; a record is durable and does not. Operations return their result
together with the registry they leave behind, also when they fail.
-/
namespace FlowClassifier.Store

open Lib Foundation Evidence Workloads

structure PublisherRegistryStats where
  registrations : UInt64 := 0
  bootAdvances : UInt64 := 0
  sessionsOpened : UInt64 := 0
  sessionsClosed : UInt64 := 0
  livenessExpirations : UInt64 := 0
  capacityRejections : UInt64 := 0
  replayRejections : UInt64 := 0
  publishers : ℕ := 0
  live : ℕ := 0

structure PublisherRegistry where
  publishers : FiniteMap PublisherId PublisherRegistration := ∅
  records : FiniteMap PublisherId PublisherRecord := ∅
  maxPublishers : UInt32
  idleTicks : UInt64
  stats : PublisherRegistryStats := {}

namespace PublisherRegistry

/-- The constructor; an idle bound of zero is read as one. -/
def new (maxPublishers : UInt32) (idleTicks : UInt64) : PublisherRegistry where
  maxPublishers := maxPublishers
  idleTicks := if idleTicks = 0 then 1 else idleTicks

def countCapacity (r : PublisherRegistry) : PublisherRegistry :=
  { r with stats := { r.stats with capacityRejections := r.stats.capacityRejections + 1 } }

def countReplay (r : PublisherRegistry) : PublisherRegistry :=
  { r with stats := { r.stats with replayRejections := r.stats.replayRejections + 1 } }

def fullFailure (r : PublisherRegistry) : Failure :=
  ⟨.capacityExceeded, text "publisher registry is full at " ++ decimal r.maxPublishers.toNat⟩

def rebindRecord (record : PublisherRecord) (boot : PublisherBootId) (maxSource : EvidenceSource)
    (wall : UInt64) (description : Bytes) : PublisherRecord :=
  { record with
    highestBoot := if boot > record.highestBoot then boot else record.highestBoot
    -- a new incarnation has used no evidence generation yet
    highestGeneration := if boot > record.highestBoot then 0 else record.highestGeneration
    lastSeenWallMillis := wall
    description := if record.description.isEmpty then description else record.description
    maxSource := if maxSource.rank > record.maxSource.rank then maxSource else record.maxSource }

def bindRecord (r : PublisherRegistry) (id : PublisherId) (boot : PublisherBootId)
    (maxSource : EvidenceSource) (tick : Tick) (wall : UInt64) (description : Bytes) :
    Result Unit × PublisherRegistry :=
  match r.records.lookup id with
  | none =>
    if r.records.size ≥ r.maxPublishers.toNat then (.error r.fullFailure, r.countCapacity)
    else
      (.ok (),
        { r with
          records := r.records.insert id
            { id := id, highestBoot := boot, maxSource := maxSource, firstSeenTick := tick,
              lastSeenWallMillis := wall, description := description } })
  | some record =>
    if boot < record.highestBoot then
      (Status.failure .staleBootId (text "publisher " ++ id.value ++ text " presented boot " ++
        render boot ++ text " but boot " ++ render record.highestBoot ++
        text " has already been observed"), r.countReplay)
    else
      (.ok (),
        { r with
          records := r.records.insert id (rebindRecord record boot maxSource wall description)
          stats := { r.stats with
            bootAdvances :=
              if boot > record.highestBoot then r.stats.bootAdvances + 1
              else r.stats.bootAdvances } })

def firstRegistration (id : PublisherId) (boot : PublisherBootId) (epoch : CoordinatorEpoch)
    (coordinatorBoot : CoordinatorBootId) (maxSource : EvidenceSource) (session : SessionId)
    (tick : Tick) (description : Bytes) : PublisherRegistration :=
  { id := id, boot := boot, registeredEpoch := epoch, registeredBoot := coordinatorBoot,
    session := session, liveSessions := [session], state := .live, maxSource := maxSource,
    registeredTick := tick, lastSeenTick := tick, sessionsOpened := 1,
    description := description }

/-- What a bind does to an existing registration. A larger boot starts without
sessions; an equal one keeps the sessions it has. -/
def rebindRegistration (registration : PublisherRegistration) (boot : PublisherBootId)
    (epoch : CoordinatorEpoch) (coordinatorBoot : CoordinatorBootId) (session : SessionId)
    (tick : Tick) : PublisherRegistration :=
  let kept := if boot > registration.boot then [] else registration.liveSessions
  { registration with
    boot := boot
    highestGeneration := if boot > registration.boot then 0 else registration.highestGeneration
    session := session
    liveSessions := if session ∈ kept then kept else kept ++ [session]
    registeredEpoch := epoch
    registeredBoot := coordinatorBoot
    state := .live
    lastSeenTick := tick
    sessionsOpened := registration.sessionsOpened + 1 }

def bindRegistration (r : PublisherRegistry) (id : PublisherId) (boot : PublisherBootId)
    (epoch : CoordinatorEpoch) (coordinatorBoot : CoordinatorBootId) (maxSource : EvidenceSource)
    (session : SessionId) (tick : Tick) (description : Bytes) :
    Result PublisherRegistration × PublisherRegistry :=
  match r.publishers.lookup id with
  | none =>
    if r.publishers.size ≥ r.maxPublishers.toNat then (.error r.fullFailure, r.countCapacity)
    else
      let registration :=
        firstRegistration id boot epoch coordinatorBoot maxSource session tick description
      let publishers : FiniteMap _ _ := r.publishers.insert id registration
      (.ok registration,
        { r with
          publishers := publishers
          stats := { r.stats with
            registrations := r.stats.registrations + 1
            sessionsOpened := r.stats.sessionsOpened + 1
            publishers := publishers.size } })
  | some registration =>
    if boot < registration.boot then
      (Status.failure .staleBootId (text "publisher " ++ id.value ++
        text " session is bound to boot " ++ render registration.boot ++ text "; boot " ++
        render boot ++ text " is older"), r.countReplay)
    else
      let registration := rebindRegistration registration boot epoch coordinatorBoot session tick
      let publishers : FiniteMap _ _ := r.publishers.insert id registration
      (.ok registration,
        { r with
          publishers := publishers
          stats := { r.stats with
            sessionsOpened := r.stats.sessionsOpened + 1
            publishers := publishers.size } })

/-- `bind_session`. The test for an empty publisher identity in the source can never
fire, and the test for a zero boot stands there twice. -/
def bindSession (r : PublisherRegistry) (id : PublisherId) (boot : PublisherBootId)
    (epoch : CoordinatorEpoch) (coordinatorBoot : CoordinatorBootId) (maxSource : EvidenceSource)
    (session : SessionId) (tick : Tick) (wall : UInt64) (description : Bytes) :
    Result PublisherRegistration × PublisherRegistry :=
  if !id.isEmpty && id.value.isEmpty then
    (Status.failure .malformedInput (text "publisher identity is empty"), r)
  else if boot = 0 then
    (Status.failure .invalidArgument (text "publisher boot id must be greater than zero"), r)
  else
    match r.bindRecord id boot maxSource tick wall description with
    | (.error e, r) => (.error e, r)
    | (.ok (), r) =>
      r.bindRegistration id boot epoch coordinatorBoot maxSource session tick description

def unknownFailure (id : PublisherId) : Failure :=
  ⟨.unknownPublisher, text "no session for publisher " ++ id.value⟩

def closeSession (registration : PublisherRegistration) (session : SessionId) (tick : Tick) :
    PublisherRegistration :=
  let remaining :=
    if session.isEmpty then [] else registration.liveSessions.filter (· ≠ session)
  { registration with
    liveSessions := remaining
    session :=
      if session.isEmpty then .none
      else if registration.session = session then remaining.getLastD .none
      else registration.session
    state := if remaining.isEmpty then .dead else registration.state
    lastSeenTick := if remaining.isEmpty then tick else registration.lastSeenTick }

def endSpecificSession (r : PublisherRegistry) (id : PublisherId) (boot : PublisherBootId)
    (session : SessionId) (tick : Tick) : Result Unit × PublisherRegistry :=
  match r.publishers.lookup id with
  | none => (.error (unknownFailure id), r)
  | some registration =>
    if registration.boot ≠ boot then
      (Status.failure .staleBootId
        (text "session being closed is not the current incarnation"), r)
    else
      (.ok (),
        { r with
          publishers := r.publishers.insert id (closeSession registration session tick)
          stats := { r.stats with sessionsClosed := r.stats.sessionsClosed + 1 } })

def endSession (r : PublisherRegistry) (id : PublisherId) (boot : PublisherBootId) (tick : Tick) :
    Result Unit × PublisherRegistry :=
  r.endSpecificSession id boot .none tick

def hasExpired (r : PublisherRegistry) (tick : Tick) (registration : PublisherRegistration) :
    Bool :=
  registration.state == .live && tick > registration.lastSeenTick &&
    tick - registration.lastSeenTick > r.idleTicks

def expireRegistration (r : PublisherRegistry) (tick : Tick)
    (registration : PublisherRegistration) : PublisherRegistration :=
  if r.hasExpired tick registration then { registration with state := .idle } else registration

def expireLiveness (r : PublisherRegistry) (tick : Tick) : ℕ × PublisherRegistry :=
  let changed := (r.publishers.values.filter (r.hasExpired tick)).length
  let publishers := r.publishers.mapValues fun _ => r.expireRegistration tick
  (changed,
    { r with
      publishers := publishers
      stats := { r.stats with
        livenessExpirations := r.stats.livenessExpirations + UInt64.ofNat changed
        live := (publishers.values.filter fun p => p.state == .live).length } })

def touchRegistration (registration : PublisherRegistration) (tick : Tick) :
    PublisherRegistration :=
  { registration with
    lastSeenTick := tick
    state := if registration.state = .dead then .dead else .live }

def touch (r : PublisherRegistry) (id : PublisherId) (boot : PublisherBootId) (tick : Tick)
    (wall : UInt64) : Result Unit × PublisherRegistry :=
  match r.publishers.lookup id with
  | none => (.error (unknownFailure id), r)
  | some registration =>
    if registration.boot ≠ boot then
      (Status.failure .staleBootId (text "touch presented boot " ++ render boot ++
        text " but the session is at " ++ render registration.boot), r)
    else
      (.ok (),
        { r with
          publishers := r.publishers.insert id (touchRegistration registration tick)
          records :=
            match r.records.lookup id with
            | none => r.records
            | some record => r.records.insert id { record with lastSeenWallMillis := wall } })

def requireRevalidation (r : PublisherRegistry) (id : PublisherId) :
    Result Unit × PublisherRegistry :=
  match r.publishers.lookup id with
  | none =>
    (Status.failure .unknownPublisher (text "no publisher " ++ id.value ++ text " registered"), r)
  | some registration =>
    (.ok (),
      { r with
        publishers :=
          r.publishers.insert id { registration with state := .idle, session := .none } })

def find (r : PublisherRegistry) (id : PublisherId) : Result PublisherRegistration :=
  match r.publishers.lookup id with
  | none =>
    Status.failure .unknownPublisher (text "no publisher " ++ id.value ++ text " registered")
  | some registration => .ok registration

/-- `is_live`: the state field says LIVE at this boot and a session remains. -/
def isLive (r : PublisherRegistry) (id : PublisherId) (boot : PublisherBootId) : Bool :=
  match r.publishers.lookup id with
  | none => false
  | some registration =>
    registration.state == .live && registration.boot == boot &&
      !registration.liveSessions.isEmpty

def observeEvidenceGeneration (r : PublisherRegistry) (id : PublisherId) (boot : PublisherBootId)
    (generation : EvidenceGeneration) : Result Unit × PublisherRegistry :=
  match r.publishers.lookup id with
  | none => (.error (unknownFailure id), r)
  | some registration =>
    if registration.boot ≠ boot then
      (Status.failure .staleBootId (text "evidence presented boot " ++ render boot ++
        text " but the session is at " ++ render registration.boot), r)
    else if generation = 0 then
      (Status.failure .invalidArgument
        (text "evidence generation must be greater than zero"), r)
    else if generation < registration.highestGeneration then
      (Status.failure .replayDetected (text "evidence generation " ++ render generation ++
        text " is lower than the observed high-water mark " ++
        render registration.highestGeneration), r.countReplay)
    else if generation = registration.highestGeneration then
      (Status.failure .replayDetected (text "evidence generation " ++ render generation ++
        text " has already been accepted for this publisher incarnation"), r.countReplay)
    else
      (.ok (),
        { r with
          publishers :=
            r.publishers.insert id { registration with highestGeneration := generation }
          records :=
            match r.records.lookup id with
            | none => r.records
            | some record =>
              r.records.insert id { record with highestGeneration := generation } })

def snapshotRecords (r : PublisherRegistry) : List PublisherRecord :=
  r.records.values.insertionSort fun a b => a.id ≤ b.id

def registrations (r : PublisherRegistry) : List PublisherRegistration :=
  r.publishers.values.insertionSort fun a b => toLex (a.id, a.boot) ≤ toLex (b.id, b.boot)

/-- The registration a restored record yields: known, and not live. -/
def restoredRegistration (stored : PublisherRecord) (tick : Tick) : PublisherRegistration where
  id := stored.id
  boot := stored.highestBoot
  state := .idle
  maxSource := stored.maxSource
  registeredTick := tick
  lastSeenTick := tickNone
  highestGeneration := stored.highestGeneration
  description := stored.description

def restoreRecord (r : PublisherRegistry) (record : PublisherRecord) (tick : Tick) :
    Result Unit × PublisherRegistry :=
  if r.records.size ≥ r.maxPublishers.toNat ∧ (r.records.lookup record.id).isNone then
    (Status.failure .capacityExceeded
      (text "publisher registry is full while restoring persisted records"), r)
  else
    let stored :=
      if record.firstSeenTick = tickNone then { record with firstSeenTick := tick } else record
    (.ok (),
      { r with
        records := r.records.insert stored.id stored
        publishers := r.publishers.insert stored.id (restoredRegistration stored tick) })

def restoreRecords (r : PublisherRegistry) (records : List PublisherRecord) (tick : Tick) :
    Result Unit × PublisherRegistry :=
  andThen (tryEach (fun r record => r.restoreRecord record tick) r records) fun r =>
    (.ok (), { r with stats := { r.stats with publishers := r.publishers.size } })

/-- What `clear_sessions` does to a registration; its session list stays. -/
def clearSession (registration : PublisherRegistration) : PublisherRegistration :=
  { registration with state := .idle, session := .none, lastSeenTick := tickNone }

def clearSessions (r : PublisherRegistry) : PublisherRegistry :=
  { r with
    publishers := r.publishers.mapValues fun _ => clearSession
    stats := { r.stats with live := 0 } }

def clear (r : PublisherRegistry) : PublisherRegistry :=
  { r with publishers := ∅, records := ∅, stats := {} }

end PublisherRegistry
end FlowClassifier.Store
