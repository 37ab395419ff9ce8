import FlowClassifier.Codec.Messages
import FlowClassifier.Codec.Snapshot

/-!
`Coordinator`: one classifier behind a protocol. A connection owns a session record, which
the handlers read and write; a handler decodes its request, calls the classifier once and
answers. What the clocks and the file system answer during a call is an argument of the
call. The content of the state file is part of the state, because it is what the next
start reads. The logger and the table of connections, which only feeds a counter, are left
out.
-/
namespace FlowClassifier

open Lib Foundation Hash Evidence Workloads Policies Codec

structure CoordinatorOptions where
  statePath : Bytes := []
  policy : ClassifierPolicy := .initial
  defaultSessionSource : EvidenceSource := .declaredAuthenticated
  persistOnMutation : Bool := false
  snapshotLimits : SnapshotLimits := {}

structure CoordinatorStats where
  messagesHandled : UInt64 := 0
  messagesRefused : UInt64 := 0
  protocolFailures : UInt64 := 0
  snapshotsWritten : UInt64 := 0
  snapshotFailures : UInt64 := 0
  restarts : UInt64 := 0

structure CoordinatorSession where
  session : SessionId := .none
  publisher : PublisherId := .none
  publisherBoot : PublisherBootId := 0
  maxSource : EvidenceSource := .heuristic
  handshaken : Bool := false
  registered : Bool := false

structure Coordinator where
  options : CoordinatorOptions
  classifier : Classifier
  running : Bool := false
  stats : CoordinatorStats := {}
  /-- The content of the state file, if there is one. -/
  file : Option Bytes := none

/-- How an attempt to replace the state file ends. It may fail after the new content is in
place, when the directory cannot be synchronised. -/
inductive WriteOutcome where
  | replaced
  | failed (failure : Failure) (renamed : Bool)

/-- A failure to read a state file. Only a file that is not there is reported as missing. -/
structure ReadFailure where
  failure : Failure
  not_missing : failure.code ≠ .notFound

/-- The readings of the clocks and the answers of the file system during one call. -/
structure Readings where
  tick : Tick := 1
  /-- The second reading of a submission. -/
  touchTick : Tick := 1
  wall : UInt64 := 0
  /-- The reading for each key of a batch. -/
  keyTick : ℕ → Tick := fun _ => 1
  writtenAt : UInt64 := 0
  write : WriteOutcome := .replaced
  directory : Result Unit := .ok ()
  readFailure : Option ReadFailure := none

def WorkloadState.toString : WorkloadState → Bytes
  | .declared => text "DECLARED"
  | .active => text "ACTIVE"
  | .retired => text "RETIRED"

def sessionMaterial (key : Bytes) (publisher : PublisherId) (boot : PublisherBootId)
    (epoch : CoordinatorEpoch) : Bytes :=
  key ++ text "|" ++ publisher.value ++ text "|" ++ render boot ++ text "|" ++ render epoch

def mintSessionId (key : Bytes) (publisher : PublisherId) (boot : PublisherBootId)
    (epoch : CoordinatorEpoch) : SessionId :=
  .make (text "sess-" ++
    hexText ((sha256 (sessionMaterial key publisher boot epoch)).bytes.toList.take 8))

namespace Coordinator

def new (options : CoordinatorOptions) (file : Option Bytes) : Coordinator where
  options := options
  classifier := .new { policy := options.policy, epoch := 1, coordinatorBoot := 1 }
  file := file

def codecLimits (co : Coordinator) : CodecLimits := .of co.classifier.policy.limits

def writeSnapshotFile (limits : SnapshotLimits) (file : Option Bytes) (state : DurableState)
    (env : Readings) : Result Unit × Option Bytes :=
  match encodeSnapshot limits { writtenAtWallMillis := env.writtenAt, state } with
  | .error e => (.error e, file)
  | .ok data =>
    match env.write with
    | .replaced => (.ok (), some data)
    | .failed e renamed => (.error e, if renamed then some data else file)

def readSnapshotFile (co : Coordinator) (env : Readings) : Result StateSnapshot :=
  match env.readFailure, co.file with
  | some e, _ => .error e.failure
  | none, none => Status.failure .notFound (text "no such file: " ++ co.options.statePath)
  | none, some data =>
    let bound := co.options.snapshotLimits.maxFileBytes
    if data.length > bound then
      Status.failure .capacityExceeded (text "file " ++ co.options.statePath ++ text " is " ++
        decimal data.length ++ text " bytes, exceeding the bound of " ++ decimal bound)
    else decodeSnapshot co.options.snapshotLimits data

def persist (co : Coordinator) (env : Readings) : Result Unit × Coordinator :=
  if co.options.statePath.isEmpty then
    (Status.failure .notRunning
      (text "no state path is configured; there is nothing to persist to"), co)
  else
    match writeSnapshotFile co.options.snapshotLimits co.file co.classifier.durableState env with
    | (.error e, file) =>
      (.error e,
        { co with
          file := file
          stats := { co.stats with snapshotFailures := co.stats.snapshotFailures + 1 } })
    | (.ok (), file) =>
      (.ok (),
        { co with
          file := file
          stats := { co.stats with snapshotsWritten := co.stats.snapshotsWritten + 1 } })

/-- The part of `start` that reads the state file. A file that is not there is no failure;
a policy that is refused is not one either. -/
def recover (co : Coordinator) (boot : CoordinatorBootId) (env : Readings) :
    Result Unit × Coordinator :=
  if co.options.statePath.isEmpty then (.ok (), co)
  else
    match env.directory with
    | .error e => (.error e, co)
    | .ok () =>
      match co.readSnapshotFile env with
      | .error e =>
        if e.code = .notFound then (.ok (), co)
        else
          (Status.failure e.code (text "refusing to start on an unreadable state file " ++
            co.options.statePath ++ text ": " ++ e.message), co)
      | .ok snapshot =>
        let installed :=
          if snapshot.state.policy.generation ≠ 0 then
            (co.classifier.setPolicy snapshot.state.policy).2
          else co.classifier
        match Classifier.restore snapshot.state installed boot env.tick with
        | (.error e, classifier) =>
          (Status.failure e.code
              (text "refusing to start on state that could not be restored: " ++ e.message),
            { co with classifier := classifier })
        | (.ok (), classifier) =>
          (.ok (),
            { co with
              classifier := classifier
              stats := { co.stats with restarts := co.stats.restarts + 1 } })

def start (co : Coordinator) (boot : CoordinatorBootId) (env : Readings) :
    Result Unit × Coordinator :=
  if co.running then
    (Status.failure .alreadyRunning (text "coordinator is already running"), co)
  else if boot = 0 then
    (Status.failure .invalidArgument
      (text "coordinator boot incarnation must be greater than zero"), co)
  else
    match co.recover boot env with
    | (.error e, co) => (.error e, co)
    | (.ok (), co) =>
      match co.classifier.advanceEpoch boot with
      | (.error e, classifier) => (.error e, { co with classifier := classifier })
      | (.ok _, classifier) => (.ok (), { co with classifier := classifier, running := true })

def stop (co : Coordinator) : Coordinator := { co with running := false }

abbrev Answered := Result CoordinatorResponse × Coordinator

def refuse (co : Coordinator) (e : Failure) : Answered :=
  (.ok (makeErrorResponse e.code e.message),
    { co with stats := { co.stats with messagesRefused := co.stats.messagesRefused + 1 } })

def reject (co : Coordinator) (e : Failure) : Answered :=
  (.ok (makeErrorResponse e.code e.message),
    { co with stats := { co.stats with protocolFailures := co.stats.protocolFailures + 1 } })

structure Reply where
  kind : MessageKind
  body : ResponseBody

/-- Encodes the reply. A body that does not fit a frame fails the call itself. -/
def reply (co : Coordinator) (r : Reply) : Answered :=
  match r.body.encode with
  | .error e => (.error e, co)
  | .ok payload => (.ok ⟨r.kind, payload⟩, co)

def commit (co : Coordinator) (r : Reply) (env : Readings) : Answered :=
  match r.body.encode with
  | .error e => (.error e, co)
  | .ok payload =>
    if co.options.persistOnMutation then
      match co.persist env with
      | (.error e, co) => co.refuse e
      | (.ok (), co) => (.ok ⟨r.kind, payload⟩, co)
    else (.ok ⟨r.kind, payload⟩, co)

def answering {α : Type} (out : Result α × Classifier) (f : α → Reply) :
    Result Reply × Classifier :=
  (out.1.map f, out.2)

def textReply (kind : MessageKind) (rendered : Bytes) : Reply := ⟨kind, .stats ⟨rendered⟩⟩

def staleFrame (co : Coordinator) (frame : Frame) : Failure :=
  ⟨.staleEpoch, text "frame declares coordinator epoch " ++ render frame.epoch ++
    text " but the coordinator is at " ++ render co.classifier.epoch⟩

def requireHandshake (co : Coordinator) (session : CoordinatorSession) (frame : Frame) :
    Result Unit :=
  if !session.handshaken then
    Status.failure .unauthenticated (text
      "the session has not completed the protocol handshake; send HELLO first")
  else if frame.epoch ≠ co.classifier.epoch then .error (co.staleFrame frame)
  else .ok ()

/-- `require_registered`. The epoch and the boot of the envelope are the coordinator's, not
those the session was bound in; the second look at the frame's epoch can never fire. -/
def requireRegistered (co : Coordinator) (session : CoordinatorSession) (frame : Frame) :
    Result SessionEnvelope :=
  match co.requireHandshake session frame with
  | .error e => .error e
  | .ok () =>
    if !session.registered then
      Status.failure .unauthenticated (text
        ("the session has not registered a publisher; send REGISTER_PUBLISHER " ++
          "before any publisher-scoped message"))
    else if frame.epoch ≠ co.classifier.epoch then .error (co.staleFrame frame)
    else
      .ok
        { publisher := session.publisher
          publisherBoot := session.publisherBoot
          session := session.session
          epoch := co.classifier.epoch
          coordinatorBoot := co.classifier.coordinatorBoot
          maxSource := session.maxSource
          receivedTick := tickNone }

section Handlers

variable (co : Coordinator) (key : Bytes) (session : CoordinatorSession) (frame : Frame)
  (env : Readings)

def handleHello : Answered × CoordinatorSession :=
  match decodeHello co.codecLimits frame.payload with
  | .error e => (co.reject e, session)
  | .ok hello =>
    if hello.protocolVersion < protocolVersionMin ∨ hello.protocolVersionMin > protocolVersion then
      (co.reject ⟨.unsupportedVersion, text "peer supports protocol versions " ++
        decimal hello.protocolVersionMin.toNat ++ text " to " ++
        decimal hello.protocolVersion.toNat ++ text "; this coordinator speaks " ++
        decimal protocolVersionMin.toNat ++ text " to " ++ decimal protocolVersion.toNat⟩,
        session)
    else
      let ceiling := co.options.defaultSessionSource
      let granted :=
        if hello.requestedFlags &&& helloFlagRequestHeuristics ≠ 0 then
          if ceiling.rank < EvidenceSource.heuristic.rank then ceiling else .heuristic
        else ceiling
      let publisher := if hello.publisher.isEmpty then session.publisher else hello.publisher
      (co.reply ⟨.helloAck, .hello
          { epoch := co.classifier.epoch
            boot := co.classifier.coordinatorBoot
            grantedSource := granted
            coordinatorBanner := productBanner }⟩,
        { session with
          maxSource := granted
          handshaken := true
          publisher := publisher
          session := mintSessionId key publisher 1 co.classifier.epoch })

/-- The session after a registration request has been read. The identity is written before
the classifier has accepted it. -/
def bindIdentity (request : RegisterPublisherRequest) : CoordinatorSession :=
  { session with
    publisher := request.publisher
    publisherBoot := request.boot
    session := mintSessionId key request.publisher request.boot co.classifier.epoch }

def handleRegisterPublisher : Answered × CoordinatorSession :=
  match decodeRegisterPublisher co.codecLimits frame.payload with
  | .error e => (co.reject e, session)
  | .ok request =>
    if frame.epoch ≠ co.classifier.epoch then
      -- this refusal is not counted
      ((.ok (makeErrorResponse (co.staleFrame frame).code (co.staleFrame frame).message), co),
        session)
    else
      let bound := co.bindIdentity key session request
      match co.classifier.registerPublisher bound.publisher bound.publisherBoot bound.maxSource
          bound.session request.description env.tick env.wall with
      | (.error e, classifier) => (refuse { co with classifier := classifier } e, bound)
      | (.ok _, classifier) =>
        (commit { co with classifier := classifier }
            ⟨.helloAck, .registerPublisher
              { session := bound.session
                epoch := classifier.epoch
                boot := classifier.coordinatorBoot
                grantedSource := bound.maxSource
                defaultFreshnessWindow := classifier.policy.defaultFreshnessWindow }⟩ env,
          { bound with registered := true })

/-- The course of a publisher-scoped request: the guard, the decoder, one classifier
operation and the answer. Only a durable one commits before it answers. -/
def publisherScoped {ρ : Type} (decode : CodecLimits → Bytes → Result ρ)
    (operation : SessionEnvelope → ρ → Result Reply × Classifier) (durable : Bool) : Answered :=
  match co.requireRegistered session frame with
  | .error e => co.refuse e
  | .ok envelope =>
    match decode co.codecLimits frame.payload with
    | .error e => co.reject e
    | .ok request =>
      match operation envelope request with
      | (.error e, classifier) => refuse { co with classifier := classifier } e
      | (.ok r, classifier) =>
        if durable then commit { co with classifier := classifier } r env
        else reply { co with classifier := classifier } r

def handleDeclareWorkload : Answered :=
  co.publisherScoped session frame env decodeDeclareWorkload
    (fun envelope request =>
      answering (co.classifier.declareWorkload request.workload envelope.publisher
          request.generation request.description env.tick) fun record =>
        textReply .declareWorkloadResult (text "workload " ++ record.id.value ++
          text " generation " ++ render record.generation ++ text " state " ++
          WorkloadState.toString record.state))
    true

def handleProposeContract : Answered :=
  co.publisherScoped session frame env decodeProposeContract
    (fun envelope contract =>
      answering (co.classifier.proposeContract
          { contract with owner := envelope.publisher, derivedSource := .contractDerived }
          env.tick) fun stored =>
        ⟨.contractResult, .contract stored⟩)
    true

def handleActivateContract : Answered :=
  co.publisherScoped session frame env decodeContractReference
    (fun envelope contract =>
      answering (co.classifier.activateContract contract envelope.publisher env.tick)
        fun activated => ⟨.contractResult, .contract activated⟩)
    true

/-- The answer is of the kind of a contract and its body is rendered text. -/
def handleRetireContract : Answered :=
  co.publisherScoped session frame env decodeContractReference
    (fun envelope contract =>
      answering (co.classifier.retireContract contract envelope.publisher env.tick) fun _ =>
        textReply .contractResult (text "contract " ++ contract.value ++ text " retired"))
    true

def handleRegisterFlow : Answered :=
  co.publisherScoped session frame env (fun _ => decodeRegisterFlow)
    (fun envelope request =>
      answering (co.classifier.registerFlow request.key request.generation envelope.session
          env.tick) fun registration =>
        ⟨.registerFlowResult, .registerFlow
          { flowId := registration.record.id
            generation := registration.record.generation
            fencedPrevious := registration.fencedPrevious
            previousGeneration := registration.previousGeneration }⟩)
    false

def handlePublishEvidence : Answered :=
  co.publisherScoped session frame env decodePublishEvidence
    (fun envelope payload =>
      answering (co.classifier.submitEvidence envelope payload env.tick env.touchTick env.wall)
        fun outcome =>
          ⟨.publishEvidenceResult, .publishEvidence
            { evidenceId := outcome.record.id
              flowId := outcome.record.flowId
              flowGeneration := outcome.record.flowGeneration
              effectiveSource := outcome.effectiveSource
              supersededPrevious := outcome.supersededPrevious
              supersededId := outcome.supersededId
              fencedFlowGeneration := outcome.fencedFlowGeneration
              notes := outcome.notes }⟩)
    true

def handleWithdrawEvidence : Answered :=
  co.publisherScoped session frame env decodeWithdrawEvidence
    (fun envelope request =>
      answering (co.classifier.withdrawEvidence envelope request.evidence request.reason env.tick)
        fun _ =>
          textReply .withdrawResult
            (text "evidence " ++ request.evidence.value ++ text " withdrawn"))
    true

def handleRevoke : Answered :=
  co.publisherScoped session frame env decodeRevokeGeneration
    (fun envelope request =>
      answering (co.classifier.revokeGeneration envelope request.flowId request.generation
          request.reason env.tick) fun _ =>
        textReply .withdrawResult (text "flow generation revoked"))
    false

def queryOf (entry : ClassifyQueryEntry) : ClassificationQuery where
  flowKey := entry.key
  flowGeneration := entry.generation
  explain := entry.explain
  acceptCurrentGeneration := entry.generation == 0

def statusParts : Result Unit → UInt32 × Bytes
  | .ok () => (errorNumber .ok, [])
  | .error e => (errorNumber e.code, e.message)

def classifyResponse (classifier : Classifier) (outcome : Classifier.BatchOutcome) :
    ClassifyResponse where
  classifications := outcome.results.map ClassificationResult.classification
  explanations := outcome.results.map ClassificationResult.explanation
  perKeyCodes := outcome.statuses.map fun s => (statusParts s).1
  perKeyMessages := outcome.statuses.map fun s => (statusParts s).2
  coordinatorEpoch := classifier.epoch
  coordinatorBoot := classifier.coordinatorBoot
  succeeded := UInt32.ofNat outcome.succeeded
  failed := UInt32.ofNat outcome.failed

def handleClassify : Answered :=
  match co.requireHandshake session frame with
  | .error e => co.refuse e
  | .ok () =>
    match decodeClassifyRequest co.codecLimits frame.payload with
    | .error e => co.reject e
    | .ok entries =>
      match co.classifier.classifyBatch
          (entries.zipIdx.map fun (entry, i) => (queryOf entry, env.keyTick i)) with
      | (.error e, classifier) => refuse { co with classifier := classifier } e
      | (.ok outcome, classifier) =>
        reply { co with classifier := classifier }
          ⟨.classifyResult, .classify (classifyResponse classifier outcome)⟩

def renderedStats : Bytes :=
  text "epoch=" ++ render co.classifier.epoch ++
    text " boot=" ++ render co.classifier.coordinatorBoot ++
    text " publishers=" ++ decimal co.classifier.publishers.publishers.size ++
    text " live=" ++ decimal co.classifier.publishers.stats.live ++
    text " flows=" ++ decimal co.classifier.flows.current.size ++
    text " evidence=" ++ decimal co.classifier.evidence.byId.size ++
    text " decisions=" ++ render co.classifier.decisions.stats.decisionsRecorded ++
    text " memo=" ++ decimal co.classifier.decisions.memo.size ++
    text " messages=" ++ render co.stats.messagesHandled ++
    text " refused=" ++ render co.stats.messagesRefused

def handleStats : Answered :=
  match co.requireHandshake session frame with
  | .error e => co.refuse e
  | .ok () => co.reply (textReply .statsResponse co.renderedStats)

def handleHeartbeat : Answered :=
  let beaten :=
    if session.registered then
      { co with
        classifier := (co.classifier.heartbeat session.publisher session.publisherBoot env.tick
          env.wall).2 }
    else co
  beaten.reply ⟨.helloAck, .hello
    { epoch := beaten.classifier.epoch
      boot := beaten.classifier.coordinatorBoot
      grantedSource := session.maxSource
      coordinatorBanner := productBanner }⟩

def unsupported : Failure :=
  ⟨.unsupportedOperation, text "message kind " ++ frame.kind.toString ++
    text " is not accepted by the coordinator"⟩

def dispatch : Answered × CoordinatorSession :=
  match frame.kind with
  | .hello => co.handleHello key session frame
  | .registerPublisher => co.handleRegisterPublisher key session frame env
  | .declareWorkload => (co.handleDeclareWorkload session frame env, session)
  | .proposeContract => (co.handleProposeContract session frame env, session)
  | .activateContract => (co.handleActivateContract session frame env, session)
  | .retireContract => (co.handleRetireContract session frame env, session)
  | .registerFlow => (co.handleRegisterFlow session frame env, session)
  | .publishEvidence => (co.handlePublishEvidence session frame env, session)
  | .withdrawEvidence => (co.handleWithdrawEvidence session frame env, session)
  | .revokeGeneration => (co.handleRevoke session frame env, session)
  | .classify => (co.handleClassify session frame env, session)
  | .statsRequest => (co.handleStats session frame, session)
  | .heartbeat => (co.handleHeartbeat session env, session)
  | .helloAck | .classifyResult | .statsResponse | .errorResponse | .declareWorkloadResult
  | .contractResult | .registerFlowResult | .publishEvidenceResult | .withdrawResult =>
    (co.reject (unsupported frame), session)

def countMessage : Coordinator :=
  { co with stats := { co.stats with messagesHandled := co.stats.messagesHandled + 1 } }

def handle : Answered × CoordinatorSession :=
  if !co.running then
    ((.ok (makeErrorResponse .notRunning (text "the coordinator is not running")), co), session)
  else co.countMessage.dispatch key session frame env

/-- `close_session`. The connection is gone, so neither failure is answered. -/
def closeSession : Coordinator :=
  if !session.registered then co
  else
    let ended :=
      { co with
        classifier := (co.classifier.endPublisherSession session.publisher session.publisherBoot
          session.session env.tick).2 }
    if co.options.persistOnMutation then (ended.persist env).2 else ended

end Handlers
end Coordinator
end FlowClassifier
