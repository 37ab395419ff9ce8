import FlowClassifier.Engine
import FlowClassifier.Store.Publishers
import FlowClassifier.Store.Flows
import FlowClassifier.Store.Workloads
import FlowClassifier.Store.EvidenceStore
import FlowClassifier.Store.Decisions

/-!
`Classifier`: the five stores, the policy and the authority counters behind one lock.
Every public operation is a function of the state and of its arguments; the readings of
the clocks are arguments too. An operation returns its result with the state it leaves
behind, because several operations fail after they have changed something. The logger
is left out.
-/
namespace FlowClassifier

open Lib Foundation Hash Evidence Flows Policies Workloads Classifications Engine Store

structure SessionEnvelope where
  publisher : PublisherId
  publisherBoot : PublisherBootId
  session : SessionId
  epoch : CoordinatorEpoch
  coordinatorBoot : CoordinatorBootId
  maxSource : EvidenceSource := .heuristic
  receivedTick : Tick := tickNone

structure EvidencePayload where
  workload : WorkloadId := .none
  workloadGeneration : WorkloadGeneration := 0
  contract : ContractId := .none
  flowKey : FlowKey
  flowGeneration : FlowGeneration := 0
  evidenceGeneration : EvidenceGeneration
  semantic : SemanticClass := .unknown
  claimedSource : EvidenceSource := .heuristic
  freshnessWindow : UInt64 := 0
  metadata : EvidenceMetadata := {}

structure EvidenceSubmissionOutcome where
  record : EvidenceRecord
  accepted : Bool := false
  supersededPrevious : Bool := false
  supersededId : EvidenceId := .none
  fencedFlowGeneration : Bool := false
  previousFlowGeneration : FlowGeneration := 0
  effectiveSource : EvidenceSource := .unknown
  notes : List Bytes := []

structure ClassificationQuery where
  flowKey : FlowKey
  flowGeneration : FlowGeneration := 0
  explain : Bool := false
  acceptCurrentGeneration : Bool := true

structure ClassificationResult where
  classification : Classification := {}
  explanation : Bytes := []
  memoHit : Bool := false
  historical : Bool := false

structure ClassifierCounters where
  flowsRegistered : UInt64 := 0
  evidenceAccepted : UInt64 := 0
  evidenceRefused : UInt64 := 0
  classifications : UInt64 := 0
  batchRequests : UInt64 := 0
  batchKeys : UInt64 := 0
  revocations : UInt64 := 0
  supersessions : UInt64 := 0
  contradictions : UInt64 := 0
  policyUpdates : UInt64 := 0
  generationFences : UInt64 := 0

structure ClassifierOptions where
  policy : ClassifierPolicy := .initial
  epoch : CoordinatorEpoch := 1
  coordinatorBoot : CoordinatorBootId := 1

structure Classifier where
  policy : ClassifierPolicy
  policyDigest : Digest256
  flows : FlowRegistry
  publishers : PublisherRegistry
  workloads : WorkloadRegistry
  evidence : EvidenceStore
  decisions : ClassificationIndex
  epoch : CoordinatorEpoch
  coordinatorBoot : CoordinatorBootId
  sequence : Counter := {}
  authoritySequence : Seq := 1
  counters : ClassifierCounters := {}

structure DurableState where
  policy : ClassifierPolicy
  epoch : CoordinatorEpoch := 0
  coordinatorBoot : CoordinatorBootId := 0
  sequenceHighWater : UInt64 := 0
  publishers : List PublisherRecord := []
  workloads : List WorkloadRecord := []
  contracts : List WorkloadContract := []
  flows : List FlowRecord := []
  evidence : List EvidenceRecord := []
  classifications : List Classification := []
  revocations : List RevocationRecord := []
  supersessions : List SupersessionRecord := []

namespace Classifier

/-- The constructor. A policy that cannot be made canonical is replaced by the default
constructed one, which is what the value of a failed result is. -/
def new (options : ClassifierOptions) : Classifier :=
  let limits := options.policy.limits.effective
  let policy :=
    match ClassifierPolicy.canonicalize { options.policy with limits := limits } with
    | .ok p => p
    | .error _ => {}
  { policy := policy
    policyDigest := computePolicyDigest policy
    flows := { maxFlows := limits.maxFlows }
    publishers := .new limits.maxPublishers limits.maxSessionIdleTicks
    workloads :=
      { maxWorkloads := limits.maxWorkloads
        maxContracts := limits.maxContracts
        maxPendingContracts := limits.maxPendingContracts }
    evidence :=
      { maxRecords := limits.maxEvidenceRecords
        maxPerFlow := limits.maxEvidencePerFlow
        maxFlowIndex := limits.maxFlowKeyIndex }
    decisions :=
      { maxDecisionsPerFlow := limits.maxDecisionsPerFlow
        maxMemoEntries := limits.maxFlowKeyIndex
        maxContradictions := limits.maxContradictionsPerFlow
        maxSupersessions := limits.maxSupersessions
        maxRevocations := limits.maxRevocations }
    epoch := options.epoch
    coordinatorBoot := options.coordinatorBoot }

def bumpAuthority (c : Classifier) : Classifier :=
  { c with authoritySequence := c.authoritySequence + 1 }

def advanceEpoch (c : Classifier) (boot : CoordinatorBootId) :
    Result CoordinatorEpoch × Classifier :=
  match c.sequence.next with
  | .error e => (.error e, c)
  | .ok sequence =>
    match (Counter.mk c.epoch).next with
    | .error e => (.error e, { c with sequence := sequence })
    | .ok epoch =>
      (.ok epoch.value,
        bumpAuthority
          { c with
            sequence := sequence
            epoch := epoch.value
            coordinatorBoot := boot
            publishers := c.publishers.clearSessions
            evidence := c.evidence.markEpochStale epoch.value })

def recordedDecision (c : Classifier) (flow : FlowId) (generation : FlowGeneration) :
    Result Classification :=
  c.decisions.latest flow generation

def durableState (c : Classifier) : DurableState where
  policy := c.policy
  epoch := c.epoch
  coordinatorBoot := c.coordinatorBoot
  sequenceHighWater := c.sequence.value
  publishers := c.publishers.snapshotRecords
  workloads := c.workloads.snapshotWorkloads
  contracts := c.workloads.snapshotContracts
  flows := c.flows.snapshotFlows
  evidence := c.evidence.snapshotRecords
  classifications := c.decisions.snapshotClassifications
  revocations := c.decisions.revocations
  supersessions := c.decisions.supersessions

/-- `set_policy`. A new content clears the whole classification index. -/
def setPolicy (c : Classifier) (policy : ClassifierPolicy) :
    Result ClassifierPolicyGeneration × Classifier :=
  match ClassifierPolicy.canonicalize policy with
  | .error e => (.error e, c)
  | .ok next =>
    if computePolicyDigest next = c.policyDigest ∧ c.policy.generation ≠ 0 then
      (.ok c.policy.generation, c)
    else
      match (Counter.mk c.policy.generation).next with
      | .error e => (.error e, c)
      | .ok generation =>
        let next := { next with generation := generation.value }
        (.ok generation.value,
          { c with
            policy := next
            policyDigest := computePolicyDigest next
            decisions := c.decisions.clear
            counters := { c.counters with policyUpdates := c.counters.policyUpdates + 1 } })

def registerPublisher (c : Classifier) (id : PublisherId) (boot : PublisherBootId)
    (maxSource : EvidenceSource) (session : SessionId) (description : Bytes) (tick : Tick)
    (wall : UInt64) : Result PublisherRegistration × Classifier :=
  match c.publishers.bindSession id boot c.epoch c.coordinatorBoot maxSource session tick wall
      description with
  | (.error e, publishers) => (.error e, { c with publishers := publishers })
  | (.ok registration, publishers) =>
    (.ok registration, bumpAuthority { c with publishers := publishers })

def sessionEnd (live : Bool) (id : PublisherId) (boot : PublisherBootId) (session : SessionId) :
    (EvidenceRecord → Bool) × Bytes :=
  if !live then
    (fun r => bootKey r.publisher r.publisherBoot == bootKey id boot,
      text "publisher " ++ id.value ++ text " boot " ++ render boot ++
        text (" has no remaining session; evidence published by that incarnation is no " ++
          "longer current"))
  else if !session.isEmpty then
    (fun r => r.publisher == id && r.publisherBoot == boot &&
        (r.session.isEmpty || r.session == session),
      text "session " ++ session.value ++ text " of publisher " ++ id.value ++ text " boot " ++
        render boot ++
        text " ended; evidence published through that session is no longer current")
  else (fun _ => false, [])

def endPublisherSession (c : Classifier) (id : PublisherId) (boot : PublisherBootId)
    (session : SessionId) (tick : Tick) : Result Unit × Classifier :=
  match c.publishers.endSpecificSession id boot session tick with
  | (.error e, publishers) => (.error e, { c with publishers := publishers })
  | (.ok (), publishers) =>
    let live :=
      match publishers.find id with
      | .ok registration => !registration.liveSessions.isEmpty
      | .error _ => false
    let (ended, reason) := sessionEnd live id boot session
    (.ok (),
      bumpAuthority
        { c with
          publishers := publishers
          evidence := c.evidence.markStaleWhere ended reason })

def heartbeat (c : Classifier) (id : PublisherId) (boot : PublisherBootId) (tick : Tick)
    (wall : UInt64) : Result Unit × Classifier :=
  match c.publishers.touch id boot tick wall with
  | (.error e, publishers) => (.error e, { c with publishers := publishers })
  | (.ok (), publishers) => (.ok (), bumpAuthority { c with publishers := publishers })

def expirePublisherLiveness (c : Classifier) (tick : Tick) : ℕ × Classifier :=
  let (changed, publishers) := c.publishers.expireLiveness tick
  let c := { c with publishers := publishers }
  if changed ≠ 0 then
    (changed,
      bumpAuthority
        { c with
          evidence := c.evidence.markStaleWhere
            (fun r => !publishers.isLive r.publisher r.publisherBoot)
            (text "publisher incarnation is no longer live in the current coordinator epoch") })
  else (changed, c)

def citing (id : ContractId) (r : EvidenceRecord) : Bool := r.contract == id

def outgrownReason (id : WorkloadId) (contract : WorkloadContract) : Bytes :=
  text "workload " ++ id.value ++ text " advanced past the generation contract " ++
    contract.id.value ++ text " was bound to"

def declareWorkload (c : Classifier) (id : WorkloadId) (owner : PublisherId)
    (generation : WorkloadGeneration) (description : Bytes) (tick : Tick) :
    Result WorkloadRecord × Classifier :=
  match c.workloads.declareWorkload id owner generation tick description with
  | (.error e, workloads) => (.error e, { c with workloads := workloads })
  | (.ok (record, retired), workloads) =>
    (.ok record,
      { c with
        workloads := workloads
        evidence := retired.foldl
          (fun s k => s.markStaleWhere (citing k.id) (outgrownReason id k)) c.evidence })

def proposeContract (c : Classifier) (contract : WorkloadContract) (tick : Tick) :
    Result WorkloadContract × Classifier :=
  let (result, workloads) := c.workloads.proposeContract contract tick
  (result, { c with workloads := workloads })

def activateContract (c : Classifier) (id : ContractId) (caller : PublisherId) (tick : Tick) :
    Result WorkloadContract × Classifier :=
  match c.workloads.activateContract id caller tick with
  | (.error e, workloads) => (.error e, { c with workloads := workloads })
  | (.ok (activated, displaced), workloads) =>
    let evidence :=
      match displaced with
      | none => c.evidence
      | some old =>
        -- the source tests the identity of the reported contract for emptiness
        if old.id.isEmpty then c.evidence
        else c.evidence.markStaleWhere (citing old.id)
          (text "contract " ++ old.id.value ++ text " was replaced by " ++ id.value)
    (.ok activated, { c with workloads := workloads, evidence := evidence })

def retireContract (c : Classifier) (id : ContractId) (caller : PublisherId) (tick : Tick) :
    Result Unit × Classifier :=
  match c.workloads.retireContract id caller tick with
  | (.error e, workloads) => (.error e, { c with workloads := workloads })
  | (.ok (), workloads) =>
    (.ok (),
      { c with
        workloads := workloads
        evidence := c.evidence.markStaleWhere (citing id)
          (text "contract " ++ id.value ++ text " was retired") })

def retireWorkload (c : Classifier) (id : WorkloadId) (generation : WorkloadGeneration)
    (tick : Tick) : Result Unit × Classifier :=
  match c.workloads.retireWorkload id generation tick with
  | (.error e, workloads) => (.error e, { c with workloads := workloads })
  | (.ok (), workloads) =>
    (.ok (),
      { c with
        workloads := workloads
        evidence := c.evidence.markStaleWhere (fun r => r.workload == id)
          (text "workload " ++ id.value ++ text " was retired") })

def markFlowGenerationStale (c : Classifier) (flow : FlowId) (supersededBy : FlowGeneration) :
    Classifier :=
  let (affected, decisions) := c.decisions.supersedeGeneration flow supersededBy
  { c with
    evidence := c.evidence.markStaleWhere
      (fun r => r.flowId == flow && r.flowGeneration < supersededBy)
      (text "flow advanced to generation " ++ render supersededBy ++
        text "; evidence bound to an earlier incarnation is no longer current")
    decisions := decisions
    counters := { c.counters with
      supersessions := c.counters.supersessions + UInt64.ofNat affected } }

def refreshFlow (c : Classifier) (key : FlowKey) (requested : FlowGeneration)
    (session : SessionId) (tick : Tick) : Result FlowRegistration × Classifier :=
  match c.flows.registerFlow key requested session tick with
  | (.error e, flows) => (.error e, { c with flows := flows })
  | (.ok registration, flows) =>
    let c :=
      { c with
        flows := flows
        counters := { c.counters with flowsRegistered := c.counters.flowsRegistered + 1 } }
    let c :=
      if registration.created then
        { c with
          evidence := c.evidence.markStaleWhere (fun r => r.flowId == registration.record.id)
            (text "flow incarnation replaced") }
      else c
    let c :=
      if registration.fencedPrevious then
        markFlowGenerationStale
          { c with
            counters := { c.counters with
              generationFences := c.counters.generationFences + 1 } }
          registration.record.id registration.record.generation
      else c
    (.ok registration, c)

def registerFlow (c : Classifier) (key : FlowKey) (generation : FlowGeneration)
    (session : SessionId) (tick : Tick) : Result FlowRegistration × Classifier :=
  c.refreshFlow key generation session tick

def findFlow (c : Classifier) (key : FlowKey) : Result FlowRecord × Classifier :=
  (c.flows.findByKey key, { c with flows := c.flows.countLookup })

def findFlowGeneration (c : Classifier) (id : FlowId) (generation : FlowGeneration) :
    Result FlowRecord × Classifier :=
  (c.flows.findGeneration id generation, { c with flows := c.flows.countLookup })

def staleEpoch (envelope : SessionEnvelope) (current : CoordinatorEpoch) : Failure :=
  ⟨.staleEpoch, text "session is bound to coordinator epoch " ++ render envelope.epoch ++
    text " but the coordinator is at epoch " ++ render current ++
    text "; authority must be re-established"⟩

def checkEnvelope (c : Classifier) (envelope : SessionEnvelope) :
    Result PublisherRegistration :=
  if envelope.epoch ≠ c.epoch then .error (staleEpoch envelope c.epoch)
  else if envelope.coordinatorBoot ≠ c.coordinatorBoot then
    Status.failure .staleBootId (text "session is bound to coordinator boot " ++
      render envelope.coordinatorBoot ++ text " but the coordinator is at " ++
      render c.coordinatorBoot)
  else if envelope.publisherBoot = 0 then
    Status.failure .unauthenticated
      (text "session envelope carries no publisher boot incarnation")
  else
    match c.publishers.find envelope.publisher with
    | .error _ =>
      Status.failure .unknownPublisher (text "publisher " ++ envelope.publisher.value ++
        text " has no registered session")
    | .ok registration =>
      if registration.boot ≠ envelope.publisherBoot then
        Status.failure .staleBootId (text "session envelope claims publisher boot " ++
          render envelope.publisherBoot ++ text " but the live session is at " ++
          render registration.boot)
      else if registration.session ≠ envelope.session then
        Status.failure .unauthenticated
          (text "session envelope does not match the authenticated session for " ++
            envelope.publisher.value)
      else if !c.publishers.isLive envelope.publisher envelope.publisherBoot then
        Status.failure .publisherDead (text "publisher " ++ envelope.publisher.value ++
          text " boot " ++ render envelope.publisherBoot ++ text " is " ++
          registration.state.toString)
      else .ok registration

/-- `clamp_source`: a claim is lowered to the ceiling, never raised. -/
def clampSource (claimed ceiling : EvidenceSource) : EvidenceSource :=
  if claimed.rank ≤ ceiling.rank then claimed else ceiling

def ceiling (envelope : SessionEnvelope) (registration : PublisherRegistration) :
    EvidenceSource :=
  if envelope.maxSource.rank < registration.maxSource.rank then envelope.maxSource
  else registration.maxSource

def checkSource (policy : ClassifierPolicy) (effective : EvidenceSource)
    (metadata : EvidenceMetadata) : Result Unit :=
  if effective.isHeuristic then
    let (transport, port) := ClassifierPolicy.claimOf metadata.binding
    if !policy.allowHeuristicEvidence then
      Status.failure .heuristicDisabled (text "this policy does not permit heuristic evidence")
    else if !policy.heuristicAdapters.any fun a => a.enabled then
      Status.failure .heuristicDisabled
        (text ("the policy permits heuristics but no adapter is enabled, so no " ++
          "heuristic observation may be submitted"))
    else if (policy.findPortHint transport port).isNone then
      Status.failure .heuristicDisabled
        (text ("heuristic evidence must cite a declared, enabled hint; the submission " ++
            "named transport ") ++
          TransportProtocol.nameOf transport ++ text " port " ++ decimal port.toNat ++
          text ", which no enabled adapter declares")
    else .ok ()
  else if effective.rank = 0 then
    Status.failure .unauthorized
      (text "evidence source could not be established for this session")
  else .ok ()

def checkWorkload (c : Classifier) (publisher : PublisherId) (payload : EvidencePayload) :
    Result Unit :=
  if payload.workload.isEmpty then .ok ()
  else
    match c.workloads.findWorkload payload.workload with
    | .error _ =>
      Status.failure .unknownWorkload
        (text "evidence names undeclared workload " ++ payload.workload.value)
    | .ok workload =>
      if workload.owner ≠ publisher then
        Status.failure .unauthorized (text "publisher " ++ publisher.value ++
          text " does not own workload " ++ payload.workload.value)
      else if workload.generation ≠ payload.workloadGeneration then
        Status.failure .staleGeneration (text "evidence names workload generation " ++
          render payload.workloadGeneration ++ text " but the workload is at " ++
          render workload.generation)
      else if workload.state = .retired then
        Status.failure .contractRetired
          (text "workload " ++ payload.workload.value ++ text " is retired")
      else .ok ()

def checkContract (c : Classifier) (publisher : PublisherId) (payload : EvidencePayload) :
    Result Unit :=
  if payload.contract.isEmpty then .ok ()
  else
    match c.workloads.findContract payload.contract with
    | .error _ =>
      Status.failure .unknownContract
        (text "evidence names unknown contract " ++ payload.contract.value)
    | .ok contract =>
      if contract.owner ≠ publisher then
        Status.failure .unauthorized (text "publisher " ++ publisher.value ++
          text " does not own contract " ++ payload.contract.value)
      else if contract.state ≠ .active then
        Status.failure .contractRetired (text "evidence cites contract " ++
          payload.contract.value ++ text " which is " ++ contract.state.toString)
      else if contract.workload ≠ payload.workload ∨
          contract.workloadGeneration ≠ payload.workloadGeneration then
        Status.failure .contractMismatch (text "cited contract " ++ payload.contract.value ++
          text " is not bound to the workload generation the evidence names")
      else .ok ()

/-- Every check of `admit_evidence` that comes before the first change of state, with
the source the evidence is admitted at. -/
def admissible (c : Classifier) (envelope : SessionEnvelope) (payload : EvidencePayload) :
    Result EvidenceSource := do
  let registration ← c.checkEnvelope envelope
  let effective := clampSource payload.claimedSource (ceiling envelope registration)
  checkSource c.policy effective payload.metadata
  if payload.semantic = .unknown then
    Status.failure .invalidArgument
      (text "UNKNOWN may not be declared as evidence; omit the record instead")
  c.checkWorkload envelope.publisher payload
  c.checkContract envelope.publisher payload
  return effective

def sourceNotes (claimed effective : EvidenceSource) : List Bytes :=
  if claimed.rank > effective.rank then
    [text "claimed source " ++ claimed.toString ++ text " was reduced to " ++
      effective.toString ++ text " by the session authority ceiling"]
  else []

def evidenceMaterial (publisher : PublisherId) (boot : PublisherBootId) (topic : Bytes)
    (generation : EvidenceGeneration) (flow : FlowId) (flowGeneration : FlowGeneration) : Bytes :=
  publisher.value ++ text "|" ++ render boot ++ text "|" ++ topic ++ text "|" ++
    render generation ++ text "|" ++ flow.toHex ++ text "|" ++ render flowGeneration

def mintEvidenceId (material : Bytes) : EvidenceId :=
  .make (digestIdText (text "ev-") (sha256 material))

def buildRecord (c : Classifier) (envelope : SessionEnvelope) (payload : EvidencePayload)
    (effective : EvidenceSource) (flow : FlowRecord) (seq : Seq) (tick : Tick) :
    EvidenceRecord :=
  let window :=
    if payload.freshnessWindow ≠ 0 then payload.freshnessWindow
    else c.policy.defaultFreshnessWindow
  let record : EvidenceRecord :=
    { id := mintEvidenceId (evidenceMaterial envelope.publisher envelope.publisherBoot
        payload.metadata.topic payload.evidenceGeneration flow.id flow.generation)
      publisher := envelope.publisher
      publisherBoot := envelope.publisherBoot
      session := envelope.session
      acceptedEpoch := c.epoch
      acceptedBoot := c.coordinatorBoot
      workload := payload.workload
      workloadGeneration := payload.workloadGeneration
      contract := payload.contract
      flowId := flow.id
      flowGeneration := flow.generation
      generation := payload.evidenceGeneration
      acceptedSeq := seq
      acceptedTick := tick
      freshUntil := tick + window
      semantic := payload.semantic
      source := effective
      state := .current
      confidence := effective.confidence
      metadata := { payload.metadata with contract := payload.contract } }
  { record with contentDigest := computeEvidenceDigest record }

def displaces (record other : EvidenceRecord) : Bool :=
  other.publisher == record.publisher && other.publisherBoot == record.publisherBoot &&
    other.metadata.topic == record.metadata.topic && other.generation < record.generation

/-- One pass of the supersession loop, with the identity superseded last. A record that
is already SUPERSEDED is logged once more. -/
def supersedeOne (record : EvidenceRecord) (tick : Tick) (acc : Option EvidenceId × Classifier)
    (id : EvidenceId) : Option EvidenceId × Classifier :=
  let (last, c) := acc
  match c.evidence.byId.lookup id with
  | none => (last, c)
  | some other =>
    if !displaces record other then (last, c)
    else
      match c.evidence.setState other.id .superseded
          (text "superseded by " ++ record.id.value ++ text " at generation " ++
            render record.generation) with
      | (.error _, evidence) => (last, { c with evidence := evidence })
      | (.ok (), evidence) =>
        (some other.id,
          { c with
            evidence := evidence
            decisions := c.decisions.recordSupersession
              { previousId := other.id
                replacementId := record.id
                previousGeneration := other.generation
                replacementGeneration := record.generation
                publisher := record.publisher
                seq := record.acceptedSeq
                recordedTick := tick }
            counters := { c.counters with supersessions := c.counters.supersessions + 1 } })

def supersedeOlder (c : Classifier) (record : EvidenceRecord) (tick : Tick) :
    Option EvidenceId × Classifier :=
  (c.evidence.evidenceForFlow record.flowId).foldl (supersedeOne record tick) (none, c)

def admitEvidence (c : Classifier) (envelope : SessionEnvelope) (payload : EvidencePayload)
    (tick : Tick) : Result EvidenceSubmissionOutcome × Classifier :=
  match c.admissible envelope payload with
  | .error e => (.error e, c)
  | .ok effective =>
    match c.refreshFlow payload.flowKey payload.flowGeneration envelope.session tick with
    | (.error e, c) => (.error e, c)
    | (.ok flow, c) =>
      match c.publishers.observeEvidenceGeneration envelope.publisher envelope.publisherBoot
          payload.evidenceGeneration with
      | (.error e, publishers) => (.error e, { c with publishers := publishers })
      | (.ok (), publishers) =>
        let c := { c with publishers := publishers }
        match c.sequence.next with
        | .error e => (.error e, c)
        | .ok sequence =>
          let c := { c with sequence := sequence }
          let record := c.buildRecord envelope payload effective flow.record sequence.value tick
          let (superseded, c) := c.supersedeOlder record tick
          (.ok
              { record := record
                supersededPrevious := superseded.isSome
                supersededId := superseded.getD .none
                fencedFlowGeneration := flow.fencedPrevious
                previousFlowGeneration := if flow.fencedPrevious then flow.previousGeneration else 0
                effectiveSource := effective
                notes := sourceNotes payload.claimedSource effective },
            c)

def countRefused (c : Classifier) : Classifier :=
  { c with counters := { c.counters with evidenceRefused := c.counters.evidenceRefused + 1 } }

/-- `submit_evidence`; the clock is read once more for the final touch. -/
def submitEvidence (c : Classifier) (envelope : SessionEnvelope) (payload : EvidencePayload)
    (tick touchTick : Tick) (wall : UInt64) :
    Result EvidenceSubmissionOutcome × Classifier :=
  match c.admitEvidence envelope payload tick with
  | (.error e, c) => (.error e, c.countRefused)
  | (.ok outcome, c) =>
    match c.evidence.insert outcome.record with
    | (.error e, evidence) => (.error e, countRefused { c with evidence := evidence })
    | (.ok (), evidence) =>
      (.ok { outcome with accepted := true },
        { c with
          evidence := evidence
          publishers :=
            (c.publishers.touch envelope.publisher envelope.publisherBoot touchTick wall).2
          counters := { c.counters with
            evidenceAccepted := c.counters.evidenceAccepted + 1 } })

def revocationRecord (c : Classifier) (envelope : SessionEnvelope) (flow : FlowId)
    (generation : FlowGeneration) (id : EvidenceId) (seq : Seq) (tick : Tick) (reason : Bytes) :
    RevocationRecord where
  flowId := flow
  flowGeneration := generation
  evidenceId := id
  revokedBySession := envelope.session
  revokedByPublisher := envelope.publisher
  epoch := c.epoch
  seq := seq
  revokedTick := tick
  reason := reason

def fileRevocation (c : Classifier) (envelope : SessionEnvelope) (flow : FlowId)
    (generation : FlowGeneration) (id : EvidenceId) (tick : Tick) (reason : Bytes) :
    Result Unit × Classifier :=
  match c.sequence.next with
  | .error e => (.error e, c)
  | .ok sequence =>
    (.ok (),
      { c with
        sequence := sequence
        decisions := c.decisions.recordRevocation
          (c.revocationRecord envelope flow generation id sequence.value tick reason)
        counters := { c.counters with revocations := c.counters.revocations + 1 } })

def withdrawEvidence (c : Classifier) (envelope : SessionEnvelope) (id : EvidenceId)
    (reason : Bytes) (tick : Tick) : Result Unit × Classifier :=
  if envelope.epoch ≠ c.epoch then (.error (staleEpoch envelope c.epoch), c)
  else
    match c.evidence.find id with
    | .error _ => (.error (EvidenceStore.missing id), c)
    | .ok record =>
      if record.publisher ≠ envelope.publisher ∨
          record.publisherBoot ≠ envelope.publisherBoot then
        (Status.failure .unauthorized (text "publisher " ++ envelope.publisher.value ++
          text " may not withdraw evidence published by " ++ record.publisher.value), c)
      else
        let applied := if reason.isEmpty then text "withdrawn by its publisher" else reason
        match c.evidence.setState id .superseded applied with
        | (.error e, evidence) => (.error e, { c with evidence := evidence })
        | (.ok (), evidence) =>
          -- the state change stands even when no sequence number is left
          fileRevocation { c with evidence := evidence } envelope record.flowId
            record.flowGeneration id tick applied

def revokeGeneration (c : Classifier) (envelope : SessionEnvelope) (flow : FlowId)
    (generation : FlowGeneration) (reason : Bytes) (tick : Tick) : Result Unit × Classifier :=
  if envelope.epoch ≠ c.epoch then (.error (staleEpoch envelope c.epoch), c)
  else
    let looked := { c with flows := c.flows.countLookup }
    match c.flows.findGeneration flow generation with
    | .error _ =>
      (Status.failure .unknownFlow (text "flow has no generation " ++ render generation), looked)
    | .ok _ =>
      looked.fileRevocation envelope flow generation .none tick
        (if reason.isEmpty then text "revoked by request" else reason)

def buildAuthorityContext (c : Classifier) (tick : Tick) : AuthorityContext where
  epoch := c.epoch
  coordinatorBoot := c.coordinatorBoot
  tick := tick
  authoritySequence := c.authoritySequence
  livePublisherBoots :=
    (c.publishers.registrations.filter fun r => r.state == .live).map fun r =>
      bootKey r.id r.boot
  knownPublishers := c.publishers.registrations.map fun r => r.id.value

/-- What `classify` hands to the engine for one generation of a flow. -/
def decisionInput (c : Classifier) (flow : FlowRecord) (generation : FlowGeneration)
    (tick : Tick) : DecisionInput where
  flow := { flow with generation := generation }
  evidence := (c.evidence.evidenceForFlow flow.id).filterMap c.evidence.byId.lookup
  activeContracts := c.workloads.activeContracts
  workloads := c.workloads.snapshotWorkloads
  authority := c.buildAuthorityContext tick
  policy := c.policy
  generationRevoked := c.decisions.isRevoked flow.id generation

def decisionKey (input : DecisionInput) : DecisionKey where
  flowId := input.flow.id
  flowGeneration := input.flow.generation
  evidenceDigest := computeEvidenceSetDigest input
  policyGeneration := input.policy.generation

/-- The memoised decision for an input. A decision that is computed is stored and
recorded; one that is found in the memo is returned as it is. -/
def decideMemoised (c : Classifier) (input : DecisionInput) :
    Classification × Bool × Classifier :=
  let key := decisionKey input
  match c.decisions.memoLookup key with
  | (some found, decisions) => (found, true, { c with decisions := decisions })
  | (none, decisions) =>
    let decided := decide input
    (decided, false,
      { c with
        decisions := ((decisions.memoStore key decided).record decided).2
        counters := { c.counters with
          contradictions :=
            c.counters.contradictions + UInt64.ofNat decided.contradictions.length } })

def notRegistered (key : FlowKey) : Failure :=
  ⟨.unknownFlow, text "flow is not registered: " ++ key.toString⟩

def answer (c : Classifier) (flow : FlowRecord) (generation : FlowGeneration)
    (historical explain : Bool) (tick : Tick) : ClassificationResult × Classifier :=
  let input := c.decisionInput flow generation tick
  let (classification, memoHit, c) := c.decideMemoised input
  ({ classification := classification
     explanation := if explain then renderExplanation classification input else []
     memoHit := memoHit
     historical := historical }, c)

/-- The generation a request is about and whether it is a past one. A past generation
must still be in the history, and looking for it is counted. -/
def selectGeneration (c : Classifier) (flow : FlowRecord) (requested : FlowGeneration) :
    Result (FlowGeneration × Bool) × Classifier :=
  if requested = 0 ∨ requested = flow.generation then (.ok (flow.generation, false), c)
  else
    let looked := { c with flows := c.flows.countLookup }
    match c.flows.findGeneration flow.id requested with
    | .error _ =>
      (Status.failure .unknownFlow (text "flow has no generation " ++ render requested), looked)
    | .ok _ => (.ok (requested, true), looked)

def countClassification (c : Classifier) : Classifier :=
  { c with counters := { c.counters with classifications := c.counters.classifications + 1 } }

def classify (c : Classifier) (query : ClassificationQuery) (tick : Tick) :
    Result ClassificationResult × Classifier :=
  let c := c.countClassification
  let looked := { c with flows := c.flows.countLookup }
  match c.flows.findByKey query.flowKey with
  | .error _ => (.error (notRegistered query.flowKey), looked)
  | .ok flow =>
    if query.flowGeneration = 0 ∧ query.acceptCurrentGeneration = false then
      (Status.failure .invalidArgument
        (text "a classification request must name a flow generation"), looked)
    else
      match looked.selectGeneration flow query.flowGeneration with
      | (.error e, c) => (.error e, c)
      | (.ok (generation, historical), c) =>
        let (result, c) := c.answer flow generation historical query.explain tick
        (.ok result, c)

/-- One key of a batch. The flag that `classify` checks for an unnamed generation is not
looked at, and only an answer is counted. -/
def classifyOne (c : Classifier) (query : ClassificationQuery) (tick : Tick) :
    Result ClassificationResult × Classifier :=
  let looked := { c with flows := c.flows.countLookup }
  match c.flows.findByKey query.flowKey with
  | .error _ => (.error (notRegistered query.flowKey), looked)
  | .ok flow =>
    match looked.selectGeneration flow query.flowGeneration with
    | (.error e, c) => (.error e, c)
    | (.ok (generation, historical), c) =>
      let (result, c) := c.answer flow generation historical query.explain tick
      (.ok result, c.countClassification)

structure BatchOutcome where
  results : List ClassificationResult := []
  statuses : List (Result Unit) := []
  succeeded : ℕ := 0
  failed : ℕ := 0

def BatchOutcome.add (o : BatchOutcome) (result : Result ClassificationResult) : BatchOutcome :=
  match result with
  | .ok r =>
    { o with
      results := o.results ++ [r], statuses := o.statuses ++ [.ok ()]
      succeeded := o.succeeded + 1 }
  | .error e =>
    { o with
      results := o.results ++ [{}], statuses := o.statuses ++ [.error e]
      failed := o.failed + 1 }

def classifyEach (c : Classifier) (outcome : BatchOutcome) :
    List (ClassificationQuery × Tick) → BatchOutcome × Classifier
  | [] => (outcome, c)
  | (query, tick) :: rest =>
    let (result, c) := c.classifyOne query tick
    c.classifyEach (outcome.add result) rest

def classifyBatch (c : Classifier) (queries : List (ClassificationQuery × Tick)) :
    Result BatchOutcome × Classifier :=
  let limit := c.policy.limits.effective.maxBatchKeys
  if queries.length > limit.toNat then
    (Status.failure .capacityExceeded (text "batch of " ++ decimal queries.length ++
      text " keys exceeds the configured bound of " ++ decimal limit.toNat), c)
  else
    let counted :=
      { c with
        counters := { c.counters with
          batchRequests := c.counters.batchRequests + 1
          batchKeys := c.counters.batchKeys + UInt64.ofNat queries.length } }
    let (outcome, c) := counted.classifyEach {} queries
    (.ok outcome, c)

/-- `explain`. The branch that renders once more is taken when the rendered explanation
is empty, which it never is. -/
def explain (c : Classifier) (key : FlowKey) (generation : FlowGeneration) (tick again : Tick) :
    Result Bytes × Classifier :=
  let query : ClassificationQuery :=
    { flowKey := key, flowGeneration := generation, explain := true,
      acceptCurrentGeneration := generation == 0 }
  match c.classify query tick with
  | (.error e, c) => (.error e, c)
  | (.ok result, c) =>
    if result.explanation.isEmpty then
      match c.findFlow key with
      | (.error e, c) => (.error e, c)
      | (.ok flow, c) =>
        (.ok (renderExplanation result.classification
          (c.decisionInput flow result.classification.flowGeneration again)), c)
    else (.ok result.explanation, c)

section Restore

variable (image : DurableState)

def restorePublishers (tick : Tick) (c : Classifier) : Result Unit × Classifier :=
  let (result, publishers) := c.publishers.restoreRecords image.publishers tick
  (result, { c with publishers := publishers })

def restoreWorkload (c : Classifier) (record : WorkloadRecord) : Result Unit × Classifier :=
  let (result, workloads) := c.workloads.restoreWorkload record
  (result, { c with workloads := workloads })

def restoreContract (c : Classifier) (contract : WorkloadContract) :
    Result Unit × Classifier :=
  let (result, workloads) := c.workloads.restoreContract contract
  (result, { c with workloads := workloads })

def restoreFlow (c : Classifier) (record : FlowRecord) : Result Unit × Classifier :=
  let (result, flows) := c.flows.restoreFlow record
  (result, { c with flows := flows })

def restoreEvidence (c : Classifier) (record : EvidenceRecord) : Result Unit × Classifier :=
  let (result, evidence) := c.evidence.restoreRecord record
  (result, { c with evidence := evidence })

/-- The recorded decisions, revocations and supersessions; none of these can fail. -/
def restoreDecisions (c : Classifier) : Classifier :=
  let decisions := image.classifications.foldl (·.restoreClassification ·) c.decisions
  let decisions := image.revocations.foldl (·.restoreRevocation ·) decisions
  { c with decisions := image.supersessions.foldl (·.restoreSupersession ·) decisions }

/-- `restore`. The epoch and the sequence are raised first and never lowered; the
sessions are cleared last and only when everything before succeeded. -/
def restore (c : Classifier) (boot : CoordinatorBootId) (tick : Tick) :
    Result Unit × Classifier :=
  let c :=
    { c with
      coordinatorBoot := boot
      epoch := if image.epoch > c.epoch then image.epoch else c.epoch
      sequence := c.sequence.observe image.sequenceHighWater }
  andThen (restorePublishers image tick c) fun c =>
  andThen (tryEach restoreWorkload c image.workloads) fun c =>
  andThen (tryEach restoreContract c image.contracts) fun c =>
  andThen (tryEach restoreFlow c image.flows) fun c =>
  andThen (tryEach restoreEvidence c image.evidence) fun c =>
    let c := restoreDecisions image c
    (.ok (), { c with publishers := c.publishers.clearSessions })

end Restore

end Classifier
end FlowClassifier
