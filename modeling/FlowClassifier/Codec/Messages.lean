import FlowClassifier.Classifier
import FlowClassifier.Codec.Records

/-!
The messages of the wire protocol. A request is decoded from the payload of a frame, a
response is encoded into one, and the message kind of the frame is what a peer has to
tell one body from another. Every decoder reads its payload to the last byte.
-/
namespace FlowClassifier.Codec

open Lib Foundation Buffers Evidence Flows Workloads Classifications

inductive MessageKind where
  | hello | helloAck | registerPublisher | declareWorkload | proposeContract
  | activateContract | retireContract | registerFlow | publishEvidence | withdrawEvidence
  | revokeGeneration | classify | classifyResult | statsRequest | statsResponse
  | errorResponse | heartbeat | declareWorkloadResult | contractResult | registerFlowResult
  | publishEvidenceResult | withdrawResult
  deriving DecidableEq

def MessageKind.toString : MessageKind → Bytes
  | hello => text "HELLO"
  | helloAck => text "HELLO_ACK"
  | registerPublisher => text "REGISTER_PUBLISHER"
  | declareWorkload => text "DECLARE_WORKLOAD"
  | proposeContract => text "PROPOSE_CONTRACT"
  | activateContract => text "ACTIVATE_CONTRACT"
  | retireContract => text "RETIRE_CONTRACT"
  | registerFlow => text "REGISTER_FLOW"
  | publishEvidence => text "PUBLISH_EVIDENCE"
  | withdrawEvidence => text "WITHDRAW_EVIDENCE"
  | revokeGeneration => text "REVOKE_GENERATION"
  | classify => text "CLASSIFY"
  | classifyResult => text "CLASSIFY_RESULT"
  | statsRequest => text "STATS_REQUEST"
  | statsResponse => text "STATS_RESPONSE"
  | errorResponse => text "ERROR_RESPONSE"
  | heartbeat => text "HEARTBEAT"
  | declareWorkloadResult => text "DECLARE_WORKLOAD_RESULT"
  | contractResult => text "CONTRACT_RESULT"
  | registerFlowResult => text "REGISTER_FLOW_RESULT"
  | publishEvidenceResult => text "PUBLISH_EVIDENCE_RESULT"
  | withdrawResult => text "WITHDRAW_RESULT"

structure Frame where
  kind : MessageKind
  epoch : UInt64
  payload : Bytes

def errorNumber : ErrorCode → UInt32
  | .ok => 0
  | .invalidArgument => 1
  | .malformedInput => 2
  | .unsupportedVersion => 3
  | .malformedFrame => 4
  | .malformedRecord => 5
  | .trailingGarbage => 6
  | .integrityFailure => 7
  | .capacityExceeded => 8
  | .arithmeticOverflow => 9
  | .outOfRange => 10
  | .unsupportedOperation => 11
  | .counterExhausted => 12
  | .unauthenticated => 20
  | .unauthorized => 21
  | .unknownPublisher => 22
  | .unknownWorkload => 23
  | .unknownFlow => 24
  | .unknownContract => 25
  | .publisherDead => 26
  | .contractMismatch => 27
  | .contractRetired => 28
  | .evidenceWithdrawn => 29
  | .viaUntrustedChannel => 30
  | .heuristicDisabled => 31
  | .staleGeneration => 40
  | .staleBootId => 41
  | .staleEpoch => 42
  | .stalePolicyGeneration => 43
  | .staleEvidence => 44
  | .replayDetected => 45
  | .duplicateIdentity => 46
  | .revalidationRequired => 47
  | .contradictoryEvidence => 60
  | .superseded => 61
  | .revoked => 62
  | .evidenceInsufficient => 63
  | .insufficientEvidence => 64
  | .ioError => 80
  | .notFound => 81
  | .alreadyExists => 82
  | .corruptState => 83
  | .truncatedState => 84
  | .unsupportedFormatVersion => 85
  | .durabilityFailure => 86
  | .notRunning => 100
  | .alreadyRunning => 101
  | .shuttingDown => 102
  | .timeout => 103
  | .cancelled => 104
  | .connectionClosed => 105
  | .connectionReset => 106
  | .bindFailed => 107
  | .unreachable => 108
  | .sessionLimit => 109
  | .ambiguousCompletion => 110
  | .internalError => 200

def protocolVersion : UInt16 := 2
def protocolVersionMin : UInt16 := 2

def productBanner : Bytes :=
  text "AI Flow Classifier 1.0.0 (protocol 2, persistence 1, trace digest)"

variable (limits : CodecLimits)

def decodePublisher : Reader PublisherId :=
  decodeIdentity limits .publisher true fun _ => text "publisher identity is not canonical"

def decodeWorkload : Reader WorkloadId :=
  decodeIdentity limits .workload true fun _ => text "workload identity is not canonical"

def decodeContractName : Reader ContractId :=
  decodeIdentity limits .contract true fun _ => text "contract identity is not canonical"

def decodeEvidence : Reader EvidenceId :=
  decodeIdentity limits .evidence true fun _ => text "evidence identity is not canonical"

def decodeSession : Reader SessionId :=
  decodeIdentity limits .session false fun _ => text "session identity is not canonical"

inductive PeerRole where
  | publisher | client
  deriving DecidableEq

def PeerRole.code : PeerRole → UInt8
  | publisher => 1
  | client => 2

def decodePeerRole : Reader PeerRole := do
  let code ← getU8
  failIf (code ≠ 1 ∧ code ≠ 2) .malformedRecord
    (text "peer role " ++ decimal code.toNat ++ text " is not defined")
  return if code = 1 then .publisher else .client

def helloFlagRequestHeuristics : UInt32 := 1

structure HelloRequest where
  role : PeerRole := .client
  protocolVersion : UInt16 := Codec.protocolVersion
  protocolVersionMin : UInt16 := Codec.protocolVersionMin
  requestedFlags : UInt32 := 0
  clientName : Bytes := []
  publisher : PublisherId := .none

def encodeHello (hello : HelloRequest) : List Bytes :=
  [u8Bytes hello.role.code,
   u16Bytes hello.protocolVersion,
   u16Bytes hello.protocolVersionMin,
   u32Bytes hello.requestedFlags,
   blobBytes hello.clientName,
   blobBytes hello.publisher.value]

def readHello : Reader HelloRequest := do
  let role ← decodePeerRole
  let protocolVersion ← getU16
  let protocolVersionMin ← getU16
  let requestedFlags ← getU32
  let clientName ← getString limits
  let publisher ← decodeIdentity limits .publisher false fun _ =>
    text "publisher identity is not canonical"
  return { role, protocolVersion, protocolVersionMin, requestedFlags, clientName, publisher }

def decodeHello (payload : Bytes) : Result HelloRequest := decodeAll (readHello limits) payload

structure HelloResponse where
  protocolVersion : UInt16 := Codec.protocolVersion
  epoch : CoordinatorEpoch
  boot : CoordinatorBootId
  grantedSource : EvidenceSource := .heuristic
  coordinatorBanner : Bytes := []

def encodeHelloResponse (response : HelloResponse) : List Bytes :=
  [u16Bytes response.protocolVersion,
   u64Bytes response.epoch,
   u64Bytes response.boot,
   u8Bytes response.grantedSource.code,
   blobBytes response.coordinatorBanner]

def readHelloResponse : Reader HelloResponse := do
  let protocolVersion ← getU16
  let epoch ← getU64
  let boot ← getU64
  let grantedSource ← decodeSource
  let coordinatorBanner ← getString limits
  return { protocolVersion, epoch, boot, grantedSource, coordinatorBanner }

def decodeHelloResponse (payload : Bytes) : Result HelloResponse :=
  decodeAll (readHelloResponse limits) payload

structure RegisterPublisherRequest where
  publisher : PublisherId
  boot : PublisherBootId
  firstEvidenceGeneration : UInt64 := 1
  description : Bytes := []

def encodeRegisterPublisher (request : RegisterPublisherRequest) : List Bytes :=
  [blobBytes request.publisher.value,
   u64Bytes request.boot,
   u64Bytes request.firstEvidenceGeneration,
   blobBytes request.description]

def readRegisterPublisher : Reader RegisterPublisherRequest := do
  let publisher ← decodePublisher limits
  let boot ← getU64
  let firstEvidenceGeneration ← getU64
  let description ← getString limits
  return { publisher, boot, firstEvidenceGeneration, description }

def decodeRegisterPublisher (payload : Bytes) : Result RegisterPublisherRequest :=
  decodeAll (readRegisterPublisher limits) payload

structure RegisterPublisherResponse where
  session : SessionId
  epoch : CoordinatorEpoch
  boot : CoordinatorBootId
  grantedSource : EvidenceSource := .heuristic
  defaultFreshnessWindow : UInt64 := 0

def encodeRegisterPublisherResponse (response : RegisterPublisherResponse) : List Bytes :=
  [blobBytes response.session.value,
   u64Bytes response.epoch,
   u64Bytes response.boot,
   u8Bytes response.grantedSource.code,
   u64Bytes response.defaultFreshnessWindow]

def readRegisterPublisherResponse : Reader RegisterPublisherResponse := do
  let session ← decodeSession limits
  let epoch ← getU64
  let boot ← getU64
  let grantedSource ← decodeSource
  let defaultFreshnessWindow ← getU64
  return { session, epoch, boot, grantedSource, defaultFreshnessWindow }

def decodeRegisterPublisherResponse (payload : Bytes) : Result RegisterPublisherResponse :=
  decodeAll (readRegisterPublisherResponse limits) payload

structure DeclareWorkloadRequest where
  workload : WorkloadId
  generation : WorkloadGeneration
  description : Bytes := []

def encodeDeclareWorkload (request : DeclareWorkloadRequest) : List Bytes :=
  [blobBytes request.workload.value, u64Bytes request.generation, blobBytes request.description]

def readDeclareWorkload : Reader DeclareWorkloadRequest := do
  let workload ← decodeWorkload limits
  let generation ← getU64
  let description ← getString limits
  return { workload, generation, description }

def decodeDeclareWorkload (payload : Bytes) : Result DeclareWorkloadRequest :=
  decodeAll (readDeclareWorkload limits) payload

def encodeProposeContract (contract : WorkloadContract) : List Bytes := encodeContract contract

/-- `decode_propose_contract`. The digest is not part of the request. -/
def decodeProposeContract (payload : Bytes) : Result WorkloadContract := do
  let contract ← decodeAll (decodeContract limits) payload
  return { contract with definitionDigest := .zero }

def encodeContractReference (contract : ContractId) : List Bytes := [blobBytes contract.value]

def decodeContractReference (payload : Bytes) : Result ContractId :=
  decodeAll (decodeContractName limits) payload

def encodeContractResponse (contract : WorkloadContract) : List Bytes := encodeContract contract

def decodeContractResponse (payload : Bytes) : Result WorkloadContract :=
  decodeAll (decodeContract limits) payload

structure RegisterFlowRequest where
  key : FlowKey
  generation : FlowGeneration

def encodeRegisterFlow (request : RegisterFlowRequest) : List Bytes :=
  encodeFlowKey request.key ++ [u64Bytes request.generation]

def readRegisterFlow : Reader RegisterFlowRequest := do
  let key ← decodeFlowKey
  let generation ← getU64
  return { key, generation }

def decodeRegisterFlow (payload : Bytes) : Result RegisterFlowRequest :=
  decodeAll readRegisterFlow payload

structure RegisterFlowResponse where
  flowId : FlowId
  generation : FlowGeneration
  fencedPrevious : Bool := false
  previousGeneration : FlowGeneration := 0

def encodeRegisterFlowResponse (response : RegisterFlowResponse) : List Bytes :=
  encodeId128 response.flowId ++
  [u64Bytes response.generation,
   boolBytes response.fencedPrevious,
   u64Bytes response.previousGeneration]

def readRegisterFlowResponse : Reader RegisterFlowResponse := do
  let flowId ← decodeId128
  let generation ← getU64
  let fencedPrevious ← getBool
  let previousGeneration ← getU64
  return { flowId, generation, fencedPrevious, previousGeneration }

def decodeRegisterFlowResponse (payload : Bytes) : Result RegisterFlowResponse :=
  decodeAll readRegisterFlowResponse payload

def encodePublishEvidence (payload : EvidencePayload) : List Bytes :=
  [blobBytes payload.workload.value,
   u64Bytes payload.workloadGeneration,
   blobBytes payload.contract.value] ++
  encodeFlowKey payload.flowKey ++
  [u64Bytes payload.flowGeneration,
   u64Bytes payload.evidenceGeneration,
   u16Bytes payload.semantic.code,
   u8Bytes payload.claimedSource.code,
   u64Bytes payload.freshnessWindow,
   blobBytes payload.metadata.topic,
   u64Bytes payload.metadata.binding,
   blobBytes payload.metadata.reason]

def isControl (c : UInt8) : Bool := c < 0x20 || c == 0x7F

def readPublishEvidence : Reader EvidencePayload := do
  let workload ← decodeIdentity limits .workload false fun _ =>
    text "workload identity is not canonical"
  let workloadGeneration ← getU64
  let contract ← decodeIdentity limits .contract false fun _ =>
    text "contract identity is not canonical"
  let flowKey ← decodeFlowKey
  let flowGeneration ← getU64
  let evidenceGeneration ← getU64
  let semantic ← decodeSemantic
  let claimedSource ← decodeSource
  let freshnessWindow ← getU64
  let topic ← getString limits
  let binding ← getU64
  let reason ← getString limits
  failIf (reason.any isControl = true) .malformedRecord
    (text "evidence reason contains a control character")
  return { workload, workloadGeneration, contract, flowKey, flowGeneration, evidenceGeneration,
           semantic, claimedSource, freshnessWindow, metadata := { topic, binding, reason } }

def decodePublishEvidence (payload : Bytes) : Result EvidencePayload :=
  decodeAll (readPublishEvidence limits) payload

structure PublishEvidenceResponse where
  evidenceId : EvidenceId
  flowId : FlowId
  flowGeneration : FlowGeneration
  effectiveSource : EvidenceSource := .unknown
  supersededPrevious : Bool := false
  supersededId : EvidenceId := .none
  fencedFlowGeneration : Bool := false
  notes : List Bytes := []

def encodePublishEvidenceResponse (response : PublishEvidenceResponse) : List Bytes :=
  [blobBytes response.evidenceId.value] ++
  encodeId128 response.flowId ++
  [u64Bytes response.flowGeneration,
   u8Bytes response.effectiveSource.code,
   boolBytes response.supersededPrevious,
   blobBytes response.supersededId.value,
   boolBytes response.fencedFlowGeneration,
   countBytes response.notes.length] ++
  response.notes.map blobBytes

def readPublishEvidenceResponse : Reader PublishEvidenceResponse := do
  let evidenceId ← decodeEvidence limits
  let flowId ← decodeId128
  let flowGeneration ← getU64
  let effectiveSource ← decodeSource
  let supersededPrevious ← getBool
  let supersededId ←
    decodeEvidenceField limits false (text "superseded evidence id is not canonical")
  let fencedFlowGeneration ← getBool
  let noteCount ← getCount limits.maxCollectionCount
  let notes ← (getString limits).many noteCount
  return { evidenceId, flowId, flowGeneration, effectiveSource, supersededPrevious,
           supersededId, fencedFlowGeneration, notes }

def decodePublishEvidenceResponse (payload : Bytes) : Result PublishEvidenceResponse :=
  decodeAll (readPublishEvidenceResponse limits) payload

structure WithdrawEvidenceRequest where
  evidence : EvidenceId
  reason : Bytes := []

def encodeWithdrawEvidence (request : WithdrawEvidenceRequest) : List Bytes :=
  [blobBytes request.evidence.value, blobBytes request.reason]

/-- The reason is bounded by the blob limit and not by the string limit. -/
def readWithdrawEvidence : Reader WithdrawEvidenceRequest := do
  let evidence ← decodeEvidence limits
  let reason ← getLongString limits.maxBlobBytes
  return { evidence, reason }

def decodeWithdrawEvidence (payload : Bytes) : Result WithdrawEvidenceRequest :=
  decodeAll (readWithdrawEvidence limits) payload

structure RevokeGenerationRequest where
  flowId : FlowId
  generation : FlowGeneration
  reason : Bytes := []

def encodeRevokeGeneration (request : RevokeGenerationRequest) : List Bytes :=
  encodeId128 request.flowId ++ [u64Bytes request.generation, blobBytes request.reason]

def readRevokeGeneration : Reader RevokeGenerationRequest := do
  let flowId ← decodeId128
  let generation ← getU64
  let reason ← getString limits
  return { flowId, generation, reason }

def decodeRevokeGeneration (payload : Bytes) : Result RevokeGenerationRequest :=
  decodeAll (readRevokeGeneration limits) payload

structure ClassifyQueryEntry where
  key : FlowKey
  generation : FlowGeneration := 0
  explain : Bool := false

def encodeQueryEntry (entry : ClassifyQueryEntry) : List Bytes :=
  encodeFlowKey entry.key ++ [u64Bytes entry.generation, boolBytes entry.explain]

def encodeClassifyRequest (entries : List ClassifyQueryEntry) : List Bytes :=
  countBytes entries.length :: entries.flatMap encodeQueryEntry

def readQueryEntry : Reader ClassifyQueryEntry := do
  let key ← decodeFlowKey
  let generation ← getU64
  let explain ← getBool
  return { key, generation, explain }

/-- The declared count is also bounded by what the payload can hold. -/
def readClassifyRequest : Reader (List ClassifyQueryEntry) := do
  let count ← getCount limits.maxCollectionCount
  let left ← remaining
  failIf (count > left / 24 + 1) .malformedRecord
    (text "classification batch declares more entries than the payload can hold")
  readQueryEntry.many count

def decodeClassifyRequest (payload : Bytes) : Result (List ClassifyQueryEntry) :=
  decodeAll (readClassifyRequest limits) payload

structure ClassifyResponse where
  classifications : List Classification := []
  perKeyCodes : List UInt32 := []
  perKeyMessages : List Bytes := []
  explanations : List Bytes := []
  coordinatorEpoch : UInt64 := 0
  coordinatorBoot : UInt64 := 0
  succeeded : UInt32 := 0
  failed : UInt32 := 0

def encodeClassifyResponse (response : ClassifyResponse) : List Bytes :=
  [countBytes response.classifications.length] ++
  response.classifications.flatMap encodeClassification ++
  [countBytes response.perKeyCodes.length] ++
  response.perKeyCodes.map u32Bytes ++
  [countBytes response.perKeyMessages.length] ++
  response.perKeyMessages.map blobBytes ++
  [countBytes response.explanations.length] ++
  response.explanations.map blobBytes ++
  [u64Bytes response.coordinatorEpoch,
   u64Bytes response.coordinatorBoot,
   u32Bytes response.succeeded,
   u32Bytes response.failed]

/-- Messages and explanations are bounded by the blob limit. -/
def readClassifyResponse : Reader ClassifyResponse := do
  let count ← getCount limits.maxCollectionCount
  let classifications ← (decodeClassification limits).many count
  let codeCount ← getCount limits.maxCollectionCount
  let perKeyCodes ← getU32.many codeCount
  let messageCount ← getCount limits.maxCollectionCount
  let perKeyMessages ← (getLongString limits.maxBlobBytes).many messageCount
  let explanationCount ← getCount limits.maxCollectionCount
  let explanations ← (getLongString limits.maxBlobBytes).many explanationCount
  let coordinatorEpoch ← getU64
  let coordinatorBoot ← getU64
  let succeeded ← getU32
  let failed ← getU32
  return { classifications, perKeyCodes, perKeyMessages, explanations, coordinatorEpoch,
           coordinatorBoot, succeeded, failed }

def decodeClassifyResponse (payload : Bytes) : Result ClassifyResponse :=
  decodeAll (readClassifyResponse limits) payload

structure StatsResponse where
  rendered : Bytes

def encodeStatsResponse (response : StatsResponse) : List Bytes := [blobBytes response.rendered]

def readStatsResponse : Reader StatsResponse := do
  let rendered ← getLongString limits.maxBlobBytes
  return { rendered }

def decodeStatsResponse (payload : Bytes) : Result StatsResponse :=
  decodeAll (readStatsResponse limits) payload

structure ErrorResponse where
  code : UInt32
  message : Bytes

def encodeErrorResponse (response : ErrorResponse) : List Bytes :=
  [u32Bytes response.code, blobBytes response.message]

def readErrorResponse : Reader ErrorResponse := do
  let code ← getU32
  let message ← getLongString limits.maxBlobBytes
  return { code, message }

def decodeErrorResponse (payload : Bytes) : Result ErrorResponse :=
  decodeAll (readErrorResponse limits) payload

inductive ResponseBody where
  | hello (body : HelloResponse)
  | registerPublisher (body : RegisterPublisherResponse)
  | contract (body : WorkloadContract)
  | registerFlow (body : RegisterFlowResponse)
  | publishEvidence (body : PublishEvidenceResponse)
  | classify (body : ClassifyResponse)
  | stats (body : StatsResponse)
  | error (body : ErrorResponse)

def ResponseBody.chunks : ResponseBody → List Bytes
  | hello body => encodeHelloResponse body
  | registerPublisher body => encodeRegisterPublisherResponse body
  | contract body => encodeContractResponse body
  | registerFlow body => encodeRegisterFlowResponse body
  | publishEvidence body => encodePublishEvidenceResponse body
  | classify body => encodeClassifyResponse body
  | stats body => encodeStatsResponse body
  | error body => encodeErrorResponse body

def ResponseBody.encode (body : ResponseBody) : Result Bytes :=
  Buffers.encode maxFramePayload body.chunks

theorem ResponseBody.encode_eq_ok_iff {body : ResponseBody} {payload : Bytes} :
    body.encode = .ok payload ↔
      payload = body.chunks.flatten ∧ body.chunks.flatten.length ≤ maxFramePayload :=
  writeChunks_eq_ok_iff ensureFailure

structure CoordinatorResponse where
  kind : MessageKind
  payload : Bytes

/-- `make_error_response`; a message too long for a frame leaves the payload empty. -/
def makeErrorResponse (code : ErrorCode) (message : Bytes) : CoordinatorResponse where
  kind := .errorResponse
  payload :=
    match ResponseBody.encode (.error ⟨errorNumber code, message⟩) with
    | .ok payload => payload
    | .error _ => []

end FlowClassifier.Codec
