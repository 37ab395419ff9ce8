import FlowClassifier.Classifications
import FlowClassifier.Policies
import FlowClassifier.Workloads

/-!
The canonical codecs of the domain records. An encoder is the list of chunks it appends,
in the order in which it appends them; a decoder reads the same layout back and treats its
input as hostile: strings and collections are bounded, identities must be canonical, and
what a record derives from its own content is derived again and compared.
-/
namespace FlowClassifier.Codec

open Lib Foundation Buffers Evidence Flows Workloads Classifications Policies

def headerField (data : Bytes) (offset width : ℕ) : ℕ :=
  ofLeBytes ((data.drop offset).take width)

/-- A field of a header, by what stands before it. -/
theorem headerField_at {data a f b : Bytes} {offset width : ℕ} (hdata : data = a ++ (f ++ b))
    (hoffset : a.length = offset) (hwidth : f.length = width) :
    headerField data offset width = ofLeBytes f := by
  subst hdata hoffset hwidth
  rw [headerField, List.drop_left, List.take_left]

theorem ofLeBytes_u16Bytes (v : UInt16) : ofLeBytes (u16Bytes v) = v.toNat :=
  ofLeBytes_leBytes 2 _ v.toNat_lt

theorem ofLeBytes_u32Bytes (v : UInt32) : ofLeBytes (u32Bytes v) = v.toNat :=
  ofLeBytes_leBytes 4 _ v.toNat_lt

theorem ofLeBytes_u64Bytes (v : UInt64) : ofLeBytes (u64Bytes v) = v.toNat :=
  ofLeBytes_leBytes 8 _ v.toNat_lt

/-- A field that has arrived does not change with what comes after it. -/
theorem headerField_append {data : Bytes} {offset width : ℕ} (h : offset + width ≤ data.length)
    (more : Bytes) : headerField (data ++ more) offset width = headerField data offset width := by
  have hoffset : offset ≤ data.length := by omega
  rw [headerField, headerField, List.drop_append_of_le_length hoffset,
    List.take_append_of_le_length]
  rw [List.length_drop]
  omega

structure CodecLimits where
  maxStringBytes : ℕ := Buffers.maxStringBytes
  maxBlobBytes : ℕ := Buffers.maxBlobBytes
  maxCollectionCount : ℕ := Buffers.maxCollectionCount

def CodecLimits.of (limits : ResourceLimits) : CodecLimits where
  maxStringBytes := limits.effective.maxStringBytes.toNat
  maxBlobBytes := limits.effective.maxBlobBytes.toNat
  maxCollectionCount := limits.effective.maxCollectionCount.toNat

variable (limits : CodecLimits)

def getString : Reader Bytes := getBlob limits.maxStringBytes

def getLongString (maxLength : ℕ) : Reader Bytes := getBlob maxLength

def remaining : Reader ℕ := fun input => .ok (input.length, input)

def skipVersion (expected : UInt8) (what : Bytes) : Reader Unit := do
  let version ← getU8
  failIf (version ≠ expected) .unsupportedVersion
    (what ++ text " schema version " ++ decimal version.toNat ++
      text " is not supported by this build")

/-- An identity field. A required one must be canonical, an optional one may be empty. -/
def decodeIdentity (kind : IdKind) (required : Bool) (refusal : Bytes → Bytes) :
    Reader (StringId kind) := do
  let value ← getString limits
  failIf ((required || !value.isEmpty) && !isCanonicalIdentity value) .malformedRecord
    (refusal value)
  return .make value

def decodePublisherId : Reader PublisherId :=
  decodeIdentity limits .publisher true (text "publisher identity is not canonical: " ++ ·)

def decodeWorkloadId : Reader WorkloadId :=
  decodeIdentity limits .workload false (text "workload identity is not canonical: " ++ ·)

def decodeContractId : Reader ContractId :=
  decodeIdentity limits .contract false (text "contract identity is not canonical: " ++ ·)

def decodeSessionId : Reader SessionId :=
  decodeIdentity limits .session false (text "session identity is not canonical: " ++ ·)

def decodeEvidenceField (required : Bool) (refusal : Bytes) : Reader EvidenceId :=
  decodeIdentity limits .evidence required fun _ => refusal

/-- Two evidence identities that are both read before either is looked at. -/
def decodeEvidencePair (refusal : Bytes) : Reader (EvidenceId × EvidenceId) := do
  let left ← getString limits
  let right ← getString limits
  failIf (!isCanonicalIdentity left || !isCanonicalIdentity right) .malformedRecord refusal
  return (.make left, .make right)

def decodeSemantic : Reader SemanticClass := SemanticClass.decode <$> getU16

def decodeSource : Reader EvidenceSource := EvidenceSource.decode <$> getU8

def decodeTransport : Reader TransportProtocol := TransportProtocol.decode <$> getU8

/-- An unrecognised state is the weakest one. -/
def evidenceStateOf (code : UInt8) : EvidenceState :=
  match code.toNat with
  | 0 => .none
  | 1 => .current
  | 2 => .stale
  | 3 => .superseded
  | 4 => .revoked
  | 5 => .insufficient
  | _ => .rejected

def decodeState : Reader EvidenceState := evidenceStateOf <$> getU8

def classificationStateOf (code : UInt8) : ClassificationState :=
  match code.toNat with
  | 0 => .unknown
  | 1 => .current
  | 2 => .corroborated
  | 3 => .contradicted
  | 4 => .stale
  | 6 => .revoked
  | _ => .insufficient

def decodeClassificationState : Reader ClassificationState := classificationStateOf <$> getU8

def dispositionOf (code : UInt8) : EvidenceDisposition :=
  match code.toNat with
  | 0 => .selected
  | 1 => .corroborating
  | 2 => .contradicting
  | 3 => .subordinate
  | 4 => .stale
  | 5 => .withdrawn
  | 6 => .revoked
  | 8 => .excludedByLimit
  | 9 => .belowThreshold
  | _ => .rejected

def decodeDisposition : Reader EvidenceDisposition := dispositionOf <$> getU8

def decodeLifecycle {α : Type} (declared active retired : α) (refusal : Bytes) : Reader α := do
  let code ← getU8
  failIf (code > 2) .corruptState refusal
  return if code = 0 then declared else if code = 1 then active else retired

def decodeWorkloadState : Reader WorkloadState :=
  decodeLifecycle .declared .active .retired (text "persisted workload state is undefined")

def decodeContractState : Reader ContractState :=
  decodeLifecycle .pending .active .retired (text "persisted contract state is undefined")

def fixed? (size : ℕ) (raw : Bytes) : Option (List.Vector UInt8 size) :=
  if h : raw.length = size then some ⟨raw, h⟩ else none

def decodeFixed (size : ℕ) (refusal : ℕ → Bytes) : Reader (List.Vector UInt8 size) := do
  let raw ← getBlob size
  match fixed? size raw with
  | some field => return field
  | none => throw ⟨.malformedRecord, refusal raw.length⟩

def decodeAddress (refusal : ℕ → Bytes) : Reader IpAddress :=
  IpAddress.mk <$> decodeFixed 16 refusal

def encodeFlowKey (key : FlowKey) : List Bytes :=
  [u8Bytes key.transport.code,
   blobBytes key.localAddress.bytes.toList,
   blobBytes key.remoteAddress.bytes.toList,
   u16Bytes key.localPort,
   u16Bytes key.remotePort]

def addressRefusal (seen : ℕ) : Bytes :=
  text "address field must be exactly 16 bytes, saw " ++ decimal seen

def decodeFlowKey : Reader FlowKey := do
  let transport ← decodeTransport
  let localAddress ← decodeAddress addressRefusal
  let remoteAddress ← decodeAddress addressRefusal
  let localPort ← getU16
  let remotePort ← getU16
  return { transport, localAddress, remoteAddress, localPort, remotePort }

def encodeId128 (id : Id128) : List Bytes := [u64Bytes id.hi, u64Bytes id.lo]

def decodeId128 : Reader Id128 := do
  let hi ← getU64
  let lo ← getU64
  return { hi, lo }

def encodeDigest (digest : Digest256) : Bytes := blobBytes digest.bytes.toList

def decodeDigest : Reader Digest256 :=
  Digest256.mk <$> decodeFixed 32 fun _ => text "digest field must be exactly 32 bytes"

def encodeConfidence (confidence : Confidence) : Bytes :=
  u32Bytes (UInt32.ofNat confidence.basisPoints)

/-- A confidence above the scale is refused and not clamped. -/
def decodeConfidence : Reader Confidence := do
  let basisPoints ← getU32
  failIf (basisPoints.toNat > Confidence.scale) .malformedRecord
    (text "confidence basis points " ++ decimal basisPoints.toNat ++
      text " exceed the fixed point scale of " ++ decimal Confidence.scale)
  return .ofBasisPoints basisPoints.toNat

def encodeEvidenceRecord (record : EvidenceRecord) : List Bytes :=
  [u8Bytes 1,
   blobBytes record.id.value,
   blobBytes record.publisher.value,
   u64Bytes record.publisherBoot,
   blobBytes record.session.value,
   u64Bytes record.acceptedEpoch,
   u64Bytes record.acceptedBoot,
   blobBytes record.workload.value,
   u64Bytes record.workloadGeneration,
   blobBytes record.contract.value] ++
  encodeId128 record.flowId ++
  [u64Bytes record.flowGeneration,
   u64Bytes record.generation,
   u64Bytes record.acceptedSeq,
   u64Bytes record.acceptedTick,
   u64Bytes record.freshUntil,
   u16Bytes record.semantic.code,
   u8Bytes record.source.code,
   u8Bytes record.state.code,
   encodeConfidence record.confidence,
   blobBytes record.metadata.topic,
   u64Bytes record.metadata.binding,
   blobBytes record.metadata.reason,
   blobBytes record.metadata.contract.value,
   encodeDigest record.contentDigest,
   blobBytes record.stateReason]

/-- The content is compared with the digest the record carries. -/
def decodeEvidenceRecord : Reader EvidenceRecord := do
  skipVersion 1 (text "evidence record")
  let id ← decodeEvidenceField limits true (text "evidence identity is not canonical")
  let publisher ← decodePublisherId limits
  let publisherBoot ← getU64
  let session ← decodeSessionId limits
  let acceptedEpoch ← getU64
  let acceptedBoot ← getU64
  let workload ← decodeWorkloadId limits
  let workloadGeneration ← getU64
  let contract ← decodeContractId limits
  let flowId ← decodeId128
  let flowGeneration ← getU64
  let generation ← getU64
  let acceptedSeq ← getU64
  let acceptedTick ← getU64
  let freshUntil ← getU64
  let semantic ← decodeSemantic
  let source ← decodeSource
  let state ← decodeState
  let confidence ← decodeConfidence
  let topic ← getString limits
  let binding ← getU64
  let reason ← getString limits
  let metadataContract ← decodeContractId limits
  let contentDigest ← decodeDigest
  let stateReason ← getString limits
  let record : EvidenceRecord :=
    { id, publisher, publisherBoot, session, acceptedEpoch, acceptedBoot, workload,
      workloadGeneration, contract, flowId, flowGeneration, generation, acceptedSeq,
      acceptedTick, freshUntil, semantic, source, state, confidence,
      metadata := { topic, binding, reason, contract := metadataContract },
      contentDigest, stateReason }
  failIf (computeEvidenceDigest record ≠ record.contentDigest) .integrityFailure
    (text "evidence " ++ record.id.value ++ text " content does not match its recorded digest")
  return record

def encodeFlowRecord (record : FlowRecord) : List Bytes :=
  [u8Bytes 1] ++ encodeId128 record.id ++ encodeFlowKey record.key ++
  [u64Bytes record.generation,
   u64Bytes record.registeredSeq,
   u64Bytes record.registeredTick,
   u64Bytes record.lastActivityTick,
   blobBytes record.registeredBy.value,
   u64Bytes record.renewals]

/-- A record cannot carry an identity that does not belong to its key. -/
def decodeFlowRecord : Reader FlowRecord := do
  skipVersion 1 (text "flow record")
  let id ← decodeId128
  let key ← decodeFlowKey
  let generation ← getU64
  let registeredSeq ← getU64
  let registeredTick ← getU64
  let lastActivityTick ← getU64
  let registeredBy ← decodeSessionId limits
  let renewals ← getU64
  let record : FlowRecord :=
    { id, key, generation, registeredSeq, registeredTick, lastActivityTick, registeredBy,
      renewals }
  failIf (deriveFlowId record.key ≠ record.id) .corruptState
    (text "persisted flow identity does not match the identity derived from its key")
  failIf (record.generation = 0) .corruptState (text "persisted flow generation is zero")
  return record

def encodePublisherRecord (record : PublisherRecord) : List Bytes :=
  [u8Bytes 1,
   blobBytes record.id.value,
   u64Bytes record.highestBoot,
   u64Bytes record.highestGeneration,
   u8Bytes record.maxSource.code,
   u64Bytes record.firstSeenTick,
   u64Bytes record.lastSeenWallMillis,
   u64Bytes record.totalEvidenceAccepted,
   blobBytes record.description]

def decodePublisherRecord : Reader PublisherRecord := do
  skipVersion 1 (text "publisher record")
  let id ← decodePublisherId limits
  let highestBoot ← getU64
  let highestGeneration ← getU64
  let maxSource ← decodeSource
  let firstSeenTick ← getU64
  let lastSeenWallMillis ← getU64
  let totalEvidenceAccepted ← getU64
  let description ← getString limits
  return { id, highestBoot, highestGeneration, maxSource, firstSeenTick, lastSeenWallMillis,
           totalEvidenceAccepted, description }

def encodeWorkloadRecord (record : WorkloadRecord) : List Bytes :=
  [u8Bytes 1,
   blobBytes record.id.value,
   blobBytes record.owner.value,
   u64Bytes record.generation,
   u8Bytes record.state.code,
   blobBytes record.activeContract.value,
   u64Bytes record.declaredTick,
   u64Bytes record.activatedTick,
   u64Bytes record.retiredTick,
   blobBytes record.description]

def decodeWorkloadRecord : Reader WorkloadRecord := do
  skipVersion 1 (text "workload record")
  let id ← decodeWorkloadId limits
  let owner ← decodePublisherId limits
  let generation ← getU64
  failIf (generation = 0) .corruptState (text "persisted workload generation is zero")
  let state ← decodeWorkloadState
  let activeContract ← decodeContractId limits
  let declaredTick ← getU64
  let activatedTick ← getU64
  let retiredTick ← getU64
  let description ← getString limits
  return { id, owner, generation, state, activeContract, declaredTick, activatedTick,
           retiredTick, description }

def encodeContract (contract : WorkloadContract) : List Bytes :=
  [u8Bytes 1,
   blobBytes contract.id.value,
   blobBytes contract.workload.value,
   u64Bytes contract.workloadGeneration,
   blobBytes contract.owner.value,
   u8Bytes contract.state.code,
   u16Bytes contract.declaredClass.code,
   boolBytes contract.matchAnyRemoteAddress,
   countBytes contract.remoteScope.length] ++
  contract.remoteScope.map (fun address => blobBytes address.bytes.toList) ++
  [countBytes contract.localPortScope.length] ++
  contract.localPortScope.map u16Bytes ++
  [u16Bytes contract.remotePort,
   u8Bytes contract.transport.code,
   u8Bytes contract.derivedSource.code,
   encodeDigest contract.definitionDigest,
   u64Bytes contract.createdTick,
   u64Bytes contract.activatedTick,
   u64Bytes contract.retiredTick,
   blobBytes contract.description]

/-- A missing digest is filled in; one that is present must match. -/
def decodeContract : Reader WorkloadContract := do
  skipVersion 1 (text "workload contract")
  let id ← decodeContractId limits
  let workload ← decodeWorkloadId limits
  let workloadGeneration ← getU64
  let owner ← decodePublisherId limits
  let state ← decodeContractState
  let declaredClass ← decodeSemantic
  let matchAnyRemoteAddress ← getBool
  let remoteCount ← getCount limits.maxCollectionCount
  let remoteScope ← (decodeAddress fun _ =>
    text "contract scope address must be exactly 16 bytes").many remoteCount
  let portCount ← getCount limits.maxCollectionCount
  let localPortScope ← getU16.many portCount
  let remotePort ← getU16
  let transport ← decodeTransport
  let derivedSource ← decodeSource
  let definitionDigest ← decodeDigest
  let createdTick ← getU64
  let activatedTick ← getU64
  let retiredTick ← getU64
  let description ← getString limits
  let contract : WorkloadContract :=
    { id, workload, workloadGeneration, owner, state, declaredClass, matchAnyRemoteAddress,
      remoteScope, localPortScope, remotePort, transport, derivedSource, definitionDigest,
      createdTick, activatedTick, retiredTick, description }
  let recomputed := computeContractDigest contract
  failIf (contract.definitionDigest ≠ .zero ∧ recomputed ≠ contract.definitionDigest)
    .integrityFailure (text "contract " ++ contract.id.value ++
      text " content does not match its recorded digest")
  return { contract with definitionDigest := recomputed }

def encodeCitation (citation : EvidenceCitation) : List Bytes :=
  [blobBytes citation.id.value,
   blobBytes citation.publisher.value,
   u8Bytes citation.source.code,
   u8Bytes citation.state.code,
   u16Bytes citation.semantic.code,
   u8Bytes citation.disposition.code,
   encodeConfidence citation.confidence,
   u64Bytes citation.generation,
   u64Bytes citation.acceptedSeq,
   u64Bytes citation.acceptedTick,
   u64Bytes citation.freshUntil,
   blobBytes citation.detail]

def decodeCitation : Reader EvidenceCitation := do
  let id ← decodeEvidenceField limits true (text "citation evidence id is not canonical")
  let publisher ← decodePublisherId limits
  let source ← decodeSource
  let state ← decodeState
  let semantic ← decodeSemantic
  let disposition ← decodeDisposition
  let confidence ← decodeConfidence
  let generation ← getU64
  let acceptedSeq ← getU64
  let acceptedTick ← getU64
  let freshUntil ← getU64
  let detail ← getString limits
  return { id, publisher, source, state, semantic, disposition, confidence, generation,
           acceptedSeq, acceptedTick, freshUntil, detail }

def encodeContradiction (contradiction : ClassificationContradiction) : List Bytes :=
  [blobBytes contradiction.leftId.value,
   blobBytes contradiction.rightId.value,
   u16Bytes contradiction.leftClass.code,
   u8Bytes contradiction.leftSource.code,
   u16Bytes contradiction.rightClass.code,
   u8Bytes contradiction.rightSource.code,
   blobBytes contradiction.resolvedBy]

def decodeContradiction : Reader ClassificationContradiction := do
  let (leftId, rightId) ←
    decodeEvidencePair limits (text "contradiction citation id is not canonical")
  let leftClass ← decodeSemantic
  let leftSource ← decodeSource
  let rightClass ← decodeSemantic
  let rightSource ← decodeSource
  let resolvedBy ← getString limits
  return { leftId, rightId, leftClass, leftSource, rightClass, rightSource, resolvedBy }

def encodeClassification (c : Classification) : List Bytes :=
  [u8Bytes 1] ++ encodeId128 c.flowId ++
  [u64Bytes c.flowGeneration,
   u16Bytes c.semantic.code,
   u8Bytes c.state.code,
   encodeConfidence c.confidence,
   blobBytes c.selectedEvidence.value,
   u8Bytes c.selectedSource.code,
   countBytes c.corroborationCount,
   u32Bytes c.appliedPenaltyBasisPoints,
   u64Bytes c.policyGeneration,
   encodeDigest c.policyDigest,
   u64Bytes c.coordinatorEpoch,
   u64Bytes c.coordinatorBoot,
   u64Bytes c.decidedTick,
   encodeDigest c.digest,
   countBytes c.citations.length] ++
  c.citations.flatMap encodeCitation ++
  [countBytes c.contradictions.length] ++
  c.contradictions.flatMap encodeContradiction

def decodeClassification : Reader Classification := do
  skipVersion 1 (text "classification")
  let flowId ← decodeId128
  let flowGeneration ← getU64
  let semantic ← decodeSemantic
  let state ← decodeClassificationState
  let confidence ← decodeConfidence
  let selectedEvidence ←
    decodeEvidenceField limits false (text "selected evidence id is not canonical")
  let selectedSource ← decodeSource
  let corroborationCount ← getU32
  let appliedPenaltyBasisPoints ← getU32
  let policyGeneration ← getU64
  let policyDigest ← decodeDigest
  let coordinatorEpoch ← getU64
  let coordinatorBoot ← getU64
  let decidedTick ← getU64
  let digest ← decodeDigest
  let citationCount ← getCount limits.maxCollectionCount
  let citations ← (decodeCitation limits).many citationCount
  let contradictionCount ← getCount limits.maxCollectionCount
  let contradictions ← (decodeContradiction limits).many contradictionCount
  return { flowId, flowGeneration, semantic, state, confidence, selectedEvidence,
           selectedSource, corroborationCount := corroborationCount.toNat,
           appliedPenaltyBasisPoints, policyGeneration, policyDigest, coordinatorEpoch,
           coordinatorBoot, decidedTick, digest, citations, contradictions }

def encodeRevocation (record : RevocationRecord) : List Bytes :=
  [u8Bytes 1] ++ encodeId128 record.flowId ++
  [u64Bytes record.flowGeneration,
   blobBytes record.evidenceId.value,
   blobBytes record.revokedBySession.value,
   blobBytes record.revokedByPublisher.value,
   u64Bytes record.epoch,
   u64Bytes record.seq,
   u64Bytes record.revokedTick,
   blobBytes record.reason]

def decodeRevocation : Reader RevocationRecord := do
  skipVersion 1 (text "revocation record")
  let flowId ← decodeId128
  let flowGeneration ← getU64
  let evidenceId ←
    decodeEvidenceField limits false (text "revocation evidence id is not canonical")
  let revokedBySession ← decodeSessionId limits
  let revokedByPublisher ← decodePublisherId limits
  let epoch ← getU64
  let seq ← getU64
  let revokedTick ← getU64
  let reason ← getString limits
  return { flowId, flowGeneration, evidenceId, revokedBySession, revokedByPublisher, epoch,
           seq, revokedTick, reason }

def encodeSupersession (record : SupersessionRecord) : List Bytes :=
  [u8Bytes 1,
   blobBytes record.previousId.value,
   blobBytes record.replacementId.value,
   u64Bytes record.previousGeneration,
   u64Bytes record.replacementGeneration,
   blobBytes record.publisher.value,
   u64Bytes record.seq,
   u64Bytes record.recordedTick]

def decodeSupersession : Reader SupersessionRecord := do
  skipVersion 1 (text "supersession record")
  let (previousId, replacementId) ←
    decodeEvidencePair limits (text "supersession evidence id is not canonical")
  let previousGeneration ← getU64
  let replacementGeneration ← getU64
  let publisher ← decodePublisherId limits
  let seq ← getU64
  let recordedTick ← getU64
  return { previousId, replacementId, previousGeneration, replacementGeneration, publisher,
           seq, recordedTick }

def encodeAdapter (adapter : HeuristicAdapterPolicy) : List Bytes :=
  [blobBytes adapter.name, boolBytes adapter.enabled, u32Bytes adapter.maxBasisPoints,
   u32Bytes adapter.priority]

def decodeAdapter : Reader HeuristicAdapterPolicy := do
  let name ← getString limits
  let enabled ← getBool
  let maxBasisPoints ← getU32
  let priority ← getU32
  return { name, enabled, maxBasisPoints, priority }

def encodeHint (hint : PortHint) : List Bytes :=
  [u8Bytes hint.transport.code, u16Bytes hint.port, u16Bytes hint.semantic.code,
   u32Bytes hint.basisPoints, blobBytes hint.adapter]

def decodeHint : Reader PortHint := do
  let transport ← decodeTransport
  let port ← getU16
  let semantic ← decodeSemantic
  let basisPoints ← getU32
  let adapter ← getString limits
  return { transport, port, semantic, basisPoints, adapter }

def encodePolicy (policy : ClassifierPolicy) : List Bytes :=
  [u8Bytes 1,
   u64Bytes policy.generation,
   boolBytes policy.allowHeuristicEvidence,
   u64Bytes policy.defaultFreshnessWindow,
   u32Bytes policy.contradictionPenalty,
   u32Bytes policy.minimumPublishableConfidence,
   u32Bytes policy.maxEvidenceConsidered] ++
  (limitFields policy.limits).map u64Bytes ++
  [countBytes policy.heuristicAdapters.length] ++
  policy.heuristicAdapters.flatMap encodeAdapter ++
  [countBytes policy.portHints.length] ++
  policy.portHints.flatMap encodeHint

def limitsOfFields (fields : List UInt64) : ResourceLimits :=
  let at' := fun i => fields.getD i 0
  { maxFlows := (at' 0).toUInt32
    maxPublishers := (at' 1).toUInt32
    maxWorkloads := (at' 2).toUInt32
    maxContracts := (at' 3).toUInt32
    maxPendingContracts := (at' 4).toUInt32
    maxSessions := (at' 5).toUInt32
    maxConfigOverrides := (at' 6).toUInt32
    maxEvidencePerFlow := (at' 7).toUInt32
    maxEvidenceRecords := (at' 8).toUInt32
    maxDecisionsPerFlow := (at' 9).toUInt32
    maxContradictionsPerFlow := (at' 10).toUInt32
    maxContradictions := (at' 11).toUInt32
    maxSupersessions := (at' 12).toUInt32
    maxRevocations := (at' 13).toUInt32
    maxFlowKeyIndex := (at' 14).toUInt32
    maxFramePayload := (at' 15).toUInt32
    maxStringBytes := (at' 16).toUInt32
    maxBlobBytes := (at' 17).toUInt32
    maxCollectionCount := (at' 18).toUInt32
    maxBatchKeys := (at' 19).toUInt32
    maxWorkers := (at' 20).toUInt32
    maxQueueDepth := (at' 21).toUInt32
    maxInflightRequests := (at' 22).toUInt32
    maxRetryAttempts := (at' 23).toUInt32
    defaultFreshnessWindow := at' 24
    maxSessionIdleTicks := at' 25 }

def firstWide (fields : List UInt64) : Option ℕ :=
  (fields.take 24).findIdx? fun v => v > 0xFFFFFFFF

def decodedPolicy (policy : ClassifierPolicy) : Reader ClassifierPolicy :=
  match ClassifierPolicy.canonicalize policy with
  | .ok canonical => return canonical
  | .error e => throw ⟨.corruptState, text "persisted policy is not valid: " ++ e.message⟩

def decodePolicy : Reader ClassifierPolicy := do
  skipVersion 1 (text "classifier policy")
  let generation ← getU64
  let allowHeuristicEvidence ← getBool
  let defaultFreshnessWindow ← getU64
  let contradictionPenalty ← getU32
  let minimumPublishableConfidence ← getU32
  let maxEvidenceConsidered ← getU32
  let fields ← getU64.many 26
  failIf ((firstWide fields).isSome = true) .corruptState
    (text "persisted resource limit " ++ decimal ((firstWide fields).getD 0) ++
      text " does not fit in 32 bits")
  let adapterCount ← getCount limits.maxCollectionCount
  let heuristicAdapters ← (decodeAdapter limits).many adapterCount
  let hintCount ← getCount limits.maxCollectionCount
  let portHints ← (decodeHint limits).many hintCount
  decodedPolicy
    { generation, limits := limitsOfFields fields, allowHeuristicEvidence,
      defaultFreshnessWindow, contradictionPenalty, minimumPublishableConfidence,
      maxEvidenceConsidered, heuristicAdapters, portHints }

end FlowClassifier.Codec
