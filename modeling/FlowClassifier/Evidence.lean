import FlowClassifier.Buffers
import FlowClassifier.Hash

/-!
Semantic classes, evidence sources and evidence records. The rank and the
confidence of a record are properties of its source. The content digest covers what
a record says and not where it sits; a record too large for the encoder bound gets
the zero digest instead.
-/
namespace FlowClassifier.Evidence

open Lib Foundation Buffers Hash

inductive SemanticClass where
  | unknown | collective | trainingSync | inferenceRequest | prefillDecodeHandoff
  | kvStateTransfer | modelStateTransfer | shuffle | checkpoint | storageData
  | controlPlane | telemetry
  deriving DecidableEq

namespace SemanticClass

def code : SemanticClass → UInt16
  | unknown => 0
  | collective => 1
  | trainingSync => 2
  | inferenceRequest => 3
  | prefillDecodeHandoff => 4
  | kvStateTransfer => 5
  | modelStateTransfer => 6
  | shuffle => 7
  | checkpoint => 8
  | storageData => 9
  | controlPlane => 10
  | telemetry => 11

def toString : SemanticClass → Bytes
  | unknown => text "UNKNOWN"
  | collective => text "COLLECTIVE"
  | trainingSync => text "TRAINING_SYNC"
  | inferenceRequest => text "INFERENCE_REQUEST"
  | prefillDecodeHandoff => text "PREFILL_DECODE_HANDOFF"
  | kvStateTransfer => text "KV_STATE_TRANSFER"
  | modelStateTransfer => text "MODEL_STATE_TRANSFER"
  | shuffle => text "SHUFFLE"
  | checkpoint => text "CHECKPOINT"
  | storageData => text "STORAGE_DATA"
  | controlPlane => text "CONTROL_PLANE"
  | telemetry => text "TELEMETRY"

def builtin : List SemanticClass :=
  [unknown, collective, trainingSync, inferenceRequest, prefillDecodeHandoff,
   kvStateTransfer, modelStateTransfer, shuffle, checkpoint, storageData, controlPlane,
   telemetry]

/-- `decode_semantic_class`: a code that is not built in decodes to UNKNOWN. -/
def decode (code : UInt16) : SemanticClass :=
  (builtin.find? fun c => c.code == code).getD unknown

theorem decode_code (c : SemanticClass) : decode c.code = c := by
  cases c <;> rfl

theorem code_injective : Function.Injective code := fun a b h => by
  rw [← decode_code a, h, decode_code b]

end SemanticClass

inductive EvidenceSource where
  | unknown | declaredAuthenticated | contractDerived | coordinatorCorrelated
  | topologyCorrelated | heuristic
  deriving DecidableEq

namespace EvidenceSource

def code : EvidenceSource → UInt8
  | unknown => 0
  | declaredAuthenticated => 1
  | contractDerived => 2
  | coordinatorCorrelated => 3
  | topologyCorrelated => 4
  | heuristic => 5

def toString : EvidenceSource → Bytes
  | unknown => text "UNKNOWN"
  | declaredAuthenticated => text "DECLARED_AUTHENTICATED"
  | contractDerived => text "CONTRACT_DERIVED"
  | coordinatorCorrelated => text "COORDINATOR_CORRELATED"
  | topologyCorrelated => text "TOPOLOGY_CORRELATED"
  | heuristic => text "HEURISTIC"

def table : List EvidenceSource :=
  [unknown, heuristic, topologyCorrelated, coordinatorCorrelated, contractDerived,
   declaredAuthenticated]

/-- `decode_evidence_source`: an unknown code is the weakest source. -/
def decode (code : UInt8) : EvidenceSource :=
  (table.find? fun s => s.code == code).getD unknown

def rank : EvidenceSource → ℕ
  | unknown => 0
  | heuristic => 1
  | topologyCorrelated => 2
  | coordinatorCorrelated => 3
  | contractDerived => 4
  | declaredAuthenticated => 5

def confidence : EvidenceSource → Confidence
  | unknown => .ofBasisPoints 0
  | heuristic => .ofBasisPoints 2000
  | topologyCorrelated => .ofBasisPoints 5000
  | coordinatorCorrelated => .ofBasisPoints 7000
  | contractDerived => .ofBasisPoints 8000
  | declaredAuthenticated => .ofBasisPoints 9000

def requiresLiveSession : EvidenceSource → Bool
  | declaredAuthenticated | coordinatorCorrelated | topologyCorrelated => true
  | contractDerived | heuristic | unknown => false

def isHeuristic (s : EvidenceSource) : Bool := s == heuristic

theorem decode_code (s : EvidenceSource) : decode s.code = s := by
  cases s <;> rfl

theorem code_injective : Function.Injective code := fun a b h => by
  rw [← decode_code a, h, decode_code b]

/-- There are no ties among sources. -/
theorem rank_injective : Function.Injective rank := by
  intro a b h
  cases a <;> cases b <;> first | rfl | exact absurd h (by decide)

end EvidenceSource

inductive EvidenceState where
  | none | current | stale | superseded | revoked | insufficient | rejected
  deriving DecidableEq

namespace EvidenceState

def code : EvidenceState → UInt8
  | none => 0
  | current => 1
  | stale => 2
  | superseded => 3
  | revoked => 4
  | insufficient => 5
  | rejected => 6

def toString : EvidenceState → Bytes
  | none => text "NONE"
  | current => text "CURRENT"
  | stale => text "STALE"
  | superseded => text "SUPERSEDED"
  | revoked => text "REVOKED"
  | insufficient => text "INSUFFICIENT"
  | rejected => text "REJECTED"

theorem code_injective : Function.Injective code := by
  intro a b h
  cases a <;> cases b <;> first | rfl | exact absurd h (by decide)

def carriesAuthority (s : EvidenceState) : Bool := s == current

end EvidenceState

structure EvidenceMetadata where
  topic : Bytes := []
  binding : UInt64 := 0
  reason : Bytes := []
  contract : ContractId := .none

structure EvidenceRecord where
  id : EvidenceId := .none
  publisher : PublisherId := .none
  publisherBoot : PublisherBootId := 0
  session : SessionId := .none
  acceptedEpoch : CoordinatorEpoch := 0
  acceptedBoot : CoordinatorBootId := 0
  workload : WorkloadId := .none
  workloadGeneration : WorkloadGeneration := 0
  contract : ContractId := .none
  flowId : FlowId := {}
  flowGeneration : FlowGeneration := 0
  generation : EvidenceGeneration := 0
  acceptedSeq : Seq := 0
  acceptedTick : Tick := tickNone
  freshUntil : Tick := tickNone
  semantic : SemanticClass := .unknown
  source : EvidenceSource := .unknown
  state : EvidenceState := .current
  confidence : Confidence := .none
  metadata : EvidenceMetadata := {}
  contentDigest : Digest256 := .zero
  stateReason : Bytes := []

def EvidenceRecord.carriesAuthority (r : EvidenceRecord) : Bool := r.state.carriesAuthority

/-- SHA-256 of an encoding, or the zero digest when it passes the encoder bound. -/
def digestOfChunks (chunks : List Bytes) : Digest256 :=
  match encode maxBlobBytes chunks with
  | .ok bytes => sha256 bytes
  | .error _ => .zero

theorem digestOfChunks_fits {chunks : List Bytes} (h : chunks.flatten.length ≤ maxBlobBytes) :
    digestOfChunks chunks = sha256 chunks.flatten := by
  have hok : encode maxBlobBytes chunks = .ok chunks.flatten :=
    (writeChunks_eq_ok_iff ensureFailure).mpr ⟨rfl, h⟩
  rw [digestOfChunks, hok]

def evidenceDigestChunks (r : EvidenceRecord) : List Bytes :=
  [u8Bytes 1,
   blobBytes r.id.value,
   blobBytes r.publisher.value,
   u64Bytes r.publisherBoot,
   blobBytes r.workload.value,
   u64Bytes r.workloadGeneration,
   blobBytes r.contract.value,
   u64Bytes r.flowId.hi,
   u64Bytes r.flowId.lo,
   u64Bytes r.flowGeneration,
   u64Bytes r.generation,
   u16Bytes r.semantic.code,
   u8Bytes r.source.code,
   u32Bytes (UInt32.ofNat r.confidence.basisPoints),
   blobBytes r.metadata.topic,
   u64Bytes r.metadata.binding,
   blobBytes r.metadata.reason,
   blobBytes r.metadata.contract.value,
   u64Bytes r.freshUntil]

def computeEvidenceDigest (r : EvidenceRecord) : Digest256 :=
  digestOfChunks (evidenceDigestChunks r)

end FlowClassifier.Evidence
