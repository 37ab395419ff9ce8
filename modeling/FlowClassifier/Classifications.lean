import FlowClassifier.Evidence
import FlowClassifier.Flows
import FlowClassifier.Lib.Sorting

/-!
Classifications, citations, contradictions, revocations and supersessions. The
decision digest covers the content of a classification and leaves out when and by
which process it was made.
-/
namespace FlowClassifier.Classifications

open Lib Foundation Buffers Evidence

inductive ClassificationState where
  | unknown | current | corroborated | contradicted | stale | insufficient | revoked
  deriving DecidableEq

namespace ClassificationState

def code : ClassificationState → UInt8
  | unknown => 0
  | current => 1
  | corroborated => 2
  | contradicted => 3
  | stale => 4
  | insufficient => 5
  | revoked => 6

def toString : ClassificationState → Bytes
  | unknown => text "UNKNOWN"
  | current => text "CURRENT"
  | corroborated => text "CORROBORATED"
  | contradicted => text "CONTRADICTED"
  | stale => text "STALE"
  | insufficient => text "INSUFFICIENT"
  | revoked => text "REVOKED"

theorem code_injective : Function.Injective code := by
  intro a b h
  cases a <;> cases b <;> first | rfl | exact absurd h (by decide)

end ClassificationState

inductive EvidenceDisposition where
  | selected | corroborating | contradicting | subordinate | stale | withdrawn | revoked
  | rejected | excludedByLimit | belowThreshold
  deriving DecidableEq

namespace EvidenceDisposition

def code : EvidenceDisposition → UInt8
  | selected => 0
  | corroborating => 1
  | contradicting => 2
  | subordinate => 3
  | stale => 4
  | withdrawn => 5
  | revoked => 6
  | rejected => 7
  | excludedByLimit => 8
  | belowThreshold => 9

def toString : EvidenceDisposition → Bytes
  | selected => text "SELECTED"
  | corroborating => text "CORROBORATING"
  | contradicting => text "CONTRADICTING"
  | subordinate => text "SUBORDINATE"
  | stale => text "STALE"
  | withdrawn => text "WITHDRAWN"
  | revoked => text "REVOKED"
  | rejected => text "REJECTED"
  | excludedByLimit => text "EXCLUDED_BY_LIMIT"
  | belowThreshold => text "BELOW_THRESHOLD"

theorem code_injective : Function.Injective code := by
  intro a b h
  cases a <;> cases b <;> first | rfl | exact absurd h (by decide)

end EvidenceDisposition

structure EvidenceCitation where
  id : EvidenceId
  publisher : PublisherId
  source : EvidenceSource := .unknown
  state : EvidenceState := .none
  semantic : SemanticClass := .unknown
  disposition : EvidenceDisposition := .selected
  confidence : Confidence := .none
  generation : EvidenceGeneration := 0
  acceptedSeq : Seq := 0
  acceptedTick : Tick := tickNone
  freshUntil : Tick := tickNone
  detail : Bytes := []

structure ClassificationContradiction where
  leftId : EvidenceId
  rightId : EvidenceId
  leftClass : SemanticClass := .unknown
  leftSource : EvidenceSource := .unknown
  rightClass : SemanticClass := .unknown
  rightSource : EvidenceSource := .unknown
  resolvedBy : Bytes := []

structure Classification where
  flowId : FlowId := {}
  flowGeneration : FlowGeneration := 0
  semantic : SemanticClass := .unknown
  state : ClassificationState := .unknown
  confidence : Confidence := .none
  selectedEvidence : EvidenceId := .none
  selectedSource : EvidenceSource := .unknown
  citations : List EvidenceCitation := []
  contradictions : List ClassificationContradiction := []
  corroborationCount : ℕ := 0
  appliedPenaltyBasisPoints : UInt32 := 0
  policyGeneration : ClassifierPolicyGeneration := 0
  policyDigest : Digest256 := .zero
  coordinatorEpoch : CoordinatorEpoch := 0
  coordinatorBoot : CoordinatorBootId := 0
  decidedTick : Tick := tickNone
  digest : Digest256 := .zero

def citationDigestChunks (c : EvidenceCitation) : List Bytes :=
  [blobBytes c.id.value,
   blobBytes c.publisher.value,
   u8Bytes c.source.code,
   u8Bytes c.state.code,
   u16Bytes c.semantic.code,
   u8Bytes c.disposition.code,
   u32Bytes (UInt32.ofNat c.confidence.basisPoints),
   u64Bytes c.generation]

def contradictionDigestChunks (c : ClassificationContradiction) : List Bytes :=
  [blobBytes c.leftId.value,
   blobBytes c.rightId.value,
   u16Bytes c.leftClass.code,
   u8Bytes c.leftSource.code,
   u16Bytes c.rightClass.code,
   u8Bytes c.rightSource.code,
   blobBytes c.resolvedBy]

/-- The citations enter the digest in the order of their evidence ids. -/
def classificationDigestChunks (c : Classification) (σ : Sorter := .insertion) : List Bytes :=
  [u8Bytes 2,
   u64Bytes c.flowId.hi,
   u64Bytes c.flowId.lo,
   u64Bytes c.flowGeneration,
   u16Bytes c.semantic.code,
   u8Bytes c.state.code,
   u32Bytes (UInt32.ofNat c.confidence.basisPoints),
   blobBytes c.selectedEvidence.value,
   u8Bytes c.selectedSource.code,
   countBytes c.corroborationCount,
   u32Bytes c.appliedPenaltyBasisPoints,
   u64Bytes c.policyGeneration,
   blobBytes c.policyDigest.bytes.toList] ++
  [countBytes c.citations.length] ++
  (σ.sort (fun a b => decide (a.id < b.id)) c.citations).flatMap citationDigestChunks ++
  [countBytes c.contradictions.length] ++
  c.contradictions.flatMap contradictionDigestChunks

def computeClassificationDigest (c : Classification) (σ : Sorter := .insertion) : Digest256 :=
  digestOfChunks (classificationDigestChunks c σ)

structure RevocationRecord where
  flowId : FlowId := {}
  flowGeneration : FlowGeneration := 0
  evidenceId : EvidenceId := .none
  revokedBySession : SessionId := .none
  revokedByPublisher : PublisherId := .none
  epoch : CoordinatorEpoch := 0
  seq : Seq := 0
  revokedTick : Tick := tickNone
  reason : Bytes := []

structure SupersessionRecord where
  previousId : EvidenceId
  replacementId : EvidenceId
  previousGeneration : EvidenceGeneration := 0
  replacementGeneration : EvidenceGeneration := 0
  publisher : PublisherId := .none
  seq : Seq := 0
  recordedTick : Tick := tickNone

end FlowClassifier.Classifications
