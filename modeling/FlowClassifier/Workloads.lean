import FlowClassifier.Evidence
import FlowClassifier.Flows

/-!
Publishers, workloads and workload contracts. A contract is immutable once proposed;
its definition digest covers every field that affects its meaning and leaves out its
position in the lifecycle.
-/
namespace FlowClassifier.Workloads

open Foundation Buffers Evidence Flows

inductive PublisherState where
  | registered | live | idle | dead
  deriving DecidableEq

def PublisherState.toString : PublisherState → Bytes
  | registered => text "REGISTERED"
  | live => text "LIVE"
  | idle => text "IDLE"
  | dead => text "DEAD"

structure PublisherRegistration where
  id : PublisherId
  boot : PublisherBootId
  registeredEpoch : CoordinatorEpoch := 0
  registeredBoot : CoordinatorBootId := 0
  session : SessionId := .none
  state : PublisherState := .registered
  maxSource : EvidenceSource := .heuristic
  liveSessions : List SessionId := []
  registeredTick : Tick := tickNone
  lastSeenTick : Tick := tickNone
  highestGeneration : EvidenceGeneration := 0
  sessionsOpened : UInt64 := 0
  description : Bytes := []

/-- The durable part of a publisher; liveness is not part of it. -/
structure PublisherRecord where
  id : PublisherId
  highestBoot : PublisherBootId
  highestGeneration : EvidenceGeneration := 0
  maxSource : EvidenceSource := .heuristic
  firstSeenTick : Tick := tickNone
  lastSeenWallMillis : UInt64 := 0
  totalEvidenceAccepted : UInt64 := 0
  description : Bytes := []

inductive WorkloadState where
  | declared | active | retired
  deriving DecidableEq

structure WorkloadRecord where
  id : WorkloadId
  owner : PublisherId
  generation : WorkloadGeneration
  state : WorkloadState := .declared
  activeContract : ContractId := .none
  declaredTick : Tick := tickNone
  activatedTick : Tick := tickNone
  retiredTick : Tick := tickNone
  description : Bytes := []

inductive ContractState where
  | pending | active | retired
  deriving DecidableEq

namespace ContractState

def code : ContractState → UInt8
  | pending => 0
  | active => 1
  | retired => 2

def toString : ContractState → Bytes
  | pending => text "PENDING"
  | active => text "ACTIVE"
  | retired => text "RETIRED"

theorem code_injective : Function.Injective code := by
  intro a b h
  cases a <;> cases b <;> first | rfl | exact absurd h (by decide)

end ContractState

def WorkloadState.code : WorkloadState → UInt8
  | declared => 0
  | active => 1
  | retired => 2

structure WorkloadContract where
  id : ContractId
  workload : WorkloadId
  workloadGeneration : WorkloadGeneration := 0
  owner : PublisherId := .none
  state : ContractState := .pending
  declaredClass : SemanticClass := .unknown
  remoteScope : List IpAddress := []
  localPortScope : List UInt16 := []
  remotePort : UInt16 := 0
  transport : TransportProtocol := .unknown
  matchAnyRemoteAddress : Bool := false
  derivedSource : EvidenceSource := .contractDerived
  definitionDigest : Digest256 := .zero
  createdTick : Tick := tickNone
  activatedTick : Tick := tickNone
  retiredTick : Tick := tickNone
  description : Bytes := []

def contractDigestChunks (c : WorkloadContract) : List Bytes :=
  [u8Bytes 1,
   blobBytes c.id.value,
   blobBytes c.workload.value,
   u64Bytes c.workloadGeneration,
   blobBytes c.owner.value,
   u16Bytes c.declaredClass.code,
   boolBytes c.matchAnyRemoteAddress,
   countBytes c.remoteScope.length] ++
  c.remoteScope.map (fun address => blobBytes address.bytes.toList) ++
  [countBytes c.localPortScope.length] ++
  c.localPortScope.map u16Bytes ++
  [u16Bytes c.remotePort,
   u8Bytes c.transport.code,
   u8Bytes c.derivedSource.code,
   blobBytes c.description]

def computeContractDigest (c : WorkloadContract) : Digest256 :=
  digestOfChunks (contractDigestChunks c)

def contractCovers (c : WorkloadContract) (key : FlowKey) : Bool :=
  (c.transport == .unknown || c.transport == key.transport) &&
  (c.remotePort == 0 || c.remotePort == key.remotePort) &&
  (c.matchAnyRemoteAddress || c.remoteScope.contains key.remoteAddress) &&
  (c.localPortScope.isEmpty || c.localPortScope.contains key.localPort)

end FlowClassifier.Workloads
