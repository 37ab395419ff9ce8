import FlowClassifier.Evidence
import FlowClassifier.Flows
import Mathlib.Data.List.Sort

/-!
Resource limits and classifier policies. A policy is installed in its canonical
form: limits clamped to the hard bounds, adapters and hints sorted and checked. The
policy digest covers the whole content except the generation.
-/
namespace FlowClassifier.Policies

open Lib Foundation Buffers Evidence Flows

structure ResourceLimits where
  maxFlows : UInt32 := 65536
  maxPublishers : UInt32 := 1024
  maxWorkloads : UInt32 := 4096
  maxContracts : UInt32 := 4096
  maxPendingContracts : UInt32 := 1024
  maxSessions : UInt32 := 64
  maxConfigOverrides : UInt32 := 256
  maxEvidencePerFlow : UInt32 := 32
  maxEvidenceRecords : UInt32 := 262144
  maxDecisionsPerFlow : UInt32 := 8
  maxContradictionsPerFlow : UInt32 := 16
  maxContradictions : UInt32 := 65536
  maxSupersessions : UInt32 := 65536
  maxRevocations : UInt32 := 65536
  maxFlowKeyIndex : UInt32 := 131072
  maxFramePayload : UInt32 := 4194304
  maxStringBytes : UInt32 := 512
  maxBlobBytes : UInt32 := 65536
  maxCollectionCount : UInt32 := 4096
  maxBatchKeys : UInt32 := 4096
  maxWorkers : UInt32 := 8
  maxQueueDepth : UInt32 := 1024
  maxInflightRequests : UInt32 := 256
  maxRetryAttempts : UInt32 := 3
  defaultFreshnessWindow : UInt64 := 4096
  maxSessionIdleTicks : UInt64 := 65536
  deriving DecidableEq

def clampTo (value lower upper : UInt32) : UInt32 :=
  if value < lower then lower else if value > upper then upper else value

def ResourceLimits.effective (l : ResourceLimits) : ResourceLimits where
  maxFramePayload := clampTo l.maxFramePayload 64 4194304
  maxStringBytes := clampTo l.maxStringBytes 1 512
  maxBlobBytes := clampTo l.maxBlobBytes 1 65536
  maxCollectionCount := clampTo l.maxCollectionCount 1 4096
  maxBatchKeys := clampTo l.maxBatchKeys 1 4096
  maxFlows := clampTo l.maxFlows 0 4194304
  maxPublishers := clampTo l.maxPublishers 0 1048576
  maxWorkloads := clampTo l.maxWorkloads 0 1048576
  maxContracts := clampTo l.maxContracts 0 1048576
  maxPendingContracts := clampTo l.maxPendingContracts 0 1048576
  maxSessions := clampTo l.maxSessions 0 65536
  maxConfigOverrides := clampTo l.maxConfigOverrides 0 65536
  maxEvidencePerFlow := clampTo l.maxEvidencePerFlow 0 4096
  maxEvidenceRecords := clampTo l.maxEvidenceRecords 0 16777216
  maxDecisionsPerFlow := clampTo l.maxDecisionsPerFlow 0 1024
  maxContradictionsPerFlow := clampTo l.maxContradictionsPerFlow 0 4096
  maxContradictions := clampTo l.maxContradictions 0 16777216
  maxSupersessions := clampTo l.maxSupersessions 0 16777216
  maxRevocations := clampTo l.maxRevocations 0 16777216
  maxFlowKeyIndex := clampTo l.maxFlowKeyIndex 0 16777216
  maxWorkers := clampTo l.maxWorkers 0 256
  maxQueueDepth := clampTo l.maxQueueDepth 0 1048576
  maxInflightRequests := clampTo l.maxInflightRequests 0 1048576
  maxRetryAttempts := clampTo l.maxRetryAttempts 0 64
  defaultFreshnessWindow :=
    if l.defaultFreshnessWindow = 0 then 1 else l.defaultFreshnessWindow
  maxSessionIdleTicks := if l.maxSessionIdleTicks = 0 then 1 else l.maxSessionIdleTicks

structure HeuristicAdapterPolicy where
  name : Bytes
  enabled : Bool := false
  maxBasisPoints : UInt32 := 2000
  priority : UInt32 := 0
  deriving DecidableEq

structure PortHint where
  transport : TransportProtocol := .unknown
  port : UInt16 := 0
  semantic : SemanticClass := .unknown
  basisPoints : UInt32 := 500
  adapter : Bytes := []
  deriving DecidableEq

structure ClassifierPolicy where
  generation : ClassifierPolicyGeneration := 0
  limits : ResourceLimits := {}
  allowHeuristicEvidence : Bool := false
  defaultFreshnessWindow : UInt64 := 4096
  contradictionPenalty : UInt32 := 2000
  minimumPublishableConfidence : UInt32 := 1000
  maxEvidenceConsidered : UInt32 := 32
  heuristicAdapters : List HeuristicAdapterPolicy := []
  portHints : List PortHint := []
  deriving DecidableEq

namespace ClassifierPolicy

def initial : ClassifierPolicy := { generation := 1 }

def hintKey (h : PortHint) : UInt8 ×ₗ UInt16 ×ₗ UInt16 :=
  toLex (h.transport.code, toLex (h.port, h.semantic.code))

def checkScalars (p : ClassifierPolicy) : Result Unit :=
  if p.defaultFreshnessWindow = 0 then
    Status.failure .invalidArgument (text "default_freshness_window must be greater than zero")
  else if p.minimumPublishableConfidence.toNat > Confidence.scale then
    Status.failure .invalidArgument (text "minimum_publishable_confidence exceeds 1.0")
  else if p.contradictionPenalty.toNat > Confidence.scale then
    Status.failure .invalidArgument (text "contradiction_penalty exceeds 1.0")
  else if p.maxEvidenceConsidered = 0 then
    Status.failure .invalidArgument (text "max_evidence_considered must be greater than zero")
  else if p.heuristicAdapters.length > Buffers.maxCollectionCount then
    Status.failure .capacityExceeded (text "too many heuristic adapters declared")
  else if p.portHints.length > Buffers.maxCollectionCount then
    Status.failure .capacityExceeded (text "too many port hints declared")
  else .ok ()

def checkAdapter (a : HeuristicAdapterPolicy) : Result Unit :=
  if !isCanonicalIdentity a.name then
    Status.failure .malformedInput
      (text "heuristic adapter name is not a canonical identity: " ++ a.name)
  else if a.maxBasisPoints.toNat > Confidence.scale then
    Status.failure .invalidArgument (text "heuristic adapter " ++ a.name ++
      text " declares a confidence above 1.0")
  else .ok ()

def adjacent? {α : Type} (same : α → α → Bool) (xs : List α) : Option (α × α) :=
  (xs.zip xs.tail).find? fun pair => same pair.1 pair.2

def checkAdapters (adapters : List HeuristicAdapterPolicy) : Result Unit := do
  adapters.forM checkAdapter
  match adjacent? (fun a b => a.name == b.name) adapters with
  | some (_, twice) =>
    Status.failure .duplicateIdentity (text "heuristic adapter declared twice: " ++ twice.name)
  | none => .ok ()

def checkHint (h : PortHint) : Result Unit :=
  if h.basisPoints.toNat > Confidence.scale then
    Status.failure .invalidArgument (text "port hint for port " ++ decimal h.port.toNat ++
      text " declares a confidence above 1.0")
  else .ok ()

def checkHintAdapter (adapters : List HeuristicAdapterPolicy) (h : PortHint) : Result Unit :=
  if adapters.any fun a => a.name == h.adapter then .ok ()
  else Status.failure .invalidArgument (text "port hint for port " ++ decimal h.port.toNat ++
    text " names adapter '" ++ h.adapter ++ text "', which the policy does not declare")

def checkHints (adapters : List HeuristicAdapterPolicy) (hints : List PortHint) :
    Result Unit := do
  hints.forM checkHint
  match adjacent? (fun a b => hintKey a == hintKey b) hints with
  | some _ =>
    Status.failure .duplicateIdentity
      (text "port hint declared twice for the same transport, port and class")
  | none => hints.forM (checkHintAdapter adapters)

/-- Heuristics are only reachable when both switches agree. -/
def checkSwitches (p : ClassifierPolicy) : Result Unit :=
  if p.allowHeuristicEvidence then .ok ()
  else
    match p.heuristicAdapters.find? fun a => a.enabled with
    | some a => Status.failure .invalidArgument (text "heuristic adapter " ++ a.name ++
        text (" is enabled while allow_heuristic_evidence is false; " ++
          "the policy is contradictory"))
    | none =>
      if p.portHints.isEmpty then .ok ()
      else Status.failure .invalidArgument (text
        ("port hints are declared while allow_heuristic_evidence is false; " ++
          "the policy is contradictory"))

def canonicalForm (p : ClassifierPolicy) : ClassifierPolicy :=
  { p with
    limits := p.limits.effective
    heuristicAdapters := p.heuristicAdapters.insertionSort fun a b => a.name ≤ b.name
    portHints := p.portHints.insertionSort fun a b => hintKey a ≤ hintKey b }

def canonicalize (p : ClassifierPolicy) : Result ClassifierPolicy := do
  checkScalars p
  let q := canonicalForm p
  checkAdapters q.heuristicAdapters
  checkHints q.heuristicAdapters q.portHints
  checkSwitches q
  return q

def heuristicEnabled (p : ClassifierPolicy) (name : Bytes) : Bool :=
  p.allowHeuristicEvidence &&
    match p.heuristicAdapters.find? fun a => a.name == name with
    | some a => a.enabled
    | none => false

/-- `claim_of`: the transport code and the port a heuristic binding cites. The code
is kept as a byte, because the cast of the source may leave the enumeration. -/
def claimOf (binding : UInt64) : UInt8 × UInt16 :=
  ((binding >>> 16).toUInt8, binding.toUInt16)

def findPortHint (p : ClassifierPolicy) (transport : UInt8) (port : UInt16) :
    Option PortHint :=
  if !p.allowHeuristicEvidence then none
  else p.portHints.find? fun h =>
    h.transport.code == transport && h.port == port && p.heuristicEnabled h.adapter

end ClassifierPolicy

def limitFields (l : ResourceLimits) : List UInt64 :=
  [l.maxFlows.toUInt64, l.maxPublishers.toUInt64, l.maxWorkloads.toUInt64,
   l.maxContracts.toUInt64, l.maxPendingContracts.toUInt64, l.maxSessions.toUInt64,
   l.maxConfigOverrides.toUInt64, l.maxEvidencePerFlow.toUInt64,
   l.maxEvidenceRecords.toUInt64, l.maxDecisionsPerFlow.toUInt64,
   l.maxContradictionsPerFlow.toUInt64, l.maxContradictions.toUInt64,
   l.maxSupersessions.toUInt64, l.maxRevocations.toUInt64, l.maxFlowKeyIndex.toUInt64,
   l.maxFramePayload.toUInt64, l.maxStringBytes.toUInt64, l.maxBlobBytes.toUInt64,
   l.maxCollectionCount.toUInt64, l.maxBatchKeys.toUInt64, l.maxWorkers.toUInt64,
   l.maxQueueDepth.toUInt64, l.maxInflightRequests.toUInt64, l.maxRetryAttempts.toUInt64,
   l.defaultFreshnessWindow, l.maxSessionIdleTicks]

def policyDigestChunks (p : ClassifierPolicy) : List Bytes :=
  [u8Bytes 2,
   boolBytes p.allowHeuristicEvidence,
   u64Bytes p.defaultFreshnessWindow,
   u32Bytes p.contradictionPenalty,
   u32Bytes p.minimumPublishableConfidence,
   u32Bytes p.maxEvidenceConsidered] ++
  (limitFields p.limits).map u64Bytes ++
  [countBytes p.heuristicAdapters.length] ++
  p.heuristicAdapters.flatMap (fun a =>
    [blobBytes a.name, boolBytes a.enabled, u32Bytes a.maxBasisPoints, u32Bytes a.priority]) ++
  [countBytes p.portHints.length] ++
  p.portHints.flatMap fun h =>
    [u8Bytes h.transport.code, u16Bytes h.port, u16Bytes h.semantic.code,
     u32Bytes h.basisPoints, blobBytes h.adapter]

def computePolicyDigest (p : ClassifierPolicy) : Digest256 :=
  digestOfChunks (policyDigestChunks p)

end FlowClassifier.Policies
