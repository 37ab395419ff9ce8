import FlowClassifier.Lib.FiniteMap
import FlowClassifier.Evidence

/-!
`EvidenceStore`: accepted records by identity, the per-flow rings that make them
reachable from their flow and the order of acceptance in which they are evicted. A
record only ever moves to a weaker state, and a restored one is never CURRENT.
-/
namespace FlowClassifier.Store

open Lib Foundation Evidence

structure EvidenceStoreStats where
  accepted : UInt64 := 0
  rejected : UInt64 := 0
  evictedRecords : UInt64 := 0
  evictedPerFlow : UInt64 := 0
  withdrawn : UInt64 := 0
  superseded : UInt64 := 0
  staleTransitions : UInt64 := 0
  revalidationTransitions : UInt64 := 0
  capacityRejections : UInt64 := 0
  records : ℕ := 0
  indexedFlows : ℕ := 0

structure EvidenceStore where
  byId : FiniteMap EvidenceId EvidenceRecord := ∅
  byFlow : FiniteMap FlowId (List EvidenceId) := ∅
  order : List EvidenceId := []
  maxRecords : UInt32
  maxPerFlow : UInt32
  maxFlowIndex : UInt32
  stats : EvidenceStoreStats := {}

namespace EvidenceStore

def countRejected (s : EvidenceStore) : EvidenceStore :=
  { s with stats := { s.stats with rejected := s.stats.rejected + 1 } }

def countCapacity (s : EvidenceStore) : EvidenceStore :=
  { s with stats := { s.stats with capacityRejections := s.stats.capacityRejections + 1 } }

/-- Removes a record from the ring of its flow, and the ring when it becomes empty. -/
def unindexFlow (byFlow : FiniteMap FlowId (List EvidenceId)) (flow : FlowId)
    (id : EvidenceId) : FiniteMap FlowId (List EvidenceId) :=
  match byFlow.lookup flow with
  | none => byFlow
  | some ids =>
    let kept := ids.filter (· ≠ id)
    if kept.isEmpty then byFlow.erase flow else byFlow.insert flow kept

def evictFrom (s : EvidenceStore) : List EvidenceId → EvidenceStore
  | [] => { s with order := [] }
  | id :: rest =>
    if s.byId.size ≥ s.maxRecords.toNat then
      match s.byId.lookup id with
      | none => s.evictFrom rest
      | some record =>
        evictFrom
          { s with
            byId := s.byId.erase id
            byFlow := unindexFlow s.byFlow record.flowId record.id
            stats := { s.stats with evictedRecords := s.stats.evictedRecords + 1 } }
          rest
    else { s with order := id :: rest }

def evictOldest (s : EvidenceStore) : EvidenceStore := s.evictFrom s.order

/-- How many entries leave a ring that must have room for one more. -/
def overflowOf (s : EvidenceStore) (ids : List EvidenceId) : ℕ :=
  if ids.length ≥ s.maxPerFlow.toNat then min ids.length (ids.length + 1 - s.maxPerFlow.toNat)
  else 0

def place (s : EvidenceStore) (record : EvidenceRecord) : EvidenceStore :=
  let ids := (s.byFlow.lookup record.flowId).getD []
  let dropped := s.overflowOf ids
  let byFlow : FiniteMap _ _ := s.byFlow.insert record.flowId (ids.drop dropped ++ [record.id])
  let byId : FiniteMap _ _ := s.byId.insert record.id record
  { s with
    byId := byId
    byFlow := byFlow
    order := s.order ++ [record.id]
    stats := { s.stats with
      evictedPerFlow := s.stats.evictedPerFlow + UInt64.ofNat dropped
      accepted := s.stats.accepted + 1
      records := byId.size
      indexedFlows := byFlow.size } }

def makeRoom (s : EvidenceStore) : EvidenceStore :=
  if s.byId.size ≥ s.maxRecords.toNat then s.evictOldest else s

def insert (s : EvidenceStore) (record : EvidenceRecord) : Result Unit × EvidenceStore :=
  if record.id.isEmpty then
    (Status.failure .invalidArgument (text "evidence identity is empty"), s.countRejected)
  else
    match s.byId.lookup record.id with
    | some existing =>
      if existing.contentDigest = record.contentDigest ∧
          existing.publisher = record.publisher then (.ok (), s)
      else
        (Status.failure .duplicateIdentity (text "evidence id " ++ record.id.value ++
          text " already exists with different content"), s.countRejected)
    | none =>
      let s := s.makeRoom
      if s.byId.size ≥ s.maxRecords.toNat then
        (Status.failure .capacityExceeded (text "evidence store is full at " ++
          decimal s.maxRecords.toNat ++ text " records and nothing could be evicted"),
          s.countCapacity)
      else if (s.byFlow.lookup record.flowId).isNone ∧
          s.byFlow.size ≥ s.maxFlowIndex.toNat then
        (Status.failure .capacityExceeded (text "evidence flow index is full at " ++
          decimal s.maxFlowIndex.toNat ++ text " flows"), s.countCapacity)
      else (.ok (), s.place record)

def missing (id : EvidenceId) : Failure :=
  ⟨.notFound, text "no evidence record " ++ id.value⟩

def find (s : EvidenceStore) (id : EvidenceId) : Result EvidenceRecord :=
  match s.byId.lookup id with
  | none => .error (missing id)
  | some record => .ok record

def recordsForFlow (s : EvidenceStore) (flow : FlowId) : List EvidenceRecord :=
  (((s.byFlow.lookup flow).getD []).filterMap s.byId.lookup).insertionSort fun a b =>
    a.acceptedSeq ≤ b.acceptedSeq

def evidenceForFlow (s : EvidenceStore) (flow : FlowId) : List EvidenceId :=
  (s.recordsForFlow flow).map EvidenceRecord.id

def setState (s : EvidenceStore) (id : EvidenceId) (state : EvidenceState) (reason : Bytes) :
    Result Unit × EvidenceStore :=
  match s.byId.lookup id with
  | none => (.error (missing id), s)
  | some record =>
    if record.state = state then (.ok (), s)
    else if record.state ≠ .current ∧ state = .current then
      (Status.failure .unauthorized (text "evidence " ++ id.value ++
        text " cannot be returned to CURRENT; republish with a new generation"), s)
    else
      (.ok (),
        { s with
          byId := s.byId.insert id { record with state := state, stateReason := reason }
          stats := { s.stats with
            staleTransitions :=
              s.stats.staleTransitions + if state = .stale then 1 else 0
            superseded := s.stats.superseded + if state = .superseded then 1 else 0
            withdrawn := s.stats.withdrawn + if state = .revoked then 1 else 0 } })

def markStale (p : EvidenceRecord → Bool) (reason : EvidenceRecord → Bytes)
    (record : EvidenceRecord) : EvidenceRecord :=
  if record.state = .current ∧ p record = true then
    { record with state := .stale, stateReason := reason record }
  else record

def staleCount (s : EvidenceStore) (p : EvidenceRecord → Bool) : ℕ :=
  (s.byId.values.filter fun r => r.state == .current && p r).length

def markStaleWhere (s : EvidenceStore) (p : EvidenceRecord → Bool) (reason : Bytes) :
    EvidenceStore :=
  { s with
    byId := s.byId.mapValues fun _ => markStale p fun _ => reason
    stats := { s.stats with
      staleTransitions := s.stats.staleTransitions + UInt64.ofNat (s.staleCount p) } }

def epochReason (currentEpoch : CoordinatorEpoch) (r : EvidenceRecord) : Bytes :=
  text "accepted in coordinator epoch " ++ render r.acceptedEpoch ++
    text "; the coordinator is now at epoch " ++ render currentEpoch ++
    text " and dynamic authority does not survive a restart"

def markEpochStale (s : EvidenceStore) (currentEpoch : CoordinatorEpoch) : EvidenceStore :=
  let p := fun r : EvidenceRecord => r.acceptedEpoch != currentEpoch
  { s with
    byId := s.byId.mapValues fun _ => markStale p (epochReason currentEpoch)
    stats := { s.stats with
      revalidationTransitions :=
        s.stats.revalidationTransitions + UInt64.ofNat (s.staleCount p) } }

def snapshotRecords (s : EvidenceStore) : List EvidenceRecord :=
  s.byId.values.insertionSort fun a b => a.id ≤ b.id

/-- `index_flow`: a new ring takes the record whatever the bound; an existing one does
not when the bound is zero. -/
def indexFlow (s : EvidenceStore) (flow : FlowId) (id : EvidenceId) : EvidenceStore :=
  match s.byFlow.lookup flow with
  | none => { s with byFlow := s.byFlow.insert flow [id] }
  | some ids =>
    let dropped := s.overflowOf ids
    let kept := ids.drop dropped
    { s with
      byFlow := s.byFlow.insert flow (if s.maxPerFlow = 0 then kept else kept ++ [id])
      stats := { s.stats with
        evictedPerFlow := s.stats.evictedPerFlow + UInt64.ofNat dropped } }

/-- The record as a restore keeps it. -/
def reloaded (record : EvidenceRecord) : EvidenceRecord :=
  if record.state = .current then
    { record with
      state := .stale
      stateReason := text "reloaded from durable state: " ++
        text "authority must be re-established by a new publication" }
  else record

def restoreRecord (s : EvidenceStore) (record : EvidenceRecord) : Result Unit × EvidenceStore :=
  if (s.byId.lookup record.id).isSome then
    (Status.failure .duplicateIdentity
      (text "evidence " ++ record.id.value ++ text " restored twice"), s)
  else if s.byId.size ≥ s.maxRecords.toNat then
    (Status.failure .capacityExceeded
      (text "evidence store is full while restoring persisted state"), s)
  else
    let s := s.indexFlow record.flowId record.id
    let byId : FiniteMap _ _ := s.byId.insert record.id (reloaded record)
    (.ok (),
      { s with
        byId := byId
        order := s.order ++ [record.id]
        stats := { s.stats with records := byId.size, indexedFlows := s.byFlow.size } })

end EvidenceStore
end FlowClassifier.Store
