import FlowClassifier.Lib.FiniteMap
import FlowClassifier.Flows

/-!
`FlowRegistry`: the current incarnation of each flow key and, per flow identity, the
incarnations it has fenced. A registration repeats the current generation, advances it
or creates the key; anything else is refused.
-/
namespace FlowClassifier.Store

open Lib Foundation Flows

structure FlowRegistryStats where
  registrations : UInt64 := 0
  repeats : UInt64 := 0
  generationAdvances : UInt64 := 0
  capacityRejections : UInt64 := 0
  lookups : UInt64 := 0
  size : ℕ := 0

structure FlowRegistry where
  current : FiniteMap FlowKey FlowRecord := ∅
  history : FiniteMap FlowId (List FlowRecord) := ∅
  maxFlows : UInt32
  stats : FlowRegistryStats := {}

namespace FlowRegistry

def maxHistoryPerKey : ℕ := 8

def maxAcceptableGeneration : UInt64 := 4611686018427387904

def historyOf (r : FlowRegistry) (id : FlowId) : List FlowRecord := (r.history.lookup id).getD []

/-- Appends a fenced incarnation and drops the oldest ones beyond the bound. -/
def pushHistory (history : List FlowRecord) (record : FlowRecord) : List FlowRecord :=
  (history ++ [record]).drop (history.length + 1 - maxHistoryPerKey)

def highestKnown (r : FlowRegistry) (key : FlowKey) : UInt64 :=
  let past := (r.historyOf (deriveFlowId key)).foldl (fun m f => max m f.generation) 0
  match r.current.lookup key with
  | none => past
  | some existing => max past existing.generation

def staleFailure (id : FlowId) (existing requested : FlowGeneration) : Failure :=
  ⟨.staleGeneration, text "flow " ++ id.toHex ++ text " is at generation " ++ render existing ++
    text "; registration requested by " ++ render requested ++ text " was refused"⟩

def registerKnown (r : FlowRegistry) (key : FlowKey) (existing : FlowRecord)
    (generation : FlowGeneration) (session : SessionId) (tick : Tick) :
    Result FlowRegistration × FlowRegistry :=
  let id := deriveFlowId key
  if existing.id ≠ id then
    (Status.failure .internalError
      (text "flow id derivation is not injective for this key"), r)
  else if generation < existing.generation then
    (.error (staleFailure id existing.generation generation), r)
  else if generation = existing.generation then
    let renewed :=
      { existing with lastActivityTick := tick, renewals := existing.renewals + 1 }
    (.ok { record := renewed, previousGeneration := existing.generation },
      { r with
        current := r.current.insert key renewed
        stats := { r.stats with repeats := r.stats.repeats + 1 } })
  else
    let record : FlowRecord :=
      { id := id, key := key, generation := generation, registeredSeq := existing.registeredSeq,
        registeredTick := tick, lastActivityTick := tick, registeredBy := session }
    (.ok
        { record := record, created := true, fencedPrevious := true,
          previousGeneration := existing.generation },
      { r with
        current := r.current.insert key record
        history := r.history.insert id (pushHistory (r.historyOf id) existing)
        stats := { r.stats with generationAdvances := r.stats.generationAdvances + 1 } })

def registerNew (r : FlowRegistry) (key : FlowKey) (generation : FlowGeneration)
    (session : SessionId) (tick : Tick) : Result FlowRegistration × FlowRegistry :=
  let id := deriveFlowId key
  if (r.historyOf id).any fun f => f.generation == generation then
    (Status.failure .staleGeneration (text "flow " ++ id.toHex ++ text " generation " ++
      render generation ++ text " has already been superseded and cannot be re-registered"), r)
  else if r.current.size ≥ r.maxFlows.toNat then
    (Status.failure .capacityExceeded
        (text "flow registry is full at " ++ decimal r.maxFlows.toNat ++ text " flows"),
      { r with stats := { r.stats with capacityRejections := r.stats.capacityRejections + 1 } })
  else
    let record : FlowRecord :=
      { id := id, key := key, generation := generation, registeredTick := tick,
        lastActivityTick := tick, registeredBy := session }
    (.ok { record := record, created := true },
      { r with current := r.current.insert key record })

def registerFlow (r : FlowRegistry) (key : FlowKey) (requested : FlowGeneration)
    (session : SessionId) (tick : Tick) : Result FlowRegistration × FlowRegistry :=
  let counted :=
    { r with stats := { r.stats with registrations := r.stats.registrations + 1 } }
  if requested > maxAcceptableGeneration then
    (Status.failure .outOfRange (text "flow generation " ++ render requested ++
      text " exceeds the largest acceptable generation " ++ render maxAcceptableGeneration),
      counted)
  else
    -- generation zero asks for the next one; the addition may wrap
    let generation := if requested = 0 then r.highestKnown key + 1 else requested
    if generation = 0 then
      (Status.failure .counterExhausted (text "flow generation space exhausted"), counted)
    else
      match r.current.lookup key with
      | some existing => counted.registerKnown key existing generation session tick
      | none => counted.registerNew key generation session tick

def countLookup (r : FlowRegistry) : FlowRegistry :=
  { r with stats := { r.stats with lookups := r.stats.lookups + 1 } }

def findByKey (r : FlowRegistry) (key : FlowKey) : Result FlowRecord :=
  match r.current.lookup key with
  | none => Status.failure .unknownFlow (text "no flow registered for this key")
  | some record => .ok record

/-- `find_generation`: the current incarnations first, then the fenced ones. -/
def findGeneration (r : FlowRegistry) (id : FlowId) (generation : FlowGeneration) :
    Result FlowRecord :=
  let wanted := fun f : FlowRecord => f.generation == generation
  match r.current.values.find? fun f => f.id == id && wanted f with
  | some record => .ok record
  | none =>
    match (r.historyOf id).find? wanted with
    | some record => .ok record
    | none =>
      Status.failure .unknownFlow (text "flow " ++ id.toHex ++ text " has no generation " ++
        render generation)

/-- `retire_flow`: an incarnation without a successor moves to the history. -/
def retireFlow (r : FlowRegistry) (id : FlowId) (generation : FlowGeneration) (tick : Tick) :
    Result Unit × FlowRegistry :=
  match r.current.entries.find? fun e => e.2.id == id && e.2.generation == generation with
  | some ⟨key, record⟩ =>
    (.ok (),
      { r with
        current := r.current.erase key
        history := r.history.insert id
          (pushHistory (r.historyOf id) { record with lastActivityTick := tick }) })
  | none =>
    (Status.failure .unknownFlow (text "flow incarnation not found for retirement"), r)

def snapshotFlows (r : FlowRegistry) : List FlowRecord :=
  r.current.values.insertionSort fun a b => a.id ≤ b.id

def restoreFlow (r : FlowRegistry) (record : FlowRecord) : Result Unit × FlowRegistry :=
  let place : FlowRegistry := { r with current := r.current.insert record.key record }
  match r.current.lookup record.key with
  | some existing =>
    if existing.generation > record.generation then
      (.ok (),
        { r with
          history := r.history.insert record.id (pushHistory (r.historyOf record.id) record) })
    else (.ok (), place)
  | none =>
    if r.current.size ≥ r.maxFlows.toNat then
      (Status.failure .capacityExceeded
        (text "flow registry is full while restoring state"), r)
    else (.ok (), place)

/-- A restored flow is the current one of its key afterwards, or nothing becomes current. -/
theorem current_restoreFlow (r : FlowRegistry) (record : FlowRecord) :
    (r.restoreFlow record).2.current = r.current ∨
      (r.restoreFlow record).2.current = r.current.insert record.key record := by
  unfold restoreFlow
  split <;> split_ifs
  · exact Or.inl rfl
  · exact Or.inr rfl
  · exact Or.inl rfl
  · exact Or.inr rfl

end FlowRegistry
end FlowClassifier.Store
