import FlowClassifier.Lib.FiniteMap
import FlowClassifier.Workloads

/-!
`WorkloadRegistry`: declared workloads and the contracts proposed for them. A contract
moves from PENDING to ACTIVE to RETIRED and never back; activating one retires the
other active contracts of its workload.
-/
namespace FlowClassifier.Store

open Lib Foundation Workloads

structure WorkloadRegistryStats where
  workloadsDeclared : UInt64 := 0
  workloadGenerationAdvances : UInt64 := 0
  contractsProposed : UInt64 := 0
  contractsActivated : UInt64 := 0
  contractsRetired : UInt64 := 0
  contractMutationRejections : UInt64 := 0
  contractOwnerRejections : UInt64 := 0
  capacityRejections : UInt64 := 0
  workloads : ℕ := 0
  contracts : ℕ := 0
  activeContracts : ℕ := 0

structure WorkloadRegistry where
  workloads : FiniteMap WorkloadId WorkloadRecord := ∅
  contracts : FiniteMap ContractId WorkloadContract := ∅
  maxWorkloads : UInt32
  maxContracts : UInt32
  maxPendingContracts : UInt32
  stats : WorkloadRegistryStats := {}

namespace WorkloadRegistry

def countCapacity (r : WorkloadRegistry) : WorkloadRegistry :=
  { r with stats := { r.stats with capacityRejections := r.stats.capacityRejections + 1 } }

def countOwner (r : WorkloadRegistry) : WorkloadRegistry :=
  { r with
    stats := { r.stats with contractOwnerRejections := r.stats.contractOwnerRejections + 1 } }

def retired (c : WorkloadContract) (tick : Tick) : WorkloadContract :=
  { c with state := .retired, retiredTick := tick }

def retireWhere (r : WorkloadRegistry) (p : WorkloadContract → Bool) (tick : Tick) :
    WorkloadRegistry :=
  { r with
    contracts := r.contracts.mapValues fun _ c => if p c then retired c tick else c
    stats := { r.stats with
      contractsRetired := r.stats.contractsRetired +
        UInt64.ofNat (r.contracts.values.filter p).length } }

def outgrown (id : WorkloadId) (generation : WorkloadGeneration) (c : WorkloadContract) : Bool :=
  c.workload == id && c.workloadGeneration < generation && c.state == .active

/-- The branches of `declare_workload` for a workload that exists. -/
def redeclare (r : WorkloadRegistry) (id : WorkloadId) (record : WorkloadRecord)
    (owner : PublisherId) (generation : WorkloadGeneration) (tick : Tick) (description : Bytes) :
    Result (WorkloadRecord × List WorkloadContract) × WorkloadRegistry :=
  let described :=
    if description.isEmpty then record else { record with description := description }
  if owner ≠ record.owner then
    (Status.failure .unauthorized (text "workload " ++ id.value ++ text " is owned by " ++
      record.owner.value), r.countOwner)
  else if generation < record.generation then
    (Status.failure .staleGeneration (text "workload " ++ id.value ++
      text " is at generation " ++ render record.generation ++ text "; generation " ++
      render generation ++ text " was refused"), r)
  else if generation = record.generation then
    -- the description is replaced before the retired state is looked at
    let r := { r with workloads := r.workloads.insert id described }
    if record.state = .retired then
      (Status.failure .staleGeneration (text "workload " ++ id.value ++
        text " is retired at generation " ++ render generation), r)
    else (.ok (described, []), r)
  else
    let advanced :=
      { described with
        generation := generation, state := .active, activeContract := .none,
        activatedTick := tick }
    let outgrown := outgrown id generation
    let r' := r.retireWhere outgrown tick
    (.ok (advanced, (r.contracts.values.filter outgrown).map (retired · tick)),
      { r' with
        workloads := r.workloads.insert id advanced
        stats := { r'.stats with
          workloadGenerationAdvances := r.stats.workloadGenerationAdvances + 1 } })

def declareWorkload (r : WorkloadRegistry) (id : WorkloadId) (owner : PublisherId)
    (generation : WorkloadGeneration) (tick : Tick) (description : Bytes) :
    Result (WorkloadRecord × List WorkloadContract) × WorkloadRegistry :=
  if id.isEmpty then
    (Status.failure .invalidArgument (text "workload identity is empty"), r)
  else if generation = 0 then
    (Status.failure .invalidArgument
      (text "workload generation must be greater than zero"), r)
  else
    match r.workloads.lookup id with
    | some record => r.redeclare id record owner generation tick description
    | none =>
      if r.workloads.size ≥ r.maxWorkloads.toNat then
        (Status.failure .capacityExceeded
          (text "workload registry is full at " ++ decimal r.maxWorkloads.toNat),
          r.countCapacity)
      else
        let record : WorkloadRecord :=
          { id := id, owner := owner, generation := generation, state := .active,
            declaredTick := tick, activatedTick := tick, description := description }
        let workloads : FiniteMap _ _ := r.workloads.insert id record
        (.ok (record, []),
          { r with
            workloads := workloads
            stats := { r.stats with
              workloadsDeclared := r.stats.workloadsDeclared + 1
              workloads := workloads.size } })

def undeclaredFailure (id : WorkloadId) : Failure :=
  ⟨.unknownWorkload, text "no workload " ++ id.value ++ text " declared"⟩

def findWorkload (r : WorkloadRegistry) (id : WorkloadId) : Result WorkloadRecord :=
  match r.workloads.lookup id with
  | none => .error (undeclaredFailure id)
  | some record => .ok record

def retireWorkload (r : WorkloadRegistry) (id : WorkloadId) (generation : WorkloadGeneration)
    (tick : Tick) : Result Unit × WorkloadRegistry :=
  match r.workloads.lookup id with
  | none => (.error (undeclaredFailure id), r)
  | some record =>
    if generation ≠ record.generation then
      (Status.failure .staleGeneration (text "workload retirement named generation " ++
        render generation ++ text " but the current generation is " ++
        render record.generation), r)
    else
      (.ok (),
        { r.retireWhere (fun c => c.workload == id && c.state == .active) tick with
          workloads :=
            r.workloads.insert id { record with state := .retired, retiredTick := tick } })

def undeclaredNameFailure (c : WorkloadContract) : Failure :=
  ⟨.unknownWorkload, text "contract names undeclared workload " ++ c.workload.value⟩

def checkProposal (c : WorkloadContract) : Result Unit :=
  if c.id.isEmpty then
    Status.failure .invalidArgument (text "contract identity is empty")
  else if c.workloadGeneration = 0 then
    Status.failure .invalidArgument
      (text "contract workload generation must be greater than zero")
  else if c.declaredClass = .unknown then
    Status.failure .invalidArgument
      (text "a contract may not declare the UNKNOWN semantic class")
  else if !c.matchAnyRemoteAddress && c.remoteScope.isEmpty && c.localPortScope.isEmpty &&
      c.remotePort == 0 then
    Status.failure .invalidArgument
      (text "a contract must declare at least one scope; " ++
        text "an unscoped contract would apply to every flow")
  else .ok ()

/-- The contract as it is stored: pending, with the digest of its own content. -/
def proposed (c : WorkloadContract) (tick : Tick) : WorkloadContract :=
  let c := { c with
    state := .pending, createdTick := tick, activatedTick := tickNone, retiredTick := tickNone }
  { c with definitionDigest := computeContractDigest c }

def storeProposal (r : WorkloadRegistry) (c : WorkloadContract) (tick : Tick) :
    Result WorkloadContract × WorkloadRegistry :=
  if (r.contracts.values.filter fun c => c.state == .pending).length ≥
      r.maxPendingContracts.toNat then
    (Status.failure .capacityExceeded (text "pending contract limit of " ++
      decimal r.maxPendingContracts.toNat ++ text " reached"), r.countCapacity)
  else if r.contracts.size ≥ r.maxContracts.toNat then
    (Status.failure .capacityExceeded
      (text "contract registry is full at " ++ decimal r.maxContracts.toNat), r.countCapacity)
  else
    let contracts : FiniteMap _ _ := r.contracts.insert c.id (proposed c tick)
    (.ok (proposed c tick),
      { r with
        contracts := contracts
        stats := { r.stats with
          contractsProposed := r.stats.contractsProposed + 1
          contracts := contracts.size } })

def proposeContract (r : WorkloadRegistry) (c : WorkloadContract) (tick : Tick) :
    Result WorkloadContract × WorkloadRegistry :=
  match checkProposal c with
  | .error e => (.error e, r)
  | .ok () =>
    if (r.contracts.lookup c.id).isSome then
      (Status.failure .alreadyExists
        (text "contract " ++ c.id.value ++ text " already exists"), r)
    else
      match r.workloads.lookup c.workload with
      | none => (.error (undeclaredNameFailure c), r)
      | some workload =>
        if workload.owner ≠ c.owner then
          (Status.failure .unauthorized (text "publisher " ++ c.owner.value ++
            text " does not own workload " ++ c.workload.value), r.countOwner)
        else if workload.generation ≠ c.workloadGeneration then
          (Status.failure .staleGeneration (text "contract names workload generation " ++
            render c.workloadGeneration ++ text " but the current generation is " ++
            render workload.generation), r)
        else r.storeProposal c tick

def unknownContract (id : ContractId) : Failure :=
  ⟨.unknownContract, text "no contract " ++ id.value⟩

def notOwner (caller : PublisherId) (id : ContractId) : Failure :=
  ⟨.unauthorized, text "publisher " ++ caller.value ++ text " does not own contract " ++
    id.value⟩

def activate (r : WorkloadRegistry) (c : WorkloadContract) (workload : WorkloadRecord)
    (tick : Tick) : WorkloadContract × Option WorkloadContract × WorkloadRegistry :=
  let displaced := fun other : WorkloadContract =>
    other.id != c.id && other.workload == c.workload && other.state == .active
  let r' := r.retireWhere displaced tick
  let active := { c with state := .active, activatedTick := tick, retiredTick := tickNone }
  let contracts : FiniteMap _ _ := r'.contracts.insert c.id active
  (active, ((r.contracts.values.filter displaced).map (retired · tick)).getLast?,
    { r' with
      contracts := contracts
      workloads := r.workloads.insert c.workload
        { workload with activeContract := c.id, state := .active, activatedTick := tick }
      stats := { r'.stats with
        contractsActivated := r.stats.contractsActivated + 1
        activeContracts := (contracts.values.filter fun c => c.state == .active).length } })

def activateContract (r : WorkloadRegistry) (id : ContractId) (caller : PublisherId)
    (tick : Tick) : Result (WorkloadContract × Option WorkloadContract) × WorkloadRegistry :=
  match r.contracts.lookup id with
  | none => (.error (unknownContract id), r)
  | some c =>
    if c.owner ≠ caller then (.error (notOwner caller id), r.countOwner)
    else if c.state = .retired then
      (Status.failure .contractRetired
        (text "contract " ++ id.value ++ text " has been retired"), r)
    else
      match r.workloads.lookup c.workload with
      | none => (.error (undeclaredNameFailure c), r)
      | some workload =>
        if workload.generation ≠ c.workloadGeneration then
          (Status.failure .staleGeneration (text "contract " ++ id.value ++
            text " is bound to workload generation " ++ render c.workloadGeneration ++
            text " but the workload is at " ++ render workload.generation), r)
        else if workload.state = .retired then
          (Status.failure .contractRetired
            (text "workload " ++ c.workload.value ++ text " is retired"), r)
        else if c.state = .active then (.ok (c, none), r)
        else
          let (active, displaced, r) := r.activate c workload tick
          (.ok (active, displaced), r)

def retireContract (r : WorkloadRegistry) (id : ContractId) (caller : PublisherId) (tick : Tick) :
    Result Unit × WorkloadRegistry :=
  match r.contracts.lookup id with
  | none => (.error (unknownContract id), r)
  | some c =>
    if c.owner ≠ caller then (.error (notOwner caller id), r.countOwner)
    else
      (.ok (),
        { r with
          contracts := r.contracts.insert id (retired c tick)
          workloads :=
            match r.workloads.lookup c.workload with
            | none => r.workloads
            | some workload =>
              if workload.activeContract = id then
                r.workloads.insert c.workload { workload with activeContract := .none }
              else r.workloads
          stats := { r.stats with contractsRetired := r.stats.contractsRetired + 1 } })

def findContract (r : WorkloadRegistry) (id : ContractId) : Result WorkloadContract :=
  match r.contracts.lookup id with
  | none => .error (unknownContract id)
  | some c => .ok c

def activeContracts (r : WorkloadRegistry) : List WorkloadContract :=
  (r.contracts.values.filter fun c => c.state == .active).insertionSort fun a b => a.id ≤ b.id

def snapshotWorkloads (r : WorkloadRegistry) : List WorkloadRecord :=
  r.workloads.values.insertionSort fun a b => a.id ≤ b.id

def snapshotContracts (r : WorkloadRegistry) : List WorkloadContract :=
  r.contracts.values.insertionSort fun a b => a.id ≤ b.id

def restoreWorkload (r : WorkloadRegistry) (record : WorkloadRecord) :
    Result Unit × WorkloadRegistry :=
  if (r.workloads.lookup record.id).isNone ∧ r.workloads.size ≥ r.maxWorkloads.toNat then
    (Status.failure .capacityExceeded
      (text "workload registry is full while restoring persisted state"), r)
  else (.ok (), { r with workloads := r.workloads.insert record.id record })

def restoreContract (r : WorkloadRegistry) (c : WorkloadContract) :
    Result Unit × WorkloadRegistry :=
  if (r.contracts.lookup c.id).isNone ∧ r.contracts.size ≥ r.maxContracts.toNat then
    (Status.failure .capacityExceeded
      (text "contract registry is full while restoring persisted state"), r)
  else if c.definitionDigest ≠ .zero ∧ c.definitionDigest ≠ computeContractDigest c then
    (Status.failure .corruptState (text "persisted contract " ++ c.id.value ++
      text " content does not match its recorded digest"), r)
  else
    (.ok (),
      { r with
        contracts :=
          r.contracts.insert c.id { c with definitionDigest := computeContractDigest c } })

end WorkloadRegistry
end FlowClassifier.Store
