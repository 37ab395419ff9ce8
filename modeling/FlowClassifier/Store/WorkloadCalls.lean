import FlowClassifier.Store.Workloads

/-!
The calls of the workload registry and what each of them can do. What holds over the calls,
of contracts, of workloads and of the pointers between them, is read off these exits.
-/
namespace FlowClassifier.Store

open Foundation Workloads

inductive WorkloadCall where
  | declareWorkload (id : WorkloadId) (owner : PublisherId) (generation : WorkloadGeneration)
      (tick : Tick) (description : Bytes)
  | retireWorkload (id : WorkloadId) (generation : WorkloadGeneration) (tick : Tick)
  | proposeContract (contract : WorkloadContract) (tick : Tick)
  | activateContract (id : ContractId) (caller : PublisherId) (tick : Tick)
  | retireContract (id : ContractId) (caller : PublisherId) (tick : Tick)

namespace WorkloadRegistry

def call (r : WorkloadRegistry) : WorkloadCall → WorkloadRegistry
  | .declareWorkload id owner generation tick description =>
    (r.declareWorkload id owner generation tick description).2
  | .retireWorkload id generation tick => (r.retireWorkload id generation tick).2
  | .proposeContract contract tick => (r.proposeContract contract tick).2
  | .activateContract id caller tick => (r.activateContract id caller tick).2
  | .retireContract id caller tick => (r.retireContract id caller tick).2

def displacedBy (c other : WorkloadContract) : Bool :=
  other.id != c.id && other.workload == c.workload && other.state == .active

/-- What a call can do to the registry, with its answer where that reports the change. -/
inductive Exit (r : WorkloadRegistry) : WorkloadCall → WorkloadRegistry → Prop
  | unchanged {op : WorkloadCall} {r' : WorkloadRegistry} (hw : r'.workloads = r.workloads)
    (hc : r'.contracts = r.contracts) : Exit r op r'
  | described {id : WorkloadId} {owner : PublisherId} {generation : WorkloadGeneration}
    {tick : Tick} {description : Bytes} {w w' : WorkloadRecord} {r' : WorkloadRegistry}
    (hrecord : r.workloads.lookup id = some w)
    (hsame : w' = { w with description := w'.description })
    (hw : r'.workloads = r.workloads.insert id w') (hc : r'.contracts = r.contracts) :
    Exit r (.declareWorkload id owner generation tick description) r'
  | created {id : WorkloadId} {owner : PublisherId} {generation : WorkloadGeneration}
    {tick : Tick} {description : Bytes} {w' : WorkloadRecord} {r' : WorkloadRegistry}
    (hnone : r.workloads.lookup id = none) (hid : w'.id = id) (hstate : w'.state = .active)
    (hpointer : w'.activeContract = .none) (hw : r'.workloads = r.workloads.insert id w')
    (hc : r'.contracts = r.contracts) :
    Exit r (.declareWorkload id owner generation tick description) r'
  | advanced {id : WorkloadId} {owner : PublisherId} {generation : WorkloadGeneration}
    {tick : Tick} {description : Bytes} {w w' : WorkloadRecord} {r' : WorkloadRegistry}
    (hrecord : r.workloads.lookup id = some w) (howner : owner = w.owner)
    (hlt : w.generation < generation)
    (hnew : w' = { w with
      generation := generation, state := .active, activeContract := .none, activatedTick := tick
      description := w'.description })
    (hok : (r.declareWorkload id owner generation tick description).1 =
      .ok (w', (r.contracts.values.filter (outgrown id generation)).map (retired · tick)))
    (hw : r'.workloads = r.workloads.insert id w')
    (hc : r'.contracts = (r.retireWhere (outgrown id generation) tick).contracts) :
    Exit r (.declareWorkload id owner generation tick description) r'
  | workloadRetired {id : WorkloadId} {tick : Tick} {w : WorkloadRecord} {r' : WorkloadRegistry}
    (hrecord : r.workloads.lookup id = some w)
    (hok : (r.retireWorkload id w.generation tick).1 = .ok ())
    (hw : r'.workloads = r.workloads.insert id { w with state := .retired, retiredTick := tick })
    (hc : r'.contracts =
      (r.retireWhere (fun c => c.workload == id && c.state == .active) tick).contracts) :
    Exit r (.retireWorkload id w.generation tick) r'
  | contractProposed {c : WorkloadContract} {tick : Tick} {w : WorkloadRecord}
    {r' : WorkloadRegistry} (hfree : r.contracts.lookup c.id = none)
    (hrecord : r.workloads.lookup c.workload = some w) (howner : w.owner = c.owner)
    (hroom : r.contracts.size < r.maxContracts.toNat)
    (hw : r'.workloads = r.workloads)
    (hc : r'.contracts = r.contracts.insert c.id (proposed c tick))
    (hnamed : c.id.isEmpty = false)
    (hok : (r.proposeContract c tick).1 = .ok (proposed c tick)) :
    Exit r (.proposeContract c tick) r'
  | activated {id : ContractId} {caller : PublisherId} {tick : Tick} {c active : WorkloadContract}
    {w : WorkloadRecord} {r' : WorkloadRegistry} (hcontract : r.contracts.lookup id = some c)
    (hpending : c.state = .pending) (hrecord : r.workloads.lookup c.workload = some w)
    (hgeneration : w.generation = c.workloadGeneration) (hstanding : w.state ≠ .retired)
    (hactive : active = { c with
      state := .active, activatedTick := tick, retiredTick := tickNone })
    (hok : (r.activateContract id caller tick).1 = .ok (active,
      ((r.contracts.values.filter (displacedBy c)).map (retired · tick)).getLast?))
    (hw : r'.workloads = r.workloads.insert c.workload
      { w with activeContract := c.id, state := .active, activatedTick := tick })
    (hc : r'.contracts = (r.retireWhere (displacedBy c) tick).contracts.insert c.id active) :
    Exit r (.activateContract id caller tick) r'
  | contractRetired {id : ContractId} {caller : PublisherId} {tick : Tick} {k : WorkloadContract}
    {r' : WorkloadRegistry} (hcontract : r.contracts.lookup id = some k)
    (hok : (r.retireContract id caller tick).1 = .ok ())
    (hw : (∀ w, r.workloads.lookup k.workload = some w → w.activeContract ≠ id) ∧
        r'.workloads = r.workloads ∨
      ∃ w, r.workloads.lookup k.workload = some w ∧ w.activeContract = id ∧
        r'.workloads = r.workloads.insert k.workload { w with activeContract := .none })
    (hc : r'.contracts = r.contracts.insert id (retired k tick)) :
    Exit r (.retireContract id caller tick) r'

theorem exit_declareWorkload (r : WorkloadRegistry) (id : WorkloadId) (owner : PublisherId)
    (generation : WorkloadGeneration) (tick : Tick) (description : Bytes) :
    Exit r (.declareWorkload id owner generation tick description)
      (r.declareWorkload id owner generation tick description).2 := by
  generalize hout : r.declareWorkload id owner generation tick description = out
  have hdef := hout
  unfold declareWorkload at hdef
  by_cases hempty : id.isEmpty = true
  · rw [if_pos hempty] at hdef
    exact hdef ▸ .unchanged rfl rfl
  rw [if_neg hempty] at hdef
  by_cases hzero : generation = 0
  · rw [if_pos hzero] at hdef
    exact hdef ▸ .unchanged rfl rfl
  rw [if_neg hzero] at hdef
  cases hrecord : r.workloads.lookup id with
  | none =>
    simp only [hrecord] at hdef
    split_ifs at hdef
    · exact hdef ▸ .unchanged rfl rfl
    · exact hdef ▸ .created hrecord rfl rfl rfl rfl rfl
  | some w =>
    rw [hrecord] at hdef
    dsimp only [redeclare] at hdef
    generalize hd : (if description.isEmpty then w else { w with description := description }) =
      described at hdef
    have hsame : described = { w with description := described.description } := by
      rw [← hd]
      split_ifs <;> rfl
    split_ifs at hdef with howner hlow hrepeat
    · exact hdef ▸ .unchanged rfl rfl
    · exact hdef ▸ .unchanged rfl rfl
    · exact hdef ▸ .described hrecord hsame rfl rfl
    · exact hdef ▸ .described hrecord hsame rfl rfl
    · have hlt : w.generation < generation :=
        lt_of_le_of_ne (not_lt.mp hlow) fun heq => hrepeat heq.symm
      subst hdef
      refine .advanced hrecord (not_not.mp howner) hlt ?_ (congrArg Prod.fst hout) rfl rfl
      rw [hsame]

theorem exit_proposeContract (r : WorkloadRegistry) (c : WorkloadContract) (tick : Tick) :
    Exit r (.proposeContract c tick) (r.proposeContract c tick).2 := by
  generalize hout : r.proposeContract c tick = out
  have hdef := hout
  unfold proposeContract at hdef
  split at hdef
  · exact hdef ▸ .unchanged rfl rfl
  next hchecked =>
  have hnamed : c.id.isEmpty = false := by
    by_contra hempty
    rw [checkProposal, if_pos (by simpa using hempty)] at hchecked
    simp at hchecked
  by_cases hknown : (r.contracts.lookup c.id).isSome = true
  · rw [if_pos hknown] at hdef
    exact hdef ▸ .unchanged rfl rfl
  rw [if_neg hknown] at hdef
  cases hrecord : r.workloads.lookup c.workload with
  | none =>
    simp only [hrecord] at hdef
    exact hdef ▸ .unchanged rfl rfl
  | some w =>
    simp only [hrecord, storeProposal] at hdef
    split_ifs at hdef with howner _ _ hfull
    · exact hdef ▸ .unchanged rfl rfl
    · exact hdef ▸ .unchanged rfl rfl
    · exact hdef ▸ .unchanged rfl rfl
    · exact hdef ▸ .unchanged rfl rfl
    · subst hdef
      exact .contractProposed (by simpa using hknown) hrecord (not_not.mp howner)
        (not_le.mp hfull) rfl rfl hnamed (congrArg Prod.fst hout)

theorem exit_activateContract (r : WorkloadRegistry) (id : ContractId) (caller : PublisherId)
    (tick : Tick) :
    Exit r (.activateContract id caller tick) (r.activateContract id caller tick).2 := by
  generalize hout : r.activateContract id caller tick = out
  have hdef := hout
  unfold activateContract at hdef
  cases hcontract : r.contracts.lookup id with
  | none =>
    simp only [hcontract] at hdef
    exact hdef ▸ .unchanged rfl rfl
  | some c =>
    simp only [hcontract] at hdef
    by_cases howner : c.owner ≠ caller
    · rw [if_pos howner] at hdef
      exact hdef ▸ .unchanged rfl rfl
    rw [if_neg howner] at hdef
    by_cases hretired : c.state = .retired
    · rw [if_pos hretired] at hdef
      exact hdef ▸ .unchanged rfl rfl
    rw [if_neg hretired] at hdef
    cases hrecord : r.workloads.lookup c.workload with
    | none =>
      simp only [hrecord] at hdef
      exact hdef ▸ .unchanged rfl rfl
    | some w =>
      simp only [hrecord] at hdef
      split_ifs at hdef with hgeneration hstate hactive
      · exact hdef ▸ .unchanged rfl rfl
      · exact hdef ▸ .unchanged rfl rfl
      · exact hdef ▸ .unchanged rfl rfl
      · have hpending : c.state = .pending := by
          cases hstate : c.state with
          | pending => rfl
          | active => exact absurd hstate hactive
          | retired => exact absurd hstate hretired
        subst hdef
        exact .activated hcontract hpending hrecord (not_not.mp hgeneration) hstate rfl
          (congrArg Prod.fst hout) rfl rfl

theorem exit (r : WorkloadRegistry) (op : WorkloadCall) : Exit r op (r.call op) := by
  cases op with
  | declareWorkload id owner generation tick description =>
    exact exit_declareWorkload r id owner generation tick description
  | retireWorkload id generation tick =>
    generalize hout : r.retireWorkload id generation tick = out
    have hdef := hout
    rw [call, hout]
    unfold retireWorkload at hdef
    cases hrecord : r.workloads.lookup id with
    | none =>
      simp only [hrecord] at hdef
      exact hdef ▸ .unchanged rfl rfl
    | some w =>
      simp only [hrecord] at hdef
      split_ifs at hdef with hstale
      · exact hdef ▸ .unchanged rfl rfl
      · obtain rfl := not_not.mp hstale
        subst hdef
        exact .workloadRetired hrecord (congrArg Prod.fst hout) rfl rfl
  | proposeContract c tick => exact exit_proposeContract r c tick
  | activateContract id caller tick => exact exit_activateContract r id caller tick
  | retireContract id caller tick =>
    generalize hout : r.retireContract id caller tick = out
    have hdef := hout
    rw [call, hout]
    unfold retireContract at hdef
    cases hcontract : r.contracts.lookup id with
    | none =>
      simp only [hcontract] at hdef
      exact hdef ▸ .unchanged rfl rfl
    | some k =>
      simp only [hcontract] at hdef
      split_ifs at hdef
      · exact hdef ▸ .unchanged rfl rfl
      · subst hdef
        refine .contractRetired hcontract (congrArg Prod.fst hout) ?_ rfl
        cases hrecord : r.workloads.lookup k.workload with
        | none => exact Or.inl ⟨nofun, rfl⟩
        | some w =>
          by_cases hpointer : w.activeContract = id
          · exact Or.inr ⟨w, rfl, hpointer, if_pos hpointer⟩
          · exact Or.inl ⟨fun _ hw => Option.some.inj hw ▸ hpointer, if_neg hpointer⟩

end WorkloadRegistry
end FlowClassifier.Store
