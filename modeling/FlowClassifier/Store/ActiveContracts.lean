import FlowClassifier.Store.ContractHistory

/-!
The ACTIVE contracts over the calls of the registry. A workload has at most one of them,
and a contract stops being ACTIVE only where the call reports it: as outgrown by a new
generation, as displaced by another contract, or because it or its workload was retired.
-/
namespace FlowClassifier.Store.WorkloadRegistry

open Lib Foundation Workloads

def SoleActive (r : WorkloadRegistry) : Prop :=
  ∀ id k id' k', r.Active id k → r.Active id' k' → k.workload = k'.workload → id = id'

theorem SoleActive.of_active {r r' : WorkloadRegistry} (h : r.SoleActive)
    (hactive : ∀ id k, r'.Active id k → r.Active id k) : r'.SoleActive :=
  fun id k id' k' hk hk' => h id k id' k' (hactive id k hk) (hactive id' k' hk')

section Calls

variable {r r' : WorkloadRegistry} {op : WorkloadCall} {id : ContractId} {k : WorkloadContract}

/-- Besides the contract that was made active, what is still so belongs to other workloads. -/
theorem active_displacedBy_iff (hr : ∀ id k, r.contracts.lookup id = some k → k.id = id)
    {c active : WorkloadContract} {tick : Tick} (hstate : active.state = .active)
    (hc : r'.contracts = (r.retireWhere (displacedBy c) tick).contracts.insert c.id active) :
    r'.Active id k ↔ id = c.id ∧ k = active ∨ id ≠ c.id ∧ r.Active id k ∧
      k.workload ≠ c.workload := by
  rw [active_insert_iff (r := r.retireWhere (displacedBy c) tick) hc]
  refine or_congr (by simp [hstate]) (and_congr_right fun hne => ?_)
  rw [active_retireWhere_iff rfl]
  refine and_congr_right fun hk => ?_
  have hid : k.id ≠ c.id := by
    rw [hr id k hk.1]
    exact hne
  simp [displacedBy, hid, hk.2]

/-- A contract is active after a call because it was so, or because it was made so for a
workload that is not RETIRED. -/
theorem Exit.active (h : Exit r op r') (hk : r'.Active id k) :
    r.Active id k ∨ ∃ j caller tick w, op = .activateContract j caller tick ∧
      r.workloads.lookup k.workload = some w ∧ w.state ≠ .retired := by
  cases h with
  | unchanged _ hc | described _ _ _ hc | created _ _ _ _ _ hc =>
    rw [Active, hc] at hk
    exact Or.inl hk
  | advanced _ _ _ _ _ _ hc | workloadRetired _ _ _ hc =>
    exact Or.inl ((active_retireWhere_iff hc).mp hk).1
  | contractProposed _ _ _ _ _ hc | contractRetired _ _ _ hc =>
    rcases (active_insert_iff hc).mp hk with ⟨-, -, hstate⟩ | ⟨-, hactive⟩
    · cases hstate
    · exact Or.inl hactive
  | activated _ _ hrecord _ hstanding hactive _ _ hc =>
    rcases (active_insert_iff hc).mp hk with ⟨-, rfl, -⟩ | ⟨-, hother⟩
    · rw [hactive]
      exact Or.inr ⟨_, _, _, _, rfl, hrecord, hstanding⟩
    · exact Or.inl ((active_retireWhere_iff rfl).mp hother).1

/-- An activation retires the other contracts of the workload first. -/
theorem Exit.soleActive (h : Exit r op r') (hr : r.Coherent) (hsole : r.SoleActive) :
    r'.SoleActive := by
  by_cases hop : ∃ j caller tick, op = .activateContract j caller tick
  · obtain ⟨j, caller, tick, rfl⟩ := hop
    cases h with
    | unchanged _ hc => exact hsole.of_active fun id k hk => by rwa [Active, hc] at hk
    | activated _ _ _ _ _ hactive _ _ hc =>
      have hstate := congrArg WorkloadContract.state hactive
      have hworkload := congrArg WorkloadContract.workload hactive
      intro id k id' k' hk hk' heq
      rcases (active_displacedBy_iff hr.contract_id hstate hc).mp hk with
        ⟨rfl, rfl⟩ | ⟨-, hold, hne⟩
      · rcases (active_displacedBy_iff hr.contract_id hstate hc).mp hk' with
          ⟨rfl, -⟩ | ⟨-, -, hne'⟩
        · rfl
        · exact absurd (heq.symm.trans hworkload) hne'
      · rcases (active_displacedBy_iff hr.contract_id hstate hc).mp hk' with
          ⟨-, rfl⟩ | ⟨-, hold', -⟩
        · exact absurd (heq.trans hworkload) hne
        · exact hsole id k id' k' hold hold' heq
  · refine hsole.of_active fun id k hk => (h.active hk).resolve_right ?_
    rintro ⟨j, caller, tick, -, hactivate, -⟩
    exact hop ⟨j, caller, tick, hactivate⟩

def Reports (r : WorkloadRegistry) (id : ContractId) (k : WorkloadContract) : WorkloadCall → Prop
  | .declareWorkload workload owner generation tick description => ∃ record reported,
    (r.declareWorkload workload owner generation tick description).1 = .ok (record, reported) ∧
      retired k tick ∈ reported
  | .retireWorkload workload generation tick =>
    (r.retireWorkload workload generation tick).1 = .ok () ∧ k.workload = workload
  | .proposeContract .. => False
  | .activateContract j caller tick =>
    ∃ active, (r.activateContract j caller tick).1 = .ok (active, some (retired k tick))
  | .retireContract j caller tick => (r.retireContract j caller tick).1 = .ok () ∧ j = id

/-- Only one contract can be displaced, so it is the one that is reported. -/
theorem getLast_displacedBy (hk : r.Active id k) (hsole : r.SoleActive) {c : WorkloadContract}
    (hdisplaced : displacedBy c k = true) (tick : Tick) :
    ((r.contracts.values.filter (displacedBy c)).map (retired · tick)).getLast? =
      some (retired k tick) := by
  have hmem : k ∈ r.contracts.values.filter (displacedBy c) :=
    List.mem_filter.mpr ⟨FiniteMap.mem_values_of_lookup hk.1, hdisplaced⟩
  have hone : ∀ q ∈ r.contracts.values.filter (displacedBy c), q = k := by
    intro q hq
    obtain ⟨hvalue, hout⟩ := List.mem_filter.mp hq
    obtain ⟨j, hj⟩ := FiniteMap.mem_values.mp hvalue
    simp only [displacedBy, Bool.and_eq_true, beq_iff_eq] at hout hdisplaced
    have hsame := hsole j q id k ⟨hj, hout.2⟩ hk (hout.1.2.trans hdisplaced.1.2.symm)
    rw [hsame, hk.1] at hj
    exact (Option.some.inj hj).symm
  have hne : (r.contracts.values.filter (displacedBy c)).map (retired · tick) ≠ [] := by
    simpa using List.ne_nil_of_mem hmem
  obtain ⟨q, hq, hlast⟩ := List.mem_map.mp (List.getLast_mem hne)
  rw [List.getLast?_eq_some_getLast hne, ← hlast, hone q hq]

theorem Exit.active_or_reported (h : Exit r op r') (hr : r.Coherent) (hsole : r.SoleActive)
    (hk : r.Active id k) : r'.Active id k ∨ r.Reports id k op := by
  cases h with
  | unchanged _ hc | described _ _ _ hc | created _ _ _ _ _ hc =>
    rw [Active, hc]
    exact Or.inl hk
  | @advanced workload _ generation _ _ _ _ _ _ _ _ _ hok _ hc =>
    cases hout : outgrown workload generation k with
    | false => exact Or.inl ((active_retireWhere_iff hc).mpr ⟨hk, hout⟩)
    | true =>
      exact Or.inr ⟨_, _, hok, List.mem_map_of_mem
        (List.mem_filter.mpr ⟨FiniteMap.mem_values_of_lookup hk.1, hout⟩)⟩
  | @workloadRetired workload _ _ _ _ hok _ hc =>
    by_cases hout : k.workload = workload
    · exact Or.inr ⟨hok, hout⟩
    · exact Or.inl ((active_retireWhere_iff hc).mpr ⟨hk, by simp [hout]⟩)
  | contractProposed hfree _ _ _ _ hc =>
    refine Or.inl ((active_insert_iff hc).mpr (Or.inr ⟨?_, hk⟩))
    rintro rfl
    cases hfree.symm.trans hk.1
  | @contractRetired j _ _ _ _ _ hok _ hc =>
    by_cases hid : id = j
    · exact Or.inr ⟨hok, hid.symm⟩
    · exact Or.inl ((active_insert_iff hc).mpr (Or.inr ⟨hid, hk⟩))
  | @activated j _ tick c _ _ _ hcontract hpending _ _ _ hactive hok _ hc =>
    cases hdisplaced : displacedBy c k with
    | false =>
      have hid : id ≠ c.id := by
        rintro rfl
        rw [hr.contract_id j c hcontract] at hk
        cases hcontract.symm.trans hk.1
        cases hpending.symm.trans hk.2
      exact Or.inl ((active_insert_iff hc).mpr
        (Or.inr ⟨hid, (active_retireWhere_iff rfl).mpr ⟨hk, hdisplaced⟩⟩))
    | true =>
      rw [getLast_displacedBy hk hsole hdisplaced] at hok
      exact Or.inr ⟨_, hok⟩

end Calls

end FlowClassifier.Store.WorkloadRegistry
