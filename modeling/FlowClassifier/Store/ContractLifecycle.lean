import FlowClassifier.Lib.Runs
import FlowClassifier.Store.ActiveContracts

/-!
The registry over runs of its calls. A workload stays with its owner and its generation
only grows; an ACTIVE contract is the only one of its workload and shares its owner and
generation, and the workload is not RETIRED. Across a run a contract keeps its definition
and moves forward through its states.
-/
namespace FlowClassifier.Store

open Lib Foundation Workloads

namespace WorkloadRegistry

/-- No workload is lost or changes hands, and generations do not go back. -/
def Retains (r r' : WorkloadRegistry) : Prop :=
  ∀ id w, r.workloads.lookup id = some w →
    ∃ w', r'.workloads.lookup id = some w' ∧ w'.owner = w.owner ∧ w.generation ≤ w'.generation

/-- A workload that is RETIRED afterwards was so before, or has no active contract left. -/
def RetiresIdle (r r' : WorkloadRegistry) : Prop :=
  ∀ id w', r'.workloads.lookup id = some w' → w'.state = .retired →
    (∃ w, r.workloads.lookup id = some w ∧ w.state = .retired) ∨
      ∀ j k, r'.Active j k → k.workload ≠ id

section Workloads

variable {r r' : WorkloadRegistry}

theorem Retains.refl (r : WorkloadRegistry) : r.Retains r :=
  fun _ w hw => ⟨w, hw, rfl, le_refl _⟩

theorem Retains.trans {r'' : WorkloadRegistry} (h : r.Retains r') (h' : r'.Retains r'') :
    r.Retains r'' := by
  intro id w hw
  obtain ⟨w', hw', howner, hgeneration⟩ := h id w hw
  obtain ⟨w'', hw'', howner', hgeneration'⟩ := h' id w' hw'
  exact ⟨w'', hw'', howner'.trans howner, le_trans hgeneration hgeneration'⟩

/-- A call keeps the owner, and the generation and the standing unless it advances or retires. -/
def Treats (op : WorkloadCall) (id : WorkloadId) (w w' : WorkloadRecord) : Prop :=
  w'.owner = w.owner ∧
    (w'.generation = w.generation ∧ (w'.state = .retired → w.state = .retired) ∨
      (∃ tick description, op = .declareWorkload id w.owner w'.generation tick description ∧
        w.generation < w'.generation ∧ w'.state ≠ .retired) ∨
      ∃ tick, op = .retireWorkload id w.generation tick ∧ w'.generation = w.generation)

def Treated (op : WorkloadCall) (r r' : WorkloadRegistry) : Prop :=
  ∀ id, (r.workloads.lookup id = none ∧
      ∀ w', r'.workloads.lookup id = some w' → w'.state ≠ .retired) ∨
    ∃ w w', r.workloads.lookup id = some w ∧ r'.workloads.lookup id = some w' ∧
      Treats op id w w'

theorem treated_of_workloads (hsame : r'.workloads = r.workloads) (op : WorkloadCall) :
    Treated op r r' := by
  intro id
  rw [hsame]
  cases hw : r.workloads.lookup id with
  | none => exact Or.inl ⟨rfl, fun w' hw' => by cases hw'⟩
  | some w => exact Or.inr ⟨w, w, rfl, rfl, rfl, Or.inl ⟨rfl, fun h => h⟩⟩

/-- One record is added or replaced. -/
theorem treated_insert {op : WorkloadCall} {j : WorkloadId} {v : WorkloadRecord}
    (hinsert : r'.workloads = r.workloads.insert j v)
    (hnew : r.workloads.lookup j = none → v.state ≠ .retired)
    (hold : ∀ w, r.workloads.lookup j = some w → Treats op j w v) : Treated op r r' := by
  intro id
  rw [hinsert, FiniteMap.lookup_insert_eq]
  split_ifs with hj
  · subst hj
    cases hw : r.workloads.lookup id with
    | none =>
      refine Or.inl ⟨rfl, fun w' hw' => ?_⟩
      cases hw'
      exact hnew hw
    | some w => exact Or.inr ⟨w, v, rfl, rfl, hold w hw⟩
  · exact treated_of_workloads rfl op id

theorem treated_call (r : WorkloadRegistry) (op : WorkloadCall) : Treated op r (r.call op) := by
  have hexit := exit r op
  generalize r.call op = r' at hexit
  -- a record that is replaced is the one that was found
  have hreplaced : ∀ {op : WorkloadCall} {id : WorkloadId} {w w' : WorkloadRecord},
      r'.workloads = r.workloads.insert id w' → r.workloads.lookup id = some w →
      Treats op id w w' → Treated op r r' := by
    intro op id w w' hw hrecord htreats
    refine treated_insert hw (fun hnone => ?_) fun v hv => ?_
    · cases hnone.symm.trans hrecord
    · cases hv.symm.trans hrecord
      exact htreats
  cases hexit with
  | unchanged hw | contractProposed _ _ _ _ hw => exact treated_of_workloads hw _
  | described hrecord hsame hw =>
    rw [hsame] at hw
    exact hreplaced hw hrecord ⟨rfl, Or.inl ⟨rfl, id⟩⟩
  | created hnone _ hstate _ hw =>
    refine treated_insert hw (fun _ => by rw [hstate]; decide) fun w hrecord => ?_
    cases hnone.symm.trans hrecord
  | advanced hrecord howner hlt hnew _ hw =>
    rw [hnew] at hw
    exact hreplaced hw hrecord ⟨rfl, Or.inr (Or.inl ⟨_, _, by rw [howner], hlt, nofun⟩)⟩
  | workloadRetired hrecord _ hw =>
    exact hreplaced hw hrecord ⟨rfl, Or.inr (Or.inr ⟨_, rfl, rfl⟩)⟩
  | activated _ _ hrecord _ _ _ _ hw => exact hreplaced hw hrecord ⟨rfl, Or.inl ⟨rfl, nofun⟩⟩
  | contractRetired _ _ hw =>
    rcases hw with ⟨-, hw⟩ | ⟨w, hrecord, -, hw⟩
    · exact treated_of_workloads hw _
    · exact hreplaced hw hrecord ⟨rfl, Or.inl ⟨rfl, id⟩⟩

theorem Treated.retains {op : WorkloadCall} (h : Treated op r r') : r.Retains r' := by
  intro id w hw
  rcases h id with ⟨hnone, -⟩ | ⟨v, w', hv, hw', howner, hchange⟩
  · rw [hnone] at hw
    cases hw
  · rw [hv] at hw
    cases hw
    refine ⟨w', hw', howner, ?_⟩
    rcases hchange with ⟨hsame, -⟩ | ⟨_, _, -, hlt, -⟩ | ⟨_, -, hsame⟩
    · exact le_of_eq hsame.symm
    · exact le_of_lt hlt
    · exact le_of_eq hsame.symm

/-- A workload that becomes RETIRED has no active contract left. -/
theorem retiresIdle_call (r : WorkloadRegistry) (op : WorkloadCall) :
    r.RetiresIdle (r.call op) := by
  intro id w' hw' hretired
  rcases treated_call r op id with ⟨-, hnew⟩ | ⟨w, v, hw, hv, -, hchange⟩
  · exact absurd hretired (hnew w' hw')
  rw [hw'] at hv
  cases hv
  rcases hchange with ⟨-, hkept⟩ | ⟨_, _, -, -, hstanding⟩ | ⟨tick, rfl, -⟩
  · exact Or.inl ⟨w, hw, hkept hretired⟩
  · exact absurd hretired hstanding
  · -- the call has retired the contracts of the workload with it
    right
    intro j k hk hnamed
    have hcontracts : (r.call (.retireWorkload id w.generation tick)).contracts =
        (r.retireWhere (fun c => c.workload == id && c.state == .active) tick).contracts := by
      rw [call, retireWorkload, hw]
      dsimp only
      rw [if_neg (not_not.mpr rfl)]
    obtain ⟨hactive, hspared⟩ := (active_retireWhere_iff hcontracts).mp hk
    simp [hnamed, hactive.2] at hspared

end Workloads

theorem Later.trans {k k' k'' : WorkloadContract} (h : Later k k') (h' : Later k' k'') :
    Later k k'' := by
  refine ⟨?_, ?_⟩
  · rw [h'.definition, h.definition]
  · rcases h'.forward with rfl | hlt' | ⟨hretired', hretired''⟩
    · exact h.forward
    · rcases h.forward with rfl | hlt | ⟨-, hretired⟩
      · exact Or.inr (Or.inl hlt')
      · exact Or.inr (Or.inl (hlt.trans hlt'))
      · rw [hretired] at hlt'
        cases hstate : k''.state <;> simp [hstate, contractRank] at hlt'
    · rcases h.forward with rfl | hlt | ⟨hretired, -⟩
      · exact Or.inr (Or.inr ⟨hretired', hretired''⟩)
      · rw [hretired', ← hretired''] at hlt
        exact Or.inr (Or.inl hlt)
      · exact Or.inr (Or.inr ⟨hretired, hretired''⟩)

theorem Later.rank_le {k k' : WorkloadContract} (h : Later k k') :
    contractRank k.state ≤ contractRank k'.state := by
  rcases h.forward with rfl | hlt | ⟨hretired, hretired'⟩
  · exact le_refl _
  · exact le_of_lt hlt
  · rw [hretired, hretired']

structure Lawful (r : WorkloadRegistry) : Prop where
  coherent : r.Coherent
  sole : r.SoleActive
  owned : ∀ id k, r.contracts.lookup id = some k →
    ∃ w, r.workloads.lookup k.workload = some w ∧ w.owner = k.owner
  standing : ∀ id k w, r.Active id k → r.workloads.lookup k.workload = some w →
    w.state ≠ .retired

structure Called (r r' : WorkloadRegistry) : Prop where
  evolves : Evolves (fun k => ∃ w, r.workloads.lookup k.workload = some w ∧ w.owner = k.owner) r r'
  retains : r.Retains r'
  idle : r.RetiresIdle r'
  sole : r.SoleActive → r'.SoleActive
  active : ∀ j k, r'.Active j k → r.Active j k ∨
    ∃ w, r.workloads.lookup k.workload = some w ∧ w.state ≠ .retired

section Calls

variable {r : WorkloadRegistry}

theorem Called.refl (r : WorkloadRegistry) : r.Called r :=
  ⟨Evolves.refl _ r, .refl r, fun _ w' hw' hretired => Or.inl ⟨w', hw', hretired⟩, id,
    fun _ _ hk => Or.inl hk⟩

theorem called (hr : r.Coherent) (op : WorkloadCall) : r.Called (r.call op) := by
  refine ⟨(evolves_call hr op).imp ?_, (treated_call r op).retains, retiresIdle_call r op,
    (exit r op).soleActive hr, fun j k hk => ?_⟩
  · rintro k ⟨c, tick, -, rfl, howned⟩
    exact howned
  · exact ((exit r op).active hk).imp_right fun ⟨_, _, _, w, _, hw⟩ => ⟨w, hw⟩

theorem Called.lawful {r' : WorkloadRegistry} (h : r.Called r') (hr : r.Lawful) : r'.Lawful := by
  -- a contract's workload is found again with the same owner
  have howned : ∀ k : WorkloadContract,
      (∃ w, r.workloads.lookup k.workload = some w ∧ w.owner = k.owner) →
      ∃ w, r'.workloads.lookup k.workload = some w ∧ w.owner = k.owner := by
    rintro k ⟨w, hw, howner⟩
    obtain ⟨w', hw', howner', -⟩ := h.retains _ w hw
    exact ⟨w', hw', howner'.trans howner⟩
  refine ⟨h.evolves.coherent hr.coherent, h.sole hr.sole, ?_, ?_⟩
  · intro id k' hk'
    rcases h.evolves.origin id k' hk' with ⟨k, hk, hlater⟩ | hnew
    · refine howned k' ?_
      rw [hlater.definition]
      exact hr.owned id k hk
    · exact howned k' hnew
  · intro id k w hk hw hretired
    rcases h.idle _ w hw hretired with ⟨v, hv, hvretired⟩ | hnone
    · rcases h.active id k hk with hactive | ⟨v', hv', hstanding⟩
      · exact hr.standing id k v hactive hv hvretired
      · rw [hv] at hv'
        cases hv'
        exact hstanding hvretired
    · exact hnone id k hk rfl

variable (maxWorkloads maxContracts maxPendingContracts : UInt32)

def empty : WorkloadRegistry :=
  { maxWorkloads := maxWorkloads, maxContracts := maxContracts,
    maxPendingContracts := maxPendingContracts }

theorem lawful_empty : (empty maxWorkloads maxContracts maxPendingContracts).Lawful := by
  refine ⟨⟨?_, ?_, ?_, ?_⟩, ?_, ?_, ?_⟩
  · intro id w hw
    cases hw
  · intro id k hk
    cases hk
  · intro id k hk
    cases hk
  · intro id k hk
    cases hk
  · rintro id k id' k' ⟨hk, -⟩
    cases hk
  · intro id k hk
    cases hk
  · rintro id k w ⟨hk, -⟩
    cases hk

theorem lawful_run (hr : r.Lawful) (ops : List WorkloadCall) : (run call r ops).Lawful := by
  induction ops generalizing r with
  | nil => exact hr
  | cons op rest ih => exact ih ((called hr.coherent op).lawful hr)

theorem retains_run (hr : r.Lawful) (ops : List WorkloadCall) : r.Retains (run call r ops) := by
  induction ops generalizing r with
  | nil => exact Retains.refl r
  | cons op rest ih =>
    have hcalled := called hr.coherent op
    exact hcalled.retains.trans (ih (hcalled.lawful hr))

theorem later_run (hr : r.Lawful) (ops : List WorkloadCall) {id : ContractId}
    {k : WorkloadContract} (hk : r.contracts.lookup id = some k) :
    ∃ k', (run call r ops).contracts.lookup id = some k' ∧ Later k k' := by
  induction ops generalizing r k with
  | nil => exact ⟨k, hk, Later.refl k⟩
  | cons op rest ih =>
    have hcalled := called hr.coherent op
    obtain ⟨k₁, hk₁, hlater⟩ := hcalled.evolves.kept id k hk
    obtain ⟨k', hk', hlater'⟩ := ih (hcalled.lawful hr) hk₁
    exact ⟨k', hk', hlater.trans hlater'⟩

/-- In every state of every run from an empty registry a workload has at most one ACTIVE
contract and an ACTIVE contract agrees with its workload; from there on contracts move
forward with their definition unchanged, and workloads keep their owner and do not go
back in generation. -/
theorem contract_lifecycle (before after : List WorkloadCall) :
    let r := run call (empty maxWorkloads maxContracts maxPendingContracts) before
    let r' := run call r after
    (∀ id k id' k', r.contracts.lookup id = some k → k.state = .active →
      r.contracts.lookup id' = some k' → k'.state = .active → k.workload = k'.workload →
      id = id' ∧ k = k') ∧
    (∀ id k, r.contracts.lookup id = some k → k.state = .active →
      ∃ w, r.workloads.lookup k.workload = some w ∧ w.id = k.workload ∧ w.state ≠ .retired ∧
        w.owner = k.owner ∧ w.generation = k.workloadGeneration) ∧
    (∀ id k, r.contracts.lookup id = some k →
      ∃ k', r'.contracts.lookup id = some k' ∧
        contractRank k.state ≤ contractRank k'.state ∧
        k' = { k with
          state := k'.state, activatedTick := k'.activatedTick, retiredTick := k'.retiredTick } ∧
        k'.definitionDigest = k.definitionDigest) ∧
    ∀ id w, r.workloads.lookup id = some w →
      ∃ w', r'.workloads.lookup id = some w' ∧ w'.owner = w.owner ∧
        w.generation ≤ w'.generation := by
  intro r r'
  have hr : r.Lawful := lawful_run (lawful_empty _ _ _) before
  refine ⟨?_, ?_, ?_, retains_run hr after⟩
  · intro id k id' k' hk hactive hk' hactive' hworkload
    have hid := hr.sole id k id' k' ⟨hk, hactive⟩ ⟨hk', hactive'⟩ hworkload
    rw [hid, hk'] at hk
    exact ⟨hid, (Option.some.inj hk).symm⟩
  · intro id k hk hactive
    obtain ⟨w, hw, hgeneration⟩ := hr.coherent.active id k hk hactive
    obtain ⟨w', hw', howner⟩ := hr.owned id k hk
    rw [hw] at hw'
    cases hw'
    exact ⟨w, hw, hr.coherent.workload_id _ w hw, hr.standing id k w ⟨hk, hactive⟩ hw, howner,
      hgeneration⟩
  · intro id k hk
    obtain ⟨k', hk', hlater⟩ := later_run hr after hk
    refine ⟨k', hk', hlater.rank_le, hlater.definition, ?_⟩
    rw [hlater.definition]

end Calls

def replacementCalls : List WorkloadCall :=
  let contract (id : Bytes) : WorkloadContract :=
    { id := .make id, workload := .make (text "w"), workloadGeneration := 1,
      owner := .make (text "pub-a"), declaredClass := .collective, remotePort := 9000 }
  [.declareWorkload (.make (text "w")) (.make (text "pub-a")) 1 1 [],
   .proposeContract (contract (text "c-a")) 1,
   .proposeContract (contract (text "c-b")) 1,
   .activateContract (.make (text "c-a")) (.make (text "pub-a")) 2,
   .activateContract (.make (text "c-b")) (.make (text "pub-a")) 3]

theorem contract_lifecycle_replacement :
    let r := run call (empty 4 4 4) (replacementCalls.take 4)
    let r' := run call r (replacementCalls.drop 4)
    (∃ k, r.contracts.lookup (.make (text "c-a")) = some k ∧ k.state = .active ∧
      ∃ k', r'.contracts.lookup (.make (text "c-a")) = some k' ∧ k'.state = .retired ∧
        contractRank k.state ≤ contractRank k'.state) ∧
    ∃ k, r'.contracts.lookup (.make (text "c-b")) = some k ∧ k.state = .active ∧
      ∃ w, r'.workloads.lookup k.workload = some w ∧ w.owner = k.owner := by
  intro r r'
  obtain ⟨k, hk, hactive⟩ : ∃ k, r.contracts.lookup (.make (text "c-a")) = some k ∧
      k.state = .active := by decide +kernel
  obtain ⟨q, hq, hretired⟩ : ∃ q, r'.contracts.lookup (.make (text "c-a")) = some q ∧
      q.state = .retired := by decide +kernel
  obtain ⟨b, hb, hbactive⟩ : ∃ b, r'.contracts.lookup (.make (text "c-b")) = some b ∧
      b.state = .active := by decide +kernel
  obtain ⟨k', hk', hrank, -⟩ := (contract_lifecycle 4 4 4 (replacementCalls.take 4)
    (replacementCalls.drop 4)).2.2.1 _ k hk
  have hsame : k' = q := Option.some.inj (hk'.symm.trans hq)
  obtain ⟨w, hw, -, -, howner, -⟩ :=
    (contract_lifecycle 4 4 4 replacementCalls []).2.1 _ b hb hbactive
  exact ⟨⟨k, hk, hactive, q, hq, hretired, hsame ▸ hrank⟩, b, hb, hbactive, w, hw, howner⟩

end WorkloadRegistry
end FlowClassifier.Store
