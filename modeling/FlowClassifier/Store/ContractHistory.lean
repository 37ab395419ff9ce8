import FlowClassifier.Store.WorkloadCalls

/-!
What becomes of a contract. A contract keeps its definition, moves forward through its
states and is never removed, so a contract that was ACTIVE once is either still the same
or RETIRED. An ACTIVE contract is always bound to the current generation of its workload.
-/
namespace FlowClassifier.Store.WorkloadRegistry

open Lib Foundation Workloads FiniteMap

variable {k k' : WorkloadContract}

def contractRank : ContractState → ℕ
  | .pending => 0
  | .active => 1
  | .retired => 2

/-- The same contract, the same definition in a later state, or one that stays retired. -/
structure Later (k k' : WorkloadContract) : Prop where
  definition : k' = { k with
    state := k'.state, activatedTick := k'.activatedTick, retiredTick := k'.retiredTick }
  forward : k' = k ∨ contractRank k.state < contractRank k'.state ∨
    k.state = .retired ∧ k'.state = .retired

theorem Later.refl (k : WorkloadContract) : Later k k := ⟨rfl, Or.inl rfl⟩

theorem later_retired (k : WorkloadContract) (tick : Tick) : Later k (retired k tick) := by
  refine ⟨rfl, ?_⟩
  cases hstate : k.state with
  | pending | active => exact Or.inr (Or.inl (by simp [retired, contractRank]))
  | retired => exact Or.inr (Or.inr ⟨rfl, rfl⟩)

/-- A later version of an ACTIVE contract is the contract itself or RETIRED. -/
theorem Later.of_active (h : Later k k') (hactive : k.state = .active) :
    k' = k ∨ k'.state = .retired := by
  rcases h.forward with heq | hlt | ⟨hretired, -⟩
  · exact Or.inl heq
  · rw [hactive] at hlt
    cases hstate : k'.state with
    | retired => exact Or.inr rfl
    | pending | active => simp [hstate, contractRank] at hlt
  · rw [hactive] at hretired
    cases hretired

theorem Later.of_retired (h : Later k k')
    (hretired : k.state = .retired) : k'.state = .retired := by
  rcases h.forward with rfl | hlt | ⟨-, hstate⟩
  · exact hretired
  · rw [hretired] at hlt
    cases hstate : k'.state with
    | retired => rfl
    | pending | active => simp [hstate, contractRank] at hlt
  · exact hstate

/-- Nothing the digest covers depends on the state of the contract. -/
theorem Later.chunks (h : Later k k') : contractDigestChunks k' = contractDigestChunks k := by
  rw [h.definition]
  rfl

theorem Later.digest (h : Later k k') (hdigest : k.definitionDigest = computeContractDigest k) :
    k'.definitionDigest = computeContractDigest k' := by
  have hsame : k'.definitionDigest = k.definitionDigest := by rw [h.definition]
  rw [hsame, hdigest, computeContractDigest, computeContractDigest, h.chunks]

structure Coherent (r : WorkloadRegistry) : Prop where
  workload_id : ∀ id w, r.workloads.lookup id = some w → w.id = id
  contract_id : ∀ id k, r.contracts.lookup id = some k → k.id = id
  digest : ∀ id k, r.contracts.lookup id = some k → k.definitionDigest = computeContractDigest k
  active : ∀ id k, r.contracts.lookup id = some k → k.state = .active →
    ∃ w, r.workloads.lookup k.workload = some w ∧ w.generation = k.workloadGeneration

/-- No contract is lost, each one moves forward, and only the given one may be new. -/
structure Evolves (new : WorkloadContract → Prop) (r r' : WorkloadRegistry) : Prop where
  kept : ∀ id k, r.contracts.lookup id = some k →
    ∃ k', r'.contracts.lookup id = some k' ∧ Later k k'
  origin : ∀ id k', r'.contracts.lookup id = some k' →
    (∃ k, r.contracts.lookup id = some k ∧ Later k k') ∨ new k'
  coherent : r.Coherent → r'.Coherent

theorem Evolves.refl (new : WorkloadContract → Prop) (r : WorkloadRegistry) : Evolves new r r :=
  ⟨fun _ k h => ⟨k, h, Later.refl k⟩, fun _ k h => Or.inl ⟨k, h, Later.refl k⟩, id⟩

theorem Evolves.imp {new new' : WorkloadContract → Prop} {r r' : WorkloadRegistry}
    (h : Evolves new r r') (himp : ∀ k, new k → new' k) : Evolves new' r r' :=
  ⟨h.kept, fun id k hk => (h.origin id k hk).imp_right (himp k), h.coherent⟩

structure Keyed (r : WorkloadRegistry) : Prop where
  workload_id : ∀ id w, r.workloads.lookup id = some w → w.id = id
  contract_id : ∀ id k, r.contracts.lookup id = some k → k.id = id
  digest : ∀ id k, r.contracts.lookup id = some k → k.definitionDigest = computeContractDigest k

def Active (r : WorkloadRegistry) (id : ContractId) (k : WorkloadContract) : Prop :=
  r.contracts.lookup id = some k ∧ k.state = .active

/-- Every contract is kept or replaced by a later version, and none is added. -/
def Moves (r r' : WorkloadRegistry) : Prop :=
  ∀ id, (r'.contracts.lookup id = none ∧ r.contracts.lookup id = none) ∨
    ∃ k k', r.contracts.lookup id = some k ∧ r'.contracts.lookup id = some k' ∧ Later k k'

section Contracts

variable {r r₁ r' : WorkloadRegistry} {id j : ContractId}
  {p : WorkloadContract → Bool} {tick : Tick}

theorem lookup_retireWhere (r : WorkloadRegistry) (p : WorkloadContract → Bool) (tick : Tick)
    (id : ContractId) :
    (r.retireWhere p tick).contracts.lookup id =
      (r.contracts.lookup id).map fun k => if p k then retired k tick else k :=
  lookup_mapValues _ _ _

theorem moves_of_contracts (hc : r'.contracts = r.contracts) : r.Moves r' := by
  intro id
  rw [hc]
  cases r.contracts.lookup id with
  | none => exact Or.inl ⟨rfl, rfl⟩
  | some k => exact Or.inr ⟨k, k, rfl, rfl, Later.refl k⟩

theorem moves_retireWhere (hc : r'.contracts = (r.retireWhere p tick).contracts) : r.Moves r' := by
  intro id
  rw [hc, lookup_retireWhere]
  cases r.contracts.lookup id with
  | none => exact Or.inl ⟨rfl, rfl⟩
  | some k =>
    refine Or.inr ⟨k, _, rfl, rfl, ?_⟩
    dsimp only
    split_ifs
    · exact later_retired k tick
    · exact Later.refl k

theorem Moves.insert (h : r.Moves r₁) (hk : r.contracts.lookup id = some k) (hlater : Later k k')
    (hc : r'.contracts = r₁.contracts.insert id k') : r.Moves r' := by
  intro j
  rw [hc, lookup_insert_eq]
  split_ifs with hj
  · rw [hj]
    exact Or.inr ⟨k, k', hk, rfl, hlater⟩
  · exact h j

theorem Moves.kept (h : r.Moves r') (hk : r.contracts.lookup id = some k) :
    ∃ k', r'.contracts.lookup id = some k' ∧ Later k k' := by
  rcases h id with ⟨-, hnone⟩ | ⟨k₁, k', hk₁, hk', hlater⟩
  · cases hnone.symm.trans hk
  · cases hk₁.symm.trans hk
    exact ⟨k', hk', hlater⟩

theorem Moves.origin (h : r.Moves r') (hk' : r'.contracts.lookup id = some k') :
    ∃ k, r.contracts.lookup id = some k ∧ Later k k' := by
  rcases h id with ⟨hnone, -⟩ | ⟨k, k₁, hk, hk₁, hlater⟩
  · cases hnone.symm.trans hk'
  · cases hk₁.symm.trans hk'
    exact ⟨k, hk, hlater⟩

theorem active_retireWhere_iff (hc : r'.contracts = (r.retireWhere p tick).contracts) :
    r'.Active id k ↔ r.Active id k ∧ p k = false := by
  rw [Active, Active, hc, lookup_retireWhere]
  constructor
  · rintro ⟨hlookup, hactive⟩
    obtain ⟨k₁, hk₁, heq⟩ := Option.map_eq_some_iff.mp hlookup
    split_ifs at heq with hp
    · rw [← heq, retired] at hactive
      cases hactive
    · rw [← heq] at hactive ⊢
      exact ⟨⟨hk₁, hactive⟩, by simpa using hp⟩
  · rintro ⟨⟨hlookup, hactive⟩, hp⟩
    rw [hlookup, Option.map_some, hp]
    exact ⟨rfl, hactive⟩

theorem active_insert_iff (hc : r'.contracts = r.contracts.insert id k') :
    r'.Active j k ↔ j = id ∧ k = k' ∧ k'.state = .active ∨ j ≠ id ∧ r.Active j k := by
  rw [Active, Active, hc, lookup_insert_eq]
  split_ifs with hj
  · constructor
    · rintro ⟨heq, hactive⟩
      cases heq
      exact Or.inl ⟨hj, rfl, hactive⟩
    · rintro (⟨-, rfl, hactive⟩ | ⟨hne, -⟩)
      · exact ⟨rfl, hactive⟩
      · exact absurd hj hne
  · constructor
    · exact fun h => Or.inr ⟨hj, h⟩
    · rintro (⟨heq, -⟩ | ⟨-, h⟩)
      · exact absurd heq hj
      · exact h

end Contracts

section Workloads

variable {r r' : WorkloadRegistry} {op : WorkloadCall} {id : WorkloadId} {record w : WorkloadRecord}

/-- Replacing a workload record by one of the same identity keeps the keys. -/
theorem workload_id_insert (h : ∀ id w, r.workloads.lookup id = some w → w.id = id)
    (hw : r'.workloads = r.workloads.insert id w) (hid : w.id = id) :
    ∀ j v, r'.workloads.lookup j = some v → v.id = j := by
  intro j v hv
  rw [hw, lookup_insert_eq] at hv
  split_ifs at hv with hj
  · cases hv
    rw [hid, hj]
  · exact h j v hv

/-- A contract bound to its workload stays bound while the generation stays. -/
theorem bound_insert (hrecord : r.workloads.lookup id = some record)
    (hw : r'.workloads = r.workloads.insert id w) (hgen : w.generation = record.generation)
    (hk : ∃ v, r.workloads.lookup k.workload = some v ∧ v.generation = k.workloadGeneration) :
    ∃ v, r'.workloads.lookup k.workload = some v ∧ v.generation = k.workloadGeneration := by
  obtain ⟨v, hv, hvgen⟩ := hk
  rw [hw, lookup_insert_eq]
  split_ifs with hid
  · refine ⟨w, rfl, ?_⟩
    rw [hid, hrecord] at hv
    cases hv
    rw [hgen, hvgen]
  · exact ⟨v, hv, hvgen⟩

/-- And so does a contract of another workload. -/
theorem bound_insert_of_ne (hw : r'.workloads = r.workloads.insert id w) (hne : k.workload ≠ id)
    (hk : ∃ v, r.workloads.lookup k.workload = some v ∧ v.generation = k.workloadGeneration) :
    ∃ v, r'.workloads.lookup k.workload = some v ∧ v.generation = k.workloadGeneration := by
  rwa [hw, lookup_insert_eq, if_neg hne]

theorem Exit.workload_id (h : Exit r op r')
    (hr : ∀ id w, r.workloads.lookup id = some w → w.id = id) :
    ∀ id w, r'.workloads.lookup id = some w → w.id = id := by
  cases h with
  | unchanged hw | contractProposed _ _ _ _ hw =>
    rw [hw]
    exact hr
  | described hrecord hsame hw =>
    have hid := hr _ _ hrecord
    exact workload_id_insert hr hw (by rw [hsame]; exact hid)
  | created _ hid _ _ hw => exact workload_id_insert hr hw hid
  | advanced hrecord _ _ hnew _ hw =>
    have hid := hr _ _ hrecord
    exact workload_id_insert hr hw (by rw [hnew]; exact hid)
  | workloadRetired hrecord _ hw | activated _ _ hrecord _ _ _ _ hw =>
    have hid := hr _ _ hrecord
    exact workload_id_insert hr hw hid
  | contractRetired _ _ hw =>
    rcases hw with ⟨-, hw⟩ | ⟨w, hrecord, -, hw⟩
    · rw [hw]
      exact hr
    · exact workload_id_insert hr hw (hr _ w hrecord)

/-- A call adds no contract, unless it is a proposal for a workload of its owner. -/
theorem Exit.moves (h : Exit r op r') (hr : ∀ id k, r.contracts.lookup id = some k → k.id = id) :
    r.Moves r' ∨ ∃ c tick, op = .proposeContract c tick ∧ r.contracts.lookup c.id = none ∧
      (∃ w, r.workloads.lookup c.workload = some w ∧ w.owner = c.owner) ∧
      r.contracts.size < r.maxContracts.toNat ∧
      r'.contracts = r.contracts.insert c.id (proposed c tick) := by
  cases h with
  | unchanged _ hc | described _ _ _ hc | created _ _ _ _ _ hc =>
    exact Or.inl (moves_of_contracts hc)
  | advanced _ _ _ _ _ _ hc | workloadRetired _ _ _ hc => exact Or.inl (moves_retireWhere hc)
  | contractProposed hfree hrecord howner hroom _ hc =>
    exact Or.inr ⟨_, _, rfl, hfree, ⟨_, hrecord, howner⟩, hroom, hc⟩
  | activated hcontract hpending _ _ _ hactive _ _ hc =>
    have hid := hr _ _ hcontract
    refine Or.inl ((moves_retireWhere rfl).insert (hid.symm ▸ hcontract) ?_ hc)
    rw [hactive]
    refine ⟨rfl, Or.inr (Or.inl ?_)⟩
    rw [hpending]
    exact Nat.zero_lt_one
  | contractRetired hcontract _ _ hc =>
    exact Or.inl ((moves_of_contracts rfl).insert hcontract (later_retired _ _) hc)

theorem Exit.keyed (h : Exit r op r') (hr : r.Keyed) : r'.Keyed := by
  have hworkloads := h.workload_id hr.workload_id
  rcases h.moves hr.contract_id with hmoves | ⟨c, tick, -, -, -, -, hc⟩
  · refine ⟨hworkloads, fun id k' hk' => ?_, fun id k' hk' => ?_⟩
    · obtain ⟨k, hk, hlater⟩ := hmoves.origin hk'
      rw [hlater.definition]
      exact hr.contract_id id k hk
    · obtain ⟨k, hk, hlater⟩ := hmoves.origin hk'
      exact hlater.digest (hr.digest id k hk)
  · refine ⟨hworkloads, fun id k hk => ?_, fun id k hk => ?_⟩
    · rw [hc, lookup_insert_eq] at hk
      split_ifs at hk with hid
      · cases hk
        exact hid.symm
      · exact hr.contract_id id k hk
    · rw [hc, lookup_insert_eq] at hk
      split_ifs at hk
      · cases hk
        rfl
      · exact hr.digest id k hk

/-- An advance outgrows the active contracts of the workload. -/
theorem outgrown_of_active (hr : r.Coherent) (hrecord : r.workloads.lookup id = some w)
    {generation : WorkloadGeneration} (hlt : w.generation < generation) {j : ContractId}
    (hk : r.Active j k) (hworkload : k.workload = id) : outgrown id generation k = true := by
  obtain ⟨v, hv, hvgen⟩ := hr.active j k hk.1 hk.2
  rw [hworkload, hrecord] at hv
  cases hv
  rw [hvgen] at hlt
  simp [outgrown, hworkload, hk.2, hlt]

/-- An active contract stays bound to the generation of its workload. -/
theorem Exit.bound (h : Exit r op r') (hr : r.Coherent) {j : ContractId} (hk : r'.Active j k) :
    ∃ w, r'.workloads.lookup k.workload = some w ∧ w.generation = k.workloadGeneration := by
  have hbound {j k} (hk : r.Active j k) := hr.active j k hk.1 hk.2
  cases h with
  | unchanged hw hc =>
    rw [Active, hc] at hk
    rw [hw]
    exact hbound hk
  | described hrecord hsame hw hc =>
    rw [Active, hc] at hk
    exact bound_insert hrecord hw (by rw [hsame]) (hbound hk)
  | created hnone _ _ _ hw hc =>
    rw [Active, hc] at hk
    refine bound_insert_of_ne hw (fun heq => ?_) (hbound hk)
    obtain ⟨v, hv, -⟩ := hbound hk
    rw [heq, hnone] at hv
    cases hv
  | advanced hrecord _ hlt _ _ hw hc =>
    obtain ⟨hactive, hspared⟩ := (active_retireWhere_iff hc).mp hk
    refine bound_insert_of_ne hw (fun heq => ?_) (hbound hactive)
    rw [outgrown_of_active hr hrecord hlt hactive heq] at hspared
    cases hspared
  | workloadRetired hrecord _ hw hc =>
    exact bound_insert hrecord hw rfl (hbound ((active_retireWhere_iff hc).mp hk).1)
  | contractProposed _ _ _ _ hw hc =>
    rcases (active_insert_iff hc).mp hk with ⟨-, -, hpending⟩ | ⟨-, hactive⟩
    · cases hpending
    · rw [hw]
      exact hbound hactive
  | activated _ _ hrecord hgeneration _ hactive _ hw hc =>
    refine bound_insert hrecord hw rfl ?_
    rcases (active_insert_iff hc).mp hk with ⟨-, rfl, -⟩ | ⟨-, hother⟩
    · rw [hactive]
      exact ⟨_, hrecord, hgeneration⟩
    · exact hbound ((active_retireWhere_iff rfl).mp hother).1
  | contractRetired _ _ hw hc =>
    rcases (active_insert_iff hc).mp hk with ⟨-, -, hretired⟩ | ⟨-, hactive⟩
    · cases hretired
    · rcases hw with ⟨-, hw⟩ | ⟨w, hrecord, -, hw⟩
      · rw [hw]
        exact hbound hactive
      · exact bound_insert hrecord hw rfl (hbound hactive)

def Proposes (r : WorkloadRegistry) (op : WorkloadCall) (k : WorkloadContract) : Prop :=
  ∃ c tick, op = .proposeContract c tick ∧ k = proposed c tick ∧
    ∃ w, r.workloads.lookup c.workload = some w ∧ w.owner = c.owner

theorem evolves_call (hr : r.Coherent) (op : WorkloadCall) :
    Evolves (r.Proposes op) r (r.call op) := by
  have hexit := exit r op
  have hcoherent : (r.call op).Coherent := by
    have hkeyed := hexit.keyed ⟨hr.workload_id, hr.contract_id, hr.digest⟩
    exact ⟨hkeyed.workload_id, hkeyed.contract_id, hkeyed.digest,
      fun j k hk hactive => hexit.bound hr ⟨hk, hactive⟩⟩
  rcases hexit.moves hr.contract_id with hmoves | ⟨c, tick, hop, hfree, hw, -, hc⟩
  · exact ⟨fun _ _ => hmoves.kept, fun _ _ hk => Or.inl (hmoves.origin hk), fun _ => hcoherent⟩
  · refine ⟨fun id k hk => ⟨k, ?_, Later.refl k⟩, fun id k hk => ?_, fun _ => hcoherent⟩
    · have hne : id ≠ c.id := by
        rintro rfl
        cases hfree.symm.trans hk
      rw [hc, lookup_insert_eq, if_neg hne, hk]
    · rw [hc, lookup_insert_eq] at hk
      split_ifs at hk
      · cases hk
        exact Or.inr ⟨c, tick, hop, rfl, hw⟩
      · exact Or.inl ⟨k, hk, Later.refl k⟩

end Workloads

end FlowClassifier.Store.WorkloadRegistry
