import FlowClassifier.AfterRestart
import FlowClassifier.Pool
import FlowClassifier.Refusals
import FlowClassifier.Transitions

/-!
CONTRACT_DERIVED and the contract behind it. Such a candidate comes from the registry, or
a peer has submitted it. The first kind is backed by the contract it was derived from. A
submitted record is backed as long as its submission cited a contract that covers the flow
and declares the class: whatever makes that contract or its workload lose their state also
takes the record down.
-/
namespace FlowClassifier

open Lib Foundation Evidence Flows Workloads Engine Store EvidenceStore

variable {x : Candidate} {c : Classifier}

namespace Engine

variable {input : DecisionInput}

/-- A candidate that is CURRENT after its evaluation was so before, and nothing but the
reason of its state has changed. -/
theorem evaluate_current (h : (evaluate input x).record.state = .current) :
    x.record.state = .current ∧ (evaluate input x).record =
      { x.record with stateReason := (evaluate input x).record.stateReason } := by
  have hstate : (withCurrentness input x.record).state = .current →
      x.record.state = .current ∧ withCurrentness input x.record =
        { x.record with stateReason := (withCurrentness input x.record).stateReason } := by
    intro hcurrent
    unfold withCurrentness at hcurrent ⊢
    split_ifs at hcurrent ⊢ with hbefore
    · refine ⟨hbefore, ?_⟩
      dsimp only at hcurrent ⊢
      rw [hcurrent, hbefore]
    · exact absurd hcurrent hbefore
  unfold evaluate at h ⊢
  dsimp only at h ⊢
  split_ifs at h ⊢
  · exact ⟨h, rfl⟩
  -- the other branches differ in the disposition alone
  all_goals exact hstate h

/-- A candidate is a record of the input or derived from a contract that applies. -/
theorem mem_sortedCandidates_cases (h : x ∈ sortedCandidates input)
    (hcurrent : x.record.state = .current) :
    ∃ r, r.state = .current ∧ x.record = { r with stateReason := x.record.stateReason } ∧
      (r ∈ input.evidence ∨
        ∃ k ∈ input.activeContracts, contractApplies input k = true ∧ r = derived input k) := by
  obtain ⟨y, hy, rfl⟩ := List.mem_map.mp ((List.perm_insertionSort _ _).mem_iff.mp h)
  obtain ⟨hbefore, hsame⟩ := evaluate_current hcurrent
  refine ⟨y.record, hbefore, hsame, ?_⟩
  rcases List.mem_append.mp hy with hgiven | hderived
  · exact Or.inl (Pool.mem_assembleEvidence hgiven |>.1)
  · exact Or.inr (Pool.contract_of_mem_assembleContracts hderived)

end Engine

namespace Classifier

variable {op : Operation}

theorem of_current_foldl {α : Type} {p : α → EvidenceRecord → Bool} {reason : α → Bytes}
    {xs : List α} {s : EvidenceStore} {id : EvidenceId} {r : EvidenceRecord}
    (h : (xs.foldl (fun s x => s.markStaleWhere (p x) (reason x)) s).byId.lookup id = some r)
    (hcurrent : r.state = .current) : s.byId.lookup id = some r ∧ ∀ x ∈ xs, p x r = false := by
  induction xs generalizing s with
  | nil => exact ⟨h, fun x hx => by cases hx⟩
  | cons x rest ih =>
    obtain ⟨hmarked, hrest⟩ := ih h
    obtain ⟨hstored, hspared⟩ := of_current_markStaleWhere hmarked hcurrent
    refine ⟨hstored, fun y hy => ?_⟩
    rcases List.mem_cons.mp hy with rfl | hy
    · exact hspared
    · exact hrest y hy

/-- A contract stays ACTIVE, or no CURRENT record cites it afterwards. -/
theorem active_step (hr : c.workloads.Coherent) (hsole : c.workloads.SoleActive)
    (hop : op.Running) {id : ContractId}
    {k : WorkloadContract} (h : c.workloads.Active id k) (hnamed : id.isEmpty = false) :
    (c.step op).workloads.Active id k ∨
      ∀ j r, (c.step op).evidence.byId.lookup j = some r → r.state = .current →
        r.contract = id → r.workload = k.workload → False := by
  have hid : k.id = id := hr.contract_id id k h.1
  rw [workloads_call c hop]
  cases hcall : workloadCall op with
  | none => exact Or.inl h
  | some call =>
    refine ((WorkloadRegistry.exit c.workloads call).active_or_reported hr hsole h).imp_right ?_
    -- the records that cite a contract are marked when it is reported
    intro hreported j r hj hcurrent hcites hworkload
    cases op with
    | declareWorkload workload owner generation description tick =>
      cases hcall
      obtain ⟨record, reported, hok, hmem⟩ := hreported
      rw [step, declareWorkload] at hj
      generalize c.workloads.declareWorkload workload owner generation tick description = out
        at hok hj
      obtain ⟨result, workloads⟩ := out
      cases hok
      have hspared := (of_current_foldl hj hcurrent).2 _ hmem
      simp [citing, WorkloadRegistry.retired, hid, hcites] at hspared
    | proposeContract contract tick =>
      cases hcall
      exact hreported
    | activateContract j caller tick =>
      cases hcall
      obtain ⟨active, hok⟩ := hreported
      rw [step, activateContract] at hj
      generalize c.workloads.activateContract j caller tick = out at hok hj
      obtain ⟨result, workloads⟩ := out
      cases hok
      have hempty : (WorkloadRegistry.retired k tick).id.isEmpty = false := hid ▸ hnamed
      dsimp only at hj
      rw [hempty] at hj
      have hspared := (of_current_markStaleWhere hj hcurrent).2
      simp [citing, WorkloadRegistry.retired, hid, hcites] at hspared
    | retireContract j caller tick =>
      cases hcall
      obtain ⟨hok, rfl⟩ := hreported
      rw [step, retireContract] at hj
      generalize c.workloads.retireContract j caller tick = out at hok hj
      obtain ⟨result, workloads⟩ := out
      cases hok
      have hspared := (of_current_markStaleWhere hj hcurrent).2
      simp [citing, hcites] at hspared
    | retireWorkload workload generation tick =>
      cases hcall
      obtain ⟨hok, rfl⟩ := hreported
      rw [step, retireWorkload] at hj
      generalize c.workloads.retireWorkload k.workload generation tick = out at hok hj
      obtain ⟨result, workloads⟩ := out
      cases hok
      have hspared := (of_current_markStaleWhere hj hcurrent).2
      simp [hworkload] at hspared
    | _ => cases hcall

theorem called_step (hr : c.workloads.Coherent) (hop : op.Running) :
    c.workloads.Called (c.step op).workloads := by
  rw [workloads_call c hop]
  cases workloadCall op with
  | none => exact .refl c.workloads
  | some call => exact WorkloadRegistry.called hr call

theorem soleActive_step (hr : c.workloads.Coherent) (h : c.workloads.SoleActive)
    (hop : op.Running) : (c.step op).workloads.Coherent ∧ (c.step op).workloads.SoleActive :=
  ⟨(called_step hr hop).evolves.coherent hr, (called_step hr hop).sole h⟩

/-- A submission that would be stored as CONTRACT_DERIVED cites a contract, and the
contract covers the flow key and declares the class. -/
def Vouches (c : Classifier) : Operation → Prop
  | .submitEvidence envelope payload _ _ _ =>
    ∀ p, c.publishers.publishers.lookup envelope.publisher = some p →
      clampSource payload.claimedSource (ceiling envelope p) = .contractDerived →
      payload.contract.isEmpty = false ∧
        ∀ k, c.workloads.contracts.lookup payload.contract = some k →
          contractCovers k payload.flowKey = true ∧ k.declaredClass = payload.semantic
  | _ => True

/-- What a CURRENT record that was submitted as CONTRACT_DERIVED has behind it. -/
structure VouchedFor (scope : HashScope) (c : Classifier) (r : EvidenceRecord)
    (k : WorkloadContract) : Prop where
  active : c.workloads.Active r.contract k
  named : r.contract.isEmpty = false
  owner : k.owner = r.publisher
  workload : k.workload = r.workload
  declares : k.declaredClass = r.semantic
  covers : ∃ key ∈ scope.keys, r.flowId = deriveFlowId key ∧ contractCovers k key = true

structure Vouched (scope : HashScope) (c : Classifier) : Prop where
  flows : FlowsKeyed scope c.flows
  indexed : c.evidence.Indexed c.evidence.order
  workloads : c.workloads.Coherent
  sole : c.workloads.SoleActive
  backed : ∀ id r, c.evidence.byId.lookup id = some r → r.state = .current →
    r.source = .contractDerived → ∃ k, VouchedFor scope c r k

section Invariant

variable {scope : HashScope} {c' : Classifier}

theorem vouched_new (scope : HashScope) (options : ClassifierOptions) :
    Vouched scope (.new options) := by
  refine ⟨?_, indexed_new options, coherent_new options, ?_, ?_⟩
  · intro key f hf
    cases hf
  · rintro id k id' k' ⟨hk, -⟩
    cases hk
  · intro id r hr
    cases hr

theorem not_restore_of_keysIn (h : KeysIn scope op) (image : DurableState)
    (boot : CoordinatorBootId) (tick : Tick) : op ≠ .restore image boot tick := by
  rintro rfl
  exact h

/-- A record that arrives as CONTRACT_DERIVED has the contract it cites behind it. -/
theorem vouchedFor_of_arrived {r : EvidenceRecord} (harrived : Arrived c op r)
    (hkeys : KeysIn scope op) (hvouches : Vouches c op) (hsource : r.source = .contractDerived) :
    ∃ k, VouchedFor scope c r k := by
  cases harrived with
  | @submitted envelope payload tick touchTick wall effective flow c₁ seq hchecks hflow =>
    obtain ⟨registration, henvelope, heffective⟩ := hchecks.session
    obtain ⟨hnamed, hscope⟩ := hvouches registration henvelope.registered
      (heffective.symm.trans hsource)
    obtain ⟨k, hk, howner, hactive, hworkload, -⟩ := hchecks.contract hnamed
    obtain ⟨hcovers, hdeclares⟩ := hscope k hk
    have hflowId := (not_refuses_of_refreshFlow hflow).2.1
    exact ⟨k, ⟨hk, hactive⟩, hnamed, howner, hworkload, hdeclares,
      payload.flowKey, hkeys, hflowId, hcovers⟩

/-- A step that takes a contract down takes down the records that cite it. -/
theorem vouched_step (h : Vouched scope c) (hkeys : KeysIn scope op)
    (hvouches : Vouches c op) : Vouched scope (c.step op) := by
  have hop := not_restore_of_keysIn hkeys
  obtain ⟨hcoherent, hsole⟩ := soleActive_step h.workloads h.sole hop
  refine ⟨flowsKeyed_step h.flows hkeys, (records_step h.indexed hop).1, hcoherent, hsole, ?_⟩
  intro id r hr hcurrent hsource
  have hbefore : ∃ k, VouchedFor scope c r k := by
    rcases stored_step h.indexed hop hr with ⟨q, hq, hweak⟩ | harrived
    · rw [← hweak.eq_of_current hcurrent] at hq
      exact h.backed id r hq hcurrent hsource
    · exact vouchedFor_of_arrived harrived hkeys hvouches hsource
  obtain ⟨k, hk⟩ := hbefore
  rcases active_step h.workloads h.sole hop hk.active hk.named with hactive | hgone
  · exact ⟨k, hactive, hk.named, hk.owner, hk.workload, hk.declares, hk.covers⟩
  · exact (hgone id r hr hcurrent rfl hk.workload.symm).elim

theorem vouched_restart (h : Vouched scope c) {options : ClassifierOptions}
    {boot : CoordinatorBootId} {tick : Tick}
    (hrestore : restore c.durableState (.new options) boot tick = (.ok (), c')) :
    Vouched scope c' := by
  have hidle := idle_of_restart h.indexed hrestore
  have hindexed := (evidence_of_restart h.indexed hrestore).1
  obtain ⟨-, hdeclared, hstate⟩ := restore_ok hrestore
  obtain ⟨hcoherent, hcontracts⟩ := coherent_restore h.workloads (fun _ => rfl) (fun _ => rfl)
    hdeclared
  refine ⟨?_, hindexed, ?_, ?_, fun id r hr hcurrent => absurd hcurrent (hidle id r hr)⟩
  · rw [hstate]
    exact flowsKeyed_restore h.flows (vouched_new scope options).flows
  · rw [hstate]
    exact hcoherent
  · rw [hstate]
    exact h.sole.of_active fun id k hk => ⟨hcontracts id k hk.1, hk.2⟩

theorem vouched_of_reaches
    (h : Reaches (fun c op => KeysIn scope op ∧ Vouches c op) c) : Vouched scope c := by
  induction h with
  | new options => exact vouched_new scope options
  | step _ hop ih => exact vouched_step ih hop.1 hop.2
  | restart _ hrestore ih => exact vouched_restart ih hrestore

structure Backs (c : Classifier) (key : FlowKey) (r : EvidenceRecord) (k : WorkloadContract) :
    Prop where
  stored : c.workloads.contracts.lookup r.contract = some k
  active : k.state = .active
  owner : k.owner = r.publisher
  bound : ∃ w, c.workloads.workloads.lookup k.workload = some w ∧
    w.generation = k.workloadGeneration
  covers : contractCovers k key = true
  declares : k.declaredClass = r.semantic

/-- In every reachable state, a CURRENT candidate with source CONTRACT_DERIVED has the
contract it names behind it, whether it was derived or submitted. -/
theorem contract_derived_backed (h : Reaches (fun c op => KeysIn scope op ∧ Vouches c op) c)
    {key : FlowKey} {requested : FlowGeneration} {tick : Tick} {input : DecisionInput}
    (hasked : c.queryInput key requested tick = some input) {x : Candidate}
    (hx : x ∈ sortedCandidates input) (hcurrent : x.record.state = .current)
    (hsource : x.record.source = .contractDerived) : ∃ k, Backs c key x.record k := by
  have hinv := vouched_of_reaches h
  obtain ⟨flow, generation, hflow, rfl⟩ := decisionInput_of_queryInput hasked
  obtain ⟨hfkey, hfid, hfscope⟩ := hinv.flows key flow hflow
  obtain ⟨r, hstate, hsame, hstored | ⟨k, hk, happlies, rfl⟩⟩ :=
    mem_sortedCandidates_cases hx hcurrent
  · have hmem : r ∈ c.evidence.recordsForFlow flow.id := by
      rw [← filterMap_evidenceForFlow hinv.indexed flow.id]
      exact hstored
    obtain ⟨hlookup, hflowId⟩ := mem_recordsForFlow hinv.indexed hmem
    rw [hsame] at hsource ⊢
    obtain ⟨k, hk⟩ := hinv.backed r.id r hlookup hstate hsource
    obtain ⟨key', hkey', hid, hcovers⟩ := hk.covers
    have hkeys : key' = key := by
      refine scope.noFlowCollision hkey' hfscope ?_
      rw [← hid, hflowId, hfid]
    rw [hkeys] at hcovers
    exact ⟨k, hk.active.1, hk.active.2, hk.owner,
      hinv.workloads.active _ k hk.active.1 hk.active.2, hcovers, hk.declares⟩
  · rw [hsame]
    obtain ⟨hlookup, hactive⟩ := (mem_activeContracts hinv.workloads).mp hk
    have hcovers : contractCovers k flow.key = true := by
      unfold contractApplies at happlies
      simp only [Bool.and_eq_true] at happlies
      exact happlies.1.2
    rw [hfkey] at hcovers
    exact ⟨k, hlookup, hactive, rfl, hinv.workloads.active _ k hlookup hactive, hcovers, rfl⟩

end Invariant

def backingScope : HashScope :=
  .ofLists [] [sampleKey] List.nodup_nil nodup_sampleKey

def citedRun : List Operation :=
  [.declareWorkload (.make (text "trainer")) (.make (text "agent")) 1 [] 1,
   .proposeContract (sampleContract (text "c-a") .checkpoint []) 1,
   .activateContract (.make (text "c-a")) (.make (text "agent")) 2,
   .registerPublisher (.make (text "agent")) 2 .declaredAuthenticated (.make (text "s1")) [] 2 0,
   .submitEvidence { sampleEnvelope with maxSource := .declaredAuthenticated }
     { samplePayload .contractDerived 1 with
       contract := .make (text "c-a"), workload := .make (text "trainer"), workloadGeneration := 1 }
     3 3 0]

theorem reaches_citedRun :
    Reaches (fun c op => KeysIn backingScope op ∧ Vouches c op) (run step (.new {}) citedRun) := by
  refine (Reaches.new {}).run ⟨⟨trivial, trivial⟩, ⟨trivial, trivial⟩, ⟨trivial, trivial⟩,
    ⟨trivial, trivial⟩, ⟨List.mem_cons_self, ?_⟩, trivial⟩
  intro p _ _
  refine ⟨by decide, fun k hk => ?_⟩
  have hcontract : ((run step (.new {}) (citedRun.take 4)).workloads.contracts.lookup
      (.make (text "c-a"))).all (fun k => contractCovers k sampleKey = true ∧
        k.declaredClass = .checkpoint) = true := by
    decide +kernel
  have hk' : (run step (.new {}) (citedRun.take 4)).workloads.contracts.lookup
      (.make (text "c-a")) = some k := hk
  rw [hk', Option.all_some] at hcontract
  exact of_decide_eq_true hcontract

def submittedCandidate (c : Classifier) : Option Candidate :=
  (c.queryInput sampleKey 0 4).bind fun i => (sortedCandidates i).find? fun x =>
    x.record.publisherBoot == 2

theorem candidate_of_submitted (h : submittedCandidate c = some x) :
    ∃ input, c.queryInput sampleKey 0 4 = some input ∧ x ∈ sortedCandidates input := by
  obtain ⟨input, hinput, hfound⟩ := Option.bind_eq_some_iff.mp h
  exact ⟨input, hinput, List.mem_of_find?_eq_some hfound⟩

theorem contract_derived_backed_sample :
    let c := run step (.new {}) citedRun
    ∃ x, submittedCandidate c = some x ∧ x.record.state = .current ∧
      x.record.source = .contractDerived ∧ ∃ k, Backs c sampleKey x.record k := by
  intro c
  obtain ⟨x, hx, hcurrent, hsource⟩ : ∃ x, submittedCandidate c = some x ∧
      x.record.state = .current ∧ x.record.source = .contractDerived := by
    decide +kernel
  obtain ⟨input, hinput, hmem⟩ := candidate_of_submitted hx
  exact ⟨x, hx, hcurrent, hsource,
    contract_derived_backed reaches_citedRun hinput hmem hcurrent hsource⟩

def uncitedRun : List Operation :=
  [.registerPublisher (.make (text "agent")) 2 .declaredAuthenticated (.make (text "s1")) [] 2 0,
   .submitEvidence { sampleEnvelope with maxSource := .declaredAuthenticated }
     (samplePayload .contractDerived 1) 3 3 0]

theorem contract_derived_without_contract :
    let c := run step (.new {}) uncitedRun
    ∃ input x, c.queryInput sampleKey 0 4 = some input ∧ x ∈ sortedCandidates input ∧
      x.record.state = .current ∧ x.record.source = .contractDerived ∧
      ¬ ∃ k, Backs c sampleKey x.record k := by
  intro c
  obtain ⟨x, hx, hcurrent, hsource⟩ : ∃ x, submittedCandidate c = some x ∧
      x.record.state = .current ∧ x.record.source = .contractDerived := by
    decide +kernel
  have hnone : c.workloads.contracts.values = [] := by decide +kernel
  obtain ⟨input, hinput, hmem⟩ := candidate_of_submitted hx
  refine ⟨input, x, hinput, hmem, hcurrent, hsource, ?_⟩
  rintro ⟨k, hk⟩
  have hvalue := FiniteMap.mem_values_of_lookup hk.stored
  rw [hnone] at hvalue
  cases hvalue

end Classifier
end FlowClassifier
