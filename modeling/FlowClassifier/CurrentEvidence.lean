import FlowClassifier.Attribution
import FlowClassifier.Backing

/-!
Evidence that is stored as CURRENT is current. Such a record is bound to the incarnation
that its flow has now, was accepted in the epoch that is served now, names no workload that
is retired, and the contract that it cites is in force. Each operation that moves one of
the four takes down the records that relied on the old value. Restoring brings in contracts
that no operation has made; two of them may be ACTIVE on one workload, and then a
replacement retires both and takes down the records of one.
-/
namespace FlowClassifier

open Lib Foundation Evidence Flows Workloads Engine Store EvidenceStore FiniteMap

variable {r : EvidenceRecord} {c : Classifier} {scope : HashScope}

namespace Classifier

section Flows

variable {result : Result FlowRegistration}

variable {c₁ : Classifier} {key : FlowKey} {requested : FlowGeneration} {session : SessionId}
  {tick : Tick}

/-- A new incarnation takes down the records of the flow. -/
theorem of_current_refreshFlow
    (h : c.refreshFlow key requested session tick = (result, c₁)) {id : EvidenceId}
    (hr : c₁.evidence.byId.lookup id = some r) (hcurrent : r.state = .current) :
    c.evidence.byId.lookup id = some r ∧
      ∀ flow, result = .ok flow → flow.created = true → r.flowId ≠ flow.record.id := by
  rcases result with e | flow
  · rw [(refreshFlow_error h).2.1] at hr
    exact ⟨hr, fun flow hflow => by cases hflow⟩
  have hmarks := (refreshFlow_ok h).2
  -- the fence only takes down more than the new incarnation did
  have hstored : (if flow.created then
      c.evidence.markStaleWhere (fun r => r.flowId == flow.record.id)
      (text "flow incarnation replaced") else c.evidence).byId.lookup id = some r := by
    cases hfenced : flow.fencedPrevious with
    | false =>
      rw [hfenced] at hmarks
      exact hmarks.2 ▸ hr
    | true =>
      rw [hfenced] at hmarks
      obtain ⟨-, p, reason, hevidence⟩ := hmarks
      exact (of_current_markStaleWhere (hevidence ▸ hr) hcurrent).1
  cases hcreated : flow.created with
  | false =>
    rw [hcreated] at hstored
    refine ⟨hstored, fun flow' hflow' htrue => ?_⟩
    cases hflow'
    rw [hcreated] at htrue
    cases htrue
  | true =>
    rw [hcreated] at hstored
    obtain ⟨hbefore, hspared⟩ := of_current_markStaleWhere hstored hcurrent
    refine ⟨hbefore, fun flow' hflow' _ => ?_⟩
    cases hflow'
    exact beq_eq_false_iff_ne.mp hspared

theorem registerFlow_of_refreshFlow (h : c.refreshFlow key requested session tick = (result, c₁)) :
    c.flows.registerFlow key requested session tick = (result, c₁.flows) := by
  cases result with
  | error e => exact (refreshFlow_error h).1
  | ok flow => exact (refreshFlow_ok h).1

/-- A record that stays CURRENT is bound to the same incarnation after a registration. -/
theorem flow_refreshFlow
    (h : c.refreshFlow key requested session tick = (result, c₁)) {id : EvidenceId}
    (hr : c₁.evidence.byId.lookup id = some r)
    (hcurrent : r.state = .current) {key' : FlowKey} {f : FlowRecord}
    (hf : c.flows.current.lookup key' = some f) (hkey : deriveFlowId key' = r.flowId) :
    ∃ f', c₁.flows.current.lookup key' = some f' ∧ f'.id = f.id ∧ f'.generation = f.generation := by
  have hspared := (of_current_refreshFlow h hr hcurrent).2
  have hregistered := c.flows.registerFlow_current key requested session tick
  rw [registerFlow_of_refreshFlow h] at hregistered
  rcases hregistered with ⟨-, hsame⟩ | ⟨flow, hok, hinsert, hderived, -, hflow⟩
  · exact ⟨f, hsame ▸ hf, rfl, rfl⟩
  rw [hinsert, lookup_insert_eq]
  by_cases hsame : key' = key
  · subst hsame
    rw [if_pos rfl]
    rcases hflow with hcreated | ⟨g, hg, hgid, hgeneration⟩
    · exact absurd (hkey.symm.trans hderived.symm) (hspared flow hok hcreated)
    · rw [hf] at hg
      cases hg
      exact ⟨flow.record, rfl, hgid.symm, hgeneration.symm⟩
  · rw [if_neg hsame]
    exact ⟨f, hf, rfl, rfl⟩

end Flows

/-- A submission is turned down at the checks, or the flow of its key is refreshed. What is
CURRENT afterwards was so in the refreshed state or is the record that was built. -/
theorem Submission.refreshed {envelope : SessionEnvelope}
    {payload : EvidencePayload} {tick touchTick : Tick} {wall : UInt64}
    {out : Result EvidenceSubmissionOutcome × Classifier}
    (h : Submission c envelope payload tick touchTick wall out)
    (hc : c.evidence.Indexed c.evidence.order) :
    (out.2.flows = c.flows ∧ out.2.evidence = c.evidence) ∨
    ∃ result c₁, c.refreshFlow payload.flowKey payload.flowGeneration envelope.session tick =
        (result, c₁) ∧ out.2.flows = c₁.flows ∧
      ∀ id r, out.2.evidence.byId.lookup id = some r → r.state = .current →
        c₁.evidence.byId.lookup id = some r ∨ ∃ effective flow seq, result = .ok flow ∧
          r = c.buildRecord envelope payload effective flow.record seq tick := by
  have hrefresh := (refreshFlow_stores c payload.flowKey payload.flowGeneration envelope.session
    tick).2.1
  cases h with
  | inadmissible => exact Or.inl ⟨rfl, rfl⟩
  | flowRefused _ hflow | generationRefused _ hflow | exhausted _ hflow =>
    exact Or.inr ⟨_, _, hflow, rfl, fun id r hr _ => Or.inl hr⟩
  | storeRefused _ hflow _ _ hrecord hsupersede _ hinsert
  | accepted _ hflow _ _ hrecord hsupersede _ hinsert =>
    rw [hflow] at hrefresh
    obtain ⟨hflows, hreviewed⟩ := supersedeOlder_stores hsupersede
    refine Or.inr ⟨_, _, hflow, hflows, fun id r hr hcurrent => ?_⟩
    rcases (hreviewed.records_of_insert (hrefresh.indexed_order hc) hinsert).2 id r hr with
      ⟨q, hq, hweak⟩ | ⟨-, -, rfl⟩
    · rw [hweak.eq_of_current hcurrent]
      exact Or.inl hq
    · exact Or.inr ⟨_, _, _, rfl, hrecord⟩

theorem of_current_retireWorkload {id : WorkloadId} {w : WorkloadRecord}
    (hw : c.workloads.workloads.lookup id = some w) {tick : Tick} {j : EvidenceId}
    (hr : (c.step (.retireWorkload id w.generation tick)).evidence.byId.lookup j = some r)
    (hcurrent : r.state = .current) : r.workload ≠ id := by
  rw [step, retireWorkload, WorkloadRegistry.retireWorkload, hw] at hr
  dsimp only at hr
  rw [if_neg (not_not.mpr rfl)] at hr
  exact beq_eq_false_iff_ne.mp (of_current_markStaleWhere hr hcurrent).2

/-- The record is about the incarnation that the flow of its key has now, and no other key
has this flow identity. -/
def OnCurrentFlow (scope : HashScope) (c : Classifier) (r : EvidenceRecord) : Prop :=
  ∃ key ∈ scope.keys, (∀ other ∈ scope.keys, deriveFlowId other = r.flowId ↔ other = key) ∧
    ∃ f, c.flows.current.lookup key = some f ∧ f.id = r.flowId ∧ f.generation = r.flowGeneration

structure ReallyCurrent (scope : HashScope) (c : Classifier) (r : EvidenceRecord) : Prop where
  flow : OnCurrentFlow scope c r
  epoch : r.acceptedEpoch = c.epoch
  workload : r.workload.isEmpty = false →
    ∃ w, c.workloads.workloads.lookup r.workload = some w ∧ w.state ≠ .retired
  contract : r.contract.isEmpty = false →
    ∃ k, c.workloads.contracts.lookup r.contract = some k ∧ k.state = .active ∧
      k.owner = r.publisher ∧ k.workload = r.workload ∧
      ∃ w, c.workloads.workloads.lookup r.workload = some w ∧
        w.generation = k.workloadGeneration

structure Truthful (scope : HashScope) (c : Classifier) : Prop where
  indexed : c.evidence.Indexed c.evidence.order
  workloads : c.workloads.Coherent
  sole : c.workloads.SoleActive
  current : ∀ id r, c.evidence.byId.lookup id = some r → r.state = .current →
    ReallyCurrent scope c r

section Invariant

variable {op : Operation} {id : EvidenceId}

/-- A record that stays CURRENT keeps its incarnation, and one that arrives is bound to the
incarnation it was submitted for. -/
theorem onCurrentFlow_step (hc : c.evidence.Indexed c.evidence.order) (hkeys : KeysIn scope op)
    (hr : (c.step op).evidence.byId.lookup id = some r) (hcurrent : r.state = .current)
    (hbefore : c.evidence.byId.lookup id = some r → OnCurrentFlow scope c r) :
    OnCurrentFlow scope (c.step op) r := by
  -- a refreshed flow keeps what its registration did not take down
  have hrefresh : ∀ {key requested session tick result c₁ d},
      c.refreshFlow key requested session tick = (result, c₁) → d.flows = c₁.flows →
      c₁.evidence.byId.lookup id = some r → OnCurrentFlow scope d r := by
    intro key requested session tick result c₁ d hflow hflows hstored
    obtain ⟨key', hkey', hunique, f, hf, hfid, hgeneration⟩ :=
      hbefore (of_current_refreshFlow hflow hstored hcurrent).1
    obtain ⟨f', hf', hsameId, hsameGeneration⟩ := flow_refreshFlow hflow hstored hcurrent hf
      ((hunique key' hkey').mpr rfl)
    refine ⟨key', hkey', hunique, f', ?_, hsameId.trans hfid, hsameGeneration.trans hgeneration⟩
    rw [hflows, hf']
  by_cases htouches : TouchesFlows op
  · cases op with
    | registerFlow key requested session tick =>
      rw [step, registerFlow] at hr ⊢
      exact hrefresh rfl rfl hr
    | submitEvidence envelope payload tick touchTick wall =>
      rw [step] at hr ⊢
      rcases (submission c envelope payload tick touchTick wall).refreshed hc with
        ⟨hflows, hevidence⟩ | ⟨result, c₁, hflow, hflows, hrecords⟩
      · rw [hevidence] at hr
        unfold OnCurrentFlow
        rw [hflows]
        exact hbefore hr
      rcases hrecords id r hr hcurrent with hstored | ⟨effective, flow, seq, rfl, rfl⟩
      · exact hrefresh hflow hflows hstored
      · have hregistered := c.flows.registerFlow_current payload.flowKey payload.flowGeneration
          envelope.session tick
        rw [registerFlow_of_refreshFlow hflow] at hregistered
        rcases hregistered with ⟨⟨e, he⟩, -⟩ | ⟨flow', hok, hinsert, hderived, -⟩
        · cases he
        · cases hok
          refine ⟨payload.flowKey, hkeys, fun other hother => ?_, flow.record, ?_, rfl, rfl⟩
          · show deriveFlowId other = flow.record.id ↔ other = payload.flowKey
            rw [hderived]
            exact scope.noFlowCollision.eq_iff hother hkeys
          · rw [hflows, hinsert, lookup_insert_eq, if_pos rfl]
    | restore => exact hkeys.elim
    | _ => exact htouches.elim
  · have hadds : ¬ AddsEvidence op := by
      intro hadds
      cases op <;> first | exact htouches trivial | exact hadds
    obtain ⟨q, hq, hweak⟩ := ((framed_step c _).evidence hadds).evolved id r hr
    rw [← hweak.eq_of_current hcurrent] at hq
    unfold OnCurrentFlow
    rw [(framed_step c _).current htouches]
    exact hbefore hq

/-- Advancing the epoch marks the records of the epoch before. -/
theorem acceptedEpoch_step (hc : c.evidence.Indexed c.evidence.order) (hop : op.Running)
    (hr : (c.step op).evidence.byId.lookup id = some r) (hcurrent : r.state = .current)
    (hbefore : c.evidence.byId.lookup id = some r → r.acceptedEpoch = c.epoch) :
    r.acceptedEpoch = (c.step op).epoch := by
  by_cases hadvance : ∃ boot, op = .advanceEpoch boot
  · obtain ⟨boot, rfl⟩ := hadvance
    rw [step, advanceEpoch] at hr ⊢
    cases hsequence : c.sequence.next with
    | error e =>
      rw [hsequence] at hr
      exact hbefore hr
    | ok sequence =>
      rw [hsequence] at hr
      cases hepoch : (Counter.mk c.epoch).next with
      | error e =>
        rw [hepoch] at hr
        exact hbefore hr
      | ok epoch =>
        rw [hepoch] at hr
        exact (of_current_markEpochStale hr hcurrent).2
  · rw [(framed_step c _).epoch (fun boot hboot => hadvance ⟨boot, hboot⟩) hop]
    rcases stored_step hc hop hr with ⟨q, hq, hweak⟩ | harrived
    · rw [← hweak.eq_of_current hcurrent] at hq
      exact hbefore hq
    · cases harrived with
      | submitted => rfl

/-- A workload stays in standing, or no CURRENT record names it afterwards. -/
theorem workload_step (hop : op.Running)
    (hr : (c.step op).evidence.byId.lookup id = some r) (hcurrent : r.state = .current)
    {w : WorkloadRecord} (hw : c.workloads.workloads.lookup r.workload = some w)
    (hstanding : w.state ≠ .retired) :
    ∃ w', (c.step op).workloads.workloads.lookup r.workload = some w' ∧ w'.state ≠ .retired := by
  rw [workloads_call c hop]
  cases hcall : workloadCall op with
  | none => exact ⟨w, hw, hstanding⟩
  | some call =>
    rcases WorkloadRegistry.treated_call c.workloads call r.workload with
      ⟨hnone, -⟩ | ⟨v, v', hv, hv', -, htreated⟩
    · rw [hw] at hnone
      cases hnone
    rw [hw] at hv
    cases hv
    rcases htreated with ⟨-, hstate⟩ | ⟨_, _, -, -, hstate⟩ | ⟨tick, rfl, -⟩
    · exact ⟨v', hv', fun hretired => hstanding (hstate hretired)⟩
    · exact ⟨v', hv', hstate⟩
    · have hretire : op = .retireWorkload r.workload w.generation tick := by
        cases op <;> simp only [workloadCall, Option.some.injEq, reduceCtorEq,
          WorkloadCall.retireWorkload.injEq] at hcall
        obtain ⟨rfl, rfl, rfl⟩ := hcall
        rfl
      subst hretire
      exact absurd rfl (of_current_retireWorkload hw hr hcurrent)

theorem truthful_step (h : Truthful scope c) (hkeys : KeysIn scope op) :
    Truthful scope (c.step op) := by
  have hop := not_restore_of_keysIn hkeys
  obtain ⟨hcoherent, hsole⟩ := soleActive_step h.workloads h.sole hop
  refine ⟨(records_step h.indexed hop).1, hcoherent, hsole,
    fun id r hr hcurrent => ⟨?_, ?_, ?_, ?_⟩⟩
  · exact onCurrentFlow_step h.indexed hkeys hr hcurrent fun hbefore =>
      (h.current id r hbefore hcurrent).flow
  · exact acceptedEpoch_step h.indexed hop hr hcurrent fun hbefore =>
      (h.current id r hbefore hcurrent).epoch
  -- the checks of a submission ask for what holds of a record that was stored before
  · intro hnamed
    have hbefore : ∃ w, c.workloads.workloads.lookup r.workload = some w ∧ w.state ≠ .retired := by
      rcases stored_step h.indexed hop hr with ⟨q, hq, hweak⟩ | harrived
      · rw [← hweak.eq_of_current hcurrent] at hq
        exact (h.current id r hq hcurrent).workload hnamed
      · cases harrived with
        | submitted hchecks =>
          obtain ⟨w, hw, -, -, hstanding⟩ := hchecks.workload hnamed
          exact ⟨w, hw, hstanding⟩
    obtain ⟨w, hw, hstanding⟩ := hbefore
    exact workload_step hop hr hcurrent hw hstanding
  · intro hnamed
    have hbefore : ∃ k, c.workloads.Active r.contract k ∧ k.owner = r.publisher ∧
        k.workload = r.workload := by
      rcases stored_step h.indexed hop hr with ⟨q, hq, hweak⟩ | harrived
      · rw [← hweak.eq_of_current hcurrent] at hq
        obtain ⟨k, hk, hactive, howner, hworkload, -⟩ :=
          (h.current id r hq hcurrent).contract hnamed
        exact ⟨k, ⟨hk, hactive⟩, howner, hworkload⟩
      · cases harrived with
        | submitted hchecks =>
          obtain ⟨k, hk, howner, hactive, hworkload, -⟩ := hchecks.contract hnamed
          exact ⟨k, ⟨hk, hactive⟩, howner, hworkload⟩
    obtain ⟨k, hk, howner, hworkload⟩ := hbefore
    rcases active_step h.workloads h.sole hop hk hnamed with ⟨hstored, hactive⟩ | hgone
    · refine ⟨k, hstored, hactive, howner, hworkload, ?_⟩
      rw [← hworkload]
      exact hcoherent.active _ k hstored hactive
    · exact (hgone id r hr hcurrent rfl hworkload.symm).elim

end Invariant

theorem truthful_new (scope : HashScope) (options : ClassifierOptions) :
    Truthful scope (.new options) := by
  refine ⟨indexed_new options, coherent_new options, ?_, ?_⟩
  · rintro id k id' k' ⟨hk, -⟩
    cases hk
  · intro id r hr
    cases hr

/-- An image that a registry could have left behind. -/
structure ConsistentImage (image : DurableState) : Prop where
  sole : ∀ k ∈ image.contracts, ∀ k' ∈ image.contracts, k.state = .active →
    k'.state = .active → k.workload = k'.workload → k.id = k'.id
  declared : ∀ k ∈ image.contracts, k.state = .active → ∃ w ∈ image.workloads, w.id = k.workload
  bound : ∀ k ∈ image.contracts, k.state = .active → ∀ w ∈ image.workloads,
    w.id = k.workload → w.generation = k.workloadGeneration

/-- Where the registry of workloads stands when restoring has ended: it was not reached, it
stopped among the workloads, or all workloads are there and it ended among the contracts. -/
theorem restore_workloads (image : DurableState) (c : Classifier) (boot : CoordinatorBootId)
    (tick : Tick) :
    let declared := tryEach WorkloadRegistry.restoreWorkload c.workloads image.workloads
    let workloads := (restore image c boot tick).2.workloads
    workloads = c.workloads ∨ workloads = declared.2 ∨
      declared.1 = .ok () ∧
        workloads = (tryEach WorkloadRegistry.restoreContract declared.2 image.contracts).2 := by
  intro declared workloads
  have hrestored := restored image c boot tick
  show (restore image c boot tick).2.workloads = _ ∨ (restore image c boot tick).2.workloads = _ ∨
    _ ∧ (restore image c boot tick).2.workloads = _
  generalize restore image c boot tick = out at hrestored
  cases hrestored with
  | publishers => exact Or.inl rfl
  | workloads => exact Or.inr (Or.inl rfl)
  | contracts _ hworkloads | flows _ hworkloads | evidence _ hworkloads | done _ hworkloads =>
    exact Or.inr (Or.inr ⟨hworkloads, rfl⟩)

/-- The workloads that a new registry is given are those of the image, and when all have
been taken none is missing. -/
theorem restoreWorkload_new {r : WorkloadRegistry} (hnew : ∀ id, r.workloads.lookup id = none)
    (records : List WorkloadRecord) :
    let declared := tryEach WorkloadRegistry.restoreWorkload r records
    declared.2.contracts = r.contracts ∧
      (∀ id w, declared.2.workloads.lookup id = some w → w.id = id ∧ w ∈ records) ∧
      (declared.1 = .ok () → ∀ w ∈ records, ∃ v, declared.2.workloads.lookup w.id = some v) := by
  intro declared
  have hkept : declared.2.contracts = r.contracts ∧
      ∀ id w, declared.2.workloads.lookup id = some w → w.id = id ∧ w ∈ records := by
    refine tryEach_invariant (fun s : WorkloadRegistry => s.contracts = r.contracts ∧
      ∀ id w, s.workloads.lookup id = some w → w.id = id ∧ w ∈ records) ?_ ⟨rfl, ?_⟩
    · intro s record hrecord hs
      rcases restoreWorkload_cases s record with ⟨e, hout⟩ | hout
      · rw [hout]
        exact hs
      · rw [hout]
        refine ⟨hs.1, fun id w hw => ?_⟩
        rw [lookup_insert_eq] at hw
        split_ifs at hw with hid
        · cases hw
          exact ⟨hid.symm, hrecord⟩
        · exact hs.2 id w hw
    · intro id w hw
      rw [hnew] at hw
      cases hw
  refine ⟨hkept.1, hkept.2, fun hok => ?_⟩
  have hput : ∀ (s : WorkloadRegistry) (x y : WorkloadRecord),
      (x.id = y.id ∧ (s.restoreWorkload y).1 = .ok () ∨ ∃ v, s.workloads.lookup x.id = some v) →
      ∃ v, (s.restoreWorkload y).2.workloads.lookup x.id = some v := by
    intro s x y hxy
    rcases restoreWorkload_cases s y with ⟨e, hout⟩ | hout
    · rw [hout] at hxy ⊢
      rcases hxy with ⟨-, hfalse⟩ | hstored
      · cases hfalse
      · exact hstored
    · rw [hout] at hxy ⊢
      dsimp only
      rw [lookup_insert_eq]
      split_ifs with hid
      · exact ⟨y, rfl⟩
      · exact hxy.elim (fun hsame => absurd hsame.1 hid) fun hstored => hstored
  exact tryEach_done (R := fun _ _ => True)
    (fun (x : WorkloadRecord) (s : WorkloadRegistry) => ∃ v, s.workloads.lookup x.id = some v)
    (fun s x hdone => hput s x x (Or.inl ⟨rfl, hdone⟩))
    (fun s x y _ hstored => hput s x y (Or.inr hstored))
    (List.pairwise_of_forall (fun _ _ => trivial)) hok

/-- However far the loops came, what they have taken is coherent. -/
theorem coherent_of_image {image : DurableState} (himage : ConsistentImage image)
    (options : ClassifierOptions) (boot : CoordinatorBootId) (tick : Tick) :
    let r := (restore image (.new options) boot tick).2.workloads
    r.Coherent ∧ r.SoleActive := by
  intro r
  let new := (Classifier.new options).workloads
  obtain ⟨hcontracts, horigin, hdone⟩ := restoreWorkload_new (r := new) (fun _ => rfl)
    image.workloads
  -- without contracts there is nothing that could disagree
  have hempty : ∀ s : WorkloadRegistry, (∀ id w, s.workloads.lookup id = some w → w.id = id) →
      s.contracts = new.contracts → s.Coherent ∧ s.SoleActive := by
    intro s hkeyed hsame
    have hnone : ∀ id k, s.contracts.lookup id ≠ some k := by
      intro id k hk
      rw [hsame] at hk
      cases hk
    exact ⟨⟨hkeyed, fun id k hk => absurd hk (hnone id k), fun id k hk => absurd hk (hnone id k),
      fun id k hk => absurd hk (hnone id k)⟩, fun id k _ _ hk => absurd hk.1 (hnone id k)⟩
  rcases restore_workloads image (.new options) boot tick with hr | hr | ⟨hok, hr⟩
  · rw [show r = new from hr]
    exact hempty new (fun id w hw => by cases hw) rfl
  · rw [show r = _ from hr]
    exact hempty _ (fun id w hw => (horigin id w hw).1) hcontracts
  · rw [show r = _ from hr]
    obtain ⟨hworkloads, hcited⟩ := restoreContract_loop
      (tryEach WorkloadRegistry.restoreWorkload new image.workloads).2 image.contracts
      (fun id => by rw [hcontracts]; rfl)
    refine ⟨⟨?_, ?_, ?_, ?_⟩, ?_⟩
    · intro id w hw
      rw [hworkloads] at hw
      exact (horigin id w hw).1
    · intro id k' hk'
      obtain ⟨k, -, hid, rfl⟩ := hcited id k' hk'
      exact hid
    · intro id k' hk'
      obtain ⟨k, -, -, rfl⟩ := hcited id k' hk'
      rfl
    · intro id k' hk' hactive
      obtain ⟨k, hk, -, rfl⟩ := hcited id k' hk'
      obtain ⟨w, hw, hwid⟩ := himage.declared k hk hactive
      obtain ⟨v, hv⟩ := hdone hok w hw
      obtain ⟨hvid, hvmem⟩ := horigin _ v hv
      rw [hworkloads]
      exact ⟨v, hwid ▸ hv, himage.bound k hk hactive v hvmem (hvid.trans hwid)⟩
    · intro id k₁ id' k₂ h₁ h₂ hsame
      obtain ⟨k, hk, hid, rfl⟩ := hcited id k₁ h₁.1
      obtain ⟨k', hk', hid', rfl⟩ := hcited id' k₂ h₂.1
      rw [← hid, ← hid']
      exact himage.sole k hk k' hk' h₁.2 h₂.2 hsame

theorem indexed_restore (h : c.evidence.Indexed c.evidence.order)
    (image : DurableState) (boot : CoordinatorBootId) (tick : Tick) :
    (restore image c boot tick).2.evidence.Indexed (restore image c boot tick).2.evidence.order :=
  evidence_restore (Q := fun s => s.Indexed s.order) boot tick h
    fun _ record _ hs => indexed_restoreRecord hs record

theorem truthful_restore (scope : HashScope) {image : DurableState} (himage : ConsistentImage image)
    (options : ClassifierOptions) (boot : CoordinatorBootId) (tick : Tick) :
    Truthful scope (restore image (.new options) boot tick).2 := by
  obtain ⟨hcoherent, hsole⟩ := coherent_of_image himage options boot tick
  refine ⟨indexed_restore (indexed_new options) image boot tick, hcoherent, hsole, ?_⟩
  -- restoring brings no CURRENT record
  intro id r hr hcurrent
  rcases current_record_step (indexed_new options) (.restore image boot tick) hr hcurrent with
    hbefore | harrived
  · cases hbefore
  · cases harrived

/-- The states of a classifier that was built new, or built new and restored once from a
consistent image, and has run since. -/
inductive Lives (scope : HashScope) : Classifier → Prop
  | new (options : ClassifierOptions) : Lives scope (.new options)
  | restored {image : DurableState} (himage : ConsistentImage image) (options : ClassifierOptions)
    (boot : CoordinatorBootId) (tick : Tick) :
    Lives scope (restore image (.new options) boot tick).2
  | step {c : Classifier} {op : Operation} (h : Lives scope c) (hkeys : KeysIn scope op) :
    Lives scope (c.step op)

theorem Lives.run {ops : List Operation} (h : Lives scope c) (hkeys : ∀ op ∈ ops, KeysIn scope op) :
    Lives scope (Lib.run Classifier.step c ops) := by
  induction ops generalizing c with
  | nil => exact h
  | cons op rest ih =>
    exact ih (h.step (hkeys op List.mem_cons_self)) fun op hop =>
      hkeys op (List.mem_cons_of_mem _ hop)

theorem Lives.truthful (h : Lives scope c) : Truthful scope c := by
  induction h with
  | new options => exact truthful_new scope options
  | restored himage options boot tick => exact truthful_restore scope himage options boot tick
  | step _ hkeys ih => exact truthful_step ih hkeys

/-- What a run leaves behind can be restored. -/
theorem Truthful.consistentImage (h : Truthful scope c) : ConsistentImage c.durableState := by
  have hcontract : ∀ {k}, k ∈ c.durableState.contracts →
      c.workloads.contracts.lookup k.id = some k := by
    intro k hk
    obtain ⟨j, hj⟩ := mem_sorted_values.mp hk
    rwa [h.workloads.contract_id j k hj]
  refine ⟨?_, ?_, ?_⟩
  · intro k hk k' hk' hactive hactive' hsame
    exact h.sole _ k _ k' ⟨hcontract hk, hactive⟩ ⟨hcontract hk', hactive'⟩ hsame
  · intro k hk hactive
    obtain ⟨w, hw, -⟩ := h.workloads.active _ k (hcontract hk) hactive
    exact ⟨w, mem_sorted_values.mpr ⟨_, hw⟩, h.workloads.workload_id _ w hw⟩
  · intro k hk hactive w hw hid
    obtain ⟨v, hv, hgeneration⟩ := h.workloads.active _ k (hcontract hk) hactive
    obtain ⟨j, hj⟩ := mem_sorted_values.mp hw
    have hwid := h.workloads.workload_id j w hj
    rw [← hwid, hid, hv] at hj
    cases hj
    exact hgeneration

/-- In every state of a run, what is stored as CURRENT is current. -/
theorem stored_current_really_current {scope : HashScope} {c : Classifier} (h : Lives scope c)
    {id : EvidenceId} {r : EvidenceRecord} (hr : c.evidence.byId.lookup id = some r)
    (hcurrent : r.state = .current) : ReallyCurrent scope c r :=
  h.truthful.current id r hr hcurrent

def resumedEnvelope : SessionEnvelope :=
  { sampleEnvelope with epoch := 2, coordinatorBoot := 2, maxSource := .declaredAuthenticated }

def citingPayload (contract : Bytes) (generation : EvidenceGeneration) : EvidencePayload :=
  { samplePayload .declaredAuthenticated generation with
    contract := .make contract, workload := .make (text "trainer"), workloadGeneration := 1
    metadata := { topic := contract } }

def cite (contract : Bytes) (generation : EvidenceGeneration) : Operation :=
  .submitEvidence resumedEnvelope (citingPayload contract generation) 3 3 0

def resumed : List Operation :=
  [.advanceEpoch 2,
   .registerPublisher (.make (text "agent")) 2 .declaredAuthenticated (.make (text "s1")) [] 2 0,
   cite (text "c-a") 1]

/-- One contract is restored and a record cites it. -/
theorem stored_current_really_current_restored :
    let image := (run step (.new {}) (citedRun.take 3)).durableState
    let c := run step (restore image (.new {}) 1 1).2 resumed
    ∃ id r, c.evidence.byId.lookup id = some r ∧ r.state = .current ∧
      r.contract.isEmpty = false ∧ ReallyCurrent backingScope c r := by
  intro image c
  have hbefore : Lives backingScope (run step (.new {}) (citedRun.take 3)) :=
    (Lives.new {}).run (by simp [citedRun, KeysIn])
  have hlives : Lives backingScope c := (Lives.restored hbefore.truthful.consistentImage {} 1 1).run
      (by simp [resumed, cite, citingPayload, KeysIn, samplePayload, backingScope,
        HashScope.ofLists])
  obtain ⟨id, -, r, hr, hcurrent, hnamed⟩ : ∃ id ∈ c.evidence.order,
      ∃ r, c.evidence.byId.lookup id = some r ∧ r.state = .current ∧
        r.contract.isEmpty = false := by
    decide +kernel
  exact ⟨id, r, hr, hcurrent, hnamed, stored_current_really_current hlives hr hcurrent⟩

def twoActive : DurableState where
  policy := .initial
  epoch := 1
  coordinatorBoot := 1
  workloads :=
    [{ id := .make (text "trainer"), owner := .make (text "agent"), generation := 1,
       state := .active, activeContract := .make (text "c-b") }]
  contracts :=
    [{ sampleContract (text "c-a") .checkpoint [] with state := .active },
     { sampleContract (text "c-b") .checkpoint [] with state := .active }]

def replaced : List Operation :=
  resumed ++
    [cite (text "c-b") 2,
     .proposeContract (sampleContract (text "c-c") .checkpoint []) 4,
     .activateContract (.make (text "c-c")) (.make (text "agent")) 5]

/-- The replacement retires both contracts and takes down the records of one. -/
theorem current_record_cites_retired_contract :
    let restored := restore twoActive (.new {}) 1 1
    let c := run step restored.2 replaced
    restored.1.isOk = true ∧
      ∃ id r k, c.evidence.byId.lookup id = some r ∧ r.state = .current ∧
        r.contract.isEmpty = false ∧ c.workloads.contracts.lookup r.contract = some k ∧
        k.state = .retired := by
  intro restored c
  obtain ⟨id, -, r, hr, hcurrent, hnamed, k, hk⟩ : ∃ id ∈ c.evidence.order,
      ∃ r, c.evidence.byId.lookup id = some r ∧ r.state = .current ∧ r.contract.isEmpty = false ∧
        ∃ k, c.workloads.contracts.lookup r.contract = some k ∧ k.state = .retired := by
    decide +kernel
  exact ⟨by decide +kernel, id, r, k, hr, hcurrent, hnamed, hk⟩

end Classifier
end FlowClassifier
