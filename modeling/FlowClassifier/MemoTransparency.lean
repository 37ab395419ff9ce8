import FlowClassifier.DecisionKeys
import FlowClassifier.Reachable

/-!
The memo is transparent. Every entry of the memo is the decision for some input of the
past. Along a run that fits the encoder, an entry whose key is asked for again was decided
from the same records, contracts, liveness and policy, so it is the decision for the
present input too. The module ends with a run that does not fit and is answered from an
entry of another contract.
-/
namespace FlowClassifier

open Lib Foundation Buffers Hash Evidence Flows Policies Workloads Engine DecisionSpec DecisionKeys
  Store PublisherRegistry EvidenceStore WorkloadRegistry FiniteMap

variable {i : DecisionInput} {scope : HashScope} {k : WorkloadContract} {c c' : Classifier}
  {key : FlowKey} {tick : Tick} {op : Operation}

namespace Classifier

structure Posed (scope : HashScope) (i : DecisionInput) : Prop where
  key_mem : i.flow.key ∈ scope.keys
  id_eq : i.flow.id = deriveFlowId i.flow.key
  recorded : ∀ r ∈ i.evidence, Recorded scope r
  evidence_nodup : (i.evidence.map EvidenceRecord.id).Nodup
  defined : ∀ k ∈ i.activeContracts, Defined scope k
  digest : ∀ k ∈ i.activeContracts, k.definitionDigest = computeContractDigest k
  active : ∀ k ∈ i.activeContracts, k.state = .active
  bound : ∀ k ∈ i.activeContracts,
    ∃ w ∈ i.workloads, w.id = k.workload ∧ w.generation = k.workloadGeneration
  contracts_nodup : (i.activeContracts.map WorkloadContract.id).Nodup
  workloads_nodup : (i.workloads.map WorkloadRecord.id).Nodup
  hashed : InputHashed scope i
  fits : (evidenceSetDigestChunks i).flatten.length ≤ maxBlobBytes

theorem Posed.wellFormed (h : Posed scope i) : WellFormed i :=
  ⟨h.evidence_nodup, h.contracts_nodup, h.workloads_nodup,
    scope.noCollision.mono h.hashed.2⟩

/-- Every contract of such an input is active and bound, so only its scope matters. -/
theorem Posed.applies_iff (h : Posed scope i) (hk : k ∈ i.activeContracts) :
    Applies i k ↔ contractCovers k i.flow.key = true := by
  constructor
  · exact fun happlies => happlies.2.1
  · exact fun hcovers => ⟨h.active k hk, hcovers, h.bound k hk⟩

/-- What has become of the records and contracts of an input of the past. -/
structure Remembered (scope : HashScope) (c : Classifier) (i : DecisionInput) : Prop where
  posed : Posed scope i
  policy : i.policy = c.policy
  sequence : i.authority.authoritySequence ≤ c.authoritySequence
  liveness : i.authority.authoritySequence = c.authoritySequence →
    i.authority.livePublisherBoots = (c.buildAuthorityContext 0).livePublisherBoots ∧
      i.authority.knownPublishers = (c.buildAuthorityContext 0).knownPublishers
  used : ∀ r ∈ i.evidence, used c.publishers r
  weakened : ∀ r ∈ i.evidence, ∀ r', c.evidence.byId.lookup r.id = some r' →
    Weakens r r'
  contracts : ∀ k ∈ i.activeContracts, ∃ k', c.workloads.contracts.lookup k.id = some k' ∧
    (k' = k ∨ k'.state = .retired)

/-- Liveness as a decision sees it does not change while the number stays. -/
theorem context_of_sameLiveness (hc : c.publishers.WellKeyed)
    (h : c.publishers.SameLiveness c'.publishers) (tick tick' : Tick) :
    (c'.buildAuthorityContext tick').livePublisherBoots =
        (c.buildAuthorityContext tick).livePublisherBoots ∧
      (c'.buildAuthorityContext tick').knownPublishers =
        (c.buildAuthorityContext tick).knownPublishers := by
  have hvisible := visible_registrations hc h
  have hlive : ∀ rs : List PublisherRegistration,
      (rs.filter fun r => r.state == .live).map (fun r => bootKey r.id r.boot) =
        ((rs.map visible).filter fun v => v.2.2 == .live).map fun v =>
          bootKey v.1 v.2.1 := by
    intro rs
    rw [List.filter_map, List.map_map]
    rfl
  have hknown : ∀ rs : List PublisherRegistration, rs.map (fun r => r.id.value) =
        (rs.map visible).map fun v => v.1.value := by
    intro rs
    rw [List.map_map]
    rfl
  simp only [buildAuthorityContext]
  rw [hlive, hlive, hknown, hknown, hvisible]
  exact ⟨rfl, rfl⟩

/-- Records only weaken and contracts only retire, so a remembered input stays one. -/
theorem Remembered.progress
    (h : Remembered scope c i) (hc : Consistent scope c) (hstep : Progress scope c c')
    (hauthority : AuthorityKept c c') (hpolicy : c'.policy = c.policy) :
    Remembered scope c' i := by
  obtain ⟨-, hmarks⟩ := hstep.publishers hc.publishers
  refine ⟨h.posed, h.policy.trans hpolicy.symm, ?_, ?_, ?_, ?_, ?_⟩
  · rcases hauthority with ⟨hseq, -⟩ | hlt
    · rw [hseq]
      exact h.sequence
    · exact h.sequence.trans hlt.le
  · intro heq
    rcases hauthority with ⟨hseq, hlive⟩ | hlt
    · obtain ⟨hboots, hknown⟩ := h.liveness (heq.trans hseq)
      have hsame := context_of_sameLiveness hc.publishers hlive 0 0
      exact ⟨hboots.trans hsame.1.symm, hknown.trans hsame.2.symm⟩
    · exact absurd heq (ne_of_lt (lt_of_le_of_lt h.sequence hlt))
  · exact fun r hr => hmarks _ _ _ (h.used r hr)
  · intro r hr r' hr'
    obtain ⟨q, hq, hw⟩ := hstep.weakens_of_used (h.posed.recorded r hr) (h.used r hr) hr'
    exact (h.weakened r hr q hq).trans hw
  · intro k hk
    obtain ⟨k', hk', hstate⟩ := h.contracts k hk
    obtain ⟨k'', hk'', hlater⟩ := hstep.workloads.kept k.id k' hk'
    refine ⟨k'', hk'', ?_⟩
    rcases hstate with rfl | hretired
    · exact hlater.of_active (h.posed.active k' hk)
    · exact Or.inr (hlater.of_retired hretired)

theorem mem_activeContracts {r : WorkloadRegistry} (hr : r.Coherent) :
    k ∈ r.activeContracts ↔ r.contracts.lookup k.id = some k ∧ k.state = .active := by
  rw [WorkloadRegistry.activeContracts, (List.perm_insertionSort _ _).mem_iff, List.mem_filter,
    mem_values, beq_iff_eq]
  refine and_congr_left fun _ => ?_
  constructor
  · rintro ⟨id, hid⟩
    rw [hr.contract_id id k hid]
    exact hid
  · exact fun h => ⟨_, h⟩

theorem nodup_activeContracts {r : WorkloadRegistry} (hr : r.Coherent) :
    (r.activeContracts.map WorkloadContract.id).Nodup := by
  refine ((List.perm_insertionSort _ _).map _).nodup_iff.mpr ?_
  exact (nodup_map_values WorkloadContract.id hr.contract_id).sublist
    (List.filter_sublist.map _)

section Present

variable {flow : FlowRecord}
  {generation : FlowGeneration}

theorem evidence_decisionInput (hc : Consistent scope c) :
    (c.decisionInput flow generation tick).evidence = c.evidence.recordsForFlow flow.id :=
  filterMap_evidenceForFlow hc.indexed flow.id

theorem lookup_of_mem_evidence (hc : Consistent scope c) {r : EvidenceRecord}
    (hr : r ∈ (c.decisionInput flow generation tick).evidence) :
    c.evidence.byId.lookup r.id = some r := by
  rw [evidence_decisionInput hc] at hr
  exact (mem_recordsForFlow hc.indexed hr).1

theorem lookup_of_mem_contracts (hc : Consistent scope c)
    (hk : k ∈ (c.decisionInput flow generation tick).activeContracts) :
    c.workloads.contracts.lookup k.id = some k ∧ k.state = .active :=
  (mem_activeContracts hc.workloads).mp hk

/-- A candidate is a stored record, or derived from an ACTIVE contract that covers the
flow and is bound to the current generation of its workload. -/
theorem candidate_cases (hc : Consistent scope c) {r : EvidenceRecord}
    (hr : r ∈ candidateRecords (c.decisionInput flow generation tick)) :
    (c.evidence.byId.lookup r.id = some r ∧ r.flowId = flow.id) ∨
      ∃ k, c.workloads.contracts.lookup k.id = some k ∧
        Applies (c.decisionInput flow generation tick) k ∧
        r = derived (c.decisionInput flow generation tick) k := by
  rcases List.mem_append.mp hr with hstored | hderived
  · rw [evidence_decisionInput hc] at hstored
    exact Or.inl (mem_recordsForFlow hc.indexed hstored)
  · obtain ⟨k, hk, rfl⟩ := List.mem_map.mp (List.mem_filter.mp hderived).1
    obtain ⟨hmem, happlies⟩ := List.mem_filter.mp hk
    exact Or.inr ⟨k, (lookup_of_mem_contracts hc hmem).1, of_decide_eq_true happlies, rfl⟩

/-- Each part is known of the store that the input takes it from. -/
theorem posed_decisionInput (hc : Consistent scope c)
    (hflow : c.flows.current.lookup key = some flow)
    (hfits : decisionBytes c flow.id ≤ maxBlobBytes)
    (hhashed : InputHashed scope (c.decisionInput flow generation tick)) :
    Posed scope (c.decisionInput flow generation tick) := by
  obtain ⟨hkey, hid, hscope⟩ := hc.flows key flow hflow
  refine ⟨?_, ?_, ?_, ?_, ?_, ?_, ?_, ?_, nodup_activeContracts hc.workloads, ?_, hhashed, ?_⟩
  · exact hkey.symm ▸ hscope
  · exact hkey.symm ▸ hid
  · exact fun r hr => (hc.recorded r.id r (lookup_of_mem_evidence hc hr)).1
  · rw [evidence_decisionInput hc]
    exact nodup_recordsForFlow hc.indexed flow.id
  · exact fun k hk => hc.defined k.id k (lookup_of_mem_contracts hc hk).1
  · exact fun k hk => hc.workloads.digest k.id k (lookup_of_mem_contracts hc hk).1
  · exact fun k hk => (lookup_of_mem_contracts hc hk).2
  · intro k hk
    obtain ⟨hlookup, hactive⟩ := lookup_of_mem_contracts hc hk
    obtain ⟨w, hw, hgen⟩ := hc.workloads.active k.id k hlookup hactive
    exact ⟨w, mem_sorted_values.mpr ⟨_, hw⟩, hc.workloads.workload_id _ w hw, hgen⟩
  · exact List.pairwise_map.mpr
      (pairwise_sorted_values WorkloadRecord.id hc.workloads.workload_id _)
  · rw [length_evidenceSetDigestChunks, evidence_decisionInput hc]
    exact hfits

theorem remembered_decisionInput (hc : Consistent scope c)
    (h : Posed scope (c.decisionInput flow generation tick)) :
    Remembered scope c (c.decisionInput flow generation tick) := by
  refine ⟨h, rfl, le_refl _, fun _ => ⟨rfl, rfl⟩, ?_, ?_, ?_⟩
  · exact fun r hr => (hc.recorded r.id r (lookup_of_mem_evidence hc hr)).2
  · intro r hr r' hr'
    rw [lookup_of_mem_evidence hc hr] at hr'
    cases hr'
    exact Weakens.refl r
  · intro k hk
    exact ⟨k, (lookup_of_mem_contracts hc hk).1, Or.inl rfl⟩

/-- Records with the same code are the same: the digest gives the identity, and a record
that was in the same state then has not changed since. -/
theorem sortedRecords_eq (hc : Consistent scope c) (hi : Remembered scope c i)
    (hj : Posed scope (c.decisionInput flow generation tick))
    (h : (sortedRecords i).map recordCode =
      (sortedRecords (c.decisionInput flow generation tick)).map recordCode) :
    sortedRecords i = sortedRecords (c.decisionInput flow generation tick) := by
  refine eq_of_map_eq ?_ h
  intro r hr s hs hcode
  have hri := (List.perm_insertionSort _ _).subset hr
  have hsj := (List.perm_insertionSort _ _).subset hs
  have hdigest : r.contentDigest = s.contentDigest := congrArg Prod.fst hcode
  have hstate : r.state = s.state := congrArg (fun x => x.2.1) hcode
  have hr' := hi.posed.recorded r hri
  have hs' := hj.recorded s hsj
  rw [hr'.digest_eq, hs'.digest_eq] at hdigest
  have hid : r.id = s.id := evidenceDigestChunks_id
    (digestOfChunks_injOn scope.sha256_injOn hr'.encoding hs'.encoding hr'.fits hs'.fits hdigest)
  have hstored := lookup_of_mem_evidence hc hsj
  rw [← hid] at hstored
  exact ((hi.weakened r hri s hstored).eq_of_state hstate.symm).symm

/-- Contracts with the same code are the same: a contract that was active then is the
same one now or retired. -/
theorem sortedContracts_eq (hc : Consistent scope c) (hi : Remembered scope c i)
    (hj : Posed scope (c.decisionInput flow generation tick))
    (h : (sortedContracts i).map contractCode =
      (sortedContracts (c.decisionInput flow generation tick)).map contractCode) :
    sortedContracts i = sortedContracts (c.decisionInput flow generation tick) := by
  refine eq_of_map_eq ?_ h
  intro k hk l hl hcode
  have hki := (List.perm_insertionSort _ _).subset hk
  have hlj := (List.perm_insertionSort _ _).subset hl
  have hdigest : k.definitionDigest = l.definitionDigest := congrArg Prod.fst hcode
  rw [hi.posed.digest k hki, hj.digest l hlj] at hdigest
  have hk' := hi.posed.defined k hki
  have hl' := hj.defined l hlj
  have hid : k.id = l.id := contractDigestChunks_id
    (digestOfChunks_injOn scope.sha256_injOn hk'.encoding hl'.encoding hk'.fits hl'.fits hdigest)
  obtain ⟨hstored, hactive⟩ := lookup_of_mem_contracts hc hlj
  obtain ⟨k', hlookup, hsame⟩ := hi.contracts k hki
  rw [hid, hstored] at hlookup
  cases hlookup
  rcases hsame with rfl | hretired
  · rfl
  · rw [hactive] at hretired
    cases hretired

/-- Equal keys pin down the records, contracts, liveness and policy of then and now. -/
theorem decide_eq_of_key (hc : Consistent scope c) (hi : Remembered scope c i)
    (hj : Posed scope (c.decisionInput flow generation tick)) (h : decisionKeyText (decisionKey i) =
      decisionKeyText (decisionKey (c.decisionInput flow generation tick))) :
    Engine.decide i = Engine.decide (c.decisionInput flow generation tick) := by
  have hkey := decisionKeyText_injective h
  have hdigest := congrArg DecisionKey.evidenceDigest hkey
  simp only [decisionKey, computeEvidenceSetDigest] at hdigest
  have hflatten := digestOfChunks_injOn scope.sha256_injOn hi.posed.hashed.1 hj.hashed.1
    hi.posed.fits hj.fits
    hdigest
  have hsame := sameEncoding_of_flatten hi.posed.fits hj.fits hflatten
  have hrecords := sortedRecords_eq hc hi hj hsame.records
  have hcontracts := sortedContracts_eq hc hi hj hsame.contracts
  have hid : deriveFlowId i.flow.key =
      deriveFlowId (c.decisionInput flow generation tick).flow.key := by
    rw [← hi.posed.id_eq, ← hj.id_eq, hsame.id]
  have hflow := scope.noFlowCollision hi.posed.key_mem hj.key_mem hid
  have hauthority : i.authority = (c.decisionInput flow generation tick).authority := by
    obtain ⟨hlive, hknown⟩ := hi.liveness hsame.authoritySequence
    have hsequence := hsame.authoritySequence
    have hepoch := hsame.epoch
    have hboot := hsame.coordinatorBoot
    have htick := hsame.tick
    cases hauth : i.authority
    rw [hauth] at hlive hknown hsequence hepoch hboot htick
    dsimp only at hlive hknown hsequence hepoch hboot htick
    rw [hlive, hknown, hsequence, hepoch, hboot, htick]
    rfl
  have hperm : i.activeContracts.Perm
      (c.decisionInput flow generation tick).activeContracts := by
    have h₁ : (sortedContracts i).Perm i.activeContracts := List.perm_insertionSort _ _
    have h₂ := List.perm_insertionSort (fun a b : WorkloadContract => a.id ≤ b.id)
      (c.decisionInput flow generation tick).activeContracts
    exact h₁.symm.trans (hcontracts ▸ h₂)
  refine decide_eq_of_perm hi.posed.wellFormed hj.wellFormed
    ⟨hsame.id, hsame.generation, hflow, hauthority, hi.policy, hsame.revoked⟩ ?_ hperm ?_
  · have h₁ : (sortedRecords i).Perm i.evidence := List.perm_insertionSort _ _
    have h₂ := List.perm_insertionSort (fun a b : EvidenceRecord => a.id ≤ b.id)
      (c.decisionInput flow generation tick).evidence
    exact h₁.symm.trans (hrecords ▸ h₂)
  · intro k hk
    rw [hi.posed.applies_iff hk, hj.applies_iff (hperm.subset hk), hflow]

end Present

/-- Every entry is the decision for a remembered input. -/
def MemoSound (scope : HashScope) (c : Classifier) : Prop := MemoOf (Remembered scope c) c

def Transparent (c : Classifier) (query : ClassificationQuery) (tick : Tick)
    (result : ClassificationResult) : Prop :=
  ∃ input, c.queryInput query.flowKey query.flowGeneration tick = some input ∧
    result.classification = Engine.decide input

section Queries

theorem decisionInput_of_queryInput {requested : FlowGeneration}
    {input : DecisionInput} (hinput : c.queryInput key requested tick = some input) :
    ∃ flow generation, c.flows.current.lookup key = some flow ∧
      input = c.decisionInput flow generation tick := by
  cases hflow : c.flows.current.lookup key with
  | none =>
    rw [queryInput, hflow] at hinput
    cases hinput
  | some flow =>
    rw [queryInput_eq hflow] at hinput
    cases hinput
    exact ⟨flow, _, rfl, rfl⟩

theorem remembered_queryInput (hc : Consistent scope c)
    {requested : FlowGeneration} (hfits : QueryFits c key)
    (hhashed : QueryHashed scope c key requested tick) (input : DecisionInput)
    (hinput : c.queryInput key requested tick = some input) : Remembered scope c input := by
  have hasked := hhashed input hinput
  obtain ⟨flow, generation, hflow, rfl⟩ := decisionInput_of_queryInput hinput
  exact remembered_decisionInput hc (posed_decisionInput hc hflow (hfits flow hflow) hasked)

/-- A remembered input with the key of the query's has its decision too. -/
theorem Drawn.transparent (hc : Consistent scope c) {query : ClassificationQuery}
    {result : ClassificationResult} (h : Drawn (Remembered scope c) c query tick result) :
    Transparent c query tick result := by
  obtain ⟨input, hinput, ⟨hasked, i, hdecided, htext, hi⟩, -⟩ := h
  have hposed := hasked.posed
  refine ⟨input, hinput, hdecided.trans ?_⟩
  obtain ⟨flow, generation, -, rfl⟩ := decisionInput_of_queryInput hinput
  exact decide_eq_of_key hc hi hposed htext

end Queries

section Reachable

theorem memo_step (c : Classifier) (hop : ¬ TouchesMemo op) :
    (c.step op).policy = c.policy ∧ (c.step op).decisions.memo = c.decisions.memo := by
  refine ⟨((framed_step c op).policy ?_).1, ?_⟩
  · rintro policy rfl
    exact hop trivial
  · exact decisions_rule (Q := fun d => d.memo = c.decisions.memo) hop rfl
      (fun _ _ => (ClassificationIndex.supersedeGeneration_spec _ _ _).2)
      (fun _ _ _ hd => hd) fun _ _ => rfl

def Poses (kind : DecisionInput → Prop) (c : Classifier) : Operation → Prop
  | .classify query tick => ∀ input,
      c.queryInput query.flowKey query.flowGeneration tick = some input → kind input
  | .classifyBatch queries => ∀ q ∈ queries, ∀ input,
      c.queryInput q.1.flowKey q.1.flowGeneration q.2 = some input → kind input
  | .explain key generation tick _ => ∀ input,
      c.queryInput key generation tick = some input → kind input
  | _ => True

theorem MemoOf.step {kind : DecisionInput → Prop} (hmemo : MemoOf kind c)
    (h : Poses kind c op) : MemoOf kind (c.step op) := by
  by_cases hop : TouchesMemo op
  · cases op with
    | setPolicy policy =>
      rcases setPolicy_updates c policy with hsame | ⟨_, _, _, -, hcleared⟩
      · rw [Classifier.step, hsame]
        exact hmemo
      · exact memoOf_of_empty (by rw [Classifier.step, hcleared]; rfl)
    | classify => exact ((asked_classify _ _ _).memoOf hmemo h).1
    | classifyBatch => exact (memoOf_classifyBatch hmemo h).1
    | explain _ _ _ again => exact memoOf_explain hmemo again h
    | restore => exact hmemo.of_memo (memo_restore _ _ _ _)
    | _ => exact hop.elim
  · exact hmemo.of_memo (memo_step c hop).2

theorem poses_remembered (hc : Consistent scope c) (hfits : Fits c op)
    (hhashed : Hashed scope c op) : Poses (Remembered scope c) c op := by
  cases op with
  | classify | explain => exact remembered_queryInput hc hfits hhashed
  | classifyBatch => exact fun q hq => remembered_queryInput hc (hfits q hq) (hhashed q hq)
  | _ => trivial

/-- The number does not wrap, so it grows whenever a registration changes. -/
theorem authorityKept_of_fits (hc : Consistent scope c) (hfits : Fits c op)
    (hhashed : Hashed scope c op) : AuthorityKept c (c.step op) := by
  refine authority_step hc.publishers (storable_of_fits hfits hhashed).running ?_
  intro htouches hadds
  cases op with
  | submitEvidence | restore => exact absurd trivial hadds
  | advanceEpoch | registerPublisher | endPublisherSession | heartbeat
  | expirePublisherLiveness => exact hfits
  | _ => exact htouches.elim

theorem memoSound_step (hc : Consistent scope c) (hmemo : MemoSound scope c)
    (hfits : Fits c op) (hhashed : Hashed scope c op) : MemoSound scope (c.step op) := by
  by_cases hop : ∃ policy, op = .setPolicy policy
  · obtain ⟨policy, rfl⟩ := hop
    rcases setPolicy_updates c policy with hsame | ⟨_, _, _, -, hcleared⟩
    · rw [step, hsame]
      exact hmemo
    · exact memoOf_of_empty (by rw [step, hcleared]; rfl)
  · have hpolicy := ((framed_step c op).policy fun policy h => hop ⟨policy, h⟩).1
    exact (hmemo.step (poses_remembered hc hfits hhashed)).imp fun _ hi =>
      hi.progress hc (progress_step hc (storable_of_fits hfits hhashed))
        (authorityKept_of_fits hc hfits hhashed) hpolicy

theorem Reached.memoSound (h : Reached scope c) : MemoSound scope c := by
  induction h with
  | new options => exact memoOf_of_empty rfl
  | step h hfits hhashed ih => exact memoSound_step h.consistent ih hfits hhashed
  | restart _ hrestore _ =>
    refine memoOf_of_empty ((congrArg (·.2.decisions.memo) hrestore).symm.trans ?_)
    exact memo_restore _ _ _ _

/-- What the operation digests fits the encoder and is in the scope. -/
def Digestible (scope : HashScope) (c : Classifier) (op : Operation) : Prop :=
  Fits c op ∧ Hashed scope c op

/-- What holds of the decision for the present input holds of every answer. -/
theorem everyAnswer_of_decided {P : ClassificationQuery → Tick → ClassificationResult → Prop}
    (h : Reached scope c)
    (hP : ∀ query tick input result, c.queryInput query.flowKey query.flowGeneration tick =
      some input → WellFormed input → result.classification = Engine.decide input →
      (query.explain = true → result.explanation = renderExplanation result.classification input) →
      P query tick result) : EveryAnswer (Digestible scope c) c P := by
  have hdecided : ∀ {query tick result}, Drawn (Remembered scope c) c query tick result →
      P query tick result := by
    intro query tick result hdrawn
    obtain ⟨input, hinput, hresult⟩ := hdrawn.transparent h.consistent
    obtain ⟨asked, hasked, ⟨hremembered, -⟩, hexplained⟩ := hdrawn
    rw [hasked] at hinput
    cases hinput
    exact hP query tick input result hasked hremembered.posed.wellFormed hresult hexplained
  refine ⟨?_, ?_⟩
  · intro query tick hasked result hresult
    exact hdecided (((asked_classify _ _ _).memoOf h.memoSound
      (poses_remembered h.consistent hasked.1 hasked.2)).2 result hresult)
  · intro queries hasked outcome houtcome
    have hdrawn := (memoOf_classifyBatch h.memoSound
      (poses_remembered h.consistent hasked.1 hasked.2)).2 outcome houtcome
    exact hdrawn.imp fun _ _ _ => hdecided

/-- In every reachable state the answers of `classify` and of each key of `classify_batch`
are the decisions for the inputs built from that state, found in the memo or not. -/
theorem memo_transparent (h : Reached scope c) :
    EveryAnswer (Digestible scope c) c (Transparent c) :=
  everyAnswer_of_decided h fun _ _ input _ hinput _ hresult _ => ⟨input, hinput, hresult⟩

end Reachable

def sampleContract (id : Bytes) (declared : SemanticClass) (description : Bytes) :
    WorkloadContract :=
  { id := .make id, workload := .make (text "trainer"), workloadGeneration := 1,
    owner := .make (text "agent"), declaredClass := declared, matchAnyRemoteAddress := true,
    description := description }

def sampleKey : FlowKey := ⟨⟨.replicate 16 1⟩, ⟨.replicate 16 2⟩, 4000, 9000, .tcp⟩

def sampleEnvelope : SessionEnvelope :=
  { publisher := .make (text "agent"), publisherBoot := 2, session := .make (text "s1"),
    epoch := 1, coordinatorBoot := 1 }

def samplePayload (source : EvidenceSource) (generation : EvidenceGeneration) : EvidencePayload :=
  { flowKey := sampleKey, evidenceGeneration := generation, semantic := .checkpoint,
    claimedSource := source }

def sampleRun : List Operation :=
  [.declareWorkload (.make (text "trainer")) (.make (text "agent")) 1 [] 1,
   .proposeContract (sampleContract (text "c-a") .collective []) 1,
   .activateContract (.make (text "c-a")) (.make (text "agent")) 2,
   .registerFlow sampleKey 0 (.make (text "s1")) 2,
   .classify { flowKey := sampleKey } 5]

def queryMessages (c : Classifier) (key : FlowKey) (tick : Tick) : List Bytes :=
  match c.queryInput key 0 tick with
  | none => []
  | some i => (evidenceSetDigestChunks i).flatten ::
      i.activeContracts.map fun k => (contractEvidenceChunks k i.flow).flatten

def sampleMessages : List Bytes :=
  (contractDigestChunks (sampleContract (text "c-a") .collective [])).flatten ::
    queryMessages (run step (.new {}) sampleRun) sampleKey 5

def sampleScope : HashScope :=
  .ofLists sampleMessages [sampleKey] (by decide +kernel) (by decide +kernel)

theorem nodup_sampleKey : ([sampleKey].map deriveFlowId).Nodup := by decide +kernel

theorem queryHashed_ofLists {messages : List Bytes} {keys : List FlowKey}
    (hmessages : (messages.map fun m => (sha256 m).bytes.toList.take 16).Nodup)
    (hkeys : (keys.map deriveFlowId).Nodup) (h : ∀ m ∈ queryMessages c key tick, m ∈ messages) :
    QueryHashed (.ofLists messages keys hmessages hkeys) c key 0 tick := by
  intro input hinput
  simp only [queryMessages, hinput, List.mem_cons, List.mem_map] at h
  refine ⟨h _ (Or.inl rfl), ?_⟩
  rintro m ⟨k, hk, rfl⟩
  exact h _ (Or.inr ⟨k, hk, rfl⟩)

theorem queryFits_of_all
    (h : (c.flows.current.lookup key).all (fun flow => decisionBytes c flow.id ≤ maxBlobBytes) =
      true) : QueryFits c key := by
  intro flow hflow
  rw [hflow] at h
  simpa using h

theorem reached_sampleRun : Reached sampleScope (run step (.new {}) sampleRun) := by
  refine (Reached.new {}).run ⟨⟨trivial, trivial⟩, ⟨?_, ?_⟩, ⟨trivial, trivial⟩,
    ⟨trivial, List.mem_cons_self⟩, ⟨?_, ?_⟩, trivial⟩
  · exact (by decide : contractBytes (sampleContract (text "c-a") .collective []) ≤ maxBlobBytes)
  · exact List.mem_cons_self
  · exact queryFits_of_all (by decide +kernel)
  · exact queryHashed_ofLists _ _ (by decide +kernel)

/-- The second answer comes from the memo and names the class of the contract. -/
theorem memo_transparent_sample :
    let c := run step (.new {}) sampleRun
    ∃ result, (c.classify { flowKey := sampleKey } 5).1 = .ok result ∧
      result.memoHit = true ∧ result.classification.semantic = .collective ∧
      Transparent c { flowKey := sampleKey } 5 result := by
  intro c
  obtain ⟨result, hresult, hhit, hsemantic⟩ : ∃ result,
      (c.classify { flowKey := sampleKey } 5).1 = .ok result ∧ result.memoHit = true ∧
      result.classification.semantic = .collective := by
    decide +kernel
  refine ⟨result, hresult, hhit, hsemantic, ?_⟩
  refine (memo_transparent reached_sampleRun).1 _ 5 ⟨?_, ?_⟩ result hresult
  · exact queryFits_of_all (by decide +kernel)
  · exact queryHashed_ofLists _ _ (by decide +kernel)

def bulkyContract (id : Bytes) (declared : SemanticClass) : WorkloadContract :=
  sampleContract id declared (List.replicate maxBlobBytes 0)

theorem proposed_bulkyContract (id : Bytes) (declared : SemanticClass) (tick : Tick) :
    proposed (bulkyContract id declared) tick =
      { bulkyContract id declared with createdTick := tick, definitionDigest := .zero } := by
  have hzero : ∀ k : WorkloadContract, k.description = List.replicate maxBlobBytes 0 →
      computeContractDigest k = .zero := by
    intro k hk
    apply digestOfChunks_overflow
    rw [length_contractDigestChunks, contractBytes, hk, List.length_replicate]
    omega
  unfold proposed
  dsimp only
  rw [hzero _ rfl]
  rfl

def proposals : List Operation :=
  [.declareWorkload (.make (text "trainer")) (.make (text "agent")) 1 [] 1,
   .proposeContract (bulkyContract (text "c-a") .collective) 1,
   .proposeContract (bulkyContract (text "c-b") .checkpoint) 1]

def takeover : List Operation :=
  [.activateContract (.make (text "c-a")) (.make (text "agent")) 2,
   .registerFlow sampleKey 0 (.make (text "s1")) 2,
   .classify { flowKey := sampleKey } 5,
   .activateContract (.make (text "c-b")) (.make (text "agent")) 2]

theorem proposals_pos : 0 < proposals.length := by decide

def holding (p q : WorkloadContract) : Classifier :=
  let c := (Classifier.new {}).step proposals[0]
  { c with
    workloads := { c.workloads with
      contracts := (c.workloads.contracts.insert p.id p).insert q.id q
      stats := { c.workloads.stats with contractsProposed := 2, contracts := 2 } } }

-- comparing the two states walks through their nested maps
set_option maxRecDepth 100000 in
theorem run_proposals : run step (.new {}) proposals =
    holding (proposed (bulkyContract (text "c-a") .collective) 1)
      (proposed (bulkyContract (text "c-b") .checkpoint) 1) := rfl

def undigested : Classifier :=
  holding
    { bulkyContract (text "c-a") .collective with createdTick := 1, definitionDigest := .zero }
    { bulkyContract (text "c-b") .checkpoint with createdTick := 1, definitionDigest := .zero }

theorem run_takeover : run step (.new {}) (proposals ++ takeover) =
    run step undigested takeover := by
  have hproposals : run step (.new {}) proposals = undigested := by
    rw [run_proposals, proposed_bulkyContract, proposed_bulkyContract]
    rfl
  rw [← hproposals, run, List.foldl_append]
  rfl

/-- Contracts that pass the encoder bound share the zero digest, so the entry stored
under the first contract answers for the second. -/
theorem memo_answers_for_another_contract :
    let c := run step (.new {}) (proposals ++ takeover)
    ∃ result, (c.classify { flowKey := sampleKey } 5).1 = .ok result ∧
      ¬ Transparent c { flowKey := sampleKey } 5 result := by
  intro c
  have hc : c = run step undigested takeover := run_takeover
  obtain ⟨result, hresult, hanswer⟩ : ∃ result,
      (c.classify { flowKey := sampleKey } 5).1 = .ok result ∧
      ∀ i ∈ c.queryInput sampleKey 0 5, (Engine.decide i).semantic ≠
        result.classification.semantic := by
    rw [hc]
    decide +kernel
  refine ⟨result, hresult, ?_⟩
  rintro ⟨input, hinput, heq⟩
  exact hanswer input hinput (by rw [heq])

end Classifier
end FlowClassifier
