import FlowClassifier.MemoTransparency

/-!
Authority does not survive a restart. A restored record is never CURRENT, no step makes a
record CURRENT again, and an identity is never given out twice. Until a submission is
accepted, a decision that names a class therefore rests on an ACTIVE contract.
-/
namespace FlowClassifier

open Lib Foundation Buffers Evidence Workloads Engine DecisionSpec EngineCorrect Store

variable {id : EvidenceId} {tick : Tick}

namespace Classifier

def Idle (c : Classifier) : Prop :=
  ∀ id r, c.evidence.byId.lookup id = some r → r.state ≠ .current

theorem Idle.evolved {c c' : Classifier} (h : Idle c)
    (hevolved : EvidenceStore.Evolved c.evidence c'.evidence) : Idle c' := by
  intro id r' hr' hcurrent
  obtain ⟨r, hr, hw⟩ := hevolved id r' hr'
  rw [hw.eq_of_current hcurrent] at hcurrent
  exact h id r hr hcurrent

section Spent

variable {scope : HashScope} {b c c' d : Classifier}

/-- The state is reached from the other by steps whose entries fit and by restarts. -/
inductive Later (scope : HashScope) (b : Classifier) : Classifier → Prop
  | refl : Later scope b b
  | step {c : Classifier} {op : Operation} (h : Later scope b c)
    (hop : Storable scope c op) : Later scope b (c.step op)
  | restart {c c' : Classifier} {options : ClassifierOptions} {boot : CoordinatorBootId}
    {tick : Tick} (h : Later scope b c)
    (hrestore : restore c.durableState (.new options) boot tick = (.ok (), c')) :
    Later scope b c'

theorem Later.reaches (h : Later scope b c) (hb : Reaches (Storable scope) b) :
    Reaches (Storable scope) c := by
  induction h with
  | refl => exact hb
  | step _ hop ih => exact ih.step hop
  | restart _ hrestore ih => exact ih.restart hrestore

/-- The identity was given to a record, and no CURRENT record has it. -/
def Spent (scope : HashScope) (c : Classifier) (id : EvidenceId) : Prop :=
  ∃ q, Recorded scope q ∧ used c.publishers q ∧ q.id = id ∧
    ∀ r, c.evidence.byId.lookup id = some r → r.state ≠ .current

theorem spent_of_stored (hc : Consistent scope c) {r : EvidenceRecord}
    (hr : c.evidence.byId.lookup id = some r) (hstate : r.state ≠ .current) : Spent scope c id := by
  obtain ⟨hrecorded, hused⟩ := hc.recorded id r hr
  refine ⟨r, hrecorded, hused, hc.indexed.keyed id r hr, fun r' hr' => ?_⟩
  rw [hr] at hr'
  cases hr'
  exact hstate

theorem idle_of_restart (hindexed : c.evidence.Indexed c.evidence.order)
    {options : ClassifierOptions} {boot : CoordinatorBootId}
    (h : restore c.durableState (.new options) boot tick = (.ok (), c')) : Idle c' := by
  intro id r' hr'
  obtain ⟨r, -, rfl⟩ := (evidence_of_restart hindexed h).2 id r' hr'
  exact EvidenceStore.reloaded_ne_current r

structure Traced (scope : HashScope) (P : EvidenceRecord → Prop) (q : EvidenceRecord)
    (c : Classifier) : Prop where
  recorded : Recorded scope q
  used : used c.publishers q
  stored : ∀ r, c.evidence.byId.lookup q.id = some r → P r

/-- What weakening keeps stays true of the identity, over any number of restarts. -/
theorem Traced.later {P : EvidenceRecord → Prop} {q : EvidenceRecord}
    (hP : ∀ r r', P r → EvidenceStore.Weakens r r' → P r') (h : Traced scope P q b)
    (hb : Reaches (Storable scope) b) (hlater : Later scope b d) : Traced scope P q d := by
  induction hlater with
  | refl => exact h
  | step hlater hop ih =>
    have hc := (hlater.reaches hb).consistent
    have hstep := progress_step hc hop
    refine ⟨ih.recorded, (hstep.publishers hc.publishers).2 _ _ _ ih.used, fun r' hr' => ?_⟩
    obtain ⟨r, hr, hw⟩ := hstep.weakens_of_used ih.recorded ih.used hr'
    exact hP r r' (ih.stored r hr) hw
  | restart hlater hrestore ih =>
    have hc := (hlater.reaches hb).consistent
    refine ⟨ih.recorded, marked_of_restart hc hrestore ih.used, fun r' hr' => ?_⟩
    obtain ⟨r, hr, rfl⟩ := (evidence_of_restart hc.indexed hrestore).2 _ r' hr'
    exact hP r _ (ih.stored r hr) (EvidenceStore.weakens_reloaded r)

theorem Spent.later (h : Spent scope b id) (hb : Reaches (Storable scope) b)
    (hlater : Later scope b d) : Spent scope d id := by
  obtain ⟨q, hq, hused, rfl, hidle⟩ := h
  have hP : ∀ r r' : EvidenceRecord, r.state ≠ .current → EvidenceStore.Weakens r r' →
      r'.state ≠ .current := fun r r' hr hw hcurrent => hr (hw.eq_of_current hcurrent ▸ hcurrent)
  have hd := Traced.later hP ⟨hq, hused, hidle⟩ hb hlater
  exact ⟨q, hq, hd.used, rfl, hd.stored⟩

/-- An identity names one submission for ever: whatever is stored under it later, after any
operations and restarts, is the same record, moved on to a weaker state if at all. -/
theorem identity_names_one_record {r r' : EvidenceRecord}
    (hb : Reaches (Storable scope) b) (hlater : Later scope b d)
    (hr : b.evidence.byId.lookup id = some r) (hr' : d.evidence.byId.lookup id = some r') :
    EvidenceStore.Weakens r r' := by
  have hid := hb.consistent.indexed.keyed id r hr
  obtain ⟨hrecorded, hused⟩ := hb.consistent.recorded id r hr
  have hstart : Traced scope (EvidenceStore.Weakens r) r b := by
    refine ⟨hrecorded, hused, fun q hq => ?_⟩
    rw [hid, hr] at hq
    cases hq
    exact EvidenceStore.Weakens.refl r
  exact (hstart.later (fun _ _ => EvidenceStore.Weakens.trans) hb hlater).stored r' (hid ▸ hr')

end Spent

def accepts (c : Classifier) : Operation → Bool
  | .submitEvidence envelope payload tick touchTick wall =>
    (c.submitEvidence envelope payload tick touchTick wall).1.isOk
  | _ => false

section Idle

variable {scope : HashScope} {c d : Classifier}

/-- Only an accepted submission brings a record in. -/
theorem evolved_step (hc : Consistent scope c) {op : Operation} (hop : c.accepts op = false)
    (hfits : Fits c op) : EvidenceStore.Evolved c.evidence (c.step op).evidence := by
  have hrunning : op.Running := by
    rintro image boot tick rfl
    exact hfits
  intro id r' hr'
  rcases (records_step hc.indexed hrunning).2 id r' hr' with
    hold | ⟨_, _, _, _, _, outcome, rfl, hok, -⟩
  · exact hold
  · rw [accepts, hok] at hop
    cases hop

theorem idle_run {ops : List Operation} (hc : Reached scope c) (hidle : Idle c)
    (h : Along step (fun c op => (Fits c op ∧ Hashed scope c op) ∧ c.accepts op = false) c ops) :
    Reached scope (run step c ops) ∧ Idle (run step c ops) := by
  have hstep : ∀ d op, (Fits d op ∧ Hashed scope d op) ∧ d.accepts op = false →
      Reached scope d ∧ Idle d → Reached scope (d.step op) ∧ Idle (d.step op) := by
    rintro d op ⟨⟨hfits, hhashed⟩, hop⟩ ⟨hd, hidle⟩
    exact ⟨hd.step hfits hhashed, hidle.evolved (evolved_step hd.consistent hop hfits)⟩
  exact run_invariant step hstep ⟨hc, hidle⟩ h

/-- The answer names no class, or it selects the record derived from a contract that is
ACTIVE and not a stored record. -/
def RestsOnContract (c : Classifier) (query : ClassificationQuery) (tick : Tick)
    (result : ClassificationResult) : Prop :=
  result.classification.semantic ≠ .unknown →
    ∃ input k, c.queryInput query.flowKey query.flowGeneration tick = some input ∧
      c.workloads.contracts.lookup k.id = some k ∧ k.state = .active ∧
      result.classification.selectedEvidence = (derived input k).id ∧
      c.evidence.byId.lookup result.classification.selectedEvidence = none

theorem stateOf_current {input : DecisionInput} {r : EvidenceRecord}
    (h : stateOf input r = .current) : r.state = .current := by
  by_contra hstate
  unfold stateOf at h
  split_ifs at h
  exact hstate h

/-- No stored record has the identity of a derived one. -/
theorem lookup_derived (hc : Consistent scope c) (input : DecisionInput) (k : WorkloadContract) :
    c.evidence.byId.lookup (derived input k).id = none := by
  cases hr : c.evidence.byId.lookup (derived input k).id with
  | none => rfl
  | some r =>
    have hminted := (hc.recorded _ r hr).1.id_eq
    rw [hc.indexed.keyed _ r hr, derived_id] at hminted
    exact absurd hminted (contractEvidenceId_ne_minted _ _ _)

theorem restsOnContract_of_decided (hc : Consistent scope c) (hidle : Idle c)
    {query : ClassificationQuery} {input : DecisionInput} {result : ClassificationResult}
    (hasked : c.queryInput query.flowKey query.flowGeneration tick = some input)
    (hwf : WellFormed input) (hdecided : result.classification = Engine.decide input) :
    RestsOnContract c query tick result := by
  intro hnamed
  rw [hdecided] at hnamed ⊢
  obtain ⟨w, hw, hselected⟩ := decide_named hwf hnamed
  have hcurrent := stateOf_current hw.contender.1.1
  obtain ⟨flow, generation, -, rfl⟩ := decisionInput_of_queryInput hasked
  rcases candidate_cases hc hw.mem with ⟨hstored, -⟩ | ⟨k, hk, happlies, rfl⟩
  · exact absurd hcurrent (hidle _ w hstored)
  · refine ⟨_, k, hasked, hk, happlies.1, hselected, ?_⟩
    rw [hselected]
    exact lookup_derived hc _ k

/-- After a restart and an epoch change no stored record is CURRENT, no identity that was
ever not CURRENT is CURRENT again, and until a submission is accepted every answer that
names a class rests on an ACTIVE contract. -/
theorem authority_ends_at_restart {c₁ : Classifier} {options : ClassifierOptions}
    {boot : CoordinatorBootId} {tick : Tick} (h : Reached scope c)
    (hrestore : restore c.durableState (.new options) boot tick = (.ok (), c₁))
    (next : CoordinatorBootId) :
    let c₂ := (c₁.advanceEpoch next).2
    (Idle c₁ ∧ Idle c₂) ∧
    (∀ b d, Reaches (Storable scope) b → Later scope b d →
      ∀ id r, b.evidence.byId.lookup id = some r → r.state ≠ .current →
        ∀ r', d.evidence.byId.lookup id = some r' → r'.state ≠ .current) ∧
    ∀ ops, Along step (fun c op => (Fits c op ∧ Hashed scope c op) ∧ c.accepts op = false) c₂ ops →
      let d := run step c₂ ops
      EveryAnswer (Digestible scope d) d (RestsOnContract d) := by
  intro c₂
  have hreached := h.restart hrestore
  have hidle := idle_of_restart h.consistent.indexed hrestore
  have hfits : Fits c₁ (.advanceEpoch next) := by
    have hsame : c₁.authoritySequence = 1 := by
      rw [(restore_ok hrestore).2.2]
      rfl
    rw [Fits, hsame]
    decide
  have hreached' : Reached scope c₂ := hreached.step hfits trivial
  have hidle' : Idle c₂ := hidle.evolved (evolved_step hreached.consistent rfl hfits)
  refine ⟨⟨hidle, hidle'⟩, ?_, ?_⟩
  · intro b d hb hlater id r hr hstate r' hr'
    obtain ⟨-, -, -, -, hspent⟩ := (spent_of_stored hb.consistent hr hstate).later hb hlater
    exact hspent r' hr'
  · intro ops hops d
    obtain ⟨hd, hidle⟩ := idle_run hreached' hidle' hops
    exact everyAnswer_of_decided hd fun query tick input result hinput hwf hresult _ =>
      restsOnContract_of_decided hd.consistent hidle hinput hwf hresult

end Idle

def publishedRun : List Operation :=
  [.declareWorkload (.make (text "trainer")) (.make (text "agent")) 1 [] 1,
   .proposeContract (sampleContract (text "c-a") .collective []) 1,
   .activateContract (.make (text "c-a")) (.make (text "agent")) 2,
   .registerPublisher (.make (text "agent")) 2 .declaredAuthenticated (.make (text "s1")) [] 2 0,
   .submitEvidence { sampleEnvelope with maxSource := .declaredAuthenticated }
     (samplePayload .declaredAuthenticated 1) 3 3 0]

def restarted : Result Unit × Classifier :=
  restore (run step (.new {}) publishedRun).durableState (.new {}) 2 9

def reopened : Classifier := (restarted.2.advanceEpoch 3).2

def submissionMessages (c : Classifier) (envelope : SessionEnvelope) (payload : EvidencePayload)
    (tick : Tick) : List Bytes :=
  match c.admitted envelope payload tick with
  | none => []
  | some r => [materialOf r, (evidenceDigestChunks r).flatten]

def publishedMessages : List Bytes :=
  (contractDigestChunks (sampleContract (text "c-a") .collective [])).flatten ::
    submissionMessages (run step (.new {}) (publishedRun.take 4))
      { sampleEnvelope with maxSource := .declaredAuthenticated }
      (samplePayload .declaredAuthenticated 1) 3

def restartMessages : List Bytes :=
  publishedMessages ++ queryMessages reopened sampleKey 12

def restartScope : HashScope :=
  .ofLists restartMessages [sampleKey] (by decide +kernel) nodup_sampleKey

theorem submission_hashed {scope : HashScope} {c : Classifier} {envelope : SessionEnvelope}
    {payload : EvidencePayload}
    (h : ∀ m ∈ submissionMessages c envelope payload tick, m ∈ scope.messages) (r : EvidenceRecord)
    (hr : c.admitted envelope payload tick = some r) :
    materialOf r ∈ scope.messages ∧ (evidenceDigestChunks r).flatten ∈ scope.messages := by
  rw [submissionMessages, hr] at h
  exact ⟨h _ (by simp), h _ (by simp)⟩

theorem publishedRun_along {scope : HashScope}
    (hmessages : ∀ m ∈ publishedMessages, m ∈ scope.messages) (hkey : sampleKey ∈ scope.keys) :
    Along step (fun c op => Fits c op ∧ Hashed scope c op) (.new {}) publishedRun := by
  refine ⟨⟨trivial, trivial⟩, ⟨?_, ?_⟩, ⟨trivial, trivial⟩, ⟨?_, trivial⟩, ⟨?_, hkey, ?_⟩, trivial⟩
  · exact (by decide : contractBytes (sampleContract (text "c-a") .collective []) ≤ maxBlobBytes)
  · exact hmessages _ List.mem_cons_self
  · exact (by decide +kernel : (run step (.new {}) (publishedRun.take 3)).authoritySequence ≠
      0xFFFFFFFFFFFFFFFF)
  · exact (by decide : recordBytes sampleEnvelope (samplePayload .declaredAuthenticated 1) ≤
      maxBlobBytes)
  · exact submission_hashed fun m hm => hmessages m (List.mem_cons_of_mem _ hm)

theorem reached_publishedRun : Reached restartScope (run step (.new {}) publishedRun) :=
  (Reached.new {}).run (publishedRun_along
    (fun _ hm => List.mem_append_left (queryMessages _ sampleKey 12) hm) List.mem_cons_self)

theorem restarted_checked :
    restarted.1 = .ok () ∧ reopened.evidence.byId.size = 1 ∧
      (reopened.flows.current.lookup sampleKey).all
        (fun flow => decisionBytes reopened flow.id ≤ maxBlobBytes) = true ∧
      ∃ result, (reopened.classify { flowKey := sampleKey } 12).1 = .ok result ∧
        result.classification.semantic = .collective := by
  decide +kernel

theorem restarted_eq : restarted = (.ok (), restarted.2) := by
  rw [← restarted_checked.1]

/-- The restored record does not count, and the answer comes from the contract. -/
theorem authority_ends_at_restart_sample :
    reopened.evidence.byId.size = 1 ∧ Idle reopened ∧
      ∃ result, (reopened.classify { flowKey := sampleKey } 12).1 = .ok result ∧
        result.classification.semantic = .collective ∧
        RestsOnContract reopened { flowKey := sampleKey } 12 result := by
  obtain ⟨⟨-, hidle⟩, -, hanswers⟩ := authority_ends_at_restart reached_publishedRun restarted_eq 3
  obtain ⟨-, hsize, hfits, result, hresult, hsemantic⟩ := restarted_checked
  have hquery : QueryFits reopened sampleKey := queryFits_of_all hfits
  have hhashed : QueryHashed restartScope reopened sampleKey 0 12 :=
    queryHashed_ofLists _ _ fun _ hm => List.mem_append_right publishedMessages hm
  exact ⟨hsize, hidle, result, hresult, hsemantic,
    (hanswers [] trivial).1 { flowKey := sampleKey } 12 ⟨hquery, hhashed⟩ result hresult⟩

/-- The one record of the run is there after the restart, and STALE. -/
theorem identity_names_one_record_restarted :
    ∃ id r r', (run step (.new {}) publishedRun).evidence.byId.lookup id = some r ∧
      restarted.2.evidence.byId.lookup id = some r' ∧ r'.state ≠ r.state ∧
      EvidenceStore.Weakens r r' := by
  obtain ⟨id, -, r, hr, r', hr', hstate⟩ : ∃ id ∈ (run step (.new {}) publishedRun).evidence.order,
      ∃ r, (run step (.new {}) publishedRun).evidence.byId.lookup id = some r ∧
        ∃ r', restarted.2.evidence.byId.lookup id = some r' ∧ r'.state ≠ r.state := by
    decide +kernel
  exact ⟨id, r, r', hr, hr', hstate,
    identity_names_one_record reached_publishedRun.reaches (Later.refl.restart restarted_eq) hr hr'⟩

def freshStart : Classifier :=
  ((restore (Classifier.new {}).durableState (.new {}) 2 1).2.advanceEpoch 3).2

def freshlyHolding (p q : WorkloadContract) : Classifier :=
  let c := freshStart.step (proposals.get ⟨0, proposals_pos⟩)
  { c with
    workloads := { c.workloads with
      contracts := (c.workloads.contracts.insert p.id p).insert q.id q
      stats := { c.workloads.stats with contractsProposed := 2, contracts := 2 } } }

-- comparing the two states walks through their nested maps
set_option maxRecDepth 100000 in
theorem run_freshStart : run step freshStart proposals =
    freshlyHolding (WorkloadRegistry.proposed (bulkyContract (text "c-a") .collective) 1)
      (WorkloadRegistry.proposed (bulkyContract (text "c-b") .checkpoint) 1) := rfl

def freshlyUndigested : Classifier :=
  freshlyHolding
    { bulkyContract (text "c-a") .collective with createdTick := 1, definitionDigest := .zero }
    { bulkyContract (text "c-b") .checkpoint with createdTick := 1, definitionDigest := .zero }

theorem run_freshTakeover : run step freshStart (proposals ++ takeover) =
    run step freshlyUndigested takeover := by
  have hproposals : run step freshStart proposals = freshlyUndigested := by
    rw [run_freshStart, proposed_bulkyContract, proposed_bulkyContract]
    rfl
  rw [← hproposals, run, List.foldl_append]
  rfl

/-- The memo answers after the restart with the record of a contract that is RETIRED by
then, since both contracts have the zero digest. -/
theorem answer_rests_on_retired_contract :
    let d := run step freshStart (proposals ++ takeover)
    ∃ result, (d.classify { flowKey := sampleKey } 5).1 = .ok result ∧
      ¬ RestsOnContract d { flowKey := sampleKey } 5 result := by
  intro d
  obtain ⟨result, hresult, hnamed, hnone⟩ : ∃ result,
      (d.classify { flowKey := sampleKey } 5).1 = .ok result ∧
      result.classification.semantic ≠ .unknown ∧
      ∀ i ∈ d.queryInput sampleKey 0 5, ∀ k ∈ d.workloads.contracts.values, k.state = .active →
        result.classification.selectedEvidence ≠ (derived i k).id := by
    rw [show d = run step freshlyUndigested takeover from run_freshTakeover]
    decide +kernel
  refine ⟨result, hresult, fun hrests => ?_⟩
  obtain ⟨input, k, hinput, hlookup, hactive, hselected, -⟩ := hrests hnamed
  exact hnone input hinput k (FiniteMap.mem_values_of_lookup hlookup) hactive hselected

end Classifier
end FlowClassifier
