import FlowClassifier.Admission
import FlowClassifier.RestoreStages
import FlowClassifier.Store.ContractLifecycle
import FlowClassifier.Store.DecisionHistory

/-!
What the operations leave alone. A query changes the memo, the recorded decisions and
statistics and nothing else; an operation on workloads, flows or revocations touches no
publisher, no epoch and no authority number. Each operation is opened once, for all the
components it may change.
-/
namespace FlowClassifier.Classifier

open Foundation Evidence Flows Engine Policies Store EvidenceStore ClassificationIndex

structure Quiet (c c' : Classifier) : Prop where
  publishers : c'.publishers = c.publishers
  epoch : c'.epoch = c.epoch
  coordinatorBoot : c'.coordinatorBoot = c.coordinatorBoot
  authoritySequence : c'.authoritySequence = c.authoritySequence

theorem SameAuthority.quiet {c c' : Classifier} (h : SameAuthority c c') : Quiet c c' :=
  ⟨h.publishers, h.epoch, h.coordinatorBoot, h.authoritySequence⟩

/-- The state after a query: only the memo, the recorded decisions and statistics may
differ. -/
structure Answered (c c' : Classifier) : Prop extends SameAuthority c c' where
  evidence : c'.evidence = c.evidence
  current : c'.flows.current = c.flows.current
  history : c'.flows.history = c.flows.history
  maxFlows : c'.flows.maxFlows = c.flows.maxFlows
  log : c.decisions.SameLog c'.decisions

theorem Answered.refl (c : Classifier) : Answered c c :=
  ⟨SameAuthority.refl c, rfl, rfl, rfl, rfl, .refl _⟩

theorem Answered.trans {a b c : Classifier} (h : Answered a b) (h' : Answered b c) : Answered a c :=
  ⟨h.toSameAuthority.trans h'.toSameAuthority, h'.evidence.trans h.evidence,
    h'.current.trans h.current, h'.history.trans h.history, h'.maxFlows.trans h.maxFlows,
    h.log.trans h'.log⟩

theorem answered_counted (c : Classifier) (counters : ClassifierCounters) :
    Answered c { c with counters := counters } :=
  ⟨⟨rfl, rfl, rfl, rfl, rfl, rfl, rfl, rfl⟩, rfl, rfl, rfl, rfl, .refl _⟩

theorem answered_looked (c : Classifier) : Answered c { c with flows := c.flows.countLookup } :=
  ⟨⟨rfl, rfl, rfl, rfl, rfl, rfl, rfl, rfl⟩, rfl, rfl, rfl, rfl, .refl _⟩

theorem answered_decideMemoised (c : Classifier) (input : DecisionInput) :
    Answered c (c.decideMemoised input).2.2 := by
  have hlookup := sameLog_memoLookup c.decisions (decisionKey input)
  unfold decideMemoised
  dsimp only
  generalize c.decisions.memoLookup (decisionKey input) = found at hlookup
  obtain ⟨_ | classification, decisions⟩ := found
  · have hstore := (memoStore_spec decisions (decisionKey input) (Engine.decide input)).1
    exact ⟨⟨rfl, rfl, rfl, rfl, rfl, rfl, rfl, rfl⟩, rfl, rfl, rfl, rfl,
      (hlookup.trans hstore).trans (sameLog_record _ _)⟩
  · exact ⟨⟨rfl, rfl, rfl, rfl, rfl, rfl, rfl, rfl⟩, rfl, rfl, rfl, rfl, hlookup⟩

theorem answered_answer (c : Classifier) (flow : FlowRecord) (generation : FlowGeneration)
    (historical explain : Bool) (tick : Tick) :
    Answered c (c.answer flow generation historical explain tick).2 :=
  answered_decideMemoised c (c.decisionInput flow generation tick)

theorem findByKey_ok {r : FlowRegistry} {key : FlowKey} {flow : FlowRecord}
    (h : r.findByKey key = .ok flow) : r.current.lookup key = some flow := by
  unfold FlowRegistry.findByKey at h
  cases hlookup : r.current.lookup key with
  | none =>
    rw [hlookup] at h
    cases h
  | some found =>
    rw [hlookup] at h
    cases h
    rfl

/-- What answering a query can come to, once the flow and its generation are looked up. -/
inductive Asked (c : Classifier) (query : ClassificationQuery) (tick : Tick) :
    Result ClassificationResult × Classifier → Prop
  | refused {d : Classifier} {e : Failure} (hd : Answered c d)
      (hdecisions : d.decisions = c.decisions) : Asked c query tick (.error e, d)
  | answered {d : Classifier} {flow : FlowRecord} {generation : FlowGeneration}
      {historical : Bool} {counters : ClassifierCounters} (hd : Answered c d)
      (hdecisions : d.decisions = c.decisions)
      (hflow : c.flows.current.lookup query.flowKey = some flow)
      (hgeneration : generation =
        if query.flowGeneration = 0 then flow.generation else query.flowGeneration) :
      Asked c query tick
        (.ok (d.answer flow generation historical query.explain tick).1,
          { (d.answer flow generation historical query.explain tick).2 with
            counters := counters })

/-- The generation a query is about, and that selecting it leaves the decisions alone. -/
theorem selectGeneration_spec (c : Classifier) (flow : FlowRecord)
    (requested : FlowGeneration) :
    let out := c.selectGeneration flow requested
    Answered c out.2 ∧ out.2.decisions = c.decisions ∧
      ∀ generation historical, out.1 = .ok (generation, historical) →
        generation = if requested = 0 then flow.generation else requested := by
  unfold selectGeneration
  by_cases hcurrent : requested = 0 ∨ requested = flow.generation
  · rw [if_pos hcurrent]
    refine ⟨.refl c, rfl, fun generation historical h => ?_⟩
    cases h
    rcases hcurrent with hzero | hsame
    · rw [if_pos hzero]
    · split_ifs
      · rfl
      · exact hsame.symm
  · rw [if_neg hcurrent]
    dsimp only
    cases c.flows.findGeneration flow.id requested with
    | error e => exact ⟨answered_looked c, rfl, fun _ _ h => by cases h⟩
    | ok record =>
      refine ⟨answered_looked c, rfl, fun generation historical h => ?_⟩
      cases h
      rw [if_neg fun hzero => hcurrent (Or.inl hzero)]

section Queries

variable {c d : Classifier} {query : ClassificationQuery} {tick : Tick} {flow : FlowRecord}

/-- Selecting a generation and answering for it, after steps that only count. -/
theorem asked_selected (hd : Answered c d) (hdecisions : d.decisions = c.decisions)
    (hflow : c.flows.current.lookup query.flowKey = some flow)
    (counted : Classifier → ClassifierCounters) :
    Asked c query tick
      (match d.selectGeneration flow query.flowGeneration with
      | (.error e, d) => (.error e, d)
      | (.ok (generation, historical), d) =>
        let (result, d) := d.answer flow generation historical query.explain tick
        (.ok result, { d with counters := counted d })) := by
  obtain ⟨hselected, hkept, hgeneration⟩ := selectGeneration_spec d flow query.flowGeneration
  generalize d.selectGeneration flow query.flowGeneration = out at *
  obtain ⟨e | ⟨generation, historical⟩, d'⟩ := out
  · exact .refused (hd.trans hselected) (hkept.trans hdecisions)
  · exact .answered (hd.trans hselected) (hkept.trans hdecisions) hflow
      (hgeneration generation historical rfl)

theorem asked_classify (c : Classifier) (query : ClassificationQuery) (tick : Tick) :
    Asked c query tick (c.classify query tick) := by
  have hlooked : Answered c
      { c.countClassification with flows := c.countClassification.flows.countLookup } :=
    (answered_counted c _).trans (answered_looked _)
  unfold classify
  dsimp only
  split
  · exact .refused hlooked rfl
  next flow hflow =>
    split_ifs
    · exact .refused hlooked rfl
    · exact asked_selected hlooked rfl (findByKey_ok hflow) counters

theorem asked_classifyOne (c : Classifier) (query : ClassificationQuery) (tick : Tick) :
    Asked c query tick (c.classifyOne query tick) := by
  unfold classifyOne
  dsimp only
  split
  · exact .refused (answered_looked c) rfl
  next flow hflow =>
    exact asked_selected (answered_looked c) rfl (findByKey_ok hflow)
      (·.countClassification.counters)

theorem Asked.kept {out : Result ClassificationResult × Classifier}
    (h : Asked c query tick out) : Answered c out.2 := by
  cases h with
  | refused hd => exact hd
  | answered hd => exact (hd.trans (answered_answer _ _ _ _ _ _)).trans (answered_counted _ _)

theorem answered_classify (c : Classifier) (query : ClassificationQuery) (tick : Tick) :
    Answered c (c.classify query tick).2 :=
  (asked_classify c query tick).kept

def Holds (answer : ClassificationQuery → Tick → ClassificationResult → Prop)
    (q : ClassificationQuery × Tick) (entry : ClassificationResult × Result Unit) : Prop :=
  entry.2 = .ok () → answer q.1 q.2 entry.1

/-- A batch has one entry for each query, and holds the answer of each that is answered. -/
def BatchHolds (answer : ClassificationQuery → Tick → ClassificationResult → Prop)
    (queries : List (ClassificationQuery × Tick)) (outcome : BatchOutcome) : Prop :=
  ∃ entries : List (ClassificationResult × Result Unit),
    outcome.results = entries.map Prod.fst ∧ outcome.statuses = entries.map Prod.snd ∧
    List.Forall₂ (Holds answer) queries entries

theorem BatchHolds.imp {P Q : ClassificationQuery → Tick → ClassificationResult → Prop}
    {queries : List (ClassificationQuery × Tick)} {outcome : BatchOutcome}
    (h : BatchHolds P queries outcome)
    (himp : ∀ query tick result, P query tick result → Q query tick result) :
    BatchHolds Q queries outcome := by
  obtain ⟨entries, hresults, hstatuses, hentries⟩ := h
  exact ⟨entries, hresults, hstatuses,
    hentries.imp fun q entry hanswer hok => himp _ _ _ (hanswer hok)⟩

/-- The property holds of every answer that `classify` and `classify_batch` give in the
state, if the operation meets the condition. -/
def EveryAnswer (asked : Operation → Prop) (c : Classifier)
    (P : ClassificationQuery → Tick → ClassificationResult → Prop) : Prop :=
  (∀ query tick, asked (.classify query tick) →
    ∀ result, (c.classify query tick).1 = .ok result → P query tick result) ∧
  ∀ queries, asked (.classifyBatch queries) →
    ∀ outcome, (c.classifyBatch queries).1 = .ok outcome → BatchHolds P queries outcome

section Batches

variable {keeps : Classifier → Prop}
  {answer : ClassificationQuery → Tick → ClassificationResult → Prop}
  {queries : List (ClassificationQuery × Tick)}
  (hone : ∀ q ∈ queries, ∀ d, keeps d → keeps (d.classifyOne q.1 q.2).2 ∧
    ∀ result, (d.classifyOne q.1 q.2).1 = .ok result → answer q.1 q.2 result)

include hone

/-- The loop of a batch keeps what each key keeps, and its entries are the answers to the
keys. -/
theorem classifyEach_rule (hd : keeps d) (outcome : BatchOutcome) :
    let out := d.classifyEach outcome queries
    keeps out.2 ∧
      ∃ entries : List (ClassificationResult × Result Unit),
        out.1.results = outcome.results ++ entries.map Prod.fst ∧
        out.1.statuses = outcome.statuses ++ entries.map Prod.snd ∧
        List.Forall₂ (Holds answer) queries entries := by
  induction queries generalizing d outcome with
  | nil => exact ⟨hd, [], by simp [classifyEach]⟩
  | cons q rest ih =>
    obtain ⟨hkept, hanswer⟩ := hone q (by simp) d hd
    rw [classifyEach]
    generalize d.classifyOne q.1 q.2 = out at hkept hanswer
    obtain ⟨result, d'⟩ := out
    obtain ⟨hkept', entries, hresults, hstatuses, hentries⟩ :=
      ih (fun p hp => hone p (by simp [hp])) hkept (outcome.add result)
    refine ⟨hkept', ?_⟩
    cases result with
    | error e =>
      refine ⟨({}, .error e) :: entries, ?_, ?_, .cons (fun h => by cases h) hentries⟩
      · rw [hresults]
        simp [BatchOutcome.add]
      · rw [hstatuses]
        simp [BatchOutcome.add]
    | ok r =>
      refine ⟨(r, .ok ()) :: entries, ?_, ?_, .cons (fun _ => hanswer r rfl) hentries⟩
      · rw [hresults]
        simp [BatchOutcome.add]
      · rw [hstatuses]
        simp [BatchOutcome.add]

theorem classifyBatch_rule (hcounted : ∀ counters, keeps { c with counters := counters }) :
    keeps (c.classifyBatch queries).2 ∧
      ∀ outcome, (c.classifyBatch queries).1 = .ok outcome →
        BatchHolds answer queries outcome := by
  unfold classifyBatch
  dsimp only
  split_ifs
  · exact ⟨hcounted c.counters, fun _ h => by cases h⟩
  · obtain ⟨hkept, entries, hresults, hstatuses, hentries⟩ := classifyEach_rule hone (hcounted _) {}
    refine ⟨hkept, fun outcome h => ?_⟩
    cases h
    exact ⟨entries, by simpa using hresults, by simpa using hstatuses, hentries⟩

end Batches

theorem answered_classifyBatch (c : Classifier) (queries : List (ClassificationQuery × Tick)) :
    Answered c (c.classifyBatch queries).2 := by
  refine (@classifyBatch_rule c (Answered c) (fun _ _ _ => True) queries ?_ (answered_counted c)).1
  exact fun q _ d hd => ⟨hd.trans (asked_classifyOne d q.1 q.2).kept, fun _ _ => trivial⟩

def explainQuery (key : FlowKey) (generation : FlowGeneration) : ClassificationQuery where
  flowKey := key
  flowGeneration := generation
  explain := true
  acceptCurrentGeneration := generation == 0

/-- The state after an explanation is that after its query, but for a lookup. -/
theorem explain_state (c : Classifier) (key : FlowKey) (generation : FlowGeneration)
    (tick again : Tick) :
    let d := (c.classify (explainQuery key generation) tick).2
    (c.explain key generation tick again).2 = d ∨
      (c.explain key generation tick again).2 = { d with flows := d.flows.countLookup } := by
  unfold explain explainQuery
  dsimp only
  obtain ⟨_ | result, d⟩ := c.classify _ tick
  · exact Or.inl rfl
  · dsimp only
    split_ifs
    · unfold findFlow
      cases d.flows.findByKey key <;> exact Or.inr rfl
    · exact Or.inl rfl

theorem answered_explain (c : Classifier) (key : FlowKey) (generation : FlowGeneration)
    (tick again : Tick) : Answered c (c.explain key generation tick again).2 := by
  have hclassify := answered_classify c (explainQuery key generation) tick
  rcases explain_state c key generation tick again with hstate | hstate
  · rw [hstate]
    exact hclassify
  · rw [hstate]
    exact hclassify.trans (answered_looked _)

end Queries

theorem reviewed_foldl_markStaleWhere {α : Type} (p : α → EvidenceRecord → Bool)
    (reason : α → Bytes) (xs : List α) (s : EvidenceStore) :
    s.Reviewed (xs.foldl (fun s x => s.markStaleWhere (p x) (reason x)) s) := by
  induction xs generalizing s with
  | nil => exact Reviewed.refl s
  | cons x rest ih => exact (reviewed_markStaleWhere s _ _).trans (ih _)

/-- What a flow registration does to the classifier besides the flows: it moves records to
STALE and marks recorded decisions. -/
theorem refreshFlow_stores (c : Classifier) (key : FlowKey) (requested : FlowGeneration)
    (session : SessionId) (tick : Tick) :
    let c' := (c.refreshFlow key requested session tick).2
    c'.flows = (c.flows.registerFlow key requested session tick).2 ∧
      c.evidence.Reviewed c'.evidence ∧ (c'.decisions = c.decisions ∨
        ∃ flow generation, c'.decisions = (c.decisions.supersedeGeneration flow generation).2) := by
  unfold refreshFlow
  obtain ⟨_ | registration, flows⟩ := c.flows.registerFlow key requested session tick
  · exact ⟨rfl, Reviewed.refl _, Or.inl rfl⟩
  · have hstale := reviewed_markStaleWhere
    dsimp only
    split_ifs
    · exact ⟨rfl, (hstale _ _ _).trans (hstale _ _ _), Or.inr ⟨_, _, rfl⟩⟩
    · exact ⟨rfl, hstale _ _ _, Or.inr ⟨_, _, rfl⟩⟩
    · exact ⟨rfl, hstale _ _ _, Or.inl rfl⟩
    · exact ⟨rfl, Reviewed.refl _, Or.inl rfl⟩

theorem evidence_fileRevocation (c : Classifier) (envelope : SessionEnvelope) (flow : FlowId)
    (generation : FlowGeneration) (id : EvidenceId) (tick : Tick) (reason : Bytes) :
    (c.fileRevocation envelope flow generation id tick reason).2.evidence = c.evidence := by
  unfold fileRevocation
  split <;> rfl

/-- An update changes nothing, or installs a canonical policy and clears the decisions. -/
theorem setPolicy_updates (c : Classifier) (policy : ClassifierPolicy) :
    (c.setPolicy policy).2 = c ∨ ∃ canonical generation counters,
      ClassifierPolicy.canonicalize policy = .ok canonical ∧ (c.setPolicy policy).2 =
        let next := { canonical with generation := generation }
        { c with
          policy := next, policyDigest := computePolicyDigest next
          decisions := c.decisions.clear, counters := counters } := by
  unfold setPolicy
  cases ClassifierPolicy.canonicalize policy with
  | error e => exact Or.inl rfl
  | ok next =>
    dsimp only
    split_ifs
    · exact Or.inl rfl
    · split
      · exact Or.inl rfl
      · exact Or.inr ⟨next, _, _, rfl, rfl⟩

/-- A withdrawal is refused and changes nothing, or moves its record to SUPERSEDED and
files a revocation that names it. -/
theorem withdrawEvidence_cases (c : Classifier) (envelope : SessionEnvelope) (id : EvidenceId)
    (reason : Bytes) (tick : Tick) :
    let out := c.withdrawEvidence envelope id reason tick
    (∃ e, out = (.error e, c)) ∨
    ∃ record applied, c.evidence.byId.lookup id = some record ∧
      out = fileRevocation { c with evidence := (c.evidence.setState id .superseded applied).2 }
        envelope record.flowId record.flowGeneration id tick applied := by
  unfold withdrawEvidence EvidenceStore.find
  by_cases hepoch : envelope.epoch = c.epoch
  · cases hid : c.evidence.byId.lookup id with
    | none => exact Or.inl ⟨EvidenceStore.missing id, by simp [hepoch]⟩
    | some record =>
      simp only [hepoch, ne_eq, not_true_eq_false, if_false]
      by_cases howner : ¬ record.publisher = envelope.publisher ∨
          ¬ record.publisherBoot = envelope.publisherBoot
      · exact Or.inl ⟨_, if_pos howner⟩
      · rw [if_neg howner]
        generalize (if reason.isEmpty then text "withdrawn by its publisher" else reason) = applied
        rcases hset : c.evidence.setState id .superseded applied with ⟨e | _, evidence⟩
        · have hsame := setState_of_error (congrArg Prod.fst hset)
          rw [hset] at hsame
          dsimp only at hsame
          exact Or.inl ⟨e, by rw [hsame]⟩
        · exact Or.inr ⟨record, applied, rfl, by rw [hset]⟩
  · exact Or.inl ⟨staleEpoch envelope c.epoch, by simp [hepoch]⟩

/-- A revocation is refused and changes no more than a statistic, or is filed. -/
theorem revokeGeneration_cases (c : Classifier) (envelope : SessionEnvelope) (flow : FlowId)
    (generation : FlowGeneration) (reason : Bytes) (tick : Tick) :
    let out := c.revokeGeneration envelope flow generation reason tick
    (∃ e, out = (.error e, c)) ∨
    (∃ e, out = (.error e, { c with flows := c.flows.countLookup })) ∨
    ∃ applied, out = fileRevocation { c with flows := c.flows.countLookup } envelope flow
      generation .none tick applied := by
  unfold revokeGeneration
  by_cases hepoch : envelope.epoch = c.epoch
  · simp only [hepoch, ne_eq, not_true_eq_false, if_false]
    cases c.flows.findGeneration flow generation with
    | error e => exact Or.inr (Or.inl ⟨_, rfl⟩)
    | ok record => exact Or.inr (Or.inr ⟨_, rfl⟩)
  · exact Or.inl ⟨staleEpoch envelope c.epoch, by simp [hepoch]⟩

def LeavesDecisions : Operation → Prop
  | .advanceEpoch _ | .registerPublisher .. | .endPublisherSession .. | .heartbeat ..
  | .expirePublisherLiveness _ | .declareWorkload .. | .proposeContract ..
  | .activateContract .. | .retireContract .. | .retireWorkload .. | .findFlow _
  | .findFlowGeneration .. => True
  | _ => False

def TouchesPublishers : Operation → Prop
  | .advanceEpoch _ | .registerPublisher .. | .endPublisherSession .. | .heartbeat ..
  | .expirePublisherLiveness _ | .submitEvidence .. | .restore .. => True
  | _ => False

def AddsEvidence : Operation → Prop
  | .submitEvidence .. | .restore .. => True
  | _ => False

def TouchesFlows : Operation → Prop
  | .registerFlow .. | .submitEvidence .. | .restore .. => True
  | _ => False

def TouchesWorkloads : Operation → Prop
  | .declareWorkload .. | .proposeContract .. | .activateContract .. | .retireContract ..
  | .retireWorkload .. | .restore .. => True
  | _ => False

def UsesSequence : Operation → Prop
  | .advanceEpoch _ | .submitEvidence .. | .withdrawEvidence .. | .revokeGeneration ..
  | .restore .. => True
  | _ => False

/-- The state after an operation, as far as the kind of the operation determines it. -/
structure Framed (c : Classifier) (op : Operation) (c' : Classifier) : Prop where
  policy : (∀ policy, op ≠ .setPolicy policy) →
    c'.policy = c.policy ∧ c'.policyDigest = c.policyDigest
  quiet : ¬ TouchesPublishers op → Quiet c c'
  epoch : (∀ boot, op ≠ .advanceEpoch boot) →
    (∀ image boot tick, op ≠ .restore image boot tick) → c'.epoch = c.epoch
  sequence : ¬ UsesSequence op → c'.sequence = c.sequence
  workloads : ¬ TouchesWorkloads op → c'.workloads = c.workloads
  current : ¬ TouchesFlows op → c'.flows.current = c.flows.current
  evidence : ¬ AddsEvidence op → c.evidence.Reviewed c'.evidence
  decisions : LeavesDecisions op → c'.decisions = c.decisions

section Framed

variable {c c' : Classifier} {op : Operation}

theorem Framed.refl (c : Classifier) (op : Operation) : Framed c op c :=
  ⟨fun _ => ⟨rfl, rfl⟩, fun _ => ⟨rfl, rfl, rfl, rfl⟩, fun _ _ => rfl, fun _ => rfl, fun _ => rfl,
    fun _ => rfl, fun _ => .refl _, fun _ => rfl⟩

/-- Operations on publishers. -/
theorem framed_publishers (hop : TouchesPublishers op) {publishers : PublisherRegistry}
    {evidence : EvidenceStore} {authority : Seq} (h : c.evidence.Reviewed evidence) :
    Framed c op { c with
      publishers := publishers, evidence := evidence, authoritySequence := authority } :=
  ⟨fun _ => ⟨rfl, rfl⟩, fun hquiet => absurd hop hquiet, fun _ _ => rfl, fun _ => rfl,
    fun _ => rfl, fun _ => rfl, fun _ => h, fun _ => rfl⟩

/-- Operations on workloads and contracts. -/
theorem framed_workloads (hop : TouchesWorkloads op) {workloads : WorkloadRegistry}
    {evidence : EvidenceStore} (h : c.evidence.Reviewed evidence) :
    Framed c op { c with workloads := workloads, evidence := evidence } :=
  ⟨fun _ => ⟨rfl, rfl⟩, fun _ => ⟨rfl, rfl, rfl, rfl⟩, fun _ _ => rfl, fun _ => rfl,
    fun hsame => absurd hop hsame, fun _ => rfl, fun _ => h, fun _ => rfl⟩

theorem Answered.framed (h : Answered c c') (hop : ¬ LeavesDecisions op) : Framed c op c' :=
  ⟨fun _ => ⟨h.policy, h.policyDigest⟩, fun _ => h.toSameAuthority.quiet, fun _ _ => h.epoch,
    fun _ => h.sequence, fun _ => h.workloads, fun _ => h.current,
    fun _ => h.evidence ▸ .refl _, fun hleaves => absurd hleaves hop⟩

/-- Operations that file a revocation. -/
theorem framed_fileRevocation {d : Classifier} (h : Framed c op d) (huses : UsesSequence op)
    (hleaves : ¬ LeavesDecisions op) (envelope : SessionEnvelope) (flow : FlowId)
    (generation : FlowGeneration) (id : EvidenceId) (tick : Tick) (reason : Bytes) :
    Framed c op (d.fileRevocation envelope flow generation id tick reason).2 := by
  obtain ⟨hpolicy, hquiet, hepoch, -, hworkloads, hcurrent, hevidence, -⟩ := h
  unfold fileRevocation
  split
  · exact ⟨hpolicy, hquiet, hepoch, fun hsame => absurd huses hsame, hworkloads, hcurrent,
      hevidence, fun hsame => absurd hsame hleaves⟩
  · refine ⟨hpolicy, fun hop => ?_, hepoch, fun hsame => absurd huses hsame, hworkloads, hcurrent,
      hevidence, fun hsame => absurd hsame hleaves⟩
    obtain ⟨h₁, h₂, h₃, h₄⟩ := hquiet hop
    exact ⟨h₁, h₂, h₃, h₄⟩

/-- The one case split over the operations; what each leaves alone is read off it. -/
theorem framed_step (c : Classifier) (op : Operation) : Framed c op (c.step op) := by
  have hsame := Reviewed.refl c.evidence
  have hstale := reviewed_markStaleWhere c.evidence
  cases op with
  | advanceEpoch boot =>
    rw [step, advanceEpoch]
    split
    · exact .refl c _
    · split
      · exact ⟨fun _ => ⟨rfl, rfl⟩, fun _ => ⟨rfl, rfl, rfl, rfl⟩, fun _ _ => rfl,
          fun hop => absurd trivial hop, fun _ => rfl, fun _ => rfl, fun _ => hsame, fun _ => rfl⟩
      · exact ⟨fun _ => ⟨rfl, rfl⟩, fun hop => absurd trivial hop,
          fun hop _ => absurd rfl (hop boot), fun hop => absurd trivial hop, fun _ => rfl,
          fun _ => rfl, fun _ => reviewed_markEpochStale _ _, fun _ => rfl⟩
  | setPolicy policy =>
    rw [step]
    rcases setPolicy_updates c policy with hout | ⟨_, _, _, -, hout⟩
    · rw [hout]
      exact .refl c _
    · rw [hout]
      exact ⟨fun hop => absurd rfl (hop policy), fun _ => ⟨rfl, rfl, rfl, rfl⟩, fun _ _ => rfl,
        fun _ => rfl, fun _ => rfl, fun _ => rfl, fun _ => hsame, fun hop => hop.elim⟩
  | registerPublisher | endPublisherSession | heartbeat | expirePublisherLiveness =>
    simp only [step, registerPublisher, endPublisherSession, heartbeat, expirePublisherLiveness]
    split
    all_goals first
      | exact framed_publishers (by trivial) hsame
      | exact framed_publishers (by trivial) (hstale _ _)
  | proposeContract => exact framed_workloads (by trivial) hsame
  | declareWorkload | activateContract | retireContract | retireWorkload =>
    simp only [step, declareWorkload, activateContract, retireContract, retireWorkload]
    repeat' split
    all_goals first
      | exact framed_workloads (by trivial) hsame
      | exact framed_workloads (by trivial) (hstale _ _)
      | exact framed_workloads (by trivial) (reviewed_foldl_markStaleWhere _ _ _ _)
  | registerFlow key requested session tick =>
    have h := sameAuthority_refreshFlow c key requested session tick
    exact ⟨fun _ => ⟨h.policy, h.policyDigest⟩, fun _ => h.quiet, fun _ _ => h.epoch,
      fun _ => h.sequence, fun _ => h.workloads, fun hop => absurd trivial hop,
      fun _ => (refreshFlow_stores _ _ _ _ _).2.1, fun hop => hop.elim⟩
  | findFlow | findFlowGeneration =>
    exact ⟨fun _ => ⟨rfl, rfl⟩, fun _ => ⟨rfl, rfl, rfl, rfl⟩, fun _ _ => rfl, fun _ => rfl,
      fun _ => rfl, fun _ => rfl, fun _ => hsame, fun _ => rfl⟩
  | submitEvidence envelope payload tick touchTick wall =>
    have h := (submission c envelope payload tick touchTick wall).unmoved
    exact ⟨fun _ => ⟨h.policy, h.policyDigest⟩, fun hop => absurd trivial hop, fun _ _ => h.epoch,
      fun hop => absurd trivial hop, fun _ => h.workloads, fun hop => absurd trivial hop,
      fun hop => absurd trivial hop, fun hop => hop.elim⟩
  | withdrawEvidence envelope j reason tick =>
    rw [step]
    rcases withdrawEvidence_cases c envelope j reason tick with ⟨e, h⟩ | ⟨_, applied, -, h⟩
    · rw [h]
      exact .refl c _
    · rw [h]
      refine framed_fileRevocation ?_ (by trivial) id _ _ _ _ _ _
      exact ⟨fun _ => ⟨rfl, rfl⟩, fun _ => ⟨rfl, rfl, rfl, rfl⟩, fun _ _ => rfl, fun _ => rfl,
        fun _ => rfl, fun _ => rfl, fun _ => reviewed_supersede _ _ _, fun _ => rfl⟩
  | revokeGeneration envelope flow generation reason tick =>
    have hlooked : Framed c (.revokeGeneration envelope flow generation reason tick)
        { c with flows := c.flows.countLookup } := (answered_looked c).framed id
    rw [step]
    rcases revokeGeneration_cases c envelope flow generation reason tick with
      ⟨e, h⟩ | ⟨e, h⟩ | ⟨applied, h⟩
    · rw [h]
      exact .refl c _
    · rw [h]
      exact hlooked
    · rw [h]
      exact framed_fileRevocation hlooked trivial id _ _ _ _ _ _
  | classify => exact (answered_classify c _ _).framed id
  | classifyBatch => exact (answered_classifyBatch c _).framed id
  | explain => exact (answered_explain c _ _ _ _).framed id
  | restore image boot tick =>
    exact ⟨fun _ => policy_restore image c boot tick, fun hop => absurd trivial hop,
      fun _ hop => absurd rfl (hop image boot tick), fun hop => absurd trivial hop,
      fun hop => absurd trivial hop, fun hop => absurd trivial hop, fun hop => absurd trivial hop,
      fun hop => hop.elim⟩

end Framed

section Decisions

variable {c : Classifier} {envelope : SessionEnvelope} {payload : EvidencePayload}
  {tick touchTick : Tick} {wall : UInt64} {out : Result EvidenceSubmissionOutcome × Classifier}

/-- What a submission makes of the flows and the decisions: those of its flow registration,
with supersessions logged. -/
theorem Submission.stores_rule {Q : FlowRegistry → ClassificationIndex → Prop}
    (h : Submission c envelope payload tick touchTick wall out) (hc : Q c.flows c.decisions)
    (hrefresh :
      let c₁ := (c.refreshFlow payload.flowKey payload.flowGeneration envelope.session tick).2
      Q c₁.flows c₁.decisions)
    (hlog : ∀ flows d r, Q flows d → Q flows (d.recordSupersession r)) :
    Q out.2.flows out.2.decisions := by
  cases h with
  | inadmissible => exact hc
  | flowRefused _ hflow | generationRefused _ hflow | exhausted _ hflow =>
    rw [hflow] at hrefresh
    exact hrefresh
  | storeRefused _ hflow _ _ _ hsupersede | accepted _ hflow _ _ _ hsupersede =>
    rw [hflow] at hrefresh
    have hloop := supersedeOlder_rule (K := fun d => Q d.flows d.decisions) hsupersede hrefresh
      fun _ _ _ _ => hlog _ _ _
    exact hloop

def TouchesMemo : Operation → Prop
  | .setPolicy _ | .classify .. | .classifyBatch _ | .explain .. | .restore .. => True
  | _ => False

def Revokes : Operation → Prop
  | .withdrawEvidence .. | .revokeGeneration .. => True
  | _ => False

/-- What marking a flow, logging a supersession and filing a revocation keep, every other
operation keeps. -/
theorem decisions_rule {Q : ClassificationIndex → Prop} {op : Operation} (hop : ¬ TouchesMemo op)
    (h : Q c.decisions)
    (hmark : ∀ flow generation, Q (c.decisions.supersedeGeneration flow generation).2)
    (hlog : AddsEvidence op → ∀ d r, Q d → Q (d.recordSupersession r))
    (hfile : Revokes op → ∀ r, Q (c.decisions.recordRevocation r)) : Q (c.step op).decisions := by
  by_cases hleaves : LeavesDecisions op
  · rw [(framed_step c op).decisions hleaves]
    exact h
  have hrefresh : ∀ key requested session tick,
      Q (c.refreshFlow key requested session tick).2.decisions := by
    intro key requested session tick
    rcases (refreshFlow_stores c key requested session tick).2.2 with hsame | ⟨_, _, hmarked⟩
    · exact hsame ▸ h
    · exact hmarked ▸ hmark _ _
  have hfiled : Revokes op → ∀ d, d.decisions = c.decisions →
      ∀ envelope flow generation id tick reason,
        Q (fileRevocation d envelope flow generation id tick reason).2.decisions := by
    intro hrevokes d hd envelope flow generation id tick reason
    unfold fileRevocation
    split
    · exact hd ▸ h
    · exact hd ▸ hfile hrevokes _
  cases op with
  | setPolicy | classify | classifyBatch | explain | restore => exact absurd trivial hop
  | registerFlow => exact hrefresh _ _ _ _
  | submitEvidence envelope payload tick touchTick wall =>
    exact (submission c envelope payload tick touchTick wall).stores_rule (Q := fun _ => Q) h
      (hrefresh _ _ _ _) (fun _ => hlog trivial)
  | withdrawEvidence envelope id reason tick =>
    rw [step]
    rcases withdrawEvidence_cases c envelope id reason tick with ⟨e, hout⟩ | ⟨_, _, -, hout⟩
    · rw [hout]
      exact h
    · rw [hout]
      exact hfiled trivial _ (by rfl) _ _ _ _ _ _
  | revokeGeneration envelope flow generation reason tick =>
    rw [step]
    rcases revokeGeneration_cases c envelope flow generation reason tick with
      ⟨e, hout⟩ | ⟨e, hout⟩ | ⟨applied, hout⟩
    · rw [hout]
      exact h
    · rw [hout]
      exact h
    · rw [hout]
      exact hfiled trivial _ (by rfl) _ _ _ _ _ _
  | _ => exact absurd trivial hleaves

end Decisions

theorem publishers_registerPublisher (c : Classifier) (id : PublisherId) (boot : PublisherBootId)
    (maxSource : EvidenceSource) (session : SessionId) (description : Bytes) (tick : Tick)
    (wall : UInt64) :
    (c.step (.registerPublisher id boot maxSource session description tick wall)).publishers =
      (c.publishers.bindSession id boot c.epoch c.coordinatorBoot maxSource session tick wall
        description).2 := by
  rw [step, registerPublisher]
  split <;> simp [bumpAuthority, *]

theorem publishers_endPublisherSession (c : Classifier) (id : PublisherId)
    (boot : PublisherBootId) (session : SessionId) (tick : Tick) :
    (c.step (.endPublisherSession id boot session tick)).publishers =
      (c.publishers.endSpecificSession id boot session tick).2 := by
  rw [step, endPublisherSession]
  split <;> simp [bumpAuthority, *]

theorem publishers_heartbeat (c : Classifier) (id : PublisherId) (boot : PublisherBootId)
    (tick : Tick) (wall : UInt64) : (c.step (.heartbeat id boot tick wall)).publishers =
      (c.publishers.touch id boot tick wall).2 := by
  rw [step, heartbeat]
  split <;> simp [bumpAuthority, *]

theorem publishers_expirePublisherLiveness (c : Classifier) (tick : Tick) :
    (c.step (.expirePublisherLiveness tick)).publishers = (c.publishers.expireLiveness tick).2 := by
  rw [step, expirePublisherLiveness]
  dsimp only
  split_ifs <;> rfl

def Sweeps : Operation → Prop
  | .advanceEpoch _ | .expirePublisherLiveness _ | .restore .. => True
  | _ => False

theorem steady_step (c : Classifier) {op : Operation} (hop : ¬ Sweeps op) :
    c.publishers.Steady (c.step op).publishers := by
  by_cases htouches : TouchesPublishers op
  · cases op with
    | advanceEpoch | expirePublisherLiveness | restore => exact absurd trivial hop
    | registerPublisher =>
      rw [publishers_registerPublisher]
      exact PublisherRegistry.steady_bindSession ..
    | endPublisherSession =>
      rw [publishers_endPublisherSession]
      exact PublisherRegistry.steady_endSpecificSession ..
    | heartbeat =>
      rw [publishers_heartbeat]
      exact PublisherRegistry.steady_touch ..
    | submitEvidence envelope payload tick touchTick wall =>
      have hobserved := c.publishers.steady_observeEvidenceGeneration envelope.publisher
        envelope.publisherBoot payload.evidenceGeneration
      rw [step]
      rcases (submission c envelope payload tick touchTick wall).publishers with
        ⟨-, hpub | hpub⟩ | ⟨_, -, -, hpub⟩
      · rw [hpub]
        exact ⟨rfl, rfl⟩
      · rw [hpub]
        exact hobserved
      · rw [hpub]
        have htouch := PublisherRegistry.steady_touch
          (c.publishers.observeEvidenceGeneration envelope.publisher envelope.publisherBoot
            payload.evidenceGeneration).2 envelope.publisher envelope.publisherBoot touchTick wall
        exact ⟨htouch.idleTicks.trans hobserved.idleTicks, htouch.live.trans hobserved.live⟩
    | _ => exact htouches.elim
  · rw [((framed_step c op).quiet htouches).publishers]
    exact ⟨rfl, rfl⟩

def workloadCall : Operation → Option WorkloadCall
  | .declareWorkload workload owner generation description tick =>
    some (.declareWorkload workload owner generation tick description)
  | .proposeContract contract tick => some (.proposeContract contract tick)
  | .activateContract contract caller tick => some (.activateContract contract caller tick)
  | .retireContract contract caller tick => some (.retireContract contract caller tick)
  | .retireWorkload workload generation tick => some (.retireWorkload workload generation tick)
  | _ => none

/-- A step of a running classifier leaves its registry of workloads alone or makes one
call on it. -/
theorem workloads_call (c : Classifier) {op : Operation} (hop : op.Running) :
    (c.step op).workloads = (workloadCall op).elim c.workloads c.workloads.call := by
  cases op with
  | proposeContract contract tick => rfl
  | declareWorkload | activateContract | retireContract | retireWorkload =>
    simp only [step, declareWorkload, activateContract, retireContract, retireWorkload]
    split <;> simp_all [workloadCall, WorkloadRegistry.call]
  | restore image boot tick => exact absurd rfl (hop image boot tick)
  | _ => exact (framed_step c _).workloads id

end FlowClassifier.Classifier
