import FlowClassifier.Attribution
import FlowClassifier.Backing
import FlowClassifier.Codec.SnapshotRoundTrip
import FlowClassifier.PartialRestore
import FlowClassifier.PolicyUpdates
import FlowClassifier.Store.Contents

/-!
The durable image of a running classifier. Whatever was restored and whatever operations
followed, the image lists every key once, its policy is canonical, its contracts carry
their digests and its counts fit the width of the file, so that reading the file back
recomputes what was written.
-/
namespace FlowClassifier

open Lib Foundation Buffers Evidence Flows Policies Workloads Classifications Engine Store
  EvidenceStore WorkloadRegistry ClassificationIndex

namespace Classifier

variable {tick : Tick}

section Queries

variable {query : ClassificationQuery}

variable {P : FlowId → Classification → Prop} {c : Classifier}

def Decides (P : FlowId → Classification → Prop) (c : Classifier) (query : ClassificationQuery)
    (tick : Tick) : Prop :=
  ∀ input, c.queryInput query.flowKey query.flowGeneration tick = some input →
    P (Engine.decide input).flowId (Engine.decide input)

theorem recorded_decideMemoised {input : DecisionInput}
    (hP : P (Engine.decide input).flowId (Engine.decide input)) (h : c.decisions.RecordedUnder P) :
    (c.decideMemoised input).2.2.decisions.RecordedUnder P := by
  unfold decideMemoised memoLookup
  dsimp only
  cases c.decisions.memo.lookup (decisionKeyText (decisionKey input)) with
  | some found => exact h.of_history rfl
  | none =>
    refine recorded_record ?_ hP
    exact h.of_history (history_memoStore _ _ _)

/-- The state in which a query is answered has the inputs of the state before. -/
theorem Asked.recorded {d : Classifier} {out : Result ClassificationResult × Classifier}
    (hasked : Asked d query tick out) (hP : c.Decides P query tick) (hd : Answered c d)
    (h : d.decisions.RecordedUnder P) : out.2.decisions.RecordedUnder P := by
  cases hasked with
  | refused _ hdecisions => exact h.of_history (by rw [hdecisions])
  | answered hd' hdecisions hflow hgeneration =>
    have hinput := queryInput_eq hflow query.flowGeneration tick
    rw [← hgeneration, queryInput_answered hd, decisionInput_answered hd] at hinput
    refine recorded_decideMemoised ?_ (h.of_history (by rw [hdecisions]))
    rw [decisionInput_answered (hd.trans hd')]
    exact hP _ hinput

theorem recorded_classifyBatch {queries : List (ClassificationQuery × Tick)}
    (hP : ∀ q ∈ queries, c.Decides P q.1 q.2) (h : c.decisions.RecordedUnder P) :
    (c.classifyBatch queries).2.decisions.RecordedUnder P := by
  refine (@classifyBatch_rule c (fun d => Answered c d ∧ d.decisions.RecordedUnder P)
    (fun _ _ _ => True) queries ?_ fun counters => ⟨answered_counted c counters, h⟩).1.2
  rintro q hq d ⟨hd, hrecorded⟩
  have hasked := asked_classifyOne d q.1 q.2
  exact ⟨⟨hd.trans hasked.kept, hasked.recorded (hP q hq) hd hrecorded⟩, fun _ _ => trivial⟩

theorem recorded_explain {key : FlowKey} {generation : FlowGeneration}
    (hP : c.Decides P (explainQuery key generation) tick) (h : c.decisions.RecordedUnder P)
    (again : Tick) : (c.explain key generation tick again).2.decisions.RecordedUnder P := by
  have hclassify := (asked_classify c (explainQuery key generation) tick).recorded hP (.refl c) h
  rcases explain_state c key generation tick again with hstate | hstate
  · rw [hstate]
    exact hclassify
  · rw [hstate]
    exact hclassify

end Queries

def FitsCount (x : Classification) : Prop := x.corroborationCount < wireBound

/-- What the stores hold can be written and read back: everything is under its own key, and
what a reader recomputes is what is stored. -/
structure Filed (c : Classifier) : Prop where
  policy : HoldsPolicy c
  publishers : c.publishers.WellKeyed
  stocked : Stocked c
  maxRecords : c.evidence.maxRecords.toNat ≤ 16777216
  flows : c.flows.Keyed
  workloads : c.workloads.Digested
  counted : c.decisions.Recorded FitsCount

/-- The counts of the decisions that are restored have 32 bits, as the type of the field
has. -/
def CountsFit : Operation → Prop
  | .restore image _ _ => ∀ x ∈ image.classifications, FitsCount x
  | _ => True

theorem toNat_clampTo_le {value lower upper : UInt32} (h : lower ≤ upper) :
    (clampTo value lower upper).toNat ≤ upper.toNat := by
  rw [← UInt32.le_iff_toNat_le]
  unfold clampTo
  split_ifs with hlow hhigh
  · exact h
  · exact UInt32.le_refl _
  · exact UInt32.not_lt.mp hhigh

theorem filed_new (options : ClassifierOptions) : Filed (.new options) := by
  refine ⟨holdsPolicy_new options, PublisherRegistry.wellKeyed_new _ _, stocked_run options [],
    toNat_clampTo_le (by decide), ?_, ?_, ?_⟩
  · intro key f hf
    cases hf
  · refine ⟨?_, ?_, ?_, Nat.zero_le _, toNat_clampTo_le (by decide)⟩
    all_goals
      intro id entry h
      cases h
  · intro flow history h
    cases h

section Steps

variable {c : Classifier}

/-- A ring repeats no identity, so it is no longer than the store. -/
theorem length_evidence_le (h : Stocked c) (flow : FlowRecord) (generation : FlowGeneration)
    (tick : Tick) :
    (c.decisionInput flow generation tick).evidence.length ≤ c.evidence.maxRecords.toNat := by
  have hring : ((c.evidence.byFlow.lookup flow.id).getD []).length ≤ c.evidence.byId.size := by
    cases hids : c.evidence.byFlow.lookup flow.id with
    | none => exact Nat.zero_le _
    | some ids =>
      have hsub : ids ⊆ c.evidence.byId.keys := by
        intro id hid
        obtain ⟨r, hr, -⟩ := h.1.ring_stored flow.id ids hids id hid
        rw [← AList.mem_keys, ← AList.lookup_isSome, hr]
        rfl
      have hle := (List.subperm_of_subset (h.1.ring_nodup flow.id ids hids) hsub).length_le
      simpa [AList.keys, List.keys, FiniteMap.size] using hle
  have hbound : c.evidence.byId.size ≤ c.evidence.maxRecords.toNat := h.2
  have hfound := List.length_filterMap_le c.evidence.byId.lookup
    (c.evidence.evidenceForFlow flow.id)
  have hkept := List.length_filterMap_le c.evidence.byId.lookup
    ((c.evidence.byFlow.lookup flow.id).getD [])
  have hlisted : (c.evidence.evidenceForFlow flow.id).length =
      (((c.evidence.byFlow.lookup flow.id).getD []).filterMap c.evidence.byId.lookup).length := by
    rw [evidenceForFlow, List.length_map, recordsForFlow, List.length_insertionSort]
  show ((c.evidence.evidenceForFlow flow.id).filterMap c.evidence.byId.lookup).length ≤ _
  omega

theorem Filed.decides (h : Filed c) (flow : FlowRecord) (generation : FlowGeneration)
    (tick : Tick) : FitsCount (Engine.decide (c.decisionInput flow generation tick)) := by
  have hcount := EngineCorrect.corroborationCount_decide_le (c.decisionInput flow generation tick)
  have hevidence := length_evidence_le h.stocked flow generation tick
  have hcontracts : (c.decisionInput flow generation tick).activeContracts.length ≤
      c.workloads.contracts.size := by
    show (c.workloads.activeContracts).length ≤ _
    rw [WorkloadRegistry.activeContracts, List.length_insertionSort, ← FiniteMap.length_values]
    exact List.length_filter_le _ _
  have hroom := h.workloads.room
  have hbounded := h.workloads.bounded
  have hrecords := h.maxRecords
  unfold FitsCount wireBound
  omega

theorem maxRecords_insert {s : EvidenceStore} (h : s.Indexed s.order) (record : EvidenceRecord) :
    (s.insert record).2.maxRecords = s.maxRecords := by
  have hroom := (evicted_makeRoom h).maxRecords
  have hexit := inserted s record
  generalize s.insert record = out at hexit
  cases hexit with
  | known => rfl
  | rejected e => rfl
  | full e => exact hroom
  | placed => exact hroom

theorem maxRecords_step (h : Stocked c) (op : Operation) :
    (c.step op).evidence.maxRecords = c.evidence.maxRecords := by
  by_cases hadds : AddsEvidence op
  · cases op with
    | submitEvidence envelope payload tick touchTick wall =>
      exact (submission c envelope payload tick touchTick wall).handed.rule
        (Q := fun s => s.maxRecords = c.evidence.maxRecords) (fun s hs => hs.maxRecords)
        fun s record hs => (maxRecords_insert (hs.indexed_order h.1) record).trans hs.maxRecords
    | restore image boot tick =>
      refine evidence_restore (Q := fun s => s.maxRecords = c.evidence.maxRecords) boot tick rfl
        fun s r _ hs => ?_
      rw [← hs]
      exact maxRecords_restoreRecord s r
    | _ => exact hadds.elim
  · exact ((framed_step c _).evidence hadds).maxRecords

theorem keyed_step (h : c.flows.Keyed) (op : Operation) : (c.step op).flows.Keyed := by
  by_cases htouches : TouchesFlows op
  · cases op with
    | registerFlow key requested session tick =>
      rw [step, registerFlow, (refreshFlow_stores c key requested session tick).1]
      exact FlowRegistry.keyed_registerFlow h key requested session tick
    | submitEvidence envelope payload tick touchTick wall =>
      rcases (submission c envelope payload tick touchTick wall).flows with hsame | hflows
      · rw [step, hsame]
        exact h
      · rw [step, hflows, (refreshFlow_stores c _ _ _ _).1]
        exact FlowRegistry.keyed_registerFlow h _ _ _ _
    | restore image boot tick =>
      have hloop : (restoredFlows image c).2.Keyed :=
        tryEach_invariant FlowRegistry.Keyed (fun r f _ hr => FlowRegistry.keyed_restoreFlow hr f) h
      have hended := restored image c boot tick
      rw [step]
      generalize restore image c boot tick = out at hended
      cases hended with
      | flows | evidence | done => exact hloop
      | publishers | workloads | contracts => exact h
    | _ => exact htouches.elim
  · unfold FlowRegistry.Keyed
    rw [(framed_step c _).current htouches]
    exact h

theorem digested_step (h : c.workloads.Digested) (op : Operation) :
    (c.step op).workloads.Digested := by
  by_cases hop : ∃ image boot tick, op = .restore image boot tick
  · obtain ⟨image, boot, tick, rfl⟩ := hop
    exact workloads_restore boot tick h
      (fun r w hr => WorkloadRegistry.digested_restoreWorkload hr w)
      (fun r k hr => WorkloadRegistry.digested_restoreContract hr k)
  · rw [workloads_call c fun image boot tick heq => hop ⟨image, boot, tick, heq⟩]
    cases workloadCall op with
    | none => exact h
    | some call => exact digested_call h call

variable {P : FlowId → Classification → Prop}

theorem recorded_restoreDecisions (h : c.decisions.RecordedUnder P) {image : DurableState}
    (himage : ∀ x ∈ image.classifications, P x.flowId x) :
    (restoreDecisions image c).decisions.RecordedUnder P := by
  have hclassifications : (image.classifications.foldl (·.restoreClassification ·)
      c.decisions).RecordedUnder P := by
    refine List.foldlRecOn (motive := RecordedUnder P) _ _ h ?_
    intro d hd x hx
    exact recorded_restoreClassification hd (himage x hx)
  have hrevocations := List.foldlRecOn (motive := RecordedUnder P)
    image.revocations (·.restoreRevocation ·) hclassifications
    (fun d hd r _ => hd.of_history rfl)
  exact List.foldlRecOn (motive := RecordedUnder P) image.supersessions
    (·.restoreSupersession ·) hrevocations (fun d hd r _ => hd.of_history rfl)

def queriesOf : Operation → List (ClassificationQuery × Tick)
  | .classify query tick => [(query, tick)]
  | .classifyBatch queries => queries
  | .explain key generation tick _ => [(explainQuery key generation, tick)]
  | _ => []

/-- What is recorded was decided by a query of the step, or was there before. -/
theorem recorded_step {op : Operation} (hP : ∀ q ∈ queriesOf op, c.Decides P q.1 q.2)
    (hstale : ∀ flow x, P flow x → P flow { x with state := .stale })
    (h : c.decisions.RecordedUnder P)
    (hrestore : ∀ image boot tick, op = .restore image boot tick →
      ∀ x ∈ image.classifications, P x.flowId x) : (c.step op).decisions.RecordedUnder P := by
  cases op with
  | setPolicy policy =>
    rw [step]
    rcases setPolicy_updates c policy with hsame | ⟨_, _, _, -, hcleared⟩
    · rw [hsame]
      exact h
    · rw [hcleared]
      intro flow history hflow
      cases hflow
  | classify => exact (asked_classify c _ _).recorded (hP _ List.mem_cons_self) (.refl c) h
  | classifyBatch => exact recorded_classifyBatch hP h
  | explain => exact recorded_explain (hP _ List.mem_cons_self) h _
  | restore image boot tick =>
    have hended := restored image c boot tick
    rw [step]
    generalize restore image c boot tick = out at hended
    cases hended with
    | done => exact recorded_restoreDecisions h (hrestore image boot tick rfl)
    | publishers | workloads | contracts | flows | evidence => exact h
  | _ =>
    exact decisions_rule (Q := RecordedUnder P) id h
      (fun _ _ => recorded_supersedeGeneration h (hstale _) (fun _ hx _ => hx) (fun _ _ _ hx => hx))
      (fun _ _ _ hd => hd.of_history rfl) fun _ _ => h.of_history rfl

theorem filed_step (h : Filed c) {op : Operation} (hop : CountsFit op) : Filed (c.step op) where
  policy := holdsPolicy_step h.policy op
  publishers := wellKeyed_step h.publishers op
  stocked := stocked_step h.stocked op
  maxRecords := by
    rw [maxRecords_step h.stocked op]
    exact h.maxRecords
  flows := keyed_step h.flows op
  workloads := digested_step h.workloads op
  counted := by
    refine @recorded_step c (fun _ => FitsCount) op ?_ (fun _ _ hx => hx) h.counted ?_
    · intro q _ input hinput
      obtain ⟨flow, -, rfl⟩ := Option.map_eq_some_iff.mp hinput
      exact h.decides flow _ q.2
    · rintro image boot tick rfl
      exact hop

theorem Filed.recomputed (h : Filed c) : Codec.Recomputed c.durableState where
  policy := h.policy.canonical
  contracts := by
    intro k hk
    obtain ⟨id, hlookup⟩ := FiniteMap.mem_sorted_values.mp hk
    exact (h.workloads.digest id k hlookup).symm
  counts := by
    intro x hx
    obtain ⟨flow, history, hlookup, hmem⟩ := mem_snapshotClassifications.mp hx
    exact h.counted flow history hlookup x hmem

end Steps

end Classifier
end FlowClassifier
