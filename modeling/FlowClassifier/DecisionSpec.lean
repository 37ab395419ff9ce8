import FlowClassifier.Engine
import FlowClassifier.Lib.Sorting

/-!
What a decision is, stated without the passes of the engine. The candidates are the
given records and one derived record for each contract that applies; each has the
state the currentness rules give it; the winner is the maximum of the contenders in
the precedence order. The engine's result is then described field by field, and the
closing check of the engine is shown never to change it.
-/
namespace FlowClassifier.DecisionSpec

open Lib Foundation Buffers Hash Evidence Flows Workloads Classifications Engine

variable {input : DecisionInput} {r : EvidenceRecord}

def Applies (input : DecisionInput) (c : WorkloadContract) : Prop :=
  c.state = .active ∧ contractCovers c input.flow.key = true ∧
    ∃ w ∈ input.workloads, w.id = c.workload ∧ w.generation = c.workloadGeneration

instance (input : DecisionInput) (c : WorkloadContract) : Decidable (Applies input c) := by
  unfold Applies
  infer_instance

def candidateRecords (input : DecisionInput) : List EvidenceRecord :=
  input.evidence ++ ((input.activeContracts.filter (Applies input ·)).map (derived input)).filter
    (·.id ∉ input.evidence.map EvidenceRecord.id)

def Expired (r : EvidenceRecord) (tick : Tick) : Prop :=
  tick ≠ tickNone ∧ r.freshUntil ≠ tickNone ∧ r.freshUntil < tick

instance (r : EvidenceRecord) (tick : Tick) : Decidable (Expired r tick) := by
  unfold Expired
  infer_instance

/-- The currentness rules, in the order in which they are applied. -/
def stateOf (input : DecisionInput) (r : EvidenceRecord) : EvidenceState :=
  if r.flowId ≠ input.flow.id ∨ r.flowGeneration ≠ input.flow.generation then .stale
  else if r.state ≠ .current then r.state
  else if r.acceptedEpoch ≠ input.authority.epoch then .stale
  else if r.source = .heuristic ∧ input.policy.allowHeuristicEvidence = false then .rejected
  else if r.source.requiresLiveSession = true ∧ input.authority.isLive r = false then .stale
  else if Expired r input.authority.tick then .stale
  else .current

def Decisive (input : DecisionInput) (r : EvidenceRecord) : Prop :=
  stateOf input r = .current ∧ r.source ≠ .heuristic

def Contender (input : DecisionInput) (r : EvidenceRecord) : Prop :=
  Decisive input r ∧ r.semantic ≠ .unknown

instance (input : DecisionInput) (r : EvidenceRecord) : Decidable (Decisive input r) := by
  unfold Decisive
  infer_instance

instance (input : DecisionInput) (r : EvidenceRecord) : Decidable (Contender input r) := by
  unfold Contender
  infer_instance

/-- The maximum of the contenders in the precedence order. -/
structure IsWinner (input : DecisionInput) (w : EvidenceRecord) : Prop where
  mem : w ∈ candidateRecords input
  contender : Contender input w
  outranks : ∀ r ∈ candidateRecords input, Contender input r → r ≠ w →
    evidenceOutranks w r = true

def opponents (input : DecisionInput) (w : EvidenceRecord) : List EvidenceRecord :=
  (candidateRecords input).filter fun r => Contender input r ∧ r.semantic ≠ w.semantic

def supporters (input : DecisionInput) (w : EvidenceRecord) : List EvidenceRecord :=
  (candidateRecords input).filter fun r =>
    Decisive input r ∧ r.semantic = w.semantic ∧ r.id ≠ w.id

/-- The confidence of the winner after the penalty for contradictions. -/
def penalised (input : DecisionInput) (w : EvidenceRecord) : ℕ :=
  min w.confidence.basisPoints w.source.confidence.basisPoints -
    if opponents input w = [] then 0 else input.policy.contradictionPenalty.toNat

def winningState (input : DecisionInput) (w : EvidenceRecord) : ClassificationState :=
  if opponents input w ≠ [] then .contradicted
  else if supporters input w ≠ [] then .corroborated
  else .current

structure Undecided (d : Classification) (state : ClassificationState) : Prop where
  semantic : d.semantic = .unknown
  state_eq : d.state = state
  confidence : d.confidence.basisPoints = 0
  selectedEvidence : d.selectedEvidence = .none
  selectedSource : d.selectedSource = .unknown
  contradictions : d.contradictions = []
  corroborationCount : d.corroborationCount = 0
  penalty : d.appliedPenaltyBasisPoints = 0

structure Published (input : DecisionInput) (w : EvidenceRecord) (d : Classification) :
    Prop where
  semantic : d.semantic = w.semantic
  state : d.state = winningState input w
  confidence : d.confidence.basisPoints = penalised input w
  selectedEvidence : d.selectedEvidence = w.id
  selectedSource : d.selectedSource = w.source
  contradictions : ∃ losers : List EvidenceRecord,
    losers.Perm (opponents input w) ∧
    losers.Pairwise (fun a b => evidenceOutranks a b = true) ∧
    d.contradictions = losers.map (contradictionOf w)
  corroborationCount : d.corroborationCount = (supporters input w).length
  penalty : d.appliedPenaltyBasisPoints =
    if opponents input w = [] then 0 else input.policy.contradictionPenalty

abbrev Rank := ℕᵒᵈ ×ₗ UInt64ᵒᵈ ×ₗ UInt64ᵒᵈ ×ₗ Bytes

/-- The precedence order as a linear order: smaller keys win. -/
def rankKey (r : EvidenceRecord) : Rank :=
  toLex (OrderDual.toDual r.source.rank, toLex (OrderDual.toDual r.workloadGeneration,
    toLex (OrderDual.toDual r.acceptedSeq, r.id.value)))

theorem evidenceOutranks_iff (a b : EvidenceRecord) :
    evidenceOutranks a b = true ↔ rankKey a < rankKey b := by
  simp only [rankKey, Prod.Lex.toLex_lt_toLex, OrderDual.toDual_lt_toDual,
    EmbeddingLike.apply_eq_iff_eq, evidenceOutranks, ranksAbove, rankOf]
  by_cases h1 : a.source.rank = b.source.rank
  · by_cases h2 : a.workloadGeneration = b.workloadGeneration
    · by_cases h3 : a.acceptedSeq = b.acceptedSeq
      · simp only [h1, h2, h3, ne_eq, not_true_eq_false, if_false, lt_irrefl, false_or, true_and]
        exact decide_eq_true_iff
      · simp [h1, h2, h3]
    · simp [h1, h2]
  · simp [h1]

theorem evidenceOutranks_false_iff (a b : EvidenceRecord) :
    evidenceOutranks b a = false ↔ rankKey a ≤ rankKey b := by
  rw [← not_lt, ← evidenceOutranks_iff, Bool.not_eq_true]

theorem rankKey_eq_iff_id {a b : EvidenceRecord} (h : rankKey a = rankKey b) : a.id = b.id := by
  have h' := congrArg (fun k : Rank => (ofLex (ofLex (ofLex k).2).2).2) h
  exact StringId.ext_value h'

def candidateKey (c : Candidate) : Bool ×ₗ Rank :=
  toLex (c.disposition != .selected, rankKey c.record)

theorem candidateBefore_iff (a b : Candidate) :
    candidateBefore a b = true ↔ candidateKey a < candidateKey b := by
  have hrank : ranksAbove (rankOf a.record) (rankOf b.record) = true ↔
      rankKey a.record < rankKey b.record := evidenceOutranks_iff a.record b.record
  simp only [candidateBefore, candidateKey, Prod.Lex.toLex_lt_toLex, bne]
  by_cases hd : (a.disposition == .selected) = (b.disposition == .selected)
  · simp [hd, hrank]
  · cases ha : a.disposition == .selected <;> cases hb : b.disposition == .selected <;>
      simp_all

theorem candidateBefore_false_iff (a b : Candidate) :
    candidateBefore b a = false ↔ candidateKey a ≤ candidateKey b := by
  rw [← not_lt, ← candidateBefore_iff, Bool.not_eq_true]

def contractMessages (input : DecisionInput) : Set Bytes :=
  { m | ∃ c ∈ input.activeContracts, m = (contractEvidenceChunks c input.flow).flatten }

/-- Distinct identities, and no collision of the truncated digest among the messages
that name derived records. -/
structure WellFormed (input : DecisionInput) : Prop where
  evidence_nodup : (input.evidence.map EvidenceRecord.id).Nodup
  contracts_nodup : (input.activeContracts.map WorkloadContract.id).Nodup
  workloads_nodup : (input.workloads.map WorkloadRecord.id).Nodup
  noCollision : Set.InjOn (fun m => (sha256 m).bytes.toList.take 16) (contractMessages input)

theorem find?_workload {workloads : List WorkloadRecord}
    (hnd : (workloads.map WorkloadRecord.id).Nodup) {w : WorkloadRecord} (hw : w ∈ workloads) :
    (workloads.find? fun v => v.id == w.id) = some w := by
  induction workloads with
  | nil => simp at hw
  | cons v rest ih =>
    rw [List.map_cons, List.nodup_cons] at hnd
    rcases List.mem_cons.mp hw with rfl | hrest
    · simp
    · have hne : v.id ≠ w.id := fun h => hnd.1 (h ▸ List.mem_map_of_mem hrest)
      rw [List.find?_cons_of_neg (by simpa using hne)]
      exact ih hnd.2 hrest

theorem contractApplies_iff
    (hnd : (input.workloads.map WorkloadRecord.id).Nodup) (c : WorkloadContract) :
    contractApplies input c = true ↔ Applies input c := by
  simp only [contractApplies, Applies, Bool.and_eq_true, beq_iff_eq, and_assoc]
  refine and_congr_right fun _ => and_congr_right fun _ => ?_
  constructor
  · intro h
    cases hfind : input.workloads.find? fun w => w.id == c.workload with
    | none =>
      rw [hfind] at h
      exact absurd h (by simp)
    | some w =>
      rw [hfind] at h
      have hid : w.id = c.workload := by simpa using List.find?_some hfind
      have hgen : c.workloadGeneration = w.generation := by simpa using h
      exact ⟨w, List.mem_of_find?_eq_some hfind, hid, hgen.symm⟩
  · rintro ⟨w, hw, hid, hgen⟩
    rw [← hid, find?_workload hnd hw]
    simp [hgen]

/-- The encoding that names a derived record fits its bound of 256 bytes. -/
theorem contractEvidence_fits (c : WorkloadContract) (flow : FlowRecord) :
    (contractEvidenceChunks c flow).flatten.length ≤ 256 := by
  have hid : c.id.value.length ≤ 128 := c.id.length_le
  have hdigest : c.definitionDigest.bytes.toList.length = 32 := List.Vector.toList_length _
  have htag : (text "contract-evidence").length = 17 := by decide
  simp only [contractEvidenceChunks, List.flatten_cons, List.flatten_nil, List.length_append,
    length_blobBytes, length_u64Bytes, hdigest, htag, List.length_nil]
  omega

theorem contractEvidenceId_value (c : WorkloadContract) (flow : FlowRecord) :
    (contractEvidenceId c flow).value =
      digestIdText (text "ctr-") (sha256 (contractEvidenceChunks c flow).flatten) := by
  have hfits := writeChunks_fits ensureFailure (contractEvidenceChunks c flow) []
    (show _ ≤ 256 by simpa using contractEvidence_fits c flow)
  simp only [contractEvidenceId, encode, hfits, List.nil_append]
  exact StringId.make_value (digestIdText_canonical (by decide) (by decide) _)

theorem contractEvidenceChunks_id {c d : WorkloadContract} {flow : FlowRecord}
    (h : (contractEvidenceChunks c flow).flatten = (contractEvidenceChunks d flow).flatten) :
    c.id = d.id := by
  have hc : c.id.value.length ≤ 128 := c.id.length_le
  have hd : d.id.value.length ≤ 128 := d.id.length_le
  simp only [contractEvidenceChunks, List.flatten_cons, List.append_cancel_left_eq] at h
  exact StringId.ext_value (blobBytes_cancel (by omega) (by omega) h).1

/-- Derived records of different contracts have different identities. -/
theorem contractEvidenceId_injOn (hwf : WellFormed input)
    {c d : WorkloadContract} (hc : c ∈ input.activeContracts) (hd : d ∈ input.activeContracts)
    (h : contractEvidenceId c input.flow = contractEvidenceId d input.flow) : c.id = d.id := by
  have hvalue := congrArg StringId.value h
  simp only [contractEvidenceId_value, digestIdText, List.append_cancel_left_eq] at hvalue
  exact contractEvidenceChunks_id
    (hwf.noCollision ⟨c, hc, rfl⟩ ⟨d, hd, rfl⟩ (hexText_injective hvalue))

theorem derived_id (input : DecisionInput) (c : WorkloadContract) :
    (derived input c).id = contractEvidenceId c input.flow := rfl

def freshCandidate (r : EvidenceRecord) : Candidate := { record := r }

theorem assembleEvidence_eq {seen : List EvidenceId} {records : List EvidenceRecord}
    (hseen : ∀ r ∈ records, r.id ∉ seen) (hnd : (records.map EvidenceRecord.id).Nodup) :
    assembleEvidence seen records = records.map freshCandidate := by
  induction records generalizing seen with
  | nil => rfl
  | cons r rest ih =>
    rw [List.map_cons, List.nodup_cons] at hnd
    rw [assembleEvidence, if_neg (hseen r (by simp)), List.map_cons, freshCandidate, ih ?_ hnd.2]
    intro s hs hmem
    rcases List.mem_cons.mp hmem with heq | hold
    · exact hnd.1 (heq ▸ List.mem_map_of_mem hs)
    · exact hseen s (by simp [hs]) hold

/-- While the derived identities are distinct, marking each as seen drops no later one. -/
theorem assembleContracts_eq (input : DecisionInput) {seen : List EvidenceId}
    {contracts : List WorkloadContract}
    (hnd : (contracts.map fun c => (derived input c).id).Nodup) :
    assembleContracts input seen contracts =
      (((contracts.filter (contractApplies input ·)).map (derived input)).filter
        (·.id ∉ seen)).map freshCandidate := by
  induction contracts generalizing seen with
  | nil => rfl
  | cons c rest ih =>
    rw [List.map_cons, List.nodup_cons] at hnd
    have hrest := fun s => @ih s hnd.2
    by_cases happlies : contractApplies input c = true
    · rw [assembleContracts, if_pos happlies, List.filter_cons_of_pos happlies, List.map_cons]
      by_cases hmem : (derived input c).id ∈ seen
      · rw [if_pos hmem, List.filter_cons_of_neg (by simpa using hmem), hrest]
      · rw [if_neg hmem, List.filter_cons_of_pos (by simpa using hmem), hrest, List.map_cons,
          freshCandidate]
        congr 2
        refine List.filter_congr fun r hr => ?_
        obtain ⟨d, hd, rfl⟩ := List.mem_map.mp hr
        have hne : (derived input d).id ≠ (derived input c).id := fun heq =>
          hnd.1 (heq ▸ List.mem_map_of_mem (List.mem_of_mem_filter hd))
        simp [hne]
    · rw [assembleContracts, if_neg happlies, List.filter_cons_of_neg happlies, hrest]

theorem nodup_derivedIds (hwf : WellFormed input) :
    (input.activeContracts.map fun c => (derived input c).id).Nodup := by
  refine List.Nodup.map_on ?_ hwf.contracts_nodup.of_map
  intro c hc d hd h
  exact List.inj_on_of_nodup_map hwf.contracts_nodup hc hd (contractEvidenceId_injOn hwf hc hd h)

theorem assemble_eq (hwf : WellFormed input) :
    assemble input = (candidateRecords input).map freshCandidate := by
  have happlies : input.activeContracts.filter (contractApplies input ·) =
      input.activeContracts.filter (Applies input ·) := by
    refine List.filter_congr fun c _ => ?_
    rw [Bool.eq_iff_iff, contractApplies_iff hwf.workloads_nodup, decide_eq_true_iff]
  rw [assemble, assembleEvidence_eq (by simp) hwf.evidence_nodup,
    assembleContracts_eq input (nodup_derivedIds hwf), happlies, candidateRecords,
    List.map_append]

theorem nodup_candidateIds (hwf : WellFormed input) :
    ((candidateRecords input).map EvidenceRecord.id).Nodup := by
  have hderived := nodup_derivedIds hwf
  rw [candidateRecords, List.map_append, List.nodup_append]
  refine ⟨hwf.evidence_nodup, ?_, ?_⟩
  · have hsub : List.Sublist
        ((((input.activeContracts.filter (Applies input ·)).map (derived input)).filter
          (·.id ∉ input.evidence.map EvidenceRecord.id)).map EvidenceRecord.id)
        (((input.activeContracts.map (derived input))).map EvidenceRecord.id) :=
      (List.filter_sublist.trans (List.filter_sublist.map _)).map _
    rw [List.map_map] at hsub
    exact hderived.sublist hsub
  · intro a ha b hb hab
    obtain ⟨r, hr, rfl⟩ := List.mem_map.mp hb
    exact (by simpa using (List.mem_filter.mp hr).2 : ¬ _) (hab ▸ ha)

theorem eq_of_id_eq (hwf : WellFormed input) {s : EvidenceRecord}
    (hr : r ∈ candidateRecords input) (hs : s ∈ candidateRecords input) (h : r.id = s.id) : r = s :=
  List.inj_on_of_nodup_map (nodup_candidateIds hwf) hr hs h

def evaluated (input : DecisionInput) (r : EvidenceRecord) : Candidate :=
  evaluate input (freshCandidate r)

/-- What the evaluation of a record fixes: everything but the state and its reason is
kept, and only decisive records stay selected. -/
structure Evaluation (input : DecisionInput) (r : EvidenceRecord) (c : Candidate) : Prop where
  record : c.record = { r with state := stateOf input r, stateReason := c.record.stateReason }
  selected : c.disposition = .selected ↔ Decisive input r

theorem currentness_state (input : DecisionInput)
    (hstate : r.state = .current) (hflow : recordMatchesFlow r input.flow = true) :
    (currentness input r).1 = stateOf input r := by
  have hmatch : r.flowId = input.flow.id ∧ r.flowGeneration = input.flow.generation := by
    simpa [recordMatchesFlow] using hflow
  have hcarries : r.carriesAuthority = true := by
    rw [EvidenceRecord.carriesAuthority, hstate]
    rfl
  simp only [currentness, stateOf, Expired, hmatch, hstate, hcarries, apply_ite Prod.fst,
    Bool.and_eq_true, Bool.not_eq_true', ne_eq, not_true_eq_false, or_self, if_false,
    Bool.true_eq_false, gt_iff_lt]

theorem stateOf_of_ne_current
    (hstate : r.state ≠ .current) (hflow : recordMatchesFlow r input.flow = true) :
    stateOf input r = r.state := by
  have hmatch : r.flowId = input.flow.id ∧ r.flowGeneration = input.flow.generation := by
    simpa [recordMatchesFlow] using hflow
  simp [stateOf, hmatch, hstate]

theorem stateOf_of_mismatch
    (hflow : recordMatchesFlow r input.flow = false) : stateOf input r = .stale := by
  rw [stateOf, if_pos]
  by_contra hmatch
  simp_all [recordMatchesFlow]

/-- On records of the flow the currentness pass computes the state of the rules. -/
theorem withCurrentness_eq (hflow : recordMatchesFlow r input.flow = true) :
    withCurrentness input r = { r with
      state := stateOf input r, stateReason := (withCurrentness input r).stateReason } := by
  by_cases hstate : r.state = .current
  · simp only [withCurrentness, if_pos hstate, currentness_state input hstate hflow]
  · simp only [withCurrentness, if_neg hstate, stateOf_of_ne_current hstate hflow]

theorem dispositionForState_ne_selected (s : EvidenceState) :
    dispositionForState s ≠ .selected := by
  cases s <;> decide

theorem evaluation (input : DecisionInput) (r : EvidenceRecord) :
    Evaluation input r (evaluated input r) := by
  by_cases hflow : recordMatchesFlow r input.flow = true
  · have hw := withCurrentness_eq hflow
    have hstate : (withCurrentness input r).state = stateOf input r := congrArg (·.state) hw
    have hsource : (withCurrentness input r).source = r.source := congrArg (·.source) hw
    by_cases hcurrent : stateOf input r = .current
    · by_cases hheuristic : r.source = .heuristic
      · have hcand : evaluated input r =
            { record := withCurrentness input r
              disposition := .subordinate
              detail := text "heuristic source: never decisive, never a contradiction" } := by
          simp [evaluated, evaluate, freshCandidate, hflow, hstate, hsource, hcurrent, hheuristic,
            EvidenceSource.isHeuristic]
        rw [hcand]
        exact ⟨hw, by simp [Decisive, hheuristic]⟩
      · have hcand : evaluated input r = freshCandidate (withCurrentness input r) := by
          simp [evaluated, evaluate, freshCandidate, hflow, hstate, hsource, hcurrent, hheuristic,
            EvidenceSource.isHeuristic]
        rw [hcand]
        exact ⟨hw, by simp [Decisive, freshCandidate, hcurrent, hheuristic]⟩
    · have hcand : evaluated input r =
          { record := withCurrentness input r
            disposition := dispositionForState (stateOf input r)
            detail := (withCurrentness input r).stateReason } := by
        simp [evaluated, evaluate, freshCandidate, hflow, hstate, hcurrent]
      rw [hcand]
      exact ⟨hw, by simp [Decisive, hcurrent, dispositionForState_ne_selected]⟩
  · have hmismatch := stateOf_of_mismatch (Bool.not_eq_true _ ▸ hflow)
    simp only [Bool.not_eq_true] at hflow
    constructor
    · simp [evaluated, evaluate, freshCandidate, hflow, hmismatch]
    · simp [evaluated, evaluate, freshCandidate, hflow, hmismatch, Decisive]

end FlowClassifier.DecisionSpec
