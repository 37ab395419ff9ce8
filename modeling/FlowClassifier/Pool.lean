import FlowClassifier.EngineCorrect

/-!
The engine over its pool of evaluated candidates, for every input. Identities may be
repeated here: a repeated one is rejected but stays in the pool. Still only first
occurrences can be selected, so the winner is determined by the pool, and what a decision
says is determined by the winner, by how many candidates agree with it and by the list of
those that contradict it.
-/
namespace FlowClassifier.Pool

open Lib Foundation Evidence Policies Workloads Classifications Engine DecisionSpec EngineCorrect

variable {seen : List EvidenceId} {c w : Candidate} {contracts : List WorkloadContract}
variable {input i j : DecisionInput}

def pool (input : DecisionInput) : List Candidate := (assemble input).map (evaluate input)

def rejectedCandidate (r : EvidenceRecord) : Candidate where
  record := r
  disposition := .rejected
  detail := text "duplicate evidence identity in the considered set"

/-- A candidate before its evaluation is fresh, with an identity that was not seen, or a
rejected repetition. -/
theorem mem_assembleEvidence {records : List EvidenceRecord}
    (hc : c ∈ assembleEvidence seen records) : c.record ∈ records ∧
      (c = freshCandidate c.record ∧ c.record.id ∉ seen ∨ c = rejectedCandidate c.record) := by
  induction records generalizing seen with
  | nil => cases hc
  | cons r rest ih =>
    rw [assembleEvidence] at hc
    split_ifs at hc with hseen
    · rcases List.mem_cons.mp hc with rfl | hrest
      · exact ⟨by simp, Or.inr rfl⟩
      · obtain ⟨hmem, hcases⟩ := ih hrest
        exact ⟨by simp [hmem], hcases⟩
    · rcases List.mem_cons.mp hc with rfl | hrest
      · exact ⟨by simp, Or.inl ⟨rfl, hseen⟩⟩
      · obtain ⟨hmem, hfresh | hrejected⟩ := ih hrest
        · exact ⟨by simp [hmem], Or.inl ⟨hfresh.1, fun h => hfresh.2 (by simp [h])⟩⟩
        · exact ⟨by simp [hmem], Or.inr hrejected⟩

theorem mem_assembleContracts (hc : c ∈ assembleContracts input seen contracts) :
    c = freshCandidate c.record ∧ c.record.id ∉ seen := by
  induction contracts generalizing seen with
  | nil => cases hc
  | cons k rest ih =>
    rw [assembleContracts] at hc
    split_ifs at hc with happlies hseen
    · exact ih hc
    · rcases List.mem_cons.mp hc with rfl | hrest
      · exact ⟨rfl, hseen⟩
      · obtain ⟨hfresh, hnew⟩ := ih hrest
        exact ⟨hfresh, fun h => hnew (by simp [h])⟩
    · exact ih hc

theorem contract_of_mem_assembleContracts {x : Candidate}
    (h : x ∈ assembleContracts input seen contracts) :
    ∃ k ∈ contracts, contractApplies input k = true ∧ x.record = derived input k := by
  induction contracts generalizing seen with
  | nil => cases h
  | cons k rest ih =>
    have hlater : ∀ {seen}, x ∈ assembleContracts input seen rest →
        ∃ q ∈ k :: rest, contractApplies input q = true ∧ x.record = derived input q := by
      intro seen hrest
      obtain ⟨q, hq, hfound⟩ := ih hrest
      exact ⟨q, List.mem_cons_of_mem _ hq, hfound⟩
    unfold assembleContracts at h
    split_ifs at h with happlies
    · exact hlater h
    · rcases List.mem_cons.mp h with rfl | hrest
      · exact ⟨k, List.mem_cons_self, happlies, rfl⟩
      · exact hlater hrest
    · exact hlater h

/-- Contracts derive the same candidates while what else was seen is none of them. -/
theorem assembleContracts_mono (happlies : ∀ k, contractApplies j k = contractApplies i k)
    (hderived : ∀ k, derived j k = derived i k) {seen' : List EvidenceId} (hsub : seen ⊆ seen')
    (hnew : ∀ c ∈ assembleContracts i seen contracts, c.record.id ∉ seen') :
    assembleContracts j seen' contracts = assembleContracts i seen contracts := by
  induction contracts generalizing seen seen' with
  | nil => rfl
  | cons k rest ih =>
    rw [assembleContracts] at hnew ⊢
    rw [assembleContracts, happlies, hderived]
    by_cases hk : contractApplies i k = true
    · rw [if_pos hk] at hnew ⊢
      rw [if_pos hk]
      by_cases hseen : (derived i k).id ∈ seen
      · rw [if_pos hseen] at hnew ⊢
        rw [if_pos (hsub hseen)]
        exact ih hsub hnew
      · rw [if_neg hseen] at hnew ⊢
        have hhead : (derived i k).id ∉ seen' := hnew _ List.mem_cons_self
        rw [if_neg hhead, ih (List.cons_subset_cons _ hsub)]
        intro c hc hmem
        rcases List.mem_cons.mp hmem with heq | hold
        · exact (mem_assembleContracts hc).2 (heq ▸ List.mem_cons_self)
        · exact hnew c (List.mem_cons_of_mem _ hc) hold
    · rw [if_neg hk] at hnew ⊢
      rw [if_neg hk]
      exact ih hsub hnew

/-- What is not read in deriving and evaluating the candidates does not move the pool. -/
theorem pool_congr (hevidence : j.evidence = i.evidence)
    (hcontracts : j.activeContracts = i.activeContracts)
    (happlies : ∀ k, contractApplies j k = contractApplies i k)
    (hderived : ∀ k, derived j k = derived i k) (hevaluate : ∀ c, evaluate j c = evaluate i c) :
    pool j = pool i := by
  have hsame : ∀ seen, assembleContracts j seen i.activeContracts =
      assembleContracts i seen i.activeContracts := by
    intro seen
    exact assembleContracts_mono happlies hderived (fun id h => h)
      fun c hc => (mem_assembleContracts hc).2
  rw [pool, pool, assemble, assemble, hevidence, hcontracts, hsame]
  exact List.map_congr_left fun c _ => hevaluate c

def Distinguished (a b : Candidate) : Prop :=
  a.disposition = .selected → b.disposition = .selected → a.record.id ≠ b.record.id

theorem distinguished_assembleEvidence (seen : List EvidenceId) (records : List EvidenceRecord) :
    (assembleEvidence seen records).Pairwise Distinguished := by
  induction records generalizing seen with
  | nil => exact .nil
  | cons r rest ih =>
    rw [assembleEvidence]
    split_ifs with hseen
    · refine List.pairwise_cons.mpr ⟨fun c _ hselected => ?_, ih seen⟩
      cases hselected
    · refine List.pairwise_cons.mpr ⟨fun c hc _ hselected => ?_, ih _⟩
      rcases (mem_assembleEvidence hc).2 with ⟨-, hnew⟩ | hrejected
      · exact fun heq => hnew (heq ▸ List.mem_cons_self)
      · rw [hrejected] at hselected
        cases hselected

theorem distinguished_assembleContracts (input : DecisionInput) (seen : List EvidenceId)
    (contracts : List WorkloadContract) :
    (assembleContracts input seen contracts).Pairwise Distinguished := by
  induction contracts generalizing seen with
  | nil => exact .nil
  | cons k rest ih =>
    rw [assembleContracts]
    split_ifs with happlies hseen
    · exact ih seen
    · refine List.pairwise_cons.mpr ⟨fun c hc _ _ heq => ?_, ih _⟩
      exact (mem_assembleContracts hc).2 (heq ▸ List.mem_cons_self)
    · exact ih seen

theorem distinguished_assemble (input : DecisionInput) :
    (assemble input).Pairwise Distinguished := by
  rw [assemble, List.pairwise_append]
  refine ⟨distinguished_assembleEvidence _ _, distinguished_assembleContracts _ _ _, ?_⟩
  intro a ha b hb _ _ heq
  obtain ⟨hmem, -⟩ := mem_assembleEvidence ha
  exact (mem_assembleContracts hb).2 (heq ▸ List.mem_map_of_mem hmem)

theorem evaluate_rejected (input : DecisionInput) (r : EvidenceRecord) :
    evaluate input (rejectedCandidate r) = rejectedCandidate r := by
  have hrejected : (rejectedCandidate r).disposition = .rejected := rfl
  unfold evaluate
  rw [if_pos hrejected]

/-- A candidate of the pool is an evaluated record or a rejected one. -/
theorem mem_pool (hc : c ∈ pool input) : ∃ r, c = evaluated input r ∨ c = rejectedCandidate r := by
  obtain ⟨a, ha, rfl⟩ := List.mem_map.mp hc
  rcases List.mem_append.mp ha with hevidence | hcontract
  · rcases (mem_assembleEvidence hevidence).2 with ⟨hfresh, -⟩ | hrejected
    · exact ⟨a.record, Or.inl (by rw [hfresh]; rfl)⟩
    · refine ⟨a.record, Or.inr ?_⟩
      rw [hrejected, evaluate_rejected]
      rfl
  · exact ⟨a.record, Or.inl (by rw [(mem_assembleContracts hcontract).1]; rfl)⟩

/-- A selected candidate is current and not heuristic. -/
theorem selected_of_mem_pool (hc : c ∈ pool input) (hselected : c.disposition = .selected) :
    c.record.state = .current ∧ c.record.source ≠ .heuristic := by
  obtain ⟨r, rfl | rfl⟩ := mem_pool hc
  · have hdecisive := (evaluation input r).selected.mp hselected
    rw [evaluated_state, evaluated_source]
    exact hdecisive
  · cases hselected

theorem evaluate_id (input : DecisionInput) (c : Candidate) :
    (evaluate input c).record.id = c.record.id := by
  have hkept : ∀ r : EvidenceRecord, (withCurrentness input r).id = r.id := by
    intro r
    unfold withCurrentness
    split_ifs <;> rfl
  unfold evaluate
  split_ifs <;> first | rfl | (dsimp only; split_ifs <;> exact hkept _)

/-- Selected candidates have different identities. -/
theorem distinguished_pool (input : DecisionInput) : (pool input).Pairwise Distinguished := by
  refine List.pairwise_map.mpr ((distinguished_assemble input).imp_of_mem ?_)
  intro a b ha hb hab hselected hselected'
  have hbefore : ∀ c ∈ assemble input, (evaluate input c).disposition = .selected →
      c.disposition = .selected := by
    intro c hc hafter
    have hcases : c.disposition = .selected ∨ c = rejectedCandidate c.record := by
      rcases List.mem_append.mp hc with hevidence | hcontract
      · rcases (mem_assembleEvidence hevidence).2 with ⟨hfresh, -⟩ | hrejected
        · exact Or.inl (by rw [hfresh]; rfl)
        · exact Or.inr hrejected
      · exact Or.inl (by rw [(mem_assembleContracts hcontract).1]; rfl)
    rcases hcases with hfresh | hrejected
    · exact hfresh
    · rw [hrejected, evaluate_rejected] at hafter
      cases hafter
  rw [evaluate_id, evaluate_id]
  exact hab (hbefore a ha hselected) (hbefore b hb hselected')

/-- Selected candidates of the pool with one identity are one candidate. -/
theorem eq_of_selected {a b : Candidate} (ha : a ∈ pool input)
    (hb : b ∈ pool input) (hselected : a.disposition = .selected)
    (hselected' : b.disposition = .selected) (hid : a.record.id = b.record.id) : a = b := by
  have hall : (pool input).Pairwise fun a b => a.disposition = .selected →
      b.disposition = .selected → a.record.id = b.record.id → a = b :=
    (distinguished_pool input).imp fun h ha hb heq => absurd heq (h ha hb)
  have hflip : (pool input).Pairwise (flip fun a b : Candidate => a.disposition = .selected →
      b.disposition = .selected → a.record.id = b.record.id → a = b) :=
    (distinguished_pool input).imp fun h hb ha heq => absurd heq.symm (h ha hb)
  exact hall.forall_of_forall_of_flip (fun _ _ _ _ _ => rfl) hflip ha hb hselected hselected' hid

theorem perm_pool (input : DecisionInput) : (sortedCandidates input).Perm (pool input) :=
  List.perm_insertionSort _ _

section Distinct

variable (hids : (input.evidence.map EvidenceRecord.id).Nodup)

include hids

theorem fresh_of_mem_assemble (hc : c ∈ assemble input) : c = freshCandidate c.record := by
  rcases List.mem_append.mp hc with hevidence | hcontract
  · rw [assembleEvidence_eq (by simp) hids] at hevidence
    obtain ⟨r, -, rfl⟩ := List.mem_map.mp hevidence
    rfl
  · exact (mem_assembleContracts hcontract).1

theorem nodup_poolIds : ((pool input).map (·.record.id)).Nodup := by
  rw [pool, List.map_map]
  refine List.pairwise_map.mpr ((distinguished_assemble input).imp_of_mem ?_)
  intro a b ha hb hab
  rw [Function.comp_apply, Function.comp_apply, evaluate_id, evaluate_id]
  refine hab ?_ ?_
  · rw [fresh_of_mem_assemble hids ha]
    rfl
  · rw [fresh_of_mem_assemble hids hb]
    rfl

/-- With distinct identities a current candidate that names a class can win. -/
theorem eligible_of_mem_pool (hc : c ∈ pool input)
    (hstate : c.record.state = .current) (hsource : c.record.source ≠ .heuristic)
    (hsemantic : c.record.semantic ≠ .unknown) : eligible c = true := by
  obtain ⟨a, ha, rfl⟩ := List.mem_map.mp hc
  have hevaluated : evaluate input a = evaluated input a.record :=
    congrArg (evaluate input) (fresh_of_mem_assemble hids ha)
  rw [hevaluated] at hstate hsource hsemantic ⊢
  rw [evaluated_state] at hstate
  rw [evaluated_source] at hsource
  rw [evaluated_semantic] at hsemantic
  exact (eligible_evaluated input a.record).mpr ⟨⟨hstate, hsource⟩, hsemantic⟩

end Distinct

/-- The first of the eligible candidates in the order of precedence. -/
structure Leads (cs : List Candidate) (w : Candidate) : Prop where
  mem : w ∈ cs
  eligible : eligible w = true
  first : ∀ c ∈ cs, Engine.eligible c = true → rankKey w.record ≤ rankKey c.record

theorem selected_of_eligible (h : eligible c = true) :
    c.disposition = .selected ∧ c.record.semantic ≠ .unknown := by
  simpa [eligible] using h

theorem Leads.unique {v : Candidate} (hw : Leads (pool input) w)
    (hv : Leads (pool input) v) : w = v := by
  have hrank := le_antisymm (hw.first v hv.mem hv.eligible) (hv.first w hw.mem hw.eligible)
  exact eq_of_selected hw.mem hv.mem (selected_of_eligible hw.eligible).1
    (selected_of_eligible hv.eligible).1 (rankKey_eq_iff_id hrank)

theorem Leads.congr {cs ds : List Candidate} (h : ∀ c, Engine.eligible c = true → (c ∈ cs ↔ c ∈ ds))
    (hw : Leads cs w) : Leads ds w :=
  ⟨(h w hw.eligible).mp hw.mem, hw.eligible,
    fun c hc helig => hw.first c ((h c helig).mpr hc) helig⟩

theorem leads_of_winner (h : winner input = some w) :
    input.generationRevoked = false ∧ Leads (pool input) w := by
  rw [winner_eq_find?] at h
  split_ifs at h with hrev
  obtain ⟨hmem, helig, hleast⟩ := find?_le_of_pairwise pairwise_sortedCandidates h
  refine ⟨by simpa using hrev, (perm_pool input).mem_iff.mp hmem, helig, fun c hc hc' => ?_⟩
  have hle := hleast c ((perm_pool input).mem_iff.mpr hc) hc'
  -- both are selected, so the keys compare by rank
  simpa [candidateKey, (selected_of_eligible helig).1, (selected_of_eligible hc').1,
    Prod.Lex.toLex_le_toLex] using hle

theorem winner_eq_some_iff :
    winner input = some w ↔ input.generationRevoked = false ∧ Leads (pool input) w := by
  refine ⟨leads_of_winner, fun ⟨hrev, hw⟩ => ?_⟩
  have hsome : ((sortedCandidates input).find? eligible).isSome := by
    rw [List.find?_isSome]
    exact ⟨w, (perm_pool input).mem_iff.mpr hw.mem, hw.eligible⟩
  obtain ⟨v, hfind⟩ := Option.isSome_iff_exists.mp hsome
  have hv : winner input = some v := by
    rw [winner_eq_find?, hrev, if_neg Bool.false_ne_true, hfind]
  rw [hv, (leads_of_winner hv).2.unique hw]

theorem winner_isSome (hrev : input.generationRevoked = false)
    {c : Candidate} (hc : c ∈ pool input) (helig : eligible c = true) :
    ∃ w, winner input = some w := by
  have hsome : ((sortedCandidates input).find? eligible).isSome := by
    rw [List.find?_isSome]
    exact ⟨c, (perm_pool input).mem_iff.mpr hc, helig⟩
  rw [winner_eq_find?, hrev, if_neg Bool.false_ne_true]
  exact Option.isSome_iff_exists.mp hsome

def supports (w c : Candidate) : Bool :=
  c.record.state == .current && !c.record.source.isHeuristic &&
    c.record.semantic == w.record.semantic

theorem supports_self (hw : Leads (pool input) w) : supports w w = true := by
  obtain ⟨hstate, hsource⟩ := selected_of_mem_pool hw.mem (selected_of_eligible hw.eligible).1
  simp [supports, hstate, EvidenceSource.isHeuristic, hsource]

theorem corroboration_add_one
    (h : winner input = some w) : corroboration input + 1 = (pool input).countP (supports w) := by
  obtain ⟨k, hk, hget⟩ := Option.bind_eq_some_iff.mp h
  have hflag : ((sortedCandidates input).mapIdx fun i c =>
      corroborates (winner input) (winnerIndex input == some i) c) =
      (sortedCandidates input).mapIdx fun i c => !(some k == some i) && supports w c := by
    rw [h, hk]
    simp only [corroborates, supports, Bool.and_assoc]
  rw [corroboration, hflag,
    count_mapIdx_others hget (supports_self (leads_of_winner h).2), (perm_pool input).countP_eq]

theorem perm_contradicting (input : DecisionInput) (w : Candidate) :
    ((sortedCandidates input).filter (contradicts w)).Perm ((pool input).filter (contradicts w)) :=
  (perm_pool input).filter _

theorem length_contradictions (input : DecisionInput) (w : Candidate) :
    (contradictions input w).length = (pool input).countP (contradicts w) := by
  rw [contradictions_insertion, List.length_map, List.length_insertionSort,
    (perm_contradicting input w).length_eq, List.countP_eq_length_filter]

theorem isEmpty_contradictions (input : DecisionInput) (w : Candidate) :
    (!(contradictions input w).isEmpty) = (pool input).any (contradicts w) := by
  rw [Bool.eq_iff_iff, List.any_eq_true, Bool.not_eq_true', ← Bool.not_eq_true,
    List.isEmpty_iff_length_eq_zero, length_contradictions, List.countP_eq_zero]
  push Not
  exact Iff.rfl

/-- Contradicting candidates with different identities are listed in one way only. -/
theorem contradictions_congr
    (hperm : ((pool i).filter (contradicts w)).Perm ((pool j).filter (contradicts w)))
    (hids : ∀ a ∈ (pool i).filter (contradicts w), ∀ b ∈ (pool i).filter (contradicts w),
      a.record.id = b.record.id → a = b) : contradictions i w = contradictions j w := by
  have hsorted := insertionSort_eq_of_perm
    (fun a b : Candidate => evidenceOutranks b.record a.record = false)
    (fun c => rankKey c.record) (fun a b => evidenceOutranks_false_iff a.record b.record)
    ((perm_contradicting i w).trans (hperm.trans (perm_contradicting j w).symm)) ?_
  · rw [contradictions_insertion, contradictions_insertion, hsorted]
  · intro a ha b hb hab
    exact hids a ((perm_contradicting i w).mem_iff.mp ha) b ((perm_contradicting i w).mem_iff.mp hb)
      (rankKey_eq_iff_id hab)

/-- A decision without its header, its citations and its digest. -/
structure Outcome where
  semantic : SemanticClass := .unknown
  state : ClassificationState
  confidence : Confidence := .none
  selectedEvidence : EvidenceId := .none
  selectedSource : EvidenceSource := .unknown
  contradictions : List ClassificationContradiction := []
  corroborationCount : ℕ := 0
  appliedPenaltyBasisPoints : UInt32 := 0

def outcome (d : Classification) : Outcome where
  semantic := d.semantic
  state := d.state
  confidence := d.confidence
  selectedEvidence := d.selectedEvidence
  selectedSource := d.selectedSource
  contradictions := d.contradictions
  corroborationCount := d.corroborationCount
  appliedPenaltyBasisPoints := d.appliedPenaltyBasisPoints

def penalisedConfidence (policy : ClassifierPolicy) (w : EvidenceRecord) (contradicted : Bool) :
    Confidence :=
  if contradicted then
    (w.confidence.weaker w.source.confidence).reducedBy policy.contradictionPenalty.toNat
  else w.confidence.weaker w.source.confidence

def publishedOutcome (policy : ClassifierPolicy) (w : EvidenceRecord)
    (found : List ClassificationContradiction) (count : ℕ) : Outcome where
  semantic := w.semantic
  state :=
    if !found.isEmpty then .contradicted
    else if count > 0 then .corroborated
    else .current
  confidence := penalisedConfidence policy w !found.isEmpty
  selectedEvidence := w.id
  selectedSource := w.source
  contradictions := found
  corroborationCount := count
  appliedPenaltyBasisPoints := if found.isEmpty then 0 else policy.contradictionPenalty

/-- The penalised confidence is below the publishable minimum. -/
def FallsShort (policy : ClassifierPolicy) (w : EvidenceRecord) (contradicted : Bool) : Prop :=
  (penalisedConfidence policy w contradicted).basisPoints <
    policy.minimumPublishableConfidence.toNat

instance (policy : ClassifierPolicy) (w : EvidenceRecord) (contradicted : Bool) :
    Decidable (FallsShort policy w contradicted) := by
  unfold FallsShort
  infer_instance

def winningOutcome (policy : ClassifierPolicy) (w : EvidenceRecord)
    (found : List ClassificationContradiction) (count : ℕ) : Outcome :=
  if FallsShort policy w !found.isEmpty then { state := .insufficient }
  else publishedOutcome policy w found count

theorem outcome_winnerVerdict (input : DecisionInput) (w : Candidate) :
    outcome (winnerVerdict input w) =
      winningOutcome input.policy w.record (contradictions input w) (corroboration input) := by
  unfold winnerVerdict winningOutcome publishedOutcome FallsShort penalisedConfidence
  cases hfound : (contradictions input w).isEmpty with
  | true | false =>
    simp only [hfound, if_true, Bool.not_true, Bool.not_false, Bool.false_eq_true, if_false]
    split_ifs <;> rfl

/-- The threshold relabels the citation of the winner. -/
theorem winnerVerdict_citations (input : DecisionInput) (w : Candidate) :
    (winnerVerdict input w).citations =
      if FallsShort input.policy w.record !(contradictions input w).isEmpty then
        (citations input).map (belowThreshold w.record)
      else citations input := by
  unfold winnerVerdict FallsShort penalisedConfidence
  cases hfound : (contradictions input w).isEmpty with
  | true | false =>
    simp only [hfound, if_true, Bool.not_true, Bool.not_false, Bool.false_eq_true, if_false]
    split_ifs <;> rfl

/-- The winner is cited as selected. -/
theorem mem_citations_winner
    (h : winner input = some w) : cite (some w) true w ∈ citations input := by
  obtain ⟨k, hk, hget⟩ := Option.bind_eq_some_iff.mp h
  refine (perm_sortCitations _).mem_iff.mpr (List.mem_iff_getElem?.mpr ⟨k, ?_⟩)
  rw [List.getElem?_mapIdx, hget, h, hk]
  simp

/-- The display cap and the final check change nothing of what a decision says. -/
theorem outcome_decide (input : DecisionInput) :
    outcome (Engine.decide input) = outcome (verdict input) := by
  have hpass : (verdict input).semantic = .unknown ∨ justified (capped input) = true := by
    cases hwin : winner input with
    | none => exact Or.inl (by rw [verdict, hwin]; rfl)
    | some w =>
      have hverdict : verdict input = winnerVerdict input w := by rw [verdict, hwin]
      have hout := outcome_winnerVerdict input w
      unfold winningOutcome at hout
      split_ifs at hout with hshort
      · exact Or.inl (by rw [hverdict]; exact congrArg Outcome.semantic hout)
      · refine Or.inr ?_
        have hsemantic : (capped input).semantic = w.record.semantic := by
          show (verdict input).semantic = _
          rw [hverdict]
          exact congrArg Outcome.semantic hout
        have hcited : (verdict input).citations = citations input := by
          rw [hverdict, winnerVerdict_citations, if_neg hshort]
        rw [justified, List.any_eq_true]
        refine ⟨cite (some w) true w,
          mem_capCitations (by rw [hcited]; exact mem_citations_winner hwin) rfl, ?_⟩
        have hleads := (leads_of_winner hwin).2
        have hstate := (selected_of_mem_pool hleads.mem (selected_of_eligible hleads.eligible).1).1
        simp [cite, citedDisposition, hsemantic, hstate]
  rw [decide_eq_of_justified hpass]
  rfl

theorem outcome_of_winner (h : winner input = some w) : outcome (Engine.decide input) =
      winningOutcome input.policy w.record (contradictions input w) (corroboration input) := by
  rw [outcome_decide, verdict, h]
  exact outcome_winnerVerdict input w

def openStateOf (revoked : Bool) (cs : List Candidate) : ClassificationState :=
  if revoked then .revoked
  else if cs.any fun c => c.record.state == .current then .insufficient
  else if cs.any fun c => c.record.state == .stale || c.record.state == .superseded then .stale
  else .insufficient

theorem outcome_of_no_winner (h : winner input = none) : outcome (Engine.decide input) =
      { state := openStateOf input.generationRevoked (pool input) } := by
  have hany : ∀ p : Candidate → Bool, (sortedCandidates input).any p = (pool input).any p := by
    intro p
    rw [Bool.eq_iff_iff, List.any_eq_true, List.any_eq_true]
    simp only [(perm_pool input).mem_iff]
  rw [outcome_decide, verdict, h]
  unfold outcome openVerdict openStateOf
  simp only [hany]
  rfl

end FlowClassifier.Pool
