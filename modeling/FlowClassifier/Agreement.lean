import FlowClassifier.WeakEvidence

/-!
A record that agrees with a decision. It joins the pool as one more candidate of the
class that was decided, so it takes the place of the winner or stands behind it. A
candidate that takes the place of the winner has at least its rank and therefore at least
its confidence, and it is contradicted by the same candidates.
-/
namespace FlowClassifier.Agreement

open Foundation Evidence Policies Classifications Engine DecisionSpec EngineCorrect Pool
  WeakEvidence

variable {w : Candidate}

/-- A source of a higher rank is trusted at least as much. -/
theorem confidence_mono {a b : EvidenceSource} (h : a.rank ≤ b.rank) :
    a.confidence.basisPoints ≤ b.confidence.basisPoints := by
  revert h
  cases a <;> cases b <;> decide

theorem rank_of_rankKey_le {a b : EvidenceRecord} (h : rankKey a ≤ rankKey b) :
    b.source.rank ≤ a.source.rank := by
  rcases Prod.Lex.toLex_le_toLex.mp h with hlt | ⟨heq, -⟩
  · exact le_of_lt (OrderDual.toDual_lt_toDual.mp hlt)
  · exact (OrderDual.toDual_inj.mp heq).ge

def Calibrated (r : EvidenceRecord) : Prop := r.confidence = r.source.confidence

theorem calibrated_of_mem_pool {input : DecisionInput}
    (h : ∀ r ∈ input.evidence, Calibrated r) {c : Candidate} (hc : c ∈ pool input) :
    Calibrated c.record := by
  have hkept : ∀ a : Candidate, Calibrated a.record → Calibrated (evaluate input a).record := by
    intro a ha
    unfold evaluate withCurrentness
    split_ifs <;> first | exact ha | (dsimp only; split_ifs <;> exact ha)
  obtain ⟨a, ha, rfl⟩ := List.mem_map.mp hc
  apply hkept
  rcases List.mem_append.mp ha with hevidence | hcontract
  · exact h _ (mem_assembleEvidence hevidence).1
  · obtain ⟨k, -, -, hderived⟩ := contract_of_mem_assembleContracts hcontract
    rw [hderived]
    rfl

theorem basisPoints_penalised {policy : ClassifierPolicy} {r : EvidenceRecord}
    (h : Calibrated r) (contradicted : Bool) :
    (penalisedConfidence policy r contradicted).basisPoints =
      r.source.confidence.basisPoints -
        if contradicted then policy.contradictionPenalty.toNat else 0 := by
  have hconfidence : (r.confidence.weaker r.source.confidence).basisPoints =
      r.source.confidence.basisPoints := by
    rw [Confidence.basisPoints_weaker, h, min_self]
  unfold penalisedConfidence
  cases contradicted with
  | true => rw [if_pos rfl, if_pos rfl, Confidence.basisPoints_reducedBy, hconfidence]
  | false =>
    rw [if_neg Bool.false_ne_true, if_neg Bool.false_ne_true, hconfidence, Nat.sub_zero]

def contradicting (found : List ClassificationContradiction) :
    List (EvidenceId × SemanticClass × EvidenceSource) :=
  found.map fun k => (k.rightId, k.rightClass, k.rightSource)

theorem contradicts_congr {v : Candidate} (h : v.record.semantic = w.record.semantic) :
    contradicts v = contradicts w := by
  funext c
  unfold contradicts
  rw [h]

theorem contradicting_congr (input : DecisionInput) {v : Candidate}
    (h : v.record.semantic = w.record.semantic) :
    contradicting (contradictions input v) = contradicting (contradictions input w) := by
  unfold contradicting contradictions
  rw [contradicts_congr h, List.map_map, List.map_map]
  rfl

/-- A calibrated winner of a higher rank can be published where a lower one can. -/
theorem publishes_of_rank {policy : ClassifierPolicy} {v w : EvidenceRecord}
    {contradicted : Bool} (hv : Calibrated v) (hw : Calibrated w)
    (hrank : w.source.rank ≤ v.source.rank) :
    (penalisedConfidence policy w contradicted).basisPoints ≤
      (penalisedConfidence policy v contradicted).basisPoints := by
  rw [basisPoints_penalised hv, basisPoints_penalised hw]
  exact Nat.sub_le_sub_right (confidence_mono hrank) _

/-- A decision that names a class publishes the winner. -/
theorem published_of_named {input : DecisionInput}
    (hnamed : (Engine.decide input).semantic ≠ .unknown) : ∃ w, winner input = some w ∧
      ¬ FallsShort input.policy w.record !(contradictions input w).isEmpty := by
  cases hwin : winner input with
  | none => exact absurd (congrArg Outcome.semantic (outcome_of_no_winner hwin)) hnamed
  | some w =>
    refine ⟨w, rfl, fun hshort => hnamed ?_⟩
    have hout := outcome_of_winner hwin
    rw [winningOutcome, if_pos hshort] at hout
    exact congrArg Outcome.semantic hout

theorem outcome_of_published {input : DecisionInput} (hwin : winner input = some w)
    (hpublished : ¬ FallsShort input.policy w.record !(contradictions input w).isEmpty) :
    outcome (Engine.decide input) =
      publishedOutcome input.policy w.record (contradictions input w) (corroboration input) := by
  rw [outcome_of_winner hwin, winningOutcome, if_neg hpublished]

section Joined

variable {input : DecisionInput} {r : EvidenceRecord} {all : List EvidenceRecord}
  (hids : (input.evidence.map EvidenceRecord.id).Nodup)
  (hall : all.Perm (r :: input.evidence))
  (hfresh : ∀ c ∈ assemble input, r.id ≠ c.record.id)

include hids hall hfresh

/-- The record joins the pool as one candidate more. -/
theorem perm_pool_joined :
    (pool { input with evidence := all }).Perm (evaluated input r :: pool input) := by
  have hother : ∀ s ∈ input.evidence, r.id ≠ s.id := by
    intro s hs
    refine hfresh (freshCandidate s) (List.mem_append_left _ ?_)
    rw [assembleEvidence_eq (by simp) hids]
    exact List.mem_map_of_mem hs
  have hnew : ∀ s ∈ [r], ∀ c ∈ pool input, s.id ≠ c.record.id := by
    intro s hs c hc
    obtain ⟨a, ha, rfl⟩ := List.mem_map.mp hc
    rw [List.mem_singleton.mp hs, evaluate_id]
    exact hfresh a ha
  have hnodup : (all.map EvidenceRecord.id).Nodup := by
    refine (hall.map _).nodup_iff.mpr (List.nodup_cons.mpr ⟨fun hmem => ?_, hids⟩)
    obtain ⟨s, hs, heq⟩ := List.mem_map.mp hmem
    exact hother s hs heq.symm
  -- of all records the added one alone is new
  have hadded : (addedCandidates input all).Perm [evaluated input r] := by
    have hkept : (all.filter fun s =>
        !Decidable.decide (s.id ∈ input.evidence.map EvidenceRecord.id)).Perm [r] := by
      refine (hall.filter _).trans (List.Perm.of_eq ?_)
      rw [List.filter_cons_of_pos, List.filter_eq_nil_iff.mpr]
      · intro s hs
        simpa using ⟨s, hs, rfl⟩
      · simpa using fun s hs heq => hother s hs heq.symm
    rw [addedCandidates, assembleEvidence_eq (by simp) hnodup, List.filter_map, List.map_map]
    exact hkept.map _
  refine (perm_pool_added hids (hall.trans (List.perm_append_singleton r _).symm) hnew).trans ?_
  exact (hadded.append_left _).trans (List.perm_append_singleton _ _)

/-- The new winner is the added record or the one there was. -/
theorem winner_joined (hwin : winner input = some w) :
    ∃ v, winner { input with evidence := all } = some v ∧
      (v = w ∨ v = evaluated input r) ∧ rankKey v.record ≤ rankKey w.record := by
  have hperm := perm_pool_joined hids hall hfresh
  obtain ⟨hrev, hleads⟩ := leads_of_winner hwin
  have hold : w ∈ pool { input with evidence := all } :=
    hperm.mem_iff.mpr (List.mem_cons_of_mem _ hleads.mem)
  obtain ⟨v, hv⟩ := @winner_isSome { input with evidence := all } hrev w hold hleads.eligible
  have hfirst := (leads_of_winner hv).2
  refine ⟨v, hv, ?_, hfirst.first w hold hleads.eligible⟩
  rcases List.mem_cons.mp (hperm.mem_iff.mp hfirst.mem) with hadded | hbefore
  · exact Or.inr hadded
  · have hbest : Leads (pool input) v := by
      refine ⟨hbefore, hfirst.eligible, fun c hc => ?_⟩
      exact hfirst.first c (hperm.mem_iff.mpr (List.mem_cons_of_mem _ hc))
    exact Or.inl (hbest.unique hleads)

/-- Nothing contradicts one of them that does not contradict the other. -/
theorem contradictions_joined (hclass : r.semantic = w.record.semantic) :
    contradictions { input with evidence := all } w = contradictions input w := by
  have hagrees : contradicts w (evaluated input r) = false := by
    simp [contradicts, hclass]
  have hperm := (perm_pool_joined hids hall hfresh).filter (contradicts w)
  rw [List.filter_cons_of_neg (by simp [hagrees])] at hperm
  refine (contradictions_congr hperm.symm fun a ha b hb hab => ?_).symm
  exact List.inj_on_of_nodup_map (nodup_poolIds hids) (List.mem_of_mem_filter ha)
    (List.mem_of_mem_filter hb) hab

/-- A record that agrees with the class of a decision keeps the class and the contradicting
records, and never lowers the confidence. If the record is not CURRENT or heuristic it does
not count, and the same holds. -/
theorem agreement_never_hurts (hcalibrated : ∀ s ∈ input.evidence, Calibrated s)
    (hnamed : (Engine.decide input).semantic ≠ .unknown) (hr : Calibrated r)
    (hclass : r.semantic = (Engine.decide input).semantic) :
    (Engine.decide { input with evidence := all }).semantic = (Engine.decide input).semantic ∧
      (Engine.decide input).confidence.basisPoints ≤
        (Engine.decide { input with evidence := all }).confidence.basisPoints ∧
      contradicting (Engine.decide { input with evidence := all }).contradictions =
        contradicting (Engine.decide input).contradictions := by
  obtain ⟨w, hwin, hpublished⟩ := published_of_named hnamed
  have hbefore := outcome_of_published hwin hpublished
  have hsemantic : (Engine.decide input).semantic = w.record.semantic :=
    congrArg Outcome.semantic hbefore
  rw [hsemantic] at hclass
  obtain ⟨v, hv, hcases, hrank⟩ := winner_joined hids hall hfresh hwin
  have hsame : v.record.semantic = w.record.semantic := by
    rcases hcases with rfl | rfl
    · rfl
    · rw [evaluated_semantic, hclass]
  have hfound : contradicting (contradictions { input with evidence := all } v) =
      contradicting (contradictions input w) := by
    rw [contradicting_congr _ hsame, contradictions_joined hids hall hfresh hclass]
  have hempty : (contradictions { input with evidence := all } v).isEmpty =
      (contradictions input w).isEmpty := by
    simpa [contradicting] using congrArg List.isEmpty hfound
  -- the records that can win carry the confidence of their source
  have hallCalibrated : ∀ s ∈ all, Calibrated s := by
    intro s hs
    rcases List.mem_cons.mp (hall.mem_iff.mp hs) with rfl | hold
    · exact hr
    · exact hcalibrated s hold
  have hle : (penalisedConfidence input.policy w.record
        !(contradictions input w).isEmpty).basisPoints ≤
      (penalisedConfidence input.policy v.record
        !(contradictions input w).isEmpty).basisPoints :=
    publishes_of_rank (calibrated_of_mem_pool hallCalibrated (leads_of_winner hv).2.mem)
      (calibrated_of_mem_pool hcalibrated (leads_of_winner hwin).2.mem) (rank_of_rankKey_le hrank)
  have hstill : ¬ FallsShort input.policy v.record
      !(contradictions { input with evidence := all } v).isEmpty := by
    rw [hempty]
    exact fun hshort => hpublished (lt_of_le_of_lt hle hshort)
  have hafter := outcome_of_published hv hstill
  refine ⟨(congrArg Outcome.semantic hafter).trans (hsame.trans hsemantic.symm), ?_, ?_⟩
  · have hconfidence := congrArg (fun o => o.confidence.basisPoints) hafter
    have hconfidence' := congrArg (fun o => o.confidence.basisPoints) hbefore
    simp only [publishedOutcome, hempty] at hconfidence hconfidence'
    exact hconfidence'.le.trans (hle.trans hconfidence.ge)
  · have hlisted := congrArg (fun o => contradicting o.contradictions) hafter
    have hlisted' := congrArg (fun o => contradicting o.contradictions) hbefore
    exact hlisted.trans (hfound.trans hlisted'.symm)

end Joined

def observedInput : DecisionInput :=
  { plainInput with evidence := [sampleRecord (text "evd-t") .topologyCorrelated .collective 1] }

def declaredRecord : EvidenceRecord :=
  sampleRecord (text "evd-d") .declaredAuthenticated .collective 1

theorem agreement_never_hurts_sample :
    (Engine.decide observedInput).semantic = .collective ∧ Decisive observedInput declaredRecord ∧
      (Engine.decide { observedInput with
        evidence := declaredRecord :: observedInput.evidence }).semantic = .collective := by
  have hbefore : (Engine.decide observedInput).semantic = .collective := by decide +kernel
  have hkept := @agreement_never_hurts observedInput declaredRecord
    (declaredRecord :: observedInput.evidence) (by decide +kernel) (List.Perm.refl _)
    (by decide +kernel) (fun s hs => by rw [List.mem_singleton.mp hs]; rfl)
    (by rw [hbefore]; decide) rfl hbefore.symm
  exact ⟨hbefore, by decide +kernel, hkept.1.trans hbefore⟩

end FlowClassifier.Agreement
