import FlowClassifier.DecisionKeys
import FlowClassifier.Pool

/-!
The engine with any sort. The source sorts candidates, citations, contradicting candidates
and the entries of its digests with a library sort, of which only this is known: given a
strict weak order it returns a sorted permutation. Each comparison is related to a key, and
on what it is given the key tells the elements apart, so every sort gives one result. With
that the order of the records, contracts and workloads of an input does not matter.
-/
namespace FlowClassifier.OrderIndependence

open Lib Foundation Buffers Evidence Workloads Classifications Engine DecisionSpec EngineCorrect
  DecisionKeys Pool

def citationKey (c : EvidenceCitation) : UInt8 ×ₗ EvidenceId := toLex (c.disposition.code, c.id)

theorem citationBefore_iff (a b : EvidenceCitation) :
    citationBefore a b = true ↔ citationKey a < citationKey b := by
  unfold citationBefore citationKey
  rw [Prod.Lex.toLex_lt_toLex]
  by_cases hsame : a.disposition = b.disposition
  · rw [if_neg (not_not.mpr hsame), hsame, decide_eq_true_iff]
    constructor
    · exact fun h => Or.inr ⟨rfl, h⟩
    · rintro (h | h)
      · exact absurd h (lt_irrefl _)
      · exact h.2
  · rw [if_pos hsame, decide_eq_true_iff]
    constructor
    · exact Or.inl
    · rintro (h | ⟨hcode, -⟩)
      · exact h
      · exact absurd (EvidenceDisposition.code_injective hcode) hsame

section Unique

variable (σ : Sorter) {kind : IdKind} {input : DecisionInput} (hwf : WellFormed input)

theorem sort_citations {cited : List EvidenceCitation}
    (hids : (cited.map EvidenceCitation.id).Nodup) :
    sortCitations cited σ = sortCitations cited := by
  refine σ.sort_eq_insertionSort citationKey citationBefore_iff (fun a b => ?_)
    fun a ha b hb h => ?_
  · rw [← Bool.not_eq_true, citationBefore_iff, not_lt]
  · exact List.inj_on_of_nodup_map hids ha hb
      (congrArg (fun k : UInt8 ×ₗ EvidenceId => (ofLex k).2) h)

theorem sort_byId {α : Type} {id : α → StringId kind} {xs : List α} (hids : (xs.map id).Nodup) :
    σ.sort (fun a b => Decidable.decide (id a < id b)) xs =
      Sorter.insertion.sort (fun a b => Decidable.decide (id a < id b)) xs := by
  rw [Sorter.sort_insertion]
  exact σ.sort_eq_insertionSort id (fun _ _ => decide_eq_true_iff) (fun _ _ => Iff.rfl)
    fun _ ha _ hb h => List.inj_on_of_nodup_map hids ha hb h

theorem capCitations_sorter (cap : UInt32) {cited : List EvidenceCitation}
    (hids : (cited.map EvidenceCitation.id).Nodup) :
    capCitations cap cited σ = capCitations cap cited := by
  have hkept := (ids_capCitations cap cited).nodup_iff.mpr hids
  unfold capCitations at hkept ⊢
  exact sort_citations σ (((perm_sortCitations _).map _).nodup_iff.mp hkept)

theorem withDigest_sorter {c : Classification}
    (hids : (c.citations.map EvidenceCitation.id).Nodup) : withDigest c σ = withDigest c := by
  simp only [withDigest, computeClassificationDigest, classificationDigestChunks,
    sort_byId σ hids]

include hwf

theorem sortedCandidates_sorter : sortedCandidates input σ = sortedCandidates input := by
  refine σ.sort_eq_insertionSort candidateKey candidateBefore_iff candidateBefore_false_iff ?_
  intro a ha b hb h
  have hrank : rankKey a.record = rankKey b.record :=
    congrArg (fun k : Bool ×ₗ Rank => (ofLex k).2) h
  exact List.inj_on_of_nodup_map (nodup_poolIds hwf.evidence_nodup) ha hb (rankKey_eq_iff_id hrank)

theorem winnerIndex_sorter : winnerIndex input σ = winnerIndex input := by
  rw [winnerIndex, winnerIndex, sortedCandidates_sorter σ hwf]

theorem winner_sorter : winner input σ = winner input := by
  rw [winner, winner, winnerIndex_sorter σ hwf, sortedCandidates_sorter σ hwf]

theorem citations_sorter : citations input σ = citations input := by
  have hids := ids_citations_sorted.nodup_iff.mpr (nodup_sortedIds hwf)
  rw [citations, winner_sorter σ hwf, winnerIndex_sorter σ hwf, sortedCandidates_sorter σ hwf]
  exact sort_citations σ (((perm_sortCitations _).map _).nodup_iff.mp hids)

theorem corroboration_sorter : corroboration input σ = corroboration input := by
  rw [corroboration, corroboration, winner_sorter σ hwf, winnerIndex_sorter σ hwf,
    sortedCandidates_sorter σ hwf]

theorem contradictions_sorter (w : Candidate) :
    contradictions input w σ = contradictions input w := by
  rw [contradictions, sortedCandidates_sorter σ hwf, contradictions_insertion]
  refine congrArg _ (σ.sort_eq_insertionSort (fun c : Candidate => rankKey c.record)
    (fun a b => evidenceOutranks_iff a.record b.record)
    (fun a b => evidenceOutranks_false_iff a.record b.record) ?_)
  intro a ha b hb h
  exact List.inj_on_of_nodup_map (nodup_sortedIds hwf) (List.mem_of_mem_filter ha)
    (List.mem_of_mem_filter hb) (rankKey_eq_iff_id h)

theorem verdict_sorter : verdict input σ = verdict input := by
  rw [verdict, verdict, winner_sorter σ hwf]
  cases winner input with
  | none =>
    simp only [openVerdict, sortedCandidates_sorter σ hwf, citations_sorter σ hwf]
  | some w =>
    simp only [winnerVerdict, contradictions_sorter σ hwf,
      corroboration_sorter σ hwf, citations_sorter σ hwf]

/-- On distinct identities the engine does not depend on its sort. -/
theorem decide_sorter : Engine.decide input σ = Engine.decide input := by
  have hverdict := (ids_verdict hwf).nodup_iff.mpr (nodup_candidateIds hwf)
  have hcapped : ((finalCheck (capped input)).citations.map EvidenceCitation.id).Nodup := by
    rw [finalCheck_citations]
    exact (ids_capCitations _ _).nodup_iff.mpr hverdict
  simp only [Engine.decide, verdict_sorter σ hwf, capCitations_sorter σ _ hverdict]
  exact withDigest_sorter σ hcapped

theorem evidenceSetDigest_sorter :
    computeEvidenceSetDigest input σ = computeEvidenceSetDigest input := by
  simp only [computeEvidenceSetDigest,
    evidenceSetDigestChunks, sort_byId σ hwf.evidence_nodup, sort_byId σ hwf.contracts_nodup]

end Unique

structure Permuted (i j : DecisionInput) : Prop where
  evidence : i.evidence.Perm j.evidence
  activeContracts : i.activeContracts.Perm j.activeContracts
  workloads : i.workloads.Perm j.workloads
  others : j = { i with
    evidence := j.evidence, activeContracts := j.activeContracts, workloads := j.workloads }

section Permuted

variable {i j : DecisionInput} (h : Permuted i j)

include h

theorem Permuted.sameCircumstances : SameCircumstances i j := by
  rw [h.others]
  exact ⟨rfl, rfl, rfl, rfl, rfl, rfl⟩

theorem Permuted.wellFormed (hi : WellFormed i) : WellFormed j where
  evidence_nodup := (h.evidence.map _).nodup_iff.mp hi.evidence_nodup
  contracts_nodup := (h.activeContracts.map _).nodup_iff.mp hi.contracts_nodup
  workloads_nodup := (h.workloads.map _).nodup_iff.mp hi.workloads_nodup
  noCollision := by
    refine hi.noCollision.mono ?_
    rintro m ⟨c, hc, rfl⟩
    have hflow : j.flow = i.flow := by rw [h.others]
    exact ⟨c, h.activeContracts.mem_iff.mpr hc, by rw [hflow]⟩

theorem Permuted.applies_iff (k : WorkloadContract) : Applies i k ↔ Applies j k := by
  have hkey : j.flow.key = i.flow.key := h.sameCircumstances.key.symm
  simp only [Applies, hkey, h.workloads.mem_iff]

theorem Permuted.setDigest_eq (hi : WellFormed i) :
    computeEvidenceSetDigest i = computeEvidenceSetDigest j := by
  have hrecords : sortedRecords i = sortedRecords j :=
    insertionSort_eq_of_perm _ EvidenceRecord.id (fun _ _ => Iff.rfl) h.evidence
      fun _ ha _ hb => List.inj_on_of_nodup_map hi.evidence_nodup ha hb
  have hcontracts : sortedContracts i = sortedContracts j :=
    insertionSort_eq_of_perm _ WorkloadContract.id (fun _ _ => Iff.rfl) h.activeContracts
      fun _ ha _ hb => List.inj_on_of_nodup_map hi.contracts_nodup ha hb
  have hsame := h.sameCircumstances
  have hchunks : evidenceSetDigestChunks i = evidenceSetDigestChunks j := by
    unfold sortedRecords at hrecords
    unfold sortedContracts at hcontracts
    simp only [evidenceSetDigestChunks, Sorter.sort_insertion, hrecords, hcontracts,
      hsame.id, hsame.generation, hsame.policy, hsame.authority, hsame.revoked]
  rw [computeEvidenceSetDigest, computeEvidenceSetDigest, hchunks]

end Permuted

/-- Whatever sort is used and in whatever order records, contracts and workloads are given,
the decision and the digest of the evidence set are the same. -/
theorem decide_order_independent {i j : DecisionInput} (hi : WellFormed i) (h : Permuted i j)
    (σ : Sorter) :
    Engine.decide j σ = Engine.decide i ∧
      computeEvidenceSetDigest j σ = computeEvidenceSetDigest i := by
  have hj := h.wellFormed hi
  constructor
  · rw [decide_sorter σ hj]
    exact (decide_eq_of_perm hi hj h.sameCircumstances h.evidence h.activeContracts
      fun k _ => h.applies_iff k).symm
  · rw [evidenceSetDigest_sorter σ hj, h.setDigest_eq hi]

def reversedInput : DecisionInput :=
  { sampleInput with
    evidence := sampleInput.evidence.reverse
    activeContracts := sampleInput.activeContracts.reverse }

theorem decide_order_independent_reversed :
    Engine.decide reversedInput .insertion = Engine.decide sampleInput ∧
      computeEvidenceSetDigest reversedInput .insertion = computeEvidenceSetDigest sampleInput := by
  have hpermuted : Permuted sampleInput reversedInput :=
    ⟨(List.reverse_perm _).symm, (List.reverse_perm _).symm, List.Perm.refl _, rfl⟩
  exact decide_order_independent sampleInput_wellFormed hpermuted _

end FlowClassifier.OrderIndependence
