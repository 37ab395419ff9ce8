import FlowClassifier.EngineCorrect

/-!
The records a decision counts. Whatever a decision selects, cites as corroborating or as
contradicting, or names in a contradiction is a candidate that the engine found CURRENT
and that is not heuristic. The display cap and the threshold only take citations out of
that set.
-/
namespace FlowClassifier.EngineCorrect

open Foundation Evidence Classifications Engine DecisionSpec

variable {c : EvidenceCitation}

/-- The decision selects the record with this identity, cites it as corroborating or
contradicting, or lists it in a contradiction. -/
def Counts (d : Classification) (id : EvidenceId) : Prop :=
  id ≠ .none ∧
    (d.selectedEvidence = id ∨ (∃ c ∈ d.citations, isDecisive c = true ∧ c.id = id) ∨
      ∃ k ∈ d.contradictions, k.leftId = id ∨ k.rightId = id)

/-- The cap keeps the disposition of what it keeps. -/
theorem mem_of_mem_capCitations {cap : UInt32} {cited : List EvidenceCitation}
    (hc : c ∈ capCitations cap cited) (hdecisive : isDecisive c = true) : c ∈ cited := by
  rw [capCitations, (perm_sortCitations _).mem_iff, List.mem_append, List.mem_append] at hc
  rcases hc with (hkept | htaken) | hexcluded
  · exact List.mem_of_mem_filter hkept
  · exact List.mem_of_mem_filter (List.mem_of_mem_take htaken)
  · obtain ⟨d, -, rfl⟩ := List.mem_map.mp hexcluded
    exact absurd hdecisive (by simp [isDecisive, excludeByLimit])

/-- So does the threshold. -/
theorem mem_of_mem_belowThreshold {w : EvidenceRecord} {cited : List EvidenceCitation}
    (hc : c ∈ cited.map (belowThreshold w)) (hdecisive : isDecisive c = true) : c ∈ cited := by
  obtain ⟨d, hd, rfl⟩ := List.mem_map.mp hc
  unfold belowThreshold at hdecisive ⊢
  split_ifs at hdecisive ⊢
  · exact absurd hdecisive (by simp [isDecisive])
  · exact hd

theorem mem_citations_of_decide {input : DecisionInput}
    (hc : c ∈ (decide input).citations) (hdecisive : isDecisive c = true) :
    c ∈ citations input := by
  have hsame : (decide input).citations = (capped input).citations :=
    finalCheck_citations (capped input)
  rw [hsame] at hc
  have hverdict : c ∈ (verdict input).citations := mem_of_mem_capCitations hc hdecisive
  cases hwin : winner input with
  | none =>
    rw [verdict, hwin] at hverdict
    exact hverdict
  | some w =>
    rw [verdict, hwin] at hverdict
    have hcases : winnerVerdict input w = _ ∨ winnerVerdict input w = _ := ite_eq_or_eq _ _ _
    rcases hcases with hshort | hwon
    · simp only [hshort] at hverdict
      exact mem_of_mem_belowThreshold hverdict hdecisive
    · simp only [hwon] at hverdict
      exact hverdict

/-- A record that is not CURRENT keeps the disposition of its state. -/
theorem disposition_of_not_current {input : DecisionInput} {r : EvidenceRecord}
    (h : stateOf input r ≠ .current) :
    (evaluated input r).disposition = dispositionForState (stateOf input r) := by
  have hstate := evaluated_state input r
  unfold evaluated evaluate freshCandidate at hstate ⊢
  cases hflow : recordMatchesFlow r input.flow with
  | false => simp [stateOf_of_mismatch hflow, dispositionForState]
  | true =>
    rw [withCurrentness_eq hflow] at hstate ⊢
    simp [h]

/-- A CURRENT heuristic record is noted and nothing more. -/
theorem disposition_of_heuristic {input : DecisionInput} {r : EvidenceRecord}
    (hstate : stateOf input r = .current) (hsource : r.source = .heuristic) :
    (evaluated input r).disposition = .subordinate := by
  unfold evaluated evaluate freshCandidate
  cases hflow : recordMatchesFlow r input.flow with
  | false =>
    rw [stateOf_of_mismatch hflow] at hstate
    cases hstate
  | true =>
    rw [withCurrentness_eq hflow]
    simp [hstate, hsource, EvidenceSource.isHeuristic]

section Counted

variable {input : DecisionInput} (hwf : WellFormed input)

include hwf

/-- What is cited as decisive stands for a decisive candidate. -/
theorem decisive_of_cited (hc : c ∈ citations input) (hdecisive : isDecisive c = true) :
    ∃ r ∈ candidateRecords input, r.id = c.id ∧ Decisive input r := by
  obtain ⟨i, hi, rfl⟩ := List.mem_mapIdx.mp ((perm_sortCitations _).mem_iff.mp hc)
  obtain ⟨r, hr, heq⟩ := (mem_sortedCandidates hwf).mp (List.getElem_mem hi)
  refine ⟨r, hr, by rw [cite, ← heq, evaluated_id], ?_⟩
  by_cases hwinner : winnerIndex input = some i
  · -- the winner is the first eligible candidate
    have hwin : winner input = some (evaluated input r) := by
      rw [winner, hwinner, Option.bind_some, List.getElem?_eq_getElem hi, heq]
    obtain ⟨w, hw, hisWinner⟩ := winner_spec hwf hwin
    have hid : r.id = w.id := by
      rw [← evaluated_id input r, hw, evaluated_id]
    rw [eq_of_id_eq hwf hr hisWinner.mem hid]
    exact hisWinner.contender.1
  · have hflag : (winnerIndex input == some i) = false := by simpa using hwinner
    rw [hflag, ← heq] at hdecisive
    by_cases hcurrent : stateOf input r = .current
    · refine ⟨hcurrent, fun hheuristic => ?_⟩
      simp [isDecisive, cite, citedDisposition, hcurrent, hheuristic,
        EvidenceSource.isHeuristic] at hdecisive
    · exfalso
      have hdisposition := disposition_of_not_current hcurrent
      simp only [isDecisive, cite, citedDisposition, evaluated_state, hcurrent, hdisposition,
        Bool.false_eq_true, if_false] at hdecisive
      revert hdecisive hcurrent
      cases stateOf input r <;> simp [dispositionForState]

/-- Everything a decision counts is a decisive candidate. -/
theorem decisive_of_counts {id : EvidenceId} (h : Counts (decide input) id) :
    ∃ r ∈ candidateRecords input, r.id = id ∧ Decisive input r := by
  obtain ⟨hid, hselected | ⟨c, hc, hdecisive, rfl⟩ | ⟨k, hk, hside⟩⟩ := h
  · rcases decide_cases hwf with ⟨state, hundecided⟩ | ⟨w, hw, hpublished⟩
    · exact absurd (hselected.symm.trans hundecided.selectedEvidence) hid
    · exact ⟨w, hw.mem, hpublished.selectedEvidence.symm.trans hselected, hw.contender.1⟩
  · exact decisive_of_cited hwf (mem_citations_of_decide hc hdecisive) hdecisive
  · rcases decide_cases hwf with ⟨state, hundecided⟩ | ⟨w, hw, hpublished⟩
    · rw [hundecided.contradictions] at hk
      cases hk
    · obtain ⟨losers, hperm, -, hlisted⟩ := hpublished.contradictions
      rw [hlisted] at hk
      obtain ⟨loser, hloser, rfl⟩ := List.mem_map.mp hk
      rcases hside with hleft | hright
      · exact ⟨w, hw.mem, hleft, hw.contender.1⟩
      · have hopponent := List.mem_filter.mp (hperm.mem_iff.mp hloser)
        exact ⟨loser, hopponent.1, hright, (of_decide_eq_true hopponent.2).1.1⟩

end Counted

end FlowClassifier.EngineCorrect
