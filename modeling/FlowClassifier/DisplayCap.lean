import FlowClassifier.Counted
import FlowClassifier.OrderIndependence

/-!
The consideration cap. It is applied to the citations of a finished verdict, so what a
decision says does not depend on it. Decisive citations are kept whatever the cap is, and
of the others the first are kept while there is room. A winner that fell short of the
publishable threshold is no longer decisive when the cap is applied: it stands first among
the others, and it is shown when there is room for one of them.
-/
namespace FlowClassifier.DisplayCap

open Lib Foundation Evidence Classifications Engine DecisionSpec EngineCorrect Pool
  OrderIndependence

variable {c : Candidate}
variable {input : DecisionInput}

def isShown (c : EvidenceCitation) : Bool := c.disposition != .excludedByLimit

/-- The citations the cap may take from the display. -/
def others (cited : List EvidenceCitation) : List EvidenceCitation :=
  cited.filter fun c => !isDecisive c

def room (cap : UInt32) (cited : List EvidenceCitation) : ℕ :=
  if cited.length ≤ cap.toNat then (others cited).length
  else cap.toNat - cited.countP isDecisive

theorem countP_isDecisive_add (cited : List EvidenceCitation) :
    cited.countP isDecisive + (others cited).length = cited.length := by
  have hperm := (List.filter_append_perm isDecisive cited).length_eq
  rwa [List.length_append, ← List.countP_eq_length_filter] at hperm

/-- The cap as a rearrangement: decisive citations, those with room, and the rest. -/
theorem perm_capCitations_room (cap : UInt32) (cited : List EvidenceCitation) :
    (capCitations cap cited).Perm
      (cited.filter isDecisive ++ (others cited).take (room cap cited) ++
        ((others cited).drop (room cap cited)).map (excludeByLimit cap)) := by
  have hlength := countP_isDecisive_add cited
  have hkept : ∀ budget, budget = (if cited.length > cap.toNat then
        if cap.toNat > (cited.filter isDecisive).length then
          cap.toNat - (cited.filter isDecisive).length else 0
      else (others cited).length) →
      (if (others cited).length < budget then (others cited).length else budget) =
        room cap cited := by
    intro budget hbudget
    rw [← List.countP_eq_length_filter] at hbudget
    unfold room
    split_ifs at hbudget ⊢ <;> omega
  rw [← hkept _ rfl]
  exact perm_sortCitations _

theorem countP_isShown_capCitations (cap : UInt32) {cited : List EvidenceCitation}
    (hshown : ∀ c ∈ cited, isShown c = true) : (capCitations cap cited).countP isShown =
      max (cited.countP isDecisive) (min cited.length cap.toNat) := by
  have hlength := countP_isDecisive_add cited
  have hdecisive : (cited.filter isDecisive).countP isShown = cited.countP isDecisive := by
    rw [List.countP_eq_length.mpr fun c hc => hshown c (List.mem_of_mem_filter hc),
      List.countP_eq_length_filter]
  have htaken : ((others cited).take (room cap cited)).countP isShown = room cap cited := by
    have hall : ∀ c ∈ (others cited).take (room cap cited), isShown c = true :=
      fun c hc => hshown c (List.mem_of_mem_filter (List.mem_of_mem_take hc))
    rw [List.countP_eq_length.mpr hall, List.length_take]
    unfold room
    split_ifs <;> omega
  have hexcluded : (((others cited).drop (room cap cited)).map
      (excludeByLimit cap)).countP isShown = 0 := by
    rw [List.countP_map, List.countP_eq_zero]
    intro c _
    simp [isShown, excludeByLimit]
  rw [(perm_capCitations_room cap cited).countP_eq, List.countP_append, List.countP_append,
    hdecisive, htaken, hexcluded]
  unfold room
  split_ifs <;> omega

/-- The first citation keeps its disposition exactly when it is decisive or there is room. -/
theorem head_capCitations_iff {cap : UInt32} {c : EvidenceCitation}
    {rest : List EvidenceCitation} (hother : ∀ d ∈ rest, d.id ≠ c.id)
    (hdecisive : isDecisive c = false) (hshown : isShown c = true) :
    (∃ d ∈ capCitations cap (c :: rest), d.id = c.id ∧ d.disposition = c.disposition) ↔
      rest.countP isDecisive < cap.toNat := by
  have hothers : others (c :: rest) = c :: others rest := by simp [others, hdecisive]
  have hcount : (c :: rest).countP isDecisive = rest.countP isDecisive := by
    rw [List.countP_cons_of_neg (by simp [hdecisive])]
  have hle : rest.countP isDecisive ≤ rest.length := List.countP_le_length
  have hroom : 0 < room cap (c :: rest) ↔ rest.countP isDecisive < cap.toNat := by
    unfold room
    rw [hothers, hcount, List.length_cons, List.length_cons]
    split_ifs <;> omega
  rw [← hroom]
  constructor
  · rintro ⟨d, hd, hid, hdisposition⟩
    by_contra hzero
    have hnone : room cap (c :: rest) = 0 := by omega
    rw [(perm_capCitations_room cap _).mem_iff, hnone, List.take_zero, List.drop_zero,
      List.append_nil, List.mem_append] at hd
    rcases hd with hkept | hexcluded
    · obtain ⟨hmem, hisDecisive⟩ := List.mem_filter.mp hkept
      rcases List.mem_cons.mp hmem with rfl | hrest
      · rw [hdecisive] at hisDecisive
        cases hisDecisive
      · exact hother d hrest hid
    · obtain ⟨e, -, rfl⟩ := List.mem_map.mp hexcluded
      rw [isShown, ← hdisposition] at hshown
      simp [excludeByLimit] at hshown
  · intro hpos
    refine ⟨c, (perm_capCitations_room cap _).mem_iff.mpr ?_, rfl, rfl⟩
    obtain ⟨k, hk⟩ := Nat.exists_eq_succ_of_ne_zero hpos.ne'
    rw [hothers, hk, List.take_succ_cons]
    simp

def uncapped (input : DecisionInput) : List EvidenceCitation := (verdict input).citations

theorem decide_citations (input : DecisionInput) : (Engine.decide input).citations =
      capCitations input.policy.maxEvidenceConsidered (uncapped input) :=
  finalCheck_citations (capped input)

theorem uncapped_of_no_winner (h : winner input = none) : uncapped input = citations input := by
  rw [uncapped, verdict, h]
  rfl

theorem uncapped_of_winner {w : Candidate} (h : winner input = some w) :
    uncapped input =
      if FallsShort input.policy w.record !(contradictions input w).isEmpty then
        (citations input).map (belowThreshold w.record)
      else citations input := by
  rw [uncapped, verdict, h]
  exact winnerVerdict_citations input w

/-- A candidate that is not CURRENT is not counted. -/
theorem disposition_of_mem_pool (hc : c ∈ pool input) (hstate : c.record.state ≠ .current) :
    c.disposition ≠ .selected ∧ c.disposition ≠ .contradicting ∧
      c.disposition ≠ .corroborating := by
  obtain ⟨r, rfl | rfl⟩ := mem_pool hc
  · rw [evaluated_state] at hstate
    rw [disposition_of_not_current hstate]
    revert hstate
    cases stateOf input r <;> simp [dispositionForState]
  · simp [rejectedCandidate]

theorem isShown_cite (hc : c ∈ pool input)
    (w : Option Candidate) (isWinner : Bool) : isShown (cite w isWinner c) = true := by
  have hdisposition : c.disposition ≠ .excludedByLimit := by
    obtain ⟨r, rfl | rfl⟩ := mem_pool hc
    · by_cases hcurrent : stateOf input r = .current
      · by_cases hheuristic : r.source = .heuristic
        · simp [disposition_of_heuristic hcurrent hheuristic]
        · simp [(evaluation input r).selected.mpr ⟨hcurrent, hheuristic⟩]
      · rw [disposition_of_not_current hcurrent]
        cases stateOf input r <;> decide
    · simp [rejectedCandidate]
  rw [isShown, bne_iff_ne]
  show citedDisposition w isWinner c ≠ _
  unfold citedDisposition
  cases w <;> dsimp only <;> split_ifs <;> first | exact hdisposition | decide

theorem isShown_uncapped : ∀ c ∈ uncapped input, isShown c = true := by
  have hcited : ∀ c ∈ citations input, isShown c = true := by
    intro c hc
    obtain ⟨i, hi, rfl⟩ := List.mem_mapIdx.mp ((perm_sortCitations _).mem_iff.mp hc)
    exact isShown_cite ((perm_pool input).mem_iff.mp (List.getElem_mem hi)) _ _
  cases hwin : winner input with
  | none =>
    rw [uncapped_of_no_winner hwin]
    exact hcited
  | some w =>
    rw [uncapped_of_winner hwin]
    split_ifs
    · intro c hc
      obtain ⟨d, hd, rfl⟩ := List.mem_map.mp hc
      unfold belowThreshold
      split_ifs
      · rfl
      · exact hcited d hd
    · exact hcited

theorem ids_pool (input : DecisionInput) :
    (pool input).map (·.record.id) = (assemble input).map (·.record.id) := by
  rw [pool, List.map_map]
  exact List.map_congr_left fun c _ => evaluate_id input c

theorem ids_uncapped (input : DecisionInput) :
    ((uncapped input).map EvidenceCitation.id).Perm ((assemble input).map (·.record.id)) := by
  have hcited : ((citations input).map EvidenceCitation.id).Perm
      ((assemble input).map (·.record.id)) := by
    rw [← ids_pool]
    exact ids_citations_sorted.trans ((perm_pool input).map _)
  cases hwin : winner input with
  | none => rwa [uncapped_of_no_winner hwin]
  | some w =>
    rw [uncapped_of_winner hwin]
    split_ifs
    · rwa [ids_belowThreshold]
    · exact hcited

theorem length_uncapped (input : DecisionInput) :
    (uncapped input).length = (assemble input).length := by
  simpa using (ids_uncapped input).length_eq

/-- A cap that is at least the number of candidates takes nothing away. -/
theorem perm_uncapped (h : (assemble input).length ≤ input.policy.maxEvidenceConsidered.toNat) :
    (Engine.decide input).citations.Perm (uncapped input) := by
  rw [← length_uncapped] at h
  rw [decide_citations]
  refine (perm_capCitations_room _ _).trans ?_
  rw [room, if_pos h, List.take_length, List.drop_length, List.map_nil, List.append_nil]
  exact List.filter_append_perm isDecisive _

def withCap (input : DecisionInput) (cap : UInt32) : DecisionInput :=
  { input with policy := { input.policy with maxEvidenceConsidered := cap } }

section WithCap

variable (input : DecisionInput) (cap : UInt32)

theorem sortedCandidates_withCap :
    sortedCandidates (withCap input cap) = sortedCandidates input := by
  have hpool : pool (withCap input cap) = pool input :=
    pool_congr rfl rfl (fun _ => rfl) (fun _ => rfl) fun _ => rfl
  exact congrArg (List.insertionSort fun a b => candidateBefore b a = false) hpool

theorem winnerIndex_withCap : winnerIndex (withCap input cap) = winnerIndex input := by
  rw [winnerIndex, winnerIndex, sortedCandidates_withCap]
  rfl

theorem winner_withCap : winner (withCap input cap) = winner input := by
  rw [winner, winner, winnerIndex_withCap, sortedCandidates_withCap]

theorem contradictions_withCap (w : Candidate) :
    contradictions (withCap input cap) w = contradictions input w := by
  rw [contradictions, contradictions, sortedCandidates_withCap]

theorem uncapped_withCap : uncapped (withCap input cap) = uncapped input := by
  have hcited : citations (withCap input cap) = citations input := by
    rw [citations, citations, sortedCandidates_withCap, winner_withCap, winnerIndex_withCap]
  cases hwin : winner input with
  | none =>
    rw [uncapped_of_no_winner hwin, uncapped_of_no_winner ((winner_withCap input cap).trans hwin),
      hcited]
  | some w =>
    rw [uncapped_of_winner hwin, uncapped_of_winner ((winner_withCap input cap).trans hwin),
      hcited, contradictions_withCap]
    rfl

theorem outcome_withCap :
    outcome (Engine.decide (withCap input cap)) = outcome (Engine.decide input) := by
  have hcount : corroboration (withCap input cap) = corroboration input := by
    rw [corroboration, corroboration, sortedCandidates_withCap, winner_withCap, winnerIndex_withCap]
  cases hwin : winner input with
  | none =>
    rw [outcome_of_no_winner hwin, outcome_of_no_winner ((winner_withCap input cap).trans hwin),
      show pool (withCap input cap) = pool input from
        pool_congr rfl rfl (fun _ => rfl) (fun _ => rfl) fun _ => rfl]
    rfl
  | some w =>
    rw [outcome_of_winner hwin, outcome_of_winner ((winner_withCap input cap).trans hwin),
      contradictions_withCap, hcount]
    rfl

end WithCap

/-- What the cap may do to the citations of a decision. -/
structure Displays (input : DecisionInput) (cap : UInt32) (d : Classification) : Prop where
  /-- Every candidate is cited exactly once. -/
  cited : (d.citations.map EvidenceCitation.id).Perm ((assemble input).map (·.record.id))
  distinct : (d.citations.map EvidenceCitation.id).Nodup
  /-- Decisive citations stay as they are. -/
  decisive : ∀ c ∈ uncapped input, isDecisive c = true → ∀ e ∈ d.citations, e.id = c.id → e = c
  shown : d.citations.countP isShown =
    max ((uncapped input).countP isDecisive) (min (assemble input).length cap.toNat)

theorem displays_withCap (hids : (input.evidence.map EvidenceRecord.id).Nodup) (cap : UInt32) :
    Displays input cap (Engine.decide (withCap input cap)) := by
  have hcitations : (Engine.decide (withCap input cap)).citations =
      capCitations cap (uncapped input) := by
    rw [decide_citations, uncapped_withCap]
    rfl
  have hcited : ((Engine.decide (withCap input cap)).citations.map EvidenceCitation.id).Perm
      ((assemble input).map (·.record.id)) := by
    rw [hcitations]
    exact (ids_capCitations _ _).trans (ids_uncapped input)
  have hdistinct : ((Engine.decide (withCap input cap)).citations.map
      EvidenceCitation.id).Nodup := by
    have hpool := nodup_poolIds hids
    rw [ids_pool] at hpool
    exact hcited.nodup_iff.mpr hpool
  refine ⟨hcited, hdistinct, fun c hc hdecisive e he hid => ?_, ?_⟩
  · have hkept : c ∈ (Engine.decide (withCap input cap)).citations := by
      rw [hcitations]
      exact mem_capCitations hc hdecisive
    exact List.inj_on_of_nodup_map hdistinct he hkept hid
  · rw [hcitations, countP_isShown_capCitations cap isShown_uncapped, length_uncapped]

/-- Two caps give decisions that say the same, and each only changes how citations that
are not decisive are shown. -/
theorem cap_only_affects_display {input : DecisionInput}
    (hids : (input.evidence.map EvidenceRecord.id).Nodup) (cap cap' : UInt32) :
    outcome (Engine.decide (withCap input cap)) = outcome (Engine.decide (withCap input cap')) ∧
      Displays input cap (Engine.decide (withCap input cap)) ∧
      Displays input cap' (Engine.decide (withCap input cap')) := by
  refine ⟨?_, displays_withCap hids cap, displays_withCap hids cap'⟩
  rw [outcome_withCap, outcome_withCap]

theorem cap_only_affects_display_sample :
    outcome (Engine.decide (withCap sampleInput 1)) =
        outcome (Engine.decide (withCap sampleInput 4)) ∧
      Displays sampleInput 1 (Engine.decide (withCap sampleInput 1)) ∧
      Displays sampleInput 4 (Engine.decide (withCap sampleInput 4)) :=
  cap_only_affects_display (by decide +kernel) 1 4

section FellShort

variable (hids : (input.evidence.map EvidenceRecord.id).Nodup)
  {w : Candidate} (hwin : winner input = some w)

include hids hwin

theorem perm_citations_winner : (citations input).Perm ((pool input).map fun c =>
    cite (some w) (Decidable.decide (c.record.id = w.record.id)) c) := by
  obtain ⟨k, hk, hget⟩ := Option.bind_eq_some_iff.mp hwin
  have hnd : ((sortedCandidates input).map (·.record.id)).Nodup :=
    ((perm_pool input).map _).nodup_iff.mpr (nodup_poolIds hids)
  refine (perm_sortCitations _).trans ?_
  rw [hwin, hk, mapIdx_at_eq_map hnd hget fun flag c => cite (some w) flag c]
  exact (perm_pool input).map _

theorem eq_winner_of_id (hc : c ∈ pool input) (hid : c.record.id = w.record.id) : c = w :=
  List.inj_on_of_nodup_map (nodup_poolIds hids) hc (leads_of_winner hwin).2.mem hid

omit hids hwin in
theorem citedDisposition_other (w c : Candidate) :
    citedDisposition (some w) false c =
      if c.record.state = .current then
        if c.record.source.isHeuristic then .subordinate
        else if c.record.semantic = w.record.semantic then .corroborating
        else if c.record.semantic = .unknown then .subordinate
        else .contradicting
      else c.disposition :=
  if_neg Bool.false_ne_true

omit hids hwin in
/-- Only the winner is cited as selected. -/
theorem id_of_selected (hc : c ∈ pool input)
    (h : (cite (some w) (Decidable.decide (c.record.id = w.record.id)) c).disposition =
      .selected) : c.record.id = w.record.id := by
  by_contra hne
  rw [decide_eq_false hne] at h
  change citedDisposition (some w) false c = _ at h
  rw [citedDisposition_other] at h
  split_ifs at h with hcurrent
  exact hcurrent (selected_of_mem_pool hc h).1

/-- The decisive citations are those of the candidates that could have won. -/
theorem isDecisive_cite (hc : c ∈ pool input) :
    isDecisive (cite (some w) (Decidable.decide (c.record.id = w.record.id)) c) = eligible c := by
  have hleads := (leads_of_winner hwin).2
  by_cases hid : c.record.id = w.record.id
  · rw [decide_eq_true hid, eq_winner_of_id hids hwin hc hid, hleads.eligible]
    rfl
  rw [decide_eq_false hid]
  by_cases hcurrent : c.record.state = .current
  · by_cases hheuristic : c.record.source = .heuristic
    · have hnot : eligible c = false := by
        rw [← Bool.not_eq_true]
        exact fun h => (selected_of_mem_pool hc (selected_of_eligible h).1).2 hheuristic
      rw [hnot]
      simp [isDecisive, cite, citedDisposition_other, hcurrent, hheuristic,
        EvidenceSource.isHeuristic]
    · by_cases hunknown : c.record.semantic = .unknown
      · have hother : SemanticClass.unknown ≠ w.record.semantic :=
          (selected_of_eligible hleads.eligible).2.symm
        simp [isDecisive, cite, citedDisposition_other, hcurrent, hheuristic, hunknown, hother,
          eligible, EvidenceSource.isHeuristic]
      · rw [eligible_of_mem_pool hids hc hcurrent hheuristic hunknown]
        by_cases hsame : c.record.semantic = w.record.semantic
        · simp [isDecisive, cite, citedDisposition_other, hcurrent, hheuristic, hsame,
            EvidenceSource.isHeuristic]
        · simp [isDecisive, cite, citedDisposition_other, hcurrent, hheuristic, hunknown, hsame,
            EvidenceSource.isHeuristic]
  · obtain ⟨hselected, hcontradicting, hcorroborating⟩ := disposition_of_mem_pool hc hcurrent
    simp only [isDecisive, cite, citedDisposition_other, if_neg hcurrent, eligible,
      beq_eq_false_iff_ne.mpr hselected, beq_eq_false_iff_ne.mpr hcontradicting,
      beq_eq_false_iff_ne.mpr hcorroborating, Bool.or_false, Bool.false_and]

theorem countP_isDecisive_citations :
    (citations input).countP isDecisive = (pool input).countP eligible := by
  rw [(perm_citations_winner hids hwin).countP_eq, List.countP_map]
  refine List.countP_congr fun c hc => ?_
  rw [Function.comp_apply, isDecisive_cite hids hwin hc]

/-- The winner is cited first, and once. -/
theorem citations_eq_cons : ∃ rest, citations input = cite (some w) true w :: rest ∧
    ∀ d ∈ rest, d.id ≠ w.record.id := by
  have hmem := mem_citations_winner hwin
  have hsorted : (citations input).Pairwise fun a b => citationKey a ≤ citationKey b := by
    refine pairwise_insertionSort_key _ citationKey (fun a b => ?_) _
    rw [← Bool.not_eq_true, citationBefore_iff, not_lt]
  have hnodup : ((citations input).map EvidenceCitation.id).Nodup := by
    have hsame := ids_citations_sorted.trans ((perm_pool input).map (·.record.id))
    exact hsame.nodup_iff.mpr (nodup_poolIds hids)
  have hall := (perm_citations_winner hids hwin).subset
  revert hmem hsorted hnodup hall
  cases citations input with
  | nil => exact fun hmem => absurd hmem List.not_mem_nil
  | cons x rest =>
    intro hmem hsorted hnodup hall
    have hx : x = cite (some w) true w := by
      rcases List.mem_cons.mp hmem with heq | hrest
      · exact heq.symm
      · -- what is listed before a selected citation is selected
        have hle := (List.pairwise_cons.mp hsorted).1 _ hrest
        have hcode : x.disposition.code ≤ 0 := by
          rcases Prod.Lex.toLex_le_toLex.mp hle with hlt | ⟨heq, -⟩
          · exact hlt.le
          · exact heq.le
        have hselected : x.disposition = .selected := by
          revert hcode
          cases x.disposition <;> decide
        obtain ⟨c, hc, rfl⟩ := List.mem_map.mp (hall List.mem_cons_self)
        have hid := id_of_selected hc hselected
        rw [decide_eq_true hid, eq_winner_of_id hids hwin hc hid]
    subst hx
    refine ⟨rest, rfl, fun d hd hid => ?_⟩
    rw [List.map_cons, List.nodup_cons] at hnodup
    exact hnodup.1 (List.mem_map.mpr ⟨d, hd, hid⟩)

end FellShort

def contenders (input : DecisionInput) : List EvidenceRecord :=
  ((assemble input).map Candidate.record).filter (Contender input ·)

theorem length_contenders (hids : (input.evidence.map EvidenceRecord.id).Nodup) :
    (contenders input).length = (pool input).countP eligible := by
  rw [contenders, ← List.countP_eq_length_filter, List.countP_map, pool, List.countP_map]
  refine List.countP_congr fun c hc => ?_
  have hevaluated : evaluate input c = evaluated input c.record :=
    congrArg (evaluate input) (fresh_of_mem_assemble hids hc)
  rw [Function.comp_apply, Function.comp_apply, hevaluated, eligible_evaluated, decide_eq_true_iff]

/-- A winner that falls short is cited as below the threshold exactly when the cap is not
exceeded by the candidates that could have won. -/
theorem fell_short_shown_iff {input : DecisionInput}
    (hids : (input.evidence.map EvidenceRecord.id).Nodup) {w : Candidate}
    (hwin : winner input = some w)
    (hshort : FallsShort input.policy w.record ((pool input).any (contradicts w))) :
    (∃ c ∈ (Engine.decide input).citations,
        c.id = w.record.id ∧ c.disposition = .belowThreshold) ↔
      (contenders input).length ≤ input.policy.maxEvidenceConsidered.toNat := by
  obtain ⟨rest, hcitations, hother⟩ := citations_eq_cons hids hwin
  have hcount := countP_isDecisive_citations hids hwin
  rw [hcitations, List.countP_cons_of_pos rfl] at hcount
  have hrest : rest.map (belowThreshold w.record) = rest :=
    (List.map_congr_left fun d hd => if_neg (hother d hd)).trans (List.map_id rest)
  have huncapped : uncapped input = belowThreshold w.record (cite (some w) true w) :: rest := by
    rw [uncapped_of_winner hwin, isEmpty_contradictions, if_pos hshort, hcitations,
      List.map_cons, hrest]
  have hbelow : belowThreshold w.record (cite (some w) true w) =
      { cite (some w) true w with
        disposition := .belowThreshold
        detail := text "confidence below the publishable threshold; class reported as UNKNOWN" } :=
    if_pos rfl
  rw [decide_citations, huncapped, hbelow, length_contenders hids, ← hcount]
  exact head_capCitations_iff hother rfl rfl

def shortInput (cap : UInt32) : DecisionInput :=
  withCap { sampleInput with
    policy := { sampleInput.policy with minimumPublishableConfidence := 10000 } } cap

def fallsShortAs (input : DecisionInput) (id : EvidenceId) : Bool :=
  (winner input).any fun w => w.record.id == id &&
    Decidable.decide
      (FallsShort input.policy w.record ((pool input).any (contradicts w)))

theorem fell_short_shown_sample :
    fallsShortAs (shortInput 3) (.make (text "evd-a")) = true ∧
      ∃ c ∈ (Engine.decide (shortInput 3)).citations,
        c.id = .make (text "evd-a") ∧ c.disposition = .belowThreshold := by
  have hshort : fallsShortAs (shortInput 3) (.make (text "evd-a")) = true := by decide +kernel
  refine ⟨hshort, ?_⟩
  obtain ⟨w, hwin, hw⟩ := Option.any_eq_true _ _ |>.mp hshort
  rw [Bool.and_eq_true, beq_iff_eq, decide_eq_true_iff] at hw
  rw [← hw.1]
  exact (fell_short_shown_iff (by decide +kernel) hwin hw.2).mpr (by decide +kernel)

/-- Under a cap of two, which a policy may set, the winner is excluded by the limit. -/
theorem fell_short_excluded :
    (shortInput 2).policy.canonicalize.toBool = true ∧
      ((shortInput 2).evidence.map EvidenceRecord.id).Nodup ∧
      fallsShortAs (shortInput 2) (.make (text "evd-a")) = true ∧
      ∀ c ∈ (Engine.decide (shortInput 2)).citations,
        c.id = .make (text "evd-a") → c.disposition = .excludedByLimit := by
  decide +kernel

end FlowClassifier.DisplayCap
