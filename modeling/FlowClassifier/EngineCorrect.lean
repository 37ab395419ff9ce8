import FlowClassifier.DecisionSpec

/-!
The passes of the engine compute the specified decision. The sorted candidates are the
evaluated candidate records, so the first eligible one is the winner and each later pass
is a filter or a count over the candidate records.
-/
namespace FlowClassifier.EngineCorrect

open Lib Foundation Hash Evidence Flows Workloads Classifications Engine DecisionSpec

variable {w : EvidenceRecord}

theorem length_assembleEvidence (seen : List EvidenceId) (records : List EvidenceRecord) :
    (assembleEvidence seen records).length = records.length := by
  induction records generalizing seen with
  | nil => rfl
  | cons r rest ih =>
    rw [assembleEvidence]
    split_ifs
    · rw [List.length_cons, List.length_cons, ih]
    · rw [List.length_cons, List.length_cons, ih]

section Evaluated

variable (input : DecisionInput) (r : EvidenceRecord)

@[simp] theorem evaluated_id : (evaluated input r).record.id = r.id := by
  rw [(evaluation input r).record]

@[simp] theorem evaluated_source : (evaluated input r).record.source = r.source := by
  rw [(evaluation input r).record]

@[simp] theorem evaluated_semantic : (evaluated input r).record.semantic = r.semantic := by
  rw [(evaluation input r).record]

@[simp] theorem evaluated_confidence : (evaluated input r).record.confidence = r.confidence := by
  rw [(evaluation input r).record]

@[simp] theorem evaluated_state : (evaluated input r).record.state = stateOf input r := by
  rw [(evaluation input r).record]

@[simp] theorem rankKey_evaluated : rankKey (evaluated input r).record = rankKey r := by
  rw [(evaluation input r).record]
  rfl

theorem eligible_evaluated : eligible (evaluated input r) = true ↔ Contender input r := by
  simp [eligible, Contender, (evaluation input r).selected]

end Evaluated

section Passes

variable {input : DecisionInput} (hwf : WellFormed input)

include hwf

theorem perm_sortedCandidates :
    (sortedCandidates input).Perm ((candidateRecords input).map (evaluated input)) := by
  have h := List.perm_insertionSort (fun a b => candidateBefore b a = false)
    ((assemble input).map (evaluate input))
  rw [assemble_eq hwf, List.map_map] at h
  rw [sortedCandidates, assemble_eq hwf, List.map_map]
  exact h

theorem mem_sortedCandidates {c : Candidate} :
    c ∈ sortedCandidates input ↔ ∃ r ∈ candidateRecords input, evaluated input r = c := by
  rw [(perm_sortedCandidates hwf).mem_iff, List.mem_map]

theorem nodup_sortedIds : ((sortedCandidates input).map (·.record.id)).Nodup := by
  have hperm := (perm_sortedCandidates hwf).map (·.record.id)
  rw [List.map_map] at hperm
  refine hperm.nodup_iff.mpr ?_
  simpa [Function.comp_def] using nodup_candidateIds hwf

omit hwf in
theorem pairwise_sortedCandidates :
    (sortedCandidates input).Pairwise fun a b => candidateKey a ≤ candidateKey b :=
  pairwise_insertionSort_key _ candidateKey candidateBefore_false_iff _

omit hwf in
theorem winner_eq_find? : winner input =
    if input.generationRevoked then none else (sortedCandidates input).find? eligible := by
  rw [winner, winnerIndex]
  split_ifs
  · rfl
  · exact findIdx?_bind_getElem? _ _

/-- The first eligible candidate is the evaluation of the specified winner. -/
theorem winner_spec {c : Candidate} (h : winner input = some c) :
    ∃ w, c = evaluated input w ∧ IsWinner input w := by
  rw [winner_eq_find?] at h
  split_ifs at h
  obtain ⟨hmem, helig, hleast⟩ := find?_le_of_pairwise pairwise_sortedCandidates h
  obtain ⟨w, hw, rfl⟩ := (mem_sortedCandidates hwf).mp hmem
  have hcontender := (eligible_evaluated input w).mp helig
  refine ⟨w, rfl, hw, hcontender, ?_⟩
  intro r hr hrc hne
  have hle := hleast _ ((mem_sortedCandidates hwf).mpr ⟨r, hr, rfl⟩)
    ((eligible_evaluated input r).mpr hrc)
  have hselw := (evaluation input w).selected.mpr hcontender.1
  have hselr := (evaluation input r).selected.mpr hrc.1
  -- both are selected, so the keys compare by rank
  have hrank : rankKey w ≤ rankKey r := by
    simpa [candidateKey, hselw, hselr, Prod.Lex.toLex_le_toLex] using hle
  rw [evidenceOutranks_iff]
  refine lt_of_le_of_ne hrank fun heq => hne ?_
  exact (eq_of_id_eq hwf hw hr (rankKey_eq_iff_id heq)).symm

omit hwf in
theorem IsWinner.unique {v : EvidenceRecord} (hw : IsWinner input w) (hv : IsWinner input v) :
    w = v := by
  by_contra hne
  have hwv := hw.outranks v hv.mem hv.contender (Ne.symm hne)
  have hvw := hv.outranks w hw.mem hw.contender hne
  rw [evidenceOutranks_iff] at hwv hvw
  exact lt_asymm hwv hvw

theorem exists_winner (hrev : input.generationRevoked = false)
    (h : ∃ r ∈ candidateRecords input, Contender input r) :
    ∃ w, IsWinner input w ∧ winner input = some (evaluated input w) := by
  obtain ⟨r, hr, hc⟩ := h
  have hsome : ((sortedCandidates input).find? eligible).isSome := by
    rw [List.find?_isSome]
    exact ⟨_, (mem_sortedCandidates hwf).mpr ⟨r, hr, rfl⟩, (eligible_evaluated input r).mpr hc⟩
  obtain ⟨c, hfind⟩ := Option.isSome_iff_exists.mp hsome
  have hwin : winner input = some c := by
    rw [winner_eq_find?, hrev, if_neg (by simp), hfind]
  obtain ⟨w, rfl, hw⟩ := winner_spec hwf hwin
  exact ⟨w, hw, hwin⟩

theorem winner_of_isWinner (hrev : input.generationRevoked = false)
    (hw : IsWinner input w) : winner input = some (evaluated input w) := by
  obtain ⟨v, hv, hwin⟩ := exists_winner hwf hrev ⟨w, hw.mem, hw.contender⟩
  rw [hwin, IsWinner.unique hv hw]

theorem winner_eq_none (h : ∀ r ∈ candidateRecords input, ¬ Contender input r) :
    winner input = none := by
  cases hwin : winner input with
  | none => rfl
  | some c =>
    obtain ⟨w, -, hw⟩ := winner_spec hwf hwin
    exact absurd hw.contender (h w hw.mem)

/-- With a winner, the flag of the citation loop is a test on the identity. -/
theorem mapIdx_winner {β : Type} {w : Candidate} (hwin : winner input = some w)
    (f : Bool → Candidate → β) :
    ((sortedCandidates input).mapIdx fun i c => f (winnerIndex input == some i) c) =
      (sortedCandidates input).map fun c => f (Decidable.decide (c.record.id = w.record.id)) c := by
  obtain ⟨i, hi, hget⟩ := Option.bind_eq_some_iff.mp hwin
  rw [hi]
  exact mapIdx_at_eq_map (nodup_sortedIds hwf) hget f

theorem corroboration_eq (hwin : winner input = some (evaluated input w)) :
    corroboration input = (supporters input w).length := by
  have hcount := (perm_sortedCandidates hwf).countP_eq fun c =>
    corroborates (some (evaluated input w)) (Decidable.decide (c.record.id = w.id)) c
  rw [corroboration, mapIdx_winner hwf hwin, hwin, List.count_eq_countP, List.countP_map]
  simp only [evaluated_id, Function.comp_def, beq_true]
  rw [hcount, List.countP_map, supporters, ← List.countP_eq_length_filter]
  refine List.countP_congr fun r _ => ?_
  rw [decide_eq_true_iff]
  simp only [Function.comp_apply, corroborates, evaluated_id, evaluated_state, evaluated_source,
    evaluated_semantic, EvidenceSource.isHeuristic, Bool.and_eq_true, Bool.not_eq_true',
    decide_eq_false_iff_not, beq_iff_eq, beq_eq_false_iff_ne, Decisive]
  tauto

omit hwf in
theorem contradicts_evaluated (w r : EvidenceRecord) :
    contradicts (evaluated input w) (evaluated input r) = true ↔
      Contender input r ∧ r.semantic ≠ w.semantic := by
  simp only [contradicts, evaluated_state, evaluated_source, evaluated_semantic,
    EvidenceSource.isHeuristic, Bool.and_eq_true, Bool.not_eq_true', beq_iff_eq,
    beq_eq_false_iff_ne, bne_iff_ne, Contender, Decisive]
  tauto

def rankedOpponents (input : DecisionInput) (w : EvidenceRecord) : List EvidenceRecord :=
  (opponents input w).insertionSort fun a b => evidenceOutranks b a = false

theorem filter_contradicts_perm (w : EvidenceRecord) :
    ((sortedCandidates input).filter (contradicts (evaluated input w))).Perm
      ((opponents input w).map (evaluated input)) := by
  have h := (perm_sortedCandidates hwf).filter (contradicts (evaluated input w))
  rw [List.filter_map] at h
  have hcongr : (candidateRecords input).filter
      (contradicts (evaluated input w) ∘ evaluated input) = opponents input w := by
    refine List.filter_congr fun r _ => ?_
    rw [Bool.eq_iff_iff, Function.comp_apply, contradicts_evaluated, decide_eq_true_iff]
  rwa [hcongr] at h

theorem contradictions_eq (w : EvidenceRecord) : contradictions input (evaluated input w) =
      (rankedOpponents input w).map (contradictionOf w) := by
  have hsort := insertionSort_eq_of_perm
    (fun a b : Candidate => evidenceOutranks b.record a.record = false)
    (fun c => rankKey c.record) (fun a b => evidenceOutranks_false_iff a.record b.record)
    (filter_contradicts_perm hwf w) ?_
  · rw [contradictions_insertion, hsort, ← List.map_insertionSort
      (fun a b : EvidenceRecord => evidenceOutranks b a = false), List.map_map]
    · refine List.map_congr_left fun r _ => ?_
      simp [contradictionOf]
    · intro a _ b _
      simp [evidenceOutranks_false_iff]
  · -- distinct identities make the ranks distinct
    intro a ha b hb hab
    obtain ⟨r, hr, rfl⟩ := (mem_sortedCandidates hwf).mp (List.mem_of_mem_filter ha)
    obtain ⟨s, hs, rfl⟩ := (mem_sortedCandidates hwf).mp (List.mem_of_mem_filter hb)
    simp only [rankKey_evaluated] at hab
    rw [eq_of_id_eq hwf hr hs (rankKey_eq_iff_id hab)]

omit hwf in
theorem rankedOpponents_perm (w : EvidenceRecord) :
    (rankedOpponents input w).Perm (opponents input w) :=
  List.perm_insertionSort _ _

theorem rankedOpponents_pairwise (w : EvidenceRecord) :
    (rankedOpponents input w).Pairwise fun a b => evidenceOutranks a b = true := by
  have hsorted : (rankedOpponents input w).Pairwise fun a b => rankKey a ≤ rankKey b :=
    pairwise_insertionSort_key _ rankKey evidenceOutranks_false_iff _
  have hids : ((rankedOpponents input w).map EvidenceRecord.id).Nodup := by
    refine ((rankedOpponents_perm w).map _).nodup_iff.mpr ?_
    exact (nodup_candidateIds hwf).sublist (List.filter_sublist.map _)
  have hkeys : ((rankedOpponents input w).map rankKey).Nodup := by
    refine List.Nodup.map_on ?_ hids.of_map
    intro a ha b hb hab
    exact List.inj_on_of_nodup_map hids ha hb (rankKey_eq_iff_id hab)
  exact (pairwise_lt_of_nodup_key hsorted hkeys).imp fun h => (evidenceOutranks_iff _ _).mpr h

theorem contradictions_isEmpty (w : EvidenceRecord) :
    (contradictions input (evaluated input w)).isEmpty =
      Decidable.decide (opponents input w = []) := by
  rw [contradictions_eq hwf, List.isEmpty_map, (rankedOpponents_perm w).isEmpty_eq,
    Bool.eq_iff_iff, List.isEmpty_iff, decide_eq_true_iff]

section Display

omit hwf

theorem perm_sortCitations (cited : List EvidenceCitation) : (sortCitations cited).Perm cited :=
  List.perm_insertionSort _ _

/-- The cap rewrites dispositions but drops no citation. -/
theorem perm_capCitations {β : Type} {f : EvidenceCitation → β} {cap : UInt32}
    (hf : f ∘ excludeByLimit cap = f) (cited : List EvidenceCitation) :
    ((capCitations cap cited).map f).Perm (cited.map f) := by
  have hsplit := (List.filter_append_perm isDecisive cited).map f
  have hrejoin : ∀ n (dropped : List EvidenceCitation),
      (dropped.take n).map f ++ (dropped.drop n).map f = dropped.map f := by
    intro n dropped
    rw [← List.map_append, List.take_append_drop]
  refine ((perm_sortCitations _).map _).trans ?_
  simp only [List.map_append, List.map_map, hf, List.append_assoc, hrejoin]
  rwa [List.map_append] at hsplit

theorem ids_capCitations (cap : UInt32) (cited : List EvidenceCitation) :
    ((capCitations cap cited).map EvidenceCitation.id).Perm (cited.map EvidenceCitation.id) :=
  perm_capCitations rfl cited

theorem mem_capCitations {cap : UInt32} {cited : List EvidenceCitation} {c : EvidenceCitation}
    (hc : c ∈ cited) (hdecisive : isDecisive c = true) : c ∈ capCitations cap cited := by
  refine (perm_sortCitations _).mem_iff.mpr ?_
  simp only [List.mem_append, List.mem_filter]
  exact Or.inl (Or.inl ⟨hc, hdecisive⟩)

theorem perm_citations {β : Type} {f : EvidenceCitation → β} {g : Candidate → β}
    (hfg : ∀ w isWinner c, f (cite w isWinner c) = g c) :
    ((citations input).map f).Perm ((sortedCandidates input).map g) := by
  refine ((perm_sortCitations _).map _).trans ?_
  have hparts : (((sortedCandidates input).mapIdx fun i c =>
      cite (winner input) (winnerIndex input == some i) c).map f) =
      (sortedCandidates input).map g := by
    apply List.ext_getElem?
    intro i
    simp [hfg, Function.comp_def]
  rw [hparts]

theorem ids_citations_sorted : ((citations input).map EvidenceCitation.id).Perm
      ((sortedCandidates input).map (·.record.id)) :=
  perm_citations fun _ _ _ => rfl

theorem ids_belowThreshold (w : EvidenceRecord) (cited : List EvidenceCitation) :
    (cited.map (belowThreshold w)).map EvidenceCitation.id = cited.map EvidenceCitation.id := by
  rw [List.map_map]
  refine List.map_congr_left fun c _ => ?_
  rw [Function.comp_apply, belowThreshold]
  split_ifs <;> rfl

theorem finalCheck_citations (c : Classification) : (finalCheck c).citations = c.citations := by
  unfold finalCheck
  split_ifs <;> rfl

def capped (input : DecisionInput) : Classification :=
  { verdict input with
    citations := capCitations input.policy.maxEvidenceConsidered (verdict input).citations }

theorem decide_eq_of_justified
    (h : (verdict input).semantic = .unknown ∨ justified (capped input) = true) :
    decide input = withDigest (capped input) := by
  have hpass : ¬ ((capped input).semantic ≠ .unknown ∧ (capped input).state ≠ .revoked ∧
      justified (capped input) = false) := by
    rintro ⟨hsem, -, hjust⟩
    rcases h with hunknown | hjustified
    · exact hsem hunknown
    · rw [hjustified] at hjust
      exact absurd hjust (by simp)
  have hcheck : finalCheck (capped input) = capped input := if_neg hpass
  exact congrArg withDigest hcheck

end Display

theorem ids_citations : ((citations input).map EvidenceCitation.id).Perm
      ((candidateRecords input).map EvidenceRecord.id) := by
  refine ids_citations_sorted.trans ?_
  have hperm := (perm_sortedCandidates hwf).map (·.record.id)
  simpa [Function.comp_def] using hperm

theorem mem_citations (hw : w ∈ candidateRecords input)
    (hwin : winner input = some (evaluated input w)) :
    cite (some (evaluated input w)) true (evaluated input w) ∈ citations input := by
  refine (perm_sortCitations _).mem_iff.mpr ?_
  rw [mapIdx_winner hwf hwin fun flag c => cite (winner input) flag c, hwin]
  refine List.mem_map.mpr ⟨evaluated input w, (mem_sortedCandidates hwf).mpr ⟨w, hw, rfl⟩, ?_⟩
  simp

/-- The confidence compared with the threshold is the penalised confidence. -/
theorem verdict_confidence (w : EvidenceRecord) :
    (if (contradictions input (evaluated input w)).isEmpty then
        w.confidence.weaker w.source.confidence
      else (w.confidence.weaker w.source.confidence).reducedBy
        input.policy.contradictionPenalty.toNat).basisPoints = penalised input w := by
  rw [contradictions_isEmpty hwf, penalised]
  by_cases hnone : opponents input w = []
  · simp [hnone, Confidence.basisPoints_weaker]
  · simp [hnone, Confidence.basisPoints_weaker, Confidence.basisPoints_reducedBy]

theorem winnerVerdict_published (hwin : winner input = some (evaluated input w))
    (hle : input.policy.minimumPublishableConfidence.toNat ≤ penalised input w) :
    Published input w (winnerVerdict input (evaluated input w)) ∧
      (winnerVerdict input (evaluated input w)).citations = citations input := by
  have hempty := contradictions_isEmpty hwf w
  have hconf := verdict_confidence hwf w
  have hcount := corroboration_eq hwf hwin
  unfold winnerVerdict
  simp only [evaluated_confidence, evaluated_source, evaluated_semantic, evaluated_id]
  rw [if_neg (by rw [hconf]; omega)]
  refine ⟨⟨rfl, ?_, hconf, rfl, rfl, ?_, hcount, ?_⟩, rfl⟩
  · simp only [winningState, hempty, hcount]
    by_cases hnone : opponents input w = []
    · simp [hnone, List.length_pos_iff]
    · simp [hnone]
  · exact ⟨rankedOpponents input w, rankedOpponents_perm w, rankedOpponents_pairwise hwf w,
      contradictions_eq hwf w⟩
  · simp only [hempty, decide_eq_true_iff]

theorem winnerVerdict_belowThreshold (w : EvidenceRecord)
    (hlt : penalised input w < input.policy.minimumPublishableConfidence.toNat) :
    winnerVerdict input (evaluated input w) =
      { decisionHeader input with
        state := .insufficient
        citations := (citations input).map (belowThreshold (evaluated input w).record) } := by
  have hconf := verdict_confidence hwf w
  unfold winnerVerdict
  simp only [evaluated_confidence, evaluated_source]
  rw [if_pos (by rw [hconf]; exact hlt)]

def openState (input : DecisionInput) : ClassificationState :=
  if ∃ r ∈ candidateRecords input, stateOf input r = .current then .insufficient
  else if ∃ r ∈ candidateRecords input,
      stateOf input r = .stale ∨ stateOf input r = .superseded then .stale
  else .insufficient

theorem openVerdict_state (hrev : input.generationRevoked = false) :
    (openVerdict input).state = openState input := by
  have hany : ∀ p : EvidenceState → Bool, ((sortedCandidates input).any fun c => p c.record.state) =
        Decidable.decide (∃ r ∈ candidateRecords input, p (stateOf input r) = true) := by
    intro p
    rw [Bool.eq_iff_iff, List.any_eq_true, decide_eq_true_iff]
    constructor
    · rintro ⟨c, hc, hp⟩
      obtain ⟨r, hr, rfl⟩ := (mem_sortedCandidates hwf).mp hc
      exact ⟨r, hr, by simpa using hp⟩
    · rintro ⟨r, hr, hp⟩
      exact ⟨evaluated input r, (mem_sortedCandidates hwf).mpr ⟨r, hr, rfl⟩, by simpa using hp⟩
  have hcurrent := hany fun s => s == .current
  have hstale := hany fun s => s == .stale || s == .superseded
  simp only [openVerdict, openState, hrev, hcurrent, hstale]
  simp

/-- What a decision must be for its input. -/
structure Specified (input : DecisionInput) (d : Classification) : Prop where
  /-- Every candidate is cited exactly once. -/
  cited : (d.citations.map EvidenceCitation.id).Perm
    ((candidateRecords input).map EvidenceRecord.id)
  revoked : input.generationRevoked = true → Undecided d .revoked
  unique_winner : input.generationRevoked = false →
    (∃ r ∈ candidateRecords input, Contender input r) → ∃! w, IsWinner input w
  published : input.generationRevoked = false → ∀ w, IsWinner input w →
    input.policy.minimumPublishableConfidence.toNat ≤ penalised input w → Published input w d
  fell_short : input.generationRevoked = false → ∀ w, IsWinner input w →
    penalised input w < input.policy.minimumPublishableConfidence.toNat →
    Undecided d .insufficient
  no_contender : input.generationRevoked = false →
    (∀ r ∈ candidateRecords input, ¬ Contender input r) → Undecided d (openState input)

section Display

omit hwf

theorem Undecided.display {d : Classification} {state : ClassificationState}
    (h : Undecided d state) (cited : List EvidenceCitation) :
    Undecided (withDigest { d with citations := cited }) state :=
  ⟨h.semantic, h.state_eq, h.confidence, h.selectedEvidence, h.selectedSource,
    h.contradictions, h.corroborationCount, h.penalty⟩

theorem Published.display {d : Classification} (h : Published input w d)
    (cited : List EvidenceCitation) :
    Published input w (withDigest { d with citations := cited }) :=
  ⟨h.semantic, h.state, h.confidence, h.selectedEvidence, h.selectedSource,
    h.contradictions, h.corroborationCount, h.penalty⟩

/-- An undecided verdict passes the final check as it is. -/
theorem decide_undecided {state : ClassificationState} (h : Undecided (verdict input) state) :
    Undecided (decide input) state ∧ decide input = withDigest (capped input) := by
  have heq : decide input = withDigest (capped input) := decide_eq_of_justified (Or.inl h.semantic)
  refine ⟨?_, heq⟩
  rw [heq]
  exact Undecided.display h _

end Display

/-- The citation of the winner survives the cap, so the final check changes nothing. -/
theorem decide_published (hw : IsWinner input w) (hwin : winner input = some (evaluated input w))
    (hle : input.policy.minimumPublishableConfidence.toNat ≤ penalised input w) :
    Published input w (decide input) ∧ decide input = withDigest (capped input) := by
  obtain ⟨hpub, hcited⟩ := winnerVerdict_published hwf hwin hle
  have hverdict : verdict input = winnerVerdict input (evaluated input w) := by
    rw [verdict, hwin]
  have hmem := mem_citations hwf hw.mem hwin
  have hjust : justified (capped input) = true := by
    rw [justified, List.any_eq_true]
    refine ⟨cite (some (evaluated input w)) true (evaluated input w),
      mem_capCitations (by rw [hverdict, hcited]; exact hmem) rfl, ?_⟩
    have hsem : (capped input).semantic = w.semantic := by
      rw [capped, hverdict]
      exact hpub.semantic
    simp [cite, citedDisposition, hsem, hw.contender.1.1]
  have heq := decide_eq_of_justified (Or.inr hjust)
  refine ⟨?_, heq⟩
  rw [heq, capped, hverdict]
  exact Published.display hpub _

theorem ids_verdict : ((verdict input).citations.map EvidenceCitation.id).Perm
      ((candidateRecords input).map EvidenceRecord.id) := by
  have hcited := ids_citations hwf
  cases hwin : winner input with
  | none =>
    rw [verdict, hwin]
    exact hcited
  | some c =>
    rw [verdict, hwin]
    have hcases : winnerVerdict input c = _ ∨ winnerVerdict input c = _ := ite_eq_or_eq _ _ _
    rcases hcases with hshort | hwon
    · simp only [hshort, ids_belowThreshold]
      exact hcited
    · simp only [hwon]
      exact hcited

end Passes

/-- A revoked generation has no winner, whatever its records say. -/
theorem decide_revoked {input : DecisionInput} (hrev : input.generationRevoked = true) :
    Undecided (decide input) .revoked := by
  have hwinner : winner input = none := by
    rw [winner_eq_find?, if_pos hrev]
  refine (decide_undecided ?_).1
  rw [verdict, hwinner]
  exact ⟨rfl, by simp [openVerdict, hrev], rfl, rfl, rfl, rfl, rfl, rfl⟩

section Verdicts

variable {input : DecisionInput} (hwf : WellFormed input)

include hwf

theorem decide_fellShort (hrev : input.generationRevoked = false) (hw : IsWinner input w)
    (hlt : penalised input w < input.policy.minimumPublishableConfidence.toNat) :
    Undecided (decide input) .insufficient := by
  refine (decide_undecided ?_).1
  rw [verdict, winner_of_isWinner hwf hrev hw]
  simp only [winnerVerdict_belowThreshold hwf w hlt]
  exact ⟨rfl, rfl, rfl, rfl, rfl, rfl, rfl, rfl⟩

theorem decide_open (hrev : input.generationRevoked = false)
    (h : ∀ r ∈ candidateRecords input, ¬ Contender input r) :
    Undecided (decide input) (openState input) := by
  refine (decide_undecided ?_).1
  rw [verdict, winner_eq_none hwf h]
  exact ⟨rfl, openVerdict_state hwf hrev, rfl, rfl, rfl, rfl, rfl, rfl⟩

/-- Every decision names nothing, or publishes the winner. -/
theorem decide_cases : (∃ state, Undecided (decide input) state) ∨
      ∃ w, IsWinner input w ∧ Published input w (decide input) := by
  cases hrev : input.generationRevoked with
  | true => exact Or.inl ⟨_, decide_revoked hrev⟩
  | false =>
    by_cases hsome : ∃ r ∈ candidateRecords input, Contender input r
    · obtain ⟨w, hw, hwin⟩ := exists_winner hwf hrev hsome
      rcases le_or_gt input.policy.minimumPublishableConfidence.toNat (penalised input w) with
        hle | hlt
      · exact Or.inr ⟨w, hw, (decide_published hwf hw hwin hle).1⟩
      · exact Or.inl ⟨_, decide_fellShort hwf hrev hw hlt⟩
    · push Not at hsome
      exact Or.inl ⟨_, decide_open hwf hrev hsome⟩

/-- A decision that names a class selects the winner. -/
theorem decide_named (h : (decide input).semantic ≠ .unknown) :
    ∃ w, IsWinner input w ∧ (decide input).selectedEvidence = w.id := by
  rcases decide_cases hwf with ⟨state, hundecided⟩ | ⟨w, hw, hpublished⟩
  · exact absurd hundecided.semantic h
  · exact ⟨w, hw, hpublished.selectedEvidence⟩

end Verdicts

theorem length_assembleContracts_le (input : DecisionInput) (seen : List EvidenceId)
    (contracts : List WorkloadContract) :
    (assembleContracts input seen contracts).length ≤ contracts.length := by
  induction contracts generalizing seen with
  | nil => exact Nat.le_refl _
  | cons c rest ih =>
    rw [assembleContracts, List.length_cons]
    split_ifs
    · exact Nat.le_succ_of_le (ih _)
    · rw [List.length_cons]
      exact Nat.succ_le_succ (ih _)
    · exact Nat.le_succ_of_le (ih _)

theorem corroboration_le (input : DecisionInput) :
    corroboration input ≤ input.evidence.length + input.activeContracts.length := by
  have hcount : corroboration input ≤ (sortedCandidates input).length := by
    unfold corroboration
    refine le_trans List.count_le_length ?_
    rw [List.length_mapIdx]
  have hcontracts := length_assembleContracts_le input (input.evidence.map EvidenceRecord.id)
    input.activeContracts
  have hlength : (sortedCandidates input).length = (assemble input).length :=
    (List.length_insertionSort _ _).trans (List.length_map _)
  rw [hlength, assemble, List.length_append, length_assembleEvidence] at hcount
  omega

/-- A corroborating candidate is a record or derived from a contract. -/
theorem corroborationCount_decide_le (input : DecisionInput) :
    (Engine.decide input).corroborationCount ≤
      input.evidence.length + input.activeContracts.length := by
  have hverdict : (verdict input).corroborationCount ≤
      input.evidence.length + input.activeContracts.length := by
    unfold verdict
    cases winner input with
    | none => exact Nat.zero_le _
    | some w =>
      have hite : ∀ (below : Prop) [Decidable below] (x y : Classification),
          x.corroborationCount = 0 → y.corroborationCount = corroboration input →
            (if below then x else y).corroborationCount ≤ corroboration input := by
        intro below _ x y hx hy
        split_ifs
        · omega
        · omega
      exact (hite _ _ _ rfl rfl).trans (corroboration_le input)
  have hchecked : ∀ x : Classification,
      (finalCheck x).corroborationCount = x.corroborationCount := by
    intro x
    unfold finalCheck
    split_ifs <;> rfl
  show (finalCheck { verdict input with citations := _ }).corroborationCount ≤ _
  rw [hchecked]
  exact hverdict

/-- The engine decides as specified, on every input with distinct identities. Its count of
corroborating records has the 32 bits of the source as long as there are fewer than 2^32 records
and contracts. -/
theorem decide_specified {input : DecisionInput} (hwf : WellFormed input) :
    Specified input (decide input) ∧
      (input.evidence.length + input.activeContracts.length < 2 ^ 32 →
        (decide input).corroborationCount < 2 ^ 32) := by
  refine ⟨⟨?_, decide_revoked, ?_, ?_, ?_, ?_⟩, (corroborationCount_decide_le input).trans_lt⟩
  · -- whatever the verdict, the final check keeps the citations of the cap
    have hids : (decide input).citations = (capped input).citations :=
      finalCheck_citations (capped input)
    rw [hids]
    exact (ids_capCitations _ _).trans (ids_verdict hwf)
  · intro hrev hsome
    obtain ⟨w, hw, -⟩ := exists_winner hwf hrev hsome
    exact ⟨w, hw, fun v hv => IsWinner.unique hv hw⟩
  · intro hrev w hw hle
    exact (decide_published hwf hw (winner_of_isWinner hwf hrev hw) hle).1
  · intro hrev w hw hlt
    exact decide_fellShort hwf hrev hw hlt
  · intro hrev hno
    exact decide_open hwf hrev hno

def sampleInput : DecisionInput :=
  let flow : FlowRecord :=
    { id := ⟨0, 7⟩
      key := ⟨⟨.replicate 16 1⟩, ⟨.replicate 16 2⟩, 4000, 9000, .tcp⟩
      generation := 3 }
  let contract (id : Bytes) (declared : SemanticClass) : WorkloadContract :=
    { id := .make id, workload := .make (text "trainer"), workloadGeneration := 1,
      state := .active, declaredClass := declared, matchAnyRemoteAddress := true }
  let record (id : Bytes) (source : EvidenceSource) (semantic : SemanticClass) : EvidenceRecord :=
    { id := .make id, publisher := .make (text "agent"), publisherBoot := 2, acceptedEpoch := 1,
      flowId := flow.id, flowGeneration := 3, semantic := semantic, source := source,
      confidence := source.confidence }
  { flow := flow
    evidence :=
      [record (text "evd-a") .declaredAuthenticated .collective,
       record (text "evd-b") .heuristic .shuffle]
    activeContracts :=
      [contract (text "c-a") .collective, contract (text "c-b") .checkpoint]
    workloads := [{ id := .make (text "trainer"), owner := .make (text "agent"), generation := 1 }]
    authority :=
      { epoch := 1, coordinatorBoot := 1, tick := 5,
        livePublisherBoots := [text "agent@2"], knownPublishers := [text "agent"] }
    policy := .initial }

theorem sampleInput_wellFormed : WellFormed sampleInput := by
  refine ⟨by decide +kernel, by decide +kernel, by decide +kernel, ?_⟩
  have hnd : (sampleInput.activeContracts.map fun c =>
      (sha256 (contractEvidenceChunks c sampleInput.flow).flatten).bytes.toList.take 16).Nodup := by
    decide +kernel
  rintro m ⟨c, hc, rfl⟩ m' ⟨d, hd, rfl⟩ h
  rw [List.inj_on_of_nodup_map hnd hc hd h]

theorem decide_specified_sample :
    Specified sampleInput (Engine.decide sampleInput) ∧
      (Engine.decide sampleInput).state = .contradicted :=
  ⟨(decide_specified sampleInput_wellFormed).1, by decide +kernel⟩

end FlowClassifier.EngineCorrect
