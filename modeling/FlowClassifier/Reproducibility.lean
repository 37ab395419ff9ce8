import FlowClassifier.DecisionKeys
import FlowClassifier.Pool

/-!
What a decision does not depend on: the tick, the epoch, the process and the numbers under
which records were accepted. Two inputs are compared whose records correspond and whose
candidates have the same states. The two runs are kept in one list of pairs of candidates.
Their sequence numbers enter only through comparisons, so both pools are sorted alike, and
from there on every pass gives the same except for fields that the digest leaves out.
-/
namespace FlowClassifier.Reproducibility

open Lib Foundation Evidence Policies Workloads Classifications Engine DecisionSpec EngineCorrect
  DecisionKeys Pool

variable {z : Candidate × Candidate}
variable {i j : DecisionInput}

def citationCore (c : EvidenceCitation) : EvidenceCitation :=
  { c with acceptedSeq := 0, acceptedTick := tickNone, freshUntil := tickNone, detail := [] }

def digestible (d : Classification) : Classification :=
  { d with
    citations := d.citations.map citationCore
    coordinatorEpoch := 0
    coordinatorBoot := 0
    decidedTick := tickNone
    digest := .zero }

theorem map_core_sortCitations (cited : List EvidenceCitation) :
    (sortCitations cited).map citationCore = sortCitations (cited.map citationCore) :=
  List.map_insertionSort _ _ citationCore cited fun _ _ _ _ => Iff.rfl

theorem digest_digestible (d : Classification) :
    computeClassificationDigest (digestible d) = computeClassificationDigest d := by
  have hsorted : (d.citations.map citationCore).insertionSort (fun a b => a.id ≤ b.id) =
      (d.citations.insertionSort fun a b => a.id ≤ b.id).map citationCore :=
    (List.map_insertionSort _ _ citationCore d.citations fun _ _ _ _ => Iff.rfl).symm
  have hchunks : ∀ cited : List EvidenceCitation,
      (cited.map citationCore).flatMap citationDigestChunks =
        cited.flatMap citationDigestChunks := by
    intro cited
    rw [List.flatMap_map]
    rfl
  unfold computeClassificationDigest classificationDigestChunks digestible
  dsimp only
  rw [Sorter.sort_insertion, Sorter.sort_insertion, hsorted, hchunks, List.length_map]

theorem digestible_belowThreshold (w : EvidenceRecord) (cited : List EvidenceCitation) :
    (cited.map (belowThreshold w)).map citationCore =
      ((cited.map citationCore).map (belowThreshold w)).map citationCore := by
  simp only [List.map_map]
  refine List.map_congr_left fun c _ => ?_
  simp only [Function.comp_apply, belowThreshold, apply_ite citationCore]
  rfl

theorem map_core_capCitations (cap : UInt32) (cited : List EvidenceCitation) :
    (capCitations cap cited).map citationCore =
      (capCitations cap (cited.map citationCore)).map citationCore := by
  have hdecisive : isDecisive ∘ citationCore = isDecisive := rfl
  have hother : (fun c => !isDecisive c) ∘ citationCore = fun c => !isDecisive c := rfl
  have hexclude : citationCore ∘ excludeByLimit cap ∘ citationCore =
      citationCore ∘ excludeByLimit cap := rfl
  have hcore : citationCore ∘ citationCore = citationCore := rfl
  unfold capCitations
  rw [map_core_sortCitations, map_core_sortCitations]
  simp only [List.filter_map, hdecisive, hother, List.length_map, List.map_append, List.map_map,
    ← List.map_take, ← List.map_drop, hcore, hexclude]

theorem justified_digestible (d : Classification) : justified (digestible d) = justified d := by
  unfold justified digestible
  rw [List.any_map]
  rfl

theorem digestible_finalCheck (d : Classification) :
    digestible (finalCheck d) = finalCheck (digestible d) := by
  unfold finalCheck
  rw [justified_digestible]
  exact apply_ite digestible _ _ _

/-- Decisions that agree on what is digested before the display cap agree after it. -/
theorem digestible_decide (hpolicy : i.policy = j.policy)
    (h : digestible (verdict i) = digestible (verdict j)) :
    digestible (Engine.decide i) = digestible (Engine.decide j) ∧
      (Engine.decide i).digest = (Engine.decide j).digest := by
  have hcited : (verdict i).citations.map citationCore = (verdict j).citations.map citationCore :=
    congrArg Classification.citations h
  have hcapped : digestible (capped i) = digestible (capped j) := by
    have hshown : (capped i).citations.map citationCore =
        (capped j).citations.map citationCore := by
      unfold capped
      dsimp only
      rw [map_core_capCitations, hcited, hpolicy, ← map_core_capCitations]
    have hform : ∀ k, digestible (capped k) = (fun (d : Classification) cited =>
        { d with citations := cited }) (digestible (verdict k))
          ((capped k).citations.map citationCore) := fun _ => rfl
    rw [hform, hform, h, hshown]
  have hchecked : digestible (finalCheck (capped i)) = digestible (finalCheck (capped j)) := by
    rw [digestible_finalCheck, digestible_finalCheck, hcapped]
  have hform : ∀ k, Engine.decide k = withDigest (finalCheck (capped k)) := fun _ => rfl
  have hcontent : ∀ c, digestible (withDigest c) = digestible c := fun _ => rfl
  have hdigest : ∀ c, (withDigest c).digest = computeClassificationDigest c := fun _ => rfl
  rw [hform, hform, hcontent, hcontent, hdigest, hdigest]
  exact ⟨hchecked, by rw [← digest_digestible, hchecked, digest_digestible]⟩

structure SameContent (r s : EvidenceRecord) : Prop where
  id : r.id = s.id
  publisher : r.publisher = s.publisher
  source : r.source = s.source
  semantic : r.semantic = s.semantic
  confidence : r.confidence = s.confidence
  generation : r.generation = s.generation
  workloadGeneration : r.workloadGeneration = s.workloadGeneration

structure Twins (a b : Candidate) : Prop where
  content : SameContent a.record b.record
  state : a.record.state = b.record.state
  disposition : a.disposition = b.disposition

theorem evaluate_record (input : DecisionInput) (c : Candidate) : ∃ state reason,
    (evaluate input c).record = { c.record with state := state, stateReason := reason } := by
  have hkept : ∃ state reason, withCurrentness input c.record =
      { c.record with state := state, stateReason := reason } := by
    unfold withCurrentness
    split_ifs
    · exact ⟨_, _, rfl⟩
    · exact ⟨c.record.state, c.record.stateReason, rfl⟩
  unfold evaluate
  by_cases hrejected : c.disposition = .rejected
  · rw [if_pos hrejected]
    exact ⟨c.record.state, c.record.stateReason, rfl⟩
  · rw [if_neg hrejected]
    by_cases hflow : (!recordMatchesFlow c.record input.flow) = true
    · rw [if_pos hflow]
      exact ⟨_, _, rfl⟩
    · rw [if_neg hflow]
      dsimp only
      by_cases hstate : (withCurrentness input c.record).state ≠ .current
      · rw [if_pos hstate]
        exact hkept
      · rw [if_neg hstate]
        split_ifs <;> exact hkept

theorem SameContent.evaluate {a b : Candidate} (h : SameContent a.record b.record) :
    SameContent (Engine.evaluate i a).record (Engine.evaluate j b).record := by
  obtain ⟨_, _, ha⟩ := evaluate_record i a
  obtain ⟨_, _, hb⟩ := evaluate_record j b
  rw [ha, hb]
  exact ⟨h.id, h.publisher, h.source, h.semantic, h.confidence, h.generation, h.workloadGeneration⟩

theorem acceptedSeq_evaluate (input : DecisionInput) (c : Candidate) :
    (evaluate input c).record.acceptedSeq = c.record.acceptedSeq := by
  obtain ⟨_, _, hc⟩ := evaluate_record input c
  rw [hc]

/-- The state and the source of a fresh candidate determine its disposition. -/
theorem evaluated_disposition (input : DecisionInput) (r : EvidenceRecord) :
    (evaluated input r).disposition =
      if (evaluated input r).record.state = .current then
        if (evaluated input r).record.source.isHeuristic then .subordinate else .selected
      else dispositionForState (evaluated input r).record.state := by
  have hfresh : ¬ (freshCandidate r).disposition = .rejected := fun h => by cases h
  unfold evaluated evaluate
  rw [if_neg hfresh]
  by_cases hflow : (!recordMatchesFlow (freshCandidate r).record input.flow) = true
  · rw [if_pos hflow]
    rfl
  · rw [if_neg hflow]
    dsimp only
    by_cases hstate : (withCurrentness input (freshCandidate r).record).state = .current
    · rw [if_neg (not_not.mpr hstate)]
      split_ifs <;> rfl
    · rw [if_pos hstate]
      dsimp only
      rw [if_neg hstate]
      rfl

theorem twins_evaluated {r s : EvidenceRecord} (h : SameContent r s)
    (hstate : (evaluated i r).record.state = (evaluated j s).record.state) :
    Twins (evaluated i r) (evaluated j s) := by
  have hcontent : SameContent (evaluated i r).record (evaluated j s).record :=
    SameContent.evaluate (a := freshCandidate r) (b := freshCandidate s) h
  refine ⟨hcontent, hstate, ?_⟩
  rw [evaluated_disposition, evaluated_disposition, hstate, hcontent.source]

structure SameQuestion (i j : DecisionInput) : Prop where
  flow : j.flow = i.flow
  policy : j.policy = i.policy
  activeContracts : j.activeContracts = i.activeContracts
  workloads : j.workloads = i.workloads
  revoked : j.generationRevoked = i.generationRevoked

section Contracts

variable (h : SameQuestion i j)

include h

theorem SameQuestion.contractApplies (k : WorkloadContract) :
    Engine.contractApplies j k = Engine.contractApplies i k := by
  simp only [Engine.contractApplies, h.flow, h.workloads]

theorem SameQuestion.derived (k : WorkloadContract) :
    SameContent (Engine.derived i k) (Engine.derived j k) := by
  refine ⟨?_, rfl, rfl, rfl, rfl, rfl, rfl⟩
  rw [derived_id, derived_id, h.flow]

end Contracts

/-- Records in pairs with the same content and the same relative order of sequence numbers,
whose candidates get the same states when they are listed in this order. -/
structure Counterparts (i j : DecisionInput) (pairs : List (EvidenceRecord × EvidenceRecord)) :
    Prop where
  question : SameQuestion i j
  first : i.evidence = pairs.map Prod.fst
  second : j.evidence.Perm (pairs.map Prod.snd)
  content : ∀ p ∈ pairs, SameContent p.1 p.2
  order : ∀ p ∈ pairs, ∀ q ∈ pairs,
    (p.1.acceptedSeq < q.1.acceptedSeq ↔ p.2.acceptedSeq < q.2.acceptedSeq)
  states : (pool i).map (·.record.state) =
    (pool { j with evidence := pairs.map Prod.snd }).map (·.record.state)

section Counterparts

variable {pairs : List (EvidenceRecord × EvidenceRecord)}
  (h : Counterparts i j pairs)

include h

theorem Counterparts.ids_eq : (pairs.map Prod.snd).map EvidenceRecord.id =
    (pairs.map Prod.fst).map EvidenceRecord.id := by
  rw [List.map_map, List.map_map]
  exact List.map_congr_left fun p hp => (h.content p hp).id.symm

theorem Counterparts.listed : SameQuestion i { j with evidence := pairs.map Prod.snd } :=
  ⟨h.question.flow, h.question.policy, h.question.activeContracts, h.question.workloads,
    h.question.revoked⟩

end Counterparts

/-- Derived candidates have the sequence number 0; where there are any, a record has it in
both inputs or in none. -/
def ZerosKept (i : DecisionInput) (pairs : List (EvidenceRecord × EvidenceRecord)) : Prop :=
  (∃ k ∈ i.activeContracts, contractApplies i k = true) →
    ∀ p ∈ pairs, (p.1.acceptedSeq = 0 ↔ p.2.acceptedSeq = 0)

structure Paired (i j : DecisionInput) (zs : List (Candidate × Candidate)) : Prop where
  first : pool i = zs.map Prod.fst
  second : pool j = zs.map Prod.snd
  twins : ∀ z ∈ zs, Twins z.1 z.2
  order : ∀ y ∈ zs, ∀ z ∈ zs,
    (y.1.record.acceptedSeq < z.1.record.acceptedSeq ↔
      y.2.record.acceptedSeq < z.2.record.acceptedSeq)

/-- The records behind a candidate of each run: a pair, or those derived from a contract. -/
def Behind (i j : DecisionInput) (pairs : List (EvidenceRecord × EvidenceRecord))
    (r s : EvidenceRecord) : Prop :=
  (r, s) ∈ pairs ∨ ∃ k ∈ i.activeContracts, contractApplies i k = true ∧
    r = derived i k ∧ s = derived j k

inductive Positions (R : EvidenceRecord → EvidenceRecord → Prop) : Candidate → Candidate → Prop
  | fresh {r s : EvidenceRecord} (h : R r s) : Positions R (freshCandidate r) (freshCandidate s)
  | rejected {r s : EvidenceRecord} (h : R r s) :
    Positions R (rejectedCandidate r) (rejectedCandidate s)

section Assembly

variable {pairs : List (EvidenceRecord × EvidenceRecord)}
  {r s r' s' : EvidenceRecord}

theorem Behind.content (hquestion : SameQuestion i j) (hpairs : ∀ p ∈ pairs, SameContent p.1 p.2)
    (h : Behind i j pairs r s) : SameContent r s := by
  rcases h with hp | ⟨k, -, -, rfl, rfl⟩
  · exact hpairs _ hp
  · exact hquestion.derived k

/-- A candidate has the number of its record, or 0 if it is derived. -/
theorem Behind.order (hpairs : ∀ p ∈ pairs, ∀ q ∈ pairs,
      (p.1.acceptedSeq < q.1.acceptedSeq ↔ p.2.acceptedSeq < q.2.acceptedSeq))
    (hzeros : ZerosKept i pairs) (h : Behind i j pairs r s) (h' : Behind i j pairs r' s') :
    r.acceptedSeq < r'.acceptedSeq ↔ s.acceptedSeq < s'.acceptedSeq := by
  rcases h with hp | ⟨k, hk, happlies, rfl, rfl⟩ <;>
    rcases h' with hq | ⟨l, hl, happlies', rfl, rfl⟩
  · exact hpairs _ hp _ hq
  · change r.acceptedSeq < 0 ↔ s.acceptedSeq < 0
    simp [UInt64.lt_iff_toNat_lt]
  · change 0 < r'.acceptedSeq ↔ 0 < s'.acceptedSeq
    have hpos : ∀ n : UInt64, 0 < n ↔ ¬ n = 0 := by
      intro n
      rw [UInt64.lt_iff_toNat_lt, ← UInt64.toNat_inj, UInt64.toNat_zero]
      omega
    rw [hpos, hpos, hzeros ⟨k, hk, happlies⟩ _ hq]
  · exact Iff.rfl

theorem forall₂_assembleEvidence {R : EvidenceRecord → EvidenceRecord → Prop}
    (hid : ∀ {r s}, R r s → s.id = r.id) {rs ss : List EvidenceRecord}
    (h : List.Forall₂ R rs ss) (seen : List EvidenceId) :
    List.Forall₂ (Positions R) (assembleEvidence seen rs) (assembleEvidence seen ss) := by
  induction h generalizing seen with
  | nil => exact .nil
  | cons hrs _ ih =>
    rw [assembleEvidence, assembleEvidence, hid hrs]
    split_ifs
    · exact .cons (.rejected hrs) (ih _)
    · exact .cons (.fresh hrs) (ih _)

theorem forall₂_assembleContracts (h : SameQuestion i j) {contracts : List WorkloadContract}
    (hsub : contracts ⊆ i.activeContracts) (seen : List EvidenceId) :
    List.Forall₂ (Positions (Behind i j pairs)) (assembleContracts i seen contracts)
      (assembleContracts j seen contracts) := by
  induction contracts generalizing seen with
  | nil => exact .nil
  | cons k rest ih =>
    obtain ⟨hk, hrest⟩ := List.cons_subset.mp hsub
    rw [assembleContracts, assembleContracts, h.contractApplies, ← (h.derived k).id]
    split_ifs with happlies
    · exact ih hrest _
    · exact .cons (.fresh (Or.inr ⟨k, hk, happlies, rfl, rfl⟩)) (ih hrest _)
    · exact ih hrest _

end Assembly

/-- Pairs of records give pairs of candidates, and so do the contracts. -/
theorem exists_paired {pairs : List (EvidenceRecord × EvidenceRecord)}
    (h : Counterparts i j pairs) (hzeros : ZerosKept i pairs) :
    ∃ zs, Paired i { j with evidence := pairs.map Prod.snd } zs := by
  let j' : DecisionInput := { j with evidence := pairs.map Prod.snd }
  have hcontent : ∀ {r s}, Behind i j' pairs r s → SameContent r s :=
    fun hrs => hrs.content h.listed h.content
  have hassembled : List.Forall₂ (Positions (Behind i j' pairs)) (assemble i) (assemble j') := by
    have hcontracts := @forall₂_assembleContracts i j' pairs h.listed _ (List.Subset.refl _)
      ((pairs.map Prod.fst).map EvidenceRecord.id)
    unfold assemble
    rw [h.first, h.ids_eq, h.listed.activeContracts]
    refine List.rel_append (forall₂_assembleEvidence (fun hrs => (hcontent hrs).id.symm) ?_ _)
      hcontracts
    rw [List.forall₂_map_left_iff, List.forall₂_map_right_iff, List.forall₂_same]
    exact fun p hp => Or.inl hp
  obtain ⟨hlength, hcs⟩ := List.forall₂_iff_zip.mp hassembled
  let eval : Candidate × Candidate → Candidate × Candidate :=
    fun c => (evaluate i c.1, evaluate j' c.2)
  let zs := ((assemble i).zip (assemble j')).map eval
  have hfirst : pool i = zs.map Prod.fst := by
    rw [pool, ← List.map_fst_zip (le_of_eq hlength), List.map_map, List.map_map]
    rfl
  have hsecond : pool j' = zs.map Prod.snd := by
    rw [pool, ← List.map_snd_zip (ge_of_eq hlength), List.map_map, List.map_map]
    rfl
  refine ⟨zs, hfirst, hsecond, fun z hz => ?_, fun y hy z hz => ?_⟩
  · -- the states agree position by position
    have hstates := h.states
    rw [hfirst, hsecond, List.map_map, List.map_map (f := Prod.snd)] at hstates
    have hsame : z.1.record.state = z.2.record.state := List.map_inj_left.mp hstates z hz
    obtain ⟨⟨a, b⟩, hc, rfl⟩ := List.mem_map.mp hz
    cases hcs hc with
    | fresh hrs => exact twins_evaluated (hcontent hrs) hsame
    | rejected hrs =>
      refine ⟨SameContent.evaluate (hcontent hrs), hsame, ?_⟩
      dsimp only [eval]
      rw [evaluate_rejected, evaluate_rejected]
      rfl
  · obtain ⟨⟨a, b⟩, hc, rfl⟩ := List.mem_map.mp hy
    obtain ⟨⟨a', b'⟩, hd, rfl⟩ := List.mem_map.mp hz
    simp only [eval, acceptedSeq_evaluate]
    cases hcs hc <;> cases hcs hd <;> exact Behind.order h.order hzeros ‹_› ‹_›

/-- Twins are compared alike, since only the order of their numbers matters. -/
theorem outranks_twins {y : Candidate × Candidate} (hy : Twins y.1 y.2) (hz : Twins z.1 z.2)
    (hlt : y.1.record.acceptedSeq < z.1.record.acceptedSeq ↔
      y.2.record.acceptedSeq < z.2.record.acceptedSeq)
    (hgt : z.1.record.acceptedSeq < y.1.record.acceptedSeq ↔
      z.2.record.acceptedSeq < y.2.record.acceptedSeq) :
    evidenceOutranks y.1.record z.1.record = evidenceOutranks y.2.record z.2.record := by
  have hne : y.1.record.acceptedSeq ≠ z.1.record.acceptedSeq ↔
      y.2.record.acceptedSeq ≠ z.2.record.acceptedSeq := by
    rw [ne_iff_lt_or_gt, ne_iff_lt_or_gt]
    exact or_congr hlt hgt
  have hnumbers : ∀ later : Bool, (if y.1.record.acceptedSeq ≠ z.1.record.acceptedSeq then
        Decidable.decide (y.1.record.acceptedSeq > z.1.record.acceptedSeq) else later) =
      if y.2.record.acceptedSeq ≠ z.2.record.acceptedSeq then
        Decidable.decide (y.2.record.acceptedSeq > z.2.record.acceptedSeq) else later := by
    intro later
    by_cases hdiffer : y.1.record.acceptedSeq ≠ z.1.record.acceptedSeq
    · rw [if_pos hdiffer, if_pos (hne.mp hdiffer)]
      exact decide_eq_decide.mpr hgt
    · rw [if_neg hdiffer, if_neg (mt hne.mpr hdiffer)]
  unfold evidenceOutranks ranksAbove rankOf
  dsimp only
  rw [hnumbers, hy.content.source, hz.content.source, hy.content.workloadGeneration,
    hz.content.workloadGeneration, hy.content.id, hz.content.id]

structure SortedPairs (i j : DecisionInput) (zs : List (Candidate × Candidate)) : Prop where
  question : SameQuestion i j
  first : sortedCandidates i = zs.map Prod.fst
  second : sortedCandidates j = zs.map Prod.snd
  twins : ∀ z ∈ zs, Twins z.1 z.2
  outranks : ∀ y ∈ zs, ∀ z ∈ zs,
    evidenceOutranks y.1.record z.1.record = evidenceOutranks y.2.record z.2.record

/-- Both pools are sorted alike, so the pairs can be sorted as pairs. -/
theorem exists_sortedPairs {zs : List (Candidate × Candidate)}
    (hquestion : SameQuestion i j) (h : Paired i j zs) : ∃ sorted, SortedPairs i j sorted := by
  have houtranks : ∀ y ∈ zs, ∀ z ∈ zs,
      evidenceOutranks y.1.record z.1.record = evidenceOutranks y.2.record z.2.record :=
    fun y hy z hz => outranks_twins (h.twins y hy) (h.twins z hz) (h.order y hy z hz)
      (h.order z hz y hy)
  have hbefore : ∀ y ∈ zs, ∀ z ∈ zs,
      (candidateBefore z.1 y.1 = false ↔ candidateBefore z.2 y.2 = false) := by
    intro y hy z hz
    have hrank := houtranks z hz y hy
    unfold evidenceOutranks at hrank
    simp only [candidateBefore, (h.twins y hy).disposition, (h.twins z hz).disposition, hrank]
  obtain ⟨sorted, hperm, hfirst, hsecond⟩ := insertionSort_pairs
    (r := fun a b : Candidate => candidateBefore b a = false)
    (s := fun a b : Candidate => candidateBefore b a = false) hbefore
  refine ⟨sorted, hquestion, ?_, ?_, fun z hz => h.twins z (hperm.mem_iff.mp hz),
    fun y hy z hz => houtranks y (hperm.mem_iff.mp hy) z (hperm.mem_iff.mp hz)⟩
  · rw [← hfirst, ← h.first]
    rfl
  · rw [← hsecond, ← h.second]
    rfl

/-- What the passes after the sort read of a candidate. -/
def candidateCore (c : Candidate) : Candidate where
  record :=
    { id := c.record.id, publisher := c.record.publisher, source := c.record.source
      semantic := c.record.semantic, confidence := c.record.confidence
      generation := c.record.generation, state := c.record.state }
  disposition := c.disposition

theorem Twins.core {a b : Candidate} (h : Twins a b) : candidateCore a = candidateCore b := by
  simp only [candidateCore, h.content.id, h.content.publisher, h.content.source,
    h.content.semantic, h.content.confidence, h.content.generation, h.state, h.disposition]

section Runs

variable {zs : List (Candidate × Candidate)} (h : SortedPairs i j zs)

include h

theorem SortedPairs.cores_eq :
    (sortedCandidates i).map candidateCore = (sortedCandidates j).map candidateCore := by
  rw [h.first, h.second, List.map_map, List.map_map]
  exact List.map_congr_left fun z hz => (h.twins z hz).core

theorem SortedPairs.any_eq (p : EvidenceState → Bool) :
    ((sortedCandidates i).any fun c => p c.record.state) =
      (sortedCandidates j).any fun c => p c.record.state := by
  have hany := congrArg (List.any · fun c => p c.record.state) h.cores_eq
  rw [List.any_map, List.any_map] at hany
  exact hany

theorem SortedPairs.winnerIndex_eq : winnerIndex i = winnerIndex j := by
  have hindex := congrArg (List.findIdx? eligible) h.cores_eq
  rw [List.findIdx?_map, List.findIdx?_map] at hindex
  rw [winnerIndex, winnerIndex, h.question.revoked]
  exact congrArg (fun index => if i.generationRevoked then none else index) hindex

theorem SortedPairs.winner_eq : (winner i).map candidateCore = (winner j).map candidateCore := by
  have hform : ∀ k, (winner k).map candidateCore =
      (winnerIndex k).bind fun n => ((sortedCandidates k).map candidateCore)[n]? := by
    intro k
    rw [winner]
    cases winnerIndex k <;> simp
  rw [hform, hform, h.winnerIndex_eq, h.cores_eq]

/-- A pass over the sorted candidates that reads no more than the cores. -/
theorem SortedPairs.mapIdx_eq {β : Type} {f : Option Candidate → Bool → Candidate → β}
    (hf : ∀ w isWinner c, f (w.map candidateCore) isWinner (candidateCore c) = f w isWinner c) :
    ((sortedCandidates i).mapIdx fun n c => f (winner i) (winnerIndex i == some n) c) =
      (sortedCandidates j).mapIdx fun n c => f (winner j) (winnerIndex j == some n) c := by
  have hform : ∀ k, ((sortedCandidates k).mapIdx fun n c =>
      f (winner k) (winnerIndex k == some n) c) =
      ((sortedCandidates k).map candidateCore).mapIdx fun n c =>
        f ((winner k).map candidateCore) (winnerIndex k == some n) c := by
    intro k
    apply List.ext_getElem?
    intro n
    simp [Function.comp_def, hf]
  rw [hform, hform, h.cores_eq, h.winner_eq, h.winnerIndex_eq]

theorem SortedPairs.citations_eq :
    (citations i).map citationCore = (citations j).map citationCore := by
  have hpost : ∀ (f : ℕ → Candidate → EvidenceCitation) (cs : List Candidate),
      (cs.mapIdx f).map citationCore = cs.mapIdx fun k c => citationCore (f k c) := by
    intro f cs
    apply List.ext_getElem?
    intro k
    simp [Function.comp_def]
  rw [citations, citations, map_core_sortCitations, map_core_sortCitations, hpost, hpost]
  have hcited := h.mapIdx_eq (f := fun w isWinner c => citationCore (cite w isWinner c))
    fun w _ _ => by cases w <;> rfl
  rw [hcited]

theorem SortedPairs.corroboration_eq : corroboration i = corroboration j :=
  congrArg (List.count true) (h.mapIdx_eq (f := corroborates) fun w _ _ => by cases w <;> rfl)

theorem SortedPairs.contradictions_eq {a b : Candidate}
    (hw : candidateCore a = candidateCore b) : contradictions i a = contradictions j b := by
  let found := zs.filter fun z => contradicts a z.1
  have hfirst : (sortedCandidates i).filter (contradicts a) = found.map Prod.fst := by
    rw [h.first, List.filter_map]
    rfl
  have hsecond : (sortedCandidates j).filter (contradicts b) = found.map Prod.snd := by
    rw [h.second, List.filter_map]
    refine congrArg _ (List.filter_congr fun z hz => ?_)
    change contradicts (candidateCore b) (candidateCore z.2) =
      contradicts (candidateCore a) (candidateCore z.1)
    rw [hw, (h.twins z hz).core]
  have hkept : ∀ z ∈ found, z ∈ zs := fun z hz => List.mem_of_mem_filter hz
  have hagree : ∀ y ∈ found, ∀ z ∈ found, (evidenceOutranks z.1.record y.1.record = false ↔
      evidenceOutranks z.2.record y.2.record = false) := by
    intro y hy z hz
    rw [h.outranks z (hkept z hz) y (hkept y hy)]
  obtain ⟨sorted, hperm, hsorted, hsorted'⟩ := insertionSort_pairs
    (r := fun a b : Candidate => evidenceOutranks b.record a.record = false)
    (s := fun a b : Candidate => evidenceOutranks b.record a.record = false) hagree
  rw [contradictions_insertion, contradictions_insertion, hfirst, hsecond, hsorted, hsorted',
    List.map_map, List.map_map]
  refine List.map_congr_left fun z hz => ?_
  exact congrArg₂ (fun a b => contradictionOf a.record b.record) hw
    (h.twins z (hkept z (hperm.mem_iff.mp hz))).core

theorem SortedPairs.digestible_verdict : digestible (verdict i) = digestible (verdict j) := by
  have hcited := h.citations_eq
  have hquestion := h.question
  have hwinner := h.winner_eq
  unfold verdict
  cases hi : winner i with
  | none =>
    rw [hi, Option.map_none, eq_comm, Option.map_eq_none_iff] at hwinner
    have hcurrent := h.any_eq (· == .current)
    have hstale := h.any_eq fun s => s == .stale || s == .superseded
    simp only [hwinner, openVerdict, digestible, decisionHeader, hcited, hcurrent, hstale,
      hquestion.flow, hquestion.policy, hquestion.revoked]
  | some a =>
    rw [hi] at hwinner
    obtain ⟨b, hb, hw⟩ := Option.map_eq_some_iff.mp hwinner.symm
    have hfield : ∀ {β : Type} (f : EvidenceRecord → β), f (candidateCore a).record =
        f (candidateCore b).record := fun f => by rw [hw]
    have hid : a.record.id = b.record.id := hfield EvidenceRecord.id
    have hsemantic : a.record.semantic = b.record.semantic := hfield EvidenceRecord.semantic
    have hsource : a.record.source = b.record.source := hfield EvidenceRecord.source
    have hconfidence : a.record.confidence = b.record.confidence := hfield EvidenceRecord.confidence
    have hbelow : ((citations i).map (belowThreshold a.record)).map citationCore =
        ((citations j).map (belowThreshold b.record)).map citationCore := by
      have hrecord : belowThreshold a.record = belowThreshold b.record := by
        funext c
        rw [belowThreshold, belowThreshold, hid]
      rw [digestible_belowThreshold, hcited, hrecord, ← digestible_belowThreshold]
    simp only [hb, winnerVerdict, h.contradictions_eq hw.symm, h.corroboration_eq, hsemantic,
      hsource, hconfidence, hid, hquestion.policy]
    split_ifs <;>
      simp only [digestible, decisionHeader, hbelow, hcited, hquestion.flow, hquestion.policy]

end Runs

/-- Records with distinct identities can be given in any order. -/
theorem decide_eq_of_perm_evidence {input : DecisionInput} {records : List EvidenceRecord}
    (hids : (input.evidence.map EvidenceRecord.id).Nodup) (hperm : records.Perm input.evidence) :
    Engine.decide { input with evidence := records } = Engine.decide input := by
  have hmem : ∀ id, id ∈ records.map EvidenceRecord.id ↔
      id ∈ input.evidence.map EvidenceRecord.id := fun id => (hperm.map _).mem_iff
  have hids' : (records.map EvidenceRecord.id).Nodup := (hperm.map _).nodup_iff.mpr hids
  have hcontracts : assembleContracts { input with evidence := records }
      (records.map EvidenceRecord.id) input.activeContracts =
      assembleContracts input (input.evidence.map EvidenceRecord.id) input.activeContracts := by
    refine assembleContracts_mono (i := input) (j := { input with evidence := records })
      (fun _ => rfl) (fun _ => rfl) (fun id => (hmem id).mpr) fun c hc hseen => ?_
    exact (mem_assembleContracts hc).2 ((hmem _).mp hseen)
  have hpool : (pool { input with evidence := records }).Perm (pool input) := by
    have hassemble : (assemble { input with evidence := records }).Perm (assemble input) := by
      unfold assemble
      rw [hcontracts, assembleEvidence_eq (by simp) hids, assembleEvidence_eq (by simp) hids']
      exact (hperm.map _).append_right _
    exact hassemble.map _
  refine decide_congr ⟨rfl, rfl, rfl, rfl, rfl, rfl⟩ ?_
  refine insertionSort_eq_of_perm _ candidateKey candidateBefore_false_iff hpool ?_
  intro a ha b hb hab
  have hrank : rankKey a.record = rankKey b.record :=
    congrArg (fun k : Bool ×ₗ Rank => (ofLex k).2) hab
  exact List.inj_on_of_nodup_map (nodup_poolIds hids') ha hb (rankKey_eq_iff_id hrank)

structure SameDecision (d e : Classification) : Prop where
  digest : d.digest = e.digest
  semantic : d.semantic = e.semantic
  state : d.state = e.state
  confidence : d.confidence = e.confidence
  selectedEvidence : d.selectedEvidence = e.selectedEvidence
  selectedSource : d.selectedSource = e.selectedSource
  citations : d.citations.map citationCore = e.citations.map citationCore
  contradictions : d.contradictions = e.contradictions
  corroborationCount : d.corroborationCount = e.corroborationCount
  penalty : d.appliedPenaltyBasisPoints = e.appliedPenaltyBasisPoints

theorem sameDecision_of_digestible {d e : Classification} (h : digestible d = digestible e)
    (hdigest : d.digest = e.digest) : SameDecision d e := by
  have hfield : ∀ {β : Type} (f : Classification → β), f (digestible d) = f (digestible e) :=
    fun f => congrArg f h
  exact ⟨hdigest, hfield Classification.semantic, hfield Classification.state,
    hfield Classification.confidence, hfield Classification.selectedEvidence,
    hfield Classification.selectedSource, hfield Classification.citations,
    hfield Classification.contradictions, hfield Classification.corroborationCount,
    hfield Classification.appliedPenaltyBasisPoints⟩

/-- When and where a decision is made does not show in it. -/
theorem decide_reproducible {i j : DecisionInput}
    {pairs : List (EvidenceRecord × EvidenceRecord)} (h : Counterparts i j pairs)
    (hzeros : ZerosKept i pairs)
    (hlisted : j.evidence = pairs.map Prod.snd ∨ (i.evidence.map EvidenceRecord.id).Nodup) :
    SameDecision (Engine.decide i) (Engine.decide j) := by
  obtain ⟨zs, hpaired⟩ := exists_paired h hzeros
  obtain ⟨sorted, hsorted⟩ := exists_sortedPairs h.listed hpaired
  obtain ⟨hsame, hdigest⟩ := digestible_decide h.listed.policy.symm hsorted.digestible_verdict
  have hlist : Engine.decide { j with evidence := pairs.map Prod.snd } = Engine.decide j := by
    rcases hlisted with heq | hids
    · rw [← heq]
    · have hids' : (j.evidence.map EvidenceRecord.id).Nodup := by
        rw [(h.second.map _).nodup_iff, h.ids_eq, ← h.first]
        exact hids
      exact decide_eq_of_perm_evidence hids' h.second.symm
  rw [hlist] at hsame hdigest
  exact sameDecision_of_digestible hsame hdigest

def acceptedRecord (id : Bytes) (source : EvidenceSource) (semantic : SemanticClass)
    (epoch : CoordinatorEpoch) (seq : Seq) : EvidenceRecord :=
  { id := .make id, publisher := .make (text "agent"), publisherBoot := 2, acceptedEpoch := epoch,
    workloadGeneration := 1, flowId := sampleInput.flow.id, flowGeneration := 3,
    acceptedSeq := seq, semantic := semantic, source := source, confidence := source.confidence }

def askedInput (epoch : CoordinatorEpoch) (records : List EvidenceRecord) : DecisionInput :=
  { sampleInput with
    evidence := records
    activeContracts := sampleInput.activeContracts.take 1
    authority :=
      { epoch := epoch, coordinatorBoot := epoch, tick := 5 * epoch,
        livePublisherBoots := [text "agent@2"], knownPublishers := [text "agent"] } }

def acceptedPairs : List (EvidenceRecord × EvidenceRecord) :=
  [(acceptedRecord (text "evd-a") .declaredAuthenticated .collective 1 3,
      acceptedRecord (text "evd-a") .declaredAuthenticated .collective 9 40),
    (acceptedRecord (text "evd-b") .declaredAuthenticated .shuffle 1 2,
      acceptedRecord (text "evd-b") .declaredAuthenticated .shuffle 9 17)]

theorem decide_reproducible_epochs :
    SameDecision (Engine.decide (askedInput 1 (acceptedPairs.map Prod.fst)))
        (Engine.decide (askedInput 9 (acceptedPairs.map Prod.snd))) ∧
      (Engine.decide (askedInput 9 (acceptedPairs.map Prod.snd))).semantic = .collective := by
  have hparts : Counterparts (askedInput 1 (acceptedPairs.map Prod.fst))
      (askedInput 9 (acceptedPairs.map Prod.snd)) acceptedPairs := by
    refine ⟨⟨rfl, rfl, rfl, rfl, rfl⟩, rfl, List.Perm.refl _, ?_, by decide +kernel,
      by decide +kernel⟩
    intro p hp
    simp only [acceptedPairs, List.mem_cons, List.not_mem_nil, or_false] at hp
    rcases hp with rfl | rfl <;> exact ⟨rfl, rfl, rfl, rfl, rfl, rfl, rfl⟩
  exact ⟨decide_reproducible hparts (fun _ => by decide +kernel) (Or.inl rfl),
    by decide +kernel⟩

/-- A record under the number 0 is listed after a derived candidate with a smaller identity,
and under any other number before it. Of two records with one identity the one that is given
first is considered and the other rejected. -/
theorem correspondence_not_enough :
    (let first := acceptedRecord (text "evd-z") .contractDerived .shuffle 1 0
      let second := acceptedRecord (text "evd-z") .contractDerived .shuffle 1 5
      Counterparts (askedInput 1 [first]) (askedInput 1 [second]) [(first, second)] ∧
        (Engine.decide (askedInput 1 [first])).semantic ≠
          (Engine.decide (askedInput 1 [second])).semantic) ∧
    (let first := acceptedRecord (text "evd-a") .declaredAuthenticated .collective 1 3
      let second := acceptedRecord (text "evd-a") .declaredAuthenticated .shuffle 1 2
      let pairs := [(first, first), (second, second)]
      Counterparts (askedInput 1 [first, second]) (askedInput 1 [second, first]) pairs ∧
        ZerosKept (askedInput 1 [first, second]) pairs ∧
        (Engine.decide (askedInput 1 [first, second])).semantic ≠
          (Engine.decide (askedInput 1 [second, first])).semantic) := by
  refine ⟨⟨⟨⟨rfl, rfl, rfl, rfl, rfl⟩, rfl, List.Perm.refl _, ?_, by decide +kernel,
    by decide +kernel⟩, by decide +kernel⟩, ⟨⟨rfl, rfl, rfl, rfl, rfl⟩, rfl, List.Perm.swap .., ?_,
    by decide +kernel, rfl⟩, fun _ => by decide +kernel, by decide +kernel⟩
  · rw [List.forall_mem_singleton]
    exact ⟨rfl, rfl, rfl, rfl, rfl, rfl, rfl⟩
  · simp only [List.forall_mem_cons, List.not_mem_nil, false_imp_iff, implies_true, and_true]
    exact ⟨⟨rfl, rfl, rfl, rfl, rfl, rfl, rfl⟩, rfl, rfl, rfl, rfl, rfl, rfl, rfl⟩

end FlowClassifier.Reproducibility
