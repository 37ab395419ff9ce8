import FlowClassifier.Pool

/-!
Candidates that cannot win. Two inputs are compared whose pools differ by such candidates:
records that are heuristic or not current, and later repetitions of an identity. The former
change nothing of what a decision says. A rejected repetition keeps the state it was given
with, and the passes after the currentness rules look at that state and not at the
rejection, so one that is given as CURRENT corroborates or contradicts.
-/
namespace FlowClassifier.WeakEvidence

open Foundation Evidence Policies Classifications Engine DecisionSpec EngineCorrect Pool

variable {w : Candidate} {d' d : Classification}

/-- The second input has the candidates of the first and others, none of which can win. -/
structure Padded (input padded : DecisionInput) (extra : List Candidate) : Prop where
  policy : padded.policy = input.policy
  revoked : padded.generationRevoked = input.generationRevoked
  pool : (pool padded).Perm (Pool.pool input ++ extra)
  weak : ∀ c ∈ extra, eligible c = false

section Padding

variable {input padded : DecisionInput} {extra : List Candidate}

theorem Padded.mem_iff (h : Padded input padded extra) {c : Candidate}
    (hc : eligible c = true) : c ∈ Pool.pool padded ↔ c ∈ Pool.pool input := by
  rw [h.pool.mem_iff, List.mem_append, or_iff_left]
  intro hextra
  rw [h.weak c hextra] at hc
  cases hc

theorem Padded.winner (h : Padded input padded extra) :
    Engine.winner padded = Engine.winner input := by
  apply Option.ext
  intro w
  rw [winner_eq_some_iff, winner_eq_some_iff, h.revoked]
  refine and_congr_right fun _ => ⟨?_, ?_⟩
  · exact Leads.congr fun c hc => h.mem_iff hc
  · exact Leads.congr fun c hc => (h.mem_iff hc).symm

theorem Padded.corroboration (h : Padded input padded extra) (hw : Engine.winner input = some w) :
    Engine.corroboration padded = Engine.corroboration input + extra.countP (supports w) := by
  have hbase := corroboration_add_one hw
  have hmore := corroboration_add_one (h.winner.trans hw)
  rw [h.pool.countP_eq, List.countP_append] at hmore
  omega

theorem Padded.length_contradictions (h : Padded input padded extra) (w : Candidate) :
    (contradictions padded w).length =
      (contradictions input w).length + extra.countP (contradicts w) := by
  rw [Pool.length_contradictions, Pool.length_contradictions, h.pool.countP_eq, List.countP_append]

theorem Padded.contradictions (h : Padded input padded extra)
    (hids : ((Pool.pool input).map (·.record.id)).Nodup)
    (hnone : ∀ c ∈ extra, contradicts w c = false) :
    Engine.contradictions padded w = Engine.contradictions input w := by
  have hnil : extra.filter (contradicts w) = [] :=
    List.filter_eq_nil_iff.mpr fun c hc => by simp [hnone c hc]
  have hperm := h.pool.filter (contradicts w)
  rw [List.filter_append, hnil, List.append_nil] at hperm
  refine (contradictions_congr hperm.symm fun a ha b hb hab => ?_).symm
  exact List.inj_on_of_nodup_map hids (List.mem_of_mem_filter ha) (List.mem_of_mem_filter hb) hab

/-- Candidates that neither agree nor contradict change nothing where there is a winner. -/
theorem Padded.outcome_of_winner (h : Padded input padded extra)
    (hids : ((Pool.pool input).map (·.record.id)).Nodup)
    (hw : Engine.winner input = some w) (hsupports : ∀ c ∈ extra, supports w c = false)
    (hcontradicts : ∀ c ∈ extra, contradicts w c = false) :
    outcome (Engine.decide padded) = outcome (Engine.decide input) := by
  have hcount : Engine.corroboration padded = Engine.corroboration input := by
    rw [h.corroboration hw, List.countP_eq_zero.mpr fun c hc => by simp [hsupports c hc],
      Nat.add_zero]
  rw [Pool.outcome_of_winner hw, Pool.outcome_of_winner (h.winner.trans hw), h.policy, hcount,
    h.contradictions hids hcontradicts]

end Padding

/-- The candidates with identities that occur once, among others. -/
theorem filter_assembleEvidence {keep : EvidenceId → Bool} {seen : List EvidenceId}
    {records : List EvidenceRecord}
    (hnd : ((records.filter (keep ·.id)).map EvidenceRecord.id).Nodup)
    (hseen : ∀ r ∈ records, keep r.id = true → r.id ∉ seen) :
    (assembleEvidence seen records).filter (keep ·.record.id) =
      (records.filter (keep ·.id)).map freshCandidate := by
  induction records generalizing seen with
  | nil => rfl
  | cons r rest ih =>
    by_cases hkeep : keep r.id = true
    · have hrecords : (r :: rest).filter (keep ·.id) = r :: rest.filter (keep ·.id) :=
        List.filter_cons_of_pos hkeep
      rw [hrecords, List.map_cons, List.nodup_cons] at hnd
      have hrest : ∀ s ∈ rest, keep s.id = true → s.id ∉ r.id :: seen := by
        intro s hs hks hmem
        rcases List.mem_cons.mp hmem with heq | hold
        · exact hnd.1 (heq ▸ List.mem_map_of_mem (List.mem_filter.mpr ⟨hs, hks⟩))
        · exact hseen s (by simp [hs]) hks hold
      rw [assembleEvidence, if_neg (hseen r (by simp) hkeep), hrecords, List.map_cons,
        ← ih hnd.2 hrest]
      exact List.filter_cons_of_pos hkeep
    · have hrecords : (r :: rest).filter (keep ·.id) = rest.filter (keep ·.id) :=
        List.filter_cons_of_neg hkeep
      rw [hrecords] at hnd
      rw [hrecords, assembleEvidence]
      split_ifs
      · rw [← ih hnd fun s hs => hseen s (by simp [hs])]
        exact List.filter_cons_of_neg hkeep
      · have hrest : ∀ s ∈ rest, keep s.id = true → s.id ∉ r.id :: seen := by
          intro s hs hks hmem
          rcases List.mem_cons.mp hmem with heq | hold
          · exact hkeep (heq ▸ hks)
          · exact hseen s (by simp [hs]) hks hold
        rw [← ih hnd hrest]
        exact List.filter_cons_of_neg hkeep

def addedCandidates (input : DecisionInput) (all : List EvidenceRecord) : List Candidate :=
  ((assembleEvidence [] all).filter fun c =>
    !Decidable.decide (c.record.id ∈ input.evidence.map EvidenceRecord.id)).map (evaluate input)

section Added

variable {input : DecisionInput} {added all : List EvidenceRecord}
  (hids : (input.evidence.map EvidenceRecord.id).Nodup)
  (hall : all.Perm (input.evidence ++ added))
  (hnew : ∀ r ∈ added, ∀ c ∈ pool input, r.id ≠ c.record.id)

include hids hall hnew

theorem perm_pool_added :
    (pool { input with evidence := all }).Perm (pool input ++ addedCandidates input all) := by
  let keep : EvidenceId → Bool := fun id =>
    Decidable.decide (id ∈ input.evidence.map EvidenceRecord.id)
  have hbase : ∀ r ∈ input.evidence, keep r.id = true := fun r hr =>
    decide_eq_true (List.mem_map_of_mem hr)
  have hgiven : assembleEvidence [] input.evidence = input.evidence.map freshCandidate :=
    assembleEvidence_eq (by simp) hids
  have hcandidate : ∀ r ∈ input.evidence, ∃ c ∈ pool input, c.record.id = r.id := by
    intro r hr
    refine ⟨evaluate input (freshCandidate r), List.mem_map_of_mem ?_, evaluate_id _ _⟩
    rw [assemble, hgiven]
    exact List.mem_append_left _ (List.mem_map_of_mem hr)
  have hother : ∀ r ∈ added, keep r.id = false := by
    intro r hr
    refine decide_eq_false fun hmem => ?_
    obtain ⟨s, hs, heq⟩ := List.mem_map.mp hmem
    obtain ⟨c, hc, hid⟩ := hcandidate s hs
    exact hnew r hr c hc (by rw [hid, heq])
  have hself : input.evidence.filter (keep ·.id) = input.evidence := List.filter_eq_self.mpr hbase
  have hnil : added.filter (keep ·.id) = [] :=
    List.filter_eq_nil_iff.mpr fun r hr => by simp [hother r hr]
  have hkept : (all.filter (keep ·.id)).Perm input.evidence := by
    refine (hall.filter _).trans ?_
    rw [List.filter_append, hself, hnil, List.append_nil]
  have hnd : ((all.filter (keep ·.id)).map EvidenceRecord.id).Nodup :=
    (hkept.map _).nodup_iff.mpr hids
  have hfresh := filter_assembleEvidence hnd fun r _ _ => List.not_mem_nil
  -- the contracts see more identities, but none of a derived candidate
  have hcontracts : assembleContracts { input with evidence := all }
      (all.map EvidenceRecord.id) input.activeContracts =
      assembleContracts input (input.evidence.map EvidenceRecord.id) input.activeContracts := by
    have hmem : ∀ id, id ∈ all.map EvidenceRecord.id ↔
        id ∈ input.evidence.map EvidenceRecord.id ∨ id ∈ added.map EvidenceRecord.id := by
      intro id
      rw [(hall.map _).mem_iff, List.map_append, List.mem_append]
    refine assembleContracts_mono (i := input) (j := { input with evidence := all })
      (fun _ => rfl) (fun _ => rfl) (fun id h => (hmem id).mpr (Or.inl h)) fun c hc hseen => ?_
    rcases (hmem _).mp hseen with hold | hmore
    · exact (mem_assembleContracts hc).2 hold
    · obtain ⟨r, hr, heq⟩ := List.mem_map.mp hmore
      refine hnew r hr (evaluate input c) (List.mem_map_of_mem ?_) (by rw [evaluate_id, heq])
      exact List.mem_append_right _ hc
  have hsplit := List.filter_append_perm (fun c : Candidate => keep c.record.id)
    (assembleEvidence [] all)
  have hassemble : (assemble { input with evidence := all }).Perm (assemble input ++
      (assembleEvidence [] all).filter fun c => !keep c.record.id) := by
    unfold assemble
    rw [hcontracts]
    rw [hfresh] at hsplit
    have hevidence := hsplit.symm.trans ((hkept.map freshCandidate).append_right _)
    rw [← hgiven] at hevidence
    refine (hevidence.append_right _).trans ?_
    rw [List.append_assoc, List.append_assoc]
    exact List.perm_append_comm.append_left _
  have hmapped := hassemble.map (evaluate input)
  rw [List.map_append] at hmapped
  exact hmapped

end Added

def Unmoved (before after : Classification) : Prop :=
  after.semantic = before.semantic ∧ after.confidence = before.confidence ∧
    after.selectedEvidence = before.selectedEvidence ∧
    after.selectedSource = before.selectedSource ∧
    after.contradictions = before.contradictions ∧
    after.corroborationCount = before.corroborationCount ∧
    after.appliedPenaltyBasisPoints = before.appliedPenaltyBasisPoints

theorem unmoved_of_outcome {before after : Classification} {s : ClassificationState}
    (h : outcome after = { outcome before with state := s }) :
    Unmoved before after ∧ after.state = s :=
  ⟨⟨congrArg Outcome.semantic h, congrArg Outcome.confidence h,
    congrArg Outcome.selectedEvidence h, congrArg Outcome.selectedSource h,
    congrArg Outcome.contradictions h, congrArg Outcome.corroborationCount h,
    congrArg Outcome.appliedPenaltyBasisPoints h⟩, congrArg Outcome.state h⟩

/-- Adding records that are heuristic or not current leaves every field of a decision that
says something as it is, and the state too where there is a winner or a revocation. -/
theorem weak_evidence_inert {input : DecisionInput} {added all : List EvidenceRecord}
    (hids : (input.evidence.map EvidenceRecord.id).Nodup)
    (hall : all.Perm (input.evidence ++ added))
    (hnew : ∀ r ∈ added, ∀ c ∈ pool input, r.id ≠ c.record.id)
    (hweak : ∀ c ∈ pool { input with evidence := all }, c.record.id ∈ added.map EvidenceRecord.id →
      c.record.source = .heuristic ∨ c.record.state ≠ .current) :
    Unmoved (Engine.decide input) (Engine.decide { input with evidence := all }) ∧
      ((input.generationRevoked = true ∨ ∃ c ∈ pool input, c.record.state = .current ∧
          c.record.source ≠ .heuristic ∧ c.record.semantic ≠ .unknown) →
        (Engine.decide { input with evidence := all }).state = (Engine.decide input).state) := by
  have hperm := perm_pool_added hids hall hnew
  have hextra : ∀ c ∈ addedCandidates input all,
      c.record.source = .heuristic ∨ c.record.state ≠ .current := by
    intro c hc
    refine hweak c (hperm.mem_iff.mpr (List.mem_append_right _ hc)) ?_
    obtain ⟨a, ha, rfl⟩ := List.mem_map.mp hc
    obtain ⟨hmem, hother⟩ := List.mem_filter.mp ha
    rw [Bool.not_eq_true', decide_eq_false_iff_not] at hother
    have hin := (hall.map EvidenceRecord.id).mem_iff.mp
      (List.mem_map_of_mem (mem_assembleEvidence hmem).1)
    rw [List.map_append, List.mem_append] at hin
    rw [evaluate_id]
    exact hin.resolve_left hother
  have hpadded : Padded input { input with evidence := all } (addedCandidates input all) := by
    refine ⟨rfl, rfl, hperm, fun c hc => ?_⟩
    rw [← Bool.not_eq_true]
    intro helig
    have hselected := selected_of_mem_pool (hperm.mem_iff.mpr (List.mem_append_right _ hc))
      (selected_of_eligible helig).1
    rcases hextra c hc with hheuristic | hstate
    · exact hselected.2 hheuristic
    · exact hstate hselected.1
  cases hwin : winner input with
  | some w =>
    have hnone : ∀ c ∈ addedCandidates input all,
        (c.record.state == .current && !c.record.source.isHeuristic) = false := by
      intro c hc
      rcases hextra c hc with hheuristic | hstate
      · simp [EvidenceSource.isHeuristic, hheuristic]
      · simp [hstate]
    obtain ⟨hunmoved, hstate⟩ := unmoved_of_outcome
      (hpadded.outcome_of_winner (nodup_poolIds hids) hwin
        (fun c hc => by simp only [supports, hnone c hc, Bool.false_and])
        (fun c hc => by simp only [contradicts, hnone c hc, Bool.false_and]))
    exact ⟨hunmoved, fun _ => hstate⟩
  | none =>
    -- without a winner only the state can differ
    have hopen := outcome_of_no_winner hwin
    obtain ⟨hunmoved, hstate⟩ := unmoved_of_outcome
      ((outcome_of_no_winner (hpadded.winner.trans hwin)).trans (by rw [hopen]))
    refine ⟨hunmoved, fun hcase => ?_⟩
    by_cases hrev : input.generationRevoked = true
    · rw [hstate, show (Engine.decide input).state = _ from congrArg Outcome.state hopen]
      simp only [openStateOf, hrev, if_true]
    · rcases hcase with hrev' | ⟨c, hc, hcurrent, hsource, hsemantic⟩
      · exact absurd hrev' hrev
      · obtain ⟨w, hw⟩ := winner_isSome (Bool.eq_false_of_not_eq_true hrev) hc
          (eligible_of_mem_pool hids hc hcurrent hsource hsemantic)
        rw [hwin] at hw
        cases hw

def sampleRecord (id : Bytes) (source : EvidenceSource) (semantic : SemanticClass)
    (epoch : CoordinatorEpoch) : EvidenceRecord :=
  { id := .make id, publisher := .make (text "agent"), publisherBoot := 2, acceptedEpoch := epoch,
    flowId := sampleInput.flow.id, flowGeneration := 3, semantic := semantic, source := source,
    confidence := source.confidence }

def plainInput : DecisionInput :=
  { sampleInput with
    evidence := [sampleRecord (text "evd-a") .declaredAuthenticated .collective 1]
    activeContracts := []
    workloads := [] }

def weakRecords : List EvidenceRecord :=
  [sampleRecord (text "evd-b") .heuristic .shuffle 1,
    sampleRecord (text "evd-c") .declaredAuthenticated .shuffle 7]

theorem weak_evidence_inert_sample :
    Unmoved (Engine.decide plainInput)
      (Engine.decide { plainInput with evidence := plainInput.evidence ++ weakRecords }) ∧
    (Engine.decide { plainInput with evidence := plainInput.evidence ++ weakRecords }).state =
      (Engine.decide plainInput).state := by
  have hinert := @weak_evidence_inert plainInput weakRecords (plainInput.evidence ++ weakRecords)
    (by decide +kernel) (List.Perm.refl _) (by decide +kernel) (by decide +kernel)
  exact ⟨hinert.1, hinert.2 (by decide +kernel)⟩

def firstOccurrences : List EvidenceId → List EvidenceRecord → List EvidenceRecord
  | _, [] => []
  | seen, r :: rest =>
    if r.id ∈ seen then firstOccurrences seen rest
    else r :: firstOccurrences (r.id :: seen) rest

def laterDuplicates : List EvidenceId → List EvidenceRecord → List EvidenceRecord
  | _, [] => []
  | seen, r :: rest =>
    if r.id ∈ seen then r :: laterDuplicates seen rest
    else laterDuplicates (r.id :: seen) rest

def withoutDuplicates (input : DecisionInput) : DecisionInput :=
  { input with evidence := firstOccurrences [] input.evidence }

theorem mem_ids_firstOccurrences {seen : List EvidenceId} {records : List EvidenceRecord}
    {id : EvidenceId} : id ∈ (firstOccurrences seen records).map EvidenceRecord.id ↔
      id ∈ records.map EvidenceRecord.id ∧ id ∉ seen := by
  induction records generalizing seen with
  | nil => simp [firstOccurrences]
  | cons r rest ih =>
    rw [firstOccurrences]
    split_ifs with hseen
    · rw [ih, List.map_cons, List.mem_cons]
      constructor
      · exact fun h => ⟨Or.inr h.1, h.2⟩
      · rintro ⟨rfl | hmem, hnew⟩
        · exact absurd hseen hnew
        · exact ⟨hmem, hnew⟩
    · rw [List.map_cons, List.mem_cons, ih, List.map_cons, List.mem_cons, List.mem_cons, not_or]
      constructor
      · rintro (rfl | ⟨hmem, -, hnew⟩)
        · exact ⟨Or.inl rfl, hseen⟩
        · exact ⟨Or.inr hmem, hnew⟩
      · rintro ⟨hhead | hmem, hnew⟩
        · exact Or.inl hhead
        · by_cases heq : id = r.id
          · exact Or.inl heq
          · exact Or.inr ⟨hmem, heq, hnew⟩

theorem nodup_firstOccurrences (seen : List EvidenceId) (records : List EvidenceRecord) :
    ((firstOccurrences seen records).map EvidenceRecord.id).Nodup := by
  induction records generalizing seen with
  | nil => exact List.nodup_nil
  | cons r rest ih =>
    rw [firstOccurrences]
    split_ifs
    · exact ih seen
    · rw [List.map_cons, List.nodup_cons, mem_ids_firstOccurrences]
      exact ⟨fun h => h.2 List.mem_cons_self, ih _⟩

theorem perm_assembleEvidence (seen : List EvidenceId) (records : List EvidenceRecord) :
    (assembleEvidence seen records).Perm ((firstOccurrences seen records).map freshCandidate ++
      (laterDuplicates seen records).map rejectedCandidate) := by
  induction records generalizing seen with
  | nil => exact List.Perm.refl _
  | cons r rest ih =>
    rw [assembleEvidence, firstOccurrences, laterDuplicates]
    split_ifs
    · rw [List.map_cons]
      exact ((ih seen).cons _).trans List.perm_middle.symm
    · rw [List.map_cons, List.cons_append]
      exact (ih _).cons _

/-- The rejected repetitions are candidates on top of those of the other records. -/
theorem padded_duplicates (input : DecisionInput) : Padded (withoutDuplicates input) input
      ((laterDuplicates [] input.evidence).map rejectedCandidate) := by
  have hgiven : assembleEvidence [] (firstOccurrences [] input.evidence) =
      (firstOccurrences [] input.evidence).map freshCandidate :=
    assembleEvidence_eq (by simp) (nodup_firstOccurrences _ _)
  have hmem : ∀ id, id ∈ (firstOccurrences [] input.evidence).map EvidenceRecord.id ↔
      id ∈ input.evidence.map EvidenceRecord.id := by
    intro id
    rw [mem_ids_firstOccurrences]
    exact and_iff_left List.not_mem_nil
  have hcontracts : assembleContracts input (input.evidence.map EvidenceRecord.id)
      input.activeContracts = assembleContracts (withoutDuplicates input)
        ((firstOccurrences [] input.evidence).map EvidenceRecord.id) input.activeContracts := by
    refine assembleContracts_mono (i := withoutDuplicates input) (j := input) (fun _ => rfl)
      (fun _ => rfl) (fun id => (hmem id).mp) fun c hc hseen => ?_
    exact (mem_assembleContracts hc).2 ((hmem _).mpr hseen)
  have hassemble : (assemble input).Perm (assemble (withoutDuplicates input) ++
      (laterDuplicates [] input.evidence).map rejectedCandidate) := by
    unfold assemble
    rw [hcontracts]
    refine ((perm_assembleEvidence [] input.evidence).append_right _).trans ?_
    rw [← hgiven, List.append_assoc]
    refine (List.perm_append_comm.append_left _).trans ?_
    rw [← List.append_assoc]
    exact List.Perm.refl _
  refine ⟨rfl, rfl, ?_, fun c hc => ?_⟩
  · have hmapped := hassemble.map (evaluate input)
    have hrejected : ((laterDuplicates [] input.evidence).map rejectedCandidate).map
        (evaluate input) = (laterDuplicates [] input.evidence).map rejectedCandidate := by
      rw [List.map_map]
      exact List.map_congr_left fun r _ => evaluate_rejected input r
    rw [List.map_append, hrejected] at hmapped
    exact hmapped
  · obtain ⟨r, -, rfl⟩ := List.mem_map.mp hc
    rfl

def Counts (r : EvidenceRecord) : Prop :=
  r.state = .current ∧ r.source ≠ .heuristic ∧ r.semantic ≠ .unknown

/-- The repetitions do not change the state that is reported without a winner. -/
def OpenStateKept (cs : List Candidate) (duplicates : List EvidenceRecord) : Prop :=
  let current := ∃ c ∈ cs, c.record.state = .current
  let outdated := ∃ c ∈ cs, c.record.state = .stale ∨ c.record.state = .superseded
  ((∃ r ∈ duplicates, r.state = .current) → current ∨ ¬ outdated) ∧
    ((∀ r ∈ duplicates, r.state ≠ .current) →
      (∃ r ∈ duplicates, r.state = .stale ∨ r.state = .superseded) → current ∨ outdated)

/-- The repetitions have no effect on the verdict and on the state. -/
def DuplicatesInert (input : DecisionInput) : Prop :=
  let others := pool (withoutDuplicates input)
  let duplicates := laterDuplicates [] input.evidence
  input.generationRevoked = true ∨
    (∃ w, Leads others w ∧
      (FallsShort input.policy w.record (others.any (contradicts w)) ∨
        ∀ r ∈ duplicates, ¬ Counts r)) ∨
    ((∀ c ∈ others, eligible c = false) ∧ OpenStateKept others duplicates)

/-- A penalty never raises the confidence. -/
theorem FallsShort.mono {policy : ClassifierPolicy} {w : EvidenceRecord} {a b : Bool}
    (h : FallsShort policy w a) (hab : a = true → b = true) : FallsShort policy w b := by
  unfold FallsShort penalisedConfidence at h ⊢
  cases a with
  | true =>
    rw [hab rfl]
    exact h
  | false =>
    cases b with
    | false => exact h
    | true =>
      simp only [if_true, Bool.false_eq_true, if_false, Confidence.basisPoints_reducedBy] at h ⊢
      omega

section Repeated

variable {input : DecisionInput}
  (hwin : winner (withoutDuplicates input) = some w)

include hwin

theorem counts_iff (r : EvidenceRecord) : Counts r ↔ supports w (rejectedCandidate r) = true ∨
      contradicts w (rejectedCandidate r) = true := by
  have hnamed := (selected_of_eligible (leads_of_winner hwin).2.eligible).2
  simp only [Counts, supports, contradicts, rejectedCandidate, EvidenceSource.isHeuristic,
    Bool.and_eq_true, beq_iff_eq, Bool.not_eq_true', beq_eq_false_iff_ne, bne_iff_ne]
  constructor
  · rintro ⟨hstate, hsource, hsemantic⟩
    by_cases hsame : r.semantic = w.record.semantic
    · exact Or.inl ⟨⟨hstate, hsource⟩, hsame⟩
    · exact Or.inr ⟨⟨⟨hstate, hsource⟩, hsame⟩, hsemantic⟩
  · rintro (⟨⟨hstate, hsource⟩, hsame⟩ | ⟨⟨⟨hstate, hsource⟩, -⟩, hsemantic⟩)
    · exact ⟨hstate, hsource, hsame ▸ hnamed⟩
    · exact ⟨hstate, hsource, hsemantic⟩

/-- A rejected repetition counts by the state it was given with. -/
theorem no_duplicate_counts_iff :
    (contradictions input w = contradictions (withoutDuplicates input) w ∧
        corroboration input = corroboration (withoutDuplicates input)) ↔
      ∀ r ∈ laterDuplicates [] input.evidence, ¬ Counts r := by
  have hpadded := padded_duplicates input
  have hcount := hpadded.corroboration hwin
  have hlength := hpadded.length_contradictions w
  constructor
  · rintro ⟨hfound, hsame⟩ r hr hcounts
    rw [hfound] at hlength
    have hmem : rejectedCandidate r ∈ (laterDuplicates [] input.evidence).map rejectedCandidate :=
      List.mem_map_of_mem hr
    rcases (counts_iff hwin r).mp hcounts with hsupports | hcontradicts
    · have hpos := List.countP_pos_iff.mpr ⟨_, hmem, hsupports⟩
      omega
    · have hpos := List.countP_pos_iff.mpr ⟨_, hmem, hcontradicts⟩
      omega
  · intro hnone
    have hsilent : ∀ c ∈ (laterDuplicates [] input.evidence).map rejectedCandidate,
        supports w c = false ∧ contradicts w c = false := by
      intro c hc
      obtain ⟨r, hr, rfl⟩ := List.mem_map.mp hc
      have hneither := mt (counts_iff hwin r).mpr (hnone r hr)
      rw [not_or, Bool.not_eq_true, Bool.not_eq_true] at hneither
      exact hneither
    refine ⟨hpadded.contradictions (nodup_poolIds (nodup_firstOccurrences _ _)) fun c hc =>
      (hsilent c hc).2, ?_⟩
    rw [hcount, List.countP_eq_zero.mpr fun c hc => by simp [(hsilent c hc).1], Nat.add_zero]

end Repeated

def SameVerdict (d d' : Classification) : Prop :=
  d.semantic = d'.semantic ∧ d.confidence = d'.confidence ∧ d.state = d'.state ∧
    d.corroborationCount = d'.corroborationCount ∧ d.contradictions = d'.contradictions ∧
    d.appliedPenaltyBasisPoints = d'.appliedPenaltyBasisPoints

theorem sameVerdict_of_outcome (h : outcome d = outcome d') : SameVerdict d d' :=
  ⟨congrArg Outcome.semantic h, congrArg Outcome.confidence h, congrArg Outcome.state h,
    congrArg Outcome.corroborationCount h, congrArg Outcome.contradictions h,
    congrArg Outcome.appliedPenaltyBasisPoints h⟩

/-- With one winner two decisions say the same if it is not published, or if as much is
found about it. -/
theorem sameVerdict_winning {policy : ClassifierPolicy}
    {w : EvidenceRecord} {found found' : List ClassificationContradiction} {count count' : ℕ}
    (hd : outcome d = winningOutcome policy w found count)
    (hd' : outcome d' = winningOutcome policy w found' count') (hnamed : w.semantic ≠ .unknown)
    (hmore : found'.length ≤ found.length) : SameVerdict d d' ↔
      FallsShort policy w (!found'.isEmpty) ∨ found = found' ∧ count = count' := by
  constructor
  · rintro ⟨hsemantic, -, -, hcount, hfound, -⟩
    refine or_iff_not_imp_left.mpr fun hpublished' => ?_
    rw [winningOutcome, if_neg hpublished'] at hd'
    have hclass : d.semantic = w.semantic := hsemantic.trans (congrArg Outcome.semantic hd')
    have hpublished : ¬ FallsShort policy w (!found.isEmpty) := by
      intro hshort
      rw [winningOutcome, if_pos hshort] at hd
      exact hnamed (hclass.symm.trans (congrArg Outcome.semantic hd))
    rw [winningOutcome, if_neg hpublished] at hd
    exact ⟨(congrArg Outcome.contradictions hd).symm.trans
        (hfound.trans (congrArg Outcome.contradictions hd')),
      (congrArg Outcome.corroborationCount hd).symm.trans
        (hcount.trans (congrArg Outcome.corroborationCount hd'))⟩
  · rintro (hshort | ⟨rfl, rfl⟩)
    · refine sameVerdict_of_outcome ?_
      have hshort' : FallsShort policy w (!found.isEmpty) := by
        refine FallsShort.mono hshort fun hsome => ?_
        rw [Bool.not_eq_true', List.isEmpty_eq_false_iff, ← List.length_pos_iff] at hsome ⊢
        omega
      rw [hd, hd', winningOutcome, winningOutcome, if_pos hshort, if_pos hshort']
    · exact sameVerdict_of_outcome (hd.trans hd'.symm)

theorem sameVerdict_open {s s' : ClassificationState}
    (hd : outcome d = { state := s }) (hd' : outcome d' = { state := s' }) :
    SameVerdict d d' ↔ s = s' := by
  constructor
  · rintro ⟨-, -, hstate, -⟩
    exact (congrArg Outcome.state hd).symm.trans (hstate.trans (congrArg Outcome.state hd'))
  · rintro rfl
    exact sameVerdict_of_outcome (hd.trans hd'.symm)

theorem openStateOf_duplicates_iff (cs : List Candidate) (duplicates : List EvidenceRecord) :
    openStateOf false (cs ++ duplicates.map rejectedCandidate) = openStateOf false cs ↔
      OpenStateKept cs duplicates := by
  have hsplit : ∀ p : EvidenceState → Bool,
      (cs ++ duplicates.map rejectedCandidate).any (fun c => p c.record.state) =
        (cs.any (fun c => p c.record.state) || duplicates.any fun r => p r.state) := by
    intro p
    rw [List.any_append, List.any_map]
    rfl
  have hcurrent := hsplit (· == .current)
  have houtdated := hsplit fun s => s == .stale || s == .superseded
  have hcs : ∀ p : EvidenceState → Bool,
      (∃ c ∈ cs, p c.record.state = true) ↔ cs.any (fun c => p c.record.state) = true :=
    fun p => List.any_eq_true.symm
  have hdups : ∀ p : EvidenceState → Bool,
      (∃ r ∈ duplicates, p r.state = true) ↔ duplicates.any (fun r => p r.state) = true :=
    fun p => List.any_eq_true.symm
  have hcs₁ := hcs (· == .current)
  have hcs₂ := hcs fun s => s == .stale || s == .superseded
  have hdups₁ := hdups (· == .current)
  have hdups₂ := hdups fun s => s == .stale || s == .superseded
  simp only [beq_iff_eq, Bool.or_eq_true] at hcs₁ hcs₂ hdups₁ hdups₂
  have hnone : (∀ r ∈ duplicates, r.state ≠ .current) ↔
      ¬ (duplicates.any fun r => r.state == .current) = true := by
    rw [← hdups₁]
    push Not
    exact Iff.rfl
  unfold openStateOf OpenStateKept
  dsimp only
  rw [hcurrent, houtdated, hcs₁, hcs₂, hdups₁, hdups₂, hnone]
  -- four facts about which states occur decide both sides
  generalize (cs.any fun c => c.record.state == .current) = a
  generalize (cs.any fun c => c.record.state == .stale || c.record.state == .superseded) = b
  generalize (duplicates.any fun r => r.state == .current) = a'
  generalize (duplicates.any fun r => r.state == .stale || r.state == .superseded) = b'
  revert a b a' b'
  decide

theorem openStateOf_perm {cs ds : List Candidate} (h : cs.Perm ds) (revoked : Bool) :
    openStateOf revoked cs = openStateOf revoked ds := by
  unfold openStateOf
  rw [h.any_eq, h.any_eq]

/-- Later repetitions of an identity leave what a decision says exactly when they are inert. -/
theorem duplicates_inert_iff (input : DecisionInput) :
    SameVerdict (Engine.decide input) (Engine.decide (withoutDuplicates input)) ↔
      DuplicatesInert input := by
  have hpadded := padded_duplicates input
  unfold DuplicatesInert
  dsimp only
  cases hwin : winner (withoutDuplicates input) with
  | some w =>
    obtain ⟨hrev, hleads⟩ := leads_of_winner hwin
    have hrev' : ¬ input.generationRevoked = true := Bool.eq_false_iff.mp hrev
    have hmore := hpadded.length_contradictions w
    have hgiven := outcome_of_winner (hpadded.winner.trans hwin)
    have hplain : outcome (Engine.decide (withoutDuplicates input)) = winningOutcome input.policy
        w.record (contradictions (withoutDuplicates input) w)
        (corroboration (withoutDuplicates input)) := outcome_of_winner hwin
    rw [sameVerdict_winning hgiven hplain (selected_of_eligible hleads.eligible).2 (by omega),
      no_duplicate_counts_iff hwin, isEmpty_contradictions]
    constructor
    · exact fun h => Or.inr (Or.inl ⟨w, hleads, h⟩)
    · rintro (hcontra | ⟨v, hv, h⟩ | ⟨hnone, -⟩)
      · exact absurd hcontra hrev'
      · rwa [hleads.unique hv]
      · have helig := hleads.eligible
        rw [hnone w hleads.mem] at helig
        cases helig
  | none =>
    rw [sameVerdict_open (outcome_of_no_winner (hpadded.winner.trans hwin))
      (outcome_of_no_winner hwin), openStateOf_perm hpadded.pool, hpadded.revoked]
    by_cases hrev : input.generationRevoked = true
    · have hrev' : (withoutDuplicates input).generationRevoked = true := hrev
      refine iff_of_true ?_ (Or.inl hrev)
      rw [hrev']
      rfl
    · have hrev' : (withoutDuplicates input).generationRevoked = false :=
        Bool.eq_false_of_not_eq_true hrev
      have hnone : ∀ c ∈ pool (withoutDuplicates input), eligible c = false := by
        intro c hc
        rw [← Bool.not_eq_true]
        intro helig
        obtain ⟨w, hw⟩ := winner_isSome hrev' hc helig
        rw [hwin] at hw
        cases hw
      rw [hrev', openStateOf_duplicates_iff]
      constructor
      · exact fun h => Or.inr (Or.inr ⟨hnone, h⟩)
      · rintro (hcontra | ⟨v, hv, -⟩ | ⟨-, hkept⟩)
        · exact absurd hcontra Bool.false_ne_true
        · have helig := hv.eligible
          rw [hnone v hv.mem] at helig
          cases helig
        · exact hkept

def repeatedInput : DecisionInput :=
  { plainInput with
    evidence := plainInput.evidence ++
      [sampleRecord (text "evd-a") .declaredAuthenticated .shuffle 1] }

/-- The repetition is rejected, and still contradicts the record it repeats. -/
theorem repeated_contradicts :
    (pool repeatedInput).map (·.disposition) = [.selected, .rejected] ∧
    (Engine.decide (withoutDuplicates repeatedInput)).state = .current ∧
    (Engine.decide repeatedInput).state = .contradicted ∧
    ¬ SameVerdict (Engine.decide repeatedInput)
      (Engine.decide (withoutDuplicates repeatedInput)) := by
  have hstates : (Engine.decide (withoutDuplicates repeatedInput)).state = .current ∧
      (Engine.decide repeatedInput).state = .contradicted := by decide +kernel
  refine ⟨by decide +kernel, hstates.1, hstates.2, fun hsame => ?_⟩
  have hstate := hsame.2.2.1
  rw [hstates.1, hstates.2] at hstate
  cases hstate

end FlowClassifier.WeakEvidence
