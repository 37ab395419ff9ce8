import FlowClassifier.Reproducibility
import FlowClassifier.Identities

/-!
What the digest of a decision determines. The encoding under it can be read back: counts and
lengths stand before what they count, and every number has a fixed width. So decisions with
one encoding agree on everything that is encoded. An encoding that does not fit its buffer
has the zero digest. Its size is a sum over the candidates, so it is known from the input
whether a decision is identified by its digest.
-/
namespace FlowClassifier.DecisionDigests

open Lib Foundation Buffers Hash Evidence Classifications Engine EngineCorrect DecisionKeys Pool
  Reproducibility

theorem delimited_stringId {kind : IdKind} :
    Delimited fun id : StringId kind => blobBytes id.value := by
  intro a b r s h
  have ha : a.value.length ≤ 128 := a.length_le
  have hb : b.value.length ≤ 128 := b.length_le
  obtain ⟨hvalue, hrest⟩ := blobBytes_cancel (by omega) (by omega) h
  exact ⟨StringId.value_injective hvalue, hrest⟩

theorem delimited_confidence :
    Delimited fun c : Confidence => u32Bytes (UInt32.ofNat c.basisPoints) := by
  intro a b r s h
  have ha := a.bounded
  have hb := b.bounded
  obtain ⟨hpoints, hrest⟩ := countBytes_cancel (by omega) (by omega) h
  exact ⟨Confidence.ext_basisPoints hpoints, hrest⟩

theorem delimited_citation {c d : EvidenceCitation} {r s : Bytes}
    (h : (citationDigestChunks c).flatten ++ r = (citationDigestChunks d).flatten ++ s) :
    citationCore c = citationCore d ∧ r = s := by
  simp only [citationDigestChunks, List.flatten_cons, List.flatten_nil, List.append_nil,
    List.append_assoc] at h
  obtain ⟨hid, h⟩ := delimited_stringId h
  obtain ⟨hpublisher, h⟩ := delimited_stringId h
  obtain ⟨hsource, h⟩ := delimited_u8Bytes h
  obtain ⟨hstate, h⟩ := delimited_u8Bytes h
  obtain ⟨hsemantic, h⟩ := delimited_u16Bytes h
  obtain ⟨hdisposition, h⟩ := delimited_u8Bytes h
  obtain ⟨hconfidence, h⟩ := delimited_confidence h
  obtain ⟨hgeneration, h⟩ := delimited_u64Bytes h
  simp only [citationCore, hid, hpublisher, EvidenceSource.code_injective hsource,
    EvidenceState.code_injective hstate, SemanticClass.code_injective hsemantic,
    EvidenceDisposition.code_injective hdisposition, hconfidence, hgeneration]
  exact ⟨trivial, h⟩

def Explained (c : ClassificationContradiction) : Prop :=
  c.resolvedBy.length = 45

/-- The text of a contradiction follows from its ranks, so it need not be encoded. -/
theorem delimited_contradiction {c d : ClassificationContradiction} {r s : Bytes}
    (hc : Explained c) (hd : Explained d)
    (h : (contradictionDigestChunks c).flatten ++ r = (contradictionDigestChunks d).flatten ++ s) :
    c = d ∧ r = s := by
  unfold Explained at hc hd
  simp only [contradictionDigestChunks, List.flatten_cons, List.flatten_nil, List.append_nil,
    List.append_assoc] at h
  obtain ⟨hleft, h⟩ := delimited_stringId h
  obtain ⟨hright, h⟩ := delimited_stringId h
  obtain ⟨hleftClass, h⟩ := delimited_u16Bytes h
  obtain ⟨hleftSource, h⟩ := delimited_u8Bytes h
  obtain ⟨hrightClass, h⟩ := delimited_u16Bytes h
  obtain ⟨hrightSource, h⟩ := delimited_u8Bytes h
  obtain ⟨hresolved, h⟩ := blobBytes_cancel (by omega) (by omega) h
  refine ⟨?_, h⟩
  cases c
  cases d
  simp only [ClassificationContradiction.mk.injEq]
  exact ⟨hleft, hright, SemanticClass.code_injective hleftClass,
    EvidenceSource.code_injective hleftSource, SemanticClass.code_injective hrightClass,
    EvidenceSource.code_injective hrightSource, hresolved⟩

def sortedCitations (d : Classification) : List EvidenceCitation :=
  d.citations.insertionSort fun a b => a.id ≤ b.id

theorem flatten_flatMap {α : Type} (xs : List α) (chunks : α → List Bytes) :
    (xs.flatMap chunks).flatten = xs.flatMap fun x => (chunks x).flatten := by
  induction xs with
  | nil => rfl
  | cons x rest ih => rw [List.flatMap_cons, List.flatten_append, ih, List.flatMap_cons]

theorem flatten_classificationDigestChunks (d : Classification) :
    (classificationDigestChunks d).flatten =
      u8Bytes 2 ++ (u64Bytes d.flowId.hi ++ (u64Bytes d.flowId.lo ++ (u64Bytes d.flowGeneration ++
      (u16Bytes d.semantic.code ++ (u8Bytes d.state.code ++
      (u32Bytes (UInt32.ofNat d.confidence.basisPoints) ++ (blobBytes d.selectedEvidence.value ++
      (u8Bytes d.selectedSource.code ++ (countBytes d.corroborationCount ++
      (u32Bytes d.appliedPenaltyBasisPoints ++ (u64Bytes d.policyGeneration ++
      (blobBytes d.policyDigest.bytes.toList ++ (countBytes d.citations.length ++
      ((sortedCitations d).flatMap (fun c => (citationDigestChunks c).flatten) ++
      (countBytes d.contradictions.length ++ d.contradictions.flatMap fun c =>
        (contradictionDigestChunks c).flatten))))))))))))))) := by
  simp only [classificationDigestChunks, List.flatten_append, List.flatten_cons, List.flatten_nil,
    flatten_flatMap, List.append_assoc, List.append_nil, Sorter.sort_insertion, sortedCitations]

structure Agree (d e : Classification) : Prop where
  flowId : d.flowId = e.flowId
  flowGeneration : d.flowGeneration = e.flowGeneration
  semantic : d.semantic = e.semantic
  state : d.state = e.state
  confidence : d.confidence = e.confidence
  selectedEvidence : d.selectedEvidence = e.selectedEvidence
  selectedSource : d.selectedSource = e.selectedSource
  corroborationCount : d.corroborationCount = e.corroborationCount
  penalty : d.appliedPenaltyBasisPoints = e.appliedPenaltyBasisPoints
  policyGeneration : d.policyGeneration = e.policyGeneration
  policyDigest : d.policyDigest = e.policyDigest
  citations : (d.citations.map citationCore).Perm (e.citations.map citationCore)
  contradictions : d.contradictions = e.contradictions

/-- The counts of a classification fit their fields, and its contradictions are the engine's. -/
structure Countable (d : Classification) : Prop where
  corroborationCount : d.corroborationCount < 2 ^ 32
  citations : d.citations.length < 2 ^ 32
  contradictions : d.contradictions.length < 2 ^ 32
  explained : ∀ c ∈ d.contradictions, Explained c

/-- The encoding is read from the front, field by field. -/
theorem agree_of_flatten {d e : Classification} (hd : Countable d) (he : Countable e)
    (h : (classificationDigestChunks d).flatten = (classificationDigestChunks e).flatten) :
    Agree d e := by
  rw [flatten_classificationDigestChunks, flatten_classificationDigestChunks] at h
  obtain ⟨-, h⟩ := delimited_u8Bytes h
  obtain ⟨hhi, h⟩ := delimited_u64Bytes h
  obtain ⟨hlo, h⟩ := delimited_u64Bytes h
  obtain ⟨hflowGeneration, h⟩ := delimited_u64Bytes h
  obtain ⟨hsemantic, h⟩ := delimited_u16Bytes h
  obtain ⟨hstate, h⟩ := delimited_u8Bytes h
  obtain ⟨hconfidence, h⟩ := delimited_confidence h
  obtain ⟨hselected, h⟩ := delimited_stringId h
  obtain ⟨hsource, h⟩ := delimited_u8Bytes h
  obtain ⟨hcount, h⟩ := countBytes_cancel hd.corroborationCount he.corroborationCount h
  obtain ⟨hpenalty, h⟩ := delimited_u32Bytes h
  obtain ⟨hpolicyGeneration, h⟩ := delimited_u64Bytes h
  obtain ⟨hpolicyDigest, h⟩ := delimited_digestBlob h
  obtain ⟨hcited, h⟩ := countBytes_cancel hd.citations he.citations h
  have hlength : ∀ c : Classification, (sortedCitations c).length = c.citations.length :=
    fun c => List.length_insertionSort _ _
  obtain ⟨hcores, h⟩ := flatMap_cancel (f := citationCore) (p := fun _ => True)
    (fun _ _ _ _ _ _ => delimited_citation) (fun _ _ => trivial) (fun _ _ => trivial)
    (by rw [hlength, hlength, hcited]) h
  obtain ⟨hfound, h⟩ := countBytes_cancel hd.contradictions he.contradictions h
  have h' : (d.contradictions.flatMap fun c => (contradictionDigestChunks c).flatten) ++ [] =
      (e.contradictions.flatMap fun c => (contradictionDigestChunks c).flatten) ++ [] :=
    congrArg (· ++ []) h
  obtain ⟨hcontradictions, -⟩ := flatMap_cancel (f := id) (p := Explained)
    (fun _ _ _ _ => delimited_contradiction) hd.explained he.explained hfound h'
  have hid : d.flowId = e.flowId := congrArg₂ Id128.mk hhi hlo
  have hperm : ∀ c : Classification,
      ((sortedCitations c).map citationCore).Perm (c.citations.map citationCore) :=
    fun c => (List.perm_insertionSort _ _).map _
  refine ⟨hid, hflowGeneration, SemanticClass.code_injective hsemantic,
    ClassificationState.code_injective hstate, hconfidence, hselected,
    EvidenceSource.code_injective hsource, hcount, hpenalty, hpolicyGeneration, hpolicyDigest,
    ?_, by simpa using hcontradictions⟩
  rw [← (hperm d).congr_left, hcores]
  exact hperm e

def candidateBytes (c : Candidate) : ℕ :=
  25 + c.record.id.value.length + c.record.publisher.value.length

def contradictionBytes (w c : Candidate) : ℕ :=
  63 + w.record.id.value.length + c.record.id.value.length

def winnerBytes (input : DecisionInput) (w : Candidate) : ℕ :=
  if FallsShort input.policy w.record ((pool input).any (contradicts w)) then 0
  else w.record.id.value.length +
    (((pool input).filter (contradicts w)).map (contradictionBytes w)).sum

def decisionBytes (input : DecisionInput) : ℕ :=
  97 + ((pool input).map candidateBytes).sum +
    match winner input with
    | some w => winnerBytes input w
    | none => 0

theorem length_classificationDigestChunks (d : Classification) :
    (classificationDigestChunks d).flatten.length = 97 + d.selectedEvidence.value.length +
        (d.citations.map fun c => 25 + c.id.value.length + c.publisher.value.length).sum +
        (d.contradictions.map fun c => (contradictionDigestChunks c).flatten.length).sum := by
  have hdigest : d.policyDigest.bytes.toList.length = 32 := List.Vector.toList_length _
  have hcitation : ∀ c : EvidenceCitation, (citationDigestChunks c).flatten.length =
      25 + c.id.value.length + c.publisher.value.length := by
    intro c
    simp only [citationDigestChunks, List.flatten_cons, List.flatten_nil, List.append_nil,
      List.length_append, length_blobBytes, length_u8Bytes, length_u16Bytes, length_u32Bytes,
      length_u64Bytes]
    omega
  have hsorted : ((sortedCitations d).map fun c => (citationDigestChunks c).flatten.length).sum =
      (d.citations.map fun c => 25 + c.id.value.length + c.publisher.value.length).sum := by
    simp only [hcitation]
    exact ((List.perm_insertionSort _ _).map _).sum_eq
  rw [flatten_classificationDigestChunks]
  simp only [List.length_append, List.length_flatMap, length_blobBytes, length_u8Bytes,
    length_u16Bytes, length_u32Bytes, length_u64Bytes, length_countBytes, hdigest, hsorted]
  omega

theorem length_resolvedBy (w r : EvidenceRecord) : Explained (contradictionOf w r) := by
  have hrank : ∀ source : EvidenceSource, (decimal source.rank).length = 1 := by
    intro source
    cases source <;> simp [EvidenceSource.rank, decimal]
  have hfirst : (text "evidence precedence: source rank ").length = 33 := by decide
  have hsecond : (text " outranks ").length = 10 := by decide
  simp only [Explained, contradictionOf, List.length_append, hrank, hfirst, hsecond]

theorem length_contradictionOf (w c : Candidate) :
    (contradictionDigestChunks (contradictionOf w.record c.record)).flatten.length =
      contradictionBytes w c := by
  have hresolved : (contradictionOf w.record c.record).resolvedBy.length = 45 :=
    length_resolvedBy _ _
  simp only [contradictionDigestChunks, List.flatten_cons, List.flatten_nil, List.append_nil,
    List.length_append, length_blobBytes, length_u8Bytes, length_u16Bytes, hresolved,
    contradictionBytes]
  simp only [contradictionOf]
  omega

section Decided

variable (input : DecisionInput)

/-- Every candidate is cited, under its identity and its publisher. -/
theorem perm_cited : ((Engine.decide input).citations.map fun c => (c.id, c.publisher)).Perm
      ((pool input).map fun c => (c.record.id, c.record.publisher)) := by
  have hcapped : (Engine.decide input).citations =
      capCitations input.policy.maxEvidenceConsidered (verdict input).citations :=
    finalCheck_citations (capped input)
  have hcitations : ((citations input).map fun c => (c.id, c.publisher)).Perm
      ((pool input).map fun c => (c.record.id, c.record.publisher)) :=
    (perm_citations fun _ _ _ => rfl).trans ((perm_pool input).map _)
  have hbelow : ∀ w, (fun c : EvidenceCitation => (c.id, c.publisher)) ∘ belowThreshold w =
      fun c => (c.id, c.publisher) := by
    intro w
    funext c
    rw [Function.comp_apply, belowThreshold]
    split_ifs <;> rfl
  rw [hcapped]
  refine (perm_capCitations rfl _).trans ?_
  rw [verdict]
  cases winner input with
  | none => exact hcitations
  | some w =>
    have hcases : (winnerVerdict input w).citations = citations input ∨
        (winnerVerdict input w).citations = (citations input).map (belowThreshold w.record) := by
      unfold winnerVerdict
      dsimp only
      generalize citations input = cited
      split_ifs
      all_goals first | exact Or.inl rfl | exact Or.inr rfl
    dsimp only
    rcases hcases with hplain | hshort
    · rw [hplain]
      exact hcitations
    · rw [hshort, List.map_map, hbelow]
      exact hcitations

theorem sum_cited : ((Engine.decide input).citations.map fun c =>
      25 + c.id.value.length + c.publisher.value.length).sum =
      ((pool input).map candidateBytes).sum := by
  have hperm := (perm_cited input).map fun x : EvidenceId × PublisherId =>
    25 + x.1.value.length + x.2.value.length
  rw [List.map_map, List.map_map] at hperm
  exact hperm.sum_eq

theorem length_cited : (Engine.decide input).citations.length = (pool input).length := by
  have hlength := (perm_cited input).length_eq
  rwa [List.length_map, List.length_map] at hlength

theorem sum_contradictions (w : Candidate) :
    ((contradictions input w).map fun c => (contradictionDigestChunks c).flatten.length).sum =
      (((pool input).filter (contradicts w)).map (contradictionBytes w)).sum := by
  have hsizes : (fun c => (contradictionDigestChunks c).flatten.length) ∘
      (fun c : Candidate => contradictionOf w.record c.record) = contradictionBytes w :=
    funext (length_contradictionOf w)
  rw [contradictions, List.map_map, hsizes]
  exact (((List.perm_insertionSort _ _).trans (perm_contradicting input w)).map _).sum_eq

omit input in
theorem parts_of_outcome {d : Classification} {o : Outcome} (h : outcome d = o) :
    d.selectedEvidence = o.selectedEvidence ∧ d.contradictions = o.contradictions ∧
      d.corroborationCount = o.corroborationCount :=
  ⟨congrArg Outcome.selectedEvidence h, congrArg Outcome.contradictions h,
    congrArg Outcome.corroborationCount h⟩

/-- The winner shows in a decision or nothing of it does. -/
theorem decide_parts : (∃ w, winner input = some w ∧
      ¬ FallsShort input.policy w.record ((pool input).any (contradicts w)) ∧
      (Engine.decide input).selectedEvidence = w.record.id ∧
      (Engine.decide input).contradictions = contradictions input w ∧
      (Engine.decide input).corroborationCount = corroboration input) ∨
    ((∀ w, winner input = some w →
        FallsShort input.policy w.record ((pool input).any (contradicts w))) ∧
      (Engine.decide input).selectedEvidence = .none ∧ (Engine.decide input).contradictions = [] ∧
      (Engine.decide input).corroborationCount = 0) := by
  cases hwin : winner input with
  | none =>
    exact Or.inr ⟨(fun w h => by cases h), parts_of_outcome (outcome_of_no_winner hwin)⟩
  | some w =>
    have hout := outcome_of_winner hwin
    unfold winningOutcome at hout
    rw [isEmpty_contradictions] at hout
    by_cases hshort : FallsShort input.policy w.record ((pool input).any (contradicts w))
    · rw [if_pos hshort] at hout
      refine Or.inr ⟨fun v h => ?_, parts_of_outcome hout⟩
      cases h
      exact hshort
    · rw [if_neg hshort] at hout
      exact Or.inl ⟨w, rfl, hshort, parts_of_outcome hout⟩

theorem length_decision :
    (classificationDigestChunks (Engine.decide input)).flatten.length = decisionBytes input := by
  rw [length_classificationDigestChunks, sum_cited, decisionBytes]
  rcases decide_parts input with ⟨w, hwin, hshort, hselected, hfound, -⟩ |
    ⟨hshort, hselected, hfound, -⟩
  · rw [hselected, hfound, sum_contradictions, hwin]
    dsimp only
    rw [winnerBytes, if_neg hshort]
    omega
  · have hnothing : (match winner input with
        | some w => winnerBytes input w
        | none => 0) = 0 := by
      cases hwin : winner input with
      | none => rfl
      | some w => exact if_pos (hshort w hwin)
    rw [hselected, hfound, hnothing]
    rfl

theorem length_pool_le : 25 * (pool input).length ≤ decisionBytes input := by
  have hsum : ∀ cs : List Candidate, 25 * cs.length ≤ (cs.map candidateBytes).sum := by
    intro cs
    induction cs with
    | nil => simp
    | cons c rest ih =>
      simp only [List.length_cons, List.map_cons, List.sum_cons, candidateBytes]
      omega
  have hpool := hsum (pool input)
  unfold decisionBytes
  omega

theorem countable_decision (hfits : decisionBytes input ≤ maxBlobBytes) :
    Countable (Engine.decide input) := by
  have hpool := length_pool_le input
  unfold maxBlobBytes at hfits
  have hcited := length_cited input
  rcases decide_parts input with ⟨w, hwin, -, -, hfound, hcount⟩ | ⟨-, -, hfound, hcount⟩
  · have hsupport := corroboration_add_one hwin
    have hsupporters := List.countP_le_length (p := supports w) (l := pool input)
    have hlength := length_contradictions input w
    have hopponents := List.countP_le_length (p := contradicts w) (l := pool input)
    refine ⟨by omega, by omega, by rw [hfound]; omega, fun c hc => ?_⟩
    rw [hfound] at hc
    obtain ⟨r, -, rfl⟩ := List.mem_map.mp hc
    exact length_resolvedBy _ _
  · refine ⟨by omega, by omega, by rw [hfound]; decide, fun c hc => ?_⟩
    rw [hfound] at hc
    cases hc

theorem decide_digest : (Engine.decide input).digest =
    digestOfChunks (classificationDigestChunks (Engine.decide input)) := by
  have hself : ∀ c : Classification, (withDigest c).digest =
      digestOfChunks (classificationDigestChunks (withDigest c)) := fun _ => rfl
  exact hself _

theorem decide_question : (Engine.decide input).flowGeneration = input.flow.generation ∧
    (Engine.decide input).policyGeneration = input.policy.generation := by
  have hverdict : (verdict input).flowGeneration = input.flow.generation ∧
      (verdict input).policyGeneration = input.policy.generation := by
    unfold verdict
    cases winner input with
    | none => exact ⟨rfl, rfl⟩
    | some w =>
      unfold winnerVerdict
      dsimp only
      split_ifs <;> exact ⟨rfl, rfl⟩
  have hchecked : ∀ c : Classification, (finalCheck c).flowGeneration = c.flowGeneration ∧
      (finalCheck c).policyGeneration = c.policyGeneration := by
    intro c
    unfold finalCheck
    split_ifs <;> exact ⟨rfl, rfl⟩
  have hdecide : (Engine.decide input).flowGeneration = (verdict input).flowGeneration ∧
      (Engine.decide input).policyGeneration = (verdict input).policyGeneration :=
    hchecked (capped input)
  rw [hdecide.1, hdecide.2]
  exact hverdict

theorem digest_of_small (hfits : decisionBytes input ≤ maxBlobBytes) :
    (Engine.decide input).digest =
      sha256 (classificationDigestChunks (Engine.decide input)).flatten := by
  rw [decide_digest, digestOfChunks_fits]
  rwa [length_decision]

theorem digest_of_large (hlarge : maxBlobBytes < decisionBytes input) :
    (Engine.decide input).digest = .zero := by
  rw [decide_digest]
  refine digestOfChunks_overflow ?_
  rwa [length_decision]

end Decided

def regenerated (input : DecisionInput) : DecisionInput :=
  { input with policy := { input.policy with generation := input.policy.generation + 1 } }

theorem pool_regenerated (input : DecisionInput) : pool (regenerated input) = pool input :=
  pool_congr rfl rfl (fun _ => rfl) (fun _ => rfl) fun _ => rfl

theorem decisionBytes_regenerated (input : DecisionInput) :
    decisionBytes (regenerated input) = decisionBytes input := by
  have hpool := pool_regenerated input
  have hwinner : winner (regenerated input) = winner input := by
    apply Option.ext
    intro w
    rw [winner_eq_some_iff, winner_eq_some_iff, hpool]
    rfl
  have hbytes : winnerBytes (regenerated input) = winnerBytes input := by
    funext w
    rw [winnerBytes, winnerBytes, hpool]
    rfl
  rw [decisionBytes, decisionBytes, hpool, hwinner, hbytes]

section Identified

variable {messages : Set Bytes}

/-- If the decision is hashed at all then what is hashed is among the messages. -/
def HashedIn (messages : Set Bytes) (input : DecisionInput) : Prop :=
  decisionBytes input ≤ maxBlobBytes →
    (classificationDigestChunks (Engine.decide input)).flatten ∈ messages

/-- Within messages without collisions and without the zero digest, exactly the decisions
whose encoding fits its buffer are told from all others. -/
theorem digest_identifies_iff (hinj : Set.InjOn sha256 messages)
    (hzero : ∀ m ∈ messages, sha256 m ≠ .zero) (i : DecisionInput) (hi : HashedIn messages i) :
    (∀ j, HashedIn messages j → (Engine.decide i).digest = (Engine.decide j).digest →
        Agree (Engine.decide i) (Engine.decide j)) ↔
      decisionBytes i ≤ maxBlobBytes := by
  constructor
  · intro hall
    by_contra hlarge
    rw [not_le] at hlarge
    have hlarge' : maxBlobBytes < decisionBytes (regenerated i) := by
      rwa [decisionBytes_regenerated]
    have hagree := hall (regenerated i) (fun hfits => absurd hfits (not_le.mpr hlarge'))
      (by rw [digest_of_large i hlarge, digest_of_large _ hlarge'])
    have hgeneration := hagree.policyGeneration
    rw [(decide_question i).2, (decide_question _).2] at hgeneration
    have hnext : i.policy.generation = i.policy.generation + 1 := hgeneration
    simp at hnext
  · intro hfits j hj heq
    rw [digest_of_small i hfits] at heq
    by_cases hfits' : decisionBytes j ≤ maxBlobBytes
    · rw [digest_of_small j hfits'] at heq
      exact agree_of_flatten (countable_decision i hfits) (countable_decision j hfits')
        (hinj (hi hfits) (hj hfits') heq)
    · rw [digest_of_large j (not_le.mp hfits')] at heq
      exact absurd heq (hzero _ (hi hfits))

end Identified

def singleInput : DecisionInput :=
  { askedInput 1 [acceptedRecord (text "evd-a") .declaredAuthenticated .collective 1 3] with
    activeContracts := [] }

theorem digest_identifies_single :
    let messages : Set Bytes :=
      {(classificationDigestChunks (Engine.decide singleInput)).flatten,
        (classificationDigestChunks (Engine.decide (regenerated singleInput))).flatten}
    ∀ j, HashedIn messages j →
      (Engine.decide singleInput).digest = (Engine.decide j).digest →
        Agree (Engine.decide singleInput) (Engine.decide j) := by
  intro messages
  have hdigests :
      [(Engine.decide singleInput).digest, (Engine.decide (regenerated singleInput)).digest,
        .zero].Nodup := by decide +kernel
  have hfits : decisionBytes singleInput ≤ maxBlobBytes := by decide +kernel
  have hfits' : decisionBytes (regenerated singleInput) ≤ maxBlobBytes := by
    rwa [decisionBytes_regenerated]
  rw [digest_of_small _ hfits, digest_of_small _ hfits'] at hdigests
  simp only [List.nodup_cons, List.mem_cons, List.not_mem_nil, or_false, not_or] at hdigests
  have hinj : Set.InjOn sha256 messages := Set.injOn_pair.mpr fun heq => absurd heq hdigests.1.1
  have hzero : ∀ m ∈ messages, sha256 m ≠ .zero := by
    rintro m (rfl | rfl)
    · exact hdigests.1.2
    · exact hdigests.2.1
  exact (digest_identifies_iff hinj hzero singleInput fun _ => Or.inl rfl).mpr hfits

def crowdedInput (generation : FlowGeneration) : DecisionInput :=
  { sampleInput with
    flow := { sampleInput.flow with generation := generation }
    evidence := (List.range 3000).map fun n =>
      { id := .make (text "evd-" ++ decimal n), publisher := .make (text "agent"),
        publisherBoot := 2, acceptedEpoch := 1, flowId := sampleInput.flow.id,
        flowGeneration := generation, semantic := .collective, source := .declaredAuthenticated } }

theorem decisionBytes_crowded (generation : FlowGeneration) :
    maxBlobBytes < decisionBytes (crowdedInput generation) := by
  have hpool : 3000 ≤ (pool (crowdedInput generation)).length := by
    rw [pool, List.length_map, assemble, List.length_append, length_assembleEvidence]
    simp only [crowdedInput, List.length_map, List.length_range]
    omega
  have hbytes := length_pool_le (crowdedInput generation)
  unfold maxBlobBytes
  omega

/-- Decisions about different generations with one digest. -/
theorem crowded_digests_coincide :
    (Engine.decide (crowdedInput 3)).digest = (Engine.decide (crowdedInput 4)).digest ∧
      (Engine.decide (crowdedInput 3)).flowGeneration ≠
        (Engine.decide (crowdedInput 4)).flowGeneration := by
  rw [digest_of_large _ (decisionBytes_crowded 3), digest_of_large _ (decisionBytes_crowded 4),
    (decide_question _).1, (decide_question _).1]
  exact ⟨rfl, by decide⟩

end FlowClassifier.DecisionDigests
