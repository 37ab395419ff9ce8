import FlowClassifier.AfterRestart
import FlowClassifier.DisplayCap
import FlowClassifier.Explanations

/-!
The reason of a revocation. `render_explanation` quotes the reason of its input, and no query
puts one there, so the quotes are empty. What the explanation of a REVOKED answer is made of
is given by the flow, the policy and the cited records alone. A recorded reason is stated if
it is a piece of one of these texts.
-/
namespace FlowClassifier

open Lib Foundation Evidence Flows Classifications Policies Engine DecisionSpec EngineCorrect Pool
  DisplayCap

namespace Engine

variable {input : DecisionInput} {t : Bytes}

def revokedHeader (input : DecisionInput) : List Bytes :=
  [text "\n  key " ++ input.flow.key.toString,
   text "\n  semantic_class " ++ SemanticClass.unknown.toString,
   text "\n  state " ++ ClassificationState.revoked.toString,
   text "\n  confidence " ++ Confidence.none.toDecimal,
   text "\n  selected_evidence " ++ text "<none>",
   text "\n  selected_source " ++ EvidenceSource.unknown.toString,
   text "\n  policy_generation " ++ render input.policy.generation,
   text "\n  policy_digest " ++ hexText (computePolicyDigest input.policy).bytes.toList,
   text "\n  coordinator_epoch " ++ render input.authority.epoch,
   text "\n  corroboration_count " ++ decimal 0,
   text "\n  applied_penalty " ++ decimal 0]

/-- The texts that go into the explanation of a REVOKED decision whatever the revocation said.
The cap may take the reason of a record from the display, but not its identity and publisher. -/
inductive Given (input : DecisionInput) : Bytes → Prop
  | flow : Given input (text "flow " ++ input.flow.id.toHex ++ text " generation " ++
      render input.flow.generation)
  | header {t : Bytes} (h : t ∈ revokedHeader input) : Given input t
  | considered : Given input (text "\n  evidence_considered " ++ decimal (assemble input).length)
  | id {r : EvidenceRecord} (h : r ∈ input.evidence) : Given input r.id.value
  | publisher {r : EvidenceRecord} (h : r ∈ input.evidence) : Given input r.publisher.value
  | reason {r : EvidenceRecord} (h : r ∈ input.evidence)
      (hflow : recordMatchesFlow r input.flow = true) (hstate : r.state ≠ .current)
      (hcap : (assemble input).length ≤ input.policy.maxEvidenceConsidered.toNat) :
      Given input r.stateReason
  | quotes : Given input (text "\n  revoked_reason \"" ++ text "\"")

theorem infix_of_headerLines {x : Classification} (h : t ∈ headerLines x input.flow.key) :
    t <:+: renderExplanation x input := by
  have hline : t <:+: (headerLines x input.flow.key).flatMap id := by
    rw [List.flatMap_id]
    exact List.infix_of_mem_flatten h
  rw [renderExplanation_eq]
  iterate 3 apply List.infix_append_of_infix_left
  exact List.infix_append_of_infix_right hline

theorem infix_of_citation {x : Classification} {c : EvidenceCitation} (h : c ∈ x.citations)
    (ht : t <:+: renderCitation c) : t <:+: renderExplanation x input := by
  have hlisted : renderCitation c <:+: x.citations.flatMap renderCitation := by
    rw [List.flatMap_def]
    exact List.infix_of_mem_flatten (List.mem_map_of_mem h)
  rw [renderExplanation_eq]
  iterate 2 apply List.infix_append_of_infix_left
  exact List.infix_append_of_infix_right (ht.trans hlisted)

/-- A citation shows the identity, the publisher and the detail. -/
theorem infix_renderCitation (c : EvidenceCitation) : c.id.value <:+: renderCitation c ∧
    c.publisher.value <:+: renderCitation c ∧ c.detail <:+: renderCitation c := by
  unfold renderCitation
  refine ⟨?_, ?_, List.infix_append_of_infix_right ?_⟩
  · iterate 15 apply List.infix_append_of_infix_left
    exact List.infix_append_of_infix_right List.infix_rfl
  · iterate 5 apply List.infix_append_of_infix_left
    exact List.infix_append_of_infix_right List.infix_rfl
  · split_ifs with hempty
    · rw [List.isEmpty_iff.mp hempty]
    · exact List.infix_append_of_infix_left (List.infix_append_of_infix_right List.infix_rfl)

/-- Every stored record is cited. -/
theorem exists_citation (hwf : WellFormed input) {β : Type} {f : EvidenceCitation → β}
    {g : Candidate → β} (hfg : ∀ w isWinner c, f (cite w isWinner c) = g c)
    (hcited : ((decide input).citations.map f).Perm ((citations input).map f))
    {r : EvidenceRecord} (hr : r ∈ input.evidence) :
    ∃ c ∈ (decide input).citations, f c = g (evaluated input r) := by
  have hperm := hcited.trans ((perm_citations hfg).trans ((perm_sortedCandidates hwf).map g))
  have hmem : g (evaluated input r) ∈ (decide input).citations.map f := by
    rw [hperm.mem_iff, List.map_map]
    exact List.mem_map_of_mem (List.mem_append_left _ hr)
  obtain ⟨c, hc, hfc⟩ := List.mem_map.mp hmem
  exact ⟨c, hc, hfc⟩

section Revoked

variable (hrev : input.generationRevoked = true)

include hrev

theorem winner_of_revoked : winner input = none := by
  rw [winner, winnerIndex, if_pos hrev]
  rfl

/-- A REVOKED decision says what its header says and cites every candidate. -/
theorem decide_of_revoked : decide input = withDigest
    { decisionHeader input with
      state := .revoked
      citations := capCitations input.policy.maxEvidenceConsidered (citations input) } := by
  have hverdict : verdict input =
      { decisionHeader input with state := .revoked, citations := citations input } := by
    rw [verdict, winner_of_revoked hrev]
    dsimp only
    rw [openVerdict, if_pos hrev]
  have hunknown : (verdict input).semantic = .unknown := by
    rw [hverdict]
    rfl
  rw [decide_eq_of_justified (Or.inl hunknown), capped, hverdict]

/-- Without a winner the header is that of the empty verdict. -/
theorem headerLines_of_revoked : headerLines (decide input) input.flow.key = revokedHeader input ++
    [text "\n  decision_digest " ++ hexText (decide input).digest.bytes.toList,
     text "\n  evidence_considered " ++ decimal (assemble input).length] := by
  have hcount : (decide input).citations.length = (assemble input).length := by
    rw [decide_citations, ← length_uncapped]
    simpa using (ids_capCitations input.policy.maxEvidenceConsidered (uncapped input)).length_eq
  rw [headerLines, hcount, decide_of_revoked hrev]
  rfl

/-- Whatever is given is a piece of the explanation. -/
theorem Given.stated (hwf : WellFormed input) (hreason : input.revocationReason = [])
    (h : Given input t) : t <:+: renderExplanation (decide input) input := by
  have huncapped : uncapped input = citations input :=
    uncapped_of_no_winner (winner_of_revoked hrev)
  have hids : ((decide input).citations.map EvidenceCitation.id).Perm
      ((citations input).map EvidenceCitation.id) := by
    rw [decide_citations, huncapped]
    exact perm_capCitations rfl _
  have hpublishers : ((decide input).citations.map EvidenceCitation.publisher).Perm
      ((citations input).map EvidenceCitation.publisher) := by
    rw [decide_citations, huncapped]
    exact perm_capCitations rfl _
  cases h with
  | flow =>
    rw [renderExplanation_eq, decide_of_revoked hrev]
    iterate 4 apply List.infix_append_of_infix_left
    exact List.infix_rfl
  | header h =>
    refine infix_of_headerLines ?_
    rw [headerLines_of_revoked hrev]
    exact List.mem_append_left _ h
  | considered =>
    refine infix_of_headerLines ?_
    rw [headerLines_of_revoked hrev]
    simp
  | @id r hr =>
    obtain ⟨c, hc, hid⟩ := exists_citation hwf (fun _ _ c => rfl) hids hr
    rw [← hid.trans (evaluated_id input r)]
    exact infix_of_citation hc (infix_renderCitation c).1
  | @publisher r hr =>
    obtain ⟨c, hc, hpublisher⟩ := exists_citation hwf (fun _ _ c => rfl) hpublishers hr
    have hkept : (evaluated input r).record.publisher = r.publisher := by
      rw [(evaluation input r).record]
    rw [← hpublisher.trans hkept]
    exact infix_of_citation hc (infix_renderCitation c).2.1
  | @reason r hr hflow hstate hcap =>
    have hdetails := (huncapped ▸ perm_uncapped hcap).map EvidenceCitation.detail
    obtain ⟨c, hc, hdetail⟩ := exists_citation hwf (fun _ _ c => rfl) hdetails hr
    have hkept : (evaluated input r).detail = r.stateReason := by
      simp [evaluated, evaluate, freshCandidate, hflow, withCurrentness, hstate]
    rw [← hdetail.trans hkept]
    exact infix_of_citation hc (infix_renderCitation c).2.2
  | quotes =>
    rw [renderExplanation_eq, decide_of_revoked hrev]
    refine List.infix_append_of_infix_right ?_
    rw [hreason]
    exact List.infix_rfl

end Revoked

end Engine

namespace Classifier

variable {c : Classifier}

def Revoking (input : DecisionInput) (r : RevocationRecord) : Prop :=
  r.flowId = input.flow.id ∧ r.flowGeneration = input.flow.generation ∧ r.evidenceId.isEmpty = true

instance (input : DecisionInput) (r : RevocationRecord) : Decidable (Revoking input r) :=
  inferInstanceAs (Decidable (_ ∧ _ ∧ _))

/-- A recorded revocation of the generation asked about has a reason that is empty or a piece of
a text that is given without it. -/
def ReasonGiven (c : Classifier) (query : ClassificationQuery) (tick : Tick) : Prop :=
  ∀ input, c.queryInput query.flowKey query.flowGeneration tick = some input →
    ∃ r ∈ c.decisions.revocations, Revoking input r ∧
      (r.reason = [] ∨ ∃ t, Given input t ∧ r.reason <:+: t)

/-- The explanation of a REVOKED answer holds the reason of a recorded revocation of the
generation that was decided. -/
def ReasonStated (c : Classifier) (query : ClassificationQuery)
    (result : ClassificationResult) : Prop :=
  query.explain = true → result.classification.state = .revoked →
    ∃ r ∈ c.decisions.revocations, r.flowId = result.classification.flowId ∧
      r.flowGeneration = result.classification.flowGeneration ∧ r.evidenceId.isEmpty = true ∧
      r.reason <:+: result.explanation

theorem generationRevoked_of_revoking {key : FlowKey} {requested : FlowGeneration} {tick : Tick}
    {input : DecisionInput} (hinput : c.queryInput key requested tick = some input)
    {r : RevocationRecord} (hr : r ∈ c.decisions.revocations) (hrevoking : Revoking input r) :
    input.generationRevoked = true ∧ input.revocationReason = [] := by
  obtain ⟨flow, generation, -, rfl⟩ := decisionInput_of_queryInput hinput
  refine ⟨List.any_eq_true.mpr ⟨r, hr, ?_⟩, rfl⟩
  obtain ⟨hid, hgeneration, hevidence⟩ := hrevoking
  rw [hid, hgeneration, hevidence]
  simp [decisionInput]

/-- A REVOKED explanation states the reason of a recorded revocation of its generation as long
as that reason is empty or a piece of what the explanation is given anyway. -/
theorem revoked_reason_stated {scope : HashScope} (h : Reached scope c) :
    EveryExplanation (Digestible scope c) c fun query tick result =>
      ReasonGiven c query tick → ReasonStated c query result := by
  refine EveryAnswer.explained (everyAnswer_of_decided h ?_) fun _ _ _ _ hasked => hasked
  intro query tick input result hinput hwf hdecided hexplained hgiven hexplain _
  obtain ⟨r, hr, hrevoking, hreason⟩ := hgiven input hinput
  obtain ⟨hrev, hempty⟩ := generationRevoked_of_revoking hinput hr hrevoking
  rw [hexplained hexplain, hdecided]
  have hflow : (Engine.decide input).flowId = input.flow.id ∧
      (Engine.decide input).flowGeneration = input.flow.generation := by
    rw [decide_of_revoked hrev]
    exact ⟨rfl, rfl⟩
  refine ⟨r, hr, hrevoking.1.trans hflow.1.symm, hrevoking.2.1.trans hflow.2.symm,
    hrevoking.2.2, ?_⟩
  rcases hreason with hnone | ⟨t, ht, hpiece⟩
  · rw [hnone]
    exact List.nil_infix
  · exact hpiece.trans (ht.stated hrev hwf hempty)

def compromisedRun : List Operation :=
  [.withdrawEvidence sampleEnvelope (mintEvidenceId (evidenceMaterial (.make (text "agent")) 2 [] 1
      (deriveFlowId sampleKey) 1)) (text "compromised host") 4,
   .revokeGeneration sampleEnvelope (deriveFlowId sampleKey) 1 (text "compromised host") 5]

def compromised : Classifier := run step (run step (.new {}) publishedRun) compromisedRun

def reasonScope : HashScope :=
  .ofLists (publishedMessages ++ queryMessages compromised sampleKey 6) [sampleKey]
    (by decide +kernel) nodup_sampleKey

theorem reached_compromised : Reached reasonScope compromised := by
  have hpublished : Reached reasonScope (run step (.new {}) publishedRun) :=
    (Reached.new {}).run
      (publishedRun_along (fun _ hm => List.mem_append_left _ hm) List.mem_cons_self)
  exact hpublished.run ⟨⟨trivial, trivial⟩, ⟨trivial, trivial⟩, trivial⟩

theorem compromised_checked :
    (∃ result, (compromised.classify { flowKey := sampleKey, explain := true } 6).1 = .ok result ∧
      result.classification.state = .revoked) ∧
    (compromised.flows.current.lookup sampleKey).all
      (fun flow => decisionBytes compromised flow.id ≤ Buffers.maxBlobBytes) = true ∧
    (compromised.queryInput sampleKey 0 6).all (fun input =>
      compromised.decisions.revocations.any fun r => Decidable.decide (Revoking input r) &&
        input.evidence.any fun e => recordMatchesFlow e input.flow && e.state != .current &&
          Decidable.decide ((assemble input).length ≤ input.policy.maxEvidenceConsidered.toNat) &&
          e.stateReason == r.reason) = true := by
  decide +kernel

/-- The reason of the withdrawal is shown, and it is that of the revocation too. -/
theorem revoked_reason_stated_sample :
    ∃ result, (compromised.classify { flowKey := sampleKey, explain := true } 6).1 = .ok result ∧
      result.classification.state = .revoked ∧
      ReasonStated compromised { flowKey := sampleKey, explain := true } result := by
  obtain ⟨⟨result, hresult, hstate⟩, hfits, hgiven⟩ := compromised_checked
  have hquery : QueryFits compromised sampleKey := queryFits_of_all hfits
  have hhashed : QueryHashed reasonScope compromised sampleKey 0 6 :=
    queryHashed_ofLists _ _ fun _ hm => List.mem_append_right publishedMessages hm
  refine ⟨result, hresult, hstate, ?_⟩
  refine (revoked_reason_stated reached_compromised).1.1 { flowKey := sampleKey, explain := true } 6
    ⟨hquery, hhashed⟩ result hresult ?_
  intro input hinput
  rw [hinput, Option.all_some, List.any_eq_true] at hgiven
  obtain ⟨r, hr, hgiven⟩ := hgiven
  rw [Bool.and_eq_true, decide_eq_true_iff, List.any_eq_true] at hgiven
  obtain ⟨hrevoking, e, he, hshown⟩ := hgiven
  simp only [Bool.and_eq_true, bne_iff_ne, decide_eq_true_iff, beq_iff_eq] at hshown
  obtain ⟨⟨⟨hflow, hwithdrawn⟩, hcap⟩, hsame⟩ := hshown
  refine ⟨r, hr, hrevoking, Or.inr ⟨_, .reason he hflow hwithdrawn hcap, ?_⟩⟩
  rw [hsame]

def revokedFor (reason : Bytes) : Option (Classifier × ClassificationResult) :=
  let c := run step (.new {})
    [.registerFlow sampleKey 0 (.make (text "s1")) 2,
     .revokeGeneration sampleEnvelope (deriveFlowId sampleKey) 1 reason 3]
  (c.classify { flowKey := sampleKey, explain := true } 5).1.toOption.map fun result => (c, result)

/-- The reason is recorded, and the explanation quotes an empty one. -/
theorem revoked_reason_missing :
    ∃ answer, revokedFor (text "compromised host") = some answer ∧
      answer.2.classification.state = .revoked ∧
      (answer.1.decisions.revocations.map RevocationRecord.reason = [text "compromised host"]) ∧
      ¬ text "compromised host" <:+: answer.2.explanation := by
  decide +kernel

end Classifier
end FlowClassifier
