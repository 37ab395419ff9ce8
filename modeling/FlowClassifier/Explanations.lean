import FlowClassifier.FlowTexts
import FlowClassifier.Lib.Lines
import FlowClassifier.MemoTransparency
import FlowClassifier.Pool

/-!
The lines of an explanation. Every field that `render_explanation` prints is on one line
except the details of the citations, and these come from the engine, which writes its own
texts, or from the reasons of the records it was given. So as long as every stored reason
is on one line, the lines of an explanation are counted by its citations, its
contradictions and its state. The operations write their own reasons; only the reason of a
withdrawal is the caller's, and a restore takes over the reasons of its image.
-/
namespace FlowClassifier

open Lib Foundation Evidence Flows Classifications Store EngineCorrect

variable {out reason : Bytes} {c : Classifier} {input : Engine.DecisionInput}
  {record : EvidenceRecord} {key : FlowKey} {tick : Tick}

namespace Foundation

@[simp] theorem oneLine_render (n : UInt64) : OneLine (render n) := oneLine_decimal _

@[simp] theorem StringId.oneLine {kind : IdKind} (id : StringId kind) : OneLine id.value :=
  fun h => absurd (id.isIdentityByte_of_mem h) (by decide)

@[simp] theorem Id128.oneLine_toHex (id : Id128) : OneLine id.toHex := oneLine_hexText _

@[simp] theorem Confidence.oneLine_toDecimal (a : Confidence) : OneLine a.toDecimal := by
  have hdigit : ∀ d < 10, digitByte d ≠ lineFeed := by decide
  have hpoint : OneLine (text ".") := by decide
  rw [Confidence.toDecimal, oneLine_append, oneLine_append]
  refine ⟨⟨oneLine_decimal _, hpoint⟩, ?_⟩
  intro h
  obtain ⟨d, -, hd⟩ := List.mem_map.mp h
  exact hdigit _ (Nat.mod_lt _ (by omega)) hd

end Foundation

@[simp] theorem Evidence.EvidenceSource.oneLine (s : EvidenceSource) : OneLine s.toString := by
  cases s <;> decide

@[simp] theorem Evidence.EvidenceState.oneLine (s : EvidenceState) : OneLine s.toString := by
  cases s <;> decide

@[simp] theorem Evidence.SemanticClass.oneLine (s : SemanticClass) : OneLine s.toString := by
  cases s <;> decide

@[simp] theorem Classifications.ClassificationState.oneLine (s : ClassificationState) :
    OneLine s.toString := by
  cases s <;> decide

@[simp] theorem Classifications.EvidenceDisposition.oneLine (d : EvidenceDisposition) :
    OneLine d.toString := by
  cases d <;> decide

namespace Flows

@[simp] theorem IpAddress.oneLine (a : IpAddress) : OneLine a.toString :=
  fun h => (IpAddress.plain_toString h).1 rfl

@[simp] theorem FlowKey.oneLine (key : FlowKey) : OneLine key.toString := by
  have htransport : OneLine key.transport.toString := by cases key.transport <;> decide
  have hspace : OneLine (text " ") := by decide
  have hcolon : OneLine (text ":") := by decide
  have harrow : OneLine (text " -> ") := by decide
  simp [FlowKey.toString, htransport, hspace, hcolon, harrow]

end Flows

namespace Engine

/-- The texts of a decision that are not the engine's own layout are on one line. -/
structure PlainText (x : Classification) : Prop where
  details : ∀ c ∈ x.citations, OneLine c.detail
  resolutions : ∀ c ∈ x.contradictions, OneLine c.resolvedBy

theorem breaks_renderCitation {c : EvidenceCitation} (h : OneLine c.detail) :
    breaks (renderCitation c) = 1 := by
  unfold renderCitation
  simp only [List.append_assoc]
  apply breaks_line (by decide)
  split_ifs
  · simp +decide
  · simp +decide [h]

theorem breaks_renderContradiction {c : ClassificationContradiction} (h : OneLine c.resolvedBy) :
    breaks (renderContradiction c) = 1 := by
  unfold renderContradiction
  simp only [List.append_assoc]
  apply breaks_line (by decide)
  simp +decide [h]

def headerLines (x : Classification) (key : FlowKey) : List Bytes :=
  [text "\n  key " ++ key.toString,
   text "\n  semantic_class " ++ x.semantic.toString,
   text "\n  state " ++ x.state.toString,
   text "\n  confidence " ++ x.confidence.toDecimal,
   text "\n  selected_evidence " ++
     if x.selectedEvidence.isEmpty then text "<none>" else x.selectedEvidence.value,
   text "\n  selected_source " ++ x.selectedSource.toString,
   text "\n  policy_generation " ++ render x.policyGeneration,
   text "\n  policy_digest " ++ hexText x.policyDigest.bytes.toList,
   text "\n  coordinator_epoch " ++ render x.coordinatorEpoch,
   text "\n  corroboration_count " ++ decimal x.corroborationCount,
   text "\n  applied_penalty " ++ decimal x.appliedPenaltyBasisPoints.toNat,
   text "\n  decision_digest " ++ hexText x.digest.bytes.toList,
   text "\n  evidence_considered " ++ decimal x.citations.length]

theorem breaks_headerLines (x : Classification) (key : FlowKey) :
    breaks ((headerLines x key).flatMap id) = 13 := by
  have hselected : OneLine (if x.selectedEvidence.isEmpty then text "<none>"
      else x.selectedEvidence.value) := by
    split_ifs
    · decide
    · exact x.selectedEvidence.oneLine
  have hlines : ∀ t ∈ headerLines x key, breaks (id t) = 1 := by
    simp only [headerLines, id_eq, List.forall_mem_cons]
    refine ⟨?_, ?_, ?_, ?_, ?_, ?_, ?_, ?_, ?_, ?_, ?_, ?_, ?_, List.forall_mem_nil _⟩ <;>
      refine breaks_line ?_ ?_ <;> first | decide | exact hselected | simp
  exact breaks_flatMap hlines

/-- The contradictions follow the citations, and the reason of a revocation follows both. -/
theorem renderExplanation_eq (x : Classification) (input : DecisionInput) :
    renderExplanation x input =
      (text "flow " ++ x.flowId.toHex ++ text " generation " ++ render x.flowGeneration) ++
      (headerLines x input.flow.key).flatMap id ++
      x.citations.flatMap renderCitation ++
      (if x.contradictions.isEmpty then []
        else text "\n  contradictions " ++ decimal x.contradictions.length ++
          x.contradictions.flatMap renderContradiction) ++
      if x.state = .revoked then
        text "\n  revoked_reason \"" ++ input.revocationReason ++ text "\""
      else [] := by
  -- each side is put in normal form by itself: comparing them before unfolds the literals
  unfold renderExplanation headerLines
  conv_lhs => simp only [List.append_assoc]
  conv_rhs => simp only [List.flatMap_cons, List.flatMap_nil, id_eq, List.append_nil,
    List.append_assoc]

def explanationLines (citations contradictions : ℕ) (state : ClassificationState) : ℕ :=
  14 + citations + (if contradictions = 0 then 0 else contradictions + 1) +
    if state = .revoked then 1 else 0

/-- Each citation and each contradiction is one line, after the fixed ones. -/
theorem lineCount_renderExplanation {x : Classification} (h : PlainText x)
    (hinput : OneLine input.revocationReason) : lineCount (renderExplanation x input) =
      explanationLines x.citations.length x.contradictions.length x.state := by
  have hfirst : OneLine (text "flow " ++ x.flowId.toHex ++ text " generation " ++
      render x.flowGeneration) := by
    simp +decide
  have hcitations : breaks (x.citations.flatMap renderCitation) = x.citations.length :=
    breaks_flatMap fun c hc => breaks_renderCitation (h.details c hc)
  have hlisted : breaks (if x.contradictions.isEmpty then []
      else text "\n  contradictions " ++ decimal x.contradictions.length ++
        x.contradictions.flatMap renderContradiction) =
      if x.contradictions.length = 0 then 0 else x.contradictions.length + 1 := by
    have hitems : breaks (x.contradictions.flatMap renderContradiction) = x.contradictions.length :=
      breaks_flatMap fun c hc => breaks_renderContradiction (h.resolutions c hc)
    simp only [List.isEmpty_iff, List.length_eq_zero_iff]
    split_ifs
    · rfl
    · rw [breaks_append, breaks_line (by decide) (oneLine_decimal _), hitems]
      omega
  have hrevoked : breaks (if x.state = .revoked then
      text "\n  revoked_reason \"" ++ input.revocationReason ++ text "\"" else []) =
      if x.state = .revoked then 1 else 0 := by
    split_ifs
    · rw [List.append_assoc]
      exact breaks_line (by decide) (oneLine_append.mpr ⟨hinput, by decide⟩)
    · rfl
  rw [lineCount, renderExplanation_eq, breaks_append, breaks_append, breaks_append, breaks_append,
    hfirst.breaks, breaks_headerLines, hcitations, hlisted, hrevoked, explanationLines]
  omega

def PlainInput (input : DecisionInput) : Prop := ∀ r ∈ input.evidence, OneLine r.stateReason

theorem oneLine_currentness (input : DecisionInput) {r : EvidenceRecord}
    (h : OneLine r.stateReason) : OneLine (currentness input r).2 := by
  unfold currentness
  split_ifs <;> simp +decide [h]

theorem oneLine_withCurrentness (input : DecisionInput) {r : EvidenceRecord}
    (h : OneLine r.stateReason) : OneLine (withCurrentness input r).stateReason := by
  unfold withCurrentness
  split_ifs
  · exact oneLine_currentness input h
  · exact h

theorem oneLine_evaluate (input : DecisionInput) {c : Candidate} (hdetail : OneLine c.detail)
    (hreason : OneLine c.record.stateReason) : OneLine (evaluate input c).detail := by
  have hcurrentness := oneLine_withCurrentness input hreason
  unfold evaluate
  dsimp only
  split_ifs
  · exact hdetail
  · simp +decide
  · exact hcurrentness
  · exact hdetail
  · exact hcurrentness
  · exact hdetail
  · simp +decide
  · exact hdetail

theorem oneLine_assemble (h : PlainInput input) {c : Candidate}
    (hc : c ∈ assemble input) : OneLine c.detail ∧ OneLine c.record.stateReason := by
  rcases List.mem_append.mp hc with hevidence | hcontract
  · obtain ⟨hmem, ⟨hfresh, -⟩ | hrejected⟩ := Pool.mem_assembleEvidence hevidence
    · refine ⟨?_, h _ hmem⟩
      rw [hfresh]
      exact List.not_mem_nil
    · refine ⟨?_, h _ hmem⟩
      rw [hrejected]
      simp +decide [Pool.rejectedCandidate]
  · obtain ⟨k, -, -, hderived⟩ := Pool.contract_of_mem_assembleContracts hcontract
    rw [(Pool.mem_assembleContracts hcontract).1, hderived]
    exact ⟨List.not_mem_nil, List.not_mem_nil⟩

theorem oneLine_citations (h : PlainInput input)
    {c : EvidenceCitation} (hc : c ∈ citations input) : OneLine c.detail := by
  have hperm : ((citations input).map EvidenceCitation.detail).Perm
      ((sortedCandidates input).map Candidate.detail) := perm_citations fun _ _ _ => rfl
  obtain ⟨candidate, hcandidate, hdetail⟩ :=
    List.mem_map.mp (hperm.mem_iff.mp (List.mem_map_of_mem hc))
  obtain ⟨assembled, hassembled, rfl⟩ :=
    List.mem_map.mp ((List.perm_insertionSort _ _).mem_iff.mp hcandidate)
  obtain ⟨hplain, hreason⟩ := oneLine_assemble h hassembled
  rw [← hdetail]
  exact oneLine_evaluate input hplain hreason

/-- The threshold and the cap write texts of their own. -/
theorem oneLine_belowThreshold (w : EvidenceRecord) {c : EvidenceCitation}
    (h : OneLine c.detail) : OneLine (belowThreshold w c).detail := by
  unfold belowThreshold
  split_ifs
  · simp +decide
  · exact h

theorem oneLine_capCitations {cap : UInt32} {cited : List EvidenceCitation}
    (h : ∀ c ∈ cited, OneLine c.detail) : ∀ c ∈ capCitations cap cited, OneLine c.detail := by
  intro c hc
  rw [capCitations, (perm_sortCitations _).mem_iff, List.mem_append, List.mem_append] at hc
  rcases hc with (hkept | htaken) | hexcluded
  · exact h c (List.mem_of_mem_filter hkept)
  · exact h c (List.mem_of_mem_filter (List.mem_of_mem_take htaken))
  · obtain ⟨d, -, rfl⟩ := List.mem_map.mp hexcluded
    simp +decide [excludeByLimit]

theorem oneLine_resolvedBy (w r : EvidenceRecord) : OneLine (contradictionOf w r).resolvedBy := by
  simp +decide [contradictionOf]

theorem plainText_verdict (h : PlainInput input) : PlainText (verdict input) := by
  have hcited : ∀ c ∈ citations input, OneLine c.detail := fun c hc => oneLine_citations h hc
  unfold verdict
  cases winner input with
  | none => exact ⟨hcited, List.forall_mem_nil _⟩
  | some w =>
    have hcases : winnerVerdict input w = _ ∨ winnerVerdict input w = _ := ite_eq_or_eq _ _ _
    rcases hcases with hshort | hwon
    · simp only [hshort]
      refine ⟨fun c hc => ?_, List.forall_mem_nil _⟩
      obtain ⟨d, hd, rfl⟩ := List.mem_map.mp hc
      exact oneLine_belowThreshold w.record (hcited d hd)
    · simp only [hwon]
      refine ⟨hcited, fun c hc => ?_⟩
      obtain ⟨d, -, rfl⟩ := List.mem_map.mp hc
      exact oneLine_resolvedBy w.record d.record

theorem plainText_decide (h : PlainInput input) : PlainText (decide input) := by
  obtain ⟨hdetails, hresolutions⟩ := plainText_verdict h
  unfold decide withDigest finalCheck
  dsimp only
  split_ifs <;> exact ⟨oneLine_capCitations hdetails, hresolutions⟩

end Engine

namespace Store.EvidenceStore

/-- The reason of every stored record is on one line. -/
def PlainReasons (s : EvidenceStore) : Prop :=
  ∀ id r, s.byId.lookup id = some r → OneLine r.stateReason

section Reasons

variable {s s' : EvidenceStore} (h : s.PlainReasons)

include h

theorem PlainReasons.of_lookup
    (hsub : ∀ id r, s'.byId.lookup id = some r → s.byId.lookup id = some r) : s'.PlainReasons :=
  fun id r hr => h id r (hsub id r hr)

theorem PlainReasons.of_markStale {p : EvidenceRecord → Bool} {reason : EvidenceRecord → Bytes}
    (hreason : ∀ r, OneLine (reason r))
    (hbyId : s'.byId = s.byId.mapValues fun _ => markStale p reason) : s'.PlainReasons := by
  intro id r' hr'
  rw [hbyId] at hr'
  obtain ⟨r, hr, rfl⟩ := FiniteMap.of_lookup_mapValues hr'
  unfold markStale
  split_ifs
  · exact hreason r
  · exact h id r hr

theorem PlainReasons.markStaleWhere (p : EvidenceRecord → Bool)
    (hreason : OneLine reason) : (s.markStaleWhere p reason).PlainReasons :=
  h.of_markStale (fun _ => hreason) rfl

theorem PlainReasons.markEpochStale (epoch : CoordinatorEpoch) :
    (s.markEpochStale epoch).PlainReasons :=
  h.of_markStale (fun r => by simp +decide [epochReason]) rfl

theorem PlainReasons.insertRecord {id : EvidenceId}
    (hrecord : OneLine record.stateReason) (hbyId : s'.byId = s.byId.insert id record) :
    s'.PlainReasons := by
  intro j r hr
  rw [hbyId, FiniteMap.lookup_insert_eq] at hr
  split_ifs at hr
  · cases hr
    exact hrecord
  · exact h j r hr

theorem PlainReasons.setState (id : EvidenceId) (state : EvidenceState)
    (hreason : OneLine reason) : (s.setState id state reason).2.PlainReasons := by
  unfold EvidenceStore.setState
  cases s.byId.lookup id with
  | none => exact h
  | some record =>
    dsimp only
    split
    · exact h
    · split
      · exact h
      · exact h.insertRecord hreason rfl

omit h in
theorem PlainReasons.evictFrom (order : List EvidenceId) {s : EvidenceStore}
    (h : s.PlainReasons) : (s.evictFrom order).PlainReasons := by
  induction order generalizing s with
  | nil => exact h
  | cons id rest ih =>
    unfold EvidenceStore.evictFrom
    split_ifs
    · cases s.byId.lookup id with
      | none => exact ih h
      | some record =>
        apply ih
        apply h.of_lookup
        intro j r hr
        rw [FiniteMap.lookup_erase_eq] at hr
        split_ifs at hr
        exact hr
    · exact h

theorem PlainReasons.insert (hrecord : OneLine record.stateReason) :
    (s.insert record).2.PlainReasons := by
  have hroom : s.makeRoom.PlainReasons := by
    unfold makeRoom evictOldest
    split_ifs
    · exact PlainReasons.evictFrom _ h
    · exact h
  have hexit := inserted s record
  generalize s.insert record = out at hexit
  cases hexit with
  | known => exact h
  | rejected e => exact h
  | full e => exact hroom
  | placed => exact hroom.insertRecord hrecord rfl

theorem PlainReasons.restoreRecord
    (hrecord : OneLine record.stateReason) : (s.restoreRecord record).2.PlainReasons := by
  have hreloaded : OneLine (reloaded record).stateReason := by
    unfold reloaded
    split_ifs
    · simp +decide
    · exact hrecord
  rcases restoreRecord_cases s record with ⟨e, -, hsame⟩ | ⟨-, -, hbyId, -⟩
  · rw [hsame]
    exact h
  · exact h.insertRecord hreloaded hbyId

end Reasons

end Store.EvidenceStore

namespace Classifier

open Engine

section Steps

variable (h : c.evidence.PlainReasons)

include h

theorem plainReasons_refreshFlow (key : FlowKey) (requested : FlowGeneration)
    (session : SessionId) (tick : Tick) :
    (c.refreshFlow key requested session tick).2.evidence.PlainReasons := by
  have hcreated : OneLine (text "flow incarnation replaced") := by decide
  unfold refreshFlow markFlowGenerationStale
  rcases c.flows.registerFlow key requested session tick with ⟨_ | registration, flows⟩
  · exact h
  · dsimp only
    split_ifs
    · exact (h.markStaleWhere _ hcreated).markStaleWhere _ (by simp +decide)
    · exact h.markStaleWhere _ (by simp +decide)
    · exact h.markStaleWhere _ hcreated
    · exact h

theorem plainReasons_submitEvidence (envelope : SessionEnvelope) (payload : EvidencePayload)
    (tick touchTick : Tick) (wall : UInt64) :
    (c.submitEvidence envelope payload tick touchTick wall).2.evidence.PlainReasons := by
  have hflow := plainReasons_refreshFlow h payload.flowKey payload.flowGeneration
    envelope.session tick
  have hsub := submission c envelope payload tick touchTick wall
  generalize c.submitEvidence envelope payload tick touchTick wall = out at hsub
  cases hsub with
  | inadmissible => exact h
  | flowRefused _ heq | generationRefused _ heq | exhausted _ heq =>
    rw [heq] at hflow
    exact hflow
  | @storeRefused _ _ _ c₁ _ publishers sequence record _ _ _ heq _ _ hrecord hsupersede _ hinsert
  | @accepted _ _ _ c₁ _ publishers sequence record _ _ _ heq _ _ hrecord hsupersede _ hinsert =>
    rw [heq] at hflow
    let numbered : Classifier := { c₁ with publishers := publishers, sequence := sequence }
    have hnumbered : numbered.evidence.PlainReasons := hflow
    have holder := supersedeOlder_rule (K := fun d => d.evidence.PlainReasons) hsupersede
      hnumbered fun d other _ _ hd => hd.setState other .superseded (by simp +decide)
    have hnew : OneLine record.stateReason := by
      rw [hrecord]
      exact List.not_mem_nil
    have hinserted := holder.insert hnew
    rw [hinsert] at hinserted
    exact hinserted

theorem plainReasons_withdrawEvidence (envelope : SessionEnvelope) (id : EvidenceId)
    (hreason : OneLine reason) (tick : Tick) :
    (c.withdrawEvidence envelope id reason tick).2.evidence.PlainReasons := by
  have happlied : OneLine (if reason.isEmpty then text "withdrawn by its publisher"
      else reason) := by
    split_ifs
    · decide
    · exact hreason
  have hset := h.setState id .superseded happlied
  unfold withdrawEvidence
  generalize (if reason.isEmpty then text "withdrawn by its publisher" else reason) = applied
    at hset
  split_ifs
  · exact h
  · cases c.evidence.find id with
    | error e => exact h
    | ok record =>
      dsimp only
      split_ifs
      · exact h
      · split
        next e evidence heq =>
          rw [heq] at hset
          exact hset
        next evidence heq =>
          rw [heq] at hset
          rw [evidence_fileRevocation]
          exact hset

end Steps

/-- The stored reasons are on one line, and so were those behind every remembered decision. -/
structure Plain (c : Classifier) : Prop where
  evidence : c.evidence.PlainReasons
  memo : MemoOf PlainInput c

/-- A caller brings reasons of one line: that of a withdrawal, and those of an image. -/
def PlainCall : Operation → Prop
  | .withdrawEvidence _ _ reason _ => OneLine reason
  | .restore image _ _ => ∀ r ∈ image.evidence, OneLine r.stateReason
  | _ => True

theorem plain_new (options : ClassifierOptions) : Plain (.new options) where
  evidence := fun _ _ hr => by cases hr
  memo := memoOf_of_empty rfl

theorem oneLine_sessionEnd (live : Bool) (id : PublisherId) (boot : PublisherBootId)
    (session : SessionId) : OneLine (sessionEnd live id boot session).2 := by
  unfold sessionEnd
  split_ifs <;> simp +decide

/-- Reasons are the source's own texts, except that of a withdrawal. -/
theorem plainReasons_step (h : c.evidence.PlainReasons) {op : Operation}
    (hop : PlainCall op) : (c.step op).evidence.PlainReasons := by
  cases op with
  | advanceEpoch boot =>
    rw [step, advanceEpoch]
    split
    · exact h
    · split
      · exact h
      · exact h.markEpochStale _
  | setPolicy policy =>
    rw [step]
    rcases setPolicy_updates c policy with hsame | ⟨_, _, _, -, hupdated⟩
    · rwa [hsame]
    · rw [hupdated]
      exact h
  | registerPublisher =>
    rw [step, registerPublisher]
    split <;> exact h
  | endPublisherSession id boot session tick =>
    rw [step, endPublisherSession]
    split
    · exact h
    · exact h.markStaleWhere _ (oneLine_sessionEnd _ _ _ _)
  | heartbeat =>
    rw [step, heartbeat]
    split <;> exact h
  | expirePublisherLiveness =>
    rw [step, expirePublisherLiveness]
    dsimp only
    split_ifs
    · exact h.markStaleWhere _ (by decide)
    · exact h
  | declareWorkload id =>
    rw [step, declareWorkload]
    split
    · exact h
    · refine List.foldlRecOn (motive := EvidenceStore.PlainReasons) _ _ h ?_
      intro s hs k _
      exact hs.markStaleWhere _ (by simp +decide [outgrownReason])
  | proposeContract => exact h
  | activateContract =>
    rw [step, activateContract]
    split
    · exact h
    · dsimp only
      split
      · exact h
      · split_ifs
        · exact h
        · exact h.markStaleWhere _ (by simp +decide)
  | retireContract | retireWorkload =>
    rw [step]
    first | unfold retireContract | unfold retireWorkload
    split
    · exact h
    · exact h.markStaleWhere _ (by simp +decide)
  | registerFlow => exact plainReasons_refreshFlow h _ _ _ _
  | findFlow | findFlowGeneration => exact h
  | submitEvidence => exact plainReasons_submitEvidence h _ _ _ _ _
  | withdrawEvidence => exact plainReasons_withdrawEvidence h _ _ hop _
  | revokeGeneration envelope flow generation reason tick =>
    rcases revokeGeneration_cases c envelope flow generation reason tick with
      ⟨e, heq⟩ | ⟨e, heq⟩ | ⟨applied, heq⟩
    · rw [step, heq]
      exact h
    · rw [step, heq]
      exact h
    · rw [step, heq, evidence_fileRevocation]
      exact h
  | classify =>
    rw [step, (answered_classify c _ _).evidence]
    exact h
  | classifyBatch =>
    rw [step, (answered_classifyBatch c _).evidence]
    exact h
  | explain =>
    rw [step, (answered_explain c _ _ _ _).evidence]
    exact h
  | restore => exact evidence_restore _ _ h fun _ r hr hs => hs.restoreRecord (hop r hr)

theorem Plain.asked (h : Plain c) (flow : FlowRecord) (generation : FlowGeneration) (tick : Tick) :
    PlainInput (c.decisionInput flow generation tick) := by
  intro r hr
  obtain ⟨id, -, hid⟩ := List.mem_filterMap.mp hr
  exact h.evidence id r hid

theorem Plain.queryInput (h : Plain c) {requested : FlowGeneration}
    (hinput : c.queryInput key requested tick = some input) : PlainInput input := by
  obtain ⟨flow, -, rfl⟩ := Option.map_eq_some_iff.mp hinput
  exact h.asked flow _ tick

theorem plain_step (h : Plain c) {op : Operation} (hop : PlainCall op) :
    Plain (c.step op) where
  evidence := plainReasons_step h.evidence hop
  memo := by
    apply h.memo.step
    cases op with
    | classify | explain => exact fun _ hinput => h.queryInput hinput
    | classifyBatch => exact fun _ _ _ hinput => h.queryInput hinput
    | _ => trivial

/-- An answer with an explanation has as many lines as its citations, its contradictions
and its state make. -/
def LinesFixed (query : ClassificationQuery) (result : ClassificationResult) : Prop :=
  query.explain = true →
    lineCount result.explanation = explanationLines result.classification.citations.length
      result.classification.contradictions.length result.classification.state

theorem isEmpty_renderExplanation (x : Classification) (input : DecisionInput) :
    (renderExplanation x input).isEmpty = false := by
  have hfirst : text "flow " ≠ [] := by decide
  rw [renderExplanation_eq, List.isEmpty_eq_false_iff]
  simp only [ne_eq, List.append_eq_nil_iff, hfirst, false_and, not_false_eq_true]

/-- An explanation is never empty, so `explain` returns the text its query is answered with. -/
theorem explain_text {generation : FlowGeneration}
    {again : Tick} (hout : (c.explain key generation tick again).1 = .ok out) :
    ∃ result, (c.classify (explainQuery key generation) tick).1 = .ok result ∧
      result.explanation = out := by
  have hshown : ∀ result, (c.classify (explainQuery key generation) tick).1 = .ok result →
      result.explanation.isEmpty = false := by
    have hasked := asked_classify c (explainQuery key generation) tick
    intro result hresult
    generalize c.classify (explainQuery key generation) tick = answer at hasked hresult
    cases hasked with
    | refused => cases hresult
    | answered =>
      cases hresult
      exact isEmpty_renderExplanation _ _
  unfold explainQuery at hshown ⊢
  unfold explain at hout
  dsimp only at hout
  generalize c.classify _ tick = answer at hshown hout ⊢
  obtain ⟨_ | result, d⟩ := answer
  · cases hout
  · dsimp only at hout
    rw [hshown result rfl] at hout
    cases hout
    exact ⟨result, rfl, rfl⟩

/-- The property holds of every answer, and `explain` returns the explanation of one. -/
def EveryExplanation (asked : Operation → Prop) (c : Classifier)
    (P : ClassificationQuery → Tick → ClassificationResult → Prop) : Prop :=
  EveryAnswer asked c P ∧
    ∀ key generation tick again out, asked (.explain key generation tick again) →
      (c.explain key generation tick again).1 = .ok out →
      ∃ result, (c.classify (explainQuery key generation) tick).1 = .ok result ∧
        result.explanation = out ∧ P (explainQuery key generation) tick result

theorem EveryAnswer.explained {asked : Operation → Prop}
    {P : ClassificationQuery → Tick → ClassificationResult → Prop} (h : EveryAnswer asked c P)
    (hasked : ∀ key generation tick again, asked (.explain key generation tick again) →
      asked (.classify (explainQuery key generation) tick)) : EveryExplanation asked c P := by
  refine ⟨h, fun key generation tick again out hexplain hout => ?_⟩
  obtain ⟨result, hresult, htext⟩ := explain_text hout
  exact ⟨result, hresult, htext,
    h.1 _ tick (hasked key generation tick again hexplain) result hresult⟩

section Answers

variable (h : Plain c)

include h

theorem linesFixed_answer (flow : FlowRecord) (generation : FlowGeneration) (historical : Bool)
    (query : ClassificationQuery) (tick : Tick) :
    LinesFixed query (c.answer flow generation historical query.explain tick).1 := by
  intro hexplain
  have hinput := h.asked flow generation tick
  obtain ⟨-, i, hdecided, -, hi⟩ := (memoOf_decideMemoised h.memo hinput).1
  have hplain := plainText_decide hi
  rw [← hdecided] at hplain
  have hrendered : (c.answer flow generation historical query.explain tick).1.explanation =
      renderExplanation (c.decideMemoised (c.decisionInput flow generation tick)).1
        (c.decisionInput flow generation tick) := if_pos hexplain
  rw [hrendered]
  exact lineCount_renderExplanation hplain List.not_mem_nil

theorem Asked.linesFixed {query : ClassificationQuery}
    {out : Result ClassificationResult × Classifier} (hasked : Asked c query tick out)
    {result : ClassificationResult} (hresult : out.1 = .ok result) : LinesFixed query result := by
  cases hasked with
  | refused => cases hresult
  | answered hd hdecisions =>
    cases hresult
    refine linesFixed_answer ⟨?_, h.memo.of_memo (by rw [hdecisions])⟩ _ _ _ query tick
    rw [hd.evidence]
    exact h.evidence

/-- Every way of asking for an explanation. -/
theorem linesFixed_everyExplanation :
    EveryExplanation (fun _ => True) c fun query _ result => LinesFixed query result := by
  refine EveryAnswer.explained ⟨fun query tick _ result hresult =>
    (asked_classify c query tick).linesFixed h hresult, ?_⟩ fun _ _ _ _ _ => trivial
  intro queries _ outcome houtcome
  refine (@classifyBatch_rule c Plain (fun query _ result => LinesFixed query result) queries ?_
    fun _ => ⟨h.evidence, h.memo⟩).2 outcome houtcome
  intro q _ d hd
  have hasked := asked_classifyOne d q.1 q.2
  refine ⟨⟨?_, (hasked.memoOf hd.memo fun _ hinput => hd.queryInput hinput).1⟩,
    fun _ hresult => hasked.linesFixed hd hresult⟩
  rw [hasked.kept.evidence]
  exact hd.evidence

end Answers

end Classifier

end FlowClassifier
