import FlowClassifier.Policies
import FlowClassifier.Workloads
import FlowClassifier.Classifications

/-!
The decision engine. `decide` assembles the candidates, evaluates whether each is
current, sorts them, takes the first eligible one as the winner, builds citations and
contradictions, applies the threshold and the display cap and checks the result once
more before it is digested. The passes are separate functions, in the order in which
the source runs them. What sorts takes the sort as a parameter: of the library's sort only
this is known that it sorts. Where none is named it is insertion sort.
-/
namespace FlowClassifier.Engine

open Lib Foundation Buffers Hash Evidence Flows Policies Workloads Classifications

structure RankKey where
  source : ℕ
  workloadGeneration : UInt64
  acceptedSeq : Seq
  id : Bytes

def ranksAbove (left right : RankKey) : Bool :=
  if left.source ≠ right.source then left.source > right.source
  else if left.workloadGeneration ≠ right.workloadGeneration then
    left.workloadGeneration > right.workloadGeneration
  else if left.acceptedSeq ≠ right.acceptedSeq then left.acceptedSeq > right.acceptedSeq
  else left.id < right.id

def rankOf (r : EvidenceRecord) : RankKey :=
  ⟨r.source.rank, r.workloadGeneration, r.acceptedSeq, r.id.value⟩

def evidenceOutranks (left right : EvidenceRecord) : Bool :=
  ranksAbove (rankOf left) (rankOf right)

def dispositionForState : EvidenceState → EvidenceDisposition
  | .current => .corroborating
  | .stale => .stale
  | .superseded => .withdrawn
  | .revoked => .revoked
  | .insufficient => .belowThreshold
  | .rejected => .rejected
  | .none => .rejected

structure AuthorityContext where
  epoch : CoordinatorEpoch
  coordinatorBoot : CoordinatorBootId
  tick : Tick := tickNone
  authoritySequence : Seq := 0
  livePublisherBoots : List Bytes := []
  knownPublishers : List Bytes := []

def bootKey (publisher : PublisherId) (boot : PublisherBootId) : Bytes :=
  publisher.value ++ text "@" ++ render boot

namespace AuthorityContext

def isLive (a : AuthorityContext) (r : EvidenceRecord) : Bool :=
  a.livePublisherBoots.contains (bootKey r.publisher r.publisherBoot)

def isKnown (a : AuthorityContext) (r : EvidenceRecord) : Bool :=
  a.knownPublishers.contains r.publisher.value

end AuthorityContext

structure DecisionInput where
  flow : FlowRecord
  evidence : List EvidenceRecord
  activeContracts : List WorkloadContract
  workloads : List WorkloadRecord
  authority : AuthorityContext
  policy : ClassifierPolicy
  generationRevoked : Bool := false
  revocationReason : Bytes := []

structure Candidate where
  record : EvidenceRecord
  disposition : EvidenceDisposition := .selected
  detail : Bytes := []

def contractEvidenceChunks (c : WorkloadContract) (flow : FlowRecord) : List Bytes :=
  [blobBytes (text "contract-evidence"),
   blobBytes c.id.value,
   u64Bytes c.workloadGeneration,
   u64Bytes flow.id.hi,
   u64Bytes flow.id.lo,
   u64Bytes flow.generation,
   blobBytes c.definitionDigest.bytes.toList]

def digestIdText (tag : Bytes) (digest : Digest256) : Bytes :=
  tag ++ hexText (digest.bytes.toList.take 16)

theorem digestIdText_canonical {tag : Bytes} (htag : isCanonicalIdentity tag = true)
    (hlen : tag.length ≤ 96) (digest : Digest256) :
    isCanonicalIdentity (digestIdText tag digest) = true := by
  apply isCanonicalIdentity_append_hexText htag
  rw [List.length_take, List.Vector.toList_length]
  unfold maxIdentityBytes
  omega

def contractEvidenceId (c : WorkloadContract) (flow : FlowRecord) : EvidenceId :=
  match encode 256 (contractEvidenceChunks c flow) with
  | .ok bytes => .make (digestIdText (text "ctr-") (sha256 bytes))
  | .error _ => .none

def deriveContractEvidence (c : WorkloadContract) (flow : FlowRecord) (tick : Tick)
    (freshnessWindow : UInt64) (epoch : CoordinatorEpoch) : EvidenceRecord :=
  let r : EvidenceRecord :=
    { id := contractEvidenceId c flow
      publisher := c.owner
      publisherBoot := 0
      workload := c.workload
      workloadGeneration := c.workloadGeneration
      contract := c.id
      flowId := flow.id
      flowGeneration := flow.generation
      generation := c.workloadGeneration
      acceptedEpoch := epoch
      acceptedSeq := 0
      acceptedTick := tick
      freshUntil := if tick = tickNone then tickNone else tick + freshnessWindow
      semantic := c.declaredClass
      source := c.derivedSource
      state := .current
      confidence := c.derivedSource.confidence
      metadata :=
        { topic := text "contract"
          contract := c.id
          reason := text "derived from active contract " ++ c.id.value } }
  { r with contentDigest := computeEvidenceDigest r }

def recordMatchesFlow (r : EvidenceRecord) (flow : FlowRecord) : Bool :=
  r.flowId == flow.id && r.flowGeneration == flow.generation

def evidenceSetDigestChunks (input : DecisionInput) (σ : Sorter := .insertion) : List Bytes :=
  let records := σ.sort (fun a b => Decidable.decide (a.id < b.id)) input.evidence
  let contracts := σ.sort (fun a b => Decidable.decide (a.id < b.id)) input.activeContracts
  [u8Bytes 1,
   u64Bytes input.flow.id.hi,
   u64Bytes input.flow.id.lo,
   u64Bytes input.flow.generation,
   u64Bytes input.policy.generation,
   u64Bytes input.authority.authoritySequence,
   u64Bytes input.authority.epoch,
   u64Bytes input.authority.coordinatorBoot,
   u64Bytes input.authority.tick,
   countBytes records.length] ++
  records.flatMap (fun r =>
    [blobBytes r.contentDigest.bytes.toList, u8Bytes r.state.code, u64Bytes r.freshUntil]) ++
  [countBytes contracts.length] ++
  contracts.flatMap (fun c =>
    [blobBytes c.definitionDigest.bytes.toList, u8Bytes c.state.code]) ++
  [boolBytes input.generationRevoked]

def computeEvidenceSetDigest (input : DecisionInput) (σ : Sorter := .insertion) : Digest256 :=
  digestOfChunks (evidenceSetDigestChunks input σ)

/-- The given records; a repeated identity is kept as a rejected candidate. -/
def assembleEvidence : List EvidenceId → List EvidenceRecord → List Candidate
  | _, [] => []
  | seen, r :: rest =>
    if r.id ∈ seen then
      { record := r, disposition := .rejected,
        detail := text "duplicate evidence identity in the considered set" } ::
        assembleEvidence seen rest
    else { record := r } :: assembleEvidence (r.id :: seen) rest

def contractApplies (input : DecisionInput) (c : WorkloadContract) : Bool :=
  c.state == .active && contractCovers c input.flow.key &&
    match input.workloads.find? fun w => w.id == c.workload with
    | some w => c.workloadGeneration == w.generation
    | none => false

def freshnessWindow (input : DecisionInput) : UInt64 :=
  if input.policy.defaultFreshnessWindow = 0 then 1 else input.policy.defaultFreshnessWindow

def derived (input : DecisionInput) (c : WorkloadContract) : EvidenceRecord :=
  deriveContractEvidence c input.flow input.authority.tick (freshnessWindow input)
    input.authority.epoch

def assembleContracts (input : DecisionInput) :
    List EvidenceId → List WorkloadContract → List Candidate
  | _, [] => []
  | seen, c :: rest =>
    if contractApplies input c then
      if (derived input c).id ∈ seen then assembleContracts input seen rest
      else { record := derived input c } ::
        assembleContracts input ((derived input c).id :: seen) rest
    else assembleContracts input seen rest

def assemble (input : DecisionInput) : List Candidate :=
  assembleEvidence [] input.evidence ++
    assembleContracts input (input.evidence.map EvidenceRecord.id) input.activeContracts

/-- The state and its reason after the rules for a CURRENT record of this flow. -/
def currentness (input : DecisionInput) (r : EvidenceRecord) : EvidenceState × Bytes :=
  if r.acceptedEpoch ≠ input.authority.epoch then
    (.stale, text "accepted in coordinator epoch " ++ render r.acceptedEpoch ++
      text " rather than " ++ render input.authority.epoch)
  else if !r.carriesAuthority then
    (.stale, text "record no longer carries authority")
  else if r.source = .heuristic ∧ input.policy.allowHeuristicEvidence = false then
    (.rejected,
      text "policy does not permit heuristic evidence; heuristic adapters are disabled")
  else if r.source.requiresLiveSession && !input.authority.isLive r then
    (.stale,
      if input.authority.isKnown r then
        text "publisher " ++ r.publisher.value ++ text " boot " ++ render r.publisherBoot ++
          text " is not live in the current coordinator epoch"
      else text "publisher " ++ r.publisher.value ++ text " is no longer registered")
  else if input.authority.tick ≠ tickNone ∧ r.freshUntil ≠ tickNone ∧
      input.authority.tick > r.freshUntil then
    (.stale, text "freshness window expired at tick " ++ render r.freshUntil)
  else (r.state, r.stateReason)

def withCurrentness (input : DecisionInput) (r : EvidenceRecord) : EvidenceRecord :=
  if r.state = .current then
    { r with state := (currentness input r).1, stateReason := (currentness input r).2 }
  else r

def evaluate (input : DecisionInput) (c : Candidate) : Candidate :=
  if c.disposition = .rejected then c
  else if !recordMatchesFlow c.record input.flow then
    { record :=
        { c.record with
          state := .stale
          stateReason := text "evidence is bound to a different flow generation" }
      disposition := .stale
      detail := text "bound to flow generation " ++ render c.record.flowGeneration ++
        text " rather than " ++ render input.flow.generation }
  else
    let r := withCurrentness input c.record
    if r.state ≠ .current then
      { record := r
        disposition :=
          if c.disposition = .selected then dispositionForState r.state else c.disposition
        detail := if c.detail.isEmpty then r.stateReason else c.detail }
    else if r.source.isHeuristic then
      { record := r
        disposition := .subordinate
        detail := text "heuristic source: never decisive, never a contradiction" }
    else { c with record := r }

def candidateBefore (a b : Candidate) : Bool :=
  let aEligible := a.disposition == .selected
  let bEligible := b.disposition == .selected
  if aEligible ≠ bEligible then aEligible
  else ranksAbove (rankOf a.record) (rankOf b.record)

def sortedCandidates (input : DecisionInput) (σ : Sorter := .insertion) : List Candidate :=
  σ.sort candidateBefore ((assemble input).map (evaluate input))

def eligible (c : Candidate) : Bool :=
  c.disposition == .selected && c.record.semantic != .unknown

def winnerIndex (input : DecisionInput) (σ : Sorter := .insertion) : Option ℕ :=
  if input.generationRevoked then none
  else (sortedCandidates input σ).findIdx? eligible

def winner (input : DecisionInput) (σ : Sorter := .insertion) : Option Candidate :=
  (winnerIndex input σ).bind fun i => (sortedCandidates input σ)[i]?

/-- The branch of the citation loop that counts as corroboration. -/
def corroborates (w : Option Candidate) (isWinner : Bool) (c : Candidate) : Bool :=
  match w with
  | none => false
  | some w =>
    !isWinner && c.record.state == .current && !c.record.source.isHeuristic &&
      c.record.semantic == w.record.semantic

def citedDisposition (w : Option Candidate) (isWinner : Bool) (c : Candidate) :
    EvidenceDisposition :=
  if isWinner then .selected
  else if c.record.state = .current then
    if c.record.source.isHeuristic then .subordinate
    else
      match w with
      | none => .subordinate
      | some w =>
        if c.record.semantic = w.record.semantic then .corroborating
        else if c.record.semantic = .unknown then .subordinate
        else .contradicting
  else c.disposition

def cite (w : Option Candidate) (isWinner : Bool) (c : Candidate) : EvidenceCitation where
  id := c.record.id
  publisher := c.record.publisher
  source := c.record.source
  state := c.record.state
  semantic := c.record.semantic
  confidence := c.record.confidence
  generation := c.record.generation
  acceptedSeq := c.record.acceptedSeq
  acceptedTick := c.record.acceptedTick
  freshUntil := c.record.freshUntil
  detail := c.detail
  disposition := citedDisposition w isWinner c

def citationBefore (a b : EvidenceCitation) : Bool :=
  if a.disposition ≠ b.disposition then a.disposition.code < b.disposition.code
  else a.id < b.id

def sortCitations (citations : List EvidenceCitation) (σ : Sorter := .insertion) :
    List EvidenceCitation :=
  σ.sort citationBefore citations

def citations (input : DecisionInput) (σ : Sorter := .insertion) : List EvidenceCitation :=
  sortCitations
    ((sortedCandidates input σ).mapIdx fun i c =>
      cite (winner input σ) (winnerIndex input σ == some i) c) σ

def corroboration (input : DecisionInput) (σ : Sorter := .insertion) : ℕ :=
  ((sortedCandidates input σ).mapIdx fun i c =>
    corroborates (winner input σ) (winnerIndex input σ == some i) c).count true

def contradicts (w c : Candidate) : Bool :=
  c.record.state == .current && !c.record.source.isHeuristic &&
    c.record.semantic != w.record.semantic && c.record.semantic != .unknown

def contradictionOf (w r : EvidenceRecord) : ClassificationContradiction where
  leftId := w.id
  leftClass := w.semantic
  leftSource := w.source
  rightId := r.id
  rightClass := r.semantic
  rightSource := r.source
  resolvedBy := text "evidence precedence: source rank " ++ decimal w.source.rank ++
    text " outranks " ++ decimal r.source.rank

def contradictions (input : DecisionInput) (w : Candidate) (σ : Sorter := .insertion) :
    List ClassificationContradiction :=
  (σ.sort (fun a b => evidenceOutranks a.record b.record)
    ((sortedCandidates input σ).filter (contradicts w))).map
      fun c => contradictionOf w.record c.record

theorem contradictions_insertion (input : DecisionInput) (w : Candidate) :
    contradictions input w =
      (((sortedCandidates input).filter (contradicts w)).insertionSort fun a b =>
        evidenceOutranks b.record a.record = false).map
          fun c => contradictionOf w.record c.record :=
  rfl

def decisionHeader (input : DecisionInput) : Classification where
  flowId := input.flow.id
  flowGeneration := input.flow.generation
  policyGeneration := input.policy.generation
  policyDigest := computePolicyDigest input.policy
  coordinatorEpoch := input.authority.epoch
  coordinatorBoot := input.authority.coordinatorBoot
  decidedTick := input.authority.tick

def belowThreshold (w : EvidenceRecord) (citation : EvidenceCitation) : EvidenceCitation :=
  if citation.id = w.id then
    { citation with
      disposition := .belowThreshold
      detail := text "confidence below the publishable threshold; class reported as UNKNOWN" }
  else citation

def winnerVerdict (input : DecisionInput) (w : Candidate) (σ : Sorter := .insertion) :
    Classification :=
  let found := contradictions input w σ
  let confidence := w.record.confidence.weaker w.record.source.confidence
  let count := corroboration input σ
  let result : Classification :=
    { decisionHeader input with
      semantic := w.record.semantic
      selectedEvidence := w.record.id
      selectedSource := w.record.source
      citations := citations input σ
      contradictions := found
      corroborationCount := count
      appliedPenaltyBasisPoints :=
        if found.isEmpty then 0 else input.policy.contradictionPenalty
      confidence :=
        if found.isEmpty then confidence
        else confidence.reducedBy input.policy.contradictionPenalty.toNat
      state :=
        if !found.isEmpty then .contradicted
        else if count > 0 then .corroborated
        else .current }
  if result.confidence.basisPoints < input.policy.minimumPublishableConfidence.toNat then
    { decisionHeader input with
      state := .insufficient
      citations := (citations input σ).map (belowThreshold w.record) }
  else result

def openVerdict (input : DecisionInput) (σ : Sorter := .insertion) : Classification :=
  let anyCurrent := (sortedCandidates input σ).any fun c => c.record.state == .current
  let anyStale := (sortedCandidates input σ).any fun c =>
    c.record.state == .stale || c.record.state == .superseded
  { decisionHeader input with
    citations := citations input σ
    state :=
      if input.generationRevoked then .revoked
      else if anyCurrent then .insufficient
      else if anyStale then .stale
      else .insufficient }

def verdict (input : DecisionInput) (σ : Sorter := .insertion) : Classification :=
  match winner input σ with
  | some w => winnerVerdict input w σ
  | none => openVerdict input σ

def isDecisive (c : EvidenceCitation) : Bool :=
  c.disposition == .selected || c.disposition == .contradicting ||
    c.disposition == .corroborating

def excludeByLimit (cap : UInt32) (c : EvidenceCitation) : EvidenceCitation :=
  { c with
    disposition := .excludedByLimit
    detail := text "excluded by the policy consideration cap of " ++ decimal cap.toNat ++
      text " citations" }

def capCitations (cap : UInt32) (cited : List EvidenceCitation) (σ : Sorter := .insertion) :
    List EvidenceCitation :=
  let kept := cited.filter isDecisive
  let dropped := cited.filter fun c => !isDecisive c
  let budget :=
    if cited.length > cap.toNat then
      if cap.toNat > kept.length then cap.toNat - kept.length else 0
    else dropped.length
  let keepDropped := if dropped.length < budget then dropped.length else budget
  sortCitations
    (kept ++ dropped.take keepDropped ++ (dropped.drop keepDropped).map (excludeByLimit cap)) σ

def justified (c : Classification) : Bool :=
  c.citations.any fun citation =>
    citation.disposition == .selected && citation.state == .current &&
      citation.semantic == c.semantic

def finalCheck (c : Classification) : Classification :=
  if c.semantic ≠ .unknown ∧ c.state ≠ .revoked ∧ justified c = false then
    { c with
      semantic := .unknown
      state := .insufficient
      confidence := .none
      selectedEvidence := .none
      selectedSource := .unknown }
  else c

def withDigest (c : Classification) (σ : Sorter := .insertion) : Classification :=
  { c with digest := computeClassificationDigest c σ }

def decide (input : DecisionInput) (σ : Sorter := .insertion) : Classification :=
  let result := verdict input σ
  withDigest
    (finalCheck
      { result with
        citations := capCitations input.policy.maxEvidenceConsidered result.citations σ }) σ

def renderCitation (c : EvidenceCitation) : Bytes :=
  text "\n    - " ++ c.id.value ++ text " [" ++ c.disposition.toString ++ text "] source=" ++
    c.source.toString ++ text " state=" ++ c.state.toString ++ text " class=" ++
    c.semantic.toString ++ text " publisher=" ++ c.publisher.value ++ text " generation=" ++
    render c.generation ++ text " confidence=" ++ c.confidence.toDecimal ++
    if c.detail.isEmpty then [] else text " detail=\"" ++ c.detail ++ text "\""

def renderContradiction (c : ClassificationContradiction) : Bytes :=
  text "\n    - " ++ c.leftId.value ++ text "(" ++ c.leftClass.toString ++ text "/" ++
    c.leftSource.toString ++ text ") conflicts with " ++ c.rightId.value ++ text "(" ++
    c.rightClass.toString ++ text "/" ++ c.rightSource.toString ++ text "); " ++ c.resolvedBy

def renderExplanation (c : Classification) (input : DecisionInput) : Bytes :=
  text "flow " ++ c.flowId.toHex ++ text " generation " ++ render c.flowGeneration ++
    text "\n  key " ++ input.flow.key.toString ++
    text "\n  semantic_class " ++ c.semantic.toString ++
    text "\n  state " ++ c.state.toString ++
    text "\n  confidence " ++ c.confidence.toDecimal ++
    text "\n  selected_evidence " ++
      (if c.selectedEvidence.isEmpty then text "<none>" else c.selectedEvidence.value) ++
    text "\n  selected_source " ++ c.selectedSource.toString ++
    text "\n  policy_generation " ++ render c.policyGeneration ++
    text "\n  policy_digest " ++ hexText c.policyDigest.bytes.toList ++
    text "\n  coordinator_epoch " ++ render c.coordinatorEpoch ++
    text "\n  corroboration_count " ++ decimal c.corroborationCount ++
    text "\n  applied_penalty " ++ decimal c.appliedPenaltyBasisPoints.toNat ++
    text "\n  decision_digest " ++ hexText c.digest.bytes.toList ++
    text "\n  evidence_considered " ++ decimal c.citations.length ++
    c.citations.flatMap renderCitation ++
    (if c.contradictions.isEmpty then []
      else text "\n  contradictions " ++ decimal c.contradictions.length ++
        c.contradictions.flatMap renderContradiction) ++
    if c.state = .revoked then
      text "\n  revoked_reason \"" ++ input.revocationReason ++ text "\""
    else []

end FlowClassifier.Engine
