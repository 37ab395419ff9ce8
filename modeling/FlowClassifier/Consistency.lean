import FlowClassifier.Frames
import FlowClassifier.Identities
import FlowClassifier.Store.FlowHistory

/-!
What holds in every state a classifier reaches. The stores are keyed and indexed, every
evidence record carries its minted identity and its own digest and has used up its
generation, and contracts are coherent with their workloads. A step is described once, by
what it may do to each store; consistency after the step follows from that description.
-/
namespace FlowClassifier

open Lib Foundation Buffers Evidence Flows Workloads Store PublisherRegistry EvidenceStore
  WorkloadRegistry

variable {r' : EvidenceRecord} {scope : HashScope}

namespace Classifier

def materialOf (r : EvidenceRecord) : Bytes :=
  evidenceMaterial r.publisher r.publisherBoot r.metadata.topic r.generation r.flowId
    r.flowGeneration

structure Recorded (scope : HashScope) (r : EvidenceRecord) : Prop where
  id_eq : r.id = mintEvidenceId (materialOf r)
  material : materialOf r ∈ scope.messages
  digest_eq : r.contentDigest = computeEvidenceDigest r
  encoding : (evidenceDigestChunks r).flatten ∈ scope.messages
  fits : (evidenceDigestChunks r).flatten.length ≤ maxBlobBytes

theorem Recorded.weakens {r : EvidenceRecord} (h : Recorded scope r)
    (hw : Weakens r r') : Recorded scope r' := by
  rw [hw.submission]
  exact ⟨h.id_eq, h.material, h.digest_eq, h.encoding, h.fits⟩

/-- Records with one identity come from one generation of one incarnation. -/
theorem Recorded.same_generation {r : EvidenceRecord}
    (h : Recorded scope r) (h' : Recorded scope r') (hid : r.id = r'.id) :
    r.publisher = r'.publisher ∧ r.publisherBoot = r'.publisherBoot ∧
      r.generation = r'.generation := by
  rw [h.id_eq, h'.id_eq] at hid
  exact evidenceMaterial_injective (mintEvidenceId_injOn h.material h'.material hid)

def used (r : PublisherRegistry) (record : EvidenceRecord) : Prop :=
  r.Marked record.publisher record.publisherBoot record.generation

structure Defined (scope : HashScope) (k : WorkloadContract) : Prop where
  encoding : (contractDigestChunks k).flatten ∈ scope.messages
  fits : (contractDigestChunks k).flatten.length ≤ maxBlobBytes

theorem Defined.later {k k' : WorkloadContract} (h : Defined scope k)
    (hlater : WorkloadRegistry.Later k k') : Defined scope k' :=
  ⟨hlater.chunks ▸ h.encoding, hlater.chunks ▸ h.fits⟩

def FlowsKeyed (scope : HashScope) (r : FlowRegistry) : Prop :=
  ∀ key f, r.current.lookup key = some f →
    f.key = key ∧ f.id = deriveFlowId key ∧ key ∈ scope.keys

structure Consistent (scope : HashScope) (c : Classifier) : Prop where
  flows : FlowsKeyed scope c.flows
  publishers : c.publishers.WellKeyed
  indexed : c.evidence.Indexed c.evidence.order
  recorded : ∀ id r, c.evidence.byId.lookup id = some r →
    Recorded scope r ∧ used c.publishers r
  workloads : c.workloads.Coherent
  defined : ∀ id k, c.workloads.contracts.lookup id = some k → Defined scope k

theorem indexed_new (options : ClassifierOptions) :
    (Classifier.new options).evidence.Indexed (Classifier.new options).evidence.order := by
  refine ⟨?_, ?_, ?_, ?_⟩
  all_goals
    intro key entry h
    simp [Classifier.new] at h

theorem coherent_new (options : ClassifierOptions) :
    (Classifier.new options).workloads.Coherent := by
  refine ⟨?_, ?_, ?_, ?_⟩
  all_goals
    intro key entry h
    simp [Classifier.new] at h

theorem consistent_new (scope : HashScope) (options : ClassifierOptions) :
    Consistent scope (.new options) := by
  refine ⟨?_, wellKeyed_new _ _, indexed_new options, ?_, coherent_new options, ?_⟩
  all_goals
    intro key entry h
    simp [Classifier.new] at h

structure Enters (scope : HashScope) (c c' : Classifier) (r : EvidenceRecord) : Prop where
  recorded : Recorded scope r
  unused : ¬ used c.publishers r
  used : used c'.publishers r

/-- The authority number stands for what a decision can see of the publishers: it is the
same with the same publishers, or larger. -/
def AuthorityKept (c c' : Classifier) : Prop :=
  c'.authoritySequence = c.authoritySequence ∧ c.publishers.SameLiveness c'.publishers ∨
    c.authoritySequence < c'.authoritySequence

structure Progress (scope : HashScope) (c c' : Classifier) : Prop where
  flows : FlowsKeyed scope c'.flows
  publishers : Advances c.publishers c'.publishers
  indexed : c'.evidence.Indexed c'.evidence.order
  records : ∀ id r', c'.evidence.byId.lookup id = some r' →
    (∃ r, c.evidence.byId.lookup id = some r ∧ Weakens r r') ∨ Enters scope c c' r'
  workloads : Evolves (Defined scope) c.workloads c'.workloads

/-- Consistency is read off the description of the step. -/
theorem Progress.consistent {c c' : Classifier} (h : Progress scope c c')
    (hc : Consistent scope c) : Consistent scope c' := by
  obtain ⟨hkeyed, hmarks⟩ := h.publishers hc.publishers
  refine ⟨h.flows, hkeyed, h.indexed, ?_, h.workloads.coherent hc.workloads, ?_⟩
  · intro id r' hr'
    rcases h.records id r' hr' with ⟨r, hr, hw⟩ | henters
    · obtain ⟨hrecorded, hused⟩ := hc.recorded id r hr
      refine ⟨hrecorded.weakens hw, ?_⟩
      rw [hw.submission]
      exact hmarks _ _ _ hused
    · exact ⟨henters.recorded, henters.used⟩
  · intro id k' hk'
    rcases h.workloads.origin id k' hk' with ⟨k, hk, hlater⟩ | hnew
    · exact (hc.defined id k hk).later hlater
    · exact hnew

/-- No record enters under the identity of a record whose generation is used. -/
theorem Progress.weakens_of_used {c c' : Classifier}
    (h : Progress scope c c') {q : EvidenceRecord} (hq : Recorded scope q)
    (hused : used c.publishers q) (hr' : c'.evidence.byId.lookup q.id = some r') :
    ∃ r, c.evidence.byId.lookup q.id = some r ∧ Weakens r r' := by
  rcases h.records q.id r' hr' with hold | henters
  · exact hold
  · have hid : r'.id = q.id := h.indexed.keyed q.id r' hr'
    obtain ⟨hpub, hboot, hgen⟩ := henters.recorded.same_generation hq hid
    unfold Classifier.used at hused
    rw [← hpub, ← hboot, ← hgen] at hused
    exact absurd hused henters.unused

section Steps

variable {op : Operation}

variable {c c' : Classifier}

theorem authority_bumped (h : c.authoritySequence ≠ 0xFFFFFFFFFFFFFFFF)
    (hbump : c'.authoritySequence = c.authoritySequence + 1) : AuthorityKept c c' := by
  right
  have hnext : (Counter.mk c.authoritySequence).next = .ok ⟨c.authoritySequence + 1⟩ := by
    simp [Counter.next, Counter.isExhausted, h]
  rw [hbump]
  exact Counter.value_lt_of_next hnext

/-- When nothing expires no registration changes, so the number may stay. -/
theorem sameLiveness_expire_of_zero {r : PublisherRegistry} {tick : Tick}
    (h : (r.expireLiveness tick).1 = 0) : r.SameLiveness (r.expireLiveness tick).2 := by
  have hnone : r.publishers.values.filter (r.hasExpired tick) = [] := List.length_eq_zero_iff.mp h
  intro id
  simp only [PublisherRegistry.expireLiveness, FiniteMap.lookup_mapValues]
  cases hp : r.publishers.lookup id with
  | none => rfl
  | some p =>
    have hkept : r.hasExpired tick p = false := by
      have hmem := FiniteMap.mem_values_of_lookup hp
      simpa using List.filter_eq_nil_iff.mp hnone p hmem
    simp [expireRegistration, hkept]

theorem evolves_step (hc : c.workloads.Coherent) (hop : op.Running)
    (hdefined : ∀ contract tick, op = .proposeContract contract tick → Defined scope contract) :
    Evolves (Defined scope) c.workloads (c.step op).workloads := by
  rw [workloads_call c hop]
  cases hcall : workloadCall op with
  | none => exact Evolves.refl _ _
  | some call =>
    refine (evolves_call hc call).imp ?_
    rintro _ ⟨contract, tick, rfl, rfl, -⟩
    have hpropose : op = .proposeContract contract tick := by
      cases op <;> simp_all [workloadCall]
    exact ⟨(hdefined contract tick hpropose).encoding, (hdefined contract tick hpropose).fits⟩

theorem flowsKeyed_insert {r r' : FlowRegistry} (h : FlowsKeyed scope r) {key : FlowKey}
    (hkey : key ∈ scope.keys) {f : FlowRecord} (hcurrent : r'.current = r.current.insert key f)
    (hf : f.key = key ∧ f.id = deriveFlowId key) : FlowsKeyed scope r' := by
  intro j g hg
  rw [hcurrent, FiniteMap.lookup_insert_eq] at hg
  split_ifs at hg with hj
  · cases hg
    rw [hj]
    exact ⟨hf.1, hf.2, hkey⟩
  · exact h j g hg

theorem flowsKeyed_registerFlow {r : FlowRegistry} (h : FlowsKeyed scope r) {key : FlowKey}
    (hkey : key ∈ scope.keys) (requested : FlowGeneration) (session : SessionId) (tick : Tick) :
    FlowsKeyed scope (r.registerFlow key requested session tick).2 := by
  rcases r.registerFlow_inserts key requested session tick with
    hsame | ⟨f, hinsert, hid, hown | ⟨g, hg, hold⟩⟩
  · unfold FlowsKeyed
    rwa [hsame]
  · exact flowsKeyed_insert h hkey hinsert ⟨hown, hid⟩
  · exact flowsKeyed_insert h hkey hinsert ⟨hold.trans (h key g hg).1, hid⟩

/-- What the supersession loop does besides logging: it moves records to SUPERSEDED. -/
theorem supersedeOlder_stores {record : EvidenceRecord} {tick : Tick}
    {superseded : Option EvidenceId} (h : c.supersedeOlder record tick = (superseded, c')) :
    c'.flows = c.flows ∧ c.evidence.Reviewed c'.evidence := by
  refine supersedeOlder_rule (K := fun d => d.flows = c.flows ∧ c.evidence.Reviewed d.evidence) h
    ⟨rfl, Reviewed.refl _⟩ ?_
  rintro d other log counters ⟨hflows, hevidence⟩
  exact ⟨hflows, hevidence.trans (reviewed_supersede _ _ _)⟩

section Submissions

variable {envelope : SessionEnvelope} {payload : EvidencePayload} {tick touchTick : Tick}
  {wall : UInt64} {out : Result EvidenceSubmissionOutcome × Classifier}

theorem Submission.advances (h : Submission c envelope payload tick touchTick wall out) :
    Advances c.publishers out.2.publishers := by
  have hobserve := advances_observeEvidenceGeneration c.publishers
    envelope.publisher envelope.publisherBoot payload.evidenceGeneration
  rcases h.publishers with ⟨-, hpub | hpub⟩ | ⟨registration, -, -, hpub⟩
  · rw [hpub]
    exact Advances.refl _
  · rw [hpub]
    exact hobserve
  · rw [hpub]
    exact hobserve.trans (advances_touch _ _ _ _ _)

/-- A submission uses up a generation and touches a live publisher; a decision sees
neither. -/
theorem Submission.sameLiveness (h : Submission c envelope payload tick touchTick wall out) :
    c.publishers.SameLiveness out.2.publishers := by
  have hobserve := sameLiveness_observe c.publishers envelope.publisher
    envelope.publisherBoot payload.evidenceGeneration
  rcases h.publishers with ⟨-, hpub | hpub⟩ | ⟨registration, henvelope, -, hpub⟩
  · exact sameLiveness_of_publishers (by rw [hpub])
  · rw [hpub]
    exact hobserve
  · rw [hpub]
    have hvisible := hobserve envelope.publisher
    rw [henvelope.registered] at hvisible
    obtain ⟨p, hp, hsame⟩ := Option.map_eq_some_iff.mp hvisible
    have hstate : p.state = registration.state := congrArg (fun v => v.2.2) hsame
    exact hobserve.trans
      (sameLiveness_touch hp (hstate.trans henvelope.live) _ _ _)

/-- The generation of an admitted submission was free before and is used afterwards. -/
theorem observe_marks {r r' : PublisherRegistry} {id : PublisherId}
    {boot : PublisherBootId} {generation : EvidenceGeneration}
    (h : r.observeEvidenceGeneration id boot generation = (.ok (), r')) :
    ¬ r.Marked id boot generation ∧ r'.Marked id boot generation := by
  have hcases := observeEvidenceGeneration_cases r id boot generation
  rw [h] at hcases
  rcases hcases with ⟨e, he, -⟩ | ⟨p, hp, hboot, hlt, -, hpub, -⟩
  · cases he
  · refine ⟨?_, ?_⟩
    · rintro ⟨q, hq, hmark⟩
      rw [hp] at hq
      cases hq
      rcases hmark with hless | ⟨-, hle⟩
      · exact absurd hboot (ne_of_gt hless)
      · exact absurd hlt (not_lt.mpr hle)
    · refine ⟨{ p with highestGeneration := generation }, ?_, Or.inr ⟨hboot.symm, le_refl _⟩⟩
      exact hpub ▸ AList.lookup_insert _

theorem Submission.flows (h : Submission c envelope payload tick touchTick wall out) :
    out.2.flows = c.flows ∨
      out.2.flows = (c.refreshFlow payload.flowKey payload.flowGeneration envelope.session
        tick).2.flows :=
  h.stores_rule (Q := fun flows _ => flows = c.flows ∨ flows = (c.refreshFlow payload.flowKey
    payload.flowGeneration envelope.session tick).2.flows) (Or.inl rfl) (Or.inr rfl)
    fun _ _ _ hflows => hflows

/-- The store that the record is handed to. -/
theorem reviewed_before_insert {flow : FlowRegistration} {record : EvidenceRecord}
    {c₁ c₂ : Classifier} {publishers : PublisherRegistry} {sequence : Counter}
    {superseded : Option EvidenceId}
    (hflow : c.refreshFlow payload.flowKey payload.flowGeneration envelope.session tick =
      (.ok flow, c₁))
    (hsupersede : supersedeOlder { c₁ with publishers := publishers, sequence := sequence }
      record tick = (superseded, c₂)) : c.evidence.Reviewed c₂.evidence := by
  have hrefresh := (refreshFlow_stores c payload.flowKey payload.flowGeneration envelope.session
    tick).2.1
  rw [hflow] at hrefresh
  exact hrefresh.trans (supersedeOlder_stores hsupersede).2

/-- What a submission leaves in the store. The records are reviewed; then the admitted one may
be handed in. -/
inductive Handed (c : Classifier) (envelope : SessionEnvelope) (payload : EvidencePayload)
    (tick : Tick) : Result EvidenceSubmissionOutcome → EvidenceStore → Prop
  | kept {s : EvidenceStore} {e : Failure} (h : c.evidence.Reviewed s) :
    Handed c envelope payload tick (.error e) s
  | refused {s : EvidenceStore} {record : EvidenceRecord} {e : Failure} {s' : EvidenceStore}
    (h : c.evidence.Reviewed s) (hinsert : s.insert record = (.error e, s')) :
    Handed c envelope payload tick (.error e) s'
  | stored {s s' : EvidenceStore} {outcome : EvidenceSubmissionOutcome}
    (h : c.evidence.Reviewed s) (hinsert : s.insert outcome.record = (.ok (), s'))
    (hadmitted : c.admitted envelope payload tick = some outcome.record) :
    Handed c envelope payload tick (.ok outcome) s'

theorem Submission.handed (h : Submission c envelope payload tick touchTick wall out) :
    Handed c envelope payload tick out.1 out.2.evidence := by
  have hrefresh := (refreshFlow_stores c payload.flowKey payload.flowGeneration envelope.session
    tick).2.1
  cases h with
  | inadmissible => exact .kept (.refl _)
  | flowRefused _ hflow | generationRefused _ hflow | exhausted _ hflow =>
    rw [hflow] at hrefresh
    exact .kept hrefresh
  | storeRefused _ hflow _ _ _ hsupersede _ hinsert =>
    exact .refused (reviewed_before_insert hflow hsupersede) hinsert
  | accepted _ hflow _ _ _ hsupersede hadmitted hinsert houtcome =>
    subst houtcome
    exact .stored (reviewed_before_insert hflow hsupersede) hinsert hadmitted

theorem Handed.rule {result : Result EvidenceSubmissionOutcome} {s' : EvidenceStore}
    {Q : EvidenceStore → Prop} (h : Handed c envelope payload tick result s')
    (hkept : ∀ s, c.evidence.Reviewed s → Q s)
    (hinsert : ∀ s record, c.evidence.Reviewed s → Q (s.insert record).2) : Q s' := by
  cases h with
  | kept h => exact hkept _ h
  | refused h heq | stored h heq =>
    exact (congrArg (Q ·.2) heq).mp (hinsert _ _ h)

/-- The records after a submission: the old ones, and the admitted one when the store
took it. -/
theorem Handed.records {result : Result EvidenceSubmissionOutcome} {s : EvidenceStore}
    (h : Handed c envelope payload tick result s) (hc : c.evidence.Indexed c.evidence.order) :
    s.Indexed s.order ∧ ∀ id r', s.byId.lookup id = some r' →
      (∃ r, c.evidence.byId.lookup id = some r ∧ Weakens r r') ∨
      ∃ outcome, result = .ok outcome ∧ c.admitted envelope payload tick = some r' ∧
        outcome.record = r' ∧ id = r'.id := by
  cases h with
  | kept h => exact ⟨h.indexed_order hc, fun id r' hr' => Or.inl (h.evolved id r' hr')⟩
  | refused h hinsert =>
    obtain ⟨hindexed, hrecords⟩ := h.records_of_insert hc hinsert
    refine ⟨hindexed, fun id r' hr' => Or.inl ?_⟩
    rcases hrecords id r' hr' with hold | ⟨hok, -⟩
    · exact hold
    · cases hok
  | stored h hinsert hadmitted =>
    obtain ⟨hindexed, hrecords⟩ := h.records_of_insert hc hinsert
    refine ⟨hindexed, fun id r' hr' => (hrecords id r' hr').imp_right ?_⟩
    rintro ⟨-, hid, rfl⟩
    exact ⟨_, rfl, hadmitted, rfl, hid⟩

/-- An accepted record takes its incarnation and generation from the submission. -/
theorem Submission.generation (h : Submission c envelope payload tick touchTick wall out)
    {outcome : EvidenceSubmissionOutcome} (hok : out.1 = .ok outcome)
    (hc : c.publishers.WellKeyed) :
    ¬ used c.publishers outcome.record ∧ used out.2.publishers outcome.record := by
  cases h with
  | accepted _ hflow hgeneration _ hrecord hsupersede _ _ houtcome =>
    cases hok
    have hsame := (sameAuthority_of_supersedeOlder hsupersede).publishers
    obtain ⟨hfree, hmarked⟩ := observe_marks hgeneration
    have hkeyed := advances_observeEvidenceGeneration c.publishers
      envelope.publisher envelope.publisherBoot payload.evidenceGeneration hc
    rw [hgeneration] at hkeyed
    have htouch := advances_touch _ envelope.publisher envelope.publisherBoot
      touchTick wall hkeyed.1
    rw [houtcome, hrecord]
    refine ⟨hfree, ?_⟩
    dsimp only at hsame ⊢
    rw [hsame]
    exact htouch.2 _ _ _ hmarked
  | _ => cases hok

end Submissions

/-- A stored record was there before the step, or the step accepted it. -/
theorem records_step (h : c.evidence.Indexed c.evidence.order) (hop : op.Running) :
    (c.step op).evidence.Indexed (c.step op).evidence.order ∧
    ∀ id r', (c.step op).evidence.byId.lookup id = some r' →
      (∃ r, c.evidence.byId.lookup id = some r ∧ Weakens r r') ∨
      ∃ envelope payload tick touchTick wall outcome,
        op = .submitEvidence envelope payload tick touchTick wall ∧
        c.submitEvidence envelope payload tick touchTick wall = (.ok outcome, c.step op) ∧
        c.admitted envelope payload tick = some r' ∧ outcome.record = r' ∧ id = r'.id := by
  by_cases hadds : AddsEvidence op
  · cases op with
    | submitEvidence envelope payload tick touchTick wall =>
      obtain ⟨hindexed, hrecords⟩ :=
        (submission c envelope payload tick touchTick wall).handed.records h
      refine ⟨hindexed, fun id r' hr' => (hrecords id r' hr').imp_right ?_⟩
      rintro ⟨outcome, hok, hrest⟩
      exact ⟨_, _, _, _, _, outcome, rfl, Prod.ext hok rfl, hrest⟩
    | restore image boot tick => exact absurd rfl (hop image boot tick)
    | _ => exact hadds.elim
  · have hreviewed := (framed_step c op).evidence hadds
    exact ⟨hreviewed.indexed_order h, fun id r' hr' => Or.inl (hreviewed.evolved id r' hr')⟩

/-- No operation of a running classifier takes a mark back. -/
theorem advances_step (c : Classifier) (hop : op.Running) :
    Advances c.publishers (c.step op).publishers := by
  by_cases htouches : TouchesPublishers op
  · cases op with
    | advanceEpoch boot =>
      rw [step, advanceEpoch]
      split
      · exact .refl _
      · split
        · exact .refl _
        · exact advances_clearSessions _
    | registerPublisher =>
      rw [publishers_registerPublisher]
      exact advances_bindSession _ _ _ _ _ _ _ _ _ _
    | endPublisherSession =>
      rw [publishers_endPublisherSession]
      exact advances_endSpecificSession _ _ _ _ _
    | heartbeat =>
      rw [publishers_heartbeat]
      exact advances_touch _ _ _ _ _
    | expirePublisherLiveness =>
      rw [publishers_expirePublisherLiveness]
      exact advances_expireLiveness _ _
    | submitEvidence envelope payload tick touchTick wall =>
      exact (submission c envelope payload tick touchTick wall).advances
    | restore image boot tick => exact absurd rfl (hop image boot tick)
    | _ => exact htouches.elim
  · rw [((framed_step c _).quiet htouches).publishers]
    exact .refl _

/-- The number grows when a registration changes. -/
theorem authority_step (hc : c.publishers.WellKeyed) (hop : op.Running)
    (hseq : TouchesPublishers op → ¬ AddsEvidence op →
      c.authoritySequence ≠ 0xFFFFFFFFFFFFFFFF) : AuthorityKept c (c.step op) := by
  have hkept : ∀ {d : Classifier}, d.authoritySequence = c.authoritySequence →
      d.publishers.publishers = c.publishers.publishers → AuthorityKept c d := fun h hpub =>
    Or.inl ⟨h, sameLiveness_of_publishers hpub⟩
  by_cases htouches : TouchesPublishers op
  · have hbump := fun hadds d => @authority_bumped c d (hseq htouches hadds)
    cases op with
    | advanceEpoch boot =>
      rw [step, advanceEpoch]
      split
      · exact hkept rfl rfl
      · split
        · exact hkept rfl rfl
        · exact hbump False.elim _ rfl
    | registerPublisher id boot maxSource session description tick wall =>
      have hcases := bindSession_cases hc id boot c.epoch c.coordinatorBoot
        maxSource session tick wall description
      rw [step, registerPublisher]
      generalize c.publishers.bindSession id boot c.epoch c.coordinatorBoot maxSource session tick
        wall description = out at hcases
      obtain ⟨result, publishers⟩ := out
      rcases hcases with ⟨e, rfl, hpub, -⟩ | ⟨p, record, rfl, -⟩
      · exact hkept rfl hpub
      · exact hbump False.elim _ rfl
    | endPublisherSession id boot session tick =>
      have hcases := endSpecificSession_cases c.publishers id boot session tick
      rw [step, endPublisherSession]
      generalize c.publishers.endSpecificSession id boot session tick = out at hcases
      obtain ⟨result, publishers⟩ := out
      rcases hcases with ⟨⟨e, heq⟩, -⟩ | ⟨p, -, -, rfl, -⟩
      · cases heq
        exact hkept rfl rfl
      · exact hbump False.elim _ rfl
    | heartbeat id boot tick wall =>
      have hcases := touch_cases c.publishers id boot tick wall
      rw [step, heartbeat]
      generalize c.publishers.touch id boot tick wall = out at hcases
      obtain ⟨result, publishers⟩ := out
      rcases hcases with ⟨e, heq⟩ | ⟨p, -, -, rfl, -⟩
      · cases heq
        exact hkept rfl rfl
      · exact hbump False.elim _ rfl
    | expirePublisherLiveness tick =>
      rw [step, expirePublisherLiveness]
      dsimp only
      split_ifs with hchanged
      · exact hbump False.elim _ rfl
      · exact Or.inl ⟨rfl, sameLiveness_expire_of_zero (not_not.mp hchanged)⟩
    | submitEvidence envelope payload tick touchTick wall =>
      have hsub := submission c envelope payload tick touchTick wall
      exact Or.inl ⟨hsub.unmoved.authoritySequence, hsub.sameLiveness⟩
    | restore image boot tick => exact absurd rfl (hop image boot tick)
    | _ => exact htouches.elim
  · have hquiet := (framed_step c op).quiet htouches
    exact hkept hquiet.authoritySequence (by rw [hquiet.publishers])

def KeysIn (scope : HashScope) : Operation → Prop
  | .registerFlow key .. => key ∈ scope.keys
  | .submitEvidence _ payload .. => payload.flowKey ∈ scope.keys
  | .restore .. => False
  | _ => True

theorem flowsKeyed_step (h : FlowsKeyed scope c.flows) (hkeys : KeysIn scope op) :
    FlowsKeyed scope (c.step op).flows := by
  by_cases htouches : TouchesFlows op
  · cases op with
    | registerFlow key requested session tick =>
      rw [step, registerFlow, (refreshFlow_stores c key requested session tick).1]
      exact flowsKeyed_registerFlow h hkeys requested session tick
    | submitEvidence envelope payload tick touchTick wall =>
      rcases (submission c envelope payload tick touchTick wall).flows with hsame | hflows
      · rw [step, hsame]
        exact h
      · rw [step, hflows, (refreshFlow_stores c _ _ _ _).1]
        exact flowsKeyed_registerFlow h hkeys _ _ _
    | restore => exact hkeys.elim
    | _ => exact htouches.elim
  · unfold FlowsKeyed
    rw [(framed_step c _).current htouches]
    exact h

end Steps
end Classifier
end FlowClassifier
