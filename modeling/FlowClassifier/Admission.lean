import FlowClassifier.Operations
import FlowClassifier.Store.EvidenceHistory
import FlowClassifier.Store.Incarnations

/-!
What admission requires and what it touches. The checks that come before the first
change of state are characterised by conditions on the state and on the submission, and
each stage after them is described by the parts of the state it leaves alone.
-/
namespace FlowClassifier.Classifier

open Foundation Evidence Flows Policies Workloads Store

variable {c : Classifier}

structure EnvelopeAccepted (c : Classifier) (envelope : SessionEnvelope)
    (registration : PublisherRegistration) : Prop where
  epoch : envelope.epoch = c.epoch
  coordinatorBoot : envelope.coordinatorBoot = c.coordinatorBoot
  publisherBoot : envelope.publisherBoot ≠ 0
  registered : c.publishers.publishers.lookup envelope.publisher = some registration
  boot : registration.boot = envelope.publisherBoot
  session : registration.session = envelope.session
  live : registration.state = .live
  sessions : registration.liveSessions ≠ []

theorem checkEnvelope_ok_iff {envelope : SessionEnvelope} {registration : PublisherRegistration} :
    c.checkEnvelope envelope = .ok registration ↔ EnvelopeAccepted c envelope registration := by
  unfold checkEnvelope PublisherRegistry.find
  cases hreg : c.publishers.publishers.lookup envelope.publisher with
  | none =>
    refine iff_of_false ?_ fun h => by cases hreg.symm.trans h.registered
    dsimp only
    split_ifs <;> exact nofun
  | some p =>
    have hlive : c.publishers.isLive envelope.publisher envelope.publisherBoot = true ↔
        p.state = .live ∧ p.boot = envelope.publisherBoot ∧ p.liveSessions ≠ [] := by
      simp [PublisherRegistry.isLive, hreg, and_assoc]
    dsimp only
    constructor
    · intro h
      split_ifs at h with hepoch hboot hzero hpboot hsession hislive
      all_goals cases h
      obtain ⟨hstate, -, hsessions⟩ := hlive.mp (by simpa using hislive)
      exact ⟨not_not.mp hepoch, not_not.mp hboot, hzero, hreg, not_not.mp hpboot,
        not_not.mp hsession, hstate, hsessions⟩
    · intro h
      cases hreg.symm.trans h.registered
      simp [h.epoch, h.coordinatorBoot, h.publisherBoot, h.boot, h.session,
        hlive.mpr ⟨h.live, h.boot, h.sessions⟩]

def SourcePermitted (policy : ClassifierPolicy) (effective : EvidenceSource)
    (metadata : EvidenceMetadata) : Prop :=
  if effective = .heuristic then
    policy.allowHeuristicEvidence = true ∧ (∃ a ∈ policy.heuristicAdapters, a.enabled = true) ∧
      (policy.findPortHint (ClassifierPolicy.claimOf metadata.binding).1
        (ClassifierPolicy.claimOf metadata.binding).2).isSome = true
  else effective ≠ .unknown

theorem rank_eq_zero_iff (s : EvidenceSource) : s.rank = 0 ↔ s = .unknown := by
  cases s <;> simp [EvidenceSource.rank]

theorem checkSource_ok_iff (policy : ClassifierPolicy) (effective : EvidenceSource)
    (metadata : EvidenceMetadata) : checkSource policy effective metadata = .ok () ↔
      SourcePermitted policy effective metadata := by
  unfold checkSource SourcePermitted EvidenceSource.isHeuristic
  by_cases hheuristic : effective = .heuristic
  · subst hheuristic
    simp only [beq_self_eq_true, if_true, ← List.any_eq_true]
    cases policy.allowHeuristicEvidence <;>
      cases policy.heuristicAdapters.any (fun a => a.enabled) <;>
      cases policy.findPortHint (ClassifierPolicy.claimOf metadata.binding).1
        (ClassifierPolicy.claimOf metadata.binding).2 <;> simp
  · have hne : (effective == .heuristic) = false := by simpa using hheuristic
    simp only [hne, if_neg hheuristic, Bool.false_eq_true, if_false]
    by_cases hzero : effective.rank = 0
    · simp [(rank_eq_zero_iff effective).mp hzero, EvidenceSource.rank]
    · simpa [hzero] using fun h => hzero ((rank_eq_zero_iff effective).mpr h)

def WorkloadBound (c : Classifier) (publisher : PublisherId) (payload : EvidencePayload) : Prop :=
  payload.workload.isEmpty = false →
    ∃ w, c.workloads.workloads.lookup payload.workload = some w ∧ w.owner = publisher ∧
      w.generation = payload.workloadGeneration ∧ w.state ≠ .retired

theorem checkWorkload_ok_iff (c : Classifier) (publisher : PublisherId)
    (payload : EvidencePayload) :
    c.checkWorkload publisher payload = .ok () ↔ WorkloadBound c publisher payload := by
  unfold checkWorkload WorkloadBound WorkloadRegistry.findWorkload
  cases hempty : payload.workload.isEmpty with
  | true => simp
  | false =>
    cases hw : c.workloads.workloads.lookup payload.workload with
    | none => simp
    | some w =>
      simp only [Bool.false_eq_true, if_false, forall_const, Option.some.injEq, exists_eq_left']
      split_ifs with howner hgen hstate
      · simp [howner]
      · simp [hgen]
      · simp [hstate]
      · simp [not_not.mp howner, not_not.mp hgen, hstate]

def ContractBound (c : Classifier) (publisher : PublisherId) (payload : EvidencePayload) : Prop :=
  payload.contract.isEmpty = false →
    ∃ k, c.workloads.contracts.lookup payload.contract = some k ∧ k.owner = publisher ∧
      k.state = .active ∧ k.workload = payload.workload ∧
      k.workloadGeneration = payload.workloadGeneration

theorem checkContract_ok_iff (c : Classifier) (publisher : PublisherId)
    (payload : EvidencePayload) :
    c.checkContract publisher payload = .ok () ↔ ContractBound c publisher payload := by
  unfold checkContract ContractBound WorkloadRegistry.findContract
  cases hempty : payload.contract.isEmpty with
  | true => simp
  | false =>
    cases hk : c.workloads.contracts.lookup payload.contract with
    | none => simp
    | some k =>
      simp only [Bool.false_eq_true, if_false, forall_const, Option.some.injEq, exists_eq_left']
      split_ifs with howner hstate hbound
      · simp [howner]
      · simp [hstate]
      · simp only [Status.failure_ne_ok, false_iff]
        tauto
      · simp only [true_iff]
        tauto

/-- Everything `admit_evidence` asks before it changes anything. -/
structure Admissible (c : Classifier) (envelope : SessionEnvelope) (payload : EvidencePayload)
    (effective : EvidenceSource) : Prop where
  session : ∃ registration, EnvelopeAccepted c envelope registration ∧
    effective = clampSource payload.claimedSource (ceiling envelope registration)
  source : SourcePermitted c.policy effective payload.metadata
  semantic : payload.semantic ≠ .unknown
  workload : WorkloadBound c envelope.publisher payload
  contract : ContractBound c envelope.publisher payload

theorem admissible_ok_iff {envelope : SessionEnvelope}
    {payload : EvidencePayload} {effective : EvidenceSource} :
    c.admissible envelope payload = .ok effective ↔ Admissible c envelope payload effective := by
  unfold admissible
  by_cases hsem : payload.semantic = .unknown
  · refine iff_of_false (fun h => ?_) fun h => h.semantic hsem
    obtain ⟨registration, -, h⟩ := bind_eq_ok_iff.mp h
    obtain ⟨-, -, h⟩ := bind_eq_ok_iff.mp h
    rw [if_pos hsem] at h
    cases h
  · constructor
    · intro h
      obtain ⟨registration, henv, h⟩ := bind_eq_ok_iff.mp h
      obtain ⟨⟨⟩, hsrc, h⟩ := bind_eq_ok_iff.mp h
      rw [if_neg hsem] at h
      obtain ⟨⟨⟩, hw, h⟩ := bind_eq_ok_iff.mp h
      obtain ⟨⟨⟩, hk, h⟩ := bind_eq_ok_iff.mp h
      cases h
      exact ⟨⟨registration, checkEnvelope_ok_iff.mp henv, rfl⟩,
        (checkSource_ok_iff _ _ _).mp hsrc, hsem, (checkWorkload_ok_iff _ _ _).mp hw,
        (checkContract_ok_iff _ _ _).mp hk⟩
    · rintro ⟨⟨registration, henv, rfl⟩, hsrc, hsem, hw, hk⟩
      simp [checkEnvelope_ok_iff.mpr henv, (checkSource_ok_iff _ _ _).mpr hsrc, hsem,
        (checkWorkload_ok_iff _ _ _).mpr hw, (checkContract_ok_iff _ _ _).mpr hk, bind,
        Except.bind, pure, Except.pure]

/-- Everything but the flows, the evidence, the decisions and the counters is the same. -/
structure SameAuthority (c c' : Classifier) : Prop where
  policy : c'.policy = c.policy
  policyDigest : c'.policyDigest = c.policyDigest
  publishers : c'.publishers = c.publishers
  workloads : c'.workloads = c.workloads
  epoch : c'.epoch = c.epoch
  coordinatorBoot : c'.coordinatorBoot = c.coordinatorBoot
  sequence : c'.sequence = c.sequence
  authoritySequence : c'.authoritySequence = c.authoritySequence

theorem SameAuthority.refl (c : Classifier) : SameAuthority c c :=
  ⟨rfl, rfl, rfl, rfl, rfl, rfl, rfl, rfl⟩

theorem SameAuthority.trans {a b : Classifier} (h : SameAuthority a b)
    (h' : SameAuthority b c) : SameAuthority a c :=
  ⟨h'.policy.trans h.policy, h'.policyDigest.trans h.policyDigest,
    h'.publishers.trans h.publishers, h'.workloads.trans h.workloads, h'.epoch.trans h.epoch,
    h'.coordinatorBoot.trans h.coordinatorBoot, h'.sequence.trans h.sequence,
    h'.authoritySequence.trans h.authoritySequence⟩

theorem sameAuthority_refreshFlow (c : Classifier) (key : FlowKey) (requested : FlowGeneration)
    (session : SessionId) (tick : Tick) :
    SameAuthority c (c.refreshFlow key requested session tick).2 := by
  unfold refreshFlow
  obtain ⟨result, flows⟩ := c.flows.registerFlow key requested session tick
  cases result with
  | error e => exact ⟨rfl, rfl, rfl, rfl, rfl, rfl, rfl, rfl⟩
  | ok registration =>
    dsimp only
    split_ifs <;> exact ⟨rfl, rfl, rfl, rfl, rfl, rfl, rfl, rfl⟩

/-- What is kept by moving a record to SUPERSEDED and logging that, the supersession loop
keeps. -/
theorem supersedeOlder_rule {K : Classifier → Prop} {c' : Classifier}
    {record : EvidenceRecord} {superseded : Option EvidenceId} {tick : Tick}
    (h : c.supersedeOlder record tick = (superseded, c')) (hc : K c)
    (hmove : ∀ d other log counters, K d → K { d with
        evidence := (d.evidence.setState other .superseded
          (text "superseded by " ++ record.id.value ++ text " at generation " ++
            render record.generation)).2
        decisions := d.decisions.recordSupersession log
        counters := counters }) : K c' := by
  have hloop : K (c.supersedeOlder record tick).2 := by
    refine List.foldlRecOn (motive := fun acc : Option EvidenceId × Classifier => K acc.2) _ _ hc ?_
    rintro ⟨last, d⟩ (hd : K d) id -
    unfold supersedeOne
    dsimp only
    cases d.evidence.byId.lookup id with
    | none => exact hd
    | some other =>
      have hmoved := hmove d other.id
      have hfailed := @EvidenceStore.setState_of_error other.id d.evidence .superseded
        (text "superseded by " ++ record.id.value ++ text " at generation " ++
          render record.generation)
      dsimp only
      split_ifs
      · exact hd
      · generalize d.evidence.setState other.id .superseded _ = out at hmoved hfailed
        obtain ⟨_ | _, evidence⟩ := out
        · have hsame : evidence = d.evidence := hfailed rfl
          rw [hsame]
          exact hd
        · exact hmoved _ _ hd
  rw [h] at hloop
  exact hloop

def admitted (c : Classifier) (envelope : SessionEnvelope) (payload : EvidencePayload)
    (tick : Tick) : Option EvidenceRecord :=
  (c.admitEvidence envelope payload tick).1.toOption.map EvidenceSubmissionOutcome.record

/-- The exits of `submit_evidence`, each with the state it leaves behind. -/
inductive Submission (c : Classifier) (envelope : SessionEnvelope) (payload : EvidencePayload)
    (tick touchTick : Tick) (wall : UInt64) :
    Result EvidenceSubmissionOutcome × Classifier → Prop
  | inadmissible {e : Failure} (hchecks : c.admissible envelope payload = .error e)
    (hnone : c.admitted envelope payload tick = none) :
    Submission c envelope payload tick touchTick wall (.error e, c.countRefused)
  | flowRefused {effective : EvidenceSource} {e : Failure} {c₁ : Classifier}
    (hchecks : c.admissible envelope payload = .ok effective)
    (hflow : c.refreshFlow payload.flowKey payload.flowGeneration envelope.session tick =
      (.error e, c₁))
    (hnone : c.admitted envelope payload tick = none) :
    Submission c envelope payload tick touchTick wall (.error e, c₁.countRefused)
  | generationRefused {effective : EvidenceSource} {flow : FlowRegistration} {e : Failure}
    {c₁ : Classifier} {publishers : PublisherRegistry}
    (hchecks : c.admissible envelope payload = .ok effective)
    (hflow : c.refreshFlow payload.flowKey payload.flowGeneration envelope.session tick =
      (.ok flow, c₁))
    (hgeneration : c.publishers.observeEvidenceGeneration envelope.publisher
      envelope.publisherBoot payload.evidenceGeneration = (.error e, publishers))
    (hnone : c.admitted envelope payload tick = none) :
    Submission c envelope payload tick touchTick wall
      (.error e, countRefused { c₁ with publishers := publishers })
  | exhausted {effective : EvidenceSource} {flow : FlowRegistration} {e : Failure}
    {c₁ : Classifier} {publishers : PublisherRegistry}
    (hchecks : c.admissible envelope payload = .ok effective)
    (hflow : c.refreshFlow payload.flowKey payload.flowGeneration envelope.session tick =
      (.ok flow, c₁))
    (hgeneration : c.publishers.observeEvidenceGeneration envelope.publisher
      envelope.publisherBoot payload.evidenceGeneration = (.ok (), publishers))
    (hsequence : c.sequence.next = .error e)
    (hnone : c.admitted envelope payload tick = none) :
    Submission c envelope payload tick touchTick wall
      (.error e, countRefused { c₁ with publishers := publishers })
  | storeRefused {effective : EvidenceSource} {flow : FlowRegistration} {e : Failure}
    {c₁ c₂ : Classifier} {publishers : PublisherRegistry} {sequence : Counter}
    {record : EvidenceRecord} {superseded : Option EvidenceId} {evidence : EvidenceStore}
    (hchecks : c.admissible envelope payload = .ok effective)
    (hflow : c.refreshFlow payload.flowKey payload.flowGeneration envelope.session tick =
      (.ok flow, c₁))
    (hgeneration : c.publishers.observeEvidenceGeneration envelope.publisher
      envelope.publisherBoot payload.evidenceGeneration = (.ok (), publishers))
    (hsequence : c.sequence.next = .ok sequence)
    (hrecord : record = buildRecord c envelope payload effective flow.record sequence.value tick)
    (hsupersede : supersedeOlder { c₁ with publishers := publishers, sequence := sequence }
      record tick = (superseded, c₂))
    (hadmitted : c.admitted envelope payload tick = some record)
    (hinsert : c₂.evidence.insert record = (.error e, evidence)) :
    Submission c envelope payload tick touchTick wall
      (.error e, countRefused { c₂ with evidence := evidence })
  | accepted {effective : EvidenceSource} {flow : FlowRegistration}
    {outcome : EvidenceSubmissionOutcome} {c₁ c₂ : Classifier} {publishers : PublisherRegistry}
    {sequence : Counter} {record : EvidenceRecord} {superseded : Option EvidenceId}
    {evidence : EvidenceStore}
    (hchecks : c.admissible envelope payload = .ok effective)
    (hflow : c.refreshFlow payload.flowKey payload.flowGeneration envelope.session tick =
      (.ok flow, c₁))
    (hgeneration : c.publishers.observeEvidenceGeneration envelope.publisher
      envelope.publisherBoot payload.evidenceGeneration = (.ok (), publishers))
    (hsequence : c.sequence.next = .ok sequence)
    (hrecord : record = buildRecord c envelope payload effective flow.record sequence.value tick)
    (hsupersede : supersedeOlder { c₁ with publishers := publishers, sequence := sequence }
      record tick = (superseded, c₂))
    (hadmitted : c.admitted envelope payload tick = some record)
    (hinsert : c₂.evidence.insert record = (.ok (), evidence))
    (houtcome : outcome.record = record) :
    Submission c envelope payload tick touchTick wall
      (.ok outcome,
        { c₂ with
          evidence := evidence
          publishers :=
            (c₂.publishers.touch envelope.publisher envelope.publisherBoot touchTick wall).2
          counters := { c₂.counters with
            evidenceAccepted := c₂.counters.evidenceAccepted + 1 } })

theorem sameAuthority_of_refreshFlow {c₁ : Classifier} {key : FlowKey}
    {requested : FlowGeneration} {session : SessionId} {tick : Tick}
    {result : Result FlowRegistration}
    (h : c.refreshFlow key requested session tick = (result, c₁)) : SameAuthority c c₁ := by
  have hsame := sameAuthority_refreshFlow c key requested session tick
  rwa [h] at hsame

/-- Every exit of `submit_evidence`, in the order of the source. -/
theorem submission (c : Classifier) (envelope : SessionEnvelope) (payload : EvidencePayload)
    (tick touchTick : Tick) (wall : UInt64) : Submission c envelope payload tick touchTick wall
      (c.submitEvidence envelope payload tick touchTick wall) := by
  unfold submitEvidence admitEvidence
  cases hchecks : c.admissible envelope payload with
  | error e => exact .inadmissible hchecks (by rw [admitted, admitEvidence, hchecks]; rfl)
  | ok effective =>
    rcases hflow : c.refreshFlow payload.flowKey payload.flowGeneration envelope.session tick with
      ⟨_ | flow, c₁⟩
    · exact .flowRefused hchecks hflow (by simp only [admitted, admitEvidence, hchecks, hflow]; rfl)
    have hsame := sameAuthority_of_refreshFlow hflow
    rcases hgeneration : c.publishers.observeEvidenceGeneration envelope.publisher
      envelope.publisherBoot payload.evidenceGeneration with ⟨_ | _, publishers⟩
    · simp only [hsame.publishers, hgeneration]
      refine .generationRefused hchecks hflow hgeneration ?_
      simp only [admitted, admitEvidence, hchecks, hflow, hsame.publishers, hgeneration]
      rfl
    cases hsequence : c.sequence.next with
    | error e =>
      have hnext := hsame.sequence ▸ hsequence
      simp only [hsame.publishers, hgeneration, hnext]
      refine .exhausted hchecks hflow hgeneration hsequence ?_
      simp only [admitted, admitEvidence, hchecks, hflow, hsame.publishers, hgeneration, hnext]
      rfl
    | ok sequence =>
      have hrecord : buildRecord { c₁ with publishers := publishers, sequence := sequence }
          envelope payload effective flow.record sequence.value tick =
          buildRecord c envelope payload effective flow.record sequence.value tick := by
        simp only [buildRecord, hsame.policy, hsame.epoch, hsame.coordinatorBoot]
      have hnext := hsame.sequence ▸ hsequence
      simp only [hsame.publishers, hgeneration, hnext, hrecord]
      rcases hsupersede : supersedeOlder { c₁ with publishers := publishers, sequence := sequence }
        (buildRecord c envelope payload effective flow.record sequence.value tick) tick with
        ⟨superseded, c₂⟩
      have hadmitted : c.admitted envelope payload tick =
          some (buildRecord c envelope payload effective flow.record sequence.value tick) := by
        simp only [admitted, admitEvidence, hchecks, hflow, hsame.publishers, hgeneration, hnext,
          hrecord, hsupersede]
        rfl
      dsimp only
      rcases hinsert : c₂.evidence.insert
        (buildRecord c envelope payload effective flow.record sequence.value tick) with
        ⟨_ | _, evidence⟩
      · exact .storeRefused hchecks hflow hgeneration hsequence rfl hsupersede hadmitted hinsert
      · exact .accepted hchecks hflow hgeneration hsequence rfl hsupersede hadmitted hinsert rfl

section Effects

variable {envelope : SessionEnvelope} {payload : EvidencePayload}
  {tick touchTick : Tick} {wall : UInt64} {out : Result EvidenceSubmissionOutcome × Classifier}

structure Unmoved (c c' : Classifier) : Prop where
  policy : c'.policy = c.policy
  policyDigest : c'.policyDigest = c.policyDigest
  workloads : c'.workloads = c.workloads
  epoch : c'.epoch = c.epoch
  coordinatorBoot : c'.coordinatorBoot = c.coordinatorBoot
  authoritySequence : c'.authoritySequence = c.authoritySequence

theorem sameAuthority_of_supersedeOlder {record : EvidenceRecord} {c₁ c₂ : Classifier}
    {superseded : Option EvidenceId} (h : c₁.supersedeOlder record tick = (superseded, c₂)) :
    SameAuthority c₁ c₂ :=
  supersedeOlder_rule h (.refl c₁) fun _ _ _ _ hd =>
    hd.trans ⟨rfl, rfl, rfl, rfl, rfl, rfl, rfl, rfl⟩

theorem Submission.unmoved (h : Submission c envelope payload tick touchTick wall out) :
    Unmoved c out.2 := by
  cases h with
  | inadmissible => exact ⟨rfl, rfl, rfl, rfl, rfl, rfl⟩
  | flowRefused _ hflow | generationRefused _ hflow | exhausted _ hflow =>
    have h₁ := sameAuthority_of_refreshFlow hflow
    exact ⟨h₁.policy, h₁.policyDigest, h₁.workloads, h₁.epoch, h₁.coordinatorBoot,
      h₁.authoritySequence⟩
  | storeRefused _ hflow _ _ _ hsupersede | accepted _ hflow _ _ _ hsupersede =>
    have h₁ := sameAuthority_of_refreshFlow hflow
    have h₂ := sameAuthority_of_supersedeOlder hsupersede
    exact ⟨h₂.policy.trans h₁.policy, h₂.policyDigest.trans h₁.policyDigest,
      h₂.workloads.trans h₁.workloads, h₂.epoch.trans h₁.epoch,
      h₂.coordinatorBoot.trans h₁.coordinatorBoot,
      h₂.authoritySequence.trans h₁.authoritySequence⟩

/-- What a submission does to the publishers. They are touched only when the incarnation
was found live. -/
theorem Submission.publishers (h : Submission c envelope payload tick touchTick wall out) :
    let observed := (c.publishers.observeEvidenceGeneration envelope.publisher
      envelope.publisherBoot payload.evidenceGeneration).2
    (out.1.isOk = false ∧ (out.2.publishers = c.publishers ∨ out.2.publishers = observed)) ∨
      ∃ registration, EnvelopeAccepted c envelope registration ∧ out.1.isOk = true ∧
        out.2.publishers =
          (observed.touch envelope.publisher envelope.publisherBoot touchTick wall).2 := by
  cases h with
  | inadmissible => exact Or.inl ⟨rfl, Or.inl rfl⟩
  | flowRefused _ hflow =>
    exact Or.inl ⟨rfl, Or.inl (sameAuthority_of_refreshFlow hflow).publishers⟩
  | generationRefused _ hflow hgeneration | exhausted _ hflow hgeneration =>
    exact Or.inl ⟨rfl, Or.inr (congrArg Prod.snd hgeneration).symm⟩
  | storeRefused _ hflow hgeneration _ _ hsupersede =>
    have hsame := (sameAuthority_of_supersedeOlder hsupersede).publishers
    exact Or.inl ⟨rfl, Or.inr (hsame.trans (congrArg Prod.snd hgeneration).symm)⟩
  | accepted hchecks hflow hgeneration _ _ hsupersede =>
    have hsame := (sameAuthority_of_supersedeOlder hsupersede).publishers
    obtain ⟨registration, henvelope, -⟩ := (admissible_ok_iff.mp hchecks).session
    refine Or.inr ⟨registration, henvelope, rfl, ?_⟩
    rw [hgeneration]
    dsimp only at hsame ⊢
    rw [hsame]

end Effects

end FlowClassifier.Classifier
