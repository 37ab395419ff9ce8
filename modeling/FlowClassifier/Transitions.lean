import FlowClassifier.Consistency

/-!
What one step can do. A registration that is there after a step is an earlier one, bound,
closed, touched, expired or cleared by that step; a stored record is an earlier one that
was at most weakened, or it was built by the submission that the step accepted. The
invariants about publishers and evidence are proved from these two facts.
-/
namespace FlowClassifier.Classifier

open Lib Foundation Evidence Flows Workloads Store PublisherRegistry FiniteMap

variable {tick : Tick} {wall : UInt64}

inductive Moved (c : Classifier) : Operation → PublisherId → PublisherRegistration → Prop
  | kept {op : Operation} {id : PublisherId} {p : PublisherRegistration}
    (generation : EvidenceGeneration) (hp : c.publishers.publishers.lookup id = some p) :
    Moved c op id { p with highestGeneration := generation }
  | first {id : PublisherId} {boot : PublisherBootId} {maxSource : EvidenceSource}
    {session : SessionId} {description : Bytes} {tick : Tick} {wall : UInt64}
    (hok : (c.registerPublisher id boot maxSource session description tick wall).1.isOk = true)
    (hnew : c.publishers.publishers.lookup id = none) :
    Moved c (.registerPublisher id boot maxSource session description tick wall) id
      (firstRegistration id boot c.epoch c.coordinatorBoot maxSource session tick description)
  | rebound {id : PublisherId} {boot : PublisherBootId} {maxSource : EvidenceSource}
    {session : SessionId} {description : Bytes} {tick : Tick} {wall : UInt64}
    {p : PublisherRegistration}
    (hok : (c.registerPublisher id boot maxSource session description tick wall).1.isOk = true)
    (hp : c.publishers.publishers.lookup id = some p) (hboot : p.boot ≤ boot) :
    Moved c (.registerPublisher id boot maxSource session description tick wall) id
      (rebindRegistration p boot c.epoch c.coordinatorBoot session tick)
  | closed {id : PublisherId} {boot : PublisherBootId} {session : SessionId} {tick : Tick}
    {p : PublisherRegistration} (hp : c.publishers.publishers.lookup id = some p)
    (hboot : p.boot = boot) :
    Moved c (.endPublisherSession id boot session tick) id (closeSession p session tick)
  | heard {id : PublisherId} {boot : PublisherBootId} {tick : Tick} {wall : UInt64}
    {p : PublisherRegistration} (hok : (c.heartbeat id boot tick wall).1.isOk = true)
    (hp : c.publishers.publishers.lookup id = some p) (hboot : p.boot = boot) :
    Moved c (.heartbeat id boot tick wall) id (touchRegistration p tick)
  | published {envelope : SessionEnvelope} {payload : EvidencePayload} {tick touchTick : Tick}
    {wall : UInt64} {p : PublisherRegistration} (generation : EvidenceGeneration)
    (hok : (c.submitEvidence envelope payload tick touchTick wall).1.isOk = true)
    (haccepted : EnvelopeAccepted c envelope p) :
    Moved c (.submitEvidence envelope payload tick touchTick wall) envelope.publisher
      (touchRegistration { p with highestGeneration := generation } touchTick)
  | expired {id : PublisherId} {tick : Tick} {p : PublisherRegistration}
    (hp : c.publishers.publishers.lookup id = some p) :
    Moved c (.expirePublisherLiveness tick) id (c.publishers.expireRegistration tick p)
  | cleared {id : PublisherId} {boot : CoordinatorBootId} {p : PublisherRegistration}
    (hp : c.publishers.publishers.lookup id = some p) :
    Moved c (.advanceEpoch boot) id (clearSession p)

section Registrations

variable {boot : PublisherBootId}

variable {c : Classifier} {id : PublisherId} {p' : PublisherRegistration}

/-- The lookup after one registration was replaced. -/
theorem Moved.of_insert {op : Operation} {j : PublisherId} {p : PublisherRegistration}
    (hp : Moved c op j p) (h : (c.publishers.publishers.insert j p).lookup id = some p') :
    Moved c op id p' := by
  rw [lookup_insert_eq] at h
  split_ifs at h with hid
  · cases h
    exact hid ▸ hp
  · exact .kept p'.highestGeneration h

theorem moved_advanceEpoch {boot : CoordinatorBootId}
    (h : (c.step (.advanceEpoch boot)).publishers.publishers.lookup id = some p') :
    Moved c (.advanceEpoch boot) id p' := by
  rw [step, advanceEpoch] at h
  split at h
  · exact .kept p'.highestGeneration h
  · split at h
    · exact .kept p'.highestGeneration h
    · obtain ⟨p, hp, rfl⟩ := of_lookup_mapValues h
      exact .cleared hp

theorem moved_registerPublisher (hk : c.publishers.WellKeyed) {j : PublisherId}
    {maxSource : EvidenceSource} {session : SessionId} {description : Bytes}
    (h : (c.step (.registerPublisher j boot maxSource session description tick
      wall)).publishers.publishers.lookup id = some p') :
    Moved c (.registerPublisher j boot maxSource session description tick wall) id p' := by
  have hcases := bindSession_cases hk j boot c.epoch c.coordinatorBoot maxSource session tick wall
    description
  have hresult : (c.registerPublisher j boot maxSource session description tick wall).1 =
      (c.publishers.bindSession j boot c.epoch c.coordinatorBoot maxSource session tick wall
        description).1 := by
    rw [registerPublisher]
    split <;> simp_all
  rw [step, registerPublisher] at h
  generalize c.publishers.bindSession j boot c.epoch c.coordinatorBoot maxSource session tick
    wall description = out at hcases h hresult
  obtain ⟨result, publishers⟩ := out
  rcases hcases with ⟨e, rfl, hpub, -⟩ | ⟨p, record, rfl, hpub, -, -, -, -, hp⟩
  · dsimp only at hpub h
    rw [hpub] at h
    exact .kept p'.highestGeneration h
  · dsimp only [bumpAuthority] at hpub h
    rw [hpub] at h
    refine .of_insert ?_ h
    have hok := congrArg Except.isOk hresult
    rcases hp with ⟨hnew, rfl⟩ | ⟨old, hold, hle, rfl⟩
    · exact .first hok hnew
    · exact .rebound hok hold hle

/-- A session is not closed and nothing changes, or it is closed and records become STALE:
those of the incarnation when no session is left, else those of the session. -/
theorem endPublisherSession_cases (c : Classifier) (id : PublisherId) (boot : PublisherBootId)
    (session : SessionId) (tick : Tick) :
    let out := c.endPublisherSession id boot session tick
    ((∃ e, out = (.error e, c)) ∧
      ∀ p, c.publishers.publishers.lookup id = some p → p.boot ≠ boot) ∨
    ∃ p publishers ended reason, c.publishers.publishers.lookup id = some p ∧ p.boot = boot ∧
      publishers.publishers = c.publishers.publishers.insert id (closeSession p session tick) ∧
      publishers.records = c.publishers.records ∧
      (ended, reason) =
        sessionEnd (!(closeSession p session tick).liveSessions.isEmpty) id boot session ∧
      out = (.ok (), bumpAuthority
        { c with
          publishers := publishers
          evidence := c.evidence.markStaleWhere ended reason }) := by
  have hcases := endSpecificSession_cases c.publishers id boot session tick
  unfold endPublisherSession
  generalize c.publishers.endSpecificSession id boot session tick = out at hcases
  obtain ⟨result, publishers⟩ := out
  rcases hcases with ⟨⟨e, heq⟩, hrefused⟩ | ⟨p, hp, hboot, rfl, hpub, hrec⟩
  · cases heq
    exact Or.inl ⟨⟨e, rfl⟩, hrefused⟩
  · dsimp only at hpub hrec ⊢
    let ends := sessionEnd (!(closeSession p session tick).liveSessions.isEmpty) id boot session
    refine Or.inr ⟨p, publishers, ends.1, ends.2, hp, hboot, hpub, hrec, rfl, ?_⟩
    rw [PublisherRegistry.find, hpub, lookup_insert_eq, if_pos rfl]

theorem moved_endPublisherSession {j : PublisherId} {session : SessionId}
    (h : (c.step (.endPublisherSession j boot session tick)).publishers.publishers.lookup id =
      some p') : Moved c (.endPublisherSession j boot session tick) id p' := by
  rcases endPublisherSession_cases c j boot session tick with
    ⟨⟨e, hout⟩, -⟩ | ⟨p, publishers, ended, reason, hp, hboot, hpub, -, -, hout⟩
  · rw [step, hout] at h
    exact .kept p'.highestGeneration h
  · rw [step, hout] at h
    dsimp only [bumpAuthority] at h
    rw [hpub] at h
    exact .of_insert (.closed hp hboot) h

theorem moved_heartbeat {j : PublisherId}
    (h : (c.step (.heartbeat j boot tick wall)).publishers.publishers.lookup id = some p') :
    Moved c (.heartbeat j boot tick wall) id p' := by
  have hcases := touch_cases c.publishers j boot tick wall
  have hresult : (c.heartbeat j boot tick wall).1 = (c.publishers.touch j boot tick wall).1 := by
    rw [heartbeat]
    split <;> simp_all
  rw [step, heartbeat] at h
  generalize c.publishers.touch j boot tick wall = out at hcases h hresult
  obtain ⟨result, publishers⟩ := out
  rcases hcases with ⟨e, heq⟩ | ⟨p, hp, hboot, rfl, hpub, -⟩
  · cases heq
    exact .kept p'.highestGeneration h
  · dsimp only [bumpAuthority] at hpub h
    rw [hpub] at h
    exact .of_insert (.heard (congrArg Except.isOk hresult) hp hboot) h

theorem moved_expirePublisherLiveness
    (h : (c.step (.expirePublisherLiveness tick)).publishers.publishers.lookup id = some p') :
    Moved c (.expirePublisherLiveness tick) id p' := by
  rw [publishers_expirePublisherLiveness] at h
  obtain ⟨p, hp, rfl⟩ := of_lookup_mapValues h
  exact .expired hp

theorem moved_submitEvidence {envelope : SessionEnvelope} {payload : EvidencePayload}
    {touchTick : Tick} (h : (c.step (.submitEvidence envelope payload tick touchTick
      wall)).publishers.publishers.lookup id = some p') :
    Moved c (.submitEvidence envelope payload tick touchTick wall) id p' := by
  -- using up a generation changes no more than the mark
  have hobserved : ∀ {j q}, (c.publishers.observeEvidenceGeneration envelope.publisher
      envelope.publisherBoot payload.evidenceGeneration).2.publishers.lookup j = some q →
      ∃ p generation, c.publishers.publishers.lookup j = some p ∧
        q = { p with highestGeneration := generation } := by
    intro j q hq
    rcases observeEvidenceGeneration_cases c.publishers envelope.publisher envelope.publisherBoot
      payload.evidenceGeneration with ⟨e, -, hpub, -⟩ | ⟨p, hp, -, -, -, hpub, -⟩
    · rw [hpub] at hq
      exact ⟨q, q.highestGeneration, hq, rfl⟩
    · rw [hpub, lookup_insert_eq] at hq
      split_ifs at hq with hid
      · cases hq
        exact ⟨p, _, hid ▸ hp, rfl⟩
      · exact ⟨q, q.highestGeneration, hq, rfl⟩
  rw [step] at h
  rcases (submission c envelope payload tick touchTick wall).publishers with
    ⟨-, hpub | hpub⟩ | ⟨registration, henvelope, hok, hpub⟩
  · rw [hpub] at h
    exact .kept p'.highestGeneration h
  · rw [hpub] at h
    obtain ⟨p, generation, hp, rfl⟩ := hobserved h
    exact .kept generation hp
  · rw [hpub] at h
    rcases touch_cases (c.publishers.observeEvidenceGeneration envelope.publisher
      envelope.publisherBoot payload.evidenceGeneration).2 envelope.publisher
      envelope.publisherBoot touchTick wall with ⟨e, heq⟩ | ⟨q, hq, -, -, hinsert, -⟩
    · rw [heq] at h
      obtain ⟨p, generation, hp, rfl⟩ := hobserved h
      exact .kept generation hp
    · rw [hinsert, lookup_insert_eq] at h
      split_ifs at h with hid
      · cases h
        subst hid
        obtain ⟨p, generation, hp, rfl⟩ := hobserved hq
        rw [henvelope.registered] at hp
        cases hp
        exact .published generation hok henvelope
      · obtain ⟨p, generation, hp, rfl⟩ := hobserved h
        exact .kept generation hp

/-- Every operation of a running classifier. -/
theorem moved_step (hk : c.publishers.WellKeyed) {op : Operation} (hop : op.Running)
    (h : (c.step op).publishers.publishers.lookup id = some p') : Moved c op id p' := by
  by_cases htouches : TouchesPublishers op
  · cases op with
    | advanceEpoch => exact moved_advanceEpoch h
    | registerPublisher => exact moved_registerPublisher hk h
    | endPublisherSession => exact moved_endPublisherSession h
    | heartbeat => exact moved_heartbeat h
    | expirePublisherLiveness => exact moved_expirePublisherLiveness h
    | submitEvidence => exact moved_submitEvidence h
    | restore image boot tick => exact absurd rfl (hop image boot tick)
    | _ => exact htouches.elim
  · rw [((framed_step c _).quiet htouches).publishers] at h
    exact .kept p'.highestGeneration h

end Registrations

inductive Arrived (c : Classifier) : Operation → EvidenceRecord → Prop
  | submitted {envelope : SessionEnvelope} {payload : EvidencePayload} {tick touchTick : Tick}
    {wall : UInt64} {effective : EvidenceSource} {flow : FlowRegistration} {c₁ : Classifier}
    {seq : Seq} (hchecks : Admissible c envelope payload effective)
    (hflow : c.refreshFlow payload.flowKey payload.flowGeneration envelope.session tick =
      (.ok flow, c₁)) :
    Arrived c (.submitEvidence envelope payload tick touchTick wall)
      (c.buildRecord envelope payload effective flow.record seq tick)

theorem arrived_of_accepted {c : Classifier} {envelope : SessionEnvelope}
    {payload : EvidencePayload} {touchTick : Tick} {outcome : EvidenceSubmissionOutcome}
    (h : (c.submitEvidence envelope payload tick touchTick wall).1 = .ok outcome) :
    Arrived c (.submitEvidence envelope payload tick touchTick wall) outcome.record := by
  have hsub := submission c envelope payload tick touchTick wall
  generalize c.submitEvidence envelope payload tick touchTick wall = out at hsub h
  cases hsub with
  | accepted hchecks hflow _ _ hrecord _ _ _ houtcome =>
    cases h
    rw [houtcome, hrecord]
    exact .submitted (admissible_ok_iff.mp hchecks) hflow
  | _ => cases h

theorem stored_step {c : Classifier} (hindexed : c.evidence.Indexed c.evidence.order)
    {op : Operation} (hop : op.Running) {id : EvidenceId}
    {r' : EvidenceRecord} (h : (c.step op).evidence.byId.lookup id = some r') :
    (∃ r, c.evidence.byId.lookup id = some r ∧ EvidenceStore.Weakens r r') ∨ Arrived c op r' := by
  rcases (records_step hindexed hop).2 id r' h with
    hold | ⟨_, _, _, _, _, outcome, rfl, hok, -, rfl, -⟩
  · exact Or.inl hold
  · exact Or.inr (arrived_of_accepted (congrArg Prod.fst hok))

end FlowClassifier.Classifier
