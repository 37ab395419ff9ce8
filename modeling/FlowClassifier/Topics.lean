import FlowClassifier.Acceptance

/-!
One CURRENT record for every topic. The replay fence lets a generation of an incarnation
through once and only upwards, so an accepted record is newer than every CURRENT record of
its publisher and boot; the supersession loop then takes down the one of its topic that is in
the ring of the flow. Records outside the ring, which the loop does not see, are not listed
for the flow either.
-/
namespace FlowClassifier.Classifier

open Foundation Evidence Store EvidenceStore

variable {r : EvidenceRecord}

def SameTopic (r r' : EvidenceRecord) : Prop :=
  r.publisher = r'.publisher ∧ r.publisherBoot = r'.publisherBoot ∧
    r.metadata.topic = r'.metadata.topic

theorem SameTopic.symm {r' : EvidenceRecord} (h : SameTopic r r') : SameTopic r' r :=
  ⟨h.1.symm, h.2.1.symm, h.2.2.symm⟩

/-- Of the records listed for a flow at most one of each topic is CURRENT. -/
def SoleCurrent (s : EvidenceStore) : Prop :=
  ∀ flow id id' r r', id ∈ s.evidenceForFlow flow → id' ∈ s.evidenceForFlow flow →
    s.byId.lookup id = some r → s.byId.lookup id' = some r' →
    r.state = .current → r'.state = .current → SameTopic r r' → id = id'

/-- The states of classifiers that start empty or from any image and are not restored into
again. -/
inductive Serves : Classifier → Prop
  | new (options : ClassifierOptions) : Serves (.new options)
  | restored (image : DurableState) (options : ClassifierOptions) (boot : CoordinatorBootId)
    (tick : Tick) : Serves (restore image (.new options) boot tick).2
  | step {c : Classifier} {op : Operation} (h : Serves c)
    (hop : ∀ image boot tick, op ≠ .restore image boot tick) : Serves (c.step op)

structure TopicsSettled (c : Classifier) : Prop where
  keyed : c.publishers.WellKeyed
  indexed : c.evidence.Indexed c.evidence.order
  used : ∀ id r, c.evidence.byId.lookup id = some r → r.state = .current → used c.publishers r
  sole : SoleCurrent c.evidence

/-- An unused generation is above every used one of the same incarnation. -/
theorem displaces_of_used {publishers : PublisherRegistry} {record : EvidenceRecord}
    (hused : used publishers r) (hunused : ¬ used publishers record) (hsame : SameTopic r record) :
    displaces record r = true := by
  obtain ⟨p, hp, hmark⟩ := hused
  obtain ⟨hpublisher, hboot, htopic⟩ := hsame
  have hlow : ¬ record.publisherBoot < p.boot := fun hlow =>
    hunused ⟨p, by rw [← hpublisher, hp], Or.inl hlow⟩
  rw [hboot] at hmark
  obtain ⟨hequal, hle⟩ := hmark.resolve_left hlow
  have hlt : r.generation < record.generation := by
    by_contra hnot
    exact hunused ⟨p, by rw [← hpublisher, hp], Or.inr ⟨hequal, (not_lt.mp hnot).trans hle⟩⟩
  simp [displaces, hpublisher, hboot, htopic, hlt]

section Steps

variable {id : EvidenceId}

variable {c : Classifier} {op : Operation}

def Accepts (c : Classifier) (op : Operation) (r : EvidenceRecord) : Prop :=
  ∃ envelope payload tick touchTick wall outcome,
    op = .submitEvidence envelope payload tick touchTick wall ∧
    c.submitEvidence envelope payload tick touchTick wall = (.ok outcome, c.step op) ∧
    outcome.record = r

/-- A record that is CURRENT after a step was so before, or was accepted by it. -/
theorem current_or_accepted (hindexed : c.evidence.Indexed c.evidence.order) (hop : op.Running)
    (hr : (c.step op).evidence.byId.lookup id = some r) (hcurrent : r.state = .current) :
    c.evidence.byId.lookup id = some r ∨ Accepts c op r ∧ id = r.id := by
  rcases (records_step hindexed hop).2 id r hr with ⟨q, hq, hweak⟩ |
    ⟨_, _, _, _, _, outcome, hsubmit, hok, -, hrecord, hid⟩
  · rw [hweak.eq_of_current hcurrent]
    exact Or.inl hq
  · exact Or.inr ⟨⟨_, _, _, _, _, outcome, hsubmit, hok, hrecord⟩, hid⟩

/-- The rings only gain what the store did not hold. -/
theorem ring_step (hop : op.Running) {flow : FlowId} (hid : id ∈ (c.step op).evidence.ring flow) :
    id ∈ c.evidence.ring flow ∨ c.evidence.byId.lookup id = none := by
  by_cases hadds : AddsEvidence op
  · cases op with
    | submitEvidence envelope payload tick touchTick wall =>
      rcases (submission c envelope payload tick touchTick wall).handed.ring hid with
        hring | ⟨_, -, hnone, -⟩
      · exact Or.inl hring
      · exact Or.inr hnone
    | restore image boot tick => exact absurd rfl (hop image boot tick)
    | _ => exact hadds.elim
  · rw [((framed_step c _).evidence hadds).ring flow] at hid
    exact Or.inl hid

/-- A CURRENT record listed after a step was listed before, or is the accepted one. -/
theorem listed_or_accepted (hindexed : c.evidence.Indexed c.evidence.order)
    (hop : op.Running) {flow : FlowId} (hid : id ∈ (c.step op).evidence.evidenceForFlow flow)
    (hr : (c.step op).evidence.byId.lookup id = some r) (hcurrent : r.state = .current) :
    (id ∈ c.evidence.ring flow ∧ c.evidence.byId.lookup id = some r) ∨
      Accepts c op r ∧ id = r.id ∧ flow = r.flowId := by
  have hindexed' := (records_step hindexed hop).1
  rw [mem_evidenceForFlow_iff hindexed'] at hid
  rcases current_or_accepted hindexed hop hr hcurrent with hq | ⟨haccepts, hidr⟩
  · rcases ring_step hop hid with hring | hnone
    · exact Or.inl ⟨hring, hq⟩
    · rw [hq] at hnone
      cases hnone
  · exact Or.inr ⟨haccepts, hidr, (hindexed'.flow_of_ring hid hr).symm⟩

/-- What was CURRENT in the topic of an accepted record is not CURRENT afterwards. -/
theorem not_current_beside (hc : TopicsSettled c) {record : EvidenceRecord}
    (haccepts : Accepts c op record)
    (hr : c.evidence.byId.lookup id = some r) (hring : id ∈ c.evidence.ring record.flowId)
    (hsame : SameTopic r record) (hr' : (c.step op).evidence.byId.lookup id = some r) :
    r.state ≠ .current := by
  intro hcurrent
  obtain ⟨envelope, payload, tick, touchTick, wall, outcome, rfl, hok, rfl⟩ := haccepts
  have hsub := submission c envelope payload tick touchTick wall
  rw [hok] at hsub
  have hunused := (hsub.generation rfl hc.keyed).1
  have hdisplaces := displaces_of_used (hc.used id r hr hcurrent) hunused hsame
  have hsuperseded := superseded_of_accepted hc.indexed hok hr hring hdisplaces hr'
  rw [hcurrent] at hsuperseded
  cases hsuperseded

/-- The loop takes down the CURRENT record of the topic before the new one is stored. -/
theorem soleCurrent_step (hc : TopicsSettled c) (hop : op.Running) :
    SoleCurrent (c.step op).evidence := by
  intro flow id id' r r' hid hid' hr hr' hcurrent hcurrent' hsame
  rcases listed_or_accepted hc.indexed hop hid hr hcurrent,
    listed_or_accepted hc.indexed hop hid' hr' hcurrent' with
    ⟨⟨hold, hq⟩ | ⟨haccepts, hidr, rfl⟩, ⟨hold', hq'⟩ | ⟨haccepts', hidr', hflow⟩⟩
  · refine hc.sole flow id id' r r' ?_ ?_ hq hq' hcurrent hcurrent' hsame
    · exact (mem_evidenceForFlow_iff hc.indexed).mpr hold
    · exact (mem_evidenceForFlow_iff hc.indexed).mpr hold'
  · rw [hflow] at hold
    exact absurd hcurrent (not_current_beside hc haccepts' hq hold hsame hr)
  · exact absurd hcurrent' (not_current_beside hc haccepts hq' hold' hsame.symm hr')
  · obtain ⟨_, _, _, _, _, outcome, rfl, hok, rfl⟩ := haccepts
    obtain ⟨_, _, _, _, _, outcome', heq, hok', rfl⟩ := haccepts'
    cases heq
    rw [hok] at hok'
    cases hok'
    rw [hidr, hidr']

theorem settled_step (hc : TopicsSettled c) (hop : op.Running) : TopicsSettled (c.step op) := by
  refine ⟨wellKeyed_step hc.keyed op, (records_step hc.indexed hop).1, fun id r hr hcurrent => ?_,
    soleCurrent_step hc hop⟩
  rcases current_or_accepted hc.indexed hop hr hcurrent with
    hq | ⟨⟨envelope, payload, tick, touchTick, wall, outcome, rfl, hok, rfl⟩, -⟩
  · exact (advances_step c hop hc.keyed).2 _ _ _ (hc.used id r hq hcurrent)
  · have hsub := submission c envelope payload tick touchTick wall
    rw [hok] at hsub
    exact (hsub.generation rfl hc.keyed).2

end Steps

/-- A classifier without a CURRENT record. -/
theorem settled_of_idle {c : Classifier} (hkeyed : c.publishers.WellKeyed)
    (hindexed : c.evidence.Indexed c.evidence.order)
    (hidle : ∀ id r, c.evidence.byId.lookup id = some r → r.state ≠ .current) : TopicsSettled c :=
  ⟨hkeyed, hindexed, fun id r hr hcurrent => absurd hcurrent (hidle id r hr),
    fun _ id _ r _ _ _ hr _ hcurrent => absurd hcurrent (hidle id r hr)⟩

theorem Serves.settled {c : Classifier} (h : Serves c) : TopicsSettled c := by
  induction h with
  | new options =>
    exact settled_of_idle (PublisherRegistry.wellKeyed_new _ _) (indexed_new options)
      fun id r hr => by cases hr
  | restored image options boot tick =>
    have hnew := indexed_new options
    refine settled_of_idle
      (wellKeyed_step (PublisherRegistry.wellKeyed_new _ _) (.restore image boot tick))
      (indexed_restore hnew image boot tick) fun id r hr hcurrent => ?_
    rcases current_record_step hnew (.restore image boot tick) hr hcurrent with hbefore | harrived
    · cases hbefore
    · cases harrived
  | step h hop ih => exact settled_step ih hop

structure IsTheCurrent (s : EvidenceStore) (record : EvidenceRecord) : Prop where
  listed : record.id ∈ s.evidenceForFlow record.flowId
  stored : s.byId.lookup record.id = some record
  current : record.state = .current
  only : ∀ id ∈ s.evidenceForFlow record.flowId, ∀ r, s.byId.lookup id = some r →
    r.state = .current → SameTopic r record → id = record.id

theorem Runs.serves {scope : HashScope} {c : Classifier} (h : Runs scope c) : Serves c := by
  induction h with
  | new options => exact .new options
  | step _ hmints ih => exact ih.step hmints.running
  | restart _ options boot tick => exact .restored _ options boot tick

/-- At most one of the records listed for a flow is CURRENT in each topic, and after an
accepted submission it is the accepted record. -/
theorem one_current_per_topic :
    (∀ c, Serves c → SoleCurrent c.evidence) ∧
    ∀ scope c, Runs scope c → ∀ envelope payload tick touchTick wall,
      Mints scope c (.submitEvidence envelope payload tick touchTick wall) →
      ∀ outcome c', c.submitEvidence envelope payload tick touchTick wall = (.ok outcome, c') →
        IsTheCurrent c'.evidence outcome.record := by
  refine ⟨fun c h => h.settled.sole, ?_⟩
  intro scope c hruns envelope payload tick touchTick wall hmints outcome c' hok
  have hsettled := (hruns.step hmints).serves.settled
  have hstep : c.step (.submitEvidence envelope payload tick touchTick wall) = c' := by
    rw [step, hok]
  rw [hstep] at hsettled
  obtain ⟨admitted, c₂, hpassed, hrecord, hinsert, -⟩ := submitEvidence_accepted hok
  have hadmits := admits_of_admitEvidence hpassed
  have hadmitted : c.admitted envelope payload tick = some admitted.record := by
    rw [Classifier.admitted, hpassed]
    rfl
  have hnone := (hruns.numbered.unknown hadmits (hmints.material _ hadmitted)).2
  rw [hrecord] at hnone
  have hring := (c₂.evidence.ring_insert outcome.record).2
  rw [hinsert] at hring
  have hlisted : outcome.record.id ∈ c'.evidence.evidenceForFlow outcome.record.flowId :=
    (mem_evidenceForFlow_iff hsettled.indexed).mpr (hring rfl hnone)
  have hstored := lookup_of_insert hnone hinsert
  have hcurrent : outcome.record.state = .current := by
    obtain ⟨_, _, _, _, _, _, -, -, -, hbuilt, -⟩ := admitEvidence_ok hpassed
    rw [← hrecord, hbuilt]
    rfl
  refine ⟨hlisted, hstored, hcurrent, fun id hid r hr hcurrent' hsame => ?_⟩
  exact hsettled.sole _ id _ r _ hid hlisted hr hstored hcurrent' hcurrent hsame

/-- The second record of a topic, in a classifier that was restored and serves again. -/
theorem one_current_per_topic_sample :
    ∃ outcome c', servingAgain.submitEvidence resumedEnvelope (citingPayload (text "c-a") 2) 3 3 0 =
        (.ok outcome, c') ∧ IsTheCurrent c'.evidence outcome.record ∧
      SoleCurrent servingAgain.evidence := by
  obtain ⟨outcome, c', hsubmitted⟩ := exists_ok_pair servingAgain_accepts
  exact ⟨outcome, _, hsubmitted, one_current_per_topic.2 acceptanceScope servingAgain
      runs_servingAgain resumedEnvelope (citingPayload (text "c-a") 2) 3 3 0 mints_servingAgain
      outcome _ hsubmitted,
    one_current_per_topic.1 servingAgain runs_servingAgain.serves⟩

end FlowClassifier.Classifier
