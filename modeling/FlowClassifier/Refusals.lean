import FlowClassifier.MemoTransparency
import FlowClassifier.Store.Room

/-!
What a refused submission leaves behind. The checks come first and change nothing, but
the registration of the flow and the replay mark are changed before the last refusals.
The module says exactly, for every state of every run, when a refusal has no effect.
-/
namespace FlowClassifier

open Lib Foundation Evidence Flows Policies Workloads Engine Store

variable {c c' c₁ : Classifier} {e : Failure}

namespace Classifier

variable {flow : FlowRegistration}

def Stocked (c : Classifier) : Prop := c.evidence.Indexed c.evidence.order ∧ c.evidence.Bounded

theorem Stocked.reviewed (h : Stocked c)
    (hreviewed : c.evidence.Reviewed c'.evidence) : Stocked c' :=
  ⟨hreviewed.indexed_order h.1, hreviewed.bounded h.2⟩

theorem stocked_restore (h : Stocked c) (image : DurableState)
    (boot : CoordinatorBootId) (tick : Tick) : Stocked (restore image c boot tick).2 := by
  refine evidence_restore (Q := fun s => s.Indexed s.order ∧ s.Bounded) boot tick h ?_
  intro s r _ hs
  exact ⟨EvidenceStore.indexed_restoreRecord hs.1 r, EvidenceStore.bounded_restoreRecord hs.2 r⟩

theorem stocked_step (h : Stocked c) (op : Operation) : Stocked (c.step op) := by
  by_cases hop : AddsEvidence op
  · cases op with
    | submitEvidence envelope payload tick touchTick wall =>
      refine (submission c envelope payload tick touchTick wall).handed.rule
        (Q := fun s => s.Indexed s.order ∧ s.Bounded)
        (fun s hs => ⟨hs.indexed_order h.1, hs.bounded h.2⟩) fun s record hs => ?_
      have hindexed := hs.indexed_order h.1
      exact ⟨(EvidenceStore.insert_records hindexed record).1,
        EvidenceStore.bounded_insert hindexed (hs.bounded h.2) record⟩
    | restore => exact stocked_restore h _ _ _
    | _ => exact hop.elim
  · exact h.reviewed ((framed_step c _).evidence hop)

theorem stocked_run (options : ClassifierOptions) (ops : List Operation) :
    Stocked (run step (.new options) ops) := by
  have hnew : Stocked (.new options) := by
    refine ⟨⟨?_, ?_, ?_, ?_⟩, Nat.zero_le _⟩
    all_goals
      intro id entry h
      simp [Classifier.new] at h
  refine List.foldlRecOn (motive := Stocked) _ _ hnew ?_
  exact fun c hc op _ => stocked_step hc op

/-- Nothing but statistics and the activity of a flow differs. -/
structure Untouched (c c' : Classifier) : Prop where
  generations : ∀ key, (c'.flows.current.lookup key).map FlowRecord.generation =
    (c.flows.current.lookup key).map FlowRecord.generation
  flowHistory : c'.flows.history = c.flows.history
  records : ∀ id, c'.evidence.byId.lookup id = c.evidence.byId.lookup id
  marks : ∀ id, (c'.publishers.publishers.lookup id).map PublisherRegistration.highestGeneration =
    (c.publishers.publishers.lookup id).map PublisherRegistration.highestGeneration
  decisions : c'.decisions.history = c.decisions.history
  supersessions : c'.decisions.supersessions = c.decisions.supersessions

def Unused (c : Classifier) (envelope : SessionEnvelope) (payload : EvidencePayload) : Prop :=
  ∃ p, c.publishers.publishers.lookup envelope.publisher = some p ∧
    p.highestGeneration < payload.evidenceGeneration

def nextRecord (c : Classifier) (envelope : SessionEnvelope) (payload : EvidencePayload)
    (effective : EvidenceSource) (tick : Tick) : EvidenceRecord :=
  c.buildRecord envelope payload effective
    { id := deriveFlowId payload.flowKey, key := payload.flowKey,
      generation := c.flows.target payload.flowKey payload.flowGeneration }
    (c.sequence.value + 1) tick

/-- If the checks pass and the flow can be registered, then an unused generation finds a
sequence number and room in the store, and a used one is for a flow at its present
generation. -/
def Harmless (c : Classifier) (envelope : SessionEnvelope) (payload : EvidencePayload)
    (tick : Tick) : Prop :=
  ∀ effective, Admissible c envelope payload effective →
    ¬ c.flows.Refuses payload.flowKey payload.flowGeneration →
    (Unused c envelope payload → c.sequence.value ≠ 0xFFFFFFFFFFFFFFFF ∧
      c.evidence.Takes (c.nextRecord envelope payload effective tick)) ∧
    (¬ Unused c envelope payload → c.flows.Repeats payload.flowKey payload.flowGeneration)

section Exits

variable {key : FlowKey} {requested : FlowGeneration} {session : SessionId}
  {tick : Tick}

theorem refreshFlow_error (h : c.refreshFlow key requested session tick = (.error e, c₁)) :
    c.flows.registerFlow key requested session tick = (.error e, c₁.flows) ∧
      c₁.evidence = c.evidence ∧ c₁.decisions = c.decisions := by
  unfold refreshFlow at h
  generalize c.flows.registerFlow key requested session tick = out at h
  obtain ⟨_ | flow, flows⟩ := out
  · cases h
    exact ⟨rfl, rfl, rfl⟩
  · cases h

/-- A registration marks what it outdates: the records of a new incarnation's flow, and what
lies below a fence. -/
theorem refreshFlow_ok (h : c.refreshFlow key requested session tick = (.ok flow, c₁)) :
    c.flows.registerFlow key requested session tick = (.ok flow, c₁.flows) ∧
      let marked := if flow.created then c.evidence.markStaleWhere
        (fun r => r.flowId == flow.record.id) (text "flow incarnation replaced") else c.evidence
      if flow.fencedPrevious then
        c₁.decisions =
            (c.decisions.supersedeGeneration flow.record.id flow.record.generation).2 ∧
          ∃ p reason, c₁.evidence = marked.markStaleWhere p reason
      else c₁.decisions = c.decisions ∧ c₁.evidence = marked := by
  unfold refreshFlow at h
  generalize c.flows.registerFlow key requested session tick = out at h
  obtain ⟨_ | flow', flows⟩ := out
  · cases h
  · dsimp only at h
    obtain ⟨hflow, rfl⟩ := Prod.mk.inj h
    cases hflow
    cases flow.fencedPrevious <;> cases flow.created
    · exact ⟨rfl, rfl, rfl⟩
    · exact ⟨rfl, rfl, rfl⟩
    · exact ⟨rfl, rfl, _, _, rfl⟩
    · exact ⟨rfl, rfl, _, _, rfl⟩

end Exits

theorem observe_ok_iff {r : PublisherRegistry} {id : PublisherId} {boot : PublisherBootId}
    {p : PublisherRegistration} (hp : r.publishers.lookup id = some p) (hboot : p.boot = boot)
    (generation : EvidenceGeneration) :
    (r.observeEvidenceGeneration id boot generation).1 = .ok () ↔
      p.highestGeneration < generation := by
  unfold PublisherRegistry.observeEvidenceGeneration
  simp only [hp, hboot, ne_eq, not_true_eq_false, if_false]
  split_ifs with hzero hlow hsame
  · simp [hzero]
  · simp [hlow.le]
  · simp [hsame]
  · simp only [true_iff]
    exact lt_of_le_of_ne (not_lt.mp hlow) (Ne.symm hsame)

theorem next_ok {s s' : Counter} (h : s.next = .ok s') :
    s.value ≠ 0xFFFFFFFFFFFFFFFF ∧ s'.value = s.value + 1 := by
  unfold Counter.next Counter.isExhausted Status.failure at h
  split_ifs at h with hfull
  cases h
  exact ⟨by simpa using hfull, rfl⟩

theorem next_error {s : Counter} (h : s.next = .error e) : s.value = 0xFFFFFFFFFFFFFFFF := by
  unfold Counter.next Counter.isExhausted Status.failure at h
  split_ifs at h with hfull
  simpa using hfull

section Submission

variable {envelope : SessionEnvelope} {payload : EvidencePayload}
  {effective : EvidenceSource} {tick : Tick}

/-- An admissible submission names a registered incarnation. -/
theorem Admissible.registration (h : Admissible c envelope payload effective) :
    ∃ p, c.publishers.publishers.lookup envelope.publisher = some p ∧
      p.boot = envelope.publisherBoot := by
  obtain ⟨p, hp, -⟩ := h.session
  exact ⟨p, hp.registered, hp.boot⟩

theorem Admissible.unused_iff (h : Admissible c envelope payload effective) :
    (c.publishers.observeEvidenceGeneration envelope.publisher envelope.publisherBoot
      payload.evidenceGeneration).1 = .ok () ↔ Unused c envelope payload := by
  obtain ⟨p, hp, hboot⟩ := h.registration
  rw [observe_ok_iff hp hboot]
  constructor
  · exact fun hlt => ⟨p, hp, hlt⟩
  · rintro ⟨q, hq, hlt⟩
    rw [hp] at hq
    cases hq
    exact hlt

/-- A mark that was raised is not the mark from before. -/
theorem not_untouched_of_observed {publishers : PublisherRegistry}
    (h : c.publishers.observeEvidenceGeneration envelope.publisher envelope.publisherBoot
      payload.evidenceGeneration = (.ok (), publishers))
    (hpublishers : c'.publishers = publishers) : ¬ Untouched c c' := by
  intro huntouched
  have hmark := huntouched.marks envelope.publisher
  have hcases := PublisherRegistry.observeEvidenceGeneration_cases c.publishers
    envelope.publisher envelope.publisherBoot payload.evidenceGeneration
  rw [h] at hcases
  rcases hcases with ⟨e, he, -⟩ | ⟨p, hp, -, hlt, -, hraised, -⟩
  · cases he
  · dsimp only at hraised
    rw [hpublishers, hraised, AList.lookup_insert, hp, Option.map_some, Option.map_some,
      Option.some.injEq] at hmark
    exact absurd hmark (ne_of_gt hlt)

theorem buildRecord_eq_nextRecord {flow : FlowRecord} {seq : Seq}
    (hid : flow.id = deriveFlowId payload.flowKey)
    (hgeneration : flow.generation = c.flows.target payload.flowKey payload.flowGeneration)
    (hseq : seq = c.sequence.value + 1) : c.buildRecord envelope payload effective flow seq tick =
      c.nextRecord envelope payload effective tick := by
  unfold nextRecord buildRecord
  rw [hid, hgeneration, hseq]

theorem untouched_of_stores
    (hgenerations : ∀ key, (c'.flows.current.lookup key).map FlowRecord.generation =
      (c.flows.current.lookup key).map FlowRecord.generation)
    (hhistory : c'.flows.history = c.flows.history) (hevidence : c'.evidence = c.evidence)
    (hpublishers : c'.publishers.publishers = c.publishers.publishers)
    (hdecisions : c'.decisions = c.decisions) : Untouched c c' := by
  refine ⟨hgenerations, hhistory, ?_, ?_, ?_, ?_⟩
  · rw [hevidence]
    exact fun _ => rfl
  · rw [hpublishers]
    exact fun _ => rfl
  · rw [hdecisions]
  · rw [hdecisions]

/-- A registered flow is untouched exactly when its generation was repeated. -/
theorem untouched_iff_repeats {flow : FlowRegistration}
    (hflow : c.refreshFlow payload.flowKey payload.flowGeneration envelope.session tick =
      (.ok flow, c₁)) (hflows : c'.flows = c₁.flows) (hevidence : c'.evidence = c₁.evidence)
    (hdecisions : c'.decisions = c₁.decisions)
    (hpublishers : c'.publishers.publishers = c.publishers.publishers) :
    Untouched c c' ↔ c.flows.Repeats payload.flowKey payload.flowGeneration := by
  have hregistered := FlowRegistry.registered c.flows payload.flowKey payload.flowGeneration
    envelope.session tick
  obtain ⟨hregister, hmarks⟩ := refreshFlow_ok hflow
  rw [hregister] at hregistered
  cases hregistered with
  | @repeated f f' _ _ _ hf hgeneration _ hcreated hfenced hcurrent hsame hhistory =>
    rw [hcreated, hfenced] at hmarks
    obtain ⟨hdecided, hkept⟩ := hmarks
    refine ⟨fun _ => ⟨f, hf, hgeneration⟩, fun _ => ?_⟩
    refine untouched_of_stores (fun key => ?_) ?_ (hevidence.trans hkept) hpublishers
      (hdecisions.trans hdecided)
    · rw [hflows, hcurrent]
      exact FiniteMap.map_lookup_insert FlowRecord.generation hf hsame key
    · rw [hflows]
      exact hhistory
  | advanced _ hnew _ hcurrent hgeneration =>
    refine ⟨fun huntouched => ?_, fun hrepeats => absurd hrepeats hnew⟩
    have hsame := huntouched.generations payload.flowKey
    rw [hflows, hcurrent, Option.map_some] at hsame
    obtain ⟨f, hf, hfgeneration⟩ := Option.map_eq_some_iff.mp hsame.symm
    exact ⟨f, hf, hfgeneration.trans hgeneration⟩

/-- A registered flow has the identity of its key and the generation asked for. -/
theorem not_refuses_of_refreshFlow
    (hflow : c.refreshFlow payload.flowKey payload.flowGeneration envelope.session tick =
      (.ok flow, c₁)) : ¬ c.flows.Refuses payload.flowKey payload.flowGeneration ∧
      flow.record.id = deriveFlowId payload.flowKey ∧
      flow.record.generation = c.flows.target payload.flowKey payload.flowGeneration := by
  have hregistered := FlowRegistry.registered c.flows payload.flowKey payload.flowGeneration
    envelope.session tick
  rw [(refreshFlow_ok hflow).1] at hregistered
  cases hregistered with
  | repeated haccepts _ _ hrecord => exact ⟨haccepts, hrecord⟩
  | advanced haccepts _ hrecord => exact ⟨haccepts, hrecord⟩

theorem refuses_of_refreshFlow
    (hflow : c.refreshFlow payload.flowKey payload.flowGeneration envelope.session tick =
      (.error e, c₁)) : c.flows.Refuses payload.flowKey payload.flowGeneration ∧
      c₁.flows.current = c.flows.current ∧ c₁.flows.history = c.flows.history := by
  have hregistered := FlowRegistry.registered c.flows payload.flowKey payload.flowGeneration
    envelope.session tick
  rw [(refreshFlow_error hflow).1] at hregistered
  cases hregistered with
  | refused hrefuses hcurrent hhistory => exact ⟨hrefuses, hcurrent, hhistory⟩

/-- What the exits after the registration of the flow have in common. -/
theorem harmless_iff (hchecks : c.admissible envelope payload = .ok effective)
    (hflow : c.refreshFlow payload.flowKey payload.flowGeneration envelope.session tick =
      (.ok flow, c₁)) : Harmless c envelope payload tick ↔
      (Unused c envelope payload → c.sequence.value ≠ 0xFFFFFFFFFFFFFFFF ∧
        c.evidence.Takes (c.nextRecord envelope payload effective tick)) ∧
      (¬ Unused c envelope payload → c.flows.Repeats payload.flowKey payload.flowGeneration) := by
  have haccepts := (not_refuses_of_refreshFlow hflow).1
  constructor
  · exact fun h => h effective (admissible_ok_iff.mp hchecks) haccepts
  · intro h effective' hadmissible _
    rw [admissible_ok_iff.mpr hadmissible] at hchecks
    cases hchecks
    exact h

/-- The store that the record is inserted into takes it exactly when the store before the
submission does. -/
theorem insert_ok_iff_takes (h : Stocked c) {c₂ : Classifier}
    {publishers : PublisherRegistry} {sequence : Counter} {record : EvidenceRecord}
    {superseded : Option EvidenceId}
    (hflow : c.refreshFlow payload.flowKey payload.flowGeneration envelope.session tick =
      (.ok flow, c₁)) (hsequence : c.sequence.next = .ok sequence)
    (hrecord : record = buildRecord c envelope payload effective flow.record sequence.value tick)
    (hsupersede : supersedeOlder { c₁ with publishers := publishers, sequence := sequence }
      record tick = (superseded, c₂)) :
    record = c.nextRecord envelope payload effective tick ∧
      ((c₂.evidence.insert record).1 = .ok () ↔ c.evidence.Takes record) := by
  have hreviewed := reviewed_before_insert hflow hsupersede
  obtain ⟨-, hid, hflowGeneration⟩ := not_refuses_of_refreshFlow hflow
  constructor
  · rw [hrecord, buildRecord_eq_nextRecord hid hflowGeneration (next_ok hsequence).2]
  · rw [EvidenceStore.insert_ok_iff (hreviewed.indexed_order h.1) (hreviewed.bounded h.2),
      hreviewed.takes_iff]

structure Admitting (c : Classifier) (envelope : SessionEnvelope) (payload : EvidencePayload)
    (tick : Tick) (effective : EvidenceSource) (record : EvidenceRecord) : Prop where
  admissible : Admissible c envelope payload effective
  flow : ¬ c.flows.Refuses payload.flowKey payload.flowGeneration
  unused : Unused c envelope payload
  sequence : c.sequence.value ≠ 0xFFFFFFFFFFFFFFFF
  record : record = c.nextRecord envelope payload effective tick

/-- A submission is admitted exactly with the record its inputs determine. -/
theorem admitted_iff {record : EvidenceRecord} : c.admitted envelope payload tick = some record ↔
      ∃ effective, Admitting c envelope payload tick effective record := by
  have hsub := submission c envelope payload tick 0 0
  generalize c.submitEvidence envelope payload tick 0 0 = out at hsub
  cases hsub with
  | inadmissible hchecks hnone =>
    rw [hnone]
    refine iff_of_false nofun fun ⟨_, h⟩ => ?_
    rw [admissible_ok_iff.mpr h.admissible] at hchecks
    cases hchecks
  | flowRefused _ hflow hnone =>
    rw [hnone]
    exact iff_of_false nofun fun ⟨_, h⟩ => h.flow (refuses_of_refreshFlow hflow).1
  | generationRefused _ _ hgeneration hnone =>
    rw [hnone]
    refine iff_of_false nofun fun ⟨_, h⟩ => ?_
    have hok := h.admissible.unused_iff.mpr h.unused
    rw [hgeneration] at hok
    cases hok
  | exhausted _ _ _ hsequence hnone =>
    rw [hnone]
    exact iff_of_false nofun fun ⟨_, h⟩ => h.sequence (next_error hsequence)
  | storeRefused hchecks hflow hgeneration hsequence hrecord _ hadmitted
  | accepted hchecks hflow hgeneration hsequence hrecord _ hadmitted =>
    obtain ⟨haccepts, hid, htarget⟩ := not_refuses_of_refreshFlow hflow
    have hadmissible := admissible_ok_iff.mp hchecks
    obtain ⟨hroom, hvalue⟩ := next_ok hsequence
    rw [buildRecord_eq_nextRecord hid htarget hvalue] at hrecord
    rw [hadmitted, Option.some.injEq]
    constructor
    · rintro rfl
      exact ⟨_, hadmissible, haccepts, hadmissible.unused_iff.mp (by rw [hgeneration]), hroom,
        hrecord⟩
    · rintro ⟨other, h⟩
      have hother := admissible_ok_iff.mpr h.admissible
      rw [hchecks] at hother
      cases hother
      rw [hrecord, h.record]

/-- A submission is accepted exactly when it is admitted with a record that the store takes. -/
theorem submitEvidence_isOk_iff (h : Stocked c) (touchTick : Tick) (wall : UInt64) :
    (c.submitEvidence envelope payload tick touchTick wall).1.isOk = true ↔
      ∃ record, c.admitted envelope payload tick = some record ∧ c.evidence.Takes record := by
  have hsub := submission c envelope payload tick touchTick wall
  generalize c.submitEvidence envelope payload tick touchTick wall = out at hsub
  cases hsub with
  | inadmissible _ hnone | flowRefused _ _ hnone | generationRefused _ _ _ hnone
  | exhausted _ _ _ _ hnone =>
    rw [hnone]
    exact iff_of_false nofun fun ⟨_, hsome, _⟩ => nomatch hsome
  | storeRefused _ hflow _ hsequence hrecord hsupersede hadmitted hinsert =>
    refine iff_of_false nofun fun ⟨_, hsome, htakes⟩ => ?_
    cases hadmitted.symm.trans hsome
    have hok := (insert_ok_iff_takes h hflow hsequence hrecord hsupersede).2.mpr htakes
    rw [hinsert] at hok
    cases hok
  | accepted _ hflow _ hsequence hrecord hsupersede hadmitted hinsert =>
    have hiff := (insert_ok_iff_takes h hflow hsequence hrecord hsupersede).2
    exact iff_of_true rfl ⟨_, hadmitted, hiff.mp (by rw [hinsert])⟩

/-- For a store in order, a refusal has no effect exactly on harmless submissions. -/
theorem refused_untouched_iff (h : Stocked c) (touchTick : Tick) (wall : UInt64) :
    (∀ e c', c.submitEvidence envelope payload tick touchTick wall = (.error e, c') →
      Untouched c c') ↔ Harmless c envelope payload tick := by
  have hsub := submission c envelope payload tick touchTick wall
  generalize c.submitEvidence envelope payload tick touchTick wall = out at hsub
  cases hsub with
  | inadmissible hchecks =>
    constructor
    · intro _ effective hadmissible
      rw [admissible_ok_iff.mpr hadmissible] at hchecks
      cases hchecks
    · intro _ e c' heq
      cases heq
      exact untouched_of_stores (fun _ => rfl) rfl rfl rfl rfl
  | flowRefused hchecks hflow =>
    obtain ⟨hrefuses, hcurrent, hhistory⟩ := refuses_of_refreshFlow hflow
    obtain ⟨-, hevidence, hdecisions⟩ := refreshFlow_error hflow
    have hpublishers := (sameAuthority_of_refreshFlow hflow).publishers
    constructor
    · exact fun _ _ _ haccepts => absurd hrefuses haccepts
    · intro _ e c' heq
      cases heq
      refine untouched_of_stores (fun key => ?_) hhistory hevidence
        (congrArg PublisherRegistry.publishers hpublishers) hdecisions
      exact congrArg (fun m => (AList.lookup key m).map FlowRecord.generation) hcurrent
  | @generationRefused _ _ _ c₁ publishers hchecks hflow hgeneration =>
    have hused : ¬ Unused c envelope payload := by
      rw [← (admissible_ok_iff.mp hchecks).unused_iff, hgeneration]
      exact fun hok => by cases hok
    have hkept : publishers.publishers = c.publishers.publishers := by
      have hcases := PublisherRegistry.observeEvidenceGeneration_cases c.publishers
        envelope.publisher envelope.publisherBoot payload.evidenceGeneration
      rw [hgeneration] at hcases
      rcases hcases with ⟨_, -, hsame, -⟩ | ⟨_, -, -, -, hok, -⟩
      · exact hsame
      · cases hok
    rw [harmless_iff hchecks hflow]
    have hiff := @untouched_iff_repeats c (countRefused { c₁ with publishers := publishers }) c₁
      envelope payload tick _ hflow rfl rfl rfl hkept
    constructor
    · exact fun hall => ⟨fun hunused => absurd hunused hused, fun _ => hiff.mp (hall _ _ rfl)⟩
    · intro hharmless e c' heq
      cases heq
      exact hiff.mpr (hharmless.2 hused)
  | exhausted hchecks hflow hgeneration hsequence =>
    have hunused : Unused c envelope payload := by
      rw [← (admissible_ok_iff.mp hchecks).unused_iff, hgeneration]
    rw [harmless_iff hchecks hflow]
    constructor
    · exact fun hall => absurd (hall _ _ rfl) (not_untouched_of_observed hgeneration rfl)
    · exact fun hharmless => absurd (next_error hsequence) (hharmless.1 hunused).1
  | @storeRefused _ _ _ _ _ _ _ record _ _ hchecks hflow hgeneration hsequence hrecord hsupersede
      _ hinsert =>
    obtain ⟨hnext, hinsertion⟩ := insert_ok_iff_takes h hflow hsequence hrecord hsupersede
    have hunused : Unused c envelope payload := by
      rw [← (admissible_ok_iff.mp hchecks).unused_iff, hgeneration]
    have htakes : ¬ c.evidence.Takes record := by
      rw [← hinsertion, hinsert]
      exact fun hok => by cases hok
    have hpublishers := (sameAuthority_of_supersedeOlder hsupersede).publishers
    rw [harmless_iff hchecks hflow, ← hnext]
    constructor
    · exact fun hall => absurd (hall _ _ rfl) (not_untouched_of_observed hgeneration hpublishers)
    · exact fun hharmless => absurd (hharmless.1 hunused).2 htakes
  | @accepted _ _ _ _ _ _ _ record _ _ hchecks hflow hgeneration hsequence hrecord hsupersede
      _ hinsert =>
    obtain ⟨hnext, hinsertion⟩ := insert_ok_iff_takes h hflow hsequence hrecord hsupersede
    have hunused : Unused c envelope payload := by
      rw [← (admissible_ok_iff.mp hchecks).unused_iff, hgeneration]
    have htakes : c.evidence.Takes record := by
      rw [← hinsertion, hinsert]
    rw [harmless_iff hchecks hflow, ← hnext]
    constructor
    · exact fun _ => ⟨fun _ => ⟨(next_ok hsequence).1, htakes⟩, fun hused => absurd hunused hused⟩
    · intro _ e c' heq
      cases heq

end Submission

/-- In every state of every run, a refused submission has no effect exactly when it is
harmless. -/
theorem refusal_untouched_iff_harmless (options : ClassifierOptions) (ops : List Operation)
    (envelope : SessionEnvelope) (payload : EvidencePayload) (tick touchTick : Tick)
    (wall : UInt64) :
    let c := run step (.new options) ops
    (∀ e c', c.submitEvidence envelope payload tick touchTick wall = (.error e, c') →
      Untouched c c') ↔ Harmless c envelope payload tick :=
  refused_untouched_iff (stocked_run options ops) touchTick wall

/-- Generation zero is refused, and the flow it was sent for is registered by then. -/
theorem refused_submission_registers_flow :
    let c := (Classifier.new {}).step (.registerPublisher (.make (text "agent")) 2
      .declaredAuthenticated (.make (text "s1")) [] 2 0)
    let out := c.submitEvidence { sampleEnvelope with maxSource := .declaredAuthenticated }
      (samplePayload .declaredAuthenticated 0) 3 3 0
    out.1.isOk = false ∧ ¬ Untouched c out.2 := by
  intro c out
  refine ⟨by decide +kernel, fun huntouched => ?_⟩
  have hbefore : (c.flows.current.lookup sampleKey).map FlowRecord.generation = none := by
    decide +kernel
  have hafter : (out.2.flows.current.lookup sampleKey).map FlowRecord.generation = some 1 := by
    decide +kernel
  rw [← huntouched.generations, hafter] at hbefore
  cases hbefore

end Classifier

end FlowClassifier
