import FlowClassifier.AfterRestart
import FlowClassifier.Counted
import FlowClassifier.Liveness

/-!
Published evidence and the incarnation that published it. A record that a decision counts
needs a live incarnation unless its source is exempt, and the exemption is meant for what
the coordinator derives itself. While no submission is admitted at CONTRACT_DERIVED, every
stored record that an answer counts belongs to an incarnation that is live.
-/
namespace FlowClassifier.Classifier

open Lib Foundation Evidence Flows Policies Workloads Engine DecisionSpec EngineCorrect Store
  PublisherRegistry

variable {c : Classifier} {scope : HashScope}

/-- As long as an incarnation is the registered one, its CURRENT records have a session
behind them. -/
def Manned (c : Classifier) : Prop :=
  ∀ id r, c.evidence.byId.lookup id = some r → r.state = .current →
    ∀ p, c.publishers.publishers.lookup r.publisher = some p → p.boot = r.publisherBoot →
      p.liveSessions ≠ []

theorem manned_of_idle (h : Idle c) : Manned c :=
  fun id r hr hcurrent => absurd hcurrent (h id r hr)

theorem manned_new (options : ClassifierOptions) : Manned (.new options) := by
  intro id r hr
  cases hr

/-- Closing the last session of an incarnation takes its records down. -/
theorem sessions_of_closed {id : PublisherId} {boot : PublisherBootId}
    {session : SessionId} {tick : Tick} {p : PublisherRegistration}
    (hp : c.publishers.publishers.lookup id = some p) (hboot : p.boot = boot) {j : EvidenceId}
    {r : EvidenceRecord}
    (hr : (c.step (.endPublisherSession id boot session tick)).evidence.byId.lookup j = some r)
    (hcurrent : r.state = .current) (hpublisher : r.publisher = id)
    (hincarnation : r.publisherBoot = boot) : (closeSession p session tick).liveSessions ≠ [] := by
  intro hclosed
  rcases endPublisherSession_cases c id boot session tick with
    ⟨-, hrefused⟩ | ⟨q, publishers, ended, reason, hq, -, hpub, -, hended, hout⟩
  · exact hrefused p hp hboot
  · rw [hp] at hq
    cases hq
    rw [step, hout] at hr
    have hspared := (EvidenceStore.of_current_markStaleWhere hr hcurrent).2
    rw [hclosed] at hended
    cases hended
    simp [hpublisher, hincarnation] at hspared

/-- A session that ends takes its records down. -/
theorem manned_step (hk : c.publishers.WellKeyed)
    (hindexed : c.evidence.Indexed c.evidence.order) (h : Manned c) {op : Operation}
    (hop : op.Running) : Manned (c.step op) := by
  intro id r hr hcurrent p' hp' hboot hnone
  have hold : ∀ {p}, c.publishers.publishers.lookup r.publisher = some p →
      p.boot = r.publisherBoot → p.liveSessions ≠ [] := by
    intro p hp hpboot
    rcases stored_step hindexed hop hr with ⟨q, hq, hweak⟩ | harrived
    · rw [← hweak.eq_of_current hcurrent] at hq
      exact h id r hq hcurrent p hp hpboot
    · cases harrived with
      | submitted hchecks hflow =>
        -- admission has just found the incarnation with a session
        obtain ⟨registration, henvelope, -⟩ := hchecks.session
        have hsame : some p = some registration := hp.symm.trans henvelope.registered
        cases hsame
        exact henvelope.sessions
  have hmoved := moved_step hk hop hp'
  generalize hpublisher : r.publisher = publisher at hold hmoved
  cases hmoved with
  | kept generation hp => exact hold hp hboot hnone
  | first => exact List.cons_ne_nil _ _ hnone
  | rebound => exact List.ne_nil_of_mem (rebind_sessions _ _ _ _ _ _) hnone
  | closed hp hpboot =>
    exact sessions_of_closed hp hpboot hr hcurrent hpublisher (hboot.symm.trans hpboot) hnone
  | heard _ hp => exact hold hp hboot hnone
  | published generation _ haccepted => exact haccepted.sessions hnone
  | expired hp =>
    unfold expireRegistration at hboot hnone
    split_ifs at hboot hnone <;> exact hold hp hboot hnone
  | cleared hp => exact hold hp hboot hnone

theorem not_restore_of_fits {op : Operation} (h : Fits c op)
    (image : DurableState) (boot : CoordinatorBootId) (tick : Tick) :
    op ≠ .restore image boot tick := by
  rintro rfl
  exact h

theorem Reached.manned (h : Reached scope c) : Manned c := by
  induction h with
  | new options => exact manned_new options
  | step h hfits _ ih =>
    exact manned_step h.consistent.publishers h.consistent.indexed ih (not_restore_of_fits hfits)
  | restart h hrestore _ => exact manned_of_idle (idle_of_restart h.consistent.indexed hrestore)

/-- No submission is admitted at CONTRACT_DERIVED: the weakest of the claimed source, the
ceiling of the envelope and the ceiling of the registration is another source. -/
def Observes (c : Classifier) : Operation → Prop
  | .submitEvidence envelope payload _ _ _ =>
    ∀ p, c.publishers.publishers.lookup envelope.publisher = some p →
      clampSource payload.claimedSource (ceiling envelope p) ≠ .contractDerived
  | _ => True

/-- Every stored record is heuristic or an observation by a session. -/
def Observed (c : Classifier) : Prop :=
  ∀ id r, c.evidence.byId.lookup id = some r →
    r.source = .heuristic ∨ r.source.requiresLiveSession = true

theorem requiresLiveSession_of_permitted {policy : ClassifierPolicy} {s : EvidenceSource}
    {metadata : EvidenceMetadata} (hpermitted : SourcePermitted policy s metadata)
    (hsource : s ≠ .contractDerived) : s = .heuristic ∨ s.requiresLiveSession = true := by
  unfold SourcePermitted at hpermitted
  cases s with
  | unknown => simp at hpermitted
  | contractDerived => exact absurd rfl hsource
  | heuristic => exact Or.inl rfl
  | _ => exact Or.inr rfl

theorem observed_step (hindexed : c.evidence.Indexed c.evidence.order)
    (h : Observed c) {op : Operation} (hop : op.Running)
    (hobserves : Observes c op) : Observed (c.step op) := by
  intro id r' hr'
  rcases stored_step hindexed hop hr' with ⟨r, hr, hweak⟩ | harrived
  · rw [hweak.submission]
    exact h id r hr
  · cases harrived with
    | submitted hchecks hflow =>
      obtain ⟨registration, henvelope, heffective⟩ := hchecks.session
      refine requiresLiveSession_of_permitted hchecks.source ?_
      rw [heffective]
      exact hobserves registration henvelope.registered

theorem ReachedUnder.observed (h : ReachedUnder Observes scope c) : Observed c := by
  induction h with
  | new options =>
    intro id r hr
    cases hr
  | step h hop ih =>
    have hc := (ReachedUnder.reached h).consistent
    exact observed_step hc.indexed ih (not_restore_of_fits hop.2.1) hop.1
  | restart h hrestore ih =>
    intro id r' hr'
    have hc := (ReachedUnder.reached h).consistent
    obtain ⟨r, hr, rfl⟩ := (evidence_of_restart hc.indexed hrestore).2 id r' hr'
    rw [(EvidenceStore.weakens_reloaded r).submission]
    exact ih id r hr

/-- Whatever the answer counts is a stored record whose incarnation is live, or no stored
record but the one derived from an active contract. -/
def Upheld (c : Classifier) (query : ClassificationQuery) (tick : Tick)
    (result : ClassificationResult) : Prop :=
  ∀ id, Counts result.classification id →
    (∃ r, c.evidence.byId.lookup id = some r ∧
      c.publishers.isLive r.publisher r.publisherBoot = true) ∨
    c.evidence.byId.lookup id = none ∧
      ∃ input k, c.queryInput query.flowKey query.flowGeneration tick = some input ∧
        k ∈ input.activeContracts ∧ id = (derived input k).id

/-- A CURRENT record whose source needs a session has one. -/
theorem isLive_of_decisive (hk : c.publishers.WellKeyed) (hmanned : Manned c)
    {flow : FlowRecord} {generation : FlowGeneration} {tick : Tick} {r : EvidenceRecord}
    (hr : c.evidence.byId.lookup r.id = some r)
    (hdecisive : Decisive (c.decisionInput flow generation tick) r)
    (hsource : r.source.requiresLiveSession = true) :
    c.publishers.isLive r.publisher r.publisherBoot = true := by
  have hlisted : (c.buildAuthorityContext tick).isLive r = true := by
    have hcurrent := hdecisive.1
    unfold stateOf at hcurrent
    split_ifs at hcurrent with hflow hstate hepoch hheuristic hdead hfresh
    · exact absurd hcurrent hstate
    · exact Bool.not_eq_false _ ▸ not_and.mp hdead hsource
  obtain ⟨p, hp, hboot, hlive⟩ := (Liveness.mem_livePublisherBoots hk _ _ tick).mp
    (List.contains_iff_mem.mp hlisted)
  have hsessions := hmanned r.id r hr (stateOf_current hdecisive.1) p hp hboot
  exact (Liveness.isLive_iff _ _ _).mpr ⟨p, hp, hboot, hlive, hsessions⟩

theorem upheld_of_decided (hc : Consistent scope c)
    (hmanned : Manned c) (hobserved : Observed c) {query : ClassificationQuery} {tick : Tick}
    {input : DecisionInput} {result : ClassificationResult}
    (hasked : c.queryInput query.flowKey query.flowGeneration tick = some input)
    (hwf : WellFormed input) (hdecided : result.classification = Engine.decide input) :
    Upheld c query tick result := by
  intro id hcounts
  rw [hdecided] at hcounts
  obtain ⟨r, hr, rfl, hdecisive⟩ := decisive_of_counts hwf hcounts
  obtain ⟨flow, generation, -, rfl⟩ := decisionInput_of_queryInput hasked
  rcases candidate_cases hc hr with ⟨hstored, -⟩ | ⟨k, hk, happlies, rfl⟩
  · have hsource := (hobserved r.id r hstored).resolve_left hdecisive.2
    exact Or.inl ⟨r, hstored, isLive_of_decisive hc.publishers hmanned hstored hdecisive hsource⟩
  · refine Or.inr ⟨lookup_derived hc _ k, _, k, hasked, ?_, rfl⟩
    exact (mem_activeContracts hc.workloads).mpr ⟨hk, happlies.1⟩

/-- While no submission is admitted at CONTRACT_DERIVED, every published record that an
answer counts belongs to a live incarnation, and none of an earlier boot counts once a
higher boot is registered. -/
theorem published_stands_with_incarnation {scope : HashScope} {c : Classifier}
    (h : ReachedUnder Observes scope c) :
    EveryAnswer (Digestible scope c) c (Upheld c) ∧
    EveryAnswer (Digestible scope c) c fun _ _ result =>
      ∀ id r p, c.evidence.byId.lookup id = some r →
        c.publishers.publishers.lookup r.publisher = some p → r.publisherBoot < p.boot →
        ¬ Counts result.classification id := by
  have hc := h.reached.consistent
  have hmanned := h.reached.manned
  refine ⟨everyAnswer_of_decided h.reached fun query tick input result hinput hwf hresult _ =>
    upheld_of_decided hc hmanned h.observed hinput hwf hresult, ?_⟩
  refine everyAnswer_of_decided h.reached ?_
  intro query tick input result hasked hwf hdecided _ id r p hr hp hlt hcounts
  rcases upheld_of_decided hc hmanned h.observed hasked hwf hdecided id hcounts with
    ⟨q, hq, hlive⟩ | ⟨hnone, -⟩
  · rw [hr] at hq
    cases hq
    obtain ⟨p', hp', hboot, -⟩ := (Liveness.isLive_iff _ _ _).mp hlive
    rw [hp] at hp'
    cases hp'
    exact absurd hboot (ne_of_gt hlt)
  · rw [hr] at hnone
    cases hnone

def standingScope : HashScope :=
  .ofLists (publishedMessages ++ queryMessages (run step (.new {}) publishedRun) sampleKey 4)
    [sampleKey] (by decide +kernel) nodup_sampleKey

theorem reachedUnder_publishedRun :
    ReachedUnder Observes standingScope (run step (.new {}) publishedRun) := by
  have halong : Along step (fun c op => Fits c op ∧ Hashed standingScope c op) (.new {})
      publishedRun :=
    publishedRun_along (fun _ hm => List.mem_append_left _ hm) List.mem_cons_self
  refine (Reaches.new {}).run ⟨⟨trivial, halong.1⟩, ⟨trivial, halong.2.1⟩,
    ⟨trivial, halong.2.2.1⟩, ⟨trivial, halong.2.2.2.1⟩, ⟨fun p hp => ?_, halong.2.2.2.2.1⟩, trivial⟩
  have hceiling : ((run step (.new {}) (publishedRun.take 4)).publishers.publishers.lookup
      (.make (text "agent"))).map (·.maxSource) = some .declaredAuthenticated := by
    decide +kernel
  have hp' : (run step (.new {}) (publishedRun.take 4)).publishers.publishers.lookup
      (.make (text "agent")) = some p := hp
  rw [hp', Option.map_some, Option.some.injEq] at hceiling
  simp [ceiling, clampSource, samplePayload, hceiling]

/-- The record counts while its publisher is live. -/
theorem published_stands_with_incarnation_sample :
    let c := run step (.new {}) publishedRun
    ∃ result, (c.classify { flowKey := sampleKey } 4).1 = .ok result ∧
      result.classification.semantic = .checkpoint ∧
      Upheld c { flowKey := sampleKey } 4 result := by
  intro c
  obtain ⟨result, hresult, hsemantic⟩ : ∃ result,
      (c.classify { flowKey := sampleKey } 4).1 = .ok result ∧
      result.classification.semantic = .checkpoint := by
    decide +kernel
  refine ⟨result, hresult, hsemantic, ?_⟩
  refine (published_stands_with_incarnation reachedUnder_publishedRun).1.1 _ 4 ⟨?_, ?_⟩ result
    hresult
  · exact queryFits_of_all (by decide +kernel)
  · exact queryHashed_ofLists _ _ (by decide +kernel)

/-- A record submitted as CONTRACT_DERIVED without any contract, and then a new boot of
its publisher. -/
def outlivingRun : List Operation :=
  [.registerPublisher (.make (text "agent")) 2 .declaredAuthenticated (.make (text "s1")) [] 2 0,
   .submitEvidence { sampleEnvelope with maxSource := .declaredAuthenticated }
     (samplePayload .contractDerived 1) 3 3 0,
   .registerPublisher (.make (text "agent")) 3 .declaredAuthenticated (.make (text "s2")) [] 4 0]

/-- The record is still selected although its incarnation is gone. -/
theorem counted_beyond_its_incarnation :
    let c := run step (.new {}) outlivingRun
    ∃ result, (c.classify { flowKey := sampleKey } 5).1 = .ok result ∧
      ¬ Upheld c { flowKey := sampleKey } 5 result := by
  intro c
  obtain ⟨result, hresult, hselected, r, hr, hgone⟩ : ∃ result,
      (c.classify { flowKey := sampleKey } 5).1 = .ok result ∧
      result.classification.selectedEvidence ≠ .none ∧
      ∃ r, c.evidence.byId.lookup result.classification.selectedEvidence = some r ∧
        c.publishers.isLive r.publisher r.publisherBoot = false := by
    decide +kernel
  refine ⟨result, hresult, fun hupheld => ?_⟩
  rcases hupheld _ ⟨hselected, Or.inl rfl⟩ with ⟨q, hq, hlive⟩ | ⟨hnone, -⟩
  · cases hr.symm.trans hq
    cases hgone.symm.trans hlive
  · cases hr.symm.trans hnone

end FlowClassifier.Classifier
