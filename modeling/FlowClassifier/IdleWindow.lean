import FlowClassifier.Standing

/-!
Idle publishers. A publisher is in contact when it registers, sends a heartbeat or has a
submission accepted; a LIVE registration carries the tick of the last contact. A decision
reads the LIVE state only, and only the sweep takes it away, so a publisher that has been
silent for longer than the idle window loses its authority at the sweep and not before.
-/
namespace FlowClassifier

open Lib Foundation Buffers Evidence Workloads Engine EngineCorrect Store PublisherRegistry
  FiniteMap

variable {p : PublisherRegistration}
variable {id : PublisherId} {op : Operation}

namespace Store.PublisherRegistry

theorem lookup_touch {r : PublisherRegistry}
    (hp : r.publishers.lookup id = some p) {boot : PublisherBootId} (hboot : p.boot = boot)
    (tick : Tick) (wall : UInt64) :
    (r.touch id boot tick wall).2.publishers.lookup id = some (touchRegistration p tick) := by
  unfold touch
  rw [hp]
  dsimp only
  rw [if_neg (not_not.mpr hboot)]
  exact (lookup_insert_eq _ _ _ _).trans (if_pos rfl)

end Store.PublisherRegistry

namespace Classifier

theorem idleTicks_step (c : Classifier) (hop : op.Running) :
    (c.step op).publishers.idleTicks = c.publishers.idleTicks := by
  cases op with
  | advanceEpoch boot =>
    rw [step, advanceEpoch]
    split
    · rfl
    · split <;> rfl
  | expirePublisherLiveness tick =>
    rw [publishers_expirePublisherLiveness]
    rfl
  | restore image boot tick => exact absurd rfl (hop image boot tick)
  | _ => exact (steady_step c id).idleTicks

/-- The publisher an operation is a contact with, and when: an accepted registration,
heartbeat or publication. -/
def contact (c : Classifier) : Operation → Option (PublisherId × Tick)
  | .registerPublisher id boot maxSource session description tick wall =>
    if (c.registerPublisher id boot maxSource session description tick wall).1.isOk then
      some (id, tick)
    else none
  | .heartbeat id boot tick wall =>
    if (c.heartbeat id boot tick wall).1.isOk then some (id, tick) else none
  | .submitEvidence envelope payload tick touchTick wall =>
    if (c.submitEvidence envelope payload tick touchTick wall).1.isOk then
      some (envelope.publisher, touchTick)
    else none
  | _ => none

def noteContact (c : Classifier) (op : Operation) (seen : PublisherId → Option Tick) :
    PublisherId → Option Tick :=
  fun id =>
    match c.contact op with
    | some (j, tick) => if j = id then some tick else seen id
    | none => seen id

theorem noteContact_same {c : Classifier} {tick : Tick}
    (h : c.contact op = some (id, tick)) (seen : PublisherId → Option Tick) :
    c.noteContact op seen id = some tick := by
  rw [noteContact, h]
  exact if_pos rfl

theorem noteContact_other {c : Classifier}
    (h : ∀ tick, c.contact op ≠ some (id, tick)) (seen : PublisherId → Option Tick) :
    c.noteContact op seen id = seen id := by
  rw [noteContact]
  split
  · rename_i j tick hcontact
    refine if_neg fun hid => h tick ?_
    rw [hcontact, hid]
  · rfl

section Step

variable {c : Classifier}

/-- A contact leaves its tick in the registration. -/
theorem seen_of_contact (hk : c.publishers.WellKeyed) {tick : Tick}
    (h : c.contact op = some (id, tick)) :
    ∃ p', (c.step op).publishers.publishers.lookup id = some p' ∧ p'.lastSeenTick = tick := by
  cases op with
  | registerPublisher j boot maxSource session description t wall =>
    rw [contact] at h
    split_ifs at h with hok
    cases h
    have hcases := bindSession_cases hk id boot c.epoch c.coordinatorBoot maxSource session tick
      wall description
    rw [registerPublisher] at hok
    rw [step, registerPublisher]
    generalize c.publishers.bindSession id boot c.epoch c.coordinatorBoot maxSource session tick
      wall description = out at hcases hok
    obtain ⟨result, publishers⟩ := out
    rcases hcases with ⟨e, rfl, -⟩ | ⟨p, record, rfl, hpub, -, -, -, -, hp⟩
    · cases hok
    · dsimp only [bumpAuthority] at hpub ⊢
      refine ⟨p, by rw [hpub, lookup_insert_eq, if_pos rfl], ?_⟩
      rcases hp with ⟨-, rfl⟩ | ⟨old, -, -, rfl⟩ <;> rfl
  | heartbeat j boot t wall =>
    rw [contact] at h
    split_ifs at h with hok
    cases h
    have hcases := touch_cases c.publishers id boot tick wall
    rw [heartbeat] at hok
    rw [step, heartbeat]
    generalize c.publishers.touch id boot tick wall = out at hcases hok
    obtain ⟨result, publishers⟩ := out
    rcases hcases with ⟨e, heq⟩ | ⟨p, -, -, rfl, hpub, -⟩
    · cases heq
      cases hok
    · dsimp only [bumpAuthority] at hpub ⊢
      exact ⟨_, by rw [hpub, lookup_insert_eq, if_pos rfl], rfl⟩
  | submitEvidence envelope payload t touchTick wall =>
    rw [contact] at h
    split_ifs at h with hok
    cases h
    rcases (submission c envelope payload t tick wall).publishers with
      ⟨hfailed, -⟩ | ⟨p, henvelope, -, hpub⟩
    · rw [hok] at hfailed
      cases hfailed
    · -- the touch finds the registration that admission accepted
      have hobserved : ∃ q, (c.publishers.observeEvidenceGeneration envelope.publisher
          envelope.publisherBoot payload.evidenceGeneration).2.publishers.lookup
            envelope.publisher = some q ∧ q.boot = envelope.publisherBoot := by
        rcases observeEvidenceGeneration_cases c.publishers envelope.publisher
          envelope.publisherBoot payload.evidenceGeneration with
          ⟨e, -, hsame, -⟩ | ⟨q, -, hboot, -, -, hinsert, -⟩
        · rw [hsame]
          exact ⟨p, henvelope.registered, henvelope.boot⟩
        · rw [hinsert, lookup_insert_eq, if_pos rfl]
          exact ⟨_, rfl, hboot⟩
      obtain ⟨q, hq, hboot⟩ := hobserved
      rw [step, hpub]
      exact ⟨_, lookup_touch hq hboot tick wall, rfl⟩
  | _ => cases h

/-- A registration that is LIVE after a step was in contact in that step, or it was LIVE
before and was not. -/
theorem live_step (hk : c.publishers.WellKeyed) (hop : op.Running) {p' : PublisherRegistration}
    (hp' : (c.step op).publishers.publishers.lookup id = some p') (hlive : p'.state = .live) :
    c.contact op = some (id, p'.lastSeenTick) ∨ (∀ tick, c.contact op ≠ some (id, tick)) ∧
      ∃ p, c.publishers.publishers.lookup id = some p ∧ p.state = .live ∧
        p.lastSeenTick = p'.lastSeenTick := by
  by_cases hcontact : ∃ tick, c.contact op = some (id, tick)
  · obtain ⟨tick, htick⟩ := hcontact
    obtain ⟨q, hq, rfl⟩ := seen_of_contact hk htick
    rw [hp'] at hq
    cases hq
    exact Or.inl htick
  · refine Or.inr ⟨fun tick htick => hcontact ⟨tick, htick⟩, ?_⟩
    cases moved_step hk hop hp' with
    | kept generation hp => exact ⟨_, hp, hlive, rfl⟩
    | first hok | rebound hok | heard hok | published _ hok =>
      exact absurd ⟨_, if_pos hok⟩ hcontact
    | @closed id boot session tick p hp hboot =>
      by_cases hempty : (closeSession p session tick).liveSessions.isEmpty = true
      · have hdead : (closeSession p session tick).state = .dead := if_pos hempty
        rw [hdead] at hlive
        cases hlive
      · have hstate : (closeSession p session tick).state = p.state := if_neg hempty
        exact ⟨p, hp, hstate.symm.trans hlive, (if_neg hempty).symm⟩
    | expired hp =>
      unfold expireRegistration at hlive ⊢
      split_ifs at hlive ⊢ with hexpired
      exact ⟨_, hp, hlive, rfl⟩
    | cleared hp => cases hlive

end Step

/-- The states of all runs, each with the last contacts of its run. -/
inductive Heard (scope : HashScope) : Classifier → (PublisherId → Option Tick) → Prop
  | new (options : ClassifierOptions) : Heard scope (.new options) fun _ => none
  | step {c : Classifier} {seen : PublisherId → Option Tick} {op : Operation}
    (h : Heard scope c seen) (hfits : Fits c op) (hhashed : Hashed scope c op) :
    Heard scope (c.step op) (c.noteContact op seen)
  | restart {c c' : Classifier} {seen : PublisherId → Option Tick} {options : ClassifierOptions}
    {boot : CoordinatorBootId} {tick : Tick} (h : Heard scope c seen)
    (hrestore : restore c.durableState (.new options) boot tick = (.ok (), c')) :
    Heard scope c' seen

/-- The states in which the sweep has been called at the tick and no contact since then is
dated earlier. -/
inductive Swept (scope : HashScope) (tick : Tick) :
    Classifier → (PublisherId → Option Tick) → Prop
  | sweep {c : Classifier} {seen : PublisherId → Option Tick} (h : Heard scope c seen)
    (hfits : Fits c (.expirePublisherLiveness tick)) :
    Swept scope tick (c.step (.expirePublisherLiveness tick)) seen
  | step {c : Classifier} {seen : PublisherId → Option Tick} {op : Operation}
    (h : Swept scope tick c seen) (hfits : Fits c op) (hhashed : Hashed scope c op)
    (hclock : ∀ id s, c.contact op = some (id, s) → tick ≤ s) :
    Swept scope tick (c.step op) (c.noteContact op seen)

variable {scope : HashScope} {c : Classifier} {seen : PublisherId → Option Tick} {tick : Tick}

def contactsAlong (c : Classifier) (seen : PublisherId → Option Tick) :
    List Operation → PublisherId → Option Tick
  | [] => seen
  | op :: ops => contactsAlong (c.step op) (c.noteContact op seen) ops

theorem Heard.run {ops : List Operation} (h : Heard scope c seen)
    (halong : Along Classifier.step (fun c op => Fits c op ∧ Hashed scope c op) c ops) :
    Heard scope (Lib.run Classifier.step c ops) (contactsAlong c seen ops) := by
  induction ops generalizing c seen with
  | nil => exact h
  | cons op ops ih => exact ih (h.step halong.1.1 halong.1.2) halong.2

theorem Heard.reached (h : Heard scope c seen) : Reached scope c := by
  induction h with
  | new options => exact .new options
  | step _ hfits hhashed ih => exact ih.step hfits hhashed
  | restart _ hrestore ih => exact ih.restart hrestore

/-- A sweep is no contact. -/
theorem Swept.heard (h : Swept scope tick c seen) : Heard scope c seen := by
  induction h with
  | sweep h hfits => exact h.step hfits trivial
  | step _ hfits hhashed _ ih => exact ih.step hfits hhashed

theorem lastSeenTick_of_live (h : Heard scope c seen)
    (hp : c.publishers.publishers.lookup id = some p)
    (hlive : p.state = .live) : seen id = some p.lastSeenTick := by
  induction h generalizing p with
  | new options => cases hp
  | step h hfits _ ih =>
    rcases live_step h.reached.consistent.publishers (not_restore_of_fits hfits) hp hlive with
      hcontact | ⟨hnone, q, hq, hqlive, hsame⟩
    · exact noteContact_same hcontact _
    · rw [noteContact_other hnone, ih hq hqlive, hsame]
  | restart h hrestore ih =>
    obtain ⟨-, -, rfl⟩ := restore_ok hrestore
    obtain ⟨q, -, rfl⟩ := of_lookup_mapValues hp
    cases hlive

def Overdue (window : UInt64) (lastSeen tick : Tick) : Prop :=
  lastSeen < tick ∧ window < tick - lastSeen

/-- The sweep has taken LIVE from the overdue, and later contacts are recent. -/
theorem not_overdue_of_live (h : Swept scope tick c seen)
    (hp : c.publishers.publishers.lookup id = some p)
    (hlive : p.state = .live) : ¬ Overdue c.publishers.idleTicks p.lastSeenTick tick := by
  induction h generalizing p with
  | @sweep c seen h hfits =>
    rw [publishers_expirePublisherLiveness] at hp ⊢
    obtain ⟨p, -, rfl⟩ := of_lookup_mapValues hp
    unfold expireRegistration at hlive ⊢
    split_ifs at hlive ⊢ with hexpired
    rintro ⟨hlate, (hlong : c.publishers.idleTicks < tick - p.lastSeenTick)⟩
    refine hexpired ?_
    rw [hasExpired, hlive]
    simpa using And.intro hlate hlong
  | @step c seen op h hfits _ hclock ih =>
    have hk := h.heard.reached.consistent.publishers
    rw [idleTicks_step c (not_restore_of_fits hfits)]
    rcases live_step hk (not_restore_of_fits hfits) hp hlive with
      hcontact | ⟨-, q, hq, hqlive, hsame⟩
    · rintro ⟨hlate, -⟩
      exact absurd (hclock id _ hcontact) (not_le.mpr hlate)
    · rw [← hsame]
      exact ih hq hqlive

/-- Once the sweep has been called at the tick of a decision, nothing counts that was
published by a session of a publisher whose last contact is longer ago than the idle
window. -/
theorem idle_publishers_lose_authority (h : Swept scope tick c seen) :
    EveryAnswer (Digestible scope c) c fun _ t result => t = tick →
      ∀ id r, c.evidence.byId.lookup id = some r → r.source.requiresLiveSession = true →
        (∀ s, seen r.publisher = some s → Overdue c.publishers.idleTicks s tick) →
        ¬ Counts result.classification id := by
  have hreached := h.heard.reached
  have hc := hreached.consistent
  refine everyAnswer_of_decided hreached ?_
  rintro query t input result hasked hwf hdecided - rfl id r hr hsource hsilent hcounts
  rw [hdecided] at hcounts
  obtain ⟨q, hq, rfl, hdecisive⟩ := decisive_of_counts hwf hcounts
  obtain ⟨flow, generation, -, rfl⟩ := decisionInput_of_queryInput hasked
  rcases candidate_cases hc hq with ⟨hstored, -⟩ | ⟨k, -, -, rfl⟩
  · rw [hr] at hstored
    cases hstored
    have hlive := isLive_of_decisive hc.publishers hreached.manned hr hdecisive hsource
    obtain ⟨p, hp, -, hstate, -⟩ := (Liveness.isLive_iff _ _ _).mp hlive
    have hseen := lastSeenTick_of_live h.heard hp hstate
    exact not_overdue_of_live h hp hstate (hsilent _ hseen)
  · rw [lookup_derived hc _ k] at hr
    cases hr

def patientRun : List Operation :=
  [.registerPublisher (.make (text "agent")) 2 .declaredAuthenticated (.make (text "s1")) [] 2 0,
   .submitEvidence { sampleEnvelope with maxSource := .declaredAuthenticated }
     { samplePayload .declaredAuthenticated 1 with freshnessWindow := 100000 } 3 3 0]

def overdueTick : Tick := 70000

def patientContacts : PublisherId → Option Tick :=
  contactsAlong (.new {}) (fun _ => none) patientRun

theorem overdue_at (window : UInt64) (h : window = 65536) : Overdue window 3 overdueTick := by
  subst h
  exact ⟨by decide, by decide⟩

/-- Without the sweep the record is selected although the last contact is too long ago. -/
theorem counted_while_idle :
    let c := run step (.new {}) patientRun
    ∃ result id r, (c.classify { flowKey := sampleKey } overdueTick).1 = .ok result ∧
      c.evidence.byId.lookup id = some r ∧ r.source.requiresLiveSession = true ∧
      patientContacts r.publisher = some 3 ∧ Overdue c.publishers.idleTicks 3 overdueTick ∧
      Counts result.classification id := by
  intro c
  obtain ⟨result, hresult, hselected, r, hr, hsource, hseen⟩ : ∃ result,
      (c.classify { flowKey := sampleKey } overdueTick).1 = .ok result ∧
      result.classification.selectedEvidence ≠ .none ∧
      ∃ r, c.evidence.byId.lookup result.classification.selectedEvidence = some r ∧
        r.source.requiresLiveSession = true ∧ patientContacts r.publisher = some 3 := by
    decide +kernel
  exact ⟨result, _, r, hresult, hr, hsource, hseen, overdue_at _ (by decide +kernel), hselected,
    Or.inl rfl⟩

def sweptState : Classifier :=
  (run step (.new {}) patientRun).step (.expirePublisherLiveness overdueTick)

def idleScope : HashScope :=
  .ofLists (submissionMessages (run step (.new {}) (patientRun.take 1))
      { sampleEnvelope with maxSource := .declaredAuthenticated }
      { samplePayload .declaredAuthenticated 1 with freshnessWindow := 100000 } 3 ++
    queryMessages sweptState sampleKey overdueTick) [sampleKey] (by decide +kernel)
    nodup_sampleKey

theorem swept_sweptState : Swept idleScope overdueTick sweptState patientContacts := by
  have halong : Along step (fun c op => Fits c op ∧ Hashed idleScope c op) (.new {})
      patientRun := by
    refine ⟨⟨?_, trivial⟩, ⟨?_, List.mem_cons_self, ?_⟩, trivial⟩
    · exact (by decide +kernel : (Classifier.new {}).authoritySequence ≠ 0xFFFFFFFFFFFFFFFF)
    · exact (by decide : recordBytes sampleEnvelope { samplePayload .declaredAuthenticated 1 with
        freshnessWindow := 100000 } ≤ maxBlobBytes)
    · exact submission_hashed fun m hm => List.mem_append_left _ hm
  have hsequence : (run step (.new {}) patientRun).authoritySequence ≠ 0xFFFFFFFFFFFFFFFF := by
    decide +kernel
  exact .sweep ((Heard.new {}).run halong) hsequence

theorem idle_publishers_lose_authority_sample :
    ∃ result id r, (sweptState.classify { flowKey := sampleKey } overdueTick).1 = .ok result ∧
      sweptState.evidence.byId.lookup id = some r ∧ r.source.requiresLiveSession = true ∧
      patientContacts r.publisher = some 3 ∧
      Overdue sweptState.publishers.idleTicks 3 overdueTick ∧
      ¬ Counts result.classification id := by
  obtain ⟨result, hresult⟩ := exists_ok (by decide +kernel :
    (sweptState.classify { flowKey := sampleKey } overdueTick).1.isOk = true)
  obtain ⟨id, -, r, hr, hsource, hseen⟩ : ∃ id ∈ sweptState.evidence.order,
      ∃ r, sweptState.evidence.byId.lookup id = some r ∧ r.source.requiresLiveSession = true ∧
        patientContacts r.publisher = some 3 := by
    decide +kernel
  have hoverdue := overdue_at sweptState.publishers.idleTicks (by decide +kernel)
  refine ⟨result, id, r, hresult, hr, hsource, hseen, hoverdue, ?_⟩
  refine (idle_publishers_lose_authority swept_sweptState).1 _ overdueTick ⟨?_, ?_⟩ result
    hresult rfl id r hr hsource ?_
  · exact queryFits_of_all (by decide +kernel)
  · exact queryHashed_ofLists _ _ (by decide +kernel)
  · intro s hs
    rw [hseen] at hs
    cases hs
    exact hoverdue

end Classifier
end FlowClassifier
