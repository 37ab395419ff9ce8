import FlowClassifier.Liveness
import FlowClassifier.Siblings

/-!
The end of a session. When the last session of an incarnation ends, all its CURRENT
records become STALE; while another one remains, the records of the ended session do, and
those that name no session. Nothing else in the classifier changes but the registration of
the publisher. The records of an incarnation are found by a text that joins identity and
boot, and the text determines both.
-/
namespace FlowClassifier.Classifier

open Lib Foundation Evidence Engine Store FiniteMap

def Remains (c : Classifier) (id : PublisherId) (boot : PublisherBootId) : Prop :=
  ∃ p, c.publishers.publishers.lookup id = some p ∧ p.boot = boot ∧ p.liveSessions ≠ []

/-- The CURRENT records with the property have become STALE, and no other record has
changed. -/
structure StaledExactly (before after : EvidenceStore) (p : EvidenceRecord → Prop) : Prop where
  staled : ∀ id r, before.byId.lookup id = some r → r.state = .current → p r →
    ∃ reason, after.byId.lookup id = some { r with state := .stale, stateReason := reason }
  kept : ∀ id r, before.byId.lookup id = some r → ¬ (r.state = .current ∧ p r) →
    after.byId.lookup id = some r
  created : ∀ id, before.byId.lookup id = none → after.byId.lookup id = none

theorem staledExactly_markStaleWhere (s : EvidenceStore) {p : EvidenceRecord → Bool}
    {q : EvidenceRecord → Prop} (hpq : ∀ r, p r = true ↔ q r) (reason : Bytes) :
    StaledExactly s (s.markStaleWhere p reason) q := by
  have hlookup : ∀ id, (s.markStaleWhere p reason).byId.lookup id =
      (s.byId.lookup id).map (EvidenceStore.markStale p fun _ => reason) :=
    fun id => lookup_mapValues _ _ _
  refine ⟨fun id r hr hcurrent hq => ⟨reason, ?_⟩, fun id r hr hother => ?_, fun id hnone => ?_⟩
  · rw [hlookup, hr, Option.map_some, EvidenceStore.markStale, if_pos ⟨hcurrent, (hpq r).mpr hq⟩]
  · rw [hlookup, hr, Option.map_some, EvidenceStore.markStale,
      if_neg fun h => hother ⟨h.1, (hpq r).mp h.2⟩]
  · rw [hlookup, hnone, Option.map_none]

/-- What ends with the last session. -/
theorem ended_with_last (id : PublisherId) (boot : PublisherBootId) (session : SessionId)
    (r : EvidenceRecord) :
    (sessionEnd false id boot session).1 r = true ↔ r.publisher = id ∧ r.publisherBoot = boot := by
  have hends : (sessionEnd false id boot session).1 r =
      (bootKey r.publisher r.publisherBoot == bootKey id boot) := rfl
  rw [hends, beq_iff_eq]
  refine ⟨Liveness.bootKey_injective, ?_⟩
  rintro ⟨rfl, rfl⟩
  rfl

/-- What ends with one of several sessions. -/
theorem ended_with_one (id : PublisherId) (boot : PublisherBootId) {session : SessionId}
    (hnamed : session.isEmpty = false) (r : EvidenceRecord) :
    (sessionEnd true id boot session).1 r = true ↔ r.publisher = id ∧ r.publisherBoot = boot ∧
        (r.session = session ∨ r.session.isEmpty = true) := by
  simp only [sessionEnd, hnamed, Bool.not_true, Bool.not_false, Bool.false_eq_true, if_false,
    if_true, Bool.and_eq_true, Bool.or_eq_true, beq_iff_eq]
  tauto

structure LeavesOthers (c c' : Classifier) (id : PublisherId) : Prop where
  flows : c'.flows = c.flows
  workloads : c'.workloads = c.workloads
  decisions : c'.decisions = c.decisions
  records : c'.publishers.records = c.publishers.records
  publishers : ∀ other, other ≠ id →
    c'.publishers.publishers.lookup other = c.publishers.publishers.lookup other

section Ended

variable {c : Classifier} {id : PublisherId} {boot : PublisherBootId} {session : SessionId}
  {tick : Tick}

/-- A successful end replaces the registration and marks the evidence. -/
theorem endPublisherSession_ok (hok : (c.endPublisherSession id boot session tick).1.isOk = true) :
    ∃ p, p.boot = boot ∧
      let remaining := (PublisherRegistry.closeSession p session tick).liveSessions
      let c' := (c.endPublisherSession id boot session tick).2
      c'.publishers.publishers =
          c.publishers.publishers.insert id (PublisherRegistry.closeSession p session tick) ∧
        c'.evidence = c.evidence.markStaleWhere
          (sessionEnd (!remaining.isEmpty) id boot session).1
          (sessionEnd (!remaining.isEmpty) id boot session).2 ∧
        LeavesOthers c c' id := by
  have hcases := PublisherRegistry.endSpecificSession_cases c.publishers id boot session tick
  unfold endPublisherSession at hok ⊢
  dsimp only at hcases
  generalize c.publishers.endSpecificSession id boot session tick = out at hcases hok ⊢
  obtain ⟨result, publishers⟩ := out
  rcases hcases with ⟨⟨e, heq⟩, -⟩ | ⟨p, -, hboot, hresult, hpublishers, hrecords⟩
  · cases heq
    cases hok
  · dsimp only at hresult hpublishers hrecords
    subst hresult
    have hfound : publishers.find id = .ok (PublisherRegistry.closeSession p session tick) := by
      unfold PublisherRegistry.find
      rw [hpublishers, lookup_insert_eq, if_pos rfl]
    refine ⟨p, hboot, hpublishers, ?_, rfl, rfl, rfl, hrecords, fun other hother => ?_⟩
    · dsimp only
      rw [hfound]
      rfl
    · show publishers.publishers.lookup other = _
      rw [hpublishers, lookup_insert_eq, if_neg hother]

end Ended

/-- A session that ends makes STALE what depends on it, and leaves everything else. -/
theorem session_end_stales_exactly (c : Classifier) (id : PublisherId) (boot : PublisherBootId)
    (session : SessionId) (tick : Tick)
    (hok : (c.endPublisherSession id boot session tick).1.isOk = true) :
    let c' := (c.endPublisherSession id boot session tick).2
    (¬ Remains c' id boot → StaledExactly c.evidence c'.evidence fun r =>
        r.publisher = id ∧ r.publisherBoot = boot) ∧
      (Remains c' id boot → session.isEmpty = false ∧
        StaledExactly c.evidence c'.evidence fun r =>
          r.publisher = id ∧ r.publisherBoot = boot ∧
            (r.session = session ∨ r.session.isEmpty = true)) ∧
      LeavesOthers c c' id := by
  intro c'
  obtain ⟨p, hboot, hpublishers, hevidence, hleaves⟩ := endPublisherSession_ok hok
  have hclosed : c'.publishers.publishers.lookup id =
      some (PublisherRegistry.closeSession p session tick) := by
    rw [hpublishers, lookup_insert_eq, if_pos rfl]
  refine ⟨fun hnone => ?_, fun hremains => ?_, hleaves⟩
  · have hempty : (PublisherRegistry.closeSession p session tick).liveSessions = [] := by
      by_contra hopen
      exact hnone ⟨_, hclosed, hboot, hopen⟩
    rw [hevidence, hempty]
    exact staledExactly_markStaleWhere _ (ended_with_last id boot session) _
  · obtain ⟨q, hq, -, hopen⟩ := hremains
    rw [hclosed] at hq
    cases hq
    -- without a name all sessions are closed
    have hnamed : session.isEmpty = false := by
      rw [← Bool.not_eq_true]
      intro hunnamed
      simp [PublisherRegistry.closeSession, hunnamed] at hopen
    have hlive :
        (!(PublisherRegistry.closeSession p session tick).liveSessions.isEmpty) = true := by
      simpa using hopen
    refine ⟨hnamed, ?_⟩
    rw [hevidence, hlive]
    exact staledExactly_markStaleWhere _ (ended_with_one id boot hnamed) _

/-- The record of a session goes with the session while another session remains. -/
theorem session_end_stales_exactly_sample :
    let c := run step (.new {}) [bindAgent "s1", bindAgent "s2", .submitEvidence
      (siblingEnvelope "s2") (samplePayload .declaredAuthenticated 1) 3 3 0]
    let c' := (c.endPublisherSession (.make (text "agent")) 2 (.make (text "s2")) 4).2
    Remains c' (.make (text "agent")) 2 ∧
      (c.evidence.byId.values.map EvidenceRecord.state = [.current]) ∧
      StaledExactly c.evidence c'.evidence fun r =>
        r.publisher = .make (text "agent") ∧ r.publisherBoot = 2 ∧
          (r.session = .make (text "s2") ∨ r.session.isEmpty = true) := by
  intro c c'
  have hremains : Remains c' (.make (text "agent")) 2 := by
    unfold Remains
    decide +kernel
  have hends := session_end_stales_exactly c (.make (text "agent")) 2 (.make (text "s2")) 4
    (by decide +kernel)
  exact ⟨hremains, by decide +kernel, (hends.2.1 hremains).2⟩

end FlowClassifier.Classifier
