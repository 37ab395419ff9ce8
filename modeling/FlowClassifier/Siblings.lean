import FlowClassifier.Refusals
import FlowClassifier.Transitions

/-!
The sessions of one incarnation. A registration lists every session that is bound to it
and names one of them as the current one; a submission is admitted only if it carries the
current session. Whether binding or ending another session changes what is admitted is
therefore a question of which session is current before and after.
-/
namespace FlowClassifier

open Lib Foundation Evidence Workloads Engine Store PublisherRegistry

namespace Store.PublisherRegistry

/-- A registration that is there is kept by a bind and rebound. -/
theorem lookup_bindSession {r : PublisherRegistry} {id : PublisherId} {p : PublisherRegistration}
    (hp : r.publishers.lookup id = some p) {boot : PublisherBootId} {epoch : CoordinatorEpoch}
    {coordinatorBoot : CoordinatorBootId} {maxSource : EvidenceSource} {session : SessionId}
    {tick : Tick} {wall : UInt64} {description : Bytes}
    (hok : (r.bindSession id boot epoch coordinatorBoot maxSource session tick wall
      description).1.isOk = true) :
    (r.bindSession id boot epoch coordinatorBoot maxSource session tick wall
      description).2.publishers.lookup id =
        some (rebindRegistration p boot epoch coordinatorBoot session tick) := by
  have hrecord : (r.bindRecord id boot maxSource tick wall description).2.publishers =
      r.publishers := by
    unfold bindRecord
    split <;> split_ifs <;> rfl
  unfold bindSession at hok ⊢
  split_ifs at hok ⊢
  · cases hok
  · cases hok
  · generalize r.bindRecord id boot maxSource tick wall description = bound at hrecord hok
    obtain ⟨_ | _, s⟩ := bound
    · cases hok
    · dsimp only [bindRegistration] at hrecord hok ⊢
      rw [hrecord, hp] at hok ⊢
      dsimp only at hok ⊢
      split_ifs at hok ⊢
      · cases hok
      · exact (FiniteMap.lookup_insert_eq _ _ _ _).trans (if_pos rfl)

end Store.PublisherRegistry

namespace Classifier

/-- Everything that admission asks of a submission of the registered incarnation besides
the session it carries. -/
structure Eligible (c : Classifier) (envelope : SessionEnvelope) (payload : EvidencePayload)
    (tick : Tick) (p : PublisherRegistration) : Prop where
  epoch : envelope.epoch = c.epoch
  coordinatorBoot : envelope.coordinatorBoot = c.coordinatorBoot
  publisherBoot : envelope.publisherBoot ≠ 0
  live : p.state = .live
  source : SourcePermitted c.policy (clampSource payload.claimedSource (ceiling envelope p))
    payload.metadata
  semantic : payload.semantic ≠ .unknown
  workload : WorkloadBound c envelope.publisher payload
  contract : ContractBound c envelope.publisher payload
  flow : ¬ c.flows.Refuses payload.flowKey payload.flowGeneration
  unused : p.highestGeneration < payload.evidenceGeneration
  sequence : c.sequence.value ≠ 0xFFFFFFFFFFFFFFFF
  room : c.evidence.Takes (c.nextRecord envelope payload
    (clampSource payload.claimedSource (ceiling envelope p)) tick)

section Submission

variable {c : Classifier} {envelope : SessionEnvelope} {payload : EvidencePayload} {tick : Tick}
  {p : PublisherRegistration}

theorem Eligible.admissible (h : Eligible c envelope payload tick p)
    (hp : c.publishers.publishers.lookup envelope.publisher = some p)
    (hboot : p.boot = envelope.publisherBoot) (hsession : p.session = envelope.session)
    (hsessions : p.liveSessions ≠ []) : c.admissible envelope payload =
      .ok (clampSource payload.claimedSource (ceiling envelope p)) := by
  refine admissible_ok_iff.mpr ⟨⟨p, ?_, rfl⟩, h.source, h.semantic, h.workload, h.contract⟩
  exact ⟨h.epoch, h.coordinatorBoot, h.publisherBoot, hp, hboot, hsession, h.live, hsessions⟩

theorem submitEvidence_ok_iff (h : Stocked c)
    (hp : c.publishers.publishers.lookup envelope.publisher = some p)
    (hboot : p.boot = envelope.publisherBoot) (hsessions : p.liveSessions ≠ [])
    (touchTick : Tick) (wall : UInt64) :
    (c.submitEvidence envelope payload tick touchTick wall).1.isOk = true ↔
      p.session = envelope.session ∧ Eligible c envelope payload tick p := by
  have hunused : Unused c envelope payload ↔ p.highestGeneration < payload.evidenceGeneration := by
    unfold Unused
    rw [hp]
    simp
  rw [submitEvidence_isOk_iff h]
  constructor
  · rintro ⟨record, hadmitted, htakes⟩
    obtain ⟨effective, hadmits⟩ := admitted_iff.mp hadmitted
    have hadmissible := hadmits.admissible
    obtain ⟨q, henvelope, rfl⟩ := hadmissible.session
    cases hp.symm.trans henvelope.registered
    exact ⟨henvelope.session, henvelope.epoch, henvelope.coordinatorBoot,
      henvelope.publisherBoot, henvelope.live, hadmissible.source, hadmissible.semantic,
      hadmissible.workload, hadmissible.contract, hadmits.flow, hunused.mp hadmits.unused,
      hadmits.sequence, hadmits.record ▸ htakes⟩
  · rintro ⟨hsession, heligible⟩
    have hadmissible := heligible.admissible hp hboot hsession hsessions
    exact ⟨_, admitted_iff.mpr ⟨_, admissible_ok_iff.mp hadmissible, heligible.flow,
      hunused.mpr heligible.unused, heligible.sequence, rfl⟩, heligible.room⟩

end Submission

/-- Another session than `s` is bound to the incarnation, or one is ended; `next` is the
session that is current afterwards. -/
inductive Sibling (c : Classifier) (id : PublisherId) (p : PublisherRegistration)
    (s : SessionId) : Operation → SessionId → Prop
  | bound {maxSource : EvidenceSource} {other : SessionId} {description : Bytes} {tick : Tick}
    {wall : UInt64} (hother : other ≠ s)
    (hok : (c.registerPublisher id p.boot maxSource other description tick wall).1.isOk = true) :
    Sibling c id p s (.registerPublisher id p.boot maxSource other description tick wall) other
  | ended {other : SessionId} {tick : Tick} (hother : other ≠ s)
    (hnamed : other.isEmpty = false) :
    Sibling c id p s (.endPublisherSession id p.boot other tick)
      (if p.session = other then (p.liveSessions.filter (· ≠ other)).getLastD .none
        else p.session)

section Sibling

variable {other : SessionId}

variable {c : Classifier} {p : PublisherRegistration} {envelope : SessionEnvelope}
  {payload : EvidencePayload} {tick touchTick : Tick} {wall : UInt64}

theorem mem_closeSession {s : SessionId} (hs : s ∈ p.liveSessions) (hother : other ≠ s)
    (hnamed : other.isEmpty = false) (t : Tick) : s ∈ (closeSession p other t).liveSessions := by
  have hkept : (closeSession p other t).liveSessions = p.liveSessions.filter (· ≠ other) := by
    unfold closeSession
    simp [hnamed]
  rw [hkept]
  exact List.mem_filter.mpr ⟨hs, by simpa using Ne.symm hother⟩

/-- Ending a session that is not the last one changes nothing else admission asks for. -/
theorem eligible_ended {t : Tick} (hkept : (closeSession p other t).liveSessions.isEmpty = false)
    {publishers : PublisherRegistry} {ended : EvidenceRecord → Bool} {reason : Bytes} :
    Eligible (bumpAuthority
        { c with
          publishers := publishers
          evidence := c.evidence.markStaleWhere ended reason })
      envelope payload tick (closeSession p other t) ↔ Eligible c envelope payload tick p := by
  have hstate : (closeSession p other t).state = p.state := by
    refine if_neg ?_
    rw [Bool.not_eq_true]
    exact hkept
  have hroom := (EvidenceStore.reviewed_markStaleWhere c.evidence ended reason).takes_iff
    (c.nextRecord envelope payload (clampSource payload.claimedSource (ceiling envelope p)) tick)
  constructor
  · rintro ⟨h₁, h₂, h₃, h₄, h₅, h₆, h₇, h₈, h₉, h₁₀, h₁₁, h₁₂⟩
    exact ⟨h₁, h₂, h₃, hstate ▸ h₄, h₅, h₆, h₇, h₈, h₉, h₁₀, h₁₁, hroom.mp h₁₂⟩
  · rintro ⟨h₁, h₂, h₃, h₄, h₅, h₆, h₇, h₈, h₉, h₁₀, h₁₁, h₁₂⟩
    exact ⟨h₁, h₂, h₃, hstate ▸ h₄, h₅, h₆, h₇, h₈, h₉, h₁₀, h₁₁, hroom.mpr h₁₂⟩

theorem admitted_after_bound (h : Stocked c)
    (hp : c.publishers.publishers.lookup envelope.publisher = some p)
    (hboot : p.boot = envelope.publisherBoot) {maxSource : EvidenceSource}
    {description : Bytes} {t : Tick} {w : UInt64} (hother : other ≠ envelope.session)
    (hok : (c.registerPublisher envelope.publisher p.boot maxSource other description t
      w).1.isOk = true) :
    ((c.step (.registerPublisher envelope.publisher p.boot maxSource other description t
      w)).submitEvidence envelope payload tick touchTick wall).1.isOk = false := by
  have hbound := stocked_step h
    (.registerPublisher envelope.publisher p.boot maxSource other description t w)
  have hlookup : (c.step (.registerPublisher envelope.publisher p.boot maxSource other description
      t w)).publishers.publishers.lookup envelope.publisher =
        some (rebindRegistration p p.boot c.epoch c.coordinatorBoot other t) := by
    have hfound := @lookup_bindSession c.publishers envelope.publisher p hp p.boot c.epoch
      c.coordinatorBoot maxSource other t w description
    rw [step]
    rw [registerPublisher] at hok ⊢
    generalize c.publishers.bindSession envelope.publisher p.boot c.epoch c.coordinatorBoot
      maxSource other t w description = out at hfound hok
    obtain ⟨_ | _, publishers⟩ := out
    · cases hok
    · exact hfound rfl
  have hsessions : (rebindRegistration p p.boot c.epoch c.coordinatorBoot other t).liveSessions ≠
      [] := List.ne_nil_of_mem (rebind_sessions _ _ _ _ _ _)
  rw [Bool.eq_false_iff, Ne, submitEvidence_ok_iff hbound hlookup hboot hsessions]
  exact fun hall => hother hall.1

theorem admitted_after_ended (h : Stocked c)
    (hp : c.publishers.publishers.lookup envelope.publisher = some p)
    (hboot : p.boot = envelope.publisherBoot) (hs : envelope.session ∈ p.liveSessions)
    {t : Tick} (hother : other ≠ envelope.session) (hnamed : other.isEmpty = false) :
    ((c.step (.endPublisherSession envelope.publisher p.boot other t)).submitEvidence envelope
      payload tick touchTick wall).1.isOk = true ↔
      (closeSession p other t).session = envelope.session ∧ Eligible c envelope payload tick p := by
  have hended := stocked_step h (.endPublisherSession envelope.publisher p.boot other t)
  have hremains := mem_closeSession hs hother hnamed t
  rcases endPublisherSession_cases c envelope.publisher p.boot other t with
    ⟨-, hrefused⟩ | ⟨q, publishers, ended, reason, hq, -, hpub, -, -, hout⟩
  · exact absurd rfl (hrefused p hp)
  · rw [hp] at hq
    cases hq
    rw [step, hout] at hended ⊢
    have hlookup : publishers.publishers.lookup envelope.publisher =
        some (closeSession p other t) := by
      rw [hpub, FiniteMap.lookup_insert_eq, if_pos rfl]
    rw [submitEvidence_ok_iff hended hlookup hboot (List.ne_nil_of_mem hremains),
      eligible_ended (List.isEmpty_eq_false_iff.mpr (List.ne_nil_of_mem hremains))]

end Sibling

/-- In every state of every run, binding or ending another session of the incarnation leaves
it as it was whether a submission that carries a bound session is admitted, exactly when
the session is current both before and after or neither before nor after, or when the
submission is not eligible for another reason. -/
theorem sibling_keeps_admission_iff (options : ClassifierOptions) (ops : List Operation)
    (envelope : SessionEnvelope) (payload : EvidencePayload) (tick touchTick : Tick)
    (wall : UInt64) (p : PublisherRegistration) (op : Operation) (next : SessionId) :
    let c := run step (.new options) ops
    c.publishers.publishers.lookup envelope.publisher = some p →
    envelope.publisherBoot = p.boot → envelope.session ∈ p.liveSessions →
    Sibling c envelope.publisher p envelope.session op next →
    (((c.step op).submitEvidence envelope payload tick touchTick wall).1.isOk =
        (c.submitEvidence envelope payload tick touchTick wall).1.isOk ↔
      ((p.session = envelope.session ↔ next = envelope.session) ∨
        ¬ Eligible c envelope payload tick p)) := by
  intro c hp hboot hs hsibling
  have hstocked : Stocked c := stocked_run options ops
  have hbefore := @submitEvidence_ok_iff c envelope payload tick p hstocked hp hboot.symm
    (List.ne_nil_of_mem hs) touchTick wall
  rw [Bool.eq_iff_iff, hbefore]
  cases hsibling with
  | bound hother hok =>
    rw [admitted_after_bound hstocked hp hboot.symm hother hok]
    tauto
  | @ended other t hother hnamed =>
    have hcurrent : (closeSession p other t).session =
        if p.session = other then (p.liveSessions.filter (· ≠ other)).getLastD .none
          else p.session := by
      unfold closeSession
      simp [hnamed]
    rw [admitted_after_ended hstocked hp hboot.symm hs hother hnamed, hcurrent]
    tauto

def bindAgent (session : String) : Operation :=
  .registerPublisher (.make (text "agent")) 2 .declaredAuthenticated (.make (text session)) [] 2 0

def siblingEnvelope (session : String) : SessionEnvelope :=
  { sampleEnvelope with maxSource := .declaredAuthenticated, session := .make (text session) }

/-- Two sessions are bound, the second one is current, and the first one ends. -/
theorem sibling_keeps_admission_iff_sample :
    let c := run step (.new {}) [bindAgent "s1", bindAgent "s2"]
    ∃ p, c.publishers.publishers.lookup (.make (text "agent")) = some p ∧
      p.session = .make (text "s2") ∧
      ((c.step (.endPublisherSession (.make (text "agent")) p.boot (.make (text "s1"))
        3)).submitEvidence (siblingEnvelope "s2") (samplePayload .declaredAuthenticated 1) 4 4
          0).1.isOk =
        (c.submitEvidence (siblingEnvelope "s2") (samplePayload .declaredAuthenticated 1) 4 4
          0).1.isOk := by
  intro c
  obtain ⟨p, hp, hboot, hcurrent, hlisted⟩ : ∃ p,
      c.publishers.publishers.lookup (.make (text "agent")) = some p ∧ p.boot = 2 ∧
      p.session = .make (text "s2") ∧ .make (text "s2") ∈ p.liveSessions := by
    decide +kernel
  have hother : (.make (text "s1") : SessionId) ≠ .make (text "s2") := by decide
  refine ⟨p, hp, hcurrent, ?_⟩
  refine (sibling_keeps_admission_iff {} [bindAgent "s1", bindAgent "s2"] (siblingEnvelope "s2")
    (samplePayload .declaredAuthenticated 1) 4 4 0 p _ _ hp hboot.symm hlisted
    (.ended hother (by decide))).mpr (Or.inl ?_)
  rw [if_neg (hcurrent ▸ Ne.symm hother)]

/-- A second connection of the incarnation makes the first one's submissions be refused. -/
theorem second_session_deauthorises_first :
    let c := run step (.new {}) [bindAgent "s1"]
    (c.publishers.publishers.lookup (.make (text "agent"))).any (fun p =>
        p.boot = 2 ∧ .make (text "s1") ∈ p.liveSessions) = true ∧
      ((c.step (bindAgent "s2")).publishers.publishers.lookup (.make (text "agent"))).any (fun p =>
        p.boot = 2 ∧ .make (text "s1") ∈ p.liveSessions) = true ∧
      (c.submitEvidence (siblingEnvelope "s1") (samplePayload .declaredAuthenticated 1) 4 4
        0).1.isOk = true ∧
      ((c.step (bindAgent "s2")).submitEvidence (siblingEnvelope "s1")
        (samplePayload .declaredAuthenticated 1) 4 4 0).1.isOk = false := by
  decide +kernel

end Classifier
end FlowClassifier
