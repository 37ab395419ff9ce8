import FlowClassifier.Acceptance

/-!
A peer cannot promote itself. The source of a record is the claim, cut down to the weaker
of the envelope's and the registration's ceiling, and everything else that gives a record
authority is taken from the envelope and from the classifier. A claim above the ceiling is
read once, when it is cut down, and once more for the notes of the answer.
-/
namespace FlowClassifier.Classifier

open Foundation Evidence Workloads Store

variable {claimed : EvidenceSource}

theorem rank_clampSource_le (claimed ceiling : EvidenceSource) :
    (clampSource claimed ceiling).rank ≤ ceiling.rank := by
  unfold clampSource
  split_ifs with hle
  · exact hle
  · exact le_refl _

theorem rank_ceiling_le (envelope : SessionEnvelope) (registration : PublisherRegistration) :
    (ceiling envelope registration).rank ≤ envelope.maxSource.rank ∧
      (ceiling envelope registration).rank ≤ registration.maxSource.rank := by
  unfold ceiling
  split_ifs with hlt
  · exact ⟨le_refl _, hlt.le⟩
  · exact ⟨not_lt.mp hlt, le_refl _⟩

theorem clampSource_of_le {ceiling : EvidenceSource} (h : ceiling.rank ≤ claimed.rank) :
    clampSource claimed ceiling = ceiling := by
  unfold clampSource
  split_ifs with hle
  · exact EvidenceSource.rank_injective (le_antisymm hle h)
  · rfl

/-- What gives the record authority, and where it comes from. -/
structure Sourced (c : Classifier) (envelope : SessionEnvelope)
    (registration : PublisherRegistration) (r : EvidenceRecord) : Prop where
  underEnvelope : r.source.rank ≤ envelope.maxSource.rank
  underRegistration : r.source.rank ≤ registration.maxSource.rank
  confidence : r.confidence = r.source.confidence
  publisher : r.publisher = envelope.publisher
  boot : r.publisherBoot = envelope.publisherBoot
  session : r.session = envelope.session
  epoch : r.acceptedEpoch = c.epoch
  coordinatorBoot : r.acceptedBoot = c.coordinatorBoot

section Submission

variable {c : Classifier} {envelope : SessionEnvelope} {payload : EvidencePayload}
  {tick touchTick : Tick} {wall : UInt64}

theorem sourced_of_accepted {outcome : EvidenceSubmissionOutcome} {c' : Classifier}
    (h : c.submitEvidence envelope payload tick touchTick wall = (.ok outcome, c')) :
    ∃ registration, c.publishers.publishers.lookup envelope.publisher = some registration ∧
      Sourced c envelope registration outcome.record := by
  have hsubmission := submission c envelope payload tick touchTick wall
  rw [h] at hsubmission
  cases hsubmission with
  | accepted hchecks hflow hgeneration hsequence hrecord hsupersede hadmitted hinsert houtcome =>
    obtain ⟨registration, henvelope, heffective⟩ := (admissible_ok_iff.mp hchecks).session
    obtain ⟨hunder, hunder'⟩ := rank_ceiling_le envelope registration
    have hle := rank_clampSource_le payload.claimedSource (ceiling envelope registration)
    rw [← heffective] at hle
    refine ⟨registration, henvelope.registered, ?_⟩
    rw [houtcome, hrecord]
    exact ⟨hle.trans hunder, hle.trans hunder', rfl, rfl, rfl, rfl, rfl, rfl⟩

def ClaimsCeiling (c : Classifier) (envelope : SessionEnvelope) (claimed : EvidenceSource) :
    Prop :=
  ∀ registration, c.publishers.publishers.lookup envelope.publisher = some registration →
    (ceiling envelope registration).rank ≤ claimed.rank

def withClaim (payload : EvidencePayload) (claimed : EvidenceSource) : EvidencePayload :=
  { payload with claimedSource := claimed }

def withoutNotes (outcome : EvidenceSubmissionOutcome) : EvidenceSubmissionOutcome :=
  { outcome with notes := [] }

/-- The answers agree but for the notes, and the states agree. -/
def SameButNotes (a b : Result EvidenceSubmissionOutcome × Classifier) : Prop :=
  a.1.map withoutNotes = b.1.map withoutNotes ∧ a.2 = b.2

/-- Both claims are cut down to the same ceiling. -/
theorem admissible_withClaim (hpayload : ClaimsCeiling c envelope payload.claimedSource)
    (hclaimed : ClaimsCeiling c envelope claimed) :
    c.admissible envelope (withClaim payload claimed) = c.admissible envelope payload := by
  cases hchecked : c.checkEnvelope envelope with
  | error e => simp only [admissible, hchecked]; rfl
  | ok registration =>
    have hregistered := (checkEnvelope_ok_iff.mp hchecked).registered
    have hclamped : clampSource claimed (ceiling envelope registration) =
        clampSource payload.claimedSource (ceiling envelope registration) := by
      rw [clampSource_of_le (hclaimed _ hregistered), clampSource_of_le (hpayload _ hregistered)]
    simp only [admissible, hchecked, withClaim]
    show (do
      let effective := clampSource claimed (ceiling envelope registration)
      checkSource c.policy effective payload.metadata
      _) = _
    rw [hclamped]
    rfl

/-- After the checks the claim is read for the notes alone. -/
theorem sameButNotes_admitEvidence
    (h : c.admissible envelope (withClaim payload claimed) = c.admissible envelope payload) :
    SameButNotes (c.admitEvidence envelope (withClaim payload claimed) tick)
      (c.admitEvidence envelope payload tick) := by
  unfold admitEvidence
  rw [h]
  cases c.admissible envelope payload with
  | error e => exact ⟨rfl, rfl⟩
  | ok effective =>
    dsimp only [withClaim]
    rcases c.refreshFlow payload.flowKey payload.flowGeneration envelope.session tick with
      ⟨_ | flow, c₁⟩
    · exact ⟨rfl, rfl⟩
    · dsimp only
      rcases c₁.publishers.observeEvidenceGeneration envelope.publisher envelope.publisherBoot
        payload.evidenceGeneration with ⟨_ | _, publishers⟩
      · exact ⟨rfl, rfl⟩
      · dsimp only
        cases c₁.sequence.next with
        | error e => exact ⟨rfl, rfl⟩
        | ok sequence => exact ⟨rfl, rfl⟩

theorem sameButNotes_submitEvidence
    (h : SameButNotes (c.admitEvidence envelope (withClaim payload claimed) tick)
      (c.admitEvidence envelope payload tick)) :
    SameButNotes (c.submitEvidence envelope (withClaim payload claimed) tick touchTick wall)
      (c.submitEvidence envelope payload tick touchTick wall) := by
  unfold submitEvidence
  generalize c.admitEvidence envelope (withClaim payload claimed) tick = left at h
  generalize c.admitEvidence envelope payload tick = right at h
  obtain ⟨e | outcome, c₁⟩ := left <;> obtain ⟨e' | outcome', c₁'⟩ := right
  · obtain ⟨hresult, rfl⟩ := h
    cases hresult
    exact ⟨rfl, rfl⟩
  · cases h.1
  · cases h.1
  · obtain ⟨hresult, rfl⟩ := h
    -- nothing but the notes of the two outcomes can differ
    obtain ⟨record, accepted, superseded, supersededId, fenced, previous, effective, notes⟩ :=
      outcome
    obtain ⟨record', accepted', superseded', supersededId', fenced', previous', effective',
      notes'⟩ := outcome'
    cases hresult
    dsimp only
    rcases c₁.evidence.insert record with ⟨_ | _, evidence⟩
    · exact ⟨rfl, rfl⟩
    · exact ⟨rfl, rfl⟩

/-- In a run without collisions the store holds the record under its identity. -/
theorem stored_of_accepted {scope : HashScope} (hruns : Runs scope c)
    (hmints : Mints scope c (.submitEvidence envelope payload tick touchTick wall))
    {outcome : EvidenceSubmissionOutcome} {c' : Classifier}
    (h : c.submitEvidence envelope payload tick touchTick wall = (.ok outcome, c')) :
    c'.evidence.byId.lookup outcome.record.id = some outcome.record := by
  obtain ⟨c₂, evidence, hadmitted, hadmits, hinsert, rfl, -⟩ := submitEvidence_ok h
  have hnone := (hruns.numbered.unknown hadmits (hmints.material _ hadmitted)).2
  exact EvidenceStore.lookup_of_insert hnone hinsert

/-- An accepted record is at most what the session is entitled to, whatever was claimed, and
a claim above the ceiling makes no difference but for the notes. -/
theorem no_self_promotion (c : Classifier) (envelope : SessionEnvelope)
    (payload : EvidencePayload) (tick touchTick : Tick) (wall : UInt64) :
    (∀ outcome c', c.submitEvidence envelope payload tick touchTick wall = (.ok outcome, c') →
      (∃ registration, c.publishers.publishers.lookup envelope.publisher = some registration ∧
        Sourced c envelope registration outcome.record) ∧
      ∀ scope, Runs scope c →
        Mints scope c (.submitEvidence envelope payload tick touchTick wall) →
        c'.evidence.byId.lookup outcome.record.id = some outcome.record) ∧
    ∀ claimed, ClaimsCeiling c envelope payload.claimedSource →
      ClaimsCeiling c envelope claimed →
      SameButNotes (c.submitEvidence envelope (withClaim payload claimed) tick touchTick wall)
        (c.submitEvidence envelope payload tick touchTick wall) := by
  refine ⟨fun outcome c' hok => ⟨sourced_of_accepted hok, ?_⟩, fun claimed hpayload hclaimed => ?_⟩
  · exact fun scope hruns hmints => stored_of_accepted hruns hmints hok
  · exact sameButNotes_submitEvidence
      (sameButNotes_admitEvidence (admissible_withClaim hpayload hclaimed))

end Submission

def cappedEnvelope : SessionEnvelope :=
  { resumedEnvelope with maxSource := .coordinatorCorrelated }

theorem no_self_promotion_sample :
    let payload := citingPayload (text "c-a") 2
    let submitted := servingAgain.submitEvidence cappedEnvelope payload 3 3 0
    (∃ outcome c', submitted = (.ok outcome, c') ∧
        outcome.record.source.rank ≤ EvidenceSource.coordinatorCorrelated.rank ∧
        c'.evidence.byId.lookup outcome.record.id = some outcome.record) ∧
      SameButNotes
        (servingAgain.submitEvidence cappedEnvelope (withClaim payload .contractDerived) 3 3 0)
        submitted := by
  intro payload submitted
  have hscope : ∀ m ∈ materials servingAgain (.submitEvidence cappedEnvelope payload 3 3 0),
      m ∈ materials servingAgain (cite (text "c-a") 2) := by decide +kernel
  have hmints : Mints acceptanceScope servingAgain
      (.submitEvidence cappedEnvelope payload 3 3 0) :=
    mints_of_materials nofun fun m hm => List.mem_append_right _ (hscope m hm)
  have hregistered : ∀ claimed : EvidenceSource, 3 ≤ claimed.rank →
      ClaimsCeiling servingAgain cappedEnvelope claimed := by
    intro claimed hclaimed registration _
    exact (rank_ceiling_le cappedEnvelope registration).1.trans hclaimed
  obtain ⟨haccepted, hsame⟩ := no_self_promotion servingAgain cappedEnvelope payload 3 3 0
  refine ⟨?_, hsame .contractDerived (hregistered _ (by decide)) (hregistered _ (by decide))⟩
  obtain ⟨outcome, c', hsubmitted⟩ := exists_ok_pair (by decide +kernel : submitted.1.isOk = true)
  obtain ⟨⟨registration, -, hsourced⟩, hstored⟩ := haccepted outcome _ hsubmitted
  exact ⟨outcome, _, hsubmitted, hsourced.underEnvelope, hstored _ runs_servingAgain hmints⟩

end FlowClassifier.Classifier
