import FlowClassifier.MemoTransparency

/-!
Freshness deadlines. A record is stale after the tick at which it was accepted plus its
window, and the engine reads a deadline of zero as no deadline. Both places that compute a
deadline add 64-bit numbers, so a sum of 2^64 becomes no deadline and a larger sum becomes
a deadline that lies before the acceptance.
-/
namespace FlowClassifier.Freshness

open Lib Foundation Evidence Policies Workloads Engine DecisionSpec EngineCorrect Classifier

variable {r : EvidenceRecord} {t : Tick} {w : UInt64}

theorem expired_iff (h : r.freshUntil = t + w) (tick : Tick) : Expired r tick ↔
      (t.toNat + w.toNat) % 2 ^ 64 ≠ 0 ∧ (t.toNat + w.toNat) % 2 ^ 64 < tick.toNat := by
  have hzero : ∀ a : UInt64, a ≠ tickNone ↔ a.toNat ≠ 0 := by
    intro a
    rw [Ne, Ne, ← UInt64.toNat_inj]
    rfl
  rw [Expired, h, hzero, hzero, UInt64.lt_iff_toNat_lt, UInt64.toNat_add]
  omega

/-- The sum of tick and window at which a deadline can be met and is kept. -/
def Representable (t : Tick) (w : UInt64) : Prop :=
  0 < t.toNat + w.toNat ∧ t.toNat + w.toNat ≤ 2 ^ 64

theorem not_expired_at_acceptance_iff
    (h : r.freshUntil = t + w) : ¬ Expired r t ↔ t.toNat + w.toNat ≤ 2 ^ 64 := by
  have ht := t.toNat_lt
  have hw := w.toNat_lt
  rw [expired_iff h]
  omega

def windowOf (policy : ClassifierPolicy) (payload : EvidencePayload) : UInt64 :=
  if payload.freshnessWindow ≠ 0 then payload.freshnessWindow else policy.defaultFreshnessWindow

def AcceptedAt (t : Tick) (w : UInt64) (r : EvidenceRecord) : Prop :=
  ∃ (c : Classifier) (envelope : SessionEnvelope) (payload : EvidencePayload) (touchTick : Tick)
    (wall : UInt64) (outcome : EvidenceSubmissionOutcome),
    (c.submitEvidence envelope payload t touchTick wall).1 = .ok outcome ∧
      outcome.record = r ∧ windowOf c.policy payload = w

theorem AcceptedAt.freshUntil (h : AcceptedAt t w r) : r.freshUntil = t + w := by
  obtain ⟨c, envelope, payload, touchTick, wall, outcome, hok, rfl, rfl⟩ := h
  have hsubmission := submission c envelope payload t touchTick wall
  generalize hout : c.submitEvidence envelope payload t touchTick wall = out at hok hsubmission
  cases hsubmission with
  | accepted hchecks hflow hgeneration hsequence hrecord hsupersede hadmitted hinsert houtcome =>
    cases hok
    rw [houtcome, hrecord]
    rfl
  | _ => cases hok

/-- What a window means for the record that is accepted with it. -/
structure KeepsWindow (t : Tick) (w : UInt64) (r : EvidenceRecord) : Prop where
  accepted : ¬ Expired r t
  throughout : ∀ tick : Tick, tick.toNat ≤ t.toNat + w.toNat → ¬ Expired r tick
  /-- A record that is accepted with a shorter window expires no later. -/
  monotone : ∀ (v : UInt64) (q : EvidenceRecord), AcceptedAt t v q → v ≠ 0 → v ≤ w →
    ∀ tick, Expired r tick → Expired q tick
  expires : t.toNat + w.toNat < 2 ^ 64 - 1 → ∃ tick, Expired r tick

theorem keepsWindow_of_representable
    (hr : AcceptedAt t w r) (h : Representable t w) : KeepsWindow t w r := by
  obtain ⟨hpos, hle⟩ := h
  refine ⟨?_, fun tick htick => ?_, fun v q hq hv hvw tick htick => ?_, fun hlt => ?_⟩
  · exact (not_expired_at_acceptance_iff hr.freshUntil).mpr hle
  · have hbound := tick.toNat_lt
    rw [expired_iff hr.freshUntil]
    omega
  · have hv' : v.toNat ≠ 0 := fun hzero => hv (UInt64.toNat_inj.mp hzero)
    have hvw' : v.toNat ≤ w.toNat := UInt64.le_iff_toNat_le.mp hvw
    rw [expired_iff hr.freshUntil] at htick
    rw [expired_iff hq.freshUntil]
    omega
  · have hnext : (UInt64.ofNat (t.toNat + w.toNat + 1)).toNat = t.toNat + w.toNat + 1 :=
      UInt64.toNat_ofNat_of_lt' (by unfold UInt64.size; omega)
    refine ⟨UInt64.ofNat (t.toNat + w.toNat + 1), ?_⟩
    rw [expired_iff hr.freshUntil, hnext]
    omega

theorem keepsWindow_iff (hr : AcceptedAt t w r) : KeepsWindow t w r ↔ Representable t w := by
  refine ⟨fun h => ⟨?_, (not_expired_at_acceptance_iff hr.freshUntil).mp h.accepted⟩,
    keepsWindow_of_representable hr⟩
  by_contra hzero
  obtain ⟨tick, htick⟩ := h.expires (by omega)
  rw [expired_iff hr.freshUntil] at htick
  omega

theorem derived_fresh_iff (input : DecisionInput) (k : WorkloadContract) :
    ¬ Expired (derived input k) input.authority.tick ↔
      input.authority.tick.toNat + (freshnessWindow input).toNat ≤ 2 ^ 64 := by
  by_cases hnone : input.authority.tick = tickNone
  · have hw := (freshnessWindow input).toNat_lt
    have hzero : input.authority.tick.toNat = 0 := by rw [hnone]; rfl
    refine ⟨fun _ => by omega, fun _ h => h.1 hnone⟩
  · have hdeadline : (derived input k).freshUntil =
        input.authority.tick + freshnessWindow input := if_neg hnone
    exact not_expired_at_acceptance_iff hdeadline

/-- An accepted record keeps its window, and a record derived from a contract is fresh in
the decision that derives it, exactly when the tick and the window add up to at most 2^64. -/
theorem freshness_iff (t : Tick) (w : UInt64) (r : EvidenceRecord) (input : DecisionInput)
    (k : WorkloadContract) :
    (AcceptedAt t w r → (KeepsWindow t w r ↔ Representable t w)) ∧
      (contractApplies input k = true →
        (¬ Expired (derived input k) input.authority.tick ↔
          input.authority.tick.toNat + (freshnessWindow input).toNat ≤ 2 ^ 64)) :=
  ⟨fun hr => keepsWindow_iff hr, fun _ => derived_fresh_iff input k⟩

def registered : Classifier :=
  run step (.new {})
    [.registerPublisher (.make (text "agent")) 2 .declaredAuthenticated (.make (text "s1")) [] 2 0]

def submitWithWindow (w : UInt64) : Result EvidenceSubmissionOutcome :=
  (registered.submitEvidence { sampleEnvelope with maxSource := .declaredAuthenticated }
    { samplePayload .declaredAuthenticated 1 with freshnessWindow := w } 5 5 0).1

theorem acceptedAt_of_submitWithWindow (hw : w ≠ 0)
    (h : (submitWithWindow w).toBool = true) : ∃ r, AcceptedAt 5 w r := by
  cases hok : submitWithWindow w with
  | error e => simp [hok, Except.toBool] at h
  | ok outcome => exact ⟨outcome.record, registered, _, _, 5, 0, outcome, hok, rfl, if_pos hw⟩

def inputWithWindow (w : UInt64) : DecisionInput :=
  { sampleInput with policy := { sampleInput.policy with defaultFreshnessWindow := w } }

theorem freshness_sample :
    ∃ r k, AcceptedAt 5 4096 r ∧ KeepsWindow 5 4096 r ∧
      contractApplies (inputWithWindow 4096) k = true ∧
      ¬ Expired (derived (inputWithWindow 4096) k) (inputWithWindow 4096).authority.tick := by
  obtain ⟨r, hr⟩ := acceptedAt_of_submitWithWindow (w := 4096) (by decide) (by decide +kernel)
  obtain ⟨k, -, hk⟩ : ∃ k ∈ (inputWithWindow 4096).activeContracts,
      contractApplies (inputWithWindow 4096) k = true := by
    decide +kernel
  obtain ⟨hkeeps, hfresh⟩ := freshness_iff 5 4096 r (inputWithWindow 4096) k
  exact ⟨r, k, hr, (hkeeps hr).mpr ⟨by decide, by decide⟩, hk, (hfresh hk).mpr (by decide)⟩

/-- The longest window ends before it begins, for a submission and under a policy. -/
theorem longest_window_expired :
    (∃ r, AcceptedAt 5 18446744073709551615 r ∧ Expired r 5) ∧
      (inputWithWindow 18446744073709551615).policy.canonicalize.toBool = true ∧
      ∃ k, contractApplies (inputWithWindow 18446744073709551615) k = true ∧
        Expired (derived (inputWithWindow 18446744073709551615) k)
          (inputWithWindow 18446744073709551615).authority.tick := by
  obtain ⟨r, hr⟩ := acceptedAt_of_submitWithWindow (w := 18446744073709551615) (by decide)
    (by decide +kernel)
  refine ⟨⟨r, hr, ?_⟩, by decide +kernel, ?_⟩
  · rw [expired_iff hr.freshUntil]
    decide
  · obtain ⟨k, -, hk⟩ : ∃ k ∈ (inputWithWindow 18446744073709551615).activeContracts,
        contractApplies (inputWithWindow 18446744073709551615) k = true ∧
          Expired (derived (inputWithWindow 18446744073709551615) k)
            (inputWithWindow 18446744073709551615).authority.tick := by
      decide +kernel
    exact ⟨k, hk⟩

end FlowClassifier.Freshness
