import FlowClassifier.Refusals

/-!
What the gate for heuristic evidence lets through. A submission whose effective source is
heuristic has to cite a port hint of an enabled adapter. The hint may be one for port zero,
which a submission cites that cites nothing, and what the adapter may claim is not compared
with the confidence that every heuristic record gets.
-/
namespace FlowClassifier

open Lib Foundation Evidence Flows Policies

namespace Classifier

/-- The binding names a hint that the policy declares for an enabled adapter. -/
def Cites (policy : ClassifierPolicy) (binding : UInt64) (a : HeuristicAdapterPolicy) : Prop :=
  a ∈ policy.heuristicAdapters ∧ a.enabled = true ∧
    ∃ hint ∈ policy.portHints, hint.adapter = a.name ∧
      (hint.transport.code, hint.port) = ClassifierPolicy.claimOf binding

theorem cites_of_findPortHint {policy : ClassifierPolicy} {binding : UInt64}
    (h : (policy.findPortHint (ClassifierPolicy.claimOf binding).1
      (ClassifierPolicy.claimOf binding).2).isSome = true) : ∃ a, Cites policy binding a := by
  obtain ⟨hint, hfound⟩ := Option.isSome_iff_exists.mp h
  unfold ClassifierPolicy.findPortHint at hfound
  split_ifs at hfound
  have huse := List.find?_some hfound
  simp only [Bool.and_eq_true, beq_iff_eq, ClassifierPolicy.heuristicEnabled] at huse
  obtain ⟨⟨htransport, hport⟩, -, henabled⟩ := huse
  cases hadapter : policy.heuristicAdapters.find? fun a => a.name == hint.adapter with
  | none => simp [hadapter] at henabled
  | some a =>
    rw [hadapter] at henabled
    refine ⟨a, List.mem_of_find?_eq_some hadapter, henabled, hint,
      List.mem_of_find?_eq_some hfound, ?_, Prod.ext htransport hport⟩
    have hname := List.find?_some hadapter
    exact (beq_iff_eq.mp hname).symm

/-- An accepted heuristic record cites a hint of an enabled adapter. Its port is nonzero and
its confidence within what such an adapter may claim exactly when the submission names a
nonzero port and a citing adapter may claim the confidence of every heuristic source. -/
theorem heuristic_gate {c : Classifier} {envelope : SessionEnvelope} {payload : EvidencePayload}
    {tick touchTick : Tick} {wall : UInt64} {outcome : EvidenceSubmissionOutcome}
    (hok : (c.submitEvidence envelope payload tick touchTick wall).1 = .ok outcome)
    (hsource : outcome.record.source = .heuristic) :
    (∃ a, Cites c.policy outcome.record.metadata.binding a) ∧
    ((ClassifierPolicy.claimOf outcome.record.metadata.binding).2 ≠ 0 ∧
        (∃ a, Cites c.policy outcome.record.metadata.binding a ∧
          outcome.record.confidence.basisPoints ≤ a.maxBasisPoints.toNat) ↔
      (ClassifierPolicy.claimOf payload.metadata.binding).2 ≠ 0 ∧
        ∃ a, Cites c.policy payload.metadata.binding a ∧ 2000 ≤ a.maxBasisPoints.toNat) := by
  have hadmitted : c.admitted envelope payload tick = some outcome.record := by
    have hsub := submission c envelope payload tick touchTick wall
    generalize c.submitEvidence envelope payload tick touchTick wall = out at hsub hok
    cases hsub <;> cases hok
    next hadmitted _ houtcome => rw [hadmitted, houtcome]
  obtain ⟨effective, hadmitting⟩ := admitted_iff.mp hadmitted
  rw [hadmitting.record] at hsource ⊢
  obtain rfl : effective = .heuristic := hsource
  have hpermitted := hadmitting.admissible.source
  rw [SourcePermitted, if_pos rfl] at hpermitted
  exact ⟨cites_of_findPortHint hpermitted.2.2, Iff.rfl⟩

def hintedPolicy (transport : TransportProtocol) (port : UInt16) (bound : UInt32) :
    ClassifierPolicy :=
  { generation := 1, allowHeuristicEvidence := true
    heuristicAdapters := [{ name := text "ports", enabled := true, maxBasisPoints := bound }]
    portHints := [{ transport := transport, port := port, adapter := text "ports" }] }

def hintedSubmission (policy : ClassifierPolicy) (binding : UInt64) :
    Result EvidenceSubmissionOutcome :=
  (submitEvidence (run step (.new { policy := policy }) [.registerPublisher (.make (text "agent")) 2
      .heuristic (.make (text "s1")) [] 2 0])
    sampleEnvelope { samplePayload .heuristic 1 with metadata := { binding := binding } } 3 3 0).1

/-- A hint for port zero is accepted and lets a submission through that cites nothing; an
adapter limited to a hundred basis points lets a record through that has two thousand. -/
theorem heuristic_gate_open :
    (ClassifierPolicy.canonicalize (hintedPolicy .unknown 0 2000)).isOk = true ∧
    (∃ outcome, hintedSubmission (hintedPolicy .unknown 0 2000) 0 = .ok outcome ∧
      outcome.record.source = .heuristic) ∧
    (ClassifierPolicy.canonicalize (hintedPolicy .tcp 443 100)).isOk = true ∧
    ∃ outcome, hintedSubmission (hintedPolicy .tcp 443 100) 0x101BB = .ok outcome ∧
      outcome.record.source = .heuristic ∧ outcome.record.confidence.basisPoints = 2000 := by
  decide +kernel

theorem heuristic_gate_hinted :
    ∃ outcome, hintedSubmission (hintedPolicy .tcp 443 2000) 0x101BB = .ok outcome ∧
      outcome.record.source = .heuristic ∧
      ∃ a, Cites (hintedPolicy .tcp 443 2000) outcome.record.metadata.binding a ∧
        outcome.record.confidence.basisPoints ≤ a.maxBasisPoints.toNat := by
  obtain ⟨outcome, hok, hsource⟩ : ∃ outcome, hintedSubmission (hintedPolicy .tcp 443 2000)
      0x101BB = .ok outcome ∧ outcome.record.source = .heuristic := by decide +kernel
  have hcites : Cites (hintedPolicy .tcp 443 2000) 0x101BB
      { name := text "ports", enabled := true } :=
    ⟨List.mem_cons_self, rfl, _, List.mem_cons_self, rfl, rfl⟩
  exact ⟨outcome, hok, hsource,
    ((heuristic_gate hok hsource).2.mpr ⟨by decide, _, hcites, by decide⟩).2⟩

end Classifier

end FlowClassifier
