import FlowClassifier.Codec.MessageRoundTrips
import FlowClassifier.Explanations
import FlowClassifier.Runtime.Successors

/-!
What peers can do to an explanation. The texts of a request are decoded as they come; the
reason of a publication is refused when it has a control character, but it is not shown
anyway. The reason of a withdrawal is shown as the detail of a citation and is not
checked. While no withdrawal brings a line break, no explanation has a line of a peer's
making, over restarts too: a file that the coordinator wrote holds the reasons it had.
-/
namespace FlowClassifier

open Lib Foundation Buffers Flows Classifications Codec Coordinator Classifier

namespace System

def PlainFile (options : CoordinatorOptions) (file : Option Bytes) : Prop :=
  ∀ data snapshot, file = some data → decodeSnapshot options.snapshotLimits data = .ok snapshot →
    ∀ r ∈ snapshot.state.evidence, OneLine r.stateReason

/-- A withdrawal that arrives brings a reason of one line. -/
def PlainReason (s : System) : Event → Prop
  | .frame _ frame _ => frame.kind = .withdrawEvidence →
      ∀ request, decodeWithdrawEvidence s.coordinator.codecLimits frame.payload = .ok request →
        OneLine request.reason
  | _ => True

structure Plain (s : System) : Prop where
  classifier : s.coordinator.classifier.Plain
  filed : s.coordinator.classifier.Filed
  file : PlainFile s.coordinator.options s.coordinator.file

theorem plainCall_operation {co : Coordinator} {key : Bytes} {session : CoordinatorSession}
    {frame : Frame} {env : Readings} {op : Operation} (hreason : frame.kind = .withdrawEvidence →
      ∀ request, decodeWithdrawEvidence co.codecLimits frame.payload = .ok request →
        OneLine request.reason)
    (h : co.operation key session frame env = some op) : PlainCall op := by
  by_cases hkind : frame.kind = .withdrawEvidence
  · unfold operation at h
    rw [hkind] at h
    obtain ⟨envelope, request, -, hdecoded, rfl⟩ := scopedOperation_eq_some h
    exact hreason hkind request hdecoded
  · cases asks_of_operation key h with
    | withdrawEvidence hwithdraw => exact absurd hwithdraw hkind
    | _ => trivial

theorem plainCall_operations {s : System} {e : Event} (h : s.Plain) (he : s.PlainReason e) :
    ∀ op ∈ s.operations e, PlainCall op := by
  intro op hop
  cases e with
  | frame key frame env =>
    have hhandled := Option.mem_toList.mp hop
    unfold handledOperation at hhandled
    split_ifs at hhandled
    exact plainCall_operation he hhandled
  | close key env =>
    unfold operations asked Coordinator.operations at hop
    dsimp only at hop
    split_ifs at hop
    · rw [List.mem_singleton.mp hop]
      trivial
    · cases hop
  | start boot env =>
    rcases mem_startOperations hop with ⟨policy, rfl⟩ | ⟨data, snapshot, hfile, hdecoded, rfl⟩ | rfl
    · trivial
    · exact h.file data snapshot hfile hdecoded
    · trivial
  | stop => cases hop
  | persist => cases hop

theorem plain_step {s : System} {e : Event} (h : s.Plain) (he : s.PlainReason e) :
    (s.step e).Plain := by
  have hcalls := plainCall_operations h he
  have hplain : (s.step e).coordinator.classifier.Plain := by
    rw [step_classifier]
    refine List.foldlRecOn (motive := Classifier.Plain) _ _ h.classifier ?_
    exact fun c hc op hop => Classifier.plain_step hc (hcalls op hop)
  have hfiled := filed_step s e h.filed
  refine ⟨hplain, hfiled, ?_⟩
  rw [step_coordinator] at hplain hfiled ⊢
  obtain ⟨hoptions, hsame | ⟨writtenAt, written, hencoded, hfile⟩⟩ :=
    s.coordinator.call_saves (s.asked e)
  · rw [hoptions, hsame]
    exact h.file
  · rw [hoptions, hfile]
    intro data snapshot hdata hdecoded r hr
    cases hdata
    rw [eq_of_decodeSnapshot rfl rfl hfiled.recomputed hencoded hdecoded] at hr
    obtain ⟨id, hid⟩ := FiniteMap.mem_sorted_values.mp hr
    exact hplain.evidence id r hid

/-- **Line integrity.** In every run whose withdrawals bring reasons of one line, on a file
whose reasons are on one line, the lines of every explanation are counted by its citations,
its contradictions and its state. -/
theorem explanation_lines_fixed (options : CoordinatorOptions) (file : Option Bytes)
    (hfile : PlainFile options file) (events : List Event)
    (hreasons : Along step PlainReason (new options file) events) :
    EveryExplanation (fun _ => True) (run step (new options file) events).coordinator.classifier
      fun query _ result => LinesFixed query result := by
  have hnew : (new options file).Plain := ⟨Classifier.plain_new _, filed_new _, hfile⟩
  have hstep : ∀ s e, PlainReason s e → s.Plain → (s.step e).Plain :=
    fun _ _ he hs => plain_step hs he
  exact linesFixed_everyExplanation (run_invariant step hstep hnew hreasons).classifier

def withdrawal (reason : Bytes) : Frame :=
  let evidence := mintEvidenceId (evidenceMaterial (.make (text "agent")) 2 [] 1
    (deriveFlowId sampleKey) 1)
  ⟨.withdrawEvidence, 2, (encodeWithdrawEvidence { evidence, reason }).flatten⟩

def withdrawingEvents (reason : Bytes) : List Event :=
  publishingEvents ++ [.frame sampleConnection (withdrawal reason) {}]

def explainedAfter (reason : Bytes) : Option ClassificationResult :=
  ((run step (new {} none) (withdrawingEvents reason)).coordinator.classifier.classify
    { flowKey := sampleKey, explain := true } 2).1.toOption

def shape (result : ClassificationResult) : (ℕ × ℕ × ClassificationState) × ℕ :=
  ((result.classification.citations.length, result.classification.contradictions.length,
    result.classification.state), lineCount result.explanation)

theorem shape_done : (explainedAfter (text "done")).map shape = some ((1, 0, .stale), 15) := by
  decide +kernel

/-- A withdrawal that can be read brings the reason that was sent. -/
theorem reason_of_withdrawal {limits : CodecLimits} {sent request : WithdrawEvidenceRequest}
    (hlen : sent.reason.length ≤ 65536)
    (h : decodeWithdrawEvidence limits (encodeWithdrawEvidence sent).flatten = .ok request) :
    request.reason = sent.reason := by
  have hid := sent.evidence.length_le
  have hbound : (encodeWithdrawEvidence sent).flatten.length < wireBound := by
    simp only [encodeWithdrawEvidence, List.flatten_cons, List.flatten_nil, List.length_append,
      length_blobBytes, List.length_nil]
    unfold maxIdentityBytes at hid
    unfold wireBound
    omega
  obtain ⟨hok, hbad⟩ := decodeAll_iff (@decodes_withdrawEvidence limits sent) hbound
  by_cases hreadable : limits.Holds sent.evidence.value ∧ sent.evidence.isEmpty = false ∧
      limits.HoldsLong sent.reason
  · rw [decodeWithdrawEvidence, hok hreadable] at h
    cases h
    rfl
  · obtain ⟨e, he⟩ := hbad hreadable
    rw [decodeWithdrawEvidence, he] at h
    cases h

theorem explanation_lines_fixed_sample :
    ∃ result, explainedAfter (text "done") = some result ∧
      lineCount result.explanation = Engine.explanationLines
        result.classification.citations.length result.classification.contradictions.length
        result.classification.state := by
  obtain ⟨result, hresult, -⟩ := Option.map_eq_some_iff.mp shape_done
  have hfile : PlainFile {} none := fun _ _ hdata => by cases hdata
  have hreasons : Along step PlainReason (new {} none) (withdrawingEvents (text "done")) := by
    refine ⟨trivial, fun hkind => ?_, fun hkind => ?_, fun hkind => ?_, fun _ request h => ?_,
      trivial⟩
    · cases hkind
    · cases hkind
    · cases hkind
    · rw [reason_of_withdrawal (by decide) h]
      decide
  refine ⟨result, hresult, ?_⟩
  have hanswer := (explanation_lines_fixed {} none hfile _ hreasons).1.1
    { flowKey := sampleKey, explain := true } 2 trivial result
  unfold explainedAfter at hresult
  generalize Classifier.classify _ _ 2 = answered at hresult hanswer
  obtain ⟨_ | found, d⟩ := answered
  · cases hresult
  · cases hresult
    exact hanswer rfl rfl

/-- Two withdrawals that differ in their reasons only. The answers have the same number of
citations, no contradictions and the same state, and the second explanation has one more
line, which reads like one of the coordinator's. -/
theorem withdrawal_reason_adds_line :
    ∃ plain broken, explainedAfter (text "done") = some plain ∧
      explainedAfter (text "done\n  state CURRENT") = some broken ∧
      (shape broken).1 = (shape plain).1 ∧
      lineCount broken.explanation = lineCount plain.explanation + 1 := by
  have hbroken : (explainedAfter (text "done\n  state CURRENT")).map shape =
      some ((1, 0, .stale), 16) := by
    decide +kernel
  obtain ⟨plain, hp, hshape⟩ := Option.map_eq_some_iff.mp shape_done
  obtain ⟨broken, hb, hshape'⟩ := Option.map_eq_some_iff.mp hbroken
  refine ⟨plain, broken, hp, hb, ?_, ?_⟩
  · rw [hshape, hshape']
  · have hlines := congrArg Prod.snd hshape
    have hlines' := congrArg Prod.snd hshape'
    simp only [shape] at hlines hlines'
    omega

end System

end FlowClassifier
