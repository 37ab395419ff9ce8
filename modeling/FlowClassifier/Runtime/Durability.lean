import FlowClassifier.Runtime.ExplanationLines

/-!
What an answer says about the state file. A handler that commits replaces the file before
it answers, so an answer that is no error finds the image of the new state there. The
registration of a flow, the revocation of a generation and the heartbeat change records
too, and are answered without a commit. A start on the file then holds the state if its
image can be read back and has room; a text may be longer in a request than in a file.
-/
namespace FlowClassifier

open Lib Foundation Flows Evidence Workloads Policies Classifications Codec Coordinator Classifier

/-- The records of a durable state. The classifications are derived from them and the
memo of the answers is not counted. -/
structure DurableRecords where
  publishers : List PublisherRecord
  workloads : List WorkloadRecord
  contracts : List WorkloadContract
  flows : List FlowRecord
  evidence : List EvidenceRecord
  revocations : List RevocationRecord
  supersessions : List SupersessionRecord

def DurableState.records (state : DurableState) : DurableRecords where
  publishers := state.publishers
  workloads := state.workloads
  contracts := state.contracts
  flows := state.flows
  evidence := state.evidence
  revocations := state.revocations
  supersessions := state.supersessions

theorem Classifier.Answered.records {c c' : Classifier} (h : Classifier.Answered c c') :
    c'.durableState.records = c.durableState.records := by
  unfold DurableState.records Classifier.durableState Store.FlowRegistry.snapshotFlows
  dsimp only
  rw [h.publishers, h.workloads, h.current, h.evidence, h.log.revocations, h.log.supersessions]

namespace Coordinator

/-- The kinds whose handlers answer without a commit although they change records. -/
def Uncommitted (kind : MessageKind) : Prop :=
  kind = .registerFlow ∨ kind = .revokeGeneration ∨ kind = .heartbeat

variable {co : Coordinator} {key : Bytes} {session : CoordinatorSession} {frame : Frame}
  {env : Readings} {response : CoordinatorResponse}

theorem imaged_commit {r : Reply} (hpersist : co.options.persistOnMutation = true)
    (h : ¬ IsError (co.commit r env).1) : (co.commit r env).2.Imaged := by
  have hpersisted := @imaged_persist co env
  unfold commit at h ⊢
  split at h
  next e _ => exact absurd (isError_error e) h
  next payload _ =>
    rw [if_pos hpersist] at h ⊢
    split at h
    next e co' _ => exact absurd (isError_refuse co' e) h
    next co' hout =>
      rw [hout] at hpersisted
      exact hpersisted rfl

theorem imaged_publisherScoped {ρ : Type} {decode : CodecLimits → Bytes → Result ρ}
    {call : SessionEnvelope → ρ → Result Reply × Classifier}
    (hpersist : co.options.persistOnMutation = true)
    (h : ¬ IsError (co.publisherScoped session frame env decode call true).1) :
    (co.publisherScoped session frame env decode call true).2.Imaged := by
  rcases publisherScoped_cases decode call true with herror | ⟨_, _, r, classifier, -, -, -, hout⟩
  · exact absurd herror h
  · rw [hout, if_pos rfl] at h ⊢
    exact imaged_commit hpersist h

theorem imaged_handleRegisterPublisher (hpersist : co.options.persistOnMutation = true)
    (h : ¬ IsError (co.handleRegisterPublisher key session frame env).1.1) :
    (co.handleRegisterPublisher key session frame env).1.2.Imaged := by
  have houtcome : RegisterOutcome co key session frame env _ := registerOutcome key
  generalize co.handleRegisterPublisher key session frame env = out at h houtcome ⊢
  cases houtcome with
  | unread => exact absurd (isError_makeErrorResponse _ _) h
  | refused => exact absurd (isError_refuse _ _) h
  | accepted => exact imaged_commit hpersist h

theorem records_handleClassify :
    (co.handleClassify session frame env).2.classifier.durableState.records =
      co.classifier.durableState.records := by
  rw [handleClassify_classifier]
  cases hop : co.classifyOperation session frame env with
  | none => rfl
  | some op =>
    unfold classifyOperation at hop
    split at hop
    · cases hop
    · split at hop
      · cases hop
      · cases hop
        exact (Classifier.answered_classifyBatch _ _).records

/-- An answer that is no error is given on the image of the state, or nothing has changed. -/
theorem imaged_dispatch (hpersist : co.options.persistOnMutation = true)
    (hkind : ¬ Uncommitted frame.kind) (h : ¬ IsError (co.dispatch key session frame env).1.1) :
    (co.dispatch key session frame env).1.2.Imaged ∨
      (co.dispatch key session frame env).1.2.classifier.durableState.records =
        co.classifier.durableState.records := by
  unfold Uncommitted at hkind
  unfold dispatch at h ⊢
  cases hframe : frame.kind with
  | registerFlow => exact absurd (Or.inl hframe) hkind
  | revokeGeneration => exact absurd (Or.inr (Or.inl hframe)) hkind
  | heartbeat => exact absurd (Or.inr (Or.inr hframe)) hkind
  | hello => exact Or.inr (by rw [handleHello_classifier])
  | statsRequest => exact Or.inr (by rw [handleStats_classifier])
  | classify => exact Or.inr records_handleClassify
  | registerPublisher =>
    rw [hframe] at h
    exact Or.inl (imaged_handleRegisterPublisher hpersist h)
  | declareWorkload | proposeContract | activateContract | retireContract | publishEvidence
  | withdrawEvidence =>
    rw [hframe] at h
    exact Or.inl (imaged_publisherScoped hpersist h)
  | helloAck | classifyResult | statsResponse | errorResponse | declareWorkloadResult
  | contractResult | registerFlowResult | publishEvidenceResult | withdrawResult =>
    rw [hframe] at h
    exact absurd (isError_reject co _) h

theorem imaged_handle (hpersist : co.options.persistOnMutation = true)
    (hkind : ¬ Uncommitted frame.kind)
    (hanswer : (co.handle key session frame env).1.1 = .ok response)
    (hresponse : response.kind ≠ .errorResponse) : (co.handle key session frame env).1.2.Imaged ∨
      (co.handle key session frame env).1.2.classifier.durableState.records =
        co.classifier.durableState.records := by
  have h : ¬ IsError (co.handle key session frame env).1.1 :=
    fun herror => hresponse (herror response hanswer)
  unfold handle at h ⊢
  split_ifs with hidle
  · exact Or.inr rfl
  · rw [if_neg hidle] at h
    have hcounted : co.countMessage.options.persistOnMutation = true := hpersist
    exact imaged_dispatch hcounted hkind h

end Coordinator

namespace System

section Acknowledged

variable {options : CoordinatorOptions} {file : Option Bytes} {events : List Event} {key : Bytes}
  {frame : Frame} {env : Readings} {response : CoordinatorResponse}

/-- What an acknowledged change leaves behind. -/
theorem imaged_acknowledged (hpersist : options.persistOnMutation = true)
    (hkind : ¬ Uncommitted frame.kind) :
    let s := run step (new options file) events
    let after := (s.step (.frame key frame env)).coordinator
    (s.coordinator.handle key (s.sessions key) frame env).1.1 = .ok response →
    response.kind ≠ .errorResponse →
    after.classifier.durableState.records ≠ s.coordinator.classifier.durableState.records →
    after.Imaged ∧ after.options = options ∧ after.classifier.Filed := by
  intro s after hanswer hresponse hchanged
  have hoptions : s.coordinator.options = options := options_run options file events
  refine ⟨?_, ?_, filed_step _ _ (filed_run options file events)⟩
  · refine (imaged_handle ?_ hkind hanswer hresponse).resolve_right hchanged
    rw [hoptions, hpersist]
  · rw [← hoptions]
    exact (saves_handle s.coordinator key (s.sessions key) frame env).options

/-- An image that cannot be read back keeps every later coordinator from starting. -/
theorem start_refused_of_unreadable {after : Coordinator}
    (h : after.Imaged ∧ after.options = options ∧ after.classifier.Filed)
    (hunreadable : ¬ SnapshotReadable options.snapshotLimits after.classifier.durableState)
    {boot : CoordinatorBootId} (hboot : boot ≠ 0) :
    ((Coordinator.new options after.file).start boot {}).1 ≠ .ok () := by
  obtain ⟨himaged, rfl, hfiled⟩ := h
  exact himaged.start_of_unreadable hfiled hunreadable after.options.policy hboot rfl rfl

end Acknowledged

/-- **Acknowledged means durable.** In every run of a coordinator that persists on mutation,
an answer that is no error, to a request that changed records and is of a kind that commits,
is given when the file holds the image of the new state. A new coordinator with the same
options that is started on this file, after a crash say, holds that state exactly when the
image can be read back, the configured limits have room for it and its counters can be
advanced. -/
theorem acknowledged_is_durable (options : CoordinatorOptions) (file : Option Bytes)
    (events : List Event) (key : Bytes) (frame : Frame) (env : Readings)
    (response : CoordinatorResponse) (hpersist : options.persistOnMutation = true)
    (hkind : ¬ Uncommitted frame.kind) :
    let s := run step (new options file) events
    let after := (s.step (.frame key frame env)).coordinator
    (s.coordinator.handle key (s.sessions key) frame env).1.1 = .ok response →
    response.kind ≠ .errorResponse →
    after.classifier.durableState.records ≠ s.coordinator.classifier.durableState.records →
    after.Imaged ∧ ∀ boot ≠ 0, ∀ env' : Readings, env'.directory = .ok () →
      env'.readFailure = none →
      let image := after.classifier.durableState
      let restarted := (Coordinator.new options after.file).start boot env'
      (restarted.1 = .ok () ∧ HoldsImage image env'.tick restarted.2.classifier) ↔
        SnapshotReadable options.snapshotLimits image ∧
          Reopens options.policy.limits.effective image := by
  intro s after hanswer hresponse hchanged
  obtain ⟨himaged, hoptions, hfiled⟩ :=
    imaged_acknowledged hpersist hkind hanswer hresponse hchanged
  refine ⟨himaged, fun boot hboot env' hdirectory hfailure => ?_⟩
  have hrestart := himaged.restart_iff hfiled options.policy hboot hdirectory hfailure
  rw [successor, hoptions] at hrestart
  exact hrestart

def persistingOptions : CoordinatorOptions :=
  { statePath := text "state", persistOnMutation := true }

def registeredSystem : System :=
  run step (new persistingOptions none) (.start 1 {} :: openingEvents (text "agent") 2)

theorem registeredSystem_run :
    ∃ events, registeredSystem = run step (new persistingOptions none) events :=
  ⟨_, registeredSystem.eq_1⟩

def workloadFrame : Frame :=
  ⟨.declareWorkload, 2, (encodeDeclareWorkload ⟨.make (text "w"), 1, []⟩).flatten⟩

def flowFrame : Frame :=
  ⟨.registerFlow, 2, (encodeRegisterFlow ⟨Classifier.sampleKey, 1⟩).flatten⟩

def answerTo (s : System) (frame : Frame) : Result CoordinatorResponse :=
  (s.coordinator.handle sampleConnection (s.sessions sampleConnection) frame {}).1.1

def afterFrame (s : System) (frame : Frame) : Coordinator :=
  (s.step (.frame sampleConnection frame {})).coordinator

def declared : Coordinator := afterFrame registeredSystem workloadFrame

def declaredImage : DurableState := declared.classifier.durableState

theorem declared_answered :
    (∃ response, answerTo registeredSystem workloadFrame = .ok response ∧
      response.kind = .declareWorkloadResult) ∧
    registeredSystem.coordinator.classifier.durableState.records.workloads.length = 0 ∧
    declared.classifier.durableState.records.workloads.length = 1 ∧
    [declaredImage.publishers.length, declaredImage.workloads.length,
      declaredImage.contracts.length, declaredImage.flows.length, declaredImage.evidence.length,
      declaredImage.classifications.length, declaredImage.revocations.length,
      declaredImage.supersessions.length] = [1, 1, 0, 0, 0, 0, 0, 0] ∧
    (declaredImage.epoch, declaredImage.sequenceHighWater) = (2, 1) ∧
    (∀ p ∈ declaredImage.publishers, publisherReadable {} p) ∧
      ∀ w ∈ declaredImage.workloads, workloadReadable {} w := by
  unfold publisherReadable workloadReadable CodecLimits.Holds
  decide +kernel

theorem policyReadable_durableState {c : Classifier} (h : c.Filed) :
    policyReadable {} c.durableState.policy :=
  ClassifierPolicy.policyReadable_of_canonicalize h.policy.canonical

theorem readable_declared : SnapshotReadable {} declaredImage := by
  have hnone : ∀ {α : Type} (readable : CodecLimits → α → Prop) {xs : List α}, xs.length = 0 →
      RecordsReadable {} readable xs := by
    intro α readable xs h
    rw [List.length_eq_zero_iff.mp h]
    exact ⟨Nat.zero_le _, fun _ hx => absurd hx List.not_mem_nil⟩
  have hfiled : declared.classifier.Filed := by
    unfold declared
    obtain ⟨events, hrun⟩ := registeredSystem_run
    rw [hrun]
    exact filed_step _ _ (filed_run _ _ _)
  obtain ⟨-, -, -, hlengths, -, hpublishers, hworkloads⟩ := declared_answered
  simp only [List.cons.injEq, and_true] at hlengths
  obtain ⟨hp, hw, hk, hf, he, hx, hr, hs⟩ := hlengths
  exact ⟨policyReadable_durableState hfiled, ⟨by rw [hp]; decide, hpublishers⟩,
    ⟨by rw [hw]; decide, hworkloads⟩, hnone _ hk, hnone _ hf, hnone _ he, hnone _ hx, hnone _ hr,
    hnone _ hs⟩

theorem reopens_declared : Reopens persistingOptions.policy.limits.effective declaredImage := by
  obtain ⟨-, -, -, hlengths, hcounters, -, -⟩ := declared_answered
  simp only [List.cons.injEq, and_true, Prod.mk.injEq] at hlengths hcounters
  obtain ⟨hp, hw, hk, hf, he, -, hr, hs⟩ := hlengths
  exact ⟨⟨⟨by rw [hp]; decide, by rw [hw]; decide, by rw [hk]; decide, by rw [hf]; decide,
    by rw [he]; decide⟩, by rw [hr]; decide, by rw [hs]; decide⟩, by rw [hcounters.2]; decide,
    by rw [hcounters.1]; decide⟩

/-- The declaration is acknowledged, and a new process comes up with it. -/
theorem acknowledged_is_durable_sample :
    (∃ response, answerTo registeredSystem workloadFrame = .ok response ∧
      response.kind = .declareWorkloadResult) ∧ declared.Imaged ∧
      ((Coordinator.new persistingOptions declared.file).start 2 {}).1 = .ok () ∧
      HoldsImage declaredImage 1
        ((Coordinator.new persistingOptions declared.file).start 2 {}).2.classifier := by
  obtain ⟨⟨response, hanswer, hkind⟩, hbefore, hafter, -⟩ := declared_answered
  have hcommitted : ¬ Uncommitted workloadFrame.kind := by
    rintro (h | h | h) <;> cases h
  have hresponse : response.kind ≠ .errorResponse := by
    rw [hkind]
    decide
  have hchanged : declared.classifier.durableState.records ≠
      registeredSystem.coordinator.classifier.durableState.records := by
    intro hsame
    rw [hsame, hbefore] at hafter
    cases hafter
  have hreadable := readable_declared
  have hreopens := reopens_declared
  -- with its events a variable nothing of the run is evaluated again
  obtain ⟨events, hrun⟩ := registeredSystem_run
  unfold declaredImage declared at *
  rw [hrun] at hanswer hchanged hreadable hreopens ⊢
  obtain ⟨himaged, hrestart⟩ := acknowledged_is_durable persistingOptions none events
    sampleConnection workloadFrame {} response rfl hcommitted hanswer hresponse hchanged
  exact ⟨⟨response, hanswer, hkind⟩, himaged,
    (hrestart 2 (by decide) {} rfl rfl).mpr ⟨hreadable, hreopens⟩⟩

/-- The image of the state with the flow is longer than the file. -/
theorem flow_answered :
    (∃ response, answerTo registeredSystem flowFrame = .ok response ∧
      response.kind = .registerFlowResult) ∧
    registeredSystem.coordinator.classifier.durableState.flows = [] ∧
    (afterFrame registeredSystem flowFrame).classifier.durableState.flows.length = 1 ∧
    (afterFrame registeredSystem flowFrame).file.map List.length ≠
      some (snapshotHeaderBytes + (snapshotBody
        (afterFrame registeredSystem flowFrame).classifier.durableState).flatten.length) := by
  decide +kernel

def publishedSystem : System := run step (new persistingOptions none) publishingEvents

/-- A withdrawal with a reason of 513 bytes, one more than a record in a file may have. -/
def longWithdrawal : Frame := withdrawal (.replicate 513 120)

def reasonLengths (records : DurableRecords) : List ℕ :=
  records.evidence.map fun r => r.stateReason.length

theorem unreadable_of_long_reason {state : DurableState}
    (h : reasonLengths state.records = [513]) : ¬ SnapshotReadable {} state := by
  intro hreadable
  have hmem : 513 ∈ reasonLengths state.records := by
    rw [h]
    exact List.mem_singleton_self _
  obtain ⟨r, hr, hlength⟩ := List.mem_map.mp hmem
  have hholds := (hreadable.evidence.2 r hr).1 r.stateReason (by simp [evidenceStrings])
  unfold CodecLimits.Holds at hholds
  rw [hlength] at hholds
  exact absurd hholds (by decide)

theorem longWithdrawal_answered :
    (∃ response, answerTo publishedSystem longWithdrawal = .ok response ∧
      response.kind = .withdrawResult) ∧
    reasonLengths publishedSystem.coordinator.classifier.durableState.records = [0] ∧
    reasonLengths (afterFrame publishedSystem longWithdrawal).classifier.durableState.records =
      [513] := by
  decide +kernel

/-- The registration of a flow is acknowledged, and the file does not hold the flow. The
withdrawal of evidence with a long reason is acknowledged on the image of the new state, and
no start succeeds on that. -/
theorem acknowledged_not_durable :
    ((∃ response, answerTo registeredSystem flowFrame = .ok response ∧
        response.kind = .registerFlowResult) ∧
      registeredSystem.coordinator.classifier.durableState.flows = [] ∧
      (afterFrame registeredSystem flowFrame).classifier.durableState.flows.length = 1 ∧
      ¬ (afterFrame registeredSystem flowFrame).Imaged) ∧
    (∃ response, answerTo publishedSystem longWithdrawal = .ok response ∧
      response.kind = .withdrawResult) ∧ ∀ boot ≠ 0,
      ((Coordinator.new persistingOptions (afterFrame publishedSystem longWithdrawal).file).start
        boot {}).1 ≠ .ok () := by
  obtain ⟨hflow, hnone, hone, hlonger⟩ := flow_answered
  refine ⟨⟨hflow, hnone, hone, ?_⟩, ?_⟩
  · rintro ⟨-, writtenAt, data, hfile, hencoded⟩
    obtain ⟨rfl, -, -⟩ := encodeSnapshot_eq_ok hencoded
    apply hlonger
    rw [hfile, Option.map_some, length_snapshotBytes]
  obtain ⟨⟨response, hanswer, hkind⟩, hbefore, hafter⟩ := longWithdrawal_answered
  refine ⟨⟨response, hanswer, hkind⟩, fun boot hboot => ?_⟩
  have hchanged : (afterFrame publishedSystem longWithdrawal).classifier.durableState.records ≠
      publishedSystem.coordinator.classifier.durableState.records := by
    intro hsame
    rw [hsame, hbefore] at hafter
    cases hafter
  have hcommitted : ¬ Uncommitted longWithdrawal.kind := by
    rintro (h | h | h) <;> cases h
  have hresponse : response.kind ≠ .errorResponse := by
    rw [hkind]
    decide
  have hunreadable := unreadable_of_long_reason hafter
  obtain ⟨events, hrun⟩ : ∃ events,
      publishedSystem = run step (new persistingOptions none) events := ⟨_, publishedSystem.eq_1⟩
  rw [hrun] at hanswer hchanged hunreadable ⊢
  exact start_refused_of_unreadable
    (imaged_acknowledged rfl hcommitted hanswer hresponse hchanged) hunreadable hboot

end System

end FlowClassifier
