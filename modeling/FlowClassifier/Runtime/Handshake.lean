import FlowClassifier.Runtime.Requests

/-!
The handshake gate. Most handlers refuse a session without a handshake before they read
anything else. Two do not: a heartbeat is always answered, and a registration is decoded
and passed to the classifier. A registration then stays outside only where the registry
refuses it before it writes.
-/
namespace FlowClassifier

open Foundation Buffers Evidence Codec Store

namespace Classifier

structure SameStores (c c' : Classifier) : Prop where
  publishers : c.publishers.SameEntries c'.publishers
  workloads : c'.workloads = c.workloads
  flows : c'.flows = c.flows
  evidence : c'.evidence = c.evidence
  decisions : c'.decisions = c.decisions

theorem SameStores.refl (c : Classifier) : SameStores c c := ⟨.refl _, rfl, rfl, rfl, rfl⟩

/-- A registration touches the registry alone. -/
theorem sameStores_of_registerPublisher {c c' : Classifier} {id : PublisherId}
    {boot : PublisherBootId} {maxSource : EvidenceSource} {session : SessionId}
    {description : Bytes} {tick : Tick} {wall : UInt64}
    {result : Result Workloads.PublisherRegistration}
    (h : c.registerPublisher id boot maxSource session description tick wall = (result, c')) :
    SameStores c c' ↔ c.publishers.RefusesUnwritten id boot maxSource wall description := by
  have hiff := @PublisherRegistry.bindSession_sameEntries_iff c.publishers id boot c.epoch
    c.coordinatorBoot maxSource session tick wall description
  rw [← hiff, show c' = (c.registerPublisher id boot maxSource session description tick wall).2
    from (congrArg Prod.snd h).symm]
  unfold registerPublisher
  split
  next e publishers heq =>
    rw [heq]
    exact ⟨fun h => h.publishers, fun h => ⟨h, rfl, rfl, rfl, rfl⟩⟩
  next registration publishers heq =>
    rw [heq]
    exact ⟨fun h => h.publishers, fun h => ⟨h, rfl, rfl, rfl, rfl⟩⟩

end Classifier

namespace Coordinator

def registrationOf (session : CoordinatorSession) :
    PublisherId × PublisherBootId × SessionId × Bool :=
  (session.publisher, session.publisherBoot, session.session, session.registered)

/-- The outcome of a call that stayed outside: an error, and nothing changed. -/
structure Gated (c : Classifier) (session : CoordinatorSession)
    (out : Answered × CoordinatorSession) : Prop where
  error : IsError out.1.1
  stores : c.SameStores out.1.2.classifier
  registration : registrationOf out.2 = registrationOf session

section Gate

variable {co : Coordinator} {key : Bytes} {session : CoordinatorSession} {frame : Frame}
  {env : Readings}

theorem gated_refuse (e : Failure) : Gated co.classifier session (co.refuse e, session) :=
  ⟨isError_refuse _ e, .refl _, rfl⟩

theorem gated_reject (e : Failure) : Gated co.classifier session (co.reject e, session) :=
  ⟨isError_reject _ e, .refl _, rfl⟩

theorem requireHandshake_unhandshaken (h : session.handshaken = false) :
    ∃ e, co.requireHandshake session frame = .error e := by
  unfold requireHandshake
  rw [if_pos (by simp [h])]
  exact ⟨_, rfl⟩

theorem requireRegistered_unhandshaken (h : session.handshaken = false) :
    ∃ e, co.requireRegistered session frame = .error e := by
  obtain ⟨e, he⟩ := @requireHandshake_unhandshaken co session frame h
  exact ⟨e, by rw [requireRegistered, he]⟩

/-- A publisher-scoped request without a handshake is refused before it is decoded. -/
theorem publisherScoped_unhandshaken (h : session.handshaken = false) {ρ : Type}
    (decode : CodecLimits → Bytes → Result ρ)
    (call : SessionEnvelope → ρ → Result Reply × Classifier) (durable : Bool) :
    ∃ e, co.publisherScoped session frame env decode call durable = co.refuse e := by
  obtain ⟨e, he⟩ := @requireRegistered_unhandshaken co session frame h
  exact ⟨e, by rw [publisherScoped, he]⟩

theorem handleClassify_unhandshaken (h : session.handshaken = false) :
    ∃ e, co.handleClassify session frame env = co.refuse e := by
  obtain ⟨e, he⟩ := @requireHandshake_unhandshaken co session frame h
  exact ⟨e, by rw [handleClassify, he]⟩

theorem handleStats_unhandshaken (h : session.handshaken = false) :
    ∃ e, co.handleStats session frame = co.refuse e := by
  obtain ⟨e, he⟩ := @requireHandshake_unhandshaken co session frame h
  exact ⟨e, by rw [handleStats, he]⟩

/-- The answer to a handshake fits a frame. -/
theorem hello_encodes {body : HelloResponse} (h : body.coordinatorBanner = productBanner) :
    ∃ payload, (ResponseBody.hello body).encode = .ok payload := by
  have hbanner : productBanner.length = 66 := by decide
  refine ⟨_, ResponseBody.encode_eq_ok_iff.mpr ⟨rfl, ?_⟩⟩
  simp only [ResponseBody.chunks, encodeHelloResponse, h, List.flatten_cons, List.flatten_nil,
    List.length_append, List.length_nil, length_u16Bytes, length_u64Bytes, length_u8Bytes,
    length_blobBytes, hbanner, maxFramePayload]
  omega

theorem not_isError_handleHeartbeat : ¬ IsError (co.handleHeartbeat session env).1 := by
  intro h
  unfold handleHeartbeat at h
  dsimp only at h
  generalize (if session.registered then _ else co : Coordinator) = beaten at h
  obtain ⟨payload, hpayload⟩ := @hello_encodes
    { epoch := beaten.classifier.epoch
      boot := beaten.classifier.coordinatorBoot
      grantedSource := session.maxSource
      coordinatorBanner := productBanner } rfl
  rw [reply, hpayload] at h
  cases h _ rfl

/-- Where a registration stays outside although no handshake is asked of it. -/
def RegistrationStaysOut (co : Coordinator) (key : Bytes) (session : CoordinatorSession)
    (frame : Frame) (env : Readings) : Prop :=
  ∀ request, decodeRegisterPublisher co.codecLimits frame.payload = .ok request →
    frame.epoch = co.classifier.epoch →
      co.classifier.publishers.RefusesUnwritten request.publisher request.boot session.maxSource
        env.wall request.description ∧
      session.publisher = request.publisher ∧ session.publisherBoot = request.boot ∧
      session.session =
        mintSessionId key request.publisher request.boot co.classifier.epoch

/-- A readable request of the current epoch is the only one there is to judge. -/
theorem registrationStaysOut_iff {request : RegisterPublisherRequest}
    (hdecode : decodeRegisterPublisher co.codecLimits frame.payload = .ok request)
    (hepoch : frame.epoch = co.classifier.epoch) : RegistrationStaysOut co key session frame env ↔
      co.classifier.publishers.RefusesUnwritten request.publisher request.boot session.maxSource
        env.wall request.description ∧
      session.publisher = request.publisher ∧ session.publisherBoot = request.boot ∧
      session.session = mintSessionId key request.publisher request.boot co.classifier.epoch := by
  constructor
  · intro h
    exact h request hdecode hepoch
  · intro h other hother _
    obtain rfl : request = other := by
      rw [hdecode] at hother
      exact Except.ok.inj hother
    exact h

/-- A refused registration rewrites the session all the same, unless it repeats it. -/
theorem gated_handleRegisterPublisher_iff :
    Gated co.classifier session (co.handleRegisterPublisher key session frame env) ↔
      RegistrationStaysOut co key session frame env := by
  have hcases := @registerOutcome co key session frame env
  generalize co.handleRegisterPublisher key session frame env = out at hcases
  cases hcases with
  | unread hunread =>
    refine ⟨fun _ request hrequest hepoch => absurd hepoch (hunread request hrequest), fun _ => ?_⟩
    exact ⟨isError_makeErrorResponse _ _, .refl _, rfl⟩
  | @refused request e classifier hdecode hepoch hcall =>
    have hstores := Classifier.sameStores_of_registerPublisher hcall
    rw [registrationStaysOut_iff hdecode hepoch, ← hstores]
    constructor
    · rintro ⟨-, hsame, hregistration⟩
      simp only [registrationOf, bindIdentity, Prod.mk.injEq] at hregistration
      exact ⟨hsame, hregistration.1.symm, hregistration.2.1.symm, hregistration.2.2.1.symm⟩
    · rintro ⟨hsame, hpublisher, hboot, hsession⟩
      refine ⟨isError_refuse _ e, hsame, ?_⟩
      show (request.publisher, request.boot, _, _) = _
      rw [registrationOf, hpublisher, hboot, hsession]
      rfl
  | @accepted request registration classifier r hdecode hepoch hcall =>
    have hstores := Classifier.sameStores_of_registerPublisher hcall
    have hwritten : ¬ co.classifier.publishers.RefusesUnwritten request.publisher request.boot
        session.maxSource env.wall request.description := by
      intro h
      apply h.not_admits
      apply Classifier.registerPublisher_isOk_iff.mp
      rw [hcall]
      rfl
    constructor
    · intro h
      have hsame := h.stores
      rw [commit_classifier] at hsame
      exact absurd (hstores.mp hsame) hwritten
    · intro h
      exact absurd ((registrationStaysOut_iff hdecode hepoch).mp h).1 hwritten

theorem dispatch_gated_iff (hhandshake : session.handshaken = false) (hkind : frame.kind ≠ .hello) :
    Gated co.classifier session (co.dispatch key session frame env) ↔ frame.kind ≠ .heartbeat ∧
        (frame.kind = .registerPublisher → RegistrationStaysOut co key session frame env) := by
  have hscoped : ∀ {ρ : Type} (decode : CodecLimits → Bytes → Result ρ)
      (call : SessionEnvelope → ρ → Result Reply × Classifier) (durable : Bool),
      Gated co.classifier session
        (co.publisherScoped session frame env decode call durable, session) := by
    intro ρ decode call durable
    obtain ⟨e, he⟩ := @publisherScoped_unhandshaken co session frame env hhandshake ρ decode call
      durable
    rw [he]
    exact gated_refuse e
  unfold dispatch
  cases hframe : frame.kind with
  | hello => exact absurd hframe hkind
  | registerPublisher => simpa using gated_handleRegisterPublisher_iff
  | heartbeat =>
    refine iff_of_false ?_ fun h => h.1 rfl
    intro h
    exact not_isError_handleHeartbeat h.error
  | classify =>
    obtain ⟨e, he⟩ := @handleClassify_unhandshaken co session frame env hhandshake
    refine iff_of_true ?_ (by simp)
    rw [he]
    exact gated_refuse e
  | statsRequest =>
    obtain ⟨e, he⟩ := @handleStats_unhandshaken co session frame hhandshake
    refine iff_of_true ?_ (by simp)
    rw [he]
    exact gated_refuse e
  | declareWorkload | proposeContract | activateContract | retireContract | registerFlow
  | publishEvidence | withdrawEvidence | revokeGeneration =>
    exact iff_of_true (hscoped _ _ _) (by simp)
  | helloAck | classifyResult | statsResponse | errorResponse | declareWorkloadResult
  | contractResult | registerFlowResult | publishEvidenceResult | withdrawResult =>
    exact iff_of_true (gated_reject _) (by simp)

/-- **The handshake gate.** A session without a handshake stays outside exactly when the
coordinator is not running, or the frame is no heartbeat and a registration it carries is
refused as it stands. -/
theorem unhandshaken_gated_iff (co : Coordinator) (key : Bytes) (session : CoordinatorSession)
    (frame : Frame) (env : Readings) (hhandshake : session.handshaken = false)
    (hkind : frame.kind ≠ .hello) :
    Gated co.classifier session (co.handle key session frame env) ↔
      co.running = false ∨ frame.kind ≠ .heartbeat ∧
        (frame.kind = .registerPublisher → RegistrationStaysOut co key session frame env) := by
  unfold handle
  cases hrunning : co.running with
  | false => exact ⟨fun _ => .inl rfl, fun _ => ⟨isError_makeErrorResponse _ _, .refl _, rfl⟩⟩
  | true =>
    simp only [Bool.not_true, Bool.false_eq_true, if_false, Bool.true_eq_false, false_or]
    exact @dispatch_gated_iff co.countMessage key session frame env hhandshake hkind

end Gate

def started : Coordinator := ((new {} none).start 1 {}).2

def registerFrame : Frame where
  kind := .registerPublisher
  epoch := 2
  payload := (encodeRegisterPublisher
    { publisher := .make (text "agent"), boot := 1, firstEvidenceGeneration := 1 }).flatten

theorem unhandshaken_gated_iff_other_epoch :
    Gated started.classifier {}
      (started.handle (text "conn-1") {} { registerFrame with epoch := 1 } {}) := by
  have hepoch : (1 : UInt64) ≠ started.classifier.epoch := by decide +kernel
  apply (unhandshaken_gated_iff started (text "conn-1") {} { registerFrame with epoch := 1 } {}
    rfl (by decide)).mpr
  exact .inr ⟨by decide, fun _ request _ h => absurd h hepoch⟩

/-- A publisher is registered for a peer that never sent HELLO. -/
theorem registers_without_handshake :
    ¬ Gated started.classifier {} (started.handle (text "conn-1") {} registerFrame {}) := by
  intro h
  have hregistered : (started.handle (text "conn-1") {} registerFrame {}).2.registered = true := by
    decide +kernel
  have hsame := congrArg (fun r => r.2.2.2) h.registration
  exact absurd (hregistered.symm.trans hsame) (by decide)

end Coordinator
end FlowClassifier
