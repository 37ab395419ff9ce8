import FlowClassifier.Operations
import FlowClassifier.Runtime.Coordinator
import FlowClassifier.Store.Binding

/-!
What a frame asks of the classifier. `handle` makes at most one call of the classifier,
and which call it makes follows from the session, the frame and the coordinator's epoch
alone. A run of the coordinator is therefore a run of its classifier, and the answer says
whether the call was made and accepted.
-/
namespace FlowClassifier

open Foundation Evidence Workloads Codec Store

theorem Classifier.registerPublisher_isOk_iff {c : Classifier} {id : PublisherId}
    {boot : PublisherBootId} {maxSource : EvidenceSource} {session : SessionId}
    {description : Bytes} {tick : Tick} {wall : UInt64} :
    (c.registerPublisher id boot maxSource session description tick wall).1.isOk = true ↔
      c.publishers.Admits id boot := by
  rw [← @PublisherRegistry.bindSession_isOk_iff c.publishers id boot c.epoch c.coordinatorBoot
    maxSource session tick wall description, Classifier.registerPublisher]
  split
  next e publishers heq => rw [heq]
  next registration publishers heq => rw [heq]

namespace Coordinator

@[simp] theorem reply_classifier (co : Coordinator) (r : Reply) :
    (co.reply r).2.classifier = co.classifier := by
  unfold reply
  split <;> rfl

@[simp] theorem persist_classifier (co : Coordinator) (env : Readings) :
    (co.persist env).2.classifier = co.classifier := by
  unfold persist
  split_ifs
  · rfl
  · split <;> rfl

@[simp] theorem commit_classifier (co : Coordinator) (r : Reply) (env : Readings) :
    (co.commit r env).2.classifier = co.classifier := by
  unfold commit
  split
  · rfl
  · split_ifs
    · have hpersist := persist_classifier co env
      split
      next e co' heq => rw [heq] at hpersist; exact hpersist
      next co' heq => rw [heq] at hpersist; exact hpersist
    · rfl

def IsError (answer : Result CoordinatorResponse) : Prop :=
  ∀ response, answer = .ok response → response.kind = .errorResponse

theorem isError_makeErrorResponse (code : ErrorCode) (message : Bytes) :
    IsError (.ok (makeErrorResponse code message)) := by
  rintro response ⟨⟩
  rfl

theorem isError_refuse (co : Coordinator) (e : Failure) : IsError (co.refuse e).1 :=
  isError_makeErrorResponse e.code e.message

theorem isError_reject (co : Coordinator) (e : Failure) : IsError (co.reject e).1 :=
  isError_makeErrorResponse e.code e.message

theorem isError_error (e : Failure) : IsError (.error e) := by
  rintro response ⟨⟩

section Operations

variable {op : Operation}

variable (co : Coordinator) (key : Bytes) (session : CoordinatorSession) (frame : Frame)
  (env : Readings)

def scopedOperation {ρ : Type} (decode : CodecLimits → Bytes → Result ρ)
    (operation : SessionEnvelope → ρ → Operation) : Option Operation :=
  match co.requireRegistered session frame with
  | .error _ => none
  | .ok envelope =>
    match decode co.codecLimits frame.payload with
    | .error _ => none
    | .ok request => some (operation envelope request)

def registerOperation : Option Operation :=
  match decodeRegisterPublisher co.codecLimits frame.payload with
  | .error _ => none
  | .ok request =>
    if frame.epoch ≠ co.classifier.epoch then none
    else
      let bound := co.bindIdentity key session request
      some (.registerPublisher bound.publisher bound.publisherBoot bound.maxSource bound.session
        request.description env.tick env.wall)

def classifyOperation : Option Operation :=
  match co.requireHandshake session frame with
  | .error _ => none
  | .ok () =>
    match decodeClassifyRequest co.codecLimits frame.payload with
    | .error _ => none
    | .ok entries =>
      some (.classifyBatch (entries.zipIdx.map fun (entry, i) => (queryOf entry, env.keyTick i)))

def operation : Option Operation :=
  match frame.kind with
  | .registerPublisher => co.registerOperation key session frame env
  | .declareWorkload =>
    co.scopedOperation session frame decodeDeclareWorkload fun envelope request =>
      .declareWorkload request.workload envelope.publisher request.generation
        request.description env.tick
  | .proposeContract =>
    co.scopedOperation session frame decodeProposeContract fun envelope contract =>
      .proposeContract
        { contract with owner := envelope.publisher, derivedSource := .contractDerived } env.tick
  | .activateContract =>
    co.scopedOperation session frame decodeContractReference fun envelope contract =>
      .activateContract contract envelope.publisher env.tick
  | .retireContract =>
    co.scopedOperation session frame decodeContractReference fun envelope contract =>
      .retireContract contract envelope.publisher env.tick
  | .registerFlow =>
    co.scopedOperation session frame (fun _ => decodeRegisterFlow) fun envelope request =>
      .registerFlow request.key request.generation envelope.session env.tick
  | .publishEvidence =>
    co.scopedOperation session frame decodePublishEvidence fun envelope payload =>
      .submitEvidence envelope payload env.tick env.touchTick env.wall
  | .withdrawEvidence =>
    co.scopedOperation session frame decodeWithdrawEvidence fun envelope request =>
      .withdrawEvidence envelope request.evidence request.reason env.tick
  | .revokeGeneration =>
    co.scopedOperation session frame decodeRevokeGeneration fun envelope request =>
      .revokeGeneration envelope request.flowId request.generation request.reason env.tick
  | .classify => co.classifyOperation session frame env
  | .heartbeat =>
    if session.registered then
      some (.heartbeat session.publisher session.publisherBoot env.tick env.wall)
    else none
  | .hello | .helloAck | .classifyResult | .statsRequest | .statsResponse | .errorResponse
  | .declareWorkloadResult | .contractResult | .registerFlowResult | .publishEvidenceResult
  | .withdrawResult => none

def performed (asked : Option Operation) : Classifier :=
  match asked with
  | none => co.classifier
  | some op => co.classifier.step op

variable {co session frame env}

/-- The guard, the decoder and one call, as all publisher-scoped requests have them. -/
theorem publisherScoped_classifier {ρ : Type} {decode : CodecLimits → Bytes → Result ρ}
    {call : SessionEnvelope → ρ → Result Reply × Classifier}
    {operation : SessionEnvelope → ρ → Operation} {durable : Bool} (hcall : ∀ envelope request,
      (call envelope request).2 = co.classifier.step (operation envelope request)) :
    (co.publisherScoped session frame env decode call durable).2.classifier =
      co.performed (co.scopedOperation session frame decode operation) := by
  unfold publisherScoped scopedOperation
  cases co.requireRegistered session frame with
  | error e => rfl
  | ok envelope =>
    cases hrequest : decode co.codecLimits frame.payload with
    | error e => rfl
    | ok request =>
      have hstep := hcall envelope request
      dsimp only [performed]
      rw [← hstep]
      obtain ⟨result, classifier⟩ := call envelope request
      cases result with
      | error e => rfl
      | ok r => cases durable <;> simp

/-- A publisher-scoped request is refused, or its call was accepted and is answered. -/
theorem publisherScoped_cases {ρ : Type} (decode : CodecLimits → Bytes → Result ρ)
    (call : SessionEnvelope → ρ → Result Reply × Classifier) (durable : Bool) :
    IsError (co.publisherScoped session frame env decode call durable).1 ∨
      ∃ envelope request r classifier,
        co.requireRegistered session frame = .ok envelope ∧
        decode co.codecLimits frame.payload = .ok request ∧
        call envelope request = (.ok r, classifier) ∧
        co.publisherScoped session frame env decode call durable =
          if durable then commit { co with classifier := classifier } r env
          else reply { co with classifier := classifier } r := by
  unfold publisherScoped
  cases henvelope : co.requireRegistered session frame with
  | error e => exact Or.inl (isError_refuse co e)
  | ok envelope =>
    cases hrequest : decode co.codecLimits frame.payload with
    | error e => exact Or.inl (isError_reject co e)
    | ok request =>
      dsimp only
      rcases hcall : call envelope request with ⟨_ | r, classifier⟩
      · exact Or.inl (isError_refuse _ _)
      · exact Or.inr ⟨envelope, request, r, classifier, rfl, rfl, hcall, rfl⟩

variable (co session frame env) in
/-- The ways a registration request can go. One that is refused leaves its identity in the
session. -/
inductive RegisterOutcome : Answered × CoordinatorSession → Prop
  | unread {code : ErrorCode} {message : Bytes} {stats : CoordinatorStats}
    (hunread : ∀ request, decodeRegisterPublisher co.codecLimits frame.payload = .ok request →
      frame.epoch ≠ co.classifier.epoch) :
    RegisterOutcome
      ((.ok (makeErrorResponse code message), { co with stats := stats }), session)
  | refused {request : RegisterPublisherRequest} {e : Failure} {classifier : Classifier}
    (hdecode : decodeRegisterPublisher co.codecLimits frame.payload = .ok request)
    (hepoch : frame.epoch = co.classifier.epoch)
    (hcall : co.classifier.registerPublisher request.publisher request.boot session.maxSource
      (mintSessionId key request.publisher request.boot co.classifier.epoch) request.description
      env.tick env.wall = (.error e, classifier)) :
    RegisterOutcome (refuse { co with classifier := classifier } e,
      co.bindIdentity key session request)
  | accepted {request : RegisterPublisherRequest} {registration : PublisherRegistration}
    {classifier : Classifier} {r : Reply}
    (hdecode : decodeRegisterPublisher co.codecLimits frame.payload = .ok request)
    (hepoch : frame.epoch = co.classifier.epoch)
    (hcall : co.classifier.registerPublisher request.publisher request.boot session.maxSource
      (mintSessionId key request.publisher request.boot co.classifier.epoch) request.description
      env.tick env.wall = (.ok registration, classifier)) :
    RegisterOutcome (commit { co with classifier := classifier } r env,
      { co.bindIdentity key session request with registered := true })

theorem registerOutcome : RegisterOutcome co key session frame env
      (co.handleRegisterPublisher key session frame env) := by
  unfold handleRegisterPublisher
  cases hdecode : decodeRegisterPublisher co.codecLimits frame.payload with
  | error e =>
    refine .unread ?_
    intro request hrequest
    rw [hdecode] at hrequest
    cases hrequest
  | ok request =>
    dsimp only
    by_cases hepoch : frame.epoch = co.classifier.epoch
    · rw [if_neg (not_not.mpr hepoch)]
      split
      next e classifier heq =>
        dsimp only [bindIdentity] at heq
        exact .refused hdecode hepoch heq
      next registration classifier heq =>
        dsimp only [bindIdentity] at heq
        exact .accepted hdecode hepoch heq
    · rw [if_pos hepoch]
      exact .unread fun _ _ => hepoch

theorem handleRegisterPublisher_classifier :
    (co.handleRegisterPublisher key session frame env).1.2.classifier =
      co.performed (co.registerOperation key session frame env) := by
  unfold handleRegisterPublisher registerOperation
  cases decodeRegisterPublisher co.codecLimits frame.payload with
  | error e => rfl
  | ok request =>
    dsimp only
    by_cases hepoch : frame.epoch ≠ co.classifier.epoch
    · rw [if_pos hepoch, if_pos hepoch]
      rfl
    · rw [if_neg hepoch, if_neg hepoch, performed, Classifier.step]
      split
      next e classifier heq => rw [heq]; rfl
      next registration classifier heq => rw [heq]; simp

theorem handleClassify_classifier : (co.handleClassify session frame env).2.classifier =
      co.performed (co.classifyOperation session frame env) := by
  unfold handleClassify classifyOperation
  cases co.requireHandshake session frame with
  | error e => rfl
  | ok u =>
    cases decodeClassifyRequest co.codecLimits frame.payload with
    | error e => rfl
    | ok entries =>
      dsimp only [performed, Classifier.step]
      split
      next e classifier heq => rw [heq]; rfl
      next outcome classifier heq => rw [heq]; simp

theorem handleHello_classifier :
    (co.handleHello key session frame).1.2.classifier = co.classifier := by
  unfold handleHello
  split
  · rfl
  · dsimp only
    split_ifs
    · rfl
    all_goals exact reply_classifier _ _

theorem handleStats_classifier : (co.handleStats session frame).2.classifier = co.classifier := by
  unfold handleStats
  split
  · rfl
  · simp

variable (co session frame env)

/-- The classifier a dispatched frame leaves behind. -/
theorem dispatch_classifier : (co.dispatch key session frame env).1.2.classifier =
      co.performed (co.operation key session frame env) := by
  unfold dispatch operation
  cases frame.kind with
  | hello => exact handleHello_classifier key
  | registerPublisher => exact handleRegisterPublisher_classifier key
  | classify => exact handleClassify_classifier
  | statsRequest => exact handleStats_classifier
  | heartbeat =>
    dsimp only [handleHeartbeat]
    rw [reply_classifier]
    split_ifs <;> rfl
  | declareWorkload | proposeContract | activateContract | retireContract | registerFlow
  | publishEvidence | withdrawEvidence | revokeGeneration =>
    exact publisherScoped_classifier fun _ _ => rfl
  | helloAck | classifyResult | statsResponse | errorResponse | declareWorkloadResult
  | contractResult | registerFlowResult | publishEvidenceResult | withdrawResult => rfl

variable {co session frame env}

theorem scopedOperation_eq_some {ρ : Type} {decode : CodecLimits → Bytes → Result ρ}
    {operation : SessionEnvelope → ρ → Operation}
    (h : co.scopedOperation session frame decode operation = some op) :
    ∃ envelope request, co.requireRegistered session frame = .ok envelope ∧
      decode co.codecLimits frame.payload = .ok request ∧ op = operation envelope request := by
  unfold scopedOperation at h
  split at h
  · cases h
  next envelope henvelope =>
    split at h
    · cases h
    next request hrequest =>
      cases h
      exact ⟨envelope, request, henvelope, hrequest, rfl⟩

variable (co session frame env) in
inductive Asks : Operation → Prop
  | registerPublisher {request : RegisterPublisherRequest} (hkind : frame.kind = .registerPublisher)
    (hrequest : decodeRegisterPublisher co.codecLimits frame.payload = .ok request)
    (hepoch : frame.epoch = co.classifier.epoch) :
    Asks (.registerPublisher request.publisher request.boot session.maxSource
      (mintSessionId key request.publisher request.boot co.classifier.epoch) request.description
      env.tick env.wall)
  | declareWorkload {envelope : SessionEnvelope} {request : DeclareWorkloadRequest}
    (hkind : frame.kind = .declareWorkload)
    (henvelope : co.requireRegistered session frame = .ok envelope) :
    Asks (.declareWorkload request.workload envelope.publisher request.generation
      request.description env.tick)
  | proposeContract {envelope : SessionEnvelope} {contract : WorkloadContract}
    (hkind : frame.kind = .proposeContract)
    (henvelope : co.requireRegistered session frame = .ok envelope) :
    Asks (.proposeContract
      { contract with owner := envelope.publisher, derivedSource := .contractDerived } env.tick)
  | activateContract {envelope : SessionEnvelope} {contract : ContractId}
    (hkind : frame.kind = .activateContract)
    (henvelope : co.requireRegistered session frame = .ok envelope) :
    Asks (.activateContract contract envelope.publisher env.tick)
  | retireContract {envelope : SessionEnvelope} {contract : ContractId}
    (hkind : frame.kind = .retireContract)
    (henvelope : co.requireRegistered session frame = .ok envelope) :
    Asks (.retireContract contract envelope.publisher env.tick)
  | registerFlow {envelope : SessionEnvelope} {request : RegisterFlowRequest}
    (hkind : frame.kind = .registerFlow)
    (henvelope : co.requireRegistered session frame = .ok envelope) :
    Asks (.registerFlow request.key request.generation envelope.session env.tick)
  | submitEvidence {envelope : SessionEnvelope} {payload : EvidencePayload}
    (hkind : frame.kind = .publishEvidence)
    (henvelope : co.requireRegistered session frame = .ok envelope) :
    Asks (.submitEvidence envelope payload env.tick env.touchTick env.wall)
  | withdrawEvidence {envelope : SessionEnvelope} {request : WithdrawEvidenceRequest}
    (hkind : frame.kind = .withdrawEvidence)
    (henvelope : co.requireRegistered session frame = .ok envelope) :
    Asks (.withdrawEvidence envelope request.evidence request.reason env.tick)
  | revokeGeneration {envelope : SessionEnvelope} {request : RevokeGenerationRequest}
    (hkind : frame.kind = .revokeGeneration)
    (henvelope : co.requireRegistered session frame = .ok envelope) :
    Asks (.revokeGeneration envelope request.flowId request.generation request.reason env.tick)
  | classifyBatch {queries : List (ClassificationQuery × Tick)} (hkind : frame.kind = .classify)
    (hhandshake : co.requireHandshake session frame = .ok ()) : Asks (.classifyBatch queries)
  | heartbeat (hkind : frame.kind = .heartbeat) (hregistered : session.registered = true) :
    Asks (.heartbeat session.publisher session.publisherBoot env.tick env.wall)

theorem asks_of_registerOperation (hkind : frame.kind = .registerPublisher)
    (h : co.registerOperation key session frame env = some op) :
    Asks co key session frame env op := by
  unfold registerOperation at h
  split at h
  · cases h
  next request hrequest =>
    by_cases hepoch : frame.epoch = co.classifier.epoch
    · rw [if_neg (not_not.mpr hepoch)] at h
      cases h
      exact .registerPublisher hkind hrequest hepoch
    · rw [if_pos hepoch] at h
      cases h

theorem asks_of_classifyOperation (hkind : frame.kind = .classify)
    (h : co.classifyOperation session frame env = some op) : Asks co key session frame env op := by
  unfold classifyOperation at h
  split at h
  · cases h
  next hhandshake =>
    split at h
    · cases h
    · cases h
      exact .classifyBatch hkind hhandshake

theorem asks_of_operation (h : co.operation key session frame env = some op) :
    Asks co key session frame env op := by
  unfold operation at h
  cases hkind : frame.kind with
  | registerPublisher =>
    rw [hkind] at h
    exact asks_of_registerOperation key hkind h
  | classify =>
    rw [hkind] at h
    exact asks_of_classifyOperation key hkind h
  | heartbeat =>
    simp only [hkind] at h
    split_ifs at h with hregistered
    cases h
    exact .heartbeat hkind hregistered
  | declareWorkload | proposeContract | activateContract | retireContract | registerFlow
  | publishEvidence | withdrawEvidence | revokeGeneration =>
    rw [hkind] at h
    obtain ⟨envelope, request, henvelope, -, rfl⟩ := scopedOperation_eq_some h
    constructor
    · exact hkind
    · exact henvelope
  | hello | helloAck | classifyResult | statsRequest | statsResponse | errorResponse
  | declareWorkloadResult | contractResult | registerFlowResult | publishEvidenceResult
  | withdrawResult =>
    rw [hkind] at h
    cases h

variable (co session frame env)

def handledOperation : Option Operation :=
  if co.running then co.operation key session frame env else none

@[simp] theorem operation_countMessage :
    co.countMessage.operation key session frame env = co.operation key session frame env := rfl

theorem asks_of_handledOperation (h : co.handledOperation key session frame env = some op) :
    co.running = true ∧ Asks co key session frame env op := by
  unfold handledOperation at h
  split_ifs at h with hrunning
  exact ⟨hrunning, asks_of_operation key h⟩

theorem handle_classifier : (co.handle key session frame env).1.2.classifier =
      co.performed (co.handledOperation key session frame env) := by
  unfold handle handledOperation
  cases hrunning : co.running with
  | false => rfl
  | true =>
    simp only [Bool.not_true, Bool.false_eq_true, if_false, if_true]
    rw [dispatch_classifier, operation_countMessage]
    rfl

end Operations

structure Binding where
  publisher : PublisherId
  boot : PublisherBootId
  session : SessionId
  deriving DecidableEq

def identityOf (session : CoordinatorSession) : Binding where
  publisher := session.publisher
  boot := session.publisherBoot
  session := session.session

def bindingOf (c : Classifier) : Option Operation → Option Binding
  | some (.registerPublisher id boot maxSource session description tick wall) =>
    if (c.registerPublisher id boot maxSource session description tick wall).1.isOk then
      some ⟨id, boot, session⟩
    else none
  | _ => none

def publicationOf (c : Classifier) : Option Operation → Option EvidenceRecord
  | some (.submitEvidence envelope payload tick touchTick wall) =>
    match (c.submitEvidence envelope payload tick touchTick wall).1 with
    | .ok outcome => some outcome.record
    | .error _ => none
  | _ => none

def Supported (hello : HelloRequest) : Prop :=
  ¬ (hello.protocolVersion < protocolVersionMin ∨ hello.protocolVersionMin > protocolVersion)

def greetedPublisher (session : CoordinatorSession) (hello : HelloRequest) : PublisherId :=
  if hello.publisher.isEmpty then session.publisher else hello.publisher

section Sessions

variable (co : Coordinator) (key : Bytes) (session : CoordinatorSession) (frame : Frame)
  (env : Readings)

/-- What a frame does to the session record, with the binding it makes. Only HELLO and
REGISTER_PUBLISHER write the record. -/
inductive SessionOutcome : CoordinatorSession → Option Binding → Prop
  | kept : SessionOutcome session none
  | greeted {hello : HelloRequest} {granted : EvidenceSource} (hrunning : co.running = true)
    (hkind : frame.kind = .hello)
    (hdecode : decodeHello co.codecLimits frame.payload = .ok hello)
    (hversion : Supported hello) :
    SessionOutcome
      { session with
        maxSource := granted
        handshaken := true
        publisher := greetedPublisher session hello
        session := mintSessionId key (greetedPublisher session hello) 1 co.classifier.epoch }
      none
  | identified {request : RegisterPublisherRequest} (hrunning : co.running = true)
    (hkind : frame.kind = .registerPublisher)
    (hdecode : decodeRegisterPublisher co.codecLimits frame.payload = .ok request)
    (hepoch : frame.epoch = co.classifier.epoch)
    (hrefused : ¬ co.classifier.publishers.Admits request.publisher request.boot) :
    SessionOutcome (co.bindIdentity key session request) none
  | bound {request : RegisterPublisherRequest} (hrunning : co.running = true)
    (hkind : frame.kind = .registerPublisher)
    (hdecode : decodeRegisterPublisher co.codecLimits frame.payload = .ok request)
    (hepoch : frame.epoch = co.classifier.epoch)
    (hadmits : co.classifier.publishers.Admits request.publisher request.boot) :
    SessionOutcome { co.bindIdentity key session request with registered := true }
      (some (identityOf (co.bindIdentity key session request)))

variable {co key session frame env}

theorem greeted_or_kept (hrunning : co.running = true) (hkind : frame.kind = .hello) :
    SessionOutcome co key session frame (co.handleHello key session frame).2 none := by
  unfold handleHello
  split
  next e heq => exact .kept
  next hello heq =>
    by_cases hversion : Supported hello
    · rw [if_neg hversion]
      exact .greeted hrunning hkind heq hversion
    · rw [if_pos (not_not.mp hversion)]
      exact .kept

theorem sessionOutcome_register (hrunning : co.running = true)
    (hkind : frame.kind = .registerPublisher) :
    SessionOutcome co key session frame (co.handleRegisterPublisher key session frame env).2
      (bindingOf co.classifier (co.registerOperation key session frame env)) := by
  have hcases := @registerOutcome co key session frame env
  generalize co.handleRegisterPublisher key session frame env = out at hcases
  unfold registerOperation
  cases hcases with
  | unread hunread =>
    split
    next e heq => exact .kept
    next request heq =>
      rw [if_pos (hunread request heq)]
      exact .kept
  | @refused request e classifier hdecode hepoch hcall =>
    have hrefused : ¬ co.classifier.publishers.Admits request.publisher request.boot := by
      rw [← Classifier.registerPublisher_isOk_iff, hcall]
      exact Bool.false_ne_true
    simp only [hdecode, hepoch, ne_eq, not_true_eq_false, if_false, bindingOf, bindIdentity, hcall]
    have houtcome := @SessionOutcome.identified co key session frame request hrunning hkind
      hdecode hepoch hrefused
    dsimp only [bindIdentity] at houtcome
    exact houtcome
  | @accepted request registration classifier r hdecode hepoch hcall =>
    have hadmits : co.classifier.publishers.Admits request.publisher request.boot := by
      rw [← Classifier.registerPublisher_isOk_iff, hcall]
      rfl
    simp only [hdecode, hepoch, ne_eq, not_true_eq_false, if_false, bindingOf, bindIdentity, hcall]
    have houtcome := @SessionOutcome.bound co key session frame request hrunning hkind hdecode
      hepoch hadmits
    dsimp only [bindIdentity, identityOf] at houtcome
    exact houtcome

theorem bindingOf_scopedOperation {c : Classifier} {ρ : Type}
    {decode : CodecLimits → Bytes → Result ρ} {operation : SessionEnvelope → ρ → Operation}
    (h : ∀ envelope request, bindingOf c (some (operation envelope request)) = none) :
    bindingOf c (co.scopedOperation session frame decode operation) = none := by
  unfold scopedOperation
  split
  · rfl
  · split
    · rfl
    · exact h _ _

theorem bindingOf_classifyOperation {c : Classifier} :
    bindingOf c (co.classifyOperation session frame env) = none := by
  unfold classifyOperation
  split
  · rfl
  · split <;> rfl

theorem sessionOutcome_dispatch (hrunning : co.running = true) :
    SessionOutcome co key session frame (co.dispatch key session frame env).2
      (bindingOf co.classifier (co.operation key session frame env)) := by
  unfold dispatch operation
  cases hkind : frame.kind with
  | hello =>
    dsimp only
    exact greeted_or_kept hrunning hkind
  | registerPublisher =>
    dsimp only
    exact sessionOutcome_register hrunning hkind
  | classify =>
    dsimp only
    rw [bindingOf_classifyOperation]
    exact .kept
  | heartbeat =>
    dsimp only
    split_ifs <;> exact .kept
  | declareWorkload | proposeContract | activateContract | retireContract | registerFlow
  | publishEvidence | withdrawEvidence | revokeGeneration =>
    dsimp only
    rw [bindingOf_scopedOperation fun _ _ => rfl]
    exact .kept
  | helloAck | classifyResult | statsRequest | statsResponse | errorResponse
  | declareWorkloadResult | contractResult | registerFlowResult | publishEvidenceResult
  | withdrawResult => exact .kept

theorem SessionOutcome.of_countMessage {after : CoordinatorSession} {binding : Option Binding}
    (h : SessionOutcome co.countMessage key session frame after binding) :
    SessionOutcome co key session frame after binding := by
  cases h with
  | kept => exact .kept
  | greeted hrunning hkind hdecode hversion => exact .greeted hrunning hkind hdecode hversion
  | identified hrunning hkind hdecode hepoch hrefused =>
    exact .identified hrunning hkind hdecode hepoch hrefused
  | bound hrunning hkind hdecode hepoch hadmits =>
    exact .bound hrunning hkind hdecode hepoch hadmits

variable (co key session frame env)

theorem sessionOutcome : SessionOutcome co key session frame (co.handle key session frame env).2
      (bindingOf co.classifier (co.handledOperation key session frame env)) := by
  unfold handle handledOperation
  cases hrunning : co.running with
  | false => exact .kept
  | true =>
    simp only [Bool.not_true, Bool.false_eq_true, if_false, if_true]
    have hcounted : co.countMessage.running = true := hrunning
    have houtcome := @sessionOutcome_dispatch co.countMessage key session frame env hcounted
    rw [operation_countMessage] at houtcome
    exact houtcome.of_countMessage

end Sessions
end Coordinator
end FlowClassifier
