import FlowClassifier.MemoTransparency
import FlowClassifier.Runtime.Calls

/-!
The coordinator with its connections. Each connection owns one session record; events are
frames and closes on a connection, and starts, stops and persists of the coordinator.
Histories are carried along: what was bound and published through each connection, and
which sessions were registered before the epoch last advanced. The coordinator reads none
of them.
-/
namespace FlowClassifier

open Lib Foundation Evidence Codec Coordinator

inductive Event where
  | frame (key : Bytes) (frame : Frame) (env : Readings)
  | close (key : Bytes) (env : Readings)
  | start (boot : CoordinatorBootId) (env : Readings)
  | stop
  | persist (env : Readings)

structure System where
  coordinator : Coordinator
  sessions : Bytes → CoordinatorSession := fun _ => {}
  /-- What each connection bound since it was opened, the latest first. -/
  bindings : Bytes → List Binding := fun _ => []
  /-- The records published through each connection since it was opened. -/
  published : Bytes → List EvidenceRecord := fun _ => []
  /-- The registration of the session is from before the last advance of the epoch. -/
  fenced : Bytes → Bool := fun _ => false

namespace System

def new (options : CoordinatorOptions) (file : Option Bytes) : System where
  coordinator := .new options file

def binding (s : System) (key : Bytes) (frame : Frame) (env : Readings) : Option Binding :=
  bindingOf s.coordinator.classifier
    (s.coordinator.handledOperation key (s.sessions key) frame env)

def publication (s : System) (key : Bytes) (frame : Frame) (env : Readings) :
    Option EvidenceRecord :=
  publicationOf s.coordinator.classifier
    (s.coordinator.handledOperation key (s.sessions key) frame env)

def receive (s : System) (key : Bytes) (frame : Frame) (env : Readings) : System :=
  let out := s.coordinator.handle key (s.sessions key) frame env
  let binding := s.binding key frame env
  { coordinator := out.1.2
    sessions := Function.update s.sessions key out.2
    bindings := Function.update s.bindings key (binding.toList ++ s.bindings key)
    published := Function.update s.published key
      ((s.publication key frame env).toList ++ s.published key)
    fenced := Function.update s.fenced key (s.fenced key && binding.isNone) }

def close (s : System) (key : Bytes) (env : Readings) : System where
  coordinator := s.coordinator.closeSession (s.sessions key) env
  sessions := Function.update s.sessions key {}
  bindings := Function.update s.bindings key []
  published := Function.update s.published key []
  fenced := Function.update s.fenced key false

def start (s : System) (boot : CoordinatorBootId) (env : Readings) : System :=
  let out := s.coordinator.start boot env
  { s with
    coordinator := out.2
    fenced := if out.1.isOk then fun key => (s.sessions key).registered else s.fenced }

def step (s : System) : Event → System
  | .frame key frame env => s.receive key frame env
  | .close key env => s.close key env
  | .start boot env => s.start boot env
  | .stop => { s with coordinator := s.coordinator.stop }
  | .persist env => { s with coordinator := (s.coordinator.persist env).2 }

def asked (s : System) : Event → Call
  | .frame key frame env => .handle key (s.sessions key) frame env
  | .close key env => .closeSession (s.sessions key) env
  | .start boot env => .start boot env
  | .stop => .stop
  | .persist env => .persist env

def operations (s : System) (e : Event) : List Operation := s.coordinator.operations (s.asked e)

theorem step_coordinator (s : System) (e : Event) :
    (s.step e).coordinator = s.coordinator.call (s.asked e) := by
  cases e <;> rfl

/-- An event is a run of the classifier. -/
theorem step_classifier (s : System) (e : Event) : (s.step e).coordinator.classifier =
      run Classifier.step s.coordinator.classifier (s.operations e) := by
  rw [step_coordinator, call_classifier]
  rfl

/-- A frame on a registered connection leaves the identity of its session to the binding. -/
def KeepsIdentity (s : System) : Event → Prop
  | .frame key frame _ =>
    let co := s.coordinator
    let session := s.sessions key
    co.running = true → session.registered = true →
      (frame.kind = .hello →
        ∀ hello, decodeHello co.codecLimits frame.payload = .ok hello → Supported hello →
          (hello.publisher.isEmpty = true ∨ hello.publisher = session.publisher) ∧
          session.session = mintSessionId key session.publisher 1 co.classifier.epoch) ∧
      (frame.kind = .registerPublisher →
        ∀ request, decodeRegisterPublisher co.codecLimits frame.payload = .ok request →
          frame.epoch = co.classifier.epoch →
          co.classifier.publishers.Admits request.publisher request.boot ∨
            identityOf session = ⟨request.publisher, request.boot,
              mintSessionId key request.publisher request.boot co.classifier.epoch⟩)
  | _ => True

def Identified (s : System) (key : Bytes) : Prop :=
  (s.sessions key).registered = true →
    (s.bindings key).head? = some (identityOf (s.sessions key))

section Receive

variable {s : System} {key : Bytes} {frame : Frame} {env : Readings}

theorem receive_sessions_self : (s.receive key frame env).sessions key =
      (s.coordinator.handle key (s.sessions key) frame env).2 :=
  Function.update_self ..

theorem receive_bindings_self : (s.receive key frame env).bindings key =
      (s.binding key frame env).toList ++ s.bindings key :=
  Function.update_self ..

theorem identified_receive (h : s.Identified key)
    (hkeeps : s.KeepsIdentity (.frame key frame env)) :
    (s.receive key frame env).Identified key := by
  have houtcome := sessionOutcome s.coordinator key (s.sessions key) frame env
  unfold Identified
  rw [receive_sessions_self, receive_bindings_self, binding]
  generalize (s.coordinator.handle key (s.sessions key) frame env).2 = after at houtcome ⊢
  generalize bindingOf _ _ = made at houtcome ⊢
  intro hregistered
  cases houtcome with
  | kept => exact h hregistered
  | @greeted hello granted hrunning hkind hdecode hversion =>
    obtain ⟨hpublisher, hsession⟩ :=
      (hkeeps hrunning hregistered).1 hkind hello hdecode hversion
    have hgreeted : greetedPublisher (s.sessions key) hello = (s.sessions key).publisher := by
      unfold greetedPublisher
      rcases hpublisher with hempty | hsame
      · rw [if_pos hempty]
      · rw [hsame, ite_self]
    rw [Option.toList_none, List.nil_append, h hregistered, hgreeted, ← hsession]
    rfl
  | @identified request hrunning hkind hdecode hepoch hrefused =>
    rcases (hkeeps hrunning hregistered).2 hkind request hdecode hepoch with hadmits | hsame
    · exact absurd hadmits hrefused
    · rw [Option.toList_none, List.nil_append, h hregistered, hsame]
      rfl
  | bound hrunning hkind hdecode hepoch hadmits => rfl

end Receive

/-- A frame moves the session and the history of its own connection only. -/
theorem identified_step {s : System} {e : Event} (hkeeps : s.KeepsIdentity e)
    (h : ∀ key, s.Identified key) (key : Bytes) : (s.step e).Identified key := by
  cases e with
  | frame k frame env =>
    by_cases hkey : key = k
    · rw [hkey]
      exact identified_receive (h k) hkeeps
    · have hother := h key
      unfold Identified at hother ⊢
      simpa only [step, receive, Function.update_of_ne hkey] using hother
  | close k env =>
    by_cases hkey : key = k
    · intro hregistered
      simp [hkey, step, close] at hregistered
    · have hother := h key
      unfold Identified at hother ⊢
      simpa only [step, close, Function.update_of_ne hkey] using hother
  | start boot env => exact h key
  | stop => exact h key
  | persist env => exact h key

/-- **Identity binding.** In every run whose handshakes and registrations keep to the rule,
a registered session has the identity of the last registration accepted on its connection. -/
theorem identity_of_last_binding (options : CoordinatorOptions) (file : Option Bytes)
    (events : List Event) (hkeeps : Along step KeepsIdentity (new options file) events)
    (key : Bytes) : (run step (new options file) events).Identified key := by
  have hstep : ∀ s e, KeepsIdentity s e → (∀ key, s.Identified key) →
      ∀ key, (s.step e).Identified key := fun s e hkeeps h => identified_step hkeeps h
  have hnew : ∀ key, (new options file).Identified key := by
    intro key hregistered
    cases hregistered
  exact run_invariant step hstep hnew hkeeps key

def sampleConnection : Bytes := text "conn-1"

def otherConnection : Bytes := text "conn-2"

def greeting (publisher : Bytes) : Frame :=
  ⟨.hello, 0, (encodeHello { publisher := .make publisher }).flatten⟩

def registration (publisher : Bytes) (boot : PublisherBootId) : Frame :=
  ⟨.registerPublisher, 2,
    (encodeRegisterPublisher { publisher := .make publisher, boot := boot }).flatten⟩

def openingEvents (publisher : Bytes) (boot : PublisherBootId) : List Event :=
  [.frame sampleConnection (greeting publisher) {},
    .frame sampleConnection (registration publisher boot) {}]

/-- A later boot is registered and then overtaken on another connection, so that a repetition of
it is refused. -/
def rebindingEvents : List Event :=
  .start 1 {} :: openingEvents (text "agent") 2 ++
    [.frame sampleConnection ⟨.heartbeat, 0, []⟩ {},
     .frame sampleConnection (registration (text "agent") 3) {},
     .frame otherConnection (greeting (text "agent")) {},
     .frame otherConnection (registration (text "agent") 4) {},
     .frame sampleConnection (registration (text "agent") 3) {}]

theorem keepsIdentity_of_unregistered {s : System} {key : Bytes} {frame : Frame} {env : Readings}
    (h : (s.sessions key).registered = false) : s.KeepsIdentity (.frame key frame env) :=
  fun _ hregistered => by rw [h] at hregistered; cases hregistered

def rebinding (i : ℕ) : System := run step (new {} none) (rebindingEvents.take i)

def readIdentity (s : System) (frame : Frame) : Option (PublisherId × PublisherBootId) :=
  (decodeRegisterPublisher s.coordinator.codecLimits frame.payload).toOption.map fun request =>
    (request.publisher, request.boot)

/-- A registration that is admitted or repeats what the session holds. -/
theorem keepsIdentity_of_read {s : System} {key payload : Bytes} {epoch : CoordinatorEpoch}
    {env : Readings} {publisher : PublisherId} {boot : PublisherBootId}
    (hread : readIdentity s ⟨.registerPublisher, epoch, payload⟩ = some (publisher, boot))
    (h : s.coordinator.classifier.publishers.Admits publisher boot ∨
      identityOf (s.sessions key) = ⟨publisher, boot,
        mintSessionId key publisher boot s.coordinator.classifier.epoch⟩) :
    s.KeepsIdentity (.frame key ⟨.registerPublisher, epoch, payload⟩ env) := by
  refine fun _ _ => ⟨nofun, fun _ request hrequest _ => ?_⟩
  have hsame : (request.publisher, request.boot) = (publisher, boot) := by
    have hdecoded : (decodeRegisterPublisher s.coordinator.codecLimits payload).toOption =
        some request := congrArg Except.toOption hrequest
    rw [readIdentity, hdecoded] at hread
    exact Option.some.inj hread
  obtain ⟨rfl, rfl⟩ := Prod.mk.inj hsame
  exact h

theorem rebinding_checked :
    ((∀ i ∈ [1, 2], ((rebinding i).sessions sampleConnection).registered = false) ∧
      ∀ i ∈ [5, 6], ((rebinding i).sessions otherConnection).registered = false) ∧
    (∀ i ∈ [4, 7], readIdentity (rebinding i) (registration (text "agent") 3) =
      some (.make (text "agent"), 3)) ∧
    (rebinding 4).coordinator.classifier.publishers.Admits (.make (text "agent")) 3 ∧
    identityOf ((rebinding 7).sessions sampleConnection) = ⟨.make (text "agent"), 3,
      mintSessionId sampleConnection (.make (text "agent")) 3
        (rebinding 7).coordinator.classifier.epoch⟩ ∧
    ((rebinding 8).sessions sampleConnection).registered = true ∧
    ((rebinding 8).bindings sampleConnection).map Binding.boot = [3, 2] ∧
    ((rebinding 8).bindings otherConnection).map Binding.boot = [4] := by
  decide +kernel

theorem identity_of_last_binding_sample :
    (rebinding 8 = run step (new {} none) rebindingEvents ∧
      ((rebinding 8).sessions sampleConnection).registered = true) ∧
    ((rebinding 8).bindings sampleConnection).map Binding.boot = [3, 2] ∧
    ((rebinding 8).bindings otherConnection).map Binding.boot = [4] ∧
    (rebinding 8).Identified sampleConnection ∧ (rebinding 8).Identified otherConnection := by
  obtain ⟨⟨hsample, hother⟩, hread, hadmits, hsame, hregistered, hbound, hbound'⟩ :=
    rebinding_checked
  have hlater : KeepsIdentity (rebinding 4) (.frame sampleConnection (registration _ 3) {}) :=
    keepsIdentity_of_read (hread 4 (by simp)) (Or.inl hadmits)
  have hagain : KeepsIdentity (rebinding 7) (.frame sampleConnection (registration _ 3) {}) :=
    keepsIdentity_of_read (hread 7 (by simp)) (Or.inr hsame)
  have hkeeps : Along step KeepsIdentity (new {} none) rebindingEvents :=
    ⟨trivial, keepsIdentity_of_unregistered (hsample 1 (by simp)),
      keepsIdentity_of_unregistered (hsample 2 (by simp)), fun _ _ => ⟨nofun, nofun⟩, hlater,
      keepsIdentity_of_unregistered (hother 5 (by simp)),
      keepsIdentity_of_unregistered (hother 6 (by simp)), hagain, trivial⟩
  exact ⟨⟨rfl, hregistered⟩, hbound, hbound',
    identity_of_last_binding {} none rebindingEvents hkeeps sampleConnection,
    identity_of_last_binding {} none rebindingEvents hkeeps otherConnection⟩

/-- A second HELLO renames the publisher of a registered session. -/
theorem hello_renames_registered_session :
    ¬ (run step (new {} none) (.start 1 {} :: openingEvents (text "agent") 2 ++
      [.frame sampleConnection (greeting (text "other")) {}])).Identified sampleConnection := by
  intro h
  exact absurd (h (by decide +kernel)) (by decide +kernel)

def calls (s : System) : List Event → List Operation
  | [] => []
  | e :: events => s.operations e ++ (s.step e).calls events

/-- Whatever frames arrive on whatever connections, the classifier goes through a run of its
own operations. -/
theorem run_refines_classifier (s : System) (events : List Event) :
    (run step s events).coordinator.classifier =
      run Classifier.step s.coordinator.classifier (s.calls events) := by
  induction events generalizing s with
  | nil => rfl
  | cons e events ih =>
    rw [calls, run, run, List.foldl_append, List.foldl_cons, ← run, ← run, ih, step_classifier]
    rfl

/-- A connection that has not registered sends anything but a registration, or is closed. -/
def Unregistered (s : System) : Event → Prop
  | .frame key frame _ => (s.sessions key).registered = false ∧ frame.kind ≠ .registerPublisher
  | .close key _ => (s.sessions key).registered = false
  | .start .. => False
  | .stop | .persist _ => True

/-- Without a registration a frame leads to queries at most. -/
theorem answered_unregistered {s : System} {e : Event} (h : s.Unregistered e) :
    Classifier.Answered s.coordinator.classifier (s.step e).coordinator.classifier := by
  rw [step_classifier]
  cases e with
  | frame key frame env =>
    obtain ⟨hsession, hkind⟩ := h
    have hrefused : ∀ {envelope},
        s.coordinator.requireRegistered (s.sessions key) frame ≠ .ok envelope := by
      intro envelope henvelope
      rw [requireRegistered, hsession] at henvelope
      split at henvelope <;> cases henvelope
    rw [operations, asked, Coordinator.operations]
    cases hasked : s.coordinator.handledOperation key (s.sessions key) frame env with
    | none => exact Classifier.Answered.refl _
    | some op =>
      cases (asks_of_handledOperation _ _ _ _ _ hasked).2 with
      | registerPublisher hregister => exact absurd hregister hkind
      | classifyBatch => exact Classifier.answered_classifyBatch _ _
      | heartbeat _ hregistered => cases hsession.symm.trans hregistered
      | _ => exact absurd ‹_ = Except.ok _› hrefused
  | close key env =>
    rw [operations, asked, Coordinator.operations, show (s.sessions key).registered = false from h]
    exact Classifier.Answered.refl _
  | start => exact h.elim
  | stop | persist => exact Classifier.Answered.refl _

/-- Without a registered session nothing that decides a classification changes, whatever is
sent: no policy, publisher, workload, flow, record, revocation or number. -/
theorem unregistered_change_nothing {s : System} {events : List Event}
    (h : Along step Unregistered s events) :
    Classifier.Answered s.coordinator.classifier (run step s events).coordinator.classifier := by
  have hstep : ∀ t e, Unregistered t e →
      Classifier.Answered s.coordinator.classifier t.coordinator.classifier →
      Classifier.Answered s.coordinator.classifier (t.step e).coordinator.classifier :=
    fun _ _ he ht => ht.trans (answered_unregistered he)
  exact run_invariant step hstep (Classifier.Answered.refl _) h

def publishFrame : Frame :=
  ⟨.publishEvidence, 2,
    (encodePublishEvidence (Classifier.samplePayload .declaredAuthenticated 1)).flatten⟩

def publishingEvents : List Event :=
  .start 1 {} :: openingEvents (text "agent") 2 ++ [.frame sampleConnection publishFrame {}]

/-- Another peer greets as the same publisher, publishes without a registration, asks about
the flow and leaves. -/
def intrudingEvents : List Event :=
  [.frame otherConnection (greeting (text "agent")) {},
   .frame otherConnection publishFrame {},
   .frame otherConnection ⟨.classify, 2,
     (encodeClassifyRequest [{ key := Classifier.sampleKey }]).flatten⟩ {},
   .close otherConnection {}]

def holding : System := run step (new {} none) publishingEvents

def intruded (i : ℕ) : System := run step holding (intrudingEvents.take i)

theorem intruded_checked :
    (∀ s ∈ [holding, intruded 1, intruded 2, intruded 3],
        (s.sessions otherConnection).registered = false) ∧
      holding.coordinator.classifier.evidence.byId.size = 1 ∧
      (intruded 4).coordinator.stats.messagesRefused =
        holding.coordinator.stats.messagesRefused + 1 := by
  decide +kernel

theorem unregistered_change_nothing_refused :
    (intruded 4 = run step holding intrudingEvents ∧
      holding.coordinator.classifier.evidence.byId.size = 1 ∧
      (intruded 4).coordinator.stats.messagesRefused =
        holding.coordinator.stats.messagesRefused + 1) ∧
    Classifier.Answered holding.coordinator.classifier
      (run step holding intrudingEvents).coordinator.classifier := by
  obtain ⟨hsession, hstored, hrefused⟩ := intruded_checked
  have hunregistered : Along step Unregistered holding intrudingEvents :=
    ⟨⟨hsession holding (by simp), nofun⟩, ⟨hsession (intruded 1) (by simp), nofun⟩,
      ⟨hsession (intruded 2) (by simp), nofun⟩, hsession (intruded 3) (by simp), trivial⟩
  exact ⟨⟨rfl, hstored, hrefused⟩, unregistered_change_nothing hunregistered⟩

end System
end FlowClassifier
