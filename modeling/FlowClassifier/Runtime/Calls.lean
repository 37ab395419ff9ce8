import FlowClassifier.Runtime.Requests

/-!
The calls of a coordinator as one step relation. A start is a recovery followed by an epoch
advance, and ends in one of four ways. Whatever is called, the classifier goes through a run
of its own operations, so what its operations keep is kept by every call.
-/
namespace FlowClassifier

open Lib Foundation Codec

/-- What may be asked of a coordinator, or of its classifier directly. -/
inductive Call where
  | start (boot : CoordinatorBootId) (env : Readings)
  | stop
  | operate (op : Operation)
  | handle (key : Bytes) (session : CoordinatorSession) (frame : Frame) (env : Readings)
  | closeSession (session : CoordinatorSession) (env : Readings)
  | persist (env : Readings)

namespace Coordinator

def call (co : Coordinator) : Call → Coordinator
  | .start boot env => (co.start boot env).2
  | .stop => co.stop
  | .operate op => { co with classifier := co.classifier.step op }
  | .handle key session frame env => (co.handle key session frame env).1.2
  | .closeSession session env => co.closeSession session env
  | .persist env => (co.persist env).2

def recoverOperations (co : Coordinator) (boot : CoordinatorBootId) (env : Readings) :
    List Operation :=
  if co.options.statePath.isEmpty then []
  else
    match env.directory, co.readSnapshotFile env with
    | .ok (), .ok snapshot =>
      (if snapshot.state.policy.generation ≠ 0 then [.setPolicy snapshot.state.policy] else []) ++
        [.restore snapshot.state boot env.tick]
    | _, _ => []

def startOperations (co : Coordinator) (boot : CoordinatorBootId) (env : Readings) :
    List Operation :=
  if co.running ∨ boot = 0 then []
  else
    co.recoverOperations boot env ++
      if (co.recover boot env).1.isOk then [.advanceEpoch boot] else []

def operations (co : Coordinator) : Call → List Operation
  | .start boot env => co.startOperations boot env
  | .operate op => [op]
  | .handle key session frame env => (co.handledOperation key session frame env).toList
  | .closeSession session env =>
    if session.registered then
      [.endPublisherSession session.publisher session.publisherBoot session.session env.tick]
    else []
  | .stop | .persist _ => []

variable {co : Coordinator} {boot : CoordinatorBootId} {env : Readings}

/-- A recovery acts on the classifier only. -/
theorem recover_spec (co : Coordinator) (boot : CoordinatorBootId) (env : Readings) :
    (co.recover boot env).2.options = co.options ∧ (co.recover boot env).2.file = co.file ∧
      (co.recover boot env).2.running = co.running ∧ (co.recover boot env).2.classifier =
        run Classifier.step co.classifier (co.recoverOperations boot env) := by
  unfold recover recoverOperations
  split_ifs with hpath
  · exact ⟨rfl, rfl, rfl, rfl⟩
  cases env.directory with
  | error e => exact ⟨rfl, rfl, rfl, rfl⟩
  | ok u =>
    cases co.readSnapshotFile env with
    | error e =>
      dsimp only
      split_ifs <;> exact ⟨rfl, rfl, rfl, rfl⟩
    | ok snapshot =>
      dsimp only
      split_ifs with hpolicy
      · split <;> simp_all [run, Classifier.step]
      · split <;> simp_all [run, Classifier.step]

/-- How a start ends. Only the last way leaves the coordinator running. -/
inductive StartOutcome (co : Coordinator) (boot : CoordinatorBootId) (env : Readings) :
    Result Unit × Coordinator → Prop
  | refused (e : Failure) (hrefused : co.running = true ∨ boot = 0) :
    StartOutcome co boot env (.error e, co)
  | unrecovered (e : Failure) (hidle : co.running = false) (hboot : boot ≠ 0)
      (hrecover : (co.recover boot env).1 = .error e) :
    StartOutcome co boot env (.error e, (co.recover boot env).2)
  | exhausted (e : Failure) (hidle : co.running = false) (hboot : boot ≠ 0)
      (hrecover : (co.recover boot env).1 = .ok ())
      (hadvance : ((co.recover boot env).2.classifier.advanceEpoch boot).1 = .error e) :
    StartOutcome co boot env (.error e,
      { (co.recover boot env).2 with
        classifier := ((co.recover boot env).2.classifier.advanceEpoch boot).2 })
  | started (epoch : CoordinatorEpoch) (hidle : co.running = false) (hboot : boot ≠ 0)
      (hrecover : (co.recover boot env).1 = .ok ())
      (hadvance : ((co.recover boot env).2.classifier.advanceEpoch boot).1 = .ok epoch) :
    StartOutcome co boot env (.ok (),
      { (co.recover boot env).2 with
        classifier := ((co.recover boot env).2.classifier.advanceEpoch boot).2
        running := true })

/-- The exits of `start`; every effect of a start is read off them. -/
theorem startOutcome (co : Coordinator) (boot : CoordinatorBootId) (env : Readings) :
    StartOutcome co boot env (co.start boot env) := by
  unfold start
  split_ifs with hrunning hboot
  · exact .refused _ (Or.inl hrunning)
  · exact .refused _ (Or.inr hboot)
  have hidle := Bool.eq_false_iff.mpr hrunning
  have hunrecovered := fun e => @StartOutcome.unrecovered co boot env e hidle hboot
  have hexhausted := fun e => @StartOutcome.exhausted co boot env e hidle hboot
  have hstarted := fun epoch => @StartOutcome.started co boot env epoch hidle hboot
  generalize co.recover boot env = recovered at hunrecovered hexhausted hstarted ⊢
  obtain ⟨e | ⟨⟩, co'⟩ := recovered
  · exact hunrecovered e rfl
  · dsimp only at hexhausted hstarted ⊢
    generalize co'.classifier.advanceEpoch boot = advanced at hexhausted hstarted ⊢
    obtain ⟨e | epoch, classifier⟩ := advanced
    · exact hexhausted e rfl rfl
    · exact hstarted epoch rfl rfl

/-- Starting reads the file and never writes it. -/
theorem start_file (co : Coordinator) (boot : CoordinatorBootId) (env : Readings) :
    (co.start boot env).2.file = co.file ∧ (co.start boot env).2.options = co.options := by
  obtain ⟨hoptions, hfile, -, -⟩ := recover_spec co boot env
  have houtcome := startOutcome co boot env
  generalize co.start boot env = out at houtcome ⊢
  cases houtcome with
  | refused => exact ⟨rfl, rfl⟩
  | unrecovered | exhausted | started => exact ⟨hfile, hoptions⟩

theorem start_of_running (h : co.running = true) : (co.start boot env).2 = co := by
  unfold start
  rw [if_pos h]

/-- A coordinator is running after a start that succeeds, and after no other. -/
theorem start_running (hidle : co.running = false) :
    (co.start boot env).2.running = true ↔ (co.start boot env).1 = .ok () := by
  obtain ⟨-, -, hrunning, -⟩ := recover_spec co boot env
  rw [hidle] at hrunning
  have houtcome := startOutcome co boot env
  generalize co.start boot env = out at houtcome ⊢
  cases houtcome with
  | refused => exact iff_of_false (by simp [hidle]) nofun
  | unrecovered => exact iff_of_false (by simp [hrunning]) nofun
  | exhausted => exact iff_of_false (by simp [hrunning]) nofun
  | started => exact iff_of_true rfl rfl

/-- A start that succeeds has recovered and has moved the epoch on. -/
theorem start_ok_iff (hidle : co.running = false) (hboot : boot ≠ 0) :
    ((co.start boot env).1 = .ok () ↔ (co.recover boot env).1 = .ok () ∧
      ∃ epoch, ((co.recover boot env).2.classifier.advanceEpoch boot).1 = .ok epoch) ∧
    ((co.recover boot env).1 = .ok () → (co.start boot env).2.classifier =
      ((co.recover boot env).2.classifier.advanceEpoch boot).2) := by
  have houtcome := startOutcome co boot env
  generalize co.start boot env = out at houtcome ⊢
  cases houtcome with
  | refused _ hrefused => exact (hrefused.elim (by simp [hidle]) hboot).elim
  | unrecovered _ _ _ hrecover => simp [hrecover]
  | exhausted _ _ _ hrecover hadvance => simp [hrecover, hadvance]
  | started _ _ _ hrecover hadvance => simp [hrecover, hadvance]

/-- A start is a run of the classifier, whichever way it ends. -/
theorem start_classifier (co : Coordinator) (boot : CoordinatorBootId) (env : Readings) :
    (co.start boot env).2.classifier =
      run Classifier.step co.classifier (co.startOperations boot env) := by
  obtain ⟨-, -, -, hclassifier⟩ := recover_spec co boot env
  unfold startOperations
  have houtcome := startOutcome co boot env
  generalize co.start boot env = out at houtcome ⊢
  cases houtcome with
  | refused _ hrefused => rw [if_pos hrefused]; rfl
  | unrecovered _ hidle hboot hrecover =>
    rw [if_neg (by simp [hidle, hboot]), hrecover, hclassifier]
    exact congrArg _ (List.append_nil _).symm
  | exhausted _ hidle hboot hrecover | started _ hidle hboot hrecover =>
    rw [run] at hclassifier
    rw [if_neg (by simp [hidle, hboot]), hrecover, run, List.foldl_append, ← hclassifier]
    rfl

theorem closeSession_classifier (co : Coordinator) (session : CoordinatorSession)
    (env : Readings) :
    (co.closeSession session env).classifier =
      run Classifier.step co.classifier (co.operations (.closeSession session env)) := by
  unfold closeSession operations
  dsimp only
  cases session.registered with
  | false => rfl
  | true =>
    simp only [Bool.not_true, Bool.false_eq_true, if_false, if_true]
    split_ifs
    · rw [persist_classifier]
      rfl
    · rfl

/-- A call of the coordinator is a run of the classifier. -/
theorem call_classifier (co : Coordinator) (asked : Call) : (co.call asked).classifier =
      run Classifier.step co.classifier (co.operations asked) := by
  cases asked with
  | start boot env => exact start_classifier co boot env
  | stop | operate => rfl
  | handle key session frame env =>
    show (co.handle key session frame env).1.2.classifier = _
    rw [handle_classifier, operations]
    cases co.handledOperation key session frame env <;> rfl
  | closeSession session env => exact closeSession_classifier co session env
  | persist env => exact persist_classifier co env

/-- What the operations of a call keep is kept by the call. -/
theorem call_keeps {P : Classifier → Prop} {asked : Call}
    (hstep : ∀ c, P c → ∀ op ∈ co.operations asked, P (c.step op)) (h : P co.classifier) :
    P (co.call asked).classifier := by
  rw [call_classifier]
  exact List.foldlRecOn (motive := P) _ _ h hstep

end Coordinator

/-- What may happen on one state file: a new process with its own configuration is launched,
or the present one is called. -/
inductive ChainEvent where
  | launch (options : CoordinatorOptions) (boot : CoordinatorBootId) (env : Readings)
  | call (asked : Call)

namespace ChainEvent

def process (co : Coordinator) : ChainEvent → Coordinator
  | .launch options _ _ => .new options co.file
  | .call _ => co

def asked : ChainEvent → Call
  | .launch _ boot env => .start boot env
  | .call asked => asked

end ChainEvent

def Coordinator.next (co : Coordinator) (e : ChainEvent) : Coordinator :=
  (e.process co).call e.asked

end FlowClassifier
