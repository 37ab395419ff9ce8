import FlowClassifier.MemoTransparency

/-!
How long a revocation lasts. The revocation of a generation is an entry of a bounded log
that drops its oldest entry. While the entry is in the log, every classification of that
generation is REVOKED and names no class; it stays there until as many revocations and
withdrawals have followed as the log holds.
-/
namespace FlowClassifier

open Lib Foundation Buffers Hash Flows Policies Classifications Engine DecisionSpec EngineCorrect
  DecisionKeys Store

variable {c : Classifier} {op : Operation} {n : ℕ} {tick : Tick}

namespace Classifier

variable {d : ClassificationIndex} {flow : FlowId} {generation : FlowGeneration}

/-- An entry with fewer successors than the log holds survives the next entry. -/
theorem pushBounded_keeps {α : Type} {bound : UInt32} {xs before after : List α} {x : α}
    (h : xs = before ++ x :: after) (hroom : after.length + 1 < bound.toNat) (y : α) :
    ∃ before', pushBounded bound xs y = before' ++ x :: (after ++ [y]) := by
  subst h
  unfold pushBounded
  rw [if_neg (by simp [erasesEmpty])]
  split_ifs with hfull
  · cases before with
    | nil =>
      simp only [List.nil_append, List.length_cons] at hfull
      omega
    | cons a rest => exact ⟨rest, by simp⟩
  · exact ⟨before, by simp⟩

def files (c : Classifier) : Operation → Bool
  | .withdrawEvidence envelope id reason tick =>
    (c.withdrawEvidence envelope id reason tick).1.isOk
  | .revokeGeneration envelope flow generation reason tick =>
    (c.revokeGeneration envelope flow generation reason tick).1.isOk
  | _ => false

def filedAlong (c : Classifier) : List Operation → ℕ
  | [] => 0
  | op :: rest => (if c.files op then 1 else 0) + filedAlong (c.step op) rest

/-- The step sets no policy of another content and restores nothing. -/
def KeepsLog (c : Classifier) : Operation → Prop
  | .setPolicy policy => ∀ next, ClassifierPolicy.canonicalize policy = .ok next →
      computePolicyDigest next = c.policyDigest ∧ c.policy.generation ≠ 0
  | .restore .. => False
  | _ => True

/-- What a step does to the log of revocations. -/
inductive LogStep (d d' : ClassificationIndex) : Bool → Prop
  | kept (hlog : d'.revocations = d.revocations) (hbound : d'.maxRevocations = d.maxRevocations) :
    LogStep d d' false
  | filed {r : RevocationRecord}
    (hlog : d'.revocations = pushBounded d.maxRevocations d.revocations r)
    (hbound : d'.maxRevocations = d.maxRevocations) : LogStep d d' true

theorem LogStep.maxRevocations {d' : ClassificationIndex} {filed : Bool}
    (h : LogStep d d' filed) : d'.maxRevocations = d.maxRevocations := by
  cases h with
  | kept _ hbound => exact hbound
  | filed _ hbound => exact hbound

theorem logStep_of_sameLog {d' : ClassificationIndex} (h : d.SameLog d') : LogStep d d' false :=
  .kept h.revocations h.maxRevocations

theorem logStep_fileRevocation (h : c.decisions = d)
    (envelope : SessionEnvelope) (flow : FlowId) (generation : FlowGeneration) (id : EvidenceId)
    (tick : Tick) (reason : Bytes) :
    let out := c.fileRevocation envelope flow generation id tick reason
    LogStep d out.2.decisions out.1.isOk := by
  subst h
  unfold fileRevocation
  cases c.sequence.next with
  | error e => exact .kept rfl rfl
  | ok sequence => exact .filed rfl rfl

theorem logStep_step (c : Classifier) (h : KeepsLog c op) :
    LogStep c.decisions (c.step op).decisions (c.files op) := by
  cases op with
  | setPolicy policy =>
    rw [step, setPolicy]
    split
    · exact .kept rfl rfl
    next next hcanonical =>
      rw [if_pos (h next hcanonical)]
      exact .kept rfl rfl
  | withdrawEvidence envelope id reason tick =>
    rcases withdrawEvidence_cases c envelope id reason tick with ⟨e, h⟩ | ⟨_, _, -, h⟩
    · rw [step, files, h]
      exact .kept rfl rfl
    · rw [step, files, h]
      exact logStep_fileRevocation (by rfl) _ _ _ _ _ _
  | revokeGeneration envelope flow generation reason tick =>
    rcases revokeGeneration_cases c envelope flow generation reason tick with
      ⟨e, h⟩ | ⟨e, h⟩ | ⟨applied, h⟩
    · rw [step, files, h]
      exact .kept rfl rfl
    · rw [step, files, h]
      exact .kept rfl rfl
    · rw [step, files, h]
      exact logStep_fileRevocation (by rfl) _ _ _ _ _ _
  | classify => exact logStep_of_sameLog (answered_classify c _ _).log
  | classifyBatch => exact logStep_of_sameLog (answered_classifyBatch c _).log
  | explain => exact logStep_of_sameLog (answered_explain c _ _ _ _).log
  | restore => exact h.elim
  | _ =>
    refine decisions_rule (Q := (LogStep c.decisions · false)) id (.kept rfl rfl)
      (fun _ _ => logStep_of_sameLog (ClassificationIndex.supersedeGeneration_spec _ _ _).1) ?_
      False.elim
    rintro - d r (⟨hlog, hbound⟩)
    exact .kept hlog hbound

/-- The log names the generation, in an entry with at most so many successors. -/
def Logged (d : ClassificationIndex) (flow : FlowId) (generation : FlowGeneration) (n : ℕ) :
    Prop :=
  ∃ before r after, d.revocations = before ++ r :: after ∧ after.length ≤ n ∧
    r.flowId = flow ∧ r.flowGeneration = generation ∧ r.evidenceId = .none

theorem Logged.isRevoked (h : Logged d flow generation n) : d.isRevoked flow generation = true := by
  obtain ⟨before, r, after, hlog, -, hflow, hgeneration, hid⟩ := h
  rw [ClassificationIndex.isRevoked, List.any_eq_true]
  refine ⟨r, by simp [hlog], ?_⟩
  simp only [hflow, hgeneration, hid, beq_self_eq_true, Bool.true_and]
  rfl

theorem Logged.step {flow : FlowId} {generation : FlowGeneration}
    (h : Logged c.decisions flow generation n) (hop : KeepsLog c op)
    (hroom : c.files op = true → n + 1 < c.decisions.maxRevocations.toNat) :
    Logged (c.step op).decisions flow generation (n + if c.files op then 1 else 0) := by
  obtain ⟨before, r, after, hlog, hafter, hnames⟩ := h
  have hstep := logStep_step c hop
  generalize c.files op = filed at hstep hroom ⊢
  cases hstep with
  | kept hkept _ => exact ⟨before, r, after, hkept.trans hlog, hafter, hnames⟩
  | @filed r' hpush _ =>
    have hspare : after.length + 1 < c.decisions.maxRevocations.toNat := by
      have := hroom rfl
      omega
    obtain ⟨before', hkept⟩ := pushBounded_keeps hlog hspare r'
    refine ⟨before', r, after ++ [r'], hpush.trans hkept, ?_, hnames⟩
    simpa using hafter

theorem Logged.run (h : Logged c.decisions flow generation n) {ops : List Operation}
    (hkeeps : Along Classifier.step KeepsLog c ops)
    (hroom : n + filedAlong c ops < c.decisions.maxRevocations.toNat ∨ filedAlong c ops = 0) :
    Logged (Lib.run Classifier.step c ops).decisions flow generation (n + filedAlong c ops) := by
  induction ops generalizing c n with
  | nil => exact h
  | cons op rest ih =>
    have hbound := (logStep_step c hkeeps.1).maxRevocations
    rw [filedAlong] at hroom ⊢
    have hnext := h.step hkeeps.1 (fun hfiled => by rw [if_pos hfiled] at hroom; omega)
    have hrest := ih hnext hkeeps.2 (by rw [hbound]; omega)
    rw [← Nat.add_assoc]
    exact hrest

/-- A successful revocation is the newest entry of a log that can hold one. -/
theorem logged_revokeGeneration {c' : Classifier} {envelope : SessionEnvelope} {reason : Bytes}
    (h : c.revokeGeneration envelope flow generation reason tick = (.ok (), c'))
    (hbound : c'.decisions.maxRevocations ≠ 0) : Logged c'.decisions flow generation 0 := by
  rcases revokeGeneration_cases c envelope flow generation reason tick with
    ⟨e, heq⟩ | ⟨e, heq⟩ | ⟨applied, heq⟩
  · rw [heq] at h
    cases h
  · rw [heq] at h
    cases h
  · rw [heq] at h
    unfold fileRevocation at h
    cases hnext : c.sequence.next with
    | error e =>
      simp only [hnext] at h
      cases h
    | ok sequence =>
      simp only [hnext] at h
      cases h
      have hdefined : ¬ erasesEmpty c.decisions.maxRevocations c.decisions.revocations = true := by
        rw [erasesEmpty, Bool.and_eq_true, beq_iff_eq]
        exact fun h => hbound h.2
      exact ⟨_, _, [], if_neg hdefined, le_refl _, rfl, rfl, rfl⟩

def Digested (scope : HashScope) (i : DecisionInput) : Prop :=
  (evidenceSetDigestChunks i).flatten ∈ scope.messages ∧
    (evidenceSetDigestChunks i).flatten.length ≤ maxBlobBytes

def Digests (scope : HashScope) (c : Classifier) : Operation → Prop
  | .classify query tick => ∀ input,
      c.queryInput query.flowKey query.flowGeneration tick = some input → Digested scope input
  | .classifyBatch queries => ∀ q ∈ queries, ∀ input,
      c.queryInput q.1.flowKey q.1.flowGeneration q.2 = some input → Digested scope input
  | .explain key generation tick _ => ∀ input,
      c.queryInput key generation tick = some input → Digested scope input
  | _ => True

section Answers

variable {scope : HashScope}

theorem memoOf_step (hmemo : MemoOf (Digested scope) c)
    (h : Digests scope c op) : MemoOf (Digested scope) (c.step op) := by
  apply hmemo.step
  cases op <;> exact h

theorem memoOf_run {ops : List Operation} (hmemo : MemoOf (Digested scope) c)
    (h : Along step (Digests scope) c ops) : MemoOf (Digested scope) (run step c ops) := by
  have hstep : ∀ d op, Digests scope d op → MemoOf (Digested scope) d →
      MemoOf (Digested scope) (d.step op) := fun d op hop hd => memoOf_step hd hop
  exact run_invariant step hstep hmemo h

/-- The key of an input tells whether its generation is revoked. -/
theorem DecidedAs.undecided {input : DecisionInput} {x : Classification}
    (h : DecidedAs (Digested scope) input x) (hrev : input.generationRevoked = true) :
    Undecided x .revoked := by
  obtain ⟨⟨hmem, hfits⟩, i, rfl, htext, hmem', hfits'⟩ := h
  have hdigest := congrArg DecisionKey.evidenceDigest (decisionKeyText_injective htext)
  simp only [decisionKey, computeEvidenceSetDigest] at hdigest
  have hflatten := digestOfChunks_injOn scope.sha256_injOn hmem' hmem hfits' hfits hdigest
  exact decide_revoked ((sameEncoding_of_flatten hfits' hfits hflatten).revoked.trans hrev)

def Asks (c : Classifier) (query : ClassificationQuery) (flow : FlowId)
    (generation : FlowGeneration) : Prop :=
  ∃ f, c.flows.current.lookup query.flowKey = some f ∧ f.id = flow ∧
    (if query.flowGeneration = 0 then f.generation else query.flowGeneration) = generation

theorem Drawn.undecided {query : ClassificationQuery}
    {result : ClassificationResult} (h : Drawn (Digested scope) c query tick result)
    (hasks : Asks c query flow generation) (hrev : c.decisions.isRevoked flow generation = true) :
    Undecided result.classification .revoked := by
  obtain ⟨input, hinput, hdecided, -⟩ := h
  obtain ⟨f, hf, rfl, rfl⟩ := hasks
  rw [queryInput_eq hf] at hinput
  cases hinput
  exact hdecided.undecided hrev

/-- After a successful revocation, until as many revocations and withdrawals have followed
as the log holds, every answer for the generation is REVOKED and of no class. -/
theorem revoked_while_logged {c' : Classifier} {options : ClassifierOptions}
    {earlier later : List Operation} {envelope : SessionEnvelope} {flow : FlowId}
    {generation : FlowGeneration} {reason : Bytes} {tick : Tick}
    (hc : c = run step (.new options) earlier)
    (hearlier : Along step (Digests scope) (.new options) earlier)
    (hrevoked : c.revokeGeneration envelope flow generation reason tick = (.ok (), c'))
    (hlater : Along step (fun c op => Digests scope c op ∧ KeepsLog c op) c' later)
    (hroom : filedAlong c' later < c'.decisions.maxRevocations.toNat) :
    let d := run step c' later
    EveryAnswer (Digests scope d) d fun query _ result => Asks d query flow generation →
      result.classification.state = .revoked ∧ result.classification.semantic = .unknown := by
  intro d
  have hmemo : MemoOf (Digested scope) c := by
    rw [hc]
    exact memoOf_run (memoOf_of_empty rfl) hearlier
  have hmemo' : MemoOf (Digested scope) c' := by
    have hstep := @memoOf_step c (.revokeGeneration envelope flow generation reason tick) scope
      hmemo trivial
    rw [step, hrevoked] at hstep
    exact hstep
  have hdigests : MemoOf (Digested scope) d := memoOf_run hmemo' (hlater.imp fun _ _ h => h.1)
  have hrev : d.decisions.isRevoked flow generation = true := by
    have hbound : c'.decisions.maxRevocations ≠ 0 := by
      intro hzero
      rw [hzero] at hroom
      exact absurd hroom (Nat.not_lt_zero _)
    have hlogged := logged_revokeGeneration hrevoked hbound
    refine (hlogged.run (hlater.imp fun _ _ h => h.2) (Or.inl ?_)).isRevoked
    rw [Nat.zero_add]
    exact hroom
  have hanswer : ∀ {query tick result}, Drawn (Digested scope) d query tick result →
      Asks d query flow generation →
      result.classification.state = .revoked ∧ result.classification.semantic = .unknown := by
    intro query tick result hdrawn hasks
    have hundecided := hdrawn.undecided hasks hrev
    exact ⟨hundecided.state_eq, hundecided.semantic⟩
  refine ⟨?_, ?_⟩
  · intro query tick hquery result hresult
    exact hanswer (((asked_classify d query tick).memoOf hdigests hquery).2 result hresult)
  · intro queries hqueries outcome houtcome
    exact ((memoOf_classifyBatch hdigests hqueries).2 outcome houtcome).imp fun _ _ _ => hanswer

end Answers

def otherKey : FlowKey := { sampleKey with localPort := 4001 }

def registrations : List Operation :=
  [.registerFlow sampleKey 0 (.make (text "s1")) 2,
   .registerFlow otherKey 0 (.make (text "s1")) 2]

def twoFlows (options : ClassifierOptions) : Classifier := run step (.new options) registrations

def revokeFirst (key : FlowKey) : Operation :=
  .revokeGeneration sampleEnvelope (deriveFlowId key) 1 [] 3

def afterwards : List Operation := [.classify { flowKey := sampleKey } 5, .advanceEpoch 2]

def revokedThenAdvanced : Classifier :=
  run step ((twoFlows {}).step (revokeFirst sampleKey)) afterwards

def revocationMessages : List Bytes :=
  queryMessages ((twoFlows {}).step (revokeFirst sampleKey)) sampleKey 5 ++
    queryMessages revokedThenAdvanced sampleKey 5

theorem digested_ofLists {messages : List Bytes} {keys : List FlowKey}
    (hmessages : (messages.map fun m => (sha256 m).bytes.toList.take 16).Nodup)
    (hkeys : (keys.map deriveFlowId).Nodup) {key : FlowKey}
    (h : (c.queryInput key 0 tick).all (fun i => (evidenceSetDigestChunks i).flatten ∈ messages ∧
        (evidenceSetDigestChunks i).flatten.length ≤ maxBlobBytes) = true) :
    ∀ input, c.queryInput key 0 tick = some input →
      Digested (.ofLists messages keys hmessages hkeys) input := by
  intro input hinput
  rw [hinput, Option.all_some, decide_eq_true_iff] at h
  exact h

/-- The answer after the run is REVOKED, in the next epoch too. -/
theorem revoked_while_logged_sample :
    ∃ result, (revokedThenAdvanced.classify { flowKey := sampleKey } 5).1 = .ok result ∧
      result.classification.state = .revoked ∧ result.classification.semantic = .unknown := by
  obtain ⟨result, hresult⟩ := exists_ok (by decide +kernel :
    (revokedThenAdvanced.classify { flowKey := sampleKey } 5).1.isOk = true)
  have hnodup : (revocationMessages.map fun m => (sha256 m).bytes.toList.take 16).Nodup := by
    decide +kernel
  have hok : ((twoFlows {}).revokeGeneration sampleEnvelope (deriveFlowId sampleKey) 1 [] 3).1 =
      .ok () := by
    decide +kernel
  have hrevoked : (twoFlows {}).revokeGeneration sampleEnvelope (deriveFlowId sampleKey) 1 [] 3 =
      (.ok (), (twoFlows {}).step (revokeFirst sampleKey)) := by
    rw [revokeFirst, step, ← hok]
  have hasks : Asks revokedThenAdvanced { flowKey := sampleKey } (deriveFlowId sampleKey) 1 := by
    have hfound : ∃ f, revokedThenAdvanced.flows.current.lookup sampleKey = some f ∧
        f.id = deriveFlowId sampleKey ∧ f.generation = 1 := by
      decide +kernel
    simpa [Asks] using hfound
  let scope : HashScope := .ofLists revocationMessages [] hnodup List.nodup_nil
  have hearlier : Along step (Digests scope) (.new {}) registrations := ⟨trivial, trivial, trivial⟩
  have hlater : Along step (fun c op => Digests scope c op ∧ KeepsLog c op)
      ((twoFlows {}).step (revokeFirst sampleKey)) afterwards :=
    ⟨⟨digested_ofLists _ _ (by decide +kernel), trivial⟩, ⟨trivial, trivial⟩, trivial⟩
  have hholds := revoked_while_logged rfl hearlier hrevoked hlater (by decide +kernel)
  have hdigests : Digests scope revokedThenAdvanced (.classify { flowKey := sampleKey } 5) :=
    digested_ofLists _ _ (by decide +kernel)
  exact ⟨result, hresult, hholds.1 { flowKey := sampleKey } 5 hdigests result hresult hasks⟩

/-- With room for one revocation, the next one pushes the first out of the log. -/
theorem revocation_outlived :
    let options : ClassifierOptions :=
      { policy := { ClassifierPolicy.initial with limits := { maxRevocations := 1 } } }
    let c := (twoFlows options).step (revokeFirst sampleKey)
    ((twoFlows options).revokeGeneration sampleEnvelope (deriveFlowId sampleKey) 1 [] 3).1.isOk ∧
      ((c.step (revokeFirst otherKey)).classify { flowKey := sampleKey } 5).1.toOption.map
        (·.classification.state) = some .insufficient := by
  decide +kernel

end Classifier
end FlowClassifier
