import FlowClassifier.CurrentEvidence
import FlowClassifier.Images

/-!
What the history says of superseded generations. A generation is superseded once its flow
is current under a higher one, and a recorded decision presents it while the decision is
CURRENT, CORROBORATED or CONTRADICTED. The fence of an advance marks what was recorded
before it. A query that names the old generation later is decided and recorded like any
other, and a contract that covers the flow speaks for every generation of it.
-/
namespace FlowClassifier

open Lib Foundation Flows Workloads Classifications Engine Store ClassificationIndex FiniteMap

variable {key : FlowKey} {flow : FlowId}

/-- The states in which a decision is an answer about the present. -/
def Presents (state : ClassificationState) : Prop :=
  state = .current ∨ state = .corroborated ∨ state = .contradicted

instance : DecidablePred Presents := fun _ => inferInstanceAs (Decidable (_ ∨ _ ∨ _))

theorem not_presents_stale : ¬ Presents .stale := by decide

namespace Pool

theorem not_presents_openStateOf (revoked : Bool) (cs : List Candidate) :
    ¬ Presents (openStateOf revoked cs) := by
  unfold openStateOf
  split_ifs <;> decide

theorem matches_of_selected {input : DecisionInput} {c : Candidate}
    (h : (evaluate input c).disposition = .selected) :
    recordMatchesFlow c.record input.flow = true := by
  by_contra hother
  unfold evaluate at h
  by_cases hrejected : c.disposition = .rejected
  · rw [if_pos hrejected, hrejected] at h
    cases h
  · rw [if_neg hrejected, if_pos (by simpa using hother)] at h
    cases h

theorem verdict_bound (input : DecisionInput) : (verdict input).flowId = input.flow.id ∧
      (verdict input).flowGeneration = input.flow.generation := by
  unfold verdict
  cases winner input with
  | none => exact ⟨rfl, rfl⟩
  | some w =>
    dsimp only [winnerVerdict]
    split_ifs <;> exact ⟨rfl, rfl⟩

/-- A decision is bound to the flow and the generation it was asked about. -/
theorem decide_bound (input : DecisionInput) : (Engine.decide input).flowId = input.flow.id ∧
      (Engine.decide input).flowGeneration = input.flow.generation := by
  have hchecked : ∀ x : Classification, (finalCheck x).flowId = x.flowId ∧
      (finalCheck x).flowGeneration = x.flowGeneration := by
    intro x
    unfold finalCheck
    split_ifs <;> exact ⟨rfl, rfl⟩
  have hshown : ∀ x : Classification, (withDigest x).flowId = x.flowId ∧
      (withDigest x).flowGeneration = x.flowGeneration := by
    intro x
    unfold withDigest
    exact ⟨rfl, rfl⟩
  have hform : ∀ k, Engine.decide k = withDigest (finalCheck (EngineCorrect.capped k)) :=
    fun _ => rfl
  rw [hform, (hshown _).1, (hshown _).2, (hchecked _).1, (hchecked _).2]
  exact verdict_bound input

/-- The generation is not revoked, and a CURRENT record of it or a contract is behind the
decision. -/
theorem presented_supported {input : DecisionInput} (h : Presents (Engine.decide input).state) :
    input.generationRevoked = false ∧ ((∃ r ∈ input.evidence, r.flowId = input.flow.id ∧
          r.flowGeneration = input.flow.generation ∧ r.state = .current) ∨
        ∃ k ∈ input.activeContracts, contractApplies input k = true) := by
  cases hwinner : winner input with
  | none =>
    have hstate : ∀ d : Classification, d.state = (outcome d).state := fun _ => rfl
    rw [hstate, outcome_of_no_winner hwinner] at h
    exact absurd h (not_presents_openStateOf _ _)
  | some w =>
    obtain ⟨hrev, hleads⟩ := leads_of_winner hwinner
    have hselected := (selected_of_eligible hleads.eligible).1
    have hcurrent := (selected_of_mem_pool hleads.mem hselected).1
    obtain ⟨c, hc, rfl⟩ := List.mem_map.mp hleads.mem
    have hmatches := matches_of_selected hselected
    have hbefore := (evaluate_current hcurrent).1
    refine ⟨hrev, ?_⟩
    rcases List.mem_append.mp hc with hgiven | hderived
    · rw [recordMatchesFlow, Bool.and_eq_true, beq_iff_eq, beq_iff_eq] at hmatches
      have hrecord := Pool.mem_assembleEvidence hgiven |>.1
      exact Or.inl ⟨c.record, hrecord, hmatches.1, hmatches.2, hbefore⟩
    · obtain ⟨k, hk, happlies, -⟩ := Pool.contract_of_mem_assembleContracts hderived
      exact Or.inr ⟨k, hk, happlies⟩

end Pool

namespace Classifier

variable {generation : FlowGeneration}

def Superseded (r : FlowRegistry) (flow : FlowId) (generation : FlowGeneration) : Prop :=
  ∃ key f, r.current.lookup key = some f ∧ f.id = flow ∧ generation < f.generation

/-- Decisions are kept under their own flow, and none presents a superseded generation. -/
def Fenced (c : Classifier) : Prop :=
  c.decisions.RecordedUnder fun flow x =>
    x.flowId = flow ∧ (Superseded c.flows flow x.flowGeneration → ¬ Presents x.state)

/-- Nothing speaks for this generation of the flow: no stored record of it is CURRENT and no
ACTIVE contract covers the key. -/
def Unsupported (c : Classifier) (flow : FlowRecord) (generation : FlowGeneration) : Prop :=
  (∀ id r, c.evidence.byId.lookup id = some r → r.flowId = flow.id →
    r.flowGeneration = generation → r.state ≠ .current) ∧
  ∀ id k, c.workloads.contracts.lookup id = some k → k.state = .active →
    contractCovers k flow.key = false

/-- The query is about a generation that is not superseded, or about one that is revoked or
that nothing speaks for. -/
def AsksFairly (c : Classifier) (query : ClassificationQuery) : Prop :=
  ∀ flow, c.flows.current.lookup query.flowKey = some flow →
    let generation :=
      if query.flowGeneration = 0 then flow.generation else query.flowGeneration
    Superseded c.flows flow.id generation →
      c.decisions.isRevoked flow.id generation = true ∨ c.Unsupported flow generation

def NewKey (c : Classifier) (key : FlowKey) : Prop :=
  c.flows.current.lookup key = none →
    ∀ x ∈ c.durableState.classifications, x.flowId = deriveFlowId key → ¬ Presents x.state

/-- The decisions of the image and its flows agree with what is held. -/
structure ImageAgrees (c : Classifier) (image : DurableState) : Prop where
  within : ∀ f ∈ image.flows, ∀ x ∈ image.classifications, x.flowId = f.id →
    x.flowGeneration < f.generation → ¬ Presents x.state
  above : ∀ key f, c.flows.current.lookup key = some f → ∀ x ∈ image.classifications,
    x.flowId = f.id → x.flowGeneration < f.generation → ¬ Presents x.state
  below : ∀ f ∈ image.flows, ∀ x ∈ c.durableState.classifications, x.flowId = f.id →
    x.flowGeneration < f.generation → ¬ Presents x.state

/-- The condition on an operation and the state it finds. -/
def Heeds (c : Classifier) : Operation → Prop
  | .classify query _ => c.AsksFairly query
  | .classifyBatch queries => ∀ q ∈ queries, c.AsksFairly q.1
  | .explain key generation _ _ => c.AsksFairly (explainQuery key generation)
  | .registerFlow key _ _ _ => c.NewKey key
  | .submitEvidence _ payload _ _ _ => c.NewKey payload.flowKey
  | .restore image _ _ => c.ImageAgrees image
  | _ => True

section Steps

variable {c c' : Classifier}

theorem Superseded.of_insert {r r' : FlowRegistry} {f : FlowRecord}
    (hcurrent : r'.current = r.current.insert key f) (h : Superseded r' flow generation) :
    Superseded r flow generation ∨ f.id = flow ∧ generation < f.generation := by
  obtain ⟨key', f', hlookup, hid, hlower⟩ := h
  rw [hcurrent, lookup_insert_eq] at hlookup
  split_ifs at hlookup with hsame
  · cases hlookup
    exact Or.inr ⟨hid, hlower⟩
  · exact Or.inl ⟨key', f', hlookup, hid, hlower⟩

theorem Superseded.of_current {r r' : FlowRegistry} (hcurrent : r'.current = r.current)
    (h : Superseded r' flow generation) : Superseded r flow generation := by
  unfold Superseded at h
  rw [hcurrent] at h
  exact h

theorem Fenced.mono (h : Fenced c) (hhistory : c'.decisions.history = c.decisions.history)
    (hflows : ∀ x ∈ c.durableState.classifications, Superseded c'.flows x.flowId x.flowGeneration →
      Superseded c.flows x.flowId x.flowGeneration ∨ ¬ Presents x.state) : Fenced c' := by
  intro flow history hlookup x hx
  rw [hhistory] at hlookup
  obtain ⟨rfl, hfenced⟩ := h flow history hlookup x hx
  refine ⟨rfl, fun hsuperseded => ?_⟩
  have hmem := mem_snapshotClassifications.mpr ⟨_, history, hlookup, hx⟩
  rcases hflows x hmem hsuperseded with hbefore | habsent
  · exact hfenced hbefore
  · exact habsent

theorem Fenced.of_same (h : Fenced c) (hhistory : c'.decisions.history = c.decisions.history)
    (hcurrent : c'.flows.current = c.flows.current) : Fenced c' :=
  h.mono hhistory fun _ _ hsuperseded => Or.inl (hsuperseded.of_current hcurrent)

/-- A fair query decides nothing that presents a superseded generation. -/
theorem decides_of_asksFairly {query : ClassificationQuery} (h : c.AsksFairly query) (tick : Tick) :
    c.Decides (fun flow x =>
      x.flowId = flow ∧ (Superseded c.flows flow x.flowGeneration → ¬ Presents x.state))
      query tick := by
  intro input hinput
  obtain ⟨flow, hflow, hasked⟩ := Option.map_eq_some_iff.mp hinput
  obtain ⟨hid, hgeneration⟩ := Pool.decide_bound input
  refine ⟨rfl, fun hsuperseded hpresents => ?_⟩
  obtain ⟨hrev, hsupport⟩ := Pool.presented_supported hpresents
  rw [hid, hgeneration] at hsuperseded
  subst hasked
  rcases h flow hflow hsuperseded with hrevoked | ⟨hrecords, hcontracts⟩
  · have hfalse : c.decisions.isRevoked flow.id _ = false := hrev
    rw [hrevoked] at hfalse
    cases hfalse
  rcases hsupport with ⟨r, hr, hflowId, hbound, hcurrent⟩ | ⟨k, hk, happlies⟩
  · obtain ⟨id, -, hlookup⟩ := List.mem_filterMap.mp hr
    exact hrecords id r hlookup hflowId hbound hcurrent
  · obtain ⟨hk, hactive⟩ := List.mem_filter.mp ((List.perm_insertionSort _ _).mem_iff.mp hk)
    obtain ⟨id, hlookup⟩ := mem_values.mp hk
    have hcovers : contractCovers k flow.key = true := by
      unfold contractApplies at happlies
      simp only [Bool.and_eq_true] at happlies
      exact happlies.1.2
    rw [hcontracts id k hlookup (beq_iff_eq.mp hactive)] at hcovers
    cases hcovers

/-- A new incarnation marks the decisions below it, unless its key had none before. -/
theorem fenced_refreshFlow (h : Fenced c) (hnew : c.NewKey key)
    (requested : FlowGeneration) (session : SessionId) (tick : Tick) :
    Fenced (c.refreshFlow key requested session tick).2 := by
  cases hout : c.refreshFlow key requested session tick with
  | mk result c₁ =>
    have hregistered := c.flows.registerFlow_current key requested session tick
    rw [registerFlow_of_refreshFlow hout] at hregistered
    rcases hregistered with ⟨⟨e, rfl⟩, hcurrent⟩ | ⟨flow, rfl, hinsert, hid, hfences, hflow⟩
    · have hdecisions := (refreshFlow_error hout).2.2
      exact h.of_same (by rw [hdecisions]) hcurrent
    have hmarks := (refreshFlow_ok hout).2
    cases hfenced : flow.fencedPrevious with
    | true =>
      rw [hfenced] at hmarks
      show c₁.decisions.RecordedUnder _
      rw [hmarks.1]
      refine recorded_supersedeGeneration h ?_ ?_ ?_
      · exact fun x hx => ⟨hx.1, fun _ => not_presents_stale⟩
      · intro x hx hkept
        refine ⟨hx.1, fun hsuperseded => ?_⟩
        rcases hsuperseded.of_insert hinsert with hbefore | ⟨-, hlower⟩
        · exact hx.2 hbefore
        · have hstale : x.state = .stale := by
            simpa [supersedes, hlower] using hkept
          rw [hstale]
          exact not_presents_stale
      · intro flow' x hother hx
        refine ⟨hx.1, fun hsuperseded => ?_⟩
        rcases hsuperseded.of_insert hinsert with hbefore | ⟨hsame, -⟩
        · exact hx.2 hbefore
        · exact absurd hsame.symm hother
    | false =>
      rw [hfenced] at hmarks
      refine h.mono (by rw [hmarks.1]) fun x hx hsuperseded => ?_
      rcases hsuperseded.of_insert hinsert with hbefore | ⟨hsame, hlower⟩
      · exact Or.inl hbefore
      rcases hfences with hnone | hcreated
      · exact Or.inr (hnew hnone x hx (hsame.symm.trans hid))
      · rw [hfenced] at hcreated
        rcases hflow with htrue | ⟨f, hf, hfid, hgeneration⟩
        · rw [htrue] at hcreated
          cases hcreated
        · exact Or.inl ⟨key, f, hf, hfid.trans hsame, hgeneration ▸ hlower⟩

theorem fenced_submitEvidence (h : Fenced c) (envelope : SessionEnvelope)
    {payload : EvidencePayload} (hnew : c.NewKey payload.flowKey) (tick touchTick : Tick)
    (wall : UInt64) : Fenced (c.submitEvidence envelope payload tick touchTick wall).2 := by
  have hrefresh := fenced_refreshFlow h hnew payload.flowGeneration envelope.session tick
  refine (submission c envelope payload tick touchTick wall).stores_rule
    (Q := fun flows d => Fenced { c with flows := flows, decisions := d }) h ?_ ?_
  · exact hrefresh.of_same rfl rfl
  · exact fun _ _ _ hd => hd.of_same rfl rfl

/-- A current flow after the loop over the flows of an image was current before or is one
of the image. -/
theorem of_current_restoredFlows {image : DurableState} {f : FlowRecord}
    (h : (restoredFlows image c).2.current.lookup key = some f) :
    c.flows.current.lookup key = some f ∨ f ∈ image.flows := by
  have hloop : ∀ key f, (restoredFlows image c).2.current.lookup key = some f →
      c.flows.current.lookup key = some f ∨ f ∈ image.flows := by
    refine tryEach_invariant (fun r : FlowRegistry => ∀ key f, r.current.lookup key = some f →
      c.flows.current.lookup key = some f ∨ f ∈ image.flows) ?_ (fun _ _ hf => Or.inl hf)
    intro r record hrecord hr key f hf
    rcases r.current_restoreFlow record with hsame | hplaced
    · exact hr key f (hsame ▸ hf)
    · rw [hplaced, lookup_insert_eq] at hf
      split_ifs at hf
      · cases hf
        exact Or.inr hrecord
      · exact hr key f hf
  exact hloop key f h

theorem fenced_restore (h : Fenced c) {image : DurableState} (hfits : c.ImageAgrees image)
    (boot : CoordinatorBootId) (tick : Tick) : Fenced (restore image c boot tick).2 := by
  have hended := restored image c boot tick
  have hkept : ∀ x ∈ c.durableState.classifications,
      Superseded (restoredFlows image c).2 x.flowId x.flowGeneration →
        Superseded c.flows x.flowId x.flowGeneration ∨ ¬ Presents x.state := by
    rintro x hx ⟨key, f, hlookup, hid, hlower⟩
    rcases of_current_restoredFlows hlookup with hbefore | himage
    · exact Or.inl ⟨key, f, hbefore, hid, hlower⟩
    · exact Or.inr (hfits.below f himage x hx hid.symm hlower)
  generalize restore image c boot tick = out at hended
  cases hended with
  | publishers | workloads | contracts => exact h.of_same rfl rfl
  | flows | evidence => exact h.mono rfl hkept
  | done =>
    have hheld : Fenced { c with flows := (restoredFlows image c).2 } := h.mono rfl hkept
    refine recorded_restoreDecisions hheld fun x hx => ⟨rfl, ?_⟩
    rintro ⟨key, f, hlookup, hid, hlower⟩
    rcases of_current_restoredFlows hlookup with hbefore | himage
    · exact hfits.above key f hbefore x hx hid.symm hlower
    · exact hfits.within f himage x hx hid.symm hlower

theorem fenced_step (h : Fenced c) {op : Operation} (hop : c.Heeds op) : Fenced (c.step op) := by
  by_cases htouches : TouchesFlows op
  · cases op with
    | registerFlow => exact fenced_refreshFlow h hop _ _ _
    | submitEvidence => exact fenced_submitEvidence h _ hop _ _ _
    | restore => exact fenced_restore h hop _ _
    | _ => exact htouches.elim
  · -- the flows stay, so the property does
    have hcurrent := (framed_step c _).current htouches
    have hrecorded : (c.step op).decisions.RecordedUnder fun flow x =>
        x.flowId = flow ∧ (Superseded c.flows flow x.flowGeneration → ¬ Presents x.state) := by
      refine recorded_step ?_ (fun _ _ hx => ⟨hx.1, fun _ => not_presents_stale⟩) h ?_
      · intro q hq
        apply decides_of_asksFairly
        cases op with
        | classify | explain =>
          cases List.mem_singleton.mp hq
          exact hop
        | classifyBatch => exact hop q hq
        | _ => cases hq
      · rintro image boot tick rfl
        exact absurd trivial htouches
    intro flow history hlookup x hx
    obtain ⟨hkept, hfenced⟩ := hrecorded flow history hlookup x hx
    exact ⟨hkept, fun hsuperseded => hfenced (hsuperseded.of_current hcurrent)⟩

end Steps

theorem fenced_new (options : ClassifierOptions) : Fenced (.new options) := by
  intro flow history hlookup
  cases hlookup

theorem mem_history_of_recordedDecision {c : Classifier} {x : Classification}
    (h : c.recordedDecision flow generation = .ok x) :
    ∃ history, c.decisions.history.lookup flow = some history ∧ x ∈ history.decisions ∧
      x.flowGeneration = generation := by
  unfold recordedDecision ClassificationIndex.latest at h
  cases hlookup : c.decisions.history.lookup flow with
  | none =>
    rw [hlookup] at h
    cases h
  | some history =>
    rw [hlookup] at h
    dsimp only at h
    cases hprevious : previousOf history generation with
    | none =>
      rw [hprevious] at h
      cases h
    | some found =>
      rw [hprevious] at h
      cases h
      unfold previousOf at hprevious
      have hmem := List.mem_reverse.mp (List.mem_of_find?_eq_some hprevious)
      have hgeneration := List.find?_some hprevious
      exact ⟨history, rfl, hmem, beq_iff_eq.mp hgeneration⟩

/-- In every state of a run whose operations heed the condition, no recorded decision about
a superseded generation is CURRENT, CORROBORATED or CONTRADICTED, neither where it is asked
for nor in the durable image. -/
theorem superseded_not_presented (options : ClassifierOptions) (ops : List Operation)
    (hops : Along step Heeds (.new options) ops) :
    let c := run step (.new options) ops
    ∀ key f, c.flows.current.lookup key = some f →
      (∀ generation x, generation < f.generation →
        c.recordedDecision f.id generation = .ok x → ¬ Presents x.state) ∧
      ∀ x ∈ c.durableState.classifications, x.flowId = f.id →
        x.flowGeneration < f.generation → ¬ Presents x.state := by
  intro c key f hf
  have hfenced : Fenced c :=
    @run_invariant _ _ step _ Heeds Fenced (fun _ _ hop h => fenced_step h hop) _
      (fenced_new options) hops
  constructor
  · intro generation x hlower hx
    obtain ⟨history, hlookup, hmem, rfl⟩ := mem_history_of_recordedDecision hx
    exact (hfenced f.id history hlookup x hmem).2 ⟨key, f, hf, rfl, hlower⟩
  · intro x hx hid hlower
    obtain ⟨flow, history, hlookup, hmem⟩ := mem_snapshotClassifications.mp hx
    obtain ⟨rfl, hnot⟩ := hfenced flow history hlookup x hmem
    exact hnot ⟨key, f, hf, hid.symm, hlower⟩

section Checks

variable {c : Classifier} {query : ClassificationQuery}

theorem newKey_of_noHistory (h : c.decisions.history.values = []) : c.NewKey key := by
  intro _ x hx
  obtain ⟨flow, history, hlookup, -⟩ := mem_snapshotClassifications.mp hx
  have hvalues := mem_values.mpr ⟨flow, hlookup⟩
  rw [h] at hvalues
  cases hvalues

theorem newKey_of_known (h : (c.flows.current.lookup key).isSome = true) : c.NewKey key := by
  intro hnone
  rw [hnone] at h
  cases h

/-- No flow is above the generation that is named. -/
theorem asksFairly_of_le (hnamed : query.flowGeneration ≠ 0)
    (h : c.flows.current.values.all (fun f => f.generation ≤ query.flowGeneration) = true) :
    c.AsksFairly query := by
  intro flow _ generation hsuperseded
  obtain ⟨other, f, hf, -, hlower⟩ := hsuperseded
  have hle := List.all_eq_true.mp h f (mem_values.mpr ⟨other, hf⟩)
  have hgeneration : generation = query.flowGeneration := if_neg hnamed
  rw [hgeneration] at hlower
  exact absurd hlower (not_lt.mpr (of_decide_eq_true hle))

/-- Nothing is stored that could speak for any generation. -/
theorem asksFairly_of_quiet (hevidence : c.evidence.byId.values = [])
    (hcontracts : c.workloads.contracts.values.all (fun k => k.state != .active) = true) :
    c.AsksFairly query := by
  intro flow _ generation _
  right
  constructor
  · intro id r hr
    have hvalues := mem_values.mpr ⟨id, hr⟩
    rw [hevidence] at hvalues
    cases hvalues
  · intro id k hk hactive
    have hretired := List.all_eq_true.mp hcontracts k (mem_values.mpr ⟨id, hk⟩)
    rw [hactive] at hretired
    cases hretired

end Checks

def firstQuery : ClassificationQuery := { flowKey := sampleKey, flowGeneration := 1 }

def presentedRun : List Operation :=
  [.declareWorkload (.make (text "trainer")) (.make (text "agent")) 1 [] 1,
   .proposeContract (sampleContract (text "c-a") .collective []) 1,
   .activateContract (.make (text "c-a")) (.make (text "agent")) 2,
   .registerFlow sampleKey 1 (.make (text "s1")) 2,
   .classify firstQuery 3]

def fencedRun : List Operation :=
  presentedRun ++
    [.registerFlow sampleKey 2 (.make (text "s1")) 4,
     .retireContract (.make (text "c-a")) (.make (text "agent")) 5,
     .classify firstQuery 6]

theorem heeds_fencedRun : Along step Heeds (.new {}) fencedRun := by
  refine ⟨trivial, trivial, trivial, ?_, ?_, ?_, trivial, ?_, trivial⟩
  · apply newKey_of_noHistory
    decide +kernel
  · apply asksFairly_of_le
    · decide
    · decide +kernel
  · apply newKey_of_known
    decide +kernel
  · apply asksFairly_of_quiet
    · decide +kernel
    · decide +kernel

theorem superseded_not_presented_sample :
    let c := run step (.new {}) fencedRun
    ∃ f x, c.flows.current.lookup sampleKey = some f ∧ 1 < f.generation ∧
      c.recordedDecision f.id 1 = .ok x ∧ ¬ Presents x.state := by
  have hnot := superseded_not_presented {} fencedRun heeds_fencedRun
  obtain ⟨f, hf, hlower, x, hx, -⟩ : ∃ f,
      (run step (.new {}) fencedRun).flows.current.lookup sampleKey = some f ∧ 1 < f.generation ∧
      ∃ x, (run step (.new {}) fencedRun).recordedDecision f.id 1 = .ok x ∧
        x.flowGeneration = 1 := by
    decide +kernel
  exact ⟨f, x, hf, hlower, hx, (hnot sampleKey f hf).1 1 x hlower hx⟩

def supersededRun : List Operation :=
  [.declareWorkload (.make (text "trainer")) (.make (text "agent")) 1 [] 1,
   .proposeContract (sampleContract (text "c-a") .collective []) 1,
   .activateContract (.make (text "c-a")) (.make (text "agent")) 2,
   .registerFlow sampleKey 1 (.make (text "s1")) 2,
   .registerFlow sampleKey 2 (.make (text "s1")) 3,
   .classify firstQuery 4]

theorem superseded_presented :
    let c := run step (.new {}) supersededRun
    ∃ f x, c.flows.current.lookup sampleKey = some f ∧ 1 < f.generation ∧
      c.recordedDecision f.id 1 = .ok x ∧ x ∈ c.durableState.classifications ∧
      x.flowId = f.id ∧ x.flowGeneration = 1 ∧ x.state = .current := by
  intro c
  obtain ⟨f, hf, hlower, x, hx, hid, hstate⟩ : ∃ f, c.flows.current.lookup sampleKey = some f ∧
      1 < f.generation ∧ ∃ x, c.recordedDecision f.id 1 = .ok x ∧ x.flowId = f.id ∧
        x.state = .current := by
    decide +kernel
  clear_value c
  obtain ⟨history, hlookup, hmem, hasked⟩ := mem_history_of_recordedDecision hx
  exact ⟨f, x, hf, hlower, hx,
    mem_snapshotClassifications.mpr ⟨f.id, history, hlookup, hmem⟩, hid, hasked,
    hstate⟩

/-- The digest is that of the content, unless the decision was marked STALE afterwards. -/
def Sealed (x : Classification) : Prop :=
  x.state ≠ .stale → x.digest = computeClassificationDigest x

def RestoresSealed (_ : Classifier) : Operation → Prop
  | .restore image _ _ => ∀ x ∈ image.classifications, Sealed x
  | _ => True

/-- In every run that restores sealed decisions only, each recorded decision is sealed, and
so is each one of the durable image, which may therefore be restored in turn. -/
theorem recorded_decisions_sealed (options : ClassifierOptions) (ops : List Operation)
    (hops : Along step RestoresSealed (.new options) ops) :
    let c := run step (.new options) ops
    (∀ flow generation x, c.recordedDecision flow generation = .ok x → Sealed x) ∧
      ∀ x ∈ c.durableState.classifications, Sealed x := by
  intro c
  have hstep : ∀ c op, RestoresSealed c op → c.decisions.RecordedUnder (fun _ => Sealed) →
      (step c op).decisions.RecordedUnder fun _ => Sealed := by
    intro c op hop h
    refine recorded_step (fun _ _ _ _ _ => rfl) (fun _ _ _ hstate => absurd rfl hstate) h ?_
    rintro image boot tick rfl
    exact hop
  have h : c.decisions.RecordedUnder fun _ => Sealed :=
    run_invariant step hstep (fun _ _ hflow => by cases hflow) hops
  constructor
  · intro flow generation x hx
    obtain ⟨history, hlookup, hmem, -⟩ := mem_history_of_recordedDecision hx
    exact h flow history hlookup x hmem
  · intro x hx
    obtain ⟨flow, history, hlookup, hmem⟩ := mem_snapshotClassifications.mp hx
    exact h flow history hlookup x hmem

theorem recorded_decisions_sealed_presented :
    let c := run step (.new {}) presentedRun
    ∃ f x, c.flows.current.lookup sampleKey = some f ∧ c.recordedDecision f.id 1 = .ok x ∧
      x.state = .current ∧ Sealed x := by
  intro c
  obtain ⟨f, hf, x, hx, hstate⟩ : ∃ f, c.flows.current.lookup sampleKey = some f ∧
      ∃ x, c.recordedDecision f.id 1 = .ok x ∧ x.state = .current := by
    decide +kernel
  exact ⟨f, x, hf, hx, hstate, (recorded_decisions_sealed {} presentedRun
    ⟨trivial, trivial, trivial, trivial, trivial, trivial⟩).1 f.id 1 x hx⟩

end Classifier
end FlowClassifier
