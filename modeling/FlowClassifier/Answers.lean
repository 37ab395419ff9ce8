import FlowClassifier.Frames

/-!
Where the answers of a query come from. An answer is the decision for some input with the
key of the input built from the state: for that input itself, or for the one under which
the memo entry was stored. A property of the inputs decided on so far is kept by every
query that asks for such an input.
-/
namespace FlowClassifier

open Foundation Flows Classifications Engine Store ClassificationIndex

variable {c c' : Classifier} {kind : DecisionInput → Prop}

namespace Classifier

variable {flow : FlowRecord}

def queryInput (c : Classifier) (key : FlowKey) (requested : FlowGeneration) (tick : Tick) :
    Option DecisionInput :=
  (c.flows.current.lookup key).map fun flow =>
    c.decisionInput flow (if requested = 0 then flow.generation else requested) tick

theorem queryInput_eq {key : FlowKey}
    (hflow : c.flows.current.lookup key = some flow) (requested : FlowGeneration) (tick : Tick) :
    c.queryInput key requested tick = some (c.decisionInput flow
      (if requested = 0 then flow.generation else requested) tick) := by
  rw [queryInput, hflow, Option.map_some]

theorem decisionInput_answered (h : Answered c c') (flow : FlowRecord)
    (generation : FlowGeneration) (tick : Tick) :
    c'.decisionInput flow generation tick = c.decisionInput flow generation tick := by
  simp only [decisionInput, buildAuthorityContext, h.evidence, h.workloads, h.policy,
    h.publishers, h.epoch, h.coordinatorBoot, h.authoritySequence, h.log.isRevoked]

theorem queryInput_answered (h : Answered c c') (key : FlowKey)
    (requested : FlowGeneration) (tick : Tick) :
    c'.queryInput key requested tick = c.queryInput key requested tick := by
  simp only [queryInput, h.current, decisionInput_answered h]

/-- Every entry of the memo is the decision for an input of the kind. -/
def MemoOf (kind : DecisionInput → Prop) (c : Classifier) : Prop :=
  ∀ t x, c.decisions.memo.lookup t = some x →
    ∃ i, x = Engine.decide i ∧ t = decisionKeyText (decisionKey i) ∧ kind i

theorem memoOf_of_empty (h : c.decisions.memo = ∅) : MemoOf kind c := by
  intro t x hx
  rw [h] at hx
  cases hx

theorem MemoOf.of_memo (h : MemoOf kind c)
    (hmemo : c'.decisions.memo = c.decisions.memo) : MemoOf kind c' := by
  unfold MemoOf
  rw [hmemo]
  exact h

theorem MemoOf.imp {kind' : DecisionInput → Prop} (h : MemoOf kind c)
    (himp : ∀ i, kind i → kind' i) : MemoOf kind' c := by
  intro t x hx
  obtain ⟨i, hdecided, htext, hi⟩ := h t x hx
  exact ⟨i, hdecided, htext, himp i hi⟩

def DecidedAs (kind : DecisionInput → Prop) (input : DecisionInput) (x : Classification) : Prop :=
  kind input ∧ ∃ i, x = Engine.decide i ∧
    decisionKeyText (decisionKey i) = decisionKeyText (decisionKey input) ∧ kind i

/-- The answer to a query is the decision for an input with the key of the query's, and is
explained on the query's input. -/
def Drawn (kind : DecisionInput → Prop) (c : Classifier) (query : ClassificationQuery)
    (tick : Tick) (result : ClassificationResult) : Prop :=
  ∃ input, c.queryInput query.flowKey query.flowGeneration tick = some input ∧
    DecidedAs kind input result.classification ∧
    (query.explain = true → result.explanation = renderExplanation result.classification input)

section Queries

variable {generation : FlowGeneration} {tick : Tick} {d : Classifier} {query : ClassificationQuery}

/-- A miss stores the decision it computes, a hit stores nothing. -/
theorem memoOf_decideMemoised (hmemo : MemoOf kind c) {input : DecisionInput}
    (hinput : kind input) :
    let out := c.decideMemoised input
    DecidedAs kind input out.1 ∧ MemoOf kind out.2.2 := by
  have hfst := memoLookup_fst c.decisions (decisionKey input)
  have hsame := memoLookup_memo c.decisions (decisionKey input)
  unfold decideMemoised
  dsimp only
  generalize c.decisions.memoLookup (decisionKey input) = found at hfst hsame ⊢
  obtain ⟨_ | x, decisions⟩ := found
  · refine ⟨⟨hinput, input, rfl, rfl, hinput⟩, ?_⟩
    intro t y hy
    have hstored := (memoStore_spec decisions (decisionKey input) (Engine.decide input)).2 t y hy
    rcases hstored with ⟨htext, rfl⟩ | hold
    · exact ⟨input, rfl, htext, hinput⟩
    · dsimp only at hsame
      rw [hsame] at hold
      exact hmemo t y hold
  · obtain ⟨i, hdecided, htext, hi⟩ := hmemo _ x hfst.symm
    exact ⟨⟨hinput, i, hdecided, htext.symm, hi⟩, hmemo.of_memo hsame⟩

/-- The answer for a flow and a generation, after steps that only count. -/
theorem memoOf_answer
    (hkind : kind (c.decisionInput flow generation tick)) (hd : Answered c d)
    (hmemo : MemoOf kind d) (historical explain : Bool) :
    let out := d.answer flow generation historical explain tick
    DecidedAs kind (c.decisionInput flow generation tick) out.1.classification ∧
      MemoOf kind out.2 := by
  rw [← decisionInput_answered hd] at hkind ⊢
  exact memoOf_decideMemoised hmemo hkind

/-- A query keeps the kind of the memo's inputs, and its answer is drawn from them. -/
theorem Asked.memoOf {out : Result ClassificationResult × Classifier}
    (h : Asked c query tick out) (hmemo : MemoOf kind c)
    (hkind : ∀ input, c.queryInput query.flowKey query.flowGeneration tick = some input →
      kind input) :
    MemoOf kind out.2 ∧ ∀ result, out.1 = .ok result → Drawn kind c query tick result := by
  cases h with
  | refused hd hdecisions =>
    exact ⟨hmemo.of_memo (by rw [hdecisions]), fun _ hresult => by cases hresult⟩
  | answered hd hdecisions hflow hgeneration =>
    have hinput := queryInput_eq hflow query.flowGeneration tick
    rw [← hgeneration] at hinput
    obtain ⟨hdecided, hmemo'⟩ := memoOf_answer (hkind _ hinput) hd
      (hmemo.of_memo (by rw [hdecisions])) _ query.explain
    refine ⟨hmemo', fun result hresult => ?_⟩
    cases hresult
    refine ⟨_, hinput, hdecided, fun hexplain => ?_⟩
    rw [← decisionInput_answered hd]
    exact if_pos hexplain

/-- Every answer of a batch is for the input built from the state the batch started in,
since answering changes nothing that an input is built from. -/
theorem memoOf_classifyBatch {queries : List (ClassificationQuery × Tick)} (hmemo : MemoOf kind c)
    (hkind : ∀ q ∈ queries, ∀ input,
      c.queryInput q.1.flowKey q.1.flowGeneration q.2 = some input → kind input) :
    MemoOf kind (c.classifyBatch queries).2 ∧ ∀ outcome, (c.classifyBatch queries).1 = .ok outcome →
      BatchHolds (Drawn kind c) queries outcome := by
  have hone : ∀ q ∈ queries, ∀ d, Answered c d ∧ MemoOf kind d →
      (Answered c (d.classifyOne q.1 q.2).2 ∧ MemoOf kind (d.classifyOne q.1 q.2).2) ∧
        ∀ result, (d.classifyOne q.1 q.2).1 = .ok result → Drawn kind c q.1 q.2 result := by
    rintro q hq d ⟨hd, hmemo⟩
    have hasked := asked_classifyOne d q.1 q.2
    have hinput := queryInput_answered hd q.1.flowKey q.1.flowGeneration q.2
    obtain ⟨hmemo', hdrawn⟩ := hasked.memoOf hmemo fun input h => hkind q hq input (hinput ▸ h)
    refine ⟨⟨hd.trans hasked.kept, hmemo'⟩, fun result hresult => ?_⟩
    obtain ⟨input, hasked, hdecided⟩ := hdrawn result hresult
    exact ⟨input, hinput ▸ hasked, hdecided⟩
  obtain ⟨hkept, hentries⟩ := classifyBatch_rule hone fun counters =>
    ⟨answered_counted c counters, hmemo.of_memo rfl⟩
  exact ⟨hkept.2, hentries⟩

theorem memoOf_explain (hmemo : MemoOf kind c) {key : FlowKey} (again : Tick)
    (hkind : ∀ input, c.queryInput key generation tick = some input → kind input) :
    MemoOf kind (c.explain key generation tick again).2 := by
  have hmemo' := ((asked_classify c (explainQuery key generation) tick).memoOf hmemo hkind).1
  rcases explain_state c key generation tick again with hstate | hstate
  · exact hmemo'.of_memo (by rw [hstate])
  · exact hmemo'.of_memo (by rw [hstate])

end Queries

end Classifier
end FlowClassifier
