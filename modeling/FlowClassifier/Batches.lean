import FlowClassifier.MemoTransparency

/-!
A batch beside the same queries one after another. Both go through the same steps for each
key and differ in what they count, so it is enough to compare one key in states that agree
up to the counters. There the batch overlooks the flag with which a query asks for a named
generation.
-/
namespace FlowClassifier.Classifier

open Lib Foundation Flows Engine Store

variable {d c : Classifier}

def CountersApart (c d : Classifier) : Prop := d = { c with counters := d.counters }

section Steps

variable (h : CountersApart c d)

include h

theorem CountersApart.flows : d.flows = c.flows := by
  rw [h]

theorem CountersApart.selectGeneration (flow : FlowRecord) (requested : FlowGeneration) :
    (d.selectGeneration flow requested).1 = (c.selectGeneration flow requested).1 ∧
      CountersApart (c.selectGeneration flow requested).2
        (d.selectGeneration flow requested).2 := by
  obtain ⟨counters, rfl⟩ : ∃ counters, d = { c with counters := counters } := ⟨_, h⟩
  unfold Classifier.selectGeneration
  by_cases hnow : requested = 0 ∨ requested = flow.generation
  · rw [if_pos hnow, if_pos hnow]
    exact ⟨rfl, rfl⟩
  · rw [if_neg hnow, if_neg hnow]
    dsimp only
    cases c.flows.findGeneration flow.id requested with
    | error e => exact ⟨rfl, rfl⟩
    | ok record => exact ⟨rfl, rfl⟩

theorem CountersApart.answer (flow : FlowRecord) (generation : FlowGeneration)
    (historical explain : Bool) (tick : Tick) :
    (d.answer flow generation historical explain tick).1 =
        (c.answer flow generation historical explain tick).1 ∧
      CountersApart (c.answer flow generation historical explain tick).2
        (d.answer flow generation historical explain tick).2 := by
  obtain ⟨counters, rfl⟩ : ∃ counters, d = { c with counters := counters } := ⟨_, h⟩
  have hinput : decisionInput { c with counters := counters } flow generation tick =
      c.decisionInput flow generation tick := rfl
  unfold Classifier.answer decideMemoised
  rw [hinput]
  dsimp only
  obtain ⟨_ | found, decisions⟩ :=
    c.decisions.memoLookup (decisionKey (c.decisionInput flow generation tick))
  · exact ⟨rfl, rfl⟩
  · exact ⟨rfl, rfl⟩

theorem CountersApart.counted : CountersApart c d.countClassification := by
  rw [h]
  rfl

end Steps

/-- The query names a generation, accepts the current one or is about an unknown flow. -/
def Settled (c : Classifier) (query : ClassificationQuery) : Prop :=
  query.flowGeneration ≠ 0 ∨ query.acceptCurrentGeneration = true ∨
    c.flows.current.lookup query.flowKey = none

theorem settled_answered (h : Answered c d) (query : ClassificationQuery) :
    Settled d query ↔ Settled c query := by
  rw [Settled, Settled, h.current]

/-- A key of a batch is answered like a single query; only the counters differ. -/
theorem CountersApart.classifyOne (h : CountersApart c d)
    {query : ClassificationQuery} (hquery : Settled c query) (tick : Tick) :
    (d.classifyOne query tick).1 = (c.classify query tick).1 ∧
      CountersApart (c.classify query tick).2 (d.classifyOne query tick).2 := by
  have hlooked : CountersApart
      { c.countClassification with flows := c.countClassification.flows.countLookup }
      { d with flows := d.flows.countLookup } := by
    rw [h]
    rfl
  have hflows : c.countClassification.flows = c.flows := rfl
  unfold Classifier.classifyOne classify
  dsimp only
  rw [h.flows, hflows]
  rw [h.flows, hflows] at hlooked
  cases hfound : c.flows.findByKey query.flowKey with
  | error e => exact ⟨rfl, hlooked⟩
  | ok flow =>
    have hnamed : ¬ (query.flowGeneration = 0 ∧ query.acceptCurrentGeneration = false) := by
      rintro ⟨hzero, hflag⟩
      rcases hquery with hgeneration | haccept | hnone
      · exact hgeneration hzero
      · rw [hflag] at haccept
        cases haccept
      · rw [FlowRegistry.findByKey, hnone] at hfound
        cases hfound
    dsimp only
    rw [if_neg hnamed]
    obtain ⟨hresult, hstores⟩ := hlooked.selectGeneration flow query.flowGeneration
    generalize Classifier.selectGeneration { c.countClassification with
      flows := c.flows.countLookup } flow query.flowGeneration = single at hresult hstores ⊢
    generalize Classifier.selectGeneration { d with
      flows := c.flows.countLookup } flow query.flowGeneration = batched at hresult hstores ⊢
    obtain ⟨result, c'⟩ := single
    obtain ⟨result', d'⟩ := batched
    subst hresult
    cases result' with
    | error e => exact ⟨rfl, hstores⟩
    | ok chosen =>
      obtain ⟨generation, historical⟩ := chosen
      obtain ⟨hanswer, hafter⟩ := hstores.answer flow generation historical query.explain tick
      exact ⟨congrArg Except.ok hanswer, hafter.counted⟩

/-- A query that is refused on its own and answered in a batch. -/
theorem classifyOne_of_not_settled (h : CountersApart c d)
    {query : ClassificationQuery} (hquery : ¬ Settled c query) (tick : Tick) :
    (d.classifyOne query tick).1 ≠ (c.classify query tick).1 := by
  unfold Settled at hquery
  push Not at hquery
  obtain ⟨hzero, hflag, hsome⟩ := hquery
  obtain ⟨flow, hflow⟩ := Option.ne_none_iff_exists'.mp hsome
  have hfound : c.flows.findByKey query.flowKey = .ok flow := by
    rw [FlowRegistry.findByKey, hflow]
  have hrefused : query.flowGeneration = 0 ∧ query.acceptCurrentGeneration = false :=
    ⟨hzero, Bool.eq_false_of_not_eq_true hflag⟩
  have hflows : c.countClassification.flows = c.flows := rfl
  unfold Classifier.classifyOne classify Classifier.selectGeneration
  dsimp only
  rw [h.flows, hflows, hfound]
  dsimp only
  rw [if_pos hrefused, if_pos (Or.inl hzero)]
  exact fun heq => by cases heq

def classifyAll (c : Classifier) :
    List (ClassificationQuery × Tick) → List (Result ClassificationResult) × Classifier
  | [] => ([], c)
  | (query, tick) :: rest =>
    let (result, c) := c.classify query tick
    let (results, c) := c.classifyAll rest
    (result :: results, c)

def classifyKeys (c : Classifier) :
    List (ClassificationQuery × Tick) → List (Result ClassificationResult) × Classifier
  | [] => ([], c)
  | (query, tick) :: rest =>
    let (result, c) := c.classifyOne query tick
    let (results, c) := c.classifyKeys rest
    (result :: results, c)

theorem classifyEach_eq (c : Classifier) (outcome : BatchOutcome)
    (queries : List (ClassificationQuery × Tick)) : c.classifyEach outcome queries =
      ((c.classifyKeys queries).1.foldl BatchOutcome.add outcome, (c.classifyKeys queries).2) := by
  induction queries generalizing c outcome with
  | nil => rfl
  | cons q rest ih =>
    rw [classifyEach, classifyKeys]
    dsimp only
    rw [ih]
    rfl

theorem classifyKeys_eq_iff (h : CountersApart c d) (queries : List (ClassificationQuery × Tick)) :
    ((d.classifyKeys queries).1 = (c.classifyAll queries).1 ∧
        CountersApart (c.classifyAll queries).2 (d.classifyKeys queries).2) ↔
      ∀ q ∈ queries, Settled c q.1 := by
  induction queries generalizing c d with
  | nil => exact iff_of_true ⟨rfl, h⟩ fun q hq => absurd hq List.not_mem_nil
  | cons q rest ih =>
    rw [classifyAll, classifyKeys]
    dsimp only
    rw [List.forall_mem_cons, List.cons.injEq]
    by_cases hsettled : Settled c q.1
    · obtain ⟨hresult, hstores⟩ := h.classifyOne hsettled q.2
      have hrest := ih hstores
      simp only [settled_answered (answered_classify c q.1 q.2)] at hrest
      rw [← hrest]
      constructor
      · exact fun hall => ⟨hsettled, hall.1.2, hall.2⟩
      · exact fun hall => ⟨⟨hresult, hall.2.1⟩, hall.2.2⟩
    · refine iff_of_false (fun hall => ?_) fun hall => hsettled hall.1
      exact classifyOne_of_not_settled h hsettled q.2 hall.1.1

def statusOf (single : Result ClassificationResult) : Result Unit := single.map fun _ => ()

def entryOf (single : Result ClassificationResult) : ClassificationResult :=
  single.toOption.getD {}

theorem foldl_add (results : List (Result ClassificationResult)) (outcome : BatchOutcome) :
    (results.foldl BatchOutcome.add outcome).statuses = outcome.statuses ++ results.map statusOf ∧
      (results.foldl BatchOutcome.add outcome).results =
        outcome.results ++ results.map entryOf := by
  induction results generalizing outcome with
  | nil => simp
  | cons r rest ih =>
    obtain ⟨hstatuses, hentries⟩ := ih (outcome.add r)
    rw [List.foldl_cons, hstatuses, hentries]
    cases r with
    | error | ok => simp [BatchOutcome.add, statusOf, entryOf, Except.map, Except.toOption]

/-- Status and entry together say what a single call returned. -/
theorem eq_of_status_entry {r s : Result ClassificationResult} (hstatus : statusOf r = statusOf s)
    (hentry : entryOf r = entryOf s) : r = s := by
  cases r with
  | error e =>
    cases s with
    | error f => exact congrArg Except.error (Except.error.inj hstatus)
    | ok value => cases hstatus
  | ok value =>
    cases s with
    | error f => cases hstatus
    | ok other => exact congrArg Except.ok hentry

structure AgreesWith (singles : List (Result ClassificationResult)) (outcome : BatchOutcome) :
    Prop where
  statuses : outcome.statuses = singles.map statusOf
  results : outcome.results = singles.map entryOf

theorem agreesWith_foldl_iff {singles results : List (Result ClassificationResult)} :
    AgreesWith singles (results.foldl BatchOutcome.add {}) ↔ results = singles := by
  obtain ⟨hstatuses, hentries⟩ := foldl_add results {}
  constructor
  · rintro ⟨hsame, hsame'⟩
    rw [hstatuses] at hsame
    rw [hentries] at hsame'
    have hboth : results.map (fun r => (statusOf r, entryOf r)) =
        singles.map fun r => (statusOf r, entryOf r) := by
      have hzip : ∀ xs : List (Result ClassificationResult),
          xs.map (fun r => (statusOf r, entryOf r)) =
            (xs.map statusOf).zip (xs.map entryOf) := fun xs => by
        rw [List.zip_map']
      rw [hzip, hzip]
      exact congrArg₂ List.zip hsame hsame'
    exact eq_of_map_eq (fun r _ s _ heq =>
      eq_of_status_entry (congrArg Prod.fst heq) (congrArg Prod.snd heq)) hboth
  · rintro rfl
    exact ⟨hstatuses, hentries⟩

/-- A batch within the bound gives what the single calls give and leaves the same stores,
exactly if every query names a generation, accepts the current one or is about an unknown
flow. -/
theorem batch_agrees_iff (c : Classifier) {queries : List (ClassificationQuery × Tick)}
    (hbound : queries.length ≤ c.policy.limits.effective.maxBatchKeys.toNat) :
    (∃ outcome, (c.classifyBatch queries).1 = .ok outcome ∧
        AgreesWith (c.classifyAll queries).1 outcome ∧
        CountersApart (c.classifyAll queries).2 (c.classifyBatch queries).2) ↔
      ∀ q ∈ queries, Settled c q.1 := by
  have hbatch : ∃ d, CountersApart c d ∧ c.classifyBatch queries =
      (.ok ((d.classifyKeys queries).1.foldl BatchOutcome.add {}), (d.classifyKeys queries).2) := by
    refine ⟨{ c with counters := { c.counters with
      batchRequests := c.counters.batchRequests + 1
      batchKeys := c.counters.batchKeys + UInt64.ofNat queries.length } }, rfl, ?_⟩
    unfold classifyBatch
    dsimp only
    rw [if_neg (not_lt.mpr hbound), classifyEach_eq]
  obtain ⟨d, hstores, hbatch⟩ := hbatch
  rw [← classifyKeys_eq_iff hstores, hbatch]
  constructor
  · rintro ⟨outcome, houtcome, hagrees, hsame⟩
    cases houtcome
    exact ⟨agreesWith_foldl_iff.mp hagrees, hsame⟩
  · rintro ⟨hresults, hsame⟩
    exact ⟨_, rfl, agreesWith_foldl_iff.mpr hresults, hsame⟩

def unnamedQuery : ClassificationQuery :=
  { flowKey := sampleKey, acceptCurrentGeneration := false }

def registeredSample : Classifier :=
  ((new {}).registerFlow sampleKey 1 (.make (text "s1")) 2).2

def settledQueries : List (ClassificationQuery × Tick) :=
  [({ flowKey := sampleKey }, 5), ({ flowKey := sampleKey, flowGeneration := 9 }, 5)]

theorem batch_agrees_registered :
    ∃ outcome, (registeredSample.classifyBatch settledQueries).1 = .ok outcome ∧
      AgreesWith (registeredSample.classifyAll settledQueries).1 outcome ∧
      CountersApart (registeredSample.classifyAll settledQueries).2
        (registeredSample.classifyBatch settledQueries).2 := by
  refine (batch_agrees_iff registeredSample (by decide +kernel)).mpr ?_
  rintro q (_ | ⟨_, _ | ⟨_, hq⟩⟩)
  · exact Or.inr (Or.inl rfl)
  · exact Or.inl (by decide)
  · cases hq

/-- On its own the query is refused, in a batch it is answered. -/
theorem unnamed_query_answered_in_batch :
    (registeredSample.classify unnamedQuery 5).1.isOk = false ∧
      (registeredSample.classifyBatch [(unnamedQuery, 5)]).1.toOption.map
        (fun outcome => outcome.statuses.map Except.isOk) = some [true] := by
  decide +kernel

end FlowClassifier.Classifier
