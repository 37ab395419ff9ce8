import FlowClassifier.Consistency
import FlowClassifier.Store.EvidenceRings

/-!
The supersession loop of a submission, described as a whole. It visits the records in the
ring of the flow; every older record of the topic is SUPERSEDED afterwards and is logged as
displaced, whatever its state was before. The ring itself only loses entries but for the
record that is stored.
-/
namespace FlowClassifier

open Lib Foundation Evidence Classifications Flows Store

variable {r r' : EvidenceRecord}
variable {id : EvidenceId}

namespace Store.EvidenceStore

variable {s : EvidenceStore}

/-- No state is weaker than SUPERSEDED. -/
theorem Weakens.superseded (h : Weakens r r')
    (hstate : r.state = .superseded) : r'.state = .superseded := by
  rcases h with rfl | ⟨hrank, -⟩
  · exact hstate
  · rw [hstate] at hrank
    generalize r'.state = state at hrank
    cases state <;> simp [stateRank] at hrank

theorem state_of_supersede {reason : Bytes}
    (hr : (s.setState id .superseded reason).2.byId.lookup id = some r) :
    r.state = .superseded := by
  unfold setState at hr
  cases hid : s.byId.lookup id with
  | none =>
    rw [hid] at hr
    dsimp only at hr
    rw [hid] at hr
    cases hr
  | some old =>
    rw [hid] at hr
    dsimp only at hr
    have hback : ¬ (old.state ≠ .current ∧ EvidenceState.superseded = .current) := by simp
    by_cases hsame : old.state = .superseded
    · rw [if_pos hsame] at hr
      dsimp only at hr
      rw [hid] at hr
      cases hr
      exact hsame
    · rw [if_neg hsame, if_neg hback] at hr
      dsimp only at hr
      rw [AList.lookup_insert] at hr
      cases hr
      rfl

end Store.EvidenceStore

namespace Classifier

variable {record : EvidenceRecord} {tick : Tick}

def supersededBy (record other : EvidenceRecord) : EvidenceRecord :=
  if displaces record other ∧ other.state ≠ .superseded then
    { other with
      state := .superseded
      stateReason := text "superseded by " ++ record.id.value ++ text " at generation " ++
        render record.generation }
  else other

def supersession (record : EvidenceRecord) (tick : Tick) (other : EvidenceRecord) :
    SupersessionRecord where
  previousId := other.id
  replacementId := record.id
  previousGeneration := other.generation
  replacementGeneration := record.generation
  publisher := record.publisher
  seq := record.acceptedSeq
  recordedTick := tick

theorem weakens_supersededBy (record other : EvidenceRecord) :
    EvidenceStore.Weakens other (supersededBy record other) := by
  unfold supersededBy
  split_ifs with h
  · exact Or.inr ⟨EvidenceStore.stateRank_lt_superseded h.2, rfl⟩
  · exact Or.inl rfl

theorem displaces_weakens (h : EvidenceStore.Weakens r r') :
    displaces record r' = displaces record r := by
  rw [h.submission]
  rfl

theorem supersession_weakens (h : EvidenceStore.Weakens r r') :
    supersession record tick r' = supersession record tick r := by
  rw [h.submission]
  rfl

theorem supersededBy_idem (record other : EvidenceRecord) :
    supersededBy record (supersededBy record other) = supersededBy record other := by
  by_cases h : displaces record other ∧ other.state ≠ .superseded
  · rw [supersededBy, if_neg]
    rintro ⟨-, hstate⟩
    refine hstate ?_
    rw [supersededBy, if_pos h]
  · have hsame : supersededBy record other = other := if_neg h
    rw [hsame, hsame]

/-- The record is SUPERSEDED afterwards if it was so before or is displaced. -/
theorem state_supersededBy_iff {other : EvidenceRecord} :
    (supersededBy record other).state = .superseded ↔
      displaces record other = true ∨ other.state = .superseded := by
  unfold supersededBy
  by_cases hstate : other.state = .superseded
  · simp [hstate]
  · by_cases hdisplaces : displaces record other = true
    · simp [hstate, hdisplaces]
    · simp [hstate, hdisplaces]

def displacedAt (c : Classifier) (record : EvidenceRecord) (id : EvidenceId) :
    Option EvidenceRecord :=
  (c.evidence.byId.lookup id).filter (displaces record)

/-- One pass: the record that is visited becomes SUPERSEDED and is logged if it is older. -/
theorem supersedeOne_spec (acc : Option EvidenceId × Classifier)
    (hkeyed : ∀ j r, acc.2.evidence.byId.lookup j = some r → r.id = j) :
    (∀ j, (supersedeOne record tick acc id).2.evidence.byId.lookup j =
      if j = id then (acc.2.evidence.byId.lookup j).map (supersededBy record)
      else acc.2.evidence.byId.lookup j) ∧
    (supersedeOne record tick acc id).2.decisions =
      ((acc.2.displacedAt record id).toList.map (supersession record tick)).foldl
        ClassificationIndex.recordSupersession acc.2.decisions := by
  obtain ⟨last, c⟩ := acc
  unfold supersedeOne displacedAt
  dsimp only at hkeyed ⊢
  cases hid : c.evidence.byId.lookup id with
  | none =>
    refine ⟨fun j => ?_, rfl⟩
    split_ifs with hj
    · rw [hj, hid]
      rfl
    · rfl
  | some other =>
    dsimp only
    have hother := hkeyed id other hid
    by_cases hdisplaces : displaces record other = true
    · have hnot : ¬ (!displaces record other) = true := by simp [hdisplaces]
      rw [if_neg hnot, hother, EvidenceStore.setState, hid, Option.filter_some, if_pos hdisplaces]
      dsimp only
      by_cases hstate : other.state = .superseded
      · rw [if_pos hstate]
        refine ⟨fun j => ?_, ?_⟩
        · have hsame : supersededBy record other = other := if_neg fun h => h.2 hstate
          split_ifs with hj
          · rw [hj, hid, Option.map_some, hsame]
          · rfl
        · simp [supersession, hother]
      · have hback : ¬ (other.state ≠ .current ∧ EvidenceState.superseded = .current) := by simp
        rw [if_neg hstate, if_neg hback]
        refine ⟨fun j => ?_, ?_⟩
        · have hmoved : supersededBy record other = _ := if_pos ⟨hdisplaces, hstate⟩
          rw [FiniteMap.lookup_insert_eq]
          split_ifs with hj
          · rw [hj, hid, Option.map_some, hmoved]
          · rfl
        · simp [supersession, hother]
    · have hnot : (!displaces record other) = true := by simp [hdisplaces]
      rw [if_pos hnot, Option.filter_some, if_neg hdisplaces]
      refine ⟨fun j => ?_, rfl⟩
      have hsame : supersededBy record other = other := if_neg fun h => hdisplaces h.1
      split_ifs with hj
      · rw [hj, hid, Option.map_some, hsame]
      · rfl

def entries (c : Classifier) (record : EvidenceRecord) (tick : Tick) (ids : List EvidenceId) :
    List SupersessionRecord :=
  (ids.filterMap (c.displacedAt record)).map (supersession record tick)

/-- The loop over any list of identities, by what it does to one lookup and to the log. -/
theorem foldl_supersedeOne_spec (ids : List EvidenceId) (acc : Option EvidenceId × Classifier)
    (hkeyed : ∀ j r, acc.2.evidence.byId.lookup j = some r → r.id = j) :
    (∀ j, (ids.foldl (supersedeOne record tick) acc).2.evidence.byId.lookup j =
      if j ∈ ids then (acc.2.evidence.byId.lookup j).map (supersededBy record)
      else acc.2.evidence.byId.lookup j) ∧
    (ids.foldl (supersedeOne record tick) acc).2.decisions =
      (acc.2.entries record tick ids).foldl ClassificationIndex.recordSupersession
        acc.2.decisions := by
  induction ids generalizing acc with
  | nil => exact ⟨fun j => rfl, rfl⟩
  | cons id rest ih =>
    obtain ⟨hlookup, hlog⟩ := @supersedeOne_spec id record tick acc hkeyed
    have hkeyed' : ∀ j r, (supersedeOne record tick acc id).2.evidence.byId.lookup j = some r →
        r.id = j := by
      intro j r hr
      rw [hlookup] at hr
      split_ifs at hr with hj
      · obtain ⟨old, hold, rfl⟩ := Option.map_eq_some_iff.mp hr
        rw [(weakens_supersededBy record old).submission]
        exact hkeyed j old hold
      · exact hkeyed j r hr
    obtain ⟨hlookups, hlogs⟩ := ih (supersedeOne record tick acc id) hkeyed'
    refine ⟨fun j => ?_, ?_⟩
    · rw [List.foldl_cons, hlookups, hlookup]
      by_cases hj : j = id
      · rw [if_pos hj, if_pos (List.mem_cons.mpr (Or.inl hj))]
        split_ifs
        · rw [Option.map_map]
          exact congrArg (fun f => (acc.2.evidence.byId.lookup j).map f)
            (funext fun other => supersededBy_idem record other)
        · rfl
      · simp only [List.mem_cons, hj, false_or, if_false]
    · -- what is logged of a record does not depend on its state
      have hsame : ∀ j, ((supersedeOne record tick acc id).2.displacedAt record j).map
          (supersession record tick) =
          (acc.2.displacedAt record j).map (supersession record tick) := by
        intro j
        rw [displacedAt, displacedAt, hlookup]
        split_ifs with hj
        · cases acc.2.evidence.byId.lookup j with
          | none => rfl
          | some other =>
            have hweak := weakens_supersededBy record other
            rw [Option.map_some, Option.filter_some, Option.filter_some, displaces_weakens hweak]
            split_ifs
            · exact congrArg some (supersession_weakens hweak)
            · rfl
        · rfl
      have hrest : (supersedeOne record tick acc id).2.entries record tick rest =
          acc.2.entries record tick rest := by
        rw [entries, entries, List.map_filterMap, List.map_filterMap]
        exact congrArg (fun f => rest.filterMap f) (funext hsame)
      rw [List.foldl_cons, hlogs, hlog, hrest, ← List.foldl_append]
      congr 1
      rw [entries, entries, List.filterMap_cons]
      cases acc.2.displacedAt record id with
      | none => rfl
      | some other => rfl

section Admission

variable {c c₂ : Classifier} {envelope : SessionEnvelope} {payload : EvidencePayload}
  {outcome : EvidenceSubmissionOutcome}

/-- The steps of a submission that was admitted. -/
theorem admitEvidence_ok (h : c.admitEvidence envelope payload tick = (.ok outcome, c₂)) :
    ∃ effective flow c₁ publishers sequence superseded,
      c.refreshFlow payload.flowKey payload.flowGeneration envelope.session tick = (.ok flow, c₁) ∧
      c.publishers.observeEvidenceGeneration envelope.publisher envelope.publisherBoot
        payload.evidenceGeneration = (.ok (), publishers) ∧ c.sequence.next = .ok sequence ∧
      outcome.record = c₁.buildRecord envelope payload effective flow.record sequence.value tick ∧
      supersedeOlder { c₁ with publishers := publishers, sequence := sequence } outcome.record
        tick = (superseded, c₂) := by
  have hsome : c.admitted envelope payload tick = some outcome.record := by
    rw [admitted, h]
    rfl
  have hsub := submission c envelope payload tick 0 0
  generalize c.submitEvidence envelope payload tick 0 0 = out at hsub
  cases hsub with
  | inadmissible _ hnone | flowRefused _ _ hnone | generationRefused _ _ _ hnone
  | exhausted _ _ _ _ hnone => cases hnone.symm.trans hsome
  | storeRefused hchecks hflow hgeneration hsequence hrecord hsupersede hadmitted
  | accepted hchecks hflow hgeneration hsequence hrecord hsupersede hadmitted =>
    cases hadmitted.symm.trans hsome
    have hsame := sameAuthority_of_refreshFlow hflow
    have hnext := hsame.sequence ▸ hsequence
    simp only [admitEvidence, hchecks, hflow, hsame.publishers, hgeneration, hnext] at h
    have hbuilt : outcome.record = buildRecord _ envelope payload _ _ _ tick :=
      congrArg (fun r => r.record) (Except.ok.inj (congrArg Prod.fst h)).symm
    have hstate := congrArg Prod.snd h
    dsimp only at hstate
    rw [← hbuilt, hsupersede] at hstate
    cases hstate
    exact ⟨_, _, _, _, _, _, hflow, hgeneration, hsequence, hbuilt, hsupersede⟩

/-- A registration of a flow takes no record to SUPERSEDED and none back. -/
theorem superseded_refreshFlow {key : FlowKey} {requested : FlowGeneration} {session : SessionId}
    {r r₁ : EvidenceRecord} (hr : c.evidence.byId.lookup id = some r)
    (hr₁ : (c.refreshFlow key requested session tick).2.evidence.byId.lookup id = some r₁) :
    r₁.state = .superseded ↔ r.state = .superseded := by
  let Same (s : EvidenceStore) : Prop := ∀ q, s.byId.lookup id = some q →
    (q.state = .superseded ↔ r.state = .superseded)
  have hsame : Same c.evidence := by
    intro q hq
    rw [hr] at hq
    cases hq
    rfl
  have hstale : ∀ {s p reason}, Same s → Same (s.markStaleWhere p reason) := by
    intro s p reason hs q' hq'
    rw [EvidenceStore.markStaleWhere, FiniteMap.lookup_mapValues] at hq'
    obtain ⟨q, hq, rfl⟩ := Option.map_eq_some_iff.mp hq'
    rw [← hs q hq, EvidenceStore.markStale]
    split_ifs with hcurrent
    · simp [hcurrent.1]
    · rfl
  unfold refreshFlow at hr₁
  generalize c.flows.registerFlow key requested session tick = out at hr₁
  obtain ⟨_ | registration, flows⟩ := out
  · exact hsame r₁ hr₁
  · dsimp only at hr₁
    split_ifs at hr₁
    · exact hstale (hstale hsame) r₁ hr₁
    · exact hstale hsame r₁ hr₁
    · exact hstale hsame r₁ hr₁
    · exact hsame r₁ hr₁

/-- What an admission does to a stored record: it becomes SUPERSEDED exactly if it is in the
ring of the flow and displaced, or was so before. -/
theorem superseded_of_admission (hindexed : c.evidence.Indexed c.evidence.order)
    (h : c.admitEvidence envelope payload tick = (.ok outcome, c₂))
    (hr : c.evidence.byId.lookup id = some r) :
    ∃ r₂, c₂.evidence.byId.lookup id = some r₂ ∧ EvidenceStore.Weakens r r₂ ∧
      (r₂.state = .superseded ↔ r.state = .superseded ∨
        id ∈ c.evidence.ring outcome.record.flowId ∧ displaces outcome.record r = true) := by
  obtain ⟨effective, flow, c₁, publishers, sequence, superseded, hflow, -, -, -, hsupersede⟩ :=
    admitEvidence_ok h
  have hreviewed := (refreshFlow_stores c payload.flowKey payload.flowGeneration
    envelope.session tick).2.1
  have hstate : ∀ {r₁}, c₁.evidence.byId.lookup id = some r₁ →
      (r₁.state = .superseded ↔ r.state = .superseded) := by
    intro r₁ hr₁
    refine @superseded_refreshFlow id tick c payload.flowKey payload.flowGeneration envelope.session
      r r₁ hr ?_
    rw [hflow]
    exact hr₁
  rw [hflow] at hreviewed
  have hindexed₁ := hreviewed.indexed_order hindexed
  obtain ⟨r₁, hr₁, hweak⟩ := hreviewed.stored hr
  have hlookup := (@foldl_supersedeOne_spec outcome.record tick
    (c₁.evidence.evidenceForFlow outcome.record.flowId)
    (none, { c₁ with publishers := publishers, sequence := sequence }) hindexed₁.keyed).1 id
  have hloop : (c₁.evidence.evidenceForFlow outcome.record.flowId).foldl
      (supersedeOne outcome.record tick)
      (none, { c₁ with publishers := publishers, sequence := sequence }) = (superseded, c₂) :=
    hsupersede
  rw [hloop] at hlookup
  dsimp only at hlookup
  have hmem : id ∈ c₁.evidence.evidenceForFlow outcome.record.flowId ↔
      id ∈ c.evidence.ring outcome.record.flowId := by
    rw [EvidenceStore.mem_evidenceForFlow_iff hindexed₁, hreviewed.ring]
  rw [hr₁] at hlookup
  by_cases hring : id ∈ c.evidence.ring outcome.record.flowId
  · rw [if_pos (hmem.mpr hring), Option.map_some] at hlookup
    refine ⟨_, hlookup, hweak.trans (weakens_supersededBy _ _), ?_⟩
    rw [state_supersededBy_iff, hstate hr₁, displaces_weakens hweak, and_iff_right hring, or_comm]
  · rw [if_neg fun h => hring (hmem.mp h)] at hlookup
    refine ⟨r₁, hlookup, hweak, ?_⟩
    rw [hstate hr₁]
    exact ⟨Or.inl, fun h => h.resolve_right fun hboth => hring hboth.1⟩

variable {touchTick : Tick} {wall : UInt64}

/-- A submission that was accepted: admitted, and then taken by the store. -/
theorem submitEvidence_accepted {c' : Classifier}
    (h : c.submitEvidence envelope payload tick touchTick wall = (.ok outcome, c')) :
    ∃ admitted c₂, c.admitEvidence envelope payload tick = (.ok admitted, c₂) ∧
      admitted.record = outcome.record ∧ c₂.evidence.insert outcome.record = (.ok (), c'.evidence) ∧
      c'.decisions = c₂.decisions := by
  unfold submitEvidence at h
  rcases hpassed : c.admitEvidence envelope payload tick with ⟨_ | admitted, c₂⟩
  · rw [hpassed] at h
    cases h
  rw [hpassed] at h
  dsimp only at h
  rcases hinsert : c₂.evidence.insert admitted.record with ⟨_ | _, evidence⟩
  · rw [hinsert] at h
    cases h
  rw [hinsert] at h
  cases h
  exact ⟨admitted, c₂, rfl, rfl, hinsert, rfl⟩

/-- Whatever an accepted record displaces in the ring of its flow is SUPERSEDED as long as it
is stored. -/
theorem superseded_of_accepted (hindexed : c.evidence.Indexed c.evidence.order) {c' : Classifier}
    (h : c.submitEvidence envelope payload tick touchTick wall = (.ok outcome, c'))
    (hr : c.evidence.byId.lookup id = some r) (hring : id ∈ c.evidence.ring outcome.record.flowId)
    (hdisplaces : displaces outcome.record r = true)
    (hr' : c'.evidence.byId.lookup id = some r') : r'.state = .superseded := by
  obtain ⟨admitted, c₂, hpassed, hrecord, hinsert, -⟩ := submitEvidence_accepted h
  rw [← hrecord] at hring hdisplaces
  obtain ⟨r₂, hr₂, -, hstate⟩ := superseded_of_admission hindexed hpassed hr
  obtain ⟨effective, flow, c₁, publishers, sequence, superseded, hflow, -, -, -, hsupersede⟩ :=
    admitEvidence_ok hpassed
  have hindexed₂ := (reviewed_before_insert hflow hsupersede).indexed_order hindexed
  have hrecords := (EvidenceStore.insert_records hindexed₂ outcome.record).2 id
  rw [hinsert] at hrecords
  rcases hrecords r' hr' with ⟨q, hq, hweak⟩ | ⟨-, hnone, hid, -⟩
  · rw [hr₂] at hq
    cases hq
    exact hweak.superseded (hstate.mpr (Or.inr ⟨hring, hdisplaces⟩))
  · rw [← hid, hr₂] at hnone
    cases hnone

/-- The rings after a submission: what was there, and the accepted record if it is new. -/
theorem Handed.ring {result : Result EvidenceSubmissionOutcome} {s' : EvidenceStore}
    (h : Handed c envelope payload tick result s') {flow : FlowId} (hid : id ∈ s'.ring flow) :
    id ∈ c.evidence.ring flow ∨ ∃ outcome, result = .ok outcome ∧
      c.evidence.byId.lookup id = none ∧ id = outcome.record.id ∧ flow = outcome.record.flowId := by
  cases h with
  | kept h =>
    rw [← h.ring flow]
    exact Or.inl hid
  | @refused s record _ _ h hinsert =>
    have hrings := (s.ring_insert record).1 flow id
    rw [hinsert] at hrings
    rw [← h.ring flow]
    rcases hrings hid with hold | ⟨hok, -⟩
    · exact Or.inl hold
    · cases hok
  | @stored s _ outcome h hinsert =>
    have hrings := (s.ring_insert outcome.record).1 flow id
    rw [hinsert] at hrings
    rcases hrings hid with hold | ⟨-, hnone, rfl, hflow⟩
    · rw [← h.ring flow]
      exact Or.inl hold
    · refine Or.inr ⟨outcome, rfl, ?_, rfl, hflow⟩
      have hsome := h.isSome outcome.record.id
      rw [hnone, Option.isSome_none] at hsome
      exact Option.not_isSome_iff_eq_none.mp (by rw [← hsome]; exact Bool.false_ne_true)

end Admission

end Classifier
end FlowClassifier
