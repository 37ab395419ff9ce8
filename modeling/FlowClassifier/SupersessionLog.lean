import FlowClassifier.Acceptance

/-!
The log of supersessions against the changes of state it reports. The loop of a submission
logs every older record of the topic in the ring of the flow, also one that was SUPERSEDED
before, by an earlier generation or by a withdrawal, and it has logged when the store then
refuses the record. The log is exact on a submission exactly if none of this occurs. Along
exact submissions no identity is logged as displaced twice, and none that was withdrawn.
-/
namespace FlowClassifier.Classifier

open Lib Foundation Evidence Classifications Flows Store EvidenceStore

def appended (c : Classifier) : Operation → List SupersessionRecord
  | .submitEvidence envelope payload tick _ _ =>
    match c.admitted envelope payload tick with
    | none => []
    | some record =>
      -- the flow is registered before the loop runs
      let c₁ := (c.refreshFlow payload.flowKey payload.flowGeneration envelope.session tick).2
      c₁.entries record tick (c₁.evidence.evidenceForFlow record.flowId)
  | _ => []

def appendedAlong (c : Classifier) : List Operation → List SupersessionRecord
  | [] => []
  | op :: ops => c.appended op ++ (c.step op).appendedAlong ops

section Log

variable {c c₂ : Classifier} {envelope : SessionEnvelope} {payload : EvidencePayload}
  {tick touchTick : Tick} {wall : UInt64} {outcome : EvidenceSubmissionOutcome}

theorem supersessions_foldl (entries : List SupersessionRecord) (d : ClassificationIndex) :
    (entries.foldl ClassificationIndex.recordSupersession d).supersessions =
      entries.foldl (pushBounded d.maxSupersessions) d.supersessions := by
  induction entries generalizing d with
  | nil => rfl
  | cons e rest ih => exact ih (d.recordSupersession e)

theorem supersessions_supersedeGeneration (d : ClassificationIndex) (flow : FlowId)
    (generation : FlowGeneration) :
    (d.supersedeGeneration flow generation).2.supersessions = d.supersessions ∧
      (d.supersedeGeneration flow generation).2.maxSupersessions = d.maxSupersessions := by
  unfold ClassificationIndex.supersedeGeneration
  cases d.history.lookup flow <;> exact ⟨rfl, rfl⟩

theorem supersessions_refreshFlow (c : Classifier) (key : FlowKey)
    (requested : FlowGeneration) (session : SessionId) (tick : Tick) :
    let d := (c.refreshFlow key requested session tick).2.decisions
    d.supersessions = c.decisions.supersessions ∧
      d.maxSupersessions = c.decisions.maxSupersessions := by
  rcases (refreshFlow_stores c key requested session tick).2.2 with hsame | ⟨_, _, hmarked⟩
  · rw [hsame]
    exact ⟨rfl, rfl⟩
  · rw [hmarked]
    exact supersessions_supersedeGeneration _ _ _

theorem admitted_of_admitEvidence (h : c.admitEvidence envelope payload tick = (.ok outcome, c₂)) :
    c.admitted envelope payload tick = some outcome.record := by
  rw [Classifier.admitted, h]
  rfl

theorem exists_of_admitted {record : EvidenceRecord}
    (h : c.admitted envelope payload tick = some record) :
    ∃ outcome c₂, c.admitEvidence envelope payload tick = (.ok outcome, c₂) ∧
      outcome.record = record := by
  rw [Classifier.admitted] at h
  rcases hout : c.admitEvidence envelope payload tick with ⟨_ | outcome, c₂⟩
  · rw [hout] at h
    cases h
  · rw [hout] at h
    exact ⟨outcome, c₂, rfl, Option.some.inj h⟩

theorem supersessions_admitEvidence (hindexed : c.evidence.Indexed c.evidence.order)
    (h : c.admitEvidence envelope payload tick = (.ok outcome, c₂)) : c₂.decisions.supersessions =
      (c.appended (.submitEvidence envelope payload tick touchTick wall)).foldl
        (pushBounded c.decisions.maxSupersessions) c.decisions.supersessions := by
  obtain ⟨effective, flow, c₁, publishers, sequence, superseded, hflow, -, -, -, hsupersede⟩ :=
    admitEvidence_ok h
  have hreviewed := (refreshFlow_stores c payload.flowKey payload.flowGeneration
    envelope.session tick).2.1
  obtain ⟨hlog, hbound⟩ := supersessions_refreshFlow c payload.flowKey payload.flowGeneration
    envelope.session tick
  rw [appended, admitted_of_admitEvidence h]
  rw [hflow] at hreviewed hlog hbound ⊢
  have hloop := (@foldl_supersedeOne_spec outcome.record tick
    (c₁.evidence.evidenceForFlow outcome.record.flowId)
    (none, { c₁ with publishers := publishers, sequence := sequence })
    (hreviewed.indexed_order hindexed).keyed).2
  have hsame : (c₁.evidence.evidenceForFlow outcome.record.flowId).foldl
      (supersedeOne outcome.record tick)
      (none, { c₁ with publishers := publishers, sequence := sequence }) = (superseded, c₂) :=
    hsupersede
  rw [hsame] at hloop
  dsimp only at hloop ⊢
  rw [hloop, supersessions_foldl, hlog, hbound]
  rfl

theorem supersessions_submitEvidence (hindexed : c.evidence.Indexed c.evidence.order) :
    (c.submitEvidence envelope payload tick touchTick wall).2.decisions.supersessions =
      (c.appended (.submitEvidence envelope payload tick touchTick wall)).foldl
        (pushBounded c.decisions.maxSupersessions) c.decisions.supersessions := by
  cases hadmitted : c.admitted envelope payload tick with
  | some record =>
    obtain ⟨outcome, c₂, hpassed, -⟩ := exists_of_admitted hadmitted
    rw [← supersessions_admitEvidence hindexed hpassed, submitEvidence, hpassed]
    dsimp only
    rcases c₂.evidence.insert outcome.record with ⟨_ | _, evidence⟩
    · rfl
    · rfl
  | none =>
    have hnothing : c.appended (.submitEvidence envelope payload tick touchTick wall) = [] := by
      rw [appended, hadmitted]
    have hlog := (supersessions_refreshFlow c payload.flowKey payload.flowGeneration
      envelope.session tick).1
    rw [hnothing, List.foldl_nil]
    have hsub := submission c envelope payload tick touchTick wall
    generalize c.submitEvidence envelope payload tick touchTick wall = out at hsub
    cases hsub with
    | inadmissible => rfl
    | flowRefused _ hflow | generationRefused _ hflow | exhausted _ hflow =>
      rw [hflow] at hlog
      exact hlog
    | storeRefused _ _ _ _ _ _ hsome | accepted _ _ _ _ _ _ hsome =>
      rw [hadmitted] at hsome
      cases hsome

/-- A step appends its entries to the log, within the bound of the log. Only a new policy
clears it. -/
theorem supersessions_step (hindexed : c.evidence.Indexed c.evidence.order) {op : Operation}
    (hop : op.Running) : (c.step op).decisions.supersessions =
        (c.appended op).foldl (pushBounded c.decisions.maxSupersessions) c.decisions.supersessions ∨
      ∃ policy, op = .setPolicy policy ∧ (c.step op).decisions.supersessions = [] := by
  cases op with
  | setPolicy policy =>
    rw [step]
    rcases setPolicy_updates c policy with hsame | ⟨_, _, _, -, hcleared⟩
    · rw [hsame]
      exact Or.inl rfl
    · rw [hcleared]
      exact Or.inr ⟨policy, rfl, rfl⟩
  | submitEvidence => exact Or.inl (supersessions_submitEvidence hindexed)
  | classify => exact Or.inl (answered_classify c _ _).log.supersessions
  | classifyBatch => exact Or.inl (answered_classifyBatch c _).log.supersessions
  | explain => exact Or.inl (answered_explain c _ _ _ _).log.supersessions
  | restore image boot tick => exact absurd rfl (hop image boot tick)
  | _ =>
    exact Or.inl (decisions_rule (Q := fun d => d.supersessions = c.decisions.supersessions) id rfl
      (fun _ _ => (supersessions_supersedeGeneration _ _ _).1) False.elim fun _ _ => rfl)

end Log

/-- The acceptance of the second record changed the state of the first to SUPERSEDED. -/
def Supersedes (c : Classifier) : Operation → EvidenceId → EvidenceId → Prop
  | .submitEvidence envelope payload tick touchTick wall, previous, replacement =>
    ∃ outcome, (c.submitEvidence envelope payload tick touchTick wall).1 = .ok outcome ∧
      outcome.record.id = replacement ∧
      ∃ before after, c.evidence.byId.lookup previous = some before ∧
        before.state ≠ .superseded ∧
        -- where the record is handed to the store, which may evict the older one
        (c.admitEvidence envelope payload tick).2.evidence.byId.lookup previous = some after ∧
        after.state = .superseded
  | _, _, _ => False

def Exact (c : Classifier) (op : Operation) : Prop :=
  ∀ previous replacement,
    (∃ e ∈ c.appended op, e.previousId = previous ∧ e.replacementId = replacement) ↔
      c.Supersedes op previous replacement

/-- Every older record of the topic that a submission finds in the ring of the flow is not
SUPERSEDED yet, and the store takes the record. -/
def DisplacesOnce (c : Classifier) : Operation → Prop
  | .submitEvidence envelope payload tick _ _ =>
    ∀ effective, Admissible c envelope payload effective →
      ¬ c.flows.Refuses payload.flowKey payload.flowGeneration → Unused c envelope payload →
      c.sequence.value ≠ 0xFFFFFFFFFFFFFFFF →
      ∀ other ∈ c.evidence.recordsForFlow (deriveFlowId payload.flowKey),
        displaces (c.nextRecord envelope payload effective tick) other = true →
        other.state ≠ .superseded ∧
          c.evidence.Takes (c.nextRecord envelope payload effective tick)
  | _ => True

section Exactness

variable {c c₂ : Classifier} {envelope : SessionEnvelope} {payload : EvidencePayload}
  {tick touchTick : Tick} {wall : UInt64} {outcome : EvidenceSubmissionOutcome}
  {record : EvidenceRecord}

/-- The condition, for the record that is admitted. -/
theorem displacesOnce_iff : c.DisplacesOnce (.submitEvidence envelope payload tick touchTick wall) ↔
      ∀ record, c.admitted envelope payload tick = some record →
        ∀ other ∈ c.evidence.recordsForFlow record.flowId, displaces record other = true →
          other.state ≠ .superseded ∧ c.evidence.Takes record := by
  constructor
  · intro h record hadmitted
    obtain ⟨effective, hmaking⟩ := admitted_iff.mp hadmitted
    rw [hmaking.record]
    exact h effective hmaking.admissible hmaking.flow hmaking.unused hmaking.sequence
  · intro h effective hadmissible hflow hunused hsequence
    exact h _ (admitted_iff.mpr ⟨effective, hadmissible, hflow, hunused, hsequence, rfl⟩)

/-- What is logged of an admitted submission: the older records of the topic in the ring. -/
theorem mem_appended_iff (hindexed : c.evidence.Indexed c.evidence.order)
    (hadmitted : c.admitted envelope payload tick = some record) {e : SupersessionRecord} :
    e ∈ c.appended (.submitEvidence envelope payload tick touchTick wall) ↔
      ∃ other ∈ c.evidence.recordsForFlow record.flowId, displaces record other = true ∧
        e = supersession record tick other := by
  have hreviewed := (refreshFlow_stores c payload.flowKey payload.flowGeneration
    envelope.session tick).2.1
  have hindexed₁ := hreviewed.indexed_order hindexed
  rw [appended, hadmitted]
  dsimp only
  generalize (c.refreshFlow payload.flowKey payload.flowGeneration envelope.session tick).2 = c₁
    at hreviewed hindexed₁ ⊢
  rw [entries, List.mem_map]
  constructor
  · rintro ⟨r₁, hr₁, rfl⟩
    obtain ⟨id, hid, hfound⟩ := List.mem_filterMap.mp hr₁
    obtain ⟨hlookup, hdisplaces⟩ := Option.filter_eq_some_iff.mp hfound
    obtain ⟨r, hr, hweak⟩ := hreviewed.evolved id r₁ hlookup
    rw [mem_evidenceForFlow_iff hindexed₁, hreviewed.ring] at hid
    rw [displaces_weakens hweak] at hdisplaces
    refine ⟨r, ?_, hdisplaces, supersession_weakens hweak⟩
    rw [mem_recordsForFlow_iff hindexed, hindexed.keyed id r hr]
    exact ⟨hid, hr⟩
  · rintro ⟨r, hr, hdisplaces, rfl⟩
    obtain ⟨hring, hlookup⟩ := (mem_recordsForFlow_iff hindexed).mp hr
    obtain ⟨r₁, hr₁, hweak⟩ := hreviewed.stored hlookup
    refine ⟨r₁, List.mem_filterMap.mpr ⟨r.id, ?_, ?_⟩, supersession_weakens hweak⟩
    · rw [mem_evidenceForFlow_iff hindexed₁, hreviewed.ring]
      exact hring
    · refine Option.filter_eq_some_iff.mpr ⟨hr₁, ?_⟩
      rw [displaces_weakens hweak]
      exact hdisplaces

/-- The change of state, for the record that is admitted. -/
theorem supersedes_iff (hstocked : Stocked c)
    (hadmitted : c.admitted envelope payload tick = some record)
    {previous replacement : EvidenceId} :
    c.Supersedes (.submitEvidence envelope payload tick touchTick wall) previous replacement ↔
      record.id = replacement ∧ c.evidence.Takes record ∧
        ∃ other ∈ c.evidence.recordsForFlow record.flowId, other.id = previous ∧
          displaces record other = true ∧ other.state ≠ .superseded := by
  obtain ⟨admission, c₂, hpassed, rfl⟩ := exists_of_admitted hadmitted
  obtain ⟨_, _, _, _, _, _, hflow, -, -, -, hsupersede⟩ := admitEvidence_ok hpassed
  have hreviewed := reviewed_before_insert hflow hsupersede
  have htakes := insert_ok_iff (hreviewed.indexed_order hstocked.1)
    (hreviewed.bounded hstocked.2) admission.record
  rw [hreviewed.takes_iff] at htakes
  have hchanged : (∃ before after, c.evidence.byId.lookup previous = some before ∧
        before.state ≠ .superseded ∧ c₂.evidence.byId.lookup previous = some after ∧
        after.state = .superseded) ↔
      ∃ other ∈ c.evidence.recordsForFlow admission.record.flowId, other.id = previous ∧
        displaces admission.record other = true ∧ other.state ≠ .superseded := by
    constructor
    · rintro ⟨before, after, hbefore, hstate, hafter, hsuperseded⟩
      obtain ⟨r₂, hr₂, -, hiff⟩ := superseded_of_admission hstocked.1 hpassed hbefore
      rw [hafter] at hr₂
      cases hr₂
      obtain ⟨hring, hdisplaces⟩ := (hiff.mp hsuperseded).resolve_left hstate
      have hid := hstocked.1.keyed previous before hbefore
      refine ⟨before, ?_, hid, hdisplaces, hstate⟩
      rw [mem_recordsForFlow_iff hstocked.1, hid]
      exact ⟨hring, hbefore⟩
    · rintro ⟨other, hother, rfl, hdisplaces, hstate⟩
      obtain ⟨hring, hlookup⟩ := (mem_recordsForFlow_iff hstocked.1).mp hother
      obtain ⟨r₂, hr₂, -, hiff⟩ := superseded_of_admission hstocked.1 hpassed hlookup
      exact ⟨other, r₂, hlookup, hstate, hr₂, hiff.mpr (Or.inr ⟨hring, hdisplaces⟩)⟩
  rw [Supersedes, submitEvidence, hpassed]
  dsimp only
  rw [hchanged]
  rcases hinsert : c₂.evidence.insert admission.record with ⟨_ | _, evidence⟩
  · rw [hinsert] at htakes
    refine iff_of_false ?_ fun h => absurd (htakes.mpr h.2.1) nofun
    rintro ⟨outcome, hok, -⟩
    cases hok
  · rw [hinsert] at htakes
    constructor
    · rintro ⟨outcome, hok, hid, hothers⟩
      cases hok
      exact ⟨hid, htakes.mp rfl, hothers⟩
    · rintro ⟨hid, -, hothers⟩
      exact ⟨_, rfl, hid, hothers⟩

/-- A submission is logged exactly if it displaces only what was not SUPERSEDED and is taken
by the store. -/
theorem exact_submitEvidence_iff (hstocked : Stocked c) :
    c.Exact (.submitEvidence envelope payload tick touchTick wall) ↔
      c.DisplacesOnce (.submitEvidence envelope payload tick touchTick wall) := by
  rw [displacesOnce_iff]
  cases hadmitted : c.admitted envelope payload tick with
  | none =>
    refine iff_of_true (fun previous replacement => ?_) fun made hmade => by cases hmade
    have hnothing : c.appended (.submitEvidence envelope payload tick touchTick wall) = [] := by
      rw [appended, hadmitted]
    rw [hnothing]
    refine iff_of_false (fun ⟨e, he, _⟩ => by cases he) ?_
    rintro ⟨outcome, hok, -⟩
    have haccepted : c.submitEvidence envelope payload tick touchTick wall =
        (.ok outcome, (c.submitEvidence envelope payload tick touchTick wall).2) := by
      rw [← hok]
    obtain ⟨admission, c₂, hpassed, -⟩ := submitEvidence_accepted haccepted
    rw [admitted_of_admitEvidence hpassed] at hadmitted
    cases hadmitted
  | some record =>
    constructor
    · intro h made hmade other hother hdisplaces
      cases hmade
      have hlogged : ∃ e ∈ c.appended (.submitEvidence envelope payload tick touchTick wall),
          e.previousId = other.id ∧ e.replacementId = record.id :=
        ⟨_, (mem_appended_iff hstocked.1 hadmitted).mpr ⟨other, hother, hdisplaces, rfl⟩, rfl, rfl⟩
      obtain ⟨-, htakes, changed, hchanged, hid, -, hstate⟩ :=
        (supersedes_iff hstocked hadmitted).mp ((h other.id record.id).mp hlogged)
      have hlookup := (mem_recordsForFlow hstocked.1 hchanged).1
      rw [hid, (mem_recordsForFlow hstocked.1 hother).1] at hlookup
      cases hlookup
      exact ⟨hstate, htakes⟩
    · intro h previous replacement
      rw [supersedes_iff hstocked hadmitted]
      constructor
      · rintro ⟨e, he, rfl, rfl⟩
        obtain ⟨other, hother, hdisplaces, rfl⟩ := (mem_appended_iff hstocked.1 hadmitted).mp he
        obtain ⟨hstate, htakes⟩ := h record rfl other hother hdisplaces
        exact ⟨rfl, htakes, other, hother, rfl, hdisplaces, hstate⟩
      · rintro ⟨rfl, htakes, other, hother, rfl, hdisplaces, hstate⟩
        exact ⟨_, (mem_appended_iff hstocked.1 hadmitted).mpr ⟨other, hother, hdisplaces, rfl⟩,
          rfl, rfl⟩

theorem exact_iff (hstocked : Stocked c) (op : Operation) : c.Exact op ↔ c.DisplacesOnce op := by
  cases op with
  | submitEvidence => exact exact_submitEvidence_iff hstocked
  | _ =>
    refine iff_of_true (fun previous replacement => iff_of_false ?_ id) trivial
    rintro ⟨e, he, -⟩
    cases he

end Exactness

/-- The identity was given to a record, which is SUPERSEDED as long as it is stored. -/
def Closed (scope : HashScope) (c : Classifier) (id : EvidenceId) : Prop :=
  ∃ q, q.id = id ∧ q.id = mintEvidenceId (materialOf q) ∧ materialOf q ∈ scope.messages ∧
    used c.publishers q ∧ ∀ r, c.evidence.byId.lookup id = some r → r.state = .superseded

section Runs

variable {scope : HashScope} {c : Classifier} {op : Operation} {id : EvidenceId}

theorem Runs.stocked (h : Runs scope c) : Stocked c := by
  induction h with
  | new options => exact stocked_run options []
  | step _ _ ih => exact stocked_step ih _
  | restart _ options boot tick => exact stocked_restore (stocked_run options []) _ boot tick

/-- An identity stays closed: its generation is used, so no other record gets it. -/
theorem closed_step (hnumbered : Numbered scope c) (hmints : Mints scope c op)
    (h : Closed scope c id) : Closed scope (c.step op) id := by
  obtain ⟨q, rfl, hminted, hmaterial, hused, hstate⟩ := h
  refine ⟨q, rfl, hminted, hmaterial,
    (advances_step c hmints.running hnumbered.keyed).2 _ _ _ hused, fun r' hr' => ?_⟩
  rcases stored_or_entered hnumbered hmints hr' with ⟨r, hr, hweak⟩ | ⟨hnew, hid, -⟩
  · exact hweak.superseded (hstate r hr)
  · have hscope := hmints.material r' hnew
    cases op with
    | submitEvidence envelope payload tick touchTick wall =>
      obtain ⟨admission, c₂, hpassed, rfl⟩ := exists_of_admitted hnew
      have hadmits := admits_of_admitEvidence hpassed
      exact absurd hid (hadmits.id_ne hscope hminted hmaterial hused)
    | _ => cases hnew

/-- A stored record that is SUPERSEDED after a step is closed. -/
theorem closed_of_stored (hnumbered : Numbered scope c) (hmints : Mints scope c op)
    {r : EvidenceRecord} (hr : c.evidence.byId.lookup id = some r)
    (hstate : ∀ r', (c.step op).evidence.byId.lookup id = some r' → r'.state = .superseded) :
    Closed scope (c.step op) id := by
  obtain ⟨hminted, hmaterial⟩ := hnumbered.minted id r hr
  exact ⟨r, hnumbered.indexed.keyed id r hr, hminted, hmaterial,
    (advances_step c hmints.running hnumbered.keyed).2 _ _ _ (hnumbered.used id r hr), hstate⟩

/-- Nothing is logged of a closed identity. -/
theorem not_appended_of_closed (hexact : c.Exact op) (h : Closed scope c id) :
    id ∉ (c.appended op).map SupersessionRecord.previousId := by
  intro hmem
  obtain ⟨e, he, rfl⟩ := List.mem_map.mp hmem
  have hsupersedes := (hexact e.previousId e.replacementId).mp ⟨e, he, rfl, rfl⟩
  obtain ⟨q, -, -, -, -, hstate⟩ := h
  cases op with
  | submitEvidence =>
    obtain ⟨outcome, -, -, before, after, hbefore, hopen, -⟩ := hsupersedes
    exact hopen (hstate before hbefore)
  | _ => cases he

/-- What is logged is closed afterwards. -/
theorem closed_of_appended (hruns : Runs scope c) (hmints : Mints scope c op)
    (hexact : c.Exact op) {e : SupersessionRecord} (he : e ∈ c.appended op) :
    Closed scope (c.step op) e.previousId := by
  have hsupersedes := (hexact e.previousId e.replacementId).mp ⟨e, he, rfl, rfl⟩
  cases op with
  | submitEvidence envelope payload tick touchTick wall =>
    obtain ⟨outcome, hok, -⟩ := hsupersedes
    have haccepted : c.submitEvidence envelope payload tick touchTick wall =
        (.ok outcome, c.step (.submitEvidence envelope payload tick touchTick wall)) := by
      rw [← hok]
      rfl
    obtain ⟨admission, c₂, hpassed, hrecord, -⟩ := submitEvidence_accepted haccepted
    have hadmitted := admitted_of_admitEvidence hpassed
    rw [hrecord] at hadmitted
    have hindexed := hruns.numbered.indexed
    obtain ⟨other, hother, hdisplaces, rfl⟩ := (mem_appended_iff hindexed hadmitted).mp he
    obtain ⟨hring, hlookup⟩ := (mem_recordsForFlow_iff hindexed).mp hother
    exact closed_of_stored hruns.numbered hmints hlookup fun r' hr' =>
      superseded_of_accepted hindexed haccepted hlookup hring hdisplaces hr'
  | _ => cases he

theorem sublist_entries {c₁ : Classifier} (record : EvidenceRecord) (tick : Tick)
    (hkeyed : ∀ j r, c₁.evidence.byId.lookup j = some r → r.id = j) (ids : List EvidenceId) :
    ((c₁.entries record tick ids).map SupersessionRecord.previousId).Sublist ids := by
  induction ids with
  | nil => exact .slnil
  | cons id rest ih =>
    rw [entries, List.filterMap_cons]
    cases hfound : c₁.displacedAt record id with
    | none => exact ih.cons id
    | some other =>
      have hid := hkeyed id other (Option.filter_eq_some_iff.mp hfound).1
      dsimp only
      rw [List.map_cons, List.map_cons]
      change (other.id :: _).Sublist _
      rw [hid]
      exact ih.cons_cons id

/-- One step logs an identity once. -/
theorem nodup_appended (hindexed : c.evidence.Indexed c.evidence.order) (op : Operation) :
    ((c.appended op).map SupersessionRecord.previousId).Nodup := by
  cases op with
  | submitEvidence envelope payload tick touchTick wall =>
    rw [appended]
    cases c.admitted envelope payload tick with
    | none => exact List.nodup_nil
    | some record =>
      have hindexed₁ := (refreshFlow_stores c payload.flowKey payload.flowGeneration
        envelope.session tick).2.1.indexed_order hindexed
      exact (nodup_recordsForFlow hindexed₁ record.flowId).sublist
        (sublist_entries record tick hindexed₁.keyed _)
  | _ => exact List.nodup_nil

theorem not_appendedAlong_of_closed {ops : List Operation} (hruns : Runs scope c)
    (halong : Along step (fun c op => Mints scope c op ∧ c.Exact op) c ops)
    (h : Closed scope c id) : id ∉ (c.appendedAlong ops).map SupersessionRecord.previousId := by
  induction ops generalizing c with
  | nil => exact List.not_mem_nil
  | cons op rest ih =>
    obtain ⟨⟨hmints, hexact⟩, hrest⟩ := halong
    rw [appendedAlong, List.map_append, List.mem_append, not_or]
    exact ⟨not_appended_of_closed hexact h,
      ih (hruns.step hmints) hrest (closed_step hruns.numbered hmints h)⟩

theorem nodup_appendedAlong {ops : List Operation} (hruns : Runs scope c)
    (halong : Along step (fun c op => Mints scope c op ∧ c.Exact op) c ops) :
    ((c.appendedAlong ops).map SupersessionRecord.previousId).Nodup := by
  induction ops generalizing c with
  | nil => exact List.nodup_nil
  | cons op rest ih =>
    obtain ⟨⟨hmints, hexact⟩, hrest⟩ := halong
    rw [appendedAlong, List.map_append]
    refine (nodup_appended hruns.numbered.indexed op).append (ih (hruns.step hmints) hrest) ?_
    intro id hid
    obtain ⟨e, he, rfl⟩ := List.mem_map.mp hid
    exact not_appendedAlong_of_closed (hruns.step hmints) hrest
      (closed_of_appended hruns hmints hexact he)

/-- A record that was withdrawn is closed. -/
theorem closed_of_withdrawn (hruns : Runs scope c) {envelope : SessionEnvelope} {reason : Bytes}
    {tick : Tick} (hmints : Mints scope c (.withdrawEvidence envelope id reason tick))
    (hok : (c.withdrawEvidence envelope id reason tick).1.isOk = true) :
    Closed scope (c.step (.withdrawEvidence envelope id reason tick)) id := by
  rcases withdrawEvidence_cases c envelope id reason tick with ⟨e, h⟩ | ⟨record, applied, hr, h⟩
  · rw [h] at hok
    cases hok
  · refine closed_of_stored hruns.numbered hmints hr fun r' hr' => ?_
    rw [step, h, evidence_fileRevocation] at hr'
    exact state_of_supersede hr'

/-- What a step adds to the log, and that nothing was lost of it but by a new policy or the
bound of the log. -/
def Logs (c : Classifier) (op : Operation) : Prop :=
  (c.step op).decisions.supersessions =
      (c.appended op).foldl (pushBounded c.decisions.maxSupersessions)
        c.decisions.supersessions ∨
    ∃ policy, op = .setPolicy policy ∧ (c.step op).decisions.supersessions = []

/-- The log is exact at every step of a run exactly if every submission displaces only what was
not SUPERSEDED and is taken by the store. Then no identity is logged as displaced twice, and
none after its withdrawal. -/
theorem supersession_log_exact_iff (hruns : Runs scope c) {ops : List Operation}
    (hmints : Along step (Mints scope) c ops) :
    (∀ before op after, ops = before ++ op :: after → Logs (run step c before) op) ∧
    ((∀ before op after, ops = before ++ op :: after → Exact (run step c before) op) ↔
      Along step DisplacesOnce c ops) ∧
    (Along step DisplacesOnce c ops →
      ((c.appendedAlong ops).map SupersessionRecord.previousId).Nodup ∧
      ∀ before after envelope id reason tick,
        ops = before ++ .withdrawEvidence envelope id reason tick :: after →
        ((run step c before).withdrawEvidence envelope id reason tick).1.isOk = true →
        id ∉ (((run step c before).step (.withdrawEvidence envelope id reason tick)).appendedAlong
          after).map SupersessionRecord.previousId) := by
  have hexact : Along step Exact c ops ↔ Along step DisplacesOnce c ops :=
    along_congr step (fun c op h => stocked_step h op) (fun c op h => exact_iff h op) hruns.stocked
  refine ⟨?_, (along_iff step).symm.trans hexact, fun honce => ?_⟩
  · rintro before op after rfl
    obtain ⟨hbefore, hop, -⟩ := hmints.of_append
    exact supersessions_step (hruns.run hbefore).stocked.1 hop.running
  · have halong : Along step (fun c op => Mints scope c op ∧ c.Exact op) c ops :=
      (along_iff step).mpr fun before op after heq =>
        ⟨(along_iff step).mp hmints before op after heq,
          (along_iff step).mp (hexact.mpr honce) before op after heq⟩
    refine ⟨nodup_appendedAlong hruns halong, ?_⟩
    rintro before after envelope id reason tick rfl hok
    have hbefore := hruns.run hmints.of_append.1
    obtain ⟨-, ⟨hwithdraws, -⟩, hafter⟩ := halong.of_append
    exact not_appendedAlong_of_closed (hbefore.step hwithdraws) hafter
      (closed_of_withdrawn hbefore hwithdraws hok)

end Runs

/-- The condition on a submission, by computation. -/
theorem displacesOnce_of_check {c : Classifier} (hstocked : Stocked c)
    {envelope : SessionEnvelope} {payload : EvidencePayload} {tick touchTick : Tick} {wall : UInt64}
    (h : ((c.admitted envelope payload tick).all fun record =>
      (c.evidence.recordsForFlow record.flowId).all fun other => !displaces record other ||
        (other.state != .superseded && (c.evidence.insert record).1.isOk)) = true) :
    c.DisplacesOnce (.submitEvidence envelope payload tick touchTick wall) := by
  rw [displacesOnce_iff]
  intro record hadmitted other hother hdisplaces
  rw [hadmitted, Option.all_some, List.all_eq_true] at h
  have hchecked := h other hother
  rw [hdisplaces, Bool.not_true, Bool.false_or, Bool.and_eq_true, bne_iff_ne] at hchecked
  refine ⟨hchecked.1, (insert_ok_iff hstocked.1 hstocked.2 record).mp ?_⟩
  generalize (c.evidence.insert record).1 = result at hchecked
  cases result with
  | error e => cases hchecked.2
  | ok u => rfl

def publish (generation : EvidenceGeneration) : Operation :=
  .submitEvidence { sampleEnvelope with maxSource := .declaredAuthenticated }
    (samplePayload .declaredAuthenticated generation) 3 3 0

def appear : Operation :=
  .registerPublisher (.make (text "agent")) 2 .declaredAuthenticated (.make (text "s1")) [] 2 0

def appeared : Classifier := (Classifier.new {}).step appear

def publishing : Classifier := appeared.step (publish 1)

def publishingScope : HashScope :=
  .ofLists (materials appeared (publish 1) ++ materials publishing (publish 2)) []
    (by decide +kernel) List.nodup_nil

/-- The second generation displaces the first, once. -/
theorem supersession_log_exact_sample :
    publishing.appended (publish 2) ≠ [] ∧ Exact publishing (publish 2) := by
  have hmints : Along step (Mints publishingScope) (.new {}) [appear, publish 1, publish 2] :=
    ⟨mints_of_none nofun rfl,
      mints_of_materials nofun fun _ hm => List.mem_append_left _ hm,
      mints_of_materials nofun fun _ hm => List.mem_append_right _ hm, trivial⟩
  have hnew : Stocked (.new {}) := stocked_run {} []
  have honce : Along step DisplacesOnce (.new {}) [appear, publish 1, publish 2] :=
    ⟨trivial, displacesOnce_of_check (stocked_step hnew _) (by decide +kernel),
      displacesOnce_of_check (stocked_step (stocked_step hnew _) _) (by decide +kernel), trivial⟩
  have hexact := (supersession_log_exact_iff (.new {}) hmints).2.1.mpr honce
  exact ⟨by decide +kernel, ((along_iff step).mpr hexact).2.2.1⟩

def withdrawFirst : List Operation :=
  publishing.evidence.order.map fun id =>
    .withdrawEvidence { sampleEnvelope with maxSource := .declaredAuthenticated } id [] 4

/-- The third generation logs the first once more, and a record is logged after it was
withdrawn. -/
theorem superseded_logged_again :
    (run step publishing [publish 2, publish 3]).decisions.supersessions.map
        (fun e => (e.previousGeneration, e.replacementGeneration)) = [(1, 2), (1, 3), (2, 3)] ∧
    ¬ ((run step publishing [publish 2, publish 3]).decisions.supersessions.map
        SupersessionRecord.previousId).Nodup ∧
    (run step publishing withdrawFirst).evidence.byId.values.map EvidenceRecord.state =
        [.superseded] ∧
    (run step publishing (withdrawFirst ++ [publish 2])).decisions.supersessions.map
        (fun e => (e.previousGeneration, e.replacementGeneration)) = [(1, 2)] := by
  decide +kernel

end FlowClassifier.Classifier
