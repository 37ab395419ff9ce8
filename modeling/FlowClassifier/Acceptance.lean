import FlowClassifier.CurrentEvidence
import FlowClassifier.Displacement

/-!
One record for every accepted submission. The identity of a record is minted from the
incarnation, the generation and the topic of the submission; the replay fence lets a
generation through once, and the material of an identity can be read from both ends, so the
identity is new whatever the topic contains. The sequence number is new because the counter
only grows, over restarts too.
-/
namespace FlowClassifier

open Lib Foundation Evidence Store PublisherRegistry

variable {record : EvidenceRecord}
variable {op : Operation} {c : Classifier} {scope : HashScope}

namespace Store.EvidenceStore

/-- A store that does not know the identity keeps the record when it accepts it. -/
theorem lookup_of_insert {s u : EvidenceStore}
    (hnew : s.byId.lookup record.id = none) (h : s.insert record = (.ok (), u)) :
    u.byId.lookup record.id = some record := by
  unfold insert at h
  rw [hnew] at h
  dsimp only at h
  unfold Status.failure at h
  split_ifs at h
  all_goals cases h
  show (s.makeRoom.byId.insert record.id record).lookup record.id = some record
  rw [FiniteMap.lookup_insert_eq, if_pos rfl]

end Store.EvidenceStore

namespace Classifier

/-- A submission that was admitted: the record carries an identity of its own and the next
sequence number, its generation was free, and no record has been added yet. -/
structure Admits (c c₂ : Classifier) (record : EvidenceRecord) : Prop where
  minted : record.id = mintEvidenceId (materialOf record)
  unused : ¬ used c.publishers record
  reviewed : c.evidence.Reviewed c₂.evidence
  next : c.sequence.next = .ok c₂.sequence
  acceptedSeq : record.acceptedSeq = c₂.sequence.value

section Submission

variable {c₂ : Classifier} {envelope : SessionEnvelope} {payload : EvidencePayload}
  {tick touchTick : Tick} {wall : UInt64} {outcome : EvidenceSubmissionOutcome}

theorem admits_of_admitEvidence (h : c.admitEvidence envelope payload tick = (.ok outcome, c₂)) :
    Admits c c₂ outcome.record := by
  obtain ⟨effective, flow, c₁, publishers, sequence, superseded, hflow, hgeneration, hsequence,
    hrecord, hsupersede⟩ := admitEvidence_ok h
  have hauthority := sameAuthority_of_supersedeOlder hsupersede
  refine ⟨?_, ?_, reviewed_before_insert hflow hsupersede, ?_, ?_⟩
  · rw [hrecord]
    rfl
  · rw [hrecord]
    exact (observe_marks hgeneration).1
  · rw [hsequence, hauthority.sequence]
  · rw [hrecord, hauthority.sequence]
    rfl

/-- An accepted submission was admitted and the store took the record. -/
theorem submitEvidence_ok {c' : Classifier}
    (h : c.submitEvidence envelope payload tick touchTick wall = (.ok outcome, c')) :
    ∃ c₂ evidence, c.admitted envelope payload tick = some outcome.record ∧
      Admits c c₂ outcome.record ∧ c₂.evidence.insert outcome.record = (.ok (), evidence) ∧
      c'.evidence = evidence ∧ c'.sequence = c₂.sequence := by
  unfold submitEvidence at h
  rcases hresult : c.admitEvidence envelope payload tick with ⟨_ | admitted, c₂⟩
  · rw [hresult] at h
    cases h
  have hadmits := admits_of_admitEvidence hresult
  rw [hresult] at h
  dsimp only at h
  rcases hinsert : c₂.evidence.insert admitted.record with ⟨_ | _, evidence⟩
  · rw [hinsert] at h
    cases h
  rw [hinsert] at h
  cases h
  refine ⟨c₂, evidence, ?_, hadmits, hinsert, rfl, rfl⟩
  rw [Classifier.admitted, hresult]
  rfl

end Submission

/-- The sequence counter is never taken back. -/
theorem sequence_step (c : Classifier) (hop : op.Running) :
    c.sequence.value ≤ (c.step op).sequence.value := by
  have hfiled : ∀ {d : Classifier}, d.sequence = c.sequence →
      ∀ envelope flow generation id tick reason, c.sequence.value ≤
        (d.fileRevocation envelope flow generation id tick reason).2.sequence.value := by
    intro d hd envelope flow generation id tick reason
    rw [← hd]
    unfold fileRevocation
    cases hnext : d.sequence.next with
    | error e => exact UInt64.le_refl _
    | ok sequence => exact le_of_lt (Counter.value_lt_of_next hnext)
  by_cases huses : UsesSequence op
  · cases op with
    | advanceEpoch boot =>
      rw [step, advanceEpoch]
      cases hnext : c.sequence.next with
      | error e => exact UInt64.le_refl _
      | ok sequence =>
        have hlt := Counter.value_lt_of_next hnext
        cases (Counter.mk c.epoch).next <;> exact le_of_lt hlt
    | submitEvidence envelope payload tick touchTick wall =>
      have hsub := submission c envelope payload tick touchTick wall
      rw [step]
      generalize c.submitEvidence envelope payload tick touchTick wall = out at hsub
      cases hsub with
      | inadmissible => exact UInt64.le_refl _
      | flowRefused _ hflow | generationRefused _ hflow | exhausted _ hflow =>
        exact le_of_eq (congrArg Counter.value (sameAuthority_of_refreshFlow hflow).sequence.symm)
      | storeRefused _ hflow _ hsequence _ hsupersede
      | accepted _ hflow _ hsequence _ hsupersede =>
        have hsame := (sameAuthority_of_supersedeOlder hsupersede).sequence
        exact (le_of_lt (Counter.value_lt_of_next hsequence)).trans
          (le_of_eq (congrArg Counter.value hsame.symm))
    | withdrawEvidence envelope id reason tick =>
      rcases withdrawEvidence_cases c envelope id reason tick with ⟨e, h⟩ | ⟨_, _, -, h⟩
      · rw [step, h]
      · rw [step, h]
        exact hfiled (by rfl) _ _ _ _ _ _
    | revokeGeneration envelope flow generation reason tick =>
      rcases revokeGeneration_cases c envelope flow generation reason tick with
        ⟨e, h⟩ | ⟨e, h⟩ | ⟨applied, h⟩
      · rw [step, h]
      · rw [step, h]
      · rw [step, h]
        exact hfiled (by rfl) _ _ _ _ _ _
    | restore image boot tick => exact absurd rfl (hop image boot tick)
    | _ => exact huses.elim
  · rw [(framed_step c op).sequence huses]

structure Numbered (scope : HashScope) (c : Classifier) : Prop where
  keyed : c.publishers.WellKeyed
  indexed : c.evidence.Indexed c.evidence.order
  minted : ∀ id r, c.evidence.byId.lookup id = some r →
    r.id = mintEvidenceId (materialOf r) ∧ materialOf r ∈ scope.messages
  used : ∀ id r, c.evidence.byId.lookup id = some r → used c.publishers r
  bounded : ∀ id r, c.evidence.byId.lookup id = some r → r.acceptedSeq ≤ c.sequence.value
  distinct : ∀ id r id' r', c.evidence.byId.lookup id = some r →
    c.evidence.byId.lookup id' = some r' → r.acceptedSeq = r'.acceptedSeq → id = id'

def newcomer (c : Classifier) : Operation → Option EvidenceRecord
  | .submitEvidence envelope payload tick _ _ => c.admitted envelope payload tick
  | _ => none

/-- A step of a running classifier. The material that it mints an identity from is in the
scope. -/
structure Mints (scope : HashScope) (c : Classifier) (op : Operation) : Prop where
  running : ∀ image boot tick, op ≠ .restore image boot tick
  material : ∀ r, newcomer c op = some r → materialOf r ∈ scope.messages

section Invariant

variable {c₂ : Classifier}

/-- A record of a used generation has another identity than one that is admitted. -/
theorem Admits.id_ne (hadmits : Admits c c₂ record)
    (hmaterial : materialOf record ∈ scope.messages) {r : EvidenceRecord}
    (hminted : r.id = mintEvidenceId (materialOf r)) (hscope : materialOf r ∈ scope.messages)
    (hused : used c.publishers r) : r.id ≠ record.id := by
  intro hid
  rw [hminted, hadmits.minted] at hid
  obtain ⟨hpublisher, hboot, hgeneration⟩ :=
    evidenceMaterial_injective (mintEvidenceId_injOn hscope hmaterial hid)
  unfold Classifier.used at hused
  rw [hpublisher, hboot, hgeneration] at hused
  exact hadmits.unused hused

/-- An admitted record has an identity that the store does not know. -/
theorem Numbered.fresh (h : Numbered scope c)
    (hadmits : Admits c c₂ record) (hmaterial : materialOf record ∈ scope.messages) :
    c.evidence.byId.lookup record.id = none := by
  cases hlookup : c.evidence.byId.lookup record.id with
  | none => rfl
  | some r =>
    obtain ⟨hminted, hscope⟩ := h.minted _ r hlookup
    exact absurd (h.indexed.keyed _ r hlookup)
      (hadmits.id_ne hmaterial hminted hscope (h.used _ r hlookup))

/-- An identity that is new in the state before is new where the record is inserted. -/
theorem Numbered.unknown (h : Numbered scope c)
    (hadmits : Admits c c₂ record) (hmaterial : materialOf record ∈ scope.messages) :
    c.evidence.byId.lookup record.id = none ∧ c₂.evidence.byId.lookup record.id = none := by
  have hnone := h.fresh hadmits hmaterial
  have hsome := hadmits.reviewed.isSome record.id
  rw [hnone] at hsome
  exact ⟨hnone, Option.isSome_eq_false_iff.mp hsome |> Option.isNone_iff_eq_none.mp⟩

structure Entered (scope : HashScope) (c c' : Classifier) (r : EvidenceRecord) : Prop where
  minted : r.id = mintEvidenceId (materialOf r)
  material : materialOf r ∈ scope.messages
  used : used c'.publishers r
  later : c.sequence.value < r.acceptedSeq
  last : r.acceptedSeq = c'.sequence.value

theorem entered_of_submitEvidence (h : Numbered scope c) {envelope : SessionEnvelope}
    {payload : EvidencePayload} {tick touchTick : Tick} {wall : UInt64}
    {outcome : EvidenceSubmissionOutcome} {c' : Classifier}
    (hok : c.submitEvidence envelope payload tick touchTick wall = (.ok outcome, c'))
    (hmints : Mints scope c (.submitEvidence envelope payload tick touchTick wall)) :
    Entered scope c c' outcome.record := by
  have hsub := submission c envelope payload tick touchTick wall
  rw [hok] at hsub
  obtain ⟨c₂, evidence, hadmitted, hadmits, -, -, hsequence⟩ := submitEvidence_ok hok
  refine ⟨hadmits.minted, hmints.material _ hadmitted, (hsub.generation rfl h.keyed).2, ?_, ?_⟩
  · rw [hadmits.acceptedSeq]
    exact Counter.value_lt_of_next hadmits.next
  · rw [hadmits.acceptedSeq, hsequence]

/-- A stored record is an earlier one or has just entered. -/
theorem stored_or_entered (h : Numbered scope c) (hmints : Mints scope c op) {id : EvidenceId}
    {r' : EvidenceRecord} (hr' : (c.step op).evidence.byId.lookup id = some r') :
    (∃ r, c.evidence.byId.lookup id = some r ∧ EvidenceStore.Weakens r r') ∨
      newcomer c op = some r' ∧ id = r'.id ∧ Entered scope c (c.step op) r' := by
  rcases (records_step h.indexed hmints.running).2 id r' hr' with
    hold | ⟨_, _, _, _, _, outcome, rfl, hok, hadmitted, rfl, hid⟩
  · exact Or.inl hold
  · exact Or.inr ⟨hadmitted, hid, entered_of_submitEvidence h hok hmints⟩

/-- The counter only grows, so the number of a new record is new. -/
theorem numbered_step (h : Numbered scope c) (hmints : Mints scope c op) :
    Numbered scope (c.step op) := by
  have hop := hmints.running
  have hgrows := sequence_step c hop
  refine ⟨wellKeyed_step h.keyed op, (records_step h.indexed hop).1, ?_, ?_, ?_, ?_⟩
  · intro id r' hr'
    rcases stored_or_entered h hmints hr' with ⟨r, hr, hweak⟩ | ⟨-, -, hentered⟩
    · rw [hweak.submission]
      exact h.minted id r hr
    · exact ⟨hentered.minted, hentered.material⟩
  · intro id r' hr'
    rcases stored_or_entered h hmints hr' with ⟨r, hr, hweak⟩ | ⟨-, -, hentered⟩
    · rw [hweak.submission]
      exact (advances_step c hop h.keyed).2 _ _ _ (h.used id r hr)
    · exact hentered.used
  · intro id r' hr'
    rcases stored_or_entered h hmints hr' with ⟨r, hr, hweak⟩ | ⟨-, -, hentered⟩
    · rw [hweak.submission]
      exact (h.bounded id r hr).trans hgrows
    · exact le_of_eq hentered.last
  · -- a record that has just entered has a larger number than the stored ones
    have hold : ∀ {id r r' q}, c.evidence.byId.lookup id = some q →
        EvidenceStore.Weakens q r → Entered scope c (c.step op) r' →
        r.acceptedSeq ≠ r'.acceptedSeq := by
      intro id r r' q hq hweak hentered hsame
      have hle := h.bounded id q hq
      rw [hweak.submission] at hsame
      change q.acceptedSeq = r'.acceptedSeq at hsame
      rw [hsame] at hle
      exact absurd hentered.later (not_lt.mpr hle)
    intro id r id' r' hr hr' hsame
    rcases stored_or_entered h hmints hr, stored_or_entered h hmints hr' with
      ⟨⟨q, hq, hweak⟩ | ⟨hnew, hid, hentered⟩, ⟨q', hq', hweak'⟩ | ⟨hnew', hid', hentered'⟩⟩
    · rw [hweak.submission, hweak'.submission] at hsame
      exact h.distinct id q id' q' hq hq' hsame
    · exact absurd hsame (hold hq hweak hentered')
    · exact absurd hsame.symm (hold hq' hweak' hentered)
    · rw [hnew] at hnew'
      cases hnew'
      rw [hid, hid']

end Invariant

theorem numbered_new (scope : HashScope) (options : ClassifierOptions) :
    Numbered scope (.new options) := by
  refine ⟨PublisherRegistry.wellKeyed_new _ _, indexed_new options, ?_, ?_, ?_, ?_⟩
  all_goals
    intro id r
    intros
    contradiction

theorem le_observe (s : Counter) (value : UInt64) : value ≤ (s.observe value).value := by
  unfold Counter.observe
  split_ifs with hlarger
  · exact UInt64.le_refl _
  · exact not_lt.mp hlarger

/-- After a restart, whether it succeeded or stopped half way, the counter has reached the
number of the image, and what is in the store comes from there with its generation used. -/
theorem records_of_restart (hkeyed : c.publishers.WellKeyed)
    (hindexed : c.evidence.Indexed c.evidence.order) {options : ClassifierOptions}
    {boot : CoordinatorBootId} {tick : Tick} {out : Result Unit × Classifier}
    (hrestored : Restored c.durableState (.new options) boot tick out) :
    c.sequence.value ≤ out.2.sequence.value ∧ ∀ id r', out.2.evidence.byId.lookup id = some r' →
        ∃ r, c.evidence.byId.lookup id = some r ∧ EvidenceStore.Weakens r r' ∧
          (used c.publishers r → used out.2.publishers r) := by
  have hsequence := le_observe (Classifier.new options).sequence c.sequence.value
  -- a loop before that of the evidence has failed and the store is as it was built
  have hempty : ∀ {d : Classifier} {id r'}, d.evidence = (Classifier.new options).evidence →
      d.evidence.byId.lookup id = some r' →
        ∃ r, c.evidence.byId.lookup id = some r ∧ EvidenceStore.Weakens r r' ∧
          (used c.publishers r → used d.publishers r) := by
    intro d id r' hsame hr'
    rw [hsame] at hr'
    cases hr'
  have hloop : ∀ {id r'}, (restoredEvidence c.durableState (.new options)).2.byId.lookup id =
      some r' → ∃ r, c.evidence.byId.lookup id = some r ∧ EvidenceStore.Weakens r r' := by
    intro id r' hr'
    obtain ⟨r, hr, rfl⟩ := (restoreEvidence_loop hindexed (indexed_new options) fun _ => rfl).2 id
      r' hr'
    exact ⟨r, hr, EvidenceStore.weakens_reloaded r⟩
  have hmarked : (restoredPublishers c.durableState (.new options) tick).1 = .ok () →
      ∀ {r}, used c.publishers r →
        used (restoredPublishers c.durableState (.new options) tick).2 r := fun hok r hused =>
    marked_restoreRecords hkeyed hok hused
  cases hrestored with
  | publishers | workloads | contracts | flows =>
    exact ⟨hsequence, fun id r' hr' => hempty rfl hr'⟩
  | evidence hpublishers =>
    refine ⟨hsequence, fun id r' hr' => ?_⟩
    obtain ⟨r, hr, hweak⟩ := hloop hr'
    exact ⟨r, hr, hweak, hmarked hpublishers⟩
  | done hpublishers =>
    refine ⟨hsequence, fun id r' hr' => ?_⟩
    obtain ⟨r, hr, hweak⟩ := hloop hr'
    refine ⟨r, hr, hweak, fun hused => ?_⟩
    have hkeyed' := wellKeyed_restoreRecords
      (consistent_new ⟨∅, ∅, by simp, by simp⟩ options).publishers c.publishers.snapshotRecords tick
    exact (advances_clearSessions _ hkeyed').2 _ _ _ (hmarked hpublishers hused)

theorem numbered_restart (h : Numbered scope c)
    (options : ClassifierOptions) (boot : CoordinatorBootId) (tick : Tick) :
    Numbered scope (restore c.durableState (.new options) boot tick).2 := by
  obtain ⟨hsequence, hrecords⟩ := records_of_restart h.keyed h.indexed
    (restored c.durableState (.new options) boot tick)
  refine ⟨wellKeyed_step (numbered_new scope options).keyed (.restore c.durableState boot tick),
    indexed_restore (indexed_new options) _ boot tick, ?_, ?_, ?_, ?_⟩
  · intro id r' hr'
    obtain ⟨r, hr, hweak, -⟩ := hrecords id r' hr'
    rw [hweak.submission]
    exact h.minted id r hr
  · intro id r' hr'
    obtain ⟨r, hr, hweak, hused⟩ := hrecords id r' hr'
    rw [hweak.submission]
    exact hused (h.used id r hr)
  · intro id r' hr'
    obtain ⟨r, hr, hweak, -⟩ := hrecords id r' hr'
    rw [hweak.submission]
    exact (h.bounded id r hr).trans hsequence
  · intro id r₁ id' r₂ h₁ h₂ hsame
    obtain ⟨r, hr, hweak, -⟩ := hrecords id r₁ h₁
    obtain ⟨r', hr', hweak', -⟩ := hrecords id' r₂ h₂
    rw [hweak.submission, hweak'.submission] at hsame
    exact h.distinct id r id' r' hr hr' hsame

/-- The states of classifiers that were built new, have run, and were restarted: the image
of one is restored into a new one, whether or not all of it is taken. -/
inductive Runs (scope : HashScope) : Classifier → Prop
  | new (options : ClassifierOptions) : Runs scope (.new options)
  | step {c : Classifier} {op : Operation} (h : Runs scope c) (hmints : Mints scope c op) :
    Runs scope (c.step op)
  | restart {c : Classifier} (h : Runs scope c) (options : ClassifierOptions)
    (boot : CoordinatorBootId) (tick : Tick) :
    Runs scope (restore c.durableState (.new options) boot tick).2

theorem Runs.numbered (h : Runs scope c) : Numbered scope c := by
  induction h with
  | new options => exact numbered_new scope options
  | step _ hmints ih => exact numbered_step ih hmints
  | restart _ options boot tick ih => exact numbered_restart ih options boot tick

/-- What an accepted submission does to the store. -/
structure CreatesOne (c c' : Classifier) (record : EvidenceRecord) : Prop where
  new : c.evidence.byId.lookup record.id = none
  stored : c'.evidence.byId.lookup record.id = some record
  only : ∀ id r, c'.evidence.byId.lookup id = some r →
    id = record.id ∨ ∃ q, c.evidence.byId.lookup id = some q
  later : ∀ id r, c.evidence.byId.lookup id = some r → r.acceptedSeq < record.acceptedSeq

/-- In every state, the sequence numbers of the stored records are distinct and at most the
counter; a record that is handed to the store has an identity that is not there; and a
submission that is accepted creates the one record it returns. -/
theorem accepted_submission_creates_one {scope : HashScope} {c : Classifier} (h : Runs scope c) :
    (∀ id r, c.evidence.byId.lookup id = some r → r.acceptedSeq ≤ c.sequence.value) ∧
    (∀ id r id' r', c.evidence.byId.lookup id = some r → c.evidence.byId.lookup id' = some r' →
      r.acceptedSeq = r'.acceptedSeq → id = id') ∧
    ∀ envelope payload tick touchTick wall,
      Mints scope c (.submitEvidence envelope payload tick touchTick wall) →
      (∀ outcome c₂, c.admitEvidence envelope payload tick = (.ok outcome, c₂) →
        c₂.evidence.byId.lookup outcome.record.id = none) ∧
      ∀ outcome c', c.submitEvidence envelope payload tick touchTick wall = (.ok outcome, c') →
        CreatesOne c c' outcome.record := by
  have hnumbered := h.numbered
  refine ⟨hnumbered.bounded, hnumbered.distinct, ?_⟩
  intro envelope payload tick touchTick wall hmints
  have hfresh : ∀ {c₂ record}, c.admitted envelope payload tick = some record →
      Admits c c₂ record → c.evidence.byId.lookup record.id = none ∧
        c₂.evidence.byId.lookup record.id = none :=
    fun hadmitted hadmits => hnumbered.unknown hadmits (hmints.material _ hadmitted)
  refine ⟨fun outcome c₂ hok => ?_, fun outcome c' hok => ?_⟩
  · have hadmitted : c.admitted envelope payload tick = some outcome.record := by
      rw [Classifier.admitted, hok]
      rfl
    exact (hfresh hadmitted (admits_of_admitEvidence hok)).2
  · obtain ⟨c₂, evidence, hadmitted, hadmits, hinsert, rfl, -⟩ := submitEvidence_ok hok
    obtain ⟨hnone, hnone'⟩ := hfresh hadmitted hadmits
    refine ⟨hnone, EvidenceStore.lookup_of_insert hnone' hinsert, fun id r hr => ?_,
      fun id r hr => ?_⟩
    · rcases (hadmits.reviewed.records_of_insert hnumbered.indexed hinsert).2 id r hr with
        ⟨q, hq, -⟩ | ⟨-, hid, -⟩
      · exact Or.inr ⟨q, hq⟩
      · exact Or.inl hid
    · rw [hadmits.acceptedSeq]
      exact lt_of_le_of_lt (hnumbered.bounded id r hr) (Counter.value_lt_of_next hadmits.next)

theorem Runs.run {ops : List Operation} (h : Runs scope c)
    (halong : Along Classifier.step (Mints scope) c ops) :
    Runs scope (Lib.run Classifier.step c ops) :=
  run_invariant Classifier.step (fun _ _ hmints h => h.step hmints) h halong

theorem mints_of_none (hop : op.Running) (hnone : newcomer c op = none) : Mints scope c op := by
  refine ⟨hop, fun r hr => ?_⟩
  rw [hnone] at hr
  cases hr

def materials (c : Classifier) (op : Operation) : List Bytes :=
  (newcomer c op).toList.map materialOf

theorem mints_of_materials (hop : op.Running)
    (h : ∀ m ∈ materials c op, m ∈ scope.messages) : Mints scope c op := by
  refine ⟨hop, fun r hr => h _ ?_⟩
  rw [materials, hr]
  exact List.mem_singleton_self _

def servingAgain : Classifier :=
  run step (restore (run step (.new {}) citedRun).durableState (.new {}) 1 1).2 (resumed.take 2)

def acceptanceScope : HashScope :=
  .ofLists (materials (run step (.new {}) (citedRun.take 4)) citedRun[4] ++
    materials servingAgain (cite (text "c-a") 2)) [] (by decide +kernel) List.nodup_nil

theorem runs_servingAgain : Runs acceptanceScope servingAgain := by
  have hfirst : Runs acceptanceScope (run step (.new {}) citedRun) := by
    refine (Runs.new {}).run ⟨mints_of_none nofun rfl, mints_of_none nofun rfl,
      mints_of_none nofun rfl, mints_of_none nofun rfl, mints_of_materials nofun ?_, trivial⟩
    exact fun m hm => List.mem_append_left _ hm
  exact (hfirst.restart {} 1 1).run ⟨mints_of_none nofun rfl, mints_of_none nofun rfl, trivial⟩

theorem mints_servingAgain : Mints acceptanceScope servingAgain (cite (text "c-a") 2) :=
  mints_of_materials nofun fun _ hm => List.mem_append_right _ hm

theorem servingAgain_accepts :
    (servingAgain.submitEvidence resumedEnvelope (citingPayload (text "c-a") 2) 3 3 0).1.isOk =
      true := by
  decide +kernel

theorem accepted_submission_creates_one_restarted :
    servingAgain.evidence.byId.size = 1 ∧ ∃ outcome c',
      servingAgain.submitEvidence resumedEnvelope (citingPayload (text "c-a") 2) 3 3 0 =
        (.ok outcome, c') ∧ CreatesOne servingAgain c' outcome.record := by
  obtain ⟨outcome, c', hsubmitted⟩ := exists_ok_pair servingAgain_accepts
  exact ⟨by decide +kernel, outcome, _, hsubmitted,
    ((accepted_submission_creates_one runs_servingAgain).2.2 resumedEnvelope
      (citingPayload (text "c-a") 2) 3 3 0 mints_servingAgain).2 outcome _ hsubmitted⟩

end Classifier
end FlowClassifier
