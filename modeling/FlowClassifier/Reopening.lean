import FlowClassifier.Images

/-!
Restoring the image of one classifier into another one that holds nothing yet. The image of
a running classifier lists every key once, so whether it is taken depends on the numbers of
its records alone, and the numbers that count are those the new classifier was built with.
What is taken is held as it was, evidence in a weaker state; the logs of revocations and
supersessions keep their latest entries.
-/
namespace FlowClassifier

open Lib Foundation Evidence Flows Policies Workloads Classifications Store EvidenceStore
  WorkloadRegistry FiniteMap

namespace Store

theorem erasesEmpty_iff {α : Type} {bound : UInt32} {xs : List α} :
    erasesEmpty bound xs = true ↔ xs = [] ∧ bound = 0 := by
  rw [erasesEmpty, Bool.and_eq_true, List.isEmpty_iff, beq_iff_eq]

/-- Only the first entry can meet an empty log that has no room for it. -/
theorem erasesEmpty_pushBounded {α : Type} (bound : UInt32) (xs : List α) (x : α) :
    erasesEmpty bound (pushBounded bound xs x) = erasesEmpty bound xs := by
  unfold pushBounded
  split_ifs with hempty
  · rfl
  all_goals
    rw [Bool.not_eq_true] at hempty
    rw [hempty, erasesEmpty, List.isEmpty_eq_false_iff.mpr (by simp), Bool.false_and]

/-- A log with room for one more entry takes it. -/
theorem pushBounded_of_lt {α : Type} {bound : UInt32} {xs : List α} (x : α)
    (h : xs.length < bound.toNat) : pushBounded bound xs x = xs ++ [x] := by
  have hdefined : ¬ erasesEmpty bound xs = true := by
    rw [erasesEmpty_iff]
    rintro ⟨-, rfl⟩
    exact absurd h (Nat.not_lt_zero _)
  rw [pushBounded, if_neg hdefined, if_neg (by omega)]

theorem length_pushBounded_le {α : Type} (bound : UInt32) {xs : List α} (x : α)
    (h : xs.length ≤ bound.toNat) : (pushBounded bound xs x).length ≤ bound.toNat := by
  unfold pushBounded
  split_ifs with hempty hfull
  · exact h
  · have hpositive : 0 < xs.length := by
      rw [List.length_pos_iff]
      rintro rfl
      have hzero : bound = 0 := UInt32.toNat_inj.mp (Nat.le_zero.mp hfull)
      exact hempty (erasesEmpty_iff.mpr ⟨rfl, hzero⟩)
    rw [List.length_append, List.length_tail, List.length_singleton]
    omega
  · rw [List.length_append, List.length_singleton]
    omega

/-- A log keeps everything when it has never had to make room. -/
theorem foldl_pushBounded_eq_iff {α : Type} (bound : UInt32) (xs : List α) :
    xs.foldl (pushBounded bound) [] = xs ↔ xs.length ≤ bound.toNat := by
  constructor
  · intro hsame
    rw [← hsame]
    refine List.foldlRecOn (motive := fun ys : List α => ys.length ≤ bound.toNat) _ _ ?_ ?_
    · exact Nat.zero_le _
    · exact fun ys hys x _ => length_pushBounded_le bound x hys
  · induction xs using List.reverseRecOn with
    | nil => exact fun _ => rfl
    | append_singleton xs x ih =>
      intro hle
      rw [List.length_append, List.length_singleton] at hle
      rw [List.foldl_append, ih (by omega), List.foldl_cons, List.foldl_nil]
      exact pushBounded_of_lt x (by omega)

end Store

namespace Classifier

structure Distinct (image : DurableState) : Prop where
  publishers : (image.publishers.map PublisherRecord.id).Nodup
  workloads : (image.workloads.map WorkloadRecord.id).Nodup
  contracts : (image.contracts.map WorkloadContract.id).Nodup
  flows : (image.flows.map FlowRecord.key).Nodup
  evidence : (image.evidence.map EvidenceRecord.id).Nodup
  digests : ∀ k ∈ image.contracts, k.definitionDigest = computeContractDigest k

theorem Filed.distinct {c : Classifier} (h : Filed c) : Distinct c.durableState where
  publishers := List.pairwise_map.mpr
    (pairwise_sorted_values _ h.publishers.record_id _)
  workloads := List.pairwise_map.mpr
    (pairwise_sorted_values _ h.workloads.workload_id _)
  contracts := List.pairwise_map.mpr
    (pairwise_sorted_values _ h.workloads.contract_id _)
  flows := List.pairwise_map.mpr (pairwise_sorted_values _ h.flows _)
  evidence := List.pairwise_map.mpr (pairwise_sorted_values _ h.stocked.1.keyed _)
  digests := fun k hk => (h.recomputed.contracts k hk).symm

structure Blank (limits : ResourceLimits) (c : Classifier) : Prop where
  records : c.publishers.records = ∅
  maxPublishers : c.publishers.maxPublishers = limits.maxPublishers
  workloads : c.workloads.workloads = ∅
  contracts : c.workloads.contracts = ∅
  maxWorkloads : c.workloads.maxWorkloads = limits.maxWorkloads
  maxContracts : c.workloads.maxContracts = limits.maxContracts
  flows : c.flows.current = ∅
  maxFlows : c.flows.maxFlows = limits.maxFlows
  evidence : c.evidence.byId = ∅
  maxRecords : c.evidence.maxRecords = limits.maxEvidenceRecords
  revocations : c.decisions.revocations = []
  supersessions : c.decisions.supersessions = []
  maxRevocations : c.decisions.maxRevocations = limits.maxRevocations
  maxSupersessions : c.decisions.maxSupersessions = limits.maxSupersessions
  defined : c.decisions.erasedEmpty = false

theorem blank_new (options : ClassifierOptions) :
    Blank options.policy.limits.effective (.new options) :=
  ⟨rfl, rfl, rfl, rfl, rfl, rfl, rfl, rfl, rfl, rfl, rfl, rfl, rfl, rfl, rfl⟩

/-- Installing a policy does not resize anything. -/
theorem Blank.setPolicy {limits : ResourceLimits} {c : Classifier} (h : Blank limits c)
    (policy : ClassifierPolicy) : Blank limits (c.setPolicy policy).2 := by
  unfold Classifier.setPolicy
  split
  · exact h
  · split_ifs
    · exact h
    · split
      · exact h
      · exact ⟨h.records, h.maxPublishers, h.workloads, h.contracts, h.maxWorkloads,
          h.maxContracts, h.flows, h.maxFlows, h.evidence, h.maxRecords, rfl, rfl,
          h.maxRevocations, h.maxSupersessions, h.defined⟩

structure RecordsFit (limits : ResourceLimits) (image : DurableState) : Prop where
  publishers : image.publishers.length ≤ limits.maxPublishers.toNat
  workloads : image.workloads.length ≤ limits.maxWorkloads.toNat
  contracts : image.contracts.length ≤ limits.maxContracts.toNat
  flows : image.flows.length ≤ limits.maxFlows.toNat
  evidence : image.evidence.length ≤ limits.maxEvidenceRecords.toNat

/-- There is room for everything. -/
structure RoomFor (limits : ResourceLimits) (image : DurableState) : Prop
    extends RecordsFit limits image where
  revocations : image.revocations.length ≤ limits.maxRevocations.toNat
  supersessions : image.supersessions.length ≤ limits.maxSupersessions.toNat

section Blank

variable {limits : ResourceLimits} {image : DurableState} {c : Classifier}

/-- No key is listed twice, so in an empty store room is a matter of counting. -/
theorem Blank.imageFits_iff (h : Blank limits c) (hd : Distinct image) :
    ImageFits image c ↔ RecordsFit limits image := by
  have hpublishers : takenPublishers image c = image.publishers ↔
      image.publishers.length ≤ limits.maxPublishers.toNat := by
    unfold takenPublishers
    rw [takeRoom_eq_self_iff hd.publishers (by rw [h.records]; exact fun _ _ => rfl), h.records,
      h.maxPublishers]
    exact and_iff_right fun _ _ => rfl
  have hworkloads : takenWorkloads image c = image.workloads ↔
      image.workloads.length ≤ limits.maxWorkloads.toNat := by
    unfold takenWorkloads
    rw [takeRoom_eq_self_iff hd.workloads (by rw [h.workloads]; exact fun _ _ => rfl),
      h.workloads, h.maxWorkloads]
    exact and_iff_right fun _ _ => rfl
  have hcontracts : takenContracts image c = image.contracts ↔
      image.contracts.length ≤ limits.maxContracts.toNat := by
    unfold takenContracts
    rw [takeRoom_eq_self_iff hd.contracts (by rw [h.contracts]; exact fun _ _ => rfl),
      h.contracts, h.maxContracts]
    refine and_iff_right fun k hk => ?_
    rw [digestFits, ← hd.digests k hk, Bool.or_eq_true, beq_iff_eq, beq_iff_eq]
    exact Or.inr rfl
  have hflows : takenFlows image c = image.flows ↔ image.flows.length ≤ limits.maxFlows.toNat := by
    unfold takenFlows
    rw [takeRoom_eq_self_iff hd.flows (by rw [h.flows]; exact fun _ _ => rfl), h.flows,
      h.maxFlows]
    exact and_iff_right fun _ _ => rfl
  have hevidence : c.evidence.FitsEvidence image.evidence ↔
      image.evidence.length ≤ limits.maxEvidenceRecords.toNat := by
    constructor
    · rintro ⟨-, -, hroom | hnil⟩
      · rw [h.evidence, h.maxRecords, size_empty, Nat.zero_add] at hroom
        exact hroom
      · rw [hnil]
        exact Nat.zero_le _
    · intro hroom
      refine ⟨hd.evidence, fun r _ => by rw [h.evidence]; rfl, Or.inl ?_⟩
      rw [h.evidence, h.maxRecords, size_empty, Nat.zero_add]
      exact hroom
  constructor
  · rintro ⟨h₁, h₂, h₃, h₄, h₅⟩
    exact ⟨hpublishers.mp h₁, hworkloads.mp h₂, hcontracts.mp h₃, hflows.mp h₄, hevidence.mp h₅⟩
  · rintro ⟨h₁, h₂, h₃, h₄, h₅⟩
    exact ⟨hpublishers.mpr h₁, hworkloads.mpr h₂, hcontracts.mpr h₃, hflows.mpr h₄,
      hevidence.mpr h₅⟩

theorem lookup_foldl_putFlow {r : FlowRegistry} {records : List FlowRecord}
    (hnodup : (records.map FlowRecord.key).Nodup)
    (hnew : ∀ f ∈ records, r.current.lookup f.key = none) :
    (records.foldl FlowRegistry.putFlow r).current =
      records.foldl (fun m f => m.insert f.key f) r.current := by
  induction records generalizing r with
  | nil => rfl
  | cons f rest ih =>
    rw [List.map_cons, List.nodup_cons] at hnodup
    have hput : r.putFlow f = { r with current := r.current.insert f.key f } := by
      unfold FlowRegistry.putFlow FlowRegistry.isPast
      rw [hnew f List.mem_cons_self]
      rfl
    rw [List.foldl_cons, List.foldl_cons, hput]
    refine ih hnodup.2 fun g hg => ?_
    have hne : g.key ≠ f.key := fun hkey => hnodup.1 (hkey ▸ List.mem_map_of_mem hg)
    exact (AList.lookup_insert_ne hne).trans (hnew g (List.mem_cons_of_mem _ hg))

theorem lookup_tryEach_restoreRecord {s : EvidenceStore} {records : List EvidenceRecord}
    (hok : (tryEach EvidenceStore.restoreRecord s records).1 = .ok ()) {id : EvidenceId} :
    (∀ r, s.byId.lookup id = some r →
      (tryEach EvidenceStore.restoreRecord s records).2.byId.lookup id = some r) ∧
    ∀ r ∈ records, r.id = id → (tryEach EvidenceStore.restoreRecord s records).2.byId.lookup id =
        some (reloaded r) := by
  induction records generalizing s with
  | nil => exact ⟨fun r hr => hr, fun r hr => absurd hr List.not_mem_nil⟩
  | cons first rest ih =>
    rw [tryEach] at hok ⊢
    have hcases := restoreRecord_cases s first
    generalize s.restoreRecord first = out at hok hcases
    obtain ⟨e | ⟨⟩, s'⟩ := out
    · cases hok
    · rcases hcases with ⟨e, he, -⟩ | ⟨-, hfree, hbyId, -⟩
      · cases he
      obtain ⟨hkept, htaken⟩ := ih hok
      dsimp only at hbyId
      constructor
      · intro r hr
        refine hkept r ?_
        rw [hbyId, lookup_insert_eq, if_neg, hr]
        rintro rfl
        rw [hfree] at hr
        cases hr
      · intro r hr hid
        rcases List.mem_cons.mp hr with rfl | hrest
        · refine hkept _ ?_
          rw [hbyId, ← hid]
          exact AList.lookup_insert _
        · exact htaken r hrest hid

/-- The logs after a restore, and whether an entry met an empty log without room. -/
theorem logs_restoreDecisions (image : DurableState) (c : Classifier) :
    (restoreDecisions image c).decisions.revocations =
        image.revocations.foldl (pushBounded c.decisions.maxRevocations) c.decisions.revocations ∧
      (restoreDecisions image c).decisions.supersessions =
        image.supersessions.foldl (pushBounded c.decisions.maxSupersessions)
          c.decisions.supersessions ∧
      (restoreDecisions image c).decisions.erasedEmpty = (c.decisions.erasedEmpty ||
        (!image.revocations.isEmpty &&
          erasesEmpty c.decisions.maxRevocations c.decisions.revocations) ||
        (!image.supersessions.isEmpty &&
          erasesEmpty c.decisions.maxSupersessions c.decisions.supersessions)) := by
  have hclassified : ∀ (xs : List Classification) (d : ClassificationIndex), ∃ history,
      xs.foldl (·.restoreClassification ·) d = { d with history := history } := by
    intro xs
    induction xs with
    | nil => exact fun d => ⟨d.history, rfl⟩
    | cons x rest ih => exact fun d => ih (d.restoreClassification x)
  have hagain : ∀ a b e : Bool, (a || e || (b && e)) = (a || e) := by decide
  have hrevoked : ∀ (xs : List RevocationRecord) (d : ClassificationIndex),
      xs.foldl (·.restoreRevocation ·) d =
        { d with
          revocations := xs.foldl (pushBounded d.maxRevocations) d.revocations
          erasedEmpty := d.erasedEmpty ||
            (!xs.isEmpty && erasesEmpty d.maxRevocations d.revocations) } := by
    intro xs
    induction xs with
    | nil => exact fun d => by simp
    | cons x rest ih =>
      intro d
      rw [List.foldl_cons, ih, ClassificationIndex.restoreRevocation]
      dsimp only
      rw [erasesEmpty_pushBounded, hagain]
      rfl
  have hsuperseded : ∀ (xs : List SupersessionRecord) (d : ClassificationIndex),
      xs.foldl (·.restoreSupersession ·) d =
        { d with
          supersessions := xs.foldl (pushBounded d.maxSupersessions) d.supersessions
          erasedEmpty := d.erasedEmpty ||
            (!xs.isEmpty && erasesEmpty d.maxSupersessions d.supersessions) } := by
    intro xs
    induction xs with
    | nil => exact fun d => by simp
    | cons x rest ih =>
      intro d
      rw [List.foldl_cons, ih, ClassificationIndex.restoreSupersession]
      dsimp only
      rw [erasesEmpty_pushBounded, hagain]
      rfl
  obtain ⟨history, hhistory⟩ := hclassified image.classifications c.decisions
  simp only [restoreDecisions, hhistory, hrevoked, hsuperseded, and_self]

/-- The classifier holds what the image lists, and nothing undefined was done to get there. A
publisher that was never seen counts as first seen now; evidence may be in a weaker state. -/
structure HoldsImage (image : DurableState) (tick : Tick) (c : Classifier) : Prop where
  publishers : ∀ p ∈ image.publishers,
    c.publishers.records.lookup p.id = some (PublisherRegistry.seen p tick)
  workloads : ∀ w ∈ image.workloads, c.workloads.workloads.lookup w.id = some w
  contracts : ∀ k ∈ image.contracts, c.workloads.contracts.lookup k.id = some k
  flows : ∀ f ∈ image.flows, c.flows.current.lookup f.key = some f
  evidence : ∀ r ∈ image.evidence, ∃ r', c.evidence.byId.lookup r.id = some r' ∧
    Weakens r r'
  revocations : c.decisions.revocations = image.revocations
  supersessions : c.decisions.supersessions = image.supersessions
  defined : c.decisions.erasedEmpty = false

/-- An entry meets no empty log without room where there is room for all. -/
theorem not_erasesEmpty_of_room {α : Type} {bound : UInt32} {xs : List α}
    (hroom : xs.length ≤ bound.toNat) :
    (!xs.isEmpty && erasesEmpty bound ([] : List α)) = false := by
  cases xs with
  | nil => rfl
  | cons x rest =>
    have hbound : bound ≠ 0 := by
      rintro rfl
      exact absurd hroom (Nat.not_succ_le_zero _)
    simpa [erasesEmpty] using hbound

/-- The logs after a restore that succeeds. -/
theorem Blank.logs_restore (h : Blank limits c) {boot : CoordinatorBootId} {tick : Tick}
    (hok : (restore image c boot tick).1 = .ok ()) :
    (restore image c boot tick).2.decisions.revocations =
        image.revocations.foldl (pushBounded limits.maxRevocations) [] ∧
      (restore image c boot tick).2.decisions.supersessions =
        image.supersessions.foldl (pushBounded limits.maxSupersessions) [] ∧
      (restore image c boot tick).2.decisions.erasedEmpty =
        ((!image.revocations.isEmpty &&
            erasesEmpty limits.maxRevocations ([] : List RevocationRecord)) ||
          (!image.supersessions.isEmpty &&
            erasesEmpty limits.maxSupersessions ([] : List SupersessionRecord))) := by
  have hended := restored image c boot tick
  generalize restore image c boot tick = out at hok hended
  cases hended with
  | publishers | workloads | contracts | flows | evidence => cases hok
  | done =>
    obtain ⟨hrevocations, hsupersessions, hdefined⟩ :=
      logs_restoreDecisions image (opened image c boot)
    have hfalse : (opened image c boot).decisions.erasedEmpty = false := h.defined
    dsimp only
    rw [hrevocations, hsupersessions, hdefined, hfalse, Bool.false_or, ← h.maxRevocations,
      ← h.maxSupersessions, ← h.revocations, ← h.supersessions]
    exact ⟨rfl, rfl, rfl⟩

/-- An image for which there is room is restored and held. -/
theorem Blank.holdsImage (h : Blank limits c) (hd : Distinct image)
    (hroom : RoomFor limits image) (boot : CoordinatorBootId) (tick : Tick) :
    (restore image c boot tick).1 = .ok () ∧
      HoldsImage image tick (restore image c boot tick).2 := by
  have hfits := (h.imageFits_iff hd).mpr hroom.toRecordsFit
  have hok := (restore_ok_iff image c boot tick).mpr hfits
  refine ⟨hok, ?_⟩
  obtain ⟨hrevocations, hsupersessions, hdefined⟩ := h.logs_restore hok
  rw [not_erasesEmpty_of_room hroom.revocations, not_erasesEmpty_of_room hroom.supersessions,
    Bool.false_or] at hdefined
  obtain ⟨htakenP, htakenW, htakenC, htakenF, -⟩ := hfits
  have hended := restored image c boot tick
  generalize restore image c boot tick = out at hok hended hrevocations hsupersessions hdefined
  cases hended with
  | publishers | workloads | contracts | flows | evidence => cases hok
  | done hpublishers hworkloads hcontracts hflows hevidence =>
    refine ⟨fun p hp => ?_, fun w hw => ?_, fun k hk => ?_, fun f hf => ?_, fun r hr => ?_,
      hrevocations.trans ((foldl_pushBounded_eq_iff _ _).mpr hroom.revocations),
      hsupersessions.trans ((foldl_pushBounded_eq_iff _ _).mpr hroom.supersessions), hdefined⟩
    · show (restoredPublishers image c tick).2.records.lookup p.id = _
      rw [(restoredPublishers_maps image c tick).1, PublisherRegistry.records_foldl_putRecord,
        htakenP]
      exact lookup_foldl_insert_of_mem _ _ _ hd.publishers hp
    · show (restoredContracts image c).2.workloads.lookup w.id = _
      rw [restoredContracts_eq, restoredWorkloads_eq, htakenW]
      exact lookup_foldl_insert_of_mem _ id _ hd.workloads hw
    · have hdigested : digested k = k := by
        unfold digested
        rw [← hd.digests k hk]
      show (restoredContracts image c).2.contracts.lookup k.id = some k
      rw [restoredContracts_eq, htakenC]
      refine (lookup_foldl_insert_of_mem _ _ _ hd.contracts hk).trans ?_
      rw [hdigested]
    · show (restoredFlows image c).2.current.lookup f.key = _
      rw [restoredFlows_eq, htakenF, lookup_foldl_putFlow hd.flows fun g _ => by rw [h.flows]; rfl]
      exact lookup_foldl_insert_of_mem _ id _ hd.flows hf
    · exact ⟨_, (lookup_tryEach_restoreRecord hevidence).2 r hr rfl, weakens_reloaded r⟩

/-- The epoch advance that follows a restore takes nothing away. -/
theorem HoldsImage.advanceEpoch {tick : Tick} (h : HoldsImage image tick c)
    (boot : CoordinatorBootId) : HoldsImage image tick (c.advanceEpoch boot).2 := by
  unfold Classifier.advanceEpoch
  split
  · exact h
  · split
    · exact ⟨h.publishers, h.workloads, h.contracts, h.flows, h.evidence, h.revocations,
        h.supersessions, h.defined⟩
    next epoch _ =>
      refine ⟨h.publishers, h.workloads, h.contracts, h.flows, fun r hr => ?_, h.revocations,
        h.supersessions, h.defined⟩
      obtain ⟨r', hr', hweakens⟩ := h.evidence r hr
      have hmarked := (reviewed_markEpochStale c.evidence epoch.value).lookup r.id
      rw [hr'] at hmarked
      show ∃ r'', (c.evidence.markEpochStale epoch.value).byId.lookup r.id = some r'' ∧ _
      generalize (c.evidence.markEpochStale epoch.value).byId.lookup r.id = found at hmarked
      cases hmarked with
      | some hstale => exact ⟨_, rfl, hweakens.trans hstale⟩

/-- The epoch advances unless one of the two counters is exhausted. -/
theorem advanceEpoch_ok_iff (c : Classifier) (boot : CoordinatorBootId) :
    (∃ epoch, (c.advanceEpoch boot).1 = .ok epoch) ↔
      c.sequence.value ≠ 0xFFFFFFFFFFFFFFFF ∧ c.epoch ≠ 0xFFFFFFFFFFFFFFFF := by
  have hnext : ∀ counter : Counter, counter.value ≠ 0xFFFFFFFFFFFFFFFF →
      counter.next = .ok ⟨counter.value + 1⟩ := by
    intro counter hvalue
    unfold Counter.next Counter.isExhausted
    rw [if_neg (by simpa using hvalue)]
  have hlast : ∀ counter : Counter, counter.value = 0xFFFFFFFFFFFFFFFF →
      ∃ e, counter.next = .error e := by
    rintro ⟨value⟩ rfl
    exact ⟨_, rfl⟩
  unfold Classifier.advanceEpoch
  by_cases hsequence : c.sequence.value = 0xFFFFFFFFFFFFFFFF
  · obtain ⟨e, he⟩ := hlast _ hsequence
    rw [he]
    exact ⟨(fun ⟨epoch, h⟩ => by cases h), fun h => absurd hsequence h.1⟩
  rw [hnext _ hsequence]
  dsimp only
  by_cases hepoch : c.epoch = 0xFFFFFFFFFFFFFFFF
  · obtain ⟨e, he⟩ := hlast ⟨c.epoch⟩ hepoch
    rw [he]
    exact ⟨(fun ⟨epoch, h⟩ => by cases h), fun h => absurd hepoch h.2⟩
  · rw [hnext ⟨c.epoch⟩ hepoch]
    exact ⟨fun _ => ⟨hsequence, hepoch⟩, fun _ => ⟨_, rfl⟩⟩

theorem decisions_advanceEpoch (c : Classifier) (boot : CoordinatorBootId) :
    (c.advanceEpoch boot).2.decisions = c.decisions :=
  (framed_step c (.advanceEpoch boot)).decisions trivial

/-- A restore raises both counters to those of the image. -/
theorem counters_restore {boot : CoordinatorBootId} {tick : Tick}
    (hok : (restore image c boot tick).1 = .ok ()) :
    (restore image c boot tick).2.sequence = c.sequence.observe image.sequenceHighWater ∧
      (restore image c boot tick).2.epoch =
        if image.epoch > c.epoch then image.epoch else c.epoch := by
  have hended := restored image c boot tick
  generalize restore image c boot tick = out at hok hended
  cases hended with
  | publishers | workloads | contracts | flows | evidence => cases hok
  | done => exact ⟨rfl, rfl⟩

/-- There is room for the image, and its counters can still be advanced. -/
structure Reopens (limits : ResourceLimits) (image : DurableState) : Prop
    extends RoomFor limits image where
  sequence : image.sequenceHighWater ≠ 0xFFFFFFFFFFFFFFFF
  epoch : image.epoch ≠ 0xFFFFFFFFFFFFFFFF

/-- Whether a classifier that holds nothing comes up with all of an image. -/
theorem Blank.reopened_iff (h : Blank limits c) (hd : Distinct image)
    (hsequence : c.sequence.value ≠ 0xFFFFFFFFFFFFFFFF)
    (hepoch : c.epoch ≠ 0xFFFFFFFFFFFFFFFF) (boot : CoordinatorBootId) (tick : Tick) :
    let out := restore image c boot tick
    (out.1 = .ok () ∧ (∃ epoch, (out.2.advanceEpoch boot).1 = .ok epoch) ∧
      HoldsImage image tick (out.2.advanceEpoch boot).2) ↔ Reopens limits image := by
  intro out
  -- a counter that was raised to the last value was raised by the image
  have hraised : ∀ old new : UInt64, old ≠ 0xFFFFFFFFFFFFFFFF →
      ((if new > old then new else old) ≠ 0xFFFFFFFFFFFFFFFF ↔ new ≠ 0xFFFFFFFFFFFFFFFF) := by
    intro old new hold
    split_ifs with hlt
    · exact Iff.rfl
    · refine ⟨fun _ hnew => ?_, fun _ => hold⟩
      have hlast : old.toNat ≠ 0xFFFFFFFFFFFFFFFF := fun he => hold (UInt64.toNat_inj.mp he)
      have hbound := old.toNat_lt
      rw [hnew, gt_iff_lt, UInt64.lt_iff_toNat_lt] at hlt
      have hvalue : (0xFFFFFFFFFFFFFFFF : UInt64).toNat = 0xFFFFFFFFFFFFFFFF := rfl
      omega
  have hcounters : out.1 = .ok () → ((∃ epoch, (out.2.advanceEpoch boot).1 = .ok epoch) ↔
      image.sequenceHighWater ≠ 0xFFFFFFFFFFFFFFFF ∧ image.epoch ≠ 0xFFFFFFFFFFFFFFFF) := by
    intro hok
    obtain ⟨hseq, hep⟩ := counters_restore hok
    have hobserved : out.2.sequence.value =
        if image.sequenceHighWater > c.sequence.value then image.sequenceHighWater
        else c.sequence.value := by
      rw [hseq, Counter.observe]
      split_ifs <;> rfl
    rw [advanceEpoch_ok_iff, hobserved, hep, hraised _ _ hsequence, hraised _ _ hepoch]
  constructor
  · rintro ⟨hok, hadvanced, hholds⟩
    obtain ⟨hrevocations, hsupersessions, -⟩ := h.logs_restore hok
    obtain ⟨hseq, hep⟩ := (hcounters hok).mp hadvanced
    have hfits := (h.imageFits_iff hd).mp ((restore_ok_iff image c boot tick).mp hok)
    have hdecisions := decisions_advanceEpoch out.2 boot
    refine ⟨⟨hfits, (foldl_pushBounded_eq_iff _ _).mp ?_, (foldl_pushBounded_eq_iff _ _).mp ?_⟩,
      hseq, hep⟩
    · rw [← hrevocations, ← hholds.revocations, hdecisions]
    · rw [← hsupersessions, ← hholds.supersessions, hdecisions]
  · intro hreopens
    obtain ⟨hok, hholds⟩ := h.holdsImage hd hreopens.toRoomFor boot tick
    exact ⟨hok, (hcounters hok).mpr ⟨hreopens.sequence, hreopens.epoch⟩, hholds.advanceEpoch boot⟩

end Blank

end Classifier
end FlowClassifier
