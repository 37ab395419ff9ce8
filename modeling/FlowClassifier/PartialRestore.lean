import FlowClassifier.Restart
import FlowClassifier.Store.Refilling

/-!
A restore that fails. Boot and epoch are set before the first record is read, and every
loop writes its records one by one, so a failure leaves what was written until then. The
classifier is as before the call exactly when everything that was written had been there
already. Which records a loop reaches is decided by the keys, the room and the digests
alone, so this is a condition on the image and the classifier before the call.
-/
namespace FlowClassifier

open Lib Foundation Flows Workloads Store PublisherRegistry WorkloadRegistry FlowRegistry FiniteMap

namespace Classifier

structure Unchanged (c c' : Classifier) : Prop where
  records : ∀ id, c'.publishers.records.lookup id = c.publishers.records.lookup id
  publishers : ∀ id, c'.publishers.publishers.lookup id = c.publishers.publishers.lookup id
  workloads : ∀ id, c'.workloads.workloads.lookup id = c.workloads.workloads.lookup id
  contracts : ∀ id, c'.workloads.contracts.lookup id = c.workloads.contracts.lookup id
  flows : ∀ key, c'.flows.current.lookup key = c.flows.current.lookup key
  histories : ∀ id, c'.flows.history.lookup id = c.flows.history.lookup id
  evidence : c'.evidence = c.evidence
  decisions : c'.decisions = c.decisions
  epoch : c'.epoch = c.epoch
  coordinatorBoot : c'.coordinatorBoot = c.coordinatorBoot

section Loops

variable (image : DurableState) (c : Classifier) (boot : CoordinatorBootId) (tick : Tick)

def takenPublishers : List PublisherRecord :=
  takeRoom PublisherRecord.id (fun _ => true)
    (fun id => (c.publishers.records.lookup id).isSome)
    (c.publishers.maxPublishers.toNat - c.publishers.records.size) image.publishers

def takenWorkloads : List WorkloadRecord :=
  takeRoom WorkloadRecord.id (fun _ => true)
    (fun id => (c.workloads.workloads.lookup id).isSome)
    (c.workloads.maxWorkloads.toNat - c.workloads.workloads.size) image.workloads

def takenContracts : List WorkloadContract :=
  takeRoom WorkloadContract.id digestFits
    (fun id => (c.workloads.contracts.lookup id).isSome)
    (c.workloads.maxContracts.toNat - c.workloads.contracts.size) image.contracts

def takenFlows : List FlowRecord :=
  takeRoom FlowRecord.key (fun _ => true) (fun key => (c.flows.current.lookup key).isSome)
    (c.flows.maxFlows.toNat - c.flows.current.size) image.flows

/-- The image fits: no loop stops before its end. -/
structure ImageFits : Prop where
  publishers : takenPublishers image c = image.publishers
  workloads : takenWorkloads image c = image.workloads
  contracts : takenContracts image c = image.contracts
  flows : takenFlows image c = image.flows
  evidence : c.evidence.FitsEvidence image.evidence

/-- Whatever the loops write until one of them stops is there already. -/
structure AlreadyThere : Prop where
  coordinatorBoot : boot = c.coordinatorBoot
  epoch : image.epoch ≤ c.epoch
  records : c.publishers.records.Holds PublisherRecord.id
    (seen · tick) (takenPublishers image c)
  publishers : c.publishers.publishers.Holds PublisherRecord.id
    (fun record => restoredRegistration (seen record tick) tick)
    (takenPublishers image c)
  workloads : takenPublishers image c = image.publishers →
    c.workloads.workloads.Holds WorkloadRecord.id id (takenWorkloads image c)
  contracts : takenPublishers image c = image.publishers →
    takenWorkloads image c = image.workloads →
    c.workloads.contracts.Holds WorkloadContract.id digested
      (takenContracts image c)
  flows : takenPublishers image c = image.publishers →
    takenWorkloads image c = image.workloads → takenContracts image c = image.contracts →
    c.flows.HoldsFlows (takenFlows image c)
  evidence : takenPublishers image c = image.publishers →
    takenWorkloads image c = image.workloads → takenContracts image c = image.contracts →
    takenFlows image c = image.flows → c.evidence.RefusesFirst image.evidence

theorem restoredPublishers_ok_iff :
    (restoredPublishers image c tick).1 = .ok () ↔ takenPublishers image c = image.publishers := by
  rw [restoredPublishers, restoreRecords, takenPublishers,
    ← ((fills_restoreRecord tick).tryEach c.publishers image.publishers).2]
  generalize tryEach _ c.publishers image.publishers = out
  obtain ⟨result | ⟨⟩, r⟩ := out
  · exact Iff.rfl
  · exact Iff.rfl

theorem restoredPublishers_maps :
    let after := (takenPublishers image c).foldl (putRecord tick) c.publishers
    (restoredPublishers image c tick).2.records = after.records ∧
      (restoredPublishers image c tick).2.publishers = after.publishers := by
  dsimp only
  rw [restoredPublishers, restoreRecords, takenPublishers,
    ← ((fills_restoreRecord tick).tryEach c.publishers image.publishers).1]
  generalize tryEach _ c.publishers image.publishers = out
  obtain ⟨result | ⟨⟩, r⟩ := out
  · exact ⟨rfl, rfl⟩
  · exact ⟨rfl, rfl⟩

theorem restoredWorkloads_ok_iff :
    (restoredWorkloads image c).1 = .ok () ↔ takenWorkloads image c = image.workloads :=
  (fills_restoreWorkload.tryEach c.workloads image.workloads).2

theorem restoredWorkloads_eq : (restoredWorkloads image c).2 = { c.workloads with
      workloads := (takenWorkloads image c).foldl
        (fun m record => m.insert record.id record) c.workloads.workloads } := by
  rw [← foldl_putWorkload]
  exact (fills_restoreWorkload.tryEach c.workloads image.workloads).1

theorem restoredContracts_ok_iff :
    (restoredContracts image c).1 = .ok () ↔ takenContracts image c = image.contracts := by
  have h := (fills_restoreContract.tryEach (restoredWorkloads image c).2 image.contracts).2
  rw [restoredWorkloads_eq] at h
  rw [restoredContracts, restoredWorkloads_eq]
  exact h

theorem restoredContracts_eq : (restoredContracts image c).2 = { (restoredWorkloads image c).2 with
      contracts := (takenContracts image c).foldl
        (fun m contract => m.insert contract.id (digested contract))
        c.workloads.contracts } := by
  have h := (fills_restoreContract.tryEach (restoredWorkloads image c).2 image.contracts).1
  rw [foldl_putContract, restoredWorkloads_eq] at h
  rw [restoredContracts, restoredWorkloads_eq]
  exact h

theorem restoredFlows_ok_iff :
    (restoredFlows image c).1 = .ok () ↔ takenFlows image c = image.flows :=
  (fills_restoreFlow.tryEach c.flows image.flows).2

theorem restoredFlows_eq : (restoredFlows image c).2 = (takenFlows image c).foldl putFlow c.flows :=
  (fills_restoreFlow.tryEach c.flows image.flows).1

theorem restoredEvidence_ok_iff :
    (restoredEvidence image c).1 = .ok () ↔ c.evidence.FitsEvidence image.evidence :=
  EvidenceStore.tryEach_restoreRecord_ok_iff

end Loops

section Failing

variable {image : DurableState} {c : Classifier} {boot : CoordinatorBootId} {tick : Tick}

/-- A restore succeeds when the image fits. -/
theorem restore_ok_iff (image : DurableState) (c : Classifier) (boot : CoordinatorBootId)
    (tick : Tick) : (restore image c boot tick).1 = .ok () ↔ ImageFits image c := by
  have hended := restored image c boot tick
  generalize restore image c boot tick = out at hended
  constructor
  · intro hok
    cases hended with
    | done hpublishers hworkloads hcontracts hflows hevidence =>
      exact ⟨(restoredPublishers_ok_iff image c tick).mp hpublishers,
        (restoredWorkloads_ok_iff image c).mp hworkloads,
        (restoredContracts_ok_iff image c).mp hcontracts,
        (restoredFlows_ok_iff image c).mp hflows,
        (restoredEvidence_ok_iff image c).mp hevidence⟩
    | publishers | workloads | contracts | flows | evidence => cases hok
  · rintro ⟨hpublishers, hworkloads, hcontracts, hflows, hevidence⟩
    rw [← restoredPublishers_ok_iff image c tick] at hpublishers
    rw [← restoredWorkloads_ok_iff] at hworkloads
    rw [← restoredContracts_ok_iff] at hcontracts
    rw [← restoredFlows_ok_iff] at hflows
    rw [← restoredEvidence_ok_iff] at hevidence
    cases hended with
    | publishers h => rw [hpublishers] at h; cases h
    | workloads _ h => rw [hworkloads] at h; cases h
    | contracts _ _ h => rw [hcontracts] at h; cases h
    | flows _ _ _ h => rw [hflows] at h; cases h
    | evidence _ _ _ _ h => rw [hevidence] at h; cases h
    | done => rfl

/-- A store after a failure, as a loop left it or, when the loop was not reached, as it
was. -/
def LoopLeft {α : Type} (before after : α) (reached : Prop) (store : α) : Prop :=
  (reached → store = after) ∧ (¬ reached → store = before)

theorem LoopLeft.same_iff {α : Type} {before after store : α} {reached : Prop}
    (h : LoopLeft before after reached store) (same : α → Prop) (hbefore : same before) :
    same store ↔ (reached → same after) := by
  constructor
  · intro hsame hreached
    rw [← h.1 hreached]
    exact hsame
  · intro hafter
    by_cases hreached : reached
    · rw [h.1 hreached]
      exact hafter hreached
    · rw [h.2 hreached]
      exact hbefore

structure Stopped (image : DurableState) (c : Classifier) (boot : CoordinatorBootId) (tick : Tick)
    (c' : Classifier) : Prop where
  coordinatorBoot : c'.coordinatorBoot = boot
  epoch : c'.epoch = if image.epoch > c.epoch then image.epoch else c.epoch
  decisions : c'.decisions = c.decisions
  publishers : c'.publishers = (restoredPublishers image c tick).2
  workloads : LoopLeft c.workloads.workloads (restoredWorkloads image c).2.workloads
    ((restoredPublishers image c tick).1 = .ok ()) c'.workloads.workloads
  contracts : LoopLeft c.workloads.contracts (restoredContracts image c).2.contracts
    ((restoredPublishers image c tick).1 = .ok () ∧ (restoredWorkloads image c).1 = .ok ())
    c'.workloads.contracts
  flows : LoopLeft c.flows (restoredFlows image c).2
    ((restoredPublishers image c tick).1 = .ok () ∧ (restoredWorkloads image c).1 = .ok () ∧
      (restoredContracts image c).1 = .ok ()) c'.flows
  evidence : LoopLeft c.evidence (restoredEvidence image c).2
    ((restoredPublishers image c tick).1 = .ok () ∧ (restoredWorkloads image c).1 = .ok () ∧
      (restoredContracts image c).1 = .ok () ∧ (restoredFlows image c).1 = .ok ()) c'.evidence

theorem stopped {e : Failure} {c' : Classifier}
    (h : restore image c boot tick = (.error e, c')) : Stopped image c boot tick c' := by
  have hended := restored image c boot tick
  rw [h] at hended
  have hworkloads : (restoredContracts image c).2.workloads =
      (restoredWorkloads image c).2.workloads := by
    rw [restoredContracts_eq]
  have hcontracts : (restoredWorkloads image c).2.contracts = c.workloads.contracts := by
    rw [restoredWorkloads_eq]
  cases hended with
  | publishers h₁ =>
    refine ⟨rfl, rfl, rfl, rfl, ?_, ?_, ?_, ?_⟩ <;>
      exact ⟨fun hreached => by simp [h₁] at hreached, fun _ => rfl⟩
  | workloads h₁ h₂ =>
    refine ⟨rfl, rfl, rfl, rfl, ⟨fun _ => rfl, fun hnot => absurd h₁ hnot⟩, ?_, ?_, ?_⟩
    · exact ⟨fun hreached => by simp [h₂] at hreached, fun _ => hcontracts⟩
    · exact ⟨fun hreached => by simp [h₂] at hreached, fun _ => rfl⟩
    · exact ⟨fun hreached => by simp [h₂] at hreached, fun _ => rfl⟩
  | contracts h₁ h₂ h₃ =>
    refine ⟨rfl, rfl, rfl, rfl, ⟨fun _ => hworkloads, fun hnot => absurd h₁ hnot⟩,
      ⟨fun _ => rfl, fun hnot => absurd ⟨h₁, h₂⟩ hnot⟩, ?_, ?_⟩
    · exact ⟨fun hreached => by simp [h₃] at hreached, fun _ => rfl⟩
    · exact ⟨fun hreached => by simp [h₃] at hreached, fun _ => rfl⟩
  | flows h₁ h₂ h₃ h₄ =>
    refine ⟨rfl, rfl, rfl, rfl, ⟨fun _ => hworkloads, fun hnot => absurd h₁ hnot⟩,
      ⟨fun _ => rfl, fun hnot => absurd ⟨h₁, h₂⟩ hnot⟩,
      ⟨fun _ => rfl, fun hnot => absurd ⟨h₁, h₂, h₃⟩ hnot⟩, ?_⟩
    exact ⟨fun hreached => by simp [h₄] at hreached, fun _ => rfl⟩
  | evidence h₁ h₂ h₃ h₄ h₅ =>
    exact ⟨rfl, rfl, rfl, rfl, ⟨fun _ => hworkloads, fun hnot => absurd h₁ hnot⟩,
      ⟨fun _ => rfl, fun hnot => absurd ⟨h₁, h₂⟩ hnot⟩,
      ⟨fun _ => rfl, fun hnot => absurd ⟨h₁, h₂, h₃⟩ hnot⟩,
      ⟨fun _ => rfl, fun hnot => absurd ⟨h₁, h₂, h₃, h₄⟩ hnot⟩⟩

theorem records_same_iff (image : DurableState) (c : Classifier) (tick : Tick) :
    (∀ id, (restoredPublishers image c tick).2.records.lookup id = c.publishers.records.lookup id) ↔
      c.publishers.records.Holds PublisherRecord.id (seen · tick) (takenPublishers image c) := by
  rw [(restoredPublishers_maps image c tick).1, records_foldl_putRecord]
  exact foldl_insert_same_iff _ _ _ _

theorem publishers_same_iff (image : DurableState) (c : Classifier) (tick : Tick) :
    (∀ id, (restoredPublishers image c tick).2.publishers.lookup id =
      c.publishers.publishers.lookup id) ↔ c.publishers.publishers.Holds PublisherRecord.id
        (fun record => restoredRegistration (seen record tick) tick) (takenPublishers image c) := by
  rw [(restoredPublishers_maps image c tick).2, publishers_foldl_putRecord]
  exact foldl_insert_same_iff _ _ _ _

theorem workloads_same_iff : (∀ id, (restoredWorkloads image c).2.workloads.lookup id =
      c.workloads.workloads.lookup id) ↔
      c.workloads.workloads.Holds WorkloadRecord.id id (takenWorkloads image c) := by
  rw [restoredWorkloads_eq]
  exact foldl_insert_same_iff _ id _ _

theorem contracts_same_iff : (∀ id, (restoredContracts image c).2.contracts.lookup id =
      c.workloads.contracts.lookup id) ↔ c.workloads.contracts.Holds WorkloadContract.id digested
        (takenContracts image c) := by
  rw [restoredContracts_eq]
  exact foldl_insert_same_iff _ _ _ _

theorem evidence_same_iff :
    (restoredEvidence image c).2 = c.evidence ↔ c.evidence.RefusesFirst image.evidence := by
  constructor
  · intro hsame
    refine EvidenceStore.tryEach_restoreRecord_same_iff.mp fun id => ?_
    show (restoredEvidence image c).2.byId.lookup id = _
    rw [hsame]
  · exact EvidenceStore.tryEach_restoreRecord_of_refused

/-- A failed restore leaves the classifier as it was when all that the loops reach is there
already. -/
theorem unchanged_iff {e : Failure} {c' : Classifier}
    (h : restore image c boot tick = (.error e, c')) :
    Unchanged c c' ↔ AlreadyThere image c boot tick := by
  have hstopped := stopped h
  have hworkloads := hstopped.workloads.same_iff
    (fun m => ∀ id, m.lookup id = c.workloads.workloads.lookup id) fun _ => rfl
  have hcontracts := hstopped.contracts.same_iff
    (fun m => ∀ id, m.lookup id = c.workloads.contracts.lookup id) fun _ => rfl
  have hflows := hstopped.flows.same_iff
    (fun r => (∀ key, r.current.lookup key = c.flows.current.lookup key) ∧
      ∀ id, r.history.lookup id = c.flows.history.lookup id) ⟨fun _ => rfl, fun _ => rfl⟩
  have hevidence := hstopped.evidence.same_iff (· = c.evidence) rfl
  have hepoch : c'.epoch = c.epoch ↔ image.epoch ≤ c.epoch := by
    rw [hstopped.epoch]
    split_ifs with hnewer
    · exact ⟨fun hsame => le_of_eq hsame, fun hle => absurd hle (not_le.mpr hnewer)⟩
    · exact ⟨fun _ => not_lt.mp hnewer, fun _ => rfl⟩
  rw [workloads_same_iff, restoredPublishers_ok_iff] at hworkloads
  rw [contracts_same_iff, restoredPublishers_ok_iff, restoredWorkloads_ok_iff, and_imp]
    at hcontracts
  rw [restoredFlows_eq, foldl_putFlow_same_iff, restoredPublishers_ok_iff,
    restoredWorkloads_ok_iff, restoredContracts_ok_iff, and_imp, and_imp] at hflows
  rw [evidence_same_iff, restoredPublishers_ok_iff, restoredWorkloads_ok_iff,
    restoredContracts_ok_iff, restoredFlows_ok_iff, and_imp, and_imp, and_imp] at hevidence
  have hrecords := records_same_iff image c tick
  have hpublishers := publishers_same_iff image c tick
  rw [← hstopped.publishers] at hrecords hpublishers
  constructor
  · intro hsame
    exact ⟨hstopped.coordinatorBoot.symm.trans hsame.coordinatorBoot, hepoch.mp hsame.epoch,
      hrecords.mp hsame.records, hpublishers.mp hsame.publishers,
      hworkloads.mp hsame.workloads, hcontracts.mp hsame.contracts,
      hflows.mp ⟨hsame.flows, hsame.histories⟩, hevidence.mp hsame.evidence⟩
  · intro hthere
    have hkept := hflows.mpr hthere.flows
    exact ⟨hrecords.mpr hthere.records, hpublishers.mpr hthere.publishers,
      hworkloads.mpr hthere.workloads, hcontracts.mpr hthere.contracts, hkept.1, hkept.2,
      hevidence.mpr hthere.evidence, hstopped.decisions, hepoch.mpr hthere.epoch,
      hstopped.coordinatorBoot.trans hthere.coordinatorBoot⟩

/-- Restore is all or nothing exactly for the images that fit, and for those of which
nothing new is reached before the failure. -/
theorem failed_restore_unchanged_iff (image : DurableState) (c : Classifier)
    (boot : CoordinatorBootId) (tick : Tick) :
    (∀ e c', restore image c boot tick = (.error e, c') → Unchanged c c') ↔
      ImageFits image c ∨ AlreadyThere image c boot tick := by
  constructor
  · intro h
    cases hout : restore image c boot tick with
    | mk result c' =>
      cases result with
      | error e => exact Or.inr ((unchanged_iff hout).mp (h e c' hout))
      | ok =>
        refine Or.inl ((restore_ok_iff image c boot tick).mp ?_)
        rw [hout]
  · rintro (hfits | hthere) e c' hout
    · have hok := (restore_ok_iff image c boot tick).mpr hfits
      rw [hout] at hok
      cases hok
    · exact (unchanged_iff hout).mpr hthere

end Failing

def keptWorkload : WorkloadRecord where
  id := .make (text "serving")
  owner := .make (text "agent")
  generation := 1

def corruptedContract : WorkloadContract where
  id := .make (text "serving-contract")
  workload := .make (text "serving")
  definitionDigest := ⟨⟨List.replicate 32 1, rfl⟩⟩

def corruptedImage : DurableState where
  policy := {}
  workloads := [keptWorkload]
  contracts := [corruptedContract]

/-- The restore fails as corrupt and has replaced the boot and added the workload. -/
theorem corrupted_restore_leaves_workload :
    let c : Classifier := .new {}
    let out := restore corruptedImage c 7 1
    (∃ e, out.1 = .error e ∧ e.code = .corruptState) ∧
      c.workloads.workloads.lookup keptWorkload.id = none ∧
      (out.2.workloads.workloads.lookup keptWorkload.id).isSome = true ∧
      c.coordinatorBoot ≠ 7 ∧ out.2.coordinatorBoot = 7 ∧ ¬ Unchanged c out.2 := by
  intro c out
  have hadded : (out.2.workloads.workloads.lookup keptWorkload.id).isSome = true := by
    decide +kernel
  have hnone : c.workloads.workloads.lookup keptWorkload.id = none := rfl
  refine ⟨?_, hnone, hadded, by decide, by decide +kernel, fun hsame => ?_⟩
  · exact ⟨⟨.corruptState, text "persisted contract " ++ corruptedContract.id.value ++
      text " content does not match its recorded digest"⟩, by decide +kernel, rfl⟩
  · rw [hsame.workloads, hnone] at hadded
    cases hadded

end Classifier
end FlowClassifier
