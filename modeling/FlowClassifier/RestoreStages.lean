import FlowClassifier.Operations

/-!
The stages of a restore. A restore runs five loops, one for each store, and ends in the
first that fails or after all of them; what it leaves of each store is then read off the
stage it ended in.
-/
namespace FlowClassifier.Classifier

open Lib Foundation Evidence Flows Workloads Store

theorem tryEach_restoreWorkload (c : Classifier) (records : List WorkloadRecord) :
    tryEach restoreWorkload c records =
      let out := tryEach WorkloadRegistry.restoreWorkload c.workloads records
      (out.1, { c with workloads := out.2 }) :=
  tryEach_put (fun w => { c with workloads := w }) (fun _ _ => rfl) c.workloads records

theorem tryEach_restoreContract (c : Classifier) (contracts : List WorkloadContract) :
    tryEach restoreContract c contracts =
      let out := tryEach WorkloadRegistry.restoreContract c.workloads contracts
      (out.1, { c with workloads := out.2 }) :=
  tryEach_put (fun w => { c with workloads := w }) (fun _ _ => rfl) c.workloads contracts

theorem tryEach_restoreFlow (c : Classifier) (records : List FlowRecord) :
    tryEach restoreFlow c records =
      let out := tryEach FlowRegistry.restoreFlow c.flows records
      (out.1, { c with flows := out.2 }) :=
  tryEach_put (fun f => { c with flows := f }) (fun _ _ => rfl) c.flows records

theorem tryEach_restoreEvidence (c : Classifier) (records : List EvidenceRecord) :
    tryEach restoreEvidence c records =
      let out := tryEach EvidenceStore.restoreRecord c.evidence records
      (out.1, { c with evidence := out.2 }) :=
  tryEach_put (fun e => { c with evidence := e }) (fun _ _ => rfl) c.evidence records

section Stages

variable (image : DurableState) (c : Classifier) (boot : CoordinatorBootId) (tick : Tick)

def opened : Classifier :=
  { c with
    coordinatorBoot := boot
    epoch := if image.epoch > c.epoch then image.epoch else c.epoch
    sequence := c.sequence.observe image.sequenceHighWater }

def restoredPublishers : Result Unit × PublisherRegistry :=
  c.publishers.restoreRecords image.publishers tick

def restoredWorkloads : Result Unit × WorkloadRegistry :=
  tryEach WorkloadRegistry.restoreWorkload c.workloads image.workloads

def restoredContracts : Result Unit × WorkloadRegistry :=
  tryEach WorkloadRegistry.restoreContract (restoredWorkloads image c).2 image.contracts

def restoredFlows : Result Unit × FlowRegistry :=
  tryEach FlowRegistry.restoreFlow c.flows image.flows

def restoredEvidence : Result Unit × EvidenceStore :=
  tryEach EvidenceStore.restoreRecord c.evidence image.evidence

/-- Where a restore can end: in one of the five loops, or after all of them. -/
inductive Restored : Result Unit × Classifier → Prop
  | publishers {e : Failure} (hpublishers : (restoredPublishers image c tick).1 = .error e) :
    Restored (.error e,
      { opened image c boot with publishers := (restoredPublishers image c tick).2 })
  | workloads {e : Failure} (hpublishers : (restoredPublishers image c tick).1 = .ok ())
    (hworkloads : (restoredWorkloads image c).1 = .error e) :
    Restored (.error e,
      { opened image c boot with
        publishers := (restoredPublishers image c tick).2
        workloads := (restoredWorkloads image c).2 })
  | contracts {e : Failure} (hpublishers : (restoredPublishers image c tick).1 = .ok ())
    (hworkloads : (restoredWorkloads image c).1 = .ok ())
    (hcontracts : (restoredContracts image c).1 = .error e) :
    Restored (.error e,
      { opened image c boot with
        publishers := (restoredPublishers image c tick).2
        workloads := (restoredContracts image c).2 })
  | flows {e : Failure} (hpublishers : (restoredPublishers image c tick).1 = .ok ())
    (hworkloads : (restoredWorkloads image c).1 = .ok ())
    (hcontracts : (restoredContracts image c).1 = .ok ())
    (hflows : (restoredFlows image c).1 = .error e) :
    Restored (.error e,
      { opened image c boot with
        publishers := (restoredPublishers image c tick).2
        workloads := (restoredContracts image c).2
        flows := (restoredFlows image c).2 })
  | evidence {e : Failure} (hpublishers : (restoredPublishers image c tick).1 = .ok ())
    (hworkloads : (restoredWorkloads image c).1 = .ok ())
    (hcontracts : (restoredContracts image c).1 = .ok ())
    (hflows : (restoredFlows image c).1 = .ok ())
    (hevidence : (restoredEvidence image c).1 = .error e) :
    Restored (.error e,
      { opened image c boot with
        publishers := (restoredPublishers image c tick).2
        workloads := (restoredContracts image c).2
        flows := (restoredFlows image c).2
        evidence := (restoredEvidence image c).2 })
  | done (hpublishers : (restoredPublishers image c tick).1 = .ok ())
    (hworkloads : (restoredWorkloads image c).1 = .ok ())
    (hcontracts : (restoredContracts image c).1 = .ok ())
    (hflows : (restoredFlows image c).1 = .ok ())
    (hevidence : (restoredEvidence image c).1 = .ok ()) :
    Restored (.ok (),
      { restoreDecisions image (opened image c boot) with
        publishers := (restoredPublishers image c tick).2.clearSessions
        workloads := (restoredContracts image c).2
        flows := (restoredFlows image c).2
        evidence := (restoredEvidence image c).2 })

/-- A failure is found in one of the five loops, with the stores as they were left. -/
theorem restored : Restored image c boot tick (restore image c boot tick) := by
  have hrestore : restore image c boot tick = andThen ((restoredPublishers image c tick).1,
        { opened image c boot with publishers := (restoredPublishers image c tick).2 }) fun c =>
      andThen (tryEach restoreWorkload c image.workloads) fun c =>
      andThen (tryEach restoreContract c image.contracts) fun c =>
      andThen (tryEach restoreFlow c image.flows) fun c =>
      andThen (tryEach restoreEvidence c image.evidence) fun c =>
        let c := restoreDecisions image c
        (.ok (), { c with publishers := c.publishers.clearSessions }) := rfl
  rw [hrestore]
  cases hpublishers : (restoredPublishers image c tick).1 with
  | error e => exact .publishers hpublishers
  | ok =>
    rw [andThen, tryEach_restoreWorkload]
    change Restored _ _ _ _ (andThen ((restoredWorkloads image c).1, _) _)
    cases hworkloads : (restoredWorkloads image c).1 with
    | error e => exact .workloads hpublishers hworkloads
    | ok =>
      rw [andThen, tryEach_restoreContract]
      change Restored _ _ _ _ (andThen ((restoredContracts image c).1, _) _)
      cases hcontracts : (restoredContracts image c).1 with
      | error e => exact .contracts hpublishers hworkloads hcontracts
      | ok =>
        rw [andThen, tryEach_restoreFlow]
        change Restored _ _ _ _ (andThen ((restoredFlows image c).1, _) _)
        cases hflows : (restoredFlows image c).1 with
        | error e => exact .flows hpublishers hworkloads hcontracts hflows
        | ok =>
          rw [andThen, tryEach_restoreEvidence]
          change Restored _ _ _ _ (andThen ((restoredEvidence image c).1, _) _)
          cases hevidence : (restoredEvidence image c).1 with
          | error e => exact .evidence hpublishers hworkloads hcontracts hflows hevidence
          | ok => exact .done hpublishers hworkloads hcontracts hflows hevidence

theorem epoch_restore : (restore image c boot tick).2.epoch =
    if image.epoch > c.epoch then image.epoch else c.epoch := by
  have hended := restored image c boot tick
  generalize restore image c boot tick = out at hended
  cases hended <;> rfl

/-- A restore keeps the policy of the classifier. -/
theorem policy_restore : (restore image c boot tick).2.policy = c.policy ∧
    (restore image c boot tick).2.policyDigest = c.policyDigest := by
  have hended := restored image c boot tick
  generalize restore image c boot tick = out at hended
  cases hended <;> exact ⟨rfl, rfl⟩

variable {image c}

/-- The evidence is restored one record at a time. -/
theorem evidence_restore {Q : EvidenceStore → Prop} (hQ : Q c.evidence)
    (hrecord : ∀ s, ∀ r ∈ image.evidence, Q s → Q (s.restoreRecord r).2) :
    Q (restore image c boot tick).2.evidence := by
  have hloop : Q (restoredEvidence image c).2 := tryEach_invariant Q hrecord hQ
  have hended := restored image c boot tick
  generalize restore image c boot tick = out at hended
  cases hended with
  | evidence | done => exact hloop
  | publishers | workloads | contracts | flows => exact hQ

/-- The registry of workloads is given the workloads one at a time, then the contracts. -/
theorem workloads_restore {W : WorkloadRegistry → Prop} (hW : W c.workloads)
    (hworkload : ∀ r w, W r → W (r.restoreWorkload w).2)
    (hcontract : ∀ r k, W r → W (r.restoreContract k).2) :
    W (restore image c boot tick).2.workloads := by
  have hworkloads : W (restoredWorkloads image c).2 :=
    tryEach_invariant W (fun r w _ => hworkload r w) hW
  have hcontracts : W (restoredContracts image c).2 :=
    tryEach_invariant W (fun r k _ => hcontract r k) hworkloads
  have hended := restored image c boot tick
  generalize restore image c boot tick = out at hended
  cases hended with
  | publishers => exact hW
  | workloads => exact hworkloads
  | contracts | flows | evidence | done => exact hcontracts

variable {tick}

/-- The registrations are restored one record at a time, and cleared at the end. -/
theorem publishers_restore {P : PublisherRegistry → Prop} (hP : P c.publishers)
    (hrecord : ∀ r record, P r → P (r.restoreRecord record tick).2)
    (hstats : ∀ r stats, P r → P { r with stats := stats })
    (hclear : ∀ r, P r → P r.clearSessions) : P (restore image c boot tick).2.publishers := by
  have hloop : P (restoredPublishers image c tick).2 :=
    andThen_invariant (tryEach_invariant P (fun r record _ => hrecord r record) hP)
      fun r hr => hstats r _ hr
  have hended := restored image c boot tick
  generalize restore image c boot tick = out at hended
  cases hended with
  | done => exact hclear _ hloop
  | _ => exact hloop

end Stages

end FlowClassifier.Classifier
