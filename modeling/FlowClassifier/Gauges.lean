import FlowClassifier.Consistency

/-!
The gauges of `stats`. The size of the memo is read off it. The other gauges are recounted
by some of the operations that change what they count: the live publishers when liveness is
swept or sessions are cleared, the active contracts when one is activated, the indexed
flows when a record is stored. In between a gauge shows what the last recount found.
-/
namespace FlowClassifier

open Lib Foundation Evidence Store PublisherRegistry WorkloadRegistry

namespace Store

/-- The active contracts are recounted when one that was PENDING is activated. -/
theorem WorkloadRegistry.activateContract_recounts (r : WorkloadRegistry) (id : ContractId)
    (caller : PublisherId) (tick : Tick) :
    let out := r.activateContract id caller tick
    let pending := (r.contracts.lookup id).any (·.state == .pending)
    ((pending && out.1.isOk) = false ∧
      out.2.stats.activeContracts = r.stats.activeContracts) ∨
    (pending = true ∧ out.1.isOk = true ∧ out.2.stats.activeContracts =
      (out.2.contracts.values.filter fun k => k.state == .active).length) := by
  generalize hout : r.activateContract id caller tick = out
  unfold activateContract at hout
  cases hk : r.contracts.lookup id with
  | none =>
    rw [hk] at hout
    subst hout
    exact Or.inl ⟨rfl, rfl⟩
  | some k =>
    rw [hk] at hout
    dsimp only at hout
    split_ifs at hout with howner hretired hactive
    · subst hout
      exact Or.inl ⟨Bool.and_false _, rfl⟩
    · subst hout
      exact Or.inl ⟨Bool.and_false _, rfl⟩
    · refine Or.inl ⟨by simp [hactive], ?_⟩
      subst hout
      repeat' split
      all_goals rfl
    · have hpending : k.state = .pending := by
        cases hstate : k.state <;> simp_all
      split at hout
      · subst hout
        exact Or.inl ⟨Bool.and_false _, rfl⟩
      · split_ifs at hout
        · subst hout
          exact Or.inl ⟨Bool.and_false _, rfl⟩
        · subst hout
          exact Or.inl ⟨Bool.and_false _, rfl⟩
        · subst hout
          exact Or.inr ⟨by simp [hpending], rfl, rfl⟩

namespace EvidenceStore

theorem indexedFlows_evictFrom (order : List EvidenceId) (s : EvidenceStore) :
    (s.evictFrom order).stats.indexedFlows = s.stats.indexedFlows := by
  induction order generalizing s with
  | nil => rfl
  | cons id rest ih =>
    unfold evictFrom
    split_ifs
    · cases s.byId.lookup id with
      | none => exact ih s
      | some record => exact ih _
    · rfl

/-- A record that is stored has the index recounted. -/
theorem indexedFlows_insert {s : EvidenceStore} {record : EvidenceRecord}
    {out : Result Unit × EvidenceStore} (hout : s.insert record = out) :
    out.2.stats.indexedFlows =
      if out.1.isOk = true ∧ (s.byId.lookup record.id).isNone = true then out.2.byFlow.size
      else s.stats.indexedFlows := by
  have hexit := inserted s record
  rw [hout] at hexit
  have hroom : s.makeRoom.stats.indexedFlows = s.stats.indexedFlows := by
    unfold makeRoom
    split_ifs
    · exact indexedFlows_evictFrom s.order s
    · rfl
  cases hexit with
  | known hstored => simp [Option.isSome_iff_ne_none.mp hstored]
  | rejected => exact (if_neg fun h => Bool.false_ne_true h.1).symm
  | full => exact hroom.trans (if_neg fun h => Bool.false_ne_true h.1).symm
  | placed hnew => exact (if_pos ⟨rfl, by rw [hnew]; rfl⟩).symm

end EvidenceStore

end Store

structure Gauges where
  live : ℕ
  activeContracts : ℕ
  indexedFlows : ℕ
  memoEntries : ℕ
deriving DecidableEq

attribute [ext] Gauges

namespace Classifier

def gauges (c : Classifier) : Gauges where
  live := c.publishers.stats.live
  activeContracts := c.workloads.stats.activeContracts
  indexedFlows := c.evidence.stats.indexedFlows
  memoEntries := c.decisions.memo.size

/-- What the gauges name. A flow has indexed evidence when its ring is not empty. -/
def sizes (c : Classifier) : Gauges where
  live := (c.publishers.publishers.values.filter fun p => p.state == .live).length
  activeContracts := (c.workloads.contracts.values.filter fun k => k.state == .active).length
  indexedFlows := (c.evidence.byFlow.values.filter fun ids => !ids.isEmpty).length
  memoEntries := c.decisions.memo.size

/-- The operation sweeps the registrations or clears all sessions. -/
def recountsLive (c : Classifier) : Operation → Bool
  | .expirePublisherLiveness _ => true
  | .advanceEpoch boot => (c.advanceEpoch boot).1.isOk
  | .restore image boot tick => (restore image c boot tick).1.isOk
  | _ => false

def recountsActive (c : Classifier) : Operation → Bool
  | .activateContract id caller tick =>
    (c.workloads.contracts.lookup id).any (·.state == .pending) &&
      (c.workloads.activateContract id caller tick).1.isOk
  | _ => false

def recountsIndexed (c : Classifier) : Operation → Bool
  | .submitEvidence envelope payload tick touchTick wall =>
    (c.submitEvidence envelope payload tick touchTick wall).1.toOption.any fun outcome =>
      (c.evidence.byId.lookup outcome.record.id).isNone
  | .restore image boot tick =>
    (restore image c boot tick).2.evidence.order.length != c.evidence.order.length
  | _ => false

/-- What the last recount of each gauge found; nothing before the first. -/
structure Recounted where
  live : ℕ := 0
  activeContracts : ℕ := 0
  indexedFlows : ℕ := 0

def recount (c : Classifier) (op : Operation) (last : Recounted) : Recounted where
  live := if c.recountsLive op then (c.step op).sizes.live else last.live
  activeContracts :=
    if c.recountsActive op then (c.step op).sizes.activeContracts else last.activeContracts
  indexedFlows :=
    if c.recountsIndexed op then (c.step op).evidence.byFlow.size else last.indexedFlows

def recounted (c : Classifier) (last : Recounted) : List Operation → Recounted
  | [] => last
  | op :: ops => (c.step op).recounted (c.recount op last) ops

theorem sizes_clearSessions (r : PublisherRegistry) :
    (r.clearSessions.publishers.values.filter fun p => p.state == .live).length = 0 := by
  rw [PublisherRegistry.clearSessions, FiniteMap.values_mapValues]
  simp [clearSession]

/-- The gauge moves where the source recounts it, and only there. -/
theorem liveGauge_step (c : Classifier) (op : Operation) :
    (c.step op).publishers.stats.live =
      if c.recountsLive op then (c.step op).sizes.live else c.publishers.stats.live := by
  cases op with
  | advanceEpoch boot =>
    rw [recountsLive, step, advanceEpoch]
    split
    · rfl
    · split
      · rfl
      · exact (sizes_clearSessions _).symm
  | expirePublisherLiveness tick =>
    rw [recountsLive, if_pos rfl, sizes, publishers_expirePublisherLiveness]
    rfl
  | restore image boot tick =>
    have hloop : (restoredPublishers image c tick).2.stats.live = c.publishers.stats.live := by
      let kept (r : PublisherRegistry) : Prop := r.stats.live = c.publishers.stats.live
      refine @andThen_invariant _ _ _ _ kept
        (tryEach_invariant kept (fun r record _ hr => ?_) rfl) fun _ hr => hr
      unfold PublisherRegistry.restoreRecord
      split_ifs <;> exact hr
    have hended := restored image c boot tick
    rw [recountsLive, step]
    generalize restore image c boot tick = out at hended
    cases hended with
    | done => exact (sizes_clearSessions _).symm
    | _ => exact hloop
  | _ => exact (steady_step c id).live

theorem activeGauge_step (c : Classifier) (op : Operation) :
    (c.step op).workloads.stats.activeContracts =
      if c.recountsActive op then (c.step op).sizes.activeContracts
      else c.workloads.stats.activeContracts := by
  by_cases hop : ∃ image boot tick, op = .restore image boot tick
  · obtain ⟨image, boot, tick, rfl⟩ := hop
    refine workloads_restore (W := fun r =>
      r.stats.activeContracts = c.workloads.stats.activeContracts) boot tick rfl ?_ ?_
    · intro r w hr
      unfold WorkloadRegistry.restoreWorkload
      split_ifs <;> exact hr
    · intro r k hr
      unfold WorkloadRegistry.restoreContract
      split_ifs <;> exact hr
  · have hcall := workloads_call c fun image boot tick heq => hop ⟨image, boot, tick, heq⟩
    rw [sizes, hcall]
    cases op with
    | activateContract id caller tick =>
      change (c.workloads.activateContract id caller tick).2.stats.activeContracts =
        if ((c.workloads.contracts.lookup id).any (·.state == .pending) &&
          (c.workloads.activateContract id caller tick).1.isOk) = true then _ else _
      rcases c.workloads.activateContract_recounts id caller tick with
        ⟨hkept, hgauge⟩ | ⟨hpending, hok, hgauge⟩
      · rw [hkept]
        exact hgauge
      · rw [hpending, hok]
        exact hgauge
    | declareWorkload | proposeContract | retireContract | retireWorkload =>
      show _ = c.workloads.stats.activeContracts
      dsimp only [workloadCall, Option.elim, WorkloadRegistry.call,
        WorkloadRegistry.declareWorkload, redeclare, WorkloadRegistry.proposeContract,
        storeProposal, WorkloadRegistry.retireContract, WorkloadRegistry.retireWorkload]
      repeat' split
      all_goals rfl
    | restore image boot tick => exact absurd ⟨image, boot, tick, rfl⟩ hop
    | _ => rfl

theorem indexedGauge_step (c : Classifier) (op : Operation) :
    (c.step op).evidence.stats.indexedFlows =
      if c.recountsIndexed op then (c.step op).evidence.byFlow.size
      else c.evidence.stats.indexedFlows := by
  by_cases hadds : AddsEvidence op
  · cases op with
    | submitEvidence envelope payload tick touchTick wall =>
      have hhanded := (submission c envelope payload tick touchTick wall).handed
      change (c.submitEvidence envelope payload tick touchTick wall).2.evidence.stats.indexedFlows =
        if ((c.submitEvidence envelope payload tick touchTick wall).1.toOption.any fun outcome =>
          (c.evidence.byId.lookup outcome.record.id).isNone) = true then
          (c.submitEvidence envelope payload tick touchTick wall).2.evidence.byFlow.size
        else _
      generalize c.submitEvidence envelope payload tick touchTick wall = out at hhanded
      obtain ⟨result, d⟩ := out
      dsimp only at hhanded ⊢
      generalize d.evidence = s at hhanded
      cases hhanded with
      | kept hreviewed => exact hreviewed.indexedFlows
      | refused hreviewed hinsert =>
        exact (EvidenceStore.indexedFlows_insert hinsert).trans hreviewed.indexedFlows
      | stored hreviewed hinsert =>
        have hgauge := EvidenceStore.indexedFlows_insert hinsert
        have hsome := hreviewed.isSome
        simp only [Except.toOption, Option.any_some, ← Option.not_isSome, ← hsome]
        simpa [Except.isOk, Except.toBool, ← hreviewed.indexedFlows] using hgauge
    | restore image boot tick =>
      have hrestored := @evidence_restore image c boot tick (fun s =>
        s.order.length = c.evidence.order.length ∧
            s.stats.indexedFlows = c.evidence.stats.indexedFlows ∨
          c.evidence.order.length < s.order.length ∧ s.stats.indexedFlows = s.byFlow.size)
        (Or.inl ⟨rfl, rfl⟩) ?_
      · dsimp only [step, recountsIndexed]
        rcases hrestored with ⟨hlength, hgauge⟩ | ⟨hlength, hgauge⟩
        · simpa [hlength] using hgauge
        · simpa [Nat.ne_of_gt hlength] using hgauge
      · intro s record _ hs
        unfold EvidenceStore.restoreRecord
        split_ifs
        · exact hs
        · exact hs
        · have horder : (s.indexFlow record.flowId record.id).order = s.order := by
            unfold EvidenceStore.indexFlow
            split <;> rfl
          refine Or.inr ⟨?_, rfl⟩
          simp only [horder, List.length_append, List.length_singleton]
          rcases hs with ⟨hlength, -⟩ | ⟨hlength, -⟩ <;> omega
    | _ => exact hadds.elim
  · rw [((framed_step c op).evidence hadds).indexedFlows]
    cases op with
    | submitEvidence | restore => exact absurd trivial hadds
    | _ => rfl

/-- Along a run the gauges show the last recounts. -/
theorem gauges_run (ops : List Operation) (c : Classifier) (last : Recounted)
    (hlive : c.gauges.live = last.live)
    (hactive : c.gauges.activeContracts = last.activeContracts)
    (hindexed : c.gauges.indexedFlows = last.indexedFlows) :
    let after := run step c ops
    let recounts := c.recounted last ops
    after.gauges = ⟨recounts.live, recounts.activeContracts, recounts.indexedFlows,
      after.sizes.memoEntries⟩ := by
  induction ops generalizing c last with
  | nil => exact Gauges.ext hlive hactive hindexed rfl
  | cons op ops ih =>
    refine ih (c.step op) (c.recount op last) ?_ ?_ ?_
    · exact (liveGauge_step c op).trans (by rw [recount, ← hlive]; rfl)
    · exact (activeGauge_step c op).trans (by rw [recount, ← hactive]; rfl)
    · exact (indexedGauge_step c op).trans (by rw [recount, ← hindexed]; rfl)

/-- In every state reached the gauges name the sizes of the state exactly when the live
publishers, the active contracts and the flows with indexed evidence are as many as the last
recount of each found. -/
theorem gauges_right_iff (options : ClassifierOptions) (ops : List Operation) :
    let c := run step (Classifier.new options) ops
    let last := (Classifier.new options).recounted {} ops
    c.gauges = c.sizes ↔ c.sizes.live = last.live ∧
      c.sizes.activeContracts = last.activeContracts ∧
      c.sizes.indexedFlows = last.indexedFlows := by
  intro c last
  have hrun := gauges_run ops (Classifier.new options) {} rfl rfl rfl
  dsimp only at hrun
  rw [hrun, Gauges.ext_iff]
  constructor
  · rintro ⟨hlive, hactive, hindexed, -⟩
    exact ⟨hlive.symm, hactive.symm, hindexed.symm⟩
  · rintro ⟨hlive, hactive, hindexed⟩
    exact ⟨hlive.symm, hactive.symm, hindexed.symm, rfl⟩

/-- A publisher has registered. It is LIVE, and the gauge shows no live publisher. -/
theorem live_gauge_behind :
    let c := run step (Classifier.new {}) [.registerPublisher (.make (text "agent")) 2
      .declaredAuthenticated (.make (text "s1")) [] 2 0]
    c.gauges.live = 0 ∧ c.sizes.live = 1 ∧ c.gauges ≠ c.sizes := by
  decide +kernel

end Classifier

end FlowClassifier
