import FlowClassifier.Consistency

/-!
A restart: the durable image of a classifier is restored into a newly built one. A restore
that succeeds has taken every entry of the image, so the new classifier is consistent
again: the generations used before are used, contracts are bound to the restored
workloads, and every evidence record is the stored one in a state other than CURRENT.
-/
namespace FlowClassifier

open Lib Foundation Workloads Store PublisherRegistry EvidenceStore FiniteMap

namespace Classifier

/-- The five loops of a successful restore, and the state they add up to. -/
theorem restore_ok {image : DurableState} {c c' : Classifier} {boot : CoordinatorBootId}
    {tick : Tick} (h : restore image c boot tick = (.ok (), c')) :
    let publishers := c.publishers.restoreRecords image.publishers tick
    let declared := tryEach WorkloadRegistry.restoreWorkload c.workloads image.workloads
    let workloads := tryEach WorkloadRegistry.restoreContract declared.2 image.contracts
    let flows := tryEach FlowRegistry.restoreFlow c.flows image.flows
    let evidence := tryEach EvidenceStore.restoreRecord c.evidence image.evidence
    publishers.1 = .ok () ∧ declared.1 = .ok () ∧
      c' = { restoreDecisions image c with
        coordinatorBoot := boot
        epoch := if image.epoch > c.epoch then image.epoch else c.epoch
        sequence := c.sequence.observe image.sequenceHighWater
        publishers := publishers.2.clearSessions
        workloads := workloads.2
        flows := flows.2
        evidence := evidence.2 } := by
  have hrestored := restored image c boot tick
  rw [h] at hrestored
  cases hrestored with
  | done hpublishers hworkloads => exact ⟨hpublishers, hworkloads, rfl⟩

theorem restoreWorkload_cases (r : WorkloadRegistry) (record : WorkloadRecord) :
    (∃ e, r.restoreWorkload record = (.error e, r)) ∨ r.restoreWorkload record =
      (.ok (), { r with workloads := r.workloads.insert record.id record }) := by
  unfold WorkloadRegistry.restoreWorkload
  split_ifs
  · exact Or.inl ⟨_, rfl⟩
  · exact Or.inr rfl

/-- All workloads of the image are there, and each is stored under its own identity. -/
theorem restoreWorkload_loop {r r' : WorkloadRegistry} (hr : r.Coherent)
    (hnew : ∀ id w, r'.workloads.lookup id = some w → w.id = id)
    (hok : (tryEach WorkloadRegistry.restoreWorkload r' r.snapshotWorkloads).1 = .ok ()) :
    let declared := (tryEach WorkloadRegistry.restoreWorkload r' r.snapshotWorkloads).2
    (∀ id w, declared.workloads.lookup id = some w → w.id = id) ∧
      (∀ id w, r.workloads.lookup id = some w → declared.workloads.lookup id = some w) ∧
      declared.contracts = r'.contracts := by
  have hdistinct : r.snapshotWorkloads.Pairwise fun a b => a.id ≠ b.id :=
    pairwise_sorted_values WorkloadRecord.id hr.workload_id _
  refine ⟨?_, ?_, ?_⟩
  · refine tryEach_invariant
      (fun s : WorkloadRegistry => ∀ id w, s.workloads.lookup id = some w → w.id = id)
      (fun s x _ hs => ?_) hnew
    rcases restoreWorkload_cases s x with ⟨e, he⟩ | he
    · rw [he]
      exact hs
    · rw [he]
      intro id w hw
      rw [lookup_insert_eq] at hw
      split_ifs at hw with hid
      · cases hw
        exact hid.symm
      · exact hs id w hw
  · intro id w hw
    have hall := tryEach_done (fun x (s : WorkloadRegistry) => s.workloads.lookup x.id = some x)
      ?_ ?_ hdistinct hok
      w (mem_sorted_values.mpr ⟨id, hw⟩)
    · rwa [hr.workload_id id w hw] at hall
    · intro s x hx
      rcases restoreWorkload_cases s x with ⟨e, he⟩ | he
      · rw [he] at hx
        cases hx
      · rw [he]
        exact AList.lookup_insert _
    · intro s x y hne hx
      rcases restoreWorkload_cases s y with ⟨e, he⟩ | he
      · rw [he]
        exact hx
      · rw [he]
        exact (AList.lookup_insert_ne hne).trans hx
  · refine tryEach_invariant (fun s : WorkloadRegistry => s.contracts = r'.contracts)
      (fun s x _ hs => ?_) rfl
    rcases restoreWorkload_cases s x with ⟨e, he⟩ | he
    · rw [he]
      exact hs
    · rw [he]
      exact hs

/-- A restored contract is one of the image, with its digest computed anew. -/
theorem restoreContract_loop (r : WorkloadRegistry) (contracts : List WorkloadContract)
    (hnew : ∀ id, r.contracts.lookup id = none) :
    let r' := (tryEach WorkloadRegistry.restoreContract r contracts).2
    r'.workloads = r.workloads ∧
      ∀ id k', r'.contracts.lookup id = some k' → ∃ k ∈ contracts, k.id = id ∧
        k' = { k with definitionDigest := computeContractDigest k } := by
  refine tryEach_invariant (fun s : WorkloadRegistry => s.workloads = r.workloads ∧
    ∀ id k', s.contracts.lookup id = some k' → ∃ k ∈ contracts, k.id = id ∧
      k' = { k with definitionDigest := computeContractDigest k }) ?_ ⟨rfl, ?_⟩
  · intro s k hk hs
    unfold WorkloadRegistry.restoreContract
    split_ifs
    · exact hs
    · exact hs
    · refine ⟨hs.1, fun id k' hk' => ?_⟩
      rw [lookup_insert_eq] at hk'
      split_ifs at hk' with hid
      · cases hk'
        exact ⟨k, hk, hid.symm, rfl⟩
      · exact hs.2 id k' hk'
  · intro id k' hk'
    rw [hnew] at hk'
    cases hk'

/-- The workloads and contracts of a coherent registry are coherent again after a
restart, and its contracts are the old ones. -/
theorem coherent_restore {r r' : WorkloadRegistry} (hr : r.Coherent)
    (hworkloads : ∀ id, r'.workloads.lookup id = none)
    (hcontracts : ∀ id, r'.contracts.lookup id = none)
    (hok : (tryEach WorkloadRegistry.restoreWorkload r' r.snapshotWorkloads).1 = .ok ()) :
    let declared := (tryEach WorkloadRegistry.restoreWorkload r' r.snapshotWorkloads).2
    let restored := (tryEach WorkloadRegistry.restoreContract declared r.snapshotContracts).2
    restored.Coherent ∧
      ∀ id k, restored.contracts.lookup id = some k → r.contracts.lookup id = some k := by
  intro declared restored
  obtain ⟨hkeyed, hkept, hsame⟩ := restoreWorkload_loop hr
    (by intro id w hw; rw [hworkloads] at hw; cases hw) hok
  obtain ⟨hdeclared, horigin⟩ := restoreContract_loop declared r.snapshotContracts
    (by intro id; rw [hsame]; exact hcontracts id)
  have hold : ∀ id k, restored.contracts.lookup id = some k → r.contracts.lookup id = some k := by
    intro id k' hk'
    obtain ⟨k, hk, hid, hdigest⟩ := horigin id k' hk'
    obtain ⟨j, hj⟩ := mem_sorted_values.mp hk
    rw [← hr.digest j k hj] at hdigest
    rw [← hid, hr.contract_id j k hj, hj, hdigest]
  refine ⟨⟨?_, ?_, ?_, ?_⟩, hold⟩
  · rw [hdeclared]
    exact hkeyed
  · exact fun id k hk => hr.contract_id id k (hold id k hk)
  · exact fun id k hk => hr.digest id k (hold id k hk)
  · intro id k hk hactive
    obtain ⟨w, hw, hgen⟩ := hr.active id k (hold id k hk) hactive
    rw [hdeclared]
    exact ⟨w, hkept _ w hw, hgen⟩

theorem flowsKeyed_restore {scope : HashScope} {r r' : FlowRegistry} (hr : FlowsKeyed scope r)
    (hr' : FlowsKeyed scope r') :
    FlowsKeyed scope (tryEach FlowRegistry.restoreFlow r' r.snapshotFlows).2 := by
  refine tryEach_invariant (FlowsKeyed scope) (fun s f hf hs => ?_) hr'
  obtain ⟨key, hkey⟩ := mem_sorted_values.mp hf
  obtain ⟨hfkey, hid, hscope⟩ := hr key f hkey
  rw [← hfkey] at hid hscope
  rcases s.current_restoreFlow f with hsame | hplaced
  · unfold FlowsKeyed
    rwa [hsame]
  · exact flowsKeyed_insert hs hscope hplaced ⟨rfl, hid⟩

/-- A restored record is one of the image in a state other than CURRENT. -/
theorem restoreEvidence_loop {s s' : EvidenceStore} (hs : s.Indexed s.order)
    (hs' : s'.Indexed s'.order) (hnew : ∀ id, s'.byId.lookup id = none) :
    let restored := (tryEach EvidenceStore.restoreRecord s' s.snapshotRecords).2
    restored.Indexed restored.order ∧
      ∀ id r', restored.byId.lookup id = some r' →
        ∃ r, s.byId.lookup id = some r ∧ r' = reloaded r := by
  refine tryEach_invariant (fun t : EvidenceStore => t.Indexed t.order ∧
    ∀ id r', t.byId.lookup id = some r' →
      ∃ r, s.byId.lookup id = some r ∧ r' = reloaded r) ?_ ⟨hs', ?_⟩
  · intro t r hr ht
    refine ⟨EvidenceStore.indexed_restoreRecord ht.1 r, ?_⟩
    rcases restoreRecord_cases t r with ⟨e, -, hsame⟩ | ⟨-, -, hbyId, -⟩
    · rw [hsame]
      exact ht.2
    · intro id r' hr'
      rw [hbyId, lookup_insert_eq] at hr'
      split_ifs at hr' with hid
      · cases hr'
        obtain ⟨j, hj⟩ := mem_sorted_values.mp hr
        rw [hid, hs.keyed j r hj]
        exact ⟨r, hj, rfl⟩
      · exact ht.2 id r' hr'
  · intro id r' hr'
    rw [hnew] at hr'
    cases hr'

theorem restoreDecisions_memo (image : DurableState) (c : Classifier) :
    (restoreDecisions image c).decisions.memo = c.decisions.memo := by
  have hfold : ∀ {α : Type} {f : ClassificationIndex → α → ClassificationIndex},
      (∀ d x, (f d x).memo = d.memo) → ∀ (xs : List α) d, (xs.foldl f d).memo = d.memo := by
    intro α f hf xs
    induction xs with
    | nil => exact fun d => rfl
    | cons x rest ih => exact fun d => (ih _).trans (hf d x)
  calc (restoreDecisions image c).decisions.memo
    _ = _ := hfold (by intros; rfl) image.supersessions _
    _ = _ := hfold (by intros; rfl) image.revocations _
    _ = c.decisions.memo := hfold (by intros; rfl) image.classifications _

/-- A restore brings no entry of the memo back and drops none. -/
theorem memo_restore (image : DurableState) (c : Classifier) (boot : CoordinatorBootId)
    (tick : Tick) : (restore image c boot tick).2.decisions.memo = c.decisions.memo := by
  have hended := restored image c boot tick
  generalize restore image c boot tick = out at hended
  cases hended with
  | done => exact restoreDecisions_memo image (opened image c boot)
  | _ => rfl

section Restart

variable {scope : HashScope} {c c' : Classifier} {options : ClassifierOptions}
  {boot : CoordinatorBootId} {tick : Tick}

/-- Every record of the restarted classifier is a stored one that is no longer CURRENT. -/
theorem evidence_of_restart (hindexed : c.evidence.Indexed c.evidence.order)
    (h : restore c.durableState (.new options) boot tick = (.ok (), c')) :
    c'.evidence.Indexed c'.evidence.order ∧ ∀ id r', c'.evidence.byId.lookup id = some r' →
        ∃ r, c.evidence.byId.lookup id = some r ∧ r' = reloaded r := by
  obtain ⟨-, -, hstate⟩ := restore_ok h
  rw [hstate]
  exact restoreEvidence_loop hindexed (indexed_new options) fun _ => rfl

/-- A generation used before the restart stays used. -/
theorem marked_of_restart (hc : Consistent scope c)
    (h : restore c.durableState (.new options) boot tick = (.ok (), c')) {id : PublisherId}
    {boot' : PublisherBootId} {generation : EvidenceGeneration}
    (hmarked : c.publishers.Marked id boot' generation) :
    c'.publishers.Marked id boot' generation := by
  obtain ⟨hpublishers, -, hstate⟩ := restore_ok h
  have hkeyed := wellKeyed_restoreRecords (consistent_new scope options).publishers
    c.publishers.snapshotRecords tick
  rw [hstate]
  exact (advances_clearSessions _ hkeyed).2 _ _ _
    (marked_restoreRecords hc.publishers hpublishers hmarked)

theorem consistent_restart (hc : Consistent scope c)
    (h : restore c.durableState (.new options) boot tick = (.ok (), c')) : Consistent scope c' := by
  have hnew := consistent_new scope options
  obtain ⟨hindexed, hevidence⟩ := evidence_of_restart hc.indexed h
  obtain ⟨-, hdeclared, hstate⟩ := restore_ok h
  obtain ⟨hcoherent, hcontracts⟩ := coherent_restore hc.workloads (fun _ => rfl) (fun _ => rfl)
    hdeclared
  have hkeyed := wellKeyed_restoreRecords hnew.publishers c.publishers.snapshotRecords tick
  refine ⟨?_, ?_, hindexed, ?_, ?_, ?_⟩
  · rw [hstate]
    exact flowsKeyed_restore hc.flows hnew.flows
  · rw [hstate]
    exact (advances_clearSessions _ hkeyed).1
  · intro id r' hr'
    obtain ⟨r, hr, rfl⟩ := hevidence id r' hr'
    have hw := weakens_reloaded r
    obtain ⟨hrecorded, hused⟩ := hc.recorded id r hr
    refine ⟨hrecorded.weakens hw, ?_⟩
    rw [hw.submission]
    exact marked_of_restart hc h hused
  · rw [hstate]
    exact hcoherent
  · intro id k hk
    rw [hstate] at hk
    exact hc.defined id k (hcontracts id k hk)

end Restart

end Classifier
end FlowClassifier
