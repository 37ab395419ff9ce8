import FlowClassifier.Store.ContractLifecycle
import FlowClassifier.Store.DecisionHistory
import FlowClassifier.Store.FlowHistory
import FlowClassifier.Store.Refilling

/-!
What holds of the stores whatever was restored into them. Records are kept under their own
keys, so a snapshot lists every key once; contracts carry the digest of their content and
are no more than the registry and the hard limits allow; the recorded decisions are decisions
of the engine, except that a decision may have been marked stale.
-/
namespace FlowClassifier.Store

open Lib Foundation Flows Workloads Classifications FiniteMap

namespace WorkloadRegistry

/-- Like `Coherent`, without the binding of active contracts, which an image may break. -/
structure Digested (r : WorkloadRegistry) : Prop where
  workload_id : ∀ id w, r.workloads.lookup id = some w → w.id = id
  contract_id : ∀ id k, r.contracts.lookup id = some k → k.id = id
  digest : ∀ id k, r.contracts.lookup id = some k → k.definitionDigest = computeContractDigest k
  room : r.contracts.size ≤ r.maxContracts.toNat
  bounded : r.maxContracts.toNat ≤ 1048576

section Calls

variable {r r' : WorkloadRegistry}

theorem Digested.keyed (h : r.Digested) : r.Keyed := ⟨h.workload_id, h.contract_id, h.digest⟩

/-- No call changes the bounds. -/
theorem maxContracts_call (r : WorkloadRegistry) (op : WorkloadCall) :
    (r.call op).maxContracts = r.maxContracts := by
  cases op with
  | declareWorkload | retireWorkload | proposeContract | activateContract | retireContract =>
    dsimp only [call, declareWorkload, redeclare, retireWorkload, proposeContract, storeProposal,
      activateContract, retireContract]
    repeat' split
    all_goals rfl

theorem digested_call (h : r.Digested) (op : WorkloadCall) : (r.call op).Digested := by
  have hexit := exit r op
  obtain ⟨hworkload, hcontract, hdigest⟩ := hexit.keyed h.keyed
  refine ⟨hworkload, hcontract, hdigest, ?_, by rw [maxContracts_call]; exact h.bounded⟩
  rw [maxContracts_call]
  rcases hexit.moves h.contract_id with hmoves | ⟨c, tick, -, hfree, -, hroom, hc⟩
  · have hsize : (r.call op).contracts.size = r.contracts.size := by
      apply size_eq_of_isSome
      intro id
      rcases hmoves id with ⟨hnone, hnone'⟩ | ⟨k, k', hk, hk', -⟩
      · rw [hnone, hnone']
      · rw [hk, hk']
        rfl
    rw [hsize]
    exact h.room
  · rw [hc, size_insert_of_lookup_none hfree]
    exact hroom

theorem digested_restoreWorkload (h : r.Digested) (record : WorkloadRecord) :
    (r.restoreWorkload record).2.Digested := by
  unfold restoreWorkload
  split_ifs
  · exact h
  · exact ⟨workload_id_insert h.workload_id rfl rfl, h.contract_id, h.digest, h.room, h.bounded⟩

theorem digested_restoreContract (h : r.Digested) (c : WorkloadContract) :
    (r.restoreContract c).2.Digested := by
  unfold restoreContract
  split_ifs with hfull hdigest
  · exact h
  · exact h
  · refine ⟨h.workload_id, ?_, ?_, ?_, h.bounded⟩
    · intro id k hk
      dsimp only at hk
      rw [lookup_insert_eq] at hk
      split_ifs at hk with hid
      · cases hk
        exact hid.symm
      · exact h.contract_id id k hk
    · intro id k hk
      dsimp only at hk
      rw [lookup_insert_eq] at hk
      split_ifs at hk
      · cases hk
        rfl
      · exact h.digest id k hk
    · exact size_insert_le h.room hfull _

end Calls

end WorkloadRegistry

namespace FlowRegistry

def Keyed (r : FlowRegistry) : Prop :=
  ∀ key f, r.current.lookup key = some f → f.key = key

section Keyed

variable {r r' : FlowRegistry}

theorem Keyed.insert (h : r.Keyed) {key : FlowKey} {f : FlowRecord}
    (hcurrent : r'.current = r.current.insert key f) (hf : f.key = key) : r'.Keyed := by
  intro key' f' hf'
  rw [hcurrent, lookup_insert_eq] at hf'
  split_ifs at hf' with hkey
  · cases hf'
    rw [hf, hkey]
  · exact h key' f' hf'

theorem keyed_registerFlow (h : r.Keyed) (key : FlowKey) (requested : FlowGeneration)
    (session : SessionId) (tick : Tick) : (r.registerFlow key requested session tick).2.Keyed := by
  rcases registerFlow_inserts r key requested session tick with
    hsame | ⟨f, hinsert, -, hkey | ⟨g, hg, hkey⟩⟩
  · unfold Keyed
    rwa [hsame]
  · exact h.insert hinsert hkey
  · exact h.insert hinsert (hkey.trans (h key g hg))

theorem keyed_restoreFlow (h : r.Keyed) (record : FlowRecord) : (r.restoreFlow record).2.Keyed := by
  rcases r.current_restoreFlow record with hsame | hplaced
  · unfold Keyed
    rwa [hsame]
  · exact h.insert hplaced rfl

end Keyed

end FlowRegistry

namespace ClassificationIndex

def Recorded (P : Classification → Prop) (d : ClassificationIndex) : Prop :=
  ∀ flow history, d.history.lookup flow = some history → ∀ c ∈ history.decisions, P c

def RecordedUnder (P : FlowId → Classification → Prop) (d : ClassificationIndex) : Prop :=
  ∀ flow history, d.history.lookup flow = some history → ∀ c ∈ history.decisions, P flow c

section Recorded

variable {c : Classification}

variable {P : FlowId → Classification → Prop} {d d' : ClassificationIndex}

theorem RecordedUnder.of_history (h : d.RecordedUnder P) (hsame : d'.history = d.history) :
    d'.RecordedUnder P := by
  rw [RecordedUnder, hsame]
  exact h

theorem RecordedUnder.historyOf (h : d.RecordedUnder P) (flow : FlowId) :
    ∀ c ∈ (d.historyOf flow).decisions, P flow c := by
  intro c hc
  unfold ClassificationIndex.historyOf at hc
  cases hflow : d.history.lookup flow with
  | none =>
    rw [hflow] at hc
    cases hc
  | some history =>
    rw [hflow] at hc
    exact h flow history hflow c hc

theorem RecordedUnder.insert (h : d.RecordedUnder P) {flow : FlowId} {history : FlowHistory}
    (hhistory : d'.history = d.history.insert flow history)
    (hnew : ∀ c ∈ history.decisions, P flow c) : d'.RecordedUnder P := by
  intro flow' history' hlookup
  rw [hhistory, lookup_insert_eq] at hlookup
  split_ifs at hlookup with hsame
  · cases hlookup
    subst hsame
    exact hnew
  · exact h flow' history' hlookup

theorem mem_lastEntries_concat (h : d.RecordedUnder P) {x : Classification}
    (hc : P c.flowId c) {bound : ℕ}
    (hx : x ∈ lastEntries bound ((d.historyOf c.flowId).decisions ++ [c])) : P c.flowId x := by
  rcases List.mem_append.mp (List.mem_of_mem_drop hx) with hold | hlast
  · exact h.historyOf c.flowId x hold
  · rw [List.mem_singleton.mp hlast]
    exact hc

theorem recorded_record (h : d.RecordedUnder P) (hc : P c.flowId c) :
    (d.record c).2.RecordedUnder P :=
  h.insert rfl fun _ => mem_lastEntries_concat h hc

theorem recorded_restoreClassification (h : d.RecordedUnder P)
    (hc : P c.flowId c) : (d.restoreClassification c).RecordedUnder P :=
  h.insert rfl fun _ => mem_lastEntries_concat h hc

/-- Decisions of the flow below the new generation are marked and nothing else changes, so
the property may become another one that spares what was marked. -/
theorem recorded_supersedeGeneration {Q : FlowId → Classification → Prop}
    (h : d.RecordedUnder P) {flow : FlowId} {supersededBy : FlowGeneration}
    (hmarked : ∀ c, P flow c → Q flow { c with state := .stale })
    (hkept : ∀ c, P flow c → supersedes supersededBy c = false → Q flow c)
    (hother : ∀ flow' c, flow' ≠ flow → P flow' c → Q flow' c) :
    (d.supersedeGeneration flow supersededBy).2.RecordedUnder Q := by
  unfold supersedeGeneration
  cases hflow : d.history.lookup flow with
  | none =>
    intro flow' history' hlookup c hc
    refine hother flow' c ?_ (h flow' history' hlookup c hc)
    rintro rfl
    rw [hflow] at hlookup
    cases hlookup
  | some history =>
    intro flow' history' hlookup x hx
    dsimp only at hlookup
    rw [lookup_insert_eq] at hlookup
    split_ifs at hlookup with hsame
    · cases hlookup
      subst hsame
      obtain ⟨c, hc, rfl⟩ := List.mem_map.mp hx
      split_ifs with hsupersedes
      · exact hmarked c (h _ history hflow c hc)
      · exact hkept c (h _ history hflow c hc) (Bool.not_eq_true _ ▸ hsupersedes)
    · exact hother flow' x hsame (h flow' history' hlookup x hx)

theorem history_evictMemo (d : ClassificationIndex) (order : List Bytes) :
    (d.evictMemo order).history = d.history := by
  induction order generalizing d with
  | nil => rfl
  | cons oldest rest ih =>
    rw [evictMemo]
    split_ifs
    · exact ih _
    · exact ih _
    · rfl

theorem history_memoStore (d : ClassificationIndex) (key : DecisionKey) (c : Classification) :
    (d.memoStore key c).history = d.history := by
  unfold memoStore
  dsimp only
  split_ifs
  · rfl
  · exact history_evictMemo _ _
  · exact history_evictMemo _ _
  · rfl

theorem mem_snapshotClassifications : c ∈ d.snapshotClassifications ↔
      ∃ flow history, d.history.lookup flow = some history ∧ c ∈ history.decisions := by
  unfold snapshotClassifications
  rw [List.mem_insertionSort, List.mem_flatMap]
  constructor
  · rintro ⟨history, hhistory, hmem⟩
    obtain ⟨flow, hlookup⟩ := mem_values.mp hhistory
    exact ⟨flow, history, hlookup, hmem⟩
  · rintro ⟨flow, history, hlookup, hmem⟩
    exact ⟨history, mem_values.mpr ⟨flow, hlookup⟩, hmem⟩

end Recorded

end ClassificationIndex

end FlowClassifier.Store
