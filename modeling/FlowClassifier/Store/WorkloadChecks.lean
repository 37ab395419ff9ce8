import FlowClassifier.Store.WorkloadCalls

/-!
What the checks of the workload registry guarantee. A refused call leaves every record as it
was, except that a declaration repeated for a retired workload replaces its description
first. A proposal may pass every check and still cover no flow: the checks count a port as a
scope, while the matching takes an empty list of remote addresses for no address at all.
-/
namespace FlowClassifier.Store

open Lib Foundation Workloads

namespace WorkloadRegistry

def refuses (r : WorkloadRegistry) : WorkloadCall → Bool
  | .declareWorkload id owner generation tick description =>
    !(r.declareWorkload id owner generation tick description).1.isOk
  | .retireWorkload id generation tick => !(r.retireWorkload id generation tick).1.isOk
  | .proposeContract contract tick => !(r.proposeContract contract tick).1.isOk
  | .activateContract id caller tick => !(r.activateContract id caller tick).1.isOk
  | .retireContract id caller tick => !(r.retireContract id caller tick).1.isOk

def SameRecords (r r' : WorkloadRegistry) : Prop :=
  (∀ id, r'.workloads.lookup id = r.workloads.lookup id) ∧
    ∀ id, r'.contracts.lookup id = r.contracts.lookup id

/-- The owner repeats the declaration of a retired workload with another description. -/
def RedescribesRetired (r : WorkloadRegistry) : WorkloadCall → Prop
  | .declareWorkload id owner generation _ description =>
    id.isEmpty = false ∧ generation ≠ 0 ∧ description.isEmpty = false ∧
      ∃ w, r.workloads.lookup id = some w ∧ w.owner = owner ∧ w.generation = generation ∧
        w.state = .retired ∧ w.description ≠ description
  | _ => False

section Calls

variable (r : WorkloadRegistry)

theorem sameRecords_of_eq {r r' : WorkloadRegistry} (hw : r'.workloads = r.workloads)
    (hc : r'.contracts = r.contracts) : SameRecords r r' :=
  ⟨fun id => by rw [hw], fun id => by rw [hc]⟩

theorem sameRecords_insert_iff {id : WorkloadId} {w w' : WorkloadRecord}
    (hrecord : r.workloads.lookup id = some w) :
    SameRecords r { r with workloads := r.workloads.insert id w' } ↔ w' = w := by
  constructor
  · intro h
    have hid := h.1 id
    rw [FiniteMap.lookup_insert_eq, if_pos rfl, hrecord] at hid
    exact Option.some.inj hid
  · rintro rfl
    refine ⟨fun i => ?_, fun _ => rfl⟩
    rw [FiniteMap.lookup_insert_eq]
    split_ifs with hi
    · rw [hi, hrecord]
    · rfl

/-- Only the exit that replaces the description refuses and changes a record. -/
theorem redeclare_refuses_iff {id : WorkloadId} {w : WorkloadRecord} {owner : PublisherId}
    {generation : WorkloadGeneration} (tick : Tick) {description : Bytes}
    (hrecord : r.workloads.lookup id = some w) :
    ((r.redeclare id w owner generation tick description).1.isOk = false →
      SameRecords r (r.redeclare id w owner generation tick description).2) ↔
      ¬ (w.owner = owner ∧ w.generation = generation ∧ w.state = .retired ∧
        description.isEmpty = false ∧ w.description ≠ description) := by
  dsimp only [redeclare]
  by_cases howner : owner ≠ w.owner
  · rw [if_pos howner]
    exact iff_of_true (fun _ => sameRecords_of_eq rfl rfl) fun h => howner h.1.symm
  rw [if_neg howner]
  by_cases hlow : generation < w.generation
  · rw [if_pos hlow]
    exact iff_of_true (fun _ => sameRecords_of_eq rfl rfl) fun h => hlow.ne' h.2.1
  rw [if_neg hlow]
  by_cases hrepeat : generation = w.generation
  · rw [if_pos hrepeat]
    by_cases hretired : w.state = .retired
    · rw [if_pos hretired]
      refine (forall_prop_of_true rfl).trans ((sameRecords_insert_iff r hrecord).trans ?_)
      by_cases hempty : description.isEmpty = true
      · simp [hempty]
      · have hsame : { w with description := description } = w ↔ description = w.description :=
          ⟨fun h => congrArg WorkloadRecord.description h, fun h => by rw [h]⟩
        rw [if_neg hempty, hsame]
        simp [not_not.mp howner, hrepeat, hretired, hempty, eq_comm]
    · rw [if_neg hretired]
      exact iff_of_true nofun fun h => hretired h.2.2.1
  · rw [if_neg hrepeat]
    exact iff_of_true nofun fun h => hrepeat h.2.1.symm

theorem Exit.refused {r r' : WorkloadRegistry} {op : WorkloadCall} (h : Exit r op r')
    (hrefused : r.refuses op = true) : SameRecords r r' ∨ ∃ id owner generation tick description,
        op = .declareWorkload id owner generation tick description := by
  cases h with
  | unchanged hw hc => exact Or.inl (sameRecords_of_eq hw hc)
  | described | created | advanced => exact Or.inr ⟨_, _, _, _, _, rfl⟩
  | workloadRetired _ hok => simp [refuses, hok, Except.isOk, Except.toBool] at hrefused
  | contractProposed _ _ _ _ _ _ _ hok =>
    simp [refuses, hok, Except.isOk, Except.toBool] at hrefused
  | activated _ _ _ _ _ _ hok => simp [refuses, hok, Except.isOk, Except.toBool] at hrefused
  | contractRetired _ hok => simp [refuses, hok, Except.isOk, Except.toBool] at hrefused

/-- What a refused call leaves as it was, and the one case where it does not. -/
theorem refused_call_keeps_records (op : WorkloadCall) :
    (r.refuses op = true → SameRecords r (r.call op)) ↔ ¬ r.RedescribesRetired op := by
  cases op with
  | declareWorkload id owner generation tick description =>
    simp only [refuses, call, RedescribesRetired, declareWorkload, Bool.not_eq_true']
    by_cases hempty : id.isEmpty = true
    · rw [if_pos hempty]
      exact iff_of_true (fun _ => sameRecords_of_eq rfl rfl) fun h => by simp [hempty] at h
    rw [if_neg hempty]
    by_cases hzero : generation = 0
    · rw [if_pos hzero]
      exact iff_of_true (fun _ => sameRecords_of_eq rfl rfl) fun h => h.2.1 hzero
    rw [if_neg hzero]
    cases hrecord : r.workloads.lookup id with
    | none =>
      refine iff_of_true ?_ ?_
      · dsimp only
        split_ifs
        · exact fun _ => sameRecords_of_eq rfl rfl
        · intro h
          cases h
      · rintro ⟨_, _, _, _, h, _⟩
        cases h
    | some w =>
      refine (redeclare_refuses_iff r tick hrecord).trans (not_congr ?_)
      simp only [Option.some.injEq, exists_eq_left', hempty]
      tauto
  | _ =>
    refine iff_of_true (fun h => ?_) id
    obtain hsame | ⟨_, _, _, _, _, hdeclares⟩ := (exit r _).refused h
    · exact hsame
    · cases hdeclares

end Calls

/-- The retired workload gets the description that came with the refused declaration. -/
theorem refused_declaration_redescribes :
    let id : WorkloadId := .make (text "w")
    let w : WorkloadRecord :=
      { id := id, owner := .make (text "pub-a"), generation := 1, state := .retired }
    let r : WorkloadRegistry :=
      { workloads := (∅ : FiniteMap _ _).insert id w, maxWorkloads := 4, maxContracts := 4,
        maxPendingContracts := 4 }
    let op : WorkloadCall := .declareWorkload id (.make (text "pub-a")) 1 2 (text "other")
    r.refuses op = true ∧
      ∃ w', (r.call op).workloads.lookup id = some w' ∧ w'.description ≠ w.description := by
  decide +kernel

/-- A contract that lists no address matches none. -/
theorem exists_contractCovers_iff (c : WorkloadContract) : (∃ key, contractCovers c key = true) ↔
      c.matchAnyRemoteAddress = true ∨ c.remoteScope ≠ [] := by
  simp only [contractCovers, Bool.and_eq_true, Bool.or_eq_true, beq_iff_eq, List.isEmpty_iff,
    List.contains_iff_mem]
  constructor
  · rintro ⟨key, ⟨-, hremote⟩, -⟩
    exact hremote.imp_right List.ne_nil_of_mem
  · intro hscope
    obtain ⟨remote, hremote⟩ :
        ∃ remote, c.matchAnyRemoteAddress = true ∨ remote ∈ c.remoteScope := by
      rcases hscope with hany | hsome
      · exact ⟨⟨.replicate 16 0⟩, Or.inl hany⟩
      · obtain ⟨remote, hmem⟩ := List.exists_mem_of_ne_nil _ hsome
        exact ⟨remote, Or.inr hmem⟩
    obtain ⟨port, hport⟩ : ∃ port, c.localPortScope = [] ∨ port ∈ c.localPortScope := by
      rcases List.eq_nil_or_concat c.localPortScope with hnone | ⟨ports, port, hports⟩
      · exact ⟨0, Or.inl hnone⟩
      · exact ⟨port, Or.inr (by simp [hports])⟩
    exact ⟨⟨remote, remote, port, c.remotePort, c.transport⟩,
      ⟨⟨Or.inr rfl, Or.inr rfl⟩, hremote⟩, hport⟩

/-- An accepted contract covers some flow exactly when it matches any remote address or names
one. -/
theorem accepted_contract_covers_iff {r r' : WorkloadRegistry} {c stored : WorkloadContract}
    {tick : Tick} (h : r.proposeContract c tick = (.ok stored, r')) :
    (∃ key, contractCovers stored key = true) ↔
      c.matchAnyRemoteAddress = true ∨ c.remoteScope ≠ [] := by
  have hstored : stored = proposed c tick := by
    unfold proposeContract storeProposal at h
    grind [Status.failure]
  rw [hstored]
  exact exists_contractCovers_iff (proposed c tick)

def portScoped : WorkloadContract :=
  { id := .make (text "c"), workload := .make (text "w"), workloadGeneration := 1,
    owner := .make (text "pub-a"), declaredClass := .collective, remotePort := 9000 }

def declaredRegistry : WorkloadRegistry :=
  { workloads := (∅ : FiniteMap _ _).insert (.make (text "w"))
      { id := .make (text "w"), owner := .make (text "pub-a"), generation := 1, state := .active }
    maxWorkloads := 4, maxContracts := 4, maxPendingContracts := 4 }

theorem port_scoped_contract_covers_nothing :
    (declaredRegistry.proposeContract portScoped 1).1.isOk = true ∧
      ∀ key, contractCovers portScoped key = false := by
  refine ⟨by decide +kernel, fun key => ?_⟩
  simp [contractCovers, portScoped]

theorem matching_any_contract_covers :
    ∃ stored r', declaredRegistry.proposeContract
        { portScoped with matchAnyRemoteAddress := true } 1 = (.ok stored, r') ∧
      ∃ key, contractCovers stored key = true := by
  obtain ⟨stored, r', h⟩ := exists_ok_pair (p := declaredRegistry.proposeContract
    { portScoped with matchAnyRemoteAddress := true } 1) (by decide +kernel)
  exact ⟨stored, r', h, (accepted_contract_covers_iff h).mpr (Or.inl rfl)⟩
end WorkloadRegistry
end FlowClassifier.Store
