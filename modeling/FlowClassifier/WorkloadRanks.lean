import FlowClassifier.CurrentEvidence

/-!
The workload generation of a record as a rank. The engine prefers the higher generation
among records of one source, and the number comes from the payload. It is compared with the
declared workload when the payload names one, and not at all when it names none. A workload
that advances takes down the records that cite a contract it outgrows, and leaves the
others CURRENT with the generation they had.
-/
namespace FlowClassifier

open Lib Foundation Evidence Workloads Store FiniteMap

variable {owner : PublisherId} {generation : WorkloadGeneration} {tick : Tick} {description : Bytes}

namespace Store.WorkloadRegistry

/-- A declaration that moves the generation reports every contract that it outgrows. -/
theorem declareWorkload_reports {r : WorkloadRegistry} {id : WorkloadId} {w w' : WorkloadRecord}
    (hw : r.workloads.lookup id = some w)
    (hw' : (r.declareWorkload id owner generation tick description).2.workloads.lookup id =
      some w') (hmoved : w'.generation ≠ w.generation) :
    ∃ record, (r.declareWorkload id owner generation tick description).1 = .ok (record,
      (r.contracts.values.filter (outgrown id generation)).map (retired · tick)) := by
  have hexit := exit r (.declareWorkload id owner generation tick description)
  rw [call] at hexit
  generalize hout : (r.declareWorkload id owner generation tick description).2 = r' at hexit hw'
  cases hexit with
  | unchanged hsame =>
    rw [hsame] at hw'
    cases hw.symm.trans hw'
    exact absurd rfl hmoved
  | described hrecord hsame hinsert =>
    -- a repeated declaration changes the description at most
    cases hw.symm.trans hrecord
    rw [hinsert, lookup_insert_eq, if_pos rfl] at hw'
    cases hw'
    exact absurd (congrArg WorkloadRecord.generation hsame) hmoved
  | created hnone => cases hnone.symm.trans hw
  | advanced _ _ _ _ hok => exact ⟨_, hok⟩

end Store.WorkloadRegistry

namespace Classifier

/-- The number is zero, or it is the generation at which the publisher has the workload
that the record names. -/
def Earned (c : Classifier) (r : EvidenceRecord) : Prop :=
  r.workloadGeneration = 0 ∨ ∃ w, c.workloads.workloads.lookup r.workload = some w ∧
    w.owner = r.publisher ∧ w.generation = r.workloadGeneration

/-- The operation brings in no number that nobody checked and moves no generation away from
under a CURRENT record. -/
def KeepsRanks (c : Classifier) : Operation → Prop
  | .submitEvidence _ payload _ _ _ =>
    payload.workload.isEmpty = true → payload.workloadGeneration = 0
  | .declareWorkload id owner generation _ _ =>
    ∀ w, c.workloads.workloads.lookup id = some w → w.owner = owner → w.generation < generation →
      ∀ j r, c.evidence.byId.lookup j = some r → r.state = .current → r.workload = id →
        r.workloadGeneration ≠ 0 → ∃ k ∈ c.workloads.contracts.values, k.id = r.contract ∧
          WorkloadRegistry.outgrown id generation k = true
  | .restore image _ _ =>
    ∀ w ∈ image.workloads, ∀ j r, c.evidence.byId.lookup j = some r → r.state = .current →
      r.workload = w.id → r.workloadGeneration ≠ 0 →
        w.owner = r.publisher ∧ w.generation = r.workloadGeneration
  | _ => True

structure Ranked (c : Classifier) : Prop where
  indexed : c.evidence.Indexed c.evidence.order
  earned : ∀ id r, c.evidence.byId.lookup id = some r → r.state = .current → Earned c r

section Steps

variable {c : Classifier} {op : Operation} {id : EvidenceId} {r : EvidenceRecord}

/-- The records that cite an outgrown contract are taken down. -/
theorem of_current_declareWorkload {w w' : WorkloadRecord}
    (hw : c.workloads.workloads.lookup r.workload = some w)
    (hw' : (c.workloads.declareWorkload r.workload owner generation tick
      description).2.workloads.lookup r.workload = some w') (hmoved : w'.generation ≠ w.generation)
    (hr : (c.step (.declareWorkload r.workload owner generation description
      tick)).evidence.byId.lookup id = some r) (hcurrent : r.state = .current) :
    c.evidence.byId.lookup id = some r ∧ ∀ k ∈ c.workloads.contracts.values,
      k.id = r.contract → WorkloadRegistry.outgrown r.workload generation k = false := by
  obtain ⟨record, hok⟩ := WorkloadRegistry.declareWorkload_reports hw hw' hmoved
  rw [step, declareWorkload] at hr
  generalize c.workloads.declareWorkload r.workload owner generation tick description = out
    at hok hr
  obtain ⟨result, workloads⟩ := out
  dsimp only at hok
  subst hok
  obtain ⟨hstored, hspared⟩ := of_current_foldl hr hcurrent
  refine ⟨hstored, fun k hk hid => ?_⟩
  by_contra hout
  rw [Bool.not_eq_false] at hout
  have hreported := hspared _ (List.mem_map_of_mem (List.mem_filter.mpr ⟨hk, hout⟩))
  simp [citing, WorkloadRegistry.retired, hid] at hreported

/-- A record that stays CURRENT keeps what its rank rests on. -/
theorem earned_of_stored (hop : op.Running)
    (hkeeps : KeepsRanks c op) (hbefore : c.evidence.byId.lookup id = some r)
    (hearned : Earned c r) (hr : (c.step op).evidence.byId.lookup id = some r)
    (hcurrent : r.state = .current) : Earned (c.step op) r := by
  rcases hearned with hzero | ⟨w, hw, howner, hgeneration⟩
  · exact Or.inl hzero
  by_cases hzero : r.workloadGeneration = 0
  · exact Or.inl hzero
  right
  rw [workloads_call c hop]
  cases hcall : workloadCall op with
  | none => exact ⟨w, hw, howner, hgeneration⟩
  | some call =>
    rcases WorkloadRegistry.treated_call c.workloads call r.workload with
      ⟨hnone, -⟩ | ⟨v, v', hv, hv', hsame, htreated⟩
    · rw [hw] at hnone
      cases hnone
    rw [hw] at hv
    cases hv
    have hkept : v'.generation = w.generation →
        ∃ v', (c.workloads.call call).workloads.lookup r.workload = some v' ∧
          v'.owner = r.publisher ∧ v'.generation = r.workloadGeneration := fun h =>
      ⟨v', hv', hsame.trans howner, h.trans hgeneration⟩
    rcases htreated with ⟨hsame, -⟩ | ⟨tick, description, rfl, hadvances, -⟩ | ⟨_, -, hsame⟩
    · exact hkept hsame
    · have hdeclare : op = .declareWorkload r.workload w.owner v'.generation description tick := by
        cases op <;> simp only [workloadCall, Option.some.injEq, reduceCtorEq,
          WorkloadCall.declareWorkload.injEq] at hcall
        obtain ⟨rfl, rfl, rfl, rfl, rfl⟩ := hcall
        rfl
      subst hdeclare
      obtain ⟨k, hk, hid, hout⟩ := hkeeps w hw rfl hadvances id r hbefore hcurrent rfl hzero
      have hspared := (of_current_declareWorkload hw hv' (ne_of_gt hadvances) hr hcurrent).2
      rw [hspared k hk hid] at hout
      cases hout
    · exact hkept hsame

/-- A submission is held against the workload that it names. -/
theorem earned_of_arrived (hop : op.Running)
    (hkeeps : KeepsRanks c op) (harrived : Arrived c op r) : Earned (c.step op) r := by
  cases harrived with
  | @submitted envelope payload tick touchTick wall effective flow c₁ seq hchecks hflow =>
    cases hnamed : payload.workload.isEmpty with
    | true => exact Or.inl (hkeeps hnamed)
    | false =>
      obtain ⟨w, hw, howner, hgeneration, -⟩ := hchecks.workload hnamed
      right
      rw [workloads_call c hop]
      exact ⟨w, hw, howner, hgeneration⟩

/-- Restoring puts the workloads of the image in the place of those that are there. -/
theorem earned_restore {image : DurableState} {boot : CoordinatorBootId}
    (hkeeps : KeepsRanks c (.restore image boot tick))
    (hbefore : c.evidence.byId.lookup id = some r) (hcurrent : r.state = .current)
    (hearned : Earned c r) : Earned (restore image c boot tick).2 r := by
  rcases hearned with hzero | hearned
  · exact Or.inl hzero
  by_cases hzero : r.workloadGeneration = 0
  · exact Or.inl hzero
  right
  let rests (s : WorkloadRegistry) : Prop := ∃ w, s.workloads.lookup r.workload = some w ∧
    w.owner = r.publisher ∧ w.generation = r.workloadGeneration
  have hdeclared :
      rests (tryEach WorkloadRegistry.restoreWorkload c.workloads image.workloads).2 := by
    refine tryEach_invariant rests (fun s record hrecord hs => ?_) hearned
    rcases restoreWorkload_cases s record with ⟨e, hout⟩ | hout
    · rw [hout]
      exact hs
    · rw [hout]
      by_cases hid : r.workload = record.id
      · refine ⟨record, ?_, hkeeps record hrecord id r hbefore hcurrent hid hzero⟩
        rw [lookup_insert_eq, if_pos hid]
      · obtain ⟨w, hw, hrest⟩ := hs
        refine ⟨w, ?_, hrest⟩
        rw [lookup_insert_eq, if_neg hid]
        exact hw
  rcases restore_workloads image c boot tick with hsame | hsame | ⟨-, hsame⟩
  · rw [hsame]
    exact hearned
  · rw [hsame]
    exact hdeclared
  · rw [hsame]
    refine tryEach_invariant rests (fun s k _ hs => ?_) hdeclared
    unfold WorkloadRegistry.restoreContract
    split_ifs <;> exact hs

theorem ranked_step (h : Ranked c) (hkeeps : KeepsRanks c op) : Ranked (c.step op) := by
  by_cases hrestore : ∃ image boot tick, op = .restore image boot tick
  · obtain ⟨image, boot, tick, rfl⟩ := hrestore
    refine ⟨indexed_restore h.indexed image boot tick, fun id r hr hcurrent => ?_⟩
    rcases current_record_step h.indexed _ hr hcurrent with hbefore | harrived
    · exact earned_restore hkeeps hbefore hcurrent (h.earned id r hbefore hcurrent)
    · cases harrived
  · have hop : op.Running := fun image boot tick hop => hrestore ⟨image, boot, tick, hop⟩
    refine ⟨(records_step h.indexed hop).1, fun id r hr hcurrent => ?_⟩
    rcases current_record_step h.indexed _ hr hcurrent with hbefore | harrived
    · exact earned_of_stored hop hkeeps hbefore (h.earned id r hbefore hcurrent) hr hcurrent
    · exact earned_of_arrived hop hkeeps harrived

end Steps

/-- Along every run that keeps the ranks, the workload generation of a CURRENT record is
zero or the generation at which its publisher has the workload it names. -/
theorem workload_rank_earned (options : ClassifierOptions) {ops : List Operation}
    (halong : Along step KeepsRanks (.new options) ops) {id : EvidenceId} {r : EvidenceRecord}
    (hr : (run step (.new options) ops).evidence.byId.lookup id = some r)
    (hcurrent : r.state = .current) : Earned (run step (.new options) ops) r := by
  have hnew : Ranked (.new options) := ⟨indexed_new options, fun id r hr => by cases hr⟩
  exact (run_invariant step (fun _ _ hkeeps h => ranked_step h hkeeps) hnew halong).earned id r hr
    hcurrent

def advancedRun : List Operation :=
  citedRun ++
    [.declareWorkload (.make (text "trainer")) (.make (text "agent")) 2 [] 4,
     .submitEvidence { sampleEnvelope with maxSource := .declaredAuthenticated }
       { samplePayload .declaredAuthenticated 2 with
         workload := .make (text "trainer"), workloadGeneration := 2 } 5 5 0]

theorem keepsRanks_declareWorkload {c : Classifier} {id : WorkloadId}
    (h : ∀ r ∈ c.evidence.byId.values, ∃ k ∈ c.workloads.contracts.values, k.id = r.contract ∧
      WorkloadRegistry.outgrown id generation k = true) :
    KeepsRanks c (.declareWorkload id owner generation description tick) :=
  fun _ _ _ _ _ r hr _ _ _ => h r (mem_values_of_lookup hr)

theorem advancedRun_along : Along step KeepsRanks (.new {}) advancedRun := by
  have hnamed : ((.make (text "trainer") : WorkloadId)).isEmpty ≠ true := by decide
  have hbefore : Along step KeepsRanks (.new {}) citedRun :=
    ⟨keepsRanks_declareWorkload (fun r hr => by cases hr), trivial, trivial, trivial,
      fun h => absurd h hnamed, trivial⟩
  refine hbefore.append ⟨?_, fun h => absurd h hnamed, trivial⟩
  · have hcited : ∀ r ∈ (run step (.new {}) citedRun).evidence.byId.values,
        ∃ k ∈ (run step (.new {}) citedRun).workloads.contracts.values, k.id = r.contract ∧
          WorkloadRegistry.outgrown (.make (text "trainer")) 2 k = true := by
      decide +kernel
    exact keepsRanks_declareWorkload hcited

theorem workload_rank_earned_advanced :
    ∃ id r, (run step (.new {}) advancedRun).evidence.byId.lookup id = some r ∧
      r.state = .current ∧ r.workloadGeneration = 2 ∧
      Earned (run step (.new {}) advancedRun) r := by
  obtain ⟨id, -, r, hr, hcurrent, hgeneration⟩ :
      ∃ id ∈ (run step (.new {}) advancedRun).evidence.order,
        ∃ r, (run step (.new {}) advancedRun).evidence.byId.lookup id = some r ∧
          r.state = .current ∧ r.workloadGeneration = 2 := by
    decide +kernel
  exact ⟨id, r, hr, hcurrent, hgeneration, workload_rank_earned {} advancedRun_along hr hcurrent⟩

def unearnedRun : List Operation :=
  [.declareWorkload (.make (text "trainer")) (.make (text "agent")) 1 [] 1,
   .registerPublisher (.make (text "agent")) 2 .declaredAuthenticated (.make (text "s1")) [] 2 0,
   .submitEvidence { sampleEnvelope with maxSource := .declaredAuthenticated }
     { samplePayload .declaredAuthenticated 1 with
       flowGeneration := 1, workload := .make (text "trainer"), workloadGeneration := 1
       metadata := { topic := text "named" } } 3 3 0,
   .submitEvidence { sampleEnvelope with maxSource := .declaredAuthenticated }
     { samplePayload .declaredAuthenticated 2 with
       flowGeneration := 1, workloadGeneration := 1000000
       metadata := { topic := text "unnamed" } } 4 4 0,
   .declareWorkload (.make (text "trainer")) (.make (text "agent")) 2 [] 5]

/-- Both stay CURRENT, and no workload is at either generation. -/
theorem workload_rank_unearned :
    let c := run step (.new {}) unearnedRun
    (∀ w ∈ c.workloads.workloads.values, w.generation = 2) ∧
      (∃ r ∈ c.evidence.byId.values, r.state = .current ∧ r.workload.isEmpty = true ∧
        r.workloadGeneration = 1000000) ∧
      ∃ r ∈ c.evidence.byId.values, r.state = .current ∧ r.workload = .make (text "trainer") ∧
        r.workloadGeneration = 1 := by
  decide +kernel

end Classifier
end FlowClassifier
