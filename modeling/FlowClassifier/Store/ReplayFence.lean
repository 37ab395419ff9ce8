import FlowClassifier.Store.Incarnations

/-!
The replay fence over runs of the registry, restarts included. A run carries what a
publisher has bound and what was accepted from it beside the registry. The generation that
the registry holds for an incarnation is always the last one it accepted, on the volatile
and on the durable side, so a new registry that is restored from the records of the old
one continues where the old one stopped.
-/
namespace FlowClassifier.Store

open Lib Foundation Evidence Workloads PublisherRegistry

inductive FenceCall where
  | bindSession (id : PublisherId) (boot : PublisherBootId) (epoch : CoordinatorEpoch)
      (coordinatorBoot : CoordinatorBootId) (maxSource : EvidenceSource) (session : SessionId)
      (tick : Tick) (wall : UInt64) (description : Bytes)
  | observeEvidenceGeneration (id : PublisherId) (boot : PublisherBootId)
      (generation : EvidenceGeneration)
  | endSpecificSession (id : PublisherId) (boot : PublisherBootId) (session : SessionId)
      (tick : Tick)
  | endSession (id : PublisherId) (boot : PublisherBootId) (tick : Tick)
  | touch (id : PublisherId) (boot : PublisherBootId) (tick : Tick) (wall : UInt64)
  | expireLiveness (tick : Tick)
  | clearSessions
  -- the records of the registry go into a new one with limits of its own
  | restart (maxPublishers : UInt32) (idleTicks : UInt64) (tick : Tick)

/-- A registry with the boot that each publisher bound last and the pairs of boot and
evidence generation accepted from it, in order. -/
structure Fence where
  registry : PublisherRegistry
  bound : PublisherId → Option PublisherBootId := fun _ => none
  accepted : PublisherId → List (PublisherBootId × EvidenceGeneration) := fun _ => []

def Precedes (a b : PublisherBootId × EvidenceGeneration) : Prop :=
  a.1 < b.1 ∨ a.1 = b.1 ∧ a.2 < b.2

namespace Fence

def new (maxPublishers : UInt32) (idleTicks : UInt64) : Fence where
  registry := .new maxPublishers idleTicks

def call (s : Fence) : FenceCall → Fence
  | .bindSession id boot epoch coordinatorBoot maxSource session tick wall description =>
    match s.registry.bindSession id boot epoch coordinatorBoot maxSource session tick wall
      description with
    | (.error _, r) => { s with registry := r }
    | (.ok _, r) => { s with registry := r, bound := Function.update s.bound id (some boot) }
  | .observeEvidenceGeneration id boot generation =>
    match s.registry.observeEvidenceGeneration id boot generation with
    | (.error _, r) => { s with registry := r }
    | (.ok _, r) =>
      { s with
        registry := r
        accepted := Function.update s.accepted id (s.accepted id ++ [(boot, generation)]) }
  | .endSpecificSession id boot session tick =>
    { s with registry := (s.registry.endSpecificSession id boot session tick).2 }
  | .endSession id boot tick => { s with registry := (s.registry.endSession id boot tick).2 }
  | .touch id boot tick wall => { s with registry := (s.registry.touch id boot tick wall).2 }
  | .expireLiveness tick => { s with registry := (s.registry.expireLiveness tick).2 }
  | .clearSessions => { s with registry := s.registry.clearSessions }
  | .restart maxPublishers idleTicks tick =>
    match (PublisherRegistry.new maxPublishers idleTicks).restoreRecords
      s.registry.snapshotRecords tick with
    -- a registry that did not take every record is not used
    | (.error _, _) => s
    | (.ok _, r) => { s with registry := r }

/-- The registration of a publisher is at the boot it bound last, and at the last
generation accepted from that boot or at zero; everything accepted is below it. -/
structure Holds (bound : Option PublisherBootId)
    (accepted : List (PublisherBootId × EvidenceGeneration))
    (registration : Option PublisherRegistration) : Prop where
  bound : registration.map (fun p => p.boot) = bound
  unknown : registration = none → accepted = []
  below : ∀ p, registration = some p → ∀ a ∈ accepted,
    a.1 < p.boot ∨ a.1 = p.boot ∧ a.2 ≤ p.highestGeneration
  attained : ∀ p, registration = some p →
    p.highestGeneration = 0 ∨ (p.boot, p.highestGeneration) ∈ accepted
  increasing : accepted.Pairwise Precedes

structure Intact (s : Fence) : Prop where
  keyed : s.registry.WellKeyed
  holds : ∀ id, Holds (s.bound id) (s.accepted id) (s.registry.publishers.lookup id)

section Holds

variable {bound : Option PublisherBootId}
  {accepted : List (PublisherBootId × EvidenceGeneration)} {p q : PublisherRegistration}

/-- Only the boot and the generation of a registration matter. -/
theorem Holds.of_same (h : Holds bound accepted (some p)) (hboot : q.boot = p.boot)
    (hgen : q.highestGeneration = p.highestGeneration) : Holds bound accepted (some q) := by
  refine ⟨?_, ?_, ?_, ?_, h.increasing⟩
  · rw [← h.bound, Option.map_some, Option.map_some, hboot]
  · intro hnone
    cases hnone
  · intro p' hp' a ha
    cases hp'
    rw [hboot, hgen]
    exact h.below p rfl a ha
  · intro p' hp'
    cases hp'
    rw [hboot, hgen]
    exact h.attained p rfl

/-- A registration is made for a publisher from which nothing was accepted yet. -/
theorem Holds.first (h : Holds bound accepted none) {boot : PublisherBootId}
    (hboot : p.boot = boot) (hgen : p.highestGeneration = 0) :
    Holds (some boot) accepted (some p) := by
  subst hboot
  rw [h.unknown rfl]
  refine ⟨rfl, ?_, ?_, ?_, List.Pairwise.nil⟩
  · intro hnone
    cases hnone
  · intro p' hp' a ha
    cases ha
  · intro p' hp'
    cases hp'
    exact Or.inl hgen

/-- A larger boot starts again at generation zero. -/
theorem Holds.rebound (h : Holds bound accepted (some p)) {boot : PublisherBootId}
    (hlarger : p.boot < boot) (hboot : q.boot = boot) (hgen : q.highestGeneration = 0) :
    Holds (some boot) accepted (some q) := by
  subst hboot
  refine ⟨rfl, ?_, ?_, ?_, h.increasing⟩
  · intro hnone
    cases hnone
  · intro q' hq' a ha
    cases hq'
    rcases h.below p rfl a ha with hlt | ⟨heq, -⟩
    · exact Or.inl (lt_trans hlt hlarger)
    · exact Or.inl (heq ▸ hlarger)
  · intro q' hq'
    cases hq'
    exact Or.inl hgen

/-- A generation above the one of the registration is accepted. -/
theorem Holds.observed (h : Holds bound accepted (some p)) {generation : EvidenceGeneration}
    (hlt : p.highestGeneration < generation) : Holds bound (accepted ++ [(p.boot, generation)])
      (some { p with highestGeneration := generation }) := by
  refine ⟨h.bound, ?_, ?_, ?_, ?_⟩
  · intro hnone
    cases hnone
  · intro q hq a ha
    cases hq
    rcases List.mem_append.mp ha with hold | hnew
    · rcases h.below p rfl a hold with hboot | ⟨hboot, hle⟩
      · exact Or.inl hboot
      · exact Or.inr ⟨hboot, le_trans hle (le_of_lt hlt)⟩
    · rw [List.mem_singleton.mp hnew]
      exact Or.inr ⟨rfl, le_refl _⟩
  · intro q hq
    cases hq
    right
    exact List.mem_append_right _ List.mem_cons_self
  · rw [List.pairwise_append]
    refine ⟨h.increasing, List.pairwise_singleton _ _, ?_⟩
    intro a ha b hb
    rw [List.mem_singleton.mp hb]
    rcases h.below p rfl a ha with hboot | ⟨hboot, hle⟩
    · exact Or.inl hboot
    · exact Or.inr ⟨hboot, lt_of_le_of_lt hle hlt⟩

end Holds

section Calls

variable {s : Fence}

/-- Calls that leave the marks of the registry as they are. -/
theorem intact_of_sameMarks (h : s.Intact) {r : PublisherRegistry}
    (hmarks : SameMarks s.registry r) : Intact { s with registry := r } := by
  refine ⟨(hmarks.advances h.keyed).1, ?_⟩
  intro id
  have hholds := h.holds id
  cases hp : s.registry.publishers.lookup id with
  | none =>
    have hnone := hmarks.publishers id
    rw [hp, Option.map_none, Option.map_eq_none_iff] at hnone
    rw [hp] at hholds
    rw [hnone]
    exact hholds
  | some p =>
    obtain ⟨q, hq, hmark⟩ := hmarks.registration hp
    rw [hp] at hholds
    rw [hq]
    exact hholds.of_same (congrArg (fun m => m.2.1) hmark) (congrArg (fun m => m.2.2) hmark)

theorem intact_bindSession (h : s.Intact) (id : PublisherId) (boot : PublisherBootId)
    (epoch : CoordinatorEpoch) (coordinatorBoot : CoordinatorBootId) (maxSource : EvidenceSource)
    (session : SessionId) (tick : Tick) (wall : UInt64) (description : Bytes) :
    (s.call (.bindSession id boot epoch coordinatorBoot maxSource session tick wall
      description)).Intact := by
  have hadvances := (advances_bindSession s.registry id boot epoch
    coordinatorBoot maxSource session tick wall description h.keyed).1
  have hcases := bindSession_cases h.keyed id boot epoch coordinatorBoot
    maxSource session tick wall description
  rw [call]
  generalize s.registry.bindSession id boot epoch coordinatorBoot maxSource session tick wall
    description = out at hadvances hcases
  obtain ⟨result, r⟩ := out
  dsimp only at hadvances hcases
  rcases hcases with ⟨e, rfl, hpub, hrec⟩ | ⟨p, record, rfl, hpub, -, -, -, -, hp⟩
  · exact intact_of_sameMarks h (.of_maps hpub hrec)
  refine ⟨hadvances, ?_⟩
  intro j
  have hholds := h.holds j
  dsimp only
  rw [hpub, FiniteMap.lookup_insert_eq]
  by_cases hj : j = id
  · subst hj
    rw [if_pos rfl, Function.update_self]
    rcases hp with ⟨hnone, rfl⟩ | ⟨old, hold, hle, rfl⟩
    · rw [hnone] at hholds
      exact hholds.first rfl rfl
    · rw [hold] at hholds
      rcases lt_or_eq_of_le hle with hlt | heq
      · exact hholds.rebound hlt rfl (by simp [rebindRegistration, hlt])
      · have hbound : some boot = s.bound j := by
          rw [← hholds.bound, Option.map_some, heq]
        rw [hbound]
        exact hholds.of_same heq.symm (by simp [rebindRegistration, heq])
  · rw [if_neg hj, Function.update_of_ne hj]
    exact hholds

theorem intact_observeEvidenceGeneration (h : s.Intact) (id : PublisherId)
    (boot : PublisherBootId) (generation : EvidenceGeneration) :
    (s.call (.observeEvidenceGeneration id boot generation)).Intact := by
  have hadvances := (advances_observeEvidenceGeneration s.registry id boot generation h.keyed).1
  have hcases := observeEvidenceGeneration_cases s.registry id boot generation
  rw [call]
  generalize s.registry.observeEvidenceGeneration id boot generation = out at hadvances hcases
  obtain ⟨result, r⟩ := out
  dsimp only at hadvances hcases
  rcases hcases with ⟨e, rfl, hpub, hrec⟩ | ⟨p, hp, rfl, hlt, rfl, hpub, -⟩
  · exact intact_of_sameMarks h (.of_maps hpub hrec)
  refine ⟨hadvances, ?_⟩
  intro j
  have hholds := h.holds j
  dsimp only
  rw [hpub, FiniteMap.lookup_insert_eq]
  by_cases hj : j = id
  · subst hj
    rw [if_pos rfl, Function.update_self]
    rw [hp] at hholds
    exact hholds.observed hlt
  · rw [if_neg hj, Function.update_of_ne hj]
    exact hholds

/-- A restored registration starts at the generation of its record. -/
theorem intact_restart (h : s.Intact) (maxPublishers : UInt32) (idleTicks : UInt64)
    (tick : Tick) : (s.call (.restart maxPublishers idleTicks tick)).Intact := by
  have hnew := wellKeyed_new maxPublishers idleTicks
  have hkeyed := wellKeyed_restoreRecords hnew s.registry.snapshotRecords tick
  rw [call]
  cases hout : (PublisherRegistry.new maxPublishers idleTicks).restoreRecords
    s.registry.snapshotRecords tick with
  | mk result r =>
    cases result with
    | error e => exact h
    | ok u =>
      have hok : ((PublisherRegistry.new maxPublishers idleTicks).restoreRecords
          s.registry.snapshotRecords tick).1 = .ok () := by rw [hout]
      refine ⟨?_, ?_⟩
      · rw [hout] at hkeyed
        exact hkeyed
      · intro id
        have hholds := h.holds id
        cases hp : s.registry.publishers.lookup id with
        | none =>
          have hnone := unregistered_restoreRecords h.keyed hok hp rfl
          rw [hout] at hnone
          rw [hp] at hholds
          dsimp only at hnone ⊢
          rw [hnone]
          exact hholds
        | some p =>
          obtain ⟨q, hq, hboot, hgen⟩ := registered_restoreRecords h.keyed hok hp
          rw [hout] at hq
          rw [hp] at hholds
          dsimp only at hq ⊢
          rw [hq]
          exact hholds.of_same hboot hgen

theorem intact_call (h : s.Intact) (op : FenceCall) : (s.call op).Intact := by
  cases op with
  | bindSession id boot epoch coordinatorBoot maxSource session tick wall description =>
    exact intact_bindSession h id boot epoch coordinatorBoot maxSource session tick wall description
  | observeEvidenceGeneration id boot generation =>
    exact intact_observeEvidenceGeneration h id boot generation
  | endSpecificSession id boot session tick =>
    exact intact_of_sameMarks h (same_endSpecificSession _ _ _ fun _ => rfl)
  | endSession id boot tick =>
    exact intact_of_sameMarks h (same_endSpecificSession _ _ _ fun _ => rfl)
  | touch id boot tick wall =>
    exact intact_of_sameMarks h (same_touch _ _ _ (fun _ => rfl) fun _ => rfl)
  | expireLiveness tick =>
    exact intact_of_sameMarks h (sameMarks_expireLiveness s.registry tick)
  | clearSessions =>
    exact intact_of_sameMarks h (same_clearSessions _ fun _ => rfl)
  | restart maxPublishers idleTicks tick => exact intact_restart h maxPublishers idleTicks tick

/-- What `observe_evidence_generation` accepts. -/
theorem observeEvidenceGeneration_ok_iff (r : PublisherRegistry) (id : PublisherId)
    (boot : PublisherBootId) (generation : EvidenceGeneration) :
    (r.observeEvidenceGeneration id boot generation).1 = .ok () ↔
      ∃ p, r.publishers.lookup id = some p ∧ p.boot = boot ∧ generation ≠ 0 ∧
        p.highestGeneration < generation := by
  unfold PublisherRegistry.observeEvidenceGeneration
  cases r.publishers.lookup id with
  | none =>
    constructor
    · intro hok
      cases hok
    · rintro ⟨p, hp, -⟩
      cases hp
  | some p =>
    dsimp only
    constructor
    · intro hok
      split_ifs at hok with hboot hzero hlow hsame
      · cases hok
      · cases hok
      · cases hok
      · cases hok
      · have hlt := lt_of_le_of_ne (not_lt.mp hlow) (Ne.symm hsame)
        exact ⟨p, rfl, not_not.mp hboot, hzero, hlt⟩
    · rintro ⟨q, hq, hboot, hzero, hlt⟩
      cases hq
      rw [if_neg (not_not.mpr hboot), if_neg hzero, if_neg (not_lt.mpr (le_of_lt hlt)),
        if_neg (ne_of_gt hlt)]

end Calls

theorem intact_new (maxPublishers : UInt32) (idleTicks : UInt64) :
    (new maxPublishers idleTicks).Intact := by
  refine ⟨PublisherRegistry.wellKeyed_new maxPublishers idleTicks, ?_⟩
  intro id
  refine ⟨rfl, fun _ => rfl, ?_, ?_, List.Pairwise.nil⟩
  · intro p hp
    cases hp
  · intro p hp
    cases hp

theorem intact_run {s : Fence} (h : s.Intact) (calls : List FenceCall) :
    (run call s calls).Intact := by
  induction calls generalizing s with
  | nil => exact h
  | cons op rest ih => exact ih (intact_call h op)

/-- In every run, with any number of restarts, the accepted pairs of a publisher increase,
and a pair is accepted exactly when its boot is the one bound last and its generation is
above every generation accepted from that boot. -/
theorem replay_fence (maxPublishers : UInt32) (idleTicks : UInt64) (calls : List FenceCall)
    (id : PublisherId) :
    let s := run call (new maxPublishers idleTicks) calls
    (s.accepted id).Pairwise Precedes ∧
    ∀ boot generation,
      (s.registry.observeEvidenceGeneration id boot generation).1 = .ok () ↔
        s.bound id = some boot ∧ generation ≠ 0 ∧
          ∀ accepted, (boot, accepted) ∈ s.accepted id → accepted < generation := by
  intro s
  have h := (intact_run (intact_new maxPublishers idleTicks) calls).holds id
  refine ⟨h.increasing, ?_⟩
  intro boot generation
  rw [observeEvidenceGeneration_ok_iff, ← h.bound]
  constructor
  · rintro ⟨p, hp, hboot, hzero, hlt⟩
    refine ⟨by rw [hp, Option.map_some, hboot], hzero, ?_⟩
    intro accepted hmem
    rcases h.below p hp _ hmem with hbelow | ⟨-, hle⟩
    · exact absurd hbelow (by rw [hboot]; exact lt_irrefl boot)
    · exact lt_of_le_of_lt hle hlt
  · rintro ⟨hbound, hzero, habove⟩
    obtain ⟨p, hp, hboot⟩ := Option.map_eq_some_iff.mp hbound
    refine ⟨p, hp, hboot, hzero, ?_⟩
    rcases h.attained p hp with hnone | hmem
    · rw [hnone]
      exact UInt64.pos_iff_ne_zero.mpr hzero
    · rw [hboot] at hmem
      exact habove _ hmem

def returningCalls : List FenceCall :=
  let id : PublisherId := .make (text "agent")
  let bind (boot : PublisherBootId) : FenceCall :=
    .bindSession id boot 1 1 .heuristic (.make (text "s1")) 1 1 []
  [bind 2, .observeEvidenceGeneration id 2 5, .restart 8 100 3,
   .observeEvidenceGeneration id 2 5, bind 3, .observeEvidenceGeneration id 3 1]

theorem replay_fence_returning :
    let s := run call (new 8 100) returningCalls
    s.accepted (.make (text "agent")) = [(2, 5), (3, 1)] ∧
      [((2, 5) : PublisherBootId × EvidenceGeneration), (3, 1)].Pairwise Precedes ∧
      (s.registry.observeEvidenceGeneration (.make (text "agent")) 3 2).1 = .ok () := by
  intro s
  have haccepted : s.accepted (.make (text "agent")) = [(2, 5), (3, 1)] := by decide +kernel
  have hbound : s.bound (.make (text "agent")) = some 3 := by decide +kernel
  obtain ⟨hincreasing, haccepts⟩ := replay_fence 8 100 returningCalls (.make (text "agent"))
  refine ⟨haccepted, haccepted ▸ hincreasing, (haccepts 3 2).mpr ⟨hbound, by decide, ?_⟩⟩
  intro accepted hmem
  rw [show (run call (new 8 100) returningCalls).accepted (.make (text "agent")) =
    [(2, 5), (3, 1)] from haccepted] at hmem
  simp only [List.mem_cons, Prod.mk.injEq, List.not_mem_nil, or_false] at hmem
  rcases hmem with ⟨hboot, -⟩ | ⟨-, rfl⟩
  · exact absurd hboot (by decide)
  · decide

end Fence
end FlowClassifier.Store
