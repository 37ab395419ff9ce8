import FlowClassifier.Store.EvidenceStore

/-!
What becomes of an evidence record. A stored record is only ever replaced by the same
submission in a weaker state, and a state never returns to an earlier one, so a record
that has the same state later is the same record. The flow rings hold each stored record
at most once and under its own flow, and the order of acceptance holds every record, so
eviction makes room whenever the bound is not zero.
-/
namespace FlowClassifier.Store.EvidenceStore

open Lib Foundation Evidence FiniteMap

variable {r : EvidenceRecord} {t : EvidenceStore} {id : EvidenceId} {order : List EvidenceId}
variable {s u s' : EvidenceStore} {r' record : EvidenceRecord} {flow : FlowId}

def stateRank : EvidenceState → ℕ
  | .current => 0
  | .superseded => 2
  | _ => 1

/-- The same record, or the same submission in a weaker state. -/
def Weakens (r r' : EvidenceRecord) : Prop :=
  r' = r ∨ stateRank r.state < stateRank r'.state ∧
    r' = { r with state := r'.state, stateReason := r'.stateReason }

theorem Weakens.refl (r : EvidenceRecord) : Weakens r r := Or.inl rfl

theorem Weakens.trans {s t : EvidenceRecord} (h : Weakens r s) (h' : Weakens s t) :
    Weakens r t := by
  rcases h with rfl | ⟨hlt, hs⟩
  · exact h'
  · rcases h' with rfl | ⟨hlt', ht⟩
    · exact Or.inr ⟨hlt, hs⟩
    · refine Or.inr ⟨lt_trans hlt hlt', ?_⟩
      rw [ht, hs]

theorem Weakens.eq_of_state (h : Weakens r r') (hstate : r'.state = r.state) : r' = r := by
  rcases h with heq | ⟨hlt, -⟩
  · exact heq
  · rw [hstate] at hlt
    exact absurd hlt (lt_irrefl _)

/-- Only a record that is CURRENT has a CURRENT later version. -/
theorem Weakens.eq_of_current (h : Weakens r r') (hcurrent : r'.state = .current) : r' = r := by
  rcases h with heq | ⟨hlt, -⟩
  · exact heq
  · rw [hcurrent] at hlt
    exact absurd hlt (Nat.not_lt_zero _)

/-- What no operation changes about a record. -/
theorem Weakens.submission (h : Weakens r r') :
    r' = { r with state := r'.state, stateReason := r'.stateReason } := by
  rcases h with rfl | ⟨-, h⟩
  · rfl
  · exact h

theorem weakens_markStale (p : EvidenceRecord → Bool) (reason : EvidenceRecord → Bytes)
    (r : EvidenceRecord) : Weakens r (markStale p reason r) := by
  unfold markStale
  split_ifs with h
  · exact Or.inr ⟨by rw [h.1]; exact Nat.zero_lt_one, rfl⟩
  · exact Weakens.refl r

theorem weakens_reloaded (r : EvidenceRecord) : Weakens r (reloaded r) := by
  unfold reloaded
  split_ifs with h
  · exact Or.inr ⟨by rw [h]; exact Nat.zero_lt_one, rfl⟩
  · exact Weakens.refl r

theorem reloaded_ne_current (r : EvidenceRecord) : (reloaded r).state ≠ .current := by
  unfold reloaded
  split_ifs with h
  · simp
  · exact h

def Evolved (s s' : EvidenceStore) : Prop :=
  ∀ id r', s'.byId.lookup id = some r' → ∃ r, s.byId.lookup id = some r ∧ Weakens r r'

theorem Evolved.refl (s : EvidenceStore) : Evolved s s := fun _ r h => ⟨r, h, Weakens.refl r⟩

theorem Evolved.trans (h : Evolved s t) (h' : Evolved t u) : Evolved s u := by
  intro id r hr
  obtain ⟨q, hq, hqr⟩ := h' id r hr
  obtain ⟨p, hp, hpq⟩ := h id q hq
  exact ⟨p, hp, hpq.trans hqr⟩

theorem evolved_of_byId (h : s'.byId = s.byId) : Evolved s s' := by
  intro id r hr
  exact ⟨r, by rw [← h]; exact hr, Weakens.refl r⟩

structure SameLayout (s s' : EvidenceStore) : Prop where
  byFlow : s'.byFlow = s.byFlow
  order : s'.order = s.order
  maxRecords : s'.maxRecords = s.maxRecords
  maxPerFlow : s'.maxPerFlow = s.maxPerFlow
  maxFlowIndex : s'.maxFlowIndex = s.maxFlowIndex
  indexedFlows : s'.stats.indexedFlows = s.stats.indexedFlows
  isSome : ∀ id, (s'.byId.lookup id).isSome = (s.byId.lookup id).isSome

theorem SameLayout.refl (s : EvidenceStore) : SameLayout s s :=
  ⟨rfl, rfl, rfl, rfl, rfl, rfl, fun _ => rfl⟩

theorem SameLayout.trans (h : SameLayout s t) (h' : SameLayout t u) : SameLayout s u :=
  ⟨h'.byFlow.trans h.byFlow, h'.order.trans h.order, h'.maxRecords.trans h.maxRecords,
    h'.maxPerFlow.trans h.maxPerFlow, h'.maxFlowIndex.trans h.maxFlowIndex,
    h'.indexedFlows.trans h.indexedFlows, fun id => (h'.isSome id).trans (h.isSome id)⟩

structure Reviewed (s s' : EvidenceStore) : Prop extends SameLayout s s' where
  evolved : Evolved s s'

theorem Reviewed.refl (s : EvidenceStore) : Reviewed s s := ⟨.refl s, .refl s⟩

theorem Reviewed.trans (h : Reviewed s t) (h' : Reviewed t u) : Reviewed s u :=
  ⟨h.toSameLayout.trans h'.toSameLayout, h.evolved.trans h'.evolved⟩

/-- Replacing every record by a later version of itself. -/
theorem reviewed_mapValues {f : EvidenceRecord → EvidenceRecord}
    (hf : ∀ r, Weakens r (f r)) (hbyId : s'.byId = s.byId.mapValues fun _ => f)
    (hbyFlow : s'.byFlow = s.byFlow) (horder : s'.order = s.order)
    (hrecords : s'.maxRecords = s.maxRecords) (hperFlow : s'.maxPerFlow = s.maxPerFlow)
    (hindex : s'.maxFlowIndex = s.maxFlowIndex)
    (hgauge : s'.stats.indexedFlows = s.stats.indexedFlows) : Reviewed s s' := by
  refine ⟨⟨hbyFlow, horder, hrecords, hperFlow, hindex, hgauge, ?_⟩, ?_⟩
  · intro id
    rw [hbyId, lookup_mapValues, Option.isSome_map]
  · intro id r' hr'
    rw [hbyId] at hr'
    obtain ⟨r, hr, rfl⟩ := of_lookup_mapValues hr'
    exact ⟨r, hr, hf r⟩

theorem reviewed_markStaleWhere (s : EvidenceStore) (p : EvidenceRecord → Bool)
    (reason : Bytes) : Reviewed s (s.markStaleWhere p reason) :=
  reviewed_mapValues (weakens_markStale p fun _ => reason) rfl rfl rfl rfl rfl rfl rfl

/-- What is CURRENT after a mark was not meant by it. -/
theorem of_current_markStale {byId : FiniteMap EvidenceId EvidenceRecord}
    {p : EvidenceRecord → Bool} {reason : EvidenceRecord → Bytes}
    (h : (byId.mapValues fun _ => markStale p reason).lookup id = some r)
    (hcurrent : r.state = .current) : byId.lookup id = some r ∧ p r = false := by
  obtain ⟨q, hq, rfl⟩ := of_lookup_mapValues h
  unfold markStale at hcurrent ⊢
  split_ifs at hcurrent ⊢ with hmarked
  refine ⟨hq, ?_⟩
  cases hp : p q with
  | false => rfl
  | true => exact absurd ⟨hcurrent, hp⟩ hmarked

theorem of_current_markStaleWhere {p : EvidenceRecord → Bool} {reason : Bytes}
    (h : (s.markStaleWhere p reason).byId.lookup id = some r) (hcurrent : r.state = .current) :
    s.byId.lookup id = some r ∧ p r = false :=
  of_current_markStale h hcurrent

theorem of_current_markEpochStale {epoch : CoordinatorEpoch}
    (h : (s.markEpochStale epoch).byId.lookup id = some r)
    (hcurrent : r.state = .current) : s.byId.lookup id = some r ∧ r.acceptedEpoch = epoch := by
  obtain ⟨hstored, hspared⟩ := of_current_markStale h hcurrent
  exact ⟨hstored, bne_eq_false_iff_eq.mp hspared⟩

theorem reviewed_markEpochStale (s : EvidenceStore) (epoch : CoordinatorEpoch) :
    Reviewed s (s.markEpochStale epoch) :=
  reviewed_mapValues (weakens_markStale _ (epochReason epoch)) rfl rfl rfl rfl rfl rfl rfl

/-- What `set_state` can do. -/
theorem setState_cases (s : EvidenceStore) (id : EvidenceId) (state : EvidenceState)
    (reason : Bytes) :
    let out := s.setState id state reason
    out.2 = s ∨
    ∃ r, s.byId.lookup id = some r ∧ r.state ≠ state ∧ out.1 = .ok () ∧
      out.2.byId = s.byId.insert id { r with state := state, stateReason := reason } ∧
      SameLayout s out.2 := by
  unfold setState
  cases hid : s.byId.lookup id with
  | none => exact Or.inl rfl
  | some r =>
    dsimp only
    by_cases hsame : r.state = state
    · simp [hsame]
    · by_cases hback : r.state ≠ .current ∧ state = .current
      · rw [if_neg hsame, if_pos hback]
        exact Or.inl rfl
      · rw [if_neg hsame, if_neg hback]
        refine Or.inr ⟨r, rfl, hsame, rfl, rfl, rfl, rfl, rfl, rfl, rfl, rfl, fun j => ?_⟩
        rw [lookup_insert_eq]
        split_ifs with hj
        · rw [hj, hid]
          rfl
        · rfl

theorem setState_of_error {state : EvidenceState}
    {reason : Bytes} {e : Failure} (h : (s.setState id state reason).1 = .error e) :
    (s.setState id state reason).2 = s := by
  rcases setState_cases s id state reason with hsame | ⟨_, -, -, hok, -⟩
  · exact hsame
  · rw [h] at hok
    cases hok

theorem stateRank_lt_superseded {state : EvidenceState} (h : state ≠ .superseded) :
    stateRank state < stateRank .superseded := by
  cases state <;> first | decide | exact absurd rfl h

theorem reviewed_supersede (s : EvidenceStore) (id : EvidenceId) (reason : Bytes) :
    Reviewed s (s.setState id .superseded reason).2 := by
  rcases setState_cases s id .superseded reason with hsame | ⟨r, hr, hne, -, hbyId, hlayout⟩
  · rw [hsame]
    exact Reviewed.refl s
  · refine ⟨hlayout, ?_⟩
    intro j r' hr'
    rw [hbyId, lookup_insert_eq] at hr'
    split_ifs at hr' with hj
    · cases hr'
      subst hj
      exact ⟨r, hr, Or.inr ⟨stateRank_lt_superseded hne, rfl⟩⟩
    · exact ⟨r', hr', Weakens.refl r'⟩

/-- Records are stored under their identity, rings hold stored records of their flow
without repetition, and the given order names every record. -/
structure Indexed (s : EvidenceStore) (order : List EvidenceId) : Prop where
  keyed : ∀ id r, s.byId.lookup id = some r → r.id = id
  ring_nodup : ∀ flow ids, s.byFlow.lookup flow = some ids → ids.Nodup
  ring_stored : ∀ flow ids, s.byFlow.lookup flow = some ids → ∀ id ∈ ids,
    ∃ r, s.byId.lookup id = some r ∧ r.flowId = flow
  ordered : ∀ id r, s.byId.lookup id = some r → id ∈ order

def ring (s : EvidenceStore) (flow : FlowId) : List EvidenceId := (s.byFlow.lookup flow).getD []

theorem Indexed.nodup_ring (h : s.Indexed order) (flow : FlowId) : (s.ring flow).Nodup := by
  unfold ring
  cases hids : s.byFlow.lookup flow with
  | none => exact List.nodup_nil
  | some ids => exact h.ring_nodup flow ids hids

theorem Indexed.stored_of_ring (h : s.Indexed order) (hid : id ∈ s.ring flow) :
    ∃ r, s.byId.lookup id = some r ∧ r.flowId = flow := by
  unfold ring at hid
  cases hids : s.byFlow.lookup flow with
  | none => simp [hids] at hid
  | some ids =>
    rw [hids] at hid
    exact h.ring_stored flow ids hids id hid

structure Relabelled (s s' : EvidenceStore) : Prop extends SameLayout s s' where
  records : ∀ id r', s'.byId.lookup id = some r' → ∃ r, s.byId.lookup id = some r ∧
    r' = { r with state := r'.state, stateReason := r'.stateReason }

theorem Relabelled.refl (s : EvidenceStore) : Relabelled s s :=
  ⟨.refl s, fun _ r hr => ⟨r, hr, rfl⟩⟩

theorem Reviewed.relabelled (h : Reviewed s s') : Relabelled s s' := by
  refine ⟨h.toSameLayout, fun id r' hr' => ?_⟩
  obtain ⟨r, hr, hw⟩ := h.evolved id r' hr'
  exact ⟨r, hr, hw.submission⟩

/-- A change of state relabels one record, whatever the two states are. -/
theorem relabelled_setState (s : EvidenceStore) (id : EvidenceId) (state : EvidenceState)
    (reason : Bytes) : Relabelled s (s.setState id state reason).2 := by
  rcases setState_cases s id state reason with hsame | ⟨r, hr, -, -, hbyId, hlayout⟩
  · rw [hsame]
    exact Relabelled.refl s
  · refine ⟨hlayout, ?_⟩
    intro j r' hr'
    rw [hbyId, lookup_insert_eq] at hr'
    split_ifs at hr' with hj
    · cases hr'
      exact ⟨r, by rw [hj, hr], rfl⟩
    · exact ⟨r', hr', rfl⟩

theorem Relabelled.stored (h : Relabelled s s')
    (hr : s.byId.lookup id = some r) : ∃ r', s'.byId.lookup id = some r' ∧
      r' = { r with state := r'.state, stateReason := r'.stateReason } := by
  have hsome : (s'.byId.lookup id).isSome = true := by rw [h.isSome, hr]; rfl
  obtain ⟨r', hr'⟩ := Option.isSome_iff_exists.mp hsome
  obtain ⟨q, hq, hsame⟩ := h.records id r' hr'
  rw [hr] at hq
  cases hq
  exact ⟨r', hr', hsame⟩

theorem Relabelled.indexed (h : Relabelled s s') (hs : s.Indexed order) : s'.Indexed order := by
  refine ⟨?_, ?_, ?_, ?_⟩
  · intro id r' hr'
    obtain ⟨r, hr, hsame⟩ := h.records id r' hr'
    rw [hsame]
    exact hs.keyed id r hr
  · intro flow ids hids
    rw [h.byFlow] at hids
    exact hs.ring_nodup flow ids hids
  · intro flow ids hids id hid
    rw [h.byFlow] at hids
    obtain ⟨r, hr, hflow⟩ := hs.ring_stored flow ids hids id hid
    obtain ⟨r', hr', hsame⟩ := h.stored hr
    exact ⟨r', hr', by rw [hsame]; exact hflow⟩
  · intro id r' hr'
    obtain ⟨r, hr, -⟩ := h.records id r' hr'
    exact hs.ordered id r hr

theorem Reviewed.indexed (h : Reviewed s s') (hs : s.Indexed order) : s'.Indexed order :=
  h.relabelled.indexed hs

theorem lookup_unindexFlow {byFlow : FiniteMap FlowId (List EvidenceId)} {j : FlowId}
    {ids : List EvidenceId} (h : (unindexFlow byFlow flow id).lookup j = some ids) :
    j ≠ flow ∧ byFlow.lookup j = some ids ∨
      j = flow ∧ ids ≠ [] ∧ ∃ old, byFlow.lookup flow = some old ∧ ids = old.filter (· ≠ id) := by
  unfold unindexFlow at h
  cases hold : byFlow.lookup flow with
  | none =>
    rw [hold] at h
    refine Or.inl ⟨?_, h⟩
    rintro rfl
    simp [hold] at h
  | some old =>
    simp only [hold] at h
    by_cases hj : j = flow
    · split_ifs at h with hkept
      · rw [lookup_erase_eq, if_pos hj] at h
        cases h
      · rw [lookup_insert_eq, if_pos hj, Option.some.injEq] at h
        refine Or.inr ⟨hj, ?_, old, rfl, h.symm⟩
        rw [← h, ← List.isEmpty_eq_false_iff]
        simpa using hkept
    · refine Or.inl ⟨hj, ?_⟩
      split_ifs at h
      · rwa [lookup_erase_eq, if_neg hj] at h
      · rwa [lookup_insert_eq, if_neg hj] at h

def withoutRecord (s : EvidenceStore) (record : EvidenceRecord) : EvidenceStore :=
  { s with
    byId := s.byId.erase record.id
    byFlow := unindexFlow s.byFlow record.flowId record.id
    stats := { s.stats with evictedRecords := s.stats.evictedRecords + 1 } }

theorem indexed_withoutRecord {rest : List EvidenceId} (h : s.Indexed (record.id :: rest))
    (hrecord : s.byId.lookup record.id = some record) : (s.withoutRecord record).Indexed rest := by
  have hlookup : ∀ id r, (s.withoutRecord record).byId.lookup id = some r →
      id ≠ record.id ∧ s.byId.lookup id = some r := by
    intro id r hr
    rw [withoutRecord, lookup_erase_eq] at hr
    split_ifs at hr with hid
    exact ⟨hid, hr⟩
  refine ⟨?_, ?_, ?_, ?_⟩
  · intro id r hr
    exact h.keyed id r (hlookup id r hr).2
  · intro flow ids hids
    rcases lookup_unindexFlow hids with ⟨-, hsame⟩ | ⟨-, -, old, hold, rfl⟩
    · exact h.ring_nodup flow ids hsame
    · exact (h.ring_nodup _ old hold).filter _
  · intro flow ids hids id hid
    have hstored : ∃ r, s.byId.lookup id = some r ∧ r.flowId = flow ∧ id ≠ record.id := by
      rcases lookup_unindexFlow hids with ⟨hflow, hsame⟩ | ⟨rfl, -, old, hold, rfl⟩
      · obtain ⟨r, hr, hrflow⟩ := h.ring_stored flow ids hsame id hid
        refine ⟨r, hr, hrflow, ?_⟩
        rintro rfl
        rw [hrecord] at hr
        cases hr
        exact hflow hrflow.symm
      · obtain ⟨hmem, hne⟩ := List.mem_filter.mp hid
        obtain ⟨r, hr, hrflow⟩ := h.ring_stored _ old hold id hmem
        exact ⟨r, hr, hrflow, by simpa using hne⟩
    obtain ⟨r, hr, hrflow, hne⟩ := hstored
    refine ⟨r, ?_, hrflow⟩
    rw [withoutRecord, lookup_erase_eq, if_neg hne, hr]
  · intro id r hr
    obtain ⟨hne, hr⟩ := hlookup id r hr
    rcases List.mem_cons.mp (h.ordered id r hr) with hid | hrest
    · exact absurd hid hne
    · exact hrest

theorem evolved_withoutRecord (s : EvidenceStore) (record : EvidenceRecord) :
    Evolved s (s.withoutRecord record) := by
  intro id r hr
  rw [withoutRecord, lookup_erase_eq] at hr
  split_ifs at hr
  exact ⟨r, hr, Weakens.refl r⟩

/-- What an eviction leaves behind: a consistent store whose bounds are unchanged and that
has room, unless its bound is zero. -/
structure Evicted (s s' : EvidenceStore) : Prop where
  evolved : Evolved s s'
  indexed : s'.Indexed s'.order
  maxRecords : s'.maxRecords = s.maxRecords
  maxPerFlow : s'.maxPerFlow = s.maxPerFlow
  maxFlowIndex : s'.maxFlowIndex = s.maxFlowIndex
  room : s.maxRecords ≠ 0 → s'.byId.size < s.maxRecords.toNat

/-- Entries of the order without a record are passed over. -/
theorem evicted_evictFrom (h : s.Indexed order) : Evicted s (s.evictFrom order) := by
  induction order generalizing s with
  | nil =>
    refine ⟨evolved_of_byId rfl, ⟨h.keyed, h.ring_nodup, h.ring_stored, h.ordered⟩, rfl, rfl,
      rfl, ?_⟩
    intro hbound
    have hempty : s.byId.size = (∅ : FiniteMap EvidenceId EvidenceRecord).size := by
      apply size_eq_of_isSome
      intro id
      cases hid : s.byId.lookup id with
      | none => rfl
      | some r => exact absurd (h.ordered id r hid) (by simp)
    have hpos : s.maxRecords.toNat ≠ 0 := fun hzero =>
      hbound (UInt32.toNat_inj.mp (by simpa using hzero))
    simp only [evictFrom, hempty, size_empty]
    omega
  | cons id rest ih =>
    by_cases hfull : s.byId.size ≥ s.maxRecords.toNat
    · cases hid : s.byId.lookup id with
      | none =>
        have hrest : s.Indexed rest := by
          refine ⟨h.keyed, h.ring_nodup, h.ring_stored, ?_⟩
          intro j r hj
          rcases List.mem_cons.mp (h.ordered j r hj) with rfl | hmem
          · rw [hid] at hj
            cases hj
          · exact hmem
        simp only [evictFrom, if_pos hfull, hid]
        exact ih hrest
      | some record =>
        have hkey := h.keyed id record hid
        subst hkey
        have hnext := ih (indexed_withoutRecord h hid)
        simp only [evictFrom, if_pos hfull, hid]
        exact ⟨(evolved_withoutRecord s record).trans hnext.evolved, hnext.indexed,
          hnext.maxRecords, hnext.maxPerFlow, hnext.maxFlowIndex, hnext.room⟩
    · simp only [evictFrom, if_neg hfull]
      exact ⟨evolved_of_byId rfl, ⟨h.keyed, h.ring_nodup, h.ring_stored, h.ordered⟩, rfl, rfl,
        rfl, fun _ => not_le.mp hfull⟩

theorem evicted_makeRoom (h : s.Indexed s.order) : Evicted s s.makeRoom := by
  unfold makeRoom
  split_ifs with hfull
  · exact evicted_evictFrom h
  · exact ⟨Evolved.refl s, h, rfl, rfl, rfl, fun _ => not_le.mp hfull⟩

/-- A record was added, last in the order and in the ring of its flow. -/
structure Added (s s' : EvidenceStore) (record : EvidenceRecord) : Prop where
  new : s.byId.lookup record.id = none
  byId : ∃ stored, Weakens record stored ∧ s'.byId = s.byId.insert record.id stored
  byFlow : ∀ flow, s'.byFlow.lookup flow = s.byFlow.lookup flow ∨
    flow = record.flowId ∧ ∃ added, (added = [record.id] ∨ added = [] ∧ s.maxPerFlow = 0) ∧
      s'.byFlow.lookup flow = some ((s.ring flow).drop (s.overflowOf (s.ring flow)) ++ added)
  order : s'.order = s.order ++ [record.id]
  maxPerFlow : s'.maxPerFlow = s.maxPerFlow

theorem added_place (hnew : s.byId.lookup record.id = none) : Added s (s.place record) record := by
  refine ⟨hnew, ⟨record, Weakens.refl record, rfl⟩, fun flow => ?_, rfl, rfl⟩
  rw [place, lookup_insert_eq]
  split_ifs with hflow
  · subst hflow
    exact Or.inr ⟨rfl, [record.id], Or.inl rfl, rfl⟩
  · exact Or.inl rfl

section Additions

/-- The added record, under its identity, and the others as they were. -/
theorem Added.lookup (h : Added s s' record) (hr : s'.byId.lookup id = some r) :
    id = record.id ∧ Weakens record r ∨ id ≠ record.id ∧ s.byId.lookup id = some r := by
  obtain ⟨stored, hweak, hbyId⟩ := h.byId
  rw [hbyId, lookup_insert_eq] at hr
  split_ifs at hr with hid
  · cases hr
    exact Or.inl ⟨hid, hweak⟩
  · exact Or.inr ⟨hid, hr⟩

theorem Added.kept (h : Added s s' record)
    (hr : s.byId.lookup id = some r) : s'.byId.lookup id = some r := by
  obtain ⟨stored, -, hbyId⟩ := h.byId
  rw [hbyId, lookup_insert_eq, if_neg, hr]
  rintro rfl
  rw [h.new] at hr
  cases hr

theorem Added.not_mem_ring (h : Added s s' record)
    (hs : s.Indexed order) (flow : FlowId) : record.id ∉ s.ring flow := by
  intro hid
  obtain ⟨r, hr, -⟩ := hs.stored_of_ring hid
  rw [h.new] at hr
  cases hr

theorem Added.indexed (h : Added s s' record) (hs : s.Indexed s.order) : s'.Indexed s'.order := by
  obtain ⟨stored, hweak, hbyId⟩ := h.byId
  have hsubmitted := hweak.submission
  refine ⟨?_, ?_, ?_, ?_⟩
  · intro id r hr
    rcases h.lookup hr with ⟨rfl, hw⟩ | ⟨-, hold⟩
    · rw [hw.submission]
    · exact hs.keyed id r hold
  · intro flow ids hids
    rcases h.byFlow flow with hsame | ⟨-, added, hadded, hring⟩
    · rw [hsame] at hids
      exact hs.ring_nodup flow ids hids
    · rw [hring] at hids
      cases hids
      have hkept := (hs.nodup_ring flow).sublist
        (List.drop_sublist (s.overflowOf (s.ring flow)) (s.ring flow))
      rcases hadded with rfl | ⟨rfl, -⟩
      · refine List.nodup_append.mpr ⟨hkept, List.nodup_singleton _, ?_⟩
        rintro a ha b hb rfl
        rw [List.mem_singleton.mp hb] at ha
        exact h.not_mem_ring hs flow (List.mem_of_mem_drop ha)
      · rw [List.append_nil]
        exact hkept
  · intro flow ids hids id hid
    have hold : id ∈ s.ring flow → ∃ r, s'.byId.lookup id = some r ∧ r.flowId = flow := by
      intro hmem
      obtain ⟨r, hr, hflow⟩ := hs.stored_of_ring hmem
      exact ⟨r, h.kept hr, hflow⟩
    rcases h.byFlow flow with hsame | ⟨rfl, added, hadded, hring⟩
    · rw [hsame] at hids
      exact hold (by rw [ring, hids]; exact hid)
    · rw [hring] at hids
      cases hids
      rcases List.mem_append.mp hid with hmem | hlast
      · exact hold (List.mem_of_mem_drop hmem)
      · have hid' : id = record.id := by
          rcases hadded with rfl | ⟨rfl, -⟩
          · exact List.mem_singleton.mp hlast
          · cases hlast
        exact ⟨stored, by rw [hbyId, hid', AList.lookup_insert], by rw [hsubmitted]⟩
  · intro id r hr
    rw [h.order]
    rcases h.lookup hr with ⟨rfl, -⟩ | ⟨-, hold⟩
    · exact List.mem_append_right _ List.mem_cons_self
    · exact List.mem_append_left _ (hs.ordered id r hold)

end Additions

theorem indexed_of_stats (h : s.Indexed s.order)
    (hbyId : s'.byId = s.byId) (hbyFlow : s'.byFlow = s.byFlow) (horder : s'.order = s.order) :
    s'.Indexed s'.order := by
  refine ⟨?_, ?_, ?_, ?_⟩
  · rw [hbyId]
    exact h.keyed
  · rw [hbyFlow]
    exact h.ring_nodup
  · rw [hbyFlow, hbyId]
    exact h.ring_stored
  · rw [hbyId, horder]
    exact h.ordered

/-- The exits of `insert`. -/
inductive Inserted (s : EvidenceStore) (record : EvidenceRecord) :
    Result Unit × EvidenceStore → Prop
  | known (hstored : (s.byId.lookup record.id).isSome = true) : Inserted s record (.ok (), s)
  | rejected (e : Failure)
      (hstored : record.id.isEmpty = true ∨ (s.byId.lookup record.id).isSome = true) :
      Inserted s record (.error e, s.countRejected)
  | full (e : Failure) (hnamed : record.id.isEmpty = false)
      (hnew : s.byId.lookup record.id = none) :
      Inserted s record (.error e, s.makeRoom.countCapacity)
  | placed (hnew : s.byId.lookup record.id = none)
      (hroom : s.makeRoom.byId.size < s.makeRoom.maxRecords.toNat) :
      Inserted s record (.ok (), s.makeRoom.place record)

theorem inserted (s : EvidenceStore) (record : EvidenceRecord) :
    Inserted s record (s.insert record) := by
  unfold insert
  by_cases hempty : record.id.isEmpty = true
  · rw [if_pos hempty]
    exact .rejected _ (Or.inl hempty)
  rw [if_neg hempty]
  rw [Bool.not_eq_true] at hempty
  cases hid : s.byId.lookup record.id with
  | some existing =>
    have hstored : (s.byId.lookup record.id).isSome = true := by rw [hid]; rfl
    dsimp only
    split_ifs
    · exact .known hstored
    · exact .rejected _ (Or.inr hstored)
  | none =>
    dsimp only
    split_ifs with hfull
    · exact .full _ hempty hid
    · exact .full _ hempty hid
    · exact .placed hid (not_le.mp hfull)

theorem Evolved.lookup_none (h : Evolved s s')
    (hid : s.byId.lookup id = none) : s'.byId.lookup id = none := by
  cases hid' : s'.byId.lookup id with
  | none => rfl
  | some r' =>
    obtain ⟨r, hr, -⟩ := h id r' hid'
    rw [hid] at hr
    cases hr

/-- What `insert` does to the records: the old ones evolve, and a new one is added only
when its identity was free and the insertion succeeds. -/
theorem insert_records (h : s.Indexed s.order) (record : EvidenceRecord) :
    let out := s.insert record
    out.2.Indexed out.2.order ∧
    ∀ id r', out.2.byId.lookup id = some r' →
      (∃ r, s.byId.lookup id = some r ∧ Weakens r r') ∨
        out.1 = .ok () ∧ s.byId.lookup record.id = none ∧ id = record.id ∧ r' = record := by
  have hroom := evicted_makeRoom h
  have hexit := inserted s record
  generalize s.insert record = out at hexit
  cases hexit with
  | known => exact ⟨h, fun id r hr => Or.inl ⟨r, hr, Weakens.refl r⟩⟩
  | rejected e =>
    exact ⟨indexed_of_stats h rfl rfl rfl, fun id r hr => Or.inl ⟨r, hr, Weakens.refl r⟩⟩
  | full e =>
    exact ⟨indexed_of_stats hroom.indexed rfl rfl rfl,
      fun id r hr => Or.inl (hroom.evolved id r hr)⟩
  | placed hnew =>
    refine ⟨(added_place (hroom.evolved.lookup_none hnew)).indexed hroom.indexed, ?_⟩
    intro id r' hr'
    have hlookup : (s.makeRoom.place record).byId.lookup id =
        if id = record.id then some record else s.makeRoom.byId.lookup id :=
      lookup_insert_eq _ _ _ _
    rw [hlookup] at hr'
    split_ifs at hr' with heq
    · cases hr'
      exact Or.inr ⟨rfl, hnew, heq, rfl⟩
    · exact Or.inl (hroom.evolved id r' hr')

theorem Reviewed.indexed_order (h : Reviewed s t) (hs : s.Indexed s.order) : t.Indexed t.order := by
  rw [h.order]
  exact h.indexed hs

/-- An insertion after a review, seen from the store before the review. -/
theorem Reviewed.records_of_insert
    {result : Result Unit} (h : Reviewed s t) (hs : s.Indexed s.order)
    (hinsert : t.insert record = (result, u)) : u.Indexed u.order ∧
    ∀ id r', u.byId.lookup id = some r' → (∃ r, s.byId.lookup id = some r ∧ Weakens r r') ∨
        result = .ok () ∧ id = record.id ∧ r' = record := by
  have hrecords := insert_records (h.indexed_order hs) record
  rw [hinsert] at hrecords
  refine ⟨hrecords.1, ?_⟩
  intro id r' hr'
  rcases hrecords.2 id r' hr' with ⟨q, hq, hw⟩ | ⟨hok, -, hnew⟩
  · obtain ⟨r, hr, hw'⟩ := h.evolved id q hq
    exact Or.inl ⟨r, hr, hw'.trans hw⟩
  · exact Or.inr ⟨hok, hnew⟩

theorem mem_recordsForFlow (h : s.Indexed order) (hr : r ∈ s.recordsForFlow flow) :
    s.byId.lookup r.id = some r ∧ r.flowId = flow := by
  have hmem := (List.perm_insertionSort _ _).mem_iff.mp hr
  obtain ⟨id, hid, hlookup⟩ := List.mem_filterMap.mp hmem
  cases hids : s.byFlow.lookup flow with
  | none => simp [hids] at hid
  | some ids =>
    rw [hids] at hid
    obtain ⟨q, hq, hflow⟩ := h.ring_stored flow ids hids id hid
    rw [hlookup] at hq
    cases hq
    rw [h.keyed id r hlookup]
    exact ⟨hlookup, hflow⟩

/-- Looking the listed identities up again yields the listed records. -/
theorem filterMap_evidenceForFlow (h : s.Indexed order) (flow : FlowId) :
    (s.evidenceForFlow flow).filterMap s.byId.lookup = s.recordsForFlow flow := by
  rw [evidenceForFlow, List.filterMap_map]
  have hsome : ∀ r ∈ s.recordsForFlow flow, (s.byId.lookup ∘ EvidenceRecord.id) r = some r :=
    fun r hr => (mem_recordsForFlow h hr).1
  rw [List.filterMap_congr hsome, List.filterMap_some]

/-- The listed identities are those of the ring. -/
theorem evidenceForFlow_perm (h : s.Indexed order) (flow : FlowId) :
    (s.evidenceForFlow flow).Perm ((s.byFlow.lookup flow).getD []) := by
  refine ((List.perm_insertionSort _ _).map _).trans (List.Perm.of_eq ?_)
  cases hids : s.byFlow.lookup flow with
  | none => rfl
  | some ids =>
    have hsome : ∀ id ∈ ids, (s.byId.lookup id).map EvidenceRecord.id = some id := by
      intro id hid
      obtain ⟨r, hr, -⟩ := h.ring_stored flow ids hids id hid
      rw [hr, Option.map_some, h.keyed id r hr]
    rw [Option.getD_some, List.map_filterMap, List.filterMap_congr hsome, List.filterMap_some]

theorem nodup_recordsForFlow (h : s.Indexed order) (flow : FlowId) :
    ((s.recordsForFlow flow).map EvidenceRecord.id).Nodup := by
  refine (evidenceForFlow_perm h flow).nodup_iff.mpr ?_
  cases hids : s.byFlow.lookup flow with
  | none => exact List.nodup_nil
  | some ids => exact h.ring_nodup flow ids hids

/-- Restoring a record fails and changes nothing, or stores the reloaded record under a
free identity. -/
theorem restoreRecord_cases (s : EvidenceStore) (record : EvidenceRecord) :
    let out := s.restoreRecord record
    (∃ e, out.1 = .error e ∧ out.2 = s) ∨
    out.1 = .ok () ∧ s.byId.lookup record.id = none ∧
      out.2.byId = s.byId.insert record.id (reloaded record) ∧
      out.2.byFlow = (s.indexFlow record.flowId record.id).byFlow ∧
      out.2.order = s.order ++ [record.id] := by
  unfold restoreRecord
  split_ifs with hdup hfull
  · exact Or.inl ⟨_, rfl, rfl⟩
  · exact Or.inl ⟨_, rfl, rfl⟩
  · right
    have hkept : (s.indexFlow record.flowId record.id).byId = s.byId ∧
        (s.indexFlow record.flowId record.id).order = s.order := by
      unfold indexFlow
      cases s.byFlow.lookup record.flowId <;> exact ⟨rfl, rfl⟩
    exact ⟨rfl, by simpa using hdup, by rw [← hkept.1], rfl, by rw [← hkept.2]⟩

theorem restoreRecord_bounds (s : EvidenceStore) (record : EvidenceRecord) :
    (s.restoreRecord record).2.maxRecords = s.maxRecords ∧
      (s.restoreRecord record).2.maxPerFlow = s.maxPerFlow ∧
      (s.restoreRecord record).2.maxFlowIndex = s.maxFlowIndex := by
  unfold restoreRecord
  split_ifs
  · exact ⟨rfl, rfl, rfl⟩
  · exact ⟨rfl, rfl, rfl⟩
  · unfold indexFlow
    cases s.byFlow.lookup record.flowId <;> exact ⟨rfl, rfl, rfl⟩

theorem added_restoreRecord
    (hok : (s.restoreRecord record).1 = .ok ()) : Added s (s.restoreRecord record).2 record := by
  rcases restoreRecord_cases s record with ⟨e, herror, -⟩ | ⟨-, hnew, hbyId, hbyFlow, horder⟩
  · rw [hok] at herror
    cases herror
  · refine ⟨hnew, ⟨_, weakens_reloaded record, hbyId⟩, fun flow => ?_, horder,
      (restoreRecord_bounds s record).2.1⟩
    rw [hbyFlow]
    unfold indexFlow ring
    by_cases hflow : flow = record.flowId
    · subst hflow
      refine Or.inr ⟨rfl, ?_⟩
      cases hold : s.byFlow.lookup record.flowId with
      | none => exact ⟨[record.id], Or.inl rfl, by simp⟩
      | some old =>
        dsimp only
        rw [lookup_insert_eq, if_pos rfl]
        split_ifs with hzero
        · exact ⟨[], Or.inr ⟨rfl, hzero⟩, by simp⟩
        · exact ⟨[record.id], Or.inl rfl, rfl⟩
    · left
      cases s.byFlow.lookup record.flowId <;>
        exact (lookup_insert_eq _ _ _ _).trans (if_neg hflow)

theorem indexed_restoreRecord (h : s.Indexed s.order) (record : EvidenceRecord) :
    (s.restoreRecord record).2.Indexed (s.restoreRecord record).2.order := by
  rcases restoreRecord_cases s record with ⟨e, -, hsame⟩ | ⟨hok, -⟩
  · rw [hsame]
    exact h
  · exact (added_restoreRecord hok).indexed h

end FlowClassifier.Store.EvidenceStore
