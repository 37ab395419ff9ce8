import FlowClassifier.Store.EvidenceHistory

/-!
When the evidence store takes a record. A store within its bound evicts at most one
record to make room, the oldest one, and what then decides is whether the flow has a
ring or the index has room for another. None of this depends on the states of the
records.
-/
namespace FlowClassifier.Store.EvidenceStore

open Lib Foundation Evidence FiniteMap

variable {s t : EvidenceStore}

def oldest (s : EvidenceStore) : Option EvidenceRecord := s.order.findSome? s.byId.lookup

def RingFor (s : EvidenceStore) (byFlow : FiniteMap FlowId (List EvidenceId)) (flow : FlowId) :
    Prop :=
  (byFlow.lookup flow).isSome = true ∨ byFlow.size < s.maxFlowIndex.toNat

/-- There is room for a record of the flow, once the oldest record of a full store is
gone. -/
def HasRoom (s : EvidenceStore) (flow : FlowId) : Prop :=
  s.maxRecords ≠ 0 ∧
    if s.byId.size < s.maxRecords.toNat then s.RingFor s.byFlow flow
    else ∃ r, s.oldest = some r ∧ s.RingFor (unindexFlow s.byFlow r.flowId r.id) flow

def Takes (s : EvidenceStore) (record : EvidenceRecord) : Prop :=
  record.id.isEmpty = false ∧
    match s.byId.lookup record.id with
    | some existing =>
      existing.contentDigest = record.contentDigest ∧ existing.publisher = record.publisher
    | none => s.HasRoom record.flowId

def Bounded (s : EvidenceStore) : Prop := s.byId.size ≤ s.maxRecords.toNat

/-- A full store within its bound loses exactly its oldest record. -/
theorem evictFrom_full {order : List EvidenceId} (h : s.Indexed order)
    (hfull : s.byId.size = s.maxRecords.toNat) (hpos : s.maxRecords ≠ 0) :
    ∃ r, order.findSome? s.byId.lookup = some r ∧ (s.evictFrom order).byId = s.byId.erase r.id ∧
      (s.evictFrom order).byFlow = unindexFlow s.byFlow r.flowId r.id := by
  induction order with
  | nil =>
    have hroom := (evicted_evictFrom h).room hpos
    simp only [evictFrom] at hroom
    omega
  | cons id rest ih =>
    cases hid : s.byId.lookup id with
    | none =>
      have hrest : s.Indexed rest := by
        refine ⟨h.keyed, h.ring_nodup, h.ring_stored, fun j r hj => ?_⟩
        rcases List.mem_cons.mp (h.ordered j r hj) with rfl | hmem
        · rw [hid] at hj
          cases hj
        · exact hmem
      simp only [evictFrom, if_pos hfull.ge, hid, List.findSome?_cons]
      exact ih hrest
    | some record =>
      have hkey := h.keyed id record hid
      subst hkey
      -- one record less is below the bound, so the loop ends here
      have hsize := size_erase_of_lookup hid
      refine ⟨record, by simp [hid], ?_⟩
      simp only [evictFrom, if_pos hfull.ge, hid]
      cases rest with
      | nil => exact ⟨rfl, rfl⟩
      | cons next rest =>
        have hbelow : ¬ FiniteMap.size (s.byId.erase record.id) ≥ s.maxRecords.toNat := by omega
        rw [evictFrom, if_neg hbelow]
        exact ⟨rfl, rfl⟩

theorem makeRoom_full (h : s.Indexed s.order) (hbound : s.Bounded)
    (hpos : s.maxRecords ≠ 0) (hfull : ¬ s.byId.size < s.maxRecords.toNat) :
    ∃ r, s.oldest = some r ∧ s.makeRoom.byFlow = unindexFlow s.byFlow r.flowId r.id := by
  have hsize : s.byId.size = s.maxRecords.toNat := le_antisymm hbound (not_lt.mp hfull)
  obtain ⟨r, hr, -, hbyFlow⟩ := evictFrom_full h hsize hpos
  refine ⟨r, hr, ?_⟩
  rw [makeRoom, if_pos hsize.ge]
  exact hbyFlow

/-- When a free identity finds room. -/
theorem room_iff (h : s.Indexed s.order) (hbound : s.Bounded) (flow : FlowId) :
    s.makeRoom.byId.size < s.maxRecords.toNat ∧ s.RingFor s.makeRoom.byFlow flow ↔
      s.HasRoom flow := by
  have hevicted := evicted_makeRoom h
  unfold HasRoom
  by_cases hpos : s.maxRecords = 0
  · simp [hpos]
  have hroom := hevicted.room hpos
  by_cases hspace : s.byId.size < s.maxRecords.toNat
  · have hsame : s.makeRoom = s := by
      rw [makeRoom, if_neg (not_le.mpr hspace)]
    rw [hsame, if_pos hspace]
    exact ⟨fun hring => ⟨hpos, hring.2⟩, fun hring => ⟨hspace, hring.2⟩⟩
  · obtain ⟨r, hr, hbyFlow⟩ := makeRoom_full h hbound hpos hspace
    rw [if_neg hspace, hbyFlow]
    constructor
    · rintro ⟨-, hring⟩
      exact ⟨hpos, r, hr, hring⟩
    · rintro ⟨-, r', hr', hring⟩
      rw [hr] at hr'
      cases hr'
      exact ⟨hroom, hring⟩

/-- `insert` succeeds exactly on the records that the store takes. -/
theorem insert_ok_iff (h : s.Indexed s.order) (hbound : s.Bounded)
    (record : EvidenceRecord) : (s.insert record).1 = .ok () ↔ s.Takes record := by
  have hevicted := evicted_makeRoom h
  have hroom := room_iff h hbound record.flowId
  unfold insert Takes
  cases hempty : record.id.isEmpty with
  | true => simp
  | false =>
    simp only [Bool.false_eq_true, if_false, true_and]
    cases hid : s.byId.lookup record.id with
    | some existing =>
      dsimp only
      split_ifs with hsame
      · simp [hsame]
      · simp [hsame]
    | none =>
      dsimp only
      rw [← hroom, hevicted.maxRecords, hevicted.maxFlowIndex, RingFor]
      by_cases hfull : s.makeRoom.byId.size ≥ s.maxRecords.toNat
      · rw [if_pos hfull]
        simp [not_lt.mpr hfull]
      · rw [if_neg hfull]
        have hspace : s.makeRoom.byId.size < s.maxRecords.toNat := not_le.mp hfull
        by_cases hindex : (s.makeRoom.byFlow.lookup record.flowId).isNone = true ∧
            s.makeRoom.byFlow.size ≥ s.maxFlowIndex.toNat
        · rw [if_pos hindex]
          have hnone : (s.makeRoom.byFlow.lookup record.flowId).isSome = false := by
            simpa using hindex.1
          simp [hnone, not_lt.mpr hindex.2]
        · rw [if_neg hindex]
          simp only [hspace, true_and, true_iff]
          by_contra hring
          push Not at hring
          refine hindex ⟨?_, hring.2⟩
          simpa using hring.1

theorem Reviewed.size (h : Reviewed s t) : t.byId.size = s.byId.size :=
  size_eq_of_isSome h.isSome

theorem Reviewed.bounded (h : Reviewed s t) (hs : s.Bounded) : t.Bounded := by
  rw [Bounded, h.size, h.maxRecords]
  exact hs

/-- A record has its later version under the same identity. -/
theorem Reviewed.lookup (h : Reviewed s t) (id : EvidenceId) :
    Option.Rel Weakens (s.byId.lookup id) (t.byId.lookup id) := by
  have hsome := h.isSome id
  cases hr' : t.byId.lookup id with
  | none =>
    rw [hr'] at hsome
    have hr : s.byId.lookup id = none := by simpa using hsome.symm
    rw [hr]
    exact .none
  | some r' =>
    obtain ⟨r, hr, hw⟩ := h.evolved id r' hr'
    rw [hr]
    exact .some hw

theorem Reviewed.oldest (h : Reviewed s t) : Option.Rel Weakens s.oldest t.oldest := by
  unfold EvidenceStore.oldest
  rw [h.order]
  induction s.order with
  | nil => exact .none
  | cons id rest ih =>
    have hid := h.lookup id
    rw [List.findSome?_cons, List.findSome?_cons]
    generalize s.byId.lookup id = found at hid
    generalize t.byId.lookup id = found' at hid
    cases hid with
    | none => exact ih
    | some hw => exact .some hw

theorem Reviewed.hasRoom_iff (h : Reviewed s t) (flow : FlowId) :
    t.HasRoom flow ↔ s.HasRoom flow := by
  have hold := h.oldest
  unfold HasRoom RingFor
  rw [h.maxRecords, h.size, h.byFlow, h.maxFlowIndex]
  generalize s.oldest = first at hold
  generalize t.oldest = first' at hold
  cases hold with
  | none => rfl
  | some hw =>
    refine and_congr_right fun _ => ?_
    split_ifs
    · rfl
    · simp only [Option.some.injEq, exists_eq_left']
      rw [hw.submission]

theorem Reviewed.takes_iff (h : Reviewed s t) (record : EvidenceRecord) :
    t.Takes record ↔ s.Takes record := by
  have hid := h.lookup record.id
  unfold Takes
  refine and_congr_right fun _ => ?_
  generalize s.byId.lookup record.id = found at hid
  generalize t.byId.lookup record.id = found' at hid
  cases hid with
  | none => exact h.hasRoom_iff record.flowId
  | some hw =>
    dsimp only
    rw [hw.submission]

theorem Evolved.size_le (h : Evolved s t) : t.byId.size ≤ s.byId.size := by
  apply size_le_of_isSome
  intro id hid
  obtain ⟨r', hr'⟩ := Option.isSome_iff_exists.mp hid
  obtain ⟨r, hr, -⟩ := h id r' hr'
  rw [hr]
  rfl

theorem bounded_insert (h : s.Indexed s.order) (hs : s.Bounded)
    (record : EvidenceRecord) : (s.insert record).2.Bounded := by
  have hevicted := evicted_makeRoom h
  have hmade : s.makeRoom.Bounded := by
    rw [Bounded, hevicted.maxRecords]
    exact hevicted.evolved.size_le.trans hs
  have hexit := inserted s record
  generalize s.insert record = out at hexit
  cases hexit with
  | known => exact hs
  | rejected e => exact hs
  | full e => exact hmade
  | placed hnew hroom =>
    have hsize := size_insert_of_lookup_none (v := record)
      (hevicted.evolved.lookup_none hnew)
    rw [Bounded, place]
    dsimp only
    omega

theorem bounded_restoreRecord (hs : s.Bounded) (record : EvidenceRecord) :
    (s.restoreRecord record).2.Bounded := by
  have hindexed : (s.indexFlow record.flowId record.id).byId = s.byId ∧
      (s.indexFlow record.flowId record.id).maxRecords = s.maxRecords := by
    unfold indexFlow
    cases s.byFlow.lookup record.flowId <;> exact ⟨rfl, rfl⟩
  unfold restoreRecord
  split_ifs with hdup hfull
  · exact hs
  · exact hs
  · have hfree : s.byId.lookup record.id = none := by simpa using hdup
    have hsize := size_insert_of_lookup_none (v := reloaded record) hfree
    rw [Bounded]
    dsimp only
    rw [hindexed.1, hindexed.2]
    omega

end FlowClassifier.Store.EvidenceStore
