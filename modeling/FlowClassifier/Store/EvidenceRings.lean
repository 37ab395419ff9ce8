import FlowClassifier.Lib.Runs
import FlowClassifier.Lib.Sorting
import FlowClassifier.Store.Room

/-!
The layout of the evidence store over runs of its calls. The order of acceptance lists
every stored record once and nothing else, and the ring of a flow holds stored records of
that flow, each once and no more than the bound. A full store gives up the record at the
head of the order and no other.
-/
namespace FlowClassifier.Store

open Lib Foundation Evidence FiniteMap

variable {r : EvidenceRecord} {s' : EvidenceStore}

inductive EvidenceCall where
  | insert (record : EvidenceRecord)
  | setState (id : EvidenceId) (state : EvidenceState) (reason : Bytes)
  | markStaleWhere (p : EvidenceRecord → Bool) (reason : Bytes)
  | markEpochStale (epoch : CoordinatorEpoch)
  | restoreRecord (record : EvidenceRecord)

namespace EvidenceStore

variable {order : List EvidenceId}

def empty (maxRecords maxPerFlow maxFlowIndex : UInt32) : EvidenceStore :=
  { maxRecords := maxRecords, maxPerFlow := maxPerFlow, maxFlowIndex := maxFlowIndex }

def call (s : EvidenceStore) : EvidenceCall → EvidenceStore
  | .insert record => (s.insert record).2
  | .setState id state reason => (s.setState id state reason).2
  | .markStaleWhere p reason => s.markStaleWhere p reason
  | .markEpochStale epoch => s.markEpochStale epoch
  | .restoreRecord record => (s.restoreRecord record).2

section Rings

variable {s t : EvidenceStore} {flow : FlowId} {id : EvidenceId}

theorem mem_evidenceForFlow_iff (h : s.Indexed s.order) :
    id ∈ s.evidenceForFlow flow ↔ id ∈ s.ring flow :=
  (evidenceForFlow_perm h flow).mem_iff

theorem mem_recordsForFlow_iff (h : s.Indexed s.order) :
    r ∈ s.recordsForFlow flow ↔ r.id ∈ s.ring flow ∧ s.byId.lookup r.id = some r := by
  rw [← mem_evidenceForFlow_iff h, evidenceForFlow, List.mem_map]
  constructor
  · exact fun hr => ⟨⟨r, hr, rfl⟩, (mem_recordsForFlow h hr).1⟩
  · rintro ⟨⟨q, hq, hid⟩, hr⟩
    have hlookup := (mem_recordsForFlow h hq).1
    rw [hid, hr] at hlookup
    cases hlookup
    exact hq

theorem Indexed.flow_of_ring (h : s.Indexed s.order) (hid : id ∈ s.ring flow)
    (hr : s.byId.lookup id = some r) : r.flowId = flow := by
  obtain ⟨q, hq, hflow⟩ := h.stored_of_ring hid
  rw [hr] at hq
  cases hq
  exact hflow

/-- Every record is still there after a review. -/
theorem Reviewed.stored (h : Reviewed s t)
    (hr : s.byId.lookup id = some r) : ∃ r', t.byId.lookup id = some r' ∧ Weakens r r' := by
  obtain ⟨r', hr'⟩ : ∃ r', t.byId.lookup id = some r' :=
    Option.isSome_iff_exists.mp (by rw [h.isSome id, hr, Option.isSome_some])
  obtain ⟨q, hq, hweak⟩ := h.evolved id r' hr'
  rw [hr] at hq
  cases hq
  exact ⟨r', hr', hweak⟩

theorem Reviewed.ring (h : Reviewed s t) (flow : FlowId) : t.ring flow = s.ring flow := by
  rw [EvidenceStore.ring, h.byFlow, EvidenceStore.ring]

theorem ring_withoutRecord (s : EvidenceStore) (record : EvidenceRecord) (flow : FlowId) :
    (s.withoutRecord record).ring flow =
      if flow = record.flowId then (s.ring flow).filter (· ≠ record.id) else s.ring flow := by
  unfold ring withoutRecord unindexFlow
  dsimp only
  by_cases hflow : flow = record.flowId
  · subst hflow
    rw [if_pos rfl]
    cases hold : s.byFlow.lookup record.flowId with
    | none =>
      dsimp only
      rw [hold]
      rfl
    | some old =>
      dsimp only
      split_ifs with hempty
      · rw [lookup_erase_eq, if_pos rfl]
        exact (List.isEmpty_iff.mp hempty).symm
      · rw [lookup_insert_eq, if_pos rfl]
        rfl
  · rw [if_neg hflow]
    cases s.byFlow.lookup record.flowId with
    | none => rfl
    | some old =>
      dsimp only
      split_ifs
      · rw [lookup_erase_eq, if_neg hflow]
      · rw [lookup_insert_eq, if_neg hflow]

theorem ring_evictFrom (order : List EvidenceId) (s : EvidenceStore)
    (h : id ∈ (s.evictFrom order).ring flow) : id ∈ s.ring flow := by
  induction order generalizing s with
  | nil => exact h
  | cons first rest ih =>
    by_cases hfull : s.byId.size ≥ s.maxRecords.toNat
    · cases hfirst : s.byId.lookup first with
      | none =>
        simp only [evictFrom, if_pos hfull, hfirst] at h
        exact ih s h
      | some record =>
        simp only [evictFrom, if_pos hfull, hfirst] at h
        have hkept := ih _ h
        change id ∈ (s.withoutRecord record).ring flow at hkept
        rw [ring_withoutRecord] at hkept
        split_ifs at hkept
        · exact List.mem_of_mem_filter hkept
        · exact hkept
    · simp only [evictFrom, if_neg hfull] at h
      exact h

theorem ring_makeRoom (h : id ∈ s.makeRoom.ring flow) : id ∈ s.ring flow := by
  unfold makeRoom at h
  split_ifs at h
  · exact ring_evictFrom _ s h
  · exact h

theorem ring_place (s : EvidenceStore) (record : EvidenceRecord) (flow : FlowId) :
    (s.place record).ring flow =
      if flow = record.flowId then
        (s.ring flow).drop (s.overflowOf (s.ring flow)) ++ [record.id]
      else s.ring flow := by
  have hlookup : (s.place record).byFlow.lookup flow =
      if flow = record.flowId then some ((s.ring record.flowId).drop
        (s.overflowOf (s.ring record.flowId)) ++ [record.id])
      else s.byFlow.lookup flow := lookup_insert_eq _ _ _ _
  rw [ring, hlookup]
  split_ifs with hflow
  · rw [hflow]
    rfl
  · rfl

/-- What an insertion adds to a ring: the record, and only when it is stored. -/
theorem ring_insert (s : EvidenceStore) (record : EvidenceRecord) :
    (∀ flow id, id ∈ (s.insert record).2.ring flow →
      id ∈ s.ring flow ∨ (s.insert record).1 = .ok () ∧ s.byId.lookup record.id = none ∧
        id = record.id ∧ flow = record.flowId) ∧
    ((s.insert record).1 = .ok () → s.byId.lookup record.id = none →
      record.id ∈ (s.insert record).2.ring record.flowId) := by
  have hexit := inserted s record
  generalize s.insert record = out at hexit
  cases hexit with
  | known hstored =>
    refine ⟨fun _ _ h => Or.inl h, fun _ hnew => ?_⟩
    rw [hnew] at hstored
    cases hstored
  | rejected e => exact ⟨fun _ _ h => Or.inl h, fun h => by cases h⟩
  | full e => exact ⟨fun _ _ h => Or.inl (ring_makeRoom h), fun h => by cases h⟩
  | placed hnew =>
    refine ⟨fun flow id h => ?_, fun _ _ => ?_⟩
    · rw [ring_place] at h
      split_ifs at h with hflow
      · rcases List.mem_append.mp h with hold | hlast
        · exact Or.inl (ring_makeRoom (List.mem_of_mem_drop hold))
        · exact Or.inr ⟨rfl, hnew, List.mem_singleton.mp hlast, hflow⟩
      · exact Or.inl (ring_makeRoom h)
    · rw [ring_place, if_pos rfl]
      exact List.mem_append_right _ List.mem_cons_self

end Rings

/-- The order lists the stored records and repeats none. A ring outgrows its bound only
when the bound is zero, and only then can it be empty. -/
structure Laid (s : EvidenceStore) (order : List EvidenceId) : Prop extends
    Indexed s order where
  once : order.Nodup
  stored : ∀ id ∈ order, (s.byId.lookup id).isSome = true
  ring_length : ∀ flow ids, s.byFlow.lookup flow = some ids →
    ids.length ≤ max 1 s.maxPerFlow.toNat
  ring_ne_nil : s.maxPerFlow ≠ 0 → ∀ flow ids, s.byFlow.lookup flow = some ids → ids ≠ []

theorem laid_empty (maxRecords maxPerFlow maxFlowIndex : UInt32) :
    (empty maxRecords maxPerFlow maxFlowIndex).Laid [] := by
  refine ⟨⟨?_, ?_, ?_, ?_⟩, List.nodup_nil, by simp, ?_, ?_⟩ <;> simp [empty]

theorem Relabelled.laid {s : EvidenceStore} (h : Relabelled s s')
    (hs : s.Laid order) : s'.Laid order := by
  refine ⟨h.indexed hs.toIndexed, hs.once, ?_, ?_, ?_⟩
  · intro id hid
    rw [h.isSome]
    exact hs.stored id hid
  · rw [h.byFlow, h.maxPerFlow]
    exact hs.ring_length
  · rw [h.byFlow, h.maxPerFlow]
    exact hs.ring_ne_nil

section Eviction

variable {s : EvidenceStore}

theorem laid_withoutRecord {record : EvidenceRecord} {rest : List EvidenceId}
    (h : s.Laid (record.id :: rest)) (hrecord : s.byId.lookup record.id = some record) :
    (s.withoutRecord record).Laid rest := by
  obtain ⟨hfirst, honce⟩ := List.nodup_cons.mp h.once
  refine ⟨indexed_withoutRecord h.toIndexed hrecord, honce, ?_, ?_, ?_⟩
  · intro id hid
    have hne : id ≠ record.id := by
      rintro rfl
      exact hfirst hid
    rw [withoutRecord, lookup_erase_eq, if_neg hne]
    exact h.stored id (List.mem_cons_of_mem _ hid)
  · intro flow ids hids
    rcases lookup_unindexFlow hids with ⟨-, hsame⟩ | ⟨-, -, old, hold, rfl⟩
    · exact h.ring_length flow ids hsame
    · exact (List.length_filter_le _ old).trans (h.ring_length _ old hold)
  · intro hbound flow ids hids
    rcases lookup_unindexFlow hids with ⟨-, hsame⟩ | ⟨-, hne, -⟩
    · exact h.ring_ne_nil hbound flow ids hsame
    · exact hne

/-- A store within its bound makes room by giving up the head of the order, if it has to
and if there is one. -/
theorem makeRoom_cases (h : s.Laid s.order) (hbound : s.Bounded) :
    s.makeRoom = s ∧ (s.byId.size < s.maxRecords.toNat ∨ s.maxRecords = 0) ∨
    ∃ record rest, s.order = record.id :: rest ∧ s.byId.lookup record.id = some record ∧
      s.byId.size = s.maxRecords.toNat ∧
      s.makeRoom = { s.withoutRecord record with order := rest } := by
  unfold makeRoom
  split_ifs with hfull
  · have hsize : s.byId.size = s.maxRecords.toNat := le_antisymm hbound hfull
    unfold evictOldest
    cases horder : s.order with
    | nil =>
      have hzero : s.maxRecords = 0 := by
        by_contra hpos
        have hroom := (evicted_evictFrom h.toIndexed).room hpos
        rw [horder, evictFrom] at hroom
        exact absurd hsize hroom.ne
      refine Or.inl ⟨?_, Or.inr hzero⟩
      rw [evictFrom, ← horder]
    | cons id rest =>
      rw [horder] at h
      obtain ⟨record, hrecord⟩ := Option.isSome_iff_exists.mp (h.stored id List.mem_cons_self)
      have hkey := h.keyed id record hrecord
      subst hkey
      refine Or.inr ⟨record, rest, rfl, hrecord, hsize, ?_⟩
      rw [evictFrom, if_pos hfull, hrecord]
      -- the store is below its bound now, so the loop stops
      have hless := size_erase_of_lookup hrecord
      cases rest with
      | nil => rfl
      | cons next rest =>
        have hbelow : ¬ FiniteMap.size (s.byId.erase record.id) ≥ s.maxRecords.toNat := by omega
        dsimp only
        rw [evictFrom, if_neg hbelow]
        rfl
  · exact Or.inl ⟨rfl, Or.inl (not_le.mp hfull)⟩

theorem laid_makeRoom (h : s.Laid s.order) (hbound : s.Bounded) :
    s.makeRoom.Laid s.makeRoom.order := by
  rcases makeRoom_cases h hbound with ⟨hsame, -⟩ | ⟨record, rest, horder, hrecord, -, hgone⟩
  · rw [hsame]
    exact h
  · rw [horder] at h
    have hleft := laid_withoutRecord h hrecord
    rw [hgone]
    exact ⟨⟨hleft.keyed, hleft.ring_nodup, hleft.ring_stored, hleft.ordered⟩, hleft.once,
      hleft.stored, hleft.ring_length, hleft.ring_ne_nil⟩

end Eviction

section Calls

variable {s : EvidenceStore}

theorem Laid.not_mem_order (h : s.Laid order) {id : EvidenceId}
    (hnew : s.byId.lookup id = none) : id ∉ order := by
  intro hid
  have hsome := h.stored id hid
  rw [hnew] at hsome
  cases hsome

theorem Laid.length_ring (h : s.Laid order) (flow : FlowId) :
    (s.ring flow).length ≤ max 1 s.maxPerFlow.toNat := by
  unfold ring
  cases hids : s.byFlow.lookup flow with
  | none => simp
  | some ids => exact h.ring_length flow ids hids

theorem Added.laid {record : EvidenceRecord} (h : Added s s' record)
    (hs : s.Laid s.order) : s'.Laid s'.order := by
  refine ⟨h.indexed hs.toIndexed, ?_, ?_, ?_, ?_⟩
  · rw [h.order]
    exact List.concat_eq_append ▸ hs.once.concat (hs.not_mem_order h.new)
  · intro id hid
    rw [h.order] at hid
    rcases List.mem_append.mp hid with hold | hlast
    · obtain ⟨r, hr⟩ := Option.isSome_iff_exists.mp (hs.stored id hold)
      rw [h.kept hr]
      rfl
    · obtain ⟨stored, -, hbyId⟩ := h.byId
      rw [hbyId, List.mem_singleton.mp hlast, AList.lookup_insert]
      rfl
  · intro flow ids hids
    rw [h.maxPerFlow]
    rcases h.byFlow flow with hsame | ⟨-, added, hadded, hring⟩
    · rw [hsame] at hids
      exact hs.ring_length flow ids hids
    · have hlength := hs.length_ring flow
      have hone : added.length ≤ 1 := by rcases hadded with rfl | ⟨rfl, -⟩ <;> simp
      rw [hring] at hids
      cases hids
      rw [List.length_append, List.length_drop, overflowOf]
      split_ifs <;> omega
  · intro hpos flow ids hids
    rw [h.maxPerFlow] at hpos
    rcases h.byFlow flow with hsame | ⟨-, added, rfl | ⟨-, hzero⟩, hring⟩
    · rw [hsame] at hids
      exact hs.ring_ne_nil hpos flow ids hids
    · rw [hring] at hids
      cases hids
      simp
    · exact absurd hzero hpos

theorem laid_insert (h : s.Laid s.order) (hbound : s.Bounded) (record : EvidenceRecord) :
    (s.insert record).2.Laid (s.insert record).2.order := by
  have hroom := laid_makeRoom h hbound
  have hexit := inserted s record
  generalize s.insert record = out at hexit
  cases hexit with
  | known => exact h
  | rejected e =>
    exact ⟨indexed_of_stats h.toIndexed rfl rfl rfl, h.once, h.stored, h.ring_length, h.ring_ne_nil⟩
  | full e =>
    exact ⟨indexed_of_stats hroom.toIndexed rfl rfl rfl, hroom.once, hroom.stored,
      hroom.ring_length, hroom.ring_ne_nil⟩
  | placed hnew =>
    exact (added_place ((evicted_makeRoom h.toIndexed).evolved.lookup_none hnew)).laid hroom

theorem laid_restoreRecord (h : s.Laid s.order) (record : EvidenceRecord) :
    (s.restoreRecord record).2.Laid (s.restoreRecord record).2.order := by
  rcases restoreRecord_cases s record with ⟨e, -, hsame⟩ | ⟨hok, -⟩
  · rw [hsame]
    exact h
  · exact (added_restoreRecord hok).laid h

theorem call_bounds (h : s.Indexed s.order) (op : EvidenceCall) :
    (s.call op).maxRecords = s.maxRecords ∧ (s.call op).maxPerFlow = s.maxPerFlow ∧
      (s.call op).maxFlowIndex = s.maxFlowIndex := by
  cases op with
  | insert record =>
    have hroom := evicted_makeRoom h
    have hexit := inserted s record
    rw [call]
    generalize s.insert record = out at hexit
    cases hexit with
    | known | rejected => exact ⟨rfl, rfl, rfl⟩
    | full | placed => exact ⟨hroom.maxRecords, hroom.maxPerFlow, hroom.maxFlowIndex⟩
  | setState id state reason =>
    have hlabels := relabelled_setState s id state reason
    exact ⟨hlabels.maxRecords, hlabels.maxPerFlow, hlabels.maxFlowIndex⟩
  | markStaleWhere p reason => exact ⟨rfl, rfl, rfl⟩
  | markEpochStale epoch => exact ⟨rfl, rfl, rfl⟩
  | restoreRecord record => exact restoreRecord_bounds s record

def Sound (s : EvidenceStore) : Prop := s.Laid s.order ∧ s.Bounded

theorem sound_empty (maxRecords maxPerFlow maxFlowIndex : UInt32) :
    (empty maxRecords maxPerFlow maxFlowIndex).Sound :=
  ⟨laid_empty _ _ _, Nat.zero_le _⟩

theorem Relabelled.sound (h : Relabelled s s') (hs : s.Sound) : s'.Sound := by
  refine ⟨?_, ?_⟩
  · rw [h.order]
    exact h.laid hs.1
  · rw [Bounded, h.maxRecords, size_eq_of_isSome h.isSome]
    exact hs.2

theorem sound_call (h : s.Sound) (op : EvidenceCall) : (s.call op).Sound := by
  cases op with
  | insert record => exact ⟨laid_insert h.1 h.2 record, bounded_insert h.1.toIndexed h.2 record⟩
  | setState id state reason => exact (relabelled_setState s id state reason).sound h
  | markStaleWhere p reason => exact (reviewed_markStaleWhere s p reason).relabelled.sound h
  | markEpochStale epoch => exact (reviewed_markEpochStale s epoch).relabelled.sound h
  | restoreRecord record =>
    exact ⟨laid_restoreRecord h.1 record, bounded_restoreRecord h.2 record⟩

theorem sound_run (h : s.Sound) (calls : List EvidenceCall) : (run call s calls).Sound :=
  List.foldlRecOn (motive := Sound) calls call h fun _ hs op _ => sound_call hs op

theorem bounds_run (h : s.Sound) (calls : List EvidenceCall) :
    (run call s calls).maxRecords = s.maxRecords ∧
      (run call s calls).maxPerFlow = s.maxPerFlow := by
  induction calls generalizing s with
  | nil => exact ⟨rfl, rfl⟩
  | cons op rest ih =>
    obtain ⟨hrecords, hperFlow, -⟩ := call_bounds h.1.toIndexed op
    obtain ⟨hrecords', hperFlow'⟩ := ih (sound_call h op)
    exact ⟨hrecords'.trans hrecords, hperFlow'.trans hperFlow⟩

end Calls

/-- The listed records are in the order of their sequence numbers. -/
theorem evidenceForFlow_sorted {s : EvidenceStore} (h : s.Indexed order) (flow : FlowId) :
    (s.evidenceForFlow flow).Pairwise fun a b => ∀ r r', s.byId.lookup a = some r →
      s.byId.lookup b = some r' → r.acceptedSeq ≤ r'.acceptedSeq := by
  rw [evidenceForFlow, List.pairwise_map]
  have hsorted := pairwise_insertionSort_key
    (fun a b : EvidenceRecord => a.acceptedSeq ≤ b.acceptedSeq) EvidenceRecord.acceptedSeq
    (fun _ _ => Iff.rfl) (((s.byFlow.lookup flow).getD []).filterMap s.byId.lookup)
  refine List.Pairwise.imp_of_mem (fun {a b} ha hb hle r r' hr hr' => ?_) hsorted
  rw [(mem_recordsForFlow h ha).1] at hr
  rw [(mem_recordsForFlow h hb).1] at hr'
  cases hr
  cases hr'
  exact hle

/-- The three containers agree after every sequence of calls, and the bounds hold. -/
theorem store_representation (maxRecords maxPerFlow maxFlowIndex : UInt32)
    (hpos : 1 ≤ maxPerFlow) (calls : List EvidenceCall) :
    let s := run call (empty maxRecords maxPerFlow maxFlowIndex) calls
    (s.order.Nodup ∧ ∀ id, id ∈ s.order ↔ (s.byId.lookup id).isSome = true) ∧
    (∀ flow ids, s.byFlow.lookup flow = some ids →
      ids ≠ [] ∧ ids.length ≤ maxPerFlow.toNat ∧ ids.Nodup ∧
      ∀ id ∈ ids, (∃ r, s.byId.lookup id = some r ∧ r.id = id ∧ r.flowId = flow) ∧
        ∀ other ids', s.byFlow.lookup other = some ids' → id ∈ ids' → other = flow) ∧
    s.byId.size ≤ maxRecords.toNat ∧
    ∀ flow, (s.evidenceForFlow flow).Perm (s.ring flow) ∧
      (s.evidenceForFlow flow).Pairwise fun a b => ∀ r r', s.byId.lookup a = some r →
        s.byId.lookup b = some r' → r.acceptedSeq ≤ r'.acceptedSeq := by
  intro s
  have hempty := sound_empty maxRecords maxPerFlow maxFlowIndex
  obtain ⟨hlaid, hbounded⟩ : s.Sound := sound_run hempty calls
  obtain ⟨hrecords, hperFlow⟩ : s.maxRecords = maxRecords ∧ s.maxPerFlow = maxPerFlow :=
    bounds_run hempty calls
  have hone : 1 ≤ maxPerFlow.toNat := hpos
  have hne : s.maxPerFlow ≠ 0 := by
    rintro hzero
    rw [← hperFlow, hzero] at hone
    exact absurd hone (by decide)
  refine ⟨⟨hlaid.once, fun id => ⟨hlaid.stored id, fun hid => ?_⟩⟩, ?_, ?_, fun flow =>
    ⟨evidenceForFlow_perm hlaid.toIndexed flow, evidenceForFlow_sorted hlaid.toIndexed flow⟩⟩
  · obtain ⟨r, hr⟩ := Option.isSome_iff_exists.mp hid
    exact hlaid.ordered id r hr
  · intro flow ids hids
    have hlength := hlaid.ring_length flow ids hids
    rw [hperFlow, max_eq_right hone] at hlength
    refine ⟨hlaid.ring_ne_nil hne flow ids hids, hlength, hlaid.ring_nodup flow ids hids, ?_⟩
    intro id hid
    obtain ⟨r, hr, hflow⟩ := hlaid.ring_stored flow ids hids id hid
    refine ⟨⟨r, hr, hlaid.keyed id r hr, hflow⟩, ?_⟩
    intro other ids' hids' hid'
    obtain ⟨r', hr', hother⟩ := hlaid.ring_stored other ids' hids' id hid'
    rw [hr] at hr'
    cases hr'
    rw [← hother, hflow]
  · rw [← hrecords]
    exact hbounded

def sampleRecord (id : String) (flow : FlowId) (seq : Seq) : EvidenceRecord :=
  { id := .make (text id), flowId := flow, acceptedSeq := seq }

def sampleCalls : List EvidenceCall :=
  [.insert (sampleRecord "a" {} 1), .insert (sampleRecord "b" { lo := 1 } 2),
    .restoreRecord (sampleRecord "c" {} 4), .insert (sampleRecord "d" {} 3)]

/-- Three records of one flow and one of another, with room for three records and rings of
two. -/
theorem store_representation_sample :
    let s := run call (empty 3 2 2) sampleCalls
    s.order = [.make (text "b"), .make (text "c"), .make (text "d")] ∧
    s.byFlow.lookup {} = some [.make (text "c"), .make (text "d")] ∧
    (s.order.Nodup ∧ s.byId.size ≤ 3) ∧
    (∀ id ∈ s.ring {}, ∃ r, s.byId.lookup id = some r ∧ r.flowId = {}) ∧
    (s.evidenceForFlow {}).Perm (s.ring {}) ∧
    s.evidenceForFlow {} = [.make (text "d"), .make (text "c")] := by
  intro s
  obtain ⟨⟨hnodup, -⟩, hrings, hsize, hlisted⟩ := store_representation 3 2 2 (by decide) sampleCalls
  have hring : s.byFlow.lookup {} = some [.make (text "c"), .make (text "d")] := by decide +kernel
  refine ⟨by decide +kernel, hring, ⟨hnodup, hsize⟩, fun id hid => ?_, (hlisted {}).1,
    by decide +kernel⟩
  have hids : s.ring {} = [.make (text "c"), .make (text "d")] := by
    rw [ring, hring]
    rfl
  rw [hids] at hid
  obtain ⟨⟨r, hr, -, hflow⟩, -⟩ := (hrings {} _ hring).2.2.2 id hid
  exact ⟨r, hr, hflow⟩

end EvidenceStore
end FlowClassifier.Store
