import FlowClassifier.Store.EvidenceRings

/-!
Which records an evidence store gives up. The store knows the age of a record by its
position in the order of acceptance and in the ring of its flow, so it gives up the record
with the least sequence number as long as positions follow sequence numbers. Insertions
keep them in step; a restart does so only when the snapshot, which is sorted by identity,
is in the order of acceptance. A refused insertion can cost a record, since the store makes
room before it looks at the index of flows.
-/
namespace FlowClassifier.Store

open Lib Foundation Evidence FiniteMap

variable {r : EvidenceRecord}

namespace EvidenceStore

variable {ids : List EvidenceId}

def Older (s : EvidenceStore) (a b : EvidenceId) : Prop :=
  ∀ r r', s.byId.lookup a = some r → s.byId.lookup b = some r' → r.acceptedSeq < r'.acceptedSeq

structure ByAge (s : EvidenceStore) : Prop where
  order : s.order.Pairwise s.Older
  ring : ∀ flow, (s.ring flow).Pairwise s.Older

def Newest (s : EvidenceStore) (record : EvidenceRecord) : Prop :=
  ∀ id r, s.byId.lookup id = some r → r.acceptedSeq < record.acceptedSeq

instance (s : EvidenceStore) (record : EvidenceRecord) : Decidable (s.Newest record) :=
  decidable_of_iff (∀ r ∈ s.byId.values, r.acceptedSeq < record.acceptedSeq)
    ⟨fun h _ r hr => h r (mem_values_of_lookup hr), fun h r hr =>
      let ⟨id, hid⟩ := mem_values.mp hr
      h id r hid⟩

section Ages

variable {s s' : EvidenceStore} {a b : EvidenceId}

theorem Older.mono (h : s.Older a b) (hrecords : ∀ id r', s'.byId.lookup id = some r' →
      ∃ r, s.byId.lookup id = some r ∧ r'.acceptedSeq = r.acceptedSeq) : s'.Older a b := by
  intro r r' hr hr'
  obtain ⟨q, hq, hseq⟩ := hrecords a r hr
  obtain ⟨q', hq', hseq'⟩ := hrecords b r' hr'
  rw [hseq, hseq']
  exact h q q' hq hq'

theorem Relabelled.byAge (h : Relabelled s s') (hs : s.ByAge) : s'.ByAge := by
  have hrecords : ∀ id r', s'.byId.lookup id = some r' →
      ∃ r, s.byId.lookup id = some r ∧ r'.acceptedSeq = r.acceptedSeq := by
    intro id r' hr'
    obtain ⟨r, hr, hsame⟩ := h.records id r' hr'
    exact ⟨r, hr, by rw [hsame]⟩
  refine ⟨?_, fun flow => ?_⟩
  · rw [h.order]
    exact hs.order.imp fun hold => hold.mono hrecords
  · rw [EvidenceStore.ring, h.byFlow]
    exact (hs.ring flow).imp fun hold => hold.mono hrecords

/-- The newest record goes last. -/
theorem Added.pairwise_append {record : EvidenceRecord} (h : Added s s' record)
    (hids : ids.Pairwise s.Older) (hnew : record.id ∉ ids)
    (hnewest : s.Newest record) : (ids ++ [record.id]).Pairwise s'.Older := by
  have hold : ∀ {id r}, id ∈ ids → s'.byId.lookup id = some r → s.byId.lookup id = some r := by
    intro id r hid hr
    rcases h.lookup hr with ⟨rfl, -⟩ | ⟨-, hold⟩
    · exact absurd hid hnew
    · exact hold
  refine List.pairwise_append.mpr ⟨?_, List.pairwise_singleton _ _, ?_⟩
  · exact hids.imp_of_mem fun ha hb holder r r' hr hr' => holder r r' (hold ha hr) (hold hb hr')
  · intro id hid last hlast r r' hr hr'
    rw [List.mem_singleton.mp hlast] at hr'
    rcases h.lookup hr' with ⟨-, hweak⟩ | ⟨hne, -⟩
    · rw [hweak.submission]
      exact hnewest id r (hold hid hr)
    · exact absurd rfl hne

end Ages

section Rings

variable {s : EvidenceStore}

/-- Making room leaves a ring with what is still stored. -/
theorem ring_makeRoom_eq (h : s.Sound) (flow : FlowId) : s.makeRoom.ring flow =
      (s.ring flow).filter fun id => (s.makeRoom.byId.lookup id).isSome := by
  have hstored : ∀ id ∈ s.ring flow, ∃ r, s.byId.lookup id = some r ∧ r.flowId = flow :=
    fun id hid => h.1.toIndexed.stored_of_ring hid
  rcases makeRoom_cases h.1 h.2 with ⟨hsame, -⟩ | ⟨record, rest, -, hrecord, -, hgone⟩
  · rw [hsame]
    refine (List.filter_eq_self.mpr fun id hid => ?_).symm
    obtain ⟨r, hr, -⟩ := hstored id hid
    rw [hr]
    rfl
  · have hleft : ∀ id ∈ s.ring flow,
        (s.makeRoom.byId.lookup id).isSome = decide (id ≠ record.id) := by
      intro id hid
      obtain ⟨r, hr, -⟩ := hstored id hid
      rw [hgone, withoutRecord]
      dsimp only
      rw [lookup_erase_eq, hr]
      by_cases heq : id = record.id <;> simp [heq]
    have hring : s.makeRoom.ring flow = (s.withoutRecord record).ring flow := by rw [hgone]; rfl
    rw [List.filter_congr hleft, hring, ring_withoutRecord]
    split_ifs with hflow
    · rfl
    · refine (List.filter_eq_self.mpr fun id hid => ?_).symm
      obtain ⟨r, hr, hrflow⟩ := hstored id hid
      rw [decide_eq_true_iff]
      rintro rfl
      rw [hrecord] at hr
      cases hr
      exact hflow hrflow.symm

theorem overflowOf_le_one (h : ids.length ≤ max 1 s.maxPerFlow.toNat) : s.overflowOf ids ≤ 1 := by
  unfold overflowOf
  split_ifs <;> omega

theorem overflowOf_short (h : ids.length < max 1 s.maxPerFlow.toNat) : s.overflowOf ids = 0 := by
  unfold overflowOf
  split_ifs <;> omega

end Rings

section Calls

variable {s s' : EvidenceStore} {record : EvidenceRecord}

theorem byAge_makeRoom (h : s.Sound) (hage : s.ByAge) : s.makeRoom.ByAge := by
  have hrecords : ∀ id r', s.makeRoom.byId.lookup id = some r' →
      ∃ r, s.byId.lookup id = some r ∧ r'.acceptedSeq = r.acceptedSeq := by
    intro id r' hr'
    obtain ⟨r, hr, hw⟩ := (evicted_makeRoom h.1.toIndexed).evolved id r' hr'
    exact ⟨r, hr, by rw [hw.submission]⟩
  refine ⟨?_, fun flow => ?_⟩
  · have hsublist : s.makeRoom.order.Sublist s.order := by
      rcases makeRoom_cases h.1 h.2 with ⟨hsame, -⟩ | ⟨record, rest, horder, -, -, hgone⟩
      · rw [hsame]
      · rw [hgone, horder]
        exact List.sublist_cons_self _ _
    exact (hage.order.sublist hsublist).imp fun hold => hold.mono hrecords
  · rw [ring_makeRoom_eq h]
    exact ((hage.ring flow).sublist List.filter_sublist).imp fun hold => hold.mono hrecords

theorem Added.ring (h : Added s s' record) (flow : FlowId) :
    s'.ring flow = s.ring flow ∨ ∃ added, (added = [record.id] ∨ added = []) ∧
      s'.ring flow = (s.ring flow).drop (s.overflowOf (s.ring flow)) ++ added := by
  rcases h.byFlow flow with hsame | ⟨-, added, hadded, hring⟩
  · exact Or.inl (by rw [EvidenceStore.ring, hsame, EvidenceStore.ring])
  · exact Or.inr ⟨added, hadded.imp_right And.left, by rw [EvidenceStore.ring, hring]; rfl⟩

theorem Added.byAge (h : Added s s' record) (hs : s.Laid s.order) (hage : s.ByAge)
    (hnewest : s.Newest record) : s'.ByAge := by
  refine ⟨?_, fun flow => ?_⟩
  · rw [h.order]
    exact h.pairwise_append hage.order (hs.not_mem_order h.new) hnewest
  · have hall := h.pairwise_append (hage.ring flow) (h.not_mem_ring hs.toIndexed flow) hnewest
    rcases h.ring flow with hsame | ⟨added, hadded, hring⟩
    · rw [hsame]
      exact hall.sublist (List.sublist_append_left _ _)
    · rw [hring]
      refine hall.sublist (List.Sublist.append (List.drop_sublist _ _) ?_)
      rcases hadded with rfl | rfl
      · exact List.Sublist.refl _
      · exact List.nil_sublist _

/-- A newest record goes last, in the order and in its ring. -/
theorem byAge_insert (h : s.Sound) (hage : s.ByAge)
    (hnewest : s.Newest record) : (s.insert record).2.ByAge := by
  have hroom := byAge_makeRoom h hage
  have hevicted := evicted_makeRoom h.1.toIndexed
  have hexit := inserted s record
  generalize s.insert record = out at hexit
  cases hexit with
  | known => exact hage
  | rejected e => exact ⟨hage.order, hage.ring⟩
  | full e => exact ⟨hroom.order, hroom.ring⟩
  | placed hnew =>
    refine (added_place (hevicted.evolved.lookup_none hnew)).byAge (laid_makeRoom h.1 h.2) hroom ?_
    intro id r' hr'
    obtain ⟨r, hr, hw⟩ := hevicted.evolved id r' hr'
    rw [hw.submission]
    exact hnewest id r hr

theorem byAge_restoreRecord (h : s.Laid s.order) (hage : s.ByAge) (hnewest : s.Newest record) :
    (s.restoreRecord record).2.ByAge := by
  rcases restoreRecord_cases s record with ⟨e, -, hsame⟩ | ⟨hok, -⟩
  · rw [hsame]
    exact hage
  · exact (added_restoreRecord hok).byAge h hage hnewest

def InOrder (s : EvidenceStore) : EvidenceCall → Prop
  | .insert record => s.Newest record
  | .restoreRecord record => s.Newest record
  | _ => True

def Aged (s : EvidenceStore) : Prop := s.Sound ∧ s.ByAge

theorem aged_call {op : EvidenceCall} (h : s.Aged) (hop : s.InOrder op) : (s.call op).Aged := by
  obtain ⟨hsound, hage⟩ := h
  refine ⟨sound_call hsound op, ?_⟩
  cases op with
  | insert record => exact byAge_insert hsound hage hop
  | setState id state reason => exact (relabelled_setState s id state reason).byAge hage
  | markStaleWhere p reason => exact (reviewed_markStaleWhere s p reason).relabelled.byAge hage
  | markEpochStale epoch => exact (reviewed_markEpochStale s epoch).relabelled.byAge hage
  | restoreRecord record => exact byAge_restoreRecord hsound.1 hage hop

end Calls

/-- What is no longer stored was the oldest record, and what a ring lost while it is still
stored was the oldest of that ring. -/
structure DropsOldest (s s' : EvidenceStore) : Prop where
  evicted : ∀ id r, s.byId.lookup id = some r → s'.byId.lookup id = none →
    ∀ other r', s.byId.lookup other = some r' → r.acceptedSeq ≤ r'.acceptedSeq
  unindexed : ∀ flow, ∀ id ∈ s.ring flow, (s'.byId.lookup id).isSome = true → id ∉ s'.ring flow →
    ∀ other ∈ s.ring flow, ∀ r r', s.byId.lookup id = some r → s.byId.lookup other = some r' →
      r.acceptedSeq ≤ r'.acceptedSeq

section Drops

variable {other : EvidenceId}

variable {s : EvidenceStore}

/-- The head of a list in the order of age is the oldest in it. -/
theorem head_oldest {first : EvidenceId} {rest : List EvidenceId}
    (h : (first :: rest).Pairwise s.Older) (hother : other ∈ first :: rest)
    {r' : EvidenceRecord} (hr : s.byId.lookup first = some r)
    (hr' : s.byId.lookup other = some r') : r.acceptedSeq ≤ r'.acceptedSeq := by
  rcases List.mem_cons.mp hother with rfl | hrest
  · rw [hr] at hr'
    cases hr'
    exact le_refl _
  · exact (List.rel_of_pairwise_cons h hrest r r' hr hr').le

/-- At most the head of a ring makes way for a record. -/
theorem dropped_oldest (h : ids.Pairwise s.Older)
    (hlength : ids.length ≤ max 1 s.maxPerFlow.toNat) {id : EvidenceId} (hid : id ∈ ids)
    (hdropped : id ∉ ids.drop (s.overflowOf ids)) (hother : other ∈ ids)
    {r' : EvidenceRecord} (hr : s.byId.lookup id = some r)
    (hr' : s.byId.lookup other = some r') : r.acceptedSeq ≤ r'.acceptedSeq := by
  have hone := overflowOf_le_one hlength
  cases ids with
  | nil => cases hid
  | cons first rest =>
    generalize s.overflowOf (first :: rest) = dropped at hone hdropped
    obtain rfl | rfl : dropped = 0 ∨ dropped = 1 := by omega
    · exact absurd hid hdropped
    · rcases List.mem_cons.mp hid with rfl | hrest
      · exact head_oldest h hother hr hr'
      · exact absurd hrest hdropped

theorem dropsOldest_of_kept {s' : EvidenceStore}
    (hrecords : ∀ id, (s.byId.lookup id).isSome = true → (s'.byId.lookup id).isSome = true)
    (hrings : ∀ flow, s'.ring flow = s.ring flow) : s.DropsOldest s' := by
  refine ⟨?_, ?_⟩
  · intro id r hr hgone
    have hsome := hrecords id (by rw [hr]; rfl)
    rw [hgone] at hsome
    cases hsome
  · intro flow id hid _ hgone
    rw [hrings] at hgone
    exact absurd hid hgone

/-- What is evicted stands first in the order. -/
theorem evicted_oldest (h : s.Sound) (hage : s.ByAge) {id : EvidenceId}
    (hr : s.byId.lookup id = some r) (hgone : s.makeRoom.byId.lookup id = none)
    {r' : EvidenceRecord} (hr' : s.byId.lookup other = some r') :
    r.acceptedSeq ≤ r'.acceptedSeq := by
  rcases makeRoom_cases h.1 h.2 with ⟨hsame, -⟩ | ⟨record, rest, horder, hrecord, -, hroom⟩
  · rw [hsame, hr] at hgone
    cases hgone
  · have hid : id = record.id := by
      by_contra hne
      rw [hroom] at hgone
      rw [withoutRecord, lookup_erase_eq, if_neg hne, hr] at hgone
      cases hgone
    subst hid
    have hordered := h.1.ordered other r' hr'
    rw [horder] at hordered
    have hpairs := hage.order
    rw [horder] at hpairs
    exact head_oldest hpairs hordered hr hr'

/-- A record is lost by eviction from the order or by the overflow of its ring. -/
theorem dropsOldest_insert (h : s.Sound) (hage : s.ByAge) (record : EvidenceRecord) :
    s.DropsOldest (s.insert record).2 := by
  have hroom := byAge_makeRoom h hage
  have hevicted := evicted_makeRoom h.1.toIndexed
  have hkeep : ∀ {flow id}, id ∈ s.ring flow → (s.makeRoom.byId.lookup id).isSome = true →
      id ∈ s.makeRoom.ring flow := by
    intro flow id hid hstored
    rw [ring_makeRoom_eq h]
    exact List.mem_filter.mpr ⟨hid, hstored⟩
  have hexit := inserted s record
  generalize s.insert record = out at hexit
  cases hexit with
  | known | rejected => exact dropsOldest_of_kept (fun _ h => h) fun _ => rfl
  | full e =>
    refine ⟨fun id r hr hgone other r' => evicted_oldest h hage hr hgone, ?_⟩
    intro flow id hid hstored hgone
    exact absurd (hkeep hid hstored) hgone
  | placed hnew =>
    have hlookup : ∀ id, (s.makeRoom.place record).byId.lookup id =
        if id = record.id then some record else s.makeRoom.byId.lookup id :=
      fun id => lookup_insert_eq _ _ _ _
    refine ⟨fun id r hr hgone other r' => evicted_oldest h hage hr ?_, ?_⟩
    · rw [hlookup] at hgone
      split_ifs at hgone
      exact hgone
    · intro flow id hid hstored hgone other hother r r' hr hr'
      have hne : ∀ j q, s.byId.lookup j = some q → j ≠ record.id := by
        rintro j q hq rfl
        rw [hnew] at hq
        cases hq
      rw [hlookup, if_neg (hne id r hr)] at hstored
      have hring := ring_makeRoom_eq h flow
      have hkept := hkeep hid hstored
      have hdropped : id ∉ (s.makeRoom.ring flow).drop
          (s.makeRoom.overflowOf (s.makeRoom.ring flow)) := by
        rw [ring_place] at hgone
        split_ifs at hgone
        · exact fun hmem => hgone (List.mem_append_left _ hmem)
        · exact absurd hkept hgone
      have hlength := h.1.length_ring flow
      rw [← hevicted.maxPerFlow] at hlength
      by_cases hother' : (s.makeRoom.byId.lookup other).isSome = true
      · -- nothing that matters has been evicted, so the head of the ring is the oldest
        have hsame : ∀ j q, s.byId.lookup j = some q → (s.makeRoom.byId.lookup j).isSome = true →
              ∃ q', s.makeRoom.byId.lookup j = some q' ∧ q'.acceptedSeq = q.acceptedSeq := by
          intro j q hq hsome
          obtain ⟨q', hq'⟩ := Option.isSome_iff_exists.mp hsome
          obtain ⟨p, hp, hw⟩ := hevicted.evolved j q' hq'
          rw [hq] at hp
          cases hp
          exact ⟨q', hq', by rw [hw.submission]⟩
        obtain ⟨q, hq, hseq⟩ := hsame id r hr hstored
        obtain ⟨q', hq', hseq'⟩ := hsame other r' hr' hother'
        rw [← hseq, ← hseq']
        refine dropped_oldest (hroom.ring flow) ?_ hkept hdropped (hkeep hother hother') hq hq'
        refine le_trans ?_ hlength
        rw [hring]
        exact List.length_filter_le _ _
      · -- the ring has lost a record to the eviction, so it has room
        have hshort : (s.makeRoom.ring flow).length < (s.ring flow).length := by
          rw [hring]
          exact List.length_filter_lt_length_iff_exists.mpr ⟨other, hother, hother'⟩
        rw [overflowOf_short (lt_of_lt_of_le hshort hlength)] at hdropped
        exact absurd hkept hdropped

theorem dropsOldest_restoreRecord (h : s.Laid s.order) (hage : s.ByAge)
    (record : EvidenceRecord) : s.DropsOldest (s.restoreRecord record).2 := by
  rcases restoreRecord_cases s record with ⟨e, -, hsame⟩ | ⟨hok, -⟩
  · rw [hsame]
    exact dropsOldest_of_kept (fun _ h => h) fun _ => rfl
  · have hadded := added_restoreRecord hok
    refine ⟨?_, ?_⟩
    · intro id r hr hgone
      rw [hadded.kept hr] at hgone
      cases hgone
    · intro flow id hid _ hgone other hother r r' hr hr'
      rcases hadded.ring flow with hsame | ⟨added, -, hring⟩
      · rw [hsame] at hgone
        exact absurd hid hgone
      · rw [hring] at hgone
        exact dropped_oldest (hage.ring flow) (h.length_ring flow) hid
          (fun hmem => hgone (List.mem_append_left _ hmem)) hother hr hr'

theorem Relabelled.dropsOldest {s' : EvidenceStore} (h : Relabelled s s') : s.DropsOldest s' :=
  dropsOldest_of_kept (fun id hid => by rwa [h.isSome])
    fun flow => by rw [EvidenceStore.ring, h.byFlow, EvidenceStore.ring]

theorem dropsOldest_call (h : s.Aged) (op : EvidenceCall) : s.DropsOldest (s.call op) := by
  cases op with
  | insert record => exact dropsOldest_insert h.1 h.2 record
  | setState id state reason => exact (relabelled_setState s id state reason).dropsOldest
  | markStaleWhere p reason => exact (reviewed_markStaleWhere s p reason).relabelled.dropsOldest
  | markEpochStale epoch => exact (reviewed_markEpochStale s epoch).relabelled.dropsOldest
  | restoreRecord record => exact dropsOldest_restoreRecord h.1.1 h.2 record

end Drops

end EvidenceStore

inductive StoreEvent where
  | call (op : EvidenceCall)
  | restart (maxRecords maxPerFlow maxFlowIndex : UInt32)

namespace EvidenceStore

def restoreCalls (s : EvidenceStore) : List EvidenceCall :=
  s.snapshotRecords.map .restoreRecord

def step (s : EvidenceStore) : StoreEvent → EvidenceStore
  | .call op => s.call op
  | .restart maxRecords maxPerFlow maxFlowIndex =>
    run call (empty maxRecords maxPerFlow maxFlowIndex) s.restoreCalls

/-- Records are inserted in the order of their sequence numbers, and a restart finds the
identities in that order as well. -/
def Orderly (s : EvidenceStore) : StoreEvent → Prop
  | .call op => s.InOrder op
  | .restart _ _ _ => ∀ r ∈ s.byId.values, ∀ r' ∈ s.byId.values, r.id < r'.id →
      r.acceptedSeq < r'.acceptedSeq

def GivesUpOldest (s : EvidenceStore) : StoreEvent → Prop
  | .call op => s.DropsOldest (s.call op)
  | .restart maxRecords maxPerFlow maxFlowIndex =>
    Along call (fun t op => t.DropsOldest (t.call op))
      (empty maxRecords maxPerFlow maxFlowIndex) s.restoreCalls

section Runs

variable {s : EvidenceStore}

theorem aged_empty (maxRecords maxPerFlow maxFlowIndex : UInt32) :
    (empty maxRecords maxPerFlow maxFlowIndex).Aged :=
  ⟨sound_empty _ _ _, List.Pairwise.nil, fun _ => List.Pairwise.nil⟩

/-- A snapshot in the order of the sequence numbers is restored in order. -/
theorem inOrder_restore {records : List EvidenceRecord}
    (hrecords : records.Pairwise fun a b => a.acceptedSeq < b.acceptedSeq)
    (hnewest : ∀ r ∈ records, s.Newest r) : Along call InOrder s (records.map .restoreRecord) := by
  induction records generalizing s with
  | nil => trivial
  | cons first rest ih =>
    obtain ⟨hfirst, hrest⟩ := List.pairwise_cons.mp hrecords
    refine ⟨hnewest first List.mem_cons_self, ih hrest fun r hr => ?_⟩
    have hold := hnewest r (List.mem_cons_of_mem _ hr)
    rcases restoreRecord_cases s first with ⟨e, -, hsame⟩ | ⟨-, -, hbyId, -⟩
    · rw [call, hsame]
      exact hold
    · intro id q hq
      rw [call, hbyId, lookup_insert_eq] at hq
      split_ifs at hq
      · cases hq
        rw [(weakens_reloaded first).submission]
        exact hfirst r hr
      · exact hold id q hq

theorem snapshotRecords_byAge (h : s.Indexed s.order)
    (hids : ∀ r ∈ s.byId.values, ∀ r' ∈ s.byId.values, r.id < r'.id →
      r.acceptedSeq < r'.acceptedSeq) :
    s.snapshotRecords.Pairwise fun a b => a.acceptedSeq < b.acceptedSeq := by
  have hsorted := pairwise_insertionSort_key (fun a b : EvidenceRecord => a.id ≤ b.id)
    EvidenceRecord.id (fun _ _ => Iff.rfl) s.byId.values
  have hdistinct := pairwise_sorted_values EvidenceRecord.id h.keyed
    fun a b => a.id ≤ b.id
  refine (hsorted.and hdistinct).imp_of_mem fun ha hb hle => ?_
  exact hids _ ((List.perm_insertionSort _ _).mem_iff.mp ha) _
    ((List.perm_insertionSort _ _).mem_iff.mp hb) (lt_of_le_of_ne hle.1 hle.2)

theorem restore_inOrder (h : s.Aged) {maxRecords maxPerFlow maxFlowIndex : UInt32}
    (hids : s.Orderly (.restart maxRecords maxPerFlow maxFlowIndex)) :
    Along call InOrder (empty maxRecords maxPerFlow maxFlowIndex) s.restoreCalls :=
  inOrder_restore (snapshotRecords_byAge h.1.1.toIndexed hids) fun _ _ _ _ hr => by
    simp [empty] at hr

theorem aged_step {event : StoreEvent} (h : s.Aged) (hevent : s.Orderly event) :
    (s.step event).Aged := by
  cases event with
  | call op => exact aged_call h hevent
  | restart maxRecords maxPerFlow maxFlowIndex =>
    exact run_invariant call (fun _ _ hop ht => aged_call ht hop) (aged_empty _ _ _)
      (restore_inOrder h hevent)

theorem givesUpOldest_step {event : StoreEvent} (h : s.Aged) (hevent : s.Orderly event) :
    s.GivesUpOldest event := by
  cases event with
  | call op => exact dropsOldest_call h op
  | restart maxRecords maxPerFlow maxFlowIndex =>
    exact (restore_inOrder h hevent).imp_of_invariant (fun _ _ ht hop => aged_call ht hop)
      (fun _ op ht _ => dropsOldest_call ht op) (aged_empty _ _ _)

end Runs

/-- In every run that inserts records in the order of their sequence numbers and restarts
only when the identities are in that order too, what a store gives up is the oldest. -/
theorem gives_up_oldest (maxRecords maxPerFlow maxFlowIndex : UInt32) (events : List StoreEvent)
    (horderly : Along step Orderly (empty maxRecords maxPerFlow maxFlowIndex) events) :
    Along step GivesUpOldest (empty maxRecords maxPerFlow maxFlowIndex) events :=
  horderly.imp_of_invariant (fun _ _ hs hevent => aged_step hs hevent)
    (fun _ _ hs hevent => givesUpOldest_step hs hevent) (aged_empty _ _ _)

theorem gives_up_oldest_sample :
    Along step GivesUpOldest (empty 2 2 2) [.call (.insert (sampleRecord "a" {} 1)),
      .call (.insert (sampleRecord "b" {} 2)), .restart 2 2 2,
      .call (.insert (sampleRecord "c" {} 3))] :=
  gives_up_oldest 2 2 2 _ ⟨show Newest _ _ by decide, show Newest _ _ by decide,
    by unfold Orderly; decide +kernel, show Newest _ _ by decide +kernel, trivial⟩

/-- After a restart the store takes the record with the least identity for the oldest. -/
theorem restart_forgets_age :
    let s := run step (empty 2 2 2) [.call (.insert (sampleRecord "b" {} 1)),
      .call (.insert (sampleRecord "a" {} 2)), .restart 2 2 2]
    s.Newest (sampleRecord "c" {} 3) ∧
      ¬ s.GivesUpOldest (.call (.insert (sampleRecord "c" {} 3))) := by
  intro s
  refine ⟨by decide +kernel, fun h => ?_⟩
  obtain ⟨r, hr, hseq₂⟩ : ∃ r, s.byId.lookup (.make (text "a")) = some r ∧ r.acceptedSeq = 2 := by
    decide +kernel
  obtain ⟨r', hr', hseq₁⟩ : ∃ r, s.byId.lookup (.make (text "b")) = some r ∧ r.acceptedSeq = 1 := by
    decide +kernel
  have hle := h.evicted _ r hr (by decide +kernel) _ r' hr'
  rw [hseq₁, hseq₂] at hle
  exact absurd hle (by decide)

def LastOfFlow (s : EvidenceStore) (r : EvidenceRecord) : Prop :=
  ∃ ids, s.byFlow.lookup r.flowId = some ids ∧ ∀ id ∈ ids, id = r.id

def IndexRoom (s : EvidenceStore) (r : EvidenceRecord) (flow : FlowId) : Prop :=
  (s.byFlow.lookup flow).isSome = true ∧ ¬ (flow = r.flowId ∧ s.LastOfFlow r) ∨
    s.byFlow.size < s.maxFlowIndex.toNat ∨
    s.LastOfFlow r ∧ s.byFlow.size ≤ s.maxFlowIndex.toNat

/-- No record has to go for this one, or the one that goes makes room for it. -/
def SafeToRefuse (s : EvidenceStore) (record : EvidenceRecord) : Prop :=
  record.id.isEmpty = true ∨ (s.byId.lookup record.id).isSome = true ∨
    s.byId.size < s.maxRecords.toNat ∨ s.maxRecords = 0 ∨
    ∃ first rest r, s.order = first :: rest ∧ s.byId.lookup first = some r ∧
      s.IndexRoom r record.flowId

section Refusals

variable {s : EvidenceStore}

/-- A ring goes with its last record. -/
theorem ringFor_unindexFlow_iff (r : EvidenceRecord) (flow : FlowId) :
    s.RingFor (unindexFlow s.byFlow r.flowId r.id) flow ↔ s.IndexRoom r flow := by
  unfold RingFor IndexRoom unindexFlow
  cases hids : s.byFlow.lookup r.flowId with
  | none => simp [LastOfFlow, hids]
  | some ids =>
    have hlastOf : (ids.filter (· ≠ r.id)).isEmpty = true ↔ s.LastOfFlow r := by
      simp [LastOfFlow, hids, List.filter_eq_nil_iff]
    dsimp only
    by_cases hlast : s.LastOfFlow r
    · rw [if_pos (hlastOf.mpr hlast), lookup_erase_eq]
      have hsize := size_erase_of_lookup hids
      have hless : FiniteMap.size (s.byFlow.erase r.flowId) < s.maxFlowIndex.toNat ↔
          s.byFlow.size ≤ s.maxFlowIndex.toNat := by omega
      rw [hless]
      by_cases hflow : flow = r.flowId
      · simp only [hflow, hlast, if_true, Option.isSome_none, Bool.false_eq_true, and_self,
          not_true_eq_false, and_false, true_and, false_or]
        exact ⟨Or.inr, fun h => h.elim le_of_lt id⟩
      · simp only [hflow, hlast, if_false, not_false_eq_true, and_true, true_and]
        exact or_congr_right ⟨Or.inr, fun h => h.elim le_of_lt id⟩
    · rw [if_neg (mt hlastOf.mp hlast), lookup_insert_eq]
      have hkept : FiniteMap.size (s.byFlow.insert r.flowId (ids.filter (· ≠ r.id))) =
          s.byFlow.size := by
        refine size_eq_of_isSome fun j => ?_
        rw [lookup_insert_eq]
        split_ifs with hj
        · rw [hj, hids]
          rfl
        · rfl
      rw [hkept]
      by_cases hflow : flow = r.flowId
      · subst hflow
        simp [hids, hlast]
      · simp [hflow, hlast]

/-- What `insert` takes, in a full store: the head of the order is what goes. -/
theorem hasRoom_iff (hfull : ¬ s.byId.size < s.maxRecords.toNat)
    (hpos : s.maxRecords ≠ 0) {first : EvidenceId} {rest : List EvidenceId}
    (horder : s.order = first :: rest) (hr : s.byId.lookup first = some r) (flow : FlowId) :
    s.HasRoom flow ↔ s.IndexRoom r flow := by
  have holdest : s.oldest = some r := by
    rw [oldest, horder, List.findSome?_cons, hr]
  rw [HasRoom, if_neg hfull, holdest, ← ringFor_unindexFlow_iff]
  simp [hpos]

/-- In every state of a store, a refusal of the record leaves everything but the counters
alone exactly when no record goes, or the one that goes makes room. -/
theorem refused_insert_unchanged_iff (maxRecords maxPerFlow maxFlowIndex : UInt32)
    (calls : List EvidenceCall) (record : EvidenceRecord) :
    let s := run call (empty maxRecords maxPerFlow maxFlowIndex) calls
    (∀ e, (s.insert record).1 = .error e →
      (s.insert record).2 = { s with stats := (s.insert record).2.stats }) ↔
    s.SafeToRefuse record := by
  intro s
  obtain ⟨hlaid, hbounded⟩ : s.Sound := sound_run (sound_empty _ _ _) calls
  have htakes := insert_ok_iff hlaid.toIndexed hbounded record
  have hexit := inserted s record
  generalize s.insert record = out at htakes hexit
  cases hexit with
  | known hstored => exact ⟨fun _ => Or.inr (Or.inl hstored), fun _ e h => by cases h⟩
  | rejected e hstored =>
    exact ⟨fun _ => hstored.elim Or.inl fun h => Or.inr (Or.inl h), fun _ _ _ => rfl⟩
  | placed hnew =>
    refine ⟨fun _ => ?_, fun _ e h => by cases h⟩
    have hroom : s.HasRoom record.flowId := by
      have htaken := (htakes.mp rfl).2
      rw [hnew] at htaken
      exact htaken
    by_cases hfull : s.byId.size < s.maxRecords.toNat
    · exact Or.inr (Or.inr (Or.inl hfull))
    rcases makeRoom_cases hlaid hbounded with
      ⟨-, hspace | hzero⟩ | ⟨r, rest, horder, hr, -, -⟩
    · exact absurd hspace hfull
    · exact absurd hzero hroom.1
    · exact Or.inr (Or.inr (Or.inr (Or.inr ⟨_, rest, r, horder, hr,
        (hasRoom_iff hfull hroom.1 horder hr _).mp hroom⟩)))
  | full e hnamed hnew =>
    have hrefused : ¬ s.HasRoom record.flowId := by
      intro hroom
      have hok := htakes.mpr ⟨hnamed, by rw [hnew]; exact hroom⟩
      cases hok
    rcases makeRoom_cases hlaid hbounded with
      ⟨hsame, hcases⟩ | ⟨r, rest, horder, hr, hsize, hgone⟩
    · refine ⟨fun _ => Or.inr (Or.inr (hcases.imp_right Or.inl)), fun _ _ _ => ?_⟩
      rw [hsame]
      rfl
    · have hfull : ¬ s.byId.size < s.maxRecords.toNat := hsize.not_lt
      have hpos : s.maxRecords ≠ 0 := by
        intro hzero
        have hless := size_erase_of_lookup hr
        rw [hzero] at hsize
        simp at hsize
        omega
      constructor
      · intro hunchanged
        have hchanged := congrArg EvidenceStore.order (hunchanged e rfl)
        rw [hgone] at hchanged
        have hlength := congrArg List.length hchanged
        simp [countCapacity, horder] at hlength
      · rintro (hempty | hstored | hspace | hzero | ⟨first, rest', r', horder', hr', hindex⟩)
        · rw [hnamed] at hempty
          cases hempty
        · rw [hnew] at hstored
          cases hstored
        · exact absurd hspace hfull
        · exact absurd hzero hpos
        · exact absurd ((hasRoom_iff hfull hpos horder' hr' _).mpr hindex) hrefused

end Refusals

/-- The first record of a flow that keeps its index goes, and the new flow is refused. -/
theorem refused_insert_evicts :
    let s := run call (empty 2 2 1) [.insert (sampleRecord "a" {} 1),
      .insert (sampleRecord "b" {} 2)]
    let out := s.insert (sampleRecord "c" ⟨0, 1⟩ 3)
    out.1 = Status.failure .capacityExceeded (text "evidence flow index is full at 1 flows") ∧
      s.order = [.make (text "a"), .make (text "b")] ∧ out.2.order = [.make (text "b")] :=
  ⟨rfl, by decide +kernel, by decide +kernel⟩

end EvidenceStore
end FlowClassifier.Store
