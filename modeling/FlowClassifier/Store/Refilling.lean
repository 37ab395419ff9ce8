import FlowClassifier.Lib.Filling
import FlowClassifier.Store.EvidenceHistory
import FlowClassifier.Store.Flows
import FlowClassifier.Store.Publishers
import FlowClassifier.Store.Workloads
import Mathlib.Data.List.DropRight

/-!
Restoring the stores from lists of records. A publisher, workload, contract or flow is
refused only when its key is new and the store is full, and a contract also when its digest
is wrong; an evidence record is refused when its identity is there already or the store is
full. What a loop has taken by the time it ends follows from the records alone, and so does
whether the store holds afterwards what it held before.
-/
namespace FlowClassifier.Store

open Lib Foundation Evidence Flows Workloads FiniteMap

namespace PublisherRegistry

def seen (record : PublisherRecord) (tick : Tick) : PublisherRecord :=
  if record.firstSeenTick = tickNone then { record with firstSeenTick := tick } else record

theorem seen_id (record : PublisherRecord) (tick : Tick) : (seen record tick).id = record.id := by
  unfold seen
  split_ifs <;> rfl

def putRecord (tick : Tick) (r : PublisherRegistry) (record : PublisherRecord) :
    PublisherRegistry :=
  { r with
    records := r.records.insert record.id (seen record tick)
    publishers := r.publishers.insert record.id (restoredRegistration (seen record tick) tick) }

theorem fills_restoreRecord (tick : Tick) :
    Fills (fun r record => restoreRecord r record tick) PublisherRecord.id (fun _ => true)
      (putRecord tick) (fun r id => (r.records.lookup id).isSome)
      (fun r => r.maxPublishers.toNat - r.records.size) := by
  refine ⟨?_, ?_, ?_, ?_⟩
  · intro r record htakes
    rw [Bool.true_and, known_or_room_iff, and_comm] at htakes
    unfold restoreRecord
    rw [if_neg htakes]
    show (Except.ok (), { r with
      records := r.records.insert (seen record tick).id (seen record tick)
      publishers := r.publishers.insert (seen record tick).id _ }) = _
    rw [seen_id]
    rfl
  · intro r record hrefuses
    rw [Bool.true_and, ← Bool.not_eq_true, known_or_room_iff, not_not, and_comm]
      at hrefuses
    unfold restoreRecord
    rw [if_pos hrefuses]
    exact ⟨_, rfl⟩
  · exact fun r record => isSome_lookup_insert _ _ _
  · exact fun r record => room_insert _ _ _ _

theorem records_foldl_putRecord (tick : Tick) (r : PublisherRegistry)
    (records : List PublisherRecord) : (records.foldl (putRecord tick) r).records =
      records.foldl (fun m record => m.insert record.id (seen record tick)) r.records :=
  (List.foldl_hom PublisherRegistry.records (fun _ _ => rfl)).symm

theorem publishers_foldl_putRecord (tick : Tick) (r : PublisherRegistry)
    (records : List PublisherRecord) : (records.foldl (putRecord tick) r).publishers =
      records.foldl (fun m record => m.insert record.id
        (restoredRegistration (seen record tick) tick)) r.publishers :=
  (List.foldl_hom PublisherRegistry.publishers (fun _ _ => rfl)).symm

end PublisherRegistry

namespace WorkloadRegistry

def putWorkload (r : WorkloadRegistry) (record : WorkloadRecord) : WorkloadRegistry :=
  { r with workloads := r.workloads.insert record.id record }

theorem fills_restoreWorkload : Fills restoreWorkload WorkloadRecord.id (fun _ => true) putWorkload
      (fun r id => (r.workloads.lookup id).isSome)
      (fun r => r.maxWorkloads.toNat - r.workloads.size) := by
  refine ⟨?_, ?_, ?_, ?_⟩
  · intro r record htakes
    rw [Bool.true_and, known_or_room_iff] at htakes
    unfold restoreWorkload
    rw [if_neg htakes]
    rfl
  · intro r record hrefuses
    rw [Bool.true_and, ← Bool.not_eq_true, known_or_room_iff, not_not] at hrefuses
    unfold restoreWorkload
    rw [if_pos hrefuses]
    exact ⟨_, rfl⟩
  · exact fun r record => isSome_lookup_insert _ _ _
  · exact fun r record => room_insert _ _ _ _

theorem foldl_putWorkload (r : WorkloadRegistry) (records : List WorkloadRecord) :
    records.foldl putWorkload r = { r with
      workloads := records.foldl (fun m record => m.insert record.id record) r.workloads } := by
  induction records generalizing r with
  | nil => rfl
  | cons record rest ih => exact ih _

/-- A contract without a digest is taken as it is. -/
def digestFits (c : WorkloadContract) : Bool :=
  c.definitionDigest == .zero || c.definitionDigest == computeContractDigest c

def digested (c : WorkloadContract) : WorkloadContract :=
  { c with definitionDigest := computeContractDigest c }

def putContract (r : WorkloadRegistry) (c : WorkloadContract) : WorkloadRegistry :=
  { r with contracts := r.contracts.insert c.id (digested c) }

theorem fills_restoreContract : Fills restoreContract WorkloadContract.id digestFits putContract
      (fun r id => (r.contracts.lookup id).isSome)
      (fun r => r.maxContracts.toNat - r.contracts.size) := by
  have hdigest : ∀ c, digestFits c = true ↔
      ¬ (c.definitionDigest ≠ .zero ∧ c.definitionDigest ≠ computeContractDigest c) := by
    intro c
    rw [digestFits, Bool.or_eq_true, beq_iff_eq, beq_iff_eq, not_and_or, not_not, not_not]
  refine ⟨?_, ?_, ?_, ?_⟩
  · intro r c htakes
    rw [Bool.and_eq_true, known_or_room_iff, hdigest] at htakes
    unfold restoreContract
    rw [if_neg htakes.2, if_neg htakes.1]
    rfl
  · intro r c hrefuses
    rw [← Bool.not_eq_true, Bool.and_eq_true, known_or_room_iff, hdigest] at hrefuses
    unfold restoreContract
    by_cases hfull : (r.contracts.lookup c.id).isNone = true ∧
        r.contracts.size ≥ r.maxContracts.toNat
    · rw [if_pos hfull]
      exact ⟨_, rfl⟩
    · rw [if_neg hfull, if_pos (not_not.mp fun hfits => hrefuses ⟨hfits, hfull⟩)]
      exact ⟨_, rfl⟩
  · exact fun r c => isSome_lookup_insert _ _ _
  · exact fun r c => room_insert _ _ _ _

theorem foldl_putContract (r : WorkloadRegistry) (contracts : List WorkloadContract) :
    contracts.foldl putContract r = { r with
      contracts := contracts.foldl (fun m c => m.insert c.id (digested c)) r.contracts } := by
  induction contracts generalizing r with
  | nil => rfl
  | cons c rest ih => exact ih _

end WorkloadRegistry

namespace FlowRegistry

/-- A record whose key has a newer current incarnation. -/
def isPast (r : FlowRegistry) (record : FlowRecord) : Bool :=
  (r.current.lookup record.key).any fun existing => record.generation < existing.generation

/-- What `restore_flow` writes: a past incarnation goes to the history, any other takes the
place of the current one. -/
def putFlow (r : FlowRegistry) (record : FlowRecord) : FlowRegistry :=
  if r.isPast record then
    { r with history := r.history.insert record.id (pushHistory (r.historyOf record.id) record) }
  else { r with current := r.current.insert record.key record }

theorem isPast_iff {r : FlowRegistry} {record : FlowRecord} :
    r.isPast record = true ↔ ∃ existing, r.current.lookup record.key = some existing ∧
      record.generation < existing.generation := by
  unfold isPast
  rw [Option.any_eq_true]
  simp only [decide_eq_true_eq]

theorem lookup_putFlow_of_ne (r : FlowRegistry) (record : FlowRecord) {key : FlowKey}
    (h : key ≠ record.key) : (r.putFlow record).current.lookup key = r.current.lookup key := by
  unfold putFlow
  split_ifs
  · rfl
  · exact AList.lookup_insert_ne h

/-- A record that is put is under its key afterwards, or a newer one is. -/
theorem lookup_putFlow_self (r : FlowRegistry) (record : FlowRecord) :
    ∃ later, (r.putFlow record).current.lookup record.key = some later ∧
      record.generation ≤ later.generation := by
  unfold putFlow
  by_cases hpast : r.isPast record = true
  · rw [if_pos hpast]
    obtain ⟨existing, hexisting, hlt⟩ := isPast_iff.mp hpast
    exact ⟨existing, hexisting, le_of_lt hlt⟩
  · rw [if_neg hpast]
    exact ⟨record, AList.lookup_insert _, le_refl _⟩

/-- A record that is not past replaces the current incarnation of its key. -/
theorem fills_restoreFlow : Fills restoreFlow FlowRecord.key (fun _ => true) putFlow
      (fun r key => (r.current.lookup key).isSome)
      (fun r => r.maxFlows.toNat - r.current.size) := by
  refine ⟨?_, ?_, ?_, ?_⟩
  · intro r record htakes
    rw [Bool.true_and, known_or_room_iff] at htakes
    unfold restoreFlow putFlow isPast
    cases hexisting : r.current.lookup record.key with
    | none =>
      have hroom : ¬ r.current.size ≥ r.maxFlows.toNat := fun hfull =>
        htakes ⟨by rw [hexisting]; rfl, hfull⟩
      dsimp only
      rw [if_neg hroom]
      rfl
    | some existing =>
      by_cases hnewer : existing.generation > record.generation
      · simp [hnewer]
      · simp [hnewer]
  · intro r record hrefuses
    rw [Bool.true_and, ← Bool.not_eq_true, known_or_room_iff, not_not,
      Option.isNone_iff_eq_none] at hrefuses
    unfold restoreFlow
    rw [hrefuses.1]
    dsimp only
    rw [if_pos hrefuses.2]
    exact ⟨_, rfl⟩
  · intro r record
    unfold putFlow
    by_cases hpast : r.isPast record = true
    · obtain ⟨existing, hexisting, _⟩ := isPast_iff.mp hpast
      rw [if_pos hpast]
      funext key
      by_cases hkey : key = record.key
      · rw [hkey, hexisting]
        rfl
      · simp [hkey]
    · rw [if_neg hpast]
      exact isSome_lookup_insert _ _ _
  · intro r record
    unfold putFlow
    by_cases hpast : r.isPast record = true
    · obtain ⟨existing, hexisting, _⟩ := isPast_iff.mp hpast
      rw [if_pos hpast, hexisting]
      rfl
    · rw [if_neg hpast]
      exact room_insert _ _ _ _

def pastOf (r : FlowRegistry) (records : List FlowRecord) (id : FlowId) : List FlowRecord :=
  (records.filter fun record => r.isPast record).filter fun record => record.id = id

def Covers (r : FlowRegistry) (records : List FlowRecord) : Prop :=
  ∀ record ∈ records, ∃ existing, r.current.lookup record.key = some existing ∧
    record.generation ≤ existing.generation

/-- The registry has what the records would leave there. -/
structure HoldsFlows (r : FlowRegistry) (records : List FlowRecord) : Prop where
  covers : r.Covers records
  current : FiniteMap.Holds FlowRecord.key id r.current
    (records.filter fun record => !r.isPast record)
  history : ∀ id, r.pastOf records id ≠ [] →
    r.historyOf id = (r.historyOf id ++ r.pastOf records id).rtake maxHistoryPerKey

/-- The history is cut after every entry, which is to cut it once at the end. -/
theorem foldl_pushHistory {past : List FlowRecord} (h : past ≠ []) (history : List FlowRecord) :
    past.foldl pushHistory history = (history ++ past).rtake maxHistoryPerKey := by
  induction past using List.reverseRecOn with
  | nil => exact absurd rfl h
  | append_singleton past record ih =>
    have hpush : ∀ hs, pushHistory hs record = (hs ++ [record]).rtake maxHistoryPerKey := by
      intro hs
      rw [pushHistory, List.rtake, List.length_append, List.length_singleton]
    rw [List.foldl_append, List.foldl_cons, List.foldl_nil, hpush]
    by_cases hnil : past = []
    · rw [hnil]
      rfl
    · rw [ih hnil, ← List.append_assoc]
      generalize history ++ past = hs
      -- the last eight of the last eight and one more
      unfold List.rtake
      rw [List.length_append, List.length_append, List.length_singleton, List.length_drop,
        List.drop_append, List.drop_append, List.drop_drop, List.length_drop]
      congr 2 <;> simp only [maxHistoryPerKey] <;> omega

section Folding

variable {r : FlowRegistry} {records : List FlowRecord}

/-- The generation under a key never falls while records are put. -/
theorem generation_putFlow (r : FlowRegistry) (record : FlowRecord) {key : FlowKey}
    {existing : FlowRecord} (h : r.current.lookup key = some existing) :
    ∃ later, (r.putFlow record).current.lookup key = some later ∧
      existing.generation ≤ later.generation := by
  by_cases hkey : key = record.key
  · subst hkey
    unfold putFlow
    by_cases hpast : r.isPast record = true
    · rw [if_pos hpast]
      exact ⟨existing, h, le_refl _⟩
    · rw [if_neg hpast]
      refine ⟨record, AList.lookup_insert _, not_lt.mp fun hlt => hpast ?_⟩
      exact isPast_iff.mpr ⟨existing, h, hlt⟩
  · exact ⟨existing, (lookup_putFlow_of_ne r record hkey).trans h, le_refl _⟩

theorem generation_foldl_putFlow (records : List FlowRecord) {key : FlowKey}
    {existing : FlowRecord} (h : r.current.lookup key = some existing) :
    ∃ later, (records.foldl putFlow r).current.lookup key = some later ∧
      existing.generation ≤ later.generation := by
  induction records generalizing r existing with
  | nil => exact ⟨existing, h, le_refl _⟩
  | cons record rest ih =>
    obtain ⟨next, hnext, hle⟩ := generation_putFlow r record h
    obtain ⟨later, hlater, hle'⟩ := ih hnext
    exact ⟨later, hlater, le_trans hle hle'⟩

theorem generation_of_mem_foldl {record : FlowRecord} (h : record ∈ records) :
    ∃ later, (records.foldl putFlow r).current.lookup record.key = some later ∧
      record.generation ≤ later.generation := by
  induction records generalizing r with
  | nil => cases h
  | cons first rest ih =>
    rcases List.mem_cons.mp h with rfl | hrest
    · obtain ⟨placed, hplaced, hle⟩ := lookup_putFlow_self r record
      obtain ⟨later, hlater, hle'⟩ := generation_foldl_putFlow rest hplaced
      exact ⟨later, hlater, le_trans hle hle'⟩
    · exact ih hrest

/-- Records that the registry covers are sorted by what it held at the start: replacing a
current incarnation by another of the same generation changes no comparison. -/
theorem foldl_putFlow (h : r.Covers records) :
    let after := records.foldl putFlow r
    (∀ key, after.current.lookup key =
      ((lastOf FlowRecord.key (records.filter fun f => !r.isPast f) key).map id).or
        (r.current.lookup key)) ∧
    ∀ id, after.history.lookup id = (r.pastOf records id).foldl
      (fun history f => some (pushHistory (history.getD []) f)) (r.history.lookup id) := by
  induction records using List.reverseRecOn with
  | nil => exact ⟨fun _ => rfl, fun _ => rfl⟩
  | append_singleton records record ih =>
    obtain ⟨hcurrent, hhistory⟩ := ih fun f hf => h f (List.mem_append_left _ hf)
    have hpast : (records.foldl putFlow r).isPast record = r.isPast record := by
      obtain ⟨existing, hexisting, _⟩ := h record (List.mem_append_right _ List.mem_cons_self)
      unfold isPast
      rw [hcurrent, hexisting]
      cases hlast : lastOf FlowRecord.key (records.filter fun f => !r.isPast f)
          record.key with
      | none => rfl
      | some placed =>
        obtain ⟨hmem, hkey⟩ := key_of_lastOf hlast
        obtain ⟨hplaced, hnot⟩ := List.mem_filter.mp hmem
        obtain ⟨known, hknown, hle⟩ := h placed (List.mem_append_left _ hplaced)
        obtain rfl : known = existing := Option.some.inj (hknown.symm.trans (hkey ▸ hexisting))
        have hge : ¬ placed.generation < known.generation := fun hlt => by
          rw [isPast_iff.mpr ⟨known, hknown, hlt⟩] at hnot
          cases hnot
        have hsame : placed.generation = known.generation := le_antisymm hle (not_lt.mp hge)
        simp [hsame]
    have hcases : (records ++ [record]).foldl putFlow r =
        (records.foldl putFlow r).putFlow record := by
      rw [List.foldl_append, List.foldl_cons, List.foldl_nil]
    rw [hcases, putFlow, hpast]
    unfold pastOf at hhistory ⊢
    rw [List.filter_append, List.filter_append, List.filter_singleton, List.filter_singleton]
    by_cases hold : r.isPast record = true
    · rw [hold]
      refine ⟨fun key => by simpa using hcurrent key, fun id => ?_⟩
      show (AList.insert _ _ _).lookup id = _
      rw [lookup_insert_eq, List.filter_append]
      by_cases hid : id = record.id
      · subst hid
        rw [if_pos rfl, historyOf, hhistory]
        simp
      · rw [if_neg hid, hhistory]
        simp [Ne.symm hid]
    · rw [Bool.not_eq_true] at hold
      rw [hold]
      refine ⟨fun key => ?_, fun id => by simpa using hhistory id⟩
      show (AList.insert _ _ _).lookup key = _
      rw [lookup_insert_eq]
      show _ = ((lastOf _ (_ ++ [record]) key).map _).or _
      rw [lastOf_concat]
      by_cases hkey : key = record.key
      · rw [if_pos hkey, if_pos hkey.symm]
        rfl
      · rw [if_neg hkey, if_neg (Ne.symm hkey), hcurrent]

theorem foldl_some_pushHistory {past : List FlowRecord} (h : past ≠ [])
    (history : Option (List FlowRecord)) :
    past.foldl (fun history f => some (pushHistory (history.getD []) f)) history =
      some ((history.getD [] ++ past).rtake maxHistoryPerKey) := by
  rw [← foldl_pushHistory h]
  obtain ⟨first, rest, rfl⟩ := List.exists_cons_of_ne_nil h
  exact List.foldl_hom some fun _ _ => rfl

/-- Putting the records changes nothing when the registry has what they would leave. -/
theorem foldl_putFlow_same_iff :
    ((∀ key, (records.foldl putFlow r).current.lookup key = r.current.lookup key) ∧
      ∀ id, (records.foldl putFlow r).history.lookup id = r.history.lookup id) ↔
      r.HoldsFlows records := by
  constructor
  · rintro ⟨hcurrent, hhistory⟩
    have hcovers : r.Covers records := by
      intro record hrecord
      obtain ⟨later, hlater, hle⟩ := generation_of_mem_foldl (r := r) hrecord
      exact ⟨later, (hcurrent _).symm.trans hlater, hle⟩
    obtain ⟨hplaced, hpushed⟩ := foldl_putFlow hcovers
    refine ⟨hcovers, (foldl_insert_same_iff _ _ _ _).mp fun key => ?_, fun id hpast => ?_⟩
    · rw [lookup_foldl_insert, ← hplaced, hcurrent]
    · have hid := hpushed id
      rw [hhistory, foldl_some_pushHistory hpast] at hid
      exact congrArg (fun history => history.getD []) hid
  · rintro ⟨hcovers, hcurrent, hhistory⟩
    obtain ⟨hplaced, hpushed⟩ := foldl_putFlow hcovers
    refine ⟨fun key => ?_, fun id => ?_⟩
    · rw [hplaced, ← lookup_foldl_insert]
      exact (foldl_insert_same_iff _ _ _ _).mpr hcurrent key
    · rw [hpushed]
      by_cases hpast : r.pastOf records id = []
      · rw [hpast]
        rfl
      · rw [foldl_some_pushHistory hpast]
        have hsame := hhistory id hpast
        unfold historyOf at hsame
        cases hid : r.history.lookup id with
        | some history =>
          rw [hid] at hsame
          exact congrArg some hsame.symm
        | none =>
          -- pushing leaves at least one record behind
          rw [hid] at hsame
          have hlength := congrArg List.length hsame
          have hpos := List.length_pos_of_ne_nil hpast
          simp [List.rtake, maxHistoryPerKey] at hlength
          omega

end Folding

end FlowRegistry

namespace EvidenceStore

structure FitsEvidence (s : EvidenceStore) (records : List EvidenceRecord) : Prop where
  distinct : (records.map EvidenceRecord.id).Nodup
  fresh : ∀ record ∈ records, s.byId.lookup record.id = none
  room : s.byId.size + records.length ≤ s.maxRecords.toNat ∨ records = []

/-- The first record, if there is one, is there already or finds no room. -/
def RefusesFirst (s : EvidenceStore) (records : List EvidenceRecord) : Prop :=
  ∀ first ∈ records.head?, s.byId.lookup first.id ≠ none ∨ s.maxRecords.toNat ≤ s.byId.size

variable {s : EvidenceStore} {record : EvidenceRecord} {records : List EvidenceRecord}

theorem restoreRecord_refused
    (h : s.byId.lookup record.id ≠ none ∨ s.maxRecords.toNat ≤ s.byId.size) :
    ∃ e, s.restoreRecord record = (.error e, s) := by
  unfold restoreRecord
  by_cases hknown : (s.byId.lookup record.id).isSome = true
  · rw [if_pos hknown]
    exact ⟨_, rfl⟩
  · rw [if_neg hknown]
    rw [Bool.not_eq_true, Option.isSome_eq_false_iff, Option.isNone_iff_eq_none] at hknown
    rw [if_pos (h.resolve_left fun hsome => hsome hknown)]
    exact ⟨_, rfl⟩

theorem maxRecords_restoreRecord (s : EvidenceStore) (record : EvidenceRecord) :
    (s.restoreRecord record).2.maxRecords = s.maxRecords := by
  have hindexed : (s.indexFlow record.flowId record.id).maxRecords = s.maxRecords := by
    unfold indexFlow
    cases s.byFlow.lookup record.flowId <;> rfl
  unfold restoreRecord
  split_ifs
  · rfl
  · rfl
  · exact hindexed

theorem restoreRecord_taken (hfresh : s.byId.lookup record.id = none)
    (hroom : s.byId.size < s.maxRecords.toNat) :
    let out := s.restoreRecord record
    out.1 = .ok () ∧ out.2.byId = s.byId.insert record.id (reloaded record) ∧
      out.2.maxRecords = s.maxRecords := by
  rcases restoreRecord_cases s record with ⟨e, herror, -⟩ | ⟨hok, -, hbyId, -⟩
  · unfold restoreRecord at herror
    rw [if_neg (by rw [hfresh]; exact Bool.false_ne_true), if_neg (not_le.mpr hroom)] at herror
    cases herror
  · exact ⟨hok, hbyId, maxRecords_restoreRecord s record⟩

/-- After one record is stored the rest fits as it did, with one place less. -/
theorem fitsEvidence_cons {s' : EvidenceStore} (hfresh : s.byId.lookup record.id = none)
    (hroom : s.byId.size < s.maxRecords.toNat)
    (hbyId : s'.byId = s.byId.insert record.id (reloaded record))
    (hmax : s'.maxRecords = s.maxRecords) :
    s'.FitsEvidence records ↔ s.FitsEvidence (record :: records) := by
  have hsize : s'.byId.size = s.byId.size + 1 := by
    rw [hbyId]
    exact size_insert_of_lookup_none hfresh
  have hlookup : ∀ id, s'.byId.lookup id = none ↔ id ≠ record.id ∧ s.byId.lookup id = none := by
    intro id
    rw [hbyId, lookup_insert_eq]
    split_ifs with hid
    · simp [hid]
    · simp [hid]
  constructor
  · rintro ⟨hdistinct, hnew, hfits⟩
    refine ⟨?_, ?_, Or.inl ?_⟩
    · rw [List.map_cons, List.nodup_cons]
      refine ⟨fun hmem => ?_, hdistinct⟩
      obtain ⟨other, hother, hid⟩ := List.mem_map.mp hmem
      exact ((hlookup _).mp (hnew other hother)).1 hid
    · intro r hr
      rcases List.mem_cons.mp hr with rfl | hrest
      · exact hfresh
      · exact ((hlookup _).mp (hnew r hrest)).2
    · rw [hmax, hsize] at hfits
      rw [List.length_cons]
      rcases hfits with hle | rfl
      · omega
      · rw [List.length_nil]
        omega
  · rintro ⟨hdistinct, hnew, hfits⟩
    rw [List.map_cons, List.nodup_cons] at hdistinct
    refine ⟨hdistinct.2, fun r hr => (hlookup _).mpr ⟨fun hid => hdistinct.1 ?_, ?_⟩, Or.inl ?_⟩
    · rw [← hid]
      exact List.mem_map_of_mem hr
    · exact hnew r (List.mem_cons_of_mem _ hr)
    · rw [hmax, hsize]
      rcases hfits with hle | hnil
      · rw [List.length_cons] at hle
        omega
      · cases hnil

theorem tryEach_restoreRecord_ok_iff :
    (tryEach restoreRecord s records).1 = .ok () ↔ s.FitsEvidence records := by
  induction records generalizing s with
  | nil =>
    exact ⟨fun _ => ⟨List.nodup_nil, fun _ hr => absurd hr List.not_mem_nil, Or.inr rfl⟩,
      fun _ => rfl⟩
  | cons record rest ih =>
    by_cases hrefused : s.byId.lookup record.id ≠ none ∨ s.maxRecords.toNat ≤ s.byId.size
    · obtain ⟨e, he⟩ := restoreRecord_refused hrefused
      rw [tryEach, he]
      constructor
      · intro hok
        cases hok
      · rintro ⟨-, hnew, hfits⟩
        rcases hrefused with hknown | hfull
        · exact absurd (hnew record List.mem_cons_self) hknown
        · rcases hfits with hle | hnil
          · rw [List.length_cons] at hle
            omega
          · cases hnil
    · rw [not_or, not_not, not_le] at hrefused
      obtain ⟨hok, hbyId, hmax⟩ := restoreRecord_taken hrefused.1 hrefused.2
      rw [← fitsEvidence_cons hrefused.1 hrefused.2 hbyId hmax, ← ih, tryEach]
      generalize s.restoreRecord record = out at hok
      obtain ⟨result, s'⟩ := out
      cases hok
      rfl

/-- What is stored stays stored while further records come. -/
theorem isSome_tryEach_restoreRecord (records : List EvidenceRecord) {id : EvidenceId}
    (h : (s.byId.lookup id).isSome = true) :
    ((tryEach restoreRecord s records).2.byId.lookup id).isSome = true := by
  refine tryEach_invariant (fun s : EvidenceStore => (s.byId.lookup id).isSome = true)
    (fun s r _ hs => ?_) h
  rcases restoreRecord_cases s r with ⟨e, -, hsame⟩ | ⟨-, -, hbyId, -⟩
  · rw [hsame]
    exact hs
  · show ((s.restoreRecord r).2.byId.lookup id).isSome = true
    rw [hbyId, lookup_insert_eq]
    split_ifs
    · rfl
    · exact hs

/-- The loop leaves the records as they were only when it refuses the first one. -/
theorem tryEach_restoreRecord_same_iff :
    (∀ id, (tryEach restoreRecord s records).2.byId.lookup id = s.byId.lookup id) ↔
      s.RefusesFirst records := by
  cases records with
  | nil => exact ⟨fun _ first hfirst => (by cases hfirst), fun _ _ => rfl⟩
  | cons record rest =>
    by_cases hrefused : s.byId.lookup record.id ≠ none ∨ s.maxRecords.toNat ≤ s.byId.size
    · obtain ⟨e, he⟩ := restoreRecord_refused hrefused
      rw [tryEach, he]
      refine ⟨fun _ first hfirst => ?_, fun _ _ => rfl⟩
      cases hfirst
      exact hrefused
    · refine ⟨fun hsame => absurd (hsame record.id) ?_, fun h => absurd (h record rfl) hrefused⟩
      rw [not_or, not_not, not_le] at hrefused
      obtain ⟨hok, hbyId, -⟩ := restoreRecord_taken hrefused.1 hrefused.2
      have hstored : ((s.restoreRecord record).2.byId.lookup record.id).isSome = true := by
        rw [hbyId, AList.lookup_insert]
        rfl
      have hkept := isSome_tryEach_restoreRecord rest hstored
      intro hsame
      rw [tryEach] at hsame
      generalize s.restoreRecord record = out at hok hsame hkept
      obtain ⟨result, s'⟩ := out
      cases hok
      rw [hrefused.1] at hsame
      rw [hsame] at hkept
      cases hkept

theorem tryEach_restoreRecord_of_refused (h : s.RefusesFirst records) :
    (tryEach restoreRecord s records).2 = s := by
  cases records with
  | nil => rfl
  | cons record rest =>
    obtain ⟨e, he⟩ := restoreRecord_refused (h record rfl)
    rw [tryEach, he]

end EvidenceStore

end FlowClassifier.Store
