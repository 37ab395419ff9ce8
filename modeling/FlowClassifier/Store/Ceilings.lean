import FlowClassifier.Store.Binding
import FlowClassifier.Store.Refilling
import FlowClassifier.Store.ReplayFence

/-!
The two views of a publisher. A run carries the ceilings that were granted to each
publisher beside the registry. Boot and generation of the registration and of the durable
record agree in every run. A bind raises the ceiling of the record and not the one of the
registration, and a restart makes the registration from the record; so the ceilings agree
exactly as long as no bind raises the recorded one.
-/
namespace FlowClassifier.Store

open Lib Foundation Evidence Workloads FiniteMap

inductive RegistryCall where
  | fence (call : FenceCall)
  | requireRevalidation (id : PublisherId)
  | clear

structure Granting where
  registry : PublisherRegistry
  granted : PublisherId → List EvidenceSource := fun _ => []

namespace Granting

def new (maxPublishers : UInt32) (idleTicks : UInt64) : Granting where
  registry := .new maxPublishers idleTicks

def grant (s : Granting) : FenceCall → PublisherId → List EvidenceSource
  | .bindSession id boot epoch coordinatorBoot maxSource session tick wall description =>
    if (s.registry.bindSession id boot epoch coordinatorBoot maxSource session tick wall
      description).1.isOk then
      Function.update s.granted id (s.granted id ++ [maxSource])
    else s.granted
  | _ => s.granted

def call (s : Granting) : RegistryCall → Granting
  | .fence op =>
    { registry := (Fence.call { registry := s.registry } op).registry, granted := s.grant op }
  | .requireRevalidation id => { s with registry := (s.registry.requireRevalidation id).2 }
  | .clear => { s with registry := s.registry.clear }

def Highest (ceiling : EvidenceSource) (granted : List EvidenceSource) : Prop :=
  ceiling ∈ granted ∧ ∀ g ∈ granted, g.rank ≤ ceiling.rank

/-- The two views have the same ceiling, the highest ever granted. -/
structure Agrees (s : Granting) : Prop where
  same : ∀ id, (s.registry.publishers.lookup id).map PublisherRegistration.maxSource =
    (s.registry.records.lookup id).map PublisherRecord.maxSource
  highest : ∀ id p, s.registry.publishers.lookup id = some p →
    Highest p.maxSource (s.granted id)

/-- An accepted bind presents no ceiling above the recorded one, nor below one granted before
the registry was cleared. -/
def Modest (s : Granting) : RegistryCall → Prop
  | .fence (.bindSession id boot _ _ maxSource _ _ _ _) =>
    s.registry.Admits id boot →
      match s.registry.records.lookup id with
      | some record => maxSource.rank ≤ record.maxSource.rank
      | none => ∀ g ∈ s.granted id, g.rank ≤ maxSource.rank
  | _ => True

abbrev KeepsCeilings : PublisherRegistry → PublisherRegistry → Prop :=
  PublisherRegistry.Same PublisherRegistration.maxSource PublisherRecord.maxSource

theorem same_requireRevalidation {α β : Type} {φ : PublisherRegistration → α}
    {ψ : PublisherRecord → β} (r : PublisherRegistry) (id : PublisherId)
    (hφ : ∀ p, φ { p with state := .idle, session := .none } = φ p) :
    PublisherRegistry.Same φ ψ r (r.requireRevalidation id).2 := by
  unfold PublisherRegistry.requireRevalidation
  cases hp : r.publishers.lookup id with
  | none => exact .of_maps rfl rfl
  | some p => exact ⟨FiniteMap.map_lookup_insert φ hp (hφ p), fun _ => rfl⟩

section Calls

open PublisherRegistry

variable {s : Granting} {r : PublisherRegistry}

theorem agrees_of_keeps (h : s.Agrees) (hkeeps : KeepsCeilings s.registry r) :
    Agrees { s with registry := r } := by
  refine ⟨fun id => ?_, fun id p hp => ?_⟩
  · exact (hkeeps.publishers id).trans ((h.same id).trans (hkeeps.records id).symm)
  · have hpub := hkeeps.publishers id
    rw [hp, Option.map_some] at hpub
    obtain ⟨old, hold, hsame⟩ := Option.map_eq_some_iff.mp hpub.symm
    rw [← hsame]
    exact h.highest id old hold

/-- Both maps of a registry that was filled from the records of another. -/
theorem restoreRecords_entries (hk : r.WellKeyed) {maxPublishers : UInt32} {idleTicks : UInt64}
    {tick : Tick}
    (hok : ((PublisherRegistry.new maxPublishers idleTicks).restoreRecords r.snapshotRecords
      tick).1 = .ok ()) (id : PublisherId) :
    let r' := ((PublisherRegistry.new maxPublishers idleTicks).restoreRecords r.snapshotRecords
      tick).2
    r'.records.lookup id = (r.records.lookup id).map (seen · tick) ∧
      r'.publishers.lookup id = (r.records.lookup id).map fun record =>
        restoredRegistration (seen record tick) tick := by
  obtain ⟨hloop, hpublishers⟩ := restoreRecords_ok hok
  have hrecords : ((PublisherRegistry.new maxPublishers idleTicks).restoreRecords
      r.snapshotRecords tick).2.records =
      (tryEach (fun r record => restoreRecord r record tick)
        (PublisherRegistry.new maxPublishers idleTicks) r.snapshotRecords).2.records := by
    unfold restoreRecords
    generalize tryEach _ _ _ = loop at hloop ⊢
    obtain ⟨_ | _, r'⟩ := loop
    · cases hloop
    · rfl
  obtain ⟨hfilled, hall⟩ := (fills_restoreRecord tick).tryEach
    (PublisherRegistry.new maxPublishers idleTicks) r.snapshotRecords
  rw [hall.mp hloop] at hfilled
  dsimp only
  rw [hpublishers, hrecords, hfilled, records_foldl_putRecord, publishers_foldl_putRecord]
  exact ⟨FiniteMap.lookup_refilled PublisherRecord.id hk.record_id (fun _ _ => rfl) _ _ id,
    lookup_refilled PublisherRecord.id hk.record_id (fun _ _ => rfl) _ _ id⟩

theorem maxSource_seen (record : PublisherRecord) (tick : Tick) :
    (seen record tick).maxSource = record.maxSource := by
  unfold seen
  split_ifs <;> rfl

theorem keepsCeilings_restart (hk : s.registry.WellKeyed) (h : s.Agrees)
    (maxPublishers : UInt32) (idleTicks : UInt64) (tick : Tick) : KeepsCeilings s.registry
      (Fence.call { registry := s.registry } (.restart maxPublishers idleTicks tick)).registry := by
  rw [Fence.call]
  cases hout : (PublisherRegistry.new maxPublishers idleTicks).restoreRecords
    s.registry.snapshotRecords tick with
  | mk result r =>
    cases result with
    | error e => exact .of_maps rfl rfl
    | ok u =>
      have hentries := restoreRecords_entries hk (by rw [hout] : Eq _ _)
      rw [hout] at hentries
      refine ⟨fun id => ?_, fun id => ?_⟩
      · rw [(hentries id).2, Option.map_map, h.same id]
        refine congrArg (Option.map · _) (funext fun record => ?_)
        exact maxSource_seen record tick
      · rw [(hentries id).1, Option.map_map]
        refine congrArg (Option.map · _) (funext fun record => ?_)
        exact maxSource_seen record tick

theorem registry_bindSession (r : PublisherRegistry) (id : PublisherId) (boot : PublisherBootId)
    (epoch : CoordinatorEpoch) (coordinatorBoot : CoordinatorBootId) (maxSource : EvidenceSource)
    (session : SessionId) (tick : Tick) (wall : UInt64) (description : Bytes) :
    (Fence.call { registry := r } (.bindSession id boot epoch coordinatorBoot maxSource session
      tick wall description)).registry =
      (r.bindSession id boot epoch coordinatorBoot maxSource session tick wall description).2 := by
  rw [Fence.call]
  obtain ⟨_ | _, r'⟩ := r.bindSession id boot epoch coordinatorBoot maxSource session tick wall
    description
  · rfl
  · rfl

theorem registry_observe (r : PublisherRegistry) (id : PublisherId) (boot : PublisherBootId)
    (generation : EvidenceGeneration) :
    (Fence.call { registry := r } (.observeEvidenceGeneration id boot generation)).registry =
      (r.observeEvidenceGeneration id boot generation).2 := by
  rw [Fence.call]
  obtain ⟨_ | _, r'⟩ := r.observeEvidenceGeneration id boot generation
  · rfl
  · rfl

theorem wellKeyed_fence (hk : r.WellKeyed) (op : FenceCall) :
    (Fence.call { registry := r } op).registry.WellKeyed := by
  cases op with
  | bindSession id boot epoch coordinatorBoot maxSource session tick wall description =>
    rw [registry_bindSession]
    exact (advances_bindSession r id boot epoch coordinatorBoot maxSource session tick wall
      description hk).1
  | observeEvidenceGeneration id boot generation =>
    rw [registry_observe]
    exact (advances_observeEvidenceGeneration r id boot generation hk).1
  | endSpecificSession id boot session tick =>
    exact (advances_endSpecificSession r id boot session tick hk).1
  | endSession id boot tick => exact (advances_endSpecificSession r id boot .none tick hk).1
  | touch id boot tick wall => exact (advances_touch r id boot tick wall hk).1
  | expireLiveness tick => exact (advances_expireLiveness r tick hk).1
  | clearSessions => exact (advances_clearSessions r hk).1
  | restart maxPublishers idleTicks tick =>
    have hkeyed := wellKeyed_restoreRecords (wellKeyed_new maxPublishers idleTicks)
      r.snapshotRecords tick
    rw [Fence.call]
    cases hout : (PublisherRegistry.new maxPublishers idleTicks).restoreRecords
      r.snapshotRecords tick with
    | mk result r' =>
      rw [hout] at hkeyed
      cases result with
      | error e => exact hk
      | ok u => exact hkeyed

theorem wellKeyed_call (hk : s.registry.WellKeyed) (op : RegistryCall) :
    (s.call op).registry.WellKeyed := by
  cases op with
  | fence op => exact wellKeyed_fence hk op
  | requireRevalidation id =>
    exact (SameMarks.advances (same_requireRevalidation s.registry id fun _ => rfl) hk).1
  | clear =>
    have hempty := wellKeyed_new 0 0
    exact ⟨hempty.registration_id, hempty.record_id, hempty.agree⟩

end Calls

section Bind

open PublisherRegistry

variable {record : PublisherRecord}

variable {s : Granting} {id : PublisherId} {boot : PublisherBootId}
  {epoch : CoordinatorEpoch} {coordinatorBoot : CoordinatorBootId} {maxSource : EvidenceSource}
  {session : SessionId} {tick : Tick} {wall : UInt64} {description : Bytes}

/-- Only the publisher that was bound can come to differ. -/
theorem agrees_insert_iff (h : s.Agrees) {s' : Granting} {p : PublisherRegistration}
    (hpub : s'.registry.publishers = s.registry.publishers.insert id p)
    (hrec : s'.registry.records = s.registry.records.insert id record)
    (hgranted : s'.granted = Function.update s.granted id (s.granted id ++ [maxSource])) :
    s'.Agrees ↔ p.maxSource = record.maxSource ∧
      Highest p.maxSource (s.granted id ++ [maxSource]) := by
  constructor
  · intro h'
    have hsame := h'.same id
    have hhighest := h'.highest id p (by rw [hpub, AList.lookup_insert])
    rw [hpub, hrec, AList.lookup_insert, AList.lookup_insert, Option.map_some, Option.map_some]
      at hsame
    rw [hgranted, Function.update_self] at hhighest
    exact ⟨Option.some.inj hsame, hhighest⟩
  · rintro ⟨hsame, hhighest⟩
    refine ⟨fun j => ?_, fun j q hq => ?_⟩
    · rw [hpub, hrec, lookup_insert_eq, lookup_insert_eq]
      split_ifs with hj
      · exact congrArg some hsame
      · exact h.same j
    · rw [hpub, lookup_insert_eq] at hq
      rw [hgranted]
      split_ifs at hq with hj
      · cases hq
        rw [hj, Function.update_self]
        exact hhighest
      · rw [Function.update_of_ne hj]
        exact h.highest j q hq

/-- A first bind gives both views the ceiling it presents. -/
theorem first_agrees_iff (hrecord : record.maxSource = maxSource) :
    ((firstRegistration id boot epoch coordinatorBoot maxSource session tick
        description).maxSource = record.maxSource ∧
      Highest maxSource (s.granted id ++ [maxSource])) ↔
      ∀ g ∈ s.granted id, g.rank ≤ maxSource.rank := by
  constructor
  · rintro ⟨-, -, hall⟩ g hg
    exact hall g (List.mem_append_left _ hg)
  · intro hall
    refine ⟨hrecord.symm, List.mem_append_right _ List.mem_cons_self, fun g hg => ?_⟩
    rcases List.mem_append.mp hg with hearlier | hnow
    · exact hall g hearlier
    · rw [List.mem_singleton.mp hnow]

/-- A later bind raises the ceiling of the record alone. -/
theorem rebound_agrees_iff {old : PublisherRegistration}
    (hsame : record.maxSource = old.maxSource) (hhighest : Highest old.maxSource (s.granted id)) :
    ((rebindRegistration old boot epoch coordinatorBoot session tick).maxSource =
        (rebindRecord record boot maxSource wall description).maxSource ∧
      Highest old.maxSource (s.granted id ++ [maxSource])) ↔
      maxSource.rank ≤ record.maxSource.rank := by
  rw [hsame]
  constructor
  · rintro ⟨-, -, hall⟩
    exact hall maxSource (List.mem_append_right _ List.mem_cons_self)
  · intro hle
    refine ⟨?_, List.mem_append_left _ hhighest.1, fun g hg => ?_⟩
    · change old.maxSource =
        if maxSource.rank > record.maxSource.rank then maxSource else record.maxSource
      rw [hsame, if_neg (not_lt.mpr hle)]
    · rcases List.mem_append.mp hg with hearlier | hnow
      · exact hhighest.2 g hearlier
      · rw [List.mem_singleton.mp hnow]
        exact hle

/-- The record takes the larger ceiling and the registration keeps its own. -/
theorem agrees_bindSession_iff (hk : s.registry.WellKeyed) (h : s.Agrees) :
    (s.call (.fence (.bindSession id boot epoch coordinatorBoot maxSource session tick wall
      description))).Agrees ↔
      Modest s (.fence (.bindSession id boot epoch coordinatorBoot maxSource session tick wall
        description)) := by
  have hok := @bindSession_isOk_iff s.registry id boot epoch coordinatorBoot maxSource session
    tick wall description
  rcases bindSession_cases hk id boot epoch coordinatorBoot maxSource session tick wall
      description with
    ⟨e, hout, hpub, hrec⟩ | ⟨p, record, hout, hpub, hrec, -, -, -, hcase⟩
  · rw [hout] at hok
    have hrefused : ¬ s.registry.Admits id boot := fun hadmits =>
      absurd (hok.mpr hadmits) Bool.false_ne_true
    refine iff_of_true ?_ fun hadmits => absurd hadmits hrefused
    rw [call, registry_bindSession, grant, hout]
    exact agrees_of_keeps h (.of_maps hpub hrec)
  · have hadmits : s.registry.Admits id boot := hok.mp (by rw [hout]; rfl)
    obtain ⟨stored, hstored, hrebound, hfirst⟩ := bindSession_record (hok.mpr hadmits)
    have hsame : stored = record := by
      have hlookup := congrArg (AList.lookup id) (hstored.symm.trans hrec)
      rw [AList.lookup_insert, AList.lookup_insert] at hlookup
      exact Option.some.inj hlookup
    subst hsame
    have hagrees : (s.call (.fence (.bindSession id boot epoch coordinatorBoot maxSource session
        tick wall description))).Agrees ↔ _ :=
      agrees_insert_iff h (by rw [call, registry_bindSession, hpub])
        (by rw [call, registry_bindSession, hrec]) (by rw [call, grant, hout]; rfl)
    refine hagrees.trans (Iff.trans ?_ (forall_prop_of_true hadmits).symm)
    rcases hcase with ⟨hunknown, rfl⟩ | ⟨old, hold, -, rfl⟩
    · have hnone : s.registry.records.lookup id = none := by
        have hsome := hk.isSome_eq id
        rw [hunknown] at hsome
        exact Option.isNone_iff_eq_none.mp (by simpa using hsome)
      rw [hnone]
      exact first_agrees_iff (hfirst hnone)
    · have hmap := h.same id
      rw [hold, Option.map_some] at hmap
      obtain ⟨kept, hkept, hceiling⟩ := Option.map_eq_some_iff.mp hmap.symm
      rw [hkept, hrebound kept hkept]
      exact rebound_agrees_iff hceiling (h.highest id old hold)

end Bind

section Runs

open PublisherRegistry

variable {s : Granting}

theorem agrees_call_iff (hk : s.registry.WellKeyed) (h : s.Agrees) (op : RegistryCall) :
    (s.call op).Agrees ↔ Modest s op := by
  have hkeeps : ∀ {r}, KeepsCeilings s.registry r → (Agrees { s with registry := r } ↔ True) :=
    fun hr => iff_of_true (agrees_of_keeps h hr) trivial
  cases op with
  | requireRevalidation id => exact hkeeps (same_requireRevalidation s.registry id fun _ => rfl)
  | clear => exact iff_of_true ⟨fun _ => rfl, fun _ _ hp => by cases hp⟩ trivial
  | fence op =>
    cases op with
    | bindSession => exact agrees_bindSession_iff hk h
    | observeEvidenceGeneration id boot generation =>
      rw [call, registry_observe]
      exact hkeeps (same_observeEvidenceGeneration _ id boot (fun _ => rfl) fun _ => rfl)
    | endSpecificSession id boot session tick =>
      exact hkeeps (same_endSpecificSession _ id boot fun _ => rfl)
    | endSession id boot tick =>
      exact hkeeps (same_endSpecificSession _ id boot fun _ => rfl)
    | touch id boot => exact hkeeps (same_touch _ id boot (fun _ => rfl) fun _ => rfl)
    | expireLiveness tick =>
      refine hkeeps (same_expireLiveness _ fun p => ?_)
      unfold expireRegistration
      split_ifs <;> rfl
    | clearSessions => exact hkeeps (same_clearSessions _ fun _ => rfl)
    | restart maxPublishers idleTicks tick =>
      exact hkeeps (keepsCeilings_restart hk h maxPublishers idleTicks tick)

/-- The durable and the live view of every publisher agree, over a restart too. -/
structure ViewsAgree (s : Granting) : Prop where
  known : ∀ id, (s.registry.publishers.lookup id).isSome = (s.registry.records.lookup id).isSome
  fields : ∀ id p record, s.registry.publishers.lookup id = some p →
    s.registry.records.lookup id = some record →
      p.boot = record.highestBoot ∧ p.highestGeneration = record.highestGeneration ∧
        p.maxSource = record.maxSource ∧ Highest p.maxSource (s.granted id)
  restart : ∀ maxPublishers idleTicks tick id,
    ((s.call (.fence (.restart maxPublishers idleTicks tick))).registry.publishers.lookup id).map
      PublisherRegistration.maxSource =
    (s.registry.publishers.lookup id).map PublisherRegistration.maxSource

theorem viewsAgree_iff (hk : s.registry.WellKeyed) : s.ViewsAgree ↔ s.Agrees := by
  constructor
  · intro h
    have hrecord : ∀ {id p}, s.registry.publishers.lookup id = some p →
        ∃ record, s.registry.records.lookup id = some record := by
      intro id p hp
      refine Option.isSome_iff_exists.mp ?_
      rw [← h.known id, hp, Option.isSome_some]
    refine ⟨fun id => ?_, fun id p hp => ?_⟩
    · cases hp : s.registry.publishers.lookup id with
      | none =>
        have hnone := h.known id
        rw [hp, Option.isSome_none] at hnone
        have hunknown : s.registry.records.lookup id = none :=
          Option.not_isSome_iff_eq_none.mp (by rw [← hnone]; exact Bool.false_ne_true)
        rw [hunknown]
        rfl
      | some p =>
        obtain ⟨record, hr⟩ := hrecord hp
        rw [hr]
        exact congrArg some (h.fields id p record hp hr).2.2.1
    · obtain ⟨record, hr⟩ := hrecord hp
      exact (h.fields id p record hp hr).2.2.2
  · intro h
    refine ⟨fun id => (hk.isSome_eq id).symm, fun id p record hp hr => ?_, ?_⟩
    · have hmarks := hk.agree id
      have hceilings := h.same id
      rw [hp, hr, Option.map_some, Option.map_some] at hmarks hceilings
      obtain ⟨hboot, hgeneration⟩ := Prod.mk.inj (Option.some.inj hmarks)
      exact ⟨hboot, hgeneration, Option.some.inj hceilings, h.highest id p hp⟩
    · intro maxPublishers idleTicks tick
      exact (keepsCeilings_restart hk h maxPublishers idleTicks tick).publishers

/-- The two views agree in every state of a run of the registry exactly if every bind of
the run is modest. -/
theorem views_agree_iff (maxPublishers : UInt32) (idleTicks : UInt64)
    (calls : List RegistryCall) :
    (∀ before after, calls = before ++ after →
      (run call (new maxPublishers idleTicks) before).ViewsAgree) ↔
      Along call Modest (new maxPublishers idleTicks) calls := by
  have hnew := wellKeyed_new maxPublishers idleTicks
  have hagrees : (new maxPublishers idleTicks).Agrees := ⟨fun _ => rfl, fun _ _ hp => by cases hp⟩
  have hkeep : ∀ (s : Granting) op, s.registry.WellKeyed → (s.call op).registry.WellKeyed :=
    fun s op hk => wellKeyed_call hk op
  refine always_iff_along call hkeep (fun s op hk hviews => ?_) hnew
    ((viewsAgree_iff hnew).mpr hagrees)
  rw [viewsAgree_iff (wellKeyed_call hk op)]
  exact agrees_call_iff hk ((viewsAgree_iff hk).mp hviews) op

def risingCalls : List RegistryCall :=
  let bind (maxSource : EvidenceSource) (session : SessionId) : RegistryCall :=
    .fence (.bindSession (.make (text "agent")) 1 1 1 maxSource session 1 1 [])
  [bind .heuristic (.make (text "s1")), bind .declaredAuthenticated (.make (text "s2"))]

/-- The ceiling of the registration stays HEURISTIC until the registry is restarted. -/
theorem rising_ceiling_differs :
    let s := run call (new 8 100) risingCalls
    let restarted := s.call (.fence (.restart 8 100 2))
    let agent : PublisherId := .make (text "agent")
    (s.registry.publishers.lookup agent).map PublisherRegistration.maxSource = some .heuristic ∧
    (s.registry.records.lookup agent).map PublisherRecord.maxSource =
      some .declaredAuthenticated ∧
    (restarted.registry.publishers.lookup agent).map PublisherRegistration.maxSource =
      some .declaredAuthenticated := by
  decide +kernel

end Runs

end Granting
end FlowClassifier.Store
