import FlowClassifier.Lib.Sorting
import FlowClassifier.Store.Publishers

/-!
What the operations of the publisher registry preserve. A mark says that an evidence
generation of an incarnation is used up; no operation takes a mark back, and the durable
records agree with the registrations about every mark. Liveness is described by the part
of a registration that a decision can see.
-/
namespace FlowClassifier.Store.PublisherRegistry

open Lib Foundation Evidence Workloads FiniteMap

variable {p : PublisherRegistration}
variable {r r' : PublisherRegistry} {id : PublisherId} {generation : EvidenceGeneration}
  {tick : Tick}

/-- The generation has been used by the incarnation, or the incarnation is past. -/
def Marked (r : PublisherRegistry) (id : PublisherId) (boot : PublisherBootId)
    (generation : EvidenceGeneration) : Prop :=
  ∃ registration, r.publishers.lookup id = some registration ∧
    (boot < registration.boot ∨
      boot = registration.boot ∧ generation ≤ registration.highestGeneration)

/-- The volatile and the durable side agree on the incarnation and on the generations it has
used. -/
structure WellKeyed (r : PublisherRegistry) : Prop where
  registration_id : ∀ id registration, r.publishers.lookup id = some registration →
    registration.id = id
  record_id : ∀ id record, r.records.lookup id = some record → record.id = id
  agree : ∀ id,
    (r.publishers.lookup id).map (fun p => (p.boot, p.highestGeneration)) =
      (r.records.lookup id).map fun p => (p.highestBoot, p.highestGeneration)

theorem wellKeyed_new (maxPublishers : UInt32) (idleTicks : UInt64) :
    (new maxPublishers idleTicks).WellKeyed where
  registration_id := by intro id registration h; simp [new] at h
  record_id := by intro id record h; simp [new] at h
  agree := by intro id; rfl

theorem WellKeyed.isSome_eq (h : r.WellKeyed) (id : PublisherId) :
    (r.records.lookup id).isSome = (r.publishers.lookup id).isSome := by
  have hagree := h.agree id
  cases hreg : r.publishers.lookup id <;> cases hrec : r.records.lookup id <;>
    simp [hreg, hrec] at hagree ⊢

/-- Both sides are updated together, with the same incarnation and generation. -/
theorem WellKeyed.insert (h : r.WellKeyed)
    {registration : PublisherRegistration} {record : PublisherRecord}
    (hpub : r'.publishers = r.publishers.insert id registration)
    (hrec : r'.records = r.records.insert id record)
    (hid : registration.id = id) (hid' : record.id = id)
    (hboot : registration.boot = record.highestBoot)
    (hgen : registration.highestGeneration = record.highestGeneration) : r'.WellKeyed := by
  refine ⟨?_, ?_, ?_⟩
  · intro j p hp
    rw [hpub, lookup_insert_eq] at hp
    split_ifs at hp with hj
    · cases hp
      rw [hid, hj]
    · exact h.registration_id j p hp
  · intro j p hp
    rw [hrec, lookup_insert_eq] at hp
    split_ifs at hp with hj
    · cases hp
      rw [hid', hj]
    · exact h.record_id j p hp
  · intro j
    rw [hpub, hrec, lookup_insert_eq, lookup_insert_eq]
    split_ifs
    · simp [hboot, hgen]
    · exact h.agree j

/-- A registration that keeps or advances its incarnation and its generation keeps every
mark. -/
theorem Marked.insert {j : PublisherId} {boot : PublisherBootId}
    {registration : PublisherRegistration} (h : r.Marked j boot generation)
    (hpub : r'.publishers = r.publishers.insert id registration)
    (hadv : ∀ old, r.publishers.lookup id = some old → old.boot < registration.boot ∨
        old.boot = registration.boot ∧ old.highestGeneration ≤ registration.highestGeneration) :
    r'.Marked j boot generation := by
  obtain ⟨old, hold, hmark⟩ := h
  by_cases hj : j = id
  · subst hj
    refine ⟨registration, by rw [hpub, lookup_insert_eq, if_pos rfl], ?_⟩
    rcases hadv old hold with hboot | ⟨hboot, hgen⟩
    · rcases hmark with hlt | ⟨heq, -⟩
      · exact Or.inl (lt_trans hlt hboot)
      · exact Or.inl (heq ▸ hboot)
    · rcases hmark with hlt | ⟨heq, hle⟩
      · exact Or.inl (hboot ▸ hlt)
      · exact Or.inr ⟨heq.trans hboot, le_trans hle hgen⟩
  · exact ⟨old, by rw [hpub, lookup_insert_eq, if_neg hj, hold], hmark⟩

/-- The session that was bound is listed. -/
theorem rebind_sessions (p : PublisherRegistration) (boot : PublisherBootId)
    (epoch : CoordinatorEpoch) (coordinatorBoot : CoordinatorBootId) (session : SessionId)
    (tick : Tick) :
    session ∈ (rebindRegistration p boot epoch coordinatorBoot session tick).liveSessions := by
  unfold rebindRegistration
  dsimp only
  generalize (if boot > p.boot then [] else p.liveSessions) = kept
  by_cases hmem : session ∈ kept
  · rwa [if_pos hmem]
  · rw [if_neg hmem]
    exact List.mem_append_right kept List.mem_cons_self

/-- What `bind_session` can do: refuse and leave both maps alone, or store one
registration and its record. -/
theorem bindSession_cases (hk : r.WellKeyed) (id : PublisherId)
    (boot : PublisherBootId) (epoch : CoordinatorEpoch) (coordinatorBoot : CoordinatorBootId)
    (maxSource : EvidenceSource) (session : SessionId) (tick : Tick) (wall : UInt64)
    (description : Bytes) :
    let out := r.bindSession id boot epoch coordinatorBoot maxSource session tick wall description
    (∃ e, out.1 = .error e ∧ out.2.publishers = r.publishers ∧ out.2.records = r.records) ∨
    ∃ registration record, out.1 = .ok registration ∧
      out.2.publishers = r.publishers.insert id registration ∧
      out.2.records = r.records.insert id record ∧
      record.id = id ∧ record.highestBoot = boot ∧
      record.highestGeneration = registration.highestGeneration ∧
      ((r.publishers.lookup id = none ∧ registration = firstRegistration id boot epoch
          coordinatorBoot maxSource session tick description) ∨
        ∃ old, r.publishers.lookup id = some old ∧ old.boot ≤ boot ∧
          registration = rebindRegistration old boot epoch coordinatorBoot session tick) := by
  have hsize : r.records.size = r.publishers.size := size_eq_of_isSome hk.isSome_eq
  have hagree := hk.agree id
  unfold bindSession
  split_ifs with hid hboot
  · exact Or.inl ⟨_, rfl, rfl, rfl⟩
  · exact Or.inl ⟨_, rfl, rfl, rfl⟩
  · cases hrec : r.records.lookup id with
    | none =>
      have hreg : r.publishers.lookup id = none := by
        simpa [hrec] using hagree
      by_cases hfull : r.records.size ≥ r.maxPublishers.toNat
      · left
        simp only [bindRecord, hrec, if_pos hfull]
        exact ⟨_, rfl, rfl, rfl⟩
      · right
        have hfull' : ¬ r.publishers.size ≥ r.maxPublishers.toNat := hsize ▸ hfull
        simp only [bindRecord, hrec, if_neg hfull, bindRegistration, hreg, if_neg hfull']
        exact ⟨_, _, rfl, rfl, rfl, rfl, rfl, rfl, Or.inl ⟨trivial, rfl⟩⟩
    | some record =>
      obtain ⟨old, hreg⟩ : ∃ old, r.publishers.lookup id = some old := by
        cases h : r.publishers.lookup id with
        | none => simp [h, hrec] at hagree
        | some old => exact ⟨old, rfl⟩
      have hsame : old.boot = record.highestBoot ∧
          old.highestGeneration = record.highestGeneration := by
        simpa [hreg, hrec] using hagree
      by_cases hlow : boot < record.highestBoot
      · left
        simp only [bindRecord, hrec, if_pos hlow]
        exact ⟨_, rfl, rfl, rfl⟩
      · right
        have hlow' : ¬ boot < old.boot := hsame.1 ▸ hlow
        simp only [bindRecord, hrec, if_neg hlow, bindRegistration, hreg, if_neg hlow']
        refine ⟨_, _, rfl, rfl, rfl, hk.record_id id record hrec, ?_, ?_,
          Or.inr ⟨old, rfl, not_lt.mp hlow', rfl⟩⟩
        · simp only [rebindRecord]
          split_ifs with hgt
          · rfl
          · exact le_antisymm (not_lt.mp hlow) (not_lt.mp hgt)
        · simp only [rebindRecord, rebindRegistration, hsame.1, hsame.2]

def mark (p : PublisherRegistration) : PublisherId × PublisherBootId × EvidenceGeneration :=
  (p.id, p.boot, p.highestGeneration)

def recordMark (p : PublisherRecord) : PublisherId × PublisherBootId × EvidenceGeneration :=
  (p.id, p.highestBoot, p.highestGeneration)

def visible (p : PublisherRegistration) : PublisherId × PublisherBootId × PublisherState :=
  (p.id, p.boot, p.state)

/-- The registry stays well keyed and takes no mark back. -/
def Advances (r r' : PublisherRegistry) : Prop :=
  r.WellKeyed → r'.WellKeyed ∧
    ∀ id boot generation, r.Marked id boot generation → r'.Marked id boot generation

theorem Advances.refl (r : PublisherRegistry) : Advances r r := fun h => ⟨h, fun _ _ _ hm => hm⟩

theorem Advances.trans {s t : PublisherRegistry} (h : Advances r s) (h' : Advances s t) :
    Advances r t := by
  intro hk
  obtain ⟨hs, hmarks⟩ := h hk
  obtain ⟨ht, hmarks'⟩ := h' hs
  exact ⟨ht, fun id b g hm => hmarks' id b g (hmarks id b g hm)⟩

structure Same {α β : Type} (φ : PublisherRegistration → α) (ψ : PublisherRecord → β)
    (r r' : PublisherRegistry) : Prop where
  publishers : ∀ id, (r'.publishers.lookup id).map φ = (r.publishers.lookup id).map φ
  records : ∀ id, (r'.records.lookup id).map ψ = (r.records.lookup id).map ψ

abbrev SameMarks : PublisherRegistry → PublisherRegistry → Prop := Same mark recordMark

section Parts

variable {α β : Type} {φ : PublisherRegistration → α} {ψ : PublisherRecord → β}

theorem Same.of_maps (hpub : r'.publishers = r.publishers) (hrec : r'.records = r.records) :
    Same φ ψ r r' :=
  ⟨by simp [hpub], by simp [hrec]⟩

theorem Same.symm (h : Same φ ψ r r') : Same φ ψ r' r :=
  ⟨fun id => (h.publishers id).symm, fun id => (h.records id).symm⟩

theorem Same.registration (h : Same φ ψ r r') (hp : r.publishers.lookup id = some p) :
    ∃ q, r'.publishers.lookup id = some q ∧ φ q = φ p := by
  have hmap := h.publishers id
  rw [hp] at hmap
  exact Option.map_eq_some_iff.mp hmap

/-- One registration and its record, if there is one, are replaced. -/
theorem Same.replaced {q : PublisherRegistration}
    {f : PublisherRecord → PublisherRecord} (hp : r.publishers.lookup id = some p)
    (hpub : r'.publishers = r.publishers.insert id q)
    (hrec : r'.records =
      match r.records.lookup id with
      | none => r.records
      | some record => r.records.insert id (f record))
    (hφ : φ q = φ p) (hψ : ∀ record, ψ (f record) = ψ record) : Same φ ψ r r' := by
  refine ⟨by rw [hpub]; exact map_lookup_insert φ hp hφ, fun j => ?_⟩
  rw [hrec]
  cases hrecord : r.records.lookup id with
  | none => rfl
  | some record => exact map_lookup_insert ψ hrecord (hψ record) j

end Parts

/-- Updates that leave every mark as it is. -/
theorem SameMarks.advances (h : SameMarks r r') : Advances r r' := by
  intro hk
  refine ⟨⟨?_, ?_, ?_⟩, ?_⟩
  · intro id p hp
    obtain ⟨q, hq, hmark⟩ := h.symm.registration hp
    have hid : q.id = p.id := congrArg Prod.fst hmark
    rw [← hid, hk.registration_id id q hq]
  · intro id p hp
    have hmap := h.records id
    rw [hp] at hmap
    obtain ⟨q, hq, hmark⟩ := Option.map_eq_some_iff.mp hmap.symm
    have hid : q.id = p.id := congrArg Prod.fst hmark
    rw [← hid, hk.record_id id q hq]
  · intro id
    have hp := congrArg (Option.map Prod.snd) (h.publishers id)
    have hq := congrArg (Option.map Prod.snd) (h.records id)
    rw [Option.map_map, Option.map_map] at hp hq
    exact hp.trans ((hk.agree id).trans hq.symm)
  · rintro id boot generation ⟨p, hp, hmark⟩
    obtain ⟨q, hq, heq⟩ := h.registration hp
    have hboot : q.boot = p.boot := congrArg (fun m => m.2.1) heq
    have hgen : q.highestGeneration = p.highestGeneration := congrArg (fun m => m.2.2) heq
    exact ⟨q, hq, by rw [hboot, hgen]; exact hmark⟩

/-- A larger boot makes the earlier one past, which marks all its generations. -/
theorem advances_bindSession (r : PublisherRegistry) (id : PublisherId) (boot : PublisherBootId)
    (epoch : CoordinatorEpoch) (coordinatorBoot : CoordinatorBootId) (maxSource : EvidenceSource)
    (session : SessionId) (tick : Tick) (wall : UInt64) (description : Bytes) : Advances r
      (r.bindSession id boot epoch coordinatorBoot maxSource session tick wall description).2 := by
  intro hk
  rcases bindSession_cases hk id boot epoch coordinatorBoot maxSource session tick wall
    description with ⟨e, -, hpub, hrec⟩ | ⟨reg, rec, -, hpub, hrec, hid, hboot, hgen, hreg⟩
  · exact SameMarks.advances (.of_maps hpub hrec) hk
  · have hregid : reg.id = id := by
      rcases hreg with ⟨-, rfl⟩ | ⟨old, hold, -, rfl⟩
      · rfl
      · exact hk.registration_id id old hold
    have hregboot : reg.boot = boot := by
      rcases hreg with ⟨-, rfl⟩ | ⟨old, -, -, rfl⟩ <;> rfl
    refine ⟨hk.insert hpub hrec hregid hid (hregboot.trans hboot.symm) hgen.symm, ?_⟩
    intro j b g hm
    apply hm.insert hpub
    intro old hold
    rcases hreg with ⟨hnone, -⟩ | ⟨old', hold', hle, rfl⟩
    · rw [hnone] at hold
      cases hold
    · rw [hold'] at hold
      cases hold
      rcases lt_or_eq_of_le hle with hlt | heq
      · exact Or.inl hlt
      · refine Or.inr ⟨heq, ?_⟩
        simp [rebindRegistration, heq]

section Calls

variable (r : PublisherRegistry) (id : PublisherId) (boot : PublisherBootId)

/-- Ending a session is refused, or replaces the registration of the incarnation. -/
theorem endSpecificSession_cases (session : SessionId) (tick : Tick) :
    let out := r.endSpecificSession id boot session tick
    ((∃ e, out = (.error e, r)) ∧ ∀ p, r.publishers.lookup id = some p → p.boot ≠ boot) ∨
    ∃ p, r.publishers.lookup id = some p ∧ p.boot = boot ∧ out.1 = .ok () ∧
      out.2.publishers = r.publishers.insert id (closeSession p session tick) ∧
      out.2.records = r.records := by
  unfold endSpecificSession
  cases hreg : r.publishers.lookup id with
  | none => exact Or.inl ⟨⟨_, rfl⟩, fun p hp => by cases hp⟩
  | some p =>
    dsimp only
    split_ifs with hboot
    · refine Or.inl ⟨⟨_, rfl⟩, fun q hq => ?_⟩
      cases hq
      exact hboot
    · exact Or.inr ⟨p, rfl, not_not.mp hboot, rfl, rfl, rfl⟩

/-- A touch is refused, or replaces the registration and the time its record was seen. -/
theorem touch_cases (tick : Tick) (wall : UInt64) :
    let out := r.touch id boot tick wall
    (∃ e, out = (.error e, r)) ∨
    ∃ p, r.publishers.lookup id = some p ∧ p.boot = boot ∧ out.1 = .ok () ∧
      out.2.publishers = r.publishers.insert id (touchRegistration p tick) ∧
      out.2.records =
        match r.records.lookup id with
        | none => r.records
        | some record => r.records.insert id { record with lastSeenWallMillis := wall } := by
  unfold touch
  cases hreg : r.publishers.lookup id with
  | none => exact Or.inl ⟨_, rfl⟩
  | some p =>
    dsimp only
    split_ifs with hboot
    · exact Or.inl ⟨_, rfl⟩
    · exact Or.inr ⟨p, rfl, not_not.mp hboot, rfl, rfl, rfl⟩

/-- What `observe_evidence_generation` can do. A success uses up a generation that was
not marked before. -/
theorem observeEvidenceGeneration_cases (generation : EvidenceGeneration) :
    let out := r.observeEvidenceGeneration id boot generation
    (∃ e, out.1 = .error e ∧ out.2.publishers = r.publishers ∧ out.2.records = r.records) ∨
    ∃ p, r.publishers.lookup id = some p ∧ p.boot = boot ∧ p.highestGeneration < generation ∧
      out.1 = .ok () ∧
      out.2.publishers = r.publishers.insert id { p with highestGeneration := generation } ∧
      out.2.records =
        match r.records.lookup id with
        | none => r.records
        | some record => r.records.insert id { record with highestGeneration := generation } := by
  unfold observeEvidenceGeneration
  cases hreg : r.publishers.lookup id with
  | none => exact Or.inl ⟨_, rfl, rfl, rfl⟩
  | some p =>
    dsimp only
    split_ifs with hboot hzero hlow hsame
    · exact Or.inl ⟨_, rfl, rfl, rfl⟩
    · exact Or.inl ⟨_, rfl, rfl, rfl⟩
    · exact Or.inl ⟨_, rfl, rfl, rfl⟩
    · exact Or.inl ⟨_, rfl, rfl, rfl⟩
    · have hlt : p.highestGeneration < generation := lt_of_le_of_ne (not_lt.mp hlow) (Ne.symm hsame)
      exact Or.inr ⟨p, rfl, not_not.mp hboot, hlt, rfl, rfl, rfl⟩

variable {α β : Type} {φ : PublisherRegistration → α} {ψ : PublisherRecord → β}

theorem same_endSpecificSession {session : SessionId}
    (hφ : ∀ p, φ (closeSession p session tick) = φ p) :
    Same φ ψ r (r.endSpecificSession id boot session tick).2 := by
  rcases endSpecificSession_cases r id boot session tick with
    ⟨⟨e, h⟩, -⟩ | ⟨p, hp, -, -, hpub, hrec⟩
  · rw [h]
    exact .of_maps rfl rfl
  · refine ⟨?_, by simp [hrec]⟩
    rw [hpub]
    exact map_lookup_insert φ hp (hφ p)

theorem same_touch {wall : UInt64} (hφ : ∀ p, φ (touchRegistration p tick) = φ p)
    (hψ : ∀ k, ψ { k with lastSeenWallMillis := wall } = ψ k) :
    Same φ ψ r (r.touch id boot tick wall).2 := by
  rcases touch_cases r id boot tick wall with ⟨e, h⟩ | ⟨p, hp, -, -, hpub, hrec⟩
  · rw [h]
    exact .of_maps rfl rfl
  · exact .replaced hp hpub hrec (hφ p) hψ

theorem same_observeEvidenceGeneration
    (hφ : ∀ p, φ { p with highestGeneration := generation } = φ p)
    (hψ : ∀ k, ψ { k with highestGeneration := generation } = ψ k) :
    Same φ ψ r (r.observeEvidenceGeneration id boot generation).2 := by
  rcases observeEvidenceGeneration_cases r id boot generation with
    ⟨e, -, hpub, hrec⟩ | ⟨p, hp, -, -, -, hpub, hrec⟩
  · exact .of_maps hpub hrec
  · exact .replaced hp hpub hrec (hφ p) hψ

theorem same_expireLiveness (hφ : ∀ p, φ (r.expireRegistration tick p) = φ p) :
    Same φ ψ r (r.expireLiveness tick).2 :=
  ⟨FiniteMap.map_lookup_mapValues φ hφ _, fun _ => rfl⟩

theorem same_clearSessions (hφ : ∀ p, φ (clearSession p) = φ p) : Same φ ψ r r.clearSessions :=
  ⟨FiniteMap.map_lookup_mapValues φ hφ _, fun _ => rfl⟩

structure Steady (r r' : PublisherRegistry) : Prop where
  idleTicks : r'.idleTicks = r.idleTicks
  live : r'.stats.live = r.stats.live

theorem steady_bindSession (epoch : CoordinatorEpoch) (coordinatorBoot : CoordinatorBootId)
    (maxSource : EvidenceSource) (session : SessionId) (tick : Tick) (wall : UInt64)
    (description : Bytes) :
    Steady r (r.bindSession id boot epoch coordinatorBoot maxSource session tick wall
      description).2 := by
  have hrecord : Steady r (r.bindRecord id boot maxSource tick wall description).2 := by
    unfold bindRecord
    repeat' split
    all_goals exact ⟨rfl, rfl⟩
  unfold bindSession
  split_ifs
  · exact ⟨rfl, rfl⟩
  · exact ⟨rfl, rfl⟩
  · generalize r.bindRecord id boot maxSource tick wall description = bound at hrecord
    obtain ⟨_ | _, s⟩ := bound
    · exact hrecord
    · dsimp only [bindRegistration]
      repeat' split
      all_goals exact ⟨hrecord.idleTicks, hrecord.live⟩

theorem steady_endSpecificSession (session : SessionId) (tick : Tick) :
    Steady r (r.endSpecificSession id boot session tick).2 := by
  unfold endSpecificSession
  repeat' split
  all_goals exact ⟨rfl, rfl⟩

theorem steady_touch (tick : Tick) (wall : UInt64) : Steady r (r.touch id boot tick wall).2 := by
  unfold touch
  repeat' split
  all_goals exact ⟨rfl, rfl⟩

theorem steady_observeEvidenceGeneration (generation : EvidenceGeneration) :
    Steady r (r.observeEvidenceGeneration id boot generation).2 := by
  unfold observeEvidenceGeneration
  repeat' split
  all_goals exact ⟨rfl, rfl⟩

theorem sameMarks_expireLiveness (tick : Tick) : SameMarks r (r.expireLiveness tick).2 := by
  refine same_expireLiveness r fun p => ?_
  unfold expireRegistration
  split_ifs <;> rfl

theorem advances_endSpecificSession (session : SessionId) (tick : Tick) :
    Advances r (r.endSpecificSession id boot session tick).2 :=
  SameMarks.advances (same_endSpecificSession r id boot fun _ => rfl)

theorem advances_touch (tick : Tick) (wall : UInt64) : Advances r (r.touch id boot tick wall).2 :=
  SameMarks.advances (same_touch r id boot (fun _ => rfl) fun _ => rfl)

theorem advances_expireLiveness (tick : Tick) : Advances r (r.expireLiveness tick).2 :=
  (sameMarks_expireLiveness r tick).advances

theorem advances_clearSessions : Advances r r.clearSessions :=
  SameMarks.advances (same_clearSessions r fun _ => rfl)

theorem advances_observeEvidenceGeneration (generation : EvidenceGeneration) :
    Advances r (r.observeEvidenceGeneration id boot generation).2 := by
  intro hk
  rcases observeEvidenceGeneration_cases r id boot generation with
    ⟨e, -, hpub, hrec⟩ | ⟨p, hp, -, hlt, -, hpub, hrec⟩
  · exact SameMarks.advances (.of_maps hpub hrec) hk
  · obtain ⟨record, hrecord⟩ : ∃ record, r.records.lookup id = some record := by
      have hsome := hk.isSome_eq id
      rw [hp] at hsome
      exact Option.isSome_iff_exists.mp hsome
    have hsame : p.boot = record.highestBoot ∧ p.highestGeneration = record.highestGeneration := by
      simpa [hp, hrecord] using hk.agree id
    simp only [hrecord] at hrec
    refine ⟨hk.insert hpub hrec (hk.registration_id id p hp) (hk.record_id id record hrecord)
      hsame.1 rfl, ?_⟩
    intro j b g hm
    apply hm.insert hpub
    intro old hold
    rw [hp] at hold
    cases hold
    exact Or.inr ⟨rfl, le_of_lt hlt⟩

end Calls

theorem wellKeyed_restoreRecord (hk : r.WellKeyed)
    (record : PublisherRecord) (tick : Tick) : (r.restoreRecord record tick).2.WellKeyed := by
  unfold restoreRecord
  split_ifs
  · exact hk
  · exact hk.insert rfl rfl rfl rfl rfl rfl
  · exact hk.insert rfl rfl rfl rfl rfl rfl

theorem wellKeyed_restoreRecords (hr : r.WellKeyed) (records : List PublisherRecord) (tick : Tick) :
    (r.restoreRecords records tick).2.WellKeyed := by
  unfold restoreRecords
  refine andThen_invariant ?_ fun s hs => ⟨hs.registration_id, hs.record_id, hs.agree⟩
  exact tryEach_invariant WellKeyed (fun s record _ hs => wellKeyed_restoreRecord hs record tick) hr

/-- A publisher is restored with the incarnation and the generation of its record. -/
theorem restoreRecord_publishers (r : PublisherRegistry) (record : PublisherRecord) (tick : Tick) :
    (∃ e, r.restoreRecord record tick = (.error e, r)) ∨
    ∃ p, p.boot = record.highestBoot ∧ p.highestGeneration = record.highestGeneration ∧
      (r.restoreRecord record tick).1 = .ok () ∧
      (r.restoreRecord record tick).2.publishers = r.publishers.insert record.id p := by
  unfold restoreRecord
  by_cases hfull : r.records.size ≥ r.maxPublishers.toNat ∧ (r.records.lookup record.id).isNone
  · rw [if_pos hfull]
    exact Or.inl ⟨_, rfl⟩
  · rw [if_neg hfull]
    right
    by_cases hseen : record.firstSeenTick = tickNone
    · rw [if_pos hseen]
      exact ⟨_, rfl, rfl, rfl, rfl⟩
    · rw [if_neg hseen]
      exact ⟨_, rfl, rfl, rfl, rfl⟩

/-- The loop of a restore that succeeded. -/
theorem restoreRecords_ok {records : List PublisherRecord}
    (hok : (r.restoreRecords records tick).1 = .ok ()) :
    let loop := tryEach (fun s record => restoreRecord s record tick) r records
    loop.1 = .ok () ∧ (r.restoreRecords records tick).2.publishers = loop.2.publishers := by
  unfold restoreRecords at hok ⊢
  generalize tryEach (fun s record => restoreRecord s record tick) r records = loop at hok ⊢
  obtain ⟨_ | _, s⟩ := loop
  · cases hok
  · exact ⟨rfl, rfl⟩

section Restored

/-- Every publisher of the image is there, with the incarnation and the generation it
had. -/
theorem registered_restoreRecords (hr : r.WellKeyed)
    (hok : (r'.restoreRecords r.snapshotRecords tick).1 = .ok ())
    (hp : r.publishers.lookup id = some p) :
    ∃ q, (r'.restoreRecords r.snapshotRecords tick).2.publishers.lookup id = some q ∧
      q.boot = p.boot ∧ q.highestGeneration = p.highestGeneration := by
  let done := fun (record : PublisherRecord) (s : PublisherRegistry) =>
    ∃ p, s.publishers.lookup record.id = some p ∧ p.boot = record.highestBoot ∧
      p.highestGeneration = record.highestGeneration
  have hdo : ∀ s record, (restoreRecord s record tick).1 = .ok () →
      done record (restoreRecord s record tick).2 := by
    intro s record hrecord
    rcases restoreRecord_publishers s record tick with ⟨e, he⟩ | ⟨p, hboot, hgen, -, hpub⟩
    · rw [he] at hrecord
      cases hrecord
    · exact ⟨p, by rw [hpub, AList.lookup_insert], hboot, hgen⟩
  have hkeep : ∀ s x y, x.id ≠ y.id → done x s → done x (restoreRecord s y tick).2 := by
    rintro s x y hne ⟨p, hp, hmark⟩
    rcases restoreRecord_publishers s y tick with ⟨e, he⟩ | ⟨q, -, -, -, hpub⟩
    · rw [he]
      exact ⟨p, hp, hmark⟩
    · exact ⟨p, by rw [hpub, AList.lookup_insert_ne hne, hp], hmark⟩
  have hdistinct : r.snapshotRecords.Pairwise fun a b => a.id ≠ b.id :=
    pairwise_sorted_values PublisherRecord.id hr.record_id _
  obtain ⟨hloop, hpublishers⟩ := restoreRecords_ok hok
  have hall := tryEach_done done hdo hkeep hdistinct hloop
  -- the durable side carries the same incarnation and generation
  have hagree := hr.agree id
  rw [hp] at hagree
  obtain ⟨record, hrecord, heq⟩ := Option.map_eq_some_iff.mp hagree.symm
  obtain ⟨q, hq, hboot, hgen⟩ := hall record (mem_sorted_values.mpr ⟨id, hrecord⟩)
  rw [hr.record_id id record hrecord] at hq
  exact ⟨q, by rw [hpublishers, hq], hboot.trans (congrArg Prod.fst heq),
    hgen.trans (congrArg Prod.snd heq)⟩

/-- A publisher that the image does not have is not there unless it was before. -/
theorem unregistered_restoreRecords (hr : r.WellKeyed)
    (hok : (r'.restoreRecords r.snapshotRecords tick).1 = .ok ())
    (hnone : r.publishers.lookup id = none) (hnew : r'.publishers.lookup id = none) :
    (r'.restoreRecords r.snapshotRecords tick).2.publishers.lookup id = none := by
  rw [(restoreRecords_ok hok).2]
  refine tryEach_invariant (fun s : PublisherRegistry => s.publishers.lookup id = none) ?_ hnew
  intro s record hmem hs
  obtain ⟨j, hj⟩ := mem_sorted_values.mp hmem
  have hne : id ≠ record.id := by
    rintro rfl
    have hsome := hr.isSome_eq record.id
    rw [hnone, hr.record_id j record hj, hj] at hsome
    cases hsome
  rcases restoreRecord_publishers s record tick with ⟨e, he⟩ | ⟨q, -, -, -, hpub⟩
  · rw [he]
    exact hs
  · rw [hpub, AList.lookup_insert_ne hne, hs]

/-- Every generation that was used before the image was taken is used after it has been
restored. -/
theorem marked_restoreRecords (hr : r.WellKeyed)
    (hok : (r'.restoreRecords r.snapshotRecords tick).1 = .ok ()) {boot : PublisherBootId}
    (h : r.Marked id boot generation) :
    (r'.restoreRecords r.snapshotRecords tick).2.Marked id boot generation := by
  obtain ⟨p, hp, hmark⟩ := h
  obtain ⟨q, hq, hboot, hgen⟩ := registered_restoreRecords hr hok hp
  refine ⟨q, hq, ?_⟩
  rw [hboot, hgen]
  exact hmark

end Restored

def SameLiveness (r r' : PublisherRegistry) : Prop :=
  ∀ id, (r'.publishers.lookup id).map visible = (r.publishers.lookup id).map visible

theorem SameLiveness.refl (r : PublisherRegistry) : SameLiveness r r := fun _ => rfl

theorem SameLiveness.trans {s t : PublisherRegistry} (h : SameLiveness r s)
    (h' : SameLiveness s t) : SameLiveness r t := fun id => (h' id).trans (h id)

theorem sameLiveness_of_publishers
    (h : r'.publishers = r.publishers) : SameLiveness r r' := fun id => by rw [h]

/-- The visible parts of the registrations, in the order in which they are listed. -/
theorem visible_registrations (hk : r.WellKeyed) (h : SameLiveness r r') :
    r'.registrations.map visible = r.registrations.map visible := by
  let before := fun a b : PublisherId × PublisherBootId × PublisherState =>
    toLex (a.1, a.2.1) ≤ toLex (b.1, b.2.1)
  have hsort : ∀ s : PublisherRegistry, s.registrations.map visible =
      (s.publishers.values.map visible).insertionSort before := by
    intro s
    exact List.map_insertionSort _ _ _ _ fun a _ b _ => Iff.rfl
  have hperm := map_values_perm visible visible fun id => (h id).symm
  rw [hsort, hsort]
  refine (insertionSort_eq_of_perm before (fun a => toLex (a.1, a.2.1)) (fun _ _ => Iff.rfl)
    hperm ?_).symm
  -- the registrations of the first registry have distinct identities
  intro a ha b hb hab
  obtain ⟨p, hp, rfl⟩ := List.mem_map.mp ha
  obtain ⟨q, hq, rfl⟩ := List.mem_map.mp hb
  obtain ⟨id, hid⟩ := mem_values.mp hp
  obtain ⟨jd, hjd⟩ := mem_values.mp hq
  have hpq : p.id = q.id := congrArg Prod.fst (toLex.injective hab)
  have hkeys : id = jd := by
    rw [← hk.registration_id id p hid, ← hk.registration_id jd q hjd, hpq]
  subst hkeys
  rw [hid] at hjd
  cases hjd
  rfl

theorem sameLiveness_observe (r : PublisherRegistry) (id : PublisherId) (boot : PublisherBootId)
    (generation : EvidenceGeneration) :
    SameLiveness r (r.observeEvidenceGeneration id boot generation).2 :=
  (same_observeEvidenceGeneration (ψ := fun _ => ()) r id boot (fun _ => rfl)
    fun _ => rfl).publishers

/-- Touching a live registration leaves it live. -/
theorem sameLiveness_touch
    (hp : r.publishers.lookup id = some p) (hlive : p.state = .live) (boot : PublisherBootId)
    (tick : Tick) (wall : UInt64) : SameLiveness r (r.touch id boot tick wall).2 := by
  rcases touch_cases r id boot tick wall with ⟨e, h⟩ | ⟨q, hq, -, -, hpub, -⟩
  · rw [h]
    exact SameLiveness.refl r
  · intro j
    rw [hp] at hq
    cases hq
    rw [hpub]
    exact map_lookup_insert visible hp
      (by simp [visible, touchRegistration, hlive]) j

end FlowClassifier.Store.PublisherRegistry
