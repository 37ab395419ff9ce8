import FlowClassifier.Store.Publishers

/-!
When the publisher registry refuses to bind a session. A bind writes the durable record
before it looks at the registration, so a refusal by the registration comes after a write.
The conditions here are on the registry before the bind.
-/
namespace FlowClassifier.Store.PublisherRegistry

open Lib Foundation Evidence Workloads

def RecordRefuses (r : PublisherRegistry) (id : PublisherId) (boot : PublisherBootId) : Prop :=
  match r.records.lookup id with
  | none => r.maxPublishers.toNat ≤ r.records.size
  | some record => boot < record.highestBoot

def RegistrationRefuses (r : PublisherRegistry) (id : PublisherId) (boot : PublisherBootId) :
    Prop :=
  match r.publishers.lookup id with
  | none => r.maxPublishers.toNat ≤ r.publishers.size
  | some registration => boot < registration.boot

def Admits (r : PublisherRegistry) (id : PublisherId) (boot : PublisherBootId) : Prop :=
  boot ≠ 0 ∧ ¬ r.RecordRefuses id boot ∧ ¬ r.RegistrationRefuses id boot

instance (r : PublisherRegistry) (id : PublisherId) (boot : PublisherBootId) :
    Decidable (r.Admits id boot) := by
  unfold Admits RecordRefuses RegistrationRefuses
  cases r.records.lookup id <;> cases r.publishers.lookup id <;> exact inferInstance

/-- The registry refuses the bind and has written nothing new by then. -/
def RefusesUnwritten (r : PublisherRegistry) (id : PublisherId) (boot : PublisherBootId)
    (maxSource : EvidenceSource) (wall : UInt64) (description : Bytes) : Prop :=
  boot = 0 ∨ r.RecordRefuses id boot ∨
    r.RegistrationRefuses id boot ∧
      ∃ record, r.records.lookup id = some record ∧
        rebindRecord record boot maxSource wall description = record

theorem RefusesUnwritten.not_admits {r : PublisherRegistry} {id : PublisherId}
    {boot : PublisherBootId} {maxSource : EvidenceSource} {wall : UInt64} {description : Bytes}
    (h : r.RefusesUnwritten id boot maxSource wall description) : ¬ r.Admits id boot := by
  rintro ⟨hboot, hrecord, hregistration⟩
  rcases h with hzero | hrefuses | ⟨hrefuses, -⟩
  · exact hboot hzero
  · exact hrecord hrefuses
  · exact hregistration hrefuses

structure SameEntries (r r' : PublisherRegistry) : Prop where
  publishers : ∀ id, r'.publishers.lookup id = r.publishers.lookup id
  records : ∀ id, r'.records.lookup id = r.records.lookup id

theorem SameEntries.refl (r : PublisherRegistry) : SameEntries r r := ⟨fun _ => rfl, fun _ => rfl⟩

section Bind

variable {r : PublisherRegistry} {id : PublisherId} {boot : PublisherBootId}
  {epoch : CoordinatorEpoch} {coordinatorBoot : CoordinatorBootId} {maxSource : EvidenceSource}
  {session : SessionId} {tick : Tick} {wall : UInt64} {description : Bytes}

theorem bindRecord_refused (h : r.RecordRefuses id boot) :
    ∃ e r', r.bindRecord id boot maxSource tick wall description = (.error e, r') ∧
      SameEntries r r' := by
  unfold RecordRefuses at h
  unfold bindRecord
  cases hrecord : r.records.lookup id
  all_goals
    rw [hrecord] at h
    exact ⟨_, _, if_pos h, ⟨fun _ => rfl, fun _ => rfl⟩⟩

/-- A record that is accepted is written, and nothing else is. -/
theorem bindRecord_accepted (h : ¬ r.RecordRefuses id boot) :
    ∃ record r', r.bindRecord id boot maxSource tick wall description = (.ok (), r') ∧
      r'.records = r.records.insert id record ∧ r'.publishers = r.publishers ∧
      r'.maxPublishers = r.maxPublishers ∧ (∀ old, r.records.lookup id = some old →
        record = rebindRecord old boot maxSource wall description) ∧
      (r.records.lookup id = none → record.maxSource = maxSource) := by
  unfold RecordRefuses at h
  unfold bindRecord
  cases hrecord : r.records.lookup id with
  | none =>
    rw [hrecord] at h
    refine ⟨_, _, if_neg h, rfl, rfl, rfl, ?_, fun _ => rfl⟩
    intro old hold
    cases hold
  | some record =>
    rw [hrecord] at h
    refine ⟨_, _, if_neg h, rfl, rfl, rfl, ?_, nofun⟩
    rintro old ⟨⟩
    rfl

theorem bindRegistration_refused (h : r.RegistrationRefuses id boot) :
    ∃ e r', r.bindRegistration id boot epoch coordinatorBoot maxSource session tick description =
      (.error e, r') ∧ SameEntries r r' := by
  unfold RegistrationRefuses at h
  unfold bindRegistration
  cases hregistration : r.publishers.lookup id
  all_goals
    rw [hregistration] at h
    exact ⟨_, _, if_pos h, ⟨fun _ => rfl, fun _ => rfl⟩⟩

/-- An accepted registration is never the one that was there: it has opened one session
more. -/
theorem bindRegistration_accepted (h : ¬ r.RegistrationRefuses id boot) : ∃ registration r',
      r.bindRegistration id boot epoch coordinatorBoot maxSource session tick description =
        (.ok registration, r') ∧
      r'.publishers = r.publishers.insert id registration ∧ r'.records = r.records ∧
      r.publishers.lookup id ≠ some registration := by
  unfold RegistrationRefuses at h
  unfold bindRegistration
  cases hregistration : r.publishers.lookup id with
  | none =>
    rw [hregistration] at h
    refine ⟨_, _, if_neg h, rfl, rfl, ?_⟩
    intro hsame
    cases hsame
  | some registration =>
    rw [hregistration] at h
    refine ⟨_, _, if_neg h, rfl, rfl, ?_⟩
    intro hsame
    have hopened : registration.sessionsOpened = registration.sessionsOpened + 1 :=
      congrArg PublisherRegistration.sessionsOpened (Option.some.inj hsame)
    simp at hopened

theorem bindSession_of_boot_zero :
    ∃ e, r.bindSession id 0 epoch coordinatorBoot maxSource session tick wall description =
      (.error e, r) := by
  unfold bindSession
  split_ifs
  · exact ⟨_, rfl⟩
  · exact ⟨_, rfl⟩
  · contradiction

theorem bindSession_of_boot (h : boot ≠ 0) :
    r.bindSession id boot epoch coordinatorBoot maxSource session tick wall description =
      match r.bindRecord id boot maxSource tick wall description with
      | (.error e, r) => (.error e, r)
      | (.ok (), r) =>
        r.bindRegistration id boot epoch coordinatorBoot maxSource session tick description := by
  have hnamed : (!id.isEmpty && id.value.isEmpty) = false := by
    rw [StringId.isEmpty, Bool.not_and_self]
  unfold bindSession
  refine (if_neg (by simp [hnamed])).trans ((if_neg h).trans ?_)
  rfl

/-- The registry is left as it was exactly where it refuses before it writes. -/
theorem bindSession_sameEntries_iff : SameEntries r
        (r.bindSession id boot epoch coordinatorBoot maxSource session tick wall description).2 ↔
      r.RefusesUnwritten id boot maxSource wall description := by
  by_cases hboot : boot = 0
  · obtain ⟨e, he⟩ : ∃ e, r.bindSession id boot epoch coordinatorBoot maxSource session tick wall
        description = (.error e, r) := hboot ▸ bindSession_of_boot_zero
    rw [he]
    exact ⟨fun _ => .inl hboot, fun _ => .refl r⟩
  rw [bindSession_of_boot hboot]
  by_cases hrecord : r.RecordRefuses id boot
  · obtain ⟨e, r', he, hsame⟩ := bindRecord_refused hrecord
    rw [he]
    exact ⟨fun _ => .inr (.inl hrecord), fun _ => hsame⟩
  obtain ⟨record, r', he, hrecords, hpublishers, hroom, hrebind, -⟩ := bindRecord_accepted hrecord
  rw [he]
  dsimp only
  by_cases hregistration : r.RegistrationRefuses id boot
  · -- the record is written and the registration refuses: nothing changed only if the
    -- record is the one that was there
    have hregistration' : r'.RegistrationRefuses id boot := by
      simpa only [RegistrationRefuses, hpublishers, hroom] using hregistration
    obtain ⟨e, r'', he', hsame⟩ := bindRegistration_refused hregistration'
    rw [he']
    constructor
    · intro h
      have hstored : r.records.lookup id = some record := by
        rw [← h.records id, hsame.records id, hrecords, FiniteMap.lookup_insert_eq, if_pos rfl]
      exact .inr (.inr ⟨hregistration, record, hstored, (hrebind record hstored).symm⟩)
    · rintro (hzero | hrefuses | ⟨-, old, hold, hkept⟩)
      · exact absurd hzero hboot
      · exact absurd hrefuses hrecord
      · refine ⟨fun j => ?_, fun j => ?_⟩
        · rw [hsame.publishers j, hpublishers]
        · rw [hsame.records j, hrecords, FiniteMap.lookup_insert_eq]
          split_ifs with hj
          · rw [hj, hold, hrebind old hold, hkept]
          · rfl
  · -- an accepted bind changes the registration
    have hregistration' : ¬ r'.RegistrationRefuses id boot := by
      simpa only [RegistrationRefuses, hpublishers, hroom] using hregistration
    obtain ⟨registration, r'', he', hinsert, -, hnew⟩ := bindRegistration_accepted hregistration'
    rw [he']
    constructor
    · intro h
      refine absurd ?_ hnew
      rw [hpublishers, ← h.publishers id, hinsert, FiniteMap.lookup_insert_eq, if_pos rfl]
    · rintro (hzero | hrefuses | ⟨hrefuses, -⟩)
      · exact absurd hzero hboot
      · exact absurd hrefuses hrecord
      · exact absurd hrefuses hregistration

theorem bindSession_isOk_iff :
    (r.bindSession id boot epoch coordinatorBoot maxSource session tick wall
      description).1.isOk = true ↔ r.Admits id boot := by
  by_cases hboot : boot = 0
  · obtain ⟨e, he⟩ : ∃ e, r.bindSession id boot epoch coordinatorBoot maxSource session tick wall
        description = (.error e, r) := hboot ▸ bindSession_of_boot_zero
    rw [he]
    exact iff_of_false Bool.false_ne_true fun h => h.1 hboot
  rw [bindSession_of_boot hboot]
  by_cases hrecord : r.RecordRefuses id boot
  · obtain ⟨e, r', he, -⟩ := bindRecord_refused hrecord
    rw [he]
    exact iff_of_false Bool.false_ne_true fun h => h.2.1 hrecord
  obtain ⟨record, r', he, hrecords, hpublishers, hroom, -⟩ := bindRecord_accepted hrecord
  rw [he]
  dsimp only
  have hsame : r'.RegistrationRefuses id boot ↔ r.RegistrationRefuses id boot := by
    simp only [RegistrationRefuses, hpublishers, hroom]
  by_cases hregistration : r'.RegistrationRefuses id boot
  · obtain ⟨e, r'', he', -⟩ := bindRegistration_refused hregistration
    rw [he']
    exact iff_of_false Bool.false_ne_true fun h => h.2.2 (hsame.mp hregistration)
  · obtain ⟨registration, r'', he', -⟩ := bindRegistration_accepted hregistration
    rw [he']
    exact iff_of_true rfl ⟨hboot, hrecord, fun h => hregistration (hsame.mpr h)⟩

/-- The record that an accepted bind leaves. -/
theorem bindSession_record
    (hok : (r.bindSession id boot epoch coordinatorBoot maxSource session tick wall
      description).1.isOk = true) :
    ∃ record, (r.bindSession id boot epoch coordinatorBoot maxSource session tick wall
        description).2.records = r.records.insert id record ∧
      (∀ old, r.records.lookup id = some old →
        record = rebindRecord old boot maxSource wall description) ∧
      (r.records.lookup id = none → record.maxSource = maxSource) := by
  obtain ⟨hboot, hrecord, hregistration⟩ := bindSession_isOk_iff.mp hok
  obtain ⟨record, r', he, hrecords, hpublishers, hroom, hrebind⟩ :=
    @bindRecord_accepted r id boot maxSource tick wall description hrecord
  have hregistration' : ¬ r'.RegistrationRefuses id boot := by
    simpa only [RegistrationRefuses, hpublishers, hroom] using hregistration
  obtain ⟨registration, r'', he', -, hkept, -⟩ := @bindRegistration_accepted r' id boot epoch
    coordinatorBoot maxSource session tick description hregistration'
  refine ⟨record, ?_, hrebind⟩
  rw [bindSession_of_boot hboot, he]
  dsimp only
  rw [he', hkept, hrecords]

end Bind
end FlowClassifier.Store.PublisherRegistry
