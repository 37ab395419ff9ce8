import FlowClassifier.Transitions

/-!
Liveness against the sessions that carry it. A run is tracked together with the sessions
that `register_publisher` bound and that no call has ended since. While the steps keep to
the condition below, an incarnation counts as live only when such a session of the current
epoch is open, and the two ways of asking for liveness agree. The sessions of an earlier
epoch stay in the list of a registration, which is why the condition is needed.
-/
namespace FlowClassifier.Liveness

open Lib Foundation Evidence Workloads Engine Store Classifier PublisherRegistry FiniteMap

variable {id : PublisherId} {boot : PublisherBootId} {tick : Tick}

structure BoundSession where
  publisher : PublisherId
  boot : PublisherBootId
  session : SessionId
  epoch : CoordinatorEpoch

structure Tracked where
  classifier : Classifier
  sessions : List BoundSession := []

def ends (id : PublisherId) (boot : PublisherBootId) (session : SessionId)
    (s : BoundSession) : Bool :=
  s.publisher == id && s.boot == boot && (session.isEmpty || s.session == session)

def sessionsAfter (c : Classifier) (sessions : List BoundSession) :
    Operation → List BoundSession
  | .registerPublisher id boot maxSource session description tick wall =>
    match (c.registerPublisher id boot maxSource session description tick wall).1 with
    | .ok _ => ⟨id, boot, session, c.epoch⟩ :: sessions
    | .error _ => sessions
  | .endPublisherSession id boot session tick =>
    match (c.endPublisherSession id boot session tick).1 with
    | .ok _ => sessions.filter fun s => !ends id boot session s
    | .error _ => sessions
  | _ => sessions

def track (t : Tracked) (op : Operation) : Tracked where
  classifier := t.classifier.step op
  sessions := sessionsAfter t.classifier t.sessions op

/-- The steps under which liveness stays tied to a session of the current epoch. -/
def Orderly (c : Classifier) : Operation → Prop
  | .registerPublisher id boot _ _ _ _ _ =>
    ∀ p, c.publishers.publishers.lookup id = some p → p.boot = boot →
      p.liveSessions = [] ∨ p.registeredEpoch = c.epoch
  | .heartbeat id boot _ _ =>
    ∀ p, c.publishers.publishers.lookup id = some p → p.boot = boot → p.state = .idle →
      p.liveSessions ≠ [] ∧ p.registeredEpoch = c.epoch
  | .restore image _ _ =>
    image.epoch ≤ c.epoch ∨
      ∀ id p, c.publishers.publishers.lookup id = some p → p.state ≠ .live
  | _ => True

structure Covered (epoch : CoordinatorEpoch) (sessions : List BoundSession)
    (p : PublisherRegistration) : Prop where
  past : p.registeredEpoch ≤ epoch
  bound : p.state ≠ .registered
  live : p.state = .live → p.liveSessions ≠ [] ∧ p.registeredEpoch = epoch
  isOpen : p.registeredEpoch = epoch →
    ∀ s ∈ p.liveSessions, ⟨p.id, p.boot, s, epoch⟩ ∈ sessions

structure AllCovered (epoch : CoordinatorEpoch) (sessions : List BoundSession)
    (r : PublisherRegistry) : Prop where
  keyed : r.WellKeyed
  covered : ∀ id p, r.publishers.lookup id = some p → Covered epoch sessions p

section Registry

variable {r' : PublisherRegistry} {p : PublisherRegistration}

variable {epoch : CoordinatorEpoch} {sessions : List BoundSession} {r : PublisherRegistry}

/-- Replacing one registration by a covered one. -/
theorem AllCovered.insert (h : AllCovered epoch sessions r) (hkeyed : r'.WellKeyed)
    (hpub : r'.publishers = r.publishers.insert id p) (hp : Covered epoch sessions p) :
    AllCovered epoch sessions r' := by
  refine ⟨hkeyed, ?_⟩
  intro j q hq
  rw [hpub, lookup_insert_eq] at hq
  split_ifs at hq
  · cases hq
    exact hp
  · exact h.covered j q hq

/-- A registration that differs in its tick and in marks only, or is no longer live. -/
theorem Covered.of_same {q : PublisherRegistration} (h : Covered epoch sessions p)
    (hid : q.id = p.id) (hboot : q.boot = p.boot) (hepoch : q.registeredEpoch = p.registeredEpoch)
    (hsessions : q.liveSessions = p.liveSessions) (hstate : q.state ≠ .registered)
    (hlive : q.state = .live → p.liveSessions ≠ [] ∧ p.registeredEpoch = epoch) :
    Covered epoch sessions q := by
  refine ⟨hepoch ▸ h.past, hstate, ?_, ?_⟩
  · rw [hsessions, hepoch]
    exact hlive
  · rw [hsessions, hepoch, hid, hboot]
    exact h.isOpen

/-- The mark of a generation does not matter. -/
theorem Covered.marked (h : Covered epoch sessions p) (generation : EvidenceGeneration) :
    Covered epoch sessions { p with highestGeneration := generation } :=
  ⟨h.past, h.bound, h.live, h.isOpen⟩

theorem Covered.grow {sessions' : List BoundSession} (h : Covered epoch sessions p)
    (hsub : sessions ⊆ sessions') : Covered epoch sessions' p :=
  ⟨h.past, h.bound, h.live, fun he t ht => hsub (h.isOpen he t ht)⟩

theorem covered_firstRegistration (id : PublisherId) (boot : PublisherBootId)
    (coordinatorBoot : CoordinatorBootId) (maxSource : EvidenceSource) (session : SessionId)
    (tick : Tick) (description : Bytes) : Covered epoch (⟨id, boot, session, epoch⟩ :: sessions)
      (firstRegistration id boot epoch coordinatorBoot maxSource session tick description) := by
  refine ⟨le_refl _, by simp [firstRegistration],
    fun _ => ⟨by simp [firstRegistration], rfl⟩, ?_⟩
  intro _ s hs
  have : s = session := by simpa [firstRegistration] using hs
  subst this
  exact List.mem_cons_self

/-- Binding a known incarnation again keeps it covered when the sessions it lists are of
this epoch; a later boot starts without sessions. -/
theorem covered_rebindRegistration (h : Covered epoch sessions p) (hle : p.boot ≤ boot)
    (horderly : p.boot = boot → p.liveSessions = [] ∨ p.registeredEpoch = epoch)
    (coordinatorBoot : CoordinatorBootId) (session : SessionId) (tick : Tick) :
    Covered epoch (⟨p.id, boot, session, epoch⟩ :: sessions)
      (rebindRegistration p boot epoch coordinatorBoot session tick) := by
  set kept := if boot > p.boot then [] else p.liveSessions with hkept
  have hopen : ∀ s ∈ kept, (⟨p.id, boot, s, epoch⟩ : BoundSession) ∈ sessions := by
    intro s hs
    rw [hkept] at hs
    split_ifs at hs with hgt
    · cases hs
    · have hboot : p.boot = boot := le_antisymm hle (not_lt.mp hgt)
      rcases horderly hboot with hnone | hepoch
      · rw [hnone] at hs
        cases hs
      · rw [← hboot]
        exact h.isOpen hepoch s hs
  refine ⟨le_refl _, by simp [rebindRegistration], fun _ => ⟨?_, rfl⟩, ?_⟩
  · simp only [rebindRegistration, ← hkept]
    split_ifs with hmem
    · exact List.ne_nil_of_mem hmem
    · simp
  · intro _ s hs
    simp only [rebindRegistration, ← hkept] at hs ⊢
    split_ifs at hs with hmem
    · exact List.mem_cons_of_mem _ (hopen s hs)
    · rcases List.mem_append.mp hs with hold | hnew
      · exact List.mem_cons_of_mem _ (hopen s hold)
      · rw [List.mem_singleton.mp hnew]
        exact List.mem_cons_self

/-- Closing sessions of an incarnation: what it still lists is still open. -/
theorem covered_closeSession (h : Covered epoch sessions p) (session : SessionId) (tick : Tick) :
    Covered epoch (sessions.filter fun s => !ends p.id p.boot session s)
      (PublisherRegistry.closeSession p session tick) := by
  set remaining := if session.isEmpty then [] else p.liveSessions.filter (· ≠ session)
    with hremaining
  refine ⟨h.past, ?_, ?_, ?_⟩
  · simp only [PublisherRegistry.closeSession, ← hremaining]
    split_ifs
    · simp
    · exact h.bound
  · simp only [PublisherRegistry.closeSession, ← hremaining]
    intro hlive
    split_ifs at hlive with hempty
    exact ⟨by simpa using hempty, (h.live hlive).2⟩
  · intro hepoch s hs
    simp only [PublisherRegistry.closeSession, ← hremaining] at hs
    rw [hremaining] at hs
    split_ifs at hs with hall
    · cases hs
    · obtain ⟨hmem, hne⟩ := List.mem_filter.mp hs
      refine List.mem_filter.mpr ⟨h.isOpen hepoch s hmem, ?_⟩
      have hne : s ≠ session := by simpa using hne
      simp [ends, hall, hne, PublisherRegistry.closeSession]

/-- Sessions of other publishers are not ended. -/
theorem Covered.filter_ends (h : Covered epoch sessions p)
    (hid : p.id ≠ id) (boot : PublisherBootId) (session : SessionId) :
    Covered epoch (sessions.filter fun s => !ends id boot session s) p := by
  refine ⟨h.past, h.bound, h.live, ?_⟩
  intro hepoch s hs
  exact List.mem_filter.mpr ⟨h.isOpen hepoch s hs, by simp [ends, hid]⟩

theorem AllCovered.endSession (h : AllCovered epoch sessions r) {session : SessionId}
    (hkeyed : r'.WellKeyed) (hp : r.publishers.lookup id = some p) (hboot : p.boot = boot)
    (hpub : r'.publishers =
      r.publishers.insert id (PublisherRegistry.closeSession p session tick)) :
    AllCovered epoch (sessions.filter fun s => !ends id boot session s) r' := by
  refine ⟨hkeyed, ?_⟩
  intro j q hq
  rw [hpub, lookup_insert_eq] at hq
  split_ifs at hq with hj
  · cases hq
    have hcov := covered_closeSession (h.covered id p hp) session tick
    rwa [h.keyed.registration_id id p hp, hboot] at hcov
  · have hqid := h.keyed.registration_id j q hq
    exact (h.covered j q hq).filter_ends (hqid ▸ hj) boot session

/-- Once the sessions are cleared and the epoch does not fall, nothing is live. -/
theorem allCovered_clearSessions (h : AllCovered epoch sessions r) {epoch' : CoordinatorEpoch}
    (hle : epoch ≤ epoch') : AllCovered epoch' sessions r.clearSessions := by
  refine ⟨(advances_clearSessions r h.keyed).1, ?_⟩
  intro id q hq
  obtain ⟨p, hp, rfl⟩ := of_lookup_mapValues hq
  have hcov := h.covered id p hp
  refine ⟨le_trans hcov.past hle, by simp [clearSession],
    by simp [clearSession], ?_⟩
  intro hepoch s hs
  have hsame : epoch = epoch' := le_antisymm hle (by rw [← hepoch]; exact hcov.past)
  subst hsame
  exact hcov.isOpen hepoch s hs

/-- Touching an incarnation that is idle only with sessions of this epoch. -/
theorem covered_touchRegistration (h : Covered epoch sessions p)
    (hidle : p.state = .idle → p.liveSessions ≠ [] ∧ p.registeredEpoch = epoch) (tick : Tick) :
    Covered epoch sessions (touchRegistration p tick) := by
  refine h.of_same rfl rfl rfl rfl ?_ fun hlive => ?_
  · simp only [touchRegistration]
    split_ifs <;> simp
  · cases hstate : p.state with
    | registered => exact absurd hstate h.bound
    | live => exact h.live hstate
    | idle => exact hidle hstate
    | dead => simp [touchRegistration, hstate] at hlive

theorem covered_expireRegistration (h : Covered epoch sessions p) (tick : Tick) :
    Covered epoch sessions (r.expireRegistration tick p) := by
  unfold expireRegistration
  split_ifs
  · exact h.of_same rfl rfl rfl rfl (by simp) (by simp)
  · exact h

theorem allCovered_restoreRecord (h : AllCovered epoch sessions r) (record : PublisherRecord)
    (tick : Tick) : AllCovered epoch sessions (r.restoreRecord record tick).2 := by
  have hkeyed := wellKeyed_restoreRecord h.keyed record tick
  unfold PublisherRegistry.restoreRecord at hkeyed ⊢
  by_cases hfull : r.records.size ≥ r.maxPublishers.toNat ∧ (r.records.lookup record.id).isNone
  · rw [if_pos hfull]
    exact h
  · rw [if_neg hfull] at hkeyed ⊢
    refine h.insert hkeyed rfl ⟨?_, ?_, ?_, ?_⟩
    · rw [UInt64.le_iff_toNat_le]
      exact Nat.zero_le _
    · simp [restoredRegistration]
    · simp [restoredRegistration]
    · intro _ s hs
      cases hs

/-- While nothing is live the epoch may be raised. -/
theorem AllCovered.raise (h : AllCovered epoch sessions r) {epoch' : CoordinatorEpoch}
    (hlt : epoch < epoch') (hnone : ∀ id p, r.publishers.lookup id = some p → p.state ≠ .live) :
    AllCovered epoch' sessions r := by
  refine ⟨h.keyed, ?_⟩
  intro id p hp
  have hcov := h.covered id p hp
  refine ⟨le_of_lt (lt_of_le_of_lt hcov.past hlt), hcov.bound,
    fun hlive => absurd hlive (hnone id p hp), ?_⟩
  intro hepoch
  exact absurd hcov.past (not_le.mpr (hepoch ▸ hlt))

end Registry

def Invariant (t : Tracked) : Prop :=
  AllCovered t.classifier.epoch t.sessions t.classifier.publishers

theorem invariant_new (options : ClassifierOptions) : Invariant { classifier := .new options } := by
  refine ⟨PublisherRegistry.wellKeyed_new _ _, ?_⟩
  intro id p hp
  simp [Classifier.new, PublisherRegistry.new] at hp

theorem invariant_advanceEpoch {t : Tracked} (h : Invariant t) (boot : CoordinatorBootId) :
    Invariant (track t (.advanceEpoch boot)) := by
  unfold Invariant track Classifier.step Classifier.advanceEpoch
  dsimp only [sessionsAfter]
  split
  · exact h
  · split
    · exact h
    next epoch heq => exact allCovered_clearSessions h (le_of_lt (Counter.value_lt_of_next heq))

theorem invariant_endPublisherSession {t : Tracked} (h : Invariant t) (id : PublisherId)
    (boot : PublisherBootId) (session : SessionId) (tick : Tick) :
    Invariant (track t (.endPublisherSession id boot session tick)) := by
  set c := t.classifier with hc
  have hkeyed := (advances_endSpecificSession c.publishers id boot session tick h.keyed).1
  have hcases := endSpecificSession_cases c.publishers id boot session tick
  simp only [Invariant, track, Classifier.step, sessionsAfter, Classifier.endPublisherSession, ← hc]
  generalize c.publishers.endSpecificSession id boot session tick = out at hkeyed hcases
  obtain ⟨result, publishers⟩ := out
  rcases hcases with ⟨⟨e, heq⟩, -⟩ | ⟨p, hp, hboot, rfl, hpub, -⟩
  · cases heq
    exact h
  · exact AllCovered.endSession h hkeyed hp hboot hpub

/-- Restored registrations are not live, so they need no session. -/
theorem invariant_restore {t : Tracked} (h : Invariant t) {image : DurableState}
    {boot : CoordinatorBootId} (horderly : Orderly t.classifier (.restore image boot tick)) :
    Invariant (track t (.restore image boot tick)) := by
  set c := t.classifier with hc
  set epoch := if image.epoch > c.epoch then image.epoch else c.epoch with hepoch
  have hraised : AllCovered epoch t.sessions c.publishers := by
    rw [hepoch]
    split_ifs with hgt
    · exact AllCovered.raise h hgt (horderly.resolve_left (not_le.mpr hgt))
    · exact h
  have hcovered : AllCovered epoch t.sessions (restore image c boot tick).2.publishers :=
    publishers_restore boot hraised (fun r record hr => allCovered_restoreRecord hr record tick)
      (fun r _ hr => ⟨⟨hr.keyed.registration_id, hr.keyed.record_id, hr.keyed.agree⟩, hr.covered⟩)
      fun r hr => allCovered_clearSessions hr (le_refl _)
  rw [hepoch, ← epoch_restore image c boot tick] at hcovered
  exact hcovered

/-- The other operations end no session and leave the epoch, and each registration is
covered after them because of what they did to it. -/
theorem invariant_moved {t : Tracked} {op : Operation} (h : Invariant t)
    (hadvance : ∀ boot, op ≠ .advanceEpoch boot) (hrestore : op.Running)
    (hend : ∀ id boot session tick, op ≠ .endPublisherSession id boot session tick)
    (horderly : Orderly t.classifier op) : Invariant (track t op) := by
  have hgrow : t.sessions ⊆ sessionsAfter t.classifier t.sessions op := by
    cases op with
    | registerPublisher =>
      rw [sessionsAfter]
      split
      · exact List.subset_cons_self _ _
      · exact List.Subset.refl _
    | endPublisherSession id boot session tick => exact absurd rfl (hend id boot session tick)
    | _ => exact List.Subset.refl _
  have hbound : ∀ {id boot maxSource session description tick wall},
      (t.classifier.registerPublisher id boot maxSource session description tick wall).1.isOk =
        true → sessionsAfter t.classifier t.sessions
          (.registerPublisher id boot maxSource session description tick wall) =
        ⟨id, boot, session, t.classifier.epoch⟩ :: t.sessions := by
    intro id boot maxSource session description tick wall hok
    rw [sessionsAfter]
    split
    · rfl
    next e heq =>
      rw [heq] at hok
      cases hok
  refine ⟨(advances_step t.classifier hrestore h.keyed).1, fun id q hq => ?_⟩
  simp only [track, (framed_step t.classifier op).epoch hadvance hrestore]
  have hcov := fun {j p} => h.covered j p
  cases moved_step h.keyed hrestore hq with
  | kept generation hp => exact ((hcov hp).marked generation).grow hgrow
  | first hok =>
    rw [hbound hok]
    exact covered_firstRegistration _ _ _ _ _ _ _
  | @rebound id boot _ session _ tick _ p hok hp hle =>
    have hrebound := covered_rebindRegistration (hcov hp) hle (horderly p hp)
      t.classifier.coordinatorBoot session tick
    rw [h.keyed.registration_id id p hp] at hrebound
    rw [hbound hok]
    exact hrebound
  | heard _ hp hboot =>
    exact (covered_touchRegistration (hcov hp) (horderly _ hp hboot) _).grow hgrow
  | published generation _ haccepted =>
    -- a submission is accepted from a publisher that is live
    refine (covered_touchRegistration ((hcov haccepted.registered).marked generation)
      (fun hidle => ?_) _).grow hgrow
    cases haccepted.live.symm.trans hidle
  | expired hp => exact (covered_expireRegistration (hcov hp) _).grow hgrow
  | closed => exact absurd rfl (hend _ _ _ _)
  | cleared => exact absurd rfl (hadvance _)

theorem invariant_track {t : Tracked} {op : Operation} (horderly : Orderly t.classifier op)
    (h : Invariant t) : Invariant (track t op) := by
  cases op with
  | advanceEpoch boot => exact invariant_advanceEpoch h boot
  | endPublisherSession id boot session tick =>
    exact invariant_endPublisherSession h id boot session tick
  | restore => exact invariant_restore h horderly
  | _ => exact invariant_moved h nofun nofun nofun horderly

/-- The text of an incarnation determines it: no identity contains the separator. -/
theorem bootKey_injective {p q : PublisherId} {b d : PublisherBootId}
    (h : bootKey p b = bootKey q d) : p = q ∧ b = d := by
  have hat : text "@" = [64] := by decide
  simp only [bootKey, hat, List.append_assoc, List.singleton_append] at h
  obtain ⟨hvalue, -, hboot⟩ := split_at_separator (P := fun x => isIdentityByte x = true)
    (fun x hx => p.isIdentityByte_of_mem hx) (fun x hx => q.isIdentityByte_of_mem hx)
    (by decide) (by decide) h
  exact ⟨StringId.ext_value hvalue, UInt64.toNat_inj.mp (decimal_injective hboot)⟩

theorem mem_livePublisherBoots {c : Classifier} (hkeyed : c.publishers.WellKeyed)
    (id : PublisherId) (boot : PublisherBootId) (tick : Tick) :
    bootKey id boot ∈ (c.buildAuthorityContext tick).livePublisherBoots ↔
      ∃ p, c.publishers.publishers.lookup id = some p ∧ p.boot = boot ∧ p.state = .live := by
  have hmem : ∀ p, p ∈ c.publishers.registrations ↔
      ∃ j, c.publishers.publishers.lookup j = some p := fun p =>
    (List.perm_insertionSort _ _).mem_iff.trans mem_values
  simp only [buildAuthorityContext, List.mem_map, List.mem_filter, hmem, beq_iff_eq]
  constructor
  · rintro ⟨p, ⟨⟨j, hj⟩, hlive⟩, hkey⟩
    obtain ⟨hid, hboot⟩ := bootKey_injective hkey
    rw [hkeyed.registration_id j p hj] at hid
    exact ⟨p, hid ▸ hj, hboot, hlive⟩
  · rintro ⟨p, hp, rfl, hlive⟩
    exact ⟨p, ⟨⟨id, hp⟩, hlive⟩, by rw [hkeyed.registration_id id p hp]⟩

theorem isLive_iff (r : PublisherRegistry) (id : PublisherId) (boot : PublisherBootId) :
    r.isLive id boot = true ↔ ∃ p, r.publishers.lookup id = some p ∧ p.boot = boot ∧
      p.state = .live ∧ p.liveSessions ≠ [] := by
  unfold PublisherRegistry.isLive
  cases r.publishers.lookup id with
  | none => simp
  | some p => simp; tauto

/-- In a run whose steps are orderly, an incarnation is live only with an open session of
the current epoch, and the live set of `classify` and `is_live` name the same ones. -/
theorem live_only_with_open_session (options : ClassifierOptions) (ops : List Operation)
    (horderly : Along track (fun t => Orderly t.classifier) { classifier := .new options } ops)
    (id : PublisherId) (boot : PublisherBootId) (tick : Tick) :
    let t := run track { classifier := .new options } ops
    let listed := bootKey id boot ∈ (t.classifier.buildAuthorityContext tick).livePublisherBoots
    let reported := t.classifier.publishers.isLive id boot = true
    (listed ∨ reported → ∃ s ∈ t.sessions,
      s.publisher = id ∧ s.boot = boot ∧ s.epoch = t.classifier.epoch) ∧
    (listed ↔ reported) := by
  intro t listed reported
  have h : Invariant t :=
    run_invariant track (fun _ _ => invariant_track) (invariant_new options) horderly
  have hagree : listed ↔ reported := by
    simp only [listed, reported, mem_livePublisherBoots h.keyed, isLive_iff]
    refine exists_congr fun p => ?_
    constructor
    · rintro ⟨hp, hboot, hlive⟩
      exact ⟨hp, hboot, hlive, ((h.covered id p hp).live hlive).1⟩
    · rintro ⟨hp, hboot, hlive, -⟩
      exact ⟨hp, hboot, hlive⟩
  refine ⟨?_, hagree⟩
  rintro (hlisted | hreported)
  all_goals
    obtain ⟨p, hp, hboot, hlive, hsome⟩ := (isLive_iff _ _ _).mp (by tauto : reported)
    obtain ⟨s, hs⟩ := List.exists_mem_of_ne_nil _ hsome
    have hcov := h.covered id p hp
    have hmem := hcov.isOpen (hcov.live hlive).2 s hs
    rw [h.keyed.registration_id id p hp, hboot] at hmem
    exact ⟨_, hmem, rfl, rfl, rfl⟩

def sampleRun : List Operation :=
  [.registerPublisher (.make (text "agent")) 2 .declaredAuthenticated (.make (text "s1")) [] 5 0,
   .advanceEpoch 7,
   .heartbeat (.make (text "agent")) 2 6 0]

/-- After the heartbeat the publisher is live again in the new epoch, although its only
session was bound in the old one. -/
theorem live_without_open_session :
    let t := run track { classifier := .new {} } sampleRun
    t.classifier.publishers.isLive (.make (text "agent")) 2 = true ∧
      ¬ ∃ s ∈ t.sessions, s.publisher = .make (text "agent") ∧ s.boot = 2 ∧
        s.epoch = t.classifier.epoch := by
  decide +kernel

theorem live_only_with_open_session_sample :
    let ops := [sampleRun[0], .heartbeat (.make (text "agent")) 2 6 0]
    let t := run track { classifier := .new {} } ops
    t.classifier.publishers.isLive (.make (text "agent")) 2 = true ∧
      ∃ s ∈ t.sessions, s.publisher = .make (text "agent") ∧ s.boot = 2 ∧
        s.epoch = t.classifier.epoch := by
  have hlive : (run track { classifier := .new {} }
      [sampleRun[0], .heartbeat (.make (text "agent")) 2 6 0]).classifier.publishers.isLive
        (.make (text "agent")) 2 = true := by decide +kernel
  refine ⟨hlive, (live_only_with_open_session {} _ ?_ _ _ 0).1 (Or.inr hlive)⟩
  refine ⟨fun p hp => ?_, fun p hp hboot hidle => ?_, trivial⟩
  · simp [Classifier.new, PublisherRegistry.new] at hp
  · have hstate : ((track { classifier := .new {} }
        sampleRun[0]).classifier.publishers.publishers.lookup (.make (text "agent"))).map
          (·.state) = some .live := by decide +kernel
    rw [hp, Option.map_some, hidle] at hstate
    cases hstate

end FlowClassifier.Liveness
