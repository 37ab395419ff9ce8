import FlowClassifier.Codec.Unreadable
import FlowClassifier.Runtime.StateFile

/-!
The numbering of policies over a chain of coordinators on one state file. A start installs
the stored policy on top of the configured one, so the number it gets is the configured
number or the next one, and not the number it was stored with. While every configured
policy is numbered past what was in force before, numbers never fall and are never reused.
-/
namespace FlowClassifier

open Lib Foundation Hash Policies Codec

variable {env : Readings} {boot : CoordinatorBootId}
variable {co : Coordinator}

/-- The later policy has a larger number, or the same number and the same content. -/
def Follows (later earlier : ClassifierPolicy) : Prop :=
  earlier.generation ≤ later.generation ∧
    (earlier.generation = later.generation →
      computePolicyDigest earlier = computePolicyDigest later)

namespace Follows

variable {p q r : ClassifierPolicy}

theorem refl (p : ClassifierPolicy) : Follows p p := ⟨UInt64.le_refl _, fun _ => rfl⟩

theorem trans (h : Follows p q) (h' : Follows q r) : Follows p r := by
  refine ⟨UInt64.le_trans h'.1 h.1, fun heq => ?_⟩
  have hmid : r.generation = q.generation := UInt64.le_antisymm h'.1 (by rw [heq]; exact h.1)
  rw [h'.2 hmid, h.2 (hmid ▸ heq)]

theorem of_lt (h : q.generation < p.generation) : Follows p q :=
  ⟨UInt64.le_of_lt h, fun heq => absurd (heq ▸ h) (UInt64.lt_irrefl _)⟩

end Follows

theorem lt_add_one_of_ne_last {g : UInt64} (h : g ≠ 0xFFFFFFFFFFFFFFFF) : g < g + 1 := by
  have hne : g.toNat ≠ 0xFFFFFFFFFFFFFFFF := fun he => h (UInt64.toNat_inj.mp he)
  have hlt := g.toNat_lt
  rw [UInt64.lt_iff_toNat_lt, UInt64.toNat_add, UInt64.toNat_one]
  omega

namespace Classifier

theorem setPolicy_exhausted {c : Classifier} (h : c.policy.generation = 0xFFFFFFFFFFFFFFFF)
    (policy : ClassifierPolicy) : (c.setPolicy policy).2 = c := by
  have hcount : ∃ e, (Counter.mk c.policy.generation).next = .error e := by
    rw [h]
    exact ⟨_, rfl⟩
  obtain ⟨e, he⟩ := hcount
  unfold setPolicy
  rw [he]
  split
  · rfl
  · dsimp only
    split_ifs <;> rfl

/-- An update keeps the number or moves to the next one. -/
theorem follows_setPolicy (c : Classifier) (policy : ClassifierPolicy) :
    Follows (c.setPolicy policy).2.policy c.policy := by
  by_cases hlast : c.policy.generation = 0xFFFFFFFFFFFFFFFF
  · rw [setPolicy_exhausted hlast]
    exact .refl _
  cases hnext : ClassifierPolicy.canonicalize policy with
  | error e =>
    unfold setPolicy
    rw [hnext]
    exact .refl _
  | ok next =>
    rcases setPolicy_cases hnext hlast with ⟨-, -, hout⟩ | ⟨-, -, hpolicy, -⟩
    · rw [hout]
      exact .refl _
    · rw [hpolicy]
      exact .of_lt (lt_add_one_of_ne_last hlast)

theorem follows_step (c : Classifier) (op : Operation) : Follows (c.step op).policy c.policy := by
  by_cases hop : ∀ policy, op ≠ .setPolicy policy
  · rw [((framed_step c _).policy hop).1]
    exact .refl _
  · push Not at hop
    obtain ⟨policy, rfl⟩ := hop
    exact follows_setPolicy c policy

theorem follows_run (c : Classifier) (ops : List Operation) :
    Follows (run step c ops).policy c.policy := by
  refine List.foldlRecOn (motive := fun after : Classifier => Follows after.policy c.policy) _ _
    (.refl _) ?_
  exact fun after hafter op _ => (follows_step after op).trans hafter

end Classifier

namespace Coordinator

def storedPolicy (co : Coordinator) (env : Readings) : Option ClassifierPolicy :=
  if co.options.statePath.isEmpty then none
  else
    match env.directory, co.readSnapshotFile env with
    | .ok (), .ok snapshot => some snapshot.state.policy
    | _, _ => none

/-- What the policy in force is numbered past when the coordinator starts. -/
def NumberedPast (co : Coordinator) (env : Readings) (earlier : ClassifierPolicy) : Prop :=
  let configured := co.classifier.policy
  Follows configured earlier ∨
    ∃ stored, co.storedPolicy env = some stored ∧ stored.generation ≠ 0 ∧
      configured.generation ≠ 0xFFFFFFFFFFFFFFFF ∧
      (computePolicyDigest stored ≠ computePolicyDigest configured ∨ configured.generation = 0) ∧
      (earlier.generation ≤ configured.generation ∨
        earlier.generation = configured.generation + 1 ∧
          computePolicyDigest earlier = computePolicyDigest stored)

/-- The stored policy is that of the image in the file. -/
theorem storedPolicy_eq_some {stored : ClassifierPolicy} (h : co.storedPolicy env = some stored) :
    ∃ snapshot data, co.readSnapshotFile env = .ok snapshot ∧ snapshot.state.policy = stored ∧
      co.file = some data ∧ decodeSnapshot co.options.snapshotLimits data = .ok snapshot := by
  unfold storedPolicy at h
  split_ifs at h
  split at h
  next snapshot _ hread =>
    cases h
    obtain ⟨data, hfile, hdecoded⟩ := readSnapshotFile_eq_ok hread
    exact ⟨snapshot, data, hread, rfl, hfile, hdecoded⟩
  next => cases h

theorem canonical_storedPolicy {stored : ClassifierPolicy} (h : co.storedPolicy env = some stored) :
    ClassifierPolicy.canonicalize stored = .ok stored := by
  obtain ⟨snapshot, data, -, rfl, -, hdecoded⟩ := storedPolicy_eq_some h
  exact canonical_of_decodeSnapshot hdecoded

def startPolicy (co : Coordinator) (env : Readings) : ClassifierPolicy :=
  match co.storedPolicy env with
  | none => co.classifier.policy
  | some stored =>
    if stored.generation ≠ 0 then (co.classifier.setPolicy stored).2.policy
    else co.classifier.policy

theorem recover_policy (co : Coordinator) (boot : CoordinatorBootId) (env : Readings) :
    (co.recover boot env).2.classifier.policy = co.startPolicy env := by
  have hrestore : ∀ (c : Classifier) (image : DurableState),
      (c.step (.restore image boot env.tick)).policy = c.policy :=
    fun c image => ((c.framed_step _).policy (by simp)).1
  rw [(recover_spec co boot env).2.2.2]
  unfold recoverOperations startPolicy storedPolicy
  by_cases hpath : co.options.statePath.isEmpty = true
  · rw [if_pos hpath, if_pos hpath]
    rfl
  rw [if_neg hpath, if_neg hpath]
  cases env.directory with
  | error e => rfl
  | ok u =>
    cases co.readSnapshotFile env with
    | error e => rfl
    | ok snapshot =>
      dsimp only
      by_cases hgiven : snapshot.state.policy.generation ≠ 0
      · rw [if_pos hgiven, if_pos hgiven]
        exact hrestore _ _
      · rw [if_neg hgiven, if_neg hgiven]
        exact hrestore _ _

/-- A coordinator that is running after a start has recovered, and the policy with it. -/
theorem policy_of_start (hidle : co.running = false) (h : (co.start boot env).2.running = true) :
    (co.recover boot env).1 = .ok () ∧
      (co.start boot env).2.classifier.policy = co.startPolicy env := by
  have hpolicy := recover_policy co boot env
  have hok := (start_running hidle).mp h
  have houtcome := startOutcome co boot env
  generalize co.start boot env = out at houtcome hok ⊢
  cases houtcome with
  | refused | unrecovered | exhausted => cases hok
  | started epoch _ _ hrecover =>
    have hframe := (co.recover boot env).2.classifier.framed_step (.advanceEpoch boot)
    exact ⟨hrecover, (hframe.policy (by simp)).1.trans hpolicy⟩

/-- A file that is there is read or refused, never passed over. -/
theorem read_of_recover
    (h : (co.recover boot env).1 = .ok ()) (hpath : co.options.statePath.isEmpty = false)
    {data : Bytes} (hfile : co.file = some data) :
    env.directory = .ok () ∧ ∃ snapshot, co.readSnapshotFile env = .ok snapshot ∧
      decodeSnapshot co.options.snapshotLimits data = .ok snapshot := by
  unfold recover at h
  rw [hpath, if_neg Bool.false_ne_true] at h
  cases hdirectory : env.directory with
  | error e =>
    rw [hdirectory] at h
    cases h
  | ok u =>
    refine ⟨rfl, ?_⟩
    cases hread : co.readSnapshotFile env with
    | ok snapshot =>
      obtain ⟨data', hfile', hdecoded⟩ := readSnapshotFile_eq_ok hread
      rw [hfile] at hfile'
      cases hfile'
      exact ⟨snapshot, rfl, hdecoded⟩
    | error e =>
      -- only a missing file is passed over, and no failure to read one is reported so
      have hmissing : e.code ≠ .notFound := by
        unfold readSnapshotFile at hread
        rw [hfile] at hread
        cases hfailure : env.readFailure with
        | some failure =>
          rw [hfailure] at hread
          cases hread
          exact failure.not_missing
        | none =>
          rw [hfailure] at hread
          dsimp only at hread
          split_ifs at hread
          · cases hread
            exact fun hcode => by cases hcode
          · exact code_of_decodeSnapshot hread
      rw [hdirectory, hread] at h
      dsimp only at h
      rw [if_neg hmissing] at h
      cases h

/-- A start on an image that can be read reads it. -/
theorem storedPolicy_of_recover
    (h : (co.recover boot env).1 = .ok ()) (hpath : co.options.statePath.isEmpty = false)
    {data : Bytes} (hfile : co.file = some data) {snapshot : StateSnapshot}
    (hdecoded : decodeSnapshot co.options.snapshotLimits data = .ok snapshot) :
    co.storedPolicy env = some snapshot.state.policy := by
  obtain ⟨hdirectory, read, hread, hsame⟩ := read_of_recover h hpath hfile
  rw [hdecoded] at hsame
  cases hsame
  unfold storedPolicy
  rw [hpath, if_neg Bool.false_ne_true, hdirectory, hread]

/-- What a start is numbered past is followed by what it puts in force. -/
theorem follows_startPolicy {earlier : ClassifierPolicy}
    (hholds : co.classifier.HoldsPolicy) (h : co.NumberedPast env earlier) :
    Follows (co.startPolicy env) earlier := by
  rcases h with hfollows | ⟨stored, hstored, hgiven, hlast, hnew, hfree⟩
  · refine Follows.trans ?_ hfollows
    unfold startPolicy
    split
    · exact .refl _
    · split_ifs
      · exact co.classifier.follows_setPolicy _
      · exact .refl _
  · have hinstalled : co.startPolicy env =
        { stored with generation := co.classifier.policy.generation + 1 } := by
      unfold startPolicy
      rw [hstored]
      dsimp only
      rw [if_pos hgiven]
      rcases Classifier.setPolicy_cases (canonical_storedPolicy hstored) hlast with
        ⟨hsame, hnonzero, -⟩ | ⟨-, -, hpolicy, -⟩
      · rw [hholds.digest] at hsame
        exact (hnew.elim (absurd hsame) fun hzero => absurd hzero hnonzero)
      · exact hpolicy
    rw [hinstalled]
    rcases hfree with hle | ⟨heq, hdigest⟩
    · exact .of_lt (UInt64.lt_of_le_of_lt hle (lt_add_one_of_ne_last hlast))
    · refine ⟨?_, fun _ => ?_⟩
      · exact heq ▸ UInt64.le_refl _
      · exact hdigest

end Coordinator

structure Chain where
  coordinator : Coordinator
  /-- The policies that were in force while a coordinator was serving, the latest first. -/
  inForce : List ClassifierPolicy := []

namespace Chain

def new (options : CoordinatorOptions) (file : Option Bytes) : Chain where
  coordinator := .new options file

def record (ch : Chain) (co : Coordinator) : Chain where
  coordinator := co
  inForce := if co.running then co.classifier.policy :: ch.inForce else ch.inForce

def step (ch : Chain) (e : ChainEvent) : Chain := ch.record (ch.coordinator.next e)

def StartsPast (ch : Chain) (co : Coordinator) (env : Readings) : Prop :=
  ∀ earlier, ch.inForce.head? = some earlier ∨ co.storedPolicy env = some earlier →
    co.NumberedPast env earlier

def Numbered (ch : Chain) : ChainEvent → Prop
  | .launch options _ env => ch.StartsPast (.new options ch.coordinator.file) env
  | .call (.start _ env) => ch.coordinator.running = false → ch.StartsPast ch.coordinator env
  | .call _ => True

/-- The policy in force follows every earlier one, and that of the image in the file. -/
structure Ordered (ch : Chain) : Prop where
  holds : ch.coordinator.classifier.HoldsPolicy
  latest : ch.coordinator.running = true →
    ch.inForce.head? = some ch.coordinator.classifier.policy
  ordered : ch.inForce.Pairwise Follows
  image : ch.coordinator.running = true → ch.coordinator.options.statePath.isEmpty = false →
    ∀ data snapshot, ch.coordinator.file = some data →
      decodeSnapshot ch.coordinator.options.snapshotLimits data = .ok snapshot →
      Follows ch.coordinator.classifier.policy snapshot.state.policy

theorem holdsPolicy_new (options : CoordinatorOptions) (file : Option Bytes) :
    (Coordinator.new options file).classifier.HoldsPolicy :=
  Classifier.holdsPolicy_new _

theorem ordered_new (options : CoordinatorOptions) (file : Option Bytes) :
    Ordered (new options file) where
  holds := holdsPolicy_new options file
  latest h := by cases h
  ordered := .nil
  image h := by cases h

section Steps

variable {ch : Chain}

/-- What a call has to keep. -/
theorem Ordered.record (h : Ordered ch) (hholds : co.classifier.HoldsPolicy)
    (hlatest : co.running = true → ∀ p, ch.inForce.head? = some p →
      Follows co.classifier.policy p)
    (himage : co.running = true → co.options.statePath.isEmpty = false →
      ∀ data snapshot, co.file = some data →
        decodeSnapshot co.options.snapshotLimits data = .ok snapshot →
        Follows co.classifier.policy snapshot.state.policy) : Ordered (ch.record co) where
  holds := hholds
  latest hrunning := by
    have hrunning' : co.running = true := hrunning
    unfold Chain.record
    rw [if_pos hrunning']
    rfl
  ordered := by
    unfold Chain.record
    dsimp only
    split_ifs with hrunning
    · refine List.pairwise_cons.mpr ⟨fun p hp => ?_, h.ordered⟩
      have hall := h.ordered
      have hhead := hlatest hrunning
      cases hlist : ch.inForce with
      | nil =>
        rw [hlist] at hp
        cases hp
      | cons first rest =>
        rw [hlist] at hp hall hhead
        rcases List.mem_cons.mp hp with rfl | hp
        · exact hhead _ rfl
        · exact (hhead _ rfl).trans ((List.pairwise_cons.mp hall).1 p hp)
    · exact h.ordered
  image := himage

/-- A call that may save what it leaves behind. -/
theorem Ordered.saves (h : Ordered ch) {asked : Call}
    (hsaves : ch.coordinator.Saves (ch.coordinator.call asked)) :
    Ordered (ch.record (ch.coordinator.call asked)) := by
  let ops := ch.coordinator.operations asked
  have hcalled : (ch.coordinator.call asked).classifier = _ := ch.coordinator.call_classifier asked
  have hholds : (ch.coordinator.call asked).classifier.HoldsPolicy := by
    rw [hcalled]
    exact Classifier.holdsPolicy_run h.holds ops
  have hfollows : Follows (ch.coordinator.call asked).classifier.policy
      ch.coordinator.classifier.policy := by
    rw [hcalled]
    exact Classifier.follows_run _ ops
  refine h.record hholds (fun hrunning p hp => ?_) fun hrunning hpath data read hdata hread => ?_
  · rw [h.latest (hsaves.running hrunning)] at hp
    cases hp
    exact hfollows
  · rw [hsaves.options] at hpath hread
    rcases hsaves.file with hsame | ⟨-, writtenAt, data', hwritten, hfile⟩
    · rw [hsame] at hdata
      exact hfollows.trans (h.image (hsaves.running hrunning) hpath data read hdata hread)
    · -- the file is the image just written
      rw [hfile] at hdata
      cases hdata
      have hpolicy := policy_of_decodeSnapshot rfl rfl hholds.canonical hwritten hread
      rw [hpolicy]
      exact .refl _

theorem Ordered.start (h : Ordered ch) (hholds : co.classifier.HoldsPolicy)
    (hidle : co.running = false)
    (hpast : ch.StartsPast co env) : Ordered (ch.record (co.start boot env).2) := by
  obtain ⟨hfile, hoptions⟩ := Coordinator.start_file co boot env
  refine h.record ?_ (fun hrunning p hp => ?_) fun hrunning hpath data read hdata hread => ?_
  · rw [Coordinator.start_classifier]
    exact Classifier.holdsPolicy_run hholds _
  · rw [(Coordinator.policy_of_start hidle hrunning).2]
    exact Coordinator.follows_startPolicy hholds (hpast p (Or.inl hp))
  · rw [hoptions] at hpath hread
    rw [hfile] at hdata
    obtain ⟨hrecovered, hpolicy⟩ := Coordinator.policy_of_start hidle hrunning
    have hstored := Coordinator.storedPolicy_of_recover hrecovered hpath hdata hread
    rw [hpolicy]
    exact Coordinator.follows_startPolicy hholds (hpast _ (Or.inr hstored))

end Steps

theorem ordered_step (ch : Chain) (e : ChainEvent) (hnumbered : ch.Numbered e)
    (h : Ordered ch) : Ordered (ch.step e) := by
  cases e with
  | launch options boot env => exact h.start (holdsPolicy_new _ _) rfl hnumbered
  | call asked =>
    by_cases hstart : ∀ boot env, asked ≠ .start boot env
    · exact h.saves (Coordinator.saves_call _ hstart)
    push Not at hstart
    obtain ⟨boot, env, rfl⟩ := hstart
    cases hrunning : ch.coordinator.running with
    | false => exact h.start h.holds hrunning (hnumbered hrunning)
    | true =>
      have hsame : ch.coordinator.call (.start boot env) = ch.coordinator :=
        Coordinator.start_of_running hrunning
      have hkept : ch.coordinator.Saves (ch.coordinator.call (.start boot env)) := by
        rw [hsame]
        exact .kept rfl rfl rfl
      exact h.saves hkept

/-- While every start is numbered past what came before it, a number stands for one content
over the whole chain, the number in force never falls, and a coordinator that serves on an
image has at least its number. -/
theorem generations_never_reused (options : CoordinatorOptions) (file : Option Bytes)
    (events : List ChainEvent) (hnumbered : Along step Numbered (new options file) events) :
    let ch := run step (new options file) events
    (∀ p ∈ ch.inForce, ∀ q ∈ ch.inForce, p.generation = q.generation →
      computePolicyDigest p = computePolicyDigest q) ∧
    ch.inForce.Pairwise (fun later earlier => earlier.generation ≤ later.generation) ∧
    (ch.coordinator.running = true → ch.coordinator.options.statePath.isEmpty = false →
      ∀ data snapshot, ch.coordinator.file = some data →
        decodeSnapshot ch.coordinator.options.snapshotLimits data = .ok snapshot →
        snapshot.state.policy.generation ≤ ch.coordinator.classifier.policy.generation) := by
  intro ch
  have h : Ordered ch := run_invariant step ordered_step (ordered_new options file) hnumbered
  refine ⟨?_, h.ordered.imp fun hfollows => hfollows.1,
    fun hrunning hpath data snapshot hdata hread =>
      (h.image hrunning hpath data snapshot hdata hread).1⟩
  have hsame : ch.inForce.Pairwise fun p q => p.generation = q.generation →
      computePolicyDigest p = computePolicyDigest q :=
    h.ordered.imp fun hfollows heq => (hfollows.2 heq.symm).symm
  have hflip : ch.inForce.Pairwise (flip fun p q => p.generation = q.generation →
      computePolicyDigest p = computePolicyDigest q) :=
    h.ordered.imp fun hfollows heq => hfollows.2 heq
  exact fun p hp q hq => hsame.forall_of_forall_of_flip (fun _ _ _ => rfl) hflip hp hq

def sampleOptions : CoordinatorOptions := { statePath := text "state" }

def windowed (generation : ClassifierPolicyGeneration) (window : Tick) : ClassifierPolicy :=
  { generation := generation, defaultFreshnessWindow := window }

def updatedOnce : List ChainEvent :=
  [.launch sampleOptions 1 {}, .call (.operate (.setPolicy (windowed 0 1))), .call (.persist {}),
    .launch sampleOptions 2 {}]

def updatedAfter (i : ℕ) : Chain := run step (new sampleOptions none) (updatedOnce.take i)

set_option maxRecDepth 1000000 in
theorem updatedAfter_checked :
    (updatedAfter 4).inForce = [windowed 2 1, windowed 2 1, windowed 2 1, windowed 1 4096] ∧
      (Coordinator.new sampleOptions (updatedAfter 3).coordinator.file).storedPolicy {} =
        some (windowed 2 1) ∧
      (updatedAfter 3).inForce.head? = some (windowed 2 1) ∧
      computePolicyDigest (windowed 2 1) ≠ computePolicyDigest (windowed 1 4096) := by
  decide +kernel

theorem generations_never_reused_once :
    let ch := run step (new sampleOptions none) updatedOnce
    ch.inForce = [windowed 2 1, windowed 2 1, windowed 2 1, windowed 1 4096] ∧
      ∀ p ∈ ch.inForce, ∀ q ∈ ch.inForce, p.generation = q.generation →
        computePolicyDigest p = computePolicyDigest q := by
  obtain ⟨hinForce, hstored, hlast, hdiffers⟩ := updatedAfter_checked
  refine ⟨hinForce, (generations_never_reused sampleOptions none updatedOnce
    ⟨fun earlier h => ?_, trivial, trivial, fun earlier h => ?_, trivial⟩).1⟩
  · rcases h with h | h <;> cases h
  · -- the second start finds the number after the configured one on the file
    have hsame : earlier = windowed 2 1 := by
      rcases h with h | h
      · exact Option.some.inj (h.symm.trans hlast)
      · exact Option.some.inj (h.symm.trans hstored)
    subst hsame
    exact Or.inr ⟨windowed 2 1, hstored, by decide, by decide, Or.inl hdiffers,
      Or.inr ⟨rfl, rfl⟩⟩

def updatedTwice : List ChainEvent :=
  [.launch sampleOptions 1 {}, .call (.operate (.setPolicy (windowed 0 1))),
    .call (.operate (.setPolicy (windowed 0 2))), .call (.persist {}),
    .launch sampleOptions 2 {}]

set_option maxRecDepth 1000000 in
/-- The new process serves with a smaller number than the policy it was started on, and this
number was in force with another content. -/
theorem generation_reused_after_relaunch :
    let ch := run step (new sampleOptions none) updatedTwice
    ch.inForce = [windowed 2 2, windowed 3 2, windowed 3 2, windowed 2 1, windowed 1 4096] ∧
      ∃ p ∈ ch.inForce, ∃ q ∈ ch.inForce, p.generation = q.generation ∧
        computePolicyDigest p ≠ computePolicyDigest q := by
  have hinForce : (run step (new sampleOptions none) updatedTwice).inForce =
      [windowed 2 2, windowed 3 2, windowed 3 2, windowed 2 1, windowed 1 4096] := by
    decide +kernel
  intro ch
  rw [hinForce]
  exact ⟨rfl, windowed 2 2, by simp, windowed 2 1, by simp, rfl, by decide +kernel⟩

end Chain
end FlowClassifier
