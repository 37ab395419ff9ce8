import FlowClassifier.Reopening
import FlowClassifier.Runtime.PolicyChain

/-!
A coordinator that starts on the file of another one. The comment in `start` says that the
persisted policy is installed first so that the stores are sized by it; but the stores are
sized when the classifier is built, from the configured policy, and `set_policy` resizes
none of them. So whether the persisted state is restored depends on the limits of the
configured policy and on the numbers of the persisted records.
-/
namespace FlowClassifier

open Lib Foundation Buffers Hash Workloads Policies Codec Classifier

variable {snapshot : StateSnapshot}

namespace Codec

variable {limits : SnapshotLimits}

theorem yields_relabel {α : Type} {r : Reader α} {P : α → Prop} (h : Yields r P)
    (label : Bytes → Bytes) : Yields (relabel r label) P :=
  fun input x rest hx => h input x rest (relabel_eq_ok hx)

theorem yields_decodeEach {α : Type} {name : Bytes} {r : Reader α} {P : α → Prop}
    (h : Yields r P) (i n : ℕ) : Yields (decodeEach name r i n) fun xs => ∀ x ∈ xs, P x := by
  induction n generalizing i with
  | zero => exact Yields.pure fun x hx => absurd hx List.not_mem_nil
  | succ n ih =>
    intro input xs rest hxs
    rw [decodeEach] at hxs
    obtain ⟨x, mid, hx, hxs⟩ := run_bind_eq_ok hxs
    obtain ⟨tail, last, htail, hxs⟩ := run_bind_eq_ok hxs
    cases hxs
    rw [List.forall_mem_cons]
    exact ⟨yields_relabel h _ _ _ _ hx, ih (i + 1) _ _ _ htail⟩

theorem yields_decodeRecords {α : Type} {plural name : Bytes}
    {r : Reader α} {P : α → Prop} (h : Yields r P) :
    Yields (decodeRecords limits plural name r) fun xs => ∀ x ∈ xs, P x := by
  unfold decodeRecords
  repeat refine Yields.bind _ fun _ => ?_
  exact yields_decodeEach h 0 _

theorem yields_decodeClassification (limits : CodecLimits) :
    Yields (decodeClassification limits) FitsCount := by
  unfold decodeClassification
  repeat refine Yields.bind _ fun _ => ?_
  exact Yields.pure (UInt32.toNat_lt _)

/-- The count of a decision is read as 32 bits. -/
theorem counts_of_decodeSnapshot {data : Bytes} (h : decodeSnapshot limits data = .ok snapshot) :
    ∀ x ∈ snapshot.state.classifications, FitsCount x := by
  obtain ⟨body, header, left, -, -, hbody⟩ := decodeSnapshot_eq_ok h
  unfold decodeBody at hbody
  -- the eight parts before the decisions
  iterate 8 obtain ⟨_, _, -, hbody⟩ := run_bind_eq_ok hbody
  obtain ⟨classifications, _, hclassifications, hbody⟩ := run_bind_eq_ok hbody
  have hkept : snapshot.state.classifications = classifications := by
    refine (?_ : Yields _ fun s : DurableState => s.classifications = classifications) _ _ _ hbody
    repeat refine Yields.bind _ fun _ => ?_
    exact Yields.pure rfl
  rw [hkept]
  exact yields_decodeRecords (yields_decodeClassification limits.codec) _ _ _ hclassifications

theorem length_of_encodeSnapshot {data : Bytes} (h : encodeSnapshot limits snapshot = .ok data) :
    data.length ≤ limits.maxFileBytes := by
  obtain ⟨rfl, hfits, -⟩ := encodeSnapshot_eq_ok h
  rw [length_snapshotBytes, Nat.add_comm]
  exact hfits

/-- What can be read back from an encoded image is the image. -/
theorem eq_of_decodeSnapshot {written read : StateSnapshot}
    {data : Bytes} (hformat : written.formatVersion = snapshotFormatVersion)
    (hgeneration : written.persistenceGeneration = persistenceGeneration)
    (hstate : Recomputed written.state) (hwritten : encodeSnapshot limits written = .ok data)
    (hread : decodeSnapshot limits data = .ok read) : read = written := by
  obtain ⟨hreads, hrefuses⟩ := decodeSnapshot_encodeSnapshot hformat hgeneration hstate hwritten
  by_cases hreadable : SnapshotReadable limits written.state
  · rw [hreads hreadable] at hread
    cases hread
    rfl
  · obtain ⟨e, he⟩ := hrefuses hreadable
    rw [he] at hread
    cases hread

end Codec

def Call.CountsFit : Call → Prop
  | .operate op => Classifier.CountsFit op
  | _ => True

namespace Coordinator

theorem countsFit_operations (co : Coordinator) {asked : Call} (h : asked.CountsFit) :
    ∀ op ∈ co.operations asked, Classifier.CountsFit op := by
  intro op hop
  cases asked with
  | start boot env =>
    rcases mem_startOperations hop with ⟨policy, rfl⟩ | ⟨data, snapshot, -, hdecoded, rfl⟩ | rfl
    · trivial
    · exact counts_of_decodeSnapshot hdecoded
    · trivial
  | operate op' =>
    rw [List.mem_singleton.mp hop]
    exact h
  | handle key session frame env =>
    obtain ⟨-, hasks⟩ := asks_of_handledOperation _ _ _ _ _ (Option.mem_toList.mp hop)
    cases hasks <;> trivial
  | closeSession session env =>
    unfold operations at hop
    dsimp only at hop
    split_ifs at hop
    · rw [List.mem_singleton.mp hop]
      trivial
    · cases hop
  | stop | persist => cases hop

theorem filed_call {co : Coordinator} {asked : Call} (hasked : asked.CountsFit)
    (h : co.classifier.Filed) : (co.call asked).classifier.Filed :=
  call_keeps (fun _ hc op hop =>
    Classifier.filed_step hc (co.countsFit_operations hasked op hop)) h

/-- A state of a coordinator that was built with some options on some file. -/
def Reaches (co : Coordinator) : Prop :=
  ∃ options file events, Along next (fun _ e => e.asked.CountsFit) (.new options file) events ∧
    run next (.new options file) events = co

theorem Reaches.filed {co : Coordinator} (h : Reaches co) : co.classifier.Filed := by
  obtain ⟨options, file, events, halong, rfl⟩ := h
  have hstep : ∀ (co : Coordinator) (e : ChainEvent), e.asked.CountsFit → co.classifier.Filed →
      (co.next e).classifier.Filed := by
    intro co e he hco
    refine filed_call he ?_
    cases e with
    | launch options boot env => exact filed_new _
    | call asked => exact hco
  exact run_invariant next hstep (filed_new _) halong

end Coordinator

namespace System

theorem filed_step (s : System) (e : Event) (h : s.coordinator.classifier.Filed) :
    (s.step e).coordinator.classifier.Filed := by
  rw [step_coordinator]
  refine Coordinator.filed_call ?_ h
  cases e <;> trivial

theorem options_run (options : CoordinatorOptions) (file : Option Bytes) (events : List Event) :
    (run step (new options file) events).coordinator.options = options := by
  refine List.foldlRecOn (motive := fun s : System => s.coordinator.options = options) _ _ rfl ?_
  intro s hs e _
  rw [step_coordinator, (s.coordinator.call_saves _).1, hs]

theorem filed_run (options : CoordinatorOptions) (file : Option Bytes) (events : List Event) :
    (run step (new options file) events).coordinator.classifier.Filed := by
  refine List.foldlRecOn (motive := fun s : System => s.coordinator.classifier.Filed) _ _
    (filed_new _) ?_
  exact fun s hs e _ => filed_step s e hs

end System

namespace Coordinator

def installed (co : Coordinator) (policy : ClassifierPolicy) : Classifier :=
  if policy.generation ≠ 0 then (co.classifier.setPolicy policy).2 else co.classifier

section Recovery

variable {co : Coordinator} {boot : CoordinatorBootId} {env : Readings} {data : Bytes}

theorem readSnapshotFile_of_file (hfailure : env.readFailure = none) (hfile : co.file = some data)
    (hbound : data.length ≤ co.options.snapshotLimits.maxFileBytes) :
    co.readSnapshotFile env = decodeSnapshot co.options.snapshotLimits data := by
  unfold readSnapshotFile
  rw [hfailure, hfile]
  dsimp only
  rw [if_neg (by omega)]

theorem recover_of_read (hpath : co.options.statePath.isEmpty = false)
    (hdirectory : env.directory = .ok ())
    (hread : co.readSnapshotFile env = .ok snapshot) :
    let out := Classifier.restore snapshot.state (co.installed snapshot.state.policy) boot env.tick
    ((co.recover boot env).1 = .ok () ↔ out.1 = .ok ()) ∧
      (co.recover boot env).2.classifier = out.2 := by
  unfold recover installed
  rw [hpath, if_neg Bool.false_ne_true, hdirectory, hread]
  dsimp only
  obtain ⟨e | ⟨⟩, c⟩ := Classifier.restore snapshot.state (if snapshot.state.policy.generation ≠ 0
    then (co.classifier.setPolicy snapshot.state.policy).2 else co.classifier) boot env.tick
  · exact ⟨⟨(fun h => by cases h), (fun h => by cases h)⟩, rfl⟩
  · exact ⟨⟨fun _ => rfl, fun _ => rfl⟩, rfl⟩

/-- A file that is there is read or refused, never passed over. -/
theorem recover_of_unreadable (hpath : co.options.statePath.isEmpty = false)
    (hdirectory : env.directory = .ok ()) (hfailure : env.readFailure = none)
    (hfile : co.file = some data) (hbound : data.length ≤ co.options.snapshotLimits.maxFileBytes)
    {e : Failure} (hdecode : decodeSnapshot co.options.snapshotLimits data = .error e) :
    ∃ e', (co.recover boot env).1 = .error e' := by
  unfold recover
  rw [hpath, if_neg Bool.false_ne_true, hdirectory,
    readSnapshotFile_of_file hfailure hfile hbound, hdecode]
  dsimp only
  rw [if_neg (code_of_decodeSnapshot hdecode)]
  exact ⟨_, rfl⟩

/-- A start on a file that is read is a restore and an epoch advance. -/
theorem start_of_read (hidle : co.running = false) (hboot : boot ≠ 0)
    (hpath : co.options.statePath.isEmpty = false) (hdirectory : env.directory = .ok ())
    (hread : co.readSnapshotFile env = .ok snapshot) :
    let out := Classifier.restore snapshot.state (co.installed snapshot.state.policy) boot env.tick
    ((co.start boot env).1 = .ok () ↔
      out.1 = .ok () ∧ ∃ epoch, (out.2.advanceEpoch boot).1 = .ok epoch) ∧
    (out.1 = .ok () → (co.start boot env).2.classifier = (out.2.advanceEpoch boot).2) := by
  intro out
  obtain ⟨hstarted, hclassifier⟩ : _ ∧ ((co.recover boot env).1 = .ok () → _) :=
    start_ok_iff hidle hboot
  obtain ⟨hrecovered, hrestored⟩ : ((co.recover boot env).1 = .ok () ↔ _) ∧ _ :=
    recover_of_read hpath hdirectory hread
  rw [hrecovered, hrestored] at hstarted hclassifier
  exact ⟨hstarted, hclassifier⟩

end Recovery

/-- The file of the coordinator holds the image of its state. -/
structure Imaged (co : Coordinator) : Prop where
  path : co.options.statePath.isEmpty = false
  file : ∃ writtenAt data, co.file = some data ∧ encodeSnapshot co.options.snapshotLimits
    { writtenAtWallMillis := writtenAt, state := co.classifier.durableState } = .ok data

theorem persist_options (co : Coordinator) (env : Readings) :
    (co.persist env).2.options = co.options := (saves_persist co env).options

/-- What a persist that succeeds leaves in the file. -/
theorem imaged_persist {co : Coordinator} {env : Readings} (h : (co.persist env).1 = .ok ()) :
    (co.persist env).2.Imaged := by
  unfold persist at h ⊢
  cases hpath : co.options.statePath.isEmpty with
  | true =>
    rw [hpath, if_pos rfl] at h
    cases h
  | false =>
    rw [hpath, if_neg Bool.false_ne_true] at h
    rw [if_neg Bool.false_ne_true]
    unfold writeSnapshotFile at h ⊢
    cases hencode : encodeSnapshot co.options.snapshotLimits
        { writtenAtWallMillis := env.writtenAt, state := co.classifier.durableState } with
    | error e =>
      rw [hencode] at h
      cases h
    | ok data =>
      rw [hencode] at h
      cases hwrite : env.write with
      | failed e renamed =>
        rw [hwrite] at h
        cases h
      | replaced => exact ⟨hpath, env.writtenAt, data, rfl, hencode⟩

def successor (co : Coordinator) (policy : ClassifierPolicy) : Coordinator :=
  .new { co.options with policy := policy } co.file

/-- The stored policy is installed, and the stores keep the bounds they were built with. -/
theorem blank_installed (co : Coordinator) (policy stored : ClassifierPolicy) :
    let c := (co.successor policy).installed stored
    c.Blank policy.limits.effective ∧ c.epoch = 1 ∧ c.sequence.value = 0 := by
  have hblank := blank_new { policy := policy, epoch := 1, coordinatorBoot := 1 }
  let c := (co.successor policy).classifier
  have hframe := c.framed_step (.setPolicy stored)
  have hepoch : (c.setPolicy stored).2.epoch = c.epoch := hframe.epoch (by simp) (by simp)
  have hsequence : (c.setPolicy stored).2.sequence = c.sequence := hframe.sequence id
  dsimp only
  unfold installed
  split_ifs
  · refine ⟨hblank.setPolicy stored, ?_, ?_⟩
    · rw [hepoch]
      rfl
    · rw [hsequence]
      rfl
  · exact ⟨hblank, rfl, rfl⟩

section Restart

variable {co : Coordinator} {boot : CoordinatorBootId} {env : Readings}

/-- An image that cannot be read back is not passed over. -/
theorem Imaged.start_of_unreadable (h : co.Imaged) (hfiled : co.classifier.Filed)
    (hunreadable : ¬ SnapshotReadable co.options.snapshotLimits co.classifier.durableState)
    (policy : ClassifierPolicy) (hboot : boot ≠ 0) (hdirectory : env.directory = .ok ())
    (hfailure : env.readFailure = none) : ((co.successor policy).start boot env).1 ≠ .ok () := by
  obtain ⟨writtenAt, data, hfile, hencode⟩ := h.file
  obtain ⟨e, he⟩ := (decodeSnapshot_encodeSnapshot rfl rfl hfiled.recomputed hencode).2 hunreadable
  have hrefused : ∃ e', ((co.successor policy).recover boot env).1 = .error e' :=
    recover_of_unreadable h.path hdirectory hfailure hfile (length_of_encodeSnapshot hencode) he
  obtain ⟨e', he'⟩ := hrefused
  intro hok
  have hrecovered := ((start_ok_iff rfl hboot).1.mp hok).1
  rw [he'] at hrecovered
  cases hrecovered

/-- A coordinator with a policy of its own comes up on an image with everything in it exactly
when the image can be read, its counters can be advanced, and the limits of that policy have
room for all of it. -/
theorem Imaged.restart_iff (h : co.Imaged) (hfiled : co.classifier.Filed)
    (policy : ClassifierPolicy) (hboot : boot ≠ 0) (hdirectory : env.directory = .ok ())
    (hfailure : env.readFailure = none) :
    let image := co.classifier.durableState
    let started := (co.successor policy).start boot env
    (started.1 = .ok () ∧ HoldsImage image env.tick started.2.classifier) ↔
      SnapshotReadable co.options.snapshotLimits image ∧
        Reopens policy.limits.effective image := by
  intro image started
  by_cases hreadable : SnapshotReadable co.options.snapshotLimits image
  · obtain ⟨writtenAt, data, hfile, hencode⟩ := h.file
    obtain ⟨hblank, hepoch, hsequence⟩ := co.blank_installed policy image.policy
    have hpath : (co.successor policy).options.statePath.isEmpty = false := h.path
    have hread : (co.successor policy).readSnapshotFile env =
        .ok { writtenAtWallMillis := writtenAt, state := image } :=
      (readSnapshotFile_of_file hfailure hfile (length_of_encodeSnapshot hencode)).trans
        ((decodeSnapshot_encodeSnapshot rfl rfl hfiled.recomputed hencode).1 hreadable)
    obtain ⟨hstarted, hclassifier⟩ := start_of_read rfl hboot hpath hdirectory hread
    have hreopened := hblank.reopened_iff hfiled.distinct
      (by rw [hsequence]; decide) (by rw [hepoch]; decide) boot env.tick
    rw [hstarted, and_assoc, and_iff_right hreadable]
    refine Iff.trans (and_congr_right fun hok => and_congr_right fun _ => ?_) hreopened
    rw [hclassifier hok]
  · refine iff_of_false (fun hholds => ?_) fun hboth => hreadable hboth.1
    exact h.start_of_unreadable hfiled hreadable policy hboot hdirectory hfailure hholds.1

end Restart

/-- What another coordinator has saved is held by a new one with a policy of its own exactly
when the saved image can be read, its counters can be advanced, and the limits of the new
policy have room for all of it. -/
theorem successor_holds_saved_iff {co : Coordinator} (hreached : Reaches co)
    {saving : Readings} (hsaved : (co.persist saving).1 = .ok ()) (policy : ClassifierPolicy)
    {boot : CoordinatorBootId} (hboot : boot ≠ 0) {env : Readings}
    (hdirectory : env.directory = .ok ()) (hfailure : env.readFailure = none) :
    let image := co.classifier.durableState
    let started := ((co.persist saving).2.successor policy).start boot env
    (started.1 = .ok () ∧ HoldsImage image env.tick started.2.classifier) ↔
      SnapshotReadable co.options.snapshotLimits image ∧
        Reopens policy.limits.effective image := by
  have hclassifier := persist_classifier co saving
  have hfiled : (co.persist saving).2.classifier.Filed := by
    rw [hclassifier]
    exact hreached.filed
  have hrestart := (imaged_persist hsaved).restart_iff hfiled policy hboot hdirectory hfailure
  rw [hclassifier, persist_options] at hrestart
  exact hrestart

def sampleWorkload : WorkloadRecord where
  id := .make (text "w")
  owner := .make (text "p")
  generation := 1
  state := .active
  declaredTick := 1
  activatedTick := 1

def sampleEvents : List ChainEvent :=
  [.launch Chain.sampleOptions 1 {},
    .call (.operate (.declareWorkload (.make (text "w")) (.make (text "p")) 1 [] 1))]

def stocked : Coordinator := run next (.new Chain.sampleOptions none) sampleEvents

theorem reaches_stocked : Reaches stocked :=
  ⟨Chain.sampleOptions, none, sampleEvents, ⟨trivial, trivial, trivial⟩, rfl⟩

theorem durableState_stocked : stocked.classifier.durableState =
    { policy := stocked.classifier.policy, epoch := 2, coordinatorBoot := 1,
      sequenceHighWater := 1, workloads := [sampleWorkload] } := rfl

theorem options_stocked : stocked.options = Chain.sampleOptions := rfl

theorem readable_stocked : SnapshotReadable {} stocked.classifier.durableState := by
  have hnone : ∀ {α : Type} (readable : CodecLimits → α → Prop), RecordsReadable {} readable [] :=
    fun _ => ⟨Nat.zero_le _, fun _ h => absurd h List.not_mem_nil⟩
  have hworkload : workloadReadable {} sampleWorkload := by
    unfold workloadReadable CodecLimits.Holds
    decide
  rw [durableState_stocked]
  refine ⟨ClassifierPolicy.policyReadable_of_canonicalize reaches_stocked.filed.policy.canonical,
    hnone _, ⟨by decide, ?_⟩, hnone _, hnone _, hnone _, hnone _, hnone _, hnone _⟩
  rw [List.forall_mem_singleton]
  exact hworkload

set_option maxRecDepth 1000000 in
theorem persist_stocked : (stocked.persist {}).1 = .ok () := by
  decide +kernel

/-- A policy with another window is no obstacle. -/
theorem successor_holds_workload :
    Reaches stocked ∧ (stocked.persist {}).1 = .ok () ∧
      (((stocked.persist {}).2.successor (Chain.windowed 1 1)).start 2 {}).1 = .ok () ∧
      Classifier.HoldsImage stocked.classifier.durableState ({} : Readings).tick
        (((stocked.persist {}).2.successor (Chain.windowed 1 1)).start 2 {}).2.classifier := by
  refine ⟨reaches_stocked, persist_stocked, ?_⟩
  have hboot : (2 : CoordinatorBootId) ≠ 0 := by decide
  have hdirectory : ({} : Readings).directory = .ok () := rfl
  have hreopens : Reopens (Chain.windowed 1 1).limits.effective
      stocked.classifier.durableState := by
    rw [durableState_stocked]
    exact ⟨⟨⟨Nat.zero_le _, by decide +kernel, Nat.zero_le _, Nat.zero_le _, Nat.zero_le _⟩,
      Nat.zero_le _, Nat.zero_le _⟩, by decide, by decide⟩
  have hiff := successor_holds_saved_iff reaches_stocked persist_stocked (Chain.windowed 1 1) hboot
    hdirectory rfl
  dsimp only at hiff
  rw [options_stocked] at hiff
  exact hiff.mpr ⟨readable_stocked, hreopens⟩

def narrow : ClassifierPolicy := { limits := { maxWorkloads := 0 } }

set_option maxRecDepth 1000000 in
/-- A saved workload keeps a coordinator whose own policy has no room for it from starting,
although the policy under which it was saved has. -/
theorem narrow_successor_fails :
    Reaches stocked ∧ stocked.running = true ∧ (stocked.persist {}).1 = .ok () ∧
      (∃ p, ClassifierPolicy.canonicalize stocked.classifier.policy = .ok p) ∧
      (∃ p, ClassifierPolicy.canonicalize narrow = .ok p) ∧
      (((stocked.persist {}).2.successor narrow).start 2 {}).1 ≠ .ok () := by
  refine ⟨reaches_stocked, rfl, persist_stocked, ⟨_, reaches_stocked.filed.policy.canonical⟩,
    ⟨_, rfl⟩, by decide +kernel⟩

end Coordinator

end FlowClassifier
