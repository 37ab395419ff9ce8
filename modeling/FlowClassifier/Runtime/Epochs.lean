import FlowClassifier.CurrentEvidence
import FlowClassifier.Runtime.Successors

/-!
Epochs over successive coordinators on one state file. A start serves the epoch after the
larger of its own and the one in the file, and does not write the file. So a coordinator
that is gone before anything was written leaves no trace of the epoch it served, and the
next one serves it again. When the file has been written since the last start, it holds
the epoch that was served, and the next start is past it.
-/
namespace FlowClassifier

open Lib Foundation Codec Coordinator

namespace Codec

def fileEpoch (data : Bytes) : CoordinatorEpoch := UInt64.ofNat (headerField data 16 8)

theorem epoch_of_decodeSnapshot {limits : SnapshotLimits} {data : Bytes}
    {snapshot : StateSnapshot} (h : decodeSnapshot limits data = .ok snapshot) :
    snapshot.state.epoch = fileEpoch data := by
  obtain ⟨body, header, left, -, hepoch, hbody⟩ := decodeSnapshot_eq_ok h
  -- the body leaves the fields of the header as they are
  have hkept : snapshot.state.epoch = header.epoch := by
    refine (?_ : Yields _ fun s : DurableState => s.epoch = header.epoch) _ _ _ hbody
    unfold decodeBody
    repeat refine Yields.bind _ fun _ => ?_
    exact Yields.pure rfl
  exact hkept.trans hepoch

theorem fileEpoch_of_encodeSnapshot {limits : SnapshotLimits} {snapshot : StateSnapshot}
    {data : Bytes} (h : encodeSnapshot limits snapshot = .ok data) :
    fileEpoch data = snapshot.state.epoch := by
  obtain ⟨rfl, -, -⟩ := encodeSnapshot_eq_ok h
  rw [fileEpoch, (headerField_words snapshot _).2.2.1, UInt64.ofNat_toNat]

end Codec

namespace Classifier

/-- An epoch is advanced, or left as it is. -/
theorem epoch_advanceEpoch (c : Classifier) (boot : CoordinatorBootId) :
    (∃ epoch, (c.advanceEpoch boot).1 = .ok epoch ∧ c.epoch < (c.advanceEpoch boot).2.epoch) ∨
      ∃ e, (c.advanceEpoch boot).1 = .error e ∧ (c.advanceEpoch boot).2.epoch = c.epoch := by
  unfold advanceEpoch
  cases c.sequence.next with
  | error e => exact Or.inr ⟨e, rfl, rfl⟩
  | ok sequence =>
    cases hnext : (Counter.mk c.epoch).next with
    | error e => exact Or.inr ⟨e, rfl, rfl⟩
    | ok epoch => exact Or.inl ⟨epoch.value, rfl, Counter.value_lt_of_next hnext⟩

theorem epoch_lt_advanceEpoch {c : Classifier} {boot : CoordinatorBootId}
    {epoch : CoordinatorEpoch} (h : (c.advanceEpoch boot).1 = .ok epoch) :
    c.epoch < (c.advanceEpoch boot).2.epoch := by
  obtain ⟨-, -, hlater⟩ | ⟨e, herror, -⟩ := c.epoch_advanceEpoch boot
  · exact hlater
  · rw [h] at herror
    cases herror

/-- No operation lowers the epoch. -/
theorem epoch_le_step (c : Classifier) (op : Operation) : c.epoch ≤ (c.step op).epoch := by
  by_cases hadvance : ∃ boot, op = .advanceEpoch boot
  · obtain ⟨boot, rfl⟩ := hadvance
    rcases c.epoch_advanceEpoch boot with ⟨-, -, hlater⟩ | ⟨-, -, hsame⟩
    · exact UInt64.le_of_lt hlater
    · exact UInt64.le_of_eq hsame.symm
  by_cases hrestore : ∃ image boot tick, op = .restore image boot tick
  · obtain ⟨image, boot, tick, rfl⟩ := hrestore
    show c.epoch ≤ (restore image c boot tick).2.epoch
    rw [epoch_restore]
    split_ifs with hlater
    · exact UInt64.le_of_lt hlater
    · exact UInt64.le_refl _
  · rw [(framed_step c _).epoch (fun boot h => hadvance ⟨boot, h⟩)
      fun image boot tick h => hrestore ⟨image, boot, tick, h⟩]

theorem epoch_le_run (c : Classifier) (ops : List Operation) :
    c.epoch ≤ (run step c ops).epoch := by
  refine List.foldlRecOn (motive := fun after : Classifier => c.epoch ≤ after.epoch) _ _
    (UInt64.le_refl _) ?_
  intro after hafter op _
  exact UInt64.le_trans hafter (epoch_le_step after op)

end Classifier

namespace Coordinator

variable {co : Coordinator} {boot : CoordinatorBootId} {env : Readings}

/-- A start that succeeds has recovered and has moved the epoch on. -/
theorem recovered_lt_start (h : (co.start boot env).1 = .ok ()) : (co.recover boot env).1 = .ok () ∧
      (co.recover boot env).2.classifier.epoch < (co.start boot env).2.classifier.epoch := by
  have houtcome := startOutcome co boot env
  generalize co.start boot env = out at houtcome h ⊢
  cases houtcome with
  | refused | unrecovered | exhausted => cases h
  | started epoch _ _ hrecover hadvance =>
    exact ⟨hrecover, Classifier.epoch_lt_advanceEpoch hadvance⟩

/-- The epoch of a coordinator is past the one it had before. -/
theorem epoch_lt_start (h : (co.start boot env).1 = .ok ()) :
    co.classifier.epoch < (co.start boot env).2.classifier.epoch := by
  refine UInt64.lt_of_le_of_lt ?_ (recovered_lt_start h).2
  rw [(recover_spec co boot env).2.2.2]
  exact Classifier.epoch_le_run _ _

/-- The epoch of a coordinator is past the one in its file. -/
theorem fileEpoch_lt_start (h : (co.start boot env).1 = .ok ())
    (hpath : co.options.statePath.isEmpty = false) {data : Bytes} (hfile : co.file = some data) :
    fileEpoch data < (co.start boot env).2.classifier.epoch := by
  obtain ⟨hrecovered, hlater⟩ := recovered_lt_start h
  refine UInt64.lt_of_le_of_lt ?_ hlater
  obtain ⟨hdirectory, snapshot, hread, hdecoded⟩ := read_of_recover hrecovered hpath hfile
  obtain ⟨-, hrestored⟩ : _ ∧ (co.recover boot env).2.classifier = _ :=
    recover_of_read hpath hdirectory hread
  rw [hrestored, Classifier.epoch_restore, epoch_of_decodeSnapshot hdecoded]
  split_ifs with hlarger
  · exact UInt64.le_refl _
  · exact UInt64.not_lt.mp hlarger

end Coordinator

/-- The coordinators on one state file, one at a time. A process crashes wherever the next
one is launched. -/
structure Lineage where
  coordinator : Coordinator
  /-- The present process has started once. -/
  up : Bool := false
  /-- The file as the last start that succeeded found it. -/
  opened : Option Bytes := none
  /-- The epochs that were served, the latest first. -/
  served : List CoordinatorEpoch := []

namespace Lineage

def new (file : Option Bytes) : Lineage where
  coordinator := .new {} file
  opened := file

def start (l : Lineage) (co : Coordinator) (boot : CoordinatorBootId) (env : Readings) :
    Lineage :=
  let started := co.start boot env
  if started.1.isOk then
    { coordinator := started.2
      up := true
      opened := co.file
      served := started.2.classifier.epoch :: l.served }
  else { l with coordinator := started.2 }

def step (l : Lineage) : ChainEvent → Lineage
  | .launch options boot env =>
    start { l with up := false } (.new options l.coordinator.file) boot env
  | .call asked =>
    if l.up then
      match asked with
      | .start boot env => l.start l.coordinator boot env
      | asked => { l with coordinator := l.coordinator.call asked }
    else l

/-- A process is launched on the state file, and after the first incarnation only when the
file has been written since the last start. -/
def Saved (l : Lineage) : ChainEvent → Prop
  | .launch options _ _ =>
    l.served = [] ∨ options.statePath.isEmpty = false ∧ l.coordinator.file ≠ l.opened
  | .call _ => True

/-- The epochs served are ordered. The process that is up is at or past all of them, and so
is the file once it has been written. -/
structure Ordered (l : Lineage) : Prop where
  ordered : l.served.Pairwise (· > ·)
  past : l.up = true → ∀ epoch ∈ l.served, epoch ≤ l.coordinator.classifier.epoch
  image : l.coordinator.file = l.opened ∨
    ∃ data, l.coordinator.file = some data ∧ ∀ epoch ∈ l.served, epoch ≤ fileEpoch data

variable {l : Lineage}

theorem epoch_le_call (co : Coordinator) (asked : Call) :
    co.classifier.epoch ≤ (co.call asked).classifier.epoch := by
  rw [call_classifier]
  exact Classifier.epoch_le_run _ _

/-- A start has to be past what was served before. -/
theorem Ordered.start (h : Ordered l) {co : Coordinator} {boot : CoordinatorBootId}
    {env : Readings} (hfile : co.file = l.coordinator.file)
    (hpast : l.up = true → ∀ epoch ∈ l.served, epoch ≤ co.classifier.epoch)
    (hserved : (co.start boot env).1 = .ok () → ∀ epoch ∈ l.served,
      epoch < (co.start boot env).2.classifier.epoch) :
    Ordered (l.start co boot env) := by
  have hkept := (start_file co boot env).1
  have hlater : co.classifier.epoch ≤ (co.start boot env).2.classifier.epoch :=
    epoch_le_call co (.start boot env)
  unfold Lineage.start
  generalize co.start boot env = started at hkept hlater hserved ⊢
  obtain ⟨e | ⟨⟩, after⟩ := started
  · refine ⟨h.ordered, fun hup epoch hepoch => UInt64.le_trans (hpast hup epoch hepoch) hlater, ?_⟩
    show after.file = _ ∨ ∃ data, after.file = some data ∧ _
    rw [hkept, hfile]
    exact h.image
  · have hserved := hserved rfl
    refine ⟨List.pairwise_cons.mpr ⟨hserved, h.ordered⟩, fun _ epoch hepoch => ?_, Or.inl hkept⟩
    rcases List.mem_cons.mp hepoch with rfl | hepoch
    · exact UInt64.le_refl _
    · exact UInt64.le_of_lt (hserved epoch hepoch)

theorem Ordered.call (h : Ordered l) (hup : l.up = true) (asked : Call) :
    Ordered { l with coordinator := l.coordinator.call asked } := by
  have hlater : ∀ epoch ∈ l.served, epoch ≤ (l.coordinator.call asked).classifier.epoch :=
    fun epoch hepoch => UInt64.le_trans (h.past hup epoch hepoch) (epoch_le_call _ _)
  refine ⟨h.ordered, fun _ => hlater, ?_⟩
  obtain ⟨-, hsame | ⟨writtenAt, data, hencoded, hfile⟩⟩ := l.coordinator.call_saves asked
  · rw [hsame]
    exact h.image
  · -- what is written is of the epoch that is served
    refine Or.inr ⟨data, hfile, ?_⟩
    rw [fileEpoch_of_encodeSnapshot hencoded]
    exact hlater

/-- A start serves past the file, and the file is past what was served. -/
theorem ordered_step (e : ChainEvent) (hsaved : l.Saved e) (h : Ordered l) :
    Ordered (l.step e) := by
  cases e with
  | launch options boot env =>
    have hdown : Ordered { l with up := false } := ⟨h.ordered, (fun hup => by cases hup), h.image⟩
    refine hdown.start rfl (fun hup => by cases hup) fun hok epoch hepoch => ?_
    rcases hsaved with hfirst | ⟨hpath, hwritten⟩
    · have hnone : epoch ∈ ([] : List CoordinatorEpoch) := hfirst ▸ hepoch
      cases hnone
    · obtain ⟨data, hfile, hserved⟩ := h.image.resolve_left hwritten
      exact UInt64.lt_of_le_of_lt (hserved epoch hepoch) (fileEpoch_lt_start hok hpath hfile)
  | call asked =>
    unfold step
    dsimp only
    split_ifs with hup
    · split
      · refine h.start rfl h.past fun hok epoch hepoch => ?_
        exact UInt64.lt_of_le_of_lt (h.past hup epoch hepoch) (epoch_lt_start hok)
      · exact h.call hup _
    · exact h

/-- **Epochs are not reused.** While every process is launched after the file has been
written under the epoch last served, each incarnation serves a larger epoch than all before
it, whatever it does and wherever it crashes. -/
theorem epochs_increase (file : Option Bytes) (events : List ChainEvent)
    (hsaved : Along step Saved (new file) events) :
    (run step (new file) events).served.Pairwise (· > ·) := by
  have hnew : Ordered (new file) := ⟨.nil, (fun hup => by cases hup), Or.inl rfl⟩
  have hstep : ∀ l e, Saved l e → Ordered l → Ordered (l.step e) :=
    fun _ e hsaved h => ordered_step e hsaved h
  exact (run_invariant step hstep hnew hsaved).ordered

def persistingEvents : List ChainEvent :=
  [.launch Chain.sampleOptions 1 {}, .call (.persist {})]

set_option maxRecDepth 1000000 in
theorem epochs_increase_sample :
    let events := persistingEvents ++ [.launch Chain.sampleOptions 2 {}]
    Along step Saved (new none) events ∧
      (run step (new none) events).served.length = 2 ∧
      (run step (new none) events).served.Pairwise (· > ·) := by
  intro events
  have hsaved : Along step Saved (new none) events :=
    ⟨Or.inl rfl, trivial, Or.inr ⟨rfl, by decide +kernel⟩, trivial⟩
  exact ⟨hsaved, by decide +kernel, epochs_increase none events hsaved⟩

/-- A peer is greeted and the process crashes. The next one greets it in the same epoch. -/
theorem crash_reuses_epoch :
    (run step (new none)
      [.launch Chain.sampleOptions 1 {},
       .call (.handle System.sampleConnection {} (System.greeting (text "agent")) {}),
       .launch Chain.sampleOptions 2 {}]).served = [2, 2] := by
  decide +kernel

end Lineage

end FlowClassifier
