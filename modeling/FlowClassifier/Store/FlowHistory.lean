import FlowClassifier.Lib.Runs
import FlowClassifier.Store.Flows

/-!
The generations of a flow. How a registration ends and what it leaves of the current and
the fenced incarnations; when the generation of a flow can be named; and when no generation
is given out twice over a run of registrations and retirements.
-/
namespace FlowClassifier.Store.FlowRegistry

open Lib Foundation Flows FiniteMap

variable {f : FlowRecord} {session : SessionId}
variable {g : FlowGeneration} {tick : Tick} {key : FlowKey}

def target (r : FlowRegistry) (key : FlowKey) (requested : FlowGeneration) : FlowGeneration :=
  if requested = 0 then r.highestKnown key + 1 else requested

/-- The registration is refused: its generation is out of range or below what is known,
or there is no room for the key. -/
def Refuses (r : FlowRegistry) (key : FlowKey) (requested : FlowGeneration) : Prop :=
  requested > maxAcceptableGeneration ∨ r.target key requested = 0 ∨
    match r.current.lookup key with
    | some f => f.id ≠ deriveFlowId key ∨ r.target key requested < f.generation
    | none =>
      (∃ f ∈ r.historyOf (deriveFlowId key), f.generation = r.target key requested) ∨
        r.maxFlows.toNat ≤ r.current.size

def Repeats (r : FlowRegistry) (key : FlowKey) (requested : FlowGeneration) : Prop :=
  ∃ f, r.current.lookup key = some f ∧ f.generation = r.target key requested

/-- The exits of `register_flow`. -/
inductive Registered (r : FlowRegistry) (key : FlowKey) (requested : FlowGeneration) :
    Result FlowRegistration × FlowRegistry → Prop
  | refused {e : Failure} {r' : FlowRegistry} (hrefuses : r.Refuses key requested)
    (hcurrent : r'.current = r.current) (hhistory : r'.history = r.history) :
    Registered r key requested (.error e, r')
  | repeated {f f' : FlowRecord} {flow : FlowRegistration} {r' : FlowRegistry}
    (haccepts : ¬ r.Refuses key requested) (hf : r.current.lookup key = some f)
    (hgeneration : f.generation = r.target key requested)
    (hrecord : flow.record.id = deriveFlowId key ∧
      flow.record.generation = r.target key requested)
    (hcreated : flow.created = false) (hfenced : flow.fencedPrevious = false)
    (hcurrent : r'.current = r.current.insert key f') (hsame : f'.generation = f.generation)
    (hhistory : r'.history = r.history)
    (hkept : flow.record = f' ∧ f'.key = f.key ∧ f'.id = f.id) :
    Registered r key requested (.ok flow, r')
  | advanced {f' : FlowRecord} {flow : FlowRegistration} {r' : FlowRegistry}
    (haccepts : ¬ r.Refuses key requested) (hnew : ¬ r.Repeats key requested)
    (hrecord : flow.record.id = deriveFlowId key ∧
      flow.record.generation = r.target key requested)
    (hcurrent : r'.current.lookup key = some f')
    (hgeneration : f'.generation = r.target key requested)
    (hinsert : r'.current = r.current.insert key f')
    (hmade : flow.record = f' ∧ f'.key = key ∧ flow.created = true)
    (hpast : r.current.lookup key = none ∧ r'.history = r.history ∨
      ∃ f, r.current.lookup key = some f ∧ f.generation < f'.generation ∧
        flow.fencedPrevious = true ∧ r'.history = r.history.insert (deriveFlowId key)
          (pushHistory (r.historyOf (deriveFlowId key)) f)) :
    Registered r key requested (.ok flow, r')

/-- The branches of `register_flow`, for a known key and for a new one. -/
theorem registered (r : FlowRegistry) (key : FlowKey) (requested : FlowGeneration)
    (session : SessionId) (tick : Tick) :
    Registered r key requested (r.registerFlow key requested session tick) := by
  unfold registerFlow
  dsimp only
  have htarget : (if requested = 0 then r.highestKnown key + 1 else requested) =
      r.target key requested := rfl
  rw [htarget]
  by_cases hlarge : requested > maxAcceptableGeneration
  · rw [if_pos hlarge]
    exact .refused (Or.inl hlarge) rfl rfl
  rw [if_neg hlarge]
  by_cases hzero : r.target key requested = 0
  · rw [if_pos hzero]
    exact .refused (Or.inr (Or.inl hzero)) rfl rfl
  rw [if_neg hzero]
  have hmatch : r.Refuses key requested ↔ match r.current.lookup key with
      | some f => f.id ≠ deriveFlowId key ∨ r.target key requested < f.generation
      | none =>
        (∃ f ∈ r.historyOf (deriveFlowId key), f.generation = r.target key requested) ∨
          r.maxFlows.toNat ≤ r.current.size := by
    simp only [Refuses, hlarge, hzero, false_or]
  cases hlookup : r.current.lookup key with
  | some f =>
    rw [hlookup] at hmatch
    dsimp only [registerKnown] at hmatch ⊢
    by_cases hid : f.id = deriveFlowId key
    · rw [if_neg (not_not.mpr hid)]
      by_cases hstale : r.target key requested < f.generation
      · rw [if_pos hstale]
        exact .refused (hmatch.mpr (Or.inr hstale)) rfl rfl
      rw [if_neg hstale]
      have haccepts : ¬ r.Refuses key requested := by
        rw [hmatch]
        exact fun h => h.elim (fun hne => hne hid) hstale
      by_cases hsame : r.target key requested = f.generation
      · rw [if_pos hsame]
        exact .repeated haccepts hlookup hsame.symm ⟨hid, hsame.symm⟩ rfl rfl rfl rfl rfl
          ⟨rfl, rfl, rfl⟩
      · rw [if_neg hsame]
        refine .advanced haccepts ?_ ⟨rfl, rfl⟩ (AList.lookup_insert _) rfl rfl ⟨rfl, rfl, rfl⟩
          (Or.inr ⟨f, hlookup, lt_of_le_of_ne (not_lt.mp hstale) (Ne.symm hsame), rfl, rfl⟩)
        rintro ⟨f', hf', hgeneration⟩
        rw [hlookup] at hf'
        cases hf'
        exact hsame hgeneration.symm
    · rw [if_pos hid]
      exact .refused (hmatch.mpr (Or.inl hid)) rfl rfl
  | none =>
    rw [hlookup] at hmatch
    dsimp only [registerNew] at hmatch ⊢
    by_cases hpast : (r.historyOf (deriveFlowId key)).any
        (fun f => f.generation == r.target key requested) = true
    · refine (if_pos hpast).symm ▸ .refused (hmatch.mpr (Or.inl ?_)) rfl rfl
      simpa using hpast
    by_cases hfull : r.current.size ≥ r.maxFlows.toNat
    · refine ((if_neg hpast).trans (if_pos hfull)).symm ▸
        .refused (hmatch.mpr (Or.inr hfull)) rfl rfl
    refine ((if_neg hpast).trans (if_neg hfull)).symm ▸
      .advanced ?_ ?_ ⟨rfl, rfl⟩ (AList.lookup_insert _) rfl rfl ⟨rfl, rfl, rfl⟩
        (Or.inl ⟨hlookup, rfl⟩)
    · rw [hmatch]
      rintro (hknown | hsize)
      · exact hpast (by simpa using hknown)
      · exact hfull hsize
    · rintro ⟨f', hf', -⟩
      rw [hlookup] at hf'
      cases hf'

/-- A registration is refused and no incarnation changes, or the record that it returns is
the current one: a new incarnation, or the same one renewed. A new incarnation of a key that
had one fences it. -/
theorem registerFlow_current (r : FlowRegistry) (key : FlowKey) (requested : FlowGeneration)
    (session : SessionId) (tick : Tick) :
    let out := r.registerFlow key requested session tick
    (∃ e, out.1 = .error e) ∧ out.2.current = r.current ∨
    ∃ flow, out.1 = .ok flow ∧ out.2.current = r.current.insert key flow.record ∧
      flow.record.id = deriveFlowId key ∧
      (r.current.lookup key = none ∨ flow.fencedPrevious = flow.created) ∧
      (flow.created = true ∨ ∃ f, r.current.lookup key = some f ∧ f.id = flow.record.id ∧
        f.generation = flow.record.generation) := by
  have hregistered := registered r key requested session tick
  generalize r.registerFlow key requested session tick = out at hregistered
  cases hregistered with
  | refused _ hcurrent => exact Or.inl ⟨⟨_, rfl⟩, hcurrent⟩
  | repeated _ hf hgeneration hrecord hcreated hfenced hcurrent _ _ hkept =>
    obtain ⟨rfl, -, hid⟩ := hkept
    exact Or.inr ⟨_, rfl, hcurrent, hrecord.1, Or.inr (hfenced.trans hcreated.symm),
      Or.inr ⟨_, hf, hid.symm, hgeneration.trans hrecord.2.symm⟩⟩
  | advanced _ _ hrecord _ _ hinsert hmade hpast =>
    obtain ⟨rfl, -, hcreated⟩ := hmade
    refine Or.inr ⟨_, rfl, hinsert, hrecord.1, ?_, Or.inl hcreated⟩
    exact hpast.imp (fun h => h.1) fun ⟨_, _, _, hfenced, _⟩ => hfenced.trans hcreated.symm

/-- The record a registration leaves carries the key of the one it replaces, or its own. -/
theorem registerFlow_inserts (r : FlowRegistry) (key : FlowKey) (requested : FlowGeneration)
    (session : SessionId) (tick : Tick) :
    (r.registerFlow key requested session tick).2.current = r.current ∨
    ∃ f, (r.registerFlow key requested session tick).2.current = r.current.insert key f ∧
      f.id = deriveFlowId key ∧
      (f.key = key ∨ ∃ g, r.current.lookup key = some g ∧ f.key = g.key) := by
  have hregistered := registered r key requested session tick
  generalize r.registerFlow key requested session tick = out at hregistered
  cases hregistered with
  | refused _ hcurrent => exact Or.inl hcurrent
  | repeated _ hf _ hrecord _ _ hcurrent _ _ hkept =>
    exact Or.inr ⟨_, hcurrent, hkept.1 ▸ hrecord.1, Or.inr ⟨_, hf, hkept.2.1⟩⟩
  | advanced _ _ hrecord _ _ hinsert hmade =>
    exact Or.inr ⟨_, hinsert, hmade.1 ▸ hrecord.1, Or.inl hmade.2.1⟩

def Known (r : FlowRegistry) (key : FlowKey) (generation : FlowGeneration) : Prop :=
  (∃ f ∈ r.historyOf (deriveFlowId key), f.generation = generation) ∨
    ∃ f, r.current.lookup key = some f ∧ f.generation = generation

section Known

variable {r : FlowRegistry} {requested : FlowGeneration}

theorem foldl_max_iff {p : UInt64 → Prop} (hp : ∀ a b, p (max a b) ↔ p a ∧ p b)
    (history : List FlowRecord) (start : UInt64) :
    p (history.foldl (fun m f => max m f.generation) start) ↔
      p start ∧ ∀ f ∈ history, p f.generation := by
  induction history generalizing start with
  | nil => simp
  | cons f rest ih =>
    rw [List.foldl_cons, ih, hp, List.forall_mem_cons, and_assoc]

/-- What holds of a maximum if of both its parts holds of the largest known generation if
of all of them. -/
theorem highestKnown_iff {p : UInt64 → Prop} (hp : ∀ a b, p (max a b) ↔ p a ∧ p b)
    (hzero : p 0) : p (r.highestKnown key) ↔ ∀ g, r.Known key g → p g := by
  have hpast := foldl_max_iff hp (r.historyOf (deriveFlowId key)) 0
  unfold highestKnown Known
  cases hlookup : r.current.lookup key with
  | none =>
    rw [hpast, and_iff_right hzero]
    simp
  | some f =>
    dsimp only
    rw [hp, hpast, and_iff_right hzero]
    refine ⟨?_, fun h => ⟨fun g hg => h _ (Or.inl ⟨g, hg, rfl⟩), h _ (Or.inr ⟨f, rfl, rfl⟩)⟩⟩
    rintro ⟨hall, hf⟩ g (⟨f', hf', rfl⟩ | ⟨f', hf', rfl⟩)
    · exact hall f' hf'
    · cases hf'
      exact hf

theorem le_highestKnown (h : r.Known key g) : g ≤ r.highestKnown key :=
  (highestKnown_iff (p := fun g => g ≤ r.highestKnown key) (fun _ _ => max_le_iff)
    UInt64.zero_le).mp (le_refl _) g h

/-- Naming the generation that the key is at renews it: nothing is created or fenced, and no
key changes its generation. -/
def NamesCurrent (r : FlowRegistry) (key : FlowKey) : Prop :=
  ∀ f, r.current.lookup key = some f → ∀ session tick,
    let out := r.registerFlow key f.generation session tick
    ∃ flow, out.1 = .ok flow ∧ flow.created = false ∧ flow.fencedPrevious = false ∧
      out.2.history = r.history ∧
      ∀ j, (out.2.current.lookup j).map FlowRecord.generation =
        (r.current.lookup j).map FlowRecord.generation

def HasFurther (r : FlowRegistry) (key : FlowKey) : Prop :=
  ∃ requested further, (∀ g, r.Known key g → g < further) ∧ ∀ session tick,
    let out := r.registerFlow key requested session tick
    ∃ flow f, out.1 = .ok flow ∧ out.2.current.lookup key = some f ∧ f.generation = further ∧
      out.2.NamesCurrent key

theorem namesCurrent_of (hf : r.current.lookup key = some f)
    (hid : f.id = deriveFlowId key) (hzero : f.generation ≠ 0)
    (hle : f.generation ≤ maxAcceptableGeneration) : r.NamesCurrent key := by
  intro g hg session tick out
  rw [hf] at hg
  cases hg
  have htarget : r.target key f.generation = f.generation := if_neg hzero
  have haccepts : ¬ r.Refuses key f.generation := by
    simp only [Refuses, htarget, hf, hid, not_or]
    exact ⟨not_lt.mpr hle, hzero, fun h => h rfl, lt_irrefl _⟩
  have hregistered := registered r key f.generation session tick
  change Registered r key f.generation out at hregistered
  clear_value out
  cases hregistered with
  | refused hrefuses => exact absurd hrefuses haccepts
  | repeated _ hg _ _ hcreated hfenced hcurrent hsame hhistory =>
    refine ⟨_, rfl, hcreated, hfenced, hhistory, fun j => ?_⟩
    rw [hcurrent]
    exact map_lookup_insert FlowRecord.generation hg hsame j
  | advanced _ hnew => exact absurd ⟨f, hf, htarget.symm⟩ hnew

/-- A registration that succeeds was not refused. -/
theorem not_refuses_of_ok {flow : FlowRegistration}
    (h : (r.registerFlow key requested session tick).1 = .ok flow) : ¬ r.Refuses key requested := by
  have hregistered := registered r key requested session tick
  generalize r.registerFlow key requested session tick = out at hregistered h
  cases hregistered with
  | refused => cases h
  | repeated haccepts => exact haccepts
  | advanced haccepts => exact haccepts

/-- What naming the current generation takes. -/
theorem NamesCurrent.bounds (h : r.NamesCurrent key) (hf : r.current.lookup key = some f) :
    f.id = deriveFlowId key ∧ f.generation ≠ 0 ∧ f.generation ≤ maxAcceptableGeneration := by
  obtain ⟨flow, hok, hcreated, -⟩ := h f hf .none 0
  have haccepts := not_refuses_of_ok hok
  simp only [Refuses, hf, not_or, not_not, not_lt] at haccepts
  obtain ⟨hle, -, hid, hstale⟩ := haccepts
  refine ⟨hid, fun hzero => ?_, hle⟩
  -- generation zero asks for the next one, which is created
  have hregistered := registered r key f.generation .none 0
  generalize r.registerFlow key f.generation .none 0 = out at hregistered hok
  cases hregistered with
  | refused => cases hok
  | repeated haccepts hg hgeneration =>
    rw [hf] at hg
    cases hg
    exact haccepts (Or.inr (Or.inl (hgeneration.symm.trans hzero)))
  | advanced _ _ _ _ _ _ hmade =>
    cases hok
    rw [hmade.2.2] at hcreated
    cases hcreated

/-- When a key can be renewed and advanced by name: its record is one that a registration or
the snapshot codec lets through, every known generation is below the largest acceptable one,
and there is room for a key without an incarnation. -/
theorem current_generation_named_iff (r : FlowRegistry) (key : FlowKey) :
    r.NamesCurrent key ∧ r.HasFurther key ↔
      (∀ f, r.current.lookup key = some f → f.id = deriveFlowId key ∧ f.generation ≠ 0) ∧
      (∀ g, r.Known key g → g < maxAcceptableGeneration) ∧
      (r.current.lookup key = none → r.current.size < r.maxFlows.toNat) := by
  constructor
  · rintro ⟨hnames, requested, further, habove, hfurther⟩
    obtain ⟨flow, f, hok, hf, rfl, hnamed⟩ := hfurther .none 0
    refine ⟨fun f hf => ⟨(hnames.bounds hf).1, (hnames.bounds hf).2.1⟩, fun g hg => ?_, ?_⟩
    · exact lt_of_lt_of_le (habove g hg) (hnamed.bounds hf).2.2
    · intro hnone
      have haccepts := not_refuses_of_ok hok
      simp only [Refuses, hnone, not_or, not_le] at haccepts
      exact haccepts.2.2.2
  · rintro ⟨hrecord, hbelow, hroom⟩
    have hlast : maxAcceptableGeneration ≠ 0 := by decide
    have htarget : r.target key maxAcceptableGeneration = maxAcceptableGeneration := if_neg hlast
    have haccepts : ¬ r.Refuses key maxAcceptableGeneration := by
      simp only [Refuses, htarget, not_or]
      refine ⟨lt_irrefl _, hlast, ?_⟩
      cases hf : r.current.lookup key with
      | some f =>
        exact not_or.mpr ⟨not_not.mpr (hrecord f hf).1,
          not_lt.mpr (le_of_lt (hbelow _ (Or.inr ⟨f, hf, rfl⟩)))⟩
      | none =>
        refine not_or.mpr ⟨?_, not_le.mpr (hroom hf)⟩
        exact fun hpast => lt_irrefl _ (hbelow _ (Or.inl hpast))
    constructor
    · intro f hf
      obtain ⟨hid, hzero⟩ := hrecord f hf
      exact namesCurrent_of hf hid hzero (le_of_lt (hbelow _ (Or.inr ⟨f, hf, rfl⟩))) f hf
    · refine ⟨maxAcceptableGeneration, maxAcceptableGeneration, hbelow, fun session tick => ?_⟩
      have hregistered := registered r key maxAcceptableGeneration session tick
      intro out
      change Registered r key maxAcceptableGeneration out at hregistered
      clear_value out
      cases hregistered with
      | refused hrefuses => exact absurd hrefuses haccepts
      | repeated _ hf hgeneration =>
        rw [htarget] at hgeneration
        exact absurd hgeneration (ne_of_lt (hbelow _ (Or.inr ⟨_, hf, rfl⟩)))
      | advanced _ _ hrecord hcurrent hgeneration _ hmade =>
        rw [htarget] at hgeneration
        refine ⟨_, _, rfl, hcurrent, hgeneration, namesCurrent_of hcurrent ?_ ?_ ?_⟩
        · exact hmade.1 ▸ hrecord.1
        · rw [hgeneration]
          exact hlast
        · exact le_of_eq hgeneration

end Known

inductive FlowCall where
  | register (key : FlowKey) (requested : FlowGeneration) (session : SessionId) (tick : Tick)
  | retire (id : FlowId) (generation : FlowGeneration) (tick : Tick)

def call (r : FlowRegistry) : FlowCall → FlowRegistry
  | .register key requested session tick => (r.registerFlow key requested session tick).2
  | .retire id generation tick => (r.retireFlow id generation tick).2

def empty (maxFlows : UInt32) : FlowRegistry := { maxFlows := maxFlows }

def Creates (r : FlowRegistry) (op : FlowCall) (key : FlowKey) (g : FlowGeneration) : Prop :=
  ∃ requested session tick flow, op = .register key requested session tick ∧
    (r.registerFlow key requested session tick).1 = .ok flow ∧ flow.created = true ∧
    flow.record.generation = g

def sampleFlow : FlowKey := ⟨⟨.replicate 16 1⟩, ⟨.replicate 16 2⟩, 4000, 9000, .tcp⟩

/-- The successor of the largest acceptable generation is given out and cannot be named. -/
theorem unnameable_generation :
    let r := run call (empty 4) [.register sampleFlow maxAcceptableGeneration .none 1,
      .register sampleFlow 0 .none 2]
    (r.current.lookup sampleFlow).map FlowRecord.generation =
        some (maxAcceptableGeneration + 1) ∧ ¬ r.NamesCurrent sampleFlow := by
  intro r
  obtain ⟨f, hf, hgeneration⟩ : ∃ f, r.current.lookup sampleFlow = some f ∧
      f.generation = maxAcceptableGeneration + 1 := by
    decide +kernel
  refine ⟨by rw [hf, Option.map_some, hgeneration], fun hnames => ?_⟩
  have hle := (hnames.bounds hf).2.2
  rw [hgeneration] at hle
  exact absurd hle (by decide)

/-- A generation that is named for a key without an incarnation is above the known ones. -/
def NamesFresh (r : FlowRegistry) : FlowCall → Prop
  | .register key requested _ _ => r.current.lookup key = none → requested ≠ 0 →
      ∀ g, r.Known key g → g < requested
  | .retire _ _ _ => True

def keysOf (ops : List FlowCall) : Set FlowKey :=
  {key | ∃ requested session tick, FlowCall.register key requested session tick ∈ ops}

structure Rising (keys : Set FlowKey) (r : FlowRegistry) : Prop where
  keyed : ∀ key f, r.current.lookup key = some f → key ∈ keys ∧ f.id = deriveFlowId key
  above : ∀ key f, r.current.lookup key = some f → ∀ g ∈ r.historyOf (deriveFlowId key),
    g.generation < f.generation

def Passed (r : FlowRegistry) (key : FlowKey) (g : FlowGeneration) : Prop :=
  ∃ k, r.Known key k ∧ g ≤ k

theorem mem_pushHistory {history : List FlowRecord} {g : FlowRecord}
    (h : g ∈ pushHistory history f) : g ∈ history ∨ g = f := by
  simpa using List.mem_of_mem_drop h

theorem self_mem_pushHistory (history : List FlowRecord) (f : FlowRecord) :
    f ∈ pushHistory history f := by
  unfold pushHistory
  rw [List.drop_append_of_le_length (by unfold maxHistoryPerKey; omega)]
  simp

theorem historyOf_insert {r r' : FlowRegistry} {id : FlowId} {history : List FlowRecord}
    (h : r'.history = r.history.insert id history) (j : FlowId) :
    r'.historyOf j = if j = id then history else r.historyOf j := by
  unfold historyOf
  rw [h, lookup_insert_eq]
  split_ifs <;> rfl

section Runs

variable {keys : Set FlowKey} {r : FlowRegistry}

/-- Without a fenced past the largest known generation is that of the incarnation. -/
theorem Rising.known_le (h : r.Rising keys)
    (hf : r.current.lookup key = some f) (hg : r.Known key g) : g ≤ f.generation := by
  rcases hg with ⟨f', hf', rfl⟩ | ⟨f', hf', rfl⟩
  · exact le_of_lt (h.above key f hf f' hf')
  · rw [hf] at hf'
    cases hf'
    exact le_refl _

/-- What is created is above everything known. -/
theorem Rising.known_lt (h : r.Rising keys) {requested : FlowGeneration}
    (hfresh : r.NamesFresh (.register key requested session tick))
    (haccepts : ¬ r.Refuses key requested) (hnew : ¬ r.Repeats key requested)
    (hg : r.Known key g) : g < r.target key requested := by
  simp only [Refuses, not_or] at haccepts
  obtain ⟨-, hzero, hrest⟩ := haccepts
  cases hlookup : r.current.lookup key with
  | some f =>
    rw [hlookup] at hrest
    have hle := not_lt.mp (not_or.mp hrest).2
    exact lt_of_le_of_lt (h.known_le hlookup hg)
      (lt_of_le_of_ne hle fun heq => hnew ⟨f, hlookup, heq⟩)
  | none =>
    by_cases hasked : requested = 0
    · -- the next generation did not wrap around
      have htarget : r.target key requested = r.highestKnown key + 1 := if_pos hasked
      rw [htarget] at hzero ⊢
      have hle := le_highestKnown hg
      rw [UInt64.le_iff_toNat_le] at hle
      have hne : (r.highestKnown key + 1).toNat ≠ 0 := fun he => hzero (UInt64.toNat_inj.mp he)
      rw [UInt64.toNat_add, UInt64.toNat_one] at hne
      rw [UInt64.lt_iff_toNat_lt, UInt64.toNat_add, UInt64.toNat_one]
      have hlt := (r.highestKnown key).toNat_lt
      omega
    · have htarget : r.target key requested = requested := if_neg hasked
      rw [htarget]
      exact hfresh hlookup hasked g hg

/-- The registry after the incarnation of one key was set to one that is above the history
of the key and at least at every generation known before. -/
theorem Rising.insert {r' : FlowRegistry} (h : r.Rising keys)
    (hinsert : r'.current = r.current.insert key f) (hkey : key ∈ keys)
    (hid : f.id = deriveFlowId key)
    (hown : ∀ g ∈ r'.historyOf (deriveFlowId key), g.generation < f.generation)
    (hother : ∀ j ∈ keys, j ≠ key → r'.historyOf (deriveFlowId j) = r.historyOf (deriveFlowId j))
    (hpast : ∀ k, r.Known key k → k ≤ f.generation) :
    r'.Rising keys ∧ ∀ j ∈ keys, ∀ g, r.Passed j g → r'.Passed j g := by
  refine ⟨⟨fun j g hg => ?_, fun j g hg => ?_⟩, fun j hj' g ⟨k, hk, hle⟩ => ?_⟩
  · rw [hinsert, lookup_insert_eq] at hg
    split_ifs at hg with hj
    · cases hg
      exact hj ▸ ⟨hkey, hid⟩
    · exact h.keyed j g hg
  · rw [hinsert, lookup_insert_eq] at hg
    split_ifs at hg with hj
    · cases hg
      exact hj ▸ hown
    · rw [hother j (h.keyed j g hg).1 hj]
      exact h.above j g hg
  · unfold Passed Known
    rw [hinsert, lookup_insert_eq]
    split_ifs with hj
    · subst hj
      exact ⟨f.generation, Or.inr ⟨f, rfl, rfl⟩, hle.trans (hpast k hk)⟩
    · rw [hother j hj' hj]
      exact ⟨k, hk, hle⟩

/-- A new incarnation is above what it fences and what was fenced before. -/
theorem Rising.register (hinj : Set.InjOn deriveFlowId keys) (h : r.Rising keys)
    (hkey : key ∈ keys) {requested : FlowGeneration}
    (hfresh : r.NamesFresh (.register key requested session tick)) :
    let r' := (r.registerFlow key requested session tick).2
    r'.Rising keys ∧ ∀ j ∈ keys, ∀ g, r.Passed j g → r'.Passed j g := by
  have hregistered := registered r key requested session tick
  generalize r.registerFlow key requested session tick = out at hregistered
  cases hregistered with
  | @refused _ r' _ hcurrent hhistory =>
    have hsame : (∀ key f, r'.current.lookup key = some f → key ∈ keys ∧ f.id = deriveFlowId key) ∧
        (∀ key f, r'.current.lookup key = some f → ∀ g ∈ r'.historyOf (deriveFlowId key),
          g.generation < f.generation) ∧ ∀ j ∈ keys, ∀ g, r.Passed j g → r'.Passed j g := by
      unfold Passed Known historyOf
      rw [hcurrent, hhistory]
      exact ⟨h.keyed, h.above, fun _ _ _ hpassed => hpassed⟩
    exact ⟨⟨hsame.1, hsame.2.1⟩, hsame.2.2⟩
  | @repeated f f' _ r' _ hf _ hrecord _ _ hcurrent hsame hhistory hkept =>
    have hold : ∀ j, r'.historyOf j = r.historyOf j := fun j => by
      unfold historyOf
      rw [hhistory]
    refine h.insert hcurrent hkey (hkept.1 ▸ hrecord.1) ?_ (fun j _ _ => hold _) ?_
    · rw [hold, hsame]
      exact h.above key f hf
    · rw [hsame]
      exact fun k hk => h.known_le hf hk
  | @advanced f' flow r' haccepts hnew hrecord _ hgeneration hinsert hmade hpast =>
    have hlt : ∀ {k}, r.Known key k → k < f'.generation := fun hk =>
      hgeneration ▸ h.known_lt hfresh haccepts hnew hk
    refine h.insert hinsert hkey (hmade.1 ▸ hrecord.1) ?_ ?_ fun k hk => le_of_lt (hlt hk)
    · rcases hpast with ⟨-, hsame⟩ | ⟨f, hf, -, -, hpushed⟩
      · unfold historyOf
        rw [hsame]
        exact fun g hg => hlt (Or.inl ⟨g, hg, rfl⟩)
      · rw [historyOf_insert hpushed, if_pos rfl]
        intro g hg
        rcases mem_pushHistory hg with hg | rfl
        · exact hlt (Or.inl ⟨g, hg, rfl⟩)
        · exact hlt (Or.inr ⟨g, hf, rfl⟩)
    · intro j hj hne
      rcases hpast with ⟨-, hsame⟩ | ⟨f, -, -, -, hpushed⟩
      · unfold historyOf
        rw [hsame]
      · rw [historyOf_insert hpushed, if_neg fun hid => hne (hinj hj hkey hid)]

/-- What is retired moves to the end of its own history. -/
theorem Rising.retire (hinj : Set.InjOn deriveFlowId keys) (h : r.Rising keys) (id : FlowId)
    (generation : FlowGeneration) (tick : Tick) :
    let r' := (r.retireFlow id generation tick).2
    r'.Rising keys ∧ ∀ j ∈ keys, ∀ g, r.Passed j g → r'.Passed j g := by
  unfold retireFlow
  split
  next key f hfind =>
    have hf : r.current.lookup key = some f :=
      AList.mem_lookup_iff.mpr (List.mem_of_find?_eq_some hfind)
    obtain ⟨hkey, hid⟩ := h.keyed key f hf
    have hwanted := List.find?_some hfind
    simp only [Bool.and_eq_true, beq_iff_eq] at hwanted
    have hpushed : id = deriveFlowId key := hwanted.1.symm.trans hid
    dsimp only
    generalize hr' : ({ r with current := _, history := _ } : FlowRegistry) = r'
    have hcurrent : r'.current = r.current.erase key := by rw [← hr']
    have hhistory := @historyOf_insert r r' id _ (by rw [← hr'])
    have hother : ∀ j ∈ keys, j ≠ key →
        r'.historyOf (deriveFlowId j) = r.historyOf (deriveFlowId j) := by
      intro j hj hne
      rw [hhistory, if_neg fun heq => hne (hinj hj hkey (heq.trans hpushed))]
    refine ⟨⟨fun j g hg => ?_, fun j g hg => ?_⟩, fun j hj g ⟨k, hk, hle⟩ => ?_⟩
    · rw [hcurrent, lookup_erase_eq] at hg
      split_ifs at hg
      exact h.keyed j g hg
    · rw [hcurrent, lookup_erase_eq] at hg
      split_ifs at hg with hne
      rw [hother j (h.keyed j g hg).1 hne]
      exact h.above j g hg
    · by_cases hsame : j = key
      · subst hsame
        refine ⟨f.generation, Or.inl ⟨{ f with lastActivityTick := tick }, ?_, rfl⟩,
          hle.trans (h.known_le hf hk)⟩
        rw [hhistory, if_pos hpushed.symm]
        exact self_mem_pushHistory _ _
      · refine ⟨k, ?_, hle⟩
        unfold Known
        rw [hother j hj hsame, hcurrent, lookup_erase_eq, if_neg hsame]
        exact hk
  next => exact ⟨h, fun _ _ _ hpassed => hpassed⟩

end Runs

/-- In every run that names fresh generations for keys without an incarnation, a generation
that was current once is not created again. -/
theorem generations_not_reused (maxFlows : UInt32) (before between : List FlowCall)
    (op : FlowCall) {key : FlowKey} {f : FlowRecord}
    (hinj : Set.InjOn deriveFlowId (keysOf (before ++ between ++ [op])))
    (hfresh : Along call NamesFresh (empty maxFlows) (before ++ between ++ [op]))
    (hf : (run call (empty maxFlows) before).current.lookup key = some f) :
    ¬ Creates (run call (empty maxFlows) (before ++ between)) op key f.generation := by
  let keys := keysOf (before ++ between ++ [op])
  let Steps (r : FlowRegistry) (op : FlowCall) : Prop :=
    r.NamesFresh op ∧ ∀ key requested session tick, op = .register key requested session tick →
      key ∈ keys
  have hsteps : Along call Steps (empty maxFlows) (before ++ between ++ [op]) :=
    (along_iff call).mpr fun first op' rest heq => ⟨(along_iff call).mp hfresh first op' rest heq,
      fun key requested session tick hop => ⟨requested, session, tick, by simp [heq, hop]⟩⟩
  have hstep : ∀ r op, Steps r op → r.Rising keys →
      (r.call op).Rising keys ∧ ∀ j ∈ keys, ∀ g, r.Passed j g → (r.call op).Passed j g := by
    intro r op hop h
    cases op with
    | register key requested session tick => exact h.register hinj (hop.2 _ _ _ _ rfl) hop.1
    | retire id generation tick => exact h.retire hinj id generation tick
  obtain ⟨hbetween, hlast, -⟩ := hsteps.of_append
  obtain ⟨hbefore, hbetween⟩ := hbetween.of_append
  have hrising : (run call (empty maxFlows) before).Rising keys :=
    run_invariant call (fun r op hop h => (hstep r op hop h).1)
      ⟨fun _ _ hnone => absurd hnone (by simp [empty]),
        fun _ _ hnone => absurd hnone (by simp [empty])⟩ hbefore
  have hkey := (hrising.keyed key f hf).1
  let Keeps (r : FlowRegistry) : Prop := r.Rising keys ∧ r.Passed key f.generation
  have hkeeps : ∀ r op, Steps r op → Keeps r → Keeps (r.call op) := fun r op hop h =>
    ⟨(hstep r op hop h.1).1, (hstep r op hop h.1).2 key hkey _ h.2⟩
  obtain ⟨h, k, hk, hle⟩ : Keeps (run call (run call (empty maxFlows) before) between) :=
    run_invariant call hkeeps ⟨hrising, f.generation, Or.inr ⟨f, hf, rfl⟩, le_refl _⟩ hbetween
  rw [run, List.foldl_append] at hlast ⊢
  rintro ⟨requested, session, tick, flow, rfl, hok, hcreated, hgeneration⟩
  have hregistered := registered (run call (run call (empty maxFlows) before) between) key
    requested session tick
  change (FlowRegistry.registerFlow (run call (run call (empty maxFlows) before) between) key
    requested session tick).1 = _ at hok
  generalize FlowRegistry.registerFlow _ key requested session tick = out at hregistered hok
  cases hregistered with
  | refused => cases hok
  | repeated _ _ _ _ hrepeated =>
    cases hok
    rw [hcreated] at hrepeated
    cases hrepeated
  | advanced haccepts hnew hrecord =>
    cases hok
    have hlt := h.known_lt hlast.1 haccepts hnew hk
    rw [← hrecord.2, hgeneration] at hlt
    exact absurd hle (not_le.mpr hlt)

theorem generations_not_reused_sample :
    ∃ f, (run call (empty 4) [.register sampleFlow 0 .none 1]).current.lookup sampleFlow = some f ∧
      ¬ Creates (run call (empty 4) ([.register sampleFlow 0 .none 1] ++
          [.retire (deriveFlowId sampleFlow) 1 2])) (.register sampleFlow 0 .none 3) sampleFlow
        f.generation := by
  obtain ⟨f, hf⟩ := Option.isSome_iff_exists.mp (by decide +kernel :
    ((run call (empty 4) [.register sampleFlow 0 .none 1]).current.lookup sampleFlow).isSome =
      true)
  refine ⟨f, hf, generations_not_reused 4 _ _ _ ?_ ?_ hf⟩
  · have hone : ∀ key ∈ keysOf ([.register sampleFlow 0 .none 1] ++
        [.retire (deriveFlowId sampleFlow) 1 2] ++ [.register sampleFlow 0 .none 3]),
        key = sampleFlow := by
      rintro key ⟨requested, session, tick, hmem⟩
      simp only [List.cons_append, List.nil_append, List.mem_cons, FlowCall.register.injEq,
        reduceCtorEq, List.not_mem_nil, or_false, false_or] at hmem
      exact hmem.elim (fun h => h.1) fun h => h.1
    exact fun a ha b hb _ => (hone a ha).trans (hone b hb).symm
  · exact ⟨fun _ hnamed => absurd rfl hnamed, trivial, fun _ hnamed => absurd rfl hnamed, trivial⟩

/-- After generation 5 was retired and generation 3 registered, generation 5 is registered
once more. -/
theorem retired_generation_recreated :
    let before := [.register sampleFlow 5 .none 1]
    let between := [.retire (deriveFlowId sampleFlow) 5 2, .register sampleFlow 3 .none 3]
    ((run call (empty 4) before).current.lookup sampleFlow).map FlowRecord.generation = some 5 ∧
      Creates (run call (empty 4) (before ++ between)) (.register sampleFlow 5 .none 4)
        sampleFlow 5 := by
  intro before between
  obtain ⟨flow, hok, hcreated, hgeneration⟩ : ∃ flow,
      ((run call (empty 4) (before ++ between)).registerFlow sampleFlow 5 .none 4).1 = .ok flow ∧
      flow.created = true ∧ flow.record.generation = 5 := by
    decide +kernel
  exact ⟨by decide +kernel, 5, .none, 4, flow, rfl, hok, hcreated, hgeneration⟩

end FlowClassifier.Store.FlowRegistry
