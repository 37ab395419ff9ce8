import FlowClassifier.Codec.RecordRoundTrips
import FlowClassifier.Identities

/-!
Canonical policies and their digest. A policy in canonical form stays as it is when it is
made canonical again. The digest leaves out the generation and covers everything else, as
long as the encoding it is computed from fits its buffer; an encoding that does not fit
has the zero digest, whatever it holds.
-/
namespace FlowClassifier.Policies

open Lib Foundation Buffers Hash Evidence Codec

variable {p q : ClassifierPolicy}

theorem clampTo_clampTo {lower upper : UInt32} (h : lower ≤ upper) (value : UInt32) :
    clampTo (clampTo value lower upper) lower upper = clampTo value lower upper := by
  unfold clampTo
  by_cases hlow : value < lower
  · rw [if_pos hlow, if_neg (UInt32.lt_irrefl lower), if_neg (UInt32.not_lt.mpr h)]
  · rw [if_neg hlow]
    by_cases hhigh : value > upper
    · rw [if_pos hhigh, if_neg (UInt32.not_lt.mpr h), if_neg (UInt32.lt_irrefl upper)]
    · rw [if_neg hhigh, if_neg hlow, if_neg hhigh]

theorem ResourceLimits.effective_effective (l : ResourceLimits) :
    l.effective.effective = l.effective := by
  simp (disch := decide) only [ResourceLimits.effective, clampTo_clampTo]
  by_cases hwindow : l.defaultFreshnessWindow = 0
  · by_cases hidle : l.maxSessionIdleTicks = 0 <;> simp [hwindow, hidle]
  · by_cases hidle : l.maxSessionIdleTicks = 0 <;> simp [hwindow, hidle]

namespace ClassifierPolicy

variable {adapters : List HeuristicAdapterPolicy} {hints : List PortHint}

theorem canonicalForm_canonicalForm (p : ClassifierPolicy) :
    p.canonicalForm.canonicalForm = p.canonicalForm := by
  have hadapters := pairwise_insertionSort_key
    (fun a b : HeuristicAdapterPolicy => a.name ≤ b.name) HeuristicAdapterPolicy.name
    (fun _ _ => Iff.rfl) p.heuristicAdapters
  have hhints := pairwise_insertionSort_key (fun a b : PortHint => hintKey a ≤ hintKey b) hintKey
    (fun _ _ => Iff.rfl) p.portHints
  simp only [canonicalForm, ResourceLimits.effective_effective, hadapters.insertionSort_eq,
    hhints.insertionSort_eq]

theorem checkScalars_canonicalForm (p : ClassifierPolicy) :
    checkScalars p.canonicalForm = checkScalars p := by
  simp only [checkScalars, canonicalForm, List.length_insertionSort]

/-- The policy with its adapters and hints in the order a sort has left them in. -/
def sortedForm (p : ClassifierPolicy) (adapters : List HeuristicAdapterPolicy)
    (hints : List PortHint) : ClassifierPolicy :=
  { p with limits := p.limits.effective, heuristicAdapters := adapters, portHints := hints }

def canonicalizeSorted (p : ClassifierPolicy) (adapters : List HeuristicAdapterPolicy)
    (hints : List PortHint) : Result ClassifierPolicy := do
  checkScalars p
  checkAdapters adapters
  checkHints adapters hints
  checkSwitches (p.sortedForm adapters hints)
  return p.sortedForm adapters hints

theorem check_bind_eq_ok {α : Type} {check : Result Unit} {f : Unit → Result α} {a : α} :
    (check >>= f) = .ok a ↔ check = .ok () ∧ f () = .ok a := by
  cases check <;> simp [bind, Except.bind]

theorem canonicalizeSorted_eq_ok_iff : canonicalizeSorted p adapters hints = .ok q ↔
      q = p.sortedForm adapters hints ∧ checkScalars p = .ok () ∧
      checkAdapters adapters = .ok () ∧ checkHints adapters hints = .ok () ∧
      checkSwitches q = .ok () := by
  simp only [canonicalizeSorted, check_bind_eq_ok, pure, Except.pure, Except.ok.injEq]
  constructor
  · rintro ⟨hscalars, hadapters, hhints, hswitches, rfl⟩
    exact ⟨rfl, hscalars, hadapters, hhints, hswitches⟩
  · rintro ⟨rfl, hscalars, hadapters, hhints, hswitches⟩
    exact ⟨hscalars, hadapters, hhints, hswitches, rfl⟩

theorem canonicalize_eq_ok_iff :
    canonicalize p = .ok q ↔ q = p.canonicalForm ∧ checkScalars p = .ok () ∧
      checkAdapters q.heuristicAdapters = .ok () ∧
      checkHints q.heuristicAdapters q.portHints = .ok () ∧ checkSwitches q = .ok () := by
  refine (canonicalizeSorted_eq_ok_iff (p := p)).trans (and_congr_right ?_)
  rintro rfl
  rfl

theorem canonicalize_canonical (h : canonicalize p = .ok q) : canonicalize q = .ok q := by
  obtain ⟨rfl, hscalars, hrest⟩ := canonicalize_eq_ok_iff.mp h
  refine canonicalize_eq_ok_iff.mpr ⟨(canonicalForm_canonicalForm p).symm, ?_, hrest⟩
  rw [checkScalars_canonicalForm, hscalars]

theorem canonicalize_effective (p : ClassifierPolicy) :
    canonicalize { p with limits := p.limits.effective } = canonicalize p := by
  have hform : canonicalForm { p with limits := p.limits.effective } = canonicalForm p := by
    simp only [canonicalForm, ResourceLimits.effective_effective]
  unfold canonicalize
  rw [hform]
  rfl

/-- The generation takes no part in it. -/
theorem canonicalize_generation (h : canonicalize p = .ok q)
    (generation : ClassifierPolicyGeneration) : canonicalize { p with generation := generation } =
      .ok { q with generation := generation } := by
  obtain ⟨rfl, hrest⟩ := canonicalize_eq_ok_iff.mp h
  exact canonicalize_eq_ok_iff.mpr ⟨rfl, hrest⟩

theorem forM_eq_ok {α : Type} {f : α → Result Unit} {xs : List α} (h : xs.forM f = .ok ()) :
    ∀ x ∈ xs, f x = .ok () := by
  induction xs with
  | nil => simp
  | cons x rest ih =>
    obtain ⟨hx, hrest⟩ := check_bind_eq_ok.mp h
    exact List.forall_mem_cons.mpr ⟨hx, ih hrest⟩

theorem checkAdapters_ok
    (h : checkAdapters adapters = .ok ()) : (∀ a ∈ adapters, checkAdapter a = .ok ()) ∧
      adjacent? (fun a b => a.name == b.name) adapters = none := by
  obtain ⟨hall, hnone⟩ := check_bind_eq_ok.mp h
  refine ⟨forM_eq_ok hall, ?_⟩
  split at hnone
  · cases hnone
  · assumption

theorem checkHints_ok (h : checkHints adapters hints = .ok ()) :
    adjacent? (fun a b => hintKey a == hintKey b) hints = none ∧
      ∀ hint ∈ hints, checkHintAdapter adapters hint = .ok () := by
  obtain ⟨-, hnone⟩ := check_bind_eq_ok.mp h
  split at hnone
  · cases hnone
  · exact ⟨by assumption, forM_eq_ok hnone⟩

theorem length_name_of_checkAdapter {a : HeuristicAdapterPolicy} (h : checkAdapter a = .ok ()) :
    a.name.length ≤ maxIdentityBytes := by
  unfold checkAdapter at h
  split_ifs at h with hname
  · cases h
  · cases h
  · simp only [isCanonicalIdentity, Bool.not_eq_true', Bool.not_eq_false, Bool.and_eq_true,
      decide_eq_true_eq] at hname
    exact hname.1.2

/-- A canonical policy is within the limits that a codec has by default. -/
theorem policyReadable_of_canonicalize (h : canonicalize p = .ok q) : policyReadable {} q := by
  obtain ⟨hform, hscalars, hadapters, hhints, -⟩ := canonicalize_eq_ok_iff.mp h
  rw [← checkScalars_canonicalForm, ← hform] at hscalars
  have hcounts : q.heuristicAdapters.length ≤ Buffers.maxCollectionCount ∧
      q.portHints.length ≤ Buffers.maxCollectionCount := by
    unfold checkScalars at hscalars
    split_ifs at hscalars with _ _ _ _ hmany hmanyHints
    all_goals cases hscalars
    exact ⟨not_lt.mp hmany, not_lt.mp hmanyHints⟩
  have hnames : ∀ a ∈ q.heuristicAdapters, a.name.length ≤ Buffers.maxStringBytes := by
    intro a ha
    exact le_trans (length_name_of_checkAdapter ((checkAdapters_ok hadapters).1 a ha)) (by decide)
  refine ⟨hcounts.1, hnames, hcounts.2, ?_⟩
  intro hint hmem
  -- the adapter that a hint names is declared
  have hdeclared := (checkHints_ok hhints).2 hint hmem
  unfold checkHintAdapter at hdeclared
  split_ifs at hdeclared with hany
  · obtain ⟨a, ha, heq⟩ := List.any_eq_true.mp hany
    rw [CodecLimits.Holds, ← beq_iff_eq.mp heq]
    exact hnames a ha
  · cases hdeclared

/-- In a sorted list equal keys would be neighbours. -/
theorem pairwise_lt_of_adjacent {α κ : Type} [LinearOrder κ] {key : α → κ} {xs : List α}
    {same : α → α → Bool} (hsame : ∀ a b, same a b = true ↔ key a = key b)
    (hsorted : xs.Pairwise fun a b => key a ≤ key b) (h : adjacent? same xs = none) :
    xs.Pairwise fun a b => key a < key b := by
  induction xs with
  | nil => exact .nil
  | cons x rest ih =>
    obtain ⟨hx, hrest⟩ := List.pairwise_cons.mp hsorted
    cases rest with
    | nil => simp
    | cons y rest =>
      simp only [adjacent?, List.tail_cons, List.zip_cons_cons, List.find?_cons] at h
      split at h
      · cases h
      next hxy =>
      have hstrict := ih hrest h
      have hlt : key x < key y :=
        lt_of_le_of_ne (hx y (by simp)) ((hsame x y).not.mp (by simp [hxy]))
      refine List.pairwise_cons.mpr ⟨fun z hz => ?_, hstrict⟩
      rcases List.mem_cons.mp hz with rfl | hz
      · exact hlt
      · exact hlt.trans ((List.pairwise_cons.mp hstrict).1 z hz)

/-- A sorted list without equal neighbours is the only sorted order of its elements. -/
theorem sorted_eq_of_adjacent {α κ : Type} [LinearOrder κ] {key : α → κ} {xs ys : List α}
    {same : α → α → Bool} (hsame : ∀ a b, same a b = true ↔ key a = key b)
    (hxs : xs.Pairwise fun a b => key a ≤ key b) (hys : ys.Pairwise fun a b => key a ≤ key b)
    (hperm : ys.Perm xs) (h : adjacent? same xs = none) : ys = xs := by
  have hstrict := pairwise_lt_of_adjacent hsame hxs h
  have hne : (xs.map key).Nodup := List.pairwise_map.mpr (hstrict.imp fun h => h.ne)
  refine hperm.eq_of_pairwise (fun a b ha hb hab hba => ?_) hys hxs
  exact List.inj_on_of_nodup_map hne (hperm.subset ha) hb (le_antisymm hab hba)

/-- Whatever sorted order the two sorts return, success and the result are the same. -/
theorem canonicalizeSorted_of_perm {p' : ClassifierPolicy}
    {adapters' : List HeuristicAdapterPolicy} {hints' : List PortHint}
    (h : canonicalizeSorted p adapters hints = .ok q)
    (hp : p'.sortedForm adapters hints = p.sortedForm adapters hints)
    (hscalars : checkScalars p' = checkScalars p)
    (hadapters : adapters.Pairwise fun a b => a.name ≤ b.name)
    (hadapters' : adapters'.Pairwise fun a b => a.name ≤ b.name) (hsame : adapters'.Perm adapters)
    (hhints : hints.Pairwise fun a b => hintKey a ≤ hintKey b)
    (hhints' : hints'.Pairwise fun a b => hintKey a ≤ hintKey b) (hsame' : hints'.Perm hints) :
    canonicalizeSorted p' adapters' hints' = .ok q := by
  obtain ⟨hq, hchecked, hadapter, hhint, hswitches⟩ := canonicalizeSorted_eq_ok_iff.mp h
  obtain rfl := sorted_eq_of_adjacent (fun _ _ => beq_iff_eq) hadapters hadapters' hsame
    (checkAdapters_ok hadapter).2
  obtain rfl := sorted_eq_of_adjacent (fun _ _ => beq_iff_eq) hhints hhints' hsame'
    (checkHints_ok hhint).1
  exact canonicalizeSorted_eq_ok_iff.mpr
    ⟨hq.trans hp.symm, hscalars.trans hchecked, hadapter, hhint, hswitches⟩

def canonicalizeBy (σ τ : Sorter) (p : ClassifierPolicy) : Result ClassifierPolicy :=
  canonicalizeSorted p (σ.sort (fun a b => decide (a.name < b.name)) p.heuristicAdapters)
    (τ.sort (fun a b => decide (hintKey a < hintKey b)) p.portHints)

theorem byName : StrictWeakOrder fun a b : HeuristicAdapterPolicy => decide (a.name < b.name) :=
  .of_key HeuristicAdapterPolicy.name fun _ _ => decide_eq_true_iff

theorem byHintKey : StrictWeakOrder fun a b : PortHint => decide (hintKey a < hintKey b) :=
  .of_key hintKey fun _ _ => decide_eq_true_iff

theorem canonicalizeBy_of_perm {σ τ σ' τ' : Sorter} {p' : ClassifierPolicy}
    (h : canonicalizeBy σ τ p = .ok q) (hp : p' = { p with
      limits := p'.limits, heuristicAdapters := p'.heuristicAdapters, portHints := p'.portHints })
    (hlimits : p'.limits.effective = p.limits.effective)
    (hadapters : p'.heuristicAdapters.Perm p.heuristicAdapters)
    (hhints : p'.portHints.Perm p.portHints) : canonicalizeBy σ' τ' p' = .ok q := by
  refine canonicalizeSorted_of_perm h ?_ ?_ ?_ ?_ ?_ ?_ ?_ ?_
  · rw [hp]
    simp only [sortedForm, hlimits]
  · rw [hp]
    simp only [checkScalars, hadapters.length_eq, hhints.length_eq]
  · exact (σ.sorted byName _).imp fun h => by simpa using h
  · exact (σ'.sorted byName _).imp fun h => by simpa using h
  · exact (σ'.perm byName _).trans (hadapters.trans (σ.perm byName _).symm)
  · exact (τ.sorted byHintKey _).imp fun h => by simpa using h
  · exact (τ'.sorted byHintKey _).imp fun h => by simpa using h
  · exact (τ'.perm byHintKey _).trans (hhints.trans (τ.perm byHintKey _).symm)

/-- The canonical form is stable, and it does not depend on the order in which adapters and
hints are declared, whatever sorts are used. -/
theorem canonicalize_normal_form (σ τ σ' τ' : Sorter) (p : ClassifierPolicy) :
    (∀ q, canonicalizeBy σ τ p = .ok q → canonicalizeBy σ' τ' q = .ok q) ∧
    ∀ adapters hints, adapters.Perm p.heuristicAdapters → hints.Perm p.portHints →
      let p' := { p with heuristicAdapters := adapters, portHints := hints }
      ((canonicalizeBy σ' τ' p').isOk = true ↔ (canonicalizeBy σ τ p).isOk = true) ∧
      ∀ q q', canonicalizeBy σ τ p = .ok q → canonicalizeBy σ' τ' p' = .ok q' →
        q' = q ∧ computePolicyDigest q' = computePolicyDigest q := by
  refine ⟨fun q h => ?_, fun adapters hints hadapters hhints => ?_⟩
  · obtain ⟨rfl, -⟩ := canonicalizeSorted_eq_ok_iff.mp h
    exact canonicalizeBy_of_perm h rfl (ResourceLimits.effective_effective _)
      (σ.perm byName _) (τ.perm byHintKey _)
  · intro p'
    have hforth {q} (h : canonicalizeBy σ τ p = .ok q) : canonicalizeBy σ' τ' p' = .ok q :=
      canonicalizeBy_of_perm h rfl rfl hadapters hhints
    refine ⟨⟨fun h => ?_, fun h => ?_⟩, fun q q' h h' => ?_⟩
    · obtain ⟨q, h⟩ := exists_ok h
      have hback : canonicalizeBy σ τ p = .ok q :=
        canonicalizeBy_of_perm h rfl rfl hadapters.symm hhints.symm
      rw [hback]
      rfl
    · obtain ⟨q, h⟩ := exists_ok h
      rw [hforth h]
      rfl
    · obtain rfl : q' = q := Except.ok.inj (h'.symm.trans (hforth h))
      exact ⟨rfl, rfl⟩

theorem canonicalize_normal_form_swapped :
    let a : HeuristicAdapterPolicy := { name := text "a" }
    let b : HeuristicAdapterPolicy := { name := text "b" }
    let σ := Sorter.insertion
    ∃ q, canonicalizeBy σ σ { heuristicAdapters := [a, b] } = .ok q ∧
      canonicalizeBy σ σ { heuristicAdapters := [b, a] } = .ok q := by
  intro a b σ
  obtain ⟨q, hq⟩ := exists_ok (r := canonicalizeBy σ σ { heuristicAdapters := [a, b] })
    (by decide +kernel)
  obtain ⟨hiff, hsame⟩ := (canonicalize_normal_form σ σ σ σ { heuristicAdapters := [a, b] }).2
    [b, a] [] (List.Perm.swap a b []) List.Perm.nil
  obtain ⟨q', hq'⟩ := exists_ok (hiff.mpr (by rw [hq]; rfl))
  exact ⟨q, hq, (hsame q q' hq hq').1 ▸ hq'⟩

end ClassifierPolicy

def SameContent (p q : ClassifierPolicy) : Prop := p = { q with generation := p.generation }

theorem SameContent.symm (h : SameContent p q) : SameContent q p := by
  rw [SameContent, h]

def FitsDigest (p : ClassifierPolicy) : Prop :=
  (policyDigestChunks p).flatten.length ≤ maxBlobBytes

theorem SameContent.chunks (h : SameContent p q) : policyDigestChunks p = policyDigestChunks q := by
  rw [h]
  rfl

/-- The record of a policy and the input of its digest differ in what stands before the
content. -/
theorem policy_chunks (p : ClassifierPolicy) :
    ∃ content, policyDigestChunks p = u8Bytes 2 :: content ∧
      encodePolicy p = u8Bytes 1 :: u64Bytes p.generation :: content :=
  ⟨_, rfl, rfl⟩

theorem encodePolicy_eq_of_chunks (hgeneration : p.generation = q.generation)
    (h : (policyDigestChunks p).flatten = (policyDigestChunks q).flatten) :
    (encodePolicy p).flatten = (encodePolicy q).flatten := by
  obtain ⟨content, hdigest, hrecord⟩ := policy_chunks p
  obtain ⟨content', hdigest', hrecord'⟩ := policy_chunks q
  rw [hdigest, hdigest', List.flatten_cons, List.flatten_cons, List.append_cancel_left_eq] at h
  rw [hrecord, hrecord', hgeneration, List.flatten_cons, List.flatten_cons, List.flatten_cons,
    List.flatten_cons, h]

theorem length_encodePolicy (p : ClassifierPolicy) :
    (encodePolicy p).flatten.length = (policyDigestChunks p).flatten.length + 8 := by
  obtain ⟨content, hdigest, hrecord⟩ := policy_chunks p
  rw [hdigest, hrecord]
  simp only [List.flatten_cons, List.length_append, length_u8Bytes, length_u64Bytes]
  omega

/-- Canonical policies with one encoding have one content: a record of the policy would be
read back as either of them. -/
theorem sameContent_of_chunks
    (hp : ClassifierPolicy.canonicalize p = .ok p) (hq : ClassifierPolicy.canonicalize q = .ok q)
    (hfits : FitsDigest p)
    (h : (policyDigestChunks p).flatten = (policyDigestChunks q).flatten) : SameContent p q := by
  set q' : ClassifierPolicy := { q with generation := p.generation } with hq'
  have hcanonical : ClassifierPolicy.canonicalize q' = .ok q' :=
    ClassifierPolicy.canonicalize_generation hq p.generation
  have hbytes : (encodePolicy p).flatten = (encodePolicy q').flatten :=
    encodePolicy_eq_of_chunks rfl h
  have hlen : (encodePolicy p).flatten.length < wireBound := by
    rw [length_encodePolicy, wireBound]
    unfold FitsDigest maxBlobBytes at hfits
    omega
  have hread := (decodeAll_iff (decodes_policy hp) hlen).1
    (ClassifierPolicy.policyReadable_of_canonicalize hp)
  have hread' := (decodeAll_iff (decodes_policy hcanonical) (hbytes ▸ hlen)).1
    (ClassifierPolicy.policyReadable_of_canonicalize hcanonical)
  rw [← hbytes, hread] at hread'
  exact Except.ok.inj hread'

/-- What the digest tells apart, when no encoding in use has the digest of another or the
zero digest. -/
theorem computePolicyDigest_eq_iff {messages : Set Bytes} (hinj : Set.InjOn sha256 messages)
    (hp : ClassifierPolicy.canonicalize p = .ok p) (hq : ClassifierPolicy.canonicalize q = .ok q)
    (hpscope : (policyDigestChunks p).flatten ∈ messages)
    (hqscope : (policyDigestChunks q).flatten ∈ messages)
    (hzero : ∀ m ∈ messages, sha256 m ≠ .zero) :
    computePolicyDigest p = computePolicyDigest q ↔
      SameContent p q ∨ ¬ FitsDigest p ∧ ¬ FitsDigest q := by
  unfold computePolicyDigest
  constructor
  · intro h
    by_cases hpfits : FitsDigest p
    · left
      by_cases hqfits : FitsDigest q
      · exact sameContent_of_chunks hp hq hpfits
          (digestOfChunks_injOn hinj hpscope hqscope hpfits hqfits h)
      · rw [digestOfChunks_fits hpfits, digestOfChunks_overflow (not_le.mp hqfits)] at h
        exact absurd h (hzero _ hpscope)
    · by_cases hqfits : FitsDigest q
      · rw [digestOfChunks_fits hqfits, digestOfChunks_overflow (not_le.mp hpfits)] at h
        exact absurd h.symm (hzero _ hqscope)
      · exact Or.inr ⟨hpfits, hqfits⟩
  · rintro (hsame | ⟨hpfits, hqfits⟩)
    · rw [hsame.chunks]
    · rw [digestOfChunks_overflow (not_le.mp hpfits), digestOfChunks_overflow (not_le.mp hqfits)]

end FlowClassifier.Policies
