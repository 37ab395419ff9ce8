import FlowClassifier.CanonicalPolicies
import FlowClassifier.Frames

/-!
Installing a policy. Whether the content has changed is decided by its digest, so an
update is lost when neither the policy in force nor the new one has an encoding that fits
the buffer of the digest; and a policy of generation zero is renumbered by an update that
changes nothing.
-/
namespace FlowClassifier.Classifier

open Lib Foundation Buffers Hash Policies Engine

/-- The policy in force is canonical, and the recorded digest is its digest. -/
structure HoldsPolicy (c : Classifier) : Prop where
  canonical : ClassifierPolicy.canonicalize c.policy = .ok c.policy
  digest : c.policyDigest = computePolicyDigest c.policy

theorem policy_new {options : ClassifierOptions} {p : ClassifierPolicy}
    (h : ClassifierPolicy.canonicalize options.policy = .ok p) : (new options).policy = p := by
  unfold new
  dsimp only
  rw [ClassifierPolicy.canonicalize_effective, h]

theorem holdsPolicy_new (options : ClassifierOptions) : HoldsPolicy (.new options) := by
  unfold new
  refine ⟨?_, by dsimp only⟩
  dsimp only
  split
  next p hp => exact ClassifierPolicy.canonicalize_canonical hp
  next => rfl

/-- What `set_policy` does with a policy it can make canonical, while generations last. -/
theorem setPolicy_cases {c : Classifier} {policy next : ClassifierPolicy}
    (hnext : ClassifierPolicy.canonicalize policy = .ok next)
    (hcounter : c.policy.generation ≠ 0xFFFFFFFFFFFFFFFF) :
    let out := c.setPolicy policy
    computePolicyDigest next = c.policyDigest ∧ c.policy.generation ≠ 0 ∧
      out = (.ok c.policy.generation, c) ∨
    ¬ (computePolicyDigest next = c.policyDigest ∧ c.policy.generation ≠ 0) ∧
      out.1 = .ok (c.policy.generation + 1) ∧
      out.2.policy = { next with generation := c.policy.generation + 1 } ∧
      out.2.policyDigest = computePolicyDigest out.2.policy := by
  unfold setPolicy
  rw [hnext]
  dsimp only
  by_cases hsame : computePolicyDigest next = c.policyDigest ∧ c.policy.generation ≠ 0
  · rw [if_pos hsame]
    exact Or.inl ⟨hsame.1, hsame.2, rfl⟩
  · rw [if_neg hsame]
    have hcount : (Counter.mk c.policy.generation).next = .ok ⟨c.policy.generation + 1⟩ := by
      unfold Counter.next Counter.isExhausted
      rw [if_neg (by simpa using hcounter)]
    rw [hcount]
    dsimp only
    exact Or.inr ⟨hsame, rfl, rfl, rfl⟩

/-- Only `set_policy` writes the policy. -/
theorem holdsPolicy_step {c : Classifier} (h : HoldsPolicy c) (op : Operation) :
    HoldsPolicy (c.step op) := by
  by_cases hop : ∀ policy, op ≠ .setPolicy policy
  · obtain ⟨hpolicy, hdigest⟩ := (framed_step c _).policy hop
    exact ⟨by rw [hpolicy]; exact h.canonical, by rw [hpolicy, hdigest]; exact h.digest⟩
  · push Not at hop
    obtain ⟨policy, rfl⟩ := hop
    rw [step, setPolicy]
    cases hnext : ClassifierPolicy.canonicalize policy with
    | error e => exact h
    | ok next =>
      dsimp only
      split_ifs
      · exact h
      · split
        · exact h
        · refine ⟨?_, by dsimp only⟩
          exact ClassifierPolicy.canonicalize_generation
            (ClassifierPolicy.canonicalize_canonical hnext) _

theorem holdsPolicy_run {c : Classifier} (h : HoldsPolicy c) (ops : List Operation) :
    HoldsPolicy (run step c ops) := by
  induction ops generalizing c with
  | nil => exact h
  | cons op rest ih => exact ih (holdsPolicy_step h op)

/-- What an update should do. -/
structure Installs (c : Classifier) (policy next : ClassifierPolicy) : Prop where
  content : SameContent (c.setPolicy policy).2.policy next
  accepted : (c.setPolicy policy).1 = .ok (c.setPolicy policy).2.policy.generation
  renumbered : ¬ SameContent next c.policy →
    (c.setPolicy policy).2.policy.generation = c.policy.generation + 1
  kept : SameContent next c.policy →
    (c.setPolicy policy).2.policy.generation = c.policy.generation

/-- An update does what it should exactly when, for an unchanged content, a generation has
been given out, and for a new content, none has, or the content in force or the new one
has a digest of its own. -/
theorem setPolicy_installs_iff (messages : Set Bytes) (hinj : Set.InjOn sha256 messages)
    (options : ClassifierOptions) (ops : List Operation) (policy next : ClassifierPolicy)
    (hnext : ClassifierPolicy.canonicalize policy = .ok next)
    (hcounter : (run step (.new options) ops).policy.generation ≠ 0xFFFFFFFFFFFFFFFF)
    (hinforce : (policyDigestChunks (run step (.new options) ops).policy).flatten ∈ messages)
    (hnew : (policyDigestChunks next).flatten ∈ messages)
    (hzero : ∀ m ∈ messages, sha256 m ≠ .zero) :
    let c := run step (.new options) ops
    Installs c policy next ↔
      (SameContent next c.policy → c.policy.generation ≠ 0) ∧
      (¬ SameContent next c.policy →
        c.policy.generation = 0 ∨ FitsDigest next ∨ FitsDigest c.policy) := by
  intro c
  have hc : HoldsPolicy c := holdsPolicy_run (holdsPolicy_new options) ops
  have hdigest := computePolicyDigest_eq_iff hinj
    (ClassifierPolicy.canonicalize_canonical hnext) hc.canonical hnew hinforce hzero
  rw [← hc.digest] at hdigest
  rcases setPolicy_cases hnext hcounter with
    ⟨hsame, hgeneration, hout⟩ | ⟨hdiffers, hok, hpolicy, -⟩
  · -- the digests agree and the policy in force stays
    have hcontent : Installs c policy next ↔ SameContent next c.policy := by
      constructor
      · intro h
        have hkept := h.content
        rw [hout] at hkept
        exact hkept.symm
      · intro h
        refine ⟨?_, ?_, fun hne => absurd h hne, fun _ => ?_⟩
        · rw [hout]
          exact h.symm
        · rw [hout]
        · rw [hout]
    rw [hcontent]
    constructor
    · intro h
      exact ⟨fun _ => hgeneration, fun hne => absurd h hne⟩
    · rintro ⟨-, hfits⟩
      rcases hdigest.mp hsame with h | ⟨hnextwide, hwide⟩
      · exact h
      · by_contra hne
        rcases hfits hne with hzero | hnextfits | hcfits
        · exact hgeneration hzero
        · exact hnextwide hnextfits
        · exact hwide hcfits
  · -- the new policy is installed under the next generation
    have hcontent : Installs c policy next ↔ ¬ SameContent next c.policy := by
      constructor
      · intro h hsame
        have hkept := h.kept hsame
        rw [hpolicy] at hkept
        have hnext : ∀ g : UInt64, g + 1 ≠ g := by simp
        exact absurd hkept (hnext c.policy.generation)
      · intro hne
        refine ⟨?_, ?_, fun _ => ?_, fun h => absurd h hne⟩
        · rw [hpolicy]
          rfl
        · rw [hok, hpolicy]
        · rw [hpolicy]
    rw [hcontent]
    constructor
    · intro hne
      refine ⟨fun h => absurd h hne, fun _ => ?_⟩
      by_contra hall
      push Not at hall
      obtain ⟨hgeneration, hnextwide, hwide⟩ := hall
      exact hdiffers ⟨hdigest.mpr (Or.inr ⟨hnextwide, hwide⟩), hgeneration⟩
    · rintro ⟨hgiven, -⟩ hsame
      exact hdiffers ⟨hdigest.mpr (Or.inl hsame), hgiven hsame⟩

theorem setPolicy_installs_iff_window :
    Installs (.new { policy := .initial }) { defaultFreshnessWindow := 1 }
      { defaultFreshnessWindow := 1 } := by
  let messages : List Bytes :=
    [(policyDigestChunks {}).flatten, (policyDigestChunks { defaultFreshnessWindow := 1 }).flatten]
  have hdistinct : (messages.map sha256).Nodup := by decide +kernel
  have hzero : ∀ m ∈ messages, sha256 m ≠ .zero := by decide +kernel
  refine (setPolicy_installs_iff { m | m ∈ messages }
    (fun _ hm _ hm' h => List.inj_on_of_nodup_map hdistinct hm hm' h) { policy := .initial } []
    { defaultFreshnessWindow := 1 } { defaultFreshnessWindow := 1 } rfl (by decide)
    List.mem_cons_self (List.mem_cons_of_mem _ List.mem_cons_self) hzero).mpr ⟨?_, ?_⟩
  · intro _
    decide
  · intro _
    exact Or.inr (Or.inl (by unfold FitsDigest; decide +kernel))

def wideName : Bytes := List.replicate 128 97

def widePolicy (window : UInt64) : ClassifierPolicy :=
  { generation := 1
    allowHeuristicEvidence := true
    defaultFreshnessWindow := window
    heuristicAdapters := [{ name := wideName }]
    portHints := (List.range 470).map fun i =>
      { transport := .tcp, port := UInt16.ofNat i, semantic := .checkpoint,
        adapter := wideName } }

theorem length_hintChunks {hints : List PortHint} (h : ∀ hint ∈ hints, hint.adapter = wideName) :
    (hints.flatMap Codec.encodeHint).flatten.length = 141 * hints.length := by
  induction hints with
  | nil => rfl
  | cons hint rest ih =>
    have hrest := ih fun x hx => h x (List.mem_cons_of_mem _ hx)
    rw [List.flatMap_cons, List.flatten_append, List.length_append, hrest, List.length_cons,
      Codec.encodeHint, h hint List.mem_cons_self]
    simp only [List.flatten_cons, List.flatten_nil, List.length_append, List.length_nil,
      length_u8Bytes, length_u16Bytes, length_u32Bytes, length_blobBytes, wideName,
      List.length_replicate]
    omega

theorem not_fitsDigest_widePolicy (window : UInt64) : ¬ FitsDigest (widePolicy window) := by
  have hhints := @length_hintChunks (widePolicy window).portHints (by
    intro hint hmem
    obtain ⟨i, -, rfl⟩ := List.mem_map.mp hmem
    rfl)
  have hcount : (widePolicy window).portHints.length = 470 := by
    rw [widePolicy, List.length_map, List.length_range]
  have hchunks : ∃ front, policyDigestChunks (widePolicy window) =
      front ++ (widePolicy window).portHints.flatMap Codec.encodeHint := ⟨_, rfl⟩
  obtain ⟨front, hfront⟩ := hchunks
  rw [FitsDigest, hfront, List.flatten_append, List.length_append, hhints, hcount, maxBlobBytes]
  omega

set_option maxRecDepth 1000000 in
theorem canonicalize_widePolicy :
    ClassifierPolicy.canonicalize (widePolicy 1) = .ok (widePolicy 1) ∧
      ClassifierPolicy.canonicalize (widePolicy 2) = .ok (widePolicy 2) := by
  decide +kernel

/-- Neither of two wide policies has a digest of its own, so one does not take the place of
the other. -/
theorem setPolicy_drops_wide :
    let c := new { policy := widePolicy 1 }
    ClassifierPolicy.canonicalize (widePolicy 2) = .ok (widePolicy 2) ∧
      c.policy.generation = 1 ∧ ¬ SameContent (widePolicy 2) c.policy ∧
      ¬ Installs c (widePolicy 2) (widePolicy 2) := by
  intro c
  have hcanonical := canonicalize_widePolicy.2
  have hpolicy : c.policy = widePolicy 1 := policy_new canonicalize_widePolicy.1
  have hdigest : computePolicyDigest (widePolicy 2) = c.policyDigest := by
    rw [(holdsPolicy_new _).digest, hpolicy, computePolicyDigest, computePolicyDigest,
      digestOfChunks_overflow (not_le.mp (not_fitsDigest_widePolicy 2)),
      digestOfChunks_overflow (not_le.mp (not_fitsDigest_widePolicy 1))]
  have hcontent : ¬ SameContent (widePolicy 2) (widePolicy 1) := by
    intro h
    have hwindow := congrArg ClassifierPolicy.defaultFreshnessWindow h
    exact absurd hwindow (by decide)
  refine ⟨hcanonical, by rw [hpolicy]; rfl, by rw [hpolicy]; exact hcontent, ?_⟩
  intro hinstalls
  have hkept := hinstalls.content
  rcases setPolicy_cases hcanonical (c := c) (by rw [hpolicy]; decide) with
    ⟨-, -, hout⟩ | ⟨hdiffers, -⟩
  · rw [hout, hpolicy] at hkept
    exact hcontent hkept.symm
  · exact hdiffers ⟨hdigest, by rw [hpolicy]; decide⟩

end FlowClassifier.Classifier
