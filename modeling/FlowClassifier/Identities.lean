import FlowClassifier.Classifier
import FlowClassifier.DecisionSpec

/-!
Identities that are digests. Evidence identities, derived identities, flow identities and
the digests a decision is remembered under are all truncated or full SHA-256 values. What
a run needs from them is that no two of the messages it hashes collide; a `HashScope` is a
set of messages and keys for which that is so.
-/
namespace FlowClassifier

open Lib Foundation Buffers Hash Evidence Flows Workloads Engine DecisionSpec

/-- Messages and flow keys without collisions among their digests. -/
structure HashScope where
  messages : Set Bytes
  keys : Set FlowKey
  noCollision : Set.InjOn (fun m => (sha256 m).bytes.toList.take 16) messages
  noFlowCollision : Set.InjOn deriveFlowId keys

def HashScope.ofLists (messages : List Bytes) (keys : List FlowKey)
    (hmessages : (messages.map fun m => (sha256 m).bytes.toList.take 16).Nodup)
    (hkeys : (keys.map deriveFlowId).Nodup) : HashScope where
  messages := { m | m ∈ messages }
  keys := { k | k ∈ keys }
  noCollision := fun _ hm _ hm' h => List.inj_on_of_nodup_map hmessages hm hm' h
  noFlowCollision := fun _ hk _ hk' h => List.inj_on_of_nodup_map hkeys hk hk' h

theorem HashScope.sha256_injOn (scope : HashScope) : Set.InjOn sha256 scope.messages := by
  intro m hm m' hm' h
  exact scope.noCollision hm hm' (by simp only [h])

/-- Encodings within the bound are determined by their digest. -/
theorem digestOfChunks_injOn {messages : Set Bytes} (hinj : Set.InjOn sha256 messages)
    {a b : List Bytes} (ha : a.flatten ∈ messages) (hb : b.flatten ∈ messages)
    (hafits : a.flatten.length ≤ maxBlobBytes) (hbfits : b.flatten.length ≤ maxBlobBytes)
    (h : digestOfChunks a = digestOfChunks b) : a.flatten = b.flatten := by
  rw [digestOfChunks_fits hafits, digestOfChunks_fits hbfits] at h
  exact hinj ha hb h

theorem digestOfChunks_overflow {chunks : List Bytes}
    (h : maxBlobBytes < chunks.flatten.length) : digestOfChunks chunks = .zero := by
  obtain ⟨e, he⟩ := writeChunks_overflow ensureFailure chunks [] (Nat.zero_le _)
    (show maxBlobBytes < _ by simpa using h)
  rw [digestOfChunks, encode, he]

namespace Classifier

theorem mintEvidenceId_value (material : Bytes) :
    (mintEvidenceId material).value = digestIdText (text "ev-") (sha256 material) :=
  StringId.make_value (digestIdText_canonical (by decide) (by decide) _)

theorem mintEvidenceId_injOn {scope : HashScope} {m m' : Bytes} (hm : m ∈ scope.messages)
    (hm' : m' ∈ scope.messages) (h : mintEvidenceId m = mintEvidenceId m') : m = m' := by
  have hvalue := congrArg StringId.value h
  simp only [mintEvidenceId_value, digestIdText, List.append_cancel_left_eq] at hvalue
  exact scope.noCollision hm hm' (hexText_injective hvalue)

/-- A derived record never has the identity of a submitted one. -/
theorem contractEvidenceId_ne_minted (k : WorkloadContract) (flow : FlowRecord)
    (material : Bytes) : contractEvidenceId k flow ≠ mintEvidenceId material := by
  intro h
  have hvalue := congrArg StringId.value h
  rw [contractEvidenceId_value, mintEvidenceId_value, digestIdText, digestIdText] at hvalue
  have hctr : text "ctr-" = [99, 116, 114, 45] := by decide
  have hev : text "ev-" = [101, 118, 45] := by decide
  rw [hctr, hev] at hvalue
  simp at hvalue

/-- The material of an identity determines the incarnation and the generation. The topic
may contain the separator, so the text is read from both ends. -/
theorem evidenceMaterial_injective {p q : PublisherId} {b d : PublisherBootId}
    {topic topic' : Bytes} {g g' : EvidenceGeneration} {f f' : FlowId} {n n' : FlowGeneration}
    (h : evidenceMaterial p b topic g f n = evidenceMaterial q d topic' g' f' n') :
    p = q ∧ b = d ∧ g = g' := by
  have hbar : text "|" = [124] := by decide
  have hdigits : ∀ v : UInt64, ∀ x ∈ render v, isDigitByte x = true := fun v =>
    isDigitByte_decimal v.toNat
  have hhex : ∀ id : FlowId, ∀ x ∈ id.toHex, ∃ k < 16, x = hexDigit k := fun id x hx =>
    mem_hexText hx
  have hnothex : ¬ ∃ k < 16, (124 : UInt8) = hexDigit k := by decide
  simp only [evidenceMaterial, hbar, List.append_assoc, List.singleton_append] at h
  obtain ⟨hp, -, h⟩ := split_at_separator (P := fun x => isIdentityByte x = true)
    (fun x hx => p.isIdentityByte_of_mem hx) (fun x hx => q.isIdentityByte_of_mem hx)
    (by decide) (by decide) h
  obtain ⟨hb, -, h⟩ := split_at_separator (P := fun x => isDigitByte x = true)
    (hdigits b) (hdigits d) (by decide) (by decide) h
  -- the rest is read from its end: flow generation, flow identity, generation
  have hlast : (topic ++ 124 :: render g ++ 124 :: f.toHex) ++ 124 :: render n =
      (topic' ++ 124 :: render g' ++ 124 :: f'.toHex) ++ 124 :: render n' := by
    simpa using h
  obtain ⟨h, -, -⟩ := split_at_last_separator (P := fun x => isDigitByte x = true)
    (hdigits n) (hdigits n') (by decide) (by decide) hlast
  obtain ⟨h, -, -⟩ := split_at_last_separator (hhex f) (hhex f') hnothex hnothex h
  obtain ⟨-, -, hg⟩ := split_at_last_separator (P := fun x => isDigitByte x = true)
    (hdigits g) (hdigits g') (by decide) (by decide) h
  exact ⟨StringId.ext_value hp, UInt64.toNat_inj.mp (decimal_injective hb),
    UInt64.toNat_inj.mp (decimal_injective hg)⟩

/-- The encoding of a record determines its identity. -/
theorem evidenceDigestChunks_id {r r' : EvidenceRecord}
    (h : (evidenceDigestChunks r).flatten = (evidenceDigestChunks r').flatten) : r.id = r'.id := by
  have hr : r.id.value.length ≤ 128 := r.id.length_le
  have hr' : r'.id.value.length ≤ 128 := r'.id.length_le
  simp only [evidenceDigestChunks, List.flatten_cons, List.append_cancel_left_eq] at h
  exact StringId.ext_value (blobBytes_cancel (by omega) (by omega) h).1

theorem contractDigestChunks_id {k k' : WorkloadContract}
    (h : (contractDigestChunks k).flatten = (contractDigestChunks k').flatten) : k.id = k'.id := by
  have hk : k.id.value.length ≤ 128 := k.id.length_le
  have hk' : k'.id.value.length ≤ 128 := k'.id.length_le
  simp only [contractDigestChunks, List.cons_append, List.flatten_cons,
    List.append_cancel_left_eq] at h
  exact StringId.ext_value (blobBytes_cancel (by omega) (by omega) h).1

end Classifier
end FlowClassifier
