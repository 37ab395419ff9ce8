import FlowClassifier.Codec.Records

/-!
What the record decoders do with what the record encoders write. Each decoder accepts a
written record exactly when the record is readable: its strings and collections are within
the limits, its required identities are present and its derived fields match. A readable
record is read back as it was.
-/
namespace FlowClassifier.Lib.Decodes

open Foundation Buffers

variable {β : Type} {b : Bytes} {q : Prop} {y : β}

theorem u64 {f : UInt64 → Reader β} {v : UInt64} (hf : (f v).Decodes b q y) :
    (getU64 >>= f).Decodes (u64Bytes v ++ b) q y :=
  .after (reads_getU64 v) hf

theorem u32 {f : UInt32 → Reader β} {v : UInt32} (hf : (f v).Decodes b q y) :
    (getU32 >>= f).Decodes (u32Bytes v ++ b) q y :=
  .after (reads_getU32 v) hf

theorem failIf {f : Unit → Reader β} {bad : Prop} [Decidable bad] {code : ErrorCode}
    {message : Bytes} (hf : (f ()).Decodes b q y) :
    (Buffers.failIf bad code message >>= f).Decodes b (¬ bad ∧ q) y :=
  .check (decodes_failIf code message) hf

end FlowClassifier.Lib.Decodes

namespace FlowClassifier.Codec

open Lib Foundation Buffers Evidence Flows Workloads Classifications Policies

variable {kind : IdKind}

variable {limits : CodecLimits}

def CodecLimits.Holds (limits : CodecLimits) (s : Bytes) : Prop :=
  s.length ≤ limits.maxStringBytes

def CodecLimits.Counts {α : Type} (limits : CodecLimits) (xs : List α) : Prop :=
  xs.length ≤ limits.maxCollectionCount

theorem decodes_getString (s : Bytes) :
    (getString limits).Decodes (blobBytes s) (limits.Holds s) s :=
  decodes_getBlob _ s

theorem decodes_skipVersion (version : UInt8) (what : Bytes) :
    (skipVersion version what).Decodes (u8Bytes version) True () := by
  unfold skipVersion
  rw [← List.append_nil (u8Bytes version)]
  exact .iff (.after (reads_getU8 version) (decodes_failIf _ _)) (by simp)

theorem decodes_identity (id : StringId kind) (required : Bool) (refusal : Bytes → Bytes) :
    (decodeIdentity limits kind required refusal).Decodes (blobBytes id.value)
      (limits.Holds id.value ∧ (required = true → id.isEmpty = false)) id := by
  unfold decodeIdentity
  rw [← List.append_nil (blobBytes id.value)]
  refine .iff (.bind (decodes_getString id.value) (.failIf (.ret id.make_self))) ?_
  rcases id.canonical with hnil | hcan
  · cases required <;> simp [StringId.isEmpty, hnil, isCanonicalIdentity]
  · have hne : id.value.isEmpty = false := by
      simp only [isCanonicalIdentity, Bool.and_eq_true] at hcan
      simpa using hcan.1.1
    simp [StringId.isEmpty, hcan, hne]

/-- An identity that must be there. -/
theorem decodes_required (id : StringId kind) (refusal : Bytes → Bytes) :
    (decodeIdentity limits kind true refusal).Decodes (blobBytes id.value)
      (limits.Holds id.value ∧ id.isEmpty = false) id :=
  (decodes_identity id true refusal).iff (by simp)

/-- An identity that may be empty. -/
theorem decodes_optional (id : StringId kind) (refusal : Bytes → Bytes) :
    (decodeIdentity limits kind false refusal).Decodes (blobBytes id.value)
      (limits.Holds id.value) id :=
  (decodes_identity id false refusal).iff (by simp)

theorem StringId.isCanonicalIdentity_iff (id : StringId kind) :
    isCanonicalIdentity id.value = true ↔ id.isEmpty = false := by
  refine ⟨fun h => ?_, StringId.canonical_of_nonempty⟩
  simp only [isCanonicalIdentity, Bool.and_eq_true] at h
  simpa [StringId.isEmpty] using h.1.1

theorem decodes_evidencePair (left right : EvidenceId) (refusal : Bytes) :
    (decodeEvidencePair limits refusal).Decodes (blobBytes left.value ++ blobBytes right.value)
      (limits.Holds left.value ∧ limits.Holds right.value ∧ left.isEmpty = false ∧
        right.isEmpty = false) (left, right) := by
  unfold decodeEvidencePair
  rw [← List.append_nil (blobBytes right.value)]
  refine .iff (.bind (decodes_getString left.value) (.bind (decodes_getString right.value)
    (.failIf (.ret ?_)))) ?_
  · rw [StringId.make_self, StringId.make_self]
  · simp only [Bool.or_eq_true, Bool.not_eq_true', not_or, Bool.not_eq_false,
      StringId.isCanonicalIdentity_iff, and_true]

theorem reads_semantic (c : SemanticClass) : Reads decodeSemantic (u16Bytes c.code) c := by
  have h := (reads_getU16 c.code).map SemanticClass.decode
  rwa [SemanticClass.decode_code] at h

theorem reads_source (s : EvidenceSource) : Reads decodeSource (u8Bytes s.code) s := by
  have h := (reads_getU8 s.code).map EvidenceSource.decode
  rwa [EvidenceSource.decode_code] at h

theorem reads_transport (t : TransportProtocol) : Reads decodeTransport (u8Bytes t.code) t := by
  have h := (reads_getU8 t.code).map TransportProtocol.decode
  rwa [TransportProtocol.decode_code] at h

theorem reads_state (s : EvidenceState) : Reads decodeState (u8Bytes s.code) s := by
  have h := (reads_getU8 s.code).map evidenceStateOf
  have hs : evidenceStateOf s.code = s := by cases s <;> rfl
  rwa [hs] at h

theorem reads_classificationState (s : ClassificationState) :
    Reads decodeClassificationState (u8Bytes s.code) s := by
  have h := (reads_getU8 s.code).map classificationStateOf
  have hs : classificationStateOf s.code = s := by cases s <;> rfl
  rwa [hs] at h

theorem reads_disposition (d : EvidenceDisposition) :
    Reads decodeDisposition (u8Bytes d.code) d := by
  have h := (reads_getU8 d.code).map dispositionOf
  have hd : dispositionOf d.code = d := by cases d <;> rfl
  rwa [hd] at h

theorem decodes_workloadState (s : WorkloadState) :
    decodeWorkloadState.Decodes (u8Bytes s.code) True s := by
  unfold decodeWorkloadState decodeLifecycle
  rw [← List.append_nil (u8Bytes s.code)]
  refine .iff (.after (reads_getU8 s.code) (.failIf (.ret ?_))) ?_
  · cases s <;> rfl
  · cases s <;> decide

theorem decodes_contractState (s : ContractState) :
    decodeContractState.Decodes (u8Bytes s.code) True s := by
  unfold decodeContractState decodeLifecycle
  rw [← List.append_nil (u8Bytes s.code)]
  refine .iff (.after (reads_getU8 s.code) (.failIf (.ret ?_))) ?_
  · cases s <;> rfl
  · cases s <;> decide

theorem fixed?_toList {size : ℕ} (v : List.Vector UInt8 size) : fixed? size v.toList = some v := by
  rw [fixed?, dif_pos v.toList_length]
  rfl

theorem decodes_fixed {size : ℕ} (v : List.Vector UInt8 size) (refusal : ℕ → Bytes) :
    (decodeFixed size refusal).Decodes (blobBytes v.toList) True v := by
  unfold decodeFixed
  rw [← List.append_nil (blobBytes v.toList)]
  refine .iff (.bind (decodes_getBlob size v.toList) (q := True) ?_) (by simp)
  rw [fixed?_toList]
  exact .ret rfl

theorem decodes_address (a : IpAddress) (refusal : ℕ → Bytes) :
    (decodeAddress refusal).Decodes (blobBytes a.bytes.toList) True a :=
  (decodes_fixed a.bytes refusal).map

theorem decodes_digest (d : Digest256) : decodeDigest.Decodes (encodeDigest d) True d :=
  (decodes_fixed d.bytes _).map

theorem decodes_confidence (c : Confidence) :
    decodeConfidence.Decodes (encodeConfidence c) True c := by
  have hnat : (UInt32.ofNat c.basisPoints).toNat = c.basisPoints := by
    have := c.bounded
    exact toNat_of_lt_wireBound (by unfold wireBound; omega)
  unfold decodeConfidence encodeConfidence
  rw [← List.append_nil (u32Bytes _)]
  refine .iff (.u32 (.failIf (.ret ?_))) ?_
  · rw [hnat]
    exact Confidence.ext_basisPoints (Nat.min_eq_left c.bounded)
  · rw [hnat, and_true, iff_true, not_lt]
    exact c.bounded

theorem decodes_id128 (id : Id128) : decodeId128.Decodes (encodeId128 id).flatten True id := by
  simp only [encodeId128, List.flatten_cons, List.flatten_nil]
  exact .u64 (.u64 (.ret rfl))

theorem decodes_flowKey (key : FlowKey) :
    decodeFlowKey.Decodes (encodeFlowKey key).flatten True key := by
  simp only [encodeFlowKey, List.flatten_cons, List.flatten_nil]
  exact .after (reads_transport _) (.sure (decodes_address _ _)
    (.sure (decodes_address _ _) (.after (reads_getU16 _)
      (.after (reads_getU16 _) (.ret rfl)))))

theorem blobBytes_ne_nil (data : Bytes) : blobBytes data ≠ [] :=
  List.ne_nil_of_length_pos (by rw [length_blobBytes]; omega)

theorem u16Bytes_ne_nil (v : UInt16) : u16Bytes v ≠ [] :=
  List.ne_nil_of_length_pos (by rw [length_u16Bytes]; omega)

theorem u32Bytes_ne_nil (v : UInt32) : u32Bytes v ≠ [] :=
  List.ne_nil_of_length_pos (by rw [length_u32Bytes]; omega)

theorem flatten_flatMap_chunks {α : Type} (g : α → List Bytes) (xs : List α) :
    (xs.flatMap g).flatten = xs.flatMap fun x => (g x).flatten := by
  induction xs with
  | nil => rfl
  | cons x xs ih => rw [List.flatMap_cons, List.flatten_append, ih, List.flatMap_cons]

theorem length_le_flatMap {α : Type} {g : α → Bytes} {xs : List α} (h : ∀ x ∈ xs, g x ≠ []) :
    xs.length ≤ (xs.flatMap g).length := by
  induction xs with
  | nil => simp
  | cons x xs ih =>
    have hx := List.length_pos_iff.mpr (h x (by simp))
    have htail := ih fun y hy => h y (by simp [hy])
    simp only [List.flatMap_cons, List.length_append, List.length_cons]
    omega

/-- A count and as many records, before the rest. -/
theorem decodes_collection {α β : Type} {r : Reader α} {g : α → Bytes} {p : α → Prop}
    {q : Prop} {xs : List α} {f : List α → Reader β} {rest : Bytes} {y : β} {maxCount : ℕ}
    (hsize : ∀ x ∈ xs, g x ≠ []) (h : ∀ x ∈ xs, r.Decodes (g x) (p x) x)
    (hf : (f xs).Decodes rest q y) :
    (do let n ← getCount maxCount; let xs ← r.many n; f xs).Decodes
      (countBytes xs.length ++ (xs.flatMap g ++ rest))
      (xs.length ≤ maxCount ∧ (∀ x ∈ xs, p x) ∧ q) y := by
  intro tail hlen
  have hn : xs.length < wireBound := by
    have := length_le_flatMap hsize
    simp only [List.length_append] at hlen
    omega
  exact Decodes.bind (decodes_getCount maxCount xs.length hn)
    (.bind (.many h) hf) tail hlen

/-- A step that looks at how much is left, and does the same whatever comes after. -/
theorem decodes_remaining {α : Type} {f : ℕ → Reader α} {bs : Bytes} {q : Prop} {y : α}
    (h : ∀ left, bs.length ≤ left → (f left).Decodes bs q y) :
    (remaining >>= f).Decodes bs q y := by
  intro rest hlen
  have hleft : bs.length ≤ (bs ++ rest).length := by
    rw [List.length_append]
    omega
  exact h _ hleft rest hlen

def publisherReadable (limits : CodecLimits) (r : PublisherRecord) : Prop :=
  limits.Holds r.id.value ∧ limits.Holds r.description ∧ r.id.isEmpty = false

theorem decodes_publisherRecord (r : PublisherRecord) :
    (decodePublisherRecord limits).Decodes (encodePublisherRecord r).flatten
      (publisherReadable limits r) r := by
  simp only [encodePublisherRecord, List.flatten_cons, List.flatten_nil]
  refine .iff (.sure (decodes_skipVersion _ _) (.bind (decodes_required r.id _) (.u64 (.u64
    (.after (reads_source _) (.u64 (.u64 (.u64 (.bind (decodes_getString _) (.ret rfl)))))))))) ?_
  unfold publisherReadable
  tauto

def workloadReadable (limits : CodecLimits) (r : WorkloadRecord) : Prop :=
  limits.Holds r.id.value ∧ limits.Holds r.owner.value ∧ limits.Holds r.activeContract.value ∧
    limits.Holds r.description ∧ r.owner.isEmpty = false ∧ r.generation ≠ 0

theorem decodes_workloadRecord (r : WorkloadRecord) :
    (decodeWorkloadRecord limits).Decodes (encodeWorkloadRecord r).flatten
      (workloadReadable limits r) r := by
  simp only [encodeWorkloadRecord, List.flatten_cons, List.flatten_nil]
  refine .iff (.sure (decodes_skipVersion _ _) (.bind (decodes_optional r.id _)
    (.bind (decodes_required r.owner _) (.u64 (.failIf (.sure (decodes_workloadState _)
    (.bind (decodes_optional r.activeContract _) (.u64 (.u64 (.u64 (.bind (decodes_getString _)
    (.ret rfl)))))))))))) ?_
  unfold workloadReadable
  tauto

def flowReadable (limits : CodecLimits) (r : FlowRecord) : Prop :=
  limits.Holds r.registeredBy.value ∧ deriveFlowId r.key = r.id ∧ r.generation ≠ 0

theorem decodes_flowRecord (r : FlowRecord) :
    (decodeFlowRecord limits).Decodes (encodeFlowRecord r).flatten (flowReadable limits r) r := by
  simp only [encodeFlowRecord, List.flatten_append, List.flatten_cons, List.flatten_nil,
    List.append_assoc, List.nil_append]
  refine .iff (.sure (decodes_skipVersion _ _) (.sure (decodes_id128 _) (.sure (decodes_flowKey _)
    (.u64 (.u64 (.u64 (.u64 (.bind (decodes_optional r.registeredBy _) (.u64 (.failIf (.failIf
    (.ret rfl)))))))))))) ?_
  unfold flowReadable
  tauto

def evidenceStrings (r : EvidenceRecord) : List Bytes :=
  [r.id.value, r.publisher.value, r.session.value, r.workload.value, r.contract.value,
   r.metadata.topic, r.metadata.reason, r.metadata.contract.value, r.stateReason]

def evidenceReadable (limits : CodecLimits) (r : EvidenceRecord) : Prop :=
  (∀ s ∈ evidenceStrings r, limits.Holds s) ∧ r.id.isEmpty = false ∧
    r.publisher.isEmpty = false ∧ computeEvidenceDigest r = r.contentDigest

theorem decodes_evidenceRecord (r : EvidenceRecord) :
    (decodeEvidenceRecord limits).Decodes (encodeEvidenceRecord r).flatten
      (evidenceReadable limits r) r := by
  simp only [encodeEvidenceRecord, List.flatten_append, List.flatten_cons, List.flatten_nil,
    List.append_assoc, List.nil_append]
  refine .iff (.sure (decodes_skipVersion _ _) (.bind (decodes_required r.id _)
    (.bind (decodes_required r.publisher _) (.u64 (.bind (decodes_optional r.session _) (.u64 (.u64
    (.bind (decodes_optional r.workload _) (.u64 (.bind (decodes_optional r.contract _)
    (.sure (decodes_id128 _) (.u64 (.u64 (.u64 (.u64 (.u64 (.after (reads_semantic _)
    (.after (reads_source _) (.after (reads_state _) (.sure (decodes_confidence _)
    (.bind (decodes_getString _) (.u64 (.bind (decodes_getString _)
    (.bind (decodes_optional r.metadata.contract _) (.sure (decodes_digest _)
    (.bind (decodes_getString _) (.failIf (.ret rfl)))))))))))))))))))))))))))) ?_
  simp only [evidenceReadable, evidenceStrings, List.forall_mem_cons, not_not]
  simp only [List.not_mem_nil, false_imp_iff, implies_true]
  tauto

def contractReadable (limits : CodecLimits) (c : WorkloadContract) : Prop :=
  (∀ s ∈ [c.id.value, c.workload.value, c.owner.value, c.description], limits.Holds s) ∧
    limits.Counts c.remoteScope ∧ limits.Counts c.localPortScope ∧ c.owner.isEmpty = false

/-- A contract is read with the digest of its content. It may come without one; one that it
comes with has to be that of its content. -/
theorem decodes_contract_filled (c : WorkloadContract) :
    (decodeContract limits).Decodes (encodeContract c).flatten (contractReadable limits c ∧
        (c.definitionDigest = .zero ∨ computeContractDigest c = c.definitionDigest))
      { c with definitionDigest := computeContractDigest c } := by
  simp only [encodeContract, List.flatten_append, List.flatten_cons, List.flatten_nil,
    List.append_assoc, List.nil_append, ← List.flatMap_def]
  refine .iff (.sure (decodes_skipVersion _ _) (.bind (decodes_optional c.id _)
    (.bind (decodes_optional c.workload _) (.u64 (.bind (decodes_required c.owner _)
    (.sure (decodes_contractState _) (.after (reads_semantic _) (.after (reads_getBool _)
    (decodes_collection (fun a _ => blobBytes_ne_nil _) (fun a _ => decodes_address a _)
    (decodes_collection (fun v _ => u16Bytes_ne_nil v) (fun v _ => (reads_getU16 v).decodes _)
    (.after (reads_getU16 _) (.after (reads_transport _) (.after (reads_source _)
    (.sure (decodes_digest _) (.u64 (.u64 (.u64 (.bind (decodes_getString _) (.failIf
    (.ret rfl)))))))))))))))))))) ?_
  simp only [contractReadable, CodecLimits.Counts, List.forall_mem_cons]
  simp only [List.not_mem_nil, false_imp_iff, implies_true]
  tauto

/-- A contract with the digest of its own content is read back as it was. -/
theorem decodes_contract {c : WorkloadContract}
    (hdigest : computeContractDigest c = c.definitionDigest) :
    (decodeContract limits).Decodes (encodeContract c).flatten (contractReadable limits c) c := by
  have h : (decodeContract limits).Decodes (encodeContract c).flatten (contractReadable limits c)
      { c with definitionDigest := computeContractDigest c } :=
    (decodes_contract_filled c).iff (and_iff_left (Or.inr hdigest))
  rwa [hdigest] at h

def citationReadable (limits : CodecLimits) (c : EvidenceCitation) : Prop :=
  limits.Holds c.id.value ∧ limits.Holds c.publisher.value ∧ limits.Holds c.detail ∧
    c.id.isEmpty = false ∧ c.publisher.isEmpty = false

theorem decodes_citation (c : EvidenceCitation) :
    (decodeCitation limits).Decodes (encodeCitation c).flatten (citationReadable limits c) c := by
  simp only [encodeCitation, List.flatten_cons, List.flatten_nil]
  refine .iff (.bind (decodes_required c.id _) (.bind (decodes_required c.publisher _)
    (.after (reads_source _) (.after (reads_state _) (.after (reads_semantic _)
    (.after (reads_disposition _) (.sure (decodes_confidence _) (.u64 (.u64 (.u64 (.u64
    (.bind (decodes_getString _) (.ret rfl))))))))))))) ?_
  unfold citationReadable
  tauto

def contradictionReadable (limits : CodecLimits) (c : ClassificationContradiction) : Prop :=
  limits.Holds c.leftId.value ∧ limits.Holds c.rightId.value ∧ limits.Holds c.resolvedBy ∧
    c.leftId.isEmpty = false ∧ c.rightId.isEmpty = false

theorem decodes_contradiction (c : ClassificationContradiction) :
    (decodeContradiction limits).Decodes (encodeContradiction c).flatten
      (contradictionReadable limits c) c := by
  simp only [encodeContradiction, List.flatten_cons, List.flatten_nil]
  rw [← List.append_assoc]
  refine .iff (.bind (decodes_evidencePair c.leftId c.rightId _) (.after (reads_semantic _)
    (.after (reads_source _) (.after (reads_semantic _) (.after (reads_source _)
    (.bind (decodes_getString _) (.ret rfl))))))) ?_
  unfold contradictionReadable
  tauto

def classificationReadable (limits : CodecLimits) (c : Classification) : Prop :=
  limits.Holds c.selectedEvidence.value ∧
    limits.Counts c.citations ∧ (∀ citation ∈ c.citations, citationReadable limits citation) ∧
    limits.Counts c.contradictions ∧
    ∀ contradiction ∈ c.contradictions, contradictionReadable limits contradiction

theorem decodes_classification {c : Classification} (hcount : c.corroborationCount < wireBound) :
    (decodeClassification limits).Decodes (encodeClassification c).flatten
      (classificationReadable limits c) c := by
  simp only [encodeClassification, List.flatten_append, List.flatten_cons,
    List.flatten_nil, List.append_assoc, List.nil_append, flatten_flatMap_chunks]
  rw [← List.append_nil (c.contradictions.flatMap _)]
  refine .iff (.sure (decodes_skipVersion _ _) (.sure (decodes_id128 _) (.u64
    (.after (reads_semantic _) (.after (reads_classificationState _) (.sure (decodes_confidence _)
    (.bind (decodes_optional c.selectedEvidence _) (.after (reads_source _) (.u32 (.u32 (.u64
    (.sure (decodes_digest _) (.u64 (.u64 (.u64 (.sure (decodes_digest _)
    (decodes_collection (fun x _ => by simp [encodeCitation, blobBytes_ne_nil])
      (fun x _ => decodes_citation x)
    (decodes_collection (fun x _ => by simp [encodeContradiction, blobBytes_ne_nil])
      (fun x _ => decodes_contradiction x)
    (.ret (by rw [toNat_of_lt_wireBound hcount])))))))))))))))))))) ?_
  unfold classificationReadable CodecLimits.Counts
  tauto

def revocationReadable (limits : CodecLimits) (r : RevocationRecord) : Prop :=
  (∀ s ∈ [r.evidenceId.value, r.revokedBySession.value, r.revokedByPublisher.value, r.reason],
    limits.Holds s) ∧ r.revokedByPublisher.isEmpty = false

theorem decodes_revocation (r : RevocationRecord) :
    (decodeRevocation limits).Decodes (encodeRevocation r).flatten
      (revocationReadable limits r) r := by
  simp only [encodeRevocation, List.flatten_append, List.flatten_cons, List.flatten_nil,
    List.append_assoc, List.nil_append]
  refine .iff (.sure (decodes_skipVersion _ _) (.sure (decodes_id128 _) (.u64
    (.bind (decodes_optional r.evidenceId _) (.bind (decodes_optional r.revokedBySession _)
    (.bind (decodes_required r.revokedByPublisher _) (.u64 (.u64 (.u64 (.bind (decodes_getString _)
    (.ret rfl))))))))))) ?_
  simp only [revocationReadable, List.forall_mem_cons]
  simp only [List.not_mem_nil, false_imp_iff, implies_true]
  tauto

def supersessionReadable (limits : CodecLimits) (r : SupersessionRecord) : Prop :=
  limits.Holds r.previousId.value ∧ limits.Holds r.replacementId.value ∧
    limits.Holds r.publisher.value ∧ r.previousId.isEmpty = false ∧
    r.replacementId.isEmpty = false ∧ r.publisher.isEmpty = false

theorem decodes_supersession (r : SupersessionRecord) :
    (decodeSupersession limits).Decodes (encodeSupersession r).flatten
      (supersessionReadable limits r) r := by
  simp only [encodeSupersession, List.flatten_cons, List.flatten_nil]
  rw [← List.append_assoc (blobBytes r.previousId.value)]
  refine .iff (.sure (decodes_skipVersion _ _)
    (.bind (decodes_evidencePair r.previousId r.replacementId _) (.u64 (.u64
    (.bind (decodes_required r.publisher _) (.u64 (.u64 (.ret rfl)))))))) ?_
  unfold supersessionReadable
  tauto

theorem limitsOfFields_limitFields (l : ResourceLimits) : limitsOfFields (limitFields l) = l := by
  simp [limitsOfFields, limitFields]

theorem firstWide_limitFields (l : ResourceLimits) : firstWide (limitFields l) = none := by
  have hfits : ∀ v : UInt32, v.toUInt64 ≤ 0xFFFFFFFF := fun v => by
    have := v.toNat_lt
    rw [UInt64.le_iff_toNat_le, UInt32.toNat_toUInt64]
    change v.toNat ≤ 4294967295
    omega
  simp [firstWide, limitFields, hfits]

def policyReadable (limits : CodecLimits) (p : ClassifierPolicy) : Prop :=
  limits.Counts p.heuristicAdapters ∧ (∀ a ∈ p.heuristicAdapters, limits.Holds a.name) ∧
    limits.Counts p.portHints ∧ ∀ h ∈ p.portHints, limits.Holds h.adapter

theorem decodes_adapter (a : HeuristicAdapterPolicy) :
    (decodeAdapter limits).Decodes (encodeAdapter a).flatten (limits.Holds a.name) a := by
  simp only [encodeAdapter, List.flatten_cons, List.flatten_nil]
  exact .iff (.bind (decodes_getString _) (.after (reads_getBool _) (.u32 (.u32
    (.ret rfl))))) (by simp)

theorem decodes_hint (h : PortHint) :
    (decodeHint limits).Decodes (encodeHint h).flatten (limits.Holds h.adapter) h := by
  simp only [encodeHint, List.flatten_cons, List.flatten_nil]
  exact .iff (.after (reads_transport _) (.after (reads_getU16 _) (.after (reads_semantic _) (.u32
    (.bind (decodes_getString _) (.ret rfl)))))) (by simp)

/-- A policy in canonical form. -/
theorem decodes_policy {p : ClassifierPolicy} (hp : ClassifierPolicy.canonicalize p = .ok p) :
    (decodePolicy limits).Decodes (encodePolicy p).flatten (policyReadable limits p) p := by
  have hfields : Reads (getU64.many 26) ((limitFields p.limits).map u64Bytes).flatten
      (limitFields p.limits) := by
    have h := Reads.many (limitFields p.limits) fun v _ => reads_getU64 v
    rwa [List.flatMap_def] at h
  have hlast : (decodedPolicy p).Decodes [] True p := by
    unfold decodedPolicy
    rw [hp]
    exact .ret rfl
  simp only [encodePolicy, List.flatten_append, List.flatten_cons, List.flatten_nil,
    List.append_assoc, List.nil_append, flatten_flatMap_chunks]
  rw [← List.append_nil (p.portHints.flatMap _)]
  refine .iff (.sure (decodes_skipVersion _ _) (.u64 (.after (reads_getBool _) (.u64 (.u32 (.u32
    (.u32 (.after hfields (.failIf
    (decodes_collection (fun a _ => by simp [encodeAdapter, blobBytes_ne_nil])
      (fun a _ => decodes_adapter a)
    (decodes_collection (fun h _ => by simp [encodeHint, blobBytes_ne_nil])
      (fun h _ => decodes_hint h)
    (q := True) ?_))))))))))) ?_
  · rw [limitsOfFields_limitFields]
    exact hlast
  · simp only [policyReadable, CodecLimits.Counts, firstWide_limitFields]
    simp only [Option.isSome_none, Bool.false_eq_true, not_false_eq_true, true_and, and_true]

end FlowClassifier.Codec
