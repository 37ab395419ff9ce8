import FlowClassifier.Answers
import FlowClassifier.Restart

/-!
The states a classifier reaches while everything it digests fits the encoder. A step may
hash messages; the scope names messages and keys without collisions, and a run stays in
it. Every state reached this way, over any number of restarts, is consistent.
-/
namespace FlowClassifier

open Lib Foundation Buffers Evidence Flows Workloads Engine DecisionSpec

namespace Classifier

variable {c : Classifier} {scope : HashScope}

def recordBytes (envelope : SessionEnvelope) (payload : EvidencePayload) : ℕ :=
  135 + envelope.publisher.value.length + payload.workload.value.length +
    2 * payload.contract.value.length + payload.metadata.topic.length +
    payload.metadata.reason.length

def contractBytes (k : WorkloadContract) : ℕ :=
  40 + k.id.value.length + k.workload.value.length + k.owner.value.length +
    20 * k.remoteScope.length + 2 * k.localPortScope.length + k.description.length

/-- The bytes a decision about a flow encodes for the key of its memo entry. -/
def decisionBytes (c : Classifier) (flow : FlowId) : ℕ :=
  74 + 45 * (c.evidence.recordsForFlow flow).length + 37 * c.workloads.activeContracts.length

theorem length_digest (d : Digest256) : d.bytes.toList.length = 32 := List.Vector.toList_length _

theorem length_mintEvidenceId (material : Bytes) : (mintEvidenceId material).value.length = 35 := by
  have htag : (text "ev-").length = 3 := by decide
  rw [mintEvidenceId_value, digestIdText, List.length_append, length_hexText, List.length_take,
    length_digest, htag]
  rfl

theorem length_evidenceDigestChunks (r : EvidenceRecord) : (evidenceDigestChunks r).flatten.length =
      100 + r.id.value.length + r.publisher.value.length + r.workload.value.length +
        r.contract.value.length + r.metadata.topic.length + r.metadata.reason.length +
        r.metadata.contract.value.length := by
  simp only [evidenceDigestChunks, List.flatten_cons, List.flatten_nil, List.length_append,
    length_blobBytes, length_u64Bytes, length_u32Bytes, length_u16Bytes, length_u8Bytes,
    List.length_nil]
  omega

/-- The record handed to the store is built from the submission. -/
theorem admitted_eq_buildRecord {envelope : SessionEnvelope}
    {payload : EvidencePayload} {tick : Tick} {r : EvidenceRecord}
    (h : c.admitted envelope payload tick = some r) :
    ∃ (c₁ : Classifier) (effective : EvidenceSource) (flow : FlowRecord) (seq : Seq),
      r = c₁.buildRecord envelope payload effective flow seq tick := by
  unfold admitted admitEvidence at h
  split at h
  · cases h
  split at h
  · cases h
  split at h
  · cases h
  dsimp only at h
  split at h
  · cases h
  · cases h
    exact ⟨_, _, _, _, rfl⟩

theorem buildRecord_digest (c : Classifier) (envelope : SessionEnvelope)
    (payload : EvidencePayload) (effective : EvidenceSource) (flow : FlowRecord) (seq : Seq)
    (tick : Tick) : (c.buildRecord envelope payload effective flow seq tick).contentDigest =
      computeEvidenceDigest (c.buildRecord envelope payload effective flow seq tick) := by
  -- the digest does not cover the field it is stored in
  have hcovers : ∀ (r : EvidenceRecord) (d : Digest256),
      computeEvidenceDigest { r with contentDigest := d } = computeEvidenceDigest r :=
    fun _ _ => rfl
  unfold buildRecord
  extract_lets window metadata record
  clear_value record
  exact (hcovers record _).symm

/-- An admitted record carries the identity and the digest that its submission determines. -/
theorem recorded_of_admitted {envelope : SessionEnvelope}
    {payload : EvidencePayload} {tick : Tick} {r : EvidenceRecord}
    (h : c.admitted envelope payload tick = some r)
    (hfits : recordBytes envelope payload ≤ maxBlobBytes)
    (hmaterial : materialOf r ∈ scope.messages)
    (hencoding : (evidenceDigestChunks r).flatten ∈ scope.messages) : Recorded scope r := by
  obtain ⟨c₁, effective, flow, seq, rfl⟩ := admitted_eq_buildRecord h
  have hminted : (c₁.buildRecord envelope payload effective flow seq tick).id =
      mintEvidenceId (materialOf (c₁.buildRecord envelope payload effective flow seq tick)) := by
    dsimp only [buildRecord, materialOf]
  refine ⟨hminted, hmaterial, buildRecord_digest _ _ _ _ _ _ _, hencoding, ?_⟩
  rw [length_evidenceDigestChunks]
  have hid := length_mintEvidenceId (evidenceMaterial envelope.publisher envelope.publisherBoot
    payload.metadata.topic payload.evidenceGeneration flow.id flow.generation)
  unfold recordBytes at hfits
  dsimp only [buildRecord]
  omega

theorem length_contractDigestChunks (k : WorkloadContract) :
    (contractDigestChunks k).flatten.length = contractBytes k := by
  have haddress : ∀ address : IpAddress, (blobBytes address.bytes.toList).length = 20 := by
    intro address
    rw [length_blobBytes, List.Vector.toList_length]
  have hscope := length_flatMap_of_length haddress k.remoteScope
  have hports := length_flatMap_of_length length_u16Bytes k.localPortScope
  rw [List.flatMap_def] at hscope hports
  simp only [contractDigestChunks, List.flatten_append, List.flatten_cons, List.flatten_nil,
    List.length_append, length_blobBytes, length_u64Bytes, length_u16Bytes, length_u8Bytes,
    length_boolBytes, length_countBytes, List.length_nil, hscope, hports, contractBytes]
  omega

def QueryFits (c : Classifier) (key : FlowKey) : Prop :=
  ∀ flow, c.flows.current.lookup key = some flow → decisionBytes c flow.id ≤ maxBlobBytes

/-- Everything the step digests fits the encoder, and the authority number does not wrap.
A restore is not a step of a running classifier. -/
def Fits (c : Classifier) : Operation → Prop
  | .advanceEpoch _ | .registerPublisher .. | .endPublisherSession .. | .heartbeat ..
  | .expirePublisherLiveness _ => c.authoritySequence ≠ 0xFFFFFFFFFFFFFFFF
  | .proposeContract contract _ => contractBytes contract ≤ maxBlobBytes
  | .submitEvidence envelope payload .. => recordBytes envelope payload ≤ maxBlobBytes
  | .classify query _ => QueryFits c query.flowKey
  | .classifyBatch queries => ∀ q ∈ queries, QueryFits c q.1.flowKey
  | .explain key .. => QueryFits c key
  | .restore .. => False
  | _ => True

def InputHashed (scope : HashScope) (input : DecisionInput) : Prop :=
  (evidenceSetDigestChunks input).flatten ∈ scope.messages ∧
    contractMessages input ⊆ scope.messages

def QueryHashed (scope : HashScope) (c : Classifier) (key : FlowKey)
    (requested : FlowGeneration) (tick : Tick) : Prop :=
  ∀ input, c.queryInput key requested tick = some input → InputHashed scope input

/-- The messages and keys that the step hashes are in the scope. -/
def Hashed (scope : HashScope) (c : Classifier) : Operation → Prop
  | .proposeContract contract _ => (contractDigestChunks contract).flatten ∈ scope.messages
  | .registerFlow key .. => key ∈ scope.keys
  | .submitEvidence envelope payload tick .. => payload.flowKey ∈ scope.keys ∧
      ∀ r, c.admitted envelope payload tick = some r →
        materialOf r ∈ scope.messages ∧ (evidenceDigestChunks r).flatten ∈ scope.messages
  | .classify query tick => QueryHashed scope c query.flowKey query.flowGeneration tick
  | .classifyBatch queries =>
      ∀ q ∈ queries, QueryHashed scope c q.1.flowKey q.1.flowGeneration q.2
  | .explain key generation tick _ => QueryHashed scope c key generation tick
  | _ => True

/-- What the step enters into a store fits the encoder, and what it hashes for it is in the
scope. Nothing is asked of queries or of the authority number. -/
def Storable (scope : HashScope) (c : Classifier) : Operation → Prop
  | .proposeContract contract _ => contractBytes contract ≤ maxBlobBytes ∧
      (contractDigestChunks contract).flatten ∈ scope.messages
  | .registerFlow key .. => key ∈ scope.keys
  | .submitEvidence envelope payload tick .. =>
      recordBytes envelope payload ≤ maxBlobBytes ∧ payload.flowKey ∈ scope.keys ∧
        ∀ r, c.admitted envelope payload tick = some r →
          materialOf r ∈ scope.messages ∧ (evidenceDigestChunks r).flatten ∈ scope.messages
  | .restore .. => False
  | _ => True

theorem storable_of_fits {op : Operation} (hfits : Fits c op) (hhashed : Hashed scope c op) :
    Storable scope c op := by
  cases op with
  | proposeContract | submitEvidence => exact ⟨hfits, hhashed⟩
  | registerFlow => exact hhashed
  | restore => exact hfits
  | _ => trivial

theorem Storable.running {op : Operation} (h : Storable scope c op) : op.Running := by
  rintro image boot tick rfl
  exact h

/-- Each part of the description comes from the lemma about its store. -/
theorem progress_step {op : Operation} (hc : Consistent scope c) (hop : Storable scope c op) :
    Progress scope c (c.step op) := by
  have hkeys : KeysIn scope op := by
    cases op with
    | registerFlow | restore => exact hop
    | submitEvidence => exact hop.2.1
    | _ => trivial
  obtain ⟨hindexed, hrecords⟩ := records_step hc.indexed hop.running
  refine ⟨flowsKeyed_step hc.flows hkeys, advances_step c hop.running, hindexed,
    fun id r' hr' => (hrecords id r' hr').imp_right ?_, evolves_step hc.workloads hop.running ?_⟩
  · rintro ⟨envelope, payload, tick, touchTick, wall, outcome, rfl, hok, hadmitted, rfl, -⟩
    obtain ⟨hfits, -, hhashed⟩ := hop
    obtain ⟨hmaterial, hencoding⟩ := hhashed _ hadmitted
    obtain ⟨hfree, hused⟩ := (submission c envelope payload tick touchTick wall).generation
      (congrArg Prod.fst hok) hc.publishers
    exact ⟨recorded_of_admitted hadmitted hfits hmaterial hencoding, hfree, hused⟩
  · rintro contract tick rfl
    exact ⟨hop.2, by rw [length_contractDigestChunks]; exact hop.1⟩

/-- States reached from a new classifier by steps that fit and by restarts. -/
inductive Reached (scope : HashScope) : Classifier → Prop
  | new (options : ClassifierOptions) : Reached scope (.new options)
  | step {c : Classifier} {op : Operation} (h : Reached scope c) (hfits : Fits c op)
    (hhashed : Hashed scope c op) : Reached scope (c.step op)
  | restart {c c' : Classifier} {options : ClassifierOptions} {boot : CoordinatorBootId}
    {tick : Tick} (h : Reached scope c)
    (hrestore : restore c.durableState (.new options) boot tick = (.ok (), c')) :
    Reached scope c'

theorem Reached.run {ops : List Operation} (h : Reached scope c)
    (halong : Along Classifier.step (fun c op => Fits c op ∧ Hashed scope c op) c ops) :
    Reached scope (Lib.run Classifier.step c ops) :=
  run_invariant Classifier.step (fun _ _ hop hc => Reached.step hc hop.1 hop.2) h halong

/-- States reached from a new classifier by steps that meet a condition and by restarts. -/
inductive Reaches (condition : Classifier → Operation → Prop) : Classifier → Prop
  | new (options : ClassifierOptions) : Reaches condition (.new options)
  | step {c : Classifier} {op : Operation} (h : Reaches condition c) (hop : condition c op) :
    Reaches condition (c.step op)
  | restart {c c' : Classifier} {options : ClassifierOptions} {boot : CoordinatorBootId}
    {tick : Tick} (h : Reaches condition c)
    (hrestore : restore c.durableState (.new options) boot tick = (.ok (), c')) :
    Reaches condition c'

theorem Reaches.run {condition : Classifier → Operation → Prop}
    {ops : List Operation} (h : Reaches condition c)
    (halong : Along Classifier.step condition c ops) :
    Reaches condition (Lib.run Classifier.step c ops) :=
  run_invariant Classifier.step (fun _ _ hop hc => hc.step hop) h halong

def ReachedUnder (condition : Classifier → Operation → Prop) (scope : HashScope) :
    Classifier → Prop :=
  Reaches fun c op => condition c op ∧ Fits c op ∧ Hashed scope c op

theorem ReachedUnder.reached {condition : Classifier → Operation → Prop}
    (h : ReachedUnder condition scope c) : Reached scope c := by
  induction h with
  | new options => exact .new options
  | step _ hop ih => exact ih.step hop.2.1 hop.2.2
  | restart _ hrestore ih => exact ih.restart hrestore

/-- Consistency asks nothing of queries or of the authority number. -/
theorem Reaches.consistent (h : Reaches (Storable scope) c) : Consistent scope c := by
  induction h with
  | new options => exact consistent_new scope options
  | step _ hop ih => exact (progress_step ih hop).consistent ih
  | restart _ hrestore ih => exact consistent_restart ih hrestore

theorem Reached.reaches (h : Reached scope c) : Reaches (Storable scope) c := by
  induction h with
  | new options => exact .new options
  | step _ hfits hhashed ih => exact ih.step (storable_of_fits hfits hhashed)
  | restart _ hrestore ih => exact ih.restart hrestore

theorem Reached.consistent (h : Reached scope c) : Consistent scope c :=
  h.reaches.consistent

end Classifier
end FlowClassifier
