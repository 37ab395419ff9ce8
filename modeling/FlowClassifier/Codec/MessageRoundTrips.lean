import FlowClassifier.Codec.Messages
import FlowClassifier.Codec.Plain
import FlowClassifier.Codec.RecordRoundTrips

/-!
The messages of the protocol, from the sender's encoder to the receiver's decoder. A message
whose fields are within the limits of the receiver is read back, from its own bytes and from
no others that share their beginning.
-/
namespace FlowClassifier.Codec

open Lib Foundation Buffers Workloads

inductive MessageType where
  | hello | helloResponse | registerPublisher | registerPublisherResponse | declareWorkload
  | proposeContract | contractReference | contractResponse | registerFlow
  | registerFlowResponse | publishEvidence | publishEvidenceResponse | withdrawEvidence
  | revokeGeneration | classifyRequest | classifyResponse | statsResponse | errorResponse
  deriving DecidableEq

namespace MessageType

def Body : MessageType → Type
  | hello => HelloRequest
  | helloResponse => HelloResponse
  | registerPublisher => RegisterPublisherRequest
  | registerPublisherResponse => RegisterPublisherResponse
  | declareWorkload => DeclareWorkloadRequest
  | proposeContract => WorkloadContract
  | contractReference => ContractId
  | contractResponse => WorkloadContract
  | registerFlow => RegisterFlowRequest
  | registerFlowResponse => RegisterFlowResponse
  | publishEvidence => EvidencePayload
  | publishEvidenceResponse => PublishEvidenceResponse
  | withdrawEvidence => WithdrawEvidenceRequest
  | revokeGeneration => RevokeGenerationRequest
  | classifyRequest => List ClassifyQueryEntry
  | classifyResponse => ClassifyResponse
  | statsResponse => StatsResponse
  | errorResponse => ErrorResponse

def chunks : (t : MessageType) → t.Body → List Bytes
  | hello => encodeHello
  | helloResponse => encodeHelloResponse
  | registerPublisher => encodeRegisterPublisher
  | registerPublisherResponse => encodeRegisterPublisherResponse
  | declareWorkload => encodeDeclareWorkload
  | proposeContract => encodeProposeContract
  | contractReference => encodeContractReference
  | contractResponse => encodeContractResponse
  | registerFlow => encodeRegisterFlow
  | registerFlowResponse => encodeRegisterFlowResponse
  | publishEvidence => encodePublishEvidence
  | publishEvidenceResponse => encodePublishEvidenceResponse
  | withdrawEvidence => encodeWithdrawEvidence
  | revokeGeneration => encodeRevokeGeneration
  | classifyRequest => encodeClassifyRequest
  | classifyResponse => encodeClassifyResponse
  | statsResponse => encodeStatsResponse
  | errorResponse => encodeErrorResponse

def encode (t : MessageType) (body : t.Body) : Result Bytes :=
  Buffers.encode maxFramePayload (t.chunks body)

def decode (limits : CodecLimits) : (t : MessageType) → Bytes → Result t.Body
  | hello => decodeHello limits
  | helloResponse => decodeHelloResponse limits
  | registerPublisher => decodeRegisterPublisher limits
  | registerPublisherResponse => decodeRegisterPublisherResponse limits
  | declareWorkload => decodeDeclareWorkload limits
  | proposeContract => decodeProposeContract limits
  | contractReference => decodeContractReference limits
  | contractResponse => decodeContractResponse limits
  | registerFlow => decodeRegisterFlow
  | registerFlowResponse => decodeRegisterFlowResponse
  | publishEvidence => decodePublishEvidence limits
  | publishEvidenceResponse => decodePublishEvidenceResponse limits
  | withdrawEvidence => decodeWithdrawEvidence limits
  | revokeGeneration => decodeRevokeGeneration limits
  | classifyRequest => decodeClassifyRequest limits
  | classifyResponse => decodeClassifyResponse limits
  | statsResponse => decodeStatsResponse limits
  | errorResponse => decodeErrorResponse limits

def reader (limits : CodecLimits) : (t : MessageType) → Reader t.Body
  | hello => readHello limits
  | helloResponse => readHelloResponse limits
  | registerPublisher => readRegisterPublisher limits
  | registerPublisherResponse => readRegisterPublisherResponse limits
  | declareWorkload => readDeclareWorkload limits
  | proposeContract | contractResponse => decodeContract limits
  | contractReference => decodeContractName limits
  | registerFlow => readRegisterFlow
  | registerFlowResponse => readRegisterFlowResponse
  | publishEvidence => readPublishEvidence limits
  | publishEvidenceResponse => readPublishEvidenceResponse limits
  | withdrawEvidence => readWithdrawEvidence limits
  | revokeGeneration => readRevokeGeneration limits
  | classifyRequest => readClassifyRequest limits
  | classifyResponse => readClassifyResponse limits
  | statsResponse => readStatsResponse limits
  | errorResponse => readErrorResponse limits

/-- What the receiver holds after a message was sent: a proposal has lost its digest, and
evidence the contract in its metadata, which the coordinator fills in from the payload. -/
def received : (t : MessageType) → t.Body → t.Body
  | proposeContract, c => ({ c with definitionDigest := .zero } : WorkloadContract)
  | publishEvidence, p =>
    ({ p with metadata := { p.metadata with contract := .none } } : EvidencePayload)
  | _, body => body

end MessageType

variable {limits : CodecLimits}

def CodecLimits.HoldsLong (limits : CodecLimits) (s : Bytes) : Prop :=
  s.length ≤ limits.maxBlobBytes

theorem decodes_getLongString (s : Bytes) :
    (getLongString limits.maxBlobBytes).Decodes (blobBytes s) (limits.HoldsLong s) s :=
  decodes_getBlob _ s

theorem decodes_peerRole (role : PeerRole) :
    decodePeerRole.Decodes (u8Bytes role.code) True role := by
  unfold decodePeerRole
  rw [← List.append_nil (u8Bytes role.code)]
  refine .iff (.after (reads_getU8 role.code) (.failIf (.ret ?_))) ?_
  · cases role <;> rfl
  · cases role <;> decide

theorem decodes_hello (m : HelloRequest) : (readHello limits).Decodes (encodeHello m).flatten
      (limits.Holds m.clientName ∧ limits.Holds m.publisher.value) m := by
  simp only [encodeHello, List.flatten_cons, List.flatten_nil]
  exact .iff (.sure (decodes_peerRole _) (.after (reads_getU16 _) (.after (reads_getU16 _) (.u32
    (.bind (decodes_getString _) (.bind (decodes_optional m.publisher _) (.ret rfl))))))) (by tauto)

theorem decodes_helloResponse (m : HelloResponse) :
    (readHelloResponse limits).Decodes (encodeHelloResponse m).flatten
      (limits.Holds m.coordinatorBanner) m := by
  simp only [encodeHelloResponse, List.flatten_cons, List.flatten_nil]
  exact .iff (.after (reads_getU16 _) (.u64 (.u64 (.after (reads_source _)
    (.bind (decodes_getString _) (.ret rfl)))))) (by tauto)

theorem decodes_registerPublisher (m : RegisterPublisherRequest) :
    (readRegisterPublisher limits).Decodes (encodeRegisterPublisher m).flatten
      (limits.Holds m.publisher.value ∧ m.publisher.isEmpty = false ∧
        limits.Holds m.description) m := by
  simp only [encodeRegisterPublisher, List.flatten_cons, List.flatten_nil]
  exact .iff (.bind (decodes_required m.publisher _) (.u64 (.u64 (.bind (decodes_getString _)
    (.ret rfl))))) (by tauto)

theorem decodes_registerPublisherResponse (m : RegisterPublisherResponse) :
    (readRegisterPublisherResponse limits).Decodes (encodeRegisterPublisherResponse m).flatten
      (limits.Holds m.session.value) m := by
  simp only [encodeRegisterPublisherResponse, List.flatten_cons, List.flatten_nil]
  exact .iff (.bind (decodes_optional m.session _) (.u64 (.u64 (.after (reads_source _) (.u64
    (.ret rfl)))))) (by tauto)

theorem decodes_declareWorkload (m : DeclareWorkloadRequest) :
    (readDeclareWorkload limits).Decodes (encodeDeclareWorkload m).flatten
      (limits.Holds m.workload.value ∧ m.workload.isEmpty = false ∧
        limits.Holds m.description) m := by
  simp only [encodeDeclareWorkload, List.flatten_cons, List.flatten_nil]
  exact .iff (.bind (decodes_required m.workload _) (.u64 (.bind (decodes_getString _)
    (.ret rfl)))) (by tauto)

theorem decodes_contractReference (id : ContractId) :
    (decodeContractName limits).Decodes (encodeContractReference id).flatten
      (limits.Holds id.value ∧ id.isEmpty = false) id := by
  simp only [encodeContractReference, List.flatten_cons, List.flatten_nil, List.append_nil]
  exact decodes_required id _

theorem decodes_registerFlow (m : RegisterFlowRequest) :
    readRegisterFlow.Decodes (encodeRegisterFlow m).flatten True m := by
  simp only [encodeRegisterFlow, List.flatten_append, List.flatten_cons, List.flatten_nil]
  exact .sure (decodes_flowKey _) (.u64 (.ret rfl))

theorem decodes_registerFlowResponse (m : RegisterFlowResponse) :
    readRegisterFlowResponse.Decodes (encodeRegisterFlowResponse m).flatten True m := by
  simp only [encodeRegisterFlowResponse, List.flatten_append, List.flatten_cons, List.flatten_nil]
  exact .sure (decodes_id128 _) (.u64 (.after (reads_getBool _) (.u64 (.ret rfl))))

theorem decodes_publishEvidence (p : EvidencePayload) :
    (readPublishEvidence limits).Decodes (encodePublishEvidence p).flatten
      ((∀ s ∈ [p.workload.value, p.contract.value, p.metadata.topic, p.metadata.reason],
        limits.Holds s) ∧ p.metadata.reason.any isControl = false)
      { p with metadata := { p.metadata with contract := .none } } := by
  simp only [encodePublishEvidence, List.flatten_append, List.flatten_cons, List.flatten_nil,
    List.append_assoc, List.nil_append]
  refine .iff (.bind (decodes_optional p.workload _) (.u64 (.bind (decodes_optional p.contract _)
    (.sure (decodes_flowKey _) (.u64 (.u64 (.after (reads_semantic _) (.after (reads_source _) (.u64
    (.bind (decodes_getString _) (.u64 (.bind (decodes_getString _) (.failIf
    (.ret rfl)))))))))))))) ?_
  simp only [List.forall_mem_cons, Bool.not_eq_true]
  simp only [List.not_mem_nil, false_imp_iff, implies_true]
  tauto

theorem decodes_publishEvidenceResponse (m : PublishEvidenceResponse) :
    (readPublishEvidenceResponse limits).Decodes (encodePublishEvidenceResponse m).flatten
      (limits.Holds m.evidenceId.value ∧ m.evidenceId.isEmpty = false ∧
        limits.Holds m.supersededId.value ∧ limits.Counts m.notes ∧
        ∀ note ∈ m.notes, limits.Holds note) m := by
  simp only [encodePublishEvidenceResponse, List.flatten_append, List.flatten_cons,
    List.flatten_nil, List.append_assoc, List.nil_append, ← List.flatMap_def]
  rw [← List.append_nil (m.notes.flatMap blobBytes)]
  refine .iff (.bind (decodes_required m.evidenceId _) (.sure (decodes_id128 _) (.u64
    (.after (reads_source _) (.after (reads_getBool _) (.bind (decodes_optional m.supersededId _)
    (.after (reads_getBool _)
    (decodes_collection (fun note _ => blobBytes_ne_nil note)
      (fun note _ => decodes_getString note)
    (.ret rfl))))))))) ?_
  unfold CodecLimits.Counts
  tauto

theorem decodes_withdrawEvidence (m : WithdrawEvidenceRequest) :
    (readWithdrawEvidence limits).Decodes (encodeWithdrawEvidence m).flatten
      (limits.Holds m.evidence.value ∧ m.evidence.isEmpty = false ∧
        limits.HoldsLong m.reason) m := by
  simp only [encodeWithdrawEvidence, List.flatten_cons, List.flatten_nil]
  exact .iff (.bind (decodes_required m.evidence _) (.bind (decodes_getLongString _)
    (.ret rfl))) (by tauto)

theorem decodes_revokeGeneration (m : RevokeGenerationRequest) :
    (readRevokeGeneration limits).Decodes (encodeRevokeGeneration m).flatten
      (limits.Holds m.reason) m := by
  simp only [encodeRevokeGeneration, List.flatten_append, List.flatten_cons, List.flatten_nil]
  exact .iff (.sure (decodes_id128 _) (.u64 (.bind (decodes_getString _) (.ret rfl)))) (by tauto)

theorem decodes_queryEntry (entry : ClassifyQueryEntry) :
    readQueryEntry.Decodes (encodeQueryEntry entry).flatten True entry := by
  simp only [encodeQueryEntry, List.flatten_append, List.flatten_cons, List.flatten_nil]
  exact .sure (decodes_flowKey _) (.u64 (.after (reads_getBool _) (.ret rfl)))

theorem length_encodeQueryEntry (entry : ClassifyQueryEntry) :
    (encodeQueryEntry entry).flatten.length = 54 := by
  simp [encodeQueryEntry, encodeFlowKey]

/-- The check on the declared count lets every batch pass that is there in full. -/
theorem decodes_classifyRequest (entries : List ClassifyQueryEntry) :
    (readClassifyRequest limits).Decodes (encodeClassifyRequest entries).flatten
      (limits.Counts entries) entries := by
  have hsize := length_flatMap_of_length length_encodeQueryEntry entries
  simp only [encodeClassifyRequest, List.flatten_cons, flatten_flatMap_chunks]
  have hchecked : Reader.Decodes
      (do let left ← remaining
          failIf (entries.length > left / 24 + 1) .malformedRecord
            (text "classification batch declares more entries than the payload can hold")
          readQueryEntry.many entries.length)
      (entries.flatMap fun entry => (encodeQueryEntry entry).flatten) True entries := by
    refine decodes_remaining fun left hleft => Decodes.iff (.failIf
      (.many fun entry _ => decodes_queryEntry entry)) ?_
    have hfits : ¬ entries.length > left / 24 + 1 := by omega
    simp [hfits]
  intro rest hlen
  have hn : entries.length < wireBound := by
    simp only [List.length_append, hsize] at hlen
    omega
  exact Decodes.iff (.bind (decodes_getCount _ entries.length hn) hchecked)
    (iff_of_eq (and_true _)) rest hlen

theorem decodes_classifyResponse {m : ClassifyResponse}
    (hcounts : ∀ c ∈ m.classifications, c.corroborationCount < wireBound) :
    (readClassifyResponse limits).Decodes (encodeClassifyResponse m).flatten
      (limits.Counts m.classifications ∧
        (∀ c ∈ m.classifications, classificationReadable limits c) ∧ limits.Counts m.perKeyCodes ∧
        limits.Counts m.perKeyMessages ∧ (∀ s ∈ m.perKeyMessages, limits.HoldsLong s) ∧
        limits.Counts m.explanations ∧ ∀ s ∈ m.explanations, limits.HoldsLong s) m := by
  simp only [encodeClassifyResponse, List.flatten_append, List.flatten_cons, List.flatten_nil,
    List.append_assoc, List.nil_append, flatten_flatMap_chunks, ← List.flatMap_def]
  refine .iff (decodes_collection (fun c _ => by simp [encodeClassification, u8Bytes])
    (fun c hc => decodes_classification (hcounts c hc))
    (decodes_collection (fun v _ => u32Bytes_ne_nil v) (fun v _ => (reads_getU32 v).decodes _)
    (decodes_collection (fun s _ => blobBytes_ne_nil s) (fun s _ => decodes_getLongString s)
    (decodes_collection (fun s _ => blobBytes_ne_nil s) (fun s _ => decodes_getLongString s)
    (.u64 (.u64 (.u32 (.u32 (.ret rfl))))))))) ?_
  unfold CodecLimits.Counts
  tauto

theorem decodes_statsResponse (m : StatsResponse) :
    (readStatsResponse limits).Decodes (encodeStatsResponse m).flatten
      (limits.HoldsLong m.rendered) m := by
  simp only [encodeStatsResponse, List.flatten_cons, List.flatten_nil]
  exact .iff (.bind (decodes_getLongString _) (.ret rfl)) (by tauto)

theorem decodes_errorResponse (m : ErrorResponse) :
    (readErrorResponse limits).Decodes (encodeErrorResponse m).flatten
      (limits.HoldsLong m.message) m := by
  simp only [encodeErrorResponse, List.flatten_cons, List.flatten_nil]
  exact .iff (.u32 (.bind (decodes_getLongString _) (.ret rfl))) (by tauto)

section Plain

attribute [local simp] getString getLongString decodePublisher decodeWorkload decodeEvidence
  decodeSession decodeEvidenceField decodeSemantic decodeSource

theorem plain_decodePeerRole : Plain decodePeerRole :=
  .seq plain_getU8 fun _ => .seq (plain_failIf (by simp)) fun _ => .ret _

theorem plain_readQueryEntry : Plain readQueryEntry := by
  unfold readQueryEntry
  repeat refine plain_bind (fun _ => ?_) ?_
  all_goals simp

/-- The readers of the types but for batches, which look at how much is left. -/
theorem plain_reader {t : MessageType} (h : t ≠ .classifyRequest) : Plain (t.reader limits) := by
  cases t
  case classifyRequest => exact absurd rfl h
  case proposeContract | contractResponse => exact plain_decodeContract limits
  all_goals
    dsimp only [MessageType.Body, MessageType.reader, readHello, readHelloResponse,
      readRegisterPublisher, readRegisterPublisherResponse, readDeclareWorkload,
      decodeContractName, readRegisterFlow, readRegisterFlowResponse, readPublishEvidence,
      readPublishEvidenceResponse, readWithdrawEvidence, readRevokeGeneration,
      readClassifyResponse, readStatsResponse, readErrorResponse]
    repeat refine plain_bind (fun _ => ?_) ?_
  all_goals first | exact plain_pure _ | simp [plain_decodePeerRole]

end Plain

/-- The batch reader looks at how much is left, but a count that passes with little left
passes with more. -/
theorem local_readClassifyRequest : Local (readClassifyRequest limits) := by
  refine (plain_getCount _).isLocal.bind fun count => ?_
  intro input x rest h more
  obtain ⟨left, mid, hleft, hchecked⟩ := run_bind_eq_ok h
  cases hleft
  obtain ⟨⟨⟩, mid', hpass, hmany⟩ := run_bind_eq_ok hchecked
  obtain ⟨hcount, rfl⟩ := run_failIf_eq_ok_iff.mp hpass
  have hmore : ¬ count > (mid' ++ more).length / 24 + 1 := by
    rw [List.length_append]
    omega
  have hrest := (plain_many plain_readQueryEntry count).isLocal _ _ _ hmany more
  have hlook : remaining.run (mid' ++ more) = .ok ((mid' ++ more).length, mid' ++ more) := rfl
  rw [run_bind_of_ok hlook, run_bind_of_ok (run_failIf_eq_ok_iff.mpr ⟨hmore, rfl⟩)]
  exact hrest

namespace MessageType

/-- A message that the receiver can hold. -/
def WellFormed (limits : CodecLimits) : (t : MessageType) → t.Body → Prop
  | hello, (m : HelloRequest) => limits.Holds m.clientName ∧ limits.Holds m.publisher.value
  | helloResponse, (m : HelloResponse) => limits.Holds m.coordinatorBanner
  | registerPublisher, (m : RegisterPublisherRequest) =>
    limits.Holds m.publisher.value ∧ m.publisher.isEmpty = false ∧ limits.Holds m.description
  | registerPublisherResponse, (m : RegisterPublisherResponse) => limits.Holds m.session.value
  | declareWorkload, (m : DeclareWorkloadRequest) =>
    limits.Holds m.workload.value ∧ m.workload.isEmpty = false ∧ limits.Holds m.description
  -- the sender of a proposal may leave the digest out
  | proposeContract, (c : WorkloadContract) =>
    contractReadable limits c ∧
      (c.definitionDigest = .zero ∨ computeContractDigest c = c.definitionDigest)
  | contractReference, (id : ContractId) => limits.Holds id.value ∧ id.isEmpty = false
  | contractResponse, (c : WorkloadContract) =>
    contractReadable limits c ∧ computeContractDigest c = c.definitionDigest
  | registerFlow, _ => True
  | registerFlowResponse, _ => True
  | publishEvidence, (p : EvidencePayload) =>
    (∀ s ∈ [p.workload.value, p.contract.value, p.metadata.topic, p.metadata.reason],
      limits.Holds s) ∧ p.metadata.reason.any isControl = false
  | publishEvidenceResponse, (m : PublishEvidenceResponse) =>
    limits.Holds m.evidenceId.value ∧ m.evidenceId.isEmpty = false ∧
      limits.Holds m.supersededId.value ∧ limits.Counts m.notes ∧
      ∀ note ∈ m.notes, limits.Holds note
  | withdrawEvidence, (m : WithdrawEvidenceRequest) =>
    limits.Holds m.evidence.value ∧ m.evidence.isEmpty = false ∧ limits.HoldsLong m.reason
  | revokeGeneration, (m : RevokeGenerationRequest) => limits.Holds m.reason
  | classifyRequest, (entries : List ClassifyQueryEntry) => limits.Counts entries
  -- the corroboration count of a decision is 32 bits wide
  | classifyResponse, (m : ClassifyResponse) =>
    (∀ c ∈ m.classifications, c.corroborationCount < wireBound) ∧
      limits.Counts m.classifications ∧
      (∀ c ∈ m.classifications, classificationReadable limits c) ∧
      limits.Counts m.perKeyCodes ∧
      limits.Counts m.perKeyMessages ∧ (∀ s ∈ m.perKeyMessages, limits.HoldsLong s) ∧
      limits.Counts m.explanations ∧ ∀ s ∈ m.explanations, limits.HoldsLong s
  | statsResponse, (m : StatsResponse) => limits.HoldsLong m.rendered
  | errorResponse, (m : ErrorResponse) => limits.HoldsLong m.message

end MessageType

theorem local_reader (t : MessageType) : Local (t.reader limits) := by
  by_cases h : t = .classifyRequest
  · subst h
    exact local_readClassifyRequest
  · exact (plain_reader h).isLocal

/-- A reader takes from its own bytes what was written, and nothing from others. -/
theorem exactOn_reader {t : MessageType} {body x : t.Body} {bytes : Bytes} {readable : Prop}
    (henc : t.encode body = .ok bytes)
    (hdec : (t.reader limits).Decodes (t.chunks body).flatten readable x) (hread : readable) :
    ExactOn (decodeAll (t.reader limits)) bytes x := by
  obtain ⟨rfl, hlen⟩ := (writeChunks_eq_ok_iff ensureFailure).mp henc
  have hbound : (t.chunks body).flatten.length < wireBound := by
    unfold maxFramePayload at hlen
    unfold wireBound
    omega
  exact exactOn_decodeAll (local_reader t) ((decodeAll_iff hdec hbound).1 hread)

theorem exactOn_proposeContract {c : WorkloadContract} {bytes : Bytes}
    (h : ExactOn (decodeAll (decodeContract limits)) bytes
      { c with definitionDigest := computeContractDigest c }) :
    ExactOn (decodeProposeContract limits) bytes { c with definitionDigest := .zero } := by
  refine ⟨?_, fun hbytes hmissing => ?_, fun hmore => ?_⟩
  · rw [decodeProposeContract, h.whole]
    rfl
  · obtain ⟨e, he⟩ := h.cut hbytes hmissing
    exact ⟨e, by rw [decodeProposeContract, he]; rfl⟩
  · obtain ⟨e, he⟩ := h.longer hmore
    exact ⟨e, by rw [decodeProposeContract, he]; rfl⟩

/-- A well-formed message is decoded from its own encoding to what the receiver is meant to
hold, and from neither a part of the encoding nor the encoding with more behind it. -/
theorem message_round_trip (limits : CodecLimits) (t : MessageType) (body : t.Body)
    {bytes : Bytes} (hbody : t.WellFormed limits body) (henc : t.encode body = .ok bytes) :
    ExactOn (t.decode limits) bytes (t.received body) := by
  cases t with
  | hello => exact exactOn_reader henc (decodes_hello body) hbody
  | helloResponse => exact exactOn_reader henc (decodes_helloResponse body) hbody
  | registerPublisher => exact exactOn_reader henc (decodes_registerPublisher body) hbody
  | registerPublisherResponse =>
    exact exactOn_reader henc (decodes_registerPublisherResponse body) hbody
  | declareWorkload => exact exactOn_reader henc (decodes_declareWorkload body) hbody
  | proposeContract =>
    exact exactOn_proposeContract (exactOn_reader henc (decodes_contract_filled body) hbody)
  | contractReference => exact exactOn_reader henc (decodes_contractReference body) hbody
  | contractResponse => exact exactOn_reader henc (decodes_contract hbody.2) hbody.1
  | registerFlow =>
    exact @exactOn_reader limits _ _ _ _ _ henc (decodes_registerFlow body) trivial
  | registerFlowResponse =>
    exact @exactOn_reader limits _ _ _ _ _ henc (decodes_registerFlowResponse body) trivial
  | publishEvidence => exact exactOn_reader henc (decodes_publishEvidence body) hbody
  | publishEvidenceResponse =>
    exact exactOn_reader henc (decodes_publishEvidenceResponse body) hbody
  | withdrawEvidence => exact exactOn_reader henc (decodes_withdrawEvidence body) hbody
  | revokeGeneration => exact exactOn_reader henc (decodes_revokeGeneration body) hbody
  | classifyRequest => exact exactOn_reader henc (decodes_classifyRequest body) hbody
  | classifyResponse => exact exactOn_reader henc (decodes_classifyResponse hbody.1) hbody.2
  | statsResponse => exact exactOn_reader henc (decodes_statsResponse body) hbody
  | errorResponse => exact exactOn_reader henc (decodes_errorResponse body) hbody

def contractedEvidence : EvidencePayload where
  flowKey := ⟨⟨.replicate 16 1⟩, ⟨.replicate 16 2⟩, 4000, 9000, .tcp⟩
  evidenceGeneration := 1
  metadata := { topic := text "collective", contract := .make (text "contract-1") }

theorem encode_contractedEvidence : MessageType.publishEvidence.encode contractedEvidence =
      .ok (encodePublishEvidence contractedEvidence).flatten :=
  (writeChunks_eq_ok_iff ensureFailure).mpr ⟨rfl, by decide +kernel⟩

theorem wellFormed_contractedEvidence :
    MessageType.publishEvidence.WellFormed {} contractedEvidence :=
  ⟨by unfold CodecLimits.Holds; decide +kernel, by decide +kernel⟩

/-- One message of evidence, with what arrives of it. -/
theorem message_round_trip_sample :
    ExactOn (decodePublishEvidence {}) (encodePublishEvidence contractedEvidence).flatten
      { contractedEvidence with metadata := { topic := text "collective" } } :=
  message_round_trip {} .publishEvidence contractedEvidence wellFormed_contractedEvidence
    encode_contractedEvidence

/-- The contract in the metadata of evidence is not part of the message. -/
theorem metadata_contract_not_sent :
    MessageType.publishEvidence.WellFormed {} contractedEvidence ∧
      MessageType.publishEvidence.encode contractedEvidence =
        .ok (encodePublishEvidence contractedEvidence).flatten ∧
      decodePublishEvidence {} (encodePublishEvidence contractedEvidence).flatten ≠
        .ok contractedEvidence := by
  refine ⟨wellFormed_contractedEvidence, encode_contractedEvidence, fun h => ?_⟩
  have hsent := (exactOn_reader encode_contractedEvidence (decodes_publishEvidence _)
    wellFormed_contractedEvidence).whole
  have hcontract := congrArg (fun p : EvidencePayload => p.metadata.contract.isEmpty)
    (Except.ok.inj (hsent.symm.trans h))
  exact absurd hcontract (by decide)

end FlowClassifier.Codec
