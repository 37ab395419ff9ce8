import FlowClassifier.Codec.RecordRoundTrips
import FlowClassifier.Codec.Snapshot

/-!
Reading a snapshot back. An image that was encoded passes every check on its header, and
its body decodes exactly when each of its records is readable under the limits; then the
snapshot is the one that was written.
-/
namespace FlowClassifier.Codec

open Lib Foundation Buffers Hash Evidence Workloads Policies

variable {limits : SnapshotLimits} {data : Bytes}
variable {snapshot : StateSnapshot}

theorem length_snapshotMagic : snapshotMagic.length = 4 := by decide

section Image

variable (snapshot : StateSnapshot) (body : Bytes)

theorem length_headerFields : (headerFields snapshot body).length = 80 := by
  simp [headerFields, length_snapshotMagic]

theorem length_snapshotBytes :
    (snapshotBytes snapshot body).length = snapshotHeaderBytes + body.length := by
  simp only [snapshotBytes, List.length_append, length_headerFields, length_u32Bytes,
    List.length_replicate, snapshotHeaderBytes]

/-- The image as its fields, one after the other. -/
theorem snapshotBytes_eq :
    snapshotBytes snapshot body = snapshotMagic ++ (u16Bytes snapshot.formatVersion ++
      (u16Bytes snapshot.persistenceGeneration ++ (u64Bytes (UInt64.ofNat body.length) ++
      (u64Bytes snapshot.state.epoch ++ (u64Bytes snapshot.state.coordinatorBoot ++
      (u64Bytes snapshot.state.sequenceHighWater ++ (u64Bytes snapshot.writtenAtWallMillis ++
      ((sha256 body).bytes.toList ++ (u32Bytes (headerChecksum (headerFields snapshot body)) ++
      (List.replicate 4 0 ++ body)))))))))) := by
  simp only [snapshotBytes, headerFields, List.append_assoc]

theorem headerField_format :
    headerField (snapshotBytes snapshot body) 4 2 = snapshot.formatVersion.toNat := by
  rw [headerField_at (snapshotBytes_eq snapshot body) length_snapshotMagic (length_u16Bytes _),
    ofLeBytes_u16Bytes]

/-- The fields after the magic and the two versions are all eight bytes wide. -/
theorem headerField_words :
    headerField (snapshotBytes snapshot body) 6 2 = snapshot.persistenceGeneration.toNat ∧
    headerField (snapshotBytes snapshot body) 8 8 = (UInt64.ofNat body.length).toNat ∧
    headerField (snapshotBytes snapshot body) 16 8 = snapshot.state.epoch.toNat ∧
    headerField (snapshotBytes snapshot body) 24 8 = snapshot.state.coordinatorBoot.toNat ∧
    headerField (snapshotBytes snapshot body) 32 8 = snapshot.state.sequenceHighWater.toNat ∧
    headerField (snapshotBytes snapshot body) 40 8 = snapshot.writtenAtWallMillis.toNat := by
  have hsplit := snapshotBytes_eq snapshot body
  simp only [← ofLeBytes_u64Bytes, ← ofLeBytes_u16Bytes]
  refine ⟨?_, ?_, ?_, ?_, ?_, ?_⟩
  all_goals repeat first
    | exact headerField_at hsplit (by simp [length_snapshotMagic]) (by simp)
    | rw [← List.append_assoc] at hsplit

theorem headerField_checksum : headerField (snapshotBytes snapshot body) 80 4 =
    (headerChecksum (headerFields snapshot body)).toNat := by
  have hsplit : snapshotBytes snapshot body = headerFields snapshot body ++
      (u32Bytes (headerChecksum (headerFields snapshot body)) ++ (List.replicate 4 0 ++ body)) := by
    simp only [snapshotBytes, List.append_assoc]
  rw [headerField_at hsplit (length_headerFields _ _) (length_u32Bytes _), ofLeBytes_u32Bytes]

theorem take_magic : (snapshotBytes snapshot body).take 4 = snapshotMagic := by
  rw [snapshotBytes_eq]
  exact List.take_left' length_snapshotMagic

theorem take_digest :
    ((snapshotBytes snapshot body).drop 48).take 32 = (sha256 body).bytes.toList := by
  have hsplit := snapshotBytes_eq snapshot body
  rw [← List.append_assoc, ← List.append_assoc, ← List.append_assoc, ← List.append_assoc,
    ← List.append_assoc, ← List.append_assoc, ← List.append_assoc] at hsplit
  rw [hsplit, List.drop_left' (by simp [length_snapshotMagic]), List.take_left' (by simp)]

theorem drop_header : (snapshotBytes snapshot body).drop snapshotHeaderBytes = body := by
  unfold snapshotBytes
  apply List.drop_left'
  simp [length_headerFields, snapshotHeaderBytes]

/-- The checksum is taken over what the encoder took it over. -/
theorem checksumInput_snapshotBytes : checksumInput (snapshotBytes snapshot body) =
    headerFields snapshot body ++ List.replicate 4 0 ++ List.replicate 4 0 := by
  have htake : (snapshotBytes snapshot body).take 80 = headerFields snapshot body := by
    simp only [snapshotBytes, List.append_assoc]
    exact List.take_left' (length_headerFields _ _)
  have hlast : ((snapshotBytes snapshot body).drop 84).take 4 = List.replicate 4 0 := by
    simp only [snapshotBytes, List.append_assoc]
    rw [← List.append_assoc, List.drop_left' (by simp [length_headerFields])]
    exact List.take_left' (by simp)
  rw [checksumInput, htake, hlast]

/-- An image within the bounds passes every check on its header. -/
theorem checkHeader_snapshotBytes (hformat : snapshot.formatVersion = snapshotFormatVersion)
    (hgeneration : snapshot.persistenceGeneration = persistenceGeneration)
    (hfile : body.length + snapshotHeaderBytes ≤ limits.maxFileBytes)
    (hbody : body.length < 2 ^ 64) :
    checkHeader limits (snapshotBytes snapshot body) = .ok body := by
  obtain ⟨hgen, hlength, -⟩ := headerField_words snapshot body
  have hlen : (UInt64.ofNat body.length).toNat = body.length := UInt64.toNat_ofNat_of_lt' hbody
  have htotal := length_snapshotBytes snapshot body
  have hpresent : (snapshotBytes snapshot body).length - snapshotHeaderBytes = body.length := by
    omega
  simp only [checkHeader, hlength, hlen, hpresent, drop_header, List.take_length, take_magic,
    headerField_format, hformat, hgen, hgeneration, headerField_checksum,
    checksumInput_snapshotBytes, headerChecksum, take_digest]
  rw [if_neg (by omega), if_neg (by simp), if_neg (by simp), if_neg (by simp),
    if_neg (by omega), if_neg (by omega), if_neg (by simp), if_neg (by simp), if_neg (by simp)]

end Image

theorem decodes_relabel {α : Type} {r : Reader α} {bs : Bytes} {readable : Prop} {x : α}
    (h : r.Decodes bs readable x) (label : Bytes → Bytes) :
    (relabel r label).Decodes bs readable x := by
  intro rest hlen
  obtain ⟨hok, hbad⟩ := h rest hlen
  refine ⟨fun hr => ?_, fun hr => ?_⟩
  · change relabel r label (bs ++ rest) = _
    rw [relabel, hok hr]
  · obtain ⟨e, he⟩ := hbad hr
    refine ⟨⟨e.code, label e.message⟩, ?_⟩
    change relabel r label (bs ++ rest) = _
    rw [relabel, he]

theorem decodes_each {α : Type} {name : Bytes} {r : Reader α} {g : α → Bytes} {p : α → Prop}
    {xs : List α} (h : ∀ x ∈ xs, r.Decodes (g x) (p x) x) (i : ℕ) :
    (decodeEach name r i xs.length).Decodes (xs.flatMap g) (∀ x ∈ xs, p x) xs := by
  induction xs generalizing i with
  | nil => exact .iff (.ret rfl) (by simp)
  | cons x rest ih =>
    have htail := ih (fun y hy => h y (by simp [hy])) (i + 1)
    have hcons : Reader.Decodes (do let ys ← decodeEach name r (i + 1) rest.length; return x :: ys)
        (rest.flatMap g) (∀ y ∈ rest, p y) (x :: rest) := htail.map
    exact .iff (.bind (decodes_relabel (h x (by simp)) _) hcons) (by simp)

/-- A collection is read back exactly when it is short enough and its records are readable. -/
theorem decodes_records {α : Type} {plural name : Bytes}
    {r : Reader α} {enc : α → List Bytes} {p : α → Prop} {xs : List α}
    (hsize : ∀ x ∈ xs, (enc x).flatten ≠ []) (h : ∀ x ∈ xs, r.Decodes (enc x).flatten (p x) x) :
    (decodeRecords limits plural name r).Decodes (encodeRecords enc xs).flatten
      (xs.length ≤ limits.maxRecordsPerCollection ∧ ∀ x ∈ xs, p x) xs := by
  have hlong := length_le_flatMap hsize
  have hchecked : Reader.Decodes
      (do let left ← remaining
          failIf (xs.length > left) .malformedRecord
            (name ++ text " declares " ++ decimal xs.length ++ text " records but only " ++
              decimal left ++ text " bytes remain in the snapshot body")
          decodeEach name r 0 xs.length)
      (xs.flatMap fun x => (enc x).flatten) (∀ x ∈ xs, p x) xs := by
    refine decodes_remaining fun left hleft => Decodes.iff
      (.failIf (decodes_each h 0)) (and_iff_right ?_)
    omega
  intro rest hlen
  have hn : xs.length < wireBound := by
    simp only [encodeRecords, List.flatten_cons, flatten_flatMap_chunks, List.length_append] at hlen
    omega
  have hall : (decodeRecords limits plural name r).Decodes
      (countBytes xs.length ++ xs.flatMap fun x => (enc x).flatten)
      (xs.length ≤ limits.maxRecordsPerCollection ∧ ∀ x ∈ xs, p x) xs :=
    Decodes.bind (decodes_relabel (decodes_getCount _ xs.length hn) _) hchecked
  simp only [encodeRecords, List.flatten_cons, flatten_flatMap_chunks] at hlen ⊢
  exact hall rest hlen

/-- The stored state agrees with what its decoders recompute. -/
structure Recomputed (state : DurableState) : Prop where
  policy : ClassifierPolicy.canonicalize state.policy = .ok state.policy
  contracts : ∀ c ∈ state.contracts, computeContractDigest c = c.definitionDigest
  counts : ∀ c ∈ state.classifications, c.corroborationCount < wireBound

def RecordsReadable {α : Type} (limits : SnapshotLimits) (readable : CodecLimits → α → Prop)
    (records : List α) : Prop :=
  records.length ≤ limits.maxRecordsPerCollection ∧
    ∀ record ∈ records, readable limits.codec record

structure SnapshotReadable (limits : SnapshotLimits) (state : DurableState) : Prop where
  policy : policyReadable limits.codec state.policy
  publishers : RecordsReadable limits publisherReadable state.publishers
  workloads : RecordsReadable limits workloadReadable state.workloads
  contracts : RecordsReadable limits contractReadable state.contracts
  flows : RecordsReadable limits flowReadable state.flows
  evidence : RecordsReadable limits evidenceReadable state.evidence
  classifications : RecordsReadable limits classificationReadable state.classifications
  revocations : RecordsReadable limits revocationReadable state.revocations
  supersessions : RecordsReadable limits supersessionReadable state.supersessions

/-- The collections of the body, one after another. -/
theorem decodes_body {state : DurableState} (h : Recomputed state)
    {header : DurableState} (hepoch : header.epoch = state.epoch)
    (hboot : header.coordinatorBoot = state.coordinatorBoot)
    (hseq : header.sequenceHighWater = state.sequenceHighWater) :
    (decodeBody limits header).Decodes (snapshotBody state).flatten
      (SnapshotReadable limits state) state := by
  have hversioned : ∀ chunks : List Bytes, (u8Bytes 1 :: chunks).flatten ≠ [] := by
    simp [u8Bytes]
  simp only [snapshotBody, List.flatten_append, List.append_assoc]
  rw [← List.append_nil (encodeRecords encodeSupersession state.supersessions).flatten]
  refine .iff (.after (a := [u8Bytes snapshotBodySchema].flatten) (reads_getU8 snapshotBodySchema)
    (.failIf (.bind (decodes_relabel (decodes_policy h.policy) _)
    (.bind (decodes_records (fun r _ => hversioned _) fun r _ => decodes_publisherRecord r)
    (.bind (decodes_records (fun r _ => hversioned _) fun r _ => decodes_workloadRecord r)
    (.bind (decodes_records (fun r _ => hversioned _) fun c hc =>
      decodes_contract (h.contracts c hc))
    (.bind (decodes_records (fun r _ => hversioned _) fun r _ => decodes_flowRecord r)
    (.bind (decodes_records (fun r _ => hversioned _) fun r _ => decodes_evidenceRecord r)
    (.bind (decodes_records (fun r _ => hversioned _) fun c hc =>
      decodes_classification (h.counts c hc))
    (.bind (decodes_records (fun r _ => hversioned _) fun r _ => decodes_revocation r)
    (.bind (decodes_records (fun r _ => hversioned _) fun r _ => decodes_supersession r)
    (.ret (x := state) ?_)))))))))))) ?_
  · cases state
    cases hepoch
    cases hboot
    cases hseq
    rfl
  · constructor
    · rintro ⟨-, h1, h2, h3, h4, h5, h6, h7, h8, h9, -⟩
      exact ⟨h1, h2, h3, h4, h5, h6, h7, h8, h9⟩
    · rintro ⟨h1, h2, h3, h4, h5, h6, h7, h8, h9⟩
      exact ⟨by simp, h1, h2, h3, h4, h5, h6, h7, h8, h9, trivial⟩

/-- What was encoded. -/
theorem encodeSnapshot_eq_ok (h : encodeSnapshot limits snapshot = .ok data) :
    data = snapshotBytes snapshot (snapshotBody snapshot.state).flatten ∧
      (snapshotBody snapshot.state).flatten.length + snapshotHeaderBytes ≤ limits.maxFileBytes ∧
      (snapshotBody snapshot.state).flatten.length < wireBound := by
  unfold encodeSnapshot at h
  split at h
  next e heq => cases h
  next body heq =>
    obtain ⟨rfl, hfits⟩ := (writeChunks_eq_ok_iff ensureFailure).mp heq
    split_ifs at h with hbig
    · cases h
    · cases h
      have hwide := hfits.trans (min_le_right _ _)
      refine ⟨rfl, by omega, ?_⟩
      unfold wireBound
      omega

/-- The fields of the header are read back whatever the body holds. -/
theorem decodeSnapshot_snapshotBytes
    {body : Bytes} (hformat : snapshot.formatVersion = snapshotFormatVersion)
    (hgeneration : snapshot.persistenceGeneration = persistenceGeneration)
    (hfile : body.length + snapshotHeaderBytes ≤ limits.maxFileBytes)
    (hbody : body.length < wireBound) : decodeSnapshot limits (snapshotBytes snapshot body) =
      (decodeAll (decodeBody limits
        { policy := {}
          epoch := snapshot.state.epoch
          coordinatorBoot := snapshot.state.coordinatorBoot
          sequenceHighWater := snapshot.state.sequenceHighWater }) body).map
        fun state => { snapshot with state := state } := by
  obtain ⟨-, -, hepoch, hboot, hseq, hwritten⟩ := headerField_words snapshot body
  have hchecked := checkHeader_snapshotBytes snapshot body hformat hgeneration hfile
    (lt_trans hbody (by unfold wireBound; omega))
  unfold decodeSnapshot
  rw [hchecked, hepoch, hboot, hseq, hwritten]
  simp only [UInt64.ofNat_toNat, bind, Except.bind]
  cases decodeAll (decodeBody limits
    { policy := {}
      epoch := snapshot.state.epoch
      coordinatorBoot := snapshot.state.coordinatorBoot
      sequenceHighWater := snapshot.state.sequenceHighWater }) body with
  | error e => rfl
  | ok state =>
    rw [Except.map, ← hformat, ← hgeneration]
    rfl

/-- A written image is read back as it was exactly when it is within the limits, and is
refused otherwise. -/
theorem decodeSnapshot_encodeSnapshot (hformat : snapshot.formatVersion = snapshotFormatVersion)
    (hgeneration : snapshot.persistenceGeneration = persistenceGeneration)
    (hstate : Recomputed snapshot.state) (h : encodeSnapshot limits snapshot = .ok data) :
    (SnapshotReadable limits snapshot.state → decodeSnapshot limits data = .ok snapshot) ∧
      (¬ SnapshotReadable limits snapshot.state → ∃ e, decodeSnapshot limits data = .error e) := by
  obtain ⟨rfl, hfile, hbody⟩ := encodeSnapshot_eq_ok h
  rw [decodeSnapshot_snapshotBytes hformat hgeneration hfile hbody]
  have hdecodes : (decodeBody limits
      { policy := {}
        epoch := snapshot.state.epoch
        coordinatorBoot := snapshot.state.coordinatorBoot
        sequenceHighWater := snapshot.state.sequenceHighWater }).Decodes
      (snapshotBody snapshot.state).flatten (SnapshotReadable limits snapshot.state)
      snapshot.state :=
    decodes_body hstate rfl rfl rfl
  obtain ⟨hok, hbad⟩ := decodeAll_iff hdecodes hbody
  refine ⟨fun hr => by rw [hok hr]; rfl, fun hr => ?_⟩
  obtain ⟨e, he⟩ := hbad hr
  exact ⟨e, by rw [he]; rfl⟩

/-- An image that passes the checks has exactly the length that its header declares. -/
theorem length_of_checkHeader {body : Bytes} (h : checkHeader limits data = .ok body) :
    data.length = snapshotHeaderBytes + headerField data 8 8 := by
  unfold checkHeader at h
  dsimp only at h
  split_ifs at h with hshort _ _ _ _ _ _ _ hlength
  all_goals cases h
  omega

theorem length_of_decodeSnapshot (h : decodeSnapshot limits data = .ok snapshot) :
    data.length = snapshotHeaderBytes + headerField data 8 8 := by
  unfold decodeSnapshot at h
  cases hchecked : checkHeader limits data with
  | error e =>
    rw [hchecked] at h
    cases h
  | ok body => exact length_of_checkHeader hchecked

/-- Of two images of which one begins with the other at most one is accepted: they declare
one length. -/
theorem decodeSnapshot_append {rest : Bytes} (hrest : rest ≠ [])
    {snapshot' : StateSnapshot} (h : decodeSnapshot limits data = .ok snapshot) :
    decodeSnapshot limits (data ++ rest) ≠ .ok snapshot' := by
  intro hlonger
  have hlength := length_of_decodeSnapshot h
  have hlength' := length_of_decodeSnapshot hlonger
  have hpos := List.length_pos_of_ne_nil hrest
  have hheader : 8 + 8 ≤ data.length := by
    unfold snapshotHeaderBytes at hlength
    omega
  rw [headerField_append hheader, List.length_append] at hlength'
  omega

theorem encodeSnapshot_isOk_iff (limits : SnapshotLimits) (snapshot : StateSnapshot) :
    (∃ data, encodeSnapshot limits snapshot = .ok data) ↔
      (snapshotBody snapshot.state).flatten.length + snapshotHeaderBytes ≤ limits.maxFileBytes ∧
      (snapshotBody snapshot.state).flatten.length < wireBound := by
  constructor
  · rintro ⟨data, h⟩
    exact (encodeSnapshot_eq_ok h).2
  · rintro ⟨hfile, hbody⟩
    have hfits : (snapshotBody snapshot.state).flatten.length ≤
        min limits.maxFileBytes 0xFFFFFFFF := by
      unfold wireBound at hbody
      omega
    have hencode : encode (min limits.maxFileBytes 0xFFFFFFFF) (snapshotBody snapshot.state) =
        .ok (snapshotBody snapshot.state).flatten :=
      (writeChunks_eq_ok_iff ensureFailure).mpr ⟨rfl, hfits⟩
    refine ⟨snapshotBytes snapshot (snapshotBody snapshot.state).flatten, ?_⟩
    unfold encodeSnapshot
    rw [hencode]
    dsimp only
    rw [if_neg (not_lt.mpr hfile)]

/-- Within the limits an image is written exactly when it fits the file and its body is
shorter than 4 GiB. What is written is read back as it was, and neither a part of it nor
anything longer is accepted. -/
theorem snapshot_round_trip (limits : SnapshotLimits) (snapshot : StateSnapshot)
    (hformat : snapshot.formatVersion = snapshotFormatVersion)
    (hgeneration : snapshot.persistenceGeneration = persistenceGeneration)
    (hstate : Recomputed snapshot.state) (hreadable : SnapshotReadable limits snapshot.state) :
    ((∃ data, encodeSnapshot limits snapshot = .ok data) ↔
      (snapshotBody snapshot.state).flatten.length + snapshotHeaderBytes ≤ limits.maxFileBytes ∧
      (snapshotBody snapshot.state).flatten.length < wireBound) ∧
    ∀ data, encodeSnapshot limits snapshot = .ok data →
      decodeSnapshot limits data = .ok snapshot ∧
      (∀ start rest, start ++ rest = data → rest ≠ [] →
        ∃ e, decodeSnapshot limits start = .error e) ∧
      ∀ rest, rest ≠ [] → ∃ e, decodeSnapshot limits (data ++ rest) = .error e := by
  refine ⟨encodeSnapshot_isOk_iff limits snapshot, ?_⟩
  intro data hdata
  have hread := (decodeSnapshot_encodeSnapshot hformat hgeneration hstate hdata).1 hreadable
  refine ⟨hread, ?_, ?_⟩
  · intro start rest happend hrest
    cases hstart : decodeSnapshot limits start with
    | error e => exact ⟨e, rfl⟩
    | ok other =>
      rw [← happend] at hread
      exact absurd hread (decodeSnapshot_append hrest hstart)
  · intro rest hrest
    cases hlonger : decodeSnapshot limits (data ++ rest) with
    | error e => exact ⟨e, rfl⟩
    | ok other => exact absurd hlonger (decodeSnapshot_append hrest hread)

def describedState (description : Bytes) : DurableState :=
  { policy := {}
    epoch := 1
    coordinatorBoot := 1
    sequenceHighWater := 0
    publishers := [{ id := .make (text "agent"), highestBoot := 1, description := description }] }

theorem length_describedState (description : Bytes) :
    (snapshotBody (describedState description)).flatten.length =
      (snapshotBody (describedState [])).flatten.length + description.length := by
  simp only [snapshotBody, describedState, encodeRecords, encodePublisherRecord, List.flatMap_cons,
    List.flatMap_nil, List.append_nil, List.flatten_append, List.flatten_cons, List.flatten_nil,
    List.length_append, length_blobBytes, List.length_nil, List.length_cons]
  omega

theorem recomputed_describedState (description : Bytes) :
    Recomputed (describedState description) := by
  refine ⟨?_, ?_, ?_⟩
  · show ClassifierPolicy.canonicalize {} = .ok {}
    rfl
  · intro c hc
    cases hc
  · intro c hc
    cases hc

theorem readable_describedState {description : Bytes}
    (hstring : description.length ≤ limits.codec.maxStringBytes)
    (hid : 5 ≤ limits.codec.maxStringBytes) (hcount : 1 ≤ limits.maxRecordsPerCollection) :
    SnapshotReadable limits (describedState description) := by
  have hnone : ∀ {α : Type} (p : CodecLimits → α → Prop), RecordsReadable limits p [] := by
    intro α p
    exact ⟨Nat.zero_le _, by simp⟩
  refine ⟨?_, ?_, hnone _, hnone _, hnone _, hnone _, hnone _, hnone _, hnone _⟩
  · refine ⟨Nat.zero_le _, ?_, Nat.zero_le _, ?_⟩
    · intro a ha
      cases ha
    · intro a ha
      cases ha
  · refine ⟨hcount, ?_⟩
    intro record hrecord
    rw [List.mem_singleton.mp hrecord]
    exact ⟨hid, hstring, rfl⟩

def decidedContract : WorkloadContract where
  id := .make (text "c")
  workload := .make (text "w")
  owner := .make (text "agent")
  declaredClass := .collective
  localPortScope := [4000]

def decidedRecord : EvidenceRecord where
  id := .make (text "ev")
  publisher := .make (text "agent")
  semantic := .collective
  source := .declaredAuthenticated

def decidedState : DurableState :=
  { describedState (text "scheduler") with
    contracts :=
      [{ decidedContract with definitionDigest := computeContractDigest decidedContract }]
    evidence := [{ decidedRecord with contentDigest := computeEvidenceDigest decidedRecord }]
    classifications :=
      [{ semantic := .collective, state := .current, selectedEvidence := decidedRecord.id
         citations := [{ id := decidedRecord.id, publisher := decidedRecord.publisher }]
         corroborationCount := 1 }] }

theorem recomputed_decidedState : Recomputed decidedState := by
  refine ⟨(recomputed_describedState (text "scheduler")).policy, ?_, ?_⟩
  · intro c hc
    rw [List.mem_singleton.mp hc]
    rfl
  · intro c hc
    rw [List.mem_singleton.mp hc]
    decide

theorem readable_decidedState : SnapshotReadable {} decidedState := by
  have hdescribed : SnapshotReadable {} (describedState (text "scheduler")) :=
    readable_describedState (by decide) (by decide) (by decide)
  refine ⟨hdescribed.policy, hdescribed.publishers, hdescribed.workloads, ⟨by decide, ?_⟩,
    hdescribed.flows, ⟨by decide, ?_⟩, ⟨by decide, ?_⟩, hdescribed.revocations,
    hdescribed.supersessions⟩
  · unfold contractReadable CodecLimits.Holds CodecLimits.Counts
    decide +kernel
  · unfold evidenceReadable CodecLimits.Holds
    decide +kernel
  · unfold classificationReadable citationReadable contradictionReadable CodecLimits.Holds
      CodecLimits.Counts
    decide +kernel

theorem snapshot_round_trip_decided :
    let snapshot : StateSnapshot := { state := decidedState }
    ∃ data, encodeSnapshot {} snapshot = .ok data ∧ decodeSnapshot {} data = .ok snapshot ∧
      (∃ e, decodeSnapshot {} (data.take 100) = .error e) ∧
      ∃ e, decodeSnapshot {} (data ++ [0]) = .error e := by
  intro snapshot
  have htrip := snapshot_round_trip {} snapshot rfl rfl recomputed_decidedState
    readable_decidedState
  have hsize : (snapshotBody decidedState).flatten.length = 856 := by
    decide +kernel
  obtain ⟨data, hdata⟩ := htrip.1.mpr ⟨by
    rw [hsize]
    decide, by
    rw [hsize]
    decide⟩
  obtain ⟨hread, hshorter, hlonger⟩ := htrip.2 data hdata
  refine ⟨data, hdata, hread, hshorter _ _ (List.take_append_drop 100 data) ?_,
    hlonger [0] (by simp)⟩
  -- the image is longer than its header
  obtain ⟨rfl, -, -⟩ := encodeSnapshot_eq_ok hdata
  rw [Ne, List.drop_eq_nil_iff, length_snapshotBytes, hsize]
  decide

/-- A description of 4 GiB fits a file of 8 GiB and is within the limits for strings, but
the writer of the body counts its bytes with 32 bits. -/
theorem encodeSnapshot_refuses_fitting :
    let limits : SnapshotLimits :=
      { maxFileBytes := 2 ^ 33, codec := { maxStringBytes := 2 ^ 32 - 1 } }
    let snapshot : StateSnapshot := { state := describedState (List.replicate (2 ^ 32 - 1) 0) }
    Recomputed snapshot.state ∧ SnapshotReadable limits snapshot.state ∧
      (snapshotBody snapshot.state).flatten.length + snapshotHeaderBytes ≤ limits.maxFileBytes ∧
      ∃ e, encodeSnapshot limits snapshot = .error e := by
  intro limits snapshot
  have hbase : (snapshotBody (describedState [])).flatten.length = 334 := by
    decide +kernel
  have hsize : (snapshotBody snapshot.state).flatten.length = 334 + (2 ^ 32 - 1) := by
    show (snapshotBody (describedState (List.replicate (2 ^ 32 - 1) 0))).flatten.length = _
    rw [length_describedState, List.length_replicate, hbase]
  refine ⟨recomputed_describedState _, readable_describedState ?_ ?_ ?_, ?_, ?_⟩
  · rw [List.length_replicate]
  · decide
  · decide
  · rw [hsize]
    decide
  · cases hencode : encodeSnapshot limits snapshot with
    | error e => exact ⟨e, rfl⟩
    | ok data =>
      have hbody := (encodeSnapshot_eq_ok hencode).2.2
      rw [hsize, wireBound] at hbody
      omega

end FlowClassifier.Codec
