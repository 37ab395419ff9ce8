import FlowClassifier.Classifier
import FlowClassifier.Codec.Records

/-!
The file format of the durable state: a header of fixed size with a checksum of its own
and a digest of the body, and a body of one policy and eight collections. A decoder checks
the header, the digest and the length before it decodes, and hands out nothing unless
every record has decoded.
-/
namespace FlowClassifier.Codec

open Lib Foundation Buffers Hash

def snapshotHeaderBytes : ℕ := 88
def snapshotMagic : Bytes := text "AIFS"
def snapshotFormatVersion : UInt16 := 1
def persistenceGeneration : UInt16 := 1
def snapshotBodySchema : UInt8 := 1

structure StateSnapshot where
  formatVersion : UInt16 := snapshotFormatVersion
  persistenceGeneration : UInt16 := Codec.persistenceGeneration
  writtenAtWallMillis : UInt64 := 0
  state : DurableState

structure SnapshotLimits where
  maxFileBytes : ℕ := 256 * 1024 * 1024
  maxRecordsPerCollection : ℕ := 2 ^ 20
  codec : CodecLimits := {}

def encodeRecords {α : Type} (encode : α → List Bytes) (records : List α) : List Bytes :=
  countBytes records.length :: records.flatMap encode

def snapshotBody (state : DurableState) : List Bytes :=
  [u8Bytes snapshotBodySchema] ++
  encodePolicy state.policy ++
  encodeRecords encodePublisherRecord state.publishers ++
  encodeRecords encodeWorkloadRecord state.workloads ++
  encodeRecords encodeContract state.contracts ++
  encodeRecords encodeFlowRecord state.flows ++
  encodeRecords encodeEvidenceRecord state.evidence ++
  encodeRecords encodeClassification state.classifications ++
  encodeRecords encodeRevocation state.revocations ++
  encodeRecords encodeSupersession state.supersessions

def headerFields (snapshot : StateSnapshot) (body : Bytes) : Bytes :=
  snapshotMagic ++ u16Bytes snapshot.formatVersion ++ u16Bytes snapshot.persistenceGeneration ++
    u64Bytes (UInt64.ofNat body.length) ++ u64Bytes snapshot.state.epoch ++
    u64Bytes snapshot.state.coordinatorBoot ++ u64Bytes snapshot.state.sequenceHighWater ++
    u64Bytes snapshot.writtenAtWallMillis ++ (sha256 body).bytes.toList

/-- The checksum of a header, which is computed with its own field zeroed. -/
def headerChecksum (fields : Bytes) : UInt32 :=
  crc32 (fields ++ List.replicate 4 0 ++ List.replicate 4 0)

/-- The bytes of an image; the last four bytes of the header are not used. -/
def snapshotBytes (snapshot : StateSnapshot) (body : Bytes) : Bytes :=
  let fields := headerFields snapshot body
  fields ++ u32Bytes (headerChecksum fields) ++ List.replicate 4 0 ++ body

def encodeSnapshot (limits : SnapshotLimits) (snapshot : StateSnapshot) : Result Bytes :=
  match encode (min limits.maxFileBytes 0xFFFFFFFF) (snapshotBody snapshot.state) with
  | .error e => Status.failure e.code (text "snapshot body encoding failed: " ++ e.message)
  | .ok body =>
    if body.length + snapshotHeaderBytes > limits.maxFileBytes then
      Status.failure .capacityExceeded (text "snapshot body of " ++ decimal body.length ++
        text " bytes exceeds the configured bound")
    else .ok (snapshotBytes snapshot body)

def relabel {α : Type} (r : Reader α) (label : Bytes → Bytes) : Reader α := fun input =>
  match r.run input with
  | .error e => .error ⟨e.code, label e.message⟩
  | .ok out => .ok out

def decodeEach {α : Type} (name : Bytes) (decode : Reader α) : ℕ → ℕ → Reader (List α)
  | _, 0 => pure []
  | i, n + 1 => do
    let record ← relabel decode fun message =>
      name ++ text "[" ++ decimal i ++ text "]: " ++ message
    let rest ← decodeEach name decode (i + 1) n
    return record :: rest

/-- `decode_collection` and `decode_records`: every record takes at least one byte, so a
count larger than what remains cannot be honest. -/
def decodeRecords {α : Type} (limits : SnapshotLimits) (plural name : Bytes)
    (decode : Reader α) : Reader (List α) := do
  let count ← relabel (getCount limits.maxRecordsPerCollection) fun message =>
    plural ++ text ": " ++ message
  let left ← remaining
  failIf (count > left) .malformedRecord
    (name ++ text " declares " ++ decimal count ++ text " records but only " ++ decimal left ++
      text " bytes remain in the snapshot body")
  decodeEach name decode 0 count

def decodeBody (limits : SnapshotLimits) (header : DurableState) : Reader DurableState := do
  let schema ← getU8
  failIf (schema ≠ snapshotBodySchema) .unsupportedFormatVersion
    (text "snapshot body schema " ++ decimal schema.toNat ++ text " is not supported")
  let policy ← relabel (decodePolicy limits.codec) (text "snapshot policy: " ++ ·)
  let publishers ← decodeRecords limits (text "publishers") (text "publisher")
    (decodePublisherRecord limits.codec)
  let workloads ← decodeRecords limits (text "workloads") (text "workload")
    (decodeWorkloadRecord limits.codec)
  let contracts ← decodeRecords limits (text "contracts") (text "contract")
    (decodeContract limits.codec)
  let flows ← decodeRecords limits (text "flows") (text "flow") (decodeFlowRecord limits.codec)
  let evidence ← decodeRecords limits (text "evidence") (text "evidence")
    (decodeEvidenceRecord limits.codec)
  let classifications ← decodeRecords limits (text "classifications") (text "classification")
    (decodeClassification limits.codec)
  let revocations ← decodeRecords limits (text "revocations") (text "revocation")
    (decodeRevocation limits.codec)
  let supersessions ← decodeRecords limits (text "supersessions") (text "supersession")
    (decodeSupersession limits.codec)
  return { header with
    policy, publishers, workloads, contracts, flows, evidence, classifications, revocations,
    supersessions }

def checksumInput (data : Bytes) : Bytes :=
  data.take 80 ++ List.replicate 4 0 ++ (data.drop 84).take 4

def checkHeader (limits : SnapshotLimits) (data : Bytes) : Result Bytes :=
  let bodyLength := headerField data 8 8
  let body := (data.drop snapshotHeaderBytes).take bodyLength
  let present := data.length - snapshotHeaderBytes
  if data.length < snapshotHeaderBytes then
    Status.failure .truncatedState (text "snapshot is " ++ decimal data.length ++
      text " bytes, shorter than the " ++ decimal snapshotHeaderBytes ++ text " byte header")
  else if data.take 4 ≠ snapshotMagic then
    Status.failure .corruptState (text "snapshot does not begin with the AIFS magic")
  else if headerField data 4 2 ≠ snapshotFormatVersion.toNat then
    Status.failure .unsupportedFormatVersion (text "snapshot format version " ++
      decimal (headerField data 4 2) ++
      text " is not supported; this build writes and reads version " ++
      decimal snapshotFormatVersion.toNat)
  else if headerField data 6 2 ≠ persistenceGeneration.toNat then
    Status.failure .unsupportedFormatVersion (text "snapshot persistence generation " ++
      decimal (headerField data 6 2) ++
      text " is not supported; this build writes and reads generation " ++
      decimal persistenceGeneration.toNat)
  else if bodyLength > limits.maxFileBytes then
    Status.failure .capacityExceeded (text "snapshot declares a body of " ++
      decimal bodyLength ++ text " bytes, exceeding the bound of " ++
      decimal limits.maxFileBytes)
  else if bodyLength > present then
    Status.failure .truncatedState (text "snapshot declares " ++ decimal bodyLength ++
      text " body bytes but only " ++ decimal present ++ text " are present")
  else if headerField data 80 4 ≠ (crc32 (checksumInput data)).toNat then
    Status.failure .integrityFailure (text "snapshot header checksum mismatch: declared " ++
      decimal (headerField data 80 4) ++ text ", computed " ++
      decimal (crc32 (checksumInput data)).toNat)
  else if (sha256 body).bytes.toList ≠ (data.drop 48).take 32 then
    Status.failure .integrityFailure (text "snapshot body digest does not match the header")
  else if bodyLength ≠ present then
    Status.failure .trailingGarbage (text "snapshot declares " ++ decimal bodyLength ++
      text " body bytes but " ++ decimal present ++
      text (" bytes follow the header; a snapshot image is exactly one " ++
        "header and one body"))
  else .ok body

def decodeSnapshot (limits : SnapshotLimits) (data : Bytes) : Result StateSnapshot := do
  let body ← checkHeader limits data
  let header : DurableState :=
    { policy := {}
      epoch := UInt64.ofNat (headerField data 16 8)
      coordinatorBoot := UInt64.ofNat (headerField data 24 8)
      sequenceHighWater := UInt64.ofNat (headerField data 32 8) }
  let state ← decodeAll (decodeBody limits header) body
  return { writtenAtWallMillis := UInt64.ofNat (headerField data 40 8), state }

end FlowClassifier.Codec
