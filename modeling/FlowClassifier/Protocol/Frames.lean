import FlowClassifier.Codec.Messages

/-!
Wire framing. A frame is a header of 44 bytes and a payload; the checksum covers both, with
its own field zeroed. `tryDecodeFrame` looks at what has arrived and answers as soon as it
can: a stream with another magic is refused after four bytes, a header after 44, and a frame
is returned once its payload is there. `FrameStream` keeps what has arrived and holds no more
than one frame of the largest size.
-/
namespace FlowClassifier.Protocol

open Lib Foundation Buffers Hash Codec

def frameHeaderBytes : ℕ := 44

def frameMagic : Bytes := text "AIFC"

def kindCode : MessageKind → UInt16
  | .hello => 1
  | .helloAck => 2
  | .registerPublisher => 3
  | .declareWorkload => 4
  | .proposeContract => 5
  | .activateContract => 6
  | .retireContract => 7
  | .registerFlow => 8
  | .publishEvidence => 9
  | .withdrawEvidence => 10
  | .revokeGeneration => 11
  | .classify => 12
  | .classifyResult => 13
  | .statsRequest => 14
  | .statsResponse => 15
  | .errorResponse => 16
  | .heartbeat => 17
  | .declareWorkloadResult => 18
  | .contractResult => 19
  | .registerFlowResult => 20
  | .publishEvidenceResult => 21
  | .withdrawResult => 22

def kindOfCode : ℕ → Option MessageKind
  | 1 => some .hello
  | 2 => some .helloAck
  | 3 => some .registerPublisher
  | 4 => some .declareWorkload
  | 5 => some .proposeContract
  | 6 => some .activateContract
  | 7 => some .retireContract
  | 8 => some .registerFlow
  | 9 => some .publishEvidence
  | 10 => some .withdrawEvidence
  | 11 => some .revokeGeneration
  | 12 => some .classify
  | 13 => some .classifyResult
  | 14 => some .statsRequest
  | 15 => some .statsResponse
  | 16 => some .errorResponse
  | 17 => some .heartbeat
  | 18 => some .declareWorkloadResult
  | 19 => some .contractResult
  | 20 => some .registerFlowResult
  | 21 => some .publishEvidenceResult
  | 22 => some .withdrawResult
  | _ => none

theorem kindOfCode_kindCode (kind : MessageKind) :
    kindOfCode (kindCode kind).toNat = some kind := by
  cases kind <;> rfl

structure FrameHeader where
  version : UInt16 := protocolVersion
  kind : MessageKind := .hello
  flags : UInt32 := 0
  sequence : UInt64 := 0
  epoch : UInt64 := 0
  boot : UInt64 := 0
  payloadLength : UInt32 := 0
  checksum : UInt32 := 0
  deriving DecidableEq

structure Frame where
  header : FrameHeader
  payload : Bytes
  deriving DecidableEq

/-- The header up to the checksum. The length is that of the payload, whatever the header
says. -/
def frameFields (header : FrameHeader) (payload : Bytes) : Bytes :=
  frameMagic ++ u16Bytes header.version ++ u16Bytes (kindCode header.kind) ++
    u32Bytes header.flags ++ u64Bytes header.sequence ++ u64Bytes header.epoch ++
    u64Bytes header.boot ++ u32Bytes (UInt32.ofNat payload.length)

def frameTag (fields payload : Bytes) : UInt32 :=
  crc32 (fields ++ List.replicate 4 0 ++ payload)

def frameBytes (header : FrameHeader) (payload : Bytes) : Bytes :=
  frameFields header payload ++ u32Bytes (frameTag (frameFields header payload) payload) ++ payload

def encodeFrame (header : FrameHeader) (payload : Bytes) (maxPayload : UInt32) : Result Bytes :=
  if payload.length > maxPayload.toNat then
    Status.failure .capacityExceeded (text "frame payload of " ++ decimal payload.length ++
      text " bytes exceeds the limit of " ++ decimal maxPayload.toNat)
  else .ok (frameBytes header payload)

def notAFrame : Failure := ⟨.malformedFrame, text "stream does not begin with the AIFC frame magic"⟩

def checkFrameHeader (data : Bytes) (maxPayload : UInt32) : Result (MessageKind × ℕ) :=
  let version := headerField data 4 2
  let payloadLength := headerField data 36 4
  if data.take 4 ≠ frameMagic then .error notAFrame
  else if version < protocolVersionMin.toNat ∨ version > protocolVersion.toNat then
    Status.failure .unsupportedVersion (text "frame declares protocol version " ++
      decimal version ++ text "; this build supports " ++ decimal protocolVersionMin.toNat ++
      text " to " ++ decimal protocolVersion.toNat)
  else
    match kindOfCode (headerField data 6 2) with
    | none =>
      Status.failure .malformedFrame (text "frame declares undefined message kind " ++
        decimal (headerField data 6 2))
    | some kind =>
      if payloadLength > maxPayload.toNat then
        Status.failure .capacityExceeded (text "frame declares a payload of " ++
          decimal payloadLength ++ text " bytes, exceeding the limit of " ++
          decimal maxPayload.toNat)
      else .ok (kind, payloadLength)

def readFrame (kind : MessageKind) (data : Bytes) : Result Frame :=
  let payload := data.drop frameHeaderBytes
  let declared := headerField data 40 4
  let computed := frameTag (data.take 40) payload
  if declared ≠ computed.toNat then
    Status.failure .integrityFailure (text "frame integrity tag mismatch: declared " ++
      decimal declared ++ text ", computed " ++ decimal computed.toNat)
  else
    .ok
      { header :=
          { version := UInt16.ofNat (headerField data 4 2)
            kind := kind
            flags := UInt32.ofNat (headerField data 8 4)
            sequence := UInt64.ofNat (headerField data 12 8)
            epoch := UInt64.ofNat (headerField data 20 8)
            boot := UInt64.ofNat (headerField data 28 8)
            payloadLength := UInt32.ofNat (headerField data 36 4)
            checksum := UInt32.ofNat declared }
        payload := payload }

def tryDecodeFrame (maxPayload : UInt32) (data : Bytes) : Result (Option (Frame × ℕ)) :=
  if data.length < frameHeaderBytes then
    -- a prefix only tells whether the stream is this protocol
    if data.length < frameMagic.length then .ok none
    else if data.take 4 ≠ frameMagic then .error notAFrame
    else .ok none
  else
    match checkFrameHeader data maxPayload with
    | .error e => .error e
    | .ok (kind, payloadLength) =>
      if payloadLength > data.length - frameHeaderBytes then .ok none
      else
        let total := frameHeaderBytes + payloadLength
        match readFrame kind (data.take total) with
        | .error e => .error e
        | .ok frame => .ok (some (frame, total))

/-- What has arrived and is not part of a frame yet; never more than one frame can hold. -/
@[ext] structure FrameStream (maxPayload : UInt32) where
  buffer : Bytes
  bounded : buffer.length ≤ maxPayload.toNat + frameHeaderBytes

namespace FrameStream

variable {maxPayload : UInt32}

def new (maxPayload : UInt32) : FrameStream maxPayload := ⟨[], Nat.zero_le _⟩

def appendFailure (maxPayload : UInt32) (buffered size : ℕ) : Failure :=
  ⟨.capacityExceeded, text "peer sent " ++ decimal buffered ++ text " buffered bytes plus " ++
    decimal size ++ text (" new bytes, which cannot contain a complete frame within the " ++
      "configured payload bound of ") ++ decimal maxPayload.toNat⟩

def append (s : FrameStream maxPayload) (data : Bytes) : Result (FrameStream maxPayload) :=
  if h : data.length ≤ maxPayload.toNat + frameHeaderBytes - s.buffer.length then
    .ok ⟨s.buffer ++ data, by
      have hbounded := s.bounded
      rw [List.length_append]
      omega⟩
  else .error (appendFailure maxPayload s.buffer.length data.length)

def compact (s : FrameStream maxPayload) (consumed : ℕ) : FrameStream maxPayload :=
  ⟨s.buffer.drop consumed, by
    have hbounded := s.bounded
    rw [List.length_drop]
    omega⟩

def next (s : FrameStream maxPayload) : Result (Option Frame) × FrameStream maxPayload :=
  match tryDecodeFrame maxPayload s.buffer with
  | .error e => (.error e, s)
  | .ok none => (.ok none, s)
  | .ok (some (frame, consumed)) => (.ok (some frame), s.compact consumed)

end FrameStream
end FlowClassifier.Protocol
