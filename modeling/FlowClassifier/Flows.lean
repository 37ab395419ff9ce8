import FlowClassifier.Buffers
import FlowClassifier.Hash

/-!
Flow keys and flow records. A key is a five-tuple with its transport; the flow
identity is the first half of the SHA-256 of the canonical encoding of the key.
-/
namespace FlowClassifier.Flows

open Lib Foundation Buffers Hash

structure IpAddress where
  bytes : List.Vector UInt8 16
  deriving DecidableEq

inductive TransportProtocol where
  | unknown | tcp | udp | sctp | rdma
  deriving DecidableEq

namespace TransportProtocol

def code : TransportProtocol → UInt8
  | unknown => 0
  | tcp => 1
  | udp => 2
  | sctp => 3
  | rdma => 4

def toString : TransportProtocol → Bytes
  | unknown => text "UNKNOWN"
  | tcp => text "TCP"
  | udp => text "UDP"
  | sctp => text "SCTP"
  | rdma => text "RDMA"

def table : List TransportProtocol := [unknown, tcp, udp, sctp, rdma]

def decode (code : UInt8) : TransportProtocol :=
  (table.find? fun t => t.code == code).getD unknown

/-- The name of a transport code, which may lie outside the enumeration. -/
def nameOf (code : UInt8) : Bytes :=
  match table.find? fun t => t.code == code with
  | some t => t.toString
  | none => text "UNRECOGNIZED_TRANSPORT"

theorem decode_code (t : TransportProtocol) : decode t.code = t := by
  cases t <;> rfl

end TransportProtocol

structure FlowKey where
  localAddress : IpAddress
  remoteAddress : IpAddress
  localPort : UInt16
  remotePort : UInt16
  transport : TransportProtocol
  deriving DecidableEq

namespace IpAddress

def isV4Mapped (a : IpAddress) : Bool :=
  a.bytes.toList.take 12 == List.replicate 10 0 ++ [255, 255]

def groups (a : IpAddress) : List ℕ :=
  (List.range 8).map fun i =>
    (a.bytes.toList.getD (2 * i) 0).toNat * 256 + (a.bytes.toList.getD (2 * i + 1) 0).toNat

def hexGroup (v : ℕ) : Bytes :=
  if v = 0 then [hexDigit 0] else (Nat.digits 16 v).reverse.map hexDigit

structure ZeroRun where
  start : ℕ
  length : ℕ

def longestRun (i : ℕ) (run best : ZeroRun) : List ℕ → ZeroRun
  | [] => best
  | g :: rest =>
    if g = 0 then
      let run : ZeroRun := ⟨if run.length = 0 then i else run.start, run.length + 1⟩
      longestRun (i + 1) run (if run.length > best.length then run else best) rest
    else longestRun (i + 1) ⟨run.start, 0⟩ best rest

/-- The run that is compressed; a single zero group is not. -/
def compressed (a : IpAddress) : ZeroRun :=
  let best := longestRun 0 ⟨0, 0⟩ ⟨8, 0⟩ a.groups
  if best.length < 2 then ⟨8, 0⟩ else best

/-- The rendering loop; `skip` groups belong to the compressed run. -/
def renderGroups (best : ZeroRun) (i skip : ℕ) (out : Bytes) : List ℕ → Bytes
  | [] => out
  | g :: rest =>
    match skip with
    | skip + 1 => renderGroups best (i + 1) skip out rest
    | 0 =>
      if best.length ≠ 0 ∧ i = best.start then
        renderGroups best (i + 1) (best.length - 1) (out ++ text "::") rest
      else
        let separator := if out.isEmpty || out.getLast? == some 58 then [] else text ":"
        renderGroups best (i + 1) 0 (out ++ separator ++ hexGroup g) rest

/-- Dotted quad for a mapped address, compressed groups otherwise. -/
def toString (a : IpAddress) : Bytes :=
  if a.isV4Mapped then
    (text ".").intercalate ((a.bytes.toList.drop 12).map fun b => decimal b.toNat)
  else
    let out := renderGroups a.compressed 0 0 [] a.groups
    if out.isEmpty then text "::" else out

end IpAddress

def FlowKey.toString (key : FlowKey) : Bytes :=
  key.transport.toString ++ text " " ++ key.localAddress.toString ++ text ":" ++
    decimal key.localPort.toNat ++ text " -> " ++ key.remoteAddress.toString ++ text ":" ++
    decimal key.remotePort.toNat

def flowKeyChunks (key : FlowKey) : List Bytes :=
  [u8Bytes key.transport.code,
   blobBytes key.localAddress.bytes.toList,
   blobBytes key.remoteAddress.bytes.toList,
   u16Bytes key.localPort,
   u16Bytes key.remotePort]

def bigEndianWord (bs : Bytes) : UInt64 := UInt64.ofNat (ofLeBytes bs.reverse)

/-- `derive_flow_id`; the zero identity is never handed out. -/
def deriveFlowId (key : FlowKey) : FlowId :=
  match encode 64 (flowKeyChunks key) with
  | .error _ => {}
  | .ok bytes =>
    let digest := (sha256 bytes).bytes.toList
    let id : FlowId := ⟨bigEndianWord (digest.take 8), bigEndianWord ((digest.drop 8).take 8)⟩
    if id.isZero then { id with lo := 1 } else id

structure FlowRecord where
  id : FlowId
  key : FlowKey
  generation : FlowGeneration
  registeredSeq : Seq := 0
  registeredTick : Tick := tickNone
  lastActivityTick : Tick := tickNone
  registeredBy : SessionId := .none
  renewals : UInt64 := 0

structure FlowRegistration where
  record : FlowRecord
  created : Bool := false
  fencedPrevious : Bool := false
  previousGeneration : FlowGeneration := 0

end FlowClassifier.Flows
