import FlowClassifier.Foundation

/-!
SHA-256 and CRC-32 as the source computes them. The hasher keeps the eight state
words, the number of bytes seen and the filled part of the block buffer; `update`
fills the buffer and compresses each full block, `finish` pads and reads the state
out. The compression works on machine words and reduces by evaluation.
-/
namespace FlowClassifier.Hash

open Lib Foundation

def sha256K : List UInt32 :=
  [0x428a2f98, 0x71374491, 0xb5c0fbcf, 0xe9b5dba5, 0x3956c25b, 0x59f111f1, 0x923f82a4,
   0xab1c5ed5, 0xd807aa98, 0x12835b01, 0x243185be, 0x550c7dc3, 0x72be5d74, 0x80deb1fe,
   0x9bdc06a7, 0xc19bf174, 0xe49b69c1, 0xefbe4786, 0x0fc19dc6, 0x240ca1cc, 0x2de92c6f,
   0x4a7484aa, 0x5cb0a9dc, 0x76f988da, 0x983e5152, 0xa831c66d, 0xb00327c8, 0xbf597fc7,
   0xc6e00bf3, 0xd5a79147, 0x06ca6351, 0x14292967, 0x27b70a85, 0x2e1b2138, 0x4d2c6dfc,
   0x53380d13, 0x650a7354, 0x766a0abb, 0x81c2c92e, 0x92722c85, 0xa2bfe8a1, 0xa81a664b,
   0xc24b8b70, 0xc76c51a3, 0xd192e819, 0xd6990624, 0xf40e3585, 0x106aa070, 0x19a4c116,
   0x1e376c08, 0x2748774c, 0x34b0bcb5, 0x391c0cb3, 0x4ed8aa4a, 0x5b9cca4f, 0x682e6ff3,
   0x748f82ee, 0x78a5636f, 0x84c87814, 0x8cc70208, 0x90befffa, 0xa4506ceb, 0xbef9a3f7,
   0xc67178f2]

structure HashState where
  a : UInt32
  b : UInt32
  c : UInt32
  d : UInt32
  e : UInt32
  f : UInt32
  g : UInt32
  h : UInt32

def sha256Initial : HashState :=
  ⟨0x6a09e667, 0xbb67ae85, 0x3c6ef372, 0xa54ff53a, 0x510e527f, 0x9b05688c, 0x1f83d9ab,
   0x5be0cd19⟩

def rotr32 (value shift : UInt32) : UInt32 := value >>> shift ||| value <<< (32 - shift)

def blockWords : Bytes → List UInt32
  | p0 :: p1 :: p2 :: p3 :: rest =>
    (p0.toUInt32 <<< 24 ||| p1.toUInt32 <<< 16 ||| p2.toUInt32 <<< 8 ||| p3.toUInt32) ::
      blockWords rest
  | _ => []

/-- Extends the message schedule by `n` words; the latest word stands first. -/
def schedule : ℕ → List UInt32 → List UInt32
  | 0, w => w
  | n + 1, w =>
    let w15 := w.getD 14 0
    let w2 := w.getD 1 0
    let s0 := rotr32 w15 7 ^^^ rotr32 w15 18 ^^^ w15 >>> 3
    let s1 := rotr32 w2 17 ^^^ rotr32 w2 19 ^^^ w2 >>> 10
    schedule n ((w.getD 15 0 + s0 + w.getD 6 0 + s1) :: w)

def compressRound (s : HashState) (kw : UInt32 × UInt32) : HashState :=
  let s1 := rotr32 s.e 6 ^^^ rotr32 s.e 11 ^^^ rotr32 s.e 25
  let ch := (s.e &&& s.f) ^^^ (~~~s.e &&& s.g)
  let temp1 := s.h + s1 + ch + kw.1 + kw.2
  let s0 := rotr32 s.a 2 ^^^ rotr32 s.a 13 ^^^ rotr32 s.a 22
  let maj := (s.a &&& s.b) ^^^ (s.a &&& s.c) ^^^ (s.b &&& s.c)
  let temp2 := s0 + maj
  ⟨temp1 + temp2, s.a, s.b, s.c, s.d + temp1, s.e, s.f, s.g⟩

def compress (s : HashState) (block : Bytes) : HashState :=
  let w := (schedule 48 (blockWords block).reverse).reverse
  let t := (sha256K.zip w).foldl compressRound s
  ⟨s.a + t.a, s.b + t.b, s.c + t.c, s.d + t.d, s.e + t.e, s.f + t.f, s.g + t.g, s.h + t.h⟩

def blockBytes : ℕ := 64

structure Sha256 where
  state : HashState := sha256Initial
  totalBytes : UInt64 := 0
  buffer : Bytes := []

namespace Sha256

def updateLoop : ℕ → Sha256 → Bytes → Sha256
  | 0, hasher, _ => hasher
  | fuel + 1, hasher, data =>
    if data.isEmpty then hasher
    else
      let take := min (blockBytes - hasher.buffer.length) data.length
      let buffer := hasher.buffer ++ data.take take
      if buffer.length = blockBytes then
        updateLoop fuel { hasher with state := compress hasher.state buffer, buffer := [] }
          (data.drop take)
      else updateLoop fuel { hasher with buffer := buffer } (data.drop take)

def update (hasher : Sha256) (data : Bytes) : Sha256 :=
  if data.isEmpty then hasher
  else updateLoop data.length
    { hasher with totalBytes := hasher.totalBytes + UInt64.ofNat data.length } data

def wordBytes (w : UInt32) : Bytes :=
  [(w >>> 24).toUInt8, (w >>> 16).toUInt8, (w >>> 8).toUInt8, w.toUInt8]

def digestOf (s : HashState) : Digest256 :=
  ⟨⟨wordBytes s.a ++ wordBytes s.b ++ wordBytes s.c ++ wordBytes s.d ++
    wordBytes s.e ++ wordBytes s.f ++ wordBytes s.g ++ wordBytes s.h, rfl⟩⟩

def finish (hasher : Sha256) : Digest256 × Sha256 :=
  -- the length is captured before the padding is counted
  let bitLength := hasher.totalBytes * 8
  let padded := hasher.update [0x80]
  let buffered := padded.buffer.length
  let toFill := if buffered ≤ 56 then 56 - buffered else 64 - buffered + 56
  let filled := padded.update (List.replicate toFill 0)
  let last := filled.update (leBytes 8 bitLength.toNat).reverse
  (digestOf last.state, { last with buffer := [] })

end Sha256

def sha256 (data : Bytes) : Digest256 :=
  (Sha256.finish (Sha256.update { state := sha256Initial } data)).1

def crc32Entry : ℕ → UInt32 → UInt32
  | 0, c => c
  | k + 1, c =>
    crc32Entry k (if c &&& 1 ≠ 0 then (0xEDB88320 : UInt32) ^^^ (c >>> 1) else c >>> 1)

def crc32Step (value : UInt32) (byte : UInt8) : UInt32 :=
  crc32Entry 8 ((value ^^^ byte.toUInt32) &&& 0xFF) ^^^ value >>> 8

def crc32 (data : Bytes) : UInt32 := data.foldl crc32Step 0xFFFFFFFF ^^^ 0xFFFFFFFF

/-- The published digest of the three letters `abc`. -/
example : (sha256 (text "abc")).bytes.toList.take 4 = [0xba, 0x78, 0x16, 0xbf] := by
  decide +kernel

example : crc32 (text "123456789") = 0xCBF43926 := by decide +kernel

end FlowClassifier.Hash
