import FlowClassifier.Hash
import Mathlib.Analysis.SpecialFunctions.Pow.NthRootLemmas

/-!
The digests against their standards. The hasher keeps whole blocks in its state and the rest
in its buffer, so that any split of a message gives the digest of FIPS 180-4; `finish` feeds
the padding through the same path and leaves it there. The table of the checksum takes eight
steps of the bitwise division at once, and every step is linear.
-/
namespace FlowClassifier.Hash

open Lib Foundation

variable {m : Bytes} {hasher : Sha256}

/-- The first 32 bits of the fractional part of a root of a number. -/
def rootFraction (k p : ℕ) : UInt32 := UInt32.ofNat (Nat.nthRoot k (p * 2 ^ (32 * k)))

def fipsPrimes : List ℕ :=
  [2, 3, 5, 7, 11, 13, 17, 19, 23, 29, 31, 37, 41, 43, 47, 53, 59, 61, 67, 71, 73, 79, 83, 89,
   97, 101, 103, 107, 109, 113, 127, 131, 137, 139, 149, 151, 157, 163, 167, 173, 179, 181, 191,
   193, 197, 199, 211, 223, 227, 229, 233, 239, 241, 251, 257, 263, 269, 271, 277, 281, 283, 293,
   307, 311]

def fipsConstants : List UInt32 := fipsPrimes.map (rootFraction 3)

def fipsInitial : HashState :=
  ⟨rootFraction 2 2, rootFraction 2 3, rootFraction 2 5, rootFraction 2 7, rootFraction 2 11,
    rootFraction 2 13, rootFraction 2 17, rootFraction 2 19⟩

def rotateRight (x : UInt32) (n : ℕ) : UInt32 := ⟨x.toBitVec.rotateRight n⟩

def ch (x y z : UInt32) : UInt32 := (x &&& y) ^^^ (~~~x &&& z)
def maj (x y z : UInt32) : UInt32 := (x &&& y) ^^^ (x &&& z) ^^^ (y &&& z)
def bigSigma0 (x : UInt32) : UInt32 := rotateRight x 2 ^^^ rotateRight x 13 ^^^ rotateRight x 22
def bigSigma1 (x : UInt32) : UInt32 := rotateRight x 6 ^^^ rotateRight x 11 ^^^ rotateRight x 25
def sigma0 (x : UInt32) : UInt32 := rotateRight x 7 ^^^ rotateRight x 18 ^^^ x >>> 3
def sigma1 (x : UInt32) : UInt32 := rotateRight x 17 ^^^ rotateRight x 19 ^^^ x >>> 10

def fipsWord (block : Bytes) (t : ℕ) : UInt32 :=
  UInt32.ofNat (ofLeBytes ((block.drop (4 * t)).take 4).reverse)

def messageWord (block : Bytes) (t : ℕ) : UInt32 :=
  if t < 16 then fipsWord block t
  else messageWord block (t - 16) + sigma0 (messageWord block (t - 15)) +
    messageWord block (t - 7) + sigma1 (messageWord block (t - 2))

def fipsRound (block : Bytes) (s : HashState) (t : ℕ) : HashState :=
  let t1 := s.h + bigSigma1 s.e + ch s.e s.f s.g + fipsConstants.getD t 0 + messageWord block t
  let t2 := bigSigma0 s.a + maj s.a s.b s.c
  ⟨t1 + t2, s.a, s.b, s.c, s.d + t1, s.e, s.f, s.g⟩

def fipsBlock (s : HashState) (block : Bytes) : HashState :=
  let t := (List.range 64).foldl (fipsRound block) s
  ⟨s.a + t.a, s.b + t.b, s.c + t.c, s.d + t.d, s.e + t.e, s.f + t.f, s.g + t.g, s.h + t.h⟩

/-- A one bit, the least number of zeros that leaves room for the length in a last block, and
the length in bits as a word of 64. -/
def padding (length : ℕ) : Bytes :=
  0x80 :: List.replicate ((119 - length % 64) % 64) 0 ++ (leBytes 8 (8 * length % 2 ^ 64)).reverse

def blocksOf (m : Bytes) : List Bytes :=
  (List.range (m.length / 64)).map fun i => (m.drop (64 * i)).take 64

def fipsDigest (s : HashState) : Digest256 :=
  ⟨⟨[s.a, s.b, s.c, s.d, s.e, s.f, s.g, s.h].flatMap fun w => (leBytes 4 w.toNat).reverse, rfl⟩⟩

/-- SHA-256 of FIPS 180-4, which defines it for messages of less than 2^61 bytes. -/
def fips180 (m : Bytes) : Digest256 :=
  fipsDigest ((blocksOf (m ++ padding m.length)).foldl fipsBlock fipsInitial)

def Bracketed (k p : ℕ) (c : UInt32) : Prop :=
  (Nat.nthRoot k p * 2 ^ 32 + c.toNat) ^ k ≤ p * 2 ^ (32 * k) ∧
    p * 2 ^ (32 * k) < (Nat.nthRoot k p * 2 ^ 32 + c.toNat + 1) ^ k

theorem map_rootFraction {k : ℕ} {ps : List ℕ} {cs : List UInt32} (hlen : ps.length = cs.length)
    (h : ∀ pc ∈ ps.zip cs, Bracketed k pc.1 pc.2) : ps.map (rootFraction k) = cs := by
  have hall : List.Forall₂ (Bracketed k) ps cs :=
    List.forall₂_iff_zip.mpr ⟨hlen, @fun p c hpc => h (p, c) hpc⟩
  induction hall with
  | nil => rfl
  | @cons p c ps cs hroot hall ih =>
    have hc : rootFraction k p = c := by
      rw [rootFraction, Nat.nthRoot_eq_of_le_of_lt hroot.1 hroot.2, ← UInt32.toNat_inj]
      simp
    rw [List.map_cons, hc, ih (Nat.succ.inj hlen) fun pc hpc => h pc (List.mem_cons_of_mem _ hpc)]

theorem sha256K_eq : fipsConstants = sha256K := by
  refine map_rootFraction (by decide +kernel) ?_
  unfold Bracketed
  decide +kernel

theorem sha256Initial_eq : fipsInitial = sha256Initial := by
  have hroots : [2, 3, 5, 7, 11, 13, 17, 19].map (rootFraction 2) =
      [0x6a09e667, 0xbb67ae85, 0x3c6ef372, 0xa54ff53a, 0x510e527f, 0x9b05688c, 0x1f83d9ab,
        0x5be0cd19] := by
    refine map_rootFraction rfl ?_
    unfold Bracketed
    decide +kernel
  simp only [List.map_cons, List.map_nil, List.cons.injEq, and_true] at hroots
  obtain ⟨ha, hb, hc, hd, he, hf, hg, hh⟩ := hroots
  rw [fipsInitial, ha, hb, hc, hd, he, hf, hg, hh]
  rfl

theorem rotr32_eq (x : UInt32) {n : UInt32} (hpos : 0 < n) (hlt : n < 32) :
    rotr32 x n = rotateRight x n.toNat := by
  have hn : n.toNat < 32 := UInt32.lt_iff_toNat_lt.mp hlt
  have hp : 0 < n.toNat := UInt32.lt_iff_toNat_lt.mp hpos
  have hleft : (32 - n).toNat = 32 - n.toNat := UInt32.toNat_sub_of_le _ _ (UInt32.le_of_lt hlt)
  have hrest : (32 - n.toNat) % 32 = 32 - n.toNat := Nat.mod_eq_of_lt (by omega)
  rw [← UInt32.toNat_inj, rotr32, UInt32.toNat_or, UInt32.toNat_shiftRight,
    UInt32.toNat_shiftLeft, hleft, hrest]
  show _ = (x.toBitVec.rotateRight n.toNat).toNat
  rw [BitVec.rotateRight_def, BitVec.toNat_or, BitVec.toNat_ushiftRight, BitVec.toNat_shiftLeft,
    Nat.mod_eq_of_lt hn]
  rfl

theorem wordBytes_eq (w : UInt32) : Sha256.wordBytes w = (leBytes 4 w.toNat).reverse := by
  simp only [Sha256.wordBytes, leBytes, List.reverse_cons, List.reverse_nil, List.nil_append,
    List.cons_append, List.cons.injEq]
  simp [← UInt8.toNat_inj, Nat.shiftRight_eq_div_pow, Nat.div_div_eq_div_mul]

theorem digestOf_eq (s : HashState) : Sha256.digestOf s = fipsDigest s := by
  unfold Sha256.digestOf fipsDigest
  simp only [wordBytes_eq]
  rfl

/-- Shifted bytes do not overlap, so their union is their sum. -/
theorem or_bytes (p0 p1 p2 p3 : UInt8) :
    p0.toUInt32 <<< 24 ||| p1.toUInt32 <<< 16 ||| p2.toUInt32 <<< 8 ||| p3.toUInt32 =
      UInt32.ofNat (ofLeBytes [p3, p2, p1, p0]) := by
  have h0 := p0.toNat_lt
  have h1 := p1.toNat_lt
  have h2 := p2.toNat_lt
  have h3 := p3.toNat_lt
  have hshift : ∀ (p : UInt8) (i : UInt32), i.toNat ≤ 24 →
      (p.toUInt32 <<< i).toNat = 2 ^ i.toNat * p.toNat := by
    intro p i hi
    have hp := p.toNat_lt
    have hle : 2 ^ i.toNat ≤ 2 ^ 24 := Nat.pow_le_pow_right (by decide) hi
    have hmod : i.toNat % 32 = i.toNat := Nat.mod_eq_of_lt (by omega)
    have hlt : 2 ^ i.toNat * p.toNat < 2 ^ 32 :=
      lt_of_le_of_lt (Nat.mul_le_mul hle (Nat.le_of_lt_succ hp)) (by decide)
    rw [UInt32.toNat_shiftLeft, UInt8.toNat_toUInt32, hmod, Nat.shiftLeft_eq, Nat.mul_comm,
      Nat.mod_eq_of_lt hlt]
  -- the bytes do not overlap, so they are added from the last one on
  rw [← UInt32.toNat_inj, UInt32.toNat_or, UInt32.toNat_or, UInt32.toNat_or, hshift _ _ (by decide),
    hshift _ _ (by decide), hshift _ _ (by decide), UInt8.toNat_toUInt32, Nat.or_assoc,
    Nat.or_assoc]
  simp only [UInt32.reduceToNat]
  have hlow : 2 ^ 8 * p2.toNat + p3.toNat < 2 ^ 16 := by omega
  have hmiddle : 2 ^ 16 * p1.toNat + (2 ^ 8 * p2.toNat + p3.toNat) < 2 ^ 24 := by omega
  rw [← Nat.two_pow_add_eq_or_of_lt h3, ← Nat.two_pow_add_eq_or_of_lt hlow,
    ← Nat.two_pow_add_eq_or_of_lt hmiddle]
  simp only [ofLeBytes, UInt32.toNat_ofNat']
  omega

theorem getD_blockWords (block : Bytes) (t : ℕ) (h : 4 * t + 4 ≤ block.length) :
    (blockWords block).getD t 0 = fipsWord block t := by
  induction t generalizing block with
  | zero =>
    match block, h with
    | p0 :: p1 :: p2 :: p3 :: rest, _ =>
      exact or_bytes p0 p1 p2 p3
  | succ t ih =>
    match block, h with
    | p0 :: p1 :: p2 :: p3 :: rest, h =>
      refine (ih rest (by simp only [List.length_cons] at h; omega)).trans ?_
      rw [fipsWord, fipsWord, Nat.mul_succ]
      rfl
theorem bigSigma0_eq (x : UInt32) : rotr32 x 2 ^^^ rotr32 x 13 ^^^ rotr32 x 22 = bigSigma0 x := by
  rw [rotr32_eq x (by decide) (by decide), rotr32_eq x (by decide) (by decide),
    rotr32_eq x (by decide) (by decide)]
  rfl

theorem bigSigma1_eq (x : UInt32) : rotr32 x 6 ^^^ rotr32 x 11 ^^^ rotr32 x 25 = bigSigma1 x := by
  rw [rotr32_eq x (by decide) (by decide), rotr32_eq x (by decide) (by decide),
    rotr32_eq x (by decide) (by decide)]
  rfl

theorem sigma0_eq (x : UInt32) : rotr32 x 7 ^^^ rotr32 x 18 ^^^ x >>> 3 = sigma0 x := by
  rw [rotr32_eq x (by decide) (by decide), rotr32_eq x (by decide) (by decide)]
  rfl

theorem sigma1_eq (x : UInt32) : rotr32 x 17 ^^^ rotr32 x 19 ^^^ x >>> 10 = sigma1 x := by
  rw [rotr32_eq x (by decide) (by decide), rotr32_eq x (by decide) (by decide)]
  rfl

theorem compressRound_eq (block : Bytes) (s : HashState) (t : ℕ) :
    compressRound s (fipsConstants.getD t 0, messageWord block t) = fipsRound block s t := by
  unfold compressRound fipsRound
  dsimp only
  rw [bigSigma0_eq, bigSigma1_eq]
  rfl

theorem getD_reverse_map_range (f : ℕ → UInt32) {n j : ℕ} (h : j < n) :
    ((List.range n).map f).reverse.getD j 0 = f (n - 1 - j) := by
  simp [List.getD_eq_getElem?_getD, h]

/-- The latest word stands first, so the recurrence finds its words at fixed places. -/
theorem schedule_messageWord (block : Bytes) (n : ℕ) {m : ℕ} (h : 16 ≤ m) :
    schedule n ((List.range m).map (messageWord block)).reverse =
      ((List.range (m + n)).map (messageWord block)).reverse := by
  induction n generalizing m with
  | zero => rfl
  | succ n ih =>
    rw [schedule, ← Nat.succ_add_eq_add_succ, ← ih (Nat.le_succ_of_le h)]
    simp only [getD_reverse_map_range _ (show 14 < m by omega),
      getD_reverse_map_range _ (show 1 < m by omega),
      getD_reverse_map_range _ (show 15 < m by omega),
      getD_reverse_map_range _ (show 6 < m by omega), sigma0_eq, sigma1_eq]
    have hword : messageWord block m = messageWord block (m - 16) +
        sigma0 (messageWord block (m - 15)) + messageWord block (m - 7) +
        sigma1 (messageWord block (m - 2)) := by
      rw [messageWord, if_neg (by omega)]
    rw [List.range_succ, List.map_append, List.reverse_append, List.map_singleton, hword]
    simp only [Nat.sub_sub]
    rfl

theorem length_blockWords (block : Bytes) : (blockWords block).length = block.length / 4 := by
  fun_induction blockWords block with
  | case1 p0 p1 p2 p3 rest ih =>
    simp only [List.length_cons, ih]
    omega
  | case2 block h =>
    match block, h with
    | [], _ | [_], _ | [_, _], _ | [_, _, _], _ => simp
    | a :: b :: c :: d :: rest, h => exact absurd rfl (h a b c d rest)

/-- One block of the code is one block of the standard. -/
theorem compress_eq_fipsBlock {block : Bytes} (h : block.length = 64) (s : HashState) :
    compress s block = fipsBlock s block := by
  have hwords : blockWords block = (List.range 16).map (messageWord block) := by
    have hlen : (blockWords block).length = 16 := by rw [length_blockWords, h]
    refine List.ext_getElem (by simpa using hlen) fun i hi _ => ?_
    have hi16 : i < 16 := hlen ▸ hi
    rw [List.getElem_map, List.getElem_range, messageWord, if_pos hi16,
      ← getD_blockWords block i (by omega)]
    simp [List.getD_eq_getElem?_getD, hi]
  have hconstants : sha256K = (List.range 64).map fun t => fipsConstants.getD t 0 := by
    rw [sha256K_eq]
    decide +kernel
  have hrounds : (sha256K.zip (schedule 48 (blockWords block).reverse).reverse).foldl
      compressRound s = (List.range 64).foldl (fipsRound block) s := by
    rw [hwords, schedule_messageWord block 48 le_rfl, List.reverse_reverse, hconstants,
      List.zip_map', List.foldl_map]
    simp only [compressRound_eq]
  simp only [compress, fipsBlock, hrounds]

namespace Sha256

/-- The state has taken every full block of the message, and the rest is buffered. -/
def Blocked (hasher : Sha256) (m : Bytes) : Prop :=
  ∃ blocks : List Bytes, (∀ b ∈ blocks, b.length = 64) ∧ m = blocks.flatten ++ hasher.buffer ∧
    hasher.buffer.length < 64 ∧ hasher.state = blocks.foldl fipsBlock fipsInitial

/-- A round fills the buffer, or compresses a block; either keeps the invariant. -/
theorem Blocked.updateLoop {fuel : ℕ} {data : Bytes} (h : Blocked hasher m)
    (hfuel : data.length ≤ fuel) : Blocked (hasher.updateLoop fuel data) (m ++ data) := by
  induction fuel generalizing hasher m data with
  | zero => simpa [Sha256.updateLoop, List.length_eq_zero_iff.mp (Nat.le_zero.mp hfuel)] using h
  | succ fuel ih =>
    obtain ⟨blocks, hblocks, hm, hbuffer, hstate⟩ := h
    rw [Sha256.updateLoop]
    by_cases hempty : data.isEmpty = true
    · rw [if_pos hempty, List.isEmpty_iff.mp hempty, List.append_nil]
      exact ⟨blocks, hblocks, hm, hbuffer, hstate⟩
    rw [if_neg hempty]
    have hpos : 0 < data.length := by simpa [List.length_pos_iff] using hempty
    obtain ⟨take, htake⟩ : ∃ take, min (blockBytes - hasher.buffer.length) data.length = take :=
      ⟨_, rfl⟩
    simp only [htake]
    unfold blockBytes at htake ⊢
    have hrest : (data.drop take).length ≤ fuel := by
      rw [List.length_drop]
      omega
    have hsplit : m ++ data = m ++ data.take take ++ data.drop take := by
      rw [List.append_assoc, List.take_append_drop]
    have hlength : (hasher.buffer ++ data.take take).length = hasher.buffer.length + take := by
      rw [List.length_append, List.length_take]
      omega
    rw [hsplit]
    split_ifs with hfull
    · refine ih ⟨blocks ++ [hasher.buffer ++ data.take take], ?_, ?_, by simp, ?_⟩ hrest
      · simp only [List.mem_append, List.mem_singleton]
        rintro b (hb | rfl)
        · exact hblocks b hb
        · exact hfull
      · simp [hm]
      · rw [List.foldl_append, ← hstate]
        exact compress_eq_fipsBlock hfull _
    · refine ih ⟨blocks, hblocks, by simp [hm], ?_, hstate⟩ hrest
      rw [hlength] at hfull
      change (hasher.buffer ++ data.take take).length < 64
      omega

theorem totalBytes_updateLoop (fuel : ℕ) (hasher : Sha256) (data : Bytes) :
    (hasher.updateLoop fuel data).totalBytes = hasher.totalBytes := by
  induction fuel generalizing hasher data with
  | zero => rfl
  | succ fuel ih =>
    rw [updateLoop]
    split_ifs
    · rfl
    · simp only
      split_ifs
      · exact ih _ _
      · exact ih _ _

structure Absorbed (hasher : Sha256) (m : Bytes) : Prop where
  blocked : Blocked hasher m
  total : hasher.totalBytes = UInt64.ofNat m.length

theorem absorbed_new : Absorbed {} [] :=
  ⟨⟨[], by simp, rfl, by decide, sha256Initial_eq.symm⟩, rfl⟩

theorem Absorbed.update (h : Absorbed hasher m) (data : Bytes) :
    Absorbed (hasher.update data) (m ++ data) := by
  unfold Sha256.update
  split_ifs with hempty
  · simpa [List.isEmpty_iff.mp hempty] using h
  · refine ⟨Blocked.updateLoop h.blocked le_rfl, ?_⟩
    rw [totalBytes_updateLoop, List.length_append, h.total, UInt64.ofNat_add]

theorem Absorbed.updates (h : Absorbed hasher m)
    (pieces : List Bytes) : Absorbed (pieces.foldl Sha256.update hasher) (m ++ pieces.flatten) := by
  induction pieces generalizing hasher m with
  | nil => simpa using h
  | cons piece rest ih => simpa using ih (h.update piece)

/-- Whole blocks are cut where they were joined. -/
theorem blocksOf_flatten {blocks : List Bytes} (h : ∀ b ∈ blocks, b.length = 64) :
    blocksOf blocks.flatten = blocks := by
  induction blocks with
  | nil => rfl
  | cons b rest ih =>
    obtain ⟨hb, hrest⟩ := List.forall_mem_cons.mp h
    have hcount : (b :: rest).flatten.length / 64 = rest.flatten.length / 64 + 1 := by
      rw [List.flatten_cons, List.length_append, hb]
      omega
    rw [blocksOf, hcount, List.range_succ_eq_map, List.map_cons, List.map_map, List.flatten_cons]
    congr 1
    · simp [hb]
    · refine Eq.trans (List.map_congr_left fun i _ => ?_) (ih hrest)
      rw [Function.comp, List.drop_append, List.drop_of_length_le (by omega), hb]
      simp [show 64 * (i + 1) - 64 = 64 * i by omega]

theorem Blocked.length_buffer (h : Blocked hasher m) : hasher.buffer.length = m.length % 64 := by
  obtain ⟨blocks, hblocks, hm, hbuffer, -⟩ := h
  have hlength := congrArg List.length hm
  rw [List.length_append, List.length_flatten, List.map_congr_left hblocks, List.map_const',
    List.sum_replicate_nat] at hlength
  omega

/-- The digest is that of the message; the padding is absorbed as well. -/
theorem Absorbed.finish (h : Absorbed hasher m) :
    hasher.finish.1 = fips180 m ∧ Absorbed hasher.finish.2 (m ++ padding m.length) := by
  have hpadded := h.update [0x80]
  have hbuffered := hpadded.blocked.length_buffer
  have hfill : (if (hasher.update [0x80]).buffer.length ≤ 56 then
      56 - (hasher.update [0x80]).buffer.length
      else 64 - (hasher.update [0x80]).buffer.length + 56) = (119 - m.length % 64) % 64 := by
    rw [List.length_append, List.length_singleton] at hbuffered
    split_ifs <;> omega
  have hbits : (hasher.totalBytes * 8).toNat = 8 * m.length % 2 ^ 64 := by
    rw [h.total]
    simp
    omega
  have hlast := (hpadded.update (List.replicate ((119 - m.length % 64) % 64) 0)).update
    (leBytes 8 (8 * m.length % 2 ^ 64)).reverse
  rw [show m ++ [0x80] ++ List.replicate ((119 - m.length % 64) % 64) 0 ++
    (leBytes 8 (8 * m.length % 2 ^ 64)).reverse = m ++ padding m.length by simp [padding]] at hlast
  simp only [Sha256.finish, hfill, hbits]
  generalize Sha256.update _ (leBytes 8 (8 * m.length % 2 ^ 64)).reverse = last at hlast ⊢
  -- the length field ends on a block boundary
  have hnil : last.buffer = [] := by
    have hlength := hlast.blocked.length_buffer
    simp only [padding, List.length_append, List.length_cons, List.length_replicate,
      List.length_reverse, length_leBytes] at hlength
    exact List.length_eq_zero_iff.mp (by omega)
  obtain ⟨blocks, hblocks, hm, hbuffer, hstate⟩ := hlast.blocked
  rw [hnil, List.append_nil] at hm
  refine ⟨?_, ⟨blocks, hblocks, by simpa using hm, by simp, hstate⟩, hlast.total⟩
  rw [fips180, hm, blocksOf_flatten hblocks, ← hstate, digestOf_eq]

end Sha256

/-- Any split of a message into updates of a new hasher gives its SHA-256 digest. -/
theorem sha256_is_fips180 (pieces : List Bytes) :
    (pieces.foldl Sha256.update {}).finish.1 = fips180 pieces.flatten :=
  (Sha256.absorbed_new.updates pieces).finish.1

/-- A second digest is that of the message with the padding of the first one in it. -/
theorem intermediate_digest_iff (a b : Bytes) :
    let first := (Sha256.update {} a).finish
    first.1 = fips180 a ∧ ((first.2.update b).finish.1 = fips180 (a ++ b) ↔
      fips180 (a ++ padding a.length ++ b) = fips180 (a ++ b)) := by
  intro first
  obtain ⟨hfirst, hrest⟩ := (Sha256.absorbed_new.update a).finish
  exact ⟨hfirst, by rw [(hrest.update b).finish.1]; rfl⟩

theorem second_digest_differs :
    ((Sha256.update {} []).finish.2.update []).finish.1 ≠ fips180 [] := by
  have hempty : fips180 [] = (Sha256.update {} []).finish.1 :=
    (Sha256.absorbed_new.update []).finish.1.symm
  rw [hempty]
  decide +kernel

def crcShift (c : UInt32) : UInt32 :=
  if c &&& 1 ≠ 0 then (0xEDB88320 : UInt32) ^^^ (c >>> 1) else c >>> 1

def crcBit (c : UInt32) (bit : Bool) : UInt32 := crcShift (c ^^^ if bit then 1 else 0)

def bitsOf (byte : UInt8) : List Bool := (List.range 8).map byte.toNat.testBit

/-- The reflected CRC-32 of a message, bit by bit. -/
def bitwiseCrc32 (data : Bytes) : UInt32 :=
  (data.flatMap bitsOf).foldl crcBit 0xFFFFFFFF ^^^ 0xFFFFFFFF

theorem and_one (c : UInt32) : c &&& 1 = 0 ∨ c &&& 1 = 1 := by
  rw [← UInt32.toNat_inj, ← UInt32.toNat_inj, UInt32.toNat_and]
  simp [Nat.and_one_is_mod]
  omega

theorem xor_and (a b m : UInt32) : (a ^^^ b) &&& m = (a &&& m) ^^^ (b &&& m) := by
  rw [← UInt32.toBitVec_inj]
  ext i
  simp [Bool.and_xor_distrib_right]

theorem xor_cancel (p a b : UInt32) : p ^^^ a ^^^ (p ^^^ b) = a ^^^ b := by
  rw [UInt32.xor_comm p a, UInt32.xor_assoc, ← UInt32.xor_assoc p p, UInt32.xor_self,
    UInt32.zero_xor]

theorem crcShift_xor (a b : UInt32) : crcShift (a ^^^ b) = crcShift a ^^^ crcShift b := by
  unfold crcShift
  rw [xor_and, UInt32.shiftRight_xor]
  rcases and_one a with ha | ha <;> rcases and_one b with hb | hb <;> simp [ha, hb]
  · ac_rfl
  · ac_rfl
  · exact (xor_cancel _ _ _).symm

theorem crc32Entry_xor (k : ℕ) (a b : UInt32) :
    crc32Entry k (a ^^^ b) = crc32Entry k a ^^^ crc32Entry k b := by
  induction k generalizing a b with
  | zero => rfl
  | succ k ih => exact (congrArg (crc32Entry k) (crcShift_xor a b)).trans (ih _ _)

/-- Without low bits there is nothing to divide by. -/
theorem crc32Entry_of_low {k m : ℕ} {c : UInt32} (h : c.toNat = 2 ^ k * m) :
    (crc32Entry k c).toNat = m := by
  induction k generalizing c with
  | zero => simpa [crc32Entry] using h
  | succ k ih =>
    rw [pow_succ', mul_assoc] at h
    have heven : c &&& 1 = 0 := by
      rw [← UInt32.toNat_inj, UInt32.toNat_and]
      simp [Nat.and_one_is_mod, h]
    rw [crc32Entry, if_neg (not_not.mpr heven)]
    exact ih (by simp [Nat.shiftRight_eq_div_pow, h])

theorem foldl_crcBit (c : UInt32) (bits : List Bool) :
    bits.foldl crcBit c = crc32Entry bits.length c ^^^ bits.foldl crcBit 0 := by
  induction bits generalizing c with
  | nil => simp [crc32Entry]
  | cons bit rest ih =>
    rw [List.foldl_cons, List.foldl_cons, ih, ih (crcBit 0 bit), ← UInt32.xor_assoc]
    congr 1
    rw [List.length_cons]
    change _ = crc32Entry _ (crcShift c) ^^^ _
    rw [← crc32Entry_xor]
    simp [crcBit, ← crcShift_xor]

theorem foldl_crcBit_zero (byte : UInt8) :
    (bitsOf byte).foldl crcBit 0 = crc32Entry 8 byte.toUInt32 := by
  have h : ∀ n : Fin 256, (bitsOf (UInt8.ofNat n)).foldl crcBit 0 =
      crc32Entry 8 (UInt8.ofNat n).toUInt32 := by decide +kernel
  simpa using h ⟨byte.toNat, byte.toNat_lt⟩

theorem low_xor_high (c : UInt32) : (c &&& 0xFF : UInt32) ^^^ ((c >>> 8) <<< 8) = c := by
  rw [← UInt32.toBitVec_inj]
  ext i hi
  have hlow : (255#32)[i] = decide (i < 8) := Nat.testBit_two_pow_sub_one 8 i
  by_cases h : i < 8
  · simp [h, hlow]
  · simp [h, hlow, show 8 + (i - 8) = i by omega, BitVec.getLsbD_eq_getElem hi]

theorem toUInt32_and_mask (byte : UInt8) : byte.toUInt32 &&& 0xFF = byte.toUInt32 := by
  rw [← UInt32.toNat_inj, UInt32.toNat_and]
  exact (Nat.and_two_pow_sub_one_eq_mod _ 8).trans (by simp)

/-- The table takes eight bits at once. -/
theorem foldl_bitsOf (c : UInt32) (byte : UInt8) :
    (bitsOf byte).foldl crcBit c = crc32Step c byte := by
  have hhigh : crc32Entry 8 ((c >>> 8) <<< 8) = c >>> 8 := by
    have hlt := c.toNat_lt
    rw [← UInt32.toNat_inj, crc32Entry_of_low (m := c.toNat / 256)]
    · simp [Nat.shiftRight_eq_div_pow]
    · simp [Nat.shiftRight_eq_div_pow, Nat.shiftLeft_eq]
      omega
  have hentry : crc32Entry 8 c = crc32Entry 8 (c &&& 0xFF) ^^^ c >>> 8 := by
    rw [← hhigh, ← crc32Entry_xor, low_xor_high]
  rw [foldl_crcBit, foldl_crcBit_zero, crc32Step, xor_and, toUInt32_and_mask, crc32Entry_xor,
    show (bitsOf byte).length = 8 by simp [bitsOf], hentry]
  ac_rfl

def crc32Update (value : UInt32) (data : Bytes) : UInt32 := data.foldl crc32Step value

theorem crc32Step_xor (a b : UInt32) (x y : UInt8) :
    crc32Step (a ^^^ b) (x ^^^ y) = crc32Step a x ^^^ crc32Step b y := by
  have hsplit : a ^^^ b ^^^ (x ^^^ y).toUInt32 = (a ^^^ x.toUInt32) ^^^ (b ^^^ y.toUInt32) := by
    rw [UInt8.toUInt32_xor]
    ac_rfl
  simp only [crc32Step, hsplit, xor_and, crc32Entry_xor, UInt32.shiftRight_xor]
  ac_rfl

theorem foldl_crc32Step_xor {xs ys : Bytes} (hlen : xs.length = ys.length) (a b : UInt32) :
    (List.zipWith (· ^^^ ·) xs ys).foldl crc32Step (a ^^^ b) =
      xs.foldl crc32Step a ^^^ ys.foldl crc32Step b := by
  induction xs generalizing ys a b with
  | nil => simp [List.length_eq_zero_iff.mp hlen.symm]
  | cons x xs ih =>
    obtain ⟨y, ys, rfl⟩ := List.exists_cons_of_length_eq_add_one hlen.symm
    rw [List.zipWith_cons_cons, List.foldl_cons, crc32Step_xor, ih (by simpa using hlen)]
    rfl

theorem crc32_xor {xs ys : Bytes} (h : xs.length = ys.length) :
    crc32 xs ^^^ crc32 ys = (List.zipWith (· ^^^ ·) xs ys).foldl crc32Step 0 := by
  have hfold := foldl_crc32Step_xor h 0xFFFFFFFF 0xFFFFFFFF
  rw [UInt32.xor_self] at hfold
  rw [hfold, crc32, crc32, UInt32.xor_comm _ 0xFFFFFFFF, UInt32.xor_comm _ 0xFFFFFFFF]
  exact xor_cancel _ _ _

/-- Over any split into updates the register holds the bitwise remainder, and what two
messages of one length differ in determines what their values differ in. -/
theorem crc32_is_ieee (pieces : List Bytes) :
    pieces.foldl crc32Update 0xFFFFFFFF ^^^ 0xFFFFFFFF = bitwiseCrc32 pieces.flatten ∧
    ∀ xs ys xs' ys' : Bytes, xs.length = ys.length → xs'.length = ys'.length →
      List.zipWith (· ^^^ ·) xs ys = List.zipWith (· ^^^ ·) xs' ys' →
      crc32 xs ^^^ crc32 ys = crc32 xs' ^^^ crc32 ys' := by
  constructor
  · rw [bitwiseCrc32, List.foldl_flatMap]
    simp only [foldl_bitsOf]
    rw [List.foldl_flatten]
    rfl
  · intro xs ys xs' ys' hlen hlen' hxor
    rw [crc32_xor hlen, crc32_xor hlen', hxor]

theorem crc32_is_ieee_sample :
    [text "1234", [], text "56789"].foldl crc32Update 0xFFFFFFFF ^^^ 0xFFFFFFFF =
      bitwiseCrc32 (text "123456789") ∧
    crc32 [1, 2] ^^^ crc32 [3, 4] = crc32 [0, 0] ^^^ crc32 [2, 6] := by
  have h := crc32_is_ieee [text "1234", [], text "56789"]
  exact ⟨h.1, h.2 [1, 2] [3, 4] [0, 0] [2, 6] rfl rfl rfl⟩

/-- Only the first word of the table has a clear top byte, so a register whose top byte a
step leaves clear was moved down. -/
theorem crc32Step_of_small {c : UInt32} {x : UInt8} (h : (crc32Step c x).toNat < 2 ^ 24) :
    (c ^^^ x.toUInt32) &&& 0xFF = 0 ∧ crc32Step c x = c >>> 8 := by
  have htable : ∀ n : Fin 256, crc32Entry 8 (UInt32.ofNat n) >>> 24 = 0 → n = 0 := by
    decide +kernel
  have hlow : (c ^^^ x.toUInt32) &&& 0xFF = 0 := by
    generalize hn : (c ^^^ x.toUInt32) &&& 0xFF = index
    have hlt : index.toNat < 256 := by
      rw [← hn, UInt32.toNat_and]
      exact Nat.lt_succ_of_le Nat.and_le_right
    have htop : crc32Entry 8 index >>> 24 = 0 := by
      have hstep : crc32Step c x >>> 24 = 0 := by
        rw [← UInt32.toNat_inj]
        simpa [Nat.shiftRight_eq_div_pow] using h
      have hmoved : c >>> 8 >>> 24 = 0 := by
        have hc := c.toNat_lt
        rw [← UInt32.toNat_inj]
        simp [Nat.shiftRight_eq_div_pow]
        omega
      rwa [crc32Step, hn, UInt32.shiftRight_xor, hmoved, UInt32.xor_zero] at hstep
    have hzero := htable ⟨index.toNat, hlt⟩ (by simpa using htop)
    rw [← UInt32.toNat_inj]
    simpa using congrArg Fin.val hzero
  refine ⟨hlow, ?_⟩
  rw [crc32Step, hlow, show crc32Entry 8 0 = 0 by decide, UInt32.zero_xor]

/-- Four bytes that clear a register take it in, byte by byte. -/
theorem lt_of_foldl_crc32Step {d : Bytes} {c : UInt32} (hd : d.length ≤ 4)
    (h : d.foldl crc32Step c = 0) : c.toNat < 2 ^ (8 * d.length) := by
  induction d generalizing c with
  | nil => simpa [← UInt32.toNat_inj] using h
  | cons x d ih =>
    rw [List.length_cons] at hd ⊢
    have hstep := ih (by omega) h
    have hsmall : (crc32Step c x).toNat < 2 ^ 24 :=
      Nat.lt_of_lt_of_le hstep (Nat.pow_le_pow_right (by decide) (by omega))
    rw [(crc32Step_of_small hsmall).2] at hstep
    have hdiv : c.toNat / 2 ^ 8 < 2 ^ (8 * d.length) := by
      simpa [Nat.shiftRight_eq_div_pow] using hstep
    rw [Nat.mul_succ, pow_add]
    exact Nat.lt_mul_of_div_lt hdiv (by decide)

theorem eq_zero_of_foldl_crc32Step {d : Bytes} (hd : d.length ≤ 4)
    (h : d.foldl crc32Step 0 = 0) : ∀ x ∈ d, x = 0 := by
  induction d with
  | nil => exact fun _ hx => absurd hx List.not_mem_nil
  | cons x d ih =>
    rw [List.length_cons] at hd
    have hstep := lt_of_foldl_crc32Step (d := d) (by omega) h
    have hsmall : (crc32Step 0 x).toNat < 2 ^ 24 :=
      Nat.lt_of_lt_of_le hstep (Nat.pow_le_pow_right (by decide) (by omega))
    have hx : x = 0 := by
      have hindex := (crc32Step_of_small hsmall).1
      rw [UInt32.zero_xor, toUInt32_and_mask] at hindex
      rw [← UInt8.toNat_inj, ← UInt8.toNat_toUInt32, hindex]
      rfl
    rw [List.foldl_cons, hx, show crc32Step 0 0 = 0 by decide] at h
    exact List.forall_mem_cons.mpr ⟨hx, ih (by omega) h⟩

/-- Zero bytes never clear a register. -/
theorem foldl_crc32Step_replicate {n : ℕ} {c : UInt32} :
    (List.replicate n 0).foldl crc32Step c = 0 ↔ c = 0 := by
  induction n generalizing c with
  | zero => rfl
  | succ n ih =>
    rw [List.replicate_succ, List.foldl_cons, ih]
    constructor
    · intro h
      obtain ⟨hlow, hhigh⟩ := crc32Step_of_small (c := c) (x := 0) (by rw [h]; decide)
      have hlow' : c &&& 0xFF = 0 := by simpa using hlow
      rw [← low_xor_high c, hlow', ← hhigh, h]
      rfl
    · rintro rfl
      decide

/-- Two messages that differ in at most four consecutive bytes have different values. -/
theorem crc32_burst {front old new back : Bytes} (hlen : new.length = old.length)
    (hfour : old.length ≤ 4)
    (h : crc32 (front ++ new ++ back) = crc32 (front ++ old ++ back)) : new = old := by
  have hself (l : Bytes) : List.zipWith (· ^^^ ·) l l = List.replicate l.length 0 := by
    simp [List.zipWith_self]
  have hlen' : (front ++ new ++ back).length = (front ++ old ++ back).length := by simp [hlen]
  have hfold := crc32_xor hlen'
  rw [h, UInt32.xor_self, List.zipWith_append (by simp [hlen]), List.zipWith_append rfl,
    hself, hself, List.foldl_append, List.foldl_append, foldl_crc32Step_replicate.mpr rfl] at hfold
  have hzero := eq_zero_of_foldl_crc32Step (by simp [hlen, hfour])
    (foldl_crc32Step_replicate.mp hfold.symm)
  apply List.ext_getElem hlen
  intro i hi hi'
  have hbyte := hzero (new[i] ^^^ old[i]) (List.mem_iff_getElem.mpr ⟨i, by simp [hi, hi'], by simp⟩)
  exact UInt8.xor_eq_zero_iff.mp hbyte

end FlowClassifier.Hash
