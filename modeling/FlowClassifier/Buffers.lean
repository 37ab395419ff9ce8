import FlowClassifier.Foundation
import FlowClassifier.Lib.Codec

/-!
`BufferWriter` and `BufferReader`. Integers are little endian of fixed width, blobs
and strings carry a four byte length, and every read is checked against its limit
and against what remains. Each writing step has its image and each reading step its
round trip; the codecs are assembled from these.
-/
namespace FlowClassifier.Buffers

open Lib Foundation

def maxFramePayload : ℕ := 4 * 1024 * 1024
def maxBlobBytes : ℕ := 64 * 1024
def maxStringBytes : ℕ := 512
def maxCollectionCount : ℕ := 4096

abbrev Reader (α : Type) := Get Failure α

def ensureFailure (needed limit : ℕ) : Failure :=
  ⟨.capacityExceeded, text "encoded record of " ++ decimal needed ++
    text " bytes exceeds encoder bound of " ++ decimal limit⟩

/-- A `BufferWriter` run: each chunk is what one `put_` call appends. -/
def encode (limit : ℕ) (chunks : List Bytes) : Result Bytes :=
  writeChunks ensureFailure limit chunks []

def u8Bytes (v : UInt8) : Bytes := [v]
def boolBytes (v : Bool) : Bytes := [if v then 1 else 0]
def u16Bytes (v : UInt16) : Bytes := leBytes 2 v.toNat
def u32Bytes (v : UInt32) : Bytes := leBytes 4 v.toNat
def u64Bytes (v : UInt64) : Bytes := leBytes 8 v.toNat

/-- A collection count, narrowed as `static_cast<std::uint32_t>` narrows it. -/
def countBytes (n : ℕ) : Bytes := u32Bytes (UInt32.ofNat n)

def blobBytes (data : Bytes) : Bytes := countBytes data.length ++ data

section Images

@[simp] theorem length_u16Bytes (v : UInt16) : (u16Bytes v).length = 2 := length_leBytes _ _
@[simp] theorem length_u32Bytes (v : UInt32) : (u32Bytes v).length = 4 := length_leBytes _ _
@[simp] theorem length_u64Bytes (v : UInt64) : (u64Bytes v).length = 8 := length_leBytes _ _
@[simp] theorem length_u8Bytes (v : UInt8) : (u8Bytes v).length = 1 := rfl
@[simp] theorem length_boolBytes (v : Bool) : (boolBytes v).length = 1 := rfl
@[simp] theorem length_countBytes (n : ℕ) : (countBytes n).length = 4 := length_leBytes _ _

@[simp] theorem length_blobBytes (data : Bytes) : (blobBytes data).length = 4 + data.length := by
  rw [blobBytes, List.length_append, length_countBytes]

theorem delimited_u16Bytes : Delimited u16Bytes :=
  Delimited.leBytes UInt16.toNat (fun v => v.toNat_lt) fun _ _ => UInt16.toNat_inj.mp

theorem delimited_u32Bytes : Delimited u32Bytes :=
  Delimited.leBytes UInt32.toNat (fun v => v.toNat_lt) fun _ _ => UInt32.toNat_inj.mp

theorem delimited_u64Bytes : Delimited u64Bytes :=
  Delimited.leBytes UInt64.toNat (fun v => v.toNat_lt) fun _ _ => UInt64.toNat_inj.mp

theorem delimited_u8Bytes : Delimited u8Bytes :=
  Delimited.of_length length_u8Bytes fun x y h => by simpa [u8Bytes] using h

theorem delimited_boolBytes : Delimited boolBytes :=
  Delimited.of_length length_boolBytes fun x y => by cases x <;> cases y <;> simp [boolBytes]

theorem countBytes_cancel {m n : ℕ} {r s : Bytes} (hm : m < 2 ^ 32) (hn : n < 2 ^ 32)
    (h : countBytes m ++ r = countBytes n ++ s) : m = n ∧ r = s := by
  obtain ⟨hcount, hrest⟩ := delimited_u32Bytes h
  have hval := congrArg UInt32.toNat hcount
  rw [UInt32.toNat_ofNat_of_lt' hm, UInt32.toNat_ofNat_of_lt' hn] at hval
  exact ⟨hval, hrest⟩

/-- Blobs are self-delimiting while their length fits the prefix. -/
theorem blobBytes_cancel {a b r s : Bytes} (ha : a.length < 2 ^ 32) (hb : b.length < 2 ^ 32)
    (h : blobBytes a ++ r = blobBytes b ++ s) : a = b ∧ r = s := by
  simp only [blobBytes, List.append_assoc] at h
  obtain ⟨hlen, hrest⟩ := countBytes_cancel ha hb h
  exact List.append_inj hrest hlen

end Images

section Reading

def require (count remaining : ℕ) : Result Unit :=
  if count > remaining then
    Status.failure .malformedRecord (text "truncated record: need " ++ decimal count ++
      text " bytes, have " ++ decimal remaining)
  else .ok ()

def getRaw (count : ℕ) : Reader Bytes := fun input => do
  require count input.length
  return (input.take count, input.drop count)

def getU8 : Reader UInt8 := (fun raw => UInt8.ofNat (ofLeBytes raw)) <$> getRaw 1
def getU16 : Reader UInt16 := (fun raw => UInt16.ofNat (ofLeBytes raw)) <$> getRaw 2
def getU32 : Reader UInt32 := (fun raw => UInt32.ofNat (ofLeBytes raw)) <$> getRaw 4
def getU64 : Reader UInt64 := (fun raw => UInt64.ofNat (ofLeBytes raw)) <$> getRaw 8

def getBool : Reader Bool := do
  let raw ← getU8
  if raw > 1 then
    throw ⟨.malformedRecord, text "boolean field is not 0 or 1"⟩
  return raw == 1

def getBlob (maxLength : ℕ) : Reader Bytes := do
  let declared ← getU32
  if declared.toNat > maxLength then
    throw ⟨.capacityExceeded, text "declared blob length " ++ decimal declared.toNat ++
      text " exceeds limit of " ++ decimal maxLength⟩
  getRaw declared.toNat

def getCount (maxCount : ℕ) : Reader ℕ := do
  let declared ← getU32
  if declared.toNat > maxCount then
    throw ⟨.capacityExceeded, text "declared collection count " ++ decimal declared.toNat ++
      text " exceeds limit of " ++ decimal maxCount⟩
  return declared.toNat

def finish : Reader Unit := fun input =>
  if input.isEmpty then .ok ((), [])
  else Status.failure .trailingGarbage
    (decimal input.length ++ text " trailing bytes after canonical record")

theorem reads_getRaw (data : Bytes) : Reads (getRaw data.length) data data := by
  intro rest
  have hreq : require data.length (data ++ rest).length = .ok () := by
    rw [require, if_neg]
    simp
  simp only [getRaw, StateT.run, hreq, bind, Except.bind]
  simp [pure, Except.pure]

theorem reads_getU8 (v : UInt8) : Reads getU8 (u8Bytes v) v := by
  have h := (reads_getRaw (u8Bytes v)).map fun raw => UInt8.ofNat (ofLeBytes raw)
  simpa [getU8, u8Bytes, ofLeBytes] using h

theorem reads_getU16 (v : UInt16) : Reads getU16 (u16Bytes v) v := by
  have h := (reads_getRaw (u16Bytes v)).map fun raw => UInt16.ofNat (ofLeBytes raw)
  rw [length_u16Bytes, u16Bytes, ofLeBytes_leBytes 2 _ v.toNat_lt, UInt16.ofNat_toNat] at h
  exact h

theorem reads_getU32 (v : UInt32) : Reads getU32 (u32Bytes v) v := by
  have h := (reads_getRaw (u32Bytes v)).map fun raw => UInt32.ofNat (ofLeBytes raw)
  rw [length_u32Bytes, u32Bytes, ofLeBytes_leBytes 4 _ v.toNat_lt, UInt32.ofNat_toNat] at h
  exact h

theorem reads_getU64 (v : UInt64) : Reads getU64 (u64Bytes v) v := by
  have h := (reads_getRaw (u64Bytes v)).map fun raw => UInt64.ofNat (ofLeBytes raw)
  rw [length_u64Bytes, u64Bytes, ofLeBytes_leBytes 8 _ v.toNat_lt, UInt64.ofNat_toNat] at h
  exact h

theorem reads_getBool (v : Bool) : Reads getBool (boolBytes v) v := by
  intro rest
  have hraw := reads_getU8 (if v then 1 else 0) rest
  simp only [getBool, boolBytes, StateT.run_bind]
  rw [show [if v then (1 : UInt8) else 0] = u8Bytes (if v then 1 else 0) from rfl, hraw]
  cases v <;> rfl

end Reading

section Exact

/-- Inputs at least this long could wrap a length prefix. -/
def wireBound : ℕ := 2 ^ 32

abbrev Reader.Decodes {α : Type} (r : Reader α) (bs : Bytes) (readable : Prop) (x : α) : Prop :=
  Lib.Decodes wireBound r bs readable x

def failIf (bad : Prop) [Decidable bad] (code : ErrorCode) (message : Bytes) : Reader Unit :=
  if bad then throw ⟨code, message⟩ else pure ()

theorem decodes_failIf {bad : Prop} [Decidable bad] (code : ErrorCode) (message : Bytes) :
    (failIf bad code message).Decodes [] (¬ bad) () := by
  intro rest _
  unfold failIf
  by_cases h : bad
  · rw [if_pos h]
    exact ⟨fun hnot => absurd h hnot, fun _ => ⟨_, rfl⟩⟩
  · rw [if_neg h]
    exact ⟨fun _ => rfl, fun hnot => absurd h hnot⟩

theorem run_failIf_eq_ok_iff {bad : Prop} [Decidable bad] {code : ErrorCode} {message : Bytes}
    {input rest : Bytes} :
    (failIf bad code message).run input = .ok ((), rest) ↔ ¬ bad ∧ rest = input := by
  unfold failIf
  by_cases h : bad
  · rw [if_pos h]
    constructor
    · intro hrun
      cases hrun
    · intro hrun
      exact absurd h hrun.1
  · rw [if_neg h]
    constructor
    · intro hrun
      cases hrun
      exact ⟨h, rfl⟩
    · intro hrun
      rw [hrun.2]
      rfl

theorem toNat_of_lt_wireBound {n : ℕ} (h : n < wireBound) : (UInt32.ofNat n).toNat = n :=
  UInt32.toNat_ofNat_of_lt' h

theorem decodes_getBlob (maxLength : ℕ) (data : Bytes) :
    (getBlob maxLength).Decodes (blobBytes data) (data.length ≤ maxLength) data := by
  intro rest hlen
  have hdata : (UInt32.ofNat data.length).toNat = data.length := by
    apply toNat_of_lt_wireBound
    rw [List.length_append, length_blobBytes] at hlen
    omega
  have hcount := reads_getU32 (UInt32.ofNat data.length) (data ++ rest)
  rw [blobBytes, List.append_assoc, countBytes, getBlob, StateT.run_bind, hcount]
  simp only [bind, Except.bind, hdata]
  by_cases h : data.length ≤ maxLength
  · rw [if_neg (by omega)]
    exact ⟨fun _ => reads_getRaw data rest, fun hnot => absurd h hnot⟩
  · rw [if_pos (by omega)]
    exact ⟨fun hle => absurd hle h, fun _ => ⟨_, rfl⟩⟩

theorem decodes_getCount (maxCount n : ℕ) (hn : n < wireBound) :
    (getCount maxCount).Decodes (countBytes n) (n ≤ maxCount) n := by
  intro rest _
  have hcount := reads_getU32 (UInt32.ofNat n) rest
  rw [countBytes, getCount, StateT.run_bind, hcount]
  simp only [bind, Except.bind, toNat_of_lt_wireBound hn]
  by_cases h : n ≤ maxCount
  · rw [if_neg (by omega)]
    exact ⟨fun _ => rfl, fun hnot => absurd h hnot⟩
  · rw [if_pos (by omega)]
    exact ⟨fun hle => absurd hle h, fun _ => ⟨_, rfl⟩⟩

def decodeAll {α : Type} (r : Reader α) (input : Bytes) : Result α := do
  let (x, rest) ← r.run input
  let _ ← finish.run rest
  return x

/-- A decoder that reads what was written accepts exactly the readable values. -/
theorem decodeAll_iff {α : Type} {r : Reader α} {bs : Bytes} {readable : Prop} {x : α}
    (h : r.Decodes bs readable x) (hlen : bs.length < wireBound) :
    (readable → decodeAll r bs = .ok x) ∧ (¬ readable → ∃ e, decodeAll r bs = .error e) := by
  obtain ⟨hok, hbad⟩ := h [] (by simpa using hlen)
  rw [List.append_nil] at hok hbad
  refine ⟨fun hr => ?_, fun hr => ?_⟩
  · rw [decodeAll, hok hr]
    rfl
  · obtain ⟨e, he⟩ := hbad hr
    exact ⟨e, by rw [decodeAll, he]; rfl⟩

theorem decodeAll_eq_ok_iff {α : Type} {r : Reader α} {input : Bytes} {x : α} :
    decodeAll r input = .ok x ↔ r.run input = .ok (x, []) := by
  unfold decodeAll
  cases hread : r.run input with
  | error e =>
    constructor
    · intro h
      cases h
    · intro h
      cases h
  | ok out =>
    obtain ⟨y, rest⟩ := out
    cases rest with
    | nil =>
      change Except.ok y = Except.ok x ↔ _
      simp
    | cons b rest =>
      constructor
      · intro h
        cases h
      · intro h
        cases h

theorem local_getRaw (count : ℕ) : Local (getRaw count) := by
  intro input x rest h more
  have hcount : ¬ count > input.length := by
    intro hshort
    simp only [getRaw, StateT.run, require, if_pos hshort] at h
    cases h
  simp only [getRaw, StateT.run, require, if_neg hcount] at h
  cases h
  have hlong : ¬ count > (input ++ more).length := by
    rw [List.length_append]
    omega
  simp only [getRaw, StateT.run, require, if_neg hlong]
  rw [List.take_append_of_le_length (by omega), List.drop_append_of_le_length (by omega)]
  rfl

/-- The decoder returns `x` for the bytes and refuses them when some are missing at the end
or more follow. -/
structure ExactOn {α : Type} (decode : Bytes → Result α) (bytes : Bytes) (x : α) : Prop where
  whole : decode bytes = .ok x
  cut : ∀ {front missing : Bytes}, bytes = front ++ missing → missing ≠ [] →
    ∃ e, decode front = .error e
  longer : ∀ {more : Bytes}, more ≠ [] → ∃ e, decode (bytes ++ more) = .error e

/-- A local reader that takes the whole buffer takes neither less nor more. -/
theorem exactOn_decodeAll {α : Type} {r : Reader α} {bytes : Bytes} {x : α} (hlocal : Local r)
    (h : decodeAll r bytes = .ok x) : ExactOn (decodeAll r) bytes x := by
  have hrun := decodeAll_eq_ok_iff.mp h
  refine ⟨h, fun {front missing} hbytes hmissing => ?_, fun {more} hmore => ?_⟩
  · cases hfront : decodeAll r front with
    | error e => exact ⟨e, rfl⟩
    | ok y =>
      have hlonger := hlocal front y [] (decodeAll_eq_ok_iff.mp hfront) missing
      rw [← hbytes, hrun] at hlonger
      simp only [Except.ok.injEq, Prod.mk.injEq, List.nil_append] at hlonger
      exact absurd hlonger.2.symm hmissing
  · cases hlong : decodeAll r (bytes ++ more) with
    | error e => exact ⟨e, rfl⟩
    | ok y =>
      have hread := decodeAll_eq_ok_iff.mp hlong
      rw [hlocal bytes x [] hrun more] at hread
      simp only [Except.ok.injEq, Prod.mk.injEq, List.nil_append] at hread
      exact absurd hread.2 hmore

end Exact
end FlowClassifier.Buffers
