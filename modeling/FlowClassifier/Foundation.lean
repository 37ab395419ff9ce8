import FlowClassifier.Lib.Numerals
import FlowClassifier.Lib.Words
import Mathlib.Data.List.Lex
import Mathlib.Data.Prod.Lex
import Mathlib.Data.Vector.Defs

/-!
Errors, identities, counters and confidence. A `std::string` of the source is a
list of bytes, compared as the source compares it. String identities carry the
proof that their text is empty or canonical, which is what `make_publisher_id`
and its siblings leave behind, so a non-canonical identity cannot be built.
-/
namespace FlowClassifier.Foundation

open Lib

abbrev Bytes := List UInt8

def text (s : String) : Bytes := s.toList.map fun c => UInt8.ofNat c.toNat

inductive ErrorCode where
  | ok | invalidArgument | malformedInput | unsupportedVersion | malformedFrame
  | malformedRecord | trailingGarbage | integrityFailure | capacityExceeded
  | arithmeticOverflow | outOfRange | unsupportedOperation | counterExhausted
  | unauthenticated | unauthorized | unknownPublisher | unknownWorkload | unknownFlow
  | unknownContract | publisherDead | contractMismatch | contractRetired
  | evidenceWithdrawn | viaUntrustedChannel | heuristicDisabled
  | staleGeneration | staleBootId | staleEpoch | stalePolicyGeneration | staleEvidence
  | replayDetected | duplicateIdentity | revalidationRequired
  | contradictoryEvidence | superseded | revoked | evidenceInsufficient
  | insufficientEvidence
  | ioError | notFound | alreadyExists | corruptState | truncatedState
  | unsupportedFormatVersion | durabilityFailure
  | notRunning | alreadyRunning | shuttingDown | timeout | cancelled | connectionClosed
  | connectionReset | bindFailed | unreachable | sessionLimit | ambiguousCompletion
  | internalError
  deriving DecidableEq

structure Failure where
  code : ErrorCode
  message : Bytes
  deriving DecidableEq

/-- `Result<T>`; a `Status` is a `Result Unit`. -/
abbrev Result (α : Type) := Except Failure α

theorem bind_eq_ok_iff {α β : Type} {x : Result α} {g : α → Result β} {y : β} :
    x >>= g = .ok y ↔ ∃ a, x = .ok a ∧ g a = .ok y := by
  cases x <;> simp [bind, Except.bind]

-- what a call answers, or a table holds, can be evaluated together with a property of it
instance decidableExistsSome {α : Type} {p : α → Prop} [DecidablePred p] :
    (o : Option α) → Decidable (∃ a, o = some a ∧ p a)
  | none => isFalse (by simp)
  | some a => decidable_of_iff (p a) (by simp)

instance decidableExistsOk {α : Type} {p : α → Prop} [DecidablePred p] :
    (r : Result α) → Decidable (∃ a, r = .ok a ∧ p a)
  | .error _ => isFalse (by simp)
  | .ok a => decidable_of_iff (p a) (by simp)

theorem exists_ok {α : Type} {r : Result α} (h : r.isOk = true) : ∃ a, r = .ok a := by
  cases r with
  | error e => cases h
  | ok a => exact ⟨a, rfl⟩

theorem exists_ok_pair {α β : Type} {p : Result α × β} (h : p.1.isOk = true) :
    ∃ a b, p = (.ok a, b) := by
  obtain ⟨a, ha⟩ := exists_ok h
  exact ⟨a, p.2, by rw [← ha]⟩

def Status.failure {α : Type} (code : ErrorCode) (message : Bytes) : Result α :=
  .error ⟨code, message⟩

@[simp] theorem Status.failure_ne_ok {α : Type} (code : ErrorCode) (message : Bytes) (a : α) :
    (Status.failure code message = Except.ok a) = False := by
  simp [Status.failure]

def render (n : UInt64) : Bytes := decimal n.toNat

def maxIdentityBytes : ℕ := 128

def isIdentityByte (c : UInt8) : Bool :=
  (97 ≤ c && c ≤ 122) || (48 ≤ c && c ≤ 57) || c == 46 || c == 95 || c == 58 || c == 45

def foldAscii (c : UInt8) : UInt8 := if 65 ≤ c && c ≤ 90 then c - 65 + 97 else c

def isCanonicalIdentity (value : Bytes) : Bool :=
  !value.isEmpty && value.length ≤ maxIdentityBytes &&
    value.all fun c => foldAscii c == c && isIdentityByte c

/-- Identities that end in hexadecimal digits are canonical. -/
theorem isCanonicalIdentity_append_hexText {tag bs : Bytes} (htag : isCanonicalIdentity tag = true)
    (hlen : tag.length + 2 * bs.length ≤ maxIdentityBytes) :
    isCanonicalIdentity (tag ++ hexText bs) = true := by
  simp only [isCanonicalIdentity, Bool.and_eq_true, decide_eq_true_eq, List.all_eq_true,
    Bool.not_eq_true', List.isEmpty_eq_false_iff] at htag ⊢
  obtain ⟨⟨hne, -⟩, hbytes⟩ := htag
  refine ⟨⟨by simp [hne], by simpa using hlen⟩, ?_⟩
  intro c hc
  rcases List.mem_append.mp hc with htag | hhex
  · exact hbytes c htag
  · obtain ⟨d, hd, rfl⟩ := mem_hexText hhex
    interval_cases d <;> decide

inductive IdKind where
  | publisher | workload | evidence | contract | session
  deriving DecidableEq

/-- `StringId<Tag>`: the empty identity, or a canonical one. -/
structure StringId (kind : IdKind) where
  value : Bytes
  canonical : value = [] ∨ isCanonicalIdentity value = true

abbrev PublisherId := StringId .publisher
abbrev WorkloadId := StringId .workload
abbrev EvidenceId := StringId .evidence
abbrev ContractId := StringId .contract
abbrev SessionId := StringId .session

namespace StringId

variable {kind : IdKind}

theorem ext_value {a b : StringId kind} (h : a.value = b.value) : a = b := by
  cases a
  cases b
  cases h
  rfl

theorem value_injective : Function.Injective (@value kind) :=
  fun _ _ => ext_value

instance : DecidableEq (StringId kind) := fun a b =>
  decidable_of_iff (a.value = b.value) ⟨ext_value, congrArg value⟩

instance : LawfulBEq (StringId kind) := inferInstance

instance : LinearOrder (StringId kind) := LinearOrder.lift' value value_injective

def none : StringId kind := ⟨[], .inl rfl⟩

def isEmpty (id : StringId kind) : Bool := id.value.isEmpty

def make (value : Bytes) : StringId kind :=
  if h : isCanonicalIdentity value = true then ⟨value, .inr h⟩ else none

theorem make_value {value : Bytes} (h : isCanonicalIdentity value = true) :
    (make value : StringId kind).value = value := by
  rw [make, dif_pos h]

theorem make_self (id : StringId kind) : make id.value = id := by
  rcases id.canonical with hnil | hcan
  · have : isCanonicalIdentity id.value = false := by rw [hnil]; rfl
    apply ext_value
    rw [make, dif_neg (by simp [this]), hnil]
    rfl
  · exact ext_value (make_value hcan)

theorem canonical_of_nonempty {id : StringId kind} (h : id.isEmpty = false) :
    isCanonicalIdentity id.value = true := by
  rcases id.canonical with hnil | hcan
  · rw [isEmpty, hnil] at h
    exact absurd h (by decide)
  · exact hcan

theorem length_le (id : StringId kind) : id.value.length ≤ maxIdentityBytes := by
  rcases id.canonical with hnil | hcan
  · simp [hnil]
  · simp only [isCanonicalIdentity, Bool.and_eq_true, decide_eq_true_eq] at hcan
    exact hcan.1.2

/-- Every byte of an identity is an identity byte. -/
theorem isIdentityByte_of_mem (id : StringId kind) {c : UInt8} (h : c ∈ id.value) :
    isIdentityByte c = true := by
  rcases id.canonical with hnil | hcan
  · simp [hnil] at h
  · simp only [isCanonicalIdentity, Bool.and_eq_true, List.all_eq_true] at hcan
    exact (hcan.2 c h).2

end StringId

structure Id128 where
  hi : UInt64 := 0
  lo : UInt64 := 0
  deriving DecidableEq

namespace Id128

theorem toLex_injective : Function.Injective (fun id : Id128 => toLex (id.hi, id.lo)) := by
  intro a b h
  obtain ⟨hhi, hlo⟩ := Prod.mk.inj (toLex.injective h)
  cases a
  cases b
  cases hhi
  cases hlo
  rfl

instance : LinearOrder Id128 :=
  LinearOrder.lift' (fun id => toLex (id.hi, id.lo)) toLex_injective

def isZero (id : Id128) : Bool := id.hi == 0 && id.lo == 0

def toHex (id : Id128) : Bytes :=
  hexText ((leBytes 8 id.hi.toNat).reverse ++ (leBytes 8 id.lo.toNat).reverse)

end Id128

abbrev FlowId := Id128
abbrev FlowGeneration := UInt64
abbrev WorkloadGeneration := UInt64
abbrev PublisherBootId := UInt64
abbrev EvidenceGeneration := UInt64
abbrev CoordinatorEpoch := UInt64
abbrev CoordinatorBootId := UInt64
abbrev ClassifierPolicyGeneration := UInt64
abbrev Seq := UInt64
abbrev Tick := UInt64

def tickNone : Tick := 0

structure Digest256 where
  bytes : List.Vector UInt8 32
  deriving DecidableEq

def Digest256.zero : Digest256 := ⟨⟨List.replicate 32 0, rfl⟩⟩

structure Counter where
  value : UInt64 := 0

namespace Counter

def isExhausted (c : Counter) : Bool := c.value == 0xFFFFFFFFFFFFFFFF

/-- The advanced counter; its value is the one handed out. -/
def next (c : Counter) : Result Counter :=
  if c.isExhausted then
    Status.failure .counterExhausted (text "counter exhausted; value would wrap")
  else .ok ⟨c.value + 1⟩

/-- Raises the counter to a value observed elsewhere; never lowers it. -/
def observe (c : Counter) (value : UInt64) : Counter :=
  if value > c.value then ⟨value⟩ else c

theorem value_lt_of_next {c d : Counter} (h : c.next = .ok d) : c.value < d.value := by
  unfold next isExhausted Status.failure at h
  split_ifs at h with hfull
  cases h
  have hne : c.value ≠ 0xFFFFFFFFFFFFFFFF := by simpa using hfull
  rw [UInt64.lt_iff_toNat_lt, UInt64.toNat_add]
  have hlt := c.value.toNat_lt
  have : c.value.toNat ≠ 18446744073709551615 := fun hv =>
    hne (UInt64.toNat_inj.mp (by simpa using hv))
  simp only [UInt64.toNat_one]
  omega

end Counter

structure Confidence where
  basisPoints : ℕ
  bounded : basisPoints ≤ 10000

namespace Confidence

def scale : ℕ := 10000

def ofBasisPoints (bp : ℕ) : Confidence := ⟨min bp scale, Nat.min_le_right _ _⟩

def none : Confidence := ofBasisPoints 0

instance : DecidableEq Confidence := fun a b =>
  decidable_of_iff (a.basisPoints = b.basisPoints)
    ⟨fun h => by cases a; cases b; cases h; rfl, congrArg basisPoints⟩

instance : LT Confidence := ⟨fun a b => a.basisPoints < b.basisPoints⟩

instance (a b : Confidence) : Decidable (a < b) :=
  inferInstanceAs (Decidable (a.basisPoints < b.basisPoints))

def weaker (a b : Confidence) : Confidence := if a < b then a else b

def reducedBy (a : Confidence) (penalty : ℕ) : Confidence :=
  ofBasisPoints (if a.basisPoints > penalty then a.basisPoints - penalty else 0)

def toDecimal (a : Confidence) : Bytes :=
  decimal (a.basisPoints / scale) ++ text "." ++
    [1000, 100, 10, 1].map fun d => digitByte (a.basisPoints % scale / d % 10)

@[ext] theorem ext_basisPoints {a b : Confidence} (h : a.basisPoints = b.basisPoints) : a = b := by
  cases a
  cases b
  cases h
  rfl

@[simp] theorem basisPoints_weaker (a b : Confidence) :
    (a.weaker b).basisPoints = min a.basisPoints b.basisPoints := by
  unfold weaker
  split_ifs with h
  · exact (Nat.min_eq_left (Nat.le_of_lt h)).symm
  · exact (Nat.min_eq_right (Nat.not_lt.mp h)).symm

@[simp] theorem basisPoints_reducedBy (a : Confidence) (penalty : ℕ) :
    (a.reducedBy penalty).basisPoints = a.basisPoints - penalty := by
  have ha := a.bounded
  simp only [reducedBy, ofBasisPoints, scale]
  split_ifs <;> omega

end Confidence

end FlowClassifier.Foundation
