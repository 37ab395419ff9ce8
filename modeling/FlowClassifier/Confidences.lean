import FlowClassifier.Foundation
import Mathlib

/-!
Confidences as decimal text. The parser keeps four fractional digits and takes zeros only
after them, so a text is accepted exactly when its value is a whole number of basis points,
and that number is the result.
-/
namespace FlowClassifier.Foundation

open Lib

namespace Confidence

def exceeded : Failure := ⟨.outOfRange, text "confidence exceeds 1.0"⟩

def scanWhole (whole : ℕ) (sawDigit : Bool) : Bytes → Result (ℕ × Bool × Bytes)
  | [] => .ok (whole, sawDigit, [])
  | b :: rest =>
    if isDigitByte b then
      if whole * 10 + (b.toNat - 48) > 1 then .error exceeded
      else scanWhole (whole * 10 + (b.toNat - 48)) true rest
    else .ok (whole, sawDigit, b :: rest)

def scanFraction (fraction digits : ℕ) : Bytes → Result (ℕ × ℕ × Bytes)
  | [] => .ok (fraction, digits, [])
  | b :: rest =>
    if isDigitByte b then
      if digits ≥ 4 then
        if b ≠ 48 then
          Status.failure .malformedInput (text "confidence has more than 4 fractional digits")
        else scanFraction fraction digits rest
      else scanFraction (fraction * 10 + (b.toNat - 48)) (digits + 1) rest
    else .ok (fraction, digits, b :: rest)

def readFraction (rest : Bytes) : Result (ℕ × ℕ × Bytes) :=
  if rest.head? = some 46 then scanFraction 0 0 rest.tail else .ok (0, 0, rest)

/-- The end of the text; the fraction is padded to four digits. -/
def conclude (whole : ℕ) : ℕ × ℕ × Bytes → Result Confidence
  | (fraction, digits, rest) =>
    if rest ≠ [] then
      Status.failure .malformedInput (text "confidence contains a non-numeric character")
    else if h : whole * scale + fraction * 10 ^ (4 - digits) ≤ scale then .ok ⟨_, h⟩
    else .error exceeded

def parse (s : Bytes) : Result Confidence :=
  if s = [] then Status.failure .malformedInput (text "confidence is empty")
  else do
    let (whole, sawDigit, rest) ← scanWhole 0 false s
    if !sawDigit then Status.failure .malformedInput (text "confidence has no integer part")
    else readFraction rest >>= conclude whole

def number (n : ℕ) (w : Bytes) : ℕ := w.foldl (fun n b => n * 10 + (b.toNat - 48)) n

def fractionValue : Bytes → ℚ
  | [] => 0
  | b :: f => ((b.toNat - 48 : ℕ) + fractionValue f) / 10

/-- The value of one or more digits, optionally followed by a dot and any number of digits. -/
def decimalValue (s : Bytes) : Option ℚ :=
  let w := s.takeWhile isDigitByte
  match w, s.dropWhile isDigitByte with
  | [], _ => .none
  | _, [] => some (number 0 w)
  | _, b :: f =>
    if b = 46 ∧ ∀ d ∈ f, isDigitByte d then some (number 0 w + fractionValue f) else .none

theorem le_number (n : ℕ) (w : Bytes) : n ≤ number n w := by
  induction w generalizing n with
  | nil => exact le_rfl
  | cons b w ih => exact Nat.le_trans (by omega) (ih (n * 10 + (b.toNat - 48)))

theorem fractionValue_bounds {f : Bytes} (hf : ∀ b ∈ f, isDigitByte b) :
    0 ≤ fractionValue f ∧ fractionValue f < 1 := by
  induction f with
  | nil => simp [fractionValue]
  | cons b f ih =>
    obtain ⟨hpos, hlt⟩ := ih fun d hd => hf d (by simp [hd])
    have hb : ((b.toNat - 48 : ℕ) : ℚ) ≤ 9 := by
      have := hf b (by simp)
      simp only [isDigitByte, decide_eq_true_eq] at this
      exact_mod_cast (by omega : b.toNat - 48 ≤ 9)
    have hdigit : (0 : ℚ) ≤ (b.toNat - 48 : ℕ) := Nat.cast_nonneg _
    rw [fractionValue]
    constructor <;> linarith

/-- A number is whole together with a part below one only if that part is zero. -/
theorem add_part_eq_iff {n k : ℕ} {v : ℚ} (hpos : 0 ≤ v) (hlt : v < 1) :
    (n + v : ℚ) = k ↔ v = 0 ∧ n = k := by
  constructor
  · intro h
    have hle : n ≤ k := by exact_mod_cast (by linarith : (n : ℚ) ≤ k)
    have hge : k < n + 1 := by exact_mod_cast (by linarith : (k : ℚ) < n + 1)
    have hk : n = k := by omega
    exact ⟨by rw [hk] at h; linarith, hk⟩
  · rintro ⟨rfl, rfl⟩
    exact add_zero _

/-- The digits are read as long as their value is at most one. -/
theorem scanWhole_eq_ok_iff {n : ℕ} (hn : n ≤ 1) {saw : Bool} {s : Bytes} {r : ℕ × Bool × Bytes} :
    scanWhole n saw s = .ok r ↔ number n (s.takeWhile isDigitByte) ≤ 1 ∧
      r = (number n (s.takeWhile isDigitByte), saw || s.takeWhile isDigitByte ≠ [],
        s.dropWhile isDigitByte) := by
  induction s generalizing n saw with
  | nil => simp [scanWhole, number, hn, eq_comm]
  | cons b rest ih =>
    by_cases hb : isDigitByte b
    · have hle := le_number (n * 10 + (b.toNat - 48)) (rest.takeWhile isDigitByte)
      have hnumber : number n (b :: rest.takeWhile isDigitByte) =
        number (n * 10 + (b.toNat - 48)) (rest.takeWhile isDigitByte) := rfl
      rw [scanWhole, if_pos hb, List.takeWhile_cons_of_pos hb, List.dropWhile_cons_of_pos hb,
        hnumber]
      split_ifs with hlarge
      · simp; omega
      · rw [ih (by omega)]
        simp
    · simp [scanWhole, hb, number, hn, eq_comm]

/-- The fraction is read to its end exactly when it is a whole number of basis points. -/
theorem scanFraction_iff {d : ℕ} (hd : d ≤ 4) (m n k : ℕ) (f : Bytes) :
    (∃ n' d', scanFraction n d f = .ok (n', d', []) ∧ m + n' * 10 ^ (4 - d') = k) ↔
      (∀ b ∈ f, isDigitByte b) ∧ (m + (n + fractionValue f) * 10 ^ (4 - d) : ℚ) = k := by
  induction f generalizing n d with
  | nil =>
    simp [scanFraction, fractionValue]
    norm_cast
  | cons b f ih =>
    by_cases hb : isDigitByte b
    · rw [scanFraction, if_pos hb]
      by_cases hfull : d ≥ 4
      · have hfour : d = 4 := by omega
        subst hfour
        have hwhole {g : Bytes} (hg : ∀ b ∈ g, isDigitByte b) :
            (m + (n + fractionValue g) * 10 ^ (4 - 4) : ℚ) = k ↔
              fractionValue g = 0 ∧ m + n = k := by
          obtain ⟨hpos, hlt⟩ := fractionValue_bounds hg
          rw [← add_part_eq_iff hpos hlt, Nat.cast_add, Nat.sub_self, pow_zero, mul_one, add_assoc]
        have hzero (hf : ∀ b ∈ f, isDigitByte b) :
            fractionValue (b :: f) = 0 ↔ b = 48 ∧ fractionValue f = 0 := by
          have hdigit : (0 : ℚ) ≤ (b.toNat - 48 : ℕ) := Nat.cast_nonneg _
          rw [fractionValue, div_eq_zero_iff, or_iff_left (by norm_num),
            add_eq_zero_iff_of_nonneg hdigit (fractionValue_bounds hf).1, Nat.cast_eq_zero,
            ← UInt8.toNat_inj]
          simp only [isDigitByte, decide_eq_true_eq] at hb
          refine and_congr_left fun _ => ?_
          show _ ↔ b.toNat = 48
          omega
        rw [if_pos hfull]
        by_cases h48 : b = 48
        · rw [if_neg (not_not.mpr h48), ih le_rfl]
          constructor
          · rintro ⟨hf, hk⟩
            have hall : ∀ d ∈ b :: f, isDigitByte d := List.forall_mem_cons.mpr ⟨hb, hf⟩
            rw [hwhole hf] at hk
            exact ⟨hall, (hwhole hall).mpr ⟨(hzero hf).mpr ⟨h48, hk.1⟩, hk.2⟩⟩
          · rintro ⟨hall, hk⟩
            have hf := (List.forall_mem_cons.mp hall).2
            rw [hwhole hall] at hk
            exact ⟨hf, (hwhole hf).mpr ⟨((hzero hf).mp hk.1).2, hk.2⟩⟩
        · rw [if_pos h48]
          refine iff_of_false (by simp) ?_
          rintro ⟨hall, hk⟩
          exact h48 ((hzero (List.forall_mem_cons.mp hall).2).mp ((hwhole hall).mp hk).1).1
      · rw [if_neg hfull, ih (by omega), show 4 - d = 4 - (d + 1) + 1 by omega, pow_succ,
          fractionValue]
        simp only [List.forall_mem_cons, hb, true_and]
        push_cast
        ring_nf
    · simp [scanFraction, hb]

theorem conclude_eq_ok_iff {n fraction digits : ℕ} {rest : Bytes} {c : Confidence} :
    conclude n (fraction, digits, rest) = .ok c ↔
      rest = [] ∧ n * scale + fraction * 10 ^ (4 - digits) = c.basisPoints := by
  have hc := c.bounded
  rw [conclude]
  split_ifs with hrest hscale
  · simp [hrest]
  · simp [Confidence.ext_basisPoints_iff, not_not.mp hrest]
  · have hne : n * scale + fraction * 10 ^ (4 - digits) ≠ c.basisPoints := fun h => hscale (h ▸ hc)
    simp [hne]

/-- The passes of the parser against the value of the text. -/
theorem parse_eq_ok_iff (s : Bytes) (c : Confidence) :
    parse s = .ok c ↔ decimalValue s = some (c.basisPoints / 10000 : ℚ) := by
  have hc := c.bounded
  by_cases hs : s = []
  · simp [hs, parse, decimalValue]
  have hread : parse s = .ok c ↔ s.takeWhile isDigitByte ≠ [] ∧
      number 0 (s.takeWhile isDigitByte) ≤ 1 ∧ ∃ n d,
      readFraction (s.dropWhile isDigitByte) = .ok (n, d, []) ∧
      number 0 (s.takeWhile isDigitByte) * scale + n * 10 ^ (4 - d) = c.basisPoints := by
    by_cases hw : s.takeWhile isDigitByte = []
    · simp [parse, hs, hw, bind_eq_ok_iff, scanWhole_eq_ok_iff]
    · simp [parse, hs, hw, bind_eq_ok_iff, scanWhole_eq_ok_iff, conclude_eq_ok_iff]
  rw [hread, decimalValue]
  generalize number 0 (s.takeWhile isDigitByte) = n
  cases s.takeWhile isDigitByte with
  | nil => simp
  | cons d w =>
    have hpoints (f : Bytes) : (n ≤ 1 ∧ ∃ n' d', scanFraction 0 0 f = .ok (n', d', []) ∧
        n * scale + n' * 10 ^ (4 - d') = c.basisPoints) ↔
        (∀ b ∈ f, isDigitByte b) ∧ (n + fractionValue f : ℚ) = c.basisPoints / 10000 := by
      rw [eq_div_iff (by norm_num), and_iff_right_of_imp]
      · rw [scanFraction_iff (Nat.zero_le 4), scale]
        push_cast
        ring_nf
      · rintro ⟨n', d', -, hsum⟩
        unfold scale at hsum
        omega
    cases s.dropWhile isDigitByte with
    | nil => simpa [fractionValue, readFraction, scanFraction] using hpoints []
    | cons b f =>
      by_cases hdot : b = 46
      · subst hdot
        simpa [readFraction] using hpoints f
      · simp [readFraction, hdot]

end Confidence

open Confidence in
/-- Parsing is exact: a text is accepted as the basis points that are its value, the rendered
text among them, and texts of different values are never taken for the same confidence. -/
theorem parse_confidence_exact :
    (∀ s c, parse s = .ok c ↔ decimalValue s = some (c.basisPoints / 10000 : ℚ)) ∧
    (∀ c : Confidence, parse c.toDecimal = .ok c) ∧
    ∀ s s' c, parse s = .ok c → parse s' = .ok c → decimalValue s = decimalValue s' := by
  refine ⟨parse_eq_ok_iff, fun c => ?_, ?_⟩
  · have hbp : c.basisPoints / scale < 2 := by
      have hc := c.bounded
      unfold scale
      omega
    have hdigit (n : ℕ) : isDigitByte (digitByte (n % 10)) ∧
        (digitByte (n % 10)).toNat - 48 = n % 10 := by
      rw [isDigitByte, toNat_digitByte (Nat.mod_lt n (by decide)), decide_eq_true_eq]
      omega
    have hwhole : ∃ b, decimal (c.basisPoints / scale) = [b] ∧ isDigitByte b ∧
        b.toNat - 48 = c.basisPoints / scale := by
      generalize c.basisPoints / scale = n at hbp ⊢
      interval_cases n
      · exact ⟨48, by decide⟩
      · exact ⟨49, by decide⟩
    obtain ⟨b, hdecimal, hb, hvalue⟩ := hwhole
    have hdot : isDigitByte 46 = false := rfl
    rw [parse_eq_ok_iff, decimalValue, toDecimal, hdecimal, show text "." = [46] from rfl]
    simp [hb, hdot, hdigit, hvalue, fractionValue, number]
    have hsum : c.basisPoints = c.basisPoints / scale * 10000 +
        c.basisPoints % scale / 1000 % 10 * 1000 + c.basisPoints % scale / 100 % 10 * 100 +
        c.basisPoints % scale / 10 % 10 * 10 + c.basisPoints % scale % 10 := by
      unfold scale
      omega
    have hcast := congrArg (Nat.cast : ℕ → ℚ) hsum
    push_cast at hcast
    linarith
  · intro s s' c h h'
    rw [parse_eq_ok_iff] at h h'
    rw [h, h']

open Confidence in
theorem parse_confidence_exact_sample :
    decimalValue (text "0.25") = decimalValue (text "000.2500000") :=
  parse_confidence_exact.2.2 _ _ (.ofBasisPoints 2500) (by decide +kernel) (by decide +kernel)

end FlowClassifier.Foundation
