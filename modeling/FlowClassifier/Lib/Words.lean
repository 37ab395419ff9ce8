import Mathlib.Data.Nat.Digits.Defs
import Mathlib.Order.Defs.LinearOrder

/-!
Fixed-width words. The machine integers are linearly ordered by their value, and
a word of `w` bytes is stored as its `w` base-256 digits, least significant first.
Storing and loading are inverse on every value that fits the width.
-/
namespace FlowClassifier.Lib

instance linearOrderUInt8 : LinearOrder UInt8 where
  le_refl := UInt8.le_refl
  le_trans _ _ _ := UInt8.le_trans
  le_antisymm _ _ := UInt8.le_antisymm
  le_total := UInt8.le_total
  lt_iff_le_not_ge a b := by
    simp only [UInt8.le_iff_toNat_le, UInt8.lt_iff_toNat_lt]
    omega
  toDecidableLE := inferInstance
  toDecidableLT := inferInstance
  toDecidableEq := inferInstance

instance linearOrderUInt16 : LinearOrder UInt16 where
  le_refl := UInt16.le_refl
  le_trans _ _ _ := UInt16.le_trans
  le_antisymm _ _ := UInt16.le_antisymm
  le_total := UInt16.le_total
  lt_iff_le_not_ge a b := by
    simp only [UInt16.le_iff_toNat_le, UInt16.lt_iff_toNat_lt]
    omega
  toDecidableLE := inferInstance
  toDecidableLT := inferInstance
  toDecidableEq := inferInstance

instance linearOrderUInt64 : LinearOrder UInt64 where
  le_refl := UInt64.le_refl
  le_trans _ _ _ := UInt64.le_trans
  le_antisymm _ _ := UInt64.le_antisymm
  le_total := UInt64.le_total
  lt_iff_le_not_ge a b := by
    simp only [UInt64.le_iff_toNat_le, UInt64.lt_iff_toNat_lt]
    omega
  toDecidableLE := inferInstance
  toDecidableLT := inferInstance
  toDecidableEq := inferInstance

def leBytes : ℕ → ℕ → List UInt8
  | 0, _ => []
  | w + 1, v => UInt8.ofNat (v % 256) :: leBytes w (v / 256)

def ofLeBytes : List UInt8 → ℕ
  | [] => 0
  | b :: rest => b.toNat + 256 * ofLeBytes rest

@[simp] theorem length_leBytes (w v : ℕ) : (leBytes w v).length = w := by
  induction w generalizing v with
  | zero => rfl
  | succ w ih => simp [leBytes, ih]

theorem ofLeBytes_leBytes (w v : ℕ) (h : v < 256 ^ w) : ofLeBytes (leBytes w v) = v := by
  induction w generalizing v with
  | zero =>
    have : v = 0 := by simpa using h
    simp [leBytes, ofLeBytes, this]
  | succ w ih =>
    have hdiv : v / 256 < 256 ^ w := by
      apply Nat.div_lt_of_lt_mul
      rwa [pow_succ, Nat.mul_comm] at h
    have hbyte : (UInt8.ofNat (v % 256)).toNat = v % 256 := by
      simp [UInt8.toNat_ofNat']
    rw [leBytes, ofLeBytes, ih _ hdiv, hbyte]
    omega

theorem leBytes_injective {w a b : ℕ} (ha : a < 256 ^ w) (hb : b < 256 ^ w)
    (h : leBytes w a = leBytes w b) : a = b := by
  rw [← ofLeBytes_leBytes w a ha, h, ofLeBytes_leBytes w b hb]

theorem ofLeBytes_injective {a b : List UInt8} (hlen : a.length = b.length)
    (h : ofLeBytes a = ofLeBytes b) : a = b := by
  induction a generalizing b with
  | nil => exact (List.length_eq_zero_iff.mp hlen.symm).symm
  | cons x a ih =>
    obtain ⟨y, b, rfl⟩ := List.exists_cons_of_length_eq_add_one hlen.symm
    have hx := x.toNat_lt
    have hy := y.toNat_lt
    simp only [ofLeBytes] at h
    have hhead : x = y := UInt8.toNat_inj.mp (by omega)
    rw [hhead, ih (by simpa using hlen) (by omega)]

end FlowClassifier.Lib
