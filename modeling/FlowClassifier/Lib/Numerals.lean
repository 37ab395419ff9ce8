import Mathlib.Data.Nat.Digits.Lemmas

/-!
Decimal and hexadecimal text of numbers and bytes, as ASCII bytes. Both renderings
are injective, and a decimal numeral consists of digits only, so a numeral followed
by any other byte can be read back from a longer text.
-/
namespace FlowClassifier.Lib

def digitByte (d : ℕ) : UInt8 := UInt8.ofNat (48 + d)

def decimal (n : ℕ) : List UInt8 :=
  if n = 0 then [48] else ((Nat.digits 10 n).map digitByte).reverse

def isDigitByte (b : UInt8) : Bool := 48 ≤ b.toNat ∧ b.toNat ≤ 57

theorem toNat_digitByte {d : ℕ} (h : d < 10) : (digitByte d).toNat = 48 + d := by
  rw [digitByte, UInt8.toNat_ofNat']
  omega

theorem digitByte_injective {a b : ℕ} (ha : a < 10) (hb : b < 10)
    (h : digitByte a = digitByte b) : a = b := by
  have hval := congrArg UInt8.toNat h
  rw [toNat_digitByte ha, toNat_digitByte hb] at hval
  omega

theorem isDigitByte_decimal (n : ℕ) : ∀ b ∈ decimal n, isDigitByte b = true := by
  intro b hb
  by_cases hn : n = 0
  · subst hn
    have : b = 48 := by simpa [decimal] using hb
    subst this
    rfl
  · rw [decimal, if_neg hn, List.mem_reverse, List.mem_map] at hb
    obtain ⟨d, hd, rfl⟩ := hb
    have hlt : d < 10 := Nat.digits_lt_base (by omega) hd
    rw [isDigitByte, toNat_digitByte hlt]
    simp only [decide_eq_true_eq]
    omega

/-- Lists with the same images are equal when the images tell their elements apart. -/
theorem eq_of_map_eq {α β : Type} {f : α → β} {xs ys : List α}
    (hinj : ∀ x ∈ xs, ∀ y ∈ ys, f x = f y → x = y) (h : xs.map f = ys.map f) : xs = ys := by
  induction xs generalizing ys with
  | nil => simpa using h.symm
  | cons x rest ih =>
    cases ys with
    | nil => simp at h
    | cons y rest' =>
      rw [List.map_cons, List.map_cons, List.cons.injEq] at h
      rw [hinj x (by simp) y (by simp) h.1]
      rw [ih (fun a ha b hb => hinj a (by simp [ha]) b (by simp [hb])) h.2]

/-- Numerals to a base, where zero has a digit. -/
theorem eq_of_numeral_eq {f : ℕ → UInt8} {b : ℕ} (hb : 1 < b)
    (hf : ∀ x < b, ∀ y < b, f x = f y → x = y) {m n : ℕ}
    (h : (if m = 0 then [f 0] else (Nat.digits b m).reverse.map f) =
      if n = 0 then [f 0] else (Nat.digits b n).reverse.map f) : m = n := by
  let digits (k : ℕ) : List ℕ := if k = 0 then [0] else (Nat.digits b k).reverse
  have htext (k : ℕ) : (if k = 0 then [f 0] else (Nat.digits b k).reverse.map f) =
      (digits k).map f := by
    simp only [digits]
    split_ifs <;> rfl
  have hlt (k : ℕ) : ∀ d ∈ digits k, d < b := by
    intro d hd
    simp only [digits] at hd
    split_ifs at hd
    · rw [List.mem_singleton.mp hd]
      omega
    · exact Nat.digits_lt_base hb (List.mem_reverse.mp hd)
  have hvalue (k : ℕ) : Nat.ofDigits b (digits k).reverse = k := by
    simp only [digits]
    split_ifs with hk
    · simp [hk]
    · rw [List.reverse_reverse, Nat.ofDigits_digits]
  rw [htext, htext] at h
  rw [← hvalue m, ← hvalue n, eq_of_map_eq (fun x hx y hy => hf x (hlt m x hx) y (hlt n y hy)) h]

theorem decimal_injective {m n : ℕ} (h : decimal m = decimal n) : m = n := by
  simp only [decimal, ← List.map_reverse] at h
  exact eq_of_numeral_eq (by decide) (fun _ hx _ hy => digitByte_injective hx hy) h

/-- Two lists that start with a run from one set, each run ended by an element outside the
set, agree on the run and on the rest. -/
theorem split_at_separator {α : Type} {P : α → Prop} {a b rest rest' : List α} {s t : α}
    (ha : ∀ x ∈ a, P x) (hb : ∀ x ∈ b, P x) (hs : ¬ P s) (ht : ¬ P t)
    (h : a ++ s :: rest = b ++ t :: rest') : a = b ∧ s = t ∧ rest = rest' := by
  induction a generalizing b with
  | nil =>
    cases b with
    | nil => simpa using h
    | cons y ys =>
      simp only [List.nil_append, List.cons_append, List.cons.injEq] at h
      exact absurd (hb y (by simp)) (h.1 ▸ hs)
  | cons x xs ih =>
    cases b with
    | nil =>
      simp only [List.nil_append, List.cons_append, List.cons.injEq] at h
      exact absurd (ha x (by simp)) (h.1 ▸ ht)
    | cons y ys =>
      simp only [List.cons_append, List.cons.injEq] at h
      obtain ⟨htail, hsep, hrest⟩ := ih (fun z hz => ha z (by simp [hz]))
        (fun z hz => hb z (by simp [hz])) h.2
      exact ⟨by rw [h.1, htail], hsep, hrest⟩

/-- The same at the last separator: two texts that end with a run of bytes from one set,
each after a byte outside the set. -/
theorem split_at_last_separator {P : UInt8 → Prop} {a b x y : List UInt8} {s t : UInt8}
    (ha : ∀ z ∈ a, P z) (hb : ∀ z ∈ b, P z) (hs : ¬ P s) (ht : ¬ P t)
    (h : x ++ s :: a = y ++ t :: b) : x = y ∧ s = t ∧ a = b := by
  have hrev := congrArg List.reverse h
  simp only [List.reverse_append, List.reverse_cons, List.append_assoc,
    List.singleton_append] at hrev
  obtain ⟨hab, hst, hxy⟩ := split_at_separator (fun z hz => ha z (List.mem_reverse.mp hz))
    (fun z hz => hb z (List.mem_reverse.mp hz)) hs ht hrev
  exact ⟨List.reverse_inj.mp hxy, hst, List.reverse_inj.mp hab⟩

/-- Parts that end at a byte which none of them holds. -/
theorem eq_of_terminated_eq {s : UInt8} {xs ys : List (List UInt8)} (hx : ∀ x ∈ xs, s ∉ x)
    (hy : ∀ y ∈ ys, s ∉ y) (h : xs.flatMap (· ++ [s]) = ys.flatMap (· ++ [s])) : xs = ys := by
  induction xs generalizing ys with
  | nil =>
    cases ys with
    | nil => rfl
    | cons y ys => simp at h
  | cons x xs ih =>
    cases ys with
    | nil => simp at h
    | cons y ys =>
      simp only [List.flatMap_cons, List.append_assoc, List.singleton_append] at h
      have hfree {z : List UInt8} (hz : s ∉ z) : ∀ c ∈ z, c ≠ s := fun c hc hs => hz (hs ▸ hc)
      obtain ⟨hhead, -, hrest⟩ := split_at_separator (hfree (hx x (by simp)))
        (hfree (hy y (by simp))) (not_not.mpr rfl) (not_not.mpr rfl) h
      rw [hhead, ih (fun z hz => hx z (by simp [hz])) (fun z hz => hy z (by simp [hz])) hrest]

def hexDigit (d : ℕ) : UInt8 := if d < 10 then UInt8.ofNat (48 + d) else UInt8.ofNat (87 + d)

def hexText : List UInt8 → List UInt8
  | [] => []
  | b :: rest => hexDigit (b.toNat / 16) :: hexDigit (b.toNat % 16) :: hexText rest

@[simp] theorem length_hexText (bs : List UInt8) : (hexText bs).length = 2 * bs.length := by
  induction bs with
  | nil => rfl
  | cons b rest ih =>
    rw [hexText, List.length_cons, List.length_cons, List.length_cons, ih]
    omega

theorem hexDigit_injective {a b : ℕ} (ha : a < 16) (hb : b < 16)
    (h : hexDigit a = hexDigit b) : a = b := by
  have hval := congrArg UInt8.toNat h
  unfold hexDigit at hval
  split_ifs at hval <;> simp only [UInt8.toNat_ofNat'] at hval <;> omega

theorem mem_hexText {bs : List UInt8} {c : UInt8} (h : c ∈ hexText bs) :
    ∃ d < 16, c = hexDigit d := by
  induction bs with
  | nil => simp [hexText] at h
  | cons b rest ih =>
    have hb := b.toNat_lt
    simp only [hexText, List.mem_cons] at h
    rcases h with hhigh | hlow | hrest
    · exact ⟨b.toNat / 16, by omega, hhigh⟩
    · exact ⟨b.toNat % 16, by omega, hlow⟩
    · exact ih hrest

theorem hexText_injective {a b : List UInt8} (h : hexText a = hexText b) : a = b := by
  induction a generalizing b with
  | nil =>
    cases b with
    | nil => rfl
    | cons y ys => simp [hexText] at h
  | cons x xs ih =>
    cases b with
    | nil => simp [hexText] at h
    | cons y ys =>
      simp only [hexText, List.cons.injEq] at h
      have hx := x.toNat_lt
      have hy := y.toNat_lt
      have hhigh := hexDigit_injective (by omega) (by omega) h.1
      have hlow := hexDigit_injective (Nat.mod_lt _ (by omega)) (Nat.mod_lt _ (by omega)) h.2.1
      have hxy : x = y := UInt8.toNat_inj.mp (by omega)
      rw [hxy, ih h.2.2]

end FlowClassifier.Lib
