import FlowClassifier.Lib.Numerals

/-!
Line breaks in text. Breaks add up when texts are joined, so the number of lines of a
rendering can be read off its parts, and a part on one line contributes none.
-/
namespace FlowClassifier.Lib

def lineFeed : UInt8 := 10

def breaks (t : List UInt8) : ℕ := t.count lineFeed

def lineCount (t : List UInt8) : ℕ := breaks t + 1

def OneLine (t : List UInt8) : Prop := lineFeed ∉ t

instance (t : List UInt8) : Decidable (OneLine t) := inferInstanceAs (Decidable (¬ lineFeed ∈ t))

@[simp] theorem breaks_append (a b : List UInt8) : breaks (a ++ b) = breaks a + breaks b :=
  List.count_append

@[simp] theorem oneLine_append {a b : List UInt8} : OneLine (a ++ b) ↔ OneLine a ∧ OneLine b := by
  simp [OneLine, not_or]

theorem OneLine.breaks {t : List UInt8} (h : OneLine t) : breaks t = 0 :=
  List.count_eq_zero.mpr h

/-- A label that starts a line, and what follows it on that line. -/
theorem breaks_line {label t : List UInt8} (hlabel : breaks label = 1) (h : OneLine t) :
    breaks (label ++ t) = 1 := by
  rw [breaks_append, hlabel, h.breaks]

/-- Renderings that each start a line add as many lines as there are items. -/
theorem breaks_flatMap {α : Type} {f : α → List UInt8} {xs : List α}
    (h : ∀ x ∈ xs, breaks (f x) = 1) : breaks (xs.flatMap f) = xs.length := by
  induction xs with
  | nil => rfl
  | cons x rest ih =>
    have hrest := ih fun y hy => h y (List.mem_cons_of_mem x hy)
    rw [List.flatMap_cons, breaks_append, h x List.mem_cons_self, hrest, List.length_cons]
    omega

@[simp] theorem oneLine_decimal (n : ℕ) : OneLine (decimal n) := fun h =>
  absurd (isDigitByte_decimal n lineFeed h) (by decide)

@[simp] theorem oneLine_hexText (bs : List UInt8) : OneLine (hexText bs) := by
  intro h
  obtain ⟨d, hd, heq⟩ := mem_hexText h
  have hdigits : ∀ d < 16, hexDigit d ≠ lineFeed := by decide
  exact hdigits d hd heq.symm

end FlowClassifier.Lib
