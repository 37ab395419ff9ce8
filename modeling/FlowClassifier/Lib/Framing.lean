import Mathlib.Data.List.Basic
import Mathlib.Tactic.Common

/-!
Taking frames off a stream. A deframer looks at what has arrived and fails, asks for more,
or returns a frame with the number of elements that it occupies. It is stable when its
answers do not change as more arrives. Then what a stream is taken apart into does not
depend on the pieces it arrived in.
-/
namespace FlowClassifier.Lib

variable {ε α β : Type}
variable {xs : List β} {n : ℕ}

abbrev Deframer (ε α β : Type) := List β → Except ε (Option (α × ℕ))

structure Deframer.Stable (dec : Deframer ε α β) : Prop where
  empty : dec [] = .ok none
  failed : ∀ {xs e}, dec xs = .error e → ∀ ys, dec (xs ++ ys) = .error e
  found : ∀ {xs a n}, dec xs = .ok (some (a, n)) → ∀ ys, dec (xs ++ ys) = .ok (some (a, n))
  pos : ∀ {xs a n}, dec xs = .ok (some (a, n)) → 0 < n
  within : ∀ {xs a n}, dec xs = .ok (some (a, n)) → n ≤ xs.length

def drainFor (dec : Deframer ε α β) : ℕ → List β → List α × Except ε (List β)
  | 0, xs => ([], .ok xs)
  | fuel + 1, xs =>
    match dec xs with
    | .error e => ([], .error e)
    | .ok none => ([], .ok xs)
    | .ok (some (a, n)) =>
      let out := drainFor dec fuel (xs.drop n)
      (a :: out.1, out.2)

/-- Every frame takes something off, so the length bounds the number of rounds. -/
def drain (dec : Deframer ε α β) (xs : List β) : List α × Except ε (List β) :=
  drainFor dec (xs.length + 1) xs

section Stable

variable {dec : Deframer ε α β}

theorem drain_of_failed {e : ε} (hdec : dec xs = .error e) : drain dec xs = ([], .error e) := by
  rw [drain, drainFor, hdec]

theorem drain_of_waiting (hdec : dec xs = .ok none) : drain dec xs = ([], .ok xs) := by
  rw [drain, drainFor, hdec]

variable (h : dec.Stable)

include h

theorem Deframer.Stable.shrinks {a : α} (hdec : dec xs = .ok (some (a, n))) :
    (xs.drop n).length < xs.length := by
  have hpos := h.pos hdec
  have hwithin := h.within hdec
  rw [List.length_drop]
  omega

/-- More rounds than elements change nothing. -/
theorem drainFor_congr {m : ℕ} (hm : xs.length < m) (hn : xs.length < n) :
    drainFor dec m xs = drainFor dec n xs := by
  induction m generalizing n xs with
  | zero => omega
  | succ m ih =>
    cases n with
    | zero => omega
    | succ n =>
      rw [drainFor, drainFor]
      cases hdec : dec xs with
      | error e => rfl
      | ok found =>
        cases found with
        | none => rfl
        | some frame =>
          have hshrinks := h.shrinks hdec
          have hrest := @ih (xs.drop frame.2) n (by omega) (by omega)
          dsimp only
          rw [hrest]

theorem drain_of_found {a : α} (hdec : dec xs = .ok (some (a, n))) :
    drain dec xs = (a :: (drain dec (xs.drop n)).1, (drain dec (xs.drop n)).2) := by
  have hshrinks := h.shrinks hdec
  have hcongr := drainFor_congr h hshrinks (Nat.lt_succ_self (xs.drop n).length)
  rw [drain, drainFor, hdec]
  dsimp only
  rw [hcongr]
  rfl

/-- Induction along the frames of a stream. -/
theorem Deframer.Stable.induction {motive : List β → Prop}
    (failed : ∀ xs e, dec xs = .error e → motive xs) (waiting : ∀ xs, dec xs = .ok none → motive xs)
    (found : ∀ xs a n, dec xs = .ok (some (a, n)) → motive (xs.drop n) → motive xs)
    (xs : List β) : motive xs := by
  generalize hlen : xs.length = len
  induction len using Nat.strongRecOn generalizing xs with
  | ind len ih =>
    cases hdec : dec xs with
    | error e => exact failed xs e hdec
    | ok answer =>
      cases answer with
      | none => exact waiting xs hdec
      | some frame =>
        have hshrinks := h.shrinks hdec
        exact found xs frame.1 frame.2 hdec (ih _ (by omega) _ rfl)

/-- What is left over asks for more. -/
theorem waiting_of_drain {rest : List β} {frames : List α}
    (hdrain : drain dec xs = (frames, .ok rest)) : dec rest = .ok none := by
  induction xs using h.induction generalizing frames with
  | failed xs e hdec =>
    rw [drain_of_failed hdec] at hdrain
    cases hdrain
  | waiting xs hdec =>
    rw [drain_of_waiting hdec] at hdrain
    cases hdrain
    exact hdec
  | found xs a n hdec ih =>
    rw [drain_of_found h hdec] at hdrain
    obtain ⟨-, hrest⟩ := Prod.mk.inj hdrain
    exact ih (Prod.ext rfl hrest)

/-- A part of a frame that lacks its end asks for more. -/
theorem waiting_of_part {ys : List β} {a : α}
    (hdec : dec (xs ++ ys) = .ok (some (a, n))) (hpart : xs.length < n) : dec xs = .ok none := by
  cases hxs : dec xs with
  | error e =>
    rw [h.failed hxs ys] at hdec
    cases hdec
  | ok answer =>
    cases answer with
    | none => rfl
    | some frame =>
      have hwithin := h.within hxs
      rw [h.found hxs ys] at hdec
      cases hdec
      omega

/-- A failure is final, and what is left over is continued by what comes. -/
theorem drain_append (xs ys : List β) :
    drain dec (xs ++ ys) =
      match drain dec xs with
      | (frames, .error e) => (frames, .error e)
      | (frames, .ok rest) =>
        (frames ++ (drain dec (rest ++ ys)).1, (drain dec (rest ++ ys)).2) := by
  induction xs using h.induction with
  | failed xs e hdec =>
    rw [drain_of_failed hdec, drain_of_failed (h.failed hdec ys)]
  | waiting xs hdec =>
    rw [drain_of_waiting hdec]
    simp
  | found xs a n hdec ih =>
    have hdrop : (xs ++ ys).drop n = xs.drop n ++ ys :=
      List.drop_append_of_le_length (h.within hdec)
    rw [drain_of_found h hdec, drain_of_found h (h.found hdec ys), hdrop, ih]
    obtain ⟨frames, e | rest⟩ := drain dec (xs.drop n)
    · rfl
    · rfl

end Stable

/-- Takes the frames off after every piece; a failure ends the stream. -/
def feed (dec : Deframer ε α β) (rest : List β) : List (List β) → List α × Except ε (List β)
  | [] => ([], .ok rest)
  | piece :: pieces =>
    match drain dec (rest ++ piece) with
    | (frames, .error e) => (frames, .error e)
    | (frames, .ok rest) =>
      let out := feed dec rest pieces
      (frames ++ out.1, out.2)

/-- The pieces do not matter. -/
theorem feed_eq_drain {dec : Deframer ε α β} (h : dec.Stable) {rest : List β}
    (hrest : dec rest = .ok none) (pieces : List (List β)) :
    feed dec rest pieces = drain dec (rest ++ pieces.flatten) := by
  induction pieces generalizing rest with
  | nil =>
    rw [feed, List.flatten_nil, List.append_nil, drain_of_waiting hrest]
  | cons piece pieces ih =>
    rw [feed, List.flatten_cons, ← List.append_assoc, drain_append h (rest ++ piece)]
    cases hdrain : drain dec (rest ++ piece) with
    | mk frames out =>
      cases out with
      | error e => rfl
      | ok left =>
        dsimp only
        rw [ih (waiting_of_drain h hdrain)]

end FlowClassifier.Lib
