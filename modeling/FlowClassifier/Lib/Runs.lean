import Mathlib.Data.List.Basic

/-!
Runs of a state machine and loops that stop at the first failure. A run folds a step
over its operations; a condition on single steps is imposed on a whole run by `Along`.
The rules derive what holds after a run or a loop from what one step preserves.
-/
namespace FlowClassifier.Lib

section Runs

variable {σ ι : Type} (step : σ → ι → σ) {ops : List ι}

def run (s : σ) (ops : List ι) : σ := ops.foldl step s

/-- Every step of the run meets the condition, in the state it is taken from. -/
def Along (condition : σ → ι → Prop) : σ → List ι → Prop
  | _, [] => True
  | s, op :: ops => condition s op ∧ Along condition (step s op) ops

theorem run_invariant {condition : σ → ι → Prop} {invariant : σ → Prop}
    (hstep : ∀ s op, condition s op → invariant s → invariant (step s op))
    {s : σ} (h : invariant s) (halong : Along step condition s ops) :
    invariant (run step s ops) := by
  induction ops generalizing s with
  | nil => exact h
  | cons op rest ih => exact ih (hstep s op halong.1 h) halong.2

/-- The condition on a run, step by step. -/
theorem along_iff {condition : σ → ι → Prop} {s : σ} : Along step condition s ops ↔
      ∀ before op after, ops = before ++ op :: after → condition (run step s before) op := by
  induction ops generalizing s with
  | nil => exact ⟨fun _ before op after heq => by simp at heq, fun _ => trivial⟩
  | cons first rest ih =>
    constructor
    · rintro ⟨hfirst, hrest⟩ before op after heq
      cases before with
      | nil =>
        obtain ⟨rfl, -⟩ := List.cons.inj heq
        exact hfirst
      | cons _ later =>
        obtain ⟨rfl, hlater⟩ := List.cons.inj heq
        exact ih.mp hrest later op after hlater
    · intro hall
      refine ⟨hall [] first rest rfl, ih.mpr fun before op after heq => ?_⟩
      exact hall (first :: before) op after (by rw [heq, List.cons_append])

/-- Conditions that agree where an invariant holds are imposed on the same runs. -/
theorem along_congr {condition condition' : σ → ι → Prop} {invariant : σ → Prop}
    (hkeep : ∀ s op, invariant s → invariant (step s op))
    (hiff : ∀ s op, invariant s → (condition s op ↔ condition' s op)) {s : σ}
    (h : invariant s) : Along step condition s ops ↔ Along step condition' s ops := by
  induction ops generalizing s with
  | nil => exact Iff.rfl
  | cons op rest ih => exact and_congr (hiff s op h) (ih (hkeep s op h))

/-- A property that a step keeps exactly when it meets the condition holds in every state
of a run exactly when every step meets the condition. -/
theorem always_iff_along {condition : σ → ι → Prop} {invariant good : σ → Prop}
    (hkeep : ∀ s op, invariant s → invariant (step s op))
    (hstep : ∀ s op, invariant s → good s → (good (step s op) ↔ condition s op))
    {s : σ} (h : invariant s) (hgood : good s) :
    (∀ before after, ops = before ++ after → good (run step s before)) ↔
      Along step condition s ops := by
  induction ops generalizing s with
  | nil =>
    refine ⟨fun _ => trivial, fun _ before after heq => ?_⟩
    rw [(List.append_eq_nil_iff.mp heq.symm).1]
    exact hgood
  | cons op rest ih =>
    constructor
    · intro hall
      have hnext : good (step s op) := hall [op] rest rfl
      refine ⟨(hstep s op h hgood).mp hnext, (ih (hkeep s op h) hnext).mp ?_⟩
      intro before after heq
      exact hall (op :: before) after (by rw [heq, List.cons_append])
    · rintro ⟨hcondition, hrest⟩ before after heq
      have hnext := (hstep s op h hgood).mpr hcondition
      cases before with
      | nil => exact hgood
      | cons first later =>
        obtain ⟨rfl, hlater⟩ := List.cons.inj heq
        exact (ih (hkeep s op h) hnext).mpr hrest later after hlater

theorem Along.imp {step} {condition condition' : σ → ι → Prop} {s : σ}
    (h : Along step condition s ops) (himp : ∀ s op, condition s op → condition' s op) :
    Along step condition' s ops := by
  induction ops generalizing s with
  | nil => trivial
  | cons op rest ih => exact ⟨himp s op h.1, ih h.2⟩

/-- What a condition implies in the states that an invariant describes holds at every step
of a run. -/
theorem Along.imp_of_invariant {step} {condition condition' : σ → ι → Prop} {invariant : σ → Prop}
    (hkeep : ∀ s op, invariant s → condition s op → invariant (step s op))
    (himp : ∀ s op, invariant s → condition s op → condition' s op) {s : σ}
    (h : Along step condition s ops) (hs : invariant s) : Along step condition' s ops := by
  induction ops generalizing s with
  | nil => trivial
  | cons op rest ih => exact ⟨himp s op hs h.1, ih h.2 (hkeep s op hs h.1)⟩

theorem Along.append {step} {condition : σ → ι → Prop} {s : σ} {later : List ι}
    (h : Along step condition s ops) (hlater : Along step condition (run step s ops) later) :
    Along step condition s (ops ++ later) := by
  induction ops generalizing s with
  | nil => exact hlater
  | cons op rest ih => exact ⟨h.1, ih h.2 hlater⟩

theorem Along.of_append {step} {condition : σ → ι → Prop} {s : σ} {later : List ι}
    (h : Along step condition s (ops ++ later)) :
    Along step condition s ops ∧ Along step condition (run step s ops) later := by
  induction ops generalizing s with
  | nil => exact ⟨trivial, h⟩
  | cons op rest ih =>
    obtain ⟨hrest, hlater⟩ := ih h.2
    exact ⟨⟨h.1, hrest⟩, hlater⟩

end Runs

section Loops

variable {ε σ α : Type}

/-- Threads the state through a fallible step for each element. The first failure ends
the loop, and the state reached by then is kept. -/
def tryEach (f : σ → α → Except ε Unit × σ) (s : σ) : List α → Except ε Unit × σ
  | [] => (.ok (), s)
  | x :: rest =>
    match f s x with
    | (.error e, s') => (.error e, s')
    | (.ok (), s') => tryEach f s' rest

def andThen (first : Except ε Unit × σ) (next : σ → Except ε Unit × σ) : Except ε Unit × σ :=
  match first with
  | (.error e, s) => (.error e, s)
  | (.ok (), s) => next s

theorem tryEach_invariant {f : σ → α → Except ε Unit × σ} (invariant : σ → Prop) {xs : List α}
    (hstep : ∀ s, ∀ x ∈ xs, invariant s → invariant (f s x).2) {s : σ} (h : invariant s) :
    invariant (tryEach f s xs).2 := by
  induction xs generalizing s with
  | nil => exact h
  | cons x rest ih =>
    have hx := hstep s x (by simp) h
    rw [tryEach]
    split
    next e s' heq =>
      rw [heq] at hx
      exact hx
    next s' heq =>
      rw [heq] at hx
      exact ih (fun t y hy => hstep t y (by simp [hy])) hx

/-- After a loop that succeeded, what each element established still holds, provided that
later elements keep it. -/
theorem tryEach_done {f : σ → α → Except ε Unit × σ} (done : α → σ → Prop) {R : α → α → Prop}
    {xs : List α} (hdo : ∀ s x, (f s x).1 = .ok () → done x (f s x).2)
    (hkeep : ∀ s x y, R x y → done x s → done x (f s y).2) (hR : xs.Pairwise R) {s : σ}
    (h : (tryEach f s xs).1 = .ok ()) : ∀ x ∈ xs, done x (tryEach f s xs).2 := by
  induction xs generalizing s with
  | nil => simp
  | cons x rest ih =>
    rw [List.pairwise_cons] at hR
    rw [tryEach] at h ⊢
    split at h
    next e s' heq => cases h
    next s' heq =>
      have hx := hdo s x (by rw [heq])
      rw [heq] at hx
      have hlast : done x (tryEach f s' rest).2 :=
        tryEach_invariant (done x) (fun t y hy => hkeep t x y (hR.1 y hy)) hx
      rintro y (_ | ⟨_, hy⟩)
      · exact hlast
      · exact ih hR.2 h y hy

/-- A loop over a component of the state. -/
theorem tryEach_put {τ : Type} {f : τ → α → Except ε Unit × τ} {g : σ → α → Except ε Unit × σ}
    (put : τ → σ) (h : ∀ t x, g (put t) x = ((f t x).1, put (f t x).2)) (t : τ) (xs : List α) :
    tryEach g (put t) xs = ((tryEach f t xs).1, put (tryEach f t xs).2) := by
  induction xs generalizing t with
  | nil => rfl
  | cons x rest ih =>
    rw [tryEach, tryEach, h]
    obtain ⟨_ | _, t'⟩ := f t x
    · rfl
    · exact ih t'

theorem andThen_invariant {first : Except ε Unit × σ} {next : σ → Except ε Unit × σ}
    {invariant : σ → Prop} (hfirst : invariant first.2)
    (hnext : ∀ s, invariant s → invariant (next s).2) : invariant (andThen first next).2 := by
  obtain ⟨result, s⟩ := first
  cases result with
  | error e => exact hfirst
  | ok u => exact hnext s hfirst

end Loops

end FlowClassifier.Lib
