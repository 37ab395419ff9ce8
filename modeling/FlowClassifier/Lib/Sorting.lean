import Mathlib.Data.List.Sort

/-!
Sorting by a key in a linear order. The comparison of a program's sort is related to
a key once; that the result is sorted, that its first match is the least match and
that it does not depend on the order of the input then follow for every such sort. A
`Sorter` is a sort of which nothing else is known than that it sorts.
-/
namespace FlowClassifier.Lib

variable {α κ : Type} [LinearOrder κ]
variable {xs : List α}

section Key

variable (r : α → α → Prop) [DecidableRel r] (key : α → κ)
  (hr : ∀ a b, r a b ↔ key a ≤ key b)

include hr

theorem pairwise_insertionSort_key (xs : List α) :
    (xs.insertionSort r).Pairwise fun a b => key a ≤ key b := by
  have htotal : Std.Total r := ⟨fun a b => by rw [hr, hr]; exact le_total _ _⟩
  have htrans : IsTrans α r := ⟨fun a b c => by rw [hr, hr, hr]; exact le_trans⟩
  exact (List.pairwise_insertionSort r xs).imp fun h => (hr _ _).mp h

/-- Permuted inputs with distinct keys are sorted into the same list. -/
theorem insertionSort_eq_of_perm {ys : List α} (h : xs.Perm ys)
    (hkey : ∀ a ∈ xs, ∀ b ∈ xs, key a = key b → a = b) :
    xs.insertionSort r = ys.insertionSort r := by
  have hx := List.perm_insertionSort r xs
  have hy := List.perm_insertionSort r ys
  refine List.Perm.eq_of_pairwise ?_ (pairwise_insertionSort_key r key hr xs)
    (pairwise_insertionSort_key r key hr ys) ((hx.trans h).trans hy.symm)
  intro a b ha hb hab hba
  exact hkey a (hx.subset ha) b (h.symm.subset (hy.subset hb)) (le_antisymm hab hba)

end Key

/-- In a list sorted by a key, the first match has the least key of all matches. -/
theorem find?_le_of_pairwise {key : α → κ} {p : α → Bool} {x : α}
    (hs : xs.Pairwise fun a b => key a ≤ key b) (h : xs.find? p = some x) :
    x ∈ xs ∧ p x = true ∧ ∀ y ∈ xs, p y = true → key x ≤ key y := by
  induction xs with
  | nil => simp at h
  | cons z rest ih =>
    rw [List.pairwise_cons] at hs
    by_cases hz : p z = true
    · rw [List.find?_cons_of_pos hz, Option.some.injEq] at h
      subst h
      refine ⟨by simp, hz, ?_⟩
      intro y hy _
      rcases List.mem_cons.mp hy with rfl | hrest
      · exact le_refl _
      · exact hs.1 y hrest
    · rw [List.find?_cons_of_neg hz] at h
      obtain ⟨hmem, hp, hleast⟩ := ih hs.2 h
      refine ⟨by simp [hmem], hp, ?_⟩
      intro y hy hpy
      rcases List.mem_cons.mp hy with rfl | hrest
      · exact absurd hpy hz
      · exact hleast y hrest hpy

/-- Sorted with distinct keys is strictly sorted. -/
theorem pairwise_lt_of_nodup_key {key : α → κ}
    (hs : xs.Pairwise fun a b => key a ≤ key b) (hnd : (xs.map key).Nodup) :
    xs.Pairwise fun a b => key a < key b := by
  have hne : xs.Pairwise fun a b => key a ≠ key b := List.pairwise_map.mp hnd
  exact (hs.and hne).imp fun h => lt_of_le_of_ne h.1 h.2

/-- With distinct keys, the element at a position is told from the others by its key. -/
theorem mapIdx_at_eq_map {β ι : Type} [DecidableEq ι] {key : α → ι} (hnd : (xs.map key).Nodup)
    {i : ℕ} {w : α} (hi : xs[i]? = some w) (f : Bool → α → β) :
    (xs.mapIdx fun j x => f (some i == some j) x) =
      xs.map fun x => f (decide (key x = key w)) x := by
  apply List.ext_getElem?
  intro j
  rw [List.getElem?_mapIdx, List.getElem?_map]
  cases hj : xs[j]? with
  | none => rfl
  | some x =>
    obtain ⟨hil, hiw⟩ := List.getElem?_eq_some_iff.mp hi
    obtain ⟨hjl, hjx⟩ := List.getElem?_eq_some_iff.mp hj
    have hkey : key x = key w ↔ i = j := by
      have hinj := @List.Nodup.getElem_inj_iff _ _ hnd j (by simpa using hjl) i
        (by simpa using hil)
      rw [List.getElem_map, List.getElem_map, hjx, hiw] at hinj
      rw [hinj, eq_comm]
    have hflag : (some i == some j) = decide (key x = key w) := by
      rw [Bool.eq_iff_iff, beq_iff_eq, decide_eq_true_iff, hkey, Option.some.injEq]
    rw [Option.map_some, Option.map_some, hflag]

/-- Taking the element at the position of the first match finds the first match. -/
theorem findIdx?_bind_getElem? (xs : List α) (p : α → Bool) :
    ((xs.findIdx? p).bind fun i => xs[i]?) = xs.find? p := by
  induction xs with
  | nil => rfl
  | cons x rest ih =>
    rw [List.findIdx?_cons]
    by_cases hx : p x = true
    · simp [hx]
    · rw [List.find?_cons_of_neg hx, ← ih]
      cases hrest : rest.findIdx? p <;> simp [hx]

/-- Counting all matches but the one at a given position. -/
theorem count_mapIdx_others {p : α → Bool} {k : ℕ} {x : α} (hk : xs[k]? = some x)
    (hx : p x = true) :
    (xs.mapIdx fun i y => !(some k == some i) && p y).count true + 1 = xs.countP p := by
  induction xs generalizing k with
  | nil => simp at hk
  | cons y rest ih =>
    rw [List.mapIdx_cons]
    cases k with
    | zero =>
      have hy : y = x := by simpa using hk
      have hrest : (rest.mapIdx fun i z => !(some 0 == some (i + 1)) && p z) = rest.map p := by
        apply List.ext_getElem?
        intro i
        simp
      rw [hrest, hy, List.countP_cons_of_pos hx]
      simp [List.count_eq_countP, List.countP_map, Function.comp_def]
    | succ k =>
      have hrest : (rest.mapIdx fun i z => !(some (k + 1) == some (i + 1)) && p z) =
          rest.mapIdx fun i z => !(some k == some i) && p z := by
        apply List.ext_getElem?
        intro i
        simp
      have hk' : rest[k]? = some x := by simpa using hk
      rw [hrest, List.countP_cons, List.count_cons, ← ih hk']
      simp only [Option.some_beq_some, Nat.reduceBeqDiff, Bool.not_false, Bool.true_and]
      cases p y <;> simp

/-- Lists that are compared alike position by position are sorted alike. -/
theorem insertionSort_pairs {β : Type} {r : α → α → Prop} [DecidableRel r] {s : β → β → Prop}
    [DecidableRel s] {zs : List (α × β)} (h : ∀ x ∈ zs, ∀ y ∈ zs, (r x.1 y.1 ↔ s x.2 y.2)) :
    ∃ sorted : List (α × β), sorted.Perm zs ∧
      (zs.map Prod.fst).insertionSort r = sorted.map Prod.fst ∧
      (zs.map Prod.snd).insertionSort s = sorted.map Prod.snd := by
  let first : α × β → α × β → Prop := fun x y => r x.1 y.1
  refine ⟨zs.insertionSort first, List.perm_insertionSort _ _, ?_, ?_⟩
  · exact (List.map_insertionSort first r Prod.fst zs fun _ _ _ _ => Iff.rfl).symm
  · exact (List.map_insertionSort first s Prod.snd zs h).symm

structure StrictWeakOrder (before : α → α → Bool) : Prop where
  irrefl : ∀ a, before a a = false
  trans : ∀ a b c, before a b = true → before b c = true → before a c = true
  ties : ∀ a b c, before a b = false → before b a = false → before b c = false →
    before c b = false → before a c = false

theorem StrictWeakOrder.of_key {before : α → α → Bool} (key : α → κ)
    (h : ∀ a b, before a b = true ↔ key a < key b) : StrictWeakOrder before where
  irrefl a := by
    rw [← Bool.not_eq_true, h]
    exact lt_irrefl _
  trans a b c := by
    rw [h, h, h]
    exact lt_trans
  ties a b c := by
    simp only [← Bool.not_eq_true, h, not_lt]
    intro hba _ hcb _
    exact le_trans hcb hba

/-- Not being after is transitive. -/
theorem StrictWeakOrder.not_after_trans {before : α → α → Bool} (h : StrictWeakOrder before)
    {a b c : α} (hab : before b a = false) (hbc : before c b = false) : before c a = false := by
  rw [← Bool.not_eq_true]
  intro hca
  cases hab' : before a b with
  | true =>
    have hcb := h.trans c a b hca hab'
    rw [hbc] at hcb
    cases hcb
  | false =>
    cases hbc' : before b c with
    | true =>
      have hba := h.trans b c a hbc' hca
      rw [hab] at hba
      cases hba
    | false =>
      rw [h.ties c b a hbc hbc' hab hab'] at hca
      cases hca

/-- A sort of which only this is known: with a comparison it can be given, it returns a
sorted permutation. -/
structure Sorter where
  sort : {β : Type} → (β → β → Bool) → List β → List β
  perm : ∀ {β : Type} {before : β → β → Bool}, StrictWeakOrder before → ∀ xs,
    (sort before xs).Perm xs
  sorted : ∀ {β : Type} {before : β → β → Bool}, StrictWeakOrder before → ∀ xs,
    (sort before xs).Pairwise fun a b => before b a = false

def Sorter.insertion : Sorter where
  sort before xs := xs.insertionSort fun a b => before b a = false
  perm _ xs := List.perm_insertionSort _ xs
  sorted {β before} h xs := by
    have htotal : Std.Total fun a b : β => before b a = false := by
      refine ⟨fun a b => ?_⟩
      cases hba : before b a with
      | false => exact Or.inl rfl
      | true =>
        refine Or.inr ?_
        rw [← Bool.not_eq_true]
        intro hab
        have haa := h.trans a b a hab hba
        rw [h.irrefl] at haa
        cases haa
    have htrans : IsTrans β fun a b => before b a = false := ⟨fun a b c => h.not_after_trans⟩
    exact List.pairwise_insertionSort (fun a b => before b a = false) xs

/-- Insertion sort with a comparison of keys. -/
theorem Sorter.sort_insertion (key : α → κ) (xs : List α) :
    Sorter.insertion.sort (fun a b => decide (key a < key b)) xs =
      xs.insertionSort fun a b => key a ≤ key b := by
  have hsame := List.map_insertionSort (fun a b => decide (key b < key a) = false)
    (fun a b => key a ≤ key b) id xs fun a _ b _ => by simp
  rw [List.map_id, List.map_id] at hsame
  exact hsame

/-- Where the keys tell the elements apart there is nothing left open. -/
theorem Sorter.sort_eq_insertionSort (σ : Sorter) {before : α → α → Bool} (key : α → κ)
    (h : ∀ a b, before a b = true ↔ key a < key b) {r : α → α → Prop} [DecidableRel r]
    (hr : ∀ a b, r a b ↔ key a ≤ key b) (hkey : ∀ a ∈ xs, ∀ b ∈ xs, key a = key b → a = b) :
    σ.sort before xs = xs.insertionSort r := by
  have horder := StrictWeakOrder.of_key key h
  have hx := σ.perm horder xs
  have hy := List.perm_insertionSort r xs
  have hsorted : (σ.sort before xs).Pairwise fun a b => key a ≤ key b := by
    refine (σ.sorted horder xs).imp fun hab => ?_
    rwa [← Bool.not_eq_true, h, not_lt] at hab
  refine List.Perm.eq_of_pairwise ?_ hsorted (pairwise_insertionSort_key r key hr xs)
    (hx.trans hy.symm)
  intro a b ha hb hab hba
  exact hkey a (hx.subset ha) b (hy.subset hb) (le_antisymm hab hba)

end FlowClassifier.Lib
