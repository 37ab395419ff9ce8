import Mathlib.Data.List.AList
import Mathlib.Data.List.Sort

/-!
Finite maps as association lists with distinct keys. The container itself and
its lookup calculus are Mathlib's `AList` with a constant value family; this
module adds the value list, the size and the update of all values at once.
No statement here depends on the order in which the entries are stored.
-/
namespace FlowClassifier.Lib

abbrev FiniteMap (K V : Type) := AList (fun _ : K => V)

namespace FiniteMap

variable {K V W : Type} {k : K} {m : FiniteMap K V} {v : V} {m' : FiniteMap K W}

def values (m : FiniteMap K V) : List V := m.entries.map Sigma.snd

def size (m : FiniteMap K V) : ℕ := m.entries.length

def mapValues (f : K → V → W) (m : FiniteMap K V) : FiniteMap K W :=
  ⟨m.entries.map (.map id f), m.nodupKeys.map₂ f⟩

@[simp] theorem size_empty : size (∅ : FiniteMap K V) = 0 := rfl

theorem length_values (m : FiniteMap K V) : (values m).length = size m := by
  simp [values, size]

theorem values_mapValues (f : V → W) (m : FiniteMap K V) :
    values (mapValues (fun _ => f) m) = (values m).map f := by
  simp [values, mapValues, Function.comp_def, Sigma.map]

variable [DecidableEq K]

@[simp] theorem lookup_mapValues (f : K → V → W) (m : FiniteMap K V) (k : K) :
    (mapValues f m).lookup k = (m.lookup k).map (f k) :=
  List.dlookup_map₂ (l := m.entries) (f := f) k

theorem of_lookup_mapValues {f : K → V → W} {w : W}
    (h : (mapValues f m).lookup k = some w) : ∃ v, m.lookup k = some v ∧ f k v = w := by
  rw [lookup_mapValues] at h
  exact Option.map_eq_some_iff.mp h

theorem mem_values : v ∈ values m ↔ ∃ k, m.lookup k = some v := by
  constructor
  · intro hv
    obtain ⟨⟨k, w⟩, hmem, rfl⟩ := List.mem_map.mp hv
    exact ⟨k, AList.mem_lookup_iff.mpr hmem⟩
  · rintro ⟨k, hk⟩
    exact List.mem_map.mpr ⟨⟨k, v⟩, AList.mem_lookup_iff.mp hk, rfl⟩

theorem mem_values_of_lookup (h : m.lookup k = some v) : v ∈ values m :=
  mem_values.mpr ⟨k, h⟩

/-- Lookup after an insertion, at an arbitrary key. -/
theorem lookup_insert_eq (m : FiniteMap K V) (k j : K) (v : V) :
    (m.insert k v).lookup j = if j = k then some v else m.lookup j := by
  by_cases h : j = k
  · subst h
    simp
  · rw [if_neg h, AList.lookup_insert_ne h]

/-- Lookup after an erasure, at an arbitrary key. -/
theorem lookup_erase_eq (m : FiniteMap K V) (k j : K) :
    (m.erase k).lookup j = if j = k then none else m.lookup j := by
  by_cases h : j = k
  · subst h
    simp
  · rw [if_neg h, AList.lookup_erase_ne h]

theorem size_insert_of_lookup_none (h : m.lookup k = none) : size (m.insert k v) = size m + 1 := by
  have hk : k ∉ m := AList.lookup_eq_none.mp h
  rw [size, AList.entries_insert_of_notMem hk, List.length_cons, size]

/-- Values that carry their own keys carry distinct ones. -/
theorem nodup_map_values (key : V → K)
    (h : ∀ k v, m.lookup k = some v → key v = k) : ((values m).map key).Nodup := by
  have hmap : (values m).map key = m.entries.map Sigma.fst := by
    rw [values, List.map_map]
    apply List.map_congr_left
    rintro ⟨k, v⟩ hmem
    exact h k v (AList.mem_lookup_iff.mpr hmem)
  rw [hmap]
  exact m.nodupKeys

theorem mem_sorted_values {r : V → V → Prop} [DecidableRel r] :
    v ∈ (values m).insertionSort r ↔ ∃ k, m.lookup k = some v :=
  (List.perm_insertionSort r _).mem_iff.trans mem_values

theorem pairwise_sorted_values (key : V → K)
    (h : ∀ k v, m.lookup k = some v → key v = k) (r : V → V → Prop) [DecidableRel r] :
    ((values m).insertionSort r).Pairwise fun a b => key a ≠ key b := by
  have hperm := (List.perm_insertionSort r (values m)).map key
  exact List.pairwise_map.mp (hperm.nodup_iff.mpr (nodup_map_values key h))

/-- Maps with the same lookups have the same values, in some order. -/
theorem values_perm {m' : FiniteMap K V} (h : ∀ k, m.lookup k = m'.lookup k) :
    (values m).Perm (values m') := by
  have hperm := List.lookup_ext m.nodupKeys m'.nodupKeys fun k v =>
    Iff.of_eq (congrArg (v ∈ ·) (h k))
  exact hperm.map Sigma.snd

/-- Maps that agree on a projection of their values have the same projected values, in
some order. -/
theorem map_values_perm {U : Type} (f : V → U) (g : W → U)
    (h : ∀ k, (m.lookup k).map f = (m'.lookup k).map g) :
    ((values m).map f).Perm ((values m').map g) := by
  rw [← values_mapValues, ← values_mapValues]
  apply values_perm
  intro k
  rw [lookup_mapValues, lookup_mapValues, h k]

/-- Maps with the same keys have the same size. -/
theorem size_eq_of_isSome
    (h : ∀ k, (m.lookup k).isSome = (m'.lookup k).isSome) : size m = size m' := by
  have hunit : ∀ k, (m.lookup k).map (fun _ => ()) = (m'.lookup k).map fun _ => () := by
    intro k
    have hk := h k
    cases hv : m.lookup k <;> cases hw : m'.lookup k <;> simp [hv, hw] at hk ⊢
  have hlen := (map_values_perm (fun _ => ()) (fun _ => ()) hunit).length_eq
  simpa [length_values] using hlen

theorem size_le_of_isSome
    (h : ∀ k, (m.lookup k).isSome = true → (m'.lookup k).isSome = true) : size m ≤ size m' := by
  have hsub : m.keys ⊆ m'.keys := by
    intro k hk
    rw [← AList.mem_keys, ← AList.lookup_isSome] at hk ⊢
    exact h k hk
  have hle := (List.subperm_of_subset m.keys_nodup hsub).length_le
  simpa [AList.keys, List.keys, size] using hle

theorem size_erase_of_lookup (h : m.lookup k = some v) : size (m.erase k) + 1 = size m := by
  have hgone : (m.erase k).lookup k = none := by simp
  rw [← size_insert_of_lookup_none (v := v) hgone]
  apply size_eq_of_isSome
  intro j
  rw [lookup_insert_eq, lookup_erase_eq]
  split_ifs with hj
  · rw [hj, h, Option.isSome_some]
  · rfl

/-- Replacing a value by one with the same projection changes no projected lookup. -/
theorem map_lookup_insert {U : Type} (f : V → U) {old new : V}
    (hold : m.lookup k = some old) (h : f new = f old) (j : K) :
    ((m.insert k new).lookup j).map f = (m.lookup j).map f := by
  rw [lookup_insert_eq]
  split_ifs with hj
  · subst hj
    rw [hold, Option.map_some, Option.map_some, h]
  · rfl

theorem map_lookup_mapValues {U : Type} (f : V → U) {g : V → V} (h : ∀ v, f (g v) = f v)
    (m : FiniteMap K V) (j : K) :
    ((mapValues (fun _ => g) m).lookup j).map f = (m.lookup j).map f := by
  rw [lookup_mapValues, Option.map_map]
  exact congrArg (fun φ => (m.lookup j).map φ) (funext h)

end FiniteMap
end FlowClassifier.Lib
