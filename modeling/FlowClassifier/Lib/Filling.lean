import FlowClassifier.Lib.FiniteMap
import FlowClassifier.Lib.Runs
import Mathlib.Data.List.Induction

/-!
Filling a bounded store from a list. An entry is written under its key; a key that the
store does not know needs room, and the first entry that is not sound or finds no room
ends the loop. What the loop has written by then is a prefix of the list that depends on
the keys alone. Of the entries that go under one key the last one stays.
-/
namespace FlowClassifier.Lib

section Taking

variable {ε σ α κ : Type} [DecidableEq κ]

/-- The entries before the first one that is not sound, or that has a new key when no room
is left. -/
def takeRoom (key : α → κ) (sound : α → Bool) (known : κ → Bool) (room : ℕ) : List α → List α
  | [] => []
  | x :: rest =>
    if sound x && (known (key x) || room != 0) then
      x :: takeRoom key sound (fun k => known k || k == key x)
        (if known (key x) then room else room - 1) rest
    else []

/-- A loop that takes what is sound and has room, and refuses everything else untouched. -/
structure Fills (f : σ → α → Except ε Unit × σ) (key : α → κ) (sound : α → Bool)
    (put : σ → α → σ) (known : σ → κ → Bool) (room : σ → ℕ) : Prop where
  take : ∀ s x, (sound x && (known s (key x) || room s != 0)) = true → f s x = (.ok (), put s x)
  refuse : ∀ s x, (sound x && (known s (key x) || room s != 0)) = false →
    ∃ e, f s x = (.error e, s)
  known_put : ∀ s x, known (put s x) = fun k => known s k || k == key x
  room_put : ∀ s x, room (put s x) = if known s (key x) then room s else room s - 1

variable {f : σ → α → Except ε Unit × σ} {key : α → κ} {sound : α → Bool} {put : σ → α → σ}
  {known : σ → κ → Bool} {room : σ → ℕ}

/-- The loop has written the prefix, and it succeeds when the prefix is everything. -/
theorem Fills.tryEach (h : Fills f key sound put known room) (s : σ) (xs : List α) :
    let taken := takeRoom key sound (known s) (room s) xs
    (tryEach f s xs).2 = taken.foldl put s ∧ ((tryEach f s xs).1 = .ok () ↔ taken = xs) := by
  induction xs generalizing s with
  | nil => exact ⟨rfl, by simp [Lib.tryEach, takeRoom]⟩
  | cons x rest ih =>
    cases htakes : sound x && (known s (key x) || room s != 0) with
    | true =>
      have hrest := ih (put s x)
      rw [h.known_put, h.room_put] at hrest
      rw [Lib.tryEach, h.take s x htakes, takeRoom, if_pos htakes]
      refine ⟨hrest.1, hrest.2.trans ?_⟩
      rw [List.cons.injEq]
      exact ⟨fun hsame => ⟨rfl, hsame⟩, fun hsame => hsame.2⟩
    | false =>
      obtain ⟨e, hrefused⟩ := h.refuse s x htakes
      rw [Lib.tryEach, hrefused, takeRoom, if_neg (by rw [htakes]; exact Bool.false_ne_true)]
      exact ⟨rfl, by simp⟩

/-- Entries with new keys of their own are all taken when they are sound and have room. -/
theorem takeRoom_eq_self_iff {room : ℕ} {known : κ → Bool} {xs : List α}
    (hnodup : (xs.map key).Nodup) (hnew : ∀ x ∈ xs, known (key x) = false) :
    takeRoom key sound known room xs = xs ↔ (∀ x ∈ xs, sound x = true) ∧ xs.length ≤ room := by
  induction xs generalizing known room with
  | nil => simp [takeRoom]
  | cons x rest ih =>
    rw [List.map_cons, List.nodup_cons] at hnodup
    have hx : known (key x) = false := hnew x List.mem_cons_self
    have hrest : ∀ y ∈ rest, (known (key y) || key y == key x) = false := by
      intro y hy
      rw [hnew y (List.mem_cons_of_mem _ hy), Bool.false_or, beq_eq_false_iff_ne]
      intro hkey
      exact hnodup.1 (hkey ▸ List.mem_map_of_mem hy)
    have hiff : takeRoom key sound (fun k => known k || k == key x) (room - 1) rest = rest ↔
        (∀ y ∈ rest, sound y = true) ∧ rest.length ≤ room - 1 := ih hnodup.2 hrest
    rw [takeRoom, hx, Bool.false_or, List.forall_mem_cons, List.length_cons]
    by_cases htakes : (sound x && room != 0) = true
    · obtain ⟨hsound, hroom⟩ := Bool.and_eq_true_iff.mp htakes
      rw [bne_iff_ne] at hroom
      rw [if_pos htakes, if_neg Bool.false_ne_true, List.cons.injEq]
      constructor
      · rintro ⟨-, htaken⟩
        obtain ⟨hall, hle⟩ := hiff.mp htaken
        exact ⟨⟨hsound, hall⟩, by omega⟩
      · rintro ⟨⟨-, hall⟩, hle⟩
        exact ⟨rfl, hiff.mpr ⟨hall, by omega⟩⟩
    · rw [if_neg htakes]
      constructor
      · intro hnil
        cases hnil
      · rintro ⟨⟨hsound, -⟩, hle⟩
        rw [hsound, Bool.true_and, bne_iff_ne] at htakes
        omega

end Taking

namespace FiniteMap

variable {K V α : Type} [DecidableEq K]

theorem isSome_lookup_insert (m : FiniteMap K V) (k : K) (v : V) :
    (fun j => ((m.insert k v).lookup j).isSome) = fun j => (m.lookup j).isSome || j == k := by
  funext j
  rw [lookup_insert_eq]
  by_cases hkey : j = k
  · simp [hkey]
  · simp [hkey]

/-- The room that an insertion leaves below a bound. -/
theorem room_insert (m : FiniteMap K V) (k : K) (v : V) (bound : ℕ) :
    bound - size (m.insert k v) =
      if (m.lookup k).isSome then bound - size m else bound - size m - 1 := by
  cases hk : m.lookup k with
  | none =>
    rw [size_insert_of_lookup_none hk, if_neg (by simp)]
    omega
  | some w =>
    have hsize : size (m.insert k v) = size m := by
      apply size_eq_of_isSome
      intro j
      rw [lookup_insert_eq]
      split_ifs with hkey
      · rw [hkey, hk]
        rfl
      · rfl
    rw [hsize, if_pos (by simp)]

theorem known_or_room_iff {m : FiniteMap K V} {k : K} {bound : ℕ} :
    ((m.lookup k).isSome || bound - size m != 0) = true ↔
      ¬ ((m.lookup k).isNone = true ∧ size m ≥ bound) := by
  cases m.lookup k with
  | none =>
    simp only [Option.isSome_none, Option.isNone_none, Bool.false_or, bne_iff_ne, true_and]
    omega
  | some v => simp

theorem size_insert_le {m : FiniteMap K V} {k : K} {bound : ℕ} (h : size m ≤ bound)
    (hroom : ¬ ((m.lookup k).isNone = true ∧ size m ≥ bound)) (v : V) :
    size (m.insert k v) ≤ bound := by
  have hinsert := room_insert m k v (bound + 1)
  cases hk : m.lookup k with
  | none =>
    rw [hk, if_neg (by simp)] at hinsert
    have hless : ¬ size m ≥ bound := fun hfull => hroom ⟨by rw [hk]; rfl, hfull⟩
    omega
  | some w =>
    rw [hk, if_pos Option.isSome_some] at hinsert
    omega

def lastOf (key : α → K) (xs : List α) (k : K) : Option α :=
  (xs.filter fun x => key x = k).getLast?

theorem lastOf_concat (key : α → K) (xs : List α) (x : α) (k : K) :
    lastOf key (xs ++ [x]) k = if key x = k then some x else lastOf key xs k := by
  unfold lastOf
  rw [List.filter_append, List.filter_singleton]
  by_cases hkey : key x = k
  · simp [hkey]
  · simp [hkey]

theorem key_of_lastOf {key : α → K} {xs : List α} {k : K} {x : α} (h : lastOf key xs k = some x) :
    x ∈ xs ∧ key x = k := by
  have hmem := List.mem_of_getLast? h
  rw [List.mem_filter] at hmem
  exact ⟨hmem.1, by simpa using hmem.2⟩

theorem lookup_foldl_insert (key : α → K) (val : α → V) (m : FiniteMap K V) (xs : List α) (k : K) :
    (xs.foldl (fun m x => m.insert (key x) (val x)) m).lookup k =
      ((lastOf key xs k).map val).or (m.lookup k) := by
  induction xs using List.reverseRecOn with
  | nil => rfl
  | append_singleton xs x ih =>
    rw [List.foldl_append, List.foldl_cons, List.foldl_nil, lookup_insert_eq, lastOf_concat]
    by_cases hkey : k = key x
    · rw [if_pos hkey, if_pos hkey.symm]
      rfl
    · rw [if_neg hkey, if_neg (Ne.symm hkey), ih]

/-- Entries with keys of their own are all found. -/
theorem lookup_foldl_insert_of_mem (key : α → K) (val : α → V) (m : FiniteMap K V) {xs : List α}
    (hnodup : (xs.map key).Nodup) {x : α} (hx : x ∈ xs) :
    (xs.foldl (fun m x => m.insert (key x) (val x)) m).lookup (key x) = some (val x) := by
  induction xs generalizing m with
  | nil => cases hx
  | cons y rest ih =>
    rw [List.map_cons, List.nodup_cons] at hnodup
    rw [List.foldl_cons]
    rcases List.mem_cons.mp hx with rfl | hrest
    · rw [lookup_foldl_insert]
      cases hlast : lastOf key rest (key x) with
      | none => exact AList.lookup_insert _
      | some z =>
        obtain ⟨hz, hkey⟩ := key_of_lastOf hlast
        exact absurd (hkey ▸ List.mem_map_of_mem hz) hnodup.1
    · exact ih _ hnodup.2 hrest

/-- The values of a map, sorted and filled under their keys into a map without other keys. -/
theorem lookup_refilled {W : Type} {m : FiniteMap K V} (key : V → K)
    (h : ∀ k v, m.lookup k = some v → key v = k) {filled : FiniteMap K W}
    (hfilled : ∀ k, m.lookup k = none → filled.lookup k = none) (r : V → V → Prop)
    [DecidableRel r] (val : V → W) (k : K) :
    (((values m).insertionSort r).foldl (fun m' v => m'.insert (key v) (val v)) filled).lookup k =
      (m.lookup k).map val := by
  have hdistinct : (((values m).insertionSort r).map key).Nodup :=
    List.pairwise_map.mpr (pairwise_sorted_values key h r)
  cases hlookup : m.lookup k with
  | some v =>
    have hfound := lookup_foldl_insert_of_mem key val filled hdistinct
      (mem_sorted_values.mpr ⟨k, hlookup⟩)
    rw [h k v hlookup] at hfound
    rw [hfound, Option.map_some]
  | none =>
    have hnone : lastOf key ((values m).insertionSort r) k = none := by
      cases hlast : lastOf key ((values m).insertionSort r) k with
      | none => rfl
      | some v =>
        obtain ⟨hmem, hkey⟩ := key_of_lastOf hlast
        obtain ⟨j, hj⟩ := mem_sorted_values.mp hmem
        rw [← hkey, h j v hj, hj] at hlookup
        cases hlookup
    rw [lookup_foldl_insert, hnone, hfilled k hlookup]
    rfl

def Holds (key : α → K) (val : α → V) (m : FiniteMap K V) (xs : List α) : Prop :=
  ∀ x ∈ xs, m.lookup (key x) = (lastOf key xs (key x)).map val

/-- Of the entries under one key only the last is seen. -/
theorem foldl_insert_same_iff (key : α → K) (val : α → V) (m : FiniteMap K V) (xs : List α) :
    (∀ k, (xs.foldl (fun m x => m.insert (key x) (val x)) m).lookup k = m.lookup k) ↔
      Holds key val m xs := by
  constructor
  · intro h x hx
    have hsame := h (key x)
    rw [lookup_foldl_insert] at hsame
    cases hlast : lastOf key xs (key x) with
    | none =>
      have hmem : x ∈ xs.filter fun y => key y = key x := List.mem_filter.mpr ⟨hx, by simp⟩
      rw [lastOf, List.getLast?_eq_none_iff] at hlast
      rw [hlast] at hmem
      cases hmem
    | some y =>
      rw [hlast] at hsame
      exact hsame.symm
  · intro h k
    rw [lookup_foldl_insert]
    cases hlast : lastOf key xs k with
    | none => rfl
    | some y =>
      obtain ⟨hmem, rfl⟩ := key_of_lastOf hlast
      rw [h y hmem, hlast]
      rfl

end FiniteMap
end FlowClassifier.Lib
