import FlowClassifier.Lib.Words

/-!
Bounded writers, consuming readers and self-delimiting codes over byte strings. An
encoder is the list of chunks it appends, one after another, to a buffer with a fixed
bound; it succeeds exactly when the chunks fit together. A reader takes a value off
the front of its input: `Reads r bs x` says that `r` takes `x` off any input that
starts with `bs`, and `Decodes` adds when it refuses to. `Delimited enc` says that an
encoded value can be cut off any longer text in one way only. Round trips and
injectivity are closed under sequencing, so those of a composite layout follow from
those of its fields.
-/
namespace FlowClassifier.Lib

variable {ε α β : Type}

/-- Appends the chunks one by one; a chunk that would pass the bound ends the run
with an error built from the needed size and the bound. -/
def writeChunks (overflow : ℕ → ℕ → ε) (limit : ℕ) :
    List (List UInt8) → List UInt8 → Except ε (List UInt8)
  | [], buffer => .ok buffer
  | chunk :: rest, buffer =>
    if buffer.length + chunk.length ≤ limit then
      writeChunks overflow limit rest (buffer ++ chunk)
    else .error (overflow (buffer.length + chunk.length) limit)

section Writing

variable (overflow : ℕ → ℕ → ε) {limit : ℕ}

theorem writeChunks_fits (chunks : List (List UInt8)) (buffer : List UInt8)
    (h : buffer.length + chunks.flatten.length ≤ limit) :
    writeChunks overflow limit chunks buffer = .ok (buffer ++ chunks.flatten) := by
  induction chunks generalizing buffer with
  | nil => simp [writeChunks]
  | cons chunk rest ih =>
    rw [List.flatten_cons, List.length_append] at h
    rw [writeChunks, if_pos (by omega), ih, List.flatten_cons, List.append_assoc]
    rw [List.length_append]
    omega

theorem writeChunks_overflow (chunks : List (List UInt8)) (buffer : List UInt8)
    (hbuffer : buffer.length ≤ limit) (h : limit < buffer.length + chunks.flatten.length) :
    ∃ e, writeChunks overflow limit chunks buffer = .error e := by
  induction chunks generalizing buffer with
  | nil =>
    simp only [List.flatten_nil, List.length_nil] at h
    omega
  | cons chunk rest ih =>
    rw [List.flatten_cons, List.length_append] at h
    by_cases hfit : buffer.length + chunk.length ≤ limit
    · obtain ⟨e, he⟩ := ih (buffer ++ chunk) (by rwa [List.length_append])
        (by rw [List.length_append]; omega)
      exact ⟨e, by rw [writeChunks, if_pos hfit, he]⟩
    · exact ⟨_, by rw [writeChunks, if_neg hfit]⟩

/-- A run from the empty buffer succeeds exactly when all chunks fit together. -/
theorem writeChunks_eq_ok_iff {chunks : List (List UInt8)} {out : List UInt8} :
    writeChunks overflow limit chunks [] = .ok out ↔
      out = chunks.flatten ∧ chunks.flatten.length ≤ limit := by
  by_cases hfit : chunks.flatten.length ≤ limit
  · rw [writeChunks_fits overflow chunks [] (by simpa using hfit)]
    simp only [List.nil_append, Except.ok.injEq, hfit, and_true]
    exact eq_comm
  · obtain ⟨e, he⟩ := writeChunks_overflow overflow chunks []
      (Nat.zero_le _) (by simpa using hfit)
    rw [he]
    constructor
    · intro h
      cases h
    · intro h
      exact absurd h.2 hfit

end Writing

abbrev Get (ε α : Type) := StateT (List UInt8) (Except ε) α

def Reads (r : Get ε α) (bs : List UInt8) (x : α) : Prop :=
  ∀ rest, r.run (bs ++ rest) = .ok (x, rest)

namespace Reads

theorem pure (x : α) : Reads (Pure.pure x : Get ε α) [] x := fun _ => rfl

theorem bind {r : Get ε α} {f : α → Get ε β} {a b : List UInt8} {x : α} {y : β}
    (hr : Reads r a x) (hf : Reads (f x) b y) : Reads (r >>= f) (a ++ b) y := by
  intro rest
  rw [StateT.run_bind, List.append_assoc, hr]
  exact hf rest

theorem map {r : Get ε α} {a : List UInt8} {x : α} (f : α → β) (hr : Reads r a x) :
    Reads (f <$> r) a (f x) := by
  intro rest
  rw [StateT.run_map, hr]
  rfl

end Reads

def Get.many (r : Get ε α) : ℕ → Get ε (List α)
  | 0 => Pure.pure []
  | n + 1 => do
    let x ← r
    let rest ← Get.many r n
    return x :: rest

theorem Reads.many {r : Get ε α} {g : α → List UInt8} (xs : List α)
    (h : ∀ x ∈ xs, Reads r (g x) x) : Reads (r.many xs.length) (xs.flatMap g) xs := by
  induction xs with
  | nil => exact Reads.pure []
  | cons x rest ih =>
    have htail := ih fun y hy => h y (by simp [hy])
    have hcons : Reads (do let ys ← r.many rest.length; return x :: ys)
        (rest.flatMap g) (x :: rest) :=
      htail.map (List.cons x)
    exact (h x (by simp)).bind hcons

/-- A sequence succeeds when its steps do, the second on what the first has left. -/
theorem run_bind_eq_ok {r : Get ε α} {f : α → Get ε β} {input : List UInt8}
    {out : β × List UInt8} (h : (r >>= f).run input = .ok out) :
    ∃ x rest, r.run input = .ok (x, rest) ∧ (f x).run rest = .ok out := by
  rw [StateT.run_bind] at h
  cases hr : r.run input with
  | error e =>
    rw [hr] at h
    cases h
  | ok first =>
    rw [hr] at h
    exact ⟨first.1, first.2, rfl, h⟩

theorem run_bind_of_ok {r : Get ε α} {f : α → Get ε β} {input rest : List UInt8} {x : α}
    (h : r.run input = .ok (x, rest)) : (r >>= f).run input = (f x).run rest := by
  rw [StateT.run_bind, h]
  rfl

def Yields (r : Get ε α) (property : α → Prop) : Prop :=
  ∀ input x rest, r.run input = .ok (x, rest) → property x

theorem Yields.pure {property : α → Prop} {x : α} (h : property x) :
    Yields (Pure.pure x : Get ε α) property := by
  intro input y rest hy
  cases hy
  exact h

/-- What the last step of a sequence returns is what the sequence returns. -/
theorem Yields.bind {property : β → Prop} (r : Get ε α) {f : α → Get ε β}
    (h : ∀ a, Yields (f a) property) : Yields (r >>= f) property := by
  intro input y rest hy
  obtain ⟨x, mid, -, hrest⟩ := run_bind_eq_ok hy
  exact h x mid y rest hrest

def FailsWith (r : Get ε α) (property : ε → Prop) : Prop :=
  ∀ input e, r.run input = .error e → property e

namespace FailsWith

variable {property : ε → Prop}

theorem pure (x : α) : FailsWith (Pure.pure x : Get ε α) property :=
  fun input e h => by cases h

theorem bind {r : Get ε α} {f : α → Get ε β} (hr : FailsWith r property)
    (hf : ∀ a, FailsWith (f a) property) : FailsWith (r >>= f) property := by
  intro input e he
  rw [StateT.run_bind] at he
  cases hout : r.run input with
  | error e' =>
    rw [hout] at he
    cases he
    exact hr input _ hout
  | ok out =>
    rw [hout] at he
    exact hf out.1 out.2 e he

end FailsWith

/-- What the reader takes off an input it takes off every longer input as well. -/
def Local (r : Get ε α) : Prop :=
  ∀ input x rest, r.run input = .ok (x, rest) →
    ∀ more, r.run (input ++ more) = .ok (x, rest ++ more)

namespace Local

theorem pure (x : α) : Local (Pure.pure x : Get ε α) := by
  intro input y rest h more
  cases h
  rfl

theorem fail (e : ε) : Local (throw e : Get ε α) := by
  intro input x rest h
  cases h

theorem bind {r : Get ε α} {f : α → Get ε β} (hr : Local r) (hf : ∀ x, Local (f x)) :
    Local (r >>= f) := by
  intro input y rest h more
  obtain ⟨x, mid, hfirst, hrest⟩ := run_bind_eq_ok h
  rw [run_bind_of_ok (hr input x mid hfirst more)]
  exact hf x mid y rest hrest more

end Local

/-- What the reader does on every input that starts with `bs` and is shorter than the
bound: it takes `x` off when the input is readable and fails when it is not. -/
def Decodes (bound : ℕ) (r : Get ε α) (bs : List UInt8) (readable : Prop) (x : α) : Prop :=
  ∀ rest, (bs ++ rest).length < bound →
    (readable → r.run (bs ++ rest) = .ok (x, rest)) ∧
      (¬ readable → ∃ e, r.run (bs ++ rest) = .error e)

theorem Reads.decodes {r : Get ε α} {bs : List UInt8} {x : α} (h : Reads r bs x) (bound : ℕ) :
    Decodes bound r bs True x :=
  fun rest _ => ⟨fun _ => h rest, fun hnot => absurd trivial hnot⟩

namespace Decodes

variable {bound : ℕ} {r : Get ε α} {f : α → Get ε β} {a b : List UInt8} {p q : Prop}
  {x : α} {y : β}

theorem iff (h : Decodes bound r a p x) (hiff : p ↔ q) : Decodes bound r a q x := by
  intro rest hlen
  rw [← hiff]
  exact h rest hlen

/-- The last step, which returns what was read. -/
theorem ret {x y : α} (h : y = x) : Decodes bound (Pure.pure y : Get ε α) [] True x := by
  rw [h]
  exact (Reads.pure x).decodes bound

/-- A reader that refuses the first part refuses the whole. -/
theorem bind (hr : Decodes bound r a p x) (hf : Decodes bound (f x) b q y) :
    Decodes bound (r >>= f) (a ++ b) (p ∧ q) y := by
  intro rest hlen
  rw [List.append_assoc] at hlen ⊢
  obtain ⟨hok, hbad⟩ := hr (b ++ rest) hlen
  have hshort : (b ++ rest).length < bound := by
    rw [List.length_append] at hlen
    omega
  obtain ⟨hok', hbad'⟩ := hf rest hshort
  rw [StateT.run_bind]
  by_cases hp : p
  · rw [hok hp]
    exact ⟨fun h => hok' h.2, fun h => hbad' fun hq => h ⟨hp, hq⟩⟩
  · obtain ⟨e, he⟩ := hbad hp
    rw [he]
    exact ⟨fun h => absurd h.1 hp, fun _ => ⟨e, rfl⟩⟩

/-- A field that is always readable, before the rest. -/
theorem after (hr : Reads r a x) (hf : Decodes bound (f x) b q y) :
    Decodes bound (r >>= f) (a ++ b) q y :=
  ((hr.decodes bound).bind hf).iff (iff_of_eq (true_and q))

/-- A bounded field that is always readable, before the rest. -/
theorem sure (hr : Decodes bound r a True x) (hf : Decodes bound (f x) b q y) :
    Decodes bound (r >>= f) (a ++ b) q y :=
  (hr.bind hf).iff (iff_of_eq (true_and q))

/-- A check, which takes nothing off the input, before the rest. -/
theorem check {r : Get ε Unit} {f : Unit → Get ε β} (hr : Decodes bound r [] p ())
    (hf : Decodes bound (f ()) b q y) : Decodes bound (r >>= f) b (p ∧ q) y :=
  hr.bind hf

theorem map {g : α → β} (hr : Decodes bound r a p x) : Decodes bound (g <$> r) a p (g x) := by
  intro rest hlen
  obtain ⟨hok, hbad⟩ := hr rest hlen
  rw [StateT.run_map]
  refine ⟨fun hp => by rw [hok hp]; rfl, fun hp => ?_⟩
  obtain ⟨e, he⟩ := hbad hp
  exact ⟨e, by rw [he]; rfl⟩

/-- As many records as the list has, each readable by itself. -/
theorem many {g : α → List UInt8} {p : α → Prop} {xs : List α}
    (h : ∀ x ∈ xs, Decodes bound r (g x) (p x) x) :
    Decodes bound (r.many xs.length) (xs.flatMap g) (∀ x ∈ xs, p x) xs := by
  induction xs with
  | nil => exact (ret rfl).iff (by simp)
  | cons x rest ih =>
    have htail := ih fun y hy => h y (by simp [hy])
    have hcons : Decodes bound (do let ys ← r.many rest.length; return x :: ys)
        (rest.flatMap g) (∀ y ∈ rest, p y) (x :: rest) :=
      htail.map
    exact ((h x (by simp)).bind hcons).iff (by simp)

end Decodes

/-- Codes of one fixed length after each other. -/
theorem length_flatMap_of_length {enc : α → List UInt8} {n : ℕ} (h : ∀ x, (enc x).length = n)
    (xs : List α) : (xs.flatMap enc).length = n * xs.length := by
  induction xs with
  | nil => rfl
  | cons x rest ih =>
    rw [List.flatMap_cons, List.length_append, h, ih, List.length_cons, Nat.mul_succ, Nat.add_comm]

/-- What can be read off the front of a text for one element can be read off for each
element of a list. -/
theorem flatMap_cancel {enc : α → List UInt8} {f : α → β} {p : α → Prop}
    (h : ∀ x y r s, p x → p y → enc x ++ r = enc y ++ s → f x = f y ∧ r = s)
    {xs ys : List α} {r s : List UInt8} (hxs : ∀ x ∈ xs, p x) (hys : ∀ y ∈ ys, p y)
    (hlen : xs.length = ys.length) (heq : xs.flatMap enc ++ r = ys.flatMap enc ++ s) :
    xs.map f = ys.map f ∧ r = s := by
  induction xs generalizing ys with
  | nil =>
    have hnil : ys = [] := List.length_eq_zero_iff.mp hlen.symm
    subst hnil
    exact ⟨rfl, by simpa using heq⟩
  | cons x xs ih =>
    cases ys with
    | nil => simp at hlen
    | cons y ys =>
      simp only [List.flatMap_cons, List.append_assoc] at heq
      obtain ⟨hxy, hrest⟩ := h x y _ _ (hxs x (by simp)) (hys y (by simp)) heq
      obtain ⟨htail, hrs⟩ := ih (fun z hz => hxs z (by simp [hz]))
        (fun z hz => hys z (by simp [hz])) (by simpa using hlen) hrest
      rw [List.map_cons, List.map_cons, hxy, htail]
      exact ⟨rfl, hrs⟩

/-- An encoded value can be cut off a longer text in one way only. -/
def Delimited (enc : α → List UInt8) : Prop :=
  ∀ ⦃x y : α⦄ ⦃r s : List UInt8⦄, enc x ++ r = enc y ++ s → x = y ∧ r = s

namespace Delimited

theorem injective {enc : α → List UInt8} (h : Delimited enc) : Function.Injective enc := by
  intro x y hxy
  exact (h (r := []) (s := []) (by simpa using hxy)).1

/-- A code of one fixed length is self-delimiting as soon as it is injective. -/
theorem of_length {enc : α → List UInt8} {n : ℕ} (hlen : ∀ x, (enc x).length = n)
    (hinj : Function.Injective enc) : Delimited enc := by
  intro x y r s h
  obtain ⟨hxy, hrs⟩ := List.append_inj h (by rw [hlen, hlen])
  exact ⟨hinj hxy, hrs⟩

theorem leBytes {w : ℕ} (value : α → ℕ) (hbound : ∀ x, value x < 256 ^ w)
    (hinj : Function.Injective value) : Delimited fun x => Lib.leBytes w (value x) :=
  of_length (fun _ => length_leBytes _ _) fun x y h =>
    hinj (leBytes_injective (hbound x) (hbound y) h)

/-- Lists of one code after each other, by their elements. -/
theorem flatMap {enc : α → List UInt8} (h : Delimited enc) {xs ys : List α}
    {r s : List UInt8} (hlen : xs.length = ys.length)
    (heq : xs.flatMap enc ++ r = ys.flatMap enc ++ s) : xs = ys ∧ r = s := by
  have hcancel := flatMap_cancel (f := id) (p := fun _ => True) (fun _ _ _ _ _ _ hxy => h hxy)
    (fun _ _ => trivial) (fun _ _ => trivial) hlen heq
  simpa using hcancel

end Delimited
end FlowClassifier.Lib
