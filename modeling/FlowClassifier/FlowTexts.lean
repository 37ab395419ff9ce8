import FlowClassifier.Flows
import Mathlib.Data.List.GetD

/-!
The text of a flow key determines the key. An address is written in hexadecimal groups, with
one run of zero groups left out, so its text is a sequence of groups that end at a colon, with
an empty one in the place of the run. The port after the last colon is decimal, and there is
no space in an address.
-/
namespace FlowClassifier.Flows

open Lib Foundation

namespace IpAddress

theorem plain_hexGroup {v : ℕ} {b : UInt8} (h : b ∈ hexGroup v) :
    b ≠ 10 ∧ b ≠ 32 ∧ b ≠ 46 ∧ b ≠ 58 := by
  have hplain : ∀ d < 16, hexDigit d ≠ 10 ∧ hexDigit d ≠ 32 ∧ hexDigit d ≠ 46 ∧
      hexDigit d ≠ 58 := by decide
  unfold hexGroup at h
  split_ifs at h
  · exact List.mem_singleton.mp h ▸ hplain 0 (by decide)
  · obtain ⟨d, hd, rfl⟩ := List.mem_map.mp h
    exact hplain d (Nat.digits_lt_base (by decide) (List.mem_reverse.mp hd))

theorem hexGroup_injective : Function.Injective hexGroup := fun _ _ h =>
  eq_of_numeral_eq (by decide) (fun _ hx _ hy => hexDigit_injective hx hy) h

@[simp] theorem hexGroup_ne_nil (v : ℕ) : hexGroup v ≠ [] := by
  unfold hexGroup
  split_ifs with hv
  · exact List.cons_ne_nil _ _
  · simpa using Nat.digits_ne_nil_iff_ne_zero.mpr hv

theorem length_groups (a : IpAddress) : a.groups.length = 8 := by simp [groups]

theorem eq_of_groups_eq {a b : IpAddress} (h : a.groups = b.groups) : a = b := by
  have hgroup (i : ℕ) (hi : i < 8) := List.map_inj_left.mp h i (List.mem_range.mpr hi)
  have hlist : a.bytes.toList = b.bytes.toList := by
    apply List.ext_getElem (by simp)
    intro j hj hj'
    have hpair := hgroup (j / 2) (by simp at hj; omega)
    have hhigh := (a.bytes.toList.getD (2 * (j / 2) + 1) 0).toNat_lt
    have hhigh' := (b.bytes.toList.getD (2 * (j / 2) + 1) 0).toNat_lt
    rw [← List.getD_eq_getElem _ 0 hj, ← List.getD_eq_getElem _ 0 hj', ← UInt8.toNat_inj]
    rcases Nat.mod_two_eq_zero_or_one j with heven | hodd
    · rw [show 2 * (j / 2) = j by omega] at hpair hhigh hhigh'
      omega
    · rw [show 2 * (j / 2) + 1 = j by omega] at hpair hhigh hhigh'
      omega
  cases a
  cases b
  exact congrArg IpAddress.mk (Subtype.ext hlist)

def ZeroRun.In (r : ZeroRun) (gs more : List ℕ) : Prop :=
  r.length ≠ 0 → ∃ pre, gs = pre ++ List.replicate r.length 0 ++ more ∧ pre.length = r.start

/-- The run so far and the best one are runs of zeros in what was read. -/
theorem longestRun_in {run best : ZeroRun} {seen gs : List ℕ} (hrun : run.In seen [])
    (hbest : ∃ more, best.In seen more) :
    ∃ more, (longestRun seen.length run best gs).In (seen ++ gs) more := by
  induction gs generalizing seen run best with
  | nil => simpa [longestRun] using hbest
  | cons g gs ih =>
    have hmore : ∃ more, best.In (seen ++ [g]) more := by
      obtain ⟨more, hmore⟩ := hbest
      refine ⟨more ++ [g], fun hl => ?_⟩
      obtain ⟨pre, rfl, hpre⟩ := hmore hl
      exact ⟨pre, by simp, hpre⟩
    have hsnoc : seen ++ g :: gs = seen ++ [g] ++ gs := by simp
    have hlength : seen.length + 1 = (seen ++ [g]).length := by simp
    rw [longestRun, hsnoc, hlength]
    by_cases hzero : g = 0
    · subst hzero
      rw [if_pos rfl]
      have hlonger : ZeroRun.In ⟨if run.length = 0 then seen.length else run.start, run.length + 1⟩
          (seen ++ [0]) [] := by
        intro _
        by_cases hempty : run.length = 0
        · exact ⟨seen, by simp [hempty], by simp [hempty]⟩
        · obtain ⟨pre, hseen, hpre⟩ := hrun hempty
          refine ⟨pre, ?_, by simp [hempty, hpre]⟩
          simp [hseen, List.replicate_succ']
      refine ih hlonger ?_
      by_cases hlong : run.length + 1 > best.length
      · exact ⟨[], by simpa only [if_pos hlong] using hlonger⟩
      · simpa only [if_neg hlong] using hmore
    · rw [if_neg hzero]
      exact ih (fun h => absurd rfl h) hmore

theorem compressed_in (a : IpAddress) : ∃ more, a.compressed.In a.groups more := by
  obtain ⟨more, hmore⟩ := @longestRun_in ⟨0, 0⟩ ⟨8, 0⟩ [] a.groups (absurd rfl) ⟨[], absurd rfl⟩
  unfold compressed
  dsimp only
  split_ifs
  · exact ⟨[], absurd rfl⟩
  · exact ⟨more, hmore⟩

def fresh (out : Bytes) : Bool := out.isEmpty || out.getLast? == some 58

def put (out : Bytes) (g : ℕ) : Bytes := out ++ (if fresh out then [] else text ":") ++ hexGroup g

theorem renderGroups_append {best : ZeroRun} {i : ℕ} {out : Bytes} {gs : List ℕ} (more : List ℕ)
    (h : best.length ≠ 0 → ∀ j < gs.length, i + j ≠ best.start) :
    renderGroups best i 0 out (gs ++ more) =
      renderGroups best (i + gs.length) 0 (gs.foldl put out) more := by
  induction gs generalizing i out with
  | nil => rfl
  | cons g gs ih =>
    have hhere : ¬ (best.length ≠ 0 ∧ i = best.start) := fun hstart =>
      h hstart.1 0 (Nat.succ_pos _) hstart.2
    have hlater (hl : best.length ≠ 0) (j : ℕ) (hj : j < gs.length) : i + 1 + j ≠ best.start := by
      have := h hl (j + 1) (Nat.succ_lt_succ hj)
      omega
    rw [List.cons_append, renderGroups]
    dsimp only
    rw [if_neg hhere, List.length_cons, ← Nat.add_assoc, Nat.add_right_comm]
    exact ih hlater

theorem renderGroups_eq {best : ZeroRun} {i : ℕ} {out : Bytes} {gs : List ℕ}
    (h : best.length ≠ 0 → ∀ j < gs.length, i + j ≠ best.start) :
    renderGroups best i 0 out gs = gs.foldl put out := by
  simpa [renderGroups] using renderGroups_append [] h

theorem renderGroups_skip {best : ZeroRun} {i skip : ℕ} {out : Bytes} (more : List ℕ) :
    renderGroups best i skip out (List.replicate skip 0 ++ more) =
      renderGroups best (i + skip) 0 out more := by
  induction skip generalizing i with
  | zero => rfl
  | succ skip ih =>
    rw [List.replicate_succ, List.cons_append, renderGroups, ih]
    congr 1
    omega

theorem fresh_append_hexGroup (out : Bytes) (g : ℕ) : fresh (out ++ hexGroup g) = false := by
  have hne := hexGroup_ne_nil g
  have hlast := (plain_hexGroup (List.getLast_mem hne)).2.2.2
  simp [fresh, hne, List.getLast?_append, List.getLast?_eq_some_getLast hne, hlast]

theorem foldl_put_of_not_fresh {out : Bytes} (h : fresh out = false) (gs : List ℕ) :
    gs.foldl put out ++ [58] = out ++ [58] ++ (gs.map hexGroup).flatMap (· ++ [58]) := by
  induction gs generalizing out with
  | nil => simp
  | cons g gs ih =>
    have hput : put out g = out ++ [58] ++ hexGroup g := by
      rw [put, h]
      rfl
    rw [List.foldl_cons, hput, ih (fresh_append_hexGroup _ g)]
    simp

def parts (gs : List ℕ) : List Bytes := if gs = [] then [[]] else gs.map hexGroup

theorem foldl_put {out : Bytes} (h : fresh out = true) (gs : List ℕ) :
    gs.foldl put out ++ [58] = out ++ (parts gs).flatMap (· ++ [58]) := by
  cases gs with
  | nil => simp [parts]
  | cons g gs =>
    have hput : put out g = out ++ hexGroup g := by
      rw [put, if_pos h, List.append_nil]
    rw [List.foldl_cons, hput, foldl_put_of_not_fresh (fresh_append_hexGroup out g)]
    simp [parts]

/-- The parts hold the groups around a run of zeros; an empty one tells where the run is. -/
def PartsOf (a : IpAddress) (ps : List Bytes) : Prop :=
  ∃ pre n suf, a.groups = pre ++ List.replicate n 0 ++ suf ∧
    ps.filter (· ≠ []) = (pre ++ suf).map hexGroup ∧ ps.idxOf [] = pre.length

theorem PartsOf.plain {a : IpAddress} {ps : List Bytes} {p : Bytes} {b : UInt8} (h : PartsOf a ps)
    (hp : p ∈ ps) (hb : b ∈ p) : b ≠ 10 ∧ b ≠ 32 ∧ b ≠ 46 ∧ b ≠ 58 := by
  obtain ⟨pre, n, suf, -, hfull, -⟩ := h
  have hgroup : p ∈ (pre ++ suf).map hexGroup :=
    hfull ▸ List.mem_filter.mpr ⟨hp, decide_eq_true (List.ne_nil_of_mem hb)⟩
  obtain ⟨g, -, rfl⟩ := List.mem_map.mp hgroup
  exact plain_hexGroup hb

theorem PartsOf.injective {a b : IpAddress} {ps : List Bytes} (h : PartsOf a ps)
    (h' : PartsOf b ps) : a = b := by
  obtain ⟨pre, n, suf, hgroups, hfull, hrun⟩ := h
  obtain ⟨pre', n', suf', hgroups', hfull', hrun'⟩ := h'
  have hsame := List.map_injective_iff.mpr hexGroup_injective (hfull.symm.trans hfull')
  obtain ⟨rfl, rfl⟩ := List.append_inj hsame (hrun.symm.trans hrun')
  have hlength := congrArg List.length hgroups
  have hlength' := congrArg List.length hgroups'
  simp only [length_groups, List.length_append, List.length_replicate] at hlength hlength'
  exact eq_of_groups_eq (by rw [hgroups, hgroups', show n = n' by omega])

theorem partsOf_groups (a : IpAddress) : PartsOf a (a.groups.map hexGroup) := by
  refine ⟨a.groups, 0, [], by simp, by simp, ?_⟩
  rw [List.idxOf_eq_length (by simp), List.length_map]

theorem partsOf_run {a : IpAddress} {pre suf : List ℕ} {n : ℕ}
    (h : a.groups = pre ++ List.replicate n 0 ++ suf) :
    PartsOf a (parts pre ++ [] :: parts suf) := by
  have hfilter (gs : List ℕ) : (parts gs).filter (· ≠ []) = gs.map hexGroup := by
    cases gs <;> simp [parts]
  refine ⟨pre, n, suf, h, ?_, ?_⟩
  · rw [List.filter_append, List.filter_cons_of_neg (by simp), hfilter, hfilter, List.map_append]
  · cases pre with
    | nil => rfl
    | cons g pre =>
      rw [parts, if_neg (List.cons_ne_nil _ _), List.idxOf_append_of_notMem (by simp)]
      simp

/-- The text of an address in groups, by the parts that end at a colon. -/
theorem exists_parts {a : IpAddress} (h : a.isV4Mapped = false) :
    ∃ ps, PartsOf a ps ∧ a.toString ++ [58] = ps.flatMap (· ++ [58]) := by
  obtain ⟨suf, hrun⟩ := a.compressed_in
  suffices hout : ∃ ps, PartsOf a ps ∧ 1 < ps.length ∧
      renderGroups a.compressed 0 0 [] a.groups ++ [58] = ps.flatMap (· ++ [58]) by
    obtain ⟨ps, hshape, hlength, hps⟩ := hout
    refine ⟨ps, hshape, ?_⟩
    have hne : (renderGroups a.compressed 0 0 [] a.groups).isEmpty = false := by
      rw [List.isEmpty_eq_false_iff]
      intro hnil
      rw [hnil] at hps
      have hcount := congrArg List.length hps
      match ps with
      | p :: q :: ps =>
        simp at hcount
        omega
    rw [← hps, toString, h]
    show (if (renderGroups a.compressed 0 0 [] a.groups).isEmpty then _ else _) ++ [58] = _
    rw [hne]
    rfl
  by_cases hnone : a.compressed.length = 0
  · have hlength := a.length_groups
    have hparts : parts a.groups = a.groups.map hexGroup :=
      if_neg fun hnil => by simp [hnil] at hlength
    refine ⟨_, partsOf_groups a, by simp [hlength], ?_⟩
    rw [renderGroups_eq (fun hl => absurd hnone hl), foldl_put rfl, hparts]
    rfl
  · obtain ⟨pre, hgroups, hpre⟩ := hrun hnone
    refine ⟨_, partsOf_run hgroups, ?_, ?_⟩
    · cases pre <;> simp [parts]
    · obtain ⟨n, hn⟩ := Nat.exists_eq_succ_of_ne_zero hnone
      have hcolons : fresh (pre.foldl put [] ++ [58, 58]) = true := by simp [fresh]
      have hbefore : pre.foldl put [] ++ [58] = (parts pre).flatMap (· ++ [58]) := foldl_put rfl pre
      rw [hgroups, List.append_assoc, renderGroups_append _ (fun _ j hj => by omega), hn,
        List.replicate_succ, List.cons_append, renderGroups]
      dsimp only
      rw [if_pos ⟨hnone, by omega⟩, hn, Nat.succ_sub_one, renderGroups_skip,
        renderGroups_eq (fun _ j hj => by omega)]
      show List.foldl put (_ ++ [58, 58]) suf ++ [58] = _
      rw [foldl_put hcolons, List.flatMap_append, ← hbefore]
      simp

/-- A mapped address in four decimal numbers. -/
theorem toString_of_v4 {a : IpAddress} (h : a.isV4Mapped = true) :
    46 ∈ a.toString ∧ a.toString ++ [46] =
      ((a.bytes.toList.drop 12).map fun b => decimal b.toNat).flatMap (· ++ [46]) := by
  have hfour : (a.bytes.toList.drop 12).length = 4 := by simp
  obtain ⟨w, x, y, z, hlist⟩ := List.length_eq_four.mp hfour
  rw [toString, if_pos h, hlist, show text "." = [46] from rfl]
  simp [List.intercalate]

theorem plain_toString {a : IpAddress} {b : UInt8} (h : b ∈ a.toString) :
    b ≠ 10 ∧ b ≠ 32 ∧ (b = 46 → a.isV4Mapped = true) := by
  cases hv4 : a.isV4Mapped with
  | false =>
    obtain ⟨ps, hshape, hps⟩ := exists_parts hv4
    obtain ⟨p, hp, hb⟩ := List.mem_flatMap.mp (hps ▸ List.mem_append_left _ h)
    rcases List.mem_append.mp hb with hb | hb
    · obtain ⟨hline, hspace, hdot, -⟩ := hshape.plain hp hb
      exact ⟨hline, hspace, fun h => absurd h hdot⟩
    · rw [List.mem_singleton.mp hb]
      decide
  | true =>
    have hb : b ∈ a.toString ++ [46] := List.mem_append_left _ h
    rw [(toString_of_v4 hv4).2] at hb
    obtain ⟨p, hp, hb⟩ := List.mem_flatMap.mp hb
    rcases List.mem_append.mp hb with hb | hb
    · obtain ⟨v, -, rfl⟩ := List.mem_map.mp hp
      have hdigit := isDigitByte_decimal _ b hb
      exact ⟨fun h => by simp [h, isDigitByte] at hdigit,
        fun h => by simp [h, isDigitByte] at hdigit, fun _ => rfl⟩
    · rw [List.mem_singleton.mp hb]
      decide

theorem dot_mem_toString_iff {a : IpAddress} : 46 ∈ a.toString ↔ a.isV4Mapped = true :=
  ⟨fun h => (plain_toString h).2.2 rfl, fun h => (toString_of_v4 h).1⟩

/-- The parts between the colons give the groups back, an empty one the run. -/
theorem toString_injective : Function.Injective toString := by
  intro a b h
  have hsame : a.isV4Mapped = b.isV4Mapped := by
    rw [Bool.eq_iff_iff, ← dot_mem_toString_iff, h, dot_mem_toString_iff]
  cases ha : a.isV4Mapped with
  | true =>
    have hb := hsame.symm.trans ha
    have htext := (toString_of_v4 ha).2
    rw [h, (toString_of_v4 hb).2] at htext
    have hfree (l : List UInt8) : ∀ p ∈ l.map fun b => decimal b.toNat, 46 ∉ p := by
      simpa using fun b _ hmem => absurd (isDigitByte_decimal _ _ hmem) (by decide)
    have hlast := eq_of_map_eq (fun x _ y _ hxy => UInt8.toNat_inj.mp (decimal_injective hxy))
      (eq_of_terminated_eq (hfree _) (hfree _) htext)
    rw [isV4Mapped, beq_iff_eq] at ha hb
    have hlist : a.bytes.toList = b.bytes.toList := by
      rw [← List.take_append_drop 12 a.bytes.toList, ha, ← hlast, ← hb, List.take_append_drop]
    cases a
    cases b
    exact congrArg IpAddress.mk (Subtype.ext hlist)
  | false =>
    obtain ⟨ps, hshape, hps⟩ := exists_parts ha
    obtain ⟨ps', hshape', hps'⟩ := exists_parts (hsame.symm.trans ha)
    have hparts : ps = ps' := by
      apply eq_of_terminated_eq _ _ (hps.symm.trans (h ▸ hps'))
      · exact fun p hp hb => (hshape.plain hp hb).2.2.2 rfl
      · exact fun p hp hb => (hshape'.plain hp hb).2.2.2 rfl
    subst hparts
    exact hshape.injective hshape'

end IpAddress

def endpoint (a : IpAddress) (port : UInt16) : Bytes := a.toString ++ 58 :: decimal port.toNat

theorem endpoint_injective {a b : IpAddress} {p q : UInt16} (h : endpoint a p = endpoint b q) :
    a = b ∧ p = q := by
  obtain ⟨haddress, -, hport⟩ := split_at_last_separator (isDigitByte_decimal _)
    (isDigitByte_decimal _) (by decide) (by decide) h
  exact ⟨IpAddress.toString_injective haddress, UInt16.toNat_inj.mp (decimal_injective hport)⟩

theorem space_notMem_endpoint (a : IpAddress) (p : UInt16) : ∀ b ∈ endpoint a p, b ≠ 32 := by
  rintro b hb rfl
  rcases List.mem_append.mp hb with hb | hb
  · exact (IpAddress.plain_toString hb).2.1 rfl
  · rcases List.mem_cons.mp hb with heq | hb
    · cases heq
    · exact absurd (isDigitByte_decimal _ _ hb) (by decide)

/-- A flow key can be told from its text. -/
theorem flowKey_text_injective : Function.Injective FlowKey.toString := by
  have hsplit (key : FlowKey) : key.toString = key.transport.toString ++ 32 ::
      (endpoint key.localAddress key.localPort ++ 32 ::
        ([45, 62, 32] ++ endpoint key.remoteAddress key.remotePort)) := by
    simp only [FlowKey.toString, endpoint, List.append_assoc]
    rfl
  have hname (t : TransportProtocol) : ∀ b ∈ t.toString, b ≠ 32 := by
    have hspace : 32 ∉ t.toString := by cases t <;> decide
    exact fun b hb heq => hspace (heq ▸ hb)
  intro k k' h
  rw [hsplit, hsplit] at h
  obtain ⟨htransport, -, hrest⟩ := split_at_separator (hname _) (hname _) (by decide) (by decide) h
  obtain ⟨hlocal, -, hremote⟩ := split_at_separator (space_notMem_endpoint _ _)
    (space_notMem_endpoint _ _) (by decide) (by decide) hrest
  obtain ⟨hlocalAddress, hlocalPort⟩ := endpoint_injective hlocal
  obtain ⟨hremoteAddress, hremotePort⟩ := endpoint_injective (List.append_cancel_left hremote)
  have hsame : k.transport = k'.transport := by
    revert htransport
    cases k.transport <;> cases k'.transport <;> decide
  cases k
  cases k'
  simp_all

end FlowClassifier.Flows
