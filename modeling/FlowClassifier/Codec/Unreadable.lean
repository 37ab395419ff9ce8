import FlowClassifier.Codec.Plain
import FlowClassifier.Codec.Snapshot

/-!
How a snapshot is refused. A start passes over a state file that is not there, and it knows
such a file by its error code alone. No decoder answers with that code, whatever the bytes,
so a file that is there is either read or refused.
-/
namespace FlowClassifier.Codec

open Foundation Buffers

section Collections

variable {α : Type} {r : Reader α}

theorem unmistakable_relabel (hr : Plain r) (label : Bytes → Bytes) :
    Unmistakable (relabel r label) := by
  intro input e he
  change relabel r label input = _ at he
  unfold relabel at he
  split at he
  next e' he' =>
    cases he
    exact hr.unmistakable input e' he'
  next => cases he

theorem unmistakable_remaining : Unmistakable remaining :=
  fun input e he => by cases he

theorem unmistakable_decodeEach {name : Bytes} (hr : Plain r) (i n : ℕ) :
    Unmistakable (decodeEach name r i n) := by
  induction n generalizing i with
  | zero => exact .pure []
  | succ n ih =>
    exact (unmistakable_relabel hr _).bind fun record => (ih (i + 1)).bind fun rest => .pure _

theorem unmistakable_decodeRecords {limits : SnapshotLimits} {plural name : Bytes}
    (hr : Plain r) : Unmistakable (decodeRecords limits plural name r) :=
  (unmistakable_relabel (plain_getCount _) _).bind fun count =>
    unmistakable_remaining.bind fun _ => (plain_failIf (by simp)).unmistakable.bind fun _ =>
      unmistakable_decodeEach hr 0 count

end Collections

theorem unmistakable_decodeBody (limits : SnapshotLimits) (header : DurableState) :
    Unmistakable (decodeBody limits header) :=
  plain_getU8.unmistakable.bind fun _ =>
    (plain_failIf (by simp)).unmistakable.bind fun _ =>
    (unmistakable_relabel (plain_decodePolicy _) _).bind fun _ =>
    (unmistakable_decodeRecords (plain_decodePublisherRecord _)).bind fun _ =>
    (unmistakable_decodeRecords (plain_decodeWorkloadRecord _)).bind fun _ =>
    (unmistakable_decodeRecords (plain_decodeContract _)).bind fun _ =>
    (unmistakable_decodeRecords (plain_decodeFlowRecord _)).bind fun _ =>
    (unmistakable_decodeRecords (plain_decodeEvidenceRecord _)).bind fun _ =>
    (unmistakable_decodeRecords (plain_decodeClassification _)).bind fun _ =>
    (unmistakable_decodeRecords (plain_decodeRevocation _)).bind fun _ =>
    (unmistakable_decodeRecords (plain_decodeSupersession _)).bind fun _ => .pure _

theorem code_of_decodeAll {α : Type} {r : Reader α} (hr : Unmistakable r) {input : Bytes}
    {e : Failure} (h : decodeAll r input = .error e) : e.code ≠ .notFound := by
  unfold decodeAll at h
  cases hread : r.run input with
  | error e' =>
    rw [hread] at h
    cases h
    exact hr input _ hread
  | ok out =>
    rw [hread] at h
    change (finish out.2 >>= fun _ => _) = Except.error e at h
    unfold finish at h
    split_ifs at h
    · cases h
    · cases h
      exact fun hcode => by cases hcode

/-- A snapshot that is there is never refused as one that is not. -/
theorem code_of_decodeSnapshot {limits : SnapshotLimits} {data : Bytes} {e : Failure}
    (h : decodeSnapshot limits data = .error e) : e.code ≠ .notFound := by
  unfold decodeSnapshot at h
  cases hheader : checkHeader limits data with
  | error e' =>
    rw [hheader] at h
    cases h
    unfold checkHeader at hheader
    dsimp only at hheader
    split_ifs at hheader <;> cases hheader <;> exact fun hcode => by cases hcode
  | ok body =>
    rw [hheader] at h
    change (decodeAll _ body).bind _ = _ at h
    cases hbody : decodeAll (decodeBody limits _) body with
    | ok state =>
      rw [hbody] at h
      cases h
    | error e' =>
      rw [hbody] at h
      cases h
      exact code_of_decodeAll (unmistakable_decodeBody limits _) hbody

end FlowClassifier.Codec
