import FlowClassifier.Codec.Records

/-!
The readers that are made of fields and checks alone. Such a reader learns about its input
only by taking bytes off it, so what it takes off an input it takes off every longer input,
and it never fails as a file that is not there does. Every record decoder is one.
-/
namespace FlowClassifier.Codec

open Lib Foundation Buffers Policies

inductive Plain : {α : Type} → Reader α → Prop
  | ret {α : Type} (x : α) : Plain (pure x : Reader α)
  | raw (count : ℕ) : Plain (getRaw count)
  | refuse {α : Type} (e : Failure) (h : e.code ≠ .notFound) : Plain (throw e : Reader α)
  | seq {α β : Type} {r : Reader α} {f : α → Reader β} (hr : Plain r)
      (hf : ∀ x, Plain (f x)) : Plain (r >>= f)

/-- The reader never fails as a file that is not there does. -/
def Unmistakable {α : Type} (r : Reader α) : Prop :=
  FailsWith r fun e => e.code ≠ .notFound

section Steps

variable {α β : Type} {r : Reader α}

theorem Plain.isLocal (h : Plain r) : Local r := by
  induction h with
  | ret x => exact .pure x
  | raw count => exact local_getRaw count
  | refuse e _ => exact .fail e
  | seq _ _ hr hf => exact .bind hr hf

theorem unmistakable_throw {e : Failure} (h : e.code ≠ .notFound) :
    Unmistakable (throw e : Reader α) :=
  fun input e' he => by cases he; exact h

theorem unmistakable_getRaw (count : ℕ) : Unmistakable (getRaw count) := by
  intro input e he
  change (require count input.length >>= fun _ => _) = Except.error e at he
  unfold require at he
  split_ifs at he
  · cases he
    exact fun hcode => by cases hcode
  · cases he

theorem Plain.unmistakable (h : Plain r) : Unmistakable r := by
  induction h with
  | ret x => exact FailsWith.pure x
  | raw count => exact unmistakable_getRaw count
  | refuse e he => exact unmistakable_throw he
  | seq _ _ hr hf => exact FailsWith.bind hr hf

/-- A sequence; the rest of it comes first, so that its steps can be taken off one by one. -/
theorem plain_bind {f : α → Reader β} (hf : ∀ x, Plain (f x)) (hr : Plain r) : Plain (r >>= f) :=
  .seq hr hf

@[simp] theorem plain_pure (x : α) : Plain (pure x : Reader α) := .ret x

@[simp] theorem plain_map (f : α → β) (hr : Plain r) : Plain (f <$> r) := by
  rw [map_eq_pure_bind]
  exact .seq hr fun x => .ret (f x)

@[simp] theorem plain_many (hr : Plain r) (n : ℕ) : Plain (r.many n) := by
  induction n with
  | zero => exact .ret []
  | succ n ih => exact .seq hr fun x => .seq ih fun rest => .ret (x :: rest)

@[simp] theorem plain_failIf {bad : Prop} [Decidable bad] {code : ErrorCode} {message : Bytes}
    (h : code ≠ .notFound) : Plain (failIf bad code message) := by
  unfold failIf
  split_ifs
  · exact .refuse _ h
  · exact .ret ()

end Steps

@[simp] theorem plain_getU8 : Plain getU8 := plain_map _ (.raw 1)
@[simp] theorem plain_getU16 : Plain getU16 := plain_map _ (.raw 2)
@[simp] theorem plain_getU32 : Plain getU32 := plain_map _ (.raw 4)
@[simp] theorem plain_getU64 : Plain getU64 := plain_map _ (.raw 8)

@[simp] theorem plain_getBool : Plain getBool := by
  refine .seq plain_getU8 fun raw => ?_
  split_ifs
  · exact .refuse _ (fun hcode => by cases hcode)
  · exact .ret _

@[simp] theorem plain_getBlob (maxLength : ℕ) : Plain (getBlob maxLength) := by
  refine .seq plain_getU32 fun declared => ?_
  split_ifs
  · exact .refuse _ (fun hcode => by cases hcode)
  · exact .raw _

@[simp] theorem plain_getCount (maxCount : ℕ) : Plain (getCount maxCount) := by
  refine .seq plain_getU32 fun declared => ?_
  split_ifs
  · exact .refuse _ (fun hcode => by cases hcode)
  · exact .ret _

@[simp] theorem plain_skipVersion (expected : UInt8) (what : Bytes) :
    Plain (skipVersion expected what) :=
  .seq plain_getU8 fun _ => plain_failIf (by simp)

section Records

variable (limits : CodecLimits)

@[simp] theorem plain_decodeIdentity (kind : IdKind) (required : Bool)
    (refusal : Bytes → Bytes) : Plain (decodeIdentity limits kind required refusal) :=
  .seq (plain_getBlob _) fun _ => .seq (plain_failIf (by simp)) fun _ => .ret _

@[simp] theorem plain_decodeEvidencePair (refusal : Bytes) :
    Plain (decodeEvidencePair limits refusal) :=
  .seq (plain_getBlob _) fun _ => .seq (plain_getBlob _) fun _ =>
    .seq (plain_failIf (by simp)) fun _ => .ret _

@[simp] theorem plain_decodeLifecycle {α : Type} (declared active retired : α)
    (refusal : Bytes) : Plain (decodeLifecycle declared active retired refusal) :=
  .seq plain_getU8 fun _ => .seq (plain_failIf (by simp)) fun _ => .ret _

@[simp] theorem plain_decodeFixed (size : ℕ) (refusal : ℕ → Bytes) :
    Plain (decodeFixed size refusal) := by
  refine .seq (plain_getBlob size) fun raw => ?_
  split
  · exact .ret _
  · exact .refuse _ (fun hcode => by cases hcode)

@[simp] theorem plain_decodeId128 : Plain decodeId128 :=
  .seq plain_getU64 fun _ => .seq plain_getU64 fun _ => .ret _

@[simp] theorem plain_decodeConfidence : Plain decodeConfidence :=
  .seq plain_getU32 fun _ => .seq (plain_failIf (by simp)) fun _ => .ret _

-- fields that are one of the above under another name, or a code looked up after it is read
attribute [local simp] getString decodePublisherId decodeWorkloadId decodeContractId
  decodeSessionId decodeEvidenceField decodeSemantic decodeSource decodeTransport decodeState
  decodeClassificationState decodeDisposition decodeWorkloadState decodeContractState
  decodeAddress decodeDigest

@[simp] theorem plain_decodeFlowKey : Plain decodeFlowKey := by
  unfold decodeFlowKey
  repeat refine plain_bind (fun _ => ?_) ?_
  all_goals simp

@[simp] theorem plain_decodeEvidenceRecord : Plain (decodeEvidenceRecord limits) := by
  unfold decodeEvidenceRecord
  repeat refine plain_bind (fun _ => ?_) ?_
  all_goals simp

@[simp] theorem plain_decodeFlowRecord : Plain (decodeFlowRecord limits) := by
  unfold decodeFlowRecord
  repeat refine plain_bind (fun _ => ?_) ?_
  all_goals simp

@[simp] theorem plain_decodePublisherRecord : Plain (decodePublisherRecord limits) := by
  unfold decodePublisherRecord
  repeat refine plain_bind (fun _ => ?_) ?_
  all_goals simp

@[simp] theorem plain_decodeWorkloadRecord : Plain (decodeWorkloadRecord limits) := by
  unfold decodeWorkloadRecord
  repeat refine plain_bind (fun _ => ?_) ?_
  all_goals simp

@[simp] theorem plain_decodeContract : Plain (decodeContract limits) := by
  unfold decodeContract
  repeat refine plain_bind (fun _ => ?_) ?_
  all_goals simp

@[simp] theorem plain_decodeCitation : Plain (decodeCitation limits) := by
  unfold decodeCitation
  repeat refine plain_bind (fun _ => ?_) ?_
  all_goals simp

@[simp] theorem plain_decodeContradiction : Plain (decodeContradiction limits) := by
  unfold decodeContradiction
  repeat refine plain_bind (fun _ => ?_) ?_
  all_goals simp

@[simp] theorem plain_decodeClassification : Plain (decodeClassification limits) := by
  unfold decodeClassification
  repeat refine plain_bind (fun _ => ?_) ?_
  all_goals simp

@[simp] theorem plain_decodeRevocation : Plain (decodeRevocation limits) := by
  unfold decodeRevocation
  repeat refine plain_bind (fun _ => ?_) ?_
  all_goals simp

@[simp] theorem plain_decodeSupersession : Plain (decodeSupersession limits) := by
  unfold decodeSupersession
  repeat refine plain_bind (fun _ => ?_) ?_
  all_goals simp

@[simp] theorem plain_decodeAdapter : Plain (decodeAdapter limits) := by
  unfold decodeAdapter
  repeat refine plain_bind (fun _ => ?_) ?_
  all_goals simp

@[simp] theorem plain_decodeHint : Plain (decodeHint limits) := by
  unfold decodeHint
  repeat refine plain_bind (fun _ => ?_) ?_
  all_goals simp

@[simp] theorem plain_decodedPolicy (policy : ClassifierPolicy) : Plain (decodedPolicy policy) := by
  unfold decodedPolicy
  split
  · exact .ret _
  · exact .refuse _ (fun hcode => by cases hcode)

@[simp] theorem plain_decodePolicy : Plain (decodePolicy limits) := by
  unfold decodePolicy
  repeat refine plain_bind (fun _ => ?_) ?_
  all_goals simp

end Records
end FlowClassifier.Codec
