import FlowClassifier.Store.Decisions

/-!
Which parts of the classification index an operation leaves alone. Deciding and recording
touch the memo and the histories; the log of revocations and supersessions is only ever
extended at its end, within its bound, or cleared as a whole.
-/
namespace FlowClassifier.Store.ClassificationIndex

open Lib Foundation Classifications

structure SameLog (d d' : ClassificationIndex) : Prop where
  revocations : d'.revocations = d.revocations
  supersessions : d'.supersessions = d.supersessions
  maxRevocations : d'.maxRevocations = d.maxRevocations

theorem SameLog.refl (d : ClassificationIndex) : SameLog d d := ⟨rfl, rfl, rfl⟩

theorem SameLog.trans {a b c : ClassificationIndex} (h : SameLog a b) (h' : SameLog b c) :
    SameLog a c :=
  ⟨h'.revocations.trans h.revocations, h'.supersessions.trans h.supersessions,
    h'.maxRevocations.trans h.maxRevocations⟩

theorem SameLog.isRevoked {d d' : ClassificationIndex} (h : SameLog d d') (flow : FlowId)
    (generation : FlowGeneration) : d'.isRevoked flow generation = d.isRevoked flow generation := by
  rw [ClassificationIndex.isRevoked, h.revocations, ClassificationIndex.isRevoked]

theorem memoLookup_fst (d : ClassificationIndex) (key : DecisionKey) :
    (d.memoLookup key).1 = d.memo.lookup (decisionKeyText key) := by
  unfold memoLookup
  cases d.memo.lookup (decisionKeyText key) <;> rfl

theorem memoLookup_memo (d : ClassificationIndex) (key : DecisionKey) :
    (d.memoLookup key).2.memo = d.memo := by
  unfold memoLookup
  cases d.memo.lookup (decisionKeyText key) <;> rfl

theorem sameLog_memoLookup (d : ClassificationIndex) (key : DecisionKey) :
    SameLog d (d.memoLookup key).2 := by
  unfold memoLookup
  cases d.memo.lookup (decisionKeyText key) <;> exact ⟨rfl, rfl, rfl⟩

/-- Eviction keeps the log and only removes entries of the memo. -/
theorem evictMemo_spec (d : ClassificationIndex) (order : List Bytes) :
    SameLog d (d.evictMemo order) ∧
      ∀ t x, (d.evictMemo order).memo.lookup t = some x → d.memo.lookup t = some x := by
  induction order generalizing d with
  | nil => exact ⟨⟨rfl, rfl, rfl⟩, fun _ _ h => h⟩
  | cons oldest rest ih =>
    unfold evictMemo
    split_ifs
    · obtain ⟨hlog, hmemo⟩ := ih
        { d with
          memo := d.memo.erase oldest
          stats := { d.stats with memoEvictions := d.stats.memoEvictions + 1 } }
      refine ⟨⟨hlog.revocations, hlog.supersessions, hlog.maxRevocations⟩, ?_⟩
      intro t x hx
      have herased := hmemo t x hx
      rw [FiniteMap.lookup_erase_eq] at herased
      split_ifs at herased
      exact herased
    · exact ih d
    · exact ⟨⟨rfl, rfl, rfl⟩, fun _ _ h => h⟩

/-- An entry of the memo after a store is the stored one or an old one. -/
theorem memoStore_spec (d : ClassificationIndex) (key : DecisionKey) (c : Classification) :
    SameLog d (d.memoStore key c) ∧ ∀ t x, (d.memoStore key c).memo.lookup t = some x →
        t = decisionKeyText key ∧ x = c ∨ d.memo.lookup t = some x := by
  have hinsert : ∀ (m : FiniteMap Bytes Classification) t x,
      (m.insert (decisionKeyText key) c).lookup t = some x →
        t = decisionKeyText key ∧ x = c ∨ m.lookup t = some x := by
    intro m t x hx
    rw [FiniteMap.lookup_insert_eq] at hx
    split_ifs at hx with ht
    · cases hx
      exact Or.inl ⟨ht, rfl⟩
    · exact Or.inr hx
  have hevict := evictMemo_spec d d.memoOrder
  unfold memoStore
  dsimp only
  split_ifs
  · exact ⟨⟨rfl, rfl, rfl⟩, hinsert d.memo⟩
  · exact ⟨hevict.1, fun t x hx => Or.inr (hevict.2 t x hx)⟩
  · refine ⟨⟨hevict.1.revocations, hevict.1.supersessions, hevict.1.maxRevocations⟩, ?_⟩
    intro t x hx
    exact (hinsert _ t x hx).imp_right (hevict.2 t x)
  · exact ⟨⟨rfl, rfl, rfl⟩, hinsert d.memo⟩

theorem sameLog_record (d : ClassificationIndex) (c : Classification) :
    SameLog d (d.record c).2 := ⟨rfl, rfl, rfl⟩

theorem supersedeGeneration_spec (d : ClassificationIndex) (flow : FlowId)
    (supersededBy : FlowGeneration) : SameLog d (d.supersedeGeneration flow supersededBy).2 ∧
      (d.supersedeGeneration flow supersededBy).2.memo = d.memo := by
  unfold supersedeGeneration
  cases d.history.lookup flow <;> exact ⟨⟨rfl, rfl, rfl⟩, rfl⟩

end FlowClassifier.Store.ClassificationIndex
