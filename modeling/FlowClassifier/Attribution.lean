import FlowClassifier.Refusals
import FlowClassifier.Transitions

/-!
What holds over all operations, restoring included. Restoring acts on the registry and on
the evidence one record at a time and brings no CURRENT record, so a record is CURRENT
because it was or because it was just submitted.
-/
namespace FlowClassifier.Classifier

open Lib Foundation Evidence Store PublisherRegistry

theorem wellKeyed_step {c : Classifier} (h : c.publishers.WellKeyed) (op : Operation) :
    (c.step op).publishers.WellKeyed := by
  by_cases hop : ∃ image boot tick, op = .restore image boot tick
  · obtain ⟨image, boot, tick, rfl⟩ := hop
    exact publishers_restore boot h (fun r record hr => wellKeyed_restoreRecord hr record tick)
      (fun r stats hr => ⟨hr.registration_id, hr.record_id, hr.agree⟩)
      fun r hr => (advances_clearSessions r hr).1
  · refine (advances_step c ?_ h).1
    intro image boot tick heq
    exact hop ⟨image, boot, tick, heq⟩

section Steps

variable {c : Classifier}

/-- A record is CURRENT because it was, or because it was just submitted. -/
theorem current_record_step (hindexed : c.evidence.Indexed c.evidence.order) (op : Operation)
    {id : EvidenceId} {r : EvidenceRecord} (hr : (c.step op).evidence.byId.lookup id = some r)
    (hcurrent : r.state = .current) : c.evidence.byId.lookup id = some r ∨ Arrived c op r := by
  by_cases hop : ∃ image boot tick, op = .restore image boot tick
  · obtain ⟨image, boot, tick, rfl⟩ := hop
    left
    refine evidence_restore (Q := fun s => ∀ id r, s.byId.lookup id = some r →
      r.state = .current → c.evidence.byId.lookup id = some r) boot tick (fun id r hr _ => hr) ?_
      id r hr hcurrent
    intro s record _ hs id r hr hcurrent
    rcases EvidenceStore.restoreRecord_cases s record with ⟨e, -, hsame⟩ | ⟨-, -, hbyId, -⟩
    · rw [hsame] at hr
      exact hs id r hr hcurrent
    · rw [hbyId, FiniteMap.lookup_insert_eq] at hr
      split_ifs at hr
      · cases hr
        exact absurd hcurrent (EvidenceStore.reloaded_ne_current record)
      · exact hs id r hr hcurrent
  · rcases stored_step hindexed (fun image boot tick heq => hop ⟨image, boot, tick, heq⟩) hr with
      ⟨q, hq, hweak⟩ | harrived
    · left
      rw [hweak.eq_of_current hcurrent]
      exact hq
    · exact .inr harrived

end Steps

end FlowClassifier.Classifier
