import BuildFleet.Dispatcher
import BuildFleet.Proofs.Services.Calls

/-!
# Actions that only look

An action that looks and touches nothing leaves the store and the queue as they
are, even if one of its calls fails.
-/

namespace BuildFleet

/-- Calls that are answered from what the store holds. -/
def Call.Inspects : Call → Prop
  | .store (.get _) | .store (.expiredLeases _) | .store (.pendingEvents _) | .store (.workers _)
  | .store .summary => True
  | _ => False

namespace Action

variable {α β : Type} {action : Action α} {next : α → Action β}

def Inspects (action : Action α) : Prop :=
  ∀ actor services, (action actor services).2.store = services.store ∧
    (action actor services).2.queue = services.queue

namespace Inspects

theorem pure (value : α) : (Pure.pure value : Action α).Inspects := fun _ _ => ⟨rfl, rfl⟩

theorem bind (first : action.Inspects) (second : ∀ value, (next value).Inspects) :
    (action >>= next).Inspects := by
  intro actor services
  by_cases done : ∃ value, (action actor services).1 = .done value
  · rcases done with ⟨value, outcome⟩
    rw [bind_done outcome]
    have kept := first actor services
    have later := second value actor (action actor services).2
    exact ⟨later.1.trans kept.1, later.2.trans kept.2⟩
  · rw [bind_undone (not_exists.mp done)]
    exact first actor services

theorem attempt (inspects : action.Inspects) : action.attempt.Inspects := by
  intro actor services
  rw [attempt_services]
  exact inspects actor services

theorem perform {call : Call} (inspects : call.Inspects) : (Services.perform call).Inspects := by
  intro actor services
  rcases Services.perform_eq call actor services with ⟨plans, ⟨failure, failed⟩ | carried⟩
  · simp [failed, Services.record]
  · rw [carried]
    rcases call with store | _ | _ | _
    · cases store <;> first
        | exact ⟨rfl, rfl⟩
        | cases inspects
    all_goals cases inspects

end Inspects

end Action

namespace Dispatcher

theorem query_inspects (id : JobId) : (query id).Inspects := .perform trivial

theorem status_inspects (dispatcher : Dispatcher) : dispatcher.status.Inspects := by
  have sums : Services.summary.Inspects := .perform trivial
  have lists : (Services.workers dispatcher.offlineAfter).Inspects := .perform trivial
  exact .bind sums fun _ => .bind lists fun _ => .pure _

end Dispatcher

end BuildFleet
