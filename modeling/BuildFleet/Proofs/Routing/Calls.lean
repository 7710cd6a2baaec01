import BuildFleet.Proofs.Fleet.Calls
import BuildFleet.Proofs.Queue.Deliveries
import BuildFleet.Proofs.Routing.Turns
import BuildFleet.Proofs.Store.Routes

/-!
# Calls that keep to the routes

The store does not look at the target when it grants a claim. That a job reaches
workers of its own target alone rests on where identifiers are published: the
dispatcher and the monitor publish each of them where it belongs, and nobody
else publishes.
-/

namespace BuildFleet

/-- The job that a claim was granted. -/
def Happening.granted? : Happening → Option Job
  | .called (.store (.claim _ _ _)) (.done job) => some job
  | _ => none

theorem Happening.granted?_eq_some {happening : Happening} {job : Job} :
    happening.granted? = some job ↔
      ∃ id worker lease, happening = .called (.store (.claim id worker lease)) (.done job) := by
  constructor
  · intro granted
    unfold granted? at granted
    split at granted
    · rename_i id worker lease answer
      cases granted
      exact ⟨id, worker, lease, rfl⟩
    · cases granted
  · rintro ⟨id, worker, lease, rfl⟩
    rfl

/-- The identifier that a call claims. -/
def Call.claimed? : Call → Option JobId
  | .store (.claim id _ _) => some id
  | _ => none

theorem Queue.pending_perform_subset (queue : Queue) (place : Target) (call : QueueCall)
    (takes : ∀ id, call ≠ .publish id) (target : Target) :
    (queue.perform place call).2.pending target ⊆ queue.pending target := by
  unfold pending
  rw [ofTarget_perform]
  split
  · rename_i here
    subst here
    have popped : (queue.ofTarget target).pop.2.pending ⊆ (queue.ofTarget target).pending := by
      rcases (queue.ofTarget target).pop_cases with ⟨_, same⟩ | ⟨id, rest, waiting, taken⟩
      · rw [same]
        exact List.Subset.refl _
      · rw [taken, waiting]
        exact List.subset_cons_self _ _
    cases call with
    | publish id => exact absurd rfl (takes id)
    | pop => exact popped
    | poll subscription =>
        show ((queue.ofTarget target).poll subscription).2.pending ⊆ _
        rcases (queue.ofTarget target).poll_pending subscription with
          ⟨_, pending, _⟩ | ⟨_, pending, _⟩
        · rw [pending]
          exact List.Subset.refl _
        · rw [pending]
          exact popped
    | drop subscription =>
        show ((queue.ofTarget target).drop subscription).2.pending ⊆ _
        rw [((queue.ofTarget target).pending_drop subscription).1]
        exact List.Subset.refl _
  · exact List.Subset.refl _

namespace Services

variable {actor : Actor} {before middle after services : Services} {ids others : JobId → Prop}

/-- Identifiers tell jobs apart, and what waits at a target was made for it. -/
structure Routed (services : Services) : Prop where
  distinct : (services.store.jobs.map (·.id)).Nodup
  waits : ∀ target, ∀ id ∈ services.queue.pending target, services.store.Routes id target

/-- What an actor does that claims no other jobs than these and keeps to the routes. -/
structure Carries (actor : Actor) (ids : JobId → Prop) (before after : Services) : Prop where
  routes : ∀ id target, before.store.Routes id target → after.store.Routes id target
  routed : before.Routed → after.Routed
  journal : ∀ entry ∈ after.journal, entry ∈ before.journal ∨ entry.actor = actor ∧
    ∀ job, entry.happening.granted? = some job → ids job.id ∧ after.store.Routes job.id job.target

theorem Carries.refl (services : Services) : Carries actor ids services services :=
  ⟨fun _ _ => id, id, fun _ => .inl⟩

theorem Carries.trans (first : Carries actor ids before middle)
    (second : Carries actor ids middle after) : Carries actor ids before after where
  routes id target routes := second.routes id target (first.routes id target routes)
  routed routed := second.routed (first.routed routed)
  journal entry member := by
    rcases second.journal entry member with earlier | new
    · refine (first.journal entry earlier).imp_right fun ⟨sameActor, granted⟩ => ⟨sameActor, ?_⟩
      intro job claimed
      rcases granted job claimed with ⟨ours, routes⟩
      exact ⟨ours, second.routes _ _ routes⟩
    · exact .inr new

theorem Carries.mono (carries : Carries actor ids before after)
    (wider : ∀ id, ids id → others id) : Carries actor others before after where
  routes := carries.routes
  routed := carries.routed
  journal entry member := (carries.journal entry member).imp_right fun ⟨sameActor, granted⟩ =>
    ⟨sameActor, fun job claimed => (granted job claimed).imp_left (wider job.id)⟩

/-- Only the plans, the clock or the count of jobs change. -/
theorem Carries.of_eq (store : after.store = before.store) (queue : after.queue = before.queue)
    (journal : after.journal = before.journal) : Carries actor ids before after where
  routes _ _ routes := store ▸ routes
  routed routed := ⟨store ▸ routed.distinct, store ▸ queue ▸ routed.waits⟩
  journal _ member := .inl (journal ▸ member)

/-- Identifiers are taken from a queue. -/
theorem Carries.of_taken (store : after.store = before.store)
    (taken : ∀ target, after.queue.pending target ⊆ before.queue.pending target)
    (journal : after.journal = before.journal) : Carries actor ids before after where
  routes _ _ routes := store ▸ routes
  routed routed := ⟨store ▸ routed.distinct, fun target id member =>
    store ▸ routed.waits target id (taken target member)⟩
  journal _ member := .inl (journal ▸ member)

theorem Carries.record {happening : Happening} (carries : Carries actor ids before after)
    (granted : ∀ job, happening.granted? = some job →
      ids job.id ∧ after.store.Routes job.id job.target) :
    Carries actor ids before (after.record actor happening) where
  routes := carries.routes
  routed := fun routed => ⟨(carries.routed routed).distinct, (carries.routed routed).waits⟩
  journal entry member := by
    rcases List.mem_cons.mp member with rfl | earlier
    · exact .inr ⟨rfl, granted⟩
    · exact carries.journal entry earlier

/-! ## One call -/

/-- A call publishes where the job belongs, and makes no second job of one identifier. -/
def Proper (services : Services) : Call → Prop
  | .publish target id => services.store.Routes id target
  | .store call => Operation.Fresh services.settings ⟨services.store, services.now, call⟩
  | _ => True

theorem proper_store {call : StoreCall}
    (makesNone : ∀ id target payload, call ≠ .create id target payload) :
    services.Proper (.store call) := by
  intro job created
  rcases StoreCall.created?_eq_some created with ⟨id, target, payload, same, _⟩
  exact absurd same (makesNone id target payload)

private theorem granted?_failed (call : Call) (failure : Failure) :
    (Happening.called call (.failed failure)).granted? = none := by
  rcases call with store | _ | _ | _
  · cases store <;> rfl
  · rfl
  · rfl
  · rfl

theorem carries_store {call : StoreCall}
    (fresh : Operation.Fresh services.settings ⟨services.store, services.now, call⟩) :
    Carries actor ids services { services with
      store := (services.store.perform services.settings services.now call).2 } where
  routes _ _ routes := routes.perform _ _ _
  routed routed := ⟨Operation.distinct_after fresh routed.distinct, fun target id member =>
    (routed.waits target id member).perform _ _ _⟩
  journal _ := .inl

theorem carries_publish {target : Target} {id : JobId} (routes : services.store.Routes id target) :
    Carries actor ids services { services with
      queue := (services.queue.publish target id).2
      awakened := services.awakened ++ (services.queue.publish target id).1.toList } where
  routes _ _ := fun routes => routes
  routed routed := ⟨routed.distinct, by
    intro other waiting member
    rw [show (services.queue.publish target id).2.pending other = _ from
      Queue.pending_publish _ _ _ _] at member
    split at member
    · rename_i here
      by_cases repeated : id ∈ (services.queue.ofTarget target).queued
      · rw [TargetQueue.publish_repeated repeated] at member
        exact routed.waits other waiting (here ▸ member)
      · rw [(TargetQueue.publish_new repeated).1, List.mem_append, List.mem_singleton] at member
        rcases member with before | rfl
        · exact routed.waits other waiting (here ▸ before)
        · exact here ▸ routes
    · exact routed.waits other waiting member⟩
  journal _ := .inl

theorem carries_carryOut {call : Call} (proper : services.Proper call) :
    Carries actor ids services (services.carryOut call).2 := by
  cases call with
  | store call => exact carries_store proper
  | publish target id => exact carries_publish proper
  | subscribe target => exact .of_taken rfl (fun _ => List.Subset.refl _) rfl
  | notify frontEnd event => exact .of_eq rfl rfl rfl

theorem perform_carries {call : Call} (proper : services.Proper call) :
    Carries actor (fun id => call.claimed? = some id) services (perform call actor services).2 := by
  rcases perform_eq call actor services with ⟨plans, outcome⟩
  have planned : Carries actor (fun id => call.claimed? = some id) services
      { services with plans } := .of_eq rfl rfl rfl
  rcases outcome with ⟨failure, failed⟩ | carried
  · rw [failed]
    refine planned.record fun job granted => ?_
    rw [granted?_failed] at granted
    cases granted
  · rw [carried]
    have still : Proper { services with plans } call := by cases call <;> exact proper
    refine (planned.trans (carries_carryOut still)).record fun job granted => ?_
    rcases Happening.granted?_eq_some.mp granted with ⟨id, worker, lease, claimed⟩
    injection claimed with sameCall answered
    subst sameCall
    rcases Store.routes_of_claim (eq_of_heq answered) with ⟨same, routes⟩
    exact ⟨by rw [same]; rfl, same ▸ routes⟩

theorem perform_carries_unclaimed (actor : Actor) (services : Services) (call : Call)
    (proper : services.Proper call) (unclaimed : call.claimed? = none) :
    Carries actor (fun _ => False) services (perform call actor services).2 :=
  (perform_carries proper).mono fun id claimed =>
    (Option.some_ne_none id (claimed.symm.trans unclaimed)).elim

/-- What is done without publishing anything or making a job. -/
def Quiet (ids : JobId → Prop) (call : Call) : Prop :=
  (∀ target id, call ≠ .publish target id) ∧
    (∀ id target payload, call ≠ .store (.create id target payload)) ∧
    ∀ id, call.claimed? = some id → ids id

theorem Quiet.proper {call : Call} (quiet : Quiet ids call) : services.Proper call := by
  cases call with
  | publish target id => exact absurd rfl (quiet.1 target id)
  | store call =>
      exact proper_store fun id target payload equal =>
        quiet.2.1 id target payload (congrArg Call.store equal)
  | subscribe => trivial
  | notify => trivial

theorem Deed.carries {May : Call → Prop} (deed : Deed May actor before after)
    (quiet : ∀ call, May call → Quiet ids call) : Carries actor ids before after := by
  cases deed with
  | call may => exact (perform_carries (quiet _ may).proper).mono (quiet _ may).2.2
  | note silent =>
      have same : Carries actor ids before before := .refl before
      refine same.record fun job granted => ?_
      unfold Happening.granted? at granted
      split at granted
      · cases silent
      · cases granted
  | plan =>
      unfold plannedDelivery
      split
      · exact .of_eq rfl rfl rfl
      · split <;> exact .of_eq rfl rfl rfl
  | poll target subscription =>
      exact .of_taken rfl
        (before.queue.pending_perform_subset target (.poll subscription) nofun) rfl
  | unsubscribe target subscription =>
      exact .of_taken rfl
        (before.queue.pending_perform_subset target (.drop subscription) nofun) rfl
  | count => exact .of_eq rfl rfl rfl

end Services

theorem Action.Within.carries {α : Type} {May : Call → Prop} {ids : JobId → Prop}
    {action : Action α} (within : action.Within May)
    (quiet : ∀ call, May call → Services.Quiet ids call) (actor : Actor) (services : Services) :
    Services.Carries actor ids services (action actor services).2 :=
  within.keeps (fun _ _ deed carries => carries.trans (deed.carries quiet)) (.refl services)

end BuildFleet
