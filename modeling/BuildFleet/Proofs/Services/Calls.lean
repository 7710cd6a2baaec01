import BuildFleet.Services.Basic

/-!
# Calls that do not fail

The journal counts the calls that failed. An action that adds no failure does to
the store and to the queue what its calls do to them alone, and this goes for
each part of the action.
-/

namespace BuildFleet

/-- A call that failed, as planned or by itself. -/
def Entry.failed (entry : Entry) : Bool :=
  match entry.happening with
  | .called _ (.failed _) => true
  | _ => false

/-- How many calls have failed. -/
def Services.failures (services : Services) : Nat := services.journal.countP Entry.failed

namespace Action

variable {α β : Type} {actor : Actor} {services : Services} {action : Action α}
  {next : α → Action β}

/-! ## Actions that no call fails in -/

/-- No failure is ever struck out of the journal. -/
def Grows (action : Action α) : Prop :=
  ∀ actor services, services.failures ≤ (action actor services).2.failures

/-- No call of the action fails. -/
def Unfailing (action : Action α) (actor : Actor) (services : Services) : Prop :=
  (action actor services).2.failures = services.failures

theorem bind_apply (action : Action α) (next : α → Action β) (actor : Actor)
    (services : Services) : (action >>= next) actor services =
      match action actor services with
      | (.done value, services) => next value actor services
      | (.failed failure, services) => (.failed failure, services)
      | (.outOfTime, services) => (.outOfTime, services) := rfl

theorem bind_done {value : α} (outcome : (action actor services).1 = .done value) :
    (action >>= next) actor services = next value actor (action actor services).2 := by
  rw [bind_apply]
  generalize action actor services = result at outcome ⊢
  rcases result with ⟨_, after⟩
  cases outcome
  rfl

theorem bind_undone (undone : ∀ value, (action actor services).1 ≠ .done value) :
    ((action >>= next) actor services).2 = (action actor services).2 := by
  rw [bind_apply]
  generalize action actor services = result at undone ⊢
  rcases result with ⟨value | failure | _, after⟩
  · exact absurd rfl (undone value)
  · rfl
  · rfl

theorem attempt_services : (action.attempt actor services).2 = (action actor services).2 := by
  unfold attempt
  split <;> simp_all

namespace Grows

theorem pure (value : α) : (pure value : Action α).Grows := fun _ _ => Nat.le_refl _

theorem fail (failure : Failure) : (fail failure : Action α).Grows := fun _ _ => Nat.le_refl _

theorem bind (grows : action.Grows) (nextGrows : ∀ value, (next value).Grows) :
    (action >>= next).Grows := by
  intro actor services
  by_cases done : ∃ value, (action actor services).1 = .done value
  · rcases done with ⟨value, outcome⟩
    rw [bind_done outcome]
    exact Nat.le_trans (grows actor services) (nextGrows value actor _)
  · rw [bind_undone (not_exists.mp done)]
    exact grows actor services

theorem attempt (grows : action.Grows) : action.attempt.Grows := by
  intro actor services
  rw [attempt_services]
  exact grows actor services

end Grows

/-- The parts of an action that no call fails in. -/
theorem Unfailing.parts (unfailing : (action >>= next).Unfailing actor services)
    (grows : action.Grows) (nextGrows : ∀ value, (next value).Grows) :
    action.Unfailing actor services ∧ ∀ value, (action actor services).1 = .done value →
      (next value).Unfailing actor (action actor services).2 := by
  have first := grows actor services
  unfold Unfailing at unfailing ⊢
  by_cases done : ∃ value, (action actor services).1 = .done value
  · rcases done with ⟨value, outcome⟩
    rw [bind_done outcome] at unfailing
    have second := nextGrows value actor (action actor services).2
    refine ⟨by omega, ?_⟩
    intro other sameOutcome
    rw [outcome] at sameOutcome
    cases sameOutcome
    omega
  · rw [bind_undone (not_exists.mp done)] at unfailing
    exact ⟨unfailing, fun value outcome => absurd ⟨value, outcome⟩ done⟩

theorem Unfailing.of_attempt (unfailing : action.attempt.Unfailing actor services) :
    action.Unfailing actor services := by
  unfold Unfailing at unfailing ⊢
  rw [attempt_services] at unfailing
  exact unfailing

/-! ## What an action comes to -/

/-- The action is done with a value and leaves this store and this queue; the
clock stands still. -/
structure Yields (action : Action α) (actor : Actor) (services : Services) (value : α)
    (store : Store) (queue : Queue) : Prop where
  outcome : (action actor services).1 = .done value
  settings : (action actor services).2.settings = services.settings
  now : (action actor services).2.now = services.now
  store : (action actor services).2.store = store
  queue : (action actor services).2.queue = queue

namespace Yields

variable {value : α} {result : β} {store laterStore : Store} {queue laterQueue : Queue}

theorem pure (value : α) (actor : Actor) (services : Services) :
    (pure value : Action α).Yields actor services value services.store services.queue :=
  ⟨rfl, rfl, rfl, rfl, rfl⟩

theorem bind (first : action.Yields actor services value store queue)
    (second : (next value).Yields actor (action actor services).2 result laterStore laterQueue) :
    (action >>= next).Yields actor services result laterStore laterQueue := by
  have whole : (action >>= next) actor services = next value actor (action actor services).2 :=
    bind_done first.outcome
  constructor
  · rw [whole, second.outcome]
  · rw [whole, second.settings, first.settings]
  · rw [whole, second.now, first.now]
  · rw [whole, second.store]
  · rw [whole, second.queue]

theorem attempt (yields : action.Yields actor services value store queue) :
    action.attempt.Yields actor services (.ok value) store queue := by
  constructor
  · unfold Action.attempt
    have outcome := yields.outcome
    generalize action actor services = result at outcome ⊢
    rcases result with ⟨_, after⟩
    cases outcome
    rfl
  · rw [attempt_services, yields.settings]
  · rw [attempt_services, yields.now]
  · rw [attempt_services, yields.store]
  · rw [attempt_services, yields.queue]

end Yields

end Action

namespace Services

variable {actor : Actor} {services : Services} {call : Call}

/-- A call fails as planned and does nothing else, or it is carried out. -/
theorem perform_eq (call : Call) (actor : Actor) (services : Services) : ∃ plans,
    (∃ failure, perform call actor services = (.failed failure,
        { services with plans }.record actor (.called call (.failed failure)))) ∨
      perform call actor services = (({ services with plans }.carryOut call).1,
        ({ services with plans }.carryOut call).2.record actor
          (.called call ({ services with plans }.carryOut call).1)) := by
  unfold perform
  cases FailurePlan.consult call.name services.plans with
  | mk failure plans =>
      refine ⟨plans, ?_⟩
      cases failure with
      | some failure => exact .inl ⟨failure, rfl⟩
      | none => exact .inr rfl

theorem journal_carryOut (services : Services) (call : Call) :
    (services.carryOut call).2.journal = services.journal := by
  cases call <;> rfl

/-- The journal tells of a call and of what came of it. -/
theorem journal_perform (call : Call) (actor : Actor) (services : Services) :
    (perform call actor services).2.journal =
      ⟨services.elapsed, actor, .called call (perform call actor services).1⟩ ::
        services.journal := by
  rcases perform_eq call actor services with ⟨plans, ⟨failure, failed⟩ | carried⟩
  · rw [failed]
    rfl
  · rw [carried]
    cases call <;> rfl

/-- What a call leaves of the store and the front-ends. -/
theorem perform_carried_or_failed (call : Call) (actor : Actor) (services : Services) : ∃ after,
    (perform call actor services = ((services.carryOut call).1, after) ∧
        after.store = (services.carryOut call).2.store ∧
        after.accepted = (services.carryOut call).2.accepted) ∨
      ∃ failure, perform call actor services = (.failed failure, after) ∧
        after.store = services.store ∧ after.accepted = services.accepted := by
  rcases perform_eq call actor services with ⟨plans, ⟨failure, failed⟩ | carried⟩
  · exact ⟨_, .inr ⟨failure, failed, rfl, rfl⟩⟩
  · refine ⟨_, .inl ⟨carried.trans (Prod.ext ?_ rfl), ?_, ?_⟩⟩ <;> cases call <;> rfl

theorem failures_record (services : Services) (actor : Actor) (happening : Happening) :
    (services.record actor happening).failures =
      services.failures + if Entry.failed ⟨services.elapsed, actor, happening⟩ then 1 else 0 :=
  List.countP_cons

theorem perform_grows (call : Call) : (perform call).Grows := by
  intro actor services
  rcases perform_eq call actor services with ⟨plans, ⟨failure, failed⟩ | carried⟩
  · rw [failed, failures_record]
    exact Nat.le_add_right _ _
  · have kept : ({ services with plans }.carryOut call).2.failures = services.failures :=
      congrArg (List.countP Entry.failed) (journal_carryOut _ call)
    rw [carried, failures_record, kept]
    exact Nat.le_add_right _ _

/-- A call that does not fail is carried out. -/
theorem perform_unfailing (unfailing : (perform call).Unfailing actor services) : ∃ plans,
    perform call actor services = (({ services with plans }.carryOut call).1,
      ({ services with plans }.carryOut call).2.record actor
        (.called call ({ services with plans }.carryOut call).1)) := by
  rcases perform_eq call actor services with ⟨plans, ⟨failure, failed⟩ | carried⟩
  · unfold Action.Unfailing at unfailing
    rw [failed, failures_record] at unfailing
    exact absurd unfailing (Nat.succ_ne_self _)
  · exact ⟨plans, carried⟩

/-- A call to the store. -/
theorem store_yields {call : StoreCall}
    (unfailing : (perform (.store call)).Unfailing actor services) {answer : call.Answer}
    {store : Store} (performed : services.store.perform services.settings services.now call =
      (.done answer, store)) :
    (perform (.store call)).Yields actor services answer store services.queue := by
  rcases perform_unfailing unfailing with ⟨plans, carried⟩
  rw [carryOut] at carried
  dsimp only at carried
  rw [performed] at carried
  constructor <;> rw [carried] <;> rfl

theorem publish_yields {target : Target} {id : JobId}
    (unfailing : (publish target id).Unfailing actor services) :
    (publish target id).Yields actor services () services.store
      (services.queue.publish target id).2 := by
  rcases perform_unfailing unfailing with ⟨plans, carried⟩
  constructor <;> rw [publish, carried] <;> rfl

end Services

end BuildFleet
