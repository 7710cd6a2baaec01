import BuildFleet.Proofs.Services.Deeds
import BuildFleet.Proofs.Store.Tenure

/-!
# Within one moment

Calls take no time, and nobody but a plan makes them fail. What others do within
one moment leaves a safe job as it is or cancels it, and the journal tells of
nobody who has taken it.
-/

namespace BuildFleet

/-- Whether the job with this identifier is claimed, or taken from its owner. -/
def Happening.takes (id : JobId) : Happening → Bool
  | .called (.store call) outcome => call.takes id outcome
  | _ => false

theorem Happening.takes_failed (id : JobId) (call : Call) (failure : Failure) :
    (Happening.called call (.failed failure)).takes id = false := by
  rcases call with store | _ | _ | _
  · cases store <;> rfl
  · rfl
  · rfl
  · rfl

theorem Happening.takes_silent {id : JobId} {happening : Happening}
    (silent : happening.isCall = false) : happening.takes id = false := by
  cases happening with
  | called call outcome => cases silent
  | _ => rfl

/-- What is asked of the services, but not of this job in this worker's name. -/
def Call.Foreign (id : JobId) (worker : WorkerId) : Call → Prop
  | .store call => call.Foreign id worker
  | _ => True

namespace Services

variable {actor : Actor} {before middle after services : Services} {May : Call → Prop}
  {id : JobId} {job : Job} {worker : WorkerId}

/-! ## The clock and the plans -/

/-- The clock stands still, and no failure gets planned. -/
structure SameMoment (before after : Services) : Prop where
  now : after.now = before.now
  elapsed : after.elapsed = before.elapsed
  plans : before.plans = [] → after.plans = []

theorem SameMoment.refl (services : Services) : SameMoment services services := ⟨rfl, rfl, id⟩

theorem SameMoment.trans (first : SameMoment before middle) (second : SameMoment middle after) :
    SameMoment before after :=
  ⟨second.now.trans first.now, second.elapsed.trans first.elapsed, second.plans ∘ first.plans⟩

theorem consult_nil (name : String) : FailurePlan.consult name [] = (none, []) := rfl

theorem perform_sameMoment (call : Call) (actor : Actor) (services : Services) :
    SameMoment services (perform call actor services).2 := by
  have unplanned : services.plans = [] → (perform call actor services).2.plans = [] := by
    intro nothing
    unfold perform
    rw [nothing, consult_nil]
    cases call <;> rfl
  rcases perform_eq call actor services with ⟨plans, ⟨failure, failed⟩ | carried⟩
  · refine ⟨?_, ?_, unplanned⟩ <;> rw [failed] <;> rfl
  · refine ⟨?_, ?_, unplanned⟩ <;> rw [carried] <;> cases call <;> rfl

theorem Deed.sameMoment (deed : Deed May actor before after) : SameMoment before after := by
  cases deed with
  | call may => exact perform_sameMoment _ _ _
  | note silent => exact ⟨rfl, rfl, id⟩
  | plan =>
      have unplanned : before.plans = [] → before.plannedDelivery.2.plans = [] := by
        intro nothing
        unfold plannedDelivery
        rw [nothing, consult_nil]
        rfl
      refine ⟨?_, ?_, unplanned⟩
      all_goals
        unfold plannedDelivery
        split
        · rfl
        · split <;> rfl
  | poll => exact ⟨rfl, rfl, id⟩
  | unsubscribe => exact ⟨rfl, rfl, id⟩
  | count => exact ⟨rfl, rfl, id⟩

/-! ## The journal -/

/-- Since then nobody has taken the job with this identifier. -/
def Untaken (id : JobId) (before after : Services) : Prop :=
  ∃ since, after.journal = since ++ before.journal ∧
    ∀ entry ∈ since, entry.happening.takes id = false

theorem Untaken.of_eq (same : after.journal = before.journal) : Untaken id before after :=
  ⟨[], same, fun _ member => nomatch member⟩

theorem Untaken.refl (services : Services) : Untaken id services services := .of_eq rfl

theorem Untaken.trans (first : Untaken id before middle) (second : Untaken id middle after) :
    Untaken id before after := by
  rcases first with ⟨earlier, journal, untaken⟩
  rcases second with ⟨later, journalAfter, untakenAfter⟩
  refine ⟨later ++ earlier, by rw [journalAfter, journal, List.append_assoc], ?_⟩
  intro entry member
  exact (List.mem_append.mp member).elim (untakenAfter entry) (untaken entry)

theorem Untaken.record (untaken : Untaken id before after) (happening : Happening)
    (harmless : happening.takes id = false) :
    Untaken id before (after.record actor happening) := by
  rcases untaken with ⟨since, journal, all⟩
  refine ⟨⟨after.elapsed, actor, happening⟩ :: since, by rw [Services.record, journal]; rfl, ?_⟩
  intro entry member
  rcases List.mem_cons.mp member with rfl | earlier
  · exact harmless
  · exact all entry earlier

/-! ## Calls that nobody makes fail -/

/-- A call for which no failure is left to come leaves the plans as they are. -/
theorem consult_unplanned {name : String} {plans : List FailurePlan}
    (unplanned : ∀ plan ∈ plans, plan.call = name → plan.times = 0) :
    FailurePlan.consult name plans = (none, plans) := by
  induction plans with
  | nil => rfl
  | cons head tail induction =>
      have usedUp : ¬ (head.call = name ∧ head.times > 0) := by
        rintro ⟨named, left⟩
        exact Nat.ne_of_gt left (unplanned head List.mem_cons_self named)
      rw [FailurePlan.consult, if_neg usedUp,
        induction fun plan member => unplanned plan (List.mem_cons_of_mem _ member)]

theorem unforeseen_of_unplanned (nothing : services.plans = []) (name : String) :
    ∀ plan ∈ services.plans, plan.call ≠ name := by
  simp [nothing]

theorem perform_unplanned (call : Call) (actor : Actor)
    (unplanned : ∀ plan ∈ services.plans, plan.call = call.name → plan.times = 0) :
    perform call actor services = ((services.carryOut call).1,
      (services.carryOut call).2.record actor (.called call (services.carryOut call).1)) := by
  unfold perform
  rw [consult_unplanned unplanned]

theorem perform_unforeseen (call : Call) (actor : Actor)
    (unforeseen : ∀ plan ∈ services.plans, plan.call ≠ call.name) :
    perform call actor services = ((services.carryOut call).1,
      (services.carryOut call).2.record actor (.called call (services.carryOut call).1)) :=
  perform_unplanned call actor fun plan member named => absurd named (unforeseen plan member)

/-- What comes of a call on a job. -/
theorem perform_on_job (call : JobCall) (actor : Actor)
    (unforeseen : ∀ plan ∈ services.plans, plan.call ≠ (Call.store (call.on id)).name)
    (found : services.store.job? id = some job) : ∃ after,
      perform (.store (call.on id)) actor services =
        (call.report id (job.perform services.settings.maxAttempts services.now call).1, after) ∧
      after.store.job? id =
        some (job.perform services.settings.maxAttempts services.now call).2 ∧
      (call.takes (job.perform services.settings.maxAttempts services.now call).1 = false →
        Untaken id services after) := by
  have answered : (services.store.perform services.settings services.now (call.on id)).1 = _ :=
    Store.perform_on found call
  have seen : (⟨services.store, services.now, call.on id⟩ : Operation).onJob? id =
      some ⟨job, services.now, call⟩ := by
    simp [Operation.onJob?, found]
  have left : ((⟨services.store, services.now, call.on id⟩ : Operation).after
      services.settings).job? id = _ := Operation.job?_after_seen seen
  refine ⟨_, (perform_unforeseen (.store (call.on id)) actor unforeseen).trans
    (Prod.ext answered rfl), left, fun harmless => ?_⟩
  refine Untaken.record (.of_eq rfl) _ ?_
  show (call.on id).takes id _ = false
  rw [show (services.carryOut (.store (call.on id))).1 = _ from answered, JobCall.takes_report]
  exact harmless

/-- What comes of a heartbeat. -/
inductive Beats (worker : WorkerId) (id : JobId) (services : Services) (job : Job)
    (after : Services) : Except Failure Instant → Prop
  | extended {expiry : Instant} (owned : job.owner = some worker)
      (live : job.leaseLive services.now = true)
      (ends : services.now.addMilliseconds? job.leaseMs = some expiry)
      (found : after.store.job? id = some (job.renewedUntil expiry services.now)) :
      Beats worker id services job after (.ok expiry)
  | rejected {message : String} (unheld : job.owner = some worker →
        job.leaseLive services.now = false) (found : after.store.job? id = some job) :
      Beats worker id services job after (.error (.rejected message))

/-- A heartbeat that nobody makes fail extends the lease or is rejected, and takes no job. -/
theorem heartbeat_beats {answer : Except Failure Instant}
    (unforeseen : ∀ plan ∈ services.plans, plan.call ≠ "heartbeat")
    (found : services.store.job? id = some job)
    (asks : (heartbeat id worker).attempt actor services = (.done answer, after)) :
    Beats worker id services job after answer ∧ Untaken id services after := by
  rcases perform_on_job (.heartbeat worker) actor unforeseen found with
    ⟨left, performed, foundAfter, untaken⟩
  rw [Job.perform] at performed foundAfter untaken
  rcases job.heartbeat_cases worker services.now with
    ⟨expiry, owned, live, ends, renews⟩ | ⟨message, unheld, rejects⟩ | beyond
  · rw [renews] at performed foundAfter untaken
    rcases Action.attempt_eq_done asks with ⟨other, rfl, answered⟩ | ⟨failure, rfl, answered⟩
    · cases performed.symm.trans answered
      exact ⟨.extended owned live ends foundAfter, untaken rfl⟩
    · cases performed.symm.trans answered
  · rw [rejects] at performed foundAfter untaken
    rcases Action.attempt_eq_done asks with ⟨other, rfl, answered⟩ | ⟨failure, rfl, answered⟩
    · cases performed.symm.trans answered
    · cases performed.symm.trans answered
      exact ⟨.rejected unheld foundAfter, untaken rfl⟩
  · rw [beyond] at performed
    rcases Action.attempt_eq_done asks with ⟨other, rfl, answered⟩ | ⟨failure, rfl, answered⟩
    · cases performed.symm.trans answered
    · cases performed.symm.trans answered

/-! ## What others do -/

/-- The job is spared since then, and nobody has taken it. -/
structure Spares (id : JobId) (job : Job) (before after : Services) : Prop where
  moment : SameMoment before after
  spared : ∃ later, after.store.job? id = some later ∧ job.Spared before.now later
  untaken : Untaken id before after

theorem Spares.refl (found : services.store.job? id = some job) : Spares id job services services :=
  ⟨.refl services, ⟨job, found, .same⟩, .refl services⟩

theorem Spares.of_store_eq (spares : Spares id job before middle)
    (moment : SameMoment middle after) (store : after.store = middle.store)
    (untaken : Untaken id middle after) : Spares id job before after :=
  ⟨spares.moment.trans moment, store ▸ spares.spared, spares.untaken.trans untaken⟩

/-- Whom the queue has awakened matters to no job. -/
theorem Spares.asleep (spares : Spares id job before after) :
    Spares id job before { after with awakened := [] } :=
  spares.of_store_eq ⟨rfl, rfl, fun nothing => nothing⟩ rfl (.of_eq rfl)

private theorem Spares.call {call : Call} (spares : Spares id job before middle)
    (safe : job.Safe worker before.now)
    (foreign : job.status.isTerminal = false → call.Foreign id worker) :
    Spares id job before (perform call actor middle).2 := by
  have moment := spares.moment.trans (perform_sameMoment call actor middle)
  rcases spares with ⟨reading, ⟨later, found, spared⟩, untaken⟩
  have both : (∃ later, (perform call actor middle).2.store.job? id = some later ∧
      job.Spared before.now later) ∧ Untaken id before (perform call actor middle).2 := by
    rcases perform_eq call actor middle with ⟨plans, ⟨failure, failed⟩ | carried⟩
    · rw [failed]
      exact ⟨⟨later, found, spared⟩, Untaken.record untaken _ (Happening.takes_failed _ _ _)⟩
    · rw [carried]
      cases call with
      | store call =>
          have still : later.Safe worker middle.now := reading.now ▸ spared.safe safe
          rcases Store.perform_spares found still (foreign ∘ spared.unfinished) middle.settings with
            ⟨latest, foundAfter, sparedAfter, harmless⟩
          exact ⟨⟨latest, foundAfter, spared.trans (reading.now ▸ sparedAfter)⟩,
            Untaken.record untaken (.called (.store call) _) harmless⟩
      | publish target id => exact ⟨⟨later, found, spared⟩, Untaken.record untaken _ rfl⟩
      | subscribe target => exact ⟨⟨later, found, spared⟩, Untaken.record untaken _ rfl⟩
      | notify frontEnd event => exact ⟨⟨later, found, spared⟩, Untaken.record untaken _ rfl⟩
  exact ⟨moment, both.1, both.2⟩

theorem Deed.spares (deed : Deed May actor middle after)
    (foreign : job.status.isTerminal = false → ∀ call, May call → call.Foreign id worker)
    (safe : job.Safe worker before.now)
    (spares : Spares id job before middle) : Spares id job before after := by
  have moment := deed.sameMoment
  cases deed with
  | call may => exact spares.call safe fun unfinished => foreign unfinished _ may
  | note silent =>
      exact spares.of_store_eq moment rfl ((Untaken.refl middle).record _
        (Happening.takes_silent silent))
  | plan =>
      have untouched : middle.plannedDelivery.2.store = middle.store ∧
          middle.plannedDelivery.2.journal = middle.journal := by
        unfold plannedDelivery
        split
        · exact ⟨rfl, rfl⟩
        · split <;> exact ⟨rfl, rfl⟩
      exact spares.of_store_eq moment untouched.1 (.of_eq untouched.2)
  | poll => exact spares.of_store_eq moment rfl (.refl middle)
  | unsubscribe => exact spares.of_store_eq moment rfl (.refl middle)
  | count => exact spares.of_store_eq moment rfl (.refl middle)

end Services

namespace Action.Within

variable {α : Type} {May : Call → Prop} {action : Action α}

theorem sameMoment (within : action.Within May) (actor : Actor) (services : Services) :
    Services.SameMoment services (action actor services).2 :=
  within.keeps (fun _ _ deed moment => moment.trans deed.sameMoment) (.refl services)

/-- An action in other names does a safe job no harm. -/
theorem spares {worker : WorkerId} {id : JobId} {job : Job} {services : Services}
    (within : action.Within May)
    (foreign : job.status.isTerminal = false → ∀ call, May call → call.Foreign id worker)
    (found : services.store.job? id = some job) (safe : job.Safe worker services.now)
    (actor : Actor) : Services.Spares id job services (action actor services).2 :=
  within.keeps (fun _ _ deed spares => deed.spares foreign safe spares) (.refl found)

/-- No action at all does a job any harm that has ended. -/
theorem spares_ended {id : JobId} {job : Job} {services : Services} (within : action.Within May)
    (ended : job.status.isTerminal = true) (found : services.store.job? id = some job)
    (actor : Actor) : Services.Spares id job services (action actor services).2 := by
  have safe : job.Safe ⟨""⟩ services.now := .inl ended
  exact within.spares (fun unfinished => absurd ended (Bool.eq_false_iff.mp unfinished)) found safe
    actor

end Action.Within

end BuildFleet
