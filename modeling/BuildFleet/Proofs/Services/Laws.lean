import BuildFleet.Proofs.Services.Moment
import BuildFleet.Proofs.Store.Ends

/-!
# Laws of jobs

A law of jobs holds of new ones and is kept by calls at one reading of the clock. What
some actor does at that reading keeps it, be his calls answered or made to fail.
-/

namespace BuildFleet

/-- It tells of a call on this job that was answered. -/
def Happening.Answers (id : JobId) (happening : Happening) : Prop :=
  ∃ (call : JobCall) (answer : (call.on id).Answer),
    happening = .called (.store (call.on id)) (.done answer)

namespace Services

variable {actor : Actor} {before after services : Services} {May : Call → Prop} {id : JobId}
  {Holds : Job → Prop}

/-- Whatever the job with this identifier is, it has the property. -/
def Every (id : JobId) (Holds : Job → Prop) (services : Services) : Prop :=
  ∀ job, services.store.job? id = some job → Holds job

theorem store_plannedDelivery (services : Services) :
    services.plannedDelivery.2.store = services.store := by
  unfold plannedDelivery
  split
  · rfl
  · split <;> rfl

theorem journal_plannedDelivery (services : Services) :
    services.plannedDelivery.2.journal = services.journal := by
  unfold plannedDelivery
  split
  · rfl
  · split <;> rfl

theorem Deed.every (law : Job.Law (fun call => May (.store (call.on id))) before.now Holds)
    (deed : Deed May actor before after) (holds : before.Every id Holds) :
    after.Every id Holds := by
  cases deed with
  | @call call may =>
      rcases perform_carried_or_failed call actor before with
        ⟨after, ⟨performed, store, _⟩ | ⟨failure, performed, store, _⟩⟩
      · rw [performed]
        unfold Every
        rw [store]
        cases call with
        | store call =>
            let operation : Operation := ⟨before.store, before.now, call⟩
            refine operation.keeps holds (law.made id) fun job jobCall addressed => ?_
            cases StoreCall.eq_on_of_addressed addressed
            exact law.kept _ job jobCall may
        | _ => exact holds
      · rw [performed]
        unfold Every
        rw [store]
        exact holds
  | plan =>
      unfold Every
      rw [store_plannedDelivery]
      exact holds
  | note | poll | unsubscribe | count => exact holds

/-! ## One job -/

/-- The job with this identifier is there and has the property. -/
def Has (id : JobId) (Holds : Job → Prop) (services : Services) : Prop :=
  ∃ job, services.store.job? id = some job ∧ Holds job

theorem Has.every (has : services.Has id Holds) : services.Every id Holds := by
  rcases has with ⟨job, found, holds⟩
  intro other also
  cases found.symm.trans also
  exact holds

/-- Since the journal was like this `Ends` has happened; or `Never` has not, and the job has
the property. -/
def Until (Ends Never : Happening → Prop) (id : JobId) (Holds : Job → Prop)
    (journal : List Entry) (services : Services) : Prop :=
  ∃ since, services.journal = since ++ journal ∧
    ((∃ entry ∈ since, Ends entry.happening) ∨
      (∀ entry ∈ since, ¬ Never entry.happening) ∧ services.Has id Holds)

theorem Until.start {Ends Never : Happening → Prop} (has : services.Has id Holds) :
    services.Until Ends Never id Holds services.journal :=
  ⟨[], rfl, .inr ⟨(fun _ member => nomatch member), has⟩⟩

theorem Until.snoc {Ends Never : Happening → Prop} {journal : List Entry} {entry : Entry}
    (holding : before.Until Ends Never id Holds journal)
    (told : after.journal = entry :: before.journal)
    (goesOn : before.Has id Holds →
      Ends entry.happening ∨ ¬ Never entry.happening ∧ after.Has id Holds) :
    after.Until Ends Never id Holds journal := by
  rcases holding with ⟨since, same, holding⟩
  refine ⟨entry :: since, by rw [told, same]; rfl, ?_⟩
  rcases holding with ⟨ending, member, ends⟩ | ⟨never, has⟩
  · exact .inl ⟨ending, List.mem_cons_of_mem _ member, ends⟩
  · rcases goesOn has with ends | ⟨still, has⟩
    · exact .inl ⟨entry, List.mem_cons_self, ends⟩
    · exact .inr ⟨List.forall_mem_cons.mpr ⟨still, never⟩, has⟩

theorem Until.imp {Ends Never : Happening → Prop} {Other : Job → Prop} {journal : List Entry}
    (holding : services.Until Ends Never id Holds journal)
    (weaker : ∀ job, services.store.job? id = some job → Holds job → Other job) :
    services.Until Ends Never id Other journal := by
  rcases holding with ⟨since, same, holding⟩
  refine ⟨since, same, holding.imp_right fun still => ⟨still.1, ?_⟩⟩
  rcases still.2 with ⟨job, found, holds⟩
  exact ⟨job, found, weaker job found holds⟩

theorem Until.of_eq {Ends Never : Happening → Prop} {journal : List Entry}
    (holding : before.Until Ends Never id Holds journal) (told : after.journal = before.journal)
    (store : after.store = before.store) : after.Until Ends Never id Holds journal := by
  unfold Until Has
  rw [told, store]
  exact holding

theorem Deed.until {Ends Never : Happening → Prop} {journal : List Entry}
    (deed : Deed May actor before after)
    (answered : ∀ happening, Never happening → happening.Answers id)
    (kept : ∀ limit job call, Holds job →
      let performed := job.perform limit before.now call
      let happening := Happening.called (.store (call.on id)) (call.report id performed.1)
      Ends happening ∨ ¬ Never happening ∧ Holds performed.2)
    (holding : before.Until Ends Never id Holds journal) :
    after.Until Ends Never id Holds journal := by
  cases deed with
  | @call call may =>
      refine holding.snoc (journal_perform call actor before) ?_
      rintro ⟨job, found, holds⟩
      rcases perform_eq call actor before with ⟨plans, ⟨failure, failed⟩ | carried⟩
      · -- A call that is made to fail answers nothing and changes no job.
        rw [failed]
        refine .inr ⟨fun never => ?_, job, found, holds⟩
        rcases answered _ never with ⟨jobCall, answer, same⟩
        cases same
      · rw [carried]
        cases call with
        | store call =>
            let operation : Operation := ⟨before.store, before.now, call⟩
            cases sees : operation.onJob? id with
            | none =>
                refine .inr ⟨fun never => ?_, job, operation.job?_after_unseen found sees, holds⟩
                rcases answered _ never with ⟨jobCall, answer, same⟩
                injection same with same _
                injection same with same
                subst same
                simp [operation, Operation.onJob?, found] at sees
            | some seen =>
                rcases Operation.onJob?_eq_some sees with ⟨met, addressed, reading⟩
                cases StoreCall.eq_on_of_addressed addressed
                cases met.symm.trans found
                have outcome : (before.store.perform before.settings before.now
                  (seen.call.on id)).1 = _ := Store.perform_on found seen.call
                have left : (operation.after before.settings).job? id = _ :=
                  operation.job?_after_seen sees
                have goesOn := kept before.settings.maxAttempts seen.before seen.call holds
                dsimp only at goesOn
                rw [← outcome] at goesOn
                refine goesOn.imp_right fun still => ⟨still.1, _, left, ?_⟩
                rw [JobOperation.after, ← reading]
                exact still.2
        | _ =>
            refine .inr ⟨fun never => ?_, job, found, holds⟩
            rcases answered _ never with ⟨jobCall, answer, same⟩
            cases same
  | note silent =>
      refine holding.snoc rfl fun has => .inr ⟨fun never => ?_, has⟩
      rcases answered _ never with ⟨jobCall, answer, rfl⟩
      cases silent
  | plan => exact holding.of_eq (journal_plannedDelivery before) (store_plannedDelivery before)
  | poll | unsubscribe | count => exact holding.of_eq rfl rfl

/-! ## Plans -/

/-- Failures are planned of such calls alone. -/
def Planned (mayFail : String → Prop) (services : Services) : Prop :=
  ∀ plan ∈ services.plans, mayFail plan.call

theorem mem_consult {name : String} {plans : List FailurePlan} {plan : FailurePlan}
    (member : plan ∈ (FailurePlan.consult name plans).2) : ∃ before ∈ plans,
      before.call = plan.call := by
  induction plans with
  | nil => cases member
  | cons head tail induction =>
      unfold FailurePlan.consult at member
      split at member
      · split at member
        all_goals
          rcases List.mem_cons.mp member with rfl | later
          · exact ⟨head, List.mem_cons_self, rfl⟩
          · exact ⟨plan, List.mem_cons_of_mem _ later, rfl⟩
      · rcases List.mem_cons.mp member with rfl | later
        · exact ⟨plan, List.mem_cons_self, rfl⟩
        · rcases induction later with ⟨before, there, same⟩
          exact ⟨before, List.mem_cons_of_mem _ there, same⟩

theorem Planned.of_consult {mayFail : String → Prop} {name : String} {plans : List FailurePlan}
    (planned : ∀ plan ∈ plans, mayFail plan.call) :
    ∀ plan ∈ (FailurePlan.consult name plans).2, mayFail plan.call := by
  intro plan member
  rcases mem_consult member with ⟨before, there, same⟩
  exact same ▸ planned before there

theorem Deed.planned {mayFail : String → Prop} (deed : Deed May actor before after)
    (planned : before.Planned mayFail) : after.Planned mayFail := by
  cases deed with
  | @call call may =>
      have plans : (perform call actor before).2.plans =
          (FailurePlan.consult call.name before.plans).2 := by
        unfold perform
        rcases FailurePlan.consult call.name before.plans with ⟨_ | failure, plans⟩
        · cases call <;> rfl
        · rfl
      unfold Planned
      rw [plans]
      exact Planned.of_consult planned
  | plan =>
      show ∀ plan ∈ before.plannedDelivery.2.plans, mayFail plan.call
      have ended : ∀ plan ∈ (FailurePlan.consult "end" before.plans).2, mayFail plan.call :=
        Planned.of_consult planned
      unfold plannedDelivery
      split
      · rename_i plans consulted
        rw [consulted] at ended
        exact ended
      · rename_i plans consulted
        rw [consulted] at ended
        have next : ∀ plan ∈ (FailurePlan.consult "next" plans).2, mayFail plan.call :=
          Planned.of_consult ended
        split
        all_goals
          rename_i later consultedNext
          rw [consultedNext] at next
          exact next
  | note | poll | unsubscribe | count => exact planned

/-! ## Identifiers -/

theorem Deed.map_id (deed : Deed May actor before after)
    (makes : ∀ id target payload, ¬ May (.store (.create id target payload))) :
    after.store.jobs.map (·.id) = before.store.jobs.map (·.id) := by
  cases deed with
  | @call call may =>
      rcases perform_carried_or_failed call actor before with
        ⟨after, ⟨performed, store, _⟩ | ⟨failure, performed, store, _⟩⟩
      · rw [performed, store]
        cases call with
        | store call =>
            let operation : Operation := ⟨before.store, before.now, call⟩
            have none : operation.call.created? before.settings before.now = none := by
              cases call with
              | create id target payload => exact absurd may (makes id target payload)
              | _ => rfl
            have ids := operation.map_id_after before.settings
            rw [none, Option.toList_none, List.map_nil, List.append_nil] at ids
            exact ids
        | _ => rfl
      · rw [performed, store]
  | plan => rw [store_plannedDelivery]
  | note | poll | unsubscribe | count => rfl

end Services

end BuildFleet
