import BuildFleet.Proofs.Job.Keeping
import BuildFleet.Proofs.Store.Course
import BuildFleet.Proofs.Store.Outbox

/-!
# How jobs end in a course of the store

In a course operations may stop half way. Still a result is stored once at most and
stays, and the outbox has one event of a job that has ended and none of any other.
-/

namespace BuildFleet

namespace Operation

variable {settings : StoreSettings} {id : JobId} {operation : Operation} {job : Job}

/-! ## One operation -/

/-- An operation does nothing to a job but by a call that is addressed to it. -/
theorem keeps_job {Holds : Job → Prop} (found : operation.before.job? id = some job)
    (holds : Holds job)
    (kept : ∀ call, operation.call.addressed? = some (id, call) →
      Holds (job.perform settings.maxAttempts operation.now call).2) :
    ∃ later, (operation.after settings).job? id = some later ∧ Holds later := by
  cases seen : operation.onJob? id with
  | none => exact ⟨job, operation.job?_after_unseen found seen, holds⟩
  | some jobOperation =>
      rcases onJob?_eq_some seen with ⟨met, addressed, reading⟩
      rw [found] at met
      cases met
      refine ⟨_, operation.job?_after_seen seen, ?_⟩
      rw [JobOperation.after, ← reading]
      exact kept _ addressed

/-- What is true of new jobs and kept by the calls on a job stays true of the job. -/
theorem keeps {Holds : Job → Prop}
    (before : ∀ job, operation.before.job? id = some job → Holds job)
    (made : ∀ target payload, Holds (Job.new id target payload operation.now))
    (kept : ∀ job call, operation.call.addressed? = some (id, call) → Holds job →
      Holds (job.perform settings.maxAttempts operation.now call).2) :
    ∀ job, (operation.after settings).job? id = some job → Holds job := by
  intro job found
  cases there : operation.before.job? id with
  | none =>
      have created := operation.created_of_appeared there found
      rcases StoreCall.created?_eq_some created with ⟨newId, target, payload, _, _, rfl⟩
      cases Store.job?_id found
      exact made target payload
  | some earlier =>
      have holds := before earlier there
      rcases operation.keeps_job there holds fun call addressed => kept earlier call addressed holds
        with ⟨later, foundLater, holdsLater⟩
      cases found.symm.trans foundLater
      exact holdsLater

theorem job?_after_of_terminal (found : operation.before.job? id = some job)
    (terminal : job.status.isTerminal = true) : (operation.after settings).job? id = some job := by
  have same : ∃ later, (operation.after settings).job? id = some later ∧ later = job :=
    operation.keeps_job found rfl fun call _ => Job.perform_eq_of_terminal terminal
  rcases same with ⟨later, foundLater, rfl⟩
  exact foundLater

end Operation

/-! ## Results -/

/-- The result that is stored for a job. -/
def Store.result? (store : Store) (id : JobId) : Option JobResult :=
  (store.job? id).bind Job.result

/-- Whether an operation changes the result that is stored for a job. -/
def Operation.stores (settings : StoreSettings) (id : JobId) (operation : Operation) : Bool :=
  decide ((operation.after settings).result? id ≠ operation.before.result? id)

theorem Operation.result?_after {settings : StoreSettings} {id : JobId} {operation : Operation}
    {result : JobResult}
    (reported : ∀ job, operation.before.job? id = some job → job.Reported)
    (stored : operation.before.result? id = some result) :
    (operation.after settings).result? id = some result := by
  rcases Option.bind_eq_some_iff.mp stored with ⟨job, found, has⟩
  have terminal := (reported job found).terminal (by simp [has])
  rw [Store.result?, operation.job?_after_of_terminal found terminal]
  exact has

namespace Store.Course

variable {settings : StoreSettings} {id : JobId} {first last store : Store}
  {history : List Operation} {job : Job} {result : JobResult}

theorem reported (course : Course settings .empty history store)
    (found : store.job? id = some job) : job.Reported :=
  course.keeps (fun id target payload now => (Job.reported_law now).made id target payload)
    (fun now job call => (Job.reported_law now).kept _ job call trivial) job (mem_of_job? found)

/-- Results are stored once at most. -/
theorem length_stores (course : Course settings .empty history store) (id : JobId) :
    (history.filter (·.stores settings id)).length = if store.result? id = none then 0 else 1 := by
  induction course with
  | start => rfl
  | @step history operation course fresh induction =>
      rw [List.filter_append, List.length_append, induction]
      cases before : operation.before.result? id with
      | none =>
          by_cases after : (operation.after settings).result? id = none
          · simp [Operation.stores, before, after]
          · simp [Operation.stores, before, after]
      | some result =>
          have after : (operation.after settings).result? id = some result :=
            operation.result?_after (fun job found => course.reported found) before
          simp [Operation.stores, before, after]

/-- Whatever result an operation of the course met, it has stayed. -/
theorem result?_of_mem (course : Course settings .empty history store) {operation : Operation}
    (member : operation ∈ history) (stored : operation.before.result? id = some result) :
    store.result? id = some result := by
  induction course with
  | start => cases member
  | @step history latest course fresh induction =>
      refine latest.result?_after (fun job found => course.reported found) ?_
      rcases List.mem_append.mp member with earlier | newest
      · exact induction earlier
      · cases List.mem_singleton.mp newest
        exact stored

end Store.Course

/-! ## Events -/

theorem Store.perform_on_inTime {settings : StoreSettings} {now : Instant} {store : Store}
    {id : JobId} {job : Job} (found : store.job? id = some job) (call : JobCall)
    (inTime : (job.perform settings.maxAttempts now call).1 ≠ .outOfTime) :
    (store.perform settings now (call.on id)).1 ≠ .outOfTime := by
  rw [perform_on found]
  generalize (job.perform settings.maxAttempts now call).1 = outcome at inTime ⊢
  cases call with
  | claim | heartbeat | cancel | expire => exact inTime
  | complete worker result =>
      cases outcome with
      | done | failed => nofun
      | outOfTime => exact absurd rfl inTime

namespace Operation

variable {settings : StoreSettings} {id : JobId} {operation : Operation}

theorem inTime_of_seen {seen : JobOperation} (sees : operation.onJob? id = some seen)
    (inTime : seen.InTime settings.maxAttempts) : operation.outcome settings ≠ .outOfTime := by
  rcases operation with ⟨before, now, call⟩
  rcases onJob?_eq_some sees with ⟨found, addressed, reading⟩
  rcases seen with ⟨job, reads, jobCall⟩
  cases StoreCall.eq_on_of_addressed addressed
  cases reading
  exact Store.perform_on_inTime found jobCall inTime

/-- An operation that stops half way leaves no event, and its job has not ended. -/
theorem events_of_halted {seen : JobOperation} (sees : operation.onJob? id = some seen)
    (beyond : ¬ seen.InTime settings.maxAttempts) :
    (operation.after settings).events = operation.before.events := by
  rcases onJob?_eq_some sees with ⟨found, addressed, reading⟩
  have stops : (seen.before.perform settings.maxAttempts operation.now seen.call).1 =
      .outOfTime := reading ▸ not_not.mp beyond
  unfold after
  rw [Store.perform_addressed addressed, Store.mutate_outOfTime found stops, Store.events_replace]

theorem id_of_endings {limit : Nat} {seen : JobOperation} {ending : Job × Instant}
    (member : ending ∈ seen.endings limit) : ending.1.id = seen.before.id := by
  unfold JobOperation.endings at member
  split at member
  · cases List.mem_singleton.mp member
    exact Job.perform_id _ _ _ _
  · cases member

/-- An operation that is in time announces the end of the job that sees it. -/
theorem filter_events_of_seen (fresh : operation.Fresh settings) {seen : JobOperation}
    (sees : operation.onJob? id = some seen) (inTime : seen.InTime settings.maxAttempts)
    (other : JobId) : (operation.after settings).events.filter (·.jobId == other) =
      operation.before.events.filter (·.jobId == other) ++
        if id = other then (seen.endings settings.maxAttempts).map fun ending =>
          JobEvent.ofJob (operation.before.events.length + 1) ending.1 ending.2
        else [] := by
  have ids : ∀ ending ∈ seen.endings settings.maxAttempts, ending.1.id = id :=
    fun ending member => (id_of_endings member).trans (Store.job?_id (onJob?_eq_some sees).1)
  rw [operation.events_of_seen ⟨operation.inTime_of_seen sees inTime, fresh⟩ sees,
    List.filter_append]
  congr 1
  split
  · rename_i same
    rw [List.filter_eq_self]
    intro event member
    rcases List.mem_map.mp member with ⟨ending, there, rfl⟩
    exact beq_iff_eq.mpr ((ids ending there).trans same)
  · rename_i different
    rw [List.filter_eq_nil_iff]
    intro event member isOther
    rcases List.mem_map.mp member with ⟨ending, there, rfl⟩
    exact different ((ids ending there).symm.trans (beq_iff_eq.mp isOther))

theorem filter_events_of_unseen (fresh : operation.Fresh settings)
    (unseen : operation.onJob? id = none) :
    (operation.after settings).events.filter (·.jobId == id) =
      operation.before.events.filter (·.jobId == id) := by
  rcases operation.seen_or_unseen with ⟨other, seen, sees⟩ | nobody
  · by_cases inTime : seen.InTime settings.maxAttempts
    · have different : other ≠ id := by
        rintro rfl
        rw [unseen] at sees
        cases sees
      rw [operation.filter_events_of_seen fresh sees inTime, if_neg different, List.append_nil]
    · rw [operation.events_of_halted sees inTime]
  · rw [operation.events_of_unseen nobody]

end Operation

/-- The outbox has one event of the job if it has ended, and none before. -/
def Store.Announced (store : Store) (job : Job) : Prop :=
  (job.status.isTerminal = true → ∃ number,
    store.events.filter (·.jobId == job.id) = [JobEvent.ofJob number job job.updatedAt]) ∧
  (job.status.isTerminal = false → store.events.filter (·.jobId == job.id) = [])

/-- An operation announces the job that it ends. -/
theorem Operation.announced_after {settings : StoreSettings} {operation : Operation} {id : JobId}
    {seen : JobOperation} (fresh : operation.Fresh settings)
    (sees : operation.onJob? id = some seen) (announced : operation.before.Announced seen.before) :
    (operation.after settings).Announced (seen.after settings.maxAttempts) := by
  have sameId : (seen.after settings.maxAttempts).id = seen.before.id := Job.perform_id _ _ _ _
  have isId : seen.before.id = id := Store.job?_id (onJob?_eq_some sees).1
  unfold Store.Announced at announced ⊢
  rw [sameId]
  by_cases inTime : seen.InTime settings.maxAttempts
  · rw [operation.filter_events_of_seen fresh sees inTime, if_pos isId.symm, JobOperation.endings]
    have step := JobOperation.step inTime
    cases before : seen.before.status.isTerminal with
    | true =>
        rw [step.eq_of_terminal before, if_neg (fun never => nomatch never.1)]
        simpa [before] using announced.1 before
    | false =>
        rw [announced.2 before]
        cases ended : (seen.after settings.maxAttempts).status.isTerminal with
        | true =>
            rw [if_pos ⟨rfl, rfl⟩, step.updatedAt_of_ended before ended]
            exact ⟨fun _ => ⟨_, rfl⟩, nofun⟩
        | false =>
            rw [if_neg (fun never => nomatch never.2)]
            exact ⟨nofun, fun _ => rfl⟩
  · rw [operation.events_of_halted sees inTime]
    cases before : seen.before.status.isTerminal with
    | true =>
        have same : seen.after settings.maxAttempts = seen.before :=
          Job.perform_eq_of_terminal before
        rw [same]
        exact announced
    | false =>
        have halt : Job.Halt _ _ _ _ (seen.after settings.maxAttempts) :=
          Job.perform_halt (not_not.mp inTime)
        rw [halt.status_eq.1, before]
        exact ⟨nofun, fun _ => announced.2 before⟩

namespace Store.Course

variable {settings : StoreSettings} {store : Store} {history : List Operation}

/-- The outbox has one event of each job that has ended, and none of the others. -/
theorem events_of_job (course : Course settings .empty history store) (id : JobId) :
    (store.job? id = none → store.events.filter (·.jobId == id) = []) ∧
      ∀ job, store.job? id = some job → store.Announced job := by
  induction course with
  | start =>
      refine ⟨fun _ => rfl, fun job never => ?_⟩
      cases never
  | @step history operation course fresh induction =>
      cases before : operation.before.job? id with
      | none =>
          have nothing := operation.filter_events_of_unseen fresh
            (operation.onJob?_of_absent before)
          rw [induction.1 before] at nothing
          refine ⟨fun _ => nothing, fun job found => ?_⟩
          have created := operation.created_of_appeared before found
          rcases StoreCall.created?_eq_some created with ⟨newId, target, payload, _, _, rfl⟩
          cases job?_id found
          -- A new job has not ended, and there was no event of it before.
          exact ⟨nofun, fun _ => nothing⟩
      | some earlier =>
          have announced := induction.2 earlier before
          cases sees : operation.onJob? id with
          | none =>
              have there : (operation.after settings).job? id = some earlier :=
                operation.job?_after_unseen before sees
              have same := operation.filter_events_of_unseen fresh sees
              rw [← job?_id before] at same
              refine ⟨fun absent => (Option.some_ne_none _ (there.symm.trans absent)).elim,
                fun job found => ?_⟩
              cases found.symm.trans there
              unfold Announced
              rw [same]
              exact announced
          | some seen =>
              have there : (operation.after settings).job? id =
                  some (seen.after settings.maxAttempts) := operation.job?_after_seen sees
              refine ⟨fun absent => (Option.some_ne_none _ (there.symm.trans absent)).elim,
                fun job found => ?_⟩
              cases found.symm.trans there
              cases before.symm.trans (Operation.onJob?_eq_some sees).1
              exact operation.announced_after fresh sees announced

end Store.Course

end BuildFleet
