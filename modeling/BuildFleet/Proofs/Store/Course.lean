import BuildFleet.Proofs.Store.Run

/-!
# Courses of the store

A course is a run in which operations may also run out of time: the job is left
as the operation had changed it by then, and the store is used on. Some laws
hold of courses as well: no two jobs share an identifier, a job that has not
ended has attempts left, and a queued job was made or returned to the queue at
the time that its record tells.
-/

namespace BuildFleet

/-! ## One call -/

namespace Job

variable {limit : Nat} {now : Instant} {job : Job} {call : JobCall}

/-- A job that has not ended has lost no lease or fewer than the limit. -/
def AttemptsLeft (limit : Nat) (job : Job) : Prop :=
  job.status.isTerminal = false → job.attemptCount = 0 ∨ job.attemptCount < limit

theorem Step.attemptsLeft {outcome : Outcome call.Answer} {after : Job}
    (step : Step limit now job call outcome after) (left : job.AttemptsLeft limit) :
    after.AttemptsLeft limit := by
  cases step with
  | refused => exact left
  | repeated => exact left
  | kept => exact left
  | granted queued => exact fun _ => left (by rw [queued]; rfl)
  | renewed owned live => exact fun _ => left (unfinished_of_live live)
  | completed running => exact fun _ => left (by rw [running]; rfl)
  | cancelled unfinished => exact fun _ => left unfinished
  | takenOver expired remaining => exact fun _ => .inr remaining
  | requeued expired remaining => exact fun _ => .inr remaining
  | exhausted =>
      intro unfinished
      cases unfinished
  | lost =>
      intro unfinished
      cases unfinished

theorem Halt.attemptsLeft {after : Job} (halt : Halt limit now job call after)
    (left : job.AttemptsLeft limit) : after.AttemptsLeft limit := by
  cases halt with
  | granting => exact left
  | renewing => exact left
  | takingOver expired remaining => exact fun _ => .inr remaining

theorem AttemptsLeft.perform (left : job.AttemptsLeft limit) (now : Instant) (call : JobCall) :
    (job.perform limit now call).2.AttemptsLeft limit := by
  by_cases beyond : (job.perform limit now call).1 = .outOfTime
  · exact (perform_halt beyond).attemptsLeft left
  · exact (perform_step beyond).attemptsLeft left

/-- The next loss of a lease does not overflow the count. -/
theorem AttemptsLeft.countLoss_eq (left : job.AttemptsLeft limit) (narrow : limit < 4294967296)
    (expired : job.leaseExpired now = true) :
    countLoss job.attemptCount = job.attemptCount + 1 := by
  have few := left (unfinished_of_expired expired)
  exact Nat.mod_eq_of_lt (by omega)

end Job

/-- Whether a call tells that this job is queued from now on. -/
def StoreCall.queues (id : JobId) : (call : StoreCall) → Outcome call.Answer → Bool
  | .create _ _ _, .done made => made == id
  | .expireLease addressee, .done (some .requeued) => addressee == id
  | _, _ => false

namespace Job

variable {limit : Nat} {now : Instant} {job : Job} {call : JobCall}

/-- A queued job was queued before and is as old as it was then, or it has just
been returned to the queue. -/
inductive Queues (now : Instant) (job after : Job) (returned : Bool) : Prop
  | stays (queued : job.status = .queued) (since : after.updatedAt = job.updatedAt)
  | returns (leased : job.status.isLeased = true) (told : returned = true)
      (since : after.updatedAt = now)

private theorem Step.queues {outcome : Outcome call.Answer} {after : Job}
    (step : Step limit now job call outcome after) (id : JobId)
    (queued : after.status = .queued) :
    Queues now job after ((call.on id).queues id (call.report id outcome)) := by
  cases step with
  | refused => exact .stays queued rfl
  | repeated => exact .stays queued rfl
  | kept => exact .stays queued rfl
  | requeued expired =>
      exact .returns (leaseExpired_iff.mp expired).1 (beq_self_eq_true id) rfl
  | granted => cases queued
  | takenOver => cases queued
  | exhausted => cases queued
  | renewed => cases queued
  | cancelled => cases queued
  | lost => cases queued
  | @completed worker result =>
      have ended : result.status = .queued := queued
      unfold JobResult.status at ended
      split at ended <;> cases ended

private theorem Halt.queues {after : Job} (halt : Halt limit now job call after)
    (queued : after.status = .queued) (returned : Bool) : Queues now job after returned := by
  cases halt with
  | granting before => exact .stays before rfl
  | renewing => exact .stays queued rfl
  | takingOver expired =>
      have leased := (leaseExpired_iff.mp expired).1
      have same : job.status = .queued := queued
      rw [same] at leased
      cases leased

theorem perform_queues (id : JobId) (queued : (job.perform limit now call).2.status = .queued) :
    Queues now job (job.perform limit now call).2
      ((call.on id).queues id (call.report id (job.perform limit now call).1)) := by
  by_cases beyond : (job.perform limit now call).1 = .outOfTime
  · exact (perform_halt beyond).queues queued _
  · exact (perform_step beyond).queues id queued

end Job

namespace Operation

variable {settings : StoreSettings} {id : JobId} {operation : Operation}

/-- A job that the operation makes gets an identifier of its own. -/
def Fresh (settings : StoreSettings) (operation : Operation) : Prop :=
  ∀ job ∈ operation.call.created? settings operation.now, operation.before.job? job.id = none

instance (settings : StoreSettings) (operation : Operation) :
    Decidable (operation.Fresh settings) :=
  inferInstanceAs (Decidable (∀ _ ∈ _, _))

def queues (settings : StoreSettings) (id : JobId) (operation : Operation) : Bool :=
  operation.call.queues id (operation.outcome settings)

/-- The job after an operation is as the call leaves it, or it is made, or it was
there before and is unchanged. -/
theorem mem_after {job : Job} (member : job ∈ (operation.after settings).jobs) :
    job ∈ operation.before.jobs ∨
      operation.call.created? settings operation.now = some job ∨
      ∃ earlier ∈ operation.before.jobs, ∃ call,
        job = (earlier.perform settings.maxAttempts operation.now call).2 := by
  unfold after at member
  cases addressed : operation.call.addressed? with
  | none =>
      rw [(Store.perform_unaddressed addressed).1] at member
      rcases List.mem_append.mp member with there | made
      · exact .inl there
      · exact .inr (.inl (Option.mem_toList.mp made))
  | some target =>
      rcases target with ⟨addressee, call⟩
      rw [Store.perform_addressed addressed] at member
      cases found : operation.before.job? addressee with
      | none =>
          rw [Store.mutate_missing found] at member
          exact .inl member
      | some earlier =>
          rw [Store.jobs_mutate found] at member
          rcases List.mem_map.mp member with ⟨original, there, changed⟩
          split at changed
          · exact .inr (.inr ⟨earlier, Store.mem_of_job? found, call, changed.symm⟩)
          · exact .inl (changed ▸ there)

/-- What the store answers a call that a job sees is the answer of the job. -/
theorem queues_of_seen {jobOperation : JobOperation}
    (seen : operation.onJob? id = some jobOperation) :
    operation.queues settings id = (jobOperation.call.on id).queues id
      (jobOperation.call.report id (jobOperation.outcome settings.maxAttempts)) := by
  rcases operation with ⟨before, now, call⟩
  rcases onJob?_eq_some seen with ⟨found, addressed, reading⟩
  have sameCall : call = jobOperation.call.on id := StoreCall.eq_on_of_addressed addressed
  subst sameCall
  have sameReading : now = jobOperation.now := reading
  subst sameReading
  exact congrArg _ (Store.perform_on found jobOperation.call)

/-- A job that is queued after an operation was queued before it, or the
operation queues it. -/
theorem queued_after {job : Job} (found : (operation.after settings).job? id = some job)
    (queued : job.status = .queued) :
    (∃ earlier, operation.before.job? id = some earlier ∧ earlier.status = .queued ∧
        job.updatedAt = earlier.updatedAt) ∨
      ((operation.before.job? id).any (·.status == .queued) = false ∧
        operation.queues settings id = true ∧ job.updatedAt = operation.now) := by
  cases there : operation.before.job? id with
  | none =>
      have created := operation.created_of_appeared there found
      rcases StoreCall.created?_eq_some created with ⟨newId, target, payload, call, accepted, made⟩
      have sameId : newId = id := by
        have idOf := Store.job?_id found
        rw [made] at idOf
        exact idOf
      refine .inr ⟨rfl, ?_, by rw [made]; rfl⟩
      rcases operation with ⟨before, now, _⟩
      subst call
      simp [queues, outcome, Store.perform, Store.create, accepted, StoreCall.queues, sameId]
  | some earlier =>
      cases seen : operation.onJob? id with
      | none =>
          rw [operation.job?_after_unseen there seen] at found
          cases found
          exact .inl ⟨job, rfl, queued, rfl⟩
      | some jobOperation =>
          rw [operation.job?_after_seen seen] at found
          rcases onJob?_eq_some seen with ⟨sameJob, _, reading⟩
          rw [there] at sameJob
          cases sameJob
          cases found
          rw [queues_of_seen seen, reading]
          cases Job.perform_queues id queued with
          | stays before since => exact .inl ⟨_, rfl, before, since⟩
          | returns leased told since =>
              refine .inr ⟨?_, told, since⟩
              rw [Option.any_some, beq_eq_false_iff_ne]
              intro before
              rw [before] at leased
              cases leased

end Operation

/-! ## Courses -/

/-- Courses of the store: the operations, the oldest first, and the store after them. -/
inductive Store.Course (settings : StoreSettings) (first : Store) : List Operation → Store → Prop
  | start : Course settings first [] first
  | step {history : List Operation} {operation : Operation}
      (course : Course settings first history operation.before)
      (fresh : operation.Fresh settings) :
      Course settings first (history ++ [operation]) (operation.after settings)

theorem Store.Run.course {settings : StoreSettings} {first last : Store}
    {history : List Operation} (run : Store.Run settings first history last) :
    Store.Course settings first history last := by
  induction run with
  | start => exact .start
  | step run regular induction => exact induction.step regular.fresh

namespace Store.Course

variable {settings : StoreSettings} {id : JobId} {first last : Store}
  {history : List Operation} {job : Job}

theorem distinct (course : Course settings first history last)
    (start : (first.jobs.map (·.id)).Nodup) : (last.jobs.map (·.id)).Nodup := by
  induction course with
  | start => exact start
  | step course fresh induction => exact Operation.distinct_after fresh induction

theorem distinct_from_empty (course : Course settings .empty history last) :
    (last.jobs.map (·.id)).Nodup := course.distinct List.nodup_nil

/-- What is true of new jobs and kept by every call on a job is true of every job. -/
theorem keeps {Holds : Job → Prop} (course : Course settings .empty history last)
    (made : ∀ id target payload now, Holds (Job.new id target payload now))
    (kept : ∀ now job call, Holds job → Holds (job.perform settings.maxAttempts now call).2) :
    ∀ job ∈ last.jobs, Holds job := by
  induction course with
  | start =>
      intro job member
      cases member
  | @step history operation course fresh induction =>
      intro job member
      rcases operation.mem_after member with there | created | ⟨earlier, there, call, rfl⟩
      · exact induction job there
      · rcases StoreCall.created?_eq_some created with ⟨id, target, payload, _, _, rfl⟩
        exact made id target payload operation.now
      · exact kept operation.now earlier call (induction earlier there)

theorem attemptsLeft (course : Course settings .empty history last) :
    ∀ job ∈ last.jobs, job.AttemptsLeft settings.maxAttempts :=
  course.keeps (fun _ _ _ _ _ => .inl rfl) fun now _ call left => left.perform now call

/-- A queued job was made or returned to the queue when it was last changed. -/
theorem queued_since (course : Course settings .empty history last)
    (found : last.job? id = some job) (queued : job.status = .queued) :
    ∃ operation ∈ history, operation.queues settings id = true ∧
      operation.now = job.updatedAt := by
  induction course generalizing job with
  | start => cases found
  | @step history operation course fresh induction =>
      rcases operation.queued_after found queued with
        ⟨earlier, there, before, since⟩ | ⟨_, queues, since⟩
      · rcases induction there before with ⟨past, member, queues, reading⟩
        exact ⟨past, List.mem_append_left _ member, queues, by rw [since, reading]⟩
      · exact ⟨operation, List.mem_append_right _ (List.mem_singleton_self _), queues, since.symm⟩

/-- A course is the course of its beginning, then that of the rest. -/
theorem split {past future : List Operation}
    (course : Course settings first (past ++ future) last) :
    ∃ middle, Course settings first past middle ∧ Course settings middle future last := by
  generalize whole : past ++ future = history at course
  induction course generalizing future with
  | start =>
      rcases List.append_eq_nil_iff.mp whole with ⟨rfl, rfl⟩
      exact ⟨first, .start, .start⟩
  | @step history operation course fresh induction =>
      rcases List.eq_nil_or_concat future with rfl | ⟨before, newest, rfl⟩
      · rw [List.append_nil] at whole
        subst whole
        exact ⟨_, course.step fresh, .start⟩
      · rw [List.concat_eq_append, ← List.append_assoc] at whole
        rcases List.append_inj' whole rfl with ⟨sameHistory, sameOperation⟩
        cases sameOperation
        rcases induction sameHistory with ⟨middle, earlier, later⟩
        rw [List.concat_eq_append]
        exact ⟨middle, earlier, later.step fresh⟩

/-- An operation in front of a course makes a course. -/
theorem cons {operation : Operation} (fresh : operation.Fresh settings)
    (course : Course settings (operation.after settings) history last) :
    Course settings operation.before (operation :: history) last := by
  induction course with
  | start => exact Course.start.step fresh
  | step course laterFresh induction =>
      rw [← List.cons_append]
      exact induction.step laterFresh

/-- The last operation of a course takes effect on what the others left. -/
theorem of_snoc {operation : Operation}
    (course : Course settings first (history ++ [operation]) last) :
    Course settings first history operation.before ∧ operation.Fresh settings ∧
      last = operation.after settings := by
  generalize whole : history ++ [operation] = all at course
  cases course with
  | start => exact absurd whole (by simp)
  | step course fresh =>
      rcases List.append_inj' whole rfl with ⟨rfl, same⟩
      cases same
      exact ⟨course, fresh, rfl⟩

/-- A course leads to each of its operations, and on from there. -/
theorem around {past future : List Operation} {operation : Operation}
    (course : Course settings first (past ++ operation :: future) last) :
    Course settings first past operation.before ∧
      Course settings (operation.after settings) future last ∧
      Course settings operation.before (operation :: future) last := by
  rw [List.append_cons] at course
  rcases course.split with ⟨middle, upTo, later⟩
  rcases upTo.of_snoc with ⟨before, fresh, rfl⟩
  exact ⟨before, later, later.cons fresh⟩

end Store.Course

end BuildFleet
