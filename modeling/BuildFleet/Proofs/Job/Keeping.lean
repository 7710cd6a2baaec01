import BuildFleet.Proofs.Job.Halt

/-!
# What a call keeps, whatever comes of it

A call on a job takes one of the listed steps, or it stops half way. Some facts about
a job outlast both.
-/

namespace BuildFleet

namespace Job

variable {limit : Nat} {now : Instant} {job after : Job} {call : JobCall} {worker : WorkerId}

/-- What every step and every stop comes to, the call comes to. -/
theorem perform_comes {Comes : Outcome call.Answer → Job → Prop}
    (steps : ∀ {outcome : Outcome call.Answer} {after : Job},
      Step limit now job call outcome after → Comes outcome after)
    (halts : ∀ {after : Job}, Halt limit now job call after → Comes .outOfTime after) :
    Comes (job.perform limit now call).1 (job.perform limit now call).2 := by
  by_cases beyond : (job.perform limit now call).1 = .outOfTime
  · rw [beyond]
    exact halts (perform_halt beyond)
  · exact steps (perform_step beyond)

theorem perform_leaves {Holds : Job → Prop}
    (steps : ∀ {outcome : Outcome call.Answer} {after : Job},
      Step limit now job call outcome after → Holds after)
    (halts : ∀ {after : Job}, Halt limit now job call after → Holds after) :
    Holds (job.perform limit now call).2 := by
  have comes : (fun (_ : Outcome call.Answer) after => Holds after)
      (job.perform limit now call).1 (job.perform limit now call).2 := perform_comes steps halts
  exact comes

/-- What is true of new jobs and kept by such calls at a reading of the clock. -/
structure Law (May : JobCall → Prop) (now : Instant) (Holds : Job → Prop) : Prop where
  made : ∀ id target payload, Holds (Job.new id target payload now)
  kept : ∀ limit job call, May call → Holds job → Holds (job.perform limit now call).2

/-! ## Jobs that have ended -/

theorem Halt.unfinished (halt : Halt limit now job call after)
    (moves : after ≠ job) : job.status.isTerminal = false := by
  cases halt with
  | granting queued =>
      rw [queued]
      rfl
  | takingOver expired => exact unfinished_of_expired expired
  | renewing => exact absurd rfl moves

theorem Halt.status_eq (halt : Halt limit now job call after) :
    after.status = job.status ∧ after.result = job.result := by
  cases halt <;> exact ⟨rfl, rfl⟩

theorem perform_eq_of_terminal (terminal : job.status.isTerminal = true) :
    (job.perform limit now call).2 = job := by
  refine perform_leaves (fun step => step.eq_of_terminal terminal) fun halt => ?_
  by_contra moves
  rw [halt.unfinished moves] at terminal
  cases terminal

theorem status_of_result (result : JobResult) :
    result.status = .succeeded ∨ result.status = .failed := by
  unfold JobResult.status
  split
  · exact .inl rfl
  · exact .inr rfl

theorem terminal_of_result (result : JobResult) : result.status.isTerminal = true := by
  rcases status_of_result result with same | same <;> simp [same, JobStatus.isTerminal]

theorem unleased_of_result (result : JobResult) : result.status.isLeased = false := by
  rcases status_of_result result with same | same <;> simp [same, JobStatus.isLeased]

/-- A job with a result has succeeded or failed. -/
def Reported (job : Job) : Prop :=
  job.result ≠ none → job.status = .succeeded ∨ job.status = .failed

theorem Reported.terminal (reported : job.Reported) (some : job.result ≠ none) :
    job.status.isTerminal = true := by
  rcases reported some with same | same <;> simp [same, JobStatus.isTerminal]

theorem Reported.result_eq (reported : job.Reported) (unsuccessful : job.status ≠ .succeeded)
    (unfailed : job.status ≠ .failed) : job.result = none := by
  by_contra some
  exact (reported some).elim unsuccessful unfailed

theorem Reported.result_of_unfinished (reported : job.Reported)
    (unfinished : job.status.isTerminal = false) : job.result = none := by
  by_contra some
  rw [reported.terminal some] at unfinished
  cases unfinished

theorem reported_law (now : Instant) : Law (fun _ => True) now Reported where
  made _ _ _ := fun some => absurd rfl some
  kept limit job call _ reported := by
    -- But for its completion only a job without a result is changed.
    have resultless : job.status.isTerminal = false → job.result = none :=
      reported.result_of_unfinished
    refine perform_leaves (fun step => ?_) fun halt => ?_
    · cases step with
      | refused | repeated | kept => exact reported
      | granted queued => exact fun some => absurd (resultless (queued ▸ rfl)) some
      | takenOver expired | exhausted expired | requeued expired | lost expired =>
          exact fun some => absurd (resultless (unfinished_of_expired expired)) some
      | renewed _ live => exact fun some => absurd (resultless (unfinished_of_live live)) some
      | completed => exact fun _ => status_of_result _
      | cancelled unfinished => exact fun some => absurd (resultless unfinished) some
    · rcases halt.status_eq with ⟨status, result⟩
      unfold Reported
      rw [status, result]
      exact reported

/-! ## Jobs that a worker has not completed -/

/-- If the worker owns the job it has not completed it. -/
def Uncompleted (worker : WorkerId) (job : Job) : Prop :=
  job.owner = some worker → job.status ≠ .succeeded ∧ job.status ≠ .failed

theorem uncompleted_of_leased (leased : job.status.isLeased = true) : job.Uncompleted worker := by
  intro _
  cases status : job.status <;> simp_all [JobStatus.isLeased]

/-- Nothing but its own report completes a job for a worker. -/
theorem Uncompleted.perform (uncompleted : job.Uncompleted worker)
    (foreign : ∀ result, call ≠ .complete worker result) :
    (job.perform limit now call).2.Uncompleted worker := by
  refine perform_leaves (fun step => ?_) fun halt => ?_
  · cases step with
    | refused | repeated | kept => exact uncompleted
    | granted | takenOver | exhausted | renewed | cancelled | requeued | lost =>
        exact fun _ => ⟨nofun, nofun⟩
    | completed _ owned =>
        intro ours
        cases Option.some.inj (owned.symm.trans ours)
        exact absurd rfl (foreign _)
  · cases halt with
    | granting queued => exact fun _ => by rw [assignedTo, queued]; exact ⟨nofun, nofun⟩
    | takingOver expired => exact uncompleted_of_leased (leaseExpired_iff.mp expired).1
    | renewing => exact uncompleted

end Job

end BuildFleet
