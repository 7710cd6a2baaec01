import BuildFleet.Proofs.Store.Run

/-!
# The record of a job

The status of a job decides which of its other members are there. Every step
keeps it so, and changes the status along an edge of the state machine alone.
Both hold of every job in every run of the store.
-/

namespace BuildFleet

namespace Job

/-- The members of a job fit its status. -/
def WellFormed (job : Job) : Prop :=
  match job.status with
  | .queued => job.owner = none ∧ job.leaseExpiry = none ∧ job.result = none
  | .claimed | .running =>
    job.owner.isSome = true ∧ job.leaseExpiry.isSome = true ∧ job.result = none
  | .succeeded | .failed =>
    job.owner.isSome = true ∧ job.leaseExpiry = none ∧
      ∃ result, job.result = some result ∧ result.status = job.status
  | .cancelled => job.leaseExpiry = none ∧ job.result = none
  | .lost => job.owner = none ∧ job.leaseExpiry = none ∧ job.result = none

/-- A job of the same identity and content. -/
structure SameWork (left right : Job) : Prop where
  id : left.id = right.id
  target : left.target = right.target
  payload : left.payload = right.payload
  createdAt : left.createdAt = right.createdAt

/-- A step leaves the job as it is, renews the lease of a running job, or sets
the status along an edge of the state machine. -/
inductive Moves (now : Instant) (job : Job) : Job → Prop
  | stays : Moves now job job
  | renews (running : job.status = .running) (expiry : Instant) :
      Moves now job (job.renewedUntil expiry now)
  | crosses {after : Job} (edge : job.status.canBecome after.status = true) : Moves now job after

variable {limit : Nat} {now : Instant} {job after : Job}

theorem Moves.status_eq_or_edge (moves : job.Moves now after) :
    after.status = job.status ∨ job.status.canBecome after.status = true := by
  cases moves with
  | stays => exact .inl rfl
  | renews running expiry => exact .inl running.symm
  | crosses edge => exact .inr edge

theorem new_wellFormed (id : JobId) (target : Target) (payload : Json) (now : Instant) :
    (Job.new id target payload now).WellFormed := ⟨rfl, rfl, rfl⟩

theorem WellFormed.result_of_unfinished (wellFormed : job.WellFormed)
    (unfinished : job.status.isTerminal = false) : job.result = none := by
  unfold WellFormed at wellFormed
  cases status : job.status <;> simp only [status, JobStatus.isTerminal, reduceCtorEq]
    at wellFormed unfinished
  case queued => exact wellFormed.2.2
  case claimed => exact wellFormed.2.2
  case running => exact wellFormed.2.2

theorem endedWith_wellFormed {result : JobResult} (owned : job.owner.isSome = true) :
    (job.endedWith result now).WellFormed := by
  unfold WellFormed endedWith JobResult.status
  cases success : result.success with
  | true => exact ⟨owned, rfl, result, rfl, by rw [success]⟩
  | false => exact ⟨owned, rfl, result, rfl, by rw [success]⟩

theorem Step.wellFormed {call : JobCall} {outcome : Outcome call.Answer}
    (step : Step limit now job call outcome after) (wellFormed : job.WellFormed) :
    after.WellFormed := by
  cases step with
  | refused => exact wellFormed
  | repeated => exact wellFormed
  | kept => exact wellFormed
  | granted queued ends =>
      exact ⟨rfl, rfl, wellFormed.result_of_unfinished (by rw [queued]; rfl)⟩
  | takenOver expired remaining ends =>
      exact ⟨rfl, rfl, wellFormed.result_of_unfinished (unfinished_of_expired expired)⟩
  | exhausted expired used =>
      exact ⟨rfl, rfl, wellFormed.result_of_unfinished (unfinished_of_expired expired)⟩
  | renewed owned live ends =>
      exact ⟨by rw [renewedUntil, owned]; rfl, rfl,
        wellFormed.result_of_unfinished (unfinished_of_live live)⟩
  | completed running owned live => exact endedWith_wellFormed (by rw [owned]; rfl)
  | cancelled unfinished => exact ⟨rfl, wellFormed.result_of_unfinished unfinished⟩
  | requeued expired remaining =>
      exact ⟨rfl, rfl, wellFormed.result_of_unfinished (unfinished_of_expired expired)⟩
  | lost expired used =>
      exact ⟨rfl, rfl, wellFormed.result_of_unfinished (unfinished_of_expired expired)⟩

theorem canBecome_of_leased {status : JobStatus} (leased : status.isLeased = true) :
    status.canBecome .queued = true ∧ status.canBecome .claimed = true ∧
      status.canBecome .cancelled = true ∧ status.canBecome .lost = true := by
  cases status <;> simp_all [JobStatus.isLeased, JobStatus.canBecome]

theorem Step.sameWork {call : JobCall} {outcome : Outcome call.Answer}
    (step : Step limit now job call outcome after) : after.SameWork job :=
  ⟨step.work_eq.1, step.work_eq.2.1, step.work_eq.2.2.1, step.work_eq.2.2.2⟩

theorem Step.moves {call : JobCall} {outcome : Outcome call.Answer}
    (step : Step limit now job call outcome after) : job.Moves now after := by
  cases step with
  | refused => exact .stays
  | repeated => exact .stays
  | kept => exact .stays
  | granted queued ends => exact .crosses (by rw [queued]; rfl)
  | takenOver expired remaining ends =>
      exact .crosses (canBecome_of_leased (leaseExpired_iff.mp expired).1).2.1
  | exhausted expired used =>
      exact .crosses (canBecome_of_leased (leaseExpired_iff.mp expired).1).2.2.2
  | renewed owned live ends =>
      cases status : job.status <;>
        simp only [status, leaseLive_iff, JobStatus.isLeased, Bool.false_eq_true, false_and]
          at live
      case claimed => exact .crosses (by rw [status]; rfl)
      case running => exact .renews status _
  | @completed worker result running owned live =>
      refine .crosses ?_
      rw [running]
      show JobStatus.canBecome .running result.status = true
      unfold JobResult.status
      split <;> rfl
  | cancelled unfinished =>
      refine .crosses ?_
      show job.status.canBecome .cancelled = true
      cases status : job.status <;> simp_all [JobStatus.isTerminal, JobStatus.canBecome]
  | requeued expired remaining =>
      exact .crosses (canBecome_of_leased (leaseExpired_iff.mp expired).1).1
  | lost expired used =>
      exact .crosses (canBecome_of_leased (leaseExpired_iff.mp expired).1).2.2.2

end Job

/-! ## In every run -/

namespace Store.Run

variable {settings : StoreSettings} {history : List Operation} {store : Store}

theorem job_wellFormed (run : Run settings .empty history store) {job : Job}
    (member : job ∈ store.jobs) : job.WellFormed := by
  have found := job?_of_mem run.distinct_from_empty member
  rcases run.job_history rfl found with ⟨target, payload, time, _, jobRun⟩
  exact jobRun.keeps (Job.new_wellFormed _ target payload time) Job.Step.wellFormed

/-- In every run the members of each job fit its status, and each operation
leaves every job it meets in place: with the same work, and with a status that
is the same or one edge further. Where a status is set, it is set along an edge. -/
theorem records_consistent (run : Run settings .empty history store) :
    (∀ job ∈ store.jobs, job.WellFormed) ∧
      ∀ operation ∈ history, ∀ job ∈ operation.before.jobs,
        ∃ later ∈ (operation.after settings).jobs, later.SameWork job ∧
          (later.status = job.status ∨ job.status.canBecome later.status = true) ∧
          job.Moves operation.now later := by
  refine ⟨fun job member => run.job_wellFormed member, ?_⟩
  intro operation member job there
  rcases run.of_mem member with ⟨regular, past, before⟩
  have found := job?_of_mem before.distinct_from_empty there
  cases seen : operation.onJob? job.id with
  | none =>
      have unchanged := operation.job?_after_of_unseen regular found seen
      exact ⟨job, mem_of_job? unchanged, ⟨rfl, rfl, rfl, rfl⟩, .inl rfl, .stays⟩
  | some jobOperation =>
      rcases operation.job?_after_of_seen regular seen with ⟨inTime, changed⟩
      rcases operation.onJob?_eq_some seen with ⟨sameJob, _, sameReading⟩
      have step := JobOperation.step inTime
      rw [found] at sameJob
      rw [← Option.some.inj sameJob, ← sameReading] at step
      exact ⟨_, mem_of_job? changed, step.sameWork, step.moves.status_eq_or_edge, step.moves⟩

/-- In the sample run one job succeeds at its second worker and one is lost. -/
theorem sample_records_consistent :
    Run Sample.settings .empty Sample.history Sample.store ∧
      (∀ job ∈ Sample.store.jobs, job.WellFormed) ∧
      ∀ operation ∈ Sample.history, ∀ job ∈ operation.before.jobs,
        ∃ later ∈ (operation.after Sample.settings).jobs, later.SameWork job ∧
          (later.status = job.status ∨ job.status.canBecome later.status = true) ∧
          job.Moves operation.now later :=
  ⟨Sample.run, Sample.run.records_consistent⟩

end Store.Run

end BuildFleet
