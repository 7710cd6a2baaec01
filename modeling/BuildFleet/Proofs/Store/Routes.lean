import BuildFleet.Proofs.Store.Course
import BuildFleet.Proofs.Store.Expiry

/-!
# Where a job belongs

A job keeps the target that it was made for, whatever is asked of it and even if
a call stops halfway. So it never changes which target an identifier belongs to,
and what the store answers about a job tells its target for good.
-/

namespace BuildFleet

theorem Job.Halt.target_eq {limit : Nat} {now : Instant} {job after : Job} {call : JobCall}
    (halt : Halt limit now job call after) : after.target = job.target := by
  cases halt <;> rfl

theorem Job.perform_target (limit : Nat) (now : Instant) (job : Job) (call : JobCall) :
    (job.perform limit now call).2.target = job.target := by
  by_cases beyond : (job.perform limit now call).1 = .outOfTime
  · exact (perform_halt beyond).target_eq
  · exact (perform_step beyond).work_eq.2.1

namespace Store

variable {store : Store} {settings : StoreSettings} {now : Instant} {id : JobId}
  {target other : Target} {job : Job}

/-- The job with this identifier was made for this target. -/
def Routes (store : Store) (id : JobId) (target : Target) : Prop :=
  ∃ job, store.job? id = some job ∧ job.target = target

theorem Routes.unique (routes : store.Routes id target) (again : store.Routes id other) :
    target = other := by
  rcases routes with ⟨job, found, rfl⟩
  rcases again with ⟨_, same, rfl⟩
  rw [found] at same
  rw [Option.some.inj same]

/-- No call sends a job elsewhere. -/
theorem Routes.perform (routes : store.Routes id target) (settings : StoreSettings)
    (now : Instant) (call : StoreCall) :
    (store.perform settings now call).2.Routes id target := by
  rcases routes with ⟨job, found, rfl⟩
  let operation : Operation := ⟨store, now, call⟩
  cases seen : operation.onJob? id with
  | none => exact ⟨job, operation.job?_after_unseen found seen, rfl⟩
  | some jobOperation =>
      have met := (Operation.onJob?_eq_some seen).1
      rw [show operation.before.job? id = some job from found] at met
      cases met
      exact ⟨_, operation.job?_after_seen seen, Job.perform_target _ _ _ _⟩

theorem routes_of_mem (distinct : (store.jobs.map (·.id)).Nodup) (member : job ∈ store.jobs) :
    store.Routes job.id job.target := ⟨job, job?_of_mem distinct member, rfl⟩

/-- A job belongs where it is made, under an identifier that no other job has. -/
theorem routes_of_create {payload : Json} {made : JobId} (absent : store.job? id = none)
    (done : (store.perform settings now (.create id target payload)).1 = .done made) :
    made = id ∧ (store.perform settings now (.create id target payload)).2.Routes id target := by
  simp only [perform, create] at done ⊢
  split at done
  · rename_i accepted
    cases done
    refine ⟨rfl, Job.new id target payload now, ?_, rfl⟩
    rw [if_pos accepted, job?, List.find?_append, ← job?, absent]
    simp [Job.new]
  · cases done

/-- A claim answers the job as it is then. -/
theorem routes_of_claim {worker : WorkerId} {lease : Span}
    (done : (store.perform settings now (.claim id worker lease)).1 = .done job) :
    job.id = id ∧ (store.perform settings now (.claim id worker lease)).2.Routes id job.target := by
  rcases mutate_done done with ⟨before, found, answered⟩
  have answer : (before.claim worker lease settings.maxAttempts now).2 = job := by
    generalize before.claim worker lease settings.maxAttempts now = result at answered
    rcases result with ⟨_ | _ | _, after⟩ <;> cases answered
    rfl
  have kept : job.id = before.id := by
    rw [← answer]
    exact Job.perform_id settings.maxAttempts now before (.claim worker lease)
  refine ⟨kept.trans (job?_id found), job, ?_, rfl⟩
  rw [← answer] at kept ⊢
  exact job?_mutate_self found kept

/-- The jobs that a scan is told of are jobs of the store. -/
theorem mem_of_expiredLeases {limit : Int} {jobs : List Job}
    (done : (store.perform settings now (.expiredLeases limit)).1 = .done jobs)
    (member : job ∈ jobs) : job ∈ store.jobs := by
  cases done
  exact (mem_expiredLeases member).1

theorem mem_of_staleQueued {olderThan : Span} {limit : Int} {jobs : List Job}
    (done : (store.perform settings now (.staleQueued olderThan limit)).1 = .done jobs)
    (member : job ∈ jobs) : job ∈ store.jobs := by
  simp only [perform] at done
  cases moved : now.before? olderThan with
  | none =>
      simp only [staleQueued, moved] at done
      cases done
  | some cutoff =>
      rw [staleQueued_eq moved] at done
      cases done
      exact (mem_backlog.mp (List.mem_of_mem_take member)).1

end Store

end BuildFleet
