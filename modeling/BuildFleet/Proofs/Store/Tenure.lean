import BuildFleet.Proofs.Store.Run

/-!
# Jobs that nobody can take away

A job whose lease is live can be ended by its owner and by a cancellation; all
that others ask of it is refused. A job that has ended stays as it is.
-/

namespace BuildFleet

/-- What is asked of a job, but not in this worker's name. -/
def JobCall.Foreign (worker : WorkerId) : JobCall → Prop
  | .heartbeat other => other ≠ worker
  | .complete other _ => other ≠ worker
  | _ => True

/-- A call that takes a job from its owner, or from the queue. -/
def JobCall.takes : (call : JobCall) → Outcome call.Answer → Bool
  | .claim _ _, .done _ => true
  | .expire, .done (some _) => true
  | _, _ => false

namespace Job

variable {limit : Nat} {now : Instant} {job : Job} {worker : WorkerId} {call : JobCall}

/-- The job has ended, or the worker holds it. -/
def Safe (worker : WorkerId) (now : Instant) (job : Job) : Prop :=
  job.status.isTerminal = true ∨ job.owner = some worker ∧ job.leaseLive now = true

theorem Safe.not_queued (safe : job.Safe worker now) : job.status ≠ .queued := by
  intro queued
  rcases safe with ended | ⟨_, live⟩
  · rw [queued] at ended
    cases ended
  · have leased := (leaseLive_iff.mp live).1
    rw [queued] at leased
    cases leased

theorem Safe.not_expired (safe : job.Safe worker now) : job.leaseExpired now = false := by
  rw [Bool.eq_false_iff]
  intro expired
  rcases safe with ended | ⟨_, live⟩
  · rw [unfinished_of_expired expired] at ended
    cases ended
  · rw [leaseExpired, live, Bool.not_true, Bool.and_false] at expired
    cases expired

/-- A safe job stays as it is, or is cancelled before it has ended. -/
inductive Spared (now : Instant) (job : Job) : Job → Prop
  | same : Spared now job job
  | cancelled (unfinished : job.status.isTerminal = false) : Spared now job (job.cancelledAt now)

theorem Step.spared {outcome : Outcome call.Answer} {after : Job}
    (step : Step limit now job call outcome after) (safe : job.Safe worker now)
    (foreign : job.status.isTerminal = false → call.Foreign worker) :
    Spared now job after ∧ call.takes outcome = false := by
  have current := safe.not_expired
  -- Whoever beats or completes owns the job and so is the worker.
  have owner : job.status.isTerminal = false → job.owner = some worker := by
    intro unfinished
    rcases safe with ended | ⟨ours, _⟩
    · rw [unfinished] at ended
      cases ended
    · exact ours
  cases step with
  | refused => exact ⟨.same, by cases call <;> rfl⟩
  | granted queued => exact absurd queued safe.not_queued
  | takenOver expired => rw [current] at expired; cases expired
  | exhausted expired => rw [current] at expired; cases expired
  | renewed owned live =>
      have unfinished := unfinished_of_live live
      exact absurd (Option.some.inj (owned.symm.trans (owner unfinished))) (foreign unfinished)
  | repeated => exact ⟨.same, rfl⟩
  | completed running owned live =>
      have unfinished := unfinished_of_live live
      exact absurd (Option.some.inj (owned.symm.trans (owner unfinished))) (foreign unfinished)
  | cancelled unfinished => exact ⟨.cancelled unfinished, rfl⟩
  | kept => exact ⟨.same, rfl⟩
  | requeued expired => rw [current] at expired; cases expired
  | lost expired => rw [current] at expired; cases expired

theorem Halt.spared {after : Job} (halt : Halt limit now job call after)
    (safe : job.Safe worker now) : Spared now job after := by
  cases halt with
  | granting queued => exact absurd queued safe.not_queued
  | takingOver expired =>
      rw [safe.not_expired] at expired
      cases expired
  | renewing => exact .same

theorem Safe.perform (safe : job.Safe worker now) (limit : Nat)
    (foreign : job.status.isTerminal = false → call.Foreign worker) :
    Spared now job (job.perform limit now call).2 ∧
      call.takes (job.perform limit now call).1 = false := by
  by_cases beyond : (job.perform limit now call).1 = .outOfTime
  · exact ⟨(perform_halt beyond).spared safe, by rw [beyond]; cases call <;> rfl⟩
  · exact (perform_step beyond).spared safe foreign

theorem Spared.safe {after : Job} (spared : Spared now job after) (safe : job.Safe worker now) :
    after.Safe worker now := by
  cases spared with
  | same => exact safe
  | cancelled => exact .inl rfl

theorem Spared.unfinished {after : Job} (spared : Spared now job after)
    (unfinished : after.status.isTerminal = false) : job.status.isTerminal = false := by
  cases spared with
  | same => exact unfinished
  | cancelled before => exact before

theorem Spared.trans {middle after : Job} (first : Spared now job middle)
    (second : Spared now middle after) : Spared now job after := by
  cases first with
  | same => exact second
  | cancelled unfinished =>
      cases second with
      | same => exact .cancelled unfinished
      | cancelled ended => cases ended

end Job

/-- A call that takes the job with this identifier. -/
def StoreCall.takes (id : JobId) : (call : StoreCall) → Outcome call.Answer → Bool
  | .claim addressee _ _, .done _ => addressee == id
  | .expireLease addressee, .done (some _) => addressee == id
  | _, _ => false

/-- What is asked of the store, but not of this job in this worker's name. -/
def StoreCall.Foreign (id : JobId) (worker : WorkerId) (call : StoreCall) : Prop :=
  ∀ jobCall, call.addressed? = some (id, jobCall) → jobCall.Foreign worker

/-- A call that takes a job is addressed to it. -/
theorem StoreCall.addressed?_of_takes {id : JobId} {call : StoreCall}
    {outcome : Outcome call.Answer} (takes : call.takes id outcome = true) :
    ∃ jobCall, call.addressed? = some (id, jobCall) := by
  cases call <;> try cases takes
  case claim addressee worker lease =>
    cases outcome <;> try cases takes
    exact ⟨.claim worker lease, by rw [addressed?, beq_iff_eq.mp takes]⟩
  case expireLease addressee =>
    rcases outcome with (_ | expired) | _ | _ <;> try cases takes
    exact ⟨.expire, by rw [addressed?, beq_iff_eq.mp takes]⟩

theorem JobCall.takes_report (id : JobId) (call : JobCall) (outcome : Outcome call.Answer) :
    (call.on id).takes id (call.report id outcome) = call.takes outcome := by
  cases call with
  | claim worker lease =>
      cases outcome with
      | done job => exact beq_self_eq_true id
      | failed failure => rfl
      | outOfTime => rfl
  | expire =>
      rcases outcome with (_ | expired) | failure | _
      · rfl
      · exact beq_self_eq_true id
      · rfl
      · rfl
  | heartbeat worker => rfl
  | complete worker result => rfl
  | cancel => rfl

/-- No call in another name harms a safe job, and none at all one that has ended. -/
theorem Store.perform_spares {store : Store} {id : JobId} {job : Job} {now : Instant}
    {worker : WorkerId} {call : StoreCall} (found : store.job? id = some job)
    (safe : job.Safe worker now)
    (foreign : job.status.isTerminal = false → call.Foreign id worker) (settings : StoreSettings) :
    ∃ later, (store.perform settings now call).2.job? id = some later ∧ job.Spared now later ∧
      call.takes id (store.perform settings now call).1 = false := by
  let operation : Operation := ⟨store, now, call⟩
  cases seen : operation.onJob? id with
  | none =>
      refine ⟨job, operation.job?_after_unseen found seen, .same, ?_⟩
      rw [Bool.eq_false_iff]
      intro takes
      rcases StoreCall.addressed?_of_takes takes with ⟨jobCall, addressed⟩
      simp [Operation.onJob?, operation, found, addressed] at seen
  | some jobOperation =>
      rcases Operation.onJob?_eq_some seen with ⟨met, addressed, reading⟩
      rw [show operation.before.job? id = some job from found] at met
      cases met
      rcases jobOperation with ⟨job, reads, jobCall⟩
      cases reading
      rcases safe.perform settings.maxAttempts fun unfinished => foreign unfinished _ addressed with
        ⟨spared, untaken⟩
      refine ⟨_, operation.job?_after_seen seen, spared, ?_⟩
      rw [← JobCall.takes_report id, ← Store.perform_on found jobCall] at untaken
      cases StoreCall.eq_on_of_addressed addressed
      exact untaken

/-- A claim that is granted answers the job as the store keeps it from then on. -/
theorem Store.claim_granted {store : Store} {settings : StoreSettings} {now : Instant} {id : JobId}
    {worker : WorkerId} {lease : Span} {job : Job}
    (done : (store.perform settings now (.claim id worker lease)).1 = .done job) :
    (store.perform settings now (.claim id worker lease)).2.job? id = some job ∧
      ∃ before, store.job? id = some before ∧
        Job.Step settings.maxAttempts now before (.claim worker lease) (.done job) job := by
  rcases mutate_done done with ⟨before, found, answered⟩
  let performed := before.perform settings.maxAttempts now (.claim worker lease)
  have granted : performed.1 = .done job := answered
  have left : (store.perform settings now (.claim id worker lease)).2.job? id = some performed.2 :=
    job?_mutate_self found (Job.perform_id settings.maxAttempts now before (.claim worker lease))
  have step : Job.Step settings.maxAttempts now before (.claim worker lease) performed.1
      performed.2 := Job.perform_step (by rw [show _ = _ from granted]; nofun)
  have answer : performed.2 = job := by
    rw [granted] at step
    generalize performed.2 = after at step
    cases step <;> rfl
  rw [granted, answer] at step
  exact ⟨answer ▸ left, before, found, step⟩

end BuildFleet
