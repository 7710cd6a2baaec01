import BuildFleet.Job.Basic
import BuildFleet.Proofs.Time.Order

/-!
# What a call does to a job

Five calls of the store are addressed to one job: claim, heartbeat, completion,
cancellation and expiry. `Job.perform` carries one of them out, and `Job.Step`
lists all that can come of it. Every law of jobs is a case analysis of
`Job.Step`; none of them opens a transition again.
-/

namespace BuildFleet

/-- A call that is addressed to one job. -/
inductive JobCall where
  | claim (worker : WorkerId) (lease : Span)
  | heartbeat (worker : WorkerId)
  | complete (worker : WorkerId) (result : JobResult)
  | cancel
  | expire
deriving DecidableEq

@[reducible]
def JobCall.Answer : JobCall → Type
  | claim _ _ => Job
  | heartbeat _ => Instant
  | complete _ _ => Completion
  | cancel => Unit
  | expire => Option ExpiryOutcome

namespace Job

/-- Carry out a call on a job that is given up after `limit` lost leases. -/
def perform (limit : Nat) (now : Instant) (job : Job) :
    (call : JobCall) → Outcome call.Answer × Job
  | .claim worker lease =>
    let (outcome, job) := job.claim worker lease limit now
    (outcome.map fun _ => job, job)
  | .heartbeat worker => job.heartbeat worker now
  | .complete worker result => job.complete worker result now
  | .cancel => job.cancel now
  | .expire =>
    let (outcome, job) := job.expire limit now
    (.done outcome, job)

/-! ## The job after each kind of change -/

def leasedTo (job : Job) (worker : WorkerId) (lease : Span) (expiry now : Instant) : Job :=
  { job with
    owner := some worker, leaseMs := leaseMilliseconds lease, leaseExpiry := some expiry
    status := .claimed, updatedAt := now }

def counted (job : Job) : Job := { job with attemptCount := countLoss job.attemptCount }

def renewedUntil (job : Job) (expiry now : Instant) : Job :=
  { job with leaseExpiry := some expiry, status := .running, updatedAt := now }

def endedWith (job : Job) (result : JobResult) (now : Instant) : Job :=
  { job with leaseExpiry := none, result := some result, status := result.status, updatedAt := now }

def cancelledAt (job : Job) (now : Instant) : Job :=
  { job with leaseExpiry := none, status := .cancelled, updatedAt := now }

def requeuedAt (job : Job) (now : Instant) : Job :=
  { job.counted with owner := none, leaseExpiry := none, status := .queued, updatedAt := now }

/-! ## Leases -/

theorem leaseLive_iff {job : Job} {now : Instant} :
    job.leaseLive now = true ↔
      job.status.isLeased = true ∧ ∃ expiry, job.leaseExpiry = some expiry ∧ now < expiry := by
  unfold leaseLive
  cases job.leaseExpiry <;> simp

theorem leaseExpired_iff {job : Job} {now : Instant} :
    job.leaseExpired now = true ↔
      job.status.isLeased = true ∧
        ∀ expiry, job.leaseExpiry = some expiry → expiry ≤ now := by
  unfold leaseExpired leaseLive
  cases job.leaseExpiry <;> cases job.status.isLeased <;> simp

theorem ownedBy_iff {job : Job} {worker : WorkerId} :
    job.ownedBy worker = true ↔ job.owner = some worker := by
  simp [ownedBy]

theorem leaseMilliseconds_nonneg (lease : Span) : 0 ≤ leaseMilliseconds lease := by
  unfold leaseMilliseconds
  split <;> omega

/-! ## All that can come of a call -/

/-- What a call can answer and leave behind, if no time leaves the calendar. -/
inductive Step (limit : Nat) (now : Instant) (job : Job) :
    (call : JobCall) → Outcome call.Answer → Job → Prop
  /-- A failure that does not tell of a lost job changes nothing. -/
  | refused {call : JobCall} {failure : Failure} (other : ∀ message, failure ≠ .lost message) :
      Step limit now job call (.failed failure) job
  | granted {worker : WorkerId} {lease : Span} {expiry : Instant}
      (queued : job.status = .queued)
      (ends : now.addMilliseconds? (leaseMilliseconds lease) = some expiry) :
      Step limit now job (.claim worker lease)
        (.done (job.leasedTo worker lease expiry now)) (job.leasedTo worker lease expiry now)
  | takenOver {worker : WorkerId} {lease : Span} {expiry : Instant}
      (expired : job.leaseExpired now = true) (remaining : countLoss job.attemptCount < limit)
      (ends : now.addMilliseconds? (leaseMilliseconds lease) = some expiry) :
      Step limit now job (.claim worker lease)
        (.done (job.counted.leasedTo worker lease expiry now))
        (job.counted.leasedTo worker lease expiry now)
  | exhausted {worker : WorkerId} {lease : Span} {message : String}
      (expired : job.leaseExpired now = true) (used : limit ≤ countLoss job.attemptCount) :
      Step limit now job (.claim worker lease) (.failed (.lost message)) (job.counted.giveUp now)
  | renewed {worker : WorkerId} {expiry : Instant}
      (owned : job.owner = some worker) (live : job.leaseLive now = true)
      (ends : now.addMilliseconds? job.leaseMs = some expiry) :
      Step limit now job (.heartbeat worker) (.done expiry) (job.renewedUntil expiry now)
  | repeated {worker : WorkerId} {result : JobResult}
      (ended : job.status = .succeeded ∨ job.status = .failed) (owned : job.owner = some worker) :
      Step limit now job (.complete worker result) (.done .duplicate) job
  | completed {worker : WorkerId} {result : JobResult}
      (running : job.status = .running) (owned : job.owner = some worker)
      (live : job.leaseLive now = true) :
      Step limit now job (.complete worker result) (.done .applied) (job.endedWith result now)
  | cancelled (unfinished : job.status.isTerminal = false) :
      Step limit now job .cancel (.done ()) (job.cancelledAt now)
  | kept (current : job.leaseExpired now = false) :
      Step limit now job .expire (.done none) job
  | requeued (expired : job.leaseExpired now = true)
      (remaining : countLoss job.attemptCount < limit) :
      Step limit now job .expire (.done (some .requeued)) (job.requeuedAt now)
  | lost (expired : job.leaseExpired now = true) (used : limit ≤ countLoss job.attemptCount) :
      Step limit now job .expire (.done (some .lost)) (job.counted.giveUp now)

variable {limit : Nat} {now : Instant} {job : Job}

theorem grant_done {worker : WorkerId} {lease : Span} {expiry : Instant}
    (ends : now.addMilliseconds? (leaseMilliseconds lease) = some expiry) :
    job.grant worker lease now = (.done (), job.leasedTo worker lease expiry now) := by
  simp only [grant, ends]
  rfl

theorem grant_outOfTime {worker : WorkerId} {lease : Span}
    (beyond : now.addMilliseconds? (leaseMilliseconds lease) = none) :
    (job.grant worker lease now).1 = .outOfTime := by
  simp only [grant, beyond]

theorem claim_queued {worker : WorkerId} {lease : Span} (queued : job.status = .queued) :
    job.claim worker lease limit now = job.grant worker lease now := by
  simp only [claim, queued]

theorem claim_leased (limit : Nat) (now : Instant) (worker : WorkerId) (lease : Span)
    (leased : job.status.isLeased = true) :
    ∃ loss refusal, job.claim worker lease limit now =
      if job.leaseExpired now = true then
        if limit ≤ countLoss job.attemptCount then
          (.failed (.lost loss), job.counted.giveUp now)
        else job.counted.grant worker lease now
      else (.failed (.conflict refusal), job) := by
  unfold claim
  split
  · rename_i queued
    simp [queued, JobStatus.isLeased] at leased
  · exact ⟨_, _, rfl⟩
  · exact ⟨_, _, rfl⟩
  all_goals
    rename_i ended
    simp [ended, JobStatus.isLeased] at leased

theorem claim_terminal (limit : Nat) (now : Instant) (worker : WorkerId) (lease : Span)
    (terminal : job.status.isTerminal = true) :
    ∃ refusal, job.claim worker lease limit now = (.failed (.conflict refusal), job) := by
  unfold claim
  split
  · rename_i queued
    simp [queued, JobStatus.isTerminal] at terminal
  · rename_i claimed
    simp [claimed, JobStatus.isTerminal] at terminal
  · rename_i running
    simp [running, JobStatus.isTerminal] at terminal
  all_goals exact ⟨_, rfl⟩

/-- A job is queued, leased or ended. -/
theorem status_cases (job : Job) :
    job.status = .queued ∨ job.status.isLeased = true ∨ job.status.isTerminal = true := by
  cases job.status <;> simp [JobStatus.isLeased, JobStatus.isTerminal]

private theorem claim_step {worker : WorkerId} {lease : Span}
    (inTime : (job.perform limit now (.claim worker lease)).1 ≠ .outOfTime) :
    Step limit now job (.claim worker lease) (job.perform limit now (.claim worker lease)).1
      (job.perform limit now (.claim worker lease)).2 := by
  simp only [perform] at inTime ⊢
  rcases job.status_cases with queued | leased | terminal
  · rw [claim_queued queued] at inTime ⊢
    cases ends : now.addMilliseconds? (leaseMilliseconds lease) with
    | none => exact absurd (by rw [grant_outOfTime ends]; rfl) inTime
    | some expiry =>
        rw [grant_done ends]
        exact .granted queued ends
  · rcases claim_leased limit now worker lease leased with ⟨loss, refusal, answer⟩
    rw [answer] at inTime ⊢
    by_cases expired : job.leaseExpired now = true
    · simp only [expired, if_true] at inTime ⊢
      by_cases used : limit ≤ countLoss job.attemptCount
      · simp only [used, if_true]
        exact .exhausted expired used
      · simp only [used, if_false] at inTime ⊢
        cases ends : now.addMilliseconds? (leaseMilliseconds lease) with
        | none => exact absurd (by rw [grant_outOfTime ends]; rfl) inTime
        | some expiry =>
            rw [grant_done ends]
            exact .takenOver expired (Nat.lt_of_not_le used) ends
    · simp only [expired]
      exact .refused (by simp)
  · rcases claim_terminal limit now worker lease terminal with ⟨refusal, answer⟩
    rw [answer]
    exact .refused (by simp)

/-- A heartbeat extends the lease that the worker holds, and it is rejected if there is
none, unless a time lies outside the calendar. -/
theorem heartbeat_cases (job : Job) (worker : WorkerId) (now : Instant) :
    (∃ expiry, job.owner = some worker ∧ job.leaseLive now = true ∧
        now.addMilliseconds? job.leaseMs = some expiry ∧
        job.heartbeat worker now = (.done expiry, job.renewedUntil expiry now)) ∨
      (∃ message, (job.owner = some worker → job.leaseLive now = false) ∧
        job.heartbeat worker now = (.failed (.rejected message), job)) ∨
      job.heartbeat worker now = (.outOfTime, job) := by
  unfold heartbeat
  split
  · rename_i foreign
    refine .inr (.inl ⟨_, fun owned => ?_, rfl⟩)
    simp [ownedBy, owned] at foreign
  · rename_i owned
    split
    · rename_i dead
      exact .inr (.inl ⟨_, fun _ => by simpa using dead, rfl⟩)
    · rename_i live
      simp only [Bool.not_eq_true', Bool.not_eq_false] at owned live
      split
      · exact .inr (.inr rfl)
      · rename_i expiry ends
        exact .inl ⟨expiry, ownedBy_iff.mp owned, live, ends, rfl⟩

private theorem heartbeat_step {worker : WorkerId}
    (inTime : (job.perform limit now (.heartbeat worker)).1 ≠ .outOfTime) :
    Step limit now job (.heartbeat worker) (job.perform limit now (.heartbeat worker)).1
      (job.perform limit now (.heartbeat worker)).2 := by
  simp only [perform] at inTime ⊢
  rcases job.heartbeat_cases worker now with
    ⟨expiry, owned, live, ends, renews⟩ | ⟨message, _, rejects⟩ | beyond
  · rw [renews]
    exact .renewed owned live ends
  · rw [rejects]
    exact .refused (by simp)
  · rw [beyond] at inTime
    exact absurd rfl inTime

private theorem complete_step {worker : WorkerId} {result : JobResult} :
    Step limit now job (.complete worker result)
      (job.perform limit now (.complete worker result)).1
      (job.perform limit now (.complete worker result)).2 := by
  simp only [perform, complete]
  split
  · rename_i ended
    exact .repeated ended.1 (ownedBy_iff.mp ended.2)
  · split
    · exact .refused (by simp)
    · rename_i accepted
      simp only [not_or, Decidable.not_not] at accepted
      exact .completed accepted.1 (ownedBy_iff.mp accepted.2.1) accepted.2.2

private theorem cancel_step :
    Step limit now job .cancel (job.perform limit now .cancel).1
      (job.perform limit now .cancel).2 := by
  simp only [perform, cancel]
  split
  · exact .refused (by simp)
  · rename_i unfinished
    exact .cancelled (Bool.eq_false_iff.mpr unfinished)

private theorem expire_step :
    Step limit now job .expire (job.perform limit now .expire).1
      (job.perform limit now .expire).2 := by
  simp only [perform, expire]
  cases expired : job.leaseExpired now with
  | false => exact .kept expired
  | true =>
      simp only [Bool.not_true, Bool.false_eq_true, if_false]
      split
      · rename_i remaining
        exact .requeued expired remaining
      · rename_i used
        exact .lost expired (Nat.le_of_not_lt used)

/-- Every call that stays inside the calendar is one of the listed steps. -/
theorem perform_step {call : JobCall} (inTime : (job.perform limit now call).1 ≠ .outOfTime) :
    Step limit now job call (job.perform limit now call).1 (job.perform limit now call).2 := by
  cases call with
  | claim worker lease => exact claim_step inTime
  | heartbeat worker => exact heartbeat_step inTime
  | complete worker result => exact complete_step
  | cancel => exact cancel_step
  | expire => exact expire_step

/-! ## What every step keeps -/

theorem unfinished_of_leased (leased : job.status.isLeased = true) :
    job.status.isTerminal = false := by
  cases status : job.status <;> simp_all [JobStatus.isLeased, JobStatus.isTerminal]

theorem unfinished_of_expired (expired : job.leaseExpired now = true) :
    job.status.isTerminal = false := unfinished_of_leased (leaseExpired_iff.mp expired).1

theorem unfinished_of_live (live : job.leaseLive now = true) :
    job.status.isTerminal = false := unfinished_of_leased (leaseLive_iff.mp live).1

/-- No step leaves a terminal status or changes a job in one. -/
theorem Step.eq_of_terminal {call : JobCall} {outcome : Outcome call.Answer} {after : Job}
    (step : Step limit now job call outcome after) (terminal : job.status.isTerminal = true) :
    after = job := by
  cases step with
  | refused => rfl
  | repeated => rfl
  | kept => rfl
  | granted queued ends =>
      rw [queued] at terminal
      cases terminal
  | takenOver expired remaining ends =>
      rw [unfinished_of_expired expired] at terminal
      cases terminal
  | exhausted expired used =>
      rw [unfinished_of_expired expired] at terminal
      cases terminal
  | renewed owned live ends =>
      rw [unfinished_of_live live] at terminal
      cases terminal
  | completed running owned live =>
      rw [running] at terminal
      cases terminal
  | cancelled unfinished =>
      rw [unfinished] at terminal
      cases terminal
  | requeued expired remaining =>
      rw [unfinished_of_expired expired] at terminal
      cases terminal
  | lost expired used =>
      rw [unfinished_of_expired expired] at terminal
      cases terminal

/-- A step changes neither what the job is nor when it was made. -/
theorem Step.work_eq {call : JobCall} {outcome : Outcome call.Answer} {after : Job}
    (step : Step limit now job call outcome after) :
    after.id = job.id ∧ after.target = job.target ∧ after.payload = job.payload ∧
      after.createdAt = job.createdAt := by
  cases step <;> exact ⟨rfl, rfl, rfl, rfl⟩

theorem Step.id_eq {call : JobCall} {outcome : Outcome call.Answer} {after : Job}
    (step : Step limit now job call outcome after) : after.id = job.id := step.work_eq.1

end Job

end BuildFleet
