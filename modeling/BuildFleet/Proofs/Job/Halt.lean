import BuildFleet.Proofs.Job.Step

/-!
# Calls that run out of time

A call that computes a time outside the calendar stops where it stands. A claim
has named the new owner by then and has counted the lease that was lost; a
heartbeat has changed nothing, and the other calls compute no time. Together
with `Job.Step` this is all that a call can do to a job.
-/

namespace BuildFleet

namespace Job

/-- The job with a new owner, before the end of the lease is known. -/
def assignedTo (job : Job) (worker : WorkerId) (lease : Span) : Job :=
  { job with owner := some worker, leaseMs := leaseMilliseconds lease }

/-- What a call leaves behind that stops. -/
inductive Halt (limit : Nat) (now : Instant) (job : Job) : JobCall → Job → Prop
  | granting {worker : WorkerId} {lease : Span} (queued : job.status = .queued) :
      Halt limit now job (.claim worker lease) (job.assignedTo worker lease)
  | takingOver {worker : WorkerId} {lease : Span}
      (expired : job.leaseExpired now = true) (remaining : countLoss job.attemptCount < limit) :
      Halt limit now job (.claim worker lease) (job.counted.assignedTo worker lease)
  | renewing {worker : WorkerId} : Halt limit now job (.heartbeat worker) job

variable {limit : Nat} {now : Instant} {job after : Job} {worker : WorkerId} {lease : Span}

theorem grant_halted (beyond : now.addMilliseconds? (leaseMilliseconds lease) = none) :
    job.grant worker lease now = (.outOfTime, job.assignedTo worker lease) := by
  simp only [grant, beyond]
  rfl

theorem grant_cases (job : Job) (worker : WorkerId) (lease : Span) (now : Instant) :
    (∃ expiry, now.addMilliseconds? (leaseMilliseconds lease) = some expiry ∧
      job.grant worker lease now = (.done (), job.leasedTo worker lease expiry now)) ∨
    (now.addMilliseconds? (leaseMilliseconds lease) = none ∧
      job.grant worker lease now = (.outOfTime, job.assignedTo worker lease)) := by
  cases ends : now.addMilliseconds? (leaseMilliseconds lease) with
  | none => exact .inr ⟨rfl, grant_halted ends⟩
  | some expiry => exact .inl ⟨expiry, rfl, grant_done ends⟩

/-- A claim of an expired lease that leaves attempts goes on to grant the job. -/
theorem claim_remaining (worker : WorkerId) (lease : Span) (expired : job.leaseExpired now = true)
    (remaining : countLoss job.attemptCount < limit) :
    job.claim worker lease limit now = job.counted.grant worker lease now := by
  rcases claim_leased limit now worker lease (leaseExpired_iff.mp expired).1 with
    ⟨loss, refusal, answer⟩
  rw [answer, if_pos expired, if_neg (Nat.not_le.mpr remaining)]

theorem claim_used (worker : WorkerId) (lease : Span) (expired : job.leaseExpired now = true)
    (used : limit ≤ countLoss job.attemptCount) :
    ∃ loss, job.claim worker lease limit now =
      (.failed (.lost loss), job.counted.giveUp now) := by
  rcases claim_leased limit now worker lease (leaseExpired_iff.mp expired).1 with
    ⟨loss, refusal, answer⟩
  exact ⟨loss, by rw [answer, if_pos expired, if_pos used]⟩

theorem claim_live (limit : Nat) (worker : WorkerId) (lease : Span)
    (leased : job.status.isLeased = true) (live : job.leaseExpired now = false) :
    ∃ refusal, job.claim worker lease limit now = (.failed (.conflict refusal), job) := by
  rcases claim_leased limit now worker lease leased with ⟨loss, refusal, answer⟩
  exact ⟨refusal, by rw [answer, live, if_neg Bool.false_ne_true]⟩

private theorem grant_halts {granting : Job}
    (beyond : (granting.grant worker lease now).1 = .outOfTime) :
    (granting.grant worker lease now).2 = granting.assignedTo worker lease := by
  rcases granting.grant_cases worker lease now with ⟨expiry, _, granted⟩ | ⟨_, halted⟩
  · rw [granted] at beyond
    cases beyond
  · rw [halted]

private theorem claim_halt
    (beyond : (job.claim worker lease limit now).1 = .outOfTime) :
    Halt limit now job (.claim worker lease) (job.claim worker lease limit now).2 := by
  rcases job.status_cases with queued | leased | terminal
  · rw [claim_queued queued] at beyond ⊢
    rw [grant_halts beyond]
    exact .granting queued
  · cases expired : job.leaseExpired now with
    | false =>
        rcases claim_live limit worker lease leased expired with ⟨refusal, answer⟩
        rw [answer] at beyond
        cases beyond
    | true =>
        rcases Nat.lt_or_ge (countLoss job.attemptCount) limit with remaining | used
        · rw [claim_remaining worker lease expired remaining] at beyond ⊢
          rw [grant_halts beyond]
          exact .takingOver expired remaining
        · rcases claim_used worker lease expired used with ⟨loss, answer⟩
          rw [answer] at beyond
          cases beyond
  · rcases claim_terminal limit now worker lease terminal with ⟨refusal, answer⟩
    rw [answer] at beyond
    cases beyond

private theorem heartbeat_halt (beyond : (job.heartbeat worker now).1 = .outOfTime) :
    (job.heartbeat worker now).2 = job := by
  rcases job.heartbeat_cases worker now with
    ⟨expiry, _, _, _, renews⟩ | ⟨message, _, rejects⟩ | stops
  · rw [renews] at beyond
    cases beyond
  · rw [rejects]
  · rw [stops]

/-- Every call that stops leaves the job in one of the listed states. -/
theorem perform_halt {call : JobCall} (beyond : (job.perform limit now call).1 = .outOfTime) :
    Halt limit now job call (job.perform limit now call).2 := by
  cases call with
  | claim worker lease =>
      have stopped : (job.claim worker lease limit now).1 = .outOfTime := by
        simp only [perform] at beyond
        cases outcome : (job.claim worker lease limit now).1 with
        | done value =>
            rw [outcome] at beyond
            cases beyond
        | failed failure =>
            rw [outcome] at beyond
            cases beyond
        | outOfTime => rfl
      exact claim_halt stopped
  | heartbeat worker =>
      have unchanged : (job.perform limit now (.heartbeat worker)).2 = job :=
        heartbeat_halt beyond
      rw [unchanged]
      exact .renewing
  | complete worker result =>
      simp only [perform, complete] at beyond
      split at beyond
      · cases beyond
      · split at beyond <;> cases beyond
  | cancel =>
      simp only [perform, cancel] at beyond
      split at beyond <;> cases beyond
  | expire => cases beyond

theorem Halt.id_eq {call : JobCall} (halt : Halt limit now job call after) :
    after.id = job.id := by
  cases halt <;> rfl

/-- No call changes the identifier of a job, not even one that stops. -/
theorem perform_id (limit : Nat) (now : Instant) (job : Job) (call : JobCall) :
    (job.perform limit now call).2.id = job.id := by
  by_cases beyond : (job.perform limit now call).1 = .outOfTime
  · exact (perform_halt beyond).id_eq
  · exact (perform_step beyond).id_eq

end Job

end BuildFleet
