import BuildFleet.Proofs.Job.Expiry
import BuildFleet.Proofs.Job.Keeping
import BuildFleet.Proofs.Store.Run

/-!
# Calls that fail

A call that fails leaves the job as it is, whatever the job is like. There is one
exception: a claim that finds the last attempt used up fails and tells that the job is
lost. A call that says that nothing was done has done nothing, and a job that has ended
is not changed by any call.
-/

namespace BuildFleet

namespace Job

variable {limit : Nat} {now : Instant} {job after : Job} {worker : WorkerId} {failure : Failure}

/-- The job once its last lease is lost. -/
def lostAt (job : Job) (now : Instant) : Job :=
  { job with
    status := .lost, owner := none, leaseExpiry := none, attemptCount := job.attemptCount + 1
    updatedAt := now }

/-- What a claim that fails leaves of a job. -/
inductive Refused (now : Instant) (job : Job) : Failure → Job → Prop
  | unchanged {failure : Failure} (other : ∀ message, failure ≠ .lost message) :
      Refused now job failure job
  | lost {message : String} (leased : job.status.isLeased = true)
      (expired : job.leaseExpired now = true) : Refused now job (.lost message) (job.lostAt now)

/-- A step that fails changes nothing, or it is a claim that uses up the last attempt. -/
theorem Step.of_failed {call : JobCall} {outcome : Outcome call.Answer}
    (step : Step limit now job call outcome after) (failed : outcome = .failed failure) :
    ((∀ message, failure ≠ .lost message) ∧ after = job) ∨
      ∃ worker lease message, call = .claim worker lease ∧ failure = .lost message ∧
        job.leaseExpired now = true ∧ after = job.counted.giveUp now := by
  cases step with
  | refused other =>
      cases failed
      exact .inl ⟨other, rfl⟩
  | exhausted expired =>
      cases failed
      exact .inr ⟨_, _, _, rfl, rfl, expired, rfl⟩
  | _ => cases failed

/-- A call that fails changes nothing unless it is a claim. -/
theorem perform_eq_of_failed (limit : Nat) (call : JobCall)
    (noClaim : ∀ worker lease, call ≠ .claim worker lease)
    (failed : (job.perform limit now call).1 = .failed failure) :
    (job.perform limit now call).2 = job := by
  have inTime : (job.perform limit now call).1 ≠ .outOfTime := by
    rw [failed]
    exact nofun
  rcases (perform_step inTime).of_failed failed with ⟨_, same⟩ | ⟨worker, lease, _, claims, _⟩
  · exact same
  · exact absurd claims (noClaim worker lease)

theorem giveUp_counted (narrow : job.attemptCount + 1 < 4294967296) :
    job.counted.giveUp now = job.lostAt now := by
  have countsUp : countLoss job.attemptCount = job.attemptCount + 1 := Nat.mod_eq_of_lt narrow
  unfold giveUp counted become lostAt
  rw [countsUp]

theorem claim_refused {lease : Span}
    (failed : (job.claim worker lease limit now).1 = .failed failure)
    (narrow : job.leaseExpired now = true → job.attemptCount + 1 < 4294967296) :
    Refused now job failure (job.claim worker lease limit now).2 := by
  have performed : (job.perform limit now (.claim worker lease)).1 = .failed failure :=
    congrArg (Outcome.map fun _ => (job.claim worker lease limit now).2) failed
  have inTime : (job.perform limit now (.claim worker lease)).1 ≠ .outOfTime := by
    rw [performed]
    exact nofun
  have left : (job.perform limit now (.claim worker lease)).2 =
      (job.claim worker lease limit now).2 := rfl
  rw [← left]
  rcases (perform_step inTime).of_failed performed with
    ⟨other, same⟩ | ⟨_, _, message, _, rfl, expired, same⟩
  · rw [same]
    exact .unchanged other
  · rw [same, giveUp_counted (narrow expired)]
    exact .lost (leaseExpired_iff.mp expired).1 expired

theorem complete_duplicate {result : JobResult}
    (repeated : (job.complete worker result now).1 = .done .duplicate) :
    (job.complete worker result now).2 = job := by
  unfold complete at repeated ⊢
  split at repeated
  · rename_i ended
    rw [if_pos ended]
  · split at repeated <;> cases repeated

theorem expire_nothing (nothing : (job.expire limit now).1 = none) :
    (job.expire limit now).2 = job := by
  rcases job.expire_cases limit now with ⟨_, same⟩ | ⟨_, _, returned⟩ | ⟨_, _, lost⟩
  · rw [same]
  · rw [returned] at nothing
    cases nothing
  · rw [lost] at nothing
    cases nothing

/-- Whatever the job is like: a call that fails leaves it as it is, unless it is a claim that
tells that the job is lost; so do an expiry with no outcome and a repeated completion; and no
call at all changes a job that has ended. -/
theorem refusals_change_nothing (limit : Nat) (now : Instant) (job : Job) (worker : WorkerId)
    (lease : Span) (result : JobResult) :
    (∀ failure, (job.claim worker lease limit now).1 = .failed failure →
      (job.leaseExpired now = true → job.attemptCount + 1 < 4294967296) →
      Refused now job failure (job.claim worker lease limit now).2) ∧
    (∀ failure, (job.heartbeat worker now).1 = .failed failure →
      (job.heartbeat worker now).2 = job) ∧
    (∀ failure, (job.complete worker result now).1 = .failed failure →
      (job.complete worker result now).2 = job) ∧
    (∀ failure, (job.cancel now).1 = .failed failure → (job.cancel now).2 = job) ∧
    ((job.expire limit now).1 = none → (job.expire limit now).2 = job) ∧
    ((job.complete worker result now).1 = .done .duplicate →
      (job.complete worker result now).2 = job) ∧
    (job.status.isTerminal = true →
      (job.claim worker lease limit now).2 = job ∧ (job.heartbeat worker now).2 = job ∧
        (job.complete worker result now).2 = job ∧ (job.cancel now).2 = job ∧
        (job.expire limit now).2 = job) := by
  have frozen : job.status.isTerminal = true → ∀ call, (job.perform limit now call).2 = job :=
    fun terminal _ => perform_eq_of_terminal terminal
  refine ⟨fun failure => claim_refused, fun failure => ?_, fun failure => ?_, fun failure => ?_,
    expire_nothing, complete_duplicate, fun terminal => ?_⟩
  · exact perform_eq_of_failed limit (.heartbeat worker) nofun
  · exact perform_eq_of_failed limit (.complete worker result) nofun
  · exact perform_eq_of_failed limit .cancel nofun
  · exact ⟨frozen terminal (.claim worker lease), frozen terminal (.heartbeat worker),
      frozen terminal (.complete worker result), frozen terminal .cancel,
      frozen terminal .expire⟩

end Job

/-! ## A sample job that no run leads to -/

namespace Sample

/-- The job runs under a lease without an end, and has lost one lease before. -/
def strandedJob : Job :=
  { Job.new firstJob ⟨"amd64"⟩ .null (moment 0) with
    status := .running, owner := some ⟨"a"⟩, attemptCount := 1 }

end Sample

theorem Job.sample_refusals :
    let claimed := Sample.strandedJob.claim ⟨"b"⟩ Sample.lease 2 (Sample.moment 9)
    claimed.1 = .failed (.lost
        "job 00000000-0000-0000-0000-000000000001 exhausted 2 attempts") ∧
      Sample.strandedJob.attemptCount + 1 < 4294967296 ∧
      (∃ failure, claimed.1 = .failed failure ∧
        Refused (Sample.moment 9) Sample.strandedJob failure claimed.2) ∧
      claimed.2.status.isTerminal = true ∧ (claimed.2.cancel (Sample.moment 10)).2 = claimed.2 := by
  intro claimed
  have fails : claimed.1 = .failed (.lost
      "job 00000000-0000-0000-0000-000000000001 exhausted 2 attempts") := by decide +kernel
  have ended : claimed.2.status.isTerminal = true := by decide +kernel
  have first := refusals_change_nothing 2 (Sample.moment 9) Sample.strandedJob ⟨"b"⟩ Sample.lease
    (.succeeded none)
  have later := refusals_change_nothing 2 (Sample.moment 10) claimed.2 ⟨"b"⟩ Sample.lease
    (.succeeded none)
  exact ⟨fails, by decide, ⟨_, fails, first.1 _ fails fun _ => by decide⟩, ended,
    (later.2.2.2.2.2.2 ended).2.2.2.1⟩

end BuildFleet
