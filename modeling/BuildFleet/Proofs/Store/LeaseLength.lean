import BuildFleet.Proofs.Job.Keeping
import BuildFleet.Proofs.Store.Course
import BuildFleet.Proofs.Store.Ends

/-!
# The length of a lease

A job remembers the length of its lease from the claim that gave it out, and renews the
lease by that length until another claim gets through. A claim and a heartbeat compute one
time each, the end of a lease that starts at the reading of the clock.
-/

namespace BuildFleet

/-- The lease that a call gives out, also if it stops before the end is known. -/
def JobCall.lease? : (call : JobCall) → Outcome call.Answer → Option Span
  | .claim _ lease, .done _ | .claim _ lease, .outOfTime => some lease
  | _, _ => none

namespace Job

variable {limit : Nat} {now expiry : Instant} {job : Job} {call : JobCall} {worker : WorkerId}
  {lease : Span}

/-! ## The times that calls compute -/

theorem claim_inTime (limit : Nat) (worker : WorkerId)
    (ends : now.addMilliseconds? (leaseMilliseconds lease) = some expiry) :
    (job.perform limit now (.claim worker lease)).1 ≠ .outOfTime := by
  intro beyond
  simp only [perform] at beyond
  rcases job.status_cases with queued | leased | terminal
  · rw [claim_queued queued, grant_done ends] at beyond
    cases beyond
  · rcases claim_leased limit now worker lease leased with ⟨loss, refusal, answer⟩
    rw [answer, grant_done ends] at beyond
    split at beyond
    · split at beyond <;> cases beyond
    · cases beyond
  · rcases claim_terminal limit now worker lease terminal with ⟨refusal, answer⟩
    rw [answer] at beyond
    cases beyond

theorem heartbeat_inTime (limit : Nat) (worker : WorkerId)
    (ends : now.addMilliseconds? job.leaseMs = some expiry) :
    (job.perform limit now (.heartbeat worker)).1 ≠ .outOfTime := by
  intro beyond
  simp only [perform, heartbeat, ends] at beyond
  split at beyond
  · cases beyond
  · split at beyond <;> cases beyond

/-! ## The length that a job remembers -/

theorem leaseMs_perform (limit : Nat) (now : Instant) (job : Job) (call : JobCall) :
    (job.perform limit now call).2.leaseMs =
      ((call.lease? (job.perform limit now call).1).map leaseMilliseconds).getD job.leaseMs := by
  let Told (outcome : Outcome call.Answer) (after : Job) : Prop :=
    after.leaseMs = ((call.lease? outcome).map leaseMilliseconds).getD job.leaseMs
  have told : Told (job.perform limit now call).1 (job.perform limit now call).2 := by
    refine perform_comes (fun step => ?_) fun halt => ?_
    · cases step with
      | refused => cases call <;> rfl
      | _ => rfl
    · cases halt <;> rfl
  exact told

end Job

namespace Operation

variable {settings : StoreSettings} {id : JobId}

/-- The lease that the operation gives out on the job with this identifier. -/
def lease? (settings : StoreSettings) (id : JobId) (operation : Operation) : Option Span :=
  (operation.onJob? id).bind fun seen => seen.call.lease? (seen.outcome settings.maxAttempts)

theorem leaseMs_after (settings : StoreSettings) (id : JobId) (operation : Operation) :
    (((operation.after settings).job? id).map (·.leaseMs)).getD 0 =
      ((operation.lease? settings id).map Job.leaseMilliseconds).getD
        (((operation.before.job? id).map (·.leaseMs)).getD 0) := by
  unfold lease?
  cases there : operation.before.job? id with
  | none =>
      rw [onJob?_of_absent there]
      cases appeared : (operation.after settings).job? id with
      | none => rfl
      | some job =>
          rcases StoreCall.created?_eq_some (created_of_appeared there appeared) with
            ⟨_, _, _, _, _, rfl⟩
          rfl
  | some job =>
      cases seen : operation.onJob? id with
      | none =>
          rw [job?_after_unseen there seen]
          rfl
      | some jobOperation =>
          rw [job?_after_seen seen]
          rcases onJob?_eq_some seen with ⟨sameJob, _, _⟩
          cases there.symm.trans sameJob
          exact Job.leaseMs_perform _ _ _ _

end Operation

namespace Store

/-- A call on a job that is not there computes no time. -/
theorem perform_inTime {settings : StoreSettings} {now : Instant} {store : Store} {id : JobId}
    (call : JobCall) (inTime : ∀ job, store.job? id = some job →
      (job.perform settings.maxAttempts now call).1 ≠ .outOfTime) :
    (store.perform settings now (call.on id)).1 ≠ .outOfTime := by
  cases found : store.job? id with
  | none =>
      rw [perform_on_missing found]
      nofun
  | some job => exact perform_on_inTime found call (inTime job found)

/-- The lease that was last given out on a job. -/
def lastLease? (settings : StoreSettings) (id : JobId) (history : List Operation) : Option Span :=
  (history.filterMap (Operation.lease? settings id)).getLast?

theorem Course.leaseMs_eq {settings : StoreSettings} {history : List Operation} {last : Store}
    (course : Course settings .empty history last) (id : JobId) :
    ((last.job? id).map (·.leaseMs)).getD 0 =
      ((lastLease? settings id history).map Job.leaseMilliseconds).getD 0 := by
  induction course with
  | start => rfl
  | @step history operation course fresh induction =>
      rw [operation.leaseMs_after, induction]
      unfold lastLease?
      rw [Operation.filterMap_snoc]
      cases operation.lease? settings id <;> simp

end Store

end BuildFleet
