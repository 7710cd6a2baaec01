import BuildFleet.Job.Result
import BuildFleet.Identity.Basic
import BuildFleet.Target.Basic
import BuildFleet.Time.Rfc3339

/-!
# Jobs and their transitions

The transitions of a job are the single definition of what an operation of the
store may do to it. Each of them answers with an outcome and the job after it.
A transition that computes a time outside the calendar stops where it stands,
with the members it had written before.
-/

namespace BuildFleet

/-- The unit of work. -/
structure Job where
  id : JobId
  target : Target
  /-- The description of the build, opaque to the fleet. -/
  payload : Json
  status : JobStatus
  owner : Option WorkerId
  leaseExpiry : Option Instant
  /-- The length of the lease in milliseconds; heartbeats extend it by as much. -/
  leaseMs : Int
  /-- How many leases on the job have been lost. -/
  attemptCount : Nat
  createdAt : Instant
  updatedAt : Instant
  result : Option JobResult
deriving DecidableEq

/-- What became of a job whose lease had expired. -/
inductive ExpiryOutcome where
  | requeued
  | lost
deriving DecidableEq, Repr

/-- What a report of completion did. -/
inductive Completion where
  | applied
  /-- The same owner had completed the job before; nothing changed. -/
  | duplicate
deriving DecidableEq, Repr

namespace Job

/-- A job that has just been submitted. -/
def new (id : JobId) (target : Target) (payload : Json) (now : Instant) : Job :=
  { id, target, payload, status := .queued, owner := none, leaseExpiry := none, leaseMs := 0
    attemptCount := 0, createdAt := now, updatedAt := now, result := none }

/-! ## Leases -/

/-- A lease is live while the job is leased and the lease ends in the future. -/
def leaseLive (job : Job) (now : Instant) : Bool :=
  job.status.isLeased &&
    match job.leaseExpiry with
    | some expiry => decide (now < expiry)
    | none => false

/-- A leased job whose lease is not live. -/
def leaseExpired (job : Job) (now : Instant) : Bool :=
  job.status.isLeased && !job.leaseLive now

def ownedBy (job : Job) (worker : WorkerId) : Bool := job.owner == some worker

/-- Milliseconds of a lease. Lengths beyond sixty-three bits become the half of
what fits. -/
def leaseMilliseconds (lease : Span) : Int :=
  if lease.milliseconds ≤ 9223372036854775807 then lease.milliseconds
  else 4611686018427387903

/-- The count of lost leases is kept in thirty-two bits. -/
def countLoss (attempts : Nat) : Nat := (attempts + 1) % 4294967296

/-- The job after a change of status. -/
def become (job : Job) (status : JobStatus) (now : Instant) : Job :=
  { job with status, updatedAt := now }

/-! ## Transitions -/

/-- Give the lease of the job to a worker. -/
def grant (job : Job) (worker : WorkerId) (lease : Span) (now : Instant) : Outcome Unit × Job :=
  let leased := { job with owner := some worker, leaseMs := leaseMilliseconds lease }
  match now.addMilliseconds? leased.leaseMs with
  | none => (.outOfTime, leased)
  | some expiry => (.done (), { leased with leaseExpiry := some expiry }.become .claimed now)

/-- The job after the loss of its last attempt. -/
def giveUp (job : Job) (now : Instant) : Job :=
  { job with owner := none, leaseExpiry := none }.become .lost now

/-- Take the lease on a job. An expired lease of another worker counts as a lost
attempt; if it was the last one the job is lost and the claim fails. -/
def claim (job : Job) (worker : WorkerId) (lease : Span) (maxAttempts : Nat) (now : Instant) :
    Outcome Unit × Job :=
  match job.status with
  | .queued => job.grant worker lease now
  | .claimed | .running =>
    if job.leaseExpired now then
      let counted := { job with attemptCount := countLoss job.attemptCount }
      if counted.attemptCount ≥ maxAttempts then
        (.failed (.lost ("job " ++ job.id.text ++ " exhausted " ++ toString maxAttempts ++
          " attempts")), counted.giveUp now)
      else counted.grant worker lease now
    else
      let owner := match job.owner with
        | some owner => owner.text
        | none => "unknown"
      (.failed (.conflict ("job " ++ job.id.text ++ " is leased by " ++ owner)), job)
  | .succeeded | .failed | .cancelled | .lost =>
    (.failed (.conflict ("job " ++ job.id.text ++ " is " ++ job.status.name)), job)

/-- Extend the lease of the owner and answer its new end. The first heartbeat
after a claim sets the job running. -/
def heartbeat (job : Job) (worker : WorkerId) (now : Instant) : Outcome Instant × Job :=
  if !job.ownedBy worker then
    (.failed (.rejected ("job " ++ job.id.text ++ " is not owned by " ++ worker.text)), job)
  else if !job.leaseLive now then
    (.failed (.rejected
      ("job " ++ job.id.text ++ " has no live lease (" ++ job.status.name ++ ")")), job)
  else
    match now.addMilliseconds? job.leaseMs with
    | none => (.outOfTime, job)
    | some expiry =>
      (.done expiry, { job with leaseExpiry := some expiry }.become .running now)

/-- Record the outcome that the owner reports. -/
def complete (job : Job) (worker : WorkerId) (result : JobResult) (now : Instant) :
    Outcome Completion × Job :=
  if (job.status = .succeeded ∨ job.status = .failed) ∧ job.ownedBy worker then
    (.done .duplicate, job)
  else if job.status ≠ .running ∨ ¬ job.ownedBy worker ∨ ¬ job.leaseLive now then
    (.failed (.rejected ("job " ++ job.id.text ++ " cannot be completed by " ++ worker.text ++
      " (" ++ job.status.name ++ ")")), job)
  else
    (.done .applied,
      { job with leaseExpiry := none, result := some result }.become result.status now)

/-- End a job that has not ended yet. -/
def cancel (job : Job) (now : Instant) : Outcome Unit × Job :=
  if job.status.isTerminal then
    (.failed (.alreadyTerminal ("job " ++ job.id.text ++ " is " ++ job.status.name)), job)
  else (.done (), { job with leaseExpiry := none }.become .cancelled now)

/-- Return a job whose lease has expired to the queue, or give it up. Nothing
happens while the lease is live. -/
def expire (job : Job) (maxAttempts : Nat) (now : Instant) : Option ExpiryOutcome × Job :=
  if !job.leaseExpired now then (none, job)
  else
    let counted := { job with
      attemptCount := countLoss job.attemptCount, owner := none, leaseExpiry := none }
    if counted.attemptCount < maxAttempts then
      (some .requeued, counted.become .queued now)
    else (some .lost, counted.become .lost now)

/-! ## JSON form -/

def toJson (job : Job) : Json :=
  .object [
    ("id", job.id.toJson),
    ("target", job.target.toJson),
    ("payload", job.payload),
    ("status", job.status.toJson),
    ("owner", .ofOption WorkerId.toJson job.owner),
    ("lease_expiry", .ofOption Instant.toJson job.leaseExpiry),
    ("lease_ms", .integer job.leaseMs),
    ("attempt_count", .integer job.attemptCount),
    ("created_at", job.createdAt.toJson),
    ("updated_at", job.updatedAt.toJson),
    ("result", .ofOption JobResult.toJson job.result)]

def reader : Json.Reader Job :=
  Json.RecordReader.read
    (Job.mk <$>
      .required "id" JobId.reader <*>
      .required "target" Target.reader <*>
      .required "payload" Json.readValue <*>
      .required "status" JobStatus.reader <*>
      .nullable "owner" WorkerId.reader <*>
      .nullable "lease_expiry" Instant.reader <*>
      .required "lease_ms" Json.readInt64 <*>
      .required "attempt_count" Json.readNat32 <*>
      .required "created_at" Instant.reader <*>
      .required "updated_at" Instant.reader <*>
      .nullable "result" JobResult.reader)
    "Job"

end Job

namespace ExpiryOutcome

def name : ExpiryOutcome → String
  | requeued => "Requeued"
  | lost => "Lost"

def toJson (outcome : ExpiryOutcome) : Json := .string outcome.name

def reader : Json.Reader ExpiryOutcome :=
  Json.readChoice [("Requeued", .requeued), ("Lost", .lost)]

end ExpiryOutcome

end BuildFleet
