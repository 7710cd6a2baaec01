import BuildFleet.Job.Event
import BuildFleet.Worker.Info
import BuildFleet.Target.Registry

/-!
# The job store

The store holds every job, the outbox of events that front-ends have yet to
hear of, the workers seen so far, and when queued jobs were last published
again. Each operation reads the clock once and takes effect as a whole; what it
may do to a job is decided by the job's transitions.
-/

namespace BuildFleet

/-- What a store is set up with. -/
structure StoreSettings where
  /-- The targets of the jobs that can be made. -/
  targets : TargetRegistry
  /-- After so many lost leases a job is given up. -/
  maxAttempts : Nat
deriving DecidableEq, Repr

/-- An event and whether it has been delivered. -/
structure OutboxEntry where
  event : JobEvent
  delivered : Bool
deriving DecidableEq

structure Store where
  /-- The jobs, the oldest first. -/
  jobs : List Job
  /-- The events, the oldest first. They are numbered from one. -/
  outbox : List OutboxEntry
  /-- The workers, in ascending order of their identities. -/
  known : List WorkerInfo
  /-- When queued jobs were last published again. -/
  published : List (JobId × Instant)
deriving DecidableEq

namespace Store

def empty : Store := ⟨[], [], [], []⟩

/-- The job with this identifier. -/
def job? (store : Store) (id : JobId) : Option Job := store.jobs.find? (·.id == id)

def missing (id : JobId) : Failure := .notFound ("job " ++ id.text)

/-- Put a job in the place of the one with its identifier. -/
def replace (store : Store) (changed : Job) : Store :=
  { store with jobs := store.jobs.map fun job => if job.id = changed.id then changed else job }

/-- Leave an event for a job that has just reached a terminal status. -/
def announce (store : Store) (job : Job) (now : Instant) : Store :=
  let number := (store.outbox.length : Int) + 1
  { store with outbox := store.outbox ++ [⟨.ofJob number job now, false⟩] }

/-- Let a transition act on one job. The job is kept as the transition leaves
it, whatever the outcome, and a new terminal status leaves an event. -/
def mutate (store : Store) (id : JobId) (transition : Job → Outcome α × Job) (now : Instant) :
    Outcome α × Store :=
  match store.job? id with
  | none => (.failed (missing id), store)
  | some before =>
    let (outcome, after) := transition before
    let changed := store.replace after
    match outcome with
    | .outOfTime => (.outOfTime, changed)
    | .done _ | .failed _ =>
      if after.status ≠ before.status ∧ after.status.isTerminal then
        (outcome, changed.announce after now)
      else (outcome, changed)

/-! ## Jobs -/

/-- Make a queued job under a fresh identifier. -/
def create (settings : StoreSettings) (store : Store) (id : JobId) (target : Target)
    (payload : Json) (now : Instant) : Outcome JobId × Store :=
  if settings.targets.contains target then
    (.done id, { store with jobs := store.jobs ++ [Job.new id target payload now] })
  else (.failed (.invalidTarget target.name), store)

def get (store : Store) (id : JobId) : Outcome Job :=
  match store.job? id with
  | some job => .done job
  | none => .failed (missing id)

/-- Take the lease on a job and answer the job as it is then. -/
def claim (settings : StoreSettings) (store : Store) (id : JobId) (worker : WorkerId)
    (lease : Span) (now : Instant) : Outcome Job × Store :=
  store.mutate id (fun job =>
    let (outcome, job) := job.claim worker lease settings.maxAttempts now
    (outcome.map fun _ => job, job)) now

/-- Extend a lease and answer its new end. -/
def heartbeat (store : Store) (id : JobId) (worker : WorkerId) (now : Instant) :
    Outcome Instant × Store :=
  store.mutate id (fun job => job.heartbeat worker now) now

/-- Record the outcome of a job. -/
def complete (store : Store) (id : JobId) (worker : WorkerId) (result : JobResult)
    (now : Instant) : Outcome Completion × Store :=
  store.mutate id (fun job => job.complete worker result now) now

/-- End a job that has not ended yet. -/
def cancel (store : Store) (id : JobId) (now : Instant) : Outcome Unit × Store :=
  store.mutate id (fun job => job.cancel now) now

/-! ## Expired leases -/

/-- Order by the end of the lease; a leased job without one comes first. -/
def endsNoLater (left right : Job) : Bool :=
  match left.leaseExpiry, right.leaseExpiry with
  | none, _ => true
  | some _, none => false
  | some left, some right => decide (left ≤ right)

/-- The jobs whose lease has expired, the longest expired first. -/
def expiredLeases (store : Store) (limit : Int) (now : Instant) : List Job :=
  ((store.jobs.filter (·.leaseExpired now)).mergeSort endsNoLater).take limit.toNat

/-- Return a job whose lease has expired to the queue, or give it up. -/
def expireLease (settings : StoreSettings) (store : Store) (id : JobId) (now : Instant) :
    Outcome (Option ExpiryOutcome) × Store :=
  store.mutate id (fun job =>
    let (outcome, job) := job.expire settings.maxAttempts now
    (.done outcome, job)) now

/-! ## Queued jobs that nobody took -/

/-- When a job was last made known: creation and return to the queue count too. -/
def lastPublished (store : Store) (job : Job) : Instant :=
  match store.published.lookup job.id with
  | some mark => mark.later job.updatedAt
  | none => job.updatedAt

/-- The queued jobs that were not made known after an instant. -/
def staleJobs (store : Store) (cutoff : Instant) : List Job :=
  store.jobs.filter fun job =>
    job.status == .queued && decide (store.lastPublished job ≤ cutoff)

/-- Order by the last publication, then by identifier. -/
def publishedNoLater (store : Store) (left right : Job) : Bool :=
  let leftMark := store.lastPublished left
  let rightMark := store.lastPublished right
  decide (leftMark < rightMark) ||
    (decide (leftMark = rightMark) && decide (left.id.number ≤ right.id.number))

/-- Note that a job has been published. -/
def mark (store : Store) (id : JobId) (now : Instant) : Store :=
  { store with published := (id, now) :: store.published.filter (·.1 ≠ id) }

/-- Forget the marks of jobs that are not queued any more. -/
def pruneMarks (store : Store) : Store :=
  { store with published := store.published.filter fun entry =>
      match store.job? entry.1 with
      | some job => job.status == .queued
      | none => false }

/-- Queued jobs that were not published for a while, the longest unpublished
first. They count as published from now on. -/
def staleQueued (store : Store) (olderThan : Span) (limit : Int) (now : Instant) :
    Outcome (List Job) × Store :=
  match now.before? olderThan with
  | none => (.outOfTime, store)
  | some cutoff =>
    let stale := ((store.staleJobs cutoff).mergeSort store.publishedNoLater).take limit.toNat
    (.done stale, stale.foldl (fun store job => store.mark job.id now) store.pruneMarks)

/-! ## The outbox -/

/-- Events that were not delivered yet, the oldest first. -/
def pendingEvents (store : Store) (limit : Int) : List JobEvent :=
  ((store.outbox.filter (!·.delivered)).take limit.toNat).map (·.event)

/-- Note that an event has been delivered. -/
def acknowledge (store : Store) (number : Int) : Outcome Unit × Store :=
  if store.outbox.any (·.event.number == number) then
    (.done (), { store with outbox := store.outbox.map fun entry =>
      if entry.event.number = number then { entry with delivered := true } else entry })
  else (.failed (.notFound ("event " ++ toString number)), store)

/-! ## Workers -/

/-- Put a worker in its place by identity. -/
def insertWorker (info : WorkerInfo) : List WorkerInfo → List WorkerInfo
  | [] => [info]
  | head :: tail =>
    if info.id = head.id then info :: tail
    else if info.id < head.id then info :: head :: tail
    else head :: insertWorker info tail

/-- Note that a worker is alive now. -/
def recordWorker (store : Store) (info : WorkerInfo) (now : Instant) : Store :=
  { store with known := insertWorker { info with lastSeen := now } store.known }

/-- The workers seen within a span before now. -/
def workers (store : Store) (within : Span) (now : Instant) : Outcome (List WorkerInfo) :=
  match now.before? within with
  | none => .outOfTime
  | some cutoff => .done (store.known.filter fun info => decide (cutoff ≤ info.lastSeen))

/-! ## The load of targets -/

def countWhere (store : Store) (target : Target) (holds : JobStatus → Bool) : Int :=
  (store.jobs.filter fun job => job.target == target && holds job.status).length

/-- Queued and leased jobs of every target that has any, by target. -/
def summary (store : Store) : List TargetSummary :=
  let live := store.jobs.filter (!·.status.isTerminal)
  (Ordered.ofList (live.map (·.target))).map fun target =>
    { target
      queued := store.countWhere target (· == .queued)
      running := store.countWhere target JobStatus.isLeased }

end Store

end BuildFleet
