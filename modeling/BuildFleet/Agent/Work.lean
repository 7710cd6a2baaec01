import BuildFleet.Backoff
import BuildFleet.Services.Basic

/-!
# The work of an agent on one job

An agent claims a job, takes the first heartbeat, starts the build and watches
over it until it ends, runs out of time, loses its lease or is shut down; then
it reports what came of it. The work is a machine: a stage says what the agent
does next, and an event says what came of that.
-/

namespace BuildFleet

/-- An agent: who it is, and how it holds leases and runs builds. -/
structure Agent where
  info : WorkerInfo
  lease : Span
  /-- The time between heartbeats. -/
  heartbeat : Span
  buildTimeout : Span
  /-- Extra environment variables of every build. -/
  environment : List (String × String)
deriving DecidableEq

namespace Agent

/-- What the agent asks the build environment to run for a job. -/
def buildSpec (agent : Agent) (job : Job) : BuildSpec :=
  { jobId := job.id, target := job.target, payload := job.payload
    environment := agent.environment, timeout := some agent.buildTimeout }

end Agent

/-- What ends the watch over a build, or interrupts it for a heartbeat. -/
inductive BuildSignal where
  | shutdown
  | exited (outcome : Except Failure BuildOutput)
  | deadline
  | tick

/-- Why an agent kills a build. -/
inductive KillReason where
  | timedOut
  /-- A heartbeat was rejected. -/
  | rejected
  | shutdown
deriving DecidableEq, Repr

/-- The stages of the work on one job. -/
inductive Work where
  | claiming
  /-- Taking the first heartbeat, which sets the job running. -/
  | beginning (job : Job)
  | spawning (spec : BuildSpec)
  | openingLogs (handle : BuildHandle)
  /-- Waiting for a signal. -/
  | watching (handle : BuildHandle)
  /-- Sending a heartbeat during the build. -/
  | extending (handle : BuildHandle)
  /-- Recording that the worker is alive, after a heartbeat. -/
  | noting (handle : BuildHandle)
  | killing (handle : BuildHandle) (reason : KillReason)
  | reporting (result : JobResult) (backoff : Backoff)
  /-- Waiting before the next report. -/
  | pausing (result : JobResult) (delay : Span) (backoff : Backoff)
  | ended (outcome : Except Failure JobOutcome)

/-- What comes of a stage. -/
inductive WorkEvent where
  | claimed (answer : Except Failure Job)
  | heartbeat (answer : Except Failure Instant)
  | spawned (answer : Except Failure BuildHandle)
  | openedLogs (answer : Except Failure Unit)
  | signalled (signal : BuildSignal)
  | noted (answer : Except Failure Unit)
  | killed (answer : Except Failure Unit)
  | reported (answer : Except Failure Unit)
  /-- A pause is over, or shutdown has interrupted it. -/
  | paused (interrupted : Bool)

/-- The result of a build that ran to its end. -/
def JobResult.ofOutput (output : BuildOutput) : JobResult :=
  let result :=
    if output.success then JobResult.succeeded output.exitCode
    else { JobResult.failed .exit with exitCode := output.exitCode }
  { result with logRef := output.logRef, artifactRef := output.artifactRef }

/-- The result of a build that the environment could not run. -/
def JobResult.ofFailure (failure : Failure) : JobResult :=
  JobResult.failed (.environment failure.text)

namespace Work

/-- Report a result as the agent's own. Time spent is measured by another clock
than the fleet's and counts as none. -/
def report (agent : Agent) (result : JobResult) : Work :=
  reporting { result with worker := some agent.info.id, elapsedMs := 0 } Backoff.standard

/-- A job that cannot be claimed is passed over. -/
def afterClaim : Except Failure Job → Work
  | .ok job => beginning job
  | .error (.conflict _) => ended (.ok .skipped)
  | .error (.lost _) => ended (.ok .skipped)
  | .error failure => ended (.error failure)

def afterBeginning (agent : Agent) (job : Job) : Except Failure Instant → Work
  | .ok _ => spawning (agent.buildSpec job)
  | .error (.rejected _) => ended (.ok .aborted)
  | .error failure => ended (.error failure)

/-- A build that cannot be started has failed. -/
def afterSpawn (agent : Agent) : Except Failure BuildHandle → Work
  | .ok handle => openingLogs handle
  | .error failure => report agent (.ofFailure failure)

def afterSignal (agent : Agent) (handle : BuildHandle) : BuildSignal → Work
  | .shutdown => killing handle .shutdown
  | .exited (.ok output) => report agent (.ofOutput output)
  | .exited (.error failure) => report agent (.ofFailure failure)
  | .deadline => killing handle .timedOut
  | .tick => extending handle

/-- Only a rejected heartbeat ends the build; after any other failure a later
heartbeat recovers the lease or is rejected. -/
def afterHeartbeat (handle : BuildHandle) : Except Failure Instant → Work
  | .ok _ => noting handle
  | .error (.rejected _) => killing handle .rejected
  | .error _ => watching handle

/-- A failure to kill a build is passed over. -/
def afterKill (agent : Agent) : KillReason → Work
  | .timedOut => report agent (.failed .timeout)
  | .rejected => ended (.ok .aborted)
  | .shutdown => ended (.ok .abandoned)

/-- A report is repeated while the store cannot be reached. -/
def afterReport (result : JobResult) (backoff : Backoff) : Except Failure Unit → Work
  | .ok () => ended (.ok (.completed result.status))
  | .error (.rejected _) => ended (.ok .aborted)
  | .error failure =>
    if failure.isTransient then
      let (delay, backoff) := backoff.take
      pausing result delay backoff
    else ended (.error failure)

/-- The stage after an event. An event that does not belong to the stage has none. -/
def after (agent : Agent) : Work → WorkEvent → Option Work
  | claiming, .claimed answer => some (afterClaim answer)
  | beginning job, .heartbeat answer => some (afterBeginning agent job answer)
  | spawning _, .spawned answer => some (afterSpawn agent answer)
  | openingLogs handle, .openedLogs _ => some (watching handle)
  | watching handle, .signalled signal => some (afterSignal agent handle signal)
  | extending handle, .heartbeat answer => some (afterHeartbeat handle answer)
  | noting handle, .noted _ => some (watching handle)
  | killing _ reason, .killed _ => some (afterKill agent reason)
  | reporting result backoff, .reported answer => some (afterReport result backoff answer)
  | pausing _ _ _, .paused true => some (ended (.ok .abandoned))
  | pausing result _ backoff, .paused false => some (reporting result backoff)
  | _, _ => none

/-- The stage after events in their order. -/
def afterAll (agent : Agent) (work : Work) (events : List WorkEvent) : Option Work :=
  events.foldlM (after agent) work

end Work

end BuildFleet
