import BuildFleet.Payload.Schema
import BuildFleet.Services.Basic

/-!
# Submissions

The dispatcher checks a submission, makes a job for every target it names and
publishes the jobs. A job whose publication fails stays queued; the lease
monitor publishes it again later.
-/

namespace BuildFleet

structure Dispatcher where
  targets : TargetRegistry
  schema : PayloadSchema
  /-- Workers not seen for longer are left out of the status. -/
  offlineAfter : Span
deriving DecidableEq, Repr

namespace Dispatcher

/-- Ten minutes. -/
def standardOfflineAfter : Span := ⟨600000000000, by decide⟩

/-- Make a job and publish it. A failure to publish is passed over. -/
def enqueue (target : Target) (payload : Json) : Action JobId := do
  let id ← Services.create target payload
  let _ ← (Services.publish target id).attempt
  return id

/-- Submit one job for a single target. -/
def submit (dispatcher : Dispatcher) (name : String) (payload : Json) : Action JobId := do
  let target ← .ofExcept (dispatcher.targets.resolve name)
  let _ ← .ofExcept (dispatcher.schema.validate payload)
  enqueue target payload

/-- Make a job for each of these targets, up to the first that fails. -/
def enqueueAll (payload : Json) : List Target → Action (List Submitted)
  | [] => return []
  | target :: rest => do
    let jobId ← enqueue target payload
    let submitted ← enqueueAll payload rest
    return ⟨target, jobId⟩ :: submitted

/-- Submit one job for every target that the names stand for. The payload is
checked once, before any job is made. -/
def submitAll (dispatcher : Dispatcher) (names : List String) (payload : Json) :
    Action (List Submitted) := do
  let targets ← .ofExcept (dispatcher.targets.expand names)
  let _ ← .ofExcept (dispatcher.schema.validate payload)
  enqueueAll payload targets

def cancel (id : JobId) : Action Unit := Services.cancel id

def query (id : JobId) : Action Job := Services.get id

/-- The load of every target, and the workers seen of late. -/
def status (dispatcher : Dispatcher) : Action FleetStatus := do
  let targets ← Services.summary
  let workers ← Services.workers dispatcher.offlineAfter
  return ⟨targets, workers⟩

end Dispatcher

end BuildFleet
