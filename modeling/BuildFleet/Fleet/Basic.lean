import BuildFleet.Fleet.AgentLoop
import BuildFleet.LeaseMonitor
import BuildFleet.Relay

/-!
# A fleet in virtual time

Agents, the lease monitor and the relay run side by side on the same services.
Nothing takes time but waiting: all that can go on does so at one reading of the
clock, in the order in which it became ready, and when nothing can go on the
clock jumps to the next timer.
-/

namespace BuildFleet

/-! ## Loops -/

/-- A monitor between its scans. -/
structure MonitorLoop where
  monitor : LeaseMonitor
  backoff : Backoff
  resumesAt : Nat

/-- A relay between its deliveries. -/
structure RelayLoop where
  relay : Relay
  backoff : Backoff
  resumesAt : Nat

def MonitorLoop.step (elapsed : Nat) (loop : MonitorLoop) : Action (Progress MonitorLoop) := do
  if elapsed < loop.resumesAt then return .waits loop
  let report ← loop.monitor.scan.attempt
  let (delay, backoff) := loop.monitor.nextDelay loop.backoff report
  return .goesOn { loop with backoff, resumesAt := firesAt (deadlineAfter elapsed delay) }

def RelayLoop.step (elapsed : Nat) (loop : RelayLoop) : Action (Progress RelayLoop) := do
  if elapsed < loop.resumesAt then return .waits loop
  let delivered ← loop.relay.deliver.attempt
  let (delay, backoff) := loop.relay.nextDelay loop.backoff delivered
  return .goesOn { loop with backoff, resumesAt := firesAt (deadlineAfter elapsed delay) }

/-! ## Tasks -/

/-- What a task does. -/
inductive Role where
  | agent (loop : AgentLoop)
  /-- One job that an agent was told to work on. -/
  | job (agent : Agent) (assignment : Assignment)
  | monitor (loop : MonitorLoop)
  | relay (loop : RelayLoop)
  | finished

/-- Something that runs beside others. -/
structure Task where
  actor : Actor
  /-- When the task begins, in milliseconds. -/
  startsAt : Nat
  role : Role

namespace Task

/-- Be done for good. -/
def finish (task : Task) (happening : Happening) : Action (Progress Task) := do
  Services.note happening
  return .waits { task with role := .finished }

/-- One step of a task that has begun. -/
def advance (builds : BuildScripts) (interrupted : Bool) (task : Task) : Action (Progress Task) := do
  let elapsed ← Services.elapsedTime
  match task.role with
  | .agent loop =>
    let progress ← loop.step builds interrupted
    return progress.map fun loop => { task with role := .agent loop }
  | .job agent assignment =>
    match assignment.work with
    | .ended outcome => task.finish (.processed assignment.id outcome)
    | _ =>
      let progress ← assignment.step builds agent interrupted
      return progress.map fun assignment => { task with role := .job agent assignment }
  | .monitor loop =>
    if interrupted then task.finish .stopped
    else
      let progress ← loop.step elapsed
      return progress.map fun loop => { task with role := .monitor loop }
  | .relay loop =>
    if interrupted then task.finish .stopped
    else
      let progress ← loop.step elapsed
      return progress.map fun loop => { task with role := .relay loop }
  | .finished => return .waits task

/-- One step of a task. -/
def step (builds : BuildScripts) (interrupted : Bool) (task : Task) : Action (Progress Task) := do
  if (← Services.elapsedTime) < task.startsAt then return .waits task
  else task.advance builds interrupted

/-- The next millisecond at which waiting may be over. -/
def wakesAt (elapsed : Nat) (task : Task) : Option Nat :=
  if elapsed < task.startsAt then some task.startsAt
  else
    match task.role with
    | .agent loop => loop.wakesAt
    | .job _ assignment => assignment.wakesAt
    | .monitor loop => some loop.resumesAt
    | .relay loop => some loop.resumesAt
    | .finished => none

/-- Whether the task waits for a subscription. -/
def waitsFor (subscription : Subscription) (task : Task) : Bool :=
  match task.role with
  | .agent loop => loop.subscription? == some subscription
  | _ => false

end Task

/-! ## The fleet -/

structure Fleet where
  services : Services
  /-- The reading of the clock at the start. -/
  origin : Instant
  builds : BuildScripts
  tasks : List Task
  /-- The places of the tasks that may go on, the first to become ready first. -/
  ready : List Nat
  /-- Who has been shut down. -/
  interrupted : List Actor

namespace Fleet

/-- Make a task ready, unless it is already. -/
def wake (fleet : Fleet) (place : Nat) : Fleet :=
  if fleet.ready.contains place then fleet else { fleet with ready := fleet.ready ++ [place] }

/-- Make the tasks ready that hold a property. -/
def wakeWhere (fleet : Fleet) (holds : Task → Bool) : Fleet :=
  fleet.tasks.zipIdx.foldl (fun fleet (task, place) =>
    if holds task then fleet.wake place else fleet) fleet

/-- Make the tasks ready whose subscriptions were woken. -/
def wakeSubscribers (fleet : Fleet) : Fleet :=
  let awakened := fleet.services.awakened
  awakened.foldl (fun fleet subscription => fleet.wakeWhere (Task.waitsFor subscription))
    { fleet with services := { fleet.services with awakened := [] } }

/-- Start a task. -/
def begin (fleet : Fleet) (task : Task) : Fleet :=
  { fleet with tasks := fleet.tasks ++ [task] }.wake fleet.tasks.length

/-- Tell an actor to stop. -/
def interrupt (fleet : Fleet) (actor : Actor) : Fleet :=
  { fleet with interrupted := actor :: fleet.interrupted }.wakeWhere (·.actor == actor)

/-- Let the first ready task take a step. -/
def step (fleet : Fleet) : Outcome Fleet :=
  match fleet.ready with
  | [] => .done fleet
  | place :: rest =>
    match fleet.tasks[place]? with
    | none => .done { fleet with ready := rest }
    | some task =>
      let (outcome, services) :=
        task.step fleet.builds (fleet.interrupted.contains task.actor) task.actor fleet.services
      let continued (ready : List Nat) (task : Task) : Fleet :=
        { fleet with services, ready, tasks := fleet.tasks.set place task }.wakeSubscribers
      match outcome with
      | .done (.goesOn task) => .done (continued fleet.ready task)
      | .done (.waits task) => .done (continued rest task)
      | .failed failure => .failed failure
      | .outOfTime => .outOfTime

/-- Let everything that can go on do so, in at most so many steps. -/
def settle : Nat → Fleet → Outcome Fleet
  | 0, fleet => .done fleet
  | fuel + 1, fleet =>
    if fleet.ready.isEmpty then .done fleet
    else
      match fleet.step with
      | .done fleet => settle fuel fleet
      | .failed failure => .failed failure
      | .outOfTime => .outOfTime

/-- The next millisecond at which a timer fires. -/
def nextTimer? (fleet : Fleet) : Option Nat :=
  (fleet.tasks.filterMap (Task.wakesAt fleet.services.elapsed)).min?

/-- Let the clock jump, and make the tasks ready whose timers fire. -/
def jump? (fleet : Fleet) (elapsed : Nat) : Option Fleet :=
  (fleet.origin.addMilliseconds? elapsed).map fun now =>
    let before := fleet.services.elapsed
    { fleet with services := { fleet.services with now, elapsed } }.wakeWhere fun task =>
      (task.wakesAt before).any (· ≤ elapsed)

/-- Run all that happens before a millisecond, and let the clock jump there, in at
most so many jumps. The tasks whose timers fire then are ready. The clock never
jumps back. -/
def runUntil (limit : Nat) (settling : Nat) : Nat → Fleet → Outcome Fleet
  | 0, fleet => .done fleet
  | fuel + 1, fleet =>
    match fleet.settle settling with
    | .failed failure => .failed failure
    | .outOfTime => .outOfTime
    | .done fleet =>
      let limit := max limit fleet.services.elapsed
      let next := min limit (fleet.nextTimer?.getD limit)
      match fleet.jump? next with
      | none => .outOfTime
      | some fleet => if next = limit then .done fleet else runUntil limit settling fuel fleet

/-- Let someone act from outside. -/
def act (fleet : Fleet) (action : Action α) : Outcome α × Fleet :=
  let (outcome, services) := action .main fleet.services
  (outcome, { fleet with services }.wakeSubscribers)

end Fleet

end BuildFleet
