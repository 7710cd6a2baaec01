import BuildFleet.Agent.Work
import BuildFleet.Build.Script
import BuildFleet.Time.Ticker

/-!
# An agent at work in time

An assignment is the work of an agent on one job together with the timers that
the work waits for. Its steps make the calls of each stage and turn what comes
of them into the events of the work.
-/

namespace BuildFleet

/-- Whether something can go on at once or has to wait. -/
inductive Progress (α : Type) where
  | goesOn (state : α)
  | waits (state : α)

namespace Progress

def map (transform : α → β) : Progress α → Progress β
  | goesOn state => goesOn (transform state)
  | waits state => waits (transform state)

end Progress

/-- How a build environment treats what it is asked to run. -/
abbrev BuildScripts := BuildSpec → BuildScript

structure Assignment where
  id : JobId
  work : Work
  script : BuildScript
  /-- When the build ends by itself, in milliseconds. -/
  exitsAt : Nat
  /-- When the build has taken too long, in nanoseconds. -/
  deadline : Nat
  heartbeats : Ticker
  /-- When a pause ends, in milliseconds. -/
  resumesAt : Nat

namespace Assignment

/-- The work on a job that has not been claimed yet. -/
def start (agent : Agent) (id : JobId) : Assignment :=
  { id, work := .claiming, script := .immediate, exitsAt := 0, deadline := 0
    heartbeats := .now 0 agent.heartbeat, resumesAt := 0 }

/-- Take an event into account. -/
def observe (agent : Agent) (assignment : Assignment) (event : WorkEvent) : Assignment :=
  { assignment with work := (assignment.work.after agent event).getD assignment.work }

/-- Set the timers of a build that the agent starts to watch over. -/
def startTimers (agent : Agent) (elapsed : Nat) (assignment : Assignment) : Assignment :=
  { assignment with
    exitsAt := elapsed + assignment.script.duration
    deadline := deadlineAfter elapsed agent.buildTimeout
    heartbeats := .later elapsed agent.heartbeat }

/-- Set the timer of a pause. -/
def startPause (elapsed : Nat) (assignment : Assignment) : Assignment :=
  match assignment.work with
  | .pausing _ delay _ =>
    { assignment with resumesAt := firesAt (deadlineAfter elapsed delay) }
  | _ => assignment

/-- The signal that the agent notices first while it watches over a build, and
the ticker after it. -/
def signal? (interrupted : Bool) (elapsed : Nat) (assignment : Assignment) :
    Option (BuildSignal × Ticker) :=
  if interrupted then some (.shutdown, assignment.heartbeats)
  else if assignment.exitsAt ≤ elapsed then
    some (.exited assignment.script.exit, assignment.heartbeats)
  else if firesAt assignment.deadline ≤ elapsed then some (.deadline, assignment.heartbeats)
  else if assignment.heartbeats.isDue elapsed then
    some (.tick, assignment.heartbeats.next elapsed)
  else none

/-- One stage of the work. -/
def step (builds : BuildScripts) (agent : Agent) (interrupted : Bool) (assignment : Assignment) :
    Action (Progress Assignment) := do
  let elapsed ← Services.elapsedTime
  let worker := agent.info.id
  match assignment.work with
  | .claiming =>
    let answer ← (Services.claim assignment.id worker agent.lease).attempt
    return .goesOn (assignment.observe agent (.claimed answer))
  | .beginning _ =>
    let answer ← (Services.heartbeat assignment.id worker).attempt
    return .goesOn (assignment.observe agent (.heartbeat answer))
  | .spawning spec =>
    let script := builds spec
    let answer := script.spawn spec
    Services.note (.spawned spec answer)
    return .goesOn ({ assignment with script }.observe agent (.spawned answer))
  | .openingLogs _ =>
    let answer := assignment.script.openLogs
    Services.note (.openedLogs assignment.id answer)
    -- Without a time between them there are no heartbeats.
    if agent.heartbeat = .zero then Action.stop
    return .goesOn ((assignment.startTimers agent elapsed).observe agent (.openedLogs answer))
  | .watching _ =>
    match assignment.signal? interrupted elapsed with
    | none => return .waits assignment
    | some (signal, heartbeats) =>
      if let .exited outcome := signal then
        Services.note (.finished assignment.id outcome)
      return .goesOn ({ assignment with heartbeats }.observe agent (.signalled signal))
  | .extending _ =>
    let answer ← (Services.heartbeat assignment.id worker).attempt
    return .goesOn (assignment.observe agent (.heartbeat answer))
  | .noting _ =>
    let answer ← (Services.recordWorker agent.info).attempt
    return .goesOn (assignment.observe agent (.noted answer))
  | .killing _ _ =>
    let answer := assignment.script.kill
    Services.note (.killed assignment.id answer)
    return .goesOn (assignment.observe agent (.killed answer))
  | .reporting result _ =>
    let answer ← (Services.complete assignment.id worker result).attempt
    return .goesOn ((assignment.observe agent (.reported answer)).startPause elapsed)
  | .pausing _ _ _ =>
    if interrupted then return .goesOn (assignment.observe agent (.paused true))
    else if assignment.resumesAt ≤ elapsed then
      return .goesOn (assignment.observe agent (.paused false))
    else return .waits assignment
  | .ended _ => return .waits assignment

/-- The next millisecond at which waiting may be over. -/
def wakesAt (assignment : Assignment) : Option Nat :=
  match assignment.work with
  | .watching _ =>
    some (min assignment.exitsAt (min (firesAt assignment.deadline)
      (firesAt assignment.heartbeats.due)))
  | .pausing _ _ _ => some assignment.resumesAt
  | _ => none

end Assignment

end BuildFleet
