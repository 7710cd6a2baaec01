import BuildFleet.Fleet.Assignment

/-!
# The life of an agent

An agent subscribes to its target and works on the jobs that the subscription
yields, one after the other. While it is idle it records from time to time that
it is alive. It stops when it is shut down.
-/

namespace BuildFleet

/-- A subscription that an agent holds. -/
structure Listening where
  subscription : Subscription
  /-- When to record that the worker is alive. -/
  idle : Ticker
  /-- The next item is being waited for; its plans have been looked up. -/
  awaiting : Bool

inductive AgentStage where
  /-- Recording for the first time that the worker is alive. -/
  | starting
  | subscribing
  | listening (listening : Listening)
  | noting (listening : Listening)
  | working (listening : Listening) (assignment : Assignment)
  /-- Waiting after a failure, in milliseconds; without a subscription the agent
  subscribes again. -/
  | resting (listening : Option Listening) (resumesAt : Nat)
  | stopped

structure AgentLoop where
  agent : Agent
  backoff : Backoff
  stage : AgentStage

namespace AgentLoop

def start (agent : Agent) : AgentLoop := ⟨agent, Backoff.standard, .starting⟩

/-- Wait for the delay that the backoff gives. -/
def rest (loop : AgentLoop) (listening : Option Listening) (elapsed : Nat) : AgentLoop :=
  let (delay, backoff) := loop.backoff.take
  { loop with backoff, stage := .resting listening (firesAt (deadlineAfter elapsed delay)) }

/-- Let go of the subscription and stop. -/
def stop (loop : AgentLoop) (listening : Option Listening) : Action (Progress AgentLoop) := do
  if let some listening := listening then
    Services.unsubscribe loop.agent.info.target listening.subscription
  Services.note .stopped
  return .waits { loop with stage := .stopped }

/-- Deal with what the subscription has yielded. -/
def receive (loop : AgentLoop) (listening : Listening) (elapsed : Nat) (delivery : Delivery) :
    Action (Progress AgentLoop) := do
  let listening := { listening with awaiting := false }
  Services.note (.delivered delivery)
  match delivery with
  | .item id =>
    return .goesOn { loop with
      backoff := loop.backoff.reset
      stage := .working listening (.start loop.agent id) }
  | .failure _ => return .goesOn (loop.rest (some listening) elapsed)
  | .ended =>
    Services.unsubscribe loop.agent.info.target listening.subscription
    return .goesOn (loop.rest none elapsed)

/-- Look for an item. -/
def listen (loop : AgentLoop) (listening : Listening) (elapsed : Nat) :
    Action (Progress AgentLoop) := do
  let planned ←
    if listening.awaiting then pure none else Services.planDelivery
  match planned with
  | some delivery => loop.receive listening elapsed delivery
  | none =>
    match ← Services.poll loop.agent.info.target listening.subscription with
    | some id => loop.receive listening elapsed (.item id)
    | none => return .waits { loop with stage := .listening { listening with awaiting := true } }

/-- One stage of the life of an agent. Shutdown comes before a tick, and a tick
before an item. -/
def step (builds : BuildScripts) (interrupted : Bool) (loop : AgentLoop) :
    Action (Progress AgentLoop) := do
  let elapsed ← Services.elapsedTime
  let agent := loop.agent
  match loop.stage with
  | .starting =>
    let _ ← (Services.recordWorker agent.info).attempt
    return .goesOn { loop with stage := .subscribing }
  | .subscribing =>
    if interrupted then loop.stop none
    else
      match ← (Services.subscribe agent.info.target).attempt with
      | .error _ => return .goesOn (loop.rest none elapsed)
      | .ok subscription =>
        -- Without a time between them there are no ticks.
        if agent.heartbeat = .zero then Action.stop
        return .goesOn { loop with
          stage := .listening ⟨subscription, .now elapsed agent.heartbeat, false⟩ }
  | .listening listening =>
    if interrupted then loop.stop (some listening)
    else if listening.idle.isDue elapsed then
      return .goesOn { loop with
        stage := .noting { listening with idle := listening.idle.next elapsed } }
    else loop.listen listening elapsed
  | .noting listening =>
    let _ ← (Services.recordWorker agent.info).attempt
    return .goesOn { loop with stage := .listening listening }
  | .working listening assignment =>
    match assignment.work with
    | .ended _ => return .goesOn { loop with stage := .listening listening }
    | _ =>
      let progress ← assignment.step builds agent interrupted
      return progress.map fun assignment =>
        { loop with stage := .working listening assignment }
  | .resting listening resumesAt =>
    if interrupted then loop.stop listening
    else if resumesAt ≤ elapsed then
      return .goesOn { loop with
        stage := match listening with
          | some listening => .listening listening
          | none => .subscribing }
    else return .waits loop
  | .stopped => return .waits loop

/-- The next millisecond at which waiting may be over. -/
def wakesAt (loop : AgentLoop) : Option Nat :=
  match loop.stage with
  | .listening listening => some (firesAt listening.idle.due)
  | .working _ assignment => assignment.wakesAt
  | .resting _ resumesAt => some resumesAt
  | _ => none

/-- The subscription that the agent waits for. -/
def subscription? (loop : AgentLoop) : Option Subscription :=
  match loop.stage with
  | .listening listening => some listening.subscription
  | _ => none

end AgentLoop

end BuildFleet
