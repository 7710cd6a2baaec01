import BuildFleet.Build.Basic
import BuildFleet.Queue.Basic
import BuildFleet.Store.Call

/-!
# Shared services

The dispatcher, the lease monitor, the relay and the agents work on one store
and one queue. Every call they make goes through the services: a call may be
planned to fail, in which case it does nothing else, and every call is entered
in a journal together with what became of it.
-/

namespace BuildFleet

/-- Who makes a call. -/
inductive Actor where
  /-- The dispatcher, and whoever acts from outside. -/
  | main
  | monitor
  | relay
  /-- An agent, by its number. -/
  | agent (number : Nat)
deriving DecidableEq, Repr

/-- Calls of a store, a queue or a front-end. -/
inductive Call where
  | store (call : StoreCall)
  | publish (target : Target) (id : JobId)
  | subscribe (target : Target)
  /-- Tell a front-end of an event. -/
  | notify (frontEnd : String) (event : JobEvent)

namespace Call

@[reducible]
def Answer : Call → Type
  | store call => call.Answer
  | publish _ _ => Unit
  | subscribe _ => Subscription
  | notify _ _ => Unit

/-- What failures of a call are planned by. -/
def name : Call → String
  | store call => call.name
  | publish _ _ => "publish"
  | subscribe _ => "subscribe"
  | notify frontEnd _ => "notify:" ++ frontEnd

end Call

/-- What a subscription yields. -/
inductive Delivery where
  | item (id : JobId)
  | failure (failure : Failure)
  /-- The subscription is over. -/
  | ended
deriving DecidableEq, Repr

/-- How an agent leaves a job. -/
inductive JobOutcome where
  /-- The agent has reported a terminal status. -/
  | completed (status : JobStatus)
  /-- Another agent holds the job, or it can no longer be claimed. -/
  | skipped
  /-- The lease was lost or the job cancelled; the work was discarded. -/
  | aborted
  /-- Shutdown interrupted the build; the lease is left to expire. -/
  | abandoned
deriving DecidableEq, Repr, Inhabited

/-- What the journal records. -/
inductive Happening where
  | called (call : Call) (outcome : Outcome call.Answer)
  | delivered (delivery : Delivery)
  | spawned (spec : BuildSpec) (outcome : Except Failure BuildHandle)
  | openedLogs (id : JobId) (outcome : Except Failure Unit)
  | finished (id : JobId) (outcome : Except Failure BuildOutput)
  | killed (id : JobId) (outcome : Except Failure Unit)
  | processed (id : JobId) (outcome : Except Failure JobOutcome)
  | stopped

/-- An entry of the journal: when, in milliseconds since the start, who and what. -/
structure Entry where
  time : Nat
  actor : Actor
  happening : Happening

/-- A plan for calls of one name: some of them pass, then some of them fail. -/
structure FailurePlan where
  call : String
  skip : Nat
  times : Nat
  failure : Failure
deriving DecidableEq, Repr

/-- Ask the plans whether a call of this name fails. The oldest plan for the
name that is not used up decides. -/
def FailurePlan.consult (name : String) : List FailurePlan → Option Failure × List FailurePlan
  | [] => (none, [])
  | plan :: rest =>
    if plan.call = name ∧ plan.times > 0 then
      if plan.skip > 0 then (none, { plan with skip := plan.skip - 1 } :: rest)
      else (some plan.failure, { plan with times := plan.times - 1 } :: rest)
    else
      let (failure, rest) := consult name rest
      (failure, plan :: rest)

/-- The services and all that can be observed of them. -/
structure Services where
  settings : StoreSettings
  store : Store
  queue : Queue
  /-- The reading of the clock. -/
  now : Instant
  /-- Milliseconds since the start. -/
  elapsed : Nat
  plans : List FailurePlan
  /-- The events that every front-end has accepted, the oldest first. -/
  accepted : List (String × List JobEvent)
  /-- How many jobs have been made. -/
  made : Nat
  /-- The subscriptions that publications have woken, in that order. -/
  awakened : List Subscription
  /-- What happened, the latest first. -/
  journal : List Entry

/-- Identifiers are handed out in ascending order from here. -/
def firstJobNumber : Nat := 0x0190000000007000800000000000000

/-- The identifier of the job made after so many others. -/
def freshId (made : Nat) : JobId := .ofNat (firstJobNumber * 16 + made)

/-- Work on the services by one actor. -/
def Action (α : Type) : Type := Actor → Services → Outcome α × Services

namespace Action

def pure (value : α) : Action α := fun _ services => (.done value, services)

/-- Go on with the value of an action, if it has one. -/
def bind (action : Action α) (next : α → Action β) : Action β := fun actor services =>
  match action actor services with
  | (.done value, services) => next value actor services
  | (.failed failure, services) => (.failed failure, services)
  | (.outOfTime, services) => (.outOfTime, services)

instance : Monad Action where
  pure := Action.pure
  bind := Action.bind

def fail (failure : Failure) : Action α := fun _ services => (.failed failure, services)

/-- Stop everything, as when a time lies outside the calendar. -/
def stop : Action α := fun _ services => (.outOfTime, services)

def ofExcept : Except Failure α → Action α
  | .ok value => Action.pure value
  | .error failure => fail failure

/-- Carry on after a failure, which becomes the value. -/
def attempt (action : Action α) : Action (Except Failure α) := fun actor services =>
  match action actor services with
  | (.done value, services) => (.done (.ok value), services)
  | (.failed failure, services) => (.done (.error failure), services)
  | (.outOfTime, services) => (.outOfTime, services)

end Action

namespace Services

/-- Enter something in the journal. -/
def record (services : Services) (actor : Actor) (happening : Happening) : Services :=
  { services with journal := ⟨services.elapsed, actor, happening⟩ :: services.journal }

/-- The journal in the order of time. -/
def history (services : Services) : List Entry := services.journal.reverse

/-- Carry out a call on which no failure was planned. -/
def carryOut (services : Services) : (call : Call) → Outcome call.Answer × Services
  | .store call =>
    let (outcome, store) := services.store.perform services.settings services.now call
    (outcome, { services with store })
  | .publish target id =>
    let (woken, queue) := services.queue.publish target id
    (.done (), { services with queue, awakened := services.awakened ++ woken.toList })
  | .subscribe _ =>
    let (subscription, queue) := services.queue.subscribe
    (.done subscription, { services with queue })
  | .notify frontEnd event =>
    let before := (services.accepted.lookup frontEnd).getD []
    (.done (), { services with
      accepted := Ordered.put frontEnd (before ++ [event]) services.accepted })

/-- Make a call: it fails as planned, or is carried out. -/
def perform (call : Call) : Action call.Answer := fun actor services =>
  let (failure, plans) := FailurePlan.consult call.name services.plans
  let services := { services with plans }
  let (outcome, services) : Outcome call.Answer × Services := match failure with
    | some failure => (.failed failure, services)
    | none => services.carryOut call
  (outcome, services.record actor (.called call outcome))

/-! ## Calls -/

/-- Make a job under the next fresh identifier. -/
def create (target : Target) (payload : Json) : Action JobId := fun actor services =>
  match perform (.store (.create (freshId services.made) target payload)) actor services with
  | (.done id, services) => (.done id, { services with made := services.made + 1 })
  | (.failed failure, services) => (.failed failure, services)
  | (.outOfTime, services) => (.outOfTime, services)

def get (id : JobId) : Action Job := perform (.store (.get id))

def claim (id : JobId) (worker : WorkerId) (lease : Span) : Action Job :=
  perform (.store (.claim id worker lease))

def heartbeat (id : JobId) (worker : WorkerId) : Action Instant :=
  perform (.store (.heartbeat id worker))

def complete (id : JobId) (worker : WorkerId) (result : JobResult) : Action Unit :=
  perform (.store (.complete id worker result))

def cancel (id : JobId) : Action Unit := perform (.store (.cancel id))

def expiredLeases (limit : Int) : Action (List Job) := perform (.store (.expiredLeases limit))

def expireLease (id : JobId) : Action (Option ExpiryOutcome) :=
  perform (.store (.expireLease id))

def staleQueued (olderThan : Span) (limit : Int) : Action (List Job) :=
  perform (.store (.staleQueued olderThan limit))

def pendingEvents (limit : Int) : Action (List JobEvent) :=
  perform (.store (.pendingEvents limit))

def acknowledge (event : Int) : Action Unit := perform (.store (.acknowledge event))

def recordWorker (info : WorkerInfo) : Action Unit := perform (.store (.recordWorker info))

def workers (within : Span) : Action (List WorkerInfo) := perform (.store (.workers within))

def summary : Action (List TargetSummary) := perform (.store .summary)

def publish (target : Target) (id : JobId) : Action Unit := perform (.publish target id)

def subscribe (target : Target) : Action Subscription := perform (.subscribe target)

def notify (frontEnd : String) (event : JobEvent) : Action Unit :=
  perform (.notify frontEnd event)

/-! ## Subscriptions -/

/-- What is planned for the next item of a subscription: its end, or a failure
in the place of an item. -/
def plannedDelivery (services : Services) : Option Delivery × Services :=
  match FailurePlan.consult "end" services.plans with
  | (some _, plans) => (some .ended, { services with plans })
  | (none, plans) =>
    match FailurePlan.consult "next" plans with
    | (some failure, plans) => (some (.failure failure), { services with plans })
    | (none, plans) => (none, { services with plans })

/-- Enter something in the journal. -/
def note (happening : Happening) : Action Unit := fun actor services =>
  (.done (), services.record actor happening)

/-- Milliseconds since the start. -/
def elapsedTime : Action Nat := fun _ services => (.done services.elapsed, services)

/-- What becomes of the wait for the next item before the queue is looked at. -/
def planDelivery : Action (Option Delivery) := fun _ services =>
  let (delivery, services) := services.plannedDelivery
  (.done delivery, services)

/-- Look for an item, and wait if there is none. -/
def poll (target : Target) (subscription : Subscription) : Action (Option JobId) :=
  fun _ services =>
    let (id, queue) := services.queue.poll target subscription
    (.done id, { services with queue })

/-- Let go of a subscription. -/
def unsubscribe (target : Target) (subscription : Subscription) : Action Unit :=
  fun _ services =>
    let (woken, queue) := services.queue.drop target subscription
    (.done (), { services with queue, awakened := services.awakened ++ woken.toList })

/-- Subscribe to a target, take an item if there is one at once, and let go of
the subscription. -/
def takeAtOnce (target : Target) : Action (Option Delivery) := do
  let subscription ← subscribe target
  match ← planDelivery with
  | some delivery => return some delivery
  | none =>
    let id ← poll target subscription
    unsubscribe target subscription
    return id.map Delivery.item

/-! ## The clock -/

/-- The services with the clock at another reading. -/
def setClock (services : Services) (now : Instant) : Services := { services with now }

/-- The services a span later. -/
def advance? (services : Services) (span : Span) : Option Services :=
  (services.now.after? span).map services.setClock

/-- Services of a fleet that has done nothing yet. -/
def start (settings : StoreSettings) (now : Instant) : Services :=
  { settings, store := .empty, queue := .empty, now, elapsed := 0, plans := []
    accepted := [], made := 0, awakened := [], journal := [] }

/-- Plan failures of calls, after those that are planned already. -/
def plan (services : Services) (plan : FailurePlan) : Services :=
  { services with plans := services.plans ++ [plan] }

end Services

end BuildFleet
