import BuildFleet.Identity.Basic
import BuildFleet.Target.Basic
import BuildFleet.Ordered

/-!
# The notification queue

Every target has a queue of the identifiers of jobs that can be claimed. An
identifier that waits in a queue is not put into it again. Subscriptions take
identifiers from the front; one that finds the queue empty waits until a
publication wakes it. A publication wakes the subscription that has waited
longest, or leaves one permit if nobody waits.
-/

namespace BuildFleet

/-- The number of a subscription. -/
abbrev Subscription := Nat

structure TargetQueue where
  /-- The identifiers that wait, the oldest first. -/
  pending : List JobId
  /-- The same identifiers as a set, which tells repeated publications. -/
  queued : List JobId
  /-- A publication that found nobody waiting. -/
  permit : Bool
  /-- The subscriptions that wait, the longest waiting first. -/
  waiting : List Subscription
  /-- The subscriptions that were woken and have not looked again yet. -/
  woken : List Subscription
deriving DecidableEq, Repr

namespace TargetQueue

def empty : TargetQueue := ⟨[], [], false, [], []⟩

/-- Wake the longest waiting subscription, or leave a permit. -/
def notify (queue : TargetQueue) : Option Subscription × TargetQueue :=
  match queue.waiting with
  | [] => (none, { queue with permit := true })
  | first :: rest =>
    (some first, { queue with waiting := rest, woken := queue.woken ++ [first] })

/-- Append an identifier that does not wait already, and tell who was woken. -/
def publish (queue : TargetQueue) (id : JobId) : Option Subscription × TargetQueue :=
  if queue.queued.contains id then (none, queue)
  else
    { queue with pending := queue.pending ++ [id], queued := id :: queue.queued }.notify

/-- Take the identifier at the front. -/
def pop (queue : TargetQueue) : Option JobId × TargetQueue :=
  match queue.pending with
  | [] => (none, queue)
  | id :: rest => (some id, { queue with pending := rest, queued := queue.queued.filter (· ≠ id) })

/-- Let a subscription look for an identifier. If there is none it uses up the
permit, looks once more and waits. One that waits already goes on waiting. -/
def poll (queue : TargetQueue) (subscription : Subscription) : Option JobId × TargetQueue :=
  if queue.waiting.contains subscription then (none, queue)
  else
    match { queue with woken := queue.woken.filter (· ≠ subscription) }.pop with
    | (some id, queue) => (some id, queue)
    | (none, queue) =>
      (none, { queue with permit := false, waiting := queue.waiting ++ [subscription] })

/-- Let go of a subscription. If it had been woken the next one is woken
instead, and told. -/
def drop (queue : TargetQueue) (subscription : Subscription) :
    Option Subscription × TargetQueue :=
  let left := { queue with
    waiting := queue.waiting.filter (· ≠ subscription)
    woken := queue.woken.filter (· ≠ subscription) }
  if queue.woken.contains subscription then left.notify else (none, left)

end TargetQueue

/-- The queues of all targets. -/
structure Queue where
  targets : List (Target × TargetQueue)
  /-- The number of the next subscription. -/
  nextSubscription : Subscription
deriving DecidableEq, Repr

namespace Queue

def empty : Queue := ⟨[], 0⟩

/-- The queue of a target; one that nobody has used is empty. -/
def ofTarget (queue : Queue) (target : Target) : TargetQueue :=
  (queue.targets.lookup target).getD .empty

/-- Let the queue of a target change. -/
def update (queue : Queue) (target : Target) (changed : TargetQueue) : Queue :=
  { queue with targets := Ordered.put target changed queue.targets }

def publish (queue : Queue) (target : Target) (id : JobId) : Option Subscription × Queue :=
  let (woken, changed) := (queue.ofTarget target).publish id
  (woken, queue.update target changed)

/-- Take the next identifier of a target. -/
def pop (queue : Queue) (target : Target) : Option JobId × Queue :=
  let (id, changed) := (queue.ofTarget target).pop
  (id, queue.update target changed)

/-- A new subscription. It takes nothing before it is polled. -/
def subscribe (queue : Queue) : Subscription × Queue :=
  (queue.nextSubscription, { queue with nextSubscription := queue.nextSubscription + 1 })

def poll (queue : Queue) (target : Target) (subscription : Subscription) :
    Option JobId × Queue :=
  let (id, changed) := (queue.ofTarget target).poll subscription
  (id, queue.update target changed)

def drop (queue : Queue) (target : Target) (subscription : Subscription) :
    Option Subscription × Queue :=
  let (woken, changed) := (queue.ofTarget target).drop subscription
  (woken, queue.update target changed)

/-- How many identifiers of a target wait. -/
def length (queue : Queue) (target : Target) : Nat := (queue.ofTarget target).pending.length

end Queue

end BuildFleet
