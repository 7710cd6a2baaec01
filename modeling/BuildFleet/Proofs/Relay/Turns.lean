import BuildFleet.Relay
import BuildFleet.Proofs.Services.Calls

/-!
# Turns of the relay

The relay makes one call at a time, and anything may happen between two of
them: other calls to the store, failures, or an end of the delivery with a
fresh start later.
-/

namespace BuildFleet

namespace Relay

/-! ## Call after call -/

/-- Where the relay stands: between two deliveries, or about to tell an event to
the front-ends that are left, with the rest of its batch to follow. -/
inductive Phase where
  | resting
  | telling (event : JobEvent) (left : List String) (rest : List JobEvent)
deriving DecidableEq

/-- The relay turns to the next event of its batch. -/
def begin (relay : Relay) : List JobEvent → Phase
  | [] => .resting
  | event :: rest => .telling event relay.frontEnds rest

/-- The relay makes its next call. A failure ends the delivery. -/
def turn (relay : Relay) : Phase → Services → Phase × Services
  | .resting, services =>
    match Services.pendingEvents batchSize .relay services with
    | (.done events, services) => (relay.begin events, services)
    | (_, services) => (.resting, services)
  | .telling event (frontEnd :: left) rest, services =>
    match Services.notify frontEnd event .relay services with
    | (.done (), services) => (.telling event left rest, services)
    | (_, services) => (.resting, services)
  | .telling event [] rest, services =>
    match Services.acknowledge event.number .relay services with
    | (.done (), services) => (relay.begin rest, services)
    | (_, services) => (.resting, services)

/-- The relay makes its calls until it rests. -/
inductive Finishes (relay : Relay) : Phase → Services → Services → Prop
  | rests (services : Services) : Finishes relay .resting services services
  | goesOn {phase : Phase} {services after : Services} (busy : phase ≠ .resting)
      (later : Finishes relay (relay.turn phase services).1 (relay.turn phase services).2 after) :
      Finishes relay phase services after

private theorem tellEach_finishes {relay : Relay} {event : JobEvent} {rest : List JobEvent}
    {count : Nat}
    (later : ∀ services, relay.Finishes (relay.begin rest) services
      (relay.deliverEach rest count .relay services).2)
    (left : List String) (services : Services) :
    relay.Finishes (.telling event left rest) services
      ((do
        tellEach event left
        Services.acknowledge event.number
        relay.deliverEach rest count : Action Nat) .relay services).2 := by
  refine .goesOn Phase.noConfusion ?_
  -- After the last front-end the turn is an acknowledgement.
  induction left generalizing services with
  | nil =>
      show relay.Finishes _ _ ((Services.acknowledge event.number >>= fun _ =>
        relay.deliverEach rest count) .relay services).2
      rw [Action.bind_apply, turn]
      rcases Services.acknowledge event.number .relay services with ⟨_ | _ | _, after⟩
      · exact later after
      · exact .rests after
      · exact .rests after
  | cons frontEnd left induction =>
      show relay.Finishes _ _ (((Services.notify frontEnd event >>= fun _ =>
        tellEach event left) >>= fun _ => Services.acknowledge event.number >>= fun _ =>
          relay.deliverEach rest count) .relay services).2
      rw [Action.bind_apply, Action.bind_apply, turn]
      rcases Services.notify frontEnd event .relay services with ⟨_ | _ | _, after⟩
      · exact .goesOn Phase.noConfusion (induction after)
      · exact .rests after
      · exact .rests after

private theorem deliverEach_finishes (relay : Relay) (events : List JobEvent) (count : Nat)
    (services : Services) : relay.Finishes (relay.begin events) services
      (relay.deliverEach events count .relay services).2 := by
  induction events generalizing count services with
  | nil => exact .rests services
  | cons event rest induction =>
      exact tellEach_finishes (fun services => induction (count + 1) services) relay.frontEnds
        services

/-- A delivery that nothing interrupts is a turn at rest and all that follow
until the relay rests again. -/
theorem deliver_finishes (relay : Relay) (services : Services) :
    relay.Finishes (relay.turn .resting services).1 (relay.turn .resting services).2
      (relay.deliver .relay services).2 := by
  show relay.Finishes _ _ ((Services.pendingEvents batchSize >>= fun events =>
    relay.deliverEach events 0) .relay services).2
  rw [Action.bind_apply, turn]
  rcases Services.pendingEvents batchSize .relay services with ⟨events | _ | _, after⟩
  · exact relay.deliverEach_finishes events 0 after
  · exact .rests after
  · exact .rests after

/-! ## Runs of the relay among other callers -/

/-- What may happen next. -/
inductive Step (relay : Relay) : Phase × Services → Phase × Services → Prop
  | turn (phase : Phase) (services : Services) :
      Step relay (phase, services) (relay.turn phase services)
  /-- The delivery is broken off. -/
  | stop (phase : Phase) (services : Services) : Step relay (phase, services) (.resting, services)
  /-- Somebody makes a call to the store; nobody else acknowledges events. -/
  | call (phase : Phase) (services : Services) (actor : Actor) (call : StoreCall)
      (other : ∀ number, call ≠ .acknowledge number) :
      Step relay (phase, services) (phase, (Services.perform (.store call) actor services).2)
  /-- The clock, the queue and the plans for failures may become any others. -/
  | outside (phase : Phase) {services changed : Services} (store : changed.store = services.store)
      (accepted : changed.accepted = services.accepted) :
      Step relay (phase, services) (phase, changed)

/-- The states that a relay can be in that was started with the fleet. -/
inductive Reached (relay : Relay) : Phase × Services → Prop
  | start (settings : StoreSettings) (now : Instant) :
      Reached relay (.resting, .start settings now)
  | step {state next : Phase × Services} (reached : Reached relay state)
      (step : Step relay state next) : Reached relay next

theorem Reached.finish {relay : Relay} {phase : Phase} {services after : Services}
    (reached : relay.Reached (phase, services)) (finishes : relay.Finishes phase services after) :
    relay.Reached (.resting, after) := by
  induction finishes with
  | rests => exact reached
  | goesOn _ _ induction => exact induction (reached.step (.turn _ _))

/-- A whole delivery is such a run. -/
theorem Reached.deliver {relay : Relay} {services : Services}
    (reached : relay.Reached (.resting, services)) :
    relay.Reached (.resting, (relay.deliver .relay services).2) :=
  (reached.step (.turn .resting services)).finish (relay.deliver_finishes services)

end Relay

end BuildFleet
