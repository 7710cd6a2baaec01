import BuildFleet.Backoff
import BuildFleet.Services.Basic

/-!
# The notification relay

Events leave the outbox once every front-end has accepted them, so each of them
hears of every event at least once and in order. The relay stops at the first
event that a front-end refuses.
-/

namespace BuildFleet

structure Relay where
  /-- The names of the front-ends, in the order in which they are told. -/
  frontEnds : List String
  pollInterval : Span
deriving DecidableEq, Repr

namespace Relay

/-- How many events one delivery takes at most. -/
def batchSize : Int := 50

/-- Two seconds. -/
def standardPollInterval : Span := ⟨2000000000, by decide⟩

/-- Tell the front-ends of an event, one after the other. -/
def tellEach (event : JobEvent) : List String → Action Unit
  | [] => return ()
  | frontEnd :: rest => do
    Services.notify frontEnd event
    tellEach event rest

/-- Deliver events one after the other and count them. -/
def deliverEach (relay : Relay) : List JobEvent → Nat → Action Nat
  | [], delivered => return delivered
  | event :: rest, delivered => do
    tellEach event relay.frontEnds
    Services.acknowledge event.number
    relay.deliverEach rest (delivered + 1)

/-- Deliver one batch of pending events. -/
def deliver (relay : Relay) : Action Nat := do
  let events ← Services.pendingEvents batchSize
  relay.deliverEach events 0

/-- The delay before the next delivery: the interval, or the backoff after a
failure of any kind. -/
def nextDelay (relay : Relay) (backoff : Backoff) : Except Failure Nat → Span × Backoff
  | .ok _ => (relay.pollInterval, backoff.reset)
  | .error _ => backoff.take

end Relay

end BuildFleet
