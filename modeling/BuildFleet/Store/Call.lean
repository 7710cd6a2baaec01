import BuildFleet.Store.Basic

/-!
# Calls to the store

A call names an operation of the store and its arguments; its answer has the
type that the operation gives.
-/

namespace BuildFleet

inductive StoreCall where
  | create (id : JobId) (target : Target) (payload : Json)
  | get (id : JobId)
  | claim (id : JobId) (worker : WorkerId) (lease : Span)
  | heartbeat (id : JobId) (worker : WorkerId)
  | complete (id : JobId) (worker : WorkerId) (result : JobResult)
  | cancel (id : JobId)
  | expiredLeases (limit : Int)
  | expireLease (id : JobId)
  | staleQueued (olderThan : Span) (limit : Int)
  | pendingEvents (limit : Int)
  | acknowledge (event : Int)
  | recordWorker (info : WorkerInfo)
  | workers (within : Span)
  | summary
deriving DecidableEq

namespace StoreCall

/-- What a call answers when it is done. -/
@[reducible]
def Answer : StoreCall → Type
  | create _ _ _ => JobId
  | get _ => Job
  | claim _ _ _ => Job
  | heartbeat _ _ => Instant
  | complete _ _ _ => Unit
  | cancel _ => Unit
  | expiredLeases _ => List Job
  | expireLease _ => Option ExpiryOutcome
  | staleQueued _ _ => List Job
  | pendingEvents _ => List JobEvent
  | acknowledge _ => Unit
  | recordWorker _ => Unit
  | workers _ => List WorkerInfo
  | summary => List TargetSummary

/-- What the operation of a call is known by. -/
def name : StoreCall → String
  | create _ _ _ => "create"
  | get _ => "get"
  | claim _ _ _ => "claim"
  | heartbeat _ _ => "heartbeat"
  | complete _ _ _ => "complete"
  | cancel _ => "cancel"
  | expiredLeases _ => "expired_leases"
  | expireLease _ => "expire_lease"
  | staleQueued _ _ => "stale_queued"
  | pendingEvents _ => "pending_events"
  | acknowledge _ => "ack_event"
  | recordWorker _ => "record_worker"
  | workers _ => "workers"
  | summary => "summary"

end StoreCall

/-- Carry out a call at an instant. -/
def Store.perform (settings : StoreSettings) (now : Instant) (store : Store) :
    (call : StoreCall) → Outcome call.Answer × Store
  | .create id target payload => store.create settings id target payload now
  | .get id => (store.get id, store)
  | .claim id worker lease => store.claim settings id worker lease now
  | .heartbeat id worker => store.heartbeat id worker now
  | .complete id worker result =>
    let (outcome, store) := store.complete id worker result now
    (outcome.map fun _ => (), store)
  | .cancel id => store.cancel id now
  | .expiredLeases limit => (.done (store.expiredLeases limit now), store)
  | .expireLease id => store.expireLease settings id now
  | .staleQueued olderThan limit => store.staleQueued olderThan limit now
  | .pendingEvents limit => (.done (store.pendingEvents limit), store)
  | .acknowledge event => store.acknowledge event
  | .recordWorker info => (.done (), store.recordWorker info now)
  | .workers within => (store.workers within now, store)
  | .summary => (.done store.summary, store)

end BuildFleet
