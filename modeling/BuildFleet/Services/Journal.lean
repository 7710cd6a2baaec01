import BuildFleet.Services.Basic

/-!
# The journal in JSON

What came of an operation is written as its value under `ok`, or as the kind and
the text of its failure. An entry of the journal is the list of its time, who
made the call, the call, its arguments and what came of it.
-/

namespace BuildFleet

namespace Journal

/-! ## What came of an operation -/

def value (json : Json) : Json := .object [("ok", json)]

def failure (failure : Failure) : Json :=
  .object [("error", .string failure.kind), ("message", .string failure.message)]

/-- Time ran out. -/
def timeRanOut : Json := .object [("error", .string "panic")]

def result (write : α → Json) : Except Failure α → Json
  | .ok answer => value (write answer)
  | .error reason => failure reason

def outcome (write : α → Json) : Outcome α → Json
  | .done answer => value (write answer)
  | .failed reason => failure reason
  | .outOfTime => timeRanOut

/-- An answer that says nothing. -/
def nothing (_ : α) : Json := .null

/-! ## Calls -/

def actorName : Actor → String
  | .main => "main"
  | .monitor => "monitor"
  | .relay => "relay"
  | .agent number => "agent" ++ toString number

def identifiers (jobs : List Job) : Json := .array (jobs.map fun job => job.id.toJson)

def storeArguments : StoreCall → List Json
  | .create _ target _ => [target.toJson]
  | .get id => [id.toJson]
  | .claim id worker lease => [id.toJson, worker.toJson, lease.toJson]
  | .heartbeat id worker => [id.toJson, worker.toJson]
  | .complete id worker result => [id.toJson, worker.toJson, result.toJson]
  | .cancel id => [id.toJson]
  | .expiredLeases limit => [.integer limit]
  | .expireLease id => [id.toJson]
  | .staleQueued olderThan limit => [olderThan.toJson, .integer limit]
  | .pendingEvents limit => [.integer limit]
  | .acknowledge event => [.integer event]
  | .recordWorker info => [info.id.toJson, .string info.hostname, info.target.toJson]
  | .workers within => [within.toJson]
  | .summary => []

def storeAnswer : (call : StoreCall) → call.Answer → Json
  | .create _ _ _, id => id.toJson
  | .get _, job => job.status.toJson
  | .claim _ _ _, job => .object [
      ("attempt_count", .integer job.attemptCount),
      ("lease_expiry", .ofOption Instant.toJson job.leaseExpiry)]
  | .heartbeat _ _, expiry => expiry.toJson
  | .complete _ _ _, _ => .null
  | .cancel _, _ => .null
  | .expiredLeases _, jobs => identifiers jobs
  | .expireLease _, outcome => .ofOption ExpiryOutcome.toJson outcome
  | .staleQueued _ _, jobs => identifiers jobs
  | .pendingEvents _, events => .array (events.map fun event => .integer event.number)
  | .acknowledge _, _ => .null
  | .recordWorker _, _ => .null
  | .workers _, workers => .array (workers.map WorkerInfo.toJson)
  | .summary, summary => .array (summary.map TargetSummary.toJson)

def arguments : Call → List Json
  | .store call => storeArguments call
  | .publish target id => [target.toJson, id.toJson]
  | .subscribe target => [target.toJson]
  | .notify _ event => [.integer event.number, event.jobId.toJson, event.status.toJson]

def answer : (call : Call) → call.Answer → Json
  | .store call, answer => storeAnswer call answer
  | .publish _ _, _ => .null
  | .subscribe _, _ => .null
  | .notify _ _, _ => .null

def delivery : Delivery → Json
  | .item id => value id.toJson
  | .failure reason => failure reason
  | .ended => .string "end"

def jobOutcome : JobOutcome → Json
  | .completed status => .object [("completed", status.toJson)]
  | .skipped => .string "skipped"
  | .aborted => .string "aborted"
  | .abandoned => .string "abandoned"

/-! ## Entries -/

/-- The name of what happened, its arguments and what came of it. -/
def parts : Happening → String × List Json × Json
  | .called call answered => (call.name, arguments call, outcome (answer call) answered)
  | .delivered item => ("next", [], delivery item)
  | .spawned spec spawned =>
    ("env.spawn", [spec.jobId.toJson, spec.target.toJson, spec.payload,
      environmentJson spec.environment, .ofOption Span.toJson spec.timeout],
      result nothing spawned)
  | .openedLogs id opened => ("env.logs", [id.toJson], result nothing opened)
  | .finished id finished => ("env.wait", [id.toJson], result nothing finished)
  | .killed id killed => ("env.cancel", [id.toJson], result nothing killed)
  | .processed id (.ok outcome) => ("processed", [id.toJson], jobOutcome outcome)
  | .processed id (.error reason) => ("processed", [id.toJson], failure reason)
  | .stopped => ("stopped", [], .null)

def entry (entry : Entry) : Json :=
  let (name, arguments, result) := parts entry.happening
  .array [.integer entry.time, .string (actorName entry.actor), .string name, .array arguments,
    result]

/-- Order by time, then by who made the call. -/
def noLater (left right : Entry) : Bool :=
  decide (left.time < right.time) ||
    (left.time == right.time && decide (actorName left.actor ≤ actorName right.actor))

/-- All that happened, in the order of time; what one actor did at one time stays
in its order. -/
def toJson (services : Services) : Json :=
  .array ((services.history.mergeSort noLater).map entry)

end Journal

end BuildFleet
