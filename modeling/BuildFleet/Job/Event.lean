import BuildFleet.Job.Basic

/-!
# Events

Every transition of a job into a terminal status leaves one event for the
front-ends.
-/

namespace BuildFleet

structure JobEvent where
  /-- The place of the event in the outbox, counted from one. -/
  number : Int
  jobId : JobId
  target : Target
  status : JobStatus
  result : Option JobResult
  createdAt : Instant
deriving DecidableEq

namespace JobEvent

/-- What front-ends tell repeated deliveries by. -/
def identity (event : JobEvent) : JobId × JobStatus := (event.jobId, event.status)

/-- The event of a job that has just reached a terminal status. -/
def ofJob (number : Int) (job : Job) (now : Instant) : JobEvent :=
  { number, jobId := job.id, target := job.target, status := job.status
    result := job.result, createdAt := now }

def toJson (event : JobEvent) : Json :=
  .object [
    ("id", .integer event.number),
    ("job_id", event.jobId.toJson),
    ("target", event.target.toJson),
    ("status", event.status.toJson),
    ("result", .ofOption JobResult.toJson event.result),
    ("created_at", event.createdAt.toJson)]

def reader : Json.Reader JobEvent :=
  Json.RecordReader.read
    (JobEvent.mk <$>
      .required "id" Json.readInt64 <*>
      .required "job_id" JobId.reader <*>
      .required "target" Target.reader <*>
      .required "status" JobStatus.reader <*>
      .nullable "result" JobResult.reader <*>
      .required "created_at" Instant.reader)
    "JobEvent"

end JobEvent

end BuildFleet
