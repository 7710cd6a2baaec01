import BuildFleet.Identity.Basic
import BuildFleet.Target.Basic
import BuildFleet.Time.Rfc3339

/-!
# Known workers and the load of targets
-/

namespace BuildFleet

/-- What is known of a worker process. -/
structure WorkerInfo where
  id : WorkerId
  hostname : String
  target : Target
  process : Nat
  lastSeen : Instant
deriving DecidableEq

namespace WorkerInfo

def toJson (info : WorkerInfo) : Json :=
  .object [
    ("id", info.id.toJson),
    ("hostname", .string info.hostname),
    ("target", info.target.toJson),
    ("pid", .integer info.process),
    ("last_seen", info.lastSeen.toJson)]

def reader : Json.Reader WorkerInfo :=
  Json.RecordReader.read
    (WorkerInfo.mk <$>
      .required "id" WorkerId.reader <*>
      .required "hostname" Json.readString <*>
      .required "target" Target.reader <*>
      .required "pid" Json.readNat32 <*>
      .required "last_seen" Instant.reader)
    "WorkerInfo"

end WorkerInfo

/-- How many jobs of a target wait and how many are leased. -/
structure TargetSummary where
  target : Target
  queued : Int
  running : Int
deriving DecidableEq, Repr

namespace TargetSummary

def toJson (summary : TargetSummary) : Json :=
  .object [
    ("target", summary.target.toJson),
    ("queued", .integer summary.queued),
    ("running", .integer summary.running)]

def reader : Json.Reader TargetSummary :=
  Json.RecordReader.read
    (TargetSummary.mk <$>
      .required "target" Target.reader <*>
      .required "queued" Json.readInt64 <*>
      .required "running" Json.readInt64)
    "TargetSummary"

end TargetSummary

/-- The load of every target with live jobs, and the workers seen of late. -/
structure FleetStatus where
  targets : List TargetSummary
  workers : List WorkerInfo
deriving DecidableEq

namespace FleetStatus

def toJson (status : FleetStatus) : Json :=
  .object [
    ("targets", .array (status.targets.map TargetSummary.toJson)),
    ("workers", .array (status.workers.map WorkerInfo.toJson))]

def reader : Json.Reader FleetStatus :=
  Json.RecordReader.read
    (FleetStatus.mk <$>
      .required "targets" (Json.readList TargetSummary.reader) <*>
      .required "workers" (Json.readList WorkerInfo.reader))
    "FleetStatus"

end FleetStatus

end BuildFleet
