import BuildFleet.Job.Basic

/-!
# Jobs as rows of a table

A table keeps the status of a job as a name, its count of attempts as a signed
number and its result as JSON. A row that does not describe a job is corrupt.
-/

namespace BuildFleet

/-! ## Failures of the storage -/

/-- Failures of the connection to a database. -/
inductive ConnectionFailure where
  | inputOutput (message : String)
  | security (message : String)
  | poolTimedOut
  | poolClosed
  | workerCrashed
deriving DecidableEq, Repr

/-- Failures of a query on a working connection. -/
inductive QueryFailure where
  | rowNotFound
  | protocol (message : String)
  | columnNotFound (name : String)
deriving DecidableEq, Repr

/-- Why the storage below the fleet failed. -/
inductive StorageFailure where
  | notFound (what : String)
  | corrupt (what : String)
  | connection (cause : ConnectionFailure)
  | query (cause : QueryFailure)
  /-- A migration that the database has seen is not known any more. -/
  | migrationMissing (version : Nat)
deriving DecidableEq, Repr

def ConnectionFailure.text : ConnectionFailure → String
  | inputOutput message => "error communicating with database: " ++ message
  | security message =>
    "error occurred while attempting to establish a TLS connection: " ++ message
  | poolTimedOut => "pool timed out while waiting for an open connection"
  | poolClosed => "attempted to acquire a connection on a closed pool"
  | workerCrashed => "attempted to communicate with a crashed background worker"

def QueryFailure.text : QueryFailure → String
  | rowNotFound =>
    "no rows returned by a query that expected to return at least one row"
  | protocol message => "encountered unexpected or invalid data: " ++ message
  | columnNotFound name => "no column found for name: " ++ name

namespace StorageFailure

def text : StorageFailure → String
  | notFound what => "not found: " ++ what
  | corrupt what => "corrupt row: " ++ what
  | connection cause => "database error: " ++ cause.text
  | query cause => "database error: " ++ cause.text
  | migrationMissing version =>
    "migration error: migration " ++ toString version ++
      " was previously applied but is missing in the resolved migrations"

/-- The failure that callers of the fleet see. Trouble with the connection may
pass; all else will not. -/
def failure : StorageFailure → Failure
  | notFound what => .notFound what
  | connection cause => .unavailable cause.text
  | corrupt what => .internal (corrupt what).text
  | query cause => .internal (query cause).text
  | migrationMissing version => .internal (migrationMissing version).text

end StorageFailure

/-! ## Rows -/

structure JobRow where
  id : JobId
  target : String
  payload : Json
  status : String
  owner : Option String
  leaseExpiry : Option Instant
  leaseMs : Int
  attemptCount : Int
  createdAt : Instant
  updatedAt : Instant
  /-- Nothing where the column is empty. -/
  result : Option Json
deriving DecidableEq

namespace JobRow

def readStatus (name : String) : Except StorageFailure JobStatus :=
  match JobStatus.ofName name with
  | .ok status => .ok status
  | .error _ => .error (.corrupt ("unknown status '" ++ name ++ "'"))

def readAttempts (count : Int) : Except StorageFailure Nat :=
  if 0 ≤ count then .ok count.toNat
  else .error (.corrupt ("attempt_count " ++ toString count))

def readResult : Option Json → Except StorageFailure (Option JobResult)
  | none => .ok none
  | some value =>
    match Json.readAs JobResult.reader value with
    | .ok result => .ok (some result)
    | .error (.kind message) => .error (.corrupt ("invalid result: " ++ message))
    | .error .form => .error (.corrupt "invalid result: not JSON")

/-- The job that a row describes. -/
def toJob (row : JobRow) : Except StorageFailure Job := do
  let status ← readStatus row.status
  let attempts ← readAttempts row.attemptCount
  let result ← readResult row.result
  .ok {
    id := row.id, target := ⟨row.target⟩, payload := row.payload, status
    owner := row.owner.map WorkerId.mk, leaseExpiry := row.leaseExpiry, leaseMs := row.leaseMs
    attemptCount := attempts, createdAt := row.createdAt, updatedAt := row.updatedAt, result }

/-- The row of a job. -/
def ofJob (job : Job) : JobRow :=
  { id := job.id, target := job.target.name, payload := job.payload, status := job.status.name
    owner := job.owner.map WorkerId.text, leaseExpiry := job.leaseExpiry, leaseMs := job.leaseMs
    attemptCount := job.attemptCount, createdAt := job.createdAt, updatedAt := job.updatedAt
    result := job.result.map JobResult.toJson }

end JobRow

end BuildFleet
