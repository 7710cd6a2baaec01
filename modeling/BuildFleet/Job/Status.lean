import BuildFleet.Json.Reading
import BuildFleet.Failure

/-!
# The status of a job

A job waits in the queue, is claimed by a worker, runs, and ends in one of four
terminal statuses. A lease that runs out takes it back to the queue, to another
worker or to the end of its attempts.
-/

namespace BuildFleet

inductive JobStatus where
  | queued
  | claimed
  | running
  | succeeded
  | failed
  | cancelled
  | lost
deriving DecidableEq, Repr, Inhabited

namespace JobStatus

def all : List JobStatus := [queued, claimed, running, succeeded, failed, cancelled, lost]

def name : JobStatus → String
  | queued => "queued"
  | claimed => "claimed"
  | running => "running"
  | succeeded => "succeeded"
  | failed => "failed"
  | cancelled => "cancelled"
  | lost => "lost"

/-- The names of the statuses, for readers. -/
def choices : List (String × JobStatus) := all.map fun status => (status.name, status)

/-- The status with this name. -/
def ofName (text : String) : Except Failure JobStatus :=
  match choices.lookup text with
  | some status => .ok status
  | none => .error (.internal ("unknown job status: " ++ text))

/-- No transition leaves a terminal status. -/
def isTerminal : JobStatus → Bool
  | succeeded | failed | cancelled | lost => true
  | queued | claimed | running => false

/-- The statuses in which a worker holds a lease. -/
def isLeased : JobStatus → Bool
  | claimed | running => true
  | queued | succeeded | failed | cancelled | lost => false

/-- Whether one transition leads from a status to the next. A leased job can be
claimed again: another worker has taken over its expired lease. -/
def canBecome : JobStatus → JobStatus → Bool
  | queued, claimed | queued, cancelled => true
  | claimed, queued | claimed, claimed | claimed, running | claimed, cancelled
  | claimed, lost => true
  | running, queued | running, claimed | running, succeeded | running, failed
  | running, cancelled | running, lost => true
  | _, _ => false

/-- The statuses that one transition reaches. -/
def next (status : JobStatus) : List JobStatus := all.filter status.canBecome

def toJson (status : JobStatus) : Json := .string status.name

def reader : Json.Reader JobStatus := Json.readChoice choices

end JobStatus

end BuildFleet
