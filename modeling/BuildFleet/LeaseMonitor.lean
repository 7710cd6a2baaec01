import BuildFleet.Backoff
import BuildFleet.Services.Basic

/-!
# The lease monitor

Each scan returns jobs whose lease has expired to the queue, or gives them up,
and publishes queued jobs again that nobody took for one scan interval. Nothing
else in the fleet notices that a worker is gone.
-/

namespace BuildFleet

/-- What a scan did. -/
structure ScanReport where
  requeued : Nat
  lost : Nat
  republished : Nat
deriving DecidableEq, Repr

def ScanReport.toJson (report : ScanReport) : Json :=
  .object [
    ("requeued", .integer report.requeued),
    ("lost", .integer report.lost),
    ("republished", .integer report.republished)]

structure LeaseMonitor where
  scanInterval : Span
  batchSize : Int
deriving DecidableEq, Repr

namespace LeaseMonitor

/-- Publish a job; a failure is passed over. -/
def publishAgain (job : Job) : Action Unit := do
  let _ ← (Services.publish job.target job.id).attempt
  return ()

/-- Deal with expired jobs one after the other. A transient failure ends the
scan, any other one only leaves its job as it is. -/
def expireEach : List Job → ScanReport → Action ScanReport
  | [], report => return report
  | job :: rest, report => do
    match ← (Services.expireLease job.id).attempt with
    | .ok (some .requeued) =>
      publishAgain job
      expireEach rest { report with requeued := report.requeued + 1 }
    | .ok (some .lost) => expireEach rest { report with lost := report.lost + 1 }
    | .ok none => expireEach rest report
    | .error failure =>
      if failure.isTransient then .fail failure else expireEach rest report

/-- Publish stale jobs one after the other. -/
def republishEach : List Job → ScanReport → Action ScanReport
  | [], report => return report
  | job :: rest, report => do
    publishAgain job
    republishEach rest { report with republished := report.republished + 1 }

/-- One scan. -/
def scan (monitor : LeaseMonitor) : Action ScanReport := do
  let expired ← Services.expiredLeases monitor.batchSize
  let report ← expireEach expired ⟨0, 0, 0⟩
  let stale ← Services.staleQueued monitor.scanInterval monitor.batchSize
  republishEach stale report

/-- The delay before the next scan: the interval, or the backoff while the store
cannot be reached. -/
def nextDelay (monitor : LeaseMonitor) (backoff : Backoff) :
    Except Failure ScanReport → Span × Backoff
  | .ok _ => (monitor.scanInterval, backoff.reset)
  | .error failure =>
    if failure.isTransient then backoff.take else (monitor.scanInterval, backoff)

end LeaseMonitor

end BuildFleet
