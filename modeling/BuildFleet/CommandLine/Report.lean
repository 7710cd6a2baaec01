import BuildFleet.Job.Basic
import BuildFleet.Json.Writer
import BuildFleet.Settings.Reading
import BuildFleet.Build.Basic
import BuildFleet.Worker.Info

/-!
# What commands print
-/

namespace BuildFleet.CommandLine

/-- A text with blanks behind it, up to a width. -/
def leftColumn (width : Nat) (text : String) : String :=
  text ++ String.ofList (List.replicate (width - text.length) ' ')

/-- A text with blanks before it, up to a width. -/
def rightColumn (width : Nat) (text : String) : String :=
  String.ofList (List.replicate (width - text.length) ' ') ++ text

def lines (texts : List String) : String := String.join (texts.map (· ++ "\n"))

/-- An instant for people: with a blank before the time, and UTC behind it. -/
def instantPhrase (instant : Instant) : String :=
  let characters := instant.text.toList.dropLast.map fun character =>
    if character = 'T' then ' ' else character
  String.ofList characters ++ " UTC"

/-- The lines about the jobs that a submission made. -/
def submittedReport (jobs : List Submitted) : String :=
  lines (jobs.map fun submitted =>
    leftColumn 12 submitted.target.name ++ " " ++ submitted.jobId.text)

/-- A line of the report on a job, if there is something to say. -/
def jobLine (label : String) (text : Option String) : List String :=
  (text.map fun text => leftColumn 10 (label ++ ":") ++ text).toList

def resultLines (result : JobResult) : List String :=
  jobLine "Exit" (result.exitCode.map toString) ++
    jobLine "Cause" (result.cause.map FailureCause.text) ++
    jobLine "Elapsed" (some (toString (result.elapsedMs / 1000) ++ "s")) ++
    jobLine "Log" result.logRef ++
    jobLine "Artifact" result.artifactRef

def jobReport (job : Job) : String :=
  lines (
    jobLine "Job" (some job.id.text) ++
    jobLine "Target" (some job.target.name) ++
    jobLine "Status" (some job.status.name) ++
    jobLine "Attempts" (some (toString job.attemptCount)) ++
    jobLine "Owner" (job.owner.map (·.text)) ++
    jobLine "Lease" (job.leaseExpiry.map fun expiry => "until " ++ instantPhrase expiry) ++
    jobLine "Created" (some (instantPhrase job.createdAt)) ++
    (job.result.map resultLines).getD [] ++
    jobLine "Payload" (some job.payload.compact))

/-- A row of the table of targets. -/
def targetRow (target queued running : String) : String :=
  leftColumn 14 target ++ " " ++ rightColumn 7 queued ++ " " ++ rightColumn 7 running

def workerRow (worker : WorkerInfo) : String :=
  leftColumn 40 worker.id.text ++ " " ++ leftColumn 12 worker.target.name ++ " last seen " ++
    instantPhrase worker.lastSeen

def fleetReport (status : FleetStatus) : String :=
  lines (
    targetRow "TARGET" "QUEUED" "RUNNING" ::
    status.targets.map (fun summary =>
      targetRow summary.target.name (toString summary.queued) (toString summary.running)) ++
    "" ::
    (if status.workers.isEmpty then ["No workers online"] else status.workers.map workerRow))

/-- The report on a configuration that is accepted. -/
def settingsReport (settings : Settings) : String :=
  lines (
    "Configuration is valid" ::
    ("Targets: " ++ ", ".intercalate (settings.targets.targets.map (·.name))) ::
    (settings.worker.map fun worker => "Worker target: " ++ worker.target).toList)

def settingsProblem (message : String) : String := lines ["Configuration error: " ++ message]

def helpText : String :=
  lines [
    "BuildIt job dispatch CLI",
    "",
    "Usage: buildit [OPTIONS] <COMMAND>",
    "",
    "Commands:",
    "  submit    Submit a package build for one or more targets or target groups",
    "  show      Show a job",
    "  cancel    Cancel a queued or running job",
    "  status    Show queue depth and online workers",
    "  worker    Run a worker agent for the configured target",
    "  validate  Validate a configuration file",
    "  help      Print this message or the help of the given subcommand(s)",
    "",
    "Options:",
    "      --api-url <API_URL>  API server URL",
    "      --token <TOKEN>      Bearer token for submissions and cancellation",
    "      --config <CONFIG>    Path to the configuration file",
    "      --log-json           Emit logs as JSON",
    "  -h, --help               Print help"]

end BuildFleet.CommandLine
