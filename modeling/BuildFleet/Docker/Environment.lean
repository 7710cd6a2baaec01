import BuildFleet.Build.Variables
import BuildFleet.Docker.Request
import BuildFleet.Text.Blank
import BuildFleet.Text.Utf8

/-!
# Builds in containers

Each job is built in a container that is named for it. A container that an
earlier attempt at the job has left behind is removed before a new one is made,
and the container is removed when its build has ended or is cancelled.
-/

namespace BuildFleet.Docker

/-- The environment: what containers are made of. -/
structure Environment where
  image : String
  /-- The command to run; none stands for that of the image. -/
  command : List String
deriving DecidableEq, Repr

/-- The name of the container of a job. -/
def containerName (job : JobId) : String := "buildit-job-" ++ job.text

/-- A status of sixty-four bits, as one of thirty-two: the lower bits count. -/
def exitStatus (status : Int) : Int := Int.bmod status 4294967296

def executionFailed (step : String) (fault : Fault) : Failure :=
  .executionFailed ("Failed to " ++ step ++ " container: " ++ fault.text)

/-- Remove a container. One that is gone already needs no removing. -/
def remove (name : String) : Dialogue (Except Failure Unit) := do
  match ← Dialogue.request (.remove name) with
  | .ok () => return .ok ()
  | .error (.refused 404 _) => return .ok ()
  | .error fault => return .error (executionFailed "remove" fault)

namespace Environment

/-- The container for a build. -/
def plan (environment : Environment) (spec : BuildSpec) : ContainerPlan :=
  { name := containerName spec.jobId
    image := environment.image
    command := if environment.command.isEmpty then none else some environment.command
    environment := spec.environmentValues.map fun (name, value) => name ++ "=" ++ value }

/-- Start a build. An image that cannot be pulled may be there already. -/
def spawn (environment : Environment) (spec : BuildSpec) :
    Dialogue (Except Failure BuildHandle) := do
  let plan := environment.plan spec
  let _ ← Dialogue.request (.pull environment.image)
  match ← remove plan.name with
  | .error failure => return .error failure
  | .ok () =>
    match ← Dialogue.request (.create plan) with
    | .error fault => return .error (executionFailed "create" fault)
    | .ok id =>
      match ← Dialogue.request (.start plan.name) with
      | .error fault => return .error (executionFailed "start" fault)
      | .ok () => return .ok ⟨spec.jobId, id, "docker"⟩

end Environment

/-- A piece of output as a line: what does not decode is replaced, and blanks at
its end are dropped. -/
def lineOfFrame (frame : Frame) : LogStream × String :=
  (frame.stream, String.ofList (Text.trimEnd (Text.decodeBytes frame.bytes).toList))

/-- The lines that a build writes. Faults on the way are passed over. -/
def logs (handle : BuildHandle) : Dialogue (List (LogStream × String)) := do
  let frames ← Dialogue.request (.follow (containerName handle.jobId))
  return frames.filterMap fun frame => frame.toOption.map lineOfFrame

/-- Wait for the end of a build, and remove its container. -/
def await (handle : BuildHandle) : Dialogue (Except Failure BuildOutput) := do
  let name := containerName handle.jobId
  let finish (exitCode : Option Int) : Dialogue (Except Failure BuildOutput) := do
    let _ ← remove name
    return .ok ⟨exitCode, none, none⟩
  match ← Dialogue.request (.await name) with
  | .silent => finish none
  | .exited status => finish (some (exitStatus status))
  | .failed status => finish (some (exitStatus status))
  | .fault fault => return .error (.executionFailed ("Failed to wait for container: " ++ fault.text))

/-- End a build. A container that cannot be stopped is removed all the same. -/
def cancel (handle : BuildHandle) : Dialogue (Except Failure Unit) := do
  let name := containerName handle.jobId
  let _ ← Dialogue.request (.stop name)
  remove name

end BuildFleet.Docker
