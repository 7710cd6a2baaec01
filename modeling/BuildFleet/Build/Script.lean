import BuildFleet.Build.Basic
import BuildFleet.Failure

/-!
# Scripted builds

A build environment can be stood in for by a script that says what becomes of
each call on a build, and how long the build runs.
-/

namespace BuildFleet

/-- What becomes of the calls on one build. A call without a failure succeeds. -/
structure BuildScript where
  spawnFailure : Option Failure
  logsFailure : Option Failure
  waitFailure : Option Failure
  killFailure : Option Failure
  /-- How long the build runs, in milliseconds. -/
  duration : Nat
  output : BuildOutput
deriving DecidableEq

namespace BuildScript

def answer (failure : Option Failure) (value : α) : Except Failure α :=
  match failure with
  | some failure => .error failure
  | none => .ok value

def spawn (script : BuildScript) (spec : BuildSpec) : Except Failure BuildHandle :=
  answer script.spawnFailure ⟨spec.jobId, "", ""⟩

def openLogs (script : BuildScript) : Except Failure Unit := answer script.logsFailure ()

/-- How the build ends when it has run its time. -/
def exit (script : BuildScript) : Except Failure BuildOutput :=
  answer script.waitFailure script.output

def kill (script : BuildScript) : Except Failure Unit := answer script.killFailure ()

/-- A build that exits at once without a status. -/
def immediate : BuildScript := ⟨none, none, none, none, 0, ⟨none, none, none⟩⟩

def failureReader : Json.Reader Failure := fun context value => do
  let (kind, message) ← Json.RecordReader.read
    (Prod.mk <$> .required "kind" Json.readString <*> .required "message" Json.readString)
    "Failure" context value
  match Failure.ofKind? kind message with
  | some failure => .ok failure
  | none => .error (.kind ("unknown failure " ++ kind))

def reader : Json.Reader BuildScript :=
  Json.RecordReader.read
    ((fun spawnFailure logsFailure waitFailure killFailure duration exitCode logRef artifactRef =>
        { spawnFailure, logsFailure, waitFailure, killFailure
          duration := duration.getD 0, output := ⟨exitCode, logRef, artifactRef⟩ }) <$>
      .nullable "spawn_error" failureReader <*>
      .nullable "logs_error" failureReader <*>
      .nullable "wait_error" failureReader <*>
      .nullable "cancel_error" failureReader <*>
      .nullable "run" Json.readNat64 <*>
      .nullable "exit_code" Json.readInt32 <*>
      .nullable "log_ref" Json.readString <*>
      .nullable "artifact_ref" Json.readString)
    "BuildScript"

/-- The script in the member `build` of a payload. Without one the build exits at once. -/
def ofPayload (payload : Json) : BuildScript :=
  match payload.member? "build" with
  | some build => ((Json.readAs reader build).toOption).getD immediate
  | none => immediate

end BuildScript

end BuildFleet
