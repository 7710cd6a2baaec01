import BuildFleet.Identity.Basic
import BuildFleet.Target.Basic
import BuildFleet.Time.Rfc3339
import BuildFleet.Ordered

/-!
# Builds

A build environment runs the payload of one job. A specification says what to
run, a handle names the running build, and an output says how it ended.
-/

namespace BuildFleet

/-- What a build environment is asked to run. -/
structure BuildSpec where
  jobId : JobId
  target : Target
  payload : Json
  /-- Extra environment variables, in the order of their names. -/
  environment : List (String × String)
  /-- How long the build may take. -/
  timeout : Option Span
deriving DecidableEq

/-- A running or finished build. -/
structure BuildHandle where
  jobId : JobId
  /-- What the environment knows the build by. -/
  executorId : String
  executorName : String
deriving DecidableEq, Repr

/-- How a build that ran to its end ended. -/
structure BuildOutput where
  exitCode : Option Int
  logRef : Option String
  artifactRef : Option String
deriving DecidableEq, Repr, Inhabited

/-- A build succeeds when it exits with status zero. -/
def BuildOutput.success (output : BuildOutput) : Bool := output.exitCode == some 0

/-- Where a line of a log comes from. -/
inductive LogStream where
  | standardOutput
  | standardError
  | system
deriving DecidableEq, Repr

/-- A line of a log. -/
structure LogLine where
  timestamp : Instant
  stream : LogStream
  content : String
deriving DecidableEq

/-- A job made by a submission. -/
structure Submitted where
  target : Target
  jobId : JobId
deriving DecidableEq, Repr

/-! ## JSON forms -/

def environmentJson (environment : List (String × String)) : Json :=
  .object (environment.map fun entry => (entry.1, .string entry.2))

def BuildSpec.toJson (spec : BuildSpec) : Json :=
  .object [
    ("job_id", spec.jobId.toJson),
    ("target", spec.target.toJson),
    ("payload", spec.payload),
    ("env", environmentJson spec.environment),
    ("timeout", .ofOption Span.toJson spec.timeout)]

def BuildSpec.reader : Json.Reader BuildSpec :=
  Json.RecordReader.read
    (BuildSpec.mk <$>
      .required "job_id" JobId.reader <*>
      .required "target" Target.reader <*>
      .required "payload" Json.readValue <*>
      (Ordered.ofEntries <$> .required "env" (Json.readDictionary Json.readString)) <*>
      .nullable "timeout" Span.reader)
    "BuildSpec"

def BuildHandle.toJson (handle : BuildHandle) : Json :=
  .object [
    ("job_id", handle.jobId.toJson),
    ("executor_id", .string handle.executorId),
    ("executor_name", .string handle.executorName)]

def BuildHandle.reader : Json.Reader BuildHandle :=
  Json.RecordReader.read
    (BuildHandle.mk <$>
      .required "job_id" JobId.reader <*>
      .required "executor_id" Json.readString <*>
      .required "executor_name" Json.readString)
    "BuildHandle"

def BuildOutput.toJson (output : BuildOutput) : Json :=
  .object [
    ("exit_code", .ofOption .integer output.exitCode),
    ("log_ref", .ofOption .string output.logRef),
    ("artifact_ref", .ofOption .string output.artifactRef)]

def BuildOutput.reader : Json.Reader BuildOutput :=
  Json.RecordReader.read
    (BuildOutput.mk <$>
      .nullable "exit_code" Json.readInt32 <*>
      .nullable "log_ref" Json.readString <*>
      .nullable "artifact_ref" Json.readString)
    "BuildOutput"

def LogStream.name : LogStream → String
  | standardOutput => "Stdout"
  | standardError => "Stderr"
  | system => "System"

def LogStream.reader : Json.Reader LogStream :=
  Json.readChoice [("Stdout", .standardOutput), ("Stderr", .standardError), ("System", .system)]

def LogLine.toJson (line : LogLine) : Json :=
  .object [
    ("timestamp", line.timestamp.toJson),
    ("stream", .string line.stream.name),
    ("content", .string line.content)]

def LogLine.reader : Json.Reader LogLine :=
  Json.RecordReader.read
    (LogLine.mk <$>
      .required "timestamp" Instant.reader <*>
      .required "stream" LogStream.reader <*>
      .required "content" Json.readString)
    "LogLine"

def Submitted.toJson (submitted : Submitted) : Json :=
  .object [("target", submitted.target.toJson), ("job_id", submitted.jobId.toJson)]

def Submitted.reader : Json.Reader Submitted :=
  Json.RecordReader.read
    (Submitted.mk <$>
      .required "target" Target.reader <*>
      .required "job_id" JobId.reader)
    "Submitted"

end BuildFleet
