import BuildFleet.Job.Status
import BuildFleet.Identity.Basic

/-!
# The result of a job

The outcome that a worker reports when a build has ended.
-/

namespace BuildFleet

/-- Why a build failed. -/
inductive FailureCause where
  /-- The build exited with a status other than zero. -/
  | exit
  /-- The build took longer than it may. -/
  | timeout
  /-- The build environment itself failed. -/
  | environment (message : String)
deriving DecidableEq, Repr, Inhabited

namespace FailureCause

/-- The kind of a cause, and a message for those that carry one. -/
def toJson : FailureCause → Json
  | exit => .object [("kind", .string "exit")]
  | timeout => .object [("kind", .string "timeout")]
  | environment message =>
    .object [("kind", .string "environment"), ("message", .string message)]

/-- The kinds of causes; the kind settles how the message is read. -/
inductive Kind where
  | exit
  | timeout
  | environment
deriving DecidableEq

def Kind.reader : Json.Reader Kind :=
  Json.readChoice [("exit", .exit), ("timeout", .timeout), ("environment", .environment)]

/-- A cause without a message admits `null` in its place. -/
def readNothing (name : String) : Json.Reader Unit
  | _, .null => .ok ()
  | _, other => Json.wrongKind ("unit variant FailureCause::" ++ name) other

/-- Read the message that belongs to a kind. -/
def readMessage : Kind → Json.Reader FailureCause
  | .exit => fun context value => (readNothing "Exit" context value).map fun _ => exit
  | .timeout => fun context value => (readNothing "Timeout" context value).map fun _ => timeout
  | .environment => fun context value => (Json.readString context value).map environment

/-- Find the kind and the message among the members and pass over the others. -/
def collect (context : Json.Context) :
    List (Option String × Json.Source) → Option Json.Source → Option Json.Source →
    Except Json.Fault (Option Json.Source × Option Json.Source)
  | [], kind, message => .ok (kind, message)
  | (none, _) :: _, _, _ => .error .form
  | (some name, value) :: rest, kind, message =>
    if name = "kind" then
      match kind with
      | some _ => .error (Json.duplicateField name)
      | none => do
        let found ← Kind.reader context value
        match message with
        | some message => let _ ← readMessage found context message
        | none => pure ()
        collect context rest (some value) message
    else if name = "message" then
      match message with
      | some _ => .error (Json.duplicateField name)
      | none => do
        match kind with
        | some kind =>
          let found ← Kind.reader context kind
          let _ ← readMessage found context value
        | none => let _ ← Json.readValue context value
        collect context rest kind (some value)
    else do
      Json.skip value
      collect context rest kind message

/-- A cause is an object with a kind, or the array of its kind and its message. -/
def reader : Json.Reader FailureCause
  | context, .object members closed => do
    let inner ← context.enter
    let (kind, message) ← collect inner members none none
    if ¬ closed then throw .form
    match kind, message with
    | none, _ => throw (Json.missingField "kind")
    | some kind, message =>
      match ← Kind.reader inner kind, message with
      | found, some message => readMessage found inner message
      | .exit, none => .ok exit
      | .timeout, none => .ok timeout
      | .environment, none => throw (Json.missingField "message")
  | context, .array items closed => do
    let inner ← context.enter
    let expected := "adjacently tagged enum FailureCause"
    match if closed then items else items ++ [.broken] with
    | [] => throw (Json.wrongLength 0 expected)
    | [kind] =>
      let _ ← Kind.reader inner kind
      throw (Json.wrongLength 1 expected)
    | kind :: message :: rest =>
      let cause ← readMessage (← Kind.reader inner kind) inner message
      if rest.isEmpty then .ok cause
      else if context.fromText then throw .form
      else throw (Json.wrongLength items.length "fewer elements in array")
  | _, other => Json.wrongKind "adjacently tagged enum FailureCause" other

/-- A cause as messages of the program show it. -/
def text : FailureCause → String
  | exit => "Exit"
  | timeout => "Timeout"
  | environment message => "Environment(" ++ Text.quoted message ++ ")"

end FailureCause

/-- What a worker reports when a build has ended. -/
structure JobResult where
  success : Bool
  exitCode : Option Int
  /-- Where the log of the build can be read. -/
  logRef : Option String
  /-- Where the artifacts of the build are kept. -/
  artifactRef : Option String
  cause : Option FailureCause
  elapsedMs : Nat
  worker : Option WorkerId
deriving DecidableEq, Repr, Inhabited

namespace JobResult

def succeeded (exitCode : Option Int) : JobResult :=
  { success := true, exitCode, logRef := none, artifactRef := none, cause := none
    elapsedMs := 0, worker := none }

def failed (cause : FailureCause) : JobResult :=
  { success := false, exitCode := none, logRef := none, artifactRef := none
    cause := some cause, elapsedMs := 0, worker := none }

/-- The terminal status that a result leads to. -/
def status (result : JobResult) : JobStatus :=
  if result.success then .succeeded else .failed

def toJson (result : JobResult) : Json :=
  .object [
    ("success", .bool result.success),
    ("exit_code", .ofOption .integer result.exitCode),
    ("log_ref", .ofOption .string result.logRef),
    ("artifact_ref", .ofOption .string result.artifactRef),
    ("cause", .ofOption FailureCause.toJson result.cause),
    ("elapsed_ms", .integer result.elapsedMs),
    ("worker", .ofOption WorkerId.toJson result.worker)]

def reader : Json.Reader JobResult :=
  Json.RecordReader.read
    (JobResult.mk <$>
      .required "success" Json.readBool <*>
      .nullable "exit_code" Json.readInt32 <*>
      .nullable "log_ref" Json.readString <*>
      .nullable "artifact_ref" Json.readString <*>
      .nullable "cause" FailureCause.reader <*>
      .required "elapsed_ms" Json.readNat64 <*>
      .nullable "worker" WorkerId.reader)
    "JobResult"

end JobResult

end BuildFleet
