import BuildFleet.Build.LineReader
import BuildFleet.Build.Variables
import BuildFleet.Native.Course
import BuildFleet.Native.Table

/-!
# Builds as processes

Each build is a process of the worker's machine. It is given the payload as its
input, its status decides whether the build succeeds, and its output is the log.
-/

namespace BuildFleet.Native

/-- What every build runs, and where. -/
structure Environment where
  command : List String
  workingDirectory : Option String
  /-- There is something to run. -/
  hasCommand : command ≠ []
deriving DecidableEq

namespace Environment

/-- The environment for a command. -/
def ofCommand (command : List String) (workingDirectory : Option String) :
    Except Failure Environment :=
  if hasCommand : command ≠ [] then .ok ⟨command, workingDirectory, hasCommand⟩
  else .error (.invalidPayload "process environment needs a command")

/-- The variables that processes of the worker have. -/
def machineVariables : List (String × String) :=
  [("HOME", "/root"), ("PATH", "/usr/local/sbin:/usr/local/bin:/usr/sbin:/usr/bin:/sbin:/bin")]

/-- The length from which on an argument or a variable is too long to be handed on. -/
def textLimit : Nat := 131072

def holdsEnd (text : String) : Bool := text.toList.contains '\x00'

/-- Start a build, and foresee its course. -/
def start (environment : Environment) (spec : BuildSpec) : Except SystemFault Course := do
  let values := (machineVariables ++ spec.environmentValues).foldl
    (fun entries (name, value) => Shell.setEntry entries name value) []
  let texts := environment.command ++ values.map fun (name, value) => name ++ "=" ++ value
  if (texts ++ environment.workingDirectory.toList).any holdsEnd then throw .endOfText
  let directory ← match environment.workingDirectory with
    | some path => Machine.changeDirectory "/" path
    | none => .ok "/"
  let name := environment.command.head environment.hasCommand
  let command ← Machine.findCommand ((values.lookup "PATH").getD "") directory name
  if texts.any fun text => textLimit ≤ text.utf8ByteSize then throw .argumentsTooLong
  return Course.ofCommand values.reverse directory spec.payloadText.toUTF8.toList command name
    environment.command.tail

end Environment

/-- A build and its process. -/
structure Run where
  number : Nat
  /-- The time of its start in microseconds. -/
  startedAt : Nat
  course : Course
  /-- When its supervisor was done. -/
  endedAt : Option Nat
deriving DecidableEq

/-- When the process of a run ends by itself. -/
def Run.due (run : Run) : Option Nat := run.course.endsAt.map (run.startedAt + ·)

/-- The lines of a run that has ended, each stream by itself. A killed build has
written what was written before it was killed. -/
def Run.lines (run : Run) (endedAt : Nat) : List (LogStream × String) :=
  let written := run.course.writes.filter fun (time, _) =>
    some endedAt = run.due || run.startedAt + time < endedAt
  let ofStream (stream : LogStream) : List (LogStream × String) :=
    let chunks := written.filterMap fun (_, other, bytes) =>
      if other = stream then some bytes else none
    (LineReader.linesOf chunks).map (stream, ·)
  ofStream .standardOutput ++ ofStream .standardError

/-- An environment with its builds, at a time. -/
structure Workshop where
  environment : Environment
  table : Table
  runs : List Run
  /-- Who reads logs, by numbers, each with the number of the run. -/
  logs : List (Nat × Nat)
  /-- The time in microseconds. -/
  clock : Nat
deriving DecidableEq

namespace Workshop

def ofEnvironment (environment : Environment) : Workshop := ⟨environment, .empty, [], [], 0⟩

def run? (workshop : Workshop) (number : Nat) : Option Run :=
  workshop.runs.find? (·.number = number)

def killRequested (workshop : Workshop) (run : Run) : Bool :=
  (workshop.table.build? run.number).any (·.killRequested)

/-- The supervisor of a run is done. -/
def finishRun (workshop : Workshop) (run : Run) (time : Nat) (ended : BuildEnd) : Workshop :=
  { workshop with
    table := workshop.table.endBuild run.number ended
    runs := workshop.runs.map fun other =>
      if other.number = run.number then { other with endedAt := some time } else other }

/-- End the runs that are to be killed. -/
def reap (workshop : Workshop) : Workshop :=
  workshop.runs.foldl (fun state run =>
    if run.endedAt.isNone && workshop.killRequested run then
      state.finishRun run workshop.clock Table.killed
    else state) workshop

/-- Let the time come, and the processes end that are due until then, in order. -/
def advanceTo (workshop : Workshop) (time : Nat) : Workshop :=
  let workshop := workshop.reap
  let due := workshop.runs.filterMap fun run =>
    match run.endedAt, run.due with
    | none, some due => if due ≤ time then some (due, run) else none
    | _, _ => none
  let ended := (due.mergeSort fun left right => left.1 ≤ right.1).foldl (fun state (due, run) =>
    state.finishRun run due (.exited (run.course.status.map fun status => (status : Int)))) workshop
  { ended with clock := max workshop.clock time }

/-- Let time come until a run has ended. There is no such time if it never ends. -/
def advancePast (workshop : Workshop) (number : Nat) : Option Workshop := do
  let workshop := workshop.reap
  let run ← workshop.run? number
  match run.endedAt with
  | some _ => return workshop
  | none => return workshop.advanceTo (max workshop.clock (← run.due))

/-! ## Calls on builds -/

def spawn (workshop : Workshop) (spec : BuildSpec) : Workshop × Except Failure BuildHandle :=
  match workshop.environment.start spec with
  | .error fault => (workshop, .error (.executionFailed ("Failed to start build: " ++ fault.text)))
  | .ok course =>
    let (table, number) := workshop.table.spawn spec.jobId
    ({ workshop with table, runs := ⟨number, workshop.clock, course, none⟩ :: workshop.runs },
      .ok ⟨spec.jobId, toString number, "process"⟩)

/-- Wait for the end of the latest build of a job. No answer is given while the
build never ends. -/
def await (workshop : Workshop) (job : JobId) :
    Option (Workshop × Except Failure BuildOutput) :=
  match workshop.table.beginWait job with
  | .error failure => some (workshop, .error failure)
  | .ok (table, number) => do
    let workshop ← advancePast { workshop with table } number
    let (table, ended) ← workshop.table.finishWait number
    return ({ workshop with table }, ended.output)

def cancel (workshop : Workshop) (job : JobId) : Workshop :=
  { workshop with table := workshop.table.cancel job }

/-- A reader takes the log of the latest build of a job. -/
def takeLog (workshop : Workshop) (reader : Nat) (job : JobId) : Workshop × Except Failure Unit :=
  match workshop.table.takeLog job with
  | .error failure => (workshop, .error failure)
  | .ok (table, number) =>
    ({ workshop with table, logs := (reader, number) :: workshop.logs }, .ok ())

/-- Let time pass, in milliseconds. -/
def sleep (workshop : Workshop) (milliseconds : Nat) : Workshop :=
  workshop.advanceTo (workshop.clock + milliseconds * 1000)

/-- Read a log to its end. There is nothing to read without a log, and nothing
left of one that has been read. No answer is given while the build never ends. -/
def readLog (workshop : Workshop) (reader : Nat) :
    Option (Workshop × List (LogStream × String)) :=
  match workshop.logs.lookup reader with
  | none => some (workshop, [])
  | some number => do
    let workshop ← workshop.advancePast number
    let run ← workshop.run? number
    let logs := workshop.logs.filter fun log => log.1 ≠ reader
    return ({ workshop with logs }, run.lines (← run.endedAt))

end Workshop

end BuildFleet.Native
