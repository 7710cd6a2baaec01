import BuildFleet.Shell.Running

/-!
# The course of a process

A process that is started on the machine runs its course: it writes to its log at
certain times, and it ends at some time with a status, by a signal, or never.
Whatever it left running in the background ends with it.
-/

namespace BuildFleet.Native

structure Course where
  /-- What is written, in order of time, which is in microseconds from the start. -/
  writes : List (Nat × LogStream × List UInt8)
  /-- When the process ends, if it ever does. -/
  endsAt : Option Nat
  /-- The status that it ends with, none if a signal ends it. -/
  status : Option Nat
deriving DecidableEq, Repr

namespace Course

/-- How deep commands are run one inside the other. -/
def depth : Nat := 4000

/-- The number that a process has for itself. -/
def firstProcess : Nat := 1

/-- The state in which a process is started. -/
def initialState (environment : List (String × String)) (directory : String)
    (input : List UInt8) (name : String) : Shell.State :=
  { clock := 0, process := firstProcess, name, line := 1
    parameters := environment.foldl (fun entries (name, value) =>
      Shell.setEntry entries name value) []
    exported := environment.map (·.1), arguments := [], status := 0
    input, inputReadyAt := 0
    descriptors := [(0, .input), (1, .log .standardOutput), (2, .log .standardError)]
    writes := [], made := 1, task := 0, tasks := [], lastTask := none, files := []
    functions := [], traps := [], loops := 0, exitOnFailure := false, refuseUnset := false
    directory, killedAt := none }

/-- The writes to the log up to a time. -/
def logged (state : Shell.State) (until? : Option Nat) :
    List (Nat × LogStream × List UInt8) :=
  let inTime := state.writes.reverse.filterMap fun write =>
    match write.channel with
    | .log stream =>
      if until?.all (write.time ≤ ·) then some (write.time, stream, write.bytes) else none
    | _ => none
  inTime.mergeSort fun left right => left.1 ≤ right.1

/-- The course of a command of the machine that is called by a name or a path. -/
def ofCommand (environment : List (String × String)) (directory : String) (input : List UInt8)
    (command name : String) (arguments : List String) : Course :=
  let act := if command = "sh" then Shell.runShell depth arguments
    else Shell.runExternal depth command arguments
  let (result, state) := act.run.run (initialState environment directory input name)
  let ended : Option Nat × Option Nat := match result with
    | .error .endless => (none, none)
    | .error (.killed _ _) => (some state.clock, none)
    | _ => (some state.clock, some state.status)
  let (endsAt, status) := match state.killedAt, ended with
    | some killedAt, (none, _) => (some killedAt, none)
    | some killedAt, (some endsAt, status) =>
      if killedAt < endsAt then (some killedAt, none) else (some endsAt, status)
    | none, ended => ended
  ⟨logged state endsAt, endsAt, status⟩

end Course

end BuildFleet.Native
