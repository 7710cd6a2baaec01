import BuildFleet.Build.Basic
import BuildFleet.Shell.Script
import BuildFleet.Shell.Tools

/-!
# Shells at work

A shell that runs a script has parameters, descriptors and a clock. Nothing takes
time but sleeping. What is written is kept with the time of writing, so that a
script can be run to its end beforehand and be looked at as it was at any time.
-/

namespace BuildFleet.Shell

/-- Where a descriptor leads to. -/
inductive Channel where
  | log (stream : LogStream)
  | input
  | nothing
  | pipe (number : Nat)
  | file (steps : List String)
deriving DecidableEq, Repr

/-- Something that was written. -/
structure Write where
  /-- The time in microseconds. -/
  time : Nat
  /-- The background task that wrote it, zero for the script itself. -/
  task : Nat
  channel : Channel
  bytes : List UInt8
deriving DecidableEq, Repr

/-- A background task. -/
structure Task where
  number : Nat
  /-- When the task ends, if it ever does. -/
  endsAt : Option Nat
  status : Nat
deriving DecidableEq, Repr

/-- Why a script does not go on with the next command. -/
inductive Flow where
  | exit
  /-- A signal ends a process, by their numbers. -/
  | killed (process signal : Nat)
  /-- The command never ends. -/
  | endless
  | broken (levels : Nat)
  | continued (levels : Nat)
  | returned
deriving DecidableEq, Repr

structure State where
  /-- The time in microseconds since the process was started. -/
  clock : Nat
  /-- The number of the process of the shell. -/
  process : Nat
  name : String
  line : Nat
  parameters : List (String × String)
  exported : List String
  arguments : List String
  status : Nat
  input : List UInt8
  /-- When the input has arrived. -/
  inputReadyAt : Nat
  descriptors : List (Nat × Channel)
  /-- What was written, the latest first. -/
  writes : List Write
  /-- How many processes, pipes and tasks there have been. -/
  made : Nat
  /-- The background task that runs, zero for the script itself. -/
  task : Nat
  tasks : List Task
  lastTask : Option Nat
  files : List (List String × List UInt8)
  functions : List (String × Command)
  /-- What to do at signals, by their names. -/
  traps : List (String × String)
  /-- How many loops the command is in. -/
  loops : Nat
  exitOnFailure : Bool
  refuseUnset : Bool
  directory : String
  /-- When a background task ends the first process by a signal. -/
  killedAt : Option Nat

/-- A step of a shell: it changes the state, and the script may not go on. -/
abbrev Act := ExceptT Flow (StateM State)

/-! ## Parameters -/

def setEntry (entries : List (String × String)) (name value : String) : List (String × String) :=
  (name, value) :: entries.filter fun entry => entry.1 ≠ name

namespace State

/-- The value of a parameter. -/
def value? (state : State) (name : String) : Option String :=
  match name with
  | "?" => some (toString state.status)
  | "#" => some (toString state.arguments.length)
  | "$" => some (toString state.process)
  | "!" => state.lastTask.map toString
  | "-" => some ""
  | "0" => some state.name
  | "@" | "*" =>
    if state.arguments.isEmpty then none else some (" ".intercalate state.arguments)
  | _ =>
    match digitsValue 10 name.toList with
    | some (index + 1) => state.arguments[index]?
    | _ => state.parameters.lookup name

def setValue (state : State) (name value : String) : State :=
  { state with parameters := setEntry state.parameters name value }

/-- The value of a parameter as a number. -/
def number (state : State) (name : String) : Int :=
  ((state.value? name).bind fun value => integer? value.toList).getD 0

/-- The environment of commands: the exported parameters, in the order of names. -/
def environment (state : State) : List (String × String) :=
  (state.exported.eraseDups.filterMap fun name =>
    (state.parameters.lookup name).map (name, ·)).mergeSort fun left right => left.1 ≤ right.1

/-! ## Files -/

/-- What is in a file. -/
def content (state : State) (path : String) : Except SystemFault (List UInt8) :=
  match state.files.lookup (Machine.steps state.directory path) with
  | some bytes => .ok bytes
  | none =>
    match Machine.item state.directory path with
    | .ok (.file bytes) => .ok bytes
    | .ok .directory => .error .isDirectory
    | .ok (.command _) => .ok []
    | .error fault => .error fault

def isDirectory? (state : State) (path : String) : Option Bool :=
  match state.files.lookup (Machine.steps state.directory path) with
  | some _ => some false
  | none =>
    match Machine.item state.directory path with
    | .ok item => some (item = .directory)
    | .error _ => none

def setFile (state : State) (steps : List String) (bytes : List UInt8) : State :=
  { state with files := (steps, bytes) :: state.files.filter fun file => file.1 ≠ steps }

/-- The input, if it is open. -/
def openInput (state : State) : List UInt8 :=
  if state.descriptors.lookup 0 = some .input then state.input else []

def toolContext (state : State) : ToolContext :=
  { environment := state.environment, directory := state.directory, content := state.content
    isDirectory? := state.isDirectory?, input := state.openInput }

/-! ## Descriptors -/

def setDescriptor (state : State) (descriptor : Nat) (channel : Option Channel) : State :=
  let others := state.descriptors.filter fun entry => entry.1 ≠ descriptor
  { state with descriptors := match channel with
      | some channel => (descriptor, channel) :: others
      | none => others }

/-- Write bytes to where a descriptor leads to, if it is open. -/
def write (state : State) (descriptor : Nat) (bytes : List UInt8) : Option State :=
  match state.descriptors.lookup descriptor with
  | none | some .input => none
  | some .nothing => some state
  | some (.file steps) =>
    some (state.setFile steps (((state.files.lookup steps).getD []) ++ bytes))
  | some channel =>
    some { state with writes := ⟨state.clock, state.task, channel, bytes⟩ :: state.writes }

/-- What was written to a pipe, which is emptied. -/
def drain (state : State) (pipe : Nat) : State × List UInt8 :=
  let (taken, kept) := state.writes.partition fun write => write.channel = .pipe pipe
  ({ state with writes := kept }, taken.reverse.flatMap (·.bytes))

/-- The state of a shell after a shell inside it has ended: time has passed and
things were written, but parameters and descriptors are its own. -/
def afterInner (outer inner : State) : State :=
  { outer with
    clock := inner.clock, status := inner.status, writes := inner.writes, made := inner.made
    files := inner.files, input := inner.input, killedAt := inner.killedAt }

end State

/-! ## Steps -/

def setStatus (status : Nat) : Act Unit := modify fun state => { state with status }

/-- Write to a descriptor, and tell whether it was open. -/
def say (descriptor : Nat) (bytes : List UInt8) : Act Bool := do
  match (← get).write descriptor bytes with
  | some state => set state; return true
  | none => return false

/-- Complain in the name of the shell. -/
def complain (text : String) : Act Unit := do
  let state ← get
  let _ ← say 2 (lineBytes (state.name ++ ": " ++ toString state.line ++ ": " ++ text))

def fail (text : String) (status : Nat) : Act Unit := do
  complain text
  setStatus status

/-- Let time pass. -/
def pass (microseconds : Nat) : Act Unit :=
  modify fun state => { state with clock := state.clock + microseconds }

/-- Do something and tell how it went. -/
def observe (act : Act Unit) : Act (Option Flow) :=
  tryCatch (do act; return none) fun flow => return (some flow)

/-- Do something in a shell of its own. -/
def isolated (act : Act Unit) : Act Unit := do
  let outer ← get
  let flow ← observe act
  modify outer.afterInner
  match flow with
  | some (.killed process signal) => throw (.killed process signal)
  | some .endless => throw .endless
  | _ => return

/-- Do something, and put the descriptors back to where they led in an earlier
state; with `ownInput` also the input, since what was read was another one. -/
def restoring (outer : State) (ownInput : Bool) (act : Act Unit) : Act Unit := do
  let flow ← observe act
  modify fun inner => { inner with
    descriptors := outer.descriptors
    input := if ownInput then outer.input else inner.input
    inputReadyAt := outer.inputReadyAt }
  match flow with
  | some flow => throw flow
  | none => return

/-- The output of something done in a shell of its own. -/
def captured (act : Act Unit) : Act (List UInt8) := do
  let pipe := (← get).made + 1
  let outer ← get
  set (State.setDescriptor { outer with made := pipe } 1 (some (.pipe pipe)))
  restoring outer false (isolated act)
  let (state, bytes) := (← get).drain pipe
  set state
  return bytes

/-- Do something for each item until it tells to stop. -/
def untilStopped (act : α → Act Bool) : List α → Act Unit
  | [] => return
  | item :: rest => do
    if ← act item then return
    untilStopped act rest

/-- Do the body of a loop, and tell whether the loop is to stop. -/
def loopBody (act : Act Unit) : Act Bool := do
  let loops := (← get).loops
  modify fun state => { state with loops := loops + 1 }
  let flow ← observe act
  modify fun state => { state with loops }
  match flow with
  | none => return false
  | some (.broken levels) => if levels ≤ 1 then return true else throw (.broken (levels - 1))
  | some (.continued levels) => if levels ≤ 1 then return false else throw (.continued (levels - 1))
  | some flow => throw flow

/-- Take over what a command gave. The shell complains itself about commands of
its own. -/
def applyResult (isOwn : Bool) (name : String) (result : ToolResult) : Act Unit := do
  let complainer (text : String) : Act Unit :=
    if isOwn then complain text else discard (say 2 (lineBytes text))
  let reads := ["cat", "grep", "head", "sort", "tail", "wc"].contains name
  modify fun state => { state with
    clock := if reads then max state.clock state.inputReadyAt else state.clock
    input := if state.descriptors.lookup 0 = some .input then result.rest else state.input }
  result.complaints.forM complainer
  let written ← if result.output.isEmpty then pure true else say 1 result.output
  if written then setStatus result.status
  else
    complainer (name ++ ": " ++
      (if isOwn then name ++ ": I/O error"
      else if name = "cat" then "standard output: Bad file descriptor"
      else "write error: Bad file descriptor"))
    setStatus 1

end BuildFleet.Shell
