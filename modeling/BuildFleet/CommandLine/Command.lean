import BuildFleet.CommandLine.Arguments

/-!
# Commands

The program is called with options that hold for every command and with the name
of one command. Some options fall back to environment variables.
-/

namespace BuildFleet.CommandLine

/-- What the program is told to do. -/
inductive Command where
  /-- Submit a build of packages for targets and groups of them. -/
  | submit (targets packages : List String) (gitRef : String) (pullRequest : Option Nat)
  /-- Show a job. -/
  | query (id : String)
  | cancel (id : String)
  /-- Show how many jobs there are, and which workers. -/
  | status
  /-- Build jobs of a target. -/
  | work (target hostname : Option String)
  /-- Check a configuration file. -/
  | validate (path : Option String)
deriving DecidableEq, Repr

/-- A call of the program. -/
structure Invocation where
  apiUrl : String
  token : Option String
  configPath : String
  jsonLog : Bool
  command : Command
deriving DecidableEq, Repr

/-- A natural number of sixty-four bits. It may have a plus sign. -/
def number64? (text : String) : Option Nat :=
  let digits := match text.toList with
    | '+' :: rest => rest
    | characters => characters
  if digits.isEmpty || !digits.all Char.isDigit then none
  else
    let value := digits.foldl (fun value digit => value * 10 + (digit.toNat - 48)) 0
    if value < 18446744073709551616 then some value else none

namespace Command

def names : List String := ["submit", "show", "cancel", "status", "worker", "validate", "help"]

/-- A form without operands, with the options that every command has. -/
def plainForm (options : List OptionForm) : Form :=
  ⟨options ++ [.flag "log-json", .help], [], 0, some 0, fun _ => true⟩

/-- A form with one operand. -/
def idForm : Form := { plainForm [] with fewestOperands := 1, mostOperands := some 1 }

/-- The arguments of the command of a name. -/
def form : String → Form
  | "submit" =>
    let package : OptionForm := ⟨"package", some 'p', true, true, fun _ => true⟩
    let pullRequest : OptionForm :=
      { OptionForm.single "pr" with accepts := fun text => (number64? text).isSome }
    { plainForm [package, .single "ref", pullRequest] with
      fewestOperands := 1, mostOperands := none }
  | "show" | "cancel" => idForm
  | "worker" => plainForm [.single "target", .single "hostname"]
  | "validate" =>
    { plainForm [] with mostOperands := some 1, acceptsOperand := fun path => !path.isEmpty }
  | _ => plainForm []

/-- The command of a name with what it was given. -/
def ofGiven (environment : String → Option String) (given : Given) :
    String → Except Refusal Command
  | "submit" =>
    let packages := given.values "package"
    if packages.isEmpty then .error (.fault (.missing "package"))
    else .ok (.submit given.operands packages ((given.value? "ref").getD "stable")
      ((given.value? "pr").bind number64?))
  | "show" => .ok (.query (given.operands.headD ""))
  | "cancel" => .ok (.cancel (given.operands.headD ""))
  | "status" => .ok .status
  | "worker" =>
    .ok (.work (given.value? "target") ((given.value? "hostname").or (environment "HOSTNAME")))
  | "validate" => .ok (.validate given.operands.head?)
  | name => .error (.fault (.unknown name))

end Command

namespace Invocation

def isFileName (path : String) : Bool := !path.isEmpty

/-- The arguments of the program. -/
def form : Form :=
  let config : OptionForm := { OptionForm.single "config" with accepts := isFileName }
  { Command.plainForm [.single "api-url", .single "token", config] with commands := Command.names }

/-- Help is there for every command. -/
def helpFor : List String → Refusal
  | [] => .help
  | [topic] => if Command.names.contains topic then .help else .fault (.unknown topic)
  | _ :: topic :: _ => .fault (.unknown topic)

/-- Read the arguments of the program. -/
def ofArguments (environment : String → Option String) (arguments : List String) :
    Except Refusal Invocation := do
  let (given, next) ← form.read arguments
  match next with
  | none => .error (.fault (.missing "command"))
  | some ("help", topics) => .error (helpFor topics)
  | some (name, rest) =>
    let (own, _) ← (Command.form name).read rest
    let command ← Command.ofGiven environment own name
    let configPath := ((given.value? "config").or (environment "BUILDIT_CONFIG")).getD "buildit.kdl"
    if !isFileName configPath then .error (.fault (.invalidValue "config" configPath))
    else .ok {
      apiUrl :=
        ((given.value? "api-url").or (environment "BUILDIT_API_URL")).getD "http://localhost:3000"
      token := (given.value? "token").or (environment "BUILDIT_API_TOKEN")
      configPath
      jsonLog := (given.value? "log-json").isSome || (own.value? "log-json").isSome
      command }

end Invocation

end BuildFleet.CommandLine
