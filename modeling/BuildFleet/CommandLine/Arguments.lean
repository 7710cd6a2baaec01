/-!
# Arguments

A command is given options and operands. An option starts with two dashes, or
with one dash and a letter; its value stands in the same argument or in the next
one. After two dashes alone everything is an operand. An operand can also name a
further command, which has the arguments that follow.
-/

namespace BuildFleet.CommandLine

/-- Why arguments do not make a command. -/
inductive Fault where
  | unknown (argument : String)
  | valueMissing (option : String)
  | valueNotTaken (option : String)
  | repeated (option : String)
  | invalidValue (name value : String)
  | missing (name : String)
deriving DecidableEq, Repr

/-- Why no command is run. -/
inductive Refusal where
  /-- Help is asked for instead. -/
  | help
  | fault (fault : Fault)
deriving DecidableEq, Repr

/-- An option that a command knows. -/
structure OptionForm where
  name : String
  letter : Option Char
  takesValue : Bool
  repeatable : Bool
  accepts : String → Bool

namespace OptionForm

/-- An option that is given or not. -/
def flag (name : String) : OptionForm := ⟨name, none, false, false, fun _ => true⟩

/-- An option with a value, which is given once at most. -/
def single (name : String) : OptionForm := ⟨name, none, true, false, fun _ => true⟩

def help : OptionForm := ⟨"help", some 'h', false, false, fun _ => true⟩

end OptionForm

/-- The arguments that a command takes. -/
structure Form where
  options : List OptionForm
  /-- The commands that an operand can name. Where there are any, there are no
  other operands. -/
  commands : List String
  fewestOperands : Nat
  mostOperands : Option Nat
  acceptsOperand : String → Bool

/-- What a command was given so far, in the order it was given. -/
structure Given where
  options : List (String × String)
  operands : List String
deriving DecidableEq, Repr

namespace Given

def empty : Given := ⟨[], []⟩

/-- The value of an option. -/
def value? (given : Given) (name : String) : Option String := given.options.lookup name

/-- All values of an option. -/
def values (given : Given) (name : String) : List String :=
  given.options.filterMap fun entry => if entry.1 = name then some entry.2 else none

def add (given : Given) (option : OptionForm) (value : String) : Except Refusal Given :=
  if option.name = OptionForm.help.name then .error .help
  else if !option.repeatable && (given.value? option.name).isSome then
    .error (.fault (.repeated option.name))
  else if !option.accepts value then .error (.fault (.invalidValue option.name value))
  else .ok { given with options := given.options ++ [(option.name, value)] }

def addOperand (given : Given) (form : Form) (operand : String) : Except Refusal Given :=
  if form.mostOperands.any (· ≤ given.operands.length) then .error (.fault (.unknown operand))
  else if !form.acceptsOperand operand then .error (.fault (.invalidValue "operand" operand))
  else .ok { given with operands := given.operands ++ [operand] }

end Given

namespace Form

/-- Read an argument after its two dashes. An option whose value is still to come
is given back. -/
def readLong (form : Form) (given : Given) (text : List Char) :
    Except Refusal (Given × Option OptionForm) :=
  let name := text.takeWhile (· ≠ '=')
  let attached := text.drop name.length
  match form.options.find? (·.name = String.ofList name), attached with
  | none, _ => .error (.fault (.unknown (String.ofList text)))
  | some option, [] =>
    if option.takesValue then .ok (given, some option)
    else (given.add option "").map (·, none)
  | some option, _ :: value =>
    if option.takesValue then (given.add option (String.ofList value)).map (·, none)
    else .error (.fault (.valueNotTaken option.name))

/-- Read an argument after its one dash: letters of options, the last of which
may have its value behind it. -/
def readLetters (form : Form) (given : Given) :
    List Char → Except Refusal (Given × Option OptionForm)
  | [] => .ok (given, none)
  | letter :: rest =>
    match form.options.find? (·.letter = some letter), rest with
    | none, _ => .error (.fault (.unknown (String.singleton letter)))
    | some option, [] =>
      if option.takesValue then .ok (given, some option)
      else (given.add option "").map (·, none)
    | some option, next :: _ =>
      if option.takesValue then
        let value := if next = '=' then rest.drop 1 else rest
        (given.add option (String.ofList value)).map (·, none)
      else do form.readLetters (← given.add option "") rest

/-- Whether an argument can be a value or an operand: not if it reads as an option. -/
def isPlain (argument : String) : Bool :=
  match argument.toList with
  | '-' :: _ :: _ => false
  | _ => true

/-- Read arguments up to the name of a further command. With `verbatim` all of
them are operands. -/
def readArguments (form : Form) : Bool → Given → List String →
    Except Refusal (Given × Option (String × List String))
  | _, given, [] => .ok (given, none)
  | true, given, argument :: rest => do
    form.readArguments true (← given.addOperand form argument) rest
  | false, given, argument :: rest =>
    let withValue (read : Except Refusal (Given × Option OptionForm)) := do
      match ← read, rest with
      | (given, none), rest => form.readArguments false given rest
      | (_, some option), [] => .error (.fault (.valueMissing option.name))
      | (given, some option), value :: rest =>
        if isPlain value then form.readArguments false (← given.add option value) rest
        else .error (.fault (.valueMissing option.name))
    match argument.toList with
    | ['-', '-'] => form.readArguments true given rest
    | '-' :: '-' :: text => withValue (form.readLong given text)
    | '-' :: letter :: letters => withValue (form.readLetters given (letter :: letters))
    | _ =>
      if form.commands.contains argument then .ok (given, some (argument, rest))
      else do form.readArguments false (← given.addOperand form argument) rest

/-- Read all arguments, and see that there are enough operands. -/
def read (form : Form) (arguments : List String) :
    Except Refusal (Given × Option (String × List String)) := do
  let (given, next) ← form.readArguments false .empty arguments
  if given.operands.length < form.fewestOperands then .error (.fault (.missing "operand"))
  else .ok (given, next)

end Form

end BuildFleet.CommandLine
