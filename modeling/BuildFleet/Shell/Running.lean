import BuildFleet.Shell.Reading
import BuildFleet.Shell.State

/-!
# Running scripts

Commands are run one inside the other to a bounded depth; a loop goes one deeper
with each turn. A script that goes deeper never ends.
-/

namespace BuildFleet.Shell

/-! ## Fields -/

/-- A character that an expansion gives. -/
inductive Mark where
  | character (character : Char) (splits : Bool)
  /-- A quoted text was here, so that there is a field even if it is empty. -/
  | present
  /-- A quoted list without members was here: by itself it makes no field. -/
  | absent
  | fieldEnd
deriving DecidableEq, Repr

def marksOf (quoted : Bool) (text : String) : List Mark :=
  let marks := text.toList.map fun character => Mark.character character (!quoted)
  if quoted then .present :: marks else marks

def textOfMarks (marks : List Mark) : String :=
  String.ofList (marks.filterMap fun mark =>
    match mark with
    | .character character _ => some character
    | .present | .absent => none
    | .fieldEnd => some ' ')

/-- The fields of an expansion, which is split where the separators stand
unquoted. Of blanks any number separates, of other separators each does. -/
def fieldsOf (separators : List Char) (marks : List Mark) : List String :=
  let close (fields : List (List Char)) : Option (List Char) → List (List Char)
    | some field => field :: fields
    | none => fields
  let (fields, last) := marks.foldl (fun (fields, current) mark =>
    match mark with
    | .present => (fields, some (current.getD []))
    | .absent => (fields, current.filter (!·.isEmpty))
    | .fieldEnd => (close fields current, none)
    | .character character splits =>
      if splits && separators.contains character then
        (if character.isWhitespace then (close fields current, none)
        else (current.getD [] :: fields, none))
      else (fields, some (character :: current.getD [])))
    (([], none) : List (List Char) × Option (List Char))
  ((close fields last).map fun field => String.ofList field.reverse).reverse

/-- A character of a pattern, and whether it may stand for others. -/
def patternMark (piece : Piece) (mark : Mark) : Option (Char × Bool) :=
  match piece, mark with
  | .text quoted _, .character character _ => some (character, !quoted)
  | _, .character character splits => some (character, splits)
  | _, _ => none

/-- Whether a pattern fits a text: a star stands for any text, and a question mark for
any character. -/
def fitsPattern : (pattern : List (Char × Bool)) → (text : List Char) → Bool
  | [], text => text.isEmpty
  | ('*', true) :: pattern, text => fitsAfterStar pattern text
  | (mark, special) :: pattern, text =>
    match text with
    | [] => false
    | character :: rest =>
      ((mark = '?' && special) || mark = character) && fitsPattern pattern rest
where
  /-- Whether a pattern fits an end of a text. -/
  fitsAfterStar (pattern : List (Char × Bool)) : List Char → Bool
    | [] => fitsPattern pattern []
    | character :: rest => fitsPattern pattern (character :: rest) || fitsAfterStar pattern rest

/-! ## Small steps -/

/-- Bytes as the value of a substitution: without the line ends at the end. -/
def substitutionText (bytes : List UInt8) : String :=
  Text.decodeBytes ((bytes.reverse.dropWhile (· = 10)).reverse.filter (· ≠ 0))

/-- A time to sleep in microseconds: a decimal number with a unit. -/
def sleepTime? (text : String) : Option Nat :=
  let digits := text.toList.takeWhile fun character => character.isDigit || character == '.'
  let unit : Option Nat := match text.toList.drop digits.length with
    | [] | ['s'] => some 1000000
    | ['m'] => some 60000000
    | ['h'] => some 3600000000
    | ['d'] => some 86400000000
    | _ => none
  let whole := digits.takeWhile Char.isDigit
  let fraction := (digits.drop (whole.length + 1)).takeWhile Char.isDigit
  if digits.length ≠ whole.length ∧ digits.length ≠ whole.length + 1 + fraction.length then none
  else if whole.isEmpty && fraction.isEmpty then none
  else
    match digitsValue 10 (whole ++ fraction), unit with
    | some value, some unit => some (value * unit / Nat.pow 10 fraction.length)
    | _, _ => none

def signals : List (String × String) := [
  ("0", "EXIT"), ("1", "HUP"), ("2", "INT"), ("3", "QUIT"), ("6", "ABRT"), ("9", "KILL"),
  ("10", "USR1"), ("12", "USR2"), ("13", "PIPE"), ("14", "ALRM"), ("15", "TERM"), ("17", "CHLD"),
  ("18", "CONT"), ("23", "URG"), ("28", "WINCH")]

/-- The name of a signal that is given by its name or number. -/
def signalName (text : String) : String :=
  let upper := String.ofList (text.toList.map Char.toUpper)
  let plain := if "SIG".toList.isPrefixOf upper.toList then String.ofList (upper.toList.drop 3)
    else upper
  (signals.lookup plain).getD plain

def signalNumber (name : String) : Nat :=
  match signals.find? (·.2 = name) with
  | some (number, _) => (digitsValue 10 number.toList).getD 0
  | none => 0

/-- What a shell says about a process that a signal has ended. -/
def signalPhrase (signal : Nat) : String :=
  match signal with
  | 1 => "Hangup"
  | 2 => ""
  | 3 => "Quit"
  | 6 => "Aborted"
  | 9 => "Killed"
  | 10 => "User defined signal 1"
  | 12 => "User defined signal 2"
  | 14 => "Alarm clock"
  | _ => "Terminated"

/-- Signals that do nothing to a process that does not ask for them. -/
def harmlessSignals : List String := ["CHLD", "CONT", "URG", "WINCH"]

/-- End a background task by a signal: it writes nothing any more. -/
def killTask (number signal : Nat) : Act Unit := modify fun state =>
  { state with
    tasks := state.tasks.map fun task =>
      if task.number = number ∧ task.endsAt.all (state.clock < ·) then
        { task with endsAt := some state.clock, status := 128 + signal }
      else task
    writes := state.writes.filter fun write =>
      write.task ≠ number || write.time ≤ state.clock }

/-- Wait for background tasks, all of them or the one of a number. -/
def waitFor (number : Option Nat) : Act Unit := do
  let state ← get
  let awaited := state.tasks.filter fun task => number.all (· = task.number)
  if awaited.any (·.endsAt.isNone) then throw .endless
  let clock := awaited.foldl (fun clock task => max clock (task.endsAt.getD 0)) state.clock
  let status := match number with
    | none => 0
    | some _ => (awaited.head?.map (·.status)).getD 127
  set { state with
    clock, status
    tasks := state.tasks.filter fun task => !awaited.contains task }

def assign (name value : String) : Act Unit := modify (·.setValue name value)

def exportName (name : String) : Act Unit := modify fun state =>
  { state with exported := name :: state.exported }

/-- Read a line into parameters. The last one takes what is left of the line. -/
def readInto (names : List String) : Act Unit := do
  let state ← get
  let input := state.openInput
  let line := input.takeWhile (· ≠ 10)
  let separators := ((state.value? "IFS").getD " \t\n").toList
  let isSeparator (character : Char) : Bool := separators.contains character
  let rec fill (text : List Char) : List String → Act Unit
    | [] => return
    | [name] => assign name (String.ofList
        (((text.dropWhile isSeparator).reverse.dropWhile isSeparator).reverse))
    | name :: names => do
      let text := text.dropWhile isSeparator
      let field := text.takeWhile fun character => !isSeparator character
      assign name (String.ofList field)
      fill (text.drop field.length) names
  fill (Text.decodeBytes line).toList (names.filter fun name => name ≠ "-r")
  modify fun state => { state with
    clock := max state.clock state.inputReadyAt
    input := if state.descriptors.lookup 0 = some .input then input.drop (line.length + 1)
      else state.input
    status := if line.length < input.length then 0 else 1 }

/-- Set options and arguments of the shell. -/
def setOptions : List String → Act Unit
  | [] => return
  | "--" :: arguments => modify fun state => { state with arguments }
  | option :: rest => do
    match option.toList with
    | '-' :: letters =>
      modify fun state => { state with
        exitOnFailure := state.exitOnFailure || letters.contains 'e'
        refuseUnset := state.refuseUnset || letters.contains 'u' }
      setOptions rest
    | '+' :: letters =>
      modify fun state => { state with
        exitOnFailure := state.exitOnFailure && !letters.contains 'e'
        refuseUnset := state.refuseUnset && !letters.contains 'u' }
      setOptions rest
    | _ => modify fun state => { state with arguments := option :: rest }

/-- Take the number of an argument, or complain. -/
def withNumber (name : String) (arguments : List String) (default : Nat) (go : Nat → Act Unit) :
    Act Unit :=
  match arguments with
  | [] => go default
  | text :: _ =>
    match digitsValue 10 text.toList with
    | some value => if text.isEmpty then go default else go value
    | none => do
      fail (name ++ ": Illegal number: " ++ text) 2
      throw .exit

/-- Lead a descriptor to what a path or another descriptor says; tell whether it
could be done. -/
def redirectTo (descriptor : Nat) (direction : Direction) (text : String) : Act Bool := do
  let state ← get
  let refuse (complaint : String) : Act Bool := do
    fail complaint 2
    return false
  let lead (channel : Option Channel) : Act Bool := do
    set (state.setDescriptor descriptor channel)
    return true
  let toFile (truncates : Bool) : Act Bool := do
    let steps := Machine.steps state.directory text
    if text = "/dev/null" then lead (some .nothing)
    else if text = "/dev/stdout" then lead (state.descriptors.lookup 1)
    else if text = "/dev/stderr" then lead (state.descriptors.lookup 2)
    else if state.isDirectory? text = some true then
      refuse ("cannot create " ++ text ++ ": Is a directory")
    else if text.isEmpty || Machine.itemAt? steps.dropLast ≠ some .directory then
      refuse ("cannot create " ++ text ++ ": Directory nonexistent")
    else
      let kept := if truncates then [] else (state.content text).toOption.getD []
      set (State.setDescriptor (state.setFile steps kept) descriptor (some (.file steps)))
      return true
  match direction with
  | .write _ => toFile true
  | .append _ => toFile false
  | .read _ =>
    match state.content text with
    | .ok bytes =>
      set (State.setDescriptor { state with input := bytes } descriptor (some .input))
      return true
    | .error _ => refuse ("cannot open " ++ text ++ ": No such file")
  | .duplicate _ =>
    if text = "-" then lead none
    else
      match (digitsValue 10 text.toList).bind fun other => state.descriptors.lookup other with
      | some channel => lead (some channel)
      | none => refuse (text ++ ": Bad file descriptor")

/-- The word that a direction leads to. -/
def Direction.word : Direction → Word
  | .write path | .append path | .read path => path
  | .duplicate descriptor => descriptor

/-! ## Running -/

/-- Commands that the shell does itself, the same way as those of the machine. -/
def ownTools : List String := ["true", "false", "printf", "test", "[", "pwd"]

/-- Whether a failure ends the script. -/
def checkFailure (tested : Bool) : Act Unit := do
  let state ← get
  if state.exitOnFailure && !tested && state.status ≠ 0 then throw .exit

mutual

/-- What a word stands for, before it is split into fields. -/
def expand : Nat → Word → Act (List Mark)
  | 0, _ => throw .endless
  | _ + 1, [] => return []
  | fuel + 1, piece :: rest => do
    let marks ← expandPiece fuel piece
    return marks ++ (← expand fuel rest)

def expandPiece : Nat → Piece → Act (List Mark)
  | 0, _ => throw .endless
  | _ + 1, .text quoted characters =>
    return (if quoted then [.present] else []) ++ characters.map (.character · false)
  | fuel + 1, .output quoted script => do
    let bytes ← captured (runText fuel (String.ofList script))
    return marksOf quoted (substitutionText bytes)
  | fuel + 1, .sum quoted expression => do
    let text ← match readPieces true false (expression.length + 1) expression with
      | .ok (word, _) => do pure (textOfMarks (← expand fuel word))
      | .error _ => pure ""
    match sumValue (← get).number text.toList with
    | .ok value => return marksOf quoted (toString value)
    | .error fault =>
      let problem := match fault with
        | .unreadable => "expecting primary"
        | .divisionByZero => "division by zero"
      fail ("arithmetic expression: " ++ problem ++ ": \"" ++ text ++ "\"") 2
      throw .exit
  | fuel + 1, .parameter quoted name rule => do
    let state ← get
    let value := state.value? name
    match rule with
    | .value =>
      if name = "@" && quoted && state.arguments.isEmpty then return [.absent]
      if name = "@" && quoted then
        return (state.arguments.map (marksOf true)).intersperse [.fieldEnd] |>.flatten
      if value.isNone && state.refuseUnset && !(["@", "*", "!"].contains name) then
        fail (name ++ ": parameter not set") 2
        throw .exit
      return marksOf quoted (value.getD "")
    | .length => return marksOf quoted (toString (value.getD "").length)
    | .otherwise mark emptyCounts word =>
      let present := value.filter fun value => !(emptyCounts && value.isEmpty)
      let alternative : Act (List Mark) := do
        match readPieces true false (word.length + 1) word with
        | .ok (word, _) => return marksOf quoted (textOfMarks (← expand fuel word))
        | .error _ => return []
      match mark, present with
      | '+', some _ => alternative
      | '+', none => return marksOf quoted ""
      | _, some value => return marksOf quoted value
      | '=', none => do
        let marks ← alternative
        assign name (textOfMarks marks)
        return marks
      | '?', none => do
        let text := textOfMarks (← alternative)
        fail (name ++ ": " ++ (if text.isEmpty then "parameter not set" else text)) 2
        throw .exit
      | _, none => alternative

/-- Redirect descriptors, as long as it can be done. -/
def redirectAll : Nat → List Redirection → Act Bool
  | 0, _ => throw .endless
  | _ + 1, [] => return true
  | fuel + 1, redirection :: rest => do
    let text := textOfMarks (← expand fuel redirection.direction.word)
    if ← redirectTo redirection.descriptor redirection.direction text then redirectAll fuel rest
    else return false

/-- Do something with redirected descriptors. -/
def redirecting : Nat → List Redirection → Act Unit → Act Unit
  | 0, _, _ => throw .endless
  | fuel + 1, redirections, act => do
    let outer ← get
    let ownInput := redirections.any (·.descriptor = 0)
    restoring outer ownInput do
      if ← redirectAll fuel redirections then act

/-- Run a command of the machine in a process of its own. -/
def runExternal : Nat → String → List String → Act Unit
  | 0, _, _ => throw .endless
  | fuel + 1, name, arguments => do
    match name, arguments with
    | "sh", arguments => do
      let process := (← get).made + 1
      modify fun state => { state with made := process }
      let flow ← observe (isolated do
        modify fun state => { state with process, name }
        runShell fuel arguments)
      match flow with
      | some (.killed killed signal) =>
        if killed ≠ process then throw (.killed killed signal)
        setStatus (128 + signal)
        discard (say 2 (lineBytes (signalPhrase signal)))
      | some flow => throw flow
      | none => return
    | "sleep", arguments =>
      match arguments.mapM sleepTime? with
      | some (first :: rest) =>
        pass ((first :: rest).foldl (· + ·) 0)
        setStatus 0
      | _ =>
        if arguments.contains "infinity" then throw .endless
        let invalid := (arguments.find? fun argument => (sleepTime? argument).isNone).map fun argument =>
          "invalid time interval '" ++ argument ++ "'"
        discard (say 2 (bytesOfLines
          ["sleep: " ++ invalid.getD "missing operand", helpHint "sleep"]))
        setStatus 1
    | "env", first :: rest =>
      match assignment? first.toList with
      | some (name, value) => isolated do
        assign name (String.ofList value)
        exportName name
        runExternal fuel "env" rest
      | none => runNamed fuel false first rest
    | name, arguments =>
      match runTool (← get).toolContext name arguments with
      | some result => applyResult false name result
      | none => setStatus 127

/-- Send a signal to the script or to background tasks. -/
def runKill : Nat → List String → Act Unit
  | 0, _ => throw .endless
  | fuel + 1, arguments => do
    let (signal, targets) := match arguments with
      | "-s" :: signal :: targets => (signalName signal, targets)
      | first :: targets =>
        match first.toList with
        | '-' :: signal => (signalName (String.ofList signal), targets)
        | _ => ("TERM", first :: targets)
      | [] => ("TERM", [])
    if !signals.any (·.2 = signal) then
      fail ("kill: Illegal option -" ++ String.ofList (signal.toList.take 1)) 2
      return
    setStatus 0
    untilStopped (fun target => do
      let state ← get
      let number := digitsValue 10 target.toList
      if target.isEmpty || number.isNone then
        fail ("kill: Illegal number: " ++ target) 2
        return true
      if number = some state.process || number = some 0 || number = some 1 then
        let killed := Flow.killed (number.getD 0) (signalNumber signal)
        if signal = "EXIT" || harmlessSignals.contains signal then return false
        if signal = "KILL" then throw killed
        match state.traps.lookup signal with
        | some action => runText fuel action
        | none => throw killed
      else if state.tasks.any fun task => some task.number = number then
        killTask (number.getD 0) (signalNumber signal)
      else fail "kill: No such process\n" 1
      return false) targets

/-- Run the command of a name: a function, one of the shell, or one of the machine. -/
def runNamed : Nat → (tested : Bool) → String → List String → Act Unit
  | 0, _, _, _ => throw .endless
  | fuel + 1, tested, name, arguments => do
    let state ← get
    match state.functions.lookup name with
    | some body =>
      modify fun state => { state with arguments, loops := 0 }
      let flow ← observe (run fuel tested body)
      modify fun inner => { inner with arguments := state.arguments, loops := state.loops }
      match flow with
      | some .returned | none => return
      | some flow => throw flow
    | none =>
    match name with
    | ":" => setStatus 0
    | "exit" => withNumber name arguments state.status fun status => do
      setStatus (status % 256)
      throw .exit
    | "return" => withNumber name arguments state.status fun status => do
      setStatus (status % 256)
      throw .returned
    | "break" | "continue" => withNumber name arguments 1 fun levels => do
      setStatus 0
      let levels := min levels state.loops
      if 0 < levels then throw (if name = "break" then .broken levels else .continued levels)
    | "cd" =>
      let place := arguments.headD ((state.value? "HOME").getD "/")
      match Machine.changeDirectory state.directory place with
      | .ok directory =>
        set (State.setValue { state with directory, status := 0 } "PWD" directory)
      | .error _ => fail ("cd: can't cd to " ++ place) 2
    | "export" | "readonly" | "local" =>
      setStatus 0
      untilStopped (fun argument => do
        match assignment? argument.toList with
        | some (parameter, value) =>
          assign parameter (String.ofList value)
          if name = "export" then exportName parameter
        | none => if name = "export" then exportName argument
        return false) arguments
    | "unset" =>
      let parameters := state.parameters.filter fun entry => !arguments.contains entry.1
      let exported := state.exported.filter fun name => !arguments.contains name
      set { state with status := 0, parameters, exported }
    | "set" =>
      setStatus 0
      setOptions arguments
    | "shift" => withNumber name arguments 1 fun count => do
      if state.arguments.length < count then
        fail "shift: can't shift that many" 2
        throw .exit
      set { state with arguments := state.arguments.drop count, status := 0 }
    | "read" => readInto arguments
    | "eval" => runText fuel (" ".intercalate arguments)
    | "trap" =>
      match arguments with
      | action :: names =>
        let others := state.traps.filter fun entry => !(names.map signalName).contains entry.1
        let added := if action = "-" then [] else names.map fun name => (signalName name, action)
        set { state with traps := added ++ others, status := 0 }
      | [] => setStatus 0
    | "kill" => runKill fuel arguments
    | "wait" =>
      match arguments with
      | [] => waitFor none
      | _ => untilStopped (fun argument => do
          waitFor (digitsValue 10 argument.toList)
          return false) arguments
    | "command" =>
      match arguments with
      | first :: rest => runNamed fuel tested first rest
      | [] => setStatus 0
    | "exec" =>
      match arguments with
      | first :: rest =>
        match Machine.findCommand ((state.value? "PATH").getD "") state.directory first with
        | .ok command => runExternal fuel command rest
        | .error .permissionDenied => fail ("exec: " ++ first ++ ": Permission denied") 126
        | .error _ => fail ("exec: " ++ first ++ ": not found") 127
        throw .exit
      | [] => setStatus 0
    | "echo" => applyResult true name (shellEcho state.toolContext arguments)
    | _ =>
      if ownTools.contains name then
        match runTool state.toolContext name arguments with
        | some result => applyResult true name result
        | none => setStatus 127
      else
        match Machine.findCommand ((state.value? "PATH").getD "") state.directory name with
        | .ok command => runExternal fuel command arguments
        | .error .permissionDenied => fail (name ++ ": Permission denied") 126
        | .error _ =>
          fail (name ++ ": " ++ (if name.isEmpty then "Permission denied" else "not found")) 127

/-- Run a script that is given as a text. -/
def runText : Nat → String → Act Unit
  | 0, _ => throw .endless
  | fuel + 1, text =>
    match readScript text.toList with
    | .ok command => do
      setStatus 0
      run fuel false command
    | .error problem => do
      modify fun state => { state with line := max 1 state.line }
      fail problem 2
      throw .exit

/-- Run a shell with its arguments: options, a script and its arguments. -/
def runShell : Nat → List String → Act Unit
  | 0, _ => throw .endless
  | fuel + 1, arguments => do
    let isOption (argument : String) : Bool :=
      match argument.toList with
      | '-' :: _ :: _ => true
      | _ => false
    let options := arguments.takeWhile isOption
    let operands := arguments.drop options.length
    let own := (← get).name
    modify fun state => { state with
      line := 0, arguments := [], functions := [], loops := 0
      parameters := state.parameters.filter fun entry => state.exported.contains entry.1 }
    setOptions options
    let fromText := options.any fun option => option.toList.contains 'c'
    let withArguments (rest : List String) : Act Unit := modify fun state =>
      { state with name := rest.headD own, arguments := rest.drop 1 }
    let flow ← observe do
      match fromText, operands with
      | true, [] => fail "-c requires an argument" 2
      | true, script :: rest =>
        withArguments rest
        runText fuel script
      | false, [] =>
        let state ← get
        set { state with input := [], clock := max state.clock state.inputReadyAt }
        runText fuel (Text.decodeBytes state.openInput)
      | false, path :: rest =>
        match (← get).content path with
        | .ok bytes =>
          withArguments (path :: rest)
          runText fuel (Text.decodeBytes bytes)
        | .error _ => fail ("cannot open " ++ path ++ ": No such file") 2
    match flow with
    | some (.killed process signal) => throw (.killed process signal)
    | some .endless => throw .endless
    | _ =>
      let state ← get
      match state.traps.lookup "EXIT" with
      | some action =>
        set { state with traps := [] }
        match ← observe (runText fuel action) with
        | some .exit => return
        | _ => setStatus state.status
      | none => return

/-- Run a command. With `tested` somebody looks at whether it fails, so that its
failure does not end the script. -/
def run : Nat → (tested : Bool) → Command → Act Unit
  | 0, _, _ => throw .endless
  | fuel + 1, tested, command => do
    match command with
    | .nothing => return
    | .simple line assignments words redirections =>
      modify fun state => { state with line }
      let before ← get
      let separators := ((before.value? "IFS").getD " \t\n").toList
      let fields := (← words.mapM fun word => do
        return fieldsOf separators (← expand fuel word)).flatten
      if fields.isEmpty then setStatus 0
      let values ← assignments.mapM fun (name, word) => do
        return (name, textOfMarks (← expand fuel word))
      match fields with
      | [] =>
        values.forM fun (name, value) => assign name value
        redirecting fuel redirections (return)
      | ["exec"] => let _ ← redirectAll fuel redirections
      | name :: arguments => do
        values.forM fun (name, value) => do assign name value; exportName name
        let flow ← observe (redirecting fuel redirections (runNamed fuel tested name arguments))
        values.forM fun (name, _) => modify fun state => { state with
          exported := before.exported
          parameters := match before.parameters.lookup name with
            | some value => setEntry state.parameters name value
            | none => state.parameters.filter fun entry => entry.1 ≠ name }
        if let some flow := flow then throw flow
      checkFailure tested
    | .sequence first second =>
      run fuel tested first
      run fuel tested second
    | .both first second =>
      run fuel true first
      if (← get).status = 0 then run fuel tested second
    | .either first second =>
      run fuel true first
      if (← get).status ≠ 0 then run fuel tested second
    | .negation command =>
      run fuel true command
      setStatus (if (← get).status = 0 then 1 else 0)
    | .pipeline left right =>
      let outer ← get
      let bytes ← captured (run fuel true left)
      let after ← get
      set (State.setDescriptor
        { after with clock := outer.clock, input := bytes, inputReadyAt := after.clock }
        0 (some .input))
      restoring after true (isolated (run fuel true right))
      modify fun state => { state with clock := max state.clock after.clock }
      checkFailure tested
    | .background command =>
      let outer ← get
      let number := outer.made + 2
      set (State.setDescriptor { outer with made := number, task := number, input := [] }
        0 (some .nothing))
      let flow ← observe (run fuel false command)
      let inner ← get
      let endsAt := if flow = some Flow.endless then none else some inner.clock
      set { outer.afterInner inner with
        clock := outer.clock, input := outer.input, status := 0
        tasks := ⟨number, endsAt, inner.status⟩ :: outer.tasks
        lastTask := some number
        killedAt := match flow with
          | some (.killed _ _) => inner.killedAt.or (some inner.clock)
          | _ => inner.killedAt }
    | .subshell command =>
      isolated (run fuel tested command)
      checkFailure tested
    | .conditional test yes no =>
      run fuel true test
      if (← get).status = 0 then run fuel tested yes
      else
        setStatus 0
        run fuel tested no
    | .loop untilSuccess test body => runLoop fuel tested untilSuccess test body 0
    | .each name words body =>
      let state ← get
      let separators := ((state.value? "IFS").getD " \t\n").toList
      let fields ← match words with
        | none => pure state.arguments
        | some words => do
          pure (← words.mapM fun word => do
            return fieldsOf separators (← expand fuel word)).flatten
      setStatus 0
      untilStopped (fun field => do
        assign name field
        loopBody (run fuel tested body)) fields
    | .choose word patterns body otherwise =>
      let text := textOfMarks (← expand fuel word)
      let fits ← patterns.mapM fun pattern => do
        return fitsPattern (← (pattern.mapM fun piece => do
          return (← expandPiece fuel piece).filterMap (patternMark piece))).flatten text.toList
      if fits.any id then
        setStatus 0
        run fuel tested body
      else
        setStatus 0
        run fuel tested otherwise
    | .define name body => modify fun state =>
      { state with functions := (name, body) :: state.functions, status := 0 }
    | .redirected command redirections =>
      redirecting fuel redirections (run fuel tested command)

/-- Run a loop on, with the status that its body had last. -/
def runLoop : Nat → (tested untilSuccess : Bool) → (test body : Command) → Nat → Act Unit
  | 0, _, _, _, _, _ => throw .endless
  | fuel + 1, tested, untilSuccess, test, body, last => do
    run fuel true test
    if ((← get).status = 0) = !untilSuccess then
      if ← loopBody (run fuel tested body) then return
      runLoop fuel tested untilSuccess test body (← get).status
    else setStatus last

end

end BuildFleet.Shell
