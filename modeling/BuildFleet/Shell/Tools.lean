import BuildFleet.Machine.Files
import BuildFleet.Shell.Format
import BuildFleet.Text.Utf8

/-!
# Commands of the machine

What the small commands that builds use do: each reads its arguments and its input
and gives an output, complaints and a status.
-/

namespace BuildFleet.Shell

/-- What a command finds around it. -/
structure ToolContext where
  environment : List (String × String)
  directory : String
  /-- What is in a file. -/
  content : String → Except SystemFault (List UInt8)
  /-- Whether there is something at a path, and whether that is a directory. -/
  isDirectory? : String → Option Bool
  input : List UInt8

structure ToolResult where
  output : List UInt8
  complaints : List String
  status : Nat
  /-- What is left of the input. -/
  rest : List UInt8

namespace ToolResult

/-- A command that did nothing to its input. -/
def ended (context : ToolContext) (status : Nat) : ToolResult := ⟨[], [], status, context.input⟩

def printed (context : ToolContext) (output : List UInt8) : ToolResult :=
  ⟨output, [], 0, context.input⟩

def refused (context : ToolContext) (complaint : String) (status : Nat) : ToolResult :=
  ⟨[], [complaint], status, context.input⟩

end ToolResult

/-- What commands say below a complaint about their arguments. -/
def helpHint (name : String) : String := "Try '" ++ name ++ " --help' for more information."

def lineBytes (text : String) : List UInt8 := bytesOf text ++ [10]

/-! ## Copying input -/

/-- The contents of files one after the other; a dash, or no file, is the input. -/
def catenate (context : ToolContext) (paths : List String) : ToolResult :=
  (if paths.isEmpty then ["-"] else paths).foldl (fun result path =>
    if path = "-" then { result with output := result.output ++ result.rest, rest := [] }
    else
      match context.content path with
      | .ok bytes => { result with output := result.output ++ bytes }
      | .error fault =>
        { result with
          complaints := result.complaints ++ ["cat: " ++ path ++ ": " ++ fault.phrase]
          status := 1 }) (.ended context 0)

/-- The first lines, and what follows them. -/
def splitLines : Nat → List UInt8 → List UInt8 × List UInt8
  | 0, bytes => ([], bytes)
  | _, [] => ([], [])
  | count + 1, byte :: rest =>
    let (first, after) := splitLines (if byte = 10 then count else count + 1) rest
    (byte :: first, after)

def lineCount (bytes : List UInt8) : Nat := bytes.count 10

/-- The number after an option of one letter, in the same argument or the next. -/
def countOption? (letter : Char) : List String → Option (Nat × List String)
  | argument :: rest =>
    match argument.toList, rest with
    | ['-', mark], count :: rest =>
      if mark = letter then (digitsOf? count.toList).map (·, rest) else none
    | '-' :: mark :: count, rest => if mark = letter then (digitsOf? count).map (·, rest) else none
    | _, _ => none
  | [] => none
where
  digitsOf? (text : List Char) : Option Nat :=
    if text.isEmpty then none else digitsValue 10 text

/-- The bytes that a command for one stream works on, and what it leaves. -/
def oneStream (context : ToolContext) (paths : List String) (complaint : String → String)
    (go : List UInt8 → List UInt8 × List UInt8) : ToolResult :=
  match paths with
  | [] | ["-"] =>
    let (output, rest) := go context.input
    ⟨output, [], 0, rest⟩
  | path :: _ =>
    match context.content path with
    | .ok bytes => .printed context (go bytes).1
    | .error fault => .refused context (complaint path ++ ": " ++ fault.phrase) 1

/-- The start of a complaint about a file that cannot be read. -/
def cannotOpen (name path : String) : String :=
  name ++ ": cannot open '" ++ path ++ "' for reading"

def headOf (context : ToolContext) (arguments : List String) : ToolResult :=
  match countOption? 'c' arguments, countOption? 'n' arguments with
  | some (count, paths), _ =>
    oneStream context paths (cannotOpen "head") fun bytes => (bytes.take count, bytes.drop count)
  | none, some (count, paths) => oneStream context paths (cannotOpen "head") (splitLines count)
  | none, none => oneStream context arguments (cannotOpen "head") (splitLines 10)

def tailOf (context : ToolContext) (arguments : List String) : ToolResult :=
  let lastLines (count : Nat) (bytes : List UInt8) : List UInt8 × List UInt8 :=
    let total := lineCount bytes + (if bytes.getLast?.any (· ≠ 10) then 1 else 0)
    ((splitLines (total - count) bytes).2, [])
  match countOption? 'c' arguments, countOption? 'n' arguments with
  | some (count, paths), _ =>
    oneStream context paths (cannotOpen "tail") fun bytes => (bytes.drop (bytes.length - count), [])
  | none, some (count, paths) => oneStream context paths (cannotOpen "tail") (lastLines count)
  | none, none => oneStream context arguments (cannotOpen "tail") (lastLines 10)

def wordCount (bytes : List UInt8) : Nat :=
  (bytes.foldl (fun (count, inWord) byte =>
    let blank := byte = 32 ∨ (9 ≤ byte ∧ byte ≤ 13)
    (if !inWord && !blank then count + 1 else count, !blank)) ((0, false) : Nat × Bool)).1

/-- Count lines, words and bytes, in this order. A character is a byte. -/
def countsOf (context : ToolContext) (arguments : List String) : ToolResult :=
  let isOption (argument : String) : Bool := argument.length > 1 && argument.toList.head? = some '-'
  let letters := (arguments.filter isOption).flatMap fun argument => argument.toList.drop 1
  let wants (letter : Char) : Bool := letters.isEmpty && letter ≠ 'm' || letters.contains letter
  let counts (bytes : List UInt8) : List Nat :=
    (if wants 'l' then [lineCount bytes] else []) ++
    (if wants 'w' then [wordCount bytes] else []) ++
    (if wants 'm' then [bytes.length] else []) ++
    (if wants 'c' then [bytes.length] else [])
  let paths := arguments.filter fun argument => !isOption argument
  let written (bytes : List UInt8) : List UInt8 :=
    let counts := counts bytes
    let width := if counts.length > 1 then 7 else 0
    let columns := counts.map fun count =>
      let digits := toString count
      String.ofList (List.replicate (width - digits.length) ' ') ++ digits
    let name := match paths with
      | [] => ""
      | path :: _ => " " ++ path
    lineBytes (" ".intercalate columns ++ name)
  oneStream context paths ("wc: " ++ ·) fun bytes => (written bytes, [])

/-- The lines of bytes, without their line ends. -/
def linesOfBytes (bytes : List UInt8) : List String :=
  match (Text.decodeBytes bytes).splitOn "\n" |>.reverse with
  | "" :: lines => lines.reverse
  | lines => lines.reverse

def bytesOfLines (lines : List String) : List UInt8 := lines.flatMap lineBytes

/-- Sort lines by their characters; `-r` turns the order round, and `-u` keeps one of
equal lines. -/
def sortedOf (context : ToolContext) (arguments : List String) : ToolResult :=
  let (options, paths) := arguments.partition fun argument =>
    argument.length > 1 && argument.toList.head? = some '-'
  let letters := options.flatMap String.toList
  oneStream context paths ("sort: cannot read: " ++ ·) fun bytes =>
    let lines := (linesOfBytes bytes).mergeSort fun left right => left ≤ right
    let lines := if letters.contains 'u' then lines.eraseDups else lines
    (bytesOfLines (if letters.contains 'r' then lines.reverse else lines), [])

/-- Whether a text starts with a pattern, in which a point stands for any character
and a dollar sign at the end for the end. -/
def startsWithPattern : (pattern text : List Char) → Bool
  | [], _ => true
  | ['$'], text => text.isEmpty
  | _ :: _, [] => false
  | mark :: pattern, character :: text =>
    (mark = '.' || mark = character) && startsWithPattern pattern text

/-- Whether a pattern is found anywhere in a text. -/
def isFoundIn (pattern : List Char) : List Char → Bool
  | [] => startsWithPattern pattern []
  | character :: rest => startsWithPattern pattern (character :: rest) || isFoundIn pattern rest

/-- Whether a pattern is found in a text: anywhere, or after `^` at its start. -/
def isFound (pattern text : List Char) : Bool :=
  match pattern with
  | '^' :: pattern => startsWithPattern pattern text
  | _ => isFoundIn pattern text

/-- Pick out the lines with a pattern; `-v` those without it, `-c` only counts them,
and `-q` prints nothing. -/
def picked (context : ToolContext) (arguments : List String) : ToolResult :=
  let (options, operands) := arguments.partition fun argument =>
    argument.length > 1 && argument.toList.head? = some '-'
  let letters := options.flatMap String.toList
  match operands with
  | [] => .refused context "Usage: grep [OPTION]... PATTERNS [FILE]..." 2
  | pattern :: paths =>
    let keeps (line : String) : Bool := isFound pattern.toList line.toList != letters.contains 'v'
    let result := oneStream context paths ("grep: " ++ ·) fun bytes =>
      let lines := (linesOfBytes bytes).filter keeps
      (if letters.contains 'c' then lineBytes (toString lines.length) else bytesOfLines lines, [])
    let found := !result.output.isEmpty && result.output ≠ lineBytes "0"
    { result with
      output := if letters.contains 'q' then [] else result.output
      status := if !result.complaints.isEmpty then 2 else if found then 0 else 1 }

/-! ## Printing -/

/-- The numbers from one to another in steps. -/
def numbersBetween (first step last : Int) : List Int :=
  if step = 0 then []
  else
    let count := if 0 < step then (last - first) / step else (first - last) / (-step)
    if count < 0 then []
    else (List.range (count.toNat + 1)).map fun (index : Nat) => first + step * (index : Int)

def sequenceOf (context : ToolContext) (arguments : List String) : ToolResult :=
  let texts (numbers : List Int) : ToolResult :=
    .printed context (numbers.flatMap fun number => lineBytes (toString number))
  match arguments.mapM fun argument => integer? argument.toList with
  | some [last] => texts (numbersBetween 1 1 last)
  | some [first, last] => texts (numbersBetween first 1 last)
  | some [first, step, last] => texts (numbersBetween first step last)
  | some _ => ⟨[], ["seq: missing operand", helpHint "seq"], 1, context.input⟩
  | none =>
    let fault := (arguments.find? fun argument => (integer? argument.toList).isNone).getD ""
    ⟨[], ["seq: invalid floating point argument: '" ++ fault ++ "'", helpHint "seq"], 1,
      context.input⟩

/-- Print arguments. Of the leading options `-n` leaves out the line end, and `-e`
gives escapes a meaning. -/
def echoOf (context : ToolContext) (arguments : List String) : ToolResult :=
  let isOption (argument : String) : Bool :=
    match argument.toList with
    | '-' :: first :: rest => (first :: rest).all "neE".toList.contains
    | _ => false
  let options := (arguments.takeWhile isOption).flatMap String.toList
  let text := (" ".intercalate (arguments.dropWhile isOption)).toList
  let lineEnd := if options.contains 'n' then [] else [10]
  if options.contains 'e' then
    let (bytes, stops) := escapedBytes (text.length + 1) text
    .printed context (if stops then bytes else bytes ++ lineEnd)
  else .printed context (bytesOfCharacters text ++ lineEnd)

/-- Print arguments as the shell itself does: escapes always have a meaning. -/
def shellEcho (context : ToolContext) (arguments : List String) : ToolResult :=
  let (texts, lineEnd) := match arguments with
    | "-n" :: rest => (rest, [])
    | texts => (texts, ([10] : List UInt8))
  let text := (" ".intercalate texts).toList
  let (bytes, stops) := escapedBytes (text.length + 1) text
  .printed context (if stops then bytes else bytes ++ lineEnd)

def printfOf (context : ToolContext) (arguments : List String) : ToolResult :=
  match arguments with
  | [] => .refused context "printf: usage: printf format [arg ...]" 2
  | "--" :: format :: arguments | format :: arguments =>
    let (items, fault) := formatItems (format.length + 1) format.toList
    let formatted := formatAll items (arguments.length + 1) arguments
    let faults := fault.map (· ++ ": invalid directive")
    let complaints := (formatted.misfits ++ faults.toList).map ("printf: " ++ ·)
    let status := if fault.isSome then 2 else if complaints.isEmpty then 0 else 1
    ⟨formatted.bytes, complaints, status, context.input⟩

/-- Print variables of the environment. -/
def printVariables (context : ToolContext) (names : List String) : ToolResult :=
  if names.isEmpty then
    .printed context (context.environment.flatMap fun (name, value) =>
      lineBytes (name ++ "=" ++ value))
  else
    let values := names.map fun name => context.environment.lookup name
    { ToolResult.printed context (values.flatMap fun value => (value.map lineBytes).getD []) with
      status := if values.all Option.isSome then 0 else 1 }

/-! ## Tests -/

/-- Whether a test of one operand holds. -/
def unaryTest (context : ToolContext) (operator operand : String) : Except String Bool :=
  match operator with
  | "-n" => .ok (!operand.isEmpty)
  | "-z" => .ok operand.isEmpty
  | "-e" | "-r" => .ok (context.isDirectory? operand).isSome
  | "-d" | "-x" => .ok (context.isDirectory? operand = some true)
  | "-f" => .ok (context.isDirectory? operand = some false)
  | "-s" => .ok (match context.content operand with
      | .ok bytes => !bytes.isEmpty
      | .error _ => false)
  | "-w" => .ok (context.isDirectory? operand).isSome
  | "-L" | "-h" | "-t" => .ok false
  | _ => .error (operator ++ ": unexpected operator")

/-- Whether a test of two operands holds. -/
def binaryTest (left operator right : String) : Except String Bool := do
  let numbers (compare : Int → Int → Bool) : Except String Bool := do
    let number (text : String) : Except String Int :=
      match integer? (text.trimAscii.toString).toList with
      | some value => .ok value
      | none => .error ("Illegal number: " ++ text)
    .ok (compare (← number left) (← number right))
  match operator with
  | "=" | "==" => .ok (left == right)
  | "!=" => .ok (left != right)
  | "<" => .ok (left < right)
  | ">" => .ok (right < left)
  | "-eq" => numbers (· == ·)
  | "-ne" => numbers (· != ·)
  | "-lt" => numbers (decide <| · < ·)
  | "-le" => numbers (decide <| · ≤ ·)
  | "-gt" => numbers (decide <| · > ·)
  | "-ge" => numbers (decide <| · ≥ ·)
  | _ => .error (left ++ ": unexpected operator")

/-- Whether a test holds. What it means depends on how many arguments it has. -/
def testHolds (context : ToolContext) : Nat → List String → Except String Bool
  | 0, _ => .error "too many arguments"
  | _, [] => .ok false
  | _, [text] => .ok (!text.isEmpty)
  | fuel + 1, first :: second :: rest =>
    match first, second, rest with
    | "!", second, rest => (testHolds context fuel (second :: rest)).map (!·)
    | operator, operand, [] => unaryTest context operator operand
    | left, "-a", [right] => .ok (!left.isEmpty && !right.isEmpty)
    | left, "-o", [right] => .ok (!left.isEmpty || !right.isEmpty)
    | left, operator, [right] => binaryTest left operator right
    | left, operator, right :: "-a" :: rest => do
      let holds ← binaryTest left operator right
      let more ← testHolds context fuel rest
      .ok (holds && more)
    | left, operator, right :: "-o" :: rest => do
      let holds ← binaryTest left operator right
      let more ← testHolds context fuel rest
      .ok (holds || more)
    | operator, operand, "-a" :: rest => do
      let holds ← unaryTest context operator operand
      let more ← testHolds context fuel rest
      .ok (holds && more)
    | operator, operand, "-o" :: rest => do
      let holds ← unaryTest context operator operand
      let more ← testHolds context fuel rest
      .ok (holds || more)
    | _, _, argument :: _ => .error (argument ++ ": unexpected operator")

def testOf (context : ToolContext) (name : String) (arguments : List String) : ToolResult :=
  let refused (complaint : String) : ToolResult := .refused context (name ++ ": " ++ complaint) 2
  let operands := if name = "[" then
      (if arguments.getLast? = some "]" then some arguments.dropLast else none)
    else some arguments
  match operands with
  | none => refused "missing ]"
  | some operands =>
    match testHolds context (operands.length + 1) operands with
    | .ok holds => .ended context (if holds then 0 else 1)
    | .error complaint => refused complaint

/-! ## All of them -/

/-- What a command does that needs neither time nor processes. -/
def runTool (context : ToolContext) (name : String) (arguments : List String) :
    Option ToolResult :=
  match name with
  | "true" => some (.ended context 0)
  | "false" => some (.ended context 1)
  | "cat" => some (catenate context arguments)
  | "head" => some (headOf context arguments)
  | "tail" => some (tailOf context arguments)
  | "wc" => some (countsOf context arguments)
  | "seq" => some (sequenceOf context arguments)
  | "sort" => some (sortedOf context arguments)
  | "grep" => some (picked context arguments)
  | "echo" => some (echoOf context arguments)
  | "printf" => some (printfOf context arguments)
  | "env" => some (printVariables context [])
  | "printenv" => some (printVariables context arguments)
  | "pwd" => some (.printed context (lineBytes context.directory))
  | "test" | "[" => some (testOf context name arguments)
  | _ => none

end BuildFleet.Shell
