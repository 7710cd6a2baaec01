import BuildFleet.Shell.Script

/-!
# Reading scripts

A script is read by recursive descent. The bound on the depth grows with
the length of the script, since only a few steps down take no character.
What is read is given with the rest of the text.
-/

namespace BuildFleet.Shell

/-! ## Characters -/

def isNameStart (character : Char) : Bool := character.isAlpha || character == '_'

def isNameCharacter (character : Char) : Bool := character.isAlphanum || character == '_'

/-- Whether a character ends a word where it is not quoted. -/
def endsWord (character : Char) : Bool := " \t\n;&|()<>".toList.contains character

/-- Skip blanks, comments and, if wanted, line ends. -/
def skip (lineEnds : Bool) : (inComment : Bool) → List Char → List Char
  | _, [] => []
  | true, '\n' :: rest => if lineEnds then skip lineEnds false rest else '\n' :: rest
  | true, _ :: rest => skip lineEnds true rest
  | false, '\\' :: '\n' :: rest => skip lineEnds false rest
  | false, '#' :: rest => skip lineEnds true rest
  | false, character :: rest =>
    if character == ' ' || character == '\t' || (lineEnds && character == '\n') then
      skip lineEnds false rest
    else character :: rest

def skipBlanks : List Char → List Char := skip false false

def skipLines : List Char → List Char := skip true false

/-- What stands before the bracket that closes, and what after it. Quotes and
inner brackets are passed over. -/
def untilClose (openMark closeMark : Char) : (depth : Nat) → (quote : Option Char) →
    (taken : List Char) → List Char → Option (List Char × List Char)
  | _, _, _, [] => none
  | depth, some '\'', taken, character :: rest =>
    let quote := if character = '\'' then none else some '\''
    untilClose openMark closeMark depth quote (character :: taken) rest
  | depth, quote, taken, '\\' :: character :: rest =>
    untilClose openMark closeMark depth quote (character :: '\\' :: taken) rest
  | depth, some mark, taken, character :: rest =>
    let quote := if character = mark then none else some mark
    untilClose openMark closeMark depth quote (character :: taken) rest
  | depth, none, taken, character :: rest =>
    if character = '\'' ∨ character = '"' then
      untilClose openMark closeMark depth (some character) (character :: taken) rest
    else if character = openMark then
      untilClose openMark closeMark (depth + 1) none (character :: taken) rest
    else if character = closeMark then
      match depth with
      | 0 => some (taken.reverse, rest)
      | depth + 1 => untilClose openMark closeMark depth none (character :: taken) rest
    else untilClose openMark closeMark depth none (character :: taken) rest

/-! ## Words -/

def unterminated : String := "Syntax error: Unterminated quoted string"

def badSubstitution : String := "Bad substitution"

/-- A parameter in braces: its name, and what follows the name. -/
def readBraced (quoted : Bool) (text : List Char) : Except String Piece :=
  let nameOf (text : List Char) : List Char :=
    match text with
    | first :: _ =>
      if isNameStart first then text.takeWhile isNameCharacter
      else if first.isDigit then text.takeWhile Char.isDigit
      else if "@*#?-$!".toList.contains first then [first] else []
    | [] => []
  let parameter (name : List Char) (rule : Rule) : Except String Piece :=
    if name.isEmpty then .error badSubstitution
    else .ok (.parameter quoted (String.ofList name) rule)
  match text with
  | '#' :: first :: rest =>
    let name := nameOf (first :: rest)
    if name.length = rest.length + 1 then parameter name .length else .error badSubstitution
  | _ =>
    let name := nameOf text
    match text.drop name.length with
    | [] => parameter name .value
    | ':' :: mark :: word =>
      if "-=+?".toList.contains mark then parameter name (.otherwise mark true word)
      else .error badSubstitution
    | mark :: word =>
      if "-=+?".toList.contains mark then parameter name (.otherwise mark false word)
      else .error badSubstitution

/-- What stands after a dollar sign. Without a name the sign stands for itself. -/
def readDollar (quoted : Bool) (text : List Char) : Except String (Piece × List Char) :=
  match text with
  | '(' :: rest =>
    match untilClose '(' ')' 0 none [] rest with
    | none => .error unterminated
    | some (content, rest) =>
      match content, content.getLast? with
      | '(' :: inner, some ')' => .ok (.sum quoted inner.dropLast, rest)
      | _, _ => .ok (.output quoted content, rest)
  | '\x7b' :: rest =>
    match untilClose '\x7b' '\x7d' 0 none [] rest with
    | none => .error "Syntax error: Missing '\x7d'"
    | some (content, rest) => do .ok (← readBraced quoted content, rest)
  | first :: rest =>
    if isNameStart first then
      let name := text.takeWhile isNameCharacter
      .ok (.parameter quoted (String.ofList name) .value, text.drop name.length)
    else if first.isDigit || "@*#?-$!".toList.contains first then
      .ok (.parameter quoted (String.singleton first) .value, rest)
    else .ok (.text quoted ['$'], text)
  | [] => .ok (.text quoted ['$'], [])

/-- What stands between backward quotes, without the backslashes that quote there. -/
def untilBackquote (taken : List Char) : List Char → Option (List Char × List Char)
  | [] => none
  | '\x60' :: rest => some (taken.reverse, rest)
  | '\\' :: character :: rest =>
    if character == '\x60' || character == '\\' || character == '$' then
      untilBackquote (character :: taken) rest
    else untilBackquote (character :: '\\' :: taken) rest
  | character :: rest => untilBackquote (character :: taken) rest

/-- Read the pieces of a word; or, if `quoted`, those before the closing quote or,
where none is wanted, before the end. -/
def readPieces (quoted wantsClose : Bool) : Nat → List Char → Except String (Word × List Char)
  | 0, _ => .error unterminated
  | _ + 1, [] => if quoted && wantsClose then .error unterminated else .ok ([], [])
  | fuel + 1, first :: rest =>
    let andMore (piece : Piece) (rest : List Char) : Except String (Word × List Char) := do
      let (pieces, rest) ← readPieces quoted wantsClose fuel rest
      .ok (piece :: pieces, rest)
    match first, rest with
    | '\\', '\n' :: rest => readPieces quoted wantsClose fuel rest
    | '\\', character :: rest =>
      if !quoted || "$\x60\"\\".toList.contains character then
        andMore (.text true [character]) rest
      else andMore (.text true ['\\', character]) rest
    | '$', rest => do
      let (piece, rest) ← readDollar quoted rest
      andMore piece rest
    | '\x60', rest =>
      match untilBackquote [] rest with
      | none => .error unterminated
      | some (content, rest) => andMore (.output quoted content) rest
    | '"', rest =>
      if quoted then (if wantsClose then .ok ([], rest) else readPieces quoted wantsClose fuel rest)
      else do
        let (inner, rest) ← readPieces true true fuel rest
        let (pieces, rest) ← readPieces false wantsClose fuel rest
        .ok (.text true [] :: inner ++ pieces, rest)
    | '\'', rest =>
      if quoted then andMore (.text true ['\'']) rest
      else
        let content := rest.takeWhile (· ≠ '\'')
        match rest.drop content.length with
        | _ :: rest => andMore (.text true content) rest
        | [] => .error unterminated
    | first, rest =>
      if quoted then andMore (.text true [first]) rest
      else if endsWord first then .ok ([], first :: rest)
      else andMore (.text false [first]) rest

/-- A tilde at the start of a path stands for the home directory. -/
def withHome (word : Word) : Word :=
  match word with
  | .text false ['~'] :: rest =>
    if rest.isEmpty || rest.head? = some (.text false ['/']) then
      .parameter true "HOME" .value :: rest
    else word
  | _ => word

/-- Read a word, if there is one. -/
def readWord (text : List Char) : Except String (Option Word × List Char) := do
  let text := skipBlanks text
  match text with
  | [] => .ok (none, [])
  | first :: _ =>
    if endsWord first then .ok (none, text)
    else
      let (word, rest) ← readPieces false true (text.length + 1) text
      .ok (some (withHome word), rest)

/-! ## Redirections -/

/-- Read the descriptor and the mark of a redirection, if there is one. -/
def redirectionMark? (text : List Char) : Option (Nat × (Word → Direction) × List Char) :=
  let digits := text.takeWhile Char.isDigit
  let descriptor (standard : Nat) : Nat :=
    if digits.isEmpty then standard
    else digits.foldl (fun value digit => value * 10 + (digit.toNat - 48)) 0
  match text.drop digits.length with
  | '>' :: '>' :: rest => some (descriptor 1, .append, rest)
  | '>' :: '&' :: rest => some (descriptor 1, .duplicate, rest)
  | '>' :: '|' :: rest => some (descriptor 1, .write, rest)
  | '>' :: rest => some (descriptor 1, .write, rest)
  | '<' :: '&' :: rest => some (descriptor 0, .duplicate, rest)
  | '<' :: rest => some (descriptor 0, .read, rest)
  | _ => none

/-- What is wrong with a text that goes on like this. -/
def unexpected (text : List Char) : String :=
  match text with
  | [] => "Syntax error: end of file unexpected"
  | '\n' :: _ => "Syntax error: newline unexpected"
  | first :: rest =>
    let token := if endsWord first then
        (if rest.head? = some first && first != '(' && first != ')' then [first, first] else [first])
      else text.takeWhile fun character => !endsWord character
    "Syntax error: \"" ++ String.ofList token ++ "\" unexpected"

def expecting (text : List Char) (word : String) : String :=
  unexpected text ++ " (expecting \"" ++ word ++ "\")"

/-- Read the redirections behind a command. -/
def readRedirections : Nat → List Char → Except String (List Redirection × List Char)
  | 0, text => .ok ([], text)
  | fuel + 1, text =>
    match redirectionMark? (skipBlanks text) with
    | none => .ok ([], text)
    | some (descriptor, direction, rest) => do
      match ← readWord rest with
      | (none, rest) => .error (unexpected rest)
      | (some word, rest) =>
        let (more, rest) ← readRedirections fuel rest
        .ok (⟨descriptor, direction word⟩ :: more, rest)

/-! ## Commands -/

/-- The name and the text after the sign of an assignment, if there is one. -/
def assignment? (text : List Char) : Option (String × List Char) :=
  let name := text.takeWhile isNameCharacter
  match name, text.drop name.length with
  | first :: _, '=' :: rest => if isNameStart first then some (String.ofList name, rest) else none
  | _, _ => none

/-- The unquoted word that a text starts with. -/
def leadingWord (text : List Char) : String :=
  String.ofList (text.takeWhile fun character => !endsWord character)

/-- Words that end a list of commands. -/
def closingWords : List String := ["then", "else", "elif", "fi", "do", "done", "esac", "\x7d"]

/-- Read the assignments, words and redirections of a simple command. -/
def readSimple : Nat → List Char → 
    Except String ((List (String × Word) × List Word × List Redirection) × List Char)
  | 0, text => .error (unexpected text)
  | fuel + 1, text => do
    let text := skipBlanks text
    match redirectionMark? text with
    | some (descriptor, direction, rest) =>
      match ← readWord rest with
      | (none, rest) => .error (unexpected rest)
      | (some word, rest) =>
        let ((assignments, words, redirections), rest) ← readSimple fuel rest
        .ok ((assignments, words, ⟨descriptor, direction word⟩ :: redirections), rest)
    | none =>
      match assignment? text with
      | some (name, rest) =>
        let (value, rest) ← readPieces false true (rest.length + 1) rest
        let ((assignments, words, redirections), rest) ← readSimple fuel rest
        .ok (((name, value) :: assignments, words, redirections), rest)
      | none =>
        match ← readWord text with
        | (none, rest) => .ok (([], [], []), rest)
        | (some word, rest) =>
          let (words, redirections, rest) ← readWords fuel rest
          .ok (([], word :: words, redirections), rest)
where
  /-- Read the words and redirections after the first word. -/
  readWords : Nat → List Char → Except String (List Word × List Redirection × List Char)
    | 0, text => .error (unexpected text)
    | fuel + 1, text => do
      match redirectionMark? (skipBlanks text) with
      | some (descriptor, direction, rest) =>
        match ← readWord rest with
        | (none, rest) => .error (unexpected rest)
        | (some word, rest) =>
          let (words, redirections, rest) ← readWords fuel rest
          .ok (words, ⟨descriptor, direction word⟩ :: redirections, rest)
      | none =>
        match ← readWord text with
        | (none, rest) => .ok ([], [], rest)
        | (some word, rest) =>
          let (words, redirections, rest) ← readWords fuel rest
          .ok (word :: words, redirections, rest)

/-- Read on after a word that has to come next. -/
def afterWord (word : String) (text : List Char) : Except String (List Char) :=
  let text := skipLines text
  if leadingWord text = word then .ok (text.drop word.length) else .error (expecting text word)

/-- Words up to the end of a command. -/
def readFields : Nat → List Char → Except String (List Word × List Char)
  | 0, text => .error (unexpected text)
  | fuel + 1, text => do
    match ← readWord text with
    | (none, rest) => .ok ([], rest)
    | (some word, rest) =>
      let (words, rest) ← readFields fuel rest
      .ok (word :: words, rest)

/-- Read the patterns of a choice up to the bracket behind them. -/
def readPatterns : Nat → List Char → Except String (List Word × List Char)
  | 0, text => .error (unexpected text)
  | fuel + 1, text => do
    match ← readWord text with
    | (none, rest) => .error (unexpected rest)
    | (some word, rest) =>
      match skipBlanks rest with
      | '|' :: rest =>
        let (words, rest) ← readPatterns fuel rest
        .ok (word :: words, rest)
      | ')' :: rest => .ok ([word], rest)
      | rest => .error (expecting rest ")")

mutual

/-- Read commands up to a closing word, a closing bracket or the end. `lines` is
the number of line ends in the whole script. -/
def readList (lines : Nat) : Nat → List Char → Except String (Command × List Char)
  | 0, text => .error (unexpected text)
  | fuel + 1, text => do
    let text := skipLines text
    if text.isEmpty || text.head? = some ')' || text.take 2 = [';', ';'] || closingWords.contains (leadingWord text) then
      .ok (.nothing, text)
    else
      let (command, rest) ← readChain lines fuel text
      match skipBlanks rest with
      | ';' :: ';' :: rest => .ok (command, ';' :: ';' :: rest)
      | ';' :: rest => do
        let (next, rest) ← readList lines fuel rest
        .ok (.sequence command next, rest)
      | '\n' :: rest => do
        let (next, rest) ← readList lines fuel rest
        .ok (.sequence command next, rest)
      | '&' :: rest => do
        let (next, rest) ← readList lines fuel rest
        .ok (.sequence (.background command) next, rest)
      | rest => .ok (command, rest)

/-- Read pipelines that are joined by their success. -/
def readChain (lines : Nat) : Nat → List Char → Except String (Command × List Char)
  | 0, text => .error (unexpected text)
  | fuel + 1, text => do
    let (command, rest) ← readPipeline lines fuel text
    readChainAfter lines fuel command rest

def readChainAfter (lines : Nat) : Nat → Command → List Char → Except String (Command × List Char)
  | 0, _, text => .error (unexpected text)
  | fuel + 1, command, text =>
    match skipBlanks text with
    | '&' :: '&' :: rest => do
      let (next, rest) ← readPipeline lines fuel rest
      readChainAfter lines fuel (.both command next) rest
    | '|' :: '|' :: rest => do
      let (next, rest) ← readPipeline lines fuel rest
      readChainAfter lines fuel (.either command next) rest
    | rest => .ok (command, rest)

def readPipeline (lines : Nat) : Nat → List Char → Except String (Command × List Char)
  | 0, text => .error (unexpected text)
  | fuel + 1, text => do
    let text := skipLines text
    if leadingWord text = "!" then
      let (command, rest) ← readPipeline lines fuel (text.drop 1)
      .ok (.negation command, rest)
    else
      let (command, rest) ← readCommand lines fuel text
      match skipBlanks rest with
      | '|' :: '|' :: _ => .ok (command, rest)
      | '|' :: rest => do
        let (next, rest) ← readPipeline lines fuel rest
        .ok (.pipeline command next, rest)
      | rest => .ok (command, rest)

/-- Read one command with its redirections. -/
def readCommand (lines : Nat) : Nat → List Char → Except String (Command × List Char)
  | 0, text => .error (unexpected text)
  | fuel + 1, text => do
    let text := skipLines text
    let withRedirections (command : Command) (rest : List Char) : Except String (Command × List Char) := do
      let (redirections, rest) ← readRedirections rest.length rest
      .ok (if redirections.isEmpty then command else .redirected command redirections, rest)
    let word := leadingWord text
    if text.head? = some '(' then
      let (body, rest) ← readList lines fuel (text.drop 1)
      match skipLines rest with
      | ')' :: rest => withRedirections (.subshell body) rest
      | rest => .error (expecting rest ")")
    else if word = "\x7b" then
      let (body, rest) ← readList lines fuel (text.drop 1)
      withRedirections body (← afterWord "\x7d" rest)
    else if word = "if" then
      let (command, rest) ← readConditional lines fuel (text.drop 2)
      withRedirections command rest
    else if word = "while" ∨ word = "until" then
      let (test, rest) ← readList lines fuel (text.drop 5)
      let (body, rest) ← readList lines fuel (← afterWord "do" rest)
      withRedirections (.loop (word = "until") test body) (← afterWord "done" rest)
    else if word = "case" then
      match ← readWord (text.drop 4) with
      | (none, rest) => .error (unexpected rest)
      | (some word, rest) =>
        let (command, rest) ← readChoices lines fuel word (← afterWord "in" rest)
        withRedirections command rest
    else if word = "for" then
      let text := skipBlanks (text.drop 3)
      let name := leadingWord text
      if !(name.toList.head?.any isNameStart && name.toList.all isNameCharacter) then
        throw "Syntax error: Bad for loop variable"
      let rest := skipLines (text.drop name.length)
      let (words, rest) ←
        if leadingWord rest = "in" then do
          let (words, rest) ← readFields rest.length (rest.drop 2)
          .ok (some words, rest)
        else .ok (none, rest)
      let rest := match skipBlanks rest with
        | ';' :: rest => rest
        | rest => rest
      let (body, rest) ← readList lines fuel (← afterWord "do" rest)
      withRedirections (.each name words body) (← afterWord "done" rest)
    else
      let isName := !word.isEmpty && word.toList.all isNameCharacter
      match isName, skipBlanks (text.drop word.length) with
      | true, '(' :: rest =>
        match skipBlanks rest with
        | ')' :: rest =>
          let (body, rest) ← readCommand lines fuel rest
          .ok (.define word body, rest)
        | rest => .error (expecting rest ")")
      | _, _ =>
        let ((assignments, words, redirections), rest) ← readSimple (text.length + 1) text
        if assignments.isEmpty && words.isEmpty && redirections.isEmpty then
          .error (unexpected rest)
        else
          let line := 1 + (lines - text.count '\n')
          .ok (.simple line assignments words redirections, rest)

/-- Read the choices for a word, each with its patterns. -/
def readChoices (lines : Nat) : Nat → Word → List Char → Except String (Command × List Char)
  | 0, _, text => .error (unexpected text)
  | fuel + 1, word, text => do
    let text := skipLines text
    if leadingWord text = "esac" then .ok (.nothing, text.drop 4)
    else
      let text := if text.head? = some '(' then text.drop 1 else text
      let (patterns, rest) ← readPatterns text.length text
      let (body, rest) ← readList lines fuel rest
      let rest := skipLines rest
      let rest := if rest.take 2 = [';', ';'] then rest.drop 2 else rest
      let (otherwise, rest) ← readChoices lines fuel word rest
      .ok (.choose word patterns body otherwise, rest)

/-- Read a condition and what follows it. -/
def readConditional (lines : Nat) : Nat → List Char → Except String (Command × List Char)
  | 0, text => .error (unexpected text)
  | fuel + 1, text => do
    let (test, rest) ← readList lines fuel text
    let (yes, rest) ← readList lines fuel (← afterWord "then" rest)
    let rest := skipLines rest
    if leadingWord rest = "elif" then
      let (no, rest) ← readConditional lines fuel (rest.drop 4)
      .ok (.conditional test yes no, rest)
    else if leadingWord rest = "else" then
      let (no, rest) ← readList lines fuel (rest.drop 4)
      .ok (.conditional test yes no, ← afterWord "fi" rest)
    else .ok (.conditional test yes .nothing, ← afterWord "fi" rest)

end

/-- Read a whole script. -/
def readScript (text : List Char) : Except String Command := do
  let (command, rest) ← readList (text.count '\n') (8 * text.length + 8) text
  match skipLines rest with
  | [] => .ok command
  | rest => .error (unexpected rest)

end BuildFleet.Shell
