/-!
# Characters of KDL

White space and line ends are those of Unicode. Some characters, which change
how a text is shown without being seen, may not stand in a document as they are.
-/

namespace BuildFleet.Kdl

/-- White space within a line. -/
def isSpace (character : Char) : Bool :=
  let code := character.toNat
  code == 0x09 || code == 0x20 || code == 0xA0 || code == 0x1680
    || (0x2000 ≤ code && code ≤ 0x200A) || code == 0x202F || code == 0x205F || code == 0x3000

/-- The characters that end a line; a carriage return and a line feed end one line. -/
def isNewline (character : Char) : Bool :=
  let code := character.toNat
  (0x0A ≤ code && code ≤ 0x0D) || code == 0x85 || code == 0x2028 || code == 0x2029

/-- Characters that may not stand in a document. -/
def isDisallowed (character : Char) : Bool :=
  let code := character.toNat
  code ≤ 0x08 || (0x0E ≤ code && code ≤ 0x1F) || code == 0x7F
    || code == 0x200E || code == 0x200F || (0x202A ≤ code && code ≤ 0x202E)
    || (0x2066 ≤ code && code ≤ 0x2069) || code == 0xFEFF

/-- The characters of a name or a string without quotes. -/
def isIdentifierCharacter (character : Char) : Bool :=
  !(isSpace character || isNewline character || isDisallowed character
    || "\\/()\x7b\x7d;[]\"#=".toList.contains character)

/-- Names that are kept for values, which are written with a hash in front. -/
def reservedNames : List String := ["true", "false", "null", "inf", "-inf", "nan"]

/-- Whether characters start like a number. -/
def startsLikeNumber : List Char → Bool
  | '-' :: rest | '+' :: rest => unsigned rest
  | characters => unsigned characters
where
  unsigned : List Char → Bool
    | '.' :: character :: _ => character.isDigit
    | character :: _ => character.isDigit
    | [] => false

/-- A string without quotes at the start of a text, and what follows it. -/
def bareString? (text : List Char) : Option (String × List Char) :=
  let characters := text.takeWhile isIdentifierCharacter
  let name := String.ofList characters
  if characters.isEmpty || startsLikeNumber characters || reservedNames.contains name then none
  else some (name, text.drop characters.length)

/-- What follows the line end at the start of a text. -/
def afterNewline? : List Char → Option (List Char)
  | '\r' :: '\n' :: rest => some rest
  | character :: rest => if isNewline character then some rest else none
  | [] => none

/-!
## Blanks and comments of KDL

Between the parts of a node there may be white space, comments and line ends
after a backslash; between nodes there may be line ends too. Every function
here answers what is left of a text after the blanks at its start.
-/

/-- What follows a comment that may hold comments, so many levels deep in it. -/
def afterComment? : Nat → List Char → Option (List Char)
  | _, [] => none
  | depth, '*' :: '/' :: rest =>
    match depth with
    | 0 => some rest
    | depth + 1 => afterComment? depth rest
  | depth, '/' :: '*' :: rest => afterComment? (depth + 1) rest
  | depth, _ :: rest => afterComment? depth rest

/-- What follows a comment up to the end of its line. -/
def afterLineComment : List Char → List Char
  | [] => []
  | '\r' :: '\n' :: rest => rest
  | character :: rest => if isNewline character then rest else afterLineComment rest

/-- Skip white space and comments, in at most so many pieces. -/
def skipSpaces : Nat → List Char → List Char
  | 0, text => text
  | fuel + 1, '/' :: '*' :: rest =>
    match afterComment? 0 rest with
    | some rest => skipSpaces fuel rest
    | none => '/' :: '*' :: rest
  | fuel + 1, character :: rest =>
    if isSpace character then skipSpaces fuel rest else character :: rest
  | _, [] => []

/-- What follows a backslash at the end of a line, after the backslash. -/
def afterContinuation? (text : List Char) : Option (List Char) :=
  match skipSpaces text.length text with
  | [] => some []
  | '/' :: '/' :: rest => some (afterLineComment rest)
  | rest => afterNewline? rest

/-- Skip what may stand within a node. -/
def skipNodeBlanks : Nat → List Char → List Char
  | 0, text => text
  | fuel + 1, text =>
    match skipSpaces text.length text with
    | '\\' :: rest =>
      match afterContinuation? rest with
      | some rest => skipNodeBlanks fuel rest
      | none => '\\' :: rest
    | rest => rest

/-- Skip what may stand between nodes. -/
def skipLineBlanks : Nat → List Char → List Char
  | 0, text => text
  | fuel + 1, text =>
    match skipNodeBlanks text.length text with
    | '/' :: '/' :: rest => skipLineBlanks fuel (afterLineComment rest)
    | rest =>
      match afterNewline? rest with
      | some rest => skipLineBlanks fuel rest
      | none => rest

/-- What follows the blanks within a node. -/
def nodeBlanks (text : List Char) : List Char := skipNodeBlanks (text.length + 1) text

/-- What follows the blanks between nodes. -/
def lineBlanks (text : List Char) : List Char := skipLineBlanks (text.length + 1) text

/-- What follows the blanks within a node, if there are any. -/
def someNodeBlanks? (text : List Char) : Option (List Char) :=
  let rest := nodeBlanks text
  if rest.length < text.length then some rest else none

end BuildFleet.Kdl
