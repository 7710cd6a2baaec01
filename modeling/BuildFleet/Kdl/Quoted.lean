import BuildFleet.Kdl.Blank
import BuildFleet.Text.Hex

/-!
# Strings of KDL

A string is a bare name, or stands between quotes on one line, or between triple
quotes on lines of its own, where the blanks before the closing quotes are taken
off every line. With hashes around the quotes a backslash stands for itself.
-/

namespace BuildFleet.Kdl

/-- A character of a string, or the end of one of its lines. -/
inductive Piece where
  | literal (character : Char)
  /-- A character that was written as an escape. -/
  | escaped (character : Char)
  | newline
deriving DecidableEq

namespace Piece

/-- The character that a piece stands for. -/
def character : Piece → Char
  | literal character => character
  | escaped character => character
  | newline => '\n'

/-- Whether a piece is white space written as it is. -/
def isLiteralSpace : Piece → Bool
  | literal character => isSpace character
  | _ => false

end Piece

/-- The character that an escape of one letter stands for. -/
def escapeLetter? : Char → Option Char
  | 'n' => some '\n'
  | 'r' => some '\r'
  | 't' => some '\t'
  | 's' => some ' '
  | 'b' => some '\x08'
  | 'f' => some '\x0c'
  | '"' => some '"'
  | '\\' => some '\\'
  | _ => none

/-- The character with a number, unless the number is no character's. -/
def characterOf? (code : Nat) : Option Char :=
  if code.isValidChar then some (Char.ofNat code) else none

/-- An escape after its backslash: what it stands for, and what follows it. An
escape of white space stands for nothing. -/
def escape? : List Char → Option (Option Char × List Char)
  | 'u' :: '\x7b' :: rest =>
    let digits := rest.takeWhile (· ≠ '\x7d')
    if digits.isEmpty || digits.length > 6 then none
    else do
      let code ← digits.foldlM (fun code digit =>
        (Text.hexValue? digit).map (code * 16 + ·)) 0
      let character ← characterOf? code
      match rest.drop digits.length with
      | _ :: rest => some (some character, rest)
      | [] => none
  | character :: rest =>
    match escapeLetter? character with
    | some meaning => some (some meaning, rest)
    | none =>
      if isSpace character || isNewline character then
        some (none, rest.dropWhile fun character => isSpace character || isNewline character)
      else none
  | [] => none

/-- How a string ends, and whether its backslashes escape. -/
structure Delimiter where
  closing : List Char
  escapes : Bool

/-- The pieces of a string up to its end, and what follows it. -/
def pieces? (delimiter : Delimiter) : Nat → List Char → Option (List Piece × List Char)
  | 0, _ => none
  | fuel + 1, text =>
    if delimiter.closing.isPrefixOf text then some ([], text.drop delimiter.closing.length)
    else
      match text with
      | [] => none
      | character :: rest =>
        if character = '\\' ∧ delimiter.escapes then do
          let (meaning, rest) ← escape? rest
          let (pieces, rest) ← pieces? delimiter fuel rest
          some ((meaning.map Piece.escaped).toList ++ pieces, rest)
        else
          match afterNewline? text with
          | some rest => do
            let (pieces, rest) ← pieces? delimiter fuel rest
            some (.newline :: pieces, rest)
          | none =>
            if isDisallowed character then none
            else do
              let (pieces, rest) ← pieces? delimiter fuel rest
              some (.literal character :: pieces, rest)

/-- The lines of a string. -/
def linesOf : List Piece → List (List Piece)
  | [] => [[]]
  | .newline :: rest => [] :: linesOf rest
  | piece :: rest =>
    match linesOf rest with
    | line :: lines => (piece :: line) :: lines
    | [] => [[piece]]

/-- A line without the indentation; a line of blanks is empty. -/
def withoutIndent? (indent line : List Piece) : Option (List Piece) :=
  if line.all Piece.isLiteralSpace then some []
  else if indent.isPrefixOf line then some (line.drop indent.length)
  else none

/-- The text of lines between triple quotes. The last line is the indentation. -/
def dedent? (pieces : List Piece) : Option String := do
  let lines := linesOf pieces
  let indent ← lines.getLast?
  if !indent.all Piece.isLiteralSpace then none
  else
    let lines ← lines.dropLast.mapM (withoutIndent? indent)
    some ("\n".intercalate (lines.map fun line => String.ofList (line.map Piece.character)))

/-- The text of a string on one line. -/
def onOneLine? (pieces : List Piece) : Option String :=
  if pieces.contains .newline then none
  else some (String.ofList (pieces.map Piece.character))

/-- A string between quotes with so many hashes around them, after the hashes. -/
def quoted? (hashes : Nat) (text : List Char) : Option (String × List Char) := do
  let around := List.replicate hashes '#'
  let escapes := hashes = 0
  match text with
  | '"' :: rest =>
    match text with
    | '"' :: '"' :: '"' :: inner =>
      match afterNewline? inner with
      | some inner =>
        let (pieces, rest) ←
          pieces? ⟨'"' :: '"' :: '"' :: around, escapes⟩ (inner.length + 1) inner
        some (← dedent? pieces, rest)
      | none =>
        let (pieces, rest) ← pieces? ⟨'"' :: around, escapes⟩ (rest.length + 1) rest
        some (← onOneLine? pieces, rest)
    | _ =>
      let (pieces, rest) ← pieces? ⟨'"' :: around, escapes⟩ (rest.length + 1) rest
      some (← onOneLine? pieces, rest)
  | _ => none

/-- A string of any form at the start of a text, and what follows it. -/
def string? (text : List Char) : Option (String × List Char) :=
  match text with
  | '"' :: _ => quoted? 0 text
  | '#' :: _ =>
    let hashes := (text.takeWhile (· = '#')).length
    quoted? hashes (text.drop hashes)
  | _ => bareString? text

end BuildFleet.Kdl
