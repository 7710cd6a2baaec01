import BuildFleet.Kdl.Document
import BuildFleet.Text.Hex

/-!
# Numbers of KDL

Integers are written in base ten, sixteen, eight or two; underscores may stand
between their digits. An integer has fewer than 128 bits.
-/

namespace BuildFleet.Kdl

/-- The integers that a document may hold are below this in magnitude. -/
def integerLimit : Nat := 170141183460469231731687303715884105728

/-- Digits of a base at the start of a text, without the underscores between
them, and what follows them. -/
def digits? (base : Nat) (text : List Char) : Option (List Nat × List Char) :=
  let digit? (character : Char) : Option Nat :=
    (Text.hexValue? character).filter (· < base)
  match text with
  | [] => none
  | first :: _ =>
    if (digit? first).isNone then none
    else
      let characters := text.takeWhile fun character =>
        (digit? character).isSome || character == '_'
      some (characters.filterMap digit?, text.drop characters.length)

/-- The number with these digits. -/
def numberOf (base : Nat) (digits : List Nat) : Nat :=
  digits.foldl (fun value digit => value * base + digit) 0

/-- The base that is written in front of digits, and what follows it. -/
def baseOf : List Char → Nat × List Char
  | '0' :: 'x' :: rest => (16, rest)
  | '0' :: 'o' :: rest => (8, rest)
  | '0' :: 'b' :: rest => (2, rest)
  | text => (10, text)

/-- Whether a number goes on with a fraction or an exponent, and what follows it;
`none` if one is begun and not finished. -/
def fraction? (text : List Char) : Option (Bool × List Char) := do
  let (hasPoint, text) ← match text with
    | '.' :: rest => do
      let (_, rest) ← digits? 10 rest
      some (true, rest)
    | _ => some (false, text)
  let exponent (rest : List Char) : Option (Bool × List Char) := do
    let rest := match rest with
      | '+' :: rest => rest
      | '-' :: rest => rest
      | _ => rest
    let (_, rest) ← digits? 10 rest
    some (true, rest)
  match text with
  | 'e' :: rest => exponent rest
  | 'E' :: rest => exponent rest
  | _ => some (hasPoint, text)

/-- The sign in front of a number. -/
def signOf : List Char → Bool × List Char
  | '-' :: rest => (true, rest)
  | '+' :: rest => (false, rest)
  | text => (false, text)

/-- A number at the start of a text, and what follows it. -/
def number? (text : List Char) : Option (Value × List Char) := do
  let (negative, unsigned) := signOf text
  let (base, start) := baseOf unsigned
  let (digits, rest) ← digits? base start
  let (isDecimal, rest) ← if base = 10 then fraction? rest else some (false, rest)
  if isDecimal then
    some (.decimal (String.ofList (text.take (text.length - rest.length))), rest)
  else
    let value := numberOf base digits
    if value < integerLimit then
      some (.integer (if negative then -(value : Int) else value), rest)
    else none

end BuildFleet.Kdl
