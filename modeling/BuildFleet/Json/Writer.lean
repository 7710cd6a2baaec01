import BuildFleet.Json.Value
import BuildFleet.Decimal.Shortest
import BuildFleet.Text.Hex

/-!
# Compact JSON text

Values are written without space between their parts, members in the order in
which the object holds them. Strings escape quotes, backslashes and control characters and
nothing else. Numbers with a fraction have the fewest digits that read back.
-/

namespace BuildFleet.Json

/-- Numbers are positional when their first digit stands between the fifth place
after the point and the sixteenth before it. -/
def numberStyle : DecimalStyle := ⟨-5, 15⟩

/-- A number with a fraction. The sign of zero is kept. -/
def decimalText (value : Binary64) : String :=
  (if value.isNegative then "-" else "") ++ numberStyle.write value.shortest

/-- One character of a string. -/
def characterText (character : Char) : List Char :=
  if character = '"' then ['\\', '"']
  else if character = '\\' then ['\\', '\\']
  else if character = '\n' then ['\\', 'n']
  else if character = '\r' then ['\\', 'r']
  else if character = '\t' then ['\\', 't']
  else if character.toNat = 8 then ['\\', 'b']
  else if character.toNat = 12 then ['\\', 'f']
  else if character.toNat < 0x20 then
    ['\\', 'u'] ++ Text.hexDigits 4 character.toNat
  else [character]

/-- A string between quotes. -/
def stringText (text : String) : List Char :=
  '"' :: text.toList.flatMap characterText ++ ['"']

mutual

/-- The characters of a value, in front of those that follow it. -/
def textBefore : Json → List Char → List Char
  | .null, rest => 'n' :: 'u' :: 'l' :: 'l' :: rest
  | .bool value, rest => (if value then "true".toList else "false".toList) ++ rest
  | .integer value, rest => (toString value).toList ++ rest
  | .decimal value, rest => (decimalText value).toList ++ rest
  | .string text, rest => stringText text ++ rest
  | .array items, rest => '[' :: itemsBefore items (']' :: rest)
  | .object members, rest => '\x7b' :: membersBefore members ('\x7d' :: rest)

def itemsBefore : List Json → List Char → List Char
  | [], rest => rest
  | item :: items, rest =>
    match items with
    | [] => textBefore item rest
    | _ :: _ => textBefore item (',' :: itemsBefore items rest)

def membersBefore : List (String × Json) → List Char → List Char
  | [], rest => rest
  | (name, value) :: members, rest =>
    stringText name ++ ':' ::
      match members with
      | [] => textBefore value rest
      | _ :: _ => textBefore value (',' :: membersBefore members rest)

end

/-- The compact text of a value. -/
def compact (value : Json) : String := String.ofList (textBefore value [])

end BuildFleet.Json
