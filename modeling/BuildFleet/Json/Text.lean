import BuildFleet.Json.Number
import BuildFleet.Text.Hex

/-!
# JSON text

A text is followed as far as it can be: the result is a tree in reading order
whose leaves are literals, and which ends in a `broken` node where the text
stops being JSON. A reader of the tree that goes through it in order therefore
meets the faults of a text in the order in which they are written, whether they
are faults of form or values of the wrong kind.
-/

namespace BuildFleet.Json

/-- A JSON text, or the part of one before its first fault of form. -/
inductive Source where
  | null
  | bool (value : Bool)
  /-- A number, or a literal too large to have a value. -/
  | number (value : Option Json)
  /-- A string, or one with an escape that names no character. -/
  | string (text : Option String)
  /-- Items, and whether the array is closed after them. -/
  | array (items : List Source) (closed : Bool)
  /-- Members as written, and whether the object is closed after them. -/
  | object (members : List (Option String × Source)) (closed : Bool)
  /-- Here the text stops being JSON. -/
  | broken
deriving Inhabited

mutual

/-- A value seen as a text that holds it. -/
def source : Json → Source
  | .null => .null
  | .bool value => .bool value
  | .integer value => .number (some (.integer value))
  | .decimal value => .number (some (.decimal value))
  | .string text => .string (some text)
  | .array items => .array (sourceItems items) true
  | .object members => .object (sourceMembers members) true

def sourceItems : List Json → List Source
  | [] => []
  | item :: rest => source item :: sourceItems rest

def sourceMembers : List (String × Json) → List (Option String × Source)
  | [] => []
  | (name, value) :: rest => (some name, source value) :: sourceMembers rest

end

/-! ## Characters -/

def isSpace (character : Char) : Bool :=
  character = ' ' || character = '\n' || character = '\t' || character = '\r'

def skipSpace (text : List Char) : List Char := text.dropWhile isSpace

/-! ## Strings -/

/-- The number written by four hexadecimal digits. -/
def hexFour : List Char → Option (Nat × List Char)
  | a :: b :: c :: d :: rest => do
    let a ← Text.hexValue? a
    let b ← Text.hexValue? b
    let c ← Text.hexValue? c
    let d ← Text.hexValue? d
    some (((a * 16 + b) * 16 + c) * 16 + d, rest)
  | _ => none

/-- The character of a simple escape. -/
def simpleEscape? (letter : Char) : Option Char :=
  if letter = '"' then some '"'
  else if letter = '\\' then some '\\'
  else if letter = '/' then some '/'
  else if letter = 'b' then some (Char.ofNat 8)
  else if letter = 'f' then some (Char.ofNat 12)
  else if letter = 'n' then some '\n'
  else if letter = 'r' then some '\r'
  else if letter = 't' then some '\t'
  else none

/-- The second half of a pair of escapes for one character. -/
def lowHalf? : List Char → Option (Nat × List Char)
  | '\\' :: 'u' :: rest => do
    let (code, rest) ← hexFour rest
    if 0xDC00 ≤ code ∧ code ≤ 0xDFFF then some (code, rest) else none
  | _ => none

/-- The rest of a string after its opening quote. `written` holds the
characters read so far, last first, or nothing once an escape named no
character. The result is nothing where the string does not end. -/
def stringTail : Nat → Option (List Char) → List Char →
    Option (Option String × List Char)
  | 0, _, _ => none
  | _ + 1, _, [] => none
  | fuel + 1, written, character :: rest =>
    if character = '"' then
      some (written.map fun characters => String.ofList characters.reverse, rest)
    else if character = '\\' then
      match rest with
      | [] => none
      | letter :: rest =>
        if letter = 'u' then
          match hexFour rest with
          | none => none
          | some (code, rest) =>
            if 0xD800 ≤ code ∧ code ≤ 0xDBFF then
              match lowHalf? rest with
              | some (low, rest) =>
                let full := 0x10000 + (code - 0xD800) * 0x400 + (low - 0xDC00)
                stringTail fuel (written.map (Char.ofNat full :: ·)) rest
              | none => stringTail fuel none rest
            else if 0xDC00 ≤ code ∧ code ≤ 0xDFFF then stringTail fuel none rest
            else stringTail fuel (written.map (Char.ofNat code :: ·)) rest
        else
          match simpleEscape? letter with
          | some character => stringTail fuel (written.map (character :: ·)) rest
          | none => none
    else if character.toNat < 0x20 then none
    else stringTail fuel (written.map (character :: ·)) rest

/-! ## Numbers -/

def digits (text : List Char) : List Char × List Char := text.span Char.isDigit

/-- A number literal after its sign. -/
def numberLiteral? (negative : Bool) (text : List Char) : Option (NumberLiteral × List Char) :=
  match digits text with
  | ([], _) => none
  | ('0' :: _ :: _, _) => none
  | (whole, rest) => do
    let (fraction, rest) ← match rest with
      | '.' :: after =>
        match digits after with
        | ([], _) => none
        | (fraction, rest) => some (some fraction, rest)
      | _ => some (none, rest)
    let (power, rest) ← match rest with
      | mark :: after =>
        if mark = 'e' ∨ mark = 'E' then
          let (negativePower, after) := match after with
            | '+' :: after => (false, after)
            | '-' :: after => (true, after)
            | _ => (false, after)
          match digits after with
          | ([], _) => none
          | (power, rest) => some (some (negativePower, power), rest)
        else some (none, rest)
      | [] => some (none, rest)
    some (⟨negative, whole, fraction, power⟩, rest)

/-! ## Values -/

/-- The text after a word, if it starts with it. -/
def afterWord? : List Char → List Char → Option (List Char)
  | [], text => some text
  | _ :: _, [] => none
  | expected :: word, character :: text =>
    if expected = character then afterWord? word text else none

def leaf (word : String) (value : Source) (text : List Char) : Source × List Char :=
  match afterWord? word.toList text with
  | some rest => (value, rest)
  | none => (.broken, [])

mutual

/-- The value at the start of a text, and the text after it. After a broken
value nothing is left to read. -/
def valueSource : Nat → List Char → Source × List Char
  | 0, _ => (.broken, [])
  | fuel + 1, text =>
    match skipSpace text with
    | [] => (.broken, [])
    | character :: rest =>
      if character = '\x7b' then
        match skipSpace rest with
        | '\x7d' :: rest => (.object [] true, rest)
        | rest =>
          let (members, closed, rest) := memberSources fuel rest
          (.object members closed, rest)
      else if character = '[' then
        match skipSpace rest with
        | ']' :: rest => (.array [] true, rest)
        | rest =>
          let (items, closed, rest) := itemSources fuel rest
          (.array items closed, rest)
      else if character = '"' then
        match stringTail (rest.length + 1) (some []) rest with
        | some (text, rest) => (.string text, rest)
        | none => (.broken, [])
      else if character = 'n' then leaf "ull" .null rest
      else if character = 't' then leaf "rue" (.bool true) rest
      else if character = 'f' then leaf "alse" (.bool false) rest
      else if character = '-' then numberSource true rest
      else numberSource false (character :: rest)

/-- The items of an array after its opening bracket, at least one. -/
def itemSources : Nat → List Char → List Source × Bool × List Char
  | 0, _ => ([.broken], false, [])
  | fuel + 1, text =>
    let (item, rest) := valueSource fuel text
    match skipSpace rest with
    | ',' :: rest =>
      let (items, closed, rest) := itemSources fuel rest
      (item :: items, closed, rest)
    | ']' :: rest => ([item], true, rest)
    | _ => ([item], false, [])

/-- The members of an object after its opening brace, at least one. -/
def memberSources : Nat → List Char → List (Option String × Source) × Bool × List Char
  | 0, _ => ([], false, [])
  | fuel + 1, text =>
    match skipSpace text with
    | '"' :: rest =>
      match stringTail (rest.length + 1) (some []) rest with
      | none => ([], false, [])
      | some (name, rest) =>
        match skipSpace rest with
        | ':' :: rest =>
          let (value, rest) := valueSource fuel rest
          match skipSpace rest with
          | ',' :: rest =>
            let (members, closed, rest) := memberSources fuel rest
            ((name, value) :: members, closed, rest)
          | '\x7d' :: rest => ([(name, value)], true, rest)
          | _ => ([(name, value)], false, [])
        | _ => ([(name, .broken)], false, [])
    | _ => ([], false, [])

/-- A number literal at the start of a text. -/
def numberSource (negative : Bool) (text : List Char) : Source × List Char :=
  match numberLiteral? negative text with
  | some (literal, rest) => (.number literal.value, rest)
  | none => (.broken, [])

end

/-- A whole text: its value, and whether nothing but space follows it. -/
def sourceOfText (text : String) : Source × Bool :=
  let characters := text.toList
  let (value, rest) := valueSource (2 * characters.length + 2) characters
  (value, (skipSpace rest).isEmpty)

end BuildFleet.Json
