import BuildFleet.Kdl.Blank
import BuildFleet.Kdl.Number
import BuildFleet.Kdl.Quoted

/-!
# Reading KDL documents

A node is a name followed by entries and children. A slash and a dash in front
of a node, an entry or children take them out of the document, but they have to
be well formed all the same.
-/

namespace BuildFleet.Kdl

/-- What follows a type annotation, if there is one. -/
def afterAnnotation? : List Char → Option (List Char)
  | '(' :: rest => do
    let (_, rest) ← string? (nodeBlanks rest)
    match nodeBlanks rest with
    | ')' :: rest => some (nodeBlanks rest)
    | _ => none
  | text => some text

/-- The values that are written with a hash in front. -/
def keywords : List (String × Value) :=
  [("#true", .bool true), ("#false", .bool false), ("#null", .null),
    ("#inf", .decimal "#inf"), ("#-inf", .decimal "#-inf"), ("#nan", .decimal "#nan")]

/-- A value that is named by a keyword, and what follows it. -/
def keyword? (text : List Char) : Option (Value × List Char) :=
  match text with
  | '#' :: rest =>
    let name := '#' :: rest.takeWhile isIdentifierCharacter
    (keywords.lookup (String.ofList name)).map fun value => (value, text.drop name.length)
  | _ => none

/-- A value, and what follows it. -/
def value? (text : List Char) : Option (Value × List Char) := do
  let text ← afterAnnotation? text
  match keyword? text with
  | some result => some result
  | none =>
    if startsLikeNumber text then number? text
    else (string? text).map fun (string, rest) => (.string string, rest)

/-- An argument or a property, and what follows it. -/
def entry? (text : List Char) : Option (Entry × List Char) :=
  let argument := (value? text).map fun (value, rest) => (⟨none, value⟩, rest)
  match string? text with
  | none => argument
  | some (name, rest) =>
    match nodeBlanks rest with
    | '=' :: rest =>
      (value? (nodeBlanks rest)).map fun (value, rest) => (⟨some name, value⟩, rest)
    | _ => argument

/-- The entries of a node, and what follows them. -/
def entries? : Nat → List Char → Option (List Entry × List Char)
  | 0, _ => none
  | fuel + 1, text =>
    match nodeBlanks text with
    | '/' :: '-' :: rest =>
      let rest := lineBlanks rest
      -- Children that are left out end the entries.
      if rest.head? = some '\x7b' then some ([], text)
      else do
        let (_, rest) ← entry? rest
        entries? fuel rest
    | rest =>
      if rest.length = text.length then some ([], text)
      else
        match rest with
        | [] => some ([], rest)
        | character :: _ =>
          if "\x7b\x7d;/".toList.contains character || isNewline character then
            some ([], rest)
          else do
            let (entry, rest) ← entry? rest
            let (entries, rest) ← entries? fuel rest
            some (entry :: entries, rest)

/-- What follows the end of a node. The end of its parent's children is not passed. -/
def afterNode? : List Char → Option (List Char)
  | [] => some []
  | ';' :: rest => some rest
  | '\x7d' :: rest => some ('\x7d' :: rest)
  | '/' :: '/' :: rest => some (afterLineComment rest)
  | text => afterNewline? text

mutual

/-- Nodes up to the end of the text or of the children of a node. -/
def nodes? : Nat → List Char → Option (List Node × List Char)
  | 0, _ => none
  | fuel + 1, text =>
    match lineBlanks text with
    | [] => some ([], [])
    | '\x7d' :: rest => some ([], '\x7d' :: rest)
    | '/' :: '-' :: rest => do
      let (_, rest) ← node? fuel (lineBlanks rest)
      nodes? fuel (← afterNode? rest)
    | rest => do
      let (node, rest) ← node? fuel rest
      let (nodes, rest) ← nodes? fuel (← afterNode? rest)
      some (node :: nodes, rest)

/-- A node, and what follows it and the blanks after it. -/
def node? : Nat → List Char → Option (Node × List Char)
  | 0, _ => none
  | fuel + 1, text => do
    let text ← afterAnnotation? text
    let (name, rest) ← string? text
    let (entries, rest) ← entries? (rest.length + 1) rest
    let (children, rest) ← children? fuel false rest
    some (.mk name entries children, rest)

/-- The children of a node, if there are any that count, and what follows them. -/
def children? : Nat → Bool → List Char → Option (List Node × List Char)
  | 0, _, _ => none
  | fuel + 1, found, text =>
    match nodeBlanks text with
    | '/' :: '-' :: rest =>
      match lineBlanks rest with
      | '\x7b' :: rest => do
        let (_, rest) ← block? fuel rest
        children? fuel found rest
      | _ => none
    | '\x7b' :: rest =>
      if found then none
      else do
        let (nodes, rest) ← block? fuel rest
        let (_, rest) ← children? fuel true rest
        some (nodes, rest)
    | rest => some ([], rest)

/-- The nodes up to a closing brace, and what follows the brace. -/
def block? : Nat → List Char → Option (List Node × List Char)
  | 0, _ => none
  | fuel + 1, text => do
    match ← nodes? fuel text with
    | (nodes, '\x7d' :: rest) => some (nodes, rest)
    | _ => none

end

/-- The text without a byte order mark at its start. -/
def withoutMark : List Char → List Char
  | '\uFEFF' :: rest => rest
  | text => text

/-- The document that a text holds. -/
def Document.ofText? (text : String) : Option Document :=
  let characters := withoutMark text.toList
  match nodes? (8 * characters.length + 8) characters with
  | some (nodes, []) => some nodes
  | _ => none

end BuildFleet.Kdl
