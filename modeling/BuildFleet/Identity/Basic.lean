import BuildFleet.Json.Reading
import BuildFleet.Text.Hex

/-!
# Identifiers of jobs and workers

A job is known by a number of 128 bits, written as thirty-two hexadecimal digits
in groups of eight, four, four, four and twelve. Identifiers made later are
greater.
-/

namespace BuildFleet

structure JobId where
  value : BitVec 128
deriving DecidableEq, Inhabited

namespace JobId

def number (id : JobId) : Nat := id.value.toNat

instance : Repr JobId := ⟨fun id _ => repr id.number⟩

def ofNat (value : Nat) : JobId := ⟨BitVec.ofNat 128 value⟩

instance : LT JobId := ⟨fun left right => left.number < right.number⟩

instance (left right : JobId) : Decidable (left < right) :=
  inferInstanceAs (Decidable (left.number < right.number))

/-- The digits in their groups. -/
def characters (id : JobId) : List Char :=
  let digits := Text.hexDigits 32 id.number
  digits.take 8 ++ '-' :: (digits.drop 8).take 4 ++ '-' :: (digits.drop 12).take 4 ++
    '-' :: (digits.drop 16).take 4 ++ '-' :: digits.drop 20

def text (id : JobId) : String := String.ofList id.characters

/-- The number written by hexadecimal digits alone. -/
def readDigits (digits : List Char) : Option Nat :=
  digits.foldlM (fun value digit => (Text.hexValue? digit).map (value * 16 + ·)) 0

/-- Thirty-two digits without groups. -/
def ofDigits? (digits : List Char) : Option JobId :=
  if digits.length = 32 then (readDigits digits).map ofNat else none

/-- Digits in their groups. -/
def ofGroups? (characters : List Char) : Option JobId :=
  if characters.length = 36 ∧ characters[8]? = some '-' ∧ characters[13]? = some '-' ∧
      characters[18]? = some '-' ∧ characters[23]? = some '-' then
    ofDigits? (characters.take 8 ++ (characters.drop 9).take 4 ++ (characters.drop 14).take 4 ++
      (characters.drop 19).take 4 ++ characters.drop 24)
  else none

/-- An identifier in any of its written forms: thirty-two digits, digits in
groups, groups in braces, or groups after `urn:uuid:`, in either case. -/
def ofText? (text : String) : Option JobId :=
  let characters := text.toList
  if characters.length = 32 then ofDigits? characters
  else if characters.length = 36 then ofGroups? characters
  else if characters.length = 38 then
    if characters.head? = some '\x7b' ∧ characters.getLast? = some '\x7d' then
      ofGroups? ((characters.drop 1).take 36)
    else none
  else if characters.length = 45 then
    if (characters.take 9).map Char.toLower = "urn:uuid:".toList then
      ofGroups? (characters.drop 9)
    else none
  else none

def toJson (id : JobId) : Json := .string id.text

def reader : Json.Reader JobId := fun context value => do
  match value with
  | .string _ =>
    let text ← Json.readString context value
    match ofText? text with
    | some id => .ok id
    | none => .error (.kind "identifier is not well formed")
  | other => Json.wrongKind "an identifier" other

end JobId

/-!
## Worker identifiers

A worker is known by the host it runs on, the target it serves and the number
of its process.
-/

structure WorkerId where
  text : String
deriving DecidableEq, Repr, Inhabited

namespace WorkerId

/-- The identity of a worker process. -/
def forHost (hostname target : String) (process : Nat) : WorkerId :=
  ⟨hostname ++ "/" ++ target ++ "/" ++ toString process⟩

instance : LT WorkerId := ⟨fun left right => left.text < right.text⟩

instance (left right : WorkerId) : Decidable (left < right) :=
  inferInstanceAs (Decidable (left.text < right.text))

def toJson (worker : WorkerId) : Json := .string worker.text

def reader : Json.Reader WorkerId := fun context value =>
  (Json.readString context value).map WorkerId.mk

end WorkerId

end BuildFleet
