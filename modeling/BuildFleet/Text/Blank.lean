/-!
# White space

The characters with the Unicode property White_Space, and the trimming that
removes them from both ends of a text.
-/

namespace BuildFleet.Text

/-- The Unicode property White_Space. -/
def isBlank (character : Char) : Bool :=
  let code := character.toNat
  (9 ≤ code && code ≤ 13) || code == 0x20 || code == 0x85 || code == 0xA0 || code == 0x1680
    || (0x2000 ≤ code && code ≤ 0x200A) || code == 0x2028 || code == 0x2029 || code == 0x202F
    || code == 0x205F || code == 0x3000

/-- The text without the blanks at its start. -/
def trimStart (text : List Char) : List Char := text.dropWhile isBlank

/-- The text without the blanks at its end. -/
def trimEnd (text : List Char) : List Char := (text.reverse.dropWhile isBlank).reverse

/-- The text without the blanks at either end. -/
def trim (text : String) : String := String.ofList (trimEnd (trimStart text.toList))

/-- Whether every character is blank. -/
def allBlank (text : String) : Bool := text.toList.all isBlank

/-- ASCII letters in lower case; every other character unchanged. -/
def lowerAscii (text : String) : String := String.ofList (text.toList.map Char.toLower)

/-! ## Parts of a text -/

/-- The parts of a text between separators. -/
def splitOn (separator : Char) : List Char → List (List Char)
  | [] => [[]]
  | character :: rest =>
    match splitOn separator rest with
    | part :: parts =>
      if character = separator then [] :: part :: parts else (character :: part) :: parts
    | [] => [[character]]

end BuildFleet.Text
