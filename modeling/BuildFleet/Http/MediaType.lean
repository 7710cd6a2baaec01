/-!
# Media types

A content is taken for JSON if its media type is well formed and has the type
`application` and the subtype `json` or the suffix `json`. The case of letters
does not matter, and parameters may follow.
-/

namespace BuildFleet.Http

/-- The characters of the names in a media type. -/
def isTokenCharacter (character : Char) : Bool :=
  character.isAlphanum || "!#$%&'+-.^_`|~".toList.contains character

/-- The characters that may stand between quotes. -/
def isQuotedCharacter (character : Char) : Bool :=
  let code := character.toNat
  (31 < code && code ≠ 127) || code == 9

mutual

/-- Whether parameters are well formed: each one is a name, an equals sign and a
value, and semicolons stand between them. Blanks may precede a name. -/
def areParameters : List Char → Bool
  | [] => true
  | ' ' :: rest => areParameters rest
  | character :: rest => isTokenCharacter character && isParameterName rest

/-- The rest of a name, and what follows it. -/
def isParameterName : List Char → Bool
  | '=' :: '"' :: rest => isQuotedValue true rest
  | '=' :: rest => isParameterValue true rest
  | character :: rest => isTokenCharacter character && isParameterName rest
  | [] => false

/-- The rest of a value, and what follows it. -/
def isParameterValue (first : Bool) : List Char → Bool
  | [] => true
  | character :: rest =>
    if character = ';' ∧ !first then areParameters rest
    else isTokenCharacter character && isParameterValue false rest

/-- The rest of a value between quotes, and what follows it. -/
def isQuotedValue (first : Bool) : List Char → Bool
  | [] => false
  | character :: rest =>
    if character = '"' ∧ !first then afterQuotedValue rest
    else isQuotedCharacter character && isQuotedValue false rest

/-- After a quoted value blanks may stand before the semicolon. -/
def afterQuotedValue : List Char → Bool
  | [] => true
  | ';' :: rest => areParameters rest
  | ' ' :: rest => afterQuotedValue rest
  | _ :: _ => false

end

/-- Whether a content of this media type is JSON. -/
def isJsonType (mediaType : String) : Bool :=
  let characters := (mediaType.map Char.toLower).toList
  let category := characters.takeWhile (· ≠ '/')
  match characters.dropWhile (· ≠ '/') with
  | [] => false
  | _ :: rest =>
    let subtype := rest.takeWhile fun character => character ≠ ';' ∧ character ≠ ' '
    let base := subtype.reverse.dropWhile (· ≠ '+')
    let suffix := subtype.reverse.takeWhile (· ≠ '+')
    category == "application".toList
      && (subtype == "json".toList || base == "+nosj".toList
        || (base.length > 1 && suffix == "nosj".toList))
      && subtype.all isTokenCharacter
      && areParameters ((rest.drop subtype.length).drop 1)

end BuildFleet.Http
