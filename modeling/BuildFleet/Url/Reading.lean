import BuildFleet.Text.Hex
import BuildFleet.Text.Punycode
import BuildFleet.Text.Blank
import BuildFleet.Url.Basic

/-!
# Reading URLs

Reading brings a URL to its normal form: the scheme and the host in lower case,
numbers for addresses, no port that goes without saying, no dot segments, and
percent signs for what may not stand as it is.
-/

namespace BuildFleet

namespace Url

inductive Fault where
  | noScheme
  | emptyHost
  | invalidPort
  | invalidIpv4
  | invalidIpv6
  | invalidName
  | invalidDomainCharacter
deriving DecidableEq, Repr

def Fault.message : Fault → String
  | noScheme => "relative URL without a base"
  | emptyHost => "empty host"
  | invalidPort => "invalid port number"
  | invalidIpv4 => "invalid IPv4 address"
  | invalidIpv6 => "invalid IPv6 address"
  | invalidName => "invalid international domain name"
  | invalidDomainCharacter => "invalid domain character"

/-! ## Percent encoding -/

/-- Characters that are encoded everywhere. -/
def isControl (character : Char) : Bool := character.toNat < 32 || 126 < character.toNat

def inFragment (character : Char) : Bool :=
  isControl character || " \"<>`".toList.contains character

def inQuery (character : Char) : Bool := isControl character || " \"#<>".toList.contains character

def inSpecialQuery (character : Char) : Bool := inQuery character || character == '\''

def inPath (character : Char) : Bool :=
  inFragment character || "#?\x7b\x7d".toList.contains character

def inUserinfo (character : Char) : Bool :=
  inPath character || "/:;=@[\\]^|".toList.contains character

/-- The text with every character encoded that a part of a URL may not hold. -/
def encode (isEncoded : Char → Bool) (text : List Char) : String :=
  String.ofList (text.flatMap fun character =>
    if isEncoded character then
      (String.utf8EncodeChar character).flatMap Text.percentEncodeByte
    else [character])

/-! ## Hosts -/

/-- A number in an address of thirty-two bits: in base sixteen after `0x`, in
base eight after a zero, else in base ten. `none` if it is no number. -/
def addressNumber? (text : List Char) : Option Nat :=
  let read (base : Nat) (digits : List Char) : Option Nat :=
    digits.foldlM (fun value digit =>
      ((Text.hexValue? digit).filter (· < base)).map (value * base + ·)) 0
  match text with
  | [] => none
  | '0' :: 'x' :: digits => read 16 digits
  | '0' :: 'X' :: digits => read 16 digits
  | '0' :: digit :: digits => read 8 (digit :: digits)
  | _ => read 10 text

/-- The labels of a domain without an empty one at the end. -/
def withoutRoot (labels : List (List Char)) : List (List Char) :=
  if labels.getLast? = some [] then labels.dropLast else labels

/-- Whether the last label is a number, so that the host has to be an address. -/
def endsInNumber (labels : List (List Char)) : Bool :=
  match (withoutRoot labels).getLast? with
  | none => false
  | some last =>
    (!last.isEmpty && last.all Char.isDigit) || (addressNumber? last).isSome

/-- The address that labels stand for; the last one fills what the others leave. -/
def ipv4OfLabels (labels : List (List Char)) : Except Fault Ipv4 :=
  let labels := withoutRoot labels
  match labels.mapM addressNumber? with
  | none => .error .invalidIpv4
  | some numbers =>
    let front := numbers.dropLast
    let last := numbers.getLastD 0
    if numbers.length > 4 || front.any (255 < ·) || last ≥ Nat.pow 256 (4 - front.length) then
      .error .invalidIpv4
    else
      let value := front.foldl (fun value number => value * 256 + number) 0
      .ok (.ofNat (value * Nat.pow 256 (4 - front.length) + last))

/-- An address between brackets, after the opening one. -/
def ipv6InBrackets (text : List Char) : Except Fault Host :=
  match Ipv6.read? text with
  | some (address, [']']) => .ok (.ipv6 address)
  | _ => .error .invalidIpv6

/-- A letter in lower case: ASCII and the plain capitals of Latin, Greek and
Cyrillic script. -/
def lowerLetter (character : Char) : Char :=
  let code := character.toNat
  if (0xC0 ≤ code && code ≤ 0xDE && code ≠ 0xD7) || (0x391 ≤ code && code ≤ 0x3AB)
      || (0x410 ≤ code && code ≤ 0x42F) then
    Char.ofNat (code + 32)
  else if 0x400 ≤ code && code ≤ 0x40F then Char.ofNat (code + 80)
  else character.toLower

/-- Characters that no domain holds. -/
def isForbiddenInDomain (character : Char) : Bool :=
  character.toNat ≤ 32 || character.toNat = 127
    || "#/:<>?@[\\]^|%".toList.contains character

/-- The host of a scheme that knows domains. -/
def specialHost (text : List Char) : Except Fault Host :=
  match text with
  | '[' :: rest => ipv6InBrackets rest
  | _ =>
    match Text.percentDecode? (String.ofList text) with
    | none => .error .invalidName
    | some decoded =>
      let domain := decoded.toList.map lowerLetter
      if domain.any isForbiddenInDomain then .error .invalidName
      else if domain.isEmpty then .error .emptyHost
      else
        let labels := (Text.splitOn '.' domain).map Text.punycode
        if endsInNumber labels then (ipv4OfLabels labels).map Host.ipv4
        else
          .ok (.domain (".".intercalate (labels.map String.ofList)))

/-- The host of any other scheme. -/
def opaqueHost (text : List Char) : Except Fault Host :=
  match text with
  | '[' :: rest => ipv6InBrackets rest
  | _ =>
    if text.any fun character => "\x00\t\n\r #/:<>?@[\\]^|".toList.contains character then
      .error .invalidDomainCharacter
    else .ok (.domain (encode isControl text))

/-! ## Authorities -/

/-- Schemes whose URLs have a host, and the ports they use. -/
def defaultPorts : List (String × Nat) :=
  [("http", 80), ("https", 443), ("ws", 80), ("wss", 443), ("ftp", 21)]

def isSpecial (scheme : String) : Bool := (defaultPorts.lookup scheme).isSome || scheme == "file"

/-- What stands before the last of some character, and what follows it. -/
def splitLast (separator : Char) (text : List Char) : Option (List Char × List Char) :=
  let after := (text.reverse.takeWhile (· ≠ separator)).reverse
  if after.length = text.length then none
  else some (text.take (text.length - after.length - 1), after)

/-- A user and a password with a colon between them. -/
def userinfo (text : List Char) : String × String :=
  let name := text.takeWhile (· ≠ ':')
  (encode inUserinfo name, encode inUserinfo ((text.drop name.length).drop 1))

/-- A host and what follows it, which is a port or nothing. A colon between
brackets belongs to the host. -/
def splitHost : Bool → List Char → List Char × List Char
  | _, [] => ([], [])
  | inside, character :: rest =>
    if character = ':' ∧ !inside then ([], character :: rest)
    else
      let inside := if character = '[' then true else if character = ']' then false else inside
      let (host, port) := splitHost inside rest
      (character :: host, port)

/-- A port after its colon. -/
def portOf (scheme : String) (text : List Char) : Except Fault (Option Nat) :=
  match text with
  | [] => .ok none
  | _ :: digits =>
    if !digits.all Char.isDigit then .error .invalidPort
    else
      let port := digits.foldl (fun port digit => port * 10 + (digit.toNat - 48)) 0
      if port > 65535 then .error .invalidPort
      else if digits.isEmpty || defaultPorts.lookup scheme = some port then .ok none
      else .ok (some port)

/-- The authority that a text names. -/
def authorityOf (scheme : String) (text : List Char) : Except Fault Authority := do
  let special := isSpecial scheme
  let (credentials, place) := (splitLast '@' text).getD ([], text)
  if (splitLast '@' text).isSome && place.isEmpty then throw .emptyHost
  let (username, password) := userinfo credentials
  let (host, port) := splitHost false place
  if host.isEmpty && (special || !port.isEmpty) then throw .emptyHost
  let host ← if special then specialHost host else opaqueHost host
  let port ← portOf scheme port
  .ok ⟨username, password, host, port⟩

/-! ## Paths -/

/-- Whether a segment stands for the one it is in. -/
def isSingleDot (segment : String) : Bool := [".", "%2e"].contains (segment.map Char.toLower)

/-- Whether a segment stands for the one before. -/
def isDoubleDot (segment : String) : Bool :=
  ["..", ".%2e", "%2e.", "%2e%2e"].contains (segment.map Char.toLower)

/-- Take segments one after the other, the last one first in what was taken. A dot
segment at the end leaves an empty one. -/
def normalise : List String → List String → List String
  | taken, [] => taken.reverse
  | taken, segment :: rest =>
    let ends := if rest.isEmpty then [""] else []
    if isDoubleDot segment then normalise (ends ++ taken.drop 1) rest
    else if isSingleDot segment then normalise (ends ++ taken) rest
    else normalise (segment :: taken) rest

/-- Backslashes of special schemes count as slashes. -/
def asSlash (special : Bool) (character : Char) : Char :=
  if special && character == '\\' then '/' else character

/-- The segments of a path without the slash in front of it. -/
def segmentsOf (special : Bool) (text : List Char) : List String :=
  normalise [] ((Text.splitOn '/' (text.map (asSlash special))).map (encode inPath))

/-- The path after an authority. -/
def pathAfterAuthority (special : Bool) (text : List Char) : Path :=
  match text with
  | [] => .segments (if special then [""] else [])
  | character :: rest =>
    if asSlash special character = '/' then .segments (segmentsOf special rest)
    else .segments (segmentsOf special text)

/-! ## Whole URLs -/

/-- Remove what is ignored: blanks at the ends, tabs and line ends anywhere. -/
def cleaned (text : String) : List Char :=
  let isTrimmed (character : Char) : Bool := character.toNat ≤ 32
  let trimmed := ((text.toList.dropWhile isTrimmed).reverse.dropWhile isTrimmed).reverse
  trimmed.filter fun character => !(['\t', '\n', '\r'].contains character)

/-- A scheme in lower case, and what follows its colon. -/
def schemeOf? (text : List Char) : Option (String × List Char) :=
  let scheme := text.takeWhile fun character =>
    character.isAlphanum || character == '+' || character == '-' || character == '.'
  match scheme, text.drop scheme.length with
  | first :: _, ':' :: rest =>
    if first.isAlpha then some (String.ofList (scheme.map Char.toLower), rest) else none
  | _, _ => none

/-- The path, the query and the fragment of what follows the authority. -/
def splitTail (text : List Char) : List Char × Option (List Char) × Option (List Char) :=
  let path := text.takeWhile fun character => character ≠ '?' ∧ character ≠ '#'
  match text.drop path.length with
  | '?' :: rest =>
    let query := rest.takeWhile (· ≠ '#')
    match rest.drop query.length with
    | _ :: fragment => (path, some query, some fragment)
    | [] => (path, some query, none)
  | _ :: fragment => (path, none, some fragment)
  | [] => (path, none, none)

/-- A text up to a slash, and the slash with what follows it. -/
def splitAuthority (special : Bool) (text : List Char) : List Char × List Char :=
  let authority := text.takeWhile fun character => asSlash special character ≠ '/'
  (authority, text.drop authority.length)

def isSlash (character : Char) : Bool := character == '/' || character == '\\'

/-- The authority and the path of a file: the machine itself has no name. -/
def fileParts (text : List Char) : Except Fault (Option Authority × Path) := do
  let named (host : List Char) (path : List Char) : Except Fault (Option Authority × Path) := do
    let host ← if host.isEmpty then Except.ok (Host.domain "") else specialHost host
    let host := if host = .domain "localhost" then .domain "" else host
    let segments := segmentsOf true (path.dropWhile isSlash)
    .ok (some ⟨"", "", host, none⟩, .segments segments)
  match text with
  | first :: second :: rest =>
    if isSlash first && isSlash second then
      let (host, path) := splitAuthority true rest
      named host path
    else named [] text
  | _ => named [] text

/-- The authority and the path of what follows a scheme. -/
def parts (scheme : String) (text : List Char) : Except Fault (Option Authority × Path) := do
  if scheme = "file" then fileParts text
  else if isSpecial scheme then
    let (authority, path) := splitAuthority true (text.dropWhile isSlash)
    .ok (some (← authorityOf scheme authority), pathAfterAuthority true path)
  else
    match text with
    | '/' :: '/' :: rest =>
      let (authority, path) := splitAuthority false rest
      .ok (some (← authorityOf scheme authority), pathAfterAuthority false path)
    | '/' :: rest => .ok (none, .segments (segmentsOf false rest))
    | _ => .ok (none, .opaqueText (encode isControl text))

/-- The URL that a text names. -/
def ofText (text : String) : Except Fault Url :=
  match schemeOf? (cleaned text) with
  | none => .error .noScheme
  | some (scheme, rest) => do
    let (front, query, fragment) := splitTail rest
    let (authority, path) ← parts scheme front
    let inQuery := if isSpecial scheme then inSpecialQuery else inQuery
    .ok { scheme, authority, path
          query := query.map (encode inQuery)
          fragment := fragment.map (encode inFragment) }

/-- The URL that a path leads to from a base. A path that is no list of segments
leads nowhere else. -/
def atPath? (base : Url) (reference : String) : Option Url :=
  match base.path with
  | .opaqueText _ => none
  | .segments _ =>
    let special := isSpecial base.scheme
    let (front, query, fragment) := splitTail (cleaned reference)
    some { base with
      path := pathAfterAuthority special front
      query := query.map (encode (if special then inSpecialQuery else inQuery))
      fragment := fragment.map (encode inFragment) }

end Url

end BuildFleet
