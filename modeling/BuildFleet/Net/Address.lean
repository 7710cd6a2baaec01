import BuildFleet.Text.Hex

/-!
# Network addresses

Addresses of thirty-two bits are written as four decimal numbers, addresses of
128 bits as eight hexadecimal numbers, of which one run of zeros may be left out.
-/

namespace BuildFleet

structure Ipv4 where
  value : BitVec 32
deriving DecidableEq, Repr

structure Ipv6 where
  /-- The eight numbers of sixteen bits. -/
  pieces : Vector (BitVec 16) 8
deriving DecidableEq, Repr

namespace Ipv4

def ofNat (value : Nat) : Ipv4 := ⟨BitVec.ofNat 32 value⟩

/-- The four bytes. -/
def bytes (address : Ipv4) : List Nat :=
  let value := address.value.toNat
  [value / 16777216, value / 65536 % 256, value / 256 % 256, value % 256]

def text (address : Ipv4) : String := ".".intercalate (address.bytes.map toString)

end Ipv4

namespace Ipv6

/-- The address with these numbers, if there are eight. -/
def ofPieces? (pieces : List Nat) : Option Ipv6 :=
  if h : pieces.length = 8 then
    some ⟨⟨(pieces.map (BitVec.ofNat 16)).toArray, by simp [h]⟩⟩
  else none

def numbers (address : Ipv6) : List Nat := address.pieces.toList.map BitVec.toNat

/-- The length of the run of zeros at the start. -/
def leadingZeros (numbers : List Nat) : Nat := (numbers.takeWhile (· = 0)).length

/-- The longest run of at least two zeros, the first of them if there are
several: where it starts and how long it is. -/
def longestRun (numbers : List Nat) : Option (Nat × Nat) :=
  let runs := (List.range numbers.length).map fun start => (start, leadingZeros (numbers.drop start))
  runs.foldl (fun best run =>
    let length := match best with
      | some (_, length) => length
      | none => 1
    if run.2 > length then some run else best) none

def joinPieces (numbers : List Nat) : String := ":".intercalate (numbers.map Text.hexNumber)

/-- The numbers with the longest run of zeros left out. -/
def compressed (address : Ipv6) : String :=
  let numbers := address.numbers
  match longestRun numbers with
  | none => joinPieces numbers
  | some (start, length) =>
    joinPieces (numbers.take start) ++ "::" ++ joinPieces (numbers.drop (start + length))

/-- The address of thirty-two bits that is embedded after ten zero bytes and two
bytes of ones. -/
def embedded? (address : Ipv6) : Option Ipv4 :=
  match address.numbers with
  | [0, 0, 0, 0, 0, 0xFFFF, high, low] => some (.ofNat (high * 65536 + low))
  | _ => none

/-- The text of an address; an embedded one is written as such. -/
def text (address : Ipv6) : String :=
  match address.embedded? with
  | some embedded => "::ffff:" ++ embedded.text
  | none => address.compressed

end Ipv6

/-! ## Reading -/

/-- A decimal number below a limit at the start of a text, and what follows it. -/
def decimalBelow? (limit : Nat) (text : List Char) : Option (Nat × List Char) :=
  let digits := text.takeWhile Char.isDigit
  let value := digits.foldl (fun value digit => value * 10 + (digit.toNat - 48)) 0
  if digits.isEmpty || value ≥ limit then none else some (value, text.drop digits.length)

/-- A byte in decimal digits without leading zeros. -/
def byte? (text : List Char) : Option (Nat × List Char) := do
  let digits := text.takeWhile Char.isDigit
  if digits.length > 3 || (digits.length > 1 && digits.head? == some '0') then none
  else decimalBelow? 256 text

/-- What follows a character. -/
def after? (expected : Char) : List Char → Option (List Char)
  | character :: rest => if character = expected then some rest else none
  | [] => none

/-- Four bytes with points between them, and what follows them. -/
def Ipv4.read? (text : List Char) : Option (Ipv4 × List Char) := do
  let (first, text) ← byte? text
  let (second, text) ← byte? (← after? '.' text)
  let (third, text) ← byte? (← after? '.' text)
  let (fourth, text) ← byte? (← after? '.' text)
  some (.ofNat (((first * 256 + second) * 256 + third) * 256 + fourth), text)

/-- A number of at most four hexadecimal digits, and what follows it. -/
def piece? (text : List Char) : Option (Nat × List Char) := do
  let digits := (text.take 4).takeWhile fun character => (Text.hexValue? character).isSome
  if digits.isEmpty then none
  else
    let value ← digits.foldlM (fun value digit => (Text.hexValue? digit).map (value * 16 + ·)) 0
    some (value, text.drop digits.length)

/-- Numbers with colons between them, at most so many, whether an embedded
address ends them, and what follows them. -/
def groups (first : Bool) : Nat → List Char → List Nat × Bool × List Char
  | 0, text => ([], false, text)
  | count + 1, text =>
    let start := if first then some text else after? ':' text
    match start with
    | none => ([], false, text)
    | some start =>
      let embedded := if count = 0 then none else Ipv4.read? start
      match embedded with
      | some (embedded, rest) =>
        let value := embedded.value.toNat
        ([value / 65536, value % 65536], true, rest)
      | none =>
        match piece? start with
        | none => ([], false, text)
        | some (value, rest) =>
          let (values, ended, rest) := groups false count rest
          (value :: values, ended, rest)

/-- Eight numbers, of which one run of zeros may be left out, and what follows them. -/
def Ipv6.read? (text : List Char) : Option (Ipv6 × List Char) := do
  let (front, ended, rest) := groups true 8 text
  if front.length = 8 then some (← Ipv6.ofPieces? front, rest)
  else if ended then none
  else
    let rest ← after? ':' (← after? ':' rest)
    let (back, _, rest) := groups true (7 - front.length) rest
    let zeros := List.replicate (8 - front.length - back.length) 0
    some (← Ipv6.ofPieces? (front ++ zeros ++ back), rest)

/-! ## Sockets -/

/-- An address and a port. -/
inductive SocketAddress where
  | ipv4 (address : Ipv4) (port : BitVec 16)
  | ipv6 (address : Ipv6) (scope : BitVec 32) (port : BitVec 16)
deriving DecidableEq, Repr

namespace SocketAddress

def text : SocketAddress → String
  | ipv4 address port => address.text ++ ":" ++ toString port.toNat
  | ipv6 address scope port =>
    let zone := if scope = 0 then "" else "%" ++ toString scope.toNat
    "[" ++ address.text ++ zone ++ "]:" ++ toString port.toNat

/-- A port after its colon, up to the end of the text. -/
def port? (text : List Char) : Option (BitVec 16) := do
  let (port, rest) ← decimalBelow? 65536 (← after? ':' text)
  if rest.isEmpty then some (BitVec.ofNat 16 port) else none

def ofIpv4Text? (text : List Char) : Option SocketAddress := do
  let (address, rest) ← Ipv4.read? text
  some (.ipv4 address (← port? rest))

def ofIpv6Text? (text : List Char) : Option SocketAddress := do
  let (address, rest) ← Ipv6.read? (← after? '[' text)
  let (scope, rest) ← match rest with
    | '%' :: rest => decimalBelow? 4294967296 rest
    | _ => some (0, rest)
  some (.ipv6 address (BitVec.ofNat 32 scope) (← port? (← after? ']' rest)))

/-- The socket address that a whole text names. -/
def ofText? (text : String) : Option SocketAddress :=
  ofIpv4Text? text.toList <|> ofIpv6Text? text.toList

end SocketAddress

end BuildFleet
