import BuildFleet.Shell.Arithmetic

/-!
# Formatted output

A format holds escapes and conversions. Each conversion takes an argument, and a
format with conversions is used again until no argument is left.
-/

namespace BuildFleet.Shell

def bytesOf (text : String) : List UInt8 := text.toUTF8.toList

def bytesOfCharacters (characters : List Char) : List UInt8 := bytesOf (String.ofList characters)

/-! ## Escapes -/

def isOctal (character : Char) : Bool := '0' ≤ character && character ≤ '7'

/-- The bytes that an escape stands for, and what follows it. A backslash before
anything else stands for itself. -/
def escapeBytes (text : List Char) : List UInt8 × List Char :=
  match text with
  | 'a' :: rest => ([7], rest)
  | 'b' :: rest => ([8], rest)
  | 't' :: rest => ([9], rest)
  | 'n' :: rest => ([10], rest)
  | 'v' :: rest => ([11], rest)
  | 'f' :: rest => ([12], rest)
  | 'r' :: rest => ([13], rest)
  | '\\' :: rest => ([92], rest)
  | _ =>
    let digits := (text.take 3).takeWhile isOctal
    match digitsValue 8 digits with
    | some value =>
      if digits.isEmpty then ([92], text) else ([UInt8.ofNat value], text.drop digits.length)
    | none => ([92], text)

/-- The bytes of a text whose octal escapes start with a zero, and whether an
escape says that nothing follows. -/
def escapedBytes : Nat → List Char → List UInt8 × Bool
  | 0, _ | _, [] => ([], false)
  | _ + 1, '\\' :: 'c' :: _ => ([], true)
  | fuel + 1, '\\' :: '0' :: rest =>
    let digits := (rest.take 3).takeWhile isOctal
    let (more, stops) := escapedBytes fuel (rest.drop digits.length)
    (UInt8.ofNat ((digitsValue 8 digits).getD 0) :: more, stops)
  | fuel + 1, '\\' :: rest =>
    let (bytes, rest) := escapeBytes rest
    let (more, stops) := escapedBytes fuel rest
    (bytes ++ more, stops)
  | fuel + 1, character :: rest =>
    let (more, stops) := escapedBytes fuel rest
    (bytesOfCharacters [character] ++ more, stops)

/-! ## Conversions -/

structure Conversion where
  left : Bool
  zeros : Bool
  plus : Bool
  blank : Bool
  alternative : Bool
  /-- The least number of characters, none if an argument gives it. -/
  width : Option Nat
  precision : Option Nat
  letter : Char
deriving DecidableEq, Repr

inductive FormatItem where
  | bytes (bytes : List UInt8)
  | conversion (conversion : Conversion)
deriving DecidableEq, Repr

def leadingDigits (text : List Char) : Nat × List Char :=
  let digits := text.takeWhile Char.isDigit
  ((digitsValue 10 digits).getD 0, text.drop digits.length)

/-- Read a conversion after its percent sign. -/
def conversion? (text : List Char) : Option (Conversion × List Char) :=
  let flags := text.takeWhile fun character => "-+ 0#".toList.contains character
  let (width, rest) := leadingDigits (text.drop flags.length)
  let (precision, rest) := match rest with
    | '.' :: rest =>
      let (precision, rest) := leadingDigits rest
      (some precision, rest)
    | rest => (none, rest)
  match rest with
  | letter :: rest =>
    if "bscdiuoxX".toList.contains letter then
      some (⟨flags.contains '-', flags.contains '0', flags.contains '+', flags.contains ' ',
        flags.contains '#', some width, precision, letter⟩, rest)
    else none
  | [] => none

/-- The items of a format, and the conversion that could not be read, if any. -/
def formatItems : Nat → List Char → List FormatItem × Option String
  | 0, _ | _, [] => ([], none)
  | fuel + 1, '\\' :: rest =>
    let (bytes, rest) := escapeBytes rest
    let (items, fault) := formatItems fuel rest
    (.bytes bytes :: items, fault)
  | fuel + 1, '%' :: '%' :: rest =>
    let (items, fault) := formatItems fuel rest
    (.bytes [37] :: items, fault)
  | fuel + 1, '%' :: rest =>
    match conversion? rest with
    | some (conversion, rest) =>
      let (items, fault) := formatItems fuel rest
      (.conversion conversion :: items, fault)
    | none =>
      let flags := rest.takeWhile fun character => "-+ 0#.123456789".toList.contains character
      ([], some (String.ofList ('%' :: flags ++ (rest.drop flags.length).take 1)))
  | fuel + 1, character :: rest =>
    let (items, fault) := formatItems fuel rest
    (.bytes (bytesOfCharacters [character]) :: items, fault)

/-- Fill a text up to the width of a conversion. -/
def padBytes (conversion : Conversion) (bytes : List UInt8) : List UInt8 :=
  let blanks := List.replicate (conversion.width.getD 0 - bytes.length) 32
  if conversion.left then bytes ++ blanks else blanks ++ bytes

/-- The digits of a number in the base of a conversion. -/
def digitsText (letter : Char) (value : Nat) : List Char :=
  match letter with
  | 'o' => Nat.toDigits 8 value
  | 'x' => Nat.toDigits 16 value
  | 'X' => (Nat.toDigits 16 value).map Char.toUpper
  | _ => Nat.toDigits 10 value

def numberBytes (conversion : Conversion) (value : Int) : List UInt8 :=
  let signed := conversion.letter = 'd' ∨ conversion.letter = 'i'
  let magnitude := if signed then value.natAbs else (value % 18446744073709551616).toNat
  let digits := digitsText conversion.letter magnitude
  let digits := List.replicate (conversion.precision.getD 0 - digits.length) '0' ++ digits
  let mark : List Char :=
    if signed ∧ value < 0 then ['-']
    else if signed ∧ conversion.plus then ['+']
    else if signed ∧ conversion.blank then [' ']
    else if conversion.alternative then
      match conversion.letter with
      | 'o' => ['0']
      | 'x' => ['0', 'x']
      | 'X' => ['0', 'X']
      | _ => []
    else []
  let zeros := if conversion.zeros && !conversion.left && conversion.precision.isNone then
      List.replicate (conversion.width.getD 0 - mark.length - digits.length) '0'
    else []
  padBytes conversion (bytesOfCharacters (mark ++ zeros ++ digits))

/-- The value of an argument: a number, or the code of the character after a quote.
Also what is wrong with it, if anything is. -/
def argumentValue (argument : String) : Int × Option String :=
  match argument.toList with
  | [] => (0, none)
  | quote :: rest =>
    if quote = '\'' ∨ quote = '"' then (((rest.head?.map Char.toNat).getD 0 : Nat), none)
    else
      match integer? argument.toList with
      | some value => (value, none)
      | none =>
        let sign := if quote = '-' then [quote] else []
        let digits := (argument.toList.drop sign.length).takeWhile Char.isDigit
        match integer? (sign ++ digits) with
        | some value => (value, some (argument ++ ": not completely converted"))
        | none => (0, some (argument ++ ": expected numeric value"))

/-- What formatting gives. -/
structure Formatted where
  bytes : List UInt8
  /-- What is wrong with arguments that are to be numbers. -/
  misfits : List String
  rest : List String
  /-- Whether an escape says that nothing follows. -/
  stops : Bool

/-- Format one argument. -/
def convert (conversion : Conversion) (argument : String) : Formatted :=
  let cut (bytes : List UInt8) : List UInt8 :=
    match conversion.precision with
    | some precision => bytes.take precision
    | none => bytes
  match conversion.letter with
  | 's' => ⟨padBytes conversion (cut (bytesOf argument)), [], [], false⟩
  | 'c' => ⟨padBytes conversion ((bytesOf argument).take 1), [], [], false⟩
  | 'b' =>
    let (bytes, stops) := escapedBytes (argument.length + 1) argument.toList
    ⟨padBytes conversion (cut bytes), [], [], stops⟩
  | _ =>
    let (value, misfit) := argumentValue argument
    ⟨numberBytes conversion value, misfit.toList, [], false⟩

/-- Go through the items of a format once. -/
def formatOnce (items : List FormatItem) (arguments : List String) : Formatted :=
  items.foldl (fun formatted item =>
    if formatted.stops then formatted
    else
      match item with
      | .bytes bytes => { formatted with bytes := formatted.bytes ++ bytes }
      | .conversion conversion =>
        let converted := convert conversion (formatted.rest.headD "")
        ⟨formatted.bytes ++ converted.bytes, formatted.misfits ++ converted.misfits,
          formatted.rest.drop 1, converted.stops⟩) ⟨[], [], arguments, false⟩

/-- Go through the items until no argument is left. -/
def formatAll (items : List FormatItem) : Nat → List String → Formatted
  | 0, arguments => ⟨[], [], arguments, false⟩
  | fuel + 1, arguments =>
    let once := formatOnce items arguments
    if once.stops || once.rest.isEmpty || once.rest.length = arguments.length then once
    else
      let more := formatAll items fuel once.rest
      { more with bytes := once.bytes ++ more.bytes, misfits := once.misfits ++ more.misfits }

end BuildFleet.Shell
