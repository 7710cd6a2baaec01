import BuildFleet.Time.Instant
import BuildFleet.Text.Blank

/-!
# Instants as text

Instants are written in UTC with the fewest of zero, three, six or nine digits
of a second that are exact. Years outside 0 to 9999 are written with a sign and
at least four digits. Reading is more generous: any offset, one-digit months,
days and times, blanks between the parts, and any number of fraction digits of
which nine count.
-/

namespace BuildFleet.Instant

/-! ## Writing -/

/-- A number with at least so many digits. -/
def padded (width value : Nat) : String :=
  let digits := toString value
  String.ofList (List.replicate (width - digits.length) '0') ++ digits

def yearText (year : Int) : String :=
  if 0 ≤ year ∧ year ≤ 9999 then padded 4 year.toNat
  else (if year < 0 then "-" else "+") ++ padded 4 year.natAbs

def fractionText (nanos : Nat) : String :=
  if nanos = 0 then ""
  else if nanos % 1000000 = 0 then "." ++ padded 3 (nanos / 1000000)
  else if nanos % 1000 = 0 then "." ++ padded 6 (nanos / 1000)
  else "." ++ padded 9 nanos

/-- The written form. A leap second is written as the sixtieth. -/
def text (instant : Instant) : String :=
  let date := Calendar.Date.ofDayNumber (instant.seconds / 86400)
  let secondOfDay := (instant.seconds % 86400).toNat
  let leap := instant.nanos / 1000000000
  yearText date.year ++ "-" ++ padded 2 date.month ++ "-" ++ padded 2 date.day ++ "T" ++
    padded 2 (secondOfDay / 3600) ++ ":" ++ padded 2 (secondOfDay / 60 % 60) ++ ":" ++
    padded 2 (secondOfDay % 60 + leap) ++ fractionText (instant.nanos % 1000000000) ++ "Z"

/-! ## Reading -/

/-- The number that leads a text, of at most so many digits. -/
def leadingNumber (width : Option Nat) (text : List Char) : Option (Nat × List Char) :=
  let run := text.takeWhile Char.isDigit
  let digits := match width with
    | some width => run.take width
    | none => run
  if digits.isEmpty then none
  else
    some (digits.foldl (fun value digit => value * 10 + (digit.toNat - 48)) 0,
      text.drop digits.length)

/-- A number of at most two digits after any blanks. -/
def smallNumber (text : List Char) : Option (Nat × List Char) :=
  leadingNumber (some 2) (Text.trimStart text)

/-- The text after a character that has to come next, blanks apart. -/
def afterMark (mark : Char) (text : List Char) : Option (List Char) :=
  match Text.trimStart text with
  | first :: rest => if first = mark then some rest else none
  | [] => none

/-- A year: four digits at most, or any number of them after a sign. -/
def readYear (text : List Char) : Option (Int × List Char) :=
  match Text.trimStart text with
  | '-' :: rest => (leadingNumber none rest).map fun (value, rest) => (-(value : Int), rest)
  | '+' :: rest => (leadingNumber none rest).map fun (value, rest) => ((value : Int), rest)
  | rest => (leadingNumber (some 4) rest).map fun (value, rest) => ((value : Int), rest)

/-- The nanoseconds of a fraction after its point. Digits after the ninth are
not counted. -/
def readFraction (text : List Char) : Option (Nat × List Char) :=
  let run := text.takeWhile Char.isDigit
  if run.isEmpty then none
  else
    let kept := run.take 9
    let value := kept.foldl (fun value digit => value * 10 + (digit.toNat - 48)) 0
    some (value * Nat.pow 10 (9 - kept.length), text.drop run.length)

/-- Two digits with no blanks before them. -/
def twoDigits : List Char → Option (Nat × List Char)
  | first :: second :: rest =>
    if first.isDigit ∧ second.isDigit then
      some ((first.toNat - 48) * 10 + (second.toNat - 48), rest)
    else none
  | _ => none

/-- The offset from UTC in seconds: a letter Z, the word UTC, or signed hours
and minutes with colons or blanks between them. -/
def readOffset (text : List Char) : Option (Int × List Char) :=
  let word := (text.take 3).map Char.toLower
  if word = ['u', 't', 'c'] then some (0, text.drop 3)
  else
    match text with
    | [] => none
    | first :: rest =>
      if first = 'Z' ∨ first = 'z' then some (0, rest)
      else if first = '+' ∨ first = '-' ∨ first.toNat = 0x2212 then do
        let (hours, rest) ← twoDigits rest
        let rest := rest.dropWhile fun character => character = ':' || Text.isBlank character
        let (minutes, rest) ← twoDigits rest
        if minutes < 60 then
          let seconds : Int := hours * 3600 + minutes * 60
          some (if first = '+' then seconds else -seconds, rest)
        else none
      else none

/-- The instant that a text names. -/
def ofText? (text : String) : Option Instant := do
  let (year, rest) ← readYear text.toList
  let rest ← afterMark '-' rest
  let (month, rest) ← smallNumber rest
  let rest ← afterMark '-' rest
  let (day, rest) ← smallNumber rest
  let rest ← match rest with
    | 'T' :: rest | 't' :: rest | ' ' :: rest => some rest
    | _ => none
  let (hour, rest) ← smallNumber rest
  let rest ← afterMark ':' rest
  let (minute, rest) ← smallNumber rest
  let rest ← afterMark ':' rest
  let (second, rest) ← smallNumber rest
  let (nanos, rest) ← match rest with
    | '.' :: rest => readFraction rest
    | rest => some (0, rest)
  let (offset, rest) ← readOffset (Text.trimStart rest)
  if ¬ (Text.trimStart rest).isEmpty then none
  let date : Calendar.Date := ⟨year, month, day⟩
  if ¬ date.valid then none
  if hour > 23 ∨ minute > 59 ∨ second > 60 then none
  if offset ≤ -86400 ∨ 86400 ≤ offset then none
  let leap := second = 60
  let secondOfDay := hour * 3600 + minute * 60 + (if leap then 59 else second)
  let start := date.dayNumber * 86400
  -- The date has to be in range before the offset is taken off as well.
  let _ ← ofParts? (start + secondOfDay) 0
  ofParts? (start + secondOfDay - offset) (if leap then nanos + 1000000000 else nanos)

/-! ## JSON form -/

def toJson (instant : Instant) : Json := .string instant.text

def reader : Json.Reader Instant := fun context value => do
  match value with
  | .string _ =>
    let text ← Json.readString context value
    match ofText? text with
    | some instant => .ok instant
    | none => .error (.kind "input contains invalid characters")
  | other => Json.wrongKind "an RFC 3339 formatted date and time string" other

end BuildFleet.Instant
