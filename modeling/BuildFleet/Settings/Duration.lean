import BuildFleet.Text.Blank
import BuildFleet.Time.Span

/-!
# Durations in settings

A duration is written as a number of seconds, or as a number with one of the
units s, m, h and d. Number and duration have at most sixty-four bits.
-/

namespace BuildFleet.Settings

/-- The seconds in a unit. A number without a unit counts seconds. -/
def unitSeconds? : List Char → Option Nat
  | [] => some 1
  | ['s'] => some 1
  | ['m'] => some 60
  | ['h'] => some 3600
  | ['d'] => some 86400
  | _ => none

/-- The number with these decimal digits. -/
def decimalNumber (digits : List Char) : Nat :=
  digits.foldl (fun value digit => value * 10 + (digit.toNat - 48)) 0

/-- The duration that a text names. Blanks around it are ignored. -/
def parseDuration? (text : String) : Option Span :=
  let characters := Text.trimEnd (Text.trimStart text.toList)
  let digits := characters.takeWhile Char.isDigit
  let number := decimalNumber digits
  match unitSeconds? (characters.drop digits.length) with
  | none => none
  | some unit =>
    if digits.isEmpty || number ≥ 18446744073709551616 ||
        number * unit ≥ 18446744073709551616 then none
    else some (Span.ofSeconds (UInt64.ofNat (number * unit)))

end BuildFleet.Settings
