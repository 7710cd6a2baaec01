import BuildFleet.Json.Value
import BuildFleet.Decimal.Shortest

/-!
# Number literals

A literal is an optional sign, an integer part without superfluous zeros, an
optional fraction and an optional power of ten. Integers in range stay exact.
For the others the leading digits that fit in sixty-four bits are converted to
a floating-point number, which is then multiplied or divided by a rounded power
of ten; digits beyond those only count as places. A literal too large for any
finite number has no value.
-/

namespace BuildFleet.Json

/-- A literal taken apart: its sign, the digits before and after the point, and
the written power of ten. -/
structure NumberLiteral where
  negative : Bool
  whole : List Char
  fraction : Option (List Char)
  power : Option (Bool × List Char)
deriving Repr

namespace NumberLiteral

def digitValue (digit : Char) : Nat := digit.toNat - 48

/-- Leading digits that fit in sixty-four bits, and the digits that no longer do. -/
def accumulate (start : Nat) : List Char → Nat × List Char
  | [] => (start, [])
  | digit :: rest =>
    let next := start * 10 + digitValue digit
    if next ≤ 18446744073709551615 then accumulate next rest
    else (start, digit :: rest)

/-- Rounded powers of ten from `1` to `10 ^ 308`. -/
def tenPower (exponent : Nat) : Float := Float.ofScientific 1 false exponent

/-- Division by powers of ten, at most `10 ^ 308` at a time. -/
def scaleDown : Nat → Float → Nat → Float
  | 0, value, _ => value
  | fuel + 1, value, places =>
    if places ≤ 308 then value / tenPower places
    else if value == 0 then value
    else scaleDown fuel (value / tenPower 308) (places - 308)

/-- The significand scaled by a power of ten, unless the result is too large. -/
def scale (significand : Nat) (exponent : Int) : Option Float :=
  let value := (UInt64.ofNat significand).toFloat
  if exponent < 0 then some (scaleDown 10 value exponent.natAbs)
  else if exponent ≤ 308 then
    let scaled := value * tenPower exponent.toNat
    if scaled.isInf then none else some scaled
  else if significand = 0 then some value
  else none

/-- Written powers beyond thirty-two bits decide the result by their sign alone. -/
def powerValue (digits : List Char) : Nat :=
  digits.foldl (fun value digit => value * 10 + digitValue digit) 0

/-- The value of a literal. -/
def value (literal : NumberLiteral) : Option Json :=
  let (start, overflow) := accumulate 0 literal.whole
  let signed (magnitude : Float) : Json :=
    .decimal (.ofFloat (if literal.negative then -magnitude else magnitude))
  match literal.fraction, literal.power, overflow with
  | none, none, [] =>
    if literal.negative then
      if start = 0 ∨ start > 9223372036854775808 then
        some (signed (UInt64.ofNat start).toFloat)
      else some (.integer (-start))
    else some (.integer start)
  | _, _, _ =>
    let fraction := literal.fraction.getD []
    let (significand, ignored) := accumulate start fraction
    let places : Int := (overflow.length : Int) - ((fraction.length - ignored.length : Nat) : Int)
    match literal.power with
    | none => (scale significand places).map signed
    | some (negativePower, digits) =>
      let power := powerValue digits
      if power > 2147483647 then
        if significand ≠ 0 ∧ ¬ negativePower then none else some (signed 0)
      else
        (scale significand (if negativePower then places - power else places + power)).map signed

end NumberLiteral

end BuildFleet.Json
