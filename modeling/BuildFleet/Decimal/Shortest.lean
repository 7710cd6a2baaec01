/-!
# Binary floating-point numbers

Numbers with a fraction are opaque to the fleet: they are stored, compared and
written back, never computed with. A number is therefore kept as the sixty-four
bits of its binary form, which have decidable equality, and every finite value
can be taken apart into an exact integer times a power of two.
-/

namespace BuildFleet

/-- A number in the sixty-four bit binary interchange format. -/
structure Binary64 where
  bits : UInt64
deriving DecidableEq, Repr, Inhabited

namespace Binary64

def ofFloat (value : Float) : Binary64 := ⟨value.toBits⟩

def toFloat (value : Binary64) : Float := Float.ofBits value.bits

/-- The sign bit. Zero has a sign of its own. -/
def isNegative (value : Binary64) : Bool :=
  value.bits >>> 63 == 1

/-- The eleven exponent bits. -/
def exponentField (value : Binary64) : Nat :=
  ((value.bits >>> 52) &&& 0x7FF).toNat

/-- The fifty-two fraction bits. -/
def fractionField (value : Binary64) : Nat :=
  (value.bits &&& 0xFFFFFFFFFFFFF).toNat

/-- Infinities and undefined results carry the largest exponent field. -/
def isFinite (value : Binary64) : Bool :=
  value.exponentField < 0x7FF

/-- The integer `m` in `|value| = m * 2 ^ q`. -/
def significand (value : Binary64) : Nat :=
  if value.exponentField = 0 then value.fractionField
  else value.fractionField + 4503599627370496

/-- The exponent `q` in `|value| = m * 2 ^ q`. -/
def binaryExponent (value : Binary64) : Int :=
  if value.exponentField = 0 then -1074
  else (value.exponentField : Int) - 1075

/-- The gap below a power of two is half the gap above it, except at the
bottom of the range where gaps no longer shrink. -/
def hasNarrowLowerGap (value : Binary64) : Bool :=
  value.fractionField == 0 && value.exponentField > 1

end Binary64

/-!
## Shortest decimal digits

Every finite binary number is written with the fewest decimal digits that read
back as the same number, and among those with the digits nearest to it. The
search is in exact integers: a number `m * 2 ^ q` owns the interval of reals
that round to it, and the digits are a point of the coarsest decimal grid that
meets this interval.
-/

/-- The decimal number `digits * 10 ^ exponent`. -/
structure DecimalDigits where
  digits : Nat
  exponent : Int
deriving DecidableEq, Repr, Inhabited

namespace DecimalDigits

/-- Digits without trailing zeros; the zeros move into the exponent. -/
def trimZeros : Nat → DecimalDigits → DecimalDigits
  | 0, value => value
  | fuel + 1, value =>
      if value.digits ≠ 0 ∧ value.digits % 10 = 0 then
        trimZeros fuel ⟨value.digits / 10, value.exponent + 1⟩
      else value

end DecimalDigits

/-- The interval of reals that round to a number, over a common denominator. -/
structure RoundingInterval where
  low : Nat
  value : Nat
  high : Nat
  denominator : Nat
  /-- The ends round to the number too when its significand is even. -/
  closed : Bool
deriving Repr

namespace RoundingInterval

/-- The interval of a finite number: halfway to each neighbour. -/
def ofBinary64 (value : Binary64) : RoundingInterval :=
  let significand := value.significand
  let exponent := value.binaryExponent
  let shift := exponent.toNat
  let scale := Nat.pow 2 shift
  let denominator := 4 * Nat.pow 2 (-exponent).toNat
  let below := if value.hasNarrowLowerGap then 1 else 2
  { low := (4 * significand - below) * scale
    value := 4 * significand * scale
    high := (4 * significand + 2) * scale
    denominator := denominator
    closed := significand % 2 == 0 }

/-- Whether `numerator / (interval.denominator * unit)` lies in the interval. -/
def contains (interval : RoundingInterval) (unit numerator : Nat) : Bool :=
  if interval.closed then
    interval.low * unit ≤ numerator && numerator ≤ interval.high * unit
  else
    interval.low * unit < numerator && numerator < interval.high * unit

/-- The grid point nearest to the number among its two neighbours on the grid
of multiples of `10 ^ exponent`, if one lies in the interval. A tie goes to the
even neighbour. -/
def gridPoint (interval : RoundingInterval) (exponent : Int) : Option Nat :=
  let up := Nat.pow 10 exponent.toNat
  let unit := Nat.pow 10 (-exponent).toNat
  -- The value on this grid is `value * unit / (denominator * up)`.
  let numerator := interval.value * unit
  let step := interval.denominator * up
  let floor := numerator / step
  let remainder := numerator - floor * step
  let lowerIn := interval.contains unit (floor * step)
  let upperIn := interval.contains unit ((floor + 1) * step)
  let lowerNearer :=
    2 * remainder < step || (2 * remainder == step && floor % 2 == 0)
  if remainder = 0 then (if lowerIn then some floor else none)
  else if lowerIn && (lowerNearer || !upperIn) then some floor
  else if upperIn then some (floor + 1)
  else none

/-- The first grid, from coarse to fine, that has a point in the interval. -/
def search (interval : RoundingInterval) : Nat → Int → DecimalDigits
  | 0, exponent => ⟨interval.value / interval.denominator, exponent⟩
  | fuel + 1, exponent =>
      match interval.gridPoint exponent with
      | some digits => ⟨digits, exponent⟩
      | none => search interval fuel (exponent - 1)

end RoundingInterval

namespace Binary64

/-- An exponent of ten above which no multiple of the power lies in the
interval of the number: a little over `log10` of its value. -/
def coarsestExponent (value : Binary64) : Int :=
  ((value.significand.log2 : Int) + value.binaryExponent + 1) * 30103 / 100000 + 1

/-- The fewest digits that read back as the number, nearest to it. -/
def shortest (value : Binary64) : DecimalDigits :=
  if value.significand = 0 then ⟨0, 0⟩
  else
    ((RoundingInterval.ofBinary64 value).search 20 value.coarsestExponent).trimZeros 400

end Binary64

/-! ## Written form -/

/-- How a format spells the digits it has been given. -/
structure DecimalStyle where
  /-- The least power of ten of a first digit that is still written positionally. -/
  leastPositional : Int
  /-- The greatest one. -/
  greatestPositional : Int
deriving Repr

namespace DecimalStyle

def zeros (count : Nat) : String := String.ofList (List.replicate count '0')

/-- Positional digits always show a point and a digit on each side of it. -/
def positional (digits : String) (exponent : Int) : String :=
  let pointAt := (digits.length : Int) + exponent
  if exponent ≥ 0 then digits ++ zeros exponent.toNat ++ ".0"
  else if pointAt > 0 then
    (digits.take pointAt.toNat).toString ++ "." ++ (digits.drop pointAt.toNat).toString
  else "0." ++ zeros (-pointAt).toNat ++ digits

/-- One digit, the rest after a point if there are more, and a signed power. -/
def scientific (digits : String) (exponent : Int) : String :=
  let first := (digits.take 1).toString
  let rest := (digits.drop 1).toString
  let power := exponent + (digits.length : Int) - 1
  let mantissa := if rest.isEmpty then first else first ++ "." ++ rest
  let sign := if power < 0 then "-" else "+"
  mantissa ++ "e" ++ sign ++ toString power.natAbs

def write (style : DecimalStyle) (value : DecimalDigits) : String :=
  let digits := toString value.digits
  if value.digits = 0 then "0.0"
  else
    let leading := value.exponent + (digits.length : Int) - 1
    if style.leastPositional ≤ leading ∧ leading ≤ style.greatestPositional then
      positional digits value.exponent
    else scientific digits value.exponent

end DecimalStyle

end BuildFleet
