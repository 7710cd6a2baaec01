import BuildFleet.Time.Calendar
import BuildFleet.Time.Span

/-!
# Instants

An instant is a second of the civil calendar and a part of it in nanoseconds.
A leap second is the second before it with a part beyond a thousand million.
Instants lie in the years from -262143 to 262142; moving past either end has no
result.
-/

namespace BuildFleet

/-- Seconds from 1970 to the start of the first year. -/
def firstSecond : Int :=
  (Calendar.Date.dayNumber ⟨-262143, 1, 1⟩) * 86400

/-- Seconds from 1970 to the end of the last year, less one. -/
def lastSecond : Int :=
  (Calendar.Date.dayNumber ⟨262142, 12, 31⟩) * 86400 + 86399

/-- A point in time. -/
structure Instant where
  /-- Seconds since the start of 1970; leap seconds are not counted. -/
  seconds : Int
  /-- The part of the second, a thousand million or more in a leap second. -/
  nanos : Nat
  inRange : firstSecond ≤ seconds ∧ seconds ≤ lastSecond
  partOfSecond : nanos < 1000000000 ∨ (nanos < 2000000000 ∧ seconds % 60 = 59)
deriving DecidableEq

namespace Instant

instance : Repr Instant := ⟨fun instant _ => repr instant.seconds ++ "+" ++ repr instant.nanos⟩

def ofParts? (seconds : Int) (nanos : Nat) : Option Instant :=
  if inRange : firstSecond ≤ seconds ∧ seconds ≤ lastSecond then
    if partOfSecond : nanos < 1000000000 ∨ (nanos < 2000000000 ∧ seconds % 60 = 59) then
      some ⟨seconds, nanos, inRange, partOfSecond⟩
    else none
  else none

/-- The start of 1970. -/
def epoch : Instant := ⟨0, 0, by decide, by decide⟩

instance : Inhabited Instant := ⟨epoch⟩

/-! ## Order -/

instance : LT Instant :=
  ⟨fun left right => left.seconds < right.seconds ∨
    (left.seconds = right.seconds ∧ left.nanos < right.nanos)⟩

instance : LE Instant :=
  ⟨fun left right => left.seconds < right.seconds ∨
    (left.seconds = right.seconds ∧ left.nanos ≤ right.nanos)⟩

instance (left right : Instant) : Decidable (left < right) :=
  inferInstanceAs (Decidable (_ ∨ _))

instance (left right : Instant) : Decidable (left ≤ right) :=
  inferInstanceAs (Decidable (_ ∨ _))

/-- The later of two instants. -/
def later (left right : Instant) : Instant := if left ≤ right then right else left

/-! ## Moving in time -/

/-- The most milliseconds that an instant can be moved by at once. -/
def greatestStep : Int := 9223372036854775807

/-- The seconds and nanoseconds of a number of milliseconds, both with its sign. -/
def stepParts (milliseconds : Int) : Int × Int :=
  (milliseconds.tdiv 1000, (milliseconds.tmod 1000) * 1000000)

/-- Seconds and nanoseconds brought together again after a step, the latter
within one second. -/
def carry (seconds nanos : Int) : Option Instant :=
  if nanos < 0 then ofParts? (seconds - 1) (nanos + 1000000000).toNat
  else if nanos ≥ 1000000000 then ofParts? (seconds + 1) (nanos - 1000000000).toNat
  else ofParts? seconds nanos.toNat

/-- The instant a number of milliseconds later, or earlier if it is negative.
A step that leaves a leap second lands in the ordinary seconds around it. -/
def addMilliseconds? (instant : Instant) (milliseconds : Int) : Option Instant :=
  if -greatestStep ≤ milliseconds ∧ milliseconds ≤ greatestStep then
    let (seconds, nanos) := stepParts milliseconds
    if instant.nanos < 1000000000 then
      carry (instant.seconds + seconds) (instant.nanos + nanos)
    else if seconds > 0 ∨ (nanos > 0 ∧ (instant.nanos : Int) + nanos ≥ 2000000000) then
      carry (instant.seconds + seconds) (instant.nanos - 1000000000 + nanos)
    else if seconds < 0 then
      carry (instant.seconds + 1 + seconds) (instant.nanos - 1000000000 + nanos)
    else ofParts? instant.seconds (instant.nanos + nanos).toNat
  else none

/-- The low sixty-four bits of a number, read with a sign. -/
def wrapMilliseconds (milliseconds : Nat) : Int :=
  let low := milliseconds % 18446744073709551616
  if low < 9223372036854775808 then low else low - 18446744073709551616

/-- The instant a span later. The span counts in milliseconds of sixty-four
bits; higher bits are lost. -/
def after? (instant : Instant) (span : Span) : Option Instant :=
  instant.addMilliseconds? (wrapMilliseconds span.milliseconds)

/-- The instant a span earlier, with the same loss of high bits. -/
def before? (instant : Instant) (span : Span) : Option Instant :=
  let milliseconds := wrapMilliseconds span.milliseconds
  if milliseconds = -greatestStep - 1 then none
  else instant.addMilliseconds? (-milliseconds)

end Instant

end BuildFleet
