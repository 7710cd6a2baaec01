import BuildFleet.Json.Reading

/-!
# Spans of time

A span is a non-negative number of nanoseconds below `2 ^ 64` seconds. Doubling
can leave this range and then has no result.
-/

namespace BuildFleet

/-- The first number of nanoseconds that is too long for a span. -/
def spanLimit : Nat := 18446744073709551616 * 1000000000

/-- A length of time. -/
structure Span where
  nanoseconds : Nat
  inRange : nanoseconds < spanLimit
deriving DecidableEq

namespace Span

instance : Repr Span := ⟨fun span _ => repr span.nanoseconds ++ " ns"⟩

instance : Inhabited Span := ⟨⟨0, by decide⟩⟩

instance : LE Span := ⟨fun left right => left.nanoseconds ≤ right.nanoseconds⟩

instance : LT Span := ⟨fun left right => left.nanoseconds < right.nanoseconds⟩

instance (left right : Span) : Decidable (left ≤ right) :=
  inferInstanceAs (Decidable (left.nanoseconds ≤ right.nanoseconds))

instance (left right : Span) : Decidable (left < right) :=
  inferInstanceAs (Decidable (left.nanoseconds < right.nanoseconds))

def zero : Span := ⟨0, by decide⟩

def ofNanoseconds? (nanoseconds : Nat) : Option Span :=
  if inRange : nanoseconds < spanLimit then some ⟨nanoseconds, inRange⟩ else none

/-- Whole seconds of sixty-four bits. -/
def ofSeconds (seconds : UInt64) : Span :=
  ⟨seconds.toNat * 1000000000, by
    have := seconds.toNat_lt
    simp only [spanLimit]
    omega⟩

def ofSeconds? (seconds : Nat) : Option Span := ofNanoseconds? (seconds * 1000000000)

def ofMilliseconds? (milliseconds : Nat) : Option Span :=
  ofNanoseconds? (milliseconds * 1000000)

/-- Whole seconds. -/
def seconds (span : Span) : Nat := span.nanoseconds / 1000000000

/-- The nanoseconds after the last whole second. -/
def subsecond (span : Span) : Nat := span.nanoseconds % 1000000000

/-- Whole milliseconds; what is left over is dropped. -/
def milliseconds (span : Span) : Nat := span.nanoseconds / 1000000

/-- Milliseconds, rounded up. -/
def millisecondsCeiling (span : Span) : Nat := (span.nanoseconds + 999999) / 1000000

/-- Twice the span, if that is still a span. -/
def twice? (span : Span) : Option Span := ofNanoseconds? (span.nanoseconds * 2)

/-- A third of the span, rounded down to nanoseconds. -/
def third (span : Span) : Span :=
  ⟨span.nanoseconds / 3, by have := span.inRange; omega⟩

/-- The shorter of two spans. -/
def shorter (left right : Span) : Span := if left ≤ right then left else right

/-! ## JSON form -/

/-- The seconds and the nanoseconds after them. -/
def toJson (span : Span) : Json :=
  .object [("secs", .integer span.seconds), ("nanos", .integer span.subsecond)]

/-- Nanoseconds beyond a second carry over into the seconds. -/
def reader : Json.Reader Span := fun context value => do
  let parts : Nat × Nat ← (Json.RecordReader.readWith
    (Prod.mk <$> .required "secs" Json.readNat64 <*> .required "nanos" Json.readNat32)
    .refused "Duration") context value
  match ofNanoseconds? (parts.1 * 1000000000 + parts.2) with
  | some span => .ok span
  | none => .error (.kind "overflow deserializing Duration")

/-! ## Form in messages -/

/-- Fraction digits of a number of a power of ten, without trailing zeros. -/
def fractionText (places value : Nat) : String :=
  let digits := toString value
  let padded := List.replicate (places - digits.length) '0' ++ digits.toList
  let kept := (padded.reverse.dropWhile (· = '0')).reverse
  if kept.isEmpty then "" else "." ++ String.ofList kept

/-- A span in the largest of the units s, ms, µs and ns that it reaches, with
the fraction it needs. -/
def text (span : Span) : String :=
  let nanoseconds := span.nanoseconds
  if nanoseconds ≥ 1000000000 then
    toString span.seconds ++ fractionText 9 span.subsecond ++ "s"
  else if nanoseconds ≥ 1000000 then
    toString (nanoseconds / 1000000) ++ fractionText 6 (nanoseconds % 1000000) ++ "ms"
  else if nanoseconds ≥ 1000 then
    toString (nanoseconds / 1000) ++ fractionText 3 (nanoseconds % 1000) ++ "µs"
  else toString nanoseconds ++ "ns"

end Span

end BuildFleet
