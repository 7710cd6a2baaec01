import BuildFleet.Time.Span

/-!
# Timers

Deadlines are kept to the nanosecond, but the clock moves in whole milliseconds
and a timer fires at the first of them that is not before its deadline. A ticker
that is noticed late starts its period again from there; a delay of up to five
milliseconds does not count as late.
-/

namespace BuildFleet

/-- Nanoseconds in a millisecond. -/
def nanosPerMilli : Nat := 1000000

/-- The deadline a span after a reading of the clock in milliseconds. -/
def deadlineAfter (elapsed : Nat) (span : Span) : Nat :=
  elapsed * nanosPerMilli + span.nanoseconds

/-- The millisecond at which a deadline is noticed. -/
def firesAt (deadline : Nat) : Nat := (deadline + (nanosPerMilli - 1)) / nanosPerMilli

/-- A timer that fires again and again. -/
structure Ticker where
  /-- The deadline of the next tick, in nanoseconds. -/
  due : Nat
  period : Span
deriving DecidableEq, Repr

namespace Ticker

/-- A ticker that ticks at once. -/
def now (elapsed : Nat) (period : Span) : Ticker := ⟨elapsed * nanosPerMilli, period⟩

/-- A ticker that ticks after one period. -/
def later (elapsed : Nat) (period : Span) : Ticker := ⟨deadlineAfter elapsed period, period⟩

def isDue (ticker : Ticker) (elapsed : Nat) : Bool := decide (firesAt ticker.due ≤ elapsed)

/-- Lateness up to five milliseconds leaves the rhythm of a ticker as it is. -/
def tolerance : Nat := 5 * nanosPerMilli

/-- The ticker after a tick. -/
def next (ticker : Ticker) (elapsed : Nat) : Ticker :=
  let start :=
    if elapsed * nanosPerMilli > ticker.due + tolerance then elapsed * nanosPerMilli
    else ticker.due
  { ticker with due := start + ticker.period.nanoseconds }

end Ticker

end BuildFleet
