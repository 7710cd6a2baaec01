import BuildFleet.Time.Span

/-!
# Backoff

The delay between attempts doubles up to a limit and starts again after a
success. The next delay is computed when the current one is handed out, before
the limit is applied, so doubling can leave the range of spans.
-/

namespace BuildFleet

structure Backoff where
  initial : Span
  limit : Span
  /-- The delay that comes next. -/
  current : Span
deriving DecidableEq, Repr

namespace Backoff

def start (initial limit : Span) : Backoff := ⟨initial, limit, initial⟩

/-- From one second to one minute. -/
def standard : Backoff := start ⟨1000000000, by decide⟩ ⟨60000000000, by decide⟩

/-- The delay to wait now, and the state after it. -/
def next (backoff : Backoff) : Option (Span × Backoff) :=
  backoff.current.twice?.map fun doubled =>
    (backoff.current, { backoff with current := doubled.shorter backoff.limit })

/-- The delay to wait now, and the state after it, which stays as it is where
doubling leaves the range of spans. -/
def take (backoff : Backoff) : Span × Backoff := backoff.next.getD (backoff.current, backoff)

def reset (backoff : Backoff) : Backoff := { backoff with current := backoff.initial }

end Backoff

end BuildFleet
