import BuildFleet.Proofs.Time.Order
import BuildFleet.Job.Basic
import BuildFleet.Time.Ticker

/-!
# Time since the start

A clock that is set by the milliseconds since one origin keeps their order, even
if the origin lies in a leap second: the part of the leap second that is left
counts once, whether it is passed in one step or in two.
-/

namespace BuildFleet

namespace Instant

/-- Nanoseconds since the start of 1970, with a leap second counted as the ordinary
second before it. -/
def counted (instant : Instant) : Int :=
  if instant.nanos < 1000000000 then instant.sinceEpoch else instant.sinceEpoch - 1000000000

/-- A step forward adds its nanoseconds to the count, and when it leaves a leap
second it comes to a later second. -/
theorem addMilliseconds?_counted {start finish : Instant} {milliseconds : Int}
    (nonneg : 0 ≤ milliseconds)
    (defined : start.addMilliseconds? milliseconds = some finish) :
    finish.counted = start.counted + milliseconds * 1000000 ∧
      (finish.InLeapSecond → start.InLeapSecond ∧ finish.seconds = start.seconds) ∧
      (start.InLeapSecond → ¬ finish.InLeapSecond → start.seconds < finish.seconds) := by
  have sum := stepParts_sum milliseconds
  have bounds := stepParts_bounds milliseconds
  have forward := stepParts_nonneg nonneg
  have part := start.partOfSecond
  unfold counted InLeapSecond
  by_cases ordinary : start.nanos < 1000000000
  · rcases addMilliseconds?_ordinary (by unfold InLeapSecond; omega) defined with ⟨still, moved⟩
    rw [if_pos ordinary, if_pos still]
    omega
  · unfold addMilliseconds? at defined
    split at defined
    · dsimp only at defined
      split at defined
      · rcases carry_eq_some (by omega) (by omega) defined with ⟨still, moved⟩
        rw [if_neg ordinary, if_pos still, moved]
        unfold sinceEpoch at moved ⊢
        omega
      · simp only [show ¬ (stepParts milliseconds).1 < 0 by omega, if_false] at defined
        rcases ofParts?_eq_some defined with ⟨seconds, nanos⟩
        rw [if_neg ordinary, if_neg (by omega)]
        unfold sinceEpoch
        omega
    · cases defined

/-- A reading is before another one if fewer milliseconds have passed since the
origin, the other one being reached in one step or in two. -/
theorem lt_of_elapsed_lt {origin beat expiry reading : Instant} {last lease elapsed : Int}
    (lastNonneg : 0 ≤ last) (leaseNonneg : 0 ≤ lease) (elapsedNonneg : 0 ≤ elapsed)
    (beats : origin.addMilliseconds? last = some beat)
    (ends : beat.addMilliseconds? lease = some expiry)
    (reads : origin.addMilliseconds? elapsed = some reading)
    (earlier : elapsed < last + lease) : reading < expiry := by
  have first := addMilliseconds?_counted lastNonneg beats
  have second := addMilliseconds?_counted leaseNonneg ends
  have current := addMilliseconds?_counted elapsedNonneg reads
  have part := reading.partOfSecond
  have expiryPart := expiry.partOfSecond
  rw [lt_iff]
  unfold counted InLeapSecond sinceEpoch at first second current
  omega

theorem addMilliseconds?_zero (instant : Instant) : instant.addMilliseconds? 0 = some instant := by
  have same : ofParts? instant.seconds instant.nanos = some instant := by
    unfold ofParts?
    rw [dif_pos instant.inRange, dif_pos instant.partOfSecond]
  have parts : stepParts 0 = (0, 0) := rfl
  unfold addMilliseconds?
  rw [if_pos (by decide), parts]
  dsimp only
  by_cases ordinary : instant.nanos < 1000000000
  · rw [if_pos ordinary]
    unfold carry
    rw [if_neg (by omega), if_neg (by omega), Int.add_zero, Int.add_zero, Int.toNat_natCast]
    exact same
  · rw [if_neg ordinary, if_neg (by omega), if_neg (by omega), Int.add_zero, Int.toNat_natCast]
    exact same

/-- A step forward does not come to an earlier reading. -/
theorem le_of_addMilliseconds? {start finish : Instant} {milliseconds : Int}
    (nonneg : 0 ≤ milliseconds)
    (defined : start.addMilliseconds? milliseconds = some finish) : start ≤ finish := by
  have moved := addMilliseconds?_counted nonneg defined
  have part := start.partOfSecond
  have finishPart := finish.partOfSecond
  rw [le_iff]
  unfold counted InLeapSecond sinceEpoch at moved
  omega

/-- A reading is after another one if more milliseconds have passed since the origin,
the other one being reached in two steps. -/
theorem lt_of_lt_elapsed {origin beat expiry reading : Instant} {last lease elapsed : Int}
    (lastNonneg : 0 ≤ last) (leaseNonneg : 0 ≤ lease) (elapsedNonneg : 0 ≤ elapsed)
    (beats : origin.addMilliseconds? last = some beat)
    (ends : beat.addMilliseconds? lease = some expiry)
    (reads : origin.addMilliseconds? elapsed = some reading)
    (later : last + lease < elapsed) : expiry < reading := by
  have first := addMilliseconds?_counted lastNonneg beats
  have second := addMilliseconds?_counted leaseNonneg ends
  have current := addMilliseconds?_counted elapsedNonneg reads
  have part := reading.partOfSecond
  have expiryPart := expiry.partOfSecond
  rw [lt_iff]
  unfold counted InLeapSecond sinceEpoch at first second current
  omega

/-- A clock that is set by the milliseconds since one origin comes to later readings. -/
theorem reading_lt {origin before after : Instant} {earlier later : Nat}
    (reads : origin.addMilliseconds? earlier = some before)
    (readsLater : origin.addMilliseconds? later = some after) (less : earlier < later) :
    before < after :=
  lt_of_elapsed_lt (by omega) (Int.le_refl 0) (by omega) readsLater
    after.addMilliseconds?_zero reads (by omega)

theorem reading_le {origin before after : Instant} {earlier later : Nat}
    (reads : origin.addMilliseconds? earlier = some before)
    (readsLater : origin.addMilliseconds? later = some after) (ordered : earlier ≤ later) :
    before ≤ after := by
  rcases Nat.lt_or_eq_of_le ordered with less | rfl
  · exact le_of_lt (reading_lt reads readsLater less)
  · exact le_of_eq (Option.some.inj (reads.symm.trans readsLater))

/-- No step is longer than the calendar. -/
theorem milliseconds_lt {start finish : Instant} {milliseconds : Int} (nonneg : 0 ≤ milliseconds)
    (defined : start.addMilliseconds? milliseconds = some finish) :
    milliseconds < 17000000000000000 := by
  have moved := addMilliseconds?_counted nonneg defined
  have from1 := start.inRange
  have to1 := finish.inRange
  have part := start.partOfSecond
  have finishPart := finish.partOfSecond
  have first : firstSecond = -8334601228800 := by decide
  have last : lastSecond = 8210266876799 := by decide
  rw [first, last] at from1 to1
  unfold counted sinceEpoch at moved
  omega

end Instant

/-- A lease that ends inside the calendar is as long as it was asked to be. -/
theorem Job.leaseMilliseconds_eq {lease : Span} {now expiry : Instant}
    (ends : now.addMilliseconds? (leaseMilliseconds lease) = some expiry) :
    leaseMilliseconds lease = lease.milliseconds := by
  have short := Instant.milliseconds_lt (by unfold leaseMilliseconds; split <;> omega) ends
  unfold leaseMilliseconds at short ⊢
  split
  · rfl
  · rename_i long
    rw [if_neg long] at short
    omega

/-! ## Timers at whole milliseconds -/

/-- A timer over a whole number of milliseconds fires when they have passed. -/
theorem firesAt_whole (milliseconds : Nat) :
    firesAt (milliseconds * nanosPerMilli) = milliseconds := by
  unfold firesAt nanosPerMilli
  omega

/-- A span of whole milliseconds. -/
theorem Span.nanoseconds_of_whole {span : Span} (whole : span.nanoseconds % nanosPerMilli = 0) :
    span.nanoseconds = span.milliseconds * nanosPerMilli := by
  unfold Span.milliseconds nanosPerMilli at *
  omega

/-- A deadline whole milliseconds away is noticed when they have passed. -/
theorem firesAt_deadlineAfter {span : Span} (elapsed : Nat)
    (whole : span.nanoseconds % nanosPerMilli = 0) :
    firesAt (deadlineAfter elapsed span) = elapsed + span.milliseconds := by
  rw [deadlineAfter, span.nanoseconds_of_whole whole, ← Nat.add_mul, firesAt_whole]

/-- A tick that is noticed on time is followed by the next one after a whole period. -/
theorem Ticker.next_on_time {ticker : Ticker} {elapsed : Nat}
    (due : ticker.due = elapsed * nanosPerMilli) :
    ticker.next elapsed = { ticker with due := ticker.due + ticker.period.nanoseconds } := by
  have soon : ¬ elapsed * nanosPerMilli > ticker.due + tolerance := by
    rw [due]
    exact Nat.not_lt.mpr (Nat.le_add_right _ _)
  simp only [next, if_neg soon]

theorem Ticker.later_whole {period : Span} (elapsed : Nat)
    (whole : period.nanoseconds % nanosPerMilli = 0) :
    later elapsed period = ⟨(elapsed + period.milliseconds) * nanosPerMilli, period⟩ := by
  rw [later, deadlineAfter, period.nanoseconds_of_whole whole, Nat.add_mul]

theorem Ticker.next_whole {period : Span} (elapsed : Nat)
    (whole : period.nanoseconds % nanosPerMilli = 0) :
    next ⟨elapsed * nanosPerMilli, period⟩ elapsed =
      ⟨(elapsed + period.milliseconds) * nanosPerMilli, period⟩ := by
  rw [next_on_time rfl, Nat.add_mul, ← period.nanoseconds_of_whole whole]

end BuildFleet
