import BuildFleet.Proofs.Time.Elapsed
import BuildFleet.Proofs.Time.Range

/-!
# Windows of time

A look back by a span of whole milliseconds comes to a cutoff. The readings from the cutoff
on are those from which no more than the span has gone by. That holds of every span whose
milliseconds keep their high bits; of the others, each that comes to a cutoff at all leaves
readings out that lie within it.
-/

namespace BuildFleet

/-- The nanoseconds of a span, cut to whole milliseconds. -/
def Span.truncated (span : Span) : Int := span.milliseconds * 1000000

namespace Instant

variable {start finish reading seen now cutoff : Instant} {milliseconds : Int}
  {span narrower wider : Span}

/-! ## The time between two readings -/

/-- Nanoseconds from the start of 1970 to a reading, as they count when its second is over.
The seconds are numbered without leap seconds, so that one that is over took no time. -/
def settled (instant : Instant) : Int := instant.seconds * 1000000000 + min instant.nanos 999999999

/-- Nanoseconds from one reading to another, negative if that is the earlier one. -/
def elapsed (start finish : Instant) : Int :=
  if start.seconds = finish.seconds then finish.sinceEpoch - start.sinceEpoch
  else if start.seconds < finish.seconds then finish.sinceEpoch - start.settled
  else finish.settled - start.sinceEpoch

theorem settled_ordinary (ordinary : ¬ reading.InLeapSecond) :
    reading.settled = reading.sinceEpoch := by
  unfold InLeapSecond at ordinary
  unfold settled sinceEpoch
  omega

/-- Outside leap seconds the time between readings is the difference of their counts. -/
theorem elapsed_ordinary (startOrdinary : ¬ start.InLeapSecond)
    (finishOrdinary : ¬ finish.InLeapSecond) :
    elapsed start finish = finish.sinceEpoch - start.sinceEpoch := by
  rw [elapsed, settled_ordinary startOrdinary, settled_ordinary finishOrdinary]
  split_ifs <;> rfl

theorem elapsed_self (reading : Instant) : elapsed reading reading = 0 := by
  rw [elapsed, if_pos rfl, Int.sub_self]

/-- The calendar is far shorter than sixty-three bits of milliseconds. -/
theorem elapsed_lt (start finish : Instant) :
    elapsed start finish < 9223372036854775808 * 1000000 := by
  have startRange := start.inRange
  have finishRange := finish.inRange
  have startPart := start.partOfSecond
  have finishPart := finish.partOfSecond
  rw [firstSecond_eq, lastSecond_eq] at startRange finishRange
  unfold elapsed settled sinceEpoch
  split_ifs <;> omega

/-! ## Steps back -/

theorem stepParts_of_back (backward : milliseconds ≤ 0) :
    (stepParts milliseconds).1 ≤ 0 ∧ (stepParts milliseconds).2 ≤ 0 := by
  rcases Int.lt_or_eq_of_le backward with back | rfl
  · exact stepParts_nonpos back
  · exact ⟨Int.le_refl _, Int.le_refl _⟩

/-- A step back takes its nanoseconds off the count, out of a leap second too. -/
theorem addMilliseconds?_back (backward : milliseconds ≤ 0)
    (defined : start.addMilliseconds? milliseconds = some finish) :
    finish.sinceEpoch = start.sinceEpoch + milliseconds * 1000000 ∧
      finish.seconds ≤ start.seconds ∧
      (finish.seconds < start.seconds → finish.nanos < 1000000000) := by
  have sum := stepParts_sum milliseconds
  have bounds := stepParts_bounds milliseconds
  have part := start.partOfSecond
  have backwards := stepParts_of_back backward
  by_cases leap : start.InLeapSecond
  · unfold InLeapSecond at leap
    unfold addMilliseconds? at defined
    split at defined
    · simp only [show ¬ start.nanos < 1000000000 by omega, if_false] at defined
      split at defined
      · omega
      · split at defined
        · have carried := carry_eq_some (by omega) (by omega) defined
          unfold sinceEpoch at carried ⊢
          omega
        · have parts := ofParts?_eq_some defined
          unfold sinceEpoch
          omega
    · cases defined
  · have moved := addMilliseconds?_ordinary leap defined
    unfold InLeapSecond at leap
    unfold sinceEpoch at moved ⊢
    omega

theorem before?_back (few : span.milliseconds < 9223372036854775808)
    (moved : now.before? span = some cutoff) :
    cutoff.sinceEpoch = now.sinceEpoch - span.milliseconds * 1000000 ∧
      cutoff.seconds ≤ now.seconds ∧
      (cutoff.seconds < now.seconds → cutoff.nanos < 1000000000) := by
  rw [before?_eq few] at moved
  have back := addMilliseconds?_back (by omega) moved
  rw [Int.neg_mul] at back
  exact back

/-- The readings from the cutoff on are those of the window. -/
theorem cutoff_le_iff (few : span.milliseconds < 9223372036854775808)
    (moved : now.before? span = some cutoff) :
    cutoff ≤ seen ↔ elapsed seen now ≤ span.truncated := by
  have back := before?_back few moved
  have seenPart := seen.partOfSecond
  have nowPart := now.partOfSecond
  rw [le_iff]
  unfold elapsed settled sinceEpoch Span.truncated
  unfold sinceEpoch at back
  split_ifs <;> omega

/-- The readings up to the cutoff lie at least the window back. -/
theorem le_elapsed (few : span.milliseconds < 9223372036854775808)
    (moved : now.before? span = some cutoff) (old : reading ≤ cutoff) :
    span.truncated ≤ elapsed reading now := by
  have back := before?_back few moved
  have part := reading.partOfSecond
  have nowPart := now.partOfSecond
  rw [le_iff] at old
  unfold elapsed settled sinceEpoch Span.truncated
  unfold sinceEpoch at back
  split_ifs <;> omega

theorem cutoff_anti {near far : Instant} (few : wider.milliseconds < 9223372036854775808)
    (ordered : narrower ≤ wider) (movedLess : now.before? narrower = some near)
    (movedMore : now.before? wider = some far) : far ≤ near := by
  have fewer : narrower.milliseconds ≤ wider.milliseconds := Nat.div_le_div_right ordered
  have within := (cutoff_le_iff (by omega) movedLess).mp (le_refl near)
  refine (cutoff_le_iff few movedMore).mpr ?_
  unfold Span.truncated at within ⊢
  omega

/-! ## Readings that are left out -/

def firstReading : Instant := ⟨firstSecond, 0, by decide, by decide⟩

/-- The last reading of the calendar, in a leap second. -/
def lastReading : Instant := ⟨lastSecond, 1999999999, by decide, by decide⟩

/-- If a step back comes to a cutoff from any reading, it does so from the last one. -/
theorem firstReading_lt_of_back (backward : milliseconds ≤ 0)
    (defined : now.addMilliseconds? milliseconds = some cutoff) :
    ∃ late, lastReading.addMilliseconds? milliseconds = some late ∧ firstReading < late := by
  have back := addMilliseconds?_back backward defined
  have sum := stepParts_sum milliseconds
  have bounds := stepParts_bounds milliseconds
  have backwards := stepParts_of_back backward
  have range := cutoff.inRange
  have nowRange := now.inRange
  have part := now.partOfSecond
  have first : firstReading.seconds = firstSecond ∧ firstReading.nanos = 0 := ⟨rfl, rfl⟩
  have last : lastReading.seconds = lastSecond ∧ lastReading.nanos = 1999999999 := ⟨rfl, rfl⟩
  unfold sinceEpoch at back
  have comes : lastReading.addMilliseconds? milliseconds ≠ none := by
    have small : -greatestStep ≤ milliseconds ∧ milliseconds ≤ greatestStep := by
      by_contra large
      rw [addMilliseconds?, if_neg large] at defined
      cases defined
    rw [firstSecond_eq, lastSecond_eq] at *
    unfold addMilliseconds?
    rw [if_pos small, last.1, last.2]
    dsimp only
    split
    · omega
    · split
      · exact carry_ne_none (by omega) (by omega) (by rw [firstSecond_eq]; omega)
          (by rw [lastSecond_eq]; omega)
      · split
        · exact carry_ne_none (by omega) (by omega) (by rw [firstSecond_eq]; omega)
            (by rw [lastSecond_eq]; omega)
        · exact ofParts?_ne_none (by rw [firstSecond_eq, lastSecond_eq]; omega) (by omega)
  rcases Option.ne_none_iff_exists'.mp comes with ⟨late, moved⟩
  refine ⟨late, moved, ?_⟩
  -- Whole milliseconds before the last nanosecond of one there is no start of a second.
  have lateBack := addMilliseconds?_back backward moved
  have lateRange := late.inRange
  unfold sinceEpoch at lateBack
  rw [lt_iff]
  omega

theorem lt_of_addMilliseconds? (forward : 0 < milliseconds)
    (defined : start.addMilliseconds? milliseconds = some finish) : start < finish := by
  rcases Int.eq_ofNat_of_zero_le (Int.le_of_lt forward) with ⟨count, rfl⟩
  exact @reading_lt start start finish 0 count start.addMilliseconds?_zero defined (by omega)

/-- A span that comes to a cutoff from some reading leaves a reading out from some reading,
however many high bits are lost. -/
theorem exists_lt_cutoff (moved : now.before? span = some cutoff) :
    ∃ seen now cutoff : Instant, now.before? span = some cutoff ∧ seen < cutoff := by
  have steps : ∀ reading : Instant, reading.before? span =
      reading.addMilliseconds? (-wrapMilliseconds span.milliseconds) := by
    intro reading
    refine if_neg fun least => ?_
    have none : now.before? span = none := if_pos least
    rw [none] at moved
    cases moved
  by_cases negative : wrapMilliseconds span.milliseconds < 0
  · have later := moved
    rw [steps] at later
    exact ⟨now, now, cutoff, moved, lt_of_addMilliseconds? (by omega) later⟩
  · rw [steps] at moved
    rcases firstReading_lt_of_back (by omega) moved with ⟨late, movedLate, leftOut⟩
    exact ⟨firstReading, lastReading, late, (steps lastReading).trans movedLate, leftOut⟩

end Instant

end BuildFleet
