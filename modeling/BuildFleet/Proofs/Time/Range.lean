import BuildFleet.Proofs.Time.Order
import BuildFleet.Job.Basic

/-!
# Steps that stay in the calendar

From the years 1970 to 9999 a step stays in the calendar, whichever reading it starts
from, exactly if it is not too long. The limits are far below what sixty-four bits can
hold, so neither a cut at half of sixty-three bits nor the loss of high bits keeps a
length below them.
-/

namespace BuildFleet

namespace Instant

variable {reading : Instant} {milliseconds : Int} {span : Span}

/-- The first second after the year 9999. -/
def currentEnd : Int := Calendar.Date.dayNumber ⟨10000, 1, 1⟩ * 86400

/-- The reading lies in the years from 1970 to 9999. -/
def Current (reading : Instant) : Prop := 0 ≤ reading.seconds ∧ reading.seconds < currentEnd

instance (reading : Instant) : Decidable reading.Current := inferInstanceAs (Decidable (_ ∧ _))

/-- The most milliseconds from the end of the year 9999 to the end of the calendar. -/
def mostForward : Int := (lastSecond + 1 - currentEnd) * 1000

/-- The most milliseconds from the start of 1970 back to the start of the calendar. -/
def mostBackward : Int := -firstSecond * 1000

theorem lastSecond_eq : lastSecond = 8210266876799 := by decide

theorem currentEnd_eq : currentEnd = 253402300800 := by decide

theorem mostForward_eq : mostForward = 7956864576000000 := by decide

theorem firstSecond_eq : firstSecond = -8334601228800 := by decide

theorem mostBackward_eq : mostBackward = 8334601228800000 := by decide

theorem ofParts?_ne_none {seconds : Int} {nanos : Nat}
    (inRange : firstSecond ≤ seconds ∧ seconds ≤ lastSecond)
    (partOfSecond : nanos < 1000000000 ∨ (nanos < 2000000000 ∧ seconds % 60 = 59)) :
    ofParts? seconds nanos ≠ none := by
  rw [ofParts?, dif_pos inRange, dif_pos partOfSecond]
  exact nofun

/-- Parts whose sum lies in the calendar can be carried. -/
theorem carry_ne_none {seconds nanos : Int}
    (lower : -1000000000 ≤ nanos) (upper : nanos < 2000000000)
    (start : firstSecond * 1000000000 ≤ seconds * 1000000000 + nanos)
    (finish : seconds * 1000000000 + nanos < (lastSecond + 1) * 1000000000) :
    carry seconds nanos ≠ none := by
  unfold carry
  split
  · exact ofParts?_ne_none (by omega) (by omega)
  · split
    · exact ofParts?_ne_none (by omega) (by omega)
    · exact ofParts?_ne_none (by omega) (by omega)

theorem addMilliseconds?_ne_none (current : reading.Current) (back : -mostBackward ≤ milliseconds)
    (forward : milliseconds ≤ mostForward) : reading.addMilliseconds? milliseconds ≠ none := by
  have sum := stepParts_sum milliseconds
  have bounds := stepParts_bounds milliseconds
  have part := reading.partOfSecond
  rw [Current, currentEnd_eq] at current
  rw [mostBackward_eq] at back
  rw [mostForward_eq] at forward
  unfold addMilliseconds?
  rw [if_pos (by unfold greatestStep; omega)]
  have first := firstSecond_eq
  have last := lastSecond_eq
  dsimp only
  split
  · exact carry_ne_none (by omega) (by omega) (by omega) (by omega)
  · split
    · exact carry_ne_none (by omega) (by omega) (by omega) (by omega)
    · split
      · exact carry_ne_none (by omega) (by omega) (by omega) (by omega)
      · exact ofParts?_ne_none (by omega) (by omega)

/-- The earliest and the last reading are the worst ones. -/
theorem addMilliseconds?_current_iff (milliseconds : Int) :
    (∀ reading : Instant, reading.Current → reading.addMilliseconds? milliseconds ≠ none) ↔
      -mostBackward ≤ milliseconds ∧ milliseconds ≤ mostForward := by
  constructor
  · intro stays
    let last : Instant := ⟨currentEnd - 1, 999999999, by decide, by decide⟩
    rcases Option.ne_none_iff_exists'.mp (stays epoch (by decide)) with ⟨early, stepsBack⟩
    rcases Option.ne_none_iff_exists'.mp (stays last (by decide)) with ⟨late, stepsOn⟩
    have fromEpoch := addMilliseconds?_ordinary (by decide) stepsBack
    have fromLast := addMilliseconds?_ordinary (by decide) stepsOn
    have earlyRange := early.inRange
    have lateRange := late.inRange
    have start : epoch.seconds = 0 ∧ epoch.nanos = 0 := ⟨rfl, rfl⟩
    have finish : last.seconds = currentEnd - 1 ∧ last.nanos = 999999999 := ⟨rfl, rfl⟩
    unfold sinceEpoch at fromEpoch fromLast
    rw [firstSecond_eq, lastSecond_eq] at earlyRange lateRange
    rw [currentEnd_eq] at finish
    rw [mostBackward_eq, mostForward_eq]
    omega
  · rintro ⟨back, forward⟩ reading current
    exact addMilliseconds?_ne_none current back forward

/-- A step back by a span loses the high bits of its milliseconds. -/
theorem before?_current_iff (span : Span) :
    (∀ reading : Instant, reading.Current → reading.before? span ≠ none) ↔
      -mostForward ≤ wrapMilliseconds span.milliseconds ∧
        wrapMilliseconds span.milliseconds ≤ mostBackward := by
  unfold before?
  by_cases unmoved : wrapMilliseconds span.milliseconds = -greatestStep - 1
  · have outside : ¬ -mostForward ≤ wrapMilliseconds span.milliseconds := by
      rw [unmoved, mostForward_eq, greatestStep]
      omega
    simp only [unmoved, if_true]
    exact ⟨fun stays => absurd rfl (stays epoch (by decide)),
      fun within => absurd (unmoved ▸ within.1) (unmoved ▸ outside)⟩
  · simp only [if_neg unmoved]
    rw [addMilliseconds?_current_iff]
    omega

end Instant

/-- The length that is put in the place of an overlong lease is itself too long. -/
theorem Job.leaseMilliseconds_current_iff (lease : Span) :
    (∀ reading : Instant, reading.Current →
        reading.addMilliseconds? (leaseMilliseconds lease) ≠ none) ↔
      (lease.milliseconds : Int) ≤ Instant.mostForward := by
  rw [Instant.addMilliseconds?_current_iff, Instant.mostBackward_eq, Instant.mostForward_eq]
  unfold leaseMilliseconds
  split <;> omega

end BuildFleet
