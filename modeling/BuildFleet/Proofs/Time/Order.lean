import BuildFleet.Time.Instant
import Mathlib.Order.Defs.LinearOrder

/-!
# The order of instants

Instants are ordered by their second, then by the part of it. From an ordinary
second a step of some milliseconds adds exactly its nanoseconds, so later
starts of one step have later ends. A leap second repeats the count of the
second before it: a step that starts there can end before the same step from
the ordinary second ends.
-/

namespace BuildFleet

namespace Instant

theorem le_iff {left right : Instant} : left ≤ right ↔
    left.seconds < right.seconds ∨ (left.seconds = right.seconds ∧ left.nanos ≤ right.nanos) :=
  Iff.rfl

theorem lt_iff {left right : Instant} : left < right ↔
    left.seconds < right.seconds ∨ (left.seconds = right.seconds ∧ left.nanos < right.nanos) :=
  Iff.rfl

theorem eq_of_parts {left right : Instant} (seconds : left.seconds = right.seconds)
    (nanos : left.nanos = right.nanos) : left = right := by
  cases left
  cases right
  cases seconds
  cases nanos
  rfl

instance : LinearOrder Instant where
  le_refl instant := by
    rw [le_iff]
    omega
  le_trans first second third := by
    simp only [le_iff]
    omega
  lt_iff_le_not_ge left right := by
    simp only [le_iff, lt_iff]
    omega
  le_antisymm left right leftLe rightLe := by
    rw [le_iff] at leftLe rightLe
    exact eq_of_parts (by omega) (by omega)
  le_total left right := by
    simp only [le_iff]
    omega
  toDecidableLE := inferInstance
  toDecidableLT := inferInstance
  toDecidableEq := inferInstance

/-! ## Steps of milliseconds -/

/-- Nanoseconds since the start of 1970. Those of a leap second run into the
second after it. -/
def sinceEpoch (instant : Instant) : Int := instant.seconds * 1000000000 + instant.nanos

def InLeapSecond (instant : Instant) : Prop := 1000000000 ≤ instant.nanos

instance (instant : Instant) : Decidable instant.InLeapSecond :=
  inferInstanceAs (Decidable (1000000000 ≤ instant.nanos))

theorem ofParts?_eq_some {seconds : Int} {nanos : Nat} {instant : Instant}
    (defined : ofParts? seconds nanos = some instant) :
    instant.seconds = seconds ∧ instant.nanos = nanos := by
  unfold ofParts? at defined
  split at defined
  · split at defined
    · cases defined
      exact ⟨rfl, rfl⟩
    · cases defined
  · cases defined

/-- Carrying brings the parts into an ordinary second and keeps their sum. -/
theorem carry_eq_some {seconds nanos : Int} {instant : Instant}
    (lower : -1000000000 ≤ nanos) (upper : nanos < 2000000000)
    (defined : carry seconds nanos = some instant) :
    instant.nanos < 1000000000 ∧
      instant.sinceEpoch = seconds * 1000000000 + nanos := by
  unfold sinceEpoch
  unfold carry at defined
  split at defined
  · have parts := ofParts?_eq_some defined
    omega
  · split at defined
    · have parts := ofParts?_eq_some defined
      omega
    · have parts := ofParts?_eq_some defined
      omega

theorem stepParts_sum (milliseconds : Int) :
    (stepParts milliseconds).1 * 1000000000 + (stepParts milliseconds).2 =
      milliseconds * 1000000 := by
  have division := Int.mul_tdiv_add_tmod milliseconds 1000
  simp only [stepParts]
  omega

theorem stepParts_bounds (milliseconds : Int) :
    -1000000000 < (stepParts milliseconds).2 ∧ (stepParts milliseconds).2 < 1000000000 := by
  have upper := Int.tmod_lt_of_pos milliseconds (show (0 : Int) < 1000 by decide)
  have lower := Int.lt_tmod_of_pos milliseconds (show (0 : Int) < 1000 by decide)
  simp only [stepParts]
  omega

theorem stepParts_nonneg {milliseconds : Int} (nonneg : 0 ≤ milliseconds) :
    0 ≤ (stepParts milliseconds).1 ∧ 0 ≤ (stepParts milliseconds).2 := by
  have quotient := Int.tdiv_nonneg nonneg (show (0 : Int) ≤ 1000 by decide)
  have remainder := Int.tmod_nonneg 1000 nonneg
  simp only [stepParts]
  omega

/-- From an ordinary second a step adds its nanoseconds. -/
theorem addMilliseconds?_ordinary {start finish : Instant} {milliseconds : Int}
    (ordinary : ¬ start.InLeapSecond)
    (defined : start.addMilliseconds? milliseconds = some finish) :
    finish.nanos < 1000000000 ∧
      finish.sinceEpoch = start.sinceEpoch + milliseconds * 1000000 := by
  have sum := stepParts_sum milliseconds
  have bounds := stepParts_bounds milliseconds
  unfold InLeapSecond at ordinary
  unfold addMilliseconds? at defined
  split at defined
  · simp only [show start.nanos < 1000000000 by omega, if_true] at defined
    have carried := carry_eq_some (by omega) (by omega) defined
    refine ⟨carried.1, ?_⟩
    rw [carried.2]
    unfold sinceEpoch
    omega
  · cases defined

/-- A step forward from a leap second stays in it, or counts it as the ordinary
second before it. -/
theorem addMilliseconds?_leap {start finish : Instant} {milliseconds : Int}
    (leap : start.InLeapSecond) (nonneg : 0 ≤ milliseconds)
    (defined : start.addMilliseconds? milliseconds = some finish) :
    finish.seconds = start.seconds ∨
      (finish.nanos < 1000000000 ∧
        finish.sinceEpoch = start.sinceEpoch - 1000000000 + milliseconds * 1000000) := by
  have sum := stepParts_sum milliseconds
  have bounds := stepParts_bounds milliseconds
  have forward := stepParts_nonneg nonneg
  have part := start.partOfSecond
  unfold InLeapSecond at leap
  unfold addMilliseconds? at defined
  split at defined
  · simp only [show ¬ start.nanos < 1000000000 by omega, if_false] at defined
    split at defined
    · have carried := carry_eq_some (by omega) (by omega) defined
      refine .inr ⟨carried.1, ?_⟩
      rw [carried.2]
      unfold sinceEpoch
      omega
    · simp only [show ¬ (stepParts milliseconds).1 < 0 by omega, if_false] at defined
      exact .inl (ofParts?_eq_some defined).1
  · cases defined

/-- A step forward keeps the order of its starts, if the later one lies in an
ordinary second. -/
theorem addMilliseconds?_mono {earlier later left right : Instant} {milliseconds : Int}
    (ordered : earlier ≤ later) (ordinary : ¬ later.InLeapSecond) (nonneg : 0 ≤ milliseconds)
    (leftDefined : earlier.addMilliseconds? milliseconds = some left)
    (rightDefined : later.addMilliseconds? milliseconds = some right) : left ≤ right := by
  have rightSum := addMilliseconds?_ordinary ordinary rightDefined
  rw [le_iff] at ordered ⊢
  unfold InLeapSecond at ordinary
  unfold sinceEpoch at rightSum
  by_cases leap : earlier.InLeapSecond
  · have laterSecond : earlier.seconds < later.seconds := by
      unfold InLeapSecond at leap
      omega
    have leftParts := addMilliseconds?_leap leap nonneg leftDefined
    have part := earlier.partOfSecond
    unfold sinceEpoch at leftParts
    omega
  · have leftSum := addMilliseconds?_ordinary leap leftDefined
    unfold InLeapSecond at leap
    unfold sinceEpoch at leftSum
    omega

theorem stepParts_nonpos {milliseconds : Int} (backward : milliseconds < 0) :
    (stepParts milliseconds).1 ≤ 0 ∧ (stepParts milliseconds).2 ≤ 0 := by
  have quotient := Int.tdiv_nonneg (show 0 ≤ -milliseconds by omega)
    (show (0 : Int) ≤ 1000 by decide)
  have remainder := Int.tmod_nonneg 1000 (show 0 ≤ -milliseconds by omega)
  rw [Int.neg_tdiv] at quotient
  rw [Int.neg_tmod] at remainder
  simp only [stepParts]
  omega

/-- A step back goes back, out of a leap second too. -/
theorem addMilliseconds?_lt {start finish : Instant} {milliseconds : Int}
    (backward : milliseconds < 0)
    (defined : start.addMilliseconds? milliseconds = some finish) : finish < start := by
  have sum := stepParts_sum milliseconds
  have bounds := stepParts_bounds milliseconds
  have backwards := stepParts_nonpos backward
  rw [lt_iff]
  by_cases leap : start.InLeapSecond
  · have part := start.partOfSecond
    unfold InLeapSecond at leap
    unfold addMilliseconds? at defined
    split at defined
    · simp only [show ¬ start.nanos < 1000000000 by omega, if_false] at defined
      split at defined
      · omega
      · split at defined
        · have carried := carry_eq_some (by omega) (by omega) defined
          unfold sinceEpoch at carried
          omega
        · have parts := ofParts?_eq_some defined
          omega
    · cases defined
  · have moved := addMilliseconds?_ordinary leap defined
    unfold InLeapSecond at leap
    unfold sinceEpoch at moved
    omega

/-- A span of few milliseconds loses no high bits. -/
theorem wrapMilliseconds_eq {milliseconds : Nat} (few : milliseconds < 9223372036854775808) :
    wrapMilliseconds milliseconds = milliseconds := by
  have low : milliseconds % 18446744073709551616 = milliseconds := Nat.mod_eq_of_lt (by omega)
  unfold wrapMilliseconds
  rw [low]
  exact if_pos few

theorem before?_eq {instant : Instant} {span : Span}
    (most : span.milliseconds < 9223372036854775808) :
    instant.before? span = instant.addMilliseconds? (-span.milliseconds) := by
  unfold before? greatestStep
  rw [wrapMilliseconds_eq most]
  exact if_neg (by omega)

/-- A span of a millisecond or more leads back. -/
theorem before?_lt {instant cutoff : Instant} {span : Span} (least : 1 ≤ span.milliseconds)
    (most : span.milliseconds < 9223372036854775808)
    (defined : instant.before? span = some cutoff) : cutoff < instant := by
  rw [before?_eq most] at defined
  exact addMilliseconds?_lt (by omega) defined

/-! ## The later of two instants -/

theorem later_eq_right {left right : Instant} (ordered : left ≤ right) :
    left.later right = right := if_pos ordered

theorem later_eq_left {left right : Instant} (ordered : right ≤ left) :
    left.later right = left := by
  unfold later
  split
  · rename_i reversed
    exact le_antisymm ordered reversed
  · rfl

theorem le_later (left right : Instant) : left ≤ left.later right ∧ right ≤ left.later right := by
  rcases le_total left right with ordered | ordered
  · rw [later_eq_right ordered]
    exact ⟨ordered, le_refl right⟩
  · rw [later_eq_left ordered]
    exact ⟨le_refl left, ordered⟩

end Instant

end BuildFleet
