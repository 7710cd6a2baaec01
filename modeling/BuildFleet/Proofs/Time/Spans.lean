import BuildFleet.Time.Span

/-!
# Lengths of spans

A span is known by its nanoseconds, and any other than the empty one is longer. What can be
done to spans is told by them: doubling, which fails exactly where twice the length is no span
any more, and the choice of the shorter one.
-/

namespace BuildFleet

namespace Span

variable {span doubled left right : Span} {count : Nat}

theorem ext_nanoseconds (same : left.nanoseconds = right.nanoseconds) : left = right := by
  cases left
  cases right
  cases same
  rfl

theorem zero_lt_iff : zero < span ↔ span ≠ zero := by
  constructor
  · rintro positive rfl
    exact Nat.lt_irrefl _ positive
  · intro nonzero
    apply Nat.pos_of_ne_zero
    intro same
    exact nonzero (ext_nanoseconds same)

theorem nanoseconds_ofSeconds (few : count < 18446744073709551616) :
    (ofSeconds (UInt64.ofNat count)).nanoseconds = count * 1000000000 := by
  simp [ofSeconds, Nat.mod_eq_of_lt few]

/-- As many seconds as sixty-four bits can count, and all nanoseconds short of one more. -/
def longest : Span := ⟨18446744073709551615 * 1000000000 + 999999999, by decide⟩

theorem twice?_eq_some_iff :
    span.twice? = some doubled ↔ doubled.nanoseconds = 2 * span.nanoseconds := by
  have inRange := doubled.inRange
  unfold twice? ofNanoseconds?
  constructor
  · intro fits
    split at fits
    · cases fits
      simp only
      omega
    · cases fits
  · intro same
    have fits : span.nanoseconds * 2 < spanLimit := by omega
    simp only [fits, dite_true, Option.some.injEq]
    apply ext_nanoseconds
    simp only
    omega

theorem twice?_eq_none_iff :
    span.twice? = none ↔ longest.nanoseconds < 2 * span.nanoseconds := by
  have last : longest.nanoseconds + 1 = spanLimit := rfl
  unfold twice? ofNanoseconds?
  split <;> simp <;> omega

theorem nanoseconds_shorter (left right : Span) :
    (left.shorter right).nanoseconds = min left.nanoseconds right.nanoseconds := by
  by_cases before : left ≤ right
  · rw [shorter, if_pos before]
    exact (Nat.min_eq_left before).symm
  · rw [shorter, if_neg before]
    exact (Nat.min_eq_right (Nat.le_of_not_le before)).symm

end Span

end BuildFleet
