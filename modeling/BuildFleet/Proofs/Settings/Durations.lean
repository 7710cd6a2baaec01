import BuildFleet.Settings.Duration
import BuildFleet.Proofs.Text.Blanks
import BuildFleet.Proofs.Time.Spans

/-!
# How durations are written

A text names a duration exactly if it consists of digits and at most one letter of a unit, with
blanks around them, and neither the number nor the seconds are too many for sixty-four bits.
The duration has as many seconds as the number times the unit says, so zeros in front of the
number make no difference.
-/

namespace BuildFleet

namespace Settings

variable {text other : String} {digits unit : List Char} {scale count : Nat} {span : Span}

/-- The units that durations are written with, and the seconds in each. -/
def units : List (List Char × Nat) :=
  [([], 1), (['s'], 1), (['m'], 60), (['h'], 3600), (['d'], 86400)]

/-- The text has digits and a unit of so many seconds, with blanks around them. -/
structure Spelled (text : String) (digits : List Char) (scale : Nat) : Prop where
  filled : digits ≠ []
  decimal : ∀ digit ∈ digits, '0' ≤ digit ∧ digit ≤ '9'
  shape : ∃ before unit after, text.toList = before ++ (digits ++ unit) ++ after ∧
    (unit, scale) ∈ units ∧
    (∀ character ∈ before, Text.isBlank character = true) ∧
    ∀ character ∈ after, Text.isBlank character = true

theorem unitSeconds?_eq_some_iff : unitSeconds? unit = some scale ↔ (unit, scale) ∈ units := by
  unfold unitSeconds? units
  split <;> simp_all [eq_comm]

theorem isDigit_iff {character : Char} :
    character.isDigit = true ↔ '0' ≤ character ∧ character ≤ '9' :=
  Bool.and_eq_true_iff.trans (and_congr decide_eq_true_iff decide_eq_true_iff)

theorem letters_of_unit : ∀ entry ∈ units, ∀ letter ∈ entry.1,
    Text.isBlank letter = false ∧ letter.isDigit = false := by
  simp [units]
  decide

/-- How a text without its blanks is read: as digits, as far as there are any, and a unit. -/
theorem parseDuration?_eq (trimmed : Text.trimEnd (Text.trimStart text.toList) = digits ++ unit)
    (number : (digits ++ unit).takeWhile Char.isDigit = digits) :
    parseDuration? text = (unitSeconds? unit).bind fun scale =>
      if digits ≠ [] ∧ Nat.ofDigitChars 10 digits 0 < 18446744073709551616 ∧
          Nat.ofDigitChars 10 digits 0 * scale < 18446744073709551616 then
        some (.ofSeconds (UInt64.ofNat (Nat.ofDigitChars 10 digits 0 * scale)))
      else none := by
  unfold parseDuration?
  simp only [trimmed, number, List.drop_left, decimalNumber, Text.foldl_digits]
  cases unitSeconds? unit with
  | none => rfl
  | some scale =>
      simp only [Option.bind_some, Bool.or_eq_true, List.isEmpty_iff, decide_eq_true_eq]
      grind

/-- A number and a unit name a duration unless they are too large. -/
theorem Spelled.parse (spelled : Spelled text digits scale) :
    parseDuration? text =
      if Nat.ofDigitChars 10 digits 0 < 18446744073709551616 ∧
          Nat.ofDigitChars 10 digits 0 * scale < 18446744073709551616 then
        some (.ofSeconds (UInt64.ofNat (Nat.ofDigitChars 10 digits 0 * scale)))
      else none := by
  rcases spelled with ⟨filled, decimal, before, unit, after, whole, named, blankBefore, blankAfter⟩
  have letters := letters_of_unit (unit, scale) named
  have areDigits : ∀ digit ∈ digits, digit.isDigit = true :=
    fun digit member => isDigit_iff.mpr (decimal digit member)
  have trimmed : Text.trimEnd (Text.trimStart text.toList) = digits ++ unit := by
    rw [whole]
    apply Text.trim_between blankBefore blankAfter (by simp [filled])
    intro character member
    rcases List.mem_append.mp member with inDigits | inUnit
    · exact Text.isBlank_of_isDigit (areDigits character inDigits)
    · exact (letters character inUnit).1
  have number : (digits ++ unit).takeWhile Char.isDigit = digits := by
    apply Text.takeWhile_digits areDigits
    cases unit with
    | nil => rfl
    | cons letter rest => simp [(letters letter List.mem_cons_self).2]
  rw [parseDuration?_eq trimmed number, unitSeconds?_eq_some_iff.mpr named]
  simp [filled]

/-- What names a duration has digits and a unit between blanks. -/
theorem exists_spelled (parsed : parseDuration? text = some span) :
    ∃ digits scale, Spelled text digits scale := by
  rcases Text.exists_blanks text.toList with ⟨before, after, whole, blankBefore, blankAfter⟩
  -- The digits are all that stand before the first other character, which begins the unit.
  generalize trimmed : Text.trimEnd (Text.trimStart text.toList) = core at whole
  have cut : core = core.takeWhile Char.isDigit ++ core.dropWhile Char.isDigit :=
    List.takeWhile_append_dropWhile.symm
  rw [parseDuration?_eq (trimmed.trans cut) (by rw [← cut])] at parsed
  rcases Option.bind_eq_some_iff.mp parsed with ⟨scale, named, fits⟩
  have filled := (Option.ite_none_right_eq_some.mp fits).1.1
  refine ⟨core.takeWhile Char.isDigit, scale, filled, ?_, before, core.dropWhile Char.isDigit,
    after, ?_, unitSeconds?_eq_some_iff.mp named, blankBefore, blankAfter⟩
  · exact fun digit member => isDigit_iff.mp (List.mem_takeWhile_imp member)
  · rw [← cut]
    exact whole

/-- The texts that name a duration, and the duration that they name. Zeros in front of the
number, other blanks and another way to write the unit make no difference. -/
theorem parses_iff_spelled (text : String) :
    (∀ span, parseDuration? text = some span ↔ ∃ digits scale, Spelled text digits scale ∧
      Nat.ofDigitChars 10 digits 0 < 18446744073709551616 ∧
      Nat.ofDigitChars 10 digits 0 * scale < 18446744073709551616 ∧
      span.nanoseconds = Nat.ofDigitChars 10 digits 0 * scale * 1000000000) ∧
    ∀ other digits scale count, Spelled text digits scale →
      Spelled other (List.replicate count '0' ++ digits) scale →
      parseDuration? other = parseDuration? text := by
  constructor
  · intro span
    constructor
    · intro parsed
      rcases exists_spelled parsed with ⟨digits, scale, spelled⟩
      rw [spelled.parse] at parsed
      rcases Option.ite_none_right_eq_some.mp parsed with ⟨⟨fewTens, few⟩, same⟩
      refine ⟨digits, scale, spelled, fewTens, few, ?_⟩
      rw [← Option.some.inj same, Span.nanoseconds_ofSeconds few]
    · rintro ⟨digits, scale, spelled, fewTens, few, long⟩
      rw [spelled.parse, if_pos ⟨fewTens, few⟩, Option.some.injEq]
      apply Span.ext_nanoseconds
      rw [long, Span.nanoseconds_ofSeconds few]
  · intro other digits scale count spelled padded
    rw [spelled.parse, padded.parse, Nat.ofDigitChars_append, Nat.ofDigitChars_replicate_zero,
      Nat.mul_zero]

/-- Seven minutes, and the same between blanks and with zeros in front. -/
theorem sample_zeros_in_front :
    Spelled "7m" ['7'] 60 ∧ Spelled "\u3000007m\n" (List.replicate 2 '0' ++ ['7']) 60 ∧
      parseDuration? "\u3000007m\n" = some (.ofSeconds 420) := by
  have short : Spelled "7m" ['7'] 60 :=
    ⟨by decide, by simp, [], ['m'], [], rfl, by decide, by simp, by simp⟩
  have padded : Spelled "\u3000007m\n" (List.replicate 2 '0' ++ ['7']) 60 :=
    ⟨by decide, by simp, ['\u3000'], ['m'], ['\n'], rfl, by decide,
      by simp [Text.isBlank], by simp [Text.isBlank]⟩
  have grammar := parses_iff_spelled "7m"
  have named : parseDuration? "7m" = some (.ofSeconds 420) :=
    (grammar.1 _).mpr ⟨['7'], 60, short, by decide, by decide, by decide⟩
  exact ⟨short, padded, (grammar.2 _ _ _ 2 short padded).trans named⟩

end Settings

end BuildFleet
