import BuildFleet.Text.Blank
import Mathlib.Data.List.DropRight

/-!
# Blanks and digits

What trimming leaves of a text has blanks around it in the text, and nothing else is cut off.
No digit is blank, digits in front of other characters can be told from what follows, and a
number is known by its digits.
-/

namespace BuildFleet

namespace Text

variable {text before core after digits rest : List Char} {number other : Nat}

/-! ## Trimming -/

theorem trimEnd_eq (text : List Char) : trimEnd text = text.rdropWhile isBlank := rfl

/-- Whatever stands between blanks and has none itself is left of a text. -/
theorem trim_between (blankBefore : ∀ character ∈ before, isBlank character = true)
    (blankAfter : ∀ character ∈ after, isBlank character = true)
    (filled : core ≠ []) (plain : ∀ character ∈ core, isBlank character = false) :
    trimEnd (trimStart (before ++ core ++ after)) = core := by
  have starts : trimStart (before ++ core ++ after) = core ++ after := by
    rw [trimStart, List.append_assoc, List.dropWhile_append_of_pos blankBefore]
    cases core with
    | nil => exact absurd rfl filled
    | cons first rest => simp [plain first]
  have ends : core.reverse.dropWhile isBlank = core.reverse := by
    cases reversed : core.reverse with
    | nil => rfl
    | cons last rest =>
        have member : last ∈ core := List.mem_reverse.mp (by simp [reversed])
        simp [plain last member]
  have blank : ∀ character ∈ after.reverse, isBlank character = true := by simpa using blankAfter
  rw [starts, trimEnd, List.reverse_append, List.dropWhile_append_of_pos blank, ends,
    List.reverse_reverse]

/-- A text is what is left of it, with blanks around. -/
theorem exists_blanks (text : List Char) : ∃ before after,
    text = before ++ trimEnd (trimStart text) ++ after ∧
      (∀ character ∈ before, isBlank character = true) ∧
      ∀ character ∈ after, isBlank character = true := by
  refine ⟨text.takeWhile isBlank, (trimStart text).rtakeWhile isBlank, ?_, ?_, ?_⟩
  · rw [trimEnd_eq, List.append_assoc, List.rdropWhile_append_rtakeWhile, trimStart,
      List.takeWhile_append_dropWhile]
  · exact fun character => List.mem_takeWhile_imp
  · exact fun character => List.mem_rtakeWhile_imp

/-! ## Digits -/

theorem isBlank_of_isDigit {digit : Char} (isDigit : digit.isDigit = true) :
    isBlank digit = false := by
  have range := Char.isDigit_iff_toNat.mp isDigit
  have zero : '0'.toNat = 48 := rfl
  have nine : '9'.toNat = 57 := rfl
  simp [isBlank]
  omega

theorem takeWhile_digits (isDigits : ∀ digit ∈ digits, digit.isDigit = true)
    (ends : rest.takeWhile Char.isDigit = []) :
    (digits ++ rest).takeWhile Char.isDigit = digits := by
  rw [List.takeWhile_append_of_pos isDigits, ends, List.append_nil]

theorem foldl_digits (digits : List Char) :
    digits.foldl (fun value digit => value * 10 + (digit.toNat - 48)) 0 =
      Nat.ofDigitChars 10 digits 0 := by
  simp [Nat.ofDigitChars_eq_foldl, Nat.mul_comm]

theorem isDigit_toDigits : ∀ digit ∈ Nat.toDigits 10 number, digit.isDigit = true :=
  fun _ member => Nat.isDigit_of_mem_toDigits (by decide) (by decide) member

theorem eq_of_toDigits (same : Nat.toDigits 10 number = Nat.toDigits 10 other) :
    number = other := by
  have numbers := congrArg (fun digits => Nat.ofDigitChars 10 digits 0) same
  simpa only [Nat.ofDigitChars_ten_toDigits] using numbers

end Text

end BuildFleet
