import BuildFleet.Proofs.Text.Blanks
import BuildFleet.Proofs.Time.Civil
import BuildFleet.Time.Rfc3339

/-!
# Instants survive writing and reading

Whatever is written for an instant names that instant again: a year within four digits
or with its sign, each part of the date and of the time with its two digits, as much of
the fraction as is not zero, and a leap second as the sixtieth.
-/

namespace BuildFleet.Instant

open Text (foldl_digits isBlank_of_isDigit isDigit_toDigits takeWhile_digits)

variable {digits rest : List Char} {width value : Nat}

/-! ## Numbers -/

/-- Digits that nothing continues are read as their number. -/
theorem leadingNumber_digits {width : Option Nat} (given : digits ≠ [])
    (isDigits : ∀ digit ∈ digits, digit.isDigit = true)
    (ends : rest.takeWhile Char.isDigit = [])
    (fits : ∀ most ∈ width, digits.length ≤ most) :
    leadingNumber width (digits ++ rest) = some (Nat.ofDigitChars 10 digits 0, rest) := by
  have nonempty : digits.isEmpty = false := List.isEmpty_eq_false_iff.mpr given
  cases width with
  | none => simp [leadingNumber, takeWhile_digits isDigits ends, nonempty, foldl_digits]
  | some most =>
      have kept : digits.take most = digits := List.take_of_length_le (fits most rfl)
      simp [leadingNumber, takeWhile_digits isDigits ends, kept, nonempty, foldl_digits]

theorem padded_digits (width value : Nat) : (padded width value).toList =
    List.replicate (width - (Nat.toDigits 10 value).length) '0' ++ Nat.toDigits 10 value := by
  simp [padded, String.length]

theorem isDigit_padded : ∀ digit ∈ (padded width value).toList, digit.isDigit = true := by
  intro digit member
  rw [padded_digits] at member
  rcases List.mem_append.mp member with zero | other
  · rw [List.eq_of_mem_replicate zero]
    decide
  · exact isDigit_toDigits digit other

theorem padded_ne_nil : (padded width value).toList ≠ [] := by
  simp [padded_digits]

theorem ofDigitChars_padded : Nat.ofDigitChars 10 (padded width value).toList 0 = value := by
  rw [padded_digits, Nat.ofDigitChars_append]
  simp

theorem length_padded (positive : 0 < width) (few : value < 10 ^ width) :
    (padded width value).toList.length = width := by
  have length := (Nat.length_toDigits_le_iff (by decide) positive).mpr few
  rw [padded_digits, List.length_append, List.length_replicate]
  omega

theorem trimStart_cons {first : Char} (shown : Text.isBlank first = false) :
    Text.trimStart (first :: rest) = first :: rest := by
  rw [Text.trimStart, List.dropWhile_cons_of_neg (by simp [shown])]

theorem trimStart_digits (given : digits ≠ [])
    (isDigits : ∀ digit ∈ digits, digit.isDigit = true) :
    Text.trimStart (digits ++ rest) = digits ++ rest := by
  cases digits with
  | nil => exact absurd rfl given
  | cons first others =>
      exact trimStart_cons (isBlank_of_isDigit (isDigits first List.mem_cons_self))

/-! ## The parts of a text -/

theorem smallNumber_padded (few : value < 100) (ends : rest.takeWhile Char.isDigit = []) :
    smallNumber ((padded 2 value).toList ++ rest) = some (value, rest) := by
  have length : (padded 2 value).toList.length = 2 := length_padded (by decide) few
  rw [smallNumber, trimStart_digits padded_ne_nil isDigit_padded,
    leadingNumber_digits padded_ne_nil isDigit_padded ends, ofDigitChars_padded]
  rintro most ⟨⟩
  omega

theorem afterMark_cons {mark : Char} (shown : Text.isBlank mark = false) :
    afterMark mark (mark :: rest) = some rest := by
  rw [afterMark, trimStart_cons shown]
  exact if_pos rfl

/-- A year without a sign has four digits at most. -/
theorem readYear_digits (given : digits ≠ []) (isDigits : ∀ digit ∈ digits, digit.isDigit = true)
    (ends : rest.takeWhile Char.isDigit = []) (few : digits.length ≤ 4) :
    readYear (digits ++ rest) = some ((Nat.ofDigitChars 10 digits 0 : Int), rest) := by
  have number : leadingNumber (some 4) (digits ++ rest) =
      some (Nat.ofDigitChars 10 digits 0, rest) := by
    apply leadingNumber_digits given isDigits ends
    rintro most ⟨⟩
    exact few
  have unsigned : ∀ sign others, digits ++ rest = sign :: others → sign.isDigit = true := by
    intro sign others same
    cases digits with
    | nil => exact absurd rfl given
    | cons first more =>
        cases same
        exact isDigits _ List.mem_cons_self
  unfold readYear
  rw [trimStart_digits given isDigits]
  split
  · rename_i same
    exact absurd (unsigned _ _ same) (by decide)
  · rename_i same
    exact absurd (unsigned _ _ same) (by decide)
  · rw [number]
    rfl

theorem readYear_yearText (year : Int) (ends : rest.takeWhile Char.isDigit = []) :
    readYear ((yearText year).toList ++ rest) = some (year, rest) := by
  have number : leadingNumber none ((padded 4 year.natAbs).toList ++ rest) =
      some (year.natAbs, rest) := by
    rw [leadingNumber_digits padded_ne_nil isDigit_padded ends (fun _ none => by cases none),
      ofDigitChars_padded]
  have minus : readYear ('-' :: ((padded 4 year.natAbs).toList ++ rest)) =
      some (-(year.natAbs : Int), rest) := by
    rw [readYear, trimStart_cons (by decide)]
    simp only [number, Option.map_some]
  have plus : readYear ('+' :: ((padded 4 year.natAbs).toList ++ rest)) =
      some ((year.natAbs : Int), rest) := by
    rw [readYear, trimStart_cons (by decide)]
    simp only [number, Option.map_some]
  unfold yearText
  split
  · have few : year.toNat < 10 ^ 4 := by omega
    have length : (padded 4 year.toNat).toList.length = 4 := length_padded (by decide) few
    rw [readYear_digits padded_ne_nil isDigit_padded ends (by omega), ofDigitChars_padded]
    simp
    omega
  · have sign : ∀ sign : Char, (String.singleton sign ++ padded 4 year.natAbs).toList ++ rest =
        sign :: ((padded 4 year.natAbs).toList ++ rest) := by
      intro sign
      simp [String.toList_append]
    by_cases before : year < 0
    · rw [if_pos before]
      refine (congrArg readYear (sign '-')).trans (minus.trans ?_)
      rw [show -(year.natAbs : Int) = year by omega]
    · rw [if_neg before]
      refine (congrArg readYear (sign '+')).trans (plus.trans ?_)
      rw [show (year.natAbs : Int) = year by omega]

theorem readFraction_digits (given : digits ≠ [])
    (isDigits : ∀ digit ∈ digits, digit.isDigit = true)
    (ends : rest.takeWhile Char.isDigit = []) (few : digits.length ≤ 9) :
    readFraction (digits ++ rest) =
      some (Nat.ofDigitChars 10 digits 0 * 10 ^ (9 - digits.length), rest) := by
  have nonempty : digits.isEmpty = false := List.isEmpty_eq_false_iff.mpr given
  have kept : digits.take 9 = digits := List.take_of_length_le few
  simp [readFraction, takeWhile_digits isDigits ends, kept, nonempty, foldl_digits]

/-- A fraction is left out if it is zero, and otherwise read as what it was. -/
theorem fractionText_cases (nanos : Nat) (part : nanos < 1000000000)
    (ends : rest.takeWhile Char.isDigit = []) :
    (nanos = 0 ∧ (fractionText nanos).toList = []) ∨
      ∃ digits, (fractionText nanos).toList = '.' :: digits ∧
        readFraction (digits ++ rest) = some (nanos, rest) := by
  have read : ∀ {width value}, 0 < width → width ≤ 9 → value < 10 ^ width →
      nanos = value * 10 ^ (9 - width) →
        readFraction ((padded width value).toList ++ rest) = some (nanos, rest) := by
    intro width value positive most few whole
    have length := length_padded positive few
    rw [readFraction_digits padded_ne_nil isDigit_padded ends (length.trans_le most),
      ofDigitChars_padded, length, whole]
  have dot : ∀ text : String, ("." ++ text).toList = '.' :: text.toList := by
    intro text
    simp [String.toList_append]
  unfold fractionText
  split
  · exact .inl ⟨‹_›, rfl⟩
  · refine .inr ?_
    split
    · refine ⟨_, dot _, read (by decide) (by decide) ?_ ?_⟩
      · show nanos / 1000000 < 1000
        omega
      · show nanos = nanos / 1000000 * 1000000
        omega
    · split
      · refine ⟨_, dot _, read (by decide) (by decide) ?_ ?_⟩
        · show nanos / 1000 < 1000000
          omega
        · show nanos = nanos / 1000 * 1000
          omega
      · refine ⟨_, dot _, read (by decide) (by decide) ?_ ?_⟩
        · exact part
        · exact (Nat.mul_one nanos).symm

/-! ## The whole text -/

/-- The characters that are written for a date and a time. -/
def characters (date : Calendar.Date) (hour minute second nanos : Nat) : List Char :=
  (yearText date.year).toList ++ '-' :: ((padded 2 date.month).toList ++
    '-' :: ((padded 2 date.day).toList ++ 'T' :: ((padded 2 hour).toList ++
      ':' :: ((padded 2 minute).toList ++ ':' :: ((padded 2 second).toList ++
        ((fractionText nanos).toList ++ ['Z']))))))

theorem toList_text (instant : Instant) : instant.text.toList =
    characters (Calendar.Date.ofDayNumber (instant.seconds / 86400))
      ((instant.seconds % 86400).toNat / 3600) ((instant.seconds % 86400).toNat / 60 % 60)
      ((instant.seconds % 86400).toNat % 60 + instant.nanos / 1000000000)
      (instant.nanos % 1000000000) := by
  simp [text, characters, String.toList_append]

theorem then_read {α β : Type} {first : Option α} {next : α → Option β} {value : α}
    {result : Option β} (read : first = some value) (rest : next value = result) :
    (first >>= next) = result := by
  rw [read]
  exact rest

theorem ofText?_of_characters {text : String} {date : Calendar.Date}
    {hour minute second nanos : Nat}
    (written : text.toList = characters date hour minute second nanos)
    (valid : date.valid = true) (hours : hour ≤ 23) (minutes : minute ≤ 59)
    (seconds : second ≤ 60) (part : nanos < 1000000000)
    (inRange : ofParts? (date.dayNumber * 86400 + ((hour * 3600 + minute * 60 +
      (if second = 60 then 59 else second) : Nat) : Int)) 0 ≠ none) :
    ofText? text = ofParts? (date.dayNumber * 86400 + ((hour * 3600 + minute * 60 +
      (if second = 60 then 59 else second) : Nat) : Int))
      (if second = 60 then nanos + 1000000000 else nanos) := by
  have month : date.month < 100 := by
    simp [Calendar.Date.valid] at valid
    omega
  have day : date.day < 100 := by
    simp only [Calendar.Date.valid, Bool.and_eq_true, decide_eq_true_eq] at valid
    have most : Calendar.daysInMonth date.year date.month ≤ 31 := by
      unfold Calendar.daysInMonth
      split
      · split <;> decide
      · split <;> decide
    omega
  unfold ofText?
  rw [written, characters]
  refine then_read (readYear_yearText _ rfl) ?_
  refine then_read (afterMark_cons (by decide)) ?_
  refine then_read (smallNumber_padded month rfl) ?_
  refine then_read (afterMark_cons (by decide)) ?_
  refine then_read (smallNumber_padded day rfl) ?_
  refine then_read rfl ?_
  refine then_read (smallNumber_padded (by omega) rfl) ?_
  refine then_read (afterMark_cons (by decide)) ?_
  refine then_read (smallNumber_padded (by omega) rfl) ?_
  refine then_read (afterMark_cons (by decide)) ?_
  have offset : readOffset (Text.trimStart ['Z']) = some (0, []) := by decide
  rcases Option.ne_none_iff_exists'.mp inRange with ⟨first, reached⟩
  have ends : ['Z'].takeWhile Char.isDigit = [] := rfl
  rcases fractionText_cases nanos part ends with ⟨rfl, empty⟩ | ⟨digits, dotted, read⟩
  on_goal 1 =>
    rw [empty]
    refine then_read (smallNumber_padded (by omega) rfl) ?_
    refine then_read rfl ?_
  on_goal 2 =>
    rw [dotted]
    refine then_read (smallNumber_padded (by omega) rfl) ?_
    refine then_read read ?_
  all_goals
    refine then_read offset ?_
    refine (if_neg (not_not.mpr rfl)).trans ?_
    refine (if_neg (not_not.mpr valid)).trans ?_
    refine (if_neg (by omega)).trans ?_
    refine (if_neg (by decide)).trans ?_
    refine then_read reached ?_
    rw [Int.sub_zero]

theorem ofParts?_self (instant : Instant) :
    ofParts? instant.seconds instant.nanos = some instant := by
  rw [ofParts?, dif_pos instant.inRange, dif_pos instant.partOfSecond]

/-- What is written for an instant names it. -/
theorem ofText?_text (instant : Instant) : ofText? instant.text = some instant := by
  have inRange : ofParts? instant.seconds 0 ≠ none := by
    rw [ofParts?, dif_pos instant.inRange, dif_pos (.inl (by decide))]
    exact Option.some_ne_none _
  have day : (Calendar.Date.ofDayNumber (instant.seconds / 86400)).dayNumber * 86400 =
      instant.seconds - instant.seconds % 86400 := by
    rw [Calendar.dayNumber_ofDayNumber]
    omega
  obtain ⟨second, isSecond⟩ : ∃ second : Nat, instant.seconds % 86400 = second :=
    ⟨(instant.seconds % 86400).toNat, by omega⟩
  have part := instant.partOfSecond
  have secondOfDay : second / 3600 * 3600 + second / 60 % 60 * 60 +
      (if second % 60 + instant.nanos / 1000000000 = 60 then 59
        else second % 60 + instant.nanos / 1000000000) = second := by
    split <;> omega
  have nanos : (if second % 60 + instant.nanos / 1000000000 = 60
      then instant.nanos % 1000000000 + 1000000000 else instant.nanos % 1000000000) =
        instant.nanos := by
    split <;> omega
  have written := toList_text instant
  rw [isSecond, Int.toNat_natCast] at written
  rw [ofText?_of_characters written (Calendar.valid_ofDayNumber _) (by omega) (by omega) (by omega)
    (by omega), secondOfDay, nanos, day, isSecond, Int.sub_add_cancel, ofParts?_self]
  rw [secondOfDay, day, isSecond, Int.sub_add_cancel]
  exact inRange

end BuildFleet.Instant
