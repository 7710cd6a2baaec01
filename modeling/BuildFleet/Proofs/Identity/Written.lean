import BuildFleet.Identity.Basic
import Mathlib.Algebra.Group.Nat.Defs

/-!
# Identifiers survive writing and reading

The digits that are written for a number are read as that number, so an identifier is
found again by its text.
-/

namespace BuildFleet

namespace Text

theorem hexValue?_hexDigit {value : Nat} (few : value < 16) :
    hexValue? (hexDigit value) = some value := by
  revert value
  decide

theorem length_hexDigits (count value : Nat) : (hexDigits count value).length = count := by
  induction count generalizing value with
  | zero => rfl
  | succ count induction => rw [hexDigits, List.length_append, induction, List.length_singleton]

end Text

namespace JobId

theorem readDigits_hexDigits (count value : Nat) :
    readDigits (Text.hexDigits count value) = some (value % 16 ^ count) := by
  induction count generalizing value with
  | zero => simp [readDigits, Text.hexDigits, Nat.mod_one]
  | succ count induction =>
      have last := Text.hexValue?_hexDigit (Nat.mod_lt value (by decide : 0 < 16))
      have before := induction (value / 16)
      unfold readDigits at before ⊢
      rw [Text.hexDigits, List.foldlM_append, before]
      simp [last]
      rw [Nat.pow_succ', Nat.mod_mul, Nat.mul_comm, Nat.add_comm]

theorem ofDigits?_hexDigits (id : JobId) : ofDigits? (Text.hexDigits 32 id.number) = some id := by
  have few : id.number < 16 ^ 32 := id.value.isLt
  rw [ofDigits?, if_pos (Text.length_hexDigits 32 _), readDigits_hexDigits, Nat.mod_eq_of_lt few]
  simp [ofNat, number]

/-- Digits between which the marks stand are found again. -/
theorem ofGroups?_marked {first second third fourth fifth : List Char} (eight : first.length = 8)
    (four : second.length = 4) (four' : third.length = 4) (four'' : fourth.length = 4)
    (twelve : fifth.length = 12) :
    ofGroups? (first ++ '-' :: second ++ '-' :: third ++ '-' :: fourth ++ '-' :: fifth) =
      ofDigits? (first ++ second ++ third ++ fourth ++ fifth) := by
  have noMore : ∀ {digits : List Char} {count : Nat}, digits.length < count →
      digits.drop count = [] := fun fewer => List.drop_of_length_le (Nat.le_of_lt fewer)
  simp [ofGroups?, eight, four, four', four'', twelve, List.drop_append, noMore]

theorem groups_append (digits : List Char) :
    digits.take 8 ++ (digits.drop 8).take 4 ++ (digits.drop 12).take 4 ++ (digits.drop 16).take 4 ++
      digits.drop 20 = digits := by
  have next : ∀ count, (digits.drop count).take 4 ++ digits.drop (count + 4) =
      digits.drop count := by
    intro count
    rw [← List.drop_drop]
    exact List.take_append_drop 4 _
  simp only [List.append_assoc, next, List.take_append_drop]

/-- An identifier is found by its text. -/
theorem ofText?_text (id : JobId) : ofText? id.text = some id := by
  have thirtyTwo := Text.length_hexDigits 32 id.number
  have length : id.characters.length = 36 := by
    simp [characters, thirtyTwo]
  have groups : ofGroups? id.characters = some id := by
    rw [characters, ofGroups?_marked (by simp [thirtyTwo]) (by simp [thirtyTwo])
      (by simp [thirtyTwo]) (by simp [thirtyTwo]) (by simp [thirtyTwo]), groups_append,
      ofDigits?_hexDigits]
  simp [ofText?, text, length, groups]

end JobId

end BuildFleet
