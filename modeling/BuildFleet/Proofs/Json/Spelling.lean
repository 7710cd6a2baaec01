import BuildFleet.Json.Reading
import BuildFleet.Proofs.Identity.Written
import BuildFleet.Proofs.Json.Values
import BuildFleet.Proofs.Text.Blanks
import Mathlib.Data.List.DropRight
import Mathlib.Data.List.TakeDrop

/-!
# Texts of values

What is written for a value is read as that value and nothing more, whatever follows
it in a larger text. The rounding of numbers with a fraction is no concern of a
record: where they stand in a value, it is assumed that their digits are read back.
-/

namespace BuildFleet.Json

variable {text rest after : List Char} {fuel : Nat}

/-- A value ends where the text ends, or a comma or a bracket stands. -/
def Closes (after : List Char) : Prop :=
  ∀ next ∈ after.head?, next = ',' ∨ next = ']' ∨ next = '\x7d'

theorem closes_nil : Closes [] := by
  intro next member
  cases member

theorem closes_cons {next : Char} (closing : next = ',' ∨ next = ']' ∨ next = '\x7d') :
    Closes (next :: rest) := by
  intro other member
  cases member
  exact closing

/-! ## Space -/

theorem skipSpace_skipSpace (text : List Char) : skipSpace (skipSpace text) = skipSpace text :=
  List.dropWhile_idempotent isSpace text

theorem skipSpace_cons {first : Char} (shown : isSpace first = false) :
    skipSpace (first :: text) = first :: text :=
  List.dropWhile_cons_of_neg (by simp [shown])

/-! ## Strings -/

theorem hexFour_hexDigits {value : Nat} (few : value < 65536) :
    hexFour (Text.hexDigits 4 value ++ after) = some (value, after) := by
  have digit : ∀ value, Text.hexValue? (Text.hexDigit (value % 16)) = some (value % 16) :=
    fun value => Text.hexValue?_hexDigit (Nat.mod_lt value (by decide))
  simp [Text.hexDigits, hexFour, digit]
  omega

theorem stringTail_escape {letter character : Char} (written : List Char) (plain : letter ≠ 'u')
    (escape : simpleEscape? letter = some character) :
    stringTail (fuel + 1) (some written) ('\\' :: letter :: after) =
      stringTail fuel (some (character :: written)) after := by
  rw [stringTail, if_neg (by decide), if_pos rfl]
  simp only [if_neg plain, escape, Option.map_some]

/-- One character is taken up as it was written. -/
theorem stringTail_characterText (written : List Char) (character : Char) :
    stringTail (fuel + 1) (some written) (characterText character ++ after) =
      stringTail fuel (some (character :: written)) after := by
  unfold characterText
  by_cases quote : character = '"'
  · subst quote
    exact stringTail_escape written (by decide) rfl
  by_cases backslash : character = '\\'
  · subst backslash
    exact stringTail_escape written (by decide) rfl
  by_cases feed : character = '\n'
  · subst feed
    exact stringTail_escape written (by decide) rfl
  by_cases back : character = '\r'
  · subst back
    exact stringTail_escape written (by decide) rfl
  by_cases tab : character = '\t'
  · subst tab
    exact stringTail_escape written (by decide) rfl
  rw [if_neg quote, if_neg backslash, if_neg feed, if_neg back, if_neg tab]
  by_cases eight : character.toNat = 8
  · rw [if_pos eight, ← Char.ofNat_toNat character, eight]
    exact stringTail_escape written (by decide) rfl
  by_cases twelve : character.toNat = 12
  · rw [if_neg eight, if_pos twelve, ← Char.ofNat_toNat character, twelve]
    exact stringTail_escape written (by decide) rfl
  rw [if_neg eight, if_neg twelve]
  by_cases control : character.toNat < 0x20
  · rw [if_pos control, List.append_assoc]
    show stringTail (fuel + 1) (some written)
      ('\\' :: 'u' :: (Text.hexDigits 4 character.toNat ++ after)) = _
    rw [stringTail, if_neg (by decide), if_pos rfl]
    simp only [if_true, hexFour_hexDigits (Nat.lt_trans control (by decide))]
    rw [if_neg (by omega), if_neg (by omega), Char.ofNat_toNat]
    rfl
  · rw [if_neg control]
    show stringTail (fuel + 1) (some written) (character :: after) = _
    rw [stringTail.eq_def]
    simp only [if_neg quote, if_neg backslash, if_neg control, Option.map_some]

theorem stringTail_characters {characters : List Char} (enough : characters.length < fuel)
    (written : List Char) :
    stringTail fuel (some written) (characters.flatMap characterText ++ '"' :: after) =
      some (some (String.ofList (written.reverse ++ characters)), after) := by
  induction characters generalizing fuel written with
  | nil =>
      rcases Nat.exists_eq_succ_of_ne_zero (Nat.ne_of_gt enough) with ⟨fuel, rfl⟩
      rw [List.append_nil]
      exact if_pos rfl
  | cons character characters induction =>
      rcases Nat.exists_eq_succ_of_ne_zero (Nat.ne_of_gt (Nat.zero_lt_of_lt enough)) with
        ⟨fuel, rfl⟩
      rw [List.flatMap_cons, List.append_assoc, stringTail_characterText,
        induction (Nat.lt_of_succ_lt_succ enough), List.reverse_cons, List.append_assoc,
        List.singleton_append]

theorem length_characters_le (characters : List Char) :
    characters.length ≤ (characters.flatMap characterText).length := by
  induction characters with
  | nil => exact Nat.le_refl _
  | cons character characters induction =>
      have shown : characterText character ≠ [] := by
        unfold characterText
        repeat' split
        all_goals exact List.cons_ne_nil _ _
      have := List.length_pos_iff.mpr shown
      rw [List.flatMap_cons, List.length_append, List.length_cons]
      omega

/-- A string is read up to its closing quote. -/
theorem stringText_eq (text : String) :
    ∃ inside, (∀ after, stringText text ++ after = '"' :: (inside ++ after)) ∧
      ∀ after, stringTail ((inside ++ after).length + 1) (some []) (inside ++ after) =
        some (some text, after) := by
  refine ⟨text.toList.flatMap characterText ++ ['"'], ?_, ?_⟩
  · intro after
    simp [stringText]
  · intro after
    have enough := length_characters_le text.toList
    rw [List.append_assoc, List.singleton_append, stringTail_characters]
    · simp
    · rw [List.length_append]
      omega

/-! ## Integers -/

section Integers

variable {number : Nat} {digits : List Char}

theorem digits_append (isDigits : ∀ digit ∈ digits, digit.isDigit = true)
    (closes : Closes after) : Json.digits (digits ++ after) = (digits, after) := by
  have ends : after.takeWhile Char.isDigit = [] ∧ after.dropWhile Char.isDigit = after := by
    cases after with
    | nil => exact ⟨rfl, rfl⟩
    | cons next rest =>
        rcases closes next rfl with rfl | rfl | rfl <;> exact ⟨rfl, rfl⟩
  rw [Json.digits, List.span_eq_takeWhile_dropWhile, List.takeWhile_append_of_pos isDigits,
    List.dropWhile_append_of_pos isDigits, ends.1, ends.2, List.append_nil]

/-- No digits of a positive number begin with zero. -/
theorem head_toDigits (positive : 0 < number) : (Nat.toDigits 10 number).head? ≠ some '0' := by
  induction number using Nat.strongRecOn with
  | ind number induction =>
      rcases Nat.lt_or_ge number 10 with few | more
      · have shown : ∀ digit < 10, 0 < digit → [digit.digitChar].head? ≠ some '0' := by decide
        rw [Nat.toDigits_of_lt_base few]
        exact shown number few positive
      · rw [Nat.toDigits_of_base_le (by decide) more,
          List.head?_append_of_ne_nil _ Nat.toDigits_ne_nil]
        exact induction (number / 10) (by omega) (by omega)

theorem numberLiteral?_toDigits (negative : Bool) (number : Nat) (closes : Closes after) :
    numberLiteral? negative (Nat.toDigits 10 number ++ after) =
      some (⟨negative, Nat.toDigits 10 number, none, none⟩, after) := by
  unfold numberLiteral?
  rw [digits_append Text.isDigit_toDigits closes]
  split
  · rename_i none
    exact absurd (congrArg Prod.fst none) Nat.toDigits_ne_nil
  · rename_i superfluous
    have written := congrArg Prod.fst superfluous
    dsimp only at written
    rcases Nat.eq_zero_or_pos number with rfl | positive
    · cases written
    · exact absurd (by rw [written]; rfl) (head_toDigits positive)
  · rename_i whole rest _ _ same
    cases same
    cases after with
    | nil => rfl
    | cons next rest =>
        rcases closes next rfl with rfl | rfl | rfl <;> rfl

theorem accumulate_digits {start : Nat}
    (few : Nat.ofDigitChars 10 digits start ≤ 18446744073709551615) :
    NumberLiteral.accumulate start digits = (Nat.ofDigitChars 10 digits start, []) := by
  induction digits generalizing start with
  | nil => rfl
  | cons digit digits induction =>
      have next : start * 10 + NumberLiteral.digitValue digit =
          10 * start + (digit.toNat - '0'.toNat) := by
        rw [Nat.mul_comm]
        rfl
      rw [Nat.ofDigitChars_cons, ← next] at few ⊢
      have within : start * 10 + NumberLiteral.digitValue digit ≤ 18446744073709551615 := by
        refine Nat.le_trans ?_ few
        rw [Nat.ofDigitChars_eq_ofDigitChars_zero]
        exact Nat.le_trans (Nat.le_mul_of_pos_left _ (Nat.pow_pos (by decide)))
          (Nat.le_add_right _ _)
      rw [NumberLiteral.accumulate, if_pos within, induction few]

theorem accumulate_toDigits (few : number ≤ 18446744073709551615) :
    NumberLiteral.accumulate 0 (Nat.toDigits 10 number) = (number, []) := by
  rw [accumulate_digits (by rwa [Nat.ofDigitChars_ten_toDigits]), Nat.ofDigitChars_ten_toDigits]

theorem valueSource_digits (few : number ≤ 18446744073709551615) (closes : Closes after) :
    valueSource (fuel + 1) (Nat.toDigits 10 number ++ after) =
      (.number (some (.integer number)), after) := by
  have value : numberSource false (Nat.toDigits 10 number ++ after) =
      (.number (some (.integer number)), after) := by
    rw [numberSource, numberLiteral?_toDigits false number closes]
    simp [NumberLiteral.value, accumulate_toDigits few]
  rw [← value]
  cases written : Nat.toDigits 10 number with
  | nil => exact absurd written Nat.toDigits_ne_nil
  | cons first others =>
      have isDigit : first.isDigit = true :=
        Text.isDigit_toDigits first (written ▸ List.mem_cons_self)
      have other : ∀ mark : Char, mark.isDigit = false → first ≠ mark := by
        rintro mark noDigit rfl
        rw [isDigit] at noDigit
        cases noDigit
      have shown : isSpace first = false := by
        simp [isSpace, other ' ' rfl, other '\n' rfl, other '\t' rfl, other '\r' rfl]
      rw [List.cons_append, valueSource, skipSpace_cons shown]
      simp only [if_neg (other '\x7b' rfl), if_neg (other '[' rfl), if_neg (other '"' rfl),
        if_neg (other 'n' rfl), if_neg (other 't' rfl), if_neg (other 'f' rfl),
        if_neg (other '-' rfl)]

theorem valueSource_integer {value : Int} (keeps : keepsInteger value = true)
    (closes : Closes after) :
    valueSource (fuel + 1) ((toString value).toList ++ after) =
      (.number (some (.integer value)), after) := by
  simp only [keepsInteger, Bool.and_eq_true, decide_eq_true_eq] at keeps
  cases value with
  | ofNat number =>
      have few : number ≤ 18446744073709551615 := Int.ofNat_le.mp keeps.2
      have written : (toString (Int.ofNat number)).toList = Nat.toDigits 10 number :=
        Nat.toList_repr
      rw [written]
      exact valueSource_digits few closes
  | negSucc number =>
      have written : (toString (Int.negSucc number)).toList =
          '-' :: Nat.toDigits 10 (number + 1) := by
        show ("-" ++ (number + 1).repr).toList = _
        rw [String.toList_append, Nat.toList_repr]
        rfl
      have range : number + 1 ≤ 9223372036854775808 := by
        have := keeps.1
        omega
      have few : number + 1 ≤ 18446744073709551615 := Nat.le_trans range (by decide)
      rw [written]
      show numberSource true (Nat.toDigits 10 (number + 1) ++ after) = _
      rw [numberSource, numberLiteral?_toDigits true (number + 1) closes]
      have inside : ¬ (number + 1 = 0 ∨ number + 1 > 9223372036854775808) := by omega
      simp only [NumberLiteral.value, accumulate_toDigits few, if_true, if_neg inside]
      rfl

end Integers

/-! ## Legible values -/

/-- Wherever the number may stand, its digits are read as the number. -/
def LegibleDecimal (number : Binary64) : Prop :=
  ∀ {fuel after}, Closes after →
    valueSource (fuel + 1) ((decimalText number).toList ++ after) =
      (.number (some (.decimal number)), after)

mutual

/-- The numbers of the value can be read from their texts. -/
def Legible : Json → Prop
  | .null => True
  | .bool _ => True
  | .integer value => keepsInteger value = true
  | .decimal number => LegibleDecimal number
  | .string _ => True
  | .array items => LegibleItems items
  | .object members => LegibleMembers members

def LegibleItems : List Json → Prop
  | [] => True
  | item :: rest => item.Legible ∧ LegibleItems rest

def LegibleMembers : List (String × Json) → Prop
  | [] => True
  | (_, value) :: rest => value.Legible ∧ LegibleMembers rest

end

theorem legibleMembers_iff (members : List (String × Json)) :
    LegibleMembers members ↔ ∀ member ∈ members, member.2.Legible := by
  induction members with
  | nil => simp [LegibleMembers]
  | cons head tail induction => simp [LegibleMembers, induction]

/-- The text of the value can be read, and opens at most so many levels. -/
structure Spelled (levels : Nat) (value : Json) : Prop where
  legible : value.Legible
  shallow : value.nesting ≤ levels

section Spelled

variable {levels : Nat}

theorem Spelled.mono {more : Nat} {value : Json} (spelled : Spelled levels value)
    (deeper : levels ≤ more) : Spelled more value :=
  ⟨spelled.legible, Nat.le_trans spelled.shallow deeper⟩

theorem spelled_bool (value : Bool) : Spelled levels (.bool value) := ⟨trivial, Nat.zero_le _⟩

theorem spelled_string (text : String) : Spelled levels (.string text) := ⟨trivial, Nat.zero_le _⟩

theorem spelled_integer {value : Int} (above : -9223372036854775808 ≤ value)
    (below : value ≤ 18446744073709551615) : Spelled levels (.integer value) where
  legible := by simp [Legible, keepsInteger, above, below]
  shallow := Nat.zero_le _

theorem spelled_natural {value : Nat} (below : value ≤ 18446744073709551615) :
    Spelled levels (.integer value) :=
  spelled_integer (Int.le_trans (by decide) (Int.natCast_nonneg value)) (Int.ofNat_le.mpr below)

theorem spelled_ofOption {α : Type} {write : α → Json} {option : Option α}
    (spelled : ∀ value ∈ option, Spelled levels (write value)) :
    Spelled levels (ofOption write option) := by
  cases option with
  | none => exact ⟨trivial, Nat.zero_le _⟩
  | some value => exact spelled value rfl

theorem spelled_strings (texts : List String) :
    Spelled (levels + 1) (.array (texts.map .string)) := by
  have items : LegibleItems (texts.map .string) ∧ nestingOfItems (texts.map .string) = 0 := by
    induction texts with
    | nil => exact ⟨trivial, rfl⟩
    | cons text texts induction =>
        exact ⟨⟨trivial, induction.1⟩, (Nat.zero_max _).trans induction.2⟩
  exact ⟨items.1, Nat.succ_le_succ (items.2 ▸ Nat.zero_le levels)⟩

theorem spelled_object {members : List (String × Json)}
    (spelled : ∀ member ∈ members, Spelled levels member.2) :
    Spelled (levels + 1) (.object members) where
  legible := (legibleMembers_iff members).mpr fun member there => (spelled member there).legible
  shallow := Nat.succ_le_succ
    (nestingOfMembers_le_iff.mpr fun member there => (spelled member there).shallow)

end Spelled

mutual

/-- What follows a value is part of the text. -/
theorem length_le_textBefore : ∀ (value : Json) (after : List Char),
    after.length ≤ (textBefore value after).length
  | .null, after => by
      rw [textBefore]
      simp only [List.length_cons]
      omega
  | .bool value, after => by simp [textBefore]
  | .integer value, after => by simp [textBefore]
  | .decimal number, after => by simp [textBefore]
  | .string text, after => by simp [textBefore]
  | .array items, after => by
      have := length_le_itemsBefore items (']' :: after)
      simp only [textBefore, List.length_cons] at this ⊢
      omega
  | .object members, after => by
      have := length_le_membersBefore members ('\x7d' :: after)
      simp only [textBefore, List.length_cons] at this ⊢
      omega

theorem length_le_itemsBefore : ∀ (items : List Json) (after : List Char),
    after.length ≤ (itemsBefore items after).length
  | [], after => Nat.le_refl _
  | [item], after => length_le_textBefore item after
  | item :: next :: rest, after => by
      have first := length_le_textBefore item (',' :: itemsBefore (next :: rest) after)
      have others := length_le_itemsBefore (next :: rest) after
      rw [List.length_cons] at first
      exact Nat.le_trans others (Nat.le_of_succ_le first)

theorem length_le_membersBefore : ∀ (members : List (String × Json)) (after : List Char),
    after.length ≤ (membersBefore members after).length
  | [], after => Nat.le_refl _
  | [(name, value)], after => by
      have := length_le_textBefore value after
      simp only [membersBefore, List.length_append, List.length_cons]
      omega
  | (name, value) :: next :: rest, after => by
      have first := length_le_textBefore value (',' :: membersBefore (next :: rest) after)
      have others := length_le_membersBefore (next :: rest) after
      simp only [membersBefore, List.length_append, List.length_cons] at first others ⊢
      omega

end

/-! ## Reading one part after another -/

theorem valueSource_skipSpace (fuel : Nat) (text : List Char) :
    valueSource fuel (skipSpace text) = valueSource fuel text := by
  cases fuel with
  | zero => rw [valueSource, valueSource]
  | succ fuel => rw [valueSource, valueSource, skipSpace_skipSpace]

theorem itemSources_skipSpace (fuel : Nat) (text : List Char) :
    itemSources fuel (skipSpace text) = itemSources fuel text := by
  cases fuel with
  | zero => rw [itemSources, itemSources]
  | succ fuel => rw [itemSources, itemSources, valueSource_skipSpace]

theorem memberSources_skipSpace (fuel : Nat) (text : List Char) :
    memberSources fuel (skipSpace text) = memberSources fuel text := by
  cases fuel with
  | zero => rw [memberSources, memberSources]
  | succ fuel => rw [memberSources, memberSources, skipSpace_skipSpace]

theorem itemSources_last {item : Source} (read : valueSource fuel text = (item, ']' :: after)) :
    itemSources (fuel + 1) text = ([item], true, after) := by
  rw [itemSources, read]
  rfl

theorem itemSources_more {item : Source} {items : List Source}
    (read : valueSource fuel text = (item, ',' :: rest))
    (more : itemSources fuel rest = (items, true, after)) :
    itemSources (fuel + 1) text = (item :: items, true, after) := by
  rw [itemSources, read]
  show (item :: (itemSources fuel rest).1, (itemSources fuel rest).2) = _
  rw [more]

theorem memberSources_last {name : String} {value : Source}
    (read : valueSource fuel text = (value, '\x7d' :: after)) :
    memberSources (fuel + 1) (stringText name ++ ':' :: text) =
      ([(some name, value)], true, after) := by
  rcases stringText_eq name with ⟨inside, written, named⟩
  rw [written, memberSources, skipSpace_cons rfl]
  simp only [named]
  rw [skipSpace_cons rfl]
  simp only [read]
  rfl

theorem memberSources_more {name : String} {value : Source}
    {members : List (Option String × Source)}
    (read : valueSource fuel text = (value, ',' :: rest))
    (more : memberSources fuel rest = (members, true, after)) :
    memberSources (fuel + 1) (stringText name ++ ':' :: text) =
      ((some name, value) :: members, true, after) := by
  rcases stringText_eq name with ⟨inside, written, named⟩
  rw [written, memberSources, skipSpace_cons rfl]
  simp only [named]
  rw [skipSpace_cons rfl]
  simp only [read]
  rw [skipSpace_cons rfl]
  simp only [more]

theorem valueSource_bracket (fuel : Nat) (more : List Char) :
    valueSource fuel (']' :: more) = (.broken, []) := by
  cases fuel with
  | zero => rw [valueSource]
  | succ fuel =>
      rw [valueSource, skipSpace_cons rfl]
      rfl

/-- Where items are found the array does not close at once. -/
theorem valueSource_array {items : List Source}
    (read : itemSources fuel rest = (items, true, after)) :
    valueSource (fuel + 1) ('[' :: rest) = (.array items true, after) := by
  rw [← itemSources_skipSpace] at read
  rw [valueSource, skipSpace_cons rfl]
  simp only [if_true, if_neg (by decide : '[' ≠ '\x7b')]
  split
  · rename_i closes
    rw [closes] at read
    cases fuel with
    | zero =>
        rw [itemSources] at read
        cases read
    | succ fuel =>
        rw [itemSources, valueSource_bracket] at read
        cases read
  · rw [read]

theorem valueSource_object {members : List (Option String × Source)}
    (read : memberSources fuel rest = (members, true, after)) :
    valueSource (fuel + 1) ('\x7b' :: rest) = (.object members true, after) := by
  rw [← memberSources_skipSpace] at read
  rw [valueSource, skipSpace_cons rfl]
  simp only [if_true]
  split
  · rename_i closes
    rw [closes] at read
    cases fuel with
    | zero =>
        rw [memberSources] at read
        cases read
    | succ fuel =>
        rw [memberSources, skipSpace_cons rfl] at read
        cases read
  · rw [read]

theorem valueSource_string (text : String) :
    valueSource (fuel + 1) (stringText text ++ after) = (.string (some text), after) := by
  rcases stringText_eq text with ⟨inside, written, read⟩
  rw [written, valueSource, skipSpace_cons rfl]
  simp only [if_true, if_neg (by decide : '"' ≠ '\x7b'), if_neg (by decide : '"' ≠ '['), read]

mutual

/-- The text of a value is read as the value, whatever follows it. -/
theorem valueSource_textBefore : ∀ {fuel : Nat} {after : List Char} (value : Json),
    value.Legible → Closes after → (textBefore value after).length < fuel + after.length →
      valueSource fuel (textBefore value after) = (source value, after)
  | 0, after, value, _, _, enough => by
      have := length_le_textBefore value after
      omega
  | fuel + 1, after, .null, _, _, _ => by
      rw [textBefore, valueSource]
      rfl
  | fuel + 1, after, .bool true, _, _, _ => by
      rw [textBefore, valueSource]
      rfl
  | fuel + 1, after, .bool false, _, _, _ => by
      rw [textBefore, valueSource]
      rfl
  | fuel + 1, after, .integer value, legible, closes, _ => by
      rw [textBefore]
      exact valueSource_integer legible closes
  | fuel + 1, after, .decimal number, legible, closes, _ => by
      rw [textBefore]
      exact legible closes
  | fuel + 1, after, .string text, _, _, _ => by
      rw [textBefore]
      exact valueSource_string text
  | fuel + 1, after, .array [], _, _, _ => by
      rw [textBefore, itemsBefore, valueSource]
      rfl
  | fuel + 1, after, .array (item :: items), legible, _, enough => by
      rw [textBefore, List.length_cons] at enough
      rw [textBefore, source]
      exact valueSource_array (itemSources_itemsBefore item items legible (by omega))
  | fuel + 1, after, .object [], _, _, _ => by
      rw [textBefore, membersBefore, valueSource]
      rfl
  | fuel + 1, after, .object ((name, value) :: members), legible, _, enough => by
      rw [textBefore, List.length_cons] at enough
      rw [textBefore, source]
      exact valueSource_object (memberSources_membersBefore name value members legible (by omega))

theorem itemSources_itemsBefore : ∀ {fuel : Nat} {after : List Char} (item : Json)
    (items : List Json), LegibleItems (item :: items) →
      (itemsBefore (item :: items) (']' :: after)).length < fuel + after.length →
        itemSources fuel (itemsBefore (item :: items) (']' :: after)) =
          (sourceItems (item :: items), true, after)
  | 0, after, item, items, _, enough => by
      have := length_le_itemsBefore (item :: items) (']' :: after)
      rw [List.length_cons] at this
      omega
  | fuel + 1, after, item, [], legible, enough => by
      rw [itemsBefore] at enough ⊢
      apply itemSources_last
      apply valueSource_textBefore item legible.1 (closes_cons (.inr (.inl rfl)))
      rw [List.length_cons]
      omega
  | fuel + 1, after, item, next :: items, legible, enough => by
      have others := length_le_itemsBefore (next :: items) (']' :: after)
      have first := length_le_textBefore item (',' :: itemsBefore (next :: items) (']' :: after))
      rw [itemsBefore] at enough ⊢
      rw [List.length_cons] at others first
      rw [sourceItems]
      refine itemSources_more (valueSource_textBefore item legible.1 (closes_cons (.inl rfl)) ?_)
        (itemSources_itemsBefore next items legible.2 (by omega))
      rw [List.length_cons]
      omega

theorem memberSources_membersBefore : ∀ {fuel : Nat} {after : List Char} (name : String)
    (value : Json) (members : List (String × Json)), LegibleMembers ((name, value) :: members) →
      (membersBefore ((name, value) :: members) ('\x7d' :: after)).length < fuel + after.length →
        memberSources fuel (membersBefore ((name, value) :: members) ('\x7d' :: after)) =
          (sourceMembers ((name, value) :: members), true, after)
  | 0, after, name, value, members, _, enough => by
      have := length_le_membersBefore ((name, value) :: members) ('\x7d' :: after)
      rw [List.length_cons] at this
      omega
  | fuel + 1, after, name, value, [], legible, enough => by
      simp only [membersBefore, List.length_append, List.length_cons] at enough
      rw [membersBefore]
      apply memberSources_last
      apply valueSource_textBefore value legible.1 (closes_cons (.inr (.inr rfl)))
      rw [List.length_cons]
      omega
  | fuel + 1, after, name, value, (following, next) :: members, legible, enough => by
      have others := length_le_membersBefore ((following, next) :: members) ('\x7d' :: after)
      have first := length_le_textBefore value
        (',' :: membersBefore ((following, next) :: members) ('\x7d' :: after))
      rw [membersBefore, List.length_append, List.length_cons] at enough
      rw [List.length_cons] at others first
      rw [membersBefore, sourceMembers]
      refine memberSources_more
        (valueSource_textBefore value legible.1 (closes_cons (.inl rfl)) ?_)
        (memberSources_membersBefore following next members legible.2 (by omega))
      rw [List.length_cons]
      omega

end

/-- The compact text of a value is that value and nothing else. -/
theorem sourceOfText_compact {value : Json} (legible : value.Legible) :
    sourceOfText value.compact = (source value, true) := by
  have read : valueSource (2 * (textBefore value []).length + 2) (textBefore value []) =
      (source value, []) :=
    valueSource_textBefore value legible closes_nil (by rw [List.length_nil]; omega)
  rw [sourceOfText, compact, String.toList_ofList]
  simp only [read]
  rfl

/-- To read the text of a value is to read the value, within the depth of texts. -/
theorem readText_compact {α : Type} {value : Json} (legible : value.Legible) (read : Reader α) :
    readText read value.compact = read .text (source value) := by
  rw [readText, sourceOfText_compact legible]
  simp only [if_true]
  cases read .text (source value) <;> rfl

end BuildFleet.Json
