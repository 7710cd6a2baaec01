import BuildFleet.Proofs.Json.Records
import Mathlib.Tactic.SplitIfs

/-!
# What readers find

A value that is read as it is has its members in order, whatever it was read from, and
opens no more levels than its surroundings admit. The members that a record is built
from are parts of what was read, so the same holds of the values inside a record.
-/

namespace BuildFleet.Json

variable {α : Type} {context inner : Context} {value : Json}

/-! ## Texts and values -/

def IsNumber (value : Json) : Prop :=
  (∃ number, value = .integer number) ∨ ∃ number, value = .decimal number

mutual

/-- Numbers are numbers. Texts and values are sources of no other kind. -/
def Source.Plain : Source → Prop
  | .null => True
  | .bool _ => True
  | .number value => ∀ number ∈ value, IsNumber number
  | .string _ => True
  | .array items _ => Source.PlainItems items
  | .object members _ => Source.PlainMembers members
  | .broken => True

def Source.PlainItems : List Source → Prop
  | [] => True
  | item :: rest => item.Plain ∧ Source.PlainItems rest

def Source.PlainMembers : List (Option String × Source) → Prop
  | [] => True
  | (_, value) :: rest => value.Plain ∧ Source.PlainMembers rest

end

theorem plainItems_iff (items : List Source) :
    Source.PlainItems items ↔ ∀ item ∈ items, item.Plain := by
  induction items with
  | nil => simp [Source.PlainItems]
  | cons head tail induction => simp [Source.PlainItems, induction]

mutual

theorem plain_source : ∀ value : Json, (source value).Plain
  | .null => trivial
  | .bool _ => trivial
  | .integer number => fun _ same => .inl ⟨number, (Option.some.inj same).symm⟩
  | .decimal number => fun _ same => .inr ⟨number, (Option.some.inj same).symm⟩
  | .string _ => trivial
  | .array items => plain_sourceItems items
  | .object members => plain_sourceMembers members

theorem plain_sourceItems : ∀ items : List Json, Source.PlainItems (sourceItems items)
  | [] => trivial
  | item :: rest => ⟨plain_source item, plain_sourceItems rest⟩

theorem plain_sourceMembers : ∀ members : List (String × Json),
    Source.PlainMembers (sourceMembers members)
  | [] => trivial
  | (_, value) :: rest => ⟨plain_source value, plain_sourceMembers rest⟩

end

theorem isNumber_of_value {literal : NumberLiteral} (read : literal.value = some value) :
    IsNumber value := by
  have scaled : ∀ {float : Option Float} {sign : Float → Float},
      (float.map fun magnitude => decimal (.ofFloat (sign magnitude))) = some value →
        IsNumber value := by
    intro float sign same
    rcases Option.map_eq_some_iff.mp same with ⟨magnitude, _, rfl⟩
    exact .inr ⟨_, rfl⟩
  simp only [NumberLiteral.value] at read
  split at read
  · split at read
    · split at read
      · exact .inr ⟨_, (Option.some.inj read).symm⟩
      · exact .inl ⟨_, (Option.some.inj read).symm⟩
    · exact .inl ⟨_, (Option.some.inj read).symm⟩
  · split at read
    · exact scaled read
    · split at read
      · split at read
        · cases read
        · exact .inr ⟨_, (Option.some.inj read).symm⟩
      · exact scaled read

theorem plain_numberSource (negative : Bool) (text : List Char) :
    (numberSource negative text).1.Plain := by
  rw [numberSource]
  split
  · intro number read
    exact isNumber_of_value read
  · trivial

theorem plain_leaf (leaf : Source) (plain : leaf.Plain) (word : String) (text : List Char) :
    (Json.leaf word leaf text).1.Plain := by
  unfold Json.leaf
  split
  · exact plain
  · trivial

mutual

theorem plain_valueSource : ∀ (fuel : Nat) (text : List Char), (valueSource fuel text).1.Plain
  | 0, _ => by
      rw [valueSource]
      trivial
  | fuel + 1, text => by
      rw [valueSource]
      split
      · trivial
      · split_ifs
        · split
          · trivial
          · exact plain_memberSources fuel _
        · split
          · trivial
          · exact plain_itemSources fuel _
        · split <;> trivial
        · exact plain_leaf .null trivial _ _
        · exact plain_leaf (.bool true) trivial _ _
        · exact plain_leaf (.bool false) trivial _ _
        · exact plain_numberSource _ _
        · exact plain_numberSource _ _

theorem plain_itemSources : ∀ (fuel : Nat) (text : List Char),
    Source.PlainItems (itemSources fuel text).1
  | 0, _ => by
      rw [itemSources]
      exact ⟨trivial, trivial⟩
  | fuel + 1, text => by
      have first := plain_valueSource fuel text
      rw [itemSources]
      dsimp only
      split
      · exact ⟨first, plain_itemSources fuel _⟩
      · exact ⟨first, trivial⟩
      · exact ⟨first, trivial⟩

theorem plain_memberSources : ∀ (fuel : Nat) (text : List Char),
    Source.PlainMembers (memberSources fuel text).1
  | 0, _ => by
      rw [memberSources]
      trivial
  | fuel + 1, text => by
      rw [memberSources]
      split
      · split
        · trivial
        · split
          · rename_i rest _
            have first := plain_valueSource fuel rest
            dsimp only
            split
            · exact ⟨first, plain_memberSources fuel _⟩
            · exact ⟨first, trivial⟩
            · exact ⟨first, trivial⟩
          · exact ⟨trivial, trivial⟩
      · trivial

end

theorem plain_sourceOfText (text : String) : (sourceOfText text).1.Plain := by
  have plain := plain_valueSource (2 * text.toList.length + 2) text.toList
  rw [sourceOfText]
  exact plain

/-! ## Values -/

theorem Context.admits_zero (context : Context) : context.Admits 0 := fun _ => Nat.zero_le _

theorem Context.Admits.leave {levels : Nat} (entered : context.enter = .ok inner)
    (admits : inner.Admits levels) : context.Admits (levels + 1) := by
  rcases context with ⟨fromText, depth⟩
  cases fromText with
  | false => exact fun fromText => by cases fromText
  | true =>
      cases depth with
      | zero => cases entered
      | succ depth =>
          cases entered
          exact fun _ => Nat.succ_le_succ (admits rfl)

theorem Context.Admits.max {left right : Nat} (first : context.Admits left)
    (second : context.Admits right) : context.Admits (Nat.max left right) :=
  fun fromText => Nat.max_le.mpr ⟨first fromText, second fromText⟩

/-- A value in order that fits the place where it was read. -/
structure Settled (context : Context) (value : Json) : Prop where
  sorted : value.Sorted
  admitted : context.Admits value.nesting

theorem Settled.array {items : List Json} (entered : context.enter = .ok inner)
    (sorted : SortedItems items) (admitted : inner.Admits (nestingOfItems items)) :
    Settled context (.array items) where
  sorted := sorted
  admitted := .leave entered admitted

theorem Settled.object {members : List (String × Json)} (entered : context.enter = .ok inner)
    (settled : ∀ member ∈ members, Settled inner member.2) :
    Settled context (ofMembers members) where
  sorted := by
    rw [ofMembers_eq, Sorted, sortedMembers_iff]
    exact ⟨Ordered.pairwise_ofEntries _, fun member there =>
      (settled member (Ordered.mem_ofEntries there)).sorted⟩
  admitted := by
    rw [ofMembers_eq, nesting]
    refine .leave entered fun fromText => ?_
    apply nestingOfMembers_le_iff.mpr
    intro member there
    exact (settled member (Ordered.mem_ofEntries there)).admitted fromText

mutual

theorem readValue_settled : ∀ {context : Context} (found : Source) {value : Json}, found.Plain →
    readValue context found = .ok value → Settled context value
  | context, .null, _, _, read => by
      cases read
      exact ⟨trivial, context.admits_zero⟩
  | context, .bool _, _, _, read => by
      cases read
      exact ⟨trivial, context.admits_zero⟩
  | context, .number (some number), _, plain, read => by
      cases read
      rcases plain number rfl with ⟨_, rfl⟩ | ⟨_, rfl⟩
      · exact ⟨trivial, context.admits_zero⟩
      · exact ⟨trivial, context.admits_zero⟩
  | _, .number none, _, _, read => by cases read
  | context, .string (some text), _, _, read => by
      cases read
      exact ⟨trivial, context.admits_zero⟩
  | _, .string none, _, _, read => by cases read
  | _, .broken, _, _, read => by cases read
  | context, .array items closed, value, plain, read => by
      rw [readValue, bind_eq_ok] at read
      rcases read with ⟨inner, entered, read⟩
      rcases bind_eq_ok.mp read with ⟨values, found, same⟩
      have settled := readValueItems_settled items plain found
      split at same
      · cases same
        exact .array entered settled.1 settled.2
      · cases same
  | context, .object members closed, value, plain, read => by
      rw [readValue, bind_eq_ok] at read
      rcases read with ⟨inner, entered, read⟩
      rcases bind_eq_ok.mp read with ⟨values, found, same⟩
      split at same
      · cases same
        exact .object entered (readValueMembers_settled members plain found)
      · cases same

theorem readValueItems_settled : ∀ {context : Context} (items : List Source) {values : List Json},
    Source.PlainItems items → readValueItems context items = .ok values →
      SortedItems values ∧ context.Admits (nestingOfItems values)
  | context, [], _, _, read => by
      cases read
      exact ⟨trivial, context.admits_zero⟩
  | context, item :: rest, _, plain, read => by
      rw [readValueItems, bind_eq_ok] at read
      rcases read with ⟨value, found, read⟩
      rcases bind_eq_ok.mp read with ⟨values, others, same⟩
      cases same
      have first := readValue_settled item plain.1 found
      have later := readValueItems_settled rest plain.2 others
      exact ⟨⟨first.sorted, later.1⟩, first.admitted.max later.2⟩

theorem readValueMembers_settled : ∀ {context : Context}
    (members : List (Option String × Source)) {values : List (String × Json)},
    Source.PlainMembers members → readValueMembers context members = .ok values →
      ∀ member ∈ values, Settled context member.2
  | _, [], _, _, read => by
      cases read
      intro member there
      cases there
  | _, (none, _) :: _, _, _, read => by cases read
  | context, (some name, found) :: rest, _, plain, read => by
      rw [readValueMembers, bind_eq_ok] at read
      rcases read with ⟨value, first, read⟩
      rcases bind_eq_ok.mp read with ⟨values, others, same⟩
      cases same
      rw [List.forall_mem_cons]
      exact ⟨readValue_settled found plain.1 first,
        readValueMembers_settled rest plain.2 others⟩

end

/-- Only null is read as null. -/
theorem readValue_null {found : Source} (plain : found.Plain)
    (read : readValue context found = .ok .null) : found = .null := by
  cases found with
  | null => rfl
  | bool value => cases read
  | number value =>
      cases value with
      | none => cases read
      | some value =>
          cases read
          rcases plain _ rfl with ⟨_, number⟩ | ⟨_, number⟩ <;> cases number
  | string text => cases text <;> cases read
  | array items closed =>
      rw [readValue] at read
      rcases bind_eq_ok.mp read with ⟨inner, _, read⟩
      rcases bind_eq_ok.mp read with ⟨values, _, same⟩
      cases closed <;> cases same
  | object members closed =>
      rw [readValue] at read
      rcases bind_eq_ok.mp read with ⟨inner, _, read⟩
      rcases bind_eq_ok.mp read with ⟨values, _, same⟩
      cases closed <;> cases same
  | broken => cases read

/-! ## Records -/

namespace RecordReader

variable {reader : RecordReader α} {record : α}

theorem collect_plain {fields : List Field} {unknown : UnknownMembers}
    {found : List (Option String × Source)} {members result : Members}
    (plain : Source.PlainMembers found) (before : ∀ member ∈ members, member.2.Plain)
    (collected : collect fields unknown context found members = .ok result) :
    ∀ member ∈ result, member.2.Plain := by
  induction found generalizing members with
  | nil =>
      cases collected
      intro member there
      exact before member (List.mem_reverse.mp there)
  | cons head rest induction =>
      rcases head with ⟨_ | name, value⟩
      · cases collected
      · unfold collect at collected
        split at collected
        · split at collected
          · exact induction plain.2 before (andThen_eq_ok.mp collected).2
          · cases collected
        · split at collected
          · cases collected
          · refine induction plain.2 ?_ (andThen_eq_ok.mp collected).2
            exact List.forall_mem_cons.mpr ⟨plain.1, before⟩

/-- A record is built from parts of what was read, one level further in. -/
theorem read_builds {title : String} {found : Source} (plain : found.Plain)
    (read : reader.read title context found = .ok record) :
    ∃ inner members, context.enter = .ok inner ∧ reader.build inner members = .ok record ∧
      ∀ member ∈ members, member.2.Plain := by
  unfold RecordReader.read readWith at read
  split at read
  · rename_i context found closed
    rcases bind_eq_ok.mp read with ⟨inner, entered, read⟩
    rcases bind_eq_ok.mp read with ⟨members, collected, built⟩
    have parts := collect_plain plain (fun _ there => by cases there) collected
    cases closed with
    | false => cases built
    | true => exact ⟨inner, members, entered, built, parts⟩
  · rename_i context items closed
    rcases bind_eq_ok.mp read with ⟨inner, entered, read⟩
    dsimp only at read
    rcases bind_eq_ok.mp read with ⟨⟨members, rest⟩, collected, built⟩
    have parts : ∀ member ∈ members, member.2.Plain := by
      rcases collectItems_iff.mp collected with ⟨rfl, _⟩
      intro member there
      have item := (List.of_mem_zip there).2
      split at item
      · exact (plainItems_iff items).mp plain _ item
      · rcases List.mem_append.mp item with item | broken
        · exact (plainItems_iff items).mp plain _ item
        · rw [List.mem_singleton.mp broken]
          trivial
    cases rest with
    | nil => exact ⟨inner, members, entered, built, parts⟩
    | cons extra rest =>
        simp only [List.isEmpty_cons, Bool.false_eq_true, not_false_eq_true, if_true] at built
        split at built <;> cases built
  · exact absurd read wrongKind_ne_ok

theorem mem_of_lookup {name : String} {found : Source} {members : Members}
    (there : members.lookup name = some found) : (name, found) ∈ members := by
  rcases List.lookup_eq_some_iff.mp there with ⟨before, rest, rfl, _⟩
  exact List.mem_append_right before List.mem_cons_self

theorem nullable_build {name : String} {read : Reader α} {members : Members} {option : Option α}
    (built : (nullable name read).build context members = .ok option) :
    ∀ value ∈ option, ∃ found, members.lookup name = some found ∧
      read context found = .ok value := by
  rintro value rfl
  rcases optional_build_iff.mp built with ⟨_, none⟩ | ⟨found, value, there, _, answer, same⟩
  · cases none
  · cases same
    exact ⟨found, there, answer⟩

end RecordReader

/-! ## Where records come from -/

/-- The record was read from a value at hand or from a text. -/
inductive Obtained (read : Reader α) (record : α) : Prop
  | fromValue {value : Json} (answer : readAs read value = .ok record)
  | fromText {text : String} (answer : readText read text = .ok record)

theorem readText_eq_ok {read : Reader α} {text : String} {record : α}
    (answer : readText read text = .ok record) :
    read .text (sourceOfText text).1 = .ok record := by
  rcases parts : sourceOfText text with ⟨found, ends⟩
  rw [readText, parts] at answer
  rcases bind_eq_ok.mp answer with ⟨result, read, same⟩
  cases ends with
  | false => cases same
  | true =>
      cases same
      exact read

theorem Obtained.found {read : Reader α} {record : α} (obtained : Obtained read record) :
    ∃ context found, found.Plain ∧ read context found = .ok record := by
  cases obtained with
  | fromValue answer => exact ⟨_, _, plain_source _, answer⟩
  | fromText answer => exact ⟨_, _, plain_sourceOfText _, readText_eq_ok answer⟩

/-! ## Simple values -/

section Leaves

variable {found : Source}

theorem readInteger_bounds {expected : String} {least greatest number : Int}
    (read : readInteger expected least greatest context found = .ok number) :
    least ≤ number ∧ number ≤ greatest := by
  unfold readInteger at read
  split at read
  · split at read
    · cases read
      assumption
    · exact absurd read wrongValue_ne_ok
  · exact absurd read wrongKind_ne_ok

theorem readNatural_bound {expected : String} {greatest : Int} {number : Nat}
    (read : (readInteger expected 0 greatest context found).map Int.toNat = .ok number) :
    (number : Int) ≤ greatest := by
  rcases map_eq_ok.mp read with ⟨signed, signedRead, rfl⟩
  have bounds := readInteger_bounds signedRead
  rw [Int.toNat_of_nonneg bounds.1]
  exact bounds.2

end Leaves

end BuildFleet.Json
