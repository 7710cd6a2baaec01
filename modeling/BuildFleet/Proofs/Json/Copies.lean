import BuildFleet.Proofs.Json.Records
import BuildFleet.Proofs.Json.Spelling

/-!
# Values that read back

A value that was written may be read as it is, or after it has been kept as a value
whose members are in order. A reader understands a writer if it finds the value again
either way. For records it is enough that the readers of the members understand their
writers.
-/

namespace BuildFleet.Json

variable {α β : Type} {context inner : Context} {value copy : Json}
  {members others : List (String × Json)} {name : String} {write : α → Json} {read : Reader α}

/-- What may be read where a value was written. -/
inductive Copy (value : Json) : Json → Prop
  | written : Copy value value
  | ordered : Copy value value.sorted

/-- The value is found again in whatever place admits what was written for it. -/
def Echoes (write : α → Json) (read : Reader α) (value : α) : Prop :=
  ∀ context copy, Copy (write value) copy → context.Admits (write value).nesting →
    read context (source copy) = .ok value

theorem Copy.eq_of_sorted (copied : Copy value copy) (sorted : value.Sorted) : copy = value := by
  cases copied with
  | written => rfl
  | ordered => exact sorted.sorted_eq

theorem Copy.isNull_iff (copied : Copy value copy) : copy = .null ↔ value = .null := by
  cases copied with
  | written => exact Iff.rfl
  | ordered =>
      cases value with
      | object members => simp [sorted, ofMembers]
      | _ => simp [sorted]

mutual

theorem Legible.sorted : ∀ {value : Json}, value.Legible → value.sorted.Legible
  | .null, _ => trivial
  | .bool _, _ => trivial
  | .integer _, legible => legible
  | .decimal _, legible => legible
  | .string _, _ => trivial
  | .array _, legible => LegibleItems.sorted legible
  | .object members, legible => by
      rw [Json.sorted, ofMembers_eq, Legible, legibleMembers_iff]
      intro member there
      exact (legibleMembers_iff _).mp (LegibleMembers.sorted legible) member
        (Ordered.mem_ofEntries there)

theorem LegibleItems.sorted : ∀ {items : List Json}, LegibleItems items →
    LegibleItems (sortedItems items)
  | [], _ => trivial
  | _ :: _, legible => ⟨legible.1.sorted, LegibleItems.sorted legible.2⟩

theorem LegibleMembers.sorted : ∀ {members : List (String × Json)}, LegibleMembers members →
    LegibleMembers (sortedMembers members)
  | [], _ => trivial
  | (_, _) :: _, legible => ⟨legible.1.sorted, LegibleMembers.sorted legible.2⟩

end

theorem Copy.legible (copied : Copy value copy) (legible : value.Legible) : copy.Legible := by
  cases copied with
  | written => exact legible
  | ordered => exact legible.sorted

/-- The same names with copies of what stands under them. -/
structure Copies (members others : List (String × Json)) : Prop where
  absent : ∀ {name}, members.lookup name = none → others.lookup name = none
  present : ∀ {name value}, members.lookup name = some value →
    ∃ copy, others.lookup name = some copy ∧ Copy value copy

theorem Copy.object (copied : Copy (.object members) copy)
    (distinct : (members.map Prod.fst).Nodup) :
    ∃ others, copy = .object others ∧ (others.map Prod.fst).Nodup ∧ Copies members others := by
  cases copied with
  | written =>
      exact ⟨members, rfl, distinct, id, fun there => ⟨_, there, .written⟩⟩
  | ordered =>
      rcases sorted_object distinct with ⟨others, sorted, apart, lookup⟩
      refine ⟨others, sorted, apart, ?_, ?_⟩
      · intro name absent
        rw [lookup, absent, Option.map_none]
      · intro name value there
        exact ⟨value.sorted, by rw [lookup, there, Option.map_some], .ordered⟩

theorem nesting_le_of_lookup (there : members.lookup name = some value) :
    value.nesting ≤ nestingOfMembers members := by
  induction members with
  | nil => cases there
  | cons head tail induction =>
      rw [List.lookup_cons] at there
      split at there
      · cases there
        exact Nat.le_max_left _ _
      · exact Nat.le_trans (induction there) (Nat.le_max_right _ _)

theorem Copies.required (copies : Copies members others) {field : α}
    (there : members.lookup name = some (write field)) (echoes : Echoes write read field)
    (admits : inner.Admits (nestingOfMembers members)) :
    (RecordReader.required name read).build inner (sources others) = .ok field := by
  rcases copies.present there with ⟨copy, found, copied⟩
  exact RecordReader.required_sources_iff.mpr ⟨copy, found,
    echoes inner copy copied (admits.mono (nesting_le_of_lookup there))⟩

/-! Members that may be left out are read the same way, whether or not an array may leave
them out. -/

theorem Copies.missing (copies : Copies members others) (read : Reader α)
    (there : members.lookup name = none ∨ members.lookup name = some .null) :
    (RecordReader.nullable name read).build inner (sources others) = .ok none := by
  apply RecordReader.optional_sources_iff.mpr
  rcases there with absent | null
  · exact .inl ⟨.inl (copies.absent absent), rfl⟩
  · rcases copies.present null with ⟨copy, found, copied⟩
    exact .inl ⟨.inr (by rw [found, copied.isNull_iff.mpr rfl]), rfl⟩

theorem Copies.given (copies : Copies members others) {field : α}
    (echoes : Echoes write read field) (there : members.lookup name = some (write field))
    (shown : write field ≠ .null) (admits : inner.Admits (nestingOfMembers members)) :
    (RecordReader.nullable name read).build inner (sources others) = .ok (some field) := by
  rcases copies.present there with ⟨copy, found, copied⟩
  apply RecordReader.optional_sources_iff.mpr
  exact .inr ⟨copy, field, found, fun null => shown (copied.isNull_iff.mp null),
    echoes inner copy copied (admits.mono (nesting_le_of_lookup there)), rfl⟩

theorem Copies.nullable (copies : Copies members others) {option : Option α}
    (there : members.lookup name = some (ofOption write option))
    (echoes : ∀ field ∈ option, write field ≠ .null ∧ Echoes write read field)
    (admits : inner.Admits (nestingOfMembers members)) :
    (RecordReader.nullable name read).build inner (sources others) = .ok option := by
  cases option with
  | none => exact copies.missing read (.inr there)
  | some field =>
      rcases echoes field rfl with ⟨shown, echoes⟩
      exact copies.given echoes there shown admits

/-- A record is found again if it is built from any copies of its members. -/
theorem RecordReader.Lawful.echoes {reader : RecordReader α} (lawful : reader.Lawful) {record : α}
    (written : write record = .object members) (distinct : (members.map Prod.fst).Nodup)
    (builds : ∀ {inner others}, Copies members others →
      inner.Admits (nestingOfMembers members) → reader.build inner (sources others) = .ok record)
    (title : String) : Echoes write (reader.read title) record := by
  intro context copy copied admits
  rw [written] at copied admits
  rcases copied.object distinct with ⟨others, rfl, apart, copies⟩
  rcases Context.Admits.enter admits with ⟨inner, entered, deeper⟩
  have wellFormed : ∀ member ∈ sources others, skip member.2 = .ok () := by
    intro member there
    rcases List.mem_map.mp there with ⟨pair, _, rfl⟩
    exact skip_source pair.2
  rw [← map_fst_sources] at apart
  rw [source, sourceMembers_eq]
  exact (lawful.read_object_iff apart wellFormed title).mpr ⟨inner, entered, builds copies deeper⟩

/-- The record is read back from what was written for it, kept as a value or, if it can be
spelled, as a text. -/
def ReadsBack (write : α → Json) (read : Reader α) (spelled : Prop) (record : α) : Prop :=
  ∀ copy, Copy (write record) copy → readAs read copy = .ok record ∧
    (spelled → readText read copy.compact = .ok record)

theorem Echoes.readsBack {record : α} {spelled : Prop} (echoes : Echoes write read record)
    (spells : spelled → (write record).Spelled 127) :
    ReadsBack write read spelled record := by
  intro copy copied
  constructor
  · exact echoes .value copy copied (Context.admits_value _)
  · intro isSpelled
    rw [readText_compact (copied.legible (spells isSpelled).legible)]
    exact echoes .text copy copied fun _ => (spells isSpelled).shallow

/-! ## Simple values -/

/-- What is written in order has no copy but itself. -/
theorem echoes_of_sorted {value : α} (sorted : (write value).Sorted)
    (reads : ∀ context, context.Admits (write value).nesting →
      read context (source (write value)) = .ok value) : Echoes write read value := by
  intro context copy copied admits
  rw [copied.eq_of_sorted sorted]
  exact reads context admits

theorem echoes_bool (value : Bool) : Echoes .bool readBool value :=
  echoes_of_sorted (by trivial) fun _ _ => rfl

theorem echoes_string (text : String) : Echoes .string readString text :=
  echoes_of_sorted (by trivial) fun _ _ => rfl

theorem echoes_integer {expected : String} {least greatest value : Int} (above : least ≤ value)
    (below : value ≤ greatest) : Echoes .integer (readInteger expected least greatest) value :=
  echoes_of_sorted (by trivial) fun _ _ => if_pos ⟨above, below⟩

theorem echoes_natural {expected : String} {greatest : Int} {value : Nat}
    (below : (value : Int) ≤ greatest) :
    Echoes (fun value : Nat => .integer value)
      (fun context found => (readInteger expected 0 greatest context found).map Int.toNat)
      value := by
  apply echoes_of_sorted (by trivial)
  intro context _
  have read : readInteger expected 0 greatest context (source (.integer value)) = .ok ↑value :=
    if_pos ⟨Int.natCast_nonneg value, below⟩
  rw [read]
  rfl

theorem echoes_nat32 {value : Nat} (below : value ≤ 4294967295) :
    Echoes (fun value : Nat => .integer value) readNat32 value :=
  echoes_natural (Int.ofNat_le.mpr below)

theorem echoes_nat64 {value : Nat} (below : value ≤ 18446744073709551615) :
    Echoes (fun value : Nat => .integer value) readNat64 value :=
  echoes_natural (Int.ofNat_le.mpr below)

theorem echoes_strings (texts : List String) :
    Echoes (fun texts : List String => .array (texts.map .string)) (readList readString) texts := by
  apply echoes_of_sorted
  · rw [Sorted, sortedItems_iff]
    intro item there
    rcases List.mem_map.mp there with ⟨text, _, rfl⟩
    trivial
  · intro context admits
    rcases Context.Admits.enter admits with ⟨inner, entered, _⟩
    exact (readStrings_source_iff entered).mpr rfl

theorem echoes_value (sorted : value.Sorted) : Echoes id readValue value := by
  apply echoes_of_sorted sorted
  intro context admits
  rw [readValue_source _ admits]
  exact congrArg Except.ok sorted.sorted_eq

end BuildFleet.Json
