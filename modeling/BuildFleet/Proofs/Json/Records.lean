import BuildFleet.Proofs.Json.Values

/-!
# What a record is built from

The reader of a record checks the members in the order of the text and then
builds the record from them. As every member is checked the way it is built, an
object without repeated names is read exactly if the record can be built from its
members, whatever their order and whatever stands beside them; an array is read
if its items are the first members, and the others may be left out.
-/

namespace BuildFleet.Json

variable {α β : Type} {context inner : Context} {members others : Members} {name : String}
  {value : α} {read : Reader α}

theorem map_eq_ok {ε : Type} {transform : α → β} {outcome : Except ε α} {result : β} :
    outcome.map transform = .ok result ↔
      ∃ value, outcome = .ok value ∧ transform value = result := by
  cases outcome with
  | error fault => simp [Except.map]
  | ok value => simp [Except.map]

theorem bind_eq_ok {ε : Type} {first : Except ε α} {next : α → Except ε β} {result : β} :
    (first >>= next) = .ok result ↔ ∃ value, first = .ok value ∧ next value = .ok result := by
  cases first with
  | error fault => simp [bind, Except.bind]
  | ok value => simp [bind, Except.bind]

theorem andThen_eq_ok {ε : Type} {check : Except ε Unit} {next : Except ε β} {result : β} :
    (check >>= fun _ => next) = .ok result ↔ check = .ok () ∧ next = .ok result := by
  cases check with
  | error fault => simp [bind, Except.bind]
  | ok value => simp [bind, Except.bind]

/-- Members all of whose names could be read. -/
def named (members : Members) : List (Option String × Source) :=
  members.map fun member => (some member.1, member.2)

@[simp] theorem source_eq_null {value : Json} : source value = .null ↔ value = .null := by
  cases value <;> simp [source]

/-- The members of a value at hand. -/
def sources (members : List (String × Json)) : Members :=
  members.map fun member => (member.1, source member.2)

theorem sourceMembers_eq (members : List (String × Json)) :
    sourceMembers members = named (sources members) := by
  induction members with
  | nil => rfl
  | cons head tail induction => rw [sourceMembers, induction]; rfl

theorem lookup_sources (members : List (String × Json)) (name : String) :
    (sources members).lookup name = (members.lookup name).map source := by
  induction members with
  | nil => rfl
  | cons head tail induction =>
      rw [sources, List.map_cons, List.lookup_cons, List.lookup_cons, ← sources, induction]
      split <;> rfl

theorem map_fst_sources (members : List (String × Json)) :
    (sources members).map Prod.fst = members.map Prod.fst := by
  simp [sources, Function.comp_def]

theorem sourceItems_eq_map (items : List Json) : sourceItems items = items.map source := by
  induction items with
  | nil => rfl
  | cons head tail induction => rw [sourceItems, induction]; rfl

theorem lookup_filter {keeps : String × Source → Bool}
    (kept : ∀ value, keeps (name, value) = true) :
    (members.filter keeps).lookup name = members.lookup name := by
  induction members with
  | nil => rfl
  | cons head tail induction =>
      rcases head with ⟨other, value⟩
      by_cases same : name = other
      · subst same
        simp [kept]
      · have passed : ((other, value) :: tail).lookup name = tail.lookup name := by
          rw [List.lookup_cons, beq_eq_false_iff_ne.mpr same]
        by_cases keep : keeps (other, value) = true
        · simp [keep, List.lookup_cons, induction]
        · simp [keep, passed, induction]

theorem lookup_of_mem (distinct : (members.map Prod.fst).Nodup) {member : String × Source}
    (there : member ∈ members) : members.lookup member.1 = some member.2 := by
  induction members with
  | nil => cases there
  | cons head tail induction =>
      rcases List.nodup_cons.mp distinct with ⟨absent, rest⟩
      rcases List.mem_cons.mp there with rfl | later
      · exact List.lookup_cons_self
      · have found : member.1 ∈ tail.map Prod.fst := List.mem_map_of_mem later
        have different : member.1 ≠ head.1 := fun same => absent (same ▸ found)
        rw [List.lookup_cons, beq_eq_false_iff_ne.mpr different]
        exact induction rest later

/-- What a member that may be left out, like `null`, comes to. -/
def Optional (member : Option Json) (reads : Json → α → Prop) (option : Option α) : Prop :=
  ((member = none ∨ member = some .null) ∧ option = none) ∨
    ∃ found value, member = some found ∧ found ≠ .null ∧ reads found value ∧ option = some value

theorem Optional.imp {member : Option Json} {reads others : Json → α → Prop} {option : Option α}
    (optional : Optional member reads option)
    (implies : ∀ found value, member = some found → reads found value → others found value) :
    Optional member others option := by
  refine Or.imp_right ?_ optional
  rintro ⟨found, value, there, given, read, same⟩
  exact ⟨found, value, there, given, implies found value there read, same⟩

theorem exists_optional {member : Option Json} {reads : Json → α → Prop}
    (readable : ∀ found, member = some found → found ≠ .null → ∃ value, reads found value) :
    ∃ option, Optional member reads option := by
  cases member with
  | none => exact ⟨none, .inl ⟨.inl rfl, rfl⟩⟩
  | some found =>
      by_cases null : found = .null
      · exact ⟨none, .inl ⟨.inr (congrArg some null), rfl⟩⟩
      · rcases readable found rfl null with ⟨value, read⟩
        exact ⟨some value, .inr ⟨found, value, rfl, null, read, rfl⟩⟩

namespace RecordReader

/-! ## Readers of records -/

variable {reader : RecordReader α} {function : RecordReader (α → β)}

/-- A reader of records looks at nothing but its own members, and it checks each
of them the way it builds the record from it. -/
structure Lawful (reader : RecordReader α) : Prop where
  congr : ∀ {context left right},
    (∀ field ∈ reader.fields, left.lookup field.name = right.lookup field.name) →
      reader.build context left = reader.build context right
  checked : ∀ {context members value}, reader.build context members = .ok value →
    ∀ field ∈ reader.fields, ∀ found, members.lookup field.name = some found →
      field.check context found = .ok ()

theorem Lawful.map (lawful : reader.Lawful) (transform : α → β) :
    (transform <$> reader).Lawful where
  congr same := congrArg (Except.map transform) (lawful.congr same)
  checked built := by
    rcases map_eq_ok.mp built with ⟨value, made, rfl⟩
    exact lawful.checked made

theorem Lawful.seq (lawful : function.Lawful) (argument : reader.Lawful) :
    (function <*> reader).Lawful where
  congr {context left right} same := by
    show (function.build context left >>= fun transform => _) = _
    rw [lawful.congr fun field member => same field (List.mem_append_left _ member),
      argument.congr fun field member => same field (List.mem_append_right _ member)]
    rfl
  checked built := by
    rcases bind_eq_ok.mp built with ⟨transform, first, rest⟩
    rcases bind_eq_ok.mp rest with ⟨value, second, _⟩
    intro field member
    rcases List.mem_append.mp member with left | right
    · exact lawful.checked first field left
    · exact argument.checked second field right

theorem lawful_required (name : String) (read : Reader α) : (required name read).Lawful where
  congr same := by
    have equal := same _ List.mem_cons_self
    simp only [required] at equal ⊢
    rw [equal]
  checked {context members value} built := by
    intro field member found looked
    rcases List.mem_singleton.mp member with rfl
    simp only [required] at built looked ⊢
    rw [looked] at built
    exact congrArg (Except.map fun _ => ()) built

/-- Members that an object may leave out are built the same way, whether or not
an array may leave them out. -/
theorem lawful_optional {reader : RecordReader (Option α)} {mayEndBefore : Bool}
    (fields : reader.fields = [⟨name, fun context value =>
      (readOption read context value).map fun _ => (), mayEndBefore⟩])
    (build : ∀ context members, reader.build context members =
      match members.lookup name with
      | some value => readOption read context value
      | none => .ok none) : reader.Lawful where
  congr same := by
    have equal := same _ (fields ▸ List.mem_cons_self)
    rw [build, build]
    dsimp only at equal
    rw [equal]
  checked {context members value} built := by
    intro field member found looked
    rw [fields] at member
    rcases List.mem_singleton.mp member with rfl
    dsimp only at looked ⊢
    rw [build, looked] at built
    dsimp only at built
    rw [built]
    rfl

theorem lawful_nullable (name : String) (read : Reader α) : (nullable name read).Lawful :=
  lawful_optional rfl fun _ _ => rfl

theorem lawful_defaulted (name : String) (read : Reader α) : (defaulted name read).Lawful :=
  lawful_optional rfl fun _ _ => rfl

/-! ## Building a record -/

theorem map_builds {transform : α → β} (built : reader.build context members = .ok value) :
    (transform <$> reader).build context members = .ok (transform value) :=
  map_eq_ok.mpr ⟨value, built, rfl⟩

theorem seq_builds {transform : α → β} (first : function.build context members = .ok transform)
    (second : reader.build context members = .ok value) :
    (function <*> reader).build context members = .ok (transform value) :=
  bind_eq_ok.mpr ⟨transform, first, bind_eq_ok.mpr ⟨value, second, rfl⟩⟩

theorem seq_build_iff {result : β} :
    (function <*> reader).build context members = .ok result ↔
      ∃ transform value, function.build context members = .ok transform ∧
        reader.build context members = .ok value ∧ transform value = result := by
  constructor
  · intro built
    rcases bind_eq_ok.mp built with ⟨transform, first, rest⟩
    rcases bind_eq_ok.mp rest with ⟨value, second, same⟩
    exact ⟨transform, value, first, second, Except.ok.inj same⟩
  · rintro ⟨transform, value, first, second, rfl⟩
    exact seq_builds first second

theorem required_build_iff : (required name read).build context members = .ok value ↔
    ∃ found, members.lookup name = some found ∧ read context found = .ok value := by
  simp only [required]
  cases members.lookup name <;> simp

theorem readOption_iff {option : Option α} {found : Source} :
    readOption read context found = .ok option ↔
      (found = .null ∧ option = none) ∨
        (found ≠ .null ∧ ∃ value, read context found = .ok value ∧ option = some value) := by
  cases found <;> simp only [readOption, map_eq_ok] <;> simp [eq_comm]

theorem optional_build_iff {option : Option α} :
    (match members.lookup name with
      | some value => readOption read context value
      | none => .ok none) = .ok option ↔
      ((members.lookup name = none ∨ members.lookup name = some .null) ∧ option = none) ∨
        ∃ found value, members.lookup name = some found ∧ found ≠ .null ∧
          read context found = .ok value ∧ option = some value := by
  cases looked : members.lookup name with
  | none => simp [eq_comm]
  | some found => simp [readOption_iff]

theorem required_sources_iff {members : List (String × Json)} :
    (required name read).build context (sources members) = .ok value ↔
      ∃ found, members.lookup name = some found ∧ read context (source found) = .ok value := by
  rw [required_build_iff, lookup_sources]
  cases members.lookup name <;> simp

theorem optional_sources_iff {members : List (String × Json)} {option : Option α} :
    (match (sources members).lookup name with
      | some value => readOption read context value
      | none => .ok none) = .ok option ↔
      Optional (members.lookup name)
        (fun found value => read context (source found) = .ok value) option := by
  rw [optional_build_iff, lookup_sources, Optional]
  cases members.lookup name <;> simp

/-! ## Reading an object -/

/-- What is done with a member of an object. -/
def inspect (fields : List Field) (context : Context) (member : String × Source) :
    Except Fault Unit :=
  match fields.find? (·.name = member.1) with
  | none => skip member.2
  | some field => field.check context member.2

def knows (fields : List Field) (member : String × Source) : Bool :=
  (fields.find? (·.name = member.1)).isSome

theorem collect_named_iff {fields : List Field} {result : Members}
    (distinct : (members.map Prod.fst).Nodup)
    (new : ∀ member ∈ members, others.lookup member.1 = none) :
    collect fields .skipped context (named members) others = .ok result ↔
      result = others.reverse ++ members.filter (knows fields) ∧
        ∀ member ∈ members, inspect fields context member = .ok () := by
  induction members generalizing others with
  | nil => simp [named, collect, eq_comm]
  | cons head tail induction =>
      rcases head with ⟨name, value⟩
      rcases List.nodup_cons.mp distinct with ⟨absent, rest⟩
      have newTail : ∀ member ∈ tail, others.lookup member.1 = none :=
        fun member there => new member (List.mem_cons_of_mem _ there)
      show collect fields .skipped context ((some name, value) :: named tail) others =
        .ok result ↔ _
      rw [List.forall_mem_cons]
      cases known : fields.find? (·.name = name) with
      | none =>
          have passed : collect fields .skipped context ((some name, value) :: named tail) others =
              (skip value >>= fun _ => collect fields .skipped context (named tail) others) := by
            simp only [collect, known]
          have unknown : knows fields (name, value) = false := by simp [knows, known]
          rw [passed, andThen_eq_ok, List.filter_cons, unknown, induction rest newTail]
          simp [inspect, known, and_left_comm]
      | some field =>
          have apart : ∀ member ∈ tail, ((name, value) :: others).lookup member.1 = none := by
            intro member there
            have found : member.1 ∈ tail.map Prod.fst := List.mem_map_of_mem there
            have different : member.1 ≠ name := fun same => absent (same ▸ found)
            rw [List.lookup_cons, beq_eq_false_iff_ne.mpr different]
            exact newTail member there
          have first : others.lookup name = none := new (name, value) List.mem_cons_self
          have taken : collect fields .skipped context ((some name, value) :: named tail) others =
              (field.check context value >>= fun _ =>
                collect fields .skipped context (named tail) ((name, value) :: others)) := by
            simp [collect, known, first]
          have isKnown : knows fields (name, value) = true := by simp [knows, known]
          rw [taken, andThen_eq_ok, List.filter_cons, isKnown, induction rest apart]
          simp [inspect, known, and_left_comm]

theorem knows_iff {fields : List Field} {member : String × Source} :
    knows fields member = true ↔ ∃ field ∈ fields, field.name = member.1 := by
  simp [knows]

/-- An object without repeated names is read if the record can be built from its
members, and they are all well formed. -/
theorem Lawful.read_object_iff (lawful : reader.Lawful) (distinct : (members.map Prod.fst).Nodup)
    (wellFormed : ∀ member ∈ members, skip member.2 = .ok ()) (title : String) :
    reader.read title context (.object (named members) true) = .ok value ↔
      ∃ inner, context.enter = .ok inner ∧ reader.build inner members = .ok value := by
  have known : ∀ inner, reader.build inner (members.filter (knows reader.fields)) =
      reader.build inner members := fun inner =>
    lawful.congr fun field member => lookup_filter fun value =>
      knows_iff.mpr ⟨field, member, rfl⟩
  show (context.enter >>= fun inner =>
    collect reader.fields .skipped inner (named members) [] >>= fun members =>
      reader.build inner members) = .ok value ↔ _
  rw [bind_eq_ok]
  refine exists_congr fun inner => and_congr_right fun _ => ?_
  rw [bind_eq_ok]
  constructor
  · rintro ⟨found, collected, built⟩
    rcases (collect_named_iff distinct fun _ _ => rfl).mp collected with ⟨rfl, _⟩
    exact (known inner).symm.trans built
  · intro built
    refine ⟨_, (collect_named_iff distinct fun _ _ => rfl).mpr ⟨rfl, fun member there => ?_⟩,
      (known inner).trans built⟩
    unfold inspect
    split
    · exact wellFormed member there
    · rename_i field found
      have same : field.name = member.1 := by simpa using List.find?_some found
      refine lawful.checked built field (List.mem_of_find?_eq_some found) member.2 ?_
      rw [same]
      exact lookup_of_mem distinct there

/-! ## Reading an array -/

theorem collectItems_iff {fields : List Field} {items rest : List Source} {expected : String}
    {position : Nat} :
    collectItems expected context fields items position = .ok (members, rest) ↔
      members = (fields.map Field.name).zip items ∧ rest = items.drop fields.length ∧
        (∀ field ∈ fields.drop items.length, field.mayEndBefore = true) ∧
        ∀ pair ∈ fields.zip items, pair.1.check context pair.2 = .ok () := by
  induction fields generalizing members items position with
  | nil =>
      show Except.ok ([], items) = Except.ok (members, rest) ↔ _
      constructor
      · intro same
        cases same
        simp
      · rintro ⟨rfl, rfl, _⟩
        simp
  | cons field fields induction =>
      cases items with
      | nil =>
          by_cases optional : field.mayEndBefore = true
          · have passed : collectItems expected context (field :: fields) [] position =
                collectItems expected context fields [] (position + 1) := if_pos optional
            rw [passed, induction]
            simp [optional]
          · have refused : collectItems expected context (field :: fields) [] position =
                .error (wrongLength position expected) := if_neg optional
            rw [refused]
            simp [optional]
      | cons item items =>
          have step : collectItems expected context (field :: fields) (item :: items) position =
              (field.check context item >>= fun _ =>
                collectItems expected context fields items (position + 1) >>= fun found =>
                  .ok ((field.name, item) :: found.1, found.2)) := rfl
          rw [step, andThen_eq_ok, bind_eq_ok]
          constructor
          · rintro ⟨checked, ⟨others, left⟩, collected, same⟩
            cases same
            rcases induction.mp collected with ⟨rfl, rfl, optional, rest⟩
            exact ⟨rfl, rfl, optional, List.forall_mem_cons.mpr ⟨checked, rest⟩⟩
          · rintro ⟨rfl, rfl, optional, checked⟩
            rcases List.forall_mem_cons.mp checked with ⟨first, rest⟩
            exact ⟨first, _, induction.mpr ⟨rfl, rfl, optional, rest⟩, rfl⟩

theorem fst_zip_sublist (names : List String) (items : List Source) :
    ((names.zip items).map Prod.fst).Sublist names := by
  induction names generalizing items with
  | nil => exact List.Sublist.refl _
  | cons name names induction =>
      cases items with
      | nil => exact List.nil_sublist _
      | cons item items => exact (induction items).cons_cons name

theorem lookup_zip {fields : List Field} {items : List Source} {field : Field} {item : Source}
    (distinct : (fields.map Field.name).Nodup) (pair : (field, item) ∈ fields.zip items) :
    ((fields.map Field.name).zip items).lookup field.name = some item := by
  have member : (field.name, item) ∈ (fields.map Field.name).zip items := by
    rw [List.zip_map_left]
    exact List.mem_map.mpr ⟨_, pair, rfl⟩
  refine lookup_of_mem (distinct.sublist ?_) member
  exact fst_zip_sublist _ _

/-- A well-formed array is read if its items are as many members of the record, those
it lacks may be left out, and the record can be built from the others. -/
theorem Lawful.read_array_iff (lawful : reader.Lawful)
    (distinct : (reader.fields.map Field.name).Nodup) {items : List Source} (title : String) :
    reader.read title context (.array items true) = .ok value ↔
      ∃ inner, context.enter = .ok inner ∧ items.length ≤ reader.fields.length ∧
        (∀ field ∈ reader.fields.drop items.length, field.mayEndBefore = true) ∧
        reader.build inner ((reader.fields.map Field.name).zip items) = .ok value := by
  unfold RecordReader.read readWith
  rw [bind_eq_ok]
  refine exists_congr fun inner => and_congr_right fun _ => ?_
  dsimp only
  rw [if_pos rfl, bind_eq_ok]
  constructor
  · rintro ⟨⟨members, rest⟩, collected, built⟩
    rcases collectItems_iff.mp collected with ⟨rfl, rfl, optional, _⟩
    cases left : items.drop reader.fields.length with
    | nil =>
        rw [left] at built
        exact ⟨List.drop_eq_nil_iff.mp left, optional, built⟩
    | cons extra more =>
        rw [left] at built
        simp only [List.isEmpty_cons, Bool.false_eq_true, not_false_eq_true, if_true]
          at built
        split at built <;> cases built
  · rintro ⟨few, optional, built⟩
    have none : items.drop reader.fields.length = [] := List.drop_eq_nil_iff.mpr few
    refine ⟨_, collectItems_iff.mpr ⟨rfl, rfl, optional, fun pair member => ?_⟩, ?_⟩
    · exact lawful.checked built pair.1 (List.of_mem_zip member).1 pair.2
        (lookup_zip distinct member)
    · rw [none]
      exact built

end RecordReader

/-! ## Simple values at hand -/

section Leaves

variable {text : String} {value : Json}

theorem wrongKind_ne_ok {α : Type} {expected : String} {found : Source} {result : α} :
    wrongKind expected found ≠ .ok result := by
  unfold wrongKind
  cases Json.found found <;> simp [bind, Except.bind]

theorem wrongValue_ne_ok {α : Type} {expected : String} {found : Source} {result : α} :
    wrongValue expected found ≠ .ok result := by
  unfold wrongValue
  cases Json.found found <;> simp [bind, Except.bind]

theorem readString_source_iff : readString context (source value) = .ok text ↔
    value = .string text := by
  cases value <;> simp [source, readString, wrongKind_ne_ok]

theorem readInteger_source_iff {expected : String} {least greatest number : Int} :
    readInteger expected least greatest context (source value) = .ok number ↔
      value = .integer number ∧ least ≤ number ∧ number ≤ greatest := by
  cases value with
  | integer other =>
      simp only [source, readInteger]
      split
      · rename_i within
        simp only [Except.ok.injEq, integer.injEq]
        constructor
        · rintro rfl
          exact ⟨rfl, within⟩
        · exact fun same => same.1
      · rename_i outside
        simp only [wrongValue_ne_ok, integer.injEq, false_iff]
        rintro ⟨rfl, within⟩
        exact outside within
  | _ => simp [source, readInteger, wrongKind_ne_ok]

theorem readNat64_source_iff {number : Nat} :
    readNat64 context (source value) = .ok number ↔
      value = .integer number ∧ number ≤ 18446744073709551615 := by
  simp only [readNat64, map_eq_ok, readInteger_source_iff]
  constructor
  · rintro ⟨signed, ⟨rfl, least, greatest⟩, rfl⟩
    exact ⟨by rw [Int.toNat_of_nonneg least], by omega⟩
  · rintro ⟨rfl, greatest⟩
    exact ⟨number, ⟨rfl, by omega, by omega⟩, Int.toNat_natCast number⟩

theorem readItems_strings_iff {items : List Json} {texts : List String} :
    readItems readString context (items.map source) = .ok texts ↔ items = texts.map .string := by
  induction items generalizing texts with
  | nil => cases texts <;> simp [readItems]
  | cons head tail induction =>
      simp only [List.map_cons, readItems, bind_eq_ok, readString_source_iff, induction]
      cases texts with
      | nil => simp
      | cons text texts => simp

theorem readStrings_source_iff {texts : List String} {inner : Context}
    (entered : context.enter = .ok inner) :
    readList readString context (source value) = .ok texts ↔
      value = .array (texts.map .string) := by
  cases value with
  | array items =>
      rw [source, sourceItems_eq_map, readList, entered]
      show (readItems readString inner (items.map source) >>= fun values =>
        if true = true then Except.ok values else .error .form) = .ok texts ↔ _
      simp [bind_eq_ok, readItems_strings_iff]
  | _ => simp [source, readList, wrongKind_ne_ok]

end Leaves

end BuildFleet.Json
