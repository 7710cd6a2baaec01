import BuildFleet.Json.Reading
import BuildFleet.Proofs.Queue.Pending
import BuildFleet.Proofs.Target.Registry

/-!
# Values that are read as they are

Reading a value without looking into it puts the members of every object in the
order of their names. A value whose objects are in that order already is read as
it stands, as long as it does not nest deeper than its surroundings admit.
-/

namespace BuildFleet

/-! ## Dictionaries -/

namespace Ordered

variable {κ β : Type} [LT κ] [DecidableEq κ] [DecidableLT κ] {entries start : List (κ × β)}

theorem lookup_foldl_put [BEq κ] [LawfulBEq κ] (distinct : (entries.map Prod.fst).Nodup)
    (key : κ) :
    (entries.foldl (fun dictionary entry => put entry.1 entry.2 dictionary) start).lookup key =
      (entries.lookup key).or (start.lookup key) := by
  induction entries generalizing start with
  | nil => simp
  | cons head tail induction =>
      rcases head with ⟨first, value⟩
      rcases List.nodup_cons.mp distinct with ⟨absent, rest⟩
      rw [List.foldl_cons, induction rest, lookup_put, List.lookup_cons]
      by_cases same : key = first
      · have missing : tail.lookup key = none := by
          refine List.lookup_eq_none_iff.mpr fun entry member => bne_iff_ne.mpr fun equal => ?_
          have found : entry.1 ∈ tail.map Prod.fst := List.mem_map_of_mem member
          exact absent (same ▸ equal ▸ found)
        rw [if_pos same, missing, beq_iff_eq.mpr same]
        rfl
      · simp [same, beq_eq_false_iff_ne.mpr same]

theorem lookup_ofEntries [BEq κ] [LawfulBEq κ] (distinct : (entries.map Prod.fst).Nodup)
    (key : κ) : (ofEntries entries).lookup key = entries.lookup key := by
  rw [ofEntries, lookup_foldl_put distinct]
  simp

theorem put_last {key : κ} {value : β} (different : ∀ entry ∈ start, key ≠ entry.1)
    (after : ∀ entry ∈ start, ¬ key < entry.1) : put key value start = start ++ [(key, value)] := by
  induction start with
  | nil => rfl
  | cons head tail induction =>
      have rest := induction (fun entry member => different entry (List.mem_cons_of_mem _ member))
        fun entry member => after entry (List.mem_cons_of_mem _ member)
      rw [put, if_neg (different head List.mem_cons_self), if_neg (after head List.mem_cons_self),
        rest, List.cons_append]

theorem pairwise_ofEntries [Trans (α := κ) (· < ·) (· < ·) (· < ·)]
    [Std.Trichotomous (α := κ) (· < ·)] (entries : List (κ × β)) :
    ((ofEntries entries).map Prod.fst).Pairwise (· < ·) := by
  suffices grows : ∀ start : List (κ × β), (start.map Prod.fst).Pairwise (· < ·) →
      ((entries.foldl (fun dictionary entry => put entry.1 entry.2 dictionary) start).map
        Prod.fst).Pairwise (· < ·) from grows [] .nil
  induction entries with
  | nil => exact fun _ ascending => ascending
  | cons head tail induction =>
      intro start ascending
      apply induction
      rw [map_fst_put]
      exact pairwise_insert head.1 ascending

theorem mem_ofEntries {entry : κ × β} (member : entry ∈ ofEntries entries) : entry ∈ entries := by
  suffices grows : ∀ start : List (κ × β),
      entry ∈ entries.foldl (fun dictionary entry => put entry.1 entry.2 dictionary) start →
        entry ∈ entries ∨ entry ∈ start from
    (grows [] member).resolve_right (List.not_mem_nil)
  clear member
  induction entries with
  | nil => exact fun _ member => .inr member
  | cons head tail induction =>
      intro start member
      rcases induction _ member with later | before
      · exact .inl (List.mem_cons_of_mem _ later)
      · rcases mem_put before with rfl | old
        · exact .inl List.mem_cons_self
        · exact .inr old

/-- A dictionary is the dictionary of its entries. -/
theorem ofEntries_of_pairwise [Std.Asymm (α := κ) (· < ·)]
    (ascending : (entries.map Prod.fst).Pairwise (· < ·)) :
    ofEntries entries = entries := by
  suffices appends : ∀ start : List (κ × β), ((start ++ entries).map Prod.fst).Pairwise (· < ·) →
      entries.foldl (fun dictionary entry => put entry.1 entry.2 dictionary) start =
        start ++ entries from appends [] ascending
  induction entries with
  | nil => simp
  | cons head tail induction =>
      intro start ordered
      have before : ∀ entry ∈ start, entry.1 < head.1 := by
        intro entry member
        rw [List.map_append, List.pairwise_append] at ordered
        exact ordered.2.2 _ (List.mem_map_of_mem member) _ List.mem_cons_self
      have last : put head.1 head.2 start = start ++ [head] :=
        put_last
          (fun entry member same => Std.Asymm.asymm _ _ (same ▸ before entry member)
            (same ▸ before entry member))
          fun entry member => Std.Asymm.asymm _ _ (before entry member)
      rw [List.foldl_cons, last, induction (List.pairwise_cons.mp ascending).2, List.append_assoc]
      · rfl
      · simpa using ordered

end Ordered

namespace Json

variable {context inner : Context} {value : Json} {members : List (String × Json)} {name : String}

/-! ## The order of members -/

mutual

/-- The value as it is kept once it has been read. -/
def sorted : Json → Json
  | .null => .null
  | .bool value => .bool value
  | .integer value => .integer value
  | .decimal value => .decimal value
  | .string text => .string text
  | .array items => .array (sortedItems items)
  | .object members => ofMembers (sortedMembers members)

def sortedItems : List Json → List Json
  | [] => []
  | item :: rest => sorted item :: sortedItems rest

def sortedMembers : List (String × Json) → List (String × Json)
  | [] => []
  | (name, value) :: rest => (name, sorted value) :: sortedMembers rest

end

mutual

/-- Every object has its members in the order of their names, one to a name. -/
def Sorted : Json → Prop
  | .null => True
  | .bool _ => True
  | .integer _ => True
  | .decimal _ => True
  | .string _ => True
  | .array items => SortedItems items
  | .object members => (members.map Prod.fst).Pairwise (· < ·) ∧ SortedMembers members

def SortedItems : List Json → Prop
  | [] => True
  | item :: rest => item.Sorted ∧ SortedItems rest

def SortedMembers : List (String × Json) → Prop
  | [] => True
  | (_, value) :: rest => value.Sorted ∧ SortedMembers rest

end

theorem sortedMembers_eq_map (members : List (String × Json)) :
    sortedMembers members = members.map fun member => (member.1, member.2.sorted) := by
  induction members with
  | nil => rfl
  | cons head tail induction => simp only [sortedMembers, induction, List.map_cons]

theorem sortedItems_iff (items : List Json) : SortedItems items ↔ ∀ item ∈ items, item.Sorted := by
  induction items with
  | nil => simp [SortedItems]
  | cons head tail induction => simp [SortedItems, induction]

theorem sortedMembers_iff (members : List (String × Json)) :
    SortedMembers members ↔ ∀ member ∈ members, member.2.Sorted := by
  induction members with
  | nil => simp [SortedMembers]
  | cons head tail induction => simp [SortedMembers, induction]

/-- An object in order has no name twice. -/
theorem Sorted.distinct (sorted : (Json.object members).Sorted) :
    (members.map Prod.fst).Nodup := by
  rw [Sorted] at sorted
  exact sorted.1.imp fun before => String.ne_of_lt before

theorem ofMembers_eq (members : List (String × Json)) :
    ofMembers members = .object (Ordered.ofEntries members) := by
  have inserted : ∀ (name : String) (value : Json) (members : List (String × Json)),
      insertMember name value members = Ordered.put name value members := by
    intro name value members
    induction members with
    | nil => rfl
    | cons head tail induction => simp only [insertMember, Ordered.put, induction]
  simp only [ofMembers, Ordered.ofEntries, inserted]

/-- Sorting an object keeps what stands under each name. -/
theorem sorted_object (distinct : (members.map Prod.fst).Nodup) :
    ∃ others, (Json.object members).sorted = .object others ∧ (others.map Prod.fst).Nodup ∧
      ∀ name, others.lookup name = (members.lookup name).map sorted := by
  refine ⟨_, by rw [sorted, ofMembers_eq], ?_, fun name => ?_⟩
  · exact (Ordered.pairwise_ofEntries _).imp fun before => String.ne_of_lt before
  · have named : ((sortedMembers members).map Prod.fst).Nodup := by
      simpa [sortedMembers_eq_map, Function.comp_def] using distinct
    rw [Ordered.lookup_ofEntries named, sortedMembers_eq_map]
    clear distinct named
    induction members with
    | nil => rfl
    | cons head tail induction =>
        rw [List.map_cons, List.lookup_cons, List.lookup_cons, induction]
        split <;> rfl

mutual

/-- A value in order stays as it is. -/
theorem Sorted.sorted_eq : ∀ {value : Json}, value.Sorted → value.sorted = value
  | .null, _ => rfl
  | .bool _, _ => rfl
  | .integer _, _ => rfl
  | .decimal _, _ => rfl
  | .string _, _ => rfl
  | .array items, ordered => by
      rw [Sorted] at ordered
      rw [sorted, sortedItems_eq ordered]
  | .object members, ordered => by
      rw [Sorted] at ordered
      rw [sorted, sortedMembers_eq ordered.2, ofMembers_eq, Ordered.ofEntries_of_pairwise ordered.1]

theorem sortedItems_eq : ∀ {items : List Json}, SortedItems items → sortedItems items = items
  | [], _ => rfl
  | item :: rest, ordered => by
      rw [SortedItems] at ordered
      rw [sortedItems, ordered.1.sorted_eq, sortedItems_eq ordered.2]

theorem sortedMembers_eq : ∀ {members : List (String × Json)},
    SortedMembers members → sortedMembers members = members
  | [], _ => rfl
  | (name, value) :: rest, ordered => by
      rw [SortedMembers] at ordered
      rw [sortedMembers, ordered.1.sorted_eq, sortedMembers_eq ordered.2]

end

mutual

theorem sorted_inOrder : ∀ value : Json, value.sorted.Sorted
  | .null => trivial
  | .bool _ => trivial
  | .integer _ => trivial
  | .decimal _ => trivial
  | .string _ => trivial
  | .array items => by
      rw [sorted, Sorted, sortedItems_iff]
      exact sortedItems_inOrder items
  | .object members => by
      rw [sorted, ofMembers_eq, Sorted, sortedMembers_iff]
      exact ⟨Ordered.pairwise_ofEntries _, fun member there =>
        sortedMembers_inOrder members member (Ordered.mem_ofEntries there)⟩

theorem sortedItems_inOrder : ∀ items : List Json, ∀ item ∈ sortedItems items, item.Sorted
  | [], _, member => by cases member
  | item :: rest, other, member => by
      rcases List.mem_cons.mp member with rfl | later
      · exact sorted_inOrder item
      · exact sortedItems_inOrder rest other later

theorem sortedMembers_inOrder : ∀ members : List (String × Json),
    ∀ member ∈ sortedMembers members, member.2.Sorted
  | [], _, there => by cases there
  | (name, value) :: rest, other, there => by
      rcases List.mem_cons.mp there with rfl | later
      · exact sorted_inOrder value
      · exact sortedMembers_inOrder rest other later

end

/-! ## Reading a value as it is -/

mutual

/-- How many levels of arrays and objects a value opens. -/
def nesting : Json → Nat
  | .null => 0
  | .bool _ => 0
  | .integer _ => 0
  | .decimal _ => 0
  | .string _ => 0
  | .array items => nestingOfItems items + 1
  | .object members => nestingOfMembers members + 1

def nestingOfItems : List Json → Nat
  | [] => 0
  | item :: rest => max (nesting item) (nestingOfItems rest)

def nestingOfMembers : List (String × Json) → Nat
  | [] => 0
  | (_, value) :: rest => max (nesting value) (nestingOfMembers rest)

end

theorem nestingOfMembers_le_iff {members : List (String × Json)} {levels : Nat} :
    nestingOfMembers members ≤ levels ↔ ∀ member ∈ members, member.2.nesting ≤ levels := by
  induction members with
  | nil => simp [nestingOfMembers]
  | cons head tail induction =>
      rw [nestingOfMembers, Nat.max_le, induction, List.forall_mem_cons]

/-- So many levels may be opened here; a value at hand may open any number. -/
def Context.Admits (context : Context) (levels : Nat) : Prop :=
  context.fromText = true → levels ≤ context.depth

theorem Context.Admits.mono {levels fewer : Nat} (admits : context.Admits levels)
    (fewest : fewer ≤ levels) : context.Admits fewer :=
  fun fromText => Nat.le_trans fewest (admits fromText)

theorem Context.Admits.enter {levels : Nat} (admits : context.Admits (levels + 1)) :
    ∃ inner, context.enter = .ok inner ∧ inner.Admits levels := by
  rcases context with ⟨fromText, depth⟩
  cases fromText with
  | false => exact ⟨⟨false, depth⟩, rfl, fun fromText => by cases fromText⟩
  | true =>
      cases depth with
      | zero => exact absurd (admits rfl) (Nat.not_succ_le_zero levels)
      | succ depth => exact ⟨⟨true, depth⟩, rfl, fun _ => Nat.le_of_succ_le_succ (admits rfl)⟩

theorem Context.admits_value (levels : Nat) : Context.value.Admits levels :=
  fun fromText => by cases fromText

mutual

theorem skip_source : ∀ value : Json, skip (source value) = .ok ()
  | .null => rfl
  | .bool _ => rfl
  | .integer _ => rfl
  | .decimal _ => rfl
  | .string _ => rfl
  | .array items => by
      rw [source, skip, skipItems_source items]
      rfl
  | .object members => by
      rw [source, skip, skipMembers_source members]
      rfl

theorem skipItems_source : ∀ items : List Json, skipItems (sourceItems items) = .ok ()
  | [] => rfl
  | item :: rest => by
      rw [sourceItems, skipItems, skip_source item]
      exact skipItems_source rest

theorem skipMembers_source : ∀ members : List (String × Json),
    skipMembers (sourceMembers members) = .ok ()
  | [] => rfl
  | (name, value) :: rest => by
      rw [sourceMembers, skipMembers, skip_source value]
      exact skipMembers_source rest

end

mutual

theorem readValue_source : ∀ {context : Context} (value : Json), context.Admits value.nesting →
    readValue context (source value) = .ok value.sorted
  | _, .null, _ => rfl
  | _, .bool _, _ => rfl
  | _, .integer _, _ => rfl
  | _, .decimal _, _ => rfl
  | _, .string _, _ => rfl
  | _, .array items, admits => by
      rcases Context.Admits.enter admits with ⟨inner, entered, deeper⟩
      rw [source, readValue, entered]
      show (readValueItems inner (sourceItems items) >>= _) = _
      rw [readValueItems_source items deeper]
      rfl
  | _, .object members, admits => by
      rcases Context.Admits.enter admits with ⟨inner, entered, deeper⟩
      rw [source, readValue, entered]
      show (readValueMembers inner (sourceMembers members) >>= _) = _
      rw [readValueMembers_source members deeper]
      rfl

theorem readValueItems_source : ∀ {context : Context} (items : List Json),
    context.Admits (nestingOfItems items) →
      readValueItems context (sourceItems items) = .ok (sortedItems items)
  | _, [], _ => rfl
  | context, item :: rest, admits => by
      rw [sourceItems, readValueItems, readValue_source item (admits.mono (Nat.le_max_left _ _))]
      show (readValueItems context (sourceItems rest) >>= _) = _
      rw [readValueItems_source rest (admits.mono (Nat.le_max_right _ _))]
      rfl

theorem readValueMembers_source : ∀ {context : Context} (members : List (String × Json)),
    context.Admits (nestingOfMembers members) →
      readValueMembers context (sourceMembers members) = .ok (sortedMembers members)
  | _, [], _ => rfl
  | context, (name, value) :: rest, admits => by
      rw [sourceMembers, readValueMembers,
        readValue_source value (admits.mono (Nat.le_max_left _ _))]
      show (readValueMembers context (sourceMembers rest) >>= _) = _
      rw [readValueMembers_source rest (admits.mono (Nat.le_max_right _ _))]
      rfl

end

end Json

end BuildFleet
