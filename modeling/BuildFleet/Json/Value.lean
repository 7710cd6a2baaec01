import BuildFleet.Decimal.Shortest

/-!
# JSON values

Payloads are JSON values that the fleet passes on without reading. Integers that
fit in sixty-four bits, with or without a sign, stay integers; every other
number is a binary floating-point number. An object that is read has its members
in the order of their names, one member to a name; a record that is written has
them in the order of its declaration.
-/

namespace BuildFleet

inductive Json where
  | null
  | bool (value : Bool)
  | integer (value : Int)
  | decimal (value : Binary64)
  | string (value : String)
  | array (items : List Json)
  | object (members : List (String × Json))
deriving Inhabited

namespace Json

/-! ## Equality -/

mutual

/-- Equality of values is decidable. -/
def decideEqual : (left right : Json) → Decidable (left = right)
  | .null, right => match right with
    | .null => isTrue rfl
    | .bool _ | .integer _ | .decimal _ | .string _ | .array _ | .object _ =>
      isFalse (fun equal => by cases equal)
  | .bool left, right => match right with
    | .bool right =>
      if equal : left = right then isTrue (by rw [equal])
      else isFalse (fun same => equal (by cases same; rfl))
    | .null | .integer _ | .decimal _ | .string _ | .array _ | .object _ =>
      isFalse (fun equal => by cases equal)
  | .integer left, right => match right with
    | .integer right =>
      if equal : left = right then isTrue (by rw [equal])
      else isFalse (fun same => equal (by cases same; rfl))
    | .null | .bool _ | .decimal _ | .string _ | .array _ | .object _ =>
      isFalse (fun equal => by cases equal)
  | .decimal left, right => match right with
    | .decimal right =>
      if equal : left = right then isTrue (by rw [equal])
      else isFalse (fun same => equal (by cases same; rfl))
    | .null | .bool _ | .integer _ | .string _ | .array _ | .object _ =>
      isFalse (fun equal => by cases equal)
  | .string left, right => match right with
    | .string right =>
      if equal : left = right then isTrue (by rw [equal])
      else isFalse (fun same => equal (by cases same; rfl))
    | .null | .bool _ | .integer _ | .decimal _ | .array _ | .object _ =>
      isFalse (fun equal => by cases equal)
  | .array left, right => match right with
    | .array right =>
      match decideEqualItems left right with
      | isTrue equal => isTrue (by rw [equal])
      | isFalse different => isFalse (fun same => different (by cases same; rfl))
    | .null | .bool _ | .integer _ | .decimal _ | .string _ | .object _ =>
      isFalse (fun equal => by cases equal)
  | .object left, right => match right with
    | .object right =>
      match decideEqualMembers left right with
      | isTrue equal => isTrue (by rw [equal])
      | isFalse different => isFalse (fun same => different (by cases same; rfl))
    | .null | .bool _ | .integer _ | .decimal _ | .string _ | .array _ =>
      isFalse (fun equal => by cases equal)

def decideEqualItems : (left right : List Json) → Decidable (left = right)
  | [], [] => isTrue rfl
  | [], _ :: _ => isFalse (fun equal => by cases equal)
  | _ :: _, [] => isFalse (fun equal => by cases equal)
  | left :: leftRest, right :: rightRest =>
    match decideEqual left right, decideEqualItems leftRest rightRest with
    | isTrue head, isTrue tail => isTrue (by rw [head, tail])
    | isFalse different, _ => isFalse (fun same => different (by cases same; rfl))
    | _, isFalse different => isFalse (fun same => different (by cases same; rfl))

def decideEqualMembers : (left right : List (String × Json)) → Decidable (left = right)
  | [], [] => isTrue rfl
  | [], _ :: _ => isFalse (fun equal => by cases equal)
  | _ :: _, [] => isFalse (fun equal => by cases equal)
  | (leftName, left) :: leftRest, (rightName, right) :: rightRest =>
    if name : leftName = rightName then
      match decideEqual left right, decideEqualMembers leftRest rightRest with
      | isTrue head, isTrue tail => isTrue (by rw [name, head, tail])
      | isFalse different, _ => isFalse (fun same => different (by cases same; rfl))
      | _, isFalse different => isFalse (fun same => different (by cases same; rfl))
    else isFalse (fun same => name (by cases same; rfl))

end

instance : DecidableEq Json := decideEqual

/-! ## Objects -/

/-- Put a member in its place by name, replacing an earlier one of that name. -/
def insertMember (name : String) (value : Json) :
    List (String × Json) → List (String × Json)
  | [] => [(name, value)]
  | (other, current) :: rest =>
    if name = other then (name, value) :: rest
    else if name < other then (name, value) :: (other, current) :: rest
    else (other, current) :: insertMember name value rest

/-- The object with these members; of two members with one name the last counts. -/
def ofMembers (members : List (String × Json)) : Json :=
  .object (members.foldl (fun sorted member => insertMember member.1 member.2 sorted) [])

/-- The member of an object with this name. -/
def member? (name : String) : Json → Option Json
  | .object members => members.lookup name
  | .null | .bool _ | .integer _ | .decimal _ | .string _ | .array _ => none

/-! ## Integers -/

/-- The integers that stay integers: those of sixty-four bits, signed or not. -/
def keepsInteger (value : Int) : Bool :=
  -9223372036854775808 ≤ value && value ≤ 18446744073709551615

/-! ## Texts -/

mutual

/-- Change every string in a value. The names of members stay. -/
def mapStrings (change : String → String) : Json → Json
  | .string text => .string (change text)
  | .array items => .array (mapItemStrings change items)
  | .object members => .object (mapMemberStrings change members)
  | .null => .null
  | .bool value => .bool value
  | .integer value => .integer value
  | .decimal value => .decimal value

def mapItemStrings (change : String → String) : List Json → List Json
  | [] => []
  | item :: rest => mapStrings change item :: mapItemStrings change rest

def mapMemberStrings (change : String → String) : List (String × Json) → List (String × Json)
  | [] => []
  | (name, value) :: rest => (name, mapStrings change value) :: mapMemberStrings change rest

end

/-- An optional value, absent as `null`. -/
def ofOption (write : α → Json) : Option α → Json
  | none => .null
  | some value => write value

end Json

end BuildFleet
