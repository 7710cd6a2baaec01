import BuildFleet.Json.Text
import BuildFleet.Json.Writer
import BuildFleet.Text.Quoted

/-!
# Reading records from JSON

Records are read member by member in the order of the text, so the first fault
is the one reported. Unknown members are skipped. A record may also be given as
the array of its members in the order of their declaration. A record reader is
built from the readers of its members with `<$>` and `<*>`.
-/

namespace BuildFleet.Json

/-- Why a text could not be read as a value of some kind. -/
inductive Fault where
  /-- The text is not JSON. -/
  | form
  /-- The text is JSON but its value is of another kind. -/
  | kind (message : String)
deriving DecidableEq, Repr, Inhabited

/-- What is known about the place that is being read. -/
structure Context where
  /-- The value comes from a text and not from a value read before. -/
  fromText : Bool
  /-- How many more levels of arrays and objects may be opened. -/
  depth : Nat
deriving Repr

/-- Texts are read to a depth of 127 levels. -/
def Context.text : Context := ⟨true, 127⟩

/-- A value that was read before has no limit of its own. -/
def Context.value : Context := ⟨false, 0⟩

/-- One level further in. A text that opens too many levels is not JSON. -/
def Context.enter (context : Context) : Except Fault Context :=
  if ¬ context.fromText then .ok context
  else
    match context.depth with
    | 0 => .error .form
    | depth + 1 => .ok { context with depth }

abbrev Reader (α : Type) := Context → Source → Except Fault α

/-! ## Messages -/

/-- What was found, as messages name it. A fault of form has no name. -/
def found : Source → Except Fault String
  | .null => .ok "null"
  | .bool value => .ok ("boolean `" ++ (if value then "true" else "false") ++ "`")
  | .number (some (.integer value)) => .ok ("integer `" ++ toString value ++ "`")
  | .number (some (.decimal value)) => .ok ("floating point `" ++ decimalText value ++ "`")
  | .number _ => .error .form
  | .string (some text) => .ok ("string " ++ Text.quoted text)
  | .string none => .error .form
  | .array _ _ => .ok "sequence"
  | .object _ _ => .ok "map"
  | .broken => .error .form

/-- A value of the wrong kind. -/
def wrongKind (expected : String) (value : Source) : Except Fault α := do
  let name ← found value
  .error (.kind ("invalid type: " ++ name ++ ", expected " ++ expected))

/-- A value of the right kind that lies outside the expected range. -/
def wrongValue (expected : String) (value : Source) : Except Fault α := do
  let name ← found value
  .error (.kind ("invalid value: " ++ name ++ ", expected " ++ expected))

def missingField (name : String) : Fault := .kind ("missing field `" ++ name ++ "`")

def duplicateField (name : String) : Fault := .kind ("duplicate field `" ++ name ++ "`")

def wrongLength (length : Nat) (expected : String) : Fault :=
  .kind ("invalid length " ++ toString length ++ ", expected " ++ expected)

/-- A choice of names, as messages list it. -/
def choice : List String → String
  | [] => "there are no variants"
  | [only] => "`" ++ only ++ "`"
  | [first, second] => "`" ++ first ++ "` or `" ++ second ++ "`"
  | names => "one of " ++ ", ".intercalate (names.map fun name => "`" ++ name ++ "`")

/-! ## Simple values -/

def readBool : Reader Bool
  | _, .bool value => .ok value
  | _, other => wrongKind "a boolean" other

def readString : Reader String
  | _, .string (some text) => .ok text
  | _, other => wrongKind "a string" other

/-- An integer of a kind named `expected`, from `least` to `greatest`. -/
def readInteger (expected : String) (least greatest : Int) : Reader Int
  | _, .number (some (.integer value)) =>
    if least ≤ value ∧ value ≤ greatest then .ok value
    else wrongValue expected (.number (some (.integer value)))
  | _, other => wrongKind expected other

def readInt32 : Reader Int := readInteger "i32" (-2147483648) 2147483647

def readInt64 : Reader Int := readInteger "i64" (-9223372036854775808) 9223372036854775807

def readNat32 : Reader Nat := fun context value =>
  (readInteger "u32" 0 4294967295 context value).map Int.toNat

def readNat64 : Reader Nat := fun context value =>
  (readInteger "u64" 0 18446744073709551615 context value).map Int.toNat

/-- `null` stands for nothing. -/
def readOption (read : Reader α) : Reader (Option α)
  | _, .null => .ok none
  | context, other => (read context other).map some

/-! ## Skipped and opaque values -/

mutual

/-- Pass over a value of any kind. Only its form is looked at. -/
def skip : Source → Except Fault Unit
  | .broken => .error .form
  | .array items closed => do
    skipItems items
    if closed then .ok () else .error .form
  | .object members closed => do
    skipMembers members
    if closed then .ok () else .error .form
  | .null => .ok ()
  | .bool _ => .ok ()
  | .number _ => .ok ()
  | .string _ => .ok ()

def skipItems : List Source → Except Fault Unit
  | [] => .ok ()
  | item :: rest => do
    skip item
    skipItems rest

def skipMembers : List (Option String × Source) → Except Fault Unit
  | [] => .ok ()
  | (_, value) :: rest => do
    skip value
    skipMembers rest

end

mutual

/-- Any value. -/
def readValue : Reader Json
  | _, .null => .ok .null
  | _, .bool value => .ok (.bool value)
  | _, .number (some value) => .ok value
  | _, .number none => .error .form
  | _, .string (some text) => .ok (.string text)
  | _, .string none => .error .form
  | context, .array items closed => do
    let values ← readValueItems (← context.enter) items
    if closed then .ok (.array values) else .error .form
  | context, .object members closed => do
    let values ← readValueMembers (← context.enter) members
    if closed then .ok (ofMembers values) else .error .form
  | _, .broken => .error .form

def readValueItems : Context → List Source → Except Fault (List Json)
  | _, [] => .ok []
  | context, item :: rest => do
    let value ← readValue context item
    let values ← readValueItems context rest
    .ok (value :: values)

def readValueMembers : Context → List (Option String × Source) →
    Except Fault (List (String × Json))
  | _, [] => .ok []
  | _, (none, _) :: _ => .error .form
  | context, (some name, source) :: rest => do
    let value ← readValue context source
    let values ← readValueMembers context rest
    .ok ((name, value) :: values)

end

/-! ## Lists and dictionaries -/

def readItems (read : Reader α) (context : Context) : List Source → Except Fault (List α)
  | [] => .ok []
  | item :: rest => do
    let value ← read context item
    let values ← readItems read context rest
    .ok (value :: values)

def readList (read : Reader α) : Reader (List α)
  | context, .array items closed => do
    let values ← readItems read (← context.enter) items
    if closed then .ok values else .error .form
  | _, other => wrongKind "a sequence" other

def readEntries (read : Reader α) (context : Context) :
    List (Option String × Source) → Except Fault (List (String × α))
  | [] => .ok []
  | (none, _) :: _ => .error .form
  | (some name, source) :: rest => do
    let value ← read context source
    let values ← readEntries read context rest
    .ok ((name, value) :: values)

/-- The members of an object of any names, in the order of the text. -/
def readDictionary (read : Reader α) : Reader (List (String × α))
  | context, .object members closed => do
    let values ← readEntries read (← context.enter) members
    if closed then .ok values else .error .form
  | _, other => wrongKind "a map" other

/-! ## Choices -/

/-- One of several names, written as a string or as an object whose only member
has that name and the value `null`. -/
def readChoice (choices : List (String × α)) : Reader α
  | _, .string (some name) =>
    match choices.lookup name with
    | some value => .ok value
    | none => .error (unknown name)
  | context, .object members closed =>
    match members with
    | [] => if context.fromText then .error .form else .error singleKey
    | (name, value) :: rest => do
      if ¬ context.fromText ∧ ¬ rest.isEmpty then throw singleKey
      let name ← match name with
        | some name => Except.ok name
        | none => .error .form
      let chosen ← match choices.lookup name with
        | some chosen => Except.ok chosen
        | none => .error (unknown name)
      match value with
      | .null => .ok ()
      | other => wrongKind "unit" other
      if ¬ rest.isEmpty ∨ ¬ closed then throw .form
      .ok chosen
  | _, other => wrongKind "string or map" other
where
  unknown (name : String) : Fault :=
    .kind ("unknown variant `" ++ name ++ "`, expected " ++ choice (choices.map (·.1)))
  singleKey : Fault := .kind "invalid value: map, expected map with a single key"

/-! ## Records -/

/-- The members of a record found in a text. -/
abbrev Members := List (String × Source)

/-- A member of a record: how it is checked, and whether an array that ends
before it may leave it out. -/
structure Field where
  name : String
  check : Context → Source → Except Fault Unit
  mayEndBefore : Bool

/-- The members of a record and how its value is made from them. -/
structure RecordReader (α : Type) where
  fields : List Field
  build : Context → Members → Except Fault α

namespace RecordReader

instance : Functor RecordReader where
  map transform reader :=
    ⟨reader.fields, fun context members => (reader.build context members).map transform⟩

instance : Seq RecordReader where
  seq function argument :=
    let argument := argument ()
    ⟨function.fields ++ argument.fields, fun context members => do
      let transform ← function.build context members
      let value ← argument.build context members
      .ok (transform value)⟩

/-- A member that has to be there. -/
def required (name : String) (read : Reader α) : RecordReader α :=
  { fields := [⟨name, fun context value => (read context value).map fun _ => (), false⟩]
    build := fun context members =>
      match members.lookup name with
      | some value => read context value
      | none => .error (missingField name) }

/-- A member that an object may leave out, like `null`. -/
def nullable (name : String) (read : Reader α) : RecordReader (Option α) :=
  { fields :=
      [⟨name, fun context value => (readOption read context value).map fun _ => (), false⟩]
    build := fun context members =>
      match members.lookup name with
      | some value => readOption read context value
      | none => .ok none }

/-- A member that objects and arrays may leave out, like `null`. -/
def defaulted (name : String) (read : Reader α) : RecordReader (Option α) :=
  { fields :=
      [⟨name, fun context value => (readOption read context value).map fun _ => (), true⟩]
    build := fun context members =>
      match members.lookup name with
      | some value => readOption read context value
      | none => .ok none }

/-- How a record treats members that it does not know. -/
inductive UnknownMembers where
  | skipped
  | refused
deriving DecidableEq

/-- Read the known members in the order of the text. -/
def collect (fields : List Field) (unknown : UnknownMembers) (context : Context) :
    List (Option String × Source) → Members → Except Fault Members
  | [], members => .ok members.reverse
  | (none, _) :: _, _ => .error .form
  | (some name, value) :: rest, members =>
    match fields.find? (·.name = name) with
    | none =>
      match unknown with
      | .skipped => do
        skip value
        collect fields unknown context rest members
      | .refused =>
        .error (.kind ("unknown field `" ++ name ++ "`, expected " ++ choice (fields.map (·.name))))
    | some field =>
      if (members.lookup name).isSome then .error (duplicateField name)
      else do
        field.check context value
        collect fields unknown context rest ((name, value) :: members)

/-- Read the members of a record that is written as an array. -/
def collectItems (expected : String) (context : Context) :
    List Field → List Source → Nat → Except Fault (Members × List Source)
  | [], rest, _ => .ok ([], rest)
  | field :: fields, [], position =>
    if field.mayEndBefore then collectItems expected context fields [] (position + 1)
    else .error (wrongLength position expected)
  | field :: fields, item :: rest, position => do
    field.check context item
    let (members, rest) ← collectItems expected context fields rest (position + 1)
    .ok ((field.name, item) :: members, rest)

/-- The reader of a record with this name. -/
def readWith (reader : RecordReader α) (unknown : UnknownMembers) (name : String) : Reader α
  | context, .object members closed => do
    let inner ← context.enter
    let members ← collect reader.fields unknown inner members []
    if ¬ closed then throw .form
    reader.build inner members
  | context, .array items closed => do
    let inner ← context.enter
    let count := reader.fields.length
    let elements := if count = 1 then " element" else " elements"
    let expected := "struct " ++ name ++ " with " ++ toString count ++ elements
    let brokenItems := if closed then items else items ++ [.broken]
    let (members, rest) ← collectItems expected inner reader.fields brokenItems 0
    if ¬ rest.isEmpty then
      if context.fromText then throw .form
      else throw (wrongLength items.length "fewer elements in array")
    reader.build inner members
  | _, other => wrongKind ("struct " ++ name) other

/-- The reader of a record with this name that skips unknown members. -/
def read (reader : RecordReader α) (name : String) : Reader α :=
  reader.readWith .skipped name

end RecordReader

/-! ## Whole texts and values -/

/-- Read a value that is at hand. -/
def readAs (read : Reader α) (value : Json) : Except Fault α :=
  read .value (source value)

/-- Read a whole text. -/
def readText (read : Reader α) (text : String) : Except Fault α := do
  let (value, ends) := sourceOfText text
  let result ← read .text value
  if ends then .ok result else .error .form

/-- Read a whole text as any value. -/
def parse (text : String) : Except Fault Json := readText readValue text

end BuildFleet.Json
