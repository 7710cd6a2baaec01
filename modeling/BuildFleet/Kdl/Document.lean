/-!
# KDL documents

A document is a list of nodes. A node has a name, entries, which are arguments
or properties, and perhaps children. Type annotations say nothing that a reader
of a document needs and are not kept.
-/

namespace BuildFleet.Kdl

inductive Value where
  | string (text : String)
  | integer (value : Int)
  /-- A number with a fraction or an exponent, or a number that is none, as written. -/
  | decimal (literal : String)
  | bool (value : Bool)
  | null
deriving DecidableEq, Repr, Inhabited

namespace Value

def string? : Value → Option String
  | string text => some text
  | _ => none

def integer? : Value → Option Int
  | integer value => some value
  | _ => none

def bool? : Value → Option Bool
  | bool value => some value
  | _ => none

end Value

/-- An argument, or a property if it has a name. -/
structure Entry where
  name : Option String
  value : Value
deriving DecidableEq, Repr, Inhabited

inductive Node where
  | mk (name : String) (entries : List Entry) (children : List Node)
deriving Repr, Inhabited

mutual

/-- Whether two nodes are the same. -/
def Node.decEq : (left right : Node) → Decidable (left = right)
  | .mk leftName leftEntries leftChildren, .mk rightName rightEntries rightChildren =>
    match Node.decEqEach leftChildren rightChildren with
    | isTrue same =>
      decidable_of_iff (leftName = rightName ∧ leftEntries = rightEntries) (by simp [same])
    | isFalse different => isFalse fun same => by
        injection same with _ _ children
        exact different children

/-- Whether two lists of nodes are the same. -/
def Node.decEqEach : (left right : List Node) → Decidable (left = right)
  | [], [] => isTrue rfl
  | [], _ :: _ => isFalse nofun
  | _ :: _, [] => isFalse nofun
  | left :: leftRest, right :: rightRest =>
    match Node.decEq left right, Node.decEqEach leftRest rightRest with
    | isTrue same, isTrue sameRest => isTrue (by rw [same, sameRest])
    | isFalse different, _ => isFalse fun same => different (List.cons.inj same).1
    | _, isFalse different => isFalse fun same => different (List.cons.inj same).2

end

instance : DecidableEq Node := Node.decEq

abbrev Document := List Node

namespace Node

def name : Node → String
  | mk name _ _ => name

def entries : Node → List Entry
  | mk _ entries _ => entries

def children : Node → List Node
  | mk _ _ children => children

/-- The values of the arguments. -/
def arguments (node : Node) : List Value :=
  (node.entries.filter (·.name.isNone)).map (·.value)

/-- The value of a property; the last one of its name counts. -/
def property? (node : Node) (name : String) : Option Value :=
  (node.entries.reverse.find? (·.name == some name)).map (·.value)

end Node

end BuildFleet.Kdl
