import BuildFleet.Target.Basic
import BuildFleet.Ordered
import BuildFleet.Failure

/-!
# The targets of a fleet

A registry holds the targets that the fleet recognises and named groups of
them. A list of names, of targets or of groups, expands to the set of targets
that it stands for.
-/

namespace BuildFleet

structure TargetRegistry where
  /-- The targets, in ascending order. -/
  targets : List Target
  /-- The members of every group, in ascending order of the groups' names. -/
  groups : List (String × List Target)
deriving DecidableEq, Repr, Inhabited

namespace TargetRegistry

/-- A registry of these targets without groups. -/
def ofNames (names : List String) : TargetRegistry :=
  ⟨Ordered.ofList (names.map Target.mk), []⟩

def contains (registry : TargetRegistry) (target : Target) : Bool :=
  registry.targets.contains target

/-- Name a group of known targets. A later group takes the place of an earlier
one of its name. -/
def addGroup (registry : TargetRegistry) (name : String) (members : List String) :
    Except Failure TargetRegistry :=
  let members := members.map Target.mk
  match members.find? fun member => !registry.contains member with
  | some unknown =>
    .error (.invalidTarget
      ("group '" ++ name ++ "' references unknown target '" ++ unknown.name ++ "'"))
  | none => .ok { registry with groups := Ordered.put name members registry.groups }

/-- The target with this name. -/
def resolve (registry : TargetRegistry) (name : String) : Except Failure Target :=
  if registry.contains ⟨name⟩ then .ok ⟨name⟩ else .error (.invalidTarget name)

/-- The targets that one name stands for. Groups come before targets. -/
def members (registry : TargetRegistry) (name : String) : Except Failure (List Target) :=
  match registry.groups.lookup name with
  | some members => .ok members
  | none => (registry.resolve name).map ([·])

/-- Add what each name stands for to a set of targets. -/
def expandInto (registry : TargetRegistry) : List Target → List String →
    Except Failure (List Target)
  | expanded, [] => .ok expanded
  | expanded, name :: rest => do
    let members ← registry.members name
    registry.expandInto (members.foldl (fun set target => Ordered.insert target set) expanded) rest

/-- The targets that the names stand for, in ascending order. There has to be one. -/
def expand (registry : TargetRegistry) (names : List String) : Except Failure (List Target) := do
  let expanded ← registry.expandInto [] names
  if expanded.isEmpty then .error (.invalidTarget "no targets given") else .ok expanded

/-! ## JSON form -/

def toJson (registry : TargetRegistry) : Json :=
  .object [
    ("targets", .array (registry.targets.map Target.toJson)),
    ("groups", .object (registry.groups.map fun group =>
      (group.1, .array (group.2.map Target.toJson))))]

def reader : Json.Reader TargetRegistry :=
  Json.RecordReader.read
    ((fun targets groups => ⟨Ordered.ofList targets, Ordered.ofEntries groups⟩) <$>
      .required "targets" (Json.readList Target.reader) <*>
      .required "groups" (Json.readDictionary (Json.readList Target.reader)))
    "TargetRegistry"

end TargetRegistry

end BuildFleet
