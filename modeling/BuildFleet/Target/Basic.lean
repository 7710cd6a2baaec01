import BuildFleet.Json.Reading

/-!
# Build targets

A target names a population of workers: one combination of architecture and
environment.
-/

namespace BuildFleet

structure Target where
  name : String
deriving DecidableEq, Repr, Inhabited

namespace Target

instance : LT Target := ⟨fun left right => left.name < right.name⟩

instance : DecidableLT Target := fun left right =>
  inferInstanceAs (Decidable (left.name < right.name))

def toJson (target : Target) : Json := .string target.name

def reader : Json.Reader Target := fun context value =>
  (Json.readString context value).map Target.mk

end Target

end BuildFleet
