import Netlister.NameMap
import Netlister.UserTypes

/-! # Attributes

  A type says which attributes its instances have, and of which type each is: its
  *schema*. An instance has exactly these attributes, each with a value that
  belongs to the type; `Attributes.validate` makes sure of it.
-/

namespace Netlister

open Schematic (Error)

/-- The attributes that a type declares, with their types. -/
abbrev Schema := NameMap AttributeType

/-- The attributes of an instance, with their values. -/
abbrev Attributes := NameMap Value

namespace Attributes

/-- Takes one given value into the attributes: it must be declared, of the
    declared type, and not given before. -/
def assign (schema : Schema) (types : UserTypes) (assigned : Attributes)
    (given : String × Value) : Except Error Attributes := do
  match schema.find? given.1 with
  | none => throw (.invalidAttribute given.1)
  | some expected =>
    -- Of a second value for a name, too, the type counts first.
    if !(← types.conforms given.2 expected) then
      throw (.typeMismatch given.1 expected given.2)
    if assigned.contains given.1 then
      throw (.multipleAssignment .attr given.1)
    return assigned.insert given.1 given.2

/-- The attributes with the given values, which must be exactly those of the
    schema. The first offending value decides; a missing one counts only if no
    given one offends, and the least name is reported. -/
def validate (schema : Schema) (types : UserTypes) (given : List (String × Value)) :
    Except Error Attributes := do
  let assigned ← given.foldlM (assign schema types) NameMap.empty
  match schema.names.find? fun name => !assigned.contains name with
  | some missing => throw (.undeclaredAttribute missing)
  | none => return assigned

/-- The value of an attribute. -/
def get (attributes : Attributes) (name : String) : Except Error Value :=
  match attributes.find? name with
  | some value => .ok value
  | none => .error (.undeclaredAttribute name)

/-- The value of an attribute that has to be a truth value. -/
def getBool (attributes : Attributes) (name : String) : Except Error Bool := do
  match ← attributes.get name with
  | .bool b => return b
  | other => throw (.typeMismatch name .bool other)

end Attributes

end Netlister
