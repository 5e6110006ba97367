import Netlister.Schematic.Error

/-! # Types declared by name

  A schematic gives names to attribute types. A new name may stand for a type
  that mentions older names only. The declarations are therefore kept newest
  first, and a name is resolved by walking towards older ones: this ends, and
  no chain of names can come back to its start.

  Main definitions: `UserTypes.resolve` replaces a name by what it stands for,
  `UserTypes.conforms` says whether a value belongs to a type.
-/

namespace Netlister

open Schematic (Error)

/-- The declared types of a schematic. -/
structure UserTypes where
  /-- Each name with the type it stands for, the newest declaration first. -/
  declarations : List (String × AttributeType) := []
deriving DecidableEq, Inhabited

namespace UserTypes

/-- The type that a name was declared to stand for. -/
def find? (u : UserTypes) (name : String) : Option AttributeType := u.declarations.lookup name

/-- Whether a name is declared. -/
def contains (u : UserTypes) (name : String) : Bool := (u.find? name).isSome

/-- The declarations with one more. -/
def declare (u : UserTypes) (name : String) (type : AttributeType) : UserTypes :=
  ⟨(name, type) :: u.declarations⟩

/-- Follows declared names until a built-in or array type is reached. What a
    declaration stands for is sought among the older declarations. -/
def resolveAmong : List (String × AttributeType) → AttributeType → Except Error AttributeType
  | [], .user name => .error (.undeclared name .userTypes)
  | (declared, type) :: older, .user name =>
    if name = declared then resolveAmong older type else resolveAmong older (.user name)
  | _, type => .ok type

/-- The built-in or array type that a type stands for. -/
def resolve (u : UserTypes) (type : AttributeType) : Except Error AttributeType :=
  resolveAmong u.declarations type

/-- Fails for a type that mentions a name without declaration. -/
def requireDeclared (u : UserTypes) : AttributeType → Except Error Unit
  | .user name => if u.contains name then .ok () else .error (.undeclared name .userTypes)
  | .array element => u.requireDeclared element
  | _ => .ok ()

mutual

/-- Whether a value belongs to a type. A type without declaration is an error
    wherever one is reached. -/
def conforms (u : UserTypes) : Value → AttributeType → Except Error Bool
  | .bool _, type => do return (← u.resolve type) = .bool
  | .int _, type => do return (← u.resolve type) = .int
  | .string _, type => do return (← u.resolve type) = .string
  | .array elements, type => do
    match ← u.resolve type with
    | .array element => u.allConform elements element
    | _ => return false

/-- Whether all values belong to a type; the first that does not decides. -/
def allConform (u : UserTypes) : List Value → AttributeType → Except Error Bool
  | [], _ => .ok true
  | v :: vs, type => do
    if ← u.conforms v type then u.allConform vs type else return false

end

end UserTypes

end Netlister
