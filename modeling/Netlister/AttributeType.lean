/-! # Types of attributes

  An attribute is a truth value, an integer, a string, an array of one of these,
  or of a type that a schematic declares under a name of its own. The names of
  the three built-in types cannot be declared again.
-/

namespace Netlister

/-- The type of an attribute. -/
inductive AttributeType where
  /-- A truth value. -/
  | bool
  /-- A signed 64-bit integer. -/
  | int
  /-- A string. -/
  | string
  /-- An array whose elements are all of one type. -/
  | array (element : AttributeType)
  /-- The type that a schematic declares under this name. -/
  | user (name : String)
deriving DecidableEq, Inhabited

namespace AttributeType

/-- How a type is written in messages. -/
def text : AttributeType → String
  | bool => "Bool"
  | int => "Int"
  | string => "String"
  | array element => "Array<" ++ element.text ++ ">"
  | user name => name

/-- The names that always denote a type and cannot be declared. -/
def builtinNames : List String := ["Bool", "Int", "String"]

/-- The type that a built-in name denotes. -/
def builtin? (name : String) : Option AttributeType :=
  if name = "Bool" then some bool
  else if name = "Int" then some int
  else if name = "String" then some string
  else none

/-- The type that a written name denotes: a built-in one, else a declared one. -/
def ofName (name : String) : AttributeType := (builtin? name).getD (user name)

end AttributeType

end Netlister
