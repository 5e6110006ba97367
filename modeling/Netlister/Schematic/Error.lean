import Netlister.Value

/-! # What can go wrong in a schematic

  An error is a cause together with the names it concerns; `Error.message` is the
  only place where causes are put into words.
-/

namespace Netlister.Schematic

/-- A place where names are declared or looked up. -/
inductive Scope where
  | userTypes
  | portTypes
  | nodeTypes
  | connectionTypes
  | constraintTypes
  | portTypeAttributes
  | nodeTypeAttributes
  | nodeTypePorts
  | connectionTypeAttributes
  | constraintTypeAttributes
  | nodes
  | connections
  | constraints
  /-- The ports of the node of this name. -/
  | portsOf (node : String)
deriving DecidableEq

/-- How a scope is called in messages. -/
def Scope.text : Scope → String
  | userTypes => "user types"
  | portTypes => "port types"
  | nodeTypes => "node types"
  | connectionTypes => "connection types"
  | constraintTypes => "constraint types"
  | portTypeAttributes => "port type attributes"
  | nodeTypeAttributes => "node type attributes"
  | nodeTypePorts => "node type ports"
  | connectionTypeAttributes => "connection type attributes"
  | constraintTypeAttributes => "constraint type attributes"
  | nodes => "nodes"
  | connections => "connections"
  | constraints => "constraints"
  | portsOf node => s!"ports of node '{node}'"

/-- What is given a value, or is itself given, at most once. -/
inductive Assignable where
  | node
  | connection
  | constraint
  | attr
deriving DecidableEq

/-- How an assignable thing is called in messages. -/
def Assignable.text : Assignable → String
  | node => "node"
  | connection => "connection"
  | constraint => "constraint"
  | attr => "attribute"

/-- Why a schematic cannot be extended, or why a look-up in it fails. -/
inductive Error where
  /-- The name is not declared in the scope. -/
  | undeclared (name : String) (scope : Scope)
  /-- The name is declared in the scope already. -/
  | multipleDefinition (name : String) (scope : Scope)
  /-- A thing of this kind and name exists already. -/
  | multipleAssignment (kind : Assignable) (name : String)
  /-- The attribute has no value. -/
  | undeclaredAttribute (name : String)
  /-- The attribute does not belong to the type. -/
  | invalidAttribute (name : String)
  /-- The attribute has a value of another type. -/
  | typeMismatch (name : String) (expected : AttributeType) (found : Value)

/-- The message for an error. -/
def Error.message : Error → String
  | undeclared name scope => s!"undeclared identifier '{name}' in " ++ scope.text
  | multipleDefinition name scope => s!"multiple definition of '{name}' in " ++ scope.text
  | multipleAssignment kind name => "multiple assignment of " ++ kind.text ++ s!" '{name}'"
  | undeclaredAttribute name => s!"undeclared attribute '{name}'"
  | invalidAttribute name => s!"invalid attribute '{name}': not declared by its type"
  | typeMismatch name expected found =>
    s!"attribute '{name}' expects a value of type " ++ expected.text ++ ", found " ++ found.text

end Netlister.Schematic
