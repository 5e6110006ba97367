import Netlister.Schematic.Basic

/-! # Building a schematic

  Each step gives the extended schematic or an error; a step that fails leaves
  nothing behind. New instances stand after all older ones.
-/

namespace Netlister.Schematic

/-- Fails for a schema that mentions an undeclared type. -/
def requireSchema (s : Schematic) (schema : Schema) : Except Error Unit :=
  schema.values.forM s.userTypes.requireDeclared

/-- Registers a value under a name that must be new to the scope. -/
def register {α : Type} (scope : Scope) (m : NameMap α) (name : String) (value : α) :
    Except Error (NameMap α) :=
  if m.contains name then .error (.multipleDefinition name scope) else .ok (m.insert name value)

/-! ### Types -/

/-- Declares an attribute type under a name. The names of built-in types are
    taken, and the type may only mention names declared before. -/
def addUserType (s : Schematic) (name : String) (type : AttributeType) :
    Except Error Schematic := do
  if AttributeType.builtinNames.contains name || s.userTypes.contains name then
    throw (.multipleDefinition name .userTypes)
  s.userTypes.requireDeclared type
  return { s with userTypes := s.userTypes.declare name type }

/-- Registers a type of ports under a name. -/
def addPortType (s : Schematic) (name : String) (type : PortType) : Except Error Schematic := do
  s.requireSchema type.attributes
  return { s with portTypes := ← register .portTypes s.portTypes name type }

/-- Registers a type of nodes under a name. -/
def addNodeType (s : Schematic) (name : String) (type : NodeType) : Except Error Schematic := do
  s.requireSchema type.attributes
  return { s with nodeTypes := ← register .nodeTypes s.nodeTypes name type }

/-- Registers a type of connections under a name. -/
def addConnectionType (s : Schematic) (name : String) (type : ConnectionType) :
    Except Error Schematic := do
  s.requireSchema type.attributes
  return { s with connectionTypes := ← register .connectionTypes s.connectionTypes name type }

/-- Registers a type of constraints under a name. -/
def addConstraintType (s : Schematic) (name : String) (type : ConstraintType) :
    Except Error Schematic := do
  s.requireSchema type.attributes
  return { s with constraintTypes := ← register .constraintTypes s.constraintTypes name type }

/-! ### Instances -/

/-- The ports of a new node, with the attributes given for each. Where a port is
    given twice the first counts; a port that is not given has none. -/
def newPorts (types : UserTypes) (type : NodeType)
    (given : List (String × List (String × Value))) : Except Error (List Port) :=
  type.ports.entries.mapM fun (name, portType) => do
    let values := (given.lookup name).getD []
    return ⟨name, portType, ← Attributes.validate portType.attributes types values⟩

/-- Adds a node with its ports. -/
def addNode (s : Schematic) (name : String) (type : NodeType) (attributes : List (String × Value))
    (portAttributes : List (String × List (String × Value))) : Except Error Schematic := do
  if (s.node? name).isSome then
    throw (.multipleAssignment .node name)
  let attributes ← Attributes.validate type.attributes s.userTypes attributes
  -- A port that does not exist counts before the attributes of those that do.
  match portAttributes.find? fun given => !type.ports.contains given.1 with
  | some (port, _) => throw (.undeclared port (.portsOf name))
  | none =>
    let ports ← newPorts s.userTypes type portAttributes
    return { s with nodes := s.nodes ++ [⟨name, type, attributes, ports⟩] }

/-- Adds a connection between two ports. -/
def addConnection (s : Schematic) (name : String) (type : ConnectionType)
    (source target : PortRef) (attributes : List (String × Value)) : Except Error Schematic := do
  if (s.connection? name).isSome then
    throw (.multipleAssignment .connection name)
  let attributes ← Attributes.validate type.attributes s.userTypes attributes
  return { s with connections := s.connections ++ [⟨name, type, source, target, attributes⟩] }

/-- Adds a constraint. -/
def addConstraint (s : Schematic) (name : String) (type : ConstraintType)
    (attributes : List (String × Value)) : Except Error Schematic := do
  if (s.constraint? name).isSome then
    throw (.multipleAssignment .constraint name)
  let attributes ← Attributes.validate type.attributes s.userTypes attributes
  return { s with constraints := s.constraints ++ [⟨name, type, attributes⟩] }

end Netlister.Schematic
