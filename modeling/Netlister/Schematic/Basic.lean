import Netlister.Schematic.Declaration

/-! # Schematics

  A schematic is a flat circuit: types under names, and instances of types.

  - Nodes, connections and constraints are kept in the order of their creation.
  - A node owns one port for each port of its type, in name order.
  - A port is referred to by the name of its node and its own name.

  Looking something up by a name that nothing has is an error.
-/

namespace Netlister

open Schematic (Error Scope)

/-- A port of a node. -/
structure Port where
  /-- The name of the port, unique within its node. -/
  name : String
  /-- The type of the port. -/
  type : PortType
  /-- The attributes of the port. -/
  attributes : Attributes

/-- An instance of a node type. -/
structure Node where
  /-- The name of the node, unique within its schematic. -/
  name : String
  /-- The type of the node. -/
  type : NodeType
  /-- The attributes of the node. -/
  attributes : Attributes
  /-- The ports of the node, in name order. -/
  ports : List Port

/-- A reference to a port. -/
structure PortRef where
  /-- The name of the node that owns the port. -/
  node : String
  /-- The name of the port. -/
  port : String
deriving DecidableEq

/-- How a port is referred to in messages. -/
def PortRef.path (p : PortRef) : String := p.node ++ ":" ++ p.port

/-- An instance of a connection type, between two ports. -/
structure Connection where
  /-- The name of the connection, unique within its schematic. -/
  name : String
  /-- The type of the connection. -/
  type : ConnectionType
  /-- The end that is written first. -/
  source : PortRef
  /-- The end that is written second. -/
  target : PortRef
  /-- The attributes of the connection. -/
  attributes : Attributes

/-- An instance of a constraint type. -/
structure Constraint where
  /-- The name of the constraint, unique within its schematic. -/
  name : String
  /-- The type of the constraint. -/
  type : ConstraintType
  /-- The attributes of the constraint. -/
  attributes : Attributes

/-- The port of a node with a name. -/
def Node.port? (n : Node) (name : String) : Option Port := n.ports.find? (·.name = name)

/-- References to the ports of a node, in name order. -/
def Node.portRefs (n : Node) : List PortRef := n.ports.map fun p => ⟨n.name, p.name⟩

/-- A circuit: types under names, and instances of types. -/
structure Schematic where
  /-- The name of the schematic. -/
  name : String
  /-- The attribute types declared by name. -/
  userTypes : UserTypes := {}
  /-- The registered types of ports. -/
  portTypes : NameMap PortType := ∅
  /-- The registered types of nodes. -/
  nodeTypes : NameMap NodeType := ∅
  /-- The registered types of connections. -/
  connectionTypes : NameMap ConnectionType := ∅
  /-- The registered types of constraints. -/
  constraintTypes : NameMap ConstraintType := ∅
  /-- The nodes, in the order of their creation. -/
  nodes : List Node := []
  /-- The connections, in the order of their creation. -/
  connections : List Connection := []
  /-- The constraints, in the order of their creation. -/
  constraints : List Constraint := []

/-- The value, or the error that the name is not declared in the scope. -/
def Schematic.require {α : Type} (name : String) (scope : Scope) : Option α → Except Error α
  | some a => .ok a
  | none => .error (.undeclared name scope)

namespace Schematic

/-! ### Types by name -/

/-- The attribute type that a name denotes; built-in names come first. -/
def userType (s : Schematic) (name : String) : Except Error AttributeType :=
  require name .userTypes ((AttributeType.builtin? name).or (s.userTypes.find? name))

/-- The type of ports registered under a name. -/
def portType (s : Schematic) (name : String) : Except Error PortType :=
  require name .portTypes (s.portTypes.find? name)

/-- The type of nodes registered under a name. -/
def nodeType (s : Schematic) (name : String) : Except Error NodeType :=
  require name .nodeTypes (s.nodeTypes.find? name)

/-- The type of connections registered under a name. -/
def connectionType (s : Schematic) (name : String) : Except Error ConnectionType :=
  require name .connectionTypes (s.connectionTypes.find? name)

/-- The type of constraints registered under a name. -/
def constraintType (s : Schematic) (name : String) : Except Error ConstraintType :=
  require name .constraintTypes (s.constraintTypes.find? name)

/-! ### Names of types -/

/-- The least name that a type of ports is registered under. -/
def portTypeName? (s : Schematic) (type : PortType) : Option String := s.portTypes.nameOf? type

/-- The least name that a type of nodes is registered under. -/
def nodeTypeName? (s : Schematic) (type : NodeType) : Option String := s.nodeTypes.nameOf? type

/-- The least name that a type of connections is registered under. -/
def connectionTypeName? (s : Schematic) (type : ConnectionType) : Option String :=
  s.connectionTypes.nameOf? type

/-! ### Instances by name -/

/-- The node with a name, if there is one. -/
def node? (s : Schematic) (name : String) : Option Node := s.nodes.find? (·.name = name)

/-- The connection with a name, if there is one. -/
def connection? (s : Schematic) (name : String) : Option Connection :=
  s.connections.find? (·.name = name)

/-- The constraint with a name, if there is one. -/
def constraint? (s : Schematic) (name : String) : Option Constraint :=
  s.constraints.find? (·.name = name)

/-- The node with a name. -/
def node (s : Schematic) (name : String) : Except Error Node :=
  require name .nodes (s.node? name)

/-- The connection with a name. -/
def connection (s : Schematic) (name : String) : Except Error Connection :=
  require name .connections (s.connection? name)

/-- The constraint with a name. -/
def constraint (s : Schematic) (name : String) : Except Error Constraint :=
  require name .constraints (s.constraint? name)

/-! ### Ports -/

/-- References to all ports, in the order of their creation. -/
def portRefs (s : Schematic) : List PortRef := s.nodes.flatMap Node.portRefs

/-- The port that a reference refers to, if there is one. -/
def port? (s : Schematic) (p : PortRef) : Option Port := do (← s.node? p.node).port? p.port

/-- A reference to the port of a node, which must have it. -/
def portOf (n : Node) (port : String) : Except Error PortRef :=
  require port (.portsOf n.name) ((n.port? port).map fun p => ⟨n.name, p.name⟩)

/-- A reference to the port with a name of the node with a name; both must exist. -/
def portRef (s : Schematic) (node port : String) : Except Error PortRef := do
  portOf (← s.node node) port

end Schematic

end Netlister
