import Netlister.Proofs.Entries
import Netlister.Proofs.Schematic.Atomicity

/-! # Schematics in arenas

  In memory a node does not hold its ports. Nodes, ports and connections lie in arenas, one for
  each kind, and refer to each other by their places there: a node has a map from names to
  places of ports, a port knows the place of its node, and a connection has the places of its
  ends. Two indices lead from names to places. The number of places is not limited.

  All of this has to be kept in step. `Arenas.execute` takes a construction step in this form,
  one write after the other. A new node is put in without ports; then each port is put in and
  noted at the node; the name of the node comes last.

  - `forM_addPort`: what the loop over the ports of a new node leaves behind.
  - `Arenas.schematic`: the schematic that arenas stand for, in which a node holds its ports and
    a port is known by two names.
-/

namespace Netlister

open Schematic (Error Operation TypeNames refuse requirePorts newPorts)
open Outcome

/-! ### Arenas -/

/-- The place of a node in its arena. -/
abbrev NodeId := Nat

/-- The place of a port in its arena. -/
abbrev PortId := Nat

/-- The place of a connection in its arena. -/
abbrev ConnectionId := Nat

/-- A node as it is kept in an arena. -/
structure NodeValue where
  /-- The name of the node. -/
  name : String
  /-- The type of the node. -/
  type : NodeType
  /-- The attributes of the node. -/
  attributes : Attributes
  /-- The places of its ports, by their names. -/
  ports : NameMap PortId := ∅

/-- A port as it is kept in an arena. -/
structure PortValue where
  /-- The name of the port. -/
  name : String
  /-- The type of the port. -/
  type : PortType
  /-- The place of the node that owns the port. -/
  node : NodeId
  /-- The attributes of the port. -/
  attributes : Attributes

/-- A connection as it is kept in an arena. -/
structure ConnectionValue where
  /-- The name of the connection. -/
  name : String
  /-- The type of the connection. -/
  type : ConnectionType
  /-- The place of the end that is written first. -/
  source : PortId
  /-- The place of the end that is written second. -/
  target : PortId
  /-- The attributes of the connection. -/
  attributes : Attributes

/-- A schematic in memory. -/
structure Arenas where
  /-- The name of the schematic. -/
  name : String
  /-- The attribute types declared by name. -/
  userTypes : UserTypes := {}
  /-- The registered types of ports. -/
  portTypes : NameMap PortType := ∅
  /-- The registered types of nodes. -/
  nodeTypes : NameMap NodeType := ∅
  /-- The registered types of connections. -/
  connectionTypes : NameMap ConnectionType := ∅
  /-- The registered types of constraints. -/
  constraintTypes : NameMap ConstraintType := ∅
  /-- The arena of nodes. -/
  nodes : List NodeValue := []
  /-- The arena of ports. -/
  ports : List PortValue := []
  /-- The arena of connections. -/
  connections : List ConnectionValue := []
  /-- The constraints, by name and in the order of their creation. -/
  constraints : OrderedMap Constraint := ∅
  /-- The places of nodes, by name. -/
  nodeNames : NameMap NodeId := ∅
  /-- The places of connections, by name. -/
  connectionNames : NameMap ConnectionId := ∅

namespace Arenas

/-! ### Look-ups -/

/-- The place of the node with a name. -/
def node (a : Arenas) (name : String) : Except Error NodeId :=
  Schematic.require name .nodes (a.nodeNames.find? name)

/-- The place of the connection with a name. -/
def connection (a : Arenas) (name : String) : Except Error ConnectionId :=
  Schematic.require name .connections (a.connectionNames.find? name)

/-- The constraint with a name. -/
def constraint (a : Arenas) (name : String) : Except Error Constraint :=
  Schematic.require name .constraints (a.constraints.find? name)

/-- The names by which the port at a place is known. -/
def portRef (a : Arenas) (p : PortId) : PortRef :=
  match a.ports[p]? with
  | some port => ⟨((a.nodes[port.node]?).map (·.name)).getD "", port.name⟩
  | none => ⟨"", ""⟩

/-! ### Writes -/

/-- Puts in a node, and tells its place. -/
def allocateNode (node : NodeValue) : EStateM Error Arenas NodeId :=
  modifyGet fun a => (a.nodes.length, { a with nodes := a.nodes ++ [node] })

/-- Puts in a port, and tells its place. -/
def allocatePort (port : PortValue) : EStateM Error Arenas PortId :=
  modifyGet fun a => (a.ports.length, { a with ports := a.ports ++ [port] })

/-- Puts in a connection, and tells its place. -/
def allocateConnection (c : ConnectionValue) : EStateM Error Arenas ConnectionId :=
  modifyGet fun a => (a.connections.length, { a with connections := a.connections ++ [c] })

end Arenas

/-- Notes the place of a port at its node. -/
def NodeValue.note (name : String) (port : PortId) (node : NodeValue) : NodeValue :=
  { node with ports := node.ports.insert name port }

namespace Arenas

/-- Notes the place of a port at the node at a place. -/
def notePort (node : NodeId) (name : String) (port : PortId) : EStateM Error Arenas Unit :=
  modify fun a => { a with nodes := a.nodes.modify node (NodeValue.note name port) }

/-- Gives one more port to the node at a place. -/
def addPort (node : NodeId) (port : Port) : EStateM Error Arenas Unit := do
  let place ← allocatePort ⟨port.name, port.type, node, port.attributes⟩
  notePort node port.name place

/-! ### Construction steps -/

/-- Adds a node with its ports, and tells its place. -/
def addNode (name : String) (type : NodeType) (given : List (String × Value))
    (portGiven : List (String × List (String × Value))) : EStateM Error Arenas NodeId := do
  look fun a => refuse (.multipleAssignment .node name) (a.nodeNames.contains name)
  let attributes ← look fun a => Attributes.validate type.attributes a.userTypes given
  look fun _ => requirePorts name type portGiven
  let ports ← look fun a => newPorts a.userTypes type portGiven
  let node ← allocateNode { name, type, attributes }
  ports.forM (addPort node)
  modify fun a => { a with nodeNames := a.nodeNames.insert name node }
  return node

/-- Adds a connection between the ports at two places, and tells its place. -/
def addConnection (name : String) (type : ConnectionType) (source target : PortId)
    (given : List (String × Value)) : EStateM Error Arenas ConnectionId := do
  look fun a => refuse (.multipleAssignment .connection name) (a.connectionNames.contains name)
  let attributes ← look fun a => Attributes.validate type.attributes a.userTypes given
  let connection ← allocateConnection ⟨name, type, source, target, attributes⟩
  modify fun a => { a with connectionNames := a.connectionNames.insert name connection }
  return connection

/-- Adds a constraint. -/
def addConstraint (name : String) (type : ConstraintType) (given : List (String × Value)) :
    EStateM Error Arenas Unit := do
  look fun a => refuse (.multipleAssignment .constraint name) (a.constraints.find? name).isSome
  let attributes ← look fun a => Attributes.validate type.attributes a.userTypes given
  modify fun a => { a with constraints := a.constraints.insert name ⟨name, type, attributes⟩ }

/-- Declares an attribute type. -/
def addUserType (name : String) (type : AttributeType) : EStateM Error Arenas Unit := do
  look fun a => refuse (.multipleDefinition name .userTypes)
    (AttributeType.builtinNames.contains name || a.userTypes.contains name)
  look fun a => a.userTypes.requireDeclared type
  modify fun a => { a with userTypes := a.userTypes.declare name type }

/-- Where types of ports are registered. -/
def portTypeNames : TypeNames Arenas PortType :=
  ⟨.portTypes, portTypes, fun a m => { a with portTypes := m }⟩

/-- Where types of nodes are registered. -/
def nodeTypeNames : TypeNames Arenas NodeType :=
  ⟨.nodeTypes, nodeTypes, fun a m => { a with nodeTypes := m }⟩

/-- Where types of connections are registered. -/
def connectionTypeNames : TypeNames Arenas ConnectionType :=
  ⟨.connectionTypes, connectionTypes, fun a m => { a with connectionTypes := m }⟩

/-- Where types of constraints are registered. -/
def constraintTypeNames : TypeNames Arenas ConstraintType :=
  ⟨.constraintTypes, constraintTypes, fun a m => { a with constraintTypes := m }⟩

/-- Takes a construction step. -/
def execute : Operation PortId → EStateM Error Arenas Unit
  | .addUserType name type => addUserType name type
  | .addPortType name type => portTypeNames.register userTypes name type.attributes type
  | .addNodeType name type => nodeTypeNames.register userTypes name type.attributes type
  | .addConnectionType name type =>
    connectionTypeNames.register userTypes name type.attributes type
  | .addConstraintType name type =>
    constraintTypeNames.register userTypes name type.attributes type
  | .addNode name type given portGiven => discard (addNode name type given portGiven)
  | .addConnection name type source target given =>
    discard (addConnection name type source target given)
  | .addConstraint name type given => addConstraint name type given

/-! ### The ports of a new node -/

/-- A port of the node at a place, as it is kept in the arena. -/
def owned (node : NodeId) (port : Port) : PortValue :=
  ⟨port.name, port.type, node, port.attributes⟩

/-- The places that ports get which are put in one after the other, by their names. -/
def placesFrom (first : PortId) (ports : List Port) : List (String × PortId) :=
  (ports.zipIdx first).map fun (port, place) => (port.name, place)

/-- The ports of a new node are put in behind all others, and all are noted at the node. -/
theorem forM_addPort (a : Arenas) (node : NodeValue) (ports : List Port) :
    ports.forM (addPort a.nodes.length) { a with nodes := a.nodes ++ [node] } =
      .ok () { a with
        nodes := a.nodes ++ [{ node with
          ports := (placesFrom a.ports.length ports).foldl (fun m e => m.insert e.1 e.2) node.ports }]
        ports := a.ports ++ ports.map (owned a.nodes.length) } := by
  induction ports generalizing a node with
  | nil => simp [placesFrom, pure, EStateM.pure]
  | cons port ports ih =>
    -- The node under construction is the last one.
    have hlast : (a.nodes ++ [node]).modify a.nodes.length (NodeValue.note port.name a.ports.length) =
        a.nodes ++ [node.note port.name a.ports.length] := by
      simp [List.modify_eq_take_drop]
    show ports.forM (addPort a.nodes.length)
      { a with
        nodes := (a.nodes ++ [node]).modify a.nodes.length
          (NodeValue.note port.name a.ports.length)
        ports := a.ports ++ [owned a.nodes.length port] } = _
    rw [hlast]
    refine (ih { a with ports := a.ports ++ [owned a.nodes.length port] } _).trans ?_
    simp [placesFrom, NodeValue.note]

/-- The places are those from the first on, in order. -/
theorem mem_placesFrom {first : PortId} {ports : List Port} {name : String} {p : PortId} :
    (name, p) ∈ placesFrom first ports ↔
      first ≤ p ∧ ∃ port, ports[p - first]? = some port ∧ port.name = name := by
  unfold placesFrom
  simp only [List.mem_map, Prod.exists, Prod.mk.injEq, List.mk_mem_zipIdx_iff_le_and_getElem?_sub]
  constructor
  · rintro ⟨port, place, ⟨hfirst, hport⟩, hname, rfl⟩
    exact ⟨hfirst, port, hport, hname⟩
  · rintro ⟨hfirst, port, hport, hname⟩
    exact ⟨port, p, ⟨hfirst, hport⟩, hname, rfl⟩

theorem map_fst_placesFrom (first : PortId) (ports : List Port) :
    (placesFrom first ports).map (·.1) = ports.map (·.name) := by
  calc
    (placesFrom first ports).map (·.1)
      = ((ports.zipIdx first).map Prod.fst).map (·.name) := by
        rw [placesFrom, List.map_map, List.map_map]
        rfl
    _ = ports.map (·.name) := by rw [List.zipIdx_map_fst]

end Arenas

/-! ### The schematic that arenas stand for -/

/-- A port without the place of its node. -/
def PortValue.port (p : PortValue) : Port := ⟨p.name, p.type, p.attributes⟩

namespace Arenas

/-- The node that a node in the arena stands for: it has its ports, in name order. -/
def nodeOf (a : Arenas) (node : NodeValue) : Node where
  name := node.name
  type := node.type
  attributes := node.attributes
  ports := node.ports.values.filterMap fun p => (a.ports[p]?).map PortValue.port

/-- The connection that a connection in the arena stands for. -/
def connectionOf (a : Arenas) (c : ConnectionValue) : Connection :=
  ⟨c.name, c.type, a.portRef c.source, a.portRef c.target, c.attributes⟩

/-- The schematic that arenas stand for. -/
def schematic (a : Arenas) : Schematic where
  name := a.name
  userTypes := a.userTypes
  portTypes := a.portTypes
  nodeTypes := a.nodeTypes
  connectionTypes := a.connectionTypes
  constraintTypes := a.constraintTypes
  nodes := a.nodes.map a.nodeOf
  connections := a.connections.map a.connectionOf
  constraints := a.constraints.entries.map (·.2)

end Arenas

end Netlister
