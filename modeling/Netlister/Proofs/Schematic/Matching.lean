import Netlister.Proofs.Entries
import Netlister.Proofs.Schematic.Conforming

/-! # Schematics that differ in their declarations only

  A declaration is known by a serial number, which says nothing about a circuit. Two
  schematics are the same for every purpose if one has, in place of each declaration of the
  other, one that says the same, and different ones in place of different ones.

  - `Settled`: the types in use are registered, and no declaration has two names. Then types
    can be told apart by their names.
  - `Matches`: the second schematic has the matches of the declarations of the first.
  - `Matches.dump_eq`: all that can be listed of the two is the same, if the first is settled.
-/

namespace Netlister

namespace Schematic

/-- All types in use are registered, and no declaration is registered under two names. -/
structure Settled (s : Schematic) : Prop where
  /-- The types of nodes are registered. -/
  nodes : ∀ node ∈ s.nodes, s.nodeTypes.Has node.type
  /-- The types of connections are registered. -/
  connections : ∀ c ∈ s.connections, s.connectionTypes.Has c.type
  /-- The types of constraints are registered. -/
  constraints : ∀ c ∈ s.constraints, s.constraintTypes.Has c.type
  /-- The types of the ports of registered types of nodes are registered. -/
  ports : ∀ type, s.nodeTypes.Has type → ∀ port, type.ports.Has port → s.portTypes.Has port
  /-- No type of ports has two names. -/
  portOnce : s.portTypes.Once
  /-- No type of nodes has two names. -/
  nodeOnce : s.nodeTypes.Once
  /-- No type of connections has two names. -/
  connectionOnce : s.connectionTypes.Once
  /-- No type of constraints has two names. -/
  constraintOnce : s.constraintTypes.Once

theorem settled_iff {s : Schematic} :
    s.Settled ↔ ((∀ node ∈ s.nodes, s.nodeTypes.Has node.type) ∧
      (∀ c ∈ s.connections, s.connectionTypes.Has c.type) ∧
      (∀ c ∈ s.constraints, s.constraintTypes.Has c.type) ∧
      (∀ type ∈ s.nodeTypes.values, ∀ port ∈ type.ports.values, s.portTypes.Has port)) ∧
      (s.portTypes.Once ∧ s.nodeTypes.Once ∧ s.connectionTypes.Once ∧ s.constraintTypes.Once) := by
  simp only [NameMap.mem_values_iff]
  constructor
  · intro h
    exact ⟨⟨h.nodes, h.connections, h.constraints, h.ports⟩,
      h.portOnce, h.nodeOnce, h.connectionOnce, h.constraintOnce⟩
  · rintro ⟨⟨hnodes, hconnections, hconstraints, hports⟩, hport, hnode, hconnection, hconstraint⟩
    exact ⟨hnodes, hconnections, hconstraints, hports, hport, hnode, hconnection, hconstraint⟩

instance (s : Schematic) : Decidable s.Settled := decidable_of_iff _ settled_iff.symm

/-- The ports of all nodes are of registered types. -/
theorem Settled.has_port {s : Schematic} (h : s.Settled) (hs : s.Consistent) {node : Node}
    (hnode : node ∈ s.nodes) {port : Port} (hport : port ∈ node.ports) :
    s.portTypes.Has port.type := by
  have hentry : (port.name, port.type) ∈ node.type.ports.entries := by
    rw [← hs.ports node hnode]
    exact List.mem_map.2 ⟨port, hport, rfl⟩
  exact h.ports node.type (h.nodes node hnode) port.type
    ⟨port.name, NameMap.find?_eq_some_iff.2 hentry⟩

end Schematic

/-! ### Exchanging declarations -/

/-- For each declaration another one. -/
structure Matching where
  port : PortType → PortType
  node : NodeType → NodeType
  connection : ConnectionType → ConnectionType
  constraint : ConstraintType → ConstraintType

section Retype

variable (m : Matching)

/-- The port with the match of its type. -/
def Port.retype (p : Port) : Port := { p with type := m.port p.type }

/-- The node with the match of its type, also for its ports. -/
def Node.retype (n : Node) : Node :=
  { n with type := m.node n.type, ports := n.ports.map (Port.retype m) }

/-- The connection with the match of its type. -/
def Connection.retype (c : Connection) : Connection := { c with type := m.connection c.type }

/-- The constraint with the match of its type. -/
def Constraint.retype (c : Constraint) : Constraint := { c with type := m.constraint c.type }

/-- References to ports do not mention types. -/
@[simp] theorem Node.portRefs_retype (n : Node) : (n.retype m).portRefs = n.portRefs := by
  unfold Node.portRefs Node.retype
  rw [List.map_map]
  rfl

theorem Node.port?_retype (n : Node) (name : String) :
    (n.retype m).port? name = (n.port? name).map (Port.retype m) := by
  unfold Node.port? Node.retype
  rw [List.find?_map]
  rfl

end Retype

namespace Schematic

/-- Different registered types have different matches, and a match declares the same as its
    type. -/
structure Faithful (m : Matching) (s : Schematic) : Prop where
  portInj : Set.InjOn m.port {type | s.portTypes.Has type}
  nodeInj : Set.InjOn m.node {type | s.nodeTypes.Has type}
  connectionInj : Set.InjOn m.connection {type | s.connectionTypes.Has type}
  constraintInj : Set.InjOn m.constraint {type | s.constraintTypes.Has type}
  portAttributes : ∀ type, s.portTypes.Has type → (m.port type).attributes = type.attributes
  nodeAttributes : ∀ type, s.nodeTypes.Has type → (m.node type).attributes = type.attributes
  nodePorts : ∀ type, s.nodeTypes.Has type → (m.node type).ports = type.ports.map m.port
  connectionAttributes : ∀ type, s.connectionTypes.Has type →
    (m.connection type).attributes = type.attributes
  constraintAttributes : ∀ type, s.constraintTypes.Has type →
    (m.constraint type).attributes = type.attributes

/-- `t` is `s` with a match in place of each declaration. -/
structure Matches (m : Matching) (s t : Schematic) : Prop where
  faithful : Faithful m s
  name : t.name = s.name
  /-- The attribute types that are declared by name may have been declared in another order. -/
  userTypes : ∀ name, t.userTypes.find? name = s.userTypes.find? name
  portTypes : t.portTypes = s.portTypes.map m.port
  nodeTypes : t.nodeTypes = s.nodeTypes.map m.node
  connectionTypes : t.connectionTypes = s.connectionTypes.map m.connection
  constraintTypes : t.constraintTypes = s.constraintTypes.map m.constraint
  nodes : t.nodes = s.nodes.map (Node.retype m)
  connections : t.connections = s.connections.map (Connection.retype m)
  constraints : t.constraints = s.constraints.map (Constraint.retype m)

section Matches

variable {m : Matching} {s t : Schematic}

theorem Matches.node?_eq (h : Matches m s t) (name : String) :
    t.node? name = (s.node? name).map (Node.retype m) := by
  unfold node?
  rw [h.nodes, List.find?_map]
  rfl

theorem Matches.port?_eq (h : Matches m s t) (p : PortRef) :
    t.port? p = (s.port? p).map (Port.retype m) := by
  unfold port?
  rw [h.node?_eq]
  cases s.node? p.node with
  | none => rfl
  | some node => exact node.port?_retype m p.port

theorem Matches.portRefs_eq (h : Matches m s t) : t.portRefs = s.portRefs := by
  unfold portRefs
  rw [h.nodes, List.flatMap_map]
  simp only [Node.portRefs_retype]

/-! Registered types keep their names. -/

theorem Matches.portTypeName?_eq (h : Matches m s t) {type : PortType}
    (htype : s.portTypes.Has type) : t.portTypeName? (m.port type) = s.portTypeName? type := by
  unfold portTypeName?
  rw [h.portTypes]
  exact NameMap.nameOf?_map h.faithful.portInj htype

theorem Matches.nodeTypeName?_eq (h : Matches m s t) {type : NodeType}
    (htype : s.nodeTypes.Has type) : t.nodeTypeName? (m.node type) = s.nodeTypeName? type := by
  unfold nodeTypeName?
  rw [h.nodeTypes]
  exact NameMap.nameOf?_map h.faithful.nodeInj htype

theorem Matches.connectionTypeName?_eq (h : Matches m s t) {type : ConnectionType}
    (htype : s.connectionTypes.Has type) :
    t.connectionTypeName? (m.connection type) = s.connectionTypeName? type := by
  unfold connectionTypeName?
  rw [h.connectionTypes]
  exact NameMap.nameOf?_map h.faithful.connectionInj htype

end Matches

/-! ### Listing a schematic -/

/-- What can be listed of an instance: its name, the name of its type, and its attributes. -/
structure InstanceDump where
  name : String
  type : Option String
  attributes : Attributes

/-- What can be listed of a schematic. Types are listed by name, never by serial number. -/
structure Dump where
  name : String
  userTypes : String → Option AttributeType
  portTypes : NameMap Schema
  /-- The attributes of each type of nodes, and the names of the types of its ports. -/
  nodeTypes : NameMap (Schema × NameMap (Option String))
  connectionTypes : NameMap Schema
  constraintTypes : NameMap Schema
  /-- The nodes in order, each with its ports in order. -/
  nodes : List (InstanceDump × List InstanceDump)
  /-- All ports, in the order of their creation. -/
  ports : List PortRef
  /-- The connections in order, each with its two ends. -/
  connections : List (InstanceDump × PortRef × PortRef)
  /-- The constraints in order. -/
  constraints : List InstanceDump

/-- The list of all that is in a schematic. -/
def dump (s : Schematic) : Dump where
  name := s.name
  userTypes := s.userTypes.find?
  portTypes := s.portTypes.map (·.attributes)
  nodeTypes := s.nodeTypes.map fun type => (type.attributes, type.ports.map s.portTypeName?)
  connectionTypes := s.connectionTypes.map (·.attributes)
  constraintTypes := s.constraintTypes.map (·.attributes)
  nodes := s.nodes.map fun n =>
    (⟨n.name, s.nodeTypeName? n.type, n.attributes⟩,
      n.ports.map fun p => ⟨p.name, s.portTypeName? p.type, p.attributes⟩)
  ports := s.portRefs
  connections := s.connections.map fun c =>
    (⟨c.name, s.connectionTypeName? c.type, c.attributes⟩, c.source, c.target)
  constraints := s.constraints.map fun c => ⟨c.name, s.constraintTypes.nameOf? c.type, c.attributes⟩

/-- A view of matches that is the same as that of the types is the same for the whole map. -/
theorem map_map_eq {α β γ : Type} {n : NameMap α} {f : α → β} {g : β → γ} {k : α → γ}
    (h : ∀ v, n.Has v → g (f v) = k v) : (n.map f).map g = n.map k := by
  apply NameMap.eq_of_find?_eq
  intro name
  rw [NameMap.find?_map, NameMap.find?_map, NameMap.find?_map, Option.map_map]
  cases hv : n.find? name with
  | none => rfl
  | some v => exact congrArg some (h v ⟨name, hv⟩)

/-- Schematics that match are listed alike. -/
theorem Matches.dump_eq {m : Matching} {s t : Schematic} (h : Matches m s t) (hs : s.Settled)
    (hconsistent : s.Consistent) : t.dump = s.dump := by
  have hports (type : NodeType) (htype : s.nodeTypes.Has type) :
      (m.node type).ports.map t.portTypeName? = type.ports.map s.portTypeName? := by
    rw [h.faithful.nodePorts type htype]
    exact map_map_eq fun port hport => h.portTypeName?_eq (hs.ports type htype port hport)
  unfold dump
  congr 1
  · exact h.name
  · exact funext h.userTypes
  · rw [h.portTypes]
    exact map_map_eq h.faithful.portAttributes
  · rw [h.nodeTypes]
    refine map_map_eq fun type htype => ?_
    rw [h.faithful.nodeAttributes type htype, hports type htype]
  · rw [h.connectionTypes]
    exact map_map_eq h.faithful.connectionAttributes
  · rw [h.constraintTypes]
    exact map_map_eq h.faithful.constraintAttributes
  · rw [h.nodes, List.map_map]
    refine List.map_congr_left fun node hnode => ?_
    have hnames : ∀ port ∈ node.ports,
        t.portTypeName? (m.port port.type) = s.portTypeName? port.type :=
      fun port hport => h.portTypeName?_eq (hs.has_port hconsistent hnode hport)
    simp only [Function.comp, Node.retype, h.nodeTypeName?_eq (hs.nodes node hnode), List.map_map]
    congr 1
    refine List.map_congr_left fun port hport => ?_
    simp only [Function.comp, Port.retype, hnames port hport]
  · exact h.portRefs_eq
  · rw [h.connections, List.map_map]
    refine List.map_congr_left fun c hc => ?_
    simp only [Function.comp, Connection.retype, h.connectionTypeName?_eq (hs.connections c hc)]
  · rw [h.constraints, h.constraintTypes, List.map_map]
    refine List.map_congr_left fun c hc => ?_
    simp only [Function.comp, Constraint.retype,
      NameMap.nameOf?_map h.faithful.constraintInj (hs.constraints c hc)]

end Schematic

end Netlister
