import Netlister.Proofs.Schematic.Reachable

/-! # Attributes and ports of reachable schematics

  - `Reachable.conforming`: all attributes are those of the schema, with values of the declared
    types. This is what a step could undo, since it speaks of the types declared now and not of
    those when the instance was added. It is kept because declarations only grow.
  - `Consistent.mem_portRefs_iff_isSome`, `Consistent.nodup_portRefs`: every port is listed, and
    none is listed twice.
-/

namespace Netlister

/-- Attributes that meet a schema meet it after a further declaration. -/
theorem Attributes.Meets.declare {schema : Schema} {types : UserTypes} {attributes : Attributes}
    {name : String} (h : Meets schema types attributes) (hnew : types.find? name = none)
    (declared : AttributeType) : Meets schema (types.declare name declared) attributes where
  declared := by
    intro attr value hvalue
    obtain ⟨type, htype, hconf⟩ := h.declared attr value hvalue
    exact ⟨type, htype, UserTypes.conforms_declare hnew value type true hconf⟩
  complete := h.complete

namespace Schematic

/-! ### What steps keep -/

/-- Only one step adds constraints, and it asks for a new name. -/
theorem Reachable.nodup_constraintNames {s : Schematic} (h : s.Reachable) :
    (s.constraints.map (·.name)).Nodup := by
  refine h.induction (P := fun s => (s.constraints.map (·.name)).Nodup)
    (fun _ => List.nodup_nil) ?_
  intro s s' op ih hop
  cases op with
  | addConstraint name type given =>
    obtain ⟨hnew, attributes, -, rfl⟩ := hop
    exact nodup_names_concat ih hnew
  | addUserType name type => obtain ⟨-, rfl⟩ := hop; exact ih
  | addPortType name type => obtain ⟨-, _, -, rfl⟩ := hop; exact ih
  | addNodeType name type => obtain ⟨-, _, -, rfl⟩ := hop; exact ih
  | addConnectionType name type => obtain ⟨-, _, -, rfl⟩ := hop; exact ih
  | addConstraintType name type => obtain ⟨-, _, -, rfl⟩ := hop; exact ih
  | addNode name type given portGiven => obtain ⟨-, _, _, -, -, rfl⟩ := hop; exact ih
  | addConnection name type source target given => obtain ⟨-, _, -, rfl⟩ := hop; exact ih

/-- The attributes of all instances meet the schemas of their types, as types are
    declared now. -/
structure Conforming (s : Schematic) : Prop where
  nodes : ∀ node ∈ s.nodes, Attributes.Meets node.type.attributes s.userTypes node.attributes
  ports : ∀ node ∈ s.nodes, ∀ port ∈ node.ports,
    Attributes.Meets port.type.attributes s.userTypes port.attributes
  connections : ∀ c ∈ s.connections, Attributes.Meets c.type.attributes s.userTypes c.attributes
  constraints : ∀ c ∈ s.constraints, Attributes.Meets c.type.attributes s.userTypes c.attributes

/-- The ports of a new node have the attributes of their types. -/
theorem meets_of_newPorts {types : UserTypes} {type : NodeType}
    {given : List (String × List (String × Value))} {ports : List Port}
    (h : newPorts types type given = .ok ports) {port : Port} (hport : port ∈ ports) :
    Attributes.Meets port.type.attributes types port.attributes := by
  obtain ⟨entry, -, hentry⟩ := (Outcome.mem_iff_of_mapM h).1 hport
  obtain ⟨attributes, hattributes, hentry⟩ := Outcome.bind_eq_ok.1 hentry
  cases hentry
  exact Attributes.meets_of_validate hattributes

/-- A step that adds an instance gives it the attributes of its type; a step that declares
    a type takes no value out of any other. -/
theorem Conforming.step {s s' : Schematic} {op : Operation} (hs : s.Conforming)
    (hop : op.Extends s s') : s'.Conforming := by
  cases op with
  | addUserType name type =>
    -- No instance changes, but what its values have to conform to does.
    obtain ⟨⟨-, hnew, -⟩, rfl⟩ := hop
    exact ⟨fun node hnode => (hs.nodes node hnode).declare hnew type,
      fun node hnode port hport => (hs.ports node hnode port hport).declare hnew type,
      fun c hc => (hs.connections c hc).declare hnew type,
      fun c hc => (hs.constraints c hc).declare hnew type⟩
  | addPortType name type =>
    obtain ⟨-, _, -, rfl⟩ := hop
    exact ⟨hs.nodes, hs.ports, hs.connections, hs.constraints⟩
  | addNodeType name type =>
    obtain ⟨-, _, -, rfl⟩ := hop
    exact ⟨hs.nodes, hs.ports, hs.connections, hs.constraints⟩
  | addConnectionType name type =>
    obtain ⟨-, _, -, rfl⟩ := hop
    exact ⟨hs.nodes, hs.ports, hs.connections, hs.constraints⟩
  | addConstraintType name type =>
    obtain ⟨-, _, -, rfl⟩ := hop
    exact ⟨hs.nodes, hs.ports, hs.connections, hs.constraints⟩
  | addNode name type given portGiven =>
    obtain ⟨-, attributes, ports, hattributes, hports, rfl⟩ := hop
    have hnode : Attributes.Meets type.attributes s.userTypes attributes :=
      Attributes.meets_of_validate hattributes
    exact ⟨List.forall_mem_append.2 ⟨hs.nodes, List.forall_mem_singleton.2 hnode⟩,
      List.forall_mem_append.2 ⟨hs.ports,
        List.forall_mem_singleton.2 fun _ hport => meets_of_newPorts hports hport⟩,
      hs.connections, hs.constraints⟩
  | addConnection name type source target given =>
    obtain ⟨-, attributes, hattributes, rfl⟩ := hop
    have hconnection : Attributes.Meets type.attributes s.userTypes attributes :=
      Attributes.meets_of_validate hattributes
    exact ⟨hs.nodes, hs.ports,
      List.forall_mem_append.2 ⟨hs.connections, List.forall_mem_singleton.2 hconnection⟩,
      hs.constraints⟩
  | addConstraint name type given =>
    obtain ⟨-, attributes, hattributes, rfl⟩ := hop
    have hconstraint : Attributes.Meets type.attributes s.userTypes attributes :=
      Attributes.meets_of_validate hattributes
    exact ⟨hs.nodes, hs.ports, hs.connections,
      List.forall_mem_append.2 ⟨hs.constraints, List.forall_mem_singleton.2 hconstraint⟩⟩

/-- In every schematic that can be built, attributes meet their schemas. -/
theorem Reachable.conforming {s : Schematic} (h : s.Reachable) : s.Conforming :=
  h.induction (fun _ => ⟨by simp, by simp, by simp, by simp⟩) fun hs hop => hs.step hop

/-! ### Ports -/

section Ports

variable {s : Schematic} {node : Node} {p : PortRef}

/-- A port of the schematic is a port of the node with its first name. -/
theorem port?_eq_some_iff {port : Port} :
    s.port? p = some port ↔ ∃ node, s.node? p.node = some node ∧ node.port? p.port = some port := by
  unfold Schematic.port?
  simp only [Option.bind_eq_bind, Option.bind_eq_some_iff]

/-- The references of a schematic are those of its nodes. -/
theorem mem_portRefs_iff :
    p ∈ s.portRefs ↔ ∃ node ∈ s.nodes, p ∈ node.portRefs := by
  unfold portRefs
  exact List.mem_flatMap

/-- A reference is listed iff there is a port for it. -/
theorem Consistent.mem_portRefs_iff_isSome (hs : s.Consistent) :
    p ∈ s.portRefs ↔ (s.port? p).isSome := by
  rw [mem_portRefs_iff, Option.isSome_iff_exists]
  constructor
  · rintro ⟨node, hnode, hp⟩
    obtain ⟨port, hport, hname⟩ := mem_node_portRefs_iff.1 hp
    exact ⟨port, port?_eq_some_iff.2 ⟨node, (node?_eq_some_iff hs).2 ⟨hnode, hname.symm⟩, hport⟩⟩
  · rintro ⟨port, h⟩
    obtain ⟨node, hnode, hport⟩ := port?_eq_some_iff.1 h
    obtain ⟨hmem, hname⟩ := (node?_eq_some_iff hs).1 hnode
    exact ⟨node, hmem, mem_node_portRefs_iff.2 ⟨port, hport, hname.symm⟩⟩

/-- A node with the ports of its type refers to each of them once. -/
theorem nodup_node_portRefs (h : node.HasDeclaredPorts) : node.portRefs.Nodup := by
  refine List.Nodup.of_map (·.port) ?_
  unfold Node.portRefs
  rw [List.map_map]
  exact h.nodup_names

/-- No port is listed twice. -/
theorem Consistent.nodup_portRefs (hs : s.Consistent) : s.portRefs.Nodup := by
  unfold portRefs
  refine List.nodup_flatMap.2 ⟨fun node hnode => nodup_node_portRefs (hs.ports node hnode), ?_⟩
  -- References of two nodes differ in their first name.
  have hnames : s.nodes.Pairwise fun a b => a.name ≠ b.name := List.pairwise_map.1 hs.nodeNames
  refine hnames.imp ?_
  intro a b hab p hpa hpb
  obtain ⟨_, -, ha⟩ := mem_node_portRefs_iff.1 hpa
  obtain ⟨_, -, hb⟩ := mem_node_portRefs_iff.1 hpb
  exact hab (ha.symm.trans hb)

end Ports

end Schematic

end Netlister
