import Netlister.Proofs.Schematic.Refinement

/-! # Arenas stay coherent

  Whatever construction steps are taken, and whether they succeed or fail:

  - nodes, connections and constraints are found by name, and by no other;
  - a node has one port for each port of its type, the ports noted at a node are those that
    refer back to it, and a port belongs to one node;
  - all attributes are those of the schema, with values of the types declared now.

  How arenas refer to each other is known from `Reachable.linked`. What a schematic holds was
  shown of schematics as such, and is carried over from the one that the arenas stand for.
-/

namespace Netlister.Arenas

open Schematic (Operation)

/-! ### Nodes and ports of the schematic -/

section Held

variable {a : Arenas} {n : NodeId} {node : NodeValue}

/-- A node has the ports of its type, each noted under its name. -/
theorem Linked.declared_iff (ha : a.Linked) (hs : a.schematic.Consistent)
    (hnode : a.nodes[n]? = some node) {name : String} {type : PortType} :
    node.type.ports.find? name = some type ↔ ∃ (p : PortId) (port : PortValue),
      node.ports.find? name = some p ∧ a.ports[p]? = some port ∧ port.type = type := by
  have hdeclared := hs.ports _ (mem_schematic_nodes hnode)
  unfold Node.HasDeclaredPorts at hdeclared
  rw [NameMap.find?_eq_some_iff, show node.type.ports.entries = _ from hdeclared.symm,
    List.mem_map]
  constructor
  · rintro ⟨held, hheld, heq⟩
    cases heq
    obtain ⟨p, hp, hkept⟩ := List.mem_filterMap.1 hheld
    obtain ⟨port, hport, rfl⟩ := Option.map_eq_some_iff.1 hkept
    obtain ⟨key, hkey⟩ := NameMap.mem_values_iff.1 hp
    -- The name that the port is noted under is its own.
    obtain ⟨other, hother, hname, -⟩ := (ha.ports n node hnode key p).1 hkey
    cases hport.symm.trans hother
    exact ⟨p, port, by rw [← hkey, ← hname]; rfl, hport, rfl⟩
  · rintro ⟨p, port, hnoted, hport, rfl⟩
    obtain ⟨other, hother, rfl, -⟩ := (ha.ports n node hnode name p).1 hnoted
    cases hport.symm.trans hother
    exact ⟨port.port, mem_ports_nodeOf hnoted hport, rfl⟩

/-- A port is noted at the node that it refers back to, and at no other. -/
theorem Linked.noted_iff (ha : a.Linked) {name : String} {p : PortId} :
    (∃ node, a.nodes[n]? = some node ∧ node.ports.find? name = some p) ↔
      ∃ port : PortValue, a.ports[p]? = some port ∧ port.name = name ∧ port.node = n := by
  constructor
  · rintro ⟨node, hnode, hnoted⟩
    exact (ha.ports n node hnode name p).1 hnoted
  · rintro ⟨port, hport, hname, rfl⟩
    obtain ⟨node, hnode, -⟩ := ha.portRef_eq hport
    exact ⟨node, hnode, (ha.ports _ node hnode name p).2 ⟨port, hport, hname, rfl⟩⟩

/-- Every port belongs to exactly one node. -/
theorem Linked.existsUnique_owner (ha : a.Linked) {p : PortId} (hp : p < a.ports.length) :
    ∃! n : NodeId, ∃ node name, a.nodes[n]? = some node ∧ node.ports.find? name = some p := by
  have hport : a.ports[p]? = some a.ports[p] := List.getElem?_eq_getElem hp
  obtain ⟨node, hnode, hnoted⟩ := ha.noted_iff.2 ⟨_, hport, rfl, rfl⟩
  refine ⟨_, ⟨node, _, hnode, hnoted⟩, ?_⟩
  rintro n ⟨other, name, hother, hnoted'⟩
  obtain ⟨port, hport', -, hback⟩ := ha.noted_iff.1 ⟨other, hother, hnoted'⟩
  cases hport.symm.trans hport'
  exact hback.symm

/-- Constraints are found by name, and by no other. -/
theorem Linked.constraint_iff (ha : a.Linked) {name : String} {c : Constraint} :
    a.constraint name = .ok c ↔ c ∈ a.constraints.entries.map (·.2) ∧ c.name = name := by
  unfold constraint
  rw [Schematic.require_eq_ok, OrderedMap.find?_eq_some_iff, List.mem_map]
  constructor
  · intro hmem
    exact ⟨⟨_, hmem, rfl⟩, ha.constraints _ hmem⟩
  · rintro ⟨⟨e, he, rfl⟩, rfl⟩
    rw [ha.constraints e he]
    exact he

end Held

/-! ### Coherence -/

/-- What holds of the arenas of every schematic that can be built. -/
structure Coherent (a : Arenas) : Prop where
  /-- No two nodes have one name. -/
  nodeNames : (a.nodes.map (·.name)).Nodup
  /-- No two connections have one name. -/
  connectionNames : (a.connections.map (·.name)).Nodup
  /-- No two constraints have one name. -/
  constraintNames : (a.constraints.entries.map (·.2.name)).Nodup
  /-- A name leads to exactly the place of the node that has it. -/
  node : ∀ name n, a.node name = .ok n ↔
    ∃ node : NodeValue, a.nodes[n]? = some node ∧ node.name = name
  /-- A name leads to exactly the place of the connection that has it. -/
  connection : ∀ name n, a.connection name = .ok n ↔
    ∃ c : ConnectionValue, a.connections[n]? = some c ∧ c.name = name
  /-- A name leads to exactly the constraint that has it. -/
  constraint : ∀ name c, a.constraint name = .ok c ↔
    c ∈ a.constraints.entries.map (·.2) ∧ c.name = name
  /-- A node has a port under a name iff its type does, and of the same type. -/
  declaredPorts : ∀ (n : NodeId) (node : NodeValue), a.nodes[n]? = some node → ∀ name type,
    node.type.ports.find? name = some type ↔ ∃ (p : PortId) (port : PortValue),
      node.ports.find? name = some p ∧ a.ports[p]? = some port ∧ port.type = type
  /-- A port is noted at a node under a name iff it has this name and refers back to the
      node. -/
  ports : ∀ (n : NodeId) (name : String) (p : PortId),
    (∃ node, a.nodes[n]? = some node ∧ node.ports.find? name = some p) ↔
      ∃ port : PortValue, a.ports[p]? = some port ∧ port.name = name ∧ port.node = n
  /-- Every port belongs to exactly one node. -/
  owner : ∀ p < a.ports.length,
    ∃! n : NodeId, ∃ node name, a.nodes[n]? = some node ∧ node.ports.find? name = some p
  /-- Connections end at ports. -/
  ends : ∀ c ∈ a.connections, c.source < a.ports.length ∧ c.target < a.ports.length
  /-- Nodes have the attributes of their types. -/
  nodeAttributes : ∀ node ∈ a.nodes,
    Attributes.Meets node.type.attributes a.userTypes node.attributes
  /-- Ports have the attributes of their types. -/
  portAttributes : ∀ port ∈ a.ports,
    Attributes.Meets port.type.attributes a.userTypes port.attributes
  /-- Connections have the attributes of their types. -/
  connectionAttributes : ∀ c ∈ a.connections,
    Attributes.Meets c.type.attributes a.userTypes c.attributes
  /-- Constraints have the attributes of their types. -/
  constraintAttributes : ∀ e ∈ a.constraints.entries,
    Attributes.Meets e.2.type.attributes a.userTypes e.2.attributes

/-- **Schematics in memory stay coherent**, whatever steps are taken and whichever of them
    fail. -/
theorem reachable_coherent {a : Arenas} (h : a.Reachable) : a.Coherent := by
  have ha : a.Linked := h.linked
  have hs : a.schematic.Consistent := h.schematic.consistent
  have hattributes : a.schematic.Conforming := h.schematic.conforming
  constructor
  case nodeNames => simpa [schematic, Function.comp_def, nodeOf] using hs.nodeNames
  case connectionNames => simpa [schematic, Function.comp_def, connectionOf] using hs.connectionNames
  case constraintNames =>
    simpa [schematic, Function.comp_def] using h.schematic.nodup_constraintNames
  case node =>
    intro name n
    exact Schematic.require_eq_ok.trans (ha.nodeNames name n)
  case connection =>
    intro name n
    exact Schematic.require_eq_ok.trans (ha.connectionNames name n)
  case constraint =>
    intro name c
    exact ha.constraint_iff
  case declaredPorts =>
    intro n node hnode name type
    exact ha.declared_iff hs hnode
  case ports =>
    intro n name p
    exact ha.noted_iff
  case owner =>
    intro p hp
    exact ha.existsUnique_owner hp
  case ends => exact ha.ends
  case nodeAttributes =>
    intro node hnode
    exact hattributes.nodes _ (List.mem_map_of_mem hnode)
  case portAttributes =>
    -- A port is one of those that some node of the schematic holds.
    intro port hport
    obtain ⟨p, hp⟩ := List.mem_iff_getElem?.1 hport
    obtain ⟨node, hnode, hnoted⟩ := ha.noted_iff.2 ⟨port, hp, rfl, rfl⟩
    exact hattributes.ports _ (mem_schematic_nodes hnode) _ (mem_ports_nodeOf hnoted hp)
  case connectionAttributes =>
    intro c hc
    exact hattributes.connections _ (List.mem_map_of_mem hc)
  case constraintAttributes =>
    intro e he
    exact hattributes.constraints _ (List.mem_map_of_mem he)

/-! Two gauges with a cable between them, and a limit. -/

/-- A type of ports with a level. -/
def terminalType : PortType := ⟨0, .ofList [("level", .user "Level")]⟩

/-- A type of nodes with levels of their own, and two ports with a level. -/
def gaugeType : NodeType :=
  ⟨1, .ofList [("history", .user "Trace")], .ofList [("b", terminalType), ("a", terminalType)]⟩

/-- A type of connections with a level. -/
def cableType : ConnectionType := ⟨2, .ofList [("loss", .user "Level")]⟩

/-- A type of constraints with levels. -/
def limitType : ConstraintType := ⟨3, .ofList [("bounds", .array (.user "Level"))]⟩

/-- The steps. Those that fail are a second node `g`, a node with a wrong level at its last
    port, a second declaration of levels, a cable with a wrong loss, and a second cable `c`.
    In the end a type is declared that nothing uses. -/
def gaugesSteps : List (Operation PortId) :=
  let levels (a b : Value) := [("a", [("level", a)]), ("b", [("level", b)])]
  [.addUserType "Level" .int, .addUserType "Trace" (.array (.user "Level")),
   .addPortType "terminal" terminalType, .addNodeType "gauge" gaugeType,
   .addConnectionType "cable" cableType, .addConstraintType "limit" limitType,
   .addNode "h" gaugeType [("history", .array [.int 3, .int 5])] (levels (.int 1) (.int 2)),
   .addNode "h" gaugeType [("history", .array [])] (levels (.int 0) (.int 0)),
   .addNode "g" gaugeType [("history", .array [])] (levels (.int 1) (.string "low")),
   .addUserType "Level" .string,
   .addNode "g" gaugeType [("history", .array [])] (levels (.int 7) (.int 8)),
   .addConnection "c" cableType 3 0 [("loss", .bool true)],
   .addConnection "c" cableType 3 0 [("loss", .int 4)],
   .addConnection "c" cableType 1 2 [("loss", .int 5)],
   .addConstraint "l" limitType [("bounds", .array [.int 0])],
   .addUserType "Unit" (.user "Trace")]

/-- The arenas after these steps. -/
def gauges : Arenas := gaugesSteps.foldl perform { name := "gauges" }

/-- The gauges stay coherent, though some steps fail. The ports of each of them are at two
    places behind each other, which it notes by name and which refer back to it; the cable has
    two such places for its ends; and the indices lead to all of them. -/
theorem reachable_coherent_gauges :
    gauges.Reachable ∧ gauges.Coherent ∧
      gauges.nodes.map (fun node => (node.name, node.ports.entries)) =
        [("h", [("a", 0), ("b", 1)]), ("g", [("a", 2), ("b", 3)])] ∧
      gauges.ports.map (fun port => (port.name, port.node)) =
        [("a", 0), ("b", 0), ("a", 1), ("b", 1)] ∧
      gauges.connections.map (fun c => (c.name, c.source, c.target)) = [("c", 3, 0)] ∧
      gauges.constraints.entries.map (·.1) = ["l"] ∧
      gauges.node "g" = .ok 1 ∧ gauges.connection "c" = .ok 0 ∧
      gauges.schematic.connections.map (fun c => (c.source, c.target)) =
        [(⟨"g", "b"⟩, ⟨"h", "a"⟩)] := by
  have hreach : gauges.Reachable := (Reachable.new _).foldl (by decide +kernel)
  have hcoherent : gauges.Coherent := reachable_coherent hreach
  refine ⟨hreach, hcoherent, by decide +kernel, by decide +kernel, by decide +kernel,
    by decide +kernel, ?_, ?_, by decide +kernel⟩
  · have hname : (gauges.nodes[1]?).map (·.name) = some "g" := by decide +kernel
    exact (hcoherent.node "g" 1).2 (Option.map_eq_some_iff.1 hname)
  · have hname : (gauges.connections[0]?).map (·.name) = some "c" := by decide +kernel
    exact (hcoherent.connection "c" 0).2 (Option.map_eq_some_iff.1 hname)

end Netlister.Arenas
