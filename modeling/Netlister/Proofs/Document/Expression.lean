import Netlister.Proofs.Document.Description
import Netlister.Proofs.Document.Readable
import Netlister.Proofs.Schematic.Declared

/-! # Every schematic has a document

  A document lists all types before all instances, while a schematic can be built in any
  order. `ofSchematic` writes a schematic down all the same. It describes the schematic because
  steps only add: what was checked when an instance or a type was added would be found again
  with everything else already there.

  - `describes_ofSchematic`: the schematic is as its document says.
  - `userTypesInOrder_ofSchematic`: the attribute types are listed so that they can be declared.
  - `readable_ofSchematic`: the document can be written down.
  - `exists_document`: so some document gives the schematic again.
-/

namespace Netlister

/-! ### Names -/

/-- A registered value is found under its name. -/
theorem NameMap.find?_getD_nameOf? {α : Type} [DecidableEq α] {m : NameMap α} {v : α}
    (h : m.Has v) (default : String) : m.find? ((m.nameOf? v).getD default) = some v := by
  obtain ⟨name, hname⟩ := Option.isSome_iff_exists.1 (isSome_nameOf?_iff.2 h)
  rw [hname, Option.getD_some]
  exact find?_of_nameOf? hname

/-- No name is declared twice. -/
theorem UserTypes.Grounded.nodup_names {u : UserTypes} (h : u.Grounded) :
    (u.declarations.map (·.1)).Nodup := by
  induction h with
  | empty => exact List.nodup_nil
  | declare _ hnew _ ih => exact List.nodup_cons.2 ⟨lookup_eq_none_iff_not_mem.1 hnew, ih⟩

namespace Document

open Json (Readable readRecord)

/-! ### Writing a schematic down -/

/-- The attributes of a schema, in the order of names. -/
def attributesOf (schema : Schema) : Attributes := .ofNameMap id schema

/-- Attributes with their values, in the order of names. -/
def valuesOf (attributes : Netlister.Attributes) : Values := .ofNameMap Value.toJson attributes

/-- The entry of a node. -/
def entryOfNode (s : Schematic) (node : Netlister.Node) : String × Node :=
  (node.name, {
    type := (s.nodeTypeName? node.type).getD ""
    attributes := valuesOf node.attributes
    portAttributes := .ofList (node.ports.map fun p => (p.name, valuesOf p.attributes)) })

/-- The entry of a connection. -/
def entryOfConnection (s : Schematic) (c : Netlister.Connection) : String × Connection :=
  (c.name, {
    type := (s.connectionTypeName? c.type).getD ""
    source := c.source.path
    target := c.target.path
    attributes := valuesOf c.attributes })

/-- The entry of a constraint. -/
def entryOfConstraint (s : Schematic) (c : Netlister.Constraint) : String × Constraint :=
  (c.name, {
    type := (s.constraintTypes.nameOf? c.type).getD ""
    attributes := valuesOf c.attributes })

/-- The document that lists what a schematic has. Attribute types are listed in the order of
    their declarations, instances in the order of their creation. -/
def ofSchematic (s : Schematic) : Document where
  name := s.name
  userTypes := .ofList s.userTypes.declarations.reverse
  portTypes := .ofNameMap (fun type => { attributes := attributesOf type.attributes }) s.portTypes
  nodeTypes := .ofNameMap (fun type => {
    attributes := attributesOf type.attributes
    ports := .ofNameMap (fun port => (s.portTypeName? port).getD "") type.ports }) s.nodeTypes
  connectionTypes :=
    .ofNameMap (fun type => { attributes := attributesOf type.attributes }) s.connectionTypes
  constraintTypes :=
    .ofNameMap (fun type => { attributes := attributesOf type.attributes }) s.constraintTypes
  nodes := .ofList (s.nodes.map (entryOfNode s))
  connections := .ofList (s.connections.map (entryOfConnection s))
  constraints := .ofList (s.constraints.map (entryOfConstraint s))

theorem lists_attributesOf (schema : Schema) : (attributesOf schema).Lists Eq schema :=
  OrderedMap.lists_ofNameMap fun _ _ => rfl

/-- Attributes that meet their schema are given by their values. -/
theorem gives_valuesOf {s : Schematic} {schema : Schema} {attributes : Netlister.Attributes}
    (h : Attributes.Meets schema s.userTypes attributes) :
    Gives s (valuesOf attributes) schema attributes :=
  ⟨OrderedMap.lists_ofNameMap fun v _ => v.toValue_toJson, h⟩

theorem legibleValues_valuesOf (attributes : Netlister.Attributes) :
    LegibleValues (valuesOf attributes) :=
  OrderedMap.forall_mem_ofNameMap fun v _ => v.readable_toJson

section OfSchematic

variable {s : Schematic} (hs : s.Reachable)

include hs

/-! ### Attribute types -/

theorem entries_userTypes_ofSchematic :
    (ofSchematic s).userTypes.entries = s.userTypes.declarations.reverse := by
  refine OrderedMap.entries_ofList ?_
  rw [List.map_reverse, List.nodup_reverse]
  exact hs.grounded.nodup_names

theorem userTypesOf_ofSchematic : userTypesOf (ofSchematic s) = s.userTypes := by
  unfold userTypesOf
  rw [entries_userTypes_ofSchematic hs, List.reverse_reverse]

/-- The attribute types are listed so that they can be declared. -/
theorem userTypesInOrder_ofSchematic : (ofSchematic s).UserTypesInOrder := by
  constructor
  · intro e he
    rw [entries_userTypes_ofSchematic hs, List.mem_reverse] at he
    exact hs.inOrder.names e he
  · rw [userTypesOf_ofSchematic hs]
    exact hs.grounded

/-! ### Description -/

theorem describesTypes_ofSchematic (hsettled : s.Settled) :
    DescribesTypes (ofSchematic s) s where
  name := rfl
  userTypes := by
    intro name
    rw [← find?_userTypesOf, userTypesOf_ofSchematic hs]
  grounded := hs.grounded
  portTypes := OrderedMap.lists_ofNameMap fun type htype =>
    ⟨lists_attributesOf type.attributes, hs.inOrder.portTypes type htype⟩
  nodeTypes := OrderedMap.lists_ofNameMap fun type htype =>
    ⟨⟨lists_attributesOf type.attributes, hs.inOrder.nodeTypes type htype⟩,
      OrderedMap.lists_ofNameMap fun port hport =>
        NameMap.find?_getD_nameOf? (hsettled.ports type htype port hport) ""⟩
  connectionTypes := OrderedMap.lists_ofNameMap fun type htype =>
    ⟨lists_attributesOf type.attributes, hs.inOrder.connectionTypes type htype⟩
  constraintTypes := OrderedMap.lists_ofNameMap fun type htype =>
    ⟨lists_attributesOf type.attributes, hs.inOrder.constraintTypes type htype⟩
  portOnce := hsettled.portOnce
  nodeOnce := hsettled.nodeOnce
  connectionOnce := hsettled.connectionOnce
  constraintOnce := hsettled.constraintOnce

theorem entries_portAttributes_entryOfNode {node : Netlister.Node} (hnode : node ∈ s.nodes) :
    (entryOfNode s node).2.portAttributes.entries =
      node.ports.map fun p => (p.name, valuesOf p.attributes) :=
  OrderedMap.entries_ofList_map (hs.consistent.ports node hnode).nodup_names

theorem describesNode_entryOfNode (hsettled : s.Settled) {node : Netlister.Node}
    (hnode : node ∈ s.nodes) : DescribesNode s (entryOfNode s node) node := by
  have hports : node.HasDeclaredPorts := hs.consistent.ports node hnode
  have hentries := entries_portAttributes_entryOfNode hs hnode
  exact {
    name := rfl
    type := NameMap.find?_getD_nameOf? (hsettled.nodes node hnode) ""
    attributes := gives_valuesOf (hs.conforming.nodes node hnode)
    given := by
      intro name values hvalues
      rw [OrderedMap.find?_eq_some_iff, hentries] at hvalues
      obtain ⟨p, hp, heq⟩ := List.mem_map.1 hvalues
      cases heq
      have hentry : (p.name, p.type) ∈ node.type.ports.entries := by
        rw [← hports]
        exact List.mem_map.2 ⟨p, hp, rfl⟩
      rw [NameMap.find?_eq_some_iff.2 hentry]
      rfl
    ports := hports
    portAttributes := by
      intro p hp
      have hvalues : (entryOfNode s node).2.portAttributes.find? p.name =
          some (valuesOf p.attributes) := by
        rw [OrderedMap.find?_eq_some_iff, hentries]
        exact List.mem_map.2 ⟨p, hp, rfl⟩
      rw [hvalues, Option.getD_some]
      exact gives_valuesOf (hs.conforming.ports node hnode p hp) }

theorem describesConnection_entryOfConnection (hsettled : s.Settled) {c : Netlister.Connection}
    (hc : c ∈ s.connections) (hends : c.source.Writable ∧ c.target.Writable) :
    DescribesConnection s (entryOfConnection s c) c where
  name := rfl
  type := NameMap.find?_getD_nameOf? (hsettled.connections c hc) ""
  source := ⟨rfl, hends.1, (hs.ends c hc).1⟩
  target := ⟨rfl, hends.2, (hs.ends c hc).2⟩
  attributes := gives_valuesOf (hs.conforming.connections c hc)

theorem describesConstraint_entryOfConstraint (hsettled : s.Settled) {c : Netlister.Constraint}
    (hc : c ∈ s.constraints) : DescribesConstraint s (entryOfConstraint s c) c where
  name := rfl
  type := NameMap.find?_getD_nameOf? (hsettled.constraints c hc) ""
  attributes := gives_valuesOf (hs.conforming.constraints c hc)

/-! Instances have distinct names, so that none of their entries replaces another. -/

theorem entries_nodes_ofSchematic :
    (ofSchematic s).nodes.entries = s.nodes.map (entryOfNode s) :=
  OrderedMap.entries_ofList_map hs.consistent.nodeNames

theorem entries_connections_ofSchematic :
    (ofSchematic s).connections.entries = s.connections.map (entryOfConnection s) :=
  OrderedMap.entries_ofList_map hs.consistent.connectionNames

theorem entries_constraints_ofSchematic :
    (ofSchematic s).constraints.entries = s.constraints.map (entryOfConstraint s) :=
  OrderedMap.entries_ofList_map hs.nodup_constraintNames

/-- A schematic is as its document says, if its types can be told by name and the ends of its
    connections can be written. -/
theorem describes_ofSchematic (hsettled : s.Settled)
    (hends : ∀ c ∈ s.connections, c.source.Writable ∧ c.target.Writable) :
    Describes (ofSchematic s) s where
  types := describesTypes_ofSchematic hs hsettled
  nodes := by
    rw [entries_nodes_ofSchematic hs, List.forall₂_map_left_iff, List.forall₂_same]
    exact fun node hnode => describesNode_entryOfNode hs hsettled hnode
  connections := by
    rw [entries_connections_ofSchematic hs, List.forall₂_map_left_iff, List.forall₂_same]
    exact fun c hc => describesConnection_entryOfConnection hs hsettled hc (hends c hc)
  constraints := by
    rw [entries_constraints_ofSchematic hs, List.forall₂_map_left_iff, List.forall₂_same]
    exact fun c hc => describesConstraint_entryOfConstraint hs hsettled hc

/-! ### The document can be written down -/

/-- A type whose names are declared can be written down, as no built-in name is. -/
theorem readable_of_requireDeclared {type : AttributeType}
    (h : s.userTypes.requireDeclared type = .ok ()) : Readable readAttributeType type := by
  refine readable_attributeType fun name hname => ?_
  obtain ⟨declared, hdeclared⟩ := UserTypes.requireDeclared_eq_ok.1 h name hname
  exact hs.inOrder.names _
    ((lookup_eq_some_iff_mem_of_nodup hs.grounded.nodup_names).1 hdeclared)

theorem legible_attributesOf {schema : Schema} (h : s.requireSchema schema = .ok ()) :
    Legible (attributesOf schema) := by
  refine OrderedMap.forall_mem_ofNameMap fun type htype => ?_
  have hdeclared := Outcome.forM_eq_ok.1 h type (NameMap.mem_values_iff.2 htype)
  exact readable_of_requireDeclared hs hdeclared

/-- The document of a schematic is read from some tree. -/
theorem readable_ofSchematic : Readable (readRecord { name := "" } fields) (ofSchematic s) := by
  refine readable_document ?userTypes ?portTypes ?nodeTypes ?connectionTypes ?constraintTypes
    ?nodes ?connections ?constraints
  case userTypes =>
    intro e he
    rw [entries_userTypes_ofSchematic hs, List.mem_reverse] at he
    have hfind : s.userTypes.find? e.1 = some e.2 :=
      (lookup_eq_some_iff_mem_of_nodup hs.grounded.nodup_names).2 he
    exact readable_of_requireDeclared hs (hs.grounded.requireDeclared_of_find? hfind)
  case portTypes =>
    exact OrderedMap.forall_mem_ofNameMap (P := fun t : PlainType => Legible t.attributes)
      fun type htype => legible_attributesOf hs (hs.inOrder.portTypes type htype)
  case nodeTypes =>
    exact OrderedMap.forall_mem_ofNameMap (P := fun t : NodeType => Legible t.attributes)
      fun type htype => legible_attributesOf hs (hs.inOrder.nodeTypes type htype)
  case connectionTypes =>
    exact OrderedMap.forall_mem_ofNameMap (P := fun t : PlainType => Legible t.attributes)
      fun type htype => legible_attributesOf hs (hs.inOrder.connectionTypes type htype)
  case constraintTypes =>
    exact OrderedMap.forall_mem_ofNameMap (P := fun t : PlainType => Legible t.attributes)
      fun type htype => legible_attributesOf hs (hs.inOrder.constraintTypes type htype)
  case nodes =>
    rw [entries_nodes_ofSchematic hs, List.forall_mem_map]
    intro node hnode
    refine ⟨legibleValues_valuesOf node.attributes, ?_⟩
    rw [entries_portAttributes_entryOfNode hs hnode, List.forall_mem_map]
    exact fun p _ => legibleValues_valuesOf p.attributes
  case connections =>
    rw [entries_connections_ofSchematic hs, List.forall_mem_map]
    exact fun c _ => legibleValues_valuesOf c.attributes
  case constraints =>
    rw [entries_constraints_ofSchematic hs, List.forall_mem_map]
    exact fun c _ => legibleValues_valuesOf c.attributes

end OfSchematic

/-- For every schematic whose types can be told by name, and whose connections end at ports that
    can be written as node, colon and port, there is a document that can be written down and
    gives, in whatever context, a schematic that matches it. -/
theorem exists_document {s : Schematic} (hs : s.Reachable) (hsettled : s.Settled)
    (hends : ∀ c ∈ s.connections, c.source.Writable ∧ c.target.Writable) :
    ∃ d : Document, Readable (readRecord { name := "" } fields) d ∧
      ∀ context, ∃ t context' m, d.toSchematic context = .ok (t, context') ∧
        Schematic.Matches m s t ∧ t.dump = s.dump := by
  refine ⟨ofSchematic s, readable_ofSchematic hs, fun context => ?_⟩
  obtain ⟨t, context', ht, hmatches⟩ := exists_toSchematic (describes_ofSchematic hs hsettled hends)
    (userTypesInOrder_ofSchematic hs) context
  exact ⟨t, context', matching s t, ht, hmatches, hmatches.dump_eq hsettled hs.consistent⟩

/-! ### A schematic that was built out of order -/

namespace Scattered

open Schematic (Operation)

def pin : PortType := ⟨0, .ofList [("delay", .user "Delay"), ("inverted", .bool)]⟩

def source : Netlister.NodeType := ⟨1, ∅, .ofList [("out", pin)]⟩

def sink : Netlister.NodeType :=
  ⟨2, .ofList [("labels", .array (.array .string))], .ofList [("in", pin), ("sense", pin)]⟩

def wire : ConnectionType := ⟨3, .ofList [("width", .int)]⟩

def limit : ConstraintType := ⟨4, .ofList [("delays", .user "Delays")]⟩

/-- Types are registered after their instances, attribute types are declared in between, and two
    steps fail. One node has a colon in its name. -/
def steps : List Operation :=
  [.addUserType "Delay" .int,
   .addNode "b" sink [("labels", .array [.array [], .array [.string "x"]])]
     [("sense", [("inverted", .bool true), ("delay", .int 7)]),
      ("in", [("delay", .int (-1)), ("inverted", .bool false)])],
   .addPortType "pin" pin,
   .addNode "a:1" source [] [("out", [("inverted", .bool false), ("delay", .int 0)])],
   .addConnection "w" wire ⟨"a:1", "out"⟩ ⟨"b", "in"⟩ [("width", .int 1)],
   .addNode "b" source [] [],
   .addUserType "Delays" (.array (.user "Delay")),
   .addConstraint "slow" limit [("delays", .array [.int 3, .int 9])],
   .addUserType "Int" .bool,
   .addNodeType "source" source,
   .addConnection "v" wire ⟨"b", "sense"⟩ ⟨"a:1", "out"⟩ [("width", .int 2)],
   .addNodeType "sink" sink,
   .addConnectionType "wire" wire,
   .addConstraintType "limit" limit,
   .addUserType "Spare" (.user "Delays")]

def schematic : Schematic := steps.foldl Schematic.perform { name := "scattered" }

end Scattered

open Scattered in
theorem exists_document_scattered :
    (schematic.Reachable ∧ schematic.Settled ∧
      ∀ c ∈ schematic.connections, c.source.Writable ∧ c.target.Writable) ∧
    (schematic.nodes.map (·.name) = ["b", "a:1"] ∧
      schematic.userTypes.declarations.map (·.1) = ["Spare", "Delays", "Delay"]) ∧
    ∃ d : Document, Readable (readRecord { name := "" } fields) d ∧
      ∀ context, ∃ t context' m, d.toSchematic context = .ok (t, context') ∧
        Schematic.Matches m schematic t ∧ t.dump = schematic.dump := by
  have hreachable : schematic.Reachable :=
    (Schematic.Reachable.new "scattered").foldl (by decide +kernel)
  have hsettled : schematic.Settled := by decide +kernel
  have hends : ∀ c ∈ schematic.connections, c.source.Writable ∧ c.target.Writable := by
    decide +kernel
  exact ⟨⟨hreachable, hsettled, hends⟩, by decide +kernel,
    exists_document hreachable hsettled hends⟩

end Document

end Netlister
