import Mathlib.Data.List.Nodup
import Netlister.Proofs.Attributes
import Netlister.Proofs.Schematic.Extension

/-! # Reachable schematics

  A schematic comes about by construction steps, each of which may fail and then
  changes nothing. What all steps keep holds of every schematic that can be
  reached:

  - no two nodes, and no two connections, have one name;
  - a node has exactly the ports of its type, in name order;
  - the attributes of a node met the schema of its type when it was added.

  The first step of the proof is `Operation.Extends.cases`, which says all that a
  step can do to nodes and connections. `Reachable.induction` is the only induction
  over steps; `Reachable.consistent` is its first use.
-/

namespace Netlister

/-! ### Nodes of their types -/

/-- A node has the ports of its type, in name order. -/
def Node.HasDeclaredPorts (node : Node) : Prop :=
  node.ports.map (fun p => (p.name, p.type)) = node.type.ports.entries

/-- Such a node has a port of a name iff its type has, and of the same type. -/
theorem Node.HasDeclaredPorts.map_port? {node : Node} (h : node.HasDeclaredPorts) (name : String) :
    (node.port? name).map (·.type) = node.type.ports.find? name := by
  unfold Node.port? NameMap.find?
  rw [← h]
  induction node.ports with
  | nil => rfl
  | cons p ps ih =>
    by_cases hname : p.name = name
    · simp [hname]
    · have hb : (name == p.name) = false := beq_false_of_ne (Ne.symm hname)
      simp only [List.find?_cons, hname, decide_false, List.map_cons, List.lookup_cons, hb]
      exact ih

/-- The ports of such a node are in the order of their names. -/
theorem Node.HasDeclaredPorts.ascending {node : Node} (h : node.HasDeclaredPorts) :
    (node.ports.map (·.name)).Pairwise (· < ·) := by
  have hnames : node.ports.map (·.name) = node.type.ports.entries.map (·.1) := by
    rw [← h, List.map_map]
    rfl
  rw [hnames, List.pairwise_map]
  exact node.type.ports.ascending

/-- No two ports of such a node have one name. -/
theorem Node.HasDeclaredPorts.nodup_names {node : Node} (h : node.HasDeclaredPorts) :
    (node.ports.map (·.name)).Nodup :=
  h.ascending.imp fun hlt => Std.ne_of_lt hlt

/-- A node whose attributes meet the schema of its type, for some declared types. -/
def Node.HasDeclaredAttributes (node : Node) : Prop :=
  ∃ types, Attributes.Meets node.type.attributes types node.attributes

namespace Schematic

/-! ### Reachability -/

/-- Whether a step can be asked for: the ends of a connection are ports of the
    schematic. -/
def Operation.Admissible (s : Schematic) : Operation → Prop
  | addConnection _ _ source target _ => (s.port? source).isSome ∧ (s.port? target).isSome
  | _ => True

instance (s : Schematic) (op : Operation) : Decidable (op.Admissible s) :=
  match op with
  | .addConnection _ _ source target _ =>
    inferInstanceAs (Decidable ((s.port? source).isSome ∧ (s.port? target).isSome))
  | .addUserType _ _ | .addPortType _ _ | .addNodeType _ _ | .addConnectionType _ _
  | .addConstraintType _ _ | .addNode _ _ _ _ | .addConstraint _ _ _ => isTrue trivial

/-- The schematic after a step; a step that fails changes nothing. -/
def perform (s : Schematic) (op : Operation) : Schematic :=
  match op.apply s with
  | .ok s' => s'
  | .error _ => s

/-- The schematics that construction steps lead to. -/
inductive Reachable : Schematic → Prop where
  | new (name : String) : Reachable { name }
  | perform {s : Schematic} (op : Operation) :
      Reachable s → op.Admissible s → Reachable (s.perform op)

/-- Whether each of several steps can be asked for when its turn comes. -/
def AllAdmissible (s : Schematic) : List Operation → Prop
  | [] => True
  | op :: ops => op.Admissible s ∧ AllAdmissible (s.perform op) ops

instance decidableAllAdmissible : (s : Schematic) → (ops : List Operation) →
    Decidable (s.AllAdmissible ops)
  | _, [] => isTrue trivial
  | s, op :: ops =>
    have := decidableAllAdmissible (s.perform op) ops
    inferInstanceAs (Decidable (op.Admissible s ∧ AllAdmissible (s.perform op) ops))

/-- Several steps lead from a reachable schematic to a reachable one. -/
theorem Reachable.foldl {s : Schematic} {ops : List Operation} (h : Reachable s)
    (hops : s.AllAdmissible ops) : Reachable (ops.foldl Schematic.perform s) := by
  induction ops generalizing s with
  | nil => exact h
  | cons op ops ih => exact ih (.perform op h hops.1) hops.2

/-- What holds at the start and is kept by every successful step holds throughout. -/
theorem Reachable.induction {P : Schematic → Prop} (hnew : ∀ name, P { name })
    (hstep : ∀ {s s' : Schematic} {op : Operation}, P s → op.Extends s s' → P s') {s : Schematic}
    (h : s.Reachable) : P s := by
  induction h with
  | new name => exact hnew name
  | @perform s op _ _ ih =>
    unfold Schematic.perform
    cases hop : op.apply s with
    | error e => exact ih
    | ok s' => exact hstep ih (Operation.apply_eq_ok.1 hop)

/-! ### What a step can do -/

/-- A node that can be added: its name is new, and it is as its type says. -/
structure IsNewNode (s : Schematic) (node : Node) : Prop where
  /-- No node has this name. -/
  fresh : s.node? node.name = none
  /-- Its ports are those of its type. -/
  ports : node.HasDeclaredPorts
  /-- Its attributes are those of its type. -/
  attributes : node.HasDeclaredAttributes

/-- The ports that a new node gets are those of its type. -/
theorem ports_of_newPorts {types : UserTypes} {type : NodeType}
    {given : List (String × List (String × Value))} {ports : List Port}
    (h : newPorts types type given = .ok ports) :
    ports.map (fun p => (p.name, p.type)) = type.ports.entries := by
  unfold newPorts at h
  generalize type.ports.entries = entries at h ⊢
  induction Outcome.mapM_eq_ok.1 h with
  | nil => rfl
  | cons hport hports ih =>
    obtain ⟨attributes, -, hport⟩ := Outcome.bind_eq_ok.1 hport
    cases hport
    rw [List.map_cons, ih (Outcome.mapM_eq_ok.2 hports)]

/-- All that a step can do to nodes and connections: leave them as they are, or
    put a new one at the end. -/
theorem Operation.Extends.cases {s s' : Schematic} {op : Operation} (h : op.Extends s s') :
    (s'.nodes = s.nodes ∧ s'.connections = s.connections) ∨
    (∃ node, s.IsNewNode node ∧ s'.nodes = s.nodes ++ [node] ∧ s'.connections = s.connections) ∨
    (∃ c, s.connection? c.name = none ∧ s'.nodes = s.nodes ∧
      s'.connections = s.connections ++ [c]) := by
  cases op with
  | addUserType name type =>
    obtain ⟨-, rfl⟩ := h
    exact .inl ⟨rfl, rfl⟩
  | addPortType name type =>
    obtain ⟨-, _, -, rfl⟩ := h
    exact .inl ⟨rfl, rfl⟩
  | addNodeType name type =>
    obtain ⟨-, _, -, rfl⟩ := h
    exact .inl ⟨rfl, rfl⟩
  | addConnectionType name type =>
    obtain ⟨-, _, -, rfl⟩ := h
    exact .inl ⟨rfl, rfl⟩
  | addConstraintType name type =>
    obtain ⟨-, _, -, rfl⟩ := h
    exact .inl ⟨rfl, rfl⟩
  | addNode name type given portGiven =>
    obtain ⟨⟨hnew, -⟩, attributes, ports, hvalid, hports, rfl⟩ := h
    have hnode : s.IsNewNode ⟨name, type, attributes, ports⟩ :=
      ⟨hnew, ports_of_newPorts hports, s.userTypes, Attributes.meets_of_validate hvalid⟩
    exact .inr (.inl ⟨_, hnode, rfl, rfl⟩)
  | addConnection name type source target given =>
    obtain ⟨hnew, attributes, -, rfl⟩ := h
    exact .inr (.inr ⟨⟨name, type, source, target, attributes⟩, hnew, rfl, rfl⟩)
  | addConstraint name type given =>
    obtain ⟨-, _, -, rfl⟩ := h
    exact .inl ⟨rfl, rfl⟩

/-! ### What all steps keep -/

/-- What holds of the nodes and connections of every reachable schematic. -/
structure Consistent (s : Schematic) : Prop where
  /-- No two nodes have one name. -/
  nodeNames : (s.nodes.map (·.name)).Nodup
  /-- No two connections have one name. -/
  connectionNames : (s.connections.map (·.name)).Nodup
  /-- Every node has the ports of its type. -/
  ports : ∀ node ∈ s.nodes, node.HasDeclaredPorts
  /-- Every node has the attributes of its type. -/
  attributes : ∀ node ∈ s.nodes, node.HasDeclaredAttributes

/-- A new name at the end keeps names distinct. -/
theorem nodup_names_concat {α : Type} {name : α → String} {xs : List α} {x : α}
    (h : (xs.map name).Nodup) (hnew : xs.find? (fun y => name y = name x) = none) :
    ((xs ++ [x]).map name).Nodup := by
  rw [List.map_append, List.nodup_append]
  refine ⟨h, List.nodup_singleton _, ?_⟩
  intro a ha b hb hab
  obtain ⟨y, hy, rfl⟩ := List.mem_map.1 ha
  rw [List.map_singleton, List.mem_singleton] at hb
  have := List.find?_eq_none.1 hnew y hy
  exact this (decide_eq_true (hab.trans hb))

/-- One step keeps a schematic consistent. -/
theorem Consistent.step {s s' : Schematic} {op : Operation} (hs : s.Consistent)
    (h : op.Extends s s') : s'.Consistent := by
  rcases h.cases with ⟨hn, hc⟩ | ⟨node, hnew, hn, hc⟩ | ⟨c, hnew, hn, hc⟩
  · exact ⟨hn ▸ hs.nodeNames, hc ▸ hs.connectionNames, hn ▸ hs.ports, hn ▸ hs.attributes⟩
  · refine ⟨?_, hc ▸ hs.connectionNames, ?_, ?_⟩
    · rw [hn]
      exact nodup_names_concat hs.nodeNames hnew.fresh
    · rw [hn]
      exact List.forall_mem_append.2 ⟨hs.ports, List.forall_mem_singleton.2 hnew.ports⟩
    · rw [hn]
      exact List.forall_mem_append.2 ⟨hs.attributes, List.forall_mem_singleton.2 hnew.attributes⟩
  · refine ⟨hn ▸ hs.nodeNames, ?_, hn ▸ hs.ports, hn ▸ hs.attributes⟩
    rw [hc]
    exact nodup_names_concat hs.connectionNames hnew

/-- Every reachable schematic is consistent. -/
theorem Reachable.consistent {s : Schematic} (h : Reachable s) : s.Consistent :=
  h.induction (fun _ => ⟨List.nodup_nil, List.nodup_nil, by simp, by simp⟩)
    fun hs hop => hs.step hop

/-! ### Finding nodes -/

/-- Where names are distinct, a look-up finds exactly the member with the name. -/
theorem find?_name_eq_some_iff {α : Type} {name : α → String} {xs : List α}
    (h : (xs.map name).Nodup) {key : String} {x : α} :
    xs.find? (fun y => name y = key) = some x ↔ x ∈ xs ∧ name x = key := by
  constructor
  · intro hfind
    exact ⟨List.mem_of_find?_eq_some hfind, by simpa using List.find?_some hfind⟩
  · intro ⟨hmem, hname⟩
    subst hname
    cases hfind : xs.find? (fun y => name y = name x) with
    | none => simpa using List.find?_eq_none.1 hfind x hmem
    | some other =>
      have hother : other ∈ xs := List.mem_of_find?_eq_some hfind
      have hname : name other = name x := by simpa using List.find?_some hfind
      rw [List.inj_on_of_nodup_map h hother hmem hname]

/-- The node with a name is found iff it is there. -/
theorem node?_eq_some_iff {s : Schematic} (hs : s.Consistent) {name : String} {node : Node} :
    s.node? name = some node ↔ node ∈ s.nodes ∧ node.name = name :=
  find?_name_eq_some_iff hs.nodeNames

/-- The type of a port is what the type of its node declares. -/
theorem map_port?_eq {s : Schematic} (hs : s.Consistent) {node : Node} (hmem : node ∈ s.nodes)
    (port : String) :
    (s.port? ⟨node.name, port⟩).map (·.type) = node.type.ports.find? port := by
  have hnode : s.node? node.name = some node := (node?_eq_some_iff hs).2 ⟨hmem, rfl⟩
  simp only [port?, hnode, Option.bind_eq_bind, Option.bind_some]
  exact (hs.ports node hmem).map_port? port

/-! ### Finding ports -/

/-- What is required is there iff the look-up gives it. -/
theorem require_eq_ok {α : Type} {name : String} {scope : Scope} {found : Option α} {a : α} :
    require name scope found = .ok a ↔ found = some a := by
  cases found <;> simp [require]

section Ports

variable {node : Node} {p : PortRef}

/-- A port is asked for by its own name. -/
theorem port?_eq_some {name : String} {port : Port} (h : node.port? name = some port) :
    port ∈ node.ports ∧ port.name = name :=
  ⟨List.mem_of_find?_eq_some h, by simpa using List.find?_some h⟩

/-- A node refers to its port by the two names. -/
theorem portOf_eq_ok {name : String} :
    portOf node name = .ok p ↔ (∃ port, node.port? name = some port) ∧ p = ⟨node.name, name⟩ := by
  unfold portOf
  rw [require_eq_ok, Option.map_eq_some_iff]
  constructor
  · rintro ⟨port, hport, rfl⟩
    rw [(port?_eq_some hport).2]
    exact ⟨⟨port, hport⟩, rfl⟩
  · rintro ⟨⟨port, hport⟩, rfl⟩
    exact ⟨port, hport, by rw [(port?_eq_some hport).2]⟩

/-- The references of a node have its name, and the names of its ports. -/
theorem mem_node_portRefs_iff :
    p ∈ node.portRefs ↔ ∃ port, node.port? p.port = some port ∧ p.node = node.name := by
  unfold Node.portRefs
  rw [List.mem_map]
  constructor
  · rintro ⟨port, hport, rfl⟩
    -- The first port with this name need not be this one, but there is one.
    have hfind : (node.port? port.name).isSome := List.find?_isSome.2 ⟨port, hport, by simp⟩
    obtain ⟨first, hfirst⟩ := Option.isSome_iff_exists.1 hfind
    exact ⟨first, hfirst, rfl⟩
  · rintro ⟨port, hport, hnode⟩
    obtain ⟨hmem, hname⟩ := port?_eq_some hport
    refine ⟨port, hmem, ?_⟩
    rw [hname, ← hnode]

end Ports

end Schematic

end Netlister
