import Netlister.Proofs.InPlace
import Netlister.Proofs.Schematic.Reachable

/-! # Failed steps leave no trace

  A step may fail at many places, and a schematic that is changed in place would keep
  what was written before the failure. `Operation.execute` takes the steps in this way,
  check by check and write by write: a node is put in first, and then its ports one by one.

  - `Operation.execute_eq`: executed in place, a step has the outcome of `Operation.apply`,
    and if it fails, the schematic is as before. No check comes after a write.
  - `execute_atomic`: later steps cannot tell that a failed one was tried, and a successful
    one adds one entry and changes no other.
  - `registration_first`: a new entry need not be the last one. The registered types are
    listed by name, and the listing decides under which name a type is known.
-/

namespace Netlister

/-! ### New entries of maps and lists -/

/-- `m'` has one entry more than `m`, at the place of its name. -/
def NameMap.Gains {α : Type} (m m' : NameMap α) (name : String) (value : α) : Prop :=
  ∃ before after, m.entries = before ++ after ∧ m'.entries = before ++ (name, value) :: after ∧
    (∀ e ∈ before, e.1 < name) ∧ ∀ e ∈ after, name < e.1

/-- Insertion under a new name splits the entries at the place of the name. -/
theorem NameMap.insertEntry_eq_append {α : Type} {name : String} {value : α}
    {es : List (String × α)} (hes : es.Pairwise (fun a b => a.1 < b.1))
    (hnew : es.lookup name = none) :
    ∃ before after, es = before ++ after ∧
      insertEntry name value es = before ++ (name, value) :: after ∧
      (∀ e ∈ before, e.1 < name) ∧ ∀ e ∈ after, name < e.1 := by
  induction es with
  | nil => exact ⟨[], [], rfl, rfl, by simp, by simp⟩
  | cons e rest ih =>
    obtain ⟨first, old⟩ := e
    obtain ⟨hfirst, hrest⟩ := List.pairwise_cons.1 hes
    have hne : name ≠ first := by
      rintro rfl
      simp at hnew
    unfold insertEntry
    by_cases hlt : name < first
    · -- The name comes before all others.
      rw [if_pos hlt]
      refine ⟨[], (first, old) :: rest, rfl, rfl, by simp, ?_⟩
      exact List.forall_mem_cons.2 ⟨hlt, fun e he => String.lt_trans hlt (hfirst e he)⟩
    · -- It comes after the first one, and finds its place among the others.
      have hnewRest : rest.lookup name = none := by
        simpa [List.lookup_cons, beq_eq_false_iff_ne.2 hne] using hnew
      obtain ⟨before, after, hsplit, hinsert, hbefore, hafter⟩ := ih hrest hnewRest
      rw [if_neg hlt, if_neg hne, hinsert]
      have hgt : first < name := Std.lt_of_le_of_ne (String.not_lt.1 hlt) hne.symm
      exact ⟨(first, old) :: before, after, by rw [hsplit]; rfl, rfl,
        List.forall_mem_cons.2 ⟨hgt, hbefore⟩, hafter⟩

theorem NameMap.gains_insert {α : Type} {m : NameMap α} {name : String} (value : α)
    (hnew : m.find? name = none) : m.Gains (m.insert name value) name value :=
  insertEntry_eq_append m.ascending hnew

/-- A node with one more port. -/
def Node.attach (port : Port) (node : Node) : Node := { node with ports := node.ports ++ [port] }

namespace Schematic

open Outcome

/-- `xs'` has one member more than `xs`. It stands after all others and is found by its
    name, and under other names the same is found as before. -/
def GainsLast {α : Type} (name : α → String) (xs xs' : List α) (x : α) : Prop :=
  xs' = xs ++ [x] ∧ ∀ key, xs'.find? (fun y => name y = key) =
    if key = name x then some x else xs.find? (fun y => name y = key)

theorem gainsLast_concat {α : Type} {name : α → String} {xs : List α} {x : α}
    (hnew : xs.find? (fun y => name y = name x) = none) : GainsLast name xs (xs ++ [x]) x := by
  refine ⟨rfl, fun key => ?_⟩
  rw [List.find?_append, List.find?_singleton]
  -- The older members come first in the search, but none of them has the new name.
  by_cases hkey : key = name x
  · subst hkey
    simp [hnew]
  · simp [hkey, Ne.symm hkey]

/-! ### Changing a schematic in place -/

/-- What changes a schematic in place. When it fails, the writes made so far stay. -/
abbrev InPlace (α : Type) : Type := EStateM Error Schematic α

/-- Puts in a node that has no ports yet, and tells its place. -/
def allocateNode (name : String) (type : NodeType) (attributes : Attributes) : InPlace Nat :=
  modifyGet fun s => (s.nodes.length, { s with nodes := s.nodes ++ [⟨name, type, attributes, []⟩] })

/-- Gives one more port to the node at a place. -/
def allocatePort (place : Nat) (port : Port) : InPlace Unit :=
  modify fun s => { s with nodes := s.nodes.modify place (Node.attach port) }

/-- Where types of one kind are registered in a state. -/
structure TypeNames (σ α : Type) where
  /-- The scope that errors name. -/
  scope : Scope
  /-- The registered types. -/
  get : σ → NameMap α
  /-- Replaces the registered types. -/
  set : σ → NameMap α → σ

/-- Registers a type whose attributes may be of the types declared in the state. -/
def TypeNames.register {σ α : Type} (names : TypeNames σ α) (declared : σ → UserTypes)
    (name : String) (schema : Schema) (type : α) : EStateM Error σ Unit := do
  look fun s => schema.values.forM (declared s).requireDeclared
  look fun s => refuse (.multipleDefinition name names.scope) ((names.get s).contains name)
  modify fun s => names.set s ((names.get s).insert name type)

/-- Where types of ports are registered. -/
def portTypeNames : TypeNames Schematic PortType :=
  ⟨.portTypes, portTypes, fun s m => { s with portTypes := m }⟩

/-- Where types of nodes are registered. -/
def nodeTypeNames : TypeNames Schematic NodeType :=
  ⟨.nodeTypes, nodeTypes, fun s m => { s with nodeTypes := m }⟩

/-- Where types of connections are registered. -/
def connectionTypeNames : TypeNames Schematic ConnectionType :=
  ⟨.connectionTypes, connectionTypes, fun s m => { s with connectionTypes := m }⟩

/-- Where types of constraints are registered. -/
def constraintTypeNames : TypeNames Schematic ConstraintType :=
  ⟨.constraintTypes, constraintTypes, fun s m => { s with constraintTypes := m }⟩

/-- Takes a step in place. -/
def Operation.execute : Operation → InPlace Unit
  | addUserType name type => do
    look fun s => refuse (.multipleDefinition name .userTypes)
      (AttributeType.builtinNames.contains name || s.userTypes.contains name)
    look fun s => s.userTypes.requireDeclared type
    modify fun s => { s with userTypes := s.userTypes.declare name type }
  | addPortType name type => portTypeNames.register userTypes name type.attributes type
  | addNodeType name type => nodeTypeNames.register userTypes name type.attributes type
  | addConnectionType name type =>
    connectionTypeNames.register userTypes name type.attributes type
  | addConstraintType name type =>
    constraintTypeNames.register userTypes name type.attributes type
  | addNode name type given portGiven => do
    look fun s => refuse (.multipleAssignment .node name) (s.node? name).isSome
    let attributes ← look fun s => Attributes.validate type.attributes s.userTypes given
    look fun _ => requirePorts name type portGiven
    let ports ← look fun s => newPorts s.userTypes type portGiven
    let place ← allocateNode name type attributes
    ports.forM (allocatePort place)
  | addConnection name type source target given => do
    look fun s => refuse (.multipleAssignment .connection name) (s.connection? name).isSome
    let attributes ← look fun s => Attributes.validate type.attributes s.userTypes given
    modify fun s =>
      { s with connections := s.connections ++ [⟨name, type, source, target, attributes⟩] }
  | addConstraint name type given => do
    look fun s => refuse (.multipleAssignment .constraint name) (s.constraint? name).isSome
    let attributes ← look fun s => Attributes.validate type.attributes s.userTypes given
    modify fun s => { s with constraints := s.constraints ++ [⟨name, type, attributes⟩] }

/-! ### No check comes after a write -/

/-- The ports of a new node arrive one by one, and in the end it has them all. -/
theorem forM_allocatePort (s : Schematic) (node : Node) (ports : List Port) :
    ports.forM (allocatePort s.nodes.length) { s with nodes := s.nodes ++ [node] } =
      .ok () { s with nodes := s.nodes ++ [{ node with ports := node.ports ++ ports }] } := by
  induction ports generalizing node with
  | nil => simp [pure, EStateM.pure]
  | cons port ports ih =>
    -- The node under construction is the last one.
    have hlast : (s.nodes ++ [node]).modify s.nodes.length (Node.attach port) =
        s.nodes ++ [node.attach port] := by
      simp [List.modify_eq_take_drop]
    show ports.forM (allocatePort s.nodes.length)
      { s with nodes := (s.nodes ++ [node]).modify s.nodes.length (Node.attach port) } = _
    rw [hlast, ih]
    simp [Node.attach]

/-- Registration in place, for whichever kind of types. -/
theorem TypeNames.register_eq {σ α : Type} (names : TypeNames σ α) (declared : σ → UserTypes)
    (s : σ) (name : String) (schema : Schema) (type : α) :
    names.register declared name schema type s = settle s (do
      schema.values.forM (declared s).requireDeclared
      let m ← Schematic.register names.scope (names.get s) name type
      return ((), names.set s m)) := by
  simp only [Schematic.register_eq, bind_assoc, pure_bind]
  exact (sees_look _).bind fun _ _ => (sees_look _).bind fun _ _ => rfl

/-- Taken in place, a step has the same outcome, and a failure leaves nothing behind. -/
theorem Operation.execute_eq (op : Operation) (s : Schematic) :
    op.execute s = settle s ((op.apply s).map fun s' => ((), s')) := by
  cases op with
  | addUserType name type =>
    simp only [apply, addUserType_eq, Outcome.map_bind]
    exact (sees_look _).bind fun _ _ => (sees_look _).bind fun _ _ => rfl
  | addPortType name type =>
    simp only [apply, Schematic.addPortType, Outcome.map_bind]
    exact TypeNames.register_eq _ userTypes s name type.attributes type
  | addNodeType name type =>
    simp only [apply, Schematic.addNodeType, Outcome.map_bind]
    exact TypeNames.register_eq _ userTypes s name type.attributes type
  | addConnectionType name type =>
    simp only [apply, Schematic.addConnectionType, Outcome.map_bind]
    exact TypeNames.register_eq _ userTypes s name type.attributes type
  | addConstraintType name type =>
    simp only [apply, Schematic.addConstraintType, Outcome.map_bind]
    exact TypeNames.register_eq _ userTypes s name type.attributes type
  | addNode name type given portGiven =>
    simp only [apply, addNode_eq, Outcome.map_bind]
    -- All four looks are over before the node is put in.
    refine (sees_look _).bind fun _ _ => (sees_look _).bind fun attributes _ => ?_
    refine (sees_look _).bind fun _ _ => (sees_look _).bind fun ports _ => ?_
    exact forM_allocatePort s ⟨name, type, attributes, []⟩ ports
  | addConnection name type source target given =>
    simp only [apply, addConnection_eq, Outcome.map_bind]
    exact (sees_look _).bind fun _ _ => (sees_look _).bind fun _ _ => rfl
  | addConstraint name type given =>
    simp only [apply, addConstraint_eq, Outcome.map_bind]
    exact (sees_look _).bind fun _ _ => (sees_look _).bind fun _ _ => rfl

/-! ### Sessions -/

/-- Steps taken in place, one after another: all answers, and the schematic at the end. -/
def session (s : Schematic) : List Operation → List (Except Error Unit) × Schematic
  | [] => ([], s)
  | op :: later =>
    match op.execute s with
    | .ok _ s' => ((session s' later).1.cons (.ok ()), (session s' later).2)
    | .error e s' => ((session s' later).1.cons (.error e), (session s' later).2)

/-! ### What a successful step adds -/

/-- A step adds one entry where it belongs, and changes nothing else. Nodes, connections
    and constraints come last, and so do the ports of a node; types come at the place of
    their name. -/
def Operation.Adds (s s' : Schematic) : Operation → Prop
  | addUserType name type =>
    s.userTypes.find? name = none ∧ ∃ userTypes, s' = { s with userTypes } ∧
      ∀ key, userTypes.find? key = if key = name then some type else s.userTypes.find? key
  | addPortType name type =>
    ∃ portTypes, s' = { s with portTypes } ∧ s.portTypes.Gains portTypes name type
  | addNodeType name type =>
    ∃ nodeTypes, s' = { s with nodeTypes } ∧ s.nodeTypes.Gains nodeTypes name type
  | addConnectionType name type =>
    ∃ connectionTypes, s' = { s with connectionTypes } ∧
      s.connectionTypes.Gains connectionTypes name type
  | addConstraintType name type =>
    ∃ constraintTypes, s' = { s with constraintTypes } ∧
      s.constraintTypes.Gains constraintTypes name type
  | addNode name type _ _ =>
    ∃ nodes node, s' = { s with nodes } ∧ GainsLast Node.name s.nodes nodes node ∧
      node.name = name ∧ node.type = type ∧ node.HasDeclaredPorts ∧
      s'.portRefs = s.portRefs ++ node.portRefs
  | addConnection name type source target _ =>
    ∃ connections attributes, s' = { s with connections } ∧
      GainsLast Connection.name s.connections connections ⟨name, type, source, target, attributes⟩
  | addConstraint name type _ =>
    ∃ constraints attributes, s' = { s with constraints } ∧
      GainsLast Constraint.name s.constraints constraints ⟨name, type, attributes⟩

theorem Operation.Extends.adds {s s' : Schematic} {op : Operation} (h : op.Extends s s') :
    op.Adds s s' := by
  cases op with
  | addUserType name type =>
    obtain ⟨⟨-, hnew, -⟩, rfl⟩ := h
    exact ⟨hnew, _, rfl, fun key => UserTypes.find?_declare s.userTypes name key type⟩
  | addPortType name type =>
    obtain ⟨-, _, ⟨hnew, rfl⟩, rfl⟩ := h
    exact ⟨_, rfl, NameMap.gains_insert type hnew⟩
  | addNodeType name type =>
    obtain ⟨-, _, ⟨hnew, rfl⟩, rfl⟩ := h
    exact ⟨_, rfl, NameMap.gains_insert type hnew⟩
  | addConnectionType name type =>
    obtain ⟨-, _, ⟨hnew, rfl⟩, rfl⟩ := h
    exact ⟨_, rfl, NameMap.gains_insert type hnew⟩
  | addConstraintType name type =>
    obtain ⟨-, _, ⟨hnew, rfl⟩, rfl⟩ := h
    exact ⟨_, rfl, NameMap.gains_insert type hnew⟩
  | addNode name type given portGiven =>
    obtain ⟨⟨hnew, -⟩, attributes, ports, -, hports, rfl⟩ := h
    refine ⟨_, _, rfl, gainsLast_concat hnew, rfl, rfl, ports_of_newPorts hports, ?_⟩
    simp [portRefs]
  | addConnection name type source target given =>
    obtain ⟨hnew, attributes, -, rfl⟩ := h
    exact ⟨_, attributes, rfl, gainsLast_concat hnew⟩
  | addConstraint name type given =>
    obtain ⟨hnew, attributes, -, rfl⟩ := h
    exact ⟨_, attributes, rfl, gainsLast_concat hnew⟩

/-- **A step is taken as a whole or not at all.** Taken in place, a step that fails leaves
    the schematic as it was, and whatever steps follow have the same answers and lead to
    the same schematic as without it. A step that succeeds adds what it should, and
    nothing else. -/
theorem execute_atomic (s : Schematic) (op : Operation) :
    match op.execute s with
    | .error e s' => op.apply s = .error e ∧ s' = s ∧
        ∀ later, s.session (op :: later) = ((s.session later).1.cons (.error e), (s.session later).2)
    | .ok _ s' => op.apply s = .ok s' ∧ op.Adds s s' := by
  have heq := op.execute_eq s
  cases happly : op.apply s with
  | error e =>
    have hexecute : op.execute s = .error e s := by rw [heq, happly]; rfl
    simp only [hexecute]
    refine ⟨trivial, trivial, fun later => ?_⟩
    -- The session goes on from the schematic that the step was tried on.
    simp only [session, hexecute]
  | ok s' =>
    have hexecute : op.execute s = .ok () s' := by rw [heq, happly]; rfl
    simp only [hexecute]
    exact ⟨trivial, (Operation.apply_eq_ok.1 happly).adds⟩

/-- A type of ports without attributes, registered once. -/
def plug : Schematic := perform { name := "plug" } (.addPortType "b" ⟨0, ∅⟩)

/-- A type that is registered again need not come last: under a lesser name it comes first,
    and is then known by this name. -/
theorem registration_first :
    ∃ s', plug.Reachable ∧ Operation.apply plug (.addPortType "a" ⟨0, ∅⟩) = .ok s' ∧
      s'.portTypes.entries = ("a", ⟨0, ∅⟩) :: plug.portTypes.entries ∧
      plug.portTypeName? ⟨0, ∅⟩ = some "b" ∧ s'.portTypeName? ⟨0, ∅⟩ = some "a" := by
  refine ⟨_, ?_, rfl, ?_, ?_, ?_⟩
  · exact .perform _ (.new _) trivial
  · decide +kernel
  · decide +kernel
  · decide +kernel

end Schematic

end Netlister
