import Netlister.Proofs.Outcome
import Netlister.Schematic.Construction

/-! # What a construction step does

  A schematic comes about by construction steps. Every step is a sequence of checks, none
  of which changes the schematic, followed by one change that cannot fail. The equations
  `addUserType_eq` … `addConstraint_eq` bring the steps into this form.

  `Operation.Extends` says for each step under which conditions it succeeds and what the
  schematic is then, and `Operation.apply_eq_ok` that this is all. Whatever holds of
  successful steps is derived from it; no later proof opens a step.
-/

namespace Netlister.Schematic

/-! ### Operations -/

/-- A construction step, with its arguments; `ρ` is what the ends of connections are given
    as. -/
inductive Operation (ρ : Type := PortRef) where
  /-- Declares an attribute type. -/
  | addUserType (name : String) (type : AttributeType)
  /-- Registers a type of ports. -/
  | addPortType (name : String) (type : PortType)
  /-- Registers a type of nodes. -/
  | addNodeType (name : String) (type : NodeType)
  /-- Registers a type of connections. -/
  | addConnectionType (name : String) (type : ConnectionType)
  /-- Registers a type of constraints. -/
  | addConstraintType (name : String) (type : ConstraintType)
  /-- Adds a node with its ports. -/
  | addNode (name : String) (type : NodeType) (attributes : List (String × Value))
      (portAttributes : List (String × List (String × Value)))
  /-- Adds a connection. -/
  | addConnection (name : String) (type : ConnectionType) (source target : ρ)
      (attributes : List (String × Value))
  /-- Adds a constraint. -/
  | addConstraint (name : String) (type : ConstraintType) (attributes : List (String × Value))

/-- What a construction step makes of a schematic. -/
def Operation.apply (s : Schematic) : Operation → Except Error Schematic
  | addUserType name type => s.addUserType name type
  | addPortType name type => s.addPortType name type
  | addNodeType name type => s.addNodeType name type
  | addConnectionType name type => s.addConnectionType name type
  | addConstraintType name type => s.addConstraintType name type
  | addNode name type attributes portAttributes => s.addNode name type attributes portAttributes
  | addConnection name type source target attributes =>
    s.addConnection name type source target attributes
  | addConstraint name type attributes => s.addConstraint name type attributes

/-! ### Checks -/

/-- Fails with an error if a condition holds. -/
def refuse (error : Error) (condition : Bool) : Except Error Unit :=
  if condition then .error error else .ok ()

theorem refuse_eq_ok {error : Error} {condition : Bool} {u : Unit} :
    refuse error condition = .ok u ↔ condition = false := by
  cases condition <;> simp [refuse]

/-- Fails for the first given port that the type of a new node does not have. -/
def requirePorts (node : String) (type : NodeType) (given : List (String × List (String × Value))) :
    Except Error Unit :=
  given.forM fun g => refuse (.undeclared g.1 (.portsOf node)) (!type.ports.contains g.1)

/-- The first failing check is that of the first port that the type does not have. -/
theorem requirePorts_eq (node : String) (type : NodeType)
    (given : List (String × List (String × Value))) :
    requirePorts node type given =
      match given.find? fun g => !type.ports.contains g.1 with
      | some (port, _) => .error (.undeclared port (.portsOf node))
      | none => .ok () := by
  induction given with
  | nil => rfl
  | cons g given ih =>
    show (refuse (.undeclared g.1 (.portsOf node)) (!type.ports.contains g.1) >>= fun _ =>
      requirePorts node type given) = _
    rw [List.find?_cons]
    cases hport : type.ports.contains g.1 with
    | false => rfl
    | true => exact ih

/-! ### Steps as checks and a change -/

theorem register_eq {α : Type} (scope : Scope) (m : NameMap α) (name : String) (value : α) :
    register scope m name value = do
      refuse (.multipleDefinition name scope) (m.contains name)
      return m.insert name value := by
  unfold register refuse
  cases m.contains name <;> rfl

theorem addUserType_eq (s : Schematic) (name : String) (type : AttributeType) :
    s.addUserType name type = do
      refuse (.multipleDefinition name .userTypes)
        (AttributeType.builtinNames.contains name || s.userTypes.contains name)
      s.userTypes.requireDeclared type
      return { s with userTypes := s.userTypes.declare name type } := by
  unfold addUserType refuse
  cases AttributeType.builtinNames.contains name || s.userTypes.contains name <;> rfl

theorem addNode_eq (s : Schematic) (name : String) (type : NodeType)
    (given : List (String × Value)) (portGiven : List (String × List (String × Value))) :
    s.addNode name type given portGiven = do
      refuse (.multipleAssignment .node name) (s.node? name).isSome
      let attributes ← Attributes.validate type.attributes s.userTypes given
      requirePorts name type portGiven
      let ports ← newPorts s.userTypes type portGiven
      return { s with nodes := s.nodes ++ [⟨name, type, attributes, ports⟩] } := by
  unfold addNode refuse
  cases (s.node? name).isSome with
  | true => rfl
  | false =>
    cases Attributes.validate type.attributes s.userTypes given with
    | error e => rfl
    | ok attributes =>
      simp only [requirePorts_eq]
      cases portGiven.find? fun g => !type.ports.contains g.1 <;> rfl

theorem addConnection_eq (s : Schematic) (name : String) (type : ConnectionType)
    (source target : PortRef) (given : List (String × Value)) :
    s.addConnection name type source target given = do
      refuse (.multipleAssignment .connection name) (s.connection? name).isSome
      let attributes ← Attributes.validate type.attributes s.userTypes given
      return { s with connections := s.connections ++ [⟨name, type, source, target, attributes⟩] } := by
  unfold addConnection refuse
  cases (s.connection? name).isSome <;> rfl

theorem addConstraint_eq (s : Schematic) (name : String) (type : ConstraintType)
    (given : List (String × Value)) :
    s.addConstraint name type given = do
      refuse (.multipleAssignment .constraint name) (s.constraint? name).isSome
      let attributes ← Attributes.validate type.attributes s.userTypes given
      return { s with constraints := s.constraints ++ [⟨name, type, attributes⟩] } := by
  unfold addConstraint refuse
  cases (s.constraint? name).isSome <;> rfl

/-! ### Successful steps -/

/-- A value can be registered under a name, and the map with it. -/
def Registers {α : Type} (m : NameMap α) (name : String) (value : α) (m' : NameMap α) : Prop :=
  m.find? name = none ∧ m' = m.insert name value

theorem register_eq_ok {α : Type} {scope : Scope} {m m' : NameMap α} {name : String} {value : α} :
    register scope m name value = .ok m' ↔ Registers m name value m' := by
  unfold register Registers NameMap.contains
  cases m.find? name <;> simp [eq_comm]

/-- The conditions under which a step succeeds, and the schematic after it. -/
def Operation.Extends (s s' : Schematic) : Operation → Prop
  | addUserType name type =>
    (name ∉ AttributeType.builtinNames ∧ s.userTypes.find? name = none ∧
      s.userTypes.requireDeclared type = .ok ()) ∧
    s' = { s with userTypes := s.userTypes.declare name type }
  | addPortType name type =>
    s.requireSchema type.attributes = .ok () ∧
    ∃ portTypes, Registers s.portTypes name type portTypes ∧ s' = { s with portTypes }
  | addNodeType name type =>
    s.requireSchema type.attributes = .ok () ∧
    ∃ nodeTypes, Registers s.nodeTypes name type nodeTypes ∧ s' = { s with nodeTypes }
  | addConnectionType name type =>
    s.requireSchema type.attributes = .ok () ∧
    ∃ connectionTypes, Registers s.connectionTypes name type connectionTypes ∧
      s' = { s with connectionTypes }
  | addConstraintType name type =>
    s.requireSchema type.attributes = .ok () ∧
    ∃ constraintTypes, Registers s.constraintTypes name type constraintTypes ∧
      s' = { s with constraintTypes }
  | addNode name type given portGiven =>
    (s.node? name = none ∧ requirePorts name type portGiven = .ok ()) ∧
    ∃ attributes ports, Attributes.validate type.attributes s.userTypes given = .ok attributes ∧
      newPorts s.userTypes type portGiven = .ok ports ∧
      s' = { s with nodes := s.nodes ++ [⟨name, type, attributes, ports⟩] }
  | addConnection name type source target given =>
    s.connection? name = none ∧
    ∃ attributes, Attributes.validate type.attributes s.userTypes given = .ok attributes ∧
      s' = { s with connections := s.connections ++ [⟨name, type, source, target, attributes⟩] }
  | addConstraint name type given =>
    s.constraint? name = none ∧
    ∃ attributes, Attributes.validate type.attributes s.userTypes given = .ok attributes ∧
      s' = { s with constraints := s.constraints ++ [⟨name, type, attributes⟩] }

/-- A registration checks the schema of the type and then the name. -/
theorem registration_eq_ok {α : Type} {s s' : Schematic} {schema : Schema} {scope : Scope}
    {m : NameMap α} {name : String} {value : α} {put : NameMap α → Schematic} :
    (do
      s.requireSchema schema
      return put (← register scope m name value) : Except Error Schematic) = .ok s' ↔
      s.requireSchema schema = .ok () ∧ ∃ m', Registers m name value m' ∧ s' = put m' := by
  rw [Outcome.check_bind_eq_ok, Outcome.bind_eq_ok]
  constructor
  · rintro ⟨hschema, m', hm', h⟩
    cases h
    exact ⟨hschema, m', register_eq_ok.1 hm', rfl⟩
  · rintro ⟨hschema, m', hm', rfl⟩
    exact ⟨hschema, m', register_eq_ok.2 hm', rfl⟩

/-- An instance needs a new name and attributes that pass validation. -/
theorem instance_eq_ok {s s' : Schematic} {error : Error} {taken : Bool} {schema : Schema}
    {given : List (String × Value)} {put : Attributes → Schematic} :
    (do
      refuse error taken
      return put (← Attributes.validate schema s.userTypes given) : Except Error Schematic) =
        .ok s' ↔
      taken = false ∧
        ∃ attributes, Attributes.validate schema s.userTypes given = .ok attributes ∧
          s' = put attributes := by
  rw [Outcome.check_bind_eq_ok, refuse_eq_ok, Outcome.bind_eq_ok]
  constructor
  · rintro ⟨hnew, attributes, hattributes, h⟩
    cases h
    exact ⟨hnew, attributes, hattributes, rfl⟩
  · rintro ⟨hnew, attributes, hattributes, rfl⟩
    exact ⟨hnew, attributes, hattributes, rfl⟩

/-- A step succeeds under these conditions only, and does nothing else. -/
theorem Operation.apply_eq_ok {s s' : Schematic} {op : Operation} :
    op.apply s = .ok s' ↔ op.Extends s s' := by
  have hfree {α : Type} {found : Option α} : found.isSome = false ↔ found = none := by simp
  cases op with
  | addUserType name type =>
    have hname : (AttributeType.builtinNames.contains name || s.userTypes.contains name) = false ↔
        name ∉ AttributeType.builtinNames ∧ s.userTypes.find? name = none := by
      simp [UserTypes.contains]
    simp only [apply, addUserType_eq, Outcome.check_bind_eq_ok, refuse_eq_ok, hname]
    constructor
    · rintro ⟨⟨hbuiltin, hnew⟩, hdeclared, h⟩
      cases h
      exact ⟨⟨hbuiltin, hnew, hdeclared⟩, rfl⟩
    · rintro ⟨⟨hbuiltin, hnew, hdeclared⟩, rfl⟩
      exact ⟨⟨hbuiltin, hnew⟩, hdeclared, rfl⟩
  | addPortType name type => exact registration_eq_ok
  | addNodeType name type => exact registration_eq_ok
  | addConnectionType name type => exact registration_eq_ok
  | addConstraintType name type => exact registration_eq_ok
  | addNode name type given portGiven =>
    simp only [apply, addNode_eq, Outcome.bind_eq_ok, refuse_eq_ok, hfree]
    constructor
    · rintro ⟨_, hnew, attributes, hattributes, _, hgiven, ports, hports, h⟩
      cases h
      exact ⟨⟨hnew, hgiven⟩, attributes, ports, hattributes, hports, rfl⟩
    · rintro ⟨⟨hnew, hgiven⟩, attributes, ports, hattributes, hports, rfl⟩
      exact ⟨(), hnew, attributes, hattributes, (), hgiven, ports, hports, rfl⟩
  | addConnection name type source target given =>
    simp only [apply, addConnection_eq, instance_eq_ok, hfree]
    rfl
  | addConstraint name type given =>
    simp only [apply, addConstraint_eq, instance_eq_ok, hfree]
    rfl

end Netlister.Schematic
