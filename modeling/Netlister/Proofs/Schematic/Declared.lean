import Netlister.Proofs.Entries
import Netlister.Proofs.Schematic.Conforming
import Netlister.Proofs.Schematic.Expansion

/-! # What was checked stays so

  A step checks what it is given against the schematic as it is then. Steps only add, so what
  was found is still there in every later schematic:

  - `Reachable.inOrder`: attribute types have names of their own, and the types in the schema of
    every registered type are declared.
  - `Reachable.ends`: connections end at ports.
-/

namespace Netlister.Schematic

/-! ### Attribute types -/

/-- No attribute type has a built-in name, and registered types mention declared ones only. -/
structure InOrder (s : Schematic) : Prop where
  names : ∀ e ∈ s.userTypes.declarations, e.1 ∉ AttributeType.builtinNames
  portTypes : ∀ type, s.portTypes.Has type → s.requireSchema type.attributes = .ok ()
  nodeTypes : ∀ type, s.nodeTypes.Has type → s.requireSchema type.attributes = .ok ()
  connectionTypes : ∀ type, s.connectionTypes.Has type → s.requireSchema type.attributes = .ok ()
  constraintTypes : ∀ type, s.constraintTypes.Has type → s.requireSchema type.attributes = .ok ()

/-- What holds of the values of a map, and of one that is registered, holds of all values then. -/
theorem Registers.forall_has {α : Type} {m m' : NameMap α} {name : String} {v : α} {P : α → Prop}
    (h : Registers m name v m') (hm : ∀ w, m.Has w → P w) (hv : P v) : ∀ w, m'.Has w → P w := by
  obtain ⟨-, rfl⟩ := h
  intro w hw
  obtain ⟨key, hkey⟩ := hw
  rw [NameMap.find?_insert] at hkey
  by_cases heq : key = name
  · rw [if_pos heq] at hkey
    cases hkey
    exact hv
  · rw [if_neg heq] at hkey
    exact hm w ⟨key, hkey⟩

/-- A schema that passed still passes after a further declaration. -/
theorem requireSchema_declare {s : Schematic} {schema : Schema} {name : String}
    {declared : AttributeType} (h : s.requireSchema schema = .ok ()) :
    { s with userTypes := s.userTypes.declare name declared }.requireSchema schema = .ok () := by
  unfold requireSchema at h ⊢
  rw [Outcome.forM_eq_ok] at h ⊢
  intro type htype
  exact UserTypes.requireDeclared_declare (h type htype)

/-- A step checks the name of an attribute type, or the schema of a type, before it adds it. -/
theorem InOrder.step {s s' : Schematic} {op : Operation} (hs : s.InOrder)
    (hop : op.Extends s s') : s'.InOrder := by
  cases op with
  | addUserType name type =>
    -- No type is registered, but all schemas are looked at with one more name declared.
    obtain ⟨⟨hname, -, -⟩, rfl⟩ := hop
    exact ⟨List.forall_mem_cons.2 ⟨hname, hs.names⟩,
      fun type htype => requireSchema_declare (hs.portTypes type htype),
      fun type htype => requireSchema_declare (hs.nodeTypes type htype),
      fun type htype => requireSchema_declare (hs.connectionTypes type htype),
      fun type htype => requireSchema_declare (hs.constraintTypes type htype)⟩
  | addPortType name type =>
    obtain ⟨hschema, _, hregisters, rfl⟩ := hop
    exact ⟨hs.names, hregisters.forall_has hs.portTypes hschema, hs.nodeTypes, hs.connectionTypes,
      hs.constraintTypes⟩
  | addNodeType name type =>
    obtain ⟨hschema, _, hregisters, rfl⟩ := hop
    exact ⟨hs.names, hs.portTypes, hregisters.forall_has hs.nodeTypes hschema, hs.connectionTypes,
      hs.constraintTypes⟩
  | addConnectionType name type =>
    obtain ⟨hschema, _, hregisters, rfl⟩ := hop
    exact ⟨hs.names, hs.portTypes, hs.nodeTypes,
      hregisters.forall_has hs.connectionTypes hschema, hs.constraintTypes⟩
  | addConstraintType name type =>
    obtain ⟨hschema, _, hregisters, rfl⟩ := hop
    exact ⟨hs.names, hs.portTypes, hs.nodeTypes, hs.connectionTypes,
      hregisters.forall_has hs.constraintTypes hschema⟩
  | addNode name type given portGiven =>
    obtain ⟨-, _, _, -, -, rfl⟩ := hop
    exact ⟨hs.names, hs.portTypes, hs.nodeTypes, hs.connectionTypes, hs.constraintTypes⟩
  | addConnection name type source target given =>
    obtain ⟨-, _, -, rfl⟩ := hop
    exact ⟨hs.names, hs.portTypes, hs.nodeTypes, hs.connectionTypes, hs.constraintTypes⟩
  | addConstraint name type given =>
    obtain ⟨-, _, -, rfl⟩ := hop
    exact ⟨hs.names, hs.portTypes, hs.nodeTypes, hs.connectionTypes, hs.constraintTypes⟩

theorem Reachable.inOrder {s : Schematic} (h : s.Reachable) : s.InOrder := by
  have hnone {α : Type} (v : α) : ¬ (∅ : NameMap α).Has v := by
    intro hv
    obtain ⟨name, hname⟩ := hv
    cases hname
  refine h.induction (fun name => ?_) fun hs hop => hs.step hop
  exact ⟨by simp, fun type htype => absurd htype (hnone type),
    fun type htype => absurd htype (hnone type), fun type htype => absurd htype (hnone type),
    fun type htype => absurd htype (hnone type)⟩

/-! ### Ends of connections -/

/-- No step takes a port away. -/
theorem Operation.Extends.isSome_port? {s s' : Schematic} {op : Operation}
    (hop : op.Extends s s') {p : PortRef} (hp : (s.port? p).isSome) : (s'.port? p).isSome := by
  have hsame (hnodes : s'.nodes = s.nodes) : (s'.port? p).isSome := by
    unfold port? node? at hp ⊢
    rw [hnodes]
    exact hp
  rcases hop.cases with ⟨hnodes, -⟩ | ⟨node, -, hnodes, -⟩ | ⟨c, -, hnodes, -⟩
  · exact hsame hnodes
  · obtain ⟨port, hport⟩ := Option.isSome_iff_exists.1 hp
    obtain ⟨owner, howner, hport⟩ := port?_eq_some_iff.1 hport
    -- A new node comes last, so that the owner of the port is found before it.
    have howner' : s'.node? p.node = some owner := by
      unfold node? at howner ⊢
      rw [hnodes, List.find?_append, howner]
      rfl
    exact Option.isSome_iff_exists.2 ⟨port, port?_eq_some_iff.2 ⟨owner, howner', hport⟩⟩
  · exact hsame hnodes

/-- A connection is between ports, when it is added and ever after. -/
theorem Reachable.ends {s : Schematic} (h : s.Reachable) :
    ∀ c ∈ s.connections, (s.port? c.source).isSome ∧ (s.port? c.target).isSome := by
  induction h with
  | new name => simp
  | @perform s op _ hadmissible ih =>
    unfold Schematic.perform
    cases hop : op.apply s with
    | error e => exact ih
    | ok s' =>
      have hextends := Operation.apply_eq_ok.1 hop
      have hbefore : ∀ c ∈ s'.connections, (s.port? c.source).isSome ∧ (s.port? c.target).isSome := by
        cases op with
        | addConnection name type source target given =>
          obtain ⟨-, _, -, rfl⟩ := hextends
          exact List.forall_mem_append.2 ⟨ih, List.forall_mem_singleton.2 hadmissible⟩
        | addUserType name type => obtain ⟨-, rfl⟩ := hextends; exact ih
        | addPortType name type => obtain ⟨-, _, -, rfl⟩ := hextends; exact ih
        | addNodeType name type => obtain ⟨-, _, -, rfl⟩ := hextends; exact ih
        | addConnectionType name type => obtain ⟨-, _, -, rfl⟩ := hextends; exact ih
        | addConstraintType name type => obtain ⟨-, _, -, rfl⟩ := hextends; exact ih
        | addNode name type given portGiven => obtain ⟨-, _, _, -, -, rfl⟩ := hextends; exact ih
        | addConstraint name type given => obtain ⟨-, _, -, rfl⟩ := hextends; exact ih
      intro c hc
      obtain ⟨hsource, htarget⟩ := hbefore c hc
      exact ⟨hextends.isSome_port? hsource, hextends.isSome_port? htarget⟩

end Netlister.Schematic
