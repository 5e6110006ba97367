import Netlister.Proofs.Document.Description
import Netlister.Proofs.Netlist.Stepwise

/-! # What cannot go wrong with a document

  Some errors of building a schematic cannot come from a document, because its maps have no
  name twice and its types are declared by the document itself. This module follows every
  error back to the steps that can fail with it.

  - `failsOnly_validate`: what validation can fail with, once the types of attributes are
    declared.
  - `failsOnly_declareTypes`, `error_of_toSchematic`: what a document can fail with.
  - `toSchematic_safe`: the errors that are left, and what holds of a schematic that comes from
    a document.
-/

namespace Netlister

open Outcome

/-! ### Validation -/

section Validation

variable {P : Schematic.Error → Prop} {schema : Schema} {types : UserTypes}
  (htypes : types.Grounded)
  (hschema : ∀ name type, schema.find? name = some type → types.requireDeclared type = .ok ())
  (hinvalid : ∀ name, P (.invalidAttribute name))
  (hmismatch : ∀ name expected found, P (.typeMismatch name expected found))

include htypes hschema hinvalid hmismatch

/-- Validation fails for an attribute that is not declared, has a value of another type, is
    missing, or, if a name is given twice, for that. It never fails for a type. -/
theorem failsOnly_validate (hmissing : ∀ name, P (.undeclaredAttribute name))
    {given : List (String × Value)}
    (htwice : (given.map (·.1)).Nodup ∨ ∀ name, P (.multipleAssignment .attr name)) :
    FailsOnly P (Attributes.validate schema types given) := by
  intro e he
  cases (Attributes.validate_eq_error htypes hschema).1 he with
  | missing => exact hmissing _
  | value hsplit _ hfault =>
    cases hfault with
    | unknown => exact hinvalid _
    | mistyped => exact hmismatch _ _ _
    | repeated _ _ hbefore =>
      rcases htwice with hnames | htwice
      · rw [hsplit, List.map_append, List.map_cons] at hnames
        exact absurd rfl ((List.nodup_append.1 hnames).2.2 _ hbefore _ List.mem_cons_self)
      · exact htwice _

end Validation

theorem failsOnly_require {α : Type} {P : Schematic.Error → Prop} {name : String}
    {scope : Schematic.Scope} (h : P (.undeclared name scope)) (found : Option α) :
    FailsOnly P (Schematic.require name scope found) := by
  cases found with
  | none => exact failsOnly_error h
  | some a => exact failsOnly_ok a

/-- A type that mentions an undeclared name is refused for that name. -/
theorem failsOnly_requireDeclared {P : Schematic.Error → Prop}
    (h : ∀ name, P (.undeclared name .userTypes)) (u : UserTypes) (type : AttributeType) :
    FailsOnly P (u.requireDeclared type) := by
  induction type with
  | bool => exact failsOnly_ok ()
  | int => exact failsOnly_ok ()
  | string => exact failsOnly_ok ()
  | array element ih => exact ih
  | user name =>
    unfold UserTypes.requireDeclared
    split
    · exact failsOnly_ok ()
    · exact failsOnly_error (h name)

theorem failsOnly_requireSchema {P : Schematic.Error → Prop}
    (h : ∀ name, P (.undeclared name .userTypes)) (s : Schematic) (schema : Schema) :
    FailsOnly P (s.requireSchema schema) :=
  failsOnly_forM fun type _ => failsOnly_requireDeclared h s.userTypes type

namespace Document

/-! ### Instances -/

/-- Neither a name that is taken nor an attribute type that is not declared. -/
def Error.Tame : Error → Prop
  | .schematic (.multipleAssignment _ _) => False
  | .schematic (.multipleDefinition _ _) => False
  | .schematic (.undeclared _ .userTypes) => False
  | _ => True

/-- The schema is that of a registered type. -/
inductive HasSchema (s : Schematic) : Schema → Prop where
  | port {type : PortType} : s.portTypes.Has type → HasSchema s type.attributes
  | node {type : Netlister.NodeType} : s.nodeTypes.Has type → HasSchema s type.attributes
  | connection {type : ConnectionType} : s.connectionTypes.Has type → HasSchema s type.attributes
  | constraint {type : ConstraintType} : s.constraintTypes.Has type → HasSchema s type.attributes

theorem requireSchema_eq_ok {s : Schematic} {schema : Schema} :
    s.requireSchema schema = .ok () ↔
      ∀ name type, schema.find? name = some type → s.userTypes.requireDeclared type = .ok () := by
  unfold Schematic.requireSchema
  rw [forM_eq_ok]
  simp only [NameMap.values, List.mem_map, Prod.exists, NameMap.find?_eq_some_iff]
  constructor
  · intro h name type hmem
    exact h type ⟨name, type, hmem, rfl⟩
  · rintro h _ ⟨name, type, hmem, rfl⟩
    exact h name type hmem

section Instances

variable {d : Document} {s : Schematic} (h : DescribesTypes d s)

include h

/-- The attribute types that registered types mention are declared. -/
theorem DescribesTypes.declared {schema : Schema} (hschema : HasSchema s schema) :
    ∀ name type, schema.find? name = some type → s.userTypes.requireDeclared type = .ok () := by
  apply requireSchema_eq_ok.1
  cases hschema with
  | port htype =>
    obtain ⟨name, hname⟩ := htype
    obtain ⟨t, -, hdeclares⟩ := h.portTypes.exists_entry hname
    exact hdeclares.2
  | node htype =>
    obtain ⟨name, hname⟩ := htype
    obtain ⟨t, -, hdeclares, -⟩ := h.nodeTypes.exists_entry hname
    exact hdeclares.2
  | connection htype =>
    obtain ⟨name, hname⟩ := htype
    obtain ⟨t, -, hdeclares⟩ := h.connectionTypes.exists_entry hname
    exact hdeclares.2
  | constraint htype =>
    obtain ⟨name, hname⟩ := htype
    obtain ⟨t, -, hdeclares⟩ := h.constraintTypes.exists_entry hname
    exact hdeclares.2

/-- Values that were read from a document have distinct names. -/
theorem DescribesTypes.failsOnly_validate {schema : Schema} (hschema : HasSchema s schema)
    {given : List (String × Value)} (hgiven : (given.map (·.1)).Nodup) :
    FailsOnly (fun e => (Error.schematic e).Tame)
      (Attributes.validate schema s.userTypes given) :=
  Netlister.failsOnly_validate h.grounded (h.declared hschema) (fun _ => trivial)
    (fun _ _ _ => trivial) (fun _ => trivial) (.inl hgiven)

omit h

theorem failsOnly_attributeValues (values : Values) :
    FailsOnly Error.Tame (attributeValues values) := by
  refine failsOnly_mapM fun e _ => ?_
  refine FailsOnly.bind (FailsOnly.mapError fun _ _ => trivial) fun v _ => failsOnly_ok _

theorem failsOnly_endpoint (connection text : String) :
    FailsOnly Error.Tame (endpoint s connection text) := by
  unfold endpoint
  split
  · refine FailsOnly.mapError ?_
    unfold Schematic.portRef Schematic.node Schematic.portOf
    exact (failsOnly_require (by trivial) _).bind fun node _ => failsOnly_require (by trivial) _
  · exact failsOnly_error trivial

include h

theorem DescribesTypes.failsOnly_nodeOf (e : String × Node) :
    FailsOnly Error.Tame (nodeOf s e) := by
  unfold nodeOf
  refine FailsOnly.bind (.mapError (failsOnly_require (by trivial) _)) fun type htype => ?_
  rw [lift_eq, mapError_eq_ok] at htype
  have hregistered : s.nodeTypes.Has type := ⟨e.2.type, Schematic.require_eq_ok.1 htype⟩
  refine (failsOnly_attributeValues _).bind fun given hgiven => ?_
  refine FailsOnly.bind (failsOnly_mapM fun l _ => (failsOnly_attributeValues l.2).bind
    fun values _ => failsOnly_ok _) fun portGiven hportGiven => ?_
  refine FailsOnly.bind (.mapError (h.failsOnly_validate (.node hregistered)
    (nodup_of_attributeValues hgiven))) fun attributes _ => ?_
  refine FailsOnly.bind (.mapError (failsOnly_forM fun g _ => ?_)) fun _ _ => ?_
  · unfold Schematic.refuse
    split
    · exact failsOnly_error (by trivial)
    · exact failsOnly_ok ()
  refine FailsOnly.bind (.mapError (failsOnly_mapM fun p hp => ?_)) fun ports _ => failsOnly_ok _
  have hport : s.portTypes.Has p.2 :=
    h.has_port hregistered ⟨p.1, NameMap.find?_eq_some_iff.2 hp⟩
  -- What is given for a port was read from the document, or nothing is given.
  have hnames : (((portGiven.lookup p.1).getD []).map (·.1)).Nodup := by
    have hlookup := rel_lookup_of_forall₂ (R := fun values g => attributeValues values = .ok g)
      (mapM_entries_eq_ok.1 hportGiven) p.1
    generalize e.2.portAttributes.entries.lookup p.1 = listed at hlookup
    generalize portGiven.lookup p.1 = found at hlookup ⊢
    cases hlookup with
    | none => exact List.nodup_nil
    | some hread => exact nodup_of_attributeValues hread
  exact (h.failsOnly_validate (.port hport) hnames).bind fun _ _ => failsOnly_ok _

theorem DescribesTypes.failsOnly_connectionOf (e : String × Connection) :
    FailsOnly Error.Tame (connectionOf s e) := by
  unfold connectionOf
  refine FailsOnly.bind (.mapError (failsOnly_require (by trivial) _)) fun type htype => ?_
  rw [lift_eq, mapError_eq_ok] at htype
  have hregistered : s.connectionTypes.Has type := ⟨e.2.type, Schematic.require_eq_ok.1 htype⟩
  refine (failsOnly_endpoint _ _).bind fun source _ => ?_
  refine (failsOnly_endpoint _ _).bind fun target _ => ?_
  refine (failsOnly_attributeValues _).bind fun given hgiven => ?_
  exact FailsOnly.bind (.mapError (h.failsOnly_validate (.connection hregistered)
    (nodup_of_attributeValues hgiven))) fun attributes _ => failsOnly_ok _

theorem DescribesTypes.failsOnly_constraintOf (e : String × Constraint) :
    FailsOnly Error.Tame (constraintOf s e) := by
  unfold constraintOf
  refine FailsOnly.bind (.mapError (failsOnly_require (by trivial) _)) fun type htype => ?_
  rw [lift_eq, mapError_eq_ok] at htype
  have hregistered : s.constraintTypes.Has type := ⟨e.2.type, Schematic.require_eq_ok.1 htype⟩
  refine (failsOnly_attributeValues _).bind fun given hgiven => ?_
  exact FailsOnly.bind (.mapError (h.failsOnly_validate (.constraint hregistered)
    (nodup_of_attributeValues hgiven))) fun attributes _ => failsOnly_ok _

end Instances

/-! ### Types -/

/-- What declaring the types of a document can fail with: a built-in name that is to be
    declared, an attribute type without declaration, or what instances can fail with. -/
inductive TypeFault (d : Document) : Error → Prop where
  | tame {e : Error} : e.Tame → TypeFault d e
  | undeclared (name : String) : TypeFault d (.schematic (.undeclared name .userTypes))
  | builtin {name : String} : name ∈ AttributeType.builtinNames → (d.userTypes.find? name).isSome →
      TypeFault d (.schematic (.multipleDefinition name .userTypes))

section Types

variable {d : Document}

theorem failsOnly_userTypes (d : Document) :
    FailsOnly (TypeFault d)
      (d.userTypes.entries.foldlM addUserType ({ name := d.name } : Schematic)) := by
  -- The names still to come are distinct, and none of them is declared yet.
  refine failsOnly_foldlM (I := fun s es => (es.map (·.1)).Nodup ∧
    ∀ e ∈ es, s.userTypes.find? e.1 = none ∧ (d.userTypes.find? e.1).isSome) ?_
    ⟨d.userTypes.distinct, ?_⟩
  · rintro s e es ⟨hnames, hnew⟩
    obtain ⟨hfirst, hrest⟩ := List.nodup_cons.1 hnames
    obtain ⟨⟨hnewFirst, hlisted⟩, hnewRest⟩ := List.forall_mem_cons.1 hnew
    constructor
    · refine FailsOnly.mapError ?_
      rw [Schematic.addUserType_eq]
      refine FailsOnly.bind ?_ fun _ _ => (failsOnly_requireDeclared (fun name => .undeclared name)
        _ _).bind fun _ _ => failsOnly_ok _
      unfold Schematic.refuse
      split
      · rename_i htaken
        have hbuiltin : e.1 ∈ AttributeType.builtinNames := by
          simpa [UserTypes.contains, hnewFirst] using htaken
        exact failsOnly_error (.builtin hbuiltin hlisted)
      · exact failsOnly_ok ()
    · intro s' hs'
      have hextends : (Schematic.Operation.addUserType e.1 e.2).Extends s s' := by
        rw [← Schematic.Operation.apply_eq_ok]
        exact mapError_eq_ok.1 hs'
      obtain ⟨-, rfl⟩ := hextends
      refine ⟨hrest, fun e' he' => ⟨?_, (hnewRest e' he').2⟩⟩
      have hne : e'.1 ≠ e.1 := by
        intro heq
        exact hfirst (List.mem_map.2 ⟨e', he', heq⟩)
      show (s.userTypes.declare e.1 e.2).find? e'.1 = none
      rw [UserTypes.find?_declare, if_neg hne]
      exact (hnewRest e' he').1
  · intro e he
    exact ⟨rfl, by rw [OrderedMap.find?_eq_some_iff.2 he]; rfl⟩

theorem failsOnly_makePlainType {τ : Type} (declare : Nat → Schema → τ) (s : Schematic)
    (t : PlainType) : FailsOnly (TypeFault d) (makePlainType declare s t) :=
  FailsOnly.bind (.mapError (failsOnly_requireSchema (fun name => .undeclared name) s _))
    fun _ _ => failsOnly_ok _

theorem failsOnly_makeNodeType (s : Schematic) (t : NodeType) :
    FailsOnly (TypeFault d) (makeNodeType s t) := by
  refine FailsOnly.bind (failsOnly_mapM fun e _ => ?_) fun ports _ => ?_
  · exact FailsOnly.bind (.mapError (failsOnly_require (.tame (by trivial)) _))
      fun _ _ => failsOnly_ok _
  · exact FailsOnly.bind (.mapError (failsOnly_requireSchema (fun name => .undeclared name) s _))
      fun _ _ => failsOnly_ok _

/-- A section of types fails only as the looks at its entries do. -/
theorem failsOnly_section {β τ : Type} {names : Schematic.TypeNames Schematic τ}
    {step : Schematic × Context → String × β → Except Error (Schematic × Context)}
    {make : Schematic → β → Except Error (Nat → τ)} (h : Registering names step make)
    (hmake : ∀ s b, FailsOnly (TypeFault d) (make s b)) {m : OrderedMap β} {s : Schematic}
    {c : Context} (hempty : names.get s = ∅) :
    FailsOnly (TypeFault d) (m.entries.foldlM step (s, c)) := by
  intro e he
  obtain ⟨entry, -, hentry⟩ := error_of_section h hempty he
  exact hmake s entry.2 e hentry

theorem failsOnly_declareTypes (d : Document) (c : Context) :
    FailsOnly (TypeFault d) (d.declareTypes c) := by
  rw [declareTypes_eq]
  refine (failsOnly_userTypes d).bind fun s₀ hs₀ => ?_
  obtain ⟨-, rfl⟩ := userTypes_eq_ok.1 hs₀
  refine (failsOnly_section registering_portType (failsOnly_makePlainType _) rfl).bind ?_
  rintro ⟨s₁, c₁⟩ hs₁
  obtain ⟨ports, rfl, -, -⟩ := section_eq_ok registering_portType PortType.serial
    (serial_makePlainType fun _ _ => rfl) rfl hs₁
  refine (failsOnly_section registering_nodeType failsOnly_makeNodeType rfl).bind ?_
  rintro ⟨s₂, c₂⟩ hs₂
  obtain ⟨nodes, rfl, -, -⟩ := section_eq_ok registering_nodeType Netlister.NodeType.serial
    serial_makeNodeType rfl hs₂
  refine (failsOnly_section registering_connectionType (failsOnly_makePlainType _) rfl).bind ?_
  rintro ⟨s₃, c₃⟩ hs₃
  obtain ⟨connections, rfl, -, -⟩ := section_eq_ok registering_connectionType
    ConnectionType.serial (serial_makePlainType fun _ _ => rfl) rfl hs₃
  exact failsOnly_section registering_constraintType (failsOnly_makePlainType _) rfl

/-- After its types, a document fails only for its instances. -/
theorem error_of_toSchematic {c : Context} {e : Error} (h : d.toSchematic c = .error e) :
    d.declareTypes c = .error e ∨ e.Tame := by
  rw [toSchematic_eq] at h
  rcases bind_eq_error.1 h with h | ⟨⟨s, c'⟩, htypes, h⟩
  · exact .inl h
  · have hdescribes (nodes : List Netlister.Node) : DescribesTypes d { s with nodes } :=
      (typesDeclared_of_declareTypes htypes).1.describes nodes s.connections s.constraints
    have hs : DescribesTypes d s := hdescribes s.nodes
    refine .inr (FailsOnly.bind ?_ ?_ e h)
    · exact failsOnly_mapM fun x _ => hs.failsOnly_nodeOf x
    · intro nodes _
      refine FailsOnly.bind (failsOnly_mapM fun x _ => (hdescribes nodes).failsOnly_connectionOf x)
        fun connections _ => ?_
      exact FailsOnly.bind (failsOnly_mapM fun x _ => hs.failsOnly_constraintOf x)
        fun constraints _ => failsOnly_ok _

end Types

/-! ### Schematics that come from documents -/

/-- The serial numbers of all registered types. -/
def serials (s : Schematic) : List Nat :=
  s.portTypes.values.map (·.serial) ++ s.nodeTypes.values.map (·.serial) ++
    s.connectionTypes.values.map (·.serial) ++ s.constraintTypes.values.map (·.serial)

/-- Each of the declarations that a document makes is registered, and only once. -/
theorem perm_serials {d : Document} {c c' : Context} {s : Schematic}
    (h : d.declareTypes c = .ok (s, c')) :
    (serials s).Perm (List.range' c.issued (c'.issued - c.issued)) := by
  obtain ⟨hdeclared, hissued⟩ := typesDeclared_of_declareTypes h
  have hcount : c'.issued - c.issued = d.portTypes.size + d.nodeTypes.size +
      d.connectionTypes.size + d.constraintTypes.size := by omega
  rw [hcount, ← List.range'_append_1, ← List.range'_append_1, ← List.range'_append_1]
  simp only [← Nat.add_assoc]
  exact ((hdeclared.portTypes.serials.append hdeclared.nodeTypes.serials).append
    hdeclared.connectionTypes.serials).append hdeclared.constraintTypes.serials

/-- What can be relied on in a schematic that comes from a document. -/
structure Dependable (d : Document) (c c' : Context) (s : Schematic) : Prop where
  /-- Every declaration that was made is registered under exactly one name. -/
  serials : (serials s).Perm (List.range' c.issued (c'.issued - c.issued))
  /-- The types in use are registered. -/
  settled : s.Settled
  /-- A type of ports leads to its name and back. -/
  portTypes : ∀ type name,
    s.portTypeName? type = some name ↔ s.portTypes.find? name = some type
  /-- A type of nodes leads to its name and back. -/
  nodeTypes : ∀ type name,
    s.nodeTypeName? type = some name ↔ s.nodeTypes.find? name = some type
  /-- A type of connections leads to its name and back. -/
  connectionTypes : ∀ type name,
    s.connectionTypeName? type = some name ↔ s.connectionTypes.find? name = some type
  /-- A type of constraints leads to its name and back. -/
  constraintTypes : ∀ type name,
    s.constraintTypes.nameOf? type = some name ↔ s.constraintTypes.find? name = some type
  /-- The netlist is built without internal failure. -/
  stepwise : Netlist.stepwise s = (Netlist.build s).result.mapError .error ∧
    Netlist.stepwise s ≠ .error .internal
  /-- No node is of an unknown type. -/
  nodes : ∀ node, (Netlist.build s).result ≠ .error (.unknownNodeType node)
  /-- No connection is of an unknown type. -/
  connections : ∀ connection, (Netlist.build s).result ≠ .error (.unknownConnectionType connection)
  /-- An end that is not digital is reported with the name that the document gives to its
      type. -/
  shown : ∀ connection side actual,
    (Netlist.build s).result = .error (.endpointTypeMismatch connection side actual) →
      (d.portTypes.find? actual).isSome ∧ ∃ x ∈ s.connections, x.name = connection ∧
        ∃ port, s.port? (side.port x) = some port ∧ s.portTypes.find? actual = some port.type

theorem Describes.shownType {d : Document} {s : Schematic} (h : Describes d s)
    (hs : s.Consistent) {x : Netlister.Connection} (hx : x ∈ s.connections) (side : Netlist.Side) :
    ∃ port, s.port? (side.port x) = some port ∧
      s.portTypes.find? (Netlist.shownType s (side.port x)) = some port.type := by
  obtain ⟨e, -, hdescribes⟩ := exists_of_forall₂ h.connections hx
  have hend : (s.port? (side.port x)).isSome := by
    cases side with
    | source => exact hdescribes.source.2.2
    | target => exact hdescribes.target.2.2
  obtain ⟨port, hport⟩ := Option.isSome_iff_exists.1 hend
  obtain ⟨node, hnode, hfound⟩ := Schematic.port?_eq_some_iff.1 hport
  have hmem : node ∈ s.nodes := ((Schematic.node?_eq_some_iff hs).1 hnode).1
  have hregistered : s.portTypes.Has port.type :=
    h.settled.has_port hs hmem (Schematic.port?_eq_some hfound).1
  obtain ⟨name, hname⟩ := hregistered
  have hshown : Netlist.shownType s (side.port x) = name := by
    unfold Netlist.shownType Schematic.portTypeName?
    rw [hport, Option.map_some, Option.bind_some,
      (NameMap.nameOf?_eq_some_iff h.types.portOnce).2 hname, Option.getD_some]
  exact ⟨port, hport, hshown ▸ hname⟩

theorem dependable_of_toSchematic {d : Document} {c c' : Context} {s : Schematic}
    (h : d.toSchematic c = .ok (s, c')) : Dependable d c c' s := by
  have hdescribes : Describes d s := describes_of_toSchematic h
  have hs : s.Consistent := (reachable_of_toSchematic h).consistent
  have hsettled : s.Settled := hdescribes.settled
  have hstepwise := Netlist.stepwise_eq hs.connectionNames
  have hserials := perm_serials (toSchematic_eq_ok.1 h).1
  exact {
    serials := hserials
    settled := hsettled
    portTypes := fun _ _ => NameMap.nameOf?_eq_some_iff hsettled.portOnce
    nodeTypes := fun _ _ => NameMap.nameOf?_eq_some_iff hsettled.nodeOnce
    connectionTypes := fun _ _ => NameMap.nameOf?_eq_some_iff hsettled.connectionOnce
    constraintTypes := fun _ _ => NameMap.nameOf?_eq_some_iff hsettled.constraintOnce
    stepwise := by
      refine ⟨hstepwise, fun hinternal => ?_⟩
      obtain ⟨e, -, he⟩ := mapError_eq_error.1 (hstepwise.symm.trans hinternal)
      cases he
    nodes := by
      intro name herror
      cases Netlist.faulty_of_build herror with
      | @node node hnode hnone =>
        have hsome := NameMap.isSome_nameOf?_iff.2 (hsettled.nodes node hnode)
        rw [show s.nodeTypes.nameOf? node.type = none from hnone] at hsome
        cases hsome
    connections := by
      intro name herror
      cases Netlist.faulty_of_build herror with
      | @connection x hx hnone =>
        have hsome := NameMap.isSome_nameOf?_iff.2 (hsettled.connections x hx)
        rw [show s.connectionTypes.nameOf? x.type = none from hnone] at hsome
        cases hsome
    shown := by
      intro name side actual herror
      cases Netlist.faulty_of_build herror with
      | @endpoint x _ hx =>
        obtain ⟨port, hport, hname⟩ := hdescribes.shownType hs hx side
        obtain ⟨t, ht, -⟩ := hdescribes.types.portTypes.exists_entry hname
        exact ⟨by rw [ht]; rfl, x, hx, rfl, port, hport, hname⟩ }

/-- **What cannot go wrong with a document.** A document never gives a name twice: it is refused
    for a name that is taken only if it declares an attribute type under the name of a built-in
    one. Once its types are declared, no attribute is judged by an undeclared type. And all that
    the schematic is used for later can rely on its types: each is registered once, the netlist
    is built without internal failure and without a type that is unknown, and an end that is not
    digital is reported with the name of its type. -/
theorem toSchematic_safe (d : Document) (c : Context) :
    (∀ kind name, d.toSchematic c ≠ .error (.schematic (.multipleAssignment kind name))) ∧
    (∀ name scope, d.toSchematic c = .error (.schematic (.multipleDefinition name scope)) →
      scope = .userTypes ∧ name ∈ AttributeType.builtinNames ∧ (d.userTypes.find? name).isSome) ∧
    (∀ s c', d.declareTypes c = .ok (s, c') →
      (∀ name, d.toSchematic c ≠ .error (.schematic (.undeclared name .userTypes))) ∧
      ∀ schema, HasSchema s schema → ∀ given name,
        Attributes.validate schema s.userTypes given ≠ .error (.undeclared name .userTypes)) ∧
    ∀ s c', d.toSchematic c = .ok (s, c') → Dependable d c c' s := by
  have hfault {e : Error} (h : d.toSchematic c = .error e) : TypeFault d e := by
    rcases error_of_toSchematic h with h | h
    · exact failsOnly_declareTypes d c e h
    · exact .tame h
  refine ⟨?_, ?_, ?_, fun s c' h => dependable_of_toSchematic h⟩
  · intro kind name h
    cases hfault h with
    | tame htame => exact htame
  · intro name scope h
    cases hfault h with
    | tame htame => exact htame.elim
    | builtin hbuiltin hlisted => exact ⟨rfl, hbuiltin, hlisted⟩
  · intro s c' htypes
    have hdescribes : DescribesTypes d s :=
      (typesDeclared_of_declareTypes htypes).1.describes s.nodes s.connections s.constraints
    refine ⟨fun name h => ?_, fun schema hschema given name h => ?_⟩
    · rcases error_of_toSchematic h with h | h
      · rw [htypes] at h
        cases h
      · exact h
    · have hvalidate : FailsOnly (fun e => ∀ name, e ≠ .undeclared name .userTypes)
          (Attributes.validate schema s.userTypes given) :=
        Netlister.failsOnly_validate hdescribes.grounded (hdescribes.declared hschema) (by simp)
          (by simp) (by simp) (.inr (by simp))
      exact hvalidate _ h name rfl

/-- A document with a type of ports that is called as no type is. -/
def misnamed : Document where
  name := "misnamed"
  portTypes := .ofList [("digitalIn", {}), ("digitalOut", {}), ("<unregistered>", {})]
  nodeTypes := .ofList [("inputPin", { ports := .ofList [("out", "digitalOut")] }),
    ("outputPin", { ports := .ofList [("in", "digitalIn")] }),
    ("relay", { ports := .ofList [("coil", "<unregistered>")] })]
  connectionTypes := .ofList [("digitalWire", {})]
  nodes := .ofList [("a", { type := "inputPin" }), ("r", { type := "relay" })]
  connections := .ofList [("w", { type := "digitalWire", source := "a:out", target := "r:coil" })]

/-- The word for a type without name can be the name of a type, and is shown then. -/
theorem misnamed_shown :
    ∃ s c', misnamed.toSchematic {} = .ok (s, c') ∧ (s.portTypes.find? "<unregistered>").isSome ∧
      (Netlist.build s).result = .error (.endpointTypeMismatch "w" .target "<unregistered>") := by
  have hloaded : ∃ r, misnamed.toSchematic {} = .ok r := exists_ok (by decide +kernel)
  have hname : ((misnamed.toSchematic {}).map fun r =>
      (r.1.portTypes.find? "<unregistered>").isSome).toOption = some true := by decide +kernel
  have hshown : ((misnamed.toSchematic {}).map fun r =>
      match (Netlist.build r.1).result with
      | .error e => some e
      | .ok _ => none).toOption =
        some (some (.endpointTypeMismatch "w" .target "<unregistered>")) := by decide +kernel
  obtain ⟨⟨s, c'⟩, hs⟩ := hloaded
  rw [hs] at hname hshown
  refine ⟨s, c', hs, Option.some.inj hname, ?_⟩
  have hresult := Option.some.inj hshown
  dsimp only at hresult
  split at hresult
  · next e he => rw [he, Option.some.inj hresult]
  · cases hresult

end Document

end Netlister
