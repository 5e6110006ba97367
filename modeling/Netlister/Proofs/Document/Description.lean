import Netlister.Proofs.Document.Sections
import Netlister.Proofs.Schematic.Matching

/-! # What a document describes

  `Describes d s` says what it means for a schematic to be as a document says, without regard
  to how it came about: types are compared by name, and instances one by one. A document has
  to do with a schematic in no other way.

  - `describes_of_toSchematic`: what a document gives is as it says.
  - `exists_toSchematic`: a document that describes some schematic gives one, in any context,
    and that one matches the other.
-/

namespace Netlister

/-! ### Moving values from one map to another -/

namespace NameMap

variable {α : Type} [DecidableEq α] {m m' : NameMap α} {v v' : α} {name : String}

/-- The value that has the name of a given one in another map. -/
def transfer (m m' : NameMap α) (v : α) : α :=
  ((m.nameOf? v).bind m'.find?).getD v

theorem transfer_eq (hm : m.Once) (hv : m.find? name = some v) (hv' : m'.find? name = some v') :
    transfer m m' v = v' := by
  unfold transfer
  rw [(nameOf?_eq_some_iff hm).2 hv, Option.bind_some, hv', Option.getD_some]

variable (hsame : ∀ name, (m.find? name).isSome = (m'.find? name).isSome)

include hsame

theorem exists_transfer (hm : m.Once) (hv : m.find? name = some v) :
    m'.find? name = some (transfer m m' v) := by
  have hsome : (m'.find? name).isSome := by
    rw [← hsame, hv]
    rfl
  obtain ⟨v', hv'⟩ := Option.isSome_iff_exists.1 hsome
  rw [hv', transfer_eq hm hv hv']

/-- Maps with the same names have each other's values by name. -/
theorem eq_map_transfer (hm : m.Once) : m' = m.map (transfer m m') := by
  apply eq_of_find?_eq
  intro name
  rw [find?_map]
  cases hv : m.find? name with
  | some v => exact exists_transfer hsame hm hv
  | none =>
    have hnone : (m'.find? name).isSome = false := by
      rw [← hsame, hv]
      rfl
    simpa using hnone

theorem injOn_transfer (hm : m.Once) (hm' : m'.Once) :
    Set.InjOn (transfer m m') {v | m.Has v} := by
  rintro v ⟨a, ha⟩ w ⟨b, hb⟩ heq
  have hab : a = b := by
    refine hm' (exists_transfer hsame hm ha) ?_
    rw [heq]
    exact exists_transfer hsame hm hb
  subst hab
  exact Option.some.inj (ha.symm.trans hb)

end NameMap

namespace Document

/-! ### Types -/

/-- The attributes are those listed, and their types are declared. -/
def Declares (s : Schematic) (listed : Attributes) (schema : Schema) : Prop :=
  listed.Lists Eq schema ∧ s.requireSchema schema = .ok ()

/-- The types of a schematic are those that a document lists, each under one name. -/
structure DescribesTypes (d : Document) (s : Schematic) : Prop where
  name : s.name = d.name
  userTypes : ∀ name, s.userTypes.find? name = d.userTypes.find? name
  grounded : s.userTypes.Grounded
  portTypes : d.portTypes.Lists (fun t type => Declares s t.attributes type.attributes) s.portTypes
  nodeTypes : d.nodeTypes.Lists (fun t type => Declares s t.attributes type.attributes ∧
    t.ports.Lists (fun name port => s.portTypes.find? name = some port) type.ports) s.nodeTypes
  connectionTypes : d.connectionTypes.Lists
    (fun t type => Declares s t.attributes type.attributes) s.connectionTypes
  constraintTypes : d.constraintTypes.Lists
    (fun t type => Declares s t.attributes type.attributes) s.constraintTypes
  portOnce : s.portTypes.Once
  nodeOnce : s.nodeTypes.Once
  connectionOnce : s.connectionTypes.Once
  constraintOnce : s.constraintTypes.Once

theorem Declares.eq_schemaOf {s : Schematic} {listed : Attributes} {schema : Schema}
    (h : Declares s listed schema) : schema = schemaOf listed :=
  h.1.unique (lists_schemaOf listed) fun _ _ _ hb hc => hb.symm.trans hc

/-- Whether types are declared depends only on the names that are. -/
theorem requireSchema_congr {s t : Schematic}
    (h : ∀ name, t.userTypes.find? name = s.userTypes.find? name) {schema : Schema} :
    t.requireSchema schema = .ok () ↔ s.requireSchema schema = .ok () := by
  unfold Schematic.requireSchema
  simp only [Outcome.forM_eq_ok, UserTypes.requireDeclared_congr h]

theorem makePlainType_eq_ok {τ : Type} {declare : Nat → Schema → τ} {s : Schematic} {t : PlainType}
    {type : Nat → τ} :
    makePlainType declare s t = .ok type ↔ s.requireSchema (schemaOf t.attributes) = .ok () ∧
      type = fun serial => declare serial (schemaOf t.attributes) := by
  unfold makePlainType
  rw [Outcome.check_bind_eq_ok, lift_eq, Outcome.mapError_eq_ok]
  exact and_congr_right fun _ => ⟨fun h => by cases h; rfl, fun h => by rw [h]; rfl⟩

theorem makeNodeType_eq_ok {s : Schematic} {t : NodeType} {type : Nat → Netlister.NodeType} :
    makeNodeType s t = .ok type ↔ s.requireSchema (schemaOf t.attributes) = .ok () ∧
      ∃ ports, t.ports.Lists (fun name port => s.portTypes.find? name = some port) ports ∧
        type = fun serial => ⟨serial, schemaOf t.attributes, ports⟩ := by
  have hunique (name : String) (port port' : PortType) (h : s.portTypes.find? name = some port)
      (h' : s.portTypes.find? name = some port') : port = port' :=
    Option.some.inj (h.symm.trans h')
  unfold makeNodeType
  rw [Outcome.bind_eq_ok]
  constructor
  · rintro ⟨ports, hports, h⟩
    rw [Outcome.check_bind_eq_ok, lift_eq, Outcome.mapError_eq_ok] at h
    obtain ⟨hschema, h⟩ := h
    cases h
    have hlists := (OrderedMap.lists_iff_forall₂ hunique).2 ⟨ports, forall₂_ports.1 hports, rfl⟩
    exact ⟨hschema, _, hlists, rfl⟩
  · rintro ⟨hschema, ports, hlists, rfl⟩
    obtain ⟨entries, hentries, rfl⟩ := (OrderedMap.lists_iff_forall₂ hunique).1 hlists
    refine ⟨entries, forall₂_ports.2 hentries, ?_⟩
    rw [hschema]
    rfl

/-- Once the types of a document are declared they are as it says, whatever instances follow. -/
theorem TypesDeclared.describes {d : Document} {c : Context} {s : Schematic}
    (h : d.TypesDeclared c s) (nodes : List Netlister.Node)
    (connections : List Netlister.Connection) (constraints : List Netlister.Constraint) :
    DescribesTypes d { s with nodes, connections, constraints } := by
  have hplain {τ : Type} {declare : Nat → Schema → τ} {serial : τ → Nat} {attributes : τ → Schema}
      {m : OrderedMap PlainType} {first : Nat} {n : NameMap τ}
      (hattributes : ∀ k schema, attributes (declare k schema) = schema)
      (hfilled : Filled (makePlainType declare s) serial m first n) :
      m.Lists (fun t type => Declares s t.attributes (attributes type)) n := by
    refine hfilled.lists.imp ?_
    rintro t type ⟨made, hmade, k, rfl⟩
    obtain ⟨hschema, rfl⟩ := makePlainType_eq_ok.1 hmade
    rw [hattributes]
    exact ⟨lists_schemaOf t.attributes, hschema⟩
  exact {
    name := h.name
    userTypes := by
      intro name
      rw [h.userTypes]
      exact find?_userTypesOf d name
    grounded := by
      rw [h.userTypes]
      exact h.inOrder.2
    portTypes := hplain (fun _ _ => rfl) h.portTypes
    nodeTypes := by
      refine h.nodeTypes.lists.imp ?_
      rintro t type ⟨made, hmade, k, rfl⟩
      obtain ⟨hschema, ports, hports, rfl⟩ := makeNodeType_eq_ok.1 hmade
      exact ⟨⟨lists_schemaOf t.attributes, hschema⟩, hports⟩
    connectionTypes := hplain (fun _ _ => rfl) h.connectionTypes
    constraintTypes := hplain (fun _ _ => rfl) h.constraintTypes
    portOnce := h.portTypes.once
    nodeOnce := h.nodeTypes.once
    connectionOnce := h.connectionTypes.once
    constraintOnce := h.constraintTypes.once }

/-- The types of a document can be declared if some schematic has them. -/
theorem DescribesTypes.exists_declareTypes {d : Document} {s : Schematic} (h : DescribesTypes d s)
    (horder : d.UserTypesInOrder) (c : Context) : ∃ s' c', d.declareTypes c = .ok (s', c') := by
  have hschema {t : Schematic} (ht : t.userTypes = userTypesOf d) {listed : Attributes}
      {schema : Schema} (hdeclares : Declares s listed schema) :
      t.requireSchema (schemaOf listed) = .ok () := by
    rw [← hdeclares.eq_schemaOf]
    refine (requireSchema_congr fun name => ?_).2 hdeclares.2
    rw [ht, find?_userTypesOf, h.userTypes]
  have hplain {τ : Type} {declare : Nat → Schema → τ} {attributes : τ → Schema}
      {m : OrderedMap PlainType} {n : NameMap τ}
      (hm : m.Lists (fun t type => Declares s t.attributes (attributes type)) n) {t : Schematic}
      (ht : t.userTypes = userTypesOf d) :
      ∀ e ∈ m.entries, ∃ type, makePlainType declare t e.2 = .ok type := by
    intro e he
    obtain ⟨type, -, hdeclares⟩ := hm.exists_value (OrderedMap.find?_eq_some_iff.2 he)
    exact ⟨_, makePlainType_eq_ok.2 ⟨hschema ht hdeclares, rfl⟩⟩
  rw [declareTypes_eq, userTypes_eq_ok.2 ⟨horder, rfl⟩, Outcome.ok_bind]
  obtain ⟨s₁, c₁, hs₁⟩ := exists_section registering_portType
    (s := { name := d.name, userTypes := userTypesOf d }) rfl (hplain h.portTypes rfl) c
  rw [hs₁, Outcome.ok_bind]
  obtain ⟨ports, rfl, -, hports⟩ := section_eq_ok registering_portType PortType.serial
    (serial_makePlainType fun _ _ => rfl) rfl hs₁
  -- The ports of a type of nodes are found under the same names as in the given schematic.
  have hnodeTypes : ∀ e ∈ d.nodeTypes.entries, ∃ type,
      makeNodeType (Schematic.portTypeNames.set { name := d.name, userTypes := userTypesOf d } ports)
        e.2 = .ok type := by
    intro e he
    obtain ⟨type, -, hdeclares, htypePorts⟩ :=
      h.nodeTypes.exists_value (OrderedMap.find?_eq_some_iff.2 he)
    have hmoved : e.2.ports.Lists (fun name port => ports.find? name = some port)
        (type.ports.map (s.portTypes.transfer ports)) :=
      htypePorts.map fun name port hport =>
        NameMap.exists_transfer (h.portTypes.isSome_eq hports.lists) h.portOnce hport
    exact ⟨_, makeNodeType_eq_ok.2 ⟨hschema rfl hdeclares, _, hmoved, rfl⟩⟩
  obtain ⟨s₂, c₂, hs₂⟩ := exists_section registering_nodeType rfl hnodeTypes c₁
  rw [hs₂, Outcome.ok_bind]
  obtain ⟨nodes, rfl, -, -⟩ := section_eq_ok registering_nodeType Netlister.NodeType.serial
    serial_makeNodeType rfl hs₂
  obtain ⟨s₃, c₃, hs₃⟩ := exists_section registering_connectionType
    (s := Schematic.nodeTypeNames.set
      (Schematic.portTypeNames.set { name := d.name, userTypes := userTypesOf d } ports) nodes)
    rfl (hplain h.connectionTypes rfl) c₂
  rw [hs₃, Outcome.ok_bind]
  obtain ⟨connections, rfl, -, -⟩ := section_eq_ok registering_connectionType ConnectionType.serial
    (serial_makePlainType fun _ _ => rfl) rfl hs₃
  exact exists_section registering_constraintType rfl (hplain h.constraintTypes rfl) c₃

/-! ### Instances -/

/-- The attributes are those whose values are listed, and they meet the schema. -/
def Gives (s : Schematic) (values : Values) (schema : Schema) (attributes : Netlister.Attributes) :
    Prop :=
  values.Lists Reads attributes ∧ Attributes.Meets schema s.userTypes attributes

/-- The node is as its entry says. -/
structure DescribesNode (s : Schematic) (e : String × Node) (x : Netlister.Node) : Prop where
  name : x.name = e.1
  type : s.nodeTypes.find? e.2.type = some x.type
  attributes : Gives s e.2.attributes x.type.attributes x.attributes
  /-- Attributes are listed for ports of the node only. -/
  given : ∀ port values, e.2.portAttributes.find? port = some values →
    (x.type.ports.find? port).isSome
  ports : x.HasDeclaredPorts
  portAttributes : ∀ p ∈ x.ports,
    Gives s ((e.2.portAttributes.find? p.name).getD ∅) p.type.attributes p.attributes

/-- The connection is as its entry says. -/
structure DescribesConnection (s : Schematic) (e : String × Connection)
    (x : Netlister.Connection) : Prop where
  name : x.name = e.1
  type : s.connectionTypes.find? e.2.type = some x.type
  source : e.2.source = x.source.path ∧ x.source.Writable ∧ (s.port? x.source).isSome
  target : e.2.target = x.target.path ∧ x.target.Writable ∧ (s.port? x.target).isSome
  attributes : Gives s e.2.attributes x.type.attributes x.attributes

/-- The constraint is as its entry says. -/
structure DescribesConstraint (s : Schematic) (e : String × Constraint)
    (x : Netlister.Constraint) : Prop where
  name : x.name = e.1
  type : s.constraintTypes.find? e.2.type = some x.type
  attributes : Gives s e.2.attributes x.type.attributes x.attributes

/-- Values that were read pass validation iff they give the attributes. -/
theorem validate_eq_ok_iff_gives {s : Schematic} {values : Values} {schema : Schema}
    {given : List (String × Value)} {attributes : Netlister.Attributes}
    (h : attributeValues values = .ok given) :
    Attributes.validate schema s.userTypes given = .ok attributes ↔
      Gives s values schema attributes := by
  unfold Gives
  rw [← attributes_eq_ok, h]
  simp

/-- The attributes of the ports of a new node are those listed for each, or none. -/
theorem newPorts_eq_ok {s : Schematic} {type : Netlister.NodeType} {listed : OrderedMap Values}
    {given : List (String × List (String × Value))}
    (hgiven : List.Forall₂ (fun e g => e.1 = g.1 ∧ attributeValues e.2 = .ok g.2) listed.entries
      given) {ports : List Port} :
    Schematic.newPorts s.userTypes type given = .ok ports ↔
      ports.map (fun p => (p.name, p.type)) = type.ports.entries ∧
      ∀ p ∈ ports, Gives s ((listed.find? p.name).getD ∅) p.type.attributes p.attributes := by
  have hvalues (name : String) :
      attributeValues ((listed.find? name).getD ∅) = .ok ((given.lookup name).getD []) := by
    have hlookup := rel_lookup_of_forall₂ (R := fun values g => attributeValues values = .ok g)
      hgiven name
    unfold OrderedMap.find?
    generalize listed.entries.lookup name = values at hlookup ⊢
    generalize given.lookup name = found at hlookup ⊢
    cases hlookup with
    | none => rfl
    | some hread => exact hread
  have hport (e : String × PortType) (p : Port) :
      (do return ⟨e.1, e.2, ← Attributes.validate e.2.attributes s.userTypes
        ((given.lookup e.1).getD [])⟩ : Except Schematic.Error Port) = .ok p ↔
      e = (p.name, p.type) ∧
        Gives s ((listed.find? p.name).getD ∅) p.type.attributes p.attributes := by
    rw [Outcome.bind_eq_ok]
    constructor
    · rintro ⟨attributes, hattributes, h⟩
      cases h
      exact ⟨rfl, (validate_eq_ok_iff_gives (hvalues e.1)).1 hattributes⟩
    · rintro ⟨rfl, hgives⟩
      exact ⟨p.attributes, (validate_eq_ok_iff_gives (hvalues p.name)).2 hgives, rfl⟩
  unfold Schematic.newPorts
  rw [Outcome.mapM_eq_ok]
  constructor
  · intro h
    have hpairs := h.imp fun e p => (hport e p).1
    clear h
    generalize type.ports.entries = entries at hpairs
    induction hpairs with
    | nil => simp
    | cons hentry _ ih =>
      obtain ⟨rfl, hgives⟩ := hentry
      exact ⟨by rw [List.map_cons, ih.1], List.forall_mem_cons.2 ⟨hgives, ih.2⟩⟩
  · rintro ⟨hports, hgives⟩
    rw [← hports, List.forall₂_map_left_iff, List.forall₂_same]
    intro p hp
    exact (hport (p.name, p.type) p).2 ⟨rfl, hgives p hp⟩

theorem requirePorts_eq_ok {node : String} {type : Netlister.NodeType}
    {given : List (String × List (String × Value))} :
    Schematic.requirePorts node type given = .ok () ↔
      ∀ port ∈ given.map (·.1), (type.ports.find? port).isSome := by
  unfold Schematic.requirePorts
  rw [Outcome.forM_eq_ok]
  simp [Schematic.refuse_eq_ok, NameMap.contains]

theorem nodeOf_eq_ok {s : Schematic} {e : String × Node} {x : Netlister.Node} :
    nodeOf s e = .ok x ↔ DescribesNode s e x := by
  have hlisted {given : List (String × List (String × Value))}
      (h : List.Forall₂ (fun e g => e.1 = g.1 ∧ attributeValues e.2 = .ok g.2)
        e.2.portAttributes.entries given) {type : Netlister.NodeType} :
      Schematic.requirePorts e.1 type given = .ok () ↔
        ∀ port values, e.2.portAttributes.find? port = some values →
          (type.ports.find? port).isSome := by
    rw [requirePorts_eq_ok,
      map_fst_of_forall₂ (R := fun values g => attributeValues values = .ok g) h]
    simp only [OrderedMap.find?_eq_some_iff, List.mem_map, Prod.exists]
    constructor
    · intro hports port values hmem
      exact hports port ⟨port, values, hmem, rfl⟩
    · rintro hports _ ⟨port, values, hmem, rfl⟩
      exact hports port values hmem
  unfold nodeOf
  constructor
  · intro h
    obtain ⟨type, htype, h⟩ := Outcome.bind_eq_ok.1 h
    obtain ⟨given, hgiven, h⟩ := Outcome.bind_eq_ok.1 h
    obtain ⟨portGiven, hportGiven, h⟩ := Outcome.bind_eq_ok.1 h
    obtain ⟨attributes, hattributes, h⟩ := Outcome.bind_eq_ok.1 h
    obtain ⟨hrequire, h⟩ := Outcome.check_bind_eq_ok.1 h
    obtain ⟨ports, hports, h⟩ := Outcome.bind_eq_ok.1 h
    cases h
    rw [lift_eq, Outcome.mapError_eq_ok] at htype hattributes hrequire hports
    have hpairs := mapM_entries_eq_ok.1 hportGiven
    obtain ⟨hdeclared, hportAttributes⟩ := (newPorts_eq_ok hpairs).1 hports
    exact ⟨rfl, Schematic.require_eq_ok.1 htype, attributes_eq_ok.1 ⟨given, hgiven, hattributes⟩,
      (hlisted hpairs).1 hrequire, hdeclared, hportAttributes⟩
  · intro h
    obtain ⟨given, hgiven, hattributes⟩ := attributes_eq_ok.2 h.attributes
    have htype : s.nodeType e.2.type = .ok x.type := Schematic.require_eq_ok.2 h.type
    -- Every port for which attributes are listed is a port of the node, so that they can be read.
    have hread : ∀ l ∈ e.2.portAttributes.entries, ∃ g, (do
        return (l.1, ← attributeValues l.2) : Except Error (String × List (String × Value))) =
          .ok g := by
      intro l hl
      have hfind := OrderedMap.find?_eq_some_iff.2 hl
      obtain ⟨type, htype⟩ := Option.isSome_iff_exists.1 (h.given l.1 l.2 hfind)
      have hentry : (l.1, type) ∈ x.ports.map fun p => (p.name, p.type) := by
        rw [h.ports]
        exact NameMap.find?_eq_some_iff.1 htype
      obtain ⟨p, hp, hname⟩ := List.mem_map.1 hentry
      have hgives := h.portAttributes p hp
      rw [(Prod.mk.inj hname).1, hfind] at hgives
      obtain ⟨g, hg, -⟩ := attributes_eq_ok.2 hgives
      exact ⟨(l.1, g), by rw [show attributeValues l.2 = .ok g from hg]; rfl⟩
    obtain ⟨portGiven, hportGiven⟩ := Outcome.exists_mapM.2 hread
    have hpairs := mapM_entries_eq_ok.1 hportGiven
    have hports : Schematic.newPorts s.userTypes x.type portGiven = .ok x.ports :=
      (newPorts_eq_ok hpairs).2 ⟨h.ports, h.portAttributes⟩
    have hrequire := (hlisted hpairs).2 h.given
    simp only [htype, hgiven, hattributes, hportGiven, hrequire, hports, lift_ok, Outcome.ok_bind]
    rw [← h.name]
    rfl

theorem connectionOf_eq_ok {s : Schematic} {e : String × Connection} {x : Netlister.Connection} :
    connectionOf s e = .ok x ↔ DescribesConnection s e x := by
  unfold connectionOf
  constructor
  · intro h
    obtain ⟨type, htype, h⟩ := Outcome.bind_eq_ok.1 h
    obtain ⟨source, hsource, h⟩ := Outcome.bind_eq_ok.1 h
    obtain ⟨target, htarget, h⟩ := Outcome.bind_eq_ok.1 h
    obtain ⟨given, hgiven, h⟩ := Outcome.bind_eq_ok.1 h
    obtain ⟨attributes, hattributes, h⟩ := Outcome.bind_eq_ok.1 h
    cases h
    rw [lift_eq, Outcome.mapError_eq_ok] at htype hattributes
    exact ⟨rfl, Schematic.require_eq_ok.1 htype, endpoint_eq_ok.1 hsource,
      endpoint_eq_ok.1 htarget, attributes_eq_ok.1 ⟨given, hgiven, hattributes⟩⟩
  · intro h
    obtain ⟨given, hgiven, hattributes⟩ := attributes_eq_ok.2 h.attributes
    have htype : s.connectionType e.2.type = .ok x.type := Schematic.require_eq_ok.2 h.type
    simp only [htype, endpoint_eq_ok.2 h.source, endpoint_eq_ok.2 h.target, hgiven, hattributes,
      lift_ok, Outcome.ok_bind, ← h.name]
    rfl

theorem constraintOf_eq_ok {s : Schematic} {e : String × Constraint} {x : Netlister.Constraint} :
    constraintOf s e = .ok x ↔ DescribesConstraint s e x := by
  unfold constraintOf
  constructor
  · intro h
    obtain ⟨type, htype, h⟩ := Outcome.bind_eq_ok.1 h
    obtain ⟨given, hgiven, h⟩ := Outcome.bind_eq_ok.1 h
    obtain ⟨attributes, hattributes, h⟩ := Outcome.bind_eq_ok.1 h
    cases h
    rw [lift_eq, Outcome.mapError_eq_ok] at htype hattributes
    exact ⟨rfl, Schematic.require_eq_ok.1 htype, attributes_eq_ok.1 ⟨given, hgiven, hattributes⟩⟩
  · intro h
    obtain ⟨given, hgiven, hattributes⟩ := attributes_eq_ok.2 h.attributes
    have htype : s.constraintType e.2.type = .ok x.type := Schematic.require_eq_ok.2 h.type
    simp only [htype, hgiven, hattributes, lift_ok, Outcome.ok_bind, ← h.name]
    rfl

/-- The types of the ports of a registered type of nodes are registered. -/
theorem DescribesTypes.has_port {d : Document} {s : Schematic} (h : DescribesTypes d s)
    {type : Netlister.NodeType} (htype : s.nodeTypes.Has type) {port : PortType}
    (hport : type.ports.Has port) : s.portTypes.Has port := by
  obtain ⟨name, hname⟩ := htype
  obtain ⟨portName, hport⟩ := hport
  obtain ⟨t, -, -, hports⟩ := h.nodeTypes.exists_entry hname
  obtain ⟨typeName, -, hfind⟩ := hports.exists_entry hport
  exact ⟨typeName, hfind⟩

theorem DescribesTypes.has_ports {d : Document} {s : Schematic} (h : DescribesTypes d s)
    {e : String × Node} {x : Netlister.Node} (hx : DescribesNode s e x) :
    ∀ p ∈ x.ports, s.portTypes.Has p.type := by
  intro p hp
  have hentry : (p.name, p.type) ∈ x.type.ports.entries := by
    rw [← hx.ports]
    exact List.mem_map.2 ⟨p, hp, rfl⟩
  exact h.has_port ⟨e.2.type, hx.type⟩ ⟨p.name, NameMap.find?_eq_some_iff.2 hentry⟩

/-! ### Documents -/

/-- A schematic is as a document says. -/
structure Describes (d : Document) (s : Schematic) : Prop where
  types : DescribesTypes d s
  nodes : List.Forall₂ (DescribesNode s) d.nodes.entries s.nodes
  connections : List.Forall₂ (DescribesConnection s) d.connections.entries s.connections
  constraints : List.Forall₂ (DescribesConstraint s) d.constraints.entries s.constraints

/-- The types in use in a schematic that a document describes are registered, each under one
    name. -/
theorem Describes.settled {d : Document} {s : Schematic} (h : Describes d s) : s.Settled where
  nodes := by
    intro node hnode
    obtain ⟨e, -, hdescribes⟩ := exists_of_forall₂ h.nodes hnode
    exact ⟨e.2.type, hdescribes.type⟩
  connections := by
    intro connection hconnection
    obtain ⟨e, -, hdescribes⟩ := exists_of_forall₂ h.connections hconnection
    exact ⟨e.2.type, hdescribes.type⟩
  constraints := by
    intro c hc
    obtain ⟨e, -, hdescribes⟩ := exists_of_forall₂ h.constraints hc
    exact ⟨e.2.type, hdescribes.type⟩
  ports := fun _ htype _ => h.types.has_port htype
  portOnce := h.types.portOnce
  nodeOnce := h.types.nodeOnce
  connectionOnce := h.types.connectionOnce
  constraintOnce := h.types.constraintOnce

/-- What a document gives is as it says. -/
theorem describes_of_toSchematic {d : Document} {c c' : Context} {s : Schematic}
    (h : d.toSchematic c = .ok (s, c')) : Describes d s := by
  obtain ⟨htypes, hnodes, hconnections, hconstraints⟩ := toSchematic_eq_ok.1 h
  have hdeclared := (typesDeclared_of_declareTypes htypes).1
  exact {
    types := hdeclared.describes s.nodes s.connections s.constraints
    nodes := (Outcome.mapM_eq_ok.1 hnodes).imp fun e x => nodeOf_eq_ok.1
    connections := (Outcome.mapM_eq_ok.1 hconnections).imp fun e x => connectionOf_eq_ok.1
    constraints := (Outcome.mapM_eq_ok.1 hconstraints).imp fun e x => constraintOf_eq_ok.1 }

/-! ### Schematics of one document match -/

section Matching

open Schematic (Matches)

variable {d : Document} {s t : Schematic}

/-- The match of a declaration is the one with its name in the other schematic. -/
def matching (s t : Schematic) : Matching where
  port := s.portTypes.transfer t.portTypes
  node := s.nodeTypes.transfer t.nodeTypes
  connection := s.connectionTypes.transfer t.connectionTypes
  constraint := s.constraintTypes.transfer t.constraintTypes

/-- Types that one document lists under one name have the same attributes. -/
theorem attributes_transfer {β τ : Type} [DecidableEq τ] {m : OrderedMap β} {n n' : NameMap τ}
    {R R' : β → τ → Prop} {listed : β → Attributes} {attributes : τ → Schema} (hn : m.Lists R n)
    (hn' : m.Lists R' n') (honce : n.Once)
    (hR : ∀ b type, R b type → Declares s (listed b) (attributes type))
    (hR' : ∀ b type, R' b type → Declares t (listed b) (attributes type)) (type : τ)
    (htype : n.Has type) : attributes (n.transfer n' type) = attributes type := by
  obtain ⟨name, hname⟩ := htype
  obtain ⟨b, hb, hdeclares⟩ := hn.exists_entry hname
  obtain ⟨b', hb', hdeclares'⟩ :=
    hn'.exists_entry (NameMap.exists_transfer (hn.isSome_eq hn') honce hname)
  have hsame : b' = b := Option.some.inj (hb'.symm.trans hb)
  rw [(hR b type hdeclares).eq_schemaOf, (hR' b' _ hdeclares').eq_schemaOf, hsame]

theorem DescribesTypes.matches (hs : DescribesTypes d s) (ht : DescribesTypes d t)
    (hnodes : t.nodes = s.nodes.map (Netlister.Node.retype (matching s t)))
    (hconnections : t.connections = s.connections.map (Netlister.Connection.retype (matching s t)))
    (hconstraints : t.constraints = s.constraints.map (Netlister.Constraint.retype (matching s t))) :
    Matches (matching s t) s t := by
  have hports := hs.portTypes.isSome_eq ht.portTypes
  have hnodeTypes := hs.nodeTypes.isSome_eq ht.nodeTypes
  have hconnectionTypes := hs.connectionTypes.isSome_eq ht.connectionTypes
  have hconstraintTypes := hs.constraintTypes.isSome_eq ht.constraintTypes
  exact {
    faithful := {
      portInj := NameMap.injOn_transfer hports hs.portOnce ht.portOnce
      nodeInj := NameMap.injOn_transfer hnodeTypes hs.nodeOnce ht.nodeOnce
      connectionInj :=
        NameMap.injOn_transfer hconnectionTypes hs.connectionOnce ht.connectionOnce
      constraintInj :=
        NameMap.injOn_transfer hconstraintTypes hs.constraintOnce ht.constraintOnce
      portAttributes := attributes_transfer hs.portTypes ht.portTypes hs.portOnce
        (fun _ _ h => h) (fun _ _ h => h)
      nodeAttributes := attributes_transfer hs.nodeTypes ht.nodeTypes hs.nodeOnce
        (fun _ _ h => h.1) (fun _ _ h => h.1)
      nodePorts := by
        rintro type ⟨name, hname⟩
        obtain ⟨b, hb, -, htypePorts⟩ := hs.nodeTypes.exists_entry hname
        obtain ⟨b', hb', -, htypePorts'⟩ :=
          ht.nodeTypes.exists_entry (NameMap.exists_transfer hnodeTypes hs.nodeOnce hname)
        have hsame : b' = b := Option.some.inj (hb'.symm.trans hb)
        rw [hsame] at htypePorts'
        have hmoved : b.ports.Lists (fun name port => t.portTypes.find? name = some port)
            (type.ports.map (s.portTypes.transfer t.portTypes)) :=
          htypePorts.map fun name port hport =>
            NameMap.exists_transfer hports hs.portOnce hport
        exact htypePorts'.unique hmoved fun _ _ _ h h' => Option.some.inj (h.symm.trans h')
      connectionAttributes := attributes_transfer hs.connectionTypes ht.connectionTypes
        hs.connectionOnce (fun _ _ h => h) (fun _ _ h => h)
      constraintAttributes := attributes_transfer hs.constraintTypes ht.constraintTypes
        hs.constraintOnce (fun _ _ h => h) (fun _ _ h => h) }
    name := ht.name.trans hs.name.symm
    userTypes := fun name => (ht.userTypes name).trans (hs.userTypes name).symm
    portTypes := NameMap.eq_map_transfer hports hs.portOnce
    nodeTypes := NameMap.eq_map_transfer hnodeTypes hs.nodeOnce
    connectionTypes := NameMap.eq_map_transfer hconnectionTypes hs.connectionOnce
    constraintTypes := NameMap.eq_map_transfer hconstraintTypes hs.constraintOnce
    nodes := hnodes
    connections := hconnections
    constraints := hconstraints }

/-- Attributes are given in one schematic as in another with the same attribute types. -/
theorem Gives.congr (hs : s.userTypes.Grounded) (ht : t.userTypes.Grounded)
    (hsame : ∀ name, t.userTypes.find? name = s.userTypes.find? name) {values : Values}
    {schema schema' : Schema} {attributes : Netlister.Attributes}
    (h : Gives s values schema attributes) (hschema : schema' = schema) :
    Gives t values schema' attributes := by
  rw [hschema]
  exact ⟨h.1, h.2.congr hs ht hsame⟩

section Retype

variable {m : Matching} (hm : Matches m s t) (hs : s.userTypes.Grounded)
  (ht : t.userTypes.Grounded)

include hm hs ht

theorem DescribesNode.retype {e : String × Node} {x : Netlister.Node} (h : DescribesNode s e x)
    (hports : ∀ p ∈ x.ports, s.portTypes.Has p.type) : DescribesNode t e (x.retype m) := by
  have hregistered : s.nodeTypes.Has x.type := ⟨e.2.type, h.type⟩
  have hattributes := hm.faithful.nodeAttributes x.type hregistered
  have htypePorts := hm.faithful.nodePorts x.type hregistered
  exact {
    name := h.name
    type := by
      rw [hm.nodeTypes, NameMap.find?_map, h.type]
      rfl
    attributes := h.attributes.congr hs ht hm.userTypes hattributes
    given := by
      intro port values hvalues
      show ((m.node x.type).ports.find? port).isSome
      rw [htypePorts, NameMap.find?_map, Option.isSome_map]
      exact h.given port values hvalues
    ports := by
      show (x.ports.map (Port.retype m)).map (fun p => (p.name, p.type)) = (m.node x.type).ports.entries
      rw [htypePorts, List.map_map]
      show x.ports.map _ = x.type.ports.entries.map _
      rw [← h.ports, List.map_map]
      rfl
    portAttributes := by
      intro p' hp'
      obtain ⟨p, hp, rfl⟩ := List.mem_map.1 hp'
      exact (h.portAttributes p hp).congr hs ht hm.userTypes
        (hm.faithful.portAttributes p.type (hports p hp)) }

theorem DescribesConnection.retype {e : String × Connection} {x : Netlister.Connection}
    (h : DescribesConnection s e x) : DescribesConnection t e (x.retype m) := by
  have hport {p : PortRef} (hp : (s.port? p).isSome) : (t.port? p).isSome := by
    rw [hm.port?_eq, Option.isSome_map]
    exact hp
  exact {
    name := h.name
    type := by
      rw [hm.connectionTypes, NameMap.find?_map, h.type]
      rfl
    source := ⟨h.source.1, h.source.2.1, hport h.source.2.2⟩
    target := ⟨h.target.1, h.target.2.1, hport h.target.2.2⟩
    attributes := h.attributes.congr hs ht hm.userTypes
      (hm.faithful.connectionAttributes x.type ⟨e.2.type, h.type⟩) }

theorem DescribesConstraint.retype {e : String × Constraint} {x : Netlister.Constraint}
    (h : DescribesConstraint s e x) : DescribesConstraint t e (x.retype m) where
  name := h.name
  type := by
    rw [hm.constraintTypes, NameMap.find?_map, h.type]
    rfl
  attributes := h.attributes.congr hs ht hm.userTypes
    (hm.faithful.constraintAttributes x.type ⟨e.2.type, h.type⟩)

end Retype

/-- A document that describes a schematic gives, in whatever context, one that matches it, if
    its attribute types are in order. -/
theorem exists_toSchematic (h : Describes d s) (horder : d.UserTypesInOrder) (c : Context) :
    ∃ t c', d.toSchematic c = .ok (t, c') ∧ Matches (matching s t) s t := by
  obtain ⟨types, c', htypes⟩ := h.types.exists_declareTypes horder c
  obtain ⟨hdeclared, -⟩ := typesDeclared_of_declareTypes htypes
  let t : Schematic := { types with
    nodes := s.nodes.map (Netlister.Node.retype (matching s types))
    connections := s.connections.map (Netlister.Connection.retype (matching s types))
    constraints := s.constraints.map (Netlister.Constraint.retype (matching s types)) }
  have ht : DescribesTypes d t := hdeclared.describes t.nodes t.connections t.constraints
  have hm : Matches (matching s t) s t := h.types.matches ht rfl rfl rfl
  have hs := h.types.grounded
  refine ⟨t, c', toSchematic_eq_ok.2 ⟨?_, ?_, ?_, ?_⟩, hm⟩
  · show _ = Except.ok ({ types with nodes := [], connections := [], constraints := [] }, c')
    rw [htypes, hdeclared.bare]
  · rw [Outcome.mapM_eq_ok, hm.nodes, List.forall₂_map_right_iff]
    exact h.nodes.imp fun e x hx =>
      nodeOf_eq_ok.2 (hx.retype hm hs ht.grounded (h.types.has_ports hx))
  · rw [Outcome.mapM_eq_ok, hm.connections, List.forall₂_map_right_iff]
    exact h.connections.imp fun e x hx => connectionOf_eq_ok.2 (hx.retype hm hs ht.grounded)
  · rw [Outcome.mapM_eq_ok, hm.constraints, List.forall₂_map_right_iff]
    exact h.constraints.imp fun e x hx => constraintOf_eq_ok.2 (hx.retype hm hs ht.grounded)

end Matching

end Document

end Netlister
