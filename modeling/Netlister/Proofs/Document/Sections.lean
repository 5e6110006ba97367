import Netlister.Proofs.Document.Endpoint
import Netlister.Proofs.Document.Values
import Netlister.Proofs.Schematic.Atomicity
import Netlister.Proofs.Schematic.Vocabulary

/-! # Carrying out a document section by section

  The names of a section are distinct, so no entry is in the way of another. Carrying out a
  section therefore is a look at each entry, which may fail, followed by one change of the
  schematic, which may not (`foldlM_of_fresh`).

  - `foldlM_section`: a section of types. The looks give types that still lack a serial
    number, and the change registers them, numbered in the order of the section.
    `Filled` is what is registered then.
  - `foldlM_userTypes_eq_ok`: the attribute types, the one section where an entry may depend
    on those before it.
  - `toSchematic_eq`: the whole document, with its instances looked at one by one.
  - `reachable_of_toSchematic`: what a document gives can be built by construction steps.
-/

namespace Netlister.Document

open Schematic (TypeNames portTypeNames nodeTypeNames connectionTypeNames constraintTypeNames)

/-- A step of the construction of a schematic as a step of a document. -/
theorem lift_eq {α : Type} (x : Except Schematic.Error α) :
    (liftM x : Except Error α) = x.mapError .schematic := rfl

theorem lift_ok {α : Type} (a : α) :
    (liftM (.ok a : Except Schematic.Error α) : Except Error α) = .ok a := rfl

/-! ### Steps that do not get into each other's way -/

/-- Steps of which each is a look and a change, as long as what it is about is fresh. If no
    step makes another key stale, all looks can be taken before all changes. -/
theorem foldlM_of_fresh {σ α β ε : Type} {step : σ → α → Except ε σ} (look : α → Except ε β)
    (change : σ → β → σ) (key : α → String) (Fresh : σ → α → Prop)
    (hstep : ∀ s a, Fresh s a → step s a = (look a).map (change s))
    (hkeep : ∀ s a b a', look a = .ok b → key a' ≠ key a → Fresh s a' → Fresh (change s b) a')
    {as : List α} (hkeys : (as.map key).Nodup) {s : σ} (hfresh : ∀ a ∈ as, Fresh s a) :
    as.foldlM step s = (as.mapM look).map fun bs => bs.foldl change s := by
  induction as generalizing s with
  | nil => rfl
  | cons a as ih =>
    obtain ⟨hfirst, hrest⟩ := List.nodup_cons.1 hkeys
    obtain ⟨hfreshFirst, hfreshRest⟩ := List.forall_mem_cons.1 hfresh
    rw [List.foldlM_cons, List.mapM_cons, hstep s a hfreshFirst]
    cases hlook : look a with
    | error e => rfl
    | ok b =>
      have hstill : ∀ a' ∈ as, Fresh (change s b) a' := by
        intro a' ha'
        have hne : key a' ≠ key a := by
          intro heq
          exact hfirst (List.mem_map.2 ⟨a', ha', heq⟩)
        exact hkeep s a b a' hlook hne (hfreshRest a' ha')
      show as.foldlM step (change s b) = _
      rw [ih hrest hstill]
      cases as.mapM look <;> rfl

/-- A part of a schematic that can be replaced: it is read as it was written last, and
    writing changes nothing else. -/
structure Lawful {μ : Type} (get : Schematic → μ) (set : Schematic → μ → Schematic) : Prop where
  get_set : ∀ s m, get (set s m) = m
  set_set : ∀ s m m', set (set s m) m' = set s m'
  set_get : ∀ s, set s (get s) = s

/-! ### Types in the order of their numbers -/

/-- Types with their names, numbered in order. -/
def numbered {τ : Type} : Nat → List (String × (Nat → τ)) → List (String × τ)
  | _, [] => []
  | first, (name, type) :: rest => (name, type first) :: numbered (first + 1) rest

/-- A step registers the type that a look at the entry gives, under the next serial number.
    The look does not depend on the types that are registered by such steps. -/
structure Registering {β τ : Type} (names : TypeNames Schematic τ)
    (step : Schematic × Context → String × β → Except Error (Schematic × Context))
    (make : Schematic → β → Except Error (Nat → τ)) : Prop where
  lawful : Lawful names.get names.set
  step_eq : ∀ s c e, (names.get s).find? e.1 = none →
    step (s, c) e = (make s e.2).map fun type =>
      (names.set s ((names.get s).insert e.1 (type c.issued)), c.advance)
  make_set : ∀ s m, make (names.set s m) = make s

/-! ### A section of types -/

/-- The serial numbers are those that come next. -/
theorem map_serial_numbered {τ : Type} {serial : τ → Nat} {types : List (String × (Nat → τ))}
    (h : ∀ e ∈ types, ∀ k, serial (e.2 k) = k) (first : Nat) :
    (numbered first types).map (fun e => serial e.2) = List.range' first types.length := by
  induction types generalizing first with
  | nil => rfl
  | cons e types ih =>
    obtain ⟨he, hrest⟩ := List.forall_mem_cons.1 h
    rw [List.length_cons, List.range'_succ, ← ih hrest (first + 1)]
    show serial (e.2 first) :: _ = _
    rw [he first]

/-- Every type is what its entry gives, with some number. -/
theorem forall₂_numbered {β τ : Type} {es : List (String × β)} {look : β → Except Error (Nat → τ)}
    {types : List (String × (Nat → τ))}
    (h : es.mapM (fun e => (look e.2).map fun type => (e.1, type)) = .ok types) (first : Nat) :
    List.Forall₂ (fun e f => e.1 = f.1 ∧ ∃ type, look e.2 = .ok type ∧ ∃ k, f.2 = type k) es
      (numbered first types) := by
  induction Outcome.mapM_eq_ok.1 h generalizing first with
  | nil => exact .nil
  | cons hlook hrest ih =>
    obtain ⟨type, htype, rfl⟩ := Outcome.map_eq_ok.1 hlook
    exact .cons ⟨rfl, type, htype, first, rfl⟩ (ih (Outcome.mapM_eq_ok.2 hrest) (first + 1))

/-- What is registered after a section: each of its types, with a serial number of its own,
    and nothing else. -/
structure Filled {β τ : Type} (look : β → Except Error (Nat → τ)) (serial : τ → Nat)
    (m : OrderedMap β) (first : Nat) (n : NameMap τ) : Prop where
  lists : m.Lists (fun b t => ∃ type, look b = .ok type ∧ ∃ k, t = type k) n
  serials : (n.values.map serial).Perm (List.range' first m.size)

theorem Filled.once {β τ : Type} {look : β → Except Error (Nat → τ)} {serial : τ → Nat}
    {m : OrderedMap β} {first : Nat} {n : NameMap τ} (h : Filled look serial m first n) : n.Once :=
  NameMap.once_of_nodup (h.serials.nodup_iff.2 List.nodup_range')

section Section

variable {β τ : Type} {names : TypeNames Schematic τ}
  {step : Schematic × Context → String × β → Except Error (Schematic × Context)}
  {make : Schematic → β → Except Error (Nat → τ)}

/-- One after the other, types are registered with the numbers that come next. -/
theorem foldl_register (h : Lawful names.get names.set) (types : List (String × (Nat → τ)))
    (s : Schematic) (c : Context) :
    types.foldl (fun state e => (names.set state.1
        ((names.get state.1).insert e.1 (e.2 state.2.issued)), state.2.advance)) (s, c) =
      (names.set s ((numbered c.issued types).foldl (fun m e => m.insert e.1 e.2) (names.get s)),
        (⟨c.issued + types.length⟩ : Context)) := by
  induction types generalizing s c with
  | nil =>
    show (s, c) = (names.set s (names.get s), c)
    rw [h.set_get]
  | cons e types ih =>
    have hissued : c.advance.issued + types.length = c.issued + (types.length + 1) := by
      show c.issued + 1 + types.length = _
      omega
    rw [List.foldl_cons, ih, h.get_set, h.set_set, hissued]
    rfl

/-- A section of types is a look at each entry and then one change. -/
theorem foldlM_section (h : Registering names step make) (m : OrderedMap β) {s : Schematic}
    (hempty : names.get s = ∅) (c : Context) :
    m.entries.foldlM step (s, c) =
      (m.entries.mapM fun e => (make s e.2).map fun type => (e.1, type)).map fun types =>
        (names.set s (NameMap.ofList (numbered c.issued types)), ⟨c.issued + types.length⟩) := by
  -- Fresh: nothing but such types was registered, and none under this name.
  rw [foldlM_of_fresh (fun e : String × β => (make s e.2).map fun type => (e.1, type))
    (fun state e => (names.set state.1
      ((names.get state.1).insert e.1 (e.2 state.2.issued)), state.2.advance)) (fun e => e.1)
    (fun state e => (∃ n, state.1 = names.set s n) ∧ (names.get state.1).find? e.1 = none)
    ?_ ?_ m.distinct ?_]
  · congr 1
    funext types
    rw [foldl_register h.lawful, hempty]
    rfl
  · rintro ⟨s', c'⟩ e ⟨⟨n, hn⟩, hnew⟩
    change s' = names.set s n at hn
    rw [h.step_eq s' c' e hnew, hn, h.make_set]
    cases make s e.2 <;> rfl
  · rintro ⟨s', c'⟩ e f e' hlook hne ⟨⟨n, hn⟩, hnew⟩
    change s' = names.set s n at hn
    obtain ⟨type, -, rfl⟩ := Outcome.map_eq_ok.1 hlook
    refine ⟨⟨n.insert e.1 (type c'.issued), ?_⟩, ?_⟩
    · show names.set s' ((names.get s').insert e.1 (type c'.issued)) = _
      rw [hn, h.lawful.set_set, h.lawful.get_set]
    · show (names.get (names.set s' ((names.get s').insert e.1 (type c'.issued)))).find? e'.1 = none
      rw [h.lawful.get_set, NameMap.find?_insert, if_neg hne]
      exact hnew
  · intro e _
    refine ⟨⟨names.get s, (h.lawful.set_get s).symm⟩, ?_⟩
    show (names.get s).find? e.1 = none
    rw [hempty]
    rfl

/-- Carrying out a section of types where none are registered yet. -/
theorem section_eq_ok (h : Registering names step make) (serial : τ → Nat)
    (hserial : ∀ s b type, make s b = .ok type → ∀ k, serial (type k) = k) {m : OrderedMap β}
    {s s' : Schematic} {c c' : Context} (hempty : names.get s = ∅)
    (hrun : m.entries.foldlM step (s, c) = .ok (s', c')) :
    ∃ n, s' = names.set s n ∧ c'.issued = c.issued + m.size ∧
      Filled (make s) serial m c.issued n := by
  rw [foldlM_section h m hempty] at hrun
  obtain ⟨types, htypes, hrun⟩ := Outcome.map_eq_ok.1 hrun
  cases hrun
  have hpairs := forall₂_numbered htypes c.issued
  have hlength : types.length = m.size := (Outcome.mapM_eq_ok.1 htypes).length_eq.symm
  have hnames : ((numbered c.issued types).map (·.1)).Nodup := by
    rw [map_fst_of_forall₂ (R := fun b t => ∃ type, make s b = .ok type ∧ ∃ k, t = type k) hpairs]
    exact m.distinct
  refine ⟨NameMap.ofList (numbered c.issued types), rfl, by rw [hlength], ?_, ?_⟩
  · intro name
    rw [NameMap.find?_ofList hnames]
    exact rel_lookup_of_forall₂ hpairs name
  · have hmakes : ∀ e ∈ types, ∀ k, serial (e.2 k) = k := by
      intro e he
      obtain ⟨entry, -, hentry⟩ := (Outcome.mem_iff_of_mapM htypes).1 he
      obtain ⟨type, htype, rfl⟩ := Outcome.map_eq_ok.1 hentry
      exact hserial s entry.2 type htype
    have hperm := (NameMap.perm_entries_ofList hnames).map fun e => serial e.2
    rw [map_serial_numbered hmakes, hlength] at hperm
    rw [NameMap.values, List.map_map]
    exact hperm

/-- A section of types is carried out if each of its entries gives a type. -/
theorem exists_section (h : Registering names step make) {m : OrderedMap β} {s : Schematic}
    (hempty : names.get s = ∅) (hmakes : ∀ e ∈ m.entries, ∃ type, make s e.2 = .ok type)
    (c : Context) : ∃ s' c', m.entries.foldlM step (s, c) = .ok (s', c') := by
  have hlooks : ∃ types, m.entries.mapM (fun e => (make s e.2).map fun type => (e.1, type)) =
      .ok types := by
    rw [Outcome.exists_mapM]
    intro e he
    obtain ⟨type, htype⟩ := hmakes e he
    exact ⟨(e.1, type), by rw [htype]; rfl⟩
  obtain ⟨types, htypes⟩ := hlooks
  rw [foldlM_section h m hempty, htypes]
  exact ⟨_, _, rfl⟩

/-- A section of types fails where a look at one of its entries does. -/
theorem error_of_section (h : Registering names step make) {m : OrderedMap β} {s : Schematic}
    {c : Context} (hempty : names.get s = ∅) {err : Error}
    (hrun : m.entries.foldlM step (s, c) = .error err) :
    ∃ e ∈ m.entries, make s e.2 = .error err := by
  rw [foldlM_section h m hempty, Outcome.map_eq_error] at hrun
  obtain ⟨entry, hentry, hlook⟩ := Outcome.exists_of_mapM_eq_error hrun
  exact ⟨entry, hentry, Outcome.map_eq_error.1 hlook⟩

end Section

/-! ### Looks at types -/

/-- The attributes that a type of a document declares. -/
def schemaOf (attributes : Attributes) : Schema := NameMap.ofList attributes.entries

theorem lists_schemaOf (attributes : Attributes) : attributes.Lists Eq (schemaOf attributes) :=
  OrderedMap.lists_eq_iff.2 fun name => NameMap.find?_ofList attributes.distinct name

/-- The type of an entry without ports, which still lacks its serial number. -/
def makePlainType {τ : Type} (declare : Nat → Schema → τ) (s : Schematic) (t : PlainType) :
    Except Error (Nat → τ) := do
  s.requireSchema (schemaOf t.attributes)
  return fun serial => declare serial (schemaOf t.attributes)

/-- The type of nodes of an entry, which still lacks its serial number. -/
def makeNodeType (s : Schematic) (t : NodeType) : Except Error (Nat → Netlister.NodeType) := do
  let ports ← t.ports.entries.mapM fun (port, type) => return (port, ← s.portType type)
  s.requireSchema (schemaOf t.attributes)
  return fun serial => ⟨serial, schemaOf t.attributes, NameMap.ofList ports⟩

/-- Registering a type under a new name can only fail for its schema. -/
theorem registration_of_new {α : Type} {s : Schematic} {schema : Schema} {scope : Schematic.Scope}
    {m : NameMap α} {name : String} {value : α} {put : NameMap α → Schematic} {after : Context}
    (h : m.find? name = none) :
    (do
      let s' ← (do
        s.requireSchema schema
        return put (← Schematic.register scope m name value) : Except Schematic.Error Schematic)
      return (s', after) : Except Error (Schematic × Context)) =
      (do
        s.requireSchema schema
        return (put (m.insert name value), after)) := by
  rw [Schematic.register_eq_ok.2 ⟨h, rfl⟩]
  cases s.requireSchema schema <;> rfl

/-- The type that a look gives is registered. -/
theorem map_requireSchema {τ : Type} {s : Schematic} {schema : Schema} {type : Nat → τ}
    {put : (Nat → τ) → Schematic × Context} :
    (do
      s.requireSchema schema
      return type : Except Error (Nat → τ)).map put = (do
        s.requireSchema schema
        return put type) := by
  cases s.requireSchema schema <;> rfl

theorem registering_portType :
    Registering portTypeNames addPortType (makePlainType PortType.mk) where
  lawful := ⟨fun _ _ => rfl, fun _ _ _ => rfl, fun _ => rfl⟩
  step_eq := by
    intro s c e hnew
    unfold addPortType Context.portType makePlainType
    rw [NameMap.ofDistinct_eq _ e.2.attributes.distinct, map_requireSchema]
    exact registration_of_new hnew
  make_set := fun _ _ => rfl

theorem registering_connectionType :
    Registering connectionTypeNames addConnectionType (makePlainType ConnectionType.mk) where
  lawful := ⟨fun _ _ => rfl, fun _ _ _ => rfl, fun _ => rfl⟩
  step_eq := by
    intro s c e hnew
    unfold addConnectionType Context.connectionType makePlainType
    rw [NameMap.ofDistinct_eq _ e.2.attributes.distinct, map_requireSchema]
    exact registration_of_new hnew
  make_set := fun _ _ => rfl

theorem registering_constraintType :
    Registering constraintTypeNames addConstraintType (makePlainType ConstraintType.mk) where
  lawful := ⟨fun _ _ => rfl, fun _ _ _ => rfl, fun _ => rfl⟩
  step_eq := by
    intro s c e hnew
    unfold addConstraintType Context.constraintType makePlainType
    rw [NameMap.ofDistinct_eq _ e.2.attributes.distinct, map_requireSchema]
    exact registration_of_new hnew
  make_set := fun _ _ => rfl

/-- The ports of a type of nodes are looked up under the names of their types. -/
theorem forall₂_ports {s : Schematic} {es : List (String × String)}
    {ports : List (String × PortType)} :
    (es.mapM fun (port, type) => do return (port, ← s.portType type) :
      Except Error (List (String × PortType))) = .ok ports ↔
      List.Forall₂ (fun e p => e.1 = p.1 ∧ s.portTypes.find? e.2 = some p.2) es ports := by
  have hlook (e : String × String) (p : PortType) :
      (liftM (s.portType e.2) : Except Error PortType) = .ok p ↔ s.portTypes.find? e.2 = some p :=
    Outcome.mapError_eq_ok.trans Schematic.require_eq_ok
  simp only [← hlook]
  exact mapM_entries_eq_ok

theorem registering_nodeType : Registering nodeTypeNames addNodeType makeNodeType where
  lawful := ⟨fun _ _ => rfl, fun _ _ _ => rfl, fun _ => rfl⟩
  step_eq := by
    intro s c e hnew
    unfold addNodeType makeNodeType
    cases hports : (e.2.ports.entries.mapM fun (port, type) => do
        return (port, ← s.portType type) : Except Error (List (String × PortType))) with
    | error err => rfl
    | ok ports =>
      have hnodup : (ports.map (·.1)).Nodup := by
        rw [map_fst_of_forall₂ (R := fun type p => s.portTypes.find? type = some p)
          (forall₂_ports.1 hports)]
        exact e.2.ports.distinct
      rw [Outcome.ok_bind, Outcome.ok_bind, Context.nodeType_eq _ e.2.attributes.distinct hnodup,
        map_requireSchema]
      exact registration_of_new hnew
  make_set := fun _ _ => rfl

/-! ### The section of attribute types -/

/-- Declares an attribute type of a document. -/
def addUserType (s : Schematic) (entry : String × AttributeType) : Except Error Schematic :=
  s.addUserType entry.1 entry.2

/-- A declaration is in order iff those before it are and it is allowed after them. -/
theorem grounded_declare_iff {u : UserTypes} {name : String} {type : AttributeType} :
    (u.declare name type).Grounded ↔
      u.Grounded ∧ u.find? name = none ∧ u.requireDeclared type = .ok () := by
  constructor
  · intro h
    generalize hlast : u.declare name type = v at h
    cases h with
    | empty => cases hlast
    | @declare older last lastType holder hnew hdeclared =>
      obtain ⟨declarations⟩ := u
      obtain ⟨olderDeclarations⟩ := older
      cases hlast
      exact ⟨holder, hnew, hdeclared⟩
  · rintro ⟨hu, hnew, hdeclared⟩
    exact hu.declare hnew hdeclared

/-- Older declarations are in order whatever came later. -/
theorem grounded_of_append {newer older : List (String × AttributeType)}
    (h : UserTypes.Grounded ⟨newer ++ older⟩) : UserTypes.Grounded ⟨older⟩ := by
  induction newer with
  | nil => exact h
  | cons e newer ih =>
    have hlast : (UserTypes.declare ⟨newer ++ older⟩ e.1 e.2).Grounded := h
    exact ih (grounded_declare_iff.1 hlast).1

/-- Attribute types are declared iff none has the name of a built-in type and each mentions
    only those before it. -/
theorem foldlM_userTypes_eq_ok {es : List (String × AttributeType)} {s s' : Schematic}
    (hs : s.userTypes.Grounded) :
    es.foldlM addUserType s = .ok s' ↔
      (∀ e ∈ es, e.1 ∉ AttributeType.builtinNames) ∧
        UserTypes.Grounded ⟨es.reverse ++ s.userTypes.declarations⟩ ∧
        s' = { s with userTypes := ⟨es.reverse ++ s.userTypes.declarations⟩ } := by
  induction es generalizing s with
  | nil =>
    constructor
    · intro h
      cases h
      exact ⟨by simp, hs, rfl⟩
    · rintro ⟨-, -, rfl⟩
      rfl
  | cons e es ih =>
    have happend : (e :: es).reverse ++ s.userTypes.declarations =
        es.reverse ++ (s.userTypes.declare e.1 e.2).declarations := by
      rw [List.reverse_cons, List.append_assoc]
      rfl
    have hstep (next : Schematic) : addUserType s e = .ok next ↔
        (Schematic.Operation.addUserType e.1 e.2).Extends s next := by
      rw [← Schematic.Operation.apply_eq_ok]
      exact Outcome.mapError_eq_ok
    rw [List.foldlM_cons, Outcome.bind_eq_ok, List.forall_mem_cons, happend]
    constructor
    · rintro ⟨next, hnext, hrest⟩
      obtain ⟨⟨hbuiltin, hnew, hdeclared⟩, rfl⟩ := (hstep next).1 hnext
      obtain ⟨hnames, hgrounded, hs'⟩ := (ih (hs.declare hnew hdeclared)).1 hrest
      exact ⟨⟨hbuiltin, hnames⟩, hgrounded, hs'⟩
    · rintro ⟨⟨hbuiltin, hnames⟩, hgrounded, rfl⟩
      -- Of the declarations in order, those up to this one are in order already.
      obtain ⟨-, hnew, hdeclared⟩ := grounded_declare_iff.1 (grounded_of_append hgrounded)
      exact ⟨_, (hstep _).2 ⟨⟨hbuiltin, hnew, hdeclared⟩, rfl⟩,
        (ih (hs.declare hnew hdeclared)).2 ⟨hnames, hgrounded, rfl⟩⟩

/-- The attribute types of a document as they are declared. -/
def userTypesOf (d : Document) : UserTypes := ⟨d.userTypes.entries.reverse⟩

theorem find?_userTypesOf (d : Document) (name : String) :
    (userTypesOf d).find? name = d.userTypes.find? name :=
  (lookup_eq_of_perm d.userTypes.distinct (List.reverse_perm _).symm).symm

/-- The attribute types of a document can be declared in their order. -/
def UserTypesInOrder (d : Document) : Prop :=
  (∀ e ∈ d.userTypes.entries, e.1 ∉ AttributeType.builtinNames) ∧ (userTypesOf d).Grounded

theorem userTypes_eq_ok {d : Document} {s : Schematic} :
    d.userTypes.entries.foldlM addUserType { name := d.name } = .ok s ↔
      d.UserTypesInOrder ∧ s = { name := d.name, userTypes := userTypesOf d } := by
  have hempty : d.userTypes.entries.reverse ++ ({} : UserTypes).declarations =
      d.userTypes.entries.reverse := List.append_nil _
  rw [foldlM_userTypes_eq_ok .empty]
  simp only [hempty, ← and_assoc]
  rfl

/-! ### Sections of instances -/

/-- The node of an entry. -/
def nodeOf (s : Schematic) (entry : String × Node) : Except Error Netlister.Node := do
  let type ← s.nodeType entry.2.type
  let given ← attributeValues entry.2.attributes
  let portGiven ← entry.2.portAttributes.entries.mapM fun (port, values) =>
    return (port, ← attributeValues values)
  let attributes ← Attributes.validate type.attributes s.userTypes given
  Schematic.requirePorts entry.1 type portGiven
  let ports ← Schematic.newPorts s.userTypes type portGiven
  return ⟨entry.1, type, attributes, ports⟩

/-- The connection of an entry. -/
def connectionOf (s : Schematic) (entry : String × Connection) :
    Except Error Netlister.Connection := do
  let type ← s.connectionType entry.2.type
  let source ← endpoint s entry.1 entry.2.source
  let target ← endpoint s entry.1 entry.2.target
  let given ← attributeValues entry.2.attributes
  let attributes ← Attributes.validate type.attributes s.userTypes given
  return ⟨entry.1, type, source, target, attributes⟩

/-- The constraint of an entry. -/
def constraintOf (s : Schematic) (entry : String × Constraint) :
    Except Error Netlister.Constraint := do
  let type ← s.constraintType entry.2.type
  let given ← attributeValues entry.2.attributes
  let attributes ← Attributes.validate type.attributes s.userTypes given
  return ⟨entry.1, type, attributes⟩

section Instances

variable {α β : Type} {get : Schematic → List α} {set : Schematic → List α → Schematic}
  {step : Schematic → String × β → Except Error Schematic}
  {look : Schematic → String × β → Except Error α} {nameOf : α → String}

/-- A step puts the instance that a look at the entry gives after all others. The look does
    not depend on these. -/
structure Adding (get : Schematic → List α) (set : Schematic → List α → Schematic)
    (nameOf : α → String) (step : Schematic → String × β → Except Error Schematic)
    (look : Schematic → String × β → Except Error α) : Prop where
  lawful : Lawful get set
  step_eq : ∀ s e, (get s).find? (nameOf · = e.1) = none →
    step s e = (look s e).map fun x => set s (get s ++ [x])
  look_set : ∀ s xs, look (set s xs) = look s
  name_eq : ∀ s e x, look s e = .ok x → nameOf x = e.1

/-- A section of instances is a look at each entry and then one change. -/
theorem foldlM_instances (h : Adding get set nameOf step look) (m : OrderedMap β) {s : Schematic}
    (hempty : get s = []) : m.entries.foldlM step s = (m.entries.mapM (look s)).map (set s) := by
  have hfoldl (xs : List α) (s' : Schematic) :
      xs.foldl (fun s' x => set s' (get s' ++ [x])) s' = set s' (get s' ++ xs) := by
    induction xs generalizing s' with
    | nil => rw [List.append_nil, h.lawful.set_get]; rfl
    | cons x xs ih =>
      rw [List.foldl_cons, ih, h.lawful.get_set, h.lawful.set_set, List.append_assoc]
      rfl
  rw [foldlM_of_fresh (look s) (fun s' x => set s' (get s' ++ [x])) (fun e => e.1)
    (fun s' e => (∃ xs, s' = set s xs) ∧ (get s').find? (nameOf · = e.1) = none) ?_ ?_ m.distinct ?_]
  · congr 1
    funext xs
    rw [hfoldl, hempty, List.nil_append]
  · rintro s' e ⟨⟨xs, hxs⟩, hnew⟩
    rw [h.step_eq s' e hnew, hxs, h.look_set]
  · rintro s' e x e' hlook hne ⟨⟨xs, hxs⟩, hnew⟩
    refine ⟨⟨xs ++ [x], ?_⟩, ?_⟩
    · rw [hxs, h.lawful.set_set, h.lawful.get_set]
    · rw [h.lawful.get_set, List.find?_append, hnew, Option.none_or, List.find?_singleton,
        h.name_eq s e x hlook]
      simp [Ne.symm hne]
  · intro e _
    refine ⟨⟨get s, (h.lawful.set_get s).symm⟩, ?_⟩
    rw [hempty]
    rfl

end Instances

theorem adding_node :
    Adding Schematic.nodes (fun s nodes => { s with nodes }) Netlister.Node.name addNode nodeOf where
  lawful := ⟨fun _ _ => rfl, fun _ _ _ => rfl, fun _ => rfl⟩
  step_eq := by
    intro s e hnew
    have hfree : (s.node? e.1).isSome = false := by
      rw [show s.node? e.1 = none from hnew]
      rfl
    unfold addNode nodeOf
    simp only [Outcome.map_bind, Schematic.addNode_eq, hfree]
    refine bind_congr fun type => bind_congr fun given => bind_congr fun portGiven => ?_
    cases Attributes.validate type.attributes s.userTypes given with
    | error err => rfl
    | ok attributes =>
      cases Schematic.requirePorts e.1 type portGiven with
      | error err => rfl
      | ok u => cases Schematic.newPorts s.userTypes type portGiven <;> rfl
  look_set := fun _ _ => rfl
  name_eq := by
    intro s e x h
    obtain ⟨type, -, h⟩ := Outcome.bind_eq_ok.1 h
    obtain ⟨given, -, h⟩ := Outcome.bind_eq_ok.1 h
    obtain ⟨portGiven, -, h⟩ := Outcome.bind_eq_ok.1 h
    obtain ⟨attributes, -, h⟩ := Outcome.bind_eq_ok.1 h
    obtain ⟨-, h⟩ := Outcome.check_bind_eq_ok.1 h
    obtain ⟨ports, -, h⟩ := Outcome.bind_eq_ok.1 h
    cases h
    rfl

theorem adding_connection :
    Adding Schematic.connections (fun s connections => { s with connections })
      Netlister.Connection.name addConnection connectionOf where
  lawful := ⟨fun _ _ => rfl, fun _ _ _ => rfl, fun _ => rfl⟩
  step_eq := by
    intro s e hnew
    have hfree : (s.connection? e.1).isSome = false := by
      rw [show s.connection? e.1 = none from hnew]
      rfl
    unfold addConnection connectionOf
    simp only [Outcome.map_bind, Schematic.addConnection_eq, hfree]
    refine bind_congr fun type => bind_congr fun source => bind_congr fun target =>
      bind_congr fun given => ?_
    cases Attributes.validate type.attributes s.userTypes given <;> rfl
  look_set := fun _ _ => rfl
  name_eq := by
    intro s e x h
    obtain ⟨type, -, h⟩ := Outcome.bind_eq_ok.1 h
    obtain ⟨source, -, h⟩ := Outcome.bind_eq_ok.1 h
    obtain ⟨target, -, h⟩ := Outcome.bind_eq_ok.1 h
    obtain ⟨given, -, h⟩ := Outcome.bind_eq_ok.1 h
    obtain ⟨attributes, -, h⟩ := Outcome.bind_eq_ok.1 h
    cases h
    rfl

theorem adding_constraint :
    Adding Schematic.constraints (fun s constraints => { s with constraints })
      Netlister.Constraint.name addConstraint constraintOf where
  lawful := ⟨fun _ _ => rfl, fun _ _ _ => rfl, fun _ => rfl⟩
  step_eq := by
    intro s e hnew
    have hfree : (s.constraint? e.1).isSome = false := by
      rw [show s.constraint? e.1 = none from hnew]
      rfl
    unfold addConstraint constraintOf
    simp only [Outcome.map_bind, Schematic.addConstraint_eq, hfree]
    refine bind_congr fun type => bind_congr fun given => ?_
    cases Attributes.validate type.attributes s.userTypes given <;> rfl
  look_set := fun _ _ => rfl
  name_eq := by
    intro s e x h
    obtain ⟨type, -, h⟩ := Outcome.bind_eq_ok.1 h
    obtain ⟨given, -, h⟩ := Outcome.bind_eq_ok.1 h
    obtain ⟨attributes, -, h⟩ := Outcome.bind_eq_ok.1 h
    cases h
    rfl

/-! ### The whole document -/

/-- The sections of types, one after the other. -/
theorem declareTypes_eq (d : Document) (c : Context) :
    d.declareTypes c = (do
      let s ← d.userTypes.entries.foldlM addUserType { name := d.name }
      let state ← d.portTypes.entries.foldlM addPortType (s, c)
      let state ← d.nodeTypes.entries.foldlM addNodeType state
      let state ← d.connectionTypes.entries.foldlM addConnectionType state
      d.constraintTypes.entries.foldlM addConstraintType state) := rfl

/-- What a schematic is when the types of a document are declared. -/
structure TypesDeclared (d : Document) (c : Context) (s : Schematic) : Prop where
  inOrder : d.UserTypesInOrder
  name : s.name = d.name
  userTypes : s.userTypes = userTypesOf d
  /-- Besides types there is nothing yet. -/
  bare : { s with nodes := [], connections := [], constraints := [] } = s
  portTypes : Filled (makePlainType PortType.mk s) PortType.serial d.portTypes c.issued s.portTypes
  nodeTypes : Filled (makeNodeType s) Netlister.NodeType.serial d.nodeTypes
    (c.issued + d.portTypes.size) s.nodeTypes
  connectionTypes : Filled (makePlainType ConnectionType.mk s) ConnectionType.serial
    d.connectionTypes (c.issued + d.portTypes.size + d.nodeTypes.size) s.connectionTypes
  constraintTypes : Filled (makePlainType ConstraintType.mk s) ConstraintType.serial
    d.constraintTypes (c.issued + d.portTypes.size + d.nodeTypes.size + d.connectionTypes.size)
    s.constraintTypes

/-- The type without ports carries the number that it gets. -/
theorem serial_makePlainType {τ : Type} {declare : Nat → Schema → τ} {serial : τ → Nat}
    (hserial : ∀ k schema, serial (declare k schema) = k) (s : Schematic) (t : PlainType)
    (type : Nat → τ) (h : makePlainType declare s t = .ok type) (k : Nat) :
    serial (type k) = k := by
  obtain ⟨-, h⟩ := Outcome.check_bind_eq_ok.1 h
  cases h
  exact hserial k _

theorem serial_makeNodeType (s : Schematic) (t : NodeType) (type : Nat → Netlister.NodeType)
    (h : makeNodeType s t = .ok type) (k : Nat) : (type k).serial = k := by
  obtain ⟨ports, -, h⟩ := Outcome.bind_eq_ok.1 h
  obtain ⟨-, h⟩ := Outcome.check_bind_eq_ok.1 h
  cases h
  rfl

theorem typesDeclared_of_declareTypes {d : Document} {c c' : Context} {s : Schematic}
    (h : d.declareTypes c = .ok (s, c')) :
    d.TypesDeclared c s ∧ c'.issued = c.issued + d.portTypes.size + d.nodeTypes.size +
      d.connectionTypes.size + d.constraintTypes.size := by
  rw [declareTypes_eq] at h
  obtain ⟨s₀, hs₀, h⟩ := Outcome.bind_eq_ok.1 h
  obtain ⟨⟨s₁, c₁⟩, hs₁, h⟩ := Outcome.bind_eq_ok.1 h
  obtain ⟨⟨s₂, c₂⟩, hs₂, h⟩ := Outcome.bind_eq_ok.1 h
  obtain ⟨⟨s₃, c₃⟩, hs₃, h⟩ := Outcome.bind_eq_ok.1 h
  obtain ⟨hinOrder, rfl⟩ := userTypes_eq_ok.1 hs₀
  obtain ⟨ports, rfl, hc₁, hports⟩ := section_eq_ok registering_portType
    PortType.serial (serial_makePlainType fun _ _ => rfl) rfl hs₁
  obtain ⟨nodes, rfl, hc₂, hnodes⟩ := section_eq_ok registering_nodeType
    Netlister.NodeType.serial serial_makeNodeType rfl hs₂
  obtain ⟨connections, rfl, hc₃, hconnections⟩ := section_eq_ok registering_connectionType
    ConnectionType.serial (serial_makePlainType fun _ _ => rfl) rfl hs₃
  obtain ⟨constraints, rfl, hc', hconstraints⟩ := section_eq_ok registering_constraintType
    ConstraintType.serial (serial_makePlainType fun _ _ => rfl) rfl h
  rw [hc₁] at hnodes hc₂
  rw [hc₂] at hconnections hc₃
  rw [hc₃] at hconstraints hc'
  exact ⟨⟨hinOrder, rfl, rfl, rfl, hports, hnodes, hconnections, hconstraints⟩, hc'⟩

/-- After all types are declared, the instances are looked at one by one, and put together. -/
theorem toSchematic_eq (d : Document) (c : Context) :
    d.toSchematic c = do
      let (s, c') ← d.declareTypes c
      let nodes ← d.nodes.entries.mapM (nodeOf s)
      let connections ← d.connections.entries.mapM (connectionOf { s with nodes })
      let constraints ← d.constraints.entries.mapM (constraintOf s)
      return ({ s with nodes, connections, constraints }, c') := by
  unfold toSchematic
  cases htypes : d.declareTypes c with
  | error err => rfl
  | ok types =>
    obtain ⟨s, c'⟩ := types
    have hbare := (typesDeclared_of_declareTypes htypes).1.bare
    have hnodes : s.nodes = [] := by rw [← hbare]
    have hconnections : s.connections = [] := by rw [← hbare]
    have hconstraints : s.constraints = [] := by rw [← hbare]
    simp only [Outcome.ok_bind]
    rw [foldlM_instances adding_node d.nodes hnodes, Outcome.bind_map]
    refine bind_congr fun nodes => ?_
    rw [foldlM_instances adding_connection d.connections (s := { s with nodes }) hconnections,
      Outcome.bind_map]
    refine bind_congr fun connections => ?_
    rw [foldlM_instances adding_constraint d.constraints (s := { s with nodes, connections })
      hconstraints, Outcome.bind_map]
    rfl

/-- A document gives a schematic iff the types of the schematic are those that are declared,
    and each instance is what its entry comes to in the finished schematic. -/
theorem toSchematic_eq_ok {d : Document} {c c' : Context} {s : Schematic} :
    d.toSchematic c = .ok (s, c') ↔
      d.declareTypes c =
        .ok ({ s with nodes := [], connections := [], constraints := [] }, c') ∧
      d.nodes.entries.mapM (nodeOf s) = .ok s.nodes ∧
      d.connections.entries.mapM (connectionOf s) = .ok s.connections ∧
      d.constraints.entries.mapM (constraintOf s) = .ok s.constraints := by
  rw [toSchematic_eq]
  constructor
  · intro h
    obtain ⟨⟨types, c''⟩, htypes, h⟩ := Outcome.bind_eq_ok.1 h
    obtain ⟨nodes, hnodes, h⟩ := Outcome.bind_eq_ok.1 h
    obtain ⟨connections, hconnections, h⟩ := Outcome.bind_eq_ok.1 h
    obtain ⟨constraints, hconstraints, h⟩ := Outcome.bind_eq_ok.1 h
    cases h
    refine ⟨?_, hnodes, hconnections, hconstraints⟩
    rw [htypes, (typesDeclared_of_declareTypes htypes).1.bare]
  · rintro ⟨htypes, hnodes, hconnections, hconstraints⟩
    rw [htypes, Outcome.ok_bind]
    show (d.nodes.entries.mapM (nodeOf s) >>= fun nodes =>
      d.connections.entries.mapM (connectionOf { s with nodes }) >>= fun connections =>
        d.constraints.entries.mapM (constraintOf s) >>= _) = _
    rw [hnodes, Outcome.ok_bind]
    show (d.connections.entries.mapM (connectionOf s) >>= _) = _
    rw [hconnections, Outcome.ok_bind, hconstraints]
    rfl

/-! ### Reachability -/

section Reachable

variable {s s' : Schematic} {state state' : Schematic × Context}

/-- A construction step that a document takes leads on to a reachable schematic. -/
theorem reachable_of_lift (op : Schematic.Operation) (hs : s.Reachable) (hop : op.Admissible s)
    (h : (liftM (op.apply s) : Except Error Schematic) = .ok s') : s'.Reachable := by
  rw [lift_eq, Outcome.mapError_eq_ok] at h
  have hperform : s.perform op = s' := by
    unfold Schematic.perform
    rw [h]
  rw [← hperform]
  exact .perform op hs hop

/-- Registering a type that comes from a context is a construction step. -/
theorem reachable_of_registration {τ : Type} (op : τ → Schematic.Operation)
    {made : Except Schematic.Error (τ × Context)} (hs : state.1.Reachable)
    (hop : ∀ type, (op type).Admissible state.1)
    (h : (do
      let (type, context) ← made
      return (← (op type).apply state.1, context) : Except Error (Schematic × Context)) =
        .ok state') : state'.1.Reachable := by
  obtain ⟨⟨type, context⟩, -, h⟩ := Outcome.bind_eq_ok.1 h
  obtain ⟨s', hs', h⟩ := Outcome.bind_eq_ok.1 h
  cases h
  exact reachable_of_lift (op type) hs (hop type) hs'

theorem reachable_of_addNodeType {e : String × NodeType} (hs : state.1.Reachable)
    (h : addNodeType state e = .ok state') : state'.1.Reachable := by
  obtain ⟨ports, -, h⟩ := Outcome.bind_eq_ok.1 h
  exact reachable_of_registration (.addNodeType e.1) hs (fun _ => trivial) h

theorem reachable_of_addNode {e : String × Node} (hs : s.Reachable)
    (h : addNode s e = .ok s') : s'.Reachable := by
  obtain ⟨type, -, h⟩ := Outcome.bind_eq_ok.1 h
  obtain ⟨given, -, h⟩ := Outcome.bind_eq_ok.1 h
  obtain ⟨portGiven, -, h⟩ := Outcome.bind_eq_ok.1 h
  exact reachable_of_lift (.addNode e.1 type given portGiven) hs trivial h

theorem reachable_of_addConnection {e : String × Connection} (hs : s.Reachable)
    (h : addConnection s e = .ok s') : s'.Reachable := by
  obtain ⟨type, -, h⟩ := Outcome.bind_eq_ok.1 h
  obtain ⟨source, hsource, h⟩ := Outcome.bind_eq_ok.1 h
  obtain ⟨target, htarget, h⟩ := Outcome.bind_eq_ok.1 h
  obtain ⟨given, -, h⟩ := Outcome.bind_eq_ok.1 h
  -- The ends were looked up, so that the step may be asked for.
  have hends : (s.port? source).isSome ∧ (s.port? target).isSome :=
    ⟨(endpoint_eq_ok.1 hsource).2.2, (endpoint_eq_ok.1 htarget).2.2⟩
  exact reachable_of_lift (.addConnection e.1 type source target given) hs hends h

theorem reachable_of_addConstraint {e : String × Constraint} (hs : s.Reachable)
    (h : addConstraint s e = .ok s') : s'.Reachable := by
  obtain ⟨type, -, h⟩ := Outcome.bind_eq_ok.1 h
  obtain ⟨given, -, h⟩ := Outcome.bind_eq_ok.1 h
  exact reachable_of_lift (.addConstraint e.1 type given) hs trivial h

theorem reachable_of_declareTypes {d : Document} {c : Context}
    (h : d.declareTypes c = .ok state) : state.1.Reachable := by
  rw [declareTypes_eq] at h
  obtain ⟨s₀, hs₀, h⟩ := Outcome.bind_eq_ok.1 h
  obtain ⟨ports, hports, h⟩ := Outcome.bind_eq_ok.1 h
  obtain ⟨nodes, hnodes, h⟩ := Outcome.bind_eq_ok.1 h
  obtain ⟨connections, hconnections, h⟩ := Outcome.bind_eq_ok.1 h
  have hs : s₀.Reachable :=
    Outcome.foldlM_induction (P := Schematic.Reachable) (fun _ e _ hs he =>
      reachable_of_lift (.addUserType e.1 e.2) hs trivial he) (.new d.name) hs₀
  have hs : ports.1.Reachable :=
    Outcome.foldlM_induction (P := fun state => state.1.Reachable) (fun _ e _ hs he =>
      reachable_of_registration (.addPortType e.1) hs (fun _ => trivial) he) hs hports
  have hs : nodes.1.Reachable :=
    Outcome.foldlM_induction (P := fun state => state.1.Reachable) (fun _ _ _ hs he =>
      reachable_of_addNodeType hs he) hs hnodes
  have hs : connections.1.Reachable :=
    Outcome.foldlM_induction (P := fun state => state.1.Reachable) (fun _ e _ hs he =>
      reachable_of_registration (.addConnectionType e.1) hs (fun _ => trivial) he) hs
      hconnections
  exact Outcome.foldlM_induction (P := fun state => state.1.Reachable) (fun _ e _ hs he =>
    reachable_of_registration (.addConstraintType e.1) hs (fun _ => trivial) he) hs h

/-- What a document gives can be built by construction steps. -/
theorem reachable_of_toSchematic {d : Document} {c c' : Context}
    (h : d.toSchematic c = .ok (s, c')) : s.Reachable := by
  obtain ⟨types, htypes, h⟩ := Outcome.bind_eq_ok.1 h
  obtain ⟨nodes, hnodes, h⟩ := Outcome.bind_eq_ok.1 h
  obtain ⟨connections, hconnections, h⟩ := Outcome.bind_eq_ok.1 h
  obtain ⟨constraints, hconstraints, h⟩ := Outcome.bind_eq_ok.1 h
  cases h
  have hs : types.1.Reachable := reachable_of_declareTypes htypes
  have hs : nodes.Reachable :=
    Outcome.foldlM_induction (fun _ _ _ hs he => reachable_of_addNode hs he) hs hnodes
  have hs : connections.Reachable :=
    Outcome.foldlM_induction (fun _ _ _ hs he => reachable_of_addConnection hs he) hs hconnections
  exact Outcome.foldlM_induction (fun _ _ _ hs he => reachable_of_addConstraint hs he) hs
    hconstraints

end Reachable

end Netlister.Document
