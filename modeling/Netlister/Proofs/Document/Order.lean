import Netlister.Proofs.Document.Description
import Netlister.Proofs.Vhdl.Matching

/-! # The order of a document

  Most of a document are maps, and for most of them the order of the entries does not matter.
  It matters for nodes, connections and constraints, which keep their order in the schematic,
  and for attribute types, which may only mention those before them.

  - `Rearranged`: two documents that differ in the order of all other entries.
  - `Rearranged.describes`: they describe the same schematics.
  - `rearranged_agree`: either both give a schematic or none does, and what they give is the
    same for every purpose.
-/

namespace Netlister

namespace OrderedMap

variable {α β γ : Type}

/-- A rearrangement can be undone. -/
theorem Permuted.symm {R : α → β → Prop} {R' : β → α → Prop} {m : OrderedMap α} {m' : OrderedMap β}
    (h : m.Permuted R m') (hR : ∀ a b, R a b → R' b a) : m'.Permuted R' m := by
  obtain ⟨es, hperm, hes⟩ := h
  -- Rearranging first and relating then is relating first and rearranging then.
  obtain ⟨fs, hfs, hperm'⟩ := List.perm_comp_forall₂ hperm hes
  refine ⟨fs, hperm'.symm, List.Forall₂.flip (hfs.imp ?_)⟩
  rintro e f ⟨hname, hef⟩
  exact ⟨hname.symm, hR _ _ hef⟩

theorem Permuted.eq_symm {m m' : OrderedMap α} (h : m.Permuted Eq m') : m'.Permuted Eq m :=
  h.symm fun _ _ => Eq.symm

/-- Values that are read from a map are read from every rearrangement. -/
theorem Lists.of_permuted_eq {R : α → β → Prop} {m m' : OrderedMap α} {n : NameMap β}
    (h : m.Lists R n) (hm : m.Permuted Eq m') : m'.Lists R n := by
  refine h.of_permuted hm ?_
  rintro a c b rfl hab
  exact hab

theorem Alongside.symm {R : α → β → Prop} {R' : β → α → Prop} {m : OrderedMap α}
    {m' : OrderedMap β} (h : m.Alongside R m') (hR : ∀ a b, R a b → R' b a) : m'.Alongside R' m := by
  refine List.Forall₂.flip (List.Forall₂.imp ?_ h)
  rintro e f ⟨hname, hef⟩
  exact ⟨hname.symm, hR _ _ hef⟩

/-- What holds of the entries of a map one by one holds of those of a map alongside. -/
theorem Alongside.forall₂ {R : α → β → Prop} {P : String × α → γ → Prop}
    {P' : String × β → γ → Prop} {m : OrderedMap α} {m' : OrderedMap β} {xs : List γ}
    (h : m.Alongside R m') (hxs : List.Forall₂ P m.entries xs)
    (hP : ∀ name a b x, R a b → P (name, a) x → P' (name, b) x) :
    List.Forall₂ P' m'.entries xs := by
  unfold Alongside at h
  generalize m.entries = es at h hxs
  generalize m'.entries = fs at h
  induction h generalizing xs with
  | nil =>
    cases hxs
    exact .nil
  | @cons e f es fs hef _ ih =>
    obtain ⟨name, a⟩ := e
    obtain ⟨name', b⟩ := f
    obtain ⟨hname, hab⟩ := hef
    change name = name' at hname
    subst hname
    cases hxs with
    | cons hx hrest => exact .cons (hP name a b _ hab hx) (ih hrest)

end OrderedMap

namespace Document

/-! ### Rearranged documents -/

/-- Types with the same attributes, in any order. -/
def PlainType.Rearranged (t t' : PlainType) : Prop := t.attributes.Permuted Eq t'.attributes

/-- Types of nodes with the same attributes and ports, in any order. -/
structure NodeType.Rearranged (t t' : NodeType) : Prop where
  attributes : t.attributes.Permuted Eq t'.attributes
  ports : t.ports.Permuted Eq t'.ports

/-- Nodes with the same values, in any order. -/
structure Node.Rearranged (n n' : Node) : Prop where
  type : n'.type = n.type
  attributes : n.attributes.Permuted Eq n'.attributes
  portAttributes : n.portAttributes.Permuted (fun v v' => v.Permuted Eq v') n'.portAttributes

/-- Connections with the same ends and values, the values in any order. -/
structure Connection.Rearranged (c c' : Connection) : Prop where
  type : c'.type = c.type
  source : c'.source = c.source
  target : c'.target = c.target
  attributes : c.attributes.Permuted Eq c'.attributes

/-- Constraints with the same values, in any order. -/
structure Constraint.Rearranged (c c' : Constraint) : Prop where
  type : c'.type = c.type
  attributes : c.attributes.Permuted Eq c'.attributes

/-- Documents that differ in the order of entries only. Nodes, connections and constraints are
    in the same order. -/
structure Rearranged (d d' : Document) : Prop where
  name : d'.name = d.name
  userTypes : d.userTypes.Permuted Eq d'.userTypes
  portTypes : d.portTypes.Permuted PlainType.Rearranged d'.portTypes
  nodeTypes : d.nodeTypes.Permuted NodeType.Rearranged d'.nodeTypes
  connectionTypes : d.connectionTypes.Permuted PlainType.Rearranged d'.connectionTypes
  constraintTypes : d.constraintTypes.Permuted PlainType.Rearranged d'.constraintTypes
  nodes : d.nodes.Alongside Node.Rearranged d'.nodes
  connections : d.connections.Alongside Connection.Rearranged d'.connections
  constraints : d.constraints.Alongside Constraint.Rearranged d'.constraints

theorem PlainType.Rearranged.symm (t t' : PlainType) (h : t.Rearranged t') : t'.Rearranged t :=
  OrderedMap.Permuted.eq_symm h

theorem Rearranged.symm {d d' : Document} (h : Rearranged d d') : Rearranged d' d where
  name := h.name.symm
  userTypes := h.userTypes.eq_symm
  portTypes := h.portTypes.symm PlainType.Rearranged.symm
  nodeTypes := h.nodeTypes.symm fun _ _ ht => ⟨ht.attributes.eq_symm, ht.ports.eq_symm⟩
  connectionTypes := h.connectionTypes.symm PlainType.Rearranged.symm
  constraintTypes := h.constraintTypes.symm PlainType.Rearranged.symm
  nodes := h.nodes.symm fun _ _ hn => ⟨hn.type.symm, hn.attributes.eq_symm,
    hn.portAttributes.symm fun _ _ hv => hv.eq_symm⟩
  connections := h.connections.symm fun _ _ hc =>
    ⟨hc.type.symm, hc.source.symm, hc.target.symm, hc.attributes.eq_symm⟩
  constraints := h.constraints.symm fun _ _ hc => ⟨hc.type.symm, hc.attributes.eq_symm⟩

/-! ### They describe the same -/

section Describes

variable {s : Schematic}

theorem Declares.of_permuted {listed listed' : Attributes} {schema : Schema}
    (h : Declares s listed schema) (hlisted : listed.Permuted Eq listed') :
    Declares s listed' schema :=
  ⟨h.1.of_permuted_eq hlisted, h.2⟩

theorem Gives.of_permuted {values values' : Values} {schema : Schema}
    {attributes : Netlister.Attributes} (h : Gives s values schema attributes)
    (hvalues : values.Permuted Eq values') : Gives s values' schema attributes :=
  ⟨h.1.of_permuted_eq hvalues, h.2⟩

theorem DescribesTypes.of_rearranged {d d' : Document} (h : DescribesTypes d s)
    (hd : Rearranged d d') : DescribesTypes d' s where
  name := h.name.trans hd.name.symm
  userTypes := fun name => (h.userTypes name).trans (hd.userTypes.find?_eq name).symm
  grounded := h.grounded
  portTypes := h.portTypes.of_permuted hd.portTypes fun _ _ _ ht hdeclares =>
    hdeclares.of_permuted ht
  nodeTypes := h.nodeTypes.of_permuted hd.nodeTypes fun _ _ _ ht hdescribes =>
    ⟨hdescribes.1.of_permuted ht.attributes, hdescribes.2.of_permuted_eq ht.ports⟩
  connectionTypes := h.connectionTypes.of_permuted hd.connectionTypes fun _ _ _ ht hdeclares =>
    hdeclares.of_permuted ht
  constraintTypes := h.constraintTypes.of_permuted hd.constraintTypes fun _ _ _ ht hdeclares =>
    hdeclares.of_permuted ht
  portOnce := h.portOnce
  nodeOnce := h.nodeOnce
  connectionOnce := h.connectionOnce
  constraintOnce := h.constraintOnce

theorem DescribesNode.of_rearranged {name : String} {n n' : Node} {x : Netlister.Node}
    (h : DescribesNode s (name, n) x) (hn : n.Rearranged n') : DescribesNode s (name, n') x where
  name := h.name
  type := by
    show s.nodeTypes.find? n'.type = _
    rw [hn.type]
    exact h.type
  attributes := h.attributes.of_permuted hn.attributes
  given := by
    intro port values hvalues
    have hport := hn.portAttributes.rel_find? port
    rw [show n'.portAttributes.find? port = some values from hvalues] at hport
    cases hfound : n.portAttributes.find? port with
    | none => rw [hfound] at hport; cases hport
    | some found => exact h.given port found hfound
  ports := h.ports
  portAttributes := by
    intro p hp
    have hgives := h.portAttributes p hp
    have hport := hn.portAttributes.rel_find? p.name
    show Gives s ((n'.portAttributes.find? p.name).getD ∅) _ _
    change Gives s ((n.portAttributes.find? p.name).getD ∅) _ _ at hgives
    generalize n.portAttributes.find? p.name = found at hport hgives
    generalize n'.portAttributes.find? p.name = found' at hport
    cases hport with
    | none => exact hgives
    | some hvalues => exact hgives.of_permuted hvalues

theorem DescribesConnection.of_rearranged {name : String} {c c' : Connection}
    {x : Netlister.Connection} (h : DescribesConnection s (name, c) x) (hc : c.Rearranged c') :
    DescribesConnection s (name, c') x where
  name := h.name
  type := by
    show s.connectionTypes.find? c'.type = _
    rw [hc.type]
    exact h.type
  source := ⟨hc.source.trans h.source.1, h.source.2⟩
  target := ⟨hc.target.trans h.target.1, h.target.2⟩
  attributes := h.attributes.of_permuted hc.attributes

theorem DescribesConstraint.of_rearranged {name : String} {c c' : Constraint}
    {x : Netlister.Constraint} (h : DescribesConstraint s (name, c) x) (hc : c.Rearranged c') :
    DescribesConstraint s (name, c') x where
  name := h.name
  type := by
    show s.constraintTypes.find? c'.type = _
    rw [hc.type]
    exact h.type
  attributes := h.attributes.of_permuted hc.attributes

/-- Rearranged documents describe the same schematics. -/
theorem Describes.of_rearranged {d d' : Document} (h : Describes d s) (hd : Rearranged d d') :
    Describes d' s where
  types := h.types.of_rearranged hd
  nodes := hd.nodes.forall₂ h.nodes fun _ _ _ _ hn hx => hx.of_rearranged hn
  connections := hd.connections.forall₂ h.connections fun _ _ _ _ hc hx => hx.of_rearranged hc
  constraints := hd.constraints.forall₂ h.constraints fun _ _ _ _ hc hx => hx.of_rearranged hc

end Describes

/-! ### They give the same -/

/-- Everything that can be asked about a schematic: what is in it, its netlist, what the
    design rules find in that, and the entity generated from it. -/
structure Answers where
  dump : Schematic.Dump
  netlist : Except Netlist.Error Netlist.Report
  checks : Except Netlist.Error (List Check)
  entity : Except Netlist.Error (Except Vhdl.Error String)

/-- The answers to all questions about a schematic. -/
def answers (s : Schematic) : Answers where
  dump := s.dump
  netlist := (Netlist.build s).result.map fun n => n.report s
  checks := (Netlist.build s).result.map fun n => n.checks s
  entity := (Netlist.build s).result.map fun n => (Vhdl.generate s n).result

/-- Schematics that match give the same answers. -/
theorem answers_eq_of_matches {m : Matching} {s t : Schematic} (h : Schematic.Matches m s t)
    (hs : s.Settled) (hc : s.Consistent) : answers t = answers s := by
  unfold answers
  rw [h.dump_eq hs hc, Netlist.build_matches h hs hc]
  cases hn : (Netlist.build s).result with
  | error e => rfl
  | ok n =>
    simp only [Except.map, Netlist.report_matches h hs hc hn, Netlist.checks_matches h hs hc hn,
      Vhdl.result_generate_matches h hs hc hn]

/-- What rearranges a document that gives a schematic gives one with the same answers, as long
    as its attribute types are in order. -/
theorem Rearranged.exists_toSchematic {d d' : Document} (h : Rearranged d d') {c a : Context}
    {s : Schematic} (hs : d.toSchematic c = .ok (s, a)) (horder : d'.UserTypesInOrder)
    (c' : Context) : ∃ s' a', d'.toSchematic c' = .ok (s', a') ∧ answers s' = answers s := by
  have hdescribes : Describes d s := describes_of_toSchematic hs
  have hconsistent : s.Consistent := (reachable_of_toSchematic hs).consistent
  obtain ⟨s', a', hs', hmatches⟩ :=
    Document.exists_toSchematic (hdescribes.of_rearranged h) horder c'
  exact ⟨s', a', hs', answers_eq_of_matches hmatches hdescribes.settled hconsistent⟩

/-- The attribute types of a document that gives a schematic are in order. -/
theorem inOrder_of_toSchematic {d : Document} {c a : Context} {s : Schematic}
    (h : d.toSchematic c = .ok (s, a)) : d.UserTypesInOrder :=
  (typesDeclared_of_declareTypes (toSchematic_eq_ok.1 h).1).1.inOrder

/-- **Only the order of nodes, connections and constraints matters.** Of two documents that
    differ in the order of other entries, with the same attribute types in the same order,
    either both give a schematic or none does. Whenever both do, also if the order of attribute
    types differs, the schematics have the same contents, and the netlists, the design rules and
    the entities come out the same. It does not matter which contexts the types are declared in. -/
theorem rearranged_agree {d d' : Document} (h : Rearranged d d') (c c' : Context) :
    (d'.userTypes = d.userTypes →
      ((∃ r, d.toSchematic c = .ok r) ↔ ∃ r', d'.toSchematic c' = .ok r')) ∧
    ∀ s a s' a', d.toSchematic c = .ok (s, a) → d'.toSchematic c' = .ok (s', a') →
      answers s' = answers s := by
  constructor
  · intro hsame
    have horder : d'.UserTypesInOrder ↔ d.UserTypesInOrder := by
      unfold UserTypesInOrder userTypesOf
      rw [hsame]
    constructor
    · rintro ⟨⟨s, a⟩, hs⟩
      obtain ⟨s', a', hs', -⟩ :=
        h.exists_toSchematic hs (horder.2 (inOrder_of_toSchematic hs)) c'
      exact ⟨(s', a'), hs'⟩
    · rintro ⟨⟨s', a'⟩, hs'⟩
      obtain ⟨s, a, hs, -⟩ :=
        h.symm.exists_toSchematic hs' (horder.1 (inOrder_of_toSchematic hs')) c
      exact ⟨(s, a), hs⟩
  · intro s a s' a' hs hs'
    obtain ⟨t, b, ht, hanswers⟩ := h.exists_toSchematic hs (inOrder_of_toSchematic hs') c'
    rw [hs'] at ht
    cases ht
    exact hanswers

/-! ### A document written backwards -/

end Document

namespace OrderedMap

variable {α β : Type}

/-- The map with changed values. -/
def mapValues (f : α → β) (m : OrderedMap α) : OrderedMap β :=
  ⟨m.entries.map fun e => (e.1, f e.2), by
    rw [List.map_map]
    exact m.distinct⟩

/-- The map with its entries in the opposite order. -/
def backwards (m : OrderedMap α) : OrderedMap α :=
  ⟨m.entries.reverse, by
    rw [List.map_reverse, List.nodup_reverse]
    exact m.distinct⟩

theorem alongside_mapValues {R : α → β → Prop} {f : α → β} (hf : ∀ a, R a (f a))
    (m : OrderedMap α) : m.Alongside R (m.mapValues f) := by
  unfold Alongside mapValues
  rw [List.forall₂_map_right_iff, List.forall₂_same]
  exact fun e _ => ⟨rfl, hf e.2⟩

theorem permuted_backwards {R : α → β → Prop} {f : α → β} (hf : ∀ a, R a (f a))
    (m : OrderedMap α) : m.Permuted R (m.mapValues f).backwards := by
  refine ⟨m.entries.reverse, (List.reverse_perm _).symm, ?_⟩
  exact List.forall₂_reverse_iff.2 (alongside_mapValues hf m)

theorem permuted_refl (m : OrderedMap α) : m.Permuted Eq m :=
  ⟨m.entries, .refl _, List.forall₂_same.2 fun _ _ => ⟨rfl, rfl⟩⟩

theorem permuted_eq_backwards (m : OrderedMap α) : m.Permuted Eq m.backwards := by
  refine ⟨m.entries.reverse, (List.reverse_perm _).symm, ?_⟩
  exact List.forall₂_same.2 fun e _ => ⟨rfl, rfl⟩

end OrderedMap

namespace Document

/-- The type with its attributes written backwards. -/
def PlainType.backwards (t : PlainType) : PlainType := ⟨t.attributes.backwards⟩

/-- The type with its attributes and its ports written backwards. -/
def NodeType.backwards (t : NodeType) : NodeType := ⟨t.attributes.backwards, t.ports.backwards⟩

/-- The node with all its values written backwards. -/
def Node.backwards (n : Node) : Node :=
  ⟨n.type, n.attributes.backwards, (n.portAttributes.mapValues OrderedMap.backwards).backwards⟩

/-- The document with every map written backwards, but for the instances themselves and for the
    attribute types. -/
def backwards (d : Document) (userTypes : OrderedMap AttributeType) : Document where
  name := d.name
  userTypes := userTypes
  portTypes := (d.portTypes.mapValues PlainType.backwards).backwards
  nodeTypes := (d.nodeTypes.mapValues NodeType.backwards).backwards
  connectionTypes := (d.connectionTypes.mapValues PlainType.backwards).backwards
  constraintTypes := (d.constraintTypes.mapValues PlainType.backwards).backwards
  nodes := d.nodes.mapValues Node.backwards
  connections := d.connections.mapValues fun c => { c with attributes := c.attributes.backwards }
  constraints := d.constraints.mapValues fun c => { c with attributes := c.attributes.backwards }

theorem rearranged_backwards (d : Document) {userTypes : OrderedMap AttributeType}
    (h : d.userTypes.Permuted Eq userTypes) : Rearranged d (d.backwards userTypes) where
  name := rfl
  userTypes := h
  portTypes := d.portTypes.permuted_backwards fun t => t.attributes.permuted_eq_backwards
  nodeTypes := d.nodeTypes.permuted_backwards fun t =>
    ⟨t.attributes.permuted_eq_backwards, t.ports.permuted_eq_backwards⟩
  connectionTypes := d.connectionTypes.permuted_backwards fun t =>
    t.attributes.permuted_eq_backwards
  constraintTypes := d.constraintTypes.permuted_backwards fun t =>
    t.attributes.permuted_eq_backwards
  nodes := d.nodes.alongside_mapValues fun n =>
    ⟨rfl, n.attributes.permuted_eq_backwards,
      n.portAttributes.permuted_backwards fun v => v.permuted_eq_backwards⟩
  connections := d.connections.alongside_mapValues fun c =>
    ⟨rfl, rfl, rfl, c.attributes.permuted_eq_backwards⟩
  constraints := d.constraints.alongside_mapValues fun c =>
    ⟨rfl, c.attributes.permuted_eq_backwards⟩

/-- A wire from one pin to another, with a limit on its delay. Two types of attributes are
    declared, and most of what can have attributes has some. -/
def wired : Document where
  name := "wired"
  userTypes := .ofList [("Delay", .int), ("Labels", .array .string)]
  portTypes := .ofList
    [("digitalIn", { attributes := .ofList [("delay", .user "Delay"), ("load", .int)] }),
     ("digitalOut", {})]
  nodeTypes := .ofList
    [("inputPin", { ports := .ofList [("out", "digitalOut")] }),
     ("outputPin", { attributes := .ofList [("labels", .user "Labels"), ("inverted", .bool)]
                     ports := .ofList [("in", "digitalIn"), ("sense", "digitalIn")] }),
     ("register", {})]
  connectionTypes := .ofList [("digitalWire", {}), ("rail", {})]
  constraintTypes := .ofList
    [("limit", { attributes := .ofList [("delay", .user "Delay"), ("hard", .bool)] })]
  nodes := .ofList
    [("b", { type := "outputPin"
             attributes := .ofList [("labels", .array [.string "b", .string ""]),
               ("inverted", .bool false)]
             portAttributes := .ofList
               [("in", .ofList [("delay", .number (.int 3)), ("load", .number (.int 1))]),
                ("sense", .ofList [("load", .number (.int 0)), ("delay", .number (.int 9))])] }),
     ("a", { type := "inputPin" })]
  connections := .ofList
    [("w", { type := "digitalWire", source := "a:out", target := "b:in" }),
     ("v", { type := "digitalWire", source := "b:sense", target := "a:out" })]
  constraints := .ofList
    [("fast", { type := "limit"
                attributes := .ofList [("hard", .bool true), ("delay", .number (.int 20))] })]

/-- The code for the wire. -/
def wiredText : String :=
  "library IEEE;\nuse IEEE.std_logic_1164.all;\n\nentity \\wired\\ is\n    port (\n" ++
  "        a : in std_logic;\n        b : out std_logic\n    );\nend \\wired\\;\n\n" ++
  "architecture rtl of \\wired\\ is\n    signal \\n_w\\ : std_logic;\nbegin\n" ++
  "    \\n_w\\ <= a;\n    b <= \\n_w\\;\nend rtl;\n"

/-- The wire comes out the same when all is written backwards, in another context: with the
    attribute types as they were it must, and with these backwards too it does. There is one
    net either way, with the same code. -/
theorem rearranged_agree_wired :
    ((∃ r, wired.toSchematic {} = .ok r) ∧
      ∃ r', (wired.backwards wired.userTypes).toSchematic ⟨40⟩ = .ok r') ∧
    ∃ s a s' a', wired.toSchematic {} = .ok (s, a) ∧
      (wired.backwards wired.userTypes.backwards).toSchematic ⟨40⟩ = .ok (s', a') ∧
      answers s' = answers s ∧
      (answers s').dump.ports = [⟨"b", "in"⟩, ⟨"b", "sense"⟩, ⟨"a", "out"⟩] ∧
      (answers s').netlist.toOption.map (fun report => report.nets.map (·.1)) =
        some [⟨"w", [⟨"a", "out"⟩, ⟨"b", "in"⟩, ⟨"b", "sense"⟩]⟩] ∧
      (answers s').entity.toOption.bind (·.toOption) = some wiredText := by
  have hwired : ∃ r, wired.toSchematic {} = .ok r := Outcome.exists_ok (by decide +kernel)
  have hbackwards : ∃ r', (wired.backwards wired.userTypes.backwards).toSchematic ⟨40⟩ = .ok r' :=
    Outcome.exists_ok (by decide +kernel)
  constructor
  · have hsame := (rearranged_agree (rearranged_backwards wired wired.userTypes.permuted_refl)
      {} ⟨40⟩).1 rfl
    exact ⟨hwired, hsame.1 hwired⟩
  · obtain ⟨⟨s, a⟩, hs⟩ := hwired
    obtain ⟨⟨s', a'⟩, hs'⟩ := hbackwards
    have hanswers := (rearranged_agree
      (rearranged_backwards wired wired.userTypes.permuted_eq_backwards) {} ⟨40⟩).2 s a s' a' hs hs'
    -- What the answers are is found out from the document as it is written.
    have hvalues : (wired.toSchematic {}).toOption.map (fun r => ((answers r.1).dump.ports,
        (answers r.1).netlist.toOption.map (fun report => report.nets.map (·.1)),
        (answers r.1).entity.toOption.bind (·.toOption))) =
          some ([⟨"b", "in"⟩, ⟨"b", "sense"⟩, ⟨"a", "out"⟩],
            some [⟨"w", [⟨"a", "out"⟩, ⟨"b", "in"⟩, ⟨"b", "sense"⟩]⟩], some wiredText) := by
      decide +kernel
    rw [hs] at hvalues
    obtain ⟨hports, hvalues⟩ := Prod.mk.inj (Option.some.inj hvalues)
    obtain ⟨hnets, hentity⟩ := Prod.mk.inj hvalues
    refine ⟨s, a, s', a', hs, hs', hanswers, ?_⟩
    rw [hanswers]
    exact ⟨hports, hnets, hentity⟩

end Document

end Netlister
