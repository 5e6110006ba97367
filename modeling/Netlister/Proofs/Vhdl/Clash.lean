import Netlister.Proofs.Netlist.Representation
import Netlister.Proofs.Vhdl.Denotation

/-! # When two names clash

  An entity declares its ports, its signals and the labels of its processes in one region,
  where no two of them may have one key. Ports are named for pins, signals for nets and
  labels for registers.

  - `Identifier.key_portName_eq_key_portName_iff`: ports of two pins clash if their names
    are basic identifiers that differ in case only, or if one is the escaped form of the other.
  - `Identifier.Begins.key_eq_iff`: escaped names with a common beginning that is no backslash
    are told apart by the rest.
  - `Parts.Found.nodup_inner_keys`: so signals and labels never clash with each other, and
    where a compilation finds a clash, one of the two is the port of a pin.
-/

namespace Netlister.Vhdl

open Outcome

namespace Identifier

/-! ### Ports of pins -/

/-- Which names of pins give ports with one key. -/
theorem key_portName_eq_key_portName_iff (x y : String) :
    key (portName x) = key (portName y) ↔
      x = y ∨ (isBasic x = true ∧ isBasic y = true ∧ lower x = lower y) ∨
        (isBasic x = false ∧ isBasic y = false ∧ (x = escape y ∨ y = escape x)) := by
  by_cases hy : isBasic y = true
  · have hport : portName y = y := if_pos hy
    rw [hport, key_portName_eq_iff hy]
    constructor
    · intro h
      have hx : isBasic x = true := by
        rw [← isBasic_lower, h, isBasic_lower]
        exact hy
      exact .inr (.inl ⟨hx, hy, h⟩)
    · intro h
      rcases h with h | ⟨-, -, h⟩ | ⟨-, hnot, -⟩
      · rw [h]
      · exact h
      · rw [hy] at hnot
        cases hnot
  · have hport : portName y = escape y := if_neg hy
    by_cases hx : isBasic x = true
    · -- The port of one pin is a basic identifier, that of the other is escaped.
      have hportx : portName x = x := if_pos hx
      rw [hport, hportx]
      constructor
      · intro h
        exact absurd h.symm (key_escape_ne hx y)
      · intro h
        rcases h with h | ⟨-, hbasic, -⟩ | ⟨hnot, -, -⟩
        · exact absurd (h ▸ hx) hy
        · exact absurd hbasic hy
        · rw [hx] at hnot
          cases hnot
    · have hportx : portName x = escape x := if_neg hx
      rw [hport, hportx, key_escape, key_escape, escape_eq_escape_iff]
      simp [hx, hy]

/-! ### Names with a fixed beginning -/

/-- The text begins with a character that is no backslash. -/
structure Begins (stem : String) (first : Char) : Prop where
  head : stem.toList.head? = some first
  plain : first ≠ '\\'

section Begins

variable {stem other : String} {first second : Char}

theorem Begins.exists_rest (h : Begins stem first) (name : String) :
    ∃ rest, (stem ++ name).toList = first :: rest := by
  obtain ⟨rest, hrest⟩ := List.head?_eq_some_iff.1 h.head
  exact ⟨rest ++ name.toList, by rw [String.toList_append, hrest, List.cons_append]⟩

/-- A name with such a beginning does not stand between backslashes. -/
theorem Begins.not_isDelimited (h : Begins stem first) (name : String) :
    isDelimited (stem ++ name).toList = false := by
  obtain ⟨rest, hrest⟩ := h.exists_rest name
  rw [Bool.eq_false_iff]
  intro hdelimited
  obtain ⟨inner, hinner⟩ := isDelimited_iff.1 hdelimited
  rw [hrest, List.cons_append, List.cons.injEq] at hinner
  exact h.plain hinner.1

/-- Escaped names with one beginning are told apart by the rest. -/
theorem Begins.key_eq_iff (h : Begins stem first) (a b : String) :
    key (escape (stem ++ a)) = key (escape (stem ++ b)) ↔ a = b := by
  rw [key_escape, key_escape]
  constructor
  · intro heq
    have happend := eq_of_escape_eq (h.not_isDelimited a) (h.not_isDelimited b) heq
    exact (String.append_right_inj _).1 happend
  · intro heq
    rw [heq]

/-- Escaped names with different beginnings are different. -/
theorem Begins.key_ne (h : Begins stem first) (h' : Begins other second) (hne : first ≠ second)
    (a b : String) : key (escape (stem ++ a)) ≠ key (escape (other ++ b)) := by
  rw [key_escape, key_escape]
  intro heq
  have happend := eq_of_escape_eq (h.not_isDelimited a) (h'.not_isDelimited b) heq
  obtain ⟨rest, hrest⟩ := h.exists_rest a
  obtain ⟨rest', hrest'⟩ := h'.exists_rest b
  rw [happend, hrest', List.cons.injEq] at hrest
  exact hne hrest.1.symm

end Begins

theorem begins_net : Begins "n_" 'n' := ⟨rfl, by decide⟩

theorem begins_register : Begins "register_" 'r' := ⟨rfl, by decide⟩

end Identifier

/-! ### What a compilation declares -/

/-- Signals are told apart by the wires that made their nets. -/
theorem key_netName_eq_iff {a b : Net} :
    Identifier.key (netName a) = Identifier.key (netName b) ↔ a.wire = b.wire :=
  Identifier.begins_net.key_eq_iff a.wire b.wire

/-- Labels are told apart by their registers. -/
theorem key_processName_eq_iff {a b : Node} :
    Identifier.key (processName a) = Identifier.key (processName b) ↔ a.name = b.name :=
  Identifier.begins_register.key_eq_iff a.name b.name

/-- A pin at which a wire ends, so that it becomes a port. -/
def IsWiredPin (s : Schematic) (pin : Node) : Prop :=
  pin ∈ s.nodes ∧
    (s.nodeTypes.find? Digital.inputPin = some pin.type ∧
        Netlist.IsEnd s.connections ⟨pin.name, "out"⟩ ∨
      s.nodeTypes.find? Digital.outputPin = some pin.type ∧
        Netlist.IsEnd s.connections ⟨pin.name, "in"⟩)

/-- The identifiers that are declared besides the port of a pin: those of the other pins, of
    nets and of registers. -/
inductive Rival (s : Schematic) (pin : Node) : String → Prop where
  | pin {other : Node} : IsWiredPin s other → other.name ≠ pin.name →
      Rival s pin (Identifier.portName other.name)
  | net {c : Connection} : c ∈ s.connections → Rival s pin (Identifier.escape ("n_" ++ c.name))
  | register {node : Node} : node ∈ s.nodes →
      s.nodeTypes.find? Digital.register = some node.type →
      Rival s pin (Identifier.escape ("register_" ++ node.name))

/-- Where names behind a list have different keys, the first of two names with one key is in
    the list. -/
theorem exists_of_repeatedName?_append {ports others : List String} {name : String}
    (hothers : (others.map Identifier.key).Nodup)
    (h : repeatedName? [] (ports ++ others) = some name) :
    ∃ x ∈ ports, Identifier.key x = Identifier.key name ∧
      (name ∈ others ∨ ∃ before after, ports = before ++ name :: after ∧ x ∈ before) := by
  obtain ⟨before, after, hsplit, hkey⟩ := exists_of_repeatedName? h
  obtain ⟨x, hx, hkey⟩ : ∃ x ∈ before, Identifier.key x = Identifier.key name := by
    simpa using hkey
  rcases List.append_eq_append_iff.1 hsplit with ⟨rest, hbefore, hrest⟩ | ⟨rest, hports, hrest⟩
  · -- The name is one of the others. Only a port before it can have its key.
    have hname : name ∈ others := by
      rw [hrest]
      simp
    rw [hbefore, List.mem_append] at hx
    rcases hx with hx | hx
    · exact ⟨x, hx, hkey, .inl hname⟩
    · rw [hrest, List.map_append, List.map_cons, List.nodup_append] at hothers
      exact absurd hkey (hothers.2.2 _ (List.mem_map_of_mem hx) _ List.mem_cons_self)
  · have hmem : x ∈ ports := by
      rw [hports]
      exact List.mem_append_left _ hx
    cases rest with
    | nil =>
      have hname : name ∈ others := by
        rw [← List.nil_append others, ← hrest]
        exact List.mem_cons_self
      exact ⟨x, hmem, hkey, .inl hname⟩
    | cons y rest =>
      obtain ⟨rfl, -⟩ := List.cons.inj hrest
      exact ⟨x, hmem, hkey, .inr ⟨before, rest, hports, hx⟩⟩

namespace Parts.Found

variable {c : Parts} {s : Schematic} {n : Netlist}

/-- No two pins that become ports have one name. -/
theorem nodup_names_pins (h : c.Found s n) (hs : s.Consistent) :
    (c.pins.map (·.1.name)).Nodup := by
  have hnames {pins : List (Node × Net)} (hsub : (pins.map (·.1)).Sublist s.nodes) :
      (pins.map (·.1.name)).Nodup := by
    have hnodup := (hsub.map (·.name)).nodup hs.nodeNames
    rwa [List.map_map] at hnodup
  have hinputs := h.sublist_nodes fun _ _ _ hplace hp => (pin_of_place hplace (.inl hp)).1
  have houtputs := h.sublist_nodes fun _ _ _ hplace hp => (pin_of_place hplace (.inr hp)).1
  unfold pins
  rw [List.map_append, List.nodup_append]
  refine ⟨hnames (((sublist_inputs_foldl_put c.places {}).map _).trans hinputs), hnames ?_, ?_⟩
  · rw [survey, (foldl_put_outputs_inner c.places {}).1]
    exact houtputs
  · -- A node has one place only, among the inputs or among the outputs.
    intro a ha b hb hab
    obtain ⟨e, he, rfl⟩ := List.mem_map.1 ha
    obtain ⟨e', he', rfl⟩ := List.mem_map.1 hb
    obtain ⟨hnode, hplace⟩ := h.place_of_input he
    obtain ⟨hnode', hplace'⟩ := h.place_of_output he'
    have hsame : e.1 = e'.1 := List.inj_on_of_nodup_map hs.nodeNames hnode hnode' hab
    rw [hsame, hplace'] at hplace
    cases hplace

/-- The pins that become ports are wired. -/
theorem isWiredPin (h : c.Found s n) (hr : n.Represents s.connections) {e : Node × Net}
    (he : e ∈ c.pins) : IsWiredPin s e.1 := by
  obtain ⟨hin, hout, -⟩ := kinds_eq_ok.1 h.kinds
  have hend {p : PortRef} {net : Net} (hnet : n.netOf? p = some net) :
      Netlist.IsEnd s.connections p :=
    hr.isSome_netOf?_iff.1 (Option.isSome_of_eq_some hnet)
  rcases List.mem_append.1 he with hinput | houtput
  · obtain ⟨hnode, hplace⟩ := h.place_of_input hinput
    rcases place_cases hplace with heq | ⟨net, -, htype, hnet⟩ | ⟨_, heq, -⟩ | ⟨_, heq, -⟩
    · cases heq
    · exact ⟨hnode, .inl ⟨htype ▸ hin, hend hnet⟩⟩
    · cases heq
    · cases heq
  · obtain ⟨hnode, hplace⟩ := h.place_of_output houtput
    rcases place_cases hplace with heq | ⟨_, heq, -⟩ | ⟨net, -, htype, hnet⟩ | ⟨_, heq, -⟩
    · cases heq
    · cases heq
    · exact ⟨hnode, .inr ⟨htype ▸ hout, hend hnet⟩⟩
    · cases heq

/-- Every signal is named for a connection. -/
theorem exists_connection (h : c.Found s n) (hr : n.Represents s.connections) {name : String}
    (hname : name ∈ (c.entity s).signals.map (·.name)) :
    ∃ d ∈ s.connections, name = Identifier.escape ("n_" ++ d.name) := by
  have hnames : (c.entity s).signals.map (·.name) = _ := h.map_name_signals
  rw [hnames] at hname
  obtain ⟨net, hnet, rfl⟩ := List.mem_map.1 hname
  obtain ⟨d, hd, hwire, -⟩ := hr.made net (mem_nets_of_signalNets h.places hnet)
  exact ⟨d, hd, by rw [hwire]; rfl⟩

/-- Every label is named for a register. -/
theorem exists_register (h : c.Found s n) {name : String}
    (hname : name ∈ (c.entity s).statements.filterMap Concurrent.label?) :
    ∃ node ∈ s.nodes, s.nodeTypes.find? Digital.register = some node.type ∧
      name = Identifier.escape ("register_" ++ node.name) := by
  rw [h.labels_eq_map] at hname
  obtain ⟨_, hmem, rfl⟩ := List.mem_map.1 hname
  obtain ⟨e, he, hnet⟩ := List.mem_filterMap.1 hmem
  obtain ⟨net, -, rfl⟩ := Option.map_eq_some_iff.1 hnet
  -- All inner nodes have processes, and so are registers.
  obtain ⟨processes, hprocesses⟩ := exists_mapM.1 ⟨_, h.processes⟩ e he
  obtain ⟨params, hregister, -⟩ := processesOf_eq_ok.1 hprocesses
  obtain ⟨hnode, hclassify⟩ := h.classify_of_inner he
  rw [hregister] at hclassify
  have htype : e.1.type = c.kinds.register := type_of_classify hclassify rfl
  exact ⟨e.1, hnode, htype ▸ (kinds_eq_ok.1 h.kinds).2.2, rfl⟩

theorem nodup_keys_signals (h : c.Found s n) (hr : n.Represents s.connections) :
    (((c.entity s).signals.map (·.name)).map Identifier.key).Nodup := by
  have hnames : (c.entity s).signals.map (·.name) = _ := h.map_name_signals
  rw [hnames, List.map_map]
  refine List.Nodup.map_on ?_ (nodup_foldl_addNet List.nodup_nil)
  intro a ha b hb hab
  rw [Function.comp_apply, Function.comp_apply] at hab
  exact hr.eq_of_wire_eq (mem_nets_of_signalNets h.places ha) (mem_nets_of_signalNets h.places hb)
    (key_netName_eq_iff.1 hab)

theorem nodup_keys_labels (h : c.Found s n) (hs : s.Consistent) :
    (((c.entity s).statements.filterMap Concurrent.label?).map Identifier.key).Nodup := by
  have hinner : (c.survey.inner.map (·.1)).Sublist s.nodes := by
    rw [survey, (foldl_put_outputs_inner c.places {}).2, List.nil_append]
    exact h.sublist_nodes fun _ _ _ hplace hp => (inner_of_place hplace hp).1
  have hwired (inner : List (Node × Primitive)) :
      ((inner.filterMap fun e => (n.netOf? ⟨e.1.name, "out"⟩).map (e.1, ·)).map
        (·.1)).Sublist (inner.map (·.1)) := by
    induction inner with
    | nil => exact List.Sublist.refl []
    | cons e inner ih =>
      cases hnet : n.netOf? ⟨e.1.name, "out"⟩ with
      | none => simpa [hnet] using ih.cons e.1
      | some net => simpa [hnet] using ih
  have hnames := (((hwired _).trans hinner).map (·.name)).nodup hs.nodeNames
  rw [List.map_map] at hnames
  rw [h.labels_eq_map, List.map_map]
  refine List.Nodup.map_on ?_ (List.Nodup.of_map _ hnames)
  intro a ha b hb hab
  rw [Function.comp_apply, Function.comp_apply] at hab
  exact List.inj_on_of_nodup_map hnames ha hb (key_processName_eq_iff.1 hab)

/-- Signals and labels do not clash. -/
theorem nodup_inner_keys (h : c.Found s n) (hs : s.Consistent)
    (hr : n.Represents s.connections) :
    (((c.entity s).signals.map (·.name) ++
      (c.entity s).statements.filterMap Concurrent.label?).map Identifier.key).Nodup := by
  rw [List.map_append, List.nodup_append]
  refine ⟨h.nodup_keys_signals hr, h.nodup_keys_labels hs, ?_⟩
  intro a ha b hb hab
  obtain ⟨signal, hsignal, rfl⟩ := List.mem_map.1 ha
  obtain ⟨label, hlabel, rfl⟩ := List.mem_map.1 hb
  obtain ⟨d, -, rfl⟩ := h.exists_connection hr hsignal
  obtain ⟨node, -, -, rfl⟩ := h.exists_register hlabel
  exact Identifier.begins_net.key_ne Identifier.begins_register (by decide) _ _ hab

/-- A name that is repeated clashes with the port of a pin. -/
theorem exists_rival (h : c.Found s n) (hs : s.Consistent) (hr : n.Represents s.connections)
    {name : String} (hname : repeatedName? [] (c.entity s).declaredNames = some name) :
    ∃ pin, IsWiredPin s pin ∧
      Identifier.key (Identifier.portName pin.name) = Identifier.key name ∧
      Rival s pin name := by
  have hports : (c.entity s).ports.map (·.name) =
      c.pins.map fun e => Identifier.portName e.1.name := by
    rw [c.map_name_ports s, pins, List.map_append]
  unfold Entity.declaredNames at hname
  rw [List.append_assoc, hports] at hname
  obtain ⟨x, hx, hkey, hcases⟩ := exists_of_repeatedName?_append (h.nodup_inner_keys hs hr) hname
  rcases hcases with hother | ⟨before, after, hsplit, hbefore⟩
  · obtain ⟨e, he, rfl⟩ := List.mem_map.1 hx
    refine ⟨e.1, h.isWiredPin hr he, hkey, ?_⟩
    rcases List.mem_append.1 hother with hsignal | hlabel
    · obtain ⟨d, hd, rfl⟩ := h.exists_connection hr hsignal
      exact .net hd
    · obtain ⟨node, hnode, hregister, rfl⟩ := h.exists_register hlabel
      exact .register hnode hregister
  · -- Both are ports, and of different pins.
    obtain ⟨first, rest, hpins, rfl, hrest⟩ := List.map_eq_append_iff.1 hsplit
    obtain ⟨other, last, rfl, rfl, -⟩ := List.map_eq_cons_iff.1 hrest
    obtain ⟨e, he, rfl⟩ := List.mem_map.1 hbefore
    have hpin : e ∈ c.pins := hpins ▸ List.mem_append_left _ he
    have hother : other ∈ c.pins := hpins ▸ List.mem_append_right _ List.mem_cons_self
    have hnodup := h.nodup_names_pins hs
    rw [hpins, List.map_append, List.map_cons, List.nodup_append] at hnodup
    have hne : e.1.name ≠ other.1.name :=
      hnodup.2.2 _ (List.mem_map_of_mem he) _ List.mem_cons_self
    exact ⟨e.1, h.isWiredPin hr hpin, hkey, .pin (h.isWiredPin hr hother) hne.symm⟩

end Parts.Found

/-- **Names clash only with the ports of pins.** Ports of two pins have one key iff the pins
    have one name, or names that are basic identifiers and differ in case only, or names that
    are none and of which one is the escaped form of the other. Signals are told apart by
    connections, labels by registers, and no signal is a label. So if a compilation finds a
    name to be repeated, then a pin has a port with the key of the name, and the name is that
    of another pin, of a net or of a register. -/
theorem duplicate_names_involve_pin :
    (∀ x y, Identifier.key (Identifier.portName x) = Identifier.key (Identifier.portName y) ↔
      x = y ∨
      (Identifier.isBasic x = true ∧ Identifier.isBasic y = true ∧
        Identifier.lower x = Identifier.lower y) ∨
      (Identifier.isBasic x = false ∧ Identifier.isBasic y = false ∧
        (x = Identifier.escape y ∨ y = Identifier.escape x))) ∧
    (∀ c d, Identifier.key (Identifier.escape ("n_" ++ c)) =
      Identifier.key (Identifier.escape ("n_" ++ d)) ↔ c = d) ∧
    (∀ r t, Identifier.key (Identifier.escape ("register_" ++ r)) =
      Identifier.key (Identifier.escape ("register_" ++ t)) ↔ r = t) ∧
    (∀ c r, Identifier.key (Identifier.escape ("n_" ++ c)) ≠
      Identifier.key (Identifier.escape ("register_" ++ r))) ∧
    ∀ s n name, s.Reachable → (Netlist.build s).result = .ok n →
      (compile s n).result = .error (.duplicateIdentifier name) →
      ∃ pin, IsWiredPin s pin ∧
        Identifier.key (Identifier.portName pin.name) = Identifier.key name ∧
        Rival s pin name := by
  refine ⟨Identifier.key_portName_eq_key_portName_iff, Identifier.begins_net.key_eq_iff,
    Identifier.begins_register.key_eq_iff,
    Identifier.begins_net.key_ne Identifier.begins_register (by decide), ?_⟩
  intro s n name hs hn h
  rcases compile_error_cases h with hnode | ⟨_, -, _, heq, -⟩ | ⟨c, _, hc, heq, hname⟩
  · exact False.elim hnode
  · cases heq
  · cases heq
    exact hc.exists_rival hs.consistent (Netlist.represents_of_build hs.consistent hn) hname

/-! A register whose inputs all come from one pin. The pin is called like the label of the
    register. -/

/-- The steps that construct the circuit. -/
def impostorSteps : List Schematic.Operation :=
  let d := DigitalTypes.numbered 0
  d.operations ++
    [.addNode "\\register_r\\" d.inputPin [] [], .addNode "q" d.outputPin [] [],
     .addNode "r" d.register (RegisterParams.toAttributes ⟨false, true, false, true⟩) [],
     .addConnection "w0" d.wire ⟨"\\register_r\\", "out"⟩ ⟨"r", "in"⟩ [],
     .addConnection "w1" d.wire ⟨"\\register_r\\", "out"⟩ ⟨"r", "clock"⟩ [],
     .addConnection "w2" d.wire ⟨"r", "reset"⟩ ⟨"\\register_r\\", "out"⟩ [],
     .addConnection "w3" d.wire ⟨"r", "out"⟩ ⟨"q", "in"⟩ []]

/-- The circuit. -/
def impostor : Schematic := impostorSteps.foldl Schematic.perform { name := "impostor" }

/-- The netlist of the circuit. -/
def impostorNetlist : Netlist where
  inPort := (DigitalTypes.numbered 0).inPort
  outPort := (DigitalTypes.numbered 0).outPort
  nets := [⟨"w0", [⟨"\\register_r\\", "out"⟩, ⟨"r", "in"⟩, ⟨"r", "clock"⟩, ⟨"r", "reset"⟩]⟩,
    ⟨"w3", [⟨"r", "out"⟩, ⟨"q", "in"⟩]⟩]

/-- The label is found to be repeated, because of the pin. -/
theorem duplicate_names_involve_pin_impostor :
    impostor.Reachable ∧ (Netlist.build impostor).result = .ok impostorNetlist ∧
    (compile impostor impostorNetlist).result =
      .error (.duplicateIdentifier "\\register_r\\") ∧
    ∃ pin, IsWiredPin impostor pin ∧
      Identifier.key (Identifier.portName pin.name) = "\\register_r\\" ∧
      Rival impostor pin "\\register_r\\" := by
  have hreach : impostor.Reachable := (Schematic.Reachable.new _).foldl (by decide +kernel)
  have hbuild : (Netlist.build impostor).result = .ok impostorNetlist := by decide +kernel
  have hcompile : (compile impostor impostorNetlist).result =
      .error (.duplicateIdentifier "\\register_r\\") := by rfl
  obtain ⟨-, -, -, -, hpin⟩ := duplicate_names_involve_pin
  exact ⟨hreach, hbuild, hcompile, hpin impostor impostorNetlist _ hreach hbuild hcompile⟩

end Netlister.Vhdl
