import Netlister.Proofs.Vhdl.BasicIdentifier
import Netlister.Proofs.Vhdl.Generation
import Netlister.Proofs.Vhdl.Unescape
import Netlister.Proofs.Vhdl.WellFormed

/-! # What names in an entity denote

  The text of an entity uses three names that it does not declare: the type of its ports
  and signals, and the two functions that ask for an edge. They are declared in a package,
  and are seen in the entity as long as it declares nothing under the same key itself.

  - `key_portName_eq_iff`: the port of a pin has the key of a basic identifier iff the pin
    is called so, in some case of letters. Escaped names never have such a key.
  - `Parts.Of.declaration?_eq`: so signals and labels hide nothing, and a name of the
    package is hidden by the port of a pin that is called so. Nothing keeps a pin from it.
-/

namespace Netlister.Vhdl

open Outcome

namespace Identifier

/-! ### Keys -/

/-- Basic identifiers are compared without regard to case. -/
theorem key_of_isBasic {name : String} (h : isBasic name = true) : key name = lower name := by
  rw [key, if_neg (not_isDelimited_of_isBasic h)]

/-- Escaped names are compared exactly. -/
theorem key_escape (name : String) : key (escape name) = escape name := by
  rw [key, if_pos (isDelimited_escape name)]

/-- No escaped name has the key of a basic identifier. -/
theorem key_escape_ne {name : String} (h : isBasic name = true) (x : String) :
    key (escape x) ≠ key name := by
  rw [key_escape, key_of_isBasic h]
  intro heq
  rw [← isBasic_lower, ← heq] at h
  exact not_isDelimited_of_isBasic h (isDelimited_escape x)

/-- The port of a pin has the key of a basic identifier iff the pin is called so. -/
theorem key_portName_eq_iff {name : String} (h : isBasic name = true) (x : String) :
    key (portName x) = key name ↔ lower x = lower name := by
  unfold portName
  by_cases hx : isBasic x = true
  · rw [if_pos hx, key_of_isBasic hx, key_of_isBasic h]
  · rw [if_neg hx]
    constructor
    · intro heq
      exact absurd heq (key_escape_ne h x)
    · -- A pin that is called so would have a basic identifier.
      intro heq
      rw [← isBasic_lower, heq, isBasic_lower] at hx
      exact absurd h hx

end Identifier

/-! ### Pins of a survey -/

namespace Parts

variable {c : Parts} {s : Schematic} {n : Netlist}

/-- The pins that become ports, each with its net. -/
def pins (c : Parts) : List (Node × Net) := c.survey.inputs ++ c.survey.outputs

/-- The pins that become ports are nodes of the schematic. -/
theorem Found.mem_nodes_of_mem_pins (h : c.Found s n) {e : Node × Net} (he : e ∈ c.pins) :
    e.1 ∈ s.nodes := by
  rcases List.mem_append.1 he with hinput | houtput
  · exact (h.place_of_input hinput).1
  · exact (h.place_of_output houtput).1

end Parts

/-! ### What a name denotes -/

/-- What a name in the text of an entity denotes: the declaration of the entity that has
    its key. Without one, the name denotes what is declared outside. -/
def Entity.declaration? (e : Entity) (name : String) : Option String :=
  e.declaredNames.find? fun declared => Identifier.key declared == Identifier.key name

/-- The names that the text of an entity takes from a package. -/
def packageNames : List String := ["std_logic", "rising_edge", "falling_edge"]

/-- The names of the package are basic identifiers in lower case. -/
theorem isBasic_packageName {name : String} (h : name ∈ packageNames) :
    Identifier.isBasic name = true ∧ Identifier.lower name = name := by
  simp only [packageNames, List.mem_cons, List.not_mem_nil, or_false] at h
  rcases h with rfl | rfl | rfl <;> decide

namespace Parts

variable {c : Parts} {s : Schematic} {n : Netlist} {name : String}

/-- No signal has the key of a basic identifier. -/
theorem Found.key_signal_ne (h : c.Found s n) (hname : Identifier.isBasic name = true)
    {signal : String} (hsignal : signal ∈ (c.entity s).signals.map (·.name)) :
    Identifier.key signal ≠ Identifier.key name := by
  have hnames : (c.entity s).signals.map (·.name) = _ := h.map_name_signals
  rw [hnames] at hsignal
  obtain ⟨net, -, rfl⟩ := List.mem_map.1 hsignal
  exact Identifier.key_escape_ne hname net.name

/-- No label has the key of a basic identifier. -/
theorem Of.key_label_ne (h : c.Of s n) (hname : Identifier.isBasic name = true)
    {label : String} (hlabel : label ∈ (c.entity s).statements.filterMap Concurrent.label?) :
    Identifier.key label ≠ Identifier.key name := by
  obtain ⟨statement, hstatement, hlabel⟩ := List.mem_filterMap.1 hlabel
  rcases h.mem_statements.1 hstatement with ⟨e, _, rfl⟩ | ⟨e, _, rfl⟩ | ⟨e, _, p, _, r, _, rfl⟩
  · cases hlabel
  · cases hlabel
  · cases hlabel
    exact Identifier.key_escape_ne hname _

/-- Among the ports of pins, a basic identifier denotes that of the first pin that is
    called so. -/
theorem find?_portName (hname : Identifier.isBasic name = true) (names : List String) :
    (names.map Identifier.portName).find?
        (fun declared => Identifier.key declared == Identifier.key name) =
      names.find? fun x => Identifier.lower x == Identifier.lower name := by
  induction names with
  | nil => rfl
  | cons x names ih =>
    rw [List.map_cons]
    by_cases hx : Identifier.lower x = Identifier.lower name
    · -- The pin is called so, and its name is a basic identifier too.
      have hbasic : Identifier.isBasic x = true := by
        rw [← Identifier.isBasic_lower, hx, Identifier.isBasic_lower]
        exact hname
      have hport : Identifier.portName x = x := if_pos hbasic
      have hkey := (Identifier.key_portName_eq_iff hname x).2 hx
      rw [List.find?_cons_of_pos (by simpa using hkey), List.find?_cons_of_pos (by simpa using hx),
        hport]
    · have hkey := mt (Identifier.key_portName_eq_iff hname x).1 hx
      rw [List.find?_cons_of_neg (by simpa using hkey), List.find?_cons_of_neg (by simpa using hx),
        ih]

/-- In a compiled entity a basic identifier denotes the port of the first pin that is
    called so. -/
theorem Of.declaration?_eq (h : c.Of s n) (hname : Identifier.isBasic name = true) :
    (c.entity s).declaration? name =
      (c.pins.map (·.1.name)).find? fun x => Identifier.lower x == Identifier.lower name := by
  have hports : (c.entity s).ports.map (·.name) =
      (c.pins.map (·.1.name)).map Identifier.portName := by
    rw [c.map_name_ports s, pins, List.map_map, List.map_append]
    rfl
  have hsignals : ((c.entity s).signals.map (·.name)).find?
      (fun declared => Identifier.key declared == Identifier.key name) = none := by
    rw [List.find?_eq_none]
    intro signal hsignal
    simpa using h.key_signal_ne hname hsignal
  have hlabels : ((c.entity s).statements.filterMap Concurrent.label?).find?
      (fun declared => Identifier.key declared == Identifier.key name) = none := by
    rw [List.find?_eq_none]
    intro label hlabel
    simpa using h.key_label_ne hname hlabel
  unfold Entity.declaration? Entity.declaredNames
  rw [List.find?_append, List.find?_append, hsignals, hlabels, hports, find?_portName hname,
    Option.or_none, Option.or_none]

end Parts

/-- Signals and labels never hide a name of the package. Ports do: the name denotes the
    first pin that is called so in any case of letters, and the package only if there is
    none. -/
theorem package_names_hidden_by_pins {s : Schematic} {n : Netlist} {text : String}
    (h : (generate s n).result = .ok text) :
    ∃ e, (compile s n).result = .ok e ∧ e.render = .ok text ∧ ∀ name ∈ packageNames,
      (∀ signal ∈ e.signals, Identifier.key signal.name ≠ Identifier.key name) ∧
      (∀ label ∈ e.statements.filterMap Concurrent.label?,
        Identifier.key label ≠ Identifier.key name) ∧
      (∀ declared, e.declaration? name = some declared →
        Identifier.lower declared = name ∧ ∃ pin ∈ s.nodes, pin.name = declared) ∧
      ∀ d, s.Reachable → s.Speaks d → (Netlist.build s).result = .ok n →
        e.declaration? name =
          ((s.wired n d.inputPin "out" ++ s.wired n d.outputPin "in").map (·.1.name)).find?
            fun pin => Identifier.lower pin == name := by
  obtain ⟨e, he, hrender⟩ := exists_render_of_generate h
  obtain ⟨c, hc, rfl⟩ := compile_eq_ok.1 he
  refine ⟨_, he, hrender, ?_⟩
  intro name hmem
  obtain ⟨hname, hlower⟩ := isBasic_packageName hmem
  have hdenotes := hc.declaration?_eq hname
  rw [hlower] at hdenotes
  refine ⟨?_, fun label hlabel => hc.key_label_ne hname hlabel, ?_, ?_⟩
  · intro signal hsignal
    exact hc.key_signal_ne hname (List.mem_map.2 ⟨signal, hsignal, rfl⟩)
  · -- What the name denotes was found among the names of pins.
    intro declared hdeclared
    rw [hdenotes] at hdeclared
    obtain ⟨pin, hpin, hcalled⟩ := List.mem_map.1 (List.mem_of_find?_eq_some hdeclared)
    have hcase := List.find?_some hdeclared
    exact ⟨by simpa using hcase, pin.1, hc.mem_nodes_of_mem_pins hpin, hcalled⟩
  · -- The pins that become ports are those of the circuit, none of them left out.
    intro d hs hd hn
    have hcircuit : Circuit s d n := ⟨hs.consistent, hd, hn⟩
    rw [hdenotes, Parts.pins, hc.inputs_eq hcircuit, hc.outputs_eq hcircuit]

/-! ### Pins that hide the package

  A register between pins, of which two are called like names of the package. -/

/-- The steps that build the circuit. -/
def maskedSteps : List Schematic.Operation :=
  let d := DigitalTypes.numbered 0
  d.operations ++
    [.addNode "std_logic" d.inputPin [] [], .addNode "Rising_Edge" d.inputPin [] [],
     .addNode "rst" d.inputPin [] [], .addNode "q" d.outputPin [] [],
     .addNode "r" d.register (RegisterParams.toAttributes ⟨false, true, false, true⟩) [],
     .addConnection "w0" d.wire ⟨"std_logic", "out"⟩ ⟨"r", "in"⟩ [],
     .addConnection "w1" d.wire ⟨"Rising_Edge", "out"⟩ ⟨"r", "clock"⟩ [],
     .addConnection "w2" d.wire ⟨"rst", "out"⟩ ⟨"r", "reset"⟩ [],
     .addConnection "w3" d.wire ⟨"r", "out"⟩ ⟨"q", "in"⟩ []]

/-- The circuit. -/
def masked : Schematic := maskedSteps.foldl Schematic.perform { name := "masked" }

/-- The netlist of the circuit. -/
def maskedNetlist : Netlist where
  inPort := (DigitalTypes.numbered 0).inPort
  outPort := (DigitalTypes.numbered 0).outPort
  nets := [⟨"w0", [⟨"std_logic", "out"⟩, ⟨"r", "in"⟩]⟩,
    ⟨"w1", [⟨"Rising_Edge", "out"⟩, ⟨"r", "clock"⟩]⟩,
    ⟨"w2", [⟨"rst", "out"⟩, ⟨"r", "reset"⟩]⟩, ⟨"w3", [⟨"r", "out"⟩, ⟨"q", "in"⟩]⟩]

theorem reachable_masked : masked.Reachable :=
  (Schematic.Reachable.new _).foldl (by decide +kernel)

theorem speaks_masked : masked.Speaks (DigitalTypes.numbered 0) :=
  Schematic.speaks_foldl_operations _ _

theorem build_masked : (Netlist.build masked).result = .ok maskedNetlist := by decide +kernel

/-- The entity of the circuit. -/
def maskedEntity : Entity where
  name := "\\masked\\"
  ports := [⟨"std_logic", .input⟩, ⟨"Rising_Edge", .input⟩, ⟨"rst", .input⟩, ⟨"q", .output⟩]
  signals := [⟨"\\n_w0\\", none⟩, ⟨"\\n_w1\\", none⟩, ⟨"\\n_w2\\", none⟩,
    ⟨"\\n_w3\\", some false⟩]
  statements :=
    [.assign "\\n_w0\\" "std_logic", .assign "\\n_w1\\" "Rising_Edge", .assign "\\n_w2\\" "rst",
     .assign "q" "\\n_w3\\",
     .process "\\register_r\\" ["\\n_w1\\", "\\n_w2\\", "\\n_w0\\"]
      [registerBody ⟨false, true, false, true⟩ "\\n_w3\\" "\\n_w0\\" "\\n_w1\\" "\\n_w2\\"]]

theorem compile_masked : (compile masked maskedNetlist).result = .ok maskedEntity := by rfl

theorem exists_text_masked : ∃ text, (generate masked maskedNetlist).result = .ok text :=
  exists_ok (by decide +kernel)

/-- The circuit has code, in which the type of the ports is hidden by the first of them, and
    the function that asks for the edge of the clock by the second. -/
theorem masked_hides_package_names :
    (∃ text, (generate masked maskedNetlist).result = .ok text) ∧
      (compile masked maskedNetlist).result = .ok maskedEntity ∧
      maskedEntity.ports.map Port.text =
        ["std_logic : in std_logic", "Rising_Edge : in std_logic", "rst : in std_logic",
         "q : out std_logic"] ∧
      packageNames.map maskedEntity.declaration? =
        [some "std_logic", some "Rising_Edge", none] :=
  ⟨exists_text_masked, compile_masked, by decide +kernel, by decide +kernel⟩

/-- What the names denote is read off the pins. -/
theorem package_names_hidden_by_pins_masked :
    masked.Reachable ∧ masked.Speaks (DigitalTypes.numbered 0) ∧
      (Netlist.build masked).result = .ok maskedNetlist ∧
      (∃ text, (generate masked maskedNetlist).result = .ok text ∧
        maskedEntity.render = .ok text) ∧
      ∀ name ∈ packageNames, maskedEntity.declaration? name =
        ["std_logic", "Rising_Edge", "rst", "q"].find? fun pin => Identifier.lower pin == name := by
  obtain ⟨text, htext⟩ := exists_text_masked
  obtain ⟨e, he, hrender, hnames⟩ := package_names_hidden_by_pins htext
  have hentity : e = maskedEntity := Except.ok.inj (he.symm.trans compile_masked)
  subst hentity
  refine ⟨reachable_masked, speaks_masked, build_masked, ⟨text, htext, hrender⟩, ?_⟩
  intro name hname
  exact (hnames name hname).2.2.2 _ reachable_masked speaks_masked build_masked

end Netlister.Vhdl
