import Netlister.Proofs.Vhdl.Compilation

/-! # Compiling digital circuits

  What the parts of a compilation are for a schematic with the digital
  vocabulary:

  - `Circuit.place_eq`: every node has its place.
  - `Circuit.perm_signalNets`: every net becomes a signal, once.
  - `Circuit.exists_driver_iff`: a net has a driver iff exactly one port on it gives a bit.
  - `Circuit.exists_source`, `Circuit.nodup_sources`: where all nodes are known and
    all nets have drivers, a net has exactly one source, an input pin or a register.
  - `Parts.Found.known`, `Parts.Found.driven`, `Parts.Found.registerNets`: what a
    compilation that finds its parts shows of the circuit.
-/

namespace Netlister

/-- The nodes of a type whose port is on a net, each with this net. -/
def Schematic.wired (s : Schematic) (n : Netlist) (type : NodeType) (port : String) :
    List (Node × Net) :=
  s.nodes.filterMap fun node =>
    if node.type = type then (n.netOf? ⟨node.name, port⟩).map (node, ·) else none

namespace Vhdl

open Outcome

theorem mem_wired {s : Schematic} {n : Netlist} {type : NodeType} {port : String} {node : Node}
    {net : Net} :
    (node, net) ∈ s.wired n type port ↔
      node ∈ s.nodes ∧ node.type = type ∧ n.netOf? ⟨node.name, port⟩ = some net := by
  unfold Schematic.wired
  rw [List.mem_filterMap]
  constructor
  · intro ⟨other, hmem, h⟩
    split at h
    · next htype =>
      obtain ⟨_, hnet, heq⟩ := Option.map_eq_some_iff.1 h
      cases heq
      exact ⟨hmem, htype, hnet⟩
    · cases h
  · intro ⟨hmem, htype, hnet⟩
    refine ⟨node, hmem, ?_⟩
    rw [if_pos htype, hnet]
    rfl

theorem mem_nets_of_wired {s : Schematic} {n : Netlist} {type : NodeType} {port : String}
    {e : Node × Net} (h : e ∈ s.wired n type port) : e.2 ∈ n.nets :=
  (Netlist.mem_of_netOf? (mem_wired.1 h).2.2).1

/-! ### Circuits -/

/-- The netlist of a schematic with the digital vocabulary. -/
structure Circuit (s : Schematic) (d : DigitalTypes) (n : Netlist) : Prop where
  /-- The schematic is consistent. -/
  consistent : s.Consistent
  /-- It has the digital vocabulary. -/
  speaks : s.Speaks d
  /-- The netlist is that of the schematic. -/
  built : (Netlist.build s).result = .ok n

/-- The known node types of the vocabulary. -/
def kindsOf (d : DigitalTypes) : NodeKinds := ⟨d.inputPin, d.outputPin, d.register⟩

/-- A node is a pin or a register. -/
def Known (d : DigitalTypes) (node : Node) : Prop :=
  node.type = d.inputPin ∨ node.type = d.outputPin ∨ node.type = d.register

/-- What a node of a circuit is. -/
def primitiveOf (d : DigitalTypes) (node : Node) : Primitive :=
  if node.type = d.inputPin then .inputPin
  else if node.type = d.outputPin then .outputPin
  else if node.type = d.register then .register node.params
  else .unsupported

/-- The place of a node of a circuit. -/
def placeOf (d : DigitalTypes) (n : Netlist) (node : Node) : Place :=
  if node.type = d.inputPin then (n.netOf? ⟨node.name, "out"⟩).elim .nowhere (.input node)
  else if node.type = d.outputPin then (n.netOf? ⟨node.name, "in"⟩).elim .nowhere (.output node)
  else .inner node (primitiveOf d node)

namespace Circuit

variable {s : Schematic} {d : DigitalTypes} {n : Netlist}

theorem represents (h : Circuit s d n) : n.Represents s.connections :=
  Netlist.represents_of_build h.consistent h.built

theorem netOf?_eq_some_iff (h : Circuit s d n) {p : PortRef} {net : Net} :
    n.netOf? p = some net ↔ net ∈ n.nets ∧ p ∈ net.ports :=
  h.represents.netOf?_eq_some_iff

theorem kinds_eq (h : Circuit s d n) : NodeKinds.of s = .ok (kindsOf d) :=
  kinds_eq_ok.2 ⟨h.speaks.inputPin, h.speaks.outputPin, h.speaks.register⟩

/-- Every register has the behaviour that its attributes describe. -/
theorem params_eq (h : Circuit s d n) {node : Node} (hmem : node ∈ s.nodes)
    (hreg : node.type = d.register) :
    RegisterParams.ofAttributes node.attributes = .ok node.params := by
  obtain ⟨p, hp⟩ := h.speaks.params h.consistent hmem hreg
  unfold Node.params
  rw [hp]
  rfl

/-- Every node is classified. -/
theorem classify_eq (h : Circuit s d n) {node : Node} (hmem : node ∈ s.nodes) :
    (kindsOf d).classify node = .ok (primitiveOf d node) := by
  unfold NodeKinds.classify primitiveOf kindsOf
  by_cases hin : node.type = d.inputPin
  · rw [if_pos hin, if_pos hin]
    rfl
  rw [if_neg hin, if_neg hin]
  by_cases hout : node.type = d.outputPin
  · rw [if_pos hout, if_pos hout]
    rfl
  rw [if_neg hout, if_neg hout]
  by_cases hreg : node.type = d.register
  · rw [if_pos hreg, if_pos hreg, h.params_eq hmem hreg]
    rfl
  · rw [if_neg hreg, if_neg hreg]
    rfl

/-- A declared port of a node can be asked for its net. -/
theorem portNet_eq (h : Circuit s d n) {node : Node} (hmem : node ∈ s.nodes) {port : String}
    (hport : (node.type.ports.find? port).isSome) :
    portNet n node port = .ok (n.netOf? ⟨node.name, port⟩) := by
  rw [← (h.consistent.ports node hmem).map_port?, Option.isSome_map] at hport
  exact portNet_eq_ok.2 ⟨hport, rfl⟩

/-- Every node has its place. -/
theorem place_eq (h : Circuit s d n) {node : Node} (hmem : node ∈ s.nodes) :
    place (kindsOf d) n node = .ok (placeOf d n node) := by
  unfold place placeOf
  rw [h.classify_eq hmem, ok_bind]
  unfold primitiveOf
  by_cases hin : node.type = d.inputPin
  · have hport : (node.type.ports.find? "out").isSome := by
      rw [hin, h.speaks.standard.find?_inputPin]
      rfl
    rw [if_pos hin, if_pos hin]
    show (portNet n node "out" >>= _) = _
    rw [h.portNet_eq hmem hport]
    rfl
  rw [if_neg hin, if_neg hin]
  by_cases hout : node.type = d.outputPin
  · have hport : (node.type.ports.find? "in").isSome := by
      rw [hout, h.speaks.standard.find?_outputPin]
      rfl
    rw [if_pos hout, if_pos hout]
    show (portNet n node "in" >>= _) = _
    rw [h.portNet_eq hmem hport]
    rfl
  rw [if_neg hout, if_neg hout]
  by_cases hreg : node.type = d.register
  · rw [if_pos hreg]
    rfl
  · rw [if_neg hreg]
    rfl

end Circuit

/-! ### The survey of a circuit -/

/-- The survey of a circuit. -/
def surveyOf (s : Schematic) (d : DigitalTypes) (n : Netlist) : Survey :=
  (s.nodes.map (placeOf d n)).foldl Survey.put {}

theorem input?_placeOf (d : DigitalTypes) (n : Netlist) (node : Node) :
    (placeOf d n node).input? =
      if node.type = d.inputPin then (n.netOf? ⟨node.name, "out"⟩).map (node, ·) else none := by
  unfold placeOf
  split
  · cases n.netOf? ⟨node.name, "out"⟩ <;> rfl
  · split
    · cases n.netOf? ⟨node.name, "in"⟩ <;> rfl
    · rfl

theorem output?_placeOf {d : DigitalTypes} (hne : d.inputPin ≠ d.outputPin) (n : Netlist)
    (node : Node) :
    (placeOf d n node).output? =
      if node.type = d.outputPin then (n.netOf? ⟨node.name, "in"⟩).map (node, ·) else none := by
  unfold placeOf
  split
  · next hin =>
    rw [if_neg (fun hout => hne (hin.symm.trans hout))]
    cases n.netOf? ⟨node.name, "out"⟩ <;> rfl
  · split
    · cases n.netOf? ⟨node.name, "in"⟩ <;> rfl
    · rfl

theorem inner?_placeOf (d : DigitalTypes) (n : Netlist) (node : Node) :
    (placeOf d n node).inner? =
      if node.type = d.inputPin ∨ node.type = d.outputPin then none
      else some (node, primitiveOf d node) := by
  unfold placeOf
  split
  · next hin =>
    rw [if_pos (.inl hin)]
    cases n.netOf? ⟨node.name, "out"⟩ <;> rfl
  · next hin =>
    split
    · next hout =>
      rw [if_pos (.inr hout)]
      cases n.netOf? ⟨node.name, "in"⟩ <;> rfl
    · next hout =>
      rw [if_neg (not_or.2 ⟨hin, hout⟩)]
      rfl

section Survey

variable {s : Schematic} {d : DigitalTypes} {n : Netlist}

/-- The input pins on nets, as the survey meets them. -/
theorem filterMap_input? :
    (s.nodes.map (placeOf d n)).filterMap Place.input? = s.wired n d.inputPin "out" := by
  rw [List.filterMap_map]
  exact List.filterMap_congr fun node _ => input?_placeOf d n node

theorem outputs_surveyOf (hne : d.inputPin ≠ d.outputPin) :
    (surveyOf s d n).outputs = s.wired n d.outputPin "in" := by
  refine (foldl_put_outputs_inner _ _).1.trans ?_
  rw [List.nil_append, List.filterMap_map]
  exact List.filterMap_congr fun node _ => output?_placeOf hne n node

theorem inner_surveyOf :
    (surveyOf s d n).inner = s.nodes.filterMap fun node =>
      if node.type = d.inputPin ∨ node.type = d.outputPin then none
      else some (node, primitiveOf d node) := by
  refine (foldl_put_outputs_inner _ _).2.trans ?_
  rw [List.nil_append, List.filterMap_map]
  exact List.filterMap_congr fun node _ => inner?_placeOf d n node

/-- The inner nodes of a circuit are those that are no pins. -/
theorem mem_inner_surveyOf {e : Node × Primitive} :
    e ∈ (surveyOf s d n).inner ↔
      e.1 ∈ s.nodes ∧ ¬ (e.1.type = d.inputPin ∨ e.1.type = d.outputPin) ∧
        e.2 = primitiveOf d e.1 := by
  obtain ⟨node, primitive⟩ := e
  rw [inner_surveyOf, List.mem_filterMap]
  constructor
  · intro ⟨other, hmem, h⟩
    split at h
    · cases h
    · next hpin =>
      cases h
      exact ⟨hmem, hpin, rfl⟩
  · intro ⟨hmem, hpin, heq⟩
    refine ⟨node, hmem, ?_⟩
    rw [if_neg hpin]
    exact congrArg (fun q => some (node, q)) heq.symm

/-- A net has an input pin that is kept iff it has an input pin. -/
theorem mem_inputs_surveyOf {net : Net} :
    net ∈ (surveyOf s d n).inputs.map (·.2) ↔ net ∈ (s.wired n d.inputPin "out").map (·.2) := by
  refine (mem_inputs_foldl_put _ _ net).trans ?_
  rw [filterMap_input?]
  simp

/-- Where no two input pins share a net, all of them are kept. -/
theorem inputs_surveyOf (h : ((s.wired n d.inputPin "out").map (·.2)).Nodup) :
    (surveyOf s d n).inputs = s.wired n d.inputPin "out" := by
  refine (inputs_foldl_put ?_).trans ?_
  · rw [filterMap_input?]
    exact h
  · rw [filterMap_input?]
    rfl

end Survey

namespace Circuit

variable {s : Schematic} {d : DigitalTypes} {n : Netlist}

/-- Every port on a net is a declared port of a node. -/
theorem exists_node (h : Circuit s d n) {net : Net} (hnet : net ∈ n.nets) {p : PortRef}
    (hp : p ∈ net.ports) :
    ∃ node ∈ s.nodes, node.name = p.node ∧ (node.type.ports.find? p.port).isSome := by
  obtain ⟨port, hport⟩ := Netlist.exists_port_of_build h.consistent h.built hnet hp
  obtain ⟨node, hnode, hfind⟩ := Option.bind_eq_some_iff.1 hport
  obtain ⟨hmem, hname⟩ := (Schematic.node?_eq_some_iff h.consistent).1 hnode
  refine ⟨node, hmem, hname, ?_⟩
  rw [← (h.consistent.ports node hmem).map_port?, hfind]
  rfl

/-- Every net becomes a signal, and nothing else does. -/
theorem mem_signalNets (h : Circuit s d n) {net : Net} :
    net ∈ (surveyOf s d n).signalNets n ↔ net ∈ n.nets := by
  have hwired {type : NodeType} {port : String} (hmem : net ∈ (s.wired n type port).map (·.2)) :
      net ∈ n.nets := by
    obtain ⟨e, he, rfl⟩ := List.mem_map.1 hmem
    exact mem_nets_of_wired he
  rw [Vhdl.mem_signalNets, mem_inputs_surveyOf,
    outputs_surveyOf h.speaks.standard.inputPin_ne_outputPin]
  constructor
  · intro hcases
    rcases hcases with hin | ⟨_, _, p, _, hnet⟩ | hout
    · exact hwired hin
    · exact (Netlist.mem_of_netOf? hnet).1
    · exact hwired hout
  · -- The net has a port; the node with this port puts the net into the survey.
    intro hnet
    obtain ⟨p, hp⟩ := h.represents.exists_port hnet
    obtain ⟨node, hmem, hname, hport⟩ := h.exists_node hnet hp
    have hof : n.netOf? ⟨node.name, p.port⟩ = some net :=
      h.netOf?_eq_some_iff.2 ⟨hnet, by rw [hname]; exact hp⟩
    by_cases hin : node.type = d.inputPin
    · left
      rw [hin, h.speaks.standard.find?_inputPin] at hport
      have hout : p.port = "out" := by
        by_contra hne
        rw [if_neg hne] at hport
        cases hport
      rw [hout] at hof
      exact List.mem_map.2 ⟨(node, net), mem_wired.2 ⟨hmem, hin, hof⟩, rfl⟩
    by_cases hout : node.type = d.outputPin
    · right
      right
      rw [hout, h.speaks.standard.find?_outputPin] at hport
      have hinp : p.port = "in" := by
        by_contra hne
        rw [if_neg hne] at hport
        cases hport
      rw [hinp] at hof
      exact List.mem_map.2 ⟨(node, net), mem_wired.2 ⟨hmem, hout, hof⟩, rfl⟩
    right
    left
    refine ⟨(node, primitiveOf d node), mem_inner_surveyOf.2 ⟨hmem, not_or.2 ⟨hin, hout⟩, rfl⟩,
      ⟨node.name, p.port⟩, ?_, hof⟩
    rw [← (h.consistent.ports node hmem).map_port?, Option.isSome_map] at hport
    exact mem_portRefs hport

/-- The signals are the nets in some order, each once. -/
theorem perm_signalNets (h : Circuit s d n) : ((surveyOf s d n).signalNets n).Perm n.nets := by
  have hnodup : ((surveyOf s d n).signalNets n).Nodup := nodup_foldl_addNet List.nodup_nil
  exact (List.perm_ext_iff_of_nodup hnodup h.represents.nodup_nets).2 fun _ => h.mem_signalNets

/-! ### Drivers -/

/-- The driver of a net is the only port on it that gives a bit. -/
theorem driver_eq_ok {net : Net} {p : PortRef} :
    n.driver s net = .ok p ↔ n.drivers s net = [p] := by
  unfold Netlist.driver
  split
  · next q hq => simp [hq]
  · next hq => simp [hq]
  · next ps hone hnil =>
    constructor
    · intro herr
      cases herr
    · intro hp
      exact absurd hp (hone p)

/-- A net has a driver iff exactly one port on it gives a bit. -/
theorem exists_driver_iff (h : Circuit s d n) {net : Net} (hnet : net ∈ n.nets) :
    (∃ p, n.driver s net = .ok p) ↔
      ∃! p, p ∈ net.ports ∧ (s.port? p).map (·.type) = some d.outPort := by
  have hmem (p : PortRef) : p ∈ n.drivers s net ↔
      p ∈ net.ports ∧ (s.port? p).map (·.type) = some d.outPort := by
    unfold Netlist.drivers Netlist.isOutput
    rw [List.mem_filter, Netlist.outPort_of_build h.speaks h.built, decide_eq_true_iff]
  constructor
  · intro ⟨p, hp⟩
    rw [driver_eq_ok] at hp
    refine ⟨p, (hmem p).1 (by rw [hp]; exact List.mem_singleton_self p), ?_⟩
    intro q hq
    have hq' := (hmem q).2 hq
    rw [hp] at hq'
    exact List.mem_singleton.1 hq'
  · -- The drivers are listed without repetition, so a single one is the whole list.
    intro ⟨p, hp, honly⟩
    have hnodup : (n.drivers s net).Nodup := (h.represents.once net hnet).filter _
    have hperm : (n.drivers s net).Perm [p] := by
      refine (List.perm_ext_iff_of_nodup hnodup (List.nodup_singleton p)).2 fun q => ?_
      rw [hmem, List.mem_singleton]
      exact ⟨honly q, fun hq => hq ▸ hp⟩
    exact ⟨p, driver_eq_ok.2 (List.perm_singleton.1 hperm)⟩

/-- Whether a port of a node gives a bit is declared by the type of the node. -/
theorem isOutput_iff (h : Circuit s d n) {node : Node} (hmem : node ∈ s.nodes) {port : String} :
    n.isOutput s ⟨node.name, port⟩ = true ↔ node.type.ports.find? port = some d.outPort := by
  unfold Netlist.isOutput
  rw [Schematic.map_port?_eq h.consistent hmem, Netlist.outPort_of_build h.speaks h.built,
    decide_eq_true_iff]

/-- The bit that a net starts with is that of the register that drives it. -/
theorem initialValue_eq (h : Circuit s d n) {net : Net} {node : Node} {port : String}
    (hmem : node ∈ s.nodes) (hdriver : n.driver s net = .ok ⟨node.name, port⟩) :
    initialValue (kindsOf d) s n net =
      .ok (match primitiveOf d node with
        | .register p => some p.initialValue
        | _ => none) := by
  have hnode : s.node node.name = .ok node := by
    unfold Schematic.node
    rw [(Schematic.node?_eq_some_iff h.consistent).2 ⟨hmem, rfl⟩]
    rfl
  unfold initialValue
  rw [hdriver, lift_driver]
  show ((s.node node.name : Except Error Node) >>= _) = _
  rw [lift_schematic, hnode]
  show ((kindsOf d).classify node >>= _) = _
  rw [h.classify_eq hmem, ok_bind]
  cases primitiveOf d node <;> rfl

/-- A net has a signal iff it has a driver. -/
theorem exists_signal_iff (h : Circuit s d n) {net : Net} (hnet : net ∈ n.nets) :
    (∃ signal, signalOf (kindsOf d) s n net = .ok signal) ↔ ∃ p, n.driver s net = .ok p := by
  constructor
  · intro ⟨signal, hsignal⟩
    obtain ⟨value, hvalue, _⟩ := bind_eq_ok.1 hsignal
    obtain ⟨p, hp, _⟩ := bind_eq_ok.1 hvalue
    rw [lift_driver, mapError_eq_ok] at hp
    exact ⟨p, hp⟩
  · intro ⟨p, hp⟩
    have hdriver : p ∈ n.drivers s net := by
      rw [driver_eq_ok.1 hp]
      exact List.mem_singleton_self p
    obtain ⟨node, hmem, hname, _⟩ := h.exists_node hnet (List.mem_filter.1 hdriver).1
    have hof : n.driver s net = .ok ⟨node.name, p.port⟩ := by rw [hname]; exact hp
    exact ⟨_, bind_eq_ok.2 ⟨_, h.initialValue_eq hmem hof, rfl⟩⟩

end Circuit

/-! ### Sources

  An input pin or a register whose port `out` is on a net is a source of this net. -/

/-- The sources of nets, each with its net: input pins, then registers. -/
def sources (s : Schematic) (d : DigitalTypes) (n : Netlist) : List (Node × Net) :=
  s.wired n d.inputPin "out" ++ s.wired n d.register "out"

section Sources

variable {s : Schematic} {d : DigitalTypes} {n : Netlist}

theorem mem_sources {node : Node} {net : Net} :
    (node, net) ∈ sources s d n ↔
      node ∈ s.nodes ∧ (node.type = d.inputPin ∨ node.type = d.register) ∧
        n.netOf? ⟨node.name, "out"⟩ = some net := by
  unfold sources
  rw [List.mem_append, mem_wired, mem_wired]
  tauto

/-- The nodes of a type on nets are some of the nodes, in order. -/
theorem map_fst_wired (s : Schematic) (n : Netlist) (type : NodeType) (port : String) :
    (s.wired n type port).map (·.1) = s.nodes.filter fun node =>
      decide (node.type = type) && (n.netOf? ⟨node.name, port⟩).isSome := by
  unfold Schematic.wired
  induction s.nodes with
  | nil => rfl
  | cons node nodes ih =>
    rw [List.filterMap_cons, List.filter_cons, ← ih]
    by_cases htype : node.type = type
    · cases n.netOf? ⟨node.name, port⟩ <;> simp [htype]
    · simp [htype]

/-- No node is twice a source. -/
theorem nodup_map_fst_sources (h : Circuit s d n) : ((sources s d n).map (·.1)).Nodup := by
  have hnodes : s.nodes.Nodup := h.consistent.nodeNames.of_map
  unfold sources
  rw [List.map_append, map_fst_wired, map_fst_wired]
  refine List.nodup_append.2 ⟨hnodes.filter _, hnodes.filter _, ?_⟩
  intro a ha b hb hab
  -- The two parts are of different types.
  have htype : a.type = d.inputPin := by
    have := (List.mem_filter.1 ha).2
    simp_all
  have htype' : b.type = d.register := by
    have := (List.mem_filter.1 hb).2
    simp_all
  exact h.speaks.standard.inputPin_ne_register (by rw [← htype, ← htype', hab])

end Sources

namespace Circuit

variable {s : Schematic} {d : DigitalTypes} {n : Netlist}

/-- A source of a net with a driver is the node of the driver. -/
theorem driver_eq_of_source (h : Circuit s d n) {node : Node} {net : Net}
    (hsource : (node, net) ∈ sources s d n) {p : PortRef} (hp : n.driver s net = .ok p) :
    p = ⟨node.name, "out"⟩ := by
  obtain ⟨hmem, htype, hnet⟩ := mem_sources.1 hsource
  have hport : node.type.ports.find? "out" = some d.outPort := by
    rcases htype with hin | hreg
    · rw [hin, h.speaks.standard.find?_inputPin]
      rfl
    · rw [hreg, h.speaks.standard.find?_register]
      rfl
  have hdriver : (⟨node.name, "out"⟩ : PortRef) ∈ n.drivers s net :=
    List.mem_filter.2 ⟨(Netlist.mem_of_netOf? hnet).2, (h.isOutput_iff hmem).2 hport⟩
  rw [driver_eq_ok.1 hp] at hdriver
  exact (List.mem_singleton.1 hdriver).symm

/-- Where all nodes are known, a net with a driver has a source. -/
theorem exists_source (h : Circuit s d n) (hknown : ∀ node ∈ s.nodes, Known d node) {net : Net}
    (hnet : net ∈ n.nets) {p : PortRef} (hp : n.driver s net = .ok p) :
    ∃ node, (node, net) ∈ sources s d n := by
  have hdriver : p ∈ n.drivers s net := by
    rw [driver_eq_ok.1 hp]
    exact List.mem_singleton_self p
  obtain ⟨hport, hgives⟩ := List.mem_filter.1 hdriver
  obtain ⟨node, hmem, hname, _⟩ := h.exists_node hnet hport
  have hp' : p = ⟨node.name, p.port⟩ := by rw [hname]
  rw [hp'] at hgives hport
  -- Among known nodes, only input pins and registers give a bit, at the port `out`.
  obtain ⟨hout, htype⟩ :=
    h.speaks.cases_of_output (hknown node hmem) ((h.isOutput_iff hmem).1 hgives)
  rw [hout] at hport
  exact ⟨node, mem_sources.2 ⟨hmem, htype, h.netOf?_eq_some_iff.2 ⟨hnet, hport⟩⟩⟩

/-- Where all nets have drivers, no net has two sources. -/
theorem nodup_sources (h : Circuit s d n)
    (hdriven : ∀ net ∈ n.nets, ∃ p, n.driver s net = .ok p) :
    ((sources s d n).map (·.2)).Nodup := by
  refine List.Nodup.map_on ?_ (nodup_map_fst_sources h).of_map
  intro a ha b hb hab
  obtain ⟨node, net⟩ := a
  obtain ⟨node', net'⟩ := b
  cases hab
  -- Two sources of one net are both the node of its driver.
  obtain ⟨hmem, _, hnet⟩ := mem_sources.1 ha
  obtain ⟨p, hp⟩ := hdriven net (Netlist.mem_of_netOf? hnet).1
  have heq : (⟨node.name, "out"⟩ : PortRef) = ⟨node'.name, "out"⟩ :=
    (h.driver_eq_of_source ha hp).symm.trans (h.driver_eq_of_source hb hp)
  have hname : node.name = node'.name := congrArg PortRef.node heq
  have hnode : node = node' :=
    List.inj_on_of_nodup_map h.consistent.nodeNames hmem (mem_sources.1 hb).1 hname
  rw [hnode]

end Circuit

/-! ### Circuits that compile -/

/-- A register is no pin. -/
theorem not_pin_of_register {d : DigitalTypes} (hd : d.Standard) {node : Node}
    (hreg : node.type = d.register) : ¬ (node.type = d.inputPin ∨ node.type = d.outputPin) := by
  rw [hreg]
  exact not_or.2 ⟨hd.inputPin_ne_register.symm, hd.outputPin_ne_register.symm⟩

/-- A register node is a register. -/
theorem primitiveOf_register {d : DigitalTypes} (hd : d.Standard) {node : Node}
    (hreg : node.type = d.register) : primitiveOf d node = .register node.params := by
  unfold primitiveOf
  rw [hreg, if_neg hd.inputPin_ne_register.symm, if_neg hd.outputPin_ne_register.symm,
    if_pos rfl]

/-- Only register nodes are registers. -/
theorem register_of_primitiveOf {d : DigitalTypes} {node : Node} {p : RegisterParams}
    (h : primitiveOf d node = .register p) : node.type = d.register ∧ p = node.params := by
  unfold primitiveOf at h
  split at h
  · cases h
  · split at h
    · cases h
    · split at h
      · next hreg =>
        cases h
        exact ⟨hreg, rfl⟩
      · cases h

/-- Where all nodes are known, the inner nodes with an output are the registers
    with an output. -/
theorem filterMap_inner {s : Schematic} {d : DigitalTypes} {n : Netlist} (hd : d.Standard)
    (hknown : ∀ node ∈ s.nodes, Known d node) :
    ((surveyOf s d n).inner.filterMap fun e => (n.netOf? ⟨e.1.name, "out"⟩).map (e.1, ·)) =
      s.wired n d.register "out" := by
  rw [inner_surveyOf, List.filterMap_filterMap]
  refine List.filterMap_congr fun node hmem => ?_
  rcases hknown node hmem with hin | hout | hreg
  · rw [if_pos (.inl hin), hin, if_neg hd.inputPin_ne_register]
    rfl
  · rw [if_pos (.inr hout), hout, if_neg hd.outputPin_ne_register]
    rfl
  · rw [if_neg (not_pin_of_register hd hreg), if_pos hreg]
    rfl

namespace Parts.Found

variable {c : Parts} {s : Schematic} {d : DigitalTypes} {n : Netlist}

theorem kinds_eq (hc : c.Found s n) (h : Circuit s d n) : c.kinds = kindsOf d :=
  Except.ok.inj (hc.kinds.symm.trans h.kinds_eq)

theorem survey_eq (hc : c.Found s n) (h : Circuit s d n) : c.survey = surveyOf s d n := by
  have hplaces := hc.places
  rw [hc.kinds_eq h, mapM_eq_map fun node hmem => h.place_eq hmem] at hplaces
  unfold Parts.survey surveyOf
  rw [← Except.ok.inj hplaces]

/-- A node that is no pin has its processes. -/
theorem exists_processes (hc : c.Found s n) (h : Circuit s d n) {node : Node} (hmem : node ∈ s.nodes)
    (hpin : ¬ (node.type = d.inputPin ∨ node.type = d.outputPin)) :
    ∃ processes, processesOf n (node, primitiveOf d node) = .ok processes := by
  have hinner : (node, primitiveOf d node) ∈ c.survey.inner := by
    rw [hc.survey_eq h]
    exact mem_inner_surveyOf.2 ⟨hmem, hpin, rfl⟩
  exact exists_mapM.1 ⟨_, hc.processes⟩ _ hinner

/-- All nodes are pins or registers. -/
theorem known (hc : c.Found s n) (h : Circuit s d n) : ∀ node ∈ s.nodes, Known d node := by
  intro node hmem
  by_cases hpin : node.type = d.inputPin ∨ node.type = d.outputPin
  · rcases hpin with hin | hout
    · exact .inl hin
    · exact .inr (.inl hout)
  · obtain ⟨_, hok⟩ := hc.exists_processes h hmem hpin
    obtain ⟨p, hp, _⟩ := processesOf_eq_ok.1 hok
    exact .inr (.inr (register_of_primitiveOf hp).1)

/-- All nets have drivers. -/
theorem driven (hc : c.Found s n) (h : Circuit s d n) :
    ∀ net ∈ n.nets, ∃ p, n.driver s net = .ok p := by
  intro net hnet
  have hsignals := hc.signals
  rw [hc.kinds_eq h, hc.survey_eq h] at hsignals
  exact (h.exists_signal_iff hnet).1
    (exists_mapM.1 ⟨_, hsignals⟩ net (h.mem_signalNets.2 hnet))

/-- A register with an output has all its inputs. -/
theorem registerNets (hc : c.Found s n) (h : Circuit s d n) {node : Node} {net : Net}
    (hwired : (node, net) ∈ s.wired n d.register "out") :
    ∃ r : RegisterNets, r.Of n node ∧ r.output = net := by
  obtain ⟨hmem, hreg, hnet⟩ := mem_wired.1 hwired
  obtain ⟨_, hok⟩ := hc.exists_processes h hmem (not_pin_of_register h.speaks.standard hreg)
  obtain ⟨_, _, hcases⟩ := processesOf_eq_ok.1 hok
  rcases hcases with ⟨hnone, _⟩ | ⟨r, hr, _⟩
  · have := (portNet_eq_ok.1 hnone).2
    rw [hnet] at this
    cases this
  · have := (portNet_eq_ok.1 hr.output).2
    rw [hnet] at this
    cases this
    exact ⟨r, hr, rfl⟩

/-- All input pins on nets are kept. -/
theorem inputs_eq (hc : c.Found s n) (h : Circuit s d n) :
    c.survey.inputs = s.wired n d.inputPin "out" := by
  have hnodup := h.nodup_sources (hc.driven h)
  unfold sources at hnodup
  rw [List.map_append] at hnodup
  rw [hc.survey_eq h]
  exact inputs_surveyOf (List.nodup_append.1 hnodup).1

theorem outputs_eq (hc : c.Found s n) (h : Circuit s d n) :
    c.survey.outputs = s.wired n d.outputPin "in" := by
  rw [hc.survey_eq h]
  exact outputs_surveyOf h.speaks.standard.inputPin_ne_outputPin

theorem mem_signalNets_iff (hc : c.Found s n) (h : Circuit s d n) {net : Net} :
    net ∈ c.survey.signalNets n ↔ net ∈ n.nets := by
  rw [hc.survey_eq h]
  exact h.mem_signalNets

/-- The signals are named for the nets, each once. -/
theorem perm_signals (hc : c.Found s n) (h : Circuit s d n) :
    (c.signals.map (·.name)).Perm (n.nets.map netName) := by
  rw [hc.map_name_signals, hc.survey_eq h]
  exact h.perm_signalNets.map netName

/-- Every net has a source. -/
theorem exists_source (hc : c.Found s n) (h : Circuit s d n) {net : Net} (hnet : net ∈ n.nets) :
    ∃ node, (node, net) ∈ sources s d n := by
  obtain ⟨p, hp⟩ := hc.driven h net hnet
  exact h.exists_source (hc.known h) hnet hp

/-- The signal of the net of a source starts with the bit of the source, if it is a register. -/
theorem signal_of_source (hc : c.Found s n) (h : Circuit s d n) {node : Node} {net : Net}
    (hsource : (node, net) ∈ sources s d n) :
    ⟨netName net, if node.type = d.register then some node.params.initialValue else none⟩ ∈
      c.signals := by
  obtain ⟨hmem, htype, hnet⟩ := mem_sources.1 hsource
  have hin : net ∈ n.nets := (Netlist.mem_of_netOf? hnet).1
  obtain ⟨p, hp⟩ := hc.driven h net hin
  rw [h.driver_eq_of_source hsource hp] at hp
  have hvalue : initialValue (kindsOf d) s n net =
      .ok (if node.type = d.register then some node.params.initialValue else none) := by
    rw [h.initialValue_eq hmem hp]
    rcases htype with hpin | hreg
    · have hne : ¬ node.type = d.register := by
        rw [hpin]
        exact h.speaks.standard.inputPin_ne_register
      rw [primitiveOf, if_pos hpin, if_neg hne]
    · rw [primitiveOf_register h.speaks.standard hreg, if_pos hreg]
  have hsignals := hc.signals
  rw [hc.kinds_eq h] at hsignals
  refine (mem_iff_of_mapM hsignals).2 ⟨net, (hc.mem_signalNets_iff h).2 hin, ?_⟩
  exact bind_eq_ok.2 ⟨_, hvalue, rfl⟩

/-- The signal of the net of a register starts with the bit of the register. -/
theorem signal_of_register (hc : c.Found s n) (h : Circuit s d n) {node : Node} {net : Net}
    (hwired : (node, net) ∈ s.wired n d.register "out") :
    ⟨netName net, some node.params.initialValue⟩ ∈ c.signals := by
  have hsignal := hc.signal_of_source h (List.mem_append.2 (.inr hwired))
  rw [if_pos (mem_wired.1 hwired).2.1] at hsignal
  exact hsignal

end Parts.Found

/-! ### A register between pins

  A circuit with every kind of node. The register is reset by a 0 at once, and one
  input pin is on no net. -/

/-- The steps that build the circuit. -/
def stageSteps : List Schematic.Operation :=
  let d := DigitalTypes.numbered 0
  d.operations ++
    [.addNode "data" d.inputPin [] [], .addNode "clk" d.inputPin [] [],
     .addNode "rst" d.inputPin [] [], .addNode "spare" d.inputPin [] [],
     .addNode "q" d.outputPin [] [],
     .addNode "r" d.register (RegisterParams.toAttributes ⟨true, false, true, false⟩) [],
     .addConnection "w0" d.wire ⟨"data", "out"⟩ ⟨"r", "in"⟩ [],
     .addConnection "w1" d.wire ⟨"clk", "out"⟩ ⟨"r", "clock"⟩ [],
     .addConnection "w2" d.wire ⟨"rst", "out"⟩ ⟨"r", "reset"⟩ [],
     .addConnection "w3" d.wire ⟨"r", "out"⟩ ⟨"q", "in"⟩ []]

/-- The circuit. -/
def stage : Schematic := stageSteps.foldl Schematic.perform { name := "stage" }

/-- The netlist of the circuit. -/
def stageNetlist : Netlist where
  inPort := (DigitalTypes.numbered 0).inPort
  outPort := (DigitalTypes.numbered 0).outPort
  nets := [⟨"w0", [⟨"data", "out"⟩, ⟨"r", "in"⟩]⟩, ⟨"w1", [⟨"clk", "out"⟩, ⟨"r", "clock"⟩]⟩,
    ⟨"w2", [⟨"rst", "out"⟩, ⟨"r", "reset"⟩]⟩, ⟨"w3", [⟨"r", "out"⟩, ⟨"q", "in"⟩]⟩]

theorem reachable_stage : stage.Reachable := (Schematic.Reachable.new _).foldl (by decide +kernel)

theorem speaks_stage : stage.Speaks (DigitalTypes.numbered 0) :=
  Schematic.speaks_foldl_operations _ _

theorem build_stage : (Netlist.build stage).result = .ok stageNetlist := by decide +kernel

end Vhdl

end Netlister
