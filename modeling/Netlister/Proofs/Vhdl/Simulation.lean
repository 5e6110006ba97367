import Netlister.Proofs.Vhdl.Meaning

/-! # The code of a circuit does what the circuit does

  `compile_simulates`: with the same inputs, a compiled entity and its circuit have the
  same values at every moment, on every net and at every output pin.

  Both runs are compared step by step. An assignment copies what the circuit
  copies. A process that runs computes the next value of its register. The case
  that needs an argument is a process that sleeps: then the clock has no edge, and
  if a reset at once is active now, it was active before, so that the register
  already has its initial value (`Settled`).
-/

namespace Netlister.Vhdl

open Outcome

/-! ### The register of a circuit -/

/-- The next value of a register, in terms of its nets. -/
theorem registerNext_eq {n : Netlist} {node : Node} {r : RegisterNets} (hr : r.Of n node)
    (p : RegisterParams) (m : Moment Net) :
    registerNext p node.name (m.atPorts n) =
      if m.current r.reset = .ofBool p.resetActiveHigh ∧
          (p.resetAsynchronous = true ∨ m.Edge p.clockActiveHigh r.clock) then
        .ofBool p.initialValue
      else if m.Edge p.clockActiveHigh r.clock then m.current r.data
      else m.current r.output := by
  have hclock := (portNet_eq_ok.1 hr.clock).2
  have hedge : (m.atPorts n).Edge p.clockActiveHigh ⟨node.name, "clock"⟩ ↔
      m.Edge p.clockActiveHigh r.clock :=
    Moment.edge_congr (Moment.previous_atPorts hclock) (Moment.current_atPorts hclock) _
  unfold registerNext
  simp only [hedge, Moment.current_atPorts (portNet_eq_ok.1 hr.reset).2,
    Moment.current_atPorts (portNet_eq_ok.1 hr.data).2,
    Moment.current_atPorts (portNet_eq_ok.1 hr.output).2]

section Runs

variable {c : Parts} {s : Schematic} {d : DigitalTypes} {n : Netlist}

/-- The driver of a net with a source is the source. -/
theorem Parts.Found.driverNode?_eq (hc : c.Found s n) (h : Circuit s d n) {node : Node} {net : Net}
    (hsource : (node, net) ∈ sources s d n) : n.driverNode? s net = some node := by
  obtain ⟨hmem, _, hnet⟩ := mem_sources.1 hsource
  obtain ⟨p, hp⟩ := hc.driven h net (Netlist.mem_of_netOf? hnet).1
  unfold Netlist.driverNode?
  rw [hp, h.driver_eq_of_source hsource hp]
  exact (Schematic.node?_eq_some_iff h.consistent).2 ⟨hmem, rfl⟩

/-- A net of an input pin takes the value of the pin. -/
theorem Parts.Found.next_of_pin (hc : c.Found s n) (h : Circuit s d n) {node : Node} {net : Net}
    (hpin : (node, net) ∈ s.wired n d.inputPin "out") (pins : String → Logic) (m : Moment Net) :
    n.next s d pins m net = pins node.name := by
  unfold Netlist.next
  rw [hc.driverNode?_eq h (List.mem_append.2 (.inl hpin))]
  exact if_pos (mem_wired.1 hpin).2.1

/-- A net of a register takes the next value of the register. -/
theorem Parts.Found.next_of_register (hc : c.Found s n) (h : Circuit s d n) {node : Node}
    {net : Net} (hreg : (node, net) ∈ s.wired n d.register "out") (pins : String → Logic)
    (m : Moment Net) :
    n.next s d pins m net = registerNext node.params node.name (m.atPorts n) := by
  have htype := (mem_wired.1 hreg).2.1
  have hne : ¬ node.type = d.inputPin := by
    rw [htype]
    exact h.speaks.standard.inputPin_ne_register.symm
  unfold Netlist.next
  rw [hc.driverNode?_eq h (List.mem_append.2 (.inr hreg))]
  show (if node.type = d.inputPin then _ else if node.type = d.register then _ else _) = _
  rw [if_neg hne, if_pos htype]

/-! ### The start -/

/-- A name that is not that of an input pin is no input port. -/
theorem Parts.not_input {name : String}
    (hne : ∀ e ∈ c.survey.inputs, Identifier.portName e.1.name ≠ name) :
    (⟨name, .input⟩ : Port) ∉ (c.entity s).ports := by
  intro hport
  rcases Parts.Of.mem_ports.1 hport with ⟨e, he, heq⟩ | ⟨e, _, heq⟩
  · have hname := congrArg Port.name heq
    exact hne e he hname.symm
  · have hdirection := congrArg Port.direction heq
    cases hdirection

theorem Parts.Of.netName_not_input (hc : c.Of s n) (h : Circuit s d n) {net : Net}
    (hnet : net ∈ n.nets) : (⟨netName net, .input⟩ : Port) ∉ (c.entity s).ports :=
  Parts.not_input fun _ he => hc.port_ne_signal (.inl he) ((hc.mem_signalNets_iff h).2 hnet)

theorem Parts.Of.output_not_input (hc : c.Of s n) {pin : Node × Net}
    (hpin : pin ∈ c.survey.outputs) :
    (⟨Identifier.portName pin.1.name, .input⟩ : Port) ∉ (c.entity s).ports :=
  Parts.not_input fun _ he => hc.input_ne_output he hpin

/-- The signal of a name is found. -/
theorem Parts.Of.find?_signal (hc : c.Of s n) {signal : Signal} (hmem : signal ∈ c.signals) :
    c.signals.find? (·.name = signal.name) = some signal := by
  have hnames : (c.signals.map (·.name)).Nodup := by
    rw [hc.map_name_signals]
    exact (List.nodup_append.1 hc.nodup_names).2.1
  exact (Schematic.find?_name_eq_some_iff hnames).2 ⟨hmem, rfl⟩

/-- Signals start with the values of their nets. -/
theorem Parts.Of.start_eq (hc : c.Of s n) (h : Circuit s d n) {net : Net} (hnet : net ∈ n.nets)
    (inputs : String → Logic) :
    (c.entity s).start inputs (netName net) = n.start s d net := by
  obtain ⟨node, hsource⟩ := hc.exists_source h hnet
  have hfind := hc.find?_signal (hc.signal_of_source h hsource)
  unfold Entity.start Netlist.start
  rw [if_neg (hc.netName_not_input h hnet), hc.driverNode?_eq h hsource]
  show ((c.signals.find? _).bind _).elim _ _ = if _ then _ else _
  rw [hfind]
  by_cases hreg : node.type = d.register
  · simp [hreg]
  · simp [hreg]

/-! ### One step -/

/-- The values of the signals are those of the nets. -/
structure Agree (n : Netlist) (m : Moment String) (m' : Moment Net) : Prop where
  previous : ∀ net ∈ n.nets, m.previous (netName net) = m'.previous net
  current : ∀ net ∈ n.nets, m.current (netName net) = m'.current net

/-- A register that is reset at once has its initial value one step after a reset. -/
def Settled (s : Schematic) (d : DigitalTypes) (n : Netlist) (m : Moment Net) : Prop :=
  ∀ node net, (node, net) ∈ s.wired n d.register "out" → node.params.resetAsynchronous = true →
    (m.atPorts n).previous ⟨node.name, "reset"⟩ = .ofBool node.params.resetActiveHigh →
      m.current net = .ofBool node.params.initialValue

/-- Registers are settled after every step. -/
theorem Parts.Found.settled_next (hc : c.Found s n) (h : Circuit s d n) (pins : String → Logic)
    (m : Moment Net) : Settled s d n ⟨m.current, n.next s d pins m⟩ := by
  intro node net hreg hasync hreset
  show n.next s d pins m net = _
  rw [hc.next_of_register h hreg]
  exact if_pos ⟨hreset, .inl hasync⟩

/-- What is no input port takes what its only driver schedules for it, or keeps its value. -/
theorem next_of_driversOf {e : Entity} {name : String} {q : Concurrent}
    (hport : (⟨name, .input⟩ : Port) ∉ e.ports) (hdriver : e.driversOf name = [q]) (first : Bool)
    (inputs : String → Logic) (m : Moment String) :
    e.next first inputs m name =
      (scheduled name (q.schedule first m)).getD (m.current name) := by
  unfold Entity.next
  rw [if_neg hport, scheduled_of_driversOf hdriver]

/-- An assignment schedules the value of its source. -/
theorem scheduled_assign (first : Bool) (m : Moment String) (target source : String) :
    scheduled target ((Concurrent.assign target source).schedule first m) =
      some (m.current source) := by
  simp [scheduled, Concurrent.schedule]

/-- The signal of an input pin takes the value of the port. -/
theorem Parts.Of.next_pin (hc : c.Of s n) (h : Circuit s d n) {node : Node} {net : Net}
    (hpin : (node, net) ∈ s.wired n d.inputPin "out") (first : Bool) (inputs : String → Logic)
    (m : Moment String) :
    (c.entity s).next first inputs m (netName net) =
      m.current (Identifier.portName node.name) := by
  have hnet : net ∈ n.nets := mem_nets_of_wired hpin
  have hdriver := hc.driversOf_target h (hc.input_statement h hpin)
  rw [target_assign] at hdriver
  rw [next_of_driversOf (hc.netName_not_input h hnet) hdriver, scheduled_assign,
    Option.getD_some]

/-- An output port takes the value of the signal. -/
theorem Parts.Of.next_output (hc : c.Of s n) (h : Circuit s d n) {pin : Node × Net}
    (hpin : pin ∈ s.wired n d.outputPin "in") (first : Bool) (inputs : String → Logic)
    (m : Moment String) :
    (c.entity s).next first inputs m (Identifier.portName pin.1.name) =
      m.current (netName pin.2) := by
  rw [← hc.outputs_eq h] at hpin
  rw [next_of_driversOf (hc.output_not_input hpin) (hc.driversOf_output hpin), scheduled_assign,
    Option.getD_some]

/-- The signal of a register takes the next value of the register. -/
theorem Parts.Of.next_register (hc : c.Of s n) (h : Circuit s d n) {node : Node}
    {r : RegisterNets} (hreg : (node, r.output) ∈ s.wired n d.register "out") (hr : r.Of n node)
    {m : Moment String} {m' : Moment Net} (hagree : Agree n m m') {first : Bool}
    (hsettled : first = true ∨ Settled s d n m') (inputs : String → Logic) :
    (c.entity s).next first inputs m (netName r.output) =
      registerNext node.params node.name (m'.atPorts n) := by
  have hnet {port : String} {net : Net} (hport : portNet n node port = .ok (some net)) :
      net ∈ n.nets := (Netlist.mem_of_netOf? (portNet_eq_ok.1 hport).2).1
  have hdriver := hc.driversOf_target h (hc.register_statement h hreg hr)
  rw [target_process] at hdriver
  rw [next_of_driversOf (hc.netName_not_input h (hnet hr.output)) hdriver, registerNext_eq hr]
  have hclock : m.Edge node.params.clockActiveHigh (netName r.clock) ↔
      m'.Edge node.params.clockActiveHigh r.clock :=
    Moment.edge_congr (hagree.previous _ (hnet hr.clock)) (hagree.current _ (hnet hr.clock)) _
  have hreset := hagree.current _ (hnet hr.reset)
  have hdata := hagree.current _ (hnet hr.data)
  have houtput := hagree.current _ (hnet hr.output)
  by_cases hawake : Awake first m [netName r.clock, netName r.reset, netName r.data]
  · -- The process runs and finds out the same as the register.
    have hschedule : (r.process node node.params).schedule first m =
        Sequential.bodySchedule m [registerBody node.params (netName r.output) (netName r.data)
          (netName r.clock) (netName r.reset)] := if_pos hawake
    rw [hschedule, scheduled_registerBody, hreset, hdata]
    simp only [hclock]
    split
    · rfl
    · split
      · rfl
      · exact houtput
  · -- The process sleeps, so nothing that it waits for has changed.
    have hschedule : (r.process node node.params).schedule first m = [] := if_neg hawake
    obtain ⟨hfirst, hsame⟩ := not_or.1 hawake
    have hunchanged {net : Net} (hmem : net ∈ n.nets)
        (hlist : netName net ∈ [netName r.clock, netName r.reset, netName r.data]) :
        m'.previous net = m'.current net := by
      rw [← hagree.previous net hmem, ← hagree.current net hmem]
      by_contra hne
      exact hsame ⟨_, hlist, hne⟩
    have hnoedge : ¬ m'.Edge node.params.clockActiveHigh r.clock :=
      Moment.not_edge_of_eq (hunchanged (hnet hr.clock) (by simp)) _
    rw [hschedule, if_neg hnoedge]
    show m.current (netName r.output) = _
    rw [houtput]
    split
    · next hcond =>
      -- A reset at once is active, and it was so before the last step.
      obtain ⟨hactive, hasync⟩ := hcond
      have hwas : (m'.atPorts n).previous ⟨node.name, "reset"⟩ =
          .ofBool node.params.resetActiveHigh := by
        rw [Moment.previous_atPorts (portNet_eq_ok.1 hr.reset).2,
          hunchanged (hnet hr.reset) (by simp), hactive]
      rcases hsettled with htrue | hsettled
      · exact absurd htrue hfirst
      · exact hsettled node r.output hreg (hasync.resolve_right hnoedge) hwas
    · rfl

/-! ### Runs -/

/-- Input ports show what they are given. -/
theorem run_input {e : Entity} {name : String} (hport : (⟨name, .input⟩ : Port) ∈ e.ports)
    (inputs : Nat → String → Logic) (t : Nat) : (e.run inputs t).current name = inputs t name := by
  cases t with
  | zero => exact if_pos hport
  | succ t => exact if_pos hport

/-- An output port starts with nothing known. -/
theorem Parts.Of.start_output (hc : c.Of s n) (h : Circuit s d n) {pin : Node × Net}
    (hpin : pin ∈ s.wired n d.outputPin "in") (inputs : String → Logic) :
    (c.entity s).start inputs (Identifier.portName pin.1.name) = .unknown := by
  rw [← hc.outputs_eq h] at hpin
  have hfind : c.signals.find? (·.name = Identifier.portName pin.1.name) = none := by
    rw [List.find?_eq_none]
    intro signal hmem hname
    have hnames : signal.name ∈ c.signals.map (·.name) := List.mem_map.2 ⟨signal, hmem, rfl⟩
    rw [hc.map_name_signals] at hnames
    obtain ⟨net, hnet, heq⟩ := List.mem_map.1 hnames
    exact hc.port_ne_signal (.inr hpin) hnet ((of_decide_eq_true hname).symm.trans heq.symm)
  unfold Entity.start
  rw [if_neg (hc.output_not_input hpin)]
  show ((c.signals.find? _).bind _).elim _ _ = _
  rw [hfind]
  rfl

/-- The run of the entity follows the run of the circuit. -/
theorem Parts.Of.run_agree (hc : c.Of s n) (h : Circuit s d n)
    {inputs pins : Nat → String → Logic}
    (hinputs : ∀ t, ∀ pin ∈ s.wired n d.inputPin "out",
      inputs t (Identifier.portName pin.1.name) = pins t pin.1.name) (t : Nat) :
    Agree n ((c.entity s).run inputs t) (n.run s d pins t) := by
  induction t with
  | zero =>
    exact ⟨fun net hnet => hc.start_eq h hnet _, fun net hnet => hc.start_eq h hnet _⟩
  | succ t ih =>
    refine ⟨ih.current, fun net hnet => ?_⟩
    show (c.entity s).next (t == 0) (inputs (t + 1)) ((c.entity s).run inputs t) (netName net) =
      n.next s d (pins t) (n.run s d pins t) net
    obtain ⟨node, hsource⟩ := hc.exists_source h hnet
    rcases List.mem_append.1 hsource with hpin | hreg
    · have hport : (⟨Identifier.portName node.name, .input⟩ : Port) ∈ (c.entity s).ports := by
        have hkept := hpin
        rw [← hc.inputs_eq h] at hkept
        exact Parts.Of.mem_ports.2 (.inl ⟨(node, net), hkept, rfl⟩)
      rw [hc.next_pin h hpin, hc.next_of_pin h hpin, run_input hport, hinputs t _ hpin]
    · obtain ⟨r, hr, rfl⟩ := hc.registerNets h hreg
      have hsettled : (t == 0) = true ∨ Settled s d n (n.run s d pins t) := by
        cases t with
        | zero => exact .inl rfl
        | succ t => exact .inr (hc.settled_next h _ _)
      rw [hc.next_register h hreg hr ih hsettled, hc.next_of_register h hreg]

end Runs

/-- A compiled entity simulates its circuit. With the same values at all input pins,
    every signal has the value of its net, and every output port that of its pin, at
    every moment. -/
theorem compile_simulates {s : Schematic} {d : DigitalTypes} {n : Netlist} {e : Entity}
    (hs : s.Reachable) (hd : s.Speaks d) (hn : (Netlist.build s).result = .ok n)
    (he : (compile s n).result = .ok e) {inputs pins : Nat → String → Logic}
    (hinputs : ∀ t, ∀ pin ∈ s.wired n d.inputPin "out",
      inputs t (Identifier.portName pin.1.name) = pins t pin.1.name) (t : Nat) :
    (∀ net ∈ n.nets,
      (e.run inputs t).current (netName net) = (n.run s d pins t).current net) ∧
    ∀ pin ∈ s.wired n d.outputPin "in",
      (e.run inputs t).current (Identifier.portName pin.1.name) = n.shown s d pins t pin.1.name := by
  obtain ⟨c, hc, rfl⟩ := compile_eq_ok.1 he
  have h : Circuit s d n := ⟨hs.consistent, hd, hn⟩
  refine ⟨(hc.run_agree h hinputs t).current, fun pin hpin => ?_⟩
  cases t with
  | zero => exact hc.start_output h hpin _
  | succ t =>
    have hof := (mem_wired.1 hpin).2.2
    show (c.entity s).next _ _ _ _ = ((n.run s d pins t).atPorts n).current ⟨pin.1.name, "in"⟩
    rw [hc.next_output h hpin, Moment.current_atPorts hof]
    exact (hc.run_agree h hinputs t).current _ (mem_nets_of_wired hpin)

/-- Inputs for the register between pins: the clock runs, the reset ends after two
    moments, and the data is 0. -/
def stageInputs (t : Nat) (pin : String) : Logic :=
  if pin = "clk" then .ofBool (t % 2 == 0)
  else if pin = "rst" then .ofBool (2 ≤ t)
  else .low

/-- The register is reset to 1 and loads the 0 with the first falling edge after the reset. -/
theorem compile_simulates_stage :
    stage.Reachable ∧ stage.Speaks (DigitalTypes.numbered 0) ∧
      (Netlist.build stage).result = .ok stageNetlist ∧
      (∀ t, ∀ pin ∈ stage.wired stageNetlist (DigitalTypes.numbered 0).inputPin "out",
        stageInputs t (Identifier.portName pin.1.name) = stageInputs t pin.1.name) ∧
      ∃ e, (compile stage stageNetlist).result = .ok e ∧
        (e.run stageInputs 5).current (Identifier.portName "q") = .high ∧
        (e.run stageInputs 6).current (Identifier.portName "q") = .low := by
  obtain ⟨e, he⟩ : ∃ e, (compile stage stageNetlist).result = .ok e :=
    exists_ok (by decide +kernel)
  have hnames : ∀ pin ∈ stage.wired stageNetlist (DigitalTypes.numbered 0).inputPin "out",
      Identifier.portName pin.1.name = pin.1.name := by decide +kernel
  have hinputs : ∀ t, ∀ pin ∈ stage.wired stageNetlist (DigitalTypes.numbered 0).inputPin "out",
      stageInputs t (Identifier.portName pin.1.name) = stageInputs t pin.1.name :=
    fun t pin hpin => congrArg (stageInputs t) (hnames pin hpin)
  obtain ⟨q, hq, hname⟩ :
      ∃ q ∈ stage.wired stageNetlist (DigitalTypes.numbered 0).outputPin "in", q.1.name = "q" := by
    decide +kernel
  have hshown (t : Nat) : (e.run stageInputs t).current (Identifier.portName "q") =
      stageNetlist.shown stage (DigitalTypes.numbered 0) stageInputs t "q" := by
    have hpin := (compile_simulates reachable_stage speaks_stage build_stage he hinputs t).2 q hq
    rw [hname] at hpin
    exact hpin
  refine ⟨reachable_stage, speaks_stage, build_stage, hinputs, e, he, ?_, ?_⟩
  · rw [hshown]
    decide +kernel
  · rw [hshown]
    decide +kernel

end Netlister.Vhdl
