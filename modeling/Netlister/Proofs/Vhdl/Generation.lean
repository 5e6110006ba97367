import Netlister.Proofs.Vhdl.Digital
import Netlister.Proofs.Vhdl.Text

/-! # When code is generated

  `generate_succeeds_iff` is the exact condition for a circuit to have code: all
  nodes are pins or registers, every net has one port that gives a bit, registers
  with an output have all inputs, and no two declarations share a name. Otherwise
  nothing is written.

  The writer never adds a failure of its own, because a compiled entity opens at most
  four levels at a time (`depth_of_compile`). So what a writer holds in the end is known
  from the outcome, whether code was generated or not (`generateTo_eq`).
-/

namespace Netlister

namespace Vhdl

open CodeWriter Outcome

/-! ### Compiled entities are always written -/

theorem statementsDepth_le {statements : List Concurrent} {d : Nat}
    (h : ∀ c ∈ statements, c.depth ≤ d) : statementsDepth statements ≤ d := by
  induction statements with
  | nil => exact Nat.zero_le d
  | cons c statements ih =>
    obtain ⟨hc, hstatements⟩ := List.forall_mem_cons.1 h
    exact Nat.max_le.2 ⟨hc, ih hstatements⟩

/-- A choice of a register holds one further choice at most. -/
theorem depth_registerBody (p : RegisterParams) (output data clock reset : String) :
    (registerBody p output data clock reset).depth ≤ 2 := by
  unfold registerBody
  cases p.resetAsynchronous <;> simp [Sequential.depth, branchesDepth, elseDepth, bodyDepth]

/-- A compiled entity opens at most four levels at a time. -/
theorem depth_of_compile {s : Schematic} {n : Netlist} {e : Entity}
    (h : (compile s n).result = .ok e) : e.depth ≤ 4 := by
  obtain ⟨c, hc, rfl⟩ := compile_eq_ok.1 h
  have hports : portClauseDepth (c.entity s).ports ≤ 1 := by
    cases (c.entity s).ports <;> simp [portClauseDepth]
  have hstatements : statementsDepth (c.entity s).statements ≤ 3 := by
    -- The wires of pins open no level, and the process of a register is one around its choice.
    refine statementsDepth_le fun statement hmem => ?_
    rcases List.mem_append.1 hmem with hmem | hmem
    · rcases List.mem_append.1 hmem with hmem | hmem
      · obtain ⟨_, -, rfl⟩ := List.mem_map.1 hmem
        exact Nat.zero_le 3
      · obtain ⟨_, -, rfl⟩ := List.mem_map.1 hmem
        exact Nat.zero_le 3
    · obtain ⟨e, -, p, -, r, -, rfl⟩ := hc.mem_processes.1 hmem
      have hbody := depth_registerBody p (netName r.output) (netName r.data) (netName r.clock)
        (netName r.reset)
      show max _ 0 + 1 ≤ 3
      omega
  unfold Entity.depth
  omega

/-- A compiled entity is written whole, behind whatever was written before. -/
theorem write_of_compile {s : Schematic} {n : Netlist} {e : Entity}
    (h : (compile s n).result = .ok e) (before : String) :
    e.write { text := before } = .ok () { text := before ++ String.ofList (e.chars 0) } := by
  have hdepth := depth_of_compile h
  have hsize : UInt32.size = 4294967296 := rfl
  exact (writes_entity e).fits { text := before } (by simp only [UInt32.toNat_zero]; omega)

theorem render_of_compile {s : Schematic} {n : Netlist} {e : Entity}
    (h : (compile s n).result = .ok e) : e.render = .ok (String.ofList (e.chars 0)) := by
  have hwrite := write_of_compile h ""
  rw [String.empty_append] at hwrite
  unfold Entity.render
  rw [hwrite]
  rfl

/-- Code is generated iff there is an entity, and it is the text of the entity. -/
theorem result_generate (s : Schematic) (n : Netlist) :
    (generate s n).result = (compile s n).result.map fun e => String.ofList (e.chars 0) := by
  unfold generate
  simp only [Logged.result_bind, Logged.result_report, Logged.result_ofExcept]
  cases hcompile : (compile s n).result with
  | error err => rfl
  | ok e =>
    simp only [ok_bind, render_of_compile hcompile]
    rfl

theorem exists_render_of_generate {s : Schematic} {n : Netlist} {text : String}
    (h : (generate s n).result = .ok text) :
    ∃ e, (compile s n).result = .ok e ∧ e.render = .ok text := by
  rw [result_generate] at h
  obtain ⟨e, hcompile, rfl⟩ := map_eq_ok.1 h
  exact ⟨e, hcompile, render_of_compile hcompile⟩

/-! ### What a writer holds -/

/-- The generation of code with a writer in memory that holds a text: how it ends, and what
    the writer holds then. What was written before a failure stays. -/
def generateTo (s : Schematic) (n : Netlist) (out : String) : Except Error Unit × String :=
  match (compile s n).result with
  | .error err => (.error err, out)
  | .ok e =>
    match e.write { text := out } with
    | .error cause w => (.error (.writer cause), w.text)
    | .ok _ w => ((w.finish.map fun _ => ()).mapError .writer, w.text)

/-- With a writer, generation ends as without one. The writer then holds the code, behind
    what it held before; or nothing more, if there is none. -/
theorem generateTo_eq (s : Schematic) (n : Netlist) (out : String) :
    generateTo s n out =
      match (generate s n).result with
      | .ok text => (.ok (), out ++ text)
      | .error err => (.error err, out) := by
  rw [result_generate]
  unfold generateTo
  cases hcompile : (compile s n).result with
  | error err => rfl
  | ok e =>
    simp only [write_of_compile hcompile]
    rfl

/-- The text that a writer in memory holds when the generation of code has ended. -/
def written (s : Schematic) (n : Netlist) : String := (generateTo s n "").2

theorem generate_eq_ok {s : Schematic} {n : Netlist} {text : String} :
    (generate s n).result = .ok text ↔
      (∃ e, (compile s n).result = .ok e) ∧ written s n = text := by
  unfold written
  rw [generateTo_eq, result_generate]
  cases (compile s n).result with
  | error err => simp [Except.map]
  | ok e => simp [Except.map]

/-! ### The condition -/

/-- The identifiers that the code of a circuit declares: those of input pins,
    output pins, nets, and processes of registers. -/
def identifiers (s : Schematic) (d : DigitalTypes) (n : Netlist) : List String :=
  (s.wired n d.inputPin "out").map (fun pin => Identifier.portName pin.1.name) ++
    (s.wired n d.outputPin "in").map (fun pin => Identifier.portName pin.1.name) ++
      n.nets.map netName ++ (s.wired n d.register "out").map (fun register => processName register.1)

/-- A circuit that has code. -/
structure Generatable (s : Schematic) (d : DigitalTypes) (n : Netlist) : Prop where
  /-- Every node is a pin or a register. -/
  known : ∀ node ∈ s.nodes, Known d node
  /-- Exactly one port on each net gives a bit. -/
  driven : ∀ net ∈ n.nets, ∃! p, p ∈ net.ports ∧ (s.port? p).map (·.type) = some d.outPort
  /-- Every register with an output has all its inputs. -/
  inputs : ∀ register ∈ s.wired n d.register "out", ∀ port ∈ ["in", "clock", "reset"],
    (n.netOf? ⟨register.1.name, port⟩).isSome
  /-- No two identifiers have one key. -/
  distinct : ((identifiers s d n).map Identifier.key).Nodup

section Condition

variable {c : Parts} {s : Schematic} {d : DigitalTypes} {n : Netlist}

/-- The labels are those of the registers with an output. -/
theorem Parts.Found.labels_eq (hc : c.Found s n) (h : Circuit s d n) :
    (c.entity s).statements.filterMap Concurrent.label? =
      (s.wired n d.register "out").map fun register => processName register.1 := by
  rw [hc.labels_eq_map, hc.survey_eq h, filterMap_inner h.speaks.standard (hc.known h)]

/-- A compilation declares the identifiers of the circuit. -/
theorem Parts.Found.perm_declaredNames (hc : c.Found s n) (h : Circuit s d n) :
    (c.entity s).declaredNames.Perm (identifiers s d n) := by
  have hsignals : ((c.entity s).signals.map (·.name)).Perm (n.nets.map netName) :=
    hc.perm_signals h
  unfold Entity.declaredNames identifiers
  rw [c.map_name_ports s, hc.inputs_eq h, hc.outputs_eq h, hc.labels_eq h]
  exact (hsignals.append_left _).append_right _

/-- A register on nets has the nets of a register. -/
theorem Circuit.exists_registerNets (h : Circuit s d n) {register : Node × Net}
    (hwired : register ∈ s.wired n d.register "out")
    (hinputs : ∀ port ∈ ["in", "clock", "reset"], (n.netOf? ⟨register.1.name, port⟩).isSome) :
    ∃ r : RegisterNets, r.Of n register.1 := by
  obtain ⟨hmem, hreg, hout⟩ := mem_wired.1 hwired
  have hport (port : String) (hport : port = "out" ∨ port ∈ ["in", "clock", "reset"]) :
      ∃ net, portNet n register.1 port = .ok (some net) := by
    have hdeclared : (register.1.type.ports.find? port).isSome := by
      rw [hreg, h.speaks.standard.find?_register]
      simp only [List.mem_cons, List.not_mem_nil, or_false] at hport
      rcases hport with rfl | rfl | rfl | rfl <;> rfl
    have hnet : (n.netOf? ⟨register.1.name, port⟩).isSome := by
      rcases hport with rfl | hinput
      · rw [hout]
        rfl
      · exact hinputs port hinput
    obtain ⟨net, hnet⟩ := Option.isSome_iff_exists.1 hnet
    exact ⟨net, by rw [h.portNet_eq hmem hdeclared, hnet]⟩
  obtain ⟨output, houtput⟩ := hport "out" (.inl rfl)
  obtain ⟨data, hdata⟩ := hport "in" (.inr (by decide))
  obtain ⟨clock, hclock⟩ := hport "clock" (.inr (by decide))
  obtain ⟨reset, hreset⟩ := hport "reset" (.inr (by decide))
  exact ⟨⟨output, data, clock, reset⟩, houtput, hdata, hclock, hreset⟩

/-- Every inner node of such a circuit is a register, with no output or with all nets. -/
theorem Generatable.exists_processes (hg : Generatable s d n) (h : Circuit s d n)
    {e : Node × Primitive} (he : e ∈ (surveyOf s d n).inner) :
    ∃ processes, processesOf n e = .ok processes := by
  obtain ⟨hmem, hpin, hprimitive⟩ := mem_inner_surveyOf.1 he
  have hreg : e.1.type = d.register := by
    rcases hg.known e.1 hmem with hin | hout | hreg
    · exact absurd (.inl hin) hpin
    · exact absurd (.inr hout) hpin
    · exact hreg
  have hparams : e.2 = .register e.1.params :=
    hprimitive.trans (primitiveOf_register h.speaks.standard hreg)
  cases hnet : n.netOf? ⟨e.1.name, "out"⟩ with
  | none =>
    have hout : (e.1.type.ports.find? "out").isSome := by
      rw [hreg, h.speaks.standard.find?_register]
      rfl
    have hnone : portNet n e.1 "out" = .ok none := by rw [h.portNet_eq hmem hout, hnet]
    exact ⟨[], processesOf_eq_ok.2 ⟨_, hparams, .inl ⟨hnone, rfl⟩⟩⟩
  | some net =>
    have hwired : (e.1, net) ∈ s.wired n d.register "out" := mem_wired.2 ⟨hmem, hreg, hnet⟩
    obtain ⟨r, hr⟩ := h.exists_registerNets hwired (hg.inputs _ hwired)
    exact ⟨_, processesOf_eq_ok.2 ⟨_, hparams, .inr ⟨r, hr, rfl⟩⟩⟩

/-- A circuit compiles iff it meets the condition. -/
theorem Circuit.exists_parts_iff (h : Circuit s d n) :
    (∃ c : Parts, c.Of s n) ↔ Generatable s d n := by
  constructor
  · intro ⟨c, hc⟩
    refine ⟨hc.known h, ?_, ?_, ?_⟩
    · intro net hnet
      exact (h.exists_driver_iff hnet).1 (hc.driven h net hnet)
    · intro register hwired port hport
      obtain ⟨r, hr, _⟩ := hc.registerNets h hwired
      simp only [List.mem_cons, List.not_mem_nil, or_false] at hport
      rcases hport with rfl | rfl | rfl
      · rw [(portNet_eq_ok.1 hr.data).2]
        rfl
      · rw [(portNet_eq_ok.1 hr.clock).2]
        rfl
      · rw [(portNet_eq_ok.1 hr.reset).2]
        rfl
    · exact ((hc.perm_declaredNames h).map Identifier.key).nodup_iff.1 hc.distinct
  · -- All parts can be found, and they declare the identifiers of the circuit.
    intro hg
    have hplaces : s.nodes.mapM (place (kindsOf d) n) = .ok (s.nodes.map (placeOf d n)) :=
      mapM_eq_map fun node hmem => h.place_eq hmem
    -- Every net becomes a signal, and it has a driver.
    obtain ⟨signals, hsignals⟩ :
        ∃ signals, (surveyOf s d n).signals (kindsOf d) s n = .ok signals := by
      refine exists_mapM.2 fun net hnet => ?_
      rw [h.mem_signalNets] at hnet
      exact (h.exists_signal_iff hnet).2 ((h.exists_driver_iff hnet).2 (hg.driven net hnet))
    obtain ⟨processes, hprocesses⟩ :
        ∃ processes, (surveyOf s d n).inner.mapM (processesOf n) = .ok processes :=
      exists_mapM.2 fun e he => hg.exists_processes h he
    have hc : (⟨kindsOf d, s.nodes.map (placeOf d n), signals, processes⟩ : Parts).Found s n :=
      ⟨h.kinds_eq, hplaces, hsignals, hprocesses⟩
    exact ⟨_, hc, ((hc.perm_declaredNames h).map Identifier.key).nodup_iff.2 hg.distinct⟩

end Condition

/-- Code is generated for exactly the circuits that meet the condition. For all
    others generation fails with nothing written. -/
theorem generate_succeeds_iff {s : Schematic} {d : DigitalTypes} {n : Netlist} (hs : s.Reachable)
    (hd : s.Speaks d) (hn : (Netlist.build s).result = .ok n) :
    ((∃ text, (generate s n).result = .ok text ∧ written s n = text) ↔ Generatable s d n) ∧
      (¬ Generatable s d n →
        (∃ err, (generate s n).result = .error err) ∧ written s n = "") := by
  have hcircuit : Circuit s d n := ⟨hs.consistent, hd, hn⟩
  have hcompile : (∃ e, (compile s n).result = .ok e) ↔ Generatable s d n := by
    rw [← hcircuit.exists_parts_iff]
    constructor
    · intro ⟨e, he⟩
      obtain ⟨c, hc, _⟩ := compile_eq_ok.1 he
      exact ⟨c, hc⟩
    · intro ⟨c, hc⟩
      exact ⟨_, compile_eq_ok.2 ⟨c, hc, rfl⟩⟩
  constructor
  · rw [← hcompile]
    constructor
    · intro ⟨text, htext, _⟩
      exact (generate_eq_ok.1 htext).1
    · intro hentity
      exact ⟨_, generate_eq_ok.2 ⟨hentity, rfl⟩, rfl⟩
  · intro hnot
    rw [← hcompile] at hnot
    constructor
    · refine exists_error fun ⟨text, htext⟩ => hnot (generate_eq_ok.1 htext).1
    · obtain ⟨err, herr⟩ := exists_error hnot
      unfold written
      rw [generateTo_eq, result_generate, herr]
      rfl

theorem generate_succeeds_iff_stage :
    stage.Reachable ∧ stage.Speaks (DigitalTypes.numbered 0) ∧
      (Netlist.build stage).result = .ok stageNetlist ∧
      Generatable stage (DigitalTypes.numbered 0) stageNetlist := by
  refine ⟨reachable_stage, speaks_stage, build_stage, ?_⟩
  obtain ⟨text, htext⟩ : ∃ text, (generate stage stageNetlist).result = .ok text :=
    exists_ok (by decide +kernel)
  have hiff := (generate_succeeds_iff reachable_stage speaks_stage build_stage).1
  exact hiff.1 ⟨text, htext, (generate_eq_ok.1 htext).2⟩

end Vhdl

end Netlister
