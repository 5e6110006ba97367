import Netlister.Proofs.Check.Inputs
import Netlister.Proofs.Products.AllOrNothing
import Netlister.Proofs.Vhdl.Generation

/-! # Production without the checks

  The checks can be turned off. One would expect that a net with several drivers then gets
  into the code. It does not, because the code for a net asks for its single driver again.
  All that the checks hold back beyond this are circuits with inputs that no code reads.

  - `unchecked_of_checked`: the checks only stop a production, and never change its result.
  - `Generatable.multipleDrivers_eq_nil`: a circuit with code has no net with several drivers.
  - `Generatable.mem_unconnectedInputs`: its inputs without a net are those of output pins,
    which are left out, and of registers without an output, which are left out too.
  - `gates_gated`: so the production with the checks is known from the one without them.
-/

namespace Netlister

open Outcome

/-! ### Inputs that are not wired -/

/-- An input that no wire reaches, of a node that is left out of the code: a pin that shows
    nothing, or a register that nothing reads. -/
structure LooseInput (s : Schematic) (d : DigitalTypes) (node : Node) (port : String) : Prop where
  /-- The node is in the schematic. -/
  mem : node ∈ s.nodes
  /-- The port takes a bit. -/
  takes : node.type.ports.find? port = some d.inPort
  /-- No wire ends at the port. -/
  unwired : ¬ Netlist.IsEnd s.connections ⟨node.name, port⟩
  /-- The node is an output pin, or a register with no wire at its output. -/
  idle : node.type = d.outputPin ∨
    node.type = d.register ∧ ¬ Netlist.IsEnd s.connections ⟨node.name, "out"⟩

namespace Vhdl

section Inputs

variable {s : Schematic} {d : DigitalTypes} {n : Netlist}

/-- Whether a port of a node takes a bit is declared by the type of the node. -/
theorem Circuit.isInput_iff (h : Circuit s d n) {node : Node} (hmem : node ∈ s.nodes)
    {port : String} :
    n.isInput s ⟨node.name, port⟩ = true ↔ node.type.ports.find? port = some d.inPort := by
  unfold Netlist.isInput
  rw [Schematic.map_port?_eq h.consistent hmem, (Netlist.types_of_build h.speaks h.built).1,
    decide_eq_true_iff]

theorem Circuit.dangling_iff (h : Circuit s d n) {node : Node} (hmem : node ∈ s.nodes)
    {port : String} : s.Dangling ⟨node.name, port⟩ ↔
      node.type.ports.find? port = some d.inPort ∧
        ¬ Netlist.IsEnd s.connections ⟨node.name, port⟩ := by
  unfold Schematic.Dangling
  rw [← Netlist.isInput_eq_takesBit h.built, h.isInput_iff hmem]

/-- The inputs that are reported are those that no wire reaches. -/
theorem Circuit.mem_unconnectedInputs (h : Circuit s d n) {v : Violation} :
    v ∈ n.unconnectedInputs s ↔
      ∃ node ∈ s.nodes, ∃ port, node.type.ports.find? port = some d.inPort ∧
        ¬ Netlist.IsEnd s.connections ⟨node.name, port⟩ ∧
          v = .unconnectedInput node.name port := by
  rw [Netlist.mem_unconnectedInputs_iff h.consistent h.built]
  constructor
  · intro ⟨p, hp, hv⟩
    have hmem := Netlist.mem_portRefs_of_dangling h.consistent hp
    obtain ⟨node, hnode, href⟩ := Schematic.mem_portRefs_iff.1 hmem
    obtain ⟨-, -, hname⟩ := Schematic.mem_node_portRefs_iff.1 href
    -- The type of the port is looked up by the node that owns it.
    have hof : p = ⟨node.name, p.port⟩ := by rw [← hname]
    rw [hof, h.dangling_iff hnode] at hp
    exact ⟨node, hnode, p.port, hp.1, hp.2, by rw [hv, hname]⟩
  · intro ⟨node, hnode, port, htakes, hunwired, hv⟩
    exact ⟨⟨node.name, port⟩, (h.dangling_iff hnode).2 ⟨htakes, hunwired⟩, hv⟩

/-- The inputs of a register are three. -/
theorem register_input {port : String} (hd : d.Standard)
    (htakes : d.register.ports.find? port = some d.inPort) :
    port ∈ ["in", "clock", "reset"] := by
  rw [hd.find?_register] at htakes
  split at htakes
  · exact absurd (Option.some.inj htakes).symm hd.inPort_ne_outPort
  · split at htakes
    · next hport => rcases hport with rfl | rfl | rfl <;> decide
    · cases htakes

namespace Generatable

/-- A circuit with code has no net with several drivers. -/
theorem multipleDrivers_eq_nil (hg : Generatable s d n) (h : Circuit s d n) :
    n.multipleDrivers s = [] := by
  unfold Netlist.multipleDrivers
  rw [List.filterMap_eq_nil_iff]
  intro net hnet
  obtain ⟨p, hp⟩ := (h.exists_driver_iff hnet).2 (hg.driven net hnet)
  rw [Circuit.driver_eq_ok] at hp
  simp [hp]

/-- An input that no wire reaches belongs to a node that is left out of the code. -/
theorem looseInput (hg : Generatable s d n) (h : Circuit s d n) {node : Node} {port : String}
    (hmem : node ∈ s.nodes) (htakes : node.type.ports.find? port = some d.inPort)
    (hunwired : ¬ Netlist.IsEnd s.connections ⟨node.name, port⟩) : LooseInput s d node port := by
  refine ⟨hmem, htakes, hunwired, ?_⟩
  rcases hg.known node hmem with hin | hout | hreg
  · -- The only port of an input pin gives a bit.
    rw [hin, h.speaks.standard.find?_inputPin] at htakes
    split at htakes
    · exact absurd (Option.some.inj htakes).symm h.speaks.standard.inPort_ne_outPort
    · cases htakes
  · exact .inl hout
  · refine .inr ⟨hreg, ?_⟩
    -- A register with an output has all its inputs, this one included.
    intro houtput
    obtain ⟨net, hnet⟩ := Option.isSome_iff_exists.1 (h.represents.isSome_netOf?_iff.2 houtput)
    rw [hreg] at htakes
    have hinput := hg.inputs (node, net) (mem_wired.2 ⟨hmem, hreg, hnet⟩) port
      (register_input h.speaks.standard htakes)
    exact hunwired (h.represents.isSome_netOf?_iff.1 hinput)

/-- Of a circuit with code, the loose inputs are reported. -/
theorem mem_unconnectedInputs (hg : Generatable s d n) (h : Circuit s d n) {v : Violation} :
    v ∈ n.unconnectedInputs s ↔
      ∃ node port, LooseInput s d node port ∧ v = .unconnectedInput node.name port := by
  rw [h.mem_unconnectedInputs]
  constructor
  · intro ⟨node, hmem, port, htakes, hunwired, hv⟩
    exact ⟨node, port, hg.looseInput h hmem htakes hunwired, hv⟩
  · intro ⟨node, port, hloose, hv⟩
    exact ⟨node, hloose.mem, port, hloose.takes, hloose.unwired, hv⟩

end Generatable

/-- A circuit with code meets the condition for it. -/
theorem Circuit.generatable (h : Circuit s d n) {text : String}
    (htext : (generate s n).result = .ok text) : Generatable s d n := by
  obtain ⟨⟨e, he⟩, -⟩ := generate_eq_ok.1 htext
  obtain ⟨c, hc, -⟩ := compile_eq_ok.1 he
  exact h.exists_parts_iff.1 ⟨c, hc⟩

end Inputs

end Vhdl

namespace Products

/-! ### Work behind the checks -/

/-- The options with the checks turned on or off. -/
def Options.checking (o : Options) (checks : Bool) : Options := { o with runChecks := checks }

/-- Work that begins with a netlist and goes on once the netlist is checked. -/
def gated {α : Type} (s : Schematic) (o : Options) (start : Except Error Netlist)
    (rest : Netlist → Except Error α) : Except Error α := do
  let n ← start
  (checkNetlist s n o).result
  rest n

section Gated

variable {α : Type} {s : Schematic} {o : Options} {n : Netlist} {start : Except Error Netlist}
  {rest : Netlist → Except Error α}

/-- Without the checks the work just goes on. -/
theorem gated_unchecked : gated s (o.checking false) start rest = start >>= rest := rfl

/-- The checks never change a result. -/
theorem unchecked_of_checked {a : α} (h : gated s (o.checking true) start rest = .ok a) :
    gated s (o.checking false) start rest = .ok a := by
  obtain ⟨n, hstart, h⟩ := bind_eq_ok.1 h
  obtain ⟨-, hrest⟩ := check_bind_eq_ok.1 h
  rw [gated_unchecked]
  exact bind_eq_ok.2 ⟨n, hstart, hrest⟩

/-- Where no net has several drivers, only inputs without a net are reported. -/
theorem result_checkNetlist (h : n.multipleDrivers s = []) :
    (checkNetlist s n (o.checking true)).result =
      if n.unconnectedInputs s = [] then .ok ()
      else .error (.checksFailed [⟨"no unconnected inputs", n.unconnectedInputs s⟩]) := by
  -- The first of the two checks passes, so that the second alone decides.
  have hfailures : gatingFailures s n = .ok (if n.unconnectedInputs s = [] then []
      else [⟨"no unconnected inputs", n.unconnectedInputs s⟩]) := by
    unfold gatingFailures Netlist.noMultipleDrivers Netlist.noUnconnectedInputs
    simp only [Check.runAll, Check.run_ofViolations, h]
    cases n.unconnectedInputs s <;> rfl
  have hchecks : (o.checking true).runChecks = true := rfl
  unfold checkNetlist
  rw [if_pos hchecks, Logged.result_bind, Vhdl.result_lift, hfailures, ok_bind]
  by_cases hnone : n.unconnectedInputs s = []
  · rw [if_pos hnone, if_pos hnone]
    rfl
  · rw [if_neg hnone, if_neg hnone]
    rfl

end Gated

/-- How work with the checks compares with the same work without them. -/
structure Gates {α : Type} (s : Schematic) (d : DigitalTypes)
    (unchecked checked : Except Error α) : Prop where
  /-- What passes the checks has the same result without them. -/
  same : ∀ a, checked = .ok a → unchecked = .ok a
  /-- What has a result without the checks is driven as it should be, and the checks stop
      it just for its loose inputs. -/
  stopped : ∀ a, unchecked = .ok a → ∃ n, (Netlist.build s).result = .ok n ∧
    n.multipleDrivers s = [] ∧
    (∀ v, v ∈ n.unconnectedInputs s ↔
      ∃ node port, LooseInput s d node port ∧ v = .unconnectedInput node.name port) ∧
    checked = if n.unconnectedInputs s = [] then .ok a
      else .error (.checksFailed [⟨"no unconnected inputs", n.unconnectedInputs s⟩])

/-- Work on the netlist of a schematic that generates code behind the checks. -/
theorem gates_gated {α : Type} {s : Schematic} {d : DigitalTypes} {o : Options}
    {start : Except Error Netlist} {rest : Netlist → Except Error α} (hs : s.Reachable)
    (hd : s.Speaks d) (hstart : ∀ n, start = .ok n → (Netlist.build s).result = .ok n)
    (hrest : ∀ n a, rest n = .ok a → ∃ text, (Vhdl.generate s n).result = .ok text) :
    Gates s d (gated s (o.checking false) start rest) (gated s (o.checking true) start rest) := by
  refine ⟨fun a => unchecked_of_checked, ?_⟩
  intro a h
  rw [gated_unchecked] at h
  obtain ⟨n, hn, ha⟩ := bind_eq_ok.1 h
  -- Code was generated, and this says enough about the netlist.
  obtain ⟨text, htext⟩ := hrest n a ha
  have hcircuit : Vhdl.Circuit s d n := ⟨hs.consistent, hd, hstart n hn⟩
  have hg := hcircuit.generatable htext
  have hdrivers := hg.multipleDrivers_eq_nil hcircuit
  refine ⟨n, hstart n hn, hdrivers, fun v => hg.mem_unconnectedInputs hcircuit, ?_⟩
  -- The work goes on as without the checks, unless they stop it.
  unfold gated
  rw [hn, ok_bind, result_checkNetlist hdrivers]
  by_cases hnone : n.unconnectedInputs s = []
  · rw [if_pos hnone, if_pos hnone, ok_bind, ha]
  · rw [if_neg hnone, if_neg hnone]
    rfl

/-! ### Productions -/

section Productions

variable (fs : FileSystem) (s : Schematic) (o : Options)

/-- A production goes on behind the checks. -/
theorem result_produce_checking (checks : Bool) :
    (produce fs s (o.checking checks)).result =
      gated s (o.checking checks)
        (do
          requireFileStem s.name
          requireDirectory fs o.outputDirectory
          (Netlist.build s).result.mapError Error.netlist)
        (fun n => do
          (reportUnmerged n).result
          let text ← (Vhdl.generate s n).result.mapError Error.vhdl
          let written ← (fs.writeText (o.sourcePath s) text).mapError (Error.file (o.sourcePath s))
          return (⟨o.sourcePath s, text⟩, written)) := by
  rw [result_produce]
  unfold gated
  simp only [bind_assoc]
  rfl

/-- So does a production on a disk. -/
theorem plan_checking (disk : Disk) (checks : Bool) :
    disk.plan fs s (o.checking checks) =
      gated s (o.checking checks)
        (do
          requireFileStem s.name
          requireDirectory fs o.outputDirectory
          disk.probed fs o.outputDirectory
          (Netlist.build s).result.mapError Error.netlist)
        (fun n => do
          (reportUnmerged n).result
          let text ← (Vhdl.generate s n).result.mapError Error.vhdl
          disk.requireWilling fs (o.sourcePath s)
          let written ← (fs.writeText (o.sourcePath s) text).mapError (Error.file (o.sourcePath s))
          return (o.sourcePath s, written)) := by
  unfold Disk.plan gated
  simp only [bind_assoc]
  rfl

end Productions

/-- **Skipping the checks lets through no net with several drivers, and changes no file.** What
    is produced with the checks is produced without them, to the same path and with the same
    text. What is produced without them is stopped by them only for loose inputs, and all of
    these are reported. It is the same on a disk, where a production that is stopped leaves
    the files as they were. -/
theorem skipping_checks_safe {s : Schematic} {d : DigitalTypes} (hs : s.Reachable)
    (hd : s.Speaks d) (fs : FileSystem) (o : Options) :
    Gates s d (produce fs s (o.checking false)).result (produce fs s (o.checking true)).result ∧
    ∀ disk : Disk, disk.Fresh → ∃ unchecked checked : Except Error (String × FileSystem),
      disk.produce s (o.checking false) fs = settle fs unchecked ∧
      disk.produce s (o.checking true) fs = settle fs checked ∧
      Gates s d unchecked checked := by
  constructor
  · rw [result_produce_checking, result_produce_checking]
    refine gates_gated hs hd ?_ ?_
    · intro n h
      obtain ⟨-, h⟩ := check_bind_eq_ok.1 h
      obtain ⟨-, h⟩ := check_bind_eq_ok.1 h
      exact mapError_eq_ok.1 h
    · intro n a h
      obtain ⟨-, h⟩ := check_bind_eq_ok.1 h
      obtain ⟨text, htext, -⟩ := bind_eq_ok.1 h
      exact ⟨text, mapError_eq_ok.1 htext⟩
  · -- On a disk a production ends as planned, and the plan has the same shape.
    intro disk hfresh
    refine ⟨_, _, Disk.produce_eq hfresh, Disk.produce_eq hfresh, ?_⟩
    rw [plan_checking, plan_checking]
    refine gates_gated hs hd ?_ ?_
    · intro n h
      obtain ⟨-, h⟩ := check_bind_eq_ok.1 h
      obtain ⟨-, h⟩ := check_bind_eq_ok.1 h
      obtain ⟨-, h⟩ := check_bind_eq_ok.1 h
      exact mapError_eq_ok.1 h
    · intro n a h
      obtain ⟨-, h⟩ := check_bind_eq_ok.1 h
      obtain ⟨text, htext, -⟩ := bind_eq_ok.1 h
      exact ⟨text, mapError_eq_ok.1 htext⟩

/-! A pin with its output, next to an output pin and a register that are left out. -/

/-- The steps that build the circuit. -/
def looseEndsSteps : List Schematic.Operation :=
  let d := DigitalTypes.numbered 0
  d.operations ++
    [.addNode "a" d.inputPin [] [], .addNode "y" d.outputPin [] [], .addNode "z" d.outputPin [] [],
     .addNode "r" d.register (RegisterParams.toAttributes ⟨false, true, false, true⟩) [],
     .addConnection "w0" d.wire ⟨"a", "out"⟩ ⟨"y", "in"⟩ [],
     .addConnection "w1" d.wire ⟨"a", "out"⟩ ⟨"r", "in"⟩ []]

/-- The circuit. -/
def looseEnds : Schematic := looseEndsSteps.foldl Schematic.perform { name := "loose" }

/-- The netlist of the circuit. -/
def looseEndsNetlist : Netlist where
  inPort := (DigitalTypes.numbered 0).inPort
  outPort := (DigitalTypes.numbered 0).outPort
  nets := [⟨"w0", [⟨"a", "out"⟩, ⟨"y", "in"⟩, ⟨"r", "in"⟩]⟩]

theorem reachable_looseEnds : looseEnds.Reachable :=
  (Schematic.Reachable.new _).foldl (by decide +kernel)

theorem speaks_looseEnds : looseEnds.Speaks (DigitalTypes.numbered 0) :=
  Schematic.speaks_foldl_operations _ _

theorem build_looseEnds : (Netlist.build looseEnds).result = .ok looseEndsNetlist := by
  decide +kernel

theorem unconnectedInputs_looseEnds :
    looseEndsNetlist.unconnectedInputs looseEnds =
      [.unconnectedInput "z" "in", .unconnectedInput "r" "clock",
       .unconnectedInput "r" "reset"] := by
  decide +kernel

/-- The code for the circuit. -/
def looseEndsText : String :=
  "library IEEE;\nuse IEEE.std_logic_1164.all;\n\nentity \\loose\\ is\n    port (\n" ++
  "        a : in std_logic;\n        y : out std_logic\n    );\nend \\loose\\;\n\n" ++
  "architecture rtl of \\loose\\ is\n    signal \\n_w0\\ : std_logic;\nbegin\n" ++
  "    \\n_w0\\ <= a;\n    y <= \\n_w0\\;\nend rtl;\n"

theorem generate_looseEnds :
    (Vhdl.generate looseEnds looseEndsNetlist).result.toOption = some looseEndsText := by
  decide +kernel

/-- Without the checks the circuit has a file, with the code for the pins that are wired. With
    them its three loose inputs are reported, and the files are as before. -/
theorem skipping_checks_safe_looseEnds :
    looseEnds.Reachable ∧ looseEnds.Speaks (DigitalTypes.numbered 0) ∧ roomyDisk.Fresh ∧
    (∃ written, roomyDisk.produce looseEnds ⟨"out", false, .vhdl⟩ workspace =
        .ok "out/loose.vhd" written ∧
      written.status "out/loose.vhd" = .ok (.file looseEndsText.toUTF8)) ∧
    roomyDisk.produce looseEnds ⟨"out", true, .vhdl⟩ workspace =
      .error (.checksFailed [⟨"no unconnected inputs",
        [.unconnectedInput "z" "in", .unconnectedInput "r" "clock",
         .unconnectedInput "r" "reset"]⟩]) workspace := by
  obtain ⟨-, hdisk⟩ := skipping_checks_safe reachable_looseEnds speaks_looseEnds workspace
    { outputDirectory := "out" }
  obtain ⟨unchecked, checked, hunchecked, hchecked, hgates⟩ := hdisk roomyDisk fresh_roomyDisk
  obtain ⟨⟨path, written⟩, hplan⟩ :
      ∃ r, roomyDisk.plan workspace looseEnds ⟨"out", false, .vhdl⟩ = .ok r :=
    exists_ok (by decide +kernel)
  have hproduce : roomyDisk.produce looseEnds ⟨"out", false, .vhdl⟩ workspace =
      .ok path written := by
    rw [Disk.produce_eq fresh_roomyDisk, hplan]
    rfl
  have hresult : unchecked = .ok (path, written) := by
    have hsettle : settle workspace unchecked = .ok path written :=
      hunchecked.symm.trans hproduce
    cases unchecked with
    | error e => cases hsettle
    | ok r =>
      cases hsettle
      rfl
  obtain ⟨n, hn, -, -, hstopped⟩ := hgates.stopped _ hresult
  have hnetlist : n = looseEndsNetlist := Except.ok.inj (hn.symm.trans build_looseEnds)
  rw [hnetlist, unconnectedInputs_looseEnds, if_neg (by decide)] at hstopped
  obtain ⟨product, hpath, hproduced⟩ := Disk.produce_of_plan hplan
  obtain ⟨⟨hout, -⟩, ⟨n', hn', htext, hstatus⟩, -, -⟩ := produced_of_produce hproduced
  have hnetlist' : n' = looseEndsNetlist := Except.ok.inj (hn'.symm.trans build_looseEnds)
  have hcode : product.text = looseEndsText := by
    have hgenerate := generate_looseEnds
    rw [← hnetlist', htext] at hgenerate
    exact Option.some.inj hgenerate
  have hsource : path = "out/loose.vhd" := by
    rw [← hpath, hout]
    decide +kernel
  rw [hpath, hsource, hcode] at hstatus
  rw [hsource] at hproduce
  refine ⟨reachable_looseEnds, speaks_looseEnds, fresh_roomyDisk,
    ⟨written, hproduce, hstatus⟩, ?_⟩
  rw [hstopped] at hchecked
  exact hchecked

end Products

end Netlister
