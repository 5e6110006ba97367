import Netlister.Proofs.Check.Gating
import Netlister.Proofs.Netlist.Direction
import Netlister.Proofs.Netlist.Representation

/-! # Code and checks do not depend on the direction of wires

  Exchanging the ends of wires changes the order of ports in some nets (`Netlist.turn`). What
  looks at nets only to compare them, to name them or to count drivers cannot tell. For the
  compilation this is shown part by part: each part of the turned netlist is that of the
  netlist, with all nets turned, and names of nets are all that gets into the text.

  - `driver_turn`: a net has the same driver, or lacks it for the same reason.
  - `result_compile_turn`: the compilation has the same entity or the same error.
  - `wires_undirected`: all of it, for schematics.
-/

namespace Netlister

namespace Netlist

section Drivers

variable {crossed picked : String → Bool} {s : Schematic} {n : Netlist}

/-- The drivers of a net are the same, in some order. -/
theorem perm_drivers_turn (net : Net) :
    ((n.turn crossed picked).drivers (s.turn picked) (net.turn crossed)).Perm (n.drivers s net) :=
  (net.perm_ports_turn crossed).filter _

/-- A net has the same driver, or lacks it for the same reason. -/
theorem driver_turn (net : Net) :
    (n.turn crossed picked).driver (s.turn picked) (net.turn crossed) = n.driver s net := by
  have hperm : ((n.turn crossed picked).drivers (s.turn picked) (net.turn crossed)).Perm
      (n.drivers s net) := perm_drivers_turn net
  unfold driver
  rw [Net.name_turn]
  match hdrivers : n.drivers s net with
  | [] =>
    rw [hdrivers] at hperm
    rw [hperm.eq_nil]
  | [p] =>
    rw [hdrivers] at hperm
    rw [List.perm_singleton.1 hperm]
  | p :: q :: rest =>
    rw [hdrivers] at hperm
    -- More than one driver: only their number is reported.
    have hlen := hperm.length_eq
    match hturned : (n.turn crossed picked).drivers (s.turn picked) (net.turn crossed) with
    | [] => simp [hturned] at hlen
    | [p'] => simp [hturned] at hlen
    | p' :: q' :: rest' =>
      rw [hturned] at hlen
      exact congrArg (fun count => Except.error (DriverError.overdriven net.name count)) hlen

end Drivers

/-! ### Verdicts -/

section Verdicts

variable (crossed picked : String → Bool) (s : Schematic) (n : Netlist)

/-- The check of drivers counts them. -/
theorem run_noMultipleDrivers_turn :
    ((n.turn crossed picked).noMultipleDrivers (s.turn picked)).run.2 =
      (n.noMultipleDrivers s).run.2 := by
  have hempty : ((n.turn crossed picked).multipleDrivers (s.turn picked)).isEmpty =
      (n.multipleDrivers s).isEmpty := by
    have hlen (net : Net) :
        ((n.turn crossed picked).drivers (s.turn picked) (net.turn crossed)).length =
          (n.drivers s net).length := (perm_drivers_turn net).length_eq
    rw [Bool.eq_iff_iff, List.isEmpty_iff, List.isEmpty_iff]
    unfold multipleDrivers
    show (n.nets.map (Net.turn crossed)).filterMap _ = [] ↔ _
    simp only [List.filterMap_eq_nil_iff, List.forall_mem_map, hlen, ite_eq_right_iff, reduceCtorEq,
      imp_false]
  unfold noMultipleDrivers
  rw [Check.run_ofViolations, Check.run_ofViolations, hempty]

/-- The check of inputs asks only whether a port has a net. -/
theorem run_noUnconnectedInputs_turn :
    ((n.turn crossed picked).noUnconnectedInputs (s.turn picked)).run.2 =
      (n.noUnconnectedInputs s).run.2 := by
  have hsame : (n.turn crossed picked).unconnectedInputs (s.turn picked) =
      n.unconnectedInputs s := by
    unfold unconnectedInputs
    simp only [netOf?_turn, Option.isNone_map]
    rfl
  unfold noUnconnectedInputs
  rw [hsame]

/-- The check of unmerged wires asks only whether there is one. -/
theorem run_noUnmergedConnections_turn :
    (n.turn crossed picked).noUnmergedConnections.run.2 = n.noUnmergedConnections.run.2 := by
  unfold noUnmergedConnections unmergedConnections
  rw [Check.run_ofViolations, Check.run_ofViolations]
  simp [turn]

end Verdicts

end Netlist

namespace Vhdl

open Outcome

/-! ### Turning the nets of a survey -/

/-- A place with its net turned. -/
def Place.turn (crossed : String → Bool) : Place → Place
  | .input pin net => .input pin (net.turn crossed)
  | .output pin net => .output pin (net.turn crossed)
  | .inner node primitive => .inner node primitive
  | .nowhere => .nowhere

/-- A survey with all nets turned. -/
def Survey.turn (crossed : String → Bool) (v : Survey) : Survey where
  inputs := v.inputs.map fun e => (e.1, e.2.turn crossed)
  outputs := v.outputs.map fun e => (e.1, e.2.turn crossed)
  inner := v.inner

section Turn

variable {crossed picked : String → Bool} {s : Schematic} {n : Netlist}

theorem portNet_turn (node : Node) (port : String) :
    portNet (n.turn crossed picked) node port =
      (portNet n node port).map (Option.map (Net.turn crossed)) := by
  unfold portNet
  simp only [Netlist.netOf?_turn, map_bind]
  rfl

theorem place_turn (k : NodeKinds) (node : Node) :
    place k (n.turn crossed picked) node = (place k n node).map (Place.turn crossed) := by
  unfold place
  rw [map_bind]
  refine bind_congr fun primitive => ?_
  cases primitive with
  | inputPin =>
    show (portNet _ node "out" >>= _) = (portNet n node "out" >>= _).map _
    rw [portNet_turn, bind_map, map_bind]
    refine bind_congr fun net => ?_
    cases net <;> rfl
  | outputPin =>
    show (portNet _ node "in" >>= _) = (portNet n node "in" >>= _).map _
    rw [portNet_turn, bind_map, map_bind]
    refine bind_congr fun net => ?_
    cases net <;> rfl
  | register params => rfl
  | unsupported => rfl

/-- A net is in a list iff it is there turned. -/
theorem mem_map_turn {net : Net} {nets : List Net} :
    net.turn crossed ∈ nets.map (Net.turn crossed) ↔ net ∈ nets :=
  List.mem_map_of_injective (Net.turn_injective crossed)

theorem put_turn (v : Survey) (p : Place) :
    (v.turn crossed).put (p.turn crossed) = (v.put p).turn crossed := by
  cases p with
  | input pin net =>
    have hnets : (v.turn crossed).inputs.map (·.2) = (v.inputs.map (·.2)).map (Net.turn crossed) := by
      simp [Survey.turn]
    have hmem : net.turn crossed ∈ (v.turn crossed).inputs.map (·.2) ↔ net ∈ v.inputs.map (·.2) := by
      rw [hnets, mem_map_turn]
    by_cases h : net ∈ v.inputs.map (·.2)
    · simp only [Survey.put, Place.turn, if_pos h, if_pos (hmem.2 h)]
    · simp only [Survey.put, Place.turn, if_neg h, if_neg fun h' => h (hmem.1 h')]
      simp [Survey.turn]
  | output pin net => simp [Survey.put, Place.turn, Survey.turn]
  | inner node primitive => rfl
  | nowhere => rfl

theorem foldl_put_turn (places : List Place) (v : Survey) :
    (places.map (Place.turn crossed)).foldl Survey.put (v.turn crossed) =
      (places.foldl Survey.put v).turn crossed := by
  induction places generalizing v with
  | nil => rfl
  | cons p places ih => rw [List.map_cons, List.foldl_cons, List.foldl_cons, put_turn, ih]

/-! ### The parts of a compilation -/

theorem foldl_addNet_turn (added nets : List Net) :
    (added.map (Net.turn crossed)).foldl addNet (nets.map (Net.turn crossed)) =
      (added.foldl addNet nets).map (Net.turn crossed) := by
  induction added generalizing nets with
  | nil => rfl
  | cons net added ih =>
    have hstep : addNet (nets.map (Net.turn crossed)) (net.turn crossed) =
        (addNet nets net).map (Net.turn crossed) := by
      unfold addNet
      by_cases h : net ∈ nets
      · rw [if_pos h, if_pos (mem_map_turn.2 h)]
      · rw [if_neg h, if_neg fun h' => h (mem_map_turn.1 h')]
        simp
    rw [List.map_cons, List.foldl_cons, List.foldl_cons, hstep, ih]

/-- The same nets become signals, in the same order. -/
theorem signalNets_turn (v : Survey) :
    (v.turn crossed).signalNets (n.turn crossed picked) =
      (v.signalNets n).map (Net.turn crossed) := by
  unfold Survey.signalNets
  rw [← foldl_addNet_turn]
  congr 1
  simp only [Survey.turn, List.map_append, List.map_map, List.map_flatMap, List.map_filterMap,
    Netlist.netOf?_turn]
  rfl

theorem netName_turn (net : Net) : netName (net.turn crossed) = netName net := by
  unfold netName
  rw [Net.name_turn]

/-- The signal of a net is the same. -/
theorem signalOf_turn (k : NodeKinds) (net : Net) :
    signalOf k (s.turn picked) (n.turn crossed picked) (net.turn crossed) = signalOf k s n net := by
  unfold signalOf initialValue
  rw [Netlist.driver_turn, netName_turn]
  rfl

theorem signals_turn (k : NodeKinds) (v : Survey) :
    (v.turn crossed).signals k (s.turn picked) (n.turn crossed picked) = v.signals k s n := by
  unfold Survey.signals
  rw [signalNets_turn, List.mapM_map]
  congr 1
  funext net
  exact signalOf_turn k net

theorem inputName_turn (node : Node) (port : String) :
    inputName (n.turn crossed picked) node port = inputName n node port := by
  unfold inputName
  rw [portNet_turn, bind_map]
  refine bind_congr fun net => ?_
  cases net with
  | none => rfl
  | some net =>
    show Except.ok (netName (net.turn crossed)) = Except.ok (netName net)
    rw [netName_turn]

/-- The processes of an inner node are the same. -/
theorem processesOf_turn (e : Node × Primitive) :
    processesOf (n.turn crossed picked) e = processesOf n e := by
  obtain ⟨node, primitive⟩ := e
  cases primitive with
  | register params =>
    have hprocess (output : Net) :
        registerProcess (n.turn crossed picked) node params (output.turn crossed) =
          registerProcess n node params output := by
      unfold registerProcess
      simp only [inputName_turn, netName_turn]
    show (portNet _ node "out" >>= _) = (portNet n node "out" >>= _)
    rw [portNet_turn, bind_map]
    refine bind_congr fun net => ?_
    cases net with
    | none => rfl
    | some output =>
      simp only [Option.map_some]
      rw [hprocess]
  | inputPin => rfl
  | outputPin => rfl
  | unsupported => rfl

/-- Only names of nets get into ports and assignments. -/
theorem assignments_turn (v : Survey) : (v.turn crossed).assignments = v.assignments := by
  simp [Survey.assignments, Survey.turn, Function.comp_def, netName_turn]

theorem ports_turn (v : Survey) : (v.turn crossed).ports = v.ports := by
  simp [Survey.ports, Survey.turn, Function.comp_def]

end Turn

/-- The compilation has the same entity or the same error. -/
theorem result_compile_turn (crossed picked : String → Bool) (s : Schematic) (n : Netlist) :
    (compile (s.turn picked) (n.turn crossed picked)).result = (compile s n).result := by
  unfold compile
  simp only [Logged.result_bind, result_lift, result_survey, result_processes]
  show (NodeKinds.of s >>= _) = _
  refine bind_congr fun k => ?_
  show ((s.nodes.mapM (place k (n.turn crossed picked))).map _ >>= _) = _
  rw [mapM_map_result (place_turn k) s.nodes, bind_map, bind_map, bind_map]
  refine bind_congr fun places => ?_
  have hsurvey : (places.map (Place.turn crossed)).foldl Survey.put {} =
      (places.foldl Survey.put {}).turn crossed := foldl_put_turn places {}
  have hprocesses : processesOf (n.turn crossed picked) = processesOf n := funext processesOf_turn
  rw [hsurvey, signals_turn, ports_turn, assignments_turn, hprocesses]
  rfl

theorem result_generate_turn (crossed picked : String → Bool) (s : Schematic) (n : Netlist) :
    (generate (s.turn picked) (n.turn crossed picked)).result = (generate s n).result := by
  unfold generate
  simp only [Logged.result_bind, Logged.result_report, Logged.result_ofExcept, ok_bind,
    result_compile_turn]

end Vhdl

namespace Netlist

/-- **Wires have no direction.** When the ends of any connections are exchanged, a schematic
    has a netlist iff it had one. The nets are the same up to the order of their ports, every
    port has the same net, and the same wires are unmerged, with their nets exchanged where
    the ends were. All checks have the same verdict, and the code is the same, or fails with
    the same error. Connections are picked by name, which no two share. -/
theorem wires_undirected {s : Schematic} (hs : s.Reachable) (picked : String → Bool) :
    ((∃ n, (build s).result = .ok n) ↔ ∃ m, (build (s.turn picked)).result = .ok m) ∧
    ∀ n m, (build s).result = .ok n → (build (s.turn picked)).result = .ok m →
      List.Forall₂ (fun a b => a.name = b.name ∧ a.ports.Perm b.ports) n.nets m.nets ∧
      (∀ p, (n.netOf? p).map (·.name) = (m.netOf? p).map (·.name)) ∧
      m.unmerged = n.unmerged.map (Unmerged.turn picked) ∧
      (m.noMultipleDrivers (s.turn picked)).run.2 = (n.noMultipleDrivers s).run.2 ∧
      (m.noUnconnectedInputs (s.turn picked)).run.2 = (n.noUnconnectedInputs s).run.2 ∧
      m.noUnmergedConnections.run.2 = n.noUnmergedConnections.run.2 ∧
      (Vhdl.generate (s.turn picked) m).result = (Vhdl.generate s n).result := by
  refine ⟨?_, ?_⟩
  · constructor
    · rintro ⟨n, hn⟩
      exact ⟨_, (build_turn hs.consistent).2 ⟨n, hn, rfl⟩⟩
    · rintro ⟨m, hm⟩
      obtain ⟨n, hn, -⟩ := (build_turn hs.consistent).1 hm
      exact ⟨n, hn⟩
  · intro n m hn hm
    obtain ⟨n', hn', rfl⟩ := (build_turn hs.consistent).1 hm
    have hsame : n' = n := Except.ok.inj (hn'.symm.trans hn)
    subst hsame
    refine ⟨?_, ?_, rfl, run_noMultipleDrivers_turn _ _ s n', run_noUnconnectedInputs_turn _ _ s n',
      run_noUnmergedConnections_turn _ _ n', Vhdl.result_generate_turn _ _ s n'⟩
    · show List.Forall₂ _ n'.nets (n'.nets.map _)
      rw [List.forall₂_map_right_iff, List.forall₂_same]
      intro net _
      exact ⟨(net.name_turn _).symm, (net.perm_ports_turn _).symm⟩
    · intro p
      rw [netOf?_turn, Option.map_map]
      congr 1
      funext net
      exact (net.name_turn _).symm

/-- The circuit with a loop, two nets and an unmerged wire between them, each of which is
    written the other way. The code is the same. -/
theorem wires_undirected_tangle :
    tangle.Reachable ∧ (build tangle).result = .ok tangleNetlist ∧
      ∃ m text, (build (tangle.turn (· ∈ ["c0", "c1", "c4"]))).result = .ok m ∧
        m.unmerged = [⟨"c4", "n_c0", "n_c1"⟩] ∧
        (m.netOf? ⟨"q", "in"⟩).map (·.name) = some "n_c1" ∧
        (Vhdl.generate tangle tangleNetlist).result = .ok text ∧
        (Vhdl.generate (tangle.turn (· ∈ ["c0", "c1", "c4"])) m).result = .ok text := by
  have hreach : tangle.Reachable := (Schematic.Reachable.new _).foldl (by decide +kernel)
  have hbuild : (build tangle).result = .ok tangleNetlist := by decide +kernel
  obtain ⟨hiff, hsame⟩ := wires_undirected hreach (· ∈ ["c0", "c1", "c4"])
  obtain ⟨m, hm⟩ := hiff.1 ⟨_, hbuild⟩
  obtain ⟨-, hlookup, hunmerged, -, -, -, hgenerate⟩ := hsame _ m hbuild hm
  obtain ⟨text, htext⟩ : ∃ text, (Vhdl.generate tangle tangleNetlist).result = .ok text :=
    Outcome.exists_ok (by decide +kernel)
  refine ⟨hreach, hbuild, m, text, hm, hunmerged.trans ?_, (hlookup _).symm.trans ?_, htext,
    hgenerate.trans htext⟩
  · decide +kernel
  · decide +kernel

end Netlist

end Netlister
