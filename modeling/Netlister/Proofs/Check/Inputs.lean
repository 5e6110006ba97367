import Netlister.Proofs.Check.Gating
import Netlister.Proofs.Netlist.Representation
import Netlister.Proofs.Schematic.Conforming

/-! # What the check of inputs reports

  The check walks through the ports of each node and asks the netlist for their nets. The rule
  that it checks does not speak of nets: an input is unconnected if no connection ends at it.

  - `unconnectedInputs_eq`: the violations, in the order of nodes and of port names.
  - `mem_unconnectedInputs_iff`: the ports that they name.
  - `run_noUnconnectedInputs`: what it takes to pass.

  Both directions rest on what building a netlist keeps: a port has a net iff a wire ends at
  it, in whatever order the wires come.
-/

namespace Netlister

/-- The port takes a bit: its type is the one registered under the standard name. -/
def Schematic.takesBit (s : Schematic) (p : PortRef) : Bool :=
  match s.port? p with
  | some port => s.portTypes.find? Digital.inPort = some port.type
  | none => false

/-- The port takes a bit, and no connection ends at it. -/
def Schematic.Dangling (s : Schematic) (p : PortRef) : Prop :=
  s.takesBit p ∧ ¬ Netlist.IsEnd s.connections p

instance (s : Schematic) (p : PortRef) : Decidable (s.Dangling p) :=
  inferInstanceAs (Decidable (s.takesBit p ∧ ¬ Netlist.IsEnd s.connections p))

namespace Netlist

section Inputs

variable {s : Schematic} {n : Netlist}

/-- A netlist recognises the ports that take a bit. -/
theorem isInput_eq_takesBit (h : (build s).result = .ok n) (p : PortRef) :
    n.isInput s p = s.takesBit p := by
  unfold isInput Schematic.takesBit
  rw [(find?_of_build h).1]
  cases s.port? p with
  | none => simp
  | some port => simp [eq_comm]

/-- The check looks for the ports that dangle. -/
theorem isInput_and_isNone_eq (hs : s.Consistent) (h : (build s).result = .ok n) (p : PortRef) :
    (n.isInput s p && (n.netOf? p).isNone) = decide (s.Dangling p) := by
  rw [Bool.eq_iff_iff, Bool.and_eq_true, isInput_eq_takesBit h,
    (represents_of_build hs h).isNone_netOf?_iff, decide_eq_true_iff]
  rfl

/-- There is a violation for each port that dangles, in the order of ports. -/
theorem unconnectedInputs_eq_map (hs : s.Consistent) (h : (build s).result = .ok n) :
    n.unconnectedInputs s =
      (s.portRefs.filter fun p => s.Dangling p).map fun p => .unconnectedInput p.node p.port := by
  unfold unconnectedInputs
  rw [← List.filterMap_eq_map', List.filterMap_filter]
  refine List.filterMap_congr fun p _ => ?_
  rw [isInput_and_isNone_eq hs h]

/-- The violations go through the nodes in order, and through the ports of each by name. -/
theorem unconnectedInputs_eq (hs : s.Consistent) (h : (build s).result = .ok n) :
    n.unconnectedInputs s = s.nodes.flatMap fun node =>
      ((node.ports.map (·.name)).filter fun port => s.Dangling ⟨node.name, port⟩).map
        (.unconnectedInput node.name) := by
  rw [unconnectedInputs_eq_map hs h, Schematic.portRefs, List.filter_flatMap, List.map_flatMap]
  congr 1
  funext node
  unfold Node.portRefs
  rw [List.filter_map, List.filter_map, List.map_map, List.map_map]
  rfl

/-- Only ports of the schematic dangle. -/
theorem mem_portRefs_of_dangling (hs : s.Consistent) {p : PortRef} (h : s.Dangling p) :
    p ∈ s.portRefs := by
  rw [hs.mem_portRefs_iff_isSome]
  have htakes := h.1
  unfold Schematic.takesBit at htakes
  cases hp : s.port? p with
  | some port => rfl
  | none => simp [hp] at htakes

/-- The ports that the violations name are those that dangle. -/
theorem mem_unconnectedInputs_iff (hs : s.Consistent) (h : (build s).result = .ok n)
    {violation : Violation} : violation ∈ n.unconnectedInputs s ↔
      ∃ p, s.Dangling p ∧ violation = .unconnectedInput p.node p.port := by
  rw [unconnectedInputs_eq_map hs h]
  simp only [List.mem_map, List.mem_filter, decide_eq_true_iff]
  constructor
  · rintro ⟨p, ⟨-, hp⟩, rfl⟩
    exact ⟨p, hp, rfl⟩
  · rintro ⟨p, hp, rfl⟩
    exact ⟨p, ⟨mem_portRefs_of_dangling hs hp, hp⟩, rfl⟩

/-- No port is named twice. -/
theorem nodup_unconnectedInputs (hs : s.Consistent) (h : (build s).result = .ok n) :
    (n.unconnectedInputs s).Nodup := by
  rw [unconnectedInputs_eq_map hs h]
  refine (hs.nodup_portRefs.filter _).map ?_
  intro p q heq
  obtain ⟨hnode, hport⟩ := Violation.unconnectedInput.inj heq
  cases p
  cases q
  simp_all

/-- The check passes iff no port dangles. -/
theorem run_noUnconnectedInputs (hs : s.Consistent) (h : (build s).result = .ok n) :
    (n.noUnconnectedInputs s).run.2 = .ok (decide (∀ p ∈ s.portRefs, ¬ s.Dangling p)) := by
  have hempty : (n.unconnectedInputs s).isEmpty =
      decide (∀ p ∈ s.portRefs, ¬ s.Dangling p) := by
    rw [unconnectedInputs_eq_map hs h, Bool.eq_iff_iff]
    simp
  rw [noUnconnectedInputs, Check.run_ofViolations, hempty]

end Inputs

/-- **The check of inputs is exact.** Its violations go through the nodes in the order of
    their creation, and through the ports of each in the order of their names. They name
    every port once that takes a bit and at which no connection ends, and no other. The check
    passes iff there is no such port. -/
theorem input_check_exact {s : Schematic} {n : Netlist} (hs : s.Reachable)
    (h : (build s).result = .ok n) :
    (n.noUnconnectedInputs s).run.1.violations = (s.nodes.flatMap fun node =>
      ((node.ports.map (·.name)).filter fun port => s.Dangling ⟨node.name, port⟩).map
        (.unconnectedInput node.name)) ∧
    (∀ node ∈ s.nodes, (node.ports.map (·.name)).Pairwise (· < ·)) ∧
    (n.noUnconnectedInputs s).run.1.violations.Nodup ∧
    (∀ violation, violation ∈ (n.noUnconnectedInputs s).run.1.violations ↔
      ∃ p, s.Dangling p ∧ violation = .unconnectedInput p.node p.port) ∧
    (n.noUnconnectedInputs s).run.2 = .ok (decide (∀ p ∈ s.portRefs, ¬ s.Dangling p)) ∧
    ∀ p, s.Dangling p → p ∈ s.portRefs := by
  have hc := hs.consistent
  have hviolations : (n.noUnconnectedInputs s).run.1.violations = n.unconnectedInputs s := rfl
  rw [hviolations]
  exact ⟨unconnectedInputs_eq hc h, fun node hnode => (hc.ports node hnode).ascending,
    nodup_unconnectedInputs hc h, fun violation => mem_unconnectedInputs_iff hc h,
    run_noUnconnectedInputs hc h, fun p => mem_portRefs_of_dangling hc⟩

/-! An output pin that is not wired, and two registers that are wired in part. The clock of
    the first comes by a wire that is written the other way round. -/

/-- The steps that construct the circuit. -/
def unfinishedSteps : List Schematic.Operation :=
  let d := DigitalTypes.numbered 0
  let params : RegisterParams := {}
  d.operations ++
    [.addNode "q" d.outputPin [] [], .addNode "x" d.inputPin [] [],
     .addNode "b" d.register params.toAttributes [],
     .addNode "a" d.register params.toAttributes [],
     .addConnection "c0" d.wire ⟨"x", "out"⟩ ⟨"b", "in"⟩ [],
     .addConnection "c1" d.wire ⟨"b", "clock"⟩ ⟨"x", "out"⟩ [],
     .addConnection "c2" d.wire ⟨"b", "out"⟩ ⟨"a", "clock"⟩ []]

/-- The circuit. -/
def unfinished : Schematic := unfinishedSteps.foldl Schematic.perform { name := "unfinished" }

/-- The netlist of the circuit. -/
def unfinishedNetlist : Netlist where
  inPort := (DigitalTypes.numbered 0).inPort
  outPort := (DigitalTypes.numbered 0).outPort
  nets := [⟨"c0", [⟨"x", "out"⟩, ⟨"b", "in"⟩, ⟨"b", "clock"⟩]⟩,
    ⟨"c2", [⟨"b", "out"⟩, ⟨"a", "clock"⟩]⟩]

/-- The pin and the first register come before the second one, which has the lesser name. -/
theorem input_check_exact_unfinished :
    unfinished.Reachable ∧ (build unfinished).result = .ok unfinishedNetlist ∧
    (unfinishedNetlist.noUnconnectedInputs unfinished).run.1.violations =
      [.unconnectedInput "q" "in", .unconnectedInput "b" "reset",
       .unconnectedInput "a" "in", .unconnectedInput "a" "reset"] ∧
    (unfinishedNetlist.noUnconnectedInputs unfinished).run.2 = .ok false := by
  have hreach : unfinished.Reachable := (Schematic.Reachable.new _).foldl (by decide +kernel)
  have hbuild : (build unfinished).result = .ok unfinishedNetlist := by decide +kernel
  obtain ⟨hviolations, -, -, -, hrun, -⟩ := input_check_exact hreach hbuild
  refine ⟨hreach, hbuild, hviolations.trans ?_, hrun.trans ?_⟩
  · decide +kernel
  · decide +kernel

end Netlist

end Netlister
