import Mathlib.Data.Finset.Card
import Netlister.Proofs.Check.Gating
import Netlister.Proofs.Netlist.Connectivity

/-! # What the check of drivers knows about wires

  The check of drivers looks at the nets of a netlist, one by one. What matters is whether
  wires join two ports that both give a bit, over however many other ports.

  - Two such ports on one net are joined by wires, so a report is never wrong.
  - Two such ports on different nets are not seen by the check. They can be joined only
    through an unmerged wire, so nothing is missed where there is none.

  The order of a report is that of the wires: nets stand in the order of the wires that made
  them (`InOrder.created`), and the ports of a net in the order in which wires arrived at
  them (`InOrder.joined`).
-/

namespace Netlister

/-- The port gives a bit: its type is the one registered under the standard name. -/
def Schematic.givesBit (s : Schematic) (p : PortRef) : Bool :=
  match s.port? p with
  | some port => s.portTypes.find? Digital.outPort = some port.type
  | none => false

/-- The ports of a net that give a bit, in the order in which they joined it. -/
def Schematic.givers (s : Schematic) (net : Net) : List PortRef := net.ports.filter s.givesBit

namespace Netlist

/-! ### The order of nets and ports -/

/-- A port is met: it is put at the end, unless it was met before. -/
def meet (met : List PortRef) (p : PortRef) : List PortRef := if p ∈ met then met else met ++ [p]

/-- The ends of wires in the order in which they are first met. -/
def arrivals (cs : List Connection) : List PortRef :=
  cs.foldl (fun met c => meet (meet met c.source) c.target) []

theorem arrivals_concat (cs : List Connection) (c : Connection) :
    arrivals (cs ++ [c]) = meet (meet (arrivals cs) c.source) c.target := by
  simp [arrivals]

theorem meet_of_mem {met : List PortRef} {p : PortRef} (h : p ∈ met) : meet met p = met := if_pos h

theorem meet_of_not_mem {met : List PortRef} {p : PortRef} (h : p ∉ met) :
    meet met p = met ++ [p] := if_neg h

theorem mem_meet {met : List PortRef} {p q : PortRef} : q ∈ meet met p ↔ q ∈ met ∨ q = p := by
  by_cases h : p ∈ met
  · rw [meet_of_mem h]
    constructor
    · exact .inl
    · rintro (hq | rfl)
      · exact hq
      · exact h
  · rw [meet_of_not_mem h, List.mem_append, List.mem_singleton]

/-- What is met is what wires end at. -/
theorem mem_arrivals {cs : List Connection} {p : PortRef} : p ∈ arrivals cs ↔ IsEnd cs p := by
  induction cs using List.reverseRecOn with
  | nil => simp [arrivals, IsEnd]
  | append_singleton cs c ih =>
    rw [arrivals_concat, mem_meet, mem_meet, ih]
    unfold IsEnd
    simp only [List.mem_append, List.mem_singleton, or_and_right, exists_or, exists_eq_left,
      or_assoc]

/-- Nets and their ports stand in the order of the wires `cs`. -/
structure InOrder (n : Netlist) (cs : List Connection) : Prop where
  /-- Nets stand in the order of the wires that made them. -/
  created : (n.nets.map (·.wire)).Sublist (cs.map (·.name))
  /-- The ports of a net stand in the order in which they were met. -/
  joined : ∀ net ∈ n.nets, net.ports.Sublist (arrivals cs)

section Order

variable {n : Netlist} {cs : List Connection} {c : Connection}

/-- A port that is on no net has not been met. -/
theorem Represents.not_mem_arrivals (hr : n.Represents cs) {p : PortRef} (hp : n.Free p) :
    p ∉ arrivals cs := by
  intro hmem
  obtain ⟨net, hnet⟩ := hr.exists_net (mem_arrivals.1 hmem)
  obtain ⟨hnetmem, hport⟩ := mem_of_netOf? hnet
  exact hp net hnetmem hport

/-- A port on a net has been met. -/
theorem Represents.mem_arrivals (hr : n.Represents cs) {net : Net} (hnet : net ∈ n.nets)
    {p : PortRef} (hp : p ∈ net.ports) : p ∈ arrivals cs :=
  Netlist.mem_arrivals.2 (hr.ends net hnet p hp)

/-- A wire between two free ports meets the ports of the net that it makes. -/
theorem arrivals_create (hs : c.source ∉ arrivals cs) (ht : c.target ∉ arrivals cs) :
    arrivals (cs ++ [c]) = arrivals cs ++ (newNet c).ports := by
  rw [arrivals_concat, meet_of_not_mem hs]
  by_cases heq : c.source = c.target
  · have hmet : c.target ∈ arrivals cs ++ [c.source] := by simp [heq]
    rw [meet_of_mem hmet]
    simp [newNet, heq]
  · have hnot : c.target ∉ arrivals cs ++ [c.source] := by
      intro hmem
      rcases List.mem_append.1 hmem with hmem | hmem
      · exact ht hmem
      · exact heq (List.mem_singleton.1 hmem).symm
    rw [meet_of_not_mem hnot, List.append_assoc]
    simp [newNet, heq]

/-- A wire from a net to a free port meets this port, in whichever direction it is written. -/
theorem arrivals_join {p q : PortRef}
    (hends : p = c.source ∧ q = c.target ∨ p = c.target ∧ q = c.source) (hp : p ∈ arrivals cs)
    (hq : q ∉ arrivals cs) : arrivals (cs ++ [c]) = arrivals cs ++ [q] := by
  rw [arrivals_concat]
  rcases hends with ⟨rfl, rfl⟩ | ⟨rfl, rfl⟩
  · rw [meet_of_mem hp, meet_of_not_mem hq]
  · rw [meet_of_not_mem hq, meet_of_mem (List.mem_append_left _ hp)]

/-- One more wire keeps the order. -/
theorem InOrder.connect (h : n.InOrder cs) (hr : n.Represents cs) :
    (n.connect c).InOrder (cs ++ [c]) := by
  have hnames : (cs.map (·.name)).Sublist ((cs ++ [c]).map (·.name)) := by
    rw [List.map_append]
    exact List.sublist_append_left _ _
  rcases n.connect_cases c with ⟨hs, ht, heq⟩ | ⟨net, hnet, p, q, hends, hp, hq, heq⟩ |
    ⟨a, ha, b, hb, hs, ht, hab⟩
  · -- The new net stands last, and so do its ports.
    have harrive := arrivals_create (hr.not_mem_arrivals hs) (hr.not_mem_arrivals ht)
    rw [heq]
    constructor
    · rw [List.map_append, List.map_append]
      exact h.created.append (.refl _)
    · rw [harrive]
      refine List.forall_mem_append.2 ⟨?_, List.forall_mem_singleton.2 ?_⟩
      · intro net hnet
        exact (h.joined net hnet).trans (List.sublist_append_left _ _)
      · exact List.sublist_append_right _ _
  · -- The port that joins is the last one of its net, and the last one met.
    have harrive := arrivals_join hends (hr.mem_arrivals hnet hp) (hr.not_mem_arrivals hq)
    rw [heq]
    constructor
    · rw [map_wire_join]
      exact h.created.trans hnames
    · intro other hother
      rw [harrive]
      rcases mem_nets_join.1 hother with ⟨-, rfl⟩ | ⟨hother, -⟩
      · exact (h.joined net hnet).append (.refl _)
      · exact (h.joined other hother).trans (List.sublist_append_left _ _)
  · -- Both ends were met before.
    have harrive : arrivals (cs ++ [c]) = arrivals cs := by
      rw [arrivals_concat, meet_of_mem (hr.mem_arrivals ha hs), meet_of_mem (hr.mem_arrivals hb ht)]
    have hkeep : n.InOrder (cs ++ [c]) :=
      ⟨h.created.trans hnames, fun net hnet => harrive ▸ h.joined net hnet⟩
    rcases hab with ⟨-, heq⟩ | ⟨-, heq⟩
    · rw [heq]
      exact hkeep
    · rw [heq]
      exact ⟨hkeep.created, hkeep.joined⟩

end Order

/-- All wires, with different names. -/
theorem inOrder_foldl (inPort outPort : PortType) {cs : List Connection}
    (h : (cs.map (·.name)).Nodup) :
    (cs.foldl connect ⟨inPort, outPort, [], []⟩).InOrder cs := by
  induction cs using List.reverseRecOn with
  | nil => exact ⟨.refl _, by simp⟩
  | append_singleton cs c ih =>
    have hcs : (cs.map (·.name)).Nodup := by
      rw [List.map_append] at h
      exact h.of_append_left
    rw [List.foldl_concat]
    exact (ih hcs).connect (represents_foldl inPort outPort hcs)

/-- The netlist of a consistent schematic is in the order of its connections. -/
theorem inOrder_of_build {s : Schematic} {n : Netlist} (hs : s.Consistent)
    (h : (build s).result = .ok n) : n.InOrder s.connections := by
  obtain ⟨v, -, -, -, rfl⟩ := build_eq_ok.1 h
  exact inOrder_foldl v.inPort v.outPort hs.connectionNames

/-! ### What the check reports -/

section Report

variable {s : Schematic} {n : Netlist}

/-- A netlist recognises the ports that give a bit. -/
theorem isOutput_eq_givesBit (h : (build s).result = .ok n) (p : PortRef) :
    n.isOutput s p = s.givesBit p := by
  unfold isOutput Schematic.givesBit
  rw [(find?_of_build h).2]
  cases s.port? p with
  | none => simp
  | some port => simp [eq_comm]

/-- The drivers of a net are its ports that give a bit. -/
theorem drivers_eq_givers (h : (build s).result = .ok n) (net : Net) :
    n.drivers s net = s.givers net :=
  List.filter_congr fun p _ => isOutput_eq_givesBit h p

/-- There is a violation for each net with several ports that give a bit. -/
theorem multipleDrivers_eq (h : (build s).result = .ok n) :
    n.multipleDrivers s = (n.nets.filter fun net => 2 ≤ (s.givers net).length).map fun net =>
      .multipleDrivers net.name ((s.givers net).map PortRef.path) := by
  have hmap (f : Net → Violation) (nets : List Net) :
      nets.map f = nets.filterMap fun net => some (f net) := by
    rw [List.filterMap_eq_map']
  unfold multipleDrivers
  rw [hmap, List.filterMap_filter]
  refine List.filterMap_congr fun net _ => ?_
  rw [drivers_eq_givers h]
  simp [Nat.succ_le_iff]

/-- The check passes iff no net has several ports that give a bit. -/
theorem run_noMultipleDrivers (h : (build s).result = .ok n) :
    (n.noMultipleDrivers s).run.2 =
      .ok (decide (∀ net ∈ n.nets, (s.givers net).length < 2)) := by
  have hempty : (n.multipleDrivers s).isEmpty =
      decide (∀ net ∈ n.nets, (s.givers net).length < 2) := by
    rw [multipleDrivers_eq h, Bool.eq_iff_iff]
    simp
  rw [noMultipleDrivers, Check.run_ofViolations, hempty]

/-- The check passes iff no wire is unmerged. -/
theorem run_noUnmergedConnections (n : Netlist) :
    n.noUnmergedConnections.run.2 = .ok n.unmerged.isEmpty := by
  rw [noUnmergedConnections, Check.run_ofViolations, unmergedConnections, List.isEmpty_map]

end Report

/-! ### What wires join -/

section Wires

variable {s : Schematic} {n : Netlist}

/-- A net has several ports that give a bit iff two different ones do. -/
theorem two_le_givers_iff (hr : n.Represents s.connections) {net : Net} (hnet : net ∈ n.nets) :
    2 ≤ (s.givers net).length ↔
      ∃ p q, p ∈ net.ports ∧ q ∈ net.ports ∧ p ≠ q ∧ s.givesBit p ∧ s.givesBit q := by
  have hnodup : (s.givers net).Nodup := (hr.once net hnet).filter _
  rw [← List.toFinset_card_of_nodup hnodup, Nat.succ_le_iff, Finset.one_lt_card]
  simp only [Schematic.givers, List.mem_toFinset, List.mem_filter]
  constructor
  · rintro ⟨p, ⟨hp, hpbit⟩, q, ⟨hq, hqbit⟩, hne⟩
    exact ⟨p, q, hp, hq, hne, hpbit, hqbit⟩
  · rintro ⟨p, q, hp, hq, hne, hpbit, hqbit⟩
    exact ⟨p, ⟨hp, hpbit⟩, q, ⟨hq, hqbit⟩, hne⟩

/-- Two ports that give a bit on one net are joined by wires. -/
theorem exists_chained_of_givers (hr : n.Represents s.connections) (hc : n.Connects s.connections)
    {net : Net} (hnet : net ∈ n.nets) (h : 2 ≤ (s.givers net).length) :
    ∃ p q, p ≠ q ∧ s.givesBit p ∧ s.givesBit q ∧ Chained s.connections p q := by
  obtain ⟨p, q, hp, hq, hne, hpbit, hqbit⟩ := (two_le_givers_iff hr hnet).1 h
  have hjoined : Chained s.connections p q :=
    hc.joined net.name p q ⟨net, hnet, rfl, hp⟩ ⟨net, hnet, rfl, hq⟩
  exact ⟨p, q, hne, hpbit, hqbit, hjoined⟩

/-- Without unmerged wires, different ports that wires join are on one net. -/
theorem exists_net_of_chained (hr : n.Represents s.connections) (hc : n.Connects s.connections)
    (hmerged : n.unmerged = []) {p q : PortRef} (hne : p ≠ q) (h : Chained s.connections p q) :
    ∃ net ∈ n.nets, p ∈ net.ports ∧ q ∈ net.ports := by
  rcases linked_of_chained hr hc h with heq | ⟨a, b, ⟨net, hnet, hname, hp⟩,
    ⟨other, hother, hname', hq⟩, hlinked⟩
  · exact absurd heq hne
  · -- Nets that are linked through no wire at all have one name.
    have hnames : net.name = other.name := by
      rw [hname, hname']
      exact eq_of_linked hmerged hlinked
    have hsame : net = other := hr.eq_of_wire_eq hnet hother (wire_eq_of_name_eq hnames)
    subst hsame
    exact ⟨net, hnet, hp, hq⟩

end Wires

/-- **The check of drivers is sound for wires, and complete where none is unmerged.** Its
    violations are the nets with several ports that give a bit, in the order of the wires that
    made them, each with all of these ports in the order in which wires arrived at them. It
    passes iff there are none. If it fails, wires join two different ports that give a bit;
    if it passes and no wire is unmerged, wires join no two. -/
theorem driver_check_sound_complete {s : Schematic} {n : Netlist} (hs : s.Reachable)
    (h : (build s).result = .ok n) :
    (n.noMultipleDrivers s).run.1.violations =
      ((n.nets.filter fun net => 2 ≤ (s.givers net).length).map fun net =>
        .multipleDrivers net.name ((s.givers net).map PortRef.path)) ∧
    n.InOrder s.connections ∧
    (∀ net ∈ n.nets, 2 ≤ (s.givers net).length ↔
      ∃ p q, p ∈ net.ports ∧ q ∈ net.ports ∧ p ≠ q ∧ s.givesBit p ∧ s.givesBit q) ∧
    (n.noMultipleDrivers s).run.2 = .ok (decide (∀ net ∈ n.nets, (s.givers net).length < 2)) ∧
    ((n.noMultipleDrivers s).run.2 = .ok false →
      ∃ p q, p ≠ q ∧ s.givesBit p ∧ s.givesBit q ∧ Chained s.connections p q) ∧
    ((n.noMultipleDrivers s).run.2 = .ok true → n.noUnmergedConnections.run.2 = .ok true →
      ∀ p q, p ≠ q → s.givesBit p → s.givesBit q → ¬ Chained s.connections p q) := by
  have hr := represents_of_build hs.consistent h
  have hc := connects_of_build hs.consistent h
  have hrun := run_noMultipleDrivers h
  refine ⟨multipleDrivers_eq h, inOrder_of_build hs.consistent h,
    fun net hnet => two_le_givers_iff hr hnet, hrun, ?_, ?_⟩
  · intro hfail
    rw [hrun, Except.ok.injEq, decide_eq_false_iff_not] at hfail
    push Not at hfail
    obtain ⟨net, hnet, hlen⟩ := hfail
    exact exists_chained_of_givers hr hc hnet hlen
  · intro hpass hmerged p q hne hp hq hchained
    rw [hrun, Except.ok.injEq, decide_eq_true_iff] at hpass
    rw [run_noUnmergedConnections, Except.ok.injEq, List.isEmpty_iff] at hmerged
    obtain ⟨net, hnet, hpnet, hqnet⟩ := exists_net_of_chained hr hc hmerged hne hchained
    have htwo : 2 ≤ (s.givers net).length :=
      (two_le_givers_iff hr hnet).2 ⟨p, q, hpnet, hqnet, hne, hp, hq⟩
    exact absurd (hpass net hnet) (Nat.not_lt.2 htwo)

/-! Two pins that each drive a pin of their own, and a third pin that is then wired to one of
the two nets. -/

/-- The steps that build the two nets. -/
def parallelSteps : List Schematic.Operation :=
  let d := DigitalTypes.numbered 0
  d.operations ++
    [.addNode "x" d.inputPin [] [], .addNode "y" d.inputPin [] [],
     .addNode "p" d.outputPin [] [], .addNode "q" d.outputPin [] [],
     .addConnection "c0" d.wire ⟨"x", "out"⟩ ⟨"p", "in"⟩ [],
     .addConnection "c1" d.wire ⟨"q", "in"⟩ ⟨"y", "out"⟩ []]

/-- The circuit with the two nets. -/
def parallel : Schematic := parallelSteps.foldl Schematic.perform { name := "parallel" }

/-- The steps that bring the third pin to the second net. -/
def contestedSteps : List Schematic.Operation :=
  let d := DigitalTypes.numbered 0
  [.addNode "z" d.inputPin [] [], .addConnection "c2" d.wire ⟨"z", "out"⟩ ⟨"q", "in"⟩ []]

/-- The circuit with all three pins. -/
def contested : Schematic := contestedSteps.foldl Schematic.perform parallel

/-- The netlist of the two nets. -/
def parallelNetlist : Netlist where
  inPort := (DigitalTypes.numbered 0).inPort
  outPort := (DigitalTypes.numbered 0).outPort
  nets := [⟨"c0", [⟨"x", "out"⟩, ⟨"p", "in"⟩]⟩, ⟨"c1", [⟨"q", "in"⟩, ⟨"y", "out"⟩]⟩]

/-- The netlist with the third pin. -/
def contestedNetlist : Netlist :=
  { parallelNetlist with
    nets := [⟨"c0", [⟨"x", "out"⟩, ⟨"p", "in"⟩]⟩,
      ⟨"c1", [⟨"q", "in"⟩, ⟨"y", "out"⟩, ⟨"z", "out"⟩]⟩] }

/-- No wires join the pins `x` and `y`. With the third pin the check names the pins `y` and
    `z`, and wires join two pins that give a bit. -/
theorem driver_check_sound_complete_contested :
    (parallel.Reachable ∧ (build parallel).result = .ok parallelNetlist ∧
      ¬ Chained parallel.connections ⟨"x", "out"⟩ ⟨"y", "out"⟩) ∧
    (contested.Reachable ∧ (build contested).result = .ok contestedNetlist ∧
      (contestedNetlist.noMultipleDrivers contested).run.1.violations =
        [.multipleDrivers "n_c1" ["y:out", "z:out"]] ∧
      ∃ p q, p ≠ q ∧ contested.givesBit p ∧ contested.givesBit q ∧
        Chained contested.connections p q) := by
  have hparallel : parallel.Reachable := (Schematic.Reachable.new _).foldl (by decide +kernel)
  have hbuild : (build parallel).result = .ok parallelNetlist := by decide +kernel
  have hcontested : contested.Reachable := hparallel.foldl (by decide +kernel)
  have hbuild' : (build contested).result = .ok contestedNetlist := by decide +kernel
  obtain ⟨-, -, -, -, -, hcomplete⟩ := driver_check_sound_complete hparallel hbuild
  obtain ⟨hreport, -, -, -, hsound, -⟩ := driver_check_sound_complete hcontested hbuild'
  refine ⟨⟨hparallel, hbuild, ?_⟩, hcontested, hbuild', hreport.trans ?_, hsound ?_⟩
  · exact hcomplete (by decide +kernel) (by decide +kernel) _ _ (by decide +kernel)
      (by decide +kernel) (by decide +kernel)
  · decide +kernel
  · decide +kernel

end Netlist

end Netlister
