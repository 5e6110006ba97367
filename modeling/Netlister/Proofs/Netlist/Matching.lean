import Netlister.Check.Rules
import Netlister.Proofs.Netlist.Nets
import Netlister.Proofs.Schematic.Matching

/-! # Netlists of schematics that match

  A netlist is built from the ends and names of connections. Types decide only whether it is
  built at all, and there they are compared with registered types or called by their names.
  So schematics that match have the same netlist, or the same error, as long as all types in
  use are registered.

  - `result_build`: building looks at the schematic first and cannot fail after that.
  - `build_matches`: the netlists match.
  - `report_matches`, `checks_matches`: what is told about them is the same.
-/

namespace Netlister.Netlist

open Schematic (Matches)

/-- The types of a vocabulary replaced by their matches. -/
def Vocabulary.retype (m : Matching) (v : Vocabulary) : Vocabulary :=
  ⟨m.port v.inPort, m.port v.outPort, m.connection v.wire⟩

/-- The types of a netlist replaced by their matches. -/
def retype (m : Matching) (n : Netlist) : Netlist :=
  { n with inPort := m.port n.inPort, outPort := m.port n.outPort }

/-! ### What building looks at -/

/-- Building a netlist takes all its looks at the schematic before the first net is made. -/
theorem result_build (s : Schematic) :
    (build s).result = do
      let v ← vocabulary s
      checkNodes s
      let cs ← s.connections.mapM fun c => (checkConnection s v c).map fun _ => c
      return cs.foldl connect ⟨v.inPort, v.outPort, [], []⟩ := by
  have hloop (v : Vocabulary) (start : Netlist) :
      (s.connections.foldlM (addConnection s v) start).result =
        (s.connections.mapM fun c => (checkConnection s v c).map fun _ => c).map
          fun cs => cs.foldl connect start := by
    apply Outcome.result_foldlM
    intro n c
    simp only [addConnection, Logged.result_bind, Logged.result_reportAll, Logged.result_pure]
    show (checkConnection s v c >>= fun _ => Except.ok (n.connect c)) = _
    cases checkConnection s v c <;> rfl
  unfold build
  simp only [Logged.result_bind, hloop]
  show (vocabulary s >>= fun v => checkNodes s >>= fun _ => _) = _
  refine bind_congr fun v => bind_congr fun _ => ?_
  cases s.connections.mapM fun c => (checkConnection s v c).map fun _ => c <;> rfl

/-- The types that wires are recognised by are registered. -/
theorem has_of_vocabulary {s : Schematic} {v : Vocabulary} (h : vocabulary s = .ok v) :
    s.portTypes.Has v.inPort ∧ s.portTypes.Has v.outPort ∧ s.connectionTypes.Has v.wire := by
  obtain ⟨hin, hout, -, -, hwire⟩ := vocabulary_eq_ok.1 h
  exact ⟨⟨_, hin⟩, ⟨_, hout⟩, ⟨_, hwire⟩⟩

/-- The types that a netlist recognises ports by are registered. -/
theorem has_of_build {s : Schematic} {n : Netlist} (h : (build s).result = .ok n) :
    s.portTypes.Has n.inPort ∧ s.portTypes.Has n.outPort := by
  obtain ⟨hin, hout⟩ := find?_of_build h
  exact ⟨⟨_, hin⟩, ⟨_, hout⟩⟩

section Matches

variable {m : Matching} {s t : Schematic}

/-! ### Looks at schematics that match -/

theorem requireBoth_map {α β : Type} (scope : Schematic.Scope) (n : NameMap α) (f : α → β)
    (a b : String) :
    requireBoth scope (n.map f) a b = (requireBoth scope n a b).map fun e => (f e.1, f e.2) := by
  unfold requireBoth
  rw [NameMap.find?_map, NameMap.find?_map]
  cases n.find? a <;> cases n.find? b <;> rfl

theorem vocabulary_matches (h : Matches m s t) :
    vocabulary t = (vocabulary s).map (Vocabulary.retype m) := by
  unfold vocabulary
  rw [h.portTypes, h.nodeTypes, h.connectionTypes, requireBoth_map, requireBoth_map,
    NameMap.find?_map]
  cases requireBoth .portTypes s.portTypes Digital.inPort Digital.outPort with
  | error e => rfl
  | ok ports =>
    cases requireBoth .nodeTypes s.nodeTypes Digital.inputPin Digital.outputPin with
    | error e => rfl
    | ok pins => cases s.connectionTypes.find? Digital.wire <;> rfl

theorem checkNodes_matches (h : Matches m s t) (hs : s.Settled) : checkNodes t = checkNodes s := by
  have hnode : ∀ node ∈ s.nodes, checkNode t (node.retype m) = checkNode s node := by
    intro node hmem
    unfold checkNode
    rw [show (node.retype m).type = m.node node.type from rfl,
      h.nodeTypeName?_eq (hs.nodes node hmem)]
    rfl
  unfold checkNodes
  rw [h.nodes]
  -- Both check the nodes in one order, and agree on each.
  generalize s.nodes = nodes at hnode
  induction nodes with
  | nil => rfl
  | cons node nodes ih =>
    obtain ⟨hfirst, hrest⟩ := List.forall_mem_cons.1 hnode
    show (checkNode t (node.retype m) >>= fun _ => (nodes.map (Node.retype m)).forM (checkNode t)) = _
    rw [hfirst, ih hrest]
    rfl

/-- The type of a port of the schematic is registered. -/
theorem has_of_port? (hs : s.Settled) (hc : s.Consistent) {p : PortRef} {port : Port}
    (h : s.port? p = some port) : s.portTypes.Has port.type := by
  obtain ⟨node, hnode, hport⟩ := Schematic.port?_eq_some_iff.1 h
  exact hs.has_port hc ((Schematic.node?_eq_some_iff hc).1 hnode).1 (Schematic.port?_eq_some hport).1

/-- A port is of the match of a registered type iff it was of the type. -/
theorem type_matches_iff (h : Matches m s t) (hs : s.Settled) (hc : s.Consistent) {p : PortRef}
    {type : PortType} (htype : s.portTypes.Has type) :
    (t.port? p).map (·.type) = some (m.port type) ↔ (s.port? p).map (·.type) = some type := by
  rw [h.port?_eq]
  cases hp : s.port? p with
  | none => simp
  | some port =>
    simp only [Option.map_some, Port.retype, Option.some.injEq]
    exact (h.faithful.portInj).eq_iff (has_of_port? hs hc hp) htype

theorem checkEnd_matches (h : Matches m s t) (hs : s.Settled) (hc : s.Consistent) {v : Vocabulary}
    (hin : s.portTypes.Has v.inPort) (hout : s.portTypes.Has v.outPort) (c : Connection)
    (side : Side) (p : PortRef) :
    checkEnd t (v.retype m) (c.retype m) side p = checkEnd s v c side p := by
  have hnames : ((t.port? p).map (·.type)).bind t.portTypeName? =
      ((s.port? p).map (·.type)).bind s.portTypeName? := by
    rw [h.port?_eq]
    cases hp : s.port? p with
    | none => rfl
    | some port => exact h.portTypeName?_eq (has_of_port? hs hc hp)
  have hdigital : ((t.port? p).map (·.type) = some (v.retype m).inPort ∨
      (t.port? p).map (·.type) = some (v.retype m).outPort) ↔
      ((s.port? p).map (·.type) = some v.inPort ∨ (s.port? p).map (·.type) = some v.outPort) :=
    or_congr (type_matches_iff h hs hc hin) (type_matches_iff h hs hc hout)
  unfold checkEnd
  simp only [hnames, hdigital]
  rfl

theorem checkConnection_matches (h : Matches m s t) (hs : s.Settled) (hc : s.Consistent)
    {v : Vocabulary} (hv : vocabulary s = .ok v) {c : Connection} (hmem : c ∈ s.connections) :
    checkConnection t (v.retype m) (c.retype m) = checkConnection s v c := by
  obtain ⟨hin, hout, hwire⟩ := has_of_vocabulary hv
  have htype : s.connectionTypes.Has c.type := hs.connections c hmem
  have hsame : (c.retype m).type = (v.retype m).wire ↔ c.type = v.wire :=
    h.faithful.connectionInj.eq_iff htype hwire
  unfold checkConnection
  rw [show (c.retype m).type = m.connection c.type from rfl] at hsame ⊢
  simp only [h.connectionTypeName?_eq htype, checkEnd_matches h hs hc hin hout, ne_eq, hsame]
  rfl

/-! ### Nets -/

/-- Wires that differ in their types do the same to the nets. -/
theorem connect_retype (n : Netlist) (c : Connection) :
    (n.retype m).connect (c.retype m) = (n.connect c).retype m := by
  -- Nets are found by ports, and these do not mention types.
  have hsource : (n.retype m).netOf? (c.retype m).source = n.netOf? c.source := rfl
  have htarget : (n.retype m).netOf? (c.retype m).target = n.netOf? c.target := rfl
  unfold connect
  rw [hsource, htarget]
  cases n.netOf? c.source with
  | none => cases n.netOf? c.target <;> rfl
  | some a =>
    cases n.netOf? c.target with
    | none => rfl
    | some b =>
      by_cases hab : a = b
      · simp only [if_pos hab]
      · simp only [if_neg hab]
        rfl

theorem foldl_connect_retype (cs : List Connection) (n : Netlist) :
    (cs.map (Connection.retype m)).foldl connect (n.retype m) = (cs.foldl connect n).retype m := by
  induction cs generalizing n with
  | nil => rfl
  | cons c cs ih => rw [List.map_cons, List.foldl_cons, List.foldl_cons, connect_retype, ih]

/-- The netlists of schematics that match are the same but for the types they recognise
    ports by; and where there is none, the error is the same. -/
theorem build_matches (h : Matches m s t) (hs : s.Settled) (hc : s.Consistent) :
    (build t).result = (build s).result.map (retype m) := by
  rw [result_build, result_build, vocabulary_matches h, checkNodes_matches h hs, h.connections]
  cases hv : vocabulary s with
  | error e => rfl
  | ok v =>
    cases checkNodes s with
    | error e => rfl
    | ok _ =>
      have hlooks : (s.connections.map (Connection.retype m)).mapM (fun c =>
          (checkConnection t (v.retype m) c).map fun _ => c) =
          (s.connections.mapM fun c => (checkConnection s v c).map fun _ => c).map
            (List.map (Connection.retype m)) := by
        rw [List.mapM_map, ← Outcome.mapM_map_result (fun _ => rfl)]
        apply Outcome.mapM_congr
        intro c hmem
        simp only [Function.comp, checkConnection_matches h hs hc hv hmem]
        cases checkConnection s v c <;> rfl
      show ((s.connections.map (Connection.retype m)).mapM (fun c =>
        (checkConnection t (v.retype m) c).map fun _ => c) >>= fun cs =>
          Except.ok (cs.foldl connect (retype m ⟨v.inPort, v.outPort, [], []⟩))) =
        ((s.connections.mapM fun c => (checkConnection s v c).map fun _ => c) >>= fun cs =>
          Except.ok (cs.foldl connect ⟨v.inPort, v.outPort, [], []⟩)).map (retype m)
      rw [hlooks]
      cases s.connections.mapM fun c => (checkConnection s v c).map fun _ => c with
      | error e => rfl
      | ok cs => exact congrArg Except.ok (foldl_connect_retype cs _)

/-! ### What is told about a netlist -/

/-- What can be told about a netlist: its nets with their drivers, the ports of the schematic
    with their nets and what they are, and the wires between two nets. -/
structure Report where
  nets : List (Net × List PortRef × Except DriverError PortRef)
  ports : List (PortRef × Option Net × Bool × Bool)
  unmerged : List Unmerged

/-- All that can be told about a netlist. -/
def report (s : Schematic) (n : Netlist) : Report where
  nets := n.nets.map fun net => (net, n.drivers s net, n.driver s net)
  ports := s.portRefs.map fun p => (p, n.netOf? p, n.isInput s p, n.isOutput s p)
  unmerged := n.unmerged

/-- The design rules, with what each of them finds. -/
def checks (s : Schematic) (n : Netlist) : List Check :=
  [n.noMultipleDrivers s, n.noUnconnectedInputs s, n.noUnmergedConnections]

section Told

variable {n : Netlist} (h : Matches m s t) (hs : s.Settled) (hc : s.Consistent)
  (hn : (build s).result = .ok n)

include h hs hc hn

theorem isInput_matches : (n.retype m).isInput t = n.isInput s := by
  funext p
  exact decide_eq_decide.2 (type_matches_iff h hs hc (has_of_build hn).1)

theorem isOutput_matches : (n.retype m).isOutput t = n.isOutput s := by
  funext p
  exact decide_eq_decide.2 (type_matches_iff h hs hc (has_of_build hn).2)

theorem drivers_matches (net : Net) : (n.retype m).drivers t net = n.drivers s net := by
  unfold drivers
  rw [isOutput_matches h hs hc hn]

theorem driver_matches (net : Net) : (n.retype m).driver t net = n.driver s net := by
  unfold driver
  rw [drivers_matches h hs hc hn]

theorem report_matches : (n.retype m).report t = n.report s := by
  unfold report
  rw [h.portRefs_eq, isInput_matches h hs hc hn, isOutput_matches h hs hc hn]
  simp only [drivers_matches h hs hc hn, driver_matches h hs hc hn]
  rfl

theorem checks_matches : (n.retype m).checks t = n.checks s := by
  have hdrivers : (n.retype m).multipleDrivers t = n.multipleDrivers s := by
    unfold multipleDrivers
    simp only [drivers_matches h hs hc hn]
    rfl
  have hinputs : (n.retype m).unconnectedInputs t = n.unconnectedInputs s := by
    unfold unconnectedInputs
    rw [h.portRefs_eq, isInput_matches h hs hc hn]
    rfl
  unfold checks noMultipleDrivers noUnconnectedInputs
  rw [hdrivers, hinputs]
  rfl

end Told

end Matches

end Netlister.Netlist
