import Netlister.Proofs.Netlist.Matching
import Netlister.Proofs.Vhdl.Compilation

/-! # The code of schematics that match

  The compilation compares the types of nodes with three registered ones. All else that it
  looks at are names, attributes and nets, which are the same in schematics that match. So
  is the code, or the error.

  The lemmas follow the compilation: what a node is (`classify_matches`), where it goes in the
  survey (`place_matches`), and the parts of the entity.
-/

namespace Netlister.Vhdl

open Outcome
open Schematic (Matches)

/-! ### Types replaced by their matches -/

/-- The known node types replaced by their matches. -/
def NodeKinds.retype (m : Matching) (k : NodeKinds) : NodeKinds :=
  ⟨m.node k.inputPin, m.node k.outputPin, m.node k.register⟩

/-- A place with its node replaced. -/
def Place.retype (m : Matching) : Place → Place
  | .input pin net => .input (pin.retype m) net
  | .output pin net => .output (pin.retype m) net
  | .inner node primitive => .inner (node.retype m) primitive
  | .nowhere => .nowhere

/-- A survey with all nodes replaced. -/
def Survey.retype (m : Matching) (v : Survey) : Survey where
  inputs := v.inputs.map fun e => (e.1.retype m, e.2)
  outputs := v.outputs.map fun e => (e.1.retype m, e.2)
  inner := v.inner.map fun e => (e.1.retype m, e.2)

/-! ### Nodes -/

section Nodes

variable {m : Matching} {s t : Schematic} {k : NodeKinds}

/-- The known node types are registered. -/
structure NodeKinds.Registered (k : NodeKinds) (s : Schematic) : Prop where
  inputPin : s.nodeTypes.Has k.inputPin
  outputPin : s.nodeTypes.Has k.outputPin
  register : s.nodeTypes.Has k.register

theorem registered_of_kinds (h : NodeKinds.of s = .ok k) : k.Registered s := by
  obtain ⟨hin, hout, hreg⟩ := kinds_eq_ok.1 h
  exact ⟨⟨_, hin⟩, ⟨_, hout⟩, ⟨_, hreg⟩⟩

theorem kinds_matches (h : Matches m s t) :
    NodeKinds.of t = (NodeKinds.of s).map (NodeKinds.retype m) := by
  have htype (name : String) : t.nodeType name = (s.nodeType name).map m.node := by
    unfold Schematic.nodeType
    rw [h.nodeTypes, NameMap.find?_map]
    cases s.nodeTypes.find? name <;> rfl
  unfold NodeKinds.of
  rw [htype, htype, htype]
  cases s.nodeType Digital.inputPin with
  | error e => rfl
  | ok inputPin =>
    cases s.nodeType Digital.outputPin with
    | error e => rfl
    | ok outputPin => cases s.nodeType Digital.register <;> rfl

/-- A node is the same as before, since its type is compared with registered types. -/
theorem classify_matches (h : Matches m s t) (hs : s.Settled) (hk : k.Registered s) {node : Node}
    (hnode : node ∈ s.nodes) : (k.retype m).classify (node.retype m) = k.classify node := by
  have hsame {type : NodeType} (htype : s.nodeTypes.Has type) :
      (node.retype m).type = m.node type ↔ node.type = type :=
    h.faithful.nodeInj.eq_iff (hs.nodes node hnode) htype
  unfold NodeKinds.classify
  simp only [NodeKinds.retype, hsame hk.inputPin, hsame hk.outputPin, hsame hk.register]
  rfl

theorem portNet_retype (n : Netlist) (node : Node) (port : String) :
    portNet (n.retype m) (node.retype m) port = portNet n node port := by
  have hport : Schematic.portOf (node.retype m) port = Schematic.portOf node port := by
    unfold Schematic.portOf
    rw [Node.port?_retype, Option.map_map]
    rfl
  unfold portNet
  rw [hport]
  rfl

theorem place_matches (h : Matches m s t) (hs : s.Settled) (hk : k.Registered s) (n : Netlist)
    {node : Node} (hnode : node ∈ s.nodes) :
    place (k.retype m) (n.retype m) (node.retype m) = (place k n node).map (Place.retype m) := by
  unfold place
  rw [classify_matches h hs hk hnode, map_bind]
  refine bind_congr fun primitive => ?_
  cases primitive with
  | inputPin =>
    show (portNet _ (node.retype m) "out" >>= _) = (portNet n node "out" >>= _).map _
    rw [portNet_retype, map_bind]
    refine bind_congr fun net => ?_
    cases net <;> rfl
  | outputPin =>
    show (portNet _ (node.retype m) "in" >>= _) = (portNet n node "in" >>= _).map _
    rw [portNet_retype, map_bind]
    refine bind_congr fun net => ?_
    cases net <;> rfl
  | register params => rfl
  | unsupported => rfl

end Nodes

/-! ### The survey -/

section Survey

variable {m : Matching}

theorem put_retype (v : Survey) (p : Place) :
    (v.retype m).put (p.retype m) = (v.put p).retype m := by
  cases p with
  | input pin net =>
    have hnets : (v.retype m).inputs.map (·.2) = v.inputs.map (·.2) := by
      simp [Survey.retype]
    simp only [Survey.put, Place.retype, hnets]
    by_cases h : net ∈ v.inputs.map (·.2)
    · simp only [if_pos h]
    · simp only [if_neg h]
      simp [Survey.retype]
  | output pin net => simp [Survey.put, Place.retype, Survey.retype]
  | inner node primitive => simp [Survey.put, Place.retype, Survey.retype]
  | nowhere => rfl

theorem foldl_put_retype (places : List Place) (v : Survey) :
    (places.map (Place.retype m)).foldl Survey.put (v.retype m) =
      (places.foldl Survey.put v).retype m := by
  induction places generalizing v with
  | nil => rfl
  | cons p places ih => rw [List.map_cons, List.foldl_cons, List.foldl_cons, put_retype, ih]

theorem signalNets_retype (v : Survey) (n : Netlist) :
    (v.retype m).signalNets (n.retype m) = v.signalNets n := by
  unfold Survey.signalNets
  simp only [Survey.retype, List.map_map, List.flatMap_map, Node.portRefs_retype]
  rfl

theorem ports_retype (v : Survey) : (v.retype m).ports = v.ports := by
  simp [Survey.ports, Survey.retype, Function.comp_def, Node.retype]

theorem assignments_retype (v : Survey) : (v.retype m).assignments = v.assignments := by
  simp [Survey.assignments, Survey.retype, Function.comp_def, Node.retype]

theorem inputName_retype (n : Netlist) (node : Node) (port : String) :
    inputName (n.retype m) (node.retype m) port = inputName n node port := by
  unfold inputName
  rw [portNet_retype]
  rfl

theorem processesOf_retype (n : Netlist) (e : Node × Primitive) :
    processesOf (n.retype m) (e.1.retype m, e.2) = processesOf n e := by
  obtain ⟨node, primitive⟩ := e
  cases primitive with
  | register params =>
    have hprocess (output : Net) : registerProcess (n.retype m) (node.retype m) params output =
        registerProcess n node params output := by
      unfold registerProcess
      rw [inputName_retype, inputName_retype, inputName_retype]
      rfl
    show (portNet _ (node.retype m) "out" >>= _) = (portNet n node "out" >>= _)
    rw [portNet_retype]
    refine bind_congr fun net => ?_
    cases net with
    | none => rfl
    | some output =>
      simp only
      rw [hprocess]
  | inputPin => rfl
  | outputPin => rfl
  | unsupported => rfl

end Survey

/-! ### The entity -/

section Entity

variable {m : Matching} {s t : Schematic} {n : Netlist} {k : NodeKinds} (h : Matches m s t)
  (hs : s.Settled) (hc : s.Consistent) (hn : (Netlist.build s).result = .ok n)

include h hs hc hn

/-- The signal of a net is the same, for it has the same driver. -/
theorem signalOf_matches (hk : k.Registered s) (net : Net) :
    signalOf (k.retype m) t (n.retype m) net = signalOf k s n net := by
  have hinitial : initialValue (k.retype m) t (n.retype m) net = initialValue k s n net := by
    have hnode (name : String) : t.node name = (s.node name).map (Node.retype m) := by
      unfold Schematic.node
      rw [h.node?_eq]
      cases s.node? name <;> rfl
    unfold initialValue
    rw [Netlist.driver_matches h hs hc hn]
    refine bind_congr fun driver => ?_
    rw [hnode, lift_schematic, lift_schematic]
    cases hdriver : s.node driver.node with
    | error e => rfl
    | ok node =>
      have hmem : node ∈ s.nodes :=
        ((Schematic.node?_eq_some_iff hc).1 (Schematic.require_eq_ok.1 hdriver)).1
      show ((k.retype m).classify (node.retype m) >>= _) = (k.classify node >>= _)
      rw [classify_matches h hs hk hmem]
  unfold signalOf
  rw [hinitial]

theorem signals_matches (hk : k.Registered s) (v : Survey) :
    (v.retype m).signals (k.retype m) t (n.retype m) = v.signals k s n := by
  unfold Survey.signals
  rw [signalNets_retype]
  apply mapM_congr
  intro net _
  exact signalOf_matches h hs hc hn hk net

/-- The compilation has the same entity or the same error. -/
theorem result_compile_matches : (compile t (n.retype m)).result = (compile s n).result := by
  unfold compile
  simp only [Logged.result_bind, result_lift, result_survey, result_processes]
  rw [kinds_matches h, bind_map, h.nodes, h.name]
  cases hkinds : NodeKinds.of s with
  | error e => rfl
  | ok k =>
    have hk : k.Registered s := registered_of_kinds hkinds
    have hplaces : (s.nodes.map (Node.retype m)).mapM (place (k.retype m) (n.retype m)) =
        (s.nodes.mapM (place k n)).map (List.map (Place.retype m)) := by
      rw [List.mapM_map, ← mapM_map_result (fun _ => rfl)]
      apply mapM_congr
      intro node hnode
      exact place_matches h hs hk n hnode
    rw [ok_bind, ok_bind, hplaces, bind_map, bind_map, bind_map]
    refine bind_congr fun places => ?_
    have hsurvey : (places.map (Place.retype m)).foldl Survey.put {} =
        (places.foldl Survey.put {}).retype m := foldl_put_retype places {}
    have hprocesses (inner : List (Node × Primitive)) :
        (inner.map fun e => (e.1.retype m, e.2)).mapM (processesOf (n.retype m)) =
          inner.mapM (processesOf n) := by
      rw [List.mapM_map]
      exact mapM_congr fun e _ => processesOf_retype n e
    rw [hsurvey, signals_matches h hs hc hn hk, ports_retype, assignments_retype]
    show (_ >>= fun _ => (((places.foldl Survey.put {}).inner.map fun e =>
      (e.1.retype m, e.2)).mapM (processesOf (n.retype m))).map _ >>= _) = _
    rw [hprocesses]

theorem result_generate_matches : (generate t (n.retype m)).result = (generate s n).result := by
  unfold generate
  simp only [Logged.result_bind, Logged.result_report, Logged.result_ofExcept, ok_bind,
    result_compile_matches h hs hc hn]

end Entity

end Netlister.Vhdl
