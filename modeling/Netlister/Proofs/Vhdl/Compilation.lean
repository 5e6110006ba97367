import Netlister.Proofs.Netlist.Nets
import Netlister.Vhdl.Compiler

/-! # What a compilation consists of

  A compilation surveys the nodes, declares signals, builds processes and checks
  that no name is declared twice. Here these parts are taken out of the
  computation that may fail:

  - `compile_eq_ok`: a compilation succeeds iff all its parts do, and its entity
    is put together from theirs.
  - `result_survey`: the survey first finds the place of each node, which may
    fail, and then sorts the places.
  - `result_processes`: each inner node has its processes, none or one, and the
    architecture lists them in order.
  - `requireDistinct_eq_ok`: no two declarations have names with one key.
  - `compile_error_cases`: a compilation fails for a node, for a net without a single
    driver, or at last for two names with one key.
-/

namespace Netlister.Vhdl

open Outcome

/-! ### Lifted results -/

theorem result_lift {ε α : Type} (x : Except ε α) : (liftM x : Logged ε α).result = x := rfl

theorem lift_schematic {α : Type} (x : Except Schematic.Error α) :
    (liftM x : Except Error α) = x.mapError .schematic := rfl

theorem lift_driver {α : Type} (x : Except Netlist.DriverError α) :
    (liftM x : Except Error α) = x.mapError .driver := rfl

/-! ### Kinds of nodes -/

/-- The known node types are those that are registered under the standard names. -/
theorem kinds_eq_ok {s : Schematic} {k : NodeKinds} :
    NodeKinds.of s = .ok k ↔
      s.nodeTypes.find? Digital.inputPin = some k.inputPin ∧
      s.nodeTypes.find? Digital.outputPin = some k.outputPin ∧
      s.nodeTypes.find? Digital.register = some k.register := by
  have htype {name : String} {type : NodeType} :
      (liftM (s.nodeType name) : Except Error NodeType) = .ok type ↔
        s.nodeTypes.find? name = some type := by
    rw [lift_schematic, mapError_eq_ok]
    exact Schematic.require_eq_ok
  unfold NodeKinds.of
  simp only [bind_eq_ok, htype]
  constructor
  · intro ⟨inputPin, hin, outputPin, hout, register, hreg, h⟩
    cases h
    exact ⟨hin, hout, hreg⟩
  · intro ⟨hin, hout, hreg⟩
    exact ⟨_, hin, _, hout, _, hreg, rfl⟩

/-- The type by which a primitive is recognised. -/
def NodeKinds.typeOf? (k : NodeKinds) : Primitive → Option NodeType
  | .inputPin => some k.inputPin
  | .outputPin => some k.outputPin
  | .register _ => some k.register
  | .unsupported => none

/-- A node that is taken for a primitive is of its type. -/
theorem type_of_classify {k : NodeKinds} {node : Node} {primitive : Primitive} {type : NodeType}
    (h : k.classify node = .ok primitive) (htype : k.typeOf? primitive = some type) :
    node.type = type := by
  unfold NodeKinds.classify at h
  split at h
  · next hin =>
    cases h
    exact hin.trans (Option.some.inj htype)
  · split at h
    · next hout =>
      cases h
      exact hout.trans (Option.some.inj htype)
    · split at h
      · next hreg =>
        obtain ⟨params, -, h⟩ := bind_eq_ok.1 h
        cases h
        exact hreg.trans (Option.some.inj htype)
      · cases h
        cases htype

/-! ### Ports of nodes -/

/-- The net of a port of a node is asked for successfully iff the node has the port. -/
theorem portNet_eq_ok {n : Netlist} {node : Node} {port : String} {net : Option Net} :
    portNet n node port = .ok net ↔
      (node.port? port).isSome ∧ n.netOf? ⟨node.name, port⟩ = net := by
  unfold portNet
  rw [bind_eq_ok, Option.isSome_iff_exists]
  constructor
  · rintro ⟨p, hp, h⟩
    obtain ⟨hport, rfl⟩ := Schematic.portOf_eq_ok.1 (mapError_eq_ok.1 hp)
    cases h
    exact ⟨hport, rfl⟩
  · rintro ⟨hport, rfl⟩
    exact ⟨_, mapError_eq_ok.2 (Schematic.portOf_eq_ok.2 ⟨hport, rfl⟩), rfl⟩

/-- A port that a node has is among its ports. -/
theorem mem_portRefs {node : Node} {port : String} (h : (node.port? port).isSome) :
    (⟨node.name, port⟩ : PortRef) ∈ node.portRefs := by
  obtain ⟨p, hp⟩ := Option.isSome_iff_exists.1 h
  exact Schematic.mem_node_portRefs_iff.2 ⟨p, hp, rfl⟩

/-! ### The survey -/

/-- What a node becomes. -/
inductive Place where
  /-- An input pin that drives a net. -/
  | input (pin : Node) (net : Net)
  /-- An output pin on a net. -/
  | output (pin : Node) (net : Net)
  /-- A node that is no pin. -/
  | inner (node : Node) (primitive : Primitive)
  /-- A pin on no net. -/
  | nowhere

/-- The place of a node. -/
def place (k : NodeKinds) (n : Netlist) (node : Node) : Except Error Place := do
  match ← k.classify node with
  | .inputPin => return (← portNet n node "out").elim .nowhere (.input node)
  | .outputPin => return (← portNet n node "in").elim .nowhere (.output node)
  | other => return .inner node other

/-- A survey with one more place. Only the first input pin of a net is kept. -/
def Survey.put (v : Survey) : Place → Survey
  | .input pin net =>
    if net ∈ v.inputs.map (·.2) then v else { v with inputs := v.inputs ++ [(pin, net)] }
  | .output pin net => { v with outputs := v.outputs ++ [(pin, net)] }
  | .inner node primitive => { v with inner := v.inner ++ [(node, primitive)] }
  | .nowhere => v

/-- Taking a node into the survey is finding its place and putting it there. -/
theorem result_add (k : NodeKinds) (n : Netlist) (v : Survey) (node : Node) :
    (Survey.add k n v node).result = (place k n node).map v.put := by
  unfold Survey.add place
  simp only [Logged.result_bind, result_lift, Logged.result_report]
  cases k.classify node with
  | error e => rfl
  | ok primitive =>
    simp only [ok_bind]
    cases primitive with
    | inputPin =>
      simp only [Logged.result_bind, result_lift]
      cases portNet n node "out" with
      | error e => rfl
      | ok net =>
        simp only [ok_bind]
        cases net with
        | none => rfl
        | some net =>
          -- The second pin of a net is left out by both sides.
          by_cases h : net ∈ v.inputs.map (·.2)
          · show Logged.result (if net ∈ _ then _ else _) = .ok (if net ∈ _ then _ else _)
            rw [if_pos h, if_pos h]
            rfl
          · show Logged.result (if net ∈ _ then _ else _) = .ok (if net ∈ _ then _ else _)
            rw [if_neg h, if_neg h]
            rfl
    | outputPin =>
      simp only [Logged.result_bind, result_lift]
      cases portNet n node "in" with
      | error e => rfl
      | ok net => cases net <;> rfl
    | register params => rfl
    | unsupported => rfl

/-- The survey finds the places of all nodes and puts them in order. -/
theorem result_survey (k : NodeKinds) (n : Netlist) (nodes : List Node) (v : Survey) :
    (nodes.foldlM (Survey.add k n) v).result =
      (nodes.mapM (place k n)).map fun places => places.foldl Survey.put v :=
  result_foldlM (result_add k n) nodes v

/-- The input pin of a place, with its net. -/
def Place.input? : Place → Option (Node × Net)
  | .input pin net => some (pin, net)
  | _ => none

/-- The output pin of a place, with its net. -/
def Place.output? : Place → Option (Node × Net)
  | .output pin net => some (pin, net)
  | _ => none

/-- The inner node of a place, with what it is. -/
def Place.inner? : Place → Option (Node × Primitive)
  | .inner node primitive => some (node, primitive)
  | _ => none

/-- What the place of a node says of its type and its net. -/
theorem place_cases {k : NodeKinds} {n : Netlist} {node : Node} {p : Place}
    (h : place k n node = .ok p) :
    p = .nowhere ∨
    (∃ net, p = .input node net ∧ node.type = k.inputPin ∧
      n.netOf? ⟨node.name, "out"⟩ = some net) ∨
    (∃ net, p = .output node net ∧ node.type = k.outputPin ∧
      n.netOf? ⟨node.name, "in"⟩ = some net) ∨
    ∃ primitive, p = .inner node primitive ∧ k.classify node = .ok primitive := by
  obtain ⟨primitive, hprimitive, h⟩ := bind_eq_ok.1 h
  cases primitive with
  | inputPin =>
    obtain ⟨net, hnet, h⟩ := bind_eq_ok.1 h
    cases h
    cases net with
    | none => exact .inl rfl
    | some net =>
      exact .inr (.inl ⟨net, rfl, type_of_classify hprimitive rfl, (portNet_eq_ok.1 hnet).2⟩)
  | outputPin =>
    obtain ⟨net, hnet, h⟩ := bind_eq_ok.1 h
    cases h
    cases net with
    | none => exact .inl rfl
    | some net =>
      exact .inr (.inr (.inl
        ⟨net, rfl, type_of_classify hprimitive rfl, (portNet_eq_ok.1 hnet).2⟩))
  | register params =>
    cases h
    exact .inr (.inr (.inr ⟨_, rfl, hprimitive⟩))
  | unsupported =>
    cases h
    exact .inr (.inr (.inr ⟨_, rfl, hprimitive⟩))

/-- The pin of a place is the node that has this place, and its net is in the netlist. -/
theorem pin_of_place {k : NodeKinds} {n : Netlist} {node : Node} {p : Place} {e : Node × Net}
    (h : place k n node = .ok p) (he : p.input? = some e ∨ p.output? = some e) :
    e.1 = node ∧ e.2 ∈ n.nets := by
  rcases place_cases h with rfl | ⟨net, rfl, -, hnet⟩ | ⟨net, rfl, -, hnet⟩ | ⟨primitive, rfl, -⟩
  · simp [Place.input?, Place.output?] at he
  · have heq : e = (node, net) := by simpa [Place.input?, Place.output?, eq_comm] using he
    subst heq
    exact ⟨rfl, (Netlist.mem_of_netOf? hnet).1⟩
  · have heq : e = (node, net) := by simpa [Place.input?, Place.output?, eq_comm] using he
    subst heq
    exact ⟨rfl, (Netlist.mem_of_netOf? hnet).1⟩
  · simp [Place.input?, Place.output?] at he

/-- The inner node of a place is the node that has this place. -/
theorem inner_of_place {k : NodeKinds} {n : Netlist} {node : Node} {p : Place}
    {e : Node × Primitive} (h : place k n node = .ok p) (he : p.inner? = some e) :
    e.1 = node ∧ k.classify node = .ok e.2 := by
  rcases place_cases h with rfl | ⟨net, rfl, -⟩ | ⟨net, rfl, -⟩ | ⟨primitive, rfl, hprimitive⟩
  · cases he
  · cases he
  · cases he
  · cases he
    exact ⟨rfl, hprimitive⟩

/-- Output pins and inner nodes are kept in order. -/
theorem foldl_put_outputs_inner (places : List Place) (v : Survey) :
    (places.foldl Survey.put v).outputs = v.outputs ++ places.filterMap Place.output? ∧
      (places.foldl Survey.put v).inner = v.inner ++ places.filterMap Place.inner? := by
  induction places generalizing v with
  | nil => simp
  | cons p places ih =>
    rw [List.foldl_cons, (ih _).1, (ih _).2]
    cases p with
    | input pin net =>
      by_cases hmem : net ∈ v.inputs.map (·.2)
      · have hput : v.put (.input pin net) = v := if_pos hmem
        rw [hput]
        exact ⟨rfl, rfl⟩
      · have hput : v.put (.input pin net) = { v with inputs := v.inputs ++ [(pin, net)] } :=
          if_neg hmem
        rw [hput]
        exact ⟨rfl, rfl⟩
    | output pin net => exact ⟨List.append_assoc v.outputs [(pin, net)] _, rfl⟩
    | inner node primitive => exact ⟨rfl, List.append_assoc v.inner [(node, primitive)] _⟩
    | nowhere => exact ⟨rfl, rfl⟩

/-- Every net of an input pin is that of a pin that is kept. -/
theorem mem_inputs_foldl_put (places : List Place) (v : Survey) (net : Net) :
    net ∈ (places.foldl Survey.put v).inputs.map (·.2) ↔
      net ∈ v.inputs.map (·.2) ∨ net ∈ (places.filterMap Place.input?).map (·.2) := by
  induction places generalizing v with
  | nil => simp
  | cons p places ih =>
    rw [List.foldl_cons, ih]
    cases p with
    | input pin first =>
      have hmap : ((Place.input pin first :: places).filterMap Place.input?).map (·.2) =
          first :: (places.filterMap Place.input?).map (·.2) := rfl
      rw [hmap, List.mem_cons]
      by_cases hmem : first ∈ v.inputs.map (·.2)
      · have hput : v.put (.input pin first) = v := if_pos hmem
        rw [hput]
        grind
      · have hput : v.put (.input pin first) = { v with inputs := v.inputs ++ [(pin, first)] } :=
          if_neg hmem
        rw [hput, List.map_append, List.mem_append, or_assoc]
        simp
    | output pin first => rfl
    | inner node primitive => rfl
    | nowhere => rfl

/-- The input pins that are kept are some of those that have a place, in order. -/
theorem sublist_inputs_foldl_put (places : List Place) (v : Survey) :
    (places.foldl Survey.put v).inputs.Sublist (v.inputs ++ places.filterMap Place.input?) := by
  induction places generalizing v with
  | nil => simp
  | cons p places ih =>
    rw [List.foldl_cons]
    cases p with
    | input pin net =>
      have hcons : (Place.input pin net :: places).filterMap Place.input? =
          (pin, net) :: places.filterMap Place.input? := rfl
      rw [hcons]
      by_cases hmem : net ∈ v.inputs.map (·.2)
      · have hput : v.put (.input pin net) = v := if_pos hmem
        rw [hput]
        exact (ih v).trans ((List.sublist_cons_self _ _).append_left _)
      · have hput : v.put (.input pin net) = { v with inputs := v.inputs ++ [(pin, net)] } :=
          if_neg hmem
        have happend : v.inputs ++ (pin, net) :: places.filterMap Place.input? =
            v.inputs ++ [(pin, net)] ++ places.filterMap Place.input? := List.append_cons ..
        rw [hput, happend]
        exact ih _
    | output pin net => exact ih (v.put (.output pin net))
    | inner node primitive => exact ih (v.put (.inner node primitive))
    | nowhere => exact ih v

/-- Every input pin that is kept is that of a place. -/
theorem mem_inputs_of_foldl_put {places : List Place} {v : Survey} {e : Node × Net}
    (h : e ∈ (places.foldl Survey.put v).inputs) :
    e ∈ v.inputs ∨ e ∈ places.filterMap Place.input? :=
  List.mem_append.1 ((sublist_inputs_foldl_put places v).subset h)

/-- Where no two input pins share a net, all of them are kept, in order. -/
theorem inputs_foldl_put {places : List Place} {v : Survey}
    (h : ((v.inputs ++ places.filterMap Place.input?).map (·.2)).Nodup) :
    (places.foldl Survey.put v).inputs = v.inputs ++ places.filterMap Place.input? := by
  induction places generalizing v with
  | nil => simp
  | cons p places ih =>
    rw [List.foldl_cons]
    cases p with
    | input pin net =>
      have hnew : net ∉ v.inputs.map (·.2) := by
        rw [List.map_append, List.nodup_append] at h
        intro hmem
        exact h.2.2 net hmem net List.mem_cons_self rfl
      have hput : v.put (.input pin net) = { v with inputs := v.inputs ++ [(pin, net)] } :=
        if_neg hnew
      have happend : v.inputs ++ [(pin, net)] ++ places.filterMap Place.input? =
          v.inputs ++ (Place.input pin net :: places).filterMap Place.input? := by
        simp [Place.input?]
      rw [hput, ← happend]
      rw [← happend] at h
      exact ih h
    | output pin net => exact ih h
    | inner node primitive => exact ih h
    | nowhere => exact ih h

/-! ### Signals -/

/-- Adding nets that are missing gives exactly the nets of both lists. -/
theorem mem_foldl_addNet {nets added : List Net} {net : Net} :
    net ∈ added.foldl addNet nets ↔ net ∈ nets ∨ net ∈ added := by
  induction added generalizing nets with
  | nil => simp
  | cons a added ih =>
    rw [List.foldl_cons, ih, List.mem_cons]
    unfold addNet
    split
    · grind
    · rw [List.mem_append, List.mem_singleton, or_assoc]

/-- Adding nets that are missing lists none twice. -/
theorem nodup_foldl_addNet {nets added : List Net} (h : nets.Nodup) :
    (added.foldl addNet nets).Nodup := by
  induction added generalizing nets with
  | nil => exact h
  | cons a added ih =>
    rw [List.foldl_cons]
    refine ih ?_
    unfold addNet
    split
    · exact h
    · next hnew =>
      refine List.nodup_append.2 ⟨h, List.nodup_singleton _, ?_⟩
      intro x hx y hy hxy
      exact hnew (List.mem_singleton.1 hy ▸ hxy ▸ hx)

/-- The nets that become signals. -/
theorem mem_signalNets {v : Survey} {n : Netlist} {net : Net} :
    net ∈ v.signalNets n ↔
      net ∈ v.inputs.map (·.2) ∨ (∃ e ∈ v.inner, ∃ p ∈ e.1.portRefs, n.netOf? p = some net) ∨
        net ∈ v.outputs.map (·.2) := by
  unfold Survey.signalNets
  rw [mem_foldl_addNet]
  simp

/-- The nets that become signals are nets of the netlist. -/
theorem mem_nets_of_signalNets {k : NodeKinds} {s : Schematic} {n : Netlist} {places : List Place}
    (h : s.nodes.mapM (place k n) = .ok places) {net : Net}
    (hnet : net ∈ (places.foldl Survey.put {}).signalNets n) : net ∈ n.nets := by
  have hpins {select : Place → Option (Node × Net)}
      (hselect : ∀ p e, select p = some e → p.input? = some e ∨ p.output? = some e)
      (hmem : net ∈ (places.filterMap select).map (·.2)) : net ∈ n.nets := by
    obtain ⟨e, he, rfl⟩ := List.mem_map.1 hmem
    obtain ⟨p, hp, he⟩ := List.mem_filterMap.1 he
    obtain ⟨node, -, hplace⟩ := (mem_iff_of_mapM h).1 hp
    exact (pin_of_place hplace (hselect p e he)).2
  -- A signal comes from an input pin, an inner node or an output pin.
  rcases mem_signalNets.1 hnet with hin | ⟨_, -, p, -, hp⟩ | hout
  · rcases (mem_inputs_foldl_put places {} net).1 hin with hin | hin
    · cases hin
    · exact hpins (fun _ _ => .inl) hin
  · exact (Netlist.mem_of_netOf? hp).1
  · rw [(foldl_put_outputs_inner places {}).1] at hout
    exact hpins (fun _ _ => .inr) hout

/-! ### Processes -/

/-- The nets of the ports of a register. -/
structure RegisterNets where
  /-- The net that the register drives. -/
  output : Net
  /-- The net that it loads. -/
  data : Net
  /-- The net that clocks it. -/
  clock : Net
  /-- The net that resets it. -/
  reset : Net

/-- The node has the four ports of a register, and these are their nets. -/
structure RegisterNets.Of (r : RegisterNets) (n : Netlist) (node : Node) : Prop where
  output : portNet n node "out" = .ok (some r.output)
  data : portNet n node "in" = .ok (some r.data)
  clock : portNet n node "clock" = .ok (some r.clock)
  reset : portNet n node "reset" = .ok (some r.reset)

/-- The process of a register. -/
def RegisterNets.process (r : RegisterNets) (node : Node) (p : RegisterParams) : Concurrent :=
  .process (processName node) [netName r.clock, netName r.reset, netName r.data]
    [registerBody p (netName r.output) (netName r.data) (netName r.clock) (netName r.reset)]

/-- An input of a register has a name iff it is on a net. -/
theorem inputName_eq_ok {n : Netlist} {node : Node} {port name : String} :
    inputName n node port = .ok name ↔
      ∃ net, portNet n node port = .ok (some net) ∧ name = netName net := by
  unfold inputName
  cases portNet n node port with
  | error e => simp
  | ok net =>
    rw [ok_bind]
    cases net with
    | none => simp [throw, throwThe, MonadExceptOf.throw]
    | some net => simp [pure, Except.pure, eq_comm]

/-- A register with an output has a process iff its inputs are on nets. -/
theorem registerProcess_eq_ok {n : Netlist} {node : Node} {p : RegisterParams} {output : Net}
    {process : Concurrent} (hout : portNet n node "out" = .ok (some output)) :
    registerProcess n node p output = .ok process ↔
      ∃ r : RegisterNets, r.Of n node ∧ process = r.process node p := by
  unfold registerProcess
  simp only [bind_eq_ok, inputName_eq_ok]
  constructor
  · rintro ⟨_, ⟨data, hdata, rfl⟩, _, ⟨clock, hclock, rfl⟩, _, ⟨reset, hreset, rfl⟩, h⟩
    cases h
    exact ⟨⟨output, data, clock, reset⟩, ⟨hout, hdata, hclock, hreset⟩, rfl⟩
  · rintro ⟨r, hr, rfl⟩
    have houtput : r.output = output := by
      have := hr.output.symm.trans hout
      simpa using this
    refine ⟨_, ⟨r.data, hr.data, rfl⟩, _, ⟨r.clock, hr.clock, rfl⟩, _, ⟨r.reset, hr.reset, rfl⟩, ?_⟩
    rw [← houtput]
    rfl

/-- The processes of an inner node: one for a register whose output is on a net. -/
def processesOf (n : Netlist) (e : Node × Primitive) : Except Error (List Concurrent) :=
  match e.2 with
  | .register params => do
    match ← portNet n e.1 "out" with
    | some output => return [← registerProcess n e.1 params output]
    | none => return []
  | _ => .error (.unsupportedNode e.1.name)

theorem result_addProcess (n : Netlist) (processes : List Concurrent) (e : Node × Primitive) :
    (addProcess n processes e).result = (processesOf n e).map (processes ++ ·) := by
  obtain ⟨node, primitive⟩ := e
  cases primitive with
  | register params =>
    unfold addProcess processesOf
    simp only [Logged.result_bind, result_lift]
    cases portNet n node "out" with
    | error e => rfl
    | ok net =>
      simp only [ok_bind]
      cases net with
      | none => exact congrArg Except.ok (List.append_nil _).symm
      | some output =>
        simp only [Logged.result_bind, result_lift]
        cases registerProcess n node params output <;> rfl
  | inputPin => rfl
  | outputPin => rfl
  | unsupported => rfl

/-- The processes of the inner nodes are listed in order. -/
theorem result_processes (n : Netlist) (inner : List (Node × Primitive)) :
    (inner.foldlM (addProcess n) []).result =
      (inner.mapM (processesOf n)).map List.flatten := by
  rw [result_foldlM (result_addProcess n) inner []]
  refine congrArg (Except.map · (inner.mapM (processesOf n))) ?_
  funext lists
  exact (List.foldl_append_eq_append (f := id)).trans (by simp)

/-- What the processes of an inner node are. -/
theorem processesOf_eq_ok {n : Netlist} {e : Node × Primitive} {processes : List Concurrent} :
    processesOf n e = .ok processes ↔
      ∃ p, e.2 = .register p ∧
        (portNet n e.1 "out" = .ok none ∧ processes = [] ∨
          ∃ r : RegisterNets, r.Of n e.1 ∧ processes = [r.process e.1 p]) := by
  obtain ⟨node, primitive⟩ := e
  cases primitive with
  | register p =>
    constructor
    · intro h
      obtain ⟨net, hnet, h⟩ := bind_eq_ok.1 h
      refine ⟨p, rfl, ?_⟩
      cases net with
      | none =>
        cases h
        exact .inl ⟨hnet, rfl⟩
      | some output =>
        obtain ⟨process, hprocess, h⟩ := bind_eq_ok.1 h
        cases h
        obtain ⟨r, hr, rfl⟩ := (registerProcess_eq_ok hnet).1 hprocess
        exact .inr ⟨r, hr, rfl⟩
    · intro ⟨q, hq, h⟩
      cases hq
      rcases h with ⟨hnet, hnil⟩ | ⟨r, hr, hone⟩
      · subst hnil
        exact bind_eq_ok.2 ⟨none, hnet, rfl⟩
      · subst hone
        have hprocess := (registerProcess_eq_ok (p := p) hr.output).2 ⟨r, hr, rfl⟩
        exact bind_eq_ok.2 ⟨some r.output, hr.output, bind_eq_ok.2 ⟨_, hprocess, rfl⟩⟩
  | inputPin => simp [processesOf]
  | outputPin => simp [processesOf]
  | unsupported => simp [processesOf]

/-! ### Distinct names -/

/-- No name is repeated iff the keys differ from each other and from the given ones. -/
theorem repeatedName?_eq_none {keys names : List String} :
    repeatedName? keys names = none ↔
      (names.map Identifier.key).Nodup ∧ ∀ name ∈ names, Identifier.key name ∉ keys := by
  induction names generalizing keys with
  | nil => simp [repeatedName?]
  | cons name names ih =>
    unfold repeatedName?
    split
    · next h =>
      constructor
      · intro hnone
        cases hnone
      · intro ⟨_, hall⟩
        exact absurd h (hall name List.mem_cons_self)
    · next h =>
      -- The key of the name joins the given keys, which the rest must avoid.
      rw [ih, List.map_cons, List.nodup_cons]
      grind

/-- A name that is repeated has the key of a given one, or of one before it. -/
theorem exists_of_repeatedName? {keys names : List String} {name : String}
    (h : repeatedName? keys names = some name) :
    ∃ before after, names = before ++ name :: after ∧
      (Identifier.key name ∈ keys ∨ ∃ x ∈ before, Identifier.key x = Identifier.key name) := by
  induction names generalizing keys with
  | nil => cases h
  | cons x names ih =>
    unfold repeatedName? at h
    split at h
    · next hx =>
      cases h
      exact ⟨[], names, rfl, .inl hx⟩
    · -- The name is repeated further on, where `x` is one of the given ones.
      obtain ⟨before, after, rfl, hrepeats⟩ := ih h
      refine ⟨x :: before, after, rfl, ?_⟩
      grind

/-- An entity passes the check of its names iff their keys are pairwise distinct. -/
theorem requireDistinct_eq_ok {e : Entity} :
    e.requireDistinct = .ok () ↔ (e.declaredNames.map Identifier.key).Nodup := by
  have hiff : repeatedName? [] e.declaredNames = none ↔ _ := repeatedName?_eq_none
  unfold Entity.requireDistinct
  cases hname : repeatedName? [] e.declaredNames with
  | some name =>
    rw [hname] at hiff
    simpa using hiff
  | none =>
    rw [hname] at hiff
    simpa using hiff

/-! ### What can fail -/

/-- The error is about one node, and neither about a net nor about names. -/
def Error.OfNode : Error → Prop
  | .unsupportedNode _ => True
  | .schematic _ => True
  | .unconnectedPort _ _ => True
  | _ => False

theorem failsOnly_schematic {α : Type} (x : Except Schematic.Error α) :
    FailsOnly Error.OfNode (liftM x : Except Error α) := by
  rw [lift_schematic]
  exact FailsOnly.mapError fun _ _ => trivial

theorem failsOnly_kinds (s : Schematic) : FailsOnly Error.OfNode (NodeKinds.of s) :=
  (failsOnly_schematic _).bind fun _ _ => (failsOnly_schematic _).bind fun _ _ =>
    (failsOnly_schematic _).bind fun _ _ => failsOnly_ok _

theorem failsOnly_classify (k : NodeKinds) (node : Node) :
    FailsOnly Error.OfNode (k.classify node) := by
  unfold NodeKinds.classify
  split
  · exact failsOnly_ok _
  · split
    · exact failsOnly_ok _
    · split
      · exact (failsOnly_schematic _).bind fun _ _ => failsOnly_ok _
      · exact failsOnly_ok _

theorem failsOnly_portNet (n : Netlist) (node : Node) (port : String) :
    FailsOnly Error.OfNode (portNet n node port) :=
  (failsOnly_schematic _).bind fun _ _ => failsOnly_ok _

theorem failsOnly_place (k : NodeKinds) (n : Netlist) (node : Node) :
    FailsOnly Error.OfNode (place k n node) := by
  refine (failsOnly_classify k node).bind fun primitive _ => ?_
  cases primitive with
  | inputPin => exact (failsOnly_portNet n node "out").bind fun _ _ => failsOnly_ok _
  | outputPin => exact (failsOnly_portNet n node "in").bind fun _ _ => failsOnly_ok _
  | register params => exact failsOnly_ok _
  | unsupported => exact failsOnly_ok _

theorem failsOnly_inputName (n : Netlist) (node : Node) (port : String) :
    FailsOnly Error.OfNode (inputName n node port) := by
  refine (failsOnly_portNet n node port).bind fun net _ => ?_
  cases net with
  | none => exact failsOnly_error trivial
  | some net => exact failsOnly_ok _

theorem failsOnly_processesOf (n : Netlist) (e : Node × Primitive) :
    FailsOnly Error.OfNode (processesOf n e) := by
  obtain ⟨node, primitive⟩ := e
  cases primitive with
  | register params =>
    refine (failsOnly_portNet n node "out").bind fun net _ => ?_
    cases net with
    | none => exact failsOnly_ok _
    | some output =>
      have hprocess : FailsOnly Error.OfNode (registerProcess n node params output) :=
        (failsOnly_inputName n node "in").bind fun _ _ =>
          (failsOnly_inputName n node "clock").bind fun _ _ =>
            (failsOnly_inputName n node "reset").bind fun _ _ => failsOnly_ok _
      exact hprocess.bind fun _ _ => failsOnly_ok _
  | inputPin => exact failsOnly_error trivial
  | outputPin => exact failsOnly_error trivial
  | unsupported => exact failsOnly_error trivial

/-- The signal of a net fails for a node, or for want of a single driver of the net. -/
theorem failsOnly_signalOf (k : NodeKinds) (s : Schematic) (n : Netlist) (net : Net) :
    FailsOnly (fun e => e.OfNode ∨ ∃ cause, e = .driver cause ∧ n.driver s net = .error cause)
      (signalOf k s n net) := by
  have hdriver : FailsOnly
      (fun e => e.OfNode ∨ ∃ cause, e = .driver cause ∧ n.driver s net = .error cause)
      (liftM (n.driver s net) : Except Error PortRef) := by
    rw [lift_driver]
    exact FailsOnly.mapError fun cause hcause => .inr ⟨cause, rfl, hcause⟩
  have hvalue : FailsOnly
      (fun e => e.OfNode ∨ ∃ cause, e = .driver cause ∧ n.driver s net = .error cause)
      (initialValue k s n net) := by
    refine hdriver.bind fun _ _ => FailsOnly.imp ?_ fun _ => .inl
    refine (failsOnly_schematic _).bind fun node _ => ?_
    refine (failsOnly_classify k node).bind fun primitive _ => ?_
    cases primitive <;> exact failsOnly_ok _
  exact hvalue.bind fun _ _ => failsOnly_ok _

/-! ### The whole compilation -/

/-- What a compilation finds out before it puts the entity together. -/
structure Parts where
  /-- The node types that are known. -/
  kinds : NodeKinds
  /-- The place of each node. -/
  places : List Place
  /-- The signals. -/
  signals : List Signal
  /-- The processes of each inner node. -/
  processes : List (List Concurrent)

/-- The survey of the places. -/
def Parts.survey (c : Parts) : Survey := c.places.foldl Survey.put {}

/-- The entity with these parts. -/
def Parts.entity (c : Parts) (s : Schematic) : Entity :=
  { name := Identifier.escape s.name
    ports := c.survey.ports
    signals := c.signals
    statements := c.survey.assignments ++ c.processes.flatten }

/-- The ports are named for the pins of the survey. -/
theorem Parts.map_name_ports (c : Parts) (s : Schematic) :
    (c.entity s).ports.map (·.name) =
      c.survey.inputs.map (fun e => Identifier.portName e.1.name) ++
        c.survey.outputs.map (fun e => Identifier.portName e.1.name) := by
  simp [Parts.entity, Survey.ports, Function.comp_def]

/-- All parts are found for the schematic and its netlist. -/
structure Parts.Found (c : Parts) (s : Schematic) (n : Netlist) : Prop where
  kinds : NodeKinds.of s = .ok c.kinds
  places : s.nodes.mapM (place c.kinds n) = .ok c.places
  signals : c.survey.signals c.kinds s n = .ok c.signals
  processes : c.survey.inner.mapM (processesOf n) = .ok c.processes

/-- All parts are found, and what they declare has distinct names. -/
structure Parts.Of (c : Parts) (s : Schematic) (n : Netlist) : Prop extends c.Found s n where
  distinct : ((c.entity s).declaredNames.map Identifier.key).Nodup

/-- A compilation succeeds iff it has its parts, and gives the entity with these parts. -/
theorem compile_eq_ok {s : Schematic} {n : Netlist} {e : Entity} :
    (compile s n).result = .ok e ↔ ∃ c : Parts, c.Of s n ∧ e = c.entity s := by
  unfold compile
  simp only [Logged.result_bind, result_lift, result_survey, result_processes, bind_eq_ok,
    map_eq_ok]
  constructor
  · intro ⟨k, hk, v, ⟨places, hplaces, hv⟩, signals, hsignals, _, ⟨processes, hprocesses, hflat⟩,
      _, hdistinct, he⟩
    subst hv hflat
    cases he
    exact ⟨⟨k, places, signals, processes⟩,
      ⟨⟨hk, hplaces, hsignals, hprocesses⟩, requireDistinct_eq_ok.1 hdistinct⟩, rfl⟩
  · intro ⟨c, hc, he⟩
    subst he
    exact ⟨c.kinds, hc.kinds, c.survey, ⟨c.places, hc.places, rfl⟩, c.signals, hc.signals,
      c.processes.flatten, ⟨c.processes, hc.processes, rfl⟩, (), requireDistinct_eq_ok.2 hc.distinct,
      rfl⟩

/-- A compilation fails for a node, for a net without a single driver, or, when all its
    parts are found, for a name that is repeated. -/
theorem compile_error_cases {s : Schematic} {n : Netlist} {e : Error}
    (h : (compile s n).result = .error e) :
    e.OfNode ∨ (∃ net ∈ n.nets, ∃ cause, e = .driver cause ∧ n.driver s net = .error cause) ∨
      ∃ (c : Parts) (name : String), c.Found s n ∧ e = .duplicateIdentifier name ∧
        repeatedName? [] (c.entity s).declaredNames = some name := by
  unfold compile at h
  simp only [Logged.result_bind, result_lift, result_survey, result_processes] at h
  -- The parts are taken in the order in which they are performed: the first one that
  -- fails decides.
  rcases bind_eq_error.1 h with h | ⟨k, hk, h⟩
  · exact .inl (failsOnly_kinds s e h)
  rcases bind_eq_error.1 h with h | ⟨v, hv, h⟩
  · exact .inl ((failsOnly_mapM fun node _ => failsOnly_place k n node).map _ e h)
  obtain ⟨places, hplaces, rfl⟩ := map_eq_ok.1 hv
  rcases bind_eq_error.1 h with h | ⟨signals, hsignals, h⟩
  · obtain ⟨net, hnet, h⟩ := exists_of_mapM_eq_error h
    rcases failsOnly_signalOf k s n net e h with hnode | ⟨cause, heq, hdriver⟩
    · exact .inl hnode
    · exact .inr (.inl ⟨net, mem_nets_of_signalNets hplaces hnet, cause, heq, hdriver⟩)
  rcases bind_eq_error.1 h with h | ⟨_, hflat, h⟩
  · exact .inl ((failsOnly_mapM fun e _ => failsOnly_processesOf n e).map _ e h)
  obtain ⟨processes, hprocesses, rfl⟩ := map_eq_ok.1 hflat
  rcases bind_eq_error.1 h with h | ⟨_, -, h⟩
  · unfold Entity.requireDistinct at h
    split at h
    · next name hname =>
      cases h
      exact .inr (.inr ⟨⟨k, places, signals, processes⟩, name,
        ⟨hk, hplaces, hsignals, hprocesses⟩, rfl, hname⟩)
    · cases h
  · cases h

namespace Parts.Found

variable {c : Parts} {s : Schematic} {n : Netlist}

/-- What is selected from the places belongs to nodes of the schematic, in order. -/
theorem sublist_nodes (h : c.Found s n) {β : Type} {select : Place → Option (Node × β)}
    (hselect : ∀ node p e, place c.kinds n node = .ok p → select p = some e → e.1 = node) :
    ((c.places.filterMap select).map (·.1)).Sublist s.nodes := by
  have hplaces := mapM_eq_ok.1 h.places
  generalize s.nodes = nodes at hplaces ⊢
  generalize c.places = places at hplaces ⊢
  induction hplaces with
  | nil => exact List.Sublist.refl []
  | @cons node p nodes places hp _ ih =>
    cases he : select p with
    | none =>
      rw [List.filterMap_cons_none he]
      exact ih.cons node
    | some e =>
      rw [List.filterMap_cons_some he, List.map_cons, hselect node p e hp he]
      exact ih.cons_cons node

/-- What is selected from the places was found for a node. -/
theorem exists_place_of_select (h : c.Found s n) {β : Type} {select : Place → Option (Node × β)}
    (hselect : ∀ node p e, place c.kinds n node = .ok p → select p = some e → e.1 = node)
    {e : Node × β} (he : e ∈ c.places.filterMap select) :
    e.1 ∈ s.nodes ∧ ∃ p, select p = some e ∧ place c.kinds n e.1 = .ok p := by
  obtain ⟨p, hp, hselected⟩ := List.mem_filterMap.1 he
  obtain ⟨node, hnode, hplace⟩ := (mem_iff_of_mapM h.places).1 hp
  rw [hselect node p e hplace hselected]
  exact ⟨hnode, p, hselected, hplace⟩

/-- An input pin that becomes a port has its place among the inputs. -/
theorem place_of_input (h : c.Found s n) {e : Node × Net} (he : e ∈ c.survey.inputs) :
    e.1 ∈ s.nodes ∧ place c.kinds n e.1 = .ok (.input e.1 e.2) := by
  have hmem : e ∈ c.places.filterMap Place.input? := by
    rcases mem_inputs_of_foldl_put he with hnone | hmem
    · cases hnone
    · exact hmem
  obtain ⟨hnode, p, hp, hplace⟩ := h.exists_place_of_select
    (fun _ _ _ hplace hp => (pin_of_place hplace (.inl hp)).1) hmem
  cases p with
  | input pin net =>
    cases hp
    exact ⟨hnode, hplace⟩
  | output pin net => cases hp
  | inner node primitive => cases hp
  | nowhere => cases hp

/-- An output pin that becomes a port has its place among the outputs. -/
theorem place_of_output (h : c.Found s n) {e : Node × Net} (he : e ∈ c.survey.outputs) :
    e.1 ∈ s.nodes ∧ place c.kinds n e.1 = .ok (.output e.1 e.2) := by
  rw [survey, (foldl_put_outputs_inner c.places {}).1, List.nil_append] at he
  obtain ⟨hnode, p, hp, hplace⟩ := h.exists_place_of_select
    (fun _ _ _ hplace hp => (pin_of_place hplace (.inr hp)).1) he
  cases p with
  | input pin net => cases hp
  | output pin net =>
    cases hp
    exact ⟨hnode, hplace⟩
  | inner node primitive => cases hp
  | nowhere => cases hp

/-- An inner node is what it is taken for. -/
theorem classify_of_inner (h : c.Found s n) {e : Node × Primitive} (he : e ∈ c.survey.inner) :
    e.1 ∈ s.nodes ∧ c.kinds.classify e.1 = .ok e.2 := by
  rw [survey, (foldl_put_outputs_inner c.places {}).2, List.nil_append] at he
  obtain ⟨hnode, p, hp, hplace⟩ := h.exists_place_of_select
    (fun _ _ _ hplace hp => (inner_of_place hplace hp).1) he
  exact ⟨hnode, (inner_of_place hplace hp).2⟩

/-- Every process is that of a register among the inner nodes. -/
theorem mem_processes (h : c.Found s n) {process : Concurrent} :
    process ∈ c.processes.flatten ↔
      ∃ e ∈ c.survey.inner, ∃ p, e.2 = .register p ∧
        ∃ r : RegisterNets, r.Of n e.1 ∧ process = r.process e.1 p := by
  rw [List.mem_flatten]
  constructor
  · intro ⟨processes, hmem, hprocess⟩
    obtain ⟨e, he, hok⟩ := (mem_iff_of_mapM h.processes).1 hmem
    obtain ⟨p, hp, hcases⟩ := processesOf_eq_ok.1 hok
    rcases hcases with ⟨_, hnil⟩ | ⟨r, hr, hone⟩
    · rw [hnil] at hprocess
      cases hprocess
    · rw [hone, List.mem_singleton] at hprocess
      exact ⟨e, he, p, hp, r, hr, hprocess⟩
  · intro ⟨e, he, p, hp, r, hr, hprocess⟩
    have hok : processesOf n e = .ok [r.process e.1 p] :=
      processesOf_eq_ok.2 ⟨p, hp, .inr ⟨r, hr, rfl⟩⟩
    exact ⟨_, (mem_iff_of_mapM h.processes).2 ⟨e, he, hok⟩, List.mem_singleton.2 hprocess⟩

/-- What a process shows of its register and the net that it drives, the processes
    show of all registers with an output. -/
theorem map_processes (h : c.Found s n) {β : Type} {f : Concurrent → β} {g : Node × Net → β}
    (hf : ∀ node p (r : RegisterNets), f (r.process node p) = g (node, r.output)) :
    c.processes.flatten.map f =
      (c.survey.inner.filterMap fun e =>
        (n.netOf? ⟨e.1.name, "out"⟩).map (e.1, ·)).map g := by
  have hlists : c.processes.map (List.map f) = c.survey.inner.map fun e =>
      (((n.netOf? ⟨e.1.name, "out"⟩).map (e.1, ·)).map g).toList := by
    refine map_eq_of_mapM h.processes ?_
    intro e processes hok
    obtain ⟨p, _, hcases⟩ := processesOf_eq_ok.1 hok
    -- Both lists are empty, or both have one member.
    rcases hcases with ⟨hout, hnil⟩ | ⟨r, hr, hone⟩
    · rw [hnil, (portNet_eq_ok.1 hout).2]
      rfl
    · rw [hone, (portNet_eq_ok.1 hr.output).2]
      exact congrArg (fun b => [b]) (hf e.1 p r)
  rw [List.map_flatten, hlists, List.map_filterMap, List.filterMap_eq_flatMap_toList]
  rfl

/-- The labels are those of the inner nodes with an output. -/
theorem labels_eq_map (h : c.Found s n) :
    (c.entity s).statements.filterMap Concurrent.label? =
      (c.survey.inner.filterMap fun e => (n.netOf? ⟨e.1.name, "out"⟩).map (e.1, ·)).map
        fun e => processName e.1 := by
  have hassignments : c.survey.assignments.filterMap Concurrent.label? = [] := by
    rw [List.filterMap_eq_nil_iff]
    intro statement hmem
    rcases List.mem_append.1 hmem with hmem | hmem
    · obtain ⟨e, _, rfl⟩ := List.mem_map.1 hmem
      rfl
    · obtain ⟨e, _, rfl⟩ := List.mem_map.1 hmem
      rfl
  have hlabels : c.processes.flatten.filterMap Concurrent.label? =
      (c.processes.flatten.map Concurrent.label?).filterMap id := by
    rw [List.filterMap_map]
    rfl
  unfold Parts.entity
  rw [List.filterMap_append, hassignments, hlabels, List.nil_append,
    h.map_processes (g := fun e => some (processName e.1)) (fun _ _ _ => rfl), List.filterMap_map]
  exact congrFun List.filterMap_eq_map _

/-- The signals are named for the nets of the survey. -/
theorem map_name_signals (h : c.Found s n) :
    c.signals.map (·.name) = (c.survey.signalNets n).map netName := by
  refine map_eq_of_mapM h.signals ?_
  intro net signal hsignal
  obtain ⟨value, _, hsignal⟩ := bind_eq_ok.1 hsignal
  cases hsignal
  rfl

end Parts.Found

end Netlister.Vhdl
