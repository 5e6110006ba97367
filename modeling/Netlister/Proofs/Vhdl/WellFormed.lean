import Netlister.Proofs.Vhdl.Digital

/-! # Well-formed entities

  What a VHDL tool asks of an entity before it simulates it: names are declared
  once, statements only use declared names, input ports are never assigned,
  output ports are never read and have one driver. `compile_wellFormed` states
  this of every compiled entity; for circuits in the digital vocabulary it also
  states which ports and signals there are and what drives each signal.
-/

namespace Netlister.Vhdl

open Outcome

/-! ### Names in statements -/

/-- The name that a condition looks at. -/
def Condition.name : Condition → String
  | .equals name _ => name
  | .rising name => name
  | .falling name => name

/-- The names that an expression reads. -/
def Expression.names : Expression → List String
  | .reference name => [name]
  | .bit _ => []

/-- An assignment inside a statement. -/
structure Assignment where
  /-- The condition of the innermost branch that it stands in, if it stands in one. -/
  guard : Option Condition
  /-- The name that is assigned. -/
  target : String
  /-- What is assigned. -/
  source : Expression

/-- The assignment is made because a signal has some level. -/
def Assignment.OnLevel (a : Assignment) : Prop := ∃ name value, a.guard = some (.equals name value)

mutual

/-- The assignments of a statement that stands in a branch with the given condition. -/
def Sequential.assignments (guard : Option Condition) : Sequential → List Assignment
  | .assign target source => [⟨guard, target, source⟩]
  | .choose branches otherwise =>
    Sequential.branchAssignments branches ++ Sequential.bodyAssignments none otherwise

/-- The assignments of statements in order. -/
def Sequential.bodyAssignments (guard : Option Condition) : List Sequential → List Assignment
  | [] => []
  | q :: qs => q.assignments guard ++ Sequential.bodyAssignments guard qs

/-- The assignments of branches. -/
def Sequential.branchAssignments : List (Condition × List Sequential) → List Assignment
  | [] => []
  | (condition, body) :: branches =>
    Sequential.bodyAssignments (some condition) body ++ Sequential.branchAssignments branches

end

mutual

/-- The conditions of a statement. -/
def Sequential.conditions : Sequential → List Condition
  | .assign _ _ => []
  | .choose branches otherwise =>
    Sequential.branchConditions branches ++ Sequential.bodyConditions otherwise

/-- The conditions of statements in order. -/
def Sequential.bodyConditions : List Sequential → List Condition
  | [] => []
  | q :: qs => q.conditions ++ Sequential.bodyConditions qs

/-- The conditions of branches. -/
def Sequential.branchConditions : List (Condition × List Sequential) → List Condition
  | [] => []
  | (condition, body) :: branches =>
    condition :: Sequential.bodyConditions body ++ Sequential.branchConditions branches

end

namespace Concurrent

/-- The assignments of a statement of an architecture. -/
def assignments : Concurrent → List Assignment
  | .assign target source => [⟨none, target, .reference source⟩]
  | .process _ _ body => Sequential.bodyAssignments none body

/-- The names that a statement assigns. -/
def targets (c : Concurrent) : List String := c.assignments.map (·.target)

/-- The names that a statement reads or waits for. -/
def reads : Concurrent → List String
  | .assign _ source => [source]
  | .process _ sensitivity body =>
    sensitivity ++ (Sequential.bodyConditions body).map Condition.name ++
      (Sequential.bodyAssignments none body).flatMap (·.source.names)

/-- The first name that a statement assigns. -/
def target (c : Concurrent) : String := c.targets.headD ""

end Concurrent

/-- The statements that assign a name. -/
def Entity.driversOf (e : Entity) (name : String) : List Concurrent :=
  e.statements.filter fun c => decide (name ∈ c.targets)

/-! ### Well-formedness -/

/-- An entity that uses its names as it declares them. -/
structure Entity.WellFormed (e : Entity) : Prop where
  /-- No two declarations have names with one key. -/
  distinct : (e.declaredNames.map Identifier.key).Nodup
  /-- Statements only use declared ports and signals. -/
  declared : ∀ c ∈ e.statements, ∀ name, name ∈ c.targets ∨ name ∈ c.reads →
    name ∈ e.ports.map (·.name) ∨ name ∈ e.signals.map (·.name)
  /-- Input ports are never assigned. -/
  inputs : ∀ port ∈ e.ports, port.direction = .input → ∀ c ∈ e.statements, port.name ∉ c.targets
  /-- Output ports are never read. -/
  outputs : ∀ port ∈ e.ports, port.direction = .output → ∀ c ∈ e.statements, port.name ∉ c.reads
  /-- An output port has one driver, which is an assignment. -/
  driven : ∀ port ∈ e.ports, port.direction = .output →
    ∃ source, e.driversOf port.name = [.assign port.name source]

/-- An entity that shows the circuit of a schematic. -/
structure Entity.Shows (e : Entity) (s : Schematic) (d : DigitalTypes) (n : Netlist) : Prop where
  /-- The ports are the input pins on nets and then the output pins on nets. -/
  ports : e.ports =
    (s.wired n d.inputPin "out").map (fun pin => ⟨Identifier.portName pin.1.name, .input⟩) ++
      (s.wired n d.outputPin "in").map (fun pin => ⟨Identifier.portName pin.1.name, .output⟩)
  /-- The signals are the nets, each once. -/
  signals : (e.signals.map (·.name)).Perm (n.nets.map netName)
  /-- A signal has one driver: an assignment from an input port, or a process. -/
  driven : ∀ signal ∈ e.signals,
    (∃ source, ⟨source, .input⟩ ∈ e.ports ∧
      e.driversOf signal.name = [.assign signal.name source]) ∨
    ∃ label sensitivity body, e.driversOf signal.name = [.process label sensitivity body]
  /-- A process drives one signal, and resets it to its initial value. -/
  resets : ∀ c ∈ e.statements, c.label?.isSome → ∃ signal ∈ e.signals,
    (∀ name ∈ c.targets, name = signal.name) ∧
      ∃ b, signal.initial = some b ∧ (∃ a ∈ c.assignments, a.OnLevel) ∧
        ∀ a ∈ c.assignments, a.OnLevel → a.source = .bit b

theorem target_assign (target source : String) :
    (Concurrent.assign target source).target = target := rfl

/-! ### The process of a register -/

/-- The condition under which a register loads, where it is the innermost one. -/
def loadGuard (p : RegisterParams) (clock : String) : Option Condition :=
  if p.resetAsynchronous then
    some (if p.clockActiveHigh then .rising clock else .falling clock)
  else none

theorem loadGuard_ne_equals (p : RegisterParams) (clock name : String) (value : Bool) :
    loadGuard p clock ≠ some (.equals name value) := by
  unfold loadGuard
  cases p.resetAsynchronous <;> cases p.clockActiveHigh <;> simp

theorem assignments_process (r : RegisterNets) (node : Node) (p : RegisterParams) :
    (r.process node p).assignments =
      [⟨some (.equals (netName r.reset) p.resetActiveHigh), netName r.output,
          .bit p.initialValue⟩,
        ⟨loadGuard p (netName r.clock), netName r.output, .reference (netName r.data)⟩] := by
  unfold RegisterNets.process Concurrent.assignments registerBody loadGuard
  cases p.resetAsynchronous <;>
    simp [Sequential.bodyAssignments, Sequential.assignments, Sequential.branchAssignments]

theorem target_process (r : RegisterNets) (node : Node) (p : RegisterParams) :
    (r.process node p).target = netName r.output := by
  unfold Concurrent.target Concurrent.targets
  rw [assignments_process]
  rfl

theorem mem_targets_process {r : RegisterNets} {node : Node} {p : RegisterParams} {name : String} :
    name ∈ (r.process node p).targets ↔ name = netName r.output := by
  unfold Concurrent.targets
  rw [assignments_process]
  simp

theorem mem_reads_registerBody {p : RegisterParams} {label output data clock reset name : String}
    (h : name ∈ (Concurrent.process label [clock, reset, data]
      [registerBody p output data clock reset]).reads) :
    name = clock ∨ name = reset ∨ name = data := by
  unfold Concurrent.reads registerBody at h
  cases hasync : p.resetAsynchronous <;> cases hclock : p.clockActiveHigh <;>
    simp [hasync, hclock, Sequential.bodyConditions, Sequential.conditions,
      Sequential.branchConditions, Sequential.bodyAssignments, Sequential.assignments,
      Sequential.branchAssignments, Condition.name, Expression.names] at h <;> tauto

/-! ### Every compiled entity -/

/-- In a list whose members have distinct keys, the members with the key of one
    member are this member. -/
theorem filter_eq_singleton {α : Type} (key : α → String) {p : α → Bool} {x : α} {xs : List α}
    (hkeys : (xs.map key).Nodup) (hx : x ∈ xs) (hp : ∀ y ∈ xs, p y = true ↔ key y = key x) :
    xs.filter p = [x] := by
  have hperm : (xs.filter p).Perm [x] := by
    refine (List.perm_ext_iff_of_nodup (hkeys.of_map.filter p) (List.nodup_singleton x)).2 ?_
    intro y
    rw [List.mem_filter, List.mem_singleton]
    constructor
    · intro ⟨hy, hpy⟩
      exact List.inj_on_of_nodup_map hkeys hy hx ((hp y hy).1 hpy)
    · intro hyx
      rw [hyx]
      exact ⟨hx, (hp x hx).2 rfl⟩
  exact List.perm_singleton.1 hperm

namespace Parts.Of

variable {c : Parts} {s : Schematic} {n : Netlist}

/-- A statement carries an input pin to its net, or a net to its output pin, or is
    the process of a register. -/
theorem mem_statements (h : c.Of s n) {statement : Concurrent} :
    statement ∈ (c.entity s).statements ↔
      (∃ e ∈ c.survey.inputs, statement = .assign (netName e.2) (Identifier.portName e.1.name)) ∨
      (∃ e ∈ c.survey.outputs, statement = .assign (Identifier.portName e.1.name) (netName e.2)) ∨
      ∃ e ∈ c.survey.inner, ∃ p, e.2 = .register p ∧
        ∃ r : RegisterNets, r.Of n e.1 ∧ statement = r.process e.1 p := by
  unfold Parts.entity Survey.assignments
  rw [List.mem_append, List.mem_append, List.mem_map, List.mem_map, h.mem_processes, or_assoc]
  simp only [eq_comm]

/-- The net of a port of an inner node becomes a signal. -/
theorem mem_signalNets_of_inner {e : Node × Primitive} (he : e ∈ c.survey.inner) {port : String}
    {net : Net} (hnet : portNet n e.1 port = .ok (some net)) : net ∈ c.survey.signalNets n := by
  obtain ⟨hport, hof⟩ := portNet_eq_ok.1 hnet
  exact mem_signalNets.2 (.inr (.inl ⟨e, he, _, mem_portRefs hport, hof⟩))

/-- A name that a statement assigns is that of a signal or of an output port. -/
theorem targets_cases (h : c.Of s n) {statement : Concurrent}
    (hmem : statement ∈ (c.entity s).statements) {name : String}
    (hname : name ∈ statement.targets) :
    (∃ net ∈ c.survey.signalNets n, name = netName net) ∨
      ∃ e ∈ c.survey.outputs, name = Identifier.portName e.1.name := by
  rcases h.mem_statements.1 hmem with ⟨e, he, rfl⟩ | ⟨e, he, rfl⟩ | ⟨e, he, p, _, r, hr, rfl⟩
  · have hnet : e.2 ∈ c.survey.inputs.map (·.2) := List.mem_map.2 ⟨e, he, rfl⟩
    exact .inl ⟨e.2, mem_signalNets.2 (.inl hnet), List.mem_singleton.1 hname⟩
  · exact .inr ⟨e, he, List.mem_singleton.1 hname⟩
  · exact .inl ⟨r.output, mem_signalNets_of_inner he hr.output, mem_targets_process.1 hname⟩

/-- A name that a statement reads is that of a signal or of an input port. -/
theorem reads_cases (h : c.Of s n) {statement : Concurrent}
    (hmem : statement ∈ (c.entity s).statements) {name : String}
    (hname : name ∈ statement.reads) :
    (∃ net ∈ c.survey.signalNets n, name = netName net) ∨
      ∃ e ∈ c.survey.inputs, name = Identifier.portName e.1.name := by
  rcases h.mem_statements.1 hmem with ⟨e, he, rfl⟩ | ⟨e, he, rfl⟩ | ⟨e, he, p, _, r, hr, rfl⟩
  · exact .inr ⟨e, he, List.mem_singleton.1 hname⟩
  · have hnet : e.2 ∈ c.survey.outputs.map (·.2) := List.mem_map.2 ⟨e, he, rfl⟩
    exact .inl ⟨e.2, mem_signalNets.2 (.inr (.inr hnet)), List.mem_singleton.1 hname⟩
  · rcases mem_reads_registerBody hname with hclock | hreset | hdata
    · exact .inl ⟨r.clock, mem_signalNets_of_inner he hr.clock, hclock⟩
    · exact .inl ⟨r.reset, mem_signalNets_of_inner he hr.reset, hreset⟩
    · exact .inl ⟨r.data, mem_signalNets_of_inner he hr.data, hdata⟩

/-- Input ports, output ports and signals have distinct names. -/
theorem nodup_names (h : c.Of s n) :
    (c.survey.inputs.map (fun e => Identifier.portName e.1.name) ++
      c.survey.outputs.map (fun e => Identifier.portName e.1.name) ++
        (c.survey.signalNets n).map netName).Nodup := by
  have hdeclared : (c.entity s).declaredNames.Nodup := h.distinct.of_map
  have hnames := (List.nodup_append.1 hdeclared).1
  rw [c.map_name_ports s] at hnames
  rw [← h.map_name_signals]
  exact hnames

theorem input_ne_output (h : c.Of s n) {e e' : Node × Net} (he : e ∈ c.survey.inputs)
    (he' : e' ∈ c.survey.outputs) :
    Identifier.portName e.1.name ≠ Identifier.portName e'.1.name := by
  have hports := (List.nodup_append.1 h.nodup_names).1
  exact (List.nodup_append.1 hports).2.2 _ (List.mem_map.2 ⟨e, he, rfl⟩) _
    (List.mem_map.2 ⟨e', he', rfl⟩)

theorem port_ne_signal (h : c.Of s n) {e : Node × Net}
    (he : e ∈ c.survey.inputs ∨ e ∈ c.survey.outputs) {net : Net}
    (hnet : net ∈ c.survey.signalNets n) : Identifier.portName e.1.name ≠ netName net := by
  refine (List.nodup_append.1 h.nodup_names).2.2 _ ?_ _ (List.mem_map.2 ⟨net, hnet, rfl⟩)
  rw [List.mem_append]
  rcases he with he | he
  · exact .inl (List.mem_map.2 ⟨e, he, rfl⟩)
  · exact .inr (List.mem_map.2 ⟨e, he, rfl⟩)

/-- Different nets have signals with different names. -/
theorem netName_injective (h : c.Of s n) {a b : Net} (ha : a ∈ c.survey.signalNets n)
    (hb : b ∈ c.survey.signalNets n) (hab : netName a = netName b) : a = b :=
  List.inj_on_of_nodup_map (List.nodup_append.1 h.nodup_names).2.1 ha hb hab

/-- The ports are those of the input and output pins. -/
theorem mem_ports {port : Port} :
    port ∈ (c.entity s).ports ↔
      (∃ e ∈ c.survey.inputs, port = ⟨Identifier.portName e.1.name, .input⟩) ∨
      ∃ e ∈ c.survey.outputs, port = ⟨Identifier.portName e.1.name, .output⟩ := by
  unfold Parts.entity Survey.ports
  rw [List.mem_append, List.mem_map, List.mem_map]
  simp only [eq_comm]

/-- An output port has one driver. -/
theorem driversOf_output (h : c.Of s n) {e : Node × Net} (he : e ∈ c.survey.outputs) :
    (c.entity s).driversOf (Identifier.portName e.1.name) =
      [.assign (Identifier.portName e.1.name) (netName e.2)] := by
  -- Input pins and processes assign signals, and no signal has the name of a port.
  have hinputs : (c.survey.inputs.map fun e => Concurrent.assign (netName e.2)
      (Identifier.portName e.1.name)).filter
        (fun q => decide (Identifier.portName e.1.name ∈ q.targets)) = [] := by
    rw [List.filter_eq_nil_iff]
    intro statement hmem htarget
    obtain ⟨e', he', rfl⟩ := List.mem_map.1 hmem
    have hnet : e'.2 ∈ c.survey.inputs.map (·.2) := List.mem_map.2 ⟨e', he', rfl⟩
    exact h.port_ne_signal (.inr he) (mem_signalNets.2 (.inl hnet))
      (List.mem_singleton.1 (of_decide_eq_true htarget))
  have hprocesses : c.processes.flatten.filter
      (fun q => decide (Identifier.portName e.1.name ∈ q.targets)) = [] := by
    rw [List.filter_eq_nil_iff]
    intro statement hmem htarget
    obtain ⟨e', he', p, _, r, hr, rfl⟩ := h.mem_processes.1 hmem
    exact h.port_ne_signal (.inr he) (mem_signalNets_of_inner he' hr.output)
      (mem_targets_process.1 (of_decide_eq_true htarget))
  -- Output pins assign ports, which have distinct names.
  have houtputs : (c.survey.outputs.map fun e => Concurrent.assign (Identifier.portName e.1.name)
      (netName e.2)).filter (fun q => decide (Identifier.portName e.1.name ∈ q.targets)) =
        [.assign (Identifier.portName e.1.name) (netName e.2)] := by
    have hports := (List.nodup_append.1 h.nodup_names).1
    refine filter_eq_singleton Concurrent.target ?_ (List.mem_map.2 ⟨e, he, rfl⟩) ?_
    · rw [List.map_map]
      exact (List.nodup_append.1 hports).2.1
    · intro statement hmem
      obtain ⟨e', _, rfl⟩ := List.mem_map.1 hmem
      simp [Concurrent.targets, Concurrent.target, Concurrent.assignments, eq_comm]
  unfold Entity.driversOf Parts.entity Survey.assignments
  rw [List.filter_append, List.filter_append, hinputs, houtputs, hprocesses]
  rfl

/-- Every compiled entity is well formed. -/
theorem wellFormed (h : c.Of s n) : (c.entity s).WellFormed where
  distinct := h.distinct
  declared := by
    intro statement hmem name hname
    have hsignal (net : Net) (hnet : net ∈ c.survey.signalNets n) :
        netName net ∈ (c.entity s).signals.map (·.name) := by
      show _ ∈ c.signals.map (·.name)
      rw [h.map_name_signals]
      exact List.mem_map.2 ⟨net, hnet, rfl⟩
    have hport (port : Port) (hport : port ∈ (c.entity s).ports) :
        port.name ∈ (c.entity s).ports.map (·.name) := List.mem_map.2 ⟨port, hport, rfl⟩
    rcases hname with htarget | hread
    · rcases h.targets_cases hmem htarget with ⟨net, hnet, rfl⟩ | ⟨e, he, rfl⟩
      · exact .inr (hsignal net hnet)
      · exact .inl (hport _ (mem_ports.2 (.inr ⟨e, he, rfl⟩)))
    · rcases h.reads_cases hmem hread with ⟨net, hnet, rfl⟩ | ⟨e, he, rfl⟩
      · exact .inr (hsignal net hnet)
      · exact .inl (hport _ (mem_ports.2 (.inl ⟨e, he, rfl⟩)))
  inputs := by
    intro port hport hdirection statement hmem htarget
    rcases mem_ports.1 hport with ⟨e, he, rfl⟩ | ⟨e, he, rfl⟩
    · rcases h.targets_cases hmem htarget with ⟨net, hnet, heq⟩ | ⟨e', he', heq⟩
      · exact h.port_ne_signal (.inl he) hnet heq
      · exact h.input_ne_output he he' heq
    · cases hdirection
  outputs := by
    intro port hport hdirection statement hmem hread
    rcases mem_ports.1 hport with ⟨e, he, rfl⟩ | ⟨e, he, rfl⟩
    · cases hdirection
    · rcases h.reads_cases hmem hread with ⟨net, hnet, heq⟩ | ⟨e', he', heq⟩
      · exact h.port_ne_signal (.inr he) hnet heq
      · exact h.input_ne_output he' he heq.symm
  driven := by
    intro port hport hdirection
    rcases mem_ports.1 hport with ⟨e, he, rfl⟩ | ⟨e, he, rfl⟩
    · cases hdirection
    · exact ⟨netName e.2, h.driversOf_output he⟩

/-! ### Compiled circuits -/

variable {d : DigitalTypes}

/-- The statements assign the nets of input pins, the output ports and the nets of
    registers, in this order. -/
theorem map_target_statements (hc : c.Of s n) (h : Circuit s d n) :
    (c.entity s).statements.map Concurrent.target =
      (s.wired n d.inputPin "out").map (fun e => netName e.2) ++
        (s.wired n d.outputPin "in").map (fun e => Identifier.portName e.1.name) ++
          (s.wired n d.register "out").map (fun e => netName e.2) := by
  have hprocesses : c.processes.flatten.map Concurrent.target =
      (s.wired n d.register "out").map (fun e => netName e.2) := by
    rw [hc.map_processes (g := fun e => netName e.2) fun node p r => target_process r node p,
      hc.survey_eq h, filterMap_inner h.speaks.standard (hc.known h)]
  unfold Parts.entity Survey.assignments
  rw [List.map_append, List.map_append, hprocesses, hc.inputs_eq h, hc.outputs_eq h, List.map_map,
    List.map_map]
  rfl

/-- The net of a source becomes a signal. -/
theorem mem_signalNets_of_source (hc : c.Of s n) (h : Circuit s d n) {net : Net}
    (hnet : net ∈ (sources s d n).map (·.2)) : net ∈ c.survey.signalNets n := by
  obtain ⟨⟨node, _⟩, hmem, rfl⟩ := List.mem_map.1 hnet
  exact (hc.mem_signalNets_iff h).2 (Netlist.mem_of_netOf? (mem_sources.1 hmem).2.2).1

/-- No two statements assign one name. -/
theorem nodup_targets (hc : c.Of s n) (h : Circuit s d n) :
    ((c.entity s).statements.map Concurrent.target).Nodup := by
  have hnets : (((sources s d n).map (·.2)).map netName).Nodup := by
    refine (h.nodup_sources (hc.driven h)).map_on ?_
    intro a ha b hb hab
    exact hc.netName_injective (hc.mem_signalNets_of_source h ha)
      (hc.mem_signalNets_of_source h hb) hab
  have hports : ((s.wired n d.outputPin "in").map
      fun e => Identifier.portName e.1.name).Nodup := by
    have hall := (List.nodup_append.1 hc.nodup_names).1
    rw [hc.outputs_eq h] at hall
    exact (List.nodup_append.1 hall).2.1
  -- With the processes next to the input pins, the nets are those of the sources.
  have hperm : ((c.entity s).statements.map Concurrent.target).Perm
      (((sources s d n).map (·.2)).map netName ++
        (s.wired n d.outputPin "in").map fun e => Identifier.portName e.1.name) := by
    unfold sources
    rw [hc.map_target_statements h, List.map_map, List.map_append, List.append_assoc,
      List.append_assoc]
    exact List.perm_append_comm.append_left _
  refine hperm.nodup_iff.2 (List.nodup_append.2 ⟨hnets, hports, ?_⟩)
  intro a ha b hb hab
  obtain ⟨net, hnet, rfl⟩ := List.mem_map.1 ha
  obtain ⟨e, he, rfl⟩ := List.mem_map.1 hb
  rw [← hc.outputs_eq h] at he
  exact hc.port_ne_signal (.inr he) (hc.mem_signalNets_of_source h hnet) hab.symm

/-- A statement assigns one name only. -/
theorem mem_targets_iff (hc : c.Of s n) {statement : Concurrent}
    (hmem : statement ∈ (c.entity s).statements) {name : String} :
    name ∈ statement.targets ↔ statement.target = name := by
  rcases hc.mem_statements.1 hmem with ⟨e, _, rfl⟩ | ⟨e, _, rfl⟩ | ⟨e, _, p, _, r, _, rfl⟩
  · simp [Concurrent.targets, Concurrent.target, Concurrent.assignments, eq_comm]
  · simp [Concurrent.targets, Concurrent.target, Concurrent.assignments, eq_comm]
  · rw [mem_targets_process, target_process, eq_comm]

/-- A statement is the only driver of what it assigns. -/
theorem driversOf_target (hc : c.Of s n) (h : Circuit s d n) {statement : Concurrent}
    (hmem : statement ∈ (c.entity s).statements) :
    (c.entity s).driversOf statement.target = [statement] := by
  refine filter_eq_singleton Concurrent.target (hc.nodup_targets h) hmem ?_
  intro other hother
  rw [decide_eq_true_iff]
  exact hc.mem_targets_iff hother

/-- An input pin on a net is carried to the net. -/
theorem input_statement (hc : c.Of s n) (h : Circuit s d n) {node : Node} {net : Net}
    (hwired : (node, net) ∈ s.wired n d.inputPin "out") :
    .assign (netName net) (Identifier.portName node.name) ∈ (c.entity s).statements := by
  rw [← hc.inputs_eq h] at hwired
  exact hc.mem_statements.2 (.inl ⟨(node, net), hwired, rfl⟩)

/-- A register with an output has its process. -/
theorem register_statement (hc : c.Of s n) (h : Circuit s d n) {node : Node} {r : RegisterNets}
    (hwired : (node, r.output) ∈ s.wired n d.register "out") (hr : r.Of n node) :
    r.process node node.params ∈ (c.entity s).statements := by
  obtain ⟨hmem, hreg, _⟩ := mem_wired.1 hwired
  refine hc.mem_statements.2 (.inr (.inr ⟨(node, primitiveOf d node), ?_, node.params,
    primitiveOf_register h.speaks.standard hreg, r, hr, rfl⟩))
  rw [hc.survey_eq h]
  exact mem_inner_surveyOf.2 ⟨hmem, not_pin_of_register h.speaks.standard hreg, rfl⟩

/-- A statement with a label is the process of a register with an output. -/
theorem register_of_label (hc : c.Of s n) (h : Circuit s d n) {statement : Concurrent}
    (hmem : statement ∈ (c.entity s).statements) (hlabel : statement.label?.isSome) :
    ∃ (node : Node) (r : RegisterNets), (node, r.output) ∈ s.wired n d.register "out" ∧
      statement = r.process node node.params := by
  rcases hc.mem_statements.1 hmem with ⟨e, _, rfl⟩ | ⟨e, _, rfl⟩ | ⟨e, he, p, hp, r, hr, rfl⟩
  · cases hlabel
  · cases hlabel
  · rw [hc.survey_eq h] at he
    obtain ⟨hnode, _, hprimitive⟩ := mem_inner_surveyOf.1 he
    obtain ⟨hreg, rfl⟩ := register_of_primitiveOf (hprimitive.symm.trans hp)
    exact ⟨e.1, r, mem_wired.2 ⟨hnode, hreg, (portNet_eq_ok.1 hr.output).2⟩, rfl⟩

/-- The entity of a circuit shows the circuit. -/
theorem shows (hc : c.Of s n) (h : Circuit s d n) : (c.entity s).Shows s d n where
  ports := by
    unfold Parts.entity Survey.ports
    rw [hc.inputs_eq h, hc.outputs_eq h]
  signals := hc.perm_signals h
  driven := by
    intro signal hsignal
    have hname : signal.name ∈ c.signals.map (·.name) := List.mem_map.2 ⟨signal, hsignal, rfl⟩
    rw [hc.map_name_signals] at hname
    obtain ⟨net, hnet, hname⟩ := List.mem_map.1 hname
    rw [hc.mem_signalNets_iff h] at hnet
    obtain ⟨node, hsource⟩ := hc.exists_source h hnet
    rw [← hname]
    rcases List.mem_append.1 hsource with hpin | hreg
    · left
      have honly := hc.driversOf_target h (hc.input_statement h hpin)
      rw [target_assign] at honly
      refine ⟨Identifier.portName node.name, ?_, honly⟩
      rw [← hc.inputs_eq h] at hpin
      exact mem_ports.2 (.inl ⟨(node, net), hpin, rfl⟩)
    · right
      obtain ⟨r, hr, rfl⟩ := hc.registerNets h hreg
      have honly := hc.driversOf_target h (hc.register_statement h hreg hr)
      rw [target_process] at honly
      exact ⟨_, _, _, honly⟩
  resets := by
    intro statement hmem hlabel
    obtain ⟨node, r, hwired, rfl⟩ := hc.register_of_label h hmem hlabel
    refine ⟨_, hc.signal_of_register h hwired, fun name hname => mem_targets_process.1 hname,
      node.params.initialValue, rfl, ?_, ?_⟩
    · rw [assignments_process]
      exact ⟨_, List.mem_cons_self, _, _, rfl⟩
    · intro a ha hlevel
      rw [assignments_process, List.mem_cons, List.mem_singleton] at ha
      rcases ha with rfl | rfl
      · rfl
      · obtain ⟨name, value, hguard⟩ := hlevel
        exact absurd hguard (loadGuard_ne_equals _ _ _ _)

end Parts.Of

/-- Every compiled entity is well formed, and the entity of a circuit shows the circuit. -/
theorem compile_wellFormed {s : Schematic} {n : Netlist} {e : Entity} (hs : s.Reachable)
    (hn : (Netlist.build s).result = .ok n) (he : (compile s n).result = .ok e) :
    e.WellFormed ∧ ∀ d, s.Speaks d → e.Shows s d n := by
  obtain ⟨c, hc, rfl⟩ := compile_eq_ok.1 he
  exact ⟨hc.wellFormed, fun d hd => hc.shows ⟨hs.consistent, hd, hn⟩⟩

theorem compile_wellFormed_stage :
    stage.Reachable ∧ (Netlist.build stage).result = .ok stageNetlist ∧
      stage.Speaks (DigitalTypes.numbered 0) ∧
      ∃ e, (compile stage stageNetlist).result = .ok e ∧ e.WellFormed ∧
        e.Shows stage (DigitalTypes.numbered 0) stageNetlist := by
  obtain ⟨e, he⟩ : ∃ e, (compile stage stageNetlist).result = .ok e :=
    exists_ok (by decide +kernel)
  obtain ⟨hwell, hshows⟩ := compile_wellFormed reachable_stage build_stage he
  exact ⟨reachable_stage, build_stage, speaks_stage, e, he, hwell, hshows _ speaks_stage⟩

end Netlister.Vhdl
