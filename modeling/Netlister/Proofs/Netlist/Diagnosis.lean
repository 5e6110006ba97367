import Netlister.Proofs.Netlist.Stepwise
import Netlister.Proofs.Schematic.Declared

/-! # Which schematics have a netlist, and what is wrong with the others

  Types are compared as declarations. A declaration may have several names, or none, and an
  error calls it by the least of its names.

  - `Buildable`: the digital vocabulary is registered, every node is of a registered type,
    and every connection is a wire between digital ports.
  - `FirstFault`: the error of the first of these conditions that fails. The vocabulary comes
    first, one scope after the other, then the nodes in order, then the connections in order,
    and of each connection its type, its first end and its second.
  - `build_eq_error`: a netlist is refused with the first fault. Together with
    `exists_build_iff` this leaves no third outcome.
-/

namespace Netlister.Netlist

open Schematic (Scope)

/-! ### Conditions -/

/-- The names under which nothing is registered, in order. -/
def missing {α : Type} (m : NameMap α) (names : List String) : List String :=
  names.filter fun name => !m.contains name

/-- The port is of a type that is registered for digital ports. -/
def IsDigital (s : Schematic) (p : PortRef) : Prop :=
  ∃ port, s.port? p = some port ∧
    (s.portTypes.find? Digital.inPort = some port.type ∨
      s.portTypes.find? Digital.outPort = some port.type)

/-- The connection is of the type that is registered for wires, and between digital ports. -/
structure IsWire (s : Schematic) (c : Connection) : Prop where
  type : s.connectionTypes.find? Digital.wire = some c.type
  source : IsDigital s c.source
  target : IsDigital s c.target

/-- The digital vocabulary is registered. -/
structure Equipped (s : Schematic) : Prop where
  portTypes : missing s.portTypes [Digital.inPort, Digital.outPort] = []
  nodeTypes : missing s.nodeTypes [Digital.inputPin, Digital.outputPin] = []
  connectionTypes : missing s.connectionTypes [Digital.wire] = []

/-- The schematic has a netlist. -/
structure Buildable (s : Schematic) : Prop where
  equipped : Equipped s
  nodes : ∀ node ∈ s.nodes, s.nodeTypes.Has node.type
  connections : ∀ c ∈ s.connections, IsWire s c

/-- The type of the port is called by the least of its names. -/
inductive Shows (s : Schematic) (p : PortRef) : String → Prop where
  | named {port : Port} {name : String} : s.port? p = some port →
      s.portTypes.IsLeastName port.type name → Shows s p name
  | unregistered {port : Port} : s.port? p = some port →
      ¬ s.portTypes.Has port.type → Shows s p "<unregistered>"

/-- The first thing that is wrong with the connection. -/
inductive ConnectionFault (s : Schematic) (c : Connection) : Error → Prop where
  | unregistered : ¬ s.connectionTypes.Has c.type →
      ConnectionFault s c (.unknownConnectionType c.name)
  | type {actual : String} : s.connectionTypes.IsLeastName c.type actual →
      s.connectionTypes.find? Digital.wire ≠ some c.type →
      ConnectionFault s c (.connectionTypeMismatch c.name actual)
  | source {actual : String} : s.connectionTypes.find? Digital.wire = some c.type →
      ¬ IsDigital s c.source → Shows s c.source actual →
      ConnectionFault s c (.endpointTypeMismatch c.name .source actual)
  | target {actual : String} : s.connectionTypes.find? Digital.wire = some c.type →
      IsDigital s c.source → ¬ IsDigital s c.target → Shows s c.target actual →
      ConnectionFault s c (.endpointTypeMismatch c.name .target actual)

/-- The first thing that is wrong with the vocabulary: the names that are missing in a
    scope, when all names of the scopes before are there. -/
inductive VocabularyFault (s : Schematic) : Error → Prop where
  | portTypes {names : List String} :
      missing s.portTypes [Digital.inPort, Digital.outPort] = names → names ≠ [] →
      VocabularyFault s (.missingTypes .portTypes names)
  | nodeTypes {names : List String} :
      missing s.portTypes [Digital.inPort, Digital.outPort] = [] →
      missing s.nodeTypes [Digital.inputPin, Digital.outputPin] = names → names ≠ [] →
      VocabularyFault s (.missingTypes .nodeTypes names)
  | connectionTypes {names : List String} :
      missing s.portTypes [Digital.inPort, Digital.outPort] = [] →
      missing s.nodeTypes [Digital.inputPin, Digital.outputPin] = [] →
      missing s.connectionTypes [Digital.wire] = names → names ≠ [] →
      VocabularyFault s (.missingTypes .connectionTypes names)

/-- The first thing that is wrong with the schematic. -/
inductive FirstFault (s : Schematic) : Error → Prop where
  | vocabulary {e : Error} : VocabularyFault s e → FirstFault s e
  | node {before after : List Node} {node : Node} : Equipped s →
      s.nodes = before ++ node :: after → (∀ other ∈ before, s.nodeTypes.Has other.type) →
      ¬ s.nodeTypes.Has node.type → FirstFault s (.unknownNodeType node.name)
  | connection {before after : List Connection} {c : Connection} {e : Error} : Equipped s →
      (∀ node ∈ s.nodes, s.nodeTypes.Has node.type) →
      s.connections = before ++ c :: after → (∀ other ∈ before, IsWire s other) →
      ConnectionFault s c e → FirstFault s e

/-! ### The vocabulary -/

theorem missing_eq_nil {α : Type} {m : NameMap α} {names : List String} :
    missing m names = [] ↔ ∀ name ∈ names, ∃ v, m.find? name = some v := by
  simp [missing, NameMap.contains, ← Option.ne_none_iff_exists']

theorem requireBoth_eq_error {α : Type} {scope : Scope} {m : NameMap α} {a b : String}
    {e : Error} : requireBoth scope m a b = .error e ↔
      missing m [a, b] ≠ [] ∧ e = .missingTypes scope (missing m [a, b]) := by
  unfold requireBoth missing NameMap.contains
  cases ha : m.find? a <;> cases hb : m.find? b <;> simp [ha, hb, eq_comm (b := e)]

theorem exists_requireBoth_iff {α : Type} {scope : Scope} {m : NameMap α} {a b : String} :
    (∃ found, requireBoth scope m a b = .ok found) ↔ missing m [a, b] = [] := by
  unfold requireBoth missing NameMap.contains
  cases ha : m.find? a <;> cases hb : m.find? b <;> simp [ha, hb]

section Conditions

variable {s : Schematic} {v : Vocabulary} {e : Error}

theorem exists_vocabulary_iff : (∃ v, vocabulary s = .ok v) ↔ Equipped s := by
  constructor
  · rintro ⟨v, hv⟩
    obtain ⟨hin, hout, hinput, houtput, hwire⟩ := vocabulary_eq_ok.1 hv
    exact ⟨by simp [missing, NameMap.contains, hin, hout], by simp [missing, hinput, houtput],
      by simp [missing, NameMap.contains, hwire]⟩
  · rintro ⟨hports, hnodes, hconnections⟩
    simp only [missing_eq_nil, List.forall_mem_cons] at hports hnodes hconnections
    obtain ⟨⟨inPort, hin⟩, ⟨outPort, hout⟩, -⟩ := hports
    obtain ⟨hinput, houtput, -⟩ := hnodes
    obtain ⟨⟨wire, hwire⟩, -⟩ := hconnections
    exact ⟨⟨inPort, outPort, wire⟩, vocabulary_eq_ok.2 ⟨hin, hout,
      Option.isSome_iff_exists.2 hinput, Option.isSome_iff_exists.2 houtput, hwire⟩⟩

/-- The vocabulary is refused with its first fault. -/
theorem vocabulary_eq_error : vocabulary s = .error e ↔ VocabularyFault s e := by
  unfold vocabulary
  constructor
  · intro h
    rcases Outcome.bind_eq_error.1 h with h | ⟨ports, hports, h⟩
    · obtain ⟨hmissing, rfl⟩ := requireBoth_eq_error.1 h
      exact .portTypes rfl hmissing
    have hports := exists_requireBoth_iff.1 ⟨ports, hports⟩
    rcases Outcome.bind_eq_error.1 h with h | ⟨pins, hpins, h⟩
    · obtain ⟨hmissing, rfl⟩ := requireBoth_eq_error.1 h
      exact .nodeTypes hports rfl hmissing
    have hpins := exists_requireBoth_iff.1 ⟨pins, hpins⟩
    cases hwire : s.connectionTypes.find? Digital.wire with
    | some wire =>
      rw [hwire] at h
      cases h
    | none =>
      rw [hwire] at h
      cases h
      exact .connectionTypes hports hpins (by simp [missing, NameMap.contains, hwire]) (by simp)
  · intro h
    cases h with
    | portTypes hnames hne =>
      subst hnames
      exact Outcome.bind_eq_error.2 (.inl (requireBoth_eq_error.2 ⟨hne, rfl⟩))
    | nodeTypes hports hnames hne =>
      subst hnames
      obtain ⟨ports, hports⟩ := exists_requireBoth_iff.2 hports
      refine Outcome.bind_eq_error.2 (.inr ⟨ports, hports, ?_⟩)
      exact Outcome.bind_eq_error.2 (.inl (requireBoth_eq_error.2 ⟨hne, rfl⟩))
    | connectionTypes hports hpins hnames hne =>
      subst hnames
      obtain ⟨ports, hports⟩ := exists_requireBoth_iff.2 hports
      obtain ⟨pins, hpins⟩ := exists_requireBoth_iff.2 hpins
      refine Outcome.bind_eq_error.2 (.inr ⟨ports, hports, ?_⟩)
      refine Outcome.bind_eq_error.2 (.inr ⟨pins, hpins, ?_⟩)
      cases hwire : s.connectionTypes.find? Digital.wire with
      | some wire => simp [missing, NameMap.contains, hwire] at hne
      | none =>
        have hnames : missing s.connectionTypes [Digital.wire] = [Digital.wire] := by
          simp [missing, NameMap.contains, hwire]
        rw [hnames]
        rfl

/-! ### Nodes and connections -/

theorem checkNode_eq_ok {node : Node} :
    checkNode s node = .ok () ↔ s.nodeTypes.Has node.type := by
  rw [← NameMap.isSome_nameOf?_iff]
  unfold checkNode Schematic.nodeTypeName?
  cases s.nodeTypes.nameOf? node.type <;> simp

theorem checkNode_eq_error {node : Node} : checkNode s node = .error e ↔
    ¬ s.nodeTypes.Has node.type ∧ e = .unknownNodeType node.name := by
  rw [← NameMap.isSome_nameOf?_iff]
  unfold checkNode Schematic.nodeTypeName?
  cases s.nodeTypes.nameOf? node.type <;> simp [eq_comm]

theorem isDigital_iff (hv : vocabulary s = .ok v) {p : PortRef} : IsDigital s p ↔
    (s.port? p).map (·.type) = some v.inPort ∨ (s.port? p).map (·.type) = some v.outPort := by
  obtain ⟨hin, hout, -⟩ := vocabulary_eq_ok.1 hv
  unfold IsDigital
  rw [hin, hout]
  cases s.port? p <;> simp [eq_comm]

/-- An end that is a port is called in an error as its type shows. -/
theorem shownType_eq_iff {p : PortRef} (hp : (s.port? p).isSome) {name : String} :
    shownType s p = name ↔ Shows s p name := by
  obtain ⟨port, hport⟩ := Option.isSome_iff_exists.1 hp
  have hshown : shownType s p = (s.portTypes.nameOf? port.type).getD "<unregistered>" := by
    simp [shownType, hport, Schematic.portTypeName?]
  rw [hshown]
  constructor
  · rintro rfl
    cases hname : s.portTypes.nameOf? port.type with
    | some name => exact .named hport (NameMap.nameOf?_eq_some_iff_isLeastName.1 hname)
    | none =>
      refine .unregistered hport fun hhas => ?_
      simpa [hname] using NameMap.isSome_nameOf?_iff.2 hhas
  · intro h
    cases h with
    | @named other name hother hname =>
      cases hport.symm.trans hother
      rw [NameMap.nameOf?_eq_some_iff_isLeastName.2 hname, Option.getD_some]
    | @unregistered other hother hnone =>
      cases hport.symm.trans hother
      rw [← NameMap.isSome_nameOf?_iff, Option.not_isSome_iff_eq_none] at hnone
      rw [hnone, Option.getD_none]

theorem checkEnd_eq_error (hv : vocabulary s = .ok v) {c : Connection} {side : Side}
    {p : PortRef} (hp : (s.port? p).isSome) : checkEnd s v c side p = .error e ↔
      ¬ IsDigital s p ∧ ∃ actual, Shows s p actual ∧
        e = .endpointTypeMismatch c.name side actual := by
  by_cases hdigital : IsDigital s p
  · have hok : checkEnd s v c side p = .ok () := checkEnd_eq_ok.2 ((isDigital_iff hv).1 hdigital)
    simp [hok, hdigital]
  · have herror : checkEnd s v c side p =
        .error (.endpointTypeMismatch c.name side (shownType s p)) :=
      if_neg fun h => hdigital ((isDigital_iff hv).2 h)
    rw [herror, Except.error.injEq]
    constructor
    · rintro rfl
      exact ⟨hdigital, _, (shownType_eq_iff hp).1 rfl, rfl⟩
    · rintro ⟨-, actual, hshows, rfl⟩
      rw [(shownType_eq_iff hp).2 hshows]

/-- A connection is accepted iff it is a wire. -/
theorem checkConnection_eq_ok_iff (hv : vocabulary s = .ok v) {c : Connection} :
    checkConnection s v c = .ok () ↔ IsWire s c := by
  have hwire := (vocabulary_eq_ok.1 hv).2.2.2.2
  rw [checkConnection_eq_ok, checkEnd_eq_ok, checkEnd_eq_ok, ← isDigital_iff hv,
    ← isDigital_iff hv]
  constructor
  · rintro ⟨-, htype, hsource, htarget⟩
    exact ⟨htype ▸ hwire, hsource, htarget⟩
  · rintro ⟨htype, hsource, htarget⟩
    refine ⟨NameMap.isSome_nameOf?_iff.2 ⟨_, htype⟩, ?_, hsource, htarget⟩
    exact Option.some.inj (htype.symm.trans hwire)

/-- A connection between ports is refused with its first fault. -/
theorem checkConnection_eq_error (hv : vocabulary s = .ok v) {c : Connection}
    (hends : (s.port? c.source).isSome ∧ (s.port? c.target).isSome) :
    checkConnection s v c = .error e ↔ ConnectionFault s c e := by
  have hwire := (vocabulary_eq_ok.1 hv).2.2.2.2
  unfold checkConnection Schematic.connectionTypeName?
  cases hname : s.connectionTypes.nameOf? c.type with
  | none =>
    -- Every other fault supposes that the type has a name.
    have hnone : ¬ s.connectionTypes.Has c.type := by
      rw [← NameMap.isSome_nameOf?_iff, hname]
      simp
    constructor
    · intro h
      cases h
      exact .unregistered hnone
    · intro h
      cases h with
      | unregistered => rfl
      | type hleast => exact absurd ⟨_, hleast.1⟩ hnone
      | source htype => exact absurd ⟨_, htype⟩ hnone
      | target htype => exact absurd ⟨_, htype⟩ hnone
  | some actual =>
    have hleast := NameMap.nameOf?_eq_some_iff_isLeastName.1 hname
    by_cases htype : c.type = v.wire
    · have hregistered : s.connectionTypes.find? Digital.wire = some c.type := htype ▸ hwire
      simp only [htype, ne_eq, not_true_eq_false, if_false]
      -- What is left to check are the ends, the first one first.
      constructor
      · intro h
        rcases Outcome.bind_eq_error.1 h with h | ⟨_, hsource, h⟩
        · obtain ⟨hother, actual, hshows, rfl⟩ := (checkEnd_eq_error hv hends.1).1 h
          exact .source hregistered hother hshows
        · obtain ⟨hother, actual, hshows, rfl⟩ := (checkEnd_eq_error hv hends.2).1 h
          have hdigital := (isDigital_iff hv).2 (checkEnd_eq_ok.1 hsource)
          exact .target hregistered hdigital hother hshows
      · intro h
        cases h with
        | unregistered hnone => exact absurd ⟨_, hregistered⟩ hnone
        | type _ hne => exact absurd hregistered hne
        | source _ hother hshows =>
          exact Outcome.bind_eq_error.2
            (.inl ((checkEnd_eq_error hv hends.1).2 ⟨hother, _, hshows, rfl⟩))
        | target _ hsource hother hshows =>
          have hsource : checkEnd s v c .source c.source = .ok () :=
            checkEnd_eq_ok.2 ((isDigital_iff hv).1 hsource)
          exact Outcome.bind_eq_error.2
            (.inr ⟨(), hsource, (checkEnd_eq_error hv hends.2).2 ⟨hother, _, hshows, rfl⟩⟩)
    · have hne : s.connectionTypes.find? Digital.wire ≠ some c.type := by
        rw [hwire]
        exact fun heq => htype (Option.some.inj heq).symm
      simp only [ne_eq, htype, not_false_eq_true, if_true]
      constructor
      · intro h
        cases h
        exact .type hleast hne
      · intro h
        cases h with
        | unregistered hnone => exact absurd ⟨_, hleast.1⟩ hnone
        | @type other hother =>
          -- There is only one least name.
          have heq : actual = other :=
            String.le_antisymm (hleast.2 _ hother.1) (hother.2 _ hleast.1)
          subst heq
          rfl
        | source htype => exact absurd htype hne
        | target htype => exact absurd htype hne

/-! ### Building -/

/-- Which schematics have a netlist. -/
theorem exists_build_iff : (∃ n, (build s).result = .ok n) ↔ Buildable s := by
  constructor
  · rintro ⟨n, h⟩
    obtain ⟨v, hv, hnodes, hconnections, -⟩ := build_eq_ok.1 h
    exact ⟨exists_vocabulary_iff.1 ⟨v, hv⟩, fun node hnode => checkNode_eq_ok.1 (hnodes node hnode),
      fun c hc => (checkConnection_eq_ok_iff hv).1 (hconnections c hc)⟩
  · rintro ⟨hequipped, hnodes, hconnections⟩
    obtain ⟨v, hv⟩ := exists_vocabulary_iff.2 hequipped
    exact ⟨_, build_eq_ok.2 ⟨v, hv, fun node hnode => checkNode_eq_ok.2 (hnodes node hnode),
      fun c hc => (checkConnection_eq_ok_iff hv).2 (hconnections c hc), rfl⟩⟩

/-- A schematic without netlist is refused with its first fault. -/
theorem build_eq_error (hends : ∀ c ∈ s.connections,
    (s.port? c.source).isSome ∧ (s.port? c.target).isSome) :
    (build s).result = .error e ↔ FirstFault s e := by
  have hchecked (v : Vocabulary) (c : Connection) :
      (∃ d, ((checkConnection s v c).map fun _ => c) = .ok d) ↔ checkConnection s v c = .ok () := by
    cases checkConnection s v c <;> simp [Except.map]
  have hequipped (v : Vocabulary) (hv : vocabulary s = .ok v) : Equipped s :=
    exists_vocabulary_iff.1 ⟨v, hv⟩
  rw [result_build]
  constructor
  · -- The looks are taken one after the other, and those before the failing one succeed.
    intro h
    rcases Outcome.bind_eq_error.1 h with h | ⟨v, hv, h⟩
    · exact .vocabulary (vocabulary_eq_error.1 h)
    rcases Outcome.bind_eq_error.1 h with h | ⟨_, hnodes, h⟩
    · obtain ⟨before, node, after, hsplit, hbefore, hnode⟩ := Outcome.forM_eq_error.1 h
      obtain ⟨hnone, rfl⟩ := checkNode_eq_error.1 hnode
      exact .node (hequipped v hv) hsplit
        (fun other hother => checkNode_eq_ok.1 (hbefore other hother)) hnone
    have hnodes := Outcome.forM_eq_ok.1 hnodes
    rcases Outcome.bind_eq_error.1 h with h | ⟨cs, -, h⟩
    · obtain ⟨before, c, after, hsplit, hbefore, hc⟩ := Outcome.mapM_eq_error.1 h
      have hmem : c ∈ s.connections := hsplit ▸ List.mem_append_right _ List.mem_cons_self
      exact .connection (hequipped v hv)
        (fun node hnode => checkNode_eq_ok.1 (hnodes node hnode)) hsplit
        (fun other hother =>
          (checkConnection_eq_ok_iff hv).1 ((hchecked v other).1 (hbefore other hother)))
        ((checkConnection_eq_error hv (hends c hmem)).1 (Outcome.map_eq_error.1 hc))
    · cases h
  · intro h
    cases h with
    | vocabulary hfault => exact Outcome.bind_eq_error.2 (.inl (vocabulary_eq_error.2 hfault))
    | @node before after node hequipped hsplit hbefore hnode =>
      obtain ⟨v, hv⟩ := exists_vocabulary_iff.2 hequipped
      have herror : checkNodes s = .error (.unknownNodeType node.name) :=
        Outcome.forM_eq_error.2 ⟨before, node, after, hsplit,
          fun other hother => checkNode_eq_ok.2 (hbefore other hother),
          checkNode_eq_error.2 ⟨hnode, rfl⟩⟩
      exact Outcome.bind_eq_error.2 (.inr ⟨v, hv, Outcome.bind_eq_error.2 (.inl herror)⟩)
    | @connection before after c e hequipped hnodes hsplit hbefore hfault =>
      obtain ⟨v, hv⟩ := exists_vocabulary_iff.2 hequipped
      have hmem : c ∈ s.connections := hsplit ▸ List.mem_append_right _ List.mem_cons_self
      have hchecks : checkNodes s = .ok () :=
        Outcome.forM_eq_ok.2 fun node hnode => checkNode_eq_ok.2 (hnodes node hnode)
      have herror : (s.connections.mapM fun c => (checkConnection s v c).map fun _ => c) =
          .error e :=
        Outcome.mapM_eq_error.2 ⟨before, c, after, hsplit,
          fun other hother =>
            (hchecked v other).2 ((checkConnection_eq_ok_iff hv).2 (hbefore other hother)),
          Outcome.map_eq_error.2 ((checkConnection_eq_error hv (hends c hmem)).2 hfault)⟩
      exact Outcome.bind_eq_error.2 (.inr ⟨v, hv, Outcome.bind_eq_error.2
        (.inr ⟨(), hchecks, Outcome.bind_eq_error.2 (.inl herror)⟩)⟩)

end Conditions

/-- A schematic has a netlist iff the digital vocabulary is registered, every node is of a
    registered type and every connection is a wire between digital ports. Otherwise the first
    of these that fails is the error. No step fails that should not. -/
theorem build_reports_first_fault {s : Schematic} (h : s.Reachable) :
    ((∃ n, (build s).result = .ok n) ↔ Buildable s) ∧
    (∀ e, (build s).result = .error e ↔ FirstFault s e) ∧
    stepwise s = (build s).result.mapError .error ∧ stepwise s ≠ .error .internal := by
  have hstepwise := stepwise_eq h.consistent.connectionNames
  refine ⟨exists_build_iff, fun e => build_eq_error h.ends, hstepwise, ?_⟩
  rw [hstepwise]
  cases (build s).result <;> simp [Except.mapError]

/-! A circuit in which types have several names. The first wire has its type from the name
    `strand`, which is another one for wires. The second connection is a bus. -/

/-- The type of buses. -/
def busType : ConnectionType := ⟨6, ∅⟩

/-- The steps that construct the circuit. -/
def harnessSteps : List Schematic.Operation :=
  let d := DigitalTypes.numbered 0
  d.operations ++
    [.addConnectionType "strand" d.wire, .addConnectionType "trunk" busType,
     .addConnectionType "bus" busType, .addPortType "tap" d.inPort,
     .addNode "x" d.inputPin [] [], .addNode "p" d.outputPin [] [],
     .addNode "q" d.outputPin [] [],
     .addConnection "c0" d.wire ⟨"x", "out"⟩ ⟨"p", "in"⟩ [],
     .addConnection "c1" busType ⟨"x", "out"⟩ ⟨"q", "in"⟩ [],
     .addConnection "c2" busType ⟨"p", "in"⟩ ⟨"q", "in"⟩ []]

/-- The circuit. -/
def harness : Schematic := harnessSteps.foldl Schematic.perform { name := "harness" }

/-- The first bus is reported, by the least name of its type. -/
theorem build_reports_first_fault_harness :
    harness.Reachable ∧ FirstFault harness (.connectionTypeMismatch "c1" "bus") ∧
      ¬ Buildable harness ∧ stepwise harness ≠ .error .internal := by
  have hreach : harness.Reachable := (Schematic.Reachable.new _).foldl (by decide +kernel)
  have hresult : (build harness).result = .error (.connectionTypeMismatch "c1" "bus") := by
    decide +kernel
  obtain ⟨hbuildable, hfault, -, hinternal⟩ := build_reports_first_fault hreach
  refine ⟨hreach, (hfault _).1 hresult, fun h => ?_, hinternal⟩
  obtain ⟨n, hn⟩ := hbuildable.2 h
  rw [hresult] at hn
  cases hn

end Netlister.Netlist
