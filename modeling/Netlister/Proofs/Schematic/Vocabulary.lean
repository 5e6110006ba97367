import Netlister.Proofs.Schematic.Reachable
import Netlister.Schematic.Digital

/-! # The digital vocabulary of a schematic

  A schematic speaks the digital vocabulary if six declarations with the ports and
  attributes of those of `DigitalTypes.issue` are registered under their standard names.
  Other types may be registered too, and these six under further names. Serial numbers
  are of no importance, as long as they tell the declarations apart.

  - `DigitalTypes.issue_eq`: what a context declares.
  - `DigitalTypes.Standard`: what matters of it.
  - `Speaks.cases_of_output`: in a reachable schematic, a port that gives a bit
    and belongs to a pin or a register is the port `out` of an input pin or a register.
  - `Speaks.params`: every register has a behaviour.
  - `Speaks.foldl`: a schematic that speaks the vocabulary goes on doing so.
-/

namespace Netlister

/-! ### Maps with given entries -/

/-- Entries with different names are accepted into any map that has none of them. -/
theorem NameMap.foldlM_distinct {α : Type} (scope : Schematic.Scope) {es : List (String × α)} :
    ∀ {m : NameMap α}, (es.map (·.1)).Nodup → (∀ e ∈ es, m.find? e.1 = none) →
      es.foldlM (fun m e => if m.contains e.1 then .error (.multipleDefinition e.1 scope)
        else .ok (m.insert e.1 e.2)) m = (.ok (es.foldl (fun m e => m.insert e.1 e.2) m) :
          Except Schematic.Error (NameMap α)) := by
  induction es with
  | nil =>
    intro m _ _
    rfl
  | cons e es ih =>
    intro m hdistinct hnew
    obtain ⟨he, hdistinct⟩ := List.nodup_cons.1 hdistinct
    have hnone : m.contains e.1 = false := by
      simp [contains, hnew e List.mem_cons_self]
    rw [List.foldlM_cons, hnone, List.foldl_cons]
    refine ih hdistinct fun f hf => ?_
    have hne : f.1 ≠ e.1 := by
      intro heq
      exact he (List.mem_map.2 ⟨f, hf, heq⟩)
    rw [find?_insert, if_neg hne]
    exact hnew f (List.mem_cons_of_mem _ hf)

/-- A list of entries with different names is a map. -/
theorem NameMap.ofDistinct_eq {α : Type} (scope : Schematic.Scope) {es : List (String × α)}
    (h : (es.map (·.1)).Nodup) : ofDistinct scope es = .ok (ofList es) :=
  foldlM_distinct scope h fun _ _ => rfl

/-- Attributes and ports with different names make a type of nodes. -/
theorem Context.nodeType_eq (c : Context) {attributes : List (String × AttributeType)}
    {ports : List (String × PortType)} (ha : (attributes.map (·.1)).Nodup)
    (hp : (ports.map (·.1)).Nodup) :
    c.nodeType attributes ports =
      .ok (⟨c.issued, NameMap.ofList attributes, NameMap.ofList ports⟩, c.advance) := by
  unfold Context.nodeType
  rw [NameMap.ofDistinct_eq _ ha, NameMap.ofDistinct_eq _ hp]
  rfl

namespace DigitalTypes

/-! ### The declarations -/

/-- The attributes of a register, all of them truth values. -/
def registerAttributes : List (String × AttributeType) :=
  [("initialValue", .bool), ("resetActiveHigh", .bool), ("resetAsynchronous", .bool),
   ("clockActiveHigh", .bool)]

/-- The vocabulary whose first declaration has the given serial number. -/
def numbered (k : Nat) : DigitalTypes where
  inPort := ⟨k, ∅⟩
  outPort := ⟨k + 1, ∅⟩
  wire := ⟨k + 2, ∅⟩
  inputPin := ⟨k + 3, ∅, NameMap.ofList [("out", ⟨k + 1, ∅⟩)]⟩
  outputPin := ⟨k + 4, ∅, NameMap.ofList [("in", ⟨k, ∅⟩)]⟩
  register := ⟨k + 5, NameMap.ofList registerAttributes,
    NameMap.ofList [("in", ⟨k, ∅⟩), ("clock", ⟨k, ∅⟩), ("reset", ⟨k, ∅⟩), ("out", ⟨k + 1, ∅⟩)]⟩

/-- Declaring the vocabulary never fails, and uses six serial numbers. -/
theorem issue_eq (c : Context) : issue c = .ok (numbered c.issued, ⟨c.issued + 6⟩) := by
  have hin (c : Context) : c.portType [] = .ok (⟨c.issued, ∅⟩, c.advance) := rfl
  have hwire (c : Context) : c.connectionType [] = .ok (⟨c.issued, ∅⟩, c.advance) := rfl
  have hone (c : Context) (name : String) (p : PortType) :
      c.nodeType [] [(name, p)] = .ok (⟨c.issued, ∅, NameMap.ofList [(name, p)]⟩, c.advance) :=
    c.nodeType_eq (by simp) (by simp)
  unfold issue
  simp only [hin, hwire, hone, bind, Except.bind, pure, Except.pure]
  rw [Context.nodeType_eq _ (by decide) (by simp)]
  rfl

/-- The declarations are those of the vocabulary, whatever their serial numbers are: they can
    be told apart, and pins and registers have the ports and the attributes that they need. -/
structure Standard (d : DigitalTypes) : Prop where
  inPort_ne_outPort : d.inPort ≠ d.outPort
  inputPin_ne_outputPin : d.inputPin ≠ d.outputPin
  inputPin_ne_register : d.inputPin ≠ d.register
  outputPin_ne_register : d.outputPin ≠ d.register
  /-- An input pin has one port, which gives a bit. -/
  find?_inputPin : ∀ port,
    d.inputPin.ports.find? port = if port = "out" then some d.outPort else none
  /-- An output pin has one port, which takes a bit. -/
  find?_outputPin : ∀ port,
    d.outputPin.ports.find? port = if port = "in" then some d.inPort else none
  /-- A register has one port that gives a bit and three that take one. -/
  find?_register : ∀ port, d.register.ports.find? port =
    if port = "out" then some d.outPort
    else if port = "reset" ∨ port = "clock" ∨ port = "in" then some d.inPort else none
  /-- The attributes of a register are truth values. -/
  find?_registerAttributes : ∀ e ∈ registerAttributes, d.register.attributes.find? e.1 = some e.2

theorem standard_numbered (k : Nat) : (numbered k).Standard where
  inPort_ne_outPort := by simp [numbered]
  inputPin_ne_outputPin := by simp [numbered]
  inputPin_ne_register := by simp [numbered]
  outputPin_ne_register := by simp [numbered]
  find?_inputPin := fun _ => NameMap.find?_insert _ _ _ _
  find?_outputPin := fun _ => NameMap.find?_insert _ _ _ _
  find?_register := by
    intro port
    simp only [numbered, NameMap.ofList, List.foldl_cons, List.foldl_nil, NameMap.find?_insert]
    by_cases hreset : port = "reset"
    · simp [hreset]
    · by_cases hclock : port = "clock"
      · simp [hclock]
      · by_cases hin : port = "in"
        · simp [hin]
        · simp [hreset, hclock, hin]
          rfl
  find?_registerAttributes := by
    intro e he
    simp only [registerAttributes, List.mem_cons, List.not_mem_nil, or_false] at he
    rcases he with rfl | rfl | rfl | rfl <;>
      simp [numbered, registerAttributes, NameMap.ofList, NameMap.find?_insert]

/-- What a context declares is standard. -/
theorem Standard.of_issue {c c' : Context} {d : DigitalTypes} (h : issue c = .ok (d, c')) :
    d.Standard := by
  rw [issue_eq] at h
  cases h
  exact standard_numbered c.issued

end DigitalTypes

/-! ### Schematics with the vocabulary -/

/-- The vocabulary is registered in the schematic under its standard names. -/
structure Schematic.Speaks (s : Schematic) (d : DigitalTypes) : Prop where
  /-- The declarations are those of the vocabulary. -/
  standard : d.Standard
  /-- The name of ports that take a bit. -/
  inPort : s.portTypes.find? Digital.inPort = some d.inPort
  /-- The name of ports that give a bit. -/
  outPort : s.portTypes.find? Digital.outPort = some d.outPort
  /-- The name of wires. -/
  wire : s.connectionTypes.find? Digital.wire = some d.wire
  /-- The name of input pins. -/
  inputPin : s.nodeTypes.find? Digital.inputPin = some d.inputPin
  /-- The name of output pins. -/
  outputPin : s.nodeTypes.find? Digital.outputPin = some d.outputPin
  /-- The name of registers. -/
  register : s.nodeTypes.find? Digital.register = some d.register

/-- The steps that register the vocabulary under its standard names. -/
def DigitalTypes.operations (d : DigitalTypes) : List Schematic.Operation :=
  [.addPortType Digital.inPort d.inPort, .addPortType Digital.outPort d.outPort,
   .addConnectionType Digital.wire d.wire, .addNodeType Digital.inputPin d.inputPin,
   .addNodeType Digital.outputPin d.outputPin, .addNodeType Digital.register d.register]

/-- How a register node behaves. Where its attributes do not say so, it has the
    standard behaviour. -/
def Node.params (node : Node) : RegisterParams :=
  (RegisterParams.ofAttributes node.attributes).toOption.getD {}

namespace Schematic.Speaks

variable {s : Schematic} {d : DigitalTypes}

/-- Every register of a consistent schematic has a behaviour. -/
theorem params (hd : s.Speaks d) (hs : s.Consistent) {node : Node} (hmem : node ∈ s.nodes)
    (hreg : node.type = d.register) : ∃ p, RegisterParams.ofAttributes node.attributes = .ok p := by
  obtain ⟨types, hmeets⟩ := hs.attributes node hmem
  rw [hreg] at hmeets
  have hbool (name : String) (hname : (name, .bool) ∈ DigitalTypes.registerAttributes) :
      ∃ b, Attributes.getBool node.attributes name = .ok b :=
    Attributes.getBool_of_meets hmeets (hd.standard.find?_registerAttributes _ hname)
  obtain ⟨initial, hinitial⟩ := hbool "initialValue" (by decide)
  obtain ⟨high, hhigh⟩ := hbool "resetActiveHigh" (by decide)
  obtain ⟨async, hasync⟩ := hbool "resetAsynchronous" (by decide)
  obtain ⟨clock, hclock⟩ := hbool "clockActiveHigh" (by decide)
  refine ⟨⟨initial, high, async, clock⟩, ?_⟩
  simp only [RegisterParams.ofAttributes, hinitial, hhigh, hasync, hclock, bind, Except.bind, pure,
    Except.pure]

/-- A port that gives a bit, of a pin or a register, is the port `out` of an
    input pin or of a register. -/
theorem cases_of_output (hd : s.Speaks d) {node : Node} {port : String}
    (hknown : node.type = d.inputPin ∨ node.type = d.outputPin ∨ node.type = d.register)
    (hout : node.type.ports.find? port = some d.outPort) :
    port = "out" ∧ (node.type = d.inputPin ∨ node.type = d.register) := by
  have hne := hd.standard.inPort_ne_outPort
  rcases hknown with h | h | h
  · rw [h, hd.standard.find?_inputPin] at hout
    split at hout
    · next hport => exact ⟨hport, .inl h⟩
    · cases hout
  · rw [h, hd.standard.find?_outputPin] at hout
    split at hout
    · exact absurd (Option.some.inj hout) hne
    · cases hout
  · rw [h, hd.standard.find?_register] at hout
    split at hout
    · next hport => exact ⟨hport, .inr h⟩
    · split at hout
      · exact absurd (Option.some.inj hout) hne
      · cases hout

end Schematic.Speaks

/-! ### Steps keep the vocabulary -/

namespace Schematic

/-- A registration keeps what was registered before. -/
theorem Registers.find?_eq_some {α : Type} {m m' : NameMap α} {name key : String} {value v : α}
    (h : Registers m name value m') (hkey : m.find? key = some v) : m'.find? key = some v := by
  obtain ⟨hnew, rfl⟩ := h
  have hne : key ≠ name := by
    intro heq
    rw [heq, hnew] at hkey
    cases hkey
  rw [NameMap.find?_insert, if_neg hne]
  exact hkey

namespace Speaks

variable {s s' : Schematic} {d : DigitalTypes}

/-- No step takes a name of the vocabulary away. -/
theorem of_extends (hd : s.Speaks d) {op : Operation} (h : op.Extends s s') : s'.Speaks d := by
  cases op with
  | addPortType name type =>
    obtain ⟨-, portTypes, hreg, rfl⟩ := h
    exact { hd with
      inPort := hreg.find?_eq_some hd.inPort
      outPort := hreg.find?_eq_some hd.outPort }
  | addNodeType name type =>
    obtain ⟨-, nodeTypes, hreg, rfl⟩ := h
    exact { hd with
      inputPin := hreg.find?_eq_some hd.inputPin
      outputPin := hreg.find?_eq_some hd.outputPin
      register := hreg.find?_eq_some hd.register }
  | addConnectionType name type =>
    obtain ⟨-, connectionTypes, hreg, rfl⟩ := h
    exact { hd with wire := hreg.find?_eq_some hd.wire }
  | addUserType name type =>
    obtain ⟨-, rfl⟩ := h
    exact { hd with }
  | addConstraintType name type =>
    obtain ⟨-, constraintTypes, -, rfl⟩ := h
    exact { hd with }
  | addNode name type given portGiven =>
    obtain ⟨-, attributes, ports, -, -, rfl⟩ := h
    exact { hd with }
  | addConnection name type source target given =>
    obtain ⟨-, attributes, -, rfl⟩ := h
    exact { hd with }
  | addConstraint name type given =>
    obtain ⟨-, attributes, -, rfl⟩ := h
    exact { hd with }

theorem perform (hd : s.Speaks d) (op : Operation) : (s.perform op).Speaks d := by
  unfold Schematic.perform
  split
  · next h => exact hd.of_extends (Operation.apply_eq_ok.1 h)
  · exact hd

theorem foldl (hd : s.Speaks d) (ops : List Operation) :
    (ops.foldl Schematic.perform s).Speaks d := by
  induction ops generalizing s with
  | nil => exact hd
  | cons op ops ih => exact ih (hd.perform op)

end Speaks

/-- A schematic that begins with the vocabulary speaks it, whatever steps follow. -/
theorem speaks_foldl_operations (name : String) (ops : List Operation) :
    (((DigitalTypes.numbered 0).operations ++ ops).foldl perform { name }).Speaks
      (DigitalTypes.numbered 0) := by
  rw [List.foldl_append]
  refine Speaks.foldl ?_ ops
  constructor
  · exact DigitalTypes.standard_numbered 0
  all_goals rfl

end Schematic

end Netlister
