import Netlister.Proofs.Schematic.Vocabulary
import Netlister.Netlist.Build

/-! # What a circuit does

  A circuit is given a meaning of its own, without any code: every net holds a
  logic value, and in each step a net takes its next value from what drives it.

  - A net that an input pin drives takes the value of the pin.
  - A net that a register drives is reset, loads or keeps its value, as the
    register does (`registerNext`).

  Steps are synchronous: all next values are found from the values before the step.
-/

namespace Netlister

/-- The value of a net. -/
inductive Logic where
  /-- Nothing is known. -/
  | unknown
  /-- The bit 0. -/
  | low
  /-- The bit 1. -/
  | high
deriving DecidableEq

/-- The value that shows a bit. -/
def Logic.ofBool (b : Bool) : Logic := if b then .high else .low

/-- The values now, and those of the moment before. -/
structure Moment (α : Type) where
  /-- The values before the last step. -/
  previous : α → Logic
  /-- The values now. -/
  current : α → Logic

namespace Moment

variable {α : Type}

/-- The value has just gone from 0 to 1. -/
def Rises (m : Moment α) (x : α) : Prop := m.previous x = .low ∧ m.current x = .high

/-- The value has just gone from 1 to 0. -/
def Falls (m : Moment α) (x : α) : Prop := m.previous x = .high ∧ m.current x = .low

instance (m : Moment α) (x : α) : Decidable (m.Rises x) := inferInstanceAs (Decidable (_ ∧ _))

instance (m : Moment α) (x : α) : Decidable (m.Falls x) := inferInstanceAs (Decidable (_ ∧ _))

/-- The value has just had the edge that a register waits for. -/
def Edge (m : Moment α) (rising : Bool) (x : α) : Prop := if rising then m.Rises x else m.Falls x

instance (m : Moment α) (rising : Bool) (x : α) : Decidable (m.Edge rising x) :=
  inferInstanceAs (Decidable (if rising then m.Rises x else m.Falls x))

/-- Points with the same values have the same edges. -/
theorem edge_congr {β : Type} {m : Moment α} {m' : Moment β} {x : α} {y : β}
    (hprevious : m.previous x = m'.previous y) (hcurrent : m.current x = m'.current y)
    (rising : Bool) : m.Edge rising x ↔ m'.Edge rising y := by
  unfold Edge Rises Falls
  rw [hprevious, hcurrent]

/-- A value that has not changed has no edge. -/
theorem not_edge_of_eq {m : Moment α} {x : α} (h : m.previous x = m.current x) (rising : Bool) :
    ¬ m.Edge rising x := by
  unfold Edge Rises Falls
  rw [h]
  cases rising <;> cases m.current x <;> simp

end Moment

/-! ### One step -/

/-- The values at the ports of a netlist, which are those of their nets. -/
def Moment.atPorts (m : Moment Net) (n : Netlist) : Moment PortRef where
  previous p := (n.netOf? p).elim .unknown m.previous
  current p := (n.netOf? p).elim .unknown m.current

theorem Moment.previous_atPorts {m : Moment Net} {n : Netlist} {p : PortRef} {net : Net}
    (h : n.netOf? p = some net) : (m.atPorts n).previous p = m.previous net := by
  show (n.netOf? p).elim _ _ = _
  rw [h]
  rfl

theorem Moment.current_atPorts {m : Moment Net} {n : Netlist} {p : PortRef} {net : Net}
    (h : n.netOf? p = some net) : (m.atPorts n).current p = m.current net := by
  show (n.netOf? p).elim _ _ = _
  rw [h]
  rfl

/-- The next value at the output of a register. A reset acts at once or with the
    clock; without a reset, the clock loads the data. -/
def registerNext (p : RegisterParams) (node : String) (m : Moment PortRef) : Logic :=
  if m.current ⟨node, "reset"⟩ = .ofBool p.resetActiveHigh ∧
      (p.resetAsynchronous = true ∨ m.Edge p.clockActiveHigh ⟨node, "clock"⟩) then
    .ofBool p.initialValue
  else if m.Edge p.clockActiveHigh ⟨node, "clock"⟩ then m.current ⟨node, "in"⟩
  else m.current ⟨node, "out"⟩

namespace Netlist

/-- The node that drives a net, if one port of one node does. -/
def driverNode? (n : Netlist) (s : Schematic) (net : Net) : Option Node :=
  match n.driver s net with
  | .ok p => s.node? p.node
  | .error _ => none

/-- The value that a net starts with. -/
def start (n : Netlist) (s : Schematic) (d : DigitalTypes) (net : Net) : Logic :=
  match n.driverNode? s net with
  | some node => if node.type = d.register then .ofBool node.params.initialValue else .unknown
  | none => .unknown

/-- The next value of a net, with the present values of the input pins. -/
def next (n : Netlist) (s : Schematic) (d : DigitalTypes) (pins : String → Logic)
    (m : Moment Net) (net : Net) : Logic :=
  match n.driverNode? s net with
  | some node =>
    if node.type = d.inputPin then pins node.name
    else if node.type = d.register then registerNext node.params node.name (m.atPorts n)
    else m.current net
  | none => m.current net

/-! ### Runs -/

/-- The values of the nets at each moment, with the values of the input pins at
    each moment. -/
def run (n : Netlist) (s : Schematic) (d : DigitalTypes) (pins : Nat → String → Logic) :
    Nat → Moment Net
  | 0 => ⟨n.start s d, n.start s d⟩
  | t + 1 =>
    let m := n.run s d pins t
    ⟨m.current, n.next s d (pins t) m⟩

/-- The values of the output pins at each moment. A pin shows its net one step later. -/
def shown (n : Netlist) (s : Schematic) (d : DigitalTypes) (pins : Nat → String → Logic) :
    Nat → String → Logic
  | 0, _ => .unknown
  | t + 1, pin => ((n.run s d pins t).atPorts n).current ⟨pin, "in"⟩

end Netlist

end Netlister
