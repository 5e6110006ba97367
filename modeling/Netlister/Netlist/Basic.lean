import Netlister.Schematic.Basic

/-! # Netlists

  A net is a set of ports that are electrically one point. Nets grow out of
  wires taken in order:

  - a wire between two ports without a net makes a net of its own;
  - a wire with one end on a net brings the other end to that net;
  - a wire between two different nets leaves both as they are, and is recorded
    as *unmerged*.

  A net is named for the wire that made it.
-/

namespace Netlister

/-- A set of ports that are electrically one point. -/
structure Net where
  /-- The name of the wire that made the net. -/
  wire : String
  /-- The ports of the net, in the order in which they joined it. -/
  ports : List PortRef
deriving DecidableEq

/-- The name of a net. -/
def Net.name (n : Net) : String := "n_" ++ n.wire

/-- A wire between two nets, which it does not merge. -/
structure Unmerged where
  /-- The name of the wire. -/
  wire : String
  /-- The name of the net of its first end. -/
  sourceNet : String
  /-- The name of the net of its second end. -/
  targetNet : String
deriving DecidableEq

/-- The nets of a schematic. -/
structure Netlist where
  /-- The type of ports that take a bit. -/
  inPort : PortType
  /-- The type of ports that give a bit. -/
  outPort : PortType
  /-- The nets, in the order of their creation. -/
  nets : List Net := []
  /-- The wires that lie between two nets, in the order of their creation. -/
  unmerged : List Unmerged := []
deriving DecidableEq

namespace Netlist

/-! ### Look-ups -/

/-- The net of a port, if it has one. -/
def netOf? (n : Netlist) (p : PortRef) : Option Net := n.nets.find? (p ∈ ·.ports)

/-- The net with a name, if there is one. -/
def net? (n : Netlist) (name : String) : Option Net := n.nets.find? (·.name = name)

/-- Whether a port takes a bit. -/
def isInput (n : Netlist) (s : Schematic) (p : PortRef) : Bool :=
  (s.port? p).map (·.type) = some n.inPort

/-- Whether a port gives a bit. -/
def isOutput (n : Netlist) (s : Schematic) (p : PortRef) : Bool :=
  (s.port? p).map (·.type) = some n.outPort

/-! ### Drivers -/

/-- The ports that drive a net, in the order in which they joined it. -/
def drivers (n : Netlist) (s : Schematic) (net : Net) : List PortRef :=
  net.ports.filter (n.isOutput s)

/-- Why a net has no single driver. -/
inductive DriverError where
  /-- No port drives the net. -/
  | undriven (net : String)
  /-- Several ports drive the net. -/
  | overdriven (net : String) (count : Nat)
deriving DecidableEq

/-- The message for a net without a single driver. -/
def DriverError.message : DriverError → String
  | undriven net => s!"internal error: undriven net '{net}'"
  | overdriven net count => s!"internal error: net '{net}' has {count} drivers"

/-- The one port that drives a net. -/
def driver (n : Netlist) (s : Schematic) (net : Net) : Except DriverError PortRef :=
  match n.drivers s net with
  | [p] => .ok p
  | [] => .error (.undriven net.name)
  | ps => .error (.overdriven net.name ps.length)

/-! ### Growth -/

/-- Brings a port to a net. -/
def join (n : Netlist) (net : Net) (p : PortRef) : Netlist :=
  { n with nets := n.nets.map fun other =>
      if other = net then { net with ports := net.ports ++ [p] } else other }

/-- Takes a wire into account. -/
def connect (n : Netlist) (c : Connection) : Netlist :=
  match n.netOf? c.source, n.netOf? c.target with
  | none, none =>
    -- A wire from a port to itself makes a net of one port.
    let ports := if c.source = c.target then [c.source] else [c.source, c.target]
    { n with nets := n.nets ++ [⟨c.name, ports⟩] }
  | some net, none => n.join net c.target
  | none, some net => n.join net c.source
  | some source, some target =>
    if source = target then n
    else { n with unmerged := n.unmerged ++ [⟨c.name, source.name, target.name⟩] }

end Netlist

end Netlister
