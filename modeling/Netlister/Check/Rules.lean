import Netlister.Check.Basic
import Netlister.Netlist.Basic

/-! # The design rules

  - No net has several drivers.
  - No port that takes a bit is without a net.
  - No connection lies between two nets.
-/

namespace Netlister

/-- A check whose verification always finds the same. -/
def Check.ofViolations (name : String) (found : List Violation) : Check :=
  { name, verify := fun _ => .ok found }

namespace Netlist

/-- The nets with several drivers. -/
def multipleDrivers (n : Netlist) (s : Schematic) : List Violation :=
  n.nets.filterMap fun net =>
    let drivers := n.drivers s net
    if 1 < drivers.length then some (.multipleDrivers net.name (drivers.map PortRef.path)) else none

/-- The ports that take a bit and have no net. -/
def unconnectedInputs (n : Netlist) (s : Schematic) : List Violation :=
  s.portRefs.filterMap fun p =>
    if n.isInput s p && (n.netOf? p).isNone then some (.unconnectedInput p.node p.port) else none

/-- The connections between two nets. -/
def unmergedConnections (n : Netlist) : List Violation :=
  n.unmerged.map fun u => .unmergedConnection u.wire u.sourceNet u.targetNet

/-- The check that no net has several drivers. -/
def noMultipleDrivers (n : Netlist) (s : Schematic) : Check :=
  .ofViolations "no multiple drivers" (n.multipleDrivers s)

/-- The check that no input is unconnected. -/
def noUnconnectedInputs (n : Netlist) (s : Schematic) : Check :=
  .ofViolations "no unconnected inputs" (n.unconnectedInputs s)

/-- The check that no connection is unmerged. -/
def noUnmergedConnections (n : Netlist) : Check :=
  .ofViolations "no unmerged connections" n.unmergedConnections

end Netlist

end Netlister
