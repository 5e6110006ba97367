import Netlister.Schematic.Construction

/-! # The digital vocabulary

  The types that a digital circuit is made of: ports that take or give a bit,
  wires between them, pins to the outside, and registers. `DigitalTypes.issue`
  declares them, `DigitalTypes.declare` puts them into a schematic under their
  standard names.
-/

namespace Netlister

open Schematic (Error)

namespace Digital

/-- The standard name of ports that take a bit. -/
def inPort : String := "digitalIn"

/-- The standard name of ports that give a bit. -/
def outPort : String := "digitalOut"

/-- The standard name of wires. -/
def wire : String := "digitalWire"

/-- The standard name of pins that bring a bit in. -/
def inputPin : String := "inputPin"

/-- The standard name of pins that take a bit out. -/
def outputPin : String := "outputPin"

/-- The standard name of registers. -/
def register : String := "register"

end Digital

/-! ### Registers -/

/-- How a register behaves. -/
structure RegisterParams where
  /-- The bit that the register starts with and is reset to. -/
  initialValue : Bool := false
  /-- Whether a 1 resets the register; else a 0 does. -/
  resetActiveHigh : Bool := true
  /-- Whether the reset acts at once; else it waits for the clock. -/
  resetAsynchronous : Bool := false
  /-- Whether the register loads on a rising edge; else on a falling one. -/
  clockActiveHigh : Bool := true
deriving DecidableEq

namespace RegisterParams

/-- The behaviour that the attributes of a register node describe. -/
def ofAttributes (attributes : Attributes) : Except Error RegisterParams := do
  return {
    initialValue := ← Attributes.getBool attributes "initialValue"
    resetActiveHigh := ← Attributes.getBool attributes "resetActiveHigh"
    resetAsynchronous := ← Attributes.getBool attributes "resetAsynchronous"
    clockActiveHigh := ← Attributes.getBool attributes "clockActiveHigh" }

/-- The attributes of a register node with this behaviour. -/
def toAttributes (p : RegisterParams) : List (String × Value) :=
  [("initialValue", .bool p.initialValue), ("resetActiveHigh", .bool p.resetActiveHigh),
   ("resetAsynchronous", .bool p.resetAsynchronous), ("clockActiveHigh", .bool p.clockActiveHigh)]

end RegisterParams

/-! ### The vocabulary -/

/-- The declarations of the digital vocabulary. -/
structure DigitalTypes where
  /-- Ports that take a bit. -/
  inPort : PortType
  /-- Ports that give a bit. -/
  outPort : PortType
  /-- Wires between ports. -/
  wire : ConnectionType
  /-- Pins that bring a bit into the circuit. -/
  inputPin : NodeType
  /-- Pins that take a bit out of the circuit. -/
  outputPin : NodeType
  /-- Registers, which hold a bit. -/
  register : NodeType
deriving DecidableEq

namespace DigitalTypes

/-- Declares the digital vocabulary in a context. -/
def issue (c : Context) : Except Error (DigitalTypes × Context) := do
  let (inPort, c) ← c.portType []
  let (outPort, c) ← c.portType []
  let (wire, c) ← c.connectionType []
  let (inputPin, c) ← c.nodeType [] [("out", outPort)]
  let (outputPin, c) ← c.nodeType [] [("in", inPort)]
  let (register, c) ← c.nodeType
    [("initialValue", .bool), ("resetActiveHigh", .bool), ("resetAsynchronous", .bool),
     ("clockActiveHigh", .bool)]
    [("in", inPort), ("clock", inPort), ("reset", inPort), ("out", outPort)]
  return (⟨inPort, outPort, wire, inputPin, outputPin, register⟩, c)

/-- The steps that register the vocabulary under its standard names. -/
def registrations (d : DigitalTypes) : List (Schematic → Except Error Schematic) :=
  [(·.addPortType Digital.inPort d.inPort), (·.addPortType Digital.outPort d.outPort),
   (·.addConnectionType Digital.wire d.wire), (·.addNodeType Digital.inputPin d.inputPin),
   (·.addNodeType Digital.outputPin d.outputPin), (·.addNodeType Digital.register d.register)]

/-- Performs steps up to the first that fails; what was done before stays. -/
def perform (s : Schematic) :
    List (Schematic → Except Error Schematic) → Schematic × Except Error Unit
  | [] => (s, .ok ())
  | step :: steps =>
    match step s with
    | .ok s' => perform s' steps
    | .error e => (s, .error e)

/-- Registers the vocabulary under its standard names, up to the first name that
    is taken. -/
def declare (d : DigitalTypes) (s : Schematic) : Schematic × Except Error Unit :=
  perform s d.registrations

/-- Adds a pin that brings a bit in. -/
def addInputPin (d : DigitalTypes) (s : Schematic) (name : String) : Except Error Schematic :=
  s.addNode name d.inputPin [] []

/-- Adds a pin that takes a bit out. -/
def addOutputPin (d : DigitalTypes) (s : Schematic) (name : String) : Except Error Schematic :=
  s.addNode name d.outputPin [] []

/-- Adds a register. -/
def addRegister (d : DigitalTypes) (s : Schematic) (name : String) (params : RegisterParams) :
    Except Error Schematic :=
  s.addNode name d.register params.toAttributes []

/-- Adds a wire between ports of two nodes, given as node and port name. -/
def addWire (d : DigitalTypes) (s : Schematic) (name : String)
    (source target : Node × String) : Except Error Schematic := do
  let source ← Schematic.portOf source.1 source.2
  let target ← Schematic.portOf target.1 target.2
  s.addConnection name d.wire source target []

end DigitalTypes

end Netlister
