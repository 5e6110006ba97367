import Netlister.Netlist.Build
import Netlister.Vhdl.Identifier
import Netlister.Vhdl.Printer

/-! # From netlists to entities

  Pins become ports, nets become signals, and registers become processes:

  - an input pin on a net gives the net its value, an output pin takes it;
  - a register whose output is on a net is a process that drives this net;
  - a net that a register drives starts with the initial value of the register.

  Pins and registers that are on no net are left out and reported.
-/

namespace Netlister.Vhdl

/-- Why a netlist has no entity. -/
inductive Error where
  /-- A node that is neither a pin nor a register. -/
  | unsupportedNode (node : String)
  /-- Two declarations have the same name. -/
  | duplicateIdentifier (identifier : String)
  /-- A look-up in the schematic fails. -/
  | schematic (cause : Schematic.Error)
  /-- A net has no single driver. -/
  | driver (cause : Netlist.DriverError)
  /-- A register has an output but not this input. -/
  | unconnectedPort (register port : String)
  /-- The text cannot be written. -/
  | writer (cause : CodeWriter.Error)

/-- The message for an error. -/
def Error.message : Error → String
  | unsupportedNode node => s!"could not generate code for node '{node}' of unknown type"
  | duplicateIdentifier identifier => s!"identifier {identifier} is declared more than once"
  | schematic cause => cause.message
  | driver cause => cause.message
  | unconnectedPort register port =>
    s!"internal error: port '{port}' of register '{register}' is not connected"
  | writer cause => cause.message

instance : MonadLift (Except Schematic.Error) (Except Error) := ⟨Except.mapError .schematic⟩

instance : MonadLift (Except Netlist.DriverError) (Except Error) := ⟨Except.mapError .driver⟩

/-! ### What a node is -/

/-- What is known about a node. -/
inductive Primitive where
  /-- It brings a bit in. -/
  | inputPin
  /-- It takes a bit out. -/
  | outputPin
  /-- It holds a bit. -/
  | register (params : RegisterParams)
  /-- Nothing. -/
  | unsupported
deriving DecidableEq

/-- A truth value in reports. -/
def boolText (b : Bool) : String := if b then "true" else "false"

/-- How a primitive is reported. -/
def Primitive.text : Primitive → String
  | inputPin => "InputPin"
  | outputPin => "OutputPin"
  | register p =>
    "Register(RegisterParams \x7b initial_value: " ++ boolText p.initialValue ++
      ", reset_active_high: " ++ boolText p.resetActiveHigh ++
      ", reset_asynchronous: " ++ boolText p.resetAsynchronous ++
      ", clock_active_high: " ++ boolText p.clockActiveHigh ++ " \x7d)"
  | unsupported => "Unsupported"

/-- The node types that are known. -/
structure NodeKinds where
  /-- Pins that bring a bit in. -/
  inputPin : NodeType
  /-- Pins that take a bit out. -/
  outputPin : NodeType
  /-- Registers. -/
  register : NodeType
deriving DecidableEq

/-- The known node types of a schematic. -/
def NodeKinds.of (s : Schematic) : Except Error NodeKinds := do
  return ⟨← s.nodeType Digital.inputPin, ← s.nodeType Digital.outputPin,
    ← s.nodeType Digital.register⟩

/-- What a node is. -/
def NodeKinds.classify (k : NodeKinds) (node : Node) : Except Error Primitive := do
  if node.type = k.inputPin then return .inputPin
  else if node.type = k.outputPin then return .outputPin
  else if node.type = k.register then return .register (← RegisterParams.ofAttributes node.attributes)
  else return .unsupported

/-- The net of a port of a node, which must have the port. -/
def portNet (n : Netlist) (node : Node) (port : String) : Except Error (Option Net) := do
  return n.netOf? (← Schematic.portOf node port)

/-! ### Pins and inner nodes -/

/-- The nodes of a netlist by what they become. -/
structure Survey where
  /-- The input pins that become ports, each with the net it drives. -/
  inputs : List (Node × Net) := []
  /-- The output pins that become ports, each with its net. -/
  outputs : List (Node × Net) := []
  /-- All other nodes. -/
  inner : List (Node × Primitive) := []

/-- An event of the compiler. -/
def event (level : Log.Level) (message : String) : Log.Event :=
  { level, source := .compiler, message }

/-- Reports that something is left out. -/
def skip (message : String) : Logged Error Unit :=
  Logged.report (event .warn (message ++ ", skipping"))

/-- Takes a node into the survey. Only the first input pin of a net is kept. -/
def Survey.add (k : NodeKinds) (n : Netlist) (v : Survey) (node : Node) :
    Logged Error Survey := do
  let primitive ← k.classify node
  -- A node is reported before its ports are looked at, which may fail.
  Logged.report (event .debug (s!"node '{node.name}' is " ++ primitive.text))
  match primitive with
  | .inputPin =>
    match ← portNet n node "out" with
    | none =>
      skip s!"input pin '{node.name}' is not connected"
      return v
    | some net =>
      if net ∈ v.inputs.map (·.2) then
        skip s!"input pin '{node.name}' drives a net that already has an input pin"
        return v
      else return { v with inputs := v.inputs ++ [(node, net)] }
  | .outputPin =>
    match ← portNet n node "in" with
    | none =>
      skip s!"output pin '{node.name}' is not connected"
      return v
    | some net => return { v with outputs := v.outputs ++ [(node, net)] }
  | other => return { v with inner := v.inner ++ [(node, other)] }

/-- Adds a net that is not in the list yet. -/
def addNet (nets : List Net) (net : Net) : List Net := if net ∈ nets then nets else nets ++ [net]

/-- The nets that become signals, each once: those of input pins, then those of
    inner nodes, then those of output pins. -/
def Survey.signalNets (v : Survey) (n : Netlist) : List Net :=
  (v.inputs.map (·.2) ++ v.inner.flatMap (fun e => e.1.portRefs.filterMap n.netOf?) ++
    v.outputs.map (·.2)).foldl addNet []

/-- The ports of the entity: input pins, then output pins. -/
def Survey.ports (v : Survey) : List Port :=
  v.inputs.map (fun e => ⟨Identifier.portName e.1.name, .input⟩) ++
    v.outputs.map (fun e => ⟨Identifier.portName e.1.name, .output⟩)

/-- The identifier of a net. -/
def netName (net : Net) : String := Identifier.escape net.name

/-- The assignments between ports and signals. -/
def Survey.assignments (v : Survey) : List Concurrent :=
  v.inputs.map (fun e => .assign (netName e.2) (Identifier.portName e.1.name)) ++
    v.outputs.map (fun e => .assign (Identifier.portName e.1.name) (netName e.2))

/-! ### Signals -/

/-- The bit that a net starts with: that of the register that drives it. -/
def initialValue (k : NodeKinds) (s : Schematic) (n : Netlist) (net : Net) :
    Except Error (Option Bool) := do
  let driver ← n.driver s net
  let node ← s.node driver.node
  match ← k.classify node with
  | .register params => return some params.initialValue
  | _ => return none

/-- The signal for a net. -/
def signalOf (k : NodeKinds) (s : Schematic) (n : Netlist) (net : Net) : Except Error Signal := do
  return ⟨netName net, ← initialValue k s n net⟩

/-- The signals for the nets of a survey. -/
def Survey.signals (v : Survey) (k : NodeKinds) (s : Schematic) (n : Netlist) :
    Except Error (List Signal) :=
  (v.signalNets n).mapM (signalOf k s n)

/-! ### Processes -/

/-- The body of the process of a register, with the names of its nets. -/
def registerBody (p : RegisterParams) (output data clock reset : String) : Sequential :=
  let edge := if p.clockActiveHigh then Condition.rising clock else Condition.falling clock
  let resets := Condition.equals reset p.resetActiveHigh
  let clear := Sequential.assign output (.bit p.initialValue)
  let load := Sequential.assign output (.reference data)
  if p.resetAsynchronous then .choose [(resets, [clear]), (edge, [load])] []
  else .choose [(edge, [.choose [(resets, [clear])] [load]])] []

/-- The identifier of the net of an input of a register, which must have one. -/
def inputName (n : Netlist) (node : Node) (port : String) : Except Error String := do
  match ← portNet n node port with
  | some net => return netName net
  | none => throw (.unconnectedPort node.name port)

/-- The identifier of the process of a register. -/
def processName (node : Node) : String := Identifier.escape ("register_" ++ node.name)

/-- The process of a register whose output is on a net. -/
def registerProcess (n : Netlist) (node : Node) (p : RegisterParams) (output : Net) :
    Except Error Concurrent := do
  let data ← inputName n node "in"
  let clock ← inputName n node "clock"
  let reset ← inputName n node "reset"
  return .process (processName node) [clock, reset, data]
    [registerBody p (netName output) data clock reset]

/-- Adds the process of an inner node, which must be a register. -/
def addProcess (n : Netlist) (processes : List Concurrent) (e : Node × Primitive) :
    Logged Error (List Concurrent) := do
  match e.2 with
  | .register params =>
    match ← portNet n e.1 "out" with
    | some output =>
      let process ← registerProcess n e.1 params output
      return processes ++ [process]
    | none =>
      skip s!"output of register '{e.1.name}' is not connected"
      return processes
  | _ => Logged.ofExcept (.error (.unsupportedNode e.1.name))

/-! ### The entity -/

/-- The label of a statement that has one. -/
def Concurrent.label? : Concurrent → Option String
  | .process label _ _ => some label
  | .assign _ _ => none

/-- All names that an entity declares in its architecture. -/
def Entity.declaredNames (e : Entity) : List String :=
  e.ports.map (·.name) ++ e.signals.map (·.name) ++ e.statements.filterMap Concurrent.label?

/-- The first name that denotes the same as an earlier one. -/
def repeatedName? (keys : List String) : List String → Option String
  | [] => none
  | name :: names =>
    if Identifier.key name ∈ keys then some name
    else repeatedName? (Identifier.key name :: keys) names

/-- Fails for an entity that declares a name twice. -/
def Entity.requireDistinct (e : Entity) : Except Error Unit :=
  match repeatedName? [] e.declaredNames with
  | some name => .error (.duplicateIdentifier name)
  | none => .ok ()

/-- The entity of a netlist. -/
def compile (s : Schematic) (n : Netlist) : Logged Error Entity := do
  let k ← NodeKinds.of s
  let v ← s.nodes.foldlM (Survey.add k n) {}
  -- A net without a single driver counts before a register that lacks an input.
  let signals ← v.signals k s n
  let processes ← v.inner.foldlM (addProcess n) []
  let entity : Entity :=
    { name := Identifier.escape s.name
      ports := v.ports
      signals := signals
      statements := v.assignments ++ processes }
  -- Ports, signals and labels share one declarative region.
  entity.requireDistinct
  return entity

/-- The text of the entity of a netlist. -/
def generate (s : Schematic) (n : Netlist) : Logged Error String := do
  let entity ← compile s n
  Logged.report { level := .debug, source := .vhdl
                  message := s!"compiled entity {entity.name}"
                  fields := [("ports", entity.ports.length), ("signals", entity.signals.length),
                    ("statements", entity.statements.length)] }
  Logged.ofExcept (entity.render.mapError .writer)

end Netlister.Vhdl
