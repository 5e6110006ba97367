import Netlister.Log.Basic
import Netlister.Netlist.Basic
import Netlister.Schematic.Digital

/-! # From schematics to netlists

  A schematic has a netlist if the digital vocabulary is registered, every node is
  of a registered type, and every connection is a wire between digital ports. The
  first failing condition is reported: the vocabulary, then the nodes in order,
  then the connections in order.
-/

namespace Netlister.Netlist

open Schematic (Scope)

/-- An end of a connection. -/
inductive Side where
  | source
  | target
deriving DecidableEq

/-- How an end is called in messages. -/
def Side.text : Side → String
  | source => "from"
  | target => "to"

/-- Why a schematic has no netlist. -/
inductive Error where
  /-- Standard names that are not registered in the scope. -/
  | missingTypes (scope : Scope) (names : List String)
  /-- A node of a type that is not registered. -/
  | unknownNodeType (node : String)
  /-- A connection of a type that is not registered. -/
  | unknownConnectionType (connection : String)
  /-- A connection that is not a wire, and the name of its type. -/
  | connectionTypeMismatch (connection actual : String)
  /-- An end of a wire that is not digital, and the name of its type. -/
  | endpointTypeMismatch (connection : String) (side : Side) (actual : String)
deriving DecidableEq

/-- The message for an error. -/
def Error.message : Error → String
  | missingTypes scope names =>
    "schematic is missing required " ++ scope.text ++ ": " ++ ", ".intercalate names
  | unknownNodeType node => s!"node '{node}' has unknown type"
  | unknownConnectionType connection => s!"connection '{connection}' has unknown type"
  | connectionTypeMismatch connection actual =>
    s!"connection '{connection}' has type '{actual}', expected 'digitalWire'"
  | endpointTypeMismatch connection side actual =>
    "'" ++ side.text ++ s!"' endpoint of connection '{connection}' has type '{actual}', " ++
      "expected 'digitalIn' or 'digitalOut'"

/-! ### Conditions -/

/-- The types that wires are recognised by. -/
structure Vocabulary where
  /-- The type of ports that take a bit. -/
  inPort : PortType
  /-- The type of ports that give a bit. -/
  outPort : PortType
  /-- The type of wires. -/
  wire : ConnectionType
deriving DecidableEq

/-- What two names are registered for; the error lists those that are not. -/
def requireBoth {α : Type} (scope : Scope) (m : NameMap α) (a b : String) : Except Error (α × α) :=
  match m.find? a, m.find? b with
  | some x, some y => .ok (x, y)
  | some _, none => .error (.missingTypes scope [b])
  | none, some _ => .error (.missingTypes scope [a])
  | none, none => .error (.missingTypes scope [a, b])

/-- The digital vocabulary of a schematic. -/
def vocabulary (s : Schematic) : Except Error Vocabulary := do
  let (inPort, outPort) ← requireBoth .portTypes s.portTypes Digital.inPort Digital.outPort
  let _ ← requireBoth .nodeTypes s.nodeTypes Digital.inputPin Digital.outputPin
  match s.connectionTypes.find? Digital.wire with
  | some wire => return ⟨inPort, outPort, wire⟩
  | none => throw (.missingTypes .connectionTypes [Digital.wire])

/-- Fails for a node of a type that is not registered. -/
def checkNode (s : Schematic) (node : Node) : Except Error Unit :=
  match s.nodeTypeName? node.type with
  | some _ => .ok ()
  | none => .error (.unknownNodeType node.name)

/-- Fails for the first node of a type that is not registered. -/
def checkNodes (s : Schematic) : Except Error Unit := s.nodes.forM (checkNode s)

/-- Fails for an end of a connection that is not digital. -/
def checkEnd (s : Schematic) (v : Vocabulary) (c : Connection) (side : Side) (p : PortRef) :
    Except Error Unit :=
  let type := (s.port? p).map (·.type)
  if type = some v.inPort ∨ type = some v.outPort then .ok ()
  else
    let actual := (type.bind s.portTypeName?).getD "<unregistered>"
    .error (.endpointTypeMismatch c.name side actual)

/-- Fails for a connection that is not a wire between digital ports. -/
def checkConnection (s : Schematic) (v : Vocabulary) (c : Connection) : Except Error Unit := do
  match s.connectionTypeName? c.type with
  | none => throw (.unknownConnectionType c.name)
  | some actual =>
    if c.type ≠ v.wire then
      throw (.connectionTypeMismatch c.name actual)
    checkEnd s v c .source c.source
    checkEnd s v c .target c.target

/-! ### Building -/

/-- An event of building a netlist. -/
def event (message : String) : Log.Event := { level := .debug, source := .netlist, message }

/-- What taking a wire into account reports. -/
def connectEvents (n : Netlist) (c : Connection) : List Log.Event :=
  match n.netOf? c.source, n.netOf? c.target with
  | none, none =>
    let net : Net := ⟨c.name, []⟩
    [event ("created net '" ++ net.name ++ "' for " ++ c.source.path ++ " -> " ++ c.target.path)]
  | some source, some target =>
    if source = target then []
    else [event (s!"connection '{c.name}' joins nets '" ++ source.name ++ "' and '" ++ target.name ++
      "', which are left unmerged")]
  | _, _ => []

/-- Takes a connection into account, which must be a wire. -/
def addConnection (s : Schematic) (v : Vocabulary) (n : Netlist) (c : Connection) :
    Logged Error Netlist := do
  checkConnection s v c
  Logged.reportAll (n.connectEvents c)
  return n.connect c

/-- The netlist of a schematic. -/
def build (s : Schematic) : Logged Error Netlist := do
  let v ← vocabulary s
  -- All nodes are looked at before the first wire is.
  checkNodes s
  let n ← s.connections.foldlM (addConnection s v) ⟨v.inPort, v.outPort, [], []⟩
  Logged.report { level := .debug, source := .netlist
                  message := s!"built netlist for '{s.name}'"
                  fields := [("nets", n.nets.length), ("unmerged", n.unmerged.length)] }
  return n

end Netlister.Netlist
