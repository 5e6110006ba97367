import Netlister.Document.Reader
import Netlister.Log.Basic
import Netlister.Schematic.Construction

/-! # From documents to schematics

  The sections of a document are carried out in order: attribute types, types of
  ports, nodes, connections and constraints, and then their instances. The first
  step that fails decides.
-/

namespace Netlister

namespace Document

/-- Why a document does not give a schematic. -/
inductive Error where
  /-- The text is no document. -/
  | text (fault : Json.Fault)
  /-- A step of the construction fails. -/
  | schematic (cause : Schematic.Error)
  /-- The end of a connection is not a node and a port with a colon between. -/
  | malformedEndpoint (connection endpoint : String)
  /-- An attribute has a value that is no attribute value. -/
  | unsupportedValue (name : String) (value : Json)

/-- How a fault of the text is described. -/
def faultMessage : Json.Fault → String
  | .unfinished => "the text ends too early"
  | .malformed => "the text is not JSON"
  | .misshapen => "the text is not of the shape of a schematic"

/-- The message for an error. -/
def Error.message : Error → String
  | text fault => "malformed schematic document: " ++ faultMessage fault
  | schematic cause => cause.message
  | malformedEndpoint connection endpoint =>
    s!"endpoint '{endpoint}' of connection '{connection}' is not of the form 'node:port'"
  | unsupportedValue name value => s!"attribute '{name}' has unsupported value " ++ value.text

instance : MonadLift (Except Schematic.Error) (Except Error) := ⟨Except.mapError .schematic⟩

end Document

/-! ### Attribute values -/

mutual

/-- The attribute value that a JSON value is. Fails with the first value inside
    it, from left to right, that is none: null, an object, or a number that is no
    signed 64-bit integer. -/
def Json.toValue : Json → Except Json Value
  | .bool b => .ok (.bool b)
  | .number (.int n) => .ok (.int n)
  | .string s => .ok (.string s)
  | .array elements => (Json.toValues elements).map .array
  | other => .error other

/-- The attribute values that JSON values are. -/
def Json.toValues : List Json → Except Json (List Value)
  | [] => .ok []
  | j :: js => do return (← j.toValue) :: (← Json.toValues js)

end

namespace Document

/-- The value of an attribute. -/
def attributeValue (name : String) (j : Json) : Except Error Value :=
  j.toValue.mapError (.unsupportedValue name)

/-- The values of attributes, in order. -/
def attributeValues (values : Values) : Except Error (List (String × Value)) :=
  values.entries.mapM fun (name, j) => return (name, ← attributeValue name j)

/-! ### Ends of connections -/

/-- The text before and after the last occurrence of a character. -/
def splitAtLast (sep : Char) : List Char → Option (List Char × List Char)
  | [] => none
  | c :: cs =>
    match splitAtLast sep cs with
    | some (before, after) => some (c :: before, after)
    | none => if c = sep then some ([], cs) else none

/-- The port that the end of a connection is written for: the last colon divides
    node and port, and neither may be empty. -/
def endpoint (s : Schematic) (connection text : String) : Except Error PortRef := do
  match splitAtLast ':' text.toList with
  | some (n :: node, p :: port) => s.portRef (String.ofList (n :: node)) (String.ofList (p :: port))
  | _ => throw (.malformedEndpoint connection text)

/-! ### Sections -/

/-- Declares a type of ports. -/
def addPortType (state : Schematic × Context) (entry : String × PlainType) :
    Except Error (Schematic × Context) := do
  let (type, context) ← state.2.portType entry.2.attributes.entries
  return (← state.1.addPortType entry.1 type, context)

/-- Declares a type of nodes. Its ports refer to types declared before. -/
def addNodeType (state : Schematic × Context) (entry : String × NodeType) :
    Except Error (Schematic × Context) := do
  let ports ← entry.2.ports.entries.mapM fun (port, type) =>
    return (port, ← state.1.portType type)
  let (type, context) ← state.2.nodeType entry.2.attributes.entries ports
  return (← state.1.addNodeType entry.1 type, context)

/-- Declares a type of connections. -/
def addConnectionType (state : Schematic × Context) (entry : String × PlainType) :
    Except Error (Schematic × Context) := do
  let (type, context) ← state.2.connectionType entry.2.attributes.entries
  return (← state.1.addConnectionType entry.1 type, context)

/-- Declares a type of constraints. -/
def addConstraintType (state : Schematic × Context) (entry : String × PlainType) :
    Except Error (Schematic × Context) := do
  let (type, context) ← state.2.constraintType entry.2.attributes.entries
  return (← state.1.addConstraintType entry.1 type, context)

/-- Adds a node. -/
def addNode (s : Schematic) (entry : String × Node) : Except Error Schematic := do
  let type ← s.nodeType entry.2.type
  -- All values are converted before any of them is validated.
  let attributes ← attributeValues entry.2.attributes
  let portAttributes ← entry.2.portAttributes.entries.mapM fun (port, values) =>
    return (port, ← attributeValues values)
  s.addNode entry.1 type attributes portAttributes

/-- Adds a connection. -/
def addConnection (s : Schematic) (entry : String × Connection) : Except Error Schematic := do
  let type ← s.connectionType entry.2.type
  let source ← endpoint s entry.1 entry.2.source
  let target ← endpoint s entry.1 entry.2.target
  let attributes ← attributeValues entry.2.attributes
  s.addConnection entry.1 type source target attributes

/-- Adds a constraint. -/
def addConstraint (s : Schematic) (entry : String × Constraint) : Except Error Schematic := do
  let type ← s.constraintType entry.2.type
  let attributes ← attributeValues entry.2.attributes
  s.addConstraint entry.1 type attributes

/-- Declares all types of a document. -/
def declareTypes (d : Document) (context : Context) : Except Error (Schematic × Context) := do
  let s ← d.userTypes.entries.foldlM (fun (s : Schematic) (name, type) => s.addUserType name type)
    { name := d.name }
  let state ← d.portTypes.entries.foldlM addPortType (s, context)
  let state ← d.nodeTypes.entries.foldlM addNodeType state
  let state ← d.connectionTypes.entries.foldlM addConnectionType state
  d.constraintTypes.entries.foldlM addConstraintType state

/-- The schematic that a document describes, with its types declared in a
    context. -/
def toSchematic (d : Document) (context : Context) : Except Error (Schematic × Context) := do
  let (s, context) ← d.declareTypes context
  let s ← d.nodes.entries.foldlM addNode s
  let s ← d.connections.entries.foldlM addConnection s
  let s ← d.constraints.entries.foldlM addConstraint s
  return (s, context)

/-- The schematic that the text of a document describes. -/
def load (context : Context) (text : String) : Logged Error (Schematic × Context) := do
  let document ← (ofText text).mapError Error.text
  let loaded ← document.toSchematic context
  Logged.report { level := .debug, source := .document
                  message := s!"deserialized schematic '{document.name}'"
                  fields := [("nodes", document.nodes.size),
                    ("connections", document.connections.size),
                    ("constraints", document.constraints.size)] }
  return loaded

end Document

end Netlister
