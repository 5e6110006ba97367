import Netlister.Document.Basic
import Netlister.Json.Shape

/-! # Reading documents

  The shape of documents, section by section. An attribute type is a name, or an
  object whose member `array` is the type of the elements; other members of it
  are ignored.
-/

namespace Netlister.Document

open Json (Tree Fault Reader RecordField readString readJson readMap readRecord orElseOk)

mutual

/-- The attribute type that a tree without fault stands for. -/
def attributeType? : Tree → Option AttributeType
  | .string name => some (.ofName name)
  | .object members _ =>
    match elementTypes members with
    | [some element] => some (.array element)
    | _ => none
  | _ => none

/-- What the members called `array` stand for. -/
def elementTypes : List (String × Tree) → List (Option AttributeType)
  | [] => []
  | (key, t) :: members =>
    if key = "array" then attributeType? t :: elementTypes members else elementTypes members

end

/-- Reads an attribute type. It is read to its end before its shape counts. -/
def readAttributeType : Reader AttributeType := fun t => do
  orElseOk () t.fault?
  match attributeType? t with
  | some type => return type
  | none => throw .misshapen

/-- Reads the attributes that a type declares. -/
def readAttributes : Reader Attributes := readMap readAttributeType

/-- Reads attribute values. -/
def readValues : Reader Values := readMap readJson

/-- The fields of a type of ports, connections or constraints. -/
def plainTypeFields : List (RecordField PlainType) :=
  [⟨"attributes", false, fun r t => return { r with attributes := ← readAttributes t }⟩]

/-- The fields of a type of nodes. -/
def nodeTypeFields : List (RecordField NodeType) :=
  [⟨"attributes", false, fun r t => return { r with attributes := ← readAttributes t }⟩,
   ⟨"ports", false, fun r t => return { r with ports := ← readMap readString t }⟩]

/-- The fields of a node. -/
def nodeFields : List (RecordField Node) :=
  [⟨"type", true, fun r t => return { r with type := ← readString t }⟩,
   ⟨"attributes", false, fun r t => return { r with attributes := ← readValues t }⟩,
   ⟨"portAttributes", false, fun r t => return { r with portAttributes := ← readMap readValues t }⟩]

/-- The fields of a connection. -/
def connectionFields : List (RecordField Connection) :=
  [⟨"type", true, fun r t => return { r with type := ← readString t }⟩,
   ⟨"from", true, fun r t => return { r with source := ← readString t }⟩,
   ⟨"to", true, fun r t => return { r with target := ← readString t }⟩,
   ⟨"attributes", false, fun r t => return { r with attributes := ← readValues t }⟩]

/-- The fields of a constraint. -/
def constraintFields : List (RecordField Constraint) :=
  [⟨"type", true, fun r t => return { r with type := ← readString t }⟩,
   ⟨"attributes", false, fun r t => return { r with attributes := ← readValues t }⟩]

/-- Reads types of ports, connections or constraints. -/
def readPlainTypes : Reader (OrderedMap PlainType) := readMap (readRecord {} plainTypeFields)

/-- The fields of a document. -/
def fields : List (RecordField Document) :=
  [⟨"name", true, fun r t => return { r with name := ← readString t }⟩,
   ⟨"userDefinedTypes", false, fun r t => return { r with userTypes := ← readAttributes t }⟩,
   ⟨"portTypes", false, fun r t => return { r with portTypes := ← readPlainTypes t }⟩,
   ⟨"nodeTypes", false, fun r t =>
      return { r with nodeTypes := ← readMap (readRecord {} nodeTypeFields) t }⟩,
   ⟨"connectionTypes", false, fun r t => return { r with connectionTypes := ← readPlainTypes t }⟩,
   ⟨"constraintTypes", false, fun r t => return { r with constraintTypes := ← readPlainTypes t }⟩,
   ⟨"nodes", false, fun r t =>
      return { r with nodes := ← readMap (readRecord ⟨"", ∅, ∅⟩ nodeFields) t }⟩,
   ⟨"connections", false, fun r t =>
      return { r with connections := ← readMap (readRecord ⟨"", "", "", ∅⟩ connectionFields) t }⟩,
   ⟨"constraints", false, fun r t =>
      return { r with constraints := ← readMap (readRecord ⟨"", ∅⟩ constraintFields) t }⟩]

/-- Reads a document from its text, after which only blanks may follow. -/
def ofText (text : String) : Except Fault Document := do
  let (tree, rest) := Tree.read text
  let document ← readRecord { name := "" } fields tree
  if (Json.skipBlanks rest).isEmpty then return document else throw .malformed

end Netlister.Document
