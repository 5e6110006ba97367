import Netlister.AttributeType
import Netlister.Json.Basic
import Netlister.OrderedMap

/-! # Schematic documents

  A document names a schematic and lists its types and instances by name, each
  section in the order of the text. Types and ports are still referred to by
  name, and attribute values are still JSON.
-/

namespace Netlister

namespace Document

/-- The attributes that a type declares. -/
abbrev Attributes := OrderedMap AttributeType

/-- The attribute values of an instance. -/
abbrev Values := OrderedMap Json

/-- A type of ports, connections or constraints. -/
structure PlainType where
  /-- The attributes of its instances. -/
  attributes : Attributes := ∅

/-- A type of nodes. -/
structure NodeType where
  /-- The attributes of its instances. -/
  attributes : Attributes := ∅
  /-- The ports of its instances, each with the name of its type. -/
  ports : OrderedMap String := ∅

/-- A node. -/
structure Node where
  /-- The name of its type. -/
  type : String
  /-- Its attribute values. -/
  attributes : Values := ∅
  /-- The attribute values of its ports. -/
  portAttributes : OrderedMap Values := ∅

/-- A connection. -/
structure Connection where
  /-- The name of its type. -/
  type : String
  /-- Its first end, written as node, colon and port. -/
  source : String
  /-- Its second end, written likewise. -/
  target : String
  /-- Its attribute values. -/
  attributes : Values := ∅

/-- A constraint. -/
structure Constraint where
  /-- The name of its type. -/
  type : String
  /-- Its attribute values. -/
  attributes : Values := ∅

end Document

/-- A schematic as it is written down. -/
structure Document where
  /-- The name of the schematic. -/
  name : String
  /-- The attribute types declared by name. -/
  userTypes : OrderedMap AttributeType := ∅
  /-- The types of ports. -/
  portTypes : OrderedMap Document.PlainType := ∅
  /-- The types of nodes. -/
  nodeTypes : OrderedMap Document.NodeType := ∅
  /-- The types of connections. -/
  connectionTypes : OrderedMap Document.PlainType := ∅
  /-- The types of constraints. -/
  constraintTypes : OrderedMap Document.PlainType := ∅
  /-- The nodes. -/
  nodes : OrderedMap Document.Node := ∅
  /-- The connections. -/
  connections : OrderedMap Document.Connection := ∅
  /-- The constraints. -/
  constraints : OrderedMap Document.Constraint := ∅

end Netlister
