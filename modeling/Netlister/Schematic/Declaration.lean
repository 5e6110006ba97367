import Netlister.Attributes

/-! # Declarations of types

  Ports, nodes, connections and constraints are instances of declared types. Two
  declarations are different types even if they say the same, so each carries a
  serial number that its context gave to no other. Equality of declarations is
  then plain equality.
-/

namespace Netlister

open Schematic (Error Scope)

/-- A declared type of ports. -/
structure PortType where
  /-- Tells this declaration from all others of its context. -/
  serial : Nat
  /-- The attributes of every port of this type. -/
  attributes : Schema
deriving DecidableEq

/-- A declared type of nodes. -/
structure NodeType where
  /-- Tells this declaration from all others of its context. -/
  serial : Nat
  /-- The attributes of every node of this type. -/
  attributes : Schema
  /-- The ports of every node of this type. -/
  ports : NameMap PortType
deriving DecidableEq

/-- A declared type of connections. -/
structure ConnectionType where
  /-- Tells this declaration from all others of its context. -/
  serial : Nat
  /-- The attributes of every connection of this type. -/
  attributes : Schema
deriving DecidableEq

/-- A declared type of constraints. -/
structure ConstraintType where
  /-- Tells this declaration from all others of its context. -/
  serial : Nat
  /-- The attributes of every constraint of this type. -/
  attributes : Schema
deriving DecidableEq

/-- The map with the given entries, which must have different names. -/
def NameMap.ofDistinct {α : Type} (scope : Scope) (entries : List (String × α)) :
    Except Error (NameMap α) :=
  entries.foldlM
    (fun m e => if m.contains e.1 then .error (.multipleDefinition e.1 scope)
      else .ok (m.insert e.1 e.2))
    NameMap.empty

/-- Where declarations are made; it knows how many there were. -/
structure Context where
  /-- The number of declarations made so far, and so the next serial number. -/
  issued : Nat := 0
deriving DecidableEq, Inhabited

namespace Context

/-- The context after one more declaration. -/
def advance (c : Context) : Context := ⟨c.issued + 1⟩

/-- Declares a type of ports. -/
def portType (c : Context) (attributes : List (String × AttributeType)) :
    Except Error (PortType × Context) := do
  let attributes ← NameMap.ofDistinct .portTypeAttributes attributes
  return (⟨c.issued, attributes⟩, c.advance)

/-- Declares a type of nodes. -/
def nodeType (c : Context) (attributes : List (String × AttributeType))
    (ports : List (String × PortType)) : Except Error (NodeType × Context) := do
  let attributes ← NameMap.ofDistinct .nodeTypeAttributes attributes
  let ports ← NameMap.ofDistinct .nodeTypePorts ports
  return (⟨c.issued, attributes, ports⟩, c.advance)

/-- Declares a type of connections. -/
def connectionType (c : Context) (attributes : List (String × AttributeType)) :
    Except Error (ConnectionType × Context) := do
  let attributes ← NameMap.ofDistinct .connectionTypeAttributes attributes
  return (⟨c.issued, attributes⟩, c.advance)

/-- Declares a type of constraints. -/
def constraintType (c : Context) (attributes : List (String × AttributeType)) :
    Except Error (ConstraintType × Context) := do
  let attributes ← NameMap.ofDistinct .constraintTypeAttributes attributes
  return (⟨c.issued, attributes⟩, c.advance)

end Context

end Netlister
