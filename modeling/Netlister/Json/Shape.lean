import Netlister.Json.Tree
import Netlister.OrderedMap

/-! # Reading trees of a certain shape

  Readers for the shapes that documents are made of: strings, maps from names,
  and records with fixed fields. A reader looks at a tree in the order of the
  text, so that of several faults the first in the text is the one it gives.
-/

namespace Netlister.Json

/-- A reader of trees of one shape. -/
abbrev Reader (α : Type) := Tree → Except Fault α

/-- The outcome for a tree of another shape; a fault of the text comes first. -/
def unexpected {α : Type} : Tree → Except Fault α
  | .broken fault => .error fault
  | _ => .error .misshapen

/-- Fails with a fault, if there is one. -/
def orElseOk {α : Type} (a : α) : Option Fault → Except Fault α
  | some fault => .error fault
  | none => .ok a

/-- Reads a string. -/
def readString : Reader String
  | .string s => .ok s
  | t => unexpected t

/-- Reads any value, to its end. -/
def readJson : Reader Json := fun t => orElseOk t.toJson t.fault?

/-- Reads an object as a map from its keys. A repeated key keeps its place and
    takes the later value. -/
def readMap {α : Type} (value : Reader α) : Reader (OrderedMap α)
  | .object members cut => do
    let m ← members.foldlM (fun (m : OrderedMap α) (key, t) => return m.insert key (← value t)) ∅
    orElseOk m cut
  | t => unexpected t

/-! ### Records -/

/-- A field of a record of type `ρ`. -/
structure RecordField (ρ : Type) where
  /-- The key of the field. -/
  name : String
  /-- Whether the field may not be left out. -/
  required : Bool
  /-- Reads the field into a record. -/
  read : ρ → Reader ρ

/-- A record that is being read, and the names of the fields it has so far. -/
structure Partial (ρ : Type) where
  /-- The record, with the fields that are not read yet left blank. -/
  record : ρ
  /-- The names of the fields that were read. -/
  seen : List String

variable {ρ : Type}

/-- Reads one field of a record. -/
def Partial.take (p : Partial ρ) (f : RecordField ρ) (t : Tree) : Except Fault (Partial ρ) := do
  return ⟨← f.read p.record t, f.name :: p.seen⟩

/-- The finished record, unless a required field is missing. -/
def Partial.finish (p : Partial ρ) (fields : List (RecordField ρ)) : Except Fault ρ :=
  if fields.all fun f => !f.required || p.seen.contains f.name then .ok p.record
  else .error .misshapen

/-- Reads a member of an object into the field of its name, which must exist and
    may not have been read before. -/
def Partial.takeMember (fields : List (RecordField ρ)) (p : Partial ρ) (member : String × Tree) :
    Except Fault (Partial ρ) :=
  match fields.find? (·.name = member.1) with
  | some f => if p.seen.contains f.name then .error .misshapen else p.take f member.2
  | none => .error .misshapen

/-- Reads elements into the fields in order. More elements than fields are no
    JSON of this shape, whatever they are. -/
def Partial.takeElements (p : Partial ρ) :
    List (RecordField ρ) → List Tree → Except Fault (Partial ρ)
  | _, [] => .ok p
  | [], _ :: _ => .error .malformed
  | f :: fields, t :: ts => do (← p.take f t).takeElements fields ts

/-- Reads a record, written as an object with the fields as members or as an
    array of the fields in order. Fields that are left out stay as in `blank`. -/
def readRecord (blank : ρ) (fields : List (RecordField ρ)) : Reader ρ
  | .object members cut => do
    let p ← members.foldlM (Partial.takeMember fields) ⟨blank, []⟩
    -- That a field is missing shows only where the object ends.
    orElseOk () cut
    p.finish fields
  | .array elements cut => do
    let p ← (Partial.mk blank []).takeElements fields elements
    orElseOk () cut
    p.finish fields
  | t => unexpected t

end Netlister.Json
