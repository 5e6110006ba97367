import Netlister.Document.Elaboration
import Netlister.Proofs.Entries
import Netlister.Proofs.Schematic.Expansion

/-! # Documents that can be written down

  A document is made of maps and records, down to attribute types, which are read from trees,
  and attribute values, which are kept as JSON. Not every attribute type is read from a tree:
  one that mentions a built-in name as if it were declared is not. All others are, and so are
  the documents that are made of them.

  - `readable_attributeType`: every other attribute type is read from some tree.
  - `Value.toValue_toJson`: every attribute value is what some JSON stands for.
  - `readable_document`: a document is read from some tree if its attribute types and values are.
-/

namespace Netlister

open Json (Tree Reader readString readJson readMap readRecord)

/-- Some tree is read as this. -/
def Json.Readable {α : Type} (read : Reader α) (a : α) : Prop := ∃ tree, read tree = .ok a

open Json (Readable)

theorem Json.readable_string (s : String) : Readable readString s := ⟨.string s, rfl⟩

/-! ### Attribute types -/

namespace AttributeType

/-- How a type is written down. -/
def toTree : AttributeType → Tree
  | bool => .string "Bool"
  | int => .string "Int"
  | string => .string "String"
  | array element => .object [("array", element.toTree)] none
  | user name => .string name

theorem ofName_of_not_mem {name : String} (h : name ∉ builtinNames) : ofName name = user name := by
  simp only [builtinNames, List.mem_cons, List.not_mem_nil, or_false, not_or] at h
  simp [ofName, builtin?, h.1, h.2.1, h.2.2]

theorem attributeType?_toTree {type : AttributeType}
    (h : ∀ name, type.name? = some name → name ∉ builtinNames) :
    Document.attributeType? type.toTree = some type := by
  induction type with
  | bool => rfl
  | int => rfl
  | string => rfl
  | array element ih =>
    have helement : Document.attributeType? element.toTree = some element := ih h
    simp [toTree, Document.attributeType?, Document.elementTypes, helement]
  | user name =>
    simp only [toTree, Document.attributeType?, ofName_of_not_mem (h name rfl)]

end AttributeType

/-- A type is read from some tree unless it mentions a built-in name. -/
theorem Document.readable_attributeType {type : AttributeType}
    (h : ∀ name, type.name? = some name → name ∉ AttributeType.builtinNames) :
    Readable readAttributeType type := by
  have hfault : type.toTree.fault? = none := by cases type <;> rfl
  refine ⟨type.toTree, ?_⟩
  unfold readAttributeType
  rw [hfault, AttributeType.attributeType?_toTree h]
  rfl

/-! ### Values -/

namespace Value

mutual

/-- How a value is written down. -/
def toTree : Value → Tree
  | bool b => .bool b
  | int n => .number (.int n)
  | string s => .string s
  | array elements => .array (toTrees elements) none

/-- How values are written down. -/
def toTrees : List Value → List Tree
  | [] => []
  | v :: vs => v.toTree :: toTrees vs

end

/-- The JSON that stands for a value. -/
def toJson (v : Value) : Json := v.toTree.toJson

mutual

theorem toValue_toJson : (v : Value) → v.toJson.toValue = .ok v
  | .bool b => rfl
  | .int n => rfl
  | .string s => rfl
  | .array elements => by
    have helements := toValues_toTrees elements
    simp only [toJson, toTree, Tree.toJson, Json.toValue, helements]
    rfl

theorem toValues_toTrees : (vs : List Value) →
    Json.toValues (Json.elementsToJson (toTrees vs)) = .ok vs
  | [] => rfl
  | v :: vs => by
    have hfirst : v.toTree.toJson.toValue = .ok v := toValue_toJson v
    simp only [toTrees, Json.elementsToJson, Json.toValues, hfirst, toValues_toTrees vs]
    rfl

end

theorem readable_toJson (v : Value) : Readable readJson v.toJson := by
  have hfault : v.toTree.fault? = none := by cases v <;> rfl
  refine ⟨v.toTree, ?_⟩
  unfold readJson
  rw [hfault]
  rfl

end Value

/-! ### Maps -/

namespace Json

variable {α : Type} {read : Reader α}

/-- Entries that are read one by one are put in one by one. -/
theorem exists_members {es : List (String × α)} (h : ∀ e ∈ es, Readable read e.2)
    (m : OrderedMap α) : ∃ members : List (String × Tree),
      members.foldlM (fun (m : OrderedMap α) (key, t) => return m.insert key (← read t)) m =
        .ok (es.foldl (fun m e => m.insert e.1 e.2) m) := by
  induction es generalizing m with
  | nil => exact ⟨[], rfl⟩
  | cons e es ih =>
    obtain ⟨hfirst, hrest⟩ := List.forall_mem_cons.1 h
    obtain ⟨tree, htree⟩ := hfirst
    obtain ⟨members, hmembers⟩ := ih hrest (m.insert e.1 e.2)
    refine ⟨(e.1, tree) :: members, ?_⟩
    simp only [List.foldlM_cons, htree, Outcome.ok_bind]
    exact hmembers

theorem readable_map {m : OrderedMap α} (h : ∀ e ∈ m.entries, Readable read e.2) :
    Readable (readMap read) m := by
  obtain ⟨members, hmembers⟩ := exists_members h ∅
  have hm : OrderedMap.ofList m.entries = m := by
    obtain ⟨entries, hdistinct⟩ := m
    have hentries := OrderedMap.entries_ofList hdistinct
    generalize OrderedMap.ofList entries = made at hentries ⊢
    cases made
    cases hentries
    rfl
  rw [← hm]
  exact ⟨.object members none, congrArg (· >>= fun m => orElseOk m none) hmembers⟩

end Json

/-! ### Records -/

namespace Json

section Records

variable {ρ : Type}

/-- A change of what is read. -/
theorem Readable.map {α β : Type} {read : Reader α} {f : α → β} {a : α} (h : Readable read a) :
    Readable (fun t => do return f (← read t)) (f a) := by
  obtain ⟨tree, htree⟩ := h
  refine ⟨tree, ?_⟩
  simp only [htree, Outcome.ok_bind]
  rfl

/-- The second record comes from the first by reading the fields in order. -/
def Fills : List (RecordField ρ) → ρ → ρ → Prop
  | [], r, r' => r = r'
  | f :: fields, r, r' => ∃ next, Readable (f.read r) next ∧ Fills fields next r'

/-- Fields that were not read yet are read by their names. -/
theorem exists_takeMembers {fields rest : List (RecordField ρ)}
    (hfields : (fields.map (·.name)).Nodup) (hrest : ∀ f ∈ rest, f ∈ fields)
    (hnodup : (rest.map (·.name)).Nodup) {p : Partial ρ} (hnew : ∀ f ∈ rest, f.name ∉ p.seen)
    {r : ρ} (h : Fills rest p.record r) :
    ∃ members : List (String × Tree), members.foldlM (Partial.takeMember fields) p =
      .ok ⟨r, (rest.map (·.name)).reverse ++ p.seen⟩ := by
  induction rest generalizing p with
  | nil =>
    cases h
    exact ⟨[], rfl⟩
  | cons f rest ih =>
    obtain ⟨next, ⟨tree, htree⟩, hfills⟩ := h
    obtain ⟨hmem, hrest⟩ := List.forall_mem_cons.1 hrest
    obtain ⟨hfirst, hnodup⟩ := List.nodup_cons.1 hnodup
    obtain ⟨hnewFirst, hnewRest⟩ := List.forall_mem_cons.1 hnew
    have htake : Partial.takeMember fields p (f.name, tree) = .ok ⟨next, f.name :: p.seen⟩ := by
      have hfind : fields.find? (fun g => g.name = f.name) = some f :=
        (Schematic.find?_name_eq_some_iff hfields).2 ⟨hmem, rfl⟩
      have hseen : p.seen.contains f.name = false := by simpa using hnewFirst
      simp only [Partial.takeMember, hfind, hseen, Partial.take, htree, Outcome.ok_bind]
      rfl
    have hstill : ∀ g ∈ rest, g.name ∉ f.name :: p.seen := by
      intro g hg hmem
      rcases List.mem_cons.1 hmem with heq | hseen
      · exact hfirst (List.mem_map.2 ⟨g, hg, heq⟩)
      · exact hnewRest g hg hseen
    obtain ⟨members, hmembers⟩ := ih hrest hnodup (p := ⟨next, f.name :: p.seen⟩) hstill hfills
    refine ⟨(f.name, tree) :: members, ?_⟩
    rw [List.foldlM_cons, htake, Outcome.ok_bind, hmembers, List.map_cons, List.reverse_cons,
      List.append_assoc]
    rfl

/-- A record is read from some tree if each of its fields is. -/
theorem readable_record {fields : List (RecordField ρ)} {blank r : ρ}
    (hnames : (fields.map (·.name)).Nodup) (h : Fills fields blank r) :
    Readable (readRecord blank fields) r := by
  obtain ⟨members, hmembers⟩ :=
    exists_takeMembers (p := ⟨blank, []⟩) hnames (fun _ hf => hf) hnames (by simp) h
  have hfinish : Partial.finish ⟨r, (fields.map (·.name)).reverse ++ []⟩ fields = .ok r := by
    refine if_pos (List.all_eq_true.2 fun f hf => ?_)
    have hseen : f.name ∈ fields.map (·.name) := List.mem_map.2 ⟨f, hf, rfl⟩
    simp [hseen]
  refine ⟨.object members none, ?_⟩
  simp only [readRecord, hmembers, Outcome.ok_bind]
  exact hfinish

end Records

end Json

namespace Document

open Json

/-- The attribute types can be written down. -/
def Legible (attributes : Attributes) : Prop :=
  ∀ e ∈ attributes.entries, Readable readAttributeType e.2

/-- The values can be written down. -/
def LegibleValues (values : Values) : Prop := ∀ e ∈ values.entries, Readable readJson e.2

theorem readable_plainType {t : PlainType} (h : Legible t.attributes) :
    Readable (readRecord {} plainTypeFields) t :=
  readable_record (by decide) ⟨_, (readable_map h).map, rfl⟩

theorem readable_nodeType {t : NodeType} (h : Legible t.attributes) :
    Readable (readRecord {} nodeTypeFields) t :=
  have hports : Readable (readMap readString) t.ports := readable_map fun e _ => readable_string e.2
  readable_record (by decide) ⟨_, (readable_map h).map, _, hports.map, rfl⟩

theorem readable_node {n : Node} (h : LegibleValues n.attributes)
    (hports : ∀ e ∈ n.portAttributes.entries, LegibleValues e.2) :
    Readable (readRecord ⟨"", ∅, ∅⟩ nodeFields) n :=
  readable_record (by decide) ⟨_, (readable_string n.type).map, _, (readable_map h).map, _,
    (readable_map fun e he => readable_map (hports e he)).map, rfl⟩

theorem readable_connection {c : Connection} (h : LegibleValues c.attributes) :
    Readable (readRecord ⟨"", "", "", ∅⟩ connectionFields) c :=
  readable_record (by decide) ⟨_, (readable_string c.type).map, _, (readable_string c.source).map,
    _, (readable_string c.target).map, _, (readable_map h).map, rfl⟩

theorem readable_constraint {c : Constraint} (h : LegibleValues c.attributes) :
    Readable (readRecord ⟨"", ∅⟩ constraintFields) c :=
  readable_record (by decide) ⟨_, (readable_string c.type).map, _, (readable_map h).map, rfl⟩

/-- A document is read from some tree if its attribute types and values are. -/
theorem readable_document {d : Document} (huserTypes : Legible d.userTypes)
    (hportTypes : ∀ e ∈ d.portTypes.entries, Legible e.2.attributes)
    (hnodeTypes : ∀ e ∈ d.nodeTypes.entries, Legible e.2.attributes)
    (hconnectionTypes : ∀ e ∈ d.connectionTypes.entries, Legible e.2.attributes)
    (hconstraintTypes : ∀ e ∈ d.constraintTypes.entries, Legible e.2.attributes)
    (hnodes : ∀ e ∈ d.nodes.entries, LegibleValues e.2.attributes ∧
      ∀ p ∈ e.2.portAttributes.entries, LegibleValues p.2)
    (hconnections : ∀ e ∈ d.connections.entries, LegibleValues e.2.attributes)
    (hconstraints : ∀ e ∈ d.constraints.entries, LegibleValues e.2.attributes) :
    Readable (readRecord { name := "" } fields) d :=
  readable_record (by decide) ⟨_, (readable_string d.name).map, _, (readable_map huserTypes).map, _,
    (readable_map fun e he => readable_plainType (hportTypes e he)).map, _,
    (readable_map fun e he => readable_nodeType (hnodeTypes e he)).map, _,
    (readable_map fun e he => readable_plainType (hconnectionTypes e he)).map, _,
    (readable_map fun e he => readable_plainType (hconstraintTypes e he)).map, _,
    (readable_map fun e he => readable_node (hnodes e he).1 (hnodes e he).2).map, _,
    (readable_map fun e he => readable_connection (hconnections e he)).map, _,
    (readable_map fun e he => readable_constraint (hconstraints e he)).map, rfl⟩

end Document

end Netlister
