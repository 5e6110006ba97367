import Netlister.Document.Elaboration
import Netlister.Proofs.Schematic.Validation

/-! # What instances in a document say

  An instance lists values of attributes. This module says when they are accepted and what
  they come to, without regard to the order in which they are looked at.

  - `UserTypes.Grounded.conforms_congr`: whether a value belongs to a type depends on what the
    declared names stand for, not on the order of their declarations.
  - `Document.attributes_eq_ok`: values come to attributes iff they list them, and the
    attributes meet the schema.
-/

namespace Netlister

/-! ### Tables of declared types with the same look-ups -/

namespace UserTypes

variable {u u' : UserTypes}

/-- Looking names up ends alike in tables that find the same. -/
theorem Chases.congr (h : ∀ name, u'.find? name = u.find? name) {type : AttributeType}
    {answer : Except Schematic.Error AttributeType} (hchase : u.Chases type answer) :
    u'.Chases type answer := by
  induction hchase with
  | found hself => exact .found hself
  | next hfind _ ih => exact .next ((h _).trans hfind) ih
  | undeclared hnone => exact .undeclared ((h _).trans hnone)

theorem Grounded.resolve_congr (hu : u.Grounded) (hu' : u'.Grounded)
    (h : ∀ name, u'.find? name = u.find? name) (type : AttributeType) :
    u'.resolve type = u.resolve type := by
  have hchase : u.Chases type (u.resolve type) := hu.chases_iff.2 rfl
  exact (hu'.chases_iff.1 (hchase.congr h)).symm

mutual

theorem conforms_eq_of_resolve (h : ∀ type, u'.resolve type = u.resolve type) :
    (v : Value) → (type : AttributeType) → u'.conforms v type = u.conforms v type
  | .bool _, type => by
    unfold conforms
    rw [h]
  | .int _, type => by
    unfold conforms
    rw [h]
  | .string _, type => by
    unfold conforms
    rw [h]
  | .array elements, type => by
    unfold conforms
    rw [h]
    refine bind_congr fun found => ?_
    cases found with
    | array element => exact allConform_eq_of_resolve h elements element
    | _ => rfl

theorem allConform_eq_of_resolve (h : ∀ type, u'.resolve type = u.resolve type) :
    (vs : List Value) → (type : AttributeType) → u'.allConform vs type = u.allConform vs type
  | [], type => by
    unfold allConform
    rfl
  | v :: vs, type => by
    unfold allConform
    rw [conforms_eq_of_resolve h v type, allConform_eq_of_resolve h vs type]

end

/-- The order of declarations does not matter for what belongs to a type. -/
theorem Grounded.conforms_congr (hu : u.Grounded) (hu' : u'.Grounded)
    (h : ∀ name, u'.find? name = u.find? name) (v : Value) (type : AttributeType) :
    u'.conforms v type = u.conforms v type :=
  conforms_eq_of_resolve (hu.resolve_congr hu' h) v type

theorem requireDeclared_congr (h : ∀ name, u'.find? name = u.find? name) (type : AttributeType) :
    u'.requireDeclared type = .ok () ↔ u.requireDeclared type = .ok () := by
  simp only [requireDeclared_eq_ok, h]

end UserTypes

namespace Attributes

theorem Meets.congr {schema : Schema} {u u' : UserTypes} {attributes : Attributes}
    (hu : u.Grounded) (hu' : u'.Grounded) (h : ∀ name, u'.find? name = u.find? name)
    (hmeets : Meets schema u attributes) : Meets schema u' attributes where
  declared := by
    intro name value hvalue
    obtain ⟨type, htype, hconforms⟩ := hmeets.declared name value hvalue
    exact ⟨type, htype, (hu.conforms_congr hu' h value type).trans hconforms⟩
  complete := hmeets.complete

end Attributes

namespace Document

/-! ### Attributes -/

/-- The JSON value is this attribute value. -/
def Reads (j : Json) (v : Value) : Prop := j.toValue = .ok v

theorem Reads.unique {j : Json} {v w : Value} (hv : Reads j v) (hw : Reads j w) : v = w :=
  Except.ok.inj (hv.symm.trans hw)

theorem attributeValues_eq_ok {values : Values} {given : List (String × Value)} :
    attributeValues values = .ok given ↔
      List.Forall₂ (fun e g => e.1 = g.1 ∧ Reads e.2 g.2) values.entries given := by
  have hread (e : String × Json) (v : Value) : attributeValue e.1 e.2 = .ok v ↔ Reads e.2 v :=
    Outcome.mapError_eq_ok
  unfold attributeValues
  simp only [← hread]
  exact mapM_entries_eq_ok

theorem nodup_of_attributeValues {values : Values} {given : List (String × Value)}
    (h : attributeValues values = .ok given) : (given.map (·.1)).Nodup := by
  rw [map_fst_of_forall₂ (attributeValues_eq_ok.1 h)]
  exact values.distinct

/-- Values are taken over iff they list the attributes and these meet the schema. -/
theorem attributes_eq_ok {values : Values} {schema : Schema} {types : UserTypes}
    {attributes : Netlister.Attributes} :
    (∃ given, attributeValues values = .ok given ∧
        Attributes.validate schema types given = .ok attributes) ↔
      values.Lists Reads attributes ∧ Attributes.Meets schema types attributes := by
  have hlists : values.Lists Reads attributes ↔ _ :=
    OrderedMap.lists_iff_forall₂ fun _ _ _ => Reads.unique
  rw [hlists]
  constructor
  · rintro ⟨given, hgiven, hvalid⟩
    obtain ⟨-, hattributes, hmeets⟩ := Attributes.validate_eq_ok.1 hvalid
    exact ⟨⟨given, attributeValues_eq_ok.1 hgiven, hattributes⟩, hmeets⟩
  · rintro ⟨⟨given, hpairs, hattributes⟩, hmeets⟩
    have hgiven : attributeValues values = .ok given := attributeValues_eq_ok.2 hpairs
    exact ⟨given, hgiven, Attributes.validate_eq_ok.2
      ⟨nodup_of_attributeValues hgiven, hattributes, hmeets⟩⟩

end Document

end Netlister
