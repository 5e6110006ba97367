import Netlister.Proofs.Outcome
import Netlister.UserTypes

/-! # Declared types only grow

  A declaration of a new name changes nothing for types that could be resolved before:
  what they stand for stays, and with it the values that belong to them. So a value that
  was accepted once is never outdated by a later declaration.

  A type that could not be resolved may become resolvable, which is why the statements
  are about successful answers only.
-/

namespace Netlister.UserTypes

open Schematic (Error)

/-! ### What a name was declared for -/

/-- A further declaration is found under its name, and hides no other. -/
theorem find?_declare (types : UserTypes) (name key : String) (type : AttributeType) :
    (types.declare name type).find? key = if key = name then some type else types.find? key := by
  unfold UserTypes.declare UserTypes.find?
  by_cases hkey : key = name
  · simp [hkey]
  · simp [List.lookup_cons, beq_eq_false_iff_ne.2 hkey, hkey]

/-! ### What a type stands for -/

/-- A name without declaration stands for nothing. -/
theorem resolveAmong_of_lookup_eq_none {declarations : List (String × AttributeType)} {name : String}
    (h : declarations.lookup name = none) :
    resolveAmong declarations (.user name) = .error (.undeclared name .userTypes) := by
  induction declarations with
  | nil => rfl
  | cons d older ih =>
    obtain ⟨declared, type⟩ := d
    have hne : name ≠ declared := by
      rintro rfl
      simp at h
    have holder : older.lookup name = none := by
      rw [List.lookup_cons, beq_false_of_ne hne] at h
      exact h
    show (if name = declared then resolveAmong older type else resolveAmong older (.user name)) = _
    rw [if_neg hne, ih holder]

/-- A type that is no name stands for itself, whatever is declared. -/
theorem resolve_of_ne_user (u : UserTypes) {type : AttributeType} (h : ∀ name, type ≠ .user name) :
    u.resolve type = .ok type := by
  unfold resolve
  cases type with
  | user name => exact absurd rfl (h name)
  | _ => cases u.declarations <;> rfl

/-- A type that could be resolved stands for the same after a further declaration. -/
theorem resolve_declare {u : UserTypes} {name : String} (hnew : u.find? name = none)
    (declared : AttributeType) {type found : AttributeType} (h : u.resolve type = .ok found) :
    (u.declare name declared).resolve type = .ok found := by
  by_cases huser : ∃ other, type = .user other
  · obtain ⟨other, rfl⟩ := huser
    -- The name was declared already, so it is not the new one.
    have hne : other ≠ name := by
      rintro rfl
      have hnone : u.resolve (.user other) = .error _ := resolveAmong_of_lookup_eq_none hnew
      rw [hnone] at h
      cases h
    show (if other = name then _ else resolveAmong u.declarations (.user other)) = _
    rw [if_neg hne]
    exact h
  · have hself : ∀ other, type ≠ .user other := fun other heq => huser ⟨other, heq⟩
    rw [resolve_of_ne_user _ hself] at h ⊢
    exact h

/-! ### What belongs to a type -/

section Growth

variable {u : UserTypes} {name : String} {declared : AttributeType}

/-- An answer that rests on what a type stands for stays after a further declaration. -/
theorem resolve_bind_declare {α : Type} (hnew : u.find? name = none) {type : AttributeType}
    {f g : AttributeType → Except Error α} {answer : α}
    (hfg : ∀ found, f found = .ok answer → g found = .ok answer)
    (h : (u.resolve type >>= f) = .ok answer) :
    ((u.declare name declared).resolve type >>= g) = .ok answer := by
  obtain ⟨found, hfound, hanswer⟩ := Outcome.bind_eq_ok.1 h
  rw [resolve_declare hnew declared hfound]
  exact hfg found hanswer

mutual

/-- Whether a value belongs to a type is not changed by a further declaration, if it
    could be told before. -/
theorem conforms_declare (hnew : u.find? name = none) :
    (v : Value) → (type : AttributeType) → (answer : Bool) →
      u.conforms v type = .ok answer → (u.declare name declared).conforms v type = .ok answer
  | .bool _, _, _, h => by
    unfold conforms at h ⊢
    exact resolve_bind_declare hnew (fun _ hfound => hfound) h
  | .int _, _, _, h => by
    unfold conforms at h ⊢
    exact resolve_bind_declare hnew (fun _ hfound => hfound) h
  | .string _, _, _, h => by
    unfold conforms at h ⊢
    exact resolve_bind_declare hnew (fun _ hfound => hfound) h
  | .array elements, _, answer, h => by
    unfold conforms at h ⊢
    refine resolve_bind_declare hnew (fun found hfound => ?_) h
    cases found with
    | array element => exact allConform_declare hnew elements element answer hfound
    | bool => exact hfound
    | int => exact hfound
    | string => exact hfound
    | user other => exact hfound

/-- The same for all values of a list. -/
theorem allConform_declare (hnew : u.find? name = none) :
    (vs : List Value) → (type : AttributeType) → (answer : Bool) →
      u.allConform vs type = .ok answer → (u.declare name declared).allConform vs type = .ok answer
  | [], _, _, h => by
    unfold allConform at h ⊢
    exact h
  | v :: vs, type, answer, h => by
    unfold allConform at h ⊢
    obtain ⟨first, hfirst, hrest⟩ := Outcome.bind_eq_ok.1 h
    rw [conforms_declare hnew v type first hfirst]
    cases first with
    | true => exact allConform_declare hnew vs type answer hrest
    | false => exact hrest

end

end Growth

end Netlister.UserTypes
