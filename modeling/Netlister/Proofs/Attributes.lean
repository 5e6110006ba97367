import Netlister.Attributes
import Netlister.Proofs.UserTypes

/-! # Validated attributes

  Attributes that pass validation meet their schema: they are exactly the
  declared ones, and each value belongs to its declared type.

  The validation is a loop over the given values. What carries the proof is that
  every value taken so far is declared and of its type; that none is missing is
  seen at the end.
-/

namespace Netlister

/-! ### Look-ups and entries -/

namespace NameMap

variable {α : Type}

/-- Among ascending entries, finding a value under a name is having that entry. -/
theorem lookup_eq_some_iff_mem {name : String} {v : α} {es : List (String × α)}
    (hes : es.Pairwise (fun a b => a.1 < b.1)) : es.lookup name = some v ↔ (name, v) ∈ es := by
  induction es with
  | nil => simp
  | cons e es ih =>
    obtain ⟨first, w⟩ := e
    obtain ⟨hfirst, hes⟩ := List.pairwise_cons.1 hes
    rw [List.lookup_cons, List.mem_cons]
    by_cases h : name = first
    · subst h
      have hnot : (name, v) ∉ es := by
        intro hmem
        exact String.lt_irrefl _ (hfirst (name, v) hmem)
      simp [hnot, eq_comm]
    · have hb : (name == first) = false := beq_false_of_ne h
      simp only [hb, Prod.mk.injEq, h, false_and, false_or]
      exact ih hes

/-- A map has exactly the entries that are found in it. -/
theorem find?_eq_some_iff {m : NameMap α} {name : String} {v : α} :
    m.find? name = some v ↔ (name, v) ∈ m.entries :=
  lookup_eq_some_iff_mem m.ascending

/-- The names of a map are those under which something is found. -/
theorem mem_names_iff {m : NameMap α} {name : String} :
    name ∈ m.names ↔ ∃ v, m.find? name = some v := by
  simp only [names, List.mem_map, Prod.exists, exists_and_right, exists_eq_right,
    find?_eq_some_iff]

end NameMap

/-! ### Truth values -/

/-- Only truth values belong to the type of truth values. -/
theorem UserTypes.eq_bool_of_conforms {u : UserTypes} {v : Value}
    (h : u.conforms v .bool = .ok true) : ∃ b, v = .bool b := by
  have hbool : u.resolve .bool = .ok .bool := u.resolve_of_ne_user (by simp)
  cases v with
  | bool b => exact ⟨b, rfl⟩
  | int n => simp [conforms, hbool, bind, Except.bind, pure, Except.pure] at h
  | string s => simp [conforms, hbool, bind, Except.bind, pure, Except.pure] at h
  | array vs => simp [conforms, hbool, bind, Except.bind, pure, Except.pure] at h

namespace Attributes

/-! ### Validation -/

/-- Every attribute is declared, and its value is of the declared type. -/
def Declared (schema : Schema) (types : UserTypes) (attributes : Attributes) : Prop :=
  ∀ name value, attributes.find? name = some value →
    ∃ type, schema.find? name = some type ∧ types.conforms value type = .ok true

/-- The attributes are those of the schema, each with a value of its type. -/
structure Meets (schema : Schema) (types : UserTypes) (attributes : Attributes) : Prop where
  /-- No attribute is undeclared or of another type. -/
  declared : Declared schema types attributes
  /-- No declared attribute is missing. -/
  complete : ∀ name type, schema.find? name = some type → ∃ value, attributes.find? name = some value

/-- What it takes for one given value to be accepted, and what comes of it. -/
theorem assign_eq_ok {schema : Schema} {types : UserTypes} {assigned after : Attributes}
    {given : String × Value} (h : assign schema types assigned given = .ok after) :
    ∃ type, schema.find? given.1 = some type ∧ types.conforms given.2 type = .ok true ∧
      assigned.contains given.1 = false ∧ after = assigned.insert given.1 given.2 := by
  unfold assign at h
  split at h
  · cases h
  · next type htype =>
    obtain ⟨conforming, hconf, h⟩ := Outcome.bind_eq_ok.1 h
    cases conforming with
    | false => cases h
    | true =>
      cases hold : assigned.contains given.1 with
      | true => simp [hold, bind, Except.bind, throw, throwThe, MonadExceptOf.throw] at h
      | false =>
        simp [hold, pure, Except.pure] at h
        exact ⟨type, htype, hconf, rfl, h.symm⟩

/-- One more accepted value keeps all attributes declared. -/
theorem declared_assign {schema : Schema} {types : UserTypes} {assigned after : Attributes}
    {given : String × Value} (hold : Declared schema types assigned)
    (h : assign schema types assigned given = .ok after) : Declared schema types after := by
  obtain ⟨type, htype, hconf, -, rfl⟩ := assign_eq_ok h
  intro name value hfind
  rw [NameMap.find?_insert] at hfind
  by_cases hname : name = given.1
  · rw [if_pos hname] at hfind
    cases hfind
    exact ⟨type, hname ▸ htype, hconf⟩
  · rw [if_neg hname] at hfind
    exact hold name value hfind

/-- Accepted values, one after the other, keep all attributes declared. -/
theorem declared_foldlM {schema : Schema} {types : UserTypes} {given : List (String × Value)} :
    ∀ {assigned after : Attributes}, Declared schema types assigned →
      given.foldlM (assign schema types) assigned = .ok after → Declared schema types after := by
  induction given with
  | nil =>
    intro assigned after hold h
    cases h
    exact hold
  | cons g given ih =>
    intro assigned after hold h
    rw [List.foldlM_cons] at h
    obtain ⟨next, hnext, h⟩ := Outcome.bind_eq_ok.1 h
    exact ih (declared_assign hold hnext) h

/-- Attributes that pass validation meet their schema. -/
theorem meets_of_validate {schema : Schema} {types : UserTypes} {given : List (String × Value)}
    {attributes : Attributes} (h : validate schema types given = .ok attributes) :
    Meets schema types attributes := by
  obtain ⟨assigned, hfold, h⟩ := Outcome.bind_eq_ok.1 h
  split at h
  · cases h
  · next hmissing =>
    cases h
    constructor
    · refine declared_foldlM ?_ hfold
      intro name value hfind
      cases hfind
    · intro name type htype
      have hmem : name ∈ schema.names := NameMap.mem_names_iff.2 ⟨type, htype⟩
      have hfound := List.find?_eq_none.1 hmissing name hmem
      exact Option.ne_none_iff_exists'.1 (by simpa [NameMap.contains] using hfound)

/-- An attribute declared as a truth value can be read as one. -/
theorem getBool_of_meets {schema : Schema} {types : UserTypes} {attributes : Attributes}
    (h : Meets schema types attributes) {name : String} (hbool : schema.find? name = some .bool) :
    ∃ b, attributes.getBool name = .ok b := by
  obtain ⟨value, hvalue⟩ := h.complete name .bool hbool
  obtain ⟨type, htype, hconf⟩ := h.declared name value hvalue
  rw [hbool] at htype
  cases htype
  obtain ⟨b, rfl⟩ := UserTypes.eq_bool_of_conforms hconf
  exact ⟨b, by simp [getBool, get, hvalue, bind, Except.bind, pure, Except.pure]⟩

end Attributes

end Netlister
