import Netlister.Proofs.Schematic.Expansion

/-! # The type of a value

  There are two ways from values to types. `Value.type?` finds the type of a value from the
  types of its elements, and `UserTypes.conforms` takes a type down to the elements. Both are
  compared with the structure that a type without names describes (`Value.BelongsTo`).

  - `conforms_iff_of_plain`: checking against a type without names asks for this structure,
    whatever names are declared.
  - `type?_eq_some_iff`: the type that is found has this structure too. An empty array has the
    structure of many types, and none is found for a value that has one inside.

  `inference_agrees_with_checking` puts the two together.
-/

namespace Netlister

/-! ### Values inside values -/

namespace Value

/-- What holds of arrays if it holds of their elements, and of all other values, holds of
    every value. -/
theorem arrayInduction {P : Value → Prop}
    (single : ∀ v builtin, v.builtin? = some builtin → P v)
    (array : ∀ elements, (∀ v ∈ elements, P v) → P (.array elements)) (v : Value) : P v := by
  cases v with
  | bool b => exact single (.bool b) .bool rfl
  | int n => exact single (.int n) .int rfl
  | string s => exact single (.string s) .string rfl
  | array elements => exact array elements fun v _ => arrayInduction single array v
termination_by v

/-- A value stands inside another, at any depth of arrays. Each stands inside itself. -/
inductive Occurs (v : Value) : Value → Prop where
  | here : Occurs v v
  | inside {w : Value} {elements : List Value} :
      w ∈ elements → Occurs v w → Occurs v (.array elements)

/-- No empty array stands inside the value. -/
def Filled (v : Value) : Prop := ¬ Occurs (.array []) v

theorem filled_of_builtin {v : Value} {builtin : AttributeType} (h : v.builtin? = some builtin) :
    v.Filled := by
  intro hoccurs
  cases hoccurs with
  | here => cases h
  | inside => cases h

theorem filled_array_iff {elements : List Value} :
    (array elements).Filled ↔ elements ≠ [] ∧ ∀ v ∈ elements, v.Filled := by
  constructor
  · intro hfilled
    refine ⟨?_, ?_⟩
    · rintro rfl
      exact hfilled .here
    · intro v hv hoccurs
      exact hfilled (.inside hv hoccurs)
  · rintro ⟨hne, hall⟩ hoccurs
    cases hoccurs with
    | here => exact hne rfl
    | inside hw hoccurs => exact hall _ hw hoccurs

/-! ### Finding a type -/

theorem type?_of_builtin {v : Value} {builtin : AttributeType} (h : v.builtin? = some builtin) :
    v.type? = some builtin := by
  cases v with
  | array elements => cases h
  | _ =>
    cases h
    rfl

/-- Values have a common type iff there is one at least, and each has this type. -/
theorem commonType?_eq_some_iff {vs : List Value} {type : AttributeType} :
    commonType? vs = some type ↔ vs ≠ [] ∧ ∀ v ∈ vs, v.type? = some type := by
  induction vs with
  | nil => simp [commonType?]
  | cons v vs ih =>
    cases vs with
    | nil => simp [commonType?]
    | cons w vs =>
      rw [commonType?, List.forall_mem_cons]
      have hrest : commonType? (w :: vs) = some type ↔ ∀ u ∈ w :: vs, u.type? = some type := by
        rw [ih]
        simp
      rw [← hrest]
      constructor
      · intro h
        split at h
        · next hsame => exact ⟨by simp, h, hsame ▸ h⟩
        · cases h
      · rintro ⟨-, hv, hvs⟩
        rw [if_pos (hv.trans hvs.symm), hv]

/-- The type that is found is the one whose structure the value has. -/
theorem type?_eq_some_iff {v : Value} {type : AttributeType} :
    v.type? = some type ↔ v.Filled ∧ v.BelongsTo type := by
  induction v using arrayInduction generalizing type with
  | single v builtin hv =>
    rw [type?_of_builtin hv, belongsTo_iff_of_builtin hv, Option.some_inj, eq_comm]
    exact (and_iff_right (filled_of_builtin hv)).symm
  | array elements ih =>
    rw [filled_array_iff, belongsTo_array_iff, type?, Option.map_eq_some_iff]
    -- That there is an element to tell the type from is what `Filled` asks of the array itself.
    constructor
    · rintro ⟨element, hcommon, rfl⟩
      obtain ⟨hne, htypes⟩ := commonType?_eq_some_iff.1 hcommon
      exact ⟨⟨hne, fun v hv => ((ih v hv).1 (htypes v hv)).1⟩, element, rfl,
        fun v hv => ((ih v hv).1 (htypes v hv)).2⟩
    · rintro ⟨⟨hne, hfilled⟩, element, rfl, hbelongs⟩
      refine ⟨element, commonType?_eq_some_iff.2 ⟨hne, ?_⟩, rfl⟩
      intro v hv
      exact (ih v hv).2 ⟨hfilled v hv, hbelongs v hv⟩

theorem plain_of_builtin {v : Value} {builtin : AttributeType} (h : v.builtin? = some builtin) :
    builtin.Plain := by
  cases v with
  | array elements => cases h
  | _ =>
    cases h
    rfl

/-- No name is ever found as a type, nor inside one. -/
theorem plain_of_type? {v : Value} {type : AttributeType} (h : v.type? = some type) :
    type.Plain := by
  induction v using arrayInduction generalizing type with
  | single v builtin hv =>
    rw [type?_of_builtin hv] at h
    cases h
    exact plain_of_builtin hv
  | array elements ih =>
    rw [type?, Option.map_eq_some_iff] at h
    obtain ⟨element, hcommon, rfl⟩ := h
    obtain ⟨hne, htypes⟩ := commonType?_eq_some_iff.1 hcommon
    -- An array of nothing has no type, so some element shows what the type mentions.
    obtain ⟨v, hv⟩ := List.exists_mem_of_ne_nil elements hne
    have helement : element.Plain := ih v hv (htypes v hv)
    exact helement

end Value

/-! ### Checking against a type -/

namespace UserTypes

variable {u : UserTypes}

theorem allConform_eq_true_iff {vs : List Value} {type : AttributeType} :
    u.allConform vs type = .ok true ↔ ∀ v ∈ vs, u.conforms v type = .ok true := by
  induction vs with
  | nil => simp [allConform]
  | cons v vs ih =>
    rw [allConform, List.forall_mem_cons, ← ih, Outcome.bind_eq_ok]
    constructor
    · rintro ⟨first, hfirst, hrest⟩
      cases first with
      | true => exact ⟨hfirst, hrest⟩
      | false => cases hrest
    · rintro ⟨hfirst, hrest⟩
      exact ⟨true, hfirst, hrest⟩

theorem resolve_of_plain {type : AttributeType} (h : type.Plain) : u.resolve type = .ok type := by
  refine u.resolve_of_ne_user ?_
  rintro name rfl
  cases h

/-- The values that belong to a type without names are those with its structure. -/
theorem conforms_iff_of_plain {v : Value} {type : AttributeType} (h : type.Plain) :
    u.conforms v type = .ok true ↔ v.BelongsTo type := by
  induction v using Value.arrayInduction generalizing type with
  | single v builtin hv =>
    rw [conforms_of_builtin hv, resolve_of_plain h, Value.belongsTo_iff_of_builtin hv,
      Outcome.ok_bind]
    simp [pure, Except.pure]
  | array elements ih =>
    rw [Value.belongsTo_array_iff, conforms, resolve_of_plain h, Outcome.ok_bind]
    cases type with
    | array element =>
      have helement : element.Plain := h
      have hall : (∀ v ∈ elements, u.conforms v element = .ok true) ↔
          ∀ v ∈ elements, v.BelongsTo element :=
        forall₂_congr fun v hv => ih v hv helement
      rw [allConform_eq_true_iff, hall]
      simp
    | _ => simp [pure, Except.pure]

end UserTypes

/-! ### Both ways -/

namespace Value

/-- **Finding a type agrees with checking against it.** Whatever names are declared, a type
    without names is found for a value iff no empty array stands inside the value and the
    value belongs to the type. So the type that is found mentions no name, and is the only
    such type that the value belongs to. -/
theorem inference_agrees_with_checking (v : Value) :
    (∀ (u : UserTypes) (type : AttributeType), type.Plain →
      (v.type? = some type ↔ v.Filled ∧ u.conforms v type = .ok true)) ∧
    ∀ inferred, v.type? = some inferred → inferred.Plain ∧
      ∀ (u : UserTypes) (type : AttributeType), type.Plain →
        (u.conforms v type = .ok true ↔ type = inferred) := by
  have hagree : ∀ (u : UserTypes) (type : AttributeType), type.Plain →
      (v.type? = some type ↔ v.Filled ∧ u.conforms v type = .ok true) := by
    intro u type hplain
    rw [type?_eq_some_iff, UserTypes.conforms_iff_of_plain hplain]
  refine ⟨hagree, ?_⟩
  intro inferred hinferred
  have hfilled : v.Filled := (type?_eq_some_iff.1 hinferred).1
  refine ⟨plain_of_type? hinferred, ?_⟩
  intro u type hplain
  calc u.conforms v type = .ok true
      ↔ v.type? = some type := by rw [hagree u type hplain, and_iff_right hfilled]
    _ ↔ type = inferred := by rw [hinferred, Option.some_inj, eq_comm]

/-- Rows of integers, of different lengths. -/
def rows : Value := .array [.array [.int 1, .int 2], .array [.int (-3)]]

/-- A table with one declared name. -/
def levels : UserTypes := ⟨[("Level", .int)]⟩

/-- The rows are arrays of arrays of integers, and nothing else that mentions no name. -/
theorem inference_agrees_with_checking_rows :
    (AttributeType.array (.array .int)).Plain ∧ (AttributeType.array (.array .bool)).Plain ∧
      rows.type? = some (.array (.array .int)) ∧ rows.Filled ∧
      levels.conforms rows (.array (.array .int)) = .ok true ∧
      levels.conforms rows (.array (.array .bool)) ≠ .ok true := by
  have hint : (AttributeType.array (.array .int)).Plain := rfl
  have hbool : (AttributeType.array (.array .bool)).Plain := rfl
  have htype : rows.type? = some (.array (.array .int)) := by decide
  obtain ⟨hagree, hunique⟩ := inference_agrees_with_checking rows
  obtain ⟨hfilled, hconforms⟩ := (hagree levels _ hint).1 htype
  refine ⟨hint, hbool, htype, hfilled, hconforms, ?_⟩
  intro hother
  cases ((hunique _ htype).2 levels _ hbool).1 hother

end Value

end Netlister
