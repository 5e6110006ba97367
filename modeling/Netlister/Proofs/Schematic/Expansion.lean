import Mathlib.Logic.Relation
import Netlister.Proofs.Schematic.Reachable

/-! # Declared types can be written out

  A declared name stands for a type that may mention a further name, and all names are
  looked up in one table. The table alone does not keep look-ups from running in circles
  (`not_chases_circle`). The order of declarations does: each mentions only names that were
  declared before it, and none is ever declared again (`Grounded`).

  - `Grounded.rank_lt`: to replace a name by what it stands for leads to an older name. So
    names can be replaced for a while only.
  - `Grounded.chases_iff`: looking names up in the table until none is left ends, and finds
    what `resolve` finds, which walks through the declarations instead.
  - `Grounded.judges_iff`: so judging a value with names looked up in the table ends with
    the answer of `conforms`.
  - `Grounded.exists_expansion`, `eq_of_isExpansion`: a type whose names are declared can be
    written out without names, in one way.
  - `Grounded.conforms_iff`: the values that belong to the type are those that have the
    structure of what it is written out to.

  `reachable_types_expand` says this for every schematic that can be built.
-/

namespace Netlister

/-! ### Types without names -/

namespace AttributeType

/-- The name that a type mentions, if it mentions one. -/
def name? : AttributeType → Option String
  | user name => some name
  | array element => element.name?
  | _ => none

/-- The type mentions no name. -/
def Plain (type : AttributeType) : Prop := type.name? = none

end AttributeType

/-- A value has the structure that a type without names describes. -/
inductive Value.BelongsTo : Value → AttributeType → Prop where
  | bool (b : Bool) : BelongsTo (.bool b) .bool
  | int (n : Int64) : BelongsTo (.int n) .int
  | string (s : String) : BelongsTo (.string s) .string
  | array {elements : List Value} {type : AttributeType} :
      (∀ v ∈ elements, BelongsTo v type) → BelongsTo (.array elements) (.array type)

namespace Value

/-- The built-in type of a value that is no array. -/
def builtin? : Value → Option AttributeType
  | bool _ => some .bool
  | int _ => some .int
  | string _ => some .string
  | array _ => none

theorem belongsTo_iff_of_builtin {v : Value} {builtin type : AttributeType}
    (h : v.builtin? = some builtin) : v.BelongsTo type ↔ type = builtin := by
  cases v with
  | bool b =>
    cases h
    exact ⟨fun hv => by cases hv; rfl, fun heq => heq ▸ .bool b⟩
  | int n =>
    cases h
    exact ⟨fun hv => by cases hv; rfl, fun heq => heq ▸ .int n⟩
  | string s =>
    cases h
    exact ⟨fun hv => by cases hv; rfl, fun heq => heq ▸ .string s⟩
  | array elements => cases h

theorem belongsTo_array_iff {elements : List Value} {type : AttributeType} :
    (array elements).BelongsTo type ↔
      ∃ element, type = .array element ∧ ∀ v ∈ elements, v.BelongsTo element := by
  constructor
  · rintro ⟨⟩
    exact ⟨_, rfl, by assumption⟩
  · rintro ⟨element, rfl, hall⟩
    exact .array hall

end Value

namespace UserTypes

open Schematic (Error)

/-! ### Replacing names -/

/-- The name that a type mentions is replaced by what it was declared for. -/
inductive Unfolds (u : UserTypes) : AttributeType → AttributeType → Prop where
  | name {name : String} {type : AttributeType} :
      u.find? name = some type → Unfolds u (.user name) type
  | element {type next : AttributeType} :
      Unfolds u type next → Unfolds u (.array type) (.array next)

/-- The type is written out, step by step, until no name is left. -/
def IsExpansion (u : UserTypes) (type full : AttributeType) : Prop :=
  Relation.ReflTransGen u.Unfolds type full ∧ full.Plain

/-- Looking names up in the table, until a type is found that is no name, ends with an
    answer. -/
inductive Chases (u : UserTypes) : AttributeType → Except Error AttributeType → Prop where
  | found {type : AttributeType} : (∀ name, type ≠ .user name) → Chases u type (.ok type)
  | next {name : String} {type : AttributeType} {answer : Except Error AttributeType} :
      u.find? name = some type → Chases u type answer → Chases u (.user name) answer
  | undeclared {name : String} :
      u.find? name = none → Chases u (.user name) (.error (.undeclared name .userTypes))

mutual

/-- Judging whether a value belongs to a type, with names looked up in the table, ends with
    an answer. -/
inductive Judges (u : UserTypes) : Value → AttributeType → Except Error Bool → Prop where
  | failed {v : Value} {type : AttributeType} {e : Error} :
      Chases u type (.error e) → Judges u v type (.error e)
  | builtin {v : Value} {builtin type found : AttributeType} :
      v.builtin? = some builtin → Chases u type (.ok found) →
        Judges u v type (.ok (found = builtin))
  | elements {vs : List Value} {type element : AttributeType} {answer : Except Error Bool} :
      Chases u type (.ok (.array element)) → JudgesAll u vs element answer →
        Judges u (.array vs) type answer
  | noArray {vs : List Value} {type found : AttributeType} :
      Chases u type (.ok found) → (∀ element, found ≠ .array element) →
        Judges u (.array vs) type (.ok false)

/-- Judging values one after the other ends with an answer; the first that does not belong
    to the type decides. -/
inductive JudgesAll (u : UserTypes) : List Value → AttributeType → Except Error Bool → Prop where
  | nil {type : AttributeType} : JudgesAll u [] type (.ok true)
  | failed {v : Value} {vs : List Value} {type : AttributeType} {e : Error} :
      Judges u v type (.error e) → JudgesAll u (v :: vs) type (.error e)
  | refused {v : Value} {vs : List Value} {type : AttributeType} :
      Judges u v type (.ok false) → JudgesAll u (v :: vs) type (.ok false)
  | accepted {v : Value} {vs : List Value} {type : AttributeType} {answer : Except Error Bool} :
      Judges u v type (.ok true) → JudgesAll u vs type answer → JudgesAll u (v :: vs) type answer

end

/-! ### The order of declarations -/

/-- Every declaration gave a new name to a type whose name was declared before. -/
inductive Grounded : UserTypes → Prop where
  | empty : Grounded {}
  | declare {u : UserTypes} {name : String} {type : AttributeType} : Grounded u →
      u.find? name = none → u.requireDeclared type = .ok () → Grounded (u.declare name type)

/-- A type passes iff the name that it mentions is declared. -/
theorem requireDeclared_eq_ok {u : UserTypes} {type : AttributeType} :
    u.requireDeclared type = .ok () ↔
      ∀ name, type.name? = some name → ∃ declared, u.find? name = some declared := by
  induction type with
  | bool => simp [requireDeclared, AttributeType.name?]
  | int => simp [requireDeclared, AttributeType.name?]
  | string => simp [requireDeclared, AttributeType.name?]
  | array element ih => exact ih
  | user name =>
    simp only [requireDeclared, contains, AttributeType.name?, Option.some.injEq, forall_eq',
      ← Option.isSome_iff_exists]
    by_cases hfound : (u.find? name).isSome
    · simp [hfound]
    · simp [hfound]

section Growth

variable {u : UserTypes} {name : String} {declared : AttributeType}

/-- What was declared stays declared. -/
theorem requireDeclared_declare {type : AttributeType} (h : u.requireDeclared type = .ok ()) :
    (u.declare name declared).requireDeclared type = .ok () := by
  rw [requireDeclared_eq_ok] at h ⊢
  intro other hother
  rw [find?_declare]
  by_cases heq : other = name
  · exact ⟨declared, if_pos heq⟩
  · rw [if_neg heq]
    exact h other hother

/-- A type whose names are declared does not mention a new one. -/
theorem name?_ne_of_requireDeclared {type : AttributeType} (hnew : u.find? name = none)
    (h : u.requireDeclared type = .ok ()) : type.name? ≠ some name := by
  intro hname
  obtain ⟨found, hfound⟩ := requireDeclared_eq_ok.1 h name hname
  rw [hnew] at hfound
  cases hfound

end Growth

/-- What a name stands for mentions declared names only. -/
theorem Grounded.requireDeclared_of_find? {u : UserTypes} (h : u.Grounded) {name : String}
    {type : AttributeType} (hfind : u.find? name = some type) :
    u.requireDeclared type = .ok () := by
  induction h with
  | empty => cases hfind
  | @declare u newest declared _ hnew hdeclared ih =>
    rw [find?_declare] at hfind
    by_cases heq : name = newest
    · rw [if_pos heq] at hfind
      cases hfind
      exact requireDeclared_declare hdeclared
    · rw [if_neg heq] at hfind
      exact requireDeclared_declare (ih hfind)

/-! ### Names get older -/

/-- The number of declarations up to the one of a name, and zero for any other name. -/
def age (u : UserTypes) (name : String) : Nat :=
  (u.declarations.dropWhile fun d => d.1 ≠ name).length

/-- The age of the name that a type mentions. -/
def rank (u : UserTypes) (type : AttributeType) : Nat :=
  match type.name? with
  | some name => u.age name
  | none => 0

theorem age_le (u : UserTypes) (name : String) : u.age name ≤ u.declarations.length :=
  (List.dropWhile_suffix _).length_le

theorem rank_le (u : UserTypes) (type : AttributeType) : u.rank type ≤ u.declarations.length := by
  unfold rank
  split
  · exact u.age_le _
  · exact Nat.zero_le _

theorem age_declare_self (u : UserTypes) (name : String) (type : AttributeType) :
    (u.declare name type).age name = u.declarations.length + 1 := by
  simp [age, declare]

theorem age_declare_of_ne (u : UserTypes) {name other : String} (type : AttributeType)
    (h : other ≠ name) : (u.declare name type).age other = u.age other := by
  simp [age, declare, Ne.symm h]

/-- A further declaration changes no age. -/
theorem rank_declare {u : UserTypes} {name : String} {declared type : AttributeType}
    (hnew : u.find? name = none) (h : u.requireDeclared type = .ok ()) :
    (u.declare name declared).rank type = u.rank type := by
  have hne : type.name? ≠ some name := name?_ne_of_requireDeclared hnew h
  unfold rank
  cases hname : type.name? with
  | none => rfl
  | some other =>
    have hother : other ≠ name := by
      rintro rfl
      exact hne hname
    exact u.age_declare_of_ne declared hother

namespace Grounded

variable {u : UserTypes}

/-- A name stands for a type that mentions an older one. -/
theorem rank_lt_age (h : u.Grounded) {name : String} {type : AttributeType}
    (hfind : u.find? name = some type) : u.rank type < u.age name := by
  induction h with
  | empty => cases hfind
  | @declare u newest declared hu hnew hdeclared ih =>
    rw [find?_declare] at hfind
    by_cases heq : name = newest
    · -- The newest declaration comes after all others, and mentions one of them.
      rw [if_pos heq] at hfind
      have htype : declared = type := Option.some.inj hfind
      subst htype
      have hrank : (u.declare newest declared).rank declared = u.rank declared :=
        rank_declare hnew hdeclared
      have hle : u.rank declared ≤ u.declarations.length := u.rank_le declared
      rw [heq, age_declare_self, hrank]
      omega
    · rw [if_neg heq] at hfind
      have hrank : (u.declare newest declared).rank type = u.rank type :=
        rank_declare hnew (hu.requireDeclared_of_find? hfind)
      rw [hrank, u.age_declare_of_ne declared heq]
      exact ih hfind

/-- Every replacement leads to an older name. -/
theorem rank_lt (h : u.Grounded) {type next : AttributeType} (hstep : u.Unfolds type next) :
    u.rank next < u.rank type := by
  induction hstep with
  | name hfind => exact h.rank_lt_age hfind
  | element _ ih => exact ih

/-- Names cannot be replaced for ever. -/
theorem wellFounded_unfolds (h : u.Grounded) :
    WellFounded fun next type => u.Unfolds type next :=
  Subrelation.wf (fun hstep => h.rank_lt hstep) (measure u.rank).wf

/-- Replacement keeps all names declared. -/
theorem requireDeclared_of_unfolds (h : u.Grounded) {type next : AttributeType}
    (hstep : u.Unfolds type next) : u.requireDeclared next = .ok () := by
  induction hstep with
  | name hfind => exact h.requireDeclared_of_find? hfind
  | element _ ih => exact ih

end Grounded

/-! ### Looking names up -/

section Chases

variable {u : UserTypes}

/-- From a name that stands for itself, look-ups never end. -/
theorem not_chases_circle {name : String} {answer : Except Error AttributeType}
    (hfind : u.find? name = some (.user name)) : ¬ u.Chases (.user name) answer := by
  intro h
  generalize htype : AttributeType.user name = type at h
  induction h with
  | found hself => exact hself name htype.symm
  | next hnext _ ih =>
    cases htype
    exact ih (Option.some.inj (hfind.symm.trans hnext))
  | undeclared hnone =>
    cases htype
    rw [hfind] at hnone
    cases hnone

/-- A further declaration changes nothing for a type whose names are declared. -/
theorem resolve_declare_of_requireDeclared {name : String} {declared type : AttributeType}
    (hnew : u.find? name = none) (h : u.requireDeclared type = .ok ()) :
    (u.declare name declared).resolve type = u.resolve type := by
  have hne : type.name? ≠ some name := name?_ne_of_requireDeclared hnew h
  cases type with
  | user other =>
    have hother : other ≠ name := by
      rintro rfl
      exact hne rfl
    exact if_neg hother
  | _ => rw [resolve_of_ne_user _ (by simp), resolve_of_ne_user _ (by simp)]

/-- A name stands for what its declaration stands for. -/
theorem Grounded.resolve_user (h : u.Grounded) {name : String} {type : AttributeType}
    (hfind : u.find? name = some type) : u.resolve (.user name) = u.resolve type := by
  induction h with
  | empty => cases hfind
  | @declare u newest declared hu hnew hdeclared ih =>
    rw [find?_declare] at hfind
    by_cases heq : name = newest
    · rw [if_pos heq] at hfind
      have htype : declared = type := Option.some.inj hfind
      subst htype
      rw [resolve_declare_of_requireDeclared hnew hdeclared]
      exact if_pos heq
    · rw [if_neg heq] at hfind
      rw [resolve_declare_of_requireDeclared hnew (hu.requireDeclared_of_find? hfind), ← ih hfind]
      exact if_neg heq

/-- Looking names up in the table ends for every type, also one without declaration, and
    finds what walking through the declarations finds. -/
theorem Grounded.chases_iff (h : u.Grounded) {type : AttributeType}
    {answer : Except Error AttributeType} : u.Chases type answer ↔ answer = u.resolve type := by
  constructor
  · intro hchase
    induction hchase with
    | found hself => exact (u.resolve_of_ne_user hself).symm
    | next hfind _ ih => rw [ih, h.resolve_user hfind]
    | undeclared hnone => exact (resolveAmong_of_lookup_eq_none hnone).symm
  · rintro rfl
    induction type using h.wellFounded_unfolds.induction with
    | _ type ih =>
      by_cases huser : ∃ name, type = .user name
      · obtain ⟨name, rfl⟩ := huser
        cases hfind : u.find? name with
        | none =>
          have herror : u.resolve (.user name) = .error (.undeclared name .userTypes) :=
            resolveAmong_of_lookup_eq_none hfind
          rw [herror]
          exact .undeclared hfind
        | some next =>
          rw [h.resolve_user hfind]
          exact .next hfind (ih next (.name hfind))
      · have hself : ∀ name, type ≠ .user name := fun name heq => huser ⟨name, heq⟩
        rw [u.resolve_of_ne_user hself]
        exact .found hself

/-- A value that is no array belongs to a type that stands for its own. -/
theorem conforms_of_builtin {v : Value} {builtin : AttributeType} (h : v.builtin? = some builtin)
    (type : AttributeType) :
    u.conforms v type = do return (← u.resolve type) = builtin := by
  cases v with
  | array elements => cases h
  | _ =>
    cases h
    unfold conforms
    rfl

/-- Judging a value that is no array ends, with the answer of `conforms`. -/
theorem Grounded.judges_iff_of_builtin (h : u.Grounded) {v : Value} {builtin : AttributeType}
    (hv : v.builtin? = some builtin) {type : AttributeType} {answer : Except Error Bool} :
    u.Judges v type answer ↔ answer = u.conforms v type := by
  rw [conforms_of_builtin hv]
  constructor
  · intro hjudge
    cases hjudge with
    | failed hchase =>
      rw [← h.chases_iff.1 hchase]
      rfl
    | builtin hv' hchase =>
      rw [← h.chases_iff.1 hchase, ← Option.some.inj (hv'.symm.trans hv)]
      rfl
    | elements => cases hv
    | noArray => cases hv
  · rintro rfl
    cases hfound : u.resolve type with
    | error e => exact .failed (h.chases_iff.2 hfound.symm)
    | ok found => exact .builtin hv (h.chases_iff.2 hfound.symm)

mutual

/-- Judging a value ends, with the answer of `conforms`. -/
theorem Grounded.judges_iff (h : u.Grounded) : (v : Value) → (type : AttributeType) →
    (answer : Except Error Bool) → (u.Judges v type answer ↔ answer = u.conforms v type)
  | .bool _, _, _ => h.judges_iff_of_builtin rfl
  | .int _, _, _ => h.judges_iff_of_builtin rfl
  | .string _, _, _ => h.judges_iff_of_builtin rfl
  | .array vs, type, answer => by
    unfold conforms
    constructor
    · intro hjudge
      cases hjudge with
      | failed hchase =>
        rw [← h.chases_iff.1 hchase]
        rfl
      | builtin hv => cases hv
      | @elements _ _ element _ hchase hall =>
        rw [← h.chases_iff.1 hchase]
        exact (h.judgesAll_iff vs element answer).1 hall
      | @noArray _ _ found hchase hnot =>
        rw [← h.chases_iff.1 hchase]
        cases found with
        | array element => exact absurd rfl (hnot element)
        | _ => rfl
    · rintro rfl
      cases hfound : u.resolve type with
      | error e => exact .failed (h.chases_iff.2 hfound.symm)
      | ok found =>
        have hchase : u.Chases type (.ok found) := h.chases_iff.2 hfound.symm
        cases found with
        | array element => exact .elements hchase ((h.judgesAll_iff vs element _).2 rfl)
        | _ => exact .noArray hchase (by simp)

/-- The same for all values of a list. -/
theorem Grounded.judgesAll_iff (h : u.Grounded) : (vs : List Value) → (type : AttributeType) →
    (answer : Except Error Bool) → (u.JudgesAll vs type answer ↔ answer = u.allConform vs type)
  | [], type, answer => by
    unfold allConform
    constructor
    · rintro ⟨⟩
      rfl
    · rintro rfl
      exact .nil
  | v :: vs, type, answer => by
    unfold allConform
    constructor
    · intro hjudge
      cases hjudge with
      | failed hv =>
        rw [← (h.judges_iff v type _).1 hv]
        rfl
      | refused hv =>
        rw [← (h.judges_iff v type _).1 hv]
        rfl
      | accepted hv hvs =>
        rw [← (h.judges_iff v type _).1 hv]
        exact (h.judgesAll_iff vs type answer).1 hvs
    · rintro rfl
      have hv : u.Judges v type (u.conforms v type) := (h.judges_iff v type _).2 rfl
      cases hfirst : u.conforms v type with
      | error e => exact .failed (hfirst ▸ hv)
      | ok first =>
        cases first with
        | true => exact .accepted (hfirst ▸ hv) ((h.judgesAll_iff vs type _).2 rfl)
        | false => exact .refused (hfirst ▸ hv)

end

end Chases

/-! ### Writing types out -/

section Expansion

variable {u : UserTypes}

/-- A type without names is written out already. -/
theorem not_unfolds_of_plain {type next : AttributeType} (h : type.Plain) :
    ¬ u.Unfolds type next := by
  intro hstep
  induction hstep with
  | name _ => cases h
  | element _ ih => exact ih h

/-- There is never more than one name to replace. -/
theorem rightUnique_unfolds : Relator.RightUnique u.Unfolds := by
  intro type first second hfirst
  induction hfirst generalizing second with
  | name hfind =>
    rintro (⟨hfind'⟩ | _)
    exact Option.some.inj (hfind.symm.trans hfind')
  | element _ ih =>
    rintro (_ | ⟨hnext⟩)
    rw [ih hnext]

/-- A declared name can be replaced. -/
theorem plain_or_unfolds {type : AttributeType} (h : u.requireDeclared type = .ok ()) :
    type.Plain ∨ ∃ next, u.Unfolds type next := by
  induction type with
  | bool => exact .inl rfl
  | int => exact .inl rfl
  | string => exact .inl rfl
  | array element ih =>
    rcases ih h with hplain | ⟨next, hstep⟩
    · exact .inl hplain
    · exact .inr ⟨.array next, .element hstep⟩
  | user name =>
    obtain ⟨type, hfind⟩ := requireDeclared_eq_ok.1 h name rfl
    exact .inr ⟨type, .name hfind⟩

/-- A type whose names are declared can be written out. -/
theorem Grounded.exists_expansion (h : u.Grounded) {type : AttributeType}
    (hdeclared : u.requireDeclared type = .ok ()) : ∃ full, u.IsExpansion type full := by
  induction type using h.wellFounded_unfolds.induction with
  | _ type ih =>
    rcases plain_or_unfolds hdeclared with hplain | ⟨next, hstep⟩
    · exact ⟨type, .refl, hplain⟩
    · obtain ⟨full, hsteps, hplain⟩ := ih next hstep (h.requireDeclared_of_unfolds hstep)
      exact ⟨full, hsteps.head hstep, hplain⟩

/-- A type that is written out cannot be written out further. -/
theorem eq_of_plain {type next : AttributeType} (h : type.Plain)
    (hsteps : Relation.ReflTransGen u.Unfolds type next) : next = type := by
  rcases hsteps.cases_head with heq | ⟨first, hstep, -⟩
  · exact heq.symm
  · exact absurd hstep (not_unfolds_of_plain h)

/-- A type that can be reached from a type has the same expansion. -/
theorem IsExpansion.of_steps {type next full : AttributeType} (h : u.IsExpansion type full)
    (hsteps : Relation.ReflTransGen u.Unfolds type next) : u.IsExpansion next full := by
  rcases Relation.ReflTransGen.total_of_right_unique rightUnique_unfolds h.1 hsteps with hto | hto
  · rw [eq_of_plain h.2 hto]
    exact ⟨.refl, h.2⟩
  · exact ⟨hto, h.2⟩

/-- A type is written out in one way only. -/
theorem eq_of_isExpansion {type full other : AttributeType} (h : u.IsExpansion type full)
    (hother : u.IsExpansion type other) : other = full :=
  (eq_of_plain hother.2 (h.of_steps hother.1).1).symm

/-- An array is written out by writing out the type of its elements. -/
theorem exists_element_of_steps {element full : AttributeType}
    (h : Relation.ReflTransGen u.Unfolds (.array element) full) :
    ∃ type, full = .array type ∧ Relation.ReflTransGen u.Unfolds element type := by
  induction h with
  | refl => exact ⟨element, rfl, .refl⟩
  | tail _ hstep ih =>
    obtain ⟨type, rfl, hsteps⟩ := ih
    cases hstep with
    | element hnext => exact ⟨_, rfl, hsteps.tail hnext⟩

/-- What a type stands for is found on the way to its expansion, and is no name. -/
theorem Grounded.exists_resolve (h : u.Grounded) {type : AttributeType}
    (hdeclared : u.requireDeclared type = .ok ()) :
    ∃ found, u.resolve type = .ok found ∧ (∀ name, found ≠ .user name) ∧
      u.requireDeclared found = .ok () ∧ Relation.ReflTransGen u.Unfolds type found := by
  induction type using h.wellFounded_unfolds.induction with
  | _ type ih =>
    by_cases huser : ∃ name, type = .user name
    · obtain ⟨name, rfl⟩ := huser
      obtain ⟨next, hfind⟩ := requireDeclared_eq_ok.1 hdeclared name rfl
      obtain ⟨found, hfound, hself, hdeclared', hsteps⟩ :=
        ih next (.name hfind) (h.requireDeclared_of_find? hfind)
      exact ⟨found, (h.resolve_user hfind).trans hfound, hself, hdeclared',
        hsteps.head (.name hfind)⟩
    · have hself : ∀ name, type ≠ .user name := fun name heq => huser ⟨name, heq⟩
      exact ⟨type, u.resolve_of_ne_user hself, hself, hdeclared, .refl⟩

/-- What a type stands for is the built-in type that it is written out to, or both are
    arrays. -/
theorem Grounded.resolve_cases (h : u.Grounded) {type full : AttributeType}
    (hdeclared : u.requireDeclared type = .ok ()) (hfull : u.IsExpansion type full) :
    (u.resolve type = .ok full ∧ ∀ element, full ≠ .array element) ∨
    ∃ element inner, u.resolve type = .ok (.array element) ∧ full = .array inner ∧
      u.requireDeclared element = .ok () ∧ u.IsExpansion element inner := by
  obtain ⟨found, hfound, hself, hdeclared', hsteps⟩ := h.exists_resolve hdeclared
  have hrest : u.IsExpansion found full := hfull.of_steps hsteps
  by_cases harray : ∃ element, found = .array element
  · obtain ⟨element, rfl⟩ := harray
    obtain ⟨inner, rfl, hinner⟩ := exists_element_of_steps hrest.1
    exact .inr ⟨element, inner, hfound, rfl, hdeclared', hinner, hrest.2⟩
  · -- A type that is neither a name nor an array mentions no name.
    have hplain : found.Plain := by
      cases found with
      | user name => exact absurd rfl (hself name)
      | array element => exact absurd ⟨element, rfl⟩ harray
      | _ => rfl
    have heq : full = found := eq_of_plain hplain hrest.1
    subst heq
    exact .inl ⟨hfound, fun element hfull => harray ⟨element, hfull⟩⟩

/-- Asked for a built-in type, a type and its expansion answer alike. -/
theorem Grounded.resolve_eq_iff (h : u.Grounded) {type full : AttributeType}
    (hdeclared : u.requireDeclared type = .ok ()) (hfull : u.IsExpansion type full) :
    ∃ found, u.resolve type = .ok found ∧
      ∀ builtin, (∀ element, builtin ≠ .array element) → (found = builtin ↔ full = builtin) := by
  rcases h.resolve_cases hdeclared hfull with ⟨hfound, -⟩ | ⟨element, inner, hfound, rfl, -⟩
  · exact ⟨full, hfound, fun _ _ => Iff.rfl⟩
  · refine ⟨_, hfound, fun builtin hbuiltin => ?_⟩
    constructor
    · intro heq
      exact absurd heq.symm (hbuiltin element)
    · intro heq
      exact absurd heq.symm (hbuiltin inner)

/-- A value that is no array belongs to a type iff it has the structure of the expansion. -/
theorem Grounded.conforms_iff_of_builtin (h : u.Grounded) {v : Value} {builtin : AttributeType}
    (hv : v.builtin? = some builtin) (hnot : ∀ element, builtin ≠ .array element)
    {type full : AttributeType} (hdeclared : u.requireDeclared type = .ok ())
    (hfull : u.IsExpansion type full) :
    ∃ answer, u.conforms v type = .ok answer ∧ (answer = true ↔ v.BelongsTo full) := by
  obtain ⟨found, hfound, hsame⟩ := h.resolve_eq_iff hdeclared hfull
  rw [conforms_of_builtin hv, hfound, Value.belongsTo_iff_of_builtin hv, ← hsame builtin hnot]
  exact ⟨_, rfl, decide_eq_true_iff⟩

mutual

/-- The values that belong to a type are those with the structure of its expansion. -/
theorem Grounded.conforms_iff (h : u.Grounded) : (v : Value) → (type full : AttributeType) →
    u.requireDeclared type = .ok () → u.IsExpansion type full →
      ∃ answer, u.conforms v type = .ok answer ∧ (answer = true ↔ v.BelongsTo full)
  | .bool _, _, _, hdeclared, hfull => h.conforms_iff_of_builtin rfl (by simp) hdeclared hfull
  | .int _, _, _, hdeclared, hfull => h.conforms_iff_of_builtin rfl (by simp) hdeclared hfull
  | .string _, _, _, hdeclared, hfull => h.conforms_iff_of_builtin rfl (by simp) hdeclared hfull
  | .array elements, type, full, hdeclared, hfull => by
    unfold conforms
    rw [Value.belongsTo_array_iff]
    rcases h.resolve_cases hdeclared hfull with ⟨hfound, hnot⟩ |
      ⟨element, inner, hfound, rfl, hdeclared', hinner⟩
    · -- No array belongs to a type that is written out to something else.
      refine ⟨false, ?_, ?_⟩
      · rw [hfound]
        cases full with
        | array element => exact absurd rfl (hnot element)
        | _ => rfl
      · constructor
        · intro hfalse
          cases hfalse
        · rintro ⟨element, heq, -⟩
          exact absurd heq (hnot element)
    · rw [hfound]
      obtain ⟨answer, hanswer, hiff⟩ := h.allConform_iff elements element inner hdeclared' hinner
      refine ⟨answer, hanswer, hiff.trans ?_⟩
      simp

/-- The same for all values of a list. -/
theorem Grounded.allConform_iff (h : u.Grounded) :
    (vs : List Value) → (type full : AttributeType) →
      u.requireDeclared type = .ok () → u.IsExpansion type full →
        ∃ answer, u.allConform vs type = .ok answer ∧
          (answer = true ↔ ∀ v ∈ vs, v.BelongsTo full)
  | [], type, full, hdeclared, hfull => by
    unfold allConform
    exact ⟨true, rfl, by simp⟩
  | v :: vs, type, full, hdeclared, hfull => by
    unfold allConform
    obtain ⟨first, hfirst, hv⟩ := h.conforms_iff v type full hdeclared hfull
    obtain ⟨rest, hrest, hvs⟩ := h.allConform_iff vs type full hdeclared hfull
    rw [hfirst, List.forall_mem_cons, ← hv, ← hvs]
    cases first with
    | true => exact ⟨rest, hrest, by simp⟩
    | false => exact ⟨false, rfl, by simp⟩

end

end Expansion

end UserTypes

/-! ### Schematics -/

namespace Schematic

open UserTypes

/-- The declarations of every schematic that can be built are grounded. -/
theorem Reachable.grounded {s : Schematic} (h : s.Reachable) : s.userTypes.Grounded := by
  refine h.induction (P := fun s => s.userTypes.Grounded) (fun _ => .empty) ?_
  intro s s' op ih hop
  cases op with
  | addUserType name type =>
    -- The two checks of this step are what keeps the table in order.
    obtain ⟨⟨-, hnew, hdeclared⟩, rfl⟩ := hop
    exact .declare ih hnew hdeclared
  | addPortType name type => obtain ⟨-, _, -, rfl⟩ := hop; exact ih
  | addNodeType name type => obtain ⟨-, _, -, rfl⟩ := hop; exact ih
  | addConnectionType name type => obtain ⟨-, _, -, rfl⟩ := hop; exact ih
  | addConstraintType name type => obtain ⟨-, _, -, rfl⟩ := hop; exact ih
  | addNode name type given portGiven => obtain ⟨-, _, _, -, -, rfl⟩ := hop; exact ih
  | addConnection name type source target given => obtain ⟨-, _, -, rfl⟩ := hop; exact ih
  | addConstraint name type given => obtain ⟨-, _, -, rfl⟩ := hop; exact ih

/-- **Declared types never form a cycle.** Whatever steps are taken, names cannot be replaced
    for ever: looking them up in the table ends, and so does judging a value. A type whose
    names are declared stands for a type that is no name. It can be written out without
    names in exactly one way, and the values that belong to it are those with the
    structure of what it is written out to. -/
theorem reachable_types_expand {s : Schematic} (hs : s.Reachable) :
    WellFounded (fun next type => s.userTypes.Unfolds type next) ∧
    (∀ type answer, s.userTypes.Chases type answer ↔ answer = s.userTypes.resolve type) ∧
    (∀ v type answer, s.userTypes.Judges v type answer ↔ answer = s.userTypes.conforms v type) ∧
    ∀ type, s.userTypes.requireDeclared type = .ok () →
      (∃ found, s.userTypes.resolve type = .ok found ∧ ∀ name, found ≠ .user name) ∧
      ∃ full, s.userTypes.IsExpansion type full ∧
        (∀ other, s.userTypes.IsExpansion type other → other = full) ∧
        ∀ v, ∃ answer, s.userTypes.conforms v type = .ok answer ∧
          (answer = true ↔ v.BelongsTo full) := by
  have hu : s.userTypes.Grounded := hs.grounded
  refine ⟨hu.wellFounded_unfolds, fun _ _ => hu.chases_iff, hu.judges_iff, ?_⟩
  intro type hdeclared
  obtain ⟨found, hfound, hself, -, -⟩ := hu.exists_resolve hdeclared
  obtain ⟨full, hfull⟩ := hu.exists_expansion hdeclared
  refine ⟨⟨found, hfound, hself⟩, full, hfull, ?_, ?_⟩
  · intro other hother
    exact eq_of_isExpansion hfull hother
  · intro v
    exact hu.conforms_iff v type full hdeclared hfull

/-- Three declared types. Two further declarations would each close a circle, and fail: one
    for want of the name that it declares itself, the other because the name is taken. -/
def layersSteps : List Operation :=
  [.addUserType "Level" .int, .addUserType "Trace" (.array (.user "Level")),
   .addUserType "Loop" (.user "Loop"), .addUserType "Level" (.user "Trace"),
   .addUserType "Log" (.user "Trace")]

/-- The schematic with the three types. -/
def layers : Schematic := layersSteps.foldl perform { name := "layers" }

/-- An array of logs is an array of arrays of integers, behind three names. -/
theorem reachable_types_expand_layers :
    layers.Reachable ∧ layers.userTypes.requireDeclared (.array (.user "Log")) = .ok () ∧
      layers.userTypes.IsExpansion (.array (.user "Log")) (.array (.array .int)) ∧
      layers.userTypes.conforms (.array [.array [.int 3], .array []]) (.array (.user "Log")) =
        .ok true := by
  have hreach : layers.Reachable := (Reachable.new _).foldl (by decide +kernel)
  have hlog : layers.userTypes.find? "Log" = some (.user "Trace") := by decide +kernel
  have htrace : layers.userTypes.find? "Trace" = some (.array (.user "Level")) := by
    decide +kernel
  have hlevel : layers.userTypes.find? "Level" = some .int := by decide +kernel
  have hdeclared : layers.userTypes.requireDeclared (.array (.user "Log")) = .ok () := by
    rw [requireDeclared_eq_ok]
    rintro name ⟨⟩
    exact ⟨_, hlog⟩
  obtain ⟨-, -, -, hexpand⟩ := reachable_types_expand hreach
  obtain ⟨-, full, hfull, hunique, hvalues⟩ := hexpand _ hdeclared
  have hexpansion : layers.userTypes.IsExpansion (.array (.user "Log")) (.array (.array .int)) :=
    ⟨.head (.element (.name hlog)) (.head (.element (.name htrace))
      (.head (.element (.element (.name hlevel))) .refl)), rfl⟩
  obtain ⟨answer, hanswer, hiff⟩ := hvalues (.array [.array [.int 3], .array []])
  have htrue : answer = true := by
    rw [hiff, ← hunique _ hexpansion]
    refine .array (List.forall_mem_cons.2 ⟨.array ?_, List.forall_mem_singleton.2 (.array ?_)⟩)
    · exact List.forall_mem_singleton.2 (.int 3)
    · simp
  exact ⟨hreach, hdeclared, hexpansion, htrue ▸ hanswer⟩

end Schematic

end Netlister
