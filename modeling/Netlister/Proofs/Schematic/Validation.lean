import Netlister.Proofs.Entries
import Netlister.Proofs.Schematic.Expansion

/-! # What passes validation, and what is wrong with the rest

  Validation is a loop over the given values. It looks at the name of a value, at its type
  and at whether the name was given before, in this order, and then takes the value in. Names
  of the schema without a value are looked for at the end.

  - `validate_eq_ok`: values pass iff their names are distinct and together they meet the
    schema. Order plays no part in this, nor in what comes of it (`validate_perm`).
  - `Fault`: what is wrong with a value in view of those before it. `FirstFault` is the first
    thing that is wrong with a list of values.
  - `assign_eq_error`: one step of the loop fails for the fault of its value.
  - `validate_eq_error`: so values that do not pass are refused for their first fault, as long
    as the types of the schema are declared.
-/

namespace Netlister

/-! ### Values of declared types -/

namespace UserTypes

variable {u : UserTypes} {type : AttributeType} {v : Value}

/-- The value has the structure of what the type is written out to. -/
def Admits (u : UserTypes) (type : AttributeType) (v : Value) : Prop :=
  ∃ full, u.IsExpansion type full ∧ v.BelongsTo full

/-- Every value can be judged by a declared type. -/
theorem Grounded.exists_conforms (h : u.Grounded) (hdeclared : u.requireDeclared type = .ok ())
    (v : Value) : ∃ answer, u.conforms v type = .ok answer ∧ (answer = true ↔ u.Admits type v) := by
  obtain ⟨full, hfull⟩ := h.exists_expansion hdeclared
  obtain ⟨answer, hanswer, hiff⟩ := h.conforms_iff v type full hdeclared hfull
  refine ⟨answer, hanswer, hiff.trans ?_⟩
  constructor
  · intro hv
    exact ⟨full, hfull, hv⟩
  · rintro ⟨other, hother, hv⟩
    rwa [eq_of_isExpansion hfull hother] at hv

theorem Grounded.conforms_eq_true_iff (h : u.Grounded)
    (hdeclared : u.requireDeclared type = .ok ()) :
    u.conforms v type = .ok true ↔ u.Admits type v := by
  obtain ⟨answer, hanswer, hiff⟩ := h.exists_conforms hdeclared v
  rw [hanswer, Except.ok.injEq]
  exact hiff

end UserTypes

namespace Attributes

/-! ### Values that pass -/

/-- The attributes are exactly the given values. -/
def Keeps (attributes : Attributes) (given : List (String × Value)) : Prop :=
  ∀ name value, attributes.find? name = some value ↔ (name, value) ∈ given

theorem keeps_ofList {given : List (String × Value)} (h : (given.map (·.1)).Nodup) :
    Keeps (NameMap.ofList given) given := by
  intro name value
  rw [NameMap.find?_ofList h, lookup_eq_some_iff_mem_of_nodup h]

section Validation

variable {schema : Schema} {types : UserTypes} {given : List (String × Value)}
  {attributes : Attributes}

theorem assign_eq_ok_iff {assigned after : Attributes} {g : String × Value} :
    assign schema types assigned g = .ok after ↔
      (∃ type, schema.find? g.1 = some type ∧ types.conforms g.2 type = .ok true) ∧
        assigned.find? g.1 = none ∧ after = assigned.insert g.1 g.2 := by
  constructor
  · intro h
    obtain ⟨type, htype, hconforms, hnew, hafter⟩ := assign_eq_ok h
    exact ⟨⟨type, htype, hconforms⟩, by simpa [NameMap.contains] using hnew, hafter⟩
  · rintro ⟨⟨type, htype, hconforms⟩, hnew, rfl⟩
    have hfree : assigned.contains g.1 = false := by
      simp [NameMap.contains, hnew]
    simp [assign, htype, hconforms, hfree, pure, Except.pure]

/-- Values are all taken in iff no name is given twice and each is of its declared type. -/
theorem foldlM_assign_eq_ok {after : Attributes} :
    given.foldlM (assign schema types) NameMap.empty = .ok after ↔
      (given.map (·.1)).Nodup ∧
      (∀ g ∈ given, ∃ type, schema.find? g.1 = some type ∧ types.conforms g.2 type = .ok true) ∧
      after = NameMap.ofList given := by
  -- The last value is the one that finds all others taken in.
  induction given using List.reverseRecOn generalizing after with
  | nil =>
    have hempty : (NameMap.ofList [] : Attributes) = NameMap.empty := rfl
    simp [hempty, pure, Except.pure, eq_comm]
  | append_singleton given g ih =>
    have hlast (b : Attributes) : [g].foldlM (assign schema types) b = assign schema types b g := by
      simp
    have hmore : NameMap.ofList (given ++ [g]) = (NameMap.ofList given).insert g.1 g.2 := by
      unfold NameMap.ofList
      rw [List.foldl_append]
      rfl
    have hnodup : ((given ++ [g]).map (·.1)).Nodup ↔
        (given.map (·.1)).Nodup ∧ g.1 ∉ given.map (·.1) := by
      rw [List.map_append, List.nodup_append_comm]
      simp [and_comm]
    rw [List.foldlM_append, Outcome.bind_eq_ok, hmore, hnodup]
    simp only [hlast, ih, assign_eq_ok_iff, List.forall_mem_append, List.forall_mem_singleton]
    constructor
    · rintro ⟨_, ⟨hnames, htypes, rfl⟩, htype, hnew, hafter⟩
      rw [NameMap.find?_ofList hnames, lookup_eq_none_iff_not_mem] at hnew
      exact ⟨⟨hnames, hnew⟩, ⟨htypes, htype⟩, hafter⟩
    · rintro ⟨⟨hnames, hnew⟩, ⟨htypes, htype⟩, hafter⟩
      rw [← lookup_eq_none_iff_not_mem, ← NameMap.find?_ofList hnames] at hnew
      exact ⟨_, ⟨hnames, htypes, rfl⟩, htype, hnew, hafter⟩

/-- Values pass validation iff no name is given twice and together they meet the schema. -/
theorem validate_eq_ok :
    validate schema types given = .ok attributes ↔
      (given.map (·.1)).Nodup ∧ attributes = NameMap.ofList given ∧
        Meets schema types attributes := by
  constructor
  · intro hvalid
    have hmeets : Meets schema types attributes := meets_of_validate hvalid
    obtain ⟨assigned, hfold, hrest⟩ := Outcome.bind_eq_ok.1 hvalid
    obtain ⟨hnames, -, hassigned⟩ := foldlM_assign_eq_ok.1 hfold
    split at hrest
    · cases hrest
    · cases hrest
      exact ⟨hnames, hassigned, hmeets⟩
  · rintro ⟨hnames, rfl, hmeets⟩
    have htypes : ∀ g ∈ given, ∃ type, schema.find? g.1 = some type ∧
        types.conforms g.2 type = .ok true := by
      intro g hg
      exact hmeets.declared g.1 g.2 ((keeps_ofList hnames g.1 g.2).2 hg)
    have hfold : given.foldlM (assign schema types) NameMap.empty = .ok (NameMap.ofList given) :=
      foldlM_assign_eq_ok.2 ⟨hnames, htypes, rfl⟩
    have hnone : schema.names.find? (fun name => !(NameMap.ofList given).contains name) = none := by
      rw [List.find?_eq_none]
      intro name hname
      obtain ⟨type, htype⟩ := NameMap.mem_names_iff.1 hname
      obtain ⟨value, hvalue⟩ := hmeets.complete name type htype
      simp [NameMap.contains, hvalue]
    unfold validate
    rw [hfold, Outcome.ok_bind, hnone]
    rfl

/-- Attributes that pass validation are the given values, no more and no less. -/
theorem keeps_of_validate (h : validate schema types given = .ok attributes) :
    attributes.Keeps given := by
  obtain ⟨hnames, rfl, -⟩ := validate_eq_ok.1 h
  exact keeps_ofList hnames

/-- In which order values are given does not matter for those that pass. -/
theorem validate_perm {other : List (String × Value)} (h : given.Perm other) :
    validate schema types given = .ok attributes ↔
      validate schema types other = .ok attributes := by
  have hnames : (given.map (·.1)).Nodup ↔ (other.map (·.1)).Nodup := (h.map _).nodup_iff
  rw [validate_eq_ok, validate_eq_ok, ← hnames]
  refine and_congr_right fun hnodup => ?_
  have hsame : NameMap.ofList given = NameMap.ofList other := by
    apply NameMap.eq_of_find?_eq
    intro name
    rw [NameMap.find?_ofList hnodup, NameMap.find?_ofList (hnames.1 hnodup),
      lookup_eq_of_perm hnodup h]
  rw [hsame]

end Validation

/-! ### Faults -/

/-- What is wrong with a value, in view of those before it. An unknown name counts before a
    value of another type, and that before a name that was given already. -/
inductive Fault (schema : Schema) (types : UserTypes) (before : List (String × Value))
    (g : String × Value) : Schematic.Error → Prop where
  | unknown : schema.find? g.1 = none → Fault schema types before g (.invalidAttribute g.1)
  | mistyped {type : AttributeType} : schema.find? g.1 = some type →
      ¬ types.Admits type g.2 → Fault schema types before g (.typeMismatch g.1 type g.2)
  | repeated {type : AttributeType} : schema.find? g.1 = some type → types.Admits type g.2 →
      g.1 ∈ before.map (·.1) → Fault schema types before g (.multipleAssignment .attr g.1)

/-- Nothing is wrong with any of the values. -/
def Faultless (schema : Schema) (types : UserTypes) (given : List (String × Value)) : Prop :=
  ∀ before g after e, given = before ++ g :: after → ¬ Fault schema types before g e

/-- The first thing that is wrong with the values: the fault of the first that has one, or
    else the least name of the schema that has no value. -/
inductive FirstFault (schema : Schema) (types : UserTypes) (given : List (String × Value)) :
    Schematic.Error → Prop where
  | value {before after : List (String × Value)} {g : String × Value} {e : Schematic.Error} :
      given = before ++ g :: after → Faultless schema types before →
      Fault schema types before g e → FirstFault schema types given e
  | missing {name : String} : Faultless schema types given → name ∈ schema.names →
      name ∉ given.map (·.1) →
      (∀ other ∈ schema.names, other ∉ given.map (·.1) → name ≤ other) →
      FirstFault schema types given (.undeclaredAttribute name)

/-- The values are those of the schema: one for each name, of its type. -/
structure Fits (schema : Schema) (types : UserTypes) (given : List (String × Value)) : Prop where
  distinct : (given.map (·.1)).Nodup
  names : ∀ name, name ∈ given.map (·.1) ↔ name ∈ schema.names
  values : ∀ g ∈ given, ∀ type, schema.find? g.1 = some type → types.Admits type g.2

section Faults

variable {schema : Schema} {types : UserTypes} {before given : List (String × Value)}
  {g : String × Value} {e : Schematic.Error}

/-- What can be wrong with a value whose name is known. -/
theorem fault_iff_of_find? {type : AttributeType} (h : schema.find? g.1 = some type) :
    Fault schema types before g e ↔
      ¬ types.Admits type g.2 ∧ e = .typeMismatch g.1 type g.2 ∨
        types.Admits type g.2 ∧ g.1 ∈ before.map (·.1) ∧ e = .multipleAssignment .attr g.1 := by
  constructor
  · intro hfault
    cases hfault with
    | unknown hnone =>
      rw [h] at hnone
      cases hnone
    | mistyped htype hnot =>
      cases h.symm.trans htype
      exact .inl ⟨hnot, rfl⟩
    | repeated htype hadmits hgiven =>
      cases h.symm.trans htype
      exact .inr ⟨hadmits, hgiven, rfl⟩
  · rintro (⟨hnot, rfl⟩ | ⟨hadmits, hgiven, rfl⟩)
    · exact .mistyped h hnot
    · exact .repeated h hadmits hgiven

variable (hu : types.Grounded)
  (hschema : ∀ name type, schema.find? name = some type → types.requireDeclared type = .ok ())

include hu hschema

/-- A value is refused for its fault, if those before it have been taken in. -/
theorem assign_eq_error (hnames : (before.map (·.1)).Nodup) :
    assign schema types (NameMap.ofList before) g = .error e ↔ Fault schema types before g e := by
  have hgiven : (NameMap.ofList before).contains g.1 = true ↔ g.1 ∈ before.map (·.1) := by
    rw [NameMap.contains, NameMap.find?_ofList hnames, Option.isSome_iff_ne_none, ne_eq,
      lookup_eq_none_iff_not_mem, not_not]
  unfold assign
  cases hfind : schema.find? g.1 with
  | none =>
    constructor
    · intro h
      cases h
      exact .unknown hfind
    · intro h
      cases h with
      | unknown => rfl
      | mistyped htype => cases hfind.symm.trans htype
      | repeated htype => cases hfind.symm.trans htype
  | some type =>
    obtain ⟨answer, hanswer, hadmits⟩ := hu.exists_conforms (hschema _ _ hfind) g.2
    rw [fault_iff_of_find? hfind, ← hadmits, ← hgiven]
    simp only [hanswer, Outcome.ok_bind]
    cases answer with
    | false => simp [throw, throwThe, MonadExceptOf.throw, bind, Except.bind, @eq_comm _ e]
    | true =>
      cases (NameMap.ofList before).contains g.1 with
      | false => simp [pure, Except.pure]
      | true => simp [throw, throwThe, MonadExceptOf.throw, bind, Except.bind, @eq_comm _ e]

/-- Values are all taken in iff none of them has a fault. -/
theorem faultless_iff_foldlM :
    Faultless schema types given ↔
      ∃ after, given.foldlM (assign schema types) NameMap.empty = .ok after := by
  constructor
  · intro hfaultless
    by_contra hfails
    obtain ⟨e, he⟩ := Outcome.exists_error hfails
    obtain ⟨before, g, after, assigned, rfl, hbefore, hg⟩ := Outcome.foldlM_eq_error.1 he
    obtain ⟨hnames, -, rfl⟩ := foldlM_assign_eq_ok.1 hbefore
    exact hfaultless before g after e rfl ((assign_eq_error hu hschema hnames).1 hg)
  · rintro ⟨attributes, hfold⟩ before g after e rfl hfault
    rw [List.foldlM_append, Outcome.bind_eq_ok] at hfold
    obtain ⟨assigned, hbefore, hrest⟩ := hfold
    obtain ⟨hnames, -, rfl⟩ := foldlM_assign_eq_ok.1 hbefore
    rw [List.foldlM_cons, (assign_eq_error hu hschema hnames).2 hfault] at hrest
    cases hrest

theorem foldlM_assign_eq_error :
    given.foldlM (assign schema types) NameMap.empty = .error e ↔
      ∃ before g after, given = before ++ g :: after ∧ Faultless schema types before ∧
        Fault schema types before g e := by
  rw [Outcome.foldlM_eq_error]
  constructor
  · rintro ⟨before, g, after, assigned, hsplit, hbefore, hg⟩
    obtain ⟨hnames, -, rfl⟩ := foldlM_assign_eq_ok.1 hbefore
    exact ⟨before, g, after, hsplit, (faultless_iff_foldlM hu hschema).2 ⟨_, hbefore⟩,
      (assign_eq_error hu hschema hnames).1 hg⟩
  · rintro ⟨before, g, after, hsplit, hfaultless, hfault⟩
    obtain ⟨assigned, hbefore⟩ := (faultless_iff_foldlM hu hschema).1 hfaultless
    obtain ⟨hnames, -, rfl⟩ := foldlM_assign_eq_ok.1 hbefore
    exact ⟨before, g, after, _, hsplit, hbefore, (assign_eq_error hu hschema hnames).2 hfault⟩

/-- Values that do not pass are refused for their first fault. -/
theorem validate_eq_error :
    validate schema types given = .error e ↔ FirstFault schema types given e := by
  have hascending : schema.names.Pairwise (fun a b => id a < id b) :=
    List.pairwise_map.2 schema.ascending
  -- The name that is missed is the least that is missing.
  have hmissed (hnames : (given.map (·.1)).Nodup) {name : String} :
      schema.names.find? (fun name => !(NameMap.ofList given).contains name) = some name ↔
        name ∈ schema.names ∧ name ∉ given.map (·.1) ∧
          ∀ other ∈ schema.names, other ∉ given.map (·.1) → name ≤ other := by
    rw [NameMap.find?_eq_some_iff_least hascending]
    simp only [NameMap.contains, NameMap.find?_ofList hnames, Bool.not_eq_true',
      Option.isSome_eq_false_iff, Option.isNone_iff_eq_none, lookup_eq_none_iff_not_mem, id_eq]
  unfold validate
  rw [Outcome.bind_eq_error, foldlM_assign_eq_error hu hschema]
  constructor
  · rintro (⟨before, g, after, hsplit, hfaultless, hfault⟩ | ⟨assigned, hfold, hrest⟩)
    · exact .value hsplit hfaultless hfault
    · obtain ⟨hnames, -, rfl⟩ := foldlM_assign_eq_ok.1 hfold
      split at hrest
      · next name hname =>
        cases hrest
        obtain ⟨hmem, hnot, hleast⟩ := (hmissed hnames).1 hname
        exact .missing ((faultless_iff_foldlM hu hschema).2 ⟨_, hfold⟩) hmem hnot hleast
      · cases hrest
  · intro h
    cases h with
    | value hsplit hfaultless hfault => exact .inl ⟨_, _, _, hsplit, hfaultless, hfault⟩
    | missing hfaultless hmem hnot hleast =>
      obtain ⟨assigned, hfold⟩ := (faultless_iff_foldlM hu hschema).1 hfaultless
      obtain ⟨hnames, -, rfl⟩ := foldlM_assign_eq_ok.1 hfold
      refine .inr ⟨_, hfold, ?_⟩
      rw [(hmissed hnames).2 ⟨hmem, hnot, hleast⟩]
      rfl

/-- Which values pass. -/
theorem exists_validate_iff :
    (∃ attributes, validate schema types given = .ok attributes) ↔ Fits schema types given := by
  constructor
  · rintro ⟨attributes, hvalid⟩
    have hkeeps := keeps_of_validate hvalid
    obtain ⟨hnames, -, hmeets⟩ := validate_eq_ok.1 hvalid
    refine ⟨hnames, fun name => ?_, fun g hg type htype => ?_⟩
    · rw [NameMap.mem_names_iff, List.mem_map]
      constructor
      · rintro ⟨g, hg, rfl⟩
        obtain ⟨type, htype, -⟩ := hmeets.declared g.1 g.2 ((hkeeps _ _).2 hg)
        exact ⟨type, htype⟩
      · rintro ⟨type, htype⟩
        obtain ⟨value, hvalue⟩ := hmeets.complete name type htype
        exact ⟨(name, value), (hkeeps _ _).1 hvalue, rfl⟩
    · obtain ⟨found, hfound, hconforms⟩ := hmeets.declared g.1 g.2 ((hkeeps _ _).2 hg)
      cases htype.symm.trans hfound
      exact (hu.conforms_eq_true_iff (hschema _ _ htype)).1 hconforms
  · rintro ⟨hnames, hsame, hvalues⟩
    have hkeeps := keeps_ofList hnames
    refine ⟨NameMap.ofList given, validate_eq_ok.2 ⟨hnames, rfl, ?_, ?_⟩⟩
    · intro name value hvalue
      have hg : (name, value) ∈ given := (hkeeps _ _).1 hvalue
      obtain ⟨type, htype⟩ := NameMap.mem_names_iff.1
        ((hsame name).1 (List.mem_map.2 ⟨_, hg, rfl⟩))
      exact ⟨type, htype,
        (hu.conforms_eq_true_iff (hschema _ _ htype)).2 (hvalues _ hg type htype)⟩
    · intro name type htype
      obtain ⟨⟨_, value⟩, hg, rfl⟩ := List.mem_map.1
        ((hsame name).2 (NameMap.mem_names_iff.2 ⟨type, htype⟩))
      exact ⟨value, (hkeeps _ _).2 hg⟩

end Faults

end Attributes

namespace Schematic

open Attributes

/-- **What passes validation.** Values are accepted iff there is exactly one for each name of
    the schema and each is of its declared type. They then come to attributes that are these
    values and nothing else, in whatever order they are given. Otherwise the error is that of
    the first value that is unknown, of another type or repeated, asked in this order, and
    only if there is none that of the least name without a value. -/
theorem validate_exact {s : Schematic} (hs : s.Reachable) {schema : Schema}
    (hschema : ∀ name type, schema.find? name = some type →
      s.userTypes.requireDeclared type = .ok ()) (given : List (String × Value)) :
    ((∃ attributes, validate schema s.userTypes given = .ok attributes) ↔
      Fits schema s.userTypes given) ∧
    (∀ attributes, validate schema s.userTypes given = .ok attributes → attributes.Keeps given) ∧
    (∀ other, given.Perm other → ∀ attributes,
      validate schema s.userTypes given = .ok attributes ↔
        validate schema s.userTypes other = .ok attributes) ∧
    ∀ e, validate schema s.userTypes given = .error e ↔ FirstFault schema s.userTypes given e :=
  ⟨exists_validate_iff hs.grounded hschema, fun _ => keeps_of_validate,
    fun _ hperm _ => validate_perm hperm, fun _ => validate_eq_error hs.grounded hschema⟩

/-- A gain, and what was recorded with it. -/
def recording : Schema := .ofList [("gain", .user "Level"), ("log", .user "Log")]

/-- A log may be given before the gain. A second gain that is no level is refused for its
    type and not for being the second, and also not for the name that comes after it. -/
theorem validate_exact_recording :
    layers.Reachable ∧
    (∀ name type, recording.find? name = some type →
      layers.userTypes.requireDeclared type = .ok ()) ∧
    Fits recording layers.userTypes [("log", .array [.int 3]), ("gain", .int 2)] ∧
    validate recording layers.userTypes [("gain", .int 2), ("log", .array [.int 3])] =
      .ok (.ofList [("gain", .int 2), ("log", .array [.int 3])]) ∧
    FirstFault recording layers.userTypes
      [("gain", .int 2), ("gain", .string "loud"), ("pitch", .int 1)]
      (.typeMismatch "gain" (.user "Level") (.string "loud")) := by
  have hreach : layers.Reachable := (Reachable.new _).foldl (by decide +kernel)
  have hschema : ∀ name type, recording.find? name = some type →
      layers.userTypes.requireDeclared type = .ok () := by
    intro name type htype
    have hmem : (name, type) ∈ [("gain", .user "Level"), ("log", AttributeType.user "Log")] :=
      NameMap.find?_eq_some_iff.1 htype
    simp only [List.mem_cons, List.not_mem_nil, or_false, Prod.mk.injEq] at hmem
    obtain ⟨-, rfl⟩ | ⟨-, rfl⟩ := hmem
    · rfl
    · rfl
  have hvalid : validate recording layers.userTypes [("log", .array [.int 3]), ("gain", .int 2)] =
      .ok (.ofList [("gain", .int 2), ("log", .array [.int 3])]) := by
    rfl
  obtain ⟨hfits, -, hperm, -⟩ :=
    validate_exact hreach hschema [("log", .array [.int 3]), ("gain", .int 2)]
  obtain ⟨-, -, -, hfault⟩ := validate_exact hreach hschema
    [("gain", .int 2), ("gain", .string "loud"), ("pitch", .int 1)]
  exact ⟨hreach, hschema, hfits.1 ⟨_, hvalid⟩, (hperm _ (.swap _ _ _) _).1 hvalid,
    (hfault _).1 rfl⟩

end Schematic

end Netlister
