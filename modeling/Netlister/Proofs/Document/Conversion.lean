import Netlister.Proofs.Document.Readable

/-! # JSON as attribute values

  Attribute values are written as JSON. Not all JSON is an attribute value: null, objects and
  numbers that are no signed 64-bit integers are none, and neither are arrays that have one of
  these inside, at any depth.

  - `Json.toValue_eq_ok_iff`: what is an attribute value is one of the same shape, with the
    same truth values, integers and strings (`Json.Mirrors`).
  - `Json.eq_toJson_of_mirrors`: so nothing is lost, the JSON can be told from the value.
  - `Json.firstOffence_of_toValue`: what is none is reported by the first value inside that
    keeps it from being one. Positions inside are compared like the words of a dictionary,
    which is the order of a walk into each array from left to right.

  `attributeValue_lossless` says this for the attributes of a document.
-/

namespace Netlister

namespace Json

/-! ### Numbers -/

/-- The integer that a number was kept as. A float is none, even where it is integral. -/
def Number.integer? : Number → Option Int
  | int n => some n.toInt
  | large n => some n.val.toNat
  | float _ => none

/-- The number was kept as an integer, and it is in the signed 64-bit range. -/
def Number.Signed (n : Number) : Prop :=
  ∃ i, n.integer? = some i ∧ -(signedLimit : Int) ≤ i ∧ i < signedLimit

theorem Number.signed_int (n : Int64) : (Number.int n).Signed :=
  ⟨n.toInt, rfl, n.le_toInt, n.toInt_lt⟩

theorem Number.not_signed_large (n : { n : UInt64 // signedLimit ≤ n.toNat }) :
    ¬ (Number.large n).Signed := by
  rintro ⟨i, hi, -, hlt⟩
  cases hi
  exact absurd n.property (Nat.not_le.2 (Int.ofNat_lt.1 hlt))

theorem Number.not_signed_float (x : Float) : ¬ (Number.float x).Signed := by
  rintro ⟨i, hi, -⟩
  cases hi

/-! ### Values inside arrays -/

/-- What holds of arrays if it holds of their elements, and of all other values, holds of
    every value. -/
theorem arrayInduction {P : Json → Prop} (single : ∀ j, (∀ elements, j ≠ .array elements) → P j)
    (array : ∀ elements, (∀ j ∈ elements, P j) → P (.array elements)) (j : Json) : P j := by
  cases j with
  | array elements => exact array elements fun j _ => arrayInduction single array j
  | _ => exact single _ (by simp)
termination_by j

/-- What stands at a position: which element to go to, array by array. Objects are not
    entered. -/
def at? : Json → List Nat → Option Json
  | j, [] => some j
  | .array elements, i :: path => elements[i]?.bind fun j => j.at? path
  | _, _ :: _ => none

theorem at?_nil (j : Json) : j.at? [] = some j := by
  unfold at?
  rfl

theorem at?_cons_eq_some_iff {j l : Json} {i : Nat} {path : List Nat} :
    j.at? (i :: path) = some l ↔
      ∃ elements e, j = .array elements ∧ elements[i]? = some e ∧ e.at? path = some l := by
  cases j with
  | array elements => simp [at?, Option.bind_eq_some_iff]
  | _ => simp [at?]

/-- The first position comes before the second, from left to right. -/
def Earlier (path other : List Nat) : Prop := List.Lex (· < ·) path other

/-! ### What is no attribute value -/

/-- A value other than an array is no attribute value. -/
inductive Offends : Json → Prop where
  | null : Offends .null
  | object (members : List (String × Json)) : Offends (.object members)
  | number {n : Number} : ¬ n.Signed → Offends (.number n)

theorem Offends.ne_array {j : Json} (h : j.Offends) (elements : List Json) :
    j ≠ .array elements := by
  rintro rfl
  cases h

/-- The value offends inside the whole, and all others that do so come later. -/
def FirstOffence (j l : Json) : Prop :=
  ∃ path, j.at? path = some l ∧ l.Offends ∧
    ∀ other l', j.at? other = some l' → l'.Offends → other = path ∨ Earlier path other

theorem toValues_eq_mapM (js : List Json) : toValues js = js.mapM toValue := by
  induction js with
  | nil => rfl
  | cons j js ih => rw [toValues, List.mapM_cons, ih]

theorem toValue_array (elements : List Json) :
    (Json.array elements).toValue = (elements.mapM toValue).map .array := by
  rw [toValue, toValues_eq_mapM]

/-- A value other than an array is an attribute value unless it offends, and is then the
    error itself. -/
theorem toValue_single {j : Json} (h : ∀ elements, j ≠ .array elements) :
    (¬ j.Offends ∧ ∃ v, j.toValue = .ok v) ∨ (j.Offends ∧ j.toValue = .error j) := by
  cases j with
  | null => exact .inr ⟨.null, rfl⟩
  | object members => exact .inr ⟨.object members, rfl⟩
  | bool b => exact .inl ⟨nofun, .bool b, rfl⟩
  | string s => exact .inl ⟨nofun, .string s, rfl⟩
  | number n =>
    cases n with
    | int n =>
      refine .inl ⟨?_, .int n, rfl⟩
      rintro ⟨⟩
      exact absurd (Number.signed_int n) ‹_›
    | large n => exact .inr ⟨.number (Number.not_signed_large n), rfl⟩
    | float x => exact .inr ⟨.number (Number.not_signed_float x), rfl⟩
  | array elements => exact absurd rfl (h elements)

/-- Nothing offends inside an attribute value. -/
theorem not_offends_of_toValue {j l : Json} {v : Value} {path : List Nat}
    (h : j.toValue = .ok v) (hl : j.at? path = some l) : ¬ l.Offends := by
  induction path generalizing j v with
  | nil =>
    rw [at?_nil] at hl
    cases hl
    intro hoffends
    rcases toValue_single hoffends.ne_array with ⟨hnot, -⟩ | ⟨-, herror⟩
    · exact hnot hoffends
    · rw [h] at herror
      cases herror
  | cons i path ih =>
    obtain ⟨elements, e, rfl, he, hl⟩ := at?_cons_eq_some_iff.1 hl
    rw [toValue_array] at h
    obtain ⟨vs, hvs, -⟩ := Outcome.map_eq_ok.1 h
    obtain ⟨w, hw⟩ := Outcome.exists_mapM.1 ⟨vs, hvs⟩ e (List.mem_of_getElem? he)
    exact ih hw hl

/-- What comes first inside an element comes first inside the array, if nothing offends inside
    the elements before. -/
theorem FirstOffence.element {before after : List Json} {e l : Json}
    (hbefore : ∀ j ∈ before, ∀ path l', j.at? path = some l' → ¬ l'.Offends)
    (h : e.FirstOffence l) : (Json.array (before ++ e :: after)).FirstOffence l := by
  obtain ⟨path, hpath, hoffends, hfirst⟩ := h
  refine ⟨before.length :: path, ?_, hoffends, ?_⟩
  · exact at?_cons_eq_some_iff.2 ⟨_, e, rfl, by simp, hpath⟩
  intro other l' hother hoffends'
  cases other with
  | nil =>
    -- The array itself is not what offends.
    rw [at?_nil] at hother
    cases hother
    exact absurd rfl (hoffends'.ne_array _)
  | cons k other =>
    obtain ⟨_, e', heq, he', hl'⟩ := at?_cons_eq_some_iff.1 hother
    cases heq
    -- The other position leads to a later element, to this one, or to one before it.
    rcases Nat.lt_trichotomy before.length k with hlt | rfl | hgt
    · exact .inr (.rel hlt)
    · have hsame : e = e' := by simpa using he'
      subst hsame
      rcases hfirst other l' hl' hoffends' with rfl | hearlier
      · exact .inl rfl
      · exact .inr (.cons hearlier)
    · rw [List.getElem?_append_left hgt] at he'
      exact absurd hoffends' (hbefore e' (List.mem_of_getElem? he') other l' hl')

/-- The error is the first value inside that offends. -/
theorem firstOffence_of_toValue {j l : Json} (h : j.toValue = .error l) : j.FirstOffence l := by
  induction j using arrayInduction with
  | single j hj =>
    rcases toValue_single hj with ⟨-, v, hv⟩ | ⟨hoffends, herror⟩
    · rw [h] at hv
      cases hv
    · rw [h] at herror
      cases herror
      refine ⟨[], at?_nil l, hoffends, ?_⟩
      intro other l' _ _
      cases other with
      | nil => exact .inl rfl
      | cons i path => exact .inr .nil
  | array elements ih =>
    rw [toValue_array, Outcome.map_eq_error] at h
    -- The elements before the one that fails are attribute values, so nothing offends there.
    obtain ⟨before, e, after, rfl, hbefore, he⟩ := Outcome.mapM_eq_error.1 h
    refine FirstOffence.element ?_ (ih e (by simp) he)
    intro j hj path l' hl'
    obtain ⟨v, hv⟩ := hbefore j hj
    exact not_offends_of_toValue hv hl'

/-! ### The same in JSON and as an attribute value -/

/-- The value has the shape of the JSON, with the same truth values, integers and strings. -/
inductive Mirrors : Json → Value → Prop where
  | bool (b : Bool) : Mirrors (.bool b) (.bool b)
  | int {n : Number} {i : Int64} : n.integer? = some i.toInt → Mirrors (.number n) (.int i)
  | string (s : String) : Mirrors (.string s) (.string s)
  | array {js : List Json} {vs : List Value} :
      List.Forall₂ Mirrors js vs → Mirrors (.array js) (.array vs)

theorem mirrors_number_iff {n : Number} {v : Value} :
    (Json.number n).Mirrors v ↔ ∃ i, n = .int i ∧ v = .int i := by
  constructor
  · rintro ⟨⟩
    next i hi =>
    -- An unsigned number beyond the signed range is no signed one, so its value is another.
    have hsigned : n.Signed := ⟨i.toInt, hi, i.le_toInt, i.toInt_lt⟩
    cases n with
    | int n => exact ⟨n, rfl, congrArg _ (Int64.toInt_inj.1 (Option.some.inj hi)).symm⟩
    | large n => exact absurd hsigned (Number.not_signed_large n)
    | float x => cases hi
  · rintro ⟨i, rfl, rfl⟩
    exact .int rfl

/-- Lists stay related by what follows from the relation for the members of the first. -/
theorem forall₂_imp_of_mem {R S : Json → Value → Prop} {js : List Json} {vs : List Value}
    (h : ∀ j ∈ js, ∀ v, R j v → S j v) (hR : List.Forall₂ R js vs) : List.Forall₂ S js vs :=
  ((List.forall₂_and_left js vs).2 ⟨h, hR⟩).imp fun _ v hj => hj.1 v hj.2

/-- JSON is the attribute value of the same shape. -/
theorem toValue_eq_ok_iff {j : Json} {v : Value} : j.toValue = .ok v ↔ j.Mirrors v := by
  induction j using arrayInduction generalizing v with
  | single j hj =>
    cases j with
    | null => exact ⟨nofun, nofun⟩
    | object members => exact ⟨nofun, nofun⟩
    | bool b =>
      constructor
      · rintro ⟨⟩
        exact .bool b
      · rintro ⟨⟩
        rfl
    | string s =>
      constructor
      · rintro ⟨⟩
        exact .string s
      · rintro ⟨⟩
        rfl
    | number n =>
      rw [mirrors_number_iff]
      cases n with
      | int n => simp [toValue, eq_comm]
      | large n => simp [toValue]
      | float x => simp [toValue]
    | array elements => exact absurd rfl (hj elements)
  | array elements ih =>
    rw [toValue_array, Outcome.map_eq_ok]
    constructor
    · rintro ⟨vs, hvs, rfl⟩
      exact .array (forall₂_imp_of_mem (fun j hj v => (ih j hj).1) (Outcome.mapM_eq_ok.1 hvs))
    · rintro (_ | _ | _ | hvs)
      exact ⟨_, Outcome.mapM_eq_ok.2 (forall₂_imp_of_mem (fun j hj v => (ih j hj).2) hvs), rfl⟩

theorem toJson_array (vs : List Value) : (Value.array vs).toJson = .array (vs.map Value.toJson) := by
  have helements : elementsToJson (Value.toTrees vs) = vs.map Value.toJson := by
    induction vs with
    | nil => rfl
    | cons v vs ih => rw [Value.toTrees, elementsToJson, ih, List.map_cons, Value.toJson]
  rw [Value.toJson, Value.toTree, Tree.toJson, helements]

/-- The JSON can be told from the value of the same shape. -/
theorem eq_toJson_of_mirrors {j : Json} {v : Value} (h : j.Mirrors v) : j = v.toJson := by
  induction j using arrayInduction generalizing v with
  | single j hj =>
    cases j with
    | null => cases h
    | object members => cases h
    | bool b =>
      cases h
      rfl
    | string s =>
      cases h
      rfl
    | number n =>
      obtain ⟨i, rfl, rfl⟩ := mirrors_number_iff.1 h
      rfl
    | array elements => exact absurd rfl (hj elements)
  | array elements ih =>
    obtain _ | _ | _ | hvs := h
    next vs =>
    have hmap : List.Forall₂ (fun j v => j = Value.toJson v) elements vs :=
      forall₂_imp_of_mem (fun j hj v hv => ih j hj hv) hvs
    rw [← List.forall₂_map_right_iff, List.forall₂_eq_eq_eq] at hmap
    rw [toJson_array, hmap]

end Json

/-! ### Attributes of documents -/

namespace Document

/-- **Attribute values lose nothing of their JSON.** JSON is taken for an attribute value iff
    no null, no object and no number outside the signed 64-bit integers stands inside it, at
    any depth of arrays. The value then has the same shape, with the same truth values, integers
    and strings; so different JSON gives different values, and every value comes from some.
    Otherwise the error names the attribute and shows the first value that offends, from left to
    right, and not an array around it. -/
theorem attributeValue_lossless (name : String) :
    (∀ j, (∃ v, attributeValue name j = .ok v) ↔
      ∀ path l, j.at? path = some l → ¬ l.Offends) ∧
    (∀ j v, attributeValue name j = .ok v ↔ j.Mirrors v) ∧
    (∀ j j' v, attributeValue name j = .ok v → attributeValue name j' = .ok v → j = j') ∧
    (∀ v, ∃ j, attributeValue name j = .ok v) ∧
    ∀ j path l, j.at? path = some l → l.Offends →
      ∃ first, j.FirstOffence first ∧ (∀ elements, first ≠ .array elements) ∧
        attributeValue name j = .error (.unsupportedValue name first) ∧
        (Error.unsupportedValue name first).message =
          "attribute '" ++ name ++ "' has unsupported value " ++ first.text := by
  have hmirrors (j : Json) (v : Value) : attributeValue name j = .ok v ↔ j.Mirrors v :=
    Outcome.mapError_eq_ok.trans Json.toValue_eq_ok_iff
  have hnone {j : Json} {v : Value} (hv : attributeValue name j = .ok v) (path : List Nat)
      (l : Json) (hl : j.at? path = some l) : ¬ l.Offends :=
    Json.not_offends_of_toValue (Outcome.mapError_eq_ok.1 hv) hl
  have hfails {j : Json} (hj : ¬ ∃ v, attributeValue name j = .ok v) :
      ∃ first, j.FirstOffence first ∧
        attributeValue name j = .error (.unsupportedValue name first) := by
    obtain ⟨e, he⟩ := Outcome.exists_error hj
    obtain ⟨first, hfirst, rfl⟩ := Outcome.mapError_eq_error.1 he
    exact ⟨first, Json.firstOffence_of_toValue hfirst, he⟩
  refine ⟨?_, hmirrors, ?_, ?_, ?_⟩
  · intro j
    constructor
    · rintro ⟨v, hv⟩
      exact hnone hv
    · intro hclean
      by_contra hj
      obtain ⟨first, ⟨path, hpath, hoffends, -⟩, -⟩ := hfails hj
      exact hclean path first hpath hoffends
  · intro j j' v hj hj'
    rw [Json.eq_toJson_of_mirrors ((hmirrors j v).1 hj),
      Json.eq_toJson_of_mirrors ((hmirrors j' v).1 hj')]
  · intro v
    exact ⟨v.toJson, Outcome.mapError_eq_ok.2 v.toValue_toJson⟩
  · intro j path l hl hoffends
    have hj : ¬ ∃ v, attributeValue name j = .ok v := fun ⟨v, hv⟩ => hnone hv path l hl hoffends
    obtain ⟨first, hfirst, herror⟩ := hfails hj
    have harray : ∀ elements, first ≠ .array elements := by
      obtain ⟨_, -, hoffends', -⟩ := hfirst
      exact hoffends'.ne_array
    exact ⟨first, hfirst, harray, herror, rfl⟩

/-- An array with two values inside that offend. The first, deeper inside, is the least number
    beyond the signed range. -/
def ragged : Json :=
  .array [.bool true, .array [.array [], .number (.large ⟨0x8000000000000000, Nat.le_refl _⟩)],
    .null]

/-- An array that is an attribute value, as it stands. -/
def nested : Json := .array [.array [.number (.int (-1))], .array [], .string "a"]

/-- The number is reported, by its text, and neither null nor an array. -/
theorem attributeValue_lossless_ragged :
    (ragged.at? [2] = some .null ∧ Json.Offends .null) ∧
      ragged.FirstOffence (.number (.large ⟨0x8000000000000000, Nat.le_refl _⟩)) ∧
      attributeValue "x" nested =
        .ok (.array [.array [.int (-1)], .array [], .string "a"]) ∧
      ∀ j, attributeValue "x" j = .ok (.array [.array [.int (-1)], .array [], .string "a"]) →
        j = nested := by
  obtain ⟨-, -, hinjective, -, hfails⟩ := attributeValue_lossless "x"
  have hnull : ragged.at? [2] = some .null := rfl
  have hnested : attributeValue "x" nested =
      .ok (.array [.array [.int (-1)], .array [], .string "a"]) := rfl
  obtain ⟨first, hfirst, -, herror, -⟩ := hfails ragged [2] .null hnull .null
  have hreported : attributeValue "x" ragged = .error (.unsupportedValue "x"
      (.number (.large ⟨0x8000000000000000, Nat.le_refl _⟩))) := rfl
  rw [hreported] at herror
  cases herror
  exact ⟨⟨hnull, .null⟩, hfirst, hnested, fun j hj => hinjective j nested _ hj hnested⟩

end Document

end Netlister
