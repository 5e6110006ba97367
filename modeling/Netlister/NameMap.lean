/-! # Finite maps from names, in ascending order

  A `NameMap α` is a list of entries whose names strictly ascend in code point
  order. The order is part of the type, so:

  - every listing of a map is in name order;
  - a name has at most one entry;
  - two maps that answer every look-up alike are the same map.
-/

namespace Netlister

/-- A finite map from names; its entries ascend strictly by name. -/
structure NameMap (α : Type) where
  /-- The entries, in ascending order of the name. -/
  entries : List (String × α)
  /-- Names ascend strictly, so none occurs twice. -/
  ascending : entries.Pairwise (fun a b => a.1 < b.1)
deriving DecidableEq

namespace NameMap

variable {α β : Type}

/-! ### Insertion into a list of entries -/

/-- Puts an entry at its place by name; an entry of the same name is replaced. -/
def insertEntry (name : String) (value : α) : List (String × α) → List (String × α)
  | [] => [(name, value)]
  | (other, old) :: rest =>
    if name < other then (name, value) :: (other, old) :: rest
    else if name = other then (name, value) :: rest
    else (other, old) :: insertEntry name value rest

/-- Insertion brings in no entry but the inserted one. -/
theorem mem_of_mem_insertEntry {name : String} {value : α} {e : String × α} :
    ∀ {es : List (String × α)}, e ∈ insertEntry name value es → e = (name, value) ∨ e ∈ es
  | [], h => by simpa [insertEntry] using h
  | (other, old) :: rest, h => by
    unfold insertEntry at h
    split at h
    · simpa using h
    · split at h
      · rcases List.mem_cons.1 h with h | h
        · exact .inl h
        · exact .inr (List.mem_cons_of_mem _ h)
      · rcases List.mem_cons.1 h with h | h
        · exact .inr (h ▸ List.mem_cons_self)
        · rcases mem_of_mem_insertEntry h with h | h
          · exact .inl h
          · exact .inr (List.mem_cons_of_mem _ h)

/-- Insertion keeps the names in strictly ascending order. -/
theorem pairwise_insertEntry (name : String) (value : α) :
    ∀ {es : List (String × α)}, es.Pairwise (fun a b => a.1 < b.1) →
      (insertEntry name value es).Pairwise (fun a b => a.1 < b.1)
  | [], _ => by simp [insertEntry]
  | (other, old) :: rest, h => by
    obtain ⟨hhead, hrest⟩ := List.pairwise_cons.1 h
    unfold insertEntry
    split
    · rename_i hlt
      refine List.pairwise_cons.2 ⟨fun e he => ?_, h⟩
      rcases List.mem_cons.1 he with rfl | he
      · exact hlt
      · exact String.lt_trans hlt (hhead e he)
    · rename_i hnot
      split
      · rename_i heq
        subst heq
        exact List.pairwise_cons.2 ⟨hhead, hrest⟩
      · rename_i hne
        refine List.pairwise_cons.2 ⟨fun e he => ?_, pairwise_insertEntry name value hrest⟩
        rcases mem_of_mem_insertEntry he with rfl | he
        · exact Std.lt_of_le_of_ne (String.not_lt.1 hnot) (Ne.symm hne)
        · exact hhead e he

/-- Insertion changes what is found under the inserted name, and nothing else. -/
theorem lookup_insertEntry (name other : String) (value : α) (es : List (String × α)) :
    (insertEntry name value es).lookup other =
      if other = name then some value else es.lookup other := by
  induction es with
  | nil =>
    by_cases h : other = name
    · simp [insertEntry, h]
    · simp [insertEntry, List.lookup_cons, beq_eq_false_iff_ne.2 h, h]
  | cons e rest ih =>
    obtain ⟨first, old⟩ := e
    unfold insertEntry
    split
    · by_cases h : other = name
      · simp [h]
      · simp only [List.lookup_cons, h, if_false, beq_eq_false_iff_ne.2 h]
    · split
      · rename_i heq
        subst heq
        by_cases h : other = name
        · simp [h]
        · simp only [List.lookup_cons, h, if_false, beq_eq_false_iff_ne.2 h]
      · rename_i hne
        by_cases hf : other = first
        · subst hf
          simp [Ne.symm hne]
        · simp only [List.lookup_cons, beq_eq_false_iff_ne.2 hf, ih]

/-! ### Entries in ascending order -/

/-- Nothing is found under a name before all others. -/
theorem lookup_eq_none_of_lt {name : String} {es : List (String × α)}
    (h : ∀ e ∈ es, name < e.1) : es.lookup name = none := by
  rw [List.lookup_eq_none_iff]
  intro e he
  simpa using Std.ne_of_lt (h e he)

/-- A name that is found does not come before the first one. -/
theorem not_lt_head_of_lookup {name first : String} {v w : α} {es : List (String × α)}
    (hes : ((first, w) :: es).Pairwise (fun a b => a.1 < b.1))
    (h : ((first, w) :: es).lookup name = some v) : ¬ name < first := by
  intro hlt
  have hnone : ((first, w) :: es).lookup name = none := lookup_eq_none_of_lt fun e he => by
    rcases List.mem_cons.1 he with rfl | he
    · exact hlt
    · exact String.lt_trans hlt ((List.pairwise_cons.1 hes).1 e he)
  rw [hnone] at h
  cases h

/-- Ascending entries are determined by what is found among them. -/
theorem eq_of_lookup_eq {es fs : List (String × α)}
    (hes : es.Pairwise (fun a b => a.1 < b.1)) (hfs : fs.Pairwise (fun a b => a.1 < b.1))
    (h : ∀ name, es.lookup name = fs.lookup name) : es = fs := by
  induction es generalizing fs with
  | nil =>
    cases fs with
    | nil => rfl
    | cons f fs =>
      obtain ⟨b, w⟩ := f
      simpa using h b
  | cons e es ih =>
    cases fs with
    | nil =>
      obtain ⟨a, v⟩ := e
      simpa using h a
    | cons f fs =>
      obtain ⟨a, v⟩ := e
      obtain ⟨b, w⟩ := f
      have hab : a = b :=
        String.le_antisymm
          (String.not_lt.1 (not_lt_head_of_lookup hes (v := w) ((h b).trans (by simp))))
          (String.not_lt.1 (not_lt_head_of_lookup hfs (v := v) ((h a).symm.trans (by simp))))
      subst hab
      have hvw : v = w := by simpa using h a
      subst hvw
      obtain ⟨hea, hes⟩ := List.pairwise_cons.1 hes
      obtain ⟨hfa, hfs⟩ := List.pairwise_cons.1 hfs
      refine congrArg _ (ih hes hfs fun name => ?_)
      by_cases hn : name = a
      · subst hn
        rw [lookup_eq_none_of_lt hea, lookup_eq_none_of_lt hfa]
      · simpa [List.lookup_cons, beq_eq_false_iff_ne.2 hn] using h name

/-! ### Maps -/

/-- The map without entries. -/
def empty : NameMap α := ⟨[], .nil⟩

instance : EmptyCollection (NameMap α) := ⟨empty⟩

instance : Inhabited (NameMap α) := ⟨empty⟩

/-- Maps `name` to `value`, whatever it was mapped to before. -/
def insert (m : NameMap α) (name : String) (value : α) : NameMap α :=
  ⟨insertEntry name value m.entries, pairwise_insertEntry name value m.ascending⟩

/-- What `name` is mapped to. -/
def find? (m : NameMap α) (name : String) : Option α := m.entries.lookup name

/-- Whether `name` is mapped to something. -/
def contains (m : NameMap α) (name : String) : Bool := (m.find? name).isSome

/-- The names, in ascending order. -/
def names (m : NameMap α) : List String := m.entries.map (·.1)

/-- The values, in ascending order of their names. -/
def values (m : NameMap α) : List α := m.entries.map (·.2)

/-- The least name that is mapped to `value`. -/
def nameOf? [DecidableEq α] (m : NameMap α) (value : α) : Option String :=
  (m.entries.find? (·.2 = value)).map (·.1)

/-- The map with the given entries; of two with one name the later counts. -/
def ofList (es : List (String × α)) : NameMap α :=
  es.foldl (fun m e => m.insert e.1 e.2) empty

/-! ### What is found -/

@[simp] theorem find?_empty (name : String) : (∅ : NameMap α).find? name = none := rfl

/-- A map with an entry more, as seen by look-ups. -/
theorem find?_insert (m : NameMap α) (name other : String) (value : α) :
    (m.insert name value).find? other = if other = name then some value else m.find? other :=
  lookup_insertEntry name other value m.entries

/-- A map is determined by its look-ups. -/
theorem eq_of_find?_eq {m m' : NameMap α} (h : ∀ name, m.find? name = m'.find? name) : m = m' := by
  obtain ⟨es, hes⟩ := m
  obtain ⟨fs, hfs⟩ := m'
  cases eq_of_lookup_eq hes hfs h
  rfl

end NameMap

end Netlister
