import Mathlib.Data.List.Find
import Mathlib.Data.List.Forall2
import Mathlib.Data.List.Induction
import Mathlib.Data.List.Nodup
import Mathlib.Data.List.Perm.Basic
import Mathlib.Data.Set.Function
import Netlister.OrderedMap
import Netlister.Proofs.Attributes

/-! # Maps by what is found in them

  There are two kinds of maps from names: a `NameMap` is kept in the order of names, an
  `OrderedMap` in the order of insertion. This module says what is found in either, so
  that a map of one kind can be compared with a map of the other.

  - `NameMap.find?_ofList`, `NameMap.perm_entries_ofList`: a map that is made from entries
    with distinct names has these entries and no others.
  - `NameMap.nameOf?_eq_some_iff`: in a map that gives no value two names (`Once`), a value
    leads to its name and back. In any map it leads to the least of its names
    (`NameMap.nameOf?_eq_some_iff_isLeastName`), as a search of what ascends finds the least
    that passes (`NameMap.find?_eq_some_iff_least`).
  - `OrderedMap.Lists`: the map has a name iff the other has, and the values under it are
    related. This says nothing about order: `Lists.of_permuted` carries it over to any
    rearrangement.
-/

namespace Netlister

/-! ### Entries with distinct names -/

section Entries

variable {α β : Type} {es fs : List (String × α)} {name : String}

theorem lookup_cons_eq_ite {key : String} {v : α} :
    ((key, v) :: es).lookup name = if name = key then some v else es.lookup name := by
  rw [List.lookup_cons]
  by_cases h : name = key
  · simp [h]
  · rw [beq_false_of_ne h, if_neg h]

/-- Where names are distinct, finding a value under a name is having that entry. -/
theorem lookup_eq_some_iff_mem_of_nodup (h : (es.map (·.1)).Nodup) {v : α} :
    es.lookup name = some v ↔ (name, v) ∈ es := by
  induction es with
  | nil => simp
  | cons e es ih =>
    obtain ⟨first, w⟩ := e
    obtain ⟨hfirst, hrest⟩ := List.nodup_cons.1 h
    rw [List.lookup_cons, List.mem_cons]
    by_cases hname : name = first
    · subst hname
      have hnot : (name, v) ∉ es := by
        intro hmem
        exact hfirst (List.mem_map.2 ⟨_, hmem, rfl⟩)
      simp [hnot, eq_comm]
    · have hb : (name == first) = false := beq_false_of_ne hname
      simp only [hb, Prod.mk.injEq, hname, false_and, false_or]
      exact ih hrest

/-- Nothing is found under a name that no entry has. -/
theorem lookup_eq_none_iff_not_mem : es.lookup name = none ↔ name ∉ es.map (·.1) := by
  rw [List.lookup_eq_none_iff, List.mem_map]
  constructor
  · intro h
    rintro ⟨e, he, rfl⟩
    simpa using h e he
  · intro h e he
    have hne : name ≠ e.1 := by
      intro heq
      exact h ⟨e, he, heq.symm⟩
    simpa using hne

/-- Entries under other keys are found when those under one key are dropped. -/
theorem lookup_filter_ne {κ : Type} [BEq κ] [LawfulBEq κ] [DecidableEq κ] {key other : κ}
    (h : other ≠ key) (entries : List (κ × α)) :
    (entries.filter (·.1 ≠ key)).lookup other = entries.lookup other := by
  induction entries with
  | nil => rfl
  | cons e entries ih =>
    by_cases he : e.1 = key
    · have hb : (other == e.1) = false := beq_false_of_ne (he ▸ h)
      rw [List.filter_cons_of_neg (by simpa using he), List.lookup_cons, hb]
      exact ih
    · rw [List.filter_cons_of_pos (by simpa using he), List.lookup_cons, List.lookup_cons, ih]

/-- The order of entries does not matter for what is found. -/
theorem lookup_eq_of_perm (h : (es.map (·.1)).Nodup) (hperm : es.Perm fs) :
    es.lookup name = fs.lookup name := by
  have hnames : (fs.map (·.1)).Nodup := (hperm.map _).nodup_iff.1 h
  apply Option.ext
  intro v
  rw [lookup_eq_some_iff_mem_of_nodup h, lookup_eq_some_iff_mem_of_nodup hnames, hperm.mem_iff]

/-- Entries that correspond one by one give related answers. -/
theorem rel_lookup_of_forall₂ {R : α → β → Prop} {fs : List (String × β)}
    (h : List.Forall₂ (fun e f => e.1 = f.1 ∧ R e.2 f.2) es fs) (name : String) :
    Option.Rel R (es.lookup name) (fs.lookup name) := by
  induction h with
  | nil => exact .none
  | @cons e f es fs hef _ ih =>
    obtain ⟨key, a⟩ := e
    obtain ⟨key', b⟩ := f
    obtain ⟨hkeys, hab⟩ := hef
    change key = key' at hkeys
    subst hkeys
    rw [List.lookup_cons, List.lookup_cons]
    by_cases hname : name = key
    · simp only [hname, beq_self_eq_true]
      exact .some hab
    · have hb : (name == key) = false := beq_false_of_ne hname
      simp only [hb]
      exact ih

/-- Entries that correspond one by one have the same names. -/
theorem map_fst_of_forall₂ {R : α → β → Prop} {fs : List (String × β)}
    (h : List.Forall₂ (fun e f => e.1 = f.1 ∧ R e.2 f.2) es fs) :
    fs.map (·.1) = es.map (·.1) := by
  induction h with
  | nil => rfl
  | cons hef _ ih => rw [List.map_cons, List.map_cons, hef.1, ih]

/-- Every member of one list has its counterpart in the other. -/
theorem exists_of_forall₂ {γ δ : Type} {R : γ → δ → Prop} {xs : List γ} {ys : List δ} {y : δ}
    (h : List.Forall₂ R xs ys) (hy : y ∈ ys) : ∃ x ∈ xs, R x y := by
  induction h with
  | nil => cases hy
  | @cons x z xs ys hxz _ ih =>
    rcases List.mem_cons.1 hy with heq | hmem
    · subst heq
      exact ⟨x, List.mem_cons_self, hxz⟩
    · obtain ⟨x', hx', hR⟩ := ih hmem
      exact ⟨x', List.mem_cons_of_mem x hx', hR⟩

/-- Entries are looked at one by one, and what is found is kept under their names. -/
theorem mapM_entries_eq_ok {ε : Type} {look : String × α → Except ε β} {fs : List (String × β)} :
    (es.mapM fun e => do return (e.1, ← look e)) = .ok fs ↔
      List.Forall₂ (fun e f => e.1 = f.1 ∧ look e = .ok f.2) es fs := by
  have hentry (e : String × α) (f : String × β) :
      (do return (e.1, ← look e) : Except ε (String × β)) = .ok f ↔
        e.1 = f.1 ∧ look e = .ok f.2 := by
    obtain ⟨name, b⟩ := f
    cases look e with
    | error err => simp
    | ok c => simp [pure, Except.pure]
  rw [Outcome.mapM_eq_ok]
  exact ⟨List.Forall₂.imp fun e f => (hentry e f).1, List.Forall₂.imp fun e f => (hentry e f).2⟩

end Entries

/-! ### Maps in the order of names -/

namespace NameMap

variable {α β : Type}

/-- No two entries have one name. -/
theorem nodup_names (m : NameMap α) : (m.entries.map (·.1)).Nodup := by
  rw [List.Nodup, List.pairwise_map]
  exact m.ascending.imp fun hlt => Std.ne_of_lt hlt

/-- What is found after entries with distinct names were put in. -/
theorem find?_foldl_insert {es : List (String × α)} (h : (es.map (·.1)).Nodup) (m : NameMap α)
    (name : String) :
    (es.foldl (fun m e => m.insert e.1 e.2) m).find? name = (es.lookup name).or (m.find? name) := by
  induction es generalizing m with
  | nil => simp
  | cons e es ih =>
    obtain ⟨key, v⟩ := e
    obtain ⟨hkey, hrest⟩ := List.nodup_cons.1 h
    rw [List.foldl_cons, ih hrest, find?_insert, List.lookup_cons]
    by_cases hname : name = key
    · have hnone : es.lookup name = none := by
        rw [lookup_eq_none_iff_not_mem, hname]
        exact hkey
      simp [hname, hname ▸ hnone]
    · have hb : (name == key) = false := beq_false_of_ne hname
      simp [hname, hb]

/-- A map that is made from entries with distinct names has these entries. -/
theorem find?_ofList {es : List (String × α)} (h : (es.map (·.1)).Nodup) (name : String) :
    (ofList es).find? name = es.lookup name := by
  have hempty : (empty : NameMap α).find? name = none := rfl
  unfold ofList
  rw [find?_foldl_insert h, hempty, Option.or_none]

theorem perm_entries_ofList {es : List (String × α)} (h : (es.map (·.1)).Nodup) :
    (ofList es).entries.Perm es := by
  have hentries : (ofList es).entries.Nodup := List.Nodup.of_map (·.1) (ofList es).nodup_names
  have hes : es.Nodup := List.Nodup.of_map (·.1) h
  rw [List.perm_ext_iff_of_nodup hentries hes]
  intro e
  obtain ⟨name, v⟩ := e
  rw [← find?_eq_some_iff, find?_ofList h, lookup_eq_some_iff_mem_of_nodup h]

/-- A map of the same names to other values. -/
def map (f : α → β) (m : NameMap α) : NameMap β :=
  ⟨m.entries.map fun e => (e.1, f e.2), List.pairwise_map.2 m.ascending⟩

theorem find?_map (f : α → β) (m : NameMap α) (name : String) :
    (m.map f).find? name = (m.find? name).map f := by
  have hlookup (es : List (String × α)) :
      (es.map fun e => (e.1, f e.2)).lookup name = (es.lookup name).map f := by
    induction es with
    | nil => rfl
    | cons e es ih =>
      rw [List.map_cons, List.lookup_cons, List.lookup_cons, ih]
      cases name == e.1 <;> rfl
  exact hlookup m.entries

/-! ### Names of values -/

/-- The value has a name. -/
def Has (m : NameMap α) (v : α) : Prop := ∃ name, m.find? name = some v

/-- No value has two names. -/
def Once (m : NameMap α) : Prop :=
  ∀ ⦃a b v⦄, m.find? a = some v → m.find? b = some v → a = b

theorem Once.ne {m : NameMap α} (hm : m.Once) {a b : String} {v w : α} (hv : m.find? a = some v)
    (hw : m.find? b = some w) (hne : a ≠ b) : v ≠ w := by
  rintro rfl
  exact hne (hm hv hw)

/-- The name of a value is one under which it is found. -/
theorem find?_of_nameOf? [DecidableEq α] {m : NameMap α} {v : α} {name : String}
    (h : m.nameOf? v = some name) : m.find? name = some v := by
  unfold nameOf? at h
  obtain ⟨⟨key, w⟩, hfind, hkey⟩ := Option.map_eq_some_iff.1 h
  have hw : w = v := by simpa using List.find?_some hfind
  change key = name at hkey
  subst hkey hw
  exact find?_eq_some_iff.2 (List.mem_of_find?_eq_some hfind)

/-- A value has a name iff it is found under one. -/
theorem isSome_nameOf?_iff [DecidableEq α] {m : NameMap α} {v : α} :
    (m.nameOf? v).isSome ↔ m.Has v := by
  constructor
  · intro h
    obtain ⟨name, hname⟩ := Option.isSome_iff_exists.1 h
    exact ⟨name, find?_of_nameOf? hname⟩
  · rintro ⟨name, hname⟩
    unfold nameOf?
    rw [Option.isSome_map, List.find?_isSome]
    exact ⟨(name, v), find?_eq_some_iff.1 hname, by simp⟩

/-- Where no value has two names, a value leads to its name and back. -/
theorem nameOf?_eq_some_iff [DecidableEq α] {m : NameMap α} (h : m.Once) {v : α} {name : String} :
    m.nameOf? v = some name ↔ m.find? name = some v := by
  constructor
  · exact find?_of_nameOf?
  · intro hfind
    obtain ⟨other, hother⟩ := Option.isSome_iff_exists.1 (isSome_nameOf?_iff.2 ⟨name, hfind⟩)
    rw [hother, h (find?_of_nameOf? hother) hfind]

/-- The name is the least one under which the value is found. -/
def IsLeastName (m : NameMap α) (v : α) (name : String) : Prop :=
  m.find? name = some v ∧ ∀ other, m.find? other = some v → name ≤ other

/-- In an ascending list a search finds the least member that passes. -/
theorem find?_eq_some_iff_least {γ : Type} {key : γ → String} {xs : List γ}
    (h : xs.Pairwise fun a b => key a < key b) {p : γ → Bool} {x : γ} :
    xs.find? p = some x ↔ x ∈ xs ∧ p x = true ∧ ∀ y ∈ xs, p y = true → key x ≤ key y := by
  induction xs with
  | nil => simp
  | cons a xs ih =>
    obtain ⟨hfirst, hrest⟩ := List.pairwise_cons.1 h
    simp only [List.mem_cons, forall_eq_or_imp]
    cases ha : p a with
    | true =>
      rw [List.find?_cons_of_pos ha, Option.some.injEq]
      constructor
      · rintro rfl
        refine ⟨.inl rfl, ha, fun _ => String.le_refl _, fun y hy _ => ?_⟩
        exact String.not_lt.1 (String.lt_asymm (hfirst y hy))
      · rintro ⟨rfl | hx, -, hle, -⟩
        · rfl
        · exact absurd (hfirst x hx) (String.not_lt.2 (hle rfl))
    | false =>
      rw [List.find?_cons_of_neg (by simp [ha]), ih hrest]
      constructor
      · rintro ⟨hx, hpx, hleast⟩
        exact ⟨.inr hx, hpx, by simp, hleast⟩
      · rintro ⟨rfl | hx, hpx, -, hleast⟩
        · rw [ha] at hpx
          cases hpx
        · exact ⟨hx, hpx, hleast⟩

/-- The name of a value is the least of its names. -/
theorem nameOf?_eq_some_iff_isLeastName [DecidableEq α] {m : NameMap α} {v : α} {name : String} :
    m.nameOf? v = some name ↔ m.IsLeastName v name := by
  unfold nameOf? IsLeastName
  simp only [Option.map_eq_some_iff, find?_eq_some_iff_least m.ascending,
    decide_eq_true_iff, find?_eq_some_iff]
  constructor
  · rintro ⟨⟨least, w⟩, ⟨hmem, rfl, hleast⟩, rfl⟩
    exact ⟨hmem, fun other hother => hleast (other, w) hother rfl⟩
  · rintro ⟨hmem, hleast⟩
    refine ⟨(name, v), ⟨hmem, rfl, ?_⟩, rfl⟩
    rintro ⟨other, w⟩ hother rfl
    exact hleast other hother

/-- A change that keeps the values of a map apart keeps their names. -/
theorem nameOf?_map [DecidableEq α] [DecidableEq β] {m : NameMap α} {f : α → β}
    (hf : Set.InjOn f {v | m.Has v}) {v : α} (hv : m.Has v) :
    (m.map f).nameOf? (f v) = m.nameOf? v := by
  have hsame : ∀ e ∈ m.entries, (f e.2 = f v ↔ e.2 = v) := by
    intro e he
    have hhas : m.Has e.2 := ⟨e.1, find?_eq_some_iff.2 he⟩
    exact ⟨fun heq => hf hhas hv heq, fun heq => by rw [heq]⟩
  unfold nameOf? map
  rw [List.find?_map, Option.map_map]
  congr 1
  apply List.find?_congr
  intro e he
  simp [hsame e he]

instance [DecidableEq α] (m : NameMap α) (v : α) : Decidable (m.Has v) :=
  decidable_of_iff _ isSome_nameOf?_iff

theorem mem_values_iff {m : NameMap α} {v : α} : v ∈ m.values ↔ m.Has v := by
  unfold values Has
  rw [List.mem_map]
  constructor
  · rintro ⟨⟨name, w⟩, hmem, rfl⟩
    exact ⟨name, find?_eq_some_iff.2 hmem⟩
  · rintro ⟨name, hname⟩
    exact ⟨(name, v), find?_eq_some_iff.1 hname, rfl⟩

/-- Values that carry different marks have different names. -/
theorem once_of_nodup {γ : Type} {m : NameMap α} {mark : α → γ}
    (h : (m.values.map mark).Nodup) : m.Once := by
  intro a b v ha hb
  have hinj := List.inj_on_of_nodup_map (f := fun e : String × α => mark e.2) (l := m.entries)
    (by simpa [values, Function.comp_def] using h)
  have heq : ((a, v) : String × α) = (b, v) :=
    hinj (find?_eq_some_iff.1 ha) (find?_eq_some_iff.1 hb) rfl
  exact (Prod.mk.inj heq).1

/-- No value has two names iff none is listed twice. -/
theorem once_iff_nodup_values {m : NameMap α} : m.Once ↔ m.values.Nodup := by
  constructor
  · intro h
    refine List.Nodup.map_on ?_ (List.Nodup.of_map (·.1) m.nodup_names)
    intro e he f hf heq
    obtain ⟨a, v⟩ := e
    obtain ⟨b, w⟩ := f
    change v = w at heq
    subst heq
    rw [h (find?_eq_some_iff.2 he) (find?_eq_some_iff.2 hf)]
  · intro h
    have hmarks : (m.values.map id).Nodup := by rwa [List.map_id]
    exact once_of_nodup hmarks

instance [DecidableEq α] (m : NameMap α) : Decidable m.Once :=
  decidable_of_iff _ once_iff_nodup_values.symm

end NameMap

/-! ### Maps in the order of insertion -/

namespace OrderedMap

variable {α β γ : Type}

/-- What a name is mapped to. -/
def find? (m : OrderedMap α) (name : String) : Option α := m.entries.lookup name

theorem find?_eq_some_iff {m : OrderedMap α} {name : String} {v : α} :
    m.find? name = some v ↔ (name, v) ∈ m.entries :=
  lookup_eq_some_iff_mem_of_nodup m.distinct

/-- The map with the given entries; of two with one name the later counts. -/
def ofList (es : List (String × α)) : OrderedMap α := es.foldl (fun m e => m.insert e.1 e.2) ∅

/-- A new name is put at the end. -/
theorem setEntry_eq_concat {name : String} {es : List (String × α)} (h : name ∉ es.map (·.1))
    (v : α) : setEntry name v es = es ++ [(name, v)] := by
  induction es with
  | nil => rfl
  | cons e es ih =>
    obtain ⟨key, w⟩ := e
    have hkey : name ≠ key := by
      intro heq
      exact h (by simp [heq])
    have hrest : name ∉ es.map (·.1) := by
      intro hmem
      exact h (List.mem_cons_of_mem _ hmem)
    unfold setEntry
    rw [if_neg hkey, ih hrest]
    rfl

/-- Entries with distinct names are kept in their order. -/
theorem entries_ofList {es : List (String × α)} (h : (es.map (·.1)).Nodup) :
    (ofList es).entries = es := by
  induction es using List.reverseRecOn with
  | nil => rfl
  | append_singleton es e ih =>
    rw [List.map_append, List.nodup_append] at h
    obtain ⟨hnames, -, hdisjoint⟩ := h
    have hnew : e.1 ∉ es.map (·.1) := by
      intro hmem
      exact hdisjoint _ hmem e.1 (by simp) rfl
    have hinsert : (ofList (es ++ [e])).entries = setEntry e.1 e.2 (ofList es).entries := by
      unfold ofList
      rw [List.foldl_append]
      rfl
    rw [hinsert, ih hnames, setEntry_eq_concat hnew]

theorem entries_ofList_map {xs : List β} {entry : β → String × α}
    (h : (xs.map fun x => (entry x).1).Nodup) :
    (ofList (xs.map entry)).entries = xs.map entry := by
  refine entries_ofList ?_
  rw [List.map_map]
  exact h

/-! ### Comparing maps of both kinds -/

/-- Answers that are related by equality are the same. -/
theorem eq_of_rel {x y : Option α} (h : Option.Rel Eq x y) : x = y := by
  cases h with
  | none => rfl
  | some hab => rw [hab]

/-- The map lists the other: the same names, with related values. -/
def Lists (R : α → β → Prop) (m : OrderedMap α) (n : NameMap β) : Prop :=
  ∀ name, Option.Rel R (m.find? name) (n.find? name)

section Lists

variable {R : α → β → Prop} {m : OrderedMap α} {n : NameMap β} {name : String}

theorem Lists.exists_value (h : m.Lists R n) {a : α} (ha : m.find? name = some a) :
    ∃ b, n.find? name = some b ∧ R a b := by
  have hname := h name
  rw [ha] at hname
  cases hb : n.find? name with
  | none => rw [hb] at hname; cases hname
  | some b =>
    rw [hb] at hname
    cases hname with
    | some hab => exact ⟨b, rfl, hab⟩

theorem Lists.exists_entry (h : m.Lists R n) {b : β} (hb : n.find? name = some b) :
    ∃ a, m.find? name = some a ∧ R a b := by
  have hname := h name
  rw [hb] at hname
  cases ha : m.find? name with
  | none => rw [ha] at hname; cases hname
  | some a =>
    rw [ha] at hname
    cases hname with
    | some hab => exact ⟨a, rfl, hab⟩

theorem Lists.imp {Q : α → β → Prop} (h : m.Lists R n) (hR : ∀ a b, R a b → Q a b) :
    m.Lists Q n := by
  intro name
  have hname := h name
  generalize m.find? name = found at hname ⊢
  generalize n.find? name = found' at hname ⊢
  cases hname with
  | none => exact .none
  | some hab => exact .some (hR _ _ hab)

theorem Lists.map {Q : α → γ → Prop} {f : β → γ} (h : m.Lists R n)
    (hR : ∀ a b, R a b → Q a (f b)) : m.Lists Q (n.map f) := by
  intro name
  have hname := h name
  rw [NameMap.find?_map]
  generalize m.find? name = found at hname ⊢
  generalize n.find? name = found' at hname ⊢
  cases hname with
  | none => exact .none
  | some hab => exact .some (hR _ _ hab)

theorem Lists.find?_eq_none (h : m.Lists R n) (ha : m.find? name = none) :
    n.find? name = none := by
  cases hb : n.find? name with
  | none => rfl
  | some b =>
    obtain ⟨a, ha', -⟩ := h.exists_entry hb
    rw [ha] at ha'
    cases ha'

/-- What a map lists by a function is determined. -/
theorem Lists.unique (h : m.Lists R n) {n' : NameMap β} (h' : m.Lists R n')
    (hR : ∀ a b c, R a b → R a c → b = c) : n = n' := by
  apply NameMap.eq_of_find?_eq
  intro name
  cases ha : m.find? name with
  | none => rw [h.find?_eq_none ha, h'.find?_eq_none ha]
  | some a =>
    obtain ⟨b, hb, hab⟩ := h.exists_value ha
    obtain ⟨c, hc, hac⟩ := h'.exists_value ha
    rw [hb, hc, hR a b c hab hac]

/-- Maps that are listed by one map have the same names. -/
theorem Lists.isSome_eq {Q : α → γ → Prop} {k : NameMap γ} (h : m.Lists R n) (hk : m.Lists Q k)
    (name : String) : (n.find? name).isSome = (k.find? name).isSome := by
  cases ha : m.find? name with
  | some a =>
    obtain ⟨b, hb, -⟩ := h.exists_value ha
    obtain ⟨c, hc, -⟩ := hk.exists_value ha
    rw [hb, hc]
    rfl
  | none =>
    rw [h.find?_eq_none ha, hk.find?_eq_none ha]
    rfl

/-- A map is listed by a function iff it is made from the values of that function, entry by
    entry. -/
theorem lists_iff_forall₂ (hR : ∀ a b c, R a b → R a c → b = c) :
    m.Lists R n ↔ ∃ fs, List.Forall₂ (fun e f => e.1 = f.1 ∧ R e.2 f.2) m.entries fs ∧
      n = NameMap.ofList fs := by
  have hof {fs : List (String × β)}
      (hfs : List.Forall₂ (fun e f => e.1 = f.1 ∧ R e.2 f.2) m.entries fs) :
      m.Lists R (NameMap.ofList fs) := by
    intro name
    have hnodup : (fs.map (·.1)).Nodup := by
      rw [map_fst_of_forall₂ hfs]
      exact m.distinct
    rw [NameMap.find?_ofList hnodup]
    exact rel_lookup_of_forall₂ hfs name
  constructor
  · intro h
    have hvalues : ∀ e ∈ m.entries, ∃ f : String × β, e.1 = f.1 ∧ R e.2 f.2 := by
      intro e he
      obtain ⟨b, -, hb⟩ := h.exists_value (find?_eq_some_iff.2 he)
      exact ⟨(e.1, b), rfl, hb⟩
    have hlist : ∀ es : List (String × α), (∀ e ∈ es, ∃ f : String × β, e.1 = f.1 ∧ R e.2 f.2) →
        ∃ fs, List.Forall₂ (fun e (f : String × β) => e.1 = f.1 ∧ R e.2 f.2) es fs := by
      intro es hes
      induction es with
      | nil => exact ⟨[], .nil⟩
      | cons e es ih =>
        obtain ⟨hfirst, hrest⟩ := List.forall_mem_cons.1 hes
        obtain ⟨f, hf⟩ := hfirst
        obtain ⟨fs, hfs⟩ := ih hrest
        exact ⟨f :: fs, .cons hf hfs⟩
    obtain ⟨fs, hfs⟩ := hlist m.entries hvalues
    exact ⟨fs, hfs, h.unique (hof hfs) hR⟩
  · rintro ⟨fs, hfs, rfl⟩
    exact hof hfs

/-- Where values are listed as they are, both maps find the same. -/
theorem lists_eq_iff {m : OrderedMap α} {n : NameMap α} :
    m.Lists Eq n ↔ ∀ name, n.find? name = m.find? name := by
  constructor
  · intro h name
    exact (eq_of_rel (h name)).symm
  · intro h name
    rw [h name]
    cases m.find? name with
    | none => exact .none
    | some a => exact .some rfl

/-- The entries of a map in the order of names, with changed values. -/
def ofNameMap (f : β → α) (n : NameMap β) : OrderedMap α :=
  ⟨(n.map f).entries, (n.map f).nodup_names⟩

theorem forall_mem_ofNameMap {f : β → α} {P : α → Prop} (h : ∀ b, n.Has b → P (f b)) :
    ∀ e ∈ (ofNameMap f n).entries, P e.2 := by
  intro e he
  obtain ⟨entry, hentry, rfl⟩ := List.mem_map.1 he
  exact h entry.2 ⟨entry.1, NameMap.find?_eq_some_iff.2 hentry⟩

theorem lists_ofNameMap {f : β → α} (hR : ∀ b, n.Has b → R (f b) b) :
    (ofNameMap f n).Lists R n := by
  intro name
  have hfind : (ofNameMap f n).find? name = (n.find? name).map f := NameMap.find?_map f n name
  rw [hfind]
  cases hb : n.find? name with
  | none => exact .none
  | some b => exact .some (hR b ⟨name, hb⟩)

end Lists

/-! ### Rearrangements -/

/-- The same names in some order, with related values. -/
def Permuted (R : α → β → Prop) (m : OrderedMap α) (m' : OrderedMap β) : Prop :=
  ∃ es, m.entries.Perm es ∧ List.Forall₂ (fun e f => e.1 = f.1 ∧ R e.2 f.2) es m'.entries

/-- The same names in the same order, with related values. -/
def Alongside (R : α → β → Prop) (m : OrderedMap α) (m' : OrderedMap β) : Prop :=
  List.Forall₂ (fun e f => e.1 = f.1 ∧ R e.2 f.2) m.entries m'.entries

theorem Permuted.rel_find? {R : α → β → Prop} {m : OrderedMap α} {m' : OrderedMap β}
    (h : m.Permuted R m') (name : String) : Option.Rel R (m.find? name) (m'.find? name) := by
  obtain ⟨es, hperm, hes⟩ := h
  unfold find?
  rw [lookup_eq_of_perm m.distinct hperm]
  exact rel_lookup_of_forall₂ hes name

/-- Rearranging the entries alone changes nothing that is found. -/
theorem Permuted.find?_eq {m m' : OrderedMap α} (h : m.Permuted Eq m') (name : String) :
    m'.find? name = m.find? name :=
  (eq_of_rel (h.rel_find? name)).symm

/-- What a map lists is listed by every rearrangement. -/
theorem Lists.of_permuted {R : α → β → Prop} {Q : α → γ → Prop} {R' : γ → β → Prop}
    {m : OrderedMap α} {m' : OrderedMap γ} {n : NameMap β} (h : m.Lists R n)
    (hm : m.Permuted Q m') (hR : ∀ a c b, Q a c → R a b → R' c b) : m'.Lists R' n := by
  intro name
  have hname := hm.rel_find? name
  cases hb : n.find? name with
  | none =>
    cases ha : m.find? name with
    | none =>
      rw [ha] at hname
      cases hc : m'.find? name with
      | none => exact .none
      | some c => rw [hc] at hname; cases hname
    | some a =>
      obtain ⟨b, hb', -⟩ := h.exists_value ha
      rw [hb] at hb'
      cases hb'
  | some b =>
    obtain ⟨a, ha, hab⟩ := h.exists_entry hb
    rw [ha] at hname
    cases hc : m'.find? name with
    | none => rw [hc] at hname; cases hname
    | some c =>
      rw [hc] at hname
      cases hname with
      | some hac => exact .some (hR a c b hac hab)

end OrderedMap

end Netlister
