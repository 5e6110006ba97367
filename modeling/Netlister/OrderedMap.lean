/-! # Finite maps from names, in order of insertion

  An `OrderedMap α` keeps its entries in the order in which their names were
  first inserted. Inserting a name again replaces its value and leaves its place.
-/

namespace Netlister

/-- A finite map from names that remembers the order of insertion. -/
structure OrderedMap (α : Type) where
  /-- The entries, in the order in which their names were first inserted. -/
  entries : List (String × α)
  /-- No name has two entries. -/
  distinct : (entries.map (·.1)).Nodup

namespace OrderedMap

variable {α : Type}

/-! ### Insertion into a list of entries -/

/-- Replaces the value of a name, or puts a new entry at the end. -/
def setEntry (name : String) (value : α) : List (String × α) → List (String × α)
  | [] => [(name, value)]
  | (other, old) :: rest =>
    if name = other then (name, value) :: rest else (other, old) :: setEntry name value rest

/-- Insertion brings in no name but the inserted one. -/
theorem mem_names_setEntry {name other : String} {value : α} {es : List (String × α)}
    (h : other ∈ (setEntry name value es).map (·.1)) : other = name ∨ other ∈ es.map (·.1) := by
  induction es with
  | nil => exact .inl (by simpa [setEntry] using h)
  | cons e rest ih =>
    obtain ⟨first, old⟩ := e
    unfold setEntry at h
    split at h
    · rename_i heq
      subst heq
      exact .inr h
    · rcases List.mem_cons.1 h with h | h
      · exact .inr (h ▸ List.mem_cons_self)
      · rcases ih h with h | h
        · exact .inl h
        · exact .inr (List.mem_cons_of_mem _ h)

/-- Insertion keeps the names distinct. -/
theorem nodup_setEntry (name : String) (value : α) {es : List (String × α)}
    (h : (es.map (·.1)).Nodup) : ((setEntry name value es).map (·.1)).Nodup := by
  induction es with
  | nil => simp [setEntry]
  | cons e rest ih =>
    obtain ⟨first, old⟩ := e
    obtain ⟨hfirst, hrest⟩ := List.nodup_cons.1 h
    unfold setEntry
    split
    · rename_i heq
      subst heq
      exact List.nodup_cons.2 ⟨hfirst, hrest⟩
    · rename_i hne
      refine List.nodup_cons.2 ⟨fun hmem => ?_, ih hrest⟩
      rcases mem_names_setEntry hmem with heq | hmem
      · exact hne heq.symm
      · exact hfirst hmem

/-! ### Maps -/

/-- The map without entries. -/
def empty : OrderedMap α := ⟨[], .nil⟩

instance : EmptyCollection (OrderedMap α) := ⟨empty⟩

instance : Inhabited (OrderedMap α) := ⟨empty⟩

/-- Maps `name` to `value`. -/
def insert (m : OrderedMap α) (name : String) (value : α) : OrderedMap α :=
  ⟨setEntry name value m.entries, nodup_setEntry name value m.distinct⟩

/-- The number of entries. -/
def size (m : OrderedMap α) : Nat := m.entries.length

end OrderedMap

end Netlister
