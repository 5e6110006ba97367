import Mathlib.Data.List.Basic
import Netlister.FileSystem
import Netlister.Proofs.Entries

/-! # Places, paths and what a write changes

  - `entry?_set`: one place is replaced, all others are as before. A file that is removed
    from a place at which there was nothing leaves the file system as it was (`erase_set`).
  - `splitPath_append`: the parts of a path are those before a slash and those after it.
  - `foldlM_follow_set`: a file that is put where there is no directory bars no way that
    led somewhere before.
  - `writeText_beneath`: a file that is written to a name in a directory is at this name,
    right below the place of the directory, and is found there.
-/

namespace Netlister.FileSystem

open Outcome

/-! ### Places -/

/-- The file system with nothing at a place. -/
def erase (fs : FileSystem) (place : Place) : FileSystem :=
  { fs with entries := fs.entries.filter (·.1 ≠ place) }

section Places

variable {fs : FileSystem} {place : Place}

/-- What is found after something was put at a place. -/
theorem entry?_set (hplace : place ≠ []) (entry : Entry) (other : Place) :
    entry? (fs.set place entry) other = if other = place then some entry else fs.entry? other := by
  unfold entry? set
  by_cases heq : other = place
  · subst heq
    simp [hplace]
  · rw [if_neg heq, List.lookup_cons, beq_eq_false_iff_ne.2 heq]
    simp only [lookup_filter_ne heq]

/-- A file that was put where there was nothing can be removed again. -/
theorem erase_set (hnone : fs.entry? place = none) (entry : Entry) :
    (fs.set place entry).erase place = fs := by
  have hlookup : fs.entries.lookup place = none := by
    unfold entry? at hnone
    split at hnone
    · cases hnone
    · exact hnone
  have hkeep : fs.entries.filter (·.1 ≠ place) = fs.entries := by
    refine List.filter_eq_self.2 fun e he => ?_
    have hkey : (place != e.1) = true := List.lookup_eq_none_iff.1 hlookup e he
    exact decide_eq_true (bne_iff_ne.1 hkey).symm
  unfold erase set
  rw [List.filter_cons_of_neg (by simp), hkeep, hkeep]

theorem isDirectory_iff : fs.isDirectory place ↔ fs.entry? place = some .directory := by
  unfold isDirectory
  split
  · next h => simp [h]
  · next h => simpa using h

/-- Directories are kept when a file is put where there is none. -/
theorem isDirectory_set {other : Place} (hplace : place ≠ []) (hfree : ¬ fs.isDirectory place)
    (content : ByteArray) (h : fs.isDirectory other) :
    (fs.set place (.file content)).isDirectory other := by
  have hne : other ≠ place := by
    rintro rfl
    exact hfree h
  rw [isDirectory_iff] at h ⊢
  rw [entry?_set hplace, if_neg hne]
  exact h

end Places

/-! ### Parts of paths -/

theorem splitPath_ne_nil (cs : List Char) : splitPath cs ≠ [] := by
  fun_cases splitPath cs <;> simp

/-- A slash separates the parts before it from those after it. -/
theorem splitPath_append (before after : List Char) :
    splitPath (before ++ '/' :: after) = splitPath before ++ splitPath after := by
  induction before with
  | nil => simp [splitPath]
  | cons c cs ih =>
    by_cases hc : c = '/'
    · simp [splitPath, hc, ih]
    · -- The character belongs to the first of the parts that follow it.
      obtain ⟨part, parts, hsplit⟩ := List.exists_cons_of_ne_nil (splitPath_ne_nil cs)
      simp [splitPath, hc, ih, hsplit]

/-- Without a slash a path has one part. -/
theorem splitPath_of_not_mem {cs : List Char} (h : '/' ∉ cs) : splitPath cs = [cs] := by
  induction cs with
  | nil => rfl
  | cons c cs ih =>
    rw [List.mem_cons, not_or] at h
    simp [splitPath, Ne.symm h.1, ih h.2]

/-- The parts that a path leads through. -/
def parts (path : List Char) : List String := (splitPath path).map String.ofList

theorem parts_append (before after : List Char) :
    parts (before ++ '/' :: after) = parts before ++ parts after := by
  rw [parts, splitPath_append, List.map_append]
  rfl

theorem parts_of_not_mem {name : String} (h : '/' ∉ name.toList) : parts name.toList = [name] := by
  rw [parts, splitPath_of_not_mem h, List.map_singleton, String.ofList_toList]

/-- The place that a path starts from. -/
def origin (fs : FileSystem) (path : List Char) : Place :=
  if path.head? = some '/' then [] else fs.workingDirectory

/-! ### Following paths -/

/-- A part of a path that goes down to something in a directory. -/
def IsName (part : String) : Prop :=
  part ∉ ["", ".", ".."] ∧ part.utf8ByteSize ≤ maxNameBytes

section Ways

variable {fs : FileSystem}

/-- Where a part of a path can lead: it stays, goes up, or goes down. -/
theorem follow_eq_ok {here there : Place} {part : String} :
    fs.follow here part = .ok there ↔ fs.isDirectory here ∧
      ((part = "" ∨ part = ".") ∧ there = here ∨ part = ".." ∧ there = here.dropLast ∨
        IsName part ∧ (fs.entry? (here ++ [part])).isSome ∧ there = here ++ [part]) := by
  unfold follow IsName
  grind

/-- Where a file can be put: below a directory, not in place of one. -/
theorem placeForFile_eq_ok {directory file : Place} {name : String} :
    fs.placeForFile directory name = .ok file ↔ fs.isDirectory directory ∧ IsName name ∧
      ¬ fs.isDirectory (directory ++ [name]) ∧ file = directory ++ [name] := by
  unfold placeForFile IsName
  grind

/-- Where a path starts, and its parts. -/
theorem eq_of_start {path : String} {start : Place} {ps : List String}
    (h : fs.start path = .ok (start, ps)) :
    path.toList ≠ [] ∧ start = fs.origin path.toList ∧ ps = parts path.toList := by
  unfold FileSystem.start at h
  split at h
  · cases h
  split at h
  · cases h
  next hne =>
  split at h
  · cases h
  · refine ⟨fun hnil => hne (String.toList_eq_nil_iff.1 hnil), ?_⟩
    unfold origin
    split at h
    · next hroot =>
      cases h
      exact ⟨(if_pos hroot).symm, rfl⟩
    · next hroot =>
      cases h
      exact ⟨(if_neg hroot).symm, rfl⟩

/-- A path that leads somewhere does so by its parts. -/
theorem way_of_locate {path : String} {place : Place} (h : fs.locate path = .ok place) :
    path.toList ≠ [] ∧
      (parts path.toList).foldlM fs.follow (fs.origin path.toList) = .ok place := by
  obtain ⟨⟨start, ps⟩, hstart, hway⟩ := bind_eq_ok.1 h
  obtain ⟨hne, rfl, rfl⟩ := eq_of_start hstart
  exact ⟨hne, hway⟩

/-- Where a part led, it still leads after a file was put where there is no directory. -/
theorem follow_set {place : Place} (hplace : place ≠ []) (hfree : ¬ fs.isDirectory place)
    (content : ByteArray) {here there : Place} {part : String}
    (h : fs.follow here part = .ok there) :
    (fs.set place (.file content)).follow here part = .ok there := by
  obtain ⟨hhere, hlead⟩ := follow_eq_ok.1 h
  refine follow_eq_ok.2 ⟨isDirectory_set hplace hfree content hhere, ?_⟩
  rcases hlead with hstay | hup | ⟨hname, hsome, hthere⟩
  · exact .inl hstay
  · exact .inr (.inl hup)
  · refine .inr (.inr ⟨hname, ?_, hthere⟩)
    rw [entry?_set hplace]
    split
    · rfl
    · exact hsome

/-- Where a way led, it still leads. -/
theorem foldlM_follow_set {place : Place} (hplace : place ≠ []) (hfree : ¬ fs.isDirectory place)
    (content : ByteArray) {ps : List String} {here there : Place}
    (h : ps.foldlM fs.follow here = .ok there) :
    ps.foldlM (fs.set place (.file content)).follow here = .ok there := by
  induction ps generalizing here with
  | nil => exact h
  | cons part ps ih =>
    rw [List.foldlM_cons] at h ⊢
    obtain ⟨next, hnext, h⟩ := bind_eq_ok.1 h
    rw [follow_set hplace hfree content hnext]
    exact ih h

end Ways

/-! ### Files in directories -/

/-- `path` is the path of a name in a directory: one slash stands before the name, which the
    path of the directory may already end with. -/
structure Beneath (directory path name : String) : Prop where
  /-- The name is a single part. -/
  single : '/' ∉ name.toList
  /-- What stands before the name leads to the directory. -/
  joined : ∃ base, path.toList = base ++ '/' :: name.toList ∧
    (directory.toList = base ∨ directory.toList = base ++ ['/'])

section Files

variable {fs : FileSystem} {directory path name : String}

/-- The path of a name in a directory starts where that of the directory does, leads to the
    same place and ends with the name. -/
theorem Beneath.ways (h : Beneath directory path name) {place : Place}
    (hlocate : fs.locate directory = .ok place) :
    ∃ base, parts path.toList = base ++ [name] ∧
      base.foldlM fs.follow (fs.origin path.toList) = .ok place := by
  obtain ⟨base, hpath, hdirectory⟩ := h.joined
  obtain ⟨hne, hway⟩ := way_of_locate hlocate
  have horigin : fs.origin path.toList = fs.origin directory.toList := by
    unfold origin
    rcases hdirectory with hdirectory | hdirectory
    · obtain ⟨c, cs, hcons⟩ := List.exists_cons_of_ne_nil hne
      rw [hpath, ← hdirectory, hcons]
      rfl
    · rw [hpath, hdirectory]
      cases base <;> rfl
  refine ⟨parts base, ?_, ?_⟩
  · rw [hpath, parts_append, parts_of_not_mem h.single]
  rw [horigin]
  rcases hdirectory with hdirectory | hdirectory
  · rw [hdirectory] at hway ⊢
    exact hway
  · -- The empty part after the last slash stays where it is.
    rw [hdirectory, parts_append, List.foldlM_append] at hway
    obtain ⟨there, hthere, hstay⟩ := bind_eq_ok.1 hway
    have hplace : place = there := by
      change (fs.follow there "" >>= Except.ok) = .ok place at hstay
      obtain ⟨_, hfollow, hstay⟩ := bind_eq_ok.1 hstay
      cases hstay
      rcases (follow_eq_ok.1 hfollow).2 with ⟨-, hplace⟩ | ⟨hup, -⟩ | ⟨hname, -⟩
      · exact hplace
      · exact absurd hup (by decide)
      · exact absurd hname.1 (by decide)
    rw [hplace, hdirectory]
    exact hthere

/-- A file that is written to a name in a directory is right below the directory, and its
    path leads there. -/
theorem writeText_beneath {fs' : FileSystem} {place : Place} {text : String}
    (h : Beneath directory path name) (hlocate : fs.locate directory = .ok place)
    (hwrite : fs.writeText path text = .ok fs') :
    fs' = fs.set (place ++ [name]) (.file text.toUTF8) ∧
      fs'.locate path = .ok (place ++ [name]) := by
  obtain ⟨⟨start, ps⟩, hstart, hwrite⟩ := bind_eq_ok.1 hwrite
  obtain ⟨-, rfl, rfl⟩ := eq_of_start hstart
  obtain ⟨base, hparts, hway⟩ := h.ways hlocate
  rw [hparts] at hstart
  simp only [hparts, List.dropLast_concat, List.getLastD_concat, hway, ok_bind] at hwrite
  obtain ⟨file, hfile, hwrite⟩ := bind_eq_ok.1 hwrite
  obtain ⟨hplace, hname, hfree, rfl⟩ := placeForFile_eq_ok.1 hfile
  cases hwrite
  have hne : place ++ [name] ≠ [] := by simp
  refine ⟨rfl, ?_⟩
  have hstart' : (fs.set (place ++ [name]) (.file text.toUTF8)).start path =
      .ok (fs.origin path.toList, base ++ [name]) := hstart
  have hdown : (fs.set (place ++ [name]) (.file text.toUTF8)).follow place name =
      .ok (place ++ [name]) := by
    refine follow_eq_ok.2 ⟨isDirectory_set hne hfree _ hplace, .inr (.inr ⟨hname, ?_, rfl⟩)⟩
    rw [entry?_set hne, if_pos rfl]
    rfl
  unfold locate
  rw [hstart', ok_bind]
  simp only [List.foldlM_append, foldlM_follow_set hne hfree _ hway, ok_bind, List.foldlM_cons,
    List.foldlM_nil, hdown]
  rfl

end Files

end Netlister.FileSystem
