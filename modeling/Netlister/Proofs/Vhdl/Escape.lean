import Netlister.Proofs.Vhdl.Identifier

/-! # Reading escaped names

  A reader that meets a backslash reads an extended identifier: two backslashes stand
  for one, and the first backslash that is not one of two ends the identifier.

  - `readExtended_eq_some_iff`: the reader takes exactly the texts that begin with a name
    between backslashes, written with its own backslashes doubled.
  - `paired_iff`: these are the texts in which backslashes occur in pairs.
  - `escape_read_whole_iff`: so an escaped name is read to its end, and gives the name back.
    The exception are names that stand between backslashes. `escape` leaves them as they
    are, and a backslash inside them that is not one of two is not where the name ends.
-/

namespace Netlister.Vhdl.Identifier

/-! ### The reader -/

/-- Reads on behind the first backslash of an extended identifier: what the identifier
    spells, and the text behind it. -/
def readInner : List Char → Option (List Char × List Char)
  | [] => none
  | '\\' :: '\\' :: cs => (readInner cs).map fun r => ('\\' :: r.1, r.2)
  | '\\' :: cs => some ([], cs)
  | c :: cs => (readInner cs).map fun r => (c :: r.1, r.2)

/-- Reads the extended identifier at the beginning of a text. -/
def readExtended : List Char → Option (List Char × List Char)
  | '\\' :: cs => readInner cs
  | _ => none

/-- A backslash that no other follows ends the identifier. -/
theorem readInner_close {rest : List Char} (h : rest.head? ≠ some '\\') :
    readInner ('\\' :: rest) = some ([], rest) := by
  cases rest with
  | nil => rfl
  | cons c cs =>
    have hc : c ≠ '\\' := fun heq => h (congrArg some heq)
    simp [readInner, hc]

/-- What was doubled is read back, up to the closing backslash. -/
theorem readInner_double (cs : List Char) {rest : List Char} (h : rest.head? ≠ some '\\') :
    readInner (doubleBackslashes cs ++ '\\' :: rest) = some (cs, rest) := by
  induction cs with
  | nil => exact readInner_close h
  | cons c cs ih =>
    by_cases hc : c = '\\'
    · simp [doubleBackslashes, readInner, hc, ih]
    · simp [doubleBackslashes, readInner, hc, ih]

/-- The reader only takes what was doubled. -/
theorem eq_of_readInner {text spelled rest : List Char}
    (h : readInner text = some (spelled, rest)) :
    text = doubleBackslashes spelled ++ '\\' :: rest ∧ rest.head? ≠ some '\\' := by
  fun_induction readInner text generalizing spelled with
  | case1 => cases h
  | case2 cs ih =>
    obtain ⟨⟨inner, behind⟩, hinner, heq⟩ := Option.map_eq_some_iff.1 h
    cases heq
    obtain ⟨htext, hrest⟩ := ih hinner
    exact ⟨by simp [doubleBackslashes, htext], hrest⟩
  | case3 cs hpair =>
    cases h
    refine ⟨rfl, ?_⟩
    intro hhead
    obtain ⟨behind, hbehind⟩ := List.head?_eq_some_iff.1 hhead
    exact hpair behind hbehind
  | case4 c cs _ hc ih =>
    have hplain : c ≠ '\\' := hc
    obtain ⟨⟨inner, behind⟩, hinner, heq⟩ := Option.map_eq_some_iff.1 h
    cases heq
    obtain ⟨htext, hrest⟩ := ih hinner
    exact ⟨by simp [doubleBackslashes, hplain, htext], hrest⟩

/-- What the reader takes, and what it makes of it. -/
theorem readExtended_eq_some_iff {text spelled rest : List Char} :
    readExtended text = some (spelled, rest) ↔
      text = '\\' :: doubleBackslashes spelled ++ '\\' :: rest ∧ rest.head? ≠ some '\\' := by
  constructor
  · intro h
    unfold readExtended at h
    split at h
    · obtain ⟨htext, hrest⟩ := eq_of_readInner h
      exact ⟨by rw [htext]; rfl, hrest⟩
    · cases h
  · rintro ⟨rfl, hrest⟩
    exact readInner_double spelled hrest

/-! ### Escaped names -/

/-- Backslashes occur in pairs iff the text was doubled. -/
theorem paired_iff {cs : List Char} : Paired cs ↔ ∃ spelled, cs = doubleBackslashes spelled := by
  constructor
  · intro h
    induction h with
    | nil => exact ⟨[], rfl⟩
    | @plain c cs hc _ ih =>
      obtain ⟨spelled, rfl⟩ := ih
      exact ⟨c :: spelled, by simp [doubleBackslashes, hc]⟩
    | pair _ ih =>
      obtain ⟨spelled, rfl⟩ := ih
      exact ⟨'\\' :: spelled, by simp [doubleBackslashes]⟩
  · rintro ⟨spelled, rfl⟩
    induction spelled with
    | nil => exact .nil
    | cons c cs ih =>
      by_cases hc : c = '\\'
      · simpa [doubleBackslashes, hc] using ih.pair
      · simpa [doubleBackslashes, hc] using ih.plain hc

theorem isDelimited_iff {cs : List Char} :
    isDelimited cs = true ↔ ∃ inner, cs = '\\' :: inner ++ ['\\'] := by
  constructor
  · intro h
    simp only [isDelimited, Bool.and_eq_true, decide_eq_true_iff, beq_iff_eq] at h
    obtain ⟨⟨hlength, hfirst⟩, hlast⟩ := h
    obtain ⟨rest, rfl⟩ := List.head?_eq_some_iff.1 hfirst
    have hrest : rest ≠ [] := by
      rintro rfl
      simp at hlength
    rw [List.getLast?_cons_of_ne_nil hrest] at hlast
    obtain ⟨inner, rfl⟩ := List.getLast?_eq_some_iff.1 hlast
    exact ⟨inner, rfl⟩
  · rintro ⟨inner, rfl⟩
    have hlast : ('\\' :: inner ++ ['\\']).getLast? = some '\\' := List.getLast?_concat
    rw [isDelimited, hlast]
    simp

theorem toList_escape_of_delimited {name : String} (h : isDelimited name.toList = true) :
    (escape name).toList = name.toList := by
  rw [escape, if_pos h]

theorem toList_escape_of_not_delimited {name : String} (h : isDelimited name.toList = false) :
    (escape name).toList = '\\' :: doubleBackslashes name.toList ++ ['\\'] := by
  rw [escape, h]
  simp

/-- Escaped names stand between backslashes. -/
theorem exists_inner_escape (name : String) :
    ∃ inner, (escape name).toList = '\\' :: inner ++ ['\\'] := by
  cases hdelimited : isDelimited name.toList with
  | true =>
    rw [toList_escape_of_delimited hdelimited]
    exact isDelimited_iff.1 hdelimited
  | false => exact ⟨_, toList_escape_of_not_delimited hdelimited⟩

/-- The reader stops at the last backslash iff those before it come in pairs. -/
theorem readExtended_delimited {inner spelled rest : List Char} (h : rest.head? ≠ some '\\') :
    readExtended ('\\' :: inner ++ ['\\'] ++ rest) = some (spelled, rest) ↔
      inner = doubleBackslashes spelled := by
  rw [readExtended_eq_some_iff]
  constructor
  · intro ⟨htext, _⟩
    have hcancel : inner ++ '\\' :: rest = doubleBackslashes spelled ++ '\\' :: rest := by
      simpa using htext
    exact List.append_cancel_right hcancel
  · intro hinner
    exact ⟨by simp [hinner], h⟩

/-- A name whose escaped form is one extended identifier: it does not stand between
    backslashes, or is an extended identifier itself. -/
def Escapable (name : String) : Prop := isDelimited name.toList = false ∨ IsExtended name

instance (name : String) : Decidable (Escapable name) := inferInstanceAs (Decidable (_ ∨ _))

/-- Only names that stand between backslashes can have a single backslash inside. -/
theorem paired_inner_escape_iff {name : String} {inner : List Char}
    (h : (escape name).toList = '\\' :: inner ++ ['\\']) : Paired inner ↔ Escapable name := by
  unfold Escapable
  cases hdelimited : isDelimited name.toList with
  | true =>
    -- The name is its own escaped form.
    rw [toList_escape_of_delimited hdelimited] at h
    unfold IsExtended
    simp [h]
  | false =>
    rw [toList_escape_of_not_delimited hdelimited] at h
    have hinner : inner = doubleBackslashes name.toList := by simpa using h.symm
    simp [paired_iff, hinner]

/-- **Where an escaped name ends.** An escaped name stands between backslashes. Inside they
    occur in pairs only, and a reader stops exactly where the name ends, iff the name does
    not stand between backslashes already or is an extended identifier itself. A name of the
    first kind is what the reader gives back. -/
theorem escape_read_whole_iff (name : String) :
    (∃ inner, (escape name).toList = '\\' :: inner ++ ['\\'] ∧
      (Paired inner ↔ Escapable name)) ∧
    ∀ rest, rest.head? ≠ some '\\' →
      ((∃ spelled, readExtended ((escape name).toList ++ rest) = some (spelled, rest)) ↔
        Escapable name) ∧
      (isDelimited name.toList = false →
        readExtended ((escape name).toList ++ rest) = some (name.toList, rest)) := by
  obtain ⟨inner, hinner⟩ := exists_inner_escape name
  have hpaired : Paired inner ↔ Escapable name := paired_inner_escape_iff hinner
  refine ⟨⟨inner, hinner, hpaired⟩, ?_⟩
  intro rest hrest
  constructor
  · rw [← hpaired, paired_iff, hinner]
    simp only [readExtended_delimited hrest]
  · intro hdelimited
    rw [toList_escape_of_not_delimited hdelimited]
    exact (readExtended_delimited hrest).2 rfl

/-- A name with a backslash in it is read back from a text in which it was escaped. -/
theorem escape_read_whole_iff_share :
    isDelimited "\\srv\\x".toList = false ∧ (" <= a;".toList).head? ≠ some '\\' ∧
      escape "\\srv\\x" = "\\\\\\srv\\\\x\\" ∧
      readExtended ("\\\\\\srv\\\\x\\ <= a;".toList) =
        some ("\\srv\\x".toList, " <= a;".toList) := by
  have hdelimited : isDelimited "\\srv\\x".toList = false := by decide
  have hrest : (" <= a;".toList).head? ≠ some '\\' := by decide
  obtain ⟨-, hread⟩ := escape_read_whole_iff "\\srv\\x"
  exact ⟨hdelimited, hrest, by decide, (hread _ hrest).2 hdelimited⟩

/-- Two names that stand between backslashes and are not extended identifiers. Both are left
    as they are. A reader stops inside the first, so that the rest of it is read as something
    else, and reads the second together with what follows it. -/
theorem escape_leaves_open :
    escape "\\a\\b\\" = "\\a\\b\\" ∧ ¬ IsExtended (escape "\\a\\b\\") ∧
      readExtended ("\\a\\b\\ <= x;".toList) = some (['a'], "b\\ <= x;".toList) ∧
      escape "\\\\\\" = "\\\\\\" ∧ ¬ IsExtended (escape "\\\\\\") ∧
      readExtended ("\\\\\\ <= \\x\\;".toList) =
        some ("\\ <= ".toList, "x\\;".toList) := by
  decide

end Netlister.Vhdl.Identifier
