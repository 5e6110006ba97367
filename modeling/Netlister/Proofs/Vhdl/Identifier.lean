import Mathlib.Data.List.Basic
import Netlister.Vhdl.Identifier

/-! # Where an identifier ends

  In a text, a basic identifier goes on for as long as letters, digits and underscores
  do. An extended identifier may have any character inside, blanks, semicolons and line
  feeds too; it ends with the first backslash that is not the first of a pair.

  - `eq_of_append`: so a text in which an identifier is followed by a character that cannot
    belong to it tells where the identifier ends, and which one it is.
  - `append_ne_keyword`: no identifier is mistaken for a reserved word.
-/

namespace Netlister.Vhdl.Identifier

/-! ### Both kinds of identifiers -/

/-- Backslashes occur in adjacent pairs only, counted from the left. -/
inductive Paired : List Char → Prop where
  | nil : Paired []
  | plain {c : Char} {cs : List Char} : c ≠ '\\' → Paired cs → Paired (c :: cs)
  | pair {cs : List Char} : Paired cs → Paired ('\\' :: '\\' :: cs)

/-- The name stands between backslashes, and inside they occur in pairs only. -/
def IsExtended (name : String) : Prop :=
  ∃ inner, Paired inner ∧ name.toList = '\\' :: inner ++ ['\\']

/-- Reads the characters from the left for `Paired`. -/
def isPaired : List Char → Bool
  | [] => true
  | '\\' :: '\\' :: cs => isPaired cs
  | c :: cs => c != '\\' && isPaired cs

theorem isPaired_iff (cs : List Char) : isPaired cs = true ↔ Paired cs := by
  constructor
  · intro h
    fun_induction isPaired cs with
    | case1 => exact .nil
    | case2 cs ih => exact .pair (ih h)
    | case3 c cs _ ih =>
      simp only [Bool.and_eq_true, bne_iff_ne] at h
      exact .plain h.1 (ih h.2)
  · intro h
    induction h with
    | nil => rfl
    | plain hc _ ih => simp [isPaired, hc, ih]
    | pair _ ih => simpa [isPaired] using ih

instance (cs : List Char) : Decidable (Paired cs) := decidable_of_iff _ (isPaired_iff cs)

instance (name : String) : Decidable (IsExtended name) :=
  decidable_of_iff (name.toList = '\\' :: name.toList.tail.dropLast ++ ['\\'] ∧
      Paired name.toList.tail.dropLast) (by
    constructor
    · rintro ⟨htext, hpaired⟩
      exact ⟨_, hpaired, htext⟩
    · rintro ⟨inner, hpaired, htext⟩
      simpa [htext] using hpaired)

/-- The name is an identifier of either kind. -/
def IsIdentifier (name : String) : Prop := isBasic name = true ∨ IsExtended name

instance (name : String) : Decidable (IsIdentifier name) := inferInstanceAs (Decidable (_ ∨ _))

/-- A character of basic identifiers. -/
def isWordChar (c : Char) : Bool := c.isAlphanum || c == '_'

/-- A character that cannot belong to an identifier which stands before it. -/
def IsStop (c : Char) : Prop := isWordChar c = false ∧ c ≠ '\\'

instance (c : Char) : Decidable (IsStop c) := inferInstanceAs (Decidable (_ ∧ _))

/-! ### First characters -/

/-- A basic identifier begins with a letter, and all of it is letters, digits and
    underscores. -/
theorem chars_of_isBasic {name : String} (h : isBasic name = true) :
    (∃ c cs, name.toList = c :: cs ∧ c.isAlpha = true) ∧ ∀ c ∈ name.toList, isWordChar c = true := by
  have hshape : hasBasicShape name.toList = true := by
    unfold isBasic at h
    simp only [Bool.and_eq_true] at h
    exact h.1
  revert hshape
  cases name.toList with
  | nil =>
    intro hshape
    simp [hasBasicShape] at hshape
  | cons c cs =>
    intro hshape
    simp only [hasBasicShape, Bool.and_eq_true, List.all_eq_true] at hshape
    obtain ⟨⟨⟨hfirst, hrest⟩, -⟩, -⟩ := hshape
    refine ⟨⟨c, cs, rfl, hfirst⟩, ?_⟩
    intro d hd
    rcases List.mem_cons.1 hd with heq | hmem
    · simp [isWordChar, Char.isAlphanum, heq, hfirst]
    · exact hrest d hmem

/-- An identifier begins with a letter or a backslash. -/
theorem exists_first {name : String} (h : IsIdentifier name) :
    ∃ c cs, name.toList = c :: cs ∧ (c.isAlpha = true ∨ c = '\\') := by
  rcases h with hbasic | ⟨inner, -, htext⟩
  · obtain ⟨⟨c, cs, htext, hletter⟩, -⟩ := chars_of_isBasic hbasic
    exact ⟨c, cs, htext, .inl hletter⟩
  · exact ⟨'\\', inner ++ ['\\'], htext, .inr rfl⟩

/-! ### Reading identifiers -/

/-- Words before characters that are not of words are told from the whole text. -/
theorem word_eq_of_append {v w : List Char} (hv : ∀ c ∈ v, isWordChar c = true)
    (hw : ∀ c ∈ w, isWordChar c = true) {c d : Char} (hc : isWordChar c = false)
    (hd : isWordChar d = false) {r s : List Char} (h : v ++ c :: r = w ++ d :: s) : v = w := by
  have htake : (v ++ c :: r).takeWhile isWordChar = (w ++ d :: s).takeWhile isWordChar := by rw [h]
  rw [List.takeWhile_append_of_pos hv, List.takeWhile_append_of_pos hw] at htake
  simpa [hc, hd] using htake

/-- The backslash that closes an extended identifier is the first that is not one of a
    pair. -/
theorem inner_eq_of_append {a b : List Char} (ha : Paired a) (hb : Paired b) {c d : Char}
    (hc : c ≠ '\\') (hd : d ≠ '\\') {r s : List Char}
    (h : a ++ '\\' :: c :: r = b ++ '\\' :: d :: s) : a = b := by
  -- The two texts are read from the left, character by character or pair by pair.
  induction ha generalizing b with
  | nil =>
    cases hb with
    | nil => rfl
    | plain hfirst _ =>
      simp only [List.nil_append, List.cons_append, List.cons.injEq] at h
      exact absurd h.1.symm hfirst
    | pair _ =>
      simp only [List.nil_append, List.cons_append, List.cons.injEq] at h
      exact absurd h.2.1 hc
  | plain hfirst _ ih =>
    cases hb with
    | nil =>
      simp only [List.nil_append, List.cons_append, List.cons.injEq] at h
      exact absurd h.1 hfirst
    | plain _ hrest =>
      simp only [List.cons_append, List.cons.injEq] at h
      rw [h.1, ih hrest h.2]
    | pair _ =>
      simp only [List.cons_append, List.cons.injEq] at h
      exact absurd h.1 hfirst
  | pair _ ih =>
    cases hb with
    | nil =>
      simp only [List.nil_append, List.cons_append, List.cons.injEq] at h
      exact absurd h.2.1.symm hd
    | plain hfirst _ =>
      simp only [List.cons_append, List.cons.injEq] at h
      exact absurd h.1.symm hfirst
    | pair hrest =>
      simp only [List.cons_append, List.cons.injEq] at h
      rw [ih hrest h.2.2]

/-- A basic and an extended identifier differ in their first character. -/
theorem basic_append_ne_extended {x y : String} (hx : isBasic x = true) (hy : IsExtended y)
    (r s : List Char) : x.toList ++ r ≠ y.toList ++ s := by
  obtain ⟨⟨c, cs, hxtext, hletter⟩, -⟩ := chars_of_isBasic hx
  obtain ⟨inner, -, hytext⟩ := hy
  intro h
  simp only [hxtext, hytext, List.cons_append, List.cons.injEq] at h
  rw [h.1] at hletter
  exact absurd hletter (by decide)

/-- A text that begins with an identifier and a character that cannot belong to it begins
    with no other identifier. -/
theorem eq_of_append {x y : String} (hx : IsIdentifier x) (hy : IsIdentifier y) {c d : Char}
    (hc : IsStop c) (hd : IsStop d) {r s : List Char}
    (h : x.toList ++ c :: r = y.toList ++ d :: s) : x = y := by
  apply String.toList_inj.1
  rcases hx with hx | hx <;> rcases hy with hy | hy
  · exact word_eq_of_append (chars_of_isBasic hx).2 (chars_of_isBasic hy).2 hc.1 hd.1 h
  · exact absurd h (basic_append_ne_extended hx hy _ _)
  · exact absurd h.symm (basic_append_ne_extended hy hx _ _)
  · obtain ⟨a, ha, hxtext⟩ := hx
    obtain ⟨b, hb, hytext⟩ := hy
    simp only [hxtext, hytext, List.cons_append, List.append_assoc, List.nil_append,
      List.cons.injEq, true_and] at h
    rw [hxtext, hytext, inner_eq_of_append ha hb hc.2 hd.2 h]

/-- A text that begins with an identifier does not begin with a reserved word. -/
theorem append_ne_keyword {x : String} (hx : IsIdentifier x) (word : String)
    (hword : isBasic word = false) (hletters : word.toList.all isWordChar = true)
    (hfirst : ∃ c cs, word.toList = c :: cs ∧ c ≠ '\\') {c d : Char} (hc : IsStop c)
    (hd : IsStop d) (r s : List Char) : x.toList ++ c :: r ≠ word.toList ++ d :: s := by
  intro h
  rcases hx with hx | ⟨inner, -, hxtext⟩
  · have heq : x.toList = word.toList :=
      word_eq_of_append (chars_of_isBasic hx).2 (List.all_eq_true.1 hletters) hc.1 hd.1 h
    rw [String.toList_inj.1 heq, hword] at hx
    exact absurd hx (by decide)
  · obtain ⟨first, rest, hwtext, hne⟩ := hfirst
    simp only [hxtext, hwtext, List.cons_append, List.cons.injEq] at h
    exact hne h.1.symm

end Netlister.Vhdl.Identifier
