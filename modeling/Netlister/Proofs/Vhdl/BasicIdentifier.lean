import Mathlib.Computability.Language
import Netlister.Proofs.Vhdl.Identifier

/-! # Basic identifiers

  VHDL-93 describes basic identifiers by a grammar: a letter, and then letters and digits, in
  front of each of which one underscore may stand. Reserved words are none. `isBasic` does not
  follow the grammar, it puts four questions to the whole name.

  - `mem_rest_iff`: what may follow the letter can be read from the left (`isRest`).
  - `isRest_eq`: whoever reads so finds letters, digits and underscores, none of them last and
    no two side by side.
  - `isBasic_lower`: whether a name is a basic identifier does not depend on the case of
    its letters.

  `isBasic_iff_grammar` puts these together.
-/

namespace Netlister.Vhdl.Identifier

open Computability

/-! ### The grammar -/

/-- The words of one character of a kind. -/
def oneOf (kind : Char → Prop) : Language Char := {w | ∃ c, kind c ∧ w = [c]}

/-- The ASCII letters. -/
def letter : Language Char := oneOf fun c => 'A' ≤ c ∧ c ≤ 'Z' ∨ 'a' ≤ c ∧ c ≤ 'z'

/-- The ASCII digits. -/
def digit : Language Char := oneOf fun c => '0' ≤ c ∧ c ≤ '9'

/-- The underscore. -/
def underscore : Language Char := {['_']}

/-- `[ underscore ] letter_or_digit` -/
def part : Language Char := (1 + underscore) * (letter + digit)

/-- `{ [ underscore ] letter_or_digit }` -/
def rest : Language Char := part∗

/-- `letter { [ underscore ] letter_or_digit }` -/
def basicIdentifier : Language Char := letter * rest

theorem isAlpha_iff_toNat (c : Char) : c.isAlpha = true ↔
    (65 ≤ c.toNat ∧ c.toNat ≤ 90) ∨ (97 ≤ c.toNat ∧ c.toNat ≤ 122) := by
  have hletter : c.isAlpha = (decide ('A'.val ≤ c.val ∧ c.val ≤ 'Z'.val) ||
      decide ('a'.val ≤ c.val) && decide (c.val ≤ 'z'.val)) := rfl
  simp [hletter, UInt32.le_iff_toNat_le]

theorem mem_letter_iff {w : List Char} : w ∈ letter ↔ ∃ c, c.isAlpha = true ∧ w = [c] := by
  have hkind (c : Char) : ('A' ≤ c ∧ c ≤ 'Z' ∨ 'a' ≤ c ∧ c ≤ 'z') ↔ c.isAlpha = true := by
    simp [isAlpha_iff_toNat, Char.le_def, UInt32.le_iff_toNat_le]
  simp only [← hkind]
  exact Iff.rfl

theorem mem_digit_iff {w : List Char} : w ∈ digit ↔ ∃ c, c.isDigit = true ∧ w = [c] := by
  have hkind (c : Char) : ('0' ≤ c ∧ c ≤ '9') ↔ c.isDigit = true := by
    simp [Char.isDigit, Char.le_def]
  simp only [← hkind]
  exact Iff.rfl

/-- A part is a letter or digit, after an underscore or not. -/
theorem mem_part_iff {w : List Char} :
    w ∈ part ↔ ∃ c, c.isAlphanum = true ∧ (w = [c] ∨ w = ['_', c]) := by
  have hlast (v : List Char) : v ∈ letter + digit ↔ ∃ c, c.isAlphanum = true ∧ v = [c] := by
    simp only [Language.mem_add, mem_letter_iff, mem_digit_iff, Char.isAlphanum, Bool.or_eq_true,
      or_and_right, exists_or]
  have hfirst (v : List Char) : v ∈ 1 + underscore ↔ v = [] ∨ v = ['_'] := Iff.rfl
  simp only [part, Language.mem_mul, hlast, hfirst]
  constructor
  · rintro ⟨_, rfl | rfl, _, ⟨c, hc, rfl⟩, rfl⟩
    · exact ⟨c, hc, .inl rfl⟩
    · exact ⟨c, hc, .inr rfl⟩
  · rintro ⟨c, hc, rfl | rfl⟩
    · exact ⟨[], .inl rfl, [c], ⟨c, hc, rfl⟩, rfl⟩
    · exact ⟨['_'], .inr rfl, [c], ⟨c, hc, rfl⟩, rfl⟩

/-! ### Reading from the left -/

/-- Whether a text is made of letters and digits, with an underscore in front of any. -/
def isRest : List Char → Bool
  | [] => true
  | '_' :: c :: cs => c.isAlphanum && isRest cs
  | c :: cs => c.isAlphanum && isRest cs

theorem ne_underscore_of_isAlphanum {c : Char} (h : c.isAlphanum = true) : c ≠ '_' := by
  rintro rfl
  cases h

theorem isRest_cons {c : Char} (hc : c ≠ '_') (cs : List Char) :
    isRest (c :: cs) = (c.isAlphanum && isRest cs) := by
  rw [isRest]
  rintro d ds rfl
  exact absurd rfl hc

/-- What follows the grammar still does so with one more part in front. -/
theorem append_mem_rest {w cs : List Char} (hw : w ∈ part) (hcs : cs ∈ rest) : w ++ cs ∈ rest := by
  obtain ⟨parts, rfl, hparts⟩ := Language.mem_kstar.1 hcs
  exact Language.mem_kstar.2 ⟨w :: parts, rfl, List.forall_mem_cons.2 ⟨hw, hparts⟩⟩

/-- The grammar is followed iff reading from the left succeeds. -/
theorem mem_rest_iff {cs : List Char} : cs ∈ rest ↔ isRest cs = true := by
  constructor
  · intro h
    -- A part is read as a whole: it begins with an underscore, or with what is none.
    obtain ⟨parts, rfl, hall⟩ := Language.mem_kstar.1 h
    clear h
    induction parts with
    | nil => rfl
    | cons w parts ih =>
      obtain ⟨hw, hparts⟩ := List.forall_mem_cons.1 hall
      obtain ⟨c, hc, rfl | rfl⟩ := mem_part_iff.1 hw
      · show isRest (c :: parts.flatten) = true
        rw [isRest_cons (ne_underscore_of_isAlphanum hc), hc, ih hparts]
        rfl
      · show (c.isAlphanum && isRest parts.flatten) = true
        rw [hc, ih hparts]
        rfl
  · intro h
    fun_induction isRest cs with
    | case1 => exact Language.nil_mem_kstar _
    | case2 c cs ih =>
      obtain ⟨hc, hcs⟩ := Bool.and_eq_true_iff.1 h
      exact append_mem_rest (mem_part_iff.2 ⟨c, hc, .inr rfl⟩) (ih hcs)
    | case3 c cs _ ih =>
      obtain ⟨hc, hcs⟩ := Bool.and_eq_true_iff.1 h
      exact append_mem_rest (mem_part_iff.2 ⟨c, hc, .inl rfl⟩) (ih hcs)

/-! ### Asking about the whole -/

theorem hasDoubleUnderscore_cons_cons (c d : Char) (cs : List Char) :
    hasDoubleUnderscore (c :: d :: cs) =
      (decide (c = '_' ∧ d = '_') || hasDoubleUnderscore (d :: cs)) := by
  by_cases h : c = '_' ∧ d = '_'
  · obtain ⟨rfl, rfl⟩ := h
    simp [hasDoubleUnderscore]
  · have hnext : hasDoubleUnderscore (c :: d :: cs) = hasDoubleUnderscore (d :: cs) := by
      -- The definition goes on to the rest, unless its first case applies.
      rw [hasDoubleUnderscore]
      rintro cs' rfl heq
      cases heq
      exact h ⟨rfl, rfl⟩
    simp [hnext, h]

/-- Whether no underscore stands last, or next to another. -/
def hasSingleUnderscores (cs : List Char) : Bool :=
  cs.getLast? != some '_' && !hasDoubleUnderscore cs

theorem hasSingleUnderscores_cons {c : Char} (hc : c ≠ '_') (cs : List Char) :
    hasSingleUnderscores (c :: cs) = hasSingleUnderscores cs := by
  unfold hasSingleUnderscores
  cases cs with
  | nil =>
    have hlast : (some c != some '_') = true := bne_iff_ne.2 (by simpa using hc)
    simp [hasDoubleUnderscore, hlast]
  | cons d cs => simp [hasDoubleUnderscore_cons_cons, hc]

theorem hasSingleUnderscores_underscore (c : Char) (cs : List Char) :
    hasSingleUnderscores ('_' :: c :: cs) = (c != '_' && hasSingleUnderscores (c :: cs)) := by
  unfold hasSingleUnderscores
  rw [List.getLast?_cons_cons, hasDoubleUnderscore_cons_cons]
  by_cases hc : c = '_'
  · simp [hc]
  · simp [hc, bne_iff_ne.2 hc]

theorem isWordChar_of_ne {c : Char} (hc : c ≠ '_') : isWordChar c = c.isAlphanum := by
  simp [isWordChar, hc]

/-- Reading from the left succeeds iff all characters are of words, and underscores stand
    alone and not last. -/
theorem isRest_eq (cs : List Char) :
    isRest cs = (cs.all isWordChar && hasSingleUnderscores cs) := by
  fun_induction isRest cs with
  | case1 => rfl
  | case2 c cs ih =>
    have hunderscore : isWordChar '_' = true := by decide
    rw [List.all_cons, List.all_cons, hunderscore, hasSingleUnderscores_underscore, ih]
    by_cases hc : c = '_'
    · -- Two underscores are too many.
      simp [hc]
    · rw [isWordChar_of_ne hc, hasSingleUnderscores_cons hc, bne_iff_ne.2 hc, Bool.true_and,
        Bool.true_and, Bool.and_assoc]
  | case3 c cs hnot ih =>
    by_cases hc : c = '_'
    · -- The underscore is the last character, else the case before had applied.
      subst hc
      cases cs with
      | nil => rfl
      | cons d cs => exact absurd rfl (hnot d cs rfl)
    · rw [List.all_cons, isWordChar_of_ne hc, hasSingleUnderscores_cons hc, ih, Bool.and_assoc]

theorem hasBasicShape_cons_iff (c : Char) (cs : List Char) :
    hasBasicShape (c :: cs) = true ↔ c.isAlpha = true ∧ isRest cs = true := by
  have hshape : hasBasicShape (c :: cs) =
      (c.isAlpha && cs.all isWordChar && (c :: cs).getLast? != some '_' &&
        !hasDoubleUnderscore (c :: cs)) := rfl
  rw [hshape, Bool.and_assoc, Bool.and_assoc, Bool.and_eq_true]
  refine and_congr_right fun hc => ?_
  -- The letter in front is no underscore, so it does not count for the last two questions.
  have hne : c ≠ '_' := ne_underscore_of_isAlphanum (by simp [Char.isAlphanum, hc])
  have hsingle := hasSingleUnderscores_cons hne cs
  rw [isRest_eq, ← hsingle, hasSingleUnderscores]

/-- A text has the shape of a basic identifier iff it follows the grammar. -/
theorem hasBasicShape_iff {cs : List Char} :
    hasBasicShape cs = true ↔ cs ∈ basicIdentifier := by
  unfold basicIdentifier
  rw [Language.mem_mul]
  constructor
  · intro h
    cases cs with
    | nil => cases h
    | cons c cs =>
      obtain ⟨hc, hcs⟩ := (hasBasicShape_cons_iff c cs).1 h
      exact ⟨[c], mem_letter_iff.2 ⟨c, hc, rfl⟩, cs, mem_rest_iff.2 hcs, rfl⟩
  · rintro ⟨_, hletter, cs, hcs, rfl⟩
    obtain ⟨c, hc, rfl⟩ := mem_letter_iff.1 hletter
    exact (hasBasicShape_cons_iff c cs).2 ⟨hc, mem_rest_iff.1 hcs⟩

/-! ### The case of letters -/

theorem toNat_toLower (c : Char) :
    c.toLower.toNat = if 65 ≤ c.toNat ∧ c.toNat ≤ 90 then c.toNat + 32 else c.toNat := by
  have hupper : c.val ≥ 'A'.val ∧ c.val ≤ 'Z'.val ↔ 65 ≤ c.toNat ∧ c.toNat ≤ 90 := by
    simp [UInt32.le_iff_toNat_le]
  have hdistance : ('a'.val - 'A'.val).toNat = 32 := by decide
  unfold Char.toLower
  split
  · next h =>
    rw [if_pos (hupper.1 h), Char.toNat, UInt32.toNat_add, hdistance, Char.toNat_val]
    have hcode := hupper.1 h
    omega
  · next h => rw [if_neg (mt hupper.2 h)]

theorem toNat_toUpper (c : Char) :
    c.toUpper.toNat = if 97 ≤ c.toNat ∧ c.toNat ≤ 122 then c.toNat - 32 else c.toNat := by
  have hlower : 'a'.val ≤ c.val ∧ c.val ≤ 'z'.val ↔ 97 ≤ c.toNat ∧ c.toNat ≤ 122 := by
    simp [UInt32.le_iff_toNat_le]
  -- The distance is negative, so it is added modulo the size of a word.
  have hdistance : ('A'.val - 'a'.val).toNat = UInt32.size - 32 := by decide
  unfold Char.toUpper
  split
  · next h =>
    rw [if_pos (hlower.1 h), Char.toNat, UInt32.toNat_add, hdistance, Char.toNat_val]
    have hcode := hlower.1 h
    have hsize : UInt32.size = 2 ^ 32 := rfl
    omega
  · next h => rw [if_neg (mt hlower.2 h)]

theorem isDigit_of_isAlpha {c : Char} (h : c.isAlpha = true) : c.isDigit = false := by
  have hletter := (isAlpha_iff_toNat c).1 h
  have hnine : '9'.toNat = 57 := rfl
  rw [Bool.eq_false_iff, ne_eq, Char.isDigit_iff_toNat]
  omega

theorem isAlpha_toLower (c : Char) : c.toLower.isAlpha = c.isAlpha := by
  rw [Bool.eq_iff_iff, isAlpha_iff_toNat, isAlpha_iff_toNat, toNat_toLower]
  split <;> omega

theorem toLower_toLower (c : Char) : c.toLower.toLower = c.toLower := by
  rw [← Char.toNat_inj, toNat_toLower c.toLower, toNat_toLower c]
  split_ifs <;> omega

theorem toLower_toUpper (c : Char) : c.toUpper.toLower = c.toLower := by
  rw [← Char.toNat_inj, toNat_toLower, toNat_toLower, toNat_toUpper]
  split_ifs <;> omega

/-- Lower case leaves a character as it is, or turns a letter into a letter. -/
theorem toLower_cases (c : Char) :
    c.toLower = c ∨ c.isAlpha = true ∧ c.toLower.isAlpha = true := by
  rw [isAlpha_toLower, and_self, isAlpha_iff_toNat, ← Char.toNat_inj, toNat_toLower]
  split <;> omega

theorem isAlphanum_toLower (c : Char) : c.toLower.isAlphanum = c.isAlphanum := by
  rw [Char.isAlphanum, Char.isAlphanum, isAlpha_toLower]
  rcases toLower_cases c with hsame | ⟨hletter, hlower⟩
  · rw [hsame]
  · rw [isDigit_of_isAlpha hlower, isDigit_of_isAlpha hletter]

theorem toLower_eq_underscore (c : Char) : c.toLower = '_' ↔ c = '_' := by
  have hunderscore : '_'.isAlpha = false := by decide
  rcases toLower_cases c with hsame | ⟨hletter, hlower⟩
  · rw [hsame]
  · -- Neither of the two letters is an underscore.
    constructor
    · intro heq
      rw [heq, hunderscore] at hlower
      cases hlower
    · intro heq
      rw [heq, hunderscore] at hletter
      cases hletter

theorem hasDoubleUnderscore_map_toLower (cs : List Char) :
    hasDoubleUnderscore (cs.map Char.toLower) = hasDoubleUnderscore cs := by
  induction cs with
  | nil => rfl
  | cons c cs ih =>
    cases cs with
    | nil => simp [hasDoubleUnderscore]
    | cons d cs =>
      rw [List.map_cons, List.map_cons, hasDoubleUnderscore_cons_cons,
        hasDoubleUnderscore_cons_cons, ← List.map_cons, ih]
      simp only [toLower_eq_underscore]

/-- Lower case keeps the shape of a basic identifier. -/
theorem hasBasicShape_map_toLower (cs : List Char) :
    hasBasicShape (cs.map Char.toLower) = hasBasicShape cs := by
  cases cs with
  | nil => rfl
  | cons c cs =>
    -- The first character, the others, the last one and the pairs are looked at in turn.
    have hword (d : Char) : (d.toLower.isAlphanum || d.toLower == '_') =
        (d.isAlphanum || d == '_') := by
      rw [isAlphanum_toLower, Bool.eq_iff_iff]
      simp [toLower_eq_underscore]
    have hall : (cs.map Char.toLower).all (fun d => d.isAlphanum || d == '_') =
        cs.all (fun d => d.isAlphanum || d == '_') := by
      rw [List.all_map]
      exact congrArg cs.all (funext hword)
    have hlast : (((c :: cs).map Char.toLower).getLast? != some '_') =
        ((c :: cs).getLast? != some '_') := by
      rw [List.getLast?_map, Bool.eq_iff_iff]
      simp [toLower_eq_underscore]
    have hdouble := hasDoubleUnderscore_map_toLower (c :: cs)
    rw [List.map_cons] at hlast hdouble ⊢
    rw [hasBasicShape, hasBasicShape, isAlpha_toLower, hall, hlast, hdouble]

theorem lower_lower (name : String) : lower (lower name) = lower name := by
  unfold lower
  rw [String.toList_ofList, List.map_map]
  congr 1
  exact List.map_congr_left fun c _ => toLower_toLower c

/-- Whether a name is a basic identifier does not depend on the case of its letters. -/
theorem isBasic_lower (name : String) : isBasic (lower name) = isBasic name := by
  unfold isBasic
  rw [lower_lower, lower, String.toList_ofList, hasBasicShape_map_toLower]

/-! ### Both together -/

/-- The second name is the first with letters in another case, none, some or all of them. -/
def CaseVariant (name other : String) : Prop :=
  List.Forall₂ (fun c d => d = c ∨ d = c.toLower ∨ d = c.toUpper) name.toList other.toList

theorem CaseVariant.lower_eq {name other : String} (h : CaseVariant name other) :
    lower other = lower name := by
  have hsame : List.Forall₂ (· = ·) (name.toList.map Char.toLower)
      (other.toList.map Char.toLower) := by
    rw [List.forall₂_map_left_iff, List.forall₂_map_right_iff]
    refine h.imp ?_
    rintro c d (rfl | rfl | rfl)
    · rfl
    · rw [toLower_toLower]
    · rw [toLower_toUpper]
  rw [List.forall₂_eq_eq_eq] at hsame
  rw [lower, lower, hsame]

/-- **Basic identifiers are those of the grammar.** A name is taken for a basic identifier iff
    it is derived from `letter { [ underscore ] letter_or_digit }`, over the ASCII letters and
    digits, and is not a reserved word in lower case. So names that differ in the case of
    letters only are both basic identifiers or both none. -/
theorem isBasic_iff_grammar (name : String) :
    (isBasic name = true ↔
      name.toList ∈ basicIdentifier ∧ lower name ∉ reservedWords) ∧
    ∀ other, CaseVariant name other → isBasic other = isBasic name := by
  refine ⟨?_, ?_⟩
  · unfold isBasic
    rw [Bool.and_eq_true, hasBasicShape_iff]
    simp
  · intro other hother
    rw [← isBasic_lower other, hother.lower_eq, isBasic_lower]

/-- Neither underscores nor the case of letters keep a name from being a basic identifier, and a
    reserved word is none in any case of letters. -/
theorem isBasic_iff_grammar_dataOut :
    CaseVariant "Data_Out" "dATA_out" ∧ isBasic "dATA_out" = true ∧
      "dATA_out".toList ∈ basicIdentifier ∧
      CaseVariant "signal" "Signal" ∧ isBasic "Signal" = false := by
  have hdata : CaseVariant "Data_Out" "dATA_out" := by
    unfold CaseVariant
    decide +kernel
  have hsignal : CaseVariant "signal" "Signal" := by
    unfold CaseVariant
    decide +kernel
  have hbasic : isBasic "dATA_out" = true := by
    rw [(isBasic_iff_grammar "Data_Out").2 _ hdata]
    decide +kernel
  have hreserved : isBasic "Signal" = false := by
    rw [(isBasic_iff_grammar "signal").2 _ hsignal]
    decide +kernel
  exact ⟨hdata, hbasic, ((isBasic_iff_grammar _).1.1 hbasic).1, hsignal, hreserved⟩

end Netlister.Vhdl.Identifier
