import Netlister.Proofs.Vhdl.Escape

/-! # Undoing the escaping of names

  Escaping puts a name between backslashes and doubles those inside it. To undo it, the outer
  backslashes are dropped and of each two inside one is kept, counted from the left. Where a
  name ends with backslashes, its doubled ones and the closing one make one long run. That
  the closing one is dropped first is what keeps the pairs apart.

  - `halve_double`: what was doubled is halved to what it was.
  - `escape_escape`, `portName_portName`: nothing is escaped twice.
  - `halve_inner_escape_iff`: escaping can be undone for exactly the names that do not stand
    between backslashes (`Bare`). The others stay as they are, and halving shortens them.
  - `escape_eq_escape_iff`: so two names have one escaped form iff they are equal, or one of
    them is the escaped form of the other.
-/

namespace Netlister.Vhdl.Identifier

/-! ### Halving -/

/-- Keeps one of each two adjacent backslashes, counted from the left. -/
def halveBackslashes : List Char → List Char
  | [] => []
  | '\\' :: '\\' :: cs => '\\' :: halveBackslashes cs
  | c :: cs => c :: halveBackslashes cs

theorem halve_double (cs : List Char) : halveBackslashes (doubleBackslashes cs) = cs := by
  induction cs with
  | nil => rfl
  | cons c cs ih =>
    by_cases hc : c = '\\'
    · simp [doubleBackslashes, halveBackslashes, hc, ih]
    · simp [doubleBackslashes, halveBackslashes, hc, ih]

/-- What was doubled can be told from what else was. -/
theorem doubleBackslashes_injective : Function.Injective doubleBackslashes :=
  Function.LeftInverse.injective halve_double

/-- Halving makes no text longer. -/
theorem length_halve_le (cs : List Char) : (halveBackslashes cs).length ≤ cs.length := by
  fun_induction halveBackslashes cs with
  | case1 => exact Nat.le_refl 0
  | case2 cs ih =>
    simp only [List.length_cons]
    omega
  | case3 c cs _ ih =>
    simp only [List.length_cons]
    omega

/-! ### Names between backslashes -/

/-- An escaped name stands between backslashes. -/
theorem isDelimited_escape (name : String) : isDelimited (escape name).toList = true :=
  isDelimited_iff.2 (exists_inner_escape name)

/-- A basic identifier begins with a letter, and so does not stand between backslashes. -/
theorem not_isDelimited_of_isBasic {name : String} (h : isBasic name = true) :
    ¬ isDelimited name.toList = true := by
  intro hdelimited
  obtain ⟨inner, hinner⟩ := isDelimited_iff.1 hdelimited
  obtain ⟨⟨c, cs, htext, hletter⟩, -⟩ := chars_of_isBasic h
  rw [hinner, List.cons_append, List.cons.injEq] at htext
  rw [← htext.1] at hletter
  exact absurd hletter (by decide)

/-- The name does not begin and end with a backslash, or has no room for two. -/
def Bare (name : String) : Prop :=
  ¬ (name.toList.head? = some '\\' ∧ name.toList.getLast? = some '\\') ∨ name.utf8ByteSize < 2

instance (name : String) : Decidable (Bare name) := inferInstanceAs (Decidable (_ ∨ _))

/-- The bare names are those that do not stand between backslashes. -/
theorem bare_iff {name : String} : Bare name ↔ isDelimited name.toList = false := by
  rw [Bool.eq_false_iff]
  constructor
  · intro h hdelimited
    obtain ⟨inner, hinner⟩ := isDelimited_iff.1 hdelimited
    rcases h with hnot | hshort
    · rw [hinner] at hnot
      exact hnot ⟨rfl, List.getLast?_concat⟩
    · -- The two backslashes alone take two bytes.
      have hname : name = "\\" ++ String.ofList inner ++ "\\" := by
        apply String.toList_inj.1
        simp [hinner]
      have hslash : "\\".utf8ByteSize = 1 := rfl
      rw [hname, String.utf8ByteSize_append, String.utf8ByteSize_append, hslash] at hshort
      omega
  · intro h
    by_cases hboth : name.toList.head? = some '\\' ∧ name.toList.getLast? = some '\\'
    · have hlength : name.toList.length < 2 := by
        simpa [isDelimited, hboth.1, hboth.2] using h
      obtain ⟨rest, hrest⟩ := List.head?_eq_some_iff.1 hboth.1
      have hnil : rest = [] := by
        rw [hrest, List.length_cons] at hlength
        exact List.length_eq_zero_iff.1 (by omega)
      have hname : name = "\\" := by
        apply String.toList_inj.1
        rw [hrest, hnil]
        rfl
      exact .inr (by rw [hname]; decide)
    · exact .inl hboth

/-! ### Escaped names -/

theorem escape_escape (name : String) : escape (escape name) = escape name :=
  if_pos (isDelimited_escape name)

theorem portName_portName (name : String) : portName (portName name) = portName name := by
  by_cases hbasic : isBasic name = true
  · have hport : portName name = name := if_pos hbasic
    rw [hport, hport]
  · have hport : portName name = escape name := if_neg hbasic
    have hescaped : ¬ isBasic (escape name) = true := fun h =>
      not_isDelimited_of_isBasic h (isDelimited_escape name)
    rw [hport, portName, if_neg hescaped, escape_escape]

/-- Halving the inside of an escaped name gives the name back iff the name is bare. -/
theorem halve_inner_escape_iff {name : String} {inner : List Char}
    (h : (escape name).toList = '\\' :: inner ++ ['\\']) :
    halveBackslashes inner = name.toList ↔ Bare name := by
  rw [bare_iff]
  cases hdelimited : isDelimited name.toList with
  | true =>
    -- The name is its own escaped form, and so longer than what stands inside it.
    rw [toList_escape_of_delimited hdelimited] at h
    have hshorter : (halveBackslashes inner).length < name.toList.length := by
      have hle := length_halve_le inner
      rw [h]
      simp only [List.cons_append, List.length_cons, List.length_append]
      omega
    constructor
    · intro heq
      rw [heq] at hshorter
      omega
    · intro hfalse
      cases hfalse
  | false =>
    rw [toList_escape_of_not_delimited hdelimited] at h
    have hinner : inner = doubleBackslashes name.toList := by simpa using h.symm
    simp [hinner, halve_double]

/-- Escaping tells names apart that do not stand between backslashes. -/
theorem eq_of_escape_eq {x y : String} (hx : isDelimited x.toList = false)
    (hy : isDelimited y.toList = false) (h : escape x = escape y) : x = y := by
  have htext : (escape x).toList = (escape y).toList := congrArg String.toList h
  rw [toList_escape_of_not_delimited hx, toList_escape_of_not_delimited hy] at htext
  have hinner : doubleBackslashes x.toList = doubleBackslashes y.toList := by simpa using htext
  exact String.toList_inj.1 (doubleBackslashes_injective hinner)

/-- Two names have one escaped form iff they are equal, or one is that of the other. -/
theorem escape_eq_escape_iff {x y : String} :
    escape x = escape y ↔ x = y ∨ x = escape y ∨ y = escape x := by
  constructor
  · intro h
    by_cases hx : isDelimited x.toList = true
    · -- A name between backslashes is its own escaped form.
      have hself : escape x = x := if_pos hx
      exact .inr (.inl (hself.symm.trans h))
    · by_cases hy : isDelimited y.toList = true
      · have hself : escape y = y := if_pos hy
        exact .inr (.inr (hself.symm.trans h.symm))
      · exact .inl (eq_of_escape_eq (by simpa using hx) (by simpa using hy) h)
  · intro h
    rcases h with h | h | h
    · rw [h]
    · rw [h, escape_escape]
    · rw [h, escape_escape]

/-- **Escaping a second time changes nothing, and escaping can be undone.** What is escaped
    stands between backslashes. To drop these and to halve those inside gives the name back
    iff it did not stand between backslashes itself, so that no two such names have one
    escaped form. -/
theorem escape_reversible (x : String) :
    escape (escape x) = escape x ∧ portName (portName x) = portName x ∧
    (∃ inner, (escape x).toList = '\\' :: inner ++ ['\\'] ∧
      (halveBackslashes inner = x.toList ↔ Bare x)) ∧
    ∀ y, Bare x → Bare y → escape x = escape y → x = y := by
  obtain ⟨inner, hinner⟩ := exists_inner_escape x
  refine ⟨escape_escape x, portName_portName x, ⟨inner, hinner, halve_inner_escape_iff hinner⟩, ?_⟩
  intro y hx hy h
  exact eq_of_escape_eq (bare_iff.1 hx) (bare_iff.1 hy) h

/-- A name of backslashes and one that ends with them. The escaped forms are runs in which
    the delimiters cannot be seen, and yet both names come back. -/
theorem escape_reversible_run :
    Bare "\\" ∧ Bare "a\\\\" ∧ escape "\\" = "\\\\\\\\" ∧ escape "a\\\\" = "\\a\\\\\\\\\\" ∧
      (∃ inner, (escape "a\\\\").toList = '\\' :: inner ++ ['\\'] ∧
        halveBackslashes inner = "a\\\\".toList) ∧
      escape "\\" ≠ escape "a\\\\" := by
  have hslash : Bare "\\" := by decide
  have htail : Bare "a\\\\" := by decide
  obtain ⟨-, -, ⟨inner, hinner, hiff⟩, hapart⟩ := escape_reversible "a\\\\"
  refine ⟨hslash, htail, by decide, by decide, ⟨inner, hinner, hiff.2 htail⟩, ?_⟩
  intro h
  exact absurd (hapart "\\" htail hslash h.symm) (by decide)

end Netlister.Vhdl.Identifier
