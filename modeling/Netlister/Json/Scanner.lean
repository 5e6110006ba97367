import Netlister.Decimal.Reading
import Netlister.Json.Basic

/-! # Scanning JSON text

  The parts of JSON that hold no other part: blanks, words, strings and numbers.
  Each scanner takes what it needs from the front of the text and gives the rest,
  which is shorter; or it says how the text is at fault there.
-/

namespace Netlister.Json

/-- How a text fails to be a document. -/
inductive Fault where
  /-- The text ends too early. -/
  | unfinished
  /-- The text is not JSON. -/
  | malformed
  /-- The text is JSON of another shape. -/
  | misshapen
deriving DecidableEq

/-! ### Blanks and words -/

/-- Whether a character may stand between the parts of a text. -/
def isBlank (c : Char) : Bool := c = ' ' || c = '\n' || c = '\t' || c = '\r'

/-- The text from its first character on that is no blank. -/
def skipBlanks (cs : List Char) : List Char := cs.dropWhile isBlank

theorem length_skipBlanks_le (cs : List Char) : (skipBlanks cs).length ≤ cs.length :=
  (List.dropWhile_suffix isBlank).length_le

theorem length_lt_of_skipBlanks {cs rest : List Char} {c : Char}
    (h : skipBlanks cs = c :: rest) : rest.length < cs.length := by
  have := length_skipBlanks_le cs
  rw [h] at this
  exact this

/-- The text after a word that has to stand at its front. -/
def word : List Char → List Char → Except Fault (List Char)
  | [], cs => .ok cs
  | _ :: _, [] => .error .unfinished
  | w :: ws, c :: cs => if w = c then word ws cs else .error .malformed

theorem length_word_le {ws cs rest : List Char} (h : word ws cs = .ok rest) :
    rest.length ≤ cs.length := by
  fun_induction word ws cs with
  | case1 cs => cases h; exact Nat.le_refl _
  | case2 => cases h
  | case3 w ws cs ih => exact Nat.le_succ_of_le (ih h)
  | case4 => cases h

/-! ### Strings -/

/-- The value of a hexadecimal digit. -/
def hexValue? (c : Char) : Option Nat :=
  if '0' ≤ c && c ≤ '9' then some (c.toNat - '0'.toNat)
  else if 'a' ≤ c && c ≤ 'f' then some (c.toNat - 'a'.toNat + 10)
  else if 'A' ≤ c && c ≤ 'F' then some (c.toNat - 'A'.toNat + 10)
  else none

/-- The number that four hexadecimal digits give. The text ends too early if
    fewer than four bytes of it are left. -/
def fourHexDigits : List Char → Except Fault (Nat × List Char)
  | a :: b :: c :: d :: rest =>
    match hexValue? a, hexValue? b, hexValue? c, hexValue? d with
    | some a, some b, some c, some d => .ok (((a * 16 + b) * 16 + c) * 16 + d, rest)
    | _, _, _, _ => .error .malformed
  | short => if (String.ofList short).utf8ByteSize < 4 then .error .unfinished else .error .malformed

theorem length_fourHexDigits_lt {cs rest : List Char} {n : Nat}
    (h : fourHexDigits cs = .ok (n, rest)) : rest.length < cs.length := by
  unfold fourHexDigits at h
  split at h
  · split at h
    · cases h; simp only [List.length_cons]; omega
    · cases h
  · split at h <;> cases h

/-- Whether a number is the first half of a surrogate pair. -/
def isLeadingSurrogate (n : Nat) : Bool := 0xD800 ≤ n && n ≤ 0xDBFF

/-- Whether a number is the second half of a surrogate pair. -/
def isTrailingSurrogate (n : Nat) : Bool := 0xDC00 ≤ n && n ≤ 0xDFFF

/-- The second half of a surrogate pair, written as an escape of its own. -/
def trailingSurrogate : List Char → Except Fault (Nat × List Char)
  | '\\' :: 'u' :: rest => do
    let (n, rest) ← fourHexDigits rest
    if isTrailingSurrogate n then .ok (n, rest) else .error .malformed
  | [] => .error .unfinished
  | ['\\'] => .error .unfinished
  | _ => .error .malformed

theorem length_trailingSurrogate_lt {cs rest : List Char} {n : Nat}
    (h : trailingSurrogate cs = .ok (n, rest)) : rest.length < cs.length := by
  unfold trailingSurrogate at h
  split at h
  · rename_i tail
    cases hd : fourHexDigits tail with
    | error f => rw [hd] at h; cases h
    | ok r =>
      obtain ⟨m, tail'⟩ := r
      rw [hd] at h
      have hlt := length_fourHexDigits_lt hd
      simp only [bind, Except.bind] at h
      split at h
      · cases h; simp only [List.length_cons]; omega
      · cases h
  · cases h
  · cases h
  · cases h

/-- The character that is written by its number, after `\u`. -/
def unicodeEscape (cs : List Char) : Except Fault (Char × List Char) := do
  let (n, rest) ← fourHexDigits cs
  if isTrailingSurrogate n then .error .malformed
  else if isLeadingSurrogate n then
    let (low, rest) ← trailingSurrogate rest
    .ok (Char.ofNat ((n - 0xD800) * 0x400 + (low - 0xDC00) + 0x10000), rest)
  else .ok (Char.ofNat n, rest)

theorem length_unicodeEscape_lt {cs rest : List Char} {c : Char}
    (h : unicodeEscape cs = .ok (c, rest)) : rest.length < cs.length := by
  unfold unicodeEscape at h
  cases hd : fourHexDigits cs with
  | error f => rw [hd] at h; cases h
  | ok r =>
    obtain ⟨n, tail⟩ := r
    rw [hd] at h
    have hlt := length_fourHexDigits_lt hd
    simp only [bind, Except.bind] at h
    split at h
    · cases h
    · split at h
      · cases ht : trailingSurrogate tail with
        | error f => rw [ht] at h; cases h
        | ok t =>
          obtain ⟨low, tail'⟩ := t
          rw [ht] at h
          have hlt' := length_trailingSurrogate_lt ht
          simp only [Except.ok.injEq, Prod.mk.injEq] at h
          obtain ⟨-, rfl⟩ := h
          omega
      · simp only [Except.ok.injEq, Prod.mk.injEq] at h
        obtain ⟨-, rfl⟩ := h
        exact hlt

/-- The character that a letter after a backslash stands for. -/
def shortEscape? (c : Char) : Option Char :=
  if c = '"' then some '"'
  else if c = '\\' then some '\\'
  else if c = '/' then some '/'
  else if c = 'b' then some '\x08'
  else if c = 'f' then some '\x0c'
  else if c = 'n' then some '\n'
  else if c = 'r' then some '\r'
  else if c = 't' then some '\t'
  else none

/-- The character that an escape stands for, after its backslash. -/
def escapeSequence : List Char → Except Fault (Char × List Char)
  | [] => .error .unfinished
  | c :: rest =>
    if c = 'u' then unicodeEscape rest
    else match shortEscape? c with
      | some d => .ok (d, rest)
      | none => .error .malformed

theorem length_escapeSequence_lt {cs rest : List Char} {c : Char}
    (h : escapeSequence cs = .ok (c, rest)) : rest.length < cs.length := by
  unfold escapeSequence at h
  split at h
  · cases h
  · split at h
    · exact Nat.lt_succ_of_lt (length_unicodeEscape_lt h)
    · split at h
      · cases h; exact Nat.lt_succ_self _
      · cases h

/-- The rest of a string after its opening quote; `before` holds the characters
    read so far, the last one first. -/
def stringBody (before : List Char) (cs : List Char) : Except Fault (String × List Char) :=
  match cs with
  | [] => .error .unfinished
  | c :: rest =>
    if c = '"' then .ok (String.ofList before.reverse, rest)
    else if c = '\\' then
      match _escape : escapeSequence rest with
      | .ok (d, rest') => stringBody (d :: before) rest'
      | .error f => .error f
    else if c.toNat < 0x20 then .error .malformed
    else stringBody (c :: before) rest
termination_by cs.length
decreasing_by
  · exact Nat.lt_succ_of_lt (length_escapeSequence_lt _escape)
  · exact Nat.lt_succ_self _

theorem length_stringBody_lt {before cs rest : List Char} {s : String}
    (h : stringBody before cs = .ok (s, rest)) : rest.length < cs.length := by
  fun_induction stringBody before cs with
  | case1 => cases h
  | case2 before rest' => cases h; exact Nat.lt_succ_self _
  | case3 before rest' d tail he _ ih =>
    have := length_escapeSequence_lt he
    have := ih h
    simp only [List.length_cons]
    omega
  | case4 => cases h
  | case5 => cases h
  | case6 before c rest' hq hb hc ih => exact Nat.lt_succ_of_lt (ih h)

/-! ### Numbers -/

/-- The digits before the point: a single zero, or digits that start with
    another one. -/
def wholePart : List Char → Except Fault (List Char × List Char)
  | [] => .error .unfinished
  | c :: rest =>
    if c = '0' then
      match rest with
      | d :: _ => if d.isDigit then .error .malformed else .ok (['0'], rest)
      | [] => .ok (['0'], rest)
    else if c.isDigit then .ok (c :: rest.takeWhile Char.isDigit, rest.dropWhile Char.isDigit)
    else .error .malformed

theorem length_wholePart_lt {cs ds rest : List Char} (h : wholePart cs = .ok (ds, rest)) :
    rest.length < cs.length := by
  unfold wholePart at h
  split at h
  · cases h
  · split at h
    · split at h
      · split at h
        · cases h
        · cases h; exact Nat.lt_succ_self _
      · cases h; exact Nat.lt_succ_self _
    · split at h
      · cases h
        exact Nat.lt_succ_of_le (List.dropWhile_suffix _).length_le
      · cases h

/-- One digit or more; the text ends too early if it ends here. -/
def someDigits (cs : List Char) : Except Fault (List Char × List Char) :=
  match cs with
  | [] => .error .unfinished
  | c :: rest =>
    if c.isDigit then .ok (c :: rest.takeWhile Char.isDigit, rest.dropWhile Char.isDigit)
    else .error .malformed

theorem length_someDigits_le {cs ds rest : List Char} (h : someDigits cs = .ok (ds, rest)) :
    rest.length ≤ cs.length := by
  unfold someDigits at h
  split at h
  · cases h
  · split at h
    · cases h
      exact Nat.le_succ_of_le (List.dropWhile_suffix _).length_le
    · cases h

/-- The digits behind the point, if there is one. -/
def fractionPart : List Char → Except Fault (Option (List Char) × List Char)
  | '.' :: rest => do
    let (ds, rest) ← someDigits rest
    return (some ds, rest)
  | cs => .ok (none, cs)

theorem length_fractionPart_le {cs rest : List Char} {ds : Option (List Char)}
    (h : fractionPart cs = .ok (ds, rest)) : rest.length ≤ cs.length := by
  unfold fractionPart at h
  split at h
  · rename_i tail
    cases hd : someDigits tail with
    | error f => rw [hd] at h; cases h
    | ok r =>
      obtain ⟨digits, tail'⟩ := r
      rw [hd] at h
      have := length_someDigits_le hd
      cases h
      exact Nat.le_succ_of_le this
  · cases h; exact Nat.le_refl _

/-- A sign, and whether it is a minus. -/
def exponentSign : List Char → Bool × List Char
  | '-' :: rest => (true, rest)
  | '+' :: rest => (false, rest)
  | cs => (false, cs)

theorem length_exponentSign_le (cs : List Char) : (exponentSign cs).2.length ≤ cs.length := by
  unfold exponentSign
  split
  · exact Nat.le_succ _
  · exact Nat.le_succ _
  · exact Nat.le_refl _

/-- The number that decimal digits give. -/
def naturalValue (ds : List Char) : Nat := ds.foldl (fun n d => n * 10 + Decimal.digitValue d) 0

/-- The exponent, if there is one. -/
def exponentPart : List Char → Except Fault (Option Int × List Char)
  | [] => .ok (none, [])
  | c :: rest =>
    if c = 'e' || c = 'E' then do
      let (ds, rest') ← someDigits (exponentSign rest).2
      let n : Int := naturalValue ds
      return (some (if (exponentSign rest).1 then -n else n), rest')
    else .ok (none, c :: rest)

theorem length_exponentPart_le {cs rest : List Char} {e : Option Int}
    (h : exponentPart cs = .ok (e, rest)) : rest.length ≤ cs.length := by
  unfold exponentPart at h
  split at h
  · cases h; exact Nat.le_refl _
  · rename_i c tail
    split at h
    · cases hd : someDigits (exponentSign tail).2 with
      | error f => rw [hd] at h; cases h
      | ok r =>
        obtain ⟨digits, tail'⟩ := r
        rw [hd] at h
        have hle := length_someDigits_le hd
        have hsign := length_exponentSign_le tail
        cases h
        exact Nat.le_succ_of_le (Nat.le_trans hle hsign)
    · cases h; exact Nat.le_refl _

/-- The integer that digits without point and exponent give, if it is kept as
    one. A negative zero is not. -/
def integer? (negative : Bool) (ds : List Char) : Option Number :=
  let n := naturalValue ds
  if negative then
    if 0 < n && n ≤ signedLimit then some (.int (Int64.ofInt (-n))) else none
  else if n < signedLimit then some (.int (Int64.ofNat n))
  -- What fits in 64 bits without a sign only is kept as it is.
  else if h : signedLimit ≤ n ∧ n < UInt64.size then
    some (.large ⟨UInt64.ofNat n, by
      rw [UInt64.toNat_ofNat', Nat.mod_eq_of_lt h.2]; exact h.1⟩)
  else none

/-- The number with the given parts. One that is beyond the range of floats is
    no number. -/
def numberOf (negative : Bool) (whole : List Char) (fraction : Option (List Char))
    (exponent : Option Int) : Except Fault Number :=
  let kept := if fraction.isNone && exponent.isNone then integer? negative whole else none
  match kept with
  | some n => .ok n
  | none =>
    let x := (Decimal.Scaled.ofWhole whole).withFraction (fraction.getD [])
    match (Decimal.Scaled.mk x.digits (x.exponent + exponent.getD 0)).toFloat? with
    | some f => .ok (.float (if negative then -f else f))
    | none => .error .malformed

/-- A number without its sign. -/
def unsignedNumber (negative : Bool) (cs : List Char) : Except Fault (Number × List Char) := do
  let (whole, rest) ← wholePart cs
  let (fraction, rest) ← fractionPart rest
  let (exponent, rest) ← exponentPart rest
  let n ← numberOf negative whole fraction exponent
  return (n, rest)

theorem length_unsignedNumber_lt {negative : Bool} {cs rest : List Char} {n : Number}
    (h : unsignedNumber negative cs = .ok (n, rest)) : rest.length < cs.length := by
  unfold unsignedNumber at h
  cases hw : wholePart cs with
  | error f => rw [hw] at h; cases h
  | ok r =>
    obtain ⟨whole, rest₁⟩ := r
    rw [hw] at h
    have h1 := length_wholePart_lt hw
    simp only [bind, Except.bind] at h
    cases hf : fractionPart rest₁ with
    | error f => rw [hf] at h; cases h
    | ok r =>
      obtain ⟨fraction, rest₂⟩ := r
      rw [hf] at h
      have h2 := length_fractionPart_le hf
      simp only at h
      cases he : exponentPart rest₂ with
      | error f => rw [he] at h; cases h
      | ok r =>
        obtain ⟨exponent, rest₃⟩ := r
        rw [he] at h
        have h3 := length_exponentPart_le he
        simp only at h
        cases hn : numberOf negative whole fraction exponent with
        | error f => rw [hn] at h; cases h
        | ok m => rw [hn] at h; cases h; omega

end Netlister.Json
