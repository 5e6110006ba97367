import Netlister.Proofs.Vhdl.Identifier
import Netlister.Proofs.Vhdl.Text
import Netlister.Proofs.Vhdl.WellFormed

/-! # The text of an entity has one reading

  The text that is written for an entity determines the entity, for all of its ports,
  signals and statements, however deep these are nested. Names may contain anything that
  an extended identifier may, so the text cannot be cut at line feeds or semicolons first.
  It is read from the left instead:

  - `Splits`: what is read off the front of a text is determined, and so is the rest.
  - `splits_lines`: a list of statements ends where a line is less deep (`Leaves`). Every
    statement starts at its own depth with a character that is no blank (`StartsAt`).
  - `splits_sequential`: nested statements, by recursion over the statement. After the
    branches of a choice, the next word decides how it goes on.

  `write_determines` is the result. A choice without branches is no exception.
-/

namespace Netlister.Vhdl

open CodeWriter Identifier

/-! ### Names of an entity -/

mutual

/-- The names in a statement of a process. -/
def Sequential.names : Sequential → List String
  | .assign target source => target :: source.names
  | .choose branches otherwise => branchNames branches ++ bodyNames otherwise

/-- The names in the statements of a body. -/
def bodyNames : List Sequential → List String
  | [] => []
  | q :: qs => q.names ++ bodyNames qs

/-- The names in branches. -/
def branchNames : List (Condition × List Sequential) → List String
  | [] => []
  | (condition, body) :: rest => condition.name :: (bodyNames body ++ branchNames rest)

end

/-- The names in a concurrent statement. -/
def Concurrent.names : Concurrent → List String
  | .assign target source => [target, source]
  | .process label sensitivity body => label :: (sensitivity ++ bodyNames body)

/-- All names in an entity. -/
def Entity.names (e : Entity) : List String :=
  e.name :: (e.ports.map (·.name) ++ e.signals.map (·.name) ++ e.statements.flatMap Concurrent.names)

/-- All names are identifiers. -/
def AllIdentifiers (names : List String) : Prop := ∀ name ∈ names, IsIdentifier name

instance (names : List String) : Decidable (AllIdentifiers names) :=
  inferInstanceAs (Decidable (∀ name ∈ names, IsIdentifier name))

theorem allIdentifiers_cons {name : String} {names : List String} :
    AllIdentifiers (name :: names) ↔ IsIdentifier name ∧ AllIdentifiers names :=
  List.forall_mem_cons

theorem allIdentifiers_append {names others : List String} :
    AllIdentifiers (names ++ others) ↔ AllIdentifiers names ∧ AllIdentifiers others :=
  List.forall_mem_append

/-! ### Depth -/

/-- The text starts with a line at this depth. -/
def StartsAt (level : Nat) (text : List Char) : Prop :=
  ∃ c rest, c ≠ ' ' ∧ text = List.replicate (4 * level) ' ' ++ c :: rest

/-- The text starts with a line that is less deep. -/
def Leaves (level : Nat) (text : List Char) : Prop := ∃ k < level, StartsAt k text

/-- A text starts at one depth only. -/
theorem StartsAt.unique {j k : Nat} {text : List Char} (hj : StartsAt j text)
    (hk : StartsAt k text) : j = k := by
  obtain ⟨c, r, hc, htext⟩ := hj
  obtain ⟨d, s, hd, htext'⟩ := hk
  -- The blanks in front of the text are counted.
  have hblanks {n : Nat} {e : Char} {t : List Char} (he : e ≠ ' ') :
      ((List.replicate n ' ' ++ e :: t).takeWhile (· = ' ')).length = n := by
    rw [List.takeWhile_append_of_pos (by simp)]
    simp [he]
  have hcount : 4 * j = 4 * k := by
    rw [← hblanks (n := 4 * j) (t := r) hc, ← htext, htext', hblanks hd]
  omega

/-- A text that leaves a level does not start at it. -/
theorem Leaves.not_startsAt {level : Nat} {text : List Char} (h : Leaves level text) :
    ¬ StartsAt level text := by
  intro hstart
  obtain ⟨k, hlt, hk⟩ := h
  have heq : k = level := hk.unique hstart
  omega

/-- A line starts at its depth. -/
theorem startsAt_lineChars {level : Nat} {s : String} {c : Char} {cs : List Char}
    (hs : s.toList = c :: cs) (hc : c ≠ ' ') (r : List Char) :
    StartsAt level (lineChars level s ++ r) :=
  ⟨c, cs ++ ['\n'] ++ r, hc, by simp [lineChars, hs]⟩

/-- A line of a level ends what is deeper. -/
theorem leaves_lineChars {level : Nat} {s : String} {c : Char} {cs : List Char}
    (hs : s.toList = c :: cs) (hc : c ≠ ' ') (r : List Char) :
    Leaves (level + 1) (lineChars level s ++ r) :=
  ⟨level, Nat.lt_succ_self level, startsAt_lineChars hs hc r⟩

/-- A line that begins with an identifier starts at its depth. -/
theorem startsAt_identifier {level : Nat} {x : String} (hx : IsIdentifier x) (s : String)
    (r : List Char) : StartsAt level (lineChars level (x ++ s) ++ r) := by
  obtain ⟨c, cs, htext, hfirst⟩ := exists_first hx
  have hc : c ≠ ' ' := by
    intro hblank
    rw [hblank] at hfirst
    exact absurd hfirst (by decide)
  have hline : (x ++ s).toList = c :: (cs ++ s.toList) := by simp [htext]
  exact startsAt_lineChars hline hc r

/-- Two lines of one depth are compared behind their margins. -/
theorem lineChars_append_inj {level : Nat} {x y : String} {r s : List Char} :
    lineChars level x ++ r = lineChars level y ++ s ↔
      x.toList ++ '\n' :: r = y.toList ++ '\n' :: s := by
  simp [lineChars]

/-! ### Reading parts off a text -/

/-- A text that begins with the characters of `a` begins with those of no other `b`, and
    with nothing else behind them. -/
def Splits {α : Type} (Fits : α → Prop) (chars : α → List Char) (a : α) : Prop :=
  ∀ ⦃b r s⦄, Fits b → chars a ++ r = chars b ++ s → a = b ∧ r = s

/-- A list of lines at one depth is read up to where the text leaves this depth. -/
theorem splits_lines {α : Type} {Fits : α → Prop} {chars : α → List Char} {level : Nat}
    (hstart : ∀ a, Fits a → ∀ r, StartsAt level (chars a ++ r)) {as : List α}
    (hfits : ∀ a ∈ as, Fits a) (hsplits : ∀ a ∈ as, Splits Fits chars a) {bs : List α}
    (hbs : ∀ b ∈ bs, Fits b) {r s : List Char} (hr : Leaves level r) (hs : Leaves level s)
    (h : as.flatMap chars ++ r = bs.flatMap chars ++ s) : as = bs ∧ r = s := by
  induction as generalizing bs with
  | nil =>
    cases bs with
    | nil => exact ⟨rfl, h⟩
    | cons b bs =>
      -- One list has ended and the other has not, so the depths differ.
      have hb : StartsAt level (chars b ++ (bs.flatMap chars ++ s)) :=
        hstart b (hbs b List.mem_cons_self) _
      simp only [List.flatMap_nil, List.nil_append, List.flatMap_cons, List.append_assoc] at h
      rw [← h] at hb
      exact absurd hb hr.not_startsAt
  | cons a as ih =>
    obtain ⟨hfirst, hrest⟩ := List.forall_mem_cons.1 hfits
    obtain ⟨hsplit, hsplitRest⟩ := List.forall_mem_cons.1 hsplits
    cases bs with
    | nil =>
      have ha : StartsAt level (chars a ++ (as.flatMap chars ++ r)) := hstart a hfirst _
      simp only [List.flatMap_nil, List.nil_append, List.flatMap_cons, List.append_assoc] at h
      rw [h] at ha
      exact absurd ha hs.not_startsAt
    | cons b bs =>
      obtain ⟨hb, hothers⟩ := List.forall_mem_cons.1 hbs
      simp only [List.flatMap_cons, List.append_assoc] at h
      obtain ⟨hab, htail⟩ := hsplit hb h
      obtain ⟨hlists, hend⟩ := ih hrest hsplitRest hothers htail
      exact ⟨by rw [hab, hlists], hend⟩

/-- An identifier is read up to a character that cannot belong to it. -/
theorem name_append_inj {x y : String} (hx : IsIdentifier x) (hy : IsIdentifier y) {c d : Char}
    (hc : IsStop c) (hd : IsStop d) {r s : List Char}
    (h : x.toList ++ c :: r = y.toList ++ d :: s) : x = y ∧ c :: r = d :: s := by
  have hxy : x = y := eq_of_append hx hy hc hd h
  subst hxy
  exact ⟨rfl, List.append_cancel_left h⟩

theorem bitText_append_inj {u v : Bool} {r s : List Char}
    (h : (bitText u).toList ++ r = (bitText v).toList ++ s) : u = v ∧ r = s := by
  cases u <;> cases v <;> simp [bitText] at h ⊢
  all_goals exact h

/-- A name in parentheses is read up to the closing one. -/
theorem parenthesised_append_inj {x y : String} (hx : IsIdentifier x) (hy : IsIdentifier y)
    {r s : List Char} (h : x.toList ++ ')' :: r = y.toList ++ ')' :: s) : x = y ∧ r = s := by
  obtain ⟨hxy, hrest⟩ := name_append_inj hx hy (by decide) (by decide) h
  exact ⟨hxy, by simpa using hrest⟩

/-- A condition is read up to its last parenthesis. -/
theorem splits_condition {c : Condition} (hc : IsIdentifier c.name) :
    Splits (fun d => IsIdentifier d.name) (fun d => d.text.toList) c := by
  intro d r s hd h
  cases c with
  | equals x u =>
    have hx : IsIdentifier x := hc
    cases d with
    | equals y v =>
      have hy : IsIdentifier y := hd
      simp only [Condition.text, String.toList_append, List.append_assoc, String.reduceToList,
        List.cons_append, List.nil_append, List.cons.injEq, true_and] at h
      obtain ⟨hxy, htail⟩ := name_append_inj hx hy (by decide) (by decide) h
      simp only [List.cons.injEq, true_and] at htail
      obtain ⟨huv, htail⟩ := bitText_append_inj htail
      exact ⟨by rw [hxy, huv], by simpa using htail⟩
    | rising y => simp [Condition.text] at h
    | falling y => simp [Condition.text] at h
  | rising x =>
    have hx : IsIdentifier x := hc
    cases d with
    | equals y v => simp [Condition.text] at h
    | rising y =>
      have hy : IsIdentifier y := hd
      obtain ⟨hxy, htail⟩ := parenthesised_append_inj hx hy (r := r) (s := s)
        (by simpa [Condition.text] using h)
      exact ⟨by rw [hxy], htail⟩
    | falling y => simp [Condition.text] at h
  | falling x =>
    have hx : IsIdentifier x := hc
    cases d with
    | equals y v => simp [Condition.text] at h
    | rising y => simp [Condition.text] at h
    | falling y =>
      have hy : IsIdentifier y := hd
      obtain ⟨hxy, htail⟩ := parenthesised_append_inj hx hy (r := r) (s := s)
        (by simpa [Condition.text] using h)
      exact ⟨by rw [hxy], htail⟩

/-- An expression is read up to the semicolon. -/
theorem expression_append_inj {x y : Expression} (hx : AllIdentifiers x.names)
    (hy : AllIdentifiers y.names) {r s : List Char}
    (h : x.text.toList ++ ';' :: r = y.text.toList ++ ';' :: s) : x = y ∧ r = s := by
  -- A bit begins with an apostrophe, an identifier never does.
  have hdiffer {name : String} (hname : IsIdentifier name) (v : Bool) (r s : List Char) :
      name.toList ++ r ≠ (bitText v).toList ++ s := by
    intro h
    obtain ⟨c, cs, htext, hfirst⟩ := exists_first hname
    have hquote : c = '\'' := by
      rw [htext] at h
      cases v <;> simp [bitText] at h <;> exact h.1
    rw [hquote] at hfirst
    exact absurd hfirst (by decide)
  cases x with
  | reference a =>
    have ha : IsIdentifier a := hx a List.mem_cons_self
    cases y with
    | reference b =>
      have hb : IsIdentifier b := hy b List.mem_cons_self
      obtain ⟨hab, htail⟩ := name_append_inj ha hb (by decide) (by decide) h
      exact ⟨by rw [hab], by simpa using htail⟩
    | bit v => exact absurd h (hdiffer ha v _ _)
  | bit u =>
    cases y with
    | reference b => exact absurd h.symm (hdiffer (hy b List.mem_cons_self) u _ _)
    | bit v =>
      obtain ⟨huv, htail⟩ := bitText_append_inj h
      exact ⟨by rw [huv], by simpa using htail⟩

/-! ### Statements of processes -/

/-- The statement has identifiers for names. -/
def Sequential.Lexical (q : Sequential) : Prop := AllIdentifiers q.names

theorem bodyChars_eq (qs : List Sequential) (level : Nat) :
    bodyChars qs level = qs.flatMap fun q => q.chars level := by
  induction qs with
  | nil => simp [bodyChars]
  | cons q qs ih => simp [bodyChars, ih]

theorem allIdentifiers_bodyNames {qs : List Sequential} :
    AllIdentifiers (bodyNames qs) ↔ ∀ q ∈ qs, q.Lexical := by
  induction qs with
  | nil => simp [bodyNames, AllIdentifiers]
  | cons q qs ih =>
    unfold bodyNames
    rw [allIdentifiers_append, ih, List.forall_mem_cons]
    rfl

/-- What follows the branches of a choice, with the text after it. -/
def choiceEnd (otherwise : List Sequential) (level : Nat) (r : List Char) : List Char :=
  elseChars otherwise level ++ (lineChars level "end if;" ++ r)

/-- The word after the branches of a choice. -/
theorem choiceEnd_cases (otherwise : List Sequential) (level : Nat) (r : List Char) :
    (∃ t, choiceEnd otherwise level r = lineChars level "else" ++ t) ∨
      ∃ t, choiceEnd otherwise level r = lineChars level "end if;" ++ t := by
  unfold choiceEnd
  cases otherwise with
  | nil => exact .inr ⟨r, by simp [elseChars]⟩
  | cons q qs =>
    left
    simp only [elseChars, List.append_assoc]
    exact ⟨_, rfl⟩

/-- What follows a branch is a line at the depth of the choice. -/
theorem startsAt_choice (keyword : String) (hkeyword : keyword = "if" ∨ keyword = "elsif")
    (branches : List (Condition × List Sequential)) (otherwise : List Sequential) (level : Nat)
    (r : List Char) :
    StartsAt level (branchesChars keyword branches level ++ choiceEnd otherwise level r) := by
  cases branches with
  | nil =>
    simp only [branchesChars, List.nil_append]
    rcases choiceEnd_cases otherwise level r with ⟨t, ht⟩ | ⟨t, ht⟩
    · rw [ht]
      exact startsAt_lineChars (s := "else") rfl (by decide) t
    · rw [ht]
      exact startsAt_lineChars (s := "end if;") rfl (by decide) t
  | cons branch rest =>
    obtain ⟨condition, body⟩ := branch
    simp only [branchesChars, List.append_assoc]
    rcases hkeyword with rfl | rfl
    · have hline : ("if" ++ (" " ++ (condition.text ++ " then"))).toList =
          'i' :: ('f' :: ' ' :: (condition.text.toList ++ " then".toList)) := by simp
      rw [String.append_assoc, String.append_assoc]
      exact startsAt_lineChars hline (by decide) _
    · have hline : ("elsif" ++ (" " ++ (condition.text ++ " then"))).toList =
          'e' :: ("lsif ".toList ++ (condition.text.toList ++ " then".toList)) := by simp
      rw [String.append_assoc, String.append_assoc]
      exact startsAt_lineChars hline (by decide) _

/-- A branch begins with another word than the end of a choice. -/
theorem branch_append_ne_choiceEnd {keyword : String}
    (hkeyword : keyword = "if" ∨ keyword = "elsif") (condition : Condition)
    (body : List Sequential) (rest : List (Condition × List Sequential)) (level : Nat)
    (r : List Char) (otherwise : List Sequential) (s : List Char) :
    branchesChars keyword ((condition, body) :: rest) level ++ r ≠
      branchesChars keyword [] level ++ choiceEnd otherwise level s := by
  intro h
  rcases choiceEnd_cases otherwise level s with ⟨t, ht⟩ | ⟨t, ht⟩ <;>
    simp only [branchesChars, List.nil_append, ht, List.append_assoc, lineChars_append_inj,
      String.toList_append] at h <;>
    rcases hkeyword with rfl | rfl <;> simp at h

/-- A choice begins with a reserved word, so it is no assignment. -/
theorem assign_append_ne_choose {target : String} (htarget : IsIdentifier target)
    (source : Expression) (branches : List (Condition × List Sequential))
    (otherwise : List Sequential) (level : Nat) (r s : List Char) :
    (Sequential.assign target source).chars level ++ r ≠
      (Sequential.choose branches otherwise).chars level ++ s := by
  intro h
  have hassign : (Sequential.assign target source).chars level ++ r =
      List.replicate (4 * level) ' ' ++
        (target.toList ++ ' ' :: ("<= ".toList ++ source.text.toList ++ ";\n".toList ++ r)) := by
    simp [Sequential.chars, lineChars]
  have hchoose : (Sequential.choose branches otherwise).chars level ++ s =
      branchesChars "if" branches level ++ choiceEnd otherwise level s := by
    simp [Sequential.chars, choiceEnd]
  rw [hassign, hchoose] at h
  cases branches with
  | cons branch rest =>
    obtain ⟨condition, body⟩ := branch
    simp only [branchesChars, lineChars, List.append_assoc, String.toList_append,
      List.append_cancel_left_eq] at h
    exact append_ne_keyword htarget "if" (by decide) (by decide) ⟨_, _, rfl, by decide⟩
      (by decide) (by decide) _ _ h
  | nil =>
    rcases choiceEnd_cases otherwise level s with ⟨t, ht⟩ | ⟨t, ht⟩
    · simp only [branchesChars, List.nil_append, ht, lineChars, List.append_assoc,
        List.append_cancel_left_eq] at h
      exact append_ne_keyword htarget "else" (by decide) (by decide)
        ⟨_, _, rfl, by decide⟩ (by decide) (by decide) _ _ h
    · simp only [branchesChars, List.nil_append, ht, lineChars, List.append_assoc,
        List.append_cancel_left_eq] at h
      exact append_ne_keyword htarget "end" (by decide) (by decide)
        ⟨_, _, rfl, by decide⟩ (by decide) (by decide) _ _ h

/-- Every statement starts at its depth. -/
theorem startsAt_sequential {q : Sequential} (hq : q.Lexical) (level : Nat) (r : List Char) :
    StartsAt level (q.chars level ++ r) := by
  cases q with
  | assign target source =>
    have htarget : IsIdentifier target := (allIdentifiers_cons.1 hq).1
    simp only [Sequential.chars, String.append_assoc]
    exact startsAt_identifier htarget _ r
  | choose branches otherwise =>
    have hchoose : (Sequential.choose branches otherwise).chars level ++ r =
        branchesChars "if" branches level ++ choiceEnd otherwise level r := by
      simp [Sequential.chars, choiceEnd]
    rw [hchoose]
    exact startsAt_choice "if" (.inl rfl) branches otherwise level r

section Bodies

variable {qs ps : List Sequential} {level : Nat} {r s : List Char}

/-- A body is read up to a line that is less deep, if its statements can be read. -/
theorem body_append_inj (hqs : AllIdentifiers (bodyNames qs))
    (hsplits : ∀ q ∈ qs, Splits Sequential.Lexical (fun q => q.chars level) q)
    (hps : AllIdentifiers (bodyNames ps)) (hr : Leaves level r) (hs : Leaves level s)
    (h : bodyChars qs level ++ r = bodyChars ps level ++ s) : qs = ps ∧ r = s := by
  rw [bodyChars_eq, bodyChars_eq] at h
  exact splits_lines (fun q hq t => startsAt_sequential hq level t)
    (allIdentifiers_bodyNames.1 hqs) hsplits (allIdentifiers_bodyNames.1 hps) hr hs h

/-- The end of a choice is read, if the statements for the last case can be read. -/
theorem choiceEnd_inj (hqs : AllIdentifiers (bodyNames qs))
    (hsplits : ∀ q ∈ qs, Splits Sequential.Lexical (fun q => q.chars (level + 1)) q)
    (hps : AllIdentifiers (bodyNames ps)) (h : choiceEnd qs level r = choiceEnd ps level s) :
    qs = ps ∧ r = s := by
  have helse (q : Sequential) (qs : List Sequential) (t : List Char) :
      choiceEnd (q :: qs) level t =
        lineChars level "else" ++ (bodyChars (q :: qs) (level + 1) ++ (lineChars level "end if;" ++ t)) := by
    simp [choiceEnd, elseChars, bodyChars]
  have hend (t : List Char) : choiceEnd [] level t = lineChars level "end if;" ++ t := by
    simp [choiceEnd, elseChars]
  have hleave (t : List Char) : Leaves (level + 1) (lineChars level "end if;" ++ t) :=
    leaves_lineChars (s := "end if;") rfl (by decide) t
  cases qs with
  | nil =>
    cases ps with
    | nil => exact ⟨rfl, by simpa [hend, lineChars_append_inj] using h⟩
    | cons p ps =>
      rw [hend, helse, lineChars_append_inj] at h
      simp at h
  | cons q qs =>
    cases ps with
    | nil =>
      rw [hend, helse, lineChars_append_inj] at h
      simp at h
    | cons p ps =>
      rw [helse, helse, List.append_cancel_left_eq] at h
      obtain ⟨hbodies, htail⟩ := body_append_inj hqs hsplits hps (hleave r) (hleave s) h
      exact ⟨hbodies, List.append_cancel_left htail⟩

end Bodies

mutual

/-- A statement is read to its end. -/
theorem splits_sequential : (q : Sequential) → q.Lexical → (level : Nat) →
    Splits Sequential.Lexical (fun q => q.chars level) q
  | .assign target source, hq, level => by
    intro p r s hp h
    obtain ⟨htarget, hsource⟩ := allIdentifiers_cons.1 hq
    cases p with
    | assign target' source' =>
      obtain ⟨htarget', hsource'⟩ := allIdentifiers_cons.1 hp
      simp only [Sequential.chars, lineChars_append_inj, String.toList_append, List.append_assoc,
        String.reduceToList, List.cons_append, List.nil_append] at h
      obtain ⟨htargets, htail⟩ := name_append_inj htarget htarget' (by decide) (by decide) h
      simp only [List.cons.injEq, true_and] at htail
      obtain ⟨hsources, htail⟩ := expression_append_inj hsource hsource' htail
      exact ⟨by rw [htargets, hsources], by simpa using htail⟩
    | choose branches otherwise =>
      exact absurd h (assign_append_ne_choose htarget source branches otherwise level r s)
  | .choose branches otherwise, hq, level => by
    intro p r s hp h
    obtain ⟨hbranches, hotherwise⟩ := allIdentifiers_append.1 hq
    cases p with
    | assign target source =>
      have htarget : IsIdentifier target := (allIdentifiers_cons.1 hp).1
      exact absurd h.symm (assign_append_ne_choose htarget source branches otherwise level s r)
    | choose branches' otherwise' =>
      obtain ⟨hbranches', hotherwise'⟩ := allIdentifiers_append.1 hp
      simp only [Sequential.chars, List.append_assoc] at h
      obtain ⟨heq, htail⟩ := branches_append_inj branches hbranches "if" (.inl rfl) level
        branches' hbranches' otherwise otherwise' r s h
      obtain ⟨heq', htail⟩ := choiceEnd_inj hotherwise
        (splits_each otherwise hotherwise (level + 1)) hotherwise' htail
      exact ⟨by rw [heq, heq'], htail⟩

/-- So is each statement of a body. -/
theorem splits_each : (qs : List Sequential) → AllIdentifiers (bodyNames qs) → (level : Nat) →
    ∀ q ∈ qs, Splits Sequential.Lexical (fun q => q.chars level) q
  | [], _, _ => by simp
  | q :: qs, hqs, level => by
    obtain ⟨hq, hrest⟩ := allIdentifiers_append.1 hqs
    exact List.forall_mem_cons.2 ⟨splits_sequential q hq level, splits_each qs hrest level⟩

/-- The branches of a choice are read up to its end. -/
theorem branches_append_inj : (branches : List (Condition × List Sequential)) →
    AllIdentifiers (branchNames branches) → (keyword : String) →
    keyword = "if" ∨ keyword = "elsif" → (level : Nat) →
    (others : List (Condition × List Sequential)) → AllIdentifiers (branchNames others) →
    (qs ps : List Sequential) → (r s : List Char) →
    branchesChars keyword branches level ++ choiceEnd qs level r =
      branchesChars keyword others level ++ choiceEnd ps level s →
    branches = others ∧ choiceEnd qs level r = choiceEnd ps level s
  | [], _, keyword, hkeyword, level, others, _, qs, ps, r, s, h => by
    cases others with
    | nil => exact ⟨rfl, by simpa [branchesChars] using h⟩
    | cons branch rest =>
      obtain ⟨condition, body⟩ := branch
      exact absurd h.symm (branch_append_ne_choiceEnd hkeyword condition body rest level _ qs r)
  | (condition, body) :: rest, hbranches, keyword, hkeyword, level, others, hothers, qs, ps, r, s,
      h => by
    obtain ⟨hcondition, hparts⟩ := allIdentifiers_cons.1 hbranches
    obtain ⟨hbody, hrest⟩ := allIdentifiers_append.1 hparts
    cases others with
    | nil => exact absurd h (branch_append_ne_choiceEnd hkeyword condition body rest level _ ps s)
    | cons branch rest' =>
      obtain ⟨condition', body'⟩ := branch
      obtain ⟨hcondition', hparts'⟩ := allIdentifiers_cons.1 hothers
      obtain ⟨hbody', hrest'⟩ := allIdentifiers_append.1 hparts'
      simp only [branchesChars, List.append_assoc, lineChars_append_inj, String.toList_append,
        List.append_cancel_left_eq] at h
      obtain ⟨hconditions, htail⟩ := splits_condition hcondition hcondition' h
      simp only [List.append_cancel_left_eq, List.cons.injEq, true_and] at htail
      -- The body ends where the choice goes on.
      have hleave (bs : List (Condition × List Sequential)) (os : List Sequential) (t : List Char) :
          Leaves (level + 1) (branchesChars "elsif" bs level ++ choiceEnd os level t) :=
        ⟨level, Nat.lt_succ_self level, startsAt_choice "elsif" (.inr rfl) bs os level t⟩
      obtain ⟨hbodies, htail⟩ := body_append_inj hbody (splits_each body hbody (level + 1)) hbody'
        (hleave rest qs r) (hleave rest' ps s) htail
      obtain ⟨hrests, htail⟩ := branches_append_inj rest hrest "elsif" (.inr rfl) level rest' hrest'
        qs ps r s htail
      exact ⟨by rw [hconditions, hbodies, hrests], htail⟩

end

/-! ### Concurrent statements -/

/-- What follows the first name of a sensitivity list. -/
def sensitivityEnd : List String → List Char → List Char
  | [], r => ')' :: r
  | x :: xs, r => ',' :: ' ' :: ((", ".intercalate (x :: xs)).toList ++ ')' :: r)

theorem sensitivity_cons (x : String) (xs : List String) (r : List Char) :
    (", ".intercalate (x :: xs)).toList ++ ')' :: r = x.toList ++ sensitivityEnd xs r := by
  cases xs with
  | nil => simp [sensitivityEnd]
  | cons y xs => simp [sensitivityEnd, String.intercalate_cons_cons]

/-- A name ends before the rest of the list it is in. -/
theorem sensitivityEnd_cases (xs : List String) (r : List Char) :
    ∃ c t, IsStop c ∧ sensitivityEnd xs r = c :: t := by
  cases xs with
  | nil => exact ⟨')', r, by decide, rfl⟩
  | cons x xs => exact ⟨',', _, by decide, rfl⟩

/-- A sensitivity list is read up to the closing parenthesis. -/
theorem sensitivity_append_inj {xs ys : List String} (hxs : AllIdentifiers xs)
    (hys : AllIdentifiers ys) {r s : List Char}
    (h : (", ".intercalate xs).toList ++ ')' :: r = (", ".intercalate ys).toList ++ ')' :: s) :
    xs = ys ∧ r = s := by
  -- A list that is not empty begins with an identifier.
  have hdiffer {x : String} (hx : IsIdentifier x) (t u : List Char) :
      x.toList ++ t ≠ ')' :: u := by
    intro h
    obtain ⟨c, cs, htext, hfirst⟩ := exists_first hx
    have hclose : c = ')' := by
      rw [htext] at h
      simp only [List.cons_append, List.cons.injEq] at h
      exact h.1
    rw [hclose] at hfirst
    exact absurd hfirst (by decide)
  induction xs generalizing ys with
  | nil =>
    cases ys with
    | nil => exact ⟨rfl, by simpa using h⟩
    | cons y ys =>
      rw [sensitivity_cons] at h
      exact absurd h.symm (hdiffer (allIdentifiers_cons.1 hys).1 _ _)
  | cons x xs ih =>
    obtain ⟨hx, hxs⟩ := allIdentifiers_cons.1 hxs
    rw [sensitivity_cons] at h
    cases ys with
    | nil => exact absurd h (hdiffer hx _ _)
    | cons y ys =>
      obtain ⟨hy, hys⟩ := allIdentifiers_cons.1 hys
      rw [sensitivity_cons] at h
      obtain ⟨c, t, hc, ht⟩ := sensitivityEnd_cases xs r
      obtain ⟨d, u, hd, hu⟩ := sensitivityEnd_cases ys s
      rw [ht, hu] at h
      obtain ⟨hxy, htail⟩ := name_append_inj hx hy hc hd h
      rw [← ht, ← hu] at htail
      cases xs with
      | nil =>
        cases ys with
        | nil => exact ⟨by rw [hxy], by simpa [sensitivityEnd] using htail⟩
        | cons z zs => simp [sensitivityEnd] at htail
      | cons w ws =>
        cases ys with
        | nil => simp [sensitivityEnd] at htail
        | cons z zs =>
          simp only [sensitivityEnd, List.cons.injEq, true_and] at htail
          obtain ⟨hlists, hend⟩ := ih hxs hys htail
          exact ⟨by rw [hxy, hlists], hend⟩

/-- The statement has identifiers for names. -/
def Concurrent.Lexical (c : Concurrent) : Prop := AllIdentifiers c.names

theorem startsAt_concurrent {c : Concurrent} (hc : c.Lexical) (level : Nat) (r : List Char) :
    StartsAt level (c.chars level ++ r) := by
  cases c with
  | assign target source =>
    simp only [Concurrent.chars, String.append_assoc]
    exact startsAt_identifier (allIdentifiers_cons.1 hc).1 _ r
  | process label sensitivity body =>
    simp only [Concurrent.chars, String.append_assoc, List.append_assoc]
    exact startsAt_identifier (allIdentifiers_cons.1 hc).1 _ _

/-- A concurrent statement is read to its end. -/
theorem splits_concurrent {c : Concurrent} (hc : c.Lexical) (level : Nat) :
    Splits Concurrent.Lexical (fun c => c.chars level) c := by
  intro d r s hd h
  cases c with
  | assign target source =>
    obtain ⟨htarget, hsource⟩ := allIdentifiers_cons.1 hc
    cases d with
    | assign target' source' =>
      obtain ⟨htarget', hsource'⟩ := allIdentifiers_cons.1 hd
      simp only [Concurrent.chars, lineChars_append_inj, String.toList_append, List.append_assoc,
        String.reduceToList, List.cons_append, List.nil_append] at h
      obtain ⟨htargets, htail⟩ := name_append_inj htarget htarget' (by decide) (by decide) h
      simp only [List.cons.injEq, true_and] at htail
      obtain ⟨hsources, htail⟩ := name_append_inj (hsource source List.mem_cons_self)
        (hsource' source' List.mem_cons_self) (by decide) (by decide) htail
      exact ⟨by rw [htargets, hsources], by simpa using htail⟩
    | process label sensitivity body =>
      simp only [Concurrent.chars, lineChars_append_inj, String.toList_append, List.append_assoc,
        String.reduceToList, List.cons_append, List.nil_append] at h
      have htail := (name_append_inj htarget (allIdentifiers_cons.1 hd).1 (by decide) (by decide) h).2
      simp at htail
  | process label sensitivity body =>
    obtain ⟨hlabel, hparts⟩ := allIdentifiers_cons.1 hc
    obtain ⟨hsensitivity, hbody⟩ := allIdentifiers_append.1 hparts
    cases d with
    | assign target source =>
      simp only [Concurrent.chars, lineChars_append_inj, String.toList_append, List.append_assoc,
        String.reduceToList, List.cons_append, List.nil_append] at h
      have htail := (name_append_inj hlabel (allIdentifiers_cons.1 hd).1 (by decide) (by decide) h).2
      simp at htail
    | process label' sensitivity' body' =>
      obtain ⟨hlabel', hparts'⟩ := allIdentifiers_cons.1 hd
      obtain ⟨hsensitivity', hbody'⟩ := allIdentifiers_append.1 hparts'
      simp only [Concurrent.chars, lineChars_append_inj, String.toList_append, List.append_assoc,
        String.reduceToList, List.cons_append, List.nil_append] at h
      obtain ⟨hlabels, htail⟩ := name_append_inj hlabel hlabel' (by decide) (by decide) h
      simp only [List.cons.injEq, true_and] at htail
      obtain ⟨hsensitivities, htail⟩ := sensitivity_append_inj hsensitivity hsensitivity' htail
      simp only [List.cons.injEq, true_and, List.append_cancel_left_eq] at htail
      have hleave (t : List Char) : Leaves (level + 1) (lineChars level "end process;" ++ t) :=
        leaves_lineChars (s := "end process;") rfl (by decide) t
      obtain ⟨hbodies, htail⟩ := body_append_inj hbody (splits_each body hbody (level + 1)) hbody'
        (hleave r) (hleave s) htail
      exact ⟨by rw [hlabels, hsensitivities, hbodies], List.append_cancel_left htail⟩

/-! ### Declarations -/

/-- The declaration of a signal is read to its end. -/
theorem splits_signal {x : Signal} (hx : IsIdentifier x.name) (level : Nat) :
    Splits (fun y : Signal => IsIdentifier y.name) (fun y => lineChars level y.text) x := by
  intro y r s hy h
  obtain ⟨name, initial⟩ := x
  obtain ⟨name', initial'⟩ := y
  have hname : IsIdentifier name := hx
  have hname' : IsIdentifier name' := hy
  rw [lineChars_append_inj] at h
  -- After the type there is either a semicolon or the bit.
  cases initial <;> cases initial'
  all_goals
    simp only [Signal.text, String.toList_append, List.append_assoc, String.reduceToList,
      List.cons_append, List.nil_append, List.cons.injEq, true_and] at h
    obtain ⟨hnames, htail⟩ := name_append_inj hname hname' (by decide) (by decide) h
  case none.none => exact ⟨by rw [hnames], by simpa using htail⟩
  case none.some => simp at htail
  case some.none => simp at htail
  case some.some u v =>
    simp only [List.cons.injEq, true_and] at htail
    obtain ⟨huv, htail⟩ := bitText_append_inj htail
    exact ⟨by rw [hnames, huv], by simpa using htail⟩

theorem startsAt_signal (x : Signal) (level : Nat) (r : List Char) :
    StartsAt level (lineChars level x.text ++ r) := by
  have hline : ∃ cs, x.text.toList = 's' :: cs := by
    obtain ⟨name, initial⟩ := x
    cases initial with
    | none => exact ⟨_, by simp [Signal.text]; rfl⟩
    | some v => exact ⟨_, by simp [Signal.text]; rfl⟩
  obtain ⟨cs, hcs⟩ := hline
  exact startsAt_lineChars hcs (by decide) r

/-- The declaration of a port is read to its end. -/
theorem splits_port {p : Port} (hp : IsIdentifier p.name) :
    Splits (fun q : Port => IsIdentifier q.name) (fun q => q.text.toList) p := by
  intro q r s hq h
  obtain ⟨name, direction⟩ := p
  obtain ⟨name', direction'⟩ := q
  have hname : IsIdentifier name := hp
  have hname' : IsIdentifier name' := hq
  simp only [Port.text, String.toList_append, List.append_assoc, String.reduceToList,
    List.cons_append, List.nil_append] at h
  obtain ⟨hnames, htail⟩ := name_append_inj hname hname' (by decide) (by decide) h
  cases direction <;> cases direction' <;> simp [Direction.text] at htail
  all_goals exact ⟨by rw [hnames], htail⟩

/-- Ports are read up to the last one, which has no semicolon. -/
theorem ports_append_inj {p q : Port} {ps qs : List Port}
    (hps : ∀ x ∈ p :: ps, IsIdentifier x.name) (hqs : ∀ x ∈ q :: qs, IsIdentifier x.name)
    {level : Nat} {r s : List Char}
    (h : portsChars (p :: ps) level ++ r = portsChars (q :: qs) level ++ s) :
    p :: ps = q :: qs ∧ r = s := by
  induction ps generalizing p q qs with
  | nil =>
    have hp : IsIdentifier p.name := hps p List.mem_cons_self
    have hq : IsIdentifier q.name := hqs q List.mem_cons_self
    cases qs with
    | nil =>
      simp only [portsChars, lineChars_append_inj] at h
      obtain ⟨hpq, htail⟩ := splits_port hp hq h
      exact ⟨by rw [hpq], by simpa using htail⟩
    | cons q' qs =>
      simp only [portsChars, List.append_assoc, lineChars_append_inj, String.toList_append] at h
      have htail := (splits_port hp hq h).2
      simp at htail
  | cons p' ps ih =>
    obtain ⟨hp, hps'⟩ := List.forall_mem_cons.1 hps
    obtain ⟨hq, hqs'⟩ := List.forall_mem_cons.1 hqs
    cases qs with
    | nil =>
      simp only [portsChars, List.append_assoc, lineChars_append_inj, String.toList_append] at h
      have htail := (splits_port hp hq h).2
      simp at htail
    | cons q' qs =>
      simp only [portsChars, List.append_assoc, lineChars_append_inj, String.toList_append] at h
      obtain ⟨hpq, htail⟩ := splits_port hp hq h
      simp only [List.append_cancel_left_eq, List.cons.injEq, true_and] at htail
      obtain ⟨hlists, hend⟩ := ih hps' hqs' htail
      exact ⟨by rw [hpq, hlists], hend⟩

/-- The ports of an entity are read up to a line that is less deep. -/
theorem portClause_append_inj {ps qs : List Port} (hps : ∀ x ∈ ps, IsIdentifier x.name)
    (hqs : ∀ x ∈ qs, IsIdentifier x.name) {level : Nat} {r s : List Char} (hr : Leaves level r)
    (hs : Leaves level s)
    (h : portClauseChars ps level ++ r = portClauseChars qs level ++ s) : ps = qs ∧ r = s := by
  have hstart (t : List Char) : StartsAt level (lineChars level "port (" ++ t) :=
    startsAt_lineChars (s := "port (") rfl (by decide) t
  cases ps with
  | nil =>
    cases qs with
    | nil => exact ⟨rfl, by simpa [portClauseChars] using h⟩
    | cons q qs =>
      simp only [portClauseChars, List.nil_append, List.append_assoc] at h
      rw [h] at hr
      exact absurd (hstart _) hr.not_startsAt
  | cons p ps =>
    cases qs with
    | nil =>
      simp only [portClauseChars, List.nil_append, List.append_assoc] at h
      rw [← h] at hs
      exact absurd (hstart _) hs.not_startsAt
    | cons q qs =>
      simp only [portClauseChars, List.append_assoc, List.append_cancel_left_eq] at h
      obtain ⟨hlists, htail⟩ := ports_append_inj hps hqs h
      exact ⟨hlists, List.append_cancel_left htail⟩

/-! ### Entities -/

theorem allIdentifiers_names {e : Entity} :
    AllIdentifiers e.names ↔ IsIdentifier e.name ∧ (∀ p ∈ e.ports, IsIdentifier p.name) ∧
      (∀ x ∈ e.signals, IsIdentifier x.name) ∧ ∀ c ∈ e.statements, c.Lexical := by
  unfold Entity.names
  rw [allIdentifiers_cons, allIdentifiers_append, allIdentifiers_append, and_assoc]
  simp only [AllIdentifiers, Concurrent.Lexical, List.forall_mem_map, List.forall_mem_flatMap]

/-- An entity is read from its text. -/
theorem chars_inj {e e' : Entity} (he : AllIdentifiers e.names) (he' : AllIdentifiers e'.names)
    {level : Nat} (h : e.chars level = e'.chars level) : e = e' := by
  obtain ⟨hname, hports, hsignals, hstatements⟩ := allIdentifiers_names.1 he
  obtain ⟨hname', hports', hsignals', hstatements'⟩ := allIdentifiers_names.1 he'
  obtain ⟨name, ports, signals, statements⟩ := e
  obtain ⟨name', ports', signals', statements'⟩ := e'
  simp only [Entity.chars, List.append_assoc, List.append_cancel_left_eq, lineChars_append_inj,
    String.toList_append, String.reduceToList, List.cons_append, List.nil_append,
    List.cons.injEq, true_and] at h
  obtain ⟨hnames, htail⟩ := name_append_inj hname hname' (by decide) (by decide) h
  change name = name' at hnames
  subst hnames
  simp only [List.cons.injEq, true_and] at htail
  -- The ports end where the entity does, the signals where the architecture begins.
  have hend (t : List Char) : Leaves (level + 1) (lineChars level ("end " ++ name ++ ";") ++ t) := by
    have hline : ("end " ++ name ++ ";").toList = 'e' :: ("nd ".toList ++ name.toList ++ [';']) := by
      simp
    exact leaves_lineChars hline (by decide) t
  obtain ⟨hports, htail⟩ := portClause_append_inj hports hports' (hend _) (hend _) htail
  simp only [List.append_cancel_left_eq, List.cons.injEq, true_and] at htail
  have hbegin (t : List Char) : Leaves (level + 1) (lineChars level "begin" ++ t) :=
    leaves_lineChars (s := "begin") rfl (by decide) t
  obtain ⟨hsignals, htail⟩ := splits_lines (fun x _ => startsAt_signal x (level + 1)) hsignals
    (fun x hx => splits_signal (hsignals x hx) (level + 1)) hsignals' (hbegin _) (hbegin _) htail
  simp only [List.append_cancel_left_eq] at htail
  have hlast : Leaves (level + 1) (lineChars level "end rtl;" ++ []) :=
    leaves_lineChars (s := "end rtl;") rfl (by decide) []
  rw [List.append_nil] at hlast
  obtain ⟨hstatements, -⟩ := splits_lines (fun c hc => startsAt_concurrent hc (level + 1))
    hstatements (fun c hc => splits_concurrent (hstatements c hc) (level + 1)) hstatements'
    hlast hlast htail
  rw [show ports = ports' from hports, show signals = signals' from hsignals,
    show statements = statements' from hstatements]

/-- Where an entity can be written, a text is added to what was written before, and this
    text determines the entity. -/
theorem write_determines {e e' : Entity} (he : AllIdentifiers e.names)
    (he' : AllIdentifiers e'.names) (level : UInt32) :
    ∃ text text' : String,
      (∀ before w, e.write ⟨before, level⟩ = .ok () w ↔
        level.toNat + e.depth < UInt32.size ∧ w = ⟨before ++ text, level⟩) ∧
      (∀ before w, e'.write ⟨before, level⟩ = .ok () w ↔
        level.toNat + e'.depth < UInt32.size ∧ w = ⟨before ++ text', level⟩) ∧
      (text = text' ↔ e = e') := by
  refine ⟨String.ofList (e.chars level.toNat), String.ofList (e'.chars level.toNat), ?_, ?_, ?_⟩
  · intro before w
    exact (writes_entity e).eq_ok_iff
  · intro before w
    exact (writes_entity e').eq_ok_iff
  · constructor
    · intro htexts
      exact chars_inj he he' (String.ofList_injective htexts)
    · intro heq
      rw [heq]

/-- A latch with a nested choice, for a given name of the stored bit. -/
def latch (stored : String) : Entity where
  name := "latch"
  ports := [⟨"d", .input⟩, ⟨"\\in\\", .input⟩, ⟨"q", .output⟩]
  signals := [⟨stored, some true⟩]
  statements :=
    [.assign "q" stored,
     .process "hold" ["d", "\\in\\"]
       [.choose [(.equals "\\in\\" true, [.choose [] [.assign stored (.reference "d")]]),
           (.rising "d", [])]
         [.assign stored (.bit false)]]]

/-- A name with the text of a statement inside is told from a name without. -/
theorem write_determines_latch :
    AllIdentifiers (latch "bit").names ∧
      AllIdentifiers (latch "\\bit;\n    q <= \\\\\\").names ∧
      ∃ text text' : String,
        (∀ before, (latch "bit").write ⟨before, 1⟩ = .ok () ⟨before ++ text, 1⟩) ∧
        (∀ before, (latch "\\bit;\n    q <= \\\\\\").write ⟨before, 1⟩ =
          .ok () ⟨before ++ text', 1⟩) ∧
        text ≠ text' := by
  have hplain : AllIdentifiers (latch "bit").names := by decide +kernel
  have hforged : AllIdentifiers (latch "\\bit;\n    q <= \\\\\\").names := by decide +kernel
  have hdiffer : latch "bit" ≠ latch "\\bit;\n    q <= \\\\\\" := by simp [latch]
  obtain ⟨text, text', hwrite, hwrite', hiff⟩ := write_determines hplain hforged 1
  exact ⟨hplain, hforged, text, text', fun before => (hwrite before _).2 ⟨by decide, rfl⟩,
    fun before => (hwrite' before _).2 ⟨by decide, rfl⟩, fun htexts => hdiffer (hiff.1 htexts)⟩

end Netlister.Vhdl
