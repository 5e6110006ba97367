import Netlister.Vhdl.Printer

/-! # The text of an entity as a function

  A writing step goes through a state: it adds to a text at the depth that the state says.
  What it adds is a function of that depth, and this module names the function for every
  part of an entity. It also says how many levels a part opens at a time, because levels
  can only be counted up to a limit.

  `Writes` relates a step to both: it writes its characters where the levels that it needs
  can be counted, and fails where they cannot. This is kept by the ways in which steps are
  put together, so each part of an entity needs one line.

  `writes_entity` is the result: an entity is written whole, unless it starts too deep.
-/

namespace Netlister

namespace CodeWriter

/-- The characters of a line at a depth. -/
def lineChars (level : Nat) (s : String) : List Char :=
  List.replicate (4 * level) ' ' ++ (s.toList ++ ['\n'])

/-- The step opens `depth` levels at a time. Where these can be counted, it succeeds, adds the
    characters for the depth where it starts, and ends there; else it leaves a level that it
    has lost count of. -/
structure Writes (step : Step) (depth : Nat) (chars : Nat → List Char) : Prop where
  fits : ∀ w : CodeWriter, w.level.toNat + depth < UInt32.size →
    step w = .ok () { w with text := w.text ++ String.ofList (chars w.level.toNat) }
  overflows : ∀ w : CodeWriter, UInt32.size ≤ w.level.toNat + depth →
    ∃ w', step w = .error .underflow w'

section Writes

variable {a b : Step} {c d : Nat} {f g : Nat → List Char}

/-- A step that opens no level cannot lose count. -/
theorem writes_flat (h : ∀ w : CodeWriter,
    a w = .ok () { w with text := w.text ++ String.ofList (f w.level.toNat) }) : Writes a 0 f where
  fits w _ := h w
  overflows w hdeep := absurd w.level.toNat_lt (Nat.not_lt.2 hdeep)

theorem writes_pure : Writes (pure ()) 0 fun _ => [] := by
  refine writes_flat fun w => ?_
  have hempty : String.ofList [] = "" := rfl
  show EStateM.Result.ok () w = _
  rw [hempty, String.append_empty]

theorem writes_newline : Writes newline 0 fun _ => ['\n'] :=
  writes_flat fun _ => rfl

theorem writes_line (s : String) : Writes (line s) 0 fun level => lineChars level s := by
  refine writes_flat fun w => ?_
  show EStateM.Result.ok () { w with text := w.text ++ margin w.level ++ s ++ "\n" } = _
  have hline : String.ofList (lineChars w.level.toNat s) = margin w.level ++ s ++ "\n" := by
    apply String.toList_inj.1
    simp [lineChars, margin]
  rw [hline]
  simp [String.append_assoc]

/-- What two steps add is added one after the other. -/
theorem Writes.seq (ha : Writes a c f) (hb : Writes b d g) :
    Writes (do a; b) (max c d) fun level => f level ++ g level where
  fits w hw := by
    show EStateM.bind a (fun _ => b) w = _
    simp only [EStateM.bind, ha.fits w (by omega)]
    rw [hb.fits _ (by simp only; omega)]
    simp [String.append_assoc, String.ofList_append]
  overflows w hw := by
    show ∃ w', EStateM.bind a (fun _ => b) w = _
    by_cases hc : UInt32.size ≤ w.level.toNat + c
    · obtain ⟨w', hw'⟩ := ha.overflows w hc
      exact ⟨w', by simp only [EStateM.bind, hw']⟩
    · -- The first step ends at the depth where the second one then starts.
      obtain ⟨w', hw'⟩ := hb.overflows
        { w with text := w.text ++ String.ofList (f w.level.toNat) } (by simp only; omega)
      exact ⟨w', by simp only [EStateM.bind, ha.fits w (by omega), hw']⟩

theorem indent_eq (w : CodeWriter) : indent w = .ok () { w with level := w.level + 1 } := rfl

/-- Levels can be left down to level zero. -/
theorem unindent_eq (w : CodeWriter) :
    unindent w =
      if w.level = 0 then .error .underflow w else .ok () { w with level := w.level - 1 } := by
  have hlook : unindent w = (if w.level = 0 then throw .underflow
      else modify fun w => { w with level := w.level - 1 } : Step) w := rfl
  rw [hlook]
  split <;> rfl

/-- One level deeper, as long as there is one. -/
theorem toNat_succ {level : UInt32} (h : level.toNat + 1 < UInt32.size) :
    (level + 1).toNat = level.toNat + 1 := by
  rw [UInt32.toNat_add, UInt32.toNat_one]
  exact Nat.mod_eq_of_lt h

/-- The body of a block is written one level deeper. -/
theorem Writes.block (header : String) (hb : Writes b d g) :
    Writes (block header b) (d + 1) fun level => lineChars level header ++ g (level + 1) where
  fits w hw := by
    have hdeeper : (w.level + 1).toNat = w.level.toNat + 1 := toNat_succ (by omega)
    have hopen : w.level + 1 ≠ 0 := by
      intro hzero
      rw [hzero, UInt32.toNat_zero] at hdeeper
      omega
    show EStateM.bind (line header) (fun _ => EStateM.bind indent fun _ =>
      EStateM.bind b fun _ => unindent) w = _
    simp only [EStateM.bind, (writes_line header).fits w (by omega), indent_eq]
    rw [hb.fits _ (by simp only [hdeeper]; omega)]
    simp [unindent_eq, hopen, hdeeper, String.append_assoc, String.ofList_append]
  overflows w hw := by
    show ∃ w', EStateM.bind (line header) (fun _ => EStateM.bind indent fun _ =>
      EStateM.bind b fun _ => unindent) w = _
    have hlevel : w.level.toNat + 0 < UInt32.size := w.level.toNat_lt
    simp only [EStateM.bind, (writes_line header).fits w hlevel, indent_eq]
    generalize w.text ++ String.ofList (lineChars w.level.toNat header) = text
    by_cases hbody : UInt32.size ≤ (w.level + 1).toNat + d
    · obtain ⟨w', hw'⟩ := hb.overflows ⟨text, w.level + 1⟩ hbody
      exact ⟨w', by rw [hw']⟩
    · -- The body is written all the same, so it starts at level zero and cannot be left.
      have hzero : w.level + 1 = 0 := by
        rcases Nat.lt_or_ge (w.level.toNat + 1) UInt32.size with hnext | hlast
        · rw [toNat_succ hnext] at hbody
          omega
        · have hsize : w.level.toNat + 1 = UInt32.size := by omega
          refine UInt32.toNat_inj.1 ?_
          rw [UInt32.toNat_add, UInt32.toNat_one, hsize]
          rfl
      rw [hb.fits ⟨text, w.level + 1⟩ (by simp only; omega)]
      exact ⟨_, (unindent_eq _).trans (if_pos hzero)⟩

/-- All that a step can do. -/
theorem Writes.eq_ok_iff (h : Writes a d f) {w w' : CodeWriter} :
    a w = .ok () w' ↔ w.level.toNat + d < UInt32.size ∧
      w' = { w with text := w.text ++ String.ofList (f w.level.toNat) } := by
  by_cases hfits : w.level.toNat + d < UInt32.size
  · rw [h.fits w hfits]
    simp [hfits, eq_comm]
  · obtain ⟨v, hv⟩ := h.overflows w (Nat.not_lt.1 hfits)
    simp [hv, hfits]

end Writes

end CodeWriter

namespace Vhdl

open CodeWriter

/-! ### Characters of the parts -/

/-- The characters of port declarations. -/
def portsChars : List Port → Nat → List Char
  | [] => fun _ => []
  | [p] => fun level => lineChars level p.text
  | p :: q :: ps => fun level => lineChars level (p.text ++ ";") ++ portsChars (q :: ps) level

/-- The characters of the ports of an entity. -/
def portClauseChars : List Port → Nat → List Char
  | [] => fun _ => []
  | p :: ps => fun level =>
    lineChars level "port (" ++ portsChars (p :: ps) (level + 1) ++ lineChars level ");"

mutual

/-- The characters of a statement of a process. -/
def Sequential.chars : Sequential → Nat → List Char
  | .assign target source => fun level => lineChars level (target ++ " <= " ++ source.text ++ ";")
  | .choose branches otherwise => fun level =>
    branchesChars "if" branches level ++ (elseChars otherwise level ++ lineChars level "end if;")

/-- The characters of the statements of a body. -/
def bodyChars : List Sequential → Nat → List Char
  | [] => fun _ => []
  | q :: qs => fun level => q.chars level ++ bodyChars qs level

/-- The characters of branches, the first of them opened by `keyword`. -/
def branchesChars (keyword : String) : List (Condition × List Sequential) → Nat → List Char
  | [] => fun _ => []
  | (condition, body) :: rest => fun level =>
    lineChars level (keyword ++ " " ++ condition.text ++ " then") ++ bodyChars body (level + 1) ++
      branchesChars "elsif" rest level

/-- The characters of the statements for the case that no branch applies. -/
def elseChars : List Sequential → Nat → List Char
  | [] => fun _ => []
  | q :: qs => fun level =>
    lineChars level "else" ++ (q.chars (level + 1) ++ bodyChars qs (level + 1))

end

/-- The characters of a concurrent statement. -/
def Concurrent.chars : Concurrent → Nat → List Char
  | .assign target source => fun level => lineChars level (target ++ " <= " ++ source ++ ";")
  | .process label sensitivity body => fun level =>
    lineChars level (label ++ " : process (" ++ ", ".intercalate sensitivity ++ ")") ++
      (lineChars level "begin" ++ bodyChars body (level + 1) ++ lineChars level "end process;")

/-- The characters of an entity and its architecture. -/
def Entity.chars (e : Entity) (level : Nat) : List Char :=
  lineChars level "library IEEE;" ++ (lineChars level "use IEEE.std_logic_1164.all;" ++ (['\n'] ++
    (lineChars level ("entity " ++ e.name ++ " is") ++ portClauseChars e.ports (level + 1) ++
      (lineChars level ("end " ++ e.name ++ ";") ++ (['\n'] ++
        (lineChars level ("architecture rtl of " ++ e.name ++ " is") ++
            e.signals.flatMap (fun s => lineChars (level + 1) s.text) ++
          (lineChars level "begin" ++ e.statements.flatMap (·.chars (level + 1)) ++
            lineChars level "end rtl;")))))))

/-! ### Levels of the parts -/

/-- How many levels the ports of an entity open. -/
def portClauseDepth : List Port → Nat
  | [] => 0
  | _ :: _ => 1

mutual

/-- How many levels a statement of a process opens at a time. -/
def Sequential.depth : Sequential → Nat
  | .assign _ _ => 0
  | .choose branches otherwise => max (branchesDepth branches) (elseDepth otherwise)

/-- How many levels the statements of a body open at a time. -/
def bodyDepth : List Sequential → Nat
  | [] => 0
  | q :: qs => max q.depth (bodyDepth qs)

/-- How many levels branches open at a time, one of them for the body of a branch. -/
def branchesDepth : List (Condition × List Sequential) → Nat
  | [] => 0
  | (_, body) :: rest => max (bodyDepth body + 1) (branchesDepth rest)

/-- How many levels the statements open for the case that no branch applies. -/
def elseDepth : List Sequential → Nat
  | [] => 0
  | q :: qs => max q.depth (bodyDepth qs) + 1

end

/-- How many levels a concurrent statement opens at a time. -/
def Concurrent.depth : Concurrent → Nat
  | .assign _ _ => 0
  | .process _ _ body => bodyDepth body + 1

/-- How many levels concurrent statements open at a time. -/
def statementsDepth : List Concurrent → Nat
  | [] => 0
  | c :: cs => max c.depth (statementsDepth cs)

/-- How many levels an entity opens at a time: those of its ports or of its statements, and
    one around them. -/
def Entity.depth (e : Entity) : Nat :=
  max (portClauseDepth e.ports) (statementsDepth e.statements) + 1

/-! ### Steps write these characters -/

theorem writes_signals (signals : List Signal) :
    Writes (inOrder (signals.map fun s => line s.text)) 0
      fun level => signals.flatMap fun s => lineChars level s.text := by
  induction signals with
  | nil => exact writes_pure
  | cons s signals ih => exact (writes_line s.text).seq ih

theorem writes_ports (ports : List Port) : Writes (writePorts ports) 0 (portsChars ports) := by
  induction ports with
  | nil => exact writes_pure
  | cons p ports ih =>
    cases ports with
    | nil => exact writes_line p.text
    | cons q ports => exact (writes_line _).seq ih

theorem writes_portClause (ports : List Port) :
    Writes (writePortClause ports) (portClauseDepth ports) (portClauseChars ports) := by
  cases ports with
  | nil => exact writes_pure
  | cons p ports => exact (Writes.block _ (writes_ports _)).seq (writes_line _)

mutual

theorem writes_sequential : (q : Sequential) → Writes q.write q.depth q.chars
  | .assign _ _ => by
    unfold Sequential.write Sequential.depth Sequential.chars
    exact writes_line _
  | .choose branches otherwise => by
    unfold Sequential.write Sequential.depth Sequential.chars
    have helse := (writes_else otherwise).seq (writes_line "end if;")
    rw [Nat.max_zero] at helse
    exact (writes_branches "if" branches).seq helse

theorem writes_body : (qs : List Sequential) → Writes (writeBody qs) (bodyDepth qs) (bodyChars qs)
  | [] => by
    unfold writeBody bodyDepth bodyChars
    exact writes_pure
  | q :: qs => by
    unfold writeBody bodyDepth bodyChars
    exact (writes_sequential q).seq (writes_body qs)

theorem writes_branches (keyword : String) : (branches : List (Condition × List Sequential)) →
    Writes (writeBranches keyword branches) (branchesDepth branches) (branchesChars keyword branches)
  | [] => by
    unfold writeBranches branchesDepth branchesChars
    exact writes_pure
  | (_, body) :: branches => by
    unfold writeBranches branchesDepth branchesChars
    exact (Writes.block _ (writes_body body)).seq (writes_branches "elsif" branches)

theorem writes_else : (qs : List Sequential) → Writes (writeElse qs) (elseDepth qs) (elseChars qs)
  | [] => by
    unfold writeElse elseDepth elseChars
    exact writes_pure
  | q :: qs => by
    unfold writeElse elseDepth elseChars
    exact Writes.block _ ((writes_sequential q).seq (writes_body qs))

end

theorem writes_concurrent (c : Concurrent) : Writes c.write c.depth c.chars := by
  cases c with
  | assign target source => exact writes_line _
  | process label sensitivity body =>
    have hbody := (Writes.block "begin" (writes_body body)).seq (writes_line "end process;")
    rw [Nat.max_zero] at hbody
    have hprocess := (writes_line (label ++ " : process (" ++ ", ".intercalate sensitivity ++ ")")).seq
      hbody
    rw [Nat.zero_max] at hprocess
    exact hprocess

theorem writes_statements (statements : List Concurrent) :
    Writes (inOrder (statements.map Concurrent.write)) (statementsDepth statements)
      fun level => statements.flatMap fun c => c.chars level := by
  induction statements with
  | nil => exact writes_pure
  | cons c statements ih => exact (writes_concurrent c).seq ih

/-- An entity is written whole, unless it starts too deep. -/
theorem writes_entity (e : Entity) : Writes e.write e.depth e.chars := by
  have harchitecture := (Writes.block ("architecture rtl of " ++ e.name ++ " is")
    (writes_signals e.signals)).seq
      ((Writes.block "begin" (writes_statements e.statements)).seq (writes_line "end rtl;"))
  have hentity := (Writes.block ("entity " ++ e.name ++ " is") (writes_portClause e.ports)).seq
    ((writes_line ("end " ++ e.name ++ ";")).seq (writes_newline.seq harchitecture))
  have hwhole := (writes_line "library IEEE;").seq
    ((writes_line "use IEEE.std_logic_1164.all;").seq (writes_newline.seq hentity))
  have hdepth : max 0 (max 0 (max 0 (max (portClauseDepth e.ports + 1) (max 0 (max 0
      (max (0 + 1) (max (statementsDepth e.statements + 1) 0))))))) = e.depth := by
    unfold Entity.depth
    omega
  rw [hdepth] at hwhole
  exact hwhole

end Vhdl

end Netlister
