import Netlister.Proofs.Netlist.Meaning
import Netlister.Proofs.Vhdl.WellFormed

/-! # What an entity does

  The event-driven meaning of an entity. In each step the statements schedule
  values for what they assign, all from the values before the step:

  - an assignment always schedules the value of its source;
  - a process runs in the first step, and whenever a name of its sensitivity list
    has changed in the step before; else it schedules nothing.

  A name for which nothing is scheduled keeps its value, and input ports are set
  from outside.
-/

namespace Netlister.Vhdl

/-! ### Statements -/

/-- The condition holds now. -/
def Condition.Holds (m : Moment String) : Condition → Prop
  | .equals name value => m.current name = .ofBool value
  | .rising name => m.Rises name
  | .falling name => m.Falls name

instance (m : Moment String) : (c : Condition) → Decidable (c.Holds m)
  | .equals name value => inferInstanceAs (Decidable (m.current name = .ofBool value))
  | .rising name => inferInstanceAs (Decidable (m.Rises name))
  | .falling name => inferInstanceAs (Decidable (m.Falls name))

/-- The value of an expression now. -/
def Expression.value (m : Moment String) : Expression → Logic
  | .reference name => m.current name
  | .bit b => .ofBool b

mutual

/-- The values that a statement of a process schedules, in order. -/
def Sequential.schedule (m : Moment String) : Sequential → List (String × Logic)
  | .assign target source => [(target, source.value m)]
  | .choose branches otherwise =>
    (Sequential.branchSchedule m branches).getD (Sequential.bodySchedule m otherwise)

/-- The values that statements schedule one after the other. -/
def Sequential.bodySchedule (m : Moment String) : List Sequential → List (String × Logic)
  | [] => []
  | q :: qs => q.schedule m ++ Sequential.bodySchedule m qs

/-- The values that the first branch schedules whose condition holds, if there is one. -/
def Sequential.branchSchedule (m : Moment String) :
    List (Condition × List Sequential) → Option (List (String × Logic))
  | [] => none
  | (condition, body) :: branches =>
    if condition.Holds m then some (Sequential.bodySchedule m body)
    else Sequential.branchSchedule m branches

end

/-- A process with this sensitivity list runs: it is the first step, or something
    on the list has changed. -/
def Awake (first : Bool) (m : Moment String) (sensitivity : List String) : Prop :=
  first = true ∨ ∃ name ∈ sensitivity, m.previous name ≠ m.current name

instance (first : Bool) (m : Moment String) (sensitivity : List String) :
    Decidable (Awake first m sensitivity) :=
  inferInstanceAs (Decidable (_ ∨ _))

/-- The values that a statement of an architecture schedules, in order. -/
def Concurrent.schedule (first : Bool) (m : Moment String) : Concurrent → List (String × Logic)
  | .assign target source => [(target, m.current source)]
  | .process _ sensitivity body =>
    if Awake first m sensitivity then Sequential.bodySchedule m body else []

/-- The last value that is scheduled for a name. -/
def scheduled (name : String) (schedule : List (String × Logic)) : Option Logic :=
  (schedule.filter (·.1 = name)).getLast?.map (·.2)

/-! ### Entities -/

namespace Entity

/-- The values that an entity starts with, with the values of the input ports. -/
def start (e : Entity) (inputs : String → Logic) (name : String) : Logic :=
  if ⟨name, .input⟩ ∈ e.ports then inputs name
  else ((e.signals.find? (·.name = name)).bind (·.initial)).elim .unknown Logic.ofBool

/-- The value of a name after a step, with the values of the input ports after it. -/
def next (e : Entity) (first : Bool) (inputs : String → Logic) (m : Moment String)
    (name : String) : Logic :=
  if ⟨name, .input⟩ ∈ e.ports then inputs name
  else (scheduled name (e.statements.flatMap (·.schedule first m))).getD (m.current name)

/-- The values of all names at each moment, with the values of the input ports at
    each moment. -/
def run (e : Entity) (inputs : Nat → String → Logic) : Nat → Moment String
  | 0 => ⟨e.start (inputs 0), e.start (inputs 0)⟩
  | t + 1 =>
    let m := e.run inputs t
    ⟨m.current, e.next (t == 0) (inputs (t + 1)) m⟩

end Entity

/-! ### What a statement can schedule

  A statement only schedules values for the names that it assigns, whatever
  branches it takes. -/

mutual

theorem Sequential.target_of_schedule {m : Moment String} (guard : Option Condition) :
    (q : Sequential) → ∀ x ∈ q.schedule m, x.1 ∈ (q.assignments guard).map (·.target)
  | .assign target source => by
    intro x hx
    rw [Sequential.schedule, List.mem_singleton] at hx
    simp [Sequential.assignments, hx]
  | .choose branches otherwise => by
    intro x hx
    rw [Sequential.schedule] at hx
    rw [Sequential.assignments, List.map_append, List.mem_append]
    cases hbranch : Sequential.branchSchedule m branches with
    | some schedule =>
      rw [hbranch] at hx
      exact .inl (Sequential.target_of_branchSchedule branches schedule hbranch x hx)
    | none =>
      rw [hbranch] at hx
      exact .inr (Sequential.target_of_bodySchedule none otherwise x hx)

theorem Sequential.target_of_bodySchedule {m : Moment String} (guard : Option Condition) :
    (qs : List Sequential) → ∀ x ∈ Sequential.bodySchedule m qs,
      x.1 ∈ (Sequential.bodyAssignments guard qs).map (·.target)
  | [] => by
    intro x hx
    rw [Sequential.bodySchedule] at hx
    cases hx
  | q :: qs => by
    intro x hx
    rw [Sequential.bodySchedule, List.mem_append] at hx
    rw [Sequential.bodyAssignments, List.map_append, List.mem_append]
    rcases hx with hx | hx
    · exact .inl (Sequential.target_of_schedule guard q x hx)
    · exact .inr (Sequential.target_of_bodySchedule guard qs x hx)

theorem Sequential.target_of_branchSchedule {m : Moment String} :
    (branches : List (Condition × List Sequential)) → ∀ schedule,
      Sequential.branchSchedule m branches = some schedule → ∀ x ∈ schedule,
        x.1 ∈ (Sequential.branchAssignments branches).map (·.target)
  | [] => by
    intro schedule h
    rw [Sequential.branchSchedule] at h
    cases h
  | (condition, body) :: branches => by
    intro schedule h x hx
    rw [Sequential.branchSchedule] at h
    rw [Sequential.branchAssignments, List.map_append, List.mem_append]
    split at h
    · cases h
      exact .inl (Sequential.target_of_bodySchedule (some condition) body x hx)
    · exact .inr (Sequential.target_of_branchSchedule branches schedule h x hx)

end

theorem Concurrent.target_of_schedule {first : Bool} {m : Moment String} {c : Concurrent}
    {x : String × Logic} (hx : x ∈ c.schedule first m) : x.1 ∈ c.targets := by
  cases c with
  | assign target source =>
    rw [Concurrent.schedule, List.mem_singleton] at hx
    rw [hx]
    exact List.mem_singleton_self target
  | process label sensitivity body =>
    rw [Concurrent.schedule] at hx
    split at hx
    · exact Sequential.target_of_bodySchedule none body x hx
    · cases hx

/-- What is scheduled for a name with one driver is what this driver schedules. -/
theorem scheduled_of_driversOf {e : Entity} {name : String} {c : Concurrent}
    (h : e.driversOf name = [c]) (first : Bool) (m : Moment String) :
    scheduled name (e.statements.flatMap (·.schedule first m)) =
      scheduled name (c.schedule first m) := by
  -- Only the drivers of the name contribute to its values.
  have hdrivers (statements : List Concurrent) :
      (statements.flatMap (·.schedule first m)).filter (·.1 = name) =
        (statements.filter fun q => decide (name ∈ q.targets)).flatMap
          fun q => (q.schedule first m).filter (·.1 = name) := by
    induction statements with
    | nil => rfl
    | cons q statements ih =>
      rw [List.flatMap_cons, List.filter_append, ih, List.filter_cons]
      by_cases hq : name ∈ q.targets
      · rw [if_pos (decide_eq_true hq), List.flatMap_cons]
      · have hnone : (q.schedule first m).filter (·.1 = name) = [] := by
          rw [List.filter_eq_nil_iff]
          intro x hx hname
          exact hq (of_decide_eq_true hname ▸ Concurrent.target_of_schedule hx)
        rw [if_neg (by simpa using hq), hnone, List.nil_append]
  unfold scheduled
  rw [hdrivers]
  unfold Entity.driversOf at h
  rw [h, List.flatMap_singleton]

/-! ### The process of a register -/

theorem holds_edge (m : Moment String) (rising : Bool) (name : String) :
    (if rising then Condition.rising name else Condition.falling name).Holds m ↔
      m.Edge rising name := by
  cases rising <;> rfl

/-- What the process of a register schedules for its output when it runs. -/
theorem scheduled_registerBody (p : RegisterParams) (m : Moment String)
    (output data clock reset : String) :
    scheduled output (Sequential.bodySchedule m [registerBody p output data clock reset]) =
      if m.current reset = .ofBool p.resetActiveHigh ∧
          (p.resetAsynchronous = true ∨ m.Edge p.clockActiveHigh clock) then
        some (.ofBool p.initialValue)
      else if m.Edge p.clockActiveHigh clock then some (m.current data)
      else none := by
  unfold registerBody
  have hresets : (Condition.equals reset p.resetActiveHigh).Holds m ↔
      m.current reset = .ofBool p.resetActiveHigh := Iff.rfl
  -- The branches only look at the edge, the reset and when the reset acts.
  by_cases hedge : m.Edge p.clockActiveHigh clock <;>
    by_cases hreset : m.current reset = .ofBool p.resetActiveHigh <;>
      cases p.resetAsynchronous <;>
        simp [Sequential.bodySchedule, Sequential.schedule, Sequential.branchSchedule, scheduled,
          Expression.value, holds_edge, hresets, hedge, hreset]

end Netlister.Vhdl
