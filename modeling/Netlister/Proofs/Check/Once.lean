import Mathlib.Data.List.Forall2
import Netlister.Check.Basic

/-! # A check is verified at most once

  Checks are run one by one or all in order, as often as one likes and in any
  mixture. Whatever is done with them, a check performs its verification on its
  first run only, and what came out then decides all that follows.

  - `Check.ran_of_notRun`, `Check.ran_of_ne`, `Check.run_eq`: what one run does.
  - `Check.runsAll_runAll`: what a run of all checks does.
  - `Check.later_act` is the step: an action runs some of the checks and leaves the
    others alone. A second run changes nothing, so any number of actions do no more to
    a check than one run of it (`Check.later_history`).
  - `Check.checks_verified_once` puts this in terms of what can be observed.
-/

namespace Netlister

/-- How the state of a check may change from one moment to a later one. -/
inductive CheckState.Moves : CheckState → CheckState → Prop where
  /-- It is what it was. -/
  | stay (state : CheckState) : Moves state state
  /-- The verification has ended. -/
  | finish (found : List Violation) : Moves .notRun (.done found)
  /-- The verification has begun and will never end. -/
  | breakOff : Moves .notRun .running

/-- The state that a first verification leaves behind. -/
def CheckState.ofFirst : Except NoResult (List Violation) → CheckState
  | .ok found => .done found
  | .error _ => .running

theorem CheckState.ofFirst_ne_notRun (first : Except NoResult (List Violation)) :
    CheckState.ofFirst first ≠ .notRun := by
  cases first with
  | ok found => exact CheckState.noConfusion
  | error e => exact CheckState.noConfusion

namespace Check

/-! ### One run -/

/-- The check was never run. -/
def Fresh (c : Check) : Prop := c.state = .notRun ∧ c.verified = 0

/-- What a run of the check finds, or why it has no result. -/
def outcome (c : Check) : Except NoResult (List Violation) :=
  match c.state with
  | .notRun => c.verify c.verified
  | .running => .error ⟨c.name⟩
  | .done found => .ok found

/-- The check after a run. -/
def ran (c : Check) : Check := c.run.1

section OneRun

variable {c : Check}

/-- The first run performs the verification and keeps what came out. -/
theorem ran_of_notRun (h : c.state = .notRun) :
    c.ran = { c with state := .ofFirst (c.verify c.verified), verified := c.verified + 1 } := by
  unfold ran run
  rw [h]
  cases c.verify c.verified with
  | ok found => simp [CheckState.ofFirst]
  | error e => simp [CheckState.ofFirst]

/-- A later run changes nothing. -/
theorem ran_of_ne (h : c.state ≠ .notRun) : c.ran = c := by
  unfold ran run
  cases hstate : c.state with
  | notRun => exact absurd hstate h
  | running => rfl
  | done found => rfl

/-- The verdict of a run is whether it finds nothing. -/
theorem run_eq (c : Check) : c.run = (c.ran, c.outcome.map List.isEmpty) := by
  have hverdict : c.run.2 = c.outcome.map List.isEmpty := by
    unfold run outcome
    cases hstate : c.state with
    | notRun =>
      cases c.verify c.verified with
      | ok found => simp [Except.map]
      | error e => simp [Except.map]
    | running => rfl
    | done found => rfl
  rw [← hverdict]
  rfl

theorem state_ran_ne (c : Check) : c.ran.state ≠ .notRun := by
  by_cases h : c.state = .notRun
  · rw [ran_of_notRun h]
    exact CheckState.ofFirst_ne_notRun _
  · rw [ran_of_ne h]
    exact h

theorem ran_ran (c : Check) : c.ran.ran = c.ran := ran_of_ne c.state_ran_ne

theorem name_ran (c : Check) : c.ran.name = c.name := by
  by_cases h : c.state = .notRun
  · rw [ran_of_notRun h]
  · rw [ran_of_ne h]

/-- What a run has found can be seen afterwards. -/
theorem violations_ran {found : List Violation} (h : c.outcome = .ok found) :
    c.ran.violations = found := by
  unfold outcome at h
  cases hstate : c.state with
  | notRun =>
    have hfirst : c.verify c.verified = .ok found := by simpa [hstate] using h
    rw [ran_of_notRun hstate, hfirst]
    rfl
  | running => simp [hstate] at h
  | done kept =>
    have hkept : kept = found := by simpa [hstate] using h
    have hsame : c.ran = c := ran_of_ne (by simp [hstate])
    rw [hsame, violations, hstate, hkept]
    rfl

theorem moves_ran (c : Check) : c.state.Moves c.ran.state := by
  by_cases h : c.state = .notRun
  · rw [ran_of_notRun h, h]
    show CheckState.Moves .notRun (.ofFirst (c.verify c.verified))
    cases c.verify c.verified with
    | ok found => exact .finish found
    | error e => exact .breakOff
  · rw [ran_of_ne h]
    exact .stay _

end OneRun

/-! ### All checks -/

/-- The failure of a check that has a result and does not pass. -/
def failure? (c : Check) : Option CheckFailure :=
  match c.outcome with
  | .ok [] => none
  | .ok found => some ⟨c.name, found⟩
  | .error _ => none

/-- How a run of all checks ends: the checks before and after it, and what it answers. -/
inductive RunsAll : List Check → List Check → Except NoResult (List CheckFailure) → Prop where
  /-- All checks have a result. The answer is those that fail, with all they found. -/
  | complete {cs : List Check} (hresults : ∀ c ∈ cs, ∃ found, c.outcome = .ok found) :
      RunsAll cs (cs.map ran) (.ok (cs.filterMap failure?))
  /-- The first check without a result ends the run, and the checks behind it are not
      touched. -/
  | stopped {before behind : List Check} {c : Check} {e : NoResult}
      (hresults : ∀ b ∈ before, ∃ found, b.outcome = .ok found) (hc : c.outcome = .error e) :
      RunsAll (before ++ c :: behind) (before.map ran ++ c.ran :: behind) (.error e)

/-- A check with a result adds itself to the answer if it fails. -/
theorem RunsAll.cons {c : Check} {cs after : List Check}
    {answer : Except NoResult (List CheckFailure)} {found : List Violation}
    (hc : c.outcome = .ok found) (h : RunsAll cs after answer) :
    RunsAll (c :: cs) (c.ran :: after) (answer.map fun failures =>
      if found.isEmpty then failures else ⟨c.name, found⟩ :: failures) := by
  cases h with
  | complete hresults =>
    have hall : ∀ b ∈ c :: cs, ∃ found, b.outcome = .ok found :=
      List.forall_mem_cons.2 ⟨⟨found, hc⟩, hresults⟩
    have hfailures : (c :: cs).filterMap failure? =
        if found.isEmpty then cs.filterMap failure?
        else ⟨c.name, found⟩ :: cs.filterMap failure? := by
      cases found with
      | nil => simp [failure?, hc]
      | cons v vs => simp [failure?, hc]
    have hdone := RunsAll.complete hall
    rw [hfailures] at hdone
    exact hdone
  | @stopped before behind b e hresults hb =>
    have hall : ∀ b ∈ c :: before, ∃ found, b.outcome = .ok found :=
      List.forall_mem_cons.2 ⟨⟨found, hc⟩, hresults⟩
    exact RunsAll.stopped hall hb

/-- What a run of all checks does. -/
theorem runsAll_runAll (cs : List Check) : RunsAll cs (runAll cs).1 (runAll cs).2 := by
  induction cs with
  | nil => exact .complete fun c hc => absurd hc List.not_mem_nil
  | cons c cs ih =>
    unfold runAll
    rw [c.run_eq]
    cases hc : c.outcome with
    | error e =>
      exact @RunsAll.stopped [] cs c e (fun b hb => absurd hb List.not_mem_nil) hc
    | ok found =>
      show RunsAll (c :: cs) (c.ran :: (runAll cs).1) ((runAll cs).2.map fun failures =>
        if found.isEmpty then failures else ⟨c.ran.name, c.ran.violations⟩ :: failures)
      -- The answer is put together from the check after its run.
      rw [name_ran, violations_ran hc]
      exact ih.cons hc

/-! ### Histories -/

/-- What can be done with the checks of a list. -/
inductive Action where
  /-- The check at a place is run. -/
  | one (index : Nat)
  /-- All checks are run. -/
  | all
deriving DecidableEq

/-- The checks after an action. -/
def act (cs : List Check) : Action → List Check
  | .one index => cs.modify index ran
  | .all => (runAll cs).1

/-- The checks after some actions. -/
def history (cs : List Check) (actions : List Action) : List Check := actions.foldl act cs

/-- A check at a later moment: it was run in between, or not. -/
def Later (c c' : Check) : Prop := c' = c ∨ c' = c.ran

theorem Later.trans {c c' c'' : Check} (h : Later c c') (h' : Later c' c'') : Later c c'' := by
  rcases h with rfl | rfl
  · exact h'
  · -- The check was run already, and a second run changes nothing.
    right
    rcases h' with rfl | rfl
    · rfl
    · exact c.ran_ran

/-- The same for all checks of a list. -/
theorem later_trans {cs cs' cs'' : List Check} (h : List.Forall₂ Later cs cs')
    (h' : List.Forall₂ Later cs' cs'') : List.Forall₂ Later cs cs'' := by
  induction h generalizing cs'' with
  | nil => exact h'
  | cons hc _ ih =>
    cases h' with
    | cons hc' hcs' => exact .cons (hc.trans hc') (ih hcs')

theorem later_refl (cs : List Check) : List.Forall₂ Later cs cs :=
  List.forall₂_same.2 fun _ _ => .inl rfl

theorem later_map_ran (cs : List Check) : List.Forall₂ Later cs (cs.map ran) :=
  List.forall₂_map_right_iff.2 (List.forall₂_same.2 fun _ _ => .inr rfl)

theorem later_modify (cs : List Check) (index : Nat) :
    List.Forall₂ Later cs (cs.modify index ran) := by
  induction cs generalizing index with
  | nil => simp
  | cons c cs ih =>
    cases index with
    | zero => exact .cons (.inr rfl) (later_refl cs)
    | succ index => exact .cons (.inl rfl) (ih index)

/-- A run of all checks runs the first ones and leaves the others alone. -/
theorem RunsAll.later {cs after : List Check} {answer : Except NoResult (List CheckFailure)}
    (h : RunsAll cs after answer) : List.Forall₂ Later cs after := by
  cases h with
  | complete _ => exact later_map_ran cs
  | stopped _ _ => exact List.rel_append (later_map_ran _) (.cons (.inr rfl) (later_refl _))

/-- An action runs some checks and leaves the others alone. -/
theorem later_act (cs : List Check) (action : Action) : List.Forall₂ Later cs (act cs action) := by
  cases action with
  | one index => exact later_modify cs index
  | all => exact (runsAll_runAll cs).later

/-- So do any number of actions. -/
theorem later_history (cs : List Check) (actions : List Action) :
    List.Forall₂ Later cs (history cs actions) := by
  induction actions generalizing cs with
  | nil => exact later_refl cs
  | cons action actions ih =>
    have hrest : List.Forall₂ Later (act cs action) (history cs (action :: actions)) := ih _
    exact later_trans (later_act cs action) hrest

/-! ### What can be observed -/

/-- What is known of a check `c` that was never run, at any later moment when it is `c'`. -/
structure Remembers (c c' : Check) : Prop where
  /-- It is the same check. -/
  same : c'.name = c.name ∧ c'.verify = c.verify
  /-- Its verification was performed at most once. -/
  once : c'.verified ≤ 1
  /-- Until it is run it shows nothing, and its run will be its first verification. -/
  idle : c'.state = .notRun →
    c' = c ∧ c'.violations = [] ∧ c'.outcome = c.verify 0 ∧
      c'.run.2 = (c.verify 0).map List.isEmpty
  /-- What its first verification found is what every run finds and what it shows. -/
  found : ∀ found, c.verify 0 = .ok found → c'.state ≠ .notRun →
    c'.state = .done found ∧ c'.violations = found ∧ c'.outcome = .ok found ∧
      c'.run.2 = .ok found.isEmpty
  /-- After a first verification that failed, no run has a result, and it shows nothing. -/
  failed : ∀ e, c.verify 0 = .error e → c'.state ≠ .notRun →
    c'.state = .running ∧ c'.violations = [] ∧ c'.outcome = .error ⟨c.name⟩ ∧
      c'.run.2 = .error ⟨c.name⟩

theorem remembers_of_later {c c' : Check} (hfresh : c.Fresh) (h : Later c c') :
    Remembers c c' := by
  obtain ⟨hstate, hverified⟩ := hfresh
  rcases h with rfl | rfl
  · -- The check was not run yet.
    have houtcome : c'.outcome = c'.verify 0 := by rw [outcome, hstate, ← hverified]
    refine ⟨⟨rfl, rfl⟩, by omega, fun _ => ⟨rfl, ?_, houtcome, ?_⟩, ?_, ?_⟩
    · rw [violations, hstate]
      rfl
    · rw [run_eq, houtcome]
    · exact fun _ _ hne => absurd hstate hne
    · exact fun _ _ hne => absurd hstate hne
  · -- The check was run, and its state is what the first verification left behind.
    have hran := ran_of_notRun hstate
    rw [hverified] at hran
    have hkept : c.ran.state = .ofFirst (c.verify 0) := by rw [hran]
    refine ⟨⟨by rw [hran], by rw [hran]⟩, by simp [hran], ?_, ?_, ?_⟩
    · exact fun hidle => absurd hidle c.state_ran_ne
    · intro found hfirst _
      have hdone : c.ran.state = .done found := by rw [hkept, hfirst]; rfl
      have houtcome : c.ran.outcome = .ok found := by rw [outcome, hdone]
      refine ⟨hdone, ?_, houtcome, ?_⟩
      · rw [violations, hdone]
        rfl
      · rw [run_eq, houtcome]
        rfl
    · intro e hfirst _
      have hrunning : c.ran.state = .running := by rw [hkept, hfirst]; rfl
      have houtcome : c.ran.outcome = .error ⟨c.name⟩ := by rw [outcome, hrunning, name_ran]
      refine ⟨hrunning, ?_, houtcome, ?_⟩
      · rw [violations, hrunning]
        rfl
      · rw [run_eq, houtcome]
        rfl

/-- A check that was run stays as it is. -/
theorem Later.settled {c c' : Check} (h : Later c c') :
    c.state.Moves c'.state ∧ (c.state ≠ .notRun → c' = c) := by
  rcases h with rfl | rfl
  · exact ⟨.stay _, fun _ => rfl⟩
  · exact ⟨c.moves_ran, ran_of_ne⟩

/-- **Verdicts are computed at most once.** Take checks that were never run, and at any
    moment of any history of single runs and runs of all checks:

    - every check still remembers what its first verification gave;
    - however the history goes on, a check that was not run may become done or be broken
      off, and one that was run never changes again;
    - a run of all checks answers with exactly those that fail, in order and with all they
      found, unless a check has no result: then it answers with the error of the first
      such check, has run all checks before it and touched none behind it. -/
theorem checks_verified_once {checks : List Check} (hfresh : ∀ c ∈ checks, c.Fresh)
    (past : List Action) :
    List.Forall₂ Remembers checks (history checks past) ∧
    (∀ future, List.Forall₂
      (fun c c' => c.state.Moves c'.state ∧ (c.state ≠ .notRun → c' = c))
      (history checks past) (history checks (past ++ future))) ∧
    RunsAll (history checks past) (runAll (history checks past)).1
      (runAll (history checks past)).2 := by
  refine ⟨?_, ?_, runsAll_runAll _⟩
  · have hboth : List.Forall₂ (fun c c' => c.Fresh ∧ Later c c') checks (history checks past) :=
      (List.forall₂_and_left _ _).2 ⟨hfresh, later_history checks past⟩
    exact hboth.imp fun _ _ h => remembers_of_later h.1 h.2
  · intro future
    have hsplit : history checks (past ++ future) = history (history checks past) future :=
      List.foldl_append
    rw [hsplit]
    exact (later_history (history checks past) future).imp fun _ _ h => h.settled

/-- A check that passes, one that would find nothing if it were verified again, one that
    would have a result if it were, and one more. -/
def battery : List Check :=
  [{ name := "sound", verify := fun _ => .ok [] },
   { name := "flawed"
     verify := fun k => .ok (if k = 0 then [.unconnectedInput "y" "in"] else []) },
   { name := "broken", verify := fun k => if k = 0 then .error ⟨"inner"⟩ else .ok [] },
   { name := "spare", verify := fun _ => .ok [] }]

/-- The second check is run and then all of them, which ends at the third. The next run of
    all ends there too, with the name of the third check, and the last one is never run. -/
theorem checks_verified_once_battery :
    (∀ c ∈ battery, c.Fresh) ∧
    (runAll (history battery [.one 1])).2 = .error ⟨"inner"⟩ ∧
    (history battery [.one 1, .all]).map (fun c => (c.state, c.verified)) =
      [(.done [], 1), (.done [.unconnectedInput "y" "in"], 1), (.running, 1), (.notRun, 0)] ∧
    RunsAll (history battery [.one 1, .all]) (history battery [.one 1, .all]) (.error ⟨"broken"⟩) ∧
    ∀ future, ∃ sound flawed broken spare,
      history battery ([.one 1, .all] ++ future) = [sound, flawed, broken, spare] ∧
        flawed.run.2 = .ok false ∧ flawed.violations = [.unconnectedInput "y" "in"] ∧
        flawed.verified ≤ 1 ∧ broken.run.2 = .error ⟨"broken"⟩ ∧ broken.violations = [] := by
  have hfresh : ∀ c ∈ battery, c.Fresh := by
    simp [battery, Fresh]
  obtain ⟨-, hsettled, hall⟩ := checks_verified_once hfresh [.one 1, .all]
  refine ⟨hfresh, rfl, rfl, hall, ?_⟩
  intro future
  -- The first three checks were run, so they stay as they are.
  obtain ⟨sound, _, -, hfrom1, hlist⟩ := List.forall₂_cons_left_iff.1 (hsettled future)
  obtain ⟨flawed, _, ⟨-, hflawed⟩, hfrom2, rfl⟩ := List.forall₂_cons_left_iff.1 hfrom1
  obtain ⟨broken, _, ⟨-, hbroken⟩, hfrom3, rfl⟩ := List.forall₂_cons_left_iff.1 hfrom2
  obtain ⟨spare, _, -, hfrom4, rfl⟩ := List.forall₂_cons_left_iff.1 hfrom3
  obtain rfl := List.forall₂_nil_left_iff.1 hfrom4
  refine ⟨sound, flawed, broken, spare, hlist, ?_⟩
  rw [hflawed CheckState.noConfusion, hbroken CheckState.noConfusion]
  exact ⟨rfl, rfl, Nat.le_refl _, rfl, rfl⟩

end Check

end Netlister
