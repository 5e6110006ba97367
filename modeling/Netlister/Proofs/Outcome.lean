import Mathlib.Data.List.Forall2
import Netlister.Log.Basic

/-! # Outcomes of computations that may fail

  A computation succeeds iff all its parts do. The statements below take
  sequences, traversals and loops apart:

  - `Outcome.bind_eq_ok`: a sequence of two computations.
  - `Outcome.forM_eq_ok`, `Outcome.mapM_eq_ok`: a computation for each member of a list;
    `Outcome.forM_eq_error`, `Outcome.mapM_eq_error`: the first that fails decides.
  - `Outcome.foldlM_eq_error`: a loop, which fails at its first step that does.
  - `Outcome.result_foldlM`: a loop whose step first looks at its member, which may
    fail, and then changes the state, which may not. All looks can be taken first.
  - `Outcome.foldlM_checked`: such a loop whose looks only check.
  - `Outcome.FailsOnly`: what a computation can fail with, put together from its parts.
-/

namespace Netlister.Outcome

variable {ε α β γ : Type}

/-! ### Sequences -/

@[simp] theorem ok_bind (a : α) (f : α → Except ε β) : (Except.ok a >>= f) = f a := rfl

@[simp] theorem error_bind (e : ε) (f : α → Except ε β) : (Except.error e >>= f) = .error e := rfl

/-- A sequence succeeds iff both its parts do. -/
theorem bind_eq_ok {x : Except ε α} {f : α → Except ε β} {b : β} :
    (x >>= f) = .ok b ↔ ∃ a, x = .ok a ∧ f a = .ok b := by
  cases x with
  | error e => simp [bind, Except.bind]
  | ok a => simp [bind, Except.bind]

/-- A check and what follows it succeed iff both do. -/
theorem check_bind_eq_ok {x : Except ε Unit} {f : Unit → Except ε β} {b : β} :
    (x >>= f) = .ok b ↔ x = .ok () ∧ f () = .ok b := by
  cases x with
  | error e => simp
  | ok u => simp

/-- Applying a function keeps success and failure. -/
theorem map_eq_ok {x : Except ε α} {f : α → β} {b : β} :
    x.map f = .ok b ↔ ∃ a, x = .ok a ∧ f a = b := by
  cases x with
  | error e => simp [Except.map]
  | ok a => simp [Except.map]

/-- What goes on from a result that was changed goes on from the result with the change. -/
theorem bind_map (x : Except ε α) (f : α → β) (g : β → Except ε γ) :
    (x.map f >>= g) = x >>= fun a => g (f a) := by
  cases x <;> rfl

/-- What is made of the result of a sequence is made of the result of its last part. -/
theorem map_bind (x : Except ε α) (f : α → Except ε β) (g : β → γ) :
    (x >>= f).map g = x >>= fun a => (f a).map g := by
  cases x <;> rfl

/-- What is made of a result does not matter for failure. -/
theorem map_eq_error {x : Except ε α} {f : α → β} {e : ε} : x.map f = .error e ↔ x = .error e := by
  cases x with
  | error e' => simp [Except.map]
  | ok a => simp [Except.map]

/-- Renaming errors keeps what succeeds. -/
theorem mapError_eq_ok {ε' : Type} {x : Except ε α} {f : ε → ε'} {a : α} :
    x.mapError f = .ok a ↔ x = .ok a := by
  cases x with
  | error e => simp [Except.mapError]
  | ok a => simp [Except.mapError]

/-- A sequence fails where one of its parts does. -/
theorem bind_eq_error {x : Except ε α} {f : α → Except ε β} {e : ε} :
    (x >>= f) = .error e ↔ x = .error e ∨ ∃ a, x = .ok a ∧ f a = .error e := by
  cases x with
  | error e' => simp
  | ok a => simp

/-- An error that was renamed comes from one before. -/
theorem mapError_eq_error {ε' : Type} {x : Except ε α} {f : ε → ε'} {e' : ε'} :
    x.mapError f = .error e' ↔ ∃ e, x = .error e ∧ f e = e' := by
  cases x with
  | error e => simp [Except.mapError]
  | ok a => simp [Except.mapError]

/-- What does not succeed fails with some error. -/
theorem exists_error {x : Except ε α} (h : ¬ ∃ a, x = .ok a) : ∃ e, x = .error e := by
  cases x with
  | error e => exact ⟨e, rfl⟩
  | ok a => exact absurd ⟨a, rfl⟩ h

/-- What is seen to succeed has a value. -/
theorem exists_ok {x : Except ε α} (h : x.isOk = true) : ∃ a, x = .ok a := by
  cases x with
  | error e => cases h
  | ok a => exact ⟨a, rfl⟩

/-! ### Traversals -/

/-- A condition on all members holds iff it holds of each. -/
theorem forM_eq_ok {f : α → Except ε Unit} {xs : List α} :
    xs.forM f = .ok () ↔ ∀ x ∈ xs, f x = .ok () := by
  induction xs with
  | nil => simp [pure, Except.pure]
  | cons x xs ih =>
    rw [show (x :: xs).forM f = (f x >>= fun _ => xs.forM f) from rfl, bind_eq_ok,
      List.forall_mem_cons, ← ih]
    constructor
    · rintro ⟨_, hx, hxs⟩
      exact ⟨hx, hxs⟩
    · rintro ⟨hx, hxs⟩
      exact ⟨(), hx, hxs⟩

/-- A traversal succeeds iff it does so member by member. -/
theorem mapM_eq_ok {f : α → Except ε β} {xs : List α} {ys : List β} :
    xs.mapM f = .ok ys ↔ List.Forall₂ (fun x y => f x = .ok y) xs ys := by
  induction xs generalizing ys with
  | nil => cases ys <;> simp [pure, Except.pure]
  | cons x xs ih =>
    rw [List.mapM_cons, bind_eq_ok]
    constructor
    · rintro ⟨y, hy, h⟩
      obtain ⟨zs, hzs, h⟩ := bind_eq_ok.1 h
      cases h
      exact .cons hy (ih.1 hzs)
    · rintro (_ | ⟨hy, hys⟩)
      exact ⟨_, hy, bind_eq_ok.2 ⟨_, ih.2 hys, rfl⟩⟩

/-- A traversal that succeeds on each member gives the list of their values. -/
theorem mapM_eq_map {f : α → Except ε β} {g : α → β} {xs : List α}
    (h : ∀ x ∈ xs, f x = .ok (g x)) : xs.mapM f = .ok (xs.map g) := by
  rw [mapM_eq_ok, List.forall₂_map_right_iff, List.forall₂_same]
  exact h

/-- Computations that agree on all members make the same traversal. -/
theorem mapM_congr {f g : α → Except ε β} {xs : List α} (h : ∀ x ∈ xs, f x = g x) :
    xs.mapM f = xs.mapM g := by
  induction xs with
  | nil => rfl
  | cons x xs ih =>
    obtain ⟨hx, hxs⟩ := List.forall_mem_cons.1 h
    rw [List.mapM_cons, List.mapM_cons, hx, ih hxs]

/-- Results that are changed one by one are changed together. -/
theorem mapM_map_result {f : α → Except ε β} {g : β → γ} {h : α → Except ε γ}
    (hh : ∀ a, h a = (f a).map g) (xs : List α) :
    xs.mapM h = (xs.mapM f).map (List.map g) := by
  induction xs with
  | nil => rfl
  | cons x xs ih =>
    rw [List.mapM_cons, List.mapM_cons, hh, ih, bind_map, map_bind]
    refine bind_congr fun b => ?_
    rw [bind_map, map_bind]
    rfl

/-- A traversal can succeed iff each member can. -/
theorem exists_mapM {f : α → Except ε β} {xs : List α} :
    (∃ ys, xs.mapM f = .ok ys) ↔ ∀ x ∈ xs, ∃ y, f x = .ok y := by
  induction xs with
  | nil => simp [pure, Except.pure]
  | cons x xs ih =>
    rw [List.forall_mem_cons, ← ih]
    constructor
    · rintro ⟨ys, h⟩
      cases mapM_eq_ok.1 h with
      | cons hy hys => exact ⟨⟨_, hy⟩, _, mapM_eq_ok.2 hys⟩
    · rintro ⟨⟨y, hy⟩, ys, hys⟩
      exact ⟨y :: ys, mapM_eq_ok.2 (.cons hy (mapM_eq_ok.1 hys))⟩

/-- A traversal fails at the first member that does. -/
theorem mapM_eq_error {f : α → Except ε β} {xs : List α} {e : ε} :
    xs.mapM f = .error e ↔ ∃ before x after, xs = before ++ x :: after ∧
      (∀ y ∈ before, ∃ b, f y = .ok b) ∧ f x = .error e := by
  induction xs with
  | nil => simp [pure, Except.pure]
  | cons x xs ih =>
    rw [List.mapM_cons, bind_eq_error]
    constructor
    · rintro (hx | ⟨b, hb, h⟩)
      · exact ⟨[], x, xs, rfl, by simp, hx⟩
      · rcases bind_eq_error.1 h with hxs | ⟨bs, -, h⟩
        · obtain ⟨before, y, after, rfl, hbefore, hy⟩ := ih.1 hxs
          exact ⟨x :: before, y, after, rfl, List.forall_mem_cons.2 ⟨⟨b, hb⟩, hbefore⟩, hy⟩
        · cases h
    · rintro ⟨before, y, after, heq, hbefore, hy⟩
      cases before with
      | nil =>
        cases heq
        exact .inl hy
      | cons z before =>
        cases heq
        obtain ⟨⟨b, hb⟩, hbefore⟩ := List.forall_mem_cons.1 hbefore
        have hxs := ih.2 ⟨before, y, after, rfl, hbefore, hy⟩
        exact .inr ⟨b, hb, bind_eq_error.2 (.inl hxs)⟩

/-- Checks are a traversal whose values are not kept. -/
theorem forM_eq_map_mapM (f : α → Except ε Unit) (xs : List α) :
    xs.forM f = (xs.mapM f).map fun _ => () := by
  induction xs with
  | nil => rfl
  | cons x xs ih =>
    rw [show (x :: xs).forM f = (f x >>= fun _ => xs.forM f) from rfl, List.mapM_cons, map_bind, ih]
    refine bind_congr fun _ => ?_
    rw [map_bind]
    cases xs.mapM f <;> rfl

/-- Checks fail at the first one that does. -/
theorem forM_eq_error {f : α → Except ε Unit} {xs : List α} {e : ε} :
    xs.forM f = .error e ↔ ∃ before x after, xs = before ++ x :: after ∧
      (∀ y ∈ before, f y = .ok ()) ∧ f x = .error e := by
  have hunit (y : α) : (∃ u, f y = .ok u) ↔ f y = .ok () :=
    ⟨fun ⟨(), hu⟩ => hu, fun h => ⟨(), h⟩⟩
  rw [forM_eq_map_mapM, map_eq_error, mapM_eq_error]
  simp only [hunit]

/-- Checks fail as one of them does. -/
theorem exists_of_forM_eq_error {f : α → Except ε Unit} {xs : List α} {e : ε}
    (h : xs.forM f = .error e) : ∃ x ∈ xs, f x = .error e := by
  obtain ⟨before, x, after, rfl, -, hx⟩ := forM_eq_error.1 h
  exact ⟨x, List.mem_append_right _ List.mem_cons_self, hx⟩

/-- A traversal fails where one of its members does. -/
theorem exists_of_mapM_eq_error {f : α → Except ε β} {xs : List α} {e : ε}
    (h : xs.mapM f = .error e) : ∃ x ∈ xs, f x = .error e := by
  obtain ⟨before, x, after, rfl, -, hx⟩ := mapM_eq_error.1 h
  exact ⟨x, List.mem_append_right _ List.mem_cons_self, hx⟩

/-- The values of a traversal are those of the members. -/
theorem mem_iff_of_mapM {f : α → Except ε β} {xs : List α} {ys : List β}
    (h : xs.mapM f = .ok ys) {y : β} : y ∈ ys ↔ ∃ x ∈ xs, f x = .ok y := by
  induction mapM_eq_ok.1 h with
  | nil => simp
  | @cons x z xs zs hx hxs ih =>
    rw [List.mem_cons, ih (mapM_eq_ok.2 hxs)]
    simp [hx, eq_comm]

/-- What a value shows of its member, a traversal shows of the list. -/
theorem map_eq_of_mapM {f : α → Except ε β} {xs : List α} {ys : List β} (h : xs.mapM f = .ok ys)
    {g : α → γ} {k : β → γ} (hf : ∀ x y, f x = .ok y → k y = g x) : ys.map k = xs.map g := by
  induction mapM_eq_ok.1 h with
  | nil => rfl
  | cons hx hxs ih => rw [List.map_cons, List.map_cons, hf _ _ hx, ih (mapM_eq_ok.2 hxs)]

/-! ### Loops -/

/-- What every successful step keeps holds after all of them. -/
theorem foldlM_induction {P : β → Prop} {f : β → α → Except ε β}
    (hstep : ∀ b a b', P b → f b a = .ok b' → P b') {xs : List α} {b b' : β} (hb : P b)
    (h : xs.foldlM f b = .ok b') : P b' := by
  induction xs generalizing b with
  | nil =>
    cases h
    exact hb
  | cons x xs ih =>
    rw [List.foldlM_cons] at h
    obtain ⟨next, hnext, hrest⟩ := bind_eq_ok.1 h
    exact ih (hstep b x next hb hnext) hrest

/-- A loop fails at its first step that does. -/
theorem foldlM_eq_error {f : β → α → Except ε β} {xs : List α} {b : β} {e : ε} :
    xs.foldlM f b = .error e ↔ ∃ before x after b', xs = before ++ x :: after ∧
      before.foldlM f b = .ok b' ∧ f b' x = .error e := by
  induction xs generalizing b with
  | nil => simp [pure, Except.pure]
  | cons x xs ih =>
    rw [List.foldlM_cons, bind_eq_error]
    constructor
    · rintro (hx | ⟨next, hnext, hrest⟩)
      · exact ⟨[], x, xs, b, rfl, rfl, hx⟩
      · obtain ⟨before, y, after, last, rfl, hbefore, hy⟩ := ih.1 hrest
        refine ⟨x :: before, y, after, last, rfl, ?_, hy⟩
        rw [List.foldlM_cons, hnext]
        exact hbefore
    · rintro ⟨before, y, after, last, heq, hbefore, hy⟩
      cases before with
      | nil =>
        cases heq
        cases hbefore
        exact .inl hy
      | cons z before =>
        cases heq
        obtain ⟨next, hnext, hbefore⟩ := bind_eq_ok.1 hbefore
        exact .inr ⟨next, hnext, ih.2 ⟨before, y, after, last, rfl, hbefore, hy⟩⟩

/-- A loop that looks at each member and then changes its state. The looks do not
    depend on the state, so they may all be taken before the first change. -/
theorem result_foldlM {f : β → α → Logged ε β} {look : α → Except ε γ} {change : β → γ → β}
    (h : ∀ b a, (f b a).result = (look a).map (change b)) (xs : List α) (b : β) :
    (xs.foldlM f b).result = (xs.mapM look).map fun cs => cs.foldl change b := by
  induction xs generalizing b with
  | nil => rfl
  | cons x xs ih =>
    rw [List.foldlM_cons, Logged.result_bind, h, List.mapM_cons]
    cases hx : look x with
    | error e => rfl
    | ok c =>
      -- The look succeeds, so both sides go on with the rest of the list.
      show ((xs.foldlM f (change b c)).result) = _
      rw [ih]
      cases xs.mapM look with
      | error e => rfl
      | ok cs => rfl

/-- A loop that checks each member and then changes its state succeeds iff all
    members pass. -/
theorem foldlM_checked {f : β → α → Logged ε β} {check : α → Except ε Unit} {step : β → α → β}
    (h : ∀ b a, (f b a).result = (check a).map fun _ => step b a) {xs : List α} {b b' : β} :
    (xs.foldlM f b).result = .ok b' ↔ (∀ a ∈ xs, check a = .ok ()) ∧ b' = xs.foldl step b := by
  induction xs generalizing b with
  | nil => simp [eq_comm]
  | cons x xs ih =>
    rw [List.foldlM_cons, Logged.result_bind, h, List.forall_mem_cons, List.foldl_cons]
    cases hx : check x with
    | error e => simp [Except.map, bind, Except.bind]
    | ok _ =>
      show ((xs.foldlM f (step b x)).result = .ok b') ↔ _
      rw [ih]
      simp

/-! ### Failures -/

/-- Whatever a computation fails with satisfies a condition. -/
def FailsOnly (P : ε → Prop) (x : Except ε α) : Prop := ∀ e, x = .error e → P e

section FailsOnly

variable {P : ε → Prop}

theorem failsOnly_ok (a : α) : FailsOnly P (.ok a) := by
  intro e h
  cases h

theorem failsOnly_error {e : ε} (h : P e) : FailsOnly P (.error e : Except ε α) := by
  intro e' h'
  cases h'
  exact h

theorem FailsOnly.imp {Q : ε → Prop} {x : Except ε α} (h : FailsOnly P x)
    (himp : ∀ e, P e → Q e) : FailsOnly Q x :=
  fun e he => himp e (h e he)

theorem FailsOnly.map {x : Except ε α} (h : FailsOnly P x) (f : α → β) :
    FailsOnly P (x.map f) :=
  fun e he => h e (map_eq_error.1 he)

/-- A sequence fails as one of its parts does. -/
theorem FailsOnly.bind {x : Except ε α} {f : α → Except ε β} (hx : FailsOnly P x)
    (hf : ∀ a, x = .ok a → FailsOnly P (f a)) : FailsOnly P (x >>= f) := by
  intro e h
  rcases bind_eq_error.1 h with h | ⟨a, ha, h⟩
  · exact hx e h
  · exact hf a ha e h

theorem FailsOnly.mapError {ε' : Type} {f : ε' → ε} {x : Except ε' α}
    (h : FailsOnly (fun e => P (f e)) x) : FailsOnly P (x.mapError f) := by
  intro e he
  obtain ⟨e', he', rfl⟩ := mapError_eq_error.1 he
  exact h e' he'

theorem failsOnly_mapM {f : α → Except ε β} {xs : List α} (h : ∀ x ∈ xs, FailsOnly P (f x)) :
    FailsOnly P (xs.mapM f) := by
  intro e he
  obtain ⟨x, hx, hfail⟩ := exists_of_mapM_eq_error he
  exact h x hx e hfail

theorem failsOnly_forM {f : α → Except ε Unit} {xs : List α} (h : ∀ x ∈ xs, FailsOnly P (f x)) :
    FailsOnly P (xs.forM f) := by
  intro e he
  obtain ⟨x, hx, hfail⟩ := exists_of_forM_eq_error he
  exact h x hx e hfail

/-- A loop fails as one of its steps does. What is known of the state and of the members still
    to come is kept from step to step. -/
theorem failsOnly_foldlM {f : β → α → Except ε β} {I : β → List α → Prop}
    (hstep : ∀ b a as, I b (a :: as) →
      FailsOnly P (f b a) ∧ ∀ b', f b a = .ok b' → I b' as) {xs : List α} {b : β} (hb : I b xs) :
    FailsOnly P (xs.foldlM f b) := by
  induction xs generalizing b with
  | nil => exact failsOnly_ok b
  | cons x xs ih =>
    obtain ⟨hfail, hnext⟩ := hstep b x xs hb
    rw [List.foldlM_cons]
    exact hfail.bind fun b' hb' => ih (hnext b' hb')

end FailsOnly

end Netlister.Outcome
