import Netlister.Proofs.Outcome

/-! # Work that changes something in place

  In `EStateM ε σ`, what was written before a failure stays. Work that makes all its checks
  before its first write is better than that: it either succeeds or leaves the state as it
  was. Such work is described by a plain computation, in `Except`.

  - `look` only looks at the state, `settle` says how work ends that is all or nothing.
  - `Sees`: work that leaves the state as it was, whatever it wrote in between.
  - `Sees.bind`: what comes after such work starts from the same state.
-/

namespace Netlister.Outcome

variable {ε σ α β : Type}

/-- Looks at the state, and may fail. -/
def look (check : σ → Except ε α) : EStateM ε σ α := fun s =>
  match check s with
  | .ok a => .ok a s
  | .error e => .error e s

/-- How work on the state `s` ends that changes it only by succeeding. -/
def settle (s : σ) : Except ε (α × σ) → EStateM.Result ε σ α
  | .ok (a, s') => .ok a s'
  | .error e => .error e s

/-- Work on the state `s` that comes to a result and leaves the state as it was. -/
def Sees (x : EStateM ε σ α) (s : σ) (result : Except ε α) : Prop :=
  x s = settle s (result.map fun a => (a, s))

theorem sees_look {s : σ} (check : σ → Except ε α) : Sees (look check) s (check s) := by
  unfold Sees look
  cases check s <;> rfl

/-- What leaves the state as it was decides only whether the work goes on. -/
theorem Sees.bind {s : σ} {x : EStateM ε σ α} {result : Except ε α} {f : α → EStateM ε σ β}
    {g : α → Except ε (β × σ)} (hx : Sees x s result)
    (hf : ∀ a, result = .ok a → f a s = settle s (g a)) :
    (x >>= f) s = settle s (result >>= g) := by
  show EStateM.bind x f s = _
  unfold EStateM.bind
  rw [hx]
  cases result with
  | error e => rfl
  | ok a => exact hf a rfl

end Netlister.Outcome
