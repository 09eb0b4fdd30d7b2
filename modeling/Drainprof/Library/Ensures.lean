import Drainprof.Library.Run

/-!
# Postconditions of computations that may fail

`Ensures allowed x post` says that the computation `x` returns a value that satisfies `post` or
fails in one of the allowed ways.  The rules follow the structure of the computation: `Ensures.bind`
for a sequence of two, and `run_ensures` for a run of a machine each step of which keeps an
invariant.
-/

namespace Transition

variable {α β ε σ ι ο : Type} {allowed : ε → Prop} {post : α → Prop}

/-- The computation returns a value that satisfies `post`, or fails in an allowed way. -/
def Ensures (allowed : ε → Prop) (x : Except ε α) (post : α → Prop) : Prop :=
  match x with
  | .ok a => post a
  | .error e => allowed e

namespace Ensures

theorem of_ok {x : Except ε α} {a : α} (hx : x = .ok a) (h : post a) : Ensures allowed x post := by
  rw [hx]
  exact h

theorem of_error {x : Except ε α} {e : ε} (hx : x = .error e) (h : allowed e) :
    Ensures allowed x post := by
  rw [hx]
  exact h

theorem ok_post {x : Except ε α} {a : α} (h : Ensures allowed x post) (hx : x = .ok a) : post a := by
  rw [hx] at h
  exact h

theorem error_allowed {x : Except ε α} {e : ε} (h : Ensures allowed x post) (hx : x = .error e) :
    allowed e := by
  rw [hx] at h
  exact h

theorem mono {post' : α → Prop} {x : Except ε α} (h : Ensures allowed x post)
    (hpost : ∀ a, post a → post' a) : Ensures allowed x post' := by
  cases x with
  | ok a => exact hpost a h
  | error e => exact h

/-- What the second computation ensures after every result of the first, the sequence ensures. -/
theorem bind {post' : β → Prop} {x : Except ε α} {f : α → Except ε β}
    (hx : Ensures allowed x post) (hf : ∀ a, post a → Ensures allowed (f a) post') :
    Ensures allowed (x >>= f) post' := by
  cases x with
  | ok a => exact hf a hx
  | error e => exact hx

end Ensures

/-- An invariant that every step ensures is ensured by every run. -/
theorem run_ensures {step : σ → ι → Except ε (ο × σ)} {Inv : σ → Prop}
    (hstep : ∀ s i, Inv s → Ensures allowed (step s i) fun r => Inv r.2) :
    ∀ (is : List ι) (s : σ), Inv s → Ensures allowed (run step s is) fun r => Inv r.2 := by
  intro is
  induction is with
  | nil =>
    intro s hs
    exact hs
  | cons i is ih =>
    intro s hs
    have hfirst := hstep s i hs
    cases hs₁ : step s i with
    | error e =>
      have hrun : run step s (i :: is) = .error e := by
        rw [run, hs₁]
      exact Ensures.of_error hrun (hfirst.error_allowed hs₁)
    | ok r =>
      obtain ⟨o, s₁⟩ := r
      have hrest := ih s₁ (hfirst.ok_post hs₁)
      rw [run_cons_of_step hs₁]
      cases hrun : run step s₁ is with
      | error e => exact hrest.error_allowed hrun
      | ok r' =>
        have hlast := hrest.ok_post hrun
        exact hlast

end Transition
