import Mathlib.Data.List.Infix

/-!
# Runs of a deterministic machine that may fault

A machine is a step function `σ → ι → Except ε (ο × σ)`: a state and an input give an output and
a next state, or a fault.  `run` feeds it a list of inputs.  `Meets ok` says that every step of the
run satisfies `ok` before it is taken.

Some arguments about runs are packaged here, each from facts about one step:

* `run_invariant`: a property kept by every step holds of every state reached;
* `run_eq_trace`: a machine that simulates a specification step by step returns what the
  specification returns, and `run_agrees_iff_meets` says when the step condition is not only
  enough but exact: a run which violates it is told apart from the specification by one further
  *probing* input;
* `run_purge`: inputs that do not touch a part of the state may be left out of the run, and what the
  others show stays the same;
* `run_conserves`: what goes into a queue comes out in order or is still there.
-/

namespace Transition

variable {σ τ ι ο ε : Type}

/-! ### Runs -/

/-- The outputs of `step` on a list of inputs, in order, and the state reached. -/
def run (step : σ → ι → Except ε (ο × σ)) : σ → List ι → Except ε (List ο × σ)
  | s, [] => .ok ([], s)
  | s, i :: is =>
    match step s i with
    | .error e => .error e
    | .ok (o, s') =>
      match run step s' is with
      | .error e => .error e
      | .ok (os, s'') => .ok (o :: os, s'')

@[simp] theorem run_nil (step : σ → ι → Except ε (ο × σ)) (s : σ) :
    run step s [] = .ok ([], s) := rfl

/-- A run that succeeds is a first step that succeeds and a run from where it leads. -/
theorem run_cons_eq_ok {step : σ → ι → Except ε (ο × σ)} {s s'' : σ} {i : ι} {is : List ι}
    {os : List ο} : run step s (i :: is) = .ok (os, s'') ↔
      ∃ o s' os', step s i = .ok (o, s') ∧ run step s' is = .ok (os', s'') ∧ os = o :: os' := by
  constructor
  · intro h
    rw [run] at h
    cases hstep : step s i with
    | error e => rw [hstep] at h; cases h
    | ok r =>
      obtain ⟨o, s'⟩ := r
      rw [hstep] at h
      dsimp only at h
      cases hrun : run step s' is with
      | error e => rw [hrun] at h; cases h
      | ok r =>
        obtain ⟨os', s₂⟩ := r
        rw [hrun] at h
        cases h
        exact ⟨o, s', os', rfl, hrun, rfl⟩
  · rintro ⟨o, s', os', hstep, hrun, rfl⟩
    simp only [run, hstep, hrun]

theorem run_cons_of_step {step : σ → ι → Except ε (ο × σ)} {s s' : σ} {i : ι} {o : ο}
    (h : step s i = .ok (o, s')) (is : List ι) :
    run step s (i :: is) = (run step s' is).map fun r => (o :: r.1, r.2) := by
  rw [run, h]
  dsimp only
  cases run step s' is <;> rfl

/-- Runs compose. -/
theorem run_append_eq_ok {step : σ → ι → Except ε (ο × σ)} {is js : List ι} :
    ∀ {s s'' : σ} {os : List ο}, run step s (is ++ js) = .ok (os, s'') ↔
      ∃ os₁ s' os₂, run step s is = .ok (os₁, s') ∧ run step s' js = .ok (os₂, s'') ∧
        os = os₁ ++ os₂ := by
  induction is with
  | nil => intro s s'' os; simp
  | cons i is ih =>
    intro s s'' os
    rw [List.cons_append, run_cons_eq_ok]
    constructor
    · rintro ⟨o, s', os', hstep, hrun, rfl⟩
      obtain ⟨os₁, s₁, os₂, h₁, h₂, rfl⟩ := ih.mp hrun
      exact ⟨o :: os₁, s₁, os₂, run_cons_eq_ok.mpr ⟨o, s', os₁, hstep, h₁, rfl⟩, h₂, rfl⟩
    · rintro ⟨os₁, s₁, os₂, h₁, h₂, rfl⟩
      obtain ⟨o, s', os', hstep, hrun, rfl⟩ := run_cons_eq_ok.mp h₁
      exact ⟨o, s', os' ++ os₂, hstep, ih.mpr ⟨os', s₁, os₂, hrun, h₂, rfl⟩, rfl⟩

/-- A run that succeeds fails with one more input on which the step fails. -/
theorem run_append_of_error {step : σ → ι → Except ε (ο × σ)} {i : ι} {e : ε} :
    ∀ {is : List ι} {s s' : σ} {os : List ο}, run step s is = .ok (os, s') →
      step s' i = .error e → run step s (is ++ [i]) = .error e := by
  intro is
  induction is with
  | nil =>
    intro s s' os hrun hstep
    cases hrun
    rw [List.nil_append, run, hstep]
  | cons j is ih =>
    intro s s' os hrun hstep
    obtain ⟨o, s₁, os₁, hfirst, hrest, -⟩ := run_cons_eq_ok.mp hrun
    rw [List.cons_append, run_cons_of_step hfirst, ih hrest hstep]
    rfl

/-- The run of one input is a step. -/
theorem run_singleton_eq_ok {step : σ → ι → Except ε (ο × σ)} {s s' : σ} {i : ι} {os : List ο} :
    run step s [i] = .ok (os, s') ↔ ∃ o, step s i = .ok (o, s') ∧ os = [o] := by
  rw [run_cons_eq_ok]
  constructor
  · rintro ⟨o, s₁, os', hstep, hrun, rfl⟩
    cases hrun
    exact ⟨o, hstep, rfl⟩
  · rintro ⟨o, hstep, rfl⟩
    exact ⟨o, s', [], hstep, rfl, rfl⟩

/-- If block `k` leads from any state of stage `k` to one of stage `k + 1`, then the first `n` blocks
lead from stage `0` to stage `n`. -/
theorem exists_run_blocks {step : σ → ι → Except ε (ο × σ)} {R : ℕ → σ → Prop}
    {block : ℕ → List ι} {n : ℕ}
    (hblock : ∀ k < n, ∀ s, R k s → ∃ os s', run step s (block k) = .ok (os, s') ∧ R (k + 1) s')
    {s : σ} (hs : R 0 s) :
    ∃ os s', run step s ((List.range n).map block).flatten = .ok (os, s') ∧ R n s' := by
  induction n with
  | zero => exact ⟨[], s, rfl, hs⟩
  | succ n ih =>
    obtain ⟨os₁, s₁, hrun₁, hs₁⟩ := ih fun k hk => hblock k (Nat.lt_succ_of_lt hk)
    obtain ⟨os₂, s₂, hrun₂, hs₂⟩ := hblock n (Nat.lt_succ_self n) s₁ hs₁
    have hflatten : ((List.range (n + 1)).map block).flatten
        = ((List.range n).map block).flatten ++ block n := by
      rw [List.range_succ, List.map_append, List.flatten_append, List.map_singleton,
        List.flatten_singleton]
    rw [hflatten]
    exact ⟨os₁ ++ os₂, s₂, run_append_eq_ok.mpr ⟨os₁, s₁, os₂, hrun₁, hrun₂, rfl⟩, hs₂⟩

/-- The same block `n` times. -/
theorem exists_run_replicate {step : σ → ι → Except ε (ο × σ)} {R : ℕ → σ → Prop}
    {block : List ι} {n : ℕ}
    (hblock : ∀ k < n, ∀ s, R k s → ∃ os s', run step s block = .ok (os, s') ∧ R (k + 1) s')
    {s : σ} (hs : R 0 s) :
    ∃ os s', run step s (List.replicate n block).flatten = .ok (os, s') ∧ R n s' := by
  have hrun := @exists_run_blocks _ _ _ _ step R (fun _ => block) n hblock s hs
  rwa [List.map_const', List.length_range] at hrun

/-! ### Invariants -/

/-- A property that holds initially and is kept by every step on an admitted input holds of every
state reached. -/
theorem run_invariant {step : σ → ι → Except ε (ο × σ)} {Inv : σ → Prop} {Adm : ι → Prop}
    (hstep : ∀ {s i o s'}, Inv s → Adm i → step s i = .ok (o, s') → Inv s') :
    ∀ {is : List ι} {s s' : σ} {os : List ο}, Inv s → (∀ i ∈ is, Adm i) →
      run step s is = .ok (os, s') → Inv s' := by
  intro is
  induction is with
  | nil => intro s s' os hs _ hrun; cases hrun; exact hs
  | cons i is ih =>
    intro s s' os hs hadm hrun
    obtain ⟨o, s₁, os', h₁, h₂, -⟩ := run_cons_eq_ok.mp hrun
    exact ih (hstep hs (hadm i List.mem_cons_self) h₁)
      (fun j hj => hadm j (List.mem_cons_of_mem _ hj)) h₂

/-- Every input of the run satisfies `ok` in the state it is given to. -/
def Meets (step : σ → ι → Except ε (ο × σ)) (ok : σ → ι → Prop) : σ → List ι → Prop
  | _, [] => True
  | s, i :: is => ok s i ∧ ∀ o s', step s i = .ok (o, s') → Meets step ok s' is

/-- A machine that answers every admitted input on which `ok` holds answers every run that meets
`ok`. -/
theorem exists_run {step : σ → ι → Except ε (ο × σ)} {Inv : σ → Prop} {Adm : ι → Prop}
    {ok : σ → ι → Prop}
    (hstep : ∀ {s i}, Inv s → Adm i → ok s i → ∃ o s', step s i = .ok (o, s') ∧ Inv s') :
    ∀ {is : List ι} {s : σ}, Inv s → (∀ i ∈ is, Adm i) → Meets step ok s is →
      ∃ os s', run step s is = .ok (os, s') := by
  intro is
  induction is with
  | nil => intro s _ _ _; exact ⟨[], s, rfl⟩
  | cons i is ih =>
    intro s hs hadm hmeets
    obtain ⟨o, s₁, h₁, hs₁⟩ := hstep hs (hadm i List.mem_cons_self) hmeets.1
    obtain ⟨os, s₂, h₂⟩ := ih hs₁ (fun j hj => hadm j (List.mem_cons_of_mem _ hj))
      (hmeets.2 o s₁ h₁)
    exact ⟨o :: os, s₂, run_cons_eq_ok.mpr ⟨o, s₁, os, h₁, h₂, rfl⟩⟩

theorem meets_cons_iff {step : σ → ι → Except ε (ο × σ)} {ok : σ → ι → Prop} {s s' : σ} {i : ι}
    {o : ο} {is : List ι} (h : step s i = .ok (o, s')) :
    Meets step ok s (i :: is) ↔ ok s i ∧ Meets step ok s' is := by
  constructor
  · rintro ⟨hok, hrest⟩
    exact ⟨hok, hrest o s' h⟩
  · rintro ⟨hok, hrest⟩
    refine ⟨hok, ?_⟩
    intro o₁ s₁ h₁
    rw [h] at h₁
    cases h₁
    exact hrest

theorem meets_of_forall {step : σ → ι → Except ε (ο × σ)} {ok : σ → ι → Prop}
    (h : ∀ s i, ok s i) : ∀ {is : List ι} {s : σ}, Meets step ok s is := by
  intro is
  induction is with
  | nil => intro s; trivial
  | cons i is ih => intro s; exact ⟨h s i, fun _ _ _ => ih⟩

theorem meets_and_iff {step : σ → ι → Except ε (ο × σ)} {ok ok' : σ → ι → Prop} :
    ∀ {is : List ι} {s : σ}, Meets step (fun s i => ok s i ∧ ok' s i) s is ↔
      Meets step ok s is ∧ Meets step ok' s is := by
  intro is
  induction is with
  | nil => intro s; exact ⟨fun _ => ⟨trivial, trivial⟩, fun _ => trivial⟩
  | cons i is ih =>
    intro s
    constructor
    · rintro ⟨⟨hok, hok'⟩, hrest⟩
      exact ⟨⟨hok, fun o s' h => (ih.mp (hrest o s' h)).1⟩,
        ⟨hok', fun o s' h => (ih.mp (hrest o s' h)).2⟩⟩
    · rintro ⟨⟨hok, hrest⟩, ⟨hok', hrest'⟩⟩
      exact ⟨⟨hok, hok'⟩, fun o s' h => ih.mpr ⟨hrest o s' h, hrest' o s' h⟩⟩

/-- Whether a run meets a decidable condition is decided by taking it. -/
instance Meets.decidable {step : σ → ι → Except ε (ο × σ)} {ok : σ → ι → Prop}
    [∀ s i, Decidable (ok s i)] : ∀ s is, Decidable (Meets step ok s is)
  | _, [] => isTrue trivial
  | s, i :: is =>
    match h : step s i with
    | .error _ => decidable_of_iff (ok s i)
        ⟨fun hok => ⟨hok, fun _ _ hstep => by rw [h] at hstep; cases hstep⟩, And.left⟩
    | .ok (_, s') =>
      have : Decidable (Meets step ok s' is) := Meets.decidable s' is
      decidable_of_iff (ok s i ∧ Meets step ok s' is) (meets_cons_iff h).symm

/-- A condition under which every step keeps `Inv`, and which every step that keeps `Inv`
satisfies, is exact: in a run of admitted steps the invariant holds in every state iff each step
meets it. -/
theorem invariant_iff_meets {step : σ → ι → Except ε (ο × σ)} {Inv : σ → Prop}
    {adm ok : σ → ι → Prop} {Aux : σ → Prop}
    (haux : ∀ {s i o s'}, Aux s → adm s i → step s i = .ok (o, s') → Aux s')
    (hexact : ∀ {s i o s'}, Aux s → Inv s → adm s i → step s i = .ok (o, s') →
      (Inv s' ↔ ok s i)) :
    ∀ {is : List ι} {s s' : σ} {os : List ο}, Aux s → Inv s → Meets step adm s is →
      run step s is = .ok (os, s') →
      ((∀ js t ot, js <+: is → run step s js = .ok (ot, t) → Inv t) ↔ Meets step ok s is) := by
  intro is
  induction is with
  | nil =>
    intro s s' os _ hs _ _
    refine ⟨fun _ => trivial, ?_⟩
    intro _ js t ot hpre hrun
    rw [List.prefix_nil.mp hpre] at hrun
    cases hrun
    exact hs
  | cons i is ih =>
    intro s s' os ha hs hadm hrun
    obtain ⟨o, s₁, os', h₁, h₂, -⟩ := run_cons_eq_ok.mp hrun
    have ha₁ : Aux s₁ := haux ha hadm.1 h₁
    have hadm₁ : Meets step adm s₁ is := hadm.2 o s₁ h₁
    rw [meets_cons_iff h₁, ← hexact ha hs hadm.1 h₁]
    constructor
    · intro hall
      have hs₁ : Inv s₁ :=
        hall [i] s₁ [o] ⟨is, rfl⟩ (run_singleton_eq_ok.mpr ⟨o, h₁, rfl⟩)
      refine ⟨hs₁, (ih ha₁ hs₁ hadm₁ h₂).mp ?_⟩
      intro js t ot hpre hjs
      exact hall (i :: js) t (o :: ot) (List.prefix_cons_inj i |>.mpr hpre)
        (run_cons_eq_ok.mpr ⟨o, s₁, ot, h₁, hjs, rfl⟩)
    · rintro ⟨hs₁, hmeets⟩ js t ot hpre hjs
      cases js with
      | nil => cases hjs; exact hs
      | cons j js =>
        obtain ⟨rfl, hpre'⟩ := List.cons_prefix_cons.mp hpre
        obtain ⟨o₂, s₂, ot', hstep, hrest, -⟩ := run_cons_eq_ok.mp hjs
        rw [h₁] at hstep
        cases hstep
        exact (ih ha₁ hs₁ hadm₁ h₂).mpr hmeets js t ot' hpre' hrest

/-! ### Simulation of a specification -/

/-- The outputs of a specification on a list of inputs, and the state reached. -/
def trace (spec : τ → ι → ο × τ) : τ → List ι → List ο × τ
  | t, [] => ([], t)
  | t, i :: is => ((spec t i).1 :: (trace spec (spec t i).2 is).1, (trace spec (spec t i).2 is).2)

/-- Every input of the run is admitted by the specification in the state it is given to. -/
def Admits (spec : τ → ι → ο × τ) (adm : τ → ι → Prop) : τ → List ι → Prop
  | _, [] => True
  | t, i :: is => adm t i ∧ Admits spec adm (spec t i).2 is

/-- A specification that admits every input admits every run. -/
theorem admits_of_forall {spec : τ → ι → ο × τ} {adm : τ → ι → Prop} (h : ∀ t i, adm t i) :
    ∀ {is : List ι} {t : τ}, Admits spec adm t is := by
  intro is
  induction is with
  | nil => intro t; trivial
  | cons i is ih => intro t; exact ⟨h t i, ih⟩

theorem admits_append_iff {spec : τ → ι → ο × τ} {adm : τ → ι → Prop} {is js : List ι} :
    ∀ {t : τ}, Admits spec adm t (is ++ js) ↔
      Admits spec adm t is ∧ Admits spec adm (trace spec t is).2 js := by
  induction is with
  | nil => intro t; exact ⟨fun h => ⟨trivial, h⟩, And.right⟩
  | cons i is ih => intro t; exact (and_congr_right fun _ => ih).trans and_assoc.symm

theorem Admits.mono {spec : τ → ι → ο × τ} {adm adm' : τ → ι → Prop}
    (h : ∀ t i, adm t i → adm' t i) :
    ∀ {is : List ι} {t : τ}, Admits spec adm t is → Admits spec adm' t is := by
  intro is
  induction is with
  | nil => intro t _; trivial
  | cons i is ih => intro t hadm; exact ⟨h t i hadm.1, ih hadm.2⟩

/-- The machine returns, on every input of the run, what the specification returns. -/
def Agrees (step : σ → ι → Except ε (ο × σ)) (spec : τ → ι → ο × τ) (s : σ) (t : τ)
    (is : List ι) : Prop :=
  ∃ s', run step s is = .ok ((trace spec t is).1, s')

theorem agrees_cons_iff {step : σ → ι → Except ε (ο × σ)} {spec : τ → ι → ο × τ} {s s' : σ}
    {t : τ} {i : ι} {is : List ι} (h : step s i = .ok ((spec t i).1, s')) :
    Agrees step spec s t (i :: is) ↔ Agrees step spec s' (spec t i).2 is := by
  constructor
  · rintro ⟨s₂, hrun⟩
    obtain ⟨o, s₁, os, h₁, h₂, hos⟩ := run_cons_eq_ok.mp hrun
    rw [h] at h₁
    cases h₁
    rw [trace, List.cons.injEq] at hos
    rw [← hos.2] at h₂
    exact ⟨s₂, h₂⟩
  · rintro ⟨s₂, hrun⟩
    exact ⟨s₂, run_cons_eq_ok.mpr ⟨_, s', _, h, hrun, rfl⟩⟩

theorem agrees_singleton_iff {step : σ → ι → Except ε (ο × σ)} {spec : τ → ι → ο × τ} {s : σ}
    {t : τ} {i : ι} :
    Agrees step spec s t [i] ↔ ∃ s', step s i = .ok ((spec t i).1, s') := by
  constructor
  · rintro ⟨s', hrun⟩
    obtain ⟨o, hstep, ho⟩ := run_singleton_eq_ok.mp hrun
    rw [trace, List.cons.injEq] at ho
    rw [← ho.1] at hstep
    exact ⟨s', hstep⟩
  · rintro ⟨s', hstep⟩
    exact ⟨s', run_singleton_eq_ok.mpr ⟨_, hstep, rfl⟩⟩

/-- A run that agrees agrees on its first input. -/
theorem Agrees.head {step : σ → ι → Except ε (ο × σ)} {spec : τ → ι → ο × τ} {s : σ} {t : τ}
    {i : ι} {is : List ι} (h : Agrees step spec s t (i :: is)) :
    ∃ s', step s i = .ok ((spec t i).1, s') := by
  obtain ⟨s₂, hrun⟩ := h
  obtain ⟨o, s₁, os, h₁, -, hos⟩ := run_cons_eq_ok.mp hrun
  rw [trace, List.cons.injEq] at hos
  rw [← hos.1] at h₁
  exact ⟨s₁, h₁⟩

/-- Where the machine may fault, one-step simulation of the steps that do not is enough to relate the
states a run reaches. -/
theorem run_related {ο' : Type} (step : σ → ι → Except ε (ο × σ)) (spec : τ → ι → ο' × τ)
    (R : σ → τ → Prop) (adm : τ → ι → Prop)
    (hstep : ∀ {s t i o s'}, R s t → adm t i → step s i = .ok (o, s') → R s' (spec t i).2) :
    ∀ {is : List ι} {s s' : σ} {t : τ} {os : List ο}, R s t → Admits spec adm t is →
      run step s is = .ok (os, s') → R s' (trace spec t is).2 := by
  intro is
  induction is with
  | nil => intro s s' t os hR _ hrun; cases hrun; exact hR
  | cons i is ih =>
    intro s s' t os hR hadm hrun
    obtain ⟨o, s₁, os', h₁, h₂, -⟩ := run_cons_eq_ok.mp hrun
    exact ih (hstep hR hadm.1 h₁) hadm.2 h₂

section Simulation

variable {step : σ → ι → Except ε (ο × σ)} {spec : τ → ι → ο × τ} {R : σ → τ → Prop}
  {ok : σ → ι → Prop} {adm : τ → ι → Prop}

/-- One-step simulation gives simulation of every run whose steps meet the condition. -/
theorem run_eq_trace
    (hstep : ∀ {s t i}, R s t → adm t i → ok s i →
      ∃ s', step s i = .ok ((spec t i).1, s') ∧ R s' (spec t i).2) :
    ∀ {is : List ι} {s : σ} {t : τ}, R s t → Admits spec adm t is → Meets step ok s is →
      ∃ s', run step s is = .ok ((trace spec t is).1, s') ∧ R s' (trace spec t is).2 := by
  intro is
  induction is with
  | nil => intro s t hR _ _; exact ⟨s, rfl, hR⟩
  | cons i is ih =>
    intro s t hR hadm hmeets
    obtain ⟨s', h₁, hR'⟩ := hstep hR hadm.1 hmeets.1
    obtain ⟨s'', h₂, hR''⟩ := ih hR' hadm.2 (hmeets.2 _ _ h₁)
    exact ⟨s'', run_cons_eq_ok.mpr ⟨_, s', _, h₁, h₂, rfl⟩, hR''⟩

/-- **The step condition is exact.**  Suppose that a step which violates `ok` either returns
something else than the specification or leaves a state in which some probing input does, and that
probing inputs are answered correctly in every related state.  Then the run agrees with the
specification, and so does every prefix of it followed by one probing input, iff each of its steps
meets the condition. -/
theorem run_agrees_iff_meets (step : σ → ι → Except ε (ο × σ)) (spec : τ → ι → ο × τ)
    (R : σ → τ → Prop) (ok : σ → ι → Prop) (adm : τ → ι → Prop) (probe : ι → Prop)
    (hstep : ∀ {s t i}, R s t → adm t i → ok s i →
      ∃ s', step s i = .ok ((spec t i).1, s') ∧ R s' (spec t i).2)
    (hprobe : ∀ {s t i}, R s t → adm t i → probe i → ∃ s', step s i = .ok ((spec t i).1, s'))
    (hexact : ∀ {s t i s'}, R s t → adm t i → ¬ok s i → step s i = .ok ((spec t i).1, s') →
      ∃ j, probe j ∧ adm (spec t i).2 j ∧ ¬Agrees step spec s' (spec t i).2 [j]) :
    ∀ {is : List ι} {s : σ} {t : τ}, R s t → Admits spec adm t is →
      ((Agrees step spec s t is ∧ ∀ js j, js <+: is → probe j → Admits spec adm t (js ++ [j]) →
          Agrees step spec s t (js ++ [j])) ↔ Meets step ok s is) := by
  intro is
  induction is with
  | nil =>
    intro s t hR _
    refine ⟨fun _ => trivial, fun _ => ⟨⟨s, rfl⟩, ?_⟩⟩
    intro js j hpre hj hadm
    rw [List.prefix_nil.mp hpre] at hadm ⊢
    exact agrees_singleton_iff.mpr (hprobe hR hadm.1 hj)
  | cons i is ih =>
    intro s t hR hadm
    constructor
    · rintro ⟨hagree, hprobes⟩
      obtain ⟨s', h₁⟩ := hagree.head
      by_cases hok : ok s i
      · obtain ⟨s₁, h₁', hR'⟩ := hstep hR hadm.1 hok
        rw [meets_cons_iff h₁']
        refine ⟨hok, (ih hR' hadm.2).mp ⟨(agrees_cons_iff h₁').mp hagree, ?_⟩⟩
        intro js j hpre hj hadm'
        have := hprobes (i :: js) j (List.prefix_cons_inj i |>.mpr hpre) hj ⟨hadm.1, hadm'⟩
        exact (agrees_cons_iff h₁').mp this
      · obtain ⟨j, hj, hadmj, hno⟩ := hexact hR hadm.1 hok h₁
        have := hprobes [i] j ⟨is, rfl⟩ hj ⟨hadm.1, hadmj, trivial⟩
        exact absurd ((agrees_cons_iff h₁).mp this) hno
    · intro hmeets
      obtain ⟨s₁, h₁, hR'⟩ := hstep hR hadm.1 hmeets.1
      have hrest := (ih hR' hadm.2).mpr (hmeets.2 _ _ h₁)
      refine ⟨(agrees_cons_iff h₁).mpr hrest.1, ?_⟩
      intro js j hpre hj hadm'
      cases js with
      | nil => exact agrees_singleton_iff.mpr (hprobe hR hadm'.1 hj)
      | cons k js =>
        obtain ⟨rfl, hpre'⟩ := List.cons_prefix_cons.mp hpre
        exact (agrees_cons_iff h₁).mpr (hrest.2 js j hpre' hj hadm'.2)

end Simulation

/-! ### Machines in lockstep -/

/-- A run of a machine that another one maps to, state by state and step by step, is mapped to a run
of that machine. -/
theorem run_map {σ' ι' ο' : Type} {step : σ → ι → Except ε (ο × σ)}
    {step' : σ' → ι' → Except ε (ο' × σ')} {f : σ → σ'} {g : ι → ι'} {h : ο → ο'}
    (hstep : ∀ s i, step' (f s) (g i) = (step s i).map (Prod.map h f)) :
    ∀ (is : List ι) (s : σ),
      run step' (f s) (is.map g) = (run step s is).map (Prod.map (List.map h) f) := by
  intro is
  induction is with
  | nil => intro s; rfl
  | cons i is ih =>
    intro s
    rw [List.map_cons, run, run, hstep]
    cases step s i with
    | error e => rfl
    | ok r =>
      dsimp only [Except.map, Prod.map]
      rw [ih]
      cases run step r.2 is <;> rfl

/-- The two computations fault alike, or return the same output and related states. -/
def Matches (R : σ → τ → Prop) (x : Except ε (ο × σ)) (y : Except ε (ο × τ)) : Prop :=
  (∃ e, x = .error e ∧ y = .error e) ∨ ∃ o s t, x = .ok (o, s) ∧ y = .ok (o, t) ∧ R s t

theorem Matches.outputs_eq {R : σ → τ → Prop} {x : Except ε (ο × σ)} {y : Except ε (ο × τ)}
    (h : Matches R x y) : x.map Prod.fst = y.map Prod.fst := by
  rcases h with ⟨e, rfl, rfl⟩ | ⟨o, s, t, rfl, rfl, -⟩ <;> rfl

/-- Steps that match, from related states, make runs that match. -/
theorem run_matches {step : σ → ι → Except ε (ο × σ)} {step' : τ → ι → Except ε (ο × τ)}
    {R : σ → τ → Prop} {Adm : ι → Prop}
    (hstep : ∀ {s t i}, R s t → Adm i → Matches R (step s i) (step' t i)) :
    ∀ {is : List ι} {s : σ} {t : τ}, R s t → (∀ i ∈ is, Adm i) →
      Matches R (run step s is) (run step' t is) := by
  intro is
  induction is with
  | nil => intro s t h _; exact Or.inr ⟨[], s, t, rfl, rfl, h⟩
  | cons i is ih =>
    intro s t h hadm
    rw [run, run]
    rcases hstep h (hadm i List.mem_cons_self) with ⟨e, hs, ht⟩ | ⟨o, s₁, t₁, hs, ht, h₁⟩
    · exact Or.inl ⟨e, by rw [hs], by rw [ht]⟩
    · rw [hs, ht]
      dsimp only
      rcases ih h₁ fun j hj => hadm j (List.mem_cons_of_mem _ hj) with
        ⟨e, hs', ht'⟩ | ⟨os, s₂, t₂, hs', ht', h₂⟩
      · exact Or.inl ⟨e, by rw [hs'], by rw [ht']⟩
      · exact Or.inr ⟨o :: os, s₂, t₂, by rw [hs'], by rw [ht'], h₂⟩

/-! ### Non-interference

Of the inputs of a run only those that are `mine` touch what the relation `R` compares. -/

section NonInterference

variable {ο' ν : Type}

/-- The outputs of the inputs that are `mine`. -/
def ownOutputs (mine : ι → Bool) (is : List ι) (os : List ο) : List ο :=
  ((is.zip os).filter fun e => mine e.1).map Prod.snd

theorem ownOutputs_cons (mine : ι → Bool) (i : ι) (is : List ι) (o : ο) (os : List ο) :
    ownOutputs mine (i :: is) (o :: os)
      = if mine i then o :: ownOutputs mine is os else ownOutputs mine is os := by
  rw [ownOutputs, List.zip_cons_cons, List.filter_cons]
  split_ifs <;> rfl

/-- A run from which the other inputs are purged shows the same of the inputs that are `mine`: these
agree on related states, and the others keep a state related. -/
theorem run_purge {step : σ → ι → Except ε (ο × σ)} {step' : τ → ι → Except ε (ο' × τ)}
    {R : σ → τ → Prop} {mine : ι → Bool} {view : ο → ν} {view' : ο' → ν}
    (hmine : ∀ {s t i o s'}, R s t → mine i = true → step s i = .ok (o, s') →
      ∃ o' t', step' t i = .ok (o', t') ∧ view' o' = view o ∧ R s' t')
    (hother : ∀ {s t i o s'}, R s t → mine i = false → step s i = .ok (o, s') → R s' t) :
    ∀ {is : List ι} {s s' : σ} {t : τ} {os : List ο}, R s t → run step s is = .ok (os, s') →
      ∃ os' t', run step' t (is.filter mine) = .ok (os', t') ∧
        os'.map view' = (ownOutputs mine is os).map view ∧ R s' t' := by
  intro is
  induction is with
  | nil =>
    intro s s' t os hR hrun
    cases hrun
    exact ⟨[], t, rfl, rfl, hR⟩
  | cons i is ih =>
    intro s s' t os hR hrun
    obtain ⟨o, s₁, os₁, hstep, hrest, rfl⟩ := run_cons_eq_ok.mp hrun
    rw [List.filter_cons, ownOutputs_cons]
    cases hi : mine i with
    | true =>
      obtain ⟨o', t₁, hstep', hview, hR₁⟩ := hmine hR hi hstep
      obtain ⟨os', t', hrun', hviews, hR'⟩ := ih hR₁ hrest
      refine ⟨o' :: os', t', run_cons_eq_ok.mpr ⟨o', t₁, os', hstep', hrun', rfl⟩, ?_, hR'⟩
      rw [if_pos rfl, List.map_cons, List.map_cons, hview, hviews]
    | false => exact ih (hother hR hi hstep) hrest

end NonInterference

/-! ### Queues -/

/-- If every step takes what it puts out from the front of a queue, behind which it puts what it takes
in, then so does every run: nothing is lost, made up or overtaken. -/
theorem run_conserves {α : Type} {step : σ → ι → Except ε (ο × σ)} {Holds : σ → List α → Prop}
    {Adm : ι → Prop} {taken out : ο → List α}
    (hstep : ∀ {s i o s' xs}, Holds s xs → Adm i → step s i = .ok (o, s') →
      ∃ xs', Holds s' xs' ∧ xs ++ taken o = out o ++ xs') :
    ∀ {is : List ι} {s s' : σ} {os : List ο} {xs : List α}, Holds s xs → (∀ i ∈ is, Adm i) →
      run step s is = .ok (os, s') →
        ∃ xs', Holds s' xs' ∧ xs ++ os.flatMap taken = os.flatMap out ++ xs' := by
  intro is
  induction is with
  | nil =>
    intro s s' os xs hs _ hrun
    cases hrun
    exact ⟨xs, hs, by rw [List.flatMap_nil, List.flatMap_nil, List.append_nil, List.nil_append]⟩
  | cons i is ih =>
    intro s s' os xs hs hadm hrun
    obtain ⟨o, s₁, os₁, hfirst, hrest, rfl⟩ := run_cons_eq_ok.mp hrun
    obtain ⟨xs₁, hs₁, hxs₁⟩ := hstep hs (hadm i List.mem_cons_self) hfirst
    obtain ⟨xs', hs', hxs'⟩ := ih hs₁ (fun j hj => hadm j (List.mem_cons_of_mem _ hj)) hrest
    refine ⟨xs', hs', ?_⟩
    calc xs ++ (o :: os₁).flatMap taken
        = out o ++ (xs₁ ++ os₁.flatMap taken) := by
          rw [List.flatMap_cons, ← List.append_assoc, hxs₁, List.append_assoc]
      _ = (o :: os₁).flatMap out ++ xs' := by
          rw [hxs', List.flatMap_cons, List.append_assoc]

/-! ### Histories

What happened in a run is its list of inputs paired with their outputs.  A relation
`R : τ → κ → τ → Prop` says what one entry may do to a bookkeeping state. -/

section Histories

variable {κ α : Type}

/-- The bookkeeping state goes through the entries one by one. -/
inductive Steps (R : τ → κ → τ → Prop) : τ → List κ → τ → Prop
  | nil {t} : Steps R t [] t
  | cons {t t' t'' e es} (head : R t e t') (tail : Steps R t' es t'') : Steps R t (e :: es) t''

variable {R : τ → κ → τ → Prop}

/-- What every entry appends to a log of the state is what the history appends to it. -/
theorem Steps.log {log : τ → List α} {f : κ → List α}
    (hstep : ∀ {t e t'}, R t e t' → log t' = log t ++ f e) {t t' : τ} {es : List κ}
    (h : Steps R t es t') : log t' = log t ++ es.flatMap f := by
  induction h with
  | nil => rw [List.flatMap_nil, List.append_nil]
  | cons head tail ih => rw [ih, hstep head, List.flatMap_cons, List.append_assoc]

/-- Every entry of a history is a step between two states that the invariant holds of. -/
theorem Steps.of_mem {Inv : τ → Prop} (hstep : ∀ {t e t'}, Inv t → R t e t' → Inv t')
    {t t' : τ} {es : List κ} (h : Steps R t es t') (ht : Inv t) :
    Inv t' ∧ ∀ e ∈ es, ∃ t₁ t₂, Inv t₁ ∧ R t₁ e t₂ := by
  induction h with
  | nil => exact ⟨ht, nofun⟩
  | cons head tail ih =>
    obtain ⟨hlast, hmem⟩ := ih (hstep ht head)
    refine ⟨hlast, ?_⟩
    intro e he
    rcases List.mem_cons.mp he with rfl | he
    · exact ⟨_, _, ht, head⟩
    · exact hmem e he

/-- Bookkeeping that is a function of the entries is a fold over the history. -/
theorem Steps.eq_foldl {f : τ → κ → τ} (hstep : ∀ {t e t'}, R t e t' → t' = f t e) {t t' : τ}
    {es : List κ} (h : Steps R t es t') : t' = es.foldl f t := by
  induction h with
  | nil => rfl
  | cons head tail ih => rw [ih, hstep head, List.foldl_cons]

/-- A machine whose every step is explained by the bookkeeping has its history explained.  Of an
input the history keeps what `f` says of it. -/
theorem exists_steps_of_run {step : σ → ι → Except ε (ο × σ)} {f : ι → κ} {R : τ → κ × ο → τ → Prop}
    {Inv : σ → τ → Prop} {Adm : ι → Prop}
    (hstep : ∀ {s t i o s'}, Inv s t → Adm i → step s i = .ok (o, s') →
      ∃ t', R t (f i, o) t' ∧ Inv s' t') :
    ∀ {is : List ι} {s s' : σ} {t : τ} {os : List ο}, Inv s t → (∀ i ∈ is, Adm i) →
      run step s is = .ok (os, s') → ∃ t', Steps R t ((is.map f).zip os) t' ∧ Inv s' t' := by
  intro is
  induction is with
  | nil => intro s s' t os hinv _ hrun; cases hrun; exact ⟨t, .nil, hinv⟩
  | cons i is ih =>
    intro s s' t os hinv hadm hrun
    obtain ⟨o, s₁, os', h₁, h₂, rfl⟩ := run_cons_eq_ok.mp hrun
    obtain ⟨t₁, hR, hinv₁⟩ := hstep hinv (hadm i List.mem_cons_self) h₁
    obtain ⟨t', hsteps, hinv'⟩ := ih hinv₁ (fun j hj => hadm j (List.mem_cons_of_mem _ hj)) h₂
    exact ⟨t', .cons hR hsteps, hinv'⟩

end Histories

end Transition
