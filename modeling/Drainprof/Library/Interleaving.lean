import Mathlib.Logic.Function.Basic
import Mathlib.Logic.Relation
import Mathlib.Data.List.Basic

/-!
# Interleavings of atomic steps

A `Program` says where a call starts and what one atomic step of a call does to the shared memory
and to the call itself.  A `Pool` is a memory with the calls begun so far, each at its point of the
program.  An `Event` begins a call or lets one take its next step, and a run is a list of events: any
number of calls, in any order of steps.  A call that has returned takes no more steps, and an event
for it changes nothing.

* `Program.run_inv` packages the induction on a run, and `Outline.Holds.next` the usual proof
  obligations of an invariant that consists of an assertion about the memory, one about each call and
  one about each pair of calls: the step of one call must keep its own assertion and those of others.
* `Program.withHistory` adds a history variable to the memory, which no step reads
  (`run_withHistory`), and `Program.observe` keeps notes beside the run.
* `Program.Steps` is what a call does when no other call interferes (`exists_run_of_call`).
* `Program.Tallies` counts the calls that have made a step of some kind.
-/

namespace Interleaving

variable {σ π α χ γ : Type}

/-- A program for calls on a shared memory.  A step may depend on a choice, such as the spurious
failure of a weak compare-and-exchange; a call that has returned has none. -/
structure Program (σ π α χ : Type) where
  start : α → π
  step : χ → σ → π → Option (σ × π)

/-- A memory, and the calls begun so far. -/
structure Pool (σ π : Type) where
  shared : σ
  calls : List π
  deriving DecidableEq

/-- What can happen next: a call begins, or call number `k` takes a step. -/
inductive Event (α χ : Type) where
  | start (a : α)
  | step (k : ℕ) (c : χ)
  deriving DecidableEq

namespace Program

variable (P : Program σ π α χ)

/-- The pool after an event. -/
def next (s : Pool σ π) : Event α χ → Pool σ π
  | .start a => { s with calls := s.calls ++ [P.start a] }
  | .step k c =>
    match s.calls[k]?.bind (P.step c s.shared) with
    | none => s
    | some (m, p) => ⟨m, s.calls.set k p⟩

/-- The pool after a list of events. -/
def run : Pool σ π → List (Event α χ) → Pool σ π
  | s, [] => s
  | s, e :: es => run (P.next s e) es

/-- Every event of the run happens in a pool where `ok` allows it. -/
def Along (ok : Pool σ π → Event α χ → Prop) : Pool σ π → List (Event α χ) → Prop
  | _, [] => True
  | s, e :: es => ok s e ∧ Along ok (P.next s e) es

instance Along.decidable (ok : Pool σ π → Event α χ → Prop) [∀ s e, Decidable (ok s e)] :
    ∀ s es, Decidable (P.Along ok s es)
  | _, [] => inferInstanceAs (Decidable True)
  | s, e :: es => @instDecidableAnd _ _ _ (Along.decidable ok (P.next s e) es)

/-- `Q` holds of every pool of the run, the last one included. -/
def Always (Q : Pool σ π → Prop) (s : Pool σ π) (es : List (Event α χ)) : Prop :=
  P.Along (fun s _ => Q s) s es ∧ Q (P.run s es)

instance (Q : Pool σ π → Prop) [DecidablePred Q] (s : Pool σ π) (es : List (Event α χ)) :
    Decidable (P.Always Q s es) :=
  inferInstanceAs (Decidable (_ ∧ _))

variable {P} {s : Pool σ π}

theorem next_step {k : ℕ} {c : χ} {p p' : π} {m : σ} (hk : s.calls[k]? = some p)
    (hstep : P.step c s.shared p = some (m, p')) :
    P.next s (.step k c) = ⟨m, s.calls.set k p'⟩ := by
  rw [next, hk, Option.bind_some, hstep]

theorem next_step_of_none {k : ℕ} {c : χ} (hk : s.calls[k]?.bind (P.step c s.shared) = none) :
    P.next s (.step k c) = s := by
  rw [next, hk]

/-- What an event does. -/
theorem next_cases (s : Pool σ π) (e : Event α χ) :
    (∃ a, e = .start a ∧ P.next s e = { s with calls := s.calls ++ [P.start a] }) ∨
      (∃ k c p m p', e = .step k c ∧ s.calls[k]? = some p ∧ P.step c s.shared p = some (m, p') ∧
        P.next s e = ⟨m, s.calls.set k p'⟩) ∨
      P.next s e = s := by
  cases e with
  | start a => exact Or.inl ⟨a, rfl, rfl⟩
  | step k c =>
    refine Or.inr ?_
    cases hk : s.calls[k]? with
    | none => exact Or.inr (next_step_of_none (by rw [hk, Option.bind_none]))
    | some p =>
      cases hstep : P.step c s.shared p with
      | none => exact Or.inr (next_step_of_none (by rw [hk, Option.bind_some, hstep]))
      | some r => exact Or.inl ⟨k, c, p, r.1, r.2, rfl, hk, hstep, next_step hk hstep⟩

/-! ### Runs -/

theorem run_append (es es' : List (Event α χ)) :
    P.run s (es ++ es') = P.run (P.run s es) es' := by
  induction es generalizing s with
  | nil => rfl
  | cons e es ih => exact ih

theorem Along.and {ok ok' : Pool σ π → Event α χ → Prop} {es : List (Event α χ)}
    (h : P.Along ok s es) (h' : P.Along ok' s es) : P.Along (fun s e => ok s e ∧ ok' s e) s es := by
  induction es generalizing s with
  | nil => trivial
  | cons e es ih => exact ⟨⟨h.1, h'.1⟩, ih h.2 h'.2⟩

/-- What holds of every event of a list holds along every run of it. -/
theorem along_of_forall {Q : Event α χ → Prop} {es : List (Event α χ)} (h : ∀ e ∈ es, Q e) :
    P.Along (fun _ e => Q e) s es := by
  induction es generalizing s with
  | nil => trivial
  | cons e es ih =>
    exact ⟨h e List.mem_cons_self, ih fun e' he' => h e' (List.mem_cons_of_mem e he')⟩

/-- What every allowed event keeps holds after every run of allowed events. -/
theorem run_inv {Inv : Pool σ π → Prop} {ok : Pool σ π → Event α χ → Prop}
    (hnext : ∀ s e, Inv s → ok s e → Inv (P.next s e)) {es : List (Event α χ)} (hs : Inv s)
    (hes : P.Along ok s es) : Inv (P.run s es) := by
  induction es generalizing s with
  | nil => exact hs
  | cons e es ih => exact ih (hnext s e hs hes.1) hes.2

/-- What the invariant of a run gives for every event of the run. -/
theorem Along.of_inv {Inv : Pool σ π → Prop} {ok Q : Pool σ π → Event α χ → Prop}
    (hnext : ∀ s e, Inv s → ok s e → Inv (P.next s e)) (hQ : ∀ s e, Inv s → ok s e → Q s e)
    {es : List (Event α χ)} (hs : Inv s) (hes : P.Along ok s es) : P.Along Q s es := by
  induction es generalizing s with
  | nil => trivial
  | cons e es ih => exact ⟨hQ s e hs hes.1, ih (hnext s e hs hes.1) hes.2⟩

/-! ### Observers -/

variable (P) in
/-- What an observer has noted at the end of a run: `note` sees every event and the pool it happens
in. -/
def observe (note : γ → Pool σ π → Event α χ → γ) : γ → Pool σ π → List (Event α χ) → γ
  | g, _, [] => g
  | g, s, e :: es => observe note (note g s e) (P.next s e) es

/-- What every event keeps of the notes and the pool holds at the end of every run. -/
theorem observe_inv {note : γ → Pool σ π → Event α χ → γ} {Inv : γ → Pool σ π → Prop}
    (hnext : ∀ g s e, Inv g s → Inv (note g s e) (P.next s e)) {g : γ} (hs : Inv g s)
    (es : List (Event α χ)) : Inv (P.observe note g s es) (P.run s es) := by
  induction es generalizing g s with
  | nil => exact hs
  | cons e es ih => exact ih (hnext g s e hs)

/-- The same for runs of allowed events. -/
theorem observe_inv_of_along {note : γ → Pool σ π → Event α χ → γ} {Inv : γ → Pool σ π → Prop}
    {ok : Pool σ π → Event α χ → Prop}
    (hnext : ∀ g s e, Inv g s → ok s e → Inv (note g s e) (P.next s e)) {g : γ} (hs : Inv g s)
    {es : List (Event α χ)} (hes : P.Along ok s es) : Inv (P.observe note g s es) (P.run s es) := by
  induction es generalizing g s with
  | nil => exact hs
  | cons e es ih => exact ih (hnext g s e hs hes.1) hes.2

theorem observe_append (note : γ → Pool σ π → Event α χ → γ) (g : γ) (es es' : List (Event α χ)) :
    P.observe note g s (es ++ es') = P.observe note (P.observe note g s es) (P.run s es) es' := by
  induction es generalizing g s with
  | nil => rfl
  | cons e es ih => exact ih (note g s e)

/-! ### History variables -/

/-- The program with a history variable: `note` says how a step of the program changes it. -/
def withHistory (P : Program σ π α χ) (note : γ → χ → σ → π → γ) : Program (σ × γ) π α χ where
  start := P.start
  step c m p := (P.step c m.1 p).map fun r => ((r.1, note m.2 c m.1 p), r.2)

variable {note : γ → χ → σ → π → γ}

theorem withHistory_step (c : χ) (m : σ × γ) (p : π) : (P.withHistory note).step c m p
    = (P.step c m.1 p).map fun r => ((r.1, note m.2 c m.1 p), r.2) := rfl

theorem withHistory_step_eq_some {c : χ} {m m' : σ × γ} {p p' : π} :
    (P.withHistory note).step c m p = some (m', p') ↔
      P.step c m.1 p = some (m'.1, p') ∧ m'.2 = note m.2 c m.1 p := by
  rw [withHistory_step, Option.map_eq_some_iff]
  constructor
  · rintro ⟨r, hr, heq⟩
    cases heq
    exact ⟨hr, rfl⟩
  · rintro ⟨hr, hnote⟩
    refine ⟨_, hr, ?_⟩
    rw [← hnote]

end Program

/-- The pool without its history variable. -/
def Pool.plain (s : Pool (σ × γ) π) : Pool σ π :=
  ⟨s.shared.1, s.calls⟩

namespace Program

variable {P : Program σ π α χ} {note : γ → χ → σ → π → γ}

theorem next_withHistory (s : Pool (σ × γ) π) (e : Event α χ) :
    ((P.withHistory note).next s e).plain = P.next s.plain e := by
  cases e with
  | start a => rfl
  | step k c =>
    rw [next, next, show s.plain.calls = s.calls from rfl]
    cases hk : s.calls[k]? with
    | none => rfl
    | some p =>
      rw [Option.bind_some, Option.bind_some, show s.plain.shared = s.shared.1 from rfl]
      cases hstep : P.step c s.shared.1 p with
      | none =>
        rw [withHistory_step, hstep]
        rfl
      | some r =>
        rw [withHistory_step, hstep]
        rfl

/-- The history variable has no influence on the run. -/
theorem run_withHistory (s : Pool (σ × γ) π) (es : List (Event α χ)) :
    ((P.withHistory note).run s es).plain = P.run s.plain es := by
  induction es generalizing s with
  | nil => rfl
  | cons e es ih => rw [run, run, ih, next_withHistory]

/-! ### A call that runs alone -/

/-- Steps of one call without interference. -/
def Steps (P : Program σ π α χ) : σ × π → σ × π → Prop :=
  Relation.ReflTransGen fun x y => ∃ c, P.step c x.1 x.2 = some y

theorem Steps.head {x y z : σ × π} {c : χ} (h : P.step c x.1 x.2 = some y) (hyz : P.Steps y z) :
    P.Steps x z :=
  Relation.ReflTransGen.head ⟨c, h⟩ hyz

/-- What a call does alone is an interleaving: the one in which no other call takes a step. -/
theorem exists_run_of_steps {x y : σ × π} (h : P.Steps x y) {calls : List π} {k : ℕ}
    (hk : calls[k]? = some x.2) :
    ∃ cs : List χ, P.run ⟨x.1, calls⟩ (cs.map (Event.step k)) = ⟨y.1, calls.set k y.2⟩ := by
  induction h using Relation.ReflTransGen.head_induction_on generalizing calls with
  | refl =>
    refine ⟨[], ?_⟩
    obtain ⟨hlt, heq⟩ := List.getElem?_eq_some_iff.mp hk
    rw [List.map_nil, run, ← heq, List.set_getElem_self]
  | head hstep _ ih =>
    obtain ⟨c, hstep⟩ := hstep
    have hlt : k < calls.length := (List.getElem?_eq_some_iff.mp hk).1
    obtain ⟨cs, hcs⟩ := ih (List.getElem?_set_self hlt)
    refine ⟨c :: cs, ?_⟩
    rw [List.map_cons, run, next_step hk hstep, hcs, List.set_set]

/-- A call that does so from its start begins in this interleaving and takes all its steps. -/
theorem exists_run_of_call {m m' : σ} {a : α} {p : π} (h : P.Steps (m, P.start a) (m', p))
    (calls : List π) : ∃ es, P.run ⟨m, calls⟩ es = ⟨m', calls ++ [p]⟩ := by
  obtain ⟨cs, hcs⟩ := exists_run_of_steps h (List.getElem?_concat_length (l := calls))
  refine ⟨.start a :: cs.map (Event.step calls.length), ?_⟩
  rw [run, next, hcs, List.set_append_right _ _ (Nat.le_refl _), Nat.sub_self, List.set_cons_zero]

end Program

/-! ### The calls of a pool -/

/-- A call other than the one that stepped is still there. -/
theorem mem_set_of_ne {calls : List π} {k : ℕ} {p p' q : π} (hk : calls[k]? = some p)
    (hq : q ∈ calls) (hne : q ≠ p) : q ∈ calls.set k p' := by
  obtain ⟨j, hj⟩ := List.mem_iff_getElem?.mp hq
  have hjk : k ≠ j := by
    rintro rfl
    rw [hk, Option.some.injEq] at hj
    exact hne hj.symm
  refine List.mem_iff_getElem?.mpr ⟨j, ?_⟩
  rw [List.getElem?_set_ne hjk, hj]

/-- A call after a step is the one that stepped or an old one. -/
theorem getElem?_set_cases {calls : List π} {k i : ℕ} {p' q : π}
    (h : (calls.set k p')[i]? = some q) : i = k ∧ q = p' ∨ i ≠ k ∧ calls[i]? = some q := by
  by_cases hik : i = k
  · subst hik
    have hlt := (List.getElem?_eq_some_iff.mp h).1
    rw [List.length_set] at hlt
    rw [List.getElem?_set_self hlt, Option.some.injEq] at h
    exact Or.inl ⟨rfl, h.symm⟩
  · rw [List.getElem?_set_ne (Ne.symm hik)] at h
    exact Or.inr ⟨hik, h⟩

/-- A call after one begins is the one that began or an old one. -/
theorem getElem?_concat_cases {calls : List π} {i : ℕ} {p q : π}
    (h : (calls ++ [p])[i]? = some q) : i = calls.length ∧ q = p ∨ calls[i]? = some q := by
  rcases Nat.lt_or_ge i calls.length with hlt | hge
  · rw [List.getElem?_append_left hlt] at h
    exact Or.inr h
  · rw [List.getElem?_append_right hge, List.getElem?_singleton] at h
    split_ifs at h with hzero
    cases h
    exact Or.inl ⟨by omega, rfl⟩

/-- How a step changes the number of calls (or of other entries of a list) with some property. -/
theorem countP_set {calls : List π} {k : ℕ} {p : π} (hk : calls[k]? = some p) (f : π → Bool)
    (p' : π) : (calls.set k p').countP f + (if f p then 1 else 0)
      = calls.countP f + (if f p' then 1 else 0) := by
  obtain ⟨hlt, rfl⟩ := List.getElem?_eq_some_iff.mp hk
  rw [List.countP_set hlt]
  have hpos : f calls[k] = true → 0 < calls.countP f := fun h =>
    List.countP_pos_iff.mpr ⟨_, List.getElem_mem hlt, h⟩
  split_ifs with h
  all_goals
    have := hpos
    simp only [h, forall_const] at this
    omega

/-! ### Tallies -/

/-- Tallies of the calls that have made a step of some kind.  A call is counted under each kind at most
once and stays counted, and `Shows n m` says that the memory `m` shows the numbers `n`. -/
structure Program.Tallies {τ : Type} [DecidableEq τ] (P : Program σ π α χ) (counted : τ → π → Bool)
    (Shows : (τ → ℕ) → σ → Prop) : Prop where
  start : ∀ t a, counted t (P.start a) = false
  step : ∀ c m p m' p', P.step c m p = some (m', p') →
    ((∀ t, counted t p' = counted t p) ∧ ∀ n, Shows n m → Shows n m') ∨
      ∃ t, (∀ u, counted u p' = (counted u p || u == t)) ∧ counted t p = false ∧
        ∀ n, Shows n m → Shows (Function.update n t (n t + 1)) m'

namespace Program.Tallies

variable {τ : Type} [DecidableEq τ] {P : Program σ π α χ} {counted : τ → π → Bool}
  {Shows : (τ → ℕ) → σ → Prop} {s : Pool σ π}

/-- How many of the calls are counted. -/
abbrev tally (counted : τ → π → Bool) (calls : List π) (t : τ) : ℕ :=
  calls.countP (counted t)

theorem tally_set {calls : List π} {k : ℕ} {p p' : π} (hk : calls[k]? = some p) {t : τ}
    (hnew : ∀ u, counted u p' = (counted u p || u == t)) (hold : counted t p = false) :
    tally counted (calls.set k p')
      = Function.update (tally counted calls) t (tally counted calls t + 1) := by
  funext u
  have hset := countP_set hk (counted u) p'
  rw [hnew u] at hset
  by_cases hu : u = t
  · subst hu
    rw [Function.update_self]
    simpa [hold] using hset
  · rw [Function.update_of_ne hu]
    simpa [hu] using hset

omit [DecidableEq τ] in
theorem tally_set_of_eq {calls : List π} {k : ℕ} {p p' : π} (hk : calls[k]? = some p)
    (hsame : ∀ t, counted t p' = counted t p) :
    tally counted (calls.set k p') = tally counted calls := by
  funext t
  have hset := countP_set hk (counted t) p'
  rw [hsame t] at hset
  exact Nat.add_right_cancel hset

/-- An event keeps the numbers shown, and lowers none of them. -/
theorem next (h : P.Tallies counted Shows) (hs : Shows (tally counted s.calls) s.shared)
    (e : Event α χ) : Shows (tally counted (P.next s e).calls) (P.next s e).shared ∧
      ∀ t, tally counted s.calls t ≤ tally counted (P.next s e).calls t := by
  rcases P.next_cases s e with ⟨a, -, hnext⟩ | ⟨k, c, p, m, p', -, hk, hstep, hnext⟩ | hnext
  · have heq : tally counted (s.calls ++ [P.start a]) = tally counted s.calls := by
      funext t
      rw [tally, List.countP_append, List.countP_singleton, h.start t a]
      rfl
    rw [hnext, heq]
    exact ⟨hs, fun t => Nat.le_refl _⟩
  · rw [hnext]
    dsimp only
    rcases h.step c _ p m p' hstep with ⟨hsame, hshows⟩ | ⟨t, hnew, hold, hshows⟩
    · rw [tally_set_of_eq hk hsame]
      exact ⟨hshows _ hs, fun t => Nat.le_refl _⟩
    · rw [tally_set hk hnew hold]
      refine ⟨hshows _ hs, fun u => ?_⟩
      rw [Function.update_apply]
      split_ifs with hu
      · exact Nat.le_of_lt (hu ▸ Nat.lt_succ_self _)
      · exact Nat.le_refl _
  · rw [hnext]
    exact ⟨hs, fun t => Nat.le_refl _⟩

/-- In every interleaving the memory shows how many calls are counted, and the numbers never
decrease. -/
theorem run (h : P.Tallies counted Shows) (hs : Shows (tally counted s.calls) s.shared)
    (es : List (Event α χ)) : Shows (tally counted (P.run s es).calls) (P.run s es).shared ∧
      ∀ t, tally counted s.calls t ≤ tally counted (P.run s es).calls t := by
  induction es generalizing s with
  | nil => exact ⟨hs, fun t => Nat.le_refl _⟩
  | cons e es ih =>
    obtain ⟨hnext, hle⟩ := h.next hs e
    obtain ⟨hrun, hle'⟩ := ih hnext
    exact ⟨hrun, fun t => Nat.le_trans (hle t) (hle' t)⟩

end Program.Tallies

/-! ### Proof outlines -/

/-- An assertion about the memory, one about each call and one about each pair of calls. -/
structure Outline (σ π : Type) where
  shared : σ → Prop
  call : σ → π → Prop
  pair : π → π → Prop
  symm : ∀ p q, pair p q → pair q p

namespace Outline

variable {O : Outline σ π} {P : Program σ π α χ} {s : Pool σ π}

/-- The assertions of the outline hold in the pool. -/
structure Holds (O : Outline σ π) (s : Pool σ π) : Prop where
  shared : O.shared s.shared
  call : ∀ p ∈ s.calls, O.call s.shared p
  pair : ∀ (i j : ℕ) (p q : π), i ≠ j → s.calls[i]? = some p → s.calls[j]? = some q → O.pair p q

/-- The step of a call from `p` to `p'`, which changes the memory to `m`, keeps the assertions of the
call and of all others. -/
structure Keeps (O : Outline σ π) (s : Pool σ π) (p : π) (m : σ) (p' : π) : Prop where
  shared : O.shared m
  own : O.call m p'
  other : ∀ q ∈ s.calls, O.call s.shared q → O.pair p q → O.call m q
  pair : ∀ q ∈ s.calls, O.pair p q → O.pair p' q

theorem Holds.call_of_getElem? (h : O.Holds s) {k : ℕ} {p : π} (hk : s.calls[k]? = some p) :
    O.call s.shared p :=
  h.call p (List.mem_of_getElem? hk)

theorem Holds.nil {m : σ} (h : O.shared m) : O.Holds ⟨m, []⟩ :=
  ⟨h, nofun, nofun⟩

theorem Holds.start (h : O.Holds s) {p : π} (hown : O.call s.shared p)
    (hpair : ∀ q ∈ s.calls, O.pair p q) : O.Holds { s with calls := s.calls ++ [p] } := by
  have hnew : ∀ (i : ℕ) (q : π), (s.calls ++ [p])[i]? = some q →
      s.calls[i]? = some q ∨ i = s.calls.length ∧ q = p := by
    intro i q hi
    rcases Nat.lt_or_ge i s.calls.length with hlt | hge
    · rw [List.getElem?_append_left hlt] at hi
      exact Or.inl hi
    · rw [List.getElem?_append_right hge, List.getElem?_singleton] at hi
      split_ifs at hi with hzero
      cases hi
      exact Or.inr ⟨by omega, rfl⟩
  refine ⟨h.shared, ?_, ?_⟩
  · intro q hq
    rcases List.mem_append.mp hq with hq | hq
    · exact h.call q hq
    · rw [List.mem_singleton.mp hq]
      exact hown
  · intro i j q q' hij hi hj
    rcases hnew i q hi with hi' | ⟨hi', rfl⟩
    · rcases hnew j q' hj with hj' | ⟨-, rfl⟩
      · exact h.pair i j q q' hij hi' hj'
      · exact O.symm _ _ (hpair q (List.mem_of_getElem? hi'))
    · rcases hnew j q' hj with hj' | ⟨hj', -⟩
      · exact hpair q' (List.mem_of_getElem? hj')
      · exact absurd (hi'.trans hj'.symm) hij

theorem Holds.step (h : O.Holds s) {k : ℕ} {p p' : π} {m : σ} (hk : s.calls[k]? = some p)
    (hkeeps : O.Keeps s p m p') : O.Holds ⟨m, s.calls.set k p'⟩ := by
  have hlt : k < s.calls.length := (List.getElem?_eq_some_iff.mp hk).1
  -- a call of the new pool is the one that stepped or is an old one
  have hold : ∀ (i : ℕ) (q : π), (s.calls.set k p')[i]? = some q →
      i = k ∧ q = p' ∨ i ≠ k ∧ s.calls[i]? = some q := by
    intro i q hi
    by_cases hik : i = k
    · subst hik
      rw [List.getElem?_set_self hlt, Option.some.injEq] at hi
      exact Or.inl ⟨rfl, hi.symm⟩
    · rw [List.getElem?_set_ne (Ne.symm hik)] at hi
      exact Or.inr ⟨hik, hi⟩
  refine ⟨hkeeps.shared, ?_, ?_⟩
  · intro q hq
    obtain ⟨i, hi⟩ := List.mem_iff_getElem?.mp hq
    rcases hold i q hi with ⟨-, rfl⟩ | ⟨hik, hi'⟩
    · exact hkeeps.own
    · have hq := List.mem_of_getElem? hi'
      exact hkeeps.other q hq (h.call q hq) (h.pair k i p q (Ne.symm hik) hk hi')
  · intro i j q q' hij hi hj
    rcases hold i q hi with ⟨hik, rfl⟩ | ⟨hik, hi'⟩
    · rcases hold j q' hj with ⟨hjk, -⟩ | ⟨hjk, hj'⟩
      · exact absurd (hik.trans hjk.symm) hij
      · exact hkeeps.pair q' (List.mem_of_getElem? hj') (h.pair k j p q' (Ne.symm hjk) hk hj')
    · rcases hold j q' hj with ⟨-, rfl⟩ | ⟨-, hj'⟩
      · exact O.symm _ _
          (hkeeps.pair q (List.mem_of_getElem? hi') (h.pair k i p q (Ne.symm hik) hk hi'))
      · exact h.pair i j q q' hij hi' hj'

/-- The proof obligations of an outline: what begins a call and what a step does. -/
theorem Holds.next (h : O.Holds s) {e : Event α χ}
    (hstart : ∀ a, e = .start a →
      O.call s.shared (P.start a) ∧ ∀ q ∈ s.calls, O.pair (P.start a) q)
    (hstep : ∀ k c p m p', e = .step k c → s.calls[k]? = some p →
      P.step c s.shared p = some (m, p') → O.Keeps s p m p') :
    O.Holds (P.next s e) := by
  rcases Program.next_cases s e with ⟨a, he, hnext⟩ | ⟨k, c, p, m, p', he, hk, hp, hnext⟩ | hnext
  · obtain ⟨hown, hpair⟩ := hstart a he
    rw [hnext]
    exact h.start hown hpair
  · rw [hnext]
    exact h.step hk (hstep k c p m p' he hk hp)
  · rw [hnext]
    exact h

end Outline

end Interleaving
