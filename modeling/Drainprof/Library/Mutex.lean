import Drainprof.Library.Linearization

/-!
# Calls that hold a lock

A `Section` says what a call does under a lock: where its body begins and what one step of it does to
the data the lock protects.  `Section.program` is the program of such calls: a call waits until the
lock is free, takes it, runs its body one step at a time among the steps of all other calls, and
releases it.  A call may also return without the lock (`skip`).

If the body, run alone, computes what a sequential step function computes (`Implements`), then every
interleaving of any number of calls does what the calls do one after the other (`Serves`): the log of
the calls in the order in which they released the lock is a run of the sequential machine, each
returned call is in it once and with its own result, and when the lock is free the data are the state
that run leads to (`serves_run`).  The log only grows at its end (`log_grows`), so that a call which
has returned before another begins comes before it.

No call faults unless the sequential machine does (`Serves.not_faulted`), and no call has to wait
for ever: from every pool there is a continuation in which all calls return (`exists_all_returned`).
-/

namespace Mutex

open Interleaving Transition

variable {σ π α ρ ε : Type}

/-- What a step of the body leads to. -/
inductive Next (π ρ : Type) where
  | more (p : π)
  | done (r : ρ)
  deriving DecidableEq

/-- What a call does under the lock, and the calls that return without it. -/
structure Section (σ π α ρ ε : Type) where
  skip : α → Option ρ
  enter : α → π
  body : σ → π → Except ε (σ × Next π ρ)

/-- The data, and whether the lock is taken. -/
structure Locked (σ : Type) where
  locked : Bool
  data : σ
  deriving DecidableEq

/-- Where a call is. -/
inductive Pc (π α ρ ε : Type) where
  | lock (a : α)
  | body (a : α) (p : π)
  | unlock (a : α) (r : ρ)
  | returned (a : α) (r : ρ)
  | faulted (a : α) (e : ε)
  deriving DecidableEq

/-- The call is between taking the lock and releasing it; one that faults never releases it. -/
def Pc.inside : Pc π α ρ ε → Bool
  | .body _ _ | .unlock _ _ | .faulted _ _ => true
  | .lock _ | .returned _ _ => false

/-- The call has returned. -/
def Pc.hasReturned : Pc π α ρ ε → Bool
  | .returned _ _ => true
  | .lock _ | .body _ _ | .unlock _ _ | .faulted _ _ => false

/-- The call itself. -/
def Pc.call : Pc π α ρ ε → α
  | .lock a | .body a _ | .unlock a _ | .returned a _ | .faulted a _ => a

/-- What the call has returned. -/
def Pc.result : Pc π α ρ ε → Option ρ
  | .returned _ r => some r
  | .lock _ | .body _ _ | .unlock _ _ | .faulted _ _ => none

namespace Section

variable (S : Section σ π α ρ ε)

/-- Where a call begins. -/
def start (a : α) : Pc π α ρ ε :=
  match S.skip a with
  | some r => .returned a r
  | none => .lock a

/-- One step of a call. -/
def step (m : Locked σ) : Pc π α ρ ε → Option (Locked σ × Pc π α ρ ε)
  | .lock a => if m.locked then none else some ({ m with locked := true }, .body a (S.enter a))
  | .body a p =>
    match S.body m.data p with
    | .error e => some (m, .faulted a e)
    | .ok (d, .more p') => some ({ m with data := d }, .body a p')
    | .ok (d, .done r) => some ({ m with data := d }, .unlock a r)
  | .unlock a r => some ({ m with locked := false }, .returned a r)
  | .returned _ _ => none
  | .faulted _ _ => none

/-- Calls that hold the lock for their body. -/
def program : Program (Locked σ) (Pc π α ρ ε) α Unit where
  start := S.start
  step := fun _ => S.step

/-- Data under a free lock, before any call. -/
def pool (d : σ) : Pool (Locked σ) (Pc π α ρ ε) :=
  ⟨⟨false, d⟩, []⟩

/-! ### The body alone -/

/-- The body run alone to its end, or to a fault. -/
inductive Eval : σ → π → Except ε (ρ × σ) → Prop
  | done {d d' p r} (h : S.body d p = .ok (d', .done r)) : Eval d p (.ok (r, d'))
  | fault {d p e} (h : S.body d p = .error e) : Eval d p (.error e)
  | more {d d' p p' x} (h : S.body d p = .ok (d', .more p')) (hrest : Eval d' p' x) : Eval d p x

variable {S}

theorem Eval.rest {d d' : σ} {p p' : π} {x : Except ε (ρ × σ)} (h : S.Eval d p x)
    (hbody : S.body d p = .ok (d', .more p')) : S.Eval d' p' x := by
  cases h with
  | done h => rw [h] at hbody; cases hbody
  | fault h => rw [h] at hbody; cases hbody
  | more h hrest =>
    rw [h] at hbody
    cases hbody
    exact hrest

theorem Eval.eq_ok {d d' : σ} {p : π} {r : ρ} {x : Except ε (ρ × σ)} (h : S.Eval d p x)
    (hbody : S.body d p = .ok (d', .done r)) : x = .ok (r, d') := by
  cases h with
  | done h => rw [h] at hbody; cases hbody; rfl
  | fault h => rw [h] at hbody; cases hbody
  | more h _ => rw [h] at hbody; cases hbody

theorem Eval.eq_error {d : σ} {p : π} {e : ε} {x : Except ε (ρ × σ)} (h : S.Eval d p x)
    (hbody : S.body d p = .error e) : x = .error e := by
  cases h with
  | done h => rw [h] at hbody; cases hbody
  | fault h => rw [h] at hbody; cases hbody; rfl
  | more h _ => rw [h] at hbody; cases hbody

/-- A step of the body that begins with a computation which may fault. -/
theorem Eval.bind {γ : Type} {d : σ} {p : π} {x : Except ε γ} {f : γ → σ} {g : γ → π}
    {rest : γ → Except ε (ρ × σ)}
    (hbody : S.body d p = x >>= fun a => .ok (f a, .more (g a)))
    (hrest : ∀ a, x = .ok a → S.Eval (f a) (g a) (rest a)) : S.Eval d p (x >>= rest) := by
  cases x with
  | error e => exact .fault hbody
  | ok a => exact .more hbody (hrest a rfl)

/-- A step of the body that begins with two such computations. -/
theorem Eval.bind₂ {γ δ : Type} {d : σ} {p : π} {x : Except ε γ} {y : γ → Except ε δ} {f : δ → σ}
    {g : δ → π} {rest : δ → Except ε (ρ × σ)}
    (hbody : S.body d p = x >>= fun a => y a >>= fun b => .ok (f b, .more (g b)))
    (hrest : ∀ a b, x = .ok a → y a = .ok b → S.Eval (f b) (g b) (rest b)) :
    S.Eval d p (x >>= fun a => y a >>= rest) := by
  rw [← bind_assoc]
  refine Eval.bind (hbody.trans (bind_assoc ..).symm) ?_
  intro b hb
  cases x with
  | error e => cases hb
  | ok a => exact hrest a b rfl hb

variable (S) in
/-- The calls compute what the sequential machine does. -/
structure Implements (seq : σ → α → Except ε (ρ × σ)) : Prop where
  skip : ∀ d a r, S.skip a = some r → seq d a = .ok (r, d)
  body : ∀ d a, S.skip a = none → S.Eval d (S.enter a) (seq d a)

/-! ### The log -/

variable (S) in
/-- A call is entered into the log when it releases the lock, or begins and returns without it. -/
def note (log : List (ℕ × α × ρ)) (s : Pool (Locked σ) (Pc π α ρ ε)) :
    Event α Unit → List (ℕ × α × ρ)
  | .start a =>
    match S.skip a with
    | some r => log ++ [(s.calls.length, a, r)]
    | none => log
  | .step k _ =>
    match s.calls[k]? with
    | some (.unlock a r) => log ++ [(k, a, r)]
    | _ => log

variable (S) in
/-- The log of a run: the number, the call and the result of each call, in order. -/
def log (d : σ) (es : List (Event α Unit)) : List (ℕ × α × ρ) :=
  S.program.observe S.note [] (pool d) es

/-- The pool does what the sequential machine does on the logged calls, which are those that have
returned: they lead it from `d₀` to `d`. -/
structure Serves (seq : σ → α → Except ε (ρ × σ)) (d₀ : σ) (log : List (ℕ × α × ρ)) (d : σ)
    (s : Pool (Locked σ) (Pc π α ρ ε)) : Prop
    extends Logged seq d₀ Pc.call (fun _ p => p.result) log d s where
  free : s.shared.locked = false → s.shared.data = d

theorem Serves.returned_iff {seq : σ → α → Except ε (ρ × σ)} {d₀ d : σ} {log : List (ℕ × α × ρ)}
    {s : Pool (Locked σ) (Pc π α ρ ε)} (h : Serves seq d₀ log d s) (k : ℕ) (a : α) (r : ρ) :
    s.calls[k]? = some (.returned a r) ↔ (k, a, r) ∈ log := by
  rw [← h.owed_iff]
  constructor
  · intro hk
    exact ⟨_, hk, rfl, rfl⟩
  · rintro ⟨p, hk, rfl, howed⟩
    cases p with
    | returned a r' =>
      cases howed
      exact hk
    | lock a | body a p | unlock a r' | faulted a e => cases howed

/-! ### Every interleaving serves -/

/-- What a call inside has still to do, when the sequential machine is in state `d` and the data are
`m`: what the rest of it leads to is the step of the machine. -/
def Remains (S : Section σ π α ρ ε) (seq : σ → α → Except ε (ρ × σ)) (d m : σ) :
    Pc π α ρ ε → Prop
  | .lock a => S.skip a = none
  | .body a p => S.Eval m p (seq d a)
  | .unlock a r => seq d a = .ok (r, m)
  | .returned _ _ => True
  | .faulted a e => seq d a = .error e

/-- The invariant: the logged calls are served, at most one call is inside, and it has begun in the
state the logged calls led to. -/
structure Excludes (S : Section σ π α ρ ε) (seq : σ → α → Except ε (ρ × σ)) (d₀ : σ)
    (log : List (ℕ × α × ρ)) (d : σ) (s : Pool (Locked σ) (Pc π α ρ ε)) : Prop
    extends Serves seq d₀ log d s where
  remains : ∀ p ∈ s.calls, Remains S seq d s.shared.data p
  locked_iff : s.shared.locked = true ↔ ∃ p ∈ s.calls, p.inside = true
  unique : ∀ (i j : ℕ) (p q : Pc π α ρ ε), s.calls[i]? = some p → s.calls[j]? = some q →
    p.inside = true → q.inside = true → i = j

variable {S : Section σ π α ρ ε} {seq : σ → α → Except ε (ρ × σ)} {d₀ d : σ}
  {log : List (ℕ × α × ρ)} {s : Pool (Locked σ) (Pc π α ρ ε)}

/-- No other call is inside. -/
theorem Excludes.outside (h : Excludes S seq d₀ log d s) {k i : ℕ} {p q : Pc π α ρ ε}
    (hk : s.calls[k]? = some p) (hp : p.inside = true) (hi : s.calls[i]? = some q) (hne : i ≠ k) :
    q.inside = false := by
  cases hq : q.inside with
  | false => rfl
  | true => exact absurd (h.unique i k q p hi hk hq hp) hne

/-- What a call that is not inside has to do does not depend on the data. -/
theorem Remains.of_outside {d' m m' : σ} {q : Pc π α ρ ε} (h : Remains S seq d m q)
    (hq : q.inside = false) : Remains S seq d' m' q := by
  cases q with
  | lock a => exact h
  | returned a r => trivial
  | body a p | unlock a r | faulted a e => cases hq

/-- A step of a call inside, or one that takes the lock, by which the call stays inside. -/
theorem Excludes.set_inside (h : Excludes S seq d₀ log d s) {k : ℕ} {p p' : Pc π α ρ ε} {m : σ}
    (hk : s.calls[k]? = some p) (hp : p.result = none) (hp' : p'.inside = true)
    (hcall : p'.call = p.call)
    (hothers : ∀ i q, s.calls[i]? = some q → i ≠ k → q.inside = false)
    (hremains : Remains S seq d m p') :
    Excludes S seq d₀ log d ⟨⟨true, m⟩, s.calls.set k p'⟩ := by
  have hresult : p'.result = p.result := by
    rw [hp]
    cases p' with
    | returned a r => cases hp'
    | lock a | body a q | unlock a r | faulted a e => rfl
  have hnew : p' ∈ s.calls.set k p' := List.mem_set (List.getElem?_eq_some_iff.mp hk).1 p'
  refine ⟨⟨h.toLogged.silent hk hcall hresult fun _ _ _ _ => rfl, nofun⟩, ?_,
    ⟨fun _ => ⟨p', hnew, hp'⟩, fun _ => rfl⟩, ?_⟩
  · intro q hq
    obtain ⟨i, hi⟩ := List.mem_iff_getElem?.mp hq
    rcases getElem?_set_cases hi with ⟨-, rfl⟩ | ⟨hne, hold⟩
    · exact hremains
    · exact (h.remains q (List.mem_of_getElem? hold)).of_outside (hothers i q hold hne)
  · intro i j q q' hi hj hq hq'
    have hisk : ∀ {i : ℕ} {q : Pc π α ρ ε}, (s.calls.set k p')[i]? = some q → q.inside = true →
        i = k := by
      intro i q hi hq
      rcases getElem?_set_cases hi with ⟨hik, -⟩ | ⟨hne, hold⟩
      · exact hik
      · rw [hothers i q hold hne] at hq
        cases hq
    rw [hisk hi hq, hisk hj hq']

/-- Releasing the lock logs the call. -/
theorem Excludes.unlock (h : Excludes S seq d₀ log d s) {k : ℕ} {a : α} {r : ρ}
    (hk : s.calls[k]? = some (.unlock a r)) :
    Excludes S seq d₀ (log ++ [(k, a, r)]) s.shared.data
      ⟨⟨false, s.shared.data⟩, s.calls.set k (.returned a r)⟩ := by
  have hstep : seq d a = .ok (r, s.shared.data) := h.remains _ (List.mem_of_getElem? hk)
  have hothers : ∀ i q, s.calls[i]? = some q → i ≠ k → q.inside = false :=
    fun i q hi hne => h.outside hk rfl hi hne
  have hout : ∀ q ∈ s.calls.set k (.returned a r), q.inside = false := by
    intro q hq
    obtain ⟨i, hi⟩ := List.mem_iff_getElem?.mp hq
    rcases getElem?_set_cases hi with ⟨-, rfl⟩ | ⟨hne, hold⟩
    · rfl
    · exact hothers i q hold hne
  have hlogged : Logged seq d₀ Pc.call (fun _ p => p.result) (log ++ [(k, a, r)]) s.shared.data
      (⟨⟨false, s.shared.data⟩, s.calls.set k (.returned a r)⟩ : Pool (Locked σ) (Pc π α ρ ε)) :=
    h.toLogged.commit hk rfl rfl hstep rfl fun _ _ _ _ => rfl
  refine ⟨⟨hlogged, fun _ => rfl⟩, ?_, ?_, ?_⟩
  · intro q hq
    obtain ⟨i, hi⟩ := List.mem_iff_getElem?.mp hq
    rcases getElem?_set_cases hi with ⟨-, rfl⟩ | ⟨hne, hold⟩
    · trivial
    · exact (h.remains q (List.mem_of_getElem? hold)).of_outside (hothers i q hold hne)
  · refine ⟨nofun, ?_⟩
    rintro ⟨q, hq, hin⟩
    rw [hout q hq] at hin
    cases hin
  · intro i j q q' hi _ hq _
    rw [hout q (List.mem_of_getElem? hi)] at hq
    cases hq

/-- A call that needs no lock is logged when it begins. -/
theorem Excludes.start_skip (h : Excludes S seq d₀ log d s) {a : α} {r : ρ}
    (hstep : seq d a = .ok (r, d)) :
    Excludes S seq d₀ (log ++ [(s.calls.length, a, r)]) d
      { s with calls := s.calls ++ [.returned a r] } := by
  have hseq : seq d (Pc.returned a r : Pc π α ρ ε).call = .ok (r, d) := hstep
  refine ⟨⟨h.toLogged.start_commit hseq rfl, h.free⟩, ?_, ?_, ?_⟩
  · intro q hq
    rcases List.mem_append.mp hq with hold | hlast
    · exact h.remains q hold
    · rw [List.mem_singleton.mp hlast]
      trivial
  · rw [h.locked_iff]
    constructor
    · rintro ⟨q, hq, hin⟩
      exact ⟨q, List.mem_append_left _ hq, hin⟩
    · rintro ⟨q, hq, hin⟩
      rcases List.mem_append.mp hq with hold | hlast
      · exact ⟨q, hold, hin⟩
      · rw [List.mem_singleton.mp hlast] at hin
        cases hin
  · intro i j p q hi hj hp hq
    rcases getElem?_concat_cases hi with ⟨-, rfl⟩ | hi
    · cases hp
    · rcases getElem?_concat_cases hj with ⟨-, rfl⟩ | hj
      · cases hq
      · exact h.unique i j p q hi hj hp hq

/-- A call that needs the lock begins to wait for it. -/
theorem Excludes.start_lock (h : Excludes S seq d₀ log d s) {a : α} (hskip : S.skip a = none) :
    Excludes S seq d₀ log d { s with calls := s.calls ++ [.lock a] } := by
  refine ⟨⟨h.toLogged.start (p := .lock a) rfl, h.free⟩, ?_, ?_, ?_⟩
  · intro q hq
    rcases List.mem_append.mp hq with hold | hlast
    · exact h.remains q hold
    · rw [List.mem_singleton.mp hlast]
      exact hskip
  · rw [h.locked_iff]
    constructor
    · rintro ⟨q, hq, hin⟩
      exact ⟨q, List.mem_append_left _ hq, hin⟩
    · rintro ⟨q, hq, hin⟩
      rcases List.mem_append.mp hq with hold | hlast
      · exact ⟨q, hold, hin⟩
      · rw [List.mem_singleton.mp hlast] at hin
        cases hin
  · intro i j p q hi hj hp hq
    rcases getElem?_concat_cases hi with ⟨-, rfl⟩ | hi
    · cases hp
    · rcases getElem?_concat_cases hj with ⟨-, rfl⟩ | hj
      · cases hq
      · exact h.unique i j p q hi hj hp hq

/-- Every event keeps the invariant. -/
theorem Excludes.next (h : Excludes S seq d₀ log d s) (hS : S.Implements seq)
    (e : Event α Unit) : ∃ d', Excludes S seq d₀ (S.note log s e) d' (S.program.next s e) := by
  cases e with
  | start a =>
    show ∃ d', Excludes S seq d₀ (S.note log s (.start a)) d'
      { s with calls := s.calls ++ [S.start a] }
    rw [note, start]
    cases hskip : S.skip a with
    | some r => exact ⟨d, h.start_skip (hS.skip d a r hskip)⟩
    | none => exact ⟨d, h.start_lock hskip⟩
  | step k c =>
    cases hk : s.calls[k]? with
    | none =>
      rw [Program.next_step_of_none (by rw [hk, Option.bind_none]), note, hk]
      exact ⟨d, h⟩
    | some p =>
      have hp := h.remains p (List.mem_of_getElem? hk)
      have hothers : p.inside = true → ∀ i q, s.calls[i]? = some q → i ≠ k → q.inside = false :=
        fun hin i q hi hne => h.outside hk hin hi hne
      rw [note, hk]
      cases p with
      | lock a =>
        cases hlocked : s.shared.locked with
        | true =>
          have hwaits : S.program.step c s.shared (.lock a) = none := by
            show S.step s.shared (.lock a) = none
            rw [step, if_pos hlocked]
          rw [Program.next_step_of_none (by rw [hk, Option.bind_some, hwaits])]
          exact ⟨d, h⟩
        | false =>
          have htakes : S.program.step c s.shared (.lock a)
              = some (⟨true, s.shared.data⟩, .body a (S.enter a)) := by
            show S.step s.shared (.lock a) = _
            rw [step, hlocked]
            rfl
          rw [Program.next_step hk htakes]
          refine ⟨d, h.set_inside hk rfl rfl rfl ?_ ?_⟩
          · intro i q hi _
            cases hq : q.inside with
            | false => rfl
            | true =>
              have htaken := h.locked_iff.mpr ⟨q, List.mem_of_getElem? hi, hq⟩
              rw [hlocked] at htaken
              cases htaken
          · rw [h.free hlocked]
            exact hS.body d a hp
      | body a p =>
        have hlocked := h.locked_iff.mpr ⟨_, List.mem_of_getElem? hk, rfl⟩
        have hstep : S.program.step c s.shared (.body a p) = S.step s.shared (.body a p) := rfl
        rw [step] at hstep
        cases hbody : S.body s.shared.data p with
        | error e =>
          rw [hbody] at hstep
          rw [Program.next_step hk hstep, show s.shared = ⟨true, s.shared.data⟩ by rw [← hlocked]]
          exact ⟨d, h.set_inside hk rfl rfl rfl (hothers rfl) (Eval.eq_error hp hbody)⟩
        | ok x =>
          obtain ⟨m, p' | r⟩ := x
          · rw [hbody] at hstep
            rw [Program.next_step hk hstep, hlocked]
            exact ⟨d, h.set_inside hk rfl rfl rfl (hothers rfl) (Eval.rest hp hbody)⟩
          · rw [hbody] at hstep
            rw [Program.next_step hk hstep, hlocked]
            exact ⟨d, h.set_inside hk rfl rfl rfl (hothers rfl) (Eval.eq_ok hp hbody)⟩
      | unlock a r =>
        rw [Program.next_step hk (show S.program.step c s.shared (.unlock a r)
          = some (⟨false, s.shared.data⟩, .returned a r) from rfl)]
        exact ⟨_, h.unlock hk⟩
      | returned a r =>
        rw [Program.next_step_of_none (by rw [hk]; rfl)]
        exact ⟨d, h⟩
      | faulted a e =>
        rw [Program.next_step_of_none (by rw [hk]; rfl)]
        exact ⟨d, h⟩

theorem excludes_pool (S : Section σ π α ρ ε) (seq : σ → α → Except ε (ρ × σ)) (d : σ) :
    Excludes S seq d [] d (pool d) :=
  ⟨⟨Logged.init seq d _ _ _, fun _ => rfl⟩, nofun, ⟨nofun, nofun⟩, nofun⟩

theorem exists_excludes (hS : S.Implements seq) (d : σ) (es : List (Event α Unit)) :
    ∃ d', Excludes S seq d (S.log d es) d' (S.program.run (pool d) es) := by
  have hnext : ∀ log s e, (∃ d', Excludes S seq d log d' s) →
      ∃ d', Excludes S seq d (S.note log s e) d' (S.program.next s e) := by
    rintro log s e ⟨d', h⟩
    exact h.next hS e
  exact Program.observe_inv hnext ⟨d, excludes_pool S seq d⟩ es

/-- **Calls that hold a lock take effect one after the other**: after every run the logged calls are
those that returned, each with the result the sequential machine gives it in the order of the log,
and the data under the free lock are the state the machine is in. -/
theorem serves_run (hS : S.Implements seq) (d : σ) (es : List (Event α Unit)) :
    ∃ d', Serves seq d (S.log d es) d' (S.program.run (pool d) es) := by
  obtain ⟨d', h⟩ := exists_excludes hS d es
  exact ⟨d', h.toServes⟩

theorem note_grows (log : List (ℕ × α × ρ)) (s : Pool (Locked σ) (Pc π α ρ ε))
    (e : Event α Unit) : log <+: S.note log s e := by
  unfold note
  split
  · split
    · exact List.prefix_append _ _
    · exact List.prefix_rfl
  · split
    · exact List.prefix_append _ _
    · exact List.prefix_rfl

/-- The log grows at its end: a call that has returned comes before every call that begins later. -/
theorem log_grows (d : σ) (es es' : List (Event α Unit)) : S.log d es <+: S.log d (es ++ es') :=
  @Program.observe_grows _ _ _ _ _ S.program S.note _ id note_grows [] (pool d) es es'

/-! ### Progress

A machine that faults on some calls may be one that does not on those which are made: `Adm` says
which. -/

variable {Adm : α → Prop}

theorem call_of_step {m m' : Locked σ} {p p' : Pc π α ρ ε} (h : S.step m p = some (m', p')) :
    p'.call = p.call := by
  cases p with
  | lock a =>
    rw [step] at h
    split_ifs at h
    cases h
    rfl
  | body a p =>
    rw [step] at h
    split at h <;> cases h <;> rfl
  | unlock a r => cases h; rfl
  | returned a r | faulted a e => cases h

/-- A step changes no call into another. -/
theorem countP_next_step (s : Pool (Locked σ) (Pc π α ρ ε)) (k : ℕ) (f : α → Bool) :
    (S.program.next s (.step k ())).calls.countP (fun p => f p.call)
      = s.calls.countP fun p => f p.call := by
  rcases Program.next_cases (P := S.program) s (.step k ()) with
    ⟨a, he, -⟩ | ⟨i, c, p, m, p', -, hk, hp, hnext⟩ | hnext
  · cases he
  · have hcount := countP_set hk (fun p => f p.call) p'
    rw [call_of_step hp] at hcount
    rw [hnext]
    exact Nat.add_right_cancel hcount
  · rw [hnext]

/-- The calls of a pool are those that were begun. -/
theorem adm_of_run {es : List (Event α Unit)} (hes : ∀ a, .start a ∈ es → Adm a)
    (hs : ∀ p ∈ s.calls, Adm p.call) : ∀ p ∈ (S.program.run s es).calls, Adm p.call := by
  induction es generalizing s with
  | nil => exact hs
  | cons e es ih =>
    refine ih (fun a ha => hes a (List.mem_cons_of_mem _ ha)) ?_
    rcases Program.next_cases s e with ⟨a, rfl, hnext⟩ | ⟨k, c, p, m, p', -, hk, hp, hnext⟩ | hnext
    · rw [hnext]
      intro q hq
      rcases List.mem_append.mp hq with hold | hlast
      · exact hs q hold
      · have hadm := hes a List.mem_cons_self
        rw [List.mem_singleton.mp hlast]
        show Adm (S.start a).call
        unfold start
        split <;> exact hadm
    · rw [hnext]
      intro q hq
      obtain ⟨i, hi⟩ := List.mem_iff_getElem?.mp hq
      rcases getElem?_set_cases hi with ⟨-, rfl⟩ | ⟨-, hold⟩
      · rw [call_of_step hp]
        exact hs p (List.mem_of_getElem? hk)
      · exact hs q (List.mem_of_getElem? hold)
    · rw [hnext]
      exact hs

/-- A machine that answers every list of calls answers one more call. -/
theorem Serves.answers (h : Serves seq d₀ log d s) (hs : ∀ p ∈ s.calls, Adm p.call)
    (hsafe : ∀ as, (∀ a ∈ as, Adm a) → ∃ x, run seq d₀ as = .ok x) {a : α} (ha : Adm a) :
    ∃ r d', seq d a = .ok (r, d') := by
  obtain ⟨⟨os, d'⟩, hrun⟩ := hsafe ((log.map fun e => e.2.1) ++ [a]) (by
    intro b hb
    rcases List.mem_append.mp hb with hb | hb
    · obtain ⟨⟨k, b', r⟩, hentry, rfl⟩ := List.mem_map.mp hb
      exact hs _ (List.mem_of_getElem? ((h.returned_iff k b' r).mpr hentry))
    · rw [List.mem_singleton.mp hb]
      exact ha)
  obtain ⟨os₁, d₁, os₂, hrun₁, hrun₂, -⟩ := run_append_eq_ok.mp hrun
  rw [h.run_eq] at hrun₁
  cases hrun₁
  obtain ⟨r, hstep, -⟩ := run_singleton_eq_ok.mp hrun₂
  exact ⟨r, d', hstep⟩

/-- No call faults unless the machine does. -/
theorem Excludes.not_faulted (h : Excludes S seq d₀ log d s) (hs : ∀ p ∈ s.calls, Adm p.call)
    (hsafe : ∀ as, (∀ a ∈ as, Adm a) → ∃ x, run seq d₀ as = .ok x) (a : α) (e : ε) :
    .faulted a e ∉ s.calls := by
  intro hmem
  have hfaults : seq d a = .error e := h.remains _ hmem
  obtain ⟨r, d', hstep⟩ := h.answers hs hsafe (hs _ hmem)
  rw [show (Pc.faulted a e : Pc π α ρ ε).call = a from rfl, hfaults] at hstep
  cases hstep

/-- The rest of a body that runs alone releases the lock. -/
theorem Eval.steps {m m' : σ} {p : π} {r : ρ} (h : S.Eval m p (.ok (r, m'))) (a : α) :
    S.program.Steps (⟨true, m⟩, .body a p) (⟨false, m'⟩, .returned a r) := by
  generalize hx : (Except.ok (r, m') : Except ε (ρ × σ)) = x at h
  induction h with
  | fault _ => cases hx
  | @done d d' p r' hbody =>
    cases hx
    have hlast : S.step ⟨true, d⟩ (.body a p) = some (⟨true, m'⟩, .unlock a r) := by
      rw [step, hbody]
    exact Program.Steps.head (c := ()) hlast
      (Program.Steps.head (c := ()) (show S.step ⟨true, m'⟩ (.unlock a r) = _ from rfl) .refl)
  | @more d d' p p' x hbody _ ih =>
    have hmore : S.step ⟨true, d⟩ (.body a p) = some (⟨true, d'⟩, .body a p') := by
      rw [step, hbody]
    exact Program.Steps.head (c := ()) hmore (ih hx)

/-- A call inside can run to its end without the others. -/
theorem Excludes.inside_steps (h : Excludes S seq d₀ log d s) (hs : ∀ p ∈ s.calls, Adm p.call)
    (hsafe : ∀ as, (∀ a ∈ as, Adm a) → ∃ x, run seq d₀ as = .ok x) {p : Pc π α ρ ε}
    (hp : p ∈ s.calls) (hin : p.inside = true) :
    ∃ m a r, S.program.Steps (s.shared, p) (m, .returned a r) := by
  have hlocked := h.locked_iff.mpr ⟨p, hp, hin⟩
  have hshared : s.shared = ⟨true, s.shared.data⟩ := by rw [← hlocked]
  have hremains := h.remains p hp
  rw [hshared]
  cases p with
  | lock a | returned a r => cases hin
  | body a p =>
    obtain ⟨r, d', hstep⟩ := h.answers hs hsafe (hs _ hp)
    have heval : S.Eval s.shared.data p (seq d a) := hremains
    rw [show seq d a = _ from hstep] at heval
    exact ⟨_, a, r, heval.steps a⟩
  | unlock a r =>
    exact ⟨_, a, r, Program.Steps.head (c := ())
      (show S.step ⟨true, s.shared.data⟩ (.unlock a r) = _ from rfl) .refl⟩
  | faulted a e => exact absurd hp (h.not_faulted hs hsafe a e)

/-- As long as some call has not returned, one of them can run to its end without the others. -/
theorem Excludes.exists_steps (h : Excludes S seq d₀ log d s) (hS : S.Implements seq)
    (hs : ∀ p ∈ s.calls, Adm p.call)
    (hsafe : ∀ as, (∀ a ∈ as, Adm a) → ∃ x, run seq d₀ as = .ok x) {q : Pc π α ρ ε}
    (hq : q ∈ s.calls) (hpending : q.hasReturned = false) :
    ∃ p ∈ s.calls, p.hasReturned = false ∧
      ∃ m a r, S.program.Steps (s.shared, p) (m, .returned a r) := by
  cases hlocked : s.shared.locked with
  | true =>
    obtain ⟨p, hp, hin⟩ := h.locked_iff.mp hlocked
    refine ⟨p, hp, ?_, h.inside_steps hs hsafe hp hin⟩
    cases p with
    | returned a r => cases hin
    | lock a | body a p | unlock a r | faulted a e => rfl
  | false =>
    have hout : q.inside = false := by
      cases hin : q.inside with
      | false => rfl
      | true =>
        rw [h.locked_iff.mpr ⟨q, hq, hin⟩] at hlocked
        cases hlocked
    refine ⟨q, hq, hpending, ?_⟩
    cases q with
    | returned a r => cases hpending
    | body a p | unlock a r | faulted a e => cases hout
    | lock a =>
      have hskip : S.skip a = none := h.remains _ hq
      obtain ⟨r, d', hstep⟩ := h.answers hs hsafe (hs _ hq)
      have heval := hS.body d a hskip
      rw [show seq d a = _ from hstep, ← h.free hlocked] at heval
      have htakes : S.step s.shared (.lock a)
          = some (⟨true, s.shared.data⟩, .body a (S.enter a)) := by
        rw [step, hlocked]
        rfl
      exact ⟨_, a, r, Program.Steps.head (c := ()) htakes (heval.steps a)⟩

/-- **No call waits for ever**: from every pool a run reaches, the calls can all return without
another call being made. -/
theorem exists_all_returned (hS : S.Implements seq)
    (hsafe : ∀ as, (∀ a ∈ as, Adm a) → ∃ x, run seq d₀ as = .ok x) {es : List (Event α Unit)}
    (hes : ∀ a, .start a ∈ es → Adm a) :
    ∃ es', (∀ a, .start a ∉ es') ∧
      ∀ p ∈ (S.program.run (pool d₀) (es ++ es')).calls, p.hasReturned = true := by
  -- by the number of calls that have not returned
  generalize hn : (S.program.run (pool d₀) es).calls.countP (fun p => !p.hasReturned) = n
  induction n generalizing es with
  | zero =>
    refine ⟨[], fun _ => List.not_mem_nil, ?_⟩
    intro p hp
    rw [List.append_nil] at hp
    have hnone := List.countP_eq_zero.mp hn p hp
    rwa [Bool.not_eq_true, Bool.not_eq_false'] at hnone
  | succ n ih =>
    obtain ⟨q, hq, hpending⟩ := List.countP_pos_iff.mp (by rw [hn]; exact Nat.succ_pos n)
    obtain ⟨d, h⟩ := exists_excludes hS d₀ es
    have hs := adm_of_run (S := S) (s := pool d₀) hes nofun
    obtain ⟨p, hp, hp', m, a, r, hsteps⟩ :=
      h.exists_steps hS hs hsafe hq (by simpa using hpending)
    obtain ⟨k, hk⟩ := List.mem_iff_getElem?.mp hp
    obtain ⟨cs, hcs⟩ := Program.exists_run_of_steps hsteps hk
    have hrun := @Program.run_append _ _ _ _ S.program (pool d₀) es (cs.map (Event.step k))
    have hcount := countP_set hk (fun p => !p.hasReturned) (.returned a r)
    rw [hp', hn] at hcount
    have hnostart : ∀ b, .start b ∉ cs.map (Event.step (α := α) k) := by
      intro b hb
      obtain ⟨c, -, hc⟩ := List.mem_map.mp hb
      cases hc
    have hes₁ : ∀ b, .start b ∈ es ++ cs.map (Event.step k) → Adm b := by
      intro b hb
      rcases List.mem_append.mp hb with hb | hb
      · exact hes b hb
      · exact absurd hb (hnostart b)
    obtain ⟨es', hnostart', hes'⟩ := ih hes₁ (by
      rw [hrun, hcs]
      exact Nat.add_right_cancel hcount)
    refine ⟨cs.map (Event.step k) ++ es', ?_, ?_⟩
    · intro b hb
      rcases List.mem_append.mp hb with hb | hb
      · exact hnostart b hb
      · exact hnostart' b hb
    · rwa [← List.append_assoc]

end Section

end Mutex
