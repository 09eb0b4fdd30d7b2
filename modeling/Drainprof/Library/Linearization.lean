import Mathlib.Data.List.Nodup
import Mathlib.Data.List.Perm.Subperm
import Drainprof.Library.Interleaving
import Drainprof.Library.Run

/-!
# Interleavings that amount to a sequence of calls

Calls that interleave can still act as if each took effect at once.  A *log* lists, for the calls that
have taken effect, their numbers, what they were and what they return, in the order in which they
did.  `Logged` says that a sequential machine `seq` gives these results when it is run on the log,
and that the log has each call once.

When a call has taken effect its result is settled, although it may return only later; `owed` says
what a call at a point of its program is going to return, if that is settled.  A step by which a call
takes effect extends the log (`Logged.commit`), and every other step must leave what is owed alone
(`Logged.silent`).  A log that grows at its end only (`observe_grows`) keeps the order of calls that
do not overlap.
-/

namespace Interleaving

open Transition

variable {σ π α χ ρ δ ε γ : Type}

/-- The sequential machine, started in `d₀`, gives the logged results on the logged calls and is then
in state `d`.  The logged calls are those whose result is settled. -/
structure Logged (seq : δ → α → Except ε (ρ × δ)) (d₀ : δ) (call : π → α)
    (owed : σ → π → Option ρ) (log : List (ℕ × α × ρ)) (d : δ) (s : Pool σ π) : Prop where
  run_eq : run seq d₀ (log.map fun e => e.2.1) = .ok (log.map fun e => e.2.2, d)
  nodup : (log.map Prod.fst).Nodup
  owed_iff : ∀ (k : ℕ) (a : α) (r : ρ),
    (∃ p, s.calls[k]? = some p ∧ call p = a ∧ owed s.shared p = some r) ↔ (k, a, r) ∈ log

namespace Logged

variable {seq : δ → α → Except ε (ρ × δ)} {d₀ d d' : δ} {call : π → α} {owed : σ → π → Option ρ}
  {log : List (ℕ × α × ρ)} {s : Pool σ π} {k : ℕ} {p p' : π} {m : σ} {r : ρ}

theorem init (seq : δ → α → Except ε (ρ × δ)) (d : δ) (call : π → α) (owed : σ → π → Option ρ)
    (m : σ) : Logged seq d call owed [] d ⟨m, []⟩ := by
  refine ⟨rfl, List.nodup_nil, ?_⟩
  intro k a r
  constructor
  · rintro ⟨p, hp, -⟩
    cases hp
  · intro h
    cases h

/-- A call that is not logged can be logged next. -/
theorem concat (h : Logged seq d₀ call owed log d s) (hnew : ∀ a r, (k, a, r) ∉ log) {a : α}
    (hseq : seq d a = .ok (r, d')) :
    run seq d₀ ((log ++ [(k, a, r)]).map fun e => e.2.1)
        = .ok ((log ++ [(k, a, r)]).map fun e => e.2.2, d') ∧
      ((log ++ [(k, a, r)]).map Prod.fst).Nodup := by
  constructor
  · rw [List.map_append, List.map_append, run_append_eq_ok]
    exact ⟨_, _, _, h.run_eq, run_singleton_eq_ok.mpr ⟨r, hseq, rfl⟩, rfl⟩
  · rw [List.map_append, List.map_singleton, List.nodup_append_comm, List.singleton_append,
      List.nodup_cons]
    refine ⟨?_, h.nodup⟩
    intro hmem
    obtain ⟨⟨k', a', r'⟩, hentry, rfl⟩ := List.mem_map.mp hmem
    exact hnew a' r' hentry

/-- The steps of other calls leave what a call owes alone. -/
theorem owed_set (hk : s.calls[k]? = some p)
    (hothers : ∀ (i : ℕ) (q : π), i ≠ k → s.calls[i]? = some q → owed m q = owed s.shared q)
    {i : ℕ} {a : α} : (∃ q, (s.calls.set k p')[i]? = some q ∧ call q = a ∧ owed m q = some r) ↔
      (i = k ∧ call p' = a ∧ owed m p' = some r) ∨
      (i ≠ k ∧ ∃ q, s.calls[i]? = some q ∧ call q = a ∧ owed s.shared q = some r) := by
  constructor
  · rintro ⟨q, hi, hcall, howed⟩
    rcases getElem?_set_cases hi with ⟨rfl, rfl⟩ | ⟨hne, hold⟩
    · exact Or.inl ⟨rfl, hcall, howed⟩
    · rw [hothers i q hne hold] at howed
      exact Or.inr ⟨hne, q, hold, hcall, howed⟩
  · rintro (⟨rfl, hcall, howed⟩ | ⟨hne, q, hold, hcall, howed⟩)
    · exact ⟨p', List.getElem?_set_self (List.getElem?_eq_some_iff.mp hk).1, hcall, howed⟩
    · rw [← hothers i q hne hold] at howed
      exact ⟨q, by rw [List.getElem?_set_ne (Ne.symm hne), hold], hcall, howed⟩

/-- A step that settles nothing. -/
theorem silent (h : Logged seq d₀ call owed log d s) (hk : s.calls[k]? = some p)
    (hcall : call p' = call p) (hown : owed m p' = owed s.shared p)
    (hothers : ∀ (i : ℕ) (q : π), i ≠ k → s.calls[i]? = some q → owed m q = owed s.shared q) :
    Logged seq d₀ call owed log d ⟨m, s.calls.set k p'⟩ := by
  refine ⟨h.run_eq, h.nodup, ?_⟩
  intro i a r
  rw [← h.owed_iff, owed_set hk hothers]
  constructor
  · rintro (⟨rfl, hcall', howed⟩ | ⟨-, hold⟩)
    · exact ⟨p, hk, by rw [← hcall, hcall'], by rw [← hown, howed]⟩
    · exact hold
  · rintro ⟨q, hi, hcall', howed⟩
    by_cases hik : i = k
    · subst hik
      rw [hk, Option.some.injEq] at hi
      subst hi
      exact Or.inl ⟨rfl, by rw [hcall, hcall'], by rw [hown, howed]⟩
    · exact Or.inr ⟨hik, q, hi, hcall', howed⟩

/-- A step by which a call takes effect. -/
theorem commit (h : Logged seq d₀ call owed log d s) (hk : s.calls[k]? = some p)
    (hcall : call p' = call p) (hbefore : owed s.shared p = none)
    (hseq : seq d (call p) = .ok (r, d')) (hafter : owed m p' = some r)
    (hothers : ∀ (i : ℕ) (q : π), i ≠ k → s.calls[i]? = some q → owed m q = owed s.shared q) :
    Logged seq d₀ call owed (log ++ [(k, call p, r)]) d' ⟨m, s.calls.set k p'⟩ := by
  have hnew : ∀ a r, (k, a, r) ∉ log := by
    intro a r hmem
    obtain ⟨q, hq, -, howed⟩ := (h.owed_iff k a r).mpr hmem
    rw [hk, Option.some.injEq] at hq
    subst hq
    rw [hbefore] at howed
    cases howed
  obtain ⟨hrun, hnodup⟩ := h.concat hnew hseq
  refine ⟨hrun, hnodup, ?_⟩
  intro i a r'
  rw [owed_set hk hothers, List.mem_append, List.mem_singleton, ← h.owed_iff]
  constructor
  · rintro (⟨rfl, hcall', howed⟩ | ⟨-, hold⟩)
    · rw [hafter, Option.some.injEq] at howed
      rw [← hcall', hcall, howed]
      exact Or.inr rfl
    · exact Or.inl hold
  · rintro (⟨q, hi, hcall', howed⟩ | heq)
    · refine Or.inr ⟨?_, q, hi, hcall', howed⟩
      rintro rfl
      exact hnew a r' ((h.owed_iff i a r').mp ⟨q, hi, hcall', howed⟩)
    · cases heq
      exact Or.inl ⟨rfl, hcall, hafter⟩

/-- What a call that begins adds to what is owed. -/
theorem owed_append {p : π} {i : ℕ} {a : α} :
    (∃ q, (s.calls ++ [p])[i]? = some q ∧ call q = a ∧ owed s.shared q = some r) ↔
      (i = s.calls.length ∧ call p = a ∧ owed s.shared p = some r) ∨
      ∃ q, s.calls[i]? = some q ∧ call q = a ∧ owed s.shared q = some r := by
  constructor
  · rintro ⟨q, hi, hcall, howed⟩
    rcases getElem?_concat_cases hi with ⟨rfl, rfl⟩ | hold
    · exact Or.inl ⟨rfl, hcall, howed⟩
    · exact Or.inr ⟨q, hold, hcall, howed⟩
  · rintro (⟨rfl, hcall, howed⟩ | ⟨q, hold, hcall, howed⟩)
    · exact ⟨p, List.getElem?_concat_length, hcall, howed⟩
    · refine ⟨q, ?_, hcall, howed⟩
      rw [List.getElem?_append_left (List.getElem?_eq_some_iff.mp hold).1, hold]

/-- A call begins, and nothing is settled. -/
theorem start (h : Logged seq d₀ call owed log d s) (hown : owed s.shared p = none) :
    Logged seq d₀ call owed log d { s with calls := s.calls ++ [p] } := by
  refine ⟨h.run_eq, h.nodup, ?_⟩
  intro i a r
  rw [← h.owed_iff, owed_append]
  constructor
  · rintro (⟨-, -, howed⟩ | hold)
    · rw [hown] at howed
      cases howed
    · exact hold
  · exact Or.inr

/-- A call takes effect when it begins. -/
theorem start_commit (h : Logged seq d₀ call owed log d s) (hseq : seq d (call p) = .ok (r, d'))
    (hown : owed s.shared p = some r) :
    Logged seq d₀ call owed (log ++ [(s.calls.length, call p, r)]) d'
      { s with calls := s.calls ++ [p] } := by
  have hnew : ∀ a r, (s.calls.length, a, r) ∉ log := by
    intro a r hmem
    obtain ⟨q, hq, -⟩ := (h.owed_iff _ a r).mpr hmem
    exact absurd (List.getElem?_eq_some_iff.mp hq).1 (Nat.lt_irrefl _)
  obtain ⟨hrun, hnodup⟩ := h.concat hnew hseq
  refine ⟨hrun, hnodup, ?_⟩
  intro i a r'
  rw [owed_append, List.mem_append, List.mem_singleton, ← h.owed_iff]
  constructor
  · rintro (⟨rfl, rfl, howed⟩ | hold)
    · rw [hown, Option.some.injEq] at howed
      rw [howed]
      exact Or.inr rfl
    · exact Or.inl hold
  · rintro (hold | heq)
    · exact Or.inr hold
    · cases heq
      exact Or.inl ⟨rfl, rfl, hown⟩

/-- The numbers of the calls with some property. -/
theorem countP_range (calls : List π) (f : π → Bool) :
    (List.range calls.length).countP (fun k => calls[k]?.any f) = calls.countP f := by
  have hcalls : (List.range calls.length).map (fun k => calls[k]?) = calls.map some := by
    apply List.ext_getElem
    · rw [List.length_map, List.length_map, List.length_range]
    · intro i hi hi'
      rw [List.length_map] at hi'
      rw [List.getElem_map, List.getElem_map, List.getElem_range, List.getElem?_eq_getElem hi']
  have hcount := congrArg (List.countP fun p : Option π => p.any f) hcalls
  rw [List.countP_map, List.countP_map] at hcount
  exact hcount

/-- The log has as many calls with some property as have taken effect in the pool. -/
theorem countP_eq (h : Logged seq d₀ call owed log d s) (f : α → Bool) :
    log.countP (fun e => f e.2.1)
      = s.calls.countP fun p => f (call p) && (owed s.shared p).isSome := by
  have hlogged : ((log.filter fun e => f e.2.1).map Prod.fst).Nodup :=
    h.nodup.sublist (List.filter_sublist.map Prod.fst)
  have hperm : ((log.filter fun e => f e.2.1).map Prod.fst).Perm
      ((List.range s.calls.length).filter fun k =>
        s.calls[k]?.any fun p => f (call p) && (owed s.shared p).isSome) := by
    refine (List.perm_ext_iff_of_nodup hlogged (List.nodup_range.filter _)).mpr ?_
    intro k
    rw [List.mem_map, List.mem_filter, List.mem_range, Option.any_eq_true]
    constructor
    · rintro ⟨⟨k, a, r⟩, hentry, rfl⟩
      obtain ⟨hentry, hf⟩ := List.mem_filter.mp hentry
      obtain ⟨p, hp, rfl, howed⟩ := (h.owed_iff k a r).mpr hentry
      refine ⟨(List.getElem?_eq_some_iff.mp hp).1, p, hp, ?_⟩
      rw [howed, Option.isSome_some, Bool.and_true]
      exact hf
    · rintro ⟨-, p, hp, hfp⟩
      obtain ⟨hf, hsome⟩ := Bool.and_eq_true_iff.mp hfp
      obtain ⟨r, howed⟩ := Option.isSome_iff_exists.mp hsome
      exact ⟨(k, call p, r), List.mem_filter.mpr
        ⟨(h.owed_iff k (call p) r).mp ⟨p, hp, rfl, howed⟩, hf⟩, rfl⟩
  rw [← countP_range s.calls, List.countP_eq_length_filter, List.countP_eq_length_filter,
    ← hperm.length_eq, List.length_map]

/-- A call that has not taken effect is not counted in the log. -/
theorem countP_lt (h : Logged seq d₀ call owed log d s) (f : α → Bool) (hp : p ∈ s.calls)
    (hf : f (call p) = true) (howed : owed s.shared p = none) :
    log.countP (fun e => f e.2.1) < s.calls.countP fun p => f (call p) := by
  have hsplit : s.calls.countP (fun p => f (call p))
      = (s.calls.countP fun p => f (call p) && (owed s.shared p).isSome)
        + s.calls.countP fun p => f (call p) && !(owed s.shared p).isSome := by
    rw [List.countP_eq_countP_filter_add _ _ fun p => (owed s.shared p).isSome, List.countP_filter,
      List.countP_filter]
  have hpos : 0 < s.calls.countP fun p => f (call p) && !(owed s.shared p).isSome := by
    refine List.countP_pos_iff.mpr ⟨p, hp, ?_⟩
    rw [hf, howed]
    rfl
  rw [h.countP_eq, hsplit]
  omega

theorem countP_le (h : Logged seq d₀ call owed log d s) (f : α → Bool) :
    log.countP (fun e => f e.2.1) ≤ s.calls.countP fun p => f (call p) := by
  rw [h.countP_eq]
  exact List.countP_mono_left fun p _ hp => (Bool.and_eq_true_iff.mp hp).1

end Logged

namespace Program

variable (P : Program σ π α χ) (call : π → α) (owed : σ → π → Option ρ)

/-- A call is entered into the log by the event that settles its result. -/
def noteSettled (log : List (ℕ × α × ρ)) (s : Pool σ π) : Event α χ → List (ℕ × α × ρ)
  | .start a =>
    match owed s.shared (P.start a) with
    | some r => log ++ [(s.calls.length, call (P.start a), r)]
    | none => log
  | .step k c =>
    match s.calls[k]? with
    | none => log
    | some p =>
      match owed s.shared p, P.step c s.shared p with
      | none, some (m, p') =>
        match owed m p' with
        | some r => log ++ [(k, call p, r)]
        | none => log
      | _, _ => log

variable {P call owed} {log : List (ℕ × α × ρ)} {s : Pool σ π} {k : ℕ} {c : χ} {p p' : π} {m : σ}
  {r : ρ}

theorem noteSettled_start {a : α} (howed : owed s.shared (P.start a) = none) :
    P.noteSettled call owed log s (.start a) = log := by
  rw [noteSettled, howed]

theorem noteSettled_commit (hk : s.calls[k]? = some p) (hstep : P.step c s.shared p = some (m, p'))
    (hbefore : owed s.shared p = none) (hafter : owed m p' = some r) :
    P.noteSettled call owed log s (.step k c) = log ++ [(k, call p, r)] := by
  rw [noteSettled, hk]
  dsimp only
  rw [hbefore, hstep]
  dsimp only
  rw [hafter]

theorem noteSettled_silent (hk : s.calls[k]? = some p) (hstep : P.step c s.shared p = some (m, p'))
    (howed : owed m p' = owed s.shared p) :
    P.noteSettled call owed log s (.step k c) = log := by
  rw [noteSettled, hk]
  dsimp only
  cases hbefore : owed s.shared p with
  | some r => rfl
  | none =>
    rw [hbefore] at howed
    rw [hstep]
    dsimp only
    rw [howed]

theorem noteSettled_of_none (hk : s.calls[k]?.bind (P.step c s.shared) = none) :
    P.noteSettled call owed log s (.step k c) = log := by
  rw [noteSettled]
  cases hcall : s.calls[k]? with
  | none => rfl
  | some p =>
    rw [hcall, Option.bind_some] at hk
    dsimp only
    rw [hk]
    cases owed s.shared p <;> rfl

theorem noteSettled_grows (log : List (ℕ × α × ρ)) (s : Pool σ π) (e : Event α χ) :
    log <+: P.noteSettled call owed log s e := by
  unfold noteSettled
  repeat' split
  all_goals first
    | exact List.prefix_rfl
    | exact List.prefix_append _ _

end Program

/-- An observer that only adds to its log has a longer log later. -/
theorem Program.observe_grows {P : Program σ π α χ} {note : γ → Pool σ π → Event α χ → γ}
    {β : Type} {log : γ → List β} (hnote : ∀ g s e, log g <+: log (note g s e)) (g : γ)
    (s : Pool σ π) (es es' : List (Event α χ)) :
    log (P.observe note g s es) <+: log (P.observe note g s (es ++ es')) := by
  rw [Program.observe_append]
  have hnext : ∀ g' t e, log (P.observe note g s es) <+: log g' →
      log (P.observe note g s es) <+: log (note g' t e) := by
    intro g' t e h
    exact h.trans (hnote g' t e)
  exact @Program.observe_inv σ π α χ γ P (P.run s es) note
    (fun g' _ => log (P.observe note g s es) <+: log g') hnext _ List.prefix_rfl es'

end Interleaving
