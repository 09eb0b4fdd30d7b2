import Mathlib.Algebra.Order.Group.Multiset
import Mathlib.Algebra.BigOperators.Group.List.Basic
import Mathlib.Data.Finset.Insert
import Mathlib.Data.Finset.Erase
import Mathlib.Tactic.Abel
import Drainprof.Library.Run

/-!
# Programs that allocate and free blocks

A `Memory` knows which blocks have been allocated and not yet freed.  A block is never allocated
twice, so a program that frees a block again, or uses it after that, fails.

`Realizes P p x R Q` says that the program `p` does what the computation `x` does, and accounts for its
blocks: it starts with the blocks `P` of its own and ends with the blocks `Q`, and all other blocks
stay as they are.  There is one rule for each way to put a program together, and `run_realizes` for runs.
A program that starts and ends with no blocks of its own leaks nothing (`Realizes.live_eq`).
-/

namespace Ownership

/-- What a pointer to the start of a block identifies. -/
abbrev Block := ℕ

/-- The blocks that are allocated.  Blocks are numbered in the order of their allocation. -/
structure Memory where
  live : Finset Block
  next : Block
  lt_next : ∀ b ∈ live, b < next

namespace Memory

/-- Nothing is allocated. -/
def empty : Memory :=
  ⟨∅, 0, fun _ hb => absurd hb (Finset.notMem_empty _)⟩

/-- One more block is allocated, the block `m.next`. -/
def alloc (m : Memory) : Memory where
  live := insert m.next m.live
  next := m.next + 1
  lt_next b hb := by
    rcases Finset.mem_insert.mp hb with rfl | hb
    · exact Nat.lt_succ_self _
    · exact Nat.lt_succ_of_lt (m.lt_next b hb)

/-- Block `b` is freed. -/
def free (m : Memory) (b : Block) : Memory where
  live := m.live.erase b
  next := m.next
  lt_next b' hb' := m.lt_next b' (Finset.mem_of_mem_erase hb')

theorem val_alloc (m : Memory) : m.alloc.live.val = {m.next} + m.live.val := by
  have hfresh : m.next ∉ m.live := fun h => Nat.lt_irrefl _ (m.lt_next _ h)
  exact Finset.insert_val_of_notMem hfresh

theorem val_free {m : Memory} {b : Block} {F : Multiset Block} (h : m.live.val = {b} + F) :
    (m.free b).live.val = F := by
  have herase : (m.free b).live.val = m.live.val.erase b := Finset.erase_val _ _
  rw [herase, h, Multiset.singleton_add, Multiset.erase_cons_head]

theorem mem_of_val {m : Memory} {b : Block} {P F : Multiset Block} (h : m.live.val = P + F)
    (hb : b ∈ P) : b ∈ m.live := by
  apply Finset.mem_def.mpr
  rw [h]
  exact Multiset.mem_add.mpr (Or.inl hb)

end Memory

/-! ### Programs -/

/-- A program that works on the memory and may fail. -/
abbrev Prog (ε α : Type) := StateT Memory (Except ε) α

section Programs

variable {ε α β σ ι ο : Type}

/-- A computation that has nothing to do with memory. -/
def eval (x : Except ε α) : Prog ε α :=
  fun m => x.map fun a => (a, m)

/-- A new block, or `none` for `NULL`. -/
def malloc (succeeds : Bool) : Prog ε (Option Block) :=
  fun m => if succeeds then .ok (some m.next, m.alloc) else .ok (none, m)

/-- Block `b` is freed; this fails with `e` if it is not allocated. -/
def free (e : ε) (b : Block) : Prog ε Unit :=
  fun m => if b ∈ m.live then .ok ((), m.free b) else .error e

/-- Block `b` is read or written; this fails with `e` if it is not allocated. -/
def use (e : ε) (b : Block) : Prog ε Unit :=
  fun m => if b ∈ m.live then .ok ((), m) else .error e

/-- Block `b` is given another size.  A request of zero bytes frees it, and otherwise it moves. -/
def realloc (e : ε) (b : Block) (zero succeeds : Bool) : Prog ε (Option Block) :=
  if zero then do
    free e b
    pure none
  else if succeeds then do
    free e b
    malloc true
  else do
    use e b
    pure none

/-- The outputs of `step` on a list of inputs, in order, and the state reached. -/
def run (step : σ → ι → Prog ε (ο × σ)) : σ → List ι → Prog ε (List ο × σ)
  | s, [] => pure ([], s)
  | s, i :: is => do
    let (o, s) ← step s i
    let (os, s) ← run step s is
    pure (o :: os, s)

end Programs

/-! ### What a program computes, and the blocks it owns -/

section Rules

variable {ε α β γ δ : Type} {P Q₀ S : Multiset Block} {p : Prog ε α} {x : Except ε β}
  {R : α → β → Prop} {Q : α → Multiset Block}

/-- Whenever the computation returns, so does the program, with a related result; it had the blocks `P`
and has the blocks `Q` in the end, and no other block has changed. -/
def Realizes (P : Multiset Block) (p : Prog ε α) (x : Except ε β) (R : α → β → Prop)
    (Q : α → Multiset Block) : Prop :=
  ∀ (m : Memory) (F : Multiset Block) (b : β), m.live.val = P + F → x = .ok b →
    ∃ a m', p m = .ok (a, m') ∧ R a b ∧ m'.live.val = Q a + F

namespace Realizes

/-- A program without blocks in the beginning and in the end leaves the memory as it was. -/
theorem live_eq {b : β} (h : Realizes 0 p x R fun _ => 0) (hx : x = .ok b) (m : Memory) :
    ∃ a m', p m = .ok (a, m') ∧ R a b ∧ m'.live = m.live := by
  obtain ⟨a, m', hp, hR, hlive⟩ := h m m.live.val b (zero_add _).symm hx
  rw [zero_add] at hlive
  exact ⟨a, m', hp, hR, Finset.val_inj.mp hlive⟩

theorem pure {a : α} {b : β} (hR : R a b) (hQ : P = Q a) :
    Realizes P (pure a : Prog ε α) (.ok b) R Q := by
  rintro m F _ hm hb
  cases hb
  exact ⟨a, m, rfl, hR, by rw [hm, hQ]⟩

/-- Only the computations that return matter. -/
theorem of_forall (h : ∀ b, x = .ok b → Realizes P p (.ok b) R Q) : Realizes P p x R Q := by
  intro m F b hm hx
  exact h b hx m F b hm rfl

theorem mono {R' : α → β → Prop} {Q' : α → Multiset Block} (h : Realizes P p x R Q)
    (hR : ∀ a b, R a b → R' a b) (hQ : ∀ a b, R a b → Q a = Q' a) : Realizes P p x R' Q' := by
  intro m F b hm hx
  obtain ⟨a, m', hp, ha, hlive⟩ := h m F b hm hx
  exact ⟨a, m', hp, hR a b ha, by rw [hlive, hQ a b ha]⟩

/-- It does not matter how the blocks are listed. -/
theorem of_eq (h : Realizes P p x R Q) (hP : Q₀ = P) : Realizes Q₀ p x R Q := by
  rw [hP]
  exact h

/-- Blocks that a program does not know stay as they are. -/
theorem frame (S : Multiset Block) (h : Realizes P p x R Q) :
    Realizes (P + S) p x R fun a => Q a + S := by
  intro m F b hm hx
  obtain ⟨a, m', hp, ha, hlive⟩ := h m (S + F) b (by rw [hm, add_assoc]) hx
  exact ⟨a, m', hp, ha, by rw [hlive, add_assoc]⟩

/-- A program in two steps; the first step does not need the blocks `S`. -/
theorem bind {f : α → Prog ε γ} {g : β → Except ε δ} {R' : γ → δ → Prop}
    {Q' : γ → Multiset Block} (S : Multiset Block) (hP : Q₀ = P + S) (h : Realizes P p x R Q)
    (hf : ∀ a b, x = .ok b → R a b → Realizes (Q a + S) (f a) (g b) R' Q') :
    Realizes Q₀ (p >>= f) (x >>= g) R' Q' := by
  intro m F d hm hx
  rw [hP] at hm
  cases hb : x with
  | error e =>
    rw [hb] at hx
    cases hx
  | ok b =>
    rw [hb] at hx
    obtain ⟨a, m', hp, hR, hlive⟩ := h.frame S m F b hm hb
    obtain ⟨c, m'', hc, hR', hlive'⟩ := hf a b hb hR m' F d hlive hx
    refine ⟨c, m'', ?_, hR', hlive'⟩
    show (p m >>= fun r => f r.1 r.2) = _
    rw [hp]
    exact hc

/-- A step of the program to which no step of the computation corresponds. -/
theorem step {f : α → Prog ε γ} {y : Except ε δ} {R' : γ → δ → Prop} {Q' : γ → Multiset Block}
    (S : Multiset Block) {b : β} (hP : Q₀ = P + S) (h : Realizes P p (.ok b) R Q)
    (hf : ∀ a, R a b → Realizes (Q a + S) (f a) y R' Q') : Realizes Q₀ (p >>= f) y R' Q' := by
  refine @bind _ _ _ _ _ _ _ _ _ _ _ f (fun _ => y) _ _ S hP h ?_
  intro a b' hb hR
  cases hb
  exact hf a hR

/-- A step of the computation, which the program takes as well. -/
theorem eval {f : β → Prog ε γ} {g : β → Except ε δ} {R' : γ → δ → Prop}
    {Q' : γ → Multiset Block} (h : ∀ b, x = .ok b → Realizes P (f b) (g b) R' Q') :
    Realizes P (eval x >>= f) (x >>= g) R' Q' := by
  intro m F d hm hx
  cases hb : x with
  | error e =>
    rw [hb] at hx
    cases hx
  | ok b =>
    rw [hb] at hx
    exact h b hb m F d hm hx

/-- A computation of the program whose result is known. -/
theorem eval_ok {y : Except ε γ} {c : γ} {f : γ → Prog ε α} (hy : y = .ok c)
    (h : Realizes P (f c) x R Q) : Realizes P (Ownership.eval y >>= f) x R Q := by
  rw [hy]
  exact h

theorem malloc {f : Option Block → Prog ε α} {succeeds : Bool}
    (hnone : succeeds = false → Realizes P (f none) x R Q)
    (hsome : succeeds = true → ∀ b, Realizes ({b} + P) (f (some b)) x R Q) :
    Realizes P (malloc succeeds >>= f) x R Q := by
  intro m F d hm hx
  cases hs : succeeds with
  | false => exact hnone hs m F d hm hx
  | true => exact hsome hs m.next m.alloc F d (by rw [Memory.val_alloc, hm, add_assoc]) hx

theorem use {f : Unit → Prog ε α} {e : ε} {b : Block} (hb : b ∈ P) (h : Realizes P (f ()) x R Q) :
    Realizes P (use e b >>= f) x R Q := by
  intro m F d hm hx
  obtain ⟨a, m', hp, hR, hlive⟩ := h m F d hm hx
  refine ⟨a, m', ?_, hR, hlive⟩
  show ((if b ∈ m.live then .ok ((), m) else .error e) >>= fun r => f r.1 r.2) = _
  rw [if_pos (Memory.mem_of_val hm hb)]
  exact hp

/-- A program that ends by using a block. -/
theorem use_last {e : ε} {b : Block} {d : β} {R : Unit → β → Prop} (hb : b ∈ P) (hR : R () d) :
    Realizes P (Ownership.use e b) (.ok d) R fun _ => P := by
  have h : Realizes P (Ownership.use e b >>= fun u => Pure.pure u) (.ok d) R fun _ => P :=
    use hb (pure hR rfl)
  rwa [bind_pure] at h

theorem free {f : Unit → Prog ε α} {e : ε} {b : Block} (P : Multiset Block) (hP : Q₀ = {b} + P)
    (h : Realizes P (f ()) x R Q) : Realizes Q₀ (free e b >>= f) x R Q := by
  intro m F d hm hx
  rw [hP] at hm
  have hmem : b ∈ m.live :=
    Memory.mem_of_val hm (Multiset.mem_add.mpr (Or.inl (Multiset.mem_singleton_self b)))
  obtain ⟨a, m', hp, hR, hlive⟩ := h (m.free b) F d (Memory.val_free (by rw [hm, add_assoc])) hx
  refine ⟨a, m', ?_, hR, hlive⟩
  show ((if b ∈ m.live then .ok ((), m.free b) else .error e) >>= fun r => f r.1 r.2) = _
  rw [if_pos hmem]
  exact hp

/-- A program that ends by freeing a block. -/
theorem free_last {e : ε} {b : Block} {d : β} {R : Unit → β → Prop} (P : Multiset Block)
    (hP : Q₀ = {b} + P) (hR : R () d) :
    Realizes Q₀ (Ownership.free e b) (.ok d) R fun _ => P := by
  have h : Realizes Q₀ (Ownership.free e b >>= fun u => Pure.pure u) (.ok d) R fun _ => P :=
    free P hP (pure hR rfl)
  rwa [bind_pure] at h

/-- A block that moves is another one from then on. -/
theorem realloc {f : Option Block → Prog ε α} {e : ε} {b : Block} {zero succeeds : Bool}
    (P : Multiset Block) (hP : Q₀ = {b} + P) (hfreed : zero = true → Realizes P (f none) x R Q)
    (hmoved : zero = false → succeeds = true → ∀ b', Realizes ({b'} + P) (f (some b')) x R Q)
    (hfailed : zero = false → succeeds = false → Realizes Q₀ (f none) x R Q) :
    Realizes Q₀ (realloc e b zero succeeds >>= f) x R Q := by
  cases hz : zero with
  | true =>
    rw [Ownership.realloc, if_pos rfl, bind_assoc]
    exact free P hP (hfreed hz)
  | false =>
    rw [Ownership.realloc, if_neg Bool.false_ne_true]
    cases hs : succeeds with
    | true =>
      rw [if_pos rfl, bind_assoc]
      exact free P hP (malloc (fun h => absurd h.symm Bool.false_ne_true) fun _ => hmoved hz hs)
    | false =>
      rw [if_neg Bool.false_ne_true, bind_assoc]
      have hmem : b ∈ Q₀ := by
        rw [hP]
        exact Multiset.mem_add.mpr (Or.inl (Multiset.mem_singleton_self b))
      exact use hmem (hfailed hz hs)

end Realizes

/-- A run realizes a run when a step realizes a step: what the machine owns besides its state, it has
given away with its outputs. -/
theorem run_realizes {σ τ ι ο ο' : Type} {step : σ → ι → Prog ε (ο × σ)}
    {step' : τ → ι → Except ε (ο' × τ)} {Rel : List ι → σ → τ → Prop} {erase : ο → ο'}
    {own : σ → Multiset Block} {given : ο → Multiset Block}
    (hstep : ∀ s t i is, Rel (i :: is) s t → Realizes (own s) (step s i) (step' t i)
      (fun r r' => erase r.1 = r'.1 ∧ Rel is r.2 r'.2) fun r => own r.2 + given r.1) :
    ∀ (is : List ι) (s : σ) (t : τ), Rel is s t →
      Realizes (own s) (run step s is) (Transition.run step' t is)
        (fun r r' => r.1.map erase = r'.1 ∧ Rel [] r.2 r'.2)
        fun r => own r.2 + (r.1.map given).sum := by
  intro is
  induction is with
  | nil =>
    intro s t hrel
    exact Realizes.pure ⟨rfl, hrel⟩ (add_zero _).symm
  | cons i is ih =>
    intro s t hrel m F r hm hrun
    obtain ⟨os', t'⟩ := r
    obtain ⟨o', t₁, os₁, hfirst, hrest, rfl⟩ := Transition.run_cons_eq_ok.mp hrun
    obtain ⟨⟨o, s₁⟩, m₁, hp, ⟨ho, hrel₁⟩, hlive⟩ := hstep s t i is hrel m F _ hm hfirst
    obtain ⟨⟨os, s₂⟩, m₂, hq, ⟨hos, hrel₂⟩, hlive₂⟩ :=
      ih s₁ t₁ hrel₁ m₁ (given o + F) _ (by rw [hlive, add_assoc]) hrest
    refine ⟨(o :: os, s₂), m₂, ?_, ⟨?_, hrel₂⟩, ?_⟩
    · show (step s i m >>= fun r => _) = _
      rw [hp]
      show (run step s₁ is m₁ >>= fun r => _) = _
      rw [hq]
      rfl
    · rw [List.map_cons, ho, hos]
    · dsimp only at hlive₂ ⊢
      rw [hlive₂, List.map_cons, List.sum_cons]
      abel

end Rules

/-! ### Blocks in a list of parts -/

/-- A part that is exchanged takes its own blocks out of the list and puts in those of the new part. -/
theorem sum_set {α : Type} (own : α → Multiset Block) {a : α} {l : List α} {i : ℕ} (hi : i < l.length) :
    ((l.set i a).map own).sum + own l[i] = (l.map own).sum + own a := by
  induction l generalizing i with
  | nil => exact absurd hi (Nat.not_lt_zero i)
  | cons b l ih =>
    cases i with
    | zero =>
      simp only [List.set_cons_zero, List.map_cons, List.sum_cons, List.getElem_cons_zero]
      abel
    | succ i =>
      simp only [List.set_cons_succ, List.map_cons, List.sum_cons, List.getElem_cons_succ]
      rw [add_assoc, ih (Nat.lt_of_succ_lt_succ hi), add_assoc]

/-- The blocks of a list of parts are at most as many as bounds on the parts add up to. -/
theorem card_sum_le {α : Type} (own : α → Multiset Block) {k : α → ℕ} {l : List α}
    (h : ∀ a ∈ l, (own a).card ≤ k a) : (l.map own).sum.card ≤ (l.map k).sum := by
  induction l with
  | nil => exact Nat.zero_le _
  | cons a l ih =>
    rw [List.map_cons, List.sum_cons, Multiset.card_add, List.map_cons, List.sum_cons]
    exact Nat.add_le_add (h a List.mem_cons_self) (ih fun a' ha' => h a' (List.mem_cons_of_mem _ ha'))

theorem card_sum_le_mul {α : Type} (own : α → Multiset Block) {k : ℕ} {l : List α}
    (h : ∀ a ∈ l, (own a).card ≤ k) : (l.map own).sum.card ≤ k * l.length := by
  have hsum := card_sum_le own h
  rwa [List.map_const', List.sum_replicate_nat, Nat.mul_comm] at hsum

end Ownership
