import Mathlib.Algebra.Order.Field.Basic
import Mathlib.Algebra.Order.Ring.Rat
import Mathlib.Algebra.Field.Rat
import Drainprof.AtomicCounters
import Drainprof.Equiv.Counters

/-!
# Snapshots under concurrency

A snapshot loads the counters one after another, the total first, while closes increment the total
first and then the counter of their class.  An observer of one snapshot call counts the closes that
are between these two increments when the total is loaded, and the increments of either class counter
from then until that counter is loaded.  The snapshot's classes add up to at most its total exactly
when the former are at least as many as the latter (`snapshot_consistent_iff`).
-/

namespace Drainprof

open Interleaving

/-! ### What the closes have counted -/

/-- The call is a close that has incremented the total, but not the counter of its class. -/
def CounterPc.between : CounterPc → Bool
  | .closeAddClass _ => true
  | _ => false

/-- The call is a close that has incremented the counter of its class. -/
def CounterPc.counted (drainable : Bool) : CounterPc → Bool
  | .closeLogTotal d => d == drainable
  | .closeLogDrainable d _ => d == drainable
  | .closeLogPinned d _ _ => d == drainable
  | .returned (.granuleClose (some d)) _ => d == drainable
  | _ => false

/-- The number of closes between their two increments. -/
def betweenCount (calls : List CounterPc) : ℕ :=
  calls.countP CounterPc.between

/-- The number of closes of a class that have been counted as such. -/
def countedCount (drainable : Bool) (calls : List CounterPc) : ℕ :=
  calls.countP (CounterPc.counted drainable)

theorem counts_le (calls : List CounterPc) :
    betweenCount calls + countedCount true calls + countedCount false calls ≤ calls.length := by
  unfold betweenCount countedCount
  induction calls with
  | nil => exact Nat.le_refl _
  | cons p ps ih =>
    rw [List.countP_cons, List.countP_cons, List.countP_cons, List.length_cons]
    -- at most one of the three predicates holds of a call
    have hone : (if p.between = true then 1 else 0) + (if p.counted true = true then 1 else 0)
        + (if p.counted false = true then 1 else 0) ≤ 1 := by
      cases p with
      | closeAddClass d => exact Nat.le_refl 1
      | closeLogTotal d => cases d <;> exact Nat.le_refl 1
      | closeLogDrainable d total => cases d <;> exact Nat.le_refl 1
      | closeLogPinned d total drainable => cases d <;> exact Nat.le_refl 1
      | returned call ret =>
        cases call with
        | granuleClose drainable =>
          cases drainable with
          | none => exact Nat.zero_le _
          | some d => cases d <;> exact Nat.le_refl 1
        | _ => exact Nat.zero_le _
      | _ => exact Nat.zero_le _
    omega

/-- The three counters of closes agree with the calls. -/
structure Tallied (c : Counters) (calls : List CounterPc) : Prop where
  total : c.totalCloses.toNat
    = betweenCount calls + countedCount true calls + countedCount false calls
  drainable : c.drainableCloses.toNat = countedCount true calls
  pinned : c.pinnedCloses.toNat = countedCount false calls

/-! ### One step -/

/-- What a step does to the closes: one of the two increments of a close, or nothing that concerns
them. -/
theorem counterStep_tally {logInterval : UInt64} {b : Bool} {c c' : Counters} {p p' : CounterPc}
    (h : counterStep logInterval b c p = some (c', p')) :
    (∃ d, p = .closeAddTotal d ∧ p' = .closeAddClass d ∧
        c' = { c with totalCloses := c.totalCloses + 1 }) ∨
      (∃ d, p = .closeAddClass d ∧ p'.between = false ∧ (∀ e, p'.counted e = (d == e)) ∧
        c' = if d then { c with drainableCloses := c.drainableCloses + 1 }
          else { c with pinnedCloses := c.pinnedCloses + 1 }) ∨
      ((∀ d, p ≠ .closeAddClass d) ∧ p'.between = p.between ∧ (∀ e, p'.counted e = p.counted e) ∧
        c'.totalCloses = c.totalCloses ∧ c'.drainableCloses = c.drainableCloses ∧
        c'.pinnedCloses = c.pinnedCloses) := by
  cases p with
  | openExchange open_ peak =>
    rw [counterStep] at h
    split_ifs at h
    all_goals
      cases h
      exact Or.inr (Or.inr ⟨nofun, rfl, fun _ => rfl, rfl, rfl, rfl⟩)
  | closeAddTotal d =>
    cases h
    exact Or.inl ⟨d, rfl, rfl, rfl⟩
  | closeAddClass d =>
    cases h
    refine Or.inr (Or.inl ⟨d, rfl, ?_, ?_, rfl⟩)
    · split_ifs <;> rfl
    · intro e
      split_ifs <;> rfl
  | closeLogTotal d =>
    cases h
    refine Or.inr (Or.inr ⟨nofun, ?_, ?_, rfl, rfl, rfl⟩)
    · split_ifs <;> rfl
    · intro e
      split_ifs <;> rfl
  | returned call ret => cases h
  | _ =>
    cases h
    exact Or.inr (Or.inr ⟨nofun, rfl, fun _ => rfl, rfl, rfl, rfl⟩)

section Steps

variable {logInterval : UInt64} {b : Bool} {calls : List CounterPc} {k : ℕ} {p p' : CounterPc}
  {c c' : Counters}

theorem countedCount_set (hk : calls[k]? = some p) (d : Bool) (p' : CounterPc) :
    countedCount d (calls.set k p') + (if p.counted d then 1 else 0)
      = countedCount d calls + (if p'.counted d then 1 else 0) :=
  countP_set hk (CounterPc.counted d) p'

theorem betweenCount_set (hk : calls[k]? = some p) (p' : CounterPc) :
    betweenCount (calls.set k p') + (if p.between then 1 else 0)
      = betweenCount calls + (if p'.between then 1 else 0) :=
  countP_set hk CounterPc.between p'

theorem toNat_increment {x : UInt64} {n : ℕ} (hx : x.toNat = n) (hlt : n + 1 < 2 ^ 64) :
    (x + 1).toNat = n + 1 := by
  rw [UInt64.toNat_add, hx]
  exact Nat.mod_eq_of_lt hlt

/-- How many closes a step counts. -/
theorem countedCount_step (hk : calls[k]? = some p)
    (hstep : counterStep logInterval b c p = some (c', p')) (d : Bool) :
    countedCount d (calls.set k p')
      = countedCount d calls + (if p = .closeAddClass d then 1 else 0) := by
  have hset := countedCount_set hk d p'
  rcases counterStep_tally hstep with ⟨e, rfl, rfl, -⟩ | ⟨e, rfl, -, hc, -⟩ | ⟨hne, -, hc, -⟩
  · simpa [CounterPc.counted] using hset
  · rw [hc] at hset
    simpa [CounterPc.counted] using hset
  · rw [hc] at hset
    rw [if_neg (hne d)]
    omega

/-- With fewer than `2 ^ 64` calls no counter wraps. -/
theorem Tallied.step (h : Tallied c calls) (hfew : calls.length < 2 ^ 64) (hk : calls[k]? = some p)
    (hstep : counterStep logInterval b c p = some (c', p')) : Tallied c' (calls.set k p') := by
  have hbetween := betweenCount_set hk p'
  have htrue := countedCount_step hk hstep true
  have hfalse := countedCount_step hk hstep false
  have hle := counts_le calls
  have hle' := counts_le (calls.set k p')
  rw [List.length_set] at hle'
  obtain ⟨htotal, hdrainable, hpinned⟩ := h
  rcases counterStep_tally hstep with ⟨d, rfl, rfl, rfl⟩ | ⟨d, rfl, hb, -, rfl⟩ |
    ⟨hne, hb, -, ht, hd, hp⟩
  · -- the total is incremented, and the close is between its increments
    simp only [CounterPc.between, Bool.false_eq_true, if_true, if_false, reduceCtorEq]
      at hbetween htrue hfalse
    refine ⟨?_, by rw [hdrainable]; omega, by rw [hpinned]; omega⟩
    rw [toNat_increment htotal (by omega)]
    omega
  · rw [hb] at hbetween
    cases d with
    | true =>
      simp only [CounterPc.between, Bool.false_eq_true, if_true, if_false, CounterPc.closeAddClass.injEq,
        Bool.true_eq_false] at hbetween htrue hfalse
      refine ⟨?_, ?_, ?_⟩
      · show c.totalCloses.toNat = _
        omega
      · show (c.drainableCloses + 1).toNat = _
        rw [toNat_increment hdrainable (by omega)]
        omega
      · show c.pinnedCloses.toNat = _
        omega
    | false =>
      simp only [CounterPc.between, Bool.false_eq_true, if_true, if_false, CounterPc.closeAddClass.injEq]
        at hbetween htrue hfalse
      refine ⟨?_, ?_, ?_⟩
      · show c.totalCloses.toNat = _
        omega
      · show c.drainableCloses.toNat = _
        omega
      · show (c.pinnedCloses + 1).toNat = _
        rw [toNat_increment hpinned (by omega)]
        omega
  · rw [hb] at hbetween
    rw [if_neg (hne true)] at htrue
    rw [if_neg (hne false)] at hfalse
    refine ⟨?_, ?_, ?_⟩
    · rw [ht, htotal]
      omega
    · rw [hd, hdrainable]
      omega
    · rw [hp, hpinned]
      omega

end Steps

/-! ### What an observer of a snapshot sees -/

/-- What happens around the loads of one snapshot: the closes between their two increments when it
loads the total, and the increments from then until it loads `drainable_closes` and
`pinned_closes`. -/
structure Window where
  between : ℕ
  drainable : ℕ
  pinned : ℕ
  deriving DecidableEq, Repr

/-- The call that is observed takes a step. -/
def Window.load (w : Window) (calls : List CounterPc) : CounterPc → Window
  | .snapshotTotal _ => ⟨betweenCount calls, 0, 0⟩
  | _ => w

/-- The call that is observed is at the first point, and another call takes a step from the
second. -/
def Window.count (w : Window) : CounterPc → CounterPc → Window
  | .snapshotDrainable _, .closeAddClass true => { w with drainable := w.drainable + 1 }
  | .snapshotDrainable _, .closeAddClass false => { w with pinned := w.pinned + 1 }
  | .snapshotPinned _, .closeAddClass false => { w with pinned := w.pinned + 1 }
  | _, _ => w

/-- The observer of call number `k`. -/
def Window.note (k : ℕ) (w : Window) (s : Pool Counters CounterPc) :
    Interleaving.Event CounterCall Bool → Window
  | .start _ => w
  | .step j _ =>
    match s.calls[k]?, s.calls[j]? with
    | some q, some p => if j = k then w.load s.calls p else w.count q p
    | _, _ => w

/-- The window of call number `k` in a run of a new profiler. -/
def snapshotWindow (logInterval : UInt64) (k : ℕ)
    (es : List (Interleaving.Event CounterCall Bool)) : Window :=
  (counterProgram logInterval).observe (Window.note k) ⟨0, 0, 0⟩ counterPool es

/-- The three counters of a snapshot, in terms of its window. -/
def Snapshot.Fits (w : Window) (out : Snapshot) : Prop :=
  out.totalCloses.toNat + w.drainable + w.pinned
    = w.between + out.drainableCloses.toNat + out.pinnedCloses.toNat

/-- What the counters that the observed call has loaded so far say of its window, while
`drainable` and `pinned` closes have been counted. -/
def CounterPc.Fits (w : Window) (drainable pinned : ℕ) : CounterPc → Prop
  | .snapshotDrainable out =>
    out.totalCloses.toNat + w.drainable + w.pinned = w.between + drainable + pinned
  | .snapshotPinned out =>
    out.totalCloses.toNat + w.drainable + w.pinned
      = w.between + out.drainableCloses.toNat + pinned
  | .snapshotOpen out => out.Fits w
  | .snapshotPeak out => out.Fits w
  | .snapshotAllocs out => out.Fits w
  | .snapshotDeallocs out => out.Fits w
  | .returned _ (.snapshot out) =>
    out.Fits w ∧ out.dsr = dsrOf out.drainableCloses out.totalCloses
  | _ => True

theorem CounterCall.start_fits (a : CounterCall) (w : Window) (n m : ℕ) : a.start.Fits w n m := by
  cases a with
  | granuleOpen result =>
    rw [CounterCall.start]
    split_ifs <;> trivial
  | granuleClose drainable => cases drainable <;> trivial
  | _ => trivial

theorem CounterCall.start_uncounted (a : CounterCall) :
    a.start.between = false ∧ ∀ d, a.start.counted d = false := by
  cases a with
  | granuleOpen result =>
    rw [CounterCall.start]
    split_ifs <;> exact ⟨rfl, fun _ => rfl⟩
  | granuleClose drainable => cases drainable <;> exact ⟨rfl, fun _ => rfl⟩
  | _ => exact ⟨rfl, fun _ => rfl⟩

section Observed

variable {logInterval : UInt64} {b : Bool} {calls : List CounterPc} {k j : ℕ}
  {p p' q : CounterPc} {c c' : Counters} {w : Window}

/-- The observed call itself takes a step. -/
theorem CounterPc.Fits.load (h : p.Fits w (countedCount true calls) (countedCount false calls))
    (htally : Tallied c calls) (hj : calls[j]? = some p)
    (hstep : counterStep logInterval b c p = some (c', p')) :
    p'.Fits (w.load calls p) (countedCount true (calls.set j p'))
      (countedCount false (calls.set j p')) := by
  by_cases hclass : ∃ d, p = .closeAddClass d
  · -- a close, of which nothing is said
    obtain ⟨d, rfl⟩ := hclass
    cases hstep
    split_ifs <;> trivial
  · have hne : ∀ d, p ≠ .closeAddClass d := fun d hd => hclass ⟨d, hd⟩
    have hcount : ∀ d, countedCount d (calls.set j p') = countedCount d calls := by
      intro d
      rw [countedCount_step hj hstep, if_neg (hne d), Nat.add_zero]
    rw [hcount, hcount]
    cases p with
    | snapshotTotal out =>
      cases hstep
      show c.totalCloses.toNat + 0 + 0 = _
      rw [htally.total]
      rfl
    | snapshotDrainable out =>
      cases hstep
      show out.totalCloses.toNat + w.drainable + w.pinned
        = w.between + c.drainableCloses.toNat + countedCount false calls
      rw [htally.drainable]
      exact h
    | snapshotPinned out =>
      cases hstep
      show out.totalCloses.toNat + w.drainable + w.pinned
        = w.between + out.drainableCloses.toNat + c.pinnedCloses.toNat
      rw [htally.pinned]
      exact h
    | snapshotOpen out => cases hstep; exact h
    | snapshotPeak out => cases hstep; exact h
    | snapshotAllocs out => cases hstep; exact h
    | snapshotDeallocs out => cases hstep; exact ⟨h, rfl⟩
    | openExchange open_ peak =>
      rw [counterStep] at hstep
      split_ifs at hstep
      all_goals
        cases hstep
        trivial
    | closeAddClass d => exact absurd rfl (hne d)
    | closeLogTotal d =>
      cases hstep
      split_ifs <;> trivial
    | returned call ret => cases hstep
    | _ => cases hstep; trivial

/-- Another call takes a step. -/
theorem CounterPc.Fits.count (h : q.Fits w (countedCount true calls) (countedCount false calls))
    (hj : calls[j]? = some p) (hstep : counterStep logInterval b c p = some (c', p')) :
    q.Fits (w.count q p) (countedCount true (calls.set j p'))
      (countedCount false (calls.set j p')) := by
  have htrue := countedCount_step hj hstep true
  have hfalse := countedCount_step hj hstep false
  by_cases hclass : ∃ d, p = .closeAddClass d
  · obtain ⟨d, rfl⟩ := hclass
    cases q with
    | snapshotDrainable out =>
      cases d with
      | true =>
        simp only [if_true, if_false, CounterPc.closeAddClass.injEq, Bool.true_eq_false] at htrue hfalse
        simp only [CounterPc.Fits, Window.count] at h ⊢
        omega
      | false =>
        simp only [if_true, if_false, CounterPc.closeAddClass.injEq, Bool.false_eq_true] at htrue hfalse
        simp only [CounterPc.Fits, Window.count] at h ⊢
        omega
    | snapshotPinned out =>
      cases d with
      | true =>
        simp only [if_false, CounterPc.closeAddClass.injEq, Bool.true_eq_false] at hfalse
        simp only [CounterPc.Fits, Window.count] at h ⊢
        omega
      | false =>
        simp only [if_true] at hfalse
        simp only [CounterPc.Fits, Window.count] at h ⊢
        omega
    | returned call ret => cases ret <;> exact h
    | _ => exact h
  · -- nothing is counted
    have hne : ∀ d, p ≠ .closeAddClass d := fun d hd => hclass ⟨d, hd⟩
    rw [if_neg (hne true), Nat.add_zero] at htrue
    rw [if_neg (hne false), Nat.add_zero] at hfalse
    have hw : w.count q p = w := by
      unfold Window.count
      split
      · exact absurd rfl (hne true)
      · exact absurd rfl (hne false)
      · exact absurd rfl (hne false)
      · rfl
    rw [hw, htrue, hfalse]
    exact h

end Observed

/-- Of fewer than `2 ^ 64` calls, the closes are tallied and call number `k` fits its window. -/
def Window.Explains (k : ℕ) (w : Window) (s : Pool Counters CounterPc) : Prop :=
  s.calls.length < 2 ^ 64 → Tallied s.shared s.calls ∧ ∀ q, s.calls[k]? = some q →
    q.Fits w (countedCount true s.calls) (countedCount false s.calls)

section Run

variable {logInterval : UInt64} {k : ℕ} {w : Window} {s : Pool Counters CounterPc}

theorem Window.Explains.start (h : w.Explains k s) (a : CounterCall) :
    w.Explains k { s with calls := s.calls ++ [a.start] } := by
  intro hfew
  have hlength : s.calls.length < 2 ^ 64 := by
    rw [List.length_append] at hfew
    omega
  obtain ⟨htally, hfits⟩ := h hlength
  obtain ⟨hbetween, hcounted⟩ := a.start_uncounted
  -- a call that begins has counted nothing
  have hb : betweenCount (s.calls ++ [a.start]) = betweenCount s.calls := by
    rw [betweenCount, List.countP_append, List.countP_singleton, hbetween]
    rfl
  have hc : ∀ d, countedCount d (s.calls ++ [a.start]) = countedCount d s.calls := by
    intro d
    rw [countedCount, List.countP_append, List.countP_singleton, hcounted d]
    rfl
  dsimp only
  refine ⟨⟨?_, ?_, ?_⟩, ?_⟩
  · rw [hb, hc, hc]
    exact htally.total
  · rw [hc]
    exact htally.drainable
  · rw [hc]
    exact htally.pinned
  · intro q hq
    rw [hc, hc]
    rcases Nat.lt_or_ge k s.calls.length with hlt | hge
    · rw [List.getElem?_append_left hlt] at hq
      exact hfits q hq
    · rw [List.getElem?_append_right hge, List.getElem?_singleton] at hq
      split_ifs at hq
      cases hq
      exact a.start_fits w _ _

theorem Window.Explains.step (h : w.Explains k s) (j : ℕ) (b : Bool) :
    (w.note k s (.step j b)).Explains k ((counterProgram logInterval).next s (.step j b)) := by
  cases hj : s.calls[j]? with
  | none =>
    have hnote : w.note k s (.step j b) = w := by
      rw [note, hj]
      cases s.calls[k]? <;> rfl
    have hnext : (counterProgram logInterval).next s (.step j b) = s :=
      Program.next_step_of_none (by rw [hj, Option.bind_none])
    rw [hnote, hnext]
    exact h
  | some p =>
    cases hstep : counterStep logInterval b s.shared p with
    | none =>
      -- only a call that has returned takes no step, and it is not noted
      have hnext : (counterProgram logInterval).next s (.step j b) = s :=
        Program.next_step_of_none (by rw [hj, Option.bind_some]; exact hstep)
      have hnote : w.note k s (.step j b) = w := by
        cases p with
        | returned call ret =>
          rw [note, hj]
          cases hk : s.calls[k]? with
          | none => rfl
          | some q =>
            dsimp only
            split_ifs
            · rfl
            · cases q <;> rfl
        | openExchange open_ peak =>
          rw [counterStep] at hstep
          split_ifs at hstep
        | _ => cases hstep
      rw [hnote, hnext]
      exact h
    | some r =>
      obtain ⟨c', p'⟩ := r
      have hnext : (counterProgram logInterval).next s (.step j b) = ⟨c', s.calls.set j p'⟩ :=
        Program.next_step hj hstep
      rw [hnext]
      intro hfew
      rw [List.length_set] at hfew
      obtain ⟨htally, hfits⟩ := h hfew
      refine ⟨htally.step hfew hj hstep, ?_⟩
      intro q' hq'
      by_cases hjk : j = k
      · subst hjk
        have hlt : j < s.calls.length := (List.getElem?_eq_some_iff.mp hj).1
        rw [List.getElem?_set_self hlt, Option.some.injEq] at hq'
        have hnote : w.note j s (.step j b) = w.load s.calls p := by
          rw [note, hj]
          exact if_pos rfl
        rw [hnote, ← hq']
        exact (hfits p hj).load htally hj hstep
      · rw [List.getElem?_set_ne hjk] at hq'
        have hnote : w.note k s (.step j b) = w.count q' p := by
          rw [note, hj, hq']
          exact if_neg hjk
        rw [hnote]
        exact (hfits q' hq').count hj hstep

theorem Window.Explains.next (h : w.Explains k s) (e : Interleaving.Event CounterCall Bool) :
    (w.note k s e).Explains k ((counterProgram logInterval).next s e) := by
  cases e with
  | start a => exact h.start a
  | step j b => exact h.step j b

theorem snapshotWindow_explains (es : List (Interleaving.Event CounterCall Bool)) :
    (snapshotWindow logInterval k es).Explains k
      ((counterProgram logInterval).run counterPool es) := by
  have hinit : (⟨0, 0, 0⟩ : Window).Explains k counterPool := by
    intro _
    refine ⟨⟨rfl, rfl, rfl⟩, ?_⟩
    intro p hp
    cases hp
  have hnext : ∀ (w : Window) (s : Pool Counters CounterPc) (e : Interleaving.Event CounterCall Bool),
      w.Explains k s → (w.note k s e).Explains k ((counterProgram logInterval).next s e) :=
    fun _ _ e h => h.next e
  exact Program.observe_inv hnext hinit es

end Run

/-! ### Consistent snapshots -/

/-- The classes of a snapshot add up to at most its total, and its DSR is between `0` and `1`. -/
def Snapshot.Consistent (out : Snapshot) : Prop :=
  out.drainableCloses.toNat + out.pinnedCloses.toNat ≤ out.totalCloses.toNat ∧
    0 ≤ out.dsr ∧ out.dsr ≤ 1

/-- A quotient of a part by the whole is between `0` and `1`, also when it is rounded, by any rounding
that is monotone and keeps `0` and `1`. -/
theorem roundedDsr_mem {round : ℚ → ℚ} (hround : Monotone round) (hzero : round 0 = 0)
    (hone : round 1 = 1) {drainable total : UInt64} (h : drainable.toNat ≤ total.toNat) :
    0 ≤ roundedDsr round drainable total ∧ roundedDsr round drainable total ≤ 1 := by
  unfold roundedDsr
  split_ifs with hpos
  · have hnonneg : 0 ≤ round drainable.toNat := by
      rw [← hzero]
      exact hround (Nat.cast_nonneg _)
    have hpos' : 0 < round total.toNat := by
      have htotal : (1 : ℚ) ≤ total.toNat := by
        exact_mod_cast Nat.succ_le_of_lt (UInt64.lt_iff_toNat_lt.mp hpos)
      calc (0 : ℚ) < round 1 := by rw [hone]; exact zero_lt_one
        _ ≤ round total.toNat := hround htotal
    have hle : round drainable.toNat ≤ round total.toNat := hround (by exact_mod_cast h)
    constructor
    · rw [← hzero]
      exact hround (div_nonneg hnonneg hpos'.le)
    · rw [← hone]
      exact hround ((div_le_one hpos').mpr hle)
  · exact ⟨le_refl _, zero_le_one⟩

theorem dsrOf_mem {drainable total : UInt64} (h : drainable.toNat ≤ total.toNat) :
    0 ≤ dsrOf drainable total ∧ dsrOf drainable total ≤ 1 :=
  roundedDsr_mem monotone_id rfl rfl h

/-- The DSR of a consistent snapshot is between `0` and `1` as the code rounds it, too. -/
theorem Snapshot.Consistent.rounded {out : Snapshot} (h : out.Consistent) {round : ℚ → ℚ}
    (hround : Monotone round) (hzero : round 0 = 0) (hone : round 1 = 1) :
    0 ≤ roundedDsr round out.drainableCloses out.totalCloses ∧
      roundedDsr round out.drainableCloses out.totalCloses ≤ 1 :=
  roundedDsr_mem hround hzero hone ((Nat.le_add_right _ _).trans h.1)

/-- **A snapshot is consistent** exactly when the closes that were between their two increments when
it loaded `total_closes` are at least as many as the class increments it can have seen since. -/
theorem snapshot_consistent_iff {logInterval : UInt64}
    {es : List (Interleaving.Event CounterCall Bool)} {k : ℕ} {call : CounterCall} {out : Snapshot}
    (hfew : ((counterProgram logInterval).run counterPool es).calls.length < 2 ^ 64)
    (hreturned : ((counterProgram logInterval).run counterPool es).calls[k]?
      = some (.returned call (.snapshot out))) :
    out.Consistent ↔ (snapshotWindow logInterval k es).drainable
      + (snapshotWindow logInterval k es).pinned ≤ (snapshotWindow logInterval k es).between := by
  obtain ⟨-, hfits⟩ := snapshotWindow_explains es hfew
  obtain ⟨hwindow, hdsr⟩ := hfits _ hreturned
  rw [Snapshot.Fits] at hwindow
  constructor
  · rintro ⟨hsum, -⟩
    omega
  · intro hle
    have hsum : out.drainableCloses.toNat + out.pinnedCloses.toNat ≤ out.totalCloses.toNat := by
      omega
    refine ⟨hsum, ?_⟩
    rw [hdsr]
    exact dsrOf_mem (by omega)

/-- A close of a drainable granule has incremented the total when a snapshot loads it, and its class
before the snapshot loads that. -/
def coveredRun : List (Interleaving.Event CounterCall Bool) :=
  [.start (.granuleClose (some true)), .step 0 false, .step 0 false, .start (.snapshot default),
    .step 1 false, .step 0 false, .step 1 false, .step 1 false, .step 1 false, .step 1 false,
    .step 1 false, .step 1 false]

theorem snapshot_consistent_covered :
    ∃ call out, ((counterProgram 0).run counterPool coveredRun).calls[1]?
        = some (.returned call (.snapshot out)) ∧
      snapshotWindow 0 1 coveredRun = ⟨1, 1, 0⟩ ∧ out.Consistent :=
  ⟨_, _, rfl, by decide, (@snapshot_consistent_iff 0 coveredRun 1 _ _ (by decide) rfl).mpr
    (by decide)⟩

/-- The snapshot loads the total after one close of a drainable granule, and `drainable_closes` after
a second one. -/
def tornRun : List (Interleaving.Event CounterCall Bool) :=
  [.start (.granuleClose (some true)), .step 0 false, .step 0 false, .step 0 false,
    .start (.snapshot default), .step 1 false, .start (.granuleClose (some true)), .step 2 false,
    .step 2 false, .step 2 false, .step 1 false, .step 1 false, .step 1 false, .step 1 false,
    .step 1 false, .step 1 false]

/-- The torn snapshot has two drainable closes of a total of one. -/
theorem snapshot_torn :
    ¬∀ (logInterval : UInt64) (es : List (Interleaving.Event CounterCall Bool)) (k : ℕ)
      (call : CounterCall) (out : Snapshot),
      ((counterProgram logInterval).run counterPool es).calls[k]?
        = some (.returned call (.snapshot out)) → out.Consistent := by
  intro h
  obtain ⟨hsum, -⟩ := h 0 tornRun 1 _ _ rfl
  exact absurd hsum (by decide)

end Drainprof
