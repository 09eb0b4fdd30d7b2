import Mathlib.Data.List.MinMax
import Mathlib.Order.Nat
import Drainprof.AtomicCounters
import Drainprof.Equiv.Counters

/-!
# The high-water mark under concurrency

`peak_open_granules` is raised by a compare-and-exchange retry loop while other opens raise it and
closes decrement `open_granules`.  A history variable keeps the values `open_granules` had right
after an increment, newest first.  The mark never decreases, is never above the highest of them, and
is that value whenever no open is in flight (`peak_high_water`): an open whose value is above the
mark still carries it.
-/

namespace Drainprof

open Interleaving

/-! ### The history of the increments -/

/-- The values `open_granules` had right after an increment, newest first, read off the counter that
the step of the increment leaves. -/
def noteOpened (logInterval : UInt64) (values : List UInt64) (spurious : Bool) (c : Counters)
    (p : CounterPc) : List UInt64 :=
  match p, counterStep logInterval spurious c p with
  | .openAdd, some (c', _) => c'.openGranules :: values
  | _, _ => values

/-- The calls on the counters, with that history. -/
abbrev peakProgram (logInterval : UInt64) :
    Program (Counters × List UInt64) CounterPc CounterCall Bool :=
  (counterProgram logInterval).withHistory (noteOpened logInterval)

/-- The counters of a new profiler, which have not been incremented. -/
def peakPool : Pool (Counters × List UInt64) CounterPc :=
  ⟨(.zero, []), []⟩

/-- The maximum of the values, `0` if there is none. -/
def highest (values : List UInt64) : ℕ :=
  (values.map UInt64.toNat).foldr max 0

theorem le_highest {values : List UInt64} {v : UInt64} (h : v ∈ values) :
    v.toNat ≤ highest values :=
  List.le_max_of_le (List.mem_map_of_mem h) (Nat.le_refl _)

theorem highest_le {values : List UInt64} {n : ℕ} (h : ∀ v ∈ values, v.toNat ≤ n) :
    highest values ≤ n := by
  apply List.max_le_of_forall_le
  intro x hx
  obtain ⟨v, hv, rfl⟩ := List.mem_map.mp hx
  exact h v hv

theorem highest_mono {values values' : List UInt64} (h : values ⊆ values') :
    highest values ≤ highest values' :=
  highest_le fun _ hv => le_highest (h hv)

/-! ### What a call carries -/

/-- The call is an open that has not returned. -/
def CounterPc.Opening : CounterPc → Prop
  | .openAdd => True
  | .openLoadPeak _ => True
  | .openExchange _ _ => True
  | _ => False

/-- The value an open in flight still has to compare with the mark. -/
def CounterPc.carried : CounterPc → Option UInt64
  | .openLoadPeak open_ => some open_
  | .openExchange open_ _ => some open_
  | _ => none

/-- The mark an open in flight has last seen. -/
def CounterPc.seen : CounterPc → ℕ
  | .openExchange _ peak => peak.toNat
  | _ => 0

theorem CounterPc.opening_of_carried {p : CounterPc} {v : UInt64} (h : p.carried = some v) :
    p.Opening := by
  cases p with
  | openLoadPeak open_ => trivial
  | openExchange open_ peak => trivial
  | _ => cases h

/-- What a step does to the mark: an increment gives its open a value to carry, the loop keeps the
value or drops it when the mark is at least as high. -/
theorem counterStep_peak {logInterval : UInt64} {b : Bool} {c c' : Counters} {p p' : CounterPc}
    (h : counterStep logInterval b c p = some (c', p'))
    (hseen : p.seen ≤ c.peakOpenGranules.toNat) :
    (p = .openAdd ∧ p'.carried = some (c.openGranules + 1) ∧ p'.seen = 0 ∧
        c'.peakOpenGranules = c.peakOpenGranules) ∨
      (p ≠ .openAdd ∧ p'.carried = p.carried ∧ p'.seen ≤ c.peakOpenGranules.toNat ∧
        c'.peakOpenGranules = c.peakOpenGranules) ∨
      ∃ v, p.carried = some v ∧ p'.carried = none ∧ p'.seen = 0 ∧
        c.peakOpenGranules.toNat ≤ c'.peakOpenGranules.toNat ∧
        v.toNat ≤ c'.peakOpenGranules.toNat ∧
        (c'.peakOpenGranules = c.peakOpenGranules ∨ c'.peakOpenGranules = v) := by
  cases p with
  | openAdd =>
    cases h
    exact Or.inl ⟨rfl, rfl, rfl, rfl⟩
  | openLoadPeak open_ =>
    cases h
    exact Or.inr (Or.inl ⟨nofun, rfl, Nat.le_refl _, rfl⟩)
  | openExchange open_ peak =>
    rw [counterStep] at h
    split_ifs at h with hloop hexchange
    · -- the exchange succeeds, on the mark the loop has just compared with
      cases h
      rw [← hexchange.1] at hloop
      have hlt : c.peakOpenGranules.toNat < open_.toNat := UInt64.lt_iff_toNat_lt.mp hloop
      exact Or.inr (Or.inr ⟨open_, rfl, rfl, rfl, Nat.le_of_lt hlt, Nat.le_refl _, Or.inr rfl⟩)
    · -- it fails, and the loop goes on with the current mark
      cases h
      exact Or.inr (Or.inl ⟨nofun, rfl, Nat.le_refl _, rfl⟩)
    · -- the mark the loop has seen is high enough, and it has not decreased since
      cases h
      have hle : open_.toNat ≤ peak.toNat := by
        have hnot : ¬peak.toNat < open_.toNat := fun hlt => hloop (UInt64.lt_iff_toNat_lt.mpr hlt)
        omega
      exact Or.inr (Or.inr
        ⟨open_, rfl, rfl, rfl, Nat.le_refl _, Nat.le_trans hle hseen, Or.inl rfl⟩)
  | closeAddClass drainable =>
    cases h
    refine Or.inr (Or.inl ⟨nofun, ?_, ?_, ?_⟩)
    · split_ifs <;> rfl
    · split_ifs <;> exact Nat.zero_le _
    · cases drainable <;> rfl
  | closeLogTotal drainable =>
    cases h
    refine Or.inr (Or.inl ⟨nofun, ?_, ?_, rfl⟩)
    · split_ifs <;> rfl
    · split_ifs <;> exact Nat.zero_le _
  | returned call ret => cases h
  | _ =>
    cases h
    exact Or.inr (Or.inl ⟨nofun, rfl, Nat.zero_le _, rfl⟩)

/-! ### The invariant -/

/-- The mark is at most the highest value, every value in flight is one of the history, and every
value of the history is below the mark or in flight. -/
structure PeakInv (s : Pool (Counters × List UInt64) CounterPc) : Prop where
  bound : s.shared.1.peakOpenGranules.toNat ≤ highest s.shared.2
  seen : ∀ p ∈ s.calls, p.seen ≤ s.shared.1.peakOpenGranules.toNat
  carried : ∀ p ∈ s.calls, ∀ v, p.carried = some v → v ∈ s.shared.2
  covered : ∀ v ∈ s.shared.2, v.toNat ≤ s.shared.1.peakOpenGranules.toNat ∨
    ∃ p ∈ s.calls, p.carried = some v

theorem CounterCall.start_carried (a : CounterCall) :
    a.start.carried = none ∧ a.start.seen = 0 := by
  cases a with
  | granuleOpen result =>
    rw [CounterCall.start]
    split_ifs <;> exact ⟨rfl, rfl⟩
  | granuleClose drainable => cases drainable <;> exact ⟨rfl, rfl⟩
  | _ => exact ⟨rfl, rfl⟩

theorem PeakInv.start {s : Pool (Counters × List UInt64) CounterPc} (h : PeakInv s)
    (a : CounterCall) : PeakInv { s with calls := s.calls ++ [a.start] } := by
  obtain ⟨hcarried, hseen⟩ := a.start_carried
  refine ⟨h.bound, ?_, ?_, ?_⟩
  · intro p hp
    rcases List.mem_append.mp hp with hp | hp
    · exact h.seen p hp
    · rw [List.mem_singleton.mp hp, hseen]
      exact Nat.zero_le _
  · intro p hp v hv
    rcases List.mem_append.mp hp with hp | hp
    · exact h.carried p hp v hv
    · rw [List.mem_singleton.mp hp, hcarried] at hv
      cases hv
  · intro v hv
    rcases h.covered v hv with hle | ⟨p, hp, hpv⟩
    · exact Or.inl hle
    · exact Or.inr ⟨p, List.mem_append_left _ hp, hpv⟩

theorem noteOpened_of_ne {logInterval : UInt64} {values : List UInt64} {b : Bool} {c : Counters}
    {p : CounterPc} (h : p ≠ .openAdd) : noteOpened logInterval values b c p = values := by
  cases p with
  | openAdd => exact absurd rfl h
  | _ => rfl

/-- A step keeps the invariant if it keeps every value in flight or raises the mark to it, and the
values it adds to the history are in flight. -/
theorem PeakInv.of_step {s : Pool (Counters × List UInt64) CounterPc} (h : PeakInv s) {k : ℕ}
    {p p' : CounterPc} {c' : Counters} {values' : List UInt64} (hk : s.calls[k]? = some p)
    (hmono : s.shared.1.peakOpenGranules.toNat ≤ c'.peakOpenGranules.toNat)
    (hbound : c'.peakOpenGranules.toNat ≤ highest values')
    (hsub : s.shared.2 ⊆ values') (hnew : ∀ v ∈ values', v ∈ s.shared.2 ∨ p'.carried = some v)
    (hseen : p'.seen ≤ c'.peakOpenGranules.toNat)
    (hcarried : ∀ v, p'.carried = some v → v ∈ values')
    (hkeep : ∀ v, p.carried = some v →
      p'.carried = some v ∨ v.toNat ≤ c'.peakOpenGranules.toNat) :
    PeakInv ⟨(c', values'), s.calls.set k p'⟩ := by
  have hlt : k < s.calls.length := (List.getElem?_eq_some_iff.mp hk).1
  have hself : p' ∈ s.calls.set k p' := List.mem_set hlt p'
  refine ⟨hbound, ?_, ?_, ?_⟩
  · intro q hq
    rcases List.mem_or_eq_of_mem_set hq with hq | rfl
    · exact Nat.le_trans (h.seen q hq) hmono
    · exact hseen
  · intro q hq v hv
    rcases List.mem_or_eq_of_mem_set hq with hq | rfl
    · exact hsub (h.carried q hq v hv)
    · exact hcarried v hv
  · intro v hv
    rcases hnew v hv with hold | hp'
    · rcases h.covered v hold with hle | ⟨q, hq, hqv⟩
      · exact Or.inl (Nat.le_trans hle hmono)
      · -- the value was in flight, possibly in the call that took the step
        by_cases hqp : q = p
        · rw [hqp] at hqv
          rcases hkeep v hqv with hp' | hle
          · exact Or.inr ⟨p', hself, hp'⟩
          · exact Or.inl hle
        · exact Or.inr ⟨q, mem_set_of_ne hk hq hqp, hqv⟩
    · exact Or.inr ⟨p', hself, hp'⟩

/-- The mark never decreases, and a step keeps the invariant. -/
theorem PeakInv.step {logInterval : UInt64} {b : Bool}
    {s : Pool (Counters × List UInt64) CounterPc} (h : PeakInv s) {k : ℕ} {p p' : CounterPc}
    {c' : Counters} (hk : s.calls[k]? = some p)
    (hstep : counterStep logInterval b s.shared.1 p = some (c', p')) :
    s.shared.1.peakOpenGranules.toNat ≤ c'.peakOpenGranules.toNat ∧
      PeakInv ⟨(c', noteOpened logInterval s.shared.2 b s.shared.1 p), s.calls.set k p'⟩ := by
  have hmem : p ∈ s.calls := List.mem_of_getElem? hk
  rcases counterStep_peak hstep (h.seen p hmem) with ⟨rfl, hp', hseen, hpeak⟩ |
    ⟨hne, hp', hseen, hpeak⟩ | ⟨v, hp, hp', hseen, hmono, hle, hpeak⟩
  · -- an increment: the new value is in flight
    have hmono : s.shared.1.peakOpenGranules.toNat ≤ c'.peakOpenGranules.toNat := by rw [hpeak]
    refine ⟨hmono, h.of_step hk hmono ?_ (List.subset_cons_self _ _) ?_ (by omega) ?_ nofun⟩
    · rw [hpeak]
      exact Nat.le_trans h.bound (highest_mono (List.subset_cons_self _ _))
    · intro v hv
      rcases List.mem_cons.mp hv with rfl | hold
      · exact Or.inr hp'
      · exact Or.inl hold
    · intro v hv
      rw [hp', Option.some.injEq] at hv
      rw [← hv]
      exact List.mem_cons_self
  · -- the value in flight, if any, stays in flight
    rw [noteOpened_of_ne hne]
    have hmono : s.shared.1.peakOpenGranules.toNat ≤ c'.peakOpenGranules.toNat := by rw [hpeak]
    refine ⟨hmono, h.of_step hk hmono ?_ (List.Subset.refl _) (fun v hv => Or.inl hv) ?_ ?_ ?_⟩
    · rw [hpeak]
      exact h.bound
    · rw [hpeak]
      exact hseen
    · intro v hv
      rw [hp'] at hv
      exact h.carried p hmem v hv
    · intro v hv
      rw [hp']
      exact Or.inl hv
  · -- the loop ends with the mark at least as high as the value
    have hne : p ≠ .openAdd := by
      rintro rfl
      cases hp
    rw [noteOpened_of_ne hne]
    refine ⟨hmono, h.of_step hk hmono ?_ (List.Subset.refl _) (fun v hv => Or.inl hv) (by omega)
      ?_ ?_⟩
    · rcases hpeak with hpeak | hpeak
      · rw [hpeak]
        exact h.bound
      · rw [hpeak]
        exact le_highest (h.carried p hmem v hp)
    · intro w hw
      rw [hp'] at hw
      cases hw
    · intro w hw
      rw [hp, Option.some.injEq] at hw
      rw [← hw]
      exact Or.inr hle

/-- No event lowers the mark, and every event keeps the invariant. -/
theorem PeakInv.next {logInterval : UInt64} {s : Pool (Counters × List UInt64) CounterPc}
    (h : PeakInv s) (e : Interleaving.Event CounterCall Bool) :
    s.shared.1.peakOpenGranules.toNat
        ≤ ((peakProgram logInterval).next s e).shared.1.peakOpenGranules.toNat ∧
      PeakInv ((peakProgram logInterval).next s e) := by
  rcases (peakProgram logInterval).next_cases s e with ⟨a, -, hnext⟩ |
    ⟨k, b, p, m, p', -, hk, hstep, hnext⟩ | hnext
  · rw [hnext]
    exact ⟨Nat.le_refl _, h.start a⟩
  · obtain ⟨c', values'⟩ := m
    obtain ⟨hstep', hvalues⟩ := Program.withHistory_step_eq_some.mp hstep
    rw [hnext]
    dsimp only at hvalues
    rw [hvalues]
    exact h.step hk hstep'
  · rw [hnext]
    exact ⟨Nat.le_refl _, h⟩

theorem PeakInv.run {logInterval : UInt64} {s : Pool (Counters × List UInt64) CounterPc}
    (h : PeakInv s) (es : List (Interleaving.Event CounterCall Bool)) :
    s.shared.1.peakOpenGranules.toNat
        ≤ ((peakProgram logInterval).run s es).shared.1.peakOpenGranules.toNat ∧
      PeakInv ((peakProgram logInterval).run s es) := by
  induction es generalizing s with
  | nil => exact ⟨Nat.le_refl _, h⟩
  | cons e es ih =>
    obtain ⟨hmono, hnext⟩ := h.next e
    obtain ⟨hmono', hrun⟩ := ih hnext
    exact ⟨Nat.le_trans hmono hmono', hrun⟩

theorem peakInv_init : PeakInv peakPool := by
  refine ⟨Nat.le_refl _, ?_, ?_, ?_⟩
  · intro p hp
    cases hp
  · intro p hp
    cases hp
  · intro v hv
    cases hv

/-- **The high-water mark is exact.**  In every interleaving of the calls on the counters the mark
never decreases, is never above the highest value of an increment so far, and equals it whenever no
open is in flight. -/
theorem peak_high_water (logInterval : UInt64)
    (es es' : List (Interleaving.Event CounterCall Bool)) :
    let s := (peakProgram logInterval).run peakPool es
    let s' := (peakProgram logInterval).run s es'
    s.shared.1.peakOpenGranules ≤ s'.shared.1.peakOpenGranules ∧
      s.shared.1.peakOpenGranules.toNat ≤ highest s.shared.2 ∧
      ((∀ p ∈ s.calls, ¬p.Opening) →
        s.shared.1.peakOpenGranules.toNat = highest s.shared.2) := by
  intro s s'
  have hinv : PeakInv s := (peakInv_init.run es).2
  refine ⟨UInt64.le_iff_toNat_le.mpr (hinv.run es').1, hinv.bound, ?_⟩
  intro hnone
  apply Nat.le_antisymm hinv.bound
  apply highest_le
  intro v hv
  rcases hinv.covered v hv with hle | ⟨p, hp, hpv⟩
  · exact hle
  · exact absurd (CounterPc.opening_of_carried hpv) (hnone p hp)

/-- Two opens race.  The exchange of the second fails spuriously, then succeeds; the first finds the
mark raised and returns. -/
def racingOpens : List (Interleaving.Event CounterCall Bool) :=
  [.start (.granuleOpen 0), .start (.granuleOpen 0), .step 0 false, .step 0 false, .step 1 false,
    .step 1 false, .step 1 true, .step 1 false, .step 0 false, .step 0 false,
    .start (.granuleClose (some true)), .step 2 false]

example :
    let s := (peakProgram 0).run peakPool racingOpens
    s.calls[0]? = some (.returned (.granuleOpen 0) (.int 0 [])) ∧
      s.shared.1.openGranules = 1 ∧ s.shared.1.peakOpenGranules = 2 ∧ s.shared.2 = [2, 1] := by
  decide

end Drainprof
