import Drainprof.Equiv.DiagSlotSteps

/-!
# Diagnostic mode under concurrency

The contract of the callers (`DiagSlotContract`) is that of the header, and more.  As in the header,
registrations, frees and closes name open granules, and no call on a granule overlaps with an open or a
close of the same granule.  Besides, sweeps must not overlap with closes: `drainprof_sweep` takes no
lock, and would read a record that the close destroys.

Under the contract, and with memory to spare, every interleaving acts as the sequential slot array
does on the calls one after the other, no call reads a destroyed record or a `NULL` pointer, and no
record is lost.
-/

namespace Drainprof

open Interleaving hiding Event
open Transition

/-! ### The contract of the callers -/

/-- The call is a close of `id`. -/
def DiagSlotCall.closes (id : GranuleId) : DiagSlotCall → Bool
  | .close _ id' => id' == id
  | .open_ _ _ | .op _ _ _ | .sweep _ => false

/-- The granule is open: an open of it has returned `0`, and no close of it has begun since. -/
def OpenIn (calls : List DiagSlotPc) (id : GranuleId) : Prop :=
  ∃ i < calls.length, (calls[i]?.any (DiagSlotPc.hasOpened id)) = true ∧
    ((calls.drop (i + 1)).all fun q => !q.call.closes id) = true

instance (calls : List DiagSlotPc) (id : GranuleId) : Decidable (OpenIn calls id) :=
  inferInstanceAs (Decidable (∃ i < calls.length, _))

/-- Registrations, frees and closes are for open granules. -/
def DiagSlotCall.NeedsOpen (calls : List DiagSlotPc) : DiagSlotCall → Prop
  | .op _ id _ => OpenIn calls id
  | .close _ id => OpenIn calls id
  | .open_ _ _ => True
  | .sweep _ => True

instance (calls : List DiagSlotPc) : ∀ c : DiagSlotCall, Decidable (c.NeedsOpen calls)
  | .op _ _ _ | .close _ _ => inferInstanceAs (Decidable (OpenIn _ _))
  | .open_ _ _ | .sweep _ => instDecidableTrue

/-- The contract: a call that begins is compatible with all calls in flight, its granule is open, and
there are not too many registrations. -/
def DiagSlotContract (s : Pool SharedSlots DiagSlotPc) :
    Interleaving.Event DiagSlotCall Unit → Prop
  | .start c => (∀ p ∈ s.calls, p.hasReturned = false → c.Compatible p.call) ∧
      c.NeedsOpen s.calls ∧
      (c.registers = true → s.calls.countP (fun p => p.call.registers) < 2 ^ 31)
  | .step _ _ => True

instance : ∀ s e, Decidable (DiagSlotContract s e)
  | _, .start _ => inferInstanceAs (Decidable (_ ∧ _ ∧ _))
  | _, .step _ _ => instDecidableTrue

/-- Library allocations succeed. -/
def AllPlentiful (e : Interleaving.Event DiagSlotCall Unit) : Prop :=
  ∀ c, e = .start c → c.env.Plentiful

/-! ### Open granules -/

section OpenIn

variable {calls : List DiagSlotPc} {id : GranuleId} {p p' : DiagSlotPc} {k : ℕ}

theorem openIn_iff : OpenIn calls id ↔ ∃ (i : ℕ) (p : DiagSlotPc), calls[i]? = some p ∧
    p.hasOpened id = true ∧ ∀ (j : ℕ) (q : DiagSlotPc), i < j → calls[j]? = some q → q.call.closes id = false := by
  constructor
  · rintro ⟨i, -, hopened, hall⟩
    obtain ⟨p, hp, hopened⟩ := (Option.any_eq_true _ _).mp hopened
    refine ⟨i, p, hp, hopened, ?_⟩
    intro j q hij hj
    have hmem : q ∈ calls.drop (i + 1) := by
      refine List.mem_of_getElem? (i := j - (i + 1)) ?_
      rw [List.getElem?_drop, Nat.add_sub_cancel' hij]
      exact hj
    have hnot := List.all_eq_true.mp hall q hmem
    rwa [Bool.not_eq_true'] at hnot
  · rintro ⟨i, p, hp, hopened, hall⟩
    refine ⟨i, (List.getElem?_eq_some_iff.mp hp).1, (Option.any_eq_true _ _).mpr ⟨p, hp, hopened⟩, ?_⟩
    refine List.all_eq_true.mpr ?_
    intro q hq
    obtain ⟨j, hj⟩ := List.mem_iff_getElem?.mp hq
    rw [List.getElem?_drop] at hj
    rw [hall _ q (by omega) hj]
    rfl

theorem DiagSlotPc.hasReturned_of_hasOpened (h : p.hasOpened id = true) :
    p.hasReturned = true ∧ p.call.granule = some id ∧ p.call.isLifecycle = true := by
  cases p with
  | returned c r =>
    cases c with
    | open_ env id' =>
      rw [← beq_iff_eq.mp (Bool.and_eq_true_iff.mp h).1]
      exact ⟨rfl, rfl, rfl⟩
    | op env id' op | close env id' | sweep env => cases h
  | _ => cases h

/-- A call that begins opens nothing yet, and a close that begins ends the time its granule is open. -/
theorem openIn_of_concat (h : OpenIn (calls ++ [p]) id) (hflight : p.hasReturned = false) :
    OpenIn calls id ∧ p.call.closes id = false := by
  obtain ⟨i, q, hi, hopened, hall⟩ := openIn_iff.mp h
  rcases getElem?_concat_cases hi with ⟨-, rfl⟩ | hold
  · rw [(DiagSlotPc.hasReturned_of_hasOpened hopened).1] at hflight
    cases hflight
  · have hlt := (List.getElem?_eq_some_iff.mp hold).1
    refine ⟨openIn_iff.mpr ⟨i, q, hold, hopened, ?_⟩,
      hall calls.length p hlt List.getElem?_concat_length⟩
    intro j q' hij hj
    refine hall j q' hij ?_
    rw [List.getElem?_append_left (List.getElem?_eq_some_iff.mp hj).1, hj]

/-- A step opens no granule but by returning from an open. -/
theorem openIn_of_set (hk : calls[k]? = some p) (hcall : p'.call = p.call)
    (h : OpenIn (calls.set k p') id) : OpenIn calls id ∨ p'.hasOpened id = true := by
  obtain ⟨i, q, hi, hopened, hall⟩ := openIn_iff.mp h
  rcases getElem?_set_cases hi with ⟨-, rfl⟩ | ⟨-, hold⟩
  · exact Or.inr hopened
  · refine Or.inl (openIn_iff.mpr ⟨i, q, hold, hopened, ?_⟩)
    intro j q' hij hj
    by_cases hjk : j = k
    · subst hjk
      rw [hk, Option.some.injEq] at hj
      rw [← hj, ← hcall]
      exact hall j p' hij (List.getElem?_set_self (List.getElem?_eq_some_iff.mp hk).1)
    · refine hall j q' hij ?_
      rw [List.getElem?_set_ne (Ne.symm hjk), hj]

end OpenIn

/-! ### The invariant -/

/-- The assertions about all calls, which are pairwise compatible while they are in flight. -/
def diagSlotOutline (capacity : UInt32) : Outline (SharedSlots × SlotArrayDiag) DiagSlotPc where
  shared := SlotsShown capacity
  call m p := p.Holds capacity m
  pair p q := p.hasReturned = false → q.hasReturned = false → p.call.Compatible q.call
  symm _ _ h hq hp := (h hp hq).symm

/-- A call is entered into the log by the step that settles its result. -/
def diagSlotNote (capacity : UInt32) : List (ℕ × DiagSlotCall × DiagSlotResult) →
    Pool SharedSlots DiagSlotPc → Interleaving.Event DiagSlotCall Unit →
    List (ℕ × DiagSlotCall × DiagSlotResult) :=
  (diagSlotProgram capacity).noteSettled DiagSlotPc.call fun m p => p.owed m

/-- The log of a run: the number, the call and the result of each call, in the order in which they
take effect. -/
def diagSlotLog (capacity : UInt32) (es : List (Interleaving.Event DiagSlotCall Unit)) :
    List (ℕ × DiagSlotCall × DiagSlotResult) :=
  (diagSlotProgram capacity).observe (diagSlotNote capacity) [] diagSlotPool es

/-- The invariant of a run, with the array to which the logged calls lead the sequential model. -/
structure DiagSlotInv (capacity : UInt32) (arr₀ : SlotArrayDiag)
    (log : List (ℕ × DiagSlotCall × DiagSlotResult)) (arr : SlotArrayDiag)
    (s : Pool SharedSlots DiagSlotPc) : Prop
    extends Logged SlotArrayDiag.serve arr₀ DiagSlotPc.call (fun m p => p.owed m) log arr s where
  holds : (diagSlotOutline capacity).Holds ⟨(s.shared, arr), s.calls⟩
  settled : ∀ id, OpenIn s.calls id → Settled capacity (s.shared, arr) id
  closing : ∀ p ∈ s.calls, p.hasReturned = false → ∀ id, p.call.closes id = true →
    ¬OpenIn s.calls id
  owner : ∀ address d, s.shared.At address d → (∃ i, (s.shared.slots i).diag = some address) ∨
    ∃ p ∈ s.calls, p.carries = some address
  hidden : ∀ i, arr.mem i ≠ none → (s.shared.slots i).diag = none →
    ∃ p ∈ s.calls, p.hides capacity = some i
  few : s.calls.countP (fun p => p.call.registers) ≤ 2 ^ 31
  counts : arr.Counts (log.countP fun e => e.2.1.registers)

section Inv

variable {capacity : UInt32} {arr₀ arr : SlotArrayDiag}
  {log : List (ℕ × DiagSlotCall × DiagSlotResult)} {s : Pool SharedSlots DiagSlotPc} {k : ℕ}
  {p p' : DiagSlotPc} {c : DiagSlotCall}

/-- Where a call begins, on slots of some capacity. -/
theorem DiagSlotCall.start_spec (hc : capacity ≠ 0) (c : DiagSlotCall) (m : SharedSlots) :
    (c.start capacity).call = c ∧ (c.start capacity).hasReturned = false ∧
      (c.start capacity).owed m = none := by
  cases c with
  | sweep env => exact ⟨rfl, rfl, rfl⟩
  | open_ env id | op env id op | close env id =>
    rw [start, if_neg hc]
    exact ⟨rfl, rfl, rfl⟩

theorem DiagSlotCall.start_holds (hc : capacity ≠ 0) (henv : c.env.Plentiful)
    {m : SharedSlots × SlotArrayDiag} (hopen : ∀ id, c.granule = some id →
      c = .open_ c.env id ∨ Settled capacity m id) : (c.start capacity).Holds capacity m := by
  cases c with
  | sweep env => trivial
  | open_ env id =>
    rw [start, if_neg hc]
    exact henv
  | op env id op =>
    rw [start, if_neg hc]
    rcases hopen id rfl with hopen | hsettled
    · cases hopen
    · exact ⟨henv, hsettled⟩
  | close env id =>
    rw [start, if_neg hc]
    rcases hopen id rfl with hopen | hsettled
    · cases hopen
    · exact ⟨henv, hsettled⟩

theorem DiagSlotInv.start (h : DiagSlotInv capacity arr₀ log arr s)
    (hok : DiagSlotContract s (.start c)) (henv : c.env.Plentiful) :
    DiagSlotInv capacity arr₀ (diagSlotNote capacity log s (.start c)) arr
      ((diagSlotProgram capacity).next s (.start c)) := by
  obtain ⟨hcompat, hneeds, hroom⟩ := hok
  have hc : capacity ≠ 0 := by
    rw [← h.holds.shared.capacity_eq]
    exact h.holds.shared.wf.capacity_ne
  obtain ⟨hcall, hflight, howed⟩ := c.start_spec hc s.shared
  have hnote : diagSlotNote capacity log s (.start c) = log := Program.noteSettled_start howed
  have hown : (c.start capacity).Holds capacity (s.shared, arr) := by
    refine DiagSlotCall.start_holds hc henv ?_
    intro id hgranule
    cases c with
    | open_ env id' => cases hgranule; exact Or.inl rfl
    | op env id' op => cases hgranule; exact Or.inr (h.settled id hneeds)
    | close env id' => cases hgranule; exact Or.inr (h.settled id hneeds)
    | sweep env => cases hgranule
  rw [hnote]
  show DiagSlotInv capacity arr₀ log arr { s with calls := s.calls ++ [c.start capacity] }
  refine ⟨h.toLogged.start howed, h.holds.start hown ?_, ?_, ?_, ?_, ?_, ?_, h.counts⟩
  · intro q hq _ hq'
    rw [hcall]
    exact hcompat q hq hq'
  · intro id hopen
    exact h.settled id (openIn_of_concat hopen hflight).1
  · intro q hq hq' id hcloses hopen
    obtain ⟨hold, hnot⟩ := openIn_of_concat hopen hflight
    rcases List.mem_append.mp hq with hq | hq
    · exact h.closing q hq hq' id hcloses hold
    · rw [List.mem_singleton.mp hq, hnot] at hcloses
      cases hcloses
  · intro address d hat
    rcases h.owner address d hat with hslot | ⟨q, hq, hcarry⟩
    · exact Or.inl hslot
    · exact Or.inr ⟨q, List.mem_append_left _ hq, hcarry⟩
  · intro i hmem hdiag
    obtain ⟨q, hq, hhides⟩ := h.hidden i hmem hdiag
    exact ⟨q, List.mem_append_left _ hq, hhides⟩
  · dsimp only
    rw [List.countP_append, List.countP_singleton, hcall]
    have hfew := h.few
    split_ifs with hreg
    · exact hroom hreg
    · exact hfew

theorem diagSlotStep_hasReturned {m m' : SharedSlots}
    (h : diagSlotStep capacity m p = some (m', p')) : p.hasReturned = false := by
  cases p with
  | returned c r => cases h
  | _ => rfl

/-- The other calls are compatible with the one that steps. -/
theorem DiagSlotInv.compatible (h : DiagSlotInv capacity arr₀ log arr s) (hk : s.calls[k]? = some p)
    (hflight : p.hasReturned = false) {i : ℕ} {q : DiagSlotPc} (hi : s.calls[i]? = some q)
    (hne : i ≠ k) : q.hasReturned = false → p.call.Compatible q.call :=
  h.holds.pair k i p q (Ne.symm hne) hk hi hflight

/-- What a step makes of the log, of the array and of the counts. -/
theorem DiagSlotInv.logged (h : DiagSlotInv capacity arr₀ log arr s) {m : SharedSlots}
    {arr' : SlotArrayDiag} (hk : s.calls[k]? = some p)
    (hstep : diagSlotStep capacity s.shared p = some (m, p'))
    (hadvances : Advances capacity (s.shared, arr) (m, arr') p p') :
    Logged SlotArrayDiag.serve arr₀ DiagSlotPc.call (fun m p => p.owed m)
        (diagSlotNote capacity log s (.step k ())) arr' ⟨m, s.calls.set k p'⟩ ∧
      arr'.Counts ((diagSlotNote capacity log s (.step k ())).countP fun e => e.2.1.registers) := by
  have hothers : ∀ (i : ℕ) (q : DiagSlotPc), i ≠ k → s.calls[i]? = some q →
      q.owed m = q.owed s.shared := by
    intro i q hne hi
    have hq : q.Holds capacity (s.shared, arr) := h.holds.call_of_getElem? hi
    exact hq.owed_frame hadvances.frame (h.compatible hk (diagSlotStep_hasReturned hstep) hi hne)
  have hprogram : (diagSlotProgram capacity).step () s.shared p = some (m, p') := hstep
  cases hadvances.effect with
  | silent harr howed =>
    have hnote : diagSlotNote capacity log s (.step k ()) = log :=
      Program.noteSettled_silent hk hprogram howed
    rw [hnote, show arr' = arr from harr]
    exact ⟨h.toLogged.silent hk hadvances.call_eq howed hothers, h.counts⟩
  | commit r hbefore hserve hafter hcounts =>
    have hnote : diagSlotNote capacity log s (.step k ()) = log ++ [(k, p.call, r)] :=
      Program.noteSettled_commit hk hprogram hbefore hafter
    rw [hnote, List.countP_append, List.countP_singleton]
    exact ⟨h.toLogged.commit hk hadvances.call_eq hbefore hserve hafter hothers,
      hcounts _ h.counts⟩

/-- What a step makes of the open granules. -/
theorem DiagSlotInv.open_step (h : DiagSlotInv capacity arr₀ log arr s) {m : SharedSlots}
    {arr' : SlotArrayDiag} (hk : s.calls[k]? = some p) (hflight : p.hasReturned = false)
    (hadvances : Advances capacity (s.shared, arr) (m, arr') p p') :
    (∀ id, OpenIn (s.calls.set k p') id → Settled capacity (m, arr') id) ∧
      ∀ q ∈ s.calls.set k p', q.hasReturned = false → ∀ id, q.call.closes id = true →
        ¬OpenIn (s.calls.set k p') id := by
  have hpk := List.mem_of_getElem? hk
  constructor
  · intro id hopen
    rcases openIn_of_set hk hadvances.call_eq hopen with hold | hopened
    · have hsettled := h.settled id hold
      cases hclose : p.call.isClose with
      | false => exact hadvances.settled hclose id hsettled
      | true =>
        -- it is a close of another granule
        refine hsettled.frame hadvances.frame ?_
        intro hgranule
        refine absurd hold (h.closing p hpk hflight id ?_)
        cases hcall : p.call with
        | close env id' =>
          rw [hcall] at hgranule
          cases hgranule
          exact beq_self_eq_true id
        | open_ env id' | op env id' op | sweep env =>
          rw [hcall] at hclose
          cases hclose
    · exact hadvances.opened id hopened
  · intro q hq hq' id hcloses hopen
    obtain ⟨i, hi⟩ := List.mem_iff_getElem?.mp hq
    rcases openIn_of_set hk hadvances.call_eq hopen with hold | hopened
    · rcases getElem?_set_cases hi with ⟨-, rfl⟩ | ⟨-, hi⟩
      · rw [hadvances.call_eq] at hcloses
        exact h.closing p hpk hflight id hcloses hold
      · exact h.closing q (List.mem_of_getElem? hi) hq' id hcloses hold
    · -- the open that returns would overlap with a close of its granule
      obtain ⟨hreturned, hgranule, hlifecycle⟩ := DiagSlotPc.hasReturned_of_hasOpened hopened
      rcases getElem?_set_cases hi with ⟨-, rfl⟩ | ⟨hne, hi⟩
      · rw [hreturned] at hq'
        cases hq'
      · have hcompat := (h.compatible hk hflight hi hne hq').1
        rw [← hadvances.call_eq, hgranule, hlifecycle] at hcompat
        have hq'' : q.call.granule = some id := by
          cases hcall : q.call with
          | close env id' =>
            rw [hcall] at hcloses
            rw [← beq_iff_eq.mp hcloses]
            rfl
          | open_ env id' | op env id' op | sweep env =>
            rw [hcall] at hcloses
            cases hcloses
        cases (hcompat hq''.symm).1

theorem DiagSlotInv.step (h : DiagSlotInv capacity arr₀ log arr s) {m : SharedSlots}
    (hk : s.calls[k]? = some p) (hstep : diagSlotStep capacity s.shared p = some (m, p')) :
    ∃ arr', DiagSlotInv capacity arr₀ (diagSlotNote capacity log s (.step k ())) arr'
      ⟨m, s.calls.set k p'⟩ := by
  have hflight := diagSlotStep_hasReturned hstep
  have hpk := List.mem_of_getElem? hk
  have hp : p.Holds capacity (s.shared, arr) := h.holds.call p hpk
  obtain ⟨arr', hadvances⟩ := advances_of_step h.holds.shared hp (by
    intro hreg howed i d hi
    have hlt := h.toLogged.countP_lt DiagSlotCall.registers hpk hreg howed
    exact Nat.lt_of_le_of_lt (h.counts i d hi) (Nat.lt_of_lt_of_le hlt h.few)) hstep
  obtain ⟨hlogged, hcounts⟩ := h.logged hk hstep hadvances
  obtain ⟨hsettled, hclosing⟩ := h.open_step hk hflight hadvances
  have hnew : p' ∈ s.calls.set k p' := List.mem_set (List.getElem?_eq_some_iff.mp hk).1 p'
  refine ⟨arr', hlogged, ?_, hsettled, hclosing, ?_, ?_, ?_, hcounts⟩
  · refine h.holds.step hk ⟨hadvances.shown, hadvances.own, ?_, ?_⟩
    · intro q _ hq hpair
      exact DiagSlotPc.Holds.frame hq hadvances.frame (hpair hflight)
    · intro q _ hpair _
      rw [hadvances.call_eq]
      exact hpair hflight
  · intro address d hat
    rcases hadvances.alloc address d hat with ⟨d', hold⟩ | hcarry
    · rcases h.owner address d' hold with ⟨i, hi⟩ | ⟨q, hq, hcarry⟩
      · rcases hadvances.shows i address hi with hslot | hcarry
        · exact Or.inl hslot
        · exact Or.inr ⟨p', hnew, hcarry⟩
      · by_cases hqp : q = p
        · subst hqp
          rcases hadvances.carries address d hcarry hat with hslot | hcarry'
          · exact Or.inl hslot
          · exact Or.inr ⟨p', hnew, hcarry'⟩
        · exact Or.inr ⟨q, mem_set_of_ne hk hq hqp, hcarry⟩
    · exact Or.inr ⟨p', hnew, hcarry⟩
  · intro i hmem hdiag
    rcases hadvances.hidden i hmem hdiag with hhides | ⟨hmem', hdiag'⟩
    · exact ⟨p', hnew, hhides⟩
    · obtain ⟨q, hq, hhides⟩ := h.hidden i hmem' hdiag'
      by_cases hqp : q = p
      · subst hqp
        exact ⟨p', hnew, hadvances.hides i hhides hmem hdiag⟩
      · exact ⟨q, mem_set_of_ne hk hq hqp, hhides⟩
  · have hcount := countP_set hk (fun p => p.call.registers) p'
    rw [hadvances.call_eq] at hcount
    exact (Nat.add_right_cancel hcount).trans_le h.few

theorem DiagSlotInv.next (h : DiagSlotInv capacity arr₀ log arr s)
    (e : Interleaving.Event DiagSlotCall Unit) (hok : DiagSlotContract s e) (henv : AllPlentiful e) :
    ∃ arr', DiagSlotInv capacity arr₀ (diagSlotNote capacity log s e) arr'
      ((diagSlotProgram capacity).next s e) := by
  cases e with
  | start c => exact ⟨arr, h.start hok (henv c rfl)⟩
  | step k c =>
    cases hbind : s.calls[k]?.bind ((diagSlotProgram capacity).step c s.shared) with
    | none =>
      have hnote : diagSlotNote capacity log s (.step k c) = log :=
        Program.noteSettled_of_none hbind
      rw [Program.next_step_of_none hbind, hnote]
      exact ⟨arr, h⟩
    | some r =>
      obtain ⟨m, p'⟩ := r
      obtain ⟨p, hk, hstep⟩ := Option.bind_eq_some_iff.mp hbind
      rw [Program.next_step hk hstep]
      exact h.step hk hstep

theorem diagSlotInv_init {env : Env} (hcreate : slotArrayDiagCreate env capacity = some arr)
    (hc : capacity ≠ 0) : DiagSlotInv capacity arr [] arr diagSlotPool := by
  obtain ⟨hcapacity, hfree⟩ := slotArrayDiagCreate_spec hcreate
  have hne : arr.capacity ≠ 0 := by rwa [hcapacity]
  have hmem : ∀ i, arr.mem i = none := by
    intro i
    rw [SlotArrayDiag.mem]
    split_ifs with hi
    · rw [hfree]
      rfl
    · rfl
  have hshown : SlotsShown capacity (diagSlotPool.shared, arr) := by
    refine ⟨hcapacity, arr.wf_of_free hne hfree, ?_, ?_⟩
    · intro i
      dsimp only
      rw [hmem]
      rfl
    · intro i address hi
      cases hi
  refine ⟨Logged.init _ _ _ _ _, Outline.Holds.nil hshown, ?_, ?_, ?_, ?_, Nat.zero_le _, ?_⟩
  · rintro id ⟨i, hi, -⟩
    exact absurd hi (Nat.not_lt_zero i)
  · intro p hp
    exact absurd hp List.not_mem_nil
  · intro address d hat
    cases hat
  · intro i hi
    exact absurd (hmem i) hi
  · intro i d hi
    rw [hmem] at hi
    cases hi

end Inv

/-! ### Every interleaving acts as the sequential array -/

/-- The memory of the slots is the array: its records are in the slots, and there are no others. -/
structure Represents (m : SharedSlots) (arr : SlotArrayDiag) : Prop where
  free : ∀ i, arr.mem i = none → m.slots i = ⟨false, none⟩
  taken : ∀ i d, arr.mem i = some d → ∃ address, m.slots i = ⟨true, some address⟩ ∧ m.At address d
  heap : ∀ address d, m.At address d → ∃ i, m.slots i = ⟨true, some address⟩ ∧ arr.mem i = some d

/-- What the threads have seen after a run is what the sequential array does on the calls that have
taken effect, one after the other: the calls that have returned are among them, each once and with
its own result, and before all calls that begin after it has returned.  No call has faulted, and when
all calls have returned the memory is the array. -/
structure ActsAsSlots (capacity : UInt32) (arr : SlotArrayDiag)
    (es : List (Interleaving.Event DiagSlotCall Unit)) : Prop where
  run_eq : ∃ arr', run SlotArrayDiag.serve arr ((diagSlotLog capacity es).map fun e => e.2.1)
      = .ok ((diagSlotLog capacity es).map fun e => e.2.2, arr') ∧
    ((∀ p ∈ ((diagSlotProgram capacity).run diagSlotPool es).calls, p.hasReturned = true) →
      Represents ((diagSlotProgram capacity).run diagSlotPool es).shared arr')
  nodup : ((diagSlotLog capacity es).map Prod.fst).Nodup
  returned_mem : ∀ k c r, ((diagSlotProgram capacity).run diagSlotPool es).calls[k]?
    = some (.returned c r) → c.isSweep = false → (k, c, r) ∈ diagSlotLog capacity es
  mem_call : ∀ k c r, (k, c, r) ∈ diagSlotLog capacity es →
    ∃ p, ((diagSlotProgram capacity).run diagSlotPool es).calls[k]? = some p ∧ p.call = c
  ordered : ∀ es', diagSlotLog capacity es <+: diagSlotLog capacity (es ++ es')
  not_faulted : ∀ c f, .faulted c f ∉ ((diagSlotProgram capacity).run diagSlotPool es).calls

section Main

variable {capacity : UInt32} {arr₀ arr : SlotArrayDiag}
  {log : List (ℕ × DiagSlotCall × DiagSlotResult)} {s : Pool SharedSlots DiagSlotPc}

/-- When all calls have returned nothing is hidden or known to a call alone. -/
theorem DiagSlotInv.represents (h : DiagSlotInv capacity arr₀ log arr s)
    (hall : ∀ p ∈ s.calls, p.hasReturned = true) : Represents s.shared arr := by
  have hshown : SlotsShown capacity (s.shared, arr) := h.holds.shared
  have hnone : ∀ i, arr.mem i = none → (s.shared.slots i).diag = none := by
    intro i hi
    cases hdiag : (s.shared.slots i).diag with
    | none => rfl
    | some address =>
      obtain ⟨d, -, hmem⟩ := hshown.shows i address hdiag
      rw [show arr.mem i = some d from hmem] at hi
      cases hi
  have hsome : ∀ i d, arr.mem i = some d →
      ∃ address, s.shared.slots i = ⟨true, some address⟩ ∧ s.shared.At address d := by
    intro i d hi
    have hocc : (s.shared.slots i).occupied = true := by
      rw [show (s.shared.slots i).occupied = _ from hshown.occupied_eq i,
        show arr.mem i = some d from hi]
      rfl
    cases hdiag : (s.shared.slots i).diag with
    | none =>
      obtain ⟨p, hp, hhides⟩ := h.hidden i (by rw [hi]; nofun) hdiag
      have hreturned := hall p hp
      cases p with
      | returned c r => cases hhides
      | _ => cases hreturned
    | some address =>
      obtain ⟨d', hat, hmem⟩ := hshown.shows i address hdiag
      rw [show arr.mem i = some d' from hmem, Option.some.injEq] at hi
      refine ⟨address, ?_, hi ▸ hat⟩
      rw [← hocc, ← hdiag]
  refine ⟨?_, hsome, ?_⟩
  · intro i hi
    have hocc : (s.shared.slots i).occupied = false := by
      rw [show (s.shared.slots i).occupied = _ from hshown.occupied_eq i,
        show arr.mem i = none from hi]
      rfl
    rw [← hocc, ← hnone i hi]
  · intro address d hat
    rcases h.owner address d hat with ⟨i, hi⟩ | ⟨p, hp, hcarry⟩
    · obtain ⟨d', hat', hmem⟩ := hshown.shows i address hi
      rw [hat.unique hat'] at hmem
      obtain ⟨address', hslot, -⟩ := hsome i d hmem
      rw [hslot, Option.some.injEq] at hi
      rw [← hi]
      exact ⟨i, hslot, hmem⟩
    · have hreturned := hall p hp
      cases p with
      | returned c r => cases hcarry
      | _ => cases hreturned

theorem exists_diagSlotInv {env : Env} {es : List (Interleaving.Event DiagSlotCall Unit)}
    (hcreate : slotArrayDiagCreate env capacity = some arr) (hc : capacity ≠ 0)
    (hcontract : (diagSlotProgram capacity).Along DiagSlotContract diagSlotPool es)
    (henv : ∀ c, .start c ∈ es → c.env.Plentiful) :
    ∃ arr', DiagSlotInv capacity arr (diagSlotLog capacity es) arr'
      ((diagSlotProgram capacity).run diagSlotPool es) := by
  have hplenty : (diagSlotProgram capacity).Along (fun _ e => AllPlentiful e) diagSlotPool es :=
    Program.along_of_forall fun e he c hec => henv c (hec ▸ he)
  have hnext : ∀ log s e, (∃ arr', DiagSlotInv capacity arr log arr' s) →
      DiagSlotContract s e ∧ AllPlentiful e →
      ∃ arr', DiagSlotInv capacity arr (diagSlotNote capacity log s e) arr'
        ((diagSlotProgram capacity).next s e) := by
    rintro log s e ⟨arr', h⟩ ⟨hok, henv⟩
    exact h.next e hok henv
  exact Program.observe_inv_of_along hnext ⟨arr, diagSlotInv_init hcreate hc⟩
    (hcontract.and hplenty)

/-- **Diagnostic mode is linearizable**: under the contract of the callers and with memory to spare,
every interleaving of opens, registrations, frees, closes and sweeps acts as the sequential slot array
on the calls one after the other.  No call reads through a `NULL` pointer or a destroyed record, and
no record is lost. -/
theorem diag_slots_linearizable {env : Env} {es : List (Interleaving.Event DiagSlotCall Unit)}
    (hcreate : slotArrayDiagCreate env capacity = some arr) (hc : capacity ≠ 0)
    (hcontract : (diagSlotProgram capacity).Along DiagSlotContract diagSlotPool es)
    (henv : ∀ c, .start c ∈ es → c.env.Plentiful) : ActsAsSlots capacity arr es := by
  obtain ⟨arr', h⟩ := exists_diagSlotInv hcreate hc hcontract henv
  refine ⟨⟨arr', h.run_eq, h.represents⟩, h.nodup, ?_, ?_, ?_, ?_⟩
  · intro k c r hk hsweep
    refine (h.owed_iff k c r).mp ⟨_, hk, rfl, ?_⟩
    show (if c.isSweep then none else some r) = some r
    rw [hsweep]
    rfl
  · intro k c r hentry
    obtain ⟨p, hk, hcall, -⟩ := (h.owed_iff k c r).mpr hentry
    exact ⟨p, hk, hcall⟩
  · exact @Program.observe_grows _ _ _ _ _ (diagSlotProgram capacity) (diagSlotNote capacity) _ id
      Program.noteSettled_grows [] diagSlotPool es
  · intro c f hmem
    exact h.holds.call _ hmem

/-- Two slots: granule `1` is opened; an open of `2`, one of `3`, whose slot is taken, and a
registration in `1` take their steps in turn; then a free in `1` and the close of `2`, and a sweep. -/
def contractRun : List (Interleaving.Event DiagSlotCall Unit) :=
  .start (.open_ (Env.ample default) 1) :: List.replicate 4 (.step 0 ()) ++
    [.start (.open_ (Env.ample default) 2), .start (.open_ (Env.ample default) 3),
      .start (.op (Env.ample default) 1 (.addAlloc 7 16 0 3))] ++
    (List.replicate 6 [.step 1 (), .step 2 (), .step 3 ()]).flatten ++
    [.start (.op (Env.ample default) 1 (.markFreed 7)), .start (.close (Env.ample default) 2)] ++
    (List.replicate 9 [.step 4 (), .step 5 ()]).flatten ++
    .start (.sweep (Env.ample default)) :: List.replicate 8 (.step 6 ())

theorem contractRun_plentiful (c : DiagSlotCall) (hc : .start c ∈ contractRun) :
    c.env.Plentiful := by
  have henv : ∀ e ∈ contractRun, ∀ c, e = .start c → c.env = Env.ample default := by
    simp [contractRun, DiagSlotCall.env]
  rw [henv _ hc c rfl]
  exact Env.plentiful_ample default

theorem diag_slots_linearizable_contract :
    ∃ arr, slotArrayDiagCreate (Env.ample default) 2 = some arr ∧ ActsAsSlots 2 arr contractRun :=
  ⟨_, rfl, @diag_slots_linearizable 2 _ (Env.ample default) contractRun rfl (by decide)
    (by decide +kernel) contractRun_plentiful⟩

/-! ### Accesses that race

The pointer of a slot is not atomic, nor are the fields of a record. -/

/-- The slot whose pointer the next step of the call stores. -/
def DiagSlotPc.storesDiag (capacity : UInt32) : DiagSlotPc → Option ℕ
  | .openStoreDiag _ id _ | .closeClearDiag _ id _ => some (diagSlotAt capacity id)
  | _ => none

/-- The slot whose pointer the next step of the call loads, unless it is a sweep. -/
def DiagSlotPc.loadsDiag (capacity : UInt32) : DiagSlotPc → Option ℕ
  | .openTestDiag _ id | .findTestDiag _ _ id | .findLoadDiag _ _ id | .findTakeDiag _ _ id =>
    some (diagSlotAt capacity id)
  | _ => none

/-- The record that the next step of the call destroys. -/
def DiagSlotPc.destroys : DiagSlotPc → Option ℕ
  | .closeDestroy _ _ diag _ _ => some diag
  | _ => none

/-- The record that the next step of the call reads or writes. -/
def DiagSlotPc.accesses : DiagSlotPc → Option ℕ
  | .findLoadId _ _ _ diag | .sweepLoadCount _ _ _ _ diag => diag
  | .opRecord _ _ _ diag | .closeLoadCount _ _ diag | .closeReport _ _ diag _
  | .closeDestroy _ _ diag _ _ => some diag
  | _ => none

/-- The next steps of two calls race: one stores a pointer that the other accesses, or destroys a
record that the other accesses. -/
def Races (capacity : UInt32) (p q : DiagSlotPc) : Prop :=
  (∃ i, p.storesDiag capacity = some i ∧
      (q.storesDiag capacity = some i ∨ q.loadsDiag capacity = some i)) ∨
    ∃ address, p.destroys = some address ∧ q.accesses = some address

/-- A call accesses the pointer of a slot only while the slot is its own granule's. -/
theorem DiagSlotPc.Holds.owns_slot {m : SharedSlots × SlotArrayDiag} {p : DiagSlotPc} {i : ℕ}
    (h : p.Holds capacity m)
    (hi : p.storesDiag capacity = some i ∨ p.loadsDiag capacity = some i) :
    p.hasReturned = false ∧ ∃ d, m.2.mem i = some d ∧ p.call.granule = some d.granuleId := by
  cases p with
  | openStoreDiag env id diag =>
    obtain ⟨address, d, -, -, -, hmem, rfl⟩ := h
    rcases hi with hi | hi <;> cases hi
    exact ⟨rfl, d, hmem, rfl⟩
  | closeClearDiag env id out =>
    obtain ⟨-, address, -, -, d, -, hmem, rfl⟩ := h
    rcases hi with hi | hi <;> cases hi
    exact ⟨rfl, d, hmem, rfl⟩
  | openTestDiag env id =>
    obtain ⟨address, -, d, -, hmem, rfl⟩ := h
    rcases hi with hi | hi <;> cases hi
    exact ⟨rfl, d, hmem, rfl⟩
  | findTestDiag caller env id | findLoadDiag caller env id | findTakeDiag caller env id =>
    obtain ⟨-, address, -, d, -, hmem, rfl⟩ := h
    rcases hi with hi | hi <;> cases hi
    refine ⟨rfl, d, hmem, ?_⟩
    cases caller <;> rfl
  | _ => rcases hi with hi | hi <;> cases hi

/-- A call accesses a record only if it is its own granule's, or sweeps. -/
theorem DiagSlotPc.Holds.owns_record {m : SharedSlots × SlotArrayDiag} {p : DiagSlotPc}
    {address : ℕ} (h : p.Holds capacity m) (haccess : p.accesses = some address) :
    p.hasReturned = false ∧ ∃ d, m.1.At address d ∧
      (p.call.isSweep = true ∨ p.call.granule = some d.granuleId) := by
  cases p with
  | findLoadId caller env id diag =>
    obtain ⟨-, other, rfl, -, d, hat, -, rfl⟩ := h
    cases haccess
    refine ⟨rfl, d, hat, Or.inr ?_⟩
    cases caller <;> rfl
  | sweepLoadCount env i drainable pinned diag =>
    obtain ⟨other, d, rfl, hat⟩ := h
    cases haccess
    exact ⟨rfl, d, hat, Or.inl rfl⟩
  | opRecord op env id diag =>
    obtain ⟨-, -, d, hat, -, rfl⟩ := h
    cases haccess
    exact ⟨rfl, d, hat, Or.inr rfl⟩
  | closeLoadCount env id diag =>
    obtain ⟨-, d, hat, rfl, -, -⟩ := h
    cases haccess
    exact ⟨rfl, d, hat, Or.inr rfl⟩
  | closeReport env id diag liveCount =>
    obtain ⟨-, d, ⟨hat, rfl, -, -⟩, -⟩ := h
    cases haccess
    exact ⟨rfl, d, hat, Or.inr rfl⟩
  | closeDestroy env id diag liveCount report =>
    obtain ⟨d, hat, rfl, -, -⟩ := h
    cases haccess
    exact ⟨rfl, d, hat, Or.inr rfl⟩
  | _ => cases haccess

/-- **Diagnostic mode has no data races** under the contract of the callers: at no moment of any
interleaving do the next steps of two calls race for the pointer of a slot, sweeps apart, or for the
life of a record. -/
theorem diag_slots_race_free {env : Env} {es : List (Interleaving.Event DiagSlotCall Unit)}
    (hcreate : slotArrayDiagCreate env capacity = some arr) (hc : capacity ≠ 0)
    (hcontract : (diagSlotProgram capacity).Along DiagSlotContract diagSlotPool es)
    (henv : ∀ c, .start c ∈ es → c.env.Plentiful) {i j : ℕ} {p q : DiagSlotPc} (hne : i ≠ j)
    (hp : ((diagSlotProgram capacity).run diagSlotPool es).calls[i]? = some p)
    (hq : ((diagSlotProgram capacity).run diagSlotPool es).calls[j]? = some q) :
    ¬Races capacity p q := by
  obtain ⟨arr', h⟩ := exists_diagSlotInv hcreate hc hcontract henv
  have hholds : p.Holds capacity _ := h.holds.call_of_getElem? hp
  have hholds' : q.Holds capacity _ := h.holds.call_of_getElem? hq
  have hpair := h.holds.pair i j p q hne hp hq
  rintro (⟨k, hstores, haccess⟩ | ⟨address, hdestroys, haccess⟩)
  · obtain ⟨hflight, d, hd, hgranule⟩ := hholds.owns_slot (Or.inl hstores)
    obtain ⟨hflight', d', hd', hgranule'⟩ := hholds'.owns_slot haccess
    rw [hd, Option.some.injEq] at hd'
    subst hd'
    have hlifecycle := ((hpair hflight hflight').1 (hgranule.trans hgranule'.symm)).1
    cases p with
    | openStoreDiag env id diag | closeClearDiag env id out => cases hlifecycle
    | _ => cases hstores
  · have haccess' : p.accesses = some address := by
      cases p with
      | closeDestroy env id diag liveCount report => exact hdestroys
      | _ => cases hdestroys
    obtain ⟨hflight, d, hat, hown⟩ := hholds.owns_record haccess'
    obtain ⟨hflight', d', hat', hown'⟩ := hholds'.owns_record haccess
    have hd : d' = d := hat.unique hat'
    subst hd
    have hcompat := hpair hflight hflight'
    cases p with
    | closeDestroy env id diag liveCount report =>
      rcases hown with hsweep | hgranule
      · cases hsweep
      · rcases hown' with hsweep' | hgranule'
        · cases hcompat.2.2 hsweep'
        · cases (hcompat.1 (hgranule.trans hgranule'.symm)).1
    | _ => cases hdestroys

theorem diag_slots_race_free_contract :
    ∃ arr, slotArrayDiagCreate (Env.ample default) 2 = some arr ∧
      ∀ p ∈ ((diagSlotProgram 2).run diagSlotPool (contractRun.take 12)).calls[1]?,
        ∀ q ∈ ((diagSlotProgram 2).run diagSlotPool (contractRun.take 12)).calls[2]?,
          ¬Races 2 p q :=
  ⟨_, rfl, fun _ hp _ hq => @diag_slots_race_free 2 _ (Env.ample default) (contractRun.take 12) rfl
    (by decide) (by decide +kernel) (fun c hc => contractRun_plentiful c (List.mem_of_mem_take hc))
    1 2 _ _ (by decide) hp hq⟩

/-- A sweep that overlaps with a close: it has loaded the pointer when the close clears the slot and
destroys the record. -/
def sweptCloseRun : List (Interleaving.Event DiagSlotCall Unit) :=
  .start (.open_ (Env.ample default) 1) :: List.replicate 4 (.step 0 ()) ++
    .start (.sweep (Env.ample default)) :: List.replicate 4 (.step 1 ()) ++
    .start (.close (Env.ample default) 1) :: List.replicate 9 (.step 2 ()) ++ [.step 1 ()]

/-- The call has ended in a fault. -/
def DiagSlotPc.hasFaulted : DiagSlotPc → Bool
  | .faulted _ _ => true
  | _ => false

/-- The contract is needed: such a sweep reads the destroyed record. -/
example : ((diagSlotProgram 2).run diagSlotPool sweptCloseRun).calls.any DiagSlotPc.hasFaulted = true ∧
    ¬(diagSlotProgram 2).Along DiagSlotContract diagSlotPool sweptCloseRun := by
  decide +kernel

end Main

end Drainprof
