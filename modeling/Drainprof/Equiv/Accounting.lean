import Drainprof.Equiv.Diagnostic

/-!
# The counter of open granules

`open_granules` is kept apart from the slots and adjusted on return codes.  `Profiler.Accounts` says
that it is the number of slots in use, and that the peak is between it and the capacity.  Three calls
break this, and no other does (`Profiler.KeepsCount`): a production `open` of a granule that is
found, which counts it again; a production `close` of a granule with `UINT32_MAX` live allocations,
which releases the slot and returns `-1`; and a diagnostic `reset` that leaves slots in use.
-/

namespace Drainprof

open Probing Transition

/-! ### The counters -/

/-- The counters are right for `used` slots in use out of `capacity`. -/
structure Counters.Within (c : Counters) (used capacity : ℕ) : Prop where
  open_eq : c.openGranules.toNat = used
  open_le_peak : c.openGranules.toNat ≤ c.peakOpenGranules.toNat
  peak_le : c.peakOpenGranules.toNat ≤ capacity

namespace Counters.Within

variable {c : Counters} {used used' capacity : ℕ}

theorem used_le (h : c.Within used capacity) : used ≤ capacity := by
  rw [← h.open_eq]
  exact h.open_le_peak.trans h.peak_le

/-- A call that leaves the two counters alone must leave the slots alone. -/
theorem same_iff (h : c.Within used capacity) {c' : Counters}
    (hopen : c'.openGranules = c.openGranules) (hpeak : c'.peakOpenGranules = c.peakOpenGranules) :
    c'.Within used' capacity ↔ used' = used := by
  constructor
  · intro h'
    rw [← h'.open_eq, hopen, h.open_eq]
  · rintro rfl
    exact ⟨by rw [hopen, h.open_eq], by rw [hopen, hpeak]; exact h.open_le_peak,
      by rw [hpeak]; exact h.peak_le⟩

theorem opened_iff (h : c.Within used capacity) (hcap : capacity < 2 ^ 32)
    (hle : used' ≤ capacity) : c.opened.Within used' capacity ↔ used' = used + 1 := by
  have hused := h.used_le
  have hsucc : (c.openGranules + 1).toNat = used + 1 := by
    rw [UInt64.toNat_add, h.open_eq]
    exact Nat.mod_eq_of_lt (by show used + 1 < 2 ^ 64; omega)
  constructor
  · intro h'
    rw [← h'.open_eq]
    exact hsucc
  · rintro rfl
    refine ⟨hsucc, ?_, ?_⟩
    · show (c.openGranules + 1).toNat ≤
        (if c.openGranules + 1 > c.peakOpenGranules then _ else _ : UInt64).toNat
      split_ifs with hpeak
      · exact le_rfl
      · exact UInt64.le_iff_toNat_le.mp (UInt64.not_lt.mp hpeak)
    · show (if c.openGranules + 1 > c.peakOpenGranules then _ else _ : UInt64).toNat ≤ capacity
      split_ifs
      · omega
      · exact h.peak_le

theorem closed_iff (h : c.Within used capacity) (hpos : 0 < used) (drainable : Bool) :
    (c.closed drainable).Within used' capacity ↔ used' + 1 = used := by
  have hopen : (c.closed drainable).openGranules = c.openGranules - 1 := by
    cases drainable <;> rfl
  have hpeak : (c.closed drainable).peakOpenGranules = c.peakOpenGranules := by
    cases drainable <;> rfl
  have heq := h.open_eq
  have hpred : (c.openGranules - 1).toNat = used - 1 := by
    rw [UInt64.toNat_sub_of_le _ _ (UInt64.le_iff_toNat_le.mpr (by
      rw [heq]; show 1 ≤ used; omega)), heq]
    rfl
  have hle := h.open_le_peak
  have hcap := h.peak_le
  constructor
  · intro h'
    rw [← h'.open_eq, hopen, hpred]
    omega
  · intro hused
    exact ⟨by rw [hopen, hpred]; omega, by rw [hopen, hpeak, hpred]; omega, by rw [hpeak]; exact hcap⟩

theorem zero_iff : Counters.zero.Within used capacity ↔ used = 0 := by
  constructor
  · intro h
    exact h.open_eq.symm
  · rintro rfl
    exact ⟨rfl, le_rfl, Nat.zero_le _⟩

end Counters.Within

/-- Apart from `reset`, a call that neither opens nor closes a granule leaves the two counters
alone. -/
theorem Counters.after_of_kept (c : Counters) {call : Call} {r : Result} (hreset : call ≠ .reset)
    (hmoved : ∀ g ∈ call.moved, r = .int (-1)) :
    (c.after call r).openGranules = c.openGranules ∧
      (c.after call r).peakOpenGranules = c.peakOpenGranules := by
  cases call with
  | granuleOpen g => rw [hmoved g rfl]; exact ⟨rfl, rfl⟩
  | granuleClose g => rw [hmoved g rfl]; exact ⟨rfl, rfl⟩
  | reset => exact absurd rfl hreset
  | _ => exact ⟨rfl, rfl⟩

/-- A close that returns `1` or `0` counts one granule less. -/
theorem Counters.after_close (c : Counters) (g : GranuleId) {r : Int} (hr : r = 0 ∨ r = 1) :
    ∃ drainable, c.after (.granuleClose g) (.int r) = c.closed drainable := by
  rcases hr with rfl | rfl
  · exact ⟨false, rfl⟩
  · exact ⟨true, rfl⟩

/-! ### The profiler -/

/-- The counters of open granules are right for the slots. -/
def Profiler.Accounts (prof : Profiler) : Prop :=
  prof.counters.Within prof.openCount prof.config.slotCapacity.toNat

/-- The storage has the capacity of the configuration. -/
def Profiler.Sized (prof : Profiler) : Prop :=
  match prof.storage with
  | .slotArray arr => arr.capacity = prof.config.slotCapacity
  | .slotArrayDiag arr => arr.capacity = prof.config.slotCapacity

/-- The calls that keep the counter right. -/
def Profiler.KeepsCount (prof : Profiler) (i : Env × Call) : Prop :=
  match prof.storage, i.2 with
  | .slotArray arr, .granuleOpen g => findSlot arr g = none
  | .slotArray arr, .granuleClose g => ∀ j ∈ findSlot arr g, (arr.slot j).liveCount ≠ uint32Max
  | .slotArrayDiag arr, .reset => arr.occupiedCount = 0
  | _, _ => True

instance (prof : Profiler) (i : Env × Call) : Decidable (prof.KeepsCount i) :=
  match hs : prof.storage, hc : i.2 with
  | .slotArray arr, .granuleOpen g =>
    decidable_of_iff (findSlot arr g = none) (by rw [Profiler.KeepsCount, hs, hc])
  | .slotArray arr, .granuleClose g =>
    have : Decidable (∀ j ∈ findSlot arr g, (arr.slot j).liveCount ≠ uint32Max) :=
      Option.decidableForallMem _
    decidable_of_iff (∀ j ∈ findSlot arr g, (arr.slot j).liveCount ≠ uint32Max)
      (by rw [Profiler.KeepsCount, hs, hc])
  | .slotArrayDiag arr, .reset =>
    decidable_of_iff (arr.occupiedCount = 0) (by rw [Profiler.KeepsCount, hs, hc])
  | .slotArray arr, .allocRegister _ _ _ | .slotArray arr, .allocRegisterLocated _ _ _ _ _
  | .slotArray arr, .allocDeregister _ _ | .slotArray arr, .snapshot | .slotArray arr, .sweep
  | .slotArray arr, .reset | .slotArray arr, .drainReports _
  | .slotArray arr, .diagnosticSummaryCompute
  | .slotArrayDiag arr, .granuleOpen _ | .slotArrayDiag arr, .granuleClose _
  | .slotArrayDiag arr, .allocRegister _ _ _ | .slotArrayDiag arr, .allocRegisterLocated _ _ _ _ _
  | .slotArrayDiag arr, .allocDeregister _ _ | .slotArrayDiag arr, .snapshot
  | .slotArrayDiag arr, .sweep | .slotArrayDiag arr, .drainReports _
  | .slotArrayDiag arr, .diagnosticSummaryCompute =>
    isTrue (by rw [Profiler.KeepsCount, hs, hc]; trivial)

section Keeps

variable {prof : Profiler} {env : Env} {c : Call}

theorem keepsCount_of_kept {arr : SlotArray} (hs : prof.storage = .slotArray arr)
    (hmoved : ∀ g ∈ c.moved, findSlot arr g = none) : prof.KeepsCount (env, c) := by
  rw [Profiler.KeepsCount, hs]
  cases c with
  | granuleOpen g => exact hmoved g rfl
  | granuleClose g => intro j hj; rw [hmoved g rfl] at hj; cases hj
  | _ => trivial

theorem keepsCount_slotArrayDiag_iff {arr : SlotArrayDiag} (hs : prof.storage = .slotArrayDiag arr) :
    prof.KeepsCount (env, c) ↔ (c = .reset → arr.occupiedCount = 0) := by
  rw [Profiler.KeepsCount, hs]
  cases c with
  | reset => exact ⟨fun h _ => h, fun h => h rfl⟩
  | _ => exact iff_of_true trivial nofun

end Keeps

section Step

variable {prof prof' : Profiler} {env : Env} {c : Call} {o : Outcome}

/-- Freeing the slot of a granule leaves one slot less in use. -/
theorem SlotArray.occupiedCount_release {arr : SlotArray} {g : GranuleId}
    {i : Fin arr.capacity.toNat} (hfind : findSlot arr g = some i) :
    (arr.setSlot i GranuleSlot.free).occupiedCount + 1 = arr.occupiedCount := by
  have hocc := arr.occupiedCount_setSlot i GranuleSlot.free
  rw [(GranuleSlot.key_eq_some_iff.mp (key_of_findSlot hfind)).1] at hocc
  exact hocc

/-- Which calls keep the counter right in production mode: the cases are what the call does to the
array. -/
theorem accounts_slotArray_iff {arr : SlotArray} (hs : prof.storage = .slotArray arr)
    (hsized : prof.Sized) (h : prof.Accounts) (hcall : prof.call (env, c) = .ok (o, prof')) :
    prof'.Accounts ↔ prof.KeepsCount (env, c) := by
  obtain ⟨arr', hs', hstep⟩ := call_slotArray_step hs hcall
  obtain ⟨hconfig, hcounters⟩ := call_counters hcall
  rw [Profiler.Accounts, Profiler.openCount_slotArray hs] at h
  rw [Profiler.Sized, hs] at hsized
  dsimp only at hsized
  have hcap : prof.config.slotCapacity.toNat < 2 ^ 32 := prof.config.slotCapacity.toNat_lt
  rw [Profiler.Accounts, Profiler.openCount_slotArray hs', hconfig, hcounters]
  generalize o.result = r at hstep ⊢
  cases hstep with
  | keep hreset hmoved =>
    obtain ⟨hopen, hpeak⟩ := prof.counters.after_of_kept hreset fun g hg => (hmoved g hg).1
    exact iff_of_true ((h.same_iff hopen hpeak).mpr rfl)
      (keepsCount_of_kept hs fun g hg => (hmoved g hg).2)
  | @claim g i hstop =>
    have hocc := arr.occupiedCount_setSlot i ⟨0, true, g⟩
    have hle := (arr.setSlot i ⟨0, true, g⟩).occupiedCount_le
    have hfree : (arr.slot i).occupied = false := by
      rw [← GranuleSlot.key_eq_none_iff, ← arr.holds_val]
      exact free_of_locate_eq_empty hstop
    rw [hfree] at hocc
    refine iff_of_true ((h.opened_iff hcap (by rw [← hsized]; exact hle)).mpr hocc) ?_
    rw [Profiler.KeepsCount, hs]
    exact findSlot_eq_none_iff.mpr (by rw [hstop]; nofun)
  | @reopen g i hfind =>
    have hle := arr.occupiedCount_le
    rw [Profiler.KeepsCount, hs]
    -- the granule is counted once more, in the slot it has
    refine iff_of_false ?_ fun hnone : findSlot arr g = none => ?_
    · intro h'
      have := (h.opened_iff hcap (by rw [← hsized]; exact hle)).mp h'
      omega
    · rw [hfind] at hnone
      cases hnone
  | @release g i r hfind hmax hr =>
    obtain ⟨drainable, hafter⟩ := prof.counters.after_close g hr
    have hsucc := SlotArray.occupiedCount_release hfind
    rw [hafter, Profiler.KeepsCount, hs]
    refine iff_of_true ((h.closed_iff (by omega) drainable).mpr hsucc) ?_
    intro j hj
    rw [hfind] at hj
    cases hj
    exact hmax
  | @lose g i hfind hmax =>
    have hsucc := SlotArray.occupiedCount_release hfind
    rw [Profiler.KeepsCount, hs]
    -- the slot is freed, and the call fails before it counts the close
    refine iff_of_false ?_ fun hkeeps => hkeeps i hfind hmax
    intro h'
    obtain ⟨hopen, hpeak⟩ := @Counters.after_of_kept prof.counters (.granuleClose g) (.int (-1)) nofun
      fun _ _ => rfl
    have := (h.same_iff hopen hpeak).mp h'
    omega
  | @recount _ g i n hmoved hreset hfind =>
    have hocc := arr.occupiedCount_setSlot i { arr.slot i with liveCount := n }
    have hnone : ∀ g' ∈ c.moved, Result.int 0 = .int (-1) ∧ findSlot arr g' = none := by
      rw [hmoved]
      nofun
    obtain ⟨hopen, hpeak⟩ := prof.counters.after_of_kept hreset fun g' hg => (hnone g' hg).1
    exact iff_of_true ((h.same_iff hopen hpeak).mpr (Nat.add_right_cancel hocc))
      (keepsCount_of_kept hs fun g' hg => (hnone g' hg).2)
  | reset =>
    exact iff_of_true (Counters.Within.zero_iff.mpr arr.occupiedCount_cleared)
      (keepsCount_of_kept hs nofun)

/-- Which calls keep the counter right in diagnostic mode: all but a reset of open granules. -/
theorem accounts_slotArrayDiag_iff {arr : SlotArrayDiag} (hs : prof.storage = .slotArrayDiag arr)
    (hsized : prof.Sized) (h : prof.Accounts) (hcall : prof.call (env, c) = .ok (o, prof')) :
    prof'.Accounts ↔ prof.KeepsCount (env, c) := by
  obtain ⟨arr', hs', hstep⟩ := call_slotArrayDiag_step hs hcall
  obtain ⟨hconfig, hcounters⟩ := call_counters hcall
  rw [Profiler.Accounts, Profiler.openCount_slotArrayDiag hs] at h
  rw [Profiler.Sized, hs] at hsized
  dsimp only at hsized
  have hcap : prof.config.slotCapacity.toNat < 2 ^ 32 := prof.config.slotCapacity.toNat_lt
  rw [Profiler.Accounts, Profiler.openCount_slotArrayDiag hs', hconfig, hcounters,
    keepsCount_slotArrayDiag_iff hs]
  generalize o.result = r at hstep ⊢
  have hfound : ∀ {i g d}, (arr.slot i).find g = some d → (arr.slot i).occupied = true :=
    fun hfind => (DiagSlot.find_eq_some_iff.mp hfind).1
  cases hstep with
  | keep hmoved hregister =>
    by_cases hreset : c = .reset
    · -- the counter is reset and the slots are not
      subst hreset
      rw [forall_prop_of_true rfl]
      exact Counters.Within.zero_iff
    · obtain ⟨hopen, hpeak⟩ := prof.counters.after_of_kept hreset hmoved
      exact iff_of_true ((h.same_iff hopen hpeak).mpr rfl) fun h' => absurd h' hreset
  | @claim g i d hi hocc hcreate =>
    have hset := arr.occupiedCount_setSlot i ⟨true, some d⟩
    rw [hocc] at hset
    have hle := (arr.setSlot i ⟨true, some d⟩).occupiedCount_le
    exact iff_of_true ((h.opened_iff hcap (by rw [← hsized]; exact hle)).mpr hset) nofun
  | @abort g i hocc =>
    have hset := arr.occupiedCount_setSlot i ⟨false, none⟩
    rw [hocc] at hset
    obtain ⟨hopen, hpeak⟩ := @Counters.after_of_kept prof.counters (.granuleOpen g) (.int (-1)) nofun
      fun _ _ => rfl
    exact iff_of_true ((h.same_iff hopen hpeak).mpr hset) nofun
  | @release g i d r hi hfind hr =>
    obtain ⟨drainable, hafter⟩ := prof.counters.after_close g hr
    have hset := arr.occupiedCount_setSlot i ⟨false, none⟩
    rw [hfound hfind] at hset
    have hsucc : (arr.setSlot i ⟨false, none⟩).occupiedCount + 1 = arr.occupiedCount := hset
    rw [hafter]
    exact iff_of_true ((h.closed_iff (by omega) drainable).mpr hsucc) nofun
  | @register _ g a size file line i d r d' hc hi hfind hadd =>
    obtain ⟨hmoved, hreset⟩ := Call.moved_of_located hc
    have hset := arr.occupiedCount_setSlot i ⟨true, some d'⟩
    rw [hfound hfind] at hset
    obtain ⟨hopen, hpeak⟩ := @Counters.after_of_kept prof.counters _ (.int r) hreset (by rw [hmoved]; nofun)
    exact iff_of_true ((h.same_iff hopen hpeak).mpr (Nat.add_right_cancel hset))
      fun h' => absurd h' hreset
  | @deregister g a i d r d' hi hfind hfreed =>
    have hset := arr.occupiedCount_setSlot i ⟨true, some d'⟩
    rw [hfound hfind] at hset
    obtain ⟨hopen, hpeak⟩ := @Counters.after_of_kept prof.counters (.allocDeregister g a) (.int r)
      nofun nofun
    exact iff_of_true ((h.same_iff hopen hpeak).mpr (Nat.add_right_cancel hset)) nofun

end Step

/-! ### Runs -/

theorem sized_call {prof prof' : Profiler} {i : Env × Call} {o : Outcome} (h : prof.Sized)
    (hcall : prof.call i = .ok (o, prof')) : prof'.Sized := by
  have hconfig := (call_counters hcall).1
  unfold Profiler.Sized at h
  cases hs : prof.storage with
  | slotArray arr =>
    obtain ⟨arr', hs', hstep⟩ := call_slotArray_step hs hcall
    rw [hs] at h
    rw [Profiler.Sized, hs', hconfig]
    exact hstep.capacity_eq.trans h
  | slotArrayDiag arr =>
    obtain ⟨arr', hs', hstep⟩ := call_slotArrayDiag_step hs hcall
    rw [hs] at h
    rw [Profiler.Sized, hs', hconfig]
    exact hstep.capacity_eq.trans h

/-- Which calls keep the counter right, in either mode. -/
theorem accounts_call_iff {prof prof' : Profiler} {i : Env × Call} {o : Outcome}
    (hsized : prof.Sized) (h : prof.Accounts) (hcall : prof.call i = .ok (o, prof')) :
    prof'.Accounts ↔ prof.KeepsCount i := by
  cases hs : prof.storage with
  | slotArray arr => exact accounts_slotArray_iff hs hsized h hcall
  | slotArrayDiag arr => exact accounts_slotArrayDiag_iff hs hsized h hcall

theorem accounts_of_created {env : Env} {config : Config} {prof : Profiler}
    (h : createWithConfig env config = some prof) : prof.Sized ∧ prof.Accounts := by
  cases hmode : config.mode with
  | production =>
    obtain ⟨hconfig, hcounters, -, arr, hs, harr⟩ := createWithConfig_production h hmode
    unfold slotArrayCreate at harr
    split_ifs at harr with h₁ h₂ h₃
    cases harr
    rw [Profiler.Sized, Profiler.Accounts, Profiler.openCount, hs, hconfig, hcounters]
    refine ⟨rfl, Counters.Within.zero_iff.mpr (List.countP_eq_zero.mpr ?_)⟩
    intro s hmem
    rw [List.eq_of_mem_replicate hmem]
    exact Bool.false_ne_true
  | diagnostic =>
    obtain ⟨hconfig, hcounters, -, arr, hs, hcap, hfree⟩ := createWithConfig_diag h hmode
    rw [Profiler.Sized, Profiler.Accounts, Profiler.openCount, hs, hconfig, hcounters]
    refine ⟨hcap, Counters.Within.zero_iff.mpr (List.countP_eq_zero.mpr ?_)⟩
    intro s hmem
    obtain ⟨j, hj, rfl⟩ := List.getElem_of_mem hmem
    have hslot : arr.slots[j] = DiagSlot.free := hfree ⟨j, by rwa [← arr.length_slots]⟩
    rw [hslot]
    exact Bool.false_ne_true

/-- **The counter of open granules is right as long as no call breaks it.**  In a run from the
creation, whatever fails on the way, every state reached has the right counter and peak iff every
call of the run keeps them. -/
theorem open_granules_exact_iff {env : Env} {config : Config} {prof prof' : Profiler}
    (hcreate : createWithConfig env config = some prof) {calls : List (Env × Call)}
    {os : List Outcome} (hrun : run Profiler.call prof calls = .ok (os, prof')) :
    (∀ js p ot, js <+: calls → run Profiler.call prof js = .ok (ot, p) → p.Accounts) ↔
      Meets Profiler.call Profiler.KeepsCount prof calls := by
  obtain ⟨hsized, haccounts⟩ := accounts_of_created hcreate
  have hall : Meets Profiler.call (fun _ _ => True) prof calls :=
    meets_of_forall fun _ _ => trivial
  exact invariant_iff_meets (fun h _ hcall => sized_call h hcall)
    (fun h h' _ hcall => accounts_call_iff h h' hcall) hsized haccounts hall hrun

/-- Opening granule `0` twice makes two open granules of the one slot in use. -/
theorem open_granules_drifts :
    ¬∀ (env : Env) (config : Config) (prof prof' : Profiler) (calls : List (Env × Call))
      (os : List Outcome), createWithConfig env config = some prof →
      run Profiler.call prof calls = .ok (os, prof') → prof'.Accounts := by
  intro h
  let env := Env.ample default
  let prof := (createWithConfig env (smallConfig .production 1)).get rfl
  obtain ⟨⟨os, prof'⟩, hrun, hdrift⟩ := exists_of_okAnd (show okAnd
    (run Profiler.call prof [(env, .granuleOpen 0), (env, .granuleOpen 0)])
    (fun r => r.2.counters.openGranules.toNat ≠ r.2.openCount) = true by decide)
  exact of_decide_eq_true hdrift (h env (smallConfig .production 1) prof prof' _ os rfl hrun).open_eq

theorem open_granules_once :
    ∃ prof os prof', createWithConfig (Env.ample default) (smallConfig .production 1) = some prof ∧
      run Profiler.call prof (([.granuleOpen 0, .allocRegister 0 7 64, .granuleOpen 1,
        .granuleClose 0, .reset] : List Call).map fun c => (Env.ample default, c))
        = .ok (os, prof') ∧ prof'.Accounts := by
  let env := Env.ample default
  let prof := (createWithConfig env (smallConfig .production 1)).get rfl
  have hcreate : createWithConfig env (smallConfig .production 1) = some prof := rfl
  obtain ⟨⟨os, prof'⟩, hrun, -⟩ := exists_of_okAnd (show okAnd (run Profiler.call prof
    (([.granuleOpen 0, .allocRegister 0 7 64, .granuleOpen 1, .granuleClose 0, .reset] :
      List Call).map fun c => (env, c))) (fun _ => true) = true by decide)
  exact ⟨prof, os, prof', hcreate, hrun,
    (open_granules_exact_iff hcreate hrun).mpr (by decide) _ _ _ (List.prefix_refl _) hrun⟩

end Drainprof
