import Drainprof.Equiv.Diagnostic

/-!
# Calls that fail

A call that returns `-1` is expected to change nothing but the totals of attempted registrations and
deregistrations.  Two calls return `-1` and do: a production `close` of a granule whose live count is
`UINT32_MAX`, which is taken for the error value after the slot has been released, and a diagnostic
registration for which the record array would have to grow past `2 ^ 31` records, where the request
wraps to zero bytes and frees the array.  No other failing call changes anything, in any state that
a profiler can reach, whichever of the library's allocations fail (`failed_call_unchanged_iff`).
-/

namespace Drainprof

open Transition

/-! ### What a failing call must keep -/

/-- The counters but for the totals of registrations and deregistrations. -/
def Counters.granules (c : Counters) : Counters :=
  { c with totalAllocs := 0, totalDeallocs := 0 }

/-- The two profilers have the same slots, records and buffered reports, and the same counters but
for the totals of registrations and deregistrations. -/
structure Profiler.SameState (prof prof' : Profiler) : Prop where
  storage : prof'.storage = prof.storage
  reportBuffer : prof'.reportBuffer = prof.reportBuffer
  counters : prof'.counters.granules = prof.counters.granules

section Frame

variable {prof prof' : Profiler} {env : Env}

/-- A `close` that fails makes no report. -/
theorem granuleClose_failed_reportBuffer {g : GranuleId} {events : List Event}
    (h : granuleClose env prof g = .ok (-1, prof', events)) :
    prof'.reportBuffer = prof.reportBuffer := by
  cases hs : prof.storage with
  | slotArray arr =>
    rw [granuleClose, hs] at h
    dsimp only at h
    split_ifs at h
    · cases h
      rfl
    all_goals cases h
  | slotArrayDiag arr =>
    obtain ⟨i, -, ⟨-, -, rfl, -⟩ | ⟨d, -, -, ⟨-, hr, -⟩ | ⟨p, reported, -, -, hr, -⟩⟩⟩ :=
      granuleClose_diag_returns hs h
    · rfl
    · cases hr
    · cases hr

/-- Whatever a failing call does to the slots, it leaves the reports and the counters alone. -/
theorem failed_call_frame {c : Call} {o : Outcome} (hcall : prof.call (env, c) = .ok (o, prof'))
    (hfail : o.result = .int (-1)) : prof'.reportBuffer = prof.reportBuffer ∧
      prof'.counters.granules = prof.counters.granules := by
  have hcounters := (call_counters hcall).2
  rw [hfail] at hcounters
  rw [hcounters]
  cases returns_of_call hcall with
  | granuleOpen hopen => exact ⟨granuleOpen_reportBuffer hopen, rfl⟩
  | granuleClose hclose =>
    cases hfail
    exact ⟨granuleClose_failed_reportBuffer hclose, rfl⟩
  | allocRegister hreg => exact ⟨allocRegisterLocated_reportBuffer hreg, rfl⟩
  | allocRegisterLocated hreg => exact ⟨allocRegisterLocated_reportBuffer hreg, rfl⟩
  | allocDeregister hdereg => exact ⟨allocDeregister_reportBuffer hdereg, rfl⟩
  -- the other calls do not return an `int`
  | _ => cases hfail

end Frame

/-! ### The calls that fail with an effect -/

/-- The call is a production `close` of a granule with `UINT32_MAX` live allocations, or a diagnostic
registration that frees the record array. -/
def Profiler.Destroys (prof : Profiler) (c : Call) : Prop :=
  (∃ arr g i, prof.storage = .slotArray arr ∧ c = .granuleClose g ∧ findSlot arr g = some i ∧
      (arr.slot i).liveCount = uint32Max) ∨
    ∃ arr g a size file line i d, prof.storage = .slotArrayDiag arr ∧
      c.located = .allocRegisterLocated g a size file line ∧
      diagSlotIndex arr.capacity g = .ok i ∧ (arr.slot i).find g = some d ∧ d.Saturated

section Destroys

variable {prof : Profiler} {c : Call}

/-- In production mode only a `close` destroys anything. -/
theorem destroys_slotArray_iff {arr : SlotArray} (hs : prof.storage = .slotArray arr) :
    prof.Destroys c ↔ ∃ g i, c = .granuleClose g ∧ findSlot arr g = some i ∧
      (arr.slot i).liveCount = uint32Max := by
  constructor
  · rintro (⟨arr', g, i, hs', h⟩ | ⟨arr', _, _, _, _, _, _, _, hs', -⟩)
    · rw [hs] at hs'
      cases hs'
      exact ⟨g, i, h⟩
    · rw [hs] at hs'
      cases hs'
  · rintro ⟨g, i, h⟩
    exact Or.inl ⟨arr, g, i, hs, h⟩

/-- In diagnostic mode only a registration does, if the granule's record array is saturated. -/
theorem destroys_slotArrayDiag_iff {arr : SlotArrayDiag} (hs : prof.storage = .slotArrayDiag arr) :
    prof.Destroys c ↔ ∃ g a size file line i d, c.located = .allocRegisterLocated g a size file line ∧
      diagSlotIndex arr.capacity g = .ok i ∧ (arr.slot i).find g = some d ∧ d.Saturated := by
  constructor
  · rintro (⟨arr', g, i, hs', h⟩ | ⟨arr', g, a, size, file, line, i, d, hs', h⟩)
    · rw [hs] at hs'
      cases hs'
    · rw [hs] at hs'
      cases hs'
      exact ⟨g, a, size, file, line, i, d, h⟩
  · rintro ⟨g, a, size, file, line, i, d, h⟩
    exact Or.inr ⟨arr, g, a, size, file, line, i, d, hs, h⟩

end Destroys

section Step

variable {prof prof' : Profiler} {env : Env} {c : Call} {o : Outcome}

/-- A failing production call leaves the slots alone, unless it is a `close` that loses the granule. -/
theorem failed_slotArray_iff {arr : SlotArray} (hs : prof.storage = .slotArray arr)
    (hcall : prof.call (env, c) = .ok (o, prof')) (hfail : o.result = .int (-1)) :
    prof'.storage = prof.storage ↔ ¬prof.Destroys c := by
  obtain ⟨arr', hs', hstep⟩ := call_slotArray_step hs hcall
  rw [hfail] at hstep
  rw [hs', hs, Storage.slotArray.injEq, destroys_slotArray_iff hs]
  generalize hr : Result.int (-1) = r at hstep
  cases hstep with
  | keep hreset hmoved =>
    refine iff_of_true rfl ?_
    rintro ⟨g, i, rfl, hfind, -⟩
    rw [(hmoved g rfl).2] at hfind
    cases hfind
  | claim => cases hr
  | reopen => cases hr
  | release hfind hmax hr' => rcases hr' with rfl | rfl <;> cases hr
  | @lose g i hfind hmax =>
    refine iff_of_false ?_ fun hno => hno ⟨g, i, rfl, hfind, hmax⟩
    intro heq
    have hocc := arr.occupiedCount_setSlot i GranuleSlot.free
    rw [heq, (GranuleSlot.key_eq_some_iff.mp (key_of_findSlot hfind)).1] at hocc
    exact absurd hocc (Nat.succ_ne_self _)
  | recount => cases hr
  | reset => cases hr

/-- Every slot that is not occupied is empty, and conversely. -/
def Profiler.Tidy (prof : Profiler) : Prop :=
  ∀ arr, prof.storage = .slotArrayDiag arr → ∀ i, (arr.slot i).occupied = (arr.slot i).diag.isSome

theorem SlotArrayDiag.slot_of_setSlot_eq {arr : SlotArrayDiag} {i : Fin arr.capacity.toNat}
    {s : DiagSlot} (h : arr.setSlot i s = arr) : arr.slot i = s := by
  have hslots : arr.slots.set i s = arr.slots := congrArg SlotArrayDiag.slots h
  have hi : i.val < arr.slots.length := by rw [arr.length_slots]; exact i.isLt
  have hget : arr.slots[i.val]? = some s := by rw [← hslots, List.getElem?_set_self hi]
  exact Option.some.inj ((List.getElem?_eq_getElem hi).symm.trans hget)

theorem DiagSlot.eq_free {s : DiagSlot} (hdiag : s.occupied = s.diag.isSome)
    (hocc : s.occupied = false) : s = DiagSlot.free := by
  obtain ⟨occupied, diag⟩ := s
  cases hocc
  cases diag with
  | none => rfl
  | some d => cases hdiag

/-- A failing diagnostic call leaves the slots alone, unless it is a registration that frees the
granule's records. -/
theorem failed_slotArrayDiag_iff {arr : SlotArrayDiag} (hs : prof.storage = .slotArrayDiag arr)
    (htidy : prof.Tidy) (hcall : prof.call (env, c) = .ok (o, prof'))
    (hfail : o.result = .int (-1)) : prof'.storage = prof.storage ↔ ¬prof.Destroys c := by
  obtain ⟨arr', hs', hstep⟩ := call_slotArrayDiag_step hs hcall
  rw [hfail] at hstep
  rw [hs', hs, Storage.slotArrayDiag.injEq, destroys_slotArrayDiag_iff hs]
  generalize hr : Result.int (-1) = r at hstep
  cases hstep with
  | keep hmoved hregister =>
    refine iff_of_true rfl ?_
    rintro ⟨g, a, size, file, line, i, d, hc, hi, hfind, -⟩
    rw [hregister g a size file line i hc hi] at hfind
    cases hfind
  | claim => cases hr
  | @abort g i hocc =>
    refine iff_of_true ?_ ?_
    · -- the slot claimed and given back was free
      have hslot := arr.setSlot_slot i
      rw [DiagSlot.eq_free (htidy arr hs i) hocc] at hslot
      exact hslot
    · rintro ⟨g', a, size, file, line, i', d, hc, -⟩
      cases hc
  | release hi hfind hr' => rcases hr' with rfl | rfl <;> cases hr
  | @register _ g a size file line i d r d' hc hi hfind hadd =>
    cases hr
    obtain ⟨-, houtcome⟩ := granuleDiagAddAlloc_outcome hadd
    rcases houtcome with ⟨hr, -⟩ | ⟨-, hsat, rfl⟩ | ⟨-, hsat, hne⟩
    · cases hr
    · refine iff_of_true (SlotArrayDiag.setSlot_of_find hfind) ?_
      rintro ⟨g', a', size', file', line', i', d'', hc', hi', hfind', hsat'⟩
      rw [hc] at hc'
      cases hc'
      rw [hi] at hi'
      cases hi'
      rw [hfind] at hfind'
      cases hfind'
      exact hsat hsat'
    · refine iff_of_false ?_ fun hno => hno ⟨g, a, size, file, line, i, d, hc, hi, hfind, hsat⟩
      intro heq
      have hdiag := (DiagSlot.find_eq_some_iff.mp hfind).2.1
      rw [SlotArrayDiag.slot_of_setSlot_eq heq, Option.some.injEq] at hdiag
      exact hne hdiag
  | @deregister g a i d r d' hi hfind hfreed =>
    cases hr
    obtain ⟨-, hr | ⟨-, rfl⟩⟩ := granuleDiagMarkFreed_outcome hfreed
    · cases hr
    · refine iff_of_true (SlotArrayDiag.setSlot_of_find hfind) ?_
      rintro ⟨g', a', size', file', line', i', d', hc, -⟩
      cases hc

end Step

/-! ### Runs -/

theorem SlotArrayDiag.occupied_eq_setSlot {arr : SlotArrayDiag} {s : DiagSlot}
    (h : ∀ j, (arr.slot j).occupied = (arr.slot j).diag.isSome) (hs : s.occupied = s.diag.isSome)
    (i j : Fin arr.capacity.toNat) :
    ((arr.setSlot i s).slot j).occupied = ((arr.setSlot i s).slot j).diag.isSome := by
  by_cases hji : i = j
  · subst hji
    rw [arr.slot_setSlot_self]
    exact hs
  · rw [arr.slot_setSlot_of_ne hji]
    exact h j

theorem tidy_call {prof prof' : Profiler} {i : Env × Call} {o : Outcome} (h : prof.Tidy)
    (hcall : prof.call i = .ok (o, prof')) : prof'.Tidy := by
  obtain ⟨env, c⟩ := i
  cases hs : prof.storage with
  | slotArray arr =>
    obtain ⟨arr', hs', -⟩ := call_slotArray_step hs hcall
    intro arr'' hs''
    rw [hs'] at hs''
    cases hs''
  | slotArrayDiag arr =>
    obtain ⟨arr', hs', hstep⟩ := call_slotArrayDiag_step hs hcall
    intro arr'' hs''
    rw [hs'] at hs''
    cases hs''
    have htidy := h arr hs
    generalize o.result = r at hstep
    cases hstep with
    | keep => exact htidy
    | claim => exact arr.occupied_eq_setSlot htidy rfl _
    | abort => exact arr.occupied_eq_setSlot htidy rfl _
    | release => exact arr.occupied_eq_setSlot htidy rfl _
    | register => exact arr.occupied_eq_setSlot htidy rfl _
    | deregister => exact arr.occupied_eq_setSlot htidy rfl _

theorem tidy_of_created {env : Env} {config : Config} {prof : Profiler}
    (h : createWithConfig env config = some prof) : prof.Tidy := by
  intro arr hs i
  cases hmode : config.mode with
  | production =>
    obtain ⟨-, -, -, arr', hs', -⟩ := createWithConfig_production h hmode
    rw [hs] at hs'
    cases hs'
  | diagnostic =>
    obtain ⟨-, -, -, arr', hs', -, hfree⟩ := createWithConfig_diag h hmode
    rw [hs] at hs'
    cases hs'
    rw [hfree]
    rfl

/-- Every reachable profiler is tidy. -/
theorem run_tidy {env : Env} {config : Config} {prof prof' : Profiler}
    (hcreate : createWithConfig env config = some prof) {calls : List (Env × Call)}
    {os : List Outcome} (hrun : run Profiler.call prof calls = .ok (os, prof')) : prof'.Tidy :=
  @run_invariant _ _ _ _ Profiler.call Profiler.Tidy (fun _ => True)
    (fun h _ hcall => tidy_call h hcall) _ _ _ _ (tidy_of_created hcreate) (fun _ _ => trivial) hrun

/-- **A call that fails changes nothing**, in any state that a run reaches and whichever of the
library's allocations fail, unless it is one of the two calls that destroy a granule's state. -/
theorem failed_call_unchanged_iff {env : Env} {config : Config} {prof prof' prof'' : Profiler}
    (hcreate : createWithConfig env config = some prof) {calls : List (Env × Call)}
    {os : List Outcome} (hrun : run Profiler.call prof calls = .ok (os, prof')) {i : Env × Call}
    {o : Outcome} (hcall : prof'.call i = .ok (o, prof'')) (hfail : o.result = .int (-1)) :
    prof'.SameState prof'' ↔ ¬prof'.Destroys i.2 := by
  have htidy := run_tidy hcreate hrun
  obtain ⟨hbuffer, hcounters⟩ := failed_call_frame hcall hfail
  have hstorage : prof''.storage = prof'.storage ↔ ¬prof'.Destroys i.2 := by
    cases hs : prof'.storage with
    | slotArray arr => rw [← hs]; exact failed_slotArray_iff hs hcall hfail
    | slotArrayDiag arr => rw [← hs]; exact failed_slotArrayDiag_iff hs htidy hcall hfail
  rw [← hstorage]
  exact ⟨fun h => h.storage, fun h => ⟨h, hbuffer, hcounters⟩⟩

/-- The live count of granule `0` is decremented below zero, and the `close` that returns `-1`
releases its slot. -/
theorem failed_close_releases :
    ¬∀ (env : Env) (config : Config) (prof prof' prof'' : Profiler) (calls : List (Env × Call))
      (os : List Outcome) (i : Env × Call) (o : Outcome),
      createWithConfig env config = some prof → run Profiler.call prof calls = .ok (os, prof') →
      prof'.call i = .ok (o, prof'') → o.result = .int (-1) → prof'.SameState prof'' := by
  intro h
  let env := Env.ample default
  let prof := (createWithConfig env (smallConfig .production 1)).get rfl
  obtain ⟨⟨os, prof'⟩, hrun, hcall⟩ := exists_of_okAnd (show okAnd
    (run Profiler.call prof [(env, .granuleOpen 0), (env, .allocDeregister 0 7)])
    (fun r => okAnd (r.2.call (env, .granuleClose 0)) fun q =>
      q.1.result = .int (-1) ∧ q.2.storage ≠ r.2.storage) = true by decide)
  obtain ⟨⟨o, prof''⟩, hcall, hchanged⟩ := exists_of_okAnd hcall
  obtain ⟨hfail, hne⟩ := of_decide_eq_true hchanged
  exact hne (h env (smallConfig .production 1) prof prof' prof'' _ os _ o rfl hrun hcall hfail).storage

/-- The second granule finds no slot, and the first is still there. -/
theorem failed_open_unchanged :
    ∃ prof os prof' o prof'', createWithConfig (Env.ample default) (smallConfig .production 1) = some prof ∧
      run Profiler.call prof [(Env.ample default, .granuleOpen 0)] = .ok (os, prof') ∧
      prof'.call (Env.ample default, .granuleOpen 1) = .ok (o, prof'') ∧ o.result = .int (-1) ∧
      prof'.SameState prof'' := by
  let env := Env.ample default
  let prof := (createWithConfig env (smallConfig .production 1)).get rfl
  have hcreate : createWithConfig env (smallConfig .production 1) = some prof := rfl
  obtain ⟨⟨os, prof'⟩, hrun, hcall⟩ := exists_of_okAnd (show okAnd
    (run Profiler.call prof [(env, .granuleOpen 0)])
    (fun r => okAnd (r.2.call (env, .granuleOpen 1)) fun q => q.1.result = .int (-1))
      = true by decide)
  obtain ⟨⟨o, prof''⟩, hcall, hfail⟩ := exists_of_okAnd hcall
  have hfail := of_decide_eq_true hfail
  refine ⟨prof, os, prof', o, prof'', hcreate, hrun, hcall, hfail, ?_⟩
  rw [failed_call_unchanged_iff hcreate hrun hcall hfail]
  rintro (⟨arr, g, i, -, hc, -⟩ | ⟨arr, g, a, size, file, line, i, d, -, hc, -⟩)
  · cases hc
  · cases hc

end Drainprof
