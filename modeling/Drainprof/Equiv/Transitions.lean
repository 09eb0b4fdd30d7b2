import Drainprof.Library.Interleaving
import Drainprof.Equiv.SlotArrayDiag
import Drainprof.Equiv.Production

/-!
# What a call does to the storage

`SlotArray.Step` and `SlotArrayDiag.Step` list the ways in which a public call can change the slots,
each with the result the caller gets.  `call_slotArray_step` and `call_slotArrayDiag_step` say that
there are no others.  They assume nothing: neither that the slots are well formed nor that the
library's allocations succeed, so that what holds of every `Step` holds along every run.
-/

namespace Drainprof

open Probing Transition

/-- The call, with `alloc_register` as the `alloc_register_located` without a location. -/
def Call.located : Call → Call
  | .allocRegister g a size => .allocRegisterLocated g a size 0 0
  | c => c

/-- The granule the call opens or closes. -/
def Call.moved : Call → Option GranuleId
  | .granuleOpen g => some g
  | .granuleClose g => some g
  | _ => none

theorem Call.moved_of_located {c : Call} {g : GranuleId} {a : AllocId} {size : UInt64}
    {file : FilePtr} {line : UInt32} (h : c.located = .allocRegisterLocated g a size file line) :
    c.moved = none ∧ c ≠ .reset := by
  cases c <;> cases h <;> exact ⟨rfl, nofun⟩

/-! ### Production mode -/

/-- What a public call that returns `r` does to a slot array. -/
inductive SlotArray.Step (arr : SlotArray) : Call → Result → SlotArray → Prop
  | keep {c r} (hreset : c ≠ .reset)
      (hmoved : ∀ g ∈ c.moved, r = .int (-1) ∧ findSlot arr g = none) : Step arr c r arr
  | claim {g} {i : Fin arr.capacity.toNat} (hstop : arr.search g = .empty i.val) :
      Step arr (.granuleOpen g) (.int 0) (arr.setSlot i ⟨0, true, g⟩)
  | reopen {g i} (hfind : findSlot arr g = some i) : Step arr (.granuleOpen g) (.int 0) arr
  | release {g i r} (hfind : findSlot arr g = some i) (hmax : (arr.slot i).liveCount ≠ uint32Max)
      (hr : r = 0 ∨ r = 1) : Step arr (.granuleClose g) (.int r) (arr.setSlot i GranuleSlot.free)
  | lose {g i} (hfind : findSlot arr g = some i) (hmax : (arr.slot i).liveCount = uint32Max) :
      Step arr (.granuleClose g) (.int (-1)) (arr.setSlot i GranuleSlot.free)
  | recount {c g i n} (hmoved : c.moved = none) (hreset : c ≠ .reset)
      (hfind : findSlot arr g = some i) :
      Step arr c (.int 0) (arr.setSlot i { arr.slot i with liveCount := n })
  | reset : Step arr .reset .void arr.cleared

theorem SlotArray.Step.capacity_eq {arr arr' : SlotArray} {c : Call} {r : Result}
    (h : arr.Step c r arr') : arr'.capacity = arr.capacity := by
  cases h <;> rfl

section Production

variable {prof prof' : Profiler} {arr : SlotArray} {env : Env}

/-- Opening a granule claims a slot for it, finds it registered, or fails. -/
theorem granuleOpen_slotArray_step (hs : prof.storage = .slotArray arr) {g : GranuleId} {r : Int}
    (hopen : granuleOpen env prof g = .ok (r, prof')) :
    ∃ arr', prof'.storage = .slotArray arr' ∧ arr.Step (.granuleOpen g) (.int r) arr' := by
  rcases granuleOpen_production_cases hs env g with ⟨i, hstop, hcall⟩ | ⟨i, hstop, hcall⟩ |
    ⟨hstop, hcall⟩ <;> rw [hcall] at hopen <;> cases hopen
  · exact ⟨arr, hs, .reopen (findSlot_eq_some_iff.mpr hstop)⟩
  · exact ⟨_, rfl, .claim hstop⟩
  · refine ⟨arr, hs, .keep nofun ?_⟩
    rintro _ ⟨⟩
    exact ⟨rfl, findSlot_eq_none_iff.mpr (by rw [hstop]; nofun)⟩

/-- Closing a granule frees its slot, also where the call fails for the live count in it. -/
theorem granuleClose_slotArray_step (hs : prof.storage = .slotArray arr) {g : GranuleId} {r : Int}
    {events : List Event} (hclose : granuleClose env prof g = .ok (r, prof', events)) :
    ∃ arr', prof'.storage = .slotArray arr' ∧ arr.Step (.granuleClose g) (.int r) arr' := by
  cases hfind : findSlot arr g with
  | none =>
    rw [granuleClose_production_of_none hs hfind] at hclose
    cases hclose
    exact ⟨arr, hs, .keep nofun fun _ h => by cases h; exact ⟨rfl, hfind⟩⟩
  | some i =>
    by_cases hmax : (arr.slot i).liveCount = uint32Max
    · rw [granuleClose_production_of_max hs hfind hmax] at hclose
      cases hclose
      exact ⟨_, rfl, .lose hfind hmax⟩
    · rw [granuleClose_production_of_find hs hfind hmax] at hclose
      cases hclose
      refine ⟨_, rfl, .release hfind hmax ?_⟩
      split_ifs
      · exact Or.inr rfl
      · exact Or.inl rfl

/-- Registering an allocation, by either call, changes the count in the granule's slot. -/
theorem allocRegisterLocated_slotArray_step (hs : prof.storage = .slotArray arr) {g a : UInt64}
    {size : UInt64} {file : FilePtr} {line : UInt32} {r : Int}
    (hreg : allocRegisterLocated env prof g a size file line = .ok (r, prof')) {c : Call}
    (hmoved : c.moved = none) (hreset : c ≠ .reset) :
    ∃ arr', prof'.storage = .slotArray arr' ∧ arr.Step c (.int r) arr' := by
  cases hfind : findSlot arr g with
  | none =>
    rw [allocRegisterLocated_production_of_none hs hfind] at hreg
    cases hreg
    exact ⟨arr, hs, .keep hreset fun g hg => by rw [hmoved] at hg; cases hg⟩
  | some i =>
    rw [allocRegisterLocated_production_of_find hs hfind] at hreg
    cases hreg
    exact ⟨_, rfl, .recount hmoved hreset hfind⟩

/-- Deregistering an allocation changes the count in the granule's slot. -/
theorem allocDeregister_slotArray_step (hs : prof.storage = .slotArray arr) {g a : UInt64} {r : Int}
    (hdereg : allocDeregister env prof g a = .ok (r, prof')) :
    ∃ arr', prof'.storage = .slotArray arr' ∧ arr.Step (.allocDeregister g a) (.int r) arr' := by
  cases hfind : findSlot arr g with
  | none =>
    rw [allocDeregister_production_of_none hs hfind] at hdereg
    cases hdereg
    exact ⟨arr, hs, .keep nofun nofun⟩
  | some i =>
    rw [allocDeregister_production_of_find hs hfind] at hdereg
    cases hdereg
    exact ⟨_, rfl, .recount rfl nofun hfind⟩

/-- A public call does one of these things to a slot array. -/
theorem call_slotArray_step (hs : prof.storage = .slotArray arr) {c : Call} {o : Outcome}
    (hcall : prof.call (env, c) = .ok (o, prof')) :
    ∃ arr', prof'.storage = .slotArray arr' ∧ arr.Step c o.result arr' := by
  cases returns_of_call hcall with
  | granuleOpen hopen => exact granuleOpen_slotArray_step hs hopen
  | granuleClose hclose => exact granuleClose_slotArray_step hs hclose
  | allocRegister hreg => exact allocRegisterLocated_slotArray_step hs hreg rfl nofun
  | allocRegisterLocated hreg => exact allocRegisterLocated_slotArray_step hs hreg rfl nofun
  | allocDeregister hdereg => exact allocDeregister_slotArray_step hs hdereg
  | reset => exact ⟨arr.cleared, by rw [Drainprof.reset, hs], .reset⟩
  -- the queries leave the array alone
  | drainReports hdrain =>
    have hstorage := (drainReports_counters hdrain).2.2
    exact ⟨arr, hstorage.trans hs, .keep nofun nofun⟩
  | _ => exact ⟨arr, hs, .keep nofun nofun⟩

end Production

/-! ### Diagnostic mode -/

/-- What a public call that returns `r` does to a diagnostic array. -/
inductive SlotArrayDiag.Step (arr : SlotArrayDiag) (env : Env) :
    Call → Result → SlotArrayDiag → Prop
  | keep {c r} (hmoved : ∀ g ∈ c.moved, r = .int (-1))
      (hregister : ∀ g a size file line i, c.located = .allocRegisterLocated g a size file line →
        diagSlotIndex arr.capacity g = .ok i → (arr.slot i).find g = none) : Step arr env c r arr
  | claim {g i d} (hi : diagSlotIndex arr.capacity g = .ok i)
      (hocc : (arr.slot i).occupied = false) (hcreate : granuleDiagCreate env g env.now = some d) :
      Step arr env (.granuleOpen g) (.int 0) (arr.setSlot i ⟨true, some d⟩)
  | abort {g i} (hocc : (arr.slot i).occupied = false) :
      Step arr env (.granuleOpen g) (.int (-1)) (arr.setSlot i ⟨false, none⟩)
  | release {g i d r} (hi : diagSlotIndex arr.capacity g = .ok i)
      (hfind : (arr.slot i).find g = some d) (hr : r = 0 ∨ r = 1) :
      Step arr env (.granuleClose g) (.int r) (arr.setSlot i ⟨false, none⟩)
  | register {c g a size file line i d r d'}
      (hc : c.located = .allocRegisterLocated g a size file line)
      (hi : diagSlotIndex arr.capacity g = .ok i) (hfind : (arr.slot i).find g = some d)
      (hadd : granuleDiagAddAlloc env d a size file line env.now = .ok (r, d')) :
      Step arr env c (.int r) (arr.setSlot i ⟨true, some d'⟩)
  | deregister {g a i d r d'} (hi : diagSlotIndex arr.capacity g = .ok i)
      (hfind : (arr.slot i).find g = some d)
      (hfreed : granuleDiagMarkFreed d a env.now = .ok (r, d')) :
      Step arr env (.allocDeregister g a) (.int r) (arr.setSlot i ⟨true, some d'⟩)

theorem SlotArrayDiag.Step.capacity_eq {arr arr' : SlotArrayDiag} {env : Env} {c : Call}
    {r : Result} (h : arr.Step env c r arr') : arr'.capacity = arr.capacity := by
  cases h <;> rfl

/-- No call leaves a granule outside its home, whatever becomes of its record. -/
theorem SlotArrayDiag.Step.wf {arr arr' : SlotArrayDiag} {env : Env} {c : Call} {r : Result}
    (h : arr.WF fun _ => True) (hstep : arr.Step env c r arr') : arr'.WF fun _ => True := by
  have hhome : ∀ {g i}, diagSlotIndex arr.capacity g = .ok i → h.home g = i := by
    intro g i hi
    rw [diagSlotIndex_eq h.capacity_ne] at hi
    exact Except.ok.inj hi
  cases hstep with
  | keep => exact h
  | claim hi hocc hcreate =>
    obtain ⟨-, hid, -⟩ := granuleDiagCreate_spec hcreate
    exact h.write (by rw [hid]; exact hhome hi) trivial
  | abort => exact h.clear _
  | release => exact h.clear _
  | register hc hi hfind hadd =>
    have hid := (h.find_eq_some_iff.mp hfind).2
    exact h.write (by rw [(granuleDiagAddAlloc_outcome hadd).1, hid]; exact hhome hi) trivial
  | deregister hi hfind hfreed =>
    have hid := (h.find_eq_some_iff.mp hfind).2
    exact h.write (by rw [(granuleDiagMarkFreed_outcome hfreed).1, hid]; exact hhome hi) trivial

section Diagnostic

variable {prof prof' : Profiler} {arr : SlotArrayDiag} {env : Env}

/-- Opening a granule makes a record for it in its slot, if that is free. -/
theorem granuleOpen_slotArrayDiag_step (hs : prof.storage = .slotArrayDiag arr) {g : GranuleId}
    {r : Int} (hopen : granuleOpen env prof g = .ok (r, prof')) :
    ∃ arr', prof'.storage = .slotArrayDiag arr' ∧ arr.Step env (.granuleOpen g) (.int r) arr' := by
  obtain ⟨⟨result, storage⟩, hstorage, hopen⟩ := bind_eq_ok.mp hopen
  rw [hs] at hstorage
  obtain ⟨⟨result', arr'⟩, harr, heq⟩ := bind_eq_ok.mp hstorage
  cases heq
  obtain ⟨i, hi, harr⟩ := bind_eq_ok.mp harr
  cases hocc : (arr.slot i).occupied with
  | true =>
    rw [hocc, if_pos rfl] at harr
    cases harr
    cases hopen
    exact ⟨arr, rfl, .keep (fun _ _ => rfl) nofun⟩
  | false =>
    rw [hocc, if_neg Bool.false_ne_true] at harr
    cases hcreate : granuleDiagCreate env g env.now with
    | none =>
      rw [hcreate] at harr
      cases harr
      cases hopen
      exact ⟨_, rfl, .abort hocc⟩
    | some d =>
      rw [hcreate] at harr
      cases harr
      cases hopen
      exact ⟨_, rfl, .claim hi hocc hcreate⟩

/-- Closing a granule frees its slot, whatever becomes of its report. -/
theorem granuleClose_slotArrayDiag_step (hs : prof.storage = .slotArrayDiag arr) {g : GranuleId}
    {r : Int} {events : List Event} (hclose : granuleClose env prof g = .ok (r, prof', events)) :
    ∃ arr', prof'.storage = .slotArrayDiag arr' ∧ arr.Step env (.granuleClose g) (.int r) arr' := by
  obtain ⟨i, hi, ⟨-, rfl, rfl, -⟩ |
      ⟨d, hfind, -, ⟨-, rfl, hfinish⟩ | ⟨p, reported, -, hreport, rfl, rfl, -⟩⟩⟩ :=
    granuleClose_diag_returns hs hclose
  · exact ⟨arr, hs, .keep (fun _ _ => rfl) nofun⟩
  · cases hfinish
    exact ⟨_, rfl, .release hi hfind (Or.inr rfl)⟩
  · exact ⟨_, (reportPinned_frame hreport).2.2, .release hi hfind (Or.inl rfl)⟩

/-- Registering an allocation, by either call, adds it to the record of the granule. -/
theorem allocRegisterLocated_slotArrayDiag_step (hs : prof.storage = .slotArrayDiag arr)
    {g a : UInt64} {size : UInt64} {file : FilePtr} {line : UInt32} {r : Int}
    (hreg : allocRegisterLocated env prof g a size file line = .ok (r, prof')) {c : Call}
    (hc : c.located = .allocRegisterLocated g a size file line) :
    ∃ arr', prof'.storage = .slotArrayDiag arr' ∧ arr.Step env c (.int r) arr' := by
  obtain ⟨⟨result, storage⟩, hstorage, heq⟩ := bind_eq_ok.mp hreg
  cases heq
  rw [hs] at hstorage
  obtain ⟨found, hget, hstorage⟩ := bind_eq_ok.mp hstorage
  obtain ⟨i, hi, hget⟩ := bind_eq_ok.mp hget
  cases hget
  cases hfind : (arr.slot i).find g with
  | none =>
    rw [hfind] at hstorage
    cases hstorage
    refine ⟨arr, rfl, .keep (fun _ _ => rfl) ?_⟩
    intro g' a' size' file' line' i' hc' hi'
    rw [hc] at hc'
    cases hc'
    rw [hi] at hi'
    cases hi'
    exact hfind
  | some d =>
    rw [hfind] at hstorage
    obtain ⟨⟨result', d'⟩, hadd, heq⟩ := bind_eq_ok.mp hstorage
    cases heq
    exact ⟨_, rfl, .register hc hi hfind hadd⟩

/-- Deregistering an allocation marks it as freed in the record of the granule. -/
theorem allocDeregister_slotArrayDiag_step (hs : prof.storage = .slotArrayDiag arr) {g a : UInt64}
    {r : Int} (hdereg : allocDeregister env prof g a = .ok (r, prof')) :
    ∃ arr', prof'.storage = .slotArrayDiag arr' ∧
      arr.Step env (.allocDeregister g a) (.int r) arr' := by
  obtain ⟨⟨result, storage⟩, hstorage, heq⟩ := bind_eq_ok.mp hdereg
  cases heq
  rw [hs] at hstorage
  obtain ⟨found, hget, hstorage⟩ := bind_eq_ok.mp hstorage
  obtain ⟨i, hi, hget⟩ := bind_eq_ok.mp hget
  cases hget
  cases hfind : (arr.slot i).find g with
  | none =>
    rw [hfind] at hstorage
    cases hstorage
    exact ⟨arr, rfl, .keep nofun nofun⟩
  | some d =>
    rw [hfind] at hstorage
    obtain ⟨⟨result', d'⟩, hfreed, heq⟩ := bind_eq_ok.mp hstorage
    cases heq
    exact ⟨_, rfl, .deregister hi hfind hfreed⟩

/-- A public call does one of these things to a diagnostic array. -/
theorem call_slotArrayDiag_step (hs : prof.storage = .slotArrayDiag arr) {c : Call} {o : Outcome}
    (hcall : prof.call (env, c) = .ok (o, prof')) :
    ∃ arr', prof'.storage = .slotArrayDiag arr' ∧ arr.Step env c o.result arr' := by
  cases returns_of_call hcall with
  | granuleOpen hopen => exact granuleOpen_slotArrayDiag_step hs hopen
  | granuleClose hclose => exact granuleClose_slotArrayDiag_step hs hclose
  | allocRegister hreg => exact allocRegisterLocated_slotArrayDiag_step hs hreg rfl
  | allocRegisterLocated hreg => exact allocRegisterLocated_slotArrayDiag_step hs hreg rfl
  | allocDeregister hdereg => exact allocDeregister_slotArrayDiag_step hs hdereg
  -- the queries leave the array alone, and so does a reset, unlike in production mode
  | reset => exact ⟨arr, by rw [Drainprof.reset, hs], .keep nofun nofun⟩
  | drainReports hdrain =>
    have hstorage := (drainReports_counters hdrain).2.2
    exact ⟨arr, hstorage.trans hs, .keep nofun nofun⟩
  | _ => exact ⟨arr, hs, .keep nofun nofun⟩

end Diagnostic

/-! ### The slots in use -/

/-- The number of slots in use. -/
def Profiler.openCount (prof : Profiler) : ℕ :=
  match prof.storage with
  | .slotArray arr => arr.occupiedCount
  | .slotArrayDiag arr => arr.occupiedCount

theorem Profiler.openCount_slotArray {prof : Profiler} {arr : SlotArray}
    (hs : prof.storage = .slotArray arr) : prof.openCount = arr.occupiedCount := by
  rw [Profiler.openCount, hs]

theorem Profiler.openCount_slotArrayDiag {prof : Profiler} {arr : SlotArrayDiag}
    (hs : prof.storage = .slotArrayDiag arr) : prof.openCount = arr.occupiedCount := by
  rw [Profiler.openCount, hs]

/-- Writing a slot changes the count by what the slot was and is. -/
theorem SlotArray.occupiedCount_setSlot (arr : SlotArray) (i : Fin arr.capacity.toNat)
    (s : GranuleSlot) : (arr.setSlot i s).occupiedCount + (if (arr.slot i).occupied then 1 else 0)
      = arr.occupiedCount + (if s.occupied then 1 else 0) :=
  Interleaving.countP_set (List.getElem?_eq_getElem (by rw [arr.length_slots]; exact i.isLt)) _ s

theorem SlotArray.occupiedCount_cleared (arr : SlotArray) : arr.cleared.occupiedCount = 0 := by
  rw [SlotArray.occupiedCount, SlotArray.cleared, List.countP_map, List.countP_eq_zero]
  exact fun _ _ => Bool.false_ne_true

theorem SlotArrayDiag.occupiedCount_setSlot (arr : SlotArrayDiag) (i : Fin arr.capacity.toNat)
    (s : DiagSlot) : (arr.setSlot i s).occupiedCount + (if (arr.slot i).occupied then 1 else 0)
      = arr.occupiedCount + (if s.occupied then 1 else 0) :=
  Interleaving.countP_set (List.getElem?_eq_getElem (by rw [arr.length_slots]; exact i.isLt)) _ s

theorem SlotArrayDiag.occupiedCount_le (arr : SlotArrayDiag) :
    arr.occupiedCount ≤ arr.capacity.toNat := by
  rw [← arr.length_slots]
  exact List.countP_le_length

end Drainprof
