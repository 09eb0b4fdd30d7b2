import Drainprof.Equiv.SlotArray
import Drainprof.Equiv.Counters

/-!
# The public calls in production mode

One lemma for each call on a profiler whose storage is a slot array: what it returns and which slot
it writes, in terms of where the search for the granule stops.  Nothing is assumed of the array.
-/

namespace Drainprof

open Probing

section Calls

variable {prof : Profiler} {arr : SlotArray}

/-- `open` succeeds on a granule that is found, which it leaves alone, and on a free slot. -/
theorem granuleOpen_production_cases (hs : prof.storage = .slotArray arr) (env : Env)
    (id : GranuleId) :
    (∃ i : Fin arr.capacity.toNat, arr.search id = .hit i.val ∧
        granuleOpen env prof id = .ok (0, { prof with counters := prof.counters.opened })) ∨
      (∃ i : Fin arr.capacity.toNat, arr.search id = .empty i.val ∧
        granuleOpen env prof id = .ok (0, { prof with
          counters := prof.counters.opened
          storage := .slotArray (arr.setSlot i ⟨0, true, id⟩) })) ∨
      (arr.search id = .full ∧ granuleOpen env prof id = .ok (-1, prof)) := by
  have hprof : { prof with storage := .slotArray arr } = prof := by rw [← hs]
  unfold granuleOpen storageOpen
  rw [hs]
  dsimp only
  rcases slotArrayOpen_cases arr id with ⟨i, hstop, hopen⟩ | ⟨i, hstop, hopen⟩ | ⟨hstop, hopen⟩
  · refine Or.inl ⟨i, hstop, ?_⟩
    rw [hopen, ok_bind]
    simp only [ne_eq, not_true_eq_false, if_false, ← hs]
  · refine Or.inr (Or.inl ⟨i, hstop, ?_⟩)
    rw [hopen, ok_bind]
    simp only [ne_eq, not_true_eq_false, if_false]
  · refine Or.inr (Or.inr ⟨hstop, ?_⟩)
    rw [hopen, ok_bind]
    simp only [hprof]
    rfl

theorem granuleClose_production_of_none (hs : prof.storage = .slotArray arr) {env : Env}
    {id : GranuleId} (hfind : findSlot arr id = none) :
    granuleClose env prof id = .ok (-1, prof, []) := by
  have hprof : { prof with storage := .slotArray arr } = prof := by rw [← hs]
  unfold granuleClose
  rw [hs]
  dsimp only
  rw [slotArrayClose, hfind]
  simp only [hprof]
  rfl

/-- The profiler after slot `i` was released. -/
def Profiler.releaseSlot (prof : Profiler) (arr : SlotArray) (i : Fin arr.capacity.toNat) :
    Profiler :=
  { prof with storage := .slotArray (arr.setSlot i GranuleSlot.free) }

/-- The count `UINT32_MAX` is taken for an error, but the slot has been released. -/
theorem granuleClose_production_of_max (hs : prof.storage = .slotArray arr) {env : Env}
    {id : GranuleId} {i : Fin arr.capacity.toNat} (hfind : findSlot arr id = some i)
    (hmax : (arr.slot i).liveCount = uint32Max) :
    granuleClose env prof id = .ok (-1, prof.releaseSlot arr i, []) := by
  unfold granuleClose
  rw [hs]
  dsimp only
  rw [slotArrayClose, hfind]
  simp only [hmax, if_true]
  rfl

theorem granuleClose_production_of_find (hs : prof.storage = .slotArray arr) {env : Env}
    {id : GranuleId} {i : Fin arr.capacity.toNat} (hfind : findSlot arr id = some i)
    (hmax : (arr.slot i).liveCount ≠ uint32Max) :
    granuleClose env prof id
      = .ok (if (arr.slot i).liveCount = 0 then 1 else 0,
          finishClose (prof.releaseSlot arr i) ((arr.slot i).liveCount = 0)) := by
  unfold granuleClose
  rw [hs]
  dsimp only
  rw [slotArrayClose, hfind]
  simp only [hmax, if_false]
  rfl

/-- The profiler after slot `i` got live count `c`. -/
def Profiler.recountSlot (prof : Profiler) (arr : SlotArray) (i : Fin arr.capacity.toNat)
    (c : UInt32) : Profiler :=
  { prof with storage := .slotArray (arr.setSlot i { arr.slot i with liveCount := c }) }

theorem allocRegisterLocated_production_of_none (hs : prof.storage = .slotArray arr) {env : Env}
    {id : GranuleId} {a : AllocId} {size : UInt64} {file : FilePtr} {line : UInt32}
    (hfind : findSlot arr id = none) :
    allocRegisterLocated env prof id a size file line = .ok (-1, { prof with
      counters := { prof.counters with totalAllocs := prof.counters.totalAllocs + 1 } }) := by
  unfold allocRegisterLocated storageRegister
  rw [hs]
  dsimp only
  rw [slotArrayAlloc, adjustLiveCount, hfind, ok_bind]

theorem allocRegisterLocated_production_of_find (hs : prof.storage = .slotArray arr) {env : Env}
    {id : GranuleId} {a : AllocId} {size : UInt64} {file : FilePtr} {line : UInt32}
    {i : Fin arr.capacity.toNat} (hfind : findSlot arr id = some i) :
    allocRegisterLocated env prof id a size file line
      = .ok (0, { prof.recountSlot arr i ((arr.slot i).liveCount + 1) with
          counters := { prof.counters with totalAllocs := prof.counters.totalAllocs + 1 } }) := by
  unfold allocRegisterLocated storageRegister
  rw [hs]
  dsimp only
  rw [slotArrayAlloc, adjustLiveCount, hfind, ok_bind]
  rfl

theorem allocDeregister_production_of_none (hs : prof.storage = .slotArray arr) {env : Env}
    {id : GranuleId} {a : AllocId} (hfind : findSlot arr id = none) :
    allocDeregister env prof id a = .ok (-1, { prof with
      counters := { prof.counters with totalDeallocs := prof.counters.totalDeallocs + 1 } }) := by
  unfold allocDeregister storageDeregister
  rw [hs]
  dsimp only
  rw [slotArrayDealloc, adjustLiveCount, hfind, ok_bind]

theorem allocDeregister_production_of_find (hs : prof.storage = .slotArray arr) {env : Env}
    {id : GranuleId} {a : AllocId} {i : Fin arr.capacity.toNat} (hfind : findSlot arr id = some i) :
    allocDeregister env prof id a
      = .ok (0, { prof.recountSlot arr i ((arr.slot i).liveCount - 1) with
          counters :=
            { prof.counters with totalDeallocs := prof.counters.totalDeallocs + 1 } }) := by
  unfold allocDeregister storageDeregister
  rw [hs]
  dsimp only
  rw [slotArrayDealloc, adjustLiveCount, hfind, ok_bind]
  rfl

end Calls

/-! ### The initial state -/

/-- A profiler created in production mode: an array as its creation function leaves it, and no report
buffer. -/
theorem createWithConfig_production {env : Env} {config : Config} {prof : Profiler}
    (h : createWithConfig env config = some prof) (hmode : config.mode = .production) :
    prof.config = config ∧ prof.counters = .zero ∧ prof.reportBuffer = none ∧
      ∃ arr, prof.storage = .slotArray arr ∧
        slotArrayCreate env config.slotCapacity = some arr := by
  unfold createWithConfig at h
  by_cases hmalloc : (!env.succeeds .profMalloc) = true
  · rw [if_pos hmalloc] at h
    cases h
  rw [if_neg hmalloc, hmode] at h
  cases hstorage : config.storage with
  | hashMap => rw [hstorage] at h; cases h
  | slotArray =>
    rw [hstorage] at h
    obtain ⟨arr, harr, rfl⟩ := Option.map_eq_some_iff.mp h
    exact ⟨rfl, rfl, rfl, arr, rfl, harr⟩

end Drainprof
