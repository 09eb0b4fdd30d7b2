import Drainprof.SlotArray
import Drainprof.Library.Interleaving

/-!
# The production slot array, one atomic operation at a time

The model of `slot_array.c` when several threads call it: every sequentially consistent atomic load,
store, compare-and-exchange and fetch-and-add on a slot is a step of its own.  The memory is the slot
array of the sequential model.

A call keeps the granule id and the probe number, from which it computes the index of its slot.  The
end of a probe loop is found by a step that touches no slot.  `atomic_compare_exchange_strong` does
not fail spuriously, so the steps of a call involve no choice.
-/

namespace Drainprof

open Interleaving

/-- The slot of a probe for a granule. -/
def SlotArray.probed (arr : SlotArray) (id : GranuleId) (probe : ℕ) : Fin arr.capacity.toNat :=
  arr.probeSlot (hashGranuleId id % arr.capacity) probe

/-- The functions that call `find_slot`. -/
inductive Finder where
  | close
  | alloc
  | dealloc
  deriving DecidableEq, Repr

/-- The next atomic operation of a call on the slot array. -/
inductive SlotPc where
  /-- `drainprof_slot_array_open`: the loads and the exchange of a probe -/
  | openLoadOccupied (id : GranuleId) (probe : ℕ)
  | openLoadId (id : GranuleId) (probe : ℕ)
  | openExchange (id : GranuleId) (probe : ℕ)
  /-- the stores into the slot it has claimed -/
  | openStoreId (id : GranuleId) (probe : ℕ)
  | openStoreCount (id : GranuleId) (probe : ℕ)
  /-- `find_slot`: the loads of a probe -/
  | findLoadOccupied (caller : Finder) (id : GranuleId) (probe : ℕ)
  | findLoadId (caller : Finder) (id : GranuleId) (probe : ℕ)
  /-- `drainprof_slot_array_close`: the load and the stores on the slot found -/
  | closeLoadCount (id : GranuleId) (probe : ℕ)
  | closeStoreCount (id : GranuleId) (probe : ℕ) (liveCount : UInt32)
  | closeStoreId (id : GranuleId) (probe : ℕ) (liveCount : UInt32)
  | closeStoreOccupied (id : GranuleId) (probe : ℕ) (liveCount : UInt32)
  /-- `drainprof_slot_array_alloc` and `drainprof_slot_array_dealloc` on the slot found -/
  | allocAdd (id : GranuleId) (probe : ℕ)
  | deallocSub (id : GranuleId) (probe : ℕ)
  | returned (op : SlotOp) (ret : SlotRet)
  deriving DecidableEq, Repr

/-- The call a finder makes. -/
def Finder.op (id : GranuleId) : Finder → SlotOp
  | .close => .close id
  | .alloc => .alloc id
  | .dealloc => .dealloc id

/-- What a finder does when `find_slot` returns the slot of a probe. -/
def Finder.found (id : GranuleId) (probe : ℕ) : Finder → SlotPc
  | .close => .closeLoadCount id probe
  | .alloc => .allocAdd id probe
  | .dealloc => .deallocSub id probe

/-- What a finder returns when `find_slot` returns `NULL`. -/
def Finder.missing : Finder → SlotRet
  | .close => .count uint32Max
  | .alloc => .int (-1)
  | .dealloc => .int (-1)

/-- Where a call begins. -/
def SlotOp.start : SlotOp → SlotPc
  | .open_ id => .openLoadOccupied id 0
  | .close id => .findLoadOccupied .close id 0
  | .alloc id => .findLoadOccupied .alloc id 0
  | .dealloc id => .findLoadOccupied .dealloc id 0

/-- One atomic operation of a call on the slot array. -/
def slotStep (arr : SlotArray) : SlotPc → Option (SlotArray × SlotPc)
  | .openLoadOccupied id probe =>
    if probe < arr.capacity.toNat then
      if (arr.slot (arr.probed id probe)).occupied then some (arr, .openLoadId id probe)
      else some (arr, .openExchange id probe)
    else some (arr, .returned (.open_ id) (.int (-1)))
  | .openLoadId id probe =>
    if (arr.slot (arr.probed id probe)).granuleId = id then
      some (arr, .returned (.open_ id) (.int 0))
    else some (arr, .openLoadOccupied id (probe + 1))
  | .openExchange id probe =>
    let slot := arr.slot (arr.probed id probe)
    -- another open has claimed the slot since it was loaded
    if slot.occupied then some (arr, .openLoadOccupied id (probe + 1))
    else
      -- the slot is claimed, but still shows the id and the count of a free slot
      some (arr.setSlot (arr.probed id probe) { slot with occupied := true }, .openStoreId id probe)
  | .openStoreId id probe =>
    let slot := arr.slot (arr.probed id probe)
    some (arr.setSlot (arr.probed id probe) { slot with granuleId := id }, .openStoreCount id probe)
  | .openStoreCount id probe =>
    let slot := arr.slot (arr.probed id probe)
    some (arr.setSlot (arr.probed id probe) { slot with liveCount := 0 },
      .returned (.open_ id) (.int 0))
  | .findLoadOccupied caller id probe =>
    if probe < arr.capacity.toNat then
      -- an empty slot ends the search
      if (arr.slot (arr.probed id probe)).occupied then some (arr, .findLoadId caller id probe)
      else some (arr, .returned (caller.op id) caller.missing)
    else some (arr, .returned (caller.op id) caller.missing)
  | .findLoadId caller id probe =>
    if (arr.slot (arr.probed id probe)).granuleId = id then some (arr, caller.found id probe)
    else some (arr, .findLoadOccupied caller id (probe + 1))
  | .closeLoadCount id probe =>
    some (arr, .closeStoreCount id probe (arr.slot (arr.probed id probe)).liveCount)
  | .closeStoreCount id probe liveCount =>
    let slot := arr.slot (arr.probed id probe)
    some (arr.setSlot (arr.probed id probe) { slot with liveCount := 0 },
      .closeStoreId id probe liveCount)
  | .closeStoreId id probe liveCount =>
    let slot := arr.slot (arr.probed id probe)
    some (arr.setSlot (arr.probed id probe) { slot with granuleId := 0 },
      .closeStoreOccupied id probe liveCount)
  | .closeStoreOccupied id probe liveCount =>
    let slot := arr.slot (arr.probed id probe)
    some (arr.setSlot (arr.probed id probe) { slot with occupied := false },
      .returned (.close id) (.count liveCount))
  | .allocAdd id probe =>
    let slot := arr.slot (arr.probed id probe)
    some (arr.setSlot (arr.probed id probe) { slot with liveCount := slot.liveCount + 1 },
      .returned (.alloc id) (.int 0))
  | .deallocSub id probe =>
    let slot := arr.slot (arr.probed id probe)
    some (arr.setSlot (arr.probed id probe) { slot with liveCount := slot.liveCount - 1 },
      .returned (.dealloc id) (.int 0))
  | .returned _ _ => none

/-- Calls on a slot array. -/
def slotProgram : Program SlotArray SlotPc SlotOp Unit where
  start := SlotOp.start
  step := fun _ => slotStep

/-- A slot array before any call. -/
def slotPool (arr : SlotArray) : Pool SlotArray SlotPc :=
  ⟨arr, []⟩

end Drainprof
