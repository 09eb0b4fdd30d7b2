import Drainprof.Basic

/-!
# The production slot array

The model of `slot_array.c`, called one operation at a time: a table of `capacity` slots searched
by linear probing from the hash of the granule id.  A sequential execution never loses a
compare-and-exchange, so claiming a slot just read as free always succeeds.

A probe loop carries the number of iterations left and the probe number; its slot index is computed
in 32-bit arithmetic (`probeSlot`), where the sum may wrap before it is reduced.
-/

namespace Drainprof

/-- `drainprof_granule_slot`; `occupied` is only ever `0` or `1`. -/
structure GranuleSlot where
  liveCount : UInt32
  occupied : Bool
  granuleId : GranuleId
  deriving DecidableEq, Repr

/-- The slot as `drainprof_slot_array_create` initializes it. -/
def GranuleSlot.free : GranuleSlot :=
  ⟨0, false, 0⟩

/-- `drainprof_slot_array`.  The creation function rejects a zero capacity. -/
structure SlotArray where
  capacity : UInt32
  slots : List GranuleSlot
  capacity_pos : 0 < capacity.toNat
  length_slots : slots.length = capacity.toNat
  deriving DecidableEq

namespace SlotArray

/-- `arr->slots[i]`. -/
def slot (arr : SlotArray) (i : Fin arr.capacity.toNat) : GranuleSlot :=
  arr.slots.get (i.cast arr.length_slots.symm)

/-- The array with the atomics of slot `i` stored. -/
def setSlot (arr : SlotArray) (i : Fin arr.capacity.toNat) (s : GranuleSlot) : SlotArray :=
  { arr with
    slots := arr.slots.set i s
    length_slots := by rw [List.length_set, arr.length_slots] }

/-- `(slot_idx + probe) % arr->capacity`. -/
def probeSlot (arr : SlotArray) (slotIdx : UInt32) (probe : ℕ) : Fin arr.capacity.toNat :=
  ⟨((slotIdx + UInt32.ofNat probe) % arr.capacity).toNat, by
    rw [UInt32.toNat_mod]
    exact Nat.mod_lt _ arr.capacity_pos⟩

end SlotArray

/-- `hash_granule_id`: the MurmurHash3 finalizer. -/
def hashGranuleId (id : GranuleId) : UInt32 :=
  let id := id ^^^ (id >>> 33)
  let id := id * 0xff51afd7ed558ccd
  let id := id ^^^ (id >>> 33)
  let id := id * 0xc4ceb9fe1a85ec53
  let id := id ^^^ (id >>> 33)
  id.toUInt32

/-- The loop of `find_slot`, with `fuel` iterations left. -/
def findSlot.go (arr : SlotArray) (id : GranuleId) (slotIdx : UInt32) :
    ℕ → ℕ → Option (Fin arr.capacity.toNat)
  | 0, _ => none
  | fuel + 1, probe =>
    let idx := arr.probeSlot slotIdx probe
    -- an empty slot ends the search, whatever lies beyond it
    if !(arr.slot idx).occupied then none
    else if (arr.slot idx).granuleId = id then some idx
    else findSlot.go arr id slotIdx fuel (probe + 1)

/-- `find_slot`. -/
def findSlot (arr : SlotArray) (id : GranuleId) : Option (Fin arr.capacity.toNat) :=
  findSlot.go arr id (hashGranuleId id % arr.capacity) arr.capacity.toNat 0

/-- `drainprof_slot_array_create`. -/
def slotArrayCreate (env : Env) (capacity : UInt32) : Option SlotArray :=
  if h : capacity = 0 then none
  else if !env.succeeds .slotArrayMalloc then none
  else if !env.succeeds .slotsCalloc then none
  else some {
    capacity := capacity
    slots := List.replicate capacity.toNat GranuleSlot.free
    capacity_pos := Nat.pos_of_ne_zero fun h0 => h (UInt32.toNat_inj.mp h0)
    length_slots := List.length_replicate }

/-- The loop of `drainprof_slot_array_open`, with `fuel` iterations left. -/
def slotArrayOpen.go (arr : SlotArray) (id : GranuleId) (slotIdx : UInt32) :
    ℕ → ℕ → Int × SlotArray
  | 0, _ => (-1, arr)
  | fuel + 1, probe =>
    let idx := arr.probeSlot slotIdx probe
    if (arr.slot idx).occupied then
      -- registered already, or the slot of another granule
      if (arr.slot idx).granuleId = id then (0, arr)
      else slotArrayOpen.go arr id slotIdx fuel (probe + 1)
    -- claimed: a single thread does not lose the exchange
    else (0, arr.setSlot idx ⟨0, true, id⟩)

/-- `drainprof_slot_array_open`. -/
def slotArrayOpen (arr : SlotArray) (id : GranuleId) : Int × SlotArray :=
  slotArrayOpen.go arr id (hashGranuleId id % arr.capacity) arr.capacity.toNat 0

/-- `drainprof_slot_array_close`. -/
def slotArrayClose (arr : SlotArray) (id : GranuleId) : UInt32 × SlotArray :=
  match findSlot arr id with
  -- `UINT32_MAX` is also a possible live count
  | none => (uint32Max, arr)
  | some i => ((arr.slot i).liveCount, arr.setSlot i GranuleSlot.free)

/-- The hot path: one atomic read-modify-write `f` of the live count of the slot found. -/
def adjustLiveCount (arr : SlotArray) (id : GranuleId) (f : UInt32 → UInt32) : Int × SlotArray :=
  match findSlot arr id with
  | none => (-1, arr)
  | some i => (0, arr.setSlot i { arr.slot i with liveCount := f (arr.slot i).liveCount })

/-- `drainprof_slot_array_alloc`. -/
def slotArrayAlloc (arr : SlotArray) (id : GranuleId) : Int × SlotArray :=
  adjustLiveCount arr id (· + 1)

/-- `drainprof_slot_array_dealloc`. -/
def slotArrayDealloc (arr : SlotArray) (id : GranuleId) : Int × SlotArray :=
  adjustLiveCount arr id (· - 1)

/-! ### Sequences of operations -/

/-- A call on the slot array. -/
inductive SlotOp where
  | open_ (id : GranuleId)
  | close (id : GranuleId)
  | alloc (id : GranuleId)
  | dealloc (id : GranuleId)
  deriving DecidableEq, Repr

/-- What a call returns: `close` a `uint32_t`, the others an `int`. -/
inductive SlotRet where
  | int (r : Int)
  | count (r : UInt32)
  deriving DecidableEq, Repr

/-- One call on the slot array. -/
def SlotArray.step (arr : SlotArray) : SlotOp → Exec (SlotRet × SlotArray)
  | .open_ id => .ok (.int (slotArrayOpen arr id).1, (slotArrayOpen arr id).2)
  | .close id => .ok (.count (slotArrayClose arr id).1, (slotArrayClose arr id).2)
  | .alloc id => .ok (.int (slotArrayAlloc arr id).1, (slotArrayAlloc arr id).2)
  | .dealloc id => .ok (.int (slotArrayDealloc arr id).1, (slotArrayDealloc arr id).2)

end Drainprof
