import Drainprof.GranuleDiag

/-!
# The diagnostic slot array

The model of the slot array part of `diagnostic.c`: a direct-mapped table, where the slot of a
granule is its id modulo the capacity.  `drainprof_slot_array_diag_create` does not check the
capacity, so every operation computes that index through `diagSlotIndex`, which faults on a zero
capacity.
-/

namespace Drainprof

/-- `drainprof_diag_slot`; `occupied` is only ever `0` or `1`, and `diag` is `none` for `NULL`. -/
structure DiagSlot where
  occupied : Bool
  diag : Option GranuleDiag
  deriving DecidableEq, Repr

/-- The slot as `drainprof_slot_array_diag_create` initializes it. -/
def DiagSlot.free : DiagSlot :=
  ⟨false, none⟩

/-- `drainprof_slot_array_diag`. -/
structure SlotArrayDiag where
  capacity : UInt32
  slots : List DiagSlot
  length_slots : slots.length = capacity.toNat
  deriving DecidableEq

namespace SlotArrayDiag

/-- `arr->slots[i]`. -/
def slot (arr : SlotArrayDiag) (i : Fin arr.capacity.toNat) : DiagSlot :=
  arr.slots.get (i.cast arr.length_slots.symm)

/-- The array with slot `i` written. -/
def setSlot (arr : SlotArrayDiag) (i : Fin arr.capacity.toNat) (s : DiagSlot) : SlotArrayDiag :=
  { arr with
    slots := arr.slots.set i s
    length_slots := by rw [List.length_set, arr.length_slots] }

end SlotArrayDiag

/-- `(uint32_t)(id % arr->capacity)`. -/
def diagSlotIndex (capacity : UInt32) (id : GranuleId) : Exec (Fin capacity.toNat) :=
  if h : capacity = 0 then .error .divByZero
  else .ok ⟨(id % capacity.toUInt64).toNat, by
    rw [UInt64.toNat_mod, UInt32.toNat_toUInt64]
    exact Nat.mod_lt _ (Nat.pos_of_ne_zero fun h0 => h (UInt32.toNat_inj.mp h0))⟩

/-- `drainprof_slot_array_diag_create`. -/
def slotArrayDiagCreate (env : Env) (capacity : UInt32) : Option SlotArrayDiag :=
  if !env.succeeds .diagSlotArrayMalloc then none
  else if !env.succeeds .diagSlotsCalloc then none
  else some {
    capacity := capacity
    slots := List.replicate capacity.toNat DiagSlot.free
    length_slots := List.length_replicate }

/-- `drainprof_slot_array_diag_open`. -/
def slotArrayDiagOpen (env : Env) (arr : SlotArrayDiag) (id : GranuleId) (openTime : Timespec) :
    Exec (Int × SlotArrayDiag) := do
  let i ← diagSlotIndex arr.capacity id
  -- there is no probing: a taken slot is a failure, also for the same granule
  if (arr.slot i).occupied then .ok (-1, arr)
  else
    match granuleDiagCreate env id openTime with
    | none => .ok (-1, arr.setSlot i ⟨false, none⟩)
    | some diag => .ok (0, arr.setSlot i ⟨true, some diag⟩)

/-- The record of granule `id` in a slot: `none` if the slot is free or holds another granule. -/
def DiagSlot.find (s : DiagSlot) (id : GranuleId) : Option GranuleDiag :=
  if !s.occupied then none
  else
    match s.diag with
    | none => none
    | some diag => if diag.granuleId = id then some diag else none

/-- `drainprof_slot_array_diag_get`; the slot index tells the caller where the record lives. -/
def slotArrayDiagGet (arr : SlotArrayDiag) (id : GranuleId) :
    Exec (Option (Fin arr.capacity.toNat × GranuleDiag)) := do
  let i ← diagSlotIndex arr.capacity id
  .ok (((arr.slot i).find id).map fun diag => (i, diag))

/-- `drainprof_slot_array_diag_close`: `none` is the result `-1`, which leaves the array alone. -/
def slotArrayDiagClose (arr : SlotArrayDiag) (id : GranuleId) :
    Exec (Option (GranuleDiag × SlotArrayDiag)) := do
  let i ← diagSlotIndex arr.capacity id
  .ok (((arr.slot i).find id).map fun diag => (diag, arr.setSlot i ⟨false, none⟩))

/-- The loop of `drainprof_slot_array_diag_destroy` over the slots left. -/
def slotArrayDiagDestroy.go : List DiagSlot → Exec Unit
  | [] => .ok ()
  | s :: slots =>
    match s.diag with
    | some diag => do
      granuleDiagDestroy diag
      slotArrayDiagDestroy.go slots
    | none => slotArrayDiagDestroy.go slots

/-- `drainprof_slot_array_diag_destroy`. -/
def slotArrayDiagDestroy (arr : SlotArrayDiag) : Exec Unit :=
  slotArrayDiagDestroy.go arr.slots

end Drainprof
