import Mathlib.Logic.Function.Basic
import Drainprof.Profiler
import Drainprof.Library.Interleaving

/-!
# The diagnostic slot array, one access at a time

The model of what several threads do to the diagnostic slot array: `drainprof_granule_open`,
`drainprof_granule_close`, the register and deregister calls and `drainprof_sweep`, as far as they
concern the storage.  Every load, store and exchange of a slot and every access to the record of a
granule is a step of its own.  The critical section of a granule is one step, and so are the creation
of a record and its destruction: while they last, no other thread can reach what they work on.

The records live in a heap.  A slot holds the address of its record, and a record that is destroyed
leaves a dangling address behind wherever it is still held; reading through it is a fault.
-/

namespace Drainprof

open Interleaving

/-! ### Calls -/

/-- A call on the storage of a profiler in diagnostic mode. -/
inductive DiagSlotCall where
  | open_ (env : Env) (id : GranuleId)
  | op (env : Env) (id : GranuleId) (op : DiagOp)
  | close (env : Env) (id : GranuleId)
  | sweep (env : Env)

/-- What it returns: of a close that finds its granule, the live count, and the report that goes to
the callback or to the buffer; of a sweep, the numbers of drainable and pinned granules. -/
inductive DiagSlotResult where
  | int (r : Int)
  | closed (liveCount : UInt32) (report : Option PinningReport)
  | swept (drainable pinned : UInt64)
  deriving DecidableEq, Repr

/-- The report branch of `drainprof_granule_close` up to the delivery of the report. -/
def closeReport (env : Env) (diag : GranuleDiag) : Exec (Option PinningReport) :=
  if diag.liveCount = 0 then .ok none else granuleDiagGenerateReport env diag env.now

/-- The calls one at a time, as the sequential model has them. -/
def SlotArrayDiag.serve (arr : SlotArrayDiag) : DiagSlotCall → Exec (DiagSlotResult × SlotArrayDiag)
  | .open_ env id => do
    let (r, arr) ← slotArrayDiagOpen env arr id env.now
    .ok (.int r, arr)
  | .op env id op => do
    match ← slotArrayDiagGet arr id with
    | none => .ok (.int (-1), arr)
    | some (i, diag) =>
      let (r, diag) ← diag.step (env, op)
      .ok (.int r, arr.setSlot i ⟨true, some diag⟩)
  | .close env id => do
    match ← slotArrayDiagClose arr id with
    | none => .ok (.int (-1), arr)
    | some (diag, arr) =>
      let report ← closeReport env diag
      granuleDiagDestroy diag
      .ok (.closed diag.liveCount report, arr)
  | .sweep _ =>
    let (drainable, pinned) := sweepLoop (sweptCounts (.slotArrayDiag arr))
    .ok (.swept drainable pinned, arr)

/-! ### Memory -/

/-- `drainprof_diag_slot`, with the address of the record; `none` is `NULL`. -/
structure SharedSlot where
  occupied : Bool
  diag : Option ℕ
  deriving DecidableEq, Repr

/-- The slots by their index, and the records by their address; a record that is `none` has been
destroyed. -/
structure SharedSlots where
  slots : ℕ → SharedSlot
  heap : List (Option GranuleDiag)

namespace SharedSlots

/-- The memory with a slot changed. -/
def setSlot (m : SharedSlots) (i : ℕ) (s : SharedSlot) : SharedSlots :=
  { m with slots := Function.update m.slots i s }

/-- The memory with a new record behind the others. -/
def alloc (m : SharedSlots) (diag : GranuleDiag) : SharedSlots :=
  { m with heap := m.heap ++ [some diag] }

/-- The memory with a record changed, or destroyed. -/
def put (m : SharedSlots) (address : ℕ) (diag : Option GranuleDiag) : SharedSlots :=
  { m with heap := m.heap.set address diag }

/-- The record behind a pointer; there is none behind `NULL`. -/
def read (m : SharedSlots) : Option ℕ → Exec GranuleDiag
  | none => .error .outOfBounds
  | some address =>
    match m.heap[address]? with
    | none => .error .outOfBounds
    | some diag => deref diag

end SharedSlots

/-- `id % arr->capacity` as an index of the slots. -/
def diagSlotAt (capacity : UInt32) (id : GranuleId) : ℕ :=
  (id % capacity.toUInt64).toNat

/-! ### Steps -/

/-- The functions that look their granule up: the register and deregister calls through
`drainprof_slot_array_diag_get`, and `drainprof_slot_array_diag_close`. -/
inductive DiagFinder where
  | op (op : DiagOp)
  | close

/-- The next access of a call. -/
inductive DiagSlotPc where
  /-- `drainprof_slot_array_diag_open` -/
  | openExchange (env : Env) (id : GranuleId)
  | openCreate (env : Env) (id : GranuleId)
  | openStoreDiag (env : Env) (id : GranuleId) (diag : Option ℕ)
  | openTestDiag (env : Env) (id : GranuleId)
  | openRelease (env : Env) (id : GranuleId)
  /-- the lookup of `drainprof_slot_array_diag_get` and `drainprof_slot_array_diag_close` -/
  | findLoadOccupied (caller : DiagFinder) (env : Env) (id : GranuleId)
  | findTestDiag (caller : DiagFinder) (env : Env) (id : GranuleId)
  | findLoadDiag (caller : DiagFinder) (env : Env) (id : GranuleId)
  | findLoadId (caller : DiagFinder) (env : Env) (id : GranuleId) (diag : Option ℕ)
  | findTakeDiag (caller : DiagFinder) (env : Env) (id : GranuleId)
  /-- the critical section of a registration or a free -/
  | opRecord (op : DiagOp) (env : Env) (id : GranuleId) (diag : ℕ)
  /-- the rest of `drainprof_slot_array_diag_close` and of `drainprof_granule_close` -/
  | closeClearDiag (env : Env) (id : GranuleId) (out : Option ℕ)
  | closeRelease (env : Env) (id : GranuleId) (out : Option ℕ)
  | closeLoadCount (env : Env) (id : GranuleId) (diag : ℕ)
  | closeReport (env : Env) (id : GranuleId) (diag : ℕ) (liveCount : UInt32)
  | closeDestroy (env : Env) (id : GranuleId) (diag : ℕ) (liveCount : UInt32)
    (report : Option PinningReport)
  /-- the loop of `drainprof_sweep` at slot `i` -/
  | sweepLoadOccupied (env : Env) (i : ℕ) (drainable pinned : UInt64)
  | sweepTestDiag (env : Env) (i : ℕ) (drainable pinned : UInt64)
  | sweepLoadDiag (env : Env) (i : ℕ) (drainable pinned : UInt64)
  | sweepLoadCount (env : Env) (i : ℕ) (drainable pinned : UInt64) (diag : Option ℕ)
  | returned (c : DiagSlotCall) (r : DiagSlotResult)
  | faulted (c : DiagSlotCall) (f : Fault)

/-- The call a finder makes. -/
def DiagFinder.call (env : Env) (id : GranuleId) : DiagFinder → DiagSlotCall
  | .op diagOp => .op env id diagOp
  | .close => .close env id

/-- What a finder does with the pointer it takes from the slot; `drainprof_slot_array_diag_get`
returns it, and a `NULL` is then the result `-1`. -/
def DiagFinder.found (env : Env) (id : GranuleId) : DiagFinder → Option ℕ → DiagSlotPc
  | .op diagOp, some diag => .opRecord diagOp env id diag
  | .op diagOp, none => .returned (.op env id diagOp) (.int (-1))
  | .close, out => .closeClearDiag env id out

/-- Where a call begins. -/
def DiagSlotCall.start (capacity : UInt32) (c : DiagSlotCall) : DiagSlotPc :=
  match c with
  | .sweep env => .sweepLoadOccupied env 0 0 0
  -- the index of the slot is computed first
  | .open_ env id => if capacity = 0 then .faulted c .divByZero else .openExchange env id
  | .op env id diagOp =>
    if capacity = 0 then .faulted c .divByZero else .findLoadOccupied (.op diagOp) env id
  | .close env id => if capacity = 0 then .faulted c .divByZero else .findLoadOccupied .close env id

/-- One access of a call. -/
def diagSlotStep (capacity : UInt32) (m : SharedSlots) :
    DiagSlotPc → Option (SharedSlots × DiagSlotPc)
  | .openExchange env id =>
    let i := diagSlotAt capacity id
    if (m.slots i).occupied then some (m, .returned (.open_ env id) (.int (-1)))
    else some (m.setSlot i { m.slots i with occupied := true }, .openCreate env id)
  | .openCreate env id =>
    match granuleDiagCreate env id env.now with
    | none => some (m, .openStoreDiag env id none)
    | some diag => some (m.alloc diag, .openStoreDiag env id (some m.heap.length))
  | .openStoreDiag env id diag =>
    let i := diagSlotAt capacity id
    some (m.setSlot i { m.slots i with diag := diag }, .openTestDiag env id)
  | .openTestDiag env id =>
    if (m.slots (diagSlotAt capacity id)).diag = none then some (m, .openRelease env id)
    else some (m, .returned (.open_ env id) (.int 0))
  | .openRelease env id =>
    let i := diagSlotAt capacity id
    some (m.setSlot i { m.slots i with occupied := false }, .returned (.open_ env id) (.int (-1)))
  | .findLoadOccupied caller env id =>
    if (m.slots (diagSlotAt capacity id)).occupied then some (m, .findTestDiag caller env id)
    else some (m, .returned (caller.call env id) (.int (-1)))
  | .findTestDiag caller env id =>
    if (m.slots (diagSlotAt capacity id)).diag = none then
      some (m, .returned (caller.call env id) (.int (-1)))
    else some (m, .findLoadDiag caller env id)
  | .findLoadDiag caller env id =>
    some (m, .findLoadId caller env id (m.slots (diagSlotAt capacity id)).diag)
  | .findLoadId caller env id diag =>
    match m.read diag with
    | .error f => some (m, .faulted (caller.call env id) f)
    | .ok d =>
      if d.granuleId = id then some (m, .findTakeDiag caller env id)
      else some (m, .returned (caller.call env id) (.int (-1)))
  | .findTakeDiag caller env id =>
    some (m, caller.found env id (m.slots (diagSlotAt capacity id)).diag)
  | .opRecord op env id diag =>
    match m.read (some diag) >>= fun d => d.step (env, op) with
    | .error f => some (m, .faulted (.op env id op) f)
    | .ok (r, d) => some (m.put diag (some d), .returned (.op env id op) (.int r))
  | .closeClearDiag env id out =>
    let i := diagSlotAt capacity id
    some (m.setSlot i { m.slots i with diag := none }, .closeRelease env id out)
  | .closeRelease env id out =>
    let i := diagSlotAt capacity id
    some (m.setSlot i { m.slots i with occupied := false },
      match out with
      | some diag => .closeLoadCount env id diag
      | none => .returned (.close env id) (.int (-1)))
  | .closeLoadCount env id diag =>
    match m.read (some diag) with
    | .error f => some (m, .faulted (.close env id) f)
    | .ok d =>
      if d.liveCount = 0 then some (m, .closeDestroy env id diag d.liveCount none)
      else some (m, .closeReport env id diag d.liveCount)
  | .closeReport env id diag liveCount =>
    match m.read (some diag) >>= fun d => granuleDiagGenerateReport env d env.now with
    | .error f => some (m, .faulted (.close env id) f)
    | .ok report => some (m, .closeDestroy env id diag liveCount report)
  | .closeDestroy env id diag liveCount report =>
    match m.read (some diag) >>= granuleDiagDestroy with
    | .error f => some (m, .faulted (.close env id) f)
    | .ok _ => some (m.put diag none, .returned (.close env id) (.closed liveCount report))
  | .sweepLoadOccupied env i drainable pinned =>
    if i < capacity.toNat then
      if (m.slots i).occupied then some (m, .sweepTestDiag env i drainable pinned)
      else some (m, .sweepLoadOccupied env (i + 1) drainable pinned)
    else some (m, .returned (.sweep env) (.swept drainable pinned))
  | .sweepTestDiag env i drainable pinned =>
    if (m.slots i).diag = none then some (m, .sweepLoadOccupied env (i + 1) drainable pinned)
    else some (m, .sweepLoadDiag env i drainable pinned)
  | .sweepLoadDiag env i drainable pinned =>
    some (m, .sweepLoadCount env i drainable pinned (m.slots i).diag)
  | .sweepLoadCount env i drainable pinned diag =>
    -- no lock is held here, and the slot may have been released since
    match m.read diag with
    | .error f => some (m, .faulted (.sweep env) f)
    | .ok d =>
      if d.liveCount = 0 then some (m, .sweepLoadOccupied env (i + 1) (drainable + 1) pinned)
      else some (m, .sweepLoadOccupied env (i + 1) drainable (pinned + 1))
  | .returned _ _ => none
  | .faulted _ _ => none

/-- Calls on the storage of a profiler in diagnostic mode. -/
def diagSlotProgram (capacity : UInt32) : Program SharedSlots DiagSlotPc DiagSlotCall Unit where
  start := DiagSlotCall.start capacity
  step := fun _ => diagSlotStep capacity

/-- The free slots as `drainprof_slot_array_diag_create` initializes them, before any call. -/
def diagSlotPool : Pool SharedSlots DiagSlotPc :=
  ⟨⟨fun _ => ⟨false, none⟩, []⟩, []⟩

end Drainprof
