import Drainprof.Basic

/-!
# Per-granule diagnostic state

The model of the granule part of `diagnostic.c`: the record array of one open granule, its
registrations (`granuleDiagAddAlloc`), its frees (`granuleDiagMarkFreed`, a scan that starts at a
rotating hint) and the report of what is still live (`granuleDiagGenerateReport`).

`allocs` is the block behind the pointer of the same name: `allocCapacity` records, of which the
first `allocCount` are in use.  The capacity doubles in 32-bit arithmetic, and at `2 ^ 31` records
the doubled capacity is `0`: the `realloc` of zero bytes then frees the block and the pointer is
left dangling (`none`).
-/

namespace Drainprof

/-- `drainprof_alloc_site`. -/
structure AllocSite where
  file : FilePtr
  line : UInt32
  column : UInt32
  deriving DecidableEq, Repr, Inhabited

/-- `drainprof_alloc_record`. -/
structure AllocRecord where
  allocId : AllocId
  granuleId : GranuleId
  allocTime : Timespec
  allocSite : AllocSite
  size : UInt64
  freeTime : Timespec
  freed : Bool
  deriving DecidableEq, Repr, Inhabited

/-- A record of zero bytes. -/
def AllocRecord.zero : AllocRecord :=
  ⟨0, 0, ⟨0, 0⟩, ⟨0, 0, 0⟩, 0, ⟨0, 0⟩, false⟩

/-- `drainprof_granule_diag`; the mutex is not modelled. -/
structure GranuleDiag where
  granuleId : GranuleId
  liveCount : UInt32
  openTime : Timespec
  allocs : Option (List AllocRecord)
  allocCount : UInt32
  allocCapacity : UInt32
  lastFreedIndex : UInt32
  deriving DecidableEq, Repr

/-- `drainprof_pinning_alloc`. -/
structure PinningAlloc where
  allocId : AllocId
  allocSite : AllocSite
  allocTime : Timespec
  size : UInt64
  lifetimeDeltaSec : ℚ
  deriving DecidableEq, Repr, Inhabited

/-- `drainprof_pinning_report`, with the array it owns. -/
structure PinningReport where
  granuleId : GranuleId
  openTime : Timespec
  closeTime : Timespec
  pinningAllocs : List PinningAlloc
  pinningCount : UInt32
  totalAllocs : UInt32
  drainedAllocs : UInt32
  deriving DecidableEq, Repr, Inhabited

/-- `drainprof_granule_diag_create`. -/
def granuleDiagCreate (env : Env) (id : GranuleId) (openTime : Timespec) : Option GranuleDiag :=
  if !env.succeeds .diagMalloc then none
  else if !env.succeeds .diagAllocsCalloc then none
  else if !env.succeeds .diagMutexInit then none
  else some {
    granuleId := id
    liveCount := 0
    openTime := openTime
    allocs := some (List.replicate 64 AllocRecord.zero)
    allocCount := 0
    allocCapacity := 64
    lastFreedIndex := 0 }

/-- `drainprof_granule_diag_destroy`: the record array is freed. -/
def granuleDiagDestroy (diag : GranuleDiag) : Exec Unit := do
  let _ ← deref diag.allocs
  .ok ()

/-! ### Registering an allocation -/

/-- `memset(&block[start], 0, len * sizeof(record))`. -/
def zeroRecords (block : List AllocRecord) (start len : UInt32) : Exec (List AllocRecord) :=
  if start.toNat + len.toNat ≤ block.length then
    .ok (block.take start.toNat ++ List.replicate len.toNat AllocRecord.zero ++
      block.drop (start.toNat + len.toNat))
  else .error .outOfBounds

/-- The growth step of `drainprof_granule_diag_add_alloc`: `-1` if no room could be made. -/
def growAllocs (env : Env) (diag : GranuleDiag) : Exec (Int × GranuleDiag) :=
  if diag.allocCount ≥ diag.allocCapacity then do
    let newCapacity := diag.allocCapacity * 2
    let block ← deref diag.allocs
    match realloc block newCapacity AllocRecord.zero (env.succeeds .diagAllocsRealloc) with
    | .failed => .ok (-1, diag)
    -- the doubled capacity has wrapped to zero, and the block is gone
    | .freed => .ok (-1, { diag with allocs := none })
    | .moved newAllocs =>
      -- only the new part of the block is cleared
      let zeroed ← zeroRecords newAllocs diag.allocCount (newCapacity - diag.allocCount)
      .ok (0, { diag with allocs := some zeroed, allocCapacity := newCapacity })
  else .ok (0, diag)

/-- `drainprof_granule_diag_add_alloc`. -/
def granuleDiagAddAlloc (env : Env) (diag : GranuleDiag) (allocId : AllocId) (size : UInt64)
    (file : FilePtr) (line : UInt32) (allocTime : Timespec) : Exec (Int × GranuleDiag) := do
  let (grown, diag) ← growAllocs env diag
  if grown ≠ 0 then .ok (grown, diag)
  else
    let block ← deref diag.allocs
    let block ← store block diag.allocCount {
      allocId := allocId
      granuleId := diag.granuleId
      allocTime := allocTime
      allocSite := ⟨file, line, 0⟩
      size := size
      freeTime := ⟨0, 0⟩
      freed := false }
    .ok (0, { diag with
      allocs := some block
      allocCount := diag.allocCount + 1
      liveCount := diag.liveCount + 1 })

/-! ### Freeing an allocation -/

/-- The scan of `drainprof_granule_diag_mark_freed`, with `fuel` iterations left. -/
def granuleDiagMarkFreed.go (diag : GranuleDiag) (allocId : AllocId) (freeTime : Timespec) :
    ℕ → ℕ → Exec (Int × GranuleDiag)
  | 0, _ => .ok (-1, diag)
  | fuel + 1, offset => do
    let i ← umod (diag.lastFreedIndex + UInt32.ofNat offset) diag.allocCount
    let block ← deref diag.allocs
    let rec_ ← load block i
    -- a record that was freed before does not stop the scan
    if rec_.allocId = allocId ∧ rec_.freed = false then
      let block ← store block i { rec_ with freed := true, freeTime := freeTime }
      -- the next scan starts behind this record
      let next ← umod (i + 1) diag.allocCount
      .ok (0, { diag with
        allocs := some block
        lastFreedIndex := next
        liveCount := diag.liveCount - 1 })
    else granuleDiagMarkFreed.go diag allocId freeTime fuel (offset + 1)

/-- `drainprof_granule_diag_mark_freed`. -/
def granuleDiagMarkFreed (diag : GranuleDiag) (allocId : AllocId) (freeTime : Timespec) :
    Exec (Int × GranuleDiag) :=
  granuleDiagMarkFreed.go diag allocId freeTime diag.allocCount.toNat 0

/-! ### Reporting what is live -/

/-- The pinning entry copied from a live record; `-1.0` marks it as still live. -/
def AllocRecord.toPinning (r : AllocRecord) : PinningAlloc where
  allocId := r.allocId
  allocSite := r.allocSite
  allocTime := r.allocTime
  size := r.size
  lifetimeDeltaSec := -1

/-- The copy loop of `drainprof_granule_diag_generate_report`, with `fuel` iterations left, at
record `i` and report entry `pinningIdx`. -/
def granuleDiagGenerateReport.go (diag : GranuleDiag) :
    ℕ → ℕ → UInt32 → List PinningAlloc → Exec (List PinningAlloc)
  | 0, _, _, out => .ok out
  | fuel + 1, i, pinningIdx, out => do
    let block ← deref diag.allocs
    let rec_ ← load block (UInt32.ofNat i)
    if rec_.freed = false then
      let out ← store out pinningIdx rec_.toPinning
      granuleDiagGenerateReport.go diag fuel (i + 1) (pinningIdx + 1) out
    else granuleDiagGenerateReport.go diag fuel (i + 1) pinningIdx out

/-- `drainprof_granule_diag_generate_report`: `none` is `NULL`. -/
def granuleDiagGenerateReport (env : Env) (diag : GranuleDiag) (closeTime : Timespec) :
    Exec (Option PinningReport) :=
  if diag.liveCount = 0 then .ok none
  else if !env.succeeds .reportMalloc then .ok none
  else if !env.succeeds .pinningAllocsMalloc then .ok none
  else do
    -- the array has one entry for each live record
    let pinningAllocs ← granuleDiagGenerateReport.go diag diag.allocCount.toNat 0 0
      (List.replicate diag.liveCount.toNat default)
    .ok (some {
      granuleId := diag.granuleId
      openTime := diag.openTime
      closeTime := closeTime
      pinningAllocs := pinningAllocs
      pinningCount := diag.liveCount
      totalAllocs := diag.allocCount
      drainedAllocs := diag.allocCount - diag.liveCount })

/-! ### Sequences of operations -/

/-- A call on the state of one granule. -/
inductive DiagOp where
  | addAlloc (allocId : AllocId) (size : UInt64) (file : FilePtr) (line : UInt32)
  | markFreed (allocId : AllocId)
  deriving DecidableEq, Repr

/-- One call, in the environment that comes with it. -/
def GranuleDiag.step (diag : GranuleDiag) : Env × DiagOp → Exec (Int × GranuleDiag)
  | (env, .addAlloc a size file line) => granuleDiagAddAlloc env diag a size file line env.now
  | (env, .markFreed a) => granuleDiagMarkFreed diag a env.now

end Drainprof
