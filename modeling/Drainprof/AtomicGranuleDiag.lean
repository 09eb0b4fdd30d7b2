import Drainprof.GranuleDiag
import Drainprof.Library.Mutex

/-!
# The state of a granule under its lock

The model of what several threads do to the diagnostic state of one granule: registrations, frees and
the report, each under `diag->alloc_lock`.  Every access to the state is a step of its own, except
that the fields of one record are written in one step.

While the record array is being moved the pointer to it dangles, until the new block is stored.
-/

namespace Drainprof

/-- A call on the state of a granule: a registration or a free, or the report at its close. -/
inductive DiagCall where
  | op (env : Env) (op : DiagOp)
  | report (env : Env)

/-- What it returns; a report that is `none` is `NULL`. -/
inductive DiagResult where
  | int (r : Int)
  | report (report : Option PinningReport)
  deriving DecidableEq, Repr

/-- The calls one at a time, as the sequential model has them. -/
def GranuleDiag.serve (diag : GranuleDiag) : DiagCall → Exec (DiagResult × GranuleDiag)
  | .op env op => do
    let (r, diag) ← diag.step (env, op)
    .ok (.int r, diag)
  | .report env => do
    let report ← granuleDiagGenerateReport env diag env.now
    .ok (.report report, diag)

/-- What a registration knows of its allocation. -/
structure PendingAlloc where
  allocId : AllocId
  size : UInt64
  file : FilePtr
  line : UInt32
  allocTime : Timespec
  deriving DecidableEq, Repr

/-- The next step of a call that holds the lock, with the local variables that are live. -/
inductive DiagPc where
  /-- `drainprof_granule_diag_add_alloc`: the test of a full array, and its growth -/
  | addTestFull (env : Env) (reg : PendingAlloc)
  | addRealloc (env : Env) (reg : PendingAlloc)
  | addSetAllocs (reg : PendingAlloc) (newAllocs : List AllocRecord) (newCapacity : UInt32)
  | addSetCapacity (reg : PendingAlloc) (newCapacity : UInt32)
  | addZero (reg : PendingAlloc) (newCapacity : UInt32)
  /-- the new record -/
  | addTakeIndex (reg : PendingAlloc)
  | addWrite (reg : PendingAlloc) (index : UInt32)
  | addCountLive
  /-- `drainprof_granule_diag_mark_freed`: the scan, and what is done to the record found -/
  | freeLoadHint (allocId : AllocId) (freeTime : Timespec)
  | freeScan (allocId : AllocId) (freeTime : Timespec) (start offset : UInt32)
  | freeWrite (freeTime : Timespec) (index : UInt32) (rec_ : AllocRecord)
  | freeSetHint (index : UInt32)
  | freeCountLive
  /-- `drainprof_granule_diag_generate_report`: the live count and the report, and the copy loop -/
  | reportLoadCount (env : Env)
  | reportCopy (closeTime : Timespec) (liveCount i pinningIdx : UInt32) (out : List PinningAlloc)

/-- One step of a call that holds the lock. -/
def diagBody (diag : GranuleDiag) : DiagPc → Exec (GranuleDiag × Mutex.Next DiagPc DiagResult)
  | .addTestFull env reg =>
    .ok (diag, .more (if diag.allocCount ≥ diag.allocCapacity then .addRealloc env reg
      else .addTakeIndex reg))
  | .addRealloc env reg => do
    let newCapacity := diag.allocCapacity * 2
    let block ← deref diag.allocs
    match realloc block newCapacity AllocRecord.zero (env.succeeds .diagAllocsRealloc) with
    | .failed => .ok (diag, .done (.int (-1)))
    | .freed => .ok ({ diag with allocs := none }, .done (.int (-1)))
    | .moved newAllocs =>
      .ok ({ diag with allocs := none }, .more (.addSetAllocs reg newAllocs newCapacity))
  | .addSetAllocs reg newAllocs newCapacity =>
    .ok ({ diag with allocs := some newAllocs }, .more (.addSetCapacity reg newCapacity))
  | .addSetCapacity reg newCapacity =>
    .ok ({ diag with allocCapacity := newCapacity }, .more (.addZero reg newCapacity))
  | .addZero reg newCapacity => do
    let block ← deref diag.allocs
    let zeroed ← zeroRecords block diag.allocCount (newCapacity - diag.allocCount)
    .ok ({ diag with allocs := some zeroed }, .more (.addTakeIndex reg))
  | .addTakeIndex reg =>
    .ok ({ diag with allocCount := diag.allocCount + 1 }, .more (.addWrite reg diag.allocCount))
  | .addWrite reg index => do
    let block ← deref diag.allocs
    let block ← store block index {
      allocId := reg.allocId
      granuleId := diag.granuleId
      allocTime := reg.allocTime
      allocSite := ⟨reg.file, reg.line, 0⟩
      size := reg.size
      freeTime := ⟨0, 0⟩
      freed := false }
    .ok ({ diag with allocs := some block }, .more .addCountLive)
  | .addCountLive => .ok ({ diag with liveCount := diag.liveCount + 1 }, .done (.int 0))
  | .freeLoadHint allocId freeTime =>
    .ok (diag, .more (.freeScan allocId freeTime diag.lastFreedIndex 0))
  | .freeScan allocId freeTime start offset =>
    if offset < diag.allocCount then do
      let i ← umod (start + offset) diag.allocCount
      let block ← deref diag.allocs
      let rec_ ← load block i
      if rec_.allocId = allocId ∧ rec_.freed = false then
        .ok (diag, .more (.freeWrite freeTime i rec_))
      else .ok (diag, .more (.freeScan allocId freeTime start (offset + 1)))
    else .ok (diag, .done (.int (-1)))
  | .freeWrite freeTime index rec_ => do
    let block ← deref diag.allocs
    let block ← store block index { rec_ with freed := true, freeTime := freeTime }
    .ok ({ diag with allocs := some block }, .more (.freeSetHint index))
  | .freeSetHint index => do
    let next ← umod (index + 1) diag.allocCount
    .ok ({ diag with lastFreedIndex := next }, .more .freeCountLive)
  | .freeCountLive => .ok ({ diag with liveCount := diag.liveCount - 1 }, .done (.int 0))
  | .reportLoadCount env =>
    if diag.liveCount = 0 then .ok (diag, .done (.report none))
    else if !env.succeeds .reportMalloc then .ok (diag, .done (.report none))
    else if !env.succeeds .pinningAllocsMalloc then .ok (diag, .done (.report none))
    else
      .ok (diag, .more (.reportCopy env.now diag.liveCount 0 0
        (List.replicate diag.liveCount.toNat default)))
  | .reportCopy closeTime liveCount i pinningIdx out =>
    if i < diag.allocCount then do
      let block ← deref diag.allocs
      let rec_ ← load block i
      if rec_.freed = false then do
        let out ← store out pinningIdx rec_.toPinning
        .ok (diag, .more (.reportCopy closeTime liveCount (i + 1) (pinningIdx + 1) out))
      else .ok (diag, .more (.reportCopy closeTime liveCount (i + 1) pinningIdx out))
    else
      .ok (diag, .done (.report (some {
        granuleId := diag.granuleId
        openTime := diag.openTime
        closeTime := closeTime
        pinningAllocs := out
        pinningCount := liveCount
        totalAllocs := diag.allocCount
        drainedAllocs := diag.allocCount - liveCount })))

/-- The calls on the state of a granule, each in its critical section. -/
def diagSection : Mutex.Section GranuleDiag DiagPc DiagCall DiagResult Fault where
  skip _ := none
  enter
    | .op env (.addAlloc allocId size file line) =>
      .addTestFull env ⟨allocId, size, file, line, env.now⟩
    | .op env (.markFreed allocId) => .freeLoadHint allocId env.now
    | .report env => .reportLoadCount env
  body := diagBody

end Drainprof
