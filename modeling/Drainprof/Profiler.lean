import Drainprof.SlotArray
import Drainprof.SlotArrayDiag
import Drainprof.Summary

/-!
# The profiler

The model of `drainprof.c` and `counters.c`: the configuration, the global counters, and the public
calls in both modes, executed one at a time.  A public call returns its result, the profiler after
it and the events it causes outside: reports created, handed to the callback and freed, and lines
logged.

The storage union is a sum whose constructor is the mode it was created for.  `NULL` arguments,
which every function rejects, are not modelled.  A snapshot keeps the exact quotient of its counters
for the DSR; `roundedDsr` is the quotient as the code computes it, in `double`.
-/

namespace Drainprof

/-! ### Configuration -/

/-- `drainprof_mode`. -/
inductive Mode where
  | production
  | diagnostic
  deriving DecidableEq, Repr

/-- `drainprof_storage`. -/
inductive StorageKind where
  | slotArray
  | hashMap
  deriving DecidableEq, Repr

/-- `drainprof_config`.  Of the callback only whether it is set matters here; `bucket_count` and
`callback_user_data` are read by no modelled function. -/
structure Config where
  mode : Mode
  storage : StorageKind
  slotCapacity : UInt32
  logInterval : UInt64
  onPinning : Bool
  maxBufferedReports : UInt32
  verbose : Bool
  deriving DecidableEq, Repr

/-- `drainprof_config_default`. -/
def configDefault : Config where
  mode := .production
  storage := .slotArray
  slotCapacity := 1024
  logInterval := 0
  onPinning := false
  maxBufferedReports := 1000
  verbose := false

/-- The default configuration with another mode and capacity. -/
def smallConfig (mode : Mode) (slotCapacity : UInt32) : Config :=
  { configDefault with mode := mode, slotCapacity := slotCapacity }

/-! ### Counters -/

/-- `drainprof_counters`. -/
structure Counters where
  totalCloses : UInt64
  drainableCloses : UInt64
  pinnedCloses : UInt64
  openGranules : UInt64
  peakOpenGranules : UInt64
  totalAllocs : UInt64
  totalDeallocs : UInt64
  deriving DecidableEq, Repr

/-- `drainprof_counters_init` and `drainprof_counters_reset`, which store the same values. -/
def Counters.zero : Counters :=
  ⟨0, 0, 0, 0, 0, 0, 0⟩

/-- The counter updates of a successful `drainprof_granule_open`. -/
def Counters.opened (c : Counters) : Counters :=
  let open_ := c.openGranules + 1
  { c with
    openGranules := open_
    peakOpenGranules := if open_ > c.peakOpenGranules then open_ else c.peakOpenGranules }

/-- The counter updates of a successful `drainprof_granule_close`. -/
def Counters.closed (c : Counters) (drainable : Bool) : Counters :=
  let c := { c with openGranules := c.openGranules - 1, totalCloses := c.totalCloses + 1 }
  if drainable then { c with drainableCloses := c.drainableCloses + 1 }
  else { c with pinnedCloses := c.pinnedCloses + 1 }

/-! ### The profiler and its creation -/

/-- The storage backend. -/
inductive Storage where
  | slotArray (arr : SlotArray)
  | slotArrayDiag (arr : SlotArrayDiag)
  deriving DecidableEq

/-- `struct drainprof`. -/
structure Profiler where
  config : Config
  counters : Counters
  storage : Storage
  reportBuffer : Option ReportBuffer
  deriving DecidableEq

/-- `drainprof_create_with_config`. -/
def createWithConfig (env : Env) (config : Config) : Option Profiler :=
  if !env.succeeds .profMalloc then none
  else
    match config.mode, config.storage with
    | .production, .slotArray =>
      (slotArrayCreate env config.slotCapacity).map fun arr =>
        ⟨config, .zero, .slotArray arr, none⟩
    -- the reports go to the callback, or into a buffer made for them
    | .diagnostic, .slotArray =>
      match slotArrayDiagCreate env config.slotCapacity with
      | none => none
      | some arr =>
        if config.onPinning then some ⟨config, .zero, .slotArrayDiag arr, none⟩
        else
          (reportBufferCreate env config.maxBufferedReports).map fun buf =>
            ⟨config, .zero, .slotArrayDiag arr, some buf⟩
    -- the hash map storage is not implemented
    | _, .hashMap => none

/-- What a call causes outside the profiler. -/
inductive Event where
  | reportCreated (report : PinningReport)
  | pinCallback (report : PinningReport)
  | reportFreed (report : PinningReport)
  | logPinned (id : GranuleId) (liveCount : UInt32)
  | logDsr (drainable pinned total : UInt64)
  deriving DecidableEq, Repr

/-! ### Granule lifecycle -/

/-- The storage part of `drainprof_granule_open`. -/
def storageOpen (env : Env) (storage : Storage) (id : GranuleId) : Exec (Int × Storage) :=
  match storage with
  | .slotArray arr => .ok ((slotArrayOpen arr id).1, .slotArray (slotArrayOpen arr id).2)
  | .slotArrayDiag arr => do
    let (result, arr) ← slotArrayDiagOpen env arr id env.now
    .ok (result, .slotArrayDiag arr)

/-- `drainprof_granule_open`. -/
def granuleOpen (env : Env) (prof : Profiler) (id : GranuleId) : Exec (Int × Profiler) := do
  let (result, storage) ← storageOpen env prof.storage id
  let prof := { prof with storage := storage }
  if result ≠ 0 then .ok (result, prof)
  else .ok (0, { prof with counters := prof.counters.opened })

/-- The counter updates and the periodic log line at the end of `drainprof_granule_close`. -/
def finishClose (prof : Profiler) (drainable : Bool) : Profiler × List Event :=
  let counters := prof.counters.closed drainable
  let log :=
    if prof.config.logInterval > 0 ∧ counters.totalCloses % prof.config.logInterval = 0 then
      [.logDsr counters.drainableCloses counters.pinnedCloses counters.totalCloses]
    else []
  ({ prof with counters := counters }, log)

/-- What becomes of a report: the callback gets it, or the buffer, or it is freed at once. -/
def deliverReport (prof : Profiler) (report : PinningReport) : Exec (Profiler × List Event) :=
  if prof.config.onPinning then .ok (prof, [.pinCallback report, .reportFreed report])
  else
    match prof.reportBuffer with
    | some buf => do
      let (freed, buf) ← reportBufferPush buf report
      .ok ({ prof with reportBuffer := some buf }, freed.toList.map .reportFreed)
    | none => .ok (prof, [.reportFreed report])

/-- The report branch of `drainprof_granule_close` for a granule that is not drainable. -/
def reportPinned (env : Env) (prof : Profiler) (id : GranuleId) (diag : GranuleDiag) :
    Exec (Profiler × List Event) := do
  let report? ← granuleDiagGenerateReport env diag env.now
  let (prof, events) ←
    match report? with
    | some report => do
      let (prof, events) ← deliverReport prof report
      .ok (prof, .reportCreated report :: events)
    | none => .ok (prof, [])
  let log := if prof.config.verbose then [.logPinned id diag.liveCount] else []
  .ok (prof, events ++ log)

/-- `drainprof_granule_close`. -/
def granuleClose (env : Env) (prof : Profiler) (id : GranuleId) :
    Exec (Int × Profiler × List Event) :=
  match prof.storage with
  | .slotArray arr =>
    let (liveCount, arr) := slotArrayClose arr id
    let prof := { prof with storage := .slotArray arr }
    -- `UINT32_MAX` is how the slot array says that the granule is not open
    if liveCount = uint32Max then .ok (-1, prof, [])
    else
      let drainable := liveCount = 0
      let (prof, log) := finishClose prof drainable
      .ok (if drainable then 1 else 0, prof, log)
  | .slotArrayDiag arr => do
    match ← slotArrayDiagClose arr id with
    | none => .ok (-1, prof, [])
    | some (diag, arr) =>
      let prof := { prof with storage := .slotArrayDiag arr }
      let drainable := diag.liveCount = 0
      let (prof, events) ←
        (if drainable then .ok (prof, []) else reportPinned env prof id diag)
      granuleDiagDestroy diag
      let (prof, log) := finishClose prof drainable
      .ok (if drainable then 1 else 0, prof, events ++ log)

/-! ### Allocation tracking -/

/-- The storage part of the two register calls. -/
def storageRegister (env : Env) (storage : Storage) (granuleId : GranuleId) (allocId : AllocId)
    (size : UInt64) (file : FilePtr) (line : UInt32) : Exec (Int × Storage) :=
  match storage with
  | .slotArray arr =>
    .ok ((slotArrayAlloc arr granuleId).1, .slotArray (slotArrayAlloc arr granuleId).2)
  | .slotArrayDiag arr => do
    match ← slotArrayDiagGet arr granuleId with
    | none => .ok (-1, .slotArrayDiag arr)
    | some (i, diag) =>
      let (result, diag) ← granuleDiagAddAlloc env diag allocId size file line env.now
      .ok (result, .slotArrayDiag (arr.setSlot i ⟨true, some diag⟩))

/-- `drainprof_alloc_register_located`. -/
def allocRegisterLocated (env : Env) (prof : Profiler) (granuleId : GranuleId)
    (allocId : AllocId) (size : UInt64) (file : FilePtr) (line : UInt32) :
    Exec (Int × Profiler) := do
  -- counted before the storage is asked, so also when it fails
  let counters := { prof.counters with totalAllocs := prof.counters.totalAllocs + 1 }
  let (result, storage) ← storageRegister env prof.storage granuleId allocId size file line
  .ok (result, { prof with counters := counters, storage := storage })

/-- `drainprof_alloc_register`: without a location, the file is `NULL` and the line `0`. -/
def allocRegister (env : Env) (prof : Profiler) (granuleId : GranuleId) (allocId : AllocId)
    (size : UInt64) : Exec (Int × Profiler) :=
  allocRegisterLocated env prof granuleId allocId size 0 0

/-- The storage part of `drainprof_alloc_deregister`. -/
def storageDeregister (env : Env) (storage : Storage) (granuleId : GranuleId)
    (allocId : AllocId) : Exec (Int × Storage) :=
  match storage with
  | .slotArray arr =>
    .ok ((slotArrayDealloc arr granuleId).1, .slotArray (slotArrayDealloc arr granuleId).2)
  | .slotArrayDiag arr => do
    match ← slotArrayDiagGet arr granuleId with
    | none => .ok (-1, .slotArrayDiag arr)
    | some (i, diag) =>
      let (result, diag) ← granuleDiagMarkFreed diag allocId env.now
      .ok (result, .slotArrayDiag (arr.setSlot i ⟨true, some diag⟩))

/-- `drainprof_alloc_deregister`. -/
def allocDeregister (env : Env) (prof : Profiler) (granuleId : GranuleId) (allocId : AllocId) :
    Exec (Int × Profiler) := do
  -- counted before the storage is asked, so also when it fails
  let counters := { prof.counters with totalDeallocs := prof.counters.totalDeallocs + 1 }
  let (result, storage) ← storageDeregister env prof.storage granuleId allocId
  .ok (result, { prof with counters := counters, storage := storage })

/-! ### Queries -/

/-- `drainprof_snapshot_t`. -/
structure Snapshot where
  timestamp : Timespec
  totalCloses : UInt64
  drainableCloses : UInt64
  pinnedCloses : UInt64
  dsr : ℚ
  openGranules : UInt64
  peakOpenGranules : UInt64
  totalAllocs : UInt64
  totalDeallocs : UInt64
  deriving DecidableEq, Repr

/-- `drainable / total`, or `0.0` when nothing was closed. -/
def dsrOf (drainable total : UInt64) : ℚ :=
  if total > 0 then drainable.toNat / total.toNat else 0

/-- The same in floating point: `round` rounds a counter that is converted, and the quotient. -/
def roundedDsr (round : ℚ → ℚ) (drainable total : UInt64) : ℚ :=
  if total > 0 then round (round drainable.toNat / round total.toNat) else 0

/-- `drainprof_snapshot`. -/
def snapshot (env : Env) (prof : Profiler) : Snapshot where
  timestamp := env.now
  totalCloses := prof.counters.totalCloses
  drainableCloses := prof.counters.drainableCloses
  pinnedCloses := prof.counters.pinnedCloses
  dsr := dsrOf prof.counters.drainableCloses prof.counters.totalCloses
  openGranules := prof.counters.openGranules
  peakOpenGranules := prof.counters.peakOpenGranules
  totalAllocs := prof.counters.totalAllocs
  totalDeallocs := prof.counters.totalDeallocs

/-- The live counts the sweep loop reads, slot by slot. -/
def sweptCounts : Storage → List UInt32
  | .slotArray arr => (arr.slots.filter GranuleSlot.occupied).map GranuleSlot.liveCount
  | .slotArrayDiag arr =>
    arr.slots.filterMap fun s => if s.occupied then s.diag.map GranuleDiag.liveCount else none

/-- The sweep loop: the number of drainable granules and of pinned ones. -/
def sweepLoop (counts : List UInt32) : UInt64 × UInt64 :=
  counts.foldl
    (fun acc liveCount =>
      if liveCount = 0 then (acc.1 + 1, acc.2) else (acc.1, acc.2 + 1)) (0, 0)

/-- `drainprof_sweep`. -/
def sweep (env : Env) (prof : Profiler) : Snapshot :=
  let (drainable, pinned) := sweepLoop (sweptCounts prof.storage)
  { timestamp := env.now
    totalCloses := drainable + pinned
    drainableCloses := drainable
    pinnedCloses := pinned
    dsr := dsrOf drainable (drainable + pinned)
    openGranules := prof.counters.openGranules
    peakOpenGranules := prof.counters.peakOpenGranules
    totalAllocs := prof.counters.totalAllocs
    totalDeallocs := prof.counters.totalDeallocs }

/-- The array with every slot free, as a production reset leaves it. -/
def SlotArray.cleared (arr : SlotArray) : SlotArray :=
  { arr with
    slots := arr.slots.map fun _ => GranuleSlot.free
    length_slots := by rw [List.length_map, arr.length_slots] }

/-- `drainprof_reset`: in diagnostic mode only the counters are reset. -/
def reset (prof : Profiler) : Profiler :=
  match prof.storage with
  | .slotArray arr => { prof with counters := .zero, storage := .slotArray arr.cleared }
  | .slotArrayDiag _ => { prof with counters := .zero }

/-- `drainprof_drain_reports`. -/
def drainReports (prof : Profiler) (maxReports : UInt32) :
    Exec ((UInt32 × List (Option PinningReport)) × Profiler) :=
  match prof.storage, prof.reportBuffer with
  | .slotArrayDiag _, some buf => do
    let (out, buf) ← reportBufferDrain buf maxReports
    .ok (out, { prof with reportBuffer := some buf })
  | _, _ => .ok ((0, []), prof)

/-- `drainprof_diagnostic_summary_compute`: `none` is `NULL`. -/
def diagnosticSummaryCompute (env : Env) (prof : Profiler) : Exec (Option DiagnosticSummary) :=
  match prof.storage, prof.reportBuffer with
  | .slotArrayDiag _, some buf => diagnosticSummaryOfBuffer env buf
  | _, _ => .ok none

/-- `drainprof_destroy`: the buffered reports it frees, in order. -/
def destroy (prof : Profiler) : Exec (List PinningReport) :=
  match prof.storage with
  | .slotArray _ => .ok []
  | .slotArrayDiag arr => do
    slotArrayDiagDestroy arr
    match prof.reportBuffer with
    | some buf => reportBufferDestroy buf
    | none => .ok []

/-! ### Sequences of calls -/

/-- A public call on a profiler. -/
inductive Call where
  | granuleOpen (id : GranuleId)
  | granuleClose (id : GranuleId)
  | allocRegister (granuleId : GranuleId) (allocId : AllocId) (size : UInt64)
  | allocRegisterLocated (granuleId : GranuleId) (allocId : AllocId) (size : UInt64)
      (file : FilePtr) (line : UInt32)
  | allocDeregister (granuleId : GranuleId) (allocId : AllocId)
  | snapshot
  | sweep
  | reset
  | drainReports (maxReports : UInt32)
  | diagnosticSummaryCompute
  deriving DecidableEq, Repr

/-- What a public call returns. -/
inductive Result where
  | int (r : Int)
  | snapshot (s : Snapshot)
  | reports (count : UInt32) (reports : List (Option PinningReport))
  | summary (s : Option DiagnosticSummary)
  | void
  deriving DecidableEq, Repr

/-- What can be observed of a call: its result and the events it causes. -/
structure Outcome where
  result : Result
  events : List Event
  deriving DecidableEq, Repr

/-- One public call, in the environment that comes with it. -/
def Profiler.call (prof : Profiler) : Env × Call → Exec (Outcome × Profiler)
  | (env, .granuleOpen id) => do
    let (r, prof) ← granuleOpen env prof id
    .ok (⟨.int r, []⟩, prof)
  | (env, .granuleClose id) => do
    let (r, prof, events) ← granuleClose env prof id
    .ok (⟨.int r, events⟩, prof)
  | (env, .allocRegister g a size) => do
    let (r, prof) ← allocRegister env prof g a size
    .ok (⟨.int r, []⟩, prof)
  | (env, .allocRegisterLocated g a size file line) => do
    let (r, prof) ← allocRegisterLocated env prof g a size file line
    .ok (⟨.int r, []⟩, prof)
  | (env, .allocDeregister g a) => do
    let (r, prof) ← allocDeregister env prof g a
    .ok (⟨.int r, []⟩, prof)
  | (env, .snapshot) => .ok (⟨.snapshot (snapshot env prof), []⟩, prof)
  | (env, .sweep) => .ok (⟨.snapshot (sweep env prof), []⟩, prof)
  | (_, .reset) => .ok (⟨.void, []⟩, reset prof)
  | (_, .drainReports maxReports) => do
    let ((count, reports), prof) ← drainReports prof maxReports
    .ok (⟨.reports count reports, []⟩, prof)
  | (env, .diagnosticSummaryCompute) => do
    let s ← diagnosticSummaryCompute env prof
    .ok (⟨.summary s, []⟩, prof)

end Drainprof
