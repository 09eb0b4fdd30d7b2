import Drainprof.Library.Ownership
import Drainprof.Profiler

/-!
# The blocks of the profiler

The functions of `diagnostic.c` and `drainprof.c` once more, with what they allocate, use and free: a
structure carries the blocks it lives in beside its contents, and every path on which memory runs out
frees what its source frees.  What a function computes from the contents of live blocks is taken from
the model without blocks.

Using a block that is not allocated is a fault, and so is freeing it.  `life` is what a careful caller
does with a profiler: it frees the reports and summaries it is handed, and destroys the profiler.
-/

namespace Drainprof.Heap

open Ownership (Block eval)

/-- A program of the library. -/
abbrev Prog (α : Type) := Ownership.Prog Fault α

/-- `malloc` and `calloc`: `none` is `NULL`. -/
abbrev malloc (env : Env) (request : Request) : Prog (Option Block) :=
  Ownership.malloc (env.succeeds request)

/-- `free` of a pointer that is not `NULL`. -/
abbrev free (b : Block) : Prog Unit :=
  Ownership.free Fault.useAfterFree b

/-- A block is read or written. -/
abbrev use (b : Block) : Prog Unit :=
  Ownership.use Fault.useAfterFree b

/-- `free`, which does nothing for `NULL`. -/
def freeOpt : Option Block → Prog Unit
  | none => pure ()
  | some b => free b

/-- `realloc`, which is `malloc` for `NULL`. -/
def reallocOpt (b : Option Block) (zero succeeds : Bool) : Prog (Option Block) :=
  match b with
  | none => Ownership.malloc succeeds
  | some b => Ownership.realloc Fault.useAfterFree b zero succeeds

/-! ### Pinning reports -/

/-- A report and its array. -/
structure PinningReport where
  block : Block
  pinningAllocs : Block
  content : Drainprof.PinningReport

/-- `drainprof_pinning_report_free`. -/
def pinningReportFree (report : PinningReport) : Prog Unit := do
  use report.block
  free report.pinningAllocs
  free report.block

/-- The same for a pointer that may be `NULL`. -/
def pinningReportFreeOpt : Option PinningReport → Prog Unit
  | none => pure ()
  | some report => pinningReportFree report

/-! ### The report buffer -/

/-- `drainprof_report_buffer` and its array. -/
structure ReportBuffer where
  block : Block
  reportsBlock : Block
  reports : List (Option PinningReport)
  capacity : UInt32
  count : UInt32
  head : UInt32
  tail : UInt32

/-- `drainprof_report_buffer_create`. -/
def reportBufferCreate (env : Env) (capacity : UInt32) : Prog (Option ReportBuffer) := do
  match ← malloc env .bufferMalloc with
  | none => pure none
  | some block =>
    match ← malloc env .bufferReportsCalloc with
    | none => do
      free block
      pure none
    | some reportsBlock =>
      if !env.succeeds .bufferMutexInit then do
        free reportsBlock
        free block
        pure none
      else
        pure (some {
          block := block
          reportsBlock := reportsBlock
          reports := List.replicate capacity.toNat none
          capacity := capacity
          count := 0
          head := 0
          tail := 0 })

/-- The loop of `drainprof_report_buffer_destroy`, with `fuel` iterations left. -/
def reportBufferDestroy.go (buf : ReportBuffer) : ℕ → ℕ → Prog Unit
  | 0, _ => pure ()
  | fuel + 1, i => do
    let idx ← eval (umod (buf.tail + UInt32.ofNat i) buf.capacity)
    use buf.reportsBlock
    let report ← eval (load buf.reports idx)
    pinningReportFreeOpt report
    reportBufferDestroy.go buf fuel (i + 1)

/-- `drainprof_report_buffer_destroy`. -/
def reportBufferDestroy (buf : ReportBuffer) : Prog Unit := do
  use buf.block
  reportBufferDestroy.go buf buf.count.toNat 0
  free buf.reportsBlock
  free buf.block

/-- The full-buffer path of `drainprof_report_buffer_push`. -/
def reportBufferDropOldest (buf : ReportBuffer) : Prog (Option PinningReport × ReportBuffer) := do
  use buf.reportsBlock
  let oldest ← eval (load buf.reports buf.tail)
  pinningReportFreeOpt oldest
  let tail ← eval (umod (buf.tail + 1) buf.capacity)
  pure (oldest, { buf with tail := tail, count := buf.count - 1 })

/-- `drainprof_report_buffer_push`, with the report it has freed, if any. -/
def reportBufferPush (buf : ReportBuffer) (report : PinningReport) :
    Prog (Option PinningReport × ReportBuffer) := do
  use buf.block
  let (freed, buf) ←
    (if buf.count = buf.capacity then reportBufferDropOldest buf else pure (none, buf))
  use buf.reportsBlock
  let reports ← eval (store buf.reports buf.head (some report))
  let head ← eval (umod (buf.head + 1) buf.capacity)
  pure (freed, { buf with reports := reports, head := head, count := buf.count + 1 })

/-- The loop of `drainprof_report_buffer_drain`, with `fuel` reports left to hand over. -/
def reportBufferDrain.go : ℕ → ReportBuffer → Prog (List (Option PinningReport) × ReportBuffer)
  | 0, buf => pure ([], buf)
  | fuel + 1, buf => do
    use buf.reportsBlock
    let report ← eval (load buf.reports buf.tail)
    let reports ← eval (store buf.reports buf.tail none)
    let tail ← eval (umod (buf.tail + 1) buf.capacity)
    let (rest, buf) ← reportBufferDrain.go fuel { buf with reports := reports, tail := tail }
    pure (report :: rest, buf)

/-- `drainprof_report_buffer_drain`. -/
def reportBufferDrain (buf : ReportBuffer) (maxReports : UInt32) :
    Prog ((UInt32 × List (Option PinningReport)) × ReportBuffer) :=
  if maxReports = 0 then pure ((0, []), buf)
  else do
    use buf.block
    let toDrain := if buf.count < maxReports then buf.count else maxReports
    let (out, buf) ← reportBufferDrain.go toDrain.toNat buf
    pure ((toDrain, out), { buf with count := buf.count - toDrain })

/-! ### Granule records -/

/-- `drainprof_granule_diag` and its array. -/
structure GranuleDiag where
  block : Block
  allocs : Block
  content : Drainprof.GranuleDiag

/-- `drainprof_granule_diag_create`. -/
def granuleDiagCreate (env : Env) (id : GranuleId) (openTime : Timespec) :
    Prog (Option GranuleDiag) := do
  match ← malloc env .diagMalloc with
  | none => pure none
  | some block =>
    match ← malloc env .diagAllocsCalloc with
    | none => do
      free block
      pure none
    | some allocs =>
      if !env.succeeds .diagMutexInit then do
        free allocs
        free block
        pure none
      else
        pure (some ⟨block, allocs, {
          granuleId := id
          liveCount := 0
          openTime := openTime
          allocs := some (List.replicate 64 AllocRecord.zero)
          allocCount := 0
          allocCapacity := 64
          lastFreedIndex := 0 }⟩)

/-- `drainprof_granule_diag_destroy`. -/
def granuleDiagDestroy (diag : GranuleDiag) : Prog Unit := do
  use diag.block
  free diag.allocs
  free diag.block

/-- `drainprof_granule_diag_add_alloc`. -/
def granuleDiagAddAlloc (env : Env) (diag : GranuleDiag) (allocId : AllocId) (size : UInt64)
    (file : FilePtr) (line : UInt32) (allocTime : Timespec) : Prog (Int × GranuleDiag) := do
  use diag.block
  let (result, content) ←
    eval (Drainprof.granuleDiagAddAlloc env diag.content allocId size file line allocTime)
  if diag.content.allocCount ≥ diag.content.allocCapacity then
    let newCapacity := diag.content.allocCapacity * 2
    match ← Ownership.realloc Fault.useAfterFree diag.allocs (newCapacity = 0)
        (env.succeeds .diagAllocsRealloc) with
    | none => pure (result, { diag with content := content })
    | some newAllocs => do
      use newAllocs
      pure (result, { diag with allocs := newAllocs, content := content })
  else do
    use diag.allocs
    pure (result, { diag with content := content })

/-- `drainprof_granule_diag_mark_freed`. -/
def granuleDiagMarkFreed (diag : GranuleDiag) (allocId : AllocId) (freeTime : Timespec) :
    Prog (Int × GranuleDiag) := do
  use diag.block
  (if diag.content.allocCount ≠ 0 then use diag.allocs else pure ())
  let (result, content) ← eval (Drainprof.granuleDiagMarkFreed diag.content allocId freeTime)
  pure (result, { diag with content := content })

/-- `drainprof_granule_diag_generate_report`. -/
def granuleDiagGenerateReport (env : Env) (diag : GranuleDiag) (closeTime : Timespec) :
    Prog (Option PinningReport) := do
  use diag.block
  if diag.content.liveCount = 0 then pure none
  else
    match ← malloc env .reportMalloc with
    | none => pure none
    | some block =>
      match ← malloc env .pinningAllocsMalloc with
      | none => do
        free block
        pure none
      | some pinningAllocs => do
        use diag.allocs
        use pinningAllocs
        let copied ← eval (granuleDiagGenerateReport.go diag.content diag.content.allocCount.toNat 0 0
          (List.replicate diag.content.liveCount.toNat default))
        pure (some ⟨block, pinningAllocs, {
          granuleId := diag.content.granuleId
          openTime := diag.content.openTime
          closeTime := closeTime
          pinningAllocs := copied
          pinningCount := diag.content.liveCount
          totalAllocs := diag.content.allocCount
          drainedAllocs := diag.content.allocCount - diag.content.liveCount }⟩)

/-! ### The diagnostic slot array -/

/-- `drainprof_diag_slot`. -/
structure DiagSlot where
  occupied : Bool
  diag : Option GranuleDiag

/-- `drainprof_slot_array_diag` and its slots. -/
structure SlotArrayDiag where
  block : Block
  slotsBlock : Block
  capacity : UInt32
  slots : List DiagSlot
  length_slots : slots.length = capacity.toNat

namespace SlotArrayDiag

/-- `arr->slots[i]`. -/
def slot (arr : SlotArrayDiag) (i : Fin arr.capacity.toNat) : DiagSlot :=
  arr.slots.get (i.cast arr.length_slots.symm)

/-- The array with slot `i` written. -/
def setSlot (arr : SlotArrayDiag) (i : Fin arr.capacity.toNat) (s : DiagSlot) : SlotArrayDiag :=
  { arr with
    slots := arr.slots.set i s
    length_slots := by rw [List.length_set, arr.length_slots] }

end SlotArrayDiag

/-- `drainprof_slot_array_diag_create`. -/
def slotArrayDiagCreate (env : Env) (capacity : UInt32) : Prog (Option SlotArrayDiag) := do
  match ← malloc env .diagSlotArrayMalloc with
  | none => pure none
  | some block =>
    match ← malloc env .diagSlotsCalloc with
    | none => do
      free block
      pure none
    | some slotsBlock =>
      pure (some {
        block := block
        slotsBlock := slotsBlock
        capacity := capacity
        slots := List.replicate capacity.toNat ⟨false, none⟩
        length_slots := List.length_replicate })

/-- The loop of `drainprof_slot_array_diag_destroy` over the slots left. -/
def slotArrayDiagDestroy.go : List DiagSlot → Prog Unit
  | [] => pure ()
  | s :: slots =>
    match s.diag with
    | some diag => do
      granuleDiagDestroy diag
      slotArrayDiagDestroy.go slots
    | none => slotArrayDiagDestroy.go slots

/-- `drainprof_slot_array_diag_destroy`. -/
def slotArrayDiagDestroy (arr : SlotArrayDiag) : Prog Unit := do
  use arr.block
  use arr.slotsBlock
  slotArrayDiagDestroy.go arr.slots
  free arr.slotsBlock
  free arr.block

/-- `drainprof_slot_array_diag_open`. -/
def slotArrayDiagOpen (env : Env) (arr : SlotArrayDiag) (id : GranuleId) (openTime : Timespec) :
    Prog (Int × SlotArrayDiag) := do
  use arr.block
  let i ← eval (diagSlotIndex arr.capacity id)
  use arr.slotsBlock
  if (arr.slot i).occupied then pure (-1, arr)
  else
    match ← granuleDiagCreate env id openTime with
    | none => pure (-1, arr.setSlot i ⟨false, none⟩)
    | some diag => pure (0, arr.setSlot i ⟨true, some diag⟩)

/-- The record of granule `id` in a slot, which is read for its id. -/
def DiagSlot.find (s : DiagSlot) (id : GranuleId) : Prog (Option GranuleDiag) :=
  if !s.occupied then pure none
  else
    match s.diag with
    | none => pure none
    | some diag => do
      use diag.block
      pure (if diag.content.granuleId = id then some diag else none)

/-- `drainprof_slot_array_diag_get`. -/
def slotArrayDiagGet (arr : SlotArrayDiag) (id : GranuleId) :
    Prog (Option (Fin arr.capacity.toNat × GranuleDiag)) := do
  use arr.block
  let i ← eval (diagSlotIndex arr.capacity id)
  use arr.slotsBlock
  let found ← (arr.slot i).find id
  pure (found.map fun diag => (i, diag))

/-- `drainprof_slot_array_diag_close`: the record goes to the caller. -/
def slotArrayDiagClose (arr : SlotArrayDiag) (id : GranuleId) :
    Prog (Option (GranuleDiag × SlotArrayDiag)) := do
  use arr.block
  let i ← eval (diagSlotIndex arr.capacity id)
  use arr.slotsBlock
  let found ← (arr.slot i).find id
  pure (found.map fun diag => (diag, arr.setSlot i ⟨false, none⟩))

/-! ### The diagnostic summary -/

/-- A summary and its sites, `none` for `NULL`. -/
structure DiagnosticSummary where
  block : Block
  sites : Option Block
  content : Drainprof.DiagnosticSummary

/-- The local variables of `drainprof_diagnostic_summary_compute`. -/
structure SummaryState where
  sites : Option Block
  lastGranulePerSite : Block
  content : Drainprof.SummaryState

/-- A pointer that may be `NULL` is followed. -/
def useOpt : Option Block → Prog Unit
  | none => eval (.error .useAfterFree)
  | some b => use b

/-- `find_or_create_site`. -/
def findOrCreateSite (env : Env) (st : SummaryState) (site : AllocSite) :
    Prog (Option UInt32 × SummaryState) := do
  let found ← eval (findOrCreateSite.go st.content.sites site st.content.siteCount.toNat 0)
  (if st.content.siteCount ≠ 0 then useOpt st.sites else pure ())
  match found with
  | some i => pure (some i, st)
  | none =>
    if st.content.siteCount ≥ st.content.siteCapacity then
      let newCap := if st.content.siteCapacity = 0 then 16 else st.content.siteCapacity * 2
      match ← reallocOpt st.sites (newCap = 0) (env.succeeds (.sitesRealloc newCap)) with
      | none => pure (none, st)
      | some newSites => do
        use newSites
        let (created, content) ← eval (Drainprof.findOrCreateSite env st.content site)
        pure (created, { st with sites := some newSites, content := content })
    else do
      let (created, content) ← eval (Drainprof.findOrCreateSite env st.content site)
      useOpt st.sites
      pure (created, { st with content := content })

/-- The resize of the tracking array: `none` if it fails, and then the old one is still there. -/
def growTracking (env : Env) (st : SummaryState) : Prog (Option SummaryState) :=
  if st.content.siteCapacity > st.content.trackingCapacity then do
    match ← Ownership.realloc Fault.useAfterFree st.lastGranulePerSite
        (st.content.siteCapacity = 0)
        (env.succeeds (.trackingRealloc st.content.siteCapacity)) with
    | none => pure none
    | some newTracking => do
      use newTracking
      pure ((Drainprof.growTracking env st.content).map fun content =>
        { st with lastGranulePerSite := newTracking, content := content })
  else pure (some st)

/-- What is freed where the summary gives up. -/
def summaryAbandon (st : SummaryState) : Prog Unit := do
  free st.lastGranulePerSite
  freeOpt st.sites

/-- The booking of one pinning allocation of a report on granule `currentGranule`. -/
def summaryAddAlloc (env : Env) (currentGranule : GranuleId) (st : SummaryState)
    (pa : PinningAlloc) : Prog (Option SummaryState) := do
  let (found, st) ← findOrCreateSite env st pa.allocSite
  match found with
  | none => do
    summaryAbandon st
    pure none
  | some siteIdx =>
    match ← growTracking env st with
    | none => do
      summaryAbandon st
      pure none
    | some st => do
      let entry ← eval (load st.content.sites siteIdx)
      useOpt st.sites
      let last ← eval (load st.content.lastGranulePerSite siteIdx)
      use st.lastGranulePerSite
      let tracking ← eval (store st.content.lastGranulePerSite siteIdx currentGranule)
      let entry := { entry with
        totalAllocs := entry.totalAllocs + 1
        totalBytes := entry.totalBytes + pa.size }
      let entry :=
        if last ≠ currentGranule then { entry with pinningCount := entry.pinningCount + 1 }
        else entry
      let sites ← eval (store st.content.sites siteIdx entry)
      pure (some { st with content := { st.content with
        sites := sites
        lastGranulePerSite := tracking
        totalPinningAllocs := st.content.totalPinningAllocs + 1 } })

/-- The loop over the pinning allocations of one report, with `fuel` iterations left. -/
def summaryAddReport.go (env : Env) (report : PinningReport) :
    ℕ → UInt32 → SummaryState → Prog (Option SummaryState)
  | 0, _, st => pure (some st)
  | fuel + 1, j, st => do
    use report.block
    use report.pinningAllocs
    let pa ← eval (load report.content.pinningAllocs j)
    match ← summaryAddAlloc env report.content.granuleId st pa with
    | none => pure none
    | some st => summaryAddReport.go env report fuel (j + 1) st

/-- One iteration of the loop over the buffered reports; a `NULL` report is skipped. -/
def summaryAddReport (env : Env) (report : Option PinningReport) (st : SummaryState) :
    Prog (Option SummaryState) :=
  match report with
  | none => pure (some st)
  | some report => do
    use report.block
    summaryAddReport.go env report report.content.pinningCount.toNat 0
      { st with content := { st.content with reportsAnalyzed := st.content.reportsAnalyzed + 1 } }

/-- The loop over the buffered reports, with `fuel` iterations left. -/
def diagnosticSummaryCompute.go (env : Env) (buf : ReportBuffer) :
    ℕ → ℕ → SummaryState → Prog (Option SummaryState)
  | 0, _, st => pure (some st)
  | fuel + 1, i, st => do
    let idx ← eval (umod (buf.tail + UInt32.ofNat i) buf.capacity)
    use buf.reportsBlock
    let report ← eval (load buf.reports idx)
    match ← summaryAddReport env report st with
    | none => pure none
    | some st => diagnosticSummaryCompute.go env buf fuel (i + 1) st

/-- `drainprof_diagnostic_summary_compute` on the report buffer. -/
def diagnosticSummaryOfBuffer (env : Env) (buf : ReportBuffer) :
    Prog (Option DiagnosticSummary) := do
  match ← malloc env .summaryCalloc with
  | none => pure none
  | some block =>
    use buf.block
    match ← malloc env .trackingCalloc with
    | none => do
      free block
      pure none
    | some tracking =>
      match ← diagnosticSummaryCompute.go env buf buf.count.toNat 0
          ⟨none, tracking, .initial⟩ with
      | none => do
        -- what the loop had allocated is freed where it gave up
        free block
        pure none
      | some st => do
        free st.lastGranulePerSite
        pure (some ⟨block, st.sites, {
          sites := st.content.sites.take st.content.siteCount.toNat
          siteCount := st.content.siteCount
          totalPinningAllocs := st.content.totalPinningAllocs
          reportsAnalyzed := st.content.reportsAnalyzed }⟩)

/-- `drainprof_diagnostic_summary_free`. -/
def diagnosticSummaryFree (summary : DiagnosticSummary) : Prog Unit := do
  use summary.block
  freeOpt summary.sites
  free summary.block

/-! ### The profiler -/

/-- `drainprof_slot_array` and its slots. -/
structure SlotArray where
  block : Block
  slotsBlock : Block
  content : Drainprof.SlotArray

/-- `drainprof_slot_array_create`. -/
def slotArrayCreate (env : Env) (capacity : UInt32) : Prog (Option SlotArray) :=
  if capacity = 0 then pure none
  else do
    match ← malloc env .slotArrayMalloc with
    | none => pure none
    | some block =>
      match ← malloc env .slotsCalloc with
      | none => do
        free block
        pure none
      | some slotsBlock => do
        use slotsBlock
        pure ((Drainprof.slotArrayCreate env capacity).map fun arr => ⟨block, slotsBlock, arr⟩)

/-- `drainprof_slot_array_destroy`. -/
def slotArrayDestroy (arr : SlotArray) : Prog Unit := do
  use arr.block
  free arr.slotsBlock
  free arr.block

/-- The storage backend. -/
inductive Storage where
  | slotArray (arr : SlotArray)
  | slotArrayDiag (arr : SlotArrayDiag)

/-- `struct drainprof`. -/
structure Profiler where
  block : Block
  config : Config
  counters : Counters
  storage : Storage
  reportBuffer : Option ReportBuffer

/-- `drainprof_create_with_config`. -/
def createWithConfig (env : Env) (config : Config) : Prog (Option Profiler) := do
  match ← malloc env .profMalloc with
  | none => pure none
  | some block =>
    match config.mode, config.storage with
    | .production, .slotArray => do
      match ← slotArrayCreate env config.slotCapacity with
      | none => do
        free block
        pure none
      | some arr => pure (some ⟨block, config, .zero, .slotArray arr, none⟩)
    | .diagnostic, .slotArray => do
      match ← slotArrayDiagCreate env config.slotCapacity with
      | none => do
        free block
        pure none
      | some arr =>
        if config.onPinning then pure (some ⟨block, config, .zero, .slotArrayDiag arr, none⟩)
        else
          match ← reportBufferCreate env config.maxBufferedReports with
          | none => do
            slotArrayDiagDestroy arr
            free block
            pure none
          | some buf => pure (some ⟨block, config, .zero, .slotArrayDiag arr, some buf⟩)
    | _, .hashMap => do
      free block
      pure none

/-- The part of `drainprof_destroy` that depends on the mode. -/
def storageDestroy (storage : Storage) (reportBuffer : Option ReportBuffer) : Prog Unit :=
  match storage with
  | .slotArray arr => slotArrayDestroy arr
  | .slotArrayDiag arr => do
    slotArrayDiagDestroy arr
    match reportBuffer with
    | some buf => reportBufferDestroy buf
    | none => pure ()

/-- `drainprof_destroy`. -/
def destroy (prof : Profiler) : Prog Unit := do
  use prof.block
  storageDestroy prof.storage prof.reportBuffer
  free prof.block

/-- The storage part of `drainprof_granule_open`. -/
def storageOpen (env : Env) (storage : Storage) (id : GranuleId) : Prog (Int × Storage) :=
  match storage with
  | .slotArray arr => do
    use arr.block
    use arr.slotsBlock
    let (result, content) := slotArrayOpen arr.content id
    pure (result, .slotArray { arr with content := content })
  | .slotArrayDiag arr => do
    let (result, arr) ← slotArrayDiagOpen env arr id env.now
    pure (result, .slotArrayDiag arr)

/-- `drainprof_granule_open`. -/
def granuleOpen (env : Env) (prof : Profiler) (id : GranuleId) : Prog (Int × Profiler) := do
  use prof.block
  let (result, storage) ← storageOpen env prof.storage id
  let prof := { prof with storage := storage }
  if result ≠ 0 then pure (result, prof)
  else pure (0, { prof with counters := prof.counters.opened })

/-- What becomes of a report: the callback gets it and it is freed, or the buffer keeps it. -/
def deliverReport (prof : Profiler) (report : PinningReport) : Prog (Profiler × List Event) :=
  if prof.config.onPinning then do
    pinningReportFree report
    pure (prof, [.pinCallback report.content, .reportFreed report.content])
  else
    match prof.reportBuffer with
    | some buf => do
      let (freed, buf) ← reportBufferPush buf report
      pure ({ prof with reportBuffer := some buf },
        freed.toList.map fun r => .reportFreed r.content)
    | none => do
      pinningReportFree report
      pure (prof, [.reportFreed report.content])

/-- The report branch of `drainprof_granule_close` for a granule that is not drainable. -/
def reportPinned (env : Env) (prof : Profiler) (id : GranuleId) (diag : GranuleDiag) :
    Prog (Profiler × List Event) := do
  let report? ← granuleDiagGenerateReport env diag env.now
  let (prof, events) ←
    (match report? with
    | some report => do
      let (prof, events) ← deliverReport prof report
      pure (prof, .reportCreated report.content :: events)
    | none => pure (prof, []))
  let log := if prof.config.verbose then [.logPinned id diag.content.liveCount] else []
  pure (prof, events ++ log)

/-- The counter updates and the periodic log line at the end of `drainprof_granule_close`. -/
def finishClose (prof : Profiler) (drainable : Bool) : Profiler × List Event :=
  let counters := prof.counters.closed drainable
  let log :=
    if prof.config.logInterval > 0 ∧ counters.totalCloses % prof.config.logInterval = 0 then
      [.logDsr counters.drainableCloses counters.pinnedCloses counters.totalCloses]
    else []
  ({ prof with counters := counters }, log)

/-- `drainprof_granule_close`. -/
def granuleClose (env : Env) (prof : Profiler) (id : GranuleId) :
    Prog (Int × Profiler × List Event) := do
  use prof.block
  match prof.storage with
  | .slotArray arr => do
    use arr.block
    use arr.slotsBlock
    let (liveCount, content) := slotArrayClose arr.content id
    let prof := { prof with storage := .slotArray { arr with content := content } }
    if liveCount = uint32Max then pure (-1, prof, [])
    else
      let drainable := liveCount = 0
      let (prof, log) := finishClose prof drainable
      pure (if drainable then 1 else 0, prof, log)
  | .slotArrayDiag arr => do
    match ← slotArrayDiagClose arr id with
    | none => pure (-1, prof, [])
    | some (diag, arr) => do
      let prof := { prof with storage := .slotArrayDiag arr }
      use diag.block
      let drainable := diag.content.liveCount = 0
      let (prof, events) ←
        (if drainable then pure (prof, []) else reportPinned env prof id diag)
      granuleDiagDestroy diag
      let (prof, log) := finishClose prof drainable
      pure (if drainable then 1 else 0, prof, events ++ log)

/-- The storage part of the two register calls. -/
def storageRegister (env : Env) (storage : Storage) (granuleId : GranuleId) (allocId : AllocId)
    (size : UInt64) (file : FilePtr) (line : UInt32) : Prog (Int × Storage) :=
  match storage with
  | .slotArray arr => do
    use arr.block
    use arr.slotsBlock
    let (result, content) := slotArrayAlloc arr.content granuleId
    pure (result, .slotArray { arr with content := content })
  | .slotArrayDiag arr => do
    match ← slotArrayDiagGet arr granuleId with
    | none => pure (-1, .slotArrayDiag arr)
    | some (i, diag) => do
      let (result, diag) ← granuleDiagAddAlloc env diag allocId size file line env.now
      pure (result, .slotArrayDiag (arr.setSlot i ⟨true, some diag⟩))

/-- `drainprof_alloc_register_located`. -/
def allocRegisterLocated (env : Env) (prof : Profiler) (granuleId : GranuleId) (allocId : AllocId)
    (size : UInt64) (file : FilePtr) (line : UInt32) : Prog (Int × Profiler) := do
  use prof.block
  let counters := { prof.counters with totalAllocs := prof.counters.totalAllocs + 1 }
  let (result, storage) ← storageRegister env prof.storage granuleId allocId size file line
  pure (result, { prof with counters := counters, storage := storage })

/-- The storage part of `drainprof_alloc_deregister`. -/
def storageDeregister (env : Env) (storage : Storage) (granuleId : GranuleId)
    (allocId : AllocId) : Prog (Int × Storage) :=
  match storage with
  | .slotArray arr => do
    use arr.block
    use arr.slotsBlock
    let (result, content) := slotArrayDealloc arr.content granuleId
    pure (result, .slotArray { arr with content := content })
  | .slotArrayDiag arr => do
    match ← slotArrayDiagGet arr granuleId with
    | none => pure (-1, .slotArrayDiag arr)
    | some (i, diag) => do
      let (result, diag) ← granuleDiagMarkFreed diag allocId env.now
      pure (result, .slotArrayDiag (arr.setSlot i ⟨true, some diag⟩))

/-- `drainprof_alloc_deregister`. -/
def allocDeregister (env : Env) (prof : Profiler) (granuleId : GranuleId) (allocId : AllocId) :
    Prog (Int × Profiler) := do
  use prof.block
  let counters := { prof.counters with totalDeallocs := prof.counters.totalDeallocs + 1 }
  let (result, storage) ← storageDeregister env prof.storage granuleId allocId
  pure (result, { prof with counters := counters, storage := storage })

/-- The live counts the sweep loop reads, slot by slot. -/
def sweptCounts : List DiagSlot → Prog (List UInt32)
  | [] => pure []
  | s :: slots =>
    match s.occupied, s.diag with
    | true, some diag => do
      use diag.block
      let counts ← sweptCounts slots
      pure (diag.content.liveCount :: counts)
    | _, _ => sweptCounts slots

/-- `drainprof_sweep`. -/
def sweep (env : Env) (prof : Profiler) : Prog Snapshot := do
  use prof.block
  let counts ←
    (match prof.storage with
    | .slotArray arr => do
      use arr.block
      use arr.slotsBlock
      pure (Drainprof.sweptCounts (.slotArray arr.content))
    | .slotArrayDiag arr => do
      use arr.block
      use arr.slotsBlock
      sweptCounts arr.slots)
  let (drainable, pinned) := sweepLoop counts
  pure {
    timestamp := env.now
    totalCloses := drainable + pinned
    drainableCloses := drainable
    pinnedCloses := pinned
    dsr := dsrOf drainable (drainable + pinned)
    openGranules := prof.counters.openGranules
    peakOpenGranules := prof.counters.peakOpenGranules
    totalAllocs := prof.counters.totalAllocs
    totalDeallocs := prof.counters.totalDeallocs }

/-- `drainprof_reset`. -/
def reset (prof : Profiler) : Prog Profiler := do
  use prof.block
  match prof.storage with
  | .slotArray arr => do
    use arr.block
    use arr.slotsBlock
    pure { prof with
      counters := .zero
      storage := .slotArray { arr with content := arr.content.cleared } }
  | .slotArrayDiag _ => pure { prof with counters := .zero }

/-- `drainprof_drain_reports`. -/
def drainReports (prof : Profiler) (maxReports : UInt32) :
    Prog ((UInt32 × List (Option PinningReport)) × Profiler) := do
  use prof.block
  match prof.storage, prof.reportBuffer with
  | .slotArrayDiag _, some buf => do
    let (out, buf) ← reportBufferDrain buf maxReports
    pure (out, { prof with reportBuffer := some buf })
  | _, _ => pure ((0, []), prof)

/-- `drainprof_diagnostic_summary_compute`. -/
def diagnosticSummaryCompute (env : Env) (prof : Profiler) : Prog (Option DiagnosticSummary) := do
  use prof.block
  match prof.storage, prof.reportBuffer with
  | .slotArrayDiag _, some buf => diagnosticSummaryOfBuffer env buf
  | _, _ => pure none

/-! ### Lives -/

/-- What can be observed of a call, and what it hands to the caller to free. -/
structure Outcome where
  content : Drainprof.Outcome
  reports : List (Option PinningReport)
  summary : Option DiagnosticSummary

/-- One public call, in the environment that comes with it. -/
def Profiler.call (prof : Profiler) : Env × Call → Prog (Outcome × Profiler)
  | (env, .granuleOpen id) => do
    let (r, prof) ← granuleOpen env prof id
    pure (⟨⟨.int r, []⟩, [], none⟩, prof)
  | (env, .granuleClose id) => do
    let (r, prof, events) ← granuleClose env prof id
    pure (⟨⟨.int r, events⟩, [], none⟩, prof)
  | (env, .allocRegister g a size) => do
    let (r, prof) ← allocRegisterLocated env prof g a size 0 0
    pure (⟨⟨.int r, []⟩, [], none⟩, prof)
  | (env, .allocRegisterLocated g a size file line) => do
    let (r, prof) ← allocRegisterLocated env prof g a size file line
    pure (⟨⟨.int r, []⟩, [], none⟩, prof)
  | (env, .allocDeregister g a) => do
    let (r, prof) ← allocDeregister env prof g a
    pure (⟨⟨.int r, []⟩, [], none⟩, prof)
  | (env, .snapshot) => do
    use prof.block
    pure (⟨⟨.snapshot {
      timestamp := env.now
      totalCloses := prof.counters.totalCloses
      drainableCloses := prof.counters.drainableCloses
      pinnedCloses := prof.counters.pinnedCloses
      dsr := dsrOf prof.counters.drainableCloses prof.counters.totalCloses
      openGranules := prof.counters.openGranules
      peakOpenGranules := prof.counters.peakOpenGranules
      totalAllocs := prof.counters.totalAllocs
      totalDeallocs := prof.counters.totalDeallocs }, []⟩, [], none⟩, prof)
  | (env, .sweep) => do
    let s ← sweep env prof
    pure (⟨⟨.snapshot s, []⟩, [], none⟩, prof)
  | (_, .reset) => do
    let prof ← reset prof
    pure (⟨⟨.void, []⟩, [], none⟩, prof)
  | (_, .drainReports maxReports) => do
    let ((count, reports), prof) ← drainReports prof maxReports
    pure (⟨⟨.reports count (reports.map (Option.map PinningReport.content)), []⟩, reports, none⟩,
      prof)
  | (env, .diagnosticSummaryCompute) => do
    let s ← diagnosticSummaryCompute env prof
    pure (⟨⟨.summary (s.map DiagnosticSummary.content), []⟩, [], s⟩, prof)

/-- The same for a pointer that may be `NULL`. -/
def diagnosticSummaryFreeOpt : Option DiagnosticSummary → Prog Unit
  | none => pure ()
  | some summary => diagnosticSummaryFree summary

/-- A list of reports is freed. -/
def freeReports : List (Option PinningReport) → Prog Unit
  | [] => pure ()
  | report :: reports => do
    pinningReportFreeOpt report
    freeReports reports

/-- The caller frees what calls have handed to it. -/
def release : List Outcome → Prog Unit
  | [] => pure ()
  | o :: os => do
    freeReports o.reports
    diagnosticSummaryFreeOpt o.summary
    release os

/-- The life of a profiler: its creation, calls, its destruction, and the caller frees what the calls
have handed to it. -/
def life (env : Env) (config : Config) (calls : List (Env × Call)) :
    Prog (Option (List Drainprof.Outcome)) := do
  match ← createWithConfig env config with
  | none => pure none
  | some prof => do
    let (os, prof) ← Ownership.run Profiler.call prof calls
    destroy prof
    release os
    pure (some (os.map Outcome.content))

end Drainprof.Heap
