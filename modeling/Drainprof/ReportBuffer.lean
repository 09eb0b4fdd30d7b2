import Drainprof.GranuleDiag

/-!
# The circular report buffer

The model of `drainprof_report_buffer`.  The creation function does not check the capacity, and a
push into a buffer of capacity zero takes the full-buffer path and reads past the block.

`reports` is the array of pointers, `none` for `NULL`.  A pointer whose report has been freed is
still in the array until its slot is overwritten, as in the source.
-/

namespace Drainprof

/-- `drainprof_report_buffer`; the mutex is not modelled. -/
structure ReportBuffer where
  reports : List (Option PinningReport)
  capacity : UInt32
  count : UInt32
  head : UInt32
  tail : UInt32
  deriving DecidableEq, Repr

/-- `drainprof_report_buffer_create`. -/
def reportBufferCreate (env : Env) (capacity : UInt32) : Option ReportBuffer :=
  if !env.succeeds .bufferMalloc then none
  else if !env.succeeds .bufferReportsCalloc then none
  else if !env.succeeds .bufferMutexInit then none
  else some {
    reports := List.replicate capacity.toNat none
    capacity := capacity
    count := 0
    head := 0
    tail := 0 }

/-- The full-buffer path of `drainprof_report_buffer_push`: the oldest report is freed, and its
place given up. -/
def reportBufferDropOldest (buf : ReportBuffer) : Exec (Option PinningReport × ReportBuffer) := do
  let oldest ← load buf.reports buf.tail
  let tail ← umod (buf.tail + 1) buf.capacity
  .ok (oldest, { buf with tail := tail, count := buf.count - 1 })

/-- `drainprof_report_buffer_push`, with the report it frees, if any. -/
def reportBufferPush (buf : ReportBuffer) (report : PinningReport) :
    Exec (Option PinningReport × ReportBuffer) := do
  let (freed, buf) ←
    -- make room first, so that the new report always fits
    if buf.count = buf.capacity then reportBufferDropOldest buf else .ok (none, buf)
  let reports ← store buf.reports buf.head (some report)
  let head ← umod (buf.head + 1) buf.capacity
  .ok (freed, { buf with reports := reports, head := head, count := buf.count + 1 })

/-- The loop of `drainprof_report_buffer_drain`, with `fuel` reports left to hand over. -/
def reportBufferDrain.go : ℕ → ReportBuffer → Exec (List (Option PinningReport) × ReportBuffer)
  | 0, buf => .ok ([], buf)
  | fuel + 1, buf => do
    let report ← load buf.reports buf.tail
    -- the caller owns the report from here on
    let reports ← store buf.reports buf.tail none
    let tail ← umod (buf.tail + 1) buf.capacity
    let (rest, buf) ← reportBufferDrain.go fuel { buf with reports := reports, tail := tail }
    .ok (report :: rest, buf)

/-- `drainprof_report_buffer_drain`: the number of reports handed over and the array of them. -/
def reportBufferDrain (buf : ReportBuffer) (maxReports : UInt32) :
    Exec ((UInt32 × List (Option PinningReport)) × ReportBuffer) :=
  if maxReports = 0 then .ok ((0, []), buf)
  else do
    let toDrain := if buf.count < maxReports then buf.count else maxReports
    let (out, buf) ← reportBufferDrain.go toDrain.toNat buf
    .ok ((toDrain, out), { buf with count := buf.count - toDrain })

/-- The loop of `drainprof_report_buffer_destroy`, with `fuel` iterations left: the reports it
frees, in order. -/
def reportBufferDestroy.go (buf : ReportBuffer) : ℕ → ℕ → Exec (List PinningReport)
  | 0, _ => .ok []
  | fuel + 1, i => do
    let idx ← umod (buf.tail + UInt32.ofNat i) buf.capacity
    let report ← load buf.reports idx
    let rest ← reportBufferDestroy.go buf fuel (i + 1)
    .ok (report.toList ++ rest)

/-- `drainprof_report_buffer_destroy`: the reports it frees, in order. -/
def reportBufferDestroy (buf : ReportBuffer) : Exec (List PinningReport) :=
  reportBufferDestroy.go buf buf.count.toNat 0

/-! ### Sequences of operations -/

/-- A call on the report buffer. -/
inductive BufferOp where
  | push (report : PinningReport)
  | drain (maxReports : UInt32)
  deriving DecidableEq, Repr

/-- What a call does with reports: `push` may free one, `drain` hands some over. -/
inductive BufferRet where
  | freed (report : Option PinningReport)
  | drained (count : UInt32) (reports : List (Option PinningReport))
  deriving DecidableEq, Repr

/-- One call on the report buffer. -/
def ReportBuffer.step (buf : ReportBuffer) : BufferOp → Exec (BufferRet × ReportBuffer)
  | .push report => do
    let (freed, buf) ← reportBufferPush buf report
    .ok (.freed freed, buf)
  | .drain maxReports => do
    let ((count, reports), buf) ← reportBufferDrain buf maxReports
    .ok (.drained count reports, buf)

end Drainprof
