import Drainprof.Summary
import Drainprof.Library.Mutex

/-!
# The report buffer under its lock

The model of what several threads do to one report buffer: closes that push, drains, and summaries
that read the buffer in place, each under `buf->lock`.  Every access to the fields of the buffer is a
step of its own, and a thread may be anywhere in its call when another takes a step; only the lock
keeps them apart.

A call whose arguments or first allocation make it return before it takes the lock is a `skip`.
-/

namespace Drainprof

/-- A call on the report buffer. -/
inductive BufferCall where
  | push (report : PinningReport)
  | drain (maxReports : UInt32)
  | summarize (env : Env)

/-- What it returns; a push may free a report. -/
inductive BufferResult where
  | freed (report : Option PinningReport)
  | drained (count : UInt32) (reports : List (Option PinningReport))
  | summary (s : Option DiagnosticSummary)
  deriving DecidableEq, Repr

/-- The calls one at a time, as the sequential model has them. -/
def ReportBuffer.serve (buf : ReportBuffer) : BufferCall → Exec (BufferResult × ReportBuffer)
  | .push report => do
    let (freed, buf) ← reportBufferPush buf report
    .ok (.freed freed, buf)
  | .drain maxReports => do
    let ((count, reports), buf) ← reportBufferDrain buf maxReports
    .ok (.drained count reports, buf)
  | .summarize env => do
    let s ← diagnosticSummaryOfBuffer env buf
    .ok (.summary s, buf)

/-- The next step of a call that holds the lock, with the local variables that are live. -/
inductive BufferPc where
  /-- `drainprof_report_buffer_push`: the test of a full buffer, and what makes room in one -/
  | pushTestFull (report : PinningReport)
  | pushFreeOldest (report : PinningReport)
  | pushMoveTail (report : PinningReport) (freed : Option PinningReport)
  | pushUncount (report : PinningReport) (freed : Option PinningReport)
  /-- the new report -/
  | pushStore (report : PinningReport) (freed : Option PinningReport)
  | pushMoveHead (freed : Option PinningReport)
  | pushCount (freed : Option PinningReport)
  /-- `drainprof_report_buffer_drain`: how many reports, and the loop over them -/
  | drainMin (maxReports : UInt32)
  | drainLoad (toDrain i : UInt32) (out : List (Option PinningReport))
  | drainClear (toDrain i : UInt32) (out : List (Option PinningReport))
  | drainMoveTail (toDrain i : UInt32) (out : List (Option PinningReport))
  | drainUncount (toDrain : UInt32) (out : List (Option PinningReport))
  /-- `drainprof_diagnostic_summary_compute`: the tracking array, and the loop over the reports -/
  | summaryTracking (env : Env)
  | summaryReport (env : Env) (i : UInt32) (st : SummaryState)

/-- The head of the drain loop. -/
def drainLoop (toDrain i : UInt32) (out : List (Option PinningReport)) : BufferPc :=
  if i < toDrain then .drainLoad toDrain i out else .drainUncount toDrain out

/-- One step of a call that holds the lock. -/
def bufferBody (buf : ReportBuffer) :
    BufferPc → Exec (ReportBuffer × Mutex.Next BufferPc BufferResult)
  | .pushTestFull report =>
    .ok (buf, .more (if buf.count = buf.capacity then .pushFreeOldest report
      else .pushStore report none))
  | .pushFreeOldest report => do
    let oldest ← load buf.reports buf.tail
    .ok (buf, .more (.pushMoveTail report oldest))
  | .pushMoveTail report freed => do
    let tail ← umod (buf.tail + 1) buf.capacity
    .ok ({ buf with tail := tail }, .more (.pushUncount report freed))
  | .pushUncount report freed =>
    .ok ({ buf with count := buf.count - 1 }, .more (.pushStore report freed))
  | .pushStore report freed => do
    let reports ← store buf.reports buf.head (some report)
    .ok ({ buf with reports := reports }, .more (.pushMoveHead freed))
  | .pushMoveHead freed => do
    let head ← umod (buf.head + 1) buf.capacity
    .ok ({ buf with head := head }, .more (.pushCount freed))
  | .pushCount freed => .ok ({ buf with count := buf.count + 1 }, .done (.freed freed))
  | .drainMin maxReports =>
    let toDrain := if buf.count < maxReports then buf.count else maxReports
    .ok (buf, .more (drainLoop toDrain 0 []))
  | .drainLoad toDrain i out => do
    let report ← load buf.reports buf.tail
    .ok (buf, .more (.drainClear toDrain i (out ++ [report])))
  | .drainClear toDrain i out => do
    let reports ← store buf.reports buf.tail none
    .ok ({ buf with reports := reports }, .more (.drainMoveTail toDrain i out))
  | .drainMoveTail toDrain i out => do
    let tail ← umod (buf.tail + 1) buf.capacity
    .ok ({ buf with tail := tail }, .more (drainLoop toDrain (i + 1) out))
  | .drainUncount toDrain out =>
    .ok ({ buf with count := buf.count - toDrain }, .done (.drained toDrain out))
  | .summaryTracking env =>
    if !env.succeeds .trackingCalloc then .ok (buf, .done (.summary none))
    else .ok (buf, .more (.summaryReport env 0 .initial))
  | .summaryReport env i st =>
    if i < buf.count then do
      let idx ← umod (buf.tail + i) buf.capacity
      let report ← load buf.reports idx
      match ← summaryAddReport env report st with
      -- an allocation of the summary's own failed
      | none => .ok (buf, .done (.summary none))
      | some st => .ok (buf, .more (.summaryReport env (i + 1) st))
    else
      .ok (buf, .done (.summary (some {
        sites := st.sites.take st.siteCount.toNat
        siteCount := st.siteCount
        totalPinningAllocs := st.totalPinningAllocs
        reportsAnalyzed := st.reportsAnalyzed })))

/-- The calls on a report buffer, each in its critical section. -/
def bufferSection : Mutex.Section ReportBuffer BufferPc BufferCall BufferResult Fault where
  skip
    | .push _ => none
    | .drain maxReports => if maxReports = 0 then some (.drained 0 []) else none
    | .summarize env => if !env.succeeds .summaryCalloc then some (.summary none) else none
  enter
    | .push report => .pushTestFull report
    | .drain maxReports => .drainMin maxReports
    | .summarize env => .summaryTracking env
  body := bufferBody

end Drainprof
