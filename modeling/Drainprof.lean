import Drainprof.Basic
import Drainprof.Library.Run
import Drainprof.Library.Ensures
import Drainprof.Library.Interleaving
import Drainprof.Library.Probing
import Drainprof.Library.Table
import Drainprof.Library.Rotation
import Drainprof.Library.Ring
import Drainprof.Library.Grouping
import Drainprof.SlotArray
import Drainprof.SlotArrayDiag
import Drainprof.ReportBuffer
import Drainprof.Summary
import Drainprof.Profiler
import Drainprof.AtomicCounters
import Drainprof.AtomicSlots
import Drainprof.Equiv.LiveMap
import Drainprof.Equiv.GranuleDiag
import Drainprof.Equiv.SlotArrayDiag
import Drainprof.Equiv.ReportBuffer
import Drainprof.Equiv.Summary
import Drainprof.Equiv.Counters
import Drainprof.Equiv.Production
import Drainprof.Equiv.Transitions
import Drainprof.Equiv.Diagnostic
import Drainprof.Equiv.GranuleTable
import Drainprof.Equiv.Capacity
import Drainprof.Equiv.Accounting
import Drainprof.Equiv.FailedCalls
import Drainprof.Equiv.NestedArenas
import Drainprof.Equiv.Liveness
import Drainprof.Equiv.PinningReports
import Drainprof.Equiv.ReportLedger
import Drainprof.Equiv.ModeAgreement
import Drainprof.Equiv.Clock
import Drainprof.Equiv.Alike
import Drainprof.Equiv.Reset
import Drainprof.Equiv.FreeScan
import Drainprof.Equiv.RingProbe
import Drainprof.Equiv.SummaryTable
import Drainprof.Equiv.SummaryGroups
import Drainprof.Equiv.PinningCounts
import Drainprof.Equiv.Safety
import Drainprof.Equiv.AtomicCounters
import Drainprof.Equiv.PeakMark
import Drainprof.Equiv.TornSnapshot
import Drainprof.Equiv.AtomicSlots
import Drainprof.Equiv.SpuriousFull
import Drainprof.Equiv.ConcurrentOpens
import Drainprof.Equiv.Attribution
import Drainprof.Equiv.ProbeCover
import Drainprof.Equiv.RingOrder
import Drainprof.Equiv.RecordGrowth
import Drainprof.Library.Mutex
import Drainprof.AtomicReportBuffer
import Drainprof.Equiv.AtomicReportBuffer
import Drainprof.AtomicGranuleDiag
import Drainprof.Equiv.AtomicGranuleDiag
import Drainprof.Equiv.ConcurrentPins
import Drainprof.AtomicDiagSlots
import Drainprof.Equiv.AtomicDiagSlots
import Drainprof.Equiv.DiagSlotSteps
import Drainprof.Equiv.ConcurrentDiagSlots
import Drainprof.Equiv.CounterTallies
import Drainprof.Equiv.ResidueClasses
import Drainprof.Equiv.ReportLives
import Drainprof.Equiv.ReportTimes
import Drainprof.Library.Ownership
import Drainprof.Heap
import Drainprof.Equiv.HeapReports
import Drainprof.Equiv.HeapSummary
import Drainprof.Equiv.HeapGranules
import Drainprof.Equiv.HeapCalls
import Drainprof.Equiv.HeapLife
