import Drainprof.Profiler
import Drainprof.Library.Interleaving

/-!
# The counters, one atomic operation at a time

The model of what the public calls of `drainprof.c` do to the global counters when several threads
make them: every sequentially consistent atomic load, fetch-and-add and compare-and-exchange is a
step of its own.  The storage operation of a call touches no counter, whether it comes before the
counter updates (in an open or a close) or after them (in the allocation calls), so a call is given
with what its storage operation returns.

The sequential model has the updates of a whole call as one function (`Counters.opened`,
`Counters.closed`, `snapshot`).
-/

namespace Drainprof

open Interleaving

/-- A call, with what its storage operation returns; a close that found its granule has found it
drainable or pinned. -/
inductive CounterCall where
  | granuleOpen (result : Int)
  | granuleClose (drainable : Option Bool)
  | allocRegister (result : Int)
  | allocDeregister (result : Int)
  | snapshot (now : Timespec)
  deriving DecidableEq, Repr

/-- What a call returns: an `int` and the lines it logs, or the snapshot it fills. -/
inductive CounterRet where
  | int (r : Int) (log : List Event)
  | snapshot (out : Snapshot)
  deriving DecidableEq, Repr

/-- The next atomic operation of a call, with the local variables that are live. -/
inductive CounterPc where
  /-- `atomic_fetch_add(&open_granules, 1) + 1` -/
  | openAdd
  /-- `atomic_load(&peak_open_granules)` -/
  | openLoadPeak (open_ : UInt64)
  /-- the head of the retry loop, and its `atomic_compare_exchange_weak` -/
  | openExchange (open_ peak : UInt64)
  /-- `atomic_fetch_sub(&open_granules, 1)` -/
  | closeSub (drainable : Bool)
  /-- `atomic_fetch_add(&total_closes, 1)` -/
  | closeAddTotal (drainable : Bool)
  /-- `atomic_fetch_add` on `drainable_closes` or `pinned_closes` -/
  | closeAddClass (drainable : Bool)
  /-- the three loads of the periodic log line -/
  | closeLogTotal (drainable : Bool)
  | closeLogDrainable (drainable : Bool) (total : UInt64)
  | closeLogPinned (drainable : Bool) (total drainableCount : UInt64)
  /-- `atomic_fetch_add(&total_allocs, 1)` -/
  | allocAdd (result : Int)
  /-- `atomic_fetch_add(&total_deallocs, 1)` -/
  | deallocAdd (result : Int)
  /-- the loads of `drainprof_snapshot`, in order -/
  | snapshotTotal (out : Snapshot)
  | snapshotDrainable (out : Snapshot)
  | snapshotPinned (out : Snapshot)
  | snapshotOpen (out : Snapshot)
  | snapshotPeak (out : Snapshot)
  | snapshotAllocs (out : Snapshot)
  | snapshotDeallocs (out : Snapshot)
  | returned (call : CounterCall) (ret : CounterRet)
  deriving DecidableEq, Repr

/-- A snapshot structure before any counter is loaded. -/
def Snapshot.blank (now : Timespec) : Snapshot :=
  ⟨now, 0, 0, 0, 0, 0, 0, 0, 0⟩

/-- What a call on the counters begins with: nothing, when its storage operation failed. -/
def CounterCall.start : CounterCall → CounterPc
  | .granuleOpen result =>
    if result ≠ 0 then .returned (.granuleOpen result) (.int result []) else .openAdd
  | .granuleClose none => .returned (.granuleClose none) (.int (-1) [])
  | .granuleClose (some drainable) => .closeSub drainable
  | .allocRegister result => .allocAdd result
  | .allocDeregister result => .deallocAdd result
  | .snapshot now => .snapshotTotal (.blank now)

/-- The end of a close. -/
def closeReturn (drainable : Bool) (log : List Event) : CounterPc :=
  .returned (.granuleClose (some drainable)) (.int (if drainable then 1 else 0) log)

/-- One atomic operation of a call on the counters; `spurious` makes a weak compare-and-exchange
fail. -/
def counterStep (logInterval : UInt64) (spurious : Bool) (c : Counters) :
    CounterPc → Option (Counters × CounterPc)
  | .openAdd =>
    some ({ c with openGranules := c.openGranules + 1 }, .openLoadPeak (c.openGranules + 1))
  | .openLoadPeak open_ => some (c, .openExchange open_ c.peakOpenGranules)
  | .openExchange open_ peak =>
    if open_ > peak then
      -- the loop runs as long as the mark is below the value of this open
      if c.peakOpenGranules = peak ∧ spurious = false then
        some ({ c with peakOpenGranules := open_ }, .returned (.granuleOpen 0) (.int 0 []))
      -- the failed exchange has loaded the current mark
      else some (c, .openExchange open_ c.peakOpenGranules)
    else some (c, .returned (.granuleOpen 0) (.int 0 []))
  | .closeSub drainable =>
    some ({ c with openGranules := c.openGranules - 1 }, .closeAddTotal drainable)
  | .closeAddTotal drainable =>
    some ({ c with totalCloses := c.totalCloses + 1 }, .closeAddClass drainable)
  | .closeAddClass drainable =>
    some (if drainable then { c with drainableCloses := c.drainableCloses + 1 }
      else { c with pinnedCloses := c.pinnedCloses + 1 },
      if logInterval > 0 then .closeLogTotal drainable else closeReturn drainable [])
  | .closeLogTotal drainable =>
    some (c, if c.totalCloses % logInterval = 0 then .closeLogDrainable drainable c.totalCloses
      else closeReturn drainable [])
  | .closeLogDrainable drainable total =>
    some (c, .closeLogPinned drainable total c.drainableCloses)
  | .closeLogPinned drainable total drainableCount =>
    some (c, closeReturn drainable [.logDsr drainableCount c.pinnedCloses total])
  | .allocAdd result =>
    some ({ c with totalAllocs := c.totalAllocs + 1 },
      .returned (.allocRegister result) (.int result []))
  | .deallocAdd result =>
    some ({ c with totalDeallocs := c.totalDeallocs + 1 },
      .returned (.allocDeregister result) (.int result []))
  | .snapshotTotal out => some (c, .snapshotDrainable { out with totalCloses := c.totalCloses })
  | .snapshotDrainable out =>
    some (c, .snapshotPinned { out with drainableCloses := c.drainableCloses })
  | .snapshotPinned out => some (c, .snapshotOpen { out with pinnedCloses := c.pinnedCloses })
  | .snapshotOpen out => some (c, .snapshotPeak { out with openGranules := c.openGranules })
  | .snapshotPeak out =>
    some (c, .snapshotAllocs { out with peakOpenGranules := c.peakOpenGranules })
  | .snapshotAllocs out => some (c, .snapshotDeallocs { out with totalAllocs := c.totalAllocs })
  | .snapshotDeallocs out =>
    some (c, .returned (.snapshot out.timestamp) (.snapshot { out with
      totalDeallocs := c.totalDeallocs
      dsr := dsrOf out.drainableCloses out.totalCloses }))
  | .returned _ _ => none

/-- The public calls on the counters, for the `log_interval` of the configuration. -/
def counterProgram (logInterval : UInt64) : Program Counters CounterPc CounterCall Bool where
  start := CounterCall.start
  step := counterStep logInterval

/-- The counters of a new profiler, before any call. -/
def counterPool : Pool Counters CounterPc :=
  ⟨.zero, []⟩

end Drainprof
