import Drainprof.AtomicCounters

/-!
# Calls on the counters that run alone

Without interference the atomic steps of a call add up to what the sequential model does in one
function: `Counters.opened`, `Counters.closed` with the log line of `finishClose`, and `snapshot`.
-/

namespace Drainprof

open Interleaving

variable {logInterval : UInt64}

/-- The steps of a successful open, none of whose exchanges fails. -/
theorem open_alone (c : Counters) :
    (counterProgram logInterval).Steps (c, CounterCall.start (.granuleOpen 0))
      (c.opened, .returned (.granuleOpen 0) (.int 0 [])) := by
  refine .head (c := false) rfl (.head (c := false) rfl ?_)
  by_cases hloop : c.openGranules + 1 > c.peakOpenGranules
  · have hexchange : counterStep logInterval false { c with openGranules := c.openGranules + 1 }
        (.openExchange (c.openGranules + 1) c.peakOpenGranules)
        = some (c.opened, .returned (.granuleOpen 0) (.int 0 [])) := by
      unfold counterStep Counters.opened
      simp [hloop]
    exact .head (c := false) hexchange .refl
  · have hexit : counterStep logInterval false { c with openGranules := c.openGranules + 1 }
        (.openExchange (c.openGranules + 1) c.peakOpenGranules)
        = some (c.opened, .returned (.granuleOpen 0) (.int 0 [])) := by
      unfold counterStep Counters.opened
      simp [hloop]
    exact .head (c := false) hexit .refl

/-- The log line of a close that leaves the counters `c`. -/
def closeLog (logInterval : UInt64) (c : Counters) : List Event :=
  if logInterval > 0 ∧ c.totalCloses % logInterval = 0 then
    [.logDsr c.drainableCloses c.pinnedCloses c.totalCloses]
  else []

theorem finishClose_eq (prof : Profiler) (drainable : Bool) :
    finishClose prof drainable = ({ prof with counters := prof.counters.closed drainable },
      closeLog prof.config.logInterval (prof.counters.closed drainable)) := rfl

/-- The steps of a close that found its granule add up to the increments and the log line. -/
theorem close_steps (c : Counters) (drainable : Bool) :
    (counterProgram logInterval).Steps (c, CounterCall.start (.granuleClose (some drainable)))
      (c.closed drainable,
        closeReturn drainable (closeLog logInterval (c.closed drainable))) := by
  have hclass : counterStep logInterval false
      { c with openGranules := c.openGranules - 1, totalCloses := c.totalCloses + 1 }
      (.closeAddClass drainable) = some (c.closed drainable,
        if logInterval > 0 then .closeLogTotal drainable else closeReturn drainable []) := by
    cases drainable <;> rfl
  refine .head (c := false) rfl (.head (c := false) rfl (.head (c := false) hclass ?_))
  unfold closeLog
  by_cases hinterval : logInterval > 0
  · by_cases hdue : (c.closed drainable).totalCloses % logInterval = 0
    · rw [if_pos hinterval, if_pos ⟨hinterval, hdue⟩]
      have hlog : counterStep logInterval false (c.closed drainable) (.closeLogTotal drainable)
          = some (c.closed drainable,
            .closeLogDrainable drainable (c.closed drainable).totalCloses) := by
        rw [counterStep, if_pos hdue]
      exact .head (c := false) hlog (.head (c := false) rfl (.head (c := false) rfl .refl))
    · rw [if_pos hinterval, if_neg (fun h => hdue h.2)]
      have hlog : counterStep logInterval false (c.closed drainable) (.closeLogTotal drainable)
          = some (c.closed drainable, closeReturn drainable []) := by
        rw [counterStep, if_neg hdue]
      exact .head (c := false) hlog .refl
  · rw [if_neg hinterval, if_neg (fun h => hinterval h.1)]
    exact .refl

/-- The steps of a close that found its granule. -/
theorem close_alone (prof : Profiler) (drainable : Bool) :
    (counterProgram prof.config.logInterval).Steps
      (prof.counters, CounterCall.start (.granuleClose (some drainable)))
      ((finishClose prof drainable).1.counters,
        closeReturn drainable (finishClose prof drainable).2) := by
  rw [finishClose_eq]
  exact close_steps prof.counters drainable

/-- The steps of a snapshot. -/
theorem snapshot_alone (env : Env) (prof : Profiler) :
    (counterProgram logInterval).Steps (prof.counters, CounterCall.start (.snapshot env.now))
      (prof.counters, .returned (.snapshot env.now) (.snapshot (snapshot env prof))) :=
  .head (c := false) rfl (.head (c := false) rfl (.head (c := false) rfl (.head (c := false) rfl
    (.head (c := false) rfl (.head (c := false) rfl (.head (c := false) rfl .refl))))))

end Drainprof
