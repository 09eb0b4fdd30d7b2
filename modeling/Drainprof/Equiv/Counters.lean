import Drainprof.Profiler
import Drainprof.Library.Run

/-!
# Counters follow from results

In both modes a public call updates the global counters as a function of the call and of what it
returns, `Counters.after`, and never touches the configuration.  What is known about the results of
a run is thus known about its counters.  The numbers of a sweep are counts over the live counts it
reads (`sweepLoop_eq`).
-/

namespace Drainprof

open Transition

/-- The counters after a call that returned `r`. -/
def Counters.after (c : Counters) : Call → Result → Counters
  | .granuleOpen _, r => if r = .int 0 then c.opened else c
  | .granuleClose _, r =>
    if r = .int 1 then c.closed true else if r = .int 0 then c.closed false else c
  | .allocRegister _ _ _, _ => { c with totalAllocs := c.totalAllocs + 1 }
  | .allocRegisterLocated _ _ _ _ _, _ => { c with totalAllocs := c.totalAllocs + 1 }
  | .allocDeregister _ _, _ => { c with totalDeallocs := c.totalDeallocs + 1 }
  | .reset, _ => .zero
  | .snapshot, _ => c
  | .sweep, _ => c
  | .drainReports _, _ => c
  | .diagnosticSummaryCompute, _ => c

/-! ### The calls by name -/

section Calls

variable {env : Env} {prof prof' : Profiler} {g : GranuleId} {a : AllocId} {size : UInt64} {r : Int}

theorem call_granuleOpen (h : granuleOpen env prof g = .ok (r, prof')) :
    prof.call (env, .granuleOpen g) = .ok (⟨.int r, []⟩, prof') := by
  rw [Profiler.call, h, ok_bind]

theorem call_granuleClose {events : List Event}
    (h : granuleClose env prof g = .ok (r, prof', events)) :
    prof.call (env, .granuleClose g) = .ok (⟨.int r, events⟩, prof') := by
  rw [Profiler.call, h, ok_bind]

theorem call_allocRegister (h : allocRegisterLocated env prof g a size 0 0 = .ok (r, prof')) :
    prof.call (env, .allocRegister g a size) = .ok (⟨.int r, []⟩, prof') := by
  rw [Profiler.call, allocRegister, h, ok_bind]

theorem call_allocRegisterLocated {file : FilePtr} {line : UInt32}
    (h : allocRegisterLocated env prof g a size file line = .ok (r, prof')) :
    prof.call (env, .allocRegisterLocated g a size file line) = .ok (⟨.int r, []⟩, prof') := by
  rw [Profiler.call, h, ok_bind]

theorem call_allocDeregister (h : allocDeregister env prof g a = .ok (r, prof')) :
    prof.call (env, .allocDeregister g a) = .ok (⟨.int r, []⟩, prof') := by
  rw [Profiler.call, h, ok_bind]

end Calls

/-- A public call that returns, by what the function behind it has returned. -/
inductive Profiler.Returns (env : Env) (prof : Profiler) : Call → Outcome → Profiler → Prop
  | granuleOpen {g r prof'} (h : granuleOpen env prof g = .ok (r, prof')) :
      Returns env prof (.granuleOpen g) ⟨.int r, []⟩ prof'
  | granuleClose {g r prof' events} (h : granuleClose env prof g = .ok (r, prof', events)) :
      Returns env prof (.granuleClose g) ⟨.int r, events⟩ prof'
  | allocRegister {g a size r prof'}
      (h : allocRegisterLocated env prof g a size 0 0 = .ok (r, prof')) :
      Returns env prof (.allocRegister g a size) ⟨.int r, []⟩ prof'
  | allocRegisterLocated {g a size file line r prof'}
      (h : allocRegisterLocated env prof g a size file line = .ok (r, prof')) :
      Returns env prof (.allocRegisterLocated g a size file line) ⟨.int r, []⟩ prof'
  | allocDeregister {g a r prof'} (h : allocDeregister env prof g a = .ok (r, prof')) :
      Returns env prof (.allocDeregister g a) ⟨.int r, []⟩ prof'
  | snapshot : Returns env prof .snapshot ⟨.snapshot (Drainprof.snapshot env prof), []⟩ prof
  | sweep : Returns env prof .sweep ⟨.snapshot (Drainprof.sweep env prof), []⟩ prof
  | reset : Returns env prof .reset ⟨.void, []⟩ (Drainprof.reset prof)
  | drainReports {k count reports prof'}
      (h : drainReports prof k = .ok ((count, reports), prof')) :
      Returns env prof (.drainReports k) ⟨.reports count reports, []⟩ prof'
  | diagnosticSummaryCompute {s} (h : diagnosticSummaryCompute env prof = .ok s) :
      Returns env prof .diagnosticSummaryCompute ⟨.summary s, []⟩ prof

/-- The inversion of `Profiler.call`, from which the case analyses of the calls start. -/
theorem returns_of_call {env : Env} {prof prof' : Profiler} {c : Call} {o : Outcome}
    (h : prof.call (env, c) = .ok (o, prof')) : prof.Returns env c o prof' := by
  cases c with
  | granuleOpen g =>
    obtain ⟨⟨r, p⟩, hopen, heq⟩ := bind_eq_ok.mp h
    cases heq
    exact .granuleOpen hopen
  | granuleClose g =>
    obtain ⟨⟨r, p, events⟩, hclose, heq⟩ := bind_eq_ok.mp h
    cases heq
    exact .granuleClose hclose
  | allocRegister g a size =>
    obtain ⟨⟨r, p⟩, hreg, heq⟩ := bind_eq_ok.mp h
    cases heq
    exact .allocRegister hreg
  | allocRegisterLocated g a size file line =>
    obtain ⟨⟨r, p⟩, hreg, heq⟩ := bind_eq_ok.mp h
    cases heq
    exact .allocRegisterLocated hreg
  | allocDeregister g a =>
    obtain ⟨⟨r, p⟩, hdereg, heq⟩ := bind_eq_ok.mp h
    cases heq
    exact .allocDeregister hdereg
  | snapshot =>
    cases h
    exact .snapshot
  | sweep =>
    cases h
    exact .sweep
  | reset =>
    cases h
    exact .reset
  | drainReports k =>
    obtain ⟨⟨⟨count, reports⟩, p⟩, hdrain, heq⟩ := bind_eq_ok.mp h
    cases heq
    exact .drainReports hdrain
  | diagnosticSummaryCompute =>
    obtain ⟨s, hs, heq⟩ := bind_eq_ok.mp h
    cases heq
    exact .diagnosticSummaryCompute hs

/-! ### What a call leaves alone -/

theorem deliverReport_frame {prof prof' : Profiler} {report : PinningReport} {events : List Event}
    (h : deliverReport prof report = .ok (prof', events)) :
    prof'.config = prof.config ∧ prof'.counters = prof.counters ∧
      prof'.storage = prof.storage := by
  unfold deliverReport at h
  split at h
  · cases h
    exact ⟨rfl, rfl, rfl⟩
  · split at h
    · obtain ⟨⟨freed, buf⟩, -, h⟩ := bind_eq_ok.mp h
      cases h
      exact ⟨rfl, rfl, rfl⟩
    · cases h
      exact ⟨rfl, rfl, rfl⟩

theorem reportPinned_frame {env : Env} {prof prof' : Profiler} {id : GranuleId}
    {diag : GranuleDiag} {events : List Event}
    (h : reportPinned env prof id diag = .ok (prof', events)) :
    prof'.config = prof.config ∧ prof'.counters = prof.counters ∧
      prof'.storage = prof.storage := by
  unfold reportPinned at h
  obtain ⟨report, -, h⟩ := bind_eq_ok.mp h
  cases report with
  | none => cases h; exact ⟨rfl, rfl, rfl⟩
  | some report =>
    obtain ⟨⟨p, events₁⟩, hdeliver, h⟩ := bind_eq_ok.mp h
    cases h
    exact deliverReport_frame hdeliver

/-! ### One call -/

theorem granuleOpen_counters {env : Env} {prof prof' : Profiler} {id : GranuleId} {r : Int}
    (h : granuleOpen env prof id = .ok (r, prof')) :
    prof'.config = prof.config ∧
      prof'.counters = if r = 0 then prof.counters.opened else prof.counters := by
  unfold granuleOpen at h
  obtain ⟨⟨result, storage⟩, -, h⟩ := bind_eq_ok.mp h
  dsimp only at h
  split_ifs at h with hr
  · cases h
    exact ⟨rfl, (if_neg hr).symm⟩
  · cases h
    exact ⟨rfl, rfl⟩

/-- A diagnostic close that returns: the granule is not open, or its slot is freed, its report is
made if it has live allocations, and its record is destroyed. -/
theorem granuleClose_diag_returns {env : Env} {prof prof' : Profiler} {arr : SlotArrayDiag}
    {id : GranuleId} {r : Int} {events : List Event} (hs : prof.storage = .slotArrayDiag arr)
    (h : granuleClose env prof id = .ok (r, prof', events)) :
    ∃ i, diagSlotIndex arr.capacity id = .ok i ∧
      (((arr.slot i).find id = none ∧ r = -1 ∧ prof' = prof ∧ events = []) ∨
        ∃ d, (arr.slot i).find id = some d ∧ granuleDiagDestroy d = .ok () ∧
          ((d.liveCount = 0 ∧ r = 1 ∧ (prof', events) = finishClose { prof with
              storage := .slotArrayDiag (arr.setSlot i ⟨false, none⟩) } true) ∨
            ∃ p reported, d.liveCount ≠ 0 ∧ reportPinned env { prof with
                storage := .slotArrayDiag (arr.setSlot i ⟨false, none⟩) } id d = .ok (p, reported) ∧
              r = 0 ∧ prof' = (finishClose p false).1 ∧
              events = reported ++ (finishClose p false).2)) := by
  unfold granuleClose at h
  rw [hs] at h
  obtain ⟨closed, hclosed, h⟩ := bind_eq_ok.mp h
  obtain ⟨i, hi, hclosed⟩ := bind_eq_ok.mp hclosed
  cases hclosed
  refine ⟨i, hi, ?_⟩
  cases hfind : (arr.slot i).find id with
  | none =>
    rw [hfind] at h
    cases h
    exact Or.inl ⟨rfl, rfl, rfl, rfl⟩
  | some d =>
    rw [hfind] at h
    obtain ⟨⟨p, reported⟩, hreport, h⟩ := bind_eq_ok.mp h
    obtain ⟨_, hdestroy, h⟩ := bind_eq_ok.mp h
    refine Or.inr ⟨d, rfl, hdestroy, ?_⟩
    by_cases hzero : d.liveCount = 0
    · rw [if_pos hzero] at hreport
      cases hreport
      simp only [hzero, decide_true, if_true, List.nil_append] at h
      cases h
      exact Or.inl ⟨hzero, rfl, rfl⟩
    · rw [if_neg hzero] at hreport
      simp only [hzero, decide_false, if_false] at h
      cases h
      exact Or.inr ⟨p, reported, hzero, hreport, rfl, rfl, rfl⟩

theorem granuleClose_counters {env : Env} {prof prof' : Profiler} {id : GranuleId} {r : Int}
    {events : List Event} (h : granuleClose env prof id = .ok (r, prof', events)) :
    prof'.config = prof.config ∧
      ((r = 1 ∧ prof'.counters = prof.counters.closed true) ∨
        (r = 0 ∧ prof'.counters = prof.counters.closed false) ∨
        (r = -1 ∧ prof'.counters = prof.counters)) := by
  cases hs : prof.storage with
  | slotArray arr =>
    simp only [granuleClose, hs] at h
    split_ifs at h with hmax hzero
    · cases h
      exact ⟨rfl, Or.inr (Or.inr ⟨rfl, rfl⟩)⟩
    · cases h
      refine ⟨rfl, Or.inl ⟨rfl, ?_⟩⟩
      simp only [finishClose, hzero, decide_true]
    · cases h
      refine ⟨rfl, Or.inr (Or.inl ⟨rfl, ?_⟩)⟩
      simp only [finishClose, hzero, decide_false]
  | slotArrayDiag arr =>
    rcases granuleClose_diag_returns hs h with
      ⟨i, -, ⟨-, rfl, rfl, -⟩ | ⟨d, -, -, ⟨-, rfl, hfinish⟩ | ⟨p, reported, -, hreport, rfl, rfl, -⟩⟩⟩
    · exact ⟨rfl, Or.inr (Or.inr ⟨rfl, rfl⟩)⟩
    · cases hfinish
      exact ⟨rfl, Or.inl ⟨rfl, rfl⟩⟩
    · obtain ⟨hconfig, hcounters, -⟩ := reportPinned_frame hreport
      refine ⟨hconfig, Or.inr (Or.inl ⟨rfl, ?_⟩)⟩
      show p.counters.closed false = _
      rw [hcounters]

theorem allocRegisterLocated_counters {env : Env} {prof prof' : Profiler} {g : GranuleId}
    {a : AllocId} {size : UInt64} {file : FilePtr} {line : UInt32} {r : Int}
    (h : allocRegisterLocated env prof g a size file line = .ok (r, prof')) :
    prof'.config = prof.config ∧
      prof'.counters = { prof.counters with totalAllocs := prof.counters.totalAllocs + 1 } := by
  unfold allocRegisterLocated at h
  obtain ⟨⟨result, storage⟩, -, h⟩ := bind_eq_ok.mp h
  cases h
  exact ⟨rfl, rfl⟩

theorem allocDeregister_counters {env : Env} {prof prof' : Profiler} {g : GranuleId}
    {a : AllocId} {r : Int} (h : allocDeregister env prof g a = .ok (r, prof')) :
    prof'.config = prof.config ∧
      prof'.counters
        = { prof.counters with totalDeallocs := prof.counters.totalDeallocs + 1 } := by
  unfold allocDeregister at h
  obtain ⟨⟨result, storage⟩, -, h⟩ := bind_eq_ok.mp h
  cases h
  exact ⟨rfl, rfl⟩

theorem reset_counters (prof : Profiler) :
    (reset prof).config = prof.config ∧ (reset prof).counters = .zero := by
  unfold reset
  split <;> exact ⟨rfl, rfl⟩

theorem drainReports_counters {prof prof' : Profiler} {maxReports : UInt32}
    {out : UInt32 × List (Option PinningReport)}
    (h : drainReports prof maxReports = .ok (out, prof')) :
    prof'.config = prof.config ∧ prof'.counters = prof.counters ∧
      prof'.storage = prof.storage := by
  unfold drainReports at h
  split at h
  · obtain ⟨⟨out, buf⟩, -, h⟩ := bind_eq_ok.mp h
    cases h
    exact ⟨rfl, rfl, rfl⟩
  · cases h
    exact ⟨rfl, rfl, rfl⟩

/-- The counters after a call are a function of the counters before and of its result. -/
theorem call_counters {prof prof' : Profiler} {env : Env} {c : Call} {o : Outcome}
    (h : prof.call (env, c) = .ok (o, prof')) :
    prof'.config = prof.config ∧ prof'.counters = prof.counters.after c o.result := by
  cases returns_of_call h with
  | granuleOpen hcall =>
    obtain ⟨hconfig, hcounters⟩ := granuleOpen_counters hcall
    exact ⟨hconfig, by simp only [hcounters, Counters.after, Result.int.injEq]⟩
  | granuleClose hcall =>
    obtain ⟨hconfig, hcounters⟩ := granuleClose_counters hcall
    refine ⟨hconfig, ?_⟩
    rcases hcounters with ⟨rfl, hc⟩ | ⟨rfl, hc⟩ | ⟨rfl, hc⟩ <;> rw [hc] <;> rfl
  | allocRegister hcall => exact allocRegisterLocated_counters hcall
  | allocRegisterLocated hcall => exact allocRegisterLocated_counters hcall
  | allocDeregister hcall => exact allocDeregister_counters hcall
  | snapshot => exact ⟨rfl, rfl⟩
  | sweep => exact ⟨rfl, rfl⟩
  | reset => exact reset_counters prof
  | drainReports hcall =>
    obtain ⟨hconfig, hcounters, -⟩ := drainReports_counters hcall
    exact ⟨hconfig, hcounters⟩
  | diagnosticSummaryCompute => exact ⟨rfl, rfl⟩

/-- The configuration is that of the creation. -/
theorem run_config {calls : List (Env × Call)} {prof prof' : Profiler} {os : List Outcome}
    (hrun : run Profiler.call prof calls = .ok (os, prof')) : prof'.config = prof.config :=
  @run_invariant _ _ _ _ Profiler.call (fun p => p.config = prof.config) (fun _ => True)
    (fun hp _ h => (call_counters h).1.trans hp) _ _ _ _ rfl (fun _ _ => trivial) hrun

/-! ### The report buffer -/

section ReportBuffer

variable {env : Env} {prof prof' : Profiler} {g : GranuleId} {a : AllocId} {r : Int}

theorem granuleOpen_reportBuffer
    (h : granuleOpen env prof g = .ok (r, prof')) : prof'.reportBuffer = prof.reportBuffer := by
  obtain ⟨⟨result, storage⟩, -, h⟩ := bind_eq_ok.mp h
  dsimp only at h
  split_ifs at h <;> cases h <;> rfl

theorem allocRegisterLocated_reportBuffer {size : UInt64} {file : FilePtr} {line : UInt32}
    (h : allocRegisterLocated env prof g a size file line = .ok (r, prof')) :
    prof'.reportBuffer = prof.reportBuffer := by
  obtain ⟨⟨result, storage⟩, -, h⟩ := bind_eq_ok.mp h
  cases h
  rfl

theorem allocDeregister_reportBuffer
    (h : allocDeregister env prof g a = .ok (r, prof')) :
    prof'.reportBuffer = prof.reportBuffer := by
  obtain ⟨⟨result, storage⟩, -, h⟩ := bind_eq_ok.mp h
  cases h
  rfl

end ReportBuffer

/-! ### The sweep loop -/

/-- The sweep counts the granules without live allocations, and the others. -/
theorem sweepLoop_eq (counts : List UInt32) :
    sweepLoop counts
      = (UInt64.ofNat (counts.countP (· = 0)), UInt64.ofNat (counts.countP (· ≠ 0))) := by
  have hloop : ∀ (counts : List UInt32) (drainable pinned : UInt64),
      counts.foldl (fun acc liveCount =>
          if liveCount = 0 then (acc.1 + 1, acc.2) else (acc.1, acc.2 + 1)) (drainable, pinned)
        = (drainable + UInt64.ofNat (counts.countP (· = 0)),
            pinned + UInt64.ofNat (counts.countP (· ≠ 0))) := by
    intro counts
    induction counts with
    | nil => intro drainable pinned; simp
    | cons c counts ih =>
      intro drainable pinned
      rw [List.foldl_cons]
      by_cases hc : c = 0
      · rw [if_pos hc, ih, List.countP_cons_of_pos (by simp [hc]),
          List.countP_cons_of_neg (by simp [hc]), UInt64.ofNat_add, UInt64.add_assoc]
        congr 2
        exact UInt64.add_comm ..
      · rw [if_neg hc, ih, List.countP_cons_of_neg (by simp [hc]),
          List.countP_cons_of_pos (by simp [hc]), UInt64.ofNat_add, UInt64.add_assoc]
        congr 2
        exact UInt64.add_comm ..
  rw [sweepLoop, hloop, UInt64.zero_add, UInt64.zero_add]

end Drainprof
