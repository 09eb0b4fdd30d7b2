import Mathlib.Data.List.Perm.Subperm
import Drainprof.AtomicReportBuffer
import Drainprof.Equiv.SummaryGroups

/-!
# The report buffer under its lock is a queue

The critical sections of the report buffer compute what the sequential model does
(`bufferSection_implements`), so every interleaving of pushes, drains and summaries does what they do
one after the other.  What the threads see is then a bounded first-in-first-out queue
(`shared_buffer_acts_as_queue`): no report is lost, duplicated or overtaken on its way through it
(`shared_buffer_conserves`), and no thread waits for ever (`shared_buffer_progress`).
-/

namespace Drainprof

open Mutex Mutex.Section Ring Transition

/-! ### The critical sections -/

theorem eval_pushStore (buf : ReportBuffer) (report : PinningReport)
    (freed : Option PinningReport) :
    bufferSection.Eval buf (.pushStore report freed) (do
      let reports ← store buf.reports buf.head (some report)
      let head ← umod (buf.head + 1) buf.capacity
      .ok (.freed freed, { buf with reports := reports, head := head, count := buf.count + 1 })) := by
  refine Eval.bind rfl ?_
  intro reports _
  refine Eval.bind rfl ?_
  intro head _
  exact .done rfl

theorem eval_push (buf : ReportBuffer) (report : PinningReport) :
    bufferSection.Eval buf (.pushTestFull report) (buf.serve (.push report)) := by
  refine .more rfl ?_
  rw [ReportBuffer.serve, reportBufferPush]
  split_ifs with hfull
  · rw [reportBufferDropOldest, bind_assoc, bind_assoc]
    refine Eval.bind rfl ?_
    intro oldest _
    rw [bind_assoc]
    refine Eval.bind rfl ?_
    intro tail _
    refine .more rfl ?_
    have hstore := eval_pushStore { buf with tail := tail, count := buf.count - 1 } report oldest
    simpa only [bind_assoc, ok_bind] using hstore
  · have hstore := eval_pushStore buf report none
    simpa only [bind_assoc, ok_bind] using hstore

theorem eval_drainLoop (fuel : ℕ) :
    ∀ (buf : ReportBuffer) (toDrain i : UInt32) (out : List (Option PinningReport)),
      i.toNat + fuel = toDrain.toNat →
      bufferSection.Eval buf (drainLoop toDrain i out) (do
        let (rest, buf) ← reportBufferDrain.go fuel buf
        .ok (.drained toDrain (out ++ rest), { buf with count := buf.count - toDrain })) := by
  induction fuel with
  | zero =>
    intro buf toDrain i out hi
    rw [drainLoop, if_neg (by rw [UInt32.lt_iff_toNat_lt]; omega), reportBufferDrain.go, ok_bind]
    dsimp only
    rw [List.append_nil]
    exact .done rfl
  | succ fuel ih =>
    intro buf toDrain i out hi
    have hlt : i < toDrain := UInt32.lt_iff_toNat_lt.mpr (by omega)
    have hbound := toDrain.toNat_lt
    rw [drainLoop, if_pos hlt, reportBufferDrain.go, bind_assoc]
    refine Eval.bind rfl ?_
    intro report _
    rw [bind_assoc]
    refine Eval.bind rfl ?_
    intro reports _
    rw [bind_assoc]
    refine Eval.bind rfl ?_
    intro tail _
    have hrest := ih { buf with reports := reports, tail := tail } toDrain (i + 1) (out ++ [report])
      (by rw [toNat_add_one (by omega)]; omega)
    simp only [List.append_assoc, List.singleton_append] at hrest
    rw [bind_assoc]
    exact hrest

theorem eval_drain (buf : ReportBuffer) {maxReports : UInt32} (hmax : maxReports ≠ 0) :
    bufferSection.Eval buf (.drainMin maxReports) (buf.serve (.drain maxReports)) := by
  refine .more rfl ?_
  rw [ReportBuffer.serve, reportBufferDrain, if_neg hmax, bind_assoc]
  exact eval_drainLoop _ buf _ 0 [] (Nat.zero_add _)

/-- What the summary returns when its loop is over. -/
def SummaryState.result (st : SummaryState) : DiagnosticSummary where
  sites := st.sites.take st.siteCount.toNat
  siteCount := st.siteCount
  totalPinningAllocs := st.totalPinningAllocs
  reportsAnalyzed := st.reportsAnalyzed

theorem eval_summaryReport (env : Env) (buf : ReportBuffer) (fuel : ℕ) :
    ∀ (i : UInt32) (st : SummaryState), i.toNat + fuel = buf.count.toNat →
      bufferSection.Eval buf (.summaryReport env i st) (do
        let st ← diagnosticSummaryCompute.go env buf fuel i.toNat st
        .ok (.summary (st.map SummaryState.result), buf)) := by
  induction fuel with
  | zero =>
    intro i st hi
    refine .done ?_
    show bufferBody buf (.summaryReport env i st) = _
    rw [bufferBody, if_neg (by rw [UInt32.lt_iff_toNat_lt]; omega)]
    rfl
  | succ fuel ih =>
    intro i st hi
    have hlt : i < buf.count := UInt32.lt_iff_toNat_lt.mpr (by omega)
    have hbound := buf.count.toNat_lt
    have hbody : bufferSection.body buf (.summaryReport env i st)
      = bufferBody buf (.summaryReport env i st) := rfl
    rw [bufferBody, if_pos hlt] at hbody
    rw [diagnosticSummaryCompute.go, UInt32.ofNat_toNat, bind_assoc]
    cases hidx : umod (buf.tail + i) buf.capacity with
    | error e =>
      rw [hidx] at hbody
      exact .fault hbody
    | ok idx =>
      rw [hidx, ok_bind] at hbody
      rw [ok_bind, bind_assoc]
      cases hreport : load buf.reports idx with
      | error e =>
        rw [hreport] at hbody
        exact .fault hbody
      | ok report =>
        rw [hreport, ok_bind] at hbody
        rw [ok_bind, bind_assoc]
        cases hadd : summaryAddReport env report st with
        | error e =>
          rw [hadd] at hbody
          exact .fault hbody
        | ok next =>
          rw [hadd, ok_bind] at hbody
          rw [ok_bind]
          cases next with
          | none => exact .done hbody
          | some st' =>
            have hrest := ih (i + 1) st' (by rw [toNat_add_one (by omega)]; omega)
            rw [toNat_add_one (by omega)] at hrest
            exact .more hbody hrest

theorem eval_summarize (buf : ReportBuffer) {env : Env}
    (hcalloc : env.succeeds .summaryCalloc = true) :
    bufferSection.Eval buf (.summaryTracking env) (buf.serve (.summarize env)) := by
  have hbody : bufferSection.body buf (.summaryTracking env)
    = bufferBody buf (.summaryTracking env) := rfl
  rw [bufferBody] at hbody
  rw [ReportBuffer.serve, diagnosticSummaryOfBuffer, hcalloc, Bool.not_true, if_neg Bool.false_ne_true]
  split_ifs at hbody ⊢ with htracking
  · exact .done hbody
  · have hrest := eval_summaryReport env buf buf.count.toNat 0 .initial (Nat.zero_add _)
    refine .more hbody ?_
    rw [bind_assoc]
    refine Eq.mp (congrArg _ (bind_congr ?_)) hrest
    intro st
    cases st <;> rfl

/-- The critical sections compute what the sequential model does. -/
theorem bufferSection_implements : bufferSection.Implements ReportBuffer.serve := by
  constructor
  · intro buf a r hskip
    cases a with
    | push report => cases hskip
    | drain maxReports =>
      unfold bufferSection at hskip
      dsimp only at hskip
      split_ifs at hskip with hmax
      cases hskip
      rw [ReportBuffer.serve, reportBufferDrain, if_pos hmax]
      rfl
    | summarize env =>
      unfold bufferSection at hskip
      dsimp only at hskip
      split_ifs at hskip with hcalloc
      cases hskip
      rw [ReportBuffer.serve, diagnosticSummaryOfBuffer, if_pos hcalloc]
      rfl
  · intro buf a hskip
    cases a with
    | push report => exact eval_push buf report
    | drain maxReports =>
      unfold bufferSection at hskip
      dsimp only at hskip
      split_ifs at hskip with hmax
      exact eval_drain buf hmax
    | summarize env =>
      unfold bufferSection at hskip
      dsimp only at hskip
      split_ifs at hskip with hcalloc
      exact eval_summarize buf (by simpa using hcalloc)

/-! ### The queue -/

/-- The calls on a queue of at most `capacity` reports, oldest first. -/
def queueServe (capacity : UInt32) (rs : List PinningReport) :
    BufferCall → Exec (BufferResult × List PinningReport)
  | .push report =>
    .ok (.freed (enqueue capacity.toNat rs report).1, (enqueue capacity.toNat rs report).2)
  | .drain maxReports =>
    .ok (.drained (UInt32.ofNat (min rs.length maxReports.toNat))
      ((rs.take maxReports.toNat).map some), rs.drop maxReports.toNat)
  | .summarize env => do
    let s ← summaryOfReports env rs
    .ok (.summary s, rs)

/-- The buffer of that capacity holds these reports. -/
def ReportBuffer.Queues (capacity : UInt32) (buf : ReportBuffer) (rs : List PinningReport) : Prop :=
  buf.Holds rs ∧ buf.capacity = capacity

variable {capacity : UInt32} {buf : ReportBuffer} {rs : List PinningReport}

theorem serve_push (h : buf.Queues capacity rs) (hpos : 0 < capacity.toNat)
    (report : PinningReport) :
    ∃ buf', buf.serve (.push report) = .ok (.freed (enqueue capacity.toNat rs report).1, buf') ∧
      buf'.Queues capacity (enqueue capacity.toNat rs report).2 := by
  obtain ⟨hholds, rfl⟩ := h
  obtain ⟨buf', hpush, hholds', hcap, -⟩ := reportBufferPush_eq hholds hpos report
  refine ⟨buf', ?_, hholds', hcap⟩
  rw [ReportBuffer.serve, hpush]
  rfl

theorem serve_drain (h : buf.Queues capacity rs) (maxReports : UInt32) :
    ∃ buf', buf.serve (.drain maxReports) = .ok (.drained
        (UInt32.ofNat (min rs.length maxReports.toNat)) ((rs.take maxReports.toNat).map some), buf') ∧
      buf'.Queues capacity (rs.drop maxReports.toNat) := by
  obtain ⟨hholds, rfl⟩ := h
  obtain ⟨count, buf', hdrain, hcount, hholds', hcap, -⟩ := reportBufferDrain_eq hholds maxReports
  refine ⟨buf', ?_, hholds', hcap⟩
  rw [ReportBuffer.serve, hdrain, ← hcount, UInt32.ofNat_toNat]
  rfl

/-- The summary reads the reports in order when no index wraps. -/
theorem diagnosticSummaryOfBuffer_of_small (h : buf.Queues capacity rs)
    (hsmall : capacity.toNat ≤ 2 ^ 31) (env : Env) :
    diagnosticSummaryOfBuffer env buf = summaryOfReports env rs := by
  obtain ⟨hholds, rfl⟩ := h
  have hle := hholds.count_le
  rw [diagnosticSummaryOfBuffer_eq hholds]
  rcases Nat.eq_zero_or_pos buf.capacity.toNat with hzero | hpos
  · rw [List.eq_nil_of_length_eq_zero (show rs.length = 0 by omega)]
    rfl
  · have htail := hholds.tail_lt hpos
    rw [readInPlace_eq_self (show buf.tail.toNat + rs.length ≤ 2 ^ 32 by omega)]

/-- The buffer does what the queue does. -/
theorem serve_matches (hpos : 0 < capacity.toNat) (hsmall : capacity.toNat ≤ 2 ^ 31)
    {c : BufferCall} (h : buf.Queues capacity rs) :
    Matches (ReportBuffer.Queues capacity) (buf.serve c) (queueServe capacity rs c) := by
  cases c with
  | push report =>
    obtain ⟨buf', hpush, hqueues⟩ := serve_push h hpos report
    exact Or.inr ⟨_, buf', _, hpush, rfl, hqueues⟩
  | drain maxReports =>
    obtain ⟨buf', hdrain, hqueues⟩ := serve_drain h maxReports
    exact Or.inr ⟨_, buf', _, hdrain, rfl, hqueues⟩
  | summarize env =>
    rw [ReportBuffer.serve, queueServe, diagnosticSummaryOfBuffer_of_small h hsmall]
    cases summaryOfReports env rs with
    | error e => exact Or.inl ⟨e, rfl, rfl⟩
    | ok s => exact Or.inr ⟨_, buf, rs, rfl, rfl, h⟩

theorem reportBufferCreate_queues {env : Env} (h : reportBufferCreate env capacity = some buf) :
    buf.Queues capacity [] :=
  reportBufferCreate_holds h

/-- What the threads have seen after a run is what the queue does on the calls that returned, one
after the other in the order in which they released the lock: each of these calls is logged once,
with its own result, and before all calls that begin after it has returned. -/
structure ActsAsQueue (capacity : UInt32) (buf : ReportBuffer)
    (es : List (Interleaving.Event BufferCall Unit)) (rs : List PinningReport) : Prop where
  run_eq : run (queueServe capacity) [] ((bufferSection.log buf es).map fun e => e.2.1)
    = .ok ((bufferSection.log buf es).map fun e => e.2.2, rs)
  nodup : ((bufferSection.log buf es).map Prod.fst).Nodup
  returned_iff : ∀ k c r, (bufferSection.program.run (pool buf) es).calls[k]? = some (.returned c r) ↔
    (k, c, r) ∈ bufferSection.log buf es
  ordered : ∀ es', bufferSection.log buf es <+: bufferSection.log buf (es ++ es')
  holds : (bufferSection.program.run (pool buf) es).shared.locked = false →
    (bufferSection.program.run (pool buf) es).shared.data.Holds rs

/-- **The shared report buffer is a bounded queue**: whatever the interleaving of the steps of any
number of pushes, drains and summaries, each call that has returned did what it does on the queue the
calls before it have left. -/
theorem shared_buffer_acts_as_queue {env : Env} {es : List (Interleaving.Event BufferCall Unit)}
    (hcreate : reportBufferCreate env capacity = some buf) (hpos : 0 < capacity.toNat)
    (hsmall : capacity.toNat ≤ 2 ^ 31) : ∃ rs, ActsAsQueue capacity buf es rs := by
  obtain ⟨buf', hserves⟩ := serves_run bufferSection_implements buf es
  have hmatches := @run_matches _ _ _ _ _ ReportBuffer.serve (queueServe capacity)
    (ReportBuffer.Queues capacity) (fun _ => True) (fun h _ => serve_matches hpos hsmall h)
    ((bufferSection.log buf es).map fun e => e.2.1) _ _ (reportBufferCreate_queues hcreate)
    (fun _ _ => trivial)
  rw [hserves.run_eq] at hmatches
  rcases hmatches with ⟨e, herror, -⟩ | ⟨os, buf₁, rs, hok, hrun, hqueues⟩
  · cases herror
  · cases hok
    refine ⟨rs, hrun, hserves.nodup, hserves.returned_iff, log_grows buf es, ?_⟩
    intro hfree
    rw [hserves.free hfree]
    exact hqueues.1

/-- Two pushes and a drain of one report, which all begin before any of them gets the lock and take
their steps in turn. -/
def contendedRun : List (Interleaving.Event BufferCall Unit) :=
  [.start (.push default), .start (.drain 1), .start (.push default)] ++
    (List.replicate 20 [.step 1 (), .step 2 (), .step 0 ()]).flatten

theorem shared_buffer_acts_as_queue_contended :
    ∃ buf, reportBufferCreate (Env.ample default) 1 = some buf ∧
      ∃ rs, ActsAsQueue 1 buf contendedRun rs :=
  ⟨_, rfl, @shared_buffer_acts_as_queue 1 _ (Env.ample default) contendedRun rfl (by decide) (by decide)⟩

/-! ### Nothing is lost -/

/-- The report a call puts in. -/
def BufferCall.pushed : BufferCall → List PinningReport
  | .push report => [report]
  | .drain _ => []
  | .summarize _ => []

/-- The reports a call takes out: the one a push frees, or those a drain hands over. -/
def BufferResult.released : BufferResult → List PinningReport
  | .freed report => report.toList
  | .drained _ reports => reports.filterMap id
  | .summary _ => []

/-- What leaves the buffer, followed by what is left in it, is what was in it, followed by what came
in. -/
theorem serve_conserves (h : buf.Queues capacity rs) (hpos : 0 < capacity.toNat) {c : BufferCall}
    {r : BufferResult} {buf' : ReportBuffer} (hserve : buf.serve c = .ok (r, buf')) :
    ∃ rs', buf'.Queues capacity rs' ∧ r.released ++ rs' = rs ++ c.pushed := by
  cases c with
  | push report =>
    obtain ⟨buf₁, hpush, hqueues⟩ := serve_push h hpos report
    rw [hpush] at hserve
    cases hserve
    exact ⟨_, hqueues, enqueue_append capacity.toNat rs report⟩
  | drain maxReports =>
    obtain ⟨buf₁, hdrain, hqueues⟩ := serve_drain h maxReports
    rw [hdrain] at hserve
    cases hserve
    refine ⟨_, hqueues, ?_⟩
    rw [BufferResult.released, BufferCall.pushed, List.append_nil, List.filterMap_map,
      Function.id_comp, List.filterMap_some, List.take_append_drop]
  | summarize env =>
    obtain ⟨s, -, hserve⟩ := bind_eq_ok.mp hserve
    cases hserve
    exact ⟨rs, h, (List.append_nil rs).symm⟩

theorem run_conserves (hpos : 0 < capacity.toNat) {log : List (ℕ × BufferCall × BufferResult)} :
    ∀ {buf buf' : ReportBuffer} {rs : List PinningReport}, buf.Queues capacity rs →
      run ReportBuffer.serve buf (log.map fun e => e.2.1) = .ok (log.map fun e => e.2.2, buf') →
      ∃ rs', buf'.Queues capacity rs' ∧
        (log.flatMap fun e => e.2.2.released) ++ rs' = rs ++ log.flatMap fun e => e.2.1.pushed := by
  induction log with
  | nil =>
    intro buf buf' rs h hrun
    cases hrun
    exact ⟨rs, h, (List.append_nil rs).symm⟩
  | cons e log ih =>
    intro buf buf' rs h hrun
    obtain ⟨r, buf₁, os, hserve, hrest, hos⟩ := run_cons_eq_ok.mp hrun
    cases hos
    obtain ⟨rs₁, hqueues₁, hone⟩ := serve_conserves h hpos hserve
    obtain ⟨rs', hqueues', hmany⟩ := ih hqueues₁ hrest
    refine ⟨rs', hqueues', ?_⟩
    rw [List.flatMap_cons, List.flatMap_cons, List.append_assoc, hmany, ← List.append_assoc, hone,
      List.append_assoc]

/-- **No report is lost, duplicated or overtaken** in a shared buffer of any size: the reports that
have left it, as the calls took them out, followed by those still in it, are the reports that were
pushed, in the order of the pushes. -/
theorem shared_buffer_conserves {env : Env} (hcreate : reportBufferCreate env capacity = some buf)
    (hpos : 0 < capacity.toNat) (es : List (Interleaving.Event BufferCall Unit)) :
    ∃ rs, ((bufferSection.log buf es).flatMap fun e => e.2.2.released) ++ rs
        = ((bufferSection.log buf es).flatMap fun e => e.2.1.pushed) ∧
      rs.length ≤ capacity.toNat ∧
      ((bufferSection.program.run (pool buf) es).shared.locked = false →
        (bufferSection.program.run (pool buf) es).shared.data.Holds rs) := by
  obtain ⟨buf', hserves⟩ := serves_run bufferSection_implements buf es
  obtain ⟨rs, hqueues, hall⟩ :=
    run_conserves hpos (reportBufferCreate_queues hcreate) hserves.run_eq
  refine ⟨rs, hall, ?_, ?_⟩
  · rw [← hqueues.2]
    exact hqueues.1.count_le
  · intro hfree
    rw [hserves.free hfree]
    exact hqueues.1

theorem shared_buffer_conserves_contended :
    ∃ buf, reportBufferCreate (Env.ample default) 1 = some buf ∧
      ∃ rs, ((bufferSection.log buf contendedRun).flatMap fun e => e.2.2.released) ++ rs
          = ((bufferSection.log buf contendedRun).flatMap fun e => e.2.1.pushed) ∧
        rs.length ≤ (1 : UInt32).toNat ∧
        ((bufferSection.program.run (pool buf) contendedRun).shared.locked = false →
          (bufferSection.program.run (pool buf) contendedRun).shared.data.Holds rs) :=
  ⟨_, rfl, @shared_buffer_conserves 1 _ (Env.ample default) rfl (by decide) contendedRun⟩

/-! ### Every call returns -/

/-- Reports whose array is as long as they say, with sites among the given ones. -/
def BufferCall.On (sites : List SiteKey) : BufferCall → Prop
  | .push report => report.WF ∧ ∀ pa ∈ report.pinningAllocs, pa.allocSite.key ∈ sites
  | .drain _ => True
  | .summarize _ => True

/-- Such reports have no more sites than the given ones. -/
theorem siteNumber_le_of_on {sites : List SiteKey}
    (h : ∀ r ∈ rs, ∀ pa ∈ r.pinningAllocs, pa.allocSite.key ∈ sites) :
    siteNumber rs ≤ sites.length := by
  refine (List.subperm_of_subset (Grouping.nodup_eraseDups _) ?_).length_le
  intro k hk
  obtain ⟨pa, hpa, rfl⟩ := List.mem_map.mp (List.mem_eraseDups.mp hk)
  obtain ⟨r, hr, hpa'⟩ := List.mem_flatMap.mp hpa
  exact h r hr pa hpa'

/-- The buffer holds reports on the given sites. -/
def ReportBuffer.QueuesOn (capacity : UInt32) (sites : List SiteKey) (buf : ReportBuffer) : Prop :=
  ∃ rs, buf.Queues capacity rs ∧ ∀ r ∈ rs, (BufferCall.push r).On sites

/-- A call on few sites is answered. -/
theorem serve_answers (hpos : 0 < capacity.toNat) {sites : List SiteKey}
    (hfew : sites.length ≤ 2 ^ 31) {c : BufferCall} (h : buf.QueuesOn capacity sites)
    (hc : c.On sites) : ∃ r buf', buf.serve c = .ok (r, buf') ∧ buf'.QueuesOn capacity sites := by
  obtain ⟨rs, hqueues, hon⟩ := h
  cases c with
  | push report =>
    obtain ⟨buf', hpush, hqueues'⟩ := serve_push hqueues hpos report
    refine ⟨_, buf', hpush, _, hqueues', ?_⟩
    intro r hr
    have hmem := List.mem_append_right (enqueue capacity.toNat rs report).1.toList hr
    rw [enqueue_append, List.mem_append, List.mem_singleton] at hmem
    rcases hmem with hold | rfl
    · exact hon r hold
    · exact hc
  | drain maxReports =>
    obtain ⟨buf', hdrain, hqueues'⟩ := serve_drain hqueues maxReports
    refine ⟨_, buf', hdrain, _, hqueues', ?_⟩
    intro r hr
    exact hon r (List.mem_of_mem_drop hr)
  | summarize env =>
    have hread : ∀ r ∈ readInPlace (2 ^ 32) buf.capacity.toNat buf.tail.toNat rs,
        (BufferCall.push r).On sites := fun r hr => hon r (mem_of_mem_readInPlace hr)
    have hsites := siteNumber_le_of_on fun r hr => (hread r hr).2
    obtain ⟨s, hsummary⟩ : ∃ s, diagnosticSummaryOfBuffer env buf = .ok s := by
      rw [diagnosticSummaryOfBuffer_eq hqueues.1]
      rcases summaryOfReports_cases (fun r hr => (hread r hr).1) env with
        ⟨hok, -⟩ | ⟨hnone, -⟩ | ⟨-, hmany⟩
      · exact ⟨_, hok⟩
      · exact ⟨_, hnone⟩
      · rw [length_siteTable] at hmany
        omega
    refine ⟨.summary s, buf, ?_, rs, hqueues, hon⟩
    rw [ReportBuffer.serve, hsummary]
    rfl

/-- **No thread waits for ever** for the buffer: wherever a run has led, the calls that have begun can
all return, and none of them has faulted. -/
theorem shared_buffer_progress {env : Env} {es : List (Interleaving.Event BufferCall Unit)}
    {sites : List SiteKey} (hcreate : reportBufferCreate env capacity = some buf)
    (hpos : 0 < capacity.toNat) (hfew : sites.length ≤ 2 ^ 31)
    (hon : ∀ c, .start c ∈ es → c.On sites) :
    ∃ es', (∀ c, .start c ∉ es') ∧
      ∀ p ∈ (bufferSection.program.run (pool buf) (es ++ es')).calls, p.hasReturned = true := by
  refine exists_all_returned bufferSection_implements ?_ hon
  intro cs hcs
  have hempty : buf.QueuesOn capacity sites := ⟨[], reportBufferCreate_queues hcreate, nofun⟩
  obtain ⟨os, buf', hrun⟩ := @exists_run _ _ _ _ ReportBuffer.serve
    (ReportBuffer.QueuesOn capacity sites) (BufferCall.On sites) (fun _ _ => True)
    (fun h hc _ => serve_answers hpos hfew h hc) cs buf hempty hcs (meets_of_forall fun _ _ => trivial)
  exact ⟨_, hrun⟩

theorem shared_buffer_progress_contended :
    ∃ buf, reportBufferCreate (Env.ample default) 1 = some buf ∧
      ∃ es', (∀ c, .start c ∉ es') ∧
        ∀ p ∈ (bufferSection.program.run (pool buf) (contendedRun ++ es')).calls,
          p.hasReturned = true := by
  have hon : ∀ c, .start c ∈ contendedRun → c.On [] := by
    intro c hc
    rcases List.mem_append.mp hc with hstart | hstep
    · simp only [List.mem_cons, Interleaving.Event.start.injEq, List.not_mem_nil, or_false] at hstart
      rcases hstart with rfl | rfl | rfl
      · exact ⟨rfl, nofun⟩
      · trivial
      · exact ⟨rfl, nofun⟩
    · simp at hstep
  exact ⟨_, rfl, @shared_buffer_progress 1 _ (Env.ample default) contendedRun [] rfl (by decide)
    (by decide) hon⟩

end Drainprof
