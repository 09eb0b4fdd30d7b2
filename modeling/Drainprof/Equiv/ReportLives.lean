import Drainprof.Equiv.ReportLedger
import Drainprof.Equiv.RingOrder

/-!
# The lives of the reports

From its creation on, every report is in one place: with the callback, which has it freed, in the
buffer, with the caller of a drain, or freed.  This holds of every run, whatever memory fails and with
resets in between.  The reports leave in the order in which they were made, and what the buffer holds
at the end is what `drainprof_destroy` frees (`reports_leave_in_order`).
-/

namespace Drainprof

open Ring Transition

section Calls

variable {prof prof' : Profiler} {arr : SlotArrayDiag} {env : Env} {rs : List PinningReport}
  {events : List Event}

/-- The reports that leave the profiler in a call: the freed ones, and those a drain hands over. -/
def Outcome.departed (o : Outcome) : List (Option PinningReport) :=
  (freedReports o.events).map some ++ o.result.drained

/-- A delivered report goes behind the others, and what leaves is the first of them. -/
theorem deliverReport_queue (h : prof.Buffers rs) {report : PinningReport}
    (hdeliver : deliverReport prof report = .ok (prof', events)) :
    ∃ rs', prof'.Buffers rs' ∧ prof'.config = prof.config ∧
      rs ++ [report] = freedReports events ++ rs' := by
  cases hcallback : prof.config.onPinning with
  | true =>
    have hrs := h
    rw [Profiler.Buffers, if_pos hcallback] at hrs
    rw [deliverReport_of_callback hcallback] at hdeliver
    cases hdeliver
    exact ⟨rs, h, rfl, by rw [hrs.2]; rfl⟩
  | false =>
    rcases Nat.eq_zero_or_pos prof.config.maxBufferedReports.toNat with hzero | hpos
    · rw [deliverReport_of_no_capacity h hcallback hzero] at hdeliver
      cases hdeliver
    · obtain ⟨buf, heq, hbuffers⟩ := deliverReport_of_buffer h hcallback hpos report
      rw [heq] at hdeliver
      cases hdeliver
      refine ⟨_, hbuffers, rfl, ?_⟩
      have hfreed : ∀ r : Option PinningReport, freedReports (r.toList.map .reportFreed) = r.toList := by
        intro r
        cases r <;> rfl
      rw [hfreed, enqueue_append]

/-- What a close does with reports: none is made, or the one of the granule it has found, and that is
delivered. -/
theorem granuleClose_report_cases (hs : prof.storage = .slotArrayDiag arr) {g : GranuleId} {r : Int}
    (h : granuleClose env prof g = .ok (r, prof', events)) :
    (prof'.reportBuffer = prof.reportBuffer ∧ prof'.config = prof.config ∧
        createdReports events = [] ∧ freedReports events = []) ∨
      ∃ i d storage report p delivered, (arr.slot i).find g = some d ∧
        granuleDiagGenerateReport env d env.now = .ok (some report) ∧
        deliverReport { prof with storage := storage } report = .ok (p, delivered) ∧
        prof'.reportBuffer = p.reportBuffer ∧ prof'.config = p.config ∧
        createdReports events = [report] ∧ freedReports events = freedReports delivered := by
  obtain ⟨i, -, ⟨-, -, rfl, rfl⟩ |
      ⟨d, hfind, -, ⟨-, -, hfinish⟩ | ⟨p, reported, -, hreport, -, rfl, rfl⟩⟩⟩ :=
    granuleClose_diag_returns hs h
  · exact Or.inl ⟨rfl, rfl, rfl, rfl⟩
  · obtain ⟨hcreated, -, hfreed⟩ := finishClose_events { prof with
      storage := .slotArrayDiag (arr.setSlot i ⟨false, none⟩) } true
    cases hfinish
    exact Or.inl ⟨rfl, rfl, hcreated, hfreed⟩
  · obtain ⟨report, hgenerate, hreport⟩ := bind_eq_ok.mp hreport
    have hlog : ∀ verbose : Bool, createdReports
        (if verbose then [.logPinned g d.liveCount] else []) = [] ∧ freedReports
        (if verbose then [.logPinned g d.liveCount] else []) = [] := by
      intro verbose
      cases verbose <;> exact ⟨rfl, rfl⟩
    cases report with
    | none =>
      -- there was no memory for it
      cases hreport
      obtain ⟨hcreated, -, hfreed⟩ := finishClose_events { prof with
        storage := .slotArrayDiag (arr.setSlot i ⟨false, none⟩) } false
      refine Or.inl ⟨rfl, rfl, ?_, ?_⟩
      · rw [createdReports_append, List.nil_append, (hlog _).1, hcreated]
        rfl
      · rw [freedReports_append, List.nil_append, (hlog _).2, hfreed]
        rfl
    | some report =>
      obtain ⟨⟨p₁, delivered⟩, hdeliver, hreport⟩ := bind_eq_ok.mp hreport
      cases hreport
      obtain ⟨hcreated, -, hfreed⟩ := finishClose_events p false
      refine Or.inr ⟨i, d, _, report, p, delivered, hfind, hgenerate, hdeliver, rfl, rfl, ?_, ?_⟩
      · rw [createdReports_append, createdReports_append, hcreated, (hlog _).1, List.append_nil,
          List.append_nil]
        exact congrArg (report :: ·) (createdReports_deliverReport hdeliver)
      · rw [freedReports_append, freedReports_append, hfreed, (hlog _).2, List.append_nil,
          List.append_nil]
        rfl

/-- In every call the reports go through the profiler as through a queue. -/
theorem call_queue (hs : prof.storage = .slotArrayDiag arr) (h : prof.Buffers rs) {c : Call}
    {o : Outcome} (hcall : prof.call (env, c) = .ok (o, prof')) :
    ∃ rs', prof'.Buffers rs' ∧ prof'.config = prof.config ∧
      rs.map some ++ (createdReports o.events).map some = o.departed ++ rs'.map some := by
  have hsame : prof'.reportBuffer = prof.reportBuffer → o.departed = [] → createdReports o.events = [] →
      ∃ rs', prof'.Buffers rs' ∧ prof'.config = prof.config ∧
        rs.map some ++ (createdReports o.events).map some = o.departed ++ rs'.map some := by
    intro hbuf hdeparted hcreated
    have hconfig := (call_counters hcall).1
    refine ⟨rs, h.of_eq hconfig hbuf, hconfig, ?_⟩
    rw [hdeparted, hcreated, List.map_nil, List.append_nil, List.nil_append]
  cases returns_of_call hcall with
  | granuleOpen hopen =>
    obtain ⟨x, -, hx⟩ := bind_eq_ok.mp hopen
    refine hsame ?_ rfl rfl
    dsimp only at hx
    split_ifs at hx <;> cases hx <;> rfl
  | granuleClose hclose =>
    rcases granuleClose_report_cases hs hclose with ⟨hbuf, -, hcreated, hfreed⟩ |
      ⟨i, d, storage, report, p, delivered, -, -, hdeliver, hbuf, hconfig, hcreated, hfreed⟩
    · refine hsame hbuf ?_ hcreated
      rw [Outcome.departed, hfreed]
      rfl
    · have hstart : { prof with storage := storage : Profiler }.Buffers rs := h.of_eq rfl rfl
      obtain ⟨rs', hbuffers, hconfig', hqueue⟩ := deliverReport_queue hstart hdeliver
      refine ⟨rs', hbuffers.of_eq hconfig hbuf, hconfig.trans hconfig', ?_⟩
      rw [Outcome.departed, hcreated, hfreed, ← List.map_append, hqueue, List.map_append]
      exact congrArg (· ++ _) (List.append_nil _).symm
  | allocRegister hreg =>
    obtain ⟨x, -, hx⟩ := bind_eq_ok.mp hreg
    cases hx
    exact hsame rfl rfl rfl
  | allocRegisterLocated hreg =>
    obtain ⟨x, -, hx⟩ := bind_eq_ok.mp hreg
    cases hx
    exact hsame rfl rfl rfl
  | allocDeregister hdereg =>
    obtain ⟨x, -, hx⟩ := bind_eq_ok.mp hdereg
    cases hx
    exact hsame rfl rfl rfl
  | snapshot => exact hsame rfl rfl rfl
  | sweep => exact hsame rfl rfl rfl
  | reset => exact hsame (by rw [reset, hs]) rfl rfl
  | drainReports hdrain =>
    obtain ⟨count, p, hdrain', -, hbuffers⟩ := drainReports_eq hs h _
    rw [hdrain'] at hdrain
    cases hdrain
    refine ⟨_, hbuffers, (drainReports_counters hdrain').1, ?_⟩
    show rs.map some ++ [] = (rs.take _).map some ++ (rs.drop _).map some
    rw [List.append_nil, ← List.map_append, List.take_append_drop]
  | diagnosticSummaryCompute => exact hsame rfl rfl rfl

end Calls

/-- What `drainprof_destroy` frees is what is buffered. -/
theorem destroy_frees {prof : Profiler} {arr : SlotArrayDiag} {rs freed : List PinningReport}
    (hs : prof.storage = .slotArrayDiag arr) (h : prof.Buffers rs)
    (hsmall : prof.config.onPinning = true ∨ prof.config.maxBufferedReports.toNat ≤ 2 ^ 31)
    (hdestroy : destroy prof = .ok freed) : freed = rs := by
  rw [destroy, hs] at hdestroy
  obtain ⟨-, -, hdestroy⟩ := bind_eq_ok.mp hdestroy
  rw [Profiler.Buffers] at h
  split_ifs at h with hcallback
  · obtain ⟨hbuf, rfl⟩ := h
    rw [hbuf] at hdestroy
    cases hdestroy
    rfl
  · obtain ⟨buf, hbuf, hholds, hcap⟩ := h
    have hle := hsmall.resolve_left hcallback
    rw [← hcap] at hle
    have hcount := hholds.count_le
    have hread : readInPlace (2 ^ 32) buf.capacity.toNat buf.tail.toNat rs = rs := by
      rcases Nat.eq_zero_or_pos buf.capacity.toNat with hzero | hpos
      · rw [List.eq_nil_of_length_eq_zero (show rs.length = 0 by omega)]
        rfl
      · have htail := hholds.tail_lt hpos
        exact readInPlace_eq_self (by omega)
    rw [hbuf] at hdestroy
    dsimp only at hdestroy
    rw [reportBufferDestroy_eq hholds, hread] at hdestroy
    cases hdestroy
    rfl

/-- In every run the reports go through the profiler as through a queue. -/
theorem run_queue {env : Env} {config : Config} {prof prof' : Profiler}
    (hcreate : createWithConfig env config = some prof) (hmode : config.mode = .diagnostic)
    {calls : List (Env × Call)} {os : List Outcome}
    (hrun : run Profiler.call prof calls = .ok (os, prof')) :
    (∃ arr, prof'.storage = .slotArrayDiag arr) ∧ prof'.config = config ∧ ∃ rs, prof'.Buffers rs ∧
      os.flatMap (fun o => (createdReports o.events).map some)
        = os.flatMap Outcome.departed ++ rs.map some := by
  obtain ⟨hconfig, -, hbuffers, arr, hs, -, -⟩ := createWithConfig_diag hcreate hmode
  let Holds : Profiler → List (Option PinningReport) → Prop := fun p xs =>
    (∃ arr, p.storage = .slotArrayDiag arr) ∧ p.config = config ∧
      ∃ rs, p.Buffers rs ∧ xs = rs.map some
  have hstart : Holds prof [] := ⟨⟨arr, hs⟩, hconfig, [], hbuffers, rfl⟩
  have hstep : ∀ {p : Profiler} {i : Env × Call} {o : Outcome} {p' : Profiler}
      {xs : List (Option PinningReport)}, Holds p xs → True → p.call i = .ok (o, p') →
      ∃ xs', Holds p' xs' ∧ xs ++ (createdReports o.events).map some = o.departed ++ xs' := by
    rintro p ⟨env, c⟩ o p' xs ⟨⟨arr, hs⟩, hconfig, rs, hrs, rfl⟩ - hcall
    obtain ⟨rs', hrs', hconfig', hqueue⟩ := call_queue hs hrs hcall
    obtain ⟨arr', hs', -⟩ := call_diag_capacity hs hcall
    exact ⟨_, ⟨⟨arr', hs'⟩, hconfig'.trans hconfig, rs', hrs', rfl⟩, hqueue⟩
  obtain ⟨xs', ⟨hstorage, hconfig', rs, hrs, rfl⟩, hqueue⟩ :=
    Transition.run_conserves hstep hstart (fun _ _ => trivial) hrun
  exact ⟨hstorage, hconfig', rs, hrs, hqueue⟩

/-- **Reports leave in the order in which they were made.**  In every diagnostic run, whatever memory
fails and with resets in between, the reports made are those that have left the profiler, freed or
handed over, followed by the buffered ones, which are what `drainprof_destroy` frees.  None is lost,
leaves twice or overtakes another. -/
theorem reports_leave_in_order {env : Env} {config : Config} {prof prof' : Profiler}
    (hcreate : createWithConfig env config = some prof) (hmode : config.mode = .diagnostic)
    {calls : List (Env × Call)} {os : List Outcome}
    (hrun : run Profiler.call prof calls = .ok (os, prof')) :
    ∃ rs, prof'.Buffers rs ∧
      os.flatMap (fun o => (createdReports o.events).map some)
        = os.flatMap Outcome.departed ++ rs.map some ∧
      ((config.onPinning = true ∨ config.maxBufferedReports.toNat ≤ 2 ^ 31) →
        ∀ freed, destroy prof' = .ok freed → freed = rs) := by
  obtain ⟨⟨arr, hs⟩, hconfig, rs, hrs, hqueue⟩ := run_queue hcreate hmode hrun
  refine ⟨rs, hrs, hqueue, ?_⟩
  intro hsmall freed hdestroy
  exact destroy_frees hs hrs (by rwa [hconfig]) hdestroy

/-- Three pinned closes and a reset, with room for one report; there is no memory for the report of
the third. -/
def starvedRun : List (Env × Call) :=
  [.granuleOpen 0, .allocRegister 0 7 64, .granuleClose 0, .reset, .granuleOpen 0,
    .allocRegister 0 8 64, .granuleClose 0, .granuleOpen 0, .allocRegister 0 9 64].map
      (fun c => (Env.ample default, c)) ++
    [(⟨default, fun r => r != .reportMalloc⟩, .granuleClose 0)]

/-- The first report is dropped, the second is freed with the profiler, and there is no third. -/
theorem reports_leave_in_order_starved :
    ∃ prof prof' os, createWithConfig (Env.ample default) narrowConfig = some prof ∧
      run Profiler.call prof starvedRun = .ok (os, prof') ∧
      ∃ freed, destroy prof' = .ok freed ∧ freed.length = 1 ∧
        os.flatMap (fun o => (createdReports o.events).map some)
          = os.flatMap Outcome.departed ++ freed.map some := by
  let prof := (createWithConfig (Env.ample default) narrowConfig).get rfl
  have hcreate : createWithConfig (Env.ample default) narrowConfig = some prof := rfl
  obtain ⟨⟨os, prof'⟩, hrun, hdestroys⟩ := exists_of_okAnd
    (show okAnd (run Profiler.call prof starvedRun) (fun r =>
      okAnd (destroy r.2) fun freed => freed.length == 1) = true by decide)
  obtain ⟨freed, hdestroy, hlength⟩ := exists_of_okAnd hdestroys
  obtain ⟨rs, -, hqueue, hrest⟩ := reports_leave_in_order hcreate rfl hrun
  have heq : freed = rs := hrest (Or.inr (by decide)) freed hdestroy
  refine ⟨prof, prof', os, hcreate, hrun, freed, hdestroy, beq_iff_eq.mp hlength, ?_⟩
  rw [heq]
  exact hqueue

end Drainprof
