import Drainprof.Equiv.FailedCalls
import Drainprof.Equiv.Liveness
import Drainprof.Equiv.PinningReports

/-!
# Where the reports go

The ledger of a diagnostic run lists the reports of the closes that returned `0`: those that left the
profiler, each with its fate, and those still buffered, all in the order of the closes.
`LedgerStep` says what one call may do to it: a close hands its report to the callback, or queues it
and drops the oldest report of a full buffer, and a drain hands over the oldest reports.  Every run
follows it (`reports_accounted`), so that no report is lost, returned twice, freed twice or
reordered.
-/

namespace Drainprof

open Ring Table Transition

/-! ### The ledger -/

/-- How a report left the profiler. -/
inductive Fate where
  | handed
  | drained
  | dropped
  deriving DecidableEq, Repr

/-- The reports that left, in the order in which they did, and those buffered, oldest first. -/
structure Ledger where
  gone : List (PinningReport × Fate)
  buffered : List PinningReport
  deriving DecidableEq

namespace Ledger

/-- No report was made yet. -/
def empty : Ledger :=
  ⟨[], []⟩

/-- All reports of the run. -/
def reports (l : Ledger) : List PinningReport :=
  l.gone.map Prod.fst ++ l.buffered

/-- The reports that left in one way. -/
def withFate (f : Fate) (l : Ledger) : List PinningReport :=
  (l.gone.filter fun e => e.2 = f).map Prod.fst

/-- The reports that were freed by the library: all that left but those drained, which the caller
owns. -/
def freed (l : Ledger) : List PinningReport :=
  (l.gone.filter fun e => e.2 ≠ .drained).map Prod.fst

/-- What leaves when a report is made: the report itself if there is a callback, and otherwise the
oldest report of a full buffer. -/
def leaving (config : Config) (l : Ledger) (r : PinningReport) : List (PinningReport × Fate) :=
  if config.onPinning then [(r, .handed)]
  else (enqueue config.maxBufferedReports.toNat l.buffered r).1.toList.map fun old => (old, .dropped)

/-- A report is made. -/
def add (config : Config) (l : Ledger) (r : PinningReport) : Ledger where
  gone := l.gone ++ l.leaving config r
  buffered :=
    if config.onPinning then l.buffered
    else (enqueue config.maxBufferedReports.toNat l.buffered r).2

/-- The `k` oldest reports are drained. -/
def drain (k : ℕ) (l : Ledger) : Ledger :=
  ⟨l.gone ++ (l.buffered.take k).map fun r => (r, .drained), l.buffered.drop k⟩

/-- A report that is made is the last one, whatever room it takes. -/
theorem reports_add {config : Config} {l : Ledger}
    (hempty : config.onPinning = true → l.buffered = []) (r : PinningReport) :
    (l.add config r).reports = l.reports ++ [r] := by
  rw [reports, reports, add, leaving]
  dsimp only
  split_ifs with hcallback
  · rw [hempty hcallback, List.map_append, List.append_nil, List.append_nil]
    rfl
  · have hqueue := enqueue_append config.maxBufferedReports.toNat l.buffered r
    rw [List.map_append, List.map_map, List.append_assoc, List.append_assoc, ← hqueue]
    congr 2
    exact List.map_id _

theorem reports_drain (l : Ledger) (k : ℕ) : (l.drain k).reports = l.reports := by
  rw [reports, reports, drain]
  dsimp only
  have hfst : (Prod.fst ∘ fun r : PinningReport => (r, Fate.drained)) = id := rfl
  rw [List.map_append, List.map_map, hfst, List.map_id, List.append_assoc, List.take_append_drop]

end Ledger

/-! ### What a call shows of the reports -/

/-- The reports a drain returns. -/
def Result.drained : Result → List (Option PinningReport)
  | .reports _ rs => rs
  | _ => []

/-- The granule whose close returned `0`. -/
def pinnedClose : Call × Outcome → List GranuleId
  | (.granuleClose g, o) => if o.result = .int 0 then [g] else []
  | _ => []

/-- What a call that returned `o` may do to the ledger. -/
inductive LedgerStep (config : Config) (l : Ledger) : Call × Outcome → Ledger → Prop
  | report {g o r} (hresult : o.result = .int 0) (hid : r.granuleId = g)
      (hempty : config.onPinning = true → l.buffered = [])
      (hcreated : createdReports o.events = [r])
      (hcallback : callbackReports o.events = ((l.leaving config r).filter
        fun e => e.2 = .handed).map Prod.fst)
      (hfreed : freedReports o.events = (l.leaving config r).map Prod.fst) :
      LedgerStep config l (.granuleClose g, o) (l.add config r)
  | drain {k count} (hcount : count.toNat = min l.buffered.length k.toNat) :
      LedgerStep config l
        (.drainReports k, ⟨.reports count ((l.buffered.take k.toNat).map some), []⟩)
        (l.drain k.toNat)
  | other {c o} (hclose : pinnedClose (c, o) = []) (hdrained : o.result.drained = [])
      (hdrain : ∀ k, c ≠ .drainReports k) (hcreated : createdReports o.events = [])
      (hcallback : callbackReports o.events = []) (hfreed : freedReports o.events = []) :
      LedgerStep config l (c, o) l

/-! ### Consequences of the steps -/

namespace LedgerStep

variable {config : Config} {l l' : Ledger} {e : Call × Outcome}

/-- The reports of the ledger are those created, in order. -/
theorem reports_eq (h : LedgerStep config l e l') :
    l'.reports = l.reports ++ createdReports e.2.events := by
  cases h with
  | report hresult hid hempty hcreated => rw [Ledger.reports_add hempty, hcreated]
  | drain =>
    rw [Ledger.reports_drain]
    exact (List.append_nil _).symm
  | other hclose hdrained hdrain hcreated => rw [hcreated, List.append_nil]

/-- Each of them is the report of the granule whose close returned `0`. -/
theorem granules_eq (h : LedgerStep config l e l') :
    l'.reports.map PinningReport.granuleId
      = l.reports.map PinningReport.granuleId ++ pinnedClose e := by
  rw [h.reports_eq, List.map_append]
  congr 1
  cases h with
  | @report g o r hresult hid hempty hcreated =>
    rw [hcreated, pinnedClose, if_pos hresult, ← hid]
    rfl
  | drain => rfl
  | other hclose hdrained hdrain hcreated => rw [hcreated, hclose]; rfl

theorem withFate_add (l : Ledger) (config : Config) (r : PinningReport) (f : Fate) :
    (l.add config r).withFate f
      = l.withFate f ++ ((l.leaving config r).filter fun e => e.2 = f).map Prod.fst := by
  rw [Ledger.withFate, Ledger.add, List.filter_append, List.map_append]
  rfl

theorem withFate_drain (l : Ledger) (k : ℕ) (f : Fate) :
    (l.drain k).withFate f = l.withFate f ++ if f = .drained then l.buffered.take k else [] := by
  rw [Ledger.withFate, Ledger.drain, List.filter_append, List.map_append, List.filter_map]
  congr 1
  split_ifs with hf
  · subst hf
    rw [List.filter_eq_self.mpr fun _ _ => by simp, List.map_map]
    exact List.map_id _
  · rw [List.filter_eq_nil_iff.mpr fun _ _ => by simp [Ne.symm hf]]
    rfl

/-- A report that is made drains none. -/
theorem ne_drained_of_mem_leaving {l : Ledger} {config : Config} {r : PinningReport}
    {x : PinningReport × Fate} (hx : x ∈ l.leaving config r) : x.2 ≠ .drained := by
  unfold Ledger.leaving at hx
  split_ifs at hx
  · rw [List.mem_singleton.mp hx]
    nofun
  · obtain ⟨old, -, rfl⟩ := List.mem_map.mp hx
    nofun

theorem handed_eq (h : LedgerStep config l e l') :
    l'.withFate .handed = l.withFate .handed ++ callbackReports e.2.events := by
  cases h with
  | report hresult hid hempty hcreated hcallback => rw [withFate_add, hcallback]
  | drain => rw [withFate_drain]; rfl
  | other hclose hdrained hdrain hcreated hcallback => rw [hcallback, List.append_nil]

theorem freed_eq (h : LedgerStep config l e l') :
    l'.freed = l.freed ++ freedReports e.2.events := by
  cases h with
  | report hresult hid hempty hcreated hcallback hfreed =>
    rw [Ledger.freed, Ledger.add, List.filter_append, List.map_append, hfreed,
      List.filter_eq_self.mpr fun x hx => decide_eq_true (ne_drained_of_mem_leaving hx)]
    rfl
  | @drain k count =>
    have hnone : ((l.buffered.take k.toNat).map fun r => (r, Fate.drained)).filter
        (fun x => x.2 ≠ .drained) = [] := by
      refine List.filter_eq_nil_iff.mpr ?_
      intro x hx
      obtain ⟨r, -, rfl⟩ := List.mem_map.mp hx
      simp
    rw [Ledger.freed, Ledger.drain, List.filter_append, List.map_append, hnone]
    rfl
  | other hclose hdrained hdrain hcreated hcallback hfreed => rw [hfreed, List.append_nil]

theorem drained_eq (h : LedgerStep config l e l') :
    (l'.withFate .drained).map some = (l.withFate .drained).map some ++ e.2.result.drained := by
  cases h with
  | @report g o r hresult =>
    have hnone : ((l.leaving config r).filter fun x => x.2 = Fate.drained) = [] :=
      List.filter_eq_nil_iff.mpr fun x hx => by simpa using ne_drained_of_mem_leaving hx
    rw [withFate_add, hnone, hresult]
    simp [Result.drained]
  | drain =>
    rw [withFate_drain, List.map_append]
    rfl
  | other hclose hdrained => rw [hdrained, List.append_nil]

end LedgerStep

/-! ### The profiler follows the ledger -/

/-- The report branch of a close has a report of the granule, if it ends. -/
theorem granuleDiagGenerateReport_outcome {env : Env} {d : GranuleDiag} {t : Timespec}
    {report : Option PinningReport} (henv : env.Plentiful) (hpinned : d.liveCount ≠ 0)
    (h : granuleDiagGenerateReport env d t = .ok report) :
    ∃ r, report = some r ∧ r.granuleId = d.granuleId := by
  unfold granuleDiagGenerateReport at h
  rw [if_neg hpinned, henv, henv] at h
  obtain ⟨pinningAllocs, -, h⟩ := bind_eq_ok.mp h
  cases h
  exact ⟨_, rfl, rfl⟩

/-- What a `close` in diagnostic mode does with reports, when memory suffices. -/
theorem granuleClose_reports {env : Env} {prof prof' : Profiler} {arr : SlotArrayDiag}
    {g : GranuleId} {r : Int} {events : List Event} (hs : prof.storage = .slotArrayDiag arr)
    (henv : env.Plentiful) (h : granuleClose env prof g = .ok (r, prof', events)) :
    (r ≠ 0 ∧ prof'.reportBuffer = prof.reportBuffer ∧ createdReports events = [] ∧
        callbackReports events = [] ∧ freedReports events = []) ∨
      (r = 0 ∧ ∃ storage report p delivered logs, report.granuleId = g ∧
        deliverReport { prof with storage := storage } report = .ok (p, delivered) ∧
        prof'.reportBuffer = p.reportBuffer ∧
        events = .reportCreated report :: (delivered ++ logs) ∧ createdReports logs = [] ∧
        callbackReports logs = [] ∧ freedReports logs = []) := by
  obtain ⟨i, -, ⟨-, rfl, rfl, rfl⟩ |
      ⟨d, hfind, -, ⟨-, rfl, hfinish⟩ | ⟨p, reported, hpinned, hreport, rfl, rfl, rfl⟩⟩⟩ :=
    granuleClose_diag_returns hs h
  · exact Or.inl ⟨by decide, rfl, rfl, rfl, rfl⟩
  · obtain ⟨hcreated, hcallback, hfreed⟩ := finishClose_events { prof with
      storage := .slotArrayDiag (arr.setSlot i ⟨false, none⟩) } true
    cases hfinish
    exact Or.inl ⟨by decide, rfl, hcreated, hcallback, hfreed⟩
  · -- with memory to spare, a pinned granule has a report
    obtain ⟨report, hgenerate, hreport⟩ := bind_eq_ok.mp hreport
    obtain ⟨report, rfl, hid⟩ := granuleDiagGenerateReport_outcome henv hpinned hgenerate
    obtain ⟨⟨p₁, delivered⟩, hdeliver, hreport⟩ := bind_eq_ok.mp hreport
    cases hreport
    obtain ⟨hcreated, hcallback, hfreed⟩ := finishClose_events p false
    refine Or.inr ⟨rfl, _, report, p, delivered,
      (if p.config.verbose then [.logPinned g d.liveCount] else []) ++ (finishClose p false).2,
      hid.trans (DiagSlot.find_eq_some_iff.mp hfind).2.2, hdeliver, rfl, ?_, ?_, ?_, ?_⟩
    · rw [List.cons_append, List.cons_append, List.append_assoc]
    · rw [createdReports_append, hcreated]
      split_ifs <;> rfl
    · rw [callbackReports_append, hcallback]
      split_ifs <;> rfl
    · rw [freedReports_append, hfreed]
      split_ifs <;> rfl

/-- The ledger describes the profiler. -/
structure Ledger.Mirrors (config : Config) (prof : Profiler) (l : Ledger) : Prop where
  config_eq : prof.config = config
  storage : ∃ arr, prof.storage = .slotArrayDiag arr
  buffers : prof.Buffers l.buffered
  pinnedCloses_eq : prof.counters.pinnedCloses = UInt64.ofNat l.reports.length

namespace Ledger

variable {config : Config} {prof prof' : Profiler} {l : Ledger} {env : Env} {o : Outcome}

/-- With a callback nothing is ever buffered. -/
theorem Mirrors.buffered_eq_nil (h : Mirrors config prof l) (hcallback : config.onPinning = true) :
    l.buffered = [] := by
  have hbuffers := h.buffers
  rw [Profiler.Buffers, if_pos (by rw [h.config_eq]; exact hcallback)] at hbuffers
  exact hbuffers.2

/-- A report that is delivered leaves what the ledger says, and leaves the ledger in step. -/
theorem deliverReport_ledger {p : Profiler} {r : PinningReport} {delivered : List Event}
    (hconfig : prof.config = config) (hbuffers : prof.Buffers l.buffered)
    (hholds : config.HoldsReports) (h : deliverReport prof r = .ok (p, delivered)) :
    p.Buffers (l.add config r).buffered ∧ createdReports delivered = [] ∧
      callbackReports delivered = ((l.leaving config r).filter
        fun e => e.2 = .handed).map Prod.fst ∧
      freedReports delivered = (l.leaving config r).map Prod.fst := by
  subst hconfig
  cases hcallback : prof.config.onPinning with
  | true =>
    rw [deliverReport_of_callback hcallback] at h
    cases h
    rw [add, leaving, if_pos hcallback]
    dsimp only
    rw [if_pos hcallback]
    exact ⟨hbuffers, rfl, rfl, rfl⟩
  | false =>
    have hpos := hholds.resolve_left (by rw [hcallback]; simp)
    have hno : ¬prof.config.onPinning = true := by rw [hcallback]; simp
    obtain ⟨buf, hdeliver, hbuffers'⟩ := deliverReport_of_buffer hbuffers hcallback hpos r
    rw [hdeliver] at h
    cases h
    rw [add, leaving, if_neg hno]
    dsimp only
    rw [if_neg hno]
    refine ⟨hbuffers', ?_⟩
    cases (enqueue prof.config.maxBufferedReports.toNat l.buffered r).1 with
    | none => exact ⟨rfl, rfl, rfl⟩
    | some old => exact ⟨rfl, rfl, rfl⟩

/-- A `close` that makes a report adds it to the ledger, and any other `close` makes none. -/
theorem Mirrors.granuleClose (h : Mirrors config prof l) (henv : env.Plentiful)
    (hholds : config.HoldsReports) {g : GranuleId} {r : Int} {events : List Event}
    (hclose : Drainprof.granuleClose env prof g = .ok (r, prof', events)) :
    ∃ l', LedgerStep config l (.granuleClose g, ⟨.int r, events⟩) l' ∧
      prof'.Buffers l'.buffered := by
  obtain ⟨arr, hs⟩ := h.storage
  have hconfig := (granuleClose_counters hclose).1
  rcases granuleClose_reports hs henv hclose with ⟨hr, hbuffer, hcreated, hcallback, hfreed⟩ |
    ⟨rfl, storage, report, p, delivered, logs, hid, hdeliver, hbuffer, rfl, hcreated, hcallback,
      hfreed⟩
  · refine ⟨l, .other ?_ rfl nofun hcreated hcallback hfreed, h.buffers.of_eq hconfig hbuffer⟩
    exact if_neg fun heq => hr (Result.int.inj heq)
  · have hpconfig := (deliverReport_frame hdeliver).1
    obtain ⟨hbuffers, hcreated', hcallback', hfreed'⟩ := @deliverReport_ledger config
      { prof with storage := storage } l p report delivered h.config_eq (h.buffers.of_eq rfl rfl)
      hholds hdeliver
    refine ⟨l.add config report, .report rfl hid h.buffered_eq_nil ?_ ?_ ?_,
      hbuffers.of_eq (hconfig.trans hpconfig.symm) hbuffer⟩
    · show report :: createdReports (delivered ++ logs) = [report]
      rw [createdReports_append, hcreated, hcreated', List.append_nil]
    · show callbackReports (delivered ++ logs) = _
      rw [callbackReports_append, hcallback, hcallback', List.append_nil]
    · show freedReports (delivered ++ logs) = _
      rw [freedReports_append, hfreed, hfreed', List.append_nil]

/-- Draining takes the oldest reports out of the ledger. -/
theorem Mirrors.drainReports (h : Mirrors config prof l) {k count : UInt32}
    {out : List (Option PinningReport)}
    (hdrain : Drainprof.drainReports prof k = .ok ((count, out), prof')) :
    ∃ l', LedgerStep config l (.drainReports k, ⟨.reports count out, []⟩) l' ∧
      prof'.Buffers l'.buffered := by
  obtain ⟨arr, hs⟩ := h.storage
  obtain ⟨count', p, hdrain', hcount, hbuffers⟩ := drainReports_eq hs h.buffers k
  rw [hdrain] at hdrain'
  cases hdrain'
  exact ⟨l.drain k.toNat, .drain hcount, hbuffers⟩

/-- The calls that do not touch the reports. -/
theorem Mirrors.frame (h : Mirrors config prof l) {c : Call} {r : Result}
    (hclose : pinnedClose (c, ⟨r, []⟩) = []) (hdrained : r.drained = [])
    (hdrain : ∀ k, c ≠ .drainReports k) (hconfig : prof'.config = prof.config)
    (hbuffer : prof'.reportBuffer = prof.reportBuffer) :
    ∃ l', LedgerStep config l (c, ⟨r, []⟩) l' ∧ prof'.Buffers l'.buffered :=
  ⟨l, .other hclose hdrained hdrain rfl rfl rfl, h.buffers.of_eq hconfig hbuffer⟩

/-- What a call other than `reset` does to the reports. -/
theorem Mirrors.step (h : Mirrors config prof l) (henv : env.Plentiful)
    (hholds : config.HoldsReports) {c : Call} (hreset : c ≠ .reset)
    (hcall : prof.call (env, c) = .ok (o, prof')) :
    ∃ l', LedgerStep config l (c, o) l' ∧ prof'.Buffers l'.buffered := by
  have hconfig := (call_counters hcall).1
  cases returns_of_call hcall with
  | granuleOpen hopen => exact h.frame rfl rfl nofun hconfig (granuleOpen_reportBuffer hopen)
  | granuleClose hclose => exact h.granuleClose henv hholds hclose
  | allocRegister hreg => exact h.frame rfl rfl nofun hconfig (allocRegisterLocated_reportBuffer hreg)
  | allocRegisterLocated hreg =>
    exact h.frame rfl rfl nofun hconfig (allocRegisterLocated_reportBuffer hreg)
  | allocDeregister hdereg =>
    exact h.frame rfl rfl nofun hconfig (allocDeregister_reportBuffer hdereg)
  | snapshot => exact h.frame rfl rfl nofun rfl rfl
  | sweep => exact h.frame rfl rfl nofun rfl rfl
  | reset => exact absurd rfl hreset
  | drainReports hdrain => exact h.drainReports hdrain
  | diagnosticSummaryCompute => exact h.frame rfl rfl nofun rfl rfl

/-- The counter counts the closes that returned `0`. -/
theorem pinnedCloses_after (counters : Counters) {c : Call} (hreset : c ≠ .reset) (o : Outcome) :
    (counters.after c o.result).pinnedCloses
      = counters.pinnedCloses + UInt64.ofNat (pinnedClose (c, o)).length := by
  have hnone : counters.pinnedCloses = counters.pinnedCloses + UInt64.ofNat 0 :=
    (UInt64.add_zero _).symm
  cases c with
  | granuleOpen g =>
    rw [Counters.after]
    split_ifs <;> exact hnone
  | granuleClose g =>
    rw [Counters.after, pinnedClose]
    by_cases hzero : o.result = .int 0
    · rw [hzero]
      rfl
    · rw [if_neg hzero, if_neg hzero]
      split_ifs <;> exact hnone
  | reset => exact absurd rfl hreset
  | _ => exact hnone

/-- Every call keeps the ledger in step. -/
theorem Mirrors.call (h : Mirrors config prof l) (henv : env.Plentiful)
    (hholds : config.HoldsReports) {c : Call} (hreset : c ≠ .reset)
    (hcall : prof.call (env, c) = .ok (o, prof')) :
    ∃ l', LedgerStep config l (c, o) l' ∧ Mirrors config prof' l' := by
  obtain ⟨hconfig, hcounters⟩ := call_counters hcall
  obtain ⟨l', hstep, hbuffers⟩ := h.step henv hholds hreset hcall
  refine ⟨l', hstep, hconfig.trans h.config_eq, ?_, hbuffers, ?_⟩
  · obtain ⟨arr, hs⟩ := h.storage
    obtain ⟨arr', hs', -⟩ := call_slotArrayDiag_step hs hcall
    exact ⟨arr', hs'⟩
  · have hlength := congrArg List.length hstep.granules_eq
    rw [List.length_map, List.length_append, List.length_map] at hlength
    rw [hcounters, pinnedCloses_after _ hreset, h.pinnedCloses_eq, hlength, UInt64.ofNat_add]

theorem mirrors_of_created {config : Config} (hcreate : createWithConfig env config = some prof)
    (hmode : config.mode = .diagnostic) : Mirrors config prof empty := by
  obtain ⟨hconfig, hcounters, hbuffers, arr, hs, -⟩ := createWithConfig_diag hcreate hmode
  exact ⟨hconfig, ⟨arr, hs⟩, hbuffers, by rw [hcounters]; rfl⟩

end Ledger

/-! ### Runs -/

/-- The calls of a run with their outcomes. -/
abbrev history (calls : List (Env × Call)) (os : List Outcome) : List (Call × Outcome) :=
  (calls.map Prod.snd).zip os

/-- The ledger accounts for every report of a history that led to the profiler `prof`: its reports
are those created, one for each close that returned `0`, and they are where it says they are. -/
structure Ledger.Explains (config : Config) (l : Ledger) (es : List (Call × Outcome))
    (prof : Profiler) : Prop where
  steps : Steps (LedgerStep config) .empty es l
  created_eq : l.reports = es.flatMap fun e => createdReports e.2.events
  granules_eq : l.reports.map PinningReport.granuleId = es.flatMap pinnedClose
  handed_eq : l.withFate .handed = es.flatMap fun e => callbackReports e.2.events
  drained_eq : (l.withFate .drained).map some = es.flatMap fun e => e.2.result.drained
  freed_eq : l.freed = es.flatMap fun e => freedReports e.2.events
  buffers : prof.Buffers l.buffered
  pinnedCloses_eq : prof.counters.pinnedCloses = UInt64.ofNat l.reports.length

/-- Every run without a reset has a ledger. -/
theorem exists_ledger {env : Env} {config : Config} {prof prof' : Profiler}
    (hcreate : createWithConfig env config = some prof) (hmode : config.mode = .diagnostic)
    (hholds : config.HoldsReports) {calls : List (Env × Call)}
    (hcalls : ∀ i ∈ calls, i.1.Plentiful ∧ i.2 ≠ .reset) {os : List Outcome}
    (hrun : run Profiler.call prof calls = .ok (os, prof')) :
    ∃ l : Ledger, l.Explains config (history calls os) prof' := by
  have hstep : ∀ {p : Profiler} {l : Ledger} {i : Env × Call} {o : Outcome} {p' : Profiler},
      l.Mirrors config p → (i.1.Plentiful ∧ i.2 ≠ .reset) → p.call i = .ok (o, p') →
      ∃ l' : Ledger, LedgerStep config l (i.2, o) l' ∧ l'.Mirrors config p' := by
    intro p l i o p' hinv hadm hcall
    exact hinv.call hadm.1 hholds hadm.2 hcall
  obtain ⟨l, hsteps, hinv⟩ := exists_steps_of_run hstep
    (Ledger.mirrors_of_created hcreate hmode) hcalls hrun
  have hempty : Ledger.empty.reports = [] := rfl
  refine ⟨l, hsteps, ?_, ?_, ?_, ?_, ?_, hinv.buffers, hinv.pinnedCloses_eq⟩
  · exact hsteps.log fun h => h.reports_eq
  · exact @Steps.log _ _ _ _ (fun l => l.reports.map PinningReport.granuleId) _
      (fun h => h.granules_eq) _ _ _ hsteps
  · exact @Steps.log _ _ _ _ (Ledger.withFate .handed) _ (fun h => h.handed_eq) _ _ _ hsteps
  · exact @Steps.log _ _ _ _ (fun l => (l.withFate .drained).map some) _
      (fun h => h.drained_eq) _ _ _ hsteps
  · exact @Steps.log _ _ _ _ Ledger.freed _ (fun h => h.freed_eq) _ _ _ hsteps

/-! ### What the ledger says in either configuration -/

namespace Ledger

variable {config : Config} {l : Ledger} {es : List (Call × Outcome)} {prof : Profiler}

/-- Every report is in exactly one place. -/
theorem length_reports (l : Ledger) :
    l.reports.length = (l.withFate .handed).length + (l.withFate .drained).length
      + (l.withFate .dropped).length + l.buffered.length := by
  have hgone : ∀ gone : List (PinningReport × Fate), gone.length
      = (gone.filter fun e => e.2 = .handed).length + (gone.filter fun e => e.2 = .drained).length
        + (gone.filter fun e => e.2 = .dropped).length := by
    intro gone
    induction gone with
    | nil => rfl
    | cons e gone ih =>
      obtain ⟨r, fate⟩ := e
      cases fate <;> simp only [List.filter_cons, List.length_cons, ih] <;> simp <;> omega
  rw [reports, List.length_append, List.length_map, hgone l.gone]
  simp only [withFate, List.length_map]

/-- Without a callback no report is handed to one. -/
theorem Explains.handed_eq_nil (h : l.Explains config es prof)
    (hcallback : config.onPinning = false) : l.withFate .handed = [] := by
  have hno : ∀ {l l' : Ledger} {e : Call × Outcome}, l.withFate .handed = [] →
      LedgerStep config l e l' → l'.withFate .handed = [] := by
    intro l l' e hl hstep
    cases hstep with
    | @report g o r =>
      rw [LedgerStep.withFate_add, hl, leaving, if_neg (by rw [hcallback]; simp)]
      cases (enqueue config.maxBufferedReports.toNat l.buffered r).1 <;> rfl
    | drain => rw [LedgerStep.withFate_drain, hl]; rfl
    | other => exact hl
  have hempty : (empty : Ledger).withFate .handed = [] := rfl
  exact (@Steps.of_mem _ _ _ (fun l => l.withFate .handed = []) hno _ _ _ h.steps hempty).1

/-- Nothing is buffered, and every report was handed to the callback. -/
def AllHanded (l : Ledger) : Prop :=
  l.buffered = [] ∧ l.withFate .handed = l.reports

theorem AllHanded.step {l' : Ledger} {e : Call × Outcome} (hcallback : config.onPinning = true)
    (h : l.AllHanded) (hstep : LedgerStep config l e l') : l'.AllHanded := by
  obtain ⟨hbuffered, hhanded⟩ := h
  cases hstep with
  | @report g o r hresult hid hempty =>
    refine ⟨?_, ?_⟩
    · rw [add]
      dsimp only
      rw [if_pos hcallback]
      exact hbuffered
    · rw [LedgerStep.withFate_add, reports_add hempty, hhanded, leaving, if_pos hcallback]
      rfl
  | @drain k =>
    refine ⟨?_, ?_⟩
    · rw [drain, hbuffered]
      exact List.drop_nil
    · rw [LedgerStep.withFate_drain, reports_drain, hhanded]
      exact List.append_nil _
  | other => exact ⟨hbuffered, hhanded⟩

/-- With a callback every report is handed to it, and no drain returns one. -/
theorem Explains.allHanded (h : l.Explains config es prof) (hcallback : config.onPinning = true) :
    l.AllHanded ∧ ∀ k o, (.drainReports k, o) ∈ es → o.result = .reports 0 [] := by
  have hempty : empty.AllHanded := ⟨rfl, rfl⟩
  obtain ⟨hlast, hmem⟩ := h.steps.of_mem (fun h hstep => h.step hcallback hstep) hempty
  refine ⟨hlast, ?_⟩
  intro k o he
  obtain ⟨l₁, l₂, ⟨hbuffered, -⟩, hstep⟩ := hmem _ he
  cases hstep with
  | @drain _ count hcount =>
    rw [hbuffered, List.length_nil, Nat.zero_min] at hcount
    have hzero : count = 0 := UInt32.toNat_inj.mp hcount
    rw [hbuffered, List.take_nil, hzero]
    rfl
  | other hclose hdrained hdrain => exact absurd rfl (hdrain k)

/-- Without a callback the library frees the reports that were dropped, and no others. -/
theorem freed_eq_dropped (h : l.withFate .handed = []) : l.freed = l.withFate .dropped := by
  have hno : ∀ e ∈ l.gone, e.2 ≠ .handed := by
    intro e he heq
    have hmem : e.1 ∈ l.withFate .handed :=
      List.mem_map.mpr ⟨e, List.mem_filter.mpr ⟨he, decide_eq_true heq⟩, rfl⟩
    rw [h] at hmem
    cases hmem
  rw [freed, withFate]
  congr 1
  refine List.filter_congr ?_
  intro e he
  have hne := hno e he
  cases hfate : e.2 <;> simp_all

/-- Without a callback the buffer holds at most `max_buffered_reports` reports. -/
theorem Explains.length_buffered_le (h : l.Explains config es prof)
    (hconfig : prof.config = config) (hcallback : config.onPinning = false) :
    l.buffered.length ≤ config.maxBufferedReports.toNat := by
  have hbuffers := h.buffers
  rw [Profiler.Buffers, if_neg (by rw [hconfig, hcallback]; simp), hconfig] at hbuffers
  obtain ⟨buf, -, hholds, hcap⟩ := hbuffers
  rw [← hcap]
  exact hholds.count_le

end Ledger

/-! ### Every run returns -/

section Totality

variable {config : Config} {prof : Profiler} {m : LivenessModel} {env : Env} {c : Call}

/-- A registration frees the record array when the granule has had `2 ^ 31` of them. -/
theorem destroys_iff (h : LivenessModel.Represents config prof m) :
    prof.Destroys c ↔ ∃ g a size file line, c.located = .allocRegisterLocated g a size file line ∧
      ∃ e ∈ m.lookup g, e.registered = 2 ^ 31 := by
  obtain ⟨arr, hs, -, harr, hm⟩ := h.tables
  rw [destroys_slotArrayDiag_iff hs]
  constructor
  · rintro ⟨g, a, size, file, line, i, d, hc, hi, hfind, hsat⟩
    rw [diagSlotIndex_eq harr.capacity_ne, Except.ok.injEq] at hi
    subst hi
    have hwf := harr.diag _ d (harr.find_eq_some_iff.mp hfind).1
    refine ⟨g, a, size, file, line, hc, d.liveSet, ?_, (GranuleDiag.saturated_iff hwf).mp hsat⟩
    rw [Option.mem_def, harr.lookup_eq hm g, hfind, Option.map_some]
  · rintro ⟨g, a, size, file, line, hc, e, he, hfull⟩
    rw [Option.mem_def, harr.lookup_eq hm g] at he
    obtain ⟨d, hfind, rfl⟩ := Option.map_eq_some_iff.mp he
    have hwf := harr.diag _ d (harr.find_eq_some_iff.mp hfind).1
    exact ⟨g, a, size, file, line, harr.home g, d, hc, diagSlotIndex_eq harr.capacity_ne g, hfind,
      (GranuleDiag.saturated_iff hwf).mpr hfull⟩

/-- A registration that does not free the record array finds room. -/
theorem registered_lt (h : LivenessModel.Represents config prof m) (hno : ¬prof.Destroys c)
    {g : GranuleId} {a : AllocId} {size : UInt64} {file : FilePtr} {line : UInt32}
    (hc : c.located = .allocRegisterLocated g a size file line) :
    ∀ e ∈ m.lookup g, e.registered < 2 ^ 31 := by
  intro e he
  have hne : e.registered ≠ 2 ^ 31 := fun hfull =>
    hno ((destroys_iff h).mpr ⟨g, a, size, file, line, hc, e, he, hfull⟩)
  obtain ⟨arr, -, -, harr, hm⟩ := h.tables
  rw [Option.mem_def, harr.lookup_eq hm g] at he
  obtain ⟨d, hfind, rfl⟩ := Option.map_eq_some_iff.mp he
  have hwf := harr.diag _ d (harr.find_eq_some_iff.mp hfind).1
  exact lt_of_le_of_ne hwf.count_le_two_pow hne

/-- A call other than `reset` and `diagnostic_summary_compute` returns, if it does not free a record
array. -/
theorem call_returns (h : LivenessModel.Represents config prof m) (henv : env.Plentiful)
    (hholds : config.HoldsReports) (hreset : c ≠ .reset) (hsummary : c ≠ .diagnosticSummaryCompute)
    (hno : ¬prof.Destroys c) :
    ∃ o prof', prof.call (env, c) = .ok (o, prof') ∧
      LivenessModel.Represents config prof' (m.step config.slotCapacity.toNat c).2 := by
  have hallowed : m.Allows c → ∃ o prof', prof.call (env, c) = .ok (o, prof') ∧
      LivenessModel.Represents config prof' (m.step config.slotCapacity.toNat c).2 := by
    intro hallows
    obtain ⟨p, hcall, hrep⟩ := LivenessModel.call_refines h henv hallows fun _ => hholds
    obtain ⟨⟨o, p'⟩, hcall', heq⟩ := bind_eq_ok.mp hcall
    obtain rfl : p' = p := congrArg Prod.snd (Except.ok.inj heq)
    exact ⟨o, p', hcall', hrep⟩
  cases c with
  | granuleOpen g => exact hallowed trivial
  | granuleClose g => exact hallowed trivial
  | allocRegister g a size => exact hallowed (registered_lt h hno rfl)
  | allocRegisterLocated g a size file line => exact hallowed (registered_lt h hno rfl)
  | allocDeregister g a => exact hallowed trivial
  | snapshot => exact ⟨_, prof, rfl, h⟩
  | sweep => exact hallowed trivial
  | reset => exact absurd rfl hreset
  | drainReports k =>
    obtain ⟨rs, hrs⟩ := h.buffers
    obtain ⟨arr, hs, -⟩ := id h.tables
    obtain ⟨count, p, hdrain, -, hbuffers⟩ := drainReports_eq hs hrs k
    obtain ⟨hconfig, -, hstorage⟩ := drainReports_counters hdrain
    refine ⟨⟨.reports count ((rs.take k.toNat).map some), []⟩, p, ?_, hconfig.trans h.config_eq,
      ⟨_, hbuffers⟩, h.tables.of_storage_eq hstorage⟩
    rw [Profiler.call, hdrain, ok_bind]
  | diagnosticSummaryCompute => exact absurd rfl hsummary

/-- Every granule has had at most `k` registrations. -/
def LivenessModel.AtMost (k : ℕ) (m : LivenessModel) : Prop :=
  ∀ g, ∀ e ∈ m.lookup g, e.registered ≤ k

/-- A call registers at most one allocation. -/
theorem LivenessModel.AtMost.step {k : ℕ} (h : m.AtMost k) (n : ℕ) (c : Call) :
    (m.step n c).2.AtMost (k + 1) := by
  have hweak : m.AtMost (k + 1) := fun g e he => (h g e he).trans (Nat.le_succ k)
  have hregister : ∀ g a, (m.register g a).2.AtMost (k + 1) := by
    intro g a
    rw [register]
    cases hlookup : m.lookup g with
    | none => exact hweak
    | some e => exact forall_lookup_insert hweak (Nat.succ_le_succ (h g e hlookup))
  cases c with
  | granuleOpen g =>
    rw [LivenessModel.step]
    split_ifs
    · exact hweak
    · exact forall_lookup_insert hweak (Nat.zero_le _)
  | granuleClose g =>
    rw [LivenessModel.step]
    cases hlookup : m.lookup g with
    | none => exact hweak
    | some e => exact forall_lookup_erase hweak g
  | allocRegister g a size => exact hregister g a
  | allocRegisterLocated g a size file line => exact hregister g a
  | allocDeregister g a =>
    rw [LivenessModel.step]
    cases hlookup : m.lookup g with
    | none => exact hweak
    | some e =>
      dsimp only
      split_ifs
      · exact forall_lookup_insert hweak (hweak g e hlookup)
      · exact hweak
  | _ => exact hweak

/-- A run of at most `2 ^ 31` calls frees no record array. -/
theorem meets_of_length_le (hholds : config.HoldsReports) :
    ∀ {calls : List (Env × Call)} {prof : Profiler} {m : LivenessModel} {k : ℕ},
      LivenessModel.Represents config prof m → m.AtMost k → k + calls.length ≤ 2 ^ 31 →
      (∀ i ∈ calls, (i.1.Plentiful ∧ i.2 ≠ .reset) ∧ i.2 ≠ .diagnosticSummaryCompute) →
      Meets Profiler.call (fun p i => ¬p.Destroys i.2) prof calls := by
  intro calls
  induction calls with
  | nil => intro prof m k _ _ _ _; trivial
  | cons i calls ih =>
    intro prof m k h hk hlength hcalls
    rw [List.length_cons] at hlength
    have hno : ¬prof.Destroys i.2 := by
      intro hdestroys
      obtain ⟨g, -, -, -, -, -, e, he, hfull⟩ := (destroys_iff h).mp hdestroys
      have hle := hk g e he
      omega
    refine ⟨hno, ?_⟩
    intro o prof' hcall
    obtain ⟨⟨henv, hreset⟩, hsummary⟩ := hcalls i List.mem_cons_self
    obtain ⟨o', p, hcall', h'⟩ := call_returns h henv hholds hreset hsummary hno
    rw [hcall'] at hcall
    cases hcall
    exact ih h' (hk.step _ _) (by omega) fun j hj => hcalls j (List.mem_cons_of_mem _ hj)

end Totality

/-! ### The reports of a run -/

/-- **No report is lost, duplicated or reordered**, except that a full buffer drops its oldest one.
Every run without a reset has a ledger which accounts for the report of each close that returned
`0`.  Without a callback such a report was drained, or dropped and freed, or is one of the at most
`max_buffered_reports` buffered ones; with a callback it was handed over, and drains return nothing.
The run does return, unless it registers so many allocations for a granule that the record array
would have to grow past `2 ^ 31` records. -/
theorem reports_accounted {env : Env} {config : Config} {prof : Profiler}
    (hcreate : createWithConfig env config = some prof) (hmode : config.mode = .diagnostic)
    (hholds : config.HoldsReports) {calls : List (Env × Call)}
    (hcalls : ∀ i ∈ calls, i.1.Plentiful ∧ i.2 ≠ .reset) :
    (∀ os prof', run Profiler.call prof calls = .ok (os, prof') →
      ∃ l : Ledger, l.Explains config (history calls os) prof' ∧
        (config.onPinning = false → l.withFate .handed = [] ∧ l.freed = l.withFate .dropped ∧
          l.buffered.length ≤ config.maxBufferedReports.toNat ∧
          prof'.counters.pinnedCloses = UInt64.ofNat ((l.withFate .drained).length
            + (l.withFate .dropped).length + l.buffered.length)) ∧
        (config.onPinning = true → l.withFate .handed = l.reports ∧
          ∀ k o, (.drainReports k, o) ∈ history calls os → o.result = .reports 0 [])) ∧
    (0 < config.slotCapacity.toNat → (∀ i ∈ calls, i.2 ≠ .diagnosticSummaryCompute) →
      Meets Profiler.call (fun p i => ¬p.Destroys i.2) prof calls →
      ∃ os prof', run Profiler.call prof calls = .ok (os, prof')) := by
  constructor
  · intro os prof' hrun
    obtain ⟨l, hexplains⟩ := exists_ledger hcreate hmode hholds hcalls hrun
    refine ⟨l, hexplains, ?_, ?_⟩
    · intro hcallback
      have hconfig := (run_config hrun).trans (createWithConfig_diag hcreate hmode).1
      have hhanded := hexplains.handed_eq_nil hcallback
      have hlength := l.length_reports
      rw [hhanded, List.length_nil, Nat.zero_add] at hlength
      refine ⟨hhanded, Ledger.freed_eq_dropped hhanded,
        hexplains.length_buffered_le hconfig hcallback, ?_⟩
      rw [hexplains.pinnedCloses_eq, hlength]
    · intro hcallback
      obtain ⟨hall, hdrains⟩ := hexplains.allHanded hcallback
      exact ⟨hall.2, hdrains⟩
  · intro hcap hsummary hmeets
    refine @exists_run _ _ _ _ Profiler.call
      (fun p => ∃ m, LivenessModel.Represents config p m)
      (fun i => (i.1.Plentiful ∧ i.2 ≠ .reset) ∧ i.2 ≠ .diagnosticSummaryCompute)
      (fun p i => ¬p.Destroys i.2) ?_ calls prof
      ⟨∅, LivenessModel.represents_of_created hcreate hmode hcap⟩
      (fun i hi => ⟨hcalls i hi, hsummary i hi⟩) hmeets
    rintro p ⟨env', c⟩ ⟨m, hrep⟩ ⟨⟨henv, hreset⟩, hsummary⟩ hno
    obtain ⟨o, p', hcall, hrep'⟩ := call_returns hrep henv hholds hreset hsummary hno
    exact ⟨o, p', hcall, _, hrep'⟩

/-- One slot, and room for one report. -/
def narrowConfig : Config :=
  { smallConfig .diagnostic 1 with maxBufferedReports := 1 }

/-- Two pinned closes, and a drain. -/
def droppingRun : List (Env × Call) :=
  [.granuleOpen 0, .allocRegister 0 7 64, .granuleClose 0, .granuleOpen 0, .allocRegister 0 8 64,
    .granuleClose 0, .drainReports 5].map fun c => (Env.ample default, c)

/-- The second report drops the first, and is drained. -/
theorem reports_accounted_dropping :
    ∃ prof prof' os, createWithConfig (Env.ample default) narrowConfig = some prof ∧
      run Profiler.call prof droppingRun = .ok (os, prof') ∧
      ∃ l : Ledger, l.Explains narrowConfig (history droppingRun os) prof' ∧
        (l.withFate .dropped).length = 1 ∧ (l.withFate .drained).length = 1 ∧ l.buffered = [] := by
  let prof := (createWithConfig (Env.ample default) narrowConfig).get rfl
  have hcreate : createWithConfig (Env.ample default) narrowConfig = some prof := rfl
  have hcalls : ∀ i ∈ droppingRun, (i.1.Plentiful ∧ i.2 ≠ .reset) ∧
      i.2 ≠ .diagnosticSummaryCompute := by
    intro i hi
    obtain ⟨c, hc, rfl⟩ := List.mem_map.mp hi
    refine ⟨⟨Env.plentiful_ample _, ?_⟩, ?_⟩
    · rintro rfl
      exact absurd hc (by decide)
    · rintro rfl
      exact absurd hc (by decide)
  have hrep : LivenessModel.Represents narrowConfig prof ∅ :=
    LivenessModel.represents_of_created hcreate rfl (by decide)
  have hempty : (∅ : LivenessModel).AtMost 0 := fun g e he => by cases he
  have hmeets : Meets Profiler.call (fun p i => ¬p.Destroys i.2) prof droppingRun :=
    meets_of_length_le (Or.inr (by decide)) hrep hempty (by decide) hcalls
  obtain ⟨hledger, hreturns⟩ := reports_accounted hcreate rfl (Or.inr (by decide))
    fun i hi => (hcalls i hi).1
  obtain ⟨os, prof', hrun⟩ := hreturns (by decide) (fun i hi => (hcalls i hi).2) hmeets
  obtain ⟨l, hexplains, hbuffered, -⟩ := hledger os prof' hrun
  obtain ⟨-, hfreed, -⟩ := hbuffered rfl
  -- what the calls returned and caused
  have hcounts : okAnd (run Profiler.call prof droppingRun) (fun r =>
      ((history droppingRun r.1).flatMap fun e => createdReports e.2.events).length = 2 ∧
      ((history droppingRun r.1).flatMap fun e => freedReports e.2.events).length = 1 ∧
      ((history droppingRun r.1).flatMap fun e => e.2.result.drained).length = 1) = true := by
    decide
  rw [hrun] at hcounts
  obtain ⟨hcreated, hfreed', hdrained⟩ := of_decide_eq_true hcounts
  rw [← hexplains.created_eq] at hcreated
  rw [← hexplains.freed_eq, hfreed] at hfreed'
  rw [← hexplains.drained_eq, List.length_map] at hdrained
  refine ⟨prof, prof', os, hcreate, hrun, l, hexplains, hfreed', hdrained, ?_⟩
  have hlength := l.length_reports
  rw [hcreated, hfreed', hdrained] at hlength
  exact List.eq_nil_of_length_eq_zero (by omega)

end Drainprof
