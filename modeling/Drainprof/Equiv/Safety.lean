import Drainprof.Library.Ensures
import Drainprof.Equiv.FreeScan
import Drainprof.Equiv.Liveness
import Drainprof.Equiv.SummaryTable

/-!
# Accepted configurations that are safe to run

Creation accepts a diagnostic configuration whatever its capacities are, but the first call on an
array without slots divides by zero, and the first push into a report buffer without slots reads past
its end.  With slots, and with a callback or room for a report, no call ever divides by zero or
leaves an array (`config_safe_iff`).

`Sound` is the invariant: every record array is in order or was freed by a growth that wrapped, and
every buffered report lists as many allocations as it says.  Each function has one lemma that says
what it ensures, in the sense of `Ensures`, with no fault allowed but the use of freed memory.
-/

namespace Drainprof

open Table Ring Transition

/-- The faults of a modulo by zero and of an index outside its array. -/
def Fault.Bounds (f : Fault) : Prop :=
  f = .divByZero ∨ f = .outOfBounds

/-- No modulo by zero, and no index outside its array. -/
def Fault.Allowed (f : Fault) : Prop :=
  ¬f.Bounds

theorem Fault.allowed_useAfterFree : Fault.useAfterFree.Allowed := by
  rintro (h | h) <;> cases h

/-! ### The state of a granule -/

/-- The record array is in order, or was freed. -/
def GranuleDiag.Sound (d : GranuleDiag) : Prop :=
  d.WF ∨ d.Lost

section Granules

variable {d : GranuleDiag} {env : Env}

theorem GranuleDiag.Sound.step (h : d.Sound) (i : Env × DiagOp) :
    Ensures Fault.Allowed (d.step i) fun r => r.2.Sound ∧ r.2.granuleId = d.granuleId := by
  obtain ⟨env, op⟩ := i
  rcases h with hwf | hlost
  · cases hstep : d.step (env, op) with
    | ok r =>
      obtain ⟨r, d'⟩ := r
      refine ⟨hwf.step hstep, ?_⟩
      cases op with
      | addAlloc a size file line => exact (granuleDiagAddAlloc_outcome hstep).1
      | markFreed a => exact (granuleDiagMarkFreed_outcome hstep).1
    | error f =>
      -- a well-formed state answers every call
      exfalso
      cases op with
      | addAlloc a size file line =>
        rcases granuleDiagAddAlloc_cases hwf env a size file line env.now with
          ⟨d', hadd, -⟩ | ⟨-, hadd⟩ | ⟨-, hadd⟩
        all_goals
          rw [GranuleDiag.step, hadd] at hstep
          cases hstep
      | markFreed a =>
        rcases granuleDiagMarkFreed_cases hwf a env.now with ⟨i, r, -, -, hfreed⟩ | ⟨hfreed, -⟩
        all_goals
          rw [GranuleDiag.step, hfreed] at hstep
          cases hstep
  · exact Ensures.of_error (hlost.step (env, op)) Fault.allowed_useAfterFree

theorem granuleDiagCreate_sound {id : GranuleId} {t : Timespec}
    (h : granuleDiagCreate env id t = some d) : d.Sound :=
  Or.inl (granuleDiagCreate_spec h).1

/-- A report lists as many allocations as it says. -/
theorem GranuleDiag.Sound.generateReport (h : d.Sound) (t : Timespec) :
    Ensures Fault.Allowed (granuleDiagGenerateReport env d t) fun report =>
      ∀ r, report = some r → r.WF := by
  by_cases hlive : d.liveCount = 0
  · refine Ensures.of_ok (a := none) ?_ nofun
    rw [granuleDiagGenerateReport, if_pos hlive]
  · cases hreport : env.succeeds .reportMalloc with
    | false =>
      refine Ensures.of_ok (a := none) ?_ nofun
      rw [granuleDiagGenerateReport, if_neg hlive, hreport]
      rfl
    | true =>
      cases hallocs : env.succeeds .pinningAllocsMalloc with
      | false =>
        refine Ensures.of_ok (a := none) ?_ nofun
        rw [granuleDiagGenerateReport, if_neg hlive, hreport, hallocs]
        rfl
      | true =>
        rcases h with hwf | hlost
        · refine Ensures.of_ok (granuleDiagGenerateReport_eq hwf hlive hreport hallocs t) ?_
          intro r hr
          cases hr
          show (d.live.map AllocRecord.toPinning).length = d.liveCount.toNat
          rw [List.length_map, hwf.live_eq]
        · refine Ensures.of_error (e := .useAfterFree) ?_ Fault.allowed_useAfterFree
          rw [granuleDiagGenerateReport, if_neg hlive, hreport, hallocs, hlost.count,
            show 2 ^ 31 = (2 ^ 31 - 1) + 1 from rfl, granuleDiagGenerateReport.go, hlost.allocs]
          rfl

theorem granuleDiagDestroy_ensures (d : GranuleDiag) :
    Ensures Fault.Allowed (granuleDiagDestroy d) fun _ => True := by
  unfold granuleDiagDestroy
  cases d.allocs with
  | none => exact Fault.allowed_useAfterFree
  | some xs => exact trivial

theorem slotArrayDiagDestroy_ensures (arr : SlotArrayDiag) :
    Ensures Fault.Allowed (slotArrayDiagDestroy arr) fun _ => True := by
  unfold slotArrayDiagDestroy
  induction arr.slots with
  | nil => exact trivial
  | cons s slots ih =>
    rw [slotArrayDiagDestroy.go]
    cases s.diag with
    | none => exact ih
    | some d => exact (granuleDiagDestroy_ensures d).bind fun _ _ => ih

end Granules

/-! ### The report buffer -/

section Reports

variable {prof : Profiler} {rs : List PinningReport}

/-- Pushing on a bounded queue adds one element and drops at most one. -/
theorem mem_enqueue {α : Type} {n : ℕ} {xs : List α} {x y : α} (h : y ∈ (enqueue n xs x).2) :
    y ∈ xs ∨ y = x := by
  unfold enqueue at h
  split_ifs at h
  · simpa using h
  · rcases List.mem_append.mp h with hold | hnew
    · exact Or.inl (List.mem_of_mem_tail hold)
    · exact Or.inr (List.mem_singleton.mp hnew)

/-- The queue of reports is in order: each lists as many allocations as it says. -/
def Profiler.BuffersSound (prof : Profiler) : Prop :=
  ∃ rs, prof.Buffers rs ∧ ∀ r ∈ rs, r.WF

theorem deliverReport_ensures (h : prof.BuffersSound) (hroom : prof.config.HoldsReports)
    {r : PinningReport} (hr : r.WF) :
    Ensures Fault.Allowed (deliverReport prof r) fun p => p.1.BuffersSound ∧
      p.1.config = prof.config ∧ p.1.storage = prof.storage := by
  obtain ⟨rs, hrs, hwf⟩ := h
  cases hcallback : prof.config.onPinning with
  | true =>
    exact Ensures.of_ok (deliverReport_of_callback hcallback r) ⟨⟨rs, hrs, hwf⟩, rfl, rfl⟩
  | false =>
    have hpos : 0 < prof.config.maxBufferedReports.toNat := by
      rcases hroom with hyes | hpos
      · rw [hcallback] at hyes
        cases hyes
      · exact hpos
    obtain ⟨buf, hdeliver, hrs'⟩ := deliverReport_of_buffer hrs hcallback hpos r
    refine Ensures.of_ok hdeliver ⟨⟨_, hrs', ?_⟩, rfl, rfl⟩
    intro r' hr'
    rcases mem_enqueue hr' with hold | rfl
    · exact hwf r' hold
    · exact hr

/-- Reading the summary in place leaves no array. -/
theorem Profiler.BuffersSound.summary (h : prof.BuffersSound) (env : Env) :
    Ensures Fault.Allowed (diagnosticSummaryCompute env prof) fun _ => True := by
  obtain ⟨rs, hrs, hwf⟩ := h
  rw [diagnosticSummaryCompute]
  cases prof.storage with
  | slotArray arr => exact trivial
  | slotArrayDiag arr =>
    rw [Profiler.Buffers] at hrs
    split_ifs at hrs with hcallback
    · rw [hrs.1]
      exact trivial
    · obtain ⟨buf, hbuf, hholds, -⟩ := hrs
      rw [hbuf]
      dsimp only
      rw [diagnosticSummaryOfBuffer_eq hholds]
      have hread : ∀ r ∈ readInPlace (2 ^ 32) buf.capacity.toNat buf.tail.toNat rs, r.WF :=
        fun r hr => hwf r (mem_of_mem_readInPlace hr)
      rcases summaryOfReports_cases hread env with ⟨hok, -⟩ | ⟨hnone, -⟩ | ⟨hfault, -⟩
      · exact Ensures.of_ok hok trivial
      · exact Ensures.of_ok hnone trivial
      · exact Ensures.of_error hfault Fault.allowed_useAfterFree

end Reports

/-! ### The calls -/

/-- The diagnostic profiler is in order. -/
structure Profiler.Sound (config : Config) (prof : Profiler) : Prop where
  config_eq : prof.config = config
  array : ∃ arr, prof.storage = .slotArrayDiag arr ∧ arr.WF GranuleDiag.Sound
  buffers : prof.BuffersSound

namespace Profiler.Sound

variable {config : Config} {prof : Profiler} {env : Env}

/-- Counters are free to change, and an array in order may be written. -/
theorem frame (h : prof.Sound config) (counters : Counters) {arr : SlotArrayDiag}
    (harr : arr.WF GranuleDiag.Sound) :
    Sound config { prof with counters := counters, storage := .slotArrayDiag arr } := by
  obtain ⟨rs, hrs, hwf⟩ := h.buffers
  exact ⟨h.config_eq, ⟨arr, rfl, harr⟩, rs, hrs.of_eq rfl rfl, hwf⟩

theorem granuleOpen (h : prof.Sound config) (id : GranuleId) :
    Ensures Fault.Allowed (granuleOpen env prof id) fun r => r.2.Sound config := by
  obtain ⟨arr, hs, harr⟩ := h.array
  rcases granuleOpen_diag_cases hs harr env id with ⟨-, hopen⟩ | ⟨-, -, hopen⟩ |
    ⟨-, d, hcreate, hopen⟩
  · exact Ensures.of_ok hopen h
  · exact Ensures.of_ok hopen h
  · have hid := (granuleDiagCreate_spec hcreate).2.1
    refine Ensures.of_ok hopen (h.frame _ ?_)
    exact harr.write (by rw [hid]) (granuleDiagCreate_sound hcreate)

theorem allocRegisterLocated (h : prof.Sound config) (id : GranuleId) (a : AllocId)
    (size : UInt64) (file : FilePtr) (line : UInt32) :
    Ensures Fault.Allowed (allocRegisterLocated env prof id a size file line) fun r =>
      r.2.Sound config := by
  obtain ⟨arr, hs, harr⟩ := h.array
  cases hfind : (arr.slot (harr.home id)).find id with
  | none =>
    refine Ensures.of_ok (allocRegisterLocated_diag_of_none hs harr hfind) ?_
    have hframe := h.frame { prof.counters with totalAllocs := prof.counters.totalAllocs + 1 } harr
    rwa [← hs] at hframe
  | some d =>
    obtain ⟨hd, hid⟩ := harr.find_eq_some_iff.mp hfind
    rw [allocRegisterLocated_diag_of_find hs harr hfind]
    refine ((harr.diag _ d hd).step (env, .addAlloc a size file line)).bind ?_
    intro r hr
    refine h.frame _ (harr.write ?_ hr.1)
    rw [hr.2, hid]

theorem allocDeregister (h : prof.Sound config) (id : GranuleId) (a : AllocId) :
    Ensures Fault.Allowed (allocDeregister env prof id a) fun r => r.2.Sound config := by
  obtain ⟨arr, hs, harr⟩ := h.array
  cases hfind : (arr.slot (harr.home id)).find id with
  | none =>
    refine Ensures.of_ok (allocDeregister_diag_of_none hs harr hfind) ?_
    have hframe :=
      h.frame { prof.counters with totalDeallocs := prof.counters.totalDeallocs + 1 } harr
    rwa [← hs] at hframe
  | some d =>
    obtain ⟨hd, hid⟩ := harr.find_eq_some_iff.mp hfind
    rw [allocDeregister_diag_of_find hs harr hfind]
    refine ((harr.diag _ d hd).step (env, .markFreed a)).bind ?_
    intro r hr
    refine h.frame _ (harr.write ?_ hr.1)
    rw [hr.2, hid]

/-- The report of a pinned granule is delivered, or there is none for lack of memory. -/
theorem reportPinned (h : prof.Sound config) (hroom : config.HoldsReports) (id : GranuleId)
    {d : GranuleDiag} (hd : d.Sound) :
    Ensures Fault.Allowed (reportPinned env prof id d) fun r => r.1.Sound config := by
  unfold Drainprof.reportPinned
  refine (hd.generateReport env.now).bind ?_
  intro report hreport
  cases report with
  | none => exact h
  | some r =>
    have hdeliver := deliverReport_ensures h.buffers (by rw [h.config_eq]; exact hroom)
      (hreport r rfl)
    refine hdeliver.bind ?_
    rintro ⟨p, events⟩ ⟨hbuffers, hconfig, hstorage⟩
    obtain ⟨arr, hs, harr⟩ := h.array
    exact ⟨hconfig.trans h.config_eq, ⟨arr, hstorage.trans hs, harr⟩, hbuffers⟩

theorem finishClose (h : prof.Sound config) (drainable : Bool) :
    (finishClose prof drainable).1.Sound config := by
  obtain ⟨arr, hs, harr⟩ := h.array
  have hframe := h.frame (prof.counters.closed drainable) harr
  rw [← hs] at hframe
  exact hframe

theorem granuleClose (h : prof.Sound config) (hroom : config.HoldsReports) (id : GranuleId) :
    Ensures Fault.Allowed (granuleClose env prof id) fun r => r.2.1.Sound config := by
  obtain ⟨arr, hs, harr⟩ := h.array
  cases hfind : (arr.slot (harr.home id)).find id with
  | none => exact Ensures.of_ok (granuleClose_diag_of_none hs harr hfind) h
  | some d =>
    have hclear : Sound config
        { prof with storage := .slotArrayDiag (arr.setSlot (harr.home id) ⟨false, none⟩) } :=
      h.frame prof.counters (harr.clear _)
    rw [granuleClose_diag_of_find hs harr hfind]
    -- a lost record faults when it is destroyed
    by_cases hlive : d.liveCount = 0
    · rw [if_pos hlive, ok_bind]
      exact (granuleDiagDestroy_ensures d).bind fun _ _ => hclear.finishClose _
    · have hd := harr.diag _ d (harr.find_eq_some_iff.mp hfind).1
      rw [if_neg hlive]
      exact (hclear.reportPinned hroom id hd).bind fun r hr =>
        (granuleDiagDestroy_ensures d).bind fun _ _ => hr.finishClose _

theorem drainReports (h : prof.Sound config) (k : UInt32) :
    Ensures Fault.Allowed (drainReports prof k) fun r => r.2.Sound config := by
  obtain ⟨arr, hs, harr⟩ := h.array
  obtain ⟨rs, hrs, hwf⟩ := h.buffers
  obtain ⟨count, prof', hdrain, -, hrs'⟩ := drainReports_eq hs hrs k
  obtain ⟨hconfig, -, hstorage⟩ := drainReports_counters hdrain
  refine Ensures.of_ok hdrain ⟨hconfig.trans h.config_eq, ⟨arr, hstorage.trans hs, harr⟩, _, hrs', ?_⟩
  intro r hr
  exact hwf r (List.mem_of_mem_drop hr)

theorem reset (h : prof.Sound config) : (reset prof).Sound config := by
  obtain ⟨arr, hs, harr⟩ := h.array
  have hframe := h.frame .zero harr
  rw [Drainprof.reset, hs]
  exact hframe

/-- No call divides by zero or leaves an array, and each leaves the profiler in order. -/
theorem call (h : prof.Sound config) (hroom : config.HoldsReports) (i : Env × Call) :
    Ensures Fault.Allowed (prof.call i) fun r => r.2.Sound config := by
  obtain ⟨env, c⟩ := i
  cases c with
  | granuleOpen g => exact (h.granuleOpen g).bind fun _ hr => hr
  | granuleClose g => exact (h.granuleClose hroom g).bind fun _ hr => hr
  | allocRegister g a size => exact (h.allocRegisterLocated g a size 0 0).bind fun _ hr => hr
  | allocRegisterLocated g a size file line =>
    exact (h.allocRegisterLocated g a size file line).bind fun _ hr => hr
  | allocDeregister g a => exact (h.allocDeregister g a).bind fun _ hr => hr
  | snapshot => exact h
  | sweep => exact h
  | reset => exact h.reset
  | drainReports k => exact (h.drainReports k).bind fun _ hr => hr
  | diagnosticSummaryCompute => exact (h.buffers.summary env).bind fun _ _ => h

theorem destroy (h : prof.Sound config) :
    Ensures Fault.Allowed (destroy prof) fun _ => True := by
  obtain ⟨arr, hs, -⟩ := h.array
  obtain ⟨rs, hrs, -⟩ := h.buffers
  rw [Drainprof.destroy, hs]
  refine (slotArrayDiagDestroy_ensures arr).bind fun _ _ => ?_
  rw [Profiler.Buffers] at hrs
  split_ifs at hrs with hcallback
  · rw [hrs.1]
    exact trivial
  · obtain ⟨buf, hbuf, hholds, -⟩ := hrs
    rw [hbuf]
    exact Ensures.of_ok (reportBufferDestroy_eq hholds) trivial

end Profiler.Sound

section Production

variable {prof : Profiler} {arr : SlotArray} (hs : prof.storage = .slotArray arr) (env : Env)

include hs

theorem exists_granuleOpen_production (g : GranuleId) :
    ∃ r prof', granuleOpen env prof g = .ok (r, prof') := by
  rw [granuleOpen, hs, storageOpen, ok_bind]
  dsimp only
  split_ifs
  · exact ⟨_, _, rfl⟩
  · exact ⟨_, _, rfl⟩

theorem exists_granuleClose_production (g : GranuleId) :
    ∃ r, granuleClose env prof g = .ok r := by
  rw [granuleClose, hs]
  dsimp only
  split_ifs
  all_goals exact ⟨_, rfl⟩

theorem exists_allocRegisterLocated_production (g : GranuleId) (a : AllocId) (size : UInt64)
    (file : FilePtr) (line : UInt32) :
    ∃ r prof', allocRegisterLocated env prof g a size file line = .ok (r, prof') := by
  rw [allocRegisterLocated, hs, storageRegister]
  exact ⟨_, _, rfl⟩

/-- In production mode every call returns. -/
theorem exists_call_production (c : Call) : ∃ o prof', prof.call (env, c) = .ok (o, prof') := by
  cases c with
  | granuleOpen g =>
    obtain ⟨r, prof', hopen⟩ := exists_granuleOpen_production hs env g
    rw [Profiler.call, hopen]
    exact ⟨_, _, rfl⟩
  | granuleClose g =>
    obtain ⟨r, hclose⟩ := exists_granuleClose_production hs env g
    rw [Profiler.call, hclose]
    exact ⟨_, _, rfl⟩
  | allocRegister g a size =>
    obtain ⟨r, prof', hreg⟩ := exists_allocRegisterLocated_production hs env g a size 0 0
    rw [Profiler.call, allocRegister, hreg]
    exact ⟨_, _, rfl⟩
  | allocRegisterLocated g a size file line =>
    obtain ⟨r, prof', hreg⟩ := exists_allocRegisterLocated_production hs env g a size file line
    rw [Profiler.call, hreg]
    exact ⟨_, _, rfl⟩
  | allocDeregister g a =>
    rw [Profiler.call, allocDeregister, hs, storageDeregister]
    exact ⟨_, _, rfl⟩
  | snapshot => exact ⟨_, _, rfl⟩
  | sweep => exact ⟨_, _, rfl⟩
  | reset => exact ⟨_, _, rfl⟩
  -- there are no reports to drain or to summarize
  | drainReports k =>
    rw [Profiler.call, drainReports, hs]
    exact ⟨_, _, rfl⟩
  | diagnosticSummaryCompute =>
    rw [Profiler.call, diagnosticSummaryCompute, hs]
    exact ⟨_, _, rfl⟩

end Production

/-! ### Safe configurations -/

/-- Whatever is called, nothing divides by zero or leaves an array, and neither does the destruction
of the profiler afterwards. -/
def Profiler.RunsInBounds (prof : Profiler) : Prop :=
  ∀ calls : List (Env × Call), Ensures Fault.Allowed (run Profiler.call prof calls) fun r =>
    Ensures Fault.Allowed (destroy r.2) fun _ => True

theorem runsInBounds_of_production {prof : Profiler} (h : ∃ arr, prof.storage = .slotArray arr) :
    prof.RunsInBounds := by
  have hstep : ∀ (p : Profiler) i, (∃ arr, p.storage = .slotArray arr) →
      Ensures Fault.Allowed (p.call i) fun r => ∃ arr, r.2.storage = .slotArray arr := by
    rintro p i ⟨arr, hs⟩
    obtain ⟨o, p', hcall⟩ := exists_call_production hs i.1 i.2
    obtain ⟨arr', hs', -⟩ := call_slotArray_step hs hcall
    exact Ensures.of_ok hcall ⟨arr', hs'⟩
  intro calls
  refine (run_ensures hstep calls prof h).mono ?_
  rintro r ⟨arr, hs⟩
  rw [destroy, hs]
  exact trivial

theorem Profiler.Sound.runsInBounds {config : Config} {prof : Profiler} (h : prof.Sound config)
    (hroom : config.HoldsReports) : prof.RunsInBounds := by
  intro calls
  refine (run_ensures (fun p i hp => hp.call hroom i) calls prof h).mono ?_
  intro r hr
  exact hr.destroy

/-- A run that leads to a call with a fault of this kind is not safe. -/
theorem not_runsInBounds {prof prof' : Profiler} {calls : List (Env × Call)} {os : List Outcome}
    {i : Env × Call} {f : Fault} (hrun : run Profiler.call prof calls = .ok (os, prof'))
    (hcall : prof'.call i = .error f) (hf : f.Bounds) : ¬prof.RunsInBounds := by
  intro h
  have hfault : run Profiler.call prof (calls ++ [i]) = .error f :=
    run_append_of_error hrun hcall
  exact (h _).error_allowed hfault hf

/-- The first `open` on an array without slots divides by zero. -/
theorem call_open_of_capacity_zero {prof : Profiler} {arr : SlotArrayDiag} {env : Env}
    (hs : prof.storage = .slotArrayDiag arr) (hzero : arr.capacity = 0) (g : GranuleId) :
    prof.call (env, .granuleOpen g) = .error .divByZero := by
  have hindex : diagSlotIndex arr.capacity g = .error .divByZero := dif_pos hzero
  have hopen : slotArrayDiagOpen env arr g env.now = .error .divByZero := by
    rw [slotArrayDiagOpen, hindex]
    rfl
  have hstorage : storageOpen env prof.storage g = .error .divByZero := by
    rw [hs, storageOpen, hopen]
    rfl
  rw [Profiler.call, granuleOpen, hstorage]
  rfl

/-- Without a callback and without room for a report, an allocation that is live when its granule
closes has its report pushed into a buffer without slots. -/
theorem not_runsInBounds_of_roomless {env : Env} {config : Config} {prof : Profiler}
    (hcreate : createWithConfig env config = some prof) (hmode : config.mode = .diagnostic)
    (hcap : 0 < config.slotCapacity.toNat) (hno : ¬config.HoldsReports) :
    ¬prof.RunsInBounds := by
  let ample := Env.ample default
  have hample : ample.Plentiful := Env.plentiful_ample _
  have hempty := LivenessModel.represents_of_created hcreate hmode hcap
  -- the first granule opens
  obtain ⟨prof₁, hopen, hrep₁⟩ := LivenessModel.granuleOpen_refines hempty hample 0
  have hfree : ¬∃ k ∈ (∅ : LivenessModel).keys, k.toNat % config.slotCapacity.toNat
      = (0 : GranuleId).toNat % config.slotCapacity.toNat := by
    rintro ⟨k, hk, -⟩
    cases hk
  rw [LivenessModel.step, if_neg hfree] at hopen hrep₁
  dsimp only at hopen hrep₁
  obtain ⟨⟨o, p⟩, hopen', heq⟩ := bind_eq_ok.mp hopen
  rw [Except.ok.injEq, Prod.mk.injEq] at heq
  obtain ⟨-, rfl⟩ := heq
  -- and gets an allocation
  have hlookup₁ : (AList.insert 0 ⟨0, 0⟩ ∅ : LivenessModel).lookup 0 = some _ := AList.lookup_insert ∅
  obtain ⟨r, prof₂, halloc, -, hrep₂⟩ := LivenessModel.allocRegisterLocated_refines hrep₁ hample 0 7
    64 0 0 (by
      intro l hl
      rw [hlookup₁] at hl
      cases hl
      decide)
  rw [LivenessModel.register, hlookup₁] at hrep₂
  dsimp only at hrep₂
  have hrun : run Profiler.call prof [(ample, .granuleOpen 0), (ample, .allocRegister 0 7 64)]
      = .ok ([o, ⟨.int r, []⟩], prof₂) :=
    run_cons_eq_ok.mpr ⟨_, _, _, hopen', run_singleton_eq_ok.mpr ⟨_, call_allocRegister halloc, rfl⟩,
      rfl⟩
  -- so that its close is pinned
  have hpinned : prof₂.ClosesPinned (.granuleClose 0) := by
    rcases hrep₂.tables.granuleClose_cases ample 0 with ⟨hlookup, -⟩ |
      ⟨d, -, hlookup, hwf, -, ⟨arr, i, hs, hget⟩, -, -⟩
    · rw [AList.lookup_insert] at hlookup
      cases hlookup
    · refine ⟨arr, i, d, hs, hget, ?_⟩
      intro hzero
      have hnone := (GranuleDiag.liveSet_live_eq_zero_iff hwf).mpr hzero
      rw [AList.lookup_insert, Option.some.injEq] at hlookup
      rw [← hlookup] at hnone
      exact Multiset.cons_ne_zero (show 7 ::ₘ (0 : Multiset AllocId) = 0 from hnone)
  have hfault := LivenessModel.granuleClose_faults hrep₂ hample hpinned hno
  cases hclose : prof₂.call (ample, .granuleClose 0) with
  | ok r =>
    rw [verdictCall_of_call hclose] at hfault
    cases hfault
  | error f =>
    rw [Profiler.verdictCall, hclose] at hfault
    cases hfault
    exact not_runsInBounds hrun hclose (Or.inr rfl)

/-- **An accepted configuration is safe to run** exactly when it is one for production, or has slots
and either a callback or room for a report. -/
theorem config_safe_iff {env : Env} {config : Config} {prof : Profiler}
    (hcreate : createWithConfig env config = some prof) :
    prof.RunsInBounds ↔
      config.mode = .production ∨ (0 < config.slotCapacity.toNat ∧ config.HoldsReports) := by
  cases hmode : config.mode with
  | production =>
    obtain ⟨-, -, -, arr, hs, -⟩ := createWithConfig_production hcreate hmode
    exact ⟨fun _ => Or.inl rfl, fun _ => runsInBounds_of_production ⟨arr, hs⟩⟩
  | diagnostic =>
    obtain ⟨hconfig, -, hbuffers, arr, hs, hcap, hfree⟩ := createWithConfig_diag hcreate hmode
    constructor
    · intro hsafe
      -- without slots the first call faults
      have hpos : 0 < config.slotCapacity.toNat := by
        by_contra hzero
        have hcapacity : arr.capacity = 0 := by
          apply UInt32.toNat_inj.mp
          rw [hcap]
          exact Nat.eq_zero_of_not_pos hzero
        exact @not_runsInBounds prof prof [] [] (Env.ample default, .granuleOpen 0) _ rfl
          (call_open_of_capacity_zero hs hcapacity 0) (Or.inl rfl) hsafe
      refine Or.inr ⟨hpos, ?_⟩
      by_contra hno
      exact not_runsInBounds_of_roomless hcreate hmode hpos hno hsafe
    · rintro (hproduction | ⟨hpos, hroom⟩)
      · cases hproduction
      · have hne : arr.capacity ≠ 0 := by
          intro hzero
          rw [← hcap, hzero] at hpos
          exact absurd hpos (by decide)
        have hsound : Profiler.Sound config prof :=
          ⟨hconfig, ⟨arr, hs, SlotArrayDiag.wf_of_free hne hfree⟩, [], hbuffers, nofun⟩
        exact hsound.runsInBounds hroom

/-- A diagnostic configuration without slots is accepted, and its first `open` divides by zero. -/
theorem accepted_config_unsafe :
    ¬∀ (env : Env) (config : Config) (prof : Profiler), createWithConfig env config = some prof →
      prof.RunsInBounds := by
  intro h
  have hsafe := h (Env.ample default) (smallConfig .diagnostic 0) _ rfl
  exact @not_runsInBounds _ _ [] [] (Env.ample default, .granuleOpen 0) _ rfl
    (call_open_of_capacity_zero rfl rfl 0) (Or.inl rfl) hsafe

/-- One slot and the default report buffer are enough. -/
theorem config_safe_small :
    ∃ prof, createWithConfig (Env.ample default) (smallConfig .diagnostic 1) = some prof ∧
      prof.RunsInBounds :=
  ⟨_, rfl, (@config_safe_iff (Env.ample default) (smallConfig .diagnostic 1) _ rfl).mpr
    (Or.inr ⟨by decide, Or.inr (by decide)⟩)⟩

end Drainprof
