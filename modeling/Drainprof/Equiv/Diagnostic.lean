import Drainprof.Equiv.ReportBuffer
import Drainprof.Equiv.Transitions

/-!
# The public calls in diagnostic mode

One lemma for each call on a profiler whose storage is a well-formed diagnostic array: what it
returns and which slot it writes, in terms of the record found at the granule's home.  `Buffers` is
the state of the report buffer as a queue of reports, and `deliverReport_eq` what becomes of a
report.  None of these lemmas assumes anything of the environment unless it says so.
-/

namespace Drainprof

open Table Ring Transition

/-! ### Granules -/

section Calls

variable {prof : Profiler} {arr : SlotArrayDiag} {P : GranuleDiag → Prop} {env : Env}
  {id : GranuleId} {d : GranuleDiag}

/-- The three ways an `open` ends: the home is taken, memory runs out, or a record is created. -/
theorem granuleOpen_diag_cases (hs : prof.storage = .slotArrayDiag arr) (h : arr.WF P) (env : Env)
    (id : GranuleId) :
    ((∃ d, (arr.slot (h.home id)).diag = some d) ∧ granuleOpen env prof id = .ok (-1, prof)) ∨
      ((arr.slot (h.home id)).diag = none ∧ granuleDiagCreate env id env.now = none ∧
        granuleOpen env prof id = .ok (-1, prof)) ∨
      ((arr.slot (h.home id)).diag = none ∧ ∃ d, granuleDiagCreate env id env.now = some d ∧
        granuleOpen env prof id = .ok (0, { prof with
          counters := prof.counters.opened
          storage := .slotArrayDiag (arr.setSlot (h.home id) ⟨true, some d⟩) })) := by
  have hocc := h.occupied_eq (h.home id)
  have hprof : { prof with storage := .slotArrayDiag arr } = prof := by rw [← hs]
  unfold granuleOpen storageOpen
  rw [hs]
  dsimp only
  rw [slotArrayDiagOpen, diagSlotIndex_eq h.capacity_ne, ok_bind]
  cases hd : (arr.slot (h.home id)).diag with
  | some d =>
    refine Or.inl ⟨⟨d, rfl⟩, ?_⟩
    rw [hd, Option.isSome_some] at hocc
    rw [if_pos hocc]
    simp only [ok_bind, hprof]
    rfl
  | none =>
    refine Or.inr ?_
    rw [hd, Option.isSome_none] at hocc
    rw [if_neg (by rw [hocc]; simp)]
    cases hcreate : granuleDiagCreate env id env.now with
    | none =>
      refine Or.inl ⟨rfl, rfl, ?_⟩
      have hfree : arr.setSlot (h.home id) ⟨false, none⟩ = arr := by
        have hsame := arr.setSlot_slot (h.home id)
        rwa [h.slot_eq_free hd] at hsame
      simp only [ok_bind, hfree, hprof]
      rfl
    | some d =>
      refine Or.inr ⟨rfl, d, rfl, ?_⟩
      simp only [ok_bind]
      rfl

theorem slotArrayDiagClose_eq (h : arr.WF P) (id : GranuleId) :
    slotArrayDiagClose arr id = .ok (((arr.slot (h.home id)).find id).map fun d =>
      (d, arr.setSlot (h.home id) ⟨false, none⟩)) := by
  rw [slotArrayDiagClose, diagSlotIndex_eq h.capacity_ne, ok_bind]

theorem granuleClose_diag_of_none (hs : prof.storage = .slotArrayDiag arr) (h : arr.WF P)
    (hfind : (arr.slot (h.home id)).find id = none) :
    granuleClose env prof id = .ok (-1, prof, []) := by
  unfold granuleClose
  rw [hs]
  dsimp only
  rw [slotArrayDiagClose_eq h, hfind, Option.map_none, ok_bind]

theorem granuleClose_diag_of_find (hs : prof.storage = .slotArrayDiag arr) (h : arr.WF P)
    (hfind : (arr.slot (h.home id)).find id = some d) :
    granuleClose env prof id = (do
      let r ← (if d.liveCount = 0 then .ok ({ prof with
          storage := .slotArrayDiag (arr.setSlot (h.home id) ⟨false, none⟩) }, [])
        else reportPinned env { prof with
          storage := .slotArrayDiag (arr.setSlot (h.home id) ⟨false, none⟩) } id d)
      granuleDiagDestroy d
      .ok (if d.liveCount = 0 then 1 else 0, (finishClose r.1 (d.liveCount = 0)).1,
        r.2 ++ (finishClose r.1 (d.liveCount = 0)).2)) := by
  unfold granuleClose
  rw [hs]
  dsimp only
  rw [slotArrayDiagClose_eq h, hfind, Option.map_some, ok_bind]

theorem granuleClose_diag_of_drainable (hs : prof.storage = .slotArrayDiag arr) (h : arr.WF P)
    (hfind : (arr.slot (h.home id)).find id = some d) (hd : d.WF) (hzero : d.liveCount = 0) :
    granuleClose env prof id = .ok (1, finishClose { prof with
      storage := .slotArrayDiag (arr.setSlot (h.home id) ⟨false, none⟩) } true) := by
  rw [granuleClose_diag_of_find hs h hfind, hd.destroy]
  simp only [hzero, decide_true, if_true, ok_bind, List.nil_append]

theorem granuleClose_diag_of_pinned (hs : prof.storage = .slotArrayDiag arr) (h : arr.WF P)
    (hfind : (arr.slot (h.home id)).find id = some d) (hd : d.WF) (hpinned : d.liveCount ≠ 0) :
    granuleClose env prof id = (do
      let r ← reportPinned env { prof with
        storage := .slotArrayDiag (arr.setSlot (h.home id) ⟨false, none⟩) } id d
      .ok (0, (finishClose r.1 false).1, r.2 ++ (finishClose r.1 false).2)) := by
  rw [granuleClose_diag_of_find hs h hfind, hd.destroy]
  simp only [hpinned, decide_false, if_false, ok_bind]

/-! ### Allocations -/

theorem slotArrayDiagGet_eq (h : arr.WF P) (id : GranuleId) :
    slotArrayDiagGet arr id
      = .ok (((arr.slot (h.home id)).find id).map fun d => (h.home id, d)) := by
  rw [slotArrayDiagGet, diagSlotIndex_eq h.capacity_ne, ok_bind]

section Register

variable {a : AllocId} {size : UInt64} {file : FilePtr} {line : UInt32}

theorem allocRegisterLocated_diag_of_none (hs : prof.storage = .slotArrayDiag arr) (h : arr.WF P)
    (hfind : (arr.slot (h.home id)).find id = none) :
    allocRegisterLocated env prof id a size file line = .ok (-1, { prof with
      counters := { prof.counters with totalAllocs := prof.counters.totalAllocs + 1 } }) := by
  unfold allocRegisterLocated storageRegister
  rw [hs]
  dsimp only
  rw [slotArrayDiagGet_eq h, hfind, Option.map_none, ok_bind]
  simp only [ok_bind, ← hs]

theorem allocRegisterLocated_diag_of_find (hs : prof.storage = .slotArrayDiag arr) (h : arr.WF P)
    (hfind : (arr.slot (h.home id)).find id = some d) :
    allocRegisterLocated env prof id a size file line = (do
      let r ← granuleDiagAddAlloc env d a size file line env.now
      .ok (r.1, { prof with
        counters := { prof.counters with totalAllocs := prof.counters.totalAllocs + 1 }
        storage := .slotArrayDiag (arr.setSlot (h.home id) ⟨true, some r.2⟩) })) := by
  unfold allocRegisterLocated storageRegister
  rw [hs]
  dsimp only
  rw [slotArrayDiagGet_eq h, hfind, Option.map_some, ok_bind]
  dsimp only
  cases granuleDiagAddAlloc env d a size file line env.now <;> rfl

end Register

theorem allocDeregister_diag_of_none {a : AllocId} (hs : prof.storage = .slotArrayDiag arr)
    (h : arr.WF P) (hfind : (arr.slot (h.home id)).find id = none) :
    allocDeregister env prof id a = .ok (-1, { prof with
      counters := { prof.counters with totalDeallocs := prof.counters.totalDeallocs + 1 } }) := by
  unfold allocDeregister storageDeregister
  rw [hs]
  dsimp only
  rw [slotArrayDiagGet_eq h, hfind, Option.map_none, ok_bind]
  simp only [ok_bind, ← hs]

theorem allocDeregister_diag_of_find {a : AllocId} (hs : prof.storage = .slotArrayDiag arr)
    (h : arr.WF P) (hfind : (arr.slot (h.home id)).find id = some d) :
    allocDeregister env prof id a = (do
      let r ← granuleDiagMarkFreed d a env.now
      .ok (r.1, { prof with
        counters := { prof.counters with totalDeallocs := prof.counters.totalDeallocs + 1 }
        storage := .slotArrayDiag (arr.setSlot (h.home id) ⟨true, some r.2⟩) })) := by
  unfold allocDeregister storageDeregister
  rw [hs]
  dsimp only
  rw [slotArrayDiagGet_eq h, hfind, Option.map_some, ok_bind]
  dsimp only
  cases granuleDiagMarkFreed d a env.now <;> rfl

end Calls

/-! ### The capacity -/

/-- No call changes the capacity of the array, whatever the environment. -/
theorem call_diag_capacity {prof prof' : Profiler} {arr : SlotArrayDiag} {i : Env × Call}
    {o : Outcome} (hs : prof.storage = .slotArrayDiag arr)
    (h : prof.call i = .ok (o, prof')) :
    ∃ arr', prof'.storage = .slotArrayDiag arr' ∧ arr'.capacity = arr.capacity := by
  obtain ⟨arr', hs', hstep⟩ := call_slotArrayDiag_step hs h
  exact ⟨arr', hs', hstep.capacity_eq⟩

/-- The capacity is that of the creation. -/
theorem run_diag_capacity {calls : List (Env × Call)} {prof prof' : Profiler}
    {arr : SlotArrayDiag} {os : List Outcome} (hs : prof.storage = .slotArrayDiag arr)
    (hrun : run Profiler.call prof calls = .ok (os, prof')) :
    ∃ arr', prof'.storage = .slotArrayDiag arr' ∧ arr'.capacity = arr.capacity := by
  refine @run_invariant _ _ _ _ Profiler.call (fun p => ∃ arr', p.storage = .slotArrayDiag arr' ∧
    arr'.capacity = arr.capacity) (fun _ => True) ?_ _ _ _ _ ⟨arr, hs, rfl⟩ (fun _ _ => trivial) hrun
  rintro p i o p' ⟨arr₁, hs₁, hcap₁⟩ - hcall
  obtain ⟨arr₂, hs₂, hcap₂⟩ := call_diag_capacity hs₁ hcall
  exact ⟨arr₂, hs₂, hcap₂.trans hcap₁⟩

/-! ### Reports -/

/-- The reports the profiler buffers, oldest first.  With a callback it has no buffer. -/
def Profiler.Buffers (prof : Profiler) (rs : List PinningReport) : Prop :=
  if prof.config.onPinning then prof.reportBuffer = none ∧ rs = []
  else ∃ buf, prof.reportBuffer = some buf ∧ buf.Holds rs ∧
    buf.capacity = prof.config.maxBufferedReports

section Reports

variable {prof : Profiler} {rs : List PinningReport}

theorem Profiler.Buffers.of_eq {prof' : Profiler} (h : prof.Buffers rs)
    (hconfig : prof'.config = prof.config) (hbuf : prof'.reportBuffer = prof.reportBuffer) :
    prof'.Buffers rs := by
  unfold Profiler.Buffers at h ⊢
  rwa [hconfig, hbuf]

/-- A report goes to the callback, which has it freed after use. -/
theorem deliverReport_of_callback (hcallback : prof.config.onPinning = true)
    (report : PinningReport) :
    deliverReport prof report = .ok (prof, [.pinCallback report, .reportFreed report]) := by
  rw [deliverReport, if_pos hcallback]

/-- A report goes to the buffer, which may drop its oldest one to make room. -/
theorem deliverReport_of_buffer (h : prof.Buffers rs) (hcallback : prof.config.onPinning = false)
    (hpos : 0 < prof.config.maxBufferedReports.toNat) (report : PinningReport) :
    ∃ buf, deliverReport prof report = .ok ({ prof with reportBuffer := some buf },
        (enqueue prof.config.maxBufferedReports.toNat rs report).1.toList.map .reportFreed) ∧
      { prof with reportBuffer := some buf : Profiler }.Buffers
        (enqueue prof.config.maxBufferedReports.toNat rs report).2 := by
  unfold Profiler.Buffers at h ⊢
  rw [if_neg (by rw [hcallback]; simp)] at h
  obtain ⟨buf, hbuf, hholds, hcap⟩ := h
  obtain ⟨buf', hpush, hholds', hcap', -⟩ := reportBufferPush_eq hholds (by rw [hcap]; exact hpos) report
  rw [hcap] at hpush hholds' hcap'
  refine ⟨buf', ?_, ?_⟩
  · unfold deliverReport
    rw [if_neg (by rw [hcallback]; simp), hbuf]
    simp only [hpush, ok_bind]
  · rw [if_neg (by rw [hcallback]; simp)]
    exact ⟨buf', rfl, hholds', hcap'⟩

/-- Without a callback and without room for a single report, the push faults. -/
theorem deliverReport_of_no_capacity (h : prof.Buffers rs)
    (hcallback : prof.config.onPinning = false)
    (hzero : prof.config.maxBufferedReports.toNat = 0) (report : PinningReport) :
    deliverReport prof report = .error .outOfBounds := by
  unfold Profiler.Buffers at h
  rw [if_neg (by rw [hcallback]; simp)] at h
  obtain ⟨buf, hbuf, hholds, hcap⟩ := h
  unfold deliverReport
  rw [if_neg (by rw [hcallback]; simp), hbuf]
  dsimp only
  rw [reportBufferPush_of_capacity_zero hholds (by rw [hcap]; exact hzero)]
  rfl

/-- The report branch for a granule with live allocations, when memory suffices. -/
theorem reportPinned_eq {env : Env} {id : GranuleId} {d : GranuleDiag} (hd : d.WF)
    (hpinned : d.liveCount ≠ 0) (henv : env.Plentiful) (prof : Profiler) :
    reportPinned env prof id d = (do
      let r ← deliverReport prof (d.report env.now)
      .ok (r.1, .reportCreated (d.report env.now) :: r.2 ++
        if r.1.config.verbose then [.logPinned id d.liveCount] else [])) := by
  unfold reportPinned
  rw [granuleDiagGenerateReport_eq hd hpinned (henv _) (henv _), ok_bind]
  dsimp only
  cases deliverReport prof (d.report env.now) <;> rfl

/-- Draining hands over the oldest reports; with a callback there are none. -/
theorem drainReports_eq {arr : SlotArrayDiag} (hs : prof.storage = .slotArrayDiag arr)
    (h : prof.Buffers rs) (maxReports : UInt32) :
    ∃ count prof', drainReports prof maxReports
        = .ok ((count, (rs.take maxReports.toNat).map some), prof') ∧
      count.toNat = min rs.length maxReports.toNat ∧ prof'.Buffers (rs.drop maxReports.toNat) := by
  unfold Profiler.Buffers at h
  unfold drainReports
  rw [hs]
  cases hcallback : prof.config.onPinning with
  | true =>
    rw [if_pos hcallback] at h
    obtain ⟨hbuf, rfl⟩ := h
    refine ⟨0, prof, by rw [hbuf]; simp, by simp, ?_⟩
    rw [Profiler.Buffers, if_pos hcallback]
    exact ⟨hbuf, List.drop_nil⟩
  | false =>
    rw [if_neg (by rw [hcallback]; simp)] at h
    obtain ⟨buf, hbuf, hholds, hcap⟩ := h
    obtain ⟨count, buf', hdrain, hcount, hholds', hcap', -⟩ := reportBufferDrain_eq hholds maxReports
    refine ⟨count, { prof with reportBuffer := some buf' }, ?_, hcount, ?_⟩
    · rw [hbuf]
      simp only [hdrain, ok_bind, hs]
    · rw [Profiler.Buffers, if_neg (by show ¬prof.config.onPinning = true; rw [hcallback]; simp)]
      exact ⟨buf', rfl, hholds', hcap'.trans hcap⟩

/-- The report branch of a close keeps the reports in their place. -/
theorem reportPinned_buffers {env : Env} {id : GranuleId} {d : GranuleDiag} {prof' : Profiler}
    {events : List Event} (h : prof.Buffers rs)
    (hreport : reportPinned env prof id d = .ok (prof', events)) : ∃ rs', prof'.Buffers rs' := by
  obtain ⟨report, -, hreport⟩ := bind_eq_ok.mp hreport
  cases report with
  | none =>
    cases hreport
    exact ⟨rs, h⟩
  | some r =>
    obtain ⟨⟨p, delivered⟩, hdeliver, hreport⟩ := bind_eq_ok.mp hreport
    cases hreport
    cases hcallback : prof.config.onPinning with
    | true =>
      rw [deliverReport_of_callback hcallback] at hdeliver
      cases hdeliver
      exact ⟨rs, h⟩
    | false =>
      rcases Nat.eq_zero_or_pos prof.config.maxBufferedReports.toNat with hzero | hpos
      · rw [deliverReport_of_no_capacity h hcallback hzero] at hdeliver
        cases hdeliver
      · obtain ⟨buf, heq, hbuffers⟩ := deliverReport_of_buffer h hcallback hpos r
        rw [heq] at hdeliver
        cases hdeliver
        exact ⟨_, hbuffers⟩

/-- Every call keeps the reports in their place. -/
theorem call_buffers {arr : SlotArrayDiag} (hs : prof.storage = .slotArrayDiag arr)
    (h : prof.Buffers rs) {i : Env × Call} {o : Outcome} {prof' : Profiler}
    (hcall : prof.call i = .ok (o, prof')) : ∃ rs', prof'.Buffers rs' := by
  obtain ⟨env, c⟩ := i
  have hconfig := (call_counters hcall).1
  cases returns_of_call hcall with
  | granuleOpen hopen => exact ⟨rs, h.of_eq hconfig (granuleOpen_reportBuffer hopen)⟩
  | granuleClose hclose =>
    obtain ⟨i, -, ⟨-, -, rfl, -⟩ | ⟨d, -, -, ⟨-, -, hfinish⟩ | ⟨p, reported, -, hreport, -, rfl, -⟩⟩⟩ :=
      granuleClose_diag_returns hs hclose
    · exact ⟨rs, h⟩
    · cases hfinish
      exact ⟨rs, h.of_eq rfl rfl⟩
    · have hrs : { prof with storage := .slotArrayDiag (arr.setSlot i ⟨false, none⟩) :
          Profiler }.Buffers rs := h.of_eq rfl rfl
      obtain ⟨rs', hrs'⟩ := reportPinned_buffers hrs hreport
      exact ⟨rs', hrs'.of_eq rfl rfl⟩
  | allocRegister hreg => exact ⟨rs, h.of_eq hconfig (allocRegisterLocated_reportBuffer hreg)⟩
  | allocRegisterLocated hreg =>
    exact ⟨rs, h.of_eq hconfig (allocRegisterLocated_reportBuffer hreg)⟩
  | allocDeregister hdereg => exact ⟨rs, h.of_eq hconfig (allocDeregister_reportBuffer hdereg)⟩
  | reset => exact ⟨rs, h.of_eq hconfig (by rw [reset, hs])⟩
  | drainReports hdrain =>
    obtain ⟨count, prof'', hdrain', -, hrs'⟩ := drainReports_eq hs h _
    rw [hdrain'] at hdrain
    cases hdrain
    exact ⟨_, hrs'⟩
  | _ => exact ⟨rs, h⟩

end Reports

/-! ### The initial state -/

theorem slotArrayDiagCreate_spec {env : Env} {capacity : UInt32} {arr : SlotArrayDiag}
    (h : slotArrayDiagCreate env capacity = some arr) :
    arr.capacity = capacity ∧ ∀ i, arr.slot i = DiagSlot.free := by
  unfold slotArrayDiagCreate at h
  split_ifs at h
  cases h
  exact ⟨rfl, fun i => List.eq_of_mem_replicate (List.getElem_mem _)⟩

theorem SlotArrayDiag.wf_of_free {P : GranuleDiag → Prop} {arr : SlotArrayDiag}
    (hcap : arr.capacity ≠ 0) (h : ∀ i, arr.slot i = DiagSlot.free) : arr.WF P where
  capacity_ne := hcap
  occupied_eq i := by rw [h i]; rfl
  home_eq i d hd := by rw [h i] at hd; cases hd
  diag i d hd := by rw [h i] at hd; cases hd

theorem SlotArrayDiag.tabulates_of_free {β : Type} {arr : SlotArrayDiag}
    (h : ∀ i, arr.slot i = DiagSlot.free) (f : GranuleDiag → β) :
    Tabulates (arr.entries f) (∅ : FinMap GranuleId β) := by
  refine Table.tabulates_of_free ?_
  intro e he
  cases e with
  | none => rfl
  | some e =>
    obtain ⟨i, hi⟩ := arr.exists_of_mem_entries he
    rw [h i] at hi
    cases hi

/-- A profiler created in diagnostic mode: every slot is free and no report is buffered. -/
theorem createWithConfig_diag {env : Env} {config : Config} {prof : Profiler}
    (h : createWithConfig env config = some prof) (hmode : config.mode = .diagnostic) :
    prof.config = config ∧ prof.counters = .zero ∧ prof.Buffers [] ∧
      ∃ arr, prof.storage = .slotArrayDiag arr ∧ arr.capacity = config.slotCapacity ∧
        ∀ i, arr.slot i = DiagSlot.free := by
  unfold createWithConfig at h
  by_cases hmalloc : (!env.succeeds .profMalloc) = true
  · rw [if_pos hmalloc] at h
    cases h
  rw [if_neg hmalloc, hmode] at h
  cases hstorage : config.storage with
  | hashMap => rw [hstorage] at h; cases h
  | slotArray =>
    rw [hstorage] at h
    dsimp only at h
    cases harr : slotArrayDiagCreate env config.slotCapacity with
    | none => rw [harr] at h; cases h
    | some arr =>
      obtain ⟨hcap, hfree⟩ := slotArrayDiagCreate_spec harr
      rw [harr] at h
      dsimp only at h
      split_ifs at h with hcallback
      · cases h
        refine ⟨rfl, rfl, ?_, arr, rfl, hcap, hfree⟩
        rw [Profiler.Buffers, if_pos hcallback]
        exact ⟨rfl, rfl⟩
      · obtain ⟨buf, hbuf, rfl⟩ := Option.map_eq_some_iff.mp h
        obtain ⟨hholds, hbufcap⟩ := reportBufferCreate_holds hbuf
        refine ⟨rfl, rfl, ?_, arr, rfl, hcap, hfree⟩
        rw [Profiler.Buffers, if_neg hcallback]
        exact ⟨buf, rfl, hholds, hbufcap⟩

/-- Every reachable diagnostic array is well formed, except for the records. -/
theorem run_diag_wf {env : Env} {config : Config} {prof prof' : Profiler}
    (hcreate : createWithConfig env config = some prof) (hmode : config.mode = .diagnostic)
    (hcap : 0 < config.slotCapacity.toNat) {calls : List (Env × Call)} {os : List Outcome}
    (hrun : run Profiler.call prof calls = .ok (os, prof')) :
    ∃ arr, prof'.storage = .slotArrayDiag arr ∧ arr.capacity = config.slotCapacity ∧
      arr.WF fun _ => True := by
  refine @run_invariant _ _ _ _ Profiler.call (fun p => ∃ arr, p.storage = .slotArrayDiag arr ∧
    arr.capacity = config.slotCapacity ∧ arr.WF fun _ => True) (fun _ => True) ?_ _ _ _ _ ?_
    (fun _ _ => trivial) hrun
  · rintro p ⟨env, c⟩ o p' ⟨arr, hs, hcap', hwf⟩ - hcall
    obtain ⟨arr', hs', hstep⟩ := call_slotArrayDiag_step hs hcall
    exact ⟨arr', hs', hstep.capacity_eq.trans hcap', hstep.wf hwf⟩
  · obtain ⟨-, -, -, arr, hs, hcap', hfree⟩ := createWithConfig_diag hcreate hmode
    have hne : arr.capacity ≠ 0 := by
      rintro h0
      rw [← hcap', h0] at hcap
      exact absurd hcap (by decide)
    exact ⟨arr, hs, hcap', SlotArrayDiag.wf_of_free hne hfree⟩

/-- A diagnostic profiler buffers reports whatever fails, unless a push faults. -/
theorem run_buffers {env : Env} {config : Config} {prof prof' : Profiler}
    (hcreate : createWithConfig env config = some prof) (hmode : config.mode = .diagnostic)
    {calls : List (Env × Call)} {os : List Outcome}
    (hrun : run Profiler.call prof calls = .ok (os, prof')) : ∃ rs, prof'.Buffers rs := by
  obtain ⟨-, -, hbuffers, arr, hs, -⟩ := createWithConfig_diag hcreate hmode
  have hinv : ∃ arr rs, prof'.storage = .slotArrayDiag arr ∧ prof'.Buffers rs := by
    refine @run_invariant _ _ _ _ Profiler.call
      (fun p => ∃ arr rs, p.storage = .slotArrayDiag arr ∧ p.Buffers rs) (fun _ => True) ?_ _ _ _ _
      ⟨arr, [], hs, hbuffers⟩ (fun _ _ => trivial) hrun
    rintro p ⟨env, c⟩ o p' ⟨arr, rs, hs, hrs⟩ - hcall
    obtain ⟨arr', hs', -⟩ := call_slotArrayDiag_step hs hcall
    obtain ⟨rs', hrs'⟩ := call_buffers hs hrs hcall
    exact ⟨arr', rs', hs', hrs'⟩
  obtain ⟨-, rs, -, hrs⟩ := hinv
  exact ⟨rs, hrs⟩

end Drainprof
