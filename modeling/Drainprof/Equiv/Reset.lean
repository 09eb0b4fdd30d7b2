import Drainprof.Equiv.Alike
import Drainprof.Equiv.FailedCalls
import Drainprof.Equiv.LiveMap
import Drainprof.Equiv.RingProbe

/-!
# What a reset forgets

A production reset gives back the profiler as it was created.  A diagnostic reset clears the
counters and nothing else: open granules stay open and buffered reports stay buffered.  If there are
none of either, the profiler is like a new one.  Otherwise some call can tell, so that a reset
profiler behaves like a new one exactly when it had nothing else to forget
(`reset_behavesLike_iff`).
-/

namespace Drainprof

open Transition

/-! ### New profilers -/

section Create

variable {env env' : Env}

theorem slotArrayCreate_unique {capacity : UInt32} {arr arr' : SlotArray}
    (h : slotArrayCreate env capacity = some arr) (h' : slotArrayCreate env' capacity = some arr') :
    arr' = arr := by
  unfold slotArrayCreate at h h'
  split_ifs at h h'
  cases h
  cases h'
  rfl

theorem slotArrayDiagCreate_unique {capacity : UInt32} {arr arr' : SlotArrayDiag}
    (h : slotArrayDiagCreate env capacity = some arr)
    (h' : slotArrayDiagCreate env' capacity = some arr') : arr' = arr := by
  unfold slotArrayDiagCreate at h h'
  split_ifs at h h'
  cases h
  cases h'
  rfl

theorem reportBufferCreate_unique {capacity : UInt32} {buf buf' : ReportBuffer}
    (h : reportBufferCreate env capacity = some buf)
    (h' : reportBufferCreate env' capacity = some buf') : buf' = buf := by
  unfold reportBufferCreate at h h'
  split_ifs at h h'
  cases h
  cases h'
  rfl

/-- A new profiler is determined by its configuration. -/
theorem createWithConfig_unique {config : Config} {prof prof' : Profiler}
    (h : createWithConfig env config = some prof)
    (h' : createWithConfig env' config = some prof') : prof' = prof := by
  unfold createWithConfig at h h'
  by_cases hmalloc : (!env.succeeds .profMalloc) = true
  · rw [if_pos hmalloc] at h
    cases h
  by_cases hmalloc' : (!env'.succeeds .profMalloc) = true
  · rw [if_pos hmalloc'] at h'
    cases h'
  rw [if_neg hmalloc] at h
  rw [if_neg hmalloc'] at h'
  cases hmode : config.mode <;> cases hstorage : config.storage <;> rw [hmode, hstorage] at h h' <;>
    dsimp only at h h'
  · obtain ⟨arr, harr, rfl⟩ := Option.map_eq_some_iff.mp h
    obtain ⟨arr', harr', rfl⟩ := Option.map_eq_some_iff.mp h'
    rw [slotArrayCreate_unique harr harr']
  · cases h
  · cases harr : slotArrayDiagCreate env config.slotCapacity with
    | none => rw [harr] at h; cases h
    | some arr =>
      cases harr' : slotArrayDiagCreate env' config.slotCapacity with
      | none => rw [harr'] at h'; cases h'
      | some arr' =>
        rw [harr] at h
        rw [harr'] at h'
        dsimp only at h h'
        split_ifs at h h'
        · cases h
          cases h'
          rw [slotArrayDiagCreate_unique harr harr']
        · obtain ⟨buf, hbuf, rfl⟩ := Option.map_eq_some_iff.mp h
          obtain ⟨buf', hbuf', rfl⟩ := Option.map_eq_some_iff.mp h'
          rw [slotArrayDiagCreate_unique harr harr', reportBufferCreate_unique hbuf hbuf']
  · cases h

/-- The buffer of a new profiler is empty and starts at its first slot. -/
theorem createWithConfig_buffer_empty {config : Config} {prof : Profiler} {buf : ReportBuffer}
    (h : createWithConfig env config = some prof) (hbuf : prof.reportBuffer = some buf) :
    buf.count = 0 ∧ buf.tail = 0 := by
  have hempty : ∀ {capacity}, reportBufferCreate env capacity = some buf →
      buf.count = 0 ∧ buf.tail = 0 := by
    intro capacity hcreate
    unfold reportBufferCreate at hcreate
    split_ifs at hcreate
    cases hcreate
    exact ⟨rfl, rfl⟩
  cases hmode : config.mode with
  | production =>
    rw [(createWithConfig_production h hmode).2.2.1] at hbuf
    cases hbuf
  | diagnostic =>
    unfold createWithConfig at h
    by_cases hmalloc : (!env.succeeds .profMalloc) = true
    · rw [if_pos hmalloc] at h
      cases h
    rw [if_neg hmalloc, hmode] at h
    cases hstorage : config.storage with
    | hashMap => rw [hstorage] at h; cases h
    | slotArray =>
      rw [hstorage] at h
      dsimp only at h
      cases harr : slotArrayDiagCreate env config.slotCapacity with
      | none => rw [harr] at h; cases h
      | some arr =>
        rw [harr] at h
        dsimp only at h
        split_ifs at h
        · cases h
          cases hbuf
        · obtain ⟨buf', hcreate, rfl⟩ := Option.map_eq_some_iff.mp h
          cases hbuf
          exact hempty hcreate

end Create

/-! ### The profiler before the reset -/

/-- Without slots, a granule has no slot. -/
theorem diagSlotIndex_capacity {capacity : UInt32} {g : GranuleId} {i : Fin capacity.toNat}
    (h : diagSlotIndex capacity g = .ok i) : capacity ≠ 0 := by
  intro hzero
  unfold diagSlotIndex at h
  rw [dif_pos hzero] at h
  cases h

/-- Closing a granule leaves the report buffer alone or delivers a report into it. -/
theorem granuleClose_reportBuffer {env : Env} {prof prof' : Profiler} {g : GranuleId} {r : Int}
    {events : List Event} (hclose : granuleClose env prof g = .ok (r, prof', events)) :
    prof'.reportBuffer = prof.reportBuffer ∨ ∃ arr, prof.storage = .slotArrayDiag arr ∧
      arr.capacity ≠ 0 ∧ ∃ storage r p events,
        deliverReport { prof with storage := storage } r = .ok (p, events) ∧
        prof'.reportBuffer = p.reportBuffer := by
  cases hs : prof.storage with
  | slotArray arr =>
    rw [granuleClose, hs] at hclose
    dsimp only at hclose
    split_ifs at hclose <;> cases hclose <;> exact Or.inl rfl
  | slotArrayDiag arr =>
    obtain ⟨i, hi, ⟨-, -, rfl, -⟩ |
        ⟨d, -, -, ⟨-, -, hfinish⟩ | ⟨p, reported, -, hreport, -, rfl, -⟩⟩⟩ :=
      granuleClose_diag_returns hs hclose
    · exact Or.inl rfl
    · cases hfinish
      exact Or.inl rfl
    · obtain ⟨report, -, hreport⟩ := bind_eq_ok.mp hreport
      -- a pinned granule whose report cannot be allocated is closed without one
      cases report with
      | none =>
        cases hreport
        exact Or.inl rfl
      | some r =>
        obtain ⟨⟨p', events₁⟩, hdeliver, hreport⟩ := bind_eq_ok.mp hreport
        cases hreport
        exact Or.inr ⟨arr, rfl, diagSlotIndex_capacity hi, _, r, p, events₁, hdeliver, rfl⟩

/-- What a call may do to the report buffer: a pinned close delivers a report, and a drain drains. -/
theorem call_reportBuffer {prof prof' : Profiler} {i : Env × Call} {o : Outcome}
    (hcall : prof.call i = .ok (o, prof')) :
    prof'.reportBuffer = prof.reportBuffer ∨ ∃ arr, prof.storage = .slotArrayDiag arr ∧
      ((arr.capacity ≠ 0 ∧ ∃ storage r p events,
          deliverReport { prof with storage := storage } r = .ok (p, events) ∧
          prof'.reportBuffer = p.reportBuffer) ∨
        ∃ k out, drainReports prof k = .ok (out, prof')) := by
  obtain ⟨env, c⟩ := i
  cases returns_of_call hcall with
  | granuleOpen hopen => exact Or.inl (granuleOpen_reportBuffer hopen)
  | granuleClose hclose =>
    rcases granuleClose_reportBuffer hclose with hsame | ⟨arr, hs, hdelivered⟩
    · exact Or.inl hsame
    · exact Or.inr ⟨arr, hs, Or.inl hdelivered⟩
  | allocRegister hreg => exact Or.inl (allocRegisterLocated_reportBuffer hreg)
  | allocRegisterLocated hreg => exact Or.inl (allocRegisterLocated_reportBuffer hreg)
  | allocDeregister hdereg => exact Or.inl (allocDeregister_reportBuffer hdereg)
  | reset =>
    refine Or.inl ?_
    unfold reset
    split <;> rfl
  | drainReports hdrain =>
    cases hs : prof.storage with
    | slotArray arr =>
      rw [drainReports, hs] at hdrain
      cases hdrain
      exact Or.inl rfl
    | slotArrayDiag arr => exact Or.inr ⟨arr, rfl, Or.inr ⟨_, _, hdrain⟩⟩
  | _ => exact Or.inl rfl

/-- A production profiler never has a report buffer, and its capacity does not change. -/
theorem run_production {env : Env} {config : Config} {prof prof' : Profiler}
    (hcreate : createWithConfig env config = some prof) (hmode : config.mode = .production)
    {calls : List (Env × Call)} {os : List Outcome}
    (hrun : run Profiler.call prof calls = .ok (os, prof')) :
    prof'.reportBuffer = none ∧
      ∃ arr, prof'.storage = .slotArray arr ∧ arr.capacity = config.slotCapacity := by
  refine @run_invariant _ _ _ _ Profiler.call (fun p => p.reportBuffer = none ∧
    ∃ arr, p.storage = .slotArray arr ∧ arr.capacity = config.slotCapacity) (fun _ => True)
    ?_ _ _ _ _ ?_ (fun _ _ => trivial) hrun
  · rintro p ⟨env, c⟩ o p' ⟨hbuffer, arr, hs, hcap⟩ - hcall
    obtain ⟨arr', hs', hstep⟩ := call_slotArray_step hs hcall
    refine ⟨?_, arr', hs', hstep.capacity_eq.trans hcap⟩
    rcases call_reportBuffer hcall with hsame | ⟨arr₁, hs₁, -⟩
    · rw [hsame, hbuffer]
    · rw [hs] at hs₁
      cases hs₁
  · obtain ⟨-, -, hbuffer, arr, hs, harr⟩ := createWithConfig_production hcreate hmode
    exact ⟨hbuffer, arr, hs, (slotArrayCreate_represents harr).2⟩

/-- Draining an empty buffer leaves it as it is. -/
theorem reportBufferDrain_of_empty {buf : ReportBuffer} (hcount : buf.count = 0) (k : UInt32) :
    reportBufferDrain buf k = .ok ((0, []), buf) := by
  unfold reportBufferDrain
  by_cases hk : k = 0
  · rw [if_pos hk]
  · have hlt : (0 : UInt32) < k := by
      rw [UInt32.lt_iff_toNat_lt]
      exact Nat.pos_of_ne_zero fun h0 => hk (UInt32.toNat_inj.mp h0)
    obtain ⟨reports, capacity, count, head, tail⟩ := buf
    dsimp only at hcount
    rw [if_neg hk, hcount, if_pos hlt]
    dsimp only
    rw [show (0 : UInt32).toNat = 0 from rfl, reportBufferDrain.go, ok_bind]
    dsimp only
    rw [UInt32.sub_self]

/-- Without slots the report buffer stays as it was created. -/
theorem run_of_no_slots {env : Env} {config : Config} {prof prof' : Profiler}
    (hcreate : createWithConfig env config = some prof) (hmode : config.mode = .diagnostic)
    (hzero : config.slotCapacity = 0) {calls : List (Env × Call)} {os : List Outcome}
    (hrun : run Profiler.call prof calls = .ok (os, prof')) :
    prof'.reportBuffer = prof.reportBuffer := by
  refine (@run_invariant _ _ _ _ Profiler.call (fun p => p.reportBuffer = prof.reportBuffer ∧
    ∃ arr, p.storage = .slotArrayDiag arr ∧ arr.capacity = 0) (fun _ => True)
    ?_ _ _ _ _ ?_ (fun _ _ => trivial) hrun).1
  · rintro p i o p' ⟨hbuffer, arr, hs, hcap⟩ - hcall
    obtain ⟨arr', hs', hcap'⟩ := call_diag_capacity hs hcall
    refine ⟨?_, arr', hs', hcap'.trans hcap⟩
    rcases call_reportBuffer hcall with hsame | ⟨arr₁, hs₁, ⟨hne, -⟩ | ⟨k, out, hdrain⟩⟩
    · exact hsame.trans hbuffer
    · rw [hs] at hs₁
      cases hs₁
      exact absurd hcap hne
    · rw [drainReports, hs] at hdrain
      cases hbuf : p.reportBuffer with
      | none =>
        rw [hbuf] at hdrain
        cases hdrain
        exact hbuffer
      | some buf =>
        have hcount := (createWithConfig_buffer_empty hcreate (hbuffer.symm.trans hbuf)).1
        rw [hbuf] at hdrain
        dsimp only at hdrain
        rw [reportBufferDrain_of_empty hcount] at hdrain
        cases hdrain
        exact hbuf.symm.trans hbuffer
  · obtain ⟨-, -, -, arr, hs, hcap, -⟩ := createWithConfig_diag hcreate hmode
    exact ⟨rfl, arr, hs, hcap.trans hzero⟩

/-! ### After the reset -/

/-- A production reset leaves nothing of what was there. -/
theorem reset_production {env : Env} {config : Config} {prof prof' : Profiler}
    (hcreate : createWithConfig env config = some prof) (hmode : config.mode = .production)
    {calls : List (Env × Call)} {os : List Outcome}
    (hrun : run Profiler.call prof calls = .ok (os, prof')) : reset prof' = prof := by
  obtain ⟨hbuffer, arr', hs', hcap'⟩ := run_production hcreate hmode hrun
  obtain ⟨hconfig, hcounters, hbuffer₀, arr, hs, harr⟩ := createWithConfig_production hcreate hmode
  have hconfig' := run_config hrun
  have hcleared : arr'.cleared = arr := by
    unfold slotArrayCreate at harr
    split_ifs at harr
    cases harr
    obtain ⟨capacity, slots, hpos, hlength⟩ := arr'
    dsimp only at hcap'
    subst hcap'
    unfold SlotArray.cleared
    congr 1
    rw [List.map_const', hlength]
  unfold reset
  rw [hs']
  dsimp only
  rw [hbuffer, hconfig', ← hcounters, ← hbuffer₀]
  show ({ prof with storage := .slotArray arr'.cleared } : Profiler) = prof
  rw [hcleared, ← hs]

/-- Two diagnostic arrays of one capacity, all of whose slots are free, are equal. -/
theorem SlotArrayDiag.eq_of_free {arr arr' : SlotArrayDiag} (hcap : arr'.capacity = arr.capacity)
    (h : ∀ i, arr.slot i = DiagSlot.free) (h' : ∀ i, arr'.slot i = DiagSlot.free) : arr' = arr := by
  have hslots : ∀ a : SlotArrayDiag, (∀ i, a.slot i = DiagSlot.free) →
      a.slots = List.replicate a.capacity.toNat DiagSlot.free := by
    intro a ha
    refine List.eq_replicate_iff.mpr ⟨a.length_slots, ?_⟩
    intro s hs
    obtain ⟨i, hi, rfl⟩ := List.getElem_of_mem hs
    exact ha ⟨i, a.length_slots ▸ hi⟩
  have hs := hslots arr h
  have hs' := hslots arr' h'
  obtain ⟨capacity, slots, hlength⟩ := arr
  obtain ⟨capacity', slots', hlength'⟩ := arr'
  dsimp only at hcap hs hs'
  subst hcap hs hs'
  rfl

/-- No granule is open and no report is buffered, and if the indices of the buffer can wrap, it
starts at its first slot. -/
def Profiler.Idle (prof : Profiler) : Prop :=
  ∀ arr, prof.storage = .slotArrayDiag arr → (∀ i, (arr.slot i).occupied = false) ∧
    ∀ buf, prof.reportBuffer = some buf →
      buf.count = 0 ∧ (buf.capacity.toNat ≤ 2 ^ 31 ∨ buf.tail = 0)

section Reset

variable {env : Env} {config : Config} {prof prof' : Profiler} {calls : List (Env × Call)}
  {os : List Outcome}

theorem reset_of_diag {arr : SlotArrayDiag} (hs : prof.storage = .slotArrayDiag arr) :
    reset prof = { prof with counters := .zero } := by
  unfold reset
  rw [hs]

/-- A diagnostic reset of an idle profiler gives one that is like a new one. -/
theorem reset_diag_alike (hcreate : createWithConfig env config = some prof)
    (hmode : config.mode = .diagnostic) (hrun : run Profiler.call prof calls = .ok (os, prof'))
    (hidle : prof'.Idle) : (reset prof').Alike prof := by
  obtain ⟨hconfig, hcounters, hbuffers, arr, hs, hcap, hfree⟩ := createWithConfig_diag hcreate hmode
  obtain ⟨arr', hs', hcap'⟩ := run_diag_capacity hs hrun
  obtain ⟨rs, hrs⟩ := run_buffers hcreate hmode hrun
  obtain ⟨hempty, hbuffer⟩ := hidle arr' hs'
  have hconfig' := run_config hrun
  have htidy := run_tidy hcreate hrun arr' hs'
  have hfree' : ∀ i, arr'.slot i = DiagSlot.free := fun i => DiagSlot.eq_free (htidy i) (hempty i)
  rw [reset_of_diag hs']
  refine ⟨hconfig'.symm, hcounters, ?_, ?_⟩
  · show prof.storage = prof'.storage
    rw [hs, hs', SlotArrayDiag.eq_of_free hcap' hfree hfree']
  · show BuffersAlike prof'.reportBuffer prof.reportBuffer
    unfold Profiler.Buffers at hrs hbuffers
    rw [hconfig'] at hrs
    cases hcallback : prof.config.onPinning with
    | true =>
      rw [if_pos hcallback] at hrs hbuffers
      rw [hrs.1, hbuffers.1]
      exact .none
    | false =>
      rw [if_neg (by rw [hcallback]; simp)] at hrs hbuffers
      obtain ⟨buf', hbuf', hholds', hbufcap'⟩ := hrs
      obtain ⟨buf, hbuf, hholds, hbufcap⟩ := hbuffers
      obtain ⟨hcount, htail⟩ := hbuffer buf' hbuf'
      have hnil : rs = [] := by
        refine List.eq_nil_of_length_eq_zero ?_
        rw [← hholds'.count_eq, hcount]
        rfl
      rw [hnil] at hholds'
      rw [hbuf', hbuf]
      refine .some hholds' hholds (hbufcap.trans hbufcap'.symm) (htail.imp_right ?_)
      intro hzero
      rw [hzero, (createWithConfig_buffer_empty hcreate hbuf).2]

/-! ### Otherwise some call can tell -/

section Exact

variable {p q : Profiler} {arr arr' : SlotArrayDiag} {rs : List PinningReport}

/-- Profilers that behave alike return the same from one call. -/
theorem Profiler.BehavesLike.result_eq (h : p.BehavesLike q) (c : Call) (hc : c ≠ .reset)
    {o o' : Outcome} {p' q' : Profiler} (hp : p.call (Env.ample default, c) = .ok (o, p'))
    (hq : q.call (Env.ample default, c) = .ok (o', q')) : o.result.untimed = o'.result.untimed := by
  have hsingle : ∀ i ∈ [(Env.ample default, c)], i.1.Plentiful ∧ i.2 ≠ .reset := by
    intro i hi
    rw [List.mem_singleton.mp hi]
    exact ⟨Env.plentiful_ample _, hc⟩
  have hsame := h _ _ hsingle (fun i hi => (hsingle i hi).1) rfl
  rw [results_of_run (run_singleton_eq_ok.mpr ⟨o, hp, rfl⟩),
    results_of_run (run_singleton_eq_ok.mpr ⟨o', hq, rfl⟩), Except.ok.injEq] at hsame
  exact List.head_eq_of_cons_eq hsame

/-- A granule that is open cannot be opened again. -/
theorem Profiler.BehavesLike.slots_free {P : GranuleDiag → Prop} (h : p.BehavesLike q)
    (hp : p.storage = .slotArrayDiag arr) (hwf : arr.WF P) (hq : q.storage = .slotArrayDiag arr')
    (hcap : arr'.capacity ≠ 0) (hfree : ∀ i, arr'.slot i = DiagSlot.free) :
    ∀ i, arr.slot i = DiagSlot.free := by
  intro i
  cases hd : (arr.slot i).diag with
  | none => exact hwf.slot_eq_free hd
  | some d =>
    exfalso
    let env := Env.ample default
    have hhome : hwf.home d.granuleId = i := hwf.home_eq i d hd
    have hwf' : arr'.WF fun _ => True := SlotArrayDiag.wf_of_free hcap hfree
    have htaken : granuleOpen env p d.granuleId = .ok (-1, p) := by
      rcases granuleOpen_diag_cases hp hwf env d.granuleId with
        ⟨-, hopen⟩ | ⟨hnone, -⟩ | ⟨hnone, -⟩
      · exact hopen
      · rw [hhome, hd] at hnone
        cases hnone
      · rw [hhome, hd] at hnone
        cases hnone
    have hopened : ∃ q', granuleOpen env q d.granuleId = .ok (0, q') := by
      rcases granuleOpen_diag_cases hq hwf' env d.granuleId with
        ⟨⟨e, he⟩, -⟩ | ⟨-, hcreate, -⟩ | ⟨-, e, -, hopen⟩
      · rw [hfree] at he
        cases he
      · cases hcreate
      · exact ⟨_, hopen⟩
    obtain ⟨q', hopened⟩ := hopened
    have hsame := h.result_eq (.granuleOpen d.granuleId) nofun (call_granuleOpen htaken)
      (call_granuleOpen hopened)
    exact absurd hsame (by decide)

/-- A report that is buffered can be drained. -/
theorem Profiler.BehavesLike.buffers_nil (h : p.BehavesLike q) (hp : p.storage = .slotArrayDiag arr)
    (hrs : p.Buffers rs) (hq : q.storage = .slotArrayDiag arr') (hnil : q.Buffers []) : rs = [] := by
  obtain ⟨count, p', hdrain, hcount, -⟩ := drainReports_eq hp hrs 1
  obtain ⟨count', q', hdrain', hcount', -⟩ := drainReports_eq hq hnil 1
  have hcall : p.call (Env.ample default, .drainReports 1)
      = .ok (⟨.reports count ((rs.take (1 : UInt32).toNat).map some), []⟩, p') := by
    rw [Profiler.call, hdrain]
    rfl
  have hcall' : q.call (Env.ample default, .drainReports 1)
      = .ok (⟨.reports count' [], []⟩, q') := by
    rw [Profiler.call, hdrain']
    rfl
  have hsame := h.result_eq (.drainReports 1) (by decide) hcall hcall'
  have hcounts : count = count' := (Result.reports.inj hsame).1
  have hone : (1 : UInt32).toNat = 1 := rfl
  rw [hcounts, hcount', hone, List.length_nil] at hcount
  exact List.eq_nil_of_length_eq_zero (by omega)

end Exact

/-- A diagnostic profiler that behaves like a new one after a reset had nothing else to forget. -/
theorem idle_of_behavesLike (hcreate : createWithConfig env config = some prof)
    (hmode : config.mode = .diagnostic) (hrun : run Profiler.call prof calls = .ok (os, prof'))
    (h : (reset prof').BehavesLike prof) : prof'.Idle := by
  intro arr' hs'
  by_cases hzero : config.slotCapacity = 0
  · obtain ⟨-, -, -, arr, hs, hcap, -⟩ := createWithConfig_diag hcreate hmode
    obtain ⟨arr₁, hs₁, hcap₁⟩ := run_diag_capacity hs hrun
    rw [hs'] at hs₁
    cases hs₁
    have hnone : arr'.capacity.toNat = 0 := by
      rw [hcap₁, hcap, hzero]
      rfl
    refine ⟨fun i => absurd (lt_of_lt_of_eq i.isLt hnone) (Nat.not_lt_zero _), ?_⟩
    intro buf hbuf
    rw [run_of_no_slots hcreate hmode hzero hrun] at hbuf
    obtain ⟨hcount, htail⟩ := createWithConfig_buffer_empty hcreate hbuf
    exact ⟨hcount, Or.inr htail⟩
  · obtain ⟨hconfig, -, hbuffers, arr, hs, hcap, hfree⟩ := createWithConfig_diag hcreate hmode
    have hpos : 0 < config.slotCapacity.toNat :=
      Nat.pos_of_ne_zero fun h0 => hzero (UInt32.toNat_inj.mp h0)
    have hne : arr.capacity ≠ 0 := by
      rw [hcap]
      exact hzero
    obtain ⟨arr₁, hs₁, hcap₁, hwf⟩ := run_diag_wf hcreate hmode hpos hrun
    rw [hs'] at hs₁
    cases hs₁
    have hreset := reset_of_diag hs'
    rw [hreset] at h
    have hfree' := h.slots_free hs' hwf hs hne hfree
    obtain ⟨rs, hrs⟩ := run_buffers hcreate hmode hrun
    have hnil : rs = [] := h.buffers_nil hs' (hrs.of_eq rfl rfl) hs hbuffers
    refine ⟨fun i => by rw [hfree' i]; rfl, ?_⟩
    intro buf' hbuf'
    -- the buffer is that of a profiler without a callback, and it is empty
    have hconfig' := run_config hrun
    unfold Profiler.Buffers at hrs hbuffers
    rw [hconfig', hnil] at hrs
    cases hcallback : prof.config.onPinning with
    | true =>
      rw [if_pos hcallback, hbuf'] at hrs
      cases hrs.1
    | false =>
      rw [if_neg (by rw [hcallback]; simp)] at hrs hbuffers
      obtain ⟨buf₁, hbuf₁, hholds', hbufcap'⟩ := hrs
      obtain ⟨buf, hbuf, hholds, hbufcap⟩ := hbuffers
      rw [hbuf'] at hbuf₁
      cases hbuf₁
      refine ⟨UInt32.toNat_inj.mp hholds'.count_eq, ?_⟩
      by_contra hlarge
      obtain ⟨hlarge, htail⟩ := not_or.mp hlarge
      have hlt := hholds'.tail_lt (by omega)
      have htailpos : 0 < buf'.tail.toNat :=
        Nat.pos_of_ne_zero fun h0 => htail (UInt32.toNat_inj.mp h0)
      have hcaps : buf.capacity.toNat = buf'.capacity.toNat := by rw [hbufcap, hbufcap']
      have htail₀ : buf.tail.toNat = 0 := by
        rw [(createWithConfig_buffer_empty hcreate hbuf).2]
        rfl
      refine @not_behavesLike_of_tail _ _ buf'.capacity.toNat buf'.tail.toNat (show Profiler.Queues
          { prof' with counters := .zero } _ _ [] from
        ⟨?_, ⟨arr', hs', hwf.capacity_ne, hfree'⟩, buf', hbuf', hholds', rfl, rfl⟩)
        ⟨hcallback, ⟨arr, hs, hne, hfree⟩, buf, hbuf, hholds, hcaps, htail₀⟩ (by omega)
        buf'.capacity.toNat_lt htailpos hlt h
      show prof'.config.onPinning = false
      rw [hconfig', hcallback]

/-- **What a reset forgets.**  After any calls, a reset profiler behaves like a new one of its
configuration exactly when it had nothing else to forget. -/
theorem reset_behavesLike_iff {env' : Env} {fresh : Profiler}
    (hcreate : createWithConfig env config = some prof)
    (hrun : run Profiler.call prof calls = .ok (os, prof'))
    (hfresh : createWithConfig env' config = some fresh) :
    (reset prof').BehavesLike fresh ↔ prof'.Idle := by
  rw [createWithConfig_unique hcreate hfresh]
  cases hmode : config.mode with
  | production =>
    obtain ⟨-, arr, hs, -⟩ := run_production hcreate hmode hrun
    constructor
    · intro _ arr' hs'
      rw [hs] at hs'
      cases hs'
    · intro _ calls calls' hcalls hcalls' hsame
      rw [reset_production hcreate hmode hrun, Profiler.results, Profiler.results,
        outcomes_eq_of_same_calls prof (fun i hi => (hcalls i hi).1) hcalls' hsame]
  | diagnostic =>
    constructor
    · exact idle_of_behavesLike hcreate hmode hrun
    · exact fun hidle => (reset_diag_alike hcreate hmode hrun hidle).behavesLike

end Reset

/-- A granule that was open before the reset cannot be opened after it. -/
theorem reset_keeps_open :
    ¬∀ (env env' : Env) (config : Config) (prof prof' fresh : Profiler)
      (calls : List (Env × Call)) (os : List Outcome),
      createWithConfig env config = some prof → run Profiler.call prof calls = .ok (os, prof') →
      createWithConfig env' config = some fresh → (reset prof').BehavesLike fresh := by
  intro h
  let env := Env.ample default
  let prof := (createWithConfig env (smallConfig .diagnostic 1)).get rfl
  obtain ⟨⟨os, prof'⟩, hrun, hopen⟩ := exists_of_okAnd
    (show okAnd (run Profiler.call prof [(env, .granuleOpen 0)]) (fun r =>
      okAnd ((reset r.2).results [(env, .granuleOpen 0)]) fun rs => rs = [.int (-1)]) = true by decide)
  have hnew : prof.results [(env, .granuleOpen 0)] = .ok [.int 0] := rfl
  obtain ⟨rs, hrs, htaken⟩ := exists_of_okAnd hopen
  have hbehaves := h env env (smallConfig .diagnostic 1) prof prof' prof _ os rfl hrun rfl
  have hadm : ∀ i ∈ [(env, Call.granuleOpen 0)], i.1.Plentiful ∧ i.2 ≠ .reset := by
    intro i hi
    rw [List.mem_singleton.mp hi]
    exact ⟨Env.plentiful_ample _, nofun⟩
  have hsame := hbehaves _ _ hadm (fun i hi => (hadm i hi).1) rfl
  rw [hrs, hnew, Except.ok.injEq, of_decide_eq_true htaken] at hsame
  exact absurd hsame (by decide)

/-- One report, which was drained before the reset. -/
theorem reset_behavesLike_drained :
    ∃ prof os prof', createWithConfig (Env.ample default)
        { smallConfig .diagnostic 1 with maxBufferedReports := 2 } = some prof ∧
      run Profiler.call prof (turnBuffer 1) = .ok (os, prof') ∧
      prof'.counters.pinnedCloses = 1 ∧ (reset prof').BehavesLike prof := by
  let config := { smallConfig .diagnostic 1 with maxBufferedReports := 2 }
  let prof := (createWithConfig (Env.ample default) config).get rfl
  have hcreate : createWithConfig (Env.ample default) config = some prof := rfl
  have hrun : run Profiler.call prof (turnBuffer 1) = .ok (_, _) := rfl
  refine ⟨prof, _, _, hcreate, hrun, rfl, (reset_behavesLike_iff hcreate hrun hcreate).mpr ?_⟩
  intro arr hs
  cases hs
  refine ⟨by decide, ?_⟩
  intro buf hbuf
  cases hbuf
  exact ⟨by decide, Or.inl (by decide)⟩

end Drainprof
