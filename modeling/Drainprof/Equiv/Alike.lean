import Drainprof.Equiv.Clock
import Drainprof.Equiv.Diagnostic
import Drainprof.Equiv.Summary

/-!
# Profilers that behave alike

Two profilers are `Alike` if they are equal but for where their report buffers start.  This is a
bisimulation (`call_alike`), because a push, a drain and a summary depend only on the reports that
are buffered, as long as the summary reads both rings in the same order.  Since no call depends on
the clock either, the same calls have the same results on alike profilers, even if they are made at
other times (`Profiler.Alike.behavesLike`).
-/

namespace Drainprof

open Ring Transition

/-! ### Profilers that no call tells apart -/

/-- The two buffers hold the same reports, and are read in the same order in place. -/
inductive BuffersAlike : Option ReportBuffer → Option ReportBuffer → Prop
  | none : BuffersAlike none none
  | some {buf buf' rs} (holds : buf.Holds rs) (holds' : buf'.Holds rs)
      (hcap : buf'.capacity = buf.capacity)
      (htail : buf.capacity.toNat ≤ 2 ^ 31 ∨ buf'.tail = buf.tail) :
      BuffersAlike (some buf) (some buf')

/-- The two profilers are equal but for where their report buffers start. -/
structure Profiler.Alike (prof prof' : Profiler) : Prop where
  config_eq : prof'.config = prof.config
  counters_eq : prof'.counters = prof.counters
  storage_eq : prof'.storage = prof.storage
  buffers : BuffersAlike prof.reportBuffer prof'.reportBuffer

section Buffers

variable {buf buf' : ReportBuffer} {rs : List PinningReport}

/-- Moving both tails by the same distance keeps them equal. -/
theorem tail_eq_of_moved {b b' : ReportBuffer} {n : ℕ} (hcap : buf'.capacity = buf.capacity)
    (hb : b.capacity = buf.capacity)
    (htail : buf.capacity.toNat ≤ 2 ^ 31 ∨ buf'.tail = buf.tail)
    (h : b.tail.toNat = (buf.tail.toNat + n) % buf.capacity.toNat)
    (h' : b'.tail.toNat = (buf'.tail.toNat + n) % buf'.capacity.toNat) :
    b.capacity.toNat ≤ 2 ^ 31 ∨ b'.tail = b.tail := by
  rw [hb]
  refine htail.imp_right ?_
  intro heq
  apply UInt32.toNat_inj.mp
  rw [h, h', heq, hcap]

/-- Pushing the same report frees the same report, or faults alike. -/
theorem reportBufferPush_alike (holds : buf.Holds rs) (holds' : buf'.Holds rs)
    (hcap : buf'.capacity = buf.capacity)
    (htail : buf.capacity.toNat ≤ 2 ^ 31 ∨ buf'.tail = buf.tail) (r : PinningReport) :
    (∃ e, reportBufferPush buf r = .error e ∧ reportBufferPush buf' r = .error e) ∨
      ∃ freed b b', reportBufferPush buf r = .ok (freed, b) ∧
        reportBufferPush buf' r = .ok (freed, b') ∧ BuffersAlike (some b) (some b') := by
  rcases Nat.eq_zero_or_pos buf.capacity.toNat with hzero | hpos
  · exact Or.inl ⟨_, reportBufferPush_of_capacity_zero holds hzero r,
      reportBufferPush_of_capacity_zero holds' (by rw [hcap]; exact hzero) r⟩
  · obtain ⟨b, hpush, hb, hbcap, hbtail⟩ := reportBufferPush_eq holds hpos r
    obtain ⟨b', hpush', hb', hbcap', hbtail'⟩ :=
      reportBufferPush_eq holds' (by rw [hcap]; exact hpos) r
    have hmoved := @tail_eq_of_moved buf buf' b b' _ hcap hbcap htail hbtail (by
      rw [hbtail', hcap])
    rw [hcap] at hpush' hb'
    exact Or.inr ⟨_, b, b', hpush, hpush', .some hb hb' (hbcap'.trans (hcap.trans hbcap.symm)) hmoved⟩

/-- Draining hands over the same reports. -/
theorem reportBufferDrain_alike (holds : buf.Holds rs) (holds' : buf'.Holds rs)
    (hcap : buf'.capacity = buf.capacity)
    (htail : buf.capacity.toNat ≤ 2 ^ 31 ∨ buf'.tail = buf.tail) (k : UInt32) :
    ∃ out b b', reportBufferDrain buf k = .ok (out, b) ∧ reportBufferDrain buf' k = .ok (out, b') ∧
      BuffersAlike (some b) (some b') := by
  obtain ⟨count, b, hdrain, hcount, hb, hbcap, hbtail⟩ := reportBufferDrain_eq holds k
  obtain ⟨count', b', hdrain', hcount', hb', hbcap', hbtail'⟩ := reportBufferDrain_eq holds' k
  have hsame : count' = count := UInt32.toNat_inj.mp (by rw [hcount, hcount'])
  rw [hsame] at hdrain'
  have hmoved := tail_eq_of_moved hcap hbcap htail hbtail hbtail'
  exact ⟨_, b, b', hdrain, hdrain', .some hb hb' (hbcap'.trans (hcap.trans hbcap.symm)) hmoved⟩

/-- The summaries are equal. -/
theorem diagnosticSummaryOfBuffer_alike (holds : buf.Holds rs) (holds' : buf'.Holds rs)
    (hcap : buf'.capacity = buf.capacity)
    (htail : buf.capacity.toNat ≤ 2 ^ 31 ∨ buf'.tail = buf.tail) (env : Env) :
    diagnosticSummaryOfBuffer env buf' = diagnosticSummaryOfBuffer env buf := by
  rw [diagnosticSummaryOfBuffer_eq holds, diagnosticSummaryOfBuffer_eq holds', hcap]
  congr 1
  rcases htail with hsmall | htail
  · rcases Nat.eq_zero_or_pos buf.capacity.toNat with hzero | hpos
    · have hnil : rs = [] := List.eq_nil_of_length_eq_zero (by have := holds.count_le; omega)
      rw [hnil]
      rfl
    · have htail' := holds'.tail_lt (by rw [hcap]; exact hpos)
      rw [hcap] at htail'
      have htail := holds.tail_lt hpos
      have hle := holds.count_le
      rw [readInPlace_eq_self (by omega), readInPlace_eq_self (by omega)]
  · rw [htail]

end Buffers

/-! ### One call on two alike profilers -/

section Calls

variable {prof prof' : Profiler} {env : Env} {buf : Option ReportBuffer}

theorem Profiler.Alike.eq (h : prof.Alike prof') :
    prof' = { prof with reportBuffer := prof'.reportBuffer } := by
  obtain ⟨config, counters, storage, buffer⟩ := prof'
  obtain ⟨rfl, rfl, rfl, -⟩ := h
  rfl

/-- A call that does not look at the report buffer, and leaves it alone, does the same on both. -/
theorem matches_of_frame {c : Call} (hbuf : BuffersAlike prof.reportBuffer buf)
    (hframe : { prof with reportBuffer := buf : Profiler }.call (env, c)
      = (prof.call (env, c)).map (Prod.map id fun p => { p with reportBuffer := buf }))
    (hsame : ∀ {o p}, prof.call (env, c) = .ok (o, p) → p.reportBuffer = prof.reportBuffer) :
    Matches Profiler.Alike (prof.call (env, c))
      ({ prof with reportBuffer := buf : Profiler }.call (env, c)) := by
  rw [hframe]
  cases hcall : prof.call (env, c) with
  | error e => exact Or.inl ⟨e, rfl, rfl⟩
  | ok r =>
    obtain ⟨o, p⟩ := r
    refine Or.inr ⟨o, p, { p with reportBuffer := buf }, rfl, rfl, rfl, rfl, rfl, ?_⟩
    rw [hsame hcall]
    exact hbuf

theorem granuleOpen_frame (g : GranuleId) :
    granuleOpen env { prof with reportBuffer := buf } g
      = (granuleOpen env prof g).map (Prod.map id fun p => { p with reportBuffer := buf }) := by
  unfold granuleOpen
  rw [map_bind]
  congr 1
  funext opened
  rw [apply_ite (Except.map _)]
  rfl

theorem allocRegisterLocated_frame (g : GranuleId) (a : AllocId) (size : UInt64) (file : FilePtr)
    (line : UInt32) :
    allocRegisterLocated env { prof with reportBuffer := buf } g a size file line
      = (allocRegisterLocated env prof g a size file line).map
        (Prod.map id fun p => { p with reportBuffer := buf }) := by
  unfold allocRegisterLocated
  rw [map_bind]
  rfl

theorem allocDeregister_frame (g : GranuleId) (a : AllocId) :
    allocDeregister env { prof with reportBuffer := buf } g a
      = (allocDeregister env prof g a).map (Prod.map id fun p => { p with reportBuffer := buf }) := by
  unfold allocDeregister
  rw [map_bind]
  rfl

/-- A report is delivered in the same way. -/
theorem deliverReport_alike (h : prof.Alike prof') (r : PinningReport) :
    (∃ e, deliverReport prof r = .error e ∧ deliverReport prof' r = .error e) ∨
      ∃ p p' events, deliverReport prof r = .ok (p, events) ∧
        deliverReport prof' r = .ok (p', events) ∧ p.Alike p' := by
  obtain ⟨hconfig, hcounters, hstorage, hbuffers⟩ := id h
  unfold deliverReport
  rw [hconfig]
  by_cases hcallback : prof.config.onPinning = true
  · rw [if_pos hcallback, if_pos hcallback]
    exact Or.inr ⟨prof, prof', _, rfl, rfl, h⟩
  · rw [if_neg hcallback, if_neg hcallback]
    generalize hb : prof.reportBuffer = b at hbuffers
    generalize hb' : prof'.reportBuffer = b' at hbuffers
    cases hbuffers with
    | none => exact Or.inr ⟨prof, prof', _, rfl, rfl, h⟩
    | some holds holds' hcap htail =>
      dsimp only
      rcases reportBufferPush_alike holds holds' hcap htail r with ⟨e, hpush, hpush'⟩ |
        ⟨freed, b, b', hpush, hpush', halike⟩
      · rw [hpush, hpush']
        exact Or.inl ⟨e, rfl, rfl⟩
      · rw [hpush, hpush', ok_bind, ok_bind]
        exact Or.inr ⟨_, _, _, rfl, rfl, rfl, hcounters, hstorage, halike⟩

/-- A pinned granule is reported in the same way. -/
theorem reportPinned_alike (h : prof.Alike prof') (g : GranuleId) (d : GranuleDiag) :
    (∃ e, reportPinned env prof g d = .error e ∧ reportPinned env prof' g d = .error e) ∨
      ∃ p p' events, reportPinned env prof g d = .ok (p, events) ∧
        reportPinned env prof' g d = .ok (p', events) ∧ p.Alike p' := by
  unfold reportPinned
  cases granuleDiagGenerateReport env d env.now with
  | error e => exact Or.inl ⟨e, rfl, rfl⟩
  | ok report =>
    rw [ok_bind, ok_bind]
    cases report with
    | none =>
      refine Or.inr ⟨prof, prof', _, rfl, ?_, h⟩
      dsimp only
      rw [ok_bind, h.config_eq]
    | some r =>
      dsimp only
      rcases deliverReport_alike h r with ⟨e, hdeliver, hdeliver'⟩ |
        ⟨p, p', events, hdeliver, hdeliver', halike⟩
      · rw [hdeliver, hdeliver']
        exact Or.inl ⟨e, rfl, rfl⟩
      · rw [hdeliver, hdeliver', ok_bind, ok_bind, ok_bind, ok_bind]
        refine Or.inr ⟨p, p', _, rfl, ?_, halike⟩
        dsimp only
        rw [halike.config_eq]

/-- A close ends in the same way. -/
theorem finishClose_alike (h : prof.Alike prof') (drainable : Bool) :
    (finishClose prof' drainable).2 = (finishClose prof drainable).2 ∧
      (finishClose prof drainable).1.Alike (finishClose prof' drainable).1 := by
  obtain ⟨hconfig, hcounters, hstorage, hbuffers⟩ := h
  unfold finishClose
  rw [hconfig, hcounters]
  exact ⟨rfl, rfl, rfl, hstorage, hbuffers⟩

theorem granuleClose_alike (h : prof.Alike prof') (g : GranuleId) :
    (∃ e, granuleClose env prof g = .error e ∧ granuleClose env prof' g = .error e) ∨
      ∃ r p p' events, granuleClose env prof g = .ok (r, p, events) ∧
        granuleClose env prof' g = .ok (r, p', events) ∧ p.Alike p' := by
  have hstored : ∀ storage, { prof with storage := storage : Profiler }.Alike
      { prof' with storage := storage } :=
    fun storage => ⟨h.config_eq, h.counters_eq, rfl, h.buffers⟩
  unfold granuleClose
  rw [h.storage_eq]
  cases prof.storage with
  | slotArray arr =>
    dsimp only
    obtain ⟨hlog, halike⟩ := finishClose_alike (hstored (.slotArray (slotArrayClose arr g).2))
      (decide ((slotArrayClose arr g).1 = 0))
    split_ifs
    · exact Or.inr ⟨-1, _, _, [], rfl, rfl, hstored _⟩
    · exact Or.inr ⟨_, _, _, _, rfl, by rw [hlog], halike⟩
    · exact Or.inr ⟨_, _, _, _, rfl, by rw [hlog], halike⟩
  | slotArrayDiag arr =>
    dsimp only
    cases slotArrayDiagClose arr g with
    | error e => exact Or.inl ⟨e, rfl, rfl⟩
    | ok closed =>
      rw [ok_bind, ok_bind]
      cases closed with
      | none => exact Or.inr ⟨-1, prof, prof', [], rfl, rfl, h⟩
      | some closed =>
        obtain ⟨d, arr'⟩ := closed
        dsimp only
        -- the end of the close, after the report branch has left `p` and `p'`
        have hend : ∀ (r : Int) (p p' : Profiler) (events : List Event), p.Alike p' →
            (∃ e, (granuleDiagDestroy d >>= fun _ => .ok (r, (finishClose p (d.liveCount = 0)).1,
                events ++ (finishClose p (d.liveCount = 0)).2)) = .error e ∧
              (granuleDiagDestroy d >>= fun _ => .ok (r, (finishClose p' (d.liveCount = 0)).1,
                events ++ (finishClose p' (d.liveCount = 0)).2)) = .error e) ∨
            ∃ r' q q' events',
              (granuleDiagDestroy d >>= fun _ => .ok (r, (finishClose p (d.liveCount = 0)).1,
                events ++ (finishClose p (d.liveCount = 0)).2)) = .ok (r', q, events') ∧
              (granuleDiagDestroy d >>= fun _ => .ok (r, (finishClose p' (d.liveCount = 0)).1,
                events ++ (finishClose p' (d.liveCount = 0)).2)) = .ok (r', q', events') ∧
              q.Alike q' := by
          intro r p p' events hp
          obtain ⟨hlog, halike⟩ := finishClose_alike hp (decide (d.liveCount = 0))
          cases granuleDiagDestroy d with
          | error e => exact Or.inl ⟨e, rfl, rfl⟩
          | ok _ => exact Or.inr ⟨r, _, _, _, rfl, by rw [hlog]; rfl, halike⟩
        by_cases hzero : d.liveCount = 0
        · simp only [if_pos hzero, ok_bind]
          exact hend _ _ _ [] (hstored (.slotArrayDiag arr'))
        · simp only [if_neg hzero]
          rcases @reportPinned_alike _ _ env (hstored (.slotArrayDiag arr')) g d with
            ⟨e, hreport, hreport'⟩ | ⟨p, p', events, hreport, hreport', hp⟩
          · rw [hreport, hreport']
            exact Or.inl ⟨e, rfl, rfl⟩
          · rw [hreport, hreport', ok_bind, ok_bind]
            exact hend _ p p' events hp

/-- The reports drained are the same. -/
theorem drainReports_alike (h : prof.Alike prof') (k : UInt32) :
    ∃ out p p', drainReports prof k = .ok (out, p) ∧ drainReports prof' k = .ok (out, p') ∧
      p.Alike p' := by
  obtain ⟨hconfig, hcounters, hstorage, hbuffers⟩ := id h
  unfold drainReports
  rw [hstorage]
  generalize hs : prof.storage = storage at hstorage
  generalize hb : prof.reportBuffer = b at hbuffers
  generalize hb' : prof'.reportBuffer = b' at hbuffers
  cases storage with
  | slotArray arr => exact ⟨_, prof, prof', rfl, rfl, h⟩
  | slotArrayDiag arr =>
    cases hbuffers with
    | none => exact ⟨_, prof, prof', rfl, rfl, h⟩
    | some holds holds' hcap htail =>
      obtain ⟨out, b, b', hdrain, hdrain', halike⟩ := reportBufferDrain_alike holds holds' hcap htail k
      dsimp only
      rw [hdrain, hdrain', ok_bind, ok_bind]
      exact ⟨_, _, _, rfl, rfl, hconfig, hcounters, rfl, halike⟩

theorem diagnosticSummaryCompute_alike (h : prof.Alike prof') :
    diagnosticSummaryCompute env prof' = diagnosticSummaryCompute env prof := by
  obtain ⟨-, -, hstorage, hbuffers⟩ := h
  unfold diagnosticSummaryCompute
  rw [hstorage]
  generalize prof.reportBuffer = b at hbuffers
  generalize prof'.reportBuffer = b' at hbuffers
  cases prof.storage with
  | slotArray arr => rfl
  | slotArrayDiag arr =>
    cases hbuffers with
    | none => rfl
    | some holds holds' hcap htail => exact diagnosticSummaryOfBuffer_alike holds holds' hcap htail env

/-- Every call does the same on alike profilers, and leaves them alike. -/
theorem call_alike (h : prof.Alike prof') (i : Env × Call) :
    Matches Profiler.Alike (prof.call i) (prof'.call i) := by
  obtain ⟨env, c⟩ := i
  have hbuffers := h.buffers
  cases c with
  | granuleOpen g =>
    -- a call that works on the storage alone does the same whatever the buffer is
    rw [h.eq]
    refine matches_of_frame hbuffers ?_ ?_
    · rw [Profiler.call, Profiler.call, granuleOpen_frame, bind_map, map_bind]
      rfl
    · intro o p hcall
      obtain ⟨⟨r, p'⟩, hopen, heq⟩ := bind_eq_ok.mp hcall
      cases heq
      exact granuleOpen_reportBuffer hopen
  | granuleClose g =>
    rw [Profiler.call, Profiler.call]
    -- a close may put a report into the buffer
    rcases granuleClose_alike h g with ⟨e, hclose, hclose'⟩ | ⟨r, p, p', events, hclose, hclose', hp⟩
    · rw [hclose, hclose']
      exact Or.inl ⟨e, rfl, rfl⟩
    · rw [hclose, hclose', ok_bind, ok_bind]
      exact Or.inr ⟨_, p, p', rfl, rfl, hp⟩
  | allocRegister g a size =>
    rw [h.eq]
    refine matches_of_frame hbuffers ?_ ?_
    · rw [Profiler.call, Profiler.call, allocRegister, allocRegister, allocRegisterLocated_frame,
        bind_map, map_bind]
      rfl
    · intro o p hcall
      obtain ⟨⟨r, p'⟩, hreg, heq⟩ := bind_eq_ok.mp hcall
      cases heq
      exact allocRegisterLocated_reportBuffer hreg
  | allocRegisterLocated g a size file line =>
    rw [h.eq]
    refine matches_of_frame hbuffers ?_ ?_
    · rw [Profiler.call, Profiler.call, allocRegisterLocated_frame, bind_map, map_bind]
      rfl
    · intro o p hcall
      obtain ⟨⟨r, p'⟩, hreg, heq⟩ := bind_eq_ok.mp hcall
      cases heq
      exact allocRegisterLocated_reportBuffer hreg
  | allocDeregister g a =>
    rw [h.eq]
    refine matches_of_frame hbuffers ?_ ?_
    · rw [Profiler.call, Profiler.call, allocDeregister_frame, bind_map, map_bind]
      rfl
    · intro o p hcall
      obtain ⟨⟨r, p'⟩, hdereg, heq⟩ := bind_eq_ok.mp hcall
      cases heq
      exact allocDeregister_reportBuffer hdereg
  | snapshot =>
    refine Or.inr ⟨_, prof, prof', rfl, ?_, h⟩
    rw [Profiler.call, snapshot, snapshot, h.counters_eq]
  | sweep =>
    refine Or.inr ⟨_, prof, prof', rfl, ?_, h⟩
    rw [Profiler.call, sweep, sweep, h.counters_eq, h.storage_eq]
  | reset =>
    refine Or.inr ⟨_, reset prof, reset prof', rfl, rfl, ?_⟩
    -- a reset does not touch the buffer
    rw [h.eq, reset, reset]
    cases prof.storage <;> exact ⟨rfl, rfl, rfl, hbuffers⟩
  | drainReports k =>
    obtain ⟨out, p, p', hdrain, hdrain', hp⟩ := drainReports_alike h k
    rw [Profiler.call, Profiler.call, hdrain, hdrain', ok_bind, ok_bind]
    exact Or.inr ⟨_, p, p', rfl, rfl, hp⟩
  | diagnosticSummaryCompute =>
    rw [Profiler.call, Profiler.call, diagnosticSummaryCompute_alike h]
    cases diagnosticSummaryCompute env prof with
    | error e => exact Or.inl ⟨e, rfl, rfl⟩
    | ok s => exact Or.inr ⟨_, prof, prof', rfl, rfl, h⟩

end Calls

/-! ### What can be observed -/

/-- The outcomes of a sequence of calls, timestamps aside. -/
def Profiler.outcomes (prof : Profiler) (calls : List (Env × Call)) : Exec (List Outcome) :=
  (run Profiler.call prof calls).map fun r => r.1.map Outcome.untimed

/-- The results of a sequence of calls, timestamps aside. -/
def Profiler.results (prof : Profiler) (calls : List (Env × Call)) : Exec (List Result) :=
  (prof.outcomes calls).map (List.map Outcome.result)

/-- Made later, with memory to spare, the same calls have the same results on either profiler. -/
def Profiler.BehavesLike (prof prof' : Profiler) : Prop :=
  ∀ calls calls' : List (Env × Call), (∀ i ∈ calls, i.1.Plentiful ∧ i.2 ≠ .reset) →
    (∀ i ∈ calls', i.1.Plentiful) → calls.map Prod.snd = calls'.map Prod.snd →
    prof.results calls = prof'.results calls'

/-- At other times, the same calls have the same outcomes. -/
theorem outcomes_eq_of_same_calls (prof : Profiler) {calls calls' : List (Env × Call)}
    (hcalls : ∀ i ∈ calls, i.1.Plentiful) (hcalls' : ∀ i ∈ calls', i.1.Plentiful)
    (hsame : calls.map Prod.snd = calls'.map Prod.snd) :
    prof.outcomes calls = prof.outcomes calls' := by
  have hplain : ∀ calls : List (Env × Call), (∀ i ∈ calls, i.1.Plentiful) →
      calls.map (fun i => (i.1.untimed, i.2))
        = (calls.map Prod.snd).map fun c => (Env.ample ⟨0, 0⟩, c) := by
    intro calls h
    rw [List.map_map]
    refine List.map_congr_left ?_
    rintro ⟨env, c⟩ hi
    have hample : env.untimed = Env.ample ⟨0, 0⟩ := by
      rw [Env.untimed, Env.ample]
      congr 1
      funext r
      exact h _ hi r
    rw [Function.comp, hample]
  have houtcomes : ∀ calls : List (Env × Call), prof.outcomes calls
      = (run Profiler.call prof.untimed (calls.map fun i => (i.1.untimed, i.2))).map Prod.fst := by
    intro calls
    rw [run_untimed, Profiler.outcomes]
    cases run Profiler.call prof calls <;> rfl
  rw [houtcomes, houtcomes, hplain calls hcalls, hplain calls' hcalls', hsame]

/-- No sequence of calls tells alike profilers apart. -/
theorem Profiler.Alike.outcomes_eq {prof prof' : Profiler} (h : prof.Alike prof')
    (calls : List (Env × Call)) : prof.outcomes calls = prof'.outcomes calls := by
  have hmatches := @run_matches _ _ _ _ _ Profiler.call Profiler.call Profiler.Alike (fun _ => True)
    (fun h _ => call_alike h _) calls prof prof' h fun _ _ => trivial
  have houtputs := congrArg (Except.map (List.map Outcome.untimed)) hmatches.outputs_eq
  unfold Profiler.outcomes
  cases hrun : run Profiler.call prof calls <;> cases hrun' : run Profiler.call prof' calls <;>
    rw [hrun, hrun'] at houtputs <;> exact houtputs

theorem Profiler.Alike.behavesLike {prof prof' : Profiler} (h : prof.Alike prof') :
    prof.BehavesLike prof' := by
  intro calls calls' hcalls hcalls' hsame
  rw [Profiler.results, Profiler.results, h.outcomes_eq,
    outcomes_eq_of_same_calls prof' (fun i hi => (hcalls i hi).1) hcalls' hsame]

/-- The results of a run that succeeds are observed. -/
theorem results_of_run {prof prof' : Profiler} {calls : List (Env × Call)} {os : List Outcome}
    (hrun : run Profiler.call prof calls = .ok (os, prof')) :
    prof.results calls = .ok (os.map fun o => o.result.untimed) := by
  rw [Profiler.results, Profiler.outcomes, hrun]
  simp only [Except.map, List.map_map]
  rfl

end Drainprof
