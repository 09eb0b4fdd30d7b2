import Mathlib.Order.Defs.PartialOrder
import Drainprof.Equiv.ReportLives
import Drainprof.Equiv.Safety

/-!
# The times in the reports

When the clock does not run backwards, the times in every report are in order: the granule was opened,
its live allocations were registered one after the other, the granule was closed.  The reports of a
run are made in the order of their close times, and a drain hands them over in that order
(`reports_chronological`).
-/

namespace Drainprof

open Transition

/-! ### Points in time -/

/-- Not later. -/
instance : LE Timespec :=
  ⟨fun a b => a.tvSec < b.tvSec ∨ a.tvSec = b.tvSec ∧ a.tvNsec ≤ b.tvNsec⟩

theorem Timespec.le_def {a b : Timespec} :
    a ≤ b ↔ a.tvSec < b.tvSec ∨ a.tvSec = b.tvSec ∧ a.tvNsec ≤ b.tvNsec := Iff.rfl

instance (a b : Timespec) : Decidable (a ≤ b) :=
  inferInstanceAs (Decidable (_ ∨ _ ∧ _))

instance : Preorder Timespec where
  le_refl a := Or.inr ⟨rfl, Int.le_refl _⟩
  le_trans a b c := by
    simp only [Timespec.le_def]
    omega

/-- The times in a report: the granule was opened, its pinning allocations were registered, it was
closed. -/
def PinningReport.times (r : PinningReport) : List Timespec :=
  r.openTime :: r.pinningAllocs.map PinningAlloc.allocTime ++ [r.closeTime]

/-- They are in order. -/
def PinningReport.Chronological (r : PinningReport) : Prop :=
  r.times.Pairwise (· ≤ ·)

instance (r : PinningReport) : Decidable r.Chronological :=
  inferInstanceAs (Decidable (List.Pairwise _ _))

/-! ### The times in a granule -/

namespace GranuleDiag

variable {d d' : GranuleDiag} {t u : Timespec} {env : Env}

/-- The times in the record of a granule. -/
def times (d : GranuleDiag) : List Timespec :=
  d.openTime :: d.records.map AllocRecord.allocTime

/-- They are in order, and none is later than `t`. -/
def Dated (t : Timespec) (d : GranuleDiag) : Prop :=
  (d.times ++ [t]).Pairwise (· ≤ ·)

theorem Dated.mono (h : d.Dated t) (htu : t ≤ u) : d.Dated u := by
  obtain ⟨hd, -, hle⟩ := List.pairwise_append.mp h
  refine List.pairwise_append.mpr ⟨hd, List.pairwise_singleton _ _, ?_⟩
  intro a ha b hb
  rw [List.mem_singleton.mp hb]
  exact le_trans (hle a ha t (List.mem_singleton_self t)) htu

theorem dated_of_created {id : GranuleId} (h : granuleDiagCreate env id t = some d) :
    d.Dated t := by
  obtain ⟨-, -, htime, hrecords⟩ := granuleDiagCreate_spec h
  rw [Dated, times, hrecords, htime]
  exact List.pairwise_pair.mpr (le_refl t)

/-- A registration adds its time at the end, and a free changes none of these times. -/
theorem Dated.step (h : d.Dated t) (hsound : d.Sound) (ht : t ≤ env.now) {op : DiagOp} {r : Int}
    (hstep : d.step (env, op) = .ok (r, d')) : d'.Dated env.now := by
  have hnow := h.mono ht
  rcases hsound with hwf | hlost
  · cases op with
    | addAlloc a size file line =>
      rcases granuleDiagAddAlloc_cases hwf env a size file line env.now with
        ⟨d₁, hadd, -, -, htime, hrecords, -⟩ | ⟨-, hadd⟩ | ⟨-, hadd⟩
      all_goals
        rw [GranuleDiag.step, hadd] at hstep
        cases hstep
      · have htimes : d'.times = d.times ++ [env.now] := by
          rw [times, times, htime, hrecords, List.map_append]
          rfl
        rw [Dated, htimes]
        refine List.pairwise_append.mpr ⟨hnow, List.pairwise_singleton _ _, ?_⟩
        intro a ha b hb
        rw [List.mem_singleton.mp hb]
        rcases List.mem_append.mp ha with ha | ha
        · exact (List.pairwise_append.mp hnow).2.2 a ha _ (List.mem_singleton_self _)
        · rw [List.mem_singleton.mp ha]
      · exact hnow
      · -- the records are gone
        have hnil : ({ d with allocs := none } : GranuleDiag).records = [] := List.take_nil
        have hsub : ({ d with allocs := none } : GranuleDiag).times.Sublist d.times := by
          rw [times, hnil]
          exact List.cons_sublist_cons.mpr (List.nil_sublist _)
        exact List.Pairwise.sublist (hsub.append_right _) hnow
    | markFreed a =>
      rcases granuleDiagMarkFreed_cases hwf a env.now with ⟨i, r, hi, -, hfreed⟩ | ⟨hfreed, -⟩
      all_goals
        rw [GranuleDiag.step, hfreed] at hstep
        cases hstep
      · have htimes : (d.freeAt i r env.now).times = d.times := by
          obtain ⟨hlt, rfl⟩ := List.getElem?_eq_some_iff.mp hi
          have hset : (d.records.map AllocRecord.allocTime).set i d.records[i].allocTime
              = d.records.map AllocRecord.allocTime := by
            have hself := @List.set_getElem_self _ (d.records.map AllocRecord.allocTime) i
              (by rwa [List.length_map])
            rwa [List.getElem_map] at hself
          rw [times, times, records_freeAt, List.map_set]
          exact congrArg (d.openTime :: ·) hset
        rw [Dated, htimes]
        exact hnow
      · exact hnow
  · rw [hlost.step] at hstep
    cases hstep

/-- A report that is made is the report of a granule whose records are there. -/
theorem Sound.report_eq (h : d.Sound) {r : PinningReport}
    (hreport : granuleDiagGenerateReport env d t = .ok (some r)) : d.WF ∧ r = d.report t := by
  by_cases hlive : d.liveCount = 0
  · rw [granuleDiagGenerateReport, if_pos hlive] at hreport
    cases hreport
  cases hmalloc : env.succeeds .reportMalloc with
  | false =>
    rw [granuleDiagGenerateReport, if_neg hlive, hmalloc] at hreport
    cases hreport
  | true =>
    cases hallocs : env.succeeds .pinningAllocsMalloc with
    | false =>
      rw [granuleDiagGenerateReport, if_neg hlive, hmalloc, hallocs] at hreport
      cases hreport
    | true =>
      rcases h with hwf | hlost
      · rw [granuleDiagGenerateReport_eq hwf hlive hmalloc hallocs] at hreport
        cases hreport
        exact ⟨hwf, rfl⟩
      · rw [granuleDiagGenerateReport, if_neg hlive, hmalloc, hallocs, hlost.count,
          show 2 ^ 31 = (2 ^ 31 - 1) + 1 from rfl, granuleDiagGenerateReport.go, hlost.allocs]
          at hreport
        cases hreport

/-- The report of a granule that is closed now. -/
theorem Dated.report (h : d.Dated t) (hsound : d.Sound) (ht : t ≤ env.now) {r : PinningReport}
    (hreport : granuleDiagGenerateReport env d env.now = .ok (some r)) :
    r.Chronological ∧ r.closeTime = env.now := by
  obtain ⟨-, rfl⟩ := hsound.report_eq hreport
  refine ⟨?_, rfl⟩
  -- the pinning allocations are some of the records, in their order
  have hlive : ((d.live.map AllocRecord.toPinning).map PinningAlloc.allocTime).Sublist
      (d.records.map AllocRecord.allocTime) := by
    rw [List.map_map]
    exact List.Sublist.map AllocRecord.allocTime List.filter_sublist
  exact List.Pairwise.sublist ((List.cons_sublist_cons.mpr hlive).append_right _) (h.mono ht)

end GranuleDiag

/-! ### The times in a run -/

/-- What a call keeps of the records of a diagnostic array: what holds of the new records, and is kept
by registrations and frees. -/
theorem SlotArrayDiag.Step.wf_of {P Q : GranuleDiag → Prop} {arr arr' : SlotArrayDiag} {env : Env}
    {c : Call} {r : Result} (h : arr.WF P) (hPQ : ∀ d, P d → Q d)
    (hcreate : ∀ g d, granuleDiagCreate env g env.now = some d → Q d)
    (hop : ∀ d op r d', P d → d.step (env, op) = .ok (r, d') → Q d')
    (hstep : arr.Step env c r arr') : arr'.WF Q := by
  have hQ : arr.WF Q :=
    ⟨h.capacity_ne, h.occupied_eq, h.home_eq, fun i d hd => hPQ d (h.diag i d hd)⟩
  have hhome : ∀ {g i}, diagSlotIndex arr.capacity g = .ok i → hQ.home g = i := by
    intro g i hi
    rw [diagSlotIndex_eq hQ.capacity_ne] at hi
    exact Except.ok.inj hi
  cases hstep with
  | keep => exact hQ
  | claim hi hocc hd =>
    obtain ⟨-, hid, -⟩ := granuleDiagCreate_spec hd
    exact hQ.write (by rw [hid]; exact hhome hi) (hcreate _ _ hd)
  | abort => exact hQ.clear _
  | release => exact hQ.clear _
  | register hc hi hfind hadd =>
    obtain ⟨hmem, hid⟩ := h.find_eq_some_iff.mp hfind
    exact hQ.write (by rw [(granuleDiagAddAlloc_outcome hadd).1, hid]; exact hhome hi)
      (hop _ (.addAlloc _ _ _ _) _ _ (h.diag _ _ hmem) hadd)
  | deregister hi hfind hfreed =>
    obtain ⟨hmem, hid⟩ := h.find_eq_some_iff.mp hfind
    exact hQ.write (by rw [(granuleDiagMarkFreed_outcome hfreed).1, hid]; exact hhome hi)
      (hop _ (.markFreed _) _ _ (h.diag _ _ hmem) hfreed)

/-- The records of the open granules are in order, and none is later than `t`. -/
def Profiler.Dated (t : Timespec) (prof : Profiler) : Prop :=
  ∃ arr, prof.storage = .slotArrayDiag arr ∧ arr.WF fun d => d.Sound ∧ d.Dated t

/-- A call no earlier than `t` makes its reports now, and their times are in order. -/
theorem Profiler.Dated.call {prof prof' : Profiler} {t : Timespec} {env : Env} {c : Call} {o : Outcome}
    (h : prof.Dated t) (ht : t ≤ env.now) (hcall : prof.call (env, c) = .ok (o, prof')) :
    prof'.Dated env.now ∧
      ((createdReports o.events = []) ∨ ∃ r, createdReports o.events = [r] ∧ r.Chronological ∧
        r.closeTime = env.now) := by
  obtain ⟨arr, hs, hwf⟩ := h
  refine ⟨?_, ?_⟩
  · obtain ⟨arr', hs', hstep⟩ := call_slotArrayDiag_step hs hcall
    refine ⟨arr', hs', hstep.wf_of hwf (fun d hd => ⟨hd.1, hd.2.mono ht⟩) ?_ ?_⟩
    · exact fun g d hd => ⟨granuleDiagCreate_sound hd, GranuleDiag.dated_of_created hd⟩
    · intro d op r d' hd hop
      exact ⟨((hd.1.step (env, op)).ok_post hop).1, hd.2.step hd.1 ht hop⟩
  · cases returns_of_call hcall with
    | granuleClose hclose =>
      rcases granuleClose_report_cases hs hclose with ⟨-, -, hcreated, -⟩ |
        ⟨i, d, storage, report, p, delivered, hfind, hreport, -, -, -, hcreated, -⟩
      · exact Or.inl hcreated
      · obtain ⟨hmem, -⟩ := hwf.find_eq_some_iff.mp hfind
        obtain ⟨hsound, hdated⟩ := hwf.diag i d hmem
        obtain ⟨hchron, hnow⟩ := hdated.report hsound ht hreport
        exact Or.inr ⟨report, hcreated, hchron, hnow⟩
    | _ => exact Or.inl rfl

/-- The reports a run makes, in order. -/
def reportsMade (os : List Outcome) : List PinningReport :=
  os.flatMap fun o => createdReports o.events

/-- Drains take some of the reports that leave, in order. -/
theorem drained_sublist (os : List Outcome) :
    (os.flatMap fun o => o.result.drained).Sublist (os.flatMap Outcome.departed) := by
  induction os with
  | nil => exact List.Sublist.refl _
  | cons o os ih =>
    rw [List.flatMap_cons, List.flatMap_cons]
    exact (List.sublist_append_right _ _).append ih

/-- A run no earlier than `t` with a clock that does not run backwards. -/
theorem Profiler.Dated.run {calls : List (Env × Call)} :
    ∀ {prof prof' : Profiler} {t : Timespec} {os : List Outcome}, prof.Dated t →
      (∀ i ∈ calls, t ≤ i.1.now) → calls.Pairwise (fun i j => i.1.now ≤ j.1.now) →
      run Profiler.call prof calls = .ok (os, prof') →
      (reportsMade os).Pairwise (fun r r' => r.closeTime ≤ r'.closeTime) ∧
        (∀ r ∈ reportsMade os, r.Chronological ∧ t ≤ r.closeTime) ∧
        ∀ e ∈ calls.zip os, ∀ r ∈ createdReports e.2.events, r.closeTime = e.1.1.now := by
  induction calls with
  | nil =>
    intro prof prof' t os _ _ _ hrun
    cases hrun
    refine ⟨List.Pairwise.nil, ?_, ?_⟩
    · intro r hr
      exact absurd hr List.not_mem_nil
    · intro e he
      exact absurd he List.not_mem_nil
  | cons i is ih =>
    intro prof prof' t os hdated hle hclock hrun
    obtain ⟨o, p, os', hcall, hrest, rfl⟩ := run_cons_eq_ok.mp hrun
    obtain ⟨hlater, hclock'⟩ := List.pairwise_cons.mp hclock
    have ht := hle i List.mem_cons_self
    obtain ⟨hdated', hmade⟩ := hdated.call ht hcall
    obtain ⟨hpairs, hall, hnow⟩ := ih hdated' hlater hclock' hrest
    have hcons : reportsMade (o :: os') = createdReports o.events ++ reportsMade os' :=
      List.flatMap_cons
    have hnew : ∀ r ∈ createdReports o.events, r.Chronological ∧ r.closeTime = i.1.now := by
      intro r hr
      rcases hmade with hnil | ⟨r', hone, hchron, hr'⟩
      · rw [hnil] at hr
        cases hr
      · rw [hone, List.mem_singleton] at hr
        rw [hr]
        exact ⟨hchron, hr'⟩
    rw [hcons]
    refine ⟨List.pairwise_append.mpr ⟨?_, hpairs, ?_⟩, ?_, ?_⟩
    · rcases hmade with hnil | ⟨r', hone, -, -⟩
      · rw [hnil]
        exact List.Pairwise.nil
      · rw [hone]
        exact List.pairwise_singleton _ _
    · intro r hr r' hr'
      rw [(hnew r hr).2]
      exact (hall r' hr').2
    · intro r hr
      rcases List.mem_append.mp hr with hr | hr
      · obtain ⟨hchron, hr⟩ := hnew r hr
        exact ⟨hchron, by rw [hr]; exact ht⟩
      · obtain ⟨hchron, hr⟩ := hall r hr
        exact ⟨hchron, le_trans ht hr⟩
    · intro e he r hr
      rw [List.zip_cons_cons] at he
      rcases List.mem_cons.mp he with rfl | he
      · exact (hnew r hr).2
      · exact hnow e he r hr

/-- **The reports are chronological.**  Let the clock not run backwards from one call to the next.
Whatever memory fails, the times in every report are in order, from the opening of its granule over the
registrations of its allocations to its close, which is the time of the call that made it; reports are
made in the order of their close times, and drains hand them over in that order. -/
theorem reports_chronological {env : Env} {config : Config} {prof prof' : Profiler}
    (hcreate : createWithConfig env config = some prof) (hmode : config.mode = .diagnostic)
    (hcap : 0 < config.slotCapacity.toNat) {calls : List (Env × Call)} {os : List Outcome}
    (hclock : calls.Pairwise fun i j => i.1.now ≤ j.1.now)
    (hrun : run Profiler.call prof calls = .ok (os, prof')) :
    (∀ e ∈ calls.zip os, ∀ r ∈ createdReports e.2.events,
        r.Chronological ∧ r.closeTime = e.1.1.now) ∧
      (reportsMade os).Pairwise (fun r r' => r.closeTime ≤ r'.closeTime) ∧
      ∃ rs : List PinningReport, os.flatMap (fun o => o.result.drained) = rs.map some ∧
        rs.Pairwise fun r r' => r.closeTime ≤ r'.closeTime := by
  obtain ⟨-, -, -, arr, hs, hcapacity, hfree⟩ := createWithConfig_diag hcreate hmode
  have hne : arr.capacity ≠ 0 := by
    rintro h0
    rw [← hcapacity, h0] at hcap
    exact absurd hcap (by decide)
  have hdated : ∀ t, prof.Dated t := fun t => ⟨arr, hs, SlotArrayDiag.wf_of_free hne hfree⟩
  -- the clock at the first call, if there is one
  obtain ⟨t, ht⟩ : ∃ t : Timespec, ∀ i ∈ calls, t ≤ i.1.now := by
    cases calls with
    | nil => exact ⟨default, fun i hi => absurd hi List.not_mem_nil⟩
    | cons i is =>
      refine ⟨i.1.now, ?_⟩
      intro j hj
      rcases List.mem_cons.mp hj with rfl | hj
      · exact le_refl _
      · exact (List.pairwise_cons.mp hclock).1 j hj
  obtain ⟨hpairs, hall, hnow⟩ := (hdated t).run ht hclock hrun
  refine ⟨?_, hpairs, ?_⟩
  · intro e he r hr
    refine ⟨(hall r ?_).1, hnow e he r hr⟩
    exact List.mem_flatMap.mpr ⟨e.2, (List.of_mem_zip he).2, hr⟩
  · -- what is drained is a part of what leaves, which is a part of what is made
    obtain ⟨-, -, rs, -, hqueue⟩ := run_queue hcreate hmode hrun
    have hmade : os.flatMap (fun o => (createdReports o.events).map some)
        = (reportsMade os).map some := by
      rw [reportsMade, List.map_flatMap]
    have hdrained : (os.flatMap fun o => o.result.drained).Sublist ((reportsMade os).map some) := by
      rw [← hmade, hqueue]
      exact (drained_sublist os).trans (List.sublist_append_left _ _)
    obtain ⟨rs, hsub, heq⟩ := List.sublist_map_iff.mp hdrained
    exact ⟨rs, heq, List.Pairwise.sublist hsub hpairs⟩

/-- Two slots, and room for two reports. -/
def timedConfig : Config :=
  { smallConfig .diagnostic 2 with maxBufferedReports := 2 }

/-- The times of `timedRun` are counted in seconds: the granule opened first is closed last. -/
def timedRun : List (Env × Call) :=
  [(1, .granuleOpen 0), (2, .granuleOpen 1), (3, .allocRegister 0 7 64), (3, .allocRegister 1 8 64),
    (5, .granuleClose 1), (5, .allocRegister 0 9 64), (6, .allocDeregister 0 7), (8, .granuleClose 0),
    (9, .drainReports 2)].map fun c => (Env.ample ⟨c.1, 0⟩, c.2)

/-- The report of the granule that was closed first comes first. -/
theorem reports_chronological_nested :
    ∃ prof prof' os, createWithConfig (Env.ample default) timedConfig = some prof ∧
      run Profiler.call prof timedRun = .ok (os, prof') ∧
      (reportsMade os).map (fun r => r.times.map Timespec.tvSec) = [[2, 3, 5], [1, 5, 8]] ∧
      ∃ rs : List PinningReport, os.flatMap (fun o => o.result.drained) = rs.map some ∧
        rs.length = 2 ∧ rs.Pairwise fun r r' => r.closeTime ≤ r'.closeTime := by
  let prof := (createWithConfig (Env.ample default) timedConfig).get rfl
  have hcreate : createWithConfig (Env.ample default) timedConfig = some prof := rfl
  obtain ⟨⟨os, prof'⟩, hrun, htimes⟩ := exists_of_okAnd
    (show okAnd (run Profiler.call prof timedRun) (fun r =>
      (reportsMade r.1).map (fun r => r.times.map Timespec.tvSec) = [[2, 3, 5], [1, 5, 8]] ∧
        (r.1.flatMap fun o => o.result.drained).length = 2) = true by decide)
  obtain ⟨htimes, hlength⟩ := of_decide_eq_true htimes
  obtain ⟨-, -, rs, heq, hpairs⟩ := reports_chronological hcreate rfl (by decide)
    (show timedRun.Pairwise (fun i j => i.1.now ≤ j.1.now) by decide) hrun
  refine ⟨prof, prof', os, hcreate, hrun, htimes, rs, heq, ?_, hpairs⟩
  rw [heq, List.length_map] at hlength
  exact hlength

end Drainprof
