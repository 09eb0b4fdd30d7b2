import Drainprof.Equiv.Alike
import Drainprof.Equiv.SummaryGroups

/-!
# Telling two report buffers apart

A report buffer of more than `2 ^ 31` slots is not read in order by the summary once its indices
wrap, and where they do depends on where the buffer starts.  Two profilers whose empty buffers start
at different slots are therefore told apart by a run that moves both, fills them with reports from
one line and a last report from another, and asks for a summary: it counts one site or two
(`not_behavesLike_of_tail`).
-/

namespace Drainprof

open Grouping Ring Transition

/-! ### Reports from a line -/

/-- The state of granule `0` with one live allocation, which was registered at a line. -/
def lineDiag (line : UInt32) : GranuleDiag where
  granuleId := 0
  liveCount := 1
  openTime := default
  allocs := some (⟨0, 0, default, ⟨0, line, 0⟩, 0, ⟨0, 0⟩, false⟩ ::
    List.replicate 63 AllocRecord.zero)
  allocCount := 1
  allocCapacity := 64
  lastFreedIndex := 0

theorem lineDiag_wf (line : UInt32) : (lineDiag line).WF where
  block := ⟨_, rfl, rfl⟩
  count_le := show 1 ≤ 64 by decide
  capacity := ⟨0, by decide, rfl⟩
  hint := Or.inr rfl
  live_eq := rfl

theorem lineDiag_created (line : UInt32) :
    ∃ d, granuleDiagCreate (Env.ample default) 0 default = some d ∧ d.granuleId = 0 ∧
      granuleDiagAddAlloc (Env.ample default) d 0 0 0 line default = .ok (0, lineDiag line) :=
  ⟨_, rfl, rfl, rfl⟩

/-- Its report. -/
def lineReport (line : UInt32) : PinningReport :=
  (lineDiag line).report default

/-- The calls that make the report. -/
def reportLine (line : UInt32) : List (Env × Call) :=
  [.granuleOpen 0, .allocRegisterLocated 0 0 0 0 line, .granuleClose 0].map
    fun c => (Env.ample default, c)

/-- The calls that move the start of an empty buffer `k` slots on. -/
def turnBuffer (k : ℕ) : List (Env × Call) :=
  (List.replicate k (reportLine 0 ++ [(Env.ample default, .drainReports 1)])).flatten

/-- The calls that add `n` reports from line `0`. -/
def fillBuffer (n : ℕ) : List (Env × Call) :=
  (List.replicate n (reportLine 0)).flatten

/-- No granule is open, and the buffer of `m` slots holds `rs` from slot `t` on. -/
structure Profiler.Queues (prof : Profiler) (m t : ℕ) (rs : List PinningReport) : Prop where
  callback : prof.config.onPinning = false
  slots : ∃ arr, prof.storage = .slotArrayDiag arr ∧ arr.capacity ≠ 0 ∧
    ∀ i, arr.slot i = DiagSlot.free
  buffer : ∃ buf, prof.reportBuffer = some buf ∧ buf.Holds rs ∧ buf.capacity.toNat = m ∧
    buf.tail.toNat = t

theorem SlotArrayDiag.find_setSlot (arr : SlotArrayDiag) (i : Fin arr.capacity.toNat)
    (d : GranuleDiag) :
    ((arr.setSlot i ⟨true, some d⟩).slot i).find d.granuleId = some d := by
  rw [arr.slot_setSlot_self, DiagSlot.find_eq_some_iff]
  exact ⟨rfl, rfl, rfl⟩

namespace Profiler.Queues

variable {prof : Profiler} {m t : ℕ} {rs : List PinningReport}

/-- A report from a line is added at the end. -/
theorem report (h : prof.Queues m t rs) (hroom : rs.length < m) (line : UInt32) :
    ∃ os prof', run Profiler.call prof (reportLine line) = .ok (os, prof') ∧
      prof'.Queues m t (rs ++ [lineReport line]) := by
  obtain ⟨arr, hs, hcap, hfree⟩ := h.slots
  obtain ⟨buf, hbuf, hholds, hm, ht⟩ := h.buffer
  obtain ⟨d, hcreate, hid, hadd⟩ := lineDiag_created line
  let env := Env.ample default
  have hwf : arr.WF fun _ => True := SlotArrayDiag.wf_of_free hcap hfree
  let i := hwf.home 0
  -- the granule is opened
  let opened : Profiler := { prof with
    counters := prof.counters.opened, storage := .slotArrayDiag (arr.setSlot i ⟨true, some d⟩) }
  have hopen : granuleOpen env prof 0 = .ok (0, opened) := by
    rcases granuleOpen_diag_cases hs hwf env 0 with ⟨⟨e, he⟩, -⟩ | ⟨-, hno, -⟩ | ⟨-, e, he, hopen⟩
    · rw [hfree] at he
      cases he
    · rw [show env.now = default from rfl, hcreate] at hno
      cases hno
    · rw [show env.now = default from rfl, hcreate] at he
      cases he
      exact hopen
  -- the allocation is registered
  have hwf₁ : (arr.setSlot i ⟨true, some d⟩).WF fun _ => True := hwf.write (by rw [hid]) trivial
  have hfind₁ := arr.find_setSlot i d
  rw [hid] at hfind₁
  let arr₂ := (arr.setSlot i ⟨true, some d⟩).setSlot i ⟨true, some (lineDiag line)⟩
  let registered : Profiler := { opened with
    counters := { opened.counters with totalAllocs := opened.counters.totalAllocs + 1 }
    storage := .slotArrayDiag arr₂ }
  have hregister : allocRegisterLocated env opened 0 0 0 0 line = .ok (0, registered) := by
    have hcall := @allocRegisterLocated_diag_of_find opened _ _ env 0 d 0 0 0 line rfl hwf₁ hfind₁
    rw [show env.now = default from rfl, hadd, ok_bind] at hcall
    exact hcall
  -- the granule is closed
  have hwf₂ : arr₂.WF fun _ => True := hwf₁.write rfl trivial
  have hfind₂ : (arr₂.slot i).find 0 = some (lineDiag line) :=
    (arr.setSlot i ⟨true, some d⟩).find_setSlot i (lineDiag line)
  have hpinned : (lineDiag line).liveCount ≠ 0 := show (1 : UInt32) ≠ 0 by decide
  obtain ⟨buf', hpush, hholds', hcap', htail'⟩ :=
    reportBufferPush_eq hholds (by omega) (lineReport line)
  rw [enqueue_of_room (by omega)] at hpush hholds' htail'
  let closed : Profiler := { registered with storage := .slotArrayDiag (arr₂.setSlot i ⟨false, none⟩) }
  have hdeliver : deliverReport closed (lineReport line)
      = .ok ({ closed with reportBuffer := some buf' }, []) := by
    have hno : ¬closed.config.onPinning = true := by
      show ¬prof.config.onPinning = true
      rw [h.callback]
      exact Bool.false_ne_true
    unfold deliverReport
    rw [if_neg hno, show closed.reportBuffer = some buf from hbuf]
    dsimp only
    rw [hpush]
    rfl
  have hclose : granuleClose env registered 0 = (do
      let r ← reportPinned env closed 0 (lineDiag line)
      .ok (0, (finishClose r.1 false).1, r.2 ++ (finishClose r.1 false).2)) :=
    @granuleClose_diag_of_pinned registered _ _ env 0 _ rfl hwf₂ hfind₂ (lineDiag_wf line) hpinned
  rw [reportPinned_eq (lineDiag_wf line) hpinned (Env.plentiful_ample _)] at hclose
  rw [show (lineDiag line).report env.now = lineReport line from rfl, hdeliver, ok_bind,
    ok_bind] at hclose
  refine ⟨_, _, run_cons_eq_ok.mpr ⟨_, _, _, call_granuleOpen hopen, run_cons_eq_ok.mpr ⟨_, _, _,
    call_allocRegisterLocated hregister, run_cons_eq_ok.mpr ⟨_, _, _, call_granuleClose hclose, rfl,
    rfl⟩, rfl⟩, rfl⟩, h.callback, ⟨_, rfl, hcap, ?_⟩, buf', rfl, hholds', ?_, ?_⟩
  · intro j
    by_cases hij : i = j
    · subst hij
      exact SlotArrayDiag.slot_setSlot_self ..
    · calc (arr₂.setSlot i ⟨false, none⟩).slot j = arr₂.slot j := arr₂.slot_setSlot_of_ne hij _
        _ = (arr.setSlot i ⟨true, some d⟩).slot j :=
          (arr.setSlot i ⟨true, some d⟩).slot_setSlot_of_ne hij _
        _ = arr.slot j := arr.slot_setSlot_of_ne hij _
        _ = DiagSlot.free := hfree j
  · rw [hcap']
    exact hm
  · rw [htail']
    show (buf.tail.toNat + 0) % buf.capacity.toNat = t
    rw [Nat.add_zero, hholds.tail_mod, ht]

/-- Draining one report moves the start of the buffer one slot on. -/
theorem drain {r : PinningReport} (h : prof.Queues m t (r :: rs)) :
    ∃ os prof', run Profiler.call prof [(Env.ample default, .drainReports 1)] = .ok (os, prof') ∧
      prof'.Queues m ((t + 1) % m) rs := by
  obtain ⟨arr, hs, hcap, hfree⟩ := h.slots
  obtain ⟨buf, hbuf, hholds, hm, ht⟩ := h.buffer
  obtain ⟨count, buf', hdrain, -, hholds', hcap', htail'⟩ := reportBufferDrain_eq hholds 1
  have hcall : prof.call (Env.ample default, .drainReports 1)
      = .ok (⟨.reports count [some r], []⟩, { prof with reportBuffer := some buf' }) := by
    rw [Profiler.call, drainReports, hs, hbuf]
    dsimp only
    rw [hdrain]
    rfl
  refine ⟨_, _, run_singleton_eq_ok.mpr ⟨_, hcall, rfl⟩, h.callback, ⟨arr, hs, hcap, hfree⟩, buf',
    rfl, hholds', ?_, ?_⟩
  · rw [hcap', hm]
  · have hmin : min (r :: rs).length (1 : UInt32).toNat = 1 :=
      min_eq_right (Nat.succ_le_of_lt (Nat.succ_pos _))
    rw [htail', hmin, hm, ht]

/-- An empty buffer is moved `k` slots on. -/
theorem turn (h : prof.Queues m t []) (ht : t < m) (k : ℕ) :
    ∃ os prof', run Profiler.call prof (turnBuffer k) = .ok (os, prof') ∧
      prof'.Queues m ((t + k) % m) [] := by
  refine @exists_run_replicate _ _ _ _ Profiler.call (fun k p => p.Queues m ((t + k) % m) []) _ k ?_
    prof (by rwa [Nat.add_zero, Nat.mod_eq_of_lt ht])
  intro j _ p hp
  obtain ⟨os₁, p₁, hrun₁, hp₁⟩ := hp.report (show 0 < m by omega) 0
  obtain ⟨os₂, p₂, hrun₂, hp₂⟩ := hp₁.drain
  refine ⟨os₁ ++ os₂, p₂, run_append_eq_ok.mpr ⟨os₁, p₁, os₂, hrun₁, hrun₂, rfl⟩, ?_⟩
  rwa [Nat.mod_add_mod, Nat.add_assoc] at hp₂

/-- An empty buffer is filled with `n` reports from line `0`. -/
theorem fill (h : prof.Queues m t []) {n : ℕ} (hn : n ≤ m) :
    ∃ os prof', run Profiler.call prof (fillBuffer n) = .ok (os, prof') ∧
      prof'.Queues m t (List.replicate n (lineReport 0)) := by
  refine @exists_run_replicate _ _ _ _ Profiler.call
    (fun k p => p.Queues m t (List.replicate k (lineReport 0))) _ n ?_ prof h
  intro k hk p hp
  have hroom : (List.replicate k (lineReport 0)).length < m := by
    rw [List.length_replicate]
    omega
  rw [List.replicate_succ']
  exact hp.report hroom 0

/-- The summary is that of the reports, as they are read in place. -/
theorem summary (h : prof.Queues m t rs) {s : Option DiagnosticSummary}
    (hs : summaryOfReports (Env.ample default) (readInPlace (2 ^ 32) m t rs) = .ok s) :
    run Profiler.call prof [(Env.ample default, .diagnosticSummaryCompute)]
      = .ok ([⟨.summary s, []⟩], prof) := by
  obtain ⟨arr, hstorage, -, -⟩ := h.slots
  obtain ⟨buf, hbuf, hholds, hm, ht⟩ := h.buffer
  refine run_singleton_eq_ok.mpr ⟨_, ?_, rfl⟩
  rw [Profiler.call, diagnosticSummaryCompute, hstorage, hbuf]
  dsimp only
  rw [diagnosticSummaryOfBuffer_eq hholds, hm, ht, hs]
  rfl

end Profiler.Queues

/-! ### Their summary -/

theorem lineReport_wf (line : UInt32) : (lineReport line).WF := rfl

/-- The reports from a list of lines have those lines for sites. -/
theorem keys_lineReports (lines : List UInt32) :
    (pinnings (lines.map lineReport)).map (fun pa => pa.allocSite.key)
      = lines.map (SiteKey.mk 0) := by
  induction lines with
  | nil => rfl
  | cons line lines ih => exact congrArg (List.cons (SiteKey.mk 0 line)) ih

/-- The summary of reports from a few lines counts the lines. -/
theorem summaryOfReports_lines {lines : List UInt32} {n : ℕ}
    (hn : ((lines.map (SiteKey.mk 0)).eraseDups).length = n) (hfew : n ≤ 2 ^ 31) :
    ∃ s, summaryOfReports (Env.ample default) (lines.map lineReport) = .ok (some s) ∧
      s.siteCount = UInt32.ofNat n := by
  have hwf : ∀ r ∈ lines.map lineReport, r.WF := by
    intro r hr
    obtain ⟨line, -, rfl⟩ := List.mem_map.mp hr
    exact lineReport_wf line
  have hnumber : siteNumber (lines.map lineReport) = n := by
    rw [siteNumber, keys_lineReports, hn]
  refine ⟨_, summaryOfReports_of_plentiful hwf (Env.plentiful_ample default) (by omega), ?_⟩
  rw [groupedSummary, length_siteTable, hnumber]

/-- Reports from line `0` only have one site. -/
theorem summaryOfReports_one (n : ℕ) :
    ∃ s, summaryOfReports (Env.ample default) (List.replicate (n + 1) (lineReport 0))
      = .ok (some s) ∧ s.siteCount = 1 := by
  rw [← List.map_replicate]
  refine summaryOfReports_lines ?_ (show 1 ≤ 2 ^ 31 by decide)
  rw [List.map_replicate, eraseDups_replicate, List.length_singleton]

/-- A last report from another line makes a second site. -/
theorem summaryOfReports_two (n : ℕ) :
    ∃ s, summaryOfReports (Env.ample default)
        (List.replicate (n + 1) (lineReport 0) ++ [lineReport 1]) = .ok (some s) ∧
      s.siteCount = 2 := by
  have hreports : List.replicate (n + 1) (lineReport 0) ++ [lineReport 1]
      = (List.replicate (n + 1) (0 : UInt32) ++ [1]).map lineReport := by
    rw [List.map_append, List.map_replicate, List.map_singleton]
  rw [hreports]
  refine summaryOfReports_lines ?_ (show 2 ≤ 2 ^ 31 by decide)
  have hother : SiteKey.mk 0 1 ∉ List.replicate (n + 1) (SiteKey.mk 0 0) := by
    intro hmem
    exact absurd (List.eq_of_mem_replicate hmem) (by decide)
  rw [List.map_append, List.map_replicate, List.map_singleton, eraseDups_concat_of_not_mem hother,
    eraseDups_replicate]
  rfl

/-! ### The run that tells where a buffer starts -/

/-- The calls that move an empty buffer `k` slots on, put `n` reports from line `0` and one from line
`1` into it, and ask for a summary. -/
def probeBuffer (k n : ℕ) : List (Env × Call) :=
  turnBuffer k ++ (fillBuffer n ++ (reportLine 1 ++
    [(Env.ample default, .diagnosticSummaryCompute)]))

theorem probeBuffer_admissible (k n : ℕ) :
    ∀ i ∈ probeBuffer k n, i.1.Plentiful ∧ i.2 ≠ .reset := by
  have hline : ∀ line, ∀ i ∈ reportLine line, i.1.Plentiful ∧ i.2 ≠ .reset := by
    intro line i hi
    obtain ⟨c, hc, rfl⟩ := List.mem_map.mp hi
    refine ⟨Env.plentiful_ample _, ?_⟩
    rintro rfl
    simp at hc
  have hsingle : ∀ c : Call, c ≠ .reset → ∀ i ∈ [(Env.ample default, c)],
      i.1.Plentiful ∧ i.2 ≠ .reset := by
    intro c hc i hi
    rw [List.mem_singleton.mp hi]
    exact ⟨Env.plentiful_ample _, hc⟩
  intro i hi
  rcases List.mem_append.mp hi with hturn | hi
  · obtain ⟨block, hblock, hmem⟩ := List.mem_flatten.mp hturn
    rw [List.eq_of_mem_replicate hblock] at hmem
    rcases List.mem_append.mp hmem with hmem | hmem
    · exact hline 0 i hmem
    · exact hsingle (.drainReports 1) nofun i hmem
  rcases List.mem_append.mp hi with hfill | hi
  · obtain ⟨block, hblock, hmem⟩ := List.mem_flatten.mp hfill
    rw [List.eq_of_mem_replicate hblock] at hmem
    exact hline 0 i hmem
  rcases List.mem_append.mp hi with hmem | hmem
  · exact hline 1 i hmem
  · exact hsingle .diagnosticSummaryCompute nofun i hmem

/-- The probe shows the summary of its reports, as they are read from the slot the buffer has been
moved to. -/
theorem Profiler.Queues.probe {prof : Profiler} {m t k n : ℕ} {s : Option DiagnosticSummary}
    (h : prof.Queues m t []) (ht : t < m) (hn : n < m)
    (hs : summaryOfReports (Env.ample default) (readInPlace (2 ^ 32) m ((t + k) % m)
      (List.replicate n (lineReport 0) ++ [lineReport 1])) = .ok s) :
    ∃ rs, prof.results (probeBuffer k n) = .ok (rs ++ [.summary s]) := by
  obtain ⟨os₁, p₁, hturn, hp₁⟩ := h.turn ht k
  obtain ⟨os₂, p₂, hfill, hp₂⟩ := hp₁.fill (Nat.le_of_lt hn)
  obtain ⟨os₃, p₃, hlast, hp₃⟩ := hp₂.report (by rw [List.length_replicate]; exact hn) 1
  have hsummary := hp₃.summary hs
  have hrun : run Profiler.call prof (probeBuffer k n)
      = .ok (os₁ ++ (os₂ ++ (os₃ ++ [⟨.summary s, []⟩])), p₃) :=
    run_append_eq_ok.mpr ⟨os₁, p₁, _, hturn, run_append_eq_ok.mpr ⟨os₂, p₂, _, hfill,
      run_append_eq_ok.mpr ⟨os₃, p₃, _, hlast, hsummary, rfl⟩, rfl⟩, rfl⟩
  refine ⟨(os₁ ++ (os₂ ++ os₃)).map fun o => o.result.untimed, ?_⟩
  rw [results_of_run hrun]
  simp only [List.map_append, List.append_assoc]
  rfl

/-- Where a large empty buffer starts shows. -/
theorem not_behavesLike_of_tail {p q : Profiler} {m t : ℕ} (hp : p.Queues m t [])
    (hq : q.Queues m 0 []) (hm : 2 ^ 31 < m) (hw : m < 2 ^ 32) (hpos : 0 < t) (ht : t < m) :
    ¬p.BehavesLike q := by
  intro hbehaves
  -- the first buffer is moved to its last slot
  let k := m - 1 - t
  have hmoved : (t + k) % m = m - 1 := by
    rw [show t + k = m - 1 by omega]
    exact Nat.mod_eq_of_lt (by omega)
  have hmoved' : (0 + k) % m = k := by
    rw [Nat.zero_add]
    exact Nat.mod_eq_of_lt (by omega)
  -- and filled until the index of the last report wraps to zero
  let n := 2 ^ 32 - m - 1
  have hlength : (List.replicate (n + 1 + 1) (lineReport 0)).length = n + 1 + 1 :=
    List.length_replicate
  obtain ⟨s, hs, hone⟩ := summaryOfReports_one (n + 1 + 1)
  obtain ⟨s', hs', htwo⟩ := summaryOfReports_two (n + 1)
  have hread : readInPlace (2 ^ 32) m ((t + k) % m)
      (List.replicate (n + 1 + 1) (lineReport 0) ++ [lineReport 1])
        = List.replicate (n + 1 + 1 + 1) (lineReport 0) := by
    rw [hmoved, readInPlace_concat (by rw [hlength]; omega) (by rw [hlength]; omega),
      List.getElem_replicate, ← List.replicate_succ']
  have hread' : readInPlace (2 ^ 32) m ((0 + k) % m)
      (List.replicate (n + 1 + 1) (lineReport 0) ++ [lineReport 1])
        = List.replicate (n + 1 + 1) (lineReport 0) ++ [lineReport 1] := by
    rw [hmoved']
    refine readInPlace_eq_self ?_
    rw [List.length_append, hlength, List.length_singleton]
    omega
  rw [← hread] at hs
  rw [← hread'] at hs'
  obtain ⟨rs, hresults⟩ := hp.probe ht (show n + 1 + 1 < m by omega) hs
  obtain ⟨rs', hresults'⟩ := hq.probe (by omega) (show n + 1 + 1 < m by omega) hs'
  have hadm := probeBuffer_admissible k (n + 1 + 1)
  have hsame := hbehaves _ _ hadm (fun i hi => (hadm i hi).1) rfl
  rw [hresults, hresults', Except.ok.injEq] at hsame
  have hlast := congrArg List.getLast? hsame
  rw [List.getLast?_concat, List.getLast?_concat, Option.some.injEq, Result.summary.injEq,
    Option.some.injEq] at hlast
  rw [hlast, htwo] at hone
  exact absurd hone (by decide)

end Drainprof
