import Drainprof.Profiler
import Drainprof.Equiv.SummaryTable

/-!
# The summary is a group-by

The entries of the summary are the sites of the buffered pinning allocations, each once and in the
order in which they first occur, with the number of its allocations and the sum of their sizes
(`DiagnosticSummary.Groups`).  With memory to spare a summary is returned exactly when there are at
most `2 ^ 31` sites (`summary_groups_iff`).
-/

namespace Drainprof

open Grouping Ring

/-! ### Entries and their allocations -/

/-- The pinning allocations of a list of reports, in order. -/
def pinnings (rs : List PinningReport) : List PinningAlloc :=
  rs.flatMap PinningReport.pinningAllocs

theorem map_pins (rs : List PinningReport) :
    (rs.flatMap PinningReport.pins).map Prod.snd = pinnings rs := by
  rw [pinnings, List.map_flatMap]
  congr 1
  funext r
  simp [PinningReport.pins]

theorem siteTable_grouped (rs : List PinningReport) :
    siteScheme.Grouped (rs.flatMap PinningReport.pins) (siteTable rs) := by
  have hfold := (Scheme.Grouped.nil (S := siteScheme)).foldl (rs.flatMap PinningReport.pins)
  rwa [List.nil_append] at hfold

/-- The totals of a row are the totals of the allocations booked there. -/
theorem foldl_update_totals (ps : List (GranuleId × PinningAlloc)) (row : SiteRow) :
    (ps.foldl siteScheme.update row).1.totalAllocs = row.1.totalAllocs + UInt32.ofNat ps.length ∧
    (ps.foldl siteScheme.update row).1.totalBytes
      = row.1.totalBytes + UInt64.ofNat (ps.map fun p => p.2.size.toNat).sum := by
  induction ps generalizing row with
  | nil => exact ⟨(UInt32.add_zero _).symm, (UInt64.add_zero _).symm⟩
  | cons p ps ih =>
    obtain ⟨hallocs, hbytes⟩ := ih (siteScheme.update row p)
    have hlength : UInt32.ofNat (p :: ps).length = 1 + UInt32.ofNat ps.length := by
      rw [List.length_cons, UInt32.ofNat_add, UInt32.add_comm]
      rfl
    rw [List.foldl_cons, hallocs, hbytes, hlength, List.map_cons, List.sum_cons, UInt64.ofNat_add,
      UInt64.ofNat_toNat, ← UInt32.add_assoc, ← UInt64.add_assoc]
    exact ⟨rfl, rfl⟩

/-- The allocations of a list of reports that come from a site. -/
def pinningsAt (rs : List PinningReport) (k : SiteKey) : List PinningAlloc :=
  (pinnings rs).filter fun pa => pa.allocSite.key = k

theorem map_filter_pins (rs : List PinningReport) (k : SiteKey) :
    ((rs.flatMap PinningReport.pins).filter fun p => siteScheme.itemKey p = k).map Prod.snd
      = pinningsAt rs k := by
  rw [pinningsAt, ← map_pins, List.filter_map]
  rfl

/-- What an entry of the summary says of its site. -/
theorem siteTable_totals {rs : List PinningReport} {row : SiteRow} (h : row ∈ siteTable rs) :
    row.1.totalAllocs = UInt32.ofNat (pinningsAt rs row.1.site.key).length ∧
    row.1.totalBytes.toNat
      = ((pinningsAt rs row.1.site.key).map fun pa => pa.size.toNat).sum % 2 ^ 64 := by
  obtain ⟨p, ps, hitems, hrow⟩ := (siteTable_grouped rs).exists_items h
  obtain ⟨hallocs, hbytes⟩ := foldl_update_totals (p :: ps) (siteScheme.start p)
  have hsnd := map_filter_pins rs row.1.site.key
  rw [show (fun p => decide (siteScheme.itemKey p = row.1.site.key))
    = fun p => decide (siteScheme.itemKey p = siteScheme.entryKey row) from rfl, hitems] at hsnd
  rw [← hrow] at hallocs hbytes
  constructor
  · rw [hallocs, ← hsnd, List.length_map]
    exact UInt32.zero_add _
  · rw [hbytes, ← hsnd, List.map_map]
    show (0 + _ : UInt64).toNat = _
    rw [UInt64.zero_add]
    exact UInt64.toNat_ofNat

/-- The summary is the list of reports grouped by site, in the order in which the sites first
occur. -/
structure DiagnosticSummary.Groups (s : DiagnosticSummary) (rs : List PinningReport) : Prop where
  sites : s.sites.map (fun e => e.site.key)
    = ((pinnings rs).map fun pa => pa.allocSite.key).eraseDups
  siteCount : s.siteCount.toNat = s.sites.length
  allocs : ∀ e ∈ s.sites, e.totalAllocs.toNat = (pinningsAt rs e.site.key).length
  bytes : ∀ e ∈ s.sites, e.totalBytes.toNat
    = ((pinningsAt rs e.site.key).map fun pa => pa.size.toNat).sum % 2 ^ 64
  sum_allocs : (s.sites.map fun e => e.totalAllocs.toNat).sum = s.totalPinningAllocs.toNat
  total : s.totalPinningAllocs.toNat = (rs.map fun r => r.pinningCount.toNat).sum
  analyzed : s.reportsAnalyzed.toNat = rs.length

/-- The number of different sites in a list of reports. -/
def siteNumber (rs : List PinningReport) : ℕ :=
  ((pinnings rs).map fun pa => pa.allocSite.key).eraseDups.length

theorem siteNumber_le (rs : List PinningReport) : siteNumber rs ≤ (pinnings rs).length := by
  have hle := length_eraseDups_le ((pinnings rs).map fun pa => pa.allocSite.key)
  rwa [List.length_map] at hle

theorem keys_pins (rs : List PinningReport) :
    (rs.flatMap PinningReport.pins).map siteScheme.itemKey
      = (pinnings rs).map fun pa => pa.allocSite.key := by
  rw [← map_pins, List.map_map]
  rfl

theorem length_siteTable (rs : List PinningReport) : (siteTable rs).length = siteNumber rs := by
  rw [(siteTable_grouped rs).length_eq, keys_pins, siteNumber]

/-- A summary that is returned is that of the table. -/
theorem eq_groupedSummary {rs : List PinningReport} (hwf : ∀ r ∈ rs, r.WF) {env : Env}
    {s : DiagnosticSummary} (h : summaryOfReports env rs = .ok (some s)) :
    s = groupedSummary rs ∧ siteNumber rs ≤ 2 ^ 31 := by
  rcases summaryOfReports_cases hwf env with ⟨hok, hfew⟩ | ⟨hnone, -⟩ | ⟨hfault, -⟩
  · rw [hok] at h
    cases h
    rw [length_siteTable] at hfew
    exact ⟨rfl, hfew⟩
  · rw [hnone] at h
    cases h
  · rw [hfault] at h
    cases h

/-- With memory to spare, a summary of at most `2 ^ 31` sites is returned. -/
theorem summaryOfReports_of_plentiful {rs : List PinningReport} (hwf : ∀ r ∈ rs, r.WF) {env : Env}
    (henv : env.Plentiful) (hfew : siteNumber rs ≤ 2 ^ 31) :
    summaryOfReports env rs = .ok (some (groupedSummary rs)) := by
  rcases summaryOfReports_cases hwf env with ⟨hok, -⟩ | ⟨-, r, hmem⟩ | ⟨-, hmany⟩
  · exact hok
  · rw [henv r] at hmem
    cases hmem
  · rw [length_siteTable] at hmany
    omega

theorem length_pinnings {rs : List PinningReport} (hwf : ∀ r ∈ rs, r.WF) :
    (pinnings rs).length = (rs.map fun r => r.pinningCount.toNat).sum := by
  rw [pinnings, List.length_flatMap]
  congr 1
  exact List.map_congr_left hwf

/-- As long as the totals fit in 32 bits, the summary of the table groups the reports. -/
theorem groupedSummary_groups {rs : List PinningReport} (hwf : ∀ r ∈ rs, r.WF)
    (htotal : (rs.map fun r => r.pinningCount.toNat).sum < 2 ^ 32) (hlength : rs.length < 2 ^ 32) :
    (groupedSummary rs).Groups rs := by
  have hgrouped := siteTable_grouped rs
  have hkeys : (groupedSummary rs).sites.map (fun e => e.site.key)
      = ((pinnings rs).map fun pa => pa.allocSite.key).eraseDups := by
    rw [← keys_pins, ← hgrouped.keys, groupedSummary, List.map_map]
    rfl
  have hnumber : (pinnings rs).length < 2 ^ 32 := by
    rw [length_pinnings hwf]
    exact htotal
  have hallocs : ∀ e ∈ (groupedSummary rs).sites,
      e.totalAllocs.toNat = (pinningsAt rs e.site.key).length := by
    intro e he
    obtain ⟨row, hrow, rfl⟩ := List.mem_map.mp he
    rw [(siteTable_totals hrow).1]
    refine UInt32.toNat_ofNat_of_lt' (lt_of_le_of_lt ?_ hnumber)
    exact List.length_filter_le _ _
  have htotal' : (groupedSummary rs).totalPinningAllocs.toNat
      = (rs.map fun r => r.pinningCount.toNat).sum :=
    UInt32.toNat_ofNat_of_lt' htotal
  refine ⟨hkeys, ?_, hallocs, ?_, ?_, htotal', UInt32.toNat_ofNat_of_lt' hlength⟩
  · rw [groupedSummary, List.length_map]
    refine UInt32.toNat_ofNat_of_lt' (lt_of_le_of_lt ?_ hnumber)
    rw [length_siteTable]
    exact siteNumber_le rs
  · intro e he
    obtain ⟨row, hrow, rfl⟩ := List.mem_map.mp he
    exact (siteTable_totals hrow).2
  · -- every allocation is counted at its site
    have hcount : (groupedSummary rs).sites.map (fun e => e.totalAllocs.toNat)
        = ((groupedSummary rs).sites.map fun e => e.site.key).map fun k =>
          ((pinnings rs).map fun pa => pa.allocSite.key).count k := by
      rw [List.map_map]
      refine List.map_congr_left ?_
      intro e he
      rw [hallocs e he, pinningsAt, Function.comp_apply, List.count, List.countP_map,
        List.countP_eq_length_filter]
      congr 2
    rw [hcount, hkeys, sum_count_eraseDups, List.length_map, htotal', length_pinnings hwf]

/-- Of a buffer that does not wrap its indices, the summary is that of the buffered reports. -/
theorem diagnosticSummaryCompute_eq {prof : Profiler} {arr : SlotArrayDiag} {buf : ReportBuffer}
    {rs : List PinningReport} (hstorage : prof.storage = .slotArrayDiag arr)
    (hbuf : prof.reportBuffer = some buf) (hrs : buf.Holds rs)
    (hwrap : buf.tail.toNat + rs.length ≤ 2 ^ 32) (env : Env) :
    diagnosticSummaryCompute env prof = summaryOfReports env rs := by
  have hread := readInPlace_eq_self (n := buf.capacity.toNat) hwrap
  rw [diagnosticSummaryCompute, hstorage, hbuf]
  dsimp only
  rw [diagnosticSummaryOfBuffer_eq hrs, hread]

theorem call_summary_eq_ok {prof : Profiler} {env : Env} {s : Option DiagnosticSummary} :
    prof.call (env, .diagnosticSummaryCompute) = .ok (⟨.summary s, []⟩, prof) ↔
      diagnosticSummaryCompute env prof = .ok s := by
  rw [Profiler.call, bind_eq_ok]
  constructor
  · rintro ⟨s', hs', hcall⟩
    rw [hs']
    simpa using hcall
  · intro hs
    exact ⟨s, hs, rfl⟩

/-- **The summary is the buffered reports grouped by site**, in a buffer of at most `2 ^ 31` slots
and with memory to spare, exactly when there are at most `2 ^ 31` sites. -/
theorem summary_groups_iff {env : Env} {prof : Profiler} {arr : SlotArrayDiag} {buf : ReportBuffer}
    {rs : List PinningReport} (henv : env.Plentiful) (hstorage : prof.storage = .slotArrayDiag arr)
    (hbuf : prof.reportBuffer = some buf) (hrs : buf.Holds rs) (hwf : ∀ r ∈ rs, r.WF)
    (hcap : buf.capacity.toNat ≤ 2 ^ 31)
    (htotal : (rs.map fun r => r.pinningCount.toNat).sum < 2 ^ 32) :
    (∃ s, prof.call (env, .diagnosticSummaryCompute) = .ok (⟨.summary (some s), []⟩, prof) ∧
      s.Groups rs) ↔ siteNumber rs ≤ 2 ^ 31 := by
  have hle := hrs.count_le
  have hwrap : buf.tail.toNat + rs.length ≤ 2 ^ 32 := by
    rcases Nat.eq_zero_or_pos buf.capacity.toNat with hzero | hpos
    · have htail := buf.tail.toNat_lt
      omega
    · have htail := hrs.tail_lt hpos
      omega
  have heq := diagnosticSummaryCompute_eq hstorage hbuf hrs hwrap env
  have hgroups := groupedSummary_groups hwf htotal (by omega)
  constructor
  · rintro ⟨s, hcall, -⟩
    rw [call_summary_eq_ok, heq] at hcall
    exact (eq_groupedSummary hwf hcall).2
  · intro hfew
    refine ⟨groupedSummary rs, ?_, hgroups⟩
    rw [call_summary_eq_ok, heq]
    exact summaryOfReports_of_plentiful hwf henv hfew

/-! ### Buffers of given reports -/

/-- The buffer that is full of the reports. -/
def ReportBuffer.ofReports (rs : List PinningReport) : ReportBuffer where
  reports := rs.map some
  capacity := UInt32.ofNat rs.length
  count := UInt32.ofNat rs.length
  head := 0
  tail := 0

theorem ReportBuffer.ofReports_holds {rs : List PinningReport} (h : rs.length < 2 ^ 32) :
    (ReportBuffer.ofReports rs).Holds rs := by
  have hlength : (UInt32.ofNat rs.length).toNat = rs.length := UInt32.toNat_ofNat_of_lt' h
  refine ⟨?_, hlength, hlength.ge, ?_, ?_, ?_⟩
  · rw [ofReports, List.length_map, hlength]
  · intro hpos
    exact hpos
  · show 0 = (0 + rs.length) % (UInt32.ofNat rs.length).toNat
    rw [hlength, Nat.zero_add, Nat.mod_self]
  · show contents (rs.map some) 0 rs.length = rs.map some
    rw [contents, List.rotate_zero, List.take_of_length_le (List.length_map _).le]

/-- A profiler without open granules whose buffer is full of the reports. -/
def Profiler.ofReports (rs : List PinningReport) : Profiler where
  config := smallConfig .diagnostic 1
  counters := .zero
  storage := .slotArrayDiag ⟨1, [.free], rfl⟩
  reportBuffer := some (.ofReports rs)

/-- The report on a granule with one live allocation of one byte from each of the lines. -/
def linesReport (g : GranuleId) (lines : List UInt32) : PinningReport where
  granuleId := g
  openTime := default
  closeTime := default
  pinningAllocs := lines.map fun line => ⟨0, ⟨0, line, 0⟩, default, 1, -1⟩
  pinningCount := UInt32.ofNat lines.length
  totalAllocs := UInt32.ofNat lines.length
  drainedAllocs := 0

theorem linesReport_wf {g : GranuleId} {lines : List UInt32} (h : lines.length < 2 ^ 32) :
    (linesReport g lines).WF := by
  show (lines.map _).length = (UInt32.ofNat lines.length).toNat
  rw [List.length_map, UInt32.toNat_ofNat_of_lt' h]

/-- The first `n` lines. -/
def firstLines (n : ℕ) : List UInt32 :=
  (List.range n).map UInt32.ofNat

theorem length_firstLines (n : ℕ) : (firstLines n).length = n := by
  rw [firstLines, List.length_map, List.length_range]

theorem nodup_firstLines {n : ℕ} (h : n ≤ 2 ^ 32) : (firstLines n).Nodup := by
  refine List.Nodup.map_on ?_ List.nodup_range
  intro i hi j hj hij
  have hi' := List.mem_range.mp hi
  have hj' := List.mem_range.mp hj
  have hval := congrArg UInt32.toNat hij
  rwa [UInt32.toNat_ofNat_of_lt' (by show i < 2 ^ 32; omega),
    UInt32.toNat_ofNat_of_lt' (by show j < 2 ^ 32; omega)] at hval

/-- Reports from different lines have as many sites as lines. -/
theorem siteNumber_linesReport {g g' : GranuleId} {lines lines' : List UInt32}
    (h : (lines ++ lines').Nodup) :
    siteNumber [linesReport g lines, linesReport g' lines'] = lines.length + lines'.length := by
  have hkeys : (pinnings [linesReport g lines, linesReport g' lines']).map (fun pa => pa.allocSite.key)
      = (lines ++ lines').map (SiteKey.mk 0) := by
    simp only [pinnings, linesReport, List.flatMap_cons, List.flatMap_nil, List.append_nil,
      List.map_append, List.map_map]
    rfl
  have hnodup : ((lines ++ lines').map (SiteKey.mk 0)).Nodup := by
    refine h.map ?_
    intro l l' hl
    exact congrArg SiteKey.line hl
  rw [siteNumber, hkeys, eraseDups_of_nodup hnodup, List.length_map, List.length_append]

/-- Two granules with live allocations from `2 ^ 31 + 1` lines: the site array is freed twice. -/
theorem summary_not_groups :
    ¬∀ (env : Env) (prof : Profiler) (arr : SlotArrayDiag) (buf : ReportBuffer)
      (rs : List PinningReport), env.Plentiful → prof.storage = .slotArrayDiag arr →
      prof.reportBuffer = some buf → buf.Holds rs → (∀ r ∈ rs, r.WF) →
      buf.capacity.toNat ≤ 2 ^ 31 → (rs.map fun r => r.pinningCount.toNat).sum < 2 ^ 32 →
      ∃ s, prof.call (env, .diagnosticSummaryCompute) = .ok (⟨.summary (some s), []⟩, prof) ∧
        s.Groups rs := by
  intro h
  let rs := [linesReport 5 (firstLines (2 ^ 31)), linesReport 6 [UInt32.ofNat (2 ^ 31)]]
  have hlength : (firstLines (2 ^ 31)).length < 2 ^ 32 := by
    rw [length_firstLines]
    decide
  have hwf : ∀ r ∈ rs, r.WF := by
    intro r hr
    rcases List.mem_pair.mp hr with rfl | rfl
    · exact linesReport_wf hlength
    · exact linesReport_wf (by decide)
  have hholds : (ReportBuffer.ofReports rs).Holds rs := ReportBuffer.ofReports_holds (by decide)
  have hfirst : (linesReport 5 (firstLines (2 ^ 31))).pinningCount.toNat = 2 ^ 31 := by
    show (UInt32.ofNat (firstLines (2 ^ 31)).length).toNat = 2 ^ 31
    rw [length_firstLines]
    decide
  have htotal : (rs.map fun r => r.pinningCount.toNat).sum < 2 ^ 32 := by
    have hsecond : (linesReport 6 [UInt32.ofNat (2 ^ 31)]).pinningCount.toNat = 1 := rfl
    simp only [rs, List.map_cons, List.map_nil, List.sum_cons, List.sum_nil, hfirst, hsecond]
    decide
  obtain ⟨s, hcall, -⟩ := h _ (Profiler.ofReports rs) _ _ rs (Env.plentiful_ample default) rfl rfl
    hholds hwf (by decide) htotal
  rw [call_summary_eq_ok, diagnosticSummaryCompute_eq rfl rfl hholds (by decide)] at hcall
  have hmany : siteNumber rs = 2 ^ 31 + 1 := by
    have hlines : firstLines (2 ^ 31) ++ [UInt32.ofNat (2 ^ 31)] = firstLines (2 ^ 31 + 1) := by
      rw [firstLines, firstLines, List.range_succ, List.map_append, List.map_singleton]
    rw [siteNumber_linesReport
      (by rw [hlines]; exact nodup_firstLines (by decide)), length_firstLines]
    rfl
  have hfew := (eq_groupedSummary hwf hcall).2
  omega

/-- Two granules with live allocations from two lines. -/
theorem summary_groups_two :
    ∃ s, (Profiler.ofReports [linesReport 5 [0, 1, 0], linesReport 6 [1]]).call
        (Env.ample default, .diagnosticSummaryCompute) = .ok (⟨.summary (some s), []⟩,
          Profiler.ofReports [linesReport 5 [0, 1, 0], linesReport 6 [1]]) ∧
      s.Groups [linesReport 5 [0, 1, 0], linesReport 6 [1]] := by
  exact (summary_groups_iff (Env.plentiful_ample default) rfl rfl
    (ReportBuffer.ofReports_holds (by decide)) (by decide) (by decide) (by decide)).mpr (by decide)

end Drainprof
