import Drainprof.Equiv.SummaryGroups

/-!
# What the pinning counts count

A site's pinning count goes up when an allocation is booked whose granule is not the last one seen
at the site, which at first is the id `2 ^ 64 - 1`.  So it counts the changes along the granules of
the reports that have the site (`siteTable_pinningCount`), and it is the number of these reports,
however they are ordered, exactly when their granules are different and none is that id
(`summary_countsPins_iff`).
-/

namespace Drainprof

open Grouping

/-! ### Reports with a site -/

/-- An allocation from the site pins the granule of the report. -/
def PinningReport.pinsAt (r : PinningReport) (k : SiteKey) : Bool :=
  r.pinningAllocs.any fun pa => pa.allocSite.key = k

/-- The granules of the reports with an allocation from a site, in order. -/
def pinnedAt (rs : List PinningReport) (k : SiteKey) : List GranuleId :=
  (rs.filter fun r => r.pinsAt k).map PinningReport.granuleId

variable {rs rs' : List PinningReport} {k : SiteKey}

theorem length_pinnedAt (rs : List PinningReport) (k : SiteKey) :
    (pinnedAt rs k).length = rs.countP fun r => r.pinsAt k := by
  rw [pinnedAt, List.length_map, List.countP_eq_length_filter]

theorem length_pinnedAt_le (rs : List PinningReport) (k : SiteKey) :
    (pinnedAt rs k).length ≤ rs.length := by
  rw [pinnedAt, List.length_map]
  exact List.length_filter_le _ _

theorem pinnedAt_perm (h : rs'.Perm rs) (k : SiteKey) : (pinnedAt rs' k).Perm (pinnedAt rs k) :=
  (h.filter _).map _

/-- The bookings of a report at a site are as many as its allocations from there, and all on its
granule. -/
theorem PinningReport.pins_at (r : PinningReport) (k : SiteKey) :
    (r.pins.filter fun p => siteScheme.itemKey p = k).map Prod.fst
      = List.replicate (r.pinningAllocs.countP fun pa => pa.allocSite.key = k) r.granuleId := by
  rw [PinningReport.pins, List.filter_map, List.map_map, List.countP_eq_length_filter]
  exact List.map_const' ..

theorem PinningReport.countP_eq_zero_iff (r : PinningReport) (k : SiteKey) :
    (r.pinningAllocs.countP fun pa => pa.allocSite.key = k) = 0 ↔ ¬r.pinsAt k = true := by
  rw [List.countP_eq_zero, pinsAt, List.any_eq_true, not_exists]
  exact forall_congr' fun pa => not_and.symm

/-- The granules of the bookings at a site change as often as those of its reports. -/
theorem changes_pins (rs : List PinningReport) (k : SiteKey) (g : GranuleId) :
    changes g (((rs.flatMap PinningReport.pins).filter fun p => siteScheme.itemKey p = k).map
      Prod.fst) = changes g (pinnedAt rs k) := by
  induction rs generalizing g with
  | nil => rfl
  | cons r rs ih =>
    rw [List.flatMap_cons, List.filter_append, List.map_append, r.pins_at, pinnedAt,
      List.filter_cons]
    by_cases hpins : r.pinsAt k = true
    · -- the first booking of the report may be a change, the others are not
      have hpos : (r.pinningAllocs.countP fun pa => pa.allocSite.key = k) ≠ 0 :=
        fun h0 => (r.countP_eq_zero_iff k).mp h0 hpins
      obtain ⟨n, hn⟩ := Nat.exists_eq_succ_of_ne_zero hpos
      rw [hn, if_pos hpins, List.map_cons, changes_replicate_append, changes, changes, ih, pinnedAt]
    · rw [(r.countP_eq_zero_iff k).mpr hpins, if_neg hpins, List.replicate_zero, List.nil_append, ih,
        pinnedAt]

/-- The count of a row goes up with every change of the granule. -/
theorem foldl_update_pinningCount (ps : List (GranuleId × PinningAlloc)) (row : SiteRow) :
    (ps.foldl siteScheme.update row).1.pinningCount
      = row.1.pinningCount + UInt32.ofNat (changes row.2 (ps.map Prod.fst)) := by
  induction ps generalizing row with
  | nil => exact (UInt32.add_zero _).symm
  | cons p ps ih =>
    rw [List.foldl_cons, ih, List.map_cons, changes, UInt32.ofNat_add, ← UInt32.add_assoc]
    have hlast : (siteScheme.update row p).2 = p.1 := rfl
    have hcount : (siteScheme.update row p).1.pinningCount
        = row.1.pinningCount + UInt32.ofNat (if row.2 ≠ p.1 then 1 else 0) := by
      show (if row.2 ≠ p.1 then row.1.pinningCount + 1 else row.1.pinningCount) = _
      split_ifs
      · rfl
      · exact (UInt32.add_zero _).symm
    rw [hlast, hcount]

/-- **The pinning count of a site is the number of changes of the granule** along the reports that
have the site. -/
theorem siteTable_pinningCount {row : SiteRow} (h : row ∈ siteTable rs) (hlength : rs.length < 2 ^ 32) :
    row.1.pinningCount.toNat = changes uint64Max (pinnedAt rs row.1.site.key) := by
  obtain ⟨p, ps, hitems, hrow⟩ := (siteTable_grouped rs).exists_items h
  have hcount := foldl_update_pinningCount (p :: ps) (siteScheme.start p)
  have hchanges := changes_pins rs row.1.site.key uint64Max
  rw [show (fun p => decide (siteScheme.itemKey p = row.1.site.key))
    = fun p => decide (siteScheme.itemKey p = siteScheme.entryKey row) from rfl, hitems] at hchanges
  rw [← hrow] at hcount
  have hle := (changes_le_length uint64Max (pinnedAt rs row.1.site.key)).trans
    (length_pinnedAt_le rs _)
  rw [hcount, ← hchanges]
  show (0 + UInt32.ofNat (changes uint64Max _)).toNat = _
  rw [UInt32.zero_add]
  refine UInt32.toNat_ofNat_of_lt' ?_
  rw [hchanges]
  exact lt_of_le_of_lt hle hlength

/-! ### When the counts are right -/

/-- The profiler has buffered the reports, oldest first, and no index wraps when they are read in
place (which none does in a buffer of at most `2 ^ 31` slots). -/
structure Profiler.ReadsInOrder (prof : Profiler) (rs : List PinningReport) : Prop where
  storage : ∃ arr, prof.storage = .slotArrayDiag arr
  buffer : ∃ buf, prof.reportBuffer = some buf ∧ buf.Holds rs ∧
    buf.tail.toNat + rs.length ≤ 2 ^ 32

/-- The pinning counts of the summary are the numbers of reports that pin at the sites, whatever the
order of the reports. -/
structure DiagnosticSummary.CountsPins (s : DiagnosticSummary) (rs : List PinningReport) : Prop where
  counts : ∀ e ∈ s.sites, e.pinningCount.toNat = rs.countP fun r => r.pinsAt e.site.key
  bounds : ∀ e ∈ s.sites, 1 ≤ e.pinningCount ∧ e.pinningCount ≤ e.totalAllocs ∧
    e.pinningCount ≤ s.reportsAnalyzed
  permuted : ∀ (env : Env) (prof' : Profiler) (rs' : List PinningReport) (s' : DiagnosticSummary),
    rs'.Perm rs → prof'.ReadsInOrder rs' →
    prof'.call (env, .diagnosticSummaryCompute) = .ok (⟨.summary (some s'), []⟩, prof') →
    ∀ e ∈ s.sites, ∀ e' ∈ s'.sites, e'.site.key = e.site.key → e'.pinningCount = e.pinningCount

/-- The granules of the reports with the site are different, none has the largest id, and the 32-bit
total of the site has not wrapped below their number. -/
def CountedAt (rs : List PinningReport) (k : SiteKey) : Prop :=
  (pinnedAt rs k).Nodup ∧ uint64Max ∉ pinnedAt rs k ∧
    (pinnedAt rs k).length ≤ (pinningsAt rs k).length % 2 ^ 32

instance (rs : List PinningReport) (k : SiteKey) : Decidable (CountedAt rs k) :=
  inferInstanceAs (Decidable (_ ∧ _ ∧ _))

/-- A summary that is returned is that of the table. -/
theorem Profiler.ReadsInOrder.eq_groupedSummary {env : Env} {prof : Profiler}
    {s : DiagnosticSummary} (h : prof.ReadsInOrder rs) (hwf : ∀ r ∈ rs, r.WF)
    (hcall : prof.call (env, .diagnosticSummaryCompute) = .ok (⟨.summary (some s), []⟩, prof)) :
    s = groupedSummary rs ∧ siteNumber rs ≤ 2 ^ 31 := by
  obtain ⟨arr, hstorage⟩ := h.storage
  obtain ⟨buf, hbuf, hrs, hwrap⟩ := h.buffer
  rw [call_summary_eq_ok, diagnosticSummaryCompute_eq hstorage hbuf hrs hwrap] at hcall
  exact Drainprof.eq_groupedSummary hwf hcall

theorem Profiler.ReadsInOrder.length_lt {prof : Profiler} (h : prof.ReadsInOrder rs) :
    rs.length < 2 ^ 32 := by
  obtain ⟨buf, -, hrs, -⟩ := h.buffer
  exact lt_of_le_of_lt hrs.count_le buf.capacity.toNat_lt

/-- Any reports that fit in a buffer can be those of a profiler. -/
theorem Profiler.ofReports_readsInOrder (h : rs.length < 2 ^ 32) :
    (Profiler.ofReports rs).ReadsInOrder rs where
  storage := ⟨_, rfl⟩
  buffer := ⟨_, rfl, ReportBuffer.ofReports_holds h, by show 0 + rs.length ≤ 2 ^ 32; omega⟩

/-- A profiler of a permutation of the reports returns a summary, too. -/
theorem call_summary_of_perm (hperm : rs'.Perm rs) (hwf : ∀ r ∈ rs, r.WF)
    (hlength : rs.length < 2 ^ 32) (hfew : siteNumber rs ≤ 2 ^ 31) :
    (Profiler.ofReports rs').call (Env.ample default, .diagnosticSummaryCompute)
      = .ok (⟨.summary (some (groupedSummary rs')), []⟩, Profiler.ofReports rs') := by
  have hlength' : rs'.length < 2 ^ 32 := by rwa [hperm.length_eq]
  have hwf' : ∀ r ∈ rs', r.WF := fun r hr => hwf r (hperm.mem_iff.mp hr)
  have hnumber : siteNumber rs' = siteNumber rs :=
    length_eraseDups_of_perm ((hperm.flatMap_right _).map _)
  have hsummary : diagnosticSummaryCompute (Env.ample default) (Profiler.ofReports rs')
      = summaryOfReports (Env.ample default) rs' :=
    diagnosticSummaryCompute_eq rfl rfl (ReportBuffer.ofReports_holds hlength')
      (show 0 + rs'.length ≤ 2 ^ 32 by omega) _
  rw [call_summary_eq_ok, hsummary]
  exact summaryOfReports_of_plentiful hwf' (Env.plentiful_ample default) (by omega)

/-- The sites of the summary are those of the reports. -/
theorem exists_row_iff : (∃ row ∈ siteTable rs, row.1.site.key = k) ↔ pinnedAt rs k ≠ [] := by
  have hkeys := (siteTable_grouped rs).keys
  have hmem : (∃ row ∈ siteTable rs, row.1.site.key = k) ↔
      k ∈ (pinnings rs).map fun pa => pa.allocSite.key := by
    rw [← keys_pins, ← List.mem_eraseDups, ← hkeys, List.mem_map]
    rfl
  rw [hmem, pinnedAt, ne_eq, List.map_eq_nil_iff, List.filter_eq_nil_iff, pinnings]
  simp only [List.mem_map, List.mem_flatMap, PinningReport.pinsAt, List.any_eq_true, not_forall,
    not_not, decide_eq_true_eq, exists_prop]
  constructor
  · rintro ⟨pa, ⟨r, hr, hpa⟩, hkey⟩
    exact ⟨r, hr, pa, hpa, hkey⟩
  · rintro ⟨r, hr, pa, hpa, hkey⟩
    exact ⟨pa, ⟨r, hr, hpa⟩, hkey⟩

/-- Only the sites of the summary matter. -/
theorem forall_countedAt_iff :
    (∀ k, CountedAt rs k) ↔ ∀ row ∈ siteTable rs, CountedAt rs row.1.site.key := by
  constructor
  · intro h row _
    exact h _
  · intro h k
    by_cases hnone : pinnedAt rs k = []
    · rw [CountedAt, hnone]
      exact ⟨List.nodup_nil, List.not_mem_nil, Nat.zero_le _⟩
    · obtain ⟨row, hrow, rfl⟩ := exists_row_iff.mpr hnone
      exact h row hrow

/-- Different granules, none with the largest id, change the remembered one every time. -/
theorem changes_of_nodup (hnodup : (pinnedAt rs k).Nodup) (hmax : uint64Max ∉ pinnedAt rs k) :
    changes uint64Max (pinnedAt rs k) = (pinnedAt rs k).length := by
  have hpairs : (uint64Max :: pinnedAt rs k).Nodup := List.nodup_cons.mpr ⟨hmax, hnodup⟩
  exact changes_eq_length_iff.mpr hpairs.isChain

/-- If the granules always change in every order of the reports, they are different, and none has the
largest id. -/
theorem nodup_of_forall_perm
    (h : ∀ rs', List.Perm rs' rs →
      changes uint64Max (pinnedAt rs' k) = (pinnedAt rs' k).length) :
    (pinnedAt rs k).Nodup ∧ uint64Max ∉ pinnedAt rs k := by
  -- in descending order of the granules, equal ones are neighbours
  let le : PinningReport → PinningReport → Bool :=
    fun r r' => decide (r'.granuleId.toNat ≤ r.granuleId.toNat)
  have hperm : (rs.mergeSort le).Perm rs := List.mergeSort_perm rs le
  have hsorted : (rs.mergeSort le).Pairwise fun r r' => le r r' = true := by
    refine List.pairwise_mergeSort ?_ ?_ rs
    · intro a b c hab hbc
      simp only [le, decide_eq_true_eq] at *
      omega
    · intro a b
      simp only [le, Bool.or_eq_true, decide_eq_true_eq]
      omega
  have hpinned : (uint64Max :: pinnedAt (rs.mergeSort le) k).Pairwise
      fun g g' => g'.toNat ≤ g.toNat := by
    refine List.pairwise_cons.mpr ⟨?_, ?_⟩
    · intro g _
      have hlt := g.toNat_lt
      show g.toNat ≤ 2 ^ 64 - 1
      omega
    · refine List.pairwise_map.mpr ((hsorted.filter _).imp ?_)
      intro r r' hle
      exact of_decide_eq_true hle
  have hnodup := nodup_of_changes (fun h h' => UInt64.toNat_inj.mp (le_antisymm h' h)) hpinned
    (h _ hperm)
  obtain ⟨hmax, hnodup'⟩ := List.nodup_cons.mp hnodup
  have hpinnedPerm := pinnedAt_perm hperm k
  exact ⟨hpinnedPerm.nodup_iff.mp hnodup', fun hmem => hmax (hpinnedPerm.mem_iff.mpr hmem)⟩

/-- Each site of the summary counts the changes of its granules. -/
theorem groupedSummary_pinningCount (hlength : rs.length < 2 ^ 32) :
    ∀ e ∈ (groupedSummary rs).sites,
      e.pinningCount.toNat = changes uint64Max (pinnedAt rs e.site.key) ∧
      pinnedAt rs e.site.key ≠ [] ∧
      e.totalAllocs.toNat = (pinningsAt rs e.site.key).length % 2 ^ 32 := by
  intro e he
  obtain ⟨row, hrow, rfl⟩ := List.mem_map.mp he
  refine ⟨siteTable_pinningCount hrow hlength, exists_row_iff.mp ⟨row, hrow, rfl⟩, ?_⟩
  rw [(siteTable_totals hrow).1]
  exact UInt32.toNat_ofNat

/-- If the summary, and that of every permutation of the reports, counts the reports of every site,
then the granules of the reports make it do so. -/
theorem countedAt_of_countsPins {prof : Profiler} (hrs : prof.ReadsInOrder rs)
    (hwf : ∀ r ∈ rs, r.WF) (hfew : siteNumber rs ≤ 2 ^ 31)
    (h : (groupedSummary rs).CountsPins rs) : ∀ k, CountedAt rs k := by
  have hlength := hrs.length_lt
  have hentries := groupedSummary_pinningCount hlength
  refine forall_countedAt_iff.mpr ?_
  intro row hrow
  have he : row.1 ∈ (groupedSummary rs).sites := List.mem_map_of_mem hrow
  have hcount := h.counts row.1 he
  rw [← length_pinnedAt] at hcount
  obtain ⟨-, hnone, htotal⟩ := hentries row.1 he
  -- in every order of the reports, the granule changes with every one of them
  have hperm : ∀ rs', List.Perm rs' rs → changes uint64Max (pinnedAt rs' row.1.site.key)
      = (pinnedAt rs' row.1.site.key).length := by
    intro rs' hrs'
    have hlength' : rs'.length < 2 ^ 32 := by rwa [hrs'.length_eq]
    have hpinned := pinnedAt_perm hrs' row.1.site.key
    have hnone' : pinnedAt rs' row.1.site.key ≠ [] := by
      intro h0
      rw [h0] at hpinned
      exact hnone hpinned.nil_eq.symm
    obtain ⟨row', hrow', hkey⟩ := exists_row_iff.mpr hnone'
    have he' : row'.1 ∈ (groupedSummary rs').sites := List.mem_map_of_mem hrow'
    have hsame := h.permuted _ _ rs' _ hrs' (Profiler.ofReports_readsInOrder hlength')
      (call_summary_of_perm hrs' hwf hlength hfew) row.1 he row'.1 he' hkey
    obtain ⟨hcount', -, -⟩ := groupedSummary_pinningCount hlength' row'.1 he'
    rw [← hkey, ← hcount', hkey, hsame, hcount, hpinned.length_eq]
  obtain ⟨hnodup, hmax⟩ := nodup_of_forall_perm hperm
  refine ⟨hnodup, hmax, ?_⟩
  obtain ⟨-, hbound, -⟩ := h.bounds row.1 he
  rw [← htotal, ← hcount]
  exact UInt32.le_iff_toNat_le.mp hbound

/-- If the granules of the reports at every site are different ones, the summary counts the
reports. -/
theorem countsPins_of_countedAt {prof : Profiler} (hrs : prof.ReadsInOrder rs)
    (hwf : ∀ r ∈ rs, r.WF) (h : ∀ k, CountedAt rs k) : (groupedSummary rs).CountsPins rs := by
  have hlength := hrs.length_lt
  have hentries := groupedSummary_pinningCount hlength
  have hcounts : ∀ e ∈ (groupedSummary rs).sites,
      e.pinningCount.toNat = (pinnedAt rs e.site.key).length := by
    intro e he
    obtain ⟨hnodup, hmax, -⟩ := h e.site.key
    rw [(hentries e he).1, changes_of_nodup hnodup hmax]
  refine ⟨?_, ?_, ?_⟩
  · intro e he
    rw [hcounts e he, length_pinnedAt]
  · intro e he
    obtain ⟨-, hsome, htotal⟩ := hentries e he
    obtain ⟨-, -, hbound⟩ := h e.site.key
    have hpos := List.length_pos_of_ne_nil hsome
    have hle := length_pinnedAt_le rs e.site.key
    have hanalyzed : (groupedSummary rs).reportsAnalyzed.toNat = rs.length :=
      UInt32.toNat_ofNat_of_lt' hlength
    refine ⟨?_, ?_, ?_⟩
    · refine UInt32.le_iff_toNat_le.mpr ?_
      rw [hcounts e he]
      exact hpos
    · refine UInt32.le_iff_toNat_le.mpr ?_
      rw [hcounts e he, htotal]
      exact hbound
    · refine UInt32.le_iff_toNat_le.mpr ?_
      rw [hcounts e he, hanalyzed]
      exact hle
  · -- a permutation keeps the granules at a site different
    intro env' prof' rs' s' hperm hrs' hcall' e he e' he' hkey
    have hwf' : ∀ r ∈ rs', r.WF := fun r hr => hwf r (hperm.mem_iff.mp hr)
    have hlength' := hrs'.length_lt
    obtain ⟨rfl, -⟩ := hrs'.eq_groupedSummary hwf' hcall'
    have hpinned := pinnedAt_perm hperm e.site.key
    obtain ⟨hnodup, hmax, -⟩ := h e.site.key
    obtain ⟨hcount', -, -⟩ := groupedSummary_pinningCount hlength' e' he'
    apply UInt32.toNat_inj.mp
    rw [hkey, changes_of_nodup (hpinned.nodup_iff.mpr hnodup)
      (fun hmem => hmax (hpinned.mem_iff.mp hmem))] at hcount'
    rw [hcount', hcounts e he, hpinned.length_eq]

/-- **The pinning counts are right** exactly when, at every site, the reports are on different
granules, none of which has the largest id, and the site's total is not less than their number. -/
theorem summary_countsPins_iff {env : Env} {prof : Profiler} {s : DiagnosticSummary}
    (hrs : prof.ReadsInOrder rs) (hwf : ∀ r ∈ rs, r.WF)
    (hcall : prof.call (env, .diagnosticSummaryCompute) = .ok (⟨.summary (some s), []⟩, prof)) :
    s.CountsPins rs ↔ ∀ k, CountedAt rs k := by
  obtain ⟨rfl, hfew⟩ := hrs.eq_groupedSummary hwf hcall
  exact ⟨countedAt_of_countsPins hrs hwf hfew, countsPins_of_countedAt hrs hwf⟩

/-- The same granule id is reported twice at a site. -/
theorem summary_pinningCount_reused :
    ¬∀ (env : Env) (prof : Profiler) (rs : List PinningReport) (s : DiagnosticSummary),
      prof.ReadsInOrder rs → (∀ r ∈ rs, r.WF) →
      prof.call (env, .diagnosticSummaryCompute) = .ok (⟨.summary (some s), []⟩, prof) →
      ∀ e ∈ s.sites, e.pinningCount.toNat = rs.countP fun r => r.pinsAt e.site.key := by
  intro h
  have hcall := call_summary_of_perm (List.Perm.refl [linesReport 5 [1], linesReport 5 [1]])
    (by decide) (by decide) (by decide)
  have hcount := h _ _ _ _ (Profiler.ofReports_readsInOrder (by decide)) (by decide) hcall
  exact absurd hcount (by decide)

/-- Two granules at two sites, one of which both have. -/
theorem summary_countsPins_two :
    ∃ s, (Profiler.ofReports [linesReport 5 [0, 1, 0], linesReport 6 [1]]).call
        (Env.ample default, .diagnosticSummaryCompute) = .ok (⟨.summary (some s), []⟩,
          Profiler.ofReports [linesReport 5 [0, 1, 0], linesReport 6 [1]]) ∧
      s.CountsPins [linesReport 5 [0, 1, 0], linesReport 6 [1]] := by
  have hcall := call_summary_of_perm
    (List.Perm.refl [linesReport 5 [0, 1, 0], linesReport 6 [1]]) (by decide) (by decide) (by decide)
  refine ⟨_, hcall, (summary_countsPins_iff (Profiler.ofReports_readsInOrder (by decide)) (by decide)
    hcall).mpr (forall_countedAt_iff.mpr (by decide))⟩

end Drainprof
