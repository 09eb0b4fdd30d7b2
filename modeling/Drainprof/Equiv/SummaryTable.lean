import Drainprof.Equiv.Summary
import Drainprof.Library.Grouping

/-!
# The table of the summary

The summary books every pinning allocation of every buffered report under its site.  The two arrays
it keeps, the site entries and the last granule seen at each site, are the two columns of one table
(`SummaryState.Rows`), and a booking is the booking of a grouping by file and line
(`summaryAddAlloc_cases`).  So the summary is that of the table of the allocations grouped by site,
unless memory runs out or there are more than `2 ^ 31` sites, when the capacity of the site array
wraps to zero and the array is freed twice (`summaryOfReports_cases`).
-/

namespace Drainprof

open Grouping

/-! ### The table of sites -/

/-- What the summary compares of two sites. -/
structure SiteKey where
  file : FilePtr
  line : UInt32
  deriving DecidableEq, Repr

/-- The file and the line of a site. -/
def AllocSite.key (s : AllocSite) : SiteKey :=
  ⟨s.file, s.line⟩

/-- A row of the summary's table: the entry of a site and the last granule seen there. -/
abbrev SiteRow := SummarySiteEntry × GranuleId

/-- The pinning allocations of a report, each with the granule it pins. -/
def PinningReport.pins (r : PinningReport) : List (GranuleId × PinningAlloc) :=
  r.pinningAllocs.map fun pa => (r.granuleId, pa)

/-- The booking of a pinning allocation under its site. -/
def siteScheme : Scheme (GranuleId × PinningAlloc) SiteRow SiteKey where
  itemKey p := p.2.allocSite.key
  entryKey row := row.1.site.key
  start p := (⟨p.2.allocSite, 0, 0, 0⟩, uint64Max)
  update row p :=
    ({ row.1 with
        totalAllocs := row.1.totalAllocs + 1
        totalBytes := row.1.totalBytes + p.2.size
        pinningCount :=
          if row.2 ≠ p.1 then row.1.pinningCount + 1 else row.1.pinningCount }, p.1)
  entryKey_start _ := rfl
  entryKey_update _ _ := rfl

/-- The array of the report has as many entries as the report says. -/
def PinningReport.WF (r : PinningReport) : Prop :=
  r.pinningAllocs.length = r.pinningCount.toNat

instance (r : PinningReport) : Decidable r.WF :=
  inferInstanceAs (Decidable (_ = _))

/-- The capacities the site array goes through. -/
def SiteCapacity (c : UInt32) : Prop :=
  c = 0 ∨ ∃ k ≤ 27, c.toNat = 16 * 2 ^ k

/-- The two arrays of the summary are the columns of a table. -/
structure SummaryState.Rows (st : SummaryState) (table : List SiteRow) : Prop where
  capacity : SiteCapacity st.siteCapacity
  length_sites : st.sites.length = st.siteCapacity.toNat
  count_eq : st.siteCount.toNat = table.length
  count_le : table.length ≤ st.siteCapacity.toNat
  sites_eq : st.sites.take table.length = table.map Prod.fst
  capacity_le : st.siteCapacity.toNat ≤ st.trackingCapacity.toNat
  tracking_eq : st.lastGranulePerSite =
    table.map Prod.snd ++ List.replicate (st.trackingCapacity.toNat - table.length) uint64Max

theorem SiteCapacity.toNat_le {c : UInt32} (h : SiteCapacity c) : c.toNat ≤ 2 ^ 31 := by
  rcases h with rfl | ⟨k, hk, hc⟩
  · decide
  · rw [hc]
    calc 16 * 2 ^ k ≤ 16 * 2 ^ 27 := Nat.mul_le_mul_left 16 (Nat.pow_le_pow_right (by omega) hk)
      _ = 2 ^ 31 := by decide

/-- The capacity after a growth: larger, unless it wraps to zero at `2 ^ 31`. -/
theorem SiteCapacity.grow {c : UInt32} (h : SiteCapacity c) :
    let c' := if c = 0 then 16 else c * 2
    (c' ≠ 0 ∧ SiteCapacity c' ∧ c.toNat < c'.toNat) ∨ (c' = 0 ∧ c.toNat = 2 ^ 31) := by
  intro c'
  rcases h with hzero | ⟨k, hk, hc⟩
  · have hc' : c' = 16 := if_pos hzero
    rw [hc', hzero]
    exact Or.inl ⟨by decide, Or.inr ⟨0, by omega, rfl⟩, by decide⟩
  · have hpow : c.toNat = 2 ^ (4 + k) := by
      rw [hc, pow_add]
      rfl
    have hne : c ≠ 0 := by
      intro h0
      rw [h0] at hpow
      exact absurd hpow (Nat.two_pow_pos _).ne
    rw [show c' = c * 2 from if_neg hne]
    rcases mul_two_cases hpow with ⟨hlt, hdouble, hgt, hne'⟩ | ⟨hlast, h0⟩
    · refine Or.inl ⟨hne', Or.inr ⟨k + 1, by omega, ?_⟩, hgt⟩
      rw [hdouble, show 4 + k + 1 = 4 + (k + 1) by omega, pow_add]
      rfl
    · exact Or.inr ⟨h0, by rw [hpow, hlast]⟩

namespace SummaryState.Rows

variable {env : Env} {st : SummaryState} {table : List SiteRow} {site : AllocSite}

theorem getElem_sites (h : st.Rows table) {i : ℕ} (hi : i < table.length) :
    st.sites[i]? = some table[i].1 := by
  have htake : (st.sites.take table.length)[i]? = st.sites[i]? := List.getElem?_take_of_lt hi
  rw [← htake, h.sites_eq, List.getElem?_map, List.getElem?_eq_getElem hi]
  rfl

/-- The search loop finds the entry of the site. -/
theorem find_go (h : st.Rows table) :
    ∀ (fuel i : ℕ), i + fuel = table.length →
      findOrCreateSite.go st.sites site fuel (UInt32.ofNat i)
        = .ok ((siteScheme.find (table.drop i) site.key).map fun j => UInt32.ofNat (i + j)) := by
  intro fuel
  induction fuel with
  | zero =>
    intro i hi
    rw [List.drop_eq_nil_of_le (by omega)]
    rfl
  | succ fuel ih =>
    intro i hi
    have hilt : i < table.length := by omega
    have hlt := st.siteCount.toNat_lt
    have hval : (UInt32.ofNat i).toNat = i :=
      UInt32.toNat_ofNat_of_lt' (by have := h.count_eq; show i < 2 ^ 32; omega)
    have hload : load st.sites (UInt32.ofNat i) = .ok table[i].1 := by
      rw [load, hval, h.getElem_sites hilt]
    have hnext : UInt32.ofNat i + 1 = UInt32.ofNat (i + 1) := by
      rw [UInt32.ofNat_add]
      rfl
    rw [findOrCreateSite.go, hload, ok_bind, List.drop_eq_getElem_cons hilt, Scheme.find,
      List.findIdx?_cons, ← Scheme.find]
    have hkey : siteScheme.entryKey table[i] = site.key ↔
        table[i].1.site.file = site.file ∧ table[i].1.site.line = site.line :=
      SiteKey.mk.injEq .. ▸ Iff.rfl
    by_cases hsame : siteScheme.entryKey table[i] = site.key
    · rw [if_pos (hkey.mp hsame), if_pos (decide_eq_true hsame)]
      rfl
    · rw [if_neg fun hand => hsame (hkey.mpr hand), if_neg (by simpa using hsame), hnext,
        ih (i + 1) (by omega), Option.map_map]
      congr 2
      funext j
      show UInt32.ofNat (i + 1 + j) = UInt32.ofNat (i + (j + 1))
      rw [show i + 1 + j = i + (j + 1) by omega]

/-- The search finds the row of the site, or reports that there is none. -/
theorem find_eq (h : st.Rows table) (site : AllocSite) :
    findOrCreateSite.go st.sites site st.siteCount.toNat 0
      = .ok ((siteScheme.find table site.key).map UInt32.ofNat) := by
  have hgo := @find_go st table site h st.siteCount.toNat 0 (by rw [h.count_eq, Nat.zero_add])
  rw [List.drop_zero] at hgo
  simpa using hgo

/-- The table has an entry for the site, and it is returned. -/
theorem findOrCreate_found (h : st.Rows table) {i : ℕ}
    (hfind : siteScheme.find table site.key = some i) :
    findOrCreateSite env st site = .ok (some (UInt32.ofNat i), st) := by
  rw [findOrCreateSite, h.find_eq, hfind]
  rfl

/-- A new entry is written behind those there are, in an array that may have been grown for it. -/
theorem findOrCreate_absent (h : st.Rows table) (hfind : siteScheme.find table site.key = none) :
    (∃ sites cap, findOrCreateSite env st site = .ok (some st.siteCount,
        { st with sites := sites, siteCapacity := cap, siteCount := st.siteCount + 1 }) ∧
      SiteCapacity cap ∧ sites.length = cap.toNat ∧ table.length + 1 ≤ cap.toNat ∧
      sites.take (table.length + 1) = table.map Prod.fst ++ [⟨site, 0, 0, 0⟩]) ∨
    (findOrCreateSite env st site = .ok (none, st) ∧ ∃ r, env.succeeds r = false) ∨
    (findOrCreateSite env st site = .error .useAfterFree ∧ table.length = 2 ^ 31) := by
  have hlength := h.length_sites
  have hcount := h.count_eq
  have hle := h.count_le
  -- the entry is written into a block that begins with the entries there are
  have hwrite : ∀ sites : List SummarySiteEntry, table.length < sites.length →
      sites.take table.length = table.map Prod.fst →
      store sites st.siteCount ⟨site, 0, 0, 0⟩ = .ok (sites.set table.length ⟨site, 0, 0, 0⟩) ∧
      (sites.set table.length ⟨site, 0, 0, 0⟩).take (table.length + 1)
        = table.map Prod.fst ++ [⟨site, 0, 0, 0⟩] := by
    intro sites hroom htake
    have hfront : (sites.set table.length ⟨site, 0, 0, 0⟩).take table.length
        = table.map Prod.fst := by
      rw [List.take_set_of_le le_rfl, htake]
    refine ⟨by rw [store_of_lt _ (by omega), hcount], ?_⟩
    rw [List.take_add_one, hfront, List.getElem?_set_self hroom]
    rfl
  rw [findOrCreateSite, h.find_eq, hfind]
  by_cases hfull : st.siteCount ≥ st.siteCapacity
  · have hfull' : st.siteCapacity.toNat ≤ st.siteCount.toNat := UInt32.le_iff_toNat_le.mp hfull
    simp only [Option.map_none, ok_bind, if_pos hfull]
    have hgrow := h.capacity.grow
    generalize (if st.siteCapacity = 0 then 16 else st.siteCapacity * 2) = newCap at hgrow ⊢
    rcases hgrow with ⟨hne, hcap, hgt⟩ | ⟨hzero, hmax⟩
    · rw [realloc, if_neg hne]
      cases hsucc : env.succeeds (.sitesRealloc newCap) with
      | false => exact Or.inr (Or.inl ⟨rfl, _, hsucc⟩)
      | true =>
        let grown := st.sites.take newCap.toNat
          ++ List.replicate (newCap.toNat - st.sites.length) (default : SummarySiteEntry)
        have hgrown : grown.length = newCap.toNat := by
          rw [List.length_append, List.length_take, List.length_replicate]
          omega
        have hfront : grown.take table.length = table.map Prod.fst := by
          rw [List.take_append_of_le_length (by rw [List.length_take]; omega), List.take_take,
            min_eq_left (by omega), h.sites_eq]
        obtain ⟨hstore, htake⟩ := hwrite grown (by omega) hfront
        refine Or.inl ⟨_, newCap, ?_, hcap, ?_, by omega, htake⟩
        · show store grown st.siteCount ⟨site, 0, 0, 0⟩ >>= _ = _
          rw [hstore]
          rfl
        · rw [List.length_set]
          exact hgrown
    · rw [realloc, if_pos hzero]
      exact Or.inr (Or.inr ⟨rfl, by omega⟩)
  · -- there is room
    have hroom : st.siteCount.toNat < st.siteCapacity.toNat :=
      Nat.lt_of_not_le fun hle => hfull (UInt32.le_iff_toNat_le.mpr hle)
    obtain ⟨hstore, htake⟩ := hwrite st.sites (by omega) h.sites_eq
    refine Or.inl ⟨_, st.siteCapacity, ?_, h.capacity, ?_, by omega, htake⟩
    · simp only [Option.map_none, ok_bind, if_neg hfull, hstore]
    · rw [List.length_set]
      exact hlength

end SummaryState.Rows

/-- The tracking array is grown to at least the capacity of the site array. -/
theorem growTracking_cases {st : SummaryState} {seen : List GranuleId} (env : Env)
    (hseen : seen.length ≤ st.trackingCapacity.toNat)
    (htracking : st.lastGranulePerSite =
      seen ++ List.replicate (st.trackingCapacity.toNat - seen.length) uint64Max) :
    (∃ cap, growTracking env st = some { st with
        lastGranulePerSite := seen ++ List.replicate (cap.toNat - seen.length) uint64Max
        trackingCapacity := cap } ∧ st.siteCapacity.toNat ≤ cap.toNat) ∨
    (growTracking env st = none ∧ ∃ r, env.succeeds r = false) := by
  by_cases hgrow : st.siteCapacity > st.trackingCapacity
  · have hlt : st.trackingCapacity.toNat < st.siteCapacity.toNat := UInt32.lt_iff_toNat_lt.mp hgrow
    have hne := ne_zero_of_lt_toNat hlt
    have hlength : st.lastGranulePerSite.length = st.trackingCapacity.toNat := by
      rw [htracking, List.length_append, List.length_replicate]
      omega
    rw [growTracking, if_pos hgrow, realloc, if_neg hne]
    cases hsucc : env.succeeds (.trackingRealloc st.siteCapacity) with
    | false => exact Or.inr ⟨rfl, _, hsucc⟩
    | true =>
      refine Or.inl ⟨st.siteCapacity, ?_, le_rfl⟩
      have hgrown : st.lastGranulePerSite.take st.siteCapacity.toNat
          ++ List.replicate (st.siteCapacity.toNat - st.lastGranulePerSite.length) uint64Max
          = seen ++ List.replicate (st.siteCapacity.toNat - seen.length) uint64Max := by
        rw [List.take_of_length_le (by omega), hlength, htracking, List.append_assoc,
          List.replicate_append_replicate]
        congr 2
        omega
      simp only [if_true, hgrown]
  · have hle : st.siteCapacity.toNat ≤ st.trackingCapacity.toNat :=
      Nat.le_of_not_lt fun hlt => hgrow (UInt32.lt_iff_toNat_lt.mpr hlt)
    refine Or.inl ⟨st.trackingCapacity, ?_, hle⟩
    rw [growTracking, if_neg hgrow, ← htracking]

/-! ### Booking one allocation -/

namespace SummaryState.Rows

variable {env : Env} {st st₁ st₂ : SummaryState} {table : List SiteRow} {g : GranuleId}
  {pa : PinningAlloc} {i : UInt32}

/-- A new entry and the untouched place behind the granules seen are a new row. -/
theorem concat (h : st.Rows table) {sites : List SummarySiteEntry} {cap tcap : UInt32}
    {site : AllocSite} (hcap : SiteCapacity cap) (hlength : sites.length = cap.toNat)
    (hroom : table.length + 1 ≤ cap.toNat) (hle : cap.toNat ≤ tcap.toNat)
    (htake : sites.take (table.length + 1) = table.map Prod.fst ++ [⟨site, 0, 0, 0⟩]) :
    SummaryState.Rows { st with
      sites := sites
      siteCapacity := cap
      siteCount := st.siteCount + 1
      lastGranulePerSite := table.map Prod.snd
        ++ List.replicate (tcap.toNat - (table.map Prod.snd).length) uint64Max
      trackingCapacity := tcap } (table ++ [(⟨site, 0, 0, 0⟩, uint64Max)]) := by
  have hone : (table ++ [((⟨site, 0, 0, 0⟩, uint64Max) : SiteRow)]).length = table.length + 1 := by
    rw [List.length_append, List.length_singleton]
  have hmax := hcap.toNat_le
  constructor
  · exact hcap
  · exact hlength
  · have hcount := h.count_eq
    rw [hone, toNat_add_one (by omega), hcount]
  · rw [hone]
    exact hroom
  · rw [hone, List.map_append]
    exact htake
  · exact hle
  · show table.map Prod.snd ++ List.replicate (tcap.toNat - (table.map Prod.snd).length) uint64Max
      = (table ++ [((⟨site, 0, 0, 0⟩, uint64Max) : SiteRow)]).map Prod.snd
        ++ List.replicate (tcap.toNat - _) _
    have hsplit : tcap.toNat - table.length = 1 + (tcap.toNat - (table.length + 1)) := by omega
    rw [hone, List.map_append, List.length_map, hsplit, List.replicate_add, List.append_assoc]
    rfl

/-- The row that was found, or opened, is updated. -/
theorem addAlloc (h : st₂.Rows table) (hi : i.toNat < table.length)
    (hfind : findOrCreateSite env st pa.allocSite = .ok (some i, st₁))
    (hgrow : growTracking env st₁ = some st₂) :
    ∃ st', summaryAddAlloc env g st pa = .ok (some st') ∧
      st'.Rows (table.modify i.toNat fun row => siteScheme.update row (g, pa)) ∧
      st'.totalPinningAllocs = st₂.totalPinningAllocs + 1 ∧
      st'.reportsAnalyzed = st₂.reportsAnalyzed := by
  have hlength := h.length_sites
  have hle := h.count_le
  have hcap := h.capacity_le
  have hsites : i.toNat < st₂.sites.length := by omega
  have hfirst : st₂.sites[i.toNat] = table[i.toNat].1 := by
    apply Option.some.inj
    rw [← List.getElem?_eq_getElem, h.getElem_sites hi]
  have hfront : i.toNat < (table.map Prod.snd).length := by
    rw [List.length_map]
    exact hi
  have htracking : i.toNat < st₂.lastGranulePerSite.length := by
    rw [h.tracking_eq, List.length_append]
    omega
  have hsecond : st₂.lastGranulePerSite[i.toNat] = table[i.toNat].2 := by
    apply Option.some.inj
    rw [← List.getElem?_eq_getElem, h.tracking_eq, List.getElem?_append_left hfront,
      List.getElem?_map, List.getElem?_eq_getElem hi]
    rfl
  -- what the code writes into the two arrays is the updated row
  let row := siteScheme.update table[i.toNat] (g, pa)
  have hmodify : table.modify i.toNat (fun row => siteScheme.update row (g, pa))
      = table.set i.toNat row := List.modify_eq_set_get _ hi
  refine ⟨{ st₂ with
    sites := st₂.sites.set i.toNat row.1
    lastGranulePerSite := st₂.lastGranulePerSite.set i.toNat row.2
    totalPinningAllocs := st₂.totalPinningAllocs + 1 }, ?_, ?_, rfl, rfl⟩
  · rw [summaryAddAlloc, hfind, ok_bind]
    dsimp only
    rw [hgrow]
    dsimp only
    rw [load_of_lt hsites, ok_bind, load_of_lt htracking, ok_bind, store_of_lt _ htracking, ok_bind,
      store_of_lt _ hsites, ok_bind, hfirst, hsecond]
    have hentry : row.1 = if table[i.toNat].2 ≠ g then
        { table[i.toNat].1 with
          totalAllocs := table[i.toNat].1.totalAllocs + 1
          totalBytes := table[i.toNat].1.totalBytes + pa.size
          pinningCount := table[i.toNat].1.pinningCount + 1 }
        else { table[i.toNat].1 with
          totalAllocs := table[i.toNat].1.totalAllocs + 1
          totalBytes := table[i.toNat].1.totalBytes + pa.size } := by
      by_cases hlast : table[i.toNat].2 ≠ g
      · simp only [row, siteScheme, if_pos hlast]
      · simp only [row, siteScheme, if_neg hlast]
    rw [hentry]
    rfl
  · rw [hmodify]
    constructor
    · exact h.capacity
    · rw [List.length_set]
      exact hlength
    · rw [List.length_set]
      exact h.count_eq
    · rw [List.length_set]
      exact hle
    · rw [List.length_set, List.take_set, h.sites_eq, List.map_set]
    · exact hcap
    · show st₂.lastGranulePerSite.set i.toNat row.2 = _
      rw [h.tracking_eq, List.set_append_left _ _ hfront, List.map_set, List.length_set]

end SummaryState.Rows

/-- The state after the bookings of a loop. -/
structure SummaryState.Booked (st st' : SummaryState) (table : List SiteRow) (allocs reports : UInt32) :
    Prop where
  rows : st'.Rows table
  total_eq : st'.totalPinningAllocs = st.totalPinningAllocs + allocs
  analyzed_eq : st'.reportsAnalyzed = st.reportsAnalyzed + reports

/-- The three ways a loop of the summary ends: everything is booked, memory ran out, or the site
array was freed because its capacity wrapped to zero. -/
def SummaryEnds (env : Env) (x : Exec (Option SummaryState)) (st : SummaryState)
    (table : List SiteRow) (allocs reports : UInt32) : Prop :=
  (∃ st', x = .ok (some st') ∧ st.Booked st' table allocs reports) ∨
    (x = .ok none ∧ ∃ r, env.succeeds r = false) ∨
    (x = .error .useAfterFree ∧ 2 ^ 31 < table.length)

section Loops

variable {env : Env} {st : SummaryState} {table : List SiteRow} {r : PinningReport}

/-- **A booking of the summary is the booking of a grouping by site.** -/
theorem summaryAddAlloc_cases (h : st.Rows table) (g : GranuleId) (pa : PinningAlloc) :
    SummaryEnds env (summaryAddAlloc env g st pa) st (siteScheme.book table (g, pa)) 1 0 := by
  have hcount := h.count_eq
  cases hfind : siteScheme.find table pa.allocSite.key with
  | some i =>
    obtain ⟨hi, -⟩ := Scheme.find_eq_some hfind
    have hval : (UInt32.ofNat i).toNat = i :=
      UInt32.toNat_ofNat_of_lt' (by have := st.siteCount.toNat_lt; show i < 2 ^ 32; omega)
    have hgrow : growTracking env st = some st := by
      have hnot : ¬st.siteCapacity > st.trackingCapacity := by
        intro hgt
        have hlt : st.trackingCapacity.toNat < st.siteCapacity.toNat := UInt32.lt_iff_toNat_lt.mp hgt
        have hle := h.capacity_le
        omega
      rw [growTracking, if_neg hnot]
    have hrow : (UInt32.ofNat i).toNat < table.length := by
      rw [hval]
      exact hi
    obtain ⟨st', hadd, hrows, htotal, hanalyzed⟩ :=
      h.addAlloc hrow (h.findOrCreate_found hfind) hgrow
    refine Or.inl ⟨st', hadd, ?_, htotal, ?_⟩
    · rw [Scheme.book_of_find (show siteScheme.find table (siteScheme.itemKey (g, pa)) = some i from
        hfind)]
      rw [hval] at hrows
      exact hrows
    · rw [hanalyzed, UInt32.add_zero]
  | none =>
    have hbook : siteScheme.book table (g, pa)
        = table ++ [siteScheme.update (siteScheme.start (g, pa)) (g, pa)] :=
      Scheme.book_of_absent hfind
    have hcreated := @SummaryState.Rows.findOrCreate_absent env st table pa.allocSite h hfind
    rcases hcreated with
      ⟨sites, cap, hcreate, hcap, hlength, hroom, htake⟩ | ⟨hfail, hmem⟩ | ⟨hfault, hmax⟩
    · let created : SummaryState :=
        { st with sites := sites, siteCapacity := cap, siteCount := st.siteCount + 1 }
      have hseen : (table.map Prod.snd).length ≤ created.trackingCapacity.toNat := by
        rw [List.length_map]
        exact h.count_le.trans h.capacity_le
      have htracking : created.lastGranulePerSite = table.map Prod.snd ++
          List.replicate (created.trackingCapacity.toNat - (table.map Prod.snd).length) uint64Max := by
        rw [List.length_map]
        exact h.tracking_eq
      rcases growTracking_cases env hseen htracking with ⟨tcap, hgrow, hle⟩ | ⟨hgrow, hmem⟩
      · -- the new row is the last one
        have hrows := h.concat hcap hlength hroom hle htake
        have hlast : st.siteCount.toNat
            < (table ++ [((⟨pa.allocSite, 0, 0, 0⟩, uint64Max) : SiteRow)]).length := by
          rw [hcount, List.length_append, List.length_singleton]
          exact Nat.lt_succ_self _
        obtain ⟨st', hadd, hrows', htotal, hanalyzed⟩ := hrows.addAlloc hlast hcreate hgrow
        refine Or.inl ⟨st', hadd, ?_, htotal, ?_⟩
        · have hmodify : (table ++ [siteScheme.start (g, pa)]).modify table.length
              (fun row => siteScheme.update row (g, pa))
              = table ++ [siteScheme.update (siteScheme.start (g, pa)) (g, pa)] := by
            simp [List.modify_eq_set_getElem?]
          rw [hbook, ← hmodify, ← hcount]
          exact hrows'
        · rw [hanalyzed, UInt32.add_zero]
      · refine Or.inr (Or.inl ⟨?_, hmem⟩)
        rw [summaryAddAlloc, hcreate, ok_bind]
        dsimp only
        rw [hgrow]
    · refine Or.inr (Or.inl ⟨?_, hmem⟩)
      rw [summaryAddAlloc, hfail]
      rfl
    · refine Or.inr (Or.inr ⟨?_, ?_⟩)
      · rw [summaryAddAlloc, hfault]
        rfl
      · rw [hbook, List.length_append, List.length_singleton, hmax]
        exact Nat.lt_succ_self _

/-- A loop that goes on after a part that has ended. -/
theorem SummaryEnds.andThen {x y : Exec (Option SummaryState)} {table' : List SiteRow}
    {allocs reports allocs' reports' : UInt32} (h : SummaryEnds env x st table allocs reports)
    (hle : table.length ≤ table'.length)
    (hok : ∀ st', x = .ok (some st') → st'.Rows table →
      SummaryEnds env y st' table' allocs' reports')
    (hnone : x = .ok none → y = .ok none)
    (hfault : x = .error .useAfterFree → y = .error .useAfterFree) :
    SummaryEnds env y st table' (allocs + allocs') (reports + reports') := by
  rcases h with ⟨st₁, hx, hbooked⟩ | ⟨hx, hmem⟩ | ⟨hx, hmany⟩
  · rcases hok st₁ hx hbooked.rows with ⟨st₂, hy, hbooked'⟩ | hmem | hmany
    · refine Or.inl ⟨st₂, hy, hbooked'.rows, ?_, ?_⟩
      · rw [hbooked'.total_eq, hbooked.total_eq, UInt32.add_assoc]
      · rw [hbooked'.analyzed_eq, hbooked.analyzed_eq, UInt32.add_assoc]
    · exact Or.inr (Or.inl hmem)
    · exact Or.inr (Or.inr hmany)
  · exact Or.inr (Or.inl ⟨hnone hx, hmem⟩)
  · exact Or.inr (Or.inr ⟨hfault hx, lt_of_lt_of_le hmany hle⟩)

/-- The loop over the pinning allocations of one report. -/
theorem summaryAddReport_go_cases (hr : r.WF) :
    ∀ (fuel j : ℕ) (st : SummaryState) (table : List SiteRow), j + fuel = r.pinningCount.toNat →
      st.Rows table → SummaryEnds env (summaryAddReport.go env r fuel (UInt32.ofNat j) st) st
        ((r.pins.drop j).foldl siteScheme.book table) (UInt32.ofNat fuel) 0 := by
  have hlength : r.pins.length = r.pinningCount.toNat := by
    rw [PinningReport.pins, List.length_map]
    exact hr
  have hlt := r.pinningCount.toNat_lt
  intro fuel
  induction fuel with
  | zero =>
    intro j st table hj hrows
    rw [List.drop_eq_nil_of_le (by omega)]
    exact Or.inl ⟨st, rfl, hrows, (UInt32.add_zero _).symm, (UInt32.add_zero _).symm⟩
  | succ fuel ih =>
    intro j st table hj hrows
    have hval : (UInt32.ofNat j).toNat = j :=
      UInt32.toNat_ofNat_of_lt' (show j < 2 ^ 32 by omega)
    have hj' : j < r.pinningAllocs.length := by
      rw [hr]
      omega
    have hload : load r.pinningAllocs (UInt32.ofNat j) = .ok r.pinningAllocs[j] := by
      rw [load_of_lt (by rw [hval]; exact hj')]
      simp only [hval]
    have hpins : j < r.pins.length := by omega
    have hpin : r.pins[j] = (r.granuleId, r.pinningAllocs[j]) := List.getElem_map _
    have hnext : UInt32.ofNat j + 1 = UInt32.ofNat (j + 1) := by
      rw [UInt32.ofNat_add]
      rfl
    have hfuel : UInt32.ofNat (fuel + 1) = 1 + UInt32.ofNat fuel := by
      rw [UInt32.ofNat_add, UInt32.add_comm]
      rfl
    rw [List.drop_eq_getElem_cons hpins, List.foldl_cons, hpin, hfuel, ← UInt32.add_zero 0]
    refine (summaryAddAlloc_cases hrows r.granuleId r.pinningAllocs[j]).andThen
      (Scheme.length_le_length_foldl_book _ _) ?_ ?_ ?_
    · intro st' hadd hrows'
      rw [summaryAddReport.go, hload, ok_bind, hadd, ok_bind, hnext]
      exact ih (j + 1) st' _ (by omega) hrows'
    · intro hadd
      rw [summaryAddReport.go, hload, ok_bind, hadd]
      rfl
    · intro hadd
      rw [summaryAddReport.go, hload, ok_bind, hadd]
      rfl

/-- One report is booked. -/
theorem summaryAddReport_cases (hr : r.WF) (h : st.Rows table) :
    SummaryEnds env (summaryAddReport env (some r) st) st (r.pins.foldl siteScheme.book table)
      r.pinningCount 1 := by
  let analyzed : SummaryState := { st with reportsAnalyzed := st.reportsAnalyzed + 1 }
  have hanalyzed : analyzed.Rows table :=
    ⟨h.capacity, h.length_sites, h.count_eq, h.count_le, h.sites_eq, h.capacity_le, h.tracking_eq⟩
  have hgo := @summaryAddReport_go_cases env r hr r.pinningCount.toNat 0 analyzed table
    (Nat.zero_add _) hanalyzed
  rw [List.drop_zero, UInt32.ofNat_toNat] at hgo
  rcases hgo with ⟨st', hx, hrows, htotal, hcount⟩ | hmem | hmany
  · refine Or.inl ⟨st', hx, hrows, htotal, ?_⟩
    rw [hcount, UInt32.add_zero]
  · exact Or.inr (Or.inl hmem)
  · exact Or.inr (Or.inr hmany)

/-- **The loop over the reports groups their pinning allocations by site.** -/
theorem summarize_cases {rs : List PinningReport} (hwf : ∀ r ∈ rs, r.WF) (h : st.Rows table) :
    SummaryEnds env (summarize env rs st) st
      ((rs.flatMap PinningReport.pins).foldl siteScheme.book table)
      (UInt32.ofNat (rs.map fun r => r.pinningCount.toNat).sum) (UInt32.ofNat rs.length) := by
  induction rs generalizing st table with
  | nil => exact Or.inl ⟨st, rfl, h, (UInt32.add_zero _).symm, (UInt32.add_zero _).symm⟩
  | cons r rs ih =>
    have hlength : UInt32.ofNat (r :: rs).length = 1 + UInt32.ofNat rs.length := by
      rw [List.length_cons, UInt32.ofNat_add, UInt32.add_comm]
      rfl
    rw [List.flatMap_cons, List.foldl_append, List.map_cons, List.sum_cons, UInt32.ofNat_add,
      UInt32.ofNat_toNat, hlength]
    refine (summaryAddReport_cases (hwf r List.mem_cons_self) h).andThen
      (Scheme.length_le_length_foldl_book _ _) ?_ ?_ ?_
    · intro st' hadd hrows
      rw [summarize, hadd, ok_bind]
      exact ih (fun r' hr' => hwf r' (List.mem_cons_of_mem r hr')) hrows
    · intro hadd
      rw [summarize, hadd]
      rfl
    · intro hadd
      rw [summarize, hadd]
      rfl

end Loops

/-! ### The summary -/

/-- The table of sites of a list of reports. -/
def siteTable (rs : List PinningReport) : List SiteRow :=
  (rs.flatMap PinningReport.pins).foldl siteScheme.book []

/-- The summary of a list of reports, by the table of their sites. -/
def groupedSummary (rs : List PinningReport) : DiagnosticSummary where
  sites := (siteTable rs).map Prod.fst
  siteCount := UInt32.ofNat (siteTable rs).length
  totalPinningAllocs := UInt32.ofNat (rs.map fun r => r.pinningCount.toNat).sum
  reportsAnalyzed := UInt32.ofNat rs.length

theorem SummaryState.initial_rows : SummaryState.initial.Rows [] :=
  ⟨Or.inl rfl, rfl, rfl, Nat.zero_le _, rfl, by decide, rfl⟩

/-- The three ways the summary ends. -/
theorem summaryOfReports_cases {rs : List PinningReport} (hwf : ∀ r ∈ rs, r.WF) (env : Env) :
    (summaryOfReports env rs = .ok (some (groupedSummary rs)) ∧ (siteTable rs).length ≤ 2 ^ 31) ∨
    (summaryOfReports env rs = .ok none ∧ ∃ r, env.succeeds r = false) ∨
    (summaryOfReports env rs = .error .useAfterFree ∧ 2 ^ 31 < (siteTable rs).length) := by
  rw [summaryOfReports]
  cases hcalloc : env.succeeds .summaryCalloc with
  | false => exact Or.inr (Or.inl ⟨rfl, _, hcalloc⟩)
  | true =>
    cases htracking : env.succeeds .trackingCalloc with
    | false => exact Or.inr (Or.inl ⟨rfl, _, htracking⟩)
    | true =>
      simp only [Bool.not_true, Bool.false_eq_true, if_false]
      rcases @summarize_cases env _ _ rs hwf SummaryState.initial_rows with
        ⟨st, hx, hrows, htotal, hanalyzed⟩ | ⟨hx, hmem⟩ | ⟨hx, hmany⟩
      · refine Or.inl ⟨?_, hrows.count_le.trans hrows.capacity.toNat_le⟩
        have hcount : st.siteCount = UInt32.ofNat (siteTable rs).length := by
          apply UInt32.toNat_inj.mp
          rw [hrows.count_eq, siteTable]
          refine (UInt32.toNat_ofNat_of_lt' ?_).symm
          rw [← hrows.count_eq]
          exact st.siteCount.toNat_lt
        have hsites : st.sites.take st.siteCount.toNat = (siteTable rs).map Prod.fst := by
          rw [hrows.count_eq, hrows.sites_eq, siteTable]
        rw [hx, ok_bind]
        dsimp only
        rw [hsites, hcount, htotal, hanalyzed, groupedSummary]
        simp only [SummaryState.initial, UInt32.zero_add]
      · refine Or.inr (Or.inl ⟨?_, hmem⟩)
        rw [hx]
        rfl
      · refine Or.inr (Or.inr ⟨?_, hmany⟩)
        rw [hx]
        rfl

end Drainprof
