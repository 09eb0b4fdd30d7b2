import Drainprof.ReportBuffer

/-!
# The diagnostic summary

The model of `drainprof_diagnostic_summary_compute`: the buffered reports are read in place, and
every pinning allocation of theirs is booked under its site.  The site array grows by doubling from
`16`, and the array that remembers the last granule seen for each site is grown in step.
-/

namespace Drainprof

/-- `drainprof_summary_site_entry`. -/
structure SummarySiteEntry where
  site : AllocSite
  pinningCount : UInt32
  totalAllocs : UInt32
  totalBytes : UInt64
  deriving DecidableEq, Repr, Inhabited

/-- `drainprof_diagnostic_summary`, with the array it owns. -/
structure DiagnosticSummary where
  sites : List SummarySiteEntry
  siteCount : UInt32
  totalPinningAllocs : UInt32
  reportsAnalyzed : UInt32
  deriving DecidableEq, Repr

/-- The local variables of `drainprof_diagnostic_summary_compute`.  `sites` is the block of
`siteCapacity` entries, of which the first `siteCount` are in use. -/
structure SummaryState where
  sites : List SummarySiteEntry
  siteCount : UInt32
  siteCapacity : UInt32
  lastGranulePerSite : List GranuleId
  trackingCapacity : UInt32
  totalPinningAllocs : UInt32
  reportsAnalyzed : UInt32
  deriving DecidableEq, Repr

/-- The search loop of `find_or_create_site`, with `fuel` iterations left. -/
def findOrCreateSite.go (sites : List SummarySiteEntry) (site : AllocSite) :
    ℕ → UInt32 → Exec (Option UInt32)
  | 0, _ => .ok none
  | fuel + 1, i => do
    let entry ← load sites i
    if entry.site.file = site.file ∧ entry.site.line = site.line then .ok (some i)
    else findOrCreateSite.go sites site fuel (i + 1)

/-- `find_or_create_site`: the index of the entry for `site`; `none` is `NULL`. -/
def findOrCreateSite (env : Env) (st : SummaryState) (site : AllocSite) :
    Exec (Option UInt32 × SummaryState) := do
  match ← findOrCreateSite.go st.sites site st.siteCount.toNat 0 with
  | some i => .ok (some i, st)
  | none =>
    -- a new entry at the end, for which the array may have to grow
    let create (st : SummaryState) : Exec (Option UInt32 × SummaryState) := do
      let sites ← store st.sites st.siteCount ⟨site, 0, 0, 0⟩
      .ok (some st.siteCount, { st with sites := sites, siteCount := st.siteCount + 1 })
    if st.siteCount ≥ st.siteCapacity then
      let newCap := if st.siteCapacity = 0 then 16 else st.siteCapacity * 2
      match realloc st.sites newCap default (env.succeeds (.sitesRealloc newCap)) with
      | .moved newSites => create { st with sites := newSites, siteCapacity := newCap }
      | .failed => .ok (none, st)
      -- the caller's cleanup frees the array once more
      | .freed => .error .useAfterFree
    else create st

/-- The resize of the tracking array: `none` if it fails. -/
def growTracking (env : Env) (st : SummaryState) : Option SummaryState :=
  if st.siteCapacity > st.trackingCapacity then
    match realloc st.lastGranulePerSite st.siteCapacity uint64Max
        (env.succeeds (.trackingRealloc st.siteCapacity)) with
    | .moved tracking =>
      some { st with lastGranulePerSite := tracking, trackingCapacity := st.siteCapacity }
    | .failed => none
    | .freed => none
  else some st

/-- The booking of one pinning allocation of a report on granule `currentGranule`; `none` if an
allocation of the summary's own failed. -/
def summaryAddAlloc (env : Env) (currentGranule : GranuleId) (st : SummaryState)
    (pa : PinningAlloc) : Exec (Option SummaryState) := do
  let (found, st) ← findOrCreateSite env st pa.allocSite
  match found with
  | none => .ok none
  | some siteIdx =>
    match growTracking env st with
    | none => .ok none
    | some st =>
      let entry ← load st.sites siteIdx
      -- a granule counts once at a site, as long as its allocations there are adjacent
      let last ← load st.lastGranulePerSite siteIdx
      let tracking ← store st.lastGranulePerSite siteIdx currentGranule
      let entry := { entry with
        totalAllocs := entry.totalAllocs + 1
        totalBytes := entry.totalBytes + pa.size }
      let entry :=
        if last ≠ currentGranule then { entry with pinningCount := entry.pinningCount + 1 }
        else entry
      let sites ← store st.sites siteIdx entry
      .ok (some { st with
        sites := sites
        lastGranulePerSite := tracking
        totalPinningAllocs := st.totalPinningAllocs + 1 })

/-- The loop over the pinning allocations of one report, with `fuel` iterations left. -/
def summaryAddReport.go (env : Env) (report : PinningReport) :
    ℕ → UInt32 → SummaryState → Exec (Option SummaryState)
  | 0, _, st => .ok (some st)
  | fuel + 1, j, st => do
    let pa ← load report.pinningAllocs j
    match ← summaryAddAlloc env report.granuleId st pa with
    | none => .ok none
    | some st => summaryAddReport.go env report fuel (j + 1) st

/-- One iteration of the loop over the buffered reports; a `NULL` report is skipped. -/
def summaryAddReport (env : Env) (report : Option PinningReport) (st : SummaryState) :
    Exec (Option SummaryState) :=
  match report with
  | none => .ok (some st)
  | some report =>
    summaryAddReport.go env report report.pinningCount.toNat 0
      { st with reportsAnalyzed := st.reportsAnalyzed + 1 }

/-- The loop over the buffered reports, with `fuel` iterations left. -/
def diagnosticSummaryCompute.go (env : Env) (buf : ReportBuffer) :
    ℕ → ℕ → SummaryState → Exec (Option SummaryState)
  | 0, _, st => .ok (some st)
  | fuel + 1, i, st => do
    let idx ← umod (buf.tail + UInt32.ofNat i) buf.capacity
    let report ← load buf.reports idx
    match ← summaryAddReport env report st with
    | none => .ok none
    | some st => diagnosticSummaryCompute.go env buf fuel (i + 1) st

/-- The local variables before the first report. -/
def SummaryState.initial : SummaryState where
  sites := []
  siteCount := 0
  siteCapacity := 0
  lastGranulePerSite := List.replicate 16 uint64Max
  trackingCapacity := 16
  totalPinningAllocs := 0
  reportsAnalyzed := 0

/-- `drainprof_diagnostic_summary_compute` on the report buffer: `none` is `NULL`. -/
def diagnosticSummaryOfBuffer (env : Env) (buf : ReportBuffer) : Exec (Option DiagnosticSummary) :=
  if !env.succeeds .summaryCalloc then .ok none
  else if !env.succeeds .trackingCalloc then .ok none
  else do
    match ← diagnosticSummaryCompute.go env buf buf.count.toNat 0 SummaryState.initial with
    | none => .ok none
    | some st => .ok (some {
        sites := st.sites.take st.siteCount.toNat
        siteCount := st.siteCount
        totalPinningAllocs := st.totalPinningAllocs
        reportsAnalyzed := st.reportsAnalyzed })

end Drainprof
