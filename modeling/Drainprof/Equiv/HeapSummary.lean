import Drainprof.Equiv.HeapReports

/-!
# The blocks of a summary

A summary works in two arrays of its own that grow, and reads the reports where they are.  When it
returns a summary it has freed the one array and gives the other away; wherever it gives up it has
freed both (`diagnosticSummaryOfBuffer_realizes`).
-/

namespace Drainprof.Heap

open Ownership Ring

/-- The block behind a pointer that may be `NULL`. -/
def ownOpt : Option Block → Multiset Block
  | none => 0
  | some b => {b}

theorem freeOpt_realizes (b : Option Block) :
    Realizes (ownOpt b) (freeOpt b) (.ok ()) (fun _ _ => True) fun _ => 0 := by
  cases b with
  | none => exact Realizes.pure trivial rfl
  | some b => exact Realizes.free_last 0 (add_zero _).symm trivial

/-- A pointer that is known not to be `NULL` is followed. -/
theorem useOpt_realizes {α β : Type} {P : Multiset Block} {b : Option Block} {f : Unit → Prog α}
    {x : Exec β} {R : α → β → Prop} {Q : α → Multiset Block} (hb : b ≠ none) (hP : ownOpt b ≤ P)
    (h : Realizes P (f ()) x R Q) : Realizes P (useOpt b >>= f) x R Q := by
  cases b with
  | none => exact absurd rfl hb
  | some b => exact Realizes.use (Multiset.mem_of_le hP (Multiset.mem_singleton_self b)) h

namespace SummaryState

/-- The two arrays. -/
def own (st : SummaryState) : Multiset Block :=
  ownOpt st.sites + {st.lastGranulePerSite}

/-- What is read in the sites has a block. -/
def Backed (st : SummaryState) : Prop :=
  st.sites = none → st.content.sites = []

variable {st : SummaryState}

theorem Backed.sites_ne (h : st.Backed) (hne : st.content.sites ≠ []) : st.sites ≠ none :=
  fun hnone => hne (h hnone)

theorem sites_le_own (st : SummaryState) : ownOpt st.sites ≤ st.own :=
  Multiset.le_add_right _ _

theorem tracking_mem_own (st : SummaryState) : st.lastGranulePerSite ∈ st.own :=
  Multiset.mem_add.mpr (Or.inr (Multiset.mem_singleton_self _))

end SummaryState

theorem summaryAbandon_realizes (st : SummaryState) :
    Realizes st.own (summaryAbandon st) (.ok ()) (fun _ _ => True) fun _ => 0 :=
  Realizes.free _ (add_comm _ _) (freeOpt_realizes st.sites)

theorem ne_nil_of_load {α : Type} {block : List α} {i : UInt32} {a : α}
    (h : load block i = .ok a) : block ≠ [] := by
  rintro rfl
  cases h

theorem ne_nil_of_store {α : Type} {block block' : List α} {i : UInt32} {a : α}
    (h : store block i a = .ok block') : block ≠ [] := by
  rintro rfl
  cases h

/-! ### Finding and creating sites -/

section Sites

variable {env : Env} {st : SummaryState} {site : AllocSite}

/-- A search that looks at an entry has a block to look at. -/
theorem ne_nil_of_search {sites : List SummarySiteEntry} {n : UInt32} {found : Option UInt32}
    (h : findOrCreateSite.go sites site n.toNat 0 = .ok found) (hn : n ≠ 0) : sites ≠ [] := by
  obtain ⟨k, hk⟩ := Nat.exists_eq_succ_of_ne_zero fun h0 => hn (UInt32.toNat_inj.mp h0)
  rw [hk, findOrCreateSite.go] at h
  obtain ⟨entry, hload, -⟩ := bind_eq_ok.mp h
  exact ne_nil_of_load hload

theorem findOrCreateSite_realizes (hst : st.Backed) :
    Realizes st.own (findOrCreateSite env st site)
      (Drainprof.findOrCreateSite env st.content site)
      (fun r r' => (r.1, r.2.content) = r' ∧ r.2.Backed) fun r => r.2.own := by
  refine Realizes.of_forall ?_
  rintro ⟨created, content⟩ hx
  have hparts := hx
  rw [Drainprof.findOrCreateSite] at hparts
  obtain ⟨found, hgo, hrest⟩ := bind_eq_ok.mp hparts
  refine Realizes.eval_ok hgo ?_
  have huse : Realizes st.own
      (if st.content.siteCount ≠ 0 then useOpt st.sites else pure ()) (.ok ()) (fun _ _ => True)
      fun _ => st.own := by
    by_cases hzero : st.content.siteCount ≠ 0
    · rw [if_pos hzero, ← bind_pure (useOpt st.sites)]
      exact useOpt_realizes (hst.sites_ne (ne_nil_of_search hgo hzero)) st.sites_le_own
        (Realizes.pure trivial rfl)
    · rw [if_neg hzero]
      exact Realizes.pure trivial rfl
  refine Realizes.step 0 (add_zero _).symm huse ?_
  intro _ _
  rw [add_zero]
  cases found with
  | some i =>
    cases hrest
    exact Realizes.pure ⟨rfl, hst⟩ rfl
  | none =>
    dsimp only at hrest ⊢
    by_cases hfull : st.content.siteCount ≥ st.content.siteCapacity
    · rw [if_pos hfull] at hrest ⊢
      generalize (if st.content.siteCapacity = 0 then 16 else st.content.siteCapacity * 2) = newCap
        at hrest ⊢
      have hne : newCap ≠ 0 := by
        intro hzero
        rw [realloc, if_pos hzero] at hrest
        cases hrest
      have hfailed : env.succeeds (.sitesRealloc newCap) = false →
          Realizes st.own (pure (none, st) : Prog (Option UInt32 × SummaryState))
            (.ok (created, content)) (fun r r' => (r.1, r.2.content) = r' ∧ r.2.Backed)
            fun r => r.2.own := by
        intro hfail
        rw [realloc, if_neg hne, hfail] at hrest
        cases hrest
        exact Realizes.pure ⟨rfl, hst⟩ rfl
      have hmoved : ∀ b, Realizes ({b} + {st.lastGranulePerSite})
          (use b >>= fun _ => eval (Drainprof.findOrCreateSite env st.content site) >>= fun r =>
            pure (r.1, { st with sites := some b, content := r.2 }))
          (.ok (created, content)) (fun r r' => (r.1, r.2.content) = r' ∧ r.2.Backed)
          fun r => r.2.own := by
        intro b
        refine Realizes.use (Multiset.mem_add.mpr (Or.inl (Multiset.mem_singleton_self b))) ?_
        exact Realizes.eval_ok hx (Realizes.pure ⟨rfl, fun hnone => nomatch hnone⟩ rfl)
      cases hsites : st.sites with
      | none =>
        have hown : st.own = {st.lastGranulePerSite} := by
          rw [SummaryState.own, hsites]
          exact zero_add _
        rw [hown] at hfailed ⊢
        exact Realizes.malloc hfailed fun _ b => hmoved b
      | some b =>
        have hown : st.own = {b} + {st.lastGranulePerSite} := by
          rw [SummaryState.own, hsites]
          rfl
        refine Realizes.realloc {st.lastGranulePerSite} hown ?_ (fun _ _ b => hmoved b)
          fun _ => hfailed
        intro hzero
        exact absurd (of_decide_eq_true hzero) hne
    · rw [if_neg hfull] at hrest ⊢
      obtain ⟨sites, hstore, -⟩ := bind_eq_ok.mp hrest
      have hne := hst.sites_ne (ne_nil_of_store hstore)
      refine Realizes.eval_ok hx (useOpt_realizes hne st.sites_le_own ?_)
      exact Realizes.pure ⟨rfl, fun hnone => absurd hnone hne⟩ rfl

theorem growTracking_realizes (hst : st.Backed) :
    Realizes st.own (growTracking env st) (.ok (Drainprof.growTracking env st.content))
      (fun r r' => r.map SummaryState.content = r' ∧ ∀ st' ∈ r, st'.Backed)
      fun r => r.elim st.own SummaryState.own := by
  rw [growTracking]
  by_cases hgrow : st.content.siteCapacity > st.content.trackingCapacity
  · have hne : st.content.siteCapacity ≠ 0 := ne_zero_of_lt_toNat (UInt32.lt_iff_toNat_lt.mp hgrow)
    rw [if_pos hgrow]
    refine Realizes.realloc (ownOpt st.sites) (add_comm _ _) ?_ ?_ ?_
    · intro hzero
      exact absurd (of_decide_eq_true hzero) hne
    · intro _ hsucc b
      obtain ⟨content, hcontent, hsites⟩ : ∃ content,
          Drainprof.growTracking env st.content = some content ∧ content.sites = st.content.sites := by
        rw [Drainprof.growTracking, if_pos hgrow, realloc, if_neg hne, hsucc]
        exact ⟨_, rfl, rfl⟩
      refine Realizes.use (Multiset.mem_add.mpr (Or.inl (Multiset.mem_singleton_self b))) ?_
      rw [hcontent]
      refine Realizes.pure ⟨rfl, ?_⟩ (add_comm _ _)
      intro st' hst' hnone
      cases hst'
      exact hsites.trans (hst hnone)
    · intro _ hfail
      have hnone : Drainprof.growTracking env st.content = none := by
        rw [Drainprof.growTracking, if_pos hgrow, realloc, if_neg hne, hfail]
        rfl
      rw [hnone]
      exact Realizes.pure ⟨rfl, fun _ h => nomatch h⟩ rfl
  · rw [if_neg hgrow, Drainprof.growTracking, if_neg hgrow]
    refine Realizes.pure ⟨rfl, ?_⟩ rfl
    intro st' hst'
    cases hst'
    exact hst

/-- A booking keeps the two arrays, or frees them. -/
theorem summaryAddAlloc_realizes (hst : st.Backed) (g : GranuleId) (pa : PinningAlloc) :
    Realizes st.own (summaryAddAlloc env g st pa)
      (Drainprof.summaryAddAlloc env g st.content pa)
      (fun r r' => r.map SummaryState.content = r' ∧ ∀ st' ∈ r, st'.Backed)
      fun r => r.elim 0 SummaryState.own := by
  refine Realizes.bind 0 (add_zero _).symm (findOrCreateSite_realizes hst) ?_
  rintro ⟨found, st₁⟩ _ - ⟨rfl, hst₁⟩
  rw [add_zero]
  have habandon : ∀ st' : SummaryState,
      Realizes st'.own (summaryAbandon st' >>= fun _ => pure none) (.ok none)
        (fun r r' => r.map SummaryState.content = r' ∧ ∀ st' ∈ r, st'.Backed)
        fun r => r.elim 0 SummaryState.own := by
    intro st'
    refine Realizes.step 0 (add_zero _).symm (summaryAbandon_realizes st') ?_
    intro _ _
    exact Realizes.pure ⟨rfl, fun _ h => nomatch h⟩ rfl
  cases found with
  | none => exact habandon st₁
  | some siteIdx =>
    refine Realizes.step 0 (add_zero _).symm (growTracking_realizes hst₁) ?_
    rintro grown ⟨hgrown, hbacked⟩
    rw [add_zero]
    dsimp only
    rw [← hgrown]
    cases grown with
    | none => exact habandon st₁
    | some st₂ =>
      have hst₂ := hbacked st₂ rfl
      refine Realizes.eval ?_
      intro entry hentry
      refine useOpt_realizes (hst₂.sites_ne (ne_nil_of_load hentry)) st₂.sites_le_own ?_
      refine Realizes.eval ?_
      intro last _
      refine Realizes.use st₂.tracking_mem_own ?_
      refine Realizes.eval ?_
      intro tracking _
      refine Realizes.eval ?_
      intro sites hsites
      refine Realizes.pure ⟨rfl, ?_⟩ rfl
      intro st' hst' hnone
      cases hst'
      exact absurd hnone (hst₂.sites_ne (ne_nil_of_store hsites))

end Sites

/-! ### The loops -/

section Loops

variable {env : Env}

/-- The loop over a report whose blocks are among the blocks `S`. -/
theorem summaryAddReport.go_realizes {report : PinningReport} {S : Multiset Block}
    (hS : report.own ≤ S) :
    ∀ (fuel : ℕ) (j : UInt32) (st : SummaryState), st.Backed →
      Realizes (st.own + S) (summaryAddReport.go env report fuel j st)
        (Drainprof.summaryAddReport.go env report.content fuel j st.content)
        (fun r r' => r.map SummaryState.content = r' ∧ ∀ st' ∈ r, st'.Backed)
        fun r => r.elim 0 SummaryState.own + S := by
  intro fuel
  induction fuel with
  | zero =>
    intro j st hst
    refine Realizes.pure ⟨rfl, ?_⟩ rfl
    intro st' hst'
    cases hst'
    exact hst
  | succ fuel ih =>
    intro j st hst
    have hmem : ∀ b ∈ report.own, b ∈ st.own + S := fun b hb =>
      Multiset.mem_add.mpr (Or.inr (Multiset.mem_of_le hS hb))
    refine Realizes.use (hmem _ ?_) (Realizes.use (hmem _ ?_) ?_)
    · exact Multiset.mem_add.mpr (Or.inl (Multiset.mem_singleton_self _))
    · exact Multiset.mem_add.mpr (Or.inr (Multiset.mem_singleton_self _))
    refine Realizes.eval ?_
    intro pa _
    refine Realizes.bind S rfl (summaryAddAlloc_realizes hst report.content.granuleId pa) ?_
    rintro r _ - ⟨rfl, hbacked⟩
    cases r with
    | none => exact Realizes.pure ⟨rfl, hbacked⟩ rfl
    | some st' => exact ih (j + 1) st' (hbacked st' rfl)

theorem summaryAddReport_realizes {report : Option PinningReport} {S : Multiset Block}
    (hS : ownReport report ≤ S) {st : SummaryState} (hst : st.Backed) :
    Realizes (st.own + S) (summaryAddReport env report st)
      (Drainprof.summaryAddReport env (report.map PinningReport.content) st.content)
      (fun r r' => r.map SummaryState.content = r' ∧ ∀ st' ∈ r, st'.Backed)
      fun r => r.elim 0 SummaryState.own + S := by
  cases report with
  | none =>
    refine Realizes.pure ⟨rfl, ?_⟩ rfl
    intro st' hst'
    cases hst'
    exact hst
  | some report =>
    refine Realizes.use (Multiset.mem_add.mpr (Or.inr (Multiset.mem_of_le hS ?_))) ?_
    · exact Multiset.mem_add.mpr (Or.inl (Multiset.mem_singleton_self _))
    · exact summaryAddReport.go_realizes hS _ 0
        { st with content := { st.content with reportsAnalyzed := st.content.reportsAnalyzed + 1 } } hst

/-- The loop over the buffer, which keeps all it holds. -/
theorem diagnosticSummaryCompute.go_realizes {buf : ReportBuffer} (h : buf.InOrder) :
    ∀ (fuel i : ℕ) (st : SummaryState), i + fuel = buf.count.toNat → st.Backed →
      Realizes (st.own + buf.own) (diagnosticSummaryCompute.go env buf fuel i st)
        (Drainprof.diagnosticSummaryCompute.go env buf.content fuel i st.content)
        (fun r r' => r.map SummaryState.content = r' ∧ ∀ st' ∈ r, st'.Backed)
        fun r => r.elim 0 SummaryState.own + buf.own := by
  intro fuel
  induction fuel with
  | zero =>
    intro i st _ hst
    refine Realizes.pure ⟨rfl, ?_⟩ rfl
    intro st' hst'
    cases hst'
    exact hst
  | succ fuel ih =>
    intro i st hi hst
    refine Realizes.eval ?_
    intro idx hidx
    refine Realizes.use (Multiset.mem_add.mpr (Or.inr buf.reportsBlock_mem_own)) ?_
    show Realizes _ _ (load (buf.reports.map _) idx >>= _) _ _
    rw [load_map, map_bind]
    refine Realizes.eval ?_
    intro report hload
    have hheld : report ∈ buf.held :=
      List.mem_of_getElem? (h.held_rank (show i < buf.count.toNat by omega) hidx hload)
    refine Realizes.bind 0 (add_zero _).symm
      (summaryAddReport_realizes (buf.ownReport_le_own hheld) hst) ?_
    rintro r _ - ⟨rfl, hbacked⟩
    rw [add_zero]
    cases r with
    | none => exact Realizes.pure ⟨rfl, hbacked⟩ rfl
    | some st' => exact ih (i + 1) st' (by omega) (hbacked st' rfl)

end Loops

/-! ### Summaries -/

/-- The blocks of a summary. -/
def DiagnosticSummary.own (summary : DiagnosticSummary) : Multiset Block :=
  {summary.block} + ownOpt summary.sites

/-- The blocks behind a pointer that may be `NULL`. -/
def ownSummary : Option DiagnosticSummary → Multiset Block
  | none => 0
  | some summary => summary.own

theorem diagnosticSummaryFreeOpt_realizes (summary : Option DiagnosticSummary) :
    Realizes (ownSummary summary) (diagnosticSummaryFreeOpt summary) (.ok ()) (fun _ _ => True)
      fun _ => 0 := by
  cases summary with
  | none => exact Realizes.pure trivial rfl
  | some summary =>
    refine Realizes.use (Multiset.mem_add.mpr (Or.inl (Multiset.mem_singleton_self _))) ?_
    refine Realizes.step {summary.block} (add_comm _ _) (freeOpt_realizes summary.sites) ?_
    intro _ _
    exact Realizes.free_last 0 (add_comm _ _) trivial

/-- A summary gives itself away; without one, nothing is left behind. -/
theorem diagnosticSummaryOfBuffer_realizes (env : Env) {buf : ReportBuffer} (h : buf.InOrder) :
    Realizes buf.own (diagnosticSummaryOfBuffer env buf)
      (Drainprof.diagnosticSummaryOfBuffer env buf.content)
      (fun r r' => r.map DiagnosticSummary.content = r') fun r => ownSummary r + buf.own := by
  have hnone : Realizes buf.own (pure none : Prog (Option DiagnosticSummary)) (.ok none)
      (fun r r' => r.map DiagnosticSummary.content = r') fun r => ownSummary r + buf.own :=
    Realizes.pure rfl (zero_add _).symm
  rw [diagnosticSummaryOfBuffer, Drainprof.diagnosticSummaryOfBuffer]
  refine Realizes.malloc ?_ ?_
  · intro hcalloc
    rw [hcalloc]
    exact hnone
  · intro hcalloc block
    rw [hcalloc]
    refine Realizes.use (Multiset.mem_add.mpr (Or.inr buf.block_mem_own)) ?_
    refine Realizes.malloc ?_ ?_
    · intro htracking
      rw [htracking]
      exact Realizes.free _ rfl hnone
    · intro htracking tracking
      rw [htracking]
      refine Realizes.bind {block} ?_ (diagnosticSummaryCompute.go_realizes h buf.count.toNat 0
        ⟨none, tracking, .initial⟩ (Nat.zero_add _) fun _ => rfl) ?_
      · simp only [SummaryState.own, ownOpt]
        abel
      · rintro r _ - ⟨rfl, hbacked⟩
        cases r with
        | none => exact Realizes.free buf.own (by simp [add_comm]) hnone
        | some st =>
          refine Realizes.free ({block} + ownOpt st.sites + buf.own) ?_ (Realizes.pure rfl rfl)
          show st.own + buf.own + {block} = _
          rw [SummaryState.own]
          abel

end Drainprof.Heap
