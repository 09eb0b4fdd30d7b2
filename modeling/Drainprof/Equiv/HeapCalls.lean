import Mathlib.Data.Finset.Card
import Drainprof.Equiv.HeapGranules
import Drainprof.Equiv.HeapSummary

/-!
# The blocks of each call

Each public call does with blocks what its model does without them: it uses and frees only blocks that
are allocated, and what it allocates belongs to the profiler or is handed to the caller
(`call_realizes`).  `Profiler.Fit n` says that no record array is lost before `n` more registrations.
-/

namespace Drainprof

/-- The call registers an allocation. -/
def Call.registers : Call → Bool
  | .allocRegister _ _ _ => true
  | .allocRegisterLocated _ _ _ _ _ => true
  | _ => false

namespace Heap

open Ownership

/-! ### The profiler and its blocks -/

/-- The blocks of an array of plain slots. -/
def SlotArray.own (arr : SlotArray) : Multiset Block :=
  {arr.block} + {arr.slotsBlock}

theorem SlotArray.block_mem_own (arr : SlotArray) : arr.block ∈ arr.own :=
  Multiset.mem_add.mpr (Or.inl (Multiset.mem_singleton_self _))

theorem SlotArray.slotsBlock_mem_own (arr : SlotArray) : arr.slotsBlock ∈ arr.own :=
  Multiset.mem_add.mpr (Or.inr (Multiset.mem_singleton_self _))

namespace Storage

/-- The storage without blocks. -/
def content : Storage → Drainprof.Storage
  | .slotArray arr => .slotArray arr.content
  | .slotArrayDiag arr => .slotArrayDiag arr.content

/-- The blocks of the storage. -/
def own : Storage → Multiset Block
  | .slotArray arr => arr.own
  | .slotArrayDiag arr => arr.own

/-- The records have room for `n` more registrations. -/
def Fit (n : ℕ) : Storage → Prop
  | .slotArray _ => True
  | .slotArrayDiag arr => arr.Fit n

end Storage

namespace Profiler

/-- The profiler without blocks. -/
def content (prof : Profiler) : Drainprof.Profiler where
  config := prof.config
  counters := prof.counters
  storage := prof.storage.content
  reportBuffer := prof.reportBuffer.map ReportBuffer.content

/-- The blocks of the buffer, if there is one. -/
def ownBuffer : Option ReportBuffer → Multiset Block
  | none => 0
  | some buf => buf.own

/-- The blocks of the profiler. -/
def own (prof : Profiler) : Multiset Block :=
  {prof.block} + (prof.storage.own + ownBuffer prof.reportBuffer)

theorem block_mem_own (prof : Profiler) : prof.block ∈ prof.own :=
  Multiset.mem_add.mpr (Or.inl (Multiset.mem_singleton_self _))

/-- The profiler is in order, with room for `n` more registrations in each record. -/
structure Fit (n : ℕ) (prof : Profiler) : Prop where
  storage : prof.storage.Fit n
  inOrder : ∀ buf ∈ prof.reportBuffer, buf.InOrder

end Profiler

/-! ### Opening -/

section Calls

variable {n : ℕ} {env : Env} {prof : Profiler} {storage : Storage} {id : GranuleId}

theorem storageOpen_realizes (h : storage.Fit n) (hn : n ≤ 2 ^ 31) :
    Realizes storage.own (storageOpen env storage id)
      (Drainprof.storageOpen env storage.content id)
      (fun r r' => (r.1, r.2.content) = r' ∧ r.2.Fit n) fun r => r.2.own := by
  cases storage with
  | slotArray arr =>
    refine Realizes.use arr.block_mem_own (Realizes.use arr.slotsBlock_mem_own ?_)
    exact Realizes.pure ⟨rfl, trivial⟩ rfl
  | slotArrayDiag arr =>
    refine Realizes.bind 0 (add_zero _).symm (slotArrayDiagOpen_realizes h hn) ?_
    rintro ⟨result, arr'⟩ _ - ⟨rfl, h'⟩
    exact Realizes.pure ⟨rfl, h'⟩ (add_zero _)

theorem granuleOpen_realizes (h : prof.Fit n) (hn : n ≤ 2 ^ 31) :
    Realizes prof.own (granuleOpen env prof id) (Drainprof.granuleOpen env prof.content id)
      (fun r r' => (r.1, r.2.content) = r' ∧ r.2.Fit n) fun r => r.2.own := by
  refine Realizes.use prof.block_mem_own ?_
  refine Realizes.bind ({prof.block} + Profiler.ownBuffer prof.reportBuffer) ?_
    (storageOpen_realizes h.storage hn) ?_
  · rw [Profiler.own]
    abel
  · rintro ⟨result, storage'⟩ _ - ⟨rfl, h'⟩
    dsimp only
    split_ifs
    all_goals
      refine Realizes.pure ⟨rfl, h', h.inOrder⟩ ?_
      rw [Profiler.own]
      abel

/-! ### Closing -/

theorem Profiler.reportBuffer_content {buf : Option ReportBuffer} (hbuf : prof.reportBuffer = buf) :
    prof.content.reportBuffer = buf.map ReportBuffer.content := by
  rw [← hbuf]
  rfl

/-- A report goes to the callback and is freed, or the buffer owns it from then on. -/
theorem deliverReport_realizes (h : prof.Fit n) (report : PinningReport) :
    Realizes (prof.own + report.own) (deliverReport prof report)
      (Drainprof.deliverReport prof.content report.content)
      (fun r r' => (r.1.content, r.2) = r' ∧ r.1.Fit n) fun r => r.1.own := by
  have hfreed : ∀ events : List Event, Realizes (prof.own + report.own)
      (do pinningReportFree report; pure (prof, events)) (.ok (prof.content, events))
      (fun r r' => (r.1.content, r.2) = r' ∧ r.1.Fit n) fun r => r.1.own := by
    intro events
    refine Realizes.step prof.own (add_comm _ _) (pinningReportFree_realizes report) ?_
    intro _ _
    exact Realizes.pure ⟨rfl, h⟩ (zero_add _)
  rw [deliverReport, Drainprof.deliverReport, show prof.content.config = prof.config from rfl]
  by_cases hcallback : prof.config.onPinning = true
  · rw [if_pos hcallback, if_pos hcallback]
    exact hfreed _
  · rw [if_neg hcallback, if_neg hcallback]
    cases hbuf : prof.reportBuffer with
    | none =>
      rw [Profiler.reportBuffer_content hbuf]
      exact hfreed _
    | some buf =>
      rw [Profiler.reportBuffer_content hbuf]
      refine Realizes.bind ({prof.block} + prof.storage.own) ?_
        (reportBufferPush_realizes (h.inOrder buf hbuf) report) ?_
      · rw [Profiler.own, hbuf]
        show _ + (_ + buf.own) + _ = _
        abel
      · rintro ⟨freed, buf'⟩ ⟨freed', buf''⟩ - ⟨rfl, rfl, horder⟩
        refine Realizes.pure ⟨?_, h.storage, ?_⟩ ?_
        · cases freed <;> rfl
        · intro buf₁ hbuf₁
          cases hbuf₁
          exact horder
        · show _ = ({prof.block} : Multiset Block) + (prof.storage.own + buf'.own)
          abel

/-- The report branch of a close allocates a report and delivers it. -/
theorem reportPinned_realizes (h : prof.Fit n) (diag : GranuleDiag) :
    Realizes (prof.own + diag.own) (reportPinned env prof id diag)
      (Drainprof.reportPinned env prof.content id diag.content)
      (fun r r' => (r.1.content, r.2) = r' ∧ r.1.Fit n) fun r => r.1.own + diag.own := by
  refine Realizes.bind prof.own (add_comm _ _) granuleDiagGenerateReport_realizes ?_
  rintro report _ - rfl
  cases report with
  | none =>
    refine Realizes.pure ⟨rfl, h⟩ ?_
    show 0 + diag.own + prof.own = _
    abel
  | some report =>
    rw [bind_assoc]
    refine Realizes.bind diag.own ?_ (deliverReport_realizes h report) ?_
    · show report.own + diag.own + prof.own = _
      abel
    · rintro ⟨prof', events⟩ _ - ⟨rfl, h'⟩
      exact Realizes.pure ⟨rfl, h'⟩ rfl

/-- A close destroys the record that it takes out of the array. -/
theorem granuleClose_realizes (h : prof.Fit n) :
    Realizes prof.own (granuleClose env prof id) (Drainprof.granuleClose env prof.content id)
      (fun r r' => (r.1, r.2.1.content, r.2.2) = r' ∧ r.2.1.Fit n) fun r => r.2.1.own := by
  obtain ⟨block, config, counters, storage, reportBuffer⟩ := prof
  refine Realizes.use (Profiler.block_mem_own _) ?_
  rw [Drainprof.granuleClose, Profiler.own]
  dsimp only [Profiler.content]
  cases storage with
  | slotArray arr =>
    refine Realizes.use ?_ (Realizes.use ?_ ?_)
    · exact Multiset.mem_add.mpr (Or.inr (Multiset.mem_add.mpr (Or.inl arr.block_mem_own)))
    · exact Multiset.mem_add.mpr (Or.inr (Multiset.mem_add.mpr (Or.inl arr.slotsBlock_mem_own)))
    · dsimp only [Storage.content]
      split_ifs
      all_goals exact Realizes.pure ⟨rfl, trivial, h.inOrder⟩ rfl
  | slotArrayDiag arr =>
    refine Realizes.bind ({block} + Profiler.ownBuffer reportBuffer) ?_
      (slotArrayDiagClose_realizes h.storage) ?_
    · show _ + (arr.own + _) = _
      abel
    · rintro closed _ - ⟨rfl, hfit⟩
      cases closed with
      | none =>
        refine Realizes.pure ⟨rfl, h⟩ ?_
        show arr.own + _ = _ + (arr.own + _)
        abel
      | some closed =>
        obtain ⟨diag, arr'⟩ := closed
        dsimp only [Option.map_some]
        -- the profiler without the record, which is the caller's now
        let cleared : Profiler := ⟨block, config, counters, .slotArrayDiag arr', reportBuffer⟩
        have h' : cleared.Fit n := ⟨hfit _ rfl, h.inOrder⟩
        have hown : diag.own + arr'.own + ({block} + Profiler.ownBuffer reportBuffer)
            = cleared.own + diag.own := by
          show _ = {block} + (arr'.own + _) + diag.own
          abel
        have hreported : Realizes (cleared.own + diag.own)
            (if diag.content.liveCount = 0 then pure (cleared, [])
              else reportPinned env cleared id diag)
            (if diag.content.liveCount = 0 then .ok (cleared.content, [])
              else Drainprof.reportPinned env cleared.content id diag.content)
            (fun r r' => (r.1.content, r.2) = r' ∧ r.1.Fit n) fun r => r.1.own + diag.own := by
          split_ifs
          · exact Realizes.pure ⟨rfl, h'⟩ rfl
          · exact reportPinned_realizes h' diag
        refine Realizes.use ?_ (Realizes.bind 0 ?_ hreported ?_)
        · exact Multiset.mem_add.mpr (Or.inl (Multiset.mem_add.mpr (Or.inl diag.block_mem_own)))
        · show diag.own + arr'.own + _ = _
          rw [hown, add_zero]
        · rintro ⟨prof', events⟩ _ - ⟨rfl, hfit'⟩
          refine Realizes.of_forall ?_
          intro r hr
          obtain ⟨_, -, hr⟩ := bind_eq_ok.mp hr
          cases hr
          refine Realizes.step prof'.own ?_ (granuleDiagDestroy_realizes diag) ?_
          · rw [add_zero, add_comm]
          · intro _ _
            exact Realizes.pure ⟨rfl, hfit'.storage, hfit'.inOrder⟩ (zero_add _)

/-! ### Allocations -/

/-- The array without the record of a slot. -/
theorem SlotArrayDiag.own_eq_add (arr : SlotArrayDiag) (i : Fin arr.capacity.toNat) (s : DiagSlot) :
    (arr.setSlot i s).own = s.own + (arr.setSlot i ⟨false, none⟩).own := by
  have hset := arr.own_setSlot i s
  have hclear := arr.own_setSlot i ⟨false, none⟩
  rw [show DiagSlot.own ⟨false, none⟩ = 0 from rfl, add_zero] at hclear
  apply add_right_cancel (b := (arr.slot i).own)
  rw [hset, add_assoc, hclear, add_comm]

theorem SlotArrayDiag.own_of_slot {arr : SlotArrayDiag} {i : Fin arr.capacity.toNat}
    {diag : GranuleDiag} (hslot : arr.slot i = ⟨true, some diag⟩) :
    arr.own = diag.own + (arr.setSlot i ⟨false, none⟩).own := by
  have hclear := arr.own_setSlot i ⟨false, none⟩
  rw [hslot, show DiagSlot.own ⟨false, none⟩ = 0 from rfl, add_zero] at hclear
  rw [← hclear, add_comm]
  rfl

/-- A registration grows the record in its slot. -/
theorem storageRegister_realizes (h : storage.Fit (n + 1)) {allocId : AllocId} {size : UInt64}
    {file : FilePtr} {line : UInt32} :
    Realizes storage.own (storageRegister env storage id allocId size file line)
      (Drainprof.storageRegister env storage.content id allocId size file line)
      (fun r r' => (r.1, r.2.content) = r' ∧ r.2.Fit n) fun r => r.2.own := by
  cases storage with
  | slotArray arr =>
    refine Realizes.use arr.block_mem_own (Realizes.use arr.slotsBlock_mem_own ?_)
    exact Realizes.pure ⟨rfl, trivial⟩ rfl
  | slotArrayDiag arr =>
    refine Realizes.bind 0 (add_zero _).symm slotArrayDiagGet_realizes ?_
    rintro found _ - ⟨rfl, hin⟩
    cases found with
    | none => exact Realizes.pure ⟨rfl, SlotArrayDiag.Fit.mono h⟩ (add_zero _)
    | some found =>
      obtain ⟨i, diag⟩ := found
      have hslot := hin _ rfl
      have hdiag : diag.Fit (n + 1) := (SlotArrayDiag.Fit.slot h i).diag diag (by rw [hslot]; rfl)
      refine Realizes.bind (arr.setSlot i ⟨false, none⟩).own ?_
        (granuleDiagAddAlloc_realizes hdiag.capacity_ne) ?_
      · rw [add_zero]
        exact SlotArrayDiag.own_of_slot hslot
      · rintro ⟨result, diag'⟩ _ hadd rfl
        refine Realizes.pure ⟨?_, (SlotArrayDiag.Fit.mono h).setSlot (hdiag.addAlloc hadd).slot i⟩ ?_
        · show (result, Drainprof.Storage.slotArrayDiag (arr.setSlot i ⟨true, some diag'⟩).content) = _
          rw [arr.setSlot_content]
          rfl
        · exact (arr.own_eq_add i ⟨true, some diag'⟩).symm

theorem storageDeregister_realizes (h : storage.Fit n) {allocId : AllocId} :
    Realizes storage.own (storageDeregister env storage id allocId)
      (Drainprof.storageDeregister env storage.content id allocId)
      (fun r r' => (r.1, r.2.content) = r' ∧ r.2.Fit n) fun r => r.2.own := by
  cases storage with
  | slotArray arr =>
    refine Realizes.use arr.block_mem_own (Realizes.use arr.slotsBlock_mem_own ?_)
    exact Realizes.pure ⟨rfl, trivial⟩ rfl
  | slotArrayDiag arr =>
    refine Realizes.bind 0 (add_zero _).symm slotArrayDiagGet_realizes ?_
    rintro found _ - ⟨rfl, hin⟩
    cases found with
    | none => exact Realizes.pure ⟨rfl, h⟩ (add_zero _)
    | some found =>
      obtain ⟨i, diag⟩ := found
      have hslot := hin _ rfl
      have hdiag : diag.Fit n := (SlotArrayDiag.Fit.slot h i).diag diag (by rw [hslot]; rfl)
      refine Realizes.bind (arr.setSlot i ⟨false, none⟩).own ?_ granuleDiagMarkFreed_realizes ?_
      · rw [add_zero]
        exact SlotArrayDiag.own_of_slot hslot
      · rintro ⟨result, diag'⟩ _ hfree rfl
        refine Realizes.pure ⟨?_, SlotArrayDiag.Fit.setSlot h (hdiag.markFreed hfree).slot i⟩ ?_
        · show (result, Drainprof.Storage.slotArrayDiag (arr.setSlot i ⟨true, some diag'⟩).content) = _
          rw [arr.setSlot_content]
          rfl
        · exact (arr.own_eq_add i ⟨true, some diag'⟩).symm

/-- A call on the storage leaves the other blocks of the profiler alone. -/
theorem storage_realizes {p : Prog (Int × Storage)} {x : Exec (Int × Drainprof.Storage)} {k : ℕ}
    (h : prof.Fit n) (counters : Counters)
    (hp : Realizes prof.storage.own p x
      (fun r r' => (r.1, r.2.content) = r' ∧ r.2.Fit k) fun r => r.2.own) :
    Realizes prof.own
      (do
        use prof.block
        let (result, storage) ← p
        pure (result, { prof with counters := counters, storage := storage }))
      (do
        let (result, storage) ← x
        .ok (result, { prof.content with counters := counters, storage := storage }))
      (fun r r' => (r.1, r.2.content) = r' ∧ r.2.Fit k) fun r => r.2.own := by
  refine Realizes.use prof.block_mem_own ?_
  refine Realizes.bind ({prof.block} + Profiler.ownBuffer prof.reportBuffer) ?_ hp ?_
  · rw [Profiler.own]
    abel
  · rintro ⟨result, storage'⟩ _ - ⟨rfl, h'⟩
    refine Realizes.pure ⟨rfl, h', h.inOrder⟩ ?_
    rw [Profiler.own]
    abel

theorem allocRegisterLocated_realizes (h : prof.Fit (n + 1)) {allocId : AllocId} {size : UInt64}
    {file : FilePtr} {line : UInt32} :
    Realizes prof.own (allocRegisterLocated env prof id allocId size file line)
      (Drainprof.allocRegisterLocated env prof.content id allocId size file line)
      (fun r r' => (r.1, r.2.content) = r' ∧ r.2.Fit n) fun r => r.2.own :=
  storage_realizes h _ (storageRegister_realizes h.storage)

theorem allocDeregister_realizes (h : prof.Fit n) {allocId : AllocId} :
    Realizes prof.own (allocDeregister env prof id allocId)
      (Drainprof.allocDeregister env prof.content id allocId)
      (fun r r' => (r.1, r.2.content) = r' ∧ r.2.Fit n) fun r => r.2.own :=
  storage_realizes h _ (storageDeregister_realizes h.storage)

/-! ### Queries -/

/-- The sweep loop reads the records in the slots. -/
theorem sweptCounts_realizes {P : Multiset Block} :
    ∀ slots : List DiagSlot, (∀ s ∈ slots, s.own ≤ P) →
      Realizes P (sweptCounts slots)
        (.ok ((slots.map DiagSlot.content).filterMap fun s =>
          if s.occupied then s.diag.map Drainprof.GranuleDiag.liveCount else none))
        (fun r r' => r = r') fun _ => P := by
  intro slots
  induction slots with
  | nil =>
    intro _
    exact Realizes.pure rfl rfl
  | cons s slots ih =>
    intro hslots
    have hrest := ih fun s' hs' => hslots s' (List.mem_cons_of_mem _ hs')
    have hown := hslots s List.mem_cons_self
    obtain ⟨occupied, diag⟩ := s
    cases occupied with
    | false => exact hrest
    | true =>
      cases diag with
      | none => exact hrest
      | some diag =>
        refine Realizes.use (Multiset.mem_of_le hown diag.block_mem_own) ?_
        refine Realizes.step 0 (add_zero _).symm hrest ?_
        rintro counts rfl
        exact Realizes.pure rfl (add_zero _)

theorem SlotArrayDiag.slots_own_le (arr : SlotArrayDiag) : ∀ s ∈ arr.slots, s.own ≤ arr.own := by
  intro s hs
  have hsum : s.own ≤ (arr.slots.map DiagSlot.own).sum :=
    List.le_sum_of_mem (List.mem_map_of_mem hs)
  exact hsum.trans ((Multiset.le_add_left _ _).trans (Multiset.le_add_left _ _))

theorem Profiler.storage_own_le (prof : Profiler) : prof.storage.own ≤ prof.own :=
  (Multiset.le_add_right _ _).trans (Multiset.le_add_left _ _)

/-- A sweep reads the array and its records. -/
theorem sweep_realizes (env : Env) (prof : Profiler) :
    Realizes prof.own (sweep env prof) (.ok (Drainprof.sweep env prof.content))
      (fun r r' => r = r') fun _ => prof.own := by
  have hcounts : Realizes prof.own
      (match prof.storage with
        | .slotArray arr => do
          use arr.block
          use arr.slotsBlock
          pure (Drainprof.sweptCounts (.slotArray arr.content))
        | .slotArrayDiag arr => do
          use arr.block
          use arr.slotsBlock
          sweptCounts arr.slots)
      (.ok (Drainprof.sweptCounts prof.content.storage)) (fun r r' => r = r') fun _ => prof.own := by
    have hle := prof.storage_own_le
    rw [show prof.content.storage = prof.storage.content from rfl]
    cases hs : prof.storage with
    | slotArray arr =>
      rw [hs] at hle
      refine Realizes.use (Multiset.mem_of_le hle arr.block_mem_own)
        (Realizes.use (Multiset.mem_of_le hle arr.slotsBlock_mem_own) ?_)
      exact Realizes.pure rfl rfl
    | slotArrayDiag arr =>
      rw [hs] at hle
      refine Realizes.use (Multiset.mem_of_le hle arr.block_mem_own)
        (Realizes.use (Multiset.mem_of_le hle arr.slotsBlock_mem_own) ?_)
      exact sweptCounts_realizes arr.slots fun s hmem => (arr.slots_own_le s hmem).trans hle
  refine Realizes.use prof.block_mem_own (Realizes.step 0 (add_zero _).symm hcounts ?_)
  rintro counts rfl
  exact Realizes.pure rfl (add_zero _)

theorem reset_realizes (h : prof.Fit n) :
    Realizes prof.own (reset prof) (.ok (Drainprof.reset prof.content))
      (fun r r' => r.content = r' ∧ r.Fit n) fun r => r.own := by
  obtain ⟨block, config, counters, storage, reportBuffer⟩ := prof
  refine Realizes.use (Profiler.block_mem_own _) ?_
  cases storage with
  | slotArray arr =>
    refine Realizes.use ?_ (Realizes.use ?_ ?_)
    · exact Multiset.mem_add.mpr (Or.inr (Multiset.mem_add.mpr (Or.inl arr.block_mem_own)))
    · exact Multiset.mem_add.mpr (Or.inr (Multiset.mem_add.mpr (Or.inl arr.slotsBlock_mem_own)))
    · exact Realizes.pure ⟨rfl, trivial, h.inOrder⟩ rfl
  | slotArrayDiag arr => exact Realizes.pure ⟨rfl, h.storage, h.inOrder⟩ rfl

/-- A drain gives the reports to the caller. -/
theorem drainReports_realizes (h : prof.Fit n) (maxReports : UInt32) :
    Realizes prof.own (drainReports prof maxReports)
      (Drainprof.drainReports prof.content maxReports)
      (fun r r' => ((r.1.1, r.1.2.map (Option.map PinningReport.content)), r.2.content) = r' ∧
        r.2.Fit n)
      fun r => r.2.own + (r.1.2.map ownReport).sum := by
  obtain ⟨block, config, counters, storage, reportBuffer⟩ := prof
  refine Realizes.use (Profiler.block_mem_own _) ?_
  cases storage with
  | slotArray arr => exact Realizes.pure ⟨rfl, h⟩ (add_zero _).symm
  | slotArrayDiag arr =>
    cases reportBuffer with
    | none => exact Realizes.pure ⟨rfl, h⟩ (add_zero _).symm
    | some buf =>
      refine Realizes.bind ({block} + arr.own) ?_
        (reportBufferDrain_realizes (h.inOrder buf rfl) maxReports) ?_
      · show {block} + (arr.own + buf.own) = _
        abel
      · rintro ⟨⟨count, out⟩, buf'⟩ ⟨out', buf''⟩ - ⟨rfl, rfl, horder⟩
        refine Realizes.pure ⟨rfl, h.storage, ?_⟩ ?_
        · intro buf₁ hbuf₁
          cases hbuf₁
          exact horder
        · show _ = {block} + (arr.own + buf'.own) + _
          abel

/-- A summary belongs to the caller. -/
theorem diagnosticSummaryCompute_realizes (h : prof.Fit n) (env : Env) :
    Realizes prof.own (diagnosticSummaryCompute env prof)
      (Drainprof.diagnosticSummaryCompute env prof.content)
      (fun r r' => r.map DiagnosticSummary.content = r') fun r => ownSummary r + prof.own := by
  obtain ⟨block, config, counters, storage, reportBuffer⟩ := prof
  refine Realizes.use (Profiler.block_mem_own _) ?_
  cases storage with
  | slotArray arr => exact Realizes.pure rfl (zero_add _).symm
  | slotArrayDiag arr =>
    cases reportBuffer with
    | none => exact Realizes.pure rfl (zero_add _).symm
    | some buf =>
      have hsummary := (diagnosticSummaryOfBuffer_realizes env (h.inOrder buf rfl)).frame
        ({block} + arr.own)
      refine (hsummary.of_eq ?_).mono (fun _ _ hR => hR) ?_
      · show {block} + (arr.own + buf.own) = _
        abel
      · intro r _ _
        show _ = _ + ({block} + (arr.own + buf.own))
        abel

end Calls

/-! ### Every call -/

/-- The blocks that a call hands to the caller. -/
def Outcome.own (o : Outcome) : Multiset Block :=
  (o.reports.map ownReport).sum + ownSummary o.summary

/-- The room that a call needs in the records, where `n` more registrations follow. -/
def roomFor (c : Call) (n : ℕ) : ℕ :=
  if c.registers then n + 1 else n

/-- Each call does with blocks what its model does without them, uses only blocks that are allocated,
and accounts for what it allocates: the profiler or the caller owns it. -/
theorem call_realizes {n : ℕ} (hn : n ≤ 2 ^ 31) {prof : Profiler} {env : Env} {c : Call}
    (h : prof.Fit (roomFor c n)) :
    Realizes prof.own (prof.call (env, c)) (prof.content.call (env, c))
      (fun r r' => r.1.content = r'.1 ∧ r.2.content = r'.2 ∧ r.2.Fit n)
      fun r => r.2.own + r.1.own := by
  -- a call that hands nothing over
  have hplain : ∀ {p : Prog (Int × Profiler)} {x : Exec (Int × Drainprof.Profiler)},
      Realizes prof.own p x (fun r r' => (r.1, r.2.content) = r' ∧ r.2.Fit n) (fun r => r.2.own) →
      Realizes prof.own (p >>= fun r => pure (⟨⟨.int r.1, []⟩, [], none⟩, r.2))
        (x >>= fun r => .ok (⟨.int r.1, []⟩, r.2))
        (fun r r' => r.1.content = r'.1 ∧ r.2.content = r'.2 ∧ r.2.Fit n)
        fun r => r.2.own + Outcome.own r.1 := by
    intro p x hp
    refine Realizes.bind 0 (add_zero _).symm hp ?_
    rintro ⟨r, prof'⟩ _ - ⟨rfl, h'⟩
    exact Realizes.pure ⟨rfl, rfl, h'⟩ rfl
  cases c with
  | granuleOpen id => exact hplain (granuleOpen_realizes h hn)
  | granuleClose id =>
    refine Realizes.bind 0 (add_zero _).symm (granuleClose_realizes h) ?_
    rintro ⟨r, prof', events⟩ _ - ⟨rfl, h'⟩
    exact Realizes.pure ⟨rfl, rfl, h'⟩ rfl
  | allocRegister g a size => exact hplain (allocRegisterLocated_realizes h)
  | allocRegisterLocated g a size file line => exact hplain (allocRegisterLocated_realizes h)
  | allocDeregister g a => exact hplain (allocDeregister_realizes h)
  | snapshot => exact Realizes.use prof.block_mem_own (Realizes.pure ⟨rfl, rfl, h⟩ (add_zero _).symm)
  | sweep =>
    refine Realizes.step 0 (add_zero _).symm (sweep_realizes env prof) ?_
    rintro s rfl
    exact Realizes.pure ⟨rfl, rfl, h⟩ rfl
  | reset =>
    refine Realizes.step 0 (add_zero _).symm (reset_realizes h) ?_
    rintro prof' ⟨hcontent, h'⟩
    exact Realizes.pure ⟨rfl, hcontent, h'⟩ rfl
  | drainReports k =>
    refine Realizes.bind 0 (add_zero _).symm (drainReports_realizes h k) ?_
    rintro ⟨⟨count, reports⟩, prof'⟩ _ - ⟨rfl, h'⟩
    refine Realizes.pure ⟨rfl, rfl, h'⟩ ?_
    show _ + 0 = prof'.own + (_ + 0)
    rw [add_zero, add_zero]
  | diagnosticSummaryCompute =>
    refine Realizes.bind 0 (add_zero _).symm (diagnosticSummaryCompute_realizes h env) ?_
    rintro s _ - rfl
    refine Realizes.pure ⟨rfl, rfl, h⟩ ?_
    show _ = prof.own + (0 + ownSummary s)
    abel

end Heap

end Drainprof
