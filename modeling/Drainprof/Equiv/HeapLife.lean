import Drainprof.Equiv.HeapCalls
import Drainprof.Equiv.Reset

/-!
# A profiler leaks nothing

A profiler that is created, used in any way, with any memory failing, and destroyed leaves nothing
behind, once the caller has freed what it was handed, and a creation that fails leaves nothing behind
either (`life_leaks_nothing`).  While it is used it holds a bounded number of blocks, however many
granules come and go (`memory_bounded`).
-/

namespace Drainprof

/-- How many of the calls register an allocation. -/
def registeringCalls (calls : List (Env × Call)) : ℕ :=
  calls.countP fun i => i.2.registers

namespace Heap

open Ownership

/-! ### Runs -/

/-- Calls in a row do with blocks what their models do without them.  What the profiler does not own
in the end has been handed to the caller. -/
theorem calls_realize {prof : Profiler} {calls : List (Env × Call)}
    (hcalls : registeringCalls calls ≤ 2 ^ 31) (h : prof.Fit (registeringCalls calls)) :
    Realizes prof.own (Ownership.run Profiler.call prof calls)
      (Transition.run Drainprof.Profiler.call prof.content calls)
      (fun r r' => r.1.map Outcome.content = r'.1 ∧ r.2.content = r'.2 ∧ r.2.Fit 0)
      fun r => r.2.own + (r.1.map Outcome.own).sum := by
  have hstep : ∀ (s : Profiler) (t : Drainprof.Profiler) (i : Env × Call) (is : List (Env × Call)),
      (s.content = t ∧ registeringCalls (i :: is) ≤ 2 ^ 31 ∧ s.Fit (registeringCalls (i :: is))) →
      Realizes s.own (s.call i) (t.call i)
        (fun r r' => r.1.content = r'.1 ∧
          (r.2.content = r'.2 ∧ registeringCalls is ≤ 2 ^ 31 ∧ r.2.Fit (registeringCalls is)))
        fun r => r.2.own + r.1.own := by
    rintro s _ ⟨env, c⟩ is ⟨rfl, hle, hfit⟩
    have hroom : registeringCalls ((env, c) :: is) = roomFor c (registeringCalls is) := by
      rw [registeringCalls, List.countP_cons, roomFor]
      split_ifs <;> rfl
    have hrest : registeringCalls is ≤ 2 ^ 31 :=
      (List.Sublist.countP_le (List.sublist_cons_self _ _)).trans hle
    rw [hroom] at hfit
    exact (call_realizes hrest hfit).mono (fun _ _ hr => ⟨hr.1, hr.2.1, hrest, hr.2.2⟩)
      fun _ _ _ => rfl
  have hrun := @run_realizes _ _ _ _ _ _ Profiler.call Drainprof.Profiler.call
    (fun is s t => s.content = t ∧ registeringCalls is ≤ 2 ^ 31 ∧ s.Fit (registeringCalls is))
    Outcome.content Profiler.own Outcome.own hstep calls prof prof.content ⟨rfl, hcalls, h⟩
  exact hrun.mono (fun _ _ hr => ⟨hr.1, hr.2.1, hr.2.2.2⟩) fun _ _ _ => rfl

/-! ### Creation -/

section Creation

variable {env : Env} {config : Config} {n : ℕ}

theorem slotArrayCreate_realizes (env : Env) (capacity : UInt32) :
    Realizes 0 (slotArrayCreate env capacity) (.ok (Drainprof.slotArrayCreate env capacity))
      (fun r r' => r.map SlotArray.content = r') fun r => r.elim 0 SlotArray.own := by
  have hnone : Realizes 0 (pure none : Prog (Option SlotArray)) (.ok none)
      (fun r r' => r.map SlotArray.content = r') fun r => r.elim 0 SlotArray.own :=
    Realizes.pure rfl rfl
  rw [slotArrayCreate]
  by_cases hzero : capacity = 0
  · rw [if_pos hzero, Drainprof.slotArrayCreate, dif_pos hzero]
    exact hnone
  · rw [if_neg hzero]
    refine Realizes.malloc ?_ ?_
    · intro hmalloc
      rw [Drainprof.slotArrayCreate, dif_neg hzero, hmalloc]
      exact hnone
    · intro hmalloc block
      refine Realizes.malloc ?_ ?_
      · intro hcalloc
        rw [Drainprof.slotArrayCreate, dif_neg hzero, hmalloc, hcalloc]
        exact Realizes.free 0 rfl hnone
      · intro hcalloc slotsBlock
        refine Realizes.use (Multiset.mem_add.mpr (Or.inl (Multiset.mem_singleton_self _))) ?_
        rw [Drainprof.slotArrayCreate, dif_neg hzero, hmalloc, hcalloc]
        refine Realizes.pure rfl ?_
        show _ = ({block} : Multiset Block) + {slotsBlock}
        abel

/-- An array whose records are in order can be destroyed. -/
theorem slotArrayDiagDestroy_of_fit {arr : SlotArrayDiag} (h : arr.Fit n) :
    Drainprof.slotArrayDiagDestroy arr.content = .ok () := by
  have hgo : ∀ slots : List DiagSlot, (∀ s ∈ slots, s.Fit n) →
      Drainprof.slotArrayDiagDestroy.go (slots.map DiagSlot.content) = .ok () := by
    intro slots
    induction slots with
    | nil =>
      intro _
      rfl
    | cons s slots ih =>
      intro hslots
      have hrest := ih fun s' hs' => hslots s' (List.mem_cons_of_mem _ hs')
      have hs := hslots s List.mem_cons_self
      obtain ⟨occupied, diag⟩ := s
      rw [List.map_cons, Drainprof.slotArrayDiagDestroy.go]
      cases diag with
      | none => exact hrest
      | some diag =>
        show (Drainprof.granuleDiagDestroy diag.content >>= fun _ => _) = _
        rw [(hs.diag diag rfl).wf.destroy, ok_bind, hrest]
  exact hgo arr.slots h

theorem created_null :
    Realizes 0 (pure none : Prog (Option Profiler)) (.ok none)
      (fun r r' => r.map Profiler.content = r' ∧ ∀ prof ∈ r, prof.Fit n)
      fun r => r.elim 0 Profiler.own :=
  Realizes.pure ⟨rfl, fun _ h => nomatch h⟩ rfl

/-- The last part of a creation in diagnostic mode.  Without a buffer, what had been made before is
destroyed again. -/
theorem createBuffer_realizes {block : Block} {arr : SlotArrayDiag} (harr : arr.Fit n) :
    Realizes (arr.own + {block})
      (do
        match ← reportBufferCreate env config.maxBufferedReports with
        | none => do
          slotArrayDiagDestroy arr
          free block
          pure none
        | some buf => pure (some ⟨block, config, .zero, .slotArrayDiag arr, some buf⟩))
      (.ok ((Drainprof.reportBufferCreate env config.maxBufferedReports).map fun buf =>
        ⟨config, .zero, .slotArrayDiag arr.content, some buf⟩))
      (fun r r' => r.map Profiler.content = r' ∧ ∀ prof ∈ r, prof.Fit n)
      fun r => r.elim 0 Profiler.own := by
  refine Realizes.step (arr.own + {block}) (zero_add _).symm
    (reportBufferCreate_realizes env config.maxBufferedReports) ?_
  rintro buf ⟨hbuf, horder⟩
  rw [← hbuf]
  cases buf with
  | none =>
    have hdestroy := slotArrayDiagDestroy_realizes arr
    rw [slotArrayDiagDestroy_of_fit harr] at hdestroy
    refine Realizes.step {block} (zero_add _) hdestroy ?_
    intro _ _
    exact Realizes.free 0 (by rw [zero_add, add_zero]) created_null
  | some buf =>
    refine Realizes.pure ⟨rfl, ?_⟩ ?_
    · intro prof hprof
      cases hprof
      refine ⟨harr, ?_⟩
      intro buf' hbuf'
      cases hbuf'
      exact horder buf rfl
    · show buf.own + (arr.own + {block}) = {block} + (arr.own + buf.own)
      abel

/-- A creation owns what it has allocated, and has freed all of it when it returns `NULL`. -/
theorem createWithConfig_realizes (env : Env) (config : Config) (n : ℕ) :
    Realizes 0 (createWithConfig env config) (.ok (Drainprof.createWithConfig env config))
      (fun r r' => r.map Profiler.content = r' ∧ ∀ prof ∈ r, prof.Fit n)
      fun r => r.elim 0 Profiler.own := by
  rw [createWithConfig, Drainprof.createWithConfig]
  refine Realizes.malloc ?_ ?_
  · intro hmalloc
    rw [hmalloc]
    exact created_null
  · intro hmalloc block
    rw [hmalloc, Bool.not_true, if_neg Bool.false_ne_true]
    cases hmode : config.mode with
    | production =>
      cases hstorage : config.storage with
      | hashMap => exact Realizes.free 0 (add_zero _) created_null
      | slotArray =>
        refine Realizes.step {block} (by rw [add_zero, zero_add])
          (slotArrayCreate_realizes env config.slotCapacity) ?_
        intro arr harr
        rw [← harr]
        cases arr with
        | none => exact Realizes.free 0 (by rw [add_zero]; exact zero_add _) created_null
        | some arr =>
          refine Realizes.pure ⟨rfl, ?_⟩ ?_
          · intro prof hprof
            cases hprof
            exact ⟨trivial, fun _ h => nomatch h⟩
          · show arr.own + {block} = {block} + (arr.own + 0)
            abel
    | diagnostic =>
      cases hstorage : config.storage with
      | hashMap => exact Realizes.free 0 (add_zero _) created_null
      | slotArray =>
        refine Realizes.step {block} (by rw [add_zero, zero_add])
          (slotArrayDiagCreate_realizes env config.slotCapacity n) ?_
        rintro arr ⟨harr, hfit⟩
        rw [← harr]
        cases arr with
        | none => exact Realizes.free 0 (by rw [add_zero]; exact zero_add _) created_null
        | some arr =>
          dsimp only [Option.map_some, Option.elim_some]
          by_cases hcallback : config.onPinning = true
          · rw [if_pos hcallback, if_pos hcallback]
            refine Realizes.pure ⟨rfl, ?_⟩ ?_
            · intro prof hprof
              cases hprof
              exact ⟨hfit arr rfl, fun _ h => nomatch h⟩
            · show arr.own + {block} = {block} + (arr.own + 0)
              abel
          · rw [if_neg hcallback, if_neg hcallback]
            exact createBuffer_realizes (hfit arr rfl)

end Creation

/-! ### Destruction -/

/-- What calls leave as the creation made it: the mode has its own storage, and the buffer its
capacity. -/
structure Kept (config : Config) (prof : Drainprof.Profiler) : Prop where
  noBuffer : ∀ arr, prof.storage = .slotArray arr → prof.reportBuffer = none
  capacity : ∀ arr, prof.storage = .slotArrayDiag arr → arr.capacity = config.slotCapacity
  buffer : ∀ buf ∈ prof.reportBuffer, config.mode = .diagnostic ∧ config.onPinning = false ∧
    buf.capacity = config.maxBufferedReports ∧ ∃ rs, buf.Holds rs

theorem kept_of_run {env : Env} {config : Config} {prof prof' : Drainprof.Profiler}
    {calls : List (Env × Call)} {os : List Drainprof.Outcome}
    (hcreate : Drainprof.createWithConfig env config = some prof)
    (hrun : Transition.run Drainprof.Profiler.call prof calls = .ok (os, prof')) :
    Kept config prof' := by
  cases hmode : config.mode with
  | production =>
    obtain ⟨hnone, arr, hs, -⟩ := run_production hcreate hmode hrun
    refine ⟨fun _ _ => hnone, ?_, ?_⟩
    · intro arr' hs'
      rw [hs] at hs'
      cases hs'
    · intro buf hbuf
      rw [hnone] at hbuf
      cases hbuf
  | diagnostic =>
    obtain ⟨hconfig, -, -, arr, hs, hcap, -⟩ := createWithConfig_diag hcreate hmode
    obtain ⟨rs, hrs⟩ := run_buffers hcreate hmode hrun
    obtain ⟨arr₁, hs₁, hcap₁⟩ := run_diag_capacity hs hrun
    rw [Drainprof.Profiler.Buffers, (run_config hrun).trans hconfig] at hrs
    refine ⟨?_, ?_, ?_⟩
    · intro arr' hs'
      rw [hs₁] at hs'
      cases hs'
    · intro arr' hs'
      rw [hs₁] at hs'
      cases hs'
      exact hcap₁.trans hcap
    · intro buf hbuf
      split_ifs at hrs with hcallback
      · rw [hrs.1] at hbuf
        cases hbuf
      · obtain ⟨buf', hbuf', hholds, hbufCap⟩ := hrs
        rw [hbuf'] at hbuf
        cases hbuf
        exact ⟨hmode, Bool.eq_false_iff.mpr hcallback, hbufCap, rs, hholds⟩

theorem slotArrayDestroy_realizes (arr : SlotArray) :
    Realizes arr.own (slotArrayDestroy arr) (.ok ()) (fun _ _ => True) fun _ => 0 :=
  Realizes.use arr.block_mem_own
    (Realizes.free {arr.block} (add_comm _ _) (Realizes.free_last 0 (add_zero _).symm trivial))

/-- A destruction frees all that the profiler owns.  In a buffer of more than `2 ^ 31` slots it would
miss reports. -/
theorem destroy_realizes {n : ℕ} {config : Config} {prof : Profiler} (h : prof.Fit n)
    (hkept : Kept config prof.content)
    (hsmall : config.mode = .production ∨ config.onPinning = true ∨
      config.maxBufferedReports.toNat ≤ 2 ^ 31) :
    Realizes prof.own (destroy prof) (.ok ()) (fun _ _ => True) fun _ => 0 := by
  have hbuffer : ∀ buf ∈ prof.reportBuffer,
      Realizes buf.own (reportBufferDestroy buf) (.ok ()) (fun _ _ => True) fun _ => 0 := by
    intro buf hbuf
    obtain ⟨hmode, hcallback, hcap, rs, hrs⟩ :=
      hkept.buffer buf.content (Option.mem_map_of_mem _ hbuf)
    have hle : buf.capacity.toNat ≤ 2 ^ 31 := by
      rw [show buf.capacity = config.maxBufferedReports from hcap]
      rw [hmode, hcallback] at hsmall
      simpa using hsmall
    have hdestroy := reportBufferDestroy_realizes (h.inOrder buf hbuf) hle
    rw [reportBufferDestroy_eq hrs] at hdestroy
    intro m F _ hm _
    exact hdestroy m F _ hm rfl
  have hstorage : Realizes (prof.storage.own + Profiler.ownBuffer prof.reportBuffer)
      (storageDestroy prof.storage prof.reportBuffer) (.ok ()) (fun _ _ => True) fun _ => 0 := by
    have hfit := h.storage
    cases hs : prof.storage with
    | slotArray arr =>
      have hnone : prof.content.reportBuffer = none :=
        hkept.noBuffer arr.content (by rw [Profiler.content, hs]; rfl)
      rw [Option.map_eq_none_iff.mp hnone]
      exact (slotArrayDestroy_realizes arr).of_eq (add_zero _)
    | slotArrayDiag arr =>
      rw [hs] at hfit
      have harr := slotArrayDiagDestroy_realizes arr
      rw [slotArrayDiagDestroy_of_fit hfit] at harr
      refine Realizes.step (Profiler.ownBuffer prof.reportBuffer) rfl harr ?_
      intro _ _
      cases hbuf : prof.reportBuffer with
      | none => exact Realizes.pure trivial (zero_add _)
      | some buf => exact (hbuffer buf hbuf).of_eq (zero_add _)
  refine Realizes.use prof.block_mem_own ?_
  refine Realizes.step {prof.block} (add_comm _ _) hstorage ?_
  intro _ _
  exact Realizes.free_last 0 (by rw [zero_add, add_zero]) trivial

/-! ### What the caller frees -/

theorem freeReports_realizes :
    ∀ reports : List (Option PinningReport),
      Realizes (reports.map ownReport).sum (freeReports reports) (.ok ()) (fun _ _ => True)
        fun _ => 0 := by
  intro reports
  induction reports with
  | nil => exact Realizes.pure trivial rfl
  | cons report reports ih =>
    refine Realizes.step (reports.map ownReport).sum List.sum_cons
      (pinningReportFreeOpt_realizes report) ?_
    intro _ _
    exact ih.of_eq (zero_add _)

/-- The caller frees what it has been handed. -/
theorem release_realizes :
    ∀ os : List Outcome,
      Realizes (os.map Outcome.own).sum (release os) (.ok ()) (fun _ _ => True) fun _ => 0 := by
  intro os
  induction os with
  | nil => exact Realizes.pure trivial rfl
  | cons o os ih =>
    refine Realizes.step (ownSummary o.summary + (os.map Outcome.own).sum) ?_
      (freeReports_realizes o.reports) ?_
    · rw [List.map_cons, List.sum_cons, Outcome.own, add_assoc]
    · intro _ _
      refine Realizes.step (os.map Outcome.own).sum (zero_add _)
        (diagnosticSummaryFreeOpt_realizes o.summary) ?_
      intro _ _
      exact ih.of_eq (zero_add _)

/-! ### Lives -/

section Lives

variable {env : Env} {config : Config} {calls : List (Env × Call)} {prof prof' : Drainprof.Profiler}
  {os : List Drainprof.Outcome}

theorem life_realizes_null (hcreate : Drainprof.createWithConfig env config = none) :
    Realizes 0 (life env config calls) (.ok none) (fun r r' => r = r') fun _ => 0 := by
  have hcreated := createWithConfig_realizes env config 0
  rw [hcreate] at hcreated
  refine Realizes.step 0 (add_zero _).symm hcreated ?_
  rintro created ⟨hnone, -⟩
  rw [Option.map_eq_none_iff.mp hnone]
  exact Realizes.pure rfl (add_zero _)

theorem life_realizes (hcreate : Drainprof.createWithConfig env config = some prof)
    (hrun : Transition.run Drainprof.Profiler.call prof calls = .ok (os, prof'))
    (hcalls : registeringCalls calls ≤ 2 ^ 31)
    (hsmall : config.mode = .production ∨ config.onPinning = true ∨
      config.maxBufferedReports.toNat ≤ 2 ^ 31) :
    Realizes 0 (life env config calls) (.ok (some os)) (fun r r' => r = r') fun _ => 0 := by
  have hkept := kept_of_run hcreate hrun
  have hcreated := createWithConfig_realizes env config (registeringCalls calls)
  rw [hcreate] at hcreated
  refine Realizes.step 0 (add_zero _).symm hcreated ?_
  rintro created ⟨hsome, hfit⟩
  obtain ⟨hprof, rfl, rfl⟩ := Option.map_eq_some_iff.mp hsome
  have hreturns := calls_realize hcalls (hfit hprof rfl)
  rw [hrun] at hreturns
  refine Realizes.step 0 rfl hreturns ?_
  rintro ⟨hos, hprof'⟩ ⟨rfl, rfl, hfit'⟩
  refine Realizes.step (hos.map Outcome.own).sum (add_zero _)
    (destroy_realizes hfit' hkept hsmall) ?_
  intro _ _
  refine Realizes.step 0 (by rw [zero_add, add_zero]) (release_realizes hos) ?_
  intro _ _
  exact Realizes.pure rfl (add_zero _)

/-- **A profiler leaks nothing**: create, call, destroy, and free what the calls have handed over, and
everything that was allocated is freed, once, and not used after that. -/
theorem life_leaks_nothing (hcalls : registeringCalls calls ≤ 2 ^ 31)
    (hsmall : config.mode = .production ∨ config.onPinning = true ∨
      config.maxBufferedReports.toNat ≤ 2 ^ 31) (m : Memory) :
    (Drainprof.createWithConfig env config = none →
      ∃ m', life env config calls m = .ok (none, m') ∧ m'.live = m.live) ∧
    ∀ prof os prof', Drainprof.createWithConfig env config = some prof →
      Transition.run Drainprof.Profiler.call prof calls = .ok (os, prof') →
      ∃ m', life env config calls m = .ok (some os, m') ∧ m'.live = m.live := by
  constructor
  · intro hcreate
    obtain ⟨_, m', hlife, rfl, hlive⟩ := (life_realizes_null hcreate).live_eq rfl m
    exact ⟨m', hlife, hlive⟩
  · intro prof os prof' hcreate hrun
    obtain ⟨_, m', hlife, rfl, hlive⟩ :=
      (life_realizes hcreate hrun hcalls hsmall).live_eq rfl m
    exact ⟨m', hlife, hlive⟩

/-- Two slots, and room for two reports. -/
def tightConfig : Config :=
  { smallConfig .diagnostic 2 with maxBufferedReports := 2 }

/-- The second pinned close gets no memory for its report; the third granule is open to the end, and
its predecessor's report is still buffered. -/
def busyRun : List (Env × Call) :=
  [.granuleOpen 0, .allocRegister 0 7 64, .granuleClose 0, .granuleOpen 1,
    .allocRegister 1 8 64].map (fun c => (Env.ample default, c)) ++
    [(⟨default, fun r => r != .pinningAllocsMalloc⟩, .granuleClose 1)] ++
    [.drainReports 4, .granuleOpen 0, .allocRegister 0 9 32, .granuleClose 0,
      .diagnosticSummaryCompute, .granuleOpen 2].map (fun c => (Env.ample default, c))

theorem life_leaks_nothing_busy :
    (∃ m', life ⟨default, fun r => r != .bufferReportsCalloc⟩ tightConfig busyRun
      .empty = .ok (none, m') ∧ m'.live = ∅) ∧
    ∃ os m', life (Env.ample default) tightConfig busyRun .empty
      = .ok (some os, m') ∧ m'.live = ∅ := by
  let prof := (Drainprof.createWithConfig (Env.ample default) tightConfig).get rfl
  have hreturns : okAnd (Transition.run Drainprof.Profiler.call prof busyRun) (fun _ => true) = true := by
    decide
  obtain ⟨⟨os, prof'⟩, hrun, -⟩ := exists_of_okAnd hreturns
  refine ⟨?_, os, ?_⟩
  · exact (life_leaks_nothing (by decide) (Or.inr (Or.inr (by decide))) .empty).1 rfl
  · exact (life_leaks_nothing (by decide) (Or.inr (Or.inr (by decide))) .empty).2 prof os prof' rfl
      hrun

/-! ### Blocks in use -/

/-- The caller's part of the blocks in use, at most. -/
def Outcome.blocks (o : Outcome) : ℕ :=
  2 * o.reports.length + if o.summary.isSome then 2 else 0

theorem card_ownReport_le (report : Option PinningReport) : (ownReport report).card ≤ 2 := by
  cases report with
  | none => exact Nat.zero_le _
  | some report => exact le_of_eq rfl

theorem Outcome.card_own_le (o : Outcome) : o.own.card ≤ o.blocks := by
  have hreports : (o.reports.map ownReport).sum.card ≤ 2 * o.reports.length :=
    card_sum_le_mul ownReport fun report _ => card_ownReport_le report
  rw [Outcome.own, Outcome.blocks, Multiset.card_add]
  refine Nat.add_le_add hreports ?_
  cases o.summary with
  | none => exact Nat.zero_le _
  | some summary =>
    obtain ⟨block, sites, content⟩ := summary
    cases sites with
    | none => exact Nat.le_succ 1
    | some sites => exact le_of_eq rfl

/-- A record takes two blocks, and so does a buffered report. -/
theorem Profiler.card_own_le {n : ℕ} {prof : Profiler} (h : prof.Fit n)
    (hkept : Kept config prof.content) :
    prof.own.card
      ≤ 5 + 2 * config.slotCapacity.toNat + 2 * config.maxBufferedReports.toNat := by
  have hstorage : prof.storage.own.card ≤ 2 + 2 * config.slotCapacity.toNat := by
    cases hs : prof.storage with
    | slotArray arr => exact Nat.le_add_right 2 _
    | slotArrayDiag arr =>
      have hcap : arr.capacity = config.slotCapacity :=
        hkept.capacity arr.content (by rw [Profiler.content, hs]; rfl)
      have hslots : (arr.slots.map DiagSlot.own).sum.card ≤ 2 * arr.slots.length := by
        refine card_sum_le_mul DiagSlot.own ?_
        rintro ⟨occupied, diag⟩ _
        cases diag with
        | none => exact Nat.zero_le _
        | some diag => exact le_of_eq rfl
      rw [arr.length_slots, hcap] at hslots
      show ({arr.block} + ({arr.slotsBlock} + (arr.slots.map DiagSlot.own).sum)).card ≤ _
      simp only [Multiset.card_add, Multiset.card_singleton]
      omega
  have hbuffer : (ownBuffer prof.reportBuffer).card ≤ 2 + 2 * config.maxBufferedReports.toNat := by
    cases hbuf : prof.reportBuffer with
    | none => exact Nat.zero_le _
    | some buf =>
      have hcap : buf.capacity = config.maxBufferedReports :=
        (hkept.buffer buf.content (Option.mem_map_of_mem _ hbuf)).2.2.1
      have horder := h.inOrder buf hbuf
      have hheld : (buf.held.map ownReport).sum.card ≤ 2 * buf.held.length :=
        card_sum_le_mul ownReport fun report _ => card_ownReport_le report
      have hcount := horder.count_le
      rw [horder.length_held] at hheld
      rw [hcap] at hcount
      show ({buf.block} + ({buf.reportsBlock} + (buf.held.map ownReport).sum)).card ≤ _
      simp only [Multiset.card_add, Multiset.card_singleton]
      omega
  rw [Profiler.own, Multiset.card_add, Multiset.card_add, Multiset.card_singleton]
  omega

/-- **Memory is bounded**: however long it runs, a profiler holds a bounded number of blocks; all others
in use were there before or have been handed to the caller. -/
theorem memory_bounded (hcreate : Drainprof.createWithConfig env config = some prof)
    (hrun : Transition.run Drainprof.Profiler.call prof calls = .ok (os, prof'))
    (hcalls : registeringCalls calls ≤ 2 ^ 31) (m : Memory) :
    ∃ hprof m₁ hos hprof' m₂, createWithConfig env config m = .ok (some hprof, m₁) ∧
      Ownership.run Profiler.call hprof calls m₁ = .ok ((hos, hprof'), m₂) ∧
      hos.map Outcome.content = os ∧
      m₂.live.card ≤ m.live.card + (hos.map Outcome.blocks).sum
        + (5 + 2 * config.slotCapacity.toNat + 2 * config.maxBufferedReports.toNat) := by
  have hkept := kept_of_run hcreate hrun
  obtain ⟨created, m₁, hcreated, ⟨hsome, hfit⟩, hlive₁⟩ :=
    createWithConfig_realizes env config (registeringCalls calls) m m.live.val _ (zero_add _).symm
      (by rw [hcreate])
  obtain ⟨hprof, rfl, rfl⟩ := Option.map_eq_some_iff.mp hsome
  obtain ⟨⟨hos, hprof'⟩, m₂, hreturns, ⟨rfl, rfl, hfit'⟩, hlive₂⟩ :=
    calls_realize hcalls (hfit hprof rfl) m₁ m.live.val _ hlive₁ hrun
  refine ⟨hprof, m₁, hos, hprof', m₂, hcreated, hreturns, rfl, ?_⟩
  have hown : hprof'.own.card
      ≤ 5 + 2 * config.slotCapacity.toNat + 2 * config.maxBufferedReports.toNat :=
    Profiler.card_own_le hfit' hkept
  have hhanded : (hos.map Outcome.own).sum.card ≤ (hos.map Outcome.blocks).sum :=
    card_sum_le Outcome.own fun o _ => o.card_own_le
  calc m₂.live.card
      = hprof'.own.card + (hos.map Outcome.own).sum.card + m.live.card := by
        rw [Finset.card, hlive₂, Multiset.card_add, Multiset.card_add]
        rfl
    _ ≤ m.live.card + (hos.map Outcome.blocks).sum
        + (5 + 2 * config.slotCapacity.toNat + 2 * config.maxBufferedReports.toNat) := by omega

theorem memory_bounded_busy :
    ∃ hprof m₁ hos hprof' m₂,
      createWithConfig (Env.ample default) tightConfig .empty
        = .ok (some hprof, m₁) ∧
      Ownership.run Profiler.call hprof busyRun m₁ = .ok ((hos, hprof'), m₂) ∧
      hos.length = 12 ∧ m₂.live.card ≤ (hos.map Outcome.blocks).sum + 13 := by
  let prof := (Drainprof.createWithConfig (Env.ample default) tightConfig).get rfl
  have hreturns : okAnd (Transition.run Drainprof.Profiler.call prof busyRun)
      (fun r => r.1.length == 12) = true := by
    decide
  obtain ⟨⟨os, prof'⟩, hrun, hlength⟩ := exists_of_okAnd hreturns
  obtain ⟨hprof, m₁, hos, hprof', m₂, hcreated, hreturned, hcontent, hcard⟩ :=
    memory_bounded (show Drainprof.createWithConfig (Env.ample default) tightConfig
      = some prof from rfl) hrun (by decide) .empty
  refine ⟨hprof, m₁, hos, hprof', m₂, hcreated, hreturned, ?_, ?_⟩
  · have hmap : os.length = 12 := beq_iff_eq.mp hlength
    rwa [← hcontent, List.length_map] at hmap
  · rwa [show Memory.empty.live.card = 0 from rfl, zero_add,
      show 5 + 2 * tightConfig.slotCapacity.toNat + 2 * tightConfig.maxBufferedReports.toNat = 13
        from rfl] at hcard

end Lives

end Heap

end Drainprof
