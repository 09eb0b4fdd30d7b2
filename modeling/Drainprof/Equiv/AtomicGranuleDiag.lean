import Drainprof.AtomicGranuleDiag
import Drainprof.Equiv.Liveness

/-!
# The state of a granule under its lock is a multiset

The critical sections of a granule compute what the sequential model does
(`diagSection_implements`), so every interleaving of registrations, frees and reports does what they
do one after the other.
-/

namespace Drainprof

open Mutex Mutex.Section Transition

/-! ### The critical sections -/

variable {d : GranuleDiag}

/-- The record of a registration. -/
def PendingAlloc.record (reg : PendingAlloc) (granuleId : GranuleId) : AllocRecord where
  allocId := reg.allocId
  granuleId := granuleId
  allocTime := reg.allocTime
  allocSite := ⟨reg.file, reg.line, 0⟩
  size := reg.size
  freeTime := ⟨0, 0⟩
  freed := false

/-- The part of a registration after the growth step. -/
theorem eval_addTakeIndex (d : GranuleDiag) (reg : PendingAlloc) :
    diagSection.Eval d (.addTakeIndex reg) (do
      let block ← deref d.allocs
      let block ← store block d.allocCount (reg.record d.granuleId)
      .ok (.int 0, { d with
        allocs := some block
        allocCount := d.allocCount + 1
        liveCount := d.liveCount + 1 })) := by
  refine .more rfl ?_
  refine Eval.bind₂ rfl ?_
  intro block block' _ _
  exact .done rfl

/-- The clearing of the new part of the array, and what follows it. -/
theorem eval_addZero (d : GranuleDiag) {block : List AllocRecord} (hallocs : d.allocs = some block)
    (reg : PendingAlloc) (newCapacity : UInt32) :
    diagSection.Eval d (.addZero reg newCapacity) (do
      let zeroed ← zeroRecords block d.allocCount (newCapacity - d.allocCount)
      let block ← store zeroed d.allocCount (reg.record d.granuleId)
      .ok (.int 0, { d with
        allocs := some block
        allocCount := d.allocCount + 1
        liveCount := d.liveCount + 1 })) := by
  have hbody : diagSection.body d (.addZero reg newCapacity)
    = diagBody d (.addZero reg newCapacity) := rfl
  rw [diagBody, hallocs, deref, ok_bind] at hbody
  refine Eval.bind hbody ?_
  intro zeroed _
  exact eval_addTakeIndex { d with allocs := some zeroed } reg

/-- The growth step, and what follows it. -/
theorem eval_addTestFull (d : GranuleDiag) (env : Env) (reg : PendingAlloc) :
    diagSection.Eval d (.addTestFull env reg) (do
      let (grown, d) ← growAllocs env d
      if grown ≠ 0 then .ok (.int grown, d)
      else
        let block ← deref d.allocs
        let block ← store block d.allocCount (reg.record d.granuleId)
        .ok (.int 0, { d with
          allocs := some block
          allocCount := d.allocCount + 1
          liveCount := d.liveCount + 1 })) := by
  refine .more rfl ?_
  rw [growAllocs]
  split_ifs with hfull
  · have hbody : diagSection.body d (.addRealloc env reg) = diagBody d (.addRealloc env reg) := rfl
    rw [diagBody] at hbody
    cases hallocs : d.allocs with
    | none =>
      rw [hallocs] at hbody
      exact .fault hbody
    | some block =>
      rw [hallocs] at hbody
      simp only [deref, ok_bind] at hbody ⊢
      cases hrealloc : realloc block (d.allocCapacity * 2) AllocRecord.zero
          (env.succeeds .diagAllocsRealloc) with
      | failed =>
        rw [hrealloc] at hbody
        exact .done hbody
      | freed =>
        rw [hrealloc] at hbody
        exact .done hbody
      | moved newAllocs =>
        rw [hrealloc] at hbody
        dsimp only at hbody ⊢
        refine .more hbody (.more rfl (.more rfl ?_))
        rw [bind_assoc]
        exact eval_addZero { d with allocs := some newAllocs, allocCapacity := d.allocCapacity * 2 }
          rfl reg (d.allocCapacity * 2)
  · exact eval_addTakeIndex d reg

theorem eval_addAlloc (d : GranuleDiag) (env : Env) (a : AllocId) (size : UInt64) (file : FilePtr)
    (line : UInt32) :
    diagSection.Eval d (.addTestFull env ⟨a, size, file, line, env.now⟩)
      (d.serve (.op env (.addAlloc a size file line))) := by
  have heval := eval_addTestFull d env ⟨a, size, file, line, env.now⟩
  rw [GranuleDiag.serve, GranuleDiag.step, granuleDiagAddAlloc, bind_assoc]
  refine Eq.mp (congrArg _ (bind_congr ?_)) heval
  rintro ⟨grown, d'⟩
  dsimp only
  split_ifs
  · rfl
  · rw [bind_assoc]
    refine bind_congr ?_
    intro block
    rw [bind_assoc]
    rfl

/-- What is done to the record a free has found. -/
theorem eval_freeWrite {block : List AllocRecord} (hallocs : d.allocs = some block) (t : Timespec)
    (i : UInt32) (r : AllocRecord) :
    diagSection.Eval d (.freeWrite t i r) (do
      let block ← store block i { r with freed := true, freeTime := t }
      let next ← umod (i + 1) d.allocCount
      .ok (.int 0, { d with
        allocs := some block
        lastFreedIndex := next
        liveCount := d.liveCount - 1 })) := by
  have hbody : diagSection.body d (.freeWrite t i r) = diagBody d (.freeWrite t i r) := rfl
  rw [diagBody, hallocs, deref, ok_bind] at hbody
  refine Eval.bind hbody ?_
  intro block' _
  refine Eval.bind rfl ?_
  intro next _
  exact .done rfl

theorem eval_freeScan (d : GranuleDiag) (a : AllocId) (t : Timespec) (fuel : ℕ) :
    ∀ offset : UInt32, offset.toNat + fuel = d.allocCount.toNat →
      diagSection.Eval d (.freeScan a t d.lastFreedIndex offset) (do
        let (r, d) ← granuleDiagMarkFreed.go d a t fuel offset.toNat
        .ok (.int r, d)) := by
  induction fuel with
  | zero =>
    intro offset hoffset
    refine .done ?_
    show diagBody d (.freeScan a t d.lastFreedIndex offset) = _
    rw [diagBody, if_neg (by rw [UInt32.lt_iff_toNat_lt]; omega)]
  | succ fuel ih =>
    intro offset hoffset
    have hlt : offset < d.allocCount := UInt32.lt_iff_toNat_lt.mpr (by omega)
    have hbound := d.allocCount.toNat_lt
    have hbody : diagSection.body d (.freeScan a t d.lastFreedIndex offset)
      = diagBody d (.freeScan a t d.lastFreedIndex offset) := rfl
    rw [diagBody, if_pos hlt] at hbody
    rw [granuleDiagMarkFreed.go, UInt32.ofNat_toNat, bind_assoc]
    cases hi : umod (d.lastFreedIndex + offset) d.allocCount with
    | error e =>
      rw [hi] at hbody
      exact .fault hbody
    | ok i =>
      rw [hi, ok_bind] at hbody
      rw [ok_bind, bind_assoc]
      cases hallocs : d.allocs with
      | none =>
        rw [hallocs] at hbody
        exact .fault hbody
      | some block =>
        rw [hallocs, deref, ok_bind] at hbody
        rw [deref, ok_bind, bind_assoc]
        cases hload : load block i with
        | error e =>
          rw [hload] at hbody
          exact .fault hbody
        | ok r =>
          rw [hload, ok_bind] at hbody
          rw [ok_bind]
          split_ifs at hbody ⊢ with hmatch
          · refine .more hbody ?_
            have heval := eval_freeWrite hallocs t i r
            simpa only [bind_assoc, ok_bind] using heval
          · refine .more hbody ?_
            have hrest := ih (offset + 1) (by rw [toNat_add_one (by omega)]; omega)
            rw [toNat_add_one (by omega)] at hrest
            exact hrest

theorem eval_markFreed (d : GranuleDiag) (env : Env) (a : AllocId) :
    diagSection.Eval d (.freeLoadHint a env.now) (d.serve (.op env (.markFreed a))) :=
  .more rfl (eval_freeScan d a env.now d.allocCount.toNat 0 (Nat.zero_add _))

/-- The report with the entries that have been copied. -/
def GranuleDiag.reportOf (d : GranuleDiag) (closeTime : Timespec) (out : List PinningAlloc) :
    PinningReport where
  granuleId := d.granuleId
  openTime := d.openTime
  closeTime := closeTime
  pinningAllocs := out
  pinningCount := d.liveCount
  totalAllocs := d.allocCount
  drainedAllocs := d.allocCount - d.liveCount

theorem eval_reportCopy (d : GranuleDiag) (t : Timespec) (fuel : ℕ) :
    ∀ (i pinningIdx : UInt32) (out : List PinningAlloc), i.toNat + fuel = d.allocCount.toNat →
      diagSection.Eval d (.reportCopy t d.liveCount i pinningIdx out) (do
        let out ← granuleDiagGenerateReport.go d fuel i.toNat pinningIdx out
        .ok (.report (some (d.reportOf t out)), d)) := by
  induction fuel with
  | zero =>
    intro i pinningIdx out hi
    refine .done ?_
    show diagBody d (.reportCopy t d.liveCount i pinningIdx out) = _
    rw [diagBody, if_neg (by rw [UInt32.lt_iff_toNat_lt]; omega)]
    rfl
  | succ fuel ih =>
    intro i pinningIdx out hi
    have hlt : i < d.allocCount := UInt32.lt_iff_toNat_lt.mpr (by omega)
    have hbound := d.allocCount.toNat_lt
    have hsucc : (i + 1).toNat = i.toNat + 1 := toNat_add_one (by omega)
    have hbody : diagSection.body d (.reportCopy t d.liveCount i pinningIdx out)
      = diagBody d (.reportCopy t d.liveCount i pinningIdx out) := rfl
    rw [diagBody, if_pos hlt] at hbody
    rw [granuleDiagGenerateReport.go, UInt32.ofNat_toNat, bind_assoc]
    cases hallocs : d.allocs with
    | none =>
      rw [hallocs] at hbody
      exact .fault hbody
    | some block =>
      rw [hallocs, deref, ok_bind] at hbody
      rw [deref, ok_bind, bind_assoc]
      cases hload : load block i with
      | error e =>
        rw [hload] at hbody
        exact .fault hbody
      | ok r =>
        rw [hload, ok_bind] at hbody
        rw [ok_bind]
        split_ifs at hbody ⊢ with hfreed
        · rw [bind_assoc]
          refine Eval.bind hbody ?_
          intro out' _
          have hrest := ih (i + 1) (pinningIdx + 1) out' (by omega)
          rw [hsucc] at hrest
          exact hrest
        · have hrest := ih (i + 1) pinningIdx out (by omega)
          rw [hsucc] at hrest
          exact .more hbody hrest

theorem eval_report (d : GranuleDiag) (env : Env) :
    diagSection.Eval d (.reportLoadCount env) (d.serve (.report env)) := by
  have hbody : diagSection.body d (.reportLoadCount env) = diagBody d (.reportLoadCount env) := rfl
  rw [diagBody] at hbody
  rw [GranuleDiag.serve, granuleDiagGenerateReport]
  split_ifs at hbody ⊢
  · exact .done hbody
  · exact .done hbody
  · exact .done hbody
  · refine .more hbody ?_
    have hcopy := eval_reportCopy d env.now d.allocCount.toNat 0 0
      (List.replicate d.liveCount.toNat default) (Nat.zero_add _)
    rw [bind_assoc]
    exact hcopy

/-- The critical sections compute what the sequential model does. -/
theorem diagSection_implements : diagSection.Implements GranuleDiag.serve := by
  constructor
  · intro d a r hskip
    cases hskip
  · intro d a _
    cases a with
    | op env op =>
      cases op with
      | addAlloc a size file line => exact eval_addAlloc d env a size file line
      | markFreed a => exact eval_markFreed d env a
    | report env => exact eval_report d env

/-! ### The multiset -/

/-- What the result of a call says about liveness: of a report, the ids it lists and the number of
registrations. -/
inductive DiagVerdict where
  | int (r : Int)
  | report (pinning : Option LiveSet)
  deriving DecidableEq

/-- The ids a report lists, with the number of registrations. -/
def PinningReport.liveSet (r : PinningReport) : LiveSet :=
  ⟨r.totalAllocs.toNat, (r.pinningAllocs.map PinningAlloc.allocId : List AllocId)⟩

/-- What a call on a record returns, up to the order of the report. -/
def DiagResult.verdict : DiagResult → DiagVerdict
  | .int r => .int r
  | .report r => .report (r.map PinningReport.liveSet)

/-- The calls on a multiset of live allocation ids. -/
def liveServe (l : LiveSet) : DiagCall → DiagVerdict × LiveSet
  | .op _ (.addAlloc a _ _ _) => (.int 0, ⟨l.registered + 1, a ::ₘ l.live⟩)
  | .op _ (.markFreed a) =>
    if a ∈ l.live then (.int 0, ⟨l.registered, l.live.erase a⟩) else (.int (-1), l)
  | .report _ => (.report (if l.live = 0 then none else some l), l)

/-- What the call reads from outside. -/
def DiagCall.env : DiagCall → Env
  | .op env _ => env
  | .report env => env

/-- The call is a registration. -/
def DiagCall.registers : DiagCall → Bool
  | .op _ (.addAlloc _ _ _ _) => true
  | .op _ (.markFreed _) => false
  | .report _ => false

/-- One call with memory to spare, on a granule with room for another registration. -/
theorem serve_live (h : d.WF) {c : DiagCall} (henv : c.env.Plentiful)
    (hroom : c.registers = true → d.allocCount.toNat < 2 ^ 31) :
    ∃ r d', d.serve c = .ok (r, d') ∧ d'.WF ∧ liveServe d.liveSet c = (r.verdict, d'.liveSet) ∧
      d'.allocCount.toNat = d.allocCount.toNat + if c.registers then 1 else 0 := by
  cases c with
  | op env op =>
    cases op with
    | addAlloc a size file line =>
      rcases granuleDiagAddAlloc_cases h env a size file line env.now with
        ⟨d', hadd, hwf, -, -, hrecords, hlive⟩ | ⟨hmem, -⟩ | ⟨hfull, -⟩
      · have hcount : d'.allocCount.toNat = d.allocCount.toNat + 1 := by
          rw [← hwf.length_records, hrecords, List.length_append, h.length_records,
            List.length_singleton]
        refine ⟨.int 0, d', ?_, hwf, ?_, hcount⟩
        · rw [GranuleDiag.serve, GranuleDiag.step, hadd]
          rfl
        · rw [GranuleDiag.liveSet_of_registered hcount hlive]
          rfl
      · rw [show env.succeeds _ = true from henv _] at hmem
        cases hmem
      · exact absurd hfull (Nat.ne_of_lt (hroom rfl))
    | markFreed a =>
      rcases granuleDiagMarkFreed_cases h a env.now with ⟨i, r, hi, hr, hfreed⟩ | ⟨hfreed, hnone⟩
      · have hmem : a ∈ d.liveSet.live :=
          GranuleDiag.mem_liveSet_iff.mpr ⟨r, List.mem_of_getElem? hi, hr⟩
        refine ⟨.int 0, d.freeAt i r env.now, ?_, h.freeAt hi hr.2 env.now, ?_, rfl⟩
        · rw [GranuleDiag.serve, GranuleDiag.step, hfreed]
          rfl
        · rw [liveServe, if_pos hmem, GranuleDiag.liveSet_freeAt hi hr]
          rfl
      · have hmem : a ∉ d.liveSet.live := by
          intro hmem
          obtain ⟨r, hr, hmatches⟩ := GranuleDiag.mem_liveSet_iff.mp hmem
          exact hnone r hr hmatches
        refine ⟨.int (-1), d, ?_, h, ?_, rfl⟩
        · rw [GranuleDiag.serve, GranuleDiag.step, hfreed]
          rfl
        · rw [liveServe, if_neg hmem]
          rfl
  | report env =>
    have henv : env.Plentiful := henv
    by_cases hzero : d.liveCount = 0
    · refine ⟨.report none, d, ?_, h, ?_, rfl⟩
      · rw [GranuleDiag.serve, granuleDiagGenerateReport, if_pos hzero]
        rfl
      · rw [liveServe, if_pos ((GranuleDiag.liveSet_live_eq_zero_iff h).mpr hzero)]
        rfl
    · refine ⟨.report (some (d.report env.now)), d, ?_, h, ?_, rfl⟩
      · rw [GranuleDiag.serve, granuleDiagGenerateReport_eq h hzero (henv _) (henv _)]
        rfl
      · have hlive : d.liveSet.live ≠ 0 :=
          fun h0 => hzero ((GranuleDiag.liveSet_live_eq_zero_iff h).mp h0)
        have hids : (d.report env.now).liveSet = d.liveSet := by
          unfold PinningReport.liveSet GranuleDiag.report GranuleDiag.liveSet
          rw [List.map_map]
          rfl
        rw [liveServe, if_neg hlive, DiagResult.verdict, Option.map_some, hids]

theorem run_live (cs : List DiagCall) :
    ∀ {d : GranuleDiag}, d.WF → (∀ c ∈ cs, c.env.Plentiful) →
      d.allocCount.toNat + cs.countP DiagCall.registers ≤ 2 ^ 31 →
      ∃ os d', run GranuleDiag.serve d cs = .ok (os, d') ∧ d'.WF ∧
        trace liveServe d.liveSet cs = (os.map DiagResult.verdict, d'.liveSet) ∧
        d'.allocCount.toNat = d.allocCount.toNat + cs.countP DiagCall.registers := by
  induction cs with
  | nil =>
    intro d h _ _
    exact ⟨[], d, rfl, h, rfl, rfl⟩
  | cons c cs ih =>
    intro d h henv hroom
    rw [List.countP_cons] at hroom
    obtain ⟨r, d₁, hserve, hwf₁, hlive₁, hcount₁⟩ := serve_live h (henv c List.mem_cons_self)
      (fun hreg => by rw [if_pos hreg] at hroom; omega)
    obtain ⟨os, d', hrun, hwf', hlive', hcount'⟩ :=
      ih hwf₁ (fun c' hc' => henv c' (List.mem_cons_of_mem c hc')) (by rw [hcount₁]; omega)
    refine ⟨r :: os, d', run_cons_eq_ok.mpr ⟨r, d₁, os, hserve, hrun, rfl⟩, hwf', ?_, ?_⟩
    · rw [trace, hlive₁]
      dsimp only
      rw [hlive']
      rfl
    · rw [hcount', hcount₁, List.countP_cons]
      omega

/-- What the threads have seen after a run is what the multiset does on the calls that returned, one
after the other in the order in which they released the lock: each of these calls is logged once,
with its own result, and before all calls that begin after it has returned.  No call has faulted. -/
structure ActsAsMultiset (d : GranuleDiag) (es : List (Interleaving.Event DiagCall Unit))
    (l : LiveSet) : Prop where
  trace_eq : trace liveServe ⟨0, 0⟩ ((diagSection.log d es).map fun e => e.2.1)
    = ((diagSection.log d es).map fun e => e.2.2.verdict, l)
  nodup : ((diagSection.log d es).map Prod.fst).Nodup
  returned_iff : ∀ k c r, (diagSection.program.run (pool d) es).calls[k]? = some (.returned c r) ↔
    (k, c, r) ∈ diagSection.log d es
  ordered : ∀ es', diagSection.log d es <+: diagSection.log d (es ++ es')
  not_faulted : ∀ c e, .faulted c e ∉ (diagSection.program.run (pool d) es).calls
  live : (diagSection.program.run (pool d) es).shared.locked = false →
    (diagSection.program.run (pool d) es).shared.data.liveSet = l ∧
      (diagSection.program.run (pool d) es).shared.data.liveCount.toNat = l.live.card

/-- **The shared state of a granule is a multiset of live allocations**: whatever the interleaving of
the steps of at most `2 ^ 31` registrations and any number of frees and reports, each call that has
returned did what it does on the allocations the calls before it have left live. -/
theorem shared_granule_acts_as_multiset {env : Env} {id : GranuleId} {t : Timespec}
    {es : List (Interleaving.Event DiagCall Unit)} (hcreate : granuleDiagCreate env id t = some d)
    (henv : ∀ c, .start c ∈ es → c.env.Plentiful)
    (hfew : (diagSection.program.run (pool d) es).calls.countP (fun p => p.call.registers)
      ≤ 2 ^ 31) : ∃ l, ActsAsMultiset d es l := by
  obtain ⟨hwf, -, -, -⟩ := granuleDiagCreate_spec hcreate
  have hempty := GranuleDiag.liveSet_of_created hcreate
  have hzero : d.allocCount.toNat = 0 := congrArg LiveSet.registered hempty
  obtain ⟨d', h⟩ := exists_excludes diagSection_implements d es
  have hplenty : ∀ p ∈ (diagSection.program.run (pool d) es).calls, p.call.env.Plentiful :=
    @adm_of_run _ _ _ _ _ diagSection (pool d) (fun c => c.env.Plentiful) es henv
      fun _ hp => absurd hp List.not_mem_nil
  have hlogged : ∀ c ∈ (diagSection.log d es).map fun e => e.2.1, c.env.Plentiful := by
    intro c hc
    obtain ⟨⟨k, c', r⟩, hentry, rfl⟩ := List.mem_map.mp hc
    exact hplenty _ (List.mem_of_getElem? ((h.returned_iff k c' r).mpr hentry))
  have hroom : d.allocCount.toNat
      + ((diagSection.log d es).map fun e => e.2.1).countP DiagCall.registers ≤ 2 ^ 31 := by
    rw [hzero, Nat.zero_add, List.countP_map]
    exact (h.countP_le DiagCall.registers).trans hfew
  obtain ⟨os, d'', hrun, hwf', htrace, hregistered⟩ := run_live _ hwf hlogged hroom
  rw [h.run_eq] at hrun
  cases hrun
  rw [List.map_map, hempty] at htrace
  refine ⟨d'.liveSet, htrace, h.nodup, h.returned_iff, log_grows d es, ?_, ?_⟩
  · -- a call that has faulted would be one more call than those logged
    intro c e hmem
    have hfaults : d'.serve c = .error e := h.remains _ hmem
    have hfit : c.registers = true → d'.allocCount.toNat < 2 ^ 31 := by
      intro hreg
      have hlt := h.countP_lt DiagCall.registers hmem hreg rfl
      rw [hregistered, hzero, Nat.zero_add, List.countP_map]
      exact Nat.lt_of_lt_of_le hlt hfew
    obtain ⟨r, d'', hserve, -⟩ := serve_live hwf' (hplenty _ hmem) hfit
    rw [show (Mutex.Pc.faulted c e : Mutex.Pc DiagPc DiagCall DiagResult Fault).call = c from rfl,
      hfaults] at hserve
    cases hserve
  · intro hfree
    refine ⟨congrArg GranuleDiag.liveSet (h.free hfree), ?_⟩
    rw [h.free hfree, hwf'.live_eq]
    exact (List.length_map _).symm

/-- A registration, its free and a report that contend for the lock. -/
def contendedDiagRun : List (Interleaving.Event DiagCall Unit) :=
  [.start (.op (Env.ample default) (.addAlloc 7 16 0 3)),
    .start (.op (Env.ample default) (.markFreed 7)), .start (.report (Env.ample default))]
    ++ (List.range 24).map fun i => .step (i % 3) ()

theorem shared_granule_acts_as_multiset_contended :
    ∃ d, granuleDiagCreate (Env.ample default) 1 default = some d ∧
      ∃ l, ActsAsMultiset d contendedDiagRun l := by
  refine ⟨_, rfl, @shared_granule_acts_as_multiset _ (Env.ample default) 1 default contendedDiagRun
    rfl ?_ (by decide)⟩
  intro c hc
  rcases List.mem_append.mp hc with hstart | hstep
  · simp only [List.mem_cons, Interleaving.Event.start.injEq, List.not_mem_nil, or_false] at hstart
    rcases hstart with rfl | rfl | rfl <;> exact Env.plentiful_ample default
  · simp at hstep

end Drainprof
