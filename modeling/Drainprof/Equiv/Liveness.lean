import Drainprof.Equiv.GranuleTable
import Mathlib.Data.Multiset.AddSub

/-!
# Diagnostic mode tracks liveness

The specification `LivenessModel.step` gives every open granule a multiset of live allocation ids.
`Represents prof m` relates a diagnostic profiler to it, and `call_refines` is the simulation of one
call.  The only call it does not cover is the close of a granule with live allocations when there is
neither a callback nor room for one report: the code then reads past the report buffer.  Hence
`diagnostic_liveness_iff`.
-/

namespace Drainprof

open Table Transition

/-! ### The specification -/

/-- What an open granule owns: its live allocation ids, and the number of registrations so far. -/
structure LiveSet where
  registered : ℕ
  live : Multiset AllocId
  deriving DecidableEq

/-- The open granules with what they own. -/
abbrev LivenessModel := FinMap GranuleId LiveSet

/-- What a call says about liveness. -/
inductive Verdict where
  | int (r : Int)
  | swept (drainable pinned : ℕ)
  | other
  deriving DecidableEq, Repr

namespace LivenessModel

/-- A registration of allocation `a` for granule `g`. -/
def register (m : LivenessModel) (g : GranuleId) (a : AllocId) : Verdict × LivenessModel :=
  match m.lookup g with
  | some l => (.int 0, m.insert g ⟨l.registered + 1, a ::ₘ l.live⟩)
  | none => (.int (-1), m)

/-- One call, with `n` slots. -/
def step (n : ℕ) (m : LivenessModel) : Call → Verdict × LivenessModel
  | .granuleOpen g =>
    if ∃ k ∈ m.keys, k.toNat % n = g.toNat % n then (.int (-1), m)
    else (.int 0, m.insert g ⟨0, 0⟩)
  | .granuleClose g =>
    match m.lookup g with
    | some l => (.int (if l.live = 0 then 1 else 0), m.erase g)
    | none => (.int (-1), m)
  | .allocRegister g a _ => m.register g a
  | .allocRegisterLocated g a _ _ _ => m.register g a
  | .allocDeregister g a =>
    match m.lookup g with
    | some l =>
      if a ∈ l.live then (.int 0, m.insert g ⟨l.registered, l.live.erase a⟩) else (.int (-1), m)
    | none => (.int (-1), m)
  | .sweep =>
    (.swept (m.entries.countP fun e => e.2.live = 0) (m.entries.countP fun e => e.2.live ≠ 0), m)
  | .snapshot => (.other, m)
  | .reset => (.other, m)
  | .drainReports _ => (.other, m)
  | .diagnosticSummaryCompute => (.other, m)

/-- The calls a run may consist of: those on granules and allocations and the sweep, as long as a
granule has had fewer than `2 ^ 31` registrations. -/
def Allows (m : LivenessModel) : Call → Prop
  | .granuleOpen _ => True
  | .granuleClose _ => True
  | .allocRegister g _ _ => ∀ l ∈ m.lookup g, l.registered < 2 ^ 31
  | .allocRegisterLocated g _ _ _ _ => ∀ l ∈ m.lookup g, l.registered < 2 ^ 31
  | .allocDeregister _ _ => True
  | .sweep => True
  | .snapshot => False
  | .reset => False
  | .drainReports _ => False
  | .diagnosticSummaryCompute => False

end LivenessModel

/-- What the result of a call says about liveness. -/
def Result.verdict : Result → Verdict
  | .int r => .int r
  | .snapshot s => .swept s.drainableCloses.toNat s.pinnedCloses.toNat
  | .reports _ _ => .other
  | .summary _ => .other
  | .void => .other

/-- A public call, of which only the verdict is kept. -/
def Profiler.verdictCall (prof : Profiler) (i : Env × Call) : Exec (Verdict × Profiler) := do
  let (o, prof) ← prof.call i
  .ok (o.result.verdict, prof)

theorem verdictCall_of_call {prof prof' : Profiler} {i : Env × Call} {o : Outcome}
    (h : prof.call i = .ok (o, prof')) : prof.verdictCall i = .ok (o.result.verdict, prof') := by
  rw [Profiler.verdictCall, h, ok_bind]

/-! ### What a granule owns -/

/-- What the diagnostic state of a granule says it owns. -/
def GranuleDiag.liveSet (d : GranuleDiag) : LiveSet :=
  ⟨d.allocCount.toNat, (d.live.map AllocRecord.allocId : List AllocId)⟩

namespace GranuleDiag

variable {d d' : GranuleDiag} {a : AllocId}

theorem liveSet_live_eq_zero_iff (h : d.WF) : d.liveSet.live = 0 ↔ d.liveCount = 0 := by
  rw [h.liveCount_eq_zero_iff, liveSet, Multiset.coe_eq_zero, List.map_eq_nil_iff]

theorem liveSet_of_created {env : Env} {id : GranuleId} {t : Timespec}
    (h : granuleDiagCreate env id t = some d) : d.liveSet = ⟨0, 0⟩ := by
  obtain ⟨hwf, -, -, hrecords⟩ := granuleDiagCreate_spec h
  have hcount := hwf.length_records
  rw [hrecords, List.length_nil] at hcount
  unfold liveSet live
  rw [← hcount, hrecords]
  rfl

theorem liveSet_of_registered {r : AllocRecord} (hcount : d'.allocCount.toNat = d.allocCount.toNat + 1)
    (hlive : d'.live = d.live ++ [r]) :
    d'.liveSet = ⟨d.liveSet.registered + 1, r.allocId ::ₘ d.liveSet.live⟩ := by
  unfold liveSet
  rw [hcount, hlive, List.map_append, List.map_singleton, Multiset.cons_coe]
  congr 1
  exact Multiset.coe_eq_coe.mpr (List.perm_append_singleton ..)

/-- An allocation is live exactly when some record matches it. -/
theorem mem_liveSet_iff : a ∈ d.liveSet.live ↔ ∃ r ∈ d.records, r.Matches a := by
  unfold liveSet live
  simp only [Multiset.mem_coe, List.mem_map, List.mem_filter, AllocRecord.Matches,
    Bool.not_eq_true']
  constructor
  · rintro ⟨r, ⟨hr, hfreed⟩, rfl⟩
    exact ⟨r, hr, rfl, hfreed⟩
  · rintro ⟨r, hr, rfl, hfreed⟩
    exact ⟨r, ⟨hr, hfreed⟩, rfl⟩

theorem liveSet_freeAt {i : ℕ} {r : AllocRecord} (hi : d.records[i]? = some r) (hr : r.Matches a)
    (t : Timespec) :
    (d.freeAt i r t).liveSet = ⟨d.liveSet.registered, d.liveSet.live.erase a⟩ := by
  obtain ⟨before, after, hbefore, hafter⟩ := live_freeAt hi hr.2 t
  unfold liveSet
  rw [hafter, hbefore, List.map_append, List.map_append, List.map_cons, hr.1, Multiset.coe_erase]
  congr 1
  refine Multiset.coe_eq_coe.mpr ?_
  exact ((List.perm_middle.erase a).trans (by rw [List.erase_cons_head])).symm

end GranuleDiag

/-! ### The simulation relation -/

/-- The profiler is in diagnostic mode, its configuration is `config` and it holds the granules of
`m`. -/
structure LivenessModel.Represents (config : Config) (prof : Profiler) (m : LivenessModel) :
    Prop where
  config_eq : prof.config = config
  buffers : ∃ rs, prof.Buffers rs
  tables : prof.Tables config.slotCapacity GranuleDiag.liveSet m

/-- The call closes a granule with live allocations. -/
def Profiler.ClosesPinned (prof : Profiler) : Call → Prop
  | .granuleClose g => ∃ arr i d, prof.storage = .slotArrayDiag arr ∧
    slotArrayDiagGet arr g = .ok (some (i, d)) ∧ d.liveCount ≠ 0
  | _ => False

/-- There is a callback, or room for a report. -/
def Config.HoldsReports (config : Config) : Prop :=
  config.onPinning = true ∨ 0 < config.maxBufferedReports.toNat

namespace LivenessModel

variable {config : Config} {prof : Profiler} {m : LivenessModel} {env : Env}

theorem granuleOpen_refines (h : Represents config prof m) (henv : env.Plentiful) (g : GranuleId) :
    ∃ prof', prof.verdictCall (env, .granuleOpen g)
        = .ok ((m.step config.slotCapacity.toNat (.granuleOpen g)).1, prof') ∧
      Represents config prof' (m.step config.slotCapacity.toNat (.granuleOpen g)).2 := by
  obtain ⟨rs, hrs⟩ := h.buffers
  rw [step]
  rcases h.tables.granuleOpen_cases henv g with ⟨htaken, hopen⟩ | ⟨hfree, d, storage, hcreate, hopen,
    htables⟩
  · rw [if_pos htaken]
    exact ⟨prof, verdictCall_of_call (call_granuleOpen hopen), h⟩
  · rw [if_neg hfree]
    rw [GranuleDiag.liveSet_of_created hcreate] at htables
    exact ⟨_, verdictCall_of_call (call_granuleOpen hopen), h.config_eq, ⟨rs, hrs.of_eq rfl rfl⟩,
      htables.of_storage_eq rfl⟩

/-- The two register calls, for which only the location differs. -/
theorem allocRegisterLocated_refines (h : Represents config prof m) (henv : env.Plentiful)
    (g : GranuleId) (a : AllocId) (size : UInt64) (file : FilePtr) (line : UInt32)
    (hroom : ∀ l ∈ m.lookup g, l.registered < 2 ^ 31) :
    ∃ r prof', allocRegisterLocated env prof g a size file line = .ok (r, prof') ∧
      .int r = (m.register g a).1 ∧ Represents config prof' (m.register g a).2 := by
  obtain ⟨rs, hrs⟩ := h.buffers
  rw [register]
  rcases h.tables.allocRegisterLocated_cases henv g a size file line with ⟨hlookup, hcall⟩ |
    ⟨d, hlookup, hwf, hfull | ⟨d', storage, hcount, hlive, hcall, htables⟩⟩
  · rw [hlookup]
    exact ⟨_, _, hcall, rfl, h.config_eq, ⟨rs, hrs.of_eq rfl rfl⟩, h.tables.of_storage_eq rfl⟩
  · exact absurd hfull (Nat.ne_of_lt (hroom _ hlookup))
  · rw [hlookup]
    have hset : d'.liveSet = ⟨d.liveSet.registered + 1, a ::ₘ d.liveSet.live⟩ :=
      GranuleDiag.liveSet_of_registered hcount hlive
    rw [hset] at htables
    exact ⟨_, _, hcall, rfl, h.config_eq, ⟨rs, hrs.of_eq rfl rfl⟩, htables.of_storage_eq rfl⟩

theorem allocDeregister_refines (h : Represents config prof m) (env : Env) (g : GranuleId)
    (a : AllocId) :
    ∃ prof', prof.verdictCall (env, .allocDeregister g a)
        = .ok ((m.step config.slotCapacity.toNat (.allocDeregister g a)).1, prof') ∧
      Represents config prof' (m.step config.slotCapacity.toNat (.allocDeregister g a)).2 := by
  obtain ⟨rs, hrs⟩ := h.buffers
  rw [step]
  rcases h.tables.allocDeregister_cases env g a with ⟨hlookup, hcall⟩ |
    ⟨d, hlookup, hwf, ⟨hnone, hcall⟩ | ⟨i, r, storage, hi, hr, hcall, htables⟩⟩
  · rw [hlookup]
    exact ⟨_, verdictCall_of_call (call_allocDeregister hcall), h.config_eq,
      ⟨rs, hrs.of_eq rfl rfl⟩, h.tables.of_storage_eq rfl⟩
  · rw [hlookup]
    dsimp only
    rw [if_neg fun hmem => by
      obtain ⟨r, hr, hmatch⟩ := GranuleDiag.mem_liveSet_iff.mp hmem
      exact hnone r hr hmatch]
    exact ⟨_, verdictCall_of_call (call_allocDeregister hcall), h.config_eq,
      ⟨rs, hrs.of_eq rfl rfl⟩, h.tables.of_storage_eq rfl⟩
  · rw [hlookup]
    dsimp only
    rw [if_pos (GranuleDiag.mem_liveSet_iff.mpr ⟨r, List.mem_of_getElem? hi, hr⟩)]
    rw [GranuleDiag.liveSet_freeAt hi hr env.now] at htables
    exact ⟨_, verdictCall_of_call (call_allocDeregister hcall), h.config_eq,
      ⟨rs, hrs.of_eq rfl rfl⟩, htables.of_storage_eq rfl⟩

/-- A report finds a taker if there is a callback or room for it. -/
theorem reportPinned_delivered {config : Config} {prof : Profiler} {rs : List PinningReport}
    {d : GranuleDiag} (hconfig : prof.config = config) (hrs : prof.Buffers rs) (hd : d.WF)
    (hpinned : d.liveCount ≠ 0) (henv : env.Plentiful) (hholds : config.HoldsReports)
    (g : GranuleId) :
    ∃ prof' events rs', reportPinned env prof g d = .ok (prof', events) ∧ prof'.Buffers rs' := by
  subst hconfig
  rw [reportPinned_eq hd hpinned henv]
  cases hcallback : prof.config.onPinning with
  | true =>
    rw [deliverReport_of_callback hcallback, ok_bind]
    exact ⟨_, _, rs, rfl, hrs⟩
  | false =>
    have hpos := hholds.resolve_left (by rw [hcallback]; simp)
    obtain ⟨buf, hdeliver, hrs'⟩ := deliverReport_of_buffer hrs hcallback hpos (d.report env.now)
    rw [hdeliver, ok_bind]
    exact ⟨_, _, _, rfl, hrs'⟩

theorem granuleClose_refines (h : Represents config prof m) (henv : env.Plentiful) (g : GranuleId)
    (hok : prof.ClosesPinned (.granuleClose g) → config.HoldsReports) :
    ∃ prof', prof.verdictCall (env, .granuleClose g)
        = .ok ((m.step config.slotCapacity.toNat (.granuleClose g)).1, prof') ∧
      Represents config prof' (m.step config.slotCapacity.toNat (.granuleClose g)).2 := by
  obtain ⟨rs, hrs⟩ := h.buffers
  rw [step]
  rcases h.tables.granuleClose_cases env g with ⟨hlookup, hclose⟩ |
    ⟨d, storage, hlookup, hwf, -, ⟨arr, i, hs, hget⟩, htables, ⟨hzero, hclose⟩ | ⟨hpinned, hclose⟩⟩
  · rw [hlookup]
    exact ⟨_, verdictCall_of_call (call_granuleClose hclose), h⟩
  · rw [hlookup]
    dsimp only
    rw [if_pos ((GranuleDiag.liveSet_live_eq_zero_iff hwf).mpr hzero)]
    exact ⟨_, verdictCall_of_call (call_granuleClose hclose), h.config_eq,
      ⟨rs, hrs.of_eq rfl rfl⟩, htables.of_storage_eq rfl⟩
  · rw [hlookup]
    dsimp only
    rw [if_neg fun hno => hpinned ((GranuleDiag.liveSet_live_eq_zero_iff hwf).mp hno)]
    have hholds := hok ⟨arr, i, d, hs, hget, hpinned⟩
    obtain ⟨p, events, rs', hpin, hrs'⟩ := @reportPinned_delivered env config
      { prof with storage := storage } rs d h.config_eq (hrs.of_eq rfl rfl) hwf hpinned henv hholds g
    obtain ⟨hpconfig, -, hpstorage⟩ := reportPinned_frame hpin
    rw [hpin, ok_bind] at hclose
    exact ⟨_, verdictCall_of_call (call_granuleClose hclose), hpconfig.trans h.config_eq,
      ⟨rs', hrs'.of_eq rfl rfl⟩, htables.of_storage_eq hpstorage⟩

/-- The close that is not covered faults. -/
theorem granuleClose_faults (h : Represents config prof m) (henv : env.Plentiful) {g : GranuleId}
    (hpinned : prof.ClosesPinned (.granuleClose g)) (hno : ¬config.HoldsReports) :
    prof.verdictCall (env, .granuleClose g) = .error .outOfBounds := by
  obtain ⟨rs, hrs⟩ := h.buffers
  obtain ⟨arr, i, d, hs, hget, hlive⟩ := hpinned
  obtain ⟨arr', hs', -, harr, -⟩ := h.tables
  rw [hs] at hs'
  cases hs'
  rw [slotArrayDiagGet_eq harr, Except.ok.injEq, Option.map_eq_some_iff] at hget
  obtain ⟨d', hfind, heq⟩ := hget
  cases heq
  have hwf := harr.diag _ d (harr.find_eq_some_iff.mp hfind).1
  unfold Config.HoldsReports at hno
  push Not at hno
  have hclose : granuleClose env prof g = _ :=
    granuleClose_diag_of_pinned hs harr hfind hwf hlive
  rw [reportPinned_eq hwf hlive henv, @deliverReport_of_no_capacity { prof with
    storage := .slotArrayDiag (arr.setSlot (harr.home g) ⟨false, none⟩) } rs (hrs.of_eq rfl rfl)
    (by show prof.config.onPinning = false; rw [h.config_eq]; simpa using hno.1)
    (by show prof.config.maxBufferedReports.toNat = 0; rw [h.config_eq]; omega)] at hclose
  rw [Profiler.verdictCall, Profiler.call, hclose]
  rfl

/-- The numbers of the sweep are counts over the granules. -/
theorem sweep_refines (h : Represents config prof m) (env : Env) :
    (Result.snapshot (sweep env prof)).verdict = (m.step config.slotCapacity.toNat .sweep).1 := by
  have hcount := fun (p : LiveSet → Bool) (q : UInt32 → Bool) =>
    @Profiler.Tables.countP_sweptCounts _ _ _ _ _ h.tables p q
  rw [step, sweep, sweepLoop_eq, Result.verdict]
  dsimp only
  rw [UInt64.toNat_ofNat_of_lt' (h.tables.countP_sweptCounts_lt _),
    UInt64.toNat_ofNat_of_lt' (h.tables.countP_sweptCounts_lt _),
    hcount (fun l => l.live = 0) _ fun d hd => by
      simp only [GranuleDiag.liveSet_live_eq_zero_iff hd],
    hcount (fun l => l.live ≠ 0) _ fun d hd => by
      simp only [ne_eq, GranuleDiag.liveSet_live_eq_zero_iff hd]]

/-- A call returns what the specification returns, unless it closes a granule with live allocations
and the report has nowhere to go. -/
theorem call_refines (h : Represents config prof m) (henv : env.Plentiful) {c : Call}
    (hallows : m.Allows c) (hok : prof.ClosesPinned c → config.HoldsReports) :
    ∃ prof', prof.verdictCall (env, c) = .ok ((m.step config.slotCapacity.toNat c).1, prof') ∧
      Represents config prof' (m.step config.slotCapacity.toNat c).2 := by
  cases c with
  | granuleOpen g => exact granuleOpen_refines h henv g
  | granuleClose g => exact granuleClose_refines h henv g hok
  | allocRegister g a size =>
    obtain ⟨r, prof', hcall, hr, hrep⟩ :=
      allocRegisterLocated_refines h henv g a size 0 0 hallows
    refine ⟨prof', ?_, hrep⟩
    rw [verdictCall_of_call (call_allocRegister hcall), step, ← hr]
    rfl
  | allocRegisterLocated g a size file line =>
    obtain ⟨r, prof', hcall, hr, hrep⟩ :=
      allocRegisterLocated_refines h henv g a size file line hallows
    refine ⟨prof', ?_, hrep⟩
    rw [verdictCall_of_call (call_allocRegisterLocated hcall), step, ← hr]
    rfl
  | allocDeregister g a => exact allocDeregister_refines h env g a
  | sweep => exact ⟨prof, by rw [← sweep_refines h env]; rfl, h⟩
  | snapshot => exact absurd hallows id
  | reset => exact absurd hallows id
  | drainReports maxReports => exact absurd hallows id
  | diagnosticSummaryCompute => exact absurd hallows id

theorem represents_of_created {config : Config} {prof : Profiler} {env : Env}
    (h : createWithConfig env config = some prof) (hmode : config.mode = .diagnostic)
    (hcap : 0 < config.slotCapacity.toNat) : Represents config prof ∅ := by
  obtain ⟨hconfig, -, hrs, -⟩ := createWithConfig_diag h hmode
  exact ⟨hconfig, ⟨[], hrs⟩, tables_of_created h hmode hcap _⟩

end LivenessModel

/-! ### Runs -/

/-- The specification, fed with public calls. -/
def LivenessModel.spec (n : ℕ) (m : LivenessModel) (i : Env × Call) : Verdict × LivenessModel :=
  m.step n i.2

/-- The calls of a run, made while the library's allocations succeed. -/
def LivenessModel.Admitted (m : LivenessModel) (i : Env × Call) : Prop :=
  i.1.Plentiful ∧ m.Allows i.2

/-- **Diagnostic mode tracks liveness exactly as long as every report has somewhere to go.**  The
calls of a run return what the specification returns iff no call closes a granule with live
allocations while there is neither a callback nor room for one report. -/
theorem diagnostic_liveness_iff {env : Env} {config : Config} {prof : Profiler}
    (hcreate : createWithConfig env config = some prof) (hmode : config.mode = .diagnostic)
    (hcap : 0 < config.slotCapacity.toNat) {calls : List (Env × Call)}
    (hcalls : Admits (LivenessModel.spec config.slotCapacity.toNat) LivenessModel.Admitted ∅ calls) :
    Agrees Profiler.verdictCall (LivenessModel.spec config.slotCapacity.toNat) prof ∅ calls ↔
      Meets Profiler.verdictCall (fun p i => p.ClosesPinned i.2 → config.HoldsReports)
        prof calls := by
  have hexact := run_agrees_iff_meets Profiler.verdictCall
    (LivenessModel.spec config.slotCapacity.toNat) (LivenessModel.Represents config)
    (fun p i => p.ClosesPinned i.2 → config.HoldsReports) LivenessModel.Admitted (fun _ => False)
    (fun {p m i} h hadm hok => LivenessModel.call_refines h hadm.1 hadm.2 hok)
    (fun _ _ hprobe => absurd hprobe id) ?_
    (LivenessModel.represents_of_created hcreate hmode hcap) hcalls
  · rw [← hexact]
    exact ⟨fun h => ⟨h, fun _ _ _ hprobe => absurd hprobe id⟩, And.left⟩
  · -- a call that violates the condition does not return
    rintro p m ⟨env, c⟩ p' h hadm hbad hstep
    push Not at hbad
    obtain ⟨hpinned, hno⟩ := hbad
    cases c with
    | granuleClose g =>
      rw [LivenessModel.granuleClose_faults h hadm.1 hpinned hno] at hstep
      cases hstep
    | _ => exact absurd hpinned id

/-- One slot, no callback and a report buffer without room. -/
def roomlessConfig : Config :=
  { configDefault with mode := .diagnostic, slotCapacity := 1, maxBufferedReports := 0 }

/-- A granule is closed while an allocation of its is live. -/
def pinnedRun : List (Env × Call) :=
  [.granuleOpen 0, .allocRegister 0 7 64, .granuleClose 0].map fun c => (Env.ample default, c)

theorem pinnedRun_admitted :
    Admits (LivenessModel.spec 1) LivenessModel.Admitted ∅ pinnedRun := by
  refine ⟨⟨Env.plentiful_ample _, trivial⟩, ⟨Env.plentiful_ample _, ?_⟩,
    ⟨Env.plentiful_ample _, trivial⟩, trivial⟩
  intro l hl
  have hfirst : (⟨0, 0⟩ : LiveSet) = l := Option.some.inj hl
  rw [← hfirst]
  decide

/-- The close of the run should return `0`, but its report is pushed into a buffer of capacity zero,
which reads past the buffer. -/
theorem diagnostic_liveness_fails :
    ¬∀ (env : Env) (config : Config) (prof : Profiler) (calls : List (Env × Call)),
      createWithConfig env config = some prof → config.mode = .diagnostic →
      0 < config.slotCapacity.toNat →
      Admits (LivenessModel.spec config.slotCapacity.toNat) LivenessModel.Admitted ∅ calls →
        Agrees Profiler.verdictCall (LivenessModel.spec config.slotCapacity.toNat) prof ∅ calls := by
  intro h
  obtain ⟨prof', hrun⟩ := h (Env.ample default) roomlessConfig _ pinnedRun rfl rfl (by decide)
    pinnedRun_admitted
  cases hrun

/-- With room for one report the same run agrees with the specification. -/
theorem diagnostic_liveness_pinned :
    ∃ prof, createWithConfig (Env.ample default)
        { roomlessConfig with maxBufferedReports := 1 } = some prof ∧
      Agrees Profiler.verdictCall (LivenessModel.spec 1) prof ∅ pinnedRun :=
  ⟨_, rfl, (@diagnostic_liveness_iff (Env.ample default)
    { roomlessConfig with maxBufferedReports := 1 } _ rfl rfl (by decide) pinnedRun
    pinnedRun_admitted).mpr (meets_of_forall fun _ _ _ => Or.inr (by decide))⟩

end Drainprof
