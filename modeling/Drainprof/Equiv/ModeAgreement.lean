import Drainprof.Equiv.LiveMap
import Drainprof.Equiv.Production
import Drainprof.Equiv.Liveness

/-!
# Production and diagnostic mode agree

Both modes are compared with one specification, `LivenessModel.step`, on the runs that obey the
public contract (`LivenessModel.Contract`).  Diagnostic mode follows it by
`LivenessModel.call_refines`.  Production mode keeps only the number of live allocations of a granule
(`LivenessModel.Counted`), and follows it as long as no `close` empties a slot on the probe path of
another open granule.  Since the counters are a function of the results, modes that return the same
values have the same counters.
-/

namespace Drainprof

open Table Transition Probing

/-! ### The contract -/

namespace LivenessModel

/-- Allocation `a` may be registered for granule `g`: it is not live there, and the granule has had
fewer than `2 ^ 31` registrations. -/
def MayRegister (m : LivenessModel) (g : GranuleId) (a : AllocId) : Prop :=
  ∀ l ∈ m.lookup g, a ∉ l.live ∧ l.registered < 2 ^ 31

instance (m : LivenessModel) (g : GranuleId) (a : AllocId) : Decidable (m.MayRegister g a) :=
  inferInstanceAs (Decidable (∀ l ∈ m.lookup g, a ∉ l.live ∧ l.registered < 2 ^ 31))

/-- The calls the public contract allows. -/
def Contract (m : LivenessModel) : Call → Prop
  | .granuleOpen g => g ∉ m
  | .granuleClose g => g ∈ m
  | .allocRegister g a _ => m.MayRegister g a
  | .allocRegisterLocated g a _ _ _ => m.MayRegister g a
  | .allocDeregister g a => ∃ l ∈ m.lookup g, a ∈ l.live
  | _ => False

instance (m : LivenessModel) : ∀ c, Decidable (m.Contract c)
  | .granuleOpen g => inferInstanceAs (Decidable (g ∉ m))
  | .granuleClose g => inferInstanceAs (Decidable (g ∈ m))
  | .allocRegister g a _ => inferInstanceAs (Decidable (m.MayRegister g a))
  | .allocRegisterLocated g a _ _ _ => inferInstanceAs (Decidable (m.MayRegister g a))
  | .allocDeregister g a => inferInstanceAs (Decidable (∃ l ∈ m.lookup g, a ∈ l.live))
  | .snapshot => isFalse id
  | .sweep => isFalse id
  | .reset => isFalse id
  | .drainReports _ => isFalse id
  | .diagnosticSummaryCompute => isFalse id

/-- The calls of a run, made while the library's allocations succeed. -/
def Obeys (m : LivenessModel) (i : Env × Call) : Prop :=
  i.1.Plentiful ∧ m.Contract i.2

theorem Contract.allows {m : LivenessModel} {c : Call} (h : m.Contract c) : m.Allows c := by
  cases c with
  | allocRegister g a size => exact fun l hl => (h l hl).2
  | allocRegisterLocated g a size file line => exact fun l hl => (h l hl).2
  | granuleOpen g => trivial
  | granuleClose g => trivial
  | allocDeregister g a => trivial
  | sweep => trivial
  | snapshot => exact absurd h id
  | reset => exact absurd h id
  | drainReports k => exact absurd h id
  | diagnosticSummaryCompute => exact absurd h id

/-- A call the contract allows returns an integer. -/
theorem Contract.result {m : LivenessModel} {c : Call} (h : m.Contract c) {env : Env}
    {prof prof' : Profiler} {o : Outcome} (hcall : prof.call (env, c) = .ok (o, prof')) :
    ∃ r, o.result = .int r := by
  cases returns_of_call hcall with
  | snapshot => exact absurd h id
  | sweep => exact absurd h id
  | reset => exact absurd h id
  | drainReports => exact absurd h id
  | diagnosticSummaryCompute => exact absurd h id
  | _ => exact ⟨_, rfl⟩

end LivenessModel

/-- An `open` returns `0`. -/
def Profiler.OpensSucceed (prof : Profiler) (i : Env × Call) : Prop :=
  ∀ g, i.2 = .granuleOpen g → ∃ prof', granuleOpen i.1 prof g = .ok (0, prof')

/-- A `close` empties a slot that is not on the probe path of another granule. -/
def Profiler.ClosesClear (prof : Profiler) (i : Env × Call) : Prop :=
  ∀ arr g, prof.storage = .slotArray arr → i.2 = .granuleClose g →
    ∀ j ∈ findSlot arr g, arr.Clear j

instance (prof : Profiler) (i : Env × Call) : Decidable (prof.OpensSucceed i) :=
  match hc : i.2 with
  | .granuleOpen g =>
    decidable_of_iff (okAnd (granuleOpen i.1 prof g) (fun r => r.1 = 0) = true) (by
      constructor
      · intro h g' hg'
        rw [hc] at hg'
        cases hg'
        obtain ⟨⟨r, prof'⟩, hopen, hr⟩ := exists_of_okAnd h
        obtain rfl : r = 0 := of_decide_eq_true hr
        exact ⟨prof', hopen⟩
      · intro h
        obtain ⟨prof', hopen⟩ := h g hc
        rw [hopen]
        rfl)
  | .granuleClose _ | .allocRegister _ _ _ | .allocRegisterLocated _ _ _ _ _
  | .allocDeregister _ _ | .snapshot | .sweep | .reset | .drainReports _
  | .diagnosticSummaryCompute => isTrue fun g hg => by rw [hc] at hg; cases hg

instance (prof : Profiler) (i : Env × Call) : Decidable (prof.ClosesClear i) :=
  match hs : prof.storage, hc : i.2 with
  | .slotArray arr, .granuleClose g =>
    have : Decidable (∀ j ∈ findSlot arr g, arr.Clear j) := Option.decidableForallMem _
    decidable_of_iff (∀ j ∈ findSlot arr g, arr.Clear j) (by
      constructor
      · intro h arr' g' hs' hc'
        rw [hs] at hs'
        rw [hc] at hc'
        cases hs'
        cases hc'
        exact h
      · intro h
        exact h arr g hs hc)
  | .slotArrayDiag arr, _ => isTrue fun arr' g hs' => by rw [hs] at hs'; cases hs'
  | .slotArray _, .granuleOpen _ | .slotArray _, .allocRegister _ _ _
  | .slotArray _, .allocRegisterLocated _ _ _ _ _ | .slotArray _, .allocDeregister _ _
  | .slotArray _, .snapshot | .slotArray _, .sweep | .slotArray _, .reset
  | .slotArray _, .drainReports _ | .slotArray _, .diagnosticSummaryCompute =>
    isTrue fun arr' g _ hg => by rw [hc] at hg; cases hg

/-! ### Agreement -/

/-- The counters a snapshot shows. -/
def Snapshot.counters (s : Snapshot) : Counters :=
  ⟨s.totalCloses, s.drainableCloses, s.pinnedCloses, s.openGranules, s.peakOpenGranules,
    s.totalAllocs, s.totalDeallocs⟩

/-- A public call, of which the result and the counters of a snapshot taken after it are kept. -/
def Profiler.observedCall (prof : Profiler) (i : Env × Call) :
    Exec ((Result × Counters) × Profiler) := do
  let (o, prof) ← prof.call i
  .ok ((o.result, (snapshot i.1 prof).counters), prof)

/-- Every call of the run returns the same value from both profilers and leaves the same counters. -/
def ModesAgree (p d : Profiler) (calls : List (Env × Call)) : Prop :=
  ∃ os p' d', run Profiler.observedCall p calls = .ok (os, p') ∧
    run Profiler.observedCall d calls = .ok (os, d')

/-- Both profilers take the same verdicts from the run. -/
def VerdictsAgree (p d : Profiler) (calls : List (Env × Call)) : Prop :=
  ∃ vs p' d', run Profiler.verdictCall p calls = .ok (vs, p') ∧
    run Profiler.verdictCall d calls = .ok (vs, d')

/-- What is observed of a call decides its verdict. -/
theorem run_verdictCall_of_observed {calls : List (Env × Call)} :
    ∀ {p p' : Profiler} {os : List (Result × Counters)},
      run Profiler.observedCall p calls = .ok (os, p') →
      run Profiler.verdictCall p calls = .ok (os.map fun o => o.1.verdict, p') := by
  induction calls with
  | nil => intro p p' os h; cases h; rfl
  | cons i calls ih =>
    intro p p' os h
    obtain ⟨o, p₁, os', hcall, hrun, rfl⟩ := run_cons_eq_ok.mp h
    obtain ⟨⟨o', p₂⟩, hcall', heq⟩ := bind_eq_ok.mp hcall
    cases heq
    exact run_cons_eq_ok.mpr ⟨_, p₁, _, verdictCall_of_call hcall', ih hrun, rfl⟩

/-- On the calls of the contract the verdict is the result, and the counters follow from it. -/
theorem modesAgree_of_verdicts {n : ℕ} {calls : List (Env × Call)} :
    ∀ {m : LivenessModel} {p d : Profiler},
      Admits (LivenessModel.spec n) LivenessModel.Obeys m calls → p.counters = d.counters →
      VerdictsAgree p d calls → ModesAgree p d calls := by
  induction calls with
  | nil => intro m p d _ _ _; exact ⟨[], p, d, rfl, rfl⟩
  | cons i calls ih =>
    rintro m p d hadm hcounters ⟨vs, p', d', hp, hd⟩
    obtain ⟨v, p₁, vs', hcallp, hrunp, rfl⟩ := run_cons_eq_ok.mp hp
    obtain ⟨v', d₁, vs'', hcalld, hrund, heq⟩ := run_cons_eq_ok.mp hd
    obtain ⟨rfl, rfl⟩ := List.cons.inj heq
    obtain ⟨⟨o, p₂⟩, hcp, heq⟩ := bind_eq_ok.mp hcallp
    cases heq
    obtain ⟨⟨o', d₂⟩, hcd, heq⟩ := bind_eq_ok.mp hcalld
    injection heq with heq
    obtain ⟨hverdict, rfl⟩ := Prod.mk.inj heq
    have hresult : o'.result = o.result := by
      obtain ⟨r, hr⟩ := hadm.1.2.result hcp
      obtain ⟨r', hr'⟩ := hadm.1.2.result hcd
      rw [hr, hr'] at hverdict
      cases hverdict
      rw [hr, hr']
    have hcounters' : p₁.counters = d₂.counters := by
      rw [(call_counters hcp).2, (call_counters hcd).2, hcounters, hresult]
    obtain ⟨os, p₃, d₃, hp₃, hd₃⟩ := ih hadm.2 hcounters' ⟨vs', p', d', hrunp, hrund⟩
    refine ⟨(o.result, p₁.counters) :: os, p₃, d₃, ?_, ?_⟩
    · exact run_cons_eq_ok.mpr ⟨_, p₁, os, by rw [Profiler.observedCall, hcp]; rfl, hp₃, rfl⟩
    · refine run_cons_eq_ok.mpr ⟨_, d₂, os, ?_, hd₃, rfl⟩
      rw [Profiler.observedCall, hcd, hcounters', ← hresult]
      rfl

theorem modesAgree_iff {n : ℕ} {m : LivenessModel} {p d : Profiler} {calls : List (Env × Call)}
    (hadm : Admits (LivenessModel.spec n) LivenessModel.Obeys m calls)
    (hcounters : p.counters = d.counters) :
    ModesAgree p d calls ↔ VerdictsAgree p d calls := by
  constructor
  · rintro ⟨os, p', d', hp, hd⟩
    exact ⟨_, p', d', run_verdictCall_of_observed hp, run_verdictCall_of_observed hd⟩
  · exact modesAgree_of_verdicts hadm hcounters

/-! ### Production mode -/

/-- The live count of a granule. -/
def LiveSet.count (l : LiveSet) : UInt32 :=
  UInt32.ofNat l.live.card

/-- What bounds the live count: each live allocation was registered. -/
def LiveSet.Bounded (l : LiveSet) : Prop :=
  l.live.card ≤ l.registered ∧ l.registered ≤ 2 ^ 31

theorem LiveSet.Bounded.toNat_count {l : LiveSet} (h : l.Bounded) :
    l.count.toNat = l.live.card := by
  obtain ⟨hlive, hregistered⟩ := h
  exact UInt32.toNat_ofNat_of_lt' (show l.live.card < 2 ^ 32 by omega)

/-- The profiler is in production mode and holds the granules of `m` with the numbers of their live
allocations. -/
structure LivenessModel.Counted (n : UInt32) (prof : Profiler) (m : LivenessModel) : Prop where
  array : ∃ arr counts, prof.storage = .slotArray arr ∧ arr.capacity = n ∧
    arr.Represents counts ∧ Projects LiveSet.count counts m
  bounded : ∀ g, ∀ l ∈ m.lookup g, l.Bounded

/-- An `open` finds no open granule of the same residue. -/
def LivenessModel.OpensFree (n : ℕ) (m : LivenessModel) (i : Env × Call) : Prop :=
  ∀ g, i.2 = .granuleOpen g → ¬∃ k ∈ m.keys, k.toNat % n = g.toNat % n

namespace LivenessModel

variable {n : UInt32} {prof : Profiler} {m : LivenessModel} {env : Env}

theorem counted_open (h : Counted n prof m) {g : GranuleId} (hnew : g ∉ m)
    (hfree : m.OpensFree n.toNat (env, .granuleOpen g))
    (hopen : prof.OpensSucceed (env, .granuleOpen g)) :
    ∃ prof', prof.verdictCall (env, .granuleOpen g)
        = .ok ((m.step n.toNat (.granuleOpen g)).1, prof') ∧
      Counted n prof' (m.step n.toNat (.granuleOpen g)).2 := by
  obtain ⟨arr, counts, hs, rfl, hrep, hproj⟩ := h.array
  rw [step, if_neg (hfree g rfl)]
  rcases granuleOpen_production_cases hs env g with ⟨i, hstop, -⟩ | ⟨i, hstop, hcall⟩ |
    ⟨-, hcall⟩
  · -- the granule would be open already
    refine absurd (hproj.mem_iff.mp ?_) hnew
    exact hrep.mem_of_key (key_of_findSlot (findSlot_eq_some_iff.mpr hstop))
  · refine ⟨_, verdictCall_of_call (call_granuleOpen hcall), ⟨_, counts.insert g 0, rfl, rfl,
      hrep.claim hstop, ?_⟩, forall_lookup_insert h.bounded ⟨Nat.zero_le _, Nat.zero_le _⟩⟩
    exact hproj.insert g ⟨0, 0⟩
  · obtain ⟨prof', hsucceeds⟩ := hopen g rfl
    rw [hcall] at hsucceeds
    cases hsucceeds

theorem counted_close_fst (h : Counted n prof m) (env : Env) {g : GranuleId} (hmem : g ∈ m) :
    ∃ (arr : SlotArray) (counts : LiveMap) (i : Fin arr.capacity.toNat) (prof' : Profiler),
      prof.storage = .slotArray arr ∧ arr.capacity = n ∧ arr.Represents counts ∧
      Projects LiveSet.count counts m ∧ findSlot arr g = some i ∧
      prof.verdictCall (env, .granuleClose g) = .ok ((m.step n.toNat (.granuleClose g)).1, prof') ∧
      prof'.storage = (prof.releaseSlot arr i).storage := by
  obtain ⟨arr, counts, hs, rfl, hrep, hproj⟩ := h.array
  rcases hrep.find_cases hproj g with ⟨hlookup, -⟩ | ⟨l, i, hlookup, hfind, hcount⟩
  · exact absurd hmem (AList.lookup_eq_none.mp hlookup)
  · have hbound := h.bounded g l hlookup
    have hnat := hbound.toNat_count
    obtain ⟨hlive, hregistered⟩ := hbound
    have hmax : (arr.slot i).liveCount ≠ uint32Max := by
      rw [hcount]
      intro heq
      rw [heq] at hnat
      have huint : uint32Max.toNat = 2 ^ 32 - 1 := rfl
      omega
    have hzero : (arr.slot i).liveCount = 0 ↔ l.live = 0 := by
      rw [hcount, ← Multiset.card_eq_zero, ← hnat]
      exact UInt32.toNat_inj.symm
    have hclose : granuleClose env prof g = _ := granuleClose_production_of_find hs hfind hmax
    refine ⟨arr, counts, i, (finishClose (prof.releaseSlot arr i) ((arr.slot i).liveCount = 0)).1,
      hs, rfl, hrep, hproj, hfind, ?_, rfl⟩
    rw [verdictCall_of_call (call_granuleClose hclose), step, hlookup]
    simp only [hzero]
    rfl

theorem counted_close (h : Counted n prof m) {g : GranuleId} (hmem : g ∈ m)
    (hclear : prof.ClosesClear (env, .granuleClose g)) :
    ∃ prof', prof.verdictCall (env, .granuleClose g)
        = .ok ((m.step n.toNat (.granuleClose g)).1, prof') ∧
      Counted n prof' (m.step n.toNat (.granuleClose g)).2 := by
  obtain ⟨arr, counts, i, prof', hs, rfl, hrep, hproj, hfind, hcall, hs'⟩ :=
    counted_close_fst h env hmem
  refine ⟨prof', hcall, ?_⟩
  have hstep : (m.step arr.capacity.toNat (.granuleClose g)).2 = m.erase g := by
    rw [step]
    obtain ⟨l, hl⟩ := Option.isSome_iff_exists.mp (AList.lookup_isSome.mpr hmem)
    rw [hl]
  rw [hstep]
  exact ⟨⟨_, _, hs', rfl, hrep.release (key_of_findSlot hfind) (hclear arr g hs rfl i hfind),
    hproj.erase g⟩, forall_lookup_erase h.bounded g⟩

theorem counted_register (h : Counted n prof m) {g : GranuleId} {a : AllocId}
    (hmay : m.MayRegister g a) (size : UInt64) (file : FilePtr) (line : UInt32) :
    ∃ r prof', allocRegisterLocated env prof g a size file line = .ok (r, prof') ∧
      .int r = (m.register g a).1 ∧ Counted n prof' (m.register g a).2 := by
  obtain ⟨arr, counts, hs, rfl, hrep, hproj⟩ := h.array
  rw [register]
  rcases hrep.find_cases hproj g with ⟨hlookup, hfind⟩ | ⟨l, i, hlookup, hfind, hcount⟩
  · rw [hlookup]
    exact ⟨_, _, allocRegisterLocated_production_of_none hs hfind, rfl,
      ⟨arr, counts, hs, rfl, hrep, hproj⟩, h.bounded⟩
  · obtain ⟨hlive, hregistered⟩ := h.bounded g l hlookup
    have hroom := (hmay l hlookup).2
    rw [hlookup]
    refine ⟨_, _, allocRegisterLocated_production_of_find hs hfind, rfl, ⟨_, _, rfl, rfl,
      hrep.recount (key_of_findSlot hfind) _, ?_⟩, forall_lookup_insert h.bounded ?_⟩
    · have hsucc : (arr.slot i).liveCount + 1 = LiveSet.count ⟨l.registered + 1, a ::ₘ l.live⟩ := by
        rw [hcount, LiveSet.count, LiveSet.count, Multiset.card_cons, UInt32.ofNat_add]
        rfl
      rw [hsucc]
      exact hproj.insert g _
    · show (a ::ₘ l.live).card ≤ l.registered + 1 ∧ l.registered + 1 ≤ 2 ^ 31
      rw [Multiset.card_cons]
      omega

theorem counted_deregister (h : Counted n prof m) {g : GranuleId} {a : AllocId}
    (hlive : ∃ l ∈ m.lookup g, a ∈ l.live) :
    ∃ prof', prof.verdictCall (env, .allocDeregister g a)
        = .ok ((m.step n.toNat (.allocDeregister g a)).1, prof') ∧
      Counted n prof' (m.step n.toNat (.allocDeregister g a)).2 := by
  obtain ⟨arr, counts, hs, rfl, hrep, hproj⟩ := h.array
  obtain ⟨l, hlookup, hmem⟩ := hlive
  rw [Option.mem_def] at hlookup
  rcases hrep.find_cases hproj g with ⟨hnone, -⟩ | ⟨l', i, hlookup', hfind, hcount⟩
  · rw [hlookup] at hnone
    cases hnone
  · rw [hlookup] at hlookup'
    cases hlookup'
    obtain ⟨hcard, hregistered⟩ := h.bounded g l hlookup
    have hpos := Multiset.card_pos_iff_exists_mem.mpr ⟨a, hmem⟩
    have herase := Multiset.card_erase_of_mem hmem
    rw [step, hlookup]
    dsimp only
    rw [if_pos hmem]
    refine ⟨_, verdictCall_of_call (call_allocDeregister
      (allocDeregister_production_of_find hs hfind)), ⟨_, _, rfl, rfl,
      hrep.recount (key_of_findSlot hfind) _, ?_⟩, forall_lookup_insert h.bounded ?_⟩
    · have hpred : (arr.slot i).liveCount - 1
          = LiveSet.count ⟨l.registered, l.live.erase a⟩ := by
        rw [hcount, LiveSet.count, LiveSet.count, herase, Nat.pred_eq_sub_one,
          UInt32.ofNat_sub hpos]
        rfl
      rw [hpred]
      exact hproj.insert g _
    · show (l.live.erase a).card ≤ l.registered ∧ l.registered ≤ 2 ^ 31
      rw [herase, Nat.pred_eq_sub_one]
      omega

/-- A call of the contract returns in production mode what the specification returns, if an `open`
succeeds and a `close` empties a slot on no other granule's path. -/
theorem counted_call (h : Counted n prof m) {i : Env × Call} (hobeys : m.Obeys i)
    (hfree : m.OpensFree n.toNat i) (hopen : prof.OpensSucceed i) (hclear : prof.ClosesClear i) :
    ∃ prof', prof.verdictCall i = .ok ((spec n.toNat m i).1, prof') ∧
      Counted n prof' (spec n.toNat m i).2 := by
  obtain ⟨env, c⟩ := i
  obtain ⟨-, hcontract⟩ := hobeys
  cases c with
  | granuleOpen g => exact counted_open h hcontract hfree hopen
  | granuleClose g => exact counted_close h hcontract hclear
  | allocRegister g a size =>
    obtain ⟨r, prof', hcall, hr, hcounted⟩ := counted_register h hcontract size 0 0
    refine ⟨prof', ?_, hcounted⟩
    rw [verdictCall_of_call (call_allocRegister hcall), spec, step, ← hr]
    rfl
  | allocRegisterLocated g a size file line =>
    obtain ⟨r, prof', hcall, hr, hcounted⟩ := counted_register h hcontract size file line
    refine ⟨prof', ?_, hcounted⟩
    rw [verdictCall_of_call (call_allocRegisterLocated hcall), spec, step, ← hr]
    rfl
  | allocDeregister g a => exact counted_deregister h hcontract
  | _ => exact absurd hcontract id

/-- A call of the contract that violates the conditions returns something else than the
specification, or leaves an open granule whose `close` the profiler rejects. -/
theorem counted_call_exact {prof' : Profiler} (h : Counted n prof m) {i : Env × Call}
    (hobeys : m.Obeys i) (hfree : m.OpensFree n.toNat i)
    (hbad : ¬(prof.OpensSucceed i ∧ prof.ClosesClear i))
    (hcall : prof.verdictCall i = .ok ((spec n.toNat m i).1, prof')) :
    ∃ k, k ∈ (spec n.toNat m i).2 ∧
      ¬Agrees Profiler.verdictCall (spec n.toNat) prof' (spec n.toNat m i).2
        [(i.1, .granuleClose k)] := by
  obtain ⟨env, c⟩ := i
  by_cases hopen : prof.OpensSucceed (env, c)
  · have hclear : ¬prof.ClosesClear (env, c) := fun hclear => hbad ⟨hopen, hclear⟩
    unfold Profiler.ClosesClear at hclear
    push Not at hclear
    obtain ⟨arr, g, hs, hc, i, hfind, hnot⟩ := hclear
    dsimp only at hc
    subst hc
    obtain ⟨arr', counts, i', p, hs', rfl, hrep, hproj, hfind', hcall', hstorage⟩ :=
      counted_close_fst h env hobeys.2
    rw [hs] at hs'
    cases hs'
    rw [Option.mem_def, hfind'] at hfind
    cases hfind
    rw [spec, hcall'] at hcall
    cases hcall
    obtain ⟨j, k, hji, hj, hlost⟩ := SlotArray.search_of_not_clear hnot
    have hkey := key_of_findSlot hfind'
    have hne : k ≠ g := by
      rintro rfl
      rw [← arr.holds_val] at hj hkey
      exact hji (Fin.ext (hrep.chained.slot_unique hj hkey))
    -- the specification still has granule `k` open
    have hlookup : (m.erase g).lookup k = m.lookup k := AList.lookup_erase_ne hne
    have hk : k ∈ m := hproj.mem_iff.mp (hrep.mem_of_key hj)
    have hstep : (spec arr.capacity.toNat m (env, .granuleClose g)).2 = m.erase g := by
      obtain ⟨l, hl⟩ := Option.isSome_iff_exists.mp (AList.lookup_isSome.mpr hobeys.2)
      rw [spec, step, hl]
    refine ⟨k, ?_, ?_⟩
    · rw [hstep, ← AList.lookup_isSome, hlookup, AList.lookup_isSome]
      exact hk
    · rw [agrees_singleton_iff]
      rintro ⟨p', hprobe⟩
      -- production mode does not find it
      have hmiss : findSlot (arr.setSlot i GranuleSlot.free) k = none := by
        rcases findSlot_cases (arr.setSlot i GranuleSlot.free) k with
          ⟨j', hj', -⟩ | ⟨-, hnone⟩
        · rw [hlost] at hj'
          cases hj'
        · exact hnone
      rw [verdictCall_of_call (call_granuleClose
        (granuleClose_production_of_none hstorage hmiss)), hstep, spec, step, hlookup] at hprobe
      obtain ⟨l, hl⟩ := Option.isSome_iff_exists.mp (AList.lookup_isSome.mpr hk)
      rw [hl] at hprobe
      dsimp only at hprobe
      split_ifs at hprobe <;> cases hprobe
  · -- an `open` that fails is none of the specification's
    exfalso
    unfold Profiler.OpensSucceed at hopen
    push Not at hopen
    obtain ⟨g, hc, hfails⟩ := hopen
    dsimp only at hc hfails
    subst hc
    obtain ⟨arr, counts, hs, rfl, hrep, hproj⟩ := h.array
    rw [spec, step, if_neg (hfree g rfl)] at hcall
    rcases granuleOpen_production_cases hs env g with ⟨i, -, hopens⟩ | ⟨i, -, hopens⟩ |
      ⟨-, hopens⟩
    · exact hfails _ hopens
    · exact hfails _ hopens
    · rw [verdictCall_of_call (call_granuleOpen hopens)] at hcall
      cases hcall

end LivenessModel

/-! ### Runs -/

namespace LivenessModel

/-- The calls of the contract that find the home of the granule they open free. -/
def ObeysFree (n : ℕ) (m : LivenessModel) (i : Env × Call) : Prop :=
  m.Obeys i ∧ m.OpensFree n i

variable {config : Config} {d p : Profiler} {m : LivenessModel} {calls : List (Env × Call)}

/-- In diagnostic mode an `open` succeeds only on a free home. -/
theorem opensFree_of_succeeds (h : Represents config d m) {i : Env × Call} (henv : i.1.Plentiful)
    (hopen : d.OpensSucceed i) : m.OpensFree config.slotCapacity.toNat i := by
  intro g hc htaken
  obtain ⟨d', hsucceeds⟩ := hopen g hc
  rcases h.tables.granuleOpen_cases henv g with ⟨-, hfails⟩ | ⟨hfree, -⟩
  · rw [hfails] at hsucceeds
    cases hsucceeds
  · exact hfree htaken

/-- The condition on diagnostic mode: a pinned granule is closed only if its report finds a place. -/
def Delivers (config : Config) (d : Profiler) (i : Env × Call) : Prop :=
  d.ClosesPinned i.2 → config.HoldsReports

theorem represents_step {i : Env × Call} (h : Represents config d m) (hobeys : m.Obeys i)
    (hok : Delivers config d i) :
    ∃ d', d.verdictCall i = .ok ((spec config.slotCapacity.toNat m i).1, d') ∧
      Represents config d' (spec config.slotCapacity.toNat m i).2 :=
  call_refines h hobeys.1 hobeys.2.allows hok

/-- If every `open` of the run succeeds in diagnostic mode, it finds its home free. -/
theorem admits_free :
    ∀ {calls : List (Env × Call)} {d : Profiler} {m : LivenessModel}, Represents config d m →
      Admits (spec config.slotCapacity.toNat) Obeys m calls →
      Meets Profiler.verdictCall Profiler.OpensSucceed d calls →
      Meets Profiler.verdictCall (Delivers config) d calls →
      Admits (spec config.slotCapacity.toNat) (ObeysFree config.slotCapacity.toNat) m calls := by
  intro calls
  induction calls with
  | nil => intro d m _ _ _ _; trivial
  | cons i calls ih =>
    intro d m h hadm hopen hok
    obtain ⟨d', hcall, h'⟩ := represents_step h hadm.1 hok.1
    exact ⟨⟨hadm.1, opensFree_of_succeeds h hadm.1.1 hopen.1⟩,
      ih h' hadm.2 (hopen.2 _ _ hcall) (hok.2 _ _ hcall)⟩

theorem diag_agrees (h : Represents config d m)
    (hadm : Admits (spec config.slotCapacity.toNat) Obeys m calls)
    (hok : Meets Profiler.verdictCall (Delivers config) d calls) :
    Agrees Profiler.verdictCall (spec config.slotCapacity.toNat) d m calls := by
  obtain ⟨d', hrun, -⟩ := @run_eq_trace _ _ _ _ _ Profiler.verdictCall
    (spec config.slotCapacity.toNat) (Represents config) (Delivers config) Obeys represents_step
    calls d m h hadm hok
  exact ⟨d', hrun⟩

/-- When one profiler follows the specification, the other agrees with it iff it does too. -/
theorem verdictsAgree_iff {n : ℕ} (hd : Agrees Profiler.verdictCall (spec n) d m calls) :
    VerdictsAgree p d calls ↔ Agrees Profiler.verdictCall (spec n) p m calls := by
  obtain ⟨d', hrund⟩ := hd
  constructor
  · rintro ⟨vs, p', d'', hp, hd'⟩
    rw [hrund] at hd'
    cases hd'
    exact ⟨p', hp⟩
  · rintro ⟨p', hp⟩
    exact ⟨_, p', d', hp, hrund⟩

theorem counted_of_created {env : Env} (h : createWithConfig env config = some p)
    (hmode : config.mode = .production) : Counted config.slotCapacity p ∅ := by
  obtain ⟨-, -, -, arr, hs, harr⟩ := createWithConfig_production h hmode
  obtain ⟨hrep, hcap⟩ := slotArrayCreate_represents harr
  exact ⟨⟨arr, ∅, hs, hcap, hrep, projects_empty⟩, fun g l hl => by cases hl⟩

end LivenessModel

/-- **Production and diagnostic mode agree on the runs that keep the probe chains intact.**  Take a
run that obeys the contract and whose `open`s succeed in both modes.  If no `close` of it empties a
production slot on the probe path of another open granule, and every diagnostic report has somewhere
to go, then both modes return the same values and show the same counters.  Given the second
condition the first is exact: it holds iff the modes agree on the run and on each of its prefixes
followed by one more `close`. -/
theorem modes_agree_iff {envP envD : Env} {configP configD : Config} {p d : Profiler}
    (hp : createWithConfig envP configP = some p) (hmodeP : configP.mode = .production)
    (hd : createWithConfig envD configD = some d) (hmodeD : configD.mode = .diagnostic)
    (hcap : configP.slotCapacity = configD.slotCapacity) {calls : List (Env × Call)}
    (hcalls : Admits (LivenessModel.spec configD.slotCapacity.toNat) LivenessModel.Obeys ∅ calls)
    (hopenP : Meets Profiler.verdictCall Profiler.OpensSucceed p calls)
    (hopenD : Meets Profiler.verdictCall Profiler.OpensSucceed d calls) :
    (Meets Profiler.verdictCall Profiler.ClosesClear p calls →
      Meets Profiler.verdictCall (LivenessModel.Delivers configD) d calls →
        ModesAgree p d calls) ∧
    (configD.HoldsReports →
      ((ModesAgree p d calls ∧ ∀ js env g, js <+: calls →
          Admits (LivenessModel.spec configD.slotCapacity.toNat) LivenessModel.Obeys ∅
            (js ++ [(env, .granuleClose g)]) →
          ModesAgree p d (js ++ [(env, .granuleClose g)])) ↔
        Meets Profiler.verdictCall Profiler.ClosesClear p calls)) := by
  have hcounted := LivenessModel.counted_of_created hp hmodeP
  rw [hcap] at hcounted
  have hpos : 0 < configD.slotCapacity.toNat := by
    obtain ⟨arr, counts, hs, harrcap, -⟩ := hcounted.array
    rw [← harrcap]
    exact arr.capacity_pos
  have hrep := LivenessModel.represents_of_created hd hmodeD hpos
  have hcounters : p.counters = d.counters := by
    rw [(createWithConfig_production hp hmodeP).2.1, (createWithConfig_diag hd hmodeD).2.1]
  constructor
  · intro hclear hdelivers
    have hfree := LivenessModel.admits_free hrep hcalls hopenD hdelivers
    obtain ⟨p', hrun, -⟩ := @run_eq_trace _ _ _ _ _ Profiler.verdictCall
      (LivenessModel.spec configD.slotCapacity.toNat) (LivenessModel.Counted configD.slotCapacity)
      (fun p i => p.OpensSucceed i ∧ p.ClosesClear i)
      (LivenessModel.ObeysFree configD.slotCapacity.toNat)
      (fun h hobeys hok => LivenessModel.counted_call h hobeys.1 hobeys.2 hok.1 hok.2)
      calls p ∅ hcounted hfree (meets_and_iff.mpr ⟨hopenP, hclear⟩)
    rw [modesAgree_iff hcalls hcounters,
      LivenessModel.verdictsAgree_iff (LivenessModel.diag_agrees hrep hcalls hdelivers)]
    exact ⟨p', hrun⟩
  · intro hholds
    have hfree := LivenessModel.admits_free hrep hcalls hopenD (meets_of_forall fun _ _ _ => hholds)
    have hexact := run_agrees_iff_meets Profiler.verdictCall
      (LivenessModel.spec configD.slotCapacity.toNat) (LivenessModel.Counted configD.slotCapacity)
      (fun p i => p.OpensSucceed i ∧ p.ClosesClear i)
      (LivenessModel.ObeysFree configD.slotCapacity.toNat)
      (fun i => ∃ env g, i = (env, .granuleClose g))
      (fun h hobeys hok => LivenessModel.counted_call h hobeys.1 hobeys.2 hok.1 hok.2)
      ?_ ?_ hcounted hfree
    · -- the two modes agree on a run iff production mode follows the specification on it
      have hagree : ∀ {js : List (Env × Call)},
          Admits (LivenessModel.spec configD.slotCapacity.toNat) LivenessModel.Obeys ∅ js →
          (ModesAgree p d js ↔ Agrees Profiler.verdictCall
            (LivenessModel.spec configD.slotCapacity.toNat) p ∅ js) := by
        intro js hjs
        rw [modesAgree_iff hjs hcounters, LivenessModel.verdictsAgree_iff
          (LivenessModel.diag_agrees hrep hjs (meets_of_forall fun _ _ _ => hholds))]
      rw [meets_and_iff, and_iff_right hopenP] at hexact
      rw [← hexact, hagree hcalls]
      refine and_congr_right fun _ => ?_
      constructor
      · rintro hall js j hpre ⟨env, g, rfl⟩ hadm
        have hobeys := hadm.mono fun _ _ h => h.1
        exact (hagree hobeys).mp (hall js env g hpre hobeys)
      · intro hall js env g hpre hadm
        refine (hagree hadm).mpr (hall js _ hpre ⟨env, g, rfl⟩ ?_)
        obtain ⟨rest, rfl⟩ := hpre
        obtain ⟨hjs, -⟩ := admits_append_iff.mp hfree
        obtain ⟨-, hlast, -⟩ := admits_append_iff.mp hadm
        exact admits_append_iff.mpr ⟨hjs, ⟨hlast, nofun⟩, trivial⟩
    · rintro q m i h hobeys ⟨env, g, rfl⟩
      obtain ⟨-, -, -, q', -, -, -, -, -, hcall, -⟩ :=
        LivenessModel.counted_close_fst h env hobeys.1.2
      exact ⟨q', hcall⟩
    · intro q m i q' h hobeys hbad hcall
      obtain ⟨k, hk, hno⟩ :=
        LivenessModel.counted_call_exact h hobeys.1 hobeys.2 hbad hcall
      exact ⟨_, ⟨i.1, k, rfl⟩, ⟨⟨hobeys.1.1, hk⟩, nofun⟩, hno⟩

/-- Granules `0` and `1` hash to the same slot; the one opened first is closed first. -/
def crossedRun : List (Env × Call) :=
  [.granuleOpen 0, .granuleOpen 1, .granuleClose 0, .granuleClose 1].map
    fun c => (Env.ample default, c)

/-- The second `close` returns `-1` in production mode and `1` in diagnostic mode. -/
theorem modes_disagree :
    ¬∀ (envP envD : Env) (configP configD : Config) (p d : Profiler) (calls : List (Env × Call)),
      createWithConfig envP configP = some p → configP.mode = .production →
      createWithConfig envD configD = some d → configD.mode = .diagnostic →
      configP.slotCapacity = configD.slotCapacity →
      Admits (LivenessModel.spec configD.slotCapacity.toNat) LivenessModel.Obeys ∅ calls →
      Meets Profiler.verdictCall Profiler.OpensSucceed p calls →
      Meets Profiler.verdictCall Profiler.OpensSucceed d calls → ModesAgree p d calls := by
  intro h
  have hample := Env.plentiful_ample default
  obtain ⟨os, p', d', hp, hd⟩ := h (Env.ample default) (Env.ample default)
    (smallConfig .production 2) (smallConfig .diagnostic 2) _ _ crossedRun rfl rfl rfl rfl rfl
    ⟨⟨hample, by decide⟩, ⟨hample, by decide⟩, ⟨hample, by decide⟩, ⟨hample, by decide⟩, trivial⟩
    (by decide) (by decide)
  have houtsp := congrArg (fun r => r.map fun o => o.1.map Prod.fst) hp
  have houtsd := congrArg (fun r => r.map fun o => o.1.map Prod.fst) hd
  have houts := houtsp.trans houtsd.symm
  revert houts
  decide

/-- Granule `1` is opened inside granule `0` and closed first. -/
def nestedRun : List (Env × Call) :=
  [.granuleOpen 0, .granuleOpen 1, .allocRegister 1 7 64, .allocDeregister 1 7, .granuleClose 1,
    .granuleClose 0].map fun c => (Env.ample default, c)

theorem modes_agree_nested :
    ∃ p d, createWithConfig (Env.ample default) (smallConfig .production 2) = some p ∧
      createWithConfig (Env.ample default) (smallConfig .diagnostic 2) = some d ∧
      ModesAgree p d nestedRun := by
  have hample := Env.plentiful_ample default
  have hadm : Admits (LivenessModel.spec 2) LivenessModel.Obeys ∅ nestedRun :=
    ⟨⟨hample, by decide⟩, ⟨hample, by decide⟩, ⟨hample, by decide⟩, ⟨hample, by decide⟩,
      ⟨hample, by decide⟩, ⟨hample, by decide⟩, trivial⟩
  have hp : createWithConfig (Env.ample default) (smallConfig .production 2) = some _ := rfl
  have hd : createWithConfig (Env.ample default) (smallConfig .diagnostic 2) = some _ := rfl
  refine ⟨_, _, hp, hd, ?_⟩
  refine (modes_agree_iff hp rfl hd rfl rfl hadm (by decide) (by decide)).1 (by decide) ?_
  exact meets_of_forall fun _ _ _ => Or.inr (by decide)

end Drainprof
