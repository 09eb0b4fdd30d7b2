import Mathlib.Algebra.Field.Rat
import Mathlib.Algebra.Order.Field.Basic
import Mathlib.Algebra.Order.Ring.Rat
import Drainprof.Equiv.LiveMap
import Drainprof.Equiv.Production

/-!
# Production mode is exact on nested granules

If every `close` names the granule opened last, no `close` cuts a probe chain: the slots on a
granule's probe path before its own belong to granules opened earlier (`Probing.Nested`), which are
closed later.  So production mode follows the specification `Arenas.apply`, which counts the
registrations and deregistrations of each open granule, and what `snapshot` and `sweep` show after
each call is what the specification says (`nested_exact`): the DSR is one less the fraction of the
closes that left allocations behind.
-/

namespace Drainprof

open Probing Table Transition

/-! ### The specification -/

/-- The registrations and deregistrations of a granule since it was opened. -/
structure Tally where
  registered : ℕ
  deregistered : ℕ
  deriving DecidableEq

/-- The open granules with their tallies, newest first in `stack`, and the closes so far: all of
them, those that returned `1` and those that returned `0`. -/
structure Arenas where
  tallies : FinMap GranuleId Tally
  stack : List GranuleId
  closes : ℕ
  drainable : ℕ
  pinned : ℕ

/-- What can be seen of a call: the integer it returns, if it returns one, and what `snapshot` and
`sweep` show after it. -/
structure Observation where
  code : Option Int
  totalCloses : UInt64
  drainableCloses : UInt64
  pinnedCloses : UInt64
  dsr : ℚ
  openGranules : ℕ
  sweptDrainable : ℕ
  sweptPinned : ℕ
  deriving DecidableEq

namespace Arenas

/-- No granule is open and none was closed. -/
def empty : Arenas :=
  ⟨∅, [], 0, 0, 0⟩

/-- Change the tally of an open granule. -/
def book (m : Arenas) (g : GranuleId) (f : Tally → Tally) : Option Int × Arenas :=
  match m.tallies.lookup g with
  | some t => (some 0, { m with tallies := m.tallies.insert g (f t) })
  | none => (some (-1), m)

/-- One call. -/
def apply (m : Arenas) : Call → Option Int × Arenas
  | .granuleOpen g =>
    (some 0, { m with tallies := m.tallies.insert g ⟨0, 0⟩, stack := g :: m.stack })
  | .granuleClose g =>
    match m.tallies.lookup g with
    | some t =>
      if t.deregistered = t.registered then
        (some 1, { m with
          tallies := m.tallies.erase g
          stack := m.stack.tail
          closes := m.closes + 1
          drainable := m.drainable + 1 })
      else
        (some 0, { m with
          tallies := m.tallies.erase g
          stack := m.stack.tail
          closes := m.closes + 1
          pinned := m.pinned + 1 })
    | none => (some (-1), m)
  | .allocRegister g _ _ => m.book g fun t => { t with registered := t.registered + 1 }
  | .allocRegisterLocated g _ _ _ _ => m.book g fun t => { t with registered := t.registered + 1 }
  | .allocDeregister g _ => m.book g fun t => { t with deregistered := t.deregistered + 1 }
  | .snapshot => (none, m)
  | .sweep => (none, m)
  | .reset => (none, m)
  | .drainReports _ => (none, m)
  | .diagnosticSummaryCompute => (none, m)

/-- One less the fraction of the closes that violated their granule's lifetime, as long as the counters
have not wrapped. -/
def dsr (m : Arenas) : ℚ :=
  if m.closes = 0 then 0
  else if m.closes < 2 ^ 64 then 1 - m.pinned / m.closes
  else dsrOf (UInt64.ofNat m.drainable) (UInt64.ofNat m.closes)

/-- What is to be seen after a call that returned `code`. -/
def observe (m : Arenas) (code : Option Int) : Observation where
  code := code
  totalCloses := UInt64.ofNat m.closes
  drainableCloses := UInt64.ofNat m.drainable
  pinnedCloses := UInt64.ofNat m.pinned
  dsr := m.dsr
  openGranules := m.stack.length
  sweptDrainable := m.tallies.entries.countP fun e => e.2.deregistered = e.2.registered
  sweptPinned := m.tallies.entries.countP fun e => e.2.deregistered ≠ e.2.registered

/-- One call, and what is to be seen after it. -/
def spec (m : Arenas) (i : Env × Call) : Observation × Arenas :=
  ((m.apply i.2).2.observe (m.apply i.2).1, (m.apply i.2).2)

/-- The calls of a nested run with `n` slots: an `open` of a granule that is not open while fewer
than `n` are, a `close` of the granule opened last, registrations up to `2 ^ 32 - 2` live at once,
deregistrations of what was registered, and any other call but `reset`. -/
def Allows (n : ℕ) (m : Arenas) : Call → Prop
  | .granuleOpen g => g ∉ m.tallies ∧ m.stack.length < n
  | .granuleClose g => m.stack.head? = some g
  | .allocRegister g _ _ =>
    ∃ t ∈ m.tallies.lookup g, t.registered + 1 < t.deregistered + (2 ^ 32 - 1)
  | .allocRegisterLocated g _ _ _ _ =>
    ∃ t ∈ m.tallies.lookup g, t.registered + 1 < t.deregistered + (2 ^ 32 - 1)
  | .allocDeregister g _ => ∃ t ∈ m.tallies.lookup g, t.deregistered < t.registered
  | .snapshot => True
  | .sweep => True
  | .reset => False
  | .drainReports _ => True
  | .diagnosticSummaryCompute => True

instance (n : ℕ) (m : Arenas) : ∀ c, Decidable (m.Allows n c)
  | .granuleOpen g => inferInstanceAs (Decidable (g ∉ m.tallies ∧ m.stack.length < n))
  | .granuleClose g => inferInstanceAs (Decidable (m.stack.head? = some g))
  | .allocRegister g _ _ => inferInstanceAs (Decidable
      (∃ t ∈ m.tallies.lookup g, t.registered + 1 < t.deregistered + (2 ^ 32 - 1)))
  | .allocRegisterLocated g _ _ _ _ => inferInstanceAs (Decidable
      (∃ t ∈ m.tallies.lookup g, t.registered + 1 < t.deregistered + (2 ^ 32 - 1)))
  | .allocDeregister g _ =>
    inferInstanceAs (Decidable (∃ t ∈ m.tallies.lookup g, t.deregistered < t.registered))
  | .snapshot => isTrue trivial
  | .sweep => isTrue trivial
  | .reset => isFalse id
  | .drainReports _ => isTrue trivial
  | .diagnosticSummaryCompute => isTrue trivial

end Arenas

/-- The integer a call returns. -/
def Result.code : Result → Option Int
  | .int r => some r
  | _ => none

/-- What `snapshot` and `sweep` show after a call. -/
def Profiler.observe (prof : Profiler) (env : Env) (r : Result) : Observation where
  code := r.code
  totalCloses := (snapshot env prof).totalCloses
  drainableCloses := (snapshot env prof).drainableCloses
  pinnedCloses := (snapshot env prof).pinnedCloses
  dsr := (snapshot env prof).dsr
  openGranules := (snapshot env prof).openGranules.toNat
  sweptDrainable := (sweep env prof).drainableCloses.toNat
  sweptPinned := (sweep env prof).pinnedCloses.toNat

/-- A public call, of which the code is kept, followed by a `snapshot` and a `sweep`. -/
def Profiler.watchedCall (prof : Profiler) (i : Env × Call) : Exec (Observation × Profiler) := do
  let (o, prof) ← prof.call i
  .ok (prof.observe i.1 o.result, prof)

theorem watchedCall_of_call {prof prof' : Profiler} {i : Env × Call} {o : Outcome}
    (h : prof.call i = .ok (o, prof')) :
    prof.watchedCall i = .ok (prof'.observe i.1 o.result, prof') := by
  rw [Profiler.watchedCall, h, ok_bind]

/-! ### The simulation relation -/

/-- The live count of a granule. -/
def Tally.count (t : Tally) : UInt32 :=
  UInt32.ofNat (t.registered - t.deregistered)

/-- Nothing was deregistered that was not registered, and the live count fits. -/
def Tally.Bounded (t : Tally) : Prop :=
  t.deregistered ≤ t.registered ∧ t.registered < t.deregistered + (2 ^ 32 - 1)

namespace Tally.Bounded

variable {t : Tally}

theorem toNat_count (h : t.Bounded) : t.count.toNat = t.registered - t.deregistered := by
  obtain ⟨-, hlt⟩ := h
  exact UInt32.toNat_ofNat_of_lt' (show t.registered - t.deregistered < 2 ^ 32 by omega)

theorem count_eq_zero_iff (h : t.Bounded) : t.count = 0 ↔ t.deregistered = t.registered := by
  have hle := h.1
  rw [← UInt32.toNat_inj, h.toNat_count]
  show t.registered - t.deregistered = 0 ↔ _
  omega

theorem count_ne_max (h : t.Bounded) : t.count ≠ uint32Max := by
  intro heq
  have hnat := h.toNat_count
  rw [heq] at hnat
  have hmax : uint32Max.toNat = 2 ^ 32 - 1 := rfl
  obtain ⟨hle, hlt⟩ := h
  omega

end Tally.Bounded

/-- A counter that is incremented. -/
theorem add_one_eq_ofNat {c : UInt64} {k : ℕ} (h : c = UInt64.ofNat k) :
    c + 1 = UInt64.ofNat (k + 1) := by
  rw [h, UInt64.ofNat_add]
  rfl

/-- The counters show the closes and the number of open granules, and every close is in a class. -/
structure Arenas.CountedBy (m : Arenas) (c : Counters) : Prop where
  totalCloses : c.totalCloses = UInt64.ofNat m.closes
  drainableCloses : c.drainableCloses = UInt64.ofNat m.drainable
  pinnedCloses : c.pinnedCloses = UInt64.ofNat m.pinned
  openGranules : c.openGranules = UInt64.ofNat m.stack.length
  classes : m.drainable + m.pinned = m.closes

/-- The DSR of the counters is one less the fraction of violating granules. -/
theorem Arenas.CountedBy.dsr_eq {m : Arenas} {c : Counters} (h : m.CountedBy c) :
    dsrOf c.drainableCloses c.totalCloses = m.dsr := by
  have hclasses := h.classes
  rw [h.drainableCloses, h.totalCloses, Arenas.dsr]
  split_ifs with hzero hlt
  · rw [hzero]
    rfl
  · have hcloses : (UInt64.ofNat m.closes).toNat = m.closes := UInt64.toNat_ofNat_of_lt' hlt
    have hdrainable : (UInt64.ofNat m.drainable).toNat = m.drainable :=
      UInt64.toNat_ofNat_of_lt' (show m.drainable < 2 ^ 64 by omega)
    have hpos : UInt64.ofNat m.closes > 0 := by
      show 0 < UInt64.ofNat m.closes
      rw [UInt64.lt_iff_toNat_lt, hcloses]
      exact Nat.pos_of_ne_zero hzero
    have hne : (m.closes : ℚ) ≠ 0 := Nat.cast_ne_zero.mpr hzero
    rw [dsrOf, if_pos hpos, hcloses, hdrainable, eq_sub_iff_add_eq, ← add_div, ← Nat.cast_add,
      hclasses, div_self hne]
  · rfl

/-- The profiler holds the granules of `m` in `n` slots, nested in the order of the stack. -/
structure Arenas.Mirrors (n : UInt32) (prof : Profiler) (m : Arenas) : Prop where
  array : ∃ arr counts, prof.storage = .slotArray arr ∧ arr.capacity = n ∧
    arr.Represents counts ∧ Projects Tally.count counts m.tallies ∧
    Nested arr.holds (probePath arr.capacity) m.stack
  bounded : ∀ g, ∀ t ∈ m.tallies.lookup g, t.Bounded
  counted : m.CountedBy prof.counters

namespace SlotArray.Represents

variable {arr : SlotArray} {counts : LiveMap}

/-- A stack in the order of which the table is nested has the granules of the map. -/
theorem mem_stack_iff (h : arr.Represents counts) {stack : List GranuleId}
    (hnested : Nested arr.holds (probePath arr.capacity) stack) {g : GranuleId} :
    g ∈ stack ↔ g ∈ counts := by
  rw [hnested.mem_iff]
  constructor
  · rintro ⟨j, hj⟩
    obtain ⟨i, rfl, hkey⟩ := arr.exists_of_holds hj
    exact h.mem_of_key hkey
  · intro hmem
    obtain ⟨i, hkey, -⟩ := h.exists_of_mem hmem
    exact ⟨i, by rw [arr.holds_val, hkey]⟩

theorem length_stack (h : arr.Represents counts) {stack : List GranuleId}
    (hnested : Nested arr.holds (probePath arr.capacity) stack) :
    stack.length = arr.occupiedCount := by
  have hperm : stack.Perm counts.keys :=
    (List.perm_ext_iff_of_nodup hnested.nodup counts.keys_nodup).mpr fun g => by
      rw [h.mem_stack_iff hnested, AList.mem_keys]
  rw [hperm.length_eq, h.length_keys]

/-- The counts a sweep reads are those of the map. -/
theorem countP_sweptCounts (h : arr.Represents counts) (q : UInt32 → Bool) :
    (sweptCounts (.slotArray arr)).countP q = counts.entries.countP fun e => q e.2 := by
  rw [h.tabulates.countP_eq fun _ c => q c, sweptCounts, SlotArray.entries, List.countP_map,
    List.countP_map, List.countP_filter]
  refine List.countP_congr ?_
  intro s _
  simp only [Function.comp_apply, GranuleSlot.entry]
  cases s.occupied <;> simp

end SlotArray.Represents

namespace Arenas.Mirrors

variable {n : UInt32} {prof : Profiler} {m : Arenas} {env : Env}

theorem length_stack_le (h : m.Mirrors n prof) : m.stack.length ≤ n.toNat := by
  obtain ⟨arr, counts, -, rfl, hrep, -, hnested⟩ := h.array
  rw [hrep.length_stack hnested]
  exact arr.occupiedCount_le

/-- What the sweep loop counts is what the tallies say. -/
theorem countP_sweptCounts (h : m.Mirrors n prof) {q : UInt32 → Bool} {p : Tally → Bool}
    (hpq : ∀ t : Tally, t.Bounded → q t.count = p t) :
    (sweptCounts prof.storage).countP q = m.tallies.entries.countP fun e => p e.2 := by
  obtain ⟨arr, counts, hs, -, hrep, hproj, -⟩ := h.array
  rw [hs, hrep.countP_sweptCounts, hproj.countP_eq]
  refine List.countP_congr ?_
  rintro ⟨g, t⟩ he
  rw [hpq t (h.bounded g t (AList.mem_lookup_iff.mpr he))]

theorem countP_sweptCounts_lt (h : m.Mirrors n prof) (q : UInt32 → Bool) :
    (sweptCounts prof.storage).countP q < 2 ^ 64 := by
  obtain ⟨arr, counts, hs, rfl, -⟩ := h.array
  rw [hs]
  have hlen : (sweptCounts (.slotArray arr)).length ≤ arr.slots.length := by
    rw [sweptCounts, List.length_map]
    exact List.length_filter_le ..
  have hcount : (sweptCounts (.slotArray arr)).countP q ≤ _ := List.countP_le_length
  have hslots := arr.length_slots
  have hcap := arr.capacity.toNat_lt
  omega

/-- `snapshot` and `sweep` show what the specification says. -/
theorem observe_eq (h : m.Mirrors n prof) (env : Env) (r : Result) :
    prof.observe env r = m.observe r.code := by
  have hopen : (UInt64.ofNat m.stack.length).toNat = m.stack.length := by
    have hle := h.length_stack_le
    have hlt := n.toNat_lt
    exact UInt64.toNat_ofNat_of_lt' (show m.stack.length < 2 ^ 64 by omega)
  have hswept : ∀ (q : UInt32 → Bool) (p : Tally → Bool), (∀ t : Tally, t.Bounded → q t.count = p t) →
      (UInt64.ofNat ((sweptCounts prof.storage).countP q)).toNat
        = m.tallies.entries.countP fun e => p e.2 := by
    intro q p hpq
    rw [← h.countP_sweptCounts hpq]
    exact UInt64.toNat_ofNat_of_lt' (h.countP_sweptCounts_lt q)
  rw [Profiler.observe, Arenas.observe, snapshot, sweep, sweepLoop_eq]
  dsimp only
  rw [h.counted.dsr_eq]
  simp only [h.counted.totalCloses, h.counted.drainableCloses, h.counted.pinnedCloses,
    h.counted.openGranules, hopen, Observation.mk.injEq, true_and]
  refine ⟨hswept (· = 0) (fun t => t.deregistered = t.registered) ?_,
    hswept (· ≠ 0) (fun t => t.deregistered ≠ t.registered) ?_⟩
  · intro t ht
    exact decide_eq_decide.mpr ht.count_eq_zero_iff
  · intro t ht
    exact decide_eq_decide.mpr (not_congr ht.count_eq_zero_iff)

/-! ### One call -/

theorem call_open (h : m.Mirrors n prof) (hcap : n.toNat ≤ 2 ^ 31) {g : GranuleId}
    (hnew : g ∉ m.tallies) (hroom : m.stack.length < n.toNat) (env : Env) :
    ∃ prof', granuleOpen env prof g = .ok (0, prof') ∧
      (m.apply (.granuleOpen g)).2.Mirrors n prof' := by
  obtain ⟨arr, counts, hs, rfl, hrep, hproj, hnested⟩ := h.array
  rcases granuleOpen_production_cases hs env g with ⟨i, hstop, -⟩ | ⟨i, hstop, hcall⟩ |
    ⟨hstop, -⟩
  · -- the granule would be open already
    have hmem := hrep.mem_of_key (key_of_findSlot (findSlot_eq_some_iff.mpr hstop))
    exact absurd (hproj.mem_iff.mp hmem) hnew
  · refine ⟨_, hcall, ⟨_, counts.insert g 0, rfl, rfl, hrep.claim hstop,
      hproj.insert g ⟨0, 0⟩, ?_⟩, ?_, ?_⟩
    · rw [arr.holds_setSlot]
      exact hnested.push hstop
    · exact forall_lookup_insert h.bounded ⟨le_rfl, Nat.zero_lt_succ _⟩
    · exact ⟨h.counted.totalCloses, h.counted.drainableCloses, h.counted.pinnedCloses,
        add_one_eq_ofNat h.counted.openGranules, h.counted.classes⟩
  · -- the probes would be exhausted only in a full table
    have hfull := SlotArray.occupiedCount_of_full hcap hstop
    rw [hrep.length_stack hnested, hfull] at hroom
    exact absurd hroom (lt_irrefl _)

theorem call_close (h : m.Mirrors n prof) {g : GranuleId} (hnewest : m.stack.head? = some g)
    (env : Env) :
    ∃ r prof' events, granuleClose env prof g = .ok (r, prof', events) ∧
      some r = (m.apply (.granuleClose g)).1 ∧ (m.apply (.granuleClose g)).2.Mirrors n prof' := by
  obtain ⟨arr, counts, hs, rfl, hrep, hproj, hnested⟩ := h.array
  obtain ⟨rest, hstack⟩ : ∃ rest, m.stack = g :: rest := by
    obtain ⟨rest, hrest⟩ := List.head?_eq_some_iff.mp hnewest
    exact ⟨rest, hrest⟩
  rw [hstack] at hnested
  have hmem : g ∈ counts := (hrep.mem_stack_iff hnested).mp List.mem_cons_self
  rcases hrep.find_cases hproj g with ⟨hnone, -⟩ | ⟨t, i, hlookup, hfind, hcount⟩
  · exact absurd (hproj.mem_iff.mp hmem) (AList.lookup_eq_none.mp hnone)
  · have hbounded := h.bounded g t hlookup
    have hkey := key_of_findSlot hfind
    have hmax : (arr.slot i).liveCount ≠ uint32Max := by
      rw [hcount]
      exact hbounded.count_ne_max
    have hzero : (arr.slot i).liveCount = 0 ↔ t.deregistered = t.registered := by
      rw [hcount]
      exact hbounded.count_eq_zero_iff
    have hholds : arr.holds i.val = some g := by rw [arr.holds_val, hkey]
    -- the newest granule is on nobody else's probe path, so its slot can be freed
    have hclear : arr.Clear i := by
      intro j hj k hk
      refine hnested.newest_clear hholds j.val k (fun e => hj (Fin.ext e)) ?_
      rw [arr.holds_val]
      exact hk
    have hpop : Nested (arr.setSlot i GranuleSlot.free).holds (probePath arr.capacity) rest := by
      rw [arr.holds_setSlot]
      exact hnested.pop hholds
    have htail : m.stack.tail = rest := by rw [hstack]; rfl
    have hopen : prof.counters.openGranules - 1 = UInt64.ofNat rest.length := by
      rw [h.counted.openGranules, hstack, List.length_cons, UInt64.ofNat_add]
      exact UInt64.add_sub_cancel _ _
    have hbound := forall_lookup_erase h.bounded g
    refine ⟨_, _, _, granuleClose_production_of_find hs hfind hmax, ?_⟩
    rw [apply, hlookup]
    by_cases hdrained : t.deregistered = t.registered
    · simp only [hzero.mpr hdrained, if_pos hdrained, if_true, decide_true]
      refine ⟨trivial, ⟨_, _, rfl, rfl, hrep.release hkey hclear, hproj.erase g, ?_⟩, hbound, ?_⟩
      · rw [htail]
        exact hpop
      · refine ⟨?_, ?_, h.counted.pinnedCloses, by rw [htail]; exact hopen, ?_⟩
        · exact add_one_eq_ofNat h.counted.totalCloses
        · exact add_one_eq_ofNat h.counted.drainableCloses
        · rw [Nat.add_right_comm, h.counted.classes]
    · have hpinned : (arr.slot i).liveCount ≠ 0 := fun h0 => hdrained (hzero.mp h0)
      simp only [hpinned, if_neg hdrained, if_false, decide_false]
      refine ⟨trivial, ⟨_, _, rfl, rfl, hrep.release hkey hclear, hproj.erase g, ?_⟩, hbound, ?_⟩
      · rw [htail]
        exact hpop
      · refine ⟨?_, h.counted.drainableCloses, ?_, by rw [htail]; exact hopen, ?_⟩
        · exact add_one_eq_ofNat h.counted.totalCloses
        · exact add_one_eq_ofNat h.counted.pinnedCloses
        · rw [← Nat.add_assoc, h.counted.classes]

/-- A new live count in the granule's slot is a new tally. -/
theorem recount (h : m.Mirrors n prof) {g : GranuleId} {t t' : Tally}
    (hlookup : m.tallies.lookup g = some t) (hbounded : t'.Bounded) {arr : SlotArray}
    {i : Fin arr.capacity.toNat} (hs : prof.storage = .slotArray arr)
    (hfind : findSlot arr g = some i) {prof' : Profiler}
    (hs' : prof'.storage = (prof.recountSlot arr i t'.count).storage)
    (hcounted : m.CountedBy prof'.counters) (f : Tally → Tally) (hf : f t = t') :
    (m.book g f).1 = some 0 ∧ (m.book g f).2.Mirrors n prof' := by
  obtain ⟨arr', counts, hs₁, rfl, hrep, hproj, hnested⟩ := h.array
  rw [hs] at hs₁
  cases hs₁
  have hkey := key_of_findSlot hfind
  subst hf
  rw [book, hlookup]
  refine ⟨rfl, ⟨_, counts.insert g (f t).count, hs', rfl, hrep.recount hkey _, hproj.insert g (f t), ?_⟩,
    forall_lookup_insert h.bounded hbounded, hcounted.totalCloses, hcounted.drainableCloses,
    hcounted.pinnedCloses, hcounted.openGranules, hcounted.classes⟩
  have hsame : ({ arr.slot i with liveCount := (f t).count } : GranuleSlot).key = some g := hkey
  rw [arr.holds_setSlot, hsame, Function.update_eq_self_iff.mpr (by rw [arr.holds_val, hkey])]
  exact hnested

theorem call_register (h : m.Mirrors n prof) {g : GranuleId}
    (hroom : ∃ t ∈ m.tallies.lookup g, t.registered + 1 < t.deregistered + (2 ^ 32 - 1))
    (env : Env) (a : AllocId) (size : UInt64) (file : FilePtr) (line : UInt32) :
    ∃ prof', allocRegisterLocated env prof g a size file line = .ok (0, prof') ∧
      (m.book g fun t => { t with registered := t.registered + 1 }).1 = some 0 ∧
      (m.book g fun t => { t with registered := t.registered + 1 }).2.Mirrors n prof' := by
  obtain ⟨t, hlookup, hroom⟩ := hroom
  rw [Option.mem_def] at hlookup
  obtain ⟨arr, counts, hs, -, hrep, hproj, -⟩ := h.array
  rcases hrep.find_cases hproj g with ⟨hnone, -⟩ | ⟨t', i, hlookup', hfind, hcount⟩
  · rw [hlookup] at hnone
    cases hnone
  · rw [hlookup] at hlookup'
    cases hlookup'
    have hle := (h.bounded g t hlookup).1
    have hsucc : (arr.slot i).liveCount + 1
        = Tally.count { t with registered := t.registered + 1 } := by
      rw [hcount, Tally.count, Tally.count,
        show t.registered + 1 - t.deregistered = t.registered - t.deregistered + 1 by omega,
        UInt32.ofNat_add]
      rfl
    refine ⟨_, allocRegisterLocated_production_of_find hs hfind,
      h.recount hlookup ⟨Nat.le_succ_of_le hle, hroom⟩ hs hfind ?_ ?_ _ rfl⟩
    · rw [hsucc]
    · exact ⟨h.counted.totalCloses, h.counted.drainableCloses, h.counted.pinnedCloses,
        h.counted.openGranules, h.counted.classes⟩

theorem call_deregister (h : m.Mirrors n prof) {g : GranuleId}
    (hlive : ∃ t ∈ m.tallies.lookup g, t.deregistered < t.registered) (env : Env) (a : AllocId) :
    ∃ prof', allocDeregister env prof g a = .ok (0, prof') ∧
      (m.book g fun t => { t with deregistered := t.deregistered + 1 }).1 = some 0 ∧
      (m.book g fun t => { t with deregistered := t.deregistered + 1 }).2.Mirrors n prof' := by
  obtain ⟨t, hlookup, hlive⟩ := hlive
  rw [Option.mem_def] at hlookup
  obtain ⟨arr, counts, hs, -, hrep, hproj, -⟩ := h.array
  rcases hrep.find_cases hproj g with ⟨hnone, -⟩ | ⟨t', i, hlookup', hfind, hcount⟩
  · rw [hlookup] at hnone
    cases hnone
  · rw [hlookup] at hlookup'
    cases hlookup'
    have hlt := (h.bounded g t hlookup).2
    have hpred : (arr.slot i).liveCount - 1
        = Tally.count { t with deregistered := t.deregistered + 1 } := by
      rw [hcount, Tally.count, Tally.count,
        show t.registered - t.deregistered = t.registered - (t.deregistered + 1) + 1 by omega,
        UInt32.ofNat_add]
      exact UInt32.add_sub_cancel _ _
    have hbounded : Tally.Bounded { t with deregistered := t.deregistered + 1 } := by
      refine ⟨hlive, ?_⟩
      show t.registered < t.deregistered + 1 + (2 ^ 32 - 1)
      omega
    refine ⟨_, allocDeregister_production_of_find hs hfind,
      h.recount hlookup hbounded hs hfind ?_ ?_ _ rfl⟩
    · rw [hpred]
    · exact ⟨h.counted.totalCloses, h.counted.drainableCloses, h.counted.pinnedCloses,
        h.counted.openGranules, h.counted.classes⟩

/-- A call of a nested run returns what the specification returns. -/
theorem call (h : m.Mirrors n prof) (hcap : n.toNat ≤ 2 ^ 31) {c : Call}
    (hallows : m.Allows n.toNat c) (env : Env) :
    ∃ o prof', prof.call (env, c) = .ok (o, prof') ∧ o.result.code = (m.apply c).1 ∧
      (m.apply c).2.Mirrors n prof' := by
  obtain ⟨arr, -, hs, -⟩ := h.array
  cases c with
  | granuleOpen g =>
    obtain ⟨prof', hcall, hmirrors⟩ := h.call_open hcap hallows.1 hallows.2 env
    exact ⟨_, prof', call_granuleOpen hcall, rfl, hmirrors⟩
  | granuleClose g =>
    obtain ⟨r, prof', events, hcall, hr, hmirrors⟩ := h.call_close hallows env
    exact ⟨_, prof', call_granuleClose hcall, hr, hmirrors⟩
  | allocRegister g a size =>
    obtain ⟨prof', hcall, hr, hmirrors⟩ := h.call_register hallows env a size 0 0
    exact ⟨_, prof', call_allocRegister hcall, hr.symm, hmirrors⟩
  | allocRegisterLocated g a size file line =>
    obtain ⟨prof', hcall, hr, hmirrors⟩ := h.call_register hallows env a size file line
    exact ⟨_, prof', call_allocRegisterLocated hcall, hr.symm, hmirrors⟩
  | allocDeregister g a =>
    obtain ⟨prof', hcall, hr, hmirrors⟩ := h.call_deregister hallows env a
    exact ⟨_, prof', call_allocDeregister hcall, hr.symm, hmirrors⟩
  | snapshot => exact ⟨_, prof, rfl, rfl, h⟩
  | sweep => exact ⟨_, prof, rfl, rfl, h⟩
  | reset => exact absurd hallows id
  | drainReports k =>
    refine ⟨⟨.reports 0 [], []⟩, prof, ?_, rfl, h⟩
    rw [Profiler.call, drainReports, hs]
    rfl
  | diagnosticSummaryCompute =>
    refine ⟨⟨.summary none, []⟩, prof, ?_, rfl, h⟩
    rw [Profiler.call, diagnosticSummaryCompute, hs]
    rfl

end Arenas.Mirrors

/-! ### Runs -/

theorem mirrors_of_created {env : Env} {config : Config} {prof : Profiler}
    (h : createWithConfig env config = some prof) (hmode : config.mode = .production) :
    Arenas.empty.Mirrors config.slotCapacity prof := by
  obtain ⟨-, hcounters, -, arr, hs, harr⟩ := createWithConfig_production h hmode
  obtain ⟨hrep, hcap⟩ := slotArrayCreate_represents harr
  refine ⟨⟨arr, ∅, hs, hcap, hrep, projects_empty, nested_of_free ?_⟩, nofun, ?_⟩
  · intro j
    cases hj : arr.holds j with
    | none => rfl
    | some g =>
      obtain ⟨i, -, hkey⟩ := arr.exists_of_holds hj
      exact absurd (hrep.mem_of_key hkey) (AList.notMem_empty g)
  · rw [hcounters]
    exact ⟨rfl, rfl, rfl, rfl, rfl⟩

/-- **Production mode is exact on nested granules.**  In every run with at most `2 ^ 31` slots in
which each `close` names the granule opened last, every call succeeds and returns what the tallies
say, and so do `snapshot` and `sweep` after it. -/
theorem nested_exact {env : Env} {config : Config} {prof : Profiler}
    (hcreate : createWithConfig env config = some prof) (hmode : config.mode = .production)
    (hcap : config.slotCapacity.toNat ≤ 2 ^ 31) {calls : List (Env × Call)}
    (hcalls : Admits Arenas.spec (fun m i => m.Allows config.slotCapacity.toNat i.2) Arenas.empty
      calls) :
    ∃ prof', run Profiler.watchedCall prof calls
      = .ok ((trace Arenas.spec Arenas.empty calls).1, prof') := by
  have hstep : ∀ {p : Profiler} {m : Arenas} {i : Env × Call}, m.Mirrors config.slotCapacity p →
      m.Allows config.slotCapacity.toNat i.2 → True →
      ∃ p', p.watchedCall i = .ok ((m.spec i).1, p') ∧
        (m.spec i).2.Mirrors config.slotCapacity p' := by
    rintro p m ⟨env', c⟩ h hallows -
    obtain ⟨o, p', hcall, hcode, h'⟩ := h.call hcap hallows env'
    refine ⟨p', ?_, h'⟩
    rw [watchedCall_of_call hcall, h'.observe_eq, hcode]
    rfl
  obtain ⟨prof', hrun, -⟩ := @run_eq_trace _ _ _ _ _ Profiler.watchedCall Arenas.spec
    (fun prof m => m.Mirrors config.slotCapacity prof) (fun _ _ => True)
    (fun m i => m.Allows config.slotCapacity.toNat i.2) hstep calls prof Arenas.empty
    (mirrors_of_created hcreate hmode) hcalls (meets_of_forall fun _ _ => trivial)
  exact ⟨prof', hrun⟩

/-- A granule opened inside another one with the same hash. -/
def nestedArenas : List (Env × Call) :=
  [.granuleOpen 0, .allocRegister 0 7 64, .granuleOpen 1, .allocRegister 1 8 64,
    .allocDeregister 1 8, .granuleClose 1, .granuleClose 0].map fun c => (Env.ample default, c)

theorem nested_exact_colliding :
    ∃ prof prof', createWithConfig (Env.ample default) (smallConfig .production 2) = some prof ∧
      run Profiler.watchedCall prof nestedArenas
        = .ok ((trace Arenas.spec Arenas.empty nestedArenas).1, prof') := by
  have hcreate : createWithConfig (Env.ample default) (smallConfig .production 2) = some _ := rfl
  have hcalls : Admits Arenas.spec
      (fun m i => m.Allows (smallConfig .production 2).slotCapacity.toNat i.2) Arenas.empty
      nestedArenas := by
    refine ⟨?_, ?_, ?_, ?_, ?_, ?_, ?_, trivial⟩ <;> decide
  obtain ⟨prof', hrun⟩ := nested_exact hcreate rfl (by decide) hcalls
  exact ⟨_, prof', hcreate, hrun⟩

end Drainprof
