import Mathlib.Data.List.Iterate
import Drainprof.Equiv.Summary
import Drainprof.Library.Run

/-!
# Reading the ring in place and draining it

A drain moves `tail` one slot on for each report, reducing it each time (`drainSlots`), while the
summary and the destruction add an offset to `tail` before they reduce it (`readSlots`).  In every
state that pushes and drains lead to the two go through the same slots in the same order exactly
when no such sum wraps (`ring_order_iff`), which a capacity of at most `2 ^ 31` makes sure of.
-/

namespace Drainprof

open Ring Transition

namespace ReportBuffer

/-- The slots read in place, in order. -/
def readSlots (buf : ReportBuffer) : List UInt32 :=
  (List.range buf.count.toNat).map fun i => (buf.tail + UInt32.ofNat i) % buf.capacity

/-- The slots a drain of all reports empties, in order. -/
def drainSlots (buf : ReportBuffer) : List UInt32 :=
  List.iterate (fun tail => (tail + 1) % buf.capacity) buf.tail buf.count.toNat

/-- The slots read in place are those a drain empties, none of them twice, and both the destruction
and the summary go through the reports the drain hands over. -/
structure ReadsAsDrained (buf : ReportBuffer) : Prop where
  slots : buf.readSlots = buf.drainSlots
  nodup : buf.readSlots.Nodup
  reports : ∃ rs buf',
    reportBufferDrain buf uint32Max = .ok ((buf.count, rs.map some), buf') ∧
    buf.drainSlots.map (load buf.reports) = rs.map (fun r => .ok (some r)) ∧
    reportBufferDestroy buf = .ok rs ∧
    ∀ env, diagnosticSummaryOfBuffer env buf = summaryOfReports env rs

/-! ### The slots -/

variable {buf : ReportBuffer} {rs : List PinningReport}

theorem toNat_injective : Function.Injective UInt32.toNat := fun _ _ => UInt32.toNat_inj.mp

theorem getElem?_drainSlots {i : ℕ} (hi : i < buf.count.toNat) :
    buf.drainSlots[i]? = some ((fun tail => (tail + 1) % buf.capacity)^[i] buf.tail) :=
  List.getElem?_iterate _ _ _ _ hi

/-- The slot a drain comes to after `i` reports. -/
theorem toNat_iterate_next {capacity tail : UInt32} (htail : tail.toNat < capacity.toNat) (i : ℕ) :
    ((fun tail => (tail + 1) % capacity)^[i] tail).toNat = (tail.toNat + i) % capacity.toNat := by
  induction i generalizing tail with
  | zero => exact (Nat.mod_eq_of_lt htail).symm
  | succ i ih =>
    have hnext := toNat_succ_mod htail
    have hbound : ((tail + 1) % capacity).toNat < capacity.toNat := by
      rw [hnext]
      exact Nat.mod_lt _ (by omega)
    rw [Function.iterate_succ_apply, ih hbound, hnext, Rotation.succ_mod_add_mod]

namespace Holds

/-- The slots read in place, on the naturals. -/
theorem toNat_readSlots (h : buf.Holds rs) : buf.readSlots.map UInt32.toNat
    = (List.range rs.length).map fun i => (buf.tail.toNat + i) % 2 ^ 32 % buf.capacity.toNat := by
  have hle := h.count_le
  have hcap := buf.capacity.toNat_lt
  rw [readSlots, List.map_map, h.count_eq]
  refine List.map_congr_left ?_
  intro i hi
  have hi' := List.mem_range.mp hi
  exact toNat_add_ofNat_mod buf.tail buf.capacity (by omega)

/-- The slots a drain empties, on the naturals. -/
theorem toNat_drainSlots (h : buf.Holds rs) (hpos : 0 < buf.capacity.toNat) :
    buf.drainSlots.map UInt32.toNat
      = (List.range rs.length).map fun i => (buf.tail.toNat + i) % buf.capacity.toNat := by
  rw [drainSlots, ← List.range_map_iterate, List.map_map, h.count_eq]
  refine List.map_congr_left ?_
  intro i _
  exact toNat_iterate_next (h.tail_lt hpos) i

/-- No slot is read twice exactly when no sum wraps. -/
theorem nodup_readSlots_iff (h : buf.Holds rs) (hpos : 0 < buf.capacity.toNat) :
    buf.readSlots.Nodup ↔ buf.tail.toNat + buf.count.toNat ≤ 2 ^ 32 := by
  rw [← List.nodup_map_iff toNat_injective, h.toNat_readSlots, h.count_eq]
  exact Rotation.nodup_map_iff (h.tail_lt hpos) buf.capacity.toNat_lt h.count_le

/-- A drain empties no slot twice. -/
theorem nodup_drainSlots (h : buf.Holds rs) (hpos : 0 < buf.capacity.toNat) :
    buf.drainSlots.Nodup := by
  have hle := h.count_le
  apply List.Nodup.of_map UInt32.toNat
  rw [h.toNat_drainSlots hpos]
  refine List.nodup_range.map_on ?_
  intro i hi j hj heq
  have hi' := List.mem_range.mp hi
  have hj' := List.mem_range.mp hj
  exact Rotation.add_mod_inj (by omega) (by omega) heq

/-- The two lists of slots are one exactly when no sum wraps. -/
theorem slots_iff (h : buf.Holds rs) (hpos : 0 < buf.capacity.toNat) :
    buf.readSlots = buf.drainSlots ↔ buf.tail.toNat + buf.count.toNat ≤ 2 ^ 32 := by
  constructor
  · intro hsame
    rw [← h.nodup_readSlots_iff hpos, hsame]
    exact h.nodup_drainSlots hpos
  · intro hfit
    rw [h.count_eq] at hfit
    apply List.map_injective_iff.mpr toNat_injective
    rw [h.toNat_readSlots, h.toNat_drainSlots hpos]
    refine List.map_congr_left ?_
    intro i hi
    have hi' := List.mem_range.mp hi
    exact Rotation.add_mod_mod_of_lt (by omega)

/-- A drain hands over the reports in the slots it empties. -/
theorem map_load_drainSlots (h : buf.Holds rs) (hpos : 0 < buf.capacity.toNat) :
    buf.drainSlots.map (load buf.reports) = rs.map fun r => .ok (some r) := by
  apply List.ext_getElem?
  intro i
  rcases Nat.lt_or_ge i rs.length with hlt | hge
  · rw [List.getElem?_map, getElem?_drainSlots (by rw [h.count_eq]; exact hlt), Option.map_some,
      h.load_at hlt (toNat_iterate_next (h.tail_lt hpos) i), List.getElem?_map,
      List.getElem?_eq_getElem hlt, Option.map_some]
  · have hlength : buf.drainSlots.length = rs.length := by
      rw [drainSlots, List.length_iterate, h.count_eq]
    rw [List.getElem?_eq_none (by rw [List.length_map]; omega),
      List.getElem?_eq_none (by rw [List.length_map]; omega)]

/-- A buffer is read as it is drained exactly when no sum wraps. -/
theorem readsAsDrained_iff (h : buf.Holds rs) (hpos : 0 < buf.capacity.toNat) :
    buf.ReadsAsDrained ↔ buf.tail.toNat + buf.count.toNat ≤ 2 ^ 32 := by
  constructor
  · intro hreads
    exact (h.slots_iff hpos).mp hreads.slots
  · intro hfit
    have hfit' : buf.tail.toNat + rs.length ≤ 2 ^ 32 := by
      rw [← h.count_eq]
      exact hfit
    have hread := readInPlace_eq_self (n := buf.capacity.toNat) hfit'
    refine ⟨(h.slots_iff hpos).mpr hfit, (h.nodup_readSlots_iff hpos).mpr hfit, rs, ?_⟩
    have hall : rs.length ≤ uint32Max.toNat := by
      rw [← h.count_eq]
      exact Nat.le_of_lt_succ buf.count.toNat_lt
    obtain ⟨count, buf', hdrain, hcount, -⟩ := reportBufferDrain_eq h uint32Max
    have hcount' : count = buf.count := by
      apply UInt32.toNat_inj.mp
      rw [hcount, min_eq_left hall, h.count_eq]
    rw [hcount', List.take_of_length_le hall] at hdrain
    refine ⟨buf', hdrain, h.map_load_drainSlots hpos, ?_, ?_⟩
    · rw [reportBufferDestroy_eq h, hread]
    · intro env
      rw [diagnosticSummaryOfBuffer_eq h, hread]

end Holds

/-! ### The reachable states -/

/-- A call keeps a buffer in order. -/
theorem Holds.step {buf' : ReportBuffer} {op : BufferOp} {r : BufferRet} (h : buf.Holds rs)
    (hpos : 0 < buf.capacity.toNat) (hstep : buf.step op = .ok (r, buf')) :
    (∃ rs', buf'.Holds rs') ∧ buf'.capacity = buf.capacity := by
  cases op with
  | push report =>
    obtain ⟨buf₁, hpush, hholds, hcap, -⟩ := reportBufferPush_eq h hpos report
    rw [ReportBuffer.step, hpush] at hstep
    cases hstep
    exact ⟨⟨_, hholds⟩, hcap⟩
  | drain maxReports =>
    obtain ⟨count, buf₁, hdrain, -, hholds, hcap, -⟩ := reportBufferDrain_eq h maxReports
    rw [ReportBuffer.step, hdrain] at hstep
    cases hstep
    exact ⟨⟨_, hholds⟩, hcap⟩

theorem holds_of_run {env : Env} {capacity : UInt32} {buf₀ : ReportBuffer} {ops : List BufferOp}
    {os : List BufferRet} (hcreate : reportBufferCreate env capacity = some buf₀)
    (hpos : 0 < capacity.toNat) (hrun : run ReportBuffer.step buf₀ ops = .ok (os, buf)) :
    (∃ rs, buf.Holds rs) ∧ buf.capacity = capacity := by
  obtain ⟨hholds, hcap⟩ := reportBufferCreate_holds hcreate
  refine @run_invariant _ _ _ _ ReportBuffer.step
    (fun buf => (∃ rs, buf.Holds rs) ∧ buf.capacity = capacity) (fun _ => True) ?_ _ _ _ _
    ⟨⟨[], hholds⟩, hcap⟩ (fun _ _ => trivial) hrun
  rintro s op o s' ⟨⟨rs, hrs⟩, hscap⟩ - hstep
  obtain ⟨hnext, hcap'⟩ := hrs.step (by rw [hscap]; exact hpos) hstep
  exact ⟨hnext, hcap'.trans hscap⟩

end ReportBuffer

/-- **Reading in place agrees with draining**, in every state that pushes and drains lead to, exactly
when the index of the last report does not wrap before it is reduced. -/
theorem ring_order_iff {env : Env} {capacity : UInt32} {buf₀ buf : ReportBuffer}
    {ops : List BufferOp} {os : List BufferRet}
    (hcreate : reportBufferCreate env capacity = some buf₀) (hpos : 0 < capacity.toNat)
    (hrun : run ReportBuffer.step buf₀ ops = .ok (os, buf)) :
    buf.ReadsAsDrained ↔ buf.tail.toNat + buf.count.toNat ≤ 2 ^ 32 := by
  obtain ⟨⟨rs, hrs⟩, hcap⟩ := ReportBuffer.holds_of_run hcreate hpos hrun
  rw [← hcap] at hpos
  exact hrs.readsAsDrained_iff hpos

/-- A buffer that was empty and started at slot `0`, after `n` pushes: they first fill it, and then
move its start on. -/
structure ReportBuffer.Pushed (buf : ReportBuffer) (capacity n : ℕ) : Prop where
  capacity_eq : buf.capacity.toNat = capacity
  holds : ∃ rs, buf.Holds rs ∧ rs.length = min n capacity
  tail_eq : buf.tail.toNat = (n - capacity) % capacity

theorem ReportBuffer.Pushed.push {buf : ReportBuffer} {capacity n : ℕ} (h : buf.Pushed capacity n)
    (hpos : 0 < capacity) (report : PinningReport) :
    ∃ freed buf', buf.step (.push report) = .ok (.freed freed, buf') ∧
      buf'.Pushed capacity (n + 1) := by
  obtain ⟨rfl, ⟨rs, hrs, hlength⟩, htail⟩ := h
  obtain ⟨buf', hpush, hholds, hcap, htail'⟩ := reportBufferPush_eq hrs hpos report
  obtain ⟨hkept, hfreed⟩ := length_enqueue hpos hrs.count_le report
  refine ⟨_, buf', by rw [ReportBuffer.step, hpush]; rfl, by rw [hcap], ⟨_, hholds, ?_⟩, ?_⟩
  · omega
  · rw [htail', htail, hfreed, Nat.mod_add_mod]
    congr 1
    omega

/-- A buffer of `2 ^ 31 + 1` slots into which `2 ^ 32 + 1` reports are pushed is full, and its last
sums wrap. -/
theorem ring_order_fails :
    ¬∀ (env : Env) (capacity : UInt32) (buf₀ buf : ReportBuffer) (ops : List BufferOp)
      (os : List BufferRet), reportBufferCreate env capacity = some buf₀ → 0 < capacity.toNat →
      run ReportBuffer.step buf₀ ops = .ok (os, buf) → buf.ReadsAsDrained := by
  intro h
  have hcreate : ∀ capacity, ∃ buf, reportBufferCreate (Env.ample default) capacity = some buf ∧
      buf.Pushed capacity.toNat 0 := by
    intro capacity
    obtain ⟨buf, hbuf⟩ : ∃ buf, reportBufferCreate (Env.ample default) capacity = some buf := ⟨_, rfl⟩
    obtain ⟨hholds, hcap⟩ := reportBufferCreate_holds hbuf
    refine ⟨buf, hbuf, by rw [hcap], ⟨[], hholds, (Nat.zero_min _).symm⟩, ?_⟩
    cases hbuf
    rw [Nat.zero_sub, Nat.zero_mod]
    rfl
  obtain ⟨buf₀, hbuf₀, hpushed⟩ := hcreate 0x80000001
  obtain ⟨os, buf, hrun, hbuf⟩ := @exists_run_replicate _ _ _ _ ReportBuffer.step
    (fun k buf => buf.Pushed (0x80000001 : UInt32).toNat k) [.push default] (2 ^ 32 + 1)
    (by
      intro k _ s hs
      obtain ⟨freed, s', hstep, hs'⟩ := hs.push (by decide) default
      exact ⟨_, s', run_singleton_eq_ok.mpr ⟨_, hstep, rfl⟩, hs'⟩) buf₀ hpushed
  obtain ⟨hcap, ⟨rs, hrs, hlength⟩, htail⟩ := hbuf
  have hreads := h _ _ buf₀ buf _ os hbuf₀ (by decide) hrun
  have hfit := (hrs.slots_iff (by rw [hcap]; decide)).mp hreads.slots
  rw [hrs.count_eq, hlength, htail] at hfit
  exact absurd hfit (by decide)

/-- The third of the reports pushed into two slots takes the place of the first. -/
theorem ring_order_turned :
    ∃ buf₀ os buf, reportBufferCreate (Env.ample default) 2 = some buf₀ ∧
      run ReportBuffer.step buf₀ [.push default, .push default, .push default, .drain 1,
        .push default] = .ok (os, buf) ∧ buf.ReadsAsDrained := by
  have hcreate : reportBufferCreate (Env.ample default) 2 = some _ := rfl
  obtain ⟨⟨os, buf⟩, hrun, hfit⟩ := exists_of_okAnd (show okAnd
    (run ReportBuffer.step ((reportBufferCreate (Env.ample default) 2).get rfl)
      [.push default, .push default, .push default, .drain 1, .push default])
    (fun r => r.2.tail.toNat + r.2.count.toNat ≤ 2 ^ 32) = true by decide)
  exact ⟨_, os, buf, hcreate, hrun,
    (ring_order_iff hcreate (by decide) hrun).mpr (of_decide_eq_true hfit)⟩

end Drainprof
