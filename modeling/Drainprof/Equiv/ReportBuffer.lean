import Drainprof.ReportBuffer
import Drainprof.Library.Ring

/-!
# The report buffer is a bounded queue

`ReportBuffer.Holds buf rs` says that the buffer holds the reports `rs`, oldest first: the ring of
`capacity` slots is in order, and the reports are those from `tail` on.  A push into a full buffer
drops the first report and appends the new one (`reportBufferPush_eq`), and a drain takes reports
from the front (`reportBufferDrain_eq`).
-/

namespace Drainprof

open Ring

/-- The buffer holds the reports `rs`, oldest first. -/
structure ReportBuffer.Holds (buf : ReportBuffer) (rs : List PinningReport) : Prop where
  length_reports : buf.reports.length = buf.capacity.toNat
  count_eq : buf.count.toNat = rs.length
  count_le : rs.length ≤ buf.capacity.toNat
  tail_lt : 0 < buf.capacity.toNat → buf.tail.toNat < buf.capacity.toNat
  head_eq : buf.head.toNat = (buf.tail.toNat + rs.length) % buf.capacity.toNat
  contents_eq : contents buf.reports buf.tail.toNat rs.length = rs.map some

namespace ReportBuffer.Holds

variable {buf : ReportBuffer} {rs : List PinningReport}

theorem head_lt (h : buf.Holds rs) (hpos : 0 < buf.capacity.toNat) :
    buf.head.toNat < buf.capacity.toNat := by
  rw [h.head_eq]
  exact Nat.mod_lt _ hpos

theorem tail_mod (h : buf.Holds rs) : buf.tail.toNat % buf.capacity.toNat = buf.tail.toNat := by
  rcases Nat.eq_zero_or_pos buf.capacity.toNat with hzero | hpos
  · rw [hzero, Nat.mod_zero]
  · exact Nat.mod_eq_of_lt (h.tail_lt hpos)

/-- The count is the capacity exactly when the queue is as long. -/
theorem full_iff (h : buf.Holds rs) :
    buf.count = buf.capacity ↔ rs.length = buf.capacity.toNat := by
  rw [← h.count_eq]
  exact UInt32.toNat_inj.symm

/-- The report `i` slots behind `tail` is the one of rank `i`. -/
theorem load_at (h : buf.Holds rs) {i : ℕ} (hi : i < rs.length) {idx : UInt32}
    (hidx : idx.toNat = (buf.tail.toNat + i) % buf.capacity.toNat) :
    load buf.reports idx = .ok (some rs[i]) := by
  have hlen := h.length_reports
  have hget := @getElem?_contents _ buf.reports buf.tail.toNat rs.length i hi
    (by rw [hlen]; exact h.count_le)
  rw [h.contents_eq, List.getElem?_map, List.getElem?_eq_getElem hi, hlen, Nat.add_comm i, ← hidx]
    at hget
  rw [load, ← hget]
  rfl

end ReportBuffer.Holds

/-- The next index of the ring, in 32-bit arithmetic. -/
theorem umod_succ {i capacity : UInt32} (h : i.toNat < capacity.toNat) :
    ∃ j, umod (i + 1) capacity = .ok j ∧ j.toNat = (i.toNat + 1) % capacity.toNat := by
  exact ⟨_, umod_of_ne_zero (ne_zero_of_lt_toNat h), toNat_succ_mod h⟩

theorem reportBufferCreate_holds {env : Env} {capacity : UInt32} {buf : ReportBuffer}
    (h : reportBufferCreate env capacity = some buf) :
    buf.Holds [] ∧ buf.capacity = capacity := by
  unfold reportBufferCreate at h
  split_ifs at h
  cases h
  refine ⟨⟨?_, rfl, Nat.zero_le _, id, ?_, rfl⟩, rfl⟩
  · exact List.length_replicate
  · show 0 = (0 + 0) % capacity.toNat
    rw [Nat.zero_mod]

/-! ### Pushing -/

/-- A full buffer gives up its oldest report. -/
theorem reportBufferDropOldest_eq {buf : ReportBuffer} {old : PinningReport}
    {rs : List PinningReport} (h : buf.Holds (old :: rs)) :
    ∃ buf', reportBufferDropOldest buf = .ok (some old, buf') ∧ buf'.Holds rs ∧
      buf'.capacity = buf.capacity ∧
      buf'.tail.toNat = (buf.tail.toNat + 1) % buf.capacity.toNat := by
  have hcount := h.count_eq
  have hle := h.count_le
  rw [List.length_cons] at hcount hle
  have htail := h.tail_lt (by omega)
  obtain ⟨tail, hmod, htailval⟩ := umod_succ htail
  have hlen := h.length_reports
  have htail' : buf.tail.toNat < buf.reports.length := by rw [hlen]; exact htail
  have hpop := @contents_pop _ buf.reports buf.tail.toNat rs.length htail' (by omega)
  rw [show rs.length + 1 = (old :: rs).length from rfl, h.contents_eq, List.map_cons,
    List.cons.injEq] at hpop
  refine ⟨{ buf with tail := tail, count := buf.count - 1 }, ?_, ?_, rfl, htailval⟩
  · unfold reportBufferDropOldest
    simp only [bind, Except.bind, hmod, load_of_lt htail', hpop.1]
  · refine ⟨hlen, ?_, by show _ ≤ buf.capacity.toNat; omega, fun _ => ?_, ?_, ?_⟩
    · show (buf.count - 1).toNat = rs.length
      rw [toNat_sub (by show 1 ≤ _; omega), hcount]
      rfl
    · show tail.toNat < _
      rw [htailval]
      exact Nat.mod_lt _ (by omega)
    · show buf.head.toNat = (tail.toNat + rs.length) % buf.capacity.toNat
      rw [h.head_eq, htailval, List.length_cons, Rotation.succ_mod_add_mod]
    · show contents buf.reports tail.toNat rs.length = _
      rw [htailval, ← hlen, contents_mod, hpop.2]

/-- With room left, a push appends the report. -/
theorem reportBufferPush_of_room {buf : ReportBuffer} {rs : List PinningReport}
    (h : buf.Holds rs) (hroom : rs.length < buf.capacity.toNat) (report : PinningReport) :
    ∃ reports head, store buf.reports buf.head (some report) = .ok reports ∧
      umod (buf.head + 1) buf.capacity = .ok head ∧
      { buf with reports := reports, head := head, count := buf.count + 1 : ReportBuffer }.Holds
        (rs ++ [report]) := by
  have hlen := h.length_reports
  have hhead := h.head_lt (by omega)
  obtain ⟨head, hmod, hheadval⟩ := umod_succ hhead
  refine ⟨buf.reports.set buf.head.toNat (some report), head, store_of_lt _ (by omega), hmod, ?_⟩
  have hlength : (rs ++ [report]).length = rs.length + 1 := by
    rw [List.length_append, List.length_singleton]
  refine ⟨?_, ?_, ?_, h.tail_lt, ?_, ?_⟩
  · show (buf.reports.set _ _).length = _
    rw [List.length_set, hlen]
  · show (buf.count + 1).toNat = _
    have hlt := buf.capacity.toNat_lt
    have hcount := h.count_eq
    rw [toNat_add_one (by omega), hcount, hlength]
  · rw [hlength]
    exact hroom
  · show head.toNat = _
    rw [hheadval, h.head_eq, hlength, Nat.mod_add_mod, Nat.add_assoc]
  · show contents (buf.reports.set _ _) _ _ = _
    rw [h.head_eq, hlength, ← hlen, contents_push (by omega), h.contents_eq, List.map_append]
    rfl

/-- A push is that of a bounded queue: if the buffer is full it frees the oldest report first. -/
theorem reportBufferPush_eq {buf : ReportBuffer} {rs : List PinningReport}
    (h : buf.Holds rs) (hpos : 0 < buf.capacity.toNat) (report : PinningReport) :
    ∃ buf', reportBufferPush buf report
        = .ok ((enqueue buf.capacity.toNat rs report).1, buf') ∧
      buf'.Holds (enqueue buf.capacity.toNat rs report).2 ∧ buf'.capacity = buf.capacity ∧
      buf'.tail.toNat = (buf.tail.toNat + (enqueue buf.capacity.toNat rs report).1.toList.length)
        % buf.capacity.toNat := by
  unfold reportBufferPush
  rcases Nat.lt_or_eq_of_le h.count_le with hroom | hfull
  · obtain ⟨reports, head, hstore, hmod, hholds⟩ := reportBufferPush_of_room h hroom report
    rw [enqueue_of_room hroom, if_neg fun heq => Nat.ne_of_lt hroom (h.full_iff.mp heq)]
    simp only [bind, Except.bind, hstore, hmod]
    exact ⟨_, rfl, hholds, rfl, h.tail_mod.symm⟩
  · rcases rs with _ | ⟨old, rest⟩
    · rw [List.length_nil] at hfull
      omega
    · obtain ⟨buf₁, hdrop, hholds₁, hcap₁, htail₁⟩ := reportBufferDropOldest_eq h
      rw [enqueue_of_full hfull]
      rw [List.length_cons] at hfull
      obtain ⟨reports, head, hstore, hmod, hholds⟩ :=
        reportBufferPush_of_room hholds₁ (by rw [hcap₁]; omega) report
      rw [if_pos (h.full_iff.mpr (by rw [List.length_cons]; exact hfull)), hdrop]
      simp only [bind, Except.bind, hstore, hmod]
      exact ⟨_, rfl, hholds, hcap₁, htail₁⟩

/-- A buffer without capacity cannot take a report: the full-buffer path reads past the block. -/
theorem reportBufferPush_of_capacity_zero {buf : ReportBuffer} {rs : List PinningReport}
    (h : buf.Holds rs) (hzero : buf.capacity.toNat = 0) (report : PinningReport) :
    reportBufferPush buf report = .error .outOfBounds := by
  have hrs := h.count_le
  have hlen := h.length_reports
  have hnil : buf.reports = [] := List.eq_nil_of_length_eq_zero (by omega)
  unfold reportBufferPush
  rw [if_pos (h.full_iff.mpr (by omega)), reportBufferDropOldest, hnil]
  rfl

/-! ### Draining -/

/-- Handing over the oldest report leaves the others, once the count is adjusted. -/
theorem ReportBuffer.Holds.drain_one {buf : ReportBuffer} {r : PinningReport}
    {rs : List PinningReport} {count : UInt32}
    (h : { buf with count := count : ReportBuffer }.Holds (r :: rs)) :
    ∃ (hslot : buf.tail.toNat < buf.reports.length) (tail : UInt32),
      buf.reports[buf.tail.toNat] = some r ∧ umod (buf.tail + 1) buf.capacity = .ok tail ∧
      tail.toNat = (buf.tail.toNat + 1) % buf.capacity.toNat ∧
      { buf with
        reports := buf.reports.set buf.tail.toNat none
        tail := tail
        count := UInt32.ofNat rs.length : ReportBuffer }.Holds rs := by
  have hle : rs.length + 1 ≤ buf.capacity.toNat := h.count_le
  have hlen : buf.reports.length = buf.capacity.toNat := h.length_reports
  have htail : buf.tail.toNat < buf.capacity.toNat := h.tail_lt (by show 0 < buf.capacity.toNat; omega)
  obtain ⟨tail, hmod, htailval⟩ := umod_succ htail
  have hslot : buf.tail.toNat < buf.reports.length := by rw [hlen]; exact htail
  have hcontents : contents buf.reports buf.tail.toNat (rs.length + 1) = (r :: rs).map some :=
    h.contents_eq
  have hpop := @contents_pop _ buf.reports buf.tail.toNat rs.length hslot (by omega)
  rw [hcontents, List.map_cons, List.cons.injEq] at hpop
  refine ⟨hslot, tail, hpop.1.symm, hmod, htailval, ?_, ?_, ?_, fun _ => ?_, ?_, ?_⟩
  · show (buf.reports.set _ _).length = _
    rw [List.length_set, hlen]
  · exact UInt32.toNat_ofNat_of_lt' (lt_of_le_of_lt (by omega) buf.capacity.toNat_lt)
  · show rs.length ≤ buf.capacity.toNat
    omega
  · show tail.toNat < buf.capacity.toNat
    rw [htailval]
    exact Nat.mod_lt _ (by omega)
  · show buf.head.toNat = (tail.toNat + rs.length) % buf.capacity.toNat
    have hhead : buf.head.toNat
        = (buf.tail.toNat + (rs.length + 1)) % buf.capacity.toNat := h.head_eq
    rw [hhead, htailval, Rotation.succ_mod_add_mod]
  · show contents (buf.reports.set _ _) tail.toNat rs.length = _
    have hset : (buf.reports.set buf.tail.toNat none).length = buf.capacity.toNat := by
      rw [List.length_set, hlen]
    rw [htailval, ← hset, contents_mod, contents_set_behind hslot (by omega), hpop.2]

/-- The drain loop hands over the first `fuel` reports; the count is adjusted after it. -/
theorem reportBufferDrain.go_eq :
    ∀ (fuel : ℕ) (buf : ReportBuffer) (rs : List PinningReport),
      (∃ count, { buf with count := count : ReportBuffer }.Holds rs) → fuel ≤ rs.length →
      ∃ buf', reportBufferDrain.go fuel buf = .ok ((rs.take fuel).map some, buf') ∧
        buf'.count = buf.count ∧ buf'.capacity = buf.capacity ∧
        buf'.tail.toNat = (buf.tail.toNat + fuel) % buf.capacity.toNat ∧
        ∃ count, { buf' with count := count : ReportBuffer }.Holds (rs.drop fuel) := by
  intro fuel
  -- the count is not adjusted during the loop, so the buffer holds its reports under another count
  induction fuel with
  | zero =>
    rintro buf rs ⟨count, h⟩ _
    exact ⟨buf, rfl, rfl, rfl, h.tail_mod.symm, count, h⟩
  | succ fuel ih =>
    rintro buf rs ⟨count, h⟩ hfuel
    rcases rs with _ | ⟨r, rs⟩
    · exact absurd hfuel (Nat.not_succ_le_zero _)
    · obtain ⟨hslot, tail, holdest, hmod, htailval, hnext⟩ := h.drain_one
      obtain ⟨buf', hgo, hcount', hcap', htail', hholds'⟩ := ih { buf with
        reports := buf.reports.set buf.tail.toNat none, tail := tail } rs ⟨_, hnext⟩
        (Nat.le_of_succ_le_succ hfuel)
      have htaileq : buf'.tail.toNat = (buf.tail.toNat + (fuel + 1)) % buf.capacity.toNat := by
        rw [htail', htailval, Rotation.succ_mod_add_mod]
      refine ⟨buf', ?_, hcount', hcap', htaileq, hholds'⟩
      rw [reportBufferDrain.go]
      simp only [bind, Except.bind, load_of_lt hslot, store_of_lt _ hslot, hmod, hgo, holdest]
      rfl

/-- A drain hands over the oldest reports, at most `maxReports` of them. -/
theorem reportBufferDrain_eq {buf : ReportBuffer} {rs : List PinningReport} (h : buf.Holds rs)
    (maxReports : UInt32) :
    ∃ count buf', reportBufferDrain buf maxReports
        = .ok ((count, (rs.take maxReports.toNat).map some), buf') ∧
      count.toNat = min rs.length maxReports.toNat ∧
      buf'.Holds (rs.drop maxReports.toNat) ∧ buf'.capacity = buf.capacity ∧
      buf'.tail.toNat = (buf.tail.toNat + min rs.length maxReports.toNat)
        % buf.capacity.toNat := by
  unfold reportBufferDrain
  by_cases hmax : maxReports = 0
  · have hmin : min rs.length maxReports.toNat = 0 := by
      rw [hmax]
      exact Nat.min_zero _
    refine ⟨0, buf, ?_, hmin.symm, ?_, rfl, by rw [hmin]; exact h.tail_mod.symm⟩
    · rw [if_pos hmax, hmax]
      rfl
    · rw [hmax]
      exact h
  · rw [if_neg hmax]
    have hdrain : (if buf.count < maxReports then buf.count else maxReports).toNat
        = min rs.length maxReports.toNat := by
      rw [← h.count_eq]
      split_ifs with hlt
      · exact (min_eq_left (Nat.le_of_lt (UInt32.lt_iff_toNat_lt.mp hlt))).symm
      · refine (min_eq_right ?_).symm
        exact Nat.le_of_not_lt fun hlt' => hlt (UInt32.lt_iff_toNat_lt.mpr hlt')
    generalize (if buf.count < maxReports then buf.count else maxReports) = toDrain at hdrain
    obtain ⟨buf', hgo, hcount', hcap', htail', count', hholds'⟩ := reportBufferDrain.go_eq toDrain.toNat
      buf rs ⟨buf.count, h⟩ (by rw [hdrain]; exact min_le_left _ _)
    have htake : rs.take toDrain.toNat = rs.take maxReports.toNat := by
      rw [hdrain, Nat.min_comm, ← List.take_eq_take_min]
    have hdrop : rs.drop toDrain.toNat = rs.drop maxReports.toNat := by
      rw [hdrain]
      rcases Nat.le_total rs.length maxReports.toNat with hle | hle
      · rw [min_eq_left hle, List.drop_length, List.drop_eq_nil_of_le hle]
      · rw [min_eq_right hle]
    rw [hdrain] at htail'
    refine ⟨toDrain, { buf' with count := buf'.count - toDrain }, ?_, hdrain, ?_, hcap', htail'⟩
    · simp only [bind, Except.bind, hgo, htake]
    · rw [← hdrop]
      refine ⟨hholds'.length_reports, ?_, hholds'.count_le, hholds'.tail_lt, hholds'.head_eq,
        hholds'.contents_eq⟩
      show (buf'.count - toDrain).toNat = _
      rw [hcount', toNat_sub (by rw [h.count_eq, hdrain]; exact min_le_left _ _), h.count_eq,
        List.length_drop]

end Drainprof
