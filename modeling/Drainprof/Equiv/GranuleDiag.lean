import Drainprof.GranuleDiag
import Drainprof.Library.Rotation

/-!
# Records, hint and live count agree

`GranuleDiag.records` are the records in use, in registration order, and `GranuleDiag.live` those not
freed.  `GranuleDiag.WF` ties the parts of the state together: the block has `allocCapacity`
records, the capacity is `64` doubled at most `25` times, the hint points at a record, and
`liveCount` is the number of records not freed.

Each operation has one lemma that says what it does to the records: `granuleDiagAddAlloc_cases`,
`granuleDiagMarkFreed_cases` and `granuleDiagGenerateReport_eq`.  None of them faults.
-/

namespace Drainprof

/-! ### The well-formed states -/

namespace GranuleDiag

/-- The records in use, in registration order. -/
def records (d : GranuleDiag) : List AllocRecord :=
  (d.allocs.getD []).take d.allocCount.toNat

/-- The records not freed, in registration order. -/
def live (d : GranuleDiag) : List AllocRecord :=
  d.records.filter fun r => !r.freed

/-- The invariant of the diagnostic state of a granule. -/
structure WF (d : GranuleDiag) : Prop where
  block : ∃ xs, d.allocs = some xs ∧ xs.length = d.allocCapacity.toNat
  count_le : d.allocCount.toNat ≤ d.allocCapacity.toNat
  capacity : ∃ k ≤ 25, d.allocCapacity.toNat = 64 * 2 ^ k
  hint : d.lastFreedIndex.toNat < d.allocCount.toNat ∨ d.lastFreedIndex = 0
  live_eq : d.liveCount.toNat = d.live.length

namespace WF

variable {d : GranuleDiag}

theorem capacity_le (h : d.WF) : d.allocCapacity.toNat ≤ 2 ^ 31 := by
  obtain ⟨k, hk, hcap⟩ := h.capacity
  rw [hcap]
  calc 64 * 2 ^ k ≤ 64 * 2 ^ 25 := Nat.mul_le_mul_left 64 (Nat.pow_le_pow_right (by omega) hk)
    _ = 2 ^ 31 := by decide

theorem count_le_two_pow (h : d.WF) : d.allocCount.toNat ≤ 2 ^ 31 :=
  h.count_le.trans h.capacity_le

theorem length_records (h : d.WF) : d.records.length = d.allocCount.toNat := by
  obtain ⟨xs, hxs, hlen⟩ := h.block
  rw [records, hxs, Option.getD_some, List.length_take, hlen]
  exact min_eq_left h.count_le

theorem hint_lt (h : d.WF) (hpos : 0 < d.allocCount.toNat) :
    d.lastFreedIndex.toNat < d.allocCount.toNat := by
  rcases h.hint with hlt | hzero
  · exact hlt
  · rw [hzero]
    exact hpos

theorem live_le (h : d.WF) : d.liveCount.toNat ≤ d.allocCount.toNat := by
  rw [h.live_eq, ← h.length_records]
  exact List.length_filter_le ..

/-- A record in order can be destroyed. -/
theorem destroy (h : d.WF) : granuleDiagDestroy d = .ok () := by
  obtain ⟨xs, hxs, -⟩ := h.block
  rw [granuleDiagDestroy, hxs]
  rfl

/-- The live count is zero exactly when nothing is live. -/
theorem liveCount_eq_zero_iff (h : d.WF) : d.liveCount = 0 ↔ d.live = [] := by
  rw [← List.length_eq_zero_iff, ← h.live_eq]
  exact UInt32.toNat_inj.symm

end WF

end GranuleDiag

theorem granuleDiagCreate_spec {env : Env} {id : GranuleId} {t : Timespec} {d : GranuleDiag}
    (h : granuleDiagCreate env id t = some d) :
    d.WF ∧ d.granuleId = id ∧ d.openTime = t ∧ d.records = [] := by
  unfold granuleDiagCreate at h
  split_ifs at h
  cases h
  refine ⟨⟨⟨_, rfl, ?_⟩, ?_, ⟨0, by omega, rfl⟩, Or.inr rfl, rfl⟩, rfl, rfl, rfl⟩
  · rw [List.length_replicate]; rfl
  · exact Nat.zero_le _

theorem granuleDiagCreate_of_plentiful {env : Env} (henv : env.Plentiful) (id : GranuleId)
    (t : Timespec) : ∃ d, granuleDiagCreate env id t = some d := by
  rw [granuleDiagCreate, henv, henv, henv]
  exact ⟨_, rfl⟩

/-! ### Registering -/

theorem zeroRecords_eq {block : List AllocRecord} {start len : UInt32}
    (h : start.toNat + len.toNat ≤ block.length) :
    ∃ xs, zeroRecords block start len = .ok xs ∧ xs.length = block.length ∧
      xs.take start.toNat = block.take start.toNat := by
  refine ⟨_, by rw [zeroRecords, if_pos h], ?_, ?_⟩
  · simp only [List.length_append, List.length_take, List.length_replicate, List.length_drop]
    omega
  · rw [List.append_assoc, List.take_append_of_le_length (by rw [List.length_take]; omega),
      List.take_take, min_self]

/-- The three ways the growth step ends: with room for one more record, unchanged because memory ran
out, or with the block freed by the `realloc` of zero bytes. -/
theorem growAllocs_cases {d : GranuleDiag} (h : d.WF) (env : Env) :
    (∃ xs c, growAllocs env d = .ok (0, { d with allocs := some xs, allocCapacity := c }) ∧
        xs.length = c.toNat ∧ d.allocCount.toNat < c.toNat ∧ (∃ k ≤ 25, c.toNat = 64 * 2 ^ k) ∧
        xs.take d.allocCount.toNat = d.records) ∨
      (env.succeeds .diagAllocsRealloc = false ∧ growAllocs env d = .ok (-1, d)) ∨
      (d.allocCount.toNat = 2 ^ 31 ∧ growAllocs env d = .ok (-1, { d with allocs := none })) := by
  obtain ⟨xs, hxs, hlen⟩ := h.block
  have hrec : xs.take d.allocCount.toNat = d.records := by
    rw [GranuleDiag.records, hxs, Option.getD_some]
  unfold growAllocs
  by_cases hfull : d.allocCount ≥ d.allocCapacity
  · rw [if_pos hfull, hxs, deref]
    have hcount : d.allocCount.toNat = d.allocCapacity.toNat :=
      le_antisymm h.count_le (UInt32.le_iff_toNat_le.mp hfull)
    obtain ⟨k, hk, hcap⟩ := h.capacity
    have hpow : d.allocCapacity.toNat = 2 ^ (6 + k) := by
      rw [hcap, pow_add]
      rfl
    simp only [bind, Except.bind]
    rcases mul_two_cases hpow with ⟨hlt, hdouble, hgt, hne⟩ | ⟨hlast, h0⟩
    · -- the capacity doubles
      rw [realloc, if_neg hne]
      cases hsucc : env.succeeds .diagAllocsRealloc with
      | false => exact Or.inr (Or.inl ⟨rfl, rfl⟩)
      | true =>
        refine Or.inl ?_
        have hsub : (d.allocCapacity * 2 - d.allocCount).toNat
            = (d.allocCapacity * 2).toNat - d.allocCount.toNat := toNat_sub (by omega)
        have hnew : (xs.take (d.allocCapacity * 2).toNat ++
            List.replicate ((d.allocCapacity * 2).toNat - xs.length) AllocRecord.zero).length
            = (d.allocCapacity * 2).toNat := by
          rw [List.length_append, List.length_take, List.length_replicate]
          omega
        obtain ⟨ys, hys, hylen, hytake⟩ := zeroRecords_eq
          (show d.allocCount.toNat + (d.allocCapacity * 2 - d.allocCount).toNat ≤ _ by
            rw [hnew, hsub]; omega)
        rw [hnew] at hylen
        have hcap' : (d.allocCapacity * 2).toNat = 64 * 2 ^ (k + 1) := by
          rw [hdouble, show 6 + k + 1 = 6 + (k + 1) by omega, pow_add]
          rfl
        refine ⟨ys, d.allocCapacity * 2, ?_, hylen, by omega, ⟨k + 1, by omega, hcap'⟩, ?_⟩
        · simp only [if_true, hys]
        · rw [hytake, List.take_append_of_le_length (by rw [List.length_take]; omega),
            List.take_take, min_eq_left (by omega), hrec]
    · -- the doubled capacity wraps to zero
      refine Or.inr (Or.inr ⟨by rw [hcount, hpow, hlast], ?_⟩)
      rw [realloc, if_pos h0]
  · rw [if_neg hfull]
    refine Or.inl ⟨xs, d.allocCapacity, ?_, hlen, ?_, h.capacity, hrec⟩
    · rw [← hxs]
    · exact Nat.lt_of_not_le fun hle => hfull (UInt32.le_iff_toNat_le.mpr hle)

/-- The record a registration writes. -/
def AllocRecord.registered (granuleId : GranuleId) (allocId : AllocId) (size : UInt64)
    (file : FilePtr) (line : UInt32) (allocTime : Timespec) : AllocRecord :=
  ⟨allocId, granuleId, allocTime, ⟨file, line, 0⟩, size, ⟨0, 0⟩, false⟩

/-- The three ways a registration ends.  If it succeeds, the new record is the last one and live. -/
theorem granuleDiagAddAlloc_cases {d : GranuleDiag} (h : d.WF) (env : Env) (a : AllocId)
    (size : UInt64) (file : FilePtr) (line : UInt32) (t : Timespec) :
    (∃ d', granuleDiagAddAlloc env d a size file line t = .ok (0, d') ∧ d'.WF ∧
        d'.granuleId = d.granuleId ∧ d'.openTime = d.openTime ∧
        d'.records = d.records ++ [.registered d.granuleId a size file line t] ∧
        d'.live = d.live ++ [.registered d.granuleId a size file line t]) ∨
      (env.succeeds .diagAllocsRealloc = false ∧
        granuleDiagAddAlloc env d a size file line t = .ok (-1, d)) ∨
      (d.allocCount.toNat = 2 ^ 31 ∧
        granuleDiagAddAlloc env d a size file line t = .ok (-1, { d with allocs := none })) := by
  unfold granuleDiagAddAlloc
  rcases growAllocs_cases h env with ⟨xs, c, hgrow, hlen, hlt, hcap, htake⟩ | ⟨henv, hgrow⟩ |
    ⟨hcount, hgrow⟩
  · refine Or.inl ?_
    have hle : c.toNat ≤ 2 ^ 31 := by
      obtain ⟨k, hk, hc⟩ := hcap
      rw [hc]
      calc 64 * 2 ^ k ≤ 64 * 2 ^ 25 :=
            Nat.mul_le_mul_left 64 (Nat.pow_le_pow_right (by omega) hk)
        _ = 2 ^ 31 := by decide
    -- there is room, so the count does not wrap
    have hsucc : (d.allocCount + 1).toNat = d.allocCount.toNat + 1 := toNat_add_one (by omega)
    let r := AllocRecord.registered d.granuleId a size file line t
    have hrecords : (xs.set d.allocCount.toNat r).take (d.allocCount + 1).toNat
        = d.records ++ [r] := by
      rw [hsucc, List.take_set, List.take_add_one, htake, List.getElem?_eq_getElem (by omega),
        List.set_append_right _ _ (by rw [h.length_records])]
      rw [h.length_records, Nat.sub_self]
      rfl
    have hlive : (d.records ++ [r]).filter (fun r => !r.freed) = d.live ++ [r] := by
      rw [List.filter_append]
      rfl
    refine ⟨{ d with
      allocs := some (xs.set d.allocCount.toNat r)
      allocCapacity := c
      allocCount := d.allocCount + 1
      liveCount := d.liveCount + 1 }, ?_, ?_, rfl, rfl, hrecords, ?_⟩
    · rw [hgrow]
      simp only [bind, Except.bind, deref, ne_eq, not_true_eq_false, if_false,
        store_of_lt _ (show d.allocCount.toNat < xs.length by omega)]
      rfl
    · refine ⟨⟨_, rfl, by rw [List.length_set, hlen]⟩, ?_, hcap, ?_, ?_⟩
      · show (d.allocCount + 1).toNat ≤ c.toNat
        omega
      · show d.lastFreedIndex.toNat < (d.allocCount + 1).toNat ∨ _
        exact h.hint.imp_left fun hi => by omega
      · show (d.liveCount + 1).toNat = List.length (List.filter _ (List.take _ _))
        have hlive_le := h.live_le
        rw [Option.getD_some, hrecords, hlive, List.length_append, List.length_singleton,
          ← h.live_eq, toNat_add_one (by omega)]
    · show List.filter _ (List.take _ _) = _
      rw [Option.getD_some, hrecords, hlive]
  · refine Or.inr (Or.inl ⟨henv, ?_⟩)
    rw [hgrow]
    rfl
  · refine Or.inr (Or.inr ⟨hcount, ?_⟩)
    rw [hgrow]
    rfl

/-! ### Freeing -/

/-- The record marks allocation `a` as live. -/
def AllocRecord.Matches (r : AllocRecord) (a : AllocId) : Prop :=
  r.allocId = a ∧ r.freed = false

instance (r : AllocRecord) (a : AllocId) : Decidable (r.Matches a) :=
  inferInstanceAs (Decidable (r.allocId = a ∧ r.freed = false))

/-- The record, freed at time `t`. -/
def AllocRecord.free (r : AllocRecord) (t : Timespec) : AllocRecord :=
  { r with freed := true, freeTime := t }

/-- The state after the scan has freed record `i`. -/
def GranuleDiag.freeAt (d : GranuleDiag) (i : ℕ) (r : AllocRecord) (t : Timespec) : GranuleDiag :=
  { d with
    allocs := d.allocs.map fun xs => xs.set i (r.free t)
    lastFreedIndex := UInt32.ofNat ((i + 1) % d.allocCount.toNat)
    liveCount := d.liveCount - 1 }

theorem GranuleDiag.records_freeAt (d : GranuleDiag) (i : ℕ) (r : AllocRecord) (t : Timespec) :
    (d.freeAt i r t).records = d.records.set i (r.free t) := by
  unfold records freeAt
  cases d.allocs with
  | none => simp
  | some xs =>
    show (xs.set i (r.free t)).take _ = _
    rw [List.take_set]
    rfl

/-- Freeing a live record takes it, and nothing else, out of the live list. -/
theorem GranuleDiag.live_freeAt {d : GranuleDiag} {i : ℕ} {r : AllocRecord}
    (hi : d.records[i]? = some r) (hr : r.freed = false) (t : Timespec) :
    ∃ before after, d.live = before ++ r :: after ∧ (d.freeAt i r t).live = before ++ after := by
  obtain ⟨hlt, hget⟩ := List.getElem?_eq_some_iff.mp hi
  refine ⟨(d.records.take i).filter (fun r => !r.freed),
    (d.records.drop (i + 1)).filter (fun r => !r.freed), ?_, ?_⟩
  · unfold live
    conv_lhs => rw [← List.take_append_drop i d.records, List.drop_eq_getElem_cons hlt, hget]
    rw [List.filter_append, List.filter_cons_of_pos (by rw [hr]; rfl)]
  · unfold live
    rw [records_freeAt, List.set_eq_take_append_cons_drop, if_pos hlt, List.filter_append,
      List.filter_cons_of_neg (by simp [AllocRecord.free])]

theorem GranuleDiag.WF.freeAt {d : GranuleDiag} (h : d.WF) {i : ℕ} {r : AllocRecord}
    (hi : d.records[i]? = some r) (hr : r.freed = false) (t : Timespec) : (d.freeAt i r t).WF := by
  obtain ⟨xs, hxs, hlen⟩ := h.block
  have hlt : i < d.allocCount.toNat := by
    rw [← h.length_records]
    exact (List.getElem?_eq_some_iff.mp hi).1
  obtain ⟨before, after, hbefore, hafter⟩ := GranuleDiag.live_freeAt hi hr t
  have hcount := h.live_eq
  rw [hbefore, List.length_append, List.length_cons] at hcount
  refine ⟨⟨xs.set i (r.free t), ?_, ?_⟩, h.count_le, h.capacity, Or.inl ?_, ?_⟩
  · show d.allocs.map _ = _
    rw [hxs]
    rfl
  · rw [List.length_set]
    exact hlen
  · show (UInt32.ofNat ((i + 1) % d.allocCount.toNat)).toNat < d.allocCount.toNat
    have hmod : (i + 1) % d.allocCount.toNat < d.allocCount.toNat := Nat.mod_lt _ (by omega)
    rw [UInt32.toNat_ofNat_of_lt' (hmod.trans d.allocCount.toNat_lt)]
    exact hmod
  · show (d.liveCount - 1).toNat = _
    rw [hafter, List.length_append, toNat_sub (by show 1 ≤ d.liveCount.toNat; omega), hcount]
    show before.length + (after.length + 1) - 1 = _
    omega

/-- The record index of a scan step, in 32-bit arithmetic. -/
theorem GranuleDiag.WF.scanIndex {d : GranuleDiag} (h : d.WF) {offset : ℕ}
    (ho : offset < d.allocCount.toNat) :
    ∃ i, umod (d.lastFreedIndex + UInt32.ofNat offset) d.allocCount = .ok i ∧
      i.toNat = (d.lastFreedIndex.toNat + offset) % d.allocCount.toNat := by
  refine ⟨_, umod_of_ne_zero (ne_zero_of_lt_toNat ho), ?_⟩
  have hcount := h.count_le_two_pow
  have hhint := h.hint_lt (Nat.zero_lt_of_lt ho)
  rw [toNat_add_ofNat_mod _ _ (by omega), Rotation.add_mod_mod_of_lt (by omega)]

/-- The scan frees the first matching record it visits, or visits none. -/
theorem granuleDiagMarkFreed.go_cases {d : GranuleDiag} (h : d.WF) (a : AllocId) (t : Timespec) :
    ∀ fuel offset : ℕ, offset + fuel = d.allocCount.toNat →
      (∃ i r, d.records[i]? = some r ∧ r.Matches a ∧
          granuleDiagMarkFreed.go d a t fuel offset = .ok (0, d.freeAt i r t)) ∨
        (granuleDiagMarkFreed.go d a t fuel offset = .ok (-1, d) ∧
          ∀ k, offset ≤ k → k < d.allocCount.toNat → ∀ r,
            d.records[(d.lastFreedIndex.toNat + k) % d.allocCount.toNat]? = some r →
              ¬r.Matches a) := by
  obtain ⟨xs, hxs, hlen⟩ := h.block
  intro fuel
  induction fuel with
  | zero =>
    intro offset hoff
    exact Or.inr ⟨rfl, fun k hk hk' => by omega⟩
  | succ fuel ih =>
    intro offset hoff
    obtain ⟨i, hi, hival⟩ := h.scanIndex (show offset < d.allocCount.toNat by omega)
    have hilt : i.toNat < d.allocCount.toNat := by
      rw [hival]
      exact Nat.mod_lt _ (by omega)
    have hicap : i.toNat < xs.length := by
      rw [hlen]
      exact lt_of_lt_of_le hilt h.count_le
    have hrec : d.records[i.toNat]? = some xs[i.toNat] := by
      rw [GranuleDiag.records, hxs, Option.getD_some, List.getElem?_take_of_lt hilt,
        List.getElem?_eq_getElem hicap]
    rw [granuleDiagMarkFreed.go, hi, hxs]
    simp only [bind, Except.bind, deref, load_of_lt hicap]
    by_cases hmatch : xs[i.toNat].allocId = a ∧ xs[i.toNat].freed = false
    · refine Or.inl ⟨i.toNat, xs[i.toNat], hrec, hmatch, ?_⟩
      rw [if_pos hmatch, store_of_lt _ hicap, umod_of_ne_zero (ne_zero_of_lt_toNat hilt)]
      -- the hint moves behind the record, in 32-bit arithmetic and without a wrap
      have hnext : (i + 1) % d.allocCount
          = UInt32.ofNat ((i.toNat + 1) % d.allocCount.toNat) := by
        have hmod : (i.toNat + 1) % d.allocCount.toNat < d.allocCount.toNat :=
          Nat.mod_lt _ (by omega)
        apply UInt32.toNat_inj.mp
        rw [toNat_succ_mod hilt, UInt32.toNat_ofNat_of_lt' (hmod.trans d.allocCount.toNat_lt)]
      show Except.ok (0, _) = Except.ok (0, _)
      rw [GranuleDiag.freeAt, hxs, hnext]
      rfl
    · rw [if_neg hmatch]
      rcases ih (offset + 1) (by omega) with hfound | ⟨hgo, hnone⟩
      · exact Or.inl hfound
      · refine Or.inr ⟨hgo, ?_⟩
        intro k hk hk' r hr
        rcases Nat.eq_or_lt_of_le hk with rfl | hlt
        · rw [← hival, hrec, Option.some.injEq] at hr
          rwa [← hr]
        · exact hnone k hlt hk' r hr

/-- A free finds a live record of the allocation exactly when there is one. -/
theorem granuleDiagMarkFreed_cases {d : GranuleDiag} (h : d.WF) (a : AllocId) (t : Timespec) :
    (∃ i r, d.records[i]? = some r ∧ r.Matches a ∧
        granuleDiagMarkFreed d a t = .ok (0, d.freeAt i r t)) ∨
      (granuleDiagMarkFreed d a t = .ok (-1, d) ∧ ∀ r ∈ d.records, ¬r.Matches a) := by
  rcases granuleDiagMarkFreed.go_cases h a t d.allocCount.toNat 0 (by omega) with
    hfound | ⟨hgo, hnone⟩
  · exact Or.inl hfound
  · refine Or.inr ⟨hgo, ?_⟩
    intro r hr
    obtain ⟨j, hj, rfl⟩ := List.getElem_of_mem hr
    rw [h.length_records] at hj
    have hhint := h.hint_lt (Nat.zero_lt_of_lt hj)
    -- the rotated scan visits every record
    obtain ⟨k, hk, hkj⟩ := Rotation.exists_add_mod_eq hhint hj
    refine hnone k (Nat.zero_le _) hk _ ?_
    rw [hkj, List.getElem?_eq_getElem]

/-! ### Reporting -/

/-- The copy loop writes the pinning entries of the live records left, one after the other, into the
places left in the report. -/
theorem granuleDiagGenerateReport.go_eq {d : GranuleDiag} (h : d.WF) :
    ∀ (fuel i : ℕ) (pinningIdx : UInt32) (done rest : List PinningAlloc),
      i + fuel = d.allocCount.toNat → pinningIdx.toNat = done.length →
      rest.length = ((d.records.drop i).filter fun r => !r.freed).length →
      done.length + rest.length < 2 ^ 32 →
      granuleDiagGenerateReport.go d fuel i pinningIdx (done ++ rest)
        = .ok (done ++ ((d.records.drop i).filter fun r => !r.freed).map AllocRecord.toPinning) := by
  obtain ⟨xs, hxs, hlen⟩ := h.block
  have hrecords := h.length_records
  have hcount := d.allocCount.toNat_lt
  intro fuel
  induction fuel with
  | zero =>
    intro i pinningIdx done rest hi _ hrest _
    rw [List.drop_eq_nil_of_le (by omega)] at hrest ⊢
    rw [List.length_eq_zero_iff.mp hrest]
    rfl
  | succ fuel ih =>
    intro i pinningIdx done rest hi hidx hrest hbound
    have hival : (UInt32.ofNat i).toNat = i :=
      UInt32.toNat_ofNat_of_lt' (show i < 2 ^ 32 by omega)
    have hicap : (UInt32.ofNat i).toNat < xs.length := by
      rw [hival, hlen]
      exact lt_of_lt_of_le (by omega) h.count_le
    have hilt : i < d.records.length := by omega
    have hget : xs[(UInt32.ofNat i).toNat] = d.records[i] := by
      apply Option.some.inj
      rw [← List.getElem?_eq_getElem, ← List.getElem?_eq_getElem, hival, GranuleDiag.records, hxs,
        Option.getD_some, List.getElem?_take_of_lt (by omega)]
    rw [granuleDiagGenerateReport.go, hxs]
    simp only [bind, Except.bind, deref, load_of_lt hicap, hget]
    rw [List.drop_eq_getElem_cons hilt] at hrest ⊢
    by_cases hfreed : d.records[i].freed = false
    · -- a live record: one entry is written
      rw [List.filter_cons_of_pos (by rw [hfreed]; rfl)] at hrest ⊢
      rw [List.length_cons] at hrest
      obtain ⟨p, rest', rfl⟩ := List.exists_cons_of_length_eq_add_one hrest
      rw [List.length_cons] at hrest hbound
      have hset : (done ++ p :: rest').set pinningIdx.toNat d.records[i].toPinning
          = (done ++ [d.records[i].toPinning]) ++ rest' := by
        rw [hidx, List.set_append_right _ _ le_rfl, Nat.sub_self, List.set_cons_zero,
          List.append_assoc, List.singleton_append]
      rw [if_pos hfreed, store_of_lt _ (by rw [hidx, List.length_append, List.length_cons]; omega)]
      simp only [hset]
      rw [ih (i + 1) (pinningIdx + 1) _ rest' (by omega) ?_ (by omega) ?_]
      · rw [List.map_cons, List.append_assoc, List.singleton_append]
      · rw [toNat_add_one (by omega), hidx, List.length_append, List.length_singleton]
      · rw [List.length_append, List.length_singleton]
        omega
    · rw [List.filter_cons_of_neg (by simpa using hfreed)] at hrest ⊢
      rw [if_neg hfreed]
      exact ih (i + 1) pinningIdx done rest (by omega) hidx hrest hbound

/-- What is to be reported of a granule: its live allocations, in registration order. -/
def GranuleDiag.report (d : GranuleDiag) (closeTime : Timespec) : PinningReport where
  granuleId := d.granuleId
  openTime := d.openTime
  closeTime := closeTime
  pinningAllocs := d.live.map AllocRecord.toPinning
  pinningCount := d.liveCount
  totalAllocs := d.allocCount
  drainedAllocs := d.allocCount - d.liveCount

/-- The report of a granule with live allocations lists exactly these, in registration order. -/
theorem granuleDiagGenerateReport_eq {env : Env} {d : GranuleDiag} (h : d.WF)
    (hlive : d.liveCount ≠ 0) (hreport : env.succeeds .reportMalloc = true)
    (hallocs : env.succeeds .pinningAllocsMalloc = true) (closeTime : Timespec) :
    granuleDiagGenerateReport env d closeTime = .ok (some (d.report closeTime)) := by
  have hgo := granuleDiagGenerateReport.go_eq h d.allocCount.toNat 0 0 []
    (List.replicate d.liveCount.toNat default) (by omega) rfl
    (by rw [List.length_replicate]; exact h.live_eq)
    (by rw [List.length_replicate]; show 0 + d.liveCount.toNat < _; have := d.liveCount.toNat_lt; omega)
  rw [List.nil_append, List.nil_append, List.drop_zero] at hgo
  rw [granuleDiagGenerateReport, if_neg hlive, hreport, hallocs]
  simp only [Bool.not_true, Bool.false_eq_true, if_false, bind, Except.bind, hgo]
  rfl

/-! ### Whatever the state

The lemmas above are about well-formed states.  After a growth that freed the block a state is not
well formed any more, so what follows assumes nothing of it. -/

/-- The record array is full, and its doubled capacity wraps to zero. -/
def GranuleDiag.Saturated (d : GranuleDiag) : Prop :=
  d.allocCount ≥ d.allocCapacity ∧ d.allocCapacity * 2 = 0

instance (d : GranuleDiag) : Decidable d.Saturated :=
  inferInstanceAs (Decidable (_ ∧ _))

/-- The record array of a well-formed state is saturated when it has its largest size and is full. -/
theorem GranuleDiag.saturated_iff {d : GranuleDiag} (h : d.WF) :
    d.Saturated ↔ d.allocCount.toNat = 2 ^ 31 := by
  have hcount := h.count_le
  have hcap := h.capacity_le
  constructor
  · rintro ⟨hfull, hzero⟩
    have hfull' := UInt32.le_iff_toNat_le.mp hfull
    obtain ⟨k, hk, hpow⟩ := h.capacity
    have hpos : 0 < d.allocCapacity.toNat := by
      rw [hpow]
      exact Nat.mul_pos (by decide) (Nat.two_pow_pos k)
    have hdouble : d.allocCapacity.toNat * 2 % 2 ^ 32 = 0 := by
      have hmul := congrArg UInt32.toNat hzero
      rwa [UInt32.toNat_mul] at hmul
    omega
  · intro hfull
    have hmax : d.allocCapacity = 0x80000000 := by
      apply UInt32.toNat_inj.mp
      show d.allocCapacity.toNat = 2 ^ 31
      omega
    refine ⟨UInt32.le_iff_toNat_le.mpr (by omega), ?_⟩
    rw [hmax]
    decide

theorem growAllocs_outcome {env : Env} {d d' : GranuleDiag} {r : Int}
    (h : growAllocs env d = .ok (r, d')) :
    d'.granuleId = d.granuleId ∧ ((r = 0 ∧ ¬d.Saturated) ∨ (r = -1 ∧ ¬d.Saturated ∧ d' = d) ∨
      (r = -1 ∧ d.Saturated ∧ d' ≠ d)) := by
  unfold growAllocs at h
  split_ifs at h with hfull
  · obtain ⟨block, hblock, h⟩ := bind_eq_ok.mp h
    have hallocs : d.allocs = some block := by
      cases hd : d.allocs with
      | none => rw [hd] at hblock; cases hblock
      | some xs => rw [hd] at hblock; cases hblock; rfl
    unfold realloc at h
    split_ifs at h with hzero
    · -- the request of zero bytes frees the block
      cases h
      refine ⟨rfl, Or.inr (Or.inr ⟨rfl, ⟨hfull, hzero⟩, ?_⟩)⟩
      intro heq
      have hsame : (none : Option (List AllocRecord)) = d.allocs := congrArg GranuleDiag.allocs heq
      rw [hallocs] at hsame
      cases hsame
    · obtain ⟨zeroed, -, h⟩ := bind_eq_ok.mp h
      cases h
      exact ⟨rfl, Or.inl ⟨rfl, fun hsat => hzero hsat.2⟩⟩
    · cases h
      exact ⟨rfl, Or.inr (Or.inl ⟨rfl, fun hsat => hzero hsat.2, rfl⟩)⟩
  · cases h
    exact ⟨rfl, Or.inl ⟨rfl, fun hsat => hfull hsat.1⟩⟩

/-- A registration fails without a trace, except on a saturated state. -/
theorem granuleDiagAddAlloc_outcome {env : Env} {d d' : GranuleDiag} {a : AllocId} {size : UInt64}
    {file : FilePtr} {line : UInt32} {t : Timespec} {r : Int}
    (h : granuleDiagAddAlloc env d a size file line t = .ok (r, d')) :
    d'.granuleId = d.granuleId ∧ ((r = 0 ∧ ¬d.Saturated) ∨ (r = -1 ∧ ¬d.Saturated ∧ d' = d) ∨
      (r = -1 ∧ d.Saturated ∧ d' ≠ d)) := by
  obtain ⟨⟨grown, d₁⟩, hgrow, h⟩ := bind_eq_ok.mp h
  obtain ⟨hid, hgrown⟩ := growAllocs_outcome hgrow
  dsimp only at h
  split_ifs at h with hfailed
  · cases h
    exact ⟨hid, hgrown⟩
  · obtain ⟨block, -, h⟩ := bind_eq_ok.mp h
    obtain ⟨block', -, h⟩ := bind_eq_ok.mp h
    cases h
    refine ⟨hid, Or.inl ⟨rfl, ?_⟩⟩
    rcases hgrown with ⟨-, hsat⟩ | ⟨-, hsat, -⟩ | ⟨hr, -⟩
    · exact hsat
    · exact hsat
    · exact absurd (not_not.mp hfailed) (by rw [hr]; decide)

theorem granuleDiagMarkFreed.go_outcome {d d' : GranuleDiag} {a : AllocId} {t : Timespec}
    {r : Int} : ∀ {fuel offset : ℕ}, granuleDiagMarkFreed.go d a t fuel offset = .ok (r, d') →
      d'.granuleId = d.granuleId ∧ (r = 0 ∨ (r = -1 ∧ d' = d)) := by
  intro fuel
  induction fuel with
  | zero => intro offset h; cases h; exact ⟨rfl, Or.inr ⟨rfl, rfl⟩⟩
  | succ fuel ih =>
    intro offset h
    obtain ⟨i, -, h⟩ := bind_eq_ok.mp h
    obtain ⟨block, -, h⟩ := bind_eq_ok.mp h
    obtain ⟨rec_, -, h⟩ := bind_eq_ok.mp h
    split_ifs at h with hmatch
    · obtain ⟨block', -, h⟩ := bind_eq_ok.mp h
      obtain ⟨next, -, h⟩ := bind_eq_ok.mp h
      cases h
      exact ⟨rfl, Or.inl rfl⟩
    · exact ih h

/-- A free fails without a trace. -/
theorem granuleDiagMarkFreed_outcome {d d' : GranuleDiag} {a : AllocId} {t : Timespec} {r : Int}
    (h : granuleDiagMarkFreed d a t = .ok (r, d')) :
    d'.granuleId = d.granuleId ∧ (r = 0 ∨ (r = -1 ∧ d' = d)) :=
  granuleDiagMarkFreed.go_outcome h

end Drainprof
