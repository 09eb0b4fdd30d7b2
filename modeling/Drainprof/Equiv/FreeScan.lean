import Drainprof.Equiv.GranuleDiag
import Drainprof.Library.Run

/-!
# The rotating scan and its hint

A free is found by a scan that starts at the hint and wraps around.  As long as no allocation is
live twice it frees the very record that a scan from the start would free
(`markFreed_plain_iff`), unless the growth at `2 ^ 31` records has lost the array.

The hint is meant for frees in registration order: it then points at the next record to be freed.
It does until a record is added while all those before it are freed, because the hint was reduced
modulo the number of records there were (`free_hint_iff`).
-/

namespace Drainprof

open Transition

/-! ### The reachable states -/

/-- The record array was freed by a growth to zero bytes. -/
structure GranuleDiag.Lost (d : GranuleDiag) : Prop where
  allocs : d.allocs = none
  count : d.allocCount.toNat = 2 ^ 31
  full : d.allocCount ≥ d.allocCapacity

namespace GranuleDiag

variable {d d' : GranuleDiag} {env : Env} {op : DiagOp} {r : Int}

theorem WF.allocs_ne_none (h : d.WF) : d.allocs ≠ none := by
  obtain ⟨xs, hxs, -⟩ := h.block
  rw [hxs]
  exact Option.some_ne_none xs

theorem WF.lost (h : d.WF) (hcount : d.allocCount.toNat = 2 ^ 31) :
    { d with allocs := none : GranuleDiag }.Lost where
  allocs := rfl
  count := hcount
  full := by
    have hcap := h.capacity_le
    have hle : d.allocCapacity.toNat ≤ d.allocCount.toNat := by omega
    exact UInt32.le_iff_toNat_le.mpr hle

/-- No call on a lost state returns. -/
theorem Lost.step (h : d.Lost) (i : Env × DiagOp) : d.step i = .error .useAfterFree := by
  obtain ⟨env, op⟩ := i
  have hderef : deref d.allocs = .error .useAfterFree := by
    rw [h.allocs]
    rfl
  cases op with
  | addAlloc a size file line =>
    rw [GranuleDiag.step, granuleDiagAddAlloc, growAllocs, if_pos h.full, hderef]
    rfl
  | markFreed a =>
    have hne : d.allocCount ≠ 0 := by
      apply ne_zero_of_lt_toNat (n := 0)
      rw [h.count]
      decide
    rw [GranuleDiag.step, granuleDiagMarkFreed, h.count,
      show 2 ^ 31 = (2 ^ 31 - 1) + 1 from rfl, granuleDiagMarkFreed.go, umod_of_ne_zero hne, ok_bind,
      hderef]
    rfl

/-- A call keeps a well-formed state well formed, or loses its array. -/
theorem WF.step (h : d.WF) (hstep : d.step (env, op) = .ok (r, d')) : d'.WF ∨ d'.Lost := by
  cases op with
  | addAlloc a size file line =>
    rcases granuleDiagAddAlloc_cases h env a size file line env.now with
      ⟨d₁, hadd, hwf, -⟩ | ⟨-, hadd⟩ | ⟨hcount, hadd⟩
    · rw [GranuleDiag.step, hadd] at hstep
      cases hstep
      exact Or.inl hwf
    · rw [GranuleDiag.step, hadd] at hstep
      cases hstep
      exact Or.inl h
    · rw [GranuleDiag.step, hadd] at hstep
      cases hstep
      exact Or.inr (h.lost hcount)
  | markFreed a =>
    rcases granuleDiagMarkFreed_cases h a env.now with ⟨i, rec_, hi, hmatch, hfreed⟩ | ⟨hfreed, -⟩
    · rw [GranuleDiag.step, hfreed] at hstep
      cases hstep
      exact Or.inl (h.freeAt hi hmatch.2 env.now)
    · rw [GranuleDiag.step, hfreed] at hstep
      cases hstep
      exact Or.inl h

/-- The states that calls lead to. -/
theorem wf_or_lost_of_run {id : GranuleId} {t : Timespec} {ops : List (Env × DiagOp)}
    {os : List Int} (hcreate : granuleDiagCreate env id t = some d)
    (hrun : run GranuleDiag.step d ops = .ok (os, d')) : d'.WF ∨ d'.Lost := by
  refine @run_invariant _ _ _ _ GranuleDiag.step (fun d => d.WF ∨ d.Lost) (fun _ => True) ?_ _ _ _ _
    (Or.inl (granuleDiagCreate_spec hcreate).1) (fun _ _ => trivial) hrun
  rintro d₁ ⟨env, op⟩ o d₂ (hwf | hlost) - hstep
  · exact hwf.step hstep
  · rw [hlost.step] at hstep
    cases hstep

end GranuleDiag

/-! ### The rotated scan and the plain scan -/

/-- No allocation is live twice. -/
def GranuleDiag.LiveOnce (d : GranuleDiag) : Prop :=
  (d.live.map AllocRecord.allocId).Nodup

/-- The first record from index `0` on that marks allocation `a` as live. -/
def GranuleDiag.plainScan (d : GranuleDiag) (a : AllocId) : Option ℕ :=
  d.records.findIdx? fun r => decide (r.Matches a)

/-- A free does what a scan from index `0` would do, and stays inside the records. -/
structure GranuleDiag.ScansPlainly (d : GranuleDiag) : Prop where
  frees : ∀ a t i, d.plainScan a = some i →
    ∃ d', granuleDiagMarkFreed d a t = .ok (0, d') ∧
      d'.records = d.records.modify i (fun r => r.free t) ∧ d'.liveCount = d.liveCount - 1
  misses : ∀ a t, d.plainScan a = none → granuleDiagMarkFreed d a t = .ok (-1, d)
  index : ∀ offset < d.allocCount.toNat, d.lastFreedIndex.toNat + offset ≤ 2 ^ 32 - 1 ∧
    ∃ i, umod (d.lastFreedIndex + UInt32.ofNat offset) d.allocCount = .ok i ∧
      i.toNat < d.allocCount.toNat

namespace GranuleDiag

variable {d d' : GranuleDiag} {a : AllocId} {i j : ℕ} {r r' : AllocRecord} {t : Timespec}

/-- An allocation that is live once has one record that matches it. -/
theorem LiveOnce.index_unique (h : d.LiveOnce) (hi : d.records[i]? = some r) (hr : r.Matches a)
    (hj : d.records[j]? = some r') (hr' : r'.Matches a) : i = j := by
  have hpairs : d.records.Pairwise fun x y =>
      (!x.freed) = true → (!y.freed) = true → x.allocId ≠ y.allocId := by
    have hlive := List.pairwise_map.mp h
    exact List.pairwise_filter.mp hlive
  have hdistinct : ∀ {i j : ℕ} {r r' : AllocRecord}, d.records[i]? = some r → r.Matches a →
      d.records[j]? = some r' → r'.Matches a → ¬i < j := by
    intro i j r r' hi hr hj hr' hlt
    obtain ⟨hi', rfl⟩ := List.getElem?_eq_some_iff.mp hi
    obtain ⟨hj', rfl⟩ := List.getElem?_eq_some_iff.mp hj
    have hne := List.pairwise_iff_getElem.mp hpairs i j hi' hj' hlt
    exact hne (by rw [hr.2]; rfl) (by rw [hr'.2]; rfl) (hr.1.trans hr'.1.symm)
  have hij := hdistinct hi hr hj hr'
  have hji := hdistinct hj hr' hi hr
  omega

/-- The record freed is the one that matches. -/
theorem WF.markFreed_of_matches (h : d.WF) (honce : d.LiveOnce) (hi : d.records[i]? = some r)
    (hr : r.Matches a) (t : Timespec) :
    granuleDiagMarkFreed d a t = .ok (0, d.freeAt i r t) := by
  rcases granuleDiagMarkFreed_cases h a t with ⟨j, r', hj, hr', hfreed⟩ | ⟨-, hnone⟩
  · obtain rfl : i = j := honce.index_unique hi hr hj hr'
    rw [hi, Option.some.injEq] at hj
    rw [hj]
    exact hfreed
  · exact absurd hr (hnone r (List.mem_of_getElem? hi))

theorem exists_of_plainScan (h : d.plainScan a = some i) :
    ∃ r, d.records[i]? = some r ∧ r.Matches a := by
  obtain ⟨hlt, hmatch, -⟩ := List.findIdx?_eq_some_iff_getElem.mp h
  exact ⟨_, List.getElem?_eq_getElem hlt, of_decide_eq_true hmatch⟩

theorem plainScan_eq_none_iff : d.plainScan a = none ↔ ∀ r ∈ d.records, ¬r.Matches a := by
  rw [plainScan, List.findIdx?_eq_none_iff]
  exact forall₂_congr fun r _ => decide_eq_false_iff_not

/-- Freeing a record in place is a modification of the records. -/
theorem set_free_eq_modify (hi : d.records[i]? = some r) (t : Timespec) :
    d.records.set i (r.free t) = d.records.modify i (fun r => r.free t) := by
  apply List.ext_getElem?
  intro j
  by_cases hij : i = j
  · subst hij
    rw [List.getElem?_set_self (List.getElem?_eq_some_iff.mp hi).1, List.getElem?_modify_eq, hi]
    rfl
  · rw [List.getElem?_set_ne hij, List.getElem?_modify_ne _ _ hij]

theorem WF.scansPlainly (h : d.WF) (honce : d.LiveOnce) : d.ScansPlainly where
  frees a t i hi := by
    obtain ⟨r, hget, hr⟩ := exists_of_plainScan hi
    refine ⟨d.freeAt i r t, h.markFreed_of_matches honce hget hr t, ?_, rfl⟩
    rw [records_freeAt, set_free_eq_modify hget]
  misses a t hnone := by
    have hno := plainScan_eq_none_iff.mp hnone
    rcases granuleDiagMarkFreed_cases h a t with ⟨i, r, hi, hr, -⟩ | ⟨hmiss, -⟩
    · exact absurd hr (hno r (List.mem_of_getElem? hi))
    · exact hmiss
  index offset hlt := by
    obtain ⟨i, hmod, hval⟩ := h.scanIndex hlt
    have hcount := h.count_le_two_pow
    have hhint := h.hint_lt (Nat.zero_lt_of_lt hlt)
    refine ⟨by omega, i, hmod, ?_⟩
    rw [hval]
    exact Nat.mod_lt _ (by omega)

theorem Lost.not_scansPlainly (h : d.Lost) : ¬d.ScansPlainly := by
  intro hplain
  have hnone : d.plainScan 0 = none := by
    rw [plainScan, records, h.allocs]
    simp
  have hmiss := hplain.misses 0 default hnone
  have hlost := h.step (Env.ample default, .markFreed 0)
  rw [GranuleDiag.step] at hlost
  rw [show (Env.ample default).now = default from rfl, hmiss] at hlost
  cases hlost

end GranuleDiag

/-- **The rotated scan is the plain scan** in every reachable state in which no allocation is live
twice, exactly as long as the array has not been lost. -/
theorem markFreed_plain_iff {env : Env} {id : GranuleId} {t : Timespec} {d d' : GranuleDiag}
    {ops : List (Env × DiagOp)} {os : List Int} (hcreate : granuleDiagCreate env id t = some d)
    (hrun : run GranuleDiag.step d ops = .ok (os, d')) (honce : d'.LiveOnce) :
    d'.ScansPlainly ↔ d'.allocs ≠ none := by
  rcases GranuleDiag.wf_or_lost_of_run hcreate hrun with hwf | hlost
  · exact iff_of_true (hwf.scansPlainly honce) hwf.allocs_ne_none
  · exact iff_of_false hlost.not_scansPlainly fun hne => hne hlost.allocs

/-- The calls that register `n` allocations. -/
def registrations (n : ℕ) : List (Env × DiagOp) :=
  (List.range n).map fun i => (Env.ample default, .addAlloc (UInt64.ofNat i) 0 0 0)

/-- With memory to spare, `2 ^ 31` allocations are registered. -/
theorem run_registrations {d : GranuleDiag} (h : d.WF) (hempty : d.records = []) :
    ∀ n ≤ 2 ^ 31, ∃ os d', run GranuleDiag.step d (registrations n) = .ok (os, d') ∧ d'.WF ∧
      d'.records.length = n := by
  intro n
  induction n with
  | zero =>
    intro _
    exact ⟨[], d, rfl, h, by rw [hempty]; rfl⟩
  | succ n ih =>
    intro hn
    obtain ⟨os, d', hrun, hwf, hlength⟩ := ih (by omega)
    have happend : registrations (n + 1)
        = registrations n ++ [(Env.ample default, .addAlloc (UInt64.ofNat n) 0 0 0)] := by
      rw [registrations, List.range_succ, List.map_append]
      rfl
    have hcount := hwf.length_records
    rcases granuleDiagAddAlloc_cases hwf (Env.ample default) (UInt64.ofNat n) 0 0 0 default with
      ⟨d'', hadd, hwf'', -, -, hrecords, -⟩ | ⟨hfails, -⟩ | ⟨hfull, -⟩
    · refine ⟨os ++ [0], d'', ?_, hwf'', ?_⟩
      · rw [happend]
        exact run_append_eq_ok.mpr ⟨os, d', [0], hrun, run_singleton_eq_ok.mpr ⟨0, hadd, rfl⟩, rfl⟩
      · rw [hrecords, List.length_append, hlength, List.length_singleton]
    · cases hfails
    · omega

/-- One more registration loses the array. -/
theorem run_registrations_lost {d : GranuleDiag} (h : d.WF) (hempty : d.records = []) :
    ∃ os d', run GranuleDiag.step d (registrations (2 ^ 31 + 1)) = .ok (os, d') ∧ d'.Lost := by
  obtain ⟨os, d', hrun, hwf, hlength⟩ := run_registrations h hempty (2 ^ 31) le_rfl
  have hcount := hwf.length_records
  have happend : registrations (2 ^ 31 + 1) = registrations (2 ^ 31)
      ++ [(Env.ample default, .addAlloc (UInt64.ofNat (2 ^ 31)) 0 0 0)] := by
    rw [registrations, List.range_succ, List.map_append]
    rfl
  rcases granuleDiagAddAlloc_cases hwf (Env.ample default) (UInt64.ofNat (2 ^ 31)) 0 0 0 default with
    ⟨d'', -, hwf'', -, -, hrecords, -⟩ | ⟨hfails, -⟩ | ⟨hfull, hadd⟩
  · have hle := hwf''.count_le_two_pow
    rw [← hwf''.length_records, hrecords, List.length_append, List.length_singleton] at hle
    omega
  · cases hfails
  · refine ⟨os ++ [-1], _, ?_, hwf.lost hfull⟩
    rw [happend]
    exact run_append_eq_ok.mpr ⟨os, d', [-1], hrun, run_singleton_eq_ok.mpr ⟨-1, hadd, rfl⟩, rfl⟩

/-- After `2 ^ 31 + 1` registrations the scan reads the array that was freed. -/
theorem markFreed_not_plain :
    ¬∀ (env : Env) (id : GranuleId) (t : Timespec) (d d' : GranuleDiag)
      (ops : List (Env × DiagOp)) (os : List Int), granuleDiagCreate env id t = some d →
      run GranuleDiag.step d ops = .ok (os, d') → d'.LiveOnce → d'.ScansPlainly := by
  intro h
  obtain ⟨d, hcreate⟩ := granuleDiagCreate_of_plentiful (Env.plentiful_ample default) 0 default
  obtain ⟨hwf, -, -, hempty⟩ := granuleDiagCreate_spec hcreate
  obtain ⟨os, d', hrun, hlost⟩ := run_registrations_lost hwf hempty
  have honce : d'.LiveOnce := by
    rw [GranuleDiag.LiveOnce, GranuleDiag.live, GranuleDiag.records, hlost.allocs]
    simp
  exact hlost.not_scansPlainly (h _ 0 default d d' _ os hcreate hrun honce)

/-- An allocation id that was freed is live again: the scan skips the freed record. -/
theorem markFreed_plain_reused :
    ∃ d os d', granuleDiagCreate (Env.ample default) 0 default = some d ∧
      run GranuleDiag.step d ([.addAlloc 7 0 0 0, .markFreed 7, .addAlloc 8 0 0 0,
        .addAlloc 7 0 0 0].map fun op => (Env.ample default, op)) = .ok (os, d') ∧
      d'.plainScan 7 = some 2 ∧ d'.ScansPlainly := by
  have hcreate : granuleDiagCreate (Env.ample default) 0 default = some _ := rfl
  obtain ⟨⟨os, d'⟩, hrun, hstate⟩ := exists_of_okAnd (show okAnd
    (run GranuleDiag.step ((granuleDiagCreate (Env.ample default) 0 default).get rfl)
      ([.addAlloc 7 0 0 0, .markFreed 7, .addAlloc 8 0 0 0, .addAlloc 7 0 0 0].map
        fun op => (Env.ample default, op)))
    (fun r => (r.2.live.map AllocRecord.allocId).Nodup ∧ r.2.allocs ≠ none ∧
      r.2.plainScan 7 = some 2) = true by decide)
  obtain ⟨honce, hkept, hscan⟩ := of_decide_eq_true hstate
  exact ⟨_, os, d', hcreate, hrun, hscan, (markFreed_plain_iff hcreate hrun honce).mpr hkept⟩

/-! ### Frees in registration order -/

/-- Allocations are registered once and freed in registration order. -/
def DiagOp.InOrder (d : GranuleDiag) (i : Env × DiagOp) : Prop :=
  match i.2 with
  | .addAlloc a _ _ _ => ∀ r ∈ d.records, r.allocId ≠ a
  | .markFreed a => d.live.head?.map AllocRecord.allocId = some a

instance (d : GranuleDiag) : ∀ i, Decidable (DiagOp.InOrder d i)
  | (_, .addAlloc a _ _ _) => inferInstanceAs (Decidable (∀ r ∈ d.records, r.allocId ≠ a))
  | (_, .markFreed a) =>
    inferInstanceAs (Decidable (d.live.head?.map AllocRecord.allocId = some a))

/-- The index of the oldest record that is not freed. -/
def GranuleDiag.oldest (d : GranuleDiag) : Option ℕ :=
  d.records.findIdx? fun r => !r.freed

/-- The hint is the index of the oldest record that is not freed, and the scan looks there first. -/
structure GranuleDiag.Hinted (d : GranuleDiag) : Prop where
  kept : d.allocs ≠ none
  hint : ∀ i, d.oldest = some i → d.lastFreedIndex.toNat = i ∧
    umod (d.lastFreedIndex + UInt32.ofNat 0) d.allocCount = .ok d.lastFreedIndex

/-- The calls that keep the hint right: a record is added to an empty array, or behind one that is
not freed, unless the array cannot grow. -/
def GranuleDiag.KeepsHint (d : GranuleDiag) (i : Env × DiagOp) : Prop :=
  match i.2 with
  | .addAlloc _ _ _ _ => ¬d.Saturated ∧ (d.records = [] ∨ d.live ≠ [] ∨
      (d.allocCount ≥ d.allocCapacity ∧ i.1.succeeds .diagAllocsRealloc = false))
  | .markFreed _ => True

instance (d : GranuleDiag) : ∀ i, Decidable (d.KeepsHint i)
  | (_, .addAlloc _ _ _ _) => inferInstanceAs (Decidable (_ ∧ (_ ∨ _ ∨ _)))
  | (_, .markFreed _) => isTrue trivial

/-- The records are a queue: the first `k` are freed and the others are not. -/
structure GranuleDiag.Queued (d : GranuleDiag) (k : ℕ) : Prop where
  wf : d.WF
  ids : (d.records.map AllocRecord.allocId).Nodup
  le : k ≤ d.records.length
  freed_iff : ∀ i r, d.records[i]? = some r → (r.freed = true ↔ i < k)

namespace GranuleDiag

variable {d d' : GranuleDiag} {k : ℕ} {env : Env} {r : Int}

theorem Queued.liveOnce (h : d.Queued k) : d.LiveOnce :=
  h.ids.sublist (List.filter_sublist.map _)

/-- The oldest record is the one behind those that are freed. -/
theorem Queued.oldest_eq (h : d.Queued k) :
    d.oldest = if k < d.records.length then some k else none := by
  split_ifs with hlt
  · refine List.findIdx?_eq_some_iff_getElem.mpr ⟨hlt, ?_, ?_⟩
    · have hiff := h.freed_iff k _ (List.getElem?_eq_getElem hlt)
      have hnot : ¬d.records[k].freed = true := fun hfreed => absurd (hiff.mp hfreed) (Nat.lt_irrefl k)
      simpa using hnot
    · intro j hj
      have hfreed := (h.freed_iff j _ (List.getElem?_eq_getElem (hj.trans hlt))).mpr hj
      rw [hfreed]
      decide
  · refine List.findIdx?_eq_none_iff.mpr ?_
    intro x hx
    obtain ⟨j, hj, rfl⟩ := List.getElem_of_mem hx
    have hfreed := (h.freed_iff j _ (List.getElem?_eq_getElem hj)).mpr (by omega)
    rw [hfreed]
    rfl

theorem Queued.live_eq_drop (h : d.Queued k) : d.live = d.records.drop k := by
  have hsplit : d.live = (d.records.take k ++ d.records.drop k).filter fun r => !r.freed := by
    rw [List.take_append_drop]
    rfl
  have htake : (d.records.take k).filter (fun r => !r.freed) = [] := by
    refine List.filter_eq_nil_iff.mpr ?_
    intro x hx
    obtain ⟨j, hj, hget⟩ := List.mem_take_iff_getElem.mp hx
    have hfreed := (h.freed_iff j x (by rw [← hget]; exact List.getElem?_eq_getElem _)).mpr (by omega)
    rw [hfreed]
    decide
  have hdrop : (d.records.drop k).filter (fun r => !r.freed) = d.records.drop k := by
    refine List.filter_eq_self.mpr ?_
    intro x hx
    obtain ⟨j, hj, hget⟩ := List.mem_drop_iff_getElem.mp hx
    have hiff := h.freed_iff (k + j) x (by rw [← hget]; exact List.getElem?_eq_getElem _)
    have hnot : ¬x.freed = true := fun hfreed => by
      have := hiff.mp hfreed
      omega
    simpa using hnot
  rw [hsplit, List.filter_append, htake, hdrop, List.nil_append]

theorem Queued.live_eq_nil_iff (h : d.Queued k) : d.live = [] ↔ k = d.records.length := by
  have hle := h.le
  rw [h.live_eq_drop, List.drop_eq_nil_iff]
  omega

/-- The hint is right exactly when it is the first index behind the freed records, if any record is
left. -/
theorem Queued.hinted_iff (h : d.Queued k) :
    d.Hinted ↔ (k < d.records.length → d.lastFreedIndex.toNat = k) := by
  constructor
  · intro hhint hlt
    exact (hhint.hint k (by rw [h.oldest_eq, if_pos hlt])).1
  · intro hk
    refine ⟨h.wf.allocs_ne_none, ?_⟩
    intro i hi
    rw [h.oldest_eq] at hi
    split_ifs at hi with hlt
    cases hi
    have hcount := h.wf.length_records
    obtain ⟨j, hmod, hval⟩ := h.wf.scanIndex (show 0 < d.allocCount.toNat by omega)
    have hj : j = d.lastFreedIndex := by
      apply UInt32.toNat_inj.mp
      rw [hval, Nat.add_zero, hk hlt]
      exact Nat.mod_eq_of_lt (by omega)
    rw [hj] at hmod
    exact ⟨hk hlt, hmod⟩

theorem Lost.not_hinted (h : d.Lost) : ¬d.Hinted :=
  fun hhint => hhint.kept h.allocs

/-! ### One call on a queue -/

/-- The growth step does not move the hint, and it only fails on a full array. -/
theorem growAllocs_hint (h : growAllocs env d = .ok (r, d')) :
    d'.lastFreedIndex = d.lastFreedIndex ∧ (r ≠ 0 → d.allocCount ≥ d.allocCapacity) := by
  unfold growAllocs at h
  split_ifs at h with hfull
  · obtain ⟨block, -, h⟩ := bind_eq_ok.mp h
    refine ⟨?_, fun _ => hfull⟩
    unfold realloc at h
    split_ifs at h
    · cases h
      rfl
    · obtain ⟨zeroed, -, h⟩ := bind_eq_ok.mp h
      cases h
      rfl
    · cases h
      rfl
  · cases h
    exact ⟨rfl, fun hr => absurd rfl hr⟩

/-- A registration does not move the hint, and it only fails on a full array. -/
theorem granuleDiagAddAlloc_hint {a : AllocId} {size : UInt64} {file : FilePtr} {line : UInt32}
    {t : Timespec} (h : granuleDiagAddAlloc env d a size file line t = .ok (r, d')) :
    d'.lastFreedIndex = d.lastFreedIndex ∧ (r ≠ 0 → d.allocCount ≥ d.allocCapacity) := by
  obtain ⟨⟨grown, d₁⟩, hgrow, h⟩ := bind_eq_ok.mp h
  obtain ⟨hhint, hfull⟩ := growAllocs_hint hgrow
  dsimp only at h
  split_ifs at h with hfailed
  · cases h
    exact ⟨hhint, hfull⟩
  · obtain ⟨block, -, h⟩ := bind_eq_ok.mp h
    obtain ⟨block', -, h⟩ := bind_eq_ok.mp h
    cases h
    exact ⟨hhint, fun hr => absurd rfl hr⟩

/-- A registration that needs memory and does not get it fails. -/
theorem WF.addAlloc_of_failed (h : d.WF) (hsat : ¬d.Saturated)
    (hfull : d.allocCount ≥ d.allocCapacity) (henv : env.succeeds .diagAllocsRealloc = false)
    (a : AllocId) (size : UInt64) (file : FilePtr) (line : UInt32) (t : Timespec) :
    granuleDiagAddAlloc env d a size file line t = .ok (-1, d) := by
  obtain ⟨xs, hxs, -⟩ := h.block
  have hne : d.allocCapacity * 2 ≠ 0 := fun hzero => hsat ⟨hfull, hzero⟩
  have hgrow : growAllocs env d = .ok (-1, d) := by
    rw [growAllocs, if_pos hfull, hxs, deref, ok_bind, realloc, if_neg hne, henv]
    rfl
  rw [granuleDiagAddAlloc, hgrow]
  rfl

/-- A new record joins the end of the queue. -/
theorem Queued.push (h : d.Queued k) (hwf : d'.WF) {x : AllocRecord} (hnew : x.freed = false)
    (hfresh : ∀ y ∈ d.records, y.allocId ≠ x.allocId) (hrecords : d'.records = d.records ++ [x]) :
    d'.Queued k where
  wf := hwf
  ids := by
    rw [hrecords, List.map_append, List.map_singleton]
    refine List.nodup_append.mpr ⟨h.ids, List.pairwise_singleton _ _, ?_⟩
    intro a ha b hb
    obtain ⟨y, hy, rfl⟩ := List.mem_map.mp ha
    rw [List.mem_singleton.mp hb]
    exact hfresh y hy
  le := by
    rw [hrecords, List.length_append]
    exact h.le.trans (Nat.le_add_right _ _)
  freed_iff i y hget := by
    have hle := h.le
    rw [hrecords] at hget
    rcases Nat.lt_or_ge i d.records.length with hlt | hge
    · rw [List.getElem?_append_left hlt] at hget
      exact h.freed_iff i y hget
    · -- the new record is not freed and stands behind the freed ones
      rw [List.getElem?_append_right hge, List.getElem?_singleton] at hget
      split_ifs at hget with hzero
      cases hget
      rw [hnew]
      exact iff_of_false (by decide) (by omega)

/-- The record at the front of the queue leaves it. -/
theorem Queued.pop (h : d.Queued k) {x : AllocRecord} (hx : d.records[k]? = some x)
    (hlive : x.freed = false) (t : Timespec) : (d.freeAt k x t).Queued (k + 1) where
  wf := h.wf.freeAt hx hlive t
  ids := by
    obtain ⟨hlt, hget⟩ := List.getElem?_eq_some_iff.mp hx
    have hmap : (x.free t).allocId = d.records[k].allocId := by
      rw [hget]
      rfl
    rw [records_freeAt, List.map_set, hmap, ← List.map_set, List.set_getElem_self]
    exact h.ids
  le := by
    rw [records_freeAt, List.length_set]
    exact (List.getElem?_eq_some_iff.mp hx).1
  freed_iff i y hget := by
    rw [records_freeAt] at hget
    by_cases hik : k = i
    · subst hik
      rw [List.getElem?_set_self (List.getElem?_eq_some_iff.mp hx).1, Option.some.injEq] at hget
      rw [← hget]
      exact iff_of_true rfl (Nat.lt_succ_self k)
    · rw [List.getElem?_set_ne hik] at hget
      rw [h.freed_iff i y hget]
      omega

/-- The oldest record that is live is the front of the queue. -/
theorem Queued.front (h : d.Queued k) {x : AllocRecord} (hx : d.live.head? = some x) :
    d.records[k]? = some x ∧ x.freed = false := by
  rw [h.live_eq_drop, List.head?_drop] at hx
  refine ⟨hx, ?_⟩
  have hnot : ¬x.freed = true := fun hfreed => Nat.lt_irrefl k ((h.freed_iff k x hx).mp hfreed)
  simpa using hnot

/-- A registration leaves a hint that is right so exactly when it is one of those that keep the
hint. -/
theorem Queued.addAlloc (h : d.Queued k) {a : AllocId} {size : UInt64}
    {file : FilePtr} {line : UInt32} (hfresh : ∀ y ∈ d.records, y.allocId ≠ a)
    (hstep : d.step (env, .addAlloc a size file line) = .ok (r, d')) :
    (d'.Queued k ∨ d'.Lost) ∧
      (d.Hinted → (d'.Hinted ↔ d.KeepsHint (env, .addAlloc a size file line))) := by
  obtain ⟨hunmoved, hfail⟩ := granuleDiagAddAlloc_hint hstep
  obtain ⟨-, hout⟩ := granuleDiagAddAlloc_outcome hstep
  rcases granuleDiagAddAlloc_cases h.wf env a size file line env.now with
    ⟨d₁, hadd, hwf, -, -, hrecords, -⟩ | ⟨henv, hadd⟩ | ⟨hcount, hadd⟩
  · -- the record is added: the hint has to be at the front of the longer queue
    obtain ⟨rfl, rfl⟩ : (0 : Int) = r ∧ d₁ = d' := by
      rw [GranuleDiag.step, hadd] at hstep
      simpa using hstep
    have hqueued : d₁.Queued k := h.push hwf rfl hfresh hrecords
    refine ⟨Or.inl hqueued, ?_⟩
    intro hhint
    have hsat : ¬d.Saturated := by
      rcases hout with ⟨-, hsat⟩ | ⟨hr, -⟩ | ⟨hr, -⟩
      · exact hsat
      · exact absurd hr (by decide)
      · exact absurd hr (by decide)
    have hroom : ¬(d.allocCount ≥ d.allocCapacity ∧ env.succeeds .diagAllocsRealloc = false) := by
      rintro ⟨hfull, henv⟩
      rw [h.wf.addAlloc_of_failed hsat hfull henv] at hadd
      cases hadd
    have hkeeps : d.KeepsHint (env, .addAlloc a size file line) ↔ d.records = [] ∨ d.live ≠ [] := by
      rw [KeepsHint]
      tauto
    have hlength : d₁.records.length = d.records.length + 1 := by
      rw [hrecords, List.length_append, List.length_singleton]
    have hle := h.le
    have hcurrent := h.hinted_iff.mp hhint
    have hcount := h.wf.length_records
    rw [hqueued.hinted_iff, hunmoved, hkeeps, ne_eq, h.live_eq_nil_iff, ← List.length_eq_zero_iff]
    rcases h.wf.hint with hbound | hzero
    · omega
    · have hzero' : d.lastFreedIndex.toNat = 0 := by
        rw [hzero]
        rfl
      omega
  · -- no memory: nothing changes
    obtain ⟨rfl, rfl⟩ : (-1 : Int) = r ∧ d = d' := by
      rw [GranuleDiag.step, hadd] at hstep
      simpa using hstep
    have hsat : ¬d.Saturated := by
      rcases hout with ⟨-, hsat⟩ | ⟨-, hsat, -⟩ | ⟨-, -, hne⟩
      · exact hsat
      · exact hsat
      · exact absurd rfl hne
    refine ⟨Or.inl h, ?_⟩
    intro hhint
    exact iff_of_true hhint ⟨hsat, Or.inr (Or.inr ⟨hfail (by decide), henv⟩)⟩
  · -- the growth loses the array
    have hlost : d'.Lost := by
      rw [GranuleDiag.step, hadd] at hstep
      cases hstep
      exact h.wf.lost hcount
    have hsat := (saturated_iff h.wf).mpr hcount
    refine ⟨Or.inr hlost, ?_⟩
    intro _
    exact iff_of_false hlost.not_hinted fun hkeeps => hkeeps.1 hsat

/-- A free at the front of the queue moves the hint to the next record. -/
theorem Queued.markFreed (h : d.Queued k) {a : AllocId} {x : AllocRecord}
    (hx : d.live.head? = some x) (hid : x.allocId = a)
    (hstep : d.step (env, .markFreed a) = .ok (r, d')) : d'.Queued (k + 1) ∧ d'.Hinted := by
  obtain ⟨hget, hlive⟩ := h.front hx
  have hlt : k < d.records.length := (List.getElem?_eq_some_iff.mp hget).1
  rw [GranuleDiag.step, h.wf.markFreed_of_matches h.liveOnce hget ⟨hid, hlive⟩] at hstep
  cases hstep
  have hqueued := h.pop hget hlive env.now
  refine ⟨hqueued, hqueued.hinted_iff.mpr ?_⟩
  intro hnext
  rw [records_freeAt, List.length_set, h.wf.length_records] at hnext
  show (UInt32.ofNat ((k + 1) % d.allocCount.toNat)).toNat = k + 1
  rw [Nat.mod_eq_of_lt hnext]
  exact UInt32.toNat_ofNat_of_lt' (hnext.trans d.allocCount.toNat_lt)

end GranuleDiag

/-- The states that in-order calls lead to. -/
def GranuleDiag.QueuedOrLost (d : GranuleDiag) : Prop :=
  (∃ k, d.Queued k) ∨ d.Lost

/-- An in-order call leads to a queue again, or loses the array, and tells exactly whether the hint
stays right. -/
theorem GranuleDiag.QueuedOrLost.step {d d' : GranuleDiag} {i : Env × DiagOp} {r : Int}
    (h : d.QueuedOrLost) (horder : DiagOp.InOrder d i) (hstep : d.step i = .ok (r, d')) :
    d'.QueuedOrLost ∧ (d.Hinted → (d'.Hinted ↔ d.KeepsHint i)) := by
  obtain ⟨env, op⟩ := i
  rcases h with ⟨k, hqueued⟩ | hlost
  · cases op with
    | addAlloc a size file line =>
      obtain ⟨hnext, hexact⟩ := hqueued.addAlloc horder hstep
      exact ⟨hnext.imp (fun hq => ⟨k, hq⟩) id, hexact⟩
    | markFreed a =>
      obtain ⟨x, hx, hid⟩ := Option.map_eq_some_iff.mp horder
      obtain ⟨hnext, hhint⟩ := hqueued.markFreed hx hid hstep
      exact ⟨Or.inl ⟨k + 1, hnext⟩, fun _ => iff_of_true hhint trivial⟩
  · rw [hlost.step] at hstep
    cases hstep

theorem granuleDiagCreate_queued {env : Env} {id : GranuleId} {t : Timespec} {d : GranuleDiag}
    (hcreate : granuleDiagCreate env id t = some d) : d.Queued 0 := by
  obtain ⟨hwf, -, -, hempty⟩ := granuleDiagCreate_spec hcreate
  refine ⟨hwf, ?_, Nat.zero_le _, ?_⟩
  · rw [hempty]
    exact List.nodup_nil
  · intro i r hget
    rw [hempty] at hget
    cases hget

/-- **The hint follows in-order frees** for as long as every call keeps it right, and no longer. -/
theorem free_hint_iff {env : Env} {id : GranuleId} {t : Timespec} {d d' : GranuleDiag}
    {ops : List (Env × DiagOp)} {os : List Int} (hcreate : granuleDiagCreate env id t = some d)
    (horder : Meets GranuleDiag.step DiagOp.InOrder d ops)
    (hrun : run GranuleDiag.step d ops = .ok (os, d')) :
    (∀ js p ot, js <+: ops → run GranuleDiag.step d js = .ok (ot, p) → p.Hinted) ↔
      Meets GranuleDiag.step GranuleDiag.KeepsHint d ops := by
  have hqueued := granuleDiagCreate_queued hcreate
  have hempty : d.records.length = 0 := by
    rw [(granuleDiagCreate_spec hcreate).2.2.2]
    rfl
  have hhint : d.Hinted := hqueued.hinted_iff.mpr fun hlt => by omega
  have hstart : d.QueuedOrLost := Or.inl ⟨0, hqueued⟩
  refine invariant_iff_meets ?_ ?_ hstart hhint horder hrun
  · intro d₁ i r d₂ haux hadm hstep
    exact (haux.step hadm hstep).1
  · intro d₁ i r d₂ haux hinv hadm hstep
    exact (haux.step hadm hstep).2 hinv

/-- A record added when all the others are freed: the hint points at a freed one. -/
theorem free_hint_behind :
    ¬∀ (env : Env) (id : GranuleId) (t : Timespec) (d d' : GranuleDiag)
      (ops : List (Env × DiagOp)) (os : List Int), granuleDiagCreate env id t = some d →
      Meets GranuleDiag.step DiagOp.InOrder d ops → run GranuleDiag.step d ops = .ok (os, d') →
      ∀ i, d'.oldest = some i → d'.lastFreedIndex.toNat = i := by
  intro h
  have hcreate : granuleDiagCreate (Env.ample default) 0 default = some _ := rfl
  obtain ⟨⟨os, d'⟩, hrun, hstate⟩ := exists_of_okAnd (show okAnd
    (run GranuleDiag.step ((granuleDiagCreate (Env.ample default) 0 default).get rfl)
      ([.addAlloc 7 0 0 0, .markFreed 7, .addAlloc 8 0 0 0].map fun op => (Env.ample default, op)))
    (fun r => r.2.oldest = some 1 ∧ r.2.lastFreedIndex = 0) = true by decide)
  obtain ⟨holdest, hhint⟩ := of_decide_eq_true hstate
  have hone := h _ 0 default _ d' _ os hcreate (by decide) hrun 1 holdest
  rw [hhint] at hone
  exact absurd hone (by decide)

/-- Records are added and freed in turn, never the last one. -/
theorem free_hint_followed :
    ∃ d os d', granuleDiagCreate (Env.ample default) 0 default = some d ∧
      run GranuleDiag.step d ([.addAlloc 7 0 0 0, .addAlloc 8 0 0 0, .markFreed 7,
        .addAlloc 9 0 0 0, .markFreed 8, .markFreed 9].map fun op => (Env.ample default, op))
        = .ok (os, d') ∧
      ∀ js p ot, js <+: [DiagOp.addAlloc 7 0 0 0, .addAlloc 8 0 0 0, .markFreed 7,
        .addAlloc 9 0 0 0, .markFreed 8, .markFreed 9].map (fun op => (Env.ample default, op)) →
        run GranuleDiag.step d js = .ok (ot, p) → p.Hinted := by
  have hcreate : granuleDiagCreate (Env.ample default) 0 default = some _ := rfl
  obtain ⟨⟨os, d'⟩, hrun, -⟩ := exists_of_okAnd (show okAnd
    (run GranuleDiag.step ((granuleDiagCreate (Env.ample default) 0 default).get rfl)
      ([.addAlloc 7 0 0 0, .addAlloc 8 0 0 0, .markFreed 7, .addAlloc 9 0 0 0, .markFreed 8,
        .markFreed 9].map fun op => (Env.ample default, op)))
    (fun _ => true) = true by decide)
  exact ⟨_, os, d', hcreate, hrun,
    (free_hint_iff hcreate (by decide) hrun).mpr (by decide)⟩

end Drainprof
