import Mathlib.Logic.Function.Basic
import Drainprof.Equiv.LiveMap

/-!
# Which slots the probes reach

A probe index is the sum of the home slot and the probe number, computed in 32 bits and then reduced
modulo the capacity.  As long as no sum wraps, the probes for a granule reach every slot once, and
an `open` of an absent granule fails in a full array only (`probes_cover_iff`).

When a sum wraps, which takes a capacity above `2 ^ 31`, the probes start again at slot `0` and miss
the slot before the home slot.  The hash reaches every value (`exists_hash_eq`), so the other slots
can be filled while that one is free, and the `open` then fails (`open_full_iff`).
-/

namespace Drainprof

open Probing Transition

/-- The probes for a granule reach every slot once, and when it is absent an `open` of it fails in a
full array only. -/
structure ProbesCover (capacity : UInt32) (id : GranuleId) : Prop where
  perm : (probePath capacity id).Perm (List.range capacity.toNat)
  full : ∀ arr : SlotArray, arr.capacity = capacity → (∀ i, (arr.slot i).key ≠ some id) →
    (slotArrayOpen arr id).1 = -1 → ∀ i, (arr.slot i).occupied = true

/-- An `open` that fails has run out of probes. -/
theorem search_of_open_fails {arr : SlotArray} {id : GranuleId}
    (h : (slotArrayOpen arr id).1 = -1) : arr.search id = .full := by
  rcases slotArrayOpen_cases arr id with ⟨i, -, hopen⟩ | ⟨i, -, hopen⟩ | ⟨hfull, -⟩
  · rw [hopen] at h
    cases h
  · rw [hopen] at h
    cases h
  · exact hfull

/-- **The probes for a granule cover the table** exactly when its last probe does not wrap before it
is reduced. -/
theorem probes_cover_iff {capacity : UInt32} (hcap : 0 < capacity.toNat) (id : GranuleId) :
    ProbesCover capacity id ↔
      (hashGranuleId id % capacity).toNat + capacity.toNat ≤ 2 ^ 32 := by
  rw [← probePath_perm_iff hcap id]
  constructor
  · intro hcover
    exact hcover.perm
  · intro hperm
    refine ⟨hperm, ?_⟩
    rintro arr rfl - hfails i
    apply SlotArray.occupied_of_full (search_of_open_fails hfails)
    exact hperm.mem_iff.mpr (List.mem_range.mpr i.isLt)

/-- The home slot of granule `1` in the largest table is so far on that its probes wrap. -/
theorem probes_not_cover :
    ¬∀ (capacity : UInt32) (id : GranuleId), 0 < capacity.toNat → ProbesCover capacity id := by
  intro h
  have hcover := h 0xFFFFFFFF 1 (by decide)
  have hfit := (probePath_perm_iff (by decide) 1).mp hcover.perm
  exact absurd hfit (by decide)

theorem probes_cover_five : 0 < (3 : UInt32).toNat ∧ ProbesCover 3 5 :=
  ⟨by decide, (probes_cover_iff (by decide) 5).mpr (by decide)⟩

/-! ### The hash reaches every value -/

/-- The 64-bit value of which the hash keeps the low half. -/
def mixGranuleId (id : GranuleId) : UInt64 :=
  let id := id ^^^ (id >>> 33)
  let id := id * 0xff51afd7ed558ccd
  let id := id ^^^ (id >>> 33)
  let id := id * 0xc4ceb9fe1a85ec53
  id ^^^ (id >>> 33)

theorem hashGranuleId_eq (id : GranuleId) : hashGranuleId id = (mixGranuleId id).toUInt32 := rfl

/-- A shift by more than half the width is undone by doing it again. -/
theorem xorShift_involutive : Function.Involutive fun x : UInt64 => x ^^^ (x >>> 33) := by
  intro x
  apply UInt64.toBitVec_inj.mp
  have hcount : (UInt64.toBitVec 33 % 64).toNat = 33 := by decide
  have hzero : x.toBitVec >>> (33 + 33) = 0#64 := BitVec.ushiftRight_eq_zero (by decide)
  simp only [UInt64.toBitVec_xor, UInt64.toBitVec_shiftRight, BitVec.ushiftRight_eq', hcount]
  rw [BitVec.ushiftRight_xor_distrib, ← BitVec.shiftRight_add, hzero, BitVec.xor_zero,
    BitVec.xor_assoc, BitVec.xor_self, BitVec.xor_zero]

/-- Multiplication by a constant with an inverse is undone by the inverse. -/
theorem mul_surjective {c c' : UInt64} (h : c' * c = 1) :
    Function.Surjective fun x : UInt64 => x * c := by
  intro y
  refine ⟨y * c', ?_⟩
  dsimp only
  rw [UInt64.mul_assoc, h, UInt64.mul_one]

theorem mixGranuleId_surjective : Function.Surjective mixGranuleId := by
  have hshift := xorShift_involutive.surjective
  have hfirst := @mul_surjective 0xff51afd7ed558ccd 0x4f74430c22a54005 (by decide)
  have hsecond := @mul_surjective 0xc4ceb9fe1a85ec53 0x9cb4b2f8129337db (by decide)
  exact hshift.comp (hsecond.comp (hshift.comp (hfirst.comp hshift)))

/-- Every hash value is that of a granule other than a given one. -/
theorem exists_hash_eq (h : UInt32) (id : GranuleId) : ∃ k, hashGranuleId k = h ∧ k ≠ id := by
  -- two values of the mix with the same low half
  have hlow := h.toNat_lt
  obtain ⟨k, hk⟩ := mixGranuleId_surjective h.toUInt64
  obtain ⟨k', hk'⟩ := mixGranuleId_surjective (h.toUInt64 + 0x100000000)
  have hhash : hashGranuleId k = h := by
    rw [hashGranuleId_eq, hk]
    apply UInt32.toNat_inj.mp
    rw [UInt64.toNat_toUInt32, UInt32.toNat_toUInt64]
    omega
  have hhash' : hashGranuleId k' = h := by
    rw [hashGranuleId_eq, hk']
    apply UInt32.toNat_inj.mp
    rw [UInt64.toNat_toUInt32, UInt64.toNat_add, UInt32.toNat_toUInt64]
    have hhigh : (0x100000000 : UInt64).toNat = 2 ^ 32 := rfl
    omega
  by_cases hid : k = id
  · refine ⟨k', hhash', ?_⟩
    rintro rfl
    rw [hid, hk', UInt64.add_eq_left] at hk
    exact absurd hk (by decide)
  · exact ⟨k, hhash, hid⟩

/-! ### A full path in a table with room -/

/-- The slots below `m` except one hold the granules given for them, and the others are free. -/
structure SlotArray.FilledBut (arr : SlotArray) (capacity : UInt32) (ids : ℕ → GranuleId)
    (gap m : ℕ) : Prop where
  capacity_eq : arr.capacity = capacity
  taken : ∀ j < m, j ≠ gap → arr.holds j = some (ids j)
  gap : arr.holds gap = none
  free : ∀ j, m ≤ j → arr.holds j = none

/-- An `open` of a granule whose home slot is free claims it. -/
theorem slotArrayOpen_of_home_free {arr : SlotArray} {id : GranuleId} {i : Fin arr.capacity.toNat}
    (hhome : (hashGranuleId id % arr.capacity).toNat = i.val) (hfree : arr.holds i = none) :
    slotArrayOpen arr id = (0, arr.setSlot i ⟨0, true, id⟩) := by
  have hsearch : arr.search id = .empty i.val := by
    have hfirst : probeIndex arr.capacity id 0 = i.val := by
      rw [probeIndex_eq _ _ (by decide), hhome, Nat.add_zero,
        Nat.mod_eq_of_lt (i.isLt.trans arr.capacity.toNat_lt), Nat.mod_eq_of_lt i.isLt]
    have hpath : probePath arr.capacity id
        = i.val :: (List.range' 1 (arr.capacity.toNat - 1)).map (probeIndex arr.capacity id) := by
      have hrange : List.range arr.capacity.toNat = 0 :: List.range' 1 (arr.capacity.toNat - 1) := by
        obtain ⟨n, hn⟩ := Nat.exists_eq_add_of_lt arr.capacity_pos
        rw [hn, List.range_eq_range', List.range'_succ]
        simp
      rw [probePath, hrange, List.map_cons, hfirst]
    rw [SlotArray.search, hpath]
    exact locate_cons_of_none hfree
  rcases slotArrayOpen_cases arr id with ⟨j, hstop, -⟩ | ⟨j, hstop, hopen⟩ | ⟨hstop, -⟩
  · rw [hsearch] at hstop
    cases hstop
  · rw [hsearch, Stop.empty.injEq] at hstop
    rw [hopen, Fin.ext hstop]
  · rw [hsearch] at hstop
    cases hstop

/-- The next slot is filled, unless it is to stay free. -/
theorem SlotArray.FilledBut.fill {arr : SlotArray} {capacity : UInt32} {ids : ℕ → GranuleId}
    {gap m : ℕ} (h : arr.FilledBut capacity ids gap m) (hm : m < capacity.toNat)
    (hhome : (hashGranuleId (ids m) % capacity).toNat = m) :
    ∃ os arr', run SlotArray.step arr (if m = gap then [] else [.open_ (ids m)]) = .ok (os, arr') ∧
      arr'.FilledBut capacity ids gap (m + 1) := by
  obtain ⟨rfl, htaken, hgap, hfree⟩ := h
  split_ifs with hskip
  · refine ⟨[], arr, rfl, rfl, ?_, hgap, fun j hj => hfree j (by omega)⟩
    intro j hj hne
    exact htaken j (by omega) hne
  · have hopen := @slotArrayOpen_of_home_free arr (ids m) ⟨m, hm⟩ hhome (hfree m le_rfl)
    have hholds : (arr.setSlot ⟨m, hm⟩ ⟨0, true, ids m⟩).holds
        = Function.update arr.holds m (some (ids m)) := arr.holds_setSlot ⟨m, hm⟩ _
    refine ⟨_, arr.setSlot ⟨m, hm⟩ ⟨0, true, ids m⟩, run_singleton_eq_ok.mpr ⟨.int 0, ?_, rfl⟩, rfl,
      ?_, ?_, ?_⟩
    · rw [SlotArray.step, hopen]
    · intro j hj hne
      rw [hholds]
      by_cases hjm : j = m
      · rw [hjm, Function.update_self]
      · rw [Function.update_of_ne hjm]
        exact htaken j (by omega) hne
    · rw [hholds, Function.update_of_ne (Ne.symm hskip)]
      exact hgap
    · intro j hj
      rw [hholds, Function.update_of_ne (by omega)]
      exact hfree j (by omega)

/-- A new array has free slots only. -/
theorem slotArrayCreate_filledBut {env : Env} {capacity : UInt32} {arr : SlotArray}
    (h : slotArrayCreate env capacity = some arr) (ids : ℕ → GranuleId) (gap : ℕ) :
    arr.FilledBut capacity ids gap 0 where
  capacity_eq := (slotArrayCreate_slots h).1
  taken j hj := absurd hj (Nat.not_lt_zero j)
  gap := slotArrayCreate_holds h gap
  free j _ := slotArrayCreate_holds h j

/-- When a probe wraps, the slot before the home slot can be free although every slot that is probed
is occupied. -/
theorem open_fails_with_room {env : Env} {capacity : UInt32} {arr₀ : SlotArray}
    (hcreate : slotArrayCreate env capacity = some arr₀) {id : GranuleId}
    (hwrap : 2 ^ 32 < (hashGranuleId id % capacity).toNat + capacity.toNat) :
    ∃ ops os arr, run SlotArray.step arr₀ ops = .ok (os, arr) ∧
      (∀ i, (arr.slot i).key ≠ some id) ∧ (slotArrayOpen arr id).1 = -1 ∧
      ∃ i, (arr.slot i).occupied = false := by
  have hlt := capacity.toNat_lt
  have hcap : 0 < capacity.toNat := by
    rw [← (slotArrayCreate_slots hcreate).1]
    exact arr₀.capacity_pos
  have hhome := home_lt hcap id
  -- a granule for each slot, none of them `id`
  choose ids hids hne using fun k => exists_hash_eq (UInt32.ofNat k) id
  have hidsHome : ∀ k < capacity.toNat, (hashGranuleId (ids k) % capacity).toNat = k := by
    intro k hk
    rw [hids, UInt32.toNat_mod, UInt32.toNat_ofNat_of_lt' (hk.trans hlt), Nat.mod_eq_of_lt hk]
  let gap := (hashGranuleId id % capacity).toNat - 1
  obtain ⟨os, arr, hrun, hfilled⟩ := @exists_run_blocks _ _ _ _ SlotArray.step
    (fun m arr => arr.FilledBut capacity ids gap m)
    (fun m => if m = gap then [] else [.open_ (ids m)]) capacity.toNat
    (fun k hk arr harr => harr.fill hk (hidsHome k hk)) arr₀
    (slotArrayCreate_filledBut hcreate ids gap)
  obtain ⟨rfl, htaken, hgap, -⟩ := hfilled
  have hother : ∀ j < arr.capacity.toNat, j ≠ gap → ∃ k, arr.holds j = some k ∧ k ≠ id := by
    intro j hj hjgap
    exact ⟨ids j, htaken j hj hjgap, hne j⟩
  have hsearch : arr.search id = .full := by
    refine locate_eq_full ?_
    intro j hj
    obtain ⟨k, hk, rfl⟩ := List.mem_map.mp hj
    have hk' := List.mem_range.mp hk
    rw [probeIndex_eq _ _ (hk'.trans hlt)]
    apply hother
    · exact Nat.mod_lt _ hcap
    · exact Rotation.add_mod_mod_ne hhome hk' hlt hwrap
  refine ⟨_, os, arr, hrun, ?_, ?_, ⟨gap, by omega⟩, ?_⟩
  · intro i hi
    rw [← arr.holds_val] at hi
    by_cases higap : i.val = gap
    · rw [higap, hgap] at hi
      cases hi
    · obtain ⟨k, hk, hkid⟩ := hother i i.isLt higap
      rw [hi, Option.some.injEq] at hk
      exact hkid hk.symm
  · rcases slotArrayOpen_cases arr id with ⟨i, hstop, -⟩ | ⟨i, hstop, -⟩ | ⟨-, hopen⟩
    · rw [hsearch] at hstop
      cases hstop
    · rw [hsearch] at hstop
      cases hstop
    · rw [hopen]
  · apply GranuleSlot.key_eq_none_iff.mp
    rw [← arr.holds_val]
    exact hgap

/-- An `open` of an absent granule fails in a full array only, after every sequence of calls, exactly
when its probes do not wrap. -/
theorem open_full_iff {env : Env} {capacity : UInt32} {arr₀ : SlotArray}
    (hcreate : slotArrayCreate env capacity = some arr₀) (id : GranuleId) :
    (∀ ops os arr, run SlotArray.step arr₀ ops = .ok (os, arr) →
      (∀ i, (arr.slot i).key ≠ some id) → (slotArrayOpen arr id).1 = -1 →
        ∀ i, (arr.slot i).occupied = true) ↔
      (hashGranuleId id % capacity).toNat + capacity.toNat ≤ 2 ^ 32 := by
  have hcap₀ := (slotArrayCreate_slots hcreate).1
  constructor
  · intro hall
    by_contra hwrap
    obtain ⟨ops, os, arr, hrun, habsent, hfails, i, hfree⟩ :=
      open_fails_with_room hcreate (Nat.lt_of_not_le hwrap)
    have hocc := hall ops os arr hrun habsent hfails i
    rw [hfree] at hocc
    cases hocc
  · intro hfit ops os arr hrun _ hfails i
    have hcap : arr.capacity = capacity := by
      refine @run_invariant _ _ _ _ SlotArray.step (fun arr => arr.capacity = capacity)
        (fun _ => True) ?_ _ _ _ _ hcap₀ (fun _ _ => trivial) hrun
      intro s op o s' hs _ hstep
      exact (SlotArray.capacity_step hstep).trans hs
    rw [← hcap] at hfit
    apply SlotArray.occupied_of_full (search_of_open_fails hfails)
    have hperm := (probePath_perm_iff arr.capacity_pos id).mpr hfit
    exact hperm.mem_iff.mpr (List.mem_range.mpr i.isLt)

end Drainprof
