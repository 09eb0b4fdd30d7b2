import Drainprof.SlotArray
import Drainprof.Library.Run
import Drainprof.Library.Probing
import Drainprof.Library.Table
import Drainprof.Library.Rotation

/-!
# The slot array as an open-addressing table

`SlotArray.holds` and `SlotArray.entries` read a slot array as a table of keys and as a table of
entries, and `probePath` lists the slots a lookup visits.  The two probe loops of the source are
searches of that table (`findSlot_cases`, `slotArrayOpen_cases`).

The specification is `LiveMap`: a map of at most `capacity` granule ids to 32-bit counts.  The slot
array refines it as long as no `close` empties a slot on the probe path of another open granule and
no `open` of a new granule runs out of probes before the table is full (`SlotArray.StepOk`).  This
condition is exact (`slotArray_refines_iff`): after a `close` that violates it some granule that is
still open is no longer found.
-/

namespace Drainprof

open Probing Table Transition

/-! ### The table a slot array holds -/

/-- The granule a slot holds, if any. -/
def GranuleSlot.key (s : GranuleSlot) : Option GranuleId :=
  if s.occupied then some s.granuleId else none

/-- The granule a slot holds, if any, with its live count. -/
def GranuleSlot.entry (s : GranuleSlot) : Option (GranuleId × UInt32) :=
  if s.occupied then some (s.granuleId, s.liveCount) else none

@[simp] theorem GranuleSlot.key_free : GranuleSlot.free.key = none := rfl

theorem GranuleSlot.key_eq_map (s : GranuleSlot) : s.key = s.entry.map Prod.fst := by
  unfold GranuleSlot.key GranuleSlot.entry
  split_ifs <;> rfl

theorem GranuleSlot.key_eq_some_iff {s : GranuleSlot} {id : GranuleId} :
    s.key = some id ↔ s.occupied = true ∧ s.granuleId = id := by
  unfold GranuleSlot.key
  split_ifs with h <;> simp [h]

theorem GranuleSlot.key_eq_none_iff {s : GranuleSlot} : s.key = none ↔ s.occupied = false := by
  unfold GranuleSlot.key
  split_ifs with h <;> simp [h]

theorem GranuleSlot.isSome_entry (s : GranuleSlot) : s.entry.isSome = s.occupied := by
  unfold GranuleSlot.entry
  cases s.occupied <;> rfl

/-- An occupied slot's entry. -/
theorem GranuleSlot.entry_of_key {s : GranuleSlot} {id : GranuleId} (h : s.key = some id) :
    s.entry = some (id, s.liveCount) := by
  obtain ⟨hocc, rfl⟩ := GranuleSlot.key_eq_some_iff.mp h
  rw [GranuleSlot.entry, if_pos hocc]

namespace SlotArray

variable {arr : SlotArray} {i : Fin arr.capacity.toNat} {s : GranuleSlot}

/-- The granule each slot holds; nothing past the end of the array. -/
def holds (arr : SlotArray) (i : ℕ) : Option GranuleId :=
  arr.slots[i]?.bind GranuleSlot.key

/-- The entries of the array, slot by slot. -/
def entries (arr : SlotArray) : List (Option (GranuleId × UInt32)) :=
  arr.slots.map GranuleSlot.entry

theorem getElem?_slots (arr : SlotArray) (i : Fin arr.capacity.toNat) :
    arr.slots[i.val]? = some (arr.slot i) :=
  List.getElem?_eq_getElem _

theorem holds_val (arr : SlotArray) (i : Fin arr.capacity.toNat) :
    arr.holds i = (arr.slot i).key := by
  rw [holds, getElem?_slots, Option.bind_some]

theorem getElem?_entries (arr : SlotArray) (i : Fin arr.capacity.toNat) :
    arr.entries[i.val]? = some (arr.slot i).entry := by
  rw [entries, List.getElem?_map, getElem?_slots, Option.map_some]

theorem length_entries (arr : SlotArray) : arr.entries.length = arr.capacity.toNat := by
  rw [entries, List.length_map, arr.length_slots]

/-- A slot that holds a granule is inside the array. -/
theorem exists_of_holds {j : ℕ} {id : GranuleId} (h : arr.holds j = some id) :
    ∃ i : Fin arr.capacity.toNat, i.val = j ∧ (arr.slot i).key = some id := by
  rw [holds, Option.bind_eq_some_iff] at h
  obtain ⟨s, hs, hkey⟩ := h
  have hj : j < arr.capacity.toNat := by
    rw [← arr.length_slots]
    exact (List.getElem?_eq_some_iff.mp hs).1
  refine ⟨⟨j, hj⟩, rfl, ?_⟩
  rw [← holds_val]
  show arr.holds j = some id
  rw [holds, hs, Option.bind_some, hkey]

theorem holds_setSlot (arr : SlotArray) (i : Fin arr.capacity.toNat) (s : GranuleSlot) :
    (arr.setSlot i s).holds = Function.update arr.holds i s.key := by
  funext j
  have hi : i.val < arr.slots.length := by rw [arr.length_slots]; exact i.isLt
  unfold holds setSlot
  by_cases hji : j = i.val
  · subst hji
    rw [List.getElem?_set_self hi, Function.update_self, Option.bind_some]
  · rw [List.getElem?_set_ne (Ne.symm hji), Function.update_of_ne hji]

theorem entries_setSlot (arr : SlotArray) (i : Fin arr.capacity.toNat) (s : GranuleSlot) :
    (arr.setSlot i s).entries = arr.entries.set i s.entry := by
  unfold entries setSlot
  rw [List.map_set]

/-- An entry in the array is a granule some slot holds, with that slot's count. -/
theorem mem_entries_iff {id : GranuleId} {c : UInt32} :
    some (id, c) ∈ arr.entries ↔
      ∃ i : Fin arr.capacity.toNat, (arr.slot i).key = some id ∧ (arr.slot i).liveCount = c := by
  rw [List.mem_iff_getElem?]
  constructor
  · rintro ⟨j, hj⟩
    have hlt : j < arr.capacity.toNat := by
      rw [← arr.length_entries]
      exact (List.getElem?_eq_some_iff.mp hj).1
    have hentry := (arr.getElem?_entries ⟨j, hlt⟩).symm.trans hj
    rw [Option.some.injEq] at hentry
    have hkey : (arr.slot ⟨j, hlt⟩).key = some id := by
      rw [GranuleSlot.key_eq_map, hentry, Option.map_some]
    rw [GranuleSlot.entry_of_key hkey, Option.some.injEq, Prod.mk.injEq] at hentry
    exact ⟨⟨j, hlt⟩, hkey, hentry.2⟩
  · rintro ⟨i, hkey, rfl⟩
    exact ⟨i, by rw [arr.getElem?_entries, GranuleSlot.entry_of_key hkey]⟩

/-- The number of slots in use. -/
def occupiedCount (arr : SlotArray) : ℕ :=
  arr.slots.countP GranuleSlot.occupied

theorem countP_isSome_entries (arr : SlotArray) :
    arr.entries.countP Option.isSome = arr.occupiedCount := by
  rw [entries, List.countP_map, occupiedCount]
  exact List.countP_congr fun s _ => by simp [GranuleSlot.isSome_entry]

theorem occupiedCount_le (arr : SlotArray) : arr.occupiedCount ≤ arr.capacity.toNat := by
  rw [← arr.length_slots]
  exact List.countP_le_length

/-- The table is full iff every slot is occupied. -/
theorem occupiedCount_eq_capacity_iff :
    arr.occupiedCount = arr.capacity.toNat ↔ ∀ i, (arr.slot i).occupied = true := by
  have hcount : arr.slots.countP GranuleSlot.occupied = arr.slots.length ↔ _ :=
    List.countP_eq_length
  rw [arr.length_slots] at hcount
  rw [occupiedCount, hcount]
  constructor
  · intro h i
    exact h _ (List.getElem_mem _)
  · intro h s hs
    obtain ⟨j, hj, rfl⟩ := List.getElem_of_mem hs
    exact h ⟨j, arr.length_slots ▸ hj⟩

end SlotArray

/-- A new array has the capacity asked for, and free slots only. -/
theorem slotArrayCreate_slots {env : Env} {capacity : UInt32} {arr : SlotArray}
    (h : slotArrayCreate env capacity = some arr) :
    arr.capacity = capacity ∧ arr.slots = List.replicate capacity.toNat GranuleSlot.free := by
  unfold slotArrayCreate at h
  split_ifs at h
  cases h
  exact ⟨rfl, rfl⟩

theorem slotArrayCreate_holds {env : Env} {capacity : UInt32} {arr : SlotArray}
    (h : slotArrayCreate env capacity = some arr) (i : ℕ) : arr.holds i = none := by
  rw [SlotArray.holds, (slotArrayCreate_slots h).2, List.getElem?_replicate]
  split_ifs <;> rfl

/-! ### Probe loops are searches -/

/-- The slot index of a probe, in 32-bit arithmetic. -/
def probeIndex (capacity : UInt32) (id : GranuleId) (probe : ℕ) : ℕ :=
  ((hashGranuleId id % capacity + UInt32.ofNat probe) % capacity).toNat

/-- The slots the probe loops visit for a granule, in order. -/
def probePath (capacity : UInt32) (id : GranuleId) : List ℕ :=
  (List.range capacity.toNat).map (probeIndex capacity id)

theorem home_lt {capacity : UInt32} (hcap : 0 < capacity.toNat) (id : GranuleId) :
    (hashGranuleId id % capacity).toNat < capacity.toNat := by
  rw [UInt32.toNat_mod]
  exact Nat.mod_lt _ hcap

theorem probeIndex_eq (capacity : UInt32) (id : GranuleId) {probe : ℕ} (h : probe < 2 ^ 32) :
    probeIndex capacity id probe
      = ((hashGranuleId id % capacity).toNat + probe) % 2 ^ 32 % capacity.toNat :=
  toNat_add_ofNat_mod _ _ h

/-- The probes reach every slot once exactly when none of them wraps before it is reduced. -/
theorem probePath_perm_iff {capacity : UInt32} (hcap : 0 < capacity.toNat) (id : GranuleId) :
    (probePath capacity id).Perm (List.range capacity.toNat) ↔
      (hashGranuleId id % capacity).toNat + capacity.toNat ≤ 2 ^ 32 := by
  have hlt := capacity.toNat_lt
  rw [← Rotation.perm_range_iff (home_lt hcap id) hlt, probePath]
  have hindex : (List.range capacity.toNat).map (probeIndex capacity id)
      = (List.range capacity.toNat).map fun k =>
        ((hashGranuleId id % capacity).toNat + k) % 2 ^ 32 % capacity.toNat := by
    refine List.map_congr_left ?_
    intro k hk
    exact probeIndex_eq capacity id ((List.mem_range.mp hk).trans hlt)
  rw [hindex]

/-- Up to a capacity of `2 ^ 31` no probe wraps, so the probes reach every slot. -/
theorem mem_probePath {capacity : UInt32} (hcap : capacity.toNat ≤ 2 ^ 31) (id : GranuleId) {j : ℕ}
    (hj : j < capacity.toNat) : j ∈ probePath capacity id := by
  have hs := home_lt (show 0 < capacity.toNat by omega) id
  have hperm := (probePath_perm_iff (show 0 < capacity.toNat by omega) id).mpr (by omega)
  exact hperm.mem_iff.mpr (List.mem_range.mpr hj)

/-- Where the search for a granule stops. -/
def SlotArray.search (arr : SlotArray) (id : GranuleId) : Stop ℕ :=
  locate arr.holds id (probePath arr.capacity id)

/-- The slots the search for a granule passes over. -/
def SlotArray.passed (arr : SlotArray) (id : GranuleId) : List ℕ :=
  trail arr.holds id (probePath arr.capacity id)

/-- A search that runs out of probes has seen the slots on its path occupied by other granules. -/
theorem SlotArray.occupied_of_full {arr : SlotArray} {id : GranuleId} (h : arr.search id = .full)
    {i : Fin arr.capacity.toNat} (hi : i.val ∈ probePath arr.capacity id) :
    (arr.slot i).occupied = true := by
  obtain ⟨k, hk, -⟩ := occupied_of_locate_eq_full h hi
  rw [arr.holds_val] at hk
  exact (GranuleSlot.key_eq_some_iff.mp hk).1

/-- Up to a capacity of `2 ^ 31` a search runs out of probes only in a full table. -/
theorem SlotArray.occupiedCount_of_full {arr : SlotArray} (hcap : arr.capacity.toNat ≤ 2 ^ 31)
    {id : GranuleId} (h : arr.search id = .full) : arr.occupiedCount = arr.capacity.toNat := by
  rw [SlotArray.occupiedCount_eq_capacity_iff]
  intro i
  exact SlotArray.occupied_of_full h (mem_probePath hcap id i.isLt)

theorem findSlot.go_cases (arr : SlotArray) (id : GranuleId) :
    ∀ fuel probe : ℕ,
      let stop := locate arr.holds id
        ((List.range' probe fuel).map (probeIndex arr.capacity id))
      (∃ i : Fin arr.capacity.toNat, stop = .hit i.val ∧
          findSlot.go arr id (hashGranuleId id % arr.capacity) fuel probe = some i) ∨
        (∀ i, stop ≠ .hit i) ∧
          findSlot.go arr id (hashGranuleId id % arr.capacity) fuel probe = none := by
  intro fuel
  induction fuel with
  | zero => intro probe; exact Or.inr ⟨nofun, rfl⟩
  | succ fuel ih =>
    intro probe
    dsimp only
    rw [findSlot.go, List.range'_succ, List.map_cons]
    generalize hidx : arr.probeSlot (hashGranuleId id % arr.capacity) probe = idx
    have hval : probeIndex arr.capacity id probe = idx.val := by rw [← hidx]; rfl
    rw [hval]
    have hholds := arr.holds_val idx
    rcases slot_cases arr.holds id idx.val with h | h | ⟨k', h, hne⟩
    · rw [locate_cons_of_none h]
      rw [h] at hholds
      refine Or.inr ⟨nofun, ?_⟩
      rw [GranuleSlot.key_eq_none_iff.mp hholds.symm]
      rfl
    · rw [locate_cons_of_eq h]
      rw [h] at hholds
      obtain ⟨hocc, hid⟩ := GranuleSlot.key_eq_some_iff.mp hholds.symm
      refine Or.inl ⟨idx, rfl, ?_⟩
      rw [hocc, hid]
      simp
    · rw [locate_cons_of_ne h hne]
      rw [h] at hholds
      obtain ⟨hocc, hid⟩ := GranuleSlot.key_eq_some_iff.mp hholds.symm
      rw [hocc, hid]
      simp only [Bool.not_true, Bool.false_eq_true, if_false, if_neg hne]
      exact ih (probe + 1)

/-- `find_slot` returns the slot the search hits. -/
theorem findSlot_cases (arr : SlotArray) (id : GranuleId) :
    (∃ i : Fin arr.capacity.toNat, arr.search id = .hit i.val ∧ findSlot arr id = some i) ∨
      (∀ i, arr.search id ≠ .hit i) ∧ findSlot arr id = none := by
  have := findSlot.go_cases arr id arr.capacity.toNat 0
  rw [← List.range_eq_range'] at this
  exact this

theorem findSlot_eq_none_iff {arr : SlotArray} {id : GranuleId} :
    findSlot arr id = none ↔ ∀ i, arr.search id ≠ .hit i := by
  rcases findSlot_cases arr id with ⟨j, hstop, hfind⟩ | ⟨hstop, hfind⟩
  · rw [hfind, hstop]
    exact ⟨nofun, fun h => absurd rfl (h j.val)⟩
  · exact ⟨fun _ => hstop, fun _ => hfind⟩

theorem findSlot_eq_some_iff {arr : SlotArray} {id : GranuleId} {i : Fin arr.capacity.toNat} :
    findSlot arr id = some i ↔ arr.search id = .hit i.val := by
  rcases findSlot_cases arr id with ⟨j, hstop, hfind⟩ | ⟨hstop, hfind⟩
  · rw [hfind, hstop]
    constructor
    · intro h; cases h; rfl
    · intro h; cases Fin.ext (Stop.hit.inj h); rfl
  · rw [hfind]
    exact ⟨nofun, fun h => absurd h (hstop i)⟩

/-- The slot `find_slot` returns holds the granule. -/
theorem key_of_findSlot {arr : SlotArray} {id : GranuleId} {i : Fin arr.capacity.toNat}
    (h : findSlot arr id = some i) : (arr.slot i).key = some id := by
  rw [← arr.holds_val]
  exact holds_of_locate_eq_hit (findSlot_eq_some_iff.mp h)

theorem slotArrayOpen.go_cases (arr : SlotArray) (id : GranuleId) :
    ∀ fuel probe : ℕ,
      let stop := locate arr.holds id
        ((List.range' probe fuel).map (probeIndex arr.capacity id))
      let result := slotArrayOpen.go arr id (hashGranuleId id % arr.capacity) fuel probe
      (∃ i : Fin arr.capacity.toNat, stop = .hit i.val ∧ result = (0, arr)) ∨
        (∃ i : Fin arr.capacity.toNat, stop = .empty i.val ∧
          result = (0, arr.setSlot i ⟨0, true, id⟩)) ∨
        stop = .full ∧ result = (-1, arr) := by
  intro fuel
  induction fuel with
  | zero => intro probe; exact Or.inr (Or.inr ⟨rfl, rfl⟩)
  | succ fuel ih =>
    intro probe
    dsimp only
    rw [slotArrayOpen.go, List.range'_succ, List.map_cons]
    generalize hidx : arr.probeSlot (hashGranuleId id % arr.capacity) probe = idx
    have hval : probeIndex arr.capacity id probe = idx.val := by rw [← hidx]; rfl
    rw [hval]
    have hholds := arr.holds_val idx
    rcases slot_cases arr.holds id idx.val with h | h | ⟨k', h, hne⟩
    · rw [locate_cons_of_none h]
      rw [h] at hholds
      refine Or.inr (Or.inl ⟨idx, rfl, ?_⟩)
      rw [GranuleSlot.key_eq_none_iff.mp hholds.symm]
      rfl
    · rw [locate_cons_of_eq h]
      rw [h] at hholds
      obtain ⟨hocc, hid⟩ := GranuleSlot.key_eq_some_iff.mp hholds.symm
      refine Or.inl ⟨idx, rfl, ?_⟩
      rw [hocc, hid]
      simp
    · rw [locate_cons_of_ne h hne]
      rw [h] at hholds
      obtain ⟨hocc, hid⟩ := GranuleSlot.key_eq_some_iff.mp hholds.symm
      rw [hocc, hid]
      simp only [if_true, if_neg hne]
      exact ih (probe + 1)

/-- What `open` does, by where its search stops. -/
theorem slotArrayOpen_cases (arr : SlotArray) (id : GranuleId) :
    (∃ i : Fin arr.capacity.toNat, arr.search id = .hit i.val ∧
        slotArrayOpen arr id = (0, arr)) ∨
      (∃ i : Fin arr.capacity.toNat, arr.search id = .empty i.val ∧
        slotArrayOpen arr id = (0, arr.setSlot i ⟨0, true, id⟩)) ∨
      arr.search id = .full ∧ slotArrayOpen arr id = (-1, arr) := by
  have := slotArrayOpen.go_cases arr id arr.capacity.toNat 0
  rw [← List.range_eq_range'] at this
  exact this

end Drainprof
