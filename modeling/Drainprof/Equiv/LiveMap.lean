import Drainprof.Equiv.SlotArray

/-!
# The slot array refines a bounded map

`LiveMap.step` is the specification: a map of at most `capacity` granule ids to 32-bit live counts.
`SlotArray.Represents arr m` relates a slot array to it: the entries are those of `m` and every
chain is intact.  `slotArray_step_refines` is the simulation of one call that meets
`SlotArray.StepOk`, and `slotArray_refines_iff` the exact statement about runs.
-/

namespace Drainprof

open Probing Table Transition

/-! ### The specification -/

/-- The open granules with their live counts. -/
abbrev LiveMap := FinMap GranuleId UInt32

/-- Apply `f` to the count of a granule, if it is in the map. -/
def LiveMap.adjust (m : LiveMap) (id : GranuleId) (f : UInt32 → UInt32) : SlotRet × LiveMap :=
  match m.lookup id with
  | some c => (.int 0, m.insert id (f c))
  | none => (.int (-1), m)

/-- One call on a map that holds at most `capacity` granules. -/
def LiveMap.step (capacity : ℕ) (m : LiveMap) : SlotOp → SlotRet × LiveMap
  | .open_ id =>
    if id ∈ m then (.int 0, m)
    else if m.keys.length < capacity then (.int 0, m.insert id 0)
    else (.int (-1), m)
  | .close id =>
    match m.lookup id with
    | some c => (.count c, m.erase id)
    | none => (.count uint32Max, m)
  | .alloc id => m.adjust id (· + 1)
  | .dealloc id => m.adjust id (· - 1)

/-! ### The simulation relation -/

/-- Releasing slot `i` cuts off no other granule: the path of every other granule in the table
reaches its own slot without passing `i`. -/
def SlotArray.Clear (arr : SlotArray) (i : Fin arr.capacity.toNat) : Prop :=
  ∀ j, j ≠ i → ∀ k ∈ (arr.slot j).key, i.val ∉ arr.passed k

instance (arr : SlotArray) (i : Fin arr.capacity.toNat) : Decidable (arr.Clear i) :=
  have : ∀ j, Decidable (∀ k ∈ (arr.slot j).key, i.val ∉ arr.passed k) := fun _ =>
    Option.decidableForallMem _
  inferInstanceAs (Decidable (∀ j, j ≠ i → ∀ k ∈ (arr.slot j).key, i.val ∉ arr.passed k))

theorem SlotArray.Clear.not_mem_passed {arr : SlotArray} {i : Fin arr.capacity.toNat}
    (h : arr.Clear i) : ∀ j k, j ≠ i.val → arr.holds j = some k → i.val ∉ arr.passed k := by
  intro j k hji hj
  obtain ⟨j', rfl, hkey⟩ := SlotArray.exists_of_holds hj
  exact h j' (fun e => hji (congrArg Fin.val e)) k hkey

/-- The array holds the entries of the map, and every chain is intact. -/
structure SlotArray.Represents (arr : SlotArray) (m : LiveMap) : Prop where
  tabulates : Tabulates arr.entries m
  chained : Chained arr.holds (probePath arr.capacity)

namespace SlotArray.Represents

variable {arr : SlotArray} {m : LiveMap} {id : GranuleId} {i : Fin arr.capacity.toNat}

theorem lookup_of_key (h : arr.Represents m) (hi : (arr.slot i).key = some id) :
    m.lookup id = some (arr.slot i).liveCount :=
  h.tabulates.lookup_eq_some_iff.mpr (arr.mem_entries_iff.mpr ⟨i, hi, rfl⟩)

theorem mem_of_key (h : arr.Represents m) (hi : (arr.slot i).key = some id) : id ∈ m := by
  rw [← AList.lookup_isSome, h.lookup_of_key hi]
  rfl

/-- A granule of the map sits in a slot, and the search finds it there. -/
theorem exists_of_mem (h : arr.Represents m) (hid : id ∈ m) :
    ∃ i : Fin arr.capacity.toNat, (arr.slot i).key = some id ∧ arr.search id = .hit i.val := by
  obtain ⟨c, hc⟩ := h.tabulates.mem_iff.mp hid
  obtain ⟨i, hi, -⟩ := arr.mem_entries_iff.mp hc
  exact ⟨i, hi, h.chained i id (by rw [arr.holds_val, hi])⟩

/-- A granule no slot is found for is not in the map. -/
theorem not_mem (h : arr.Represents m) (hid : ∀ i, arr.search id ≠ .hit i) : id ∉ m := by
  intro hmem
  obtain ⟨i, -, hi⟩ := h.exists_of_mem hmem
  exact hid i hi

theorem lookup_eq_none (h : arr.Represents m) (hid : ∀ i, arr.search id ≠ .hit i) :
    m.lookup id = none :=
  AList.lookup_eq_none.mpr (h.not_mem hid)

/-- The map binds a granule to the count in the slot `find_slot` returns. -/
theorem lookup_eq (h : arr.Represents m) (id : GranuleId) :
    m.lookup id = (findSlot arr id).map fun i => (arr.slot i).liveCount := by
  rcases findSlot_cases arr id with ⟨i, -, hfind⟩ | ⟨hstop, hfind⟩
  · rw [hfind, h.lookup_of_key (key_of_findSlot hfind), Option.map_some]
  · rw [hfind, h.lookup_eq_none hstop, Option.map_none]

/-- What `find_slot` finds for a granule, in a map that the counts are a projection of. -/
theorem find_cases {β : Type} {F : β → UInt32} {granules : FinMap GranuleId β}
    (h : arr.Represents m) (hproj : Projects F m granules) (g : GranuleId) :
    (granules.lookup g = none ∧ findSlot arr g = none) ∨
      ∃ b i, granules.lookup g = some b ∧ findSlot arr g = some i ∧
        (arr.slot i).liveCount = F b := by
  have hlookup := (h.lookup_eq g).symm.trans (hproj g)
  rcases hb : granules.lookup g with _ | b
  · rw [hb, Option.map_none, Option.map_eq_none_iff] at hlookup
    exact Or.inl ⟨rfl, hlookup⟩
  · rw [hb, Option.map_some, Option.map_eq_some_iff] at hlookup
    obtain ⟨i, hi, hcount⟩ := hlookup
    exact Or.inr ⟨b, i, rfl, hi, hcount⟩

/-- The map is full exactly when the array is. -/
theorem length_keys (h : arr.Represents m) : m.keys.length = arr.occupiedCount := by
  rw [h.tabulates.length_keys, arr.countP_isSome_entries]

/-- A granule claims the free slot its search stopped at. -/
theorem claim (h : arr.Represents m) (hi : arr.search id = .empty i.val) :
    (arr.setSlot i ⟨0, true, id⟩).Represents (m.insert id 0) := by
  have hid : id ∉ m := h.not_mem fun j hj => by rw [hi] at hj; cases hj
  have hfree : (arr.slot i).key = none := by
    rw [← arr.holds_val]
    exact free_of_locate_eq_empty hi
  constructor
  · rw [arr.entries_setSlot]
    refine h.tabulates.insert ?_ hid
    rw [arr.getElem?_entries, GranuleSlot.entry, GranuleSlot.key_eq_none_iff.mp hfree]
    rfl
  · rw [arr.holds_setSlot]
    exact h.chained.insert hi

/-- A new count in an occupied slot moves no granule. -/
theorem recount (h : arr.Represents m) (hi : (arr.slot i).key = some id) (c : UInt32) :
    (arr.setSlot i { arr.slot i with liveCount := c }).Represents (m.insert id c) := by
  have hkey : ({ arr.slot i with liveCount := c } : GranuleSlot).key = some id := hi
  constructor
  · rw [arr.entries_setSlot, GranuleSlot.entry_of_key hkey]
    exact h.tabulates.update (by rw [arr.getElem?_entries, GranuleSlot.entry_of_key hi])
  · rw [arr.holds_setSlot, hkey, Function.update_eq_self_iff.mpr (by rw [arr.holds_val, hi])]
    exact h.chained

/-- A slot on no other granule's path may be released. -/
theorem release (h : arr.Represents m) (hi : (arr.slot i).key = some id)
    (hclear : arr.Clear i) :
    (arr.setSlot i GranuleSlot.free).Represents (m.erase id) := by
  constructor
  · rw [arr.entries_setSlot]
    exact h.tabulates.erase (by rw [arr.getElem?_entries, GranuleSlot.entry_of_key hi])
  · rw [arr.holds_setSlot]
    exact h.chained.erase hclear.not_mem_passed

end SlotArray.Represents

/-! ### One call -/

/-- What a call may not do: an `open` that probes occupied slots only although the table has a free
one, or a `close` of a slot that is on the path of another open granule. -/
def SlotArray.StepOk (arr : SlotArray) : SlotOp → Prop
  | .open_ id => arr.search id = .full → arr.occupiedCount = arr.capacity.toNat
  | .close id => ∀ i ∈ findSlot arr id, arr.Clear i
  | .alloc _ => True
  | .dealloc _ => True

instance (arr : SlotArray) : ∀ op, Decidable (arr.StepOk op)
  | .open_ id =>
    inferInstanceAs (Decidable (arr.search id = .full → arr.occupiedCount = arr.capacity.toNat))
  | .close id => Option.decidableForallMem (findSlot arr id)
  | .alloc _ => inferInstanceAs (Decidable True)
  | .dealloc _ => inferInstanceAs (Decidable True)

theorem slotArrayOpen_refines {arr : SlotArray} {m : LiveMap} {id : GranuleId}
    (h : arr.Represents m) (hok : arr.StepOk (.open_ id)) :
    .int (slotArrayOpen arr id).1 = (m.step arr.capacity.toNat (.open_ id)).1 ∧
      (slotArrayOpen arr id).2.Represents (m.step arr.capacity.toNat (.open_ id)).2 := by
  rw [LiveMap.step]
  rcases slotArrayOpen_cases arr id with ⟨i, hstop, hopen⟩ | ⟨i, hstop, hopen⟩ | ⟨hstop, hopen⟩
  · have hmem : id ∈ m := h.mem_of_key (key_of_findSlot (findSlot_eq_some_iff.mpr hstop))
    rw [hopen, if_pos hmem]
    exact ⟨rfl, h⟩
  · have hmem : id ∉ m := h.not_mem fun j hj => by rw [hstop] at hj; cases hj
    have hroom : m.keys.length < arr.capacity.toNat := by
      rw [h.length_keys]
      refine lt_of_le_of_ne arr.occupiedCount_le fun hfull => ?_
      have hocc := SlotArray.occupiedCount_eq_capacity_iff.mp hfull i
      have hfree : arr.holds i.val = none := free_of_locate_eq_empty hstop
      rw [arr.holds_val, GranuleSlot.key_eq_none_iff, hocc] at hfree
      cases hfree
    rw [hopen, if_neg hmem, if_pos hroom]
    exact ⟨rfl, h.claim hstop⟩
  · have hmem : id ∉ m := h.not_mem fun j hj => by rw [hstop] at hj; cases hj
    have hfull : ¬m.keys.length < arr.capacity.toNat := by
      rw [h.length_keys, hok hstop]
      exact lt_irrefl _
    rw [hopen, if_neg hmem, if_neg hfull]
    exact ⟨rfl, h⟩

/-- `close` returns the count of the map, whatever path its slot is on. -/
theorem slotArrayClose_fst {arr : SlotArray} {m : LiveMap} (h : arr.Represents m)
    (id : GranuleId) (n : ℕ) : .count (slotArrayClose arr id).1 = (m.step n (.close id)).1 := by
  rw [LiveMap.step, slotArrayClose]
  rcases findSlot_cases arr id with ⟨i, -, hfind⟩ | ⟨hstop, hfind⟩
  · rw [hfind, h.lookup_of_key (key_of_findSlot hfind)]
  · rw [hfind, h.lookup_eq_none hstop]

theorem slotArrayClose_refines {arr : SlotArray} {m : LiveMap} {id : GranuleId}
    (h : arr.Represents m) (hok : arr.StepOk (.close id)) (n : ℕ) :
    (slotArrayClose arr id).2.Represents (m.step n (.close id)).2 := by
  rw [LiveMap.step, slotArrayClose]
  rcases findSlot_cases arr id with ⟨i, -, hfind⟩ | ⟨hstop, hfind⟩
  · rw [hfind, h.lookup_of_key (key_of_findSlot hfind)]
    exact h.release (key_of_findSlot hfind) (hok i hfind)
  · rw [hfind, h.lookup_eq_none hstop]
    exact h

theorem adjustLiveCount_refines {arr : SlotArray} {m : LiveMap} (h : arr.Represents m)
    (id : GranuleId) (f : UInt32 → UInt32) :
    .int (adjustLiveCount arr id f).1 = (m.adjust id f).1 ∧
      (adjustLiveCount arr id f).2.Represents (m.adjust id f).2 := by
  rw [LiveMap.adjust, adjustLiveCount]
  rcases findSlot_cases arr id with ⟨i, -, hfind⟩ | ⟨hstop, hfind⟩
  · rw [hfind, h.lookup_of_key (key_of_findSlot hfind)]
    exact ⟨rfl, h.recount (key_of_findSlot hfind) _⟩
  · rw [hfind, h.lookup_eq_none hstop]
    exact ⟨rfl, h⟩

/-- No call changes the capacity. -/
theorem SlotArray.capacity_step {arr arr' : SlotArray} {op : SlotOp} {r : SlotRet}
    (h : arr.step op = .ok (r, arr')) : arr'.capacity = arr.capacity := by
  cases op with
  | open_ id =>
    cases h
    rcases slotArrayOpen_cases arr id with ⟨i, -, hopen⟩ | ⟨i, -, hopen⟩ | ⟨-, hopen⟩
    all_goals rw [hopen]
    rfl
  | close id => cases h; unfold slotArrayClose; split <;> rfl
  | alloc id => cases h; unfold slotArrayAlloc adjustLiveCount; split <;> rfl
  | dealloc id => cases h; unfold slotArrayDealloc adjustLiveCount; split <;> rfl

/-- A call that meets the condition returns what the map returns and keeps the relation. -/
theorem slotArray_step_refines {arr : SlotArray} {m : LiveMap} {op : SlotOp}
    (h : arr.Represents m) (hok : arr.StepOk op) :
    ∃ arr', arr.step op = .ok ((m.step arr.capacity.toNat op).1, arr') ∧
      arr'.Represents (m.step arr.capacity.toNat op).2 := by
  cases op with
  | open_ id =>
    obtain ⟨hret, hrep⟩ := slotArrayOpen_refines h hok
    exact ⟨_, by rw [SlotArray.step, hret], hrep⟩
  | close id =>
    exact ⟨_, by rw [SlotArray.step, slotArrayClose_fst h], slotArrayClose_refines h hok _⟩
  | alloc id =>
    obtain ⟨hret, hrep⟩ := adjustLiveCount_refines h id (· + 1)
    exact ⟨_, by rw [SlotArray.step, slotArrayAlloc, hret]; rfl, hrep⟩
  | dealloc id =>
    obtain ⟨hret, hrep⟩ := adjustLiveCount_refines h id (· - 1)
    exact ⟨_, by rw [SlotArray.step, slotArrayDealloc, hret]; rfl, hrep⟩

/-- Releasing a slot that is not clear makes some granule still in the table unfindable. -/
theorem SlotArray.search_of_not_clear {arr : SlotArray} {i : Fin arr.capacity.toNat}
    (h : ¬arr.Clear i) :
    ∃ j k, j ≠ i ∧ (arr.slot j).key = some k ∧
      (arr.setSlot i GranuleSlot.free).search k = .empty i.val := by
  unfold SlotArray.Clear at h
  push Not at h
  obtain ⟨j, hji, k, hj, hmem⟩ := h
  refine ⟨j, k, hji, hj, ?_⟩
  unfold SlotArray.search
  rw [arr.holds_setSlot]
  exact locate_erase_of_mem_trail hmem

/-- A call that violates the condition returns something else than the map, or leaves a granule of
the map that the next `alloc` does not find. -/
theorem slotArray_step_exact {arr arr' : SlotArray} {m : LiveMap} {op : SlotOp}
    (h : arr.Represents m) (hbad : ¬arr.StepOk op)
    (hstep : arr.step op = .ok ((m.step arr.capacity.toNat op).1, arr')) :
    ∃ k, ¬Agrees SlotArray.step (LiveMap.step arr.capacity.toNat) arr'
      (m.step arr.capacity.toNat op).2 [.alloc k] := by
  cases op with
  | open_ id =>
    -- the array refuses the granule although a slot is free, the map does not
    exfalso
    unfold SlotArray.StepOk at hbad
    push Not at hbad
    obtain ⟨hstop, hroom⟩ := hbad
    have hmem : id ∉ m := h.not_mem fun j hj => by rw [hstop] at hj; cases hj
    have hlt : m.keys.length < arr.capacity.toNat := by
      rw [h.length_keys]
      exact lt_of_le_of_ne arr.occupiedCount_le hroom
    rcases slotArrayOpen_cases arr id with ⟨i, hi, -⟩ | ⟨i, hi, -⟩ | ⟨-, hopen⟩
    · rw [hstop] at hi; cases hi
    · rw [hstop] at hi; cases hi
    · rw [SlotArray.step, hopen, LiveMap.step, if_neg hmem, if_pos hlt] at hstep
      cases hstep
  | close id =>
    unfold SlotArray.StepOk at hbad
    push Not at hbad
    obtain ⟨i, hfind, hnot⟩ := hbad
    rw [Option.mem_def] at hfind
    obtain ⟨j, k, hji, hj, hlost⟩ := SlotArray.search_of_not_clear hnot
    refine ⟨k, ?_⟩
    rw [agrees_singleton_iff]
    rintro ⟨arr'', halloc⟩
    have hkey := key_of_findSlot hfind
    -- the map still holds `k`
    have hne : k ≠ id := by
      rintro rfl
      rw [← arr.holds_val] at hj hkey
      exact hji (Fin.ext (h.chained.slot_unique hj hkey))
    have hlookup : (m.erase id).lookup k = some (arr.slot j).liveCount := by
      rw [AList.lookup_erase_ne hne, h.lookup_of_key hj]
    simp only [LiveMap.step, LiveMap.adjust, h.lookup_of_key hkey, hlookup] at halloc
    -- the array does not find it
    have harr : arr' = arr.setSlot i GranuleSlot.free := by
      simp only [SlotArray.step, slotArrayClose, hfind, Except.ok.injEq, Prod.mk.injEq] at hstep
      exact hstep.2.symm
    subst harr
    have hmiss : findSlot (arr.setSlot i GranuleSlot.free) k = none := by
      rcases findSlot_cases (arr.setSlot i GranuleSlot.free) k with ⟨j', hj', -⟩ | ⟨-, hnone⟩
      · rw [hlost] at hj'; cases hj'
      · exact hnone
    rw [SlotArray.step, slotArrayAlloc, adjustLiveCount, hmiss] at halloc
    cases halloc
  | alloc id => exact absurd trivial hbad
  | dealloc id => exact absurd trivial hbad

/-! ### Runs -/

theorem slotArrayCreate_represents {env : Env} {capacity : UInt32} {arr : SlotArray}
    (h : slotArrayCreate env capacity = some arr) :
    arr.Represents ∅ ∧ arr.capacity = capacity := by
  obtain ⟨hcap, hslots⟩ := slotArrayCreate_slots h
  refine ⟨⟨tabulates_of_free ?_, chained_of_free (slotArrayCreate_holds h)⟩, hcap⟩
  intro e he
  rw [SlotArray.entries, hslots, List.map_replicate] at he
  exact List.eq_of_mem_replicate he

/-- **The slot array refines the bounded map exactly on the runs whose calls meet the condition.**
The calls of a run return what the map returns, and so does an `alloc` after any of its prefixes,
iff no `close` of the run empties a slot on the path of another open granule and no `open` of it
runs out of probes before the table is full.  In a run that meets the condition every granule opened
and not yet closed is found, and no granule occupies two slots. -/
theorem slotArray_refines_iff {env : Env} {capacity : UInt32} {arr : SlotArray}
    (hcreate : slotArrayCreate env capacity = some arr) (ops : List SlotOp) :
    ((Agrees SlotArray.step (LiveMap.step capacity.toNat) arr ∅ ops ∧
        ∀ pre id, pre <+: ops →
          Agrees SlotArray.step (LiveMap.step capacity.toNat) arr ∅ (pre ++ [.alloc id])) ↔
      Meets SlotArray.step SlotArray.StepOk arr ops) ∧
    (Meets SlotArray.step SlotArray.StepOk arr ops →
      ∃ arr', run SlotArray.step arr ops
          = .ok ((trace (LiveMap.step capacity.toNat) ∅ ops).1, arr') ∧
        (∀ id ∈ (trace (LiveMap.step capacity.toNat) ∅ ops).2, (findSlot arr' id).isSome) ∧
        ∀ i j id, (arr'.slot i).key = some id → (arr'.slot j).key = some id → i = j) := by
  obtain ⟨hrep, hcap⟩ := slotArrayCreate_represents hcreate
  -- the relation also fixes the capacity, which no call changes
  let R : SlotArray → LiveMap → Prop := fun a m => a.capacity = capacity ∧ a.Represents m
  have hstep : ∀ {a : SlotArray} {m : LiveMap} {op : SlotOp}, R a m → True → a.StepOk op →
      ∃ a', a.step op = .ok ((m.step capacity.toNat op).1, a') ∧
        R a' (m.step capacity.toNat op).2 := by
    rintro a m op ⟨rfl, ha⟩ - hok
    obtain ⟨a', hs, ha'⟩ := slotArray_step_refines ha hok
    exact ⟨a', hs, SlotArray.capacity_step hs, ha'⟩
  have hprobe : ∀ {a : SlotArray} {m : LiveMap} {op : SlotOp}, R a m → True →
      (∃ id, op = .alloc id) → ∃ a', a.step op = .ok ((m.step capacity.toNat op).1, a') := by
    rintro a m op ⟨rfl, ha⟩ - ⟨id, rfl⟩
    obtain ⟨a', hs, -⟩ := slotArray_step_refines ha (show a.StepOk (.alloc id) from trivial)
    exact ⟨a', hs⟩
  have hexact : ∀ {a : SlotArray} {m : LiveMap} {op : SlotOp} {a' : SlotArray}, R a m → True →
      ¬a.StepOk op → a.step op = .ok ((m.step capacity.toNat op).1, a') →
      ∃ j, (∃ id, j = SlotOp.alloc id) ∧ True ∧
        ¬Agrees SlotArray.step (LiveMap.step capacity.toNat) a' (m.step capacity.toNat op).2 [j] := by
    rintro a m op a' ⟨rfl, ha⟩ - hbad hs
    obtain ⟨k, hk⟩ := slotArray_step_exact ha hbad hs
    exact ⟨.alloc k, ⟨k, rfl⟩, trivial, hk⟩
  have hR : R arr ∅ := ⟨hcap, hrep⟩
  constructor
  · rw [← run_agrees_iff_meets SlotArray.step (LiveMap.step capacity.toNat) R SlotArray.StepOk
      (fun _ _ => True) (fun op => ∃ id, op = .alloc id) hstep hprobe hexact hR
      (admits_of_forall fun _ _ => trivial)]
    refine and_congr_right fun _ => ?_
    constructor
    · rintro hall js j hpre ⟨id, rfl⟩ -
      exact hall js id hpre
    · intro hall pre id hpre
      exact hall pre (.alloc id) hpre ⟨id, rfl⟩ (admits_of_forall fun _ _ => trivial)
  · intro hmeets
    obtain ⟨arr', hrun, -, hrep'⟩ :=
      run_eq_trace hstep hR (admits_of_forall fun _ _ => trivial) hmeets
    refine ⟨arr', hrun, ?_, ?_⟩
    · intro id hid
      obtain ⟨i, -, hi⟩ := hrep'.exists_of_mem hid
      rw [findSlot_eq_some_iff.mpr hi]
      rfl
    · intro i j id hi hj
      rw [← arr'.holds_val] at hi hj
      exact Fin.ext (hrep'.chained.slot_unique hi hj)

/-- Two slots; granules `0` and `1` both hash to slot `0`. -/
def collidingOps : List SlotOp :=
  [.open_ 0, .open_ 1, .close 0, .alloc 1]

/-- Closing granule `0` frees the slot granule `1` was probed past, and granule `1`, still open, is no
longer found. -/
theorem slotArray_not_refines :
    ¬∀ (env : Env) (capacity : UInt32) (arr : SlotArray) (ops : List SlotOp),
      slotArrayCreate env capacity = some arr →
        Agrees SlotArray.step (LiveMap.step capacity.toNat) arr ∅ ops := by
  intro h
  obtain ⟨arr', hrun⟩ := h (Env.ample default) 2 _ collidingOps rfl
  have houts : (run SlotArray.step _ collidingOps).map Prod.fst
      = .ok (trace (LiveMap.step 2) ∅ collidingOps).1 := congrArg (fun r => r.map Prod.fst) hrun
  revert houts
  decide

/-- Granule `1` shares the home of granule `0` and is closed and opened again beside it, which leaves
the probe path of `0` alone. -/
def collidingCloses : List SlotOp :=
  [.open_ 0, .open_ 1, .alloc 0, .alloc 1, .close 1, .dealloc 0, .open_ 1, .alloc 1, .close 1,
    .close 0]

/-- The refinement at a run that closes a granule beside one it collides with. -/
theorem slotArray_refines_sequential :
    ∃ arr, slotArrayCreate (Env.ample default) 2 = some arr ∧
      Agrees SlotArray.step (LiveMap.step 2) arr ∅ collidingCloses ∧
      probeIndex 2 0 0 = probeIndex 2 1 0 :=
  ⟨_, rfl, ((@slotArray_refines_iff (Env.ample default) 2 _ rfl _).1.mpr (by decide)).1, by decide⟩

end Drainprof
