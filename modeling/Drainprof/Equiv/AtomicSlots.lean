import Drainprof.AtomicSlots
import Drainprof.Equiv.SlotArray

/-!
# Calls on the slot array, atomic step by atomic step

`SlotArray.mem` reads a slot array as a memory of slots, of which a step changes at most the one its
call is at (`mem_setSlot`).

A call that runs alone does what the sequential model says (`slot_call_alone`), so that every run of
the sequential model is an interleaving (`exists_interleaving`).

The granule whose open claimed a slot is a history variable, the slot's *owner* (`ownerProgram`).
-/

namespace Drainprof

open Interleaving

/-! ### The array as a memory -/

namespace SlotArray

/-- The slots by their number; free past the end of the array. -/
def mem (arr : SlotArray) (j : ℕ) : GranuleSlot :=
  arr.slots.getD j .free

variable {arr : SlotArray}

theorem mem_val (arr : SlotArray) (i : Fin arr.capacity.toNat) : arr.mem i = arr.slot i := by
  rw [mem, List.getD_eq_getElem?_getD, getElem?_slots, Option.getD_some]

theorem slot_probed (arr : SlotArray) (id : GranuleId) (probe : ℕ) :
    arr.slot (arr.probed id probe) = arr.mem (probeIndex arr.capacity id probe) :=
  (arr.mem_val _).symm

theorem mem_setSlot (arr : SlotArray) (i : Fin arr.capacity.toNat) (s : GranuleSlot) :
    (arr.setSlot i s).mem = Function.update arr.mem i s := by
  have hi : i.val < arr.slots.length := by
    rw [arr.length_slots]
    exact i.isLt
  funext j
  show (arr.slots.set i.val s).getD j .free = _
  rw [List.getD_eq_getElem?_getD]
  by_cases hji : j = i.val
  · subst hji
    rw [List.getElem?_set_self hi, Function.update_self, Option.getD_some]
  · rw [List.getElem?_set_ne (Ne.symm hji), Function.update_of_ne hji, mem,
      List.getD_eq_getElem?_getD]

theorem mem_setSlot_probed (arr : SlotArray) (id : GranuleId) (probe : ℕ) (s : GranuleSlot) :
    (arr.setSlot (arr.probed id probe) s).mem
      = Function.update arr.mem (probeIndex arr.capacity id probe) s :=
  arr.mem_setSlot _ s

theorem holds_eq (arr : SlotArray) (j : ℕ) : arr.holds j = (arr.mem j).key := by
  rw [holds, mem, List.getD_eq_getElem?_getD]
  cases arr.slots[j]? <;> rfl

/-- A new array has the capacity asked for, and every slot is free. -/
theorem created {env : Env} {capacity : UInt32} (h : slotArrayCreate env capacity = some arr) :
    arr.capacity = capacity ∧ ∀ j, arr.mem j = .free := by
  obtain ⟨hcap, hslots⟩ := slotArrayCreate_slots h
  refine ⟨hcap, ?_⟩
  intro j
  rw [mem, hslots, List.getD_eq_getElem?_getD, List.getElem?_replicate]
  split_ifs <;> rfl

/-- Two changes of one slot are one. -/
theorem setSlot_setSlot (arr : SlotArray) (i : Fin arr.capacity.toNat) (s : GranuleSlot)
    (f : GranuleSlot → GranuleSlot) :
    (arr.setSlot i s).setSlot i (f ((arr.setSlot i s).slot i)) = arr.setSlot i (f s) := by
  have hself : (arr.setSlot i s).slot i = s := List.getElem_set_self _
  rw [hself]
  unfold setSlot
  congr 1
  exact List.set_set ..

end SlotArray

/-! ### The probes of a call -/

/-- The slots of the first probes for a granule. -/
def probedSlots (capacity : UInt32) (id : GranuleId) (probes : ℕ) : List ℕ :=
  (List.range probes).map (probeIndex capacity id)

theorem mem_probedSlots {capacity : UInt32} {id : GranuleId} {probes i : ℕ} :
    i ∈ probedSlots capacity id probes ↔ ∃ q < probes, probeIndex capacity id q = i := by
  rw [probedSlots, List.mem_map]
  simp only [List.mem_range]

theorem mem_probedSlots_succ {capacity : UInt32} {id : GranuleId} {probes i : ℕ} :
    i ∈ probedSlots capacity id (probes + 1) ↔
      i ∈ probedSlots capacity id probes ∨ i = probeIndex capacity id probes := by
  rw [probedSlots, List.range_succ, List.map_append, List.mem_append, List.map_singleton,
    List.mem_singleton]
  rfl

/-- Up to a capacity of `2 ^ 31`, probing every slot of the array. -/
theorem mem_probedSlots_of_capacity_le {capacity : UInt32} (hcap : capacity.toNat ≤ 2 ^ 31)
    {probes : ℕ} (hprobes : capacity.toNat ≤ probes) (id : GranuleId) {j : ℕ}
    (hj : j < capacity.toNat) : j ∈ probedSlots capacity id probes := by
  obtain ⟨q, hq, rfl⟩ := List.mem_map.mp (mem_probePath hcap id hj)
  exact mem_probedSlots.mpr ⟨q, Nat.lt_of_lt_of_le (List.mem_range.mp hq) hprobes, rfl⟩

/-! ### Calls -/

/-- The granule of a call. -/
def SlotOp.granule : SlotOp → GranuleId
  | .open_ id => id
  | .close id => id
  | .alloc id => id
  | .dealloc id => id

/-- The call at a point of the program. -/
def SlotPc.op : SlotPc → SlotOp
  | .openLoadOccupied id _ => .open_ id
  | .openLoadId id _ => .open_ id
  | .openExchange id _ => .open_ id
  | .openStoreId id _ => .open_ id
  | .openStoreCount id _ => .open_ id
  | .findLoadOccupied caller id _ => caller.op id
  | .findLoadId caller id _ => caller.op id
  | .closeLoadCount id _ => .close id
  | .closeStoreCount id _ _ => .close id
  | .closeStoreId id _ _ => .close id
  | .closeStoreOccupied id _ _ => .close id
  | .allocAdd id _ => .alloc id
  | .deallocSub id _ => .dealloc id
  | .returned op _ => op

/-- The call has returned. -/
def SlotPc.hasReturned : SlotPc → Bool
  | .returned _ _ => true
  | _ => false

theorem SlotOp.op_start (op : SlotOp) : op.start.op = op := by
  cases op <;> rfl

theorem Finder.op_found (caller : Finder) (id : GranuleId) (probe : ℕ) :
    (caller.found id probe).op = caller.op id := by
  cases caller <;> rfl

/-! ### The branches of a step -/

/-- A step, by the branch the code takes. -/
inductive SlotStep (arr : SlotArray) : SlotPc → SlotArray → SlotPc → Prop
  | openFull (id probe) (hall : arr.capacity.toNat ≤ probe) :
      SlotStep arr (.openLoadOccupied id probe) arr (.returned (.open_ id) (.int (-1)))
  | openTaken (id probe) (hlt : probe < arr.capacity.toNat)
      (hocc : (arr.mem (probeIndex arr.capacity id probe)).occupied = true) :
      SlotStep arr (.openLoadOccupied id probe) arr (.openLoadId id probe)
  | openFree (id probe) (hlt : probe < arr.capacity.toNat)
      (hocc : (arr.mem (probeIndex arr.capacity id probe)).occupied = false) :
      SlotStep arr (.openLoadOccupied id probe) arr (.openExchange id probe)
  | openFound (id probe) (hid : (arr.mem (probeIndex arr.capacity id probe)).granuleId = id) :
      SlotStep arr (.openLoadId id probe) arr (.returned (.open_ id) (.int 0))
  | openOther (id probe) (hid : (arr.mem (probeIndex arr.capacity id probe)).granuleId ≠ id) :
      SlotStep arr (.openLoadId id probe) arr (.openLoadOccupied id (probe + 1))
  | openLost (id probe) (hocc : (arr.mem (probeIndex arr.capacity id probe)).occupied = true) :
      SlotStep arr (.openExchange id probe) arr (.openLoadOccupied id (probe + 1))
  | openClaim (id probe) (hocc : (arr.mem (probeIndex arr.capacity id probe)).occupied = false) :
      SlotStep arr (.openExchange id probe) (arr.setSlot (arr.probed id probe)
        { arr.mem (probeIndex arr.capacity id probe) with occupied := true }) (.openStoreId id probe)
  | openStoreId (id probe) :
      SlotStep arr (.openStoreId id probe) (arr.setSlot (arr.probed id probe)
        { arr.mem (probeIndex arr.capacity id probe) with granuleId := id }) (.openStoreCount id probe)
  | openStoreCount (id probe) :
      SlotStep arr (.openStoreCount id probe) (arr.setSlot (arr.probed id probe)
        { arr.mem (probeIndex arr.capacity id probe) with liveCount := 0 })
        (.returned (.open_ id) (.int 0))
  | findAll (caller id probe) (hall : arr.capacity.toNat ≤ probe) :
      SlotStep arr (.findLoadOccupied caller id probe) arr (.returned (caller.op id) caller.missing)
  | findEmpty (caller id probe) (hlt : probe < arr.capacity.toNat)
      (hocc : (arr.mem (probeIndex arr.capacity id probe)).occupied = false) :
      SlotStep arr (.findLoadOccupied caller id probe) arr (.returned (caller.op id) caller.missing)
  | findTaken (caller id probe) (hlt : probe < arr.capacity.toNat)
      (hocc : (arr.mem (probeIndex arr.capacity id probe)).occupied = true) :
      SlotStep arr (.findLoadOccupied caller id probe) arr (.findLoadId caller id probe)
  | findHit (caller id probe)
      (hid : (arr.mem (probeIndex arr.capacity id probe)).granuleId = id) :
      SlotStep arr (.findLoadId caller id probe) arr (caller.found id probe)
  | findOther (caller id probe)
      (hid : (arr.mem (probeIndex arr.capacity id probe)).granuleId ≠ id) :
      SlotStep arr (.findLoadId caller id probe) arr (.findLoadOccupied caller id (probe + 1))
  | closeLoadCount (id probe) :
      SlotStep arr (.closeLoadCount id probe) arr
        (.closeStoreCount id probe (arr.mem (probeIndex arr.capacity id probe)).liveCount)
  | closeStoreCount (id probe liveCount) :
      SlotStep arr (.closeStoreCount id probe liveCount) (arr.setSlot (arr.probed id probe)
        { arr.mem (probeIndex arr.capacity id probe) with liveCount := 0 })
        (.closeStoreId id probe liveCount)
  | closeStoreId (id probe liveCount) :
      SlotStep arr (.closeStoreId id probe liveCount) (arr.setSlot (arr.probed id probe)
        { arr.mem (probeIndex arr.capacity id probe) with granuleId := 0 })
        (.closeStoreOccupied id probe liveCount)
  | closeStoreOccupied (id probe liveCount) :
      SlotStep arr (.closeStoreOccupied id probe liveCount) (arr.setSlot (arr.probed id probe)
        { arr.mem (probeIndex arr.capacity id probe) with occupied := false })
        (.returned (.close id) (.count liveCount))
  | allocAdd (id probe) :
      SlotStep arr (.allocAdd id probe) (arr.setSlot (arr.probed id probe)
        { arr.mem (probeIndex arr.capacity id probe) with
          liveCount := (arr.mem (probeIndex arr.capacity id probe)).liveCount + 1 })
        (.returned (.alloc id) (.int 0))
  | deallocSub (id probe) :
      SlotStep arr (.deallocSub id probe) (arr.setSlot (arr.probed id probe)
        { arr.mem (probeIndex arr.capacity id probe) with
          liveCount := (arr.mem (probeIndex arr.capacity id probe)).liveCount - 1 })
        (.returned (.dealloc id) (.int 0))

/-- The inversion of `slotStep`, from which the case analyses of the steps start. -/
theorem slotStep_cases {arr arr' : SlotArray} {p p' : SlotPc}
    (h : slotStep arr p = some (arr', p')) : SlotStep arr p arr' p' := by
  cases p with
  | openLoadOccupied id probe =>
    rw [slotStep, arr.slot_probed] at h
    split_ifs at h with hlt hocc
    · cases h
      exact .openTaken id probe hlt hocc
    · cases h
      exact .openFree id probe hlt (Bool.eq_false_iff.mpr hocc)
    · cases h
      exact .openFull id probe (Nat.le_of_not_lt hlt)
  | openLoadId id probe =>
    rw [slotStep, arr.slot_probed] at h
    split_ifs at h with hid
    · cases h
      exact .openFound id probe hid
    · cases h
      exact .openOther id probe hid
  | openExchange id probe =>
    rw [slotStep, arr.slot_probed] at h
    split_ifs at h with hocc
    · cases h
      exact .openLost id probe hocc
    · cases h
      exact .openClaim id probe (Bool.eq_false_iff.mpr hocc)
  | findLoadOccupied caller id probe =>
    rw [slotStep, arr.slot_probed] at h
    split_ifs at h with hlt hocc
    · cases h
      exact .findTaken caller id probe hlt hocc
    · cases h
      exact .findEmpty caller id probe hlt (Bool.eq_false_iff.mpr hocc)
    · cases h
      exact .findAll caller id probe (Nat.le_of_not_lt hlt)
  | findLoadId caller id probe =>
    rw [slotStep, arr.slot_probed] at h
    split_ifs at h with hid
    · cases h
      exact .findHit caller id probe hid
    · cases h
      exact .findOther caller id probe hid
  | returned op ret => cases h
  | _ =>
    rw [slotStep, arr.slot_probed] at h
    cases h
    constructor

/-- The steps of a call are steps of the same call. -/
theorem slotStep_op {arr arr' : SlotArray} {p p' : SlotPc}
    (h : slotStep arr p = some (arr', p')) : p'.op = p.op := by
  cases slotStep_cases h with
  | findHit caller id probe => exact caller.op_found id probe
  | _ => rfl

/-! ### What a step writes -/

/-- The next step of the call makes the slot `old` with number `i` the slot `new`. -/
def SlotPc.Writes (capacity : UInt32) (i : ℕ) (old new : GranuleSlot) : SlotPc → Prop
  | .openExchange id probe =>
    i = probeIndex capacity id probe ∧ old.occupied = false ∧ new = { old with occupied := true }
  | .openStoreId id probe =>
    i = probeIndex capacity id probe ∧ new = { old with granuleId := id }
  | .openStoreCount id probe =>
    i = probeIndex capacity id probe ∧ new = { old with liveCount := 0 }
  | .closeStoreCount id probe _ =>
    i = probeIndex capacity id probe ∧ new = { old with liveCount := 0 }
  | .closeStoreId id probe _ =>
    i = probeIndex capacity id probe ∧ new = { old with granuleId := 0 }
  | .closeStoreOccupied id probe _ =>
    i = probeIndex capacity id probe ∧ new = { old with occupied := false }
  | .allocAdd id probe =>
    i = probeIndex capacity id probe ∧ new = { old with liveCount := old.liveCount + 1 }
  | .deallocSub id probe =>
    i = probeIndex capacity id probe ∧ new = { old with liveCount := old.liveCount - 1 }
  | _ => False

/-- A step writes at most one slot. -/
theorem slotStep_mem {arr arr' : SlotArray} {p p' : SlotPc}
    (h : slotStep arr p = some (arr', p')) :
    arr'.capacity = arr.capacity ∧ (arr'.mem = arr.mem ∨ ∃ i new,
      p.Writes arr.capacity i (arr.mem i) new ∧ arr'.mem = Function.update arr.mem i new) := by
  cases slotStep_cases h with
  | openClaim id probe hocc =>
    exact ⟨rfl, Or.inr ⟨_, _, ⟨rfl, hocc, rfl⟩, arr.mem_setSlot_probed ..⟩⟩
  | openStoreId id probe => exact ⟨rfl, Or.inr ⟨_, _, ⟨rfl, rfl⟩, arr.mem_setSlot_probed ..⟩⟩
  | openStoreCount id probe => exact ⟨rfl, Or.inr ⟨_, _, ⟨rfl, rfl⟩, arr.mem_setSlot_probed ..⟩⟩
  | closeStoreCount id probe liveCount =>
    exact ⟨rfl, Or.inr ⟨_, _, ⟨rfl, rfl⟩, arr.mem_setSlot_probed ..⟩⟩
  | closeStoreId id probe liveCount =>
    exact ⟨rfl, Or.inr ⟨_, _, ⟨rfl, rfl⟩, arr.mem_setSlot_probed ..⟩⟩
  | closeStoreOccupied id probe liveCount =>
    exact ⟨rfl, Or.inr ⟨_, _, ⟨rfl, rfl⟩, arr.mem_setSlot_probed ..⟩⟩
  | allocAdd id probe => exact ⟨rfl, Or.inr ⟨_, _, ⟨rfl, rfl⟩, arr.mem_setSlot_probed ..⟩⟩
  | deallocSub id probe => exact ⟨rfl, Or.inr ⟨_, _, ⟨rfl, rfl⟩, arr.mem_setSlot_probed ..⟩⟩
  -- all other steps only read
  | _ => exact ⟨rfl, Or.inl rfl⟩

/-! ### A call that runs alone -/

theorem slotArrayOpen.go_succ (arr : SlotArray) (id : GranuleId) (fuel probe : ℕ) :
    slotArrayOpen.go arr id (hashGranuleId id % arr.capacity) (fuel + 1) probe
      = if (arr.slot (arr.probed id probe)).occupied then
          if (arr.slot (arr.probed id probe)).granuleId = id then (0, arr)
          else slotArrayOpen.go arr id (hashGranuleId id % arr.capacity) fuel (probe + 1)
        else (0, arr.setSlot (arr.probed id probe) ⟨0, true, id⟩) := rfl

theorem findSlot.go_succ (arr : SlotArray) (id : GranuleId) (fuel probe : ℕ) :
    findSlot.go arr id (hashGranuleId id % arr.capacity) (fuel + 1) probe
      = if !(arr.slot (arr.probed id probe)).occupied then none
        else if (arr.slot (arr.probed id probe)).granuleId = id then some (arr.probed id probe)
        else findSlot.go arr id (hashGranuleId id % arr.capacity) fuel (probe + 1) := rfl

/-- The three stores of an open into the slot it claims. -/
theorem open_alone_claim (arr : SlotArray) (id : GranuleId) (probe : ℕ)
    (hfree : (arr.slot (arr.probed id probe)).occupied = false) :
    slotProgram.Steps (arr, .openExchange id probe)
      (arr.setSlot (arr.probed id probe) ⟨0, true, id⟩, .returned (.open_ id) (.int 0)) := by
  let i := arr.probed id probe
  let claimed : GranuleSlot := ⟨(arr.slot i).liveCount, true, (arr.slot i).granuleId⟩
  let published : GranuleSlot := ⟨(arr.slot i).liveCount, true, id⟩
  have hexchange : slotStep arr (.openExchange id probe)
      = some (arr.setSlot i claimed, .openStoreId id probe) := by
    rw [slotStep]
    exact if_neg (by rw [hfree]; exact Bool.false_ne_true)
  have hpublish : slotStep (arr.setSlot i claimed) (.openStoreId id probe)
      = some (arr.setSlot i published, .openStoreCount id probe) :=
    congrArg (fun a => some (a, SlotPc.openStoreCount id probe))
      (arr.setSlot_setSlot i claimed fun s => { s with granuleId := id })
  have hcount : slotStep (arr.setSlot i published) (.openStoreCount id probe)
      = some (arr.setSlot i ⟨0, true, id⟩, .returned (.open_ id) (.int 0)) :=
    congrArg (fun a => some (a, SlotPc.returned (.open_ id) (.int 0)))
      (arr.setSlot_setSlot i published fun s => { s with liveCount := 0 })
  exact .head (c := ()) hexchange (.head (c := ()) hpublish (.head (c := ()) hcount .refl))

/-- The loop of `drainprof_slot_array_open`, from any probe on. -/
theorem open_alone_go (arr : SlotArray) (id : GranuleId) :
    ∀ fuel probe : ℕ, probe + fuel = arr.capacity.toNat →
      slotProgram.Steps (arr, .openLoadOccupied id probe)
        ((slotArrayOpen.go arr id (hashGranuleId id % arr.capacity) fuel probe).2,
          .returned (.open_ id)
            (.int (slotArrayOpen.go arr id (hashGranuleId id % arr.capacity) fuel probe).1)) := by
  intro fuel
  induction fuel with
  | zero =>
    intro probe hprobe
    have hfull : slotStep arr (.openLoadOccupied id probe)
        = some (arr, .returned (.open_ id) (.int (-1))) := by
      rw [slotStep, if_neg (by omega)]
    exact .head (c := ()) hfull .refl
  | succ fuel ih =>
    intro probe hprobe
    have hlt : probe < arr.capacity.toNat := by omega
    rw [slotArrayOpen.go_succ]
    split_ifs with hocc hid
    · -- the granule is already registered
      have hload : slotStep arr (.openLoadOccupied id probe) = some (arr, .openLoadId id probe) := by
        rw [slotStep, if_pos hlt]
        exact if_pos hocc
      have hfound : slotStep arr (.openLoadId id probe)
          = some (arr, .returned (.open_ id) (.int 0)) := by
        rw [slotStep]
        exact if_pos hid
      exact .head (c := ()) hload (.head (c := ()) hfound .refl)
    · have hload : slotStep arr (.openLoadOccupied id probe) = some (arr, .openLoadId id probe) := by
        rw [slotStep, if_pos hlt]
        exact if_pos hocc
      have hother : slotStep arr (.openLoadId id probe)
          = some (arr, .openLoadOccupied id (probe + 1)) := by
        rw [slotStep]
        exact if_neg hid
      exact .head (c := ()) hload (.head (c := ()) hother (ih (probe + 1) (by omega)))
    · -- the slot is free, and nobody else claims it
      have hload : slotStep arr (.openLoadOccupied id probe)
          = some (arr, .openExchange id probe) := by
        rw [slotStep, if_pos hlt]
        exact if_neg hocc
      exact .head (c := ()) hload (open_alone_claim arr id probe (Bool.eq_false_iff.mpr hocc))

/-- The loop of `find_slot`, from any probe on. -/
theorem find_alone_go (arr : SlotArray) (caller : Finder) (id : GranuleId) :
    ∀ fuel probe : ℕ, probe + fuel = arr.capacity.toNat →
      (∃ i, findSlot.go arr id (hashGranuleId id % arr.capacity) fuel probe = some (arr.probed id i) ∧
          slotProgram.Steps (arr, .findLoadOccupied caller id probe) (arr, caller.found id i)) ∨
        findSlot.go arr id (hashGranuleId id % arr.capacity) fuel probe = none ∧
          slotProgram.Steps (arr, .findLoadOccupied caller id probe)
            (arr, .returned (caller.op id) caller.missing) := by
  intro fuel
  induction fuel with
  | zero =>
    intro probe hprobe
    have hfull : slotStep arr (.findLoadOccupied caller id probe)
        = some (arr, .returned (caller.op id) caller.missing) := by
      rw [slotStep, if_neg (by omega)]
    -- every slot has been probed
    exact Or.inr ⟨rfl, .head (c := ()) hfull .refl⟩
  | succ fuel ih =>
    intro probe hprobe
    have hlt : probe < arr.capacity.toNat := by omega
    rw [findSlot.go_succ]
    cases hocc : (arr.slot (arr.probed id probe)).occupied with
    | false =>
      have hload : slotStep arr (.findLoadOccupied caller id probe)
          = some (arr, .returned (caller.op id) caller.missing) := by
        rw [slotStep, if_pos hlt]
        exact if_neg (by rw [hocc]; exact Bool.false_ne_true)
      -- the search ends at an empty slot
      exact Or.inr ⟨rfl, .head (c := ()) hload .refl⟩
    | true =>
      have hload : slotStep arr (.findLoadOccupied caller id probe)
          = some (arr, .findLoadId caller id probe) := by
        rw [slotStep, if_pos hlt]
        exact if_pos hocc
      rw [Bool.not_true, if_neg Bool.false_ne_true]
      by_cases hid : (arr.slot (arr.probed id probe)).granuleId = id
      · have hfound : slotStep arr (.findLoadId caller id probe)
            = some (arr, caller.found id probe) := by
          rw [slotStep]
          exact if_pos hid
        rw [if_pos hid]
        exact Or.inl ⟨probe, rfl, .head (c := ()) hload (.head (c := ()) hfound .refl)⟩
      · have hother : slotStep arr (.findLoadId caller id probe)
            = some (arr, .findLoadOccupied caller id (probe + 1)) := by
          rw [slotStep]
          exact if_neg hid
        rw [if_neg hid]
        rcases ih (probe + 1) (by omega) with ⟨i, hi, hsteps⟩ | ⟨hnone, hsteps⟩
        · exact Or.inl ⟨i, hi, .head (c := ()) hload (.head (c := ()) hother hsteps)⟩
        · exact Or.inr ⟨hnone, .head (c := ()) hload (.head (c := ()) hother hsteps)⟩

/-- The loads and stores of a close on the slot it has found. -/
theorem close_alone_found (arr : SlotArray) (id : GranuleId) (probe : ℕ) :
    slotProgram.Steps (arr, .closeLoadCount id probe)
      (arr.setSlot (arr.probed id probe) .free, .returned (.close id)
        (.count (arr.slot (arr.probed id probe)).liveCount)) := by
  let i := arr.probed id probe
  let n := (arr.slot i).liveCount
  let emptied : GranuleSlot := ⟨0, (arr.slot i).occupied, (arr.slot i).granuleId⟩
  let cleared : GranuleSlot := ⟨0, (arr.slot i).occupied, 0⟩
  have hcount : slotStep arr (.closeLoadCount id probe)
      = some (arr, .closeStoreCount id probe n) := rfl
  have hempty : slotStep arr (.closeStoreCount id probe n)
      = some (arr.setSlot i emptied, .closeStoreId id probe n) := rfl
  have hclear : slotStep (arr.setSlot i emptied) (.closeStoreId id probe n)
      = some (arr.setSlot i cleared, .closeStoreOccupied id probe n) :=
    congrArg (fun a => some (a, SlotPc.closeStoreOccupied id probe n))
      (arr.setSlot_setSlot i emptied fun s => { s with granuleId := 0 })
  have hrelease : slotStep (arr.setSlot i cleared) (.closeStoreOccupied id probe n)
      = some (arr.setSlot i .free, .returned (.close id) (.count n)) :=
    congrArg (fun a => some (a, SlotPc.returned (.close id) (.count n)))
      (arr.setSlot_setSlot i cleared fun s => { s with occupied := false })
  exact .head (c := ()) hcount (.head (c := ()) hempty (.head (c := ()) hclear
    (.head (c := ()) hrelease .refl)))

/-- **A call that runs alone** does what the sequential model says. -/
theorem slot_call_alone {arr arr' : SlotArray} {op : SlotOp} {ret : SlotRet}
    (h : arr.step op = .ok (ret, arr')) :
    slotProgram.Steps (arr, op.start) (arr', .returned op ret) := by
  cases op with
  | open_ id =>
    cases h
    exact open_alone_go arr id arr.capacity.toNat 0 (Nat.zero_add _)
  | close id =>
    rw [SlotArray.step, slotArrayClose] at h
    rcases find_alone_go arr .close id arr.capacity.toNat 0 (Nat.zero_add _) with
      ⟨i, hfind, hsteps⟩ | ⟨hfind, hsteps⟩
    · rw [findSlot, hfind] at h
      cases h
      exact hsteps.trans (close_alone_found arr id i)
    · rw [findSlot, hfind] at h
      cases h
      exact hsteps
  | alloc id =>
    rw [SlotArray.step, slotArrayAlloc, adjustLiveCount] at h
    rcases find_alone_go arr .alloc id arr.capacity.toNat 0 (Nat.zero_add _) with
      ⟨i, hfind, hsteps⟩ | ⟨hfind, hsteps⟩
    · rw [findSlot, hfind] at h
      cases h
      have hadd : slotStep arr (.allocAdd id i) = some (arr.setSlot (arr.probed id i)
          { arr.slot (arr.probed id i) with
            liveCount := (arr.slot (arr.probed id i)).liveCount + 1 },
          .returned (.alloc id) (.int 0)) := rfl
      exact hsteps.trans (Program.Steps.head (c := ()) hadd .refl)
    · rw [findSlot, hfind] at h
      cases h
      exact hsteps
  | dealloc id =>
    rw [SlotArray.step, slotArrayDealloc, adjustLiveCount] at h
    rcases find_alone_go arr .dealloc id arr.capacity.toNat 0 (Nat.zero_add _) with
      ⟨i, hfind, hsteps⟩ | ⟨hfind, hsteps⟩
    · rw [findSlot, hfind] at h
      cases h
      have hsub : slotStep arr (.deallocSub id i) = some (arr.setSlot (arr.probed id i)
          { arr.slot (arr.probed id i) with
            liveCount := (arr.slot (arr.probed id i)).liveCount - 1 },
          .returned (.dealloc id) (.int 0)) := rfl
      exact hsteps.trans (Program.Steps.head (c := ()) hsub .refl)
    · rw [findSlot, hfind] at h
      cases h
      exact hsteps

/-- **Every sequential run is an interleaving**: the one in which every call takes all its steps
before the next begins. -/
theorem exists_interleaving {arr arr' : SlotArray} {ops : List SlotOp} {rets : List SlotRet}
    (h : Transition.run SlotArray.step arr ops = .ok (rets, arr')) (calls : List SlotPc) :
    ∃ es, slotProgram.run ⟨arr, calls⟩ es
      = ⟨arr', calls ++ List.zipWith SlotPc.returned ops rets⟩ := by
  induction ops generalizing arr rets calls with
  | nil =>
    cases h
    refine ⟨[], ?_⟩
    rw [List.zipWith_nil_left, List.append_nil, Program.run]
  | cons op ops ih =>
    obtain ⟨ret, arr₁, rets', hstep, hrun, rfl⟩ := Transition.run_cons_eq_ok.mp h
    obtain ⟨es₁, hes₁⟩ := Program.exists_run_of_call (slot_call_alone hstep) calls
    obtain ⟨es₂, hes₂⟩ := ih hrun (calls ++ [.returned op ret])
    refine ⟨es₁ ++ es₂, ?_⟩
    rw [Program.run_append, hes₁, hes₂, List.zipWith_cons_cons, List.append_assoc,
      List.singleton_append]

/-! ### Owners -/

/-- The granule whose open has claimed each slot, until a close frees the slot. -/
abbrev Owners : Type := ℕ → Option GranuleId

/-- What a step of a call does to the owners. -/
def noteOwner (owner : Owners) (_ : Unit) (arr : SlotArray) : SlotPc → Owners
  | .openExchange id probe =>
    if (arr.mem (probeIndex arr.capacity id probe)).occupied then owner
    else Function.update owner (probeIndex arr.capacity id probe) (some id)
  | .closeStoreOccupied id probe _ =>
    Function.update owner (probeIndex arr.capacity id probe) none
  | _ => owner

/-- Calls on a slot array, with the owners of the slots. -/
abbrev ownerProgram : Program (SlotArray × Owners) SlotPc SlotOp Unit :=
  slotProgram.withHistory noteOwner

/-- A slot array before any call. -/
def ownerPool (arr : SlotArray) : Pool (SlotArray × Owners) SlotPc :=
  ⟨(arr, fun _ => none), []⟩

end Drainprof
