import Drainprof.Equiv.AtomicSlots

/-!
# Opens that find the array full

An open makes one pass over the array, and fails after it has found every slot occupied at the time
it looked.  The slots it has passed may have been freed since: an array of two slots can be reported
full with one slot in use and nothing else claiming the other (`open_spuriously_full`).  As long as
no close frees a slot that an open in flight has already found occupied, an open fails only when the
array is full (`open_finds_slot`).
-/

namespace Drainprof

open Interleaving

/-! ### Opens in flight -/

/-- The call is an open that has not claimed a slot. -/
def SlotPc.unclaimed : SlotPc → Bool
  | .openLoadOccupied _ _ => true
  | .openLoadId _ _ => true
  | .openExchange _ _ => true
  | _ => false

/-- The slots an open that has not claimed a slot has found occupied. -/
def SlotPc.foundOccupied (capacity : UInt32) : SlotPc → List ℕ
  | .openLoadOccupied id probe => probedSlots capacity id probe
  | .openLoadId id probe => probedSlots capacity id (probe + 1)
  | .openExchange id probe => probedSlots capacity id probe
  | _ => []

/-- The slot that the next step of the call frees, if any. -/
def SlotPc.frees (capacity : UInt32) : SlotPc → Option ℕ
  | .closeStoreOccupied id probe _ => some (probeIndex capacity id probe)
  | _ => none

/-- There is room for the slots in use and for every open in flight that has not claimed one. -/
def HasRoom (s : Pool SlotArray SlotPc) : Prop :=
  s.shared.occupiedCount + s.calls.countP SlotPc.unclaimed ≤ s.shared.capacity.toNat

instance : DecidablePred HasRoom :=
  fun _ => Nat.decLe _ _

/-- No call in flight is for the granule of a call that begins. -/
def BeginsAlone (s : Pool SlotArray SlotPc) : Interleaving.Event SlotOp Unit → Prop
  | .start op => ∀ p ∈ s.calls, p.hasReturned = false → p.op.granule ≠ op.granule
  | .step _ _ => True

instance : ∀ s e, Decidable (BeginsAlone s e)
  | s, .start op => inferInstanceAs
    (Decidable (∀ p ∈ s.calls, p.hasReturned = false → p.op.granule ≠ op.granule))
  | _, .step _ _ => inferInstanceAs (Decidable True)

/-- No close frees a slot that an open in flight has found occupied. -/
def FreesAhead (s : Pool SlotArray SlotPc) : Interleaving.Event SlotOp Unit → Prop
  | .start _ => True
  | .step k _ => ∀ p ∈ s.calls[k]?, ∀ i ∈ p.frees s.shared.capacity,
    ∀ q ∈ s.calls, i ∉ q.foundOccupied s.shared.capacity

instance : ∀ s e, Decidable (FreesAhead s e)
  | _, .start _ => inferInstanceAs (Decidable True)
  | s, .step k _ =>
    have : ∀ p : SlotPc, Decidable (∀ i ∈ p.frees s.shared.capacity,
        ∀ q ∈ s.calls, i ∉ q.foundOccupied s.shared.capacity) :=
      fun _ => Option.decidableForallMem _
    Option.decidableForallMem s.calls[k]?

/-! ### One step -/

section Step

variable {arr arr' : SlotArray} {p p' : SlotPc}

/-- A step keeps occupied slots occupied, except for the one it frees. -/
theorem slotStep_occupied (h : slotStep arr p = some (arr', p')) :
    arr'.capacity = arr.capacity ∧ ∀ j, (arr.mem j).occupied = true →
      (arr'.mem j).occupied = true ∨ p.frees arr.capacity = some j := by
  obtain ⟨hcap, hmem | ⟨i, new, hwrites, hmem⟩⟩ := slotStep_mem h
  · refine ⟨hcap, fun j hj => Or.inl ?_⟩
    rw [hmem, hj]
  · refine ⟨hcap, fun j hj => ?_⟩
    rw [hmem]
    by_cases hji : j = i
    · subst hji
      rw [Function.update_self]
      -- the slot that is written
      cases p with
      | openExchange id probe =>
        obtain ⟨-, -, rfl⟩ := hwrites
        exact Or.inl rfl
      | closeStoreOccupied id probe liveCount =>
        obtain ⟨rfl, -⟩ := hwrites
        exact Or.inr rfl
      | openStoreId id probe => exact Or.inl (by rw [hwrites.2, hj])
      | openStoreCount id probe => exact Or.inl (by rw [hwrites.2, hj])
      | closeStoreCount id probe liveCount => exact Or.inl (by rw [hwrites.2, hj])
      | closeStoreId id probe liveCount => exact Or.inl (by rw [hwrites.2, hj])
      | allocAdd id probe => exact Or.inl (by rw [hwrites.2, hj])
      | deallocSub id probe => exact Or.inl (by rw [hwrites.2, hj])
      | _ => exact absurd hwrites id
    · exact Or.inl (by rw [Function.update_of_ne hji, hj])

/-- What an open in flight has found occupied it has found so before or in this step. -/
theorem slotStep_foundOccupied (h : slotStep arr p = some (arr', p')) {j : ℕ}
    (hj : j ∈ p'.foundOccupied arr.capacity) :
    j ∈ p.foundOccupied arr.capacity ∨ (arr'.mem j).occupied = true := by
  cases slotStep_cases h with
  | openTaken id probe hlt hocc =>
    -- the slot just loaded is the new one
    rcases mem_probedSlots_succ.mp hj with hold | rfl
    · exact Or.inl hold
    · exact Or.inr hocc
  | openFree id probe => exact Or.inl hj
  | openOther id probe => exact Or.inl hj
  | openLost id probe hocc =>
    -- the exchange has found the slot claimed since it was loaded
    rcases mem_probedSlots_succ.mp hj with hold | rfl
    · exact Or.inl hold
    · exact Or.inr hocc
  | findHit caller id probe => cases caller <;> cases hj
  -- no other step is followed by one of an open that has yet to claim a slot
  | _ => cases hj

/-- An open fails only after it has found every slot occupied. -/
theorem slotStep_fails {id : GranuleId} (h : slotStep arr p = some (arr', p'))
    (hfails : p' = .returned (.open_ id) (.int (-1))) :
    ∃ probe, p = .openLoadOccupied id probe ∧ arr.capacity.toNat ≤ probe := by
  cases slotStep_cases h with
  | openFull id' probe hall =>
    cases hfails
    exact ⟨probe, rfl, hall⟩
  -- a search fails too, but it is not one of an open
  | findAll caller id' probe => cases caller <;> cases hfails
  | findEmpty caller id' probe => cases caller <;> cases hfails
  | findHit caller id' probe => cases caller <;> cases hfails
  | _ => cases hfails

end Step

/-! ### Runs -/

/-- Every slot that an open in flight has found occupied still is, and no open has failed. -/
def occupiedOutline (capacity : UInt32) : Outline SlotArray SlotPc where
  shared arr := arr.capacity = capacity
  call arr p := (∀ j ∈ p.foundOccupied capacity, (arr.mem j).occupied = true) ∧
    ∀ id, p ≠ .returned (.open_ id) (.int (-1))
  pair _ _ := True
  symm _ _ _ := trivial

/-- If every slot is occupied and an open has not claimed one, there is no room. -/
theorem not_hasRoom_of_full {s : Pool SlotArray SlotPc} {p : SlotPc} (hp : p ∈ s.calls)
    (hunclaimed : p.unclaimed = true)
    (hfull : ∀ j < s.shared.capacity.toNat, (s.shared.mem j).occupied = true) : ¬HasRoom s := by
  have hcount : s.shared.occupiedCount = s.shared.capacity.toNat := by
    rw [SlotArray.occupiedCount_eq_capacity_iff]
    intro i
    rw [← s.shared.mem_val]
    exact hfull i i.isLt
  have hpos : 0 < s.calls.countP SlotPc.unclaimed := List.countP_pos_iff.mpr ⟨p, hp, hunclaimed⟩
  intro hroom
  rw [HasRoom, hcount] at hroom
  omega

theorem SlotOp.start_foundOccupied (op : SlotOp) (capacity : UInt32) :
    op.start.foundOccupied capacity = [] := by
  cases op <;> rfl

theorem occupiedOutline_next {capacity : UInt32} (hcap : capacity.toNat ≤ 2 ^ 31)
    {s : Pool SlotArray SlotPc} {e : Interleaving.Event SlotOp Unit}
    (h : (occupiedOutline capacity).Holds s) (hroom : HasRoom s) (hfrees : FreesAhead s e) :
    (occupiedOutline capacity).Holds (slotProgram.next s e) := by
  refine h.next ?_ ?_
  · intro op _
    refine ⟨⟨?_, ?_⟩, fun _ _ => trivial⟩
    · intro j hj
      rw [show slotProgram.start op = op.start from rfl, op.start_foundOccupied] at hj
      cases hj
    · intro id
      cases op <;> nofun
  · rintro k c p arr' p' rfl hk hstep
    have hstep : slotStep s.shared p = some (arr', p') := hstep
    have hcapacity : s.shared.capacity = capacity := h.shared
    obtain ⟨hcapacity', hoccupied⟩ := slotStep_occupied hstep
    have hp : p ∈ s.calls := List.mem_of_getElem? hk
    -- a slot that some open has found occupied is not the one the step frees
    have hkeep : ∀ q ∈ s.calls, ∀ j ∈ q.foundOccupied capacity,
        (s.shared.mem j).occupied = true → (arr'.mem j).occupied = true := by
      intro q hq j hj hocc
      rcases hoccupied j hocc with hocc' | hfreed
      · exact hocc'
      · rw [← hcapacity] at hj
        exact absurd hj (hfrees p hk j hfreed q hq)
    refine ⟨hcapacity'.trans hcapacity, ⟨?_, ?_⟩, ?_, fun _ _ _ => trivial⟩
    · intro j hj
      rw [← hcapacity] at hj
      rcases slotStep_foundOccupied hstep hj with hold | hnew
      · rw [hcapacity] at hold
        exact hkeep p hp j hold ((h.call p hp).1 j hold)
      · exact hnew
    · intro id hfails
      obtain ⟨probe, rfl, hall⟩ := slotStep_fails hstep hfails
      refine not_hasRoom_of_full hp rfl ?_ hroom
      intro j hj
      rw [hcapacity] at hj hall
      exact (h.call _ hp).1 j (mem_probedSlots_of_capacity_le hcap hall id hj)
    · intro q hq hcall _
      exact ⟨fun j hj => hkeep q hq j hj (hcall.1 j hj), hcall.2⟩

/-- **An open does not fail spuriously** as long as there is room for every open in flight and no
close frees a slot that one of them has already found occupied. -/
theorem open_finds_slot {env : Env} {capacity : UInt32} {arr : SlotArray}
    {es : List (Interleaving.Event SlotOp Unit)} (hcreate : slotArrayCreate env capacity = some arr)
    (hcap : capacity.toNat ≤ 2 ^ 31) (hroom : slotProgram.Always HasRoom (slotPool arr) es)
    (hfrees : slotProgram.Along FreesAhead (slotPool arr) es) :
    ∀ p ∈ (slotProgram.run (slotPool arr) es).calls, ∀ id,
      p ≠ .returned (.open_ id) (.int (-1)) := by
  obtain ⟨rfl, -⟩ := SlotArray.created hcreate
  have hinit : (occupiedOutline arr.capacity).Holds (slotPool arr) := Outline.Holds.nil rfl
  have hrun : (occupiedOutline arr.capacity).Holds (slotProgram.run (slotPool arr) es) :=
    Program.run_inv (fun s e h hok => occupiedOutline_next hcap h hok.1 hok.2) hinit
      (hroom.1.and hfrees)
  intro p hp
  exact (hrun.call p hp).2

/-- While an open has found one slot occupied and claims the other, a close frees the first. -/
def claimingRun : List (Interleaving.Event SlotOp Unit) :=
  [.start (.open_ 1), .step 0 (), .step 0 (), .step 0 (), .step 0 (),
    .start (.open_ 3), .step 1 (), .step 1 (),
    .start (.close 1), .step 2 (), .step 2 (), .step 2 (), .step 2 (), .step 2 (),
    .step 1 (), .step 1 (), .step 2 (), .step 1 (), .step 1 ()]

theorem open_finds_slot_claiming :
    ∃ arr, slotArrayCreate (Env.ample default) 2 = some arr ∧
      ∀ p ∈ (slotProgram.run (slotPool arr) claimingRun).calls, ∀ id,
        p ≠ .returned (.open_ id) (.int (-1)) :=
  ⟨_, rfl, @open_finds_slot (Env.ample default) 2 _ claimingRun rfl (by decide) (by decide)
    (by decide)⟩

/-- A granule whose slot an open has passed is closed, and a third granule claims the other slot. -/
def spuriousRun : List (Interleaving.Event SlotOp Unit) :=
  [.start (.open_ 1), .step 0 (), .step 0 (), .step 0 (), .step 0 (),
    .start (.open_ 3), .step 1 (), .step 1 (),
    .start (.close 1), .step 2 (), .step 2 (), .step 2 (), .step 2 (), .step 2 (), .step 2 (),
    .start (.open_ 2), .step 3 (), .step 3 (), .step 3 (), .step 3 (),
    .step 1 (), .step 1 (), .step 1 ()]

/-- Of two slots never more than one is in use when another open needs one, and it fails. -/
theorem open_spuriously_full :
    ¬∀ (env : Env) (capacity : UInt32) (arr : SlotArray)
      (es : List (Interleaving.Event SlotOp Unit)), slotArrayCreate env capacity = some arr →
      capacity.toNat ≤ 2 ^ 31 → slotProgram.Along BeginsAlone (slotPool arr) es →
      slotProgram.Always HasRoom (slotPool arr) es →
      ∀ p ∈ (slotProgram.run (slotPool arr) es).calls, ∀ id,
        p ≠ .returned (.open_ id) (.int (-1)) := by
  intro h
  have hnone := h (Env.ample default) 2 _ spuriousRun rfl (by decide) (by decide) (by decide)
  exact hnone (.returned (.open_ 3) (.int (-1))) (by decide) 3 rfl

end Drainprof
