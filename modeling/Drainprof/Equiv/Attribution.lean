import Drainprof.Equiv.AtomicSlots

/-!
# Whose allocations are counted

The callers of the slot array promise that no call on a granule overlaps with an open or a close of
the same granule (`Quiescent`), and that allocations belong to open granules.  Calls on other
granules still read slots that are being opened or closed, and such a slot shows the id `0`: an
allocation of granule `0` can be counted in a slot that is being closed for another granule
(`alloc_misattributed`).

That is the only way to miss.  As long as no call on granule `0` loads a `0` from a slot that granule
`0` does not own, every allocation and deallocation changes the live count of a slot that its own
granule owns (`allocs_attributed`).
-/

namespace Drainprof

open Interleaving

/-! ### The contract of the callers -/

/-- Opens and closes. -/
def SlotOp.isLifecycle : SlotOp → Bool
  | .open_ _ => true
  | .close _ => true
  | .alloc _ => false
  | .dealloc _ => false

/-- Two calls in flight on one granule, neither of which opens or closes it, or two calls on
different granules. -/
def SlotOp.Compatible (op op' : SlotOp) : Prop :=
  op.granule = op'.granule → op.isLifecycle = false ∧ op'.isLifecycle = false

instance (op op' : SlotOp) : Decidable (op.Compatible op') :=
  inferInstanceAs (Decidable (_ → _))

/-- The contract: a call that begins is compatible with all calls in flight. -/
def Quiescent {σ : Type} (s : Pool σ SlotPc) : Interleaving.Event SlotOp Unit → Prop
  | .start op => ∀ p ∈ s.calls, p.hasReturned = false → op.Compatible p.op
  | .step _ _ => True

instance {σ : Type} : ∀ (s : Pool σ SlotPc) e, Decidable (Quiescent s e)
  | s, .start op =>
    inferInstanceAs (Decidable (∀ p ∈ s.calls, p.hasReturned = false → op.Compatible p.op))
  | _, .step _ _ => instDecidableTrue

/-- The granule is open: an open of it has returned `0`, and no close of it has begun since. -/
def IsOpen (calls : List SlotPc) (id : GranuleId) : Prop :=
  .returned (.open_ id) (.int 0) ∈ calls.reverse.takeWhile fun p => p.op != .close id

/-- The contract, continued: allocations and deallocations are for open granules. -/
def OnOpenGranules {σ : Type} (s : Pool σ SlotPc) : Interleaving.Event SlotOp Unit → Prop
  | .start op => op.isLifecycle = false → IsOpen s.calls op.granule
  | .step _ _ => True

instance {σ : Type} : ∀ (s : Pool σ SlotPc) e, Decidable (OnOpenGranules s e)
  | s, .start op =>
    have : Decidable (IsOpen s.calls op.granule) := List.instDecidableMemOfLawfulBEq _ _
    inferInstanceAs (Decidable (op.isLifecycle = false → IsOpen s.calls op.granule))
  | _, .step _ _ => instDecidableTrue

/-! ### What must not be read -/

/-- If the next step loads an id for granule `0`, it loads no `0` from a slot that granule `0` does
not own. -/
def SlotPc.SeesOwnZero (arr : SlotArray) (owner : Owners) : SlotPc → Prop
  | .findLoadId _ id probe => id = 0 →
    (arr.mem (probeIndex arr.capacity id probe)).granuleId = 0 →
      owner (probeIndex arr.capacity id probe) = some 0
  | _ => True

instance (arr : SlotArray) (owner : Owners) : ∀ p : SlotPc, Decidable (p.SeesOwnZero arr owner)
  | .findLoadId _ _ _ => inferInstanceAs (Decidable (_ → _ → _))
  | .openLoadOccupied _ _ | .openLoadId _ _ | .openExchange _ _ | .openStoreId _ _
  | .openStoreCount _ _ | .findLoadOccupied _ _ _ | .closeLoadCount _ _ | .closeStoreCount _ _ _
  | .closeStoreId _ _ _ | .closeStoreOccupied _ _ _ | .allocAdd _ _ | .deallocSub _ _
  | .returned _ _ => instDecidableTrue

/-- The call that takes the step does not take a slot of another granule for one of granule `0`. -/
def SeesOwnZero (s : Pool (SlotArray × Owners) SlotPc) : Interleaving.Event SlotOp Unit → Prop
  | .start _ => True
  | .step k _ => ∀ p ∈ s.calls[k]?, p.SeesOwnZero s.shared.1 s.shared.2

instance : ∀ s e, Decidable (SeesOwnZero s e)
  | _, .start _ => instDecidableTrue
  | s, .step k _ => Option.decidableForallMem s.calls[k]?

/-! ### What must be counted -/

/-- The step of a call on a granule that ends it at `done` changes the live count of a slot that the
granule owns; the other steps of the call change nothing. -/
def CountsFor (m : SlotArray × Owners) (id : GranuleId) (count : UInt32 → UInt32) (done : SlotPc)
    (r : SlotArray × SlotPc) : Prop :=
  (r.2 = done → ∃ i : Fin m.1.capacity.toNat, m.2 i = some id ∧
      r.1 = m.1.setSlot i { m.1.slot i with liveCount := count (m.1.slot i).liveCount }) ∧
    (r.2 ≠ done → r.1 = m.1)

instance (m : SlotArray × Owners) (id : GranuleId) (count : UInt32 → UInt32) (done : SlotPc)
    (r : SlotArray × SlotPc) : Decidable (CountsFor m id count done r) :=
  instDecidableAnd

/-- An allocation or deallocation that returns `0` counts in a slot of its own granule. -/
def SlotPc.CountsOwn (m : SlotArray × Owners) (p : SlotPc) (r : SlotArray × SlotPc) : Prop :=
  match p.op with
  | .alloc id => CountsFor m id (· + 1) (.returned (.alloc id) (.int 0)) r
  | .dealloc id => CountsFor m id (· - 1) (.returned (.dealloc id) (.int 0)) r
  | _ => True

instance (m : SlotArray × Owners) (p : SlotPc) (r : SlotArray × SlotPc) :
    Decidable (p.CountsOwn m r) := by
  unfold SlotPc.CountsOwn
  split <;> infer_instance

/-- The call that takes the step counts in a slot of its own granule. -/
def Attributed (s : Pool (SlotArray × Owners) SlotPc) : Interleaving.Event SlotOp Unit → Prop
  | .start _ => True
  | .step k _ => ∀ p ∈ s.calls[k]?, ∀ r ∈ slotStep s.shared.1 p, p.CountsOwn s.shared r

instance : ∀ s e, Decidable (Attributed s e)
  | _, .start _ => instDecidableTrue
  | s, .step k _ =>
    have : ∀ p : SlotPc, Decidable (∀ r ∈ slotStep s.shared.1 p, p.CountsOwn s.shared r) :=
      fun _ => Option.decidableForallMem _
    Option.decidableForallMem s.calls[k]?

/-! ### The invariant -/

/-- A slot without an owner is free and shows the id `0`; a slot with an owner is occupied, and shows
its owner or `0`. -/
structure OwnersShown (capacity : UInt32) (m : SlotArray × Owners) : Prop where
  capacity_eq : m.1.capacity = capacity
  unowned : ∀ i, m.2 i = none → (m.1.mem i).occupied = false ∧ (m.1.mem i).granuleId = 0
  owned : ∀ i g, m.2 i = some g →
    (m.1.mem i).occupied = true ∧ ((m.1.mem i).granuleId = g ∨ (m.1.mem i).granuleId = 0)

/-- A call that has claimed or found a slot works on a slot of its own granule. -/
def SlotPc.Holds (capacity : UInt32) (m : SlotArray × Owners) : SlotPc → Prop
  | .openStoreId id probe => m.2 (probeIndex capacity id probe) = some id
  | .openStoreCount id probe => m.2 (probeIndex capacity id probe) = some id
  | .closeLoadCount id probe => m.2 (probeIndex capacity id probe) = some id
  | .closeStoreCount id probe _ => m.2 (probeIndex capacity id probe) = some id
  | .closeStoreId id probe _ => m.2 (probeIndex capacity id probe) = some id
  | .closeStoreOccupied id probe _ => m.2 (probeIndex capacity id probe) = some id ∧
    (m.1.mem (probeIndex capacity id probe)).granuleId = 0
  | .allocAdd id probe => m.2 (probeIndex capacity id probe) = some id
  | .deallocSub id probe => m.2 (probeIndex capacity id probe) = some id
  | _ => True

/-- The assertions about all calls, which are pairwise compatible while they are in flight. -/
def attributionOutline (capacity : UInt32) : Outline (SlotArray × Owners) SlotPc where
  shared := OwnersShown capacity
  call m p := p.Holds capacity m
  pair p q := p.hasReturned = false → q.hasReturned = false → p.op.Compatible q.op
  symm _ _ h hq hp hgranule := (h hp hq hgranule.symm).symm

/-! ### One step -/

section Step

variable {capacity : UInt32} {arr arr' : SlotArray} {owner : Owners} {p p' q : SlotPc}

/-- A free slot has no owner. -/
theorem OwnersShown.owner_eq_none (h : OwnersShown capacity (arr, owner)) {i : ℕ}
    (hfree : (arr.mem i).occupied = false) : owner i = none := by
  cases howner : owner i with
  | none => rfl
  | some g =>
    have := (h.owned i g howner).1
    rw [hfree] at this
    cases this

/-- A write that keeps a `0` in the slot it changes keeps it everywhere. -/
theorem granuleId_setSlot_zero {id : GranuleId} {probe j : ℕ} {new : GranuleSlot}
    (hnew : (arr.mem (probeIndex arr.capacity id probe)).granuleId = 0 → new.granuleId = 0)
    (hzero : (arr.mem j).granuleId = 0) :
    ((arr.setSlot (arr.probed id probe) new).mem j).granuleId = 0 := by
  rw [arr.mem_setSlot_probed]
  by_cases hj : j = probeIndex arr.capacity id probe
  · subst hj
    rw [Function.update_self]
    exact hnew hzero
  · rw [Function.update_of_ne hj, hzero]

/-- What a step may change: the owner of a slot that has none, or a slot of the granule of the call,
which is then an open or a close in flight. -/
theorem noteOwner_frame (h : OwnersShown capacity (arr, owner)) (hp : p.Holds capacity (arr, owner))
    (hstep : slotStep arr p = some (arr', p')) (j : ℕ) :
    (noteOwner owner () arr p j = owner j ∧
        ((arr.mem j).granuleId = 0 → (arr'.mem j).granuleId = 0)) ∨
      owner j = none ∨
      owner j = some p.op.granule ∧ p.op.isLifecycle = true ∧ p.hasReturned = false := by
  have hcapacity : arr.capacity = capacity := h.capacity_eq
  cases slotStep_cases hstep with
  | openLost id probe hocc =>
    refine Or.inl ⟨?_, fun hzero => hzero⟩
    rw [noteOwner, if_pos hocc]
  | openClaim id probe hocc =>
    by_cases hj : j = probeIndex arr.capacity id probe
    · -- the slot was free
      subst hj
      exact Or.inr (Or.inl (h.owner_eq_none hocc))
    · refine Or.inl ⟨?_, granuleId_setSlot_zero fun hzero => hzero⟩
      rw [noteOwner, hocc, if_neg Bool.false_ne_true, Function.update_of_ne hj]
  | openStoreId id probe =>
    by_cases hj : j = probeIndex arr.capacity id probe
    · rw [hj, hcapacity]
      exact Or.inr (Or.inr ⟨hp, rfl, rfl⟩)
    · refine Or.inl ⟨rfl, ?_⟩
      rw [arr.mem_setSlot_probed, Function.update_of_ne hj]
      exact fun hzero => hzero
  | closeStoreOccupied id probe liveCount =>
    by_cases hj : j = probeIndex arr.capacity id probe
    · rw [hj, hcapacity]
      exact Or.inr (Or.inr ⟨hp.1, rfl, rfl⟩)
    · refine Or.inl ⟨?_, granuleId_setSlot_zero fun hzero => hzero⟩
      rw [noteOwner, Function.update_of_ne hj]
  | openStoreCount id probe => exact Or.inl ⟨rfl, granuleId_setSlot_zero fun hzero => hzero⟩
  | closeStoreCount id probe liveCount =>
    exact Or.inl ⟨rfl, granuleId_setSlot_zero fun hzero => hzero⟩
  | closeStoreId id probe liveCount => exact Or.inl ⟨rfl, granuleId_setSlot_zero fun _ => rfl⟩
  | allocAdd id probe => exact Or.inl ⟨rfl, granuleId_setSlot_zero fun hzero => hzero⟩
  | deallocSub id probe => exact Or.inl ⟨rfl, granuleId_setSlot_zero fun hzero => hzero⟩
  -- all other steps only read
  | _ => exact Or.inl ⟨rfl, fun hzero => hzero⟩

/-- What one call's step keeps of the slot another call holds. -/
theorem SlotPc.Holds.frame {m m' : SlotArray × Owners} (h : q.Holds capacity m)
    (hframe : ∀ j, q.hasReturned = false → m.2 j = some q.op.granule →
      m'.2 j = m.2 j ∧ ((m.1.mem j).granuleId = 0 → (m'.1.mem j).granuleId = 0)) :
    q.Holds capacity m' := by
  cases q with
  | openStoreId id probe => exact (hframe _ rfl h).1.trans h
  | openStoreCount id probe => exact (hframe _ rfl h).1.trans h
  | closeLoadCount id probe => exact (hframe _ rfl h).1.trans h
  | closeStoreCount id probe liveCount => exact (hframe _ rfl h).1.trans h
  | closeStoreId id probe liveCount => exact (hframe _ rfl h).1.trans h
  | closeStoreOccupied id probe liveCount =>
    obtain ⟨howner, hzero⟩ := hframe _ rfl h.1
    exact ⟨howner.trans h.1, hzero h.2⟩
  | allocAdd id probe => exact (hframe _ rfl h).1.trans h
  | deallocSub id probe => exact (hframe _ rfl h).1.trans h
  | _ => trivial

/-- The step of a compatible call keeps the slot of a call. -/
theorem SlotPc.Holds.other (h : OwnersShown capacity (arr, owner))
    (hp : p.Holds capacity (arr, owner)) (hq : q.Holds capacity (arr, owner))
    (hpair : p.hasReturned = false → q.hasReturned = false → p.op.Compatible q.op)
    (hstep : slotStep arr p = some (arr', p')) :
    q.Holds capacity (arr', noteOwner owner () arr p) := by
  refine hq.frame ?_
  intro j hflight howner
  dsimp only at howner ⊢
  rcases noteOwner_frame h hp hstep j with hkept | hnone | ⟨hown, hlifecycle, hflight'⟩
  · exact hkept
  · rw [hnone] at howner
    cases howner
  · -- the slot would belong to both calls, one of which opens or closes its granule
    rw [hown, Option.some.injEq] at howner
    have := (hpair hflight' hflight howner).1
    rw [hlifecycle] at this
    cases this

/-- A change of the slot a call works on that leaves it occupied, with the id of its owner or `0`. -/
theorem OwnersShown.write (h : OwnersShown capacity (arr, owner)) {id g : GranuleId} {probe : ℕ}
    {new : GranuleSlot} (howner : owner (probeIndex arr.capacity id probe) = some g)
    (hocc : new.occupied = (arr.mem (probeIndex arr.capacity id probe)).occupied)
    (hid : new.granuleId = g ∨ new.granuleId = 0) :
    OwnersShown capacity (arr.setSlot (arr.probed id probe) new, owner) := by
  refine ⟨h.capacity_eq, ?_, ?_⟩
  · intro j hj
    dsimp only at hj ⊢
    have hne : j ≠ probeIndex arr.capacity id probe := by
      rintro rfl
      rw [howner] at hj
      cases hj
    rw [arr.mem_setSlot_probed, Function.update_of_ne hne]
    exact h.unowned j hj
  · intro j g' hj
    dsimp only at hj ⊢
    rw [arr.mem_setSlot_probed]
    by_cases hi : j = probeIndex arr.capacity id probe
    · rw [hi, howner, Option.some.injEq] at hj
      rw [hi, Function.update_self, hocc, ← hj]
      exact ⟨(h.owned _ g howner).1, hid⟩
    · rw [Function.update_of_ne hi]
      exact h.owned j g' hj

/-- A claim of a free slot, which shows the id `0`. -/
theorem OwnersShown.claim (h : OwnersShown capacity (arr, owner)) {id : GranuleId} {probe : ℕ}
    (hfree : (arr.mem (probeIndex arr.capacity id probe)).occupied = false) :
    OwnersShown capacity (arr.setSlot (arr.probed id probe)
        { arr.mem (probeIndex arr.capacity id probe) with occupied := true },
      Function.update owner (probeIndex arr.capacity id probe) (some id)) := by
  have hzero : (arr.mem (probeIndex arr.capacity id probe)).granuleId = 0 :=
    (h.unowned _ (h.owner_eq_none hfree)).2
  refine ⟨h.capacity_eq, ?_, ?_⟩
  all_goals
    intro j
    dsimp only
    rw [arr.mem_setSlot_probed]
    by_cases hj : j = probeIndex arr.capacity id probe
  · rw [hj, Function.update_self]
    nofun
  · rw [Function.update_of_ne hj, Function.update_of_ne hj]
    exact h.unowned j
  · intro g _
    rw [hj, Function.update_self]
    exact ⟨rfl, Or.inr hzero⟩
  · intro g hg
    rw [Function.update_of_ne hj] at hg
    rw [Function.update_of_ne hj]
    exact h.owned j g hg

/-- A release of a slot whose id has been cleared. -/
theorem OwnersShown.release (h : OwnersShown capacity (arr, owner)) {id : GranuleId} {probe : ℕ}
    (hzero : (arr.mem (probeIndex arr.capacity id probe)).granuleId = 0) :
    OwnersShown capacity (arr.setSlot (arr.probed id probe)
        { arr.mem (probeIndex arr.capacity id probe) with occupied := false },
      Function.update owner (probeIndex arr.capacity id probe) none) := by
  refine ⟨h.capacity_eq, ?_, ?_⟩
  all_goals
    intro j
    dsimp only
    rw [arr.mem_setSlot_probed]
    by_cases hj : j = probeIndex arr.capacity id probe
  · intro _
    rw [hj, Function.update_self]
    exact ⟨rfl, hzero⟩
  · rw [Function.update_of_ne hj, Function.update_of_ne hj]
    exact h.unowned j
  · rw [hj, Function.update_self]
    nofun
  · intro g hg
    rw [Function.update_of_ne hj] at hg
    rw [Function.update_of_ne hj]
    exact h.owned j g hg

/-- An occupied slot in which a call reads its own id belongs to the call's granule. -/
theorem OwnersShown.owner_of_granuleId (h : OwnersShown capacity (arr, owner)) {i : ℕ}
    {id : GranuleId} (hid : (arr.mem i).granuleId = id) (hown : id = 0 → owner i = some 0) :
    owner i = some id := by
  by_cases hzero : id = 0
  · rw [hzero]
    exact hown hzero
  · cases howner : owner i with
    | none => exact absurd (hid.symm.trans (h.unowned i howner).2) hzero
    | some g =>
      rcases (h.owned i g howner).2 with hg | hg
      · rw [← hg, hid]
      · exact absurd (hid.symm.trans hg) hzero

/-- What a step keeps for the slots and for the call that takes it. -/
theorem attribution_step (h : OwnersShown capacity (arr, owner))
    (hp : p.Holds capacity (arr, owner)) (hsees : p.SeesOwnZero arr owner)
    (hstep : slotStep arr p = some (arr', p')) :
    OwnersShown capacity (arr', noteOwner owner () arr p) ∧
      p'.Holds capacity (arr', noteOwner owner () arr p) := by
  obtain rfl : arr.capacity = capacity := h.capacity_eq
  cases slotStep_cases hstep with
  | openLost id probe hocc =>
    rw [noteOwner, if_pos hocc]
    exact ⟨h, trivial⟩
  | openClaim id probe hocc =>
    have hnot : ¬(arr.mem (probeIndex arr.capacity id probe)).occupied = true := by
      rw [hocc]
      exact Bool.false_ne_true
    rw [noteOwner, if_neg hnot]
    exact ⟨h.claim hocc, Function.update_self ..⟩
  | openStoreId id probe => exact ⟨h.write hp rfl (Or.inl rfl), hp⟩
  | openStoreCount id probe => exact ⟨h.write hp rfl (h.owned _ id hp).2, trivial⟩
  | findHit caller id probe hid =>
    -- the slot found is one of the granule looked for
    have hown : owner (probeIndex arr.capacity id probe) = some id := by
      refine h.owner_of_granuleId hid ?_
      intro hzero
      exact hsees hzero (hid.trans hzero)
    refine ⟨h, ?_⟩
    cases caller <;> exact hown
  | closeLoadCount id probe => exact ⟨h, hp⟩
  | closeStoreCount id probe liveCount => exact ⟨h.write hp rfl (h.owned _ id hp).2, hp⟩
  | closeStoreId id probe liveCount =>
    refine ⟨h.write hp rfl (Or.inr rfl), hp, ?_⟩
    dsimp only
    rw [arr.mem_setSlot_probed, Function.update_self]
  | closeStoreOccupied id probe liveCount => exact ⟨h.release hp.2, trivial⟩
  | allocAdd id probe => exact ⟨h.write hp rfl (h.owned _ id hp).2, trivial⟩
  | deallocSub id probe => exact ⟨h.write hp rfl (h.owned _ id hp).2, trivial⟩
  -- the other steps only read, and lead to a point about which nothing is claimed
  | _ => exact ⟨h, trivial⟩

end Step

/-! ### Runs -/

theorem slotStep_hasReturned {arr arr' : SlotArray} {p p' : SlotPc}
    (h : slotStep arr p = some (arr', p')) : p.hasReturned = false := by
  cases slotStep_cases h <;> rfl

theorem SlotOp.start_holds (op : SlotOp) (capacity : UInt32) (m : SlotArray × Owners) :
    op.start.Holds capacity m := by
  cases op <;> trivial

theorem attributionOutline_next {capacity : UInt32} {s : Pool (SlotArray × Owners) SlotPc}
    {e : Interleaving.Event SlotOp Unit} (h : (attributionOutline capacity).Holds s)
    (hquiescent : Quiescent s e) (hsees : SeesOwnZero s e) :
    (attributionOutline capacity).Holds (ownerProgram.next s e) := by
  refine h.next ?_ ?_
  · rintro op rfl
    refine ⟨op.start_holds capacity _, ?_⟩
    intro q hq _ hflight
    rw [show ownerProgram.start op = op.start from rfl, op.op_start]
    exact hquiescent q hq hflight
  · rintro k c p ⟨arr', owner'⟩ p' rfl hk hstep
    obtain ⟨hstep', hnote⟩ := Program.withHistory_step_eq_some.mp hstep
    have howner : owner' = noteOwner s.shared.2 () s.shared.1 p := hnote
    subst howner
    have hp := h.call_of_getElem? hk
    obtain ⟨hshown, hown⟩ := attribution_step h.shared hp (hsees p hk) hstep'
    refine ⟨hshown, hown, ?_, ?_⟩
    · intro q _ hq hpair
      exact SlotPc.Holds.other h.shared hp hq hpair hstep'
    · intro q _ hpair _ hflight
      rw [slotStep_op hstep']
      exact hpair (slotStep_hasReturned hstep') hflight

theorem CountsFor.rest {m : SlotArray × Owners} {id : GranuleId} {count : UInt32 → UInt32}
    {done p' : SlotPc} (hne : p' ≠ done) : CountsFor m id count done (m.1, p') :=
  ⟨fun heq => absurd heq hne, fun _ => rfl⟩

theorem CountsFor.done {m : SlotArray × Owners} {id : GranuleId} {done : SlotPc}
    (count : UInt32 → UInt32) (i : Fin m.1.capacity.toNat) (howner : m.2 i = some id) :
    CountsFor m id count done
      (m.1.setSlot i { m.1.slot i with liveCount := count (m.1.slot i).liveCount }, done) :=
  ⟨fun _ => ⟨i, howner, rfl⟩, fun hne => absurd rfl hne⟩

theorem SlotPc.countsOwn_rest {m : SlotArray × Owners} {p p' : SlotPc}
    (hne : p' ≠ .returned p.op (.int 0)) : p.CountsOwn m (m.1, p') := by
  unfold SlotPc.CountsOwn
  split
  · rename_i id hop
    rw [hop] at hne
    exact CountsFor.rest hne
  · rename_i id hop
    rw [hop] at hne
    exact CountsFor.rest hne
  · trivial

theorem Finder.missing_ne (caller : Finder) : caller.missing ≠ .int 0 := by
  cases caller <;> decide

/-- A call that works on a slot of its own granule counts there. -/
theorem SlotPc.Holds.countsOwn {m : SlotArray × Owners} {p p' : SlotPc} {arr' : SlotArray}
    (h : p.Holds m.1.capacity m) (hstep : slotStep m.1 p = some (arr', p')) :
    p.CountsOwn m (arr', p') := by
  -- where the search ends without a slot the call does not return `0`
  have hmissing : ∀ (caller : Finder) (id : GranuleId),
      SlotPc.returned (caller.op id) caller.missing ≠ .returned (caller.op id) (.int 0) :=
    fun caller _ heq => caller.missing_ne (SlotPc.returned.inj heq).2
  cases slotStep_cases hstep with
  | findAll caller id probe => exact SlotPc.countsOwn_rest (hmissing caller id)
  | findEmpty caller id probe => exact SlotPc.countsOwn_rest (hmissing caller id)
  | findTaken caller id probe =>
    refine SlotPc.countsOwn_rest ?_
    intro heq
    cases heq
  | findHit caller id probe =>
    refine SlotPc.countsOwn_rest ?_
    intro heq
    cases caller <;> cases heq
  | findOther caller id probe =>
    refine SlotPc.countsOwn_rest ?_
    intro heq
    cases heq
  | allocAdd id probe =>
    rw [← m.1.slot_probed]
    exact CountsFor.done (· + 1) (m.1.probed id probe) h
  | deallocSub id probe =>
    rw [← m.1.slot_probed]
    exact CountsFor.done (· - 1) (m.1.probed id probe) h
  -- an open or a close
  | _ => trivial

theorem attributionOutline_init {env : Env} {capacity : UInt32} {arr : SlotArray}
    (hcreate : slotArrayCreate env capacity = some arr) :
    (attributionOutline capacity).Holds (ownerPool arr) := by
  obtain ⟨hcapacity, hfree⟩ := SlotArray.created hcreate
  refine Outline.Holds.nil ⟨hcapacity, ?_, nofun⟩
  intro i _
  rw [show (arr, fun _ => none).1.mem i = .free from hfree i]
  exact ⟨rfl, rfl⟩

/-- **Allocation counts are not attributed to another granule**: under the contract of the callers,
and as long as no call on granule `0` loads a `0` from a slot that granule `0` does not own, every
allocation and deallocation that returns `0` changes the live count of a slot that its own granule
has claimed, and nothing else. -/
theorem allocs_attributed {env : Env} {capacity : UInt32} {arr : SlotArray}
    {es : List (Interleaving.Event SlotOp Unit)} (hcreate : slotArrayCreate env capacity = some arr)
    (hquiescent : ownerProgram.Along Quiescent (ownerPool arr) es)
    (hsees : ownerProgram.Along SeesOwnZero (ownerPool arr) es) :
    ownerProgram.Along Attributed (ownerPool arr) es := by
  have hnext : ∀ s e, (attributionOutline capacity).Holds s → Quiescent s e ∧ SeesOwnZero s e →
      (attributionOutline capacity).Holds (ownerProgram.next s e) := by
    intro s e h hok
    exact attributionOutline_next h hok.1 hok.2
  refine Program.Along.of_inv hnext ?_ (attributionOutline_init hcreate) (hquiescent.and hsees)
  intro s e h _
  cases e with
  | start op => trivial
  | step k _ =>
    intro p hk r hstep
    have hp : p.Holds capacity s.shared := h.call_of_getElem? hk
    have hcapacity : s.shared.1.capacity = capacity := h.shared.capacity_eq
    rw [← hcapacity] at hp
    exact hp.countsOwn hstep

/-- Granule `1` is opened in slot `0` and granule `0` in slot `1`; then granule `0` allocates while
granule `1` is closed, past slot `0` as long as that shows the id `1`. -/
def quietRun : List (Interleaving.Event SlotOp Unit) :=
  [.start (.open_ 1), .step 0 (), .step 0 (), .step 0 (), .step 0 (),
    .start (.open_ 0), .step 1 (), .step 1 (), .step 1 (), .step 1 (), .step 1 (), .step 1 (),
    .start (.close 1), .step 2 (), .step 2 (), .step 2 (), .step 2 (),
    .start (.alloc 0), .step 3 (), .step 3 (), .step 3 (), .step 3 (),
    .step 2 (), .step 2 (), .step 3 ()]

theorem allocs_attributed_quiet :
    ∃ arr, slotArrayCreate (Env.ample default) 2 = some arr ∧
      ownerProgram.Along Attributed (ownerPool arr) quietRun :=
  ⟨_, rfl, @allocs_attributed (Env.ample default) 2 _ quietRun rfl (by decide) (by decide)⟩

/-- The same calls, but granule `0` allocates after the id in slot `0` has been cleared and before
the slot is free. -/
def misattributingRun : List (Interleaving.Event SlotOp Unit) :=
  [.start (.open_ 1), .step 0 (), .step 0 (), .step 0 (), .step 0 (),
    .start (.open_ 0), .step 1 (), .step 1 (), .step 1 (), .step 1 (), .step 1 (), .step 1 (),
    .start (.close 1), .step 2 (), .step 2 (), .step 2 (), .step 2 (), .step 2 (),
    .start (.alloc 0), .step 3 (), .step 3 (), .step 3 ()]

/-- The allocation of granule `0` is counted in the slot that granule `1` is closed in. -/
theorem alloc_misattributed :
    ¬∀ (env : Env) (capacity : UInt32) (arr : SlotArray)
      (es : List (Interleaving.Event SlotOp Unit)), slotArrayCreate env capacity = some arr →
      ownerProgram.Along Quiescent (ownerPool arr) es →
      ownerProgram.Along OnOpenGranules (ownerPool arr) es →
      ownerProgram.Along Attributed (ownerPool arr) es := by
  intro h
  have hattributed := h (Env.ample default) 2 _ misattributingRun rfl (by decide) (by decide)
  exact absurd hattributed (by decide)

end Drainprof
