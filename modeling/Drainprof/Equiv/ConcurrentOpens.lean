import Drainprof.Equiv.AtomicSlots

/-!
# Concurrent opens

An open claims a slot and publishes its granule id in two steps, and in between the slot shows the
id `0`.  Another open that reads it then takes the slot for one of granule `0`: an open of the same
granule passes it and claims a second slot, and an open of granule `0` takes itself to be registered
already.

When every id an open reads tells whether the owner is its own granule, and no open loses a slot to
another open of its granule, concurrent opens neither lose nor duplicate a granule
(`concurrent_opens_registered`).
-/

namespace Drainprof

open Probing Interleaving

/-! ### What the opens have to see -/

/-- Only opens begin. -/
def OpensOnly (_ : Pool (SlotArray × Owners) SlotPc) : Interleaving.Event SlotOp Unit → Prop
  | .start (.open_ _) => True
  | .start _ => False
  | .step _ _ => True

instance : ∀ s e, Decidable (OpensOnly s e)
  | _, .start (.open_ _) => instDecidableTrue
  | _, .start (.close _) => instDecidableFalse
  | _, .start (.alloc _) => instDecidableFalse
  | _, .start (.dealloc _) => instDecidableFalse
  | _, .step _ _ => instDecidableTrue

/-- The next load of a granule id tells whether the slot belongs to the granule of the call, and a
slot that the call is about to claim does not. -/
def SlotPc.SeesOwner (arr : SlotArray) (owner : Owners) : SlotPc → Prop
  | .openLoadId id probe => ∀ g ∈ owner (probeIndex arr.capacity id probe),
    ((arr.mem (probeIndex arr.capacity id probe)).granuleId = id ↔ g = id)
  | .openExchange id probe => owner (probeIndex arr.capacity id probe) ≠ some id
  | _ => True

instance (arr : SlotArray) (owner : Owners) : ∀ p : SlotPc, Decidable (p.SeesOwner arr owner)
  | .openLoadId id probe => Option.decidableForallMem (owner (probeIndex arr.capacity id probe))
  | .openExchange _ _ => instDecidableNot
  | .openLoadOccupied _ _ | .openStoreId _ _ | .openStoreCount _ _ | .findLoadOccupied _ _ _
  | .findLoadId _ _ _ | .closeLoadCount _ _ | .closeStoreCount _ _ _ | .closeStoreId _ _ _
  | .closeStoreOccupied _ _ _ | .allocAdd _ _ | .deallocSub _ _ | .returned _ _ =>
    instDecidableTrue

/-- The call that takes the step sees the owner of its slot. -/
def SeesOwner (s : Pool (SlotArray × Owners) SlotPc) : Interleaving.Event SlotOp Unit → Prop
  | .start _ => True
  | .step k _ => ∀ p ∈ s.calls[k]?, p.SeesOwner s.shared.1 s.shared.2

instance : ∀ s e, Decidable (SeesOwner s e)
  | _, .start _ => instDecidableTrue
  | s, .step k _ => Option.decidableForallMem s.calls[k]?

/-! ### The invariant -/

/-- The slots of the first probes for a granule belong to other granules. -/
def PassedBy (capacity : UInt32) (owner : Owners) (id : GranuleId) (probes : ℕ) : Prop :=
  ∀ q < probes, ∃ g, owner (probeIndex capacity id q) = some g ∧ g ≠ id

theorem PassedBy.zero {capacity : UInt32} {owner : Owners} {id : GranuleId} :
    PassedBy capacity owner id 0 :=
  nofun

theorem PassedBy.succ {capacity : UInt32} {owner : Owners} {id g : GranuleId} {probes : ℕ}
    (h : PassedBy capacity owner id probes) (howner : owner (probeIndex capacity id probes) = some g)
    (hne : g ≠ id) : PassedBy capacity owner id (probes + 1) := by
  intro q hq
  rcases Nat.lt_succ_iff_lt_or_eq.mp hq with hlt | rfl
  · exact h q hlt
  · exact ⟨g, howner, hne⟩

theorem PassedBy.mono {capacity : UInt32} {owner owner' : Owners} {id : GranuleId} {probes : ℕ}
    (h : PassedBy capacity owner id probes)
    (hmono : ∀ j g, owner j = some g → owner' j = some g) :
    PassedBy capacity owner' id probes := by
  intro q hq
  obtain ⟨g, howner, hne⟩ := h q hq
  exact ⟨g, hmono _ g howner, hne⟩

/-- The slots in use are those with an owner, and every owner's own probes lead to its slot past
slots of others. -/
structure OwnersChained (capacity : UInt32) (m : SlotArray × Owners) : Prop where
  capacity_eq : m.1.capacity = capacity
  occupied_iff : ∀ i, (m.1.mem i).occupied = true ↔ m.2 i ≠ none
  chained : ∀ i g, m.2 i = some g →
    ∃ probe < capacity.toNat, probeIndex capacity g probe = i ∧ PassedBy capacity m.2 g probe

/-- Where a call stands: an open in flight has passed slots of other granules only, an open that has
claimed a slot owns it, and an open that has succeeded has a slot. -/
def SlotPc.Opens (capacity : UInt32) (owner : Owners) : SlotPc → Prop
  | .openLoadOccupied id probe => PassedBy capacity owner id probe
  | .openLoadId id probe => probe < capacity.toNat ∧ PassedBy capacity owner id probe ∧
    owner (probeIndex capacity id probe) ≠ none
  | .openExchange id probe => probe < capacity.toNat ∧ PassedBy capacity owner id probe
  | .openStoreId id probe => owner (probeIndex capacity id probe) = some id
  | .openStoreCount id probe => owner (probeIndex capacity id probe) = some id
  | .returned op ret => ∀ id, op = .open_ id → ret = .int 0 → ∃ i, owner i = some id
  | _ => False

/-- The assertions of the opens. -/
def opensOutline (capacity : UInt32) : Outline (SlotArray × Owners) SlotPc where
  shared := OwnersChained capacity
  call m p := p.Opens capacity m.2
  pair _ _ := True
  symm _ _ _ := trivial

/-- An owner's granule id is in its slot, or an open is about to store it. -/
def Published (capacity : UInt32) (s : Pool (SlotArray × Owners) SlotPc) : Prop :=
  ∀ i g, s.shared.2 i = some g → (s.shared.1.mem i).granuleId = g ∨
    ∃ id probe, .openStoreId id probe ∈ s.calls ∧ probeIndex capacity id probe = i

/-! ### One step -/

section Step

variable {capacity : UInt32} {arr arr' : SlotArray} {owner owner' : Owners} {p p' : SlotPc}

/-- Owners stay as long as only opens run. -/
theorem SlotPc.Opens.mono (h : p.Opens capacity owner)
    (hmono : ∀ j g, owner j = some g → owner' j = some g) : p.Opens capacity owner' := by
  cases p with
  | openLoadOccupied id probe => exact PassedBy.mono h hmono
  | openLoadId id probe =>
    obtain ⟨hlt, hpassed, howned⟩ := h
    obtain ⟨g, hg⟩ := Option.ne_none_iff_exists'.mp howned
    refine ⟨hlt, hpassed.mono hmono, ?_⟩
    rw [hmono _ g hg]
    nofun
  | openExchange id probe => exact ⟨h.1, h.2.mono hmono⟩
  | openStoreId id probe => exact hmono _ _ h
  | openStoreCount id probe => exact hmono _ _ h
  | returned op ret =>
    intro id hop hret
    obtain ⟨i, hi⟩ := h id hop hret
    exact ⟨i, hmono i id hi⟩
  | _ => exact h

/-- A change of a slot that keeps it occupied or free. -/
theorem OwnersChained.write (h : OwnersChained capacity (arr, owner)) {id : GranuleId} {probe : ℕ}
    {new : GranuleSlot}
    (hnew : new.occupied = (arr.mem (probeIndex arr.capacity id probe)).occupied) :
    OwnersChained capacity (arr.setSlot (arr.probed id probe) new, owner) := by
  refine ⟨h.capacity_eq, ?_, h.chained⟩
  intro j
  rw [← h.occupied_iff j]
  dsimp only
  rw [arr.mem_setSlot_probed]
  by_cases hj : j = probeIndex arr.capacity id probe
  · rw [hj, Function.update_self, hnew]
  · rw [Function.update_of_ne hj]

/-- A claim of a slot without an owner takes nothing from others. -/
theorem claim_mono {i : ℕ} (hfree : owner i = none) (id : GranuleId) (j : ℕ) (g : GranuleId)
    (hg : owner j = some g) : Function.update owner i (some id) j = some g := by
  have hj : j ≠ i := by
    rintro rfl
    rw [hfree] at hg
    cases hg
  rw [Function.update_of_ne hj, hg]

/-- A claim of a free slot that an open has come to past slots of other granules. -/
theorem OwnersChained.claim (h : OwnersChained capacity (arr, owner)) {id : GranuleId} {probe : ℕ}
    {new : GranuleSlot} (hlt : probe < capacity.toNat) (hpassed : PassedBy capacity owner id probe)
    (hfree : owner (probeIndex arr.capacity id probe) = none) (hnew : new.occupied = true) :
    OwnersChained capacity (arr.setSlot (arr.probed id probe) new,
      Function.update owner (probeIndex arr.capacity id probe) (some id)) := by
  refine ⟨h.capacity_eq, ?_, ?_⟩
  · intro j
    dsimp only
    rw [arr.mem_setSlot_probed]
    by_cases hj : j = probeIndex arr.capacity id probe
    · rw [hj, Function.update_self, Function.update_self, hnew]
      exact ⟨fun _ => nofun, fun _ => rfl⟩
    · rw [Function.update_of_ne hj, Function.update_of_ne hj]
      exact h.occupied_iff j
  · intro j g hg
    dsimp only at hg
    by_cases hj : j = probeIndex arr.capacity id probe
    · rw [hj, Function.update_self, Option.some.injEq] at hg
      rw [← hg]
      have hcapacity : arr.capacity = capacity := h.capacity_eq
      exact ⟨probe, hlt, by rw [hj, hcapacity], hpassed.mono (claim_mono hfree id)⟩
    · rw [Function.update_of_ne hj] at hg
      obtain ⟨q, hq, hindex, hbefore⟩ := h.chained j g hg
      exact ⟨q, hq, hindex, hbefore.mono (claim_mono hfree id)⟩

/-- What a step of an open keeps. -/
theorem opens_step (h : OwnersChained capacity (arr, owner)) (hp : p.Opens capacity owner)
    (hsees : p.SeesOwner arr owner) (hstep : slotStep arr p = some (arr', p')) :
    OwnersChained capacity (arr', noteOwner owner () arr p) ∧
      p'.Opens capacity (noteOwner owner () arr p) ∧
      ∀ j g, owner j = some g → noteOwner owner () arr p j = some g := by
  obtain rfl : arr.capacity = capacity := h.capacity_eq
  cases slotStep_cases hstep with
  | openFull id probe =>
    refine ⟨h, ?_, fun _ _ hg => hg⟩
    intro _ _ hret
    exact absurd (SlotRet.int.inj hret) (by decide)
  | openTaken id probe hlt hocc =>
    exact ⟨h, ⟨hlt, hp, (h.occupied_iff _).mp hocc⟩, fun _ _ hg => hg⟩
  | openFree id probe hlt => exact ⟨h, ⟨hlt, hp⟩, fun _ _ hg => hg⟩
  | openFound id probe hid =>
    -- the granule is registered, in the slot of its owner
    obtain ⟨hlt, hpassed, howned⟩ := hp
    obtain ⟨g, hg⟩ := Option.ne_none_iff_exists'.mp howned
    refine ⟨h, ?_, fun _ _ hg => hg⟩
    intro id' hop _
    cases hop
    rw [(hsees g hg).mp hid] at hg
    exact ⟨_, hg⟩
  | openOther id probe hid =>
    obtain ⟨hlt, hpassed, howned⟩ := hp
    obtain ⟨g, hg⟩ := Option.ne_none_iff_exists'.mp howned
    have hne : g ≠ id := fun heq => hid ((hsees g hg).mpr heq)
    exact ⟨h, hpassed.succ hg hne, fun _ _ hg => hg⟩
  | openLost id probe hocc =>
    -- another open has claimed the slot, for another granule
    rw [noteOwner, if_pos hocc]
    obtain ⟨g, hg⟩ := Option.ne_none_iff_exists'.mp ((h.occupied_iff _).mp hocc)
    have hne : g ≠ id := by
      rintro rfl
      exact hsees hg
    exact ⟨h, hp.2.succ hg hne, fun _ _ hg => hg⟩
  | openClaim id probe hocc =>
    obtain ⟨hlt, hpassed⟩ := hp
    have hfree : owner (probeIndex arr.capacity id probe) = none := by
      by_contra howned
      have := (h.occupied_iff _).mpr howned
      rw [hocc] at this
      cases this
    have hnot : ¬(arr.mem (probeIndex arr.capacity id probe)).occupied = true := by
      rw [hocc]
      exact Bool.false_ne_true
    rw [noteOwner, if_neg hnot]
    exact ⟨h.claim hlt hpassed hfree rfl, Function.update_self .., claim_mono hfree id⟩
  | openStoreId id probe => exact ⟨h.write rfl, hp, fun _ _ hg => hg⟩
  | openStoreCount id probe =>
    refine ⟨h.write rfl, ?_, fun _ _ hg => hg⟩
    intro id' hop _
    cases hop
    exact ⟨_, hp⟩
  | _ => exact absurd hp id

end Step

/-! ### Runs -/

/-- The assertions of the opens, and the ids that are published. -/
def OpensInv (capacity : UInt32) (s : Pool (SlotArray × Owners) SlotPc) : Prop :=
  (opensOutline capacity).Holds s ∧ Published capacity s

theorem OpensInv.start {capacity : UInt32} {s : Pool (SlotArray × Owners) SlotPc}
    (h : OpensInv capacity s) (id : GranuleId) :
    OpensInv capacity { s with calls := s.calls ++ [.openLoadOccupied id 0] } := by
  refine ⟨h.1.start PassedBy.zero fun _ _ => trivial, ?_⟩
  intro i g hg
  rcases h.2 i g hg with hid | ⟨id', probe, hmem, hindex⟩
  · exact Or.inl hid
  · exact Or.inr ⟨id', probe, List.mem_append_left _ hmem, hindex⟩

/-- The slot into which the next step of an open stores its granule id, if any. -/
def SlotPc.storesId (capacity : UInt32) : SlotPc → Option ℕ
  | .openStoreId id probe => some (probeIndex capacity id probe)
  | _ => none

/-- The id of a slot changes only when its owner's open stores it. -/
theorem Published.step {capacity : UInt32} {s : Pool (SlotArray × Owners) SlotPc}
    (hholds : (opensOutline capacity).Holds s) (h : Published capacity s) {k : ℕ} {p p' : SlotPc}
    {arr' : SlotArray} (hk : s.calls[k]? = some p)
    (hstep : slotStep s.shared.1 p = some (arr', p')) :
    Published capacity
      ⟨(arr', noteOwner s.shared.2 () s.shared.1 p), s.calls.set k p'⟩ := by
  have hcapacity : s.shared.1.capacity = capacity := hholds.shared.capacity_eq
  have hlt : k < s.calls.length := (List.getElem?_eq_some_iff.mp hk).1
  have hown := hholds.call_of_getElem? hk
  -- a store that is pending in another call stays pending
  have hkeep : ∀ i g, p.storesId capacity ≠ some i →
      s.shared.2 i = some g → (s.shared.1.mem i).granuleId = g ∨
        ∃ id probe, .openStoreId id probe ∈ s.calls.set k p' ∧ probeIndex capacity id probe = i := by
    intro i g hne hg
    rcases h i g hg with hid | ⟨id, probe, hmem, hindex⟩
    · exact Or.inl hid
    · refine Or.inr ⟨id, probe, mem_set_of_ne hk hmem ?_, hindex⟩
      rintro rfl
      exact hne (congrArg some hindex)
  intro i g hg
  dsimp only at hg ⊢
  cases slotStep_cases hstep with
  | openLost id probe hocc =>
    rw [noteOwner, if_pos hocc] at hg
    exact hkeep i g (Option.some_ne_none i).symm hg
  | openClaim id probe hocc =>
    have hnot : ¬(s.shared.1.mem (probeIndex s.shared.1.capacity id probe)).occupied = true := by
      rw [hocc]
      exact Bool.false_ne_true
    rw [noteOwner, if_neg hnot] at hg
    rw [s.shared.1.mem_setSlot_probed]
    by_cases hi : i = probeIndex s.shared.1.capacity id probe
    · -- the open that has claimed the slot is about to store its id
      rw [hcapacity] at hi
      exact Or.inr ⟨id, probe, List.mem_set hlt _, hi.symm⟩
    · rw [Function.update_of_ne hi] at hg ⊢
      exact hkeep i g (Option.some_ne_none i).symm hg
  | openStoreId id probe =>
    rw [s.shared.1.mem_setSlot_probed]
    by_cases hi : i = probeIndex s.shared.1.capacity id probe
    · refine Or.inl ?_
      have howner : s.shared.2 (probeIndex capacity id probe) = some id := hown
      have hg : s.shared.2 i = some g := hg
      rw [hi, hcapacity, howner, Option.some.injEq] at hg
      rw [hi, Function.update_self, hg]
    · rw [Function.update_of_ne hi]
      refine hkeep i g ?_ hg
      intro heq
      rw [hcapacity] at hi
      exact hi (Option.some.inj heq).symm
  | openStoreCount id probe =>
    rw [s.shared.1.mem_setSlot_probed]
    by_cases hi : i = probeIndex s.shared.1.capacity id probe
    · rw [hi, Function.update_self]
      rw [hi] at hg
      exact hkeep _ g (Option.some_ne_none _).symm hg
    · rw [Function.update_of_ne hi]
      exact hkeep i g (Option.some_ne_none i).symm hg
  | openFull id probe => exact hkeep i g (Option.some_ne_none i).symm hg
  | openTaken id probe => exact hkeep i g (Option.some_ne_none i).symm hg
  | openFree id probe => exact hkeep i g (Option.some_ne_none i).symm hg
  | openFound id probe => exact hkeep i g (Option.some_ne_none i).symm hg
  | openOther id probe => exact hkeep i g (Option.some_ne_none i).symm hg
  | _ => exact absurd hown id

theorem OpensInv.next {capacity : UInt32} {s : Pool (SlotArray × Owners) SlotPc}
    {e : Interleaving.Event SlotOp Unit} (h : OpensInv capacity s) (hopens : OpensOnly s e)
    (hsees : SeesOwner s e) : OpensInv capacity (ownerProgram.next s e) := by
  rcases ownerProgram.next_cases s e with ⟨op, rfl, hnext⟩ |
    ⟨k, c, p, m, p', rfl, hk, hstep, hnext⟩ | hnext
  · cases op with
    | open_ id =>
      rw [hnext]
      exact h.start id
    | _ => exact absurd hopens id
  · obtain ⟨hstep', hnote⟩ := Program.withHistory_step_eq_some.mp hstep
    obtain ⟨arr', owner'⟩ := m
    have howner : owner' = noteOwner s.shared.2 () s.shared.1 p := hnote
    subst howner
    obtain ⟨hchained, hown, hmono⟩ :=
      opens_step h.1.shared (h.1.call_of_getElem? hk) (hsees p hk) hstep'
    rw [hnext]
    refine ⟨h.1.step hk ⟨hchained, hown, ?_, fun _ _ _ => trivial⟩, h.2.step h.1 hk hstep'⟩
    intro q _ hq _
    exact hq.mono hmono
  · rw [hnext]
    exact h

theorem opensInv_init {env : Env} {capacity : UInt32} {arr : SlotArray}
    (hcreate : slotArrayCreate env capacity = some arr) : OpensInv capacity (ownerPool arr) := by
  obtain ⟨hcapacity, hfree⟩ := SlotArray.created hcreate
  refine ⟨Outline.Holds.nil ⟨hcapacity, ?_, nofun⟩, nofun⟩
  intro i
  rw [show (arr, fun _ => none).1.mem i = .free from hfree i]
  exact ⟨nofun, fun h => absurd rfl h⟩

/-- Once all opens have returned, every slot holds its owner. -/
theorem OpensInv.holds_eq {capacity : UInt32} {s : Pool (SlotArray × Owners) SlotPc}
    (h : OpensInv capacity s) (hreturned : ∀ p ∈ s.calls, p.hasReturned = true) (i : ℕ) :
    s.shared.1.holds i = s.shared.2 i := by
  rw [s.shared.1.holds_eq]
  cases howner : s.shared.2 i with
  | none =>
    rw [GranuleSlot.key_eq_none_iff, ← Bool.not_eq_true, h.1.shared.occupied_iff, howner]
    exact fun hne => hne rfl
  | some g =>
    rw [GranuleSlot.key_eq_some_iff, h.1.shared.occupied_iff, howner]
    refine ⟨nofun, ?_⟩
    rcases h.2 i g howner with hid | ⟨id, probe, hmem, -⟩
    · exact hid
    · exact absurd (hreturned _ hmem) Bool.false_ne_true

/-- The search for every owner then ends at its slot. -/
theorem OpensInv.chained {capacity : UInt32} {s : Pool (SlotArray × Owners) SlotPc}
    (h : OpensInv capacity s) (hreturned : ∀ p ∈ s.calls, p.hasReturned = true) :
    Chained s.shared.1.holds (probePath s.shared.1.capacity) := by
  have hcapacity : s.shared.1.capacity = capacity := h.1.shared.capacity_eq
  intro i g hi
  rw [h.holds_eq hreturned] at hi
  obtain ⟨probe, hlt, hindex, hpassed⟩ := h.1.shared.chained i g hi
  rw [hcapacity]
  have hpath : ∀ q < capacity.toNat,
      (probePath capacity g)[q]? = some (probeIndex capacity g q) := by
    intro q hq
    rw [probePath, List.getElem?_map, List.getElem?_range hq, Option.map_some]
  refine locate_eq_hit_of_getElem? (m := probe) ?_ ?_ ?_
  · rw [hpath probe hlt, hindex]
  · rw [h.holds_eq hreturned, hi]
  · intro q hq j hj
    rw [hpath q (Nat.lt_trans hq hlt), Option.some.injEq] at hj
    rw [h.holds_eq hreturned, ← hj]
    exact hpassed q hq

/-- **Concurrent opens neither lose nor duplicate a granule** whose owners they see: once all of them
have returned, every granule for which one returned `0` is found, in the one slot that holds it. -/
theorem concurrent_opens_registered {env : Env} {capacity : UInt32} {arr : SlotArray}
    {es : List (Interleaving.Event SlotOp Unit)} (hcreate : slotArrayCreate env capacity = some arr)
    (hopens : ownerProgram.Along OpensOnly (ownerPool arr) es)
    (hsees : ownerProgram.Along SeesOwner (ownerPool arr) es)
    (hreturned : ∀ p ∈ (slotProgram.run (slotPool arr) es).calls, p.hasReturned = true) {id : GranuleId}
    (hid : .returned (.open_ id) (.int 0) ∈ (slotProgram.run (slotPool arr) es).calls) :
    ∃ i, findSlot (slotProgram.run (slotPool arr) es).shared id = some i ∧
      ∀ j, ((slotProgram.run (slotPool arr) es).shared.slot j).key = some id ↔ j = i := by
  have hplain : (ownerProgram.run (ownerPool arr) es).plain = slotProgram.run (slotPool arr) es :=
    Program.run_withHistory (ownerPool arr) es
  have hinv : OpensInv capacity (ownerProgram.run (ownerPool arr) es) :=
    Program.run_inv (fun s e h hok => h.next hok.1 hok.2) (opensInv_init hcreate)
      (hopens.and hsees)
  rw [← hplain] at hreturned hid ⊢
  generalize ownerProgram.run (ownerPool arr) es = s at *
  have hchained := hinv.chained hreturned
  obtain ⟨i, hi⟩ : ∃ i, s.shared.2 i = some id := hinv.1.call _ hid id rfl rfl
  rw [← hinv.holds_eq hreturned] at hi
  obtain ⟨i, rfl, -⟩ := SlotArray.exists_of_holds hi
  refine ⟨i, findSlot_eq_some_iff.mpr (hchained _ _ hi), ?_⟩
  intro j
  rw [← SlotArray.holds_val]
  constructor
  · intro hj
    exact Fin.ext (hchained.slot_unique hj hi)
  · rintro rfl
    exact hi

/-- Two opens that both come to slot `0` first, the second after the id of the first is published. -/
def passingRun : List (Interleaving.Event SlotOp Unit) :=
  [.start (.open_ 1), .start (.open_ 3), .step 0 (), .step 0 (), .step 0 (), .step 1 (), .step 1 (),
    .step 0 (), .step 1 (), .step 1 (), .step 1 (), .step 1 ()]

theorem concurrent_opens_registered_passing :
    ∃ arr, slotArrayCreate (Env.ample default) 2 = some arr ∧
      ∃ i, findSlot (slotProgram.run (slotPool arr) passingRun).shared 3 = some i ∧
        ∀ j, ((slotProgram.run (slotPool arr) passingRun).shared.slot j).key = some 3 ↔ j = i := by
  refine ⟨_, rfl, ?_⟩
  refine @concurrent_opens_registered (Env.ample default) 2 _ passingRun rfl (by decide) (by decide)
    (by decide) 3 (by decide)

/-- Two opens of granule `1`, the second of which reads the slot that the first has claimed before
its id is published. -/
def duplicatingRun : List (Interleaving.Event SlotOp Unit) :=
  [.start (.open_ 1), .start (.open_ 1), .step 0 (), .step 0 (), .step 1 (), .step 1 (), .step 0 (),
    .step 0 (), .step 1 (), .step 1 (), .step 1 (), .step 1 ()]

/-- Both opens return `0`, and both slots hold the granule. -/
theorem concurrent_opens_duplicate :
    ¬∀ (env : Env) (capacity : UInt32) (arr : SlotArray)
      (es : List (Interleaving.Event SlotOp Unit)) (id : GranuleId),
      slotArrayCreate env capacity = some arr → ownerProgram.Along OpensOnly (ownerPool arr) es →
      (∀ p ∈ (slotProgram.run (slotPool arr) es).calls, p.hasReturned = true) →
      .returned (.open_ id) (.int 0) ∈ (slotProgram.run (slotPool arr) es).calls →
      ∃ i, findSlot (slotProgram.run (slotPool arr) es).shared id = some i ∧
        ∀ j, ((slotProgram.run (slotPool arr) es).shared.slot j).key = some id ↔ j = i := by
  intro h
  obtain ⟨i, -, hall⟩ := h (Env.ample default) 2 _ duplicatingRun 1 rfl (by decide) (by decide)
    (by decide)
  have hzero : 0 = i.val := congrArg Fin.val ((hall (0 : Fin 2)).mp (by decide))
  have hone : 1 = i.val := congrArg Fin.val ((hall (1 : Fin 2)).mp (by decide))
  omega

end Drainprof
