import Drainprof.Equiv.HeapReports
import Drainprof.Equiv.SlotArrayDiag

/-!
# The blocks of the granules

What the diagnostic slot array does with blocks.  It owns the records in its slots
(`SlotArrayDiag.own`): an open puts a record in or leaves nothing behind
(`slotArrayDiagOpen_realizes`), a close takes the record out (`slotArrayDiagClose_realizes`), and the
destruction frees the records that are left (`slotArrayDiagDestroy_realizes`).
-/

namespace Drainprof.Heap

open Ownership

/-! ### Granule records -/

/-- The blocks of a record. -/
def GranuleDiag.own (diag : GranuleDiag) : Multiset Block :=
  {diag.block} + {diag.allocs}

theorem GranuleDiag.block_mem_own (diag : GranuleDiag) : diag.block ∈ diag.own :=
  Multiset.mem_add.mpr (Or.inl (Multiset.mem_singleton_self _))

theorem GranuleDiag.allocs_mem_own (diag : GranuleDiag) : diag.allocs ∈ diag.own :=
  Multiset.mem_add.mpr (Or.inr (Multiset.mem_singleton_self _))

theorem granuleDiagCreate_realizes (env : Env) (id : GranuleId) (openTime : Timespec) :
    Realizes 0 (granuleDiagCreate env id openTime)
      (.ok (Drainprof.granuleDiagCreate env id openTime))
      (fun r r' => r.map GranuleDiag.content = r') fun r => r.elim 0 GranuleDiag.own := by
  have hnone : Realizes 0 (pure none : Prog (Option GranuleDiag)) (.ok none)
      (fun r r' => r.map GranuleDiag.content = r') fun r => r.elim 0 GranuleDiag.own :=
    Realizes.pure rfl rfl
  rw [granuleDiagCreate, Drainprof.granuleDiagCreate]
  refine Realizes.malloc ?_ ?_
  · intro hmalloc
    rw [hmalloc]
    exact hnone
  · intro hmalloc block
    rw [hmalloc]
    refine Realizes.malloc ?_ ?_
    · intro hcalloc
      rw [hcalloc]
      exact Realizes.free 0 rfl hnone
    · intro hcalloc allocs
      rw [hcalloc]
      cases hmutex : env.succeeds .diagMutexInit with
      | false => exact Realizes.free _ rfl (Realizes.free 0 rfl hnone)
      | true =>
        refine Realizes.pure rfl ?_
        show _ = ({block} : Multiset Block) + {allocs}
        abel

theorem granuleDiagDestroy_realizes (diag : GranuleDiag) :
    Realizes diag.own (granuleDiagDestroy diag) (.ok ()) (fun _ _ => True) fun _ => 0 :=
  Realizes.use diag.block_mem_own
    (Realizes.free {diag.block} (add_comm _ _) (Realizes.free_last 0 (add_zero _).symm trivial))

/-- A registration that finds no room moves the array, unless its new capacity would be zero. -/
theorem granuleDiagAddAlloc_realizes {env : Env} {diag : GranuleDiag} {allocId : AllocId}
    {size : UInt64} {file : FilePtr} {line : UInt32} {allocTime : Timespec}
    (hroom : diag.content.allocCount ≥ diag.content.allocCapacity →
      diag.content.allocCapacity * 2 ≠ 0) :
    Realizes diag.own (granuleDiagAddAlloc env diag allocId size file line allocTime)
      (Drainprof.granuleDiagAddAlloc env diag.content allocId size file line allocTime)
      (fun r r' => (r.1, r.2.content) = r') fun r => r.2.own := by
  refine Realizes.of_forall ?_
  rintro ⟨result, content⟩ hx
  refine Realizes.use diag.block_mem_own (Realizes.eval_ok hx ?_)
  by_cases hfull : diag.content.allocCount ≥ diag.content.allocCapacity
  · dsimp only
    rw [if_pos hfull]
    refine Realizes.realloc {diag.block} (add_comm _ _) ?_ ?_ ?_
    · intro hzero
      exact absurd (of_decide_eq_true hzero) (hroom hfull)
    · intro _ _ b
      refine Realizes.use (Multiset.mem_add.mpr (Or.inl (Multiset.mem_singleton_self b))) ?_
      exact Realizes.pure rfl (add_comm _ _)
    · intro _ _
      exact Realizes.pure rfl rfl
  · dsimp only
    rw [if_neg hfull]
    exact Realizes.use diag.allocs_mem_own (Realizes.pure rfl rfl)

theorem granuleDiagMarkFreed_realizes {diag : GranuleDiag} {allocId : AllocId}
    {freeTime : Timespec} :
    Realizes diag.own (granuleDiagMarkFreed diag allocId freeTime)
      (Drainprof.granuleDiagMarkFreed diag.content allocId freeTime)
      (fun r r' => (r.1, r.2.content) = r') fun r => r.2.own := by
  refine Realizes.of_forall ?_
  rintro ⟨result, content⟩ hx
  have huse : Realizes diag.own
      (if diag.content.allocCount ≠ 0 then use diag.allocs else pure ()) (.ok ()) (fun _ _ => True)
      fun _ => diag.own := by
    split_ifs
    · exact Realizes.use_last diag.allocs_mem_own trivial
    · exact Realizes.pure trivial rfl
  refine Realizes.use diag.block_mem_own (Realizes.step 0 (add_zero _).symm huse ?_)
  intro _ _
  exact Realizes.eval_ok hx (Realizes.pure rfl (add_zero _))

/-- A report gets blocks of its own, and without one nothing is left behind. -/
theorem granuleDiagGenerateReport_realizes {env : Env} {diag : GranuleDiag} {closeTime : Timespec} :
    Realizes diag.own (granuleDiagGenerateReport env diag closeTime)
      (Drainprof.granuleDiagGenerateReport env diag.content closeTime)
      (fun r r' => r.map PinningReport.content = r') fun r => ownReport r + diag.own := by
  have hnone : Realizes diag.own (pure none : Prog (Option PinningReport)) (.ok none)
      (fun r r' => r.map PinningReport.content = r') fun r => ownReport r + diag.own :=
    Realizes.pure rfl (zero_add _).symm
  refine Realizes.use diag.block_mem_own ?_
  rw [Drainprof.granuleDiagGenerateReport]
  by_cases hlive : diag.content.liveCount = 0
  · rw [if_pos hlive, if_pos hlive]
    exact hnone
  · rw [if_neg hlive, if_neg hlive]
    refine Realizes.malloc ?_ ?_
    · intro hmalloc
      rw [hmalloc]
      exact hnone
    · intro hmalloc block
      rw [hmalloc]
      refine Realizes.malloc ?_ ?_
      · intro hallocs
        rw [hallocs]
        exact Realizes.free _ rfl hnone
      · intro hallocs pinningAllocs
        rw [hallocs]
        refine Realizes.use ?_ (Realizes.use ?_ ?_)
        · exact Multiset.mem_add.mpr (Or.inr (Multiset.mem_add.mpr (Or.inr diag.allocs_mem_own)))
        · exact Multiset.mem_add.mpr (Or.inl (Multiset.mem_singleton_self _))
        · refine Realizes.eval ?_
          intro copied _
          refine Realizes.pure rfl ?_
          show _ = ({block} : Multiset Block) + {pinningAllocs} + diag.own
          abel

/-! ### Records with room

A registration moves the array of a record to a new block, unless the doubled capacity wraps to zero:
then the array is freed and the record keeps its address. -/

/-- The record is in order, and has room for `n` more registrations. -/
structure GranuleDiag.Fit (n : ℕ) (diag : GranuleDiag) : Prop where
  wf : diag.content.WF
  room : diag.content.allocCount.toNat + n ≤ 2 ^ 31

section Fit

variable {n : ℕ} {env : Env} {diag diag' : GranuleDiag} {r : Int}

theorem GranuleDiag.Fit.mono (h : diag.Fit (n + 1)) : diag.Fit n :=
  ⟨h.wf, Nat.le_of_succ_le h.room⟩

theorem GranuleDiag.Fit.created {id : GranuleId} {openTime : Timespec} (hn : n ≤ 2 ^ 31)
    (h : Drainprof.granuleDiagCreate env id openTime = some diag.content) : diag.Fit n := by
  obtain ⟨hwf, -, -, hrecords⟩ := granuleDiagCreate_spec h
  refine ⟨hwf, ?_⟩
  rw [← hwf.length_records, hrecords]
  exact (Nat.zero_add n).le.trans hn

/-- The capacity does not wrap. -/
theorem GranuleDiag.Fit.capacity_ne (h : diag.Fit (n + 1))
    (hfull : diag.content.allocCount ≥ diag.content.allocCapacity) :
    diag.content.allocCapacity * 2 ≠ 0 := by
  obtain ⟨k, hk, hcap⟩ := h.wf.capacity
  have hroom := h.room
  have hle := UInt32.le_iff_toNat_le.mp hfull
  have hpow : diag.content.allocCapacity.toNat = 2 ^ (k + 6) := by
    rw [hcap, pow_add, mul_comm]
    rfl
  rcases mul_two_cases hpow with ⟨-, -, -, hne⟩ | ⟨hmax, -⟩
  · exact hne
  · rw [hpow, hmax] at hle
    omega

theorem GranuleDiag.Fit.addAlloc (h : diag.Fit (n + 1)) {allocId : AllocId} {size : UInt64}
    {file : FilePtr} {line : UInt32} {t : Timespec}
    (hadd : Drainprof.granuleDiagAddAlloc env diag.content allocId size file line t
      = .ok (r, diag'.content)) : diag'.Fit n := by
  have hroom := h.room
  rcases granuleDiagAddAlloc_cases h.wf env allocId size file line t with
    ⟨d', hok, hwf, -, -, hrecords, -⟩ | ⟨-, hok⟩ | ⟨hmax, -⟩
  · rw [hok] at hadd
    cases hadd
    refine ⟨hwf, ?_⟩
    rw [← hwf.length_records, hrecords, List.length_append, List.length_singleton,
      h.wf.length_records]
    omega
  · rw [hok] at hadd
    obtain ⟨-, hsame⟩ := Prod.mk.inj (Except.ok.inj hadd)
    refine ⟨hsame ▸ h.wf, ?_⟩
    rw [← hsame]
    exact h.mono.room
  · omega

theorem GranuleDiag.Fit.markFreed (h : diag.Fit n) {allocId : AllocId} {t : Timespec}
    (hfree : Drainprof.granuleDiagMarkFreed diag.content allocId t = .ok (r, diag'.content)) :
    diag'.Fit n := by
  rcases granuleDiagMarkFreed_cases h.wf allocId t with ⟨i, rec_, hi, hmatches, hok⟩ | ⟨hok, -⟩
  all_goals
    rw [hok] at hfree
    obtain ⟨-, hsame⟩ := Prod.mk.inj (Except.ok.inj hfree)
  · refine ⟨hsame ▸ h.wf.freeAt hi hmatches.2 t, ?_⟩
    rw [← hsame]
    exact h.room
  · exact ⟨hsame ▸ h.wf, hsame ▸ h.room⟩

end Fit

/-! ### Slots -/

/-- The slot without blocks. -/
def DiagSlot.content (s : DiagSlot) : Drainprof.DiagSlot :=
  ⟨s.occupied, s.diag.map GranuleDiag.content⟩

/-- The blocks of the record in a slot. -/
def DiagSlot.own (s : DiagSlot) : Multiset Block :=
  s.diag.elim 0 GranuleDiag.own

/-- A free slot has no record, and a record in a slot has room for `n` more registrations. -/
structure DiagSlot.Fit (n : ℕ) (s : DiagSlot) : Prop where
  vacant : s.occupied = false → s.diag = none
  diag : ∀ diag ∈ s.diag, diag.Fit n

theorem DiagSlot.fit_free (n : ℕ) : DiagSlot.Fit n ⟨false, none⟩ :=
  ⟨fun _ => rfl, fun _ h => nomatch h⟩

theorem GranuleDiag.Fit.slot {n : ℕ} {diag : GranuleDiag} (h : diag.Fit n) :
    DiagSlot.Fit n ⟨true, some diag⟩ := by
  refine ⟨(nomatch ·), ?_⟩
  intro diag' hdiag'
  cases hdiag'
  exact h

namespace SlotArrayDiag

variable {arr : SlotArrayDiag} {n : ℕ}

/-- The array without blocks. -/
def content (arr : SlotArrayDiag) : Drainprof.SlotArrayDiag where
  capacity := arr.capacity
  slots := arr.slots.map DiagSlot.content
  length_slots := by rw [List.length_map, arr.length_slots]

/-- The blocks of the array and of the records in it. -/
def own (arr : SlotArrayDiag) : Multiset Block :=
  {arr.block} + ({arr.slotsBlock} + (arr.slots.map DiagSlot.own).sum)

theorem block_mem_own (arr : SlotArrayDiag) : arr.block ∈ arr.own :=
  Multiset.mem_add.mpr (Or.inl (Multiset.mem_singleton_self _))

theorem slotsBlock_mem_own (arr : SlotArrayDiag) : arr.slotsBlock ∈ arr.own :=
  Multiset.mem_add.mpr (Or.inr (Multiset.mem_add.mpr (Or.inl (Multiset.mem_singleton_self _))))

theorem slot_content (arr : SlotArrayDiag) (i : Fin arr.capacity.toNat) :
    arr.content.slot i = (arr.slot i).content :=
  List.getElem_map _

theorem setSlot_content (arr : SlotArrayDiag) (i : Fin arr.capacity.toNat) (s : DiagSlot) :
    (arr.setSlot i s).content = arr.content.setSlot i s.content := by
  simp [content, setSlot, Drainprof.SlotArrayDiag.setSlot, List.map_set]

/-- A slot that is written gives up its record for another. -/
theorem own_setSlot (arr : SlotArrayDiag) (i : Fin arr.capacity.toNat) (s : DiagSlot) :
    (arr.setSlot i s).own + (arr.slot i).own = arr.own + s.own := by
  have hi : i.val < arr.slots.length := by
    rw [arr.length_slots]
    exact i.isLt
  have hsum := @sum_set _ DiagSlot.own s arr.slots i.val hi
  have hslot : arr.slot i = arr.slots[i.val] := rfl
  calc (arr.setSlot i s).own + (arr.slot i).own
      = {arr.block} + ({arr.slotsBlock} + (((arr.slots.set i.val s).map DiagSlot.own).sum
          + arr.slots[i.val].own)) := by
        rw [own, hslot]
        show {arr.block} + ({arr.slotsBlock} + ((arr.slots.set i.val s).map DiagSlot.own).sum)
          + arr.slots[i.val].own = _
        abel
    _ = arr.own + s.own := by
        rw [hsum, own]
        abel

/-- All slots are in order. -/
def Fit (n : ℕ) (arr : SlotArrayDiag) : Prop :=
  ∀ s ∈ arr.slots, s.Fit n

theorem Fit.slot (h : arr.Fit n) (i : Fin arr.capacity.toNat) : (arr.slot i).Fit n :=
  h _ (List.get_mem _ _)

theorem Fit.setSlot (h : arr.Fit n) {s : DiagSlot} (hs : s.Fit n) (i : Fin arr.capacity.toNat) :
    (arr.setSlot i s).Fit n := by
  intro s' hs'
  rcases List.mem_or_eq_of_mem_set hs' with hmem | rfl
  · exact h s' hmem
  · exact hs

theorem Fit.mono (h : arr.Fit (n + 1)) : arr.Fit n :=
  fun s hs => ⟨(h s hs).vacant, fun diag hdiag => ((h s hs).diag diag hdiag).mono⟩

theorem own_le_own (arr : SlotArrayDiag) (i : Fin arr.capacity.toNat) :
    (arr.slot i).own ≤ arr.own := by
  have hsum : (arr.slot i).own ≤ (arr.slots.map DiagSlot.own).sum :=
    List.le_sum_of_mem (List.mem_map_of_mem (List.get_mem _ _))
  exact hsum.trans ((Multiset.le_add_left _ _).trans (Multiset.le_add_left _ _))

end SlotArrayDiag

/-! ### The slot array -/

theorem slotArrayDiagCreate_realizes (env : Env) (capacity : UInt32) (n : ℕ) :
    Realizes 0 (slotArrayDiagCreate env capacity) (.ok (Drainprof.slotArrayDiagCreate env capacity))
      (fun r r' => r.map SlotArrayDiag.content = r' ∧ ∀ arr ∈ r, arr.Fit n)
      fun r => r.elim 0 SlotArrayDiag.own := by
  have hnone : Realizes 0 (pure none : Prog (Option SlotArrayDiag)) (.ok none)
      (fun r r' => r.map SlotArrayDiag.content = r' ∧ ∀ arr ∈ r, arr.Fit n)
      fun r => r.elim 0 SlotArrayDiag.own :=
    Realizes.pure ⟨rfl, fun _ h => nomatch h⟩ rfl
  rw [slotArrayDiagCreate, Drainprof.slotArrayDiagCreate]
  refine Realizes.malloc ?_ ?_
  · intro hmalloc
    rw [hmalloc]
    exact hnone
  · intro hmalloc block
    rw [hmalloc]
    refine Realizes.malloc ?_ ?_
    · intro hcalloc
      rw [hcalloc]
      exact Realizes.free 0 rfl hnone
    · intro hcalloc slotsBlock
      rw [hcalloc]
      refine Realizes.pure ⟨?_, ?_⟩ ?_
      · simp [SlotArrayDiag.content, DiagSlot.content, DiagSlot.free]
      · intro arr harr s hs
        cases harr
        rw [List.eq_of_mem_replicate hs]
        exact DiagSlot.fit_free n
      · simp [SlotArrayDiag.own, DiagSlot.own, add_comm]

/-- The loop that destroys the array frees the records that are left. -/
theorem slotArrayDiagDestroy.go_realizes :
    ∀ slots : List DiagSlot,
      Realizes (slots.map DiagSlot.own).sum (slotArrayDiagDestroy.go slots)
        (Drainprof.slotArrayDiagDestroy.go (slots.map DiagSlot.content)) (fun _ _ => True)
        fun _ => 0 := by
  intro slots
  induction slots with
  | nil => exact Realizes.pure trivial rfl
  | cons s slots ih =>
    rw [List.map_cons, List.sum_cons, List.map_cons, slotArrayDiagDestroy.go,
      Drainprof.slotArrayDiagDestroy.go]
    obtain ⟨occupied, diag⟩ := s
    cases diag with
    | none => exact ih.of_eq (zero_add _)
    | some diag =>
      refine Realizes.of_forall ?_
      intro _ hx
      obtain ⟨_, -, hgo⟩ := bind_eq_ok.mp hx
      refine Realizes.step (slots.map DiagSlot.own).sum rfl (granuleDiagDestroy_realizes diag) ?_
      intro _ _
      rw [zero_add, ← hgo]
      exact ih

theorem slotArrayDiagDestroy_realizes (arr : SlotArrayDiag) :
    Realizes arr.own (slotArrayDiagDestroy arr) (Drainprof.slotArrayDiagDestroy arr.content)
      (fun _ _ => True) fun _ => 0 := by
  refine Realizes.use arr.block_mem_own (Realizes.use arr.slotsBlock_mem_own ?_)
  rw [Drainprof.slotArrayDiagDestroy, ← bind_pure (Drainprof.slotArrayDiagDestroy.go _)]
  refine Realizes.bind ({arr.block} + {arr.slotsBlock}) ?_
    (slotArrayDiagDestroy.go_realizes arr.slots) ?_
  · rw [SlotArrayDiag.own]
    abel
  · intro _ _ _ _
    refine Realizes.free {arr.block} (by abel) (Realizes.free_last 0 (add_zero _).symm trivial)

section Calls

variable {n : ℕ} {env : Env} {arr : SlotArrayDiag} {id : GranuleId}

/-- An open puts a record into a vacant slot, or leaves nothing behind. -/
theorem slotArrayDiagOpen_realizes {openTime : Timespec} (h : arr.Fit n) (hn : n ≤ 2 ^ 31) :
    Realizes arr.own (slotArrayDiagOpen env arr id openTime)
      (Drainprof.slotArrayDiagOpen env arr.content id openTime)
      (fun r r' => (r.1, r.2.content) = r' ∧ r.2.Fit n) fun r => r.2.own := by
  refine Realizes.use arr.block_mem_own ?_
  refine Realizes.eval ?_
  intro i _
  refine Realizes.use arr.slotsBlock_mem_own ?_
  have hocc : (arr.content.slot i).occupied = (arr.slot i).occupied := by
    rw [arr.slot_content]
    rfl
  rw [hocc]
  cases hslot : (arr.slot i).occupied with
  | true =>
    rw [if_pos rfl, if_pos rfl]
    exact Realizes.pure ⟨rfl, h⟩ rfl
  | false =>
    rw [if_neg Bool.false_ne_true, if_neg Bool.false_ne_true]
    have hown : ∀ s : DiagSlot, (arr.setSlot i s).own = s.own + arr.own := by
      intro s
      have hset := arr.own_setSlot i s
      have hvacant : (arr.slot i).own = 0 := by
        rw [DiagSlot.own, (h.slot i).vacant hslot]
        rfl
      rw [hvacant, add_zero] at hset
      rw [hset, add_comm]
    refine Realizes.step arr.own (zero_add _).symm (granuleDiagCreate_realizes env id openTime) ?_
    rintro created hcreated
    rw [← hcreated]
    cases created with
    | none =>
      refine Realizes.pure ⟨?_, h.setSlot (DiagSlot.fit_free n) i⟩ (hown ⟨false, none⟩).symm
      rw [arr.setSlot_content]
      rfl
    | some diag =>
      have hfit : diag.Fit n := GranuleDiag.Fit.created hn hcreated.symm
      refine Realizes.pure ⟨?_, h.setSlot hfit.slot i⟩ (hown ⟨true, some diag⟩).symm
      rw [arr.setSlot_content]
      rfl

theorem find_realizes {i : Fin arr.capacity.toNat} :
    Realizes arr.own ((arr.slot i).find id) (.ok ((arr.slot i).content.find id))
      (fun r r' => r.map GranuleDiag.content = r' ∧ ∀ diag ∈ r, arr.slot i = ⟨true, some diag⟩)
      fun _ => arr.own := by
  have hle := arr.own_le_own i
  generalize arr.slot i = s at hle ⊢
  obtain ⟨occupied, diag⟩ := s
  rw [DiagSlot.find, Drainprof.DiagSlot.find]
  cases occupied with
  | false => exact Realizes.pure ⟨rfl, fun _ h => nomatch h⟩ rfl
  | true =>
    cases diag with
    | none => exact Realizes.pure ⟨rfl, fun _ h => nomatch h⟩ rfl
    | some diag =>
      refine Realizes.use (Multiset.mem_of_le hle diag.block_mem_own) ?_
      refine Realizes.pure ⟨?_, ?_⟩ rfl
      · show _ = if diag.content.granuleId = id then some diag.content else none
        split_ifs <;> rfl
      · intro diag' hdiag'
        split_ifs at hdiag'
        · cases hdiag'
          rfl
        · cases hdiag'

/-- A lookup shows the record that is in the slot. -/
theorem slotArrayDiagGet_realizes :
    Realizes arr.own (slotArrayDiagGet arr id) (Drainprof.slotArrayDiagGet arr.content id)
      (fun r r' => r.map (fun e => (e.1, e.2.content)) = r' ∧
        ∀ e ∈ r, arr.slot e.1 = ⟨true, some e.2⟩)
      fun _ => arr.own := by
  refine Realizes.use arr.block_mem_own ?_
  refine Realizes.eval ?_
  intro i _
  refine Realizes.use arr.slotsBlock_mem_own ?_
  have hslot : arr.content.slot i = (arr.slot i).content := arr.slot_content i
  rw [hslot]
  refine Realizes.step 0 (add_zero _).symm find_realizes ?_
  rintro found ⟨hfound, hin⟩
  rw [← hfound]
  refine Realizes.pure ⟨?_, ?_⟩ (add_zero _)
  · cases found <;> rfl
  · intro e he
    obtain ⟨diag, hdiag, rfl⟩ := Option.mem_map.mp he
    exact hin diag hdiag

/-- A close takes the record out of the slot. -/
theorem slotArrayDiagClose_realizes (h : arr.Fit n) :
    Realizes arr.own (slotArrayDiagClose arr id) (Drainprof.slotArrayDiagClose arr.content id)
      (fun r r' => r.map (fun e => (e.1.content, e.2.content)) = r' ∧ ∀ e ∈ r, e.2.Fit n)
      fun r => r.elim arr.own fun e => e.1.own + e.2.own := by
  refine Realizes.use arr.block_mem_own ?_
  refine Realizes.eval ?_
  intro i _
  refine Realizes.use arr.slotsBlock_mem_own ?_
  have hslot : arr.content.slot i = (arr.slot i).content := arr.slot_content i
  rw [hslot]
  refine Realizes.step 0 (add_zero _).symm find_realizes ?_
  rintro found ⟨hfound, hin⟩
  rw [← hfound]
  cases found with
  | none => exact Realizes.pure ⟨rfl, fun _ h => nomatch h⟩ (add_zero _)
  | some diag =>
    refine Realizes.pure ⟨?_, ?_⟩ ?_
    · show some (diag.content, (arr.setSlot i ⟨false, none⟩).content) = _
      rw [arr.setSlot_content]
      rfl
    · intro e he
      cases he
      exact h.setSlot (DiagSlot.fit_free n) i
    · have hset := arr.own_setSlot i ⟨false, none⟩
      rw [hin diag rfl] at hset
      rw [add_zero]
      show arr.own = diag.own + (arr.setSlot i ⟨false, none⟩).own
      rw [add_comm]
      exact (add_zero _).symm.trans hset.symm

end Calls

end Drainprof.Heap
