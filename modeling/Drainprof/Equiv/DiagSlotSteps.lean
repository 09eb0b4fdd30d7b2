import Drainprof.Equiv.AtomicDiagSlots

/-!
# What one access of the diagnostic slot array does

`Advances` says what a step keeps and what it changes, for the memory, for the array of the sequential
model and for who knows the address of a record; one lemma for each step that writes.  A step either
means nothing for the array or is the one by which its call takes effect (`SlotEffect`): the exchange
of an open, the critical section of a registration or a free, the release of a close.
-/

namespace Drainprof

open Interleaving

/-! ### One step -/

/-- The address that only the call knows. -/
def DiagSlotPc.carries : DiagSlotPc → Option ℕ
  | openStoreDiag _ _ diag => diag
  | closeRelease _ _ out => out
  | closeLoadCount _ _ diag | closeReport _ _ diag _ | closeDestroy _ _ diag _ _ => some diag
  | _ => none

/-- The slot that the call has claimed or is about to release. -/
def DiagSlotPc.hides (capacity : UInt32) : DiagSlotPc → Option ℕ
  | openCreate _ id | openStoreDiag _ id _ | closeRelease _ id _ => some (diagSlotAt capacity id)
  | _ => none

/-- No record of the array has had more than `n` registrations. -/
def SlotArrayDiag.Counts (n : ℕ) (arr : SlotArrayDiag) : Prop :=
  ∀ i d, arr.mem i = some d → d.allocCount.toNat ≤ n

/-- What a step means for the array: nothing, or the call takes effect. -/
inductive SlotEffect (m m' : SharedSlots × SlotArrayDiag) (p p' : DiagSlotPc) : Prop
  | silent (harr : m'.2 = m.2) (howed : p'.owed m'.1 = p.owed m.1)
  | commit (r : DiagSlotResult) (hbefore : p.owed m.1 = none)
    (hserve : m.2.serve p.call = .ok (r, m'.2)) (hafter : p'.owed m'.1 = some r)
    (hcounts : ∀ n, m.2.Counts n → m'.2.Counts (n + if p.call.registers then 1 else 0))

/-- What one step does to the memory, to the array and to what is known of them. -/
structure Advances (capacity : UInt32) (m m' : SharedSlots × SlotArrayDiag) (p p' : DiagSlotPc) :
    Prop where
  shown : SlotsShown capacity m'
  own : p'.Holds capacity m'
  call_eq : p'.call = p.call
  frame : Frame capacity p.call m m'
  effect : SlotEffect m m' p p'
  settled : p.call.isClose = false → ∀ id, Settled capacity m id → Settled capacity m' id
  opened : ∀ id, p'.hasOpened id = true → Settled capacity m' id
  -- who knows the address of a record
  alloc : ∀ address d, m'.1.At address d → (∃ d', m.1.At address d') ∨ p'.carries = some address
  shows : ∀ i address, (m.1.slots i).diag = some address →
    (∃ j, (m'.1.slots j).diag = some address) ∨ p'.carries = some address
  carries : ∀ address d, p.carries = some address → m'.1.At address d →
    (∃ j, (m'.1.slots j).diag = some address) ∨ p'.carries = some address
  -- whose a slot is that does not show its record
  hidden : ∀ i, m'.2.mem i ≠ none → (m'.1.slots i).diag = none →
    p'.hides capacity = some i ∨ m.2.mem i ≠ none ∧ (m.1.slots i).diag = none
  hides : ∀ i, p.hides capacity = some i → m'.2.mem i ≠ none → (m'.1.slots i).diag = none →
    p'.hides capacity = some i

section Step

variable {capacity : UInt32} {m : SharedSlots} {arr arr' : SlotArrayDiag} {p p' : DiagSlotPc}
  {id : GranuleId} {address i : ℕ} {d d' : GranuleDiag}

/-- A step that only reads, and may return from an open. -/
theorem Advances.of_read (h : SlotsShown capacity (m, arr)) (hown : p'.Holds capacity (m, arr))
    (hcall : p'.call = p.call) (heffect : SlotEffect (m, arr) (m, arr) p p') (hcarries : p'.carries = p.carries)
    (hhides : p'.hides capacity = p.hides capacity)
    (hopened : ∀ id, p'.hasOpened id = true → Settled capacity (m, arr) id) :
    Advances capacity (m, arr) (m, arr) p p' where
  shown := h
  own := hown
  call_eq := hcall
  frame := Frame.refl capacity p.call (m, arr)
  effect := heffect
  settled _ _ h := h
  opened := hopened
  alloc _ d hat := Or.inl ⟨d, hat⟩
  shows i _ hi := Or.inl ⟨i, hi⟩
  carries _ _ hcarry _ := Or.inr (hcarries.trans hcarry)
  hidden _ hmem hdiag := Or.inr ⟨hmem, hdiag⟩
  hides _ hhide _ _ := hhides.trans hhide

/-- A step that only reads. -/
theorem Advances.read (h : SlotsShown capacity (m, arr)) (hown : p'.Holds capacity (m, arr))
    (hcall : p'.call = p.call) (howed : p'.owed m = p.owed m) (hcarries : p'.carries = p.carries)
    (hhides : p'.hides capacity = p.hides capacity) (hopened : ∀ id, p'.hasOpened id = false) :
    Advances capacity (m, arr) (m, arr) p p' := by
  refine Advances.of_read h hown hcall (.silent rfl howed) hcarries hhides ?_
  intro id hopen
  rw [hopened id] at hopen
  cases hopen

theorem SlotArrayDiag.WF.rewrites_self (h : arr.WF GranuleDiag.WF) (i : ℕ) :
    arr.Rewrites i (arr.mem i) arr :=
  ⟨h, rfl, (Function.update_eq_self i arr.mem).symm⟩

theorem SharedSlots.slots_setSlot (m : SharedSlots) (i j : ℕ) (s : SharedSlot) :
    (m.setSlot i s).slots j = if j = i then s else m.slots j := by
  show Function.update m.slots i s j = _
  rw [Function.update_apply]

/-- Claiming or releasing a slot does not touch its pointer. -/
theorem SharedSlots.diag_setOccupied (m : SharedSlots) (i : ℕ) (occupied : Bool) (j : ℕ) :
    ((m.setSlot i { m.slots i with occupied := occupied }).slots j).diag = (m.slots j).diag := by
  rw [m.slots_setSlot]
  split_ifs with hj
  · rw [hj]
  · rfl

/-- A slot is written together with the record of the array. -/
theorem SlotsShown.setSlot (h : SlotsShown capacity (m, arr)) {v : Option GranuleDiag}
    {s : SharedSlot} (harr : arr.Rewrites i v arr') (hocc : s.occupied = v.isSome)
    (hdiag : ∀ address, s.diag = some address → ∃ d, m.At address d ∧ v = some d) :
    SlotsShown capacity (m.setSlot i s, arr') := by
  refine ⟨harr.capacity_eq.trans h.capacity_eq, harr.wf, ?_, ?_⟩
  · intro j
    dsimp only
    rw [m.slots_setSlot, harr.mem_eq, Function.update_apply]
    split_ifs with hj
    · exact hocc
    · exact h.occupied_eq j
  · intro j address hj
    dsimp only at hj ⊢
    rw [m.slots_setSlot] at hj
    rw [harr.mem_eq, Function.update_apply]
    split_ifs at hj ⊢ with hji
    · exact hdiag address hj
    · exact h.shows j address hj

/-- An open or a close writes the slot of its granule. -/
theorem Frame.setSlot {c : DiagSlotCall} {v : Option GranuleDiag} {s : SharedSlot}
    (harr : arr.Rewrites i v arr') (hlifecycle : c.isLifecycle = true)
    (hmem : ∀ d, arr.mem i = some d → some d.granuleId = c.granule)
    (hshows : ∀ address d, m.At address d → s.diag = some address →
      (m.slots i).diag = some address ∨ some d.granuleId = c.granule)
    (hdiag : c.isClose = false → (m.slots i).diag ≠ none → s.diag ≠ none) :
    Frame capacity c (m, arr) (m.setSlot i s, arr') where
  record _ _ hat _ := hat
  slot j d hj hother := by
    have hji : j ≠ i := by
      rintro rfl
      exact hother (hmem d hj)
    dsimp only
    rw [m.slots_setSlot, if_neg hji, harr.mem_eq, Function.update_of_ne hji]
    exact ⟨rfl, rfl⟩
  detached address d hat hother hslots j hj := by
    dsimp only at hj
    rw [m.slots_setSlot] at hj
    split_ifs at hj with hji
    · rcases hshows address d hat hj with hold | hown
      · exact hslots i hold
      · exact hother hown
    · exact hslots j hj
  points hnot := by
    rw [hlifecycle] at hnot
    cases hnot
  alive _ _ d hat := ⟨d, hat⟩
  diag_ne hclose j hj := by
    dsimp only at hj ⊢
    rw [m.slots_setSlot]
    split_ifs with hji
    · subst hji
      exact hdiag hclose hj
    · exact hj

/-- A step of an open keeps the open granules, of which its own is none. -/
theorem Settled.of_frame {c : DiagSlotCall} {m m' : SharedSlots × SlotArrayDiag}
    (h : Settled capacity m id) (hframe : Frame capacity c m m')
    (hown : ∀ id, c.granule = some id → ¬Settled capacity m id) : Settled capacity m' id :=
  h.frame hframe fun hgranule => absurd h (hown id hgranule)

theorem Hidden.not_settled {m : SharedSlots × SlotArrayDiag} (h : Hidden capacity m id d) :
    ¬Settled capacity m id := by
  rintro ⟨address, hdiag, -⟩
  rw [h.1] at hdiag
  cases hdiag

/-! ### Opens -/

/-- The exchange of an open that finds its slot taken. -/
theorem advances_openLost (h : SlotsShown capacity (m, arr)) {env : Env}
    (hocc : (m.slots (diagSlotAt capacity id)).occupied = true) :
    Advances capacity (m, arr) (m, arr) (.openExchange env id)
      (.returned (.open_ env id) (.int (-1))) := by
  obtain rfl : arr.capacity = capacity := h.capacity_eq
  rw [show (m.slots _).occupied = _ from h.occupied_eq _, Option.isSome_iff_exists] at hocc
  obtain ⟨d, hd⟩ := hocc
  refine Advances.of_read h trivial rfl ?_ rfl rfl ?_
  · exact .commit (.int (-1)) rfl (h.wf.serve_open_taken hd) rfl fun n hn i d hi => hn i d hi
  · intro id' hopened
    cases (Bool.and_eq_true_iff.mp hopened).2

/-- The exchange of an open that claims its slot. -/
theorem advances_openClaim (h : SlotsShown capacity (m, arr)) {env : Env} (henv : env.Plentiful)
    (hfree : (m.slots (diagSlotAt capacity id)).occupied = false) :
    ∃ arr', Advances capacity (m, arr)
      (m.setSlot (diagSlotAt capacity id)
        { m.slots (diagSlotAt capacity id) with occupied := true }, arr')
      (.openExchange env id) (.openCreate env id) := by
  obtain rfl : arr.capacity = capacity := h.capacity_eq
  have hnone : arr.mem (diagSlotAt arr.capacity id) = none := by
    rwa [show (m.slots _).occupied = _ from h.occupied_eq _, Option.isSome_eq_false_iff,
      Option.isNone_iff_eq_none] at hfree
  have hdiag : (m.slots (diagSlotAt arr.capacity id)).diag = none := by
    cases hdiag : (m.slots (diagSlotAt arr.capacity id)).diag with
    | none => rfl
    | some address =>
      obtain ⟨d, -, hd⟩ := h.shows _ address hdiag
      rw [show arr.mem _ = _ from hd] at hnone
      cases hnone
  obtain ⟨d, hcreate⟩ := granuleDiagCreate_of_plentiful henv id env.now
  obtain ⟨hd, hid, -, hrecords⟩ := granuleDiagCreate_spec hcreate
  obtain ⟨arr', hserve, harr⟩ := h.wf.serve_open_free hnone hcreate
  have hslots := m.diag_setOccupied (diagSlotAt arr.capacity id) true
  have hframe : Frame arr.capacity (.open_ env id) (m, arr)
      (m.setSlot (diagSlotAt arr.capacity id)
        { m.slots (diagSlotAt arr.capacity id) with occupied := true }, arr') := by
    refine Frame.setSlot harr rfl ?_ (fun _ _ _ hshows => Or.inl hshows) fun _ hne => hne
    intro d' hd'
    rw [hnone] at hd'
    cases hd'
  refine ⟨arr', h.setSlot harr rfl ?_, ⟨d, hcreate, (hslots _).trans hdiag, ?_, hid⟩, rfl, hframe,
    ?_, ?_, nofun, fun _ d hat => Or.inl ⟨d, hat⟩, ?_, nofun, ?_, nofun⟩
  · intro address haddress
    rw [show (m.slots _).diag = some address from haddress] at hdiag
    cases hdiag
  · dsimp only
    rw [harr.mem_eq, Function.update_self]
  · refine .commit (.int 0) rfl hserve rfl ?_
    intro n hn i d' hi
    rw [show arr'.mem = _ from harr.mem_eq, Function.update_apply] at hi
    split_ifs at hi
    · cases hi
      have hlen := hd.length_records
      rw [hrecords, List.length_nil] at hlen
      rw [← hlen]
      exact Nat.zero_le _
    · exact hn i d' hi
  · intro _ id' hsettled
    refine hsettled.of_frame hframe ?_
    rintro _ hgranule ⟨address, hpoints, -⟩
    cases hgranule
    rw [show (m.slots _).diag = some address from hpoints] at hdiag
    cases hdiag
  · intro i address hi
    exact Or.inl ⟨i, (hslots i).trans hi⟩
  · intro i hmem hi
    by_cases hik : i = diagSlotAt arr.capacity id
    · rw [hik]
      exact Or.inl rfl
    · refine Or.inr ⟨?_, (hslots i).symm.trans hi⟩
      rw [show arr'.mem = _ from harr.mem_eq, Function.update_of_ne hik] at hmem
      exact hmem

theorem SharedSlots.At.unique (h : m.At address d) (h' : m.At address d') : d' = d := by
  have heq := h'.symm.trans h
  rwa [Option.some.injEq, Option.some.injEq] at heq

theorem SharedSlots.At.alloc (h : m.At address d) (d' : GranuleDiag) : (m.alloc d').At address d := by
  have hlt : address < m.heap.length := (List.getElem?_eq_some_iff.mp h).1
  show (m.heap ++ [some d'])[address]? = _
  rw [List.getElem?_append_left hlt]
  exact h

/-- The creation of a record, which no slot points to yet. -/
theorem advances_openCreate (h : SlotsShown capacity (m, arr)) {env : Env}
    (hhidden : Hidden capacity (m, arr) id d) :
    Advances capacity (m, arr) (m.alloc d, arr) (.openCreate env id)
      (.openStoreDiag env id (some m.heap.length)) := by
  have hframe : Frame capacity (.open_ env id) (m, arr) (m.alloc d, arr) :=
    ⟨fun _ _ hat _ => hat.alloc d, fun _ _ _ _ => ⟨rfl, rfl⟩, fun _ _ _ _ hslots => hslots, nofun,
      fun _ _ d' hat => ⟨d', hat.alloc d⟩, fun _ _ hne => hne⟩
  refine ⟨⟨h.capacity_eq, h.wf, h.occupied_eq, ?_⟩,
    ⟨_, d, rfl, List.getElem?_concat_length, hhidden⟩, rfl, hframe, .silent rfl rfl, ?_, nofun, ?_,
    fun i _ hi => Or.inl ⟨i, hi⟩, nofun, fun _ hmem hdiag => Or.inr ⟨hmem, hdiag⟩,
    fun _ hhides _ _ => hhides⟩
  · intro i address hi
    obtain ⟨d', hat, hmem⟩ := h.shows i address hi
    exact ⟨d', hat.alloc d, hmem⟩
  · intro _ id' hsettled
    refine hsettled.of_frame hframe ?_
    rintro _ hgranule
    cases hgranule
    exact hhidden.not_settled
  · intro address d' hat
    rcases getElem?_concat_cases hat with ⟨rfl, -⟩ | hold
    · exact Or.inr rfl
    · exact Or.inl ⟨d', hold⟩

/-- The store of the new record's address in its slot. -/
theorem advances_openStoreDiag (h : SlotsShown capacity (m, arr)) {env : Env}
    (hat : m.At address d) (hhidden : Hidden capacity (m, arr) id d) :
    Advances capacity (m, arr)
      (m.setSlot (diagSlotAt capacity id)
        { m.slots (diagSlotAt capacity id) with diag := some address }, arr)
      (.openStoreDiag env id (some address)) (.openTestDiag env id) := by
  obtain ⟨hdiag, hmem, hid⟩ := hhidden
  have hself := h.wf.rewrites_self (diagSlotAt capacity id)
  have hframe : Frame capacity (.open_ env id) (m, arr)
      (m.setSlot (diagSlotAt capacity id)
        { m.slots (diagSlotAt capacity id) with diag := some address }, arr) := by
    refine Frame.setSlot hself rfl ?_ ?_ fun _ _ => nofun
    · intro d' hd'
      rw [show arr.mem _ = some d from hmem, Option.some.injEq] at hd'
      rw [← hd', hid]
      rfl
    · intro address' d' hat' heq
      cases heq
      rw [hat.unique hat', hid]
      exact Or.inr rfl
  have hslot : ((m.setSlot (diagSlotAt capacity id) { m.slots (diagSlotAt capacity id) with
      diag := some address }).slots (diagSlotAt capacity id)).diag = some address := by
    rw [m.slots_setSlot, if_pos rfl]
  refine ⟨h.setSlot hself ?_ ?_, ⟨address, hslot, d, hat, hmem, hid⟩, rfl, hframe, .silent rfl rfl,
    ?_, nofun, fun _ d' hat' => Or.inl ⟨d', hat'⟩, ?_, ?_, ?_, ?_⟩
  · exact h.occupied_eq _
  · intro address' heq
    cases heq
    exact ⟨d, hat, hmem⟩
  · intro _ id' hsettled
    refine hsettled.of_frame hframe ?_
    rintro _ hgranule
    cases hgranule
    exact Hidden.not_settled ⟨hdiag, hmem, hid⟩
  · intro i address' hi
    refine Or.inl ⟨i, ?_⟩
    dsimp only
    rw [m.slots_setSlot, if_neg ?_]
    · exact hi
    · rintro rfl
      rw [hdiag] at hi
      cases hi
  · intro address' d' heq _
    cases heq
    exact Or.inl ⟨_, hslot⟩
  · intro i hne hi
    refine Or.inr ⟨hne, ?_⟩
    dsimp only at hi
    rw [m.slots_setSlot] at hi
    split_ifs at hi
    exact hi
  · intro i hhides _ hi
    cases hhides
    dsimp only at hi
    rw [hslot] at hi
    cases hi

/-! ### Registrations and frees -/

theorem SharedSlots.At.put_self (h : m.At address d) (d' : GranuleDiag) :
    (m.put address (some d')).At address d' :=
  List.getElem?_set_self (List.getElem?_eq_some_iff.mp h).1

theorem SharedSlots.at_put_of_ne {other : ℕ} (hne : other ≠ address) (v : Option GranuleDiag) :
    (m.put address v).At other d ↔ m.At other d :=
  Eq.congr (List.getElem?_set_ne (Ne.symm hne)) rfl

/-- The slot of its granule is the only one that points to a record. -/
theorem SlotsShown.eq_of_diag (h : SlotsShown capacity (m, arr)) (hat : m.At address d)
    (hi : (m.slots i).diag = some address) : i = diagSlotAt capacity d.granuleId := by
  obtain rfl : arr.capacity = capacity := h.capacity_eq
  obtain ⟨d', hat', hmem⟩ := h.shows i address hi
  rw [← hat.unique hat']
  exact (h.wf.of_mem hmem).2.symm

/-- What a registration or a free makes of the record of a granule. -/
theorem GranuleDiag.step_spec (h : d.WF) {env : Env} (henv : env.Plentiful) {op : DiagOp}
    (id : GranuleId)
    (hroom : (DiagSlotCall.op env id op).registers = true → d.allocCount.toNat < 2 ^ 31) :
    ∃ r d', d.step (env, op) = .ok (r, d') ∧ d'.WF ∧ d'.granuleId = d.granuleId ∧
      d'.allocCount.toNat = d.allocCount.toNat
        + if (DiagSlotCall.op env id op).registers then 1 else 0 := by
  cases op with
  | addAlloc a size file line =>
    rcases granuleDiagAddAlloc_cases h env a size file line env.now with
      ⟨d', hadd, hwf, hid, -, hrecords, -⟩ | ⟨hmem, -⟩ | ⟨hfull, -⟩
    · refine ⟨0, d', hadd, hwf, hid, ?_⟩
      rw [← hwf.length_records, hrecords, List.length_append, h.length_records,
        List.length_singleton]
      rfl
    · rw [show env.succeeds _ = true from henv _] at hmem
      cases hmem
    · exact absurd hfull (Nat.ne_of_lt (hroom rfl))
  | markFreed a =>
    rcases granuleDiagMarkFreed_cases h a env.now with ⟨i, r, hi, hr, hfreed⟩ | ⟨hfreed, -⟩
    · exact ⟨0, d.freeAt i r env.now, hfreed, h.freeAt hi hr.2 env.now, rfl, rfl⟩
    · exact ⟨-1, d, hfreed, h, rfl, rfl⟩

/-- The critical section of a registration or a free. -/
theorem advances_opRecord (h : SlotsShown capacity (m, arr)) {env : Env} {op : DiagOp} {r : Int}
    (hdiag : (m.slots (diagSlotAt capacity id)).diag = some address) (hat : m.At address d)
    (hmem : arr.mem (diagSlotAt capacity id) = some d) (hid : d.granuleId = id)
    (hstep : d.step (env, op) = .ok (r, d')) (hd' : d'.WF) (hid' : d'.granuleId = d.granuleId)
    (hcount : d'.allocCount.toNat = d.allocCount.toNat
      + if (DiagSlotCall.op env id op).registers then 1 else 0) :
    ∃ arr', Advances capacity (m, arr) (m.put address (some d'), arr')
      (.opRecord op env id address) (.returned (.op env id op) (.int r)) := by
  obtain rfl : arr.capacity = capacity := h.capacity_eq
  obtain ⟨arr', hserve, harr⟩ := h.wf.serve_op hmem hid hstep (hid'.trans hid) hd'
  have hmem' : arr'.mem = _ := harr.mem_eq
  have hother : ∀ {other e}, m.At other e → other ≠ address → (m.put address (some d')).At other e :=
    fun hold hne => (SharedSlots.at_put_of_ne hne _).mpr hold
  have hframe : Frame arr.capacity (.op env id op) (m, arr) (m.put address (some d'), arr') := by
    refine ⟨?_, ?_, fun _ _ _ _ hslots => hslots, ?_, ?_, fun _ _ hne => hne⟩
    · intro other e hold hne
      refine hother hold ?_
      rintro rfl
      rw [hat.unique hold, hid] at hne
      exact hne rfl
    · intro i e hi hne
      refine ⟨rfl, ?_⟩
      dsimp only at hi ⊢
      rw [hmem', Function.update_of_ne]
      rintro rfl
      rw [hmem, Option.some.injEq] at hi
      rw [← hi, hid] at hne
      exact hne rfl
    · rintro - _ other hgranule ⟨hdiag', -⟩
      cases hgranule
      rw [show (m.slots _).diag = some address from hdiag, Option.some.injEq] at hdiag'
      subst hdiag'
      refine ⟨hdiag, d', hat.put_self d', ?_, hid'.trans hid⟩
      dsimp only
      rw [hmem', Function.update_self]
    · intro _ other e hold
      by_cases hne : other = address
      · rw [hne]
        exact ⟨d', hat.put_self d'⟩
      · exact ⟨e, hother hold hne⟩
  refine ⟨arr', ⟨harr.capacity_eq, harr.wf, ?_, ?_⟩, trivial, rfl, hframe, ?_,
    fun _ id' hsettled => hsettled.frame hframe fun _ => rfl, nofun, ?_,
    fun i _ hi => Or.inl ⟨i, hi⟩, nofun, ?_, nofun⟩
  · intro i
    dsimp only
    rw [hmem', Function.update_apply]
    split_ifs with hi
    · rw [hi, Option.isSome_some, ← Option.isSome_some (a := d), ← hmem]
      exact h.occupied_eq _
    · exact h.occupied_eq i
  · intro i other hi
    obtain ⟨e, hold, hmemi⟩ := h.shows i other hi
    dsimp only
    rw [hmem']
    by_cases hik : i = diagSlotAt arr.capacity id
    · subst hik
      rw [show (m.slots _).diag = some other from hi, Option.some.injEq] at hdiag
      subst hdiag
      exact ⟨d', hat.put_self d', Function.update_self ..⟩
    · refine ⟨e, hother hold ?_, (Function.update_of_ne hik ..).trans hmemi⟩
      rintro rfl
      refine hik ?_
      rw [← hid]
      exact h.eq_of_diag hat hi
  · refine .commit (.int r) rfl hserve rfl ?_
    intro n hn i e hi
    rw [hmem', Function.update_apply] at hi
    split_ifs at hi
    · cases hi
      rw [hcount]
      exact Nat.add_le_add_right (hn _ d hmem) _
    · exact (hn i e hi).trans (Nat.le_add_right n _)
  · intro other e hold
    by_cases hne : other = address
    · rw [hne]
      exact Or.inl ⟨d, hat⟩
    · exact Or.inl ⟨e, (SharedSlots.at_put_of_ne hne _).mp hold⟩
  · intro i hne hi
    refine Or.inr ⟨?_, hi⟩
    rw [hmem', Function.update_of_ne] at hne
    · exact hne
    · rintro rfl
      rw [show (m.slots _).diag = none from hi] at hdiag
      cases hdiag

/-! ### Closes -/

/-- The close clears the pointer of its slot. -/
theorem advances_closeClearDiag (h : SlotsShown capacity (m, arr)) {env : Env}
    (henv : env.Plentiful) (hdiag : (m.slots (diagSlotAt capacity id)).diag = some address)
    (hat : m.At address d) (hmem : arr.mem (diagSlotAt capacity id) = some d)
    (hid : d.granuleId = id) :
    Advances capacity (m, arr)
      (m.setSlot (diagSlotAt capacity id) { m.slots (diagSlotAt capacity id) with diag := none }, arr)
      (.closeClearDiag env id (some address)) (.closeRelease env id (some address)) := by
  have hself := h.wf.rewrites_self (diagSlotAt capacity id)
  have hslot : ((m.setSlot (diagSlotAt capacity id) { m.slots (diagSlotAt capacity id) with
      diag := none }).slots (diagSlotAt capacity id)).diag = none := by
    rw [m.slots_setSlot, if_pos rfl]
  have hframe : Frame capacity (.close env id) (m, arr)
      (m.setSlot (diagSlotAt capacity id)
        { m.slots (diagSlotAt capacity id) with diag := none }, arr) := by
    refine Frame.setSlot hself rfl ?_ nofun nofun
    intro d' hd'
    rw [hmem, Option.some.injEq] at hd'
    rw [← hd', hid]
    rfl
  refine ⟨h.setSlot hself (h.occupied_eq _) nofun,
    ⟨henv, address, d, rfl, hat, hslot, hmem, hid⟩, rfl, hframe, .silent rfl rfl, nofun, nofun,
    fun _ d' hat' => Or.inl ⟨d', hat'⟩, ?_, nofun, ?_, nofun⟩
  · intro i other hi
    by_cases hik : i = diagSlotAt capacity id
    · subst hik
      exact Or.inr (hdiag.symm.trans hi)
    · refine Or.inl ⟨i, ?_⟩
      dsimp only
      rw [m.slots_setSlot, if_neg hik]
      exact hi
  · intro i hne hi
    dsimp only at hi
    rw [m.slots_setSlot] at hi
    split_ifs at hi with hik
    · exact Or.inl (congrArg some hik.symm)
    · exact Or.inr ⟨hne, hi⟩

/-- The report of a close whose record is well-formed. -/
theorem closeReport_eq_ok (h : d.WF) {env : Env} (henv : env.Plentiful) :
    ∃ report, closeReport env d = .ok report := by
  rw [closeReport]
  split_ifs with hzero
  · exact ⟨none, rfl⟩
  · exact ⟨_, granuleDiagGenerateReport_eq h hzero (henv _) (henv _) env.now⟩

/-- The close releases its slot. -/
theorem advances_closeRelease (h : SlotsShown capacity (m, arr)) {env : Env}
    (henv : env.Plentiful) (hat : m.At address d) (hhidden : Hidden capacity (m, arr) id d) :
    ∃ arr', Advances capacity (m, arr)
      (m.setSlot (diagSlotAt capacity id)
        { m.slots (diagSlotAt capacity id) with occupied := false }, arr')
      (.closeRelease env id (some address)) (.closeLoadCount env id address) := by
  obtain rfl : arr.capacity = capacity := h.capacity_eq
  obtain ⟨hdiag, hmem, hid⟩ := hhidden
  have hmem : arr.mem (diagSlotAt arr.capacity id) = some d := hmem
  have hd : d.WF := (h.wf.of_mem hmem).1
  obtain ⟨report, hreport⟩ := closeReport_eq_ok hd henv
  obtain ⟨arr', hserve, harr⟩ := h.wf.serve_close hmem hid hreport
  have hmem' : arr'.mem = _ := harr.mem_eq
  have hslots := m.diag_setOccupied (diagSlotAt arr.capacity id) false
  have hframe : Frame arr.capacity (.close env id) (m, arr)
      (m.setSlot (diagSlotAt arr.capacity id)
        { m.slots (diagSlotAt arr.capacity id) with occupied := false }, arr') := by
    refine Frame.setSlot harr rfl ?_ (fun _ _ _ hshows => Or.inl hshows) nofun
    intro d' hd'
    rw [hmem, Option.some.injEq] at hd'
    rw [← hd', hid]
    rfl
  -- no slot points to the record, since its own does not
  have hdetached : ∀ i, (m.slots i).diag ≠ some address := by
    intro i hi
    rw [h.eq_of_diag hat hi, hid, show (m.slots _).diag = none from hdiag] at hi
    cases hi
  refine ⟨arr', h.setSlot harr rfl ?_,
    ⟨henv, d, hat, hid, hd, fun i hi => hdetached i ((hslots i).symm.trans hi)⟩, rfl, hframe, ?_,
    nofun, nofun, fun _ d' hat' => Or.inl ⟨d', hat'⟩,
    fun i _ hi => Or.inl ⟨i, (hslots i).trans hi⟩, fun _ _ hcarry _ => Or.inr hcarry, ?_, ?_⟩
  · intro other hother
    rw [show (m.slots _).diag = some other from hother] at hdiag
    cases hdiag
  · refine .commit (.closed d.liveCount report) rfl hserve ?_ ?_
    · have hread : (m.setSlot (diagSlotAt arr.capacity id)
          { m.slots (diagSlotAt arr.capacity id) with occupied := false }).read (some address)
          = .ok d := SharedSlots.At.read hat
      rw [DiagSlotPc.owed, hread]
      show DiagSlotPc.closeResult env d = _
      rw [DiagSlotPc.closeResult, hreport]
      rfl
    · intro n hn i e hi
      rw [hmem', Function.update_apply] at hi
      split_ifs at hi
      exact hn i e hi
  · intro i hne hi
    refine Or.inr ⟨?_, (hslots i).symm.trans hi⟩
    rw [hmem', Function.update_apply] at hne
    split_ifs at hne
    · exact absurd rfl hne
    · exact hne
  · intro i hhides hne _
    cases hhides
    rw [hmem', Function.update_self] at hne
    exact absurd rfl hne

/-- The end of a close destroys its record. -/
theorem advances_closeDestroy (h : SlotsShown capacity (m, arr)) {env : Env}
    (hdetached : Detached m id address d) (liveCount : UInt32) (report : Option PinningReport) :
    Advances capacity (m, arr) (m.put address none, arr)
      (.closeDestroy env id address liveCount report)
      (.returned (.close env id) (.closed liveCount report)) := by
  obtain ⟨hat, hid, -, hslots⟩ := hdetached
  have hother : ∀ {other e}, m.At other e → other ≠ address → (m.put address none).At other e :=
    fun hold hne => (SharedSlots.at_put_of_ne hne _).mpr hold
  have hframe : Frame capacity (.close env id) (m, arr) (m.put address none, arr) := by
    refine ⟨?_, fun _ _ _ _ => ⟨rfl, rfl⟩, fun _ _ _ _ hslots => hslots, nofun, nofun, nofun⟩
    intro other e hold hne
    refine hother hold ?_
    rintro rfl
    rw [hat.unique hold, hid] at hne
    exact hne rfl
  have hold : ∀ {other e}, (m.put address none).At other e → other ≠ address ∧ m.At other e := by
    intro other e hold
    have hne : other ≠ address := by
      rintro rfl
      have heq : (m.heap.set other none)[other]? = some (some e) := hold
      rw [List.getElem?_set_self (List.getElem?_eq_some_iff.mp hat).1] at heq
      cases heq
    exact ⟨hne, (SharedSlots.at_put_of_ne hne _).mp hold⟩
  refine ⟨⟨h.capacity_eq, h.wf, h.occupied_eq, ?_⟩, trivial, rfl, hframe, .silent rfl rfl, nofun,
    nofun, fun _ e hlive => Or.inl ⟨e, (hold hlive).2⟩, fun i _ hi => Or.inl ⟨i, hi⟩, ?_,
    fun _ hne hdiag => Or.inr ⟨hne, hdiag⟩, nofun⟩
  · intro i other hi
    obtain ⟨e, hlive, hmem⟩ := h.shows i other hi
    refine ⟨e, hother hlive ?_, hmem⟩
    rintro rfl
    exact hslots i hi
  · intro other e hcarry hlive
    cases hcarry
    exact absurd rfl (hold hlive).1

/-! ### Every step -/

/-- The lookup of a granule that is shown in its slot finds it. -/
theorem advances_find {m' : SharedSlots} (h : SlotsShown capacity (m, arr)) {caller : DiagFinder}
    {env : Env} (henv : env.Plentiful) (hpoints : Points capacity (m, arr) id address)
    (hp : p = .findLoadOccupied caller env id ∨ p = .findTestDiag caller env id ∨
      p = .findLoadDiag caller env id ∨ p = .findLoadId caller env id (some address) ∨
      p = .findTakeDiag caller env id)
    (hstep : diagSlotStep capacity m p = some (m', p')) :
    Advances capacity (m, arr) (m', arr) p p' := by
  have hslot := hpoints
  obtain ⟨hdiag, d, hat, hmem, hid⟩ := hslot
  have hdiag : (m.slots (diagSlotAt capacity id)).diag = some address := hdiag
  have hocc : (m.slots (diagSlotAt capacity id)).occupied = true := by
    rw [show (m.slots _).occupied = _ from h.occupied_eq _, show arr.mem _ = some d from hmem]
    rfl
  rcases hp with rfl | rfl | rfl | rfl | rfl
  · rw [diagSlotStep, if_pos hocc] at hstep
    cases hstep
    exact Advances.read h ⟨henv, _, hpoints⟩ rfl rfl rfl rfl fun _ => rfl
  · rw [diagSlotStep, if_neg (by rw [hdiag]; nofun)] at hstep
    cases hstep
    exact Advances.read h ⟨henv, _, hpoints⟩ rfl rfl rfl rfl fun _ => rfl
  · rw [diagSlotStep, hdiag] at hstep
    cases hstep
    exact Advances.read h ⟨henv, _, rfl, hpoints⟩ rfl rfl rfl rfl fun _ => rfl
  · rw [diagSlotStep, show m.read _ = _ from hat.read] at hstep
    dsimp only at hstep
    rw [if_pos hid] at hstep
    cases hstep
    exact Advances.read h ⟨henv, _, hpoints⟩ rfl rfl rfl rfl fun _ => rfl
  · rw [diagSlotStep, hdiag] at hstep
    cases hstep
    cases caller with
    | op op => exact Advances.read h ⟨henv, hpoints⟩ rfl rfl rfl rfl fun _ => rfl
    | close => exact Advances.read h ⟨henv, _, rfl, hpoints⟩ rfl rfl rfl rfl fun _ => rfl

/-- One step of a sweep, which only reads. -/
theorem advances_sweep {m' : SharedSlots} (h : SlotsShown capacity (m, arr))
    (hp : p.Holds capacity (m, arr)) (hsweep : p.call.isSweep = true)
    (hstep : diagSlotStep capacity m p = some (m', p')) :
    Advances capacity (m, arr) (m', arr) p p' := by
  cases p with
  | sweepLoadOccupied env i drainable pinned =>
    rw [diagSlotStep] at hstep
    split_ifs at hstep
    all_goals
      cases hstep
      exact Advances.read h trivial rfl rfl rfl rfl fun _ => rfl
  | sweepTestDiag env i drainable pinned =>
    rw [diagSlotStep] at hstep
    split_ifs at hstep with hdiag
    · cases hstep
      exact Advances.read h trivial rfl rfl rfl rfl fun _ => rfl
    · cases hstep
      exact Advances.read h hdiag rfl rfl rfl rfl fun _ => rfl
  | sweepLoadDiag env i drainable pinned =>
    cases hstep
    obtain ⟨address, hdiag⟩ := Option.ne_none_iff_exists'.mp hp
    obtain ⟨d, hat, -⟩ := h.shows i address hdiag
    exact Advances.read h ⟨address, d, hdiag, hat⟩ rfl rfl rfl rfl fun _ => rfl
  | sweepLoadCount env i drainable pinned diag =>
    obtain ⟨address, d, rfl, hat⟩ := hp
    rw [diagSlotStep, show m.read _ = _ from hat.read] at hstep
    dsimp only at hstep
    split_ifs at hstep
    all_goals
      cases hstep
      exact Advances.read h trivial rfl rfl rfl rfl fun _ => rfl
  | returned c r | faulted c f => cases hstep
  | findLoadOccupied caller env id | findTestDiag caller env id | findLoadDiag caller env id
  | findLoadId caller env id diag | findTakeDiag caller env id => cases caller <;> cases hsweep
  | _ => cases hsweep

/-- **One step**: the memory stays beside an array that is the old one or what the call makes of it. -/
theorem advances_of_step {m' : SharedSlots} (h : SlotsShown capacity (m, arr))
    (hp : p.Holds capacity (m, arr)) (hroom : p.call.registers = true → p.owed m = none →
      ∀ i d, arr.mem i = some d → d.allocCount.toNat < 2 ^ 31)
    (hstep : diagSlotStep capacity m p = some (m', p')) :
    ∃ arr', Advances capacity (m, arr) (m', arr') p p' := by
  cases p with
  | openExchange env id =>
    rw [diagSlotStep] at hstep
    dsimp only at hstep
    split_ifs at hstep with hocc
    · cases hstep
      exact ⟨arr, advances_openLost h hocc⟩
    · cases hstep
      exact advances_openClaim h hp (Bool.not_eq_true _ ▸ hocc)
  | openCreate env id =>
    obtain ⟨d, hcreate, hhidden⟩ := hp
    rw [diagSlotStep, hcreate] at hstep
    cases hstep
    exact ⟨arr, advances_openCreate h hhidden⟩
  | openStoreDiag env id diag =>
    obtain ⟨address, d, rfl, hat, hhidden⟩ := hp
    cases hstep
    exact ⟨arr, advances_openStoreDiag h hat hhidden⟩
  | openTestDiag env id =>
    have hsettled : Settled capacity (m, arr) id := hp
    obtain ⟨address, hdiag, -⟩ := hp
    have hdiag : (m.slots (diagSlotAt capacity id)).diag = some address := hdiag
    rw [diagSlotStep, if_neg (by rw [hdiag]; nofun)] at hstep
    cases hstep
    refine ⟨arr, Advances.of_read h trivial rfl (.silent rfl rfl) rfl rfl ?_⟩
    intro id' hopened
    rw [← beq_iff_eq.mp (Bool.and_eq_true_iff.mp hopened).1]
    exact hsettled
  | openRelease env id => exact absurd hp not_false
  | findLoadOccupied caller env id =>
    obtain ⟨henv, address, hpoints⟩ := hp
    exact ⟨arr, advances_find h henv hpoints (Or.inl rfl) hstep⟩
  | findTestDiag caller env id =>
    obtain ⟨henv, address, hpoints⟩ := hp
    exact ⟨arr, advances_find h henv hpoints (Or.inr (Or.inl rfl)) hstep⟩
  | findLoadDiag caller env id =>
    obtain ⟨henv, address, hpoints⟩ := hp
    exact ⟨arr, advances_find h henv hpoints (Or.inr (Or.inr (Or.inl rfl))) hstep⟩
  | findLoadId caller env id diag =>
    obtain ⟨henv, address, rfl, hpoints⟩ := hp
    exact ⟨arr, advances_find h henv hpoints (Or.inr (Or.inr (Or.inr (Or.inl rfl)))) hstep⟩
  | findTakeDiag caller env id =>
    obtain ⟨henv, address, hpoints⟩ := hp
    exact ⟨arr, advances_find h henv hpoints (Or.inr (Or.inr (Or.inr (Or.inr rfl)))) hstep⟩
  | opRecord op env id diag =>
    obtain ⟨henv, hdiag, d, hat, hmem, hid⟩ := hp
    obtain ⟨hd, -⟩ := h.wf.of_mem hmem
    obtain ⟨r, d', hrecord, hd', hid', hcount⟩ :=
      GranuleDiag.step_spec hd henv id fun hreg => hroom hreg rfl _ d hmem
    rw [diagSlotStep, show m.read _ = _ from hat.read, ok_bind, hrecord] at hstep
    cases hstep
    exact advances_opRecord h hdiag hat hmem hid hrecord hd' hid' hcount
  | closeClearDiag env id out =>
    obtain ⟨henv, address, rfl, hdiag, d, hat, hmem, hid⟩ := hp
    cases hstep
    exact ⟨arr, advances_closeClearDiag h henv hdiag hat hmem hid⟩
  | closeRelease env id out =>
    obtain ⟨henv, address, d, rfl, hat, hhidden⟩ := hp
    cases hstep
    exact advances_closeRelease h henv hat hhidden
  | closeLoadCount env id diag =>
    obtain ⟨henv, d, hdetached⟩ := hp
    have hread : m.read (some diag) = .ok d := hdetached.1.read
    have howed : (DiagSlotPc.closeLoadCount env id diag).owed m = DiagSlotPc.closeResult env d := by
      rw [DiagSlotPc.owed, hread]
      rfl
    rw [diagSlotStep, hread] at hstep
    dsimp only at hstep
    split_ifs at hstep with hzero
    · cases hstep
      refine ⟨arr, Advances.read h ⟨d, hdetached⟩ rfl ?_ rfl rfl fun _ => rfl⟩
      rw [howed, DiagSlotPc.closeResult, closeReport, if_pos hzero]
      rfl
    · cases hstep
      refine ⟨arr, Advances.read h ⟨henv, d, hdetached, rfl, hzero⟩ rfl ?_ rfl rfl fun _ => rfl⟩
      rw [howed, DiagSlotPc.owed, hread]
      rfl
  | closeReport env id diag liveCount =>
    obtain ⟨henv, d, hdetached, rfl, hpinned⟩ := hp
    have hread : m.read (some diag) = .ok d := hdetached.1.read
    obtain ⟨report, hreport⟩ := closeReport_eq_ok hdetached.2.2.1 henv
    have howed : (DiagSlotPc.closeReport env id diag d.liveCount).owed m
        = some (.closed d.liveCount report) := by
      rw [DiagSlotPc.owed, hread]
      show DiagSlotPc.closeResult env d = _
      rw [DiagSlotPc.closeResult, hreport]
      rfl
    rw [closeReport, if_neg hpinned] at hreport
    rw [diagSlotStep, hread, ok_bind, hreport] at hstep
    cases hstep
    exact ⟨arr, Advances.read h ⟨d, hdetached⟩ rfl howed.symm rfl rfl fun _ => rfl⟩
  | closeDestroy env id diag liveCount report =>
    obtain ⟨d, hdetached⟩ := hp
    rw [diagSlotStep, show m.read _ = _ from hdetached.1.read, ok_bind,
      hdetached.2.2.1.destroy] at hstep
    cases hstep
    exact ⟨arr, advances_closeDestroy h hdetached liveCount report⟩
  | sweepLoadOccupied env i drainable pinned | sweepTestDiag env i drainable pinned
  | sweepLoadDiag env i drainable pinned | sweepLoadCount env i drainable pinned diag =>
    exact ⟨arr, advances_sweep h hp rfl hstep⟩
  | returned c r | faulted c f => cases hstep

end Step

end Drainprof
