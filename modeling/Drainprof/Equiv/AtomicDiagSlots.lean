import Drainprof.AtomicDiagSlots
import Drainprof.Equiv.Diagnostic
import Drainprof.Library.Linearization

/-!
# Steps on the diagnostic slot array

The memory of the slots beside the array of the sequential model (`SlotsShown`): a slot is occupied
when the array has a record there, and the record it points to, if any, is that one.  It may lag
behind: an open has claimed its slot before it stores the record, and a close has cleared the pointer
before it releases the slot.

Each call carries what it knows of its own granule (`DiagSlotPc.Holds`), and `Advances` says what one
step does: it keeps the memory and the array together, and what it changes belongs to the granule of
the call (`Frame`).
-/

namespace Drainprof

open Interleaving

/-! ### The sequential array, by index -/

/-- The record in slot `i`. -/
def SlotArrayDiag.mem (arr : SlotArrayDiag) (i : ℕ) : Option GranuleDiag :=
  if h : i < arr.capacity.toNat then (arr.slot ⟨i, h⟩).diag else none

namespace SlotArrayDiag

variable {arr arr' : SlotArrayDiag} {env : Env} {id : GranuleId} {d d' : GranuleDiag} {i : ℕ}

theorem mem_setSlot (arr : SlotArrayDiag) (k : Fin arr.capacity.toNat) (s : DiagSlot) :
    (arr.setSlot k s).mem = Function.update arr.mem k s.diag := by
  funext j
  by_cases hj : j = k
  · subst hj
    rw [Function.update_self, mem, dif_pos (show k.val < (arr.setSlot k s).capacity.toNat from k.isLt)]
    exact congrArg DiagSlot.diag (arr.slot_setSlot_self k s)
  · rw [Function.update_of_ne hj, mem, mem]
    by_cases hlt : j < arr.capacity.toNat
    · rw [dif_pos hlt, dif_pos (show j < (arr.setSlot k s).capacity.toNat from hlt)]
      exact congrArg DiagSlot.diag (arr.slot_setSlot_of_ne (fun e => hj (congrArg Fin.val e).symm) s)
    · rw [dif_neg hlt, dif_neg (show ¬j < (arr.setSlot k s).capacity.toNat from hlt)]

variable {P : GranuleDiag → Prop}

theorem WF.mem_home (h : arr.WF P) (id : GranuleId) :
    arr.mem (diagSlotAt arr.capacity id) = (arr.slot (h.home id)).diag := by
  have hval : diagSlotAt arr.capacity id = (h.home id).val := by
    rw [diagSlotAt, UInt64.toNat_mod, UInt32.toNat_toUInt64]
    rfl
  rw [hval, mem, dif_pos (h.home id).isLt]

/-- The records are those of the well-formed array, each in the slot of its granule. -/
theorem WF.of_mem (h : arr.WF P) (hi : arr.mem i = some d) :
    P d ∧ diagSlotAt arr.capacity d.granuleId = i := by
  unfold mem at hi
  split_ifs at hi with hlt
  refine ⟨h.diag _ d hi, ?_⟩
  have hhome := congrArg Fin.val (h.home_eq _ d hi)
  rw [diagSlotAt, UInt64.toNat_mod, UInt32.toNat_toUInt64]
  exact hhome

/-- The array with another record, or none, in slot `i`. -/
structure Rewrites (arr : SlotArrayDiag) (i : ℕ) (diag : Option GranuleDiag)
    (arr' : SlotArrayDiag) : Prop where
  wf : arr'.WF GranuleDiag.WF
  capacity_eq : arr'.capacity = arr.capacity
  mem_eq : arr'.mem = Function.update arr.mem i diag

/-- A record of the granule is written into its slot. -/
theorem WF.rewrites_write (h : arr.WF GranuleDiag.WF) (hid : d.granuleId = id) (hd : d.WF) :
    arr.Rewrites (diagSlotAt arr.capacity id) (some d)
      (arr.setSlot (h.home id) ⟨true, some d⟩) := by
  refine ⟨h.write (congrArg _ hid) hd, rfl, ?_⟩
  rw [mem_setSlot, diagSlotAt, UInt64.toNat_mod, UInt32.toNat_toUInt64]
  rfl

theorem WF.rewrites_clear (h : arr.WF GranuleDiag.WF) (id : GranuleId) :
    arr.Rewrites (diagSlotAt arr.capacity id) none (arr.setSlot (h.home id) ⟨false, none⟩) := by
  refine ⟨h.clear _, rfl, ?_⟩
  rw [mem_setSlot, diagSlotAt, UInt64.toNat_mod, UInt32.toNat_toUInt64]
  rfl

/-- An open that finds its slot taken. -/
theorem WF.serve_open_taken (h : arr.WF P) (htaken : arr.mem (diagSlotAt arr.capacity id) = some d) :
    arr.serve (.open_ env id) = .ok (.int (-1), arr) := by
  rw [h.mem_home] at htaken
  have hocc := h.occupied_eq (h.home id)
  rw [htaken, Option.isSome_some] at hocc
  rw [serve, slotArrayDiagOpen, diagSlotIndex_eq h.capacity_ne, ok_bind, if_pos hocc]
  rfl

/-- An open that finds its slot free. -/
theorem WF.serve_open_free (h : arr.WF GranuleDiag.WF)
    (hfree : arr.mem (diagSlotAt arr.capacity id) = none)
    (hcreate : granuleDiagCreate env id env.now = some d) :
    ∃ arr', arr.serve (.open_ env id) = .ok (.int 0, arr') ∧
      arr.Rewrites (diagSlotAt arr.capacity id) (some d) arr' := by
  obtain ⟨hd, hid, -, -⟩ := granuleDiagCreate_spec hcreate
  refine ⟨_, ?_, h.rewrites_write hid hd⟩
  rw [h.mem_home] at hfree
  have hocc := h.occupied_eq (h.home id)
  rw [hfree, Option.isSome_none] at hocc
  rw [serve, slotArrayDiagOpen, diagSlotIndex_eq h.capacity_ne, ok_bind,
    if_neg (by rw [hocc]; exact Bool.false_ne_true), hcreate]
  rfl

/-- A registration or a free on the record in the slot of its granule. -/
theorem WF.serve_op (h : arr.WF GranuleDiag.WF) {op : DiagOp} {r : Int}
    (hmem : arr.mem (diagSlotAt arr.capacity id) = some d) (hid : d.granuleId = id)
    (hstep : d.step (env, op) = .ok (r, d')) (hid' : d'.granuleId = id) (hd' : d'.WF) :
    ∃ arr', arr.serve (.op env id op) = .ok (.int r, arr') ∧
      arr.Rewrites (diagSlotAt arr.capacity id) (some d') arr' := by
  refine ⟨_, ?_, h.rewrites_write hid' hd'⟩
  rw [h.mem_home] at hmem
  rw [serve, slotArrayDiagGet_eq h, h.find_eq_some_iff.mpr ⟨hmem, hid⟩]
  dsimp only [Option.map_some]
  rw [ok_bind]
  dsimp only
  rw [hstep]
  rfl

/-- A close of the granule of the record in its slot. -/
theorem WF.serve_close (h : arr.WF GranuleDiag.WF) {report : Option PinningReport}
    (hmem : arr.mem (diagSlotAt arr.capacity id) = some d) (hid : d.granuleId = id)
    (hreport : closeReport env d = .ok report) :
    ∃ arr', arr.serve (.close env id) = .ok (.closed d.liveCount report, arr') ∧
      arr.Rewrites (diagSlotAt arr.capacity id) none arr' := by
  refine ⟨_, ?_, h.rewrites_clear id⟩
  rw [h.mem_home] at hmem
  rw [serve, slotArrayDiagClose_eq h, h.find_eq_some_iff.mpr ⟨hmem, hid⟩]
  dsimp only [Option.map_some]
  rw [ok_bind]
  dsimp only
  rw [hreport, ok_bind, (h.diag _ d hmem).destroy]
  rfl

end SlotArrayDiag

/-! ### The public calls

What the public functions add to the answer of the storage, in diagnostic mode. -/

/-- The number a public call returns. -/
def DiagSlotResult.code : DiagSlotResult → Int
  | .int r => r
  | .closed liveCount _ => if liveCount = 0 then 1 else 0
  | .swept _ _ => 0

/-- The rest of `drainprof_granule_close`: a report is delivered, and the close is counted. -/
def closeAnswer (prof : Profiler) (id : GranuleId) :
    DiagSlotResult → Exec (Int × Profiler × List Event)
  | .closed liveCount report => do
    let (prof, events) ←
      match report with
      | some report => do
        let (prof, events) ← deliverReport prof report
        .ok (prof, Event.reportCreated report :: events)
      | none => .ok (prof, [])
    let log := if liveCount ≠ 0 ∧ prof.config.verbose then [Event.logPinned id liveCount] else []
    let (prof, dsr) := finishClose prof (liveCount = 0)
    .ok (if liveCount = 0 then 1 else 0, prof, events ++ log ++ dsr)
  | r => .ok (r.code, prof, [])

section Public

variable {arr : SlotArrayDiag} {prof : Profiler} {env : Env} {id : GranuleId}

theorem granuleOpen_eq_serve (hs : prof.storage = .slotArrayDiag arr) :
    granuleOpen env prof id = arr.serve (.open_ env id) >>= fun x =>
      .ok (if x.1.code ≠ 0 then (x.1.code, { prof with storage := .slotArrayDiag x.2 })
        else (0, { prof with counters := prof.counters.opened, storage := .slotArrayDiag x.2 })) := by
  unfold granuleOpen
  rw [hs, storageOpen, SlotArrayDiag.serve]
  cases slotArrayDiagOpen env arr id env.now with
  | error f => rfl
  | ok x =>
    dsimp only [ok_bind, DiagSlotResult.code]
    exact (apply_ite Except.ok _ _ _).symm

theorem allocRegisterLocated_eq_serve (hs : prof.storage = .slotArrayDiag arr) (a : AllocId)
    (size : UInt64) (file : FilePtr) (line : UInt32) :
    allocRegisterLocated env prof id a size file line
      = arr.serve (.op env id (.addAlloc a size file line)) >>= fun x => .ok (x.1.code, { prof with
        counters := { prof.counters with totalAllocs := prof.counters.totalAllocs + 1 }
        storage := .slotArrayDiag x.2 }) := by
  unfold allocRegisterLocated
  rw [hs, storageRegister, SlotArrayDiag.serve]
  cases slotArrayDiagGet arr id with
  | error f => rfl
  | ok x =>
    cases x with
    | none => rfl
    | some x =>
      dsimp only [ok_bind, GranuleDiag.step]
      cases granuleDiagAddAlloc env x.2 a size file line env.now <;> rfl

theorem allocDeregister_eq_serve (hs : prof.storage = .slotArrayDiag arr) (a : AllocId) :
    allocDeregister env prof id a = arr.serve (.op env id (.markFreed a)) >>= fun x =>
      .ok (x.1.code, { prof with
        counters := { prof.counters with totalDeallocs := prof.counters.totalDeallocs + 1 }
        storage := .slotArrayDiag x.2 }) := by
  unfold allocDeregister
  rw [hs, storageDeregister, SlotArrayDiag.serve]
  cases slotArrayDiagGet arr id with
  | error f => rfl
  | ok x =>
    cases x with
    | none => rfl
    | some x =>
      dsimp only [ok_bind, GranuleDiag.step]
      cases granuleDiagMarkFreed x.2 a env.now <;> rfl

/-- A close that returns: the record is destroyed after the delivery of its report, and the storage
answers before it. -/
theorem granuleClose_eq_ok_iff_serve (hs : prof.storage = .slotArrayDiag arr)
    {out : Int × Profiler × List Event} :
    granuleClose env prof id = .ok out ↔ (arr.serve (.close env id) >>= fun x =>
      closeAnswer { prof with storage := .slotArrayDiag x.2 } id x.1) = .ok out := by
  obtain ⟨config, counters, storage, reportBuffer⟩ := prof
  obtain rfl : storage = .slotArrayDiag arr := hs
  unfold granuleClose
  rw [SlotArrayDiag.serve]
  dsimp only
  cases slotArrayDiagClose arr id with
  | error f => exact Iff.rfl
  | ok x =>
    cases x with
    | none => exact Iff.rfl
    | some x =>
      obtain ⟨d, arr'⟩ := x
      rw [ok_bind, ok_bind]
      dsimp only
      by_cases h0 : d.liveCount = 0
      · rw [show closeReport env d = .ok none from if_pos h0, ok_bind]
        simp only [if_pos h0, ok_bind]
        cases granuleDiagDestroy d with
        | error f => exact Iff.of_eq rfl
        | ok u =>
          simp only [h0, closeAnswer, ok_bind, decide_true, if_true, ne_eq, not_true_eq_false,
            false_and, if_false, List.append_nil]
      · rw [show closeReport env d = granuleDiagGenerateReport env d env.now from if_neg h0]
        simp only [if_neg h0, reportPinned]
        cases granuleDiagGenerateReport env d env.now with
        | error f => exact Iff.of_eq rfl
        | ok report =>
          cases report with
          | none =>
            cases granuleDiagDestroy d with
            | error f => exact Iff.of_eq rfl
            | ok u =>
              simp only [h0, closeAnswer, ok_bind, decide_false, ne_eq, not_false_eq_true, true_and,
                if_false]
          | some report =>
            -- where the delivery and the destruction both fault, only the fault differs
            cases granuleDiagDestroy d with
            | error f =>
              refine iff_of_false (fun h => ?_) (fun h => by cases h)
              obtain ⟨_, -, h⟩ := bind_eq_ok.mp h
              cases h
            | ok u =>
              simp only [h0, closeAnswer, ok_bind, decide_false, ne_eq, not_false_eq_true, true_and,
                if_false]
              cases deliverReport ⟨config, counters, .slotArrayDiag arr', reportBuffer⟩ report <;> rfl

end Public

/-! ### Calls in flight -/

/-- The granule of a call; a sweep has none. -/
def DiagSlotCall.granule : DiagSlotCall → Option GranuleId
  | .open_ _ id => some id
  | .op _ id _ => some id
  | .close _ id => some id
  | .sweep _ => none

/-- Opens and closes. -/
def DiagSlotCall.isLifecycle : DiagSlotCall → Bool
  | .open_ _ _ => true
  | .op _ _ _ => false
  | .close _ _ => true
  | .sweep _ => false

/-- Closes, which destroy a record. -/
def DiagSlotCall.isClose : DiagSlotCall → Bool
  | .close _ _ => true
  | .open_ _ _ | .op _ _ _ | .sweep _ => false

/-- Sweeps, which read records without a lock. -/
def DiagSlotCall.isSweep : DiagSlotCall → Bool
  | .sweep _ => true
  | .open_ _ _ | .op _ _ _ | .close _ _ => false

/-- A registration. -/
def DiagSlotCall.registers : DiagSlotCall → Bool
  | .op _ _ (.addAlloc _ _ _ _) => true
  | .op _ _ (.markFreed _) => false
  | .open_ _ _ | .close _ _ | .sweep _ => false

/-- What the call reads from outside. -/
def DiagSlotCall.env : DiagSlotCall → Env
  | .open_ env _ => env
  | .op env _ _ => env
  | .close env _ => env
  | .sweep env => env

namespace DiagSlotPc

/-- The call itself. -/
def call : DiagSlotPc → DiagSlotCall
  | openExchange env id | openCreate env id | openStoreDiag env id _ | openTestDiag env id
  | openRelease env id => .open_ env id
  | findLoadOccupied caller env id | findTestDiag caller env id | findLoadDiag caller env id
  | findLoadId caller env id _ | findTakeDiag caller env id => caller.call env id
  | opRecord op env id _ => .op env id op
  | closeClearDiag env id _ | closeRelease env id _ | closeLoadCount env id _ | closeReport env id _ _
  | closeDestroy env id _ _ _ => .close env id
  | sweepLoadOccupied env _ _ _ | sweepTestDiag env _ _ _ | sweepLoadDiag env _ _ _
  | sweepLoadCount env _ _ _ _ => .sweep env
  | returned c _ => c
  | faulted c _ => c

/-- The call has returned. -/
def hasReturned : DiagSlotPc → Bool
  | returned _ _ => true
  | _ => false

/-- The call is an open of `id` that has returned `0`. -/
def hasOpened (id : GranuleId) : DiagSlotPc → Bool
  | returned (.open_ _ id') r => id' == id && r == .int 0
  | _ => false

/-- The result of a close whose record is `d`. -/
def closeResult (env : Env) (d : GranuleDiag) : Option DiagSlotResult :=
  (Drainprof.closeReport env d).toOption.map fun report => .closed d.liveCount report

/-- What the call is going to return, once it is settled: an open has taken effect when it has claimed
its slot, a close when it has released it.  The counts of a sweep are those of no single moment. -/
def owed (m : SharedSlots) : DiagSlotPc → Option DiagSlotResult
  | openCreate _ _ | openStoreDiag _ _ _ | openTestDiag _ _ => some (.int 0)
  | closeLoadCount env _ diag | closeReport env _ diag _ =>
    (m.read (some diag)).toOption.bind (closeResult env)
  | closeDestroy _ _ _ liveCount report => some (.closed liveCount report)
  | returned c r => if c.isSweep then none else some r
  | _ => none

end DiagSlotPc

/-! ### Assertions -/

/-- The record at an address. -/
def SharedSlots.At (m : SharedSlots) (address : ℕ) (d : GranuleDiag) : Prop :=
  m.heap[address]? = some (some d)

theorem SharedSlots.At.read {m : SharedSlots} {address : ℕ} {d : GranuleDiag} (h : m.At address d) :
    m.read (some address) = .ok d := by
  rw [SharedSlots.read, show m.heap[address]? = some (some d) from h]
  rfl

/-- The memory and the array agree on which slots are taken, and on the records that are shown. -/
structure SlotsShown (capacity : UInt32) (m : SharedSlots × SlotArrayDiag) : Prop where
  capacity_eq : m.2.capacity = capacity
  wf : m.2.WF GranuleDiag.WF
  occupied_eq : ∀ i, (m.1.slots i).occupied = (m.2.mem i).isSome
  shows : ∀ i address, (m.1.slots i).diag = some address →
    ∃ d, m.1.At address d ∧ m.2.mem i = some d

/-- The slot of the granule points to its record. -/
def Points (capacity : UInt32) (m : SharedSlots × SlotArrayDiag) (id : GranuleId) (address : ℕ) :
    Prop :=
  (m.1.slots (diagSlotAt capacity id)).diag = some address ∧
    ∃ d, m.1.At address d ∧ m.2.mem (diagSlotAt capacity id) = some d ∧ d.granuleId = id

/-- The granule is open, and shown in its slot. -/
def Settled (capacity : UInt32) (m : SharedSlots × SlotArrayDiag) (id : GranuleId) : Prop :=
  ∃ address, Points capacity m id address

/-- The granule has its slot, but the slot does not point to its record. -/
def Hidden (capacity : UInt32) (m : SharedSlots × SlotArrayDiag) (id : GranuleId)
    (d : GranuleDiag) : Prop :=
  (m.1.slots (diagSlotAt capacity id)).diag = none ∧
    m.2.mem (diagSlotAt capacity id) = some d ∧ d.granuleId = id

/-- The record of the granule, which no slot points to any more. -/
def Detached (m : SharedSlots) (id : GranuleId) (address : ℕ) (d : GranuleDiag) : Prop :=
  m.At address d ∧ d.granuleId = id ∧ d.WF ∧ ∀ i, (m.slots i).diag ≠ some address

/-- What a call knows of its granule and of the record it works on. -/
def DiagSlotPc.Holds (capacity : UInt32) (m : SharedSlots × SlotArrayDiag) : DiagSlotPc → Prop
  | openExchange env _ => env.Plentiful
  | openCreate env id => ∃ d, granuleDiagCreate env id env.now = some d ∧ Hidden capacity m id d
  | openStoreDiag _ id diag => ∃ address d, diag = some address ∧ m.1.At address d ∧
      Hidden capacity m id d
  | openTestDiag _ id => Settled capacity m id
  -- memory is not short
  | openRelease _ _ => False
  | findLoadOccupied _ env id | findTestDiag _ env id | findLoadDiag _ env id
  | findTakeDiag _ env id => env.Plentiful ∧ Settled capacity m id
  | findLoadId _ env id diag => env.Plentiful ∧ ∃ address, diag = some address ∧
      Points capacity m id address
  | opRecord _ env id diag => env.Plentiful ∧ Points capacity m id diag
  | closeClearDiag env id out => env.Plentiful ∧ ∃ address, out = some address ∧
      Points capacity m id address
  | closeRelease env id out => env.Plentiful ∧ ∃ address d, out = some address ∧
      m.1.At address d ∧ Hidden capacity m id d
  | closeLoadCount env id diag => env.Plentiful ∧ ∃ d, Detached m.1 id diag d
  | closeReport env id diag liveCount => env.Plentiful ∧ ∃ d, Detached m.1 id diag d ∧
      d.liveCount = liveCount ∧ liveCount ≠ 0
  | closeDestroy _ id diag _ _ => ∃ d, Detached m.1 id diag d
  | sweepLoadOccupied _ _ _ _ | sweepTestDiag _ _ _ _ => True
  | sweepLoadDiag _ i _ _ => (m.1.slots i).diag ≠ none
  | sweepLoadCount _ _ _ _ diag => ∃ address d, diag = some address ∧ m.1.At address d
  | returned _ _ => True
  | faulted _ _ => False

/-- Two calls in flight: on different granules, or on one that neither of them opens or closes.  No
granule is closed during a sweep. -/
def DiagSlotCall.Compatible (c c' : DiagSlotCall) : Prop :=
  (c.granule = c'.granule → c.isLifecycle = false ∧ c'.isLifecycle = false) ∧
    (c.isSweep = true → c'.isClose = false) ∧ (c'.isSweep = true → c.isClose = false)

instance DiagSlotCall.Compatible.decidable (c c' : DiagSlotCall) : Decidable (c.Compatible c') :=
  inferInstanceAs (Decidable (_ ∧ _ ∧ _))

theorem DiagSlotCall.Compatible.symm {c c' : DiagSlotCall} (h : c.Compatible c') :
    c'.Compatible c :=
  ⟨fun heq => (h.1 heq.symm).symm, h.2.2, h.2.1⟩

/-! ### What a step leaves alone -/

/-- What the step of a call `c` leaves alone: the records and the slots of other granules, and the
address of its own granule unless it opens or closes it.  Only a close destroys a record or clears a
pointer. -/
structure Frame (capacity : UInt32) (c : DiagSlotCall) (m m' : SharedSlots × SlotArrayDiag) :
    Prop where
  record : ∀ address d, m.1.At address d → some d.granuleId ≠ c.granule → m'.1.At address d
  slot : ∀ i d, m.2.mem i = some d → some d.granuleId ≠ c.granule →
    (m'.1.slots i).diag = (m.1.slots i).diag ∧ m'.2.mem i = m.2.mem i
  detached : ∀ address d, m.1.At address d → some d.granuleId ≠ c.granule →
    (∀ i, (m.1.slots i).diag ≠ some address) → ∀ i, (m'.1.slots i).diag ≠ some address
  points : c.isLifecycle = false → ∀ id address, c.granule = some id →
    Points capacity m id address → Points capacity m' id address
  alive : c.isClose = false → ∀ address d, m.1.At address d → ∃ d', m'.1.At address d'
  diag_ne : c.isClose = false → ∀ i, (m.1.slots i).diag ≠ none → (m'.1.slots i).diag ≠ none

section Frame

variable {capacity : UInt32} {c : DiagSlotCall} {m m' : SharedSlots × SlotArrayDiag}
  {id : GranuleId} {address : ℕ} {d : GranuleDiag} {q : DiagSlotPc}

theorem Frame.refl (capacity : UInt32) (c : DiagSlotCall) (m : SharedSlots × SlotArrayDiag) :
    Frame capacity c m m where
  record _ _ h _ := h
  slot _ _ _ _ := ⟨rfl, rfl⟩
  detached _ _ _ _ h := h
  points _ _ _ _ h := h
  alive _ _ d h := ⟨d, h⟩
  diag_ne _ _ h := h

theorem Points.frame (h : Points capacity m id address) (hframe : Frame capacity c m m')
    (hcompat : c.granule = some id → c.isLifecycle = false) : Points capacity m' id address := by
  by_cases hgranule : c.granule = some id
  · exact hframe.points (hcompat hgranule) id address hgranule h
  · obtain ⟨hdiag, d, hat, hmem, hid⟩ := h
    have hother : some d.granuleId ≠ c.granule := by
      rw [hid]
      exact fun heq => hgranule heq.symm
    obtain ⟨hslot, hmem'⟩ := hframe.slot _ d hmem hother
    exact ⟨hslot.trans hdiag, d, hframe.record address d hat hother, hmem'.trans hmem, hid⟩

theorem Settled.frame (h : Settled capacity m id) (hframe : Frame capacity c m m')
    (hcompat : c.granule = some id → c.isLifecycle = false) : Settled capacity m' id := by
  obtain ⟨address, hpoints⟩ := h
  exact ⟨address, hpoints.frame hframe hcompat⟩

theorem Hidden.frame (h : Hidden capacity m id d) (hframe : Frame capacity c m m')
    (hother : c.granule ≠ some id) : Hidden capacity m' id d := by
  obtain ⟨hdiag, hmem, hid⟩ := h
  obtain ⟨hslot, hmem'⟩ := hframe.slot _ d hmem (by rw [hid]; exact hother.symm)
  exact ⟨hslot.trans hdiag, hmem'.trans hmem, hid⟩

theorem Detached.frame (h : Detached m.1 id address d) (hframe : Frame capacity c m m')
    (hother : c.granule ≠ some id) : Detached m'.1 id address d := by
  obtain ⟨hat, hid, hd, hslots⟩ := h
  have hne : some d.granuleId ≠ c.granule := by
    rw [hid]
    exact hother.symm
  exact ⟨hframe.record address d hat hne, hid, hd, hframe.detached address d hat hne hslots⟩

/-- The step of a compatible call keeps what a call knows. -/
theorem DiagSlotPc.Holds.frame (h : q.Holds capacity m) (hframe : Frame capacity c m m')
    (hcompat : q.hasReturned = false → c.Compatible q.call) : q.Holds capacity m' := by
  -- a call that opens or closes its granule has it to itself
  have hown : ∀ {id}, q.hasReturned = false → q.call.granule = some id →
      q.call.isLifecycle = true → c.granule ≠ some id := by
    intro id hflight hgranule hlifecycle heq
    have := ((hcompat hflight).1 (heq.trans hgranule.symm)).2
    rw [hlifecycle] at this
    cases this
  have hshared : ∀ {id}, q.hasReturned = false → q.call.granule = some id →
      c.granule = some id → c.isLifecycle = false :=
    fun hflight hgranule heq => ((hcompat hflight).1 (heq.trans hgranule.symm)).1
  have hclose : q.hasReturned = false → q.call.isSweep = true → c.isClose = false :=
    fun hflight => (hcompat hflight).2.2
  cases q with
  | openExchange env id => exact h
  | openCreate env id =>
    obtain ⟨d, hcreate, hhidden⟩ := h
    exact ⟨d, hcreate, hhidden.frame hframe (hown rfl rfl rfl)⟩
  | openStoreDiag env id diag =>
    obtain ⟨address, d, hdiag, hat, hhidden⟩ := h
    have hother := hown rfl rfl rfl
    refine ⟨address, d, hdiag, hframe.record address d hat ?_, hhidden.frame hframe hother⟩
    rw [hhidden.2.2]
    exact hother.symm
  | openTestDiag env id => exact Settled.frame h hframe (hshared rfl rfl)
  | openRelease env id => exact h
  | findLoadOccupied caller env id | findTestDiag caller env id | findLoadDiag caller env id
  | findTakeDiag caller env id =>
    refine ⟨h.1, h.2.frame hframe (hshared rfl ?_)⟩
    cases caller <;> rfl
  | findLoadId caller env id diag =>
    obtain ⟨henv, address, hdiag, hpoints⟩ := h
    refine ⟨henv, address, hdiag, hpoints.frame hframe (hshared rfl ?_)⟩
    cases caller <;> rfl
  | opRecord op env id diag => exact ⟨h.1, h.2.frame hframe (hshared rfl rfl)⟩
  | closeClearDiag env id out =>
    obtain ⟨henv, address, hout, hpoints⟩ := h
    exact ⟨henv, address, hout, hpoints.frame hframe (hshared rfl rfl)⟩
  | closeRelease env id out =>
    obtain ⟨henv, address, d, hout, hat, hhidden⟩ := h
    have hother := hown rfl rfl rfl
    refine ⟨henv, address, d, hout, hframe.record address d hat ?_, hhidden.frame hframe hother⟩
    rw [hhidden.2.2]
    exact hother.symm
  | closeLoadCount env id diag =>
    obtain ⟨henv, d, hdetached⟩ := h
    exact ⟨henv, d, hdetached.frame hframe (hown rfl rfl rfl)⟩
  | closeReport env id diag liveCount =>
    obtain ⟨henv, d, hdetached, hpinned⟩ := h
    exact ⟨henv, d, hdetached.frame hframe (hown rfl rfl rfl), hpinned⟩
  | closeDestroy env id diag liveCount report =>
    obtain ⟨d, hdetached⟩ := h
    exact ⟨d, hdetached.frame hframe (hown rfl rfl rfl)⟩
  | sweepLoadOccupied env i drainable pinned | sweepTestDiag env i drainable pinned => trivial
  | sweepLoadDiag env i drainable pinned => exact hframe.diag_ne (hclose rfl rfl) i h
  | sweepLoadCount env i drainable pinned diag =>
    obtain ⟨address, d, hdiag, hat⟩ := h
    obtain ⟨d', hat'⟩ := hframe.alive (hclose rfl rfl) address d hat
    exact ⟨address, d', hdiag, hat'⟩
  | returned c r => trivial
  | faulted c f => exact h

/-- The step of a compatible call leaves what a call owes alone. -/
theorem DiagSlotPc.Holds.owed_frame (h : q.Holds capacity m) (hframe : Frame capacity c m m')
    (hcompat : q.hasReturned = false → c.Compatible q.call) : q.owed m'.1 = q.owed m.1 := by
  have hread : ∀ {id diag d}, q.hasReturned = false → q.call.granule = some id →
      q.call.isLifecycle = true → m.1.At diag d → d.granuleId = id →
      m'.1.read (some diag) = m.1.read (some diag) := by
    intro id diag d hflight hgranule hlifecycle hat hid
    have hother : some d.granuleId ≠ c.granule := by
      rw [hid, ← hgranule]
      intro heq
      have := ((hcompat hflight).1 heq.symm).2
      rw [hlifecycle] at this
      cases this
    rw [hat.read, (hframe.record diag d hat hother).read]
  cases q with
  | closeLoadCount env id diag =>
    obtain ⟨-, d, hat, hid, -, -⟩ := h
    rw [owed, owed, hread rfl rfl rfl hat hid]
  | closeReport env id diag liveCount =>
    obtain ⟨-, d, ⟨hat, hid, -, -⟩, -⟩ := h
    rw [owed, owed, hread rfl rfl rfl hat hid]
  | _ => rfl

end Frame

end Drainprof
