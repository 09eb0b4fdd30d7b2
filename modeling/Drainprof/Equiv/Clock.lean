import Drainprof.Equiv.Counters

/-!
# The clock only stamps

`untimed` replaces every timestamp by zero: in a record, a report, a profiler, the result of a call.
The library reads the clock and stores what it reads, but no decision depends on it: a call on the
untimed profiler, made at time zero, does what the call on the profiler does, untimed
(`call_untimed`).  Hence two runs made at different times differ in their timestamps only.
-/

namespace Drainprof

open Transition

/-! ### Data without timestamps -/

/-- The environment at time zero. -/
def Env.untimed (env : Env) : Env :=
  { env with now := ⟨0, 0⟩ }

/-- A record without the times of its allocation and its release. -/
def AllocRecord.untimed (r : AllocRecord) : AllocRecord :=
  { r with allocTime := ⟨0, 0⟩, freeTime := ⟨0, 0⟩ }

/-- The state of a granule without the time it was opened at, its records untimed. -/
def GranuleDiag.untimed (d : GranuleDiag) : GranuleDiag :=
  { d with openTime := ⟨0, 0⟩, allocs := d.allocs.map (List.map AllocRecord.untimed) }

/-- A reported allocation without its time; its lifetime is always reported as still running. -/
def PinningAlloc.untimed (pa : PinningAlloc) : PinningAlloc :=
  { pa with allocTime := ⟨0, 0⟩ }

/-- A report without the times its granule was opened and closed at. -/
def PinningReport.untimed (r : PinningReport) : PinningReport :=
  { r with
    openTime := ⟨0, 0⟩
    closeTime := ⟨0, 0⟩
    pinningAllocs := r.pinningAllocs.map PinningAlloc.untimed }

/-- A buffer of untimed reports in the same slots. -/
def ReportBuffer.untimed (buf : ReportBuffer) : ReportBuffer :=
  { buf with reports := buf.reports.map (Option.map PinningReport.untimed) }

/-- A slot with the same granule, untimed. -/
def DiagSlot.untimed (s : DiagSlot) : DiagSlot :=
  { s with diag := s.diag.map GranuleDiag.untimed }

/-- A diagnostic array, slot by slot. -/
abbrev SlotArrayDiag.untimed (arr : SlotArrayDiag) : SlotArrayDiag :=
  { arr with
    slots := arr.slots.map DiagSlot.untimed
    length_slots := by rw [List.length_map, arr.length_slots] }

/-- A production array stores no times. -/
def Storage.untimed : Storage → Storage
  | .slotArray arr => .slotArray arr
  | .slotArrayDiag arr => .slotArrayDiag arr.untimed

/-- A profiler without the times its granules and its reports store. -/
def Profiler.untimed (prof : Profiler) : Profiler :=
  { prof with
    storage := prof.storage.untimed
    reportBuffer := prof.reportBuffer.map ReportBuffer.untimed }

/-- A snapshot without the time it was taken at. -/
def Snapshot.untimed (s : Snapshot) : Snapshot :=
  { s with timestamp := ⟨0, 0⟩ }

/-- An event with the untimed report; the lines logged carry no times. -/
def Event.untimed : Event → Event
  | .reportCreated r => .reportCreated r.untimed
  | .pinCallback r => .pinCallback r.untimed
  | .reportFreed r => .reportFreed r.untimed
  | .logPinned id liveCount => .logPinned id liveCount
  | .logDsr drainable pinned total => .logDsr drainable pinned total

/-- A result with an untimed snapshot or untimed reports; a summary carries no times. -/
def Result.untimed : Result → Result
  | .int r => .int r
  | .snapshot s => .snapshot s.untimed
  | .reports count rs => .reports count (rs.map (Option.map PinningReport.untimed))
  | .summary s => .summary s
  | .void => .void

/-- What can be observed of a call but for the times. -/
def Outcome.untimed (o : Outcome) : Outcome :=
  ⟨o.result.untimed, o.events.map Event.untimed⟩

/-! ### Blocks -/

section Blocks

variable {α β γ : Type} (f : α → β) (block : List α) (i : UInt32) (x : α)

theorem map_bind (y : Exec α) (k : α → Exec β) (g : β → γ) :
    (y >>= k).map g = y >>= fun a => (k a).map g := by
  cases y <;> rfl

theorem bind_map (y : Exec α) (k : β → Exec γ) : (y.map f >>= k) = y >>= fun a => k (f a) := by
  cases y <;> rfl

theorem load_map : load (block.map f) i = (load block i).map f := by
  unfold load
  rw [List.getElem?_map]
  cases block[i.toNat]? <;> rfl

theorem store_map : store (block.map f) i (f x) = (store block i x).map (List.map f) := by
  unfold store
  rw [List.length_map]
  split_ifs
  · rw [← List.map_set]
    rfl
  · rfl

/-- The outcome of a `realloc` on mapped blocks. -/
def Realloc.map : Realloc α → Realloc β
  | .moved block => .moved (block.map f)
  | .failed => .failed
  | .freed => .freed

theorem realloc_map (n : UInt32) (succeeds : Bool) :
    realloc (block.map f) n (f x) succeeds = (realloc block n x succeeds).map f := by
  unfold realloc
  split_ifs
  · rfl
  · rw [Realloc.map, List.map_append, List.map_take, List.map_replicate, List.length_map]
  · rfl

theorem deref_map (block : Option (List α)) :
    deref (block.map (List.map f)) = (deref block).map (List.map f) := by
  cases block <;> rfl

end Blocks

/-! ### The records of a granule -/

theorem granuleDiagCreate_untimed (env : Env) (id : GranuleId) (t : Timespec) :
    granuleDiagCreate env.untimed id ⟨0, 0⟩ = (granuleDiagCreate env id t).map GranuleDiag.untimed := by
  unfold granuleDiagCreate Env.untimed
  dsimp only
  split_ifs
  · rfl
  · rfl
  · rfl
  · rw [Option.map_some, GranuleDiag.untimed]
    dsimp only
    rw [Option.map_some, List.map_replicate]
    rfl

theorem zeroRecords_untimed (block : List AllocRecord) (start len : UInt32) :
    zeroRecords (block.map AllocRecord.untimed) start len
      = (zeroRecords block start len).map (List.map AllocRecord.untimed) := by
  unfold zeroRecords
  rw [List.length_map]
  split_ifs
  · rw [← List.map_take, ← List.map_drop]
    have hzero : List.replicate len.toNat AllocRecord.zero
        = (List.replicate len.toNat AllocRecord.zero).map AllocRecord.untimed := by
      rw [List.map_replicate]
      rfl
    rw [hzero, ← List.map_append, ← List.map_append, ← hzero]
    rfl
  · rfl

theorem growAllocs_untimed (env : Env) (d : GranuleDiag) :
    growAllocs env.untimed d.untimed = (growAllocs env d).map (Prod.map id GranuleDiag.untimed) := by
  have hrealloc : ∀ (block : List AllocRecord) (n : UInt32) (succeeds : Bool),
      realloc (block.map AllocRecord.untimed) n AllocRecord.zero succeeds
        = (realloc block n AllocRecord.zero succeeds).map AllocRecord.untimed :=
    fun block n succeeds => realloc_map AllocRecord.untimed block AllocRecord.zero n succeeds
  unfold growAllocs
  by_cases hfull : d.allocCount ≥ d.allocCapacity
  · rw [if_pos hfull, if_pos (show d.untimed.allocCount ≥ d.untimed.allocCapacity from hfull)]
    dsimp only [GranuleDiag.untimed, Env.untimed]
    rw [deref_map, bind_map, map_bind]
    congr 1
    funext block
    rw [hrealloc]
    cases realloc block (d.allocCapacity * 2) AllocRecord.zero (env.succeeds .diagAllocsRealloc) with
    | moved newAllocs =>
      dsimp only [Realloc.map]
      rw [zeroRecords_untimed, bind_map, map_bind]
      rfl
    | failed => rfl
    | freed => rfl
  · rw [if_neg hfull, if_neg (show ¬d.untimed.allocCount ≥ d.untimed.allocCapacity from hfull)]
    rfl

theorem granuleDiagAddAlloc_untimed (env : Env) (d : GranuleDiag) (a : AllocId) (size : UInt64)
    (file : FilePtr) (line : UInt32) (t : Timespec) :
    granuleDiagAddAlloc env.untimed d.untimed a size file line ⟨0, 0⟩
      = (granuleDiagAddAlloc env d a size file line t).map (Prod.map id GranuleDiag.untimed) := by
  unfold granuleDiagAddAlloc
  rw [growAllocs_untimed, bind_map, map_bind]
  congr 1
  funext grown
  obtain ⟨r, d⟩ := grown
  dsimp only [Prod.map, id, GranuleDiag.untimed]
  split_ifs
  · rfl
  · rw [deref_map, bind_map, map_bind]
    congr 1
    funext block
    have hstore := store_map AllocRecord.untimed block d.allocCount {
      allocId := a
      granuleId := d.granuleId
      allocTime := t
      allocSite := ⟨file, line, 0⟩
      size := size
      freeTime := ⟨0, 0⟩
      freed := false }
    dsimp only [AllocRecord.untimed] at hstore
    rw [hstore, bind_map, map_bind]
    rfl

theorem granuleDiagMarkFreed.go_untimed (d : GranuleDiag) (a : AllocId) (t : Timespec) :
    ∀ fuel offset, granuleDiagMarkFreed.go d.untimed a ⟨0, 0⟩ fuel offset
      = (granuleDiagMarkFreed.go d a t fuel offset).map (Prod.map id GranuleDiag.untimed) := by
  intro fuel
  induction fuel with
  | zero => intro offset; rfl
  | succ fuel ih =>
    intro offset
    rw [granuleDiagMarkFreed.go, granuleDiagMarkFreed.go, map_bind]
    congr 1
    funext i
    rw [map_bind, show d.untimed.allocs = d.allocs.map (List.map AllocRecord.untimed) from rfl,
      deref_map, bind_map]
    congr 1
    funext block
    rw [load_map, bind_map, map_bind]
    congr 1
    funext r
    have hsame : (r.untimed.allocId = a ∧ r.untimed.freed = false) ↔
        (r.allocId = a ∧ r.freed = false) := Iff.rfl
    by_cases hmatch : r.allocId = a ∧ r.freed = false
    · rw [if_pos hmatch, if_pos (hsame.mpr hmatch)]
      have hstore := store_map AllocRecord.untimed block i { r with freed := true, freeTime := t }
      dsimp only [AllocRecord.untimed] at hstore ⊢
      rw [hstore, bind_map, map_bind]
      congr 1
      funext block'
      rw [map_bind]
      rfl
    · rw [if_neg hmatch, if_neg fun h => hmatch (hsame.mp h)]
      exact ih (offset + 1)

theorem granuleDiagMarkFreed_untimed (d : GranuleDiag) (a : AllocId) (t : Timespec) :
    granuleDiagMarkFreed d.untimed a ⟨0, 0⟩
      = (granuleDiagMarkFreed d a t).map (Prod.map id GranuleDiag.untimed) :=
  granuleDiagMarkFreed.go_untimed d a t d.allocCount.toNat 0

theorem granuleDiagGenerateReport.go_untimed (d : GranuleDiag) :
    ∀ fuel i idx out,
      granuleDiagGenerateReport.go d.untimed fuel i idx (out.map PinningAlloc.untimed)
        = (granuleDiagGenerateReport.go d fuel i idx out).map (List.map PinningAlloc.untimed) := by
  intro fuel
  induction fuel with
  | zero => intro i idx out; rfl
  | succ fuel ih =>
    intro i idx out
    rw [granuleDiagGenerateReport.go, granuleDiagGenerateReport.go, map_bind,
      show d.untimed.allocs = d.allocs.map (List.map AllocRecord.untimed) from rfl, deref_map,
      bind_map]
    congr 1
    funext block
    rw [load_map, bind_map, map_bind]
    congr 1
    funext r
    by_cases hfreed : r.freed = false
    · rw [if_pos hfreed, if_pos (show r.untimed.freed = false from hfreed),
        show r.untimed.toPinning = r.toPinning.untimed from rfl, store_map, bind_map, map_bind]
      congr 1
      funext out'
      exact ih (i + 1) (idx + 1) out'
    · rw [if_neg hfreed, if_neg (show ¬r.untimed.freed = false from hfreed)]
      exact ih (i + 1) idx out

theorem granuleDiagGenerateReport_untimed (env : Env) (d : GranuleDiag) (t : Timespec) :
    granuleDiagGenerateReport env.untimed d.untimed ⟨0, 0⟩
      = (granuleDiagGenerateReport env d t).map (Option.map PinningReport.untimed) := by
  have hout : List.replicate d.liveCount.toNat (default : PinningAlloc)
      = (List.replicate d.liveCount.toNat default).map PinningAlloc.untimed := by
    rw [List.map_replicate]
    rfl
  have hgo := granuleDiagGenerateReport.go_untimed d d.allocCount.toNat 0 0
    (List.replicate d.liveCount.toNat default)
  rw [← hout] at hgo
  unfold granuleDiagGenerateReport
  rw [show d.untimed.liveCount = d.liveCount from rfl, show d.untimed.allocCount = d.allocCount from rfl,
    show env.untimed.succeeds = env.succeeds from rfl, hgo, apply_ite (Except.map _),
    apply_ite (Except.map _), apply_ite (Except.map _), bind_map, map_bind]
  rfl

/-! ### The report buffer -/

theorem reportBufferDropOldest_untimed (buf : ReportBuffer) :
    reportBufferDropOldest buf.untimed = (reportBufferDropOldest buf).map
      (Prod.map (Option.map PinningReport.untimed) ReportBuffer.untimed) := by
  unfold reportBufferDropOldest
  dsimp only [ReportBuffer.untimed]
  rw [load_map, bind_map, map_bind]
  congr 1
  funext oldest
  rw [map_bind]
  rfl

theorem reportBufferPush_untimed (buf : ReportBuffer) (r : PinningReport) :
    reportBufferPush buf.untimed r.untimed = (reportBufferPush buf r).map
      (Prod.map (Option.map PinningReport.untimed) ReportBuffer.untimed) := by
  -- the report is written in the same way whether or not the oldest one was dropped
  have hwrite : ∀ (freed : Option PinningReport) (b : ReportBuffer), (do
      let reports ← store b.untimed.reports b.untimed.head (some r.untimed)
      let head ← umod (b.untimed.head + 1) b.untimed.capacity
      .ok (freed.map PinningReport.untimed, { b.untimed with
        reports := reports, head := head, count := b.untimed.count + 1 })) = (do
      let reports ← store b.reports b.head (some r)
      let head ← umod (b.head + 1) b.capacity
      .ok (freed, { b with
        reports := reports, head := head, count := b.count + 1 }) : Exec _).map
      (Prod.map (Option.map PinningReport.untimed) ReportBuffer.untimed) := by
    intro freed b
    have hstore := store_map (Option.map PinningReport.untimed) b.reports b.head (some r)
    rw [Option.map_some] at hstore
    dsimp only [ReportBuffer.untimed]
    rw [hstore, bind_map, map_bind]
    congr 1
    funext reports
    rw [map_bind]
    rfl
  unfold reportBufferPush
  dsimp only
  by_cases hfull : buf.count = buf.capacity
  · rw [if_pos hfull, if_pos (show buf.untimed.count = buf.untimed.capacity from hfull),
      reportBufferDropOldest_untimed, bind_map, map_bind]
    congr 1
    funext made
    exact hwrite made.1 made.2
  · rw [if_neg hfull, if_neg (show ¬buf.untimed.count = buf.untimed.capacity from hfull), ok_bind,
      ok_bind]
    exact hwrite none buf

theorem reportBufferDrain.go_untimed :
    ∀ (fuel : ℕ) (buf : ReportBuffer), reportBufferDrain.go fuel buf.untimed
      = (reportBufferDrain.go fuel buf).map
        (Prod.map (List.map (Option.map PinningReport.untimed)) ReportBuffer.untimed) := by
  intro fuel
  induction fuel with
  | zero => intro buf; rfl
  | succ fuel ih =>
    intro buf
    rw [reportBufferDrain.go, reportBufferDrain.go]
    dsimp only [ReportBuffer.untimed]
    rw [load_map, bind_map, map_bind]
    congr 1
    funext report
    have hstore := store_map (Option.map PinningReport.untimed) buf.reports buf.tail none
    rw [Option.map_none] at hstore
    rw [hstore, bind_map, map_bind]
    congr 1
    funext reports
    rw [map_bind]
    congr 1
    funext tail
    have hrest := ih { buf with reports := reports, tail := tail }
    dsimp only [ReportBuffer.untimed] at hrest
    rw [hrest, bind_map, map_bind]
    rfl

theorem reportBufferDrain_untimed (buf : ReportBuffer) (maxReports : UInt32) :
    reportBufferDrain buf.untimed maxReports = (reportBufferDrain buf maxReports).map
      (Prod.map (Prod.map id (List.map (Option.map PinningReport.untimed))) ReportBuffer.untimed) := by
  unfold reportBufferDrain
  dsimp only
  rw [show buf.untimed.count = buf.count from rfl, apply_ite (Except.map _), map_bind,
    reportBufferDrain.go_untimed, bind_map]
  rfl

/-! ### The summary -/

/-- The summary does not look at timestamps. -/
theorem summaryAddReport_untimed (env : Env) (report : Option PinningReport) (st : SummaryState) :
    summaryAddReport env.untimed (report.map PinningReport.untimed) st
      = summaryAddReport env report st := by
  cases report with
  | none => rfl
  | some r =>
    have hgo : ∀ (fuel : ℕ) (j : UInt32) (st : SummaryState),
        summaryAddReport.go env.untimed r.untimed fuel j st = summaryAddReport.go env r fuel j st := by
      intro fuel
      induction fuel with
      | zero => intro j st; rfl
      | succ fuel ih =>
        intro j st
        rw [summaryAddReport.go, summaryAddReport.go]
        dsimp only [PinningReport.untimed]
        rw [load_map, bind_map]
        congr 1
        funext pa
        rw [show summaryAddAlloc env.untimed r.granuleId st pa.untimed
          = summaryAddAlloc env r.granuleId st pa from rfl]
        congr 1
        funext booked
        cases booked with
        | none => rfl
        | some st => exact ih (j + 1) st
    exact hgo r.pinningCount.toNat 0 { st with reportsAnalyzed := st.reportsAnalyzed + 1 }

theorem diagnosticSummaryOfBuffer_untimed (env : Env) (buf : ReportBuffer) :
    diagnosticSummaryOfBuffer env.untimed buf.untimed = diagnosticSummaryOfBuffer env buf := by
  have hgo : ∀ (fuel i : ℕ) (st : SummaryState),
      diagnosticSummaryCompute.go env.untimed buf.untimed fuel i st
        = diagnosticSummaryCompute.go env buf fuel i st := by
    intro fuel
    induction fuel with
    | zero => intro i st; rfl
    | succ fuel ih =>
      intro i st
      rw [diagnosticSummaryCompute.go, diagnosticSummaryCompute.go]
      dsimp only [ReportBuffer.untimed]
      congr 1
      funext idx
      rw [load_map, bind_map]
      congr 1
      funext report
      rw [summaryAddReport_untimed]
      congr 1
      funext analyzed
      cases analyzed with
      | none => rfl
      | some st => exact ih (i + 1) st
  unfold diagnosticSummaryOfBuffer
  rw [show buf.untimed.count = buf.count from rfl, hgo]
  rfl

/-! ### The slots -/

namespace SlotArrayDiag

variable (arr : SlotArrayDiag) (i : Fin arr.capacity.toNat)

theorem slot_untimed : arr.untimed.slot i = (arr.slot i).untimed :=
  List.getElem_map ..

theorem setSlot_untimed (s : DiagSlot) :
    arr.untimed.setSlot i s.untimed = (arr.setSlot i s).untimed := by
  unfold setSlot untimed
  dsimp only
  congr 1
  exact List.map_set.symm

end SlotArrayDiag

theorem DiagSlot.find_untimed (s : DiagSlot) (id : GranuleId) :
    s.untimed.find id = (s.find id).map GranuleDiag.untimed := by
  obtain ⟨occupied, diag⟩ := s
  unfold find
  dsimp only [untimed]
  cases occupied with
  | false => rfl
  | true =>
    cases diag with
    | none => rfl
    | some d =>
      by_cases hid : d.granuleId = id
      · simp [hid, GranuleDiag.untimed]
      · simp [hid, GranuleDiag.untimed]

theorem slotArrayDiagOpen_untimed (env : Env) (arr : SlotArrayDiag) (g : GranuleId)
    (t : Timespec) :
    slotArrayDiagOpen env.untimed arr.untimed g ⟨0, 0⟩
      = (slotArrayDiagOpen env arr g t).map (Prod.map id SlotArrayDiag.untimed) := by
  unfold slotArrayDiagOpen
  rw [map_bind]
  congr 1
  funext i
  rw [arr.slot_untimed i, granuleDiagCreate_untimed env g t, apply_ite (Except.map _)]
  cases granuleDiagCreate env g t with
  | none =>
    dsimp only [Option.map_none]
    rw [← show (DiagSlot.mk false none).untimed = ⟨false, none⟩ from rfl, arr.setSlot_untimed]
    rfl
  | some d =>
    dsimp only [Option.map_some]
    rw [← show (DiagSlot.mk true (some d)).untimed = ⟨true, some d.untimed⟩ from rfl,
      arr.setSlot_untimed]
    rfl

theorem slotArrayDiagGet_untimed (arr : SlotArrayDiag) (g : GranuleId) :
    slotArrayDiagGet arr.untimed g = (slotArrayDiagGet arr g).map
      (Option.map (Prod.map id GranuleDiag.untimed)) := by
  unfold slotArrayDiagGet
  rw [map_bind]
  congr 1
  funext i
  rw [arr.slot_untimed i, DiagSlot.find_untimed]
  cases (arr.slot i).find g <;> rfl

theorem slotArrayDiagClose_untimed (arr : SlotArrayDiag) (g : GranuleId) :
    slotArrayDiagClose arr.untimed g = (slotArrayDiagClose arr g).map
      (Option.map (Prod.map GranuleDiag.untimed SlotArrayDiag.untimed)) := by
  unfold slotArrayDiagClose
  rw [map_bind]
  congr 1
  funext i
  rw [arr.slot_untimed i, DiagSlot.find_untimed,
    ← show (DiagSlot.mk false none).untimed = ⟨false, none⟩ from rfl, arr.setSlot_untimed]
  cases (arr.slot i).find g <;> rfl

/-! ### The public calls -/

theorem granuleOpen_untimed (env : Env) (prof : Profiler) (g : GranuleId) :
    granuleOpen env.untimed prof.untimed g
      = (granuleOpen env prof g).map (Prod.map id Profiler.untimed) := by
  have hstorage : storageOpen env.untimed prof.storage.untimed g
      = (storageOpen env prof.storage g).map (Prod.map id Storage.untimed) := by
    cases prof.storage with
    | slotArray arr => rfl
    | slotArrayDiag arr =>
      dsimp only [Storage.untimed, storageOpen]
      rw [show env.untimed.now = ⟨0, 0⟩ from rfl, slotArrayDiagOpen_untimed env arr g env.now,
        bind_map, map_bind]
      rfl
  unfold granuleOpen
  rw [show prof.untimed.storage = prof.storage.untimed from rfl, hstorage, bind_map, map_bind]
  congr 1
  funext opened
  obtain ⟨r, storage⟩ := opened
  dsimp only [Prod.map, id]
  rw [apply_ite (Except.map _)]
  rfl

theorem allocRegisterLocated_untimed (env : Env) (prof : Profiler) (g : GranuleId) (a : AllocId)
    (size : UInt64) (file : FilePtr) (line : UInt32) :
    allocRegisterLocated env.untimed prof.untimed g a size file line
      = (allocRegisterLocated env prof g a size file line).map (Prod.map id Profiler.untimed) := by
  have hstorage : storageRegister env.untimed prof.storage.untimed g a size file line
      = (storageRegister env prof.storage g a size file line).map (Prod.map id Storage.untimed) := by
    cases prof.storage with
    | slotArray arr => rfl
    | slotArrayDiag arr =>
      dsimp only [Storage.untimed, storageRegister]
      rw [slotArrayDiagGet_untimed, bind_map, map_bind]
      congr 1
      funext found
      cases found with
      | none => rfl
      | some found =>
        obtain ⟨i, d⟩ := found
        dsimp only [Option.map_some, Prod.map, id]
        rw [show env.untimed.now = ⟨0, 0⟩ from rfl,
          granuleDiagAddAlloc_untimed env d a size file line env.now, bind_map, map_bind]
        congr 1
        funext added
        obtain ⟨r, d'⟩ := added
        show Except.ok (r, Storage.slotArrayDiag (arr.untimed.setSlot i
          (DiagSlot.untimed ⟨true, some d'⟩))) = _
        rw [arr.setSlot_untimed]
        rfl
  unfold allocRegisterLocated
  rw [show prof.untimed.storage = prof.storage.untimed from rfl, hstorage, bind_map, map_bind]
  rfl

theorem allocDeregister_untimed (env : Env) (prof : Profiler) (g : GranuleId) (a : AllocId) :
    allocDeregister env.untimed prof.untimed g a
      = (allocDeregister env prof g a).map (Prod.map id Profiler.untimed) := by
  have hstorage : storageDeregister env.untimed prof.storage.untimed g a
      = (storageDeregister env prof.storage g a).map (Prod.map id Storage.untimed) := by
    cases prof.storage with
    | slotArray arr => rfl
    | slotArrayDiag arr =>
      dsimp only [Storage.untimed, storageDeregister]
      rw [slotArrayDiagGet_untimed, bind_map, map_bind]
      congr 1
      funext found
      cases found with
      | none => rfl
      | some found =>
        obtain ⟨i, d⟩ := found
        dsimp only [Option.map_some, Prod.map, id]
        rw [show env.untimed.now = ⟨0, 0⟩ from rfl, granuleDiagMarkFreed_untimed d a env.now,
          bind_map, map_bind]
        congr 1
        funext freed
        obtain ⟨r, d'⟩ := freed
        show Except.ok (r, Storage.slotArrayDiag (arr.untimed.setSlot i
          (DiagSlot.untimed ⟨true, some d'⟩))) = _
        rw [arr.setSlot_untimed]
        rfl
  unfold allocDeregister
  rw [show prof.untimed.storage = prof.storage.untimed from rfl, hstorage, bind_map, map_bind]
  rfl

theorem deliverReport_untimed (prof : Profiler) (r : PinningReport) :
    deliverReport prof.untimed r.untimed = (deliverReport prof r).map
      (Prod.map Profiler.untimed (List.map Event.untimed)) := by
  unfold deliverReport
  rw [show prof.untimed.config = prof.config from rfl,
    show prof.untimed.reportBuffer = prof.reportBuffer.map ReportBuffer.untimed from rfl,
    apply_ite (Except.map _)]
  cases prof.reportBuffer with
  | none => rfl
  | some buf =>
    dsimp only [Option.map_some]
    rw [reportBufferPush_untimed, bind_map, map_bind]
    congr 2
    funext pushed
    obtain ⟨freed, buf'⟩ := pushed
    cases freed <;> rfl

theorem reportPinned_untimed (env : Env) (prof : Profiler) (g : GranuleId) (d : GranuleDiag) :
    reportPinned env.untimed prof.untimed g d.untimed = (reportPinned env prof g d).map
      (Prod.map Profiler.untimed (List.map Event.untimed)) := by
  have hlog : ∀ verbose : Bool, (if verbose then [Event.logPinned g d.untimed.liveCount] else [])
      = (if verbose then [Event.logPinned g d.liveCount] else []).map Event.untimed := by
    intro verbose
    cases verbose <;> rfl
  unfold reportPinned
  rw [show env.untimed.now = ⟨0, 0⟩ from rfl, granuleDiagGenerateReport_untimed env d env.now,
    bind_map, map_bind]
  congr 1
  funext report
  cases report with
  | none =>
    dsimp only [Option.map_none]
    rw [ok_bind, ok_bind, hlog]
    rfl
  | some report =>
    dsimp only [Option.map_some]
    rw [deliverReport_untimed, bind_map, map_bind]
    congr 1
    funext delivered
    obtain ⟨p, events⟩ := delivered
    rw [ok_bind, ok_bind, hlog]
    show _ = Except.ok (p.untimed, List.map Event.untimed
      (.reportCreated report :: events ++ if p.config.verbose then [.logPinned g d.liveCount] else []))
    rw [List.map_append]
    rfl

theorem finishClose_untimed (prof : Profiler) (drainable : Bool) :
    finishClose prof.untimed drainable
      = Prod.map Profiler.untimed (List.map Event.untimed) (finishClose prof drainable) := by
  unfold finishClose
  rw [show prof.untimed.config = prof.config from rfl,
    show prof.untimed.counters = prof.counters from rfl]
  dsimp only [Prod.map]
  split_ifs <;> rfl

theorem granuleDiagDestroy_untimed (d : GranuleDiag) :
    granuleDiagDestroy d.untimed = granuleDiagDestroy d := by
  unfold granuleDiagDestroy
  show deref (d.allocs.map _) >>= _ = _
  cases d.allocs <;> rfl

theorem granuleClose_untimed (env : Env) (prof : Profiler) (g : GranuleId) :
    granuleClose env.untimed prof.untimed g = (granuleClose env prof g).map
      (Prod.map id (Prod.map Profiler.untimed (List.map Event.untimed))) := by
  unfold granuleClose
  rw [show prof.untimed.storage = prof.storage.untimed from rfl]
  cases prof.storage with
  | slotArray arr =>
    by_cases hmax : (slotArrayClose arr g).1 = uint32Max
    · simp only [Storage.untimed, hmax, if_true]
      rfl
    · have hfinish := finishClose_untimed { prof with storage := .slotArray (slotArrayClose arr g).2 }
        (decide ((slotArrayClose arr g).1 = 0))
      dsimp only [Storage.untimed]
      rw [if_neg hmax, if_neg hmax]
      exact congrArg (fun r => Except.ok (if (slotArrayClose arr g).1 = 0 then 1 else 0, r)) hfinish
  | slotArrayDiag arr =>
    dsimp only [Storage.untimed]
    rw [slotArrayDiagClose_untimed, bind_map, map_bind]
    congr 1
    funext closed
    cases closed with
    | none => rfl
    | some closed =>
      obtain ⟨d, arr'⟩ := closed
      -- the end of a close, after the report branch has left `p` and caused `events`
      have hend : ∀ (r : Int) (p : Profiler) (events : List Event) (drainable : Bool),
          (granuleDiagDestroy d.untimed >>= fun _ => Except.ok (r, (finishClose p.untimed drainable).1,
            events.map Event.untimed ++ (finishClose p.untimed drainable).2))
            = (granuleDiagDestroy d >>= fun _ => (Except.ok (r, (finishClose p drainable).1,
                events ++ (finishClose p drainable).2) : Exec _)).map
              (Prod.map id (Prod.map Profiler.untimed (List.map Event.untimed))) := by
        intro r p events drainable
        rw [granuleDiagDestroy_untimed, map_bind, finishClose_untimed]
        congr 1
        funext _
        show _ = Except.ok (r, _, List.map Event.untimed (events ++ _))
        rw [List.map_append]
        rfl
      dsimp only [Option.map_some, Prod.map]
      by_cases hzero : d.liveCount = 0
      · rw [if_pos hzero, if_pos (show d.untimed.liveCount = 0 from hzero), ok_bind, ok_bind]
        exact hend _ { prof with storage := .slotArrayDiag arr' } [] _
      · rw [if_neg hzero, if_neg (show ¬d.untimed.liveCount = 0 from hzero)]
        have hreport := reportPinned_untimed env { prof with storage := .slotArrayDiag arr' } g d
        rw [show ({ prof with storage := .slotArrayDiag arr' } : Profiler).untimed = { prof.untimed with
          storage := .slotArrayDiag arr'.untimed } from rfl] at hreport
        rw [hreport, bind_map, map_bind]
        congr 1
        funext reported
        exact hend _ reported.1 reported.2 _

theorem sweptCounts_untimed (storage : Storage) :
    sweptCounts storage.untimed = sweptCounts storage := by
  cases storage with
  | slotArray arr => rfl
  | slotArrayDiag arr =>
    rw [Storage.untimed, sweptCounts, sweptCounts, SlotArrayDiag.untimed, List.filterMap_map]
    congr 1
    funext s
    obtain ⟨occupied, diag⟩ := s
    cases diag <;> rfl

theorem reset_untimed (prof : Profiler) : reset prof.untimed = (reset prof).untimed := by
  unfold reset
  rw [show prof.untimed.storage = prof.storage.untimed from rfl]
  cases hs : prof.storage with
  | slotArray arr => rfl
  | slotArrayDiag arr =>
    rw [Profiler.untimed, Profiler.untimed, hs]
    rfl

theorem drainReports_untimed (prof : Profiler) (maxReports : UInt32) :
    drainReports prof.untimed maxReports = (drainReports prof maxReports).map
      (Prod.map (Prod.map id (List.map (Option.map PinningReport.untimed))) Profiler.untimed) := by
  unfold drainReports
  rw [show prof.untimed.storage = prof.storage.untimed from rfl,
    show prof.untimed.reportBuffer = prof.reportBuffer.map ReportBuffer.untimed from rfl]
  cases prof.storage with
  | slotArray arr => rfl
  | slotArrayDiag arr =>
    cases prof.reportBuffer with
    | none => rfl
    | some buf =>
      dsimp only [Option.map_some, Storage.untimed]
      rw [reportBufferDrain_untimed, bind_map, map_bind]
      rfl

theorem diagnosticSummaryCompute_untimed (env : Env) (prof : Profiler) :
    diagnosticSummaryCompute env.untimed prof.untimed = diagnosticSummaryCompute env prof := by
  unfold diagnosticSummaryCompute
  rw [show prof.untimed.storage = prof.storage.untimed from rfl,
    show prof.untimed.reportBuffer = prof.reportBuffer.map ReportBuffer.untimed from rfl]
  cases prof.storage with
  | slotArray arr => rfl
  | slotArrayDiag arr =>
    cases prof.reportBuffer with
    | none => rfl
    | some buf => exact diagnosticSummaryOfBuffer_untimed env buf

/-- **No call depends on the clock**: at time zero the untimed profiler does what the profiler does,
untimed. -/
theorem call_untimed (prof : Profiler) (env : Env) (c : Call) :
    prof.untimed.call (env.untimed, c)
      = (prof.call (env, c)).map (Prod.map Outcome.untimed Profiler.untimed) := by
  cases c with
  | granuleOpen g =>
    rw [Profiler.call, Profiler.call, granuleOpen_untimed, bind_map, map_bind]
    rfl
  | granuleClose g =>
    rw [Profiler.call, Profiler.call, granuleClose_untimed, bind_map, map_bind]
    rfl
  | allocRegister g a size =>
    rw [Profiler.call, Profiler.call, allocRegister, allocRegister, allocRegisterLocated_untimed,
      bind_map, map_bind]
    rfl
  | allocRegisterLocated g a size file line =>
    rw [Profiler.call, Profiler.call, allocRegisterLocated_untimed, bind_map, map_bind]
    rfl
  | allocDeregister g a =>
    rw [Profiler.call, Profiler.call, allocDeregister_untimed, bind_map, map_bind]
    rfl
  | snapshot => rfl
  | sweep =>
    rw [Profiler.call, Profiler.call, sweep, sweep,
      show prof.untimed.storage = prof.storage.untimed from rfl, sweptCounts_untimed]
    rfl
  | reset =>
    rw [Profiler.call, Profiler.call, reset_untimed]
    rfl
  | drainReports k =>
    rw [Profiler.call, Profiler.call, drainReports_untimed, bind_map, map_bind]
    rfl
  | diagnosticSummaryCompute =>
    rw [Profiler.call, Profiler.call, diagnosticSummaryCompute_untimed, map_bind]
    rfl

/-- Two runs of the same calls, at different times, differ in their timestamps only. -/
theorem run_untimed (prof : Profiler) (calls : List (Env × Call)) :
    run Profiler.call prof.untimed (calls.map fun i => (i.1.untimed, i.2))
      = (run Profiler.call prof calls).map (Prod.map (List.map Outcome.untimed) Profiler.untimed) :=
  run_map (fun prof i => call_untimed prof i.1 i.2) calls prof

end Drainprof
