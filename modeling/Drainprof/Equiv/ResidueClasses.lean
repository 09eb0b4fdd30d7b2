import Drainprof.Equiv.AtomicDiagSlots
import Drainprof.Equiv.PinningReports

/-!
# Granules of different residues

In diagnostic mode the slot of a granule is its id modulo the capacity, and the slots know nothing of
each other: a call is a call on one slot (`SlotArrayDiag.serve_eq`).  What the calls on the granules of
one residue return, and the reports they make, is therefore what they would return and make in a run
without all other calls (`residues_independent`).
-/

namespace Drainprof

open Transition

/-! ### One slot -/

/-- A call on a single slot, that of its granule. -/
def DiagSlot.serve (s : DiagSlot) : DiagSlotCall → Exec (DiagSlotResult × DiagSlot)
  | .open_ env id =>
    if s.occupied then .ok (.int (-1), s)
    else
      match granuleDiagCreate env id env.now with
      | none => .ok (.int (-1), ⟨false, none⟩)
      | some diag => .ok (.int 0, ⟨true, some diag⟩)
  | .op env id op =>
    match s.find id with
    | none => .ok (.int (-1), s)
    | some diag => do
      let (r, diag) ← diag.step (env, op)
      .ok (.int r, ⟨true, some diag⟩)
  | .close env id =>
    match s.find id with
    | none => .ok (.int (-1), s)
    | some diag => do
      let report ← closeReport env diag
      granuleDiagDestroy diag
      .ok (.closed diag.liveCount report, ⟨false, none⟩)
  | .sweep _ => .ok (.swept 0 0, s)

/-- The array is its slots: a call on a granule is a call on the slot of the granule. -/
theorem SlotArrayDiag.serve_eq {arr : SlotArrayDiag} (hc : arr.capacity ≠ 0) {c : DiagSlotCall}
    {id : GranuleId} (hid : c.granule = some id) :
    arr.serve c = (arr.slot (home hc id)).serve c >>= fun x =>
      .ok (x.1, arr.setSlot (home hc id) x.2) := by
  have hsame := arr.setSlot_slot (home hc id)
  cases c with
  | open_ env g =>
    cases hid
    rw [serve, slotArrayDiagOpen, diagSlotIndex_eq hc, ok_bind, DiagSlot.serve]
    split_ifs
    · rw [ok_bind, ok_bind, hsame]
    · cases granuleDiagCreate env id env.now <;> rfl
  | op env g op =>
    cases hid
    rw [serve, slotArrayDiagGet, diagSlotIndex_eq hc, ok_bind, ok_bind, DiagSlot.serve]
    cases (arr.slot (home hc id)).find id with
    | none => rw [ok_bind, hsame]; rfl
    | some d =>
      dsimp only [Option.map_some]
      cases d.step (env, op) <;> rfl
  | close env g =>
    cases hid
    rw [serve, slotArrayDiagClose, diagSlotIndex_eq hc, ok_bind, ok_bind, DiagSlot.serve]
    cases (arr.slot (home hc id)).find id with
    | none => rw [ok_bind, hsame]; rfl
    | some d =>
      dsimp only [Option.map_some]
      cases closeReport env d with
      | error f => rfl
      | ok report => cases granuleDiagDestroy d <;> rfl
  | sweep env => cases hid

/-! ### The calls on granules -/

/-- The granule the call is about; queries have none. -/
def Call.granule : Call → Option GranuleId
  | .granuleOpen id => some id
  | .granuleClose id => some id
  | .allocRegister id _ _ => some id
  | .allocRegisterLocated id _ _ _ _ => some id
  | .allocDeregister id _ => some id
  | .snapshot | .sweep | .reset | .drainReports _ | .diagnosticSummaryCompute => none

/-- What the call asks of the storage. -/
def Call.served (env : Env) : Call → DiagSlotCall
  | .granuleOpen id => .open_ env id
  | .granuleClose id => .close env id
  | .allocRegister id a size => .op env id (.addAlloc a size 0 0)
  | .allocRegisterLocated id a size file line => .op env id (.addAlloc a size file line)
  | .allocDeregister id a => .op env id (.markFreed a)
  | .snapshot | .sweep | .reset | .drainReports _ | .diagnosticSummaryCompute => .sweep env

theorem Call.granule_served (env : Env) (c : Call) : (c.served env).granule = c.granule := by
  cases c <;> rfl

/-- The counters after a call on a granule to which the storage has answered `r`; those of a close
are counted by `closeAnswer`. -/
def Counters.answered (counters : Counters) (r : DiagSlotResult) : Call → Counters
  | .granuleOpen _ => if r.code ≠ 0 then counters else counters.opened
  | .allocRegister _ _ _ => { counters with totalAllocs := counters.totalAllocs + 1 }
  | .allocRegisterLocated _ _ _ _ _ => { counters with totalAllocs := counters.totalAllocs + 1 }
  | .allocDeregister _ _ => { counters with totalDeallocs := counters.totalDeallocs + 1 }
  | _ => counters

/-- What a call on a granule returns once the storage has answered. -/
def Profiler.answer (prof : Profiler) (c : Call) (r : DiagSlotResult) : Exec (Outcome × Profiler) :=
  match c with
  | .granuleClose id => do
    let (r, prof, events) ← closeAnswer prof id r
    .ok (⟨.int r, events⟩, prof)
  | c => .ok (⟨.int r.code, []⟩, { prof with counters := prof.counters.answered r c })

/-- A call on a granule that returns asks the storage and answers. -/
theorem call_eq_ok_iff_serve {prof : Profiler} {arr : SlotArrayDiag}
    (hs : prof.storage = .slotArrayDiag arr) {c : Call} {id : GranuleId} (hid : c.granule = some id)
    (env : Env) {out : Outcome × Profiler} :
    prof.call (env, c) = .ok out ↔ (arr.serve (c.served env) >>= fun x =>
      { prof with storage := .slotArrayDiag x.2 }.answer c x.1) = .ok out := by
  cases c with
  | granuleOpen g =>
    rw [Profiler.call, granuleOpen_eq_serve hs, Call.served]
    cases arr.serve (.open_ env g) with
    | error f => exact Iff.rfl
    | ok x =>
      dsimp only [ok_bind, Profiler.answer, Counters.answered]
      split_ifs with h
      · rfl
      · rw [not_not.mp h]
  | granuleClose g =>
    rw [Profiler.call, Call.served, bind_eq_ok, bind_eq_ok]
    simp only [granuleClose_eq_ok_iff_serve hs, bind_eq_ok, Profiler.answer]
    constructor
    · rintro ⟨y, ⟨x, hserve, hanswer⟩, hout⟩
      exact ⟨x, hserve, y, hanswer, hout⟩
    · rintro ⟨x, hserve, y, hanswer, hout⟩
      exact ⟨y, ⟨x, hserve, hanswer⟩, hout⟩
  | allocRegister g a size =>
    rw [Profiler.call, allocRegister, allocRegisterLocated_eq_serve hs, Call.served]
    cases arr.serve (.op env g (.addAlloc a size 0 0)) <;> rfl
  | allocRegisterLocated g a size file line =>
    rw [Profiler.call, allocRegisterLocated_eq_serve hs, Call.served]
    cases arr.serve (.op env g (.addAlloc a size file line)) <;> rfl
  | allocDeregister g a =>
    rw [Profiler.call, allocDeregister_eq_serve hs, Call.served]
    cases arr.serve (.op env g (.markFreed a)) <;> rfl
  | _ => cases hid

/-! ### What a call shows of its granule -/

/-- The events that are about a granule: not the fate of its report in the buffer, and not the periodic
log line. -/
def Event.ofGranule : Event → Bool
  | .reportCreated _ | .pinCallback _ | .logPinned _ _ => true
  | .reportFreed _ | .logDsr _ _ _ => false

/-- The result of a call and its events that are about its granule. -/
def Outcome.ofGranule (o : Outcome) : Result × List Event :=
  (o.result, o.events.filter Event.ofGranule)

section Alike

variable {p p' q : Profiler} {events : List Event}

/-- The profiler has the report buffer its configuration asks for. -/
def Profiler.Buffering (prof : Profiler) : Prop :=
  ∃ rs, prof.Buffers rs

theorem Profiler.Buffering.of_eq (h : p.Buffering) (hconfig : q.config = p.config)
    (hbuf : q.reportBuffer = p.reportBuffer) : q.Buffering := by
  obtain ⟨rs, hrs⟩ := h
  exact ⟨rs, hrs.of_eq hconfig hbuf⟩

/-- A delivery touches the buffer only, and shows of the report that the callback has got it. -/
theorem deliverReport_ofGranule (h : p.Buffering) {report : PinningReport}
    (hdeliver : deliverReport p report = .ok (p', events)) :
    p'.config = p.config ∧ p'.storage = p.storage ∧ p'.Buffering ∧
      events.filter Event.ofGranule = if p.config.onPinning then [.pinCallback report] else [] := by
  obtain ⟨rs, hrs⟩ := h
  cases hcallback : p.config.onPinning with
  | true =>
    rw [deliverReport_of_callback hcallback] at hdeliver
    cases hdeliver
    exact ⟨rfl, rfl, ⟨rs, hrs⟩, rfl⟩
  | false =>
    rcases Nat.eq_zero_or_pos p.config.maxBufferedReports.toNat with hzero | hpos
    · rw [deliverReport_of_no_capacity hrs hcallback hzero] at hdeliver
      cases hdeliver
    · obtain ⟨buf, heq, hbuffers⟩ := deliverReport_of_buffer hrs hcallback hpos report
      rw [heq] at hdeliver
      cases hdeliver
      refine ⟨rfl, rfl, ⟨_, hbuffers⟩, ?_⟩
      rw [if_neg Bool.false_ne_true, List.filter_eq_nil_iff]
      intro e he
      obtain ⟨r, -, rfl⟩ := List.mem_map.mp he
      exact Bool.false_ne_true

/-- Profilers of one configuration deliver a report alike. -/
theorem exists_deliverReport (hp : p.Buffering) (hq : q.Buffering) (hconfig : q.config = p.config)
    {report : PinningReport} (hdeliver : deliverReport p report = .ok (p', events)) :
    ∃ q' events', deliverReport q report = .ok (q', events') := by
  obtain ⟨rs, hrs⟩ := hp
  obtain ⟨rs', hrs'⟩ := hq
  cases hcallback : p.config.onPinning with
  | true => exact ⟨_, _, deliverReport_of_callback (by rw [hconfig, hcallback]) report⟩
  | false =>
    rcases Nat.eq_zero_or_pos p.config.maxBufferedReports.toNat with hzero | hpos
    · rw [deliverReport_of_no_capacity hrs hcallback hzero] at hdeliver
      cases hdeliver
    · obtain ⟨buf, heq, -⟩ := deliverReport_of_buffer hrs' (by rw [hconfig, hcallback])
        (by rw [hconfig]; exact hpos) report
      exact ⟨_, _, heq⟩

/-- The profiler after a call that leaves its storage alone. -/
structure Profiler.Keeps (p p' : Profiler) : Prop where
  config_eq : p'.config = p.config
  storage_eq : p'.storage = p.storage
  buffering : p'.Buffering

theorem finishClose_ofGranule (h : p.Buffering) (drainable : Bool) :
    p.Keeps (finishClose p drainable).1 ∧
      (finishClose p drainable).2.filter Event.ofGranule = [] := by
  refine ⟨⟨rfl, rfl, h.of_eq rfl rfl⟩, ?_⟩
  dsimp only [finishClose]
  split_ifs <;> rfl

/-- The log line of a close of a pinned granule. -/
def pinnedLog (config : Config) (id : GranuleId) (liveCount : UInt32) : List Event :=
  if liveCount ≠ 0 ∧ config.verbose then [.logPinned id liveCount] else []

theorem closeAnswer_none (p : Profiler) (id : GranuleId) (liveCount : UInt32) :
    closeAnswer p id (.closed liveCount none) = .ok (if liveCount = 0 then 1 else 0,
      (finishClose p (liveCount = 0)).1,
      pinnedLog p.config id liveCount ++ (finishClose p (liveCount = 0)).2) := rfl

theorem closeAnswer_some (p : Profiler) (id : GranuleId) (liveCount : UInt32)
    (report : PinningReport) :
    closeAnswer p id (.closed liveCount (some report)) = deliverReport p report >>= fun x =>
      .ok (if liveCount = 0 then 1 else 0, (finishClose x.1 (liveCount = 0)).1,
        .reportCreated report :: x.2 ++ pinnedLog x.1.config id liveCount
          ++ (finishClose x.1 (liveCount = 0)).2) := by
  rw [closeAnswer]
  cases deliverReport p report <;> rfl

/-- A close that has found its granule shows the same on profilers of one configuration. -/
theorem closeAnswer_alike (hp : p.Buffering) (hq : q.Buffering) (hconfig : q.config = p.config)
    {id : GranuleId} {answer : DiagSlotResult} {r : Int}
    (h : closeAnswer p id answer = .ok (r, p', events)) :
    ∃ q' events', closeAnswer q id answer = .ok (r, q', events') ∧ p.Keeps p' ∧ q.Keeps q' ∧
      events'.filter Event.ofGranule = events.filter Event.ofGranule := by
  cases answer with
  | int r =>
    cases h
    exact ⟨q, [], rfl, ⟨rfl, rfl, hp⟩, ⟨rfl, rfl, hq⟩, rfl⟩
  | swept drainable pinned =>
    cases h
    exact ⟨q, [], rfl, ⟨rfl, rfl, hp⟩, ⟨rfl, rfl, hq⟩, rfl⟩
  | closed liveCount report =>
    cases report with
    | none =>
      rw [closeAnswer_none, Except.ok.injEq, Prod.mk.injEq, Prod.mk.injEq] at h
      obtain ⟨rfl, rfl, rfl⟩ := h
      obtain ⟨hkeeps, hlog⟩ := finishClose_ofGranule hp (liveCount = 0)
      obtain ⟨hkeeps', hlog'⟩ := finishClose_ofGranule hq (liveCount = 0)
      refine ⟨_, _, closeAnswer_none q id liveCount, hkeeps, hkeeps', ?_⟩
      rw [List.filter_append, List.filter_append, hlog, hlog', hconfig]
    | some report =>
      rw [closeAnswer_some] at h
      obtain ⟨⟨p₁, delivered⟩, hdeliver, h⟩ := bind_eq_ok.mp h
      rw [Except.ok.injEq, Prod.mk.injEq, Prod.mk.injEq] at h
      obtain ⟨rfl, rfl, rfl⟩ := h
      obtain ⟨q₁, delivered', hdeliver'⟩ := exists_deliverReport hp hq hconfig hdeliver
      obtain ⟨hpconfig, hpstorage, hpbuf, hpown⟩ := deliverReport_ofGranule hp hdeliver
      obtain ⟨hqconfig, hqstorage, hqbuf, hqown⟩ := deliverReport_ofGranule hq hdeliver'
      obtain ⟨hkeeps, hlog⟩ := finishClose_ofGranule hpbuf (liveCount = 0)
      obtain ⟨hkeeps', hlog'⟩ := finishClose_ofGranule hqbuf (liveCount = 0)
      refine ⟨_, _, by rw [closeAnswer_some, hdeliver', ok_bind],
        ⟨hkeeps.config_eq.trans hpconfig, hkeeps.storage_eq.trans hpstorage, hkeeps.buffering⟩,
        ⟨hkeeps'.config_eq.trans hqconfig, hkeeps'.storage_eq.trans hqstorage, hkeeps'.buffering⟩, ?_⟩
      simp only [List.filter_append, List.filter_cons, hlog, hlog', hpown, hqown, hpconfig, hqconfig,
        hconfig]

/-- So does every call on a granule. -/
theorem answer_alike (hp : p.Buffering) (hq : q.Buffering) (hconfig : q.config = p.config) {c : Call}
    {r : DiagSlotResult} {o : Outcome} (h : p.answer c r = .ok (o, p')) :
    ∃ o' q', q.answer c r = .ok (o', q') ∧ p.Keeps p' ∧ q.Keeps q' ∧
      o'.ofGranule = o.ofGranule := by
  cases c with
  | granuleClose id =>
    obtain ⟨⟨r, p₁, events⟩, hclose, heq⟩ := bind_eq_ok.mp h
    cases heq
    obtain ⟨q', events', hclose', hkeeps, hkeeps', hown⟩ := closeAnswer_alike hp hq hconfig hclose
    refine ⟨⟨.int r, events'⟩, q', ?_, hkeeps, hkeeps', Prod.ext rfl hown⟩
    rw [Profiler.answer, hclose']
    rfl
  | _ =>
    cases h
    exact ⟨_, _, rfl, ⟨rfl, rfl, hp.of_eq rfl rfl⟩, ⟨rfl, rfl, hq.of_eq rfl rfl⟩, rfl⟩

end Alike

/-! ### Profilers that share a slot -/

theorem SlotArrayDiag.getElem?_slots (arr : SlotArrayDiag) (k : Fin arr.capacity.toNat) :
    arr.slots[k.val]? = some (arr.slot k) :=
  List.getElem?_eq_getElem _

/-- The call is on a granule with the residue. -/
def Call.hasResidue (capacity : UInt32) (residue : ℕ) (c : Call) : Bool :=
  c.granule.any fun id => id.toNat % capacity.toNat == residue

/-- Two profilers of one configuration whose slots number `i` hold the same. -/
structure SharesSlot (capacity : UInt32) (i : ℕ) (p q : Profiler) : Prop where
  config_eq : q.config = p.config
  left : p.Buffering
  right : q.Buffering
  arrays : ∃ arr arr', p.storage = .slotArrayDiag arr ∧ q.storage = .slotArrayDiag arr' ∧
    arr.capacity = capacity ∧ arr'.capacity = capacity ∧ arr'.slots[i]? = arr.slots[i]?

namespace SharesSlot

variable {capacity : UInt32} {i : ℕ} {p p' q : Profiler} {env : Env} {c : Call} {o : Outcome}

/-- A call on a granule of the shared slot shows the same on both, and leaves the slots the same. -/
theorem mine (h : SharesSlot capacity i p q) (hcap : capacity ≠ 0)
    (hc : c.hasResidue capacity i = true) (hcall : p.call (env, c) = .ok (o, p')) :
    ∃ o' q', q.call (env, c) = .ok (o', q') ∧ o'.ofGranule = o.ofGranule ∧
      SharesSlot capacity i p' q' := by
  obtain ⟨hconfig, hp, hq, arr, arr', hs, hs', rfl, hcapacity, hslots⟩ := h
  obtain ⟨id, hid, hres⟩ := (Option.any_eq_true _ _).mp hc
  have hi : (home hcap id).val = i := beq_iff_eq.mp hres
  have hcap' : arr'.capacity ≠ 0 := by rwa [hcapacity]
  have hi' : (home hcap' id).val = i := by
    rw [← hi]
    show id.toNat % arr'.capacity.toNat = id.toNat % arr.capacity.toNat
    rw [hcapacity]
  have hslot : arr'.slot (home hcap' id) = arr.slot (home hcap id) := by
    have heq := arr'.getElem?_slots (home hcap' id)
    rw [hi', hslots, ← hi, arr.getElem?_slots, Option.some.injEq] at heq
    exact heq.symm
  rw [call_eq_ok_iff_serve hs hid, arr.serve_eq hcap ((c.granule_served env).trans hid)] at hcall
  obtain ⟨x, hserve, hanswer⟩ := bind_eq_ok.mp hcall
  obtain ⟨⟨r, s⟩, hslotServe, heq⟩ := bind_eq_ok.mp hserve
  cases heq
  have hp₁ : { p with storage := .slotArrayDiag (arr.setSlot (home hcap id) s) : Profiler }.Buffering :=
    hp.of_eq rfl rfl
  have hq₁ : { q with storage := .slotArrayDiag (arr'.setSlot (home hcap' id) s) : Profiler }.Buffering :=
    hq.of_eq rfl rfl
  obtain ⟨o', q', hanswer', hkeeps, hkeeps', hown⟩ := answer_alike hp₁ hq₁ hconfig hanswer
  refine ⟨o', q', ?_, hown, (hkeeps'.config_eq.trans hconfig).trans hkeeps.config_eq.symm,
    hkeeps.buffering, hkeeps'.buffering, _, _, hkeeps.storage_eq, hkeeps'.storage_eq, rfl, hcapacity,
    ?_⟩
  · rw [call_eq_ok_iff_serve hs' hid, arr'.serve_eq hcap' ((c.granule_served env).trans hid), hslot,
      hslotServe]
    exact hanswer'
  · show (arr'.slots.set (home hcap' id) s)[i]? = (arr.slots.set (home hcap id) s)[i]?
    rw [hi, hi', List.getElem?_set, List.getElem?_set, arr.length_slots, arr'.length_slots, hcapacity,
      hslots]

/-- Every other call on the first leaves the slot as it is. -/
theorem other (h : SharesSlot capacity i p q) (hcap : capacity ≠ 0)
    (hc : c.hasResidue capacity i = false) (hcall : p.call (env, c) = .ok (o, p')) :
    SharesSlot capacity i p' q := by
  obtain ⟨hconfig, hp, hq, arr, arr', hs, hs', rfl, hcapacity, hslots⟩ := h
  cases hid : c.granule with
  | some id =>
    have hne : (home hcap id).val ≠ i := by
      rw [Call.hasResidue, hid, Option.any_some] at hc
      exact beq_eq_false_iff_ne.mp hc
    rw [call_eq_ok_iff_serve hs hid, arr.serve_eq hcap ((c.granule_served env).trans hid)] at hcall
    obtain ⟨x, hserve, hanswer⟩ := bind_eq_ok.mp hcall
    obtain ⟨⟨r, s⟩, -, heq⟩ := bind_eq_ok.mp hserve
    cases heq
    have hp₁ : { p with storage := .slotArrayDiag (arr.setSlot (home hcap id) s) : Profiler }.Buffering :=
      hp.of_eq rfl rfl
    obtain ⟨-, -, -, hkeeps, -, -⟩ := answer_alike hp₁ hp₁ rfl hanswer
    refine ⟨hconfig.trans hkeeps.config_eq.symm, hkeeps.buffering, hq, _, arr', hkeeps.storage_eq, hs',
      rfl, hcapacity, ?_⟩
    exact hslots.trans (List.getElem?_set_ne hne).symm
  | none =>
    have hsame : ∀ p', p'.config = p.config → p'.storage = p.storage → p'.Buffering →
        SharesSlot arr.capacity i p' q := fun p' hconfig' hstorage hbuf =>
      ⟨hconfig.trans hconfig'.symm, hbuf, hq, arr, arr', hstorage.trans hs, hs', rfl, hcapacity, hslots⟩
    cases returns_of_call hcall with
    | reset =>
      have hreset : reset p = { p with counters := .zero } := by rw [reset, hs]
      exact hsame _ (by rw [hreset]) (by rw [hreset]) (hp.of_eq (by rw [hreset]) (by rw [hreset]))
    | drainReports hdrain =>
      obtain ⟨hconfig', -, hstorage⟩ := drainReports_counters hdrain
      obtain ⟨rs, hrs⟩ := hp
      obtain ⟨count, p'', hdrain', -, hrs'⟩ := drainReports_eq hs hrs _
      rw [hdrain'] at hdrain
      cases hdrain
      exact hsame _ hconfig' hstorage ⟨_, hrs'⟩
    | granuleOpen => cases hid
    | granuleClose => cases hid
    | allocRegister => cases hid
    | allocRegisterLocated => cases hid
    | allocDeregister => cases hid
    | _ => exact hsame _ rfl rfl hp

end SharesSlot

/-- **Granules of different residues are independent.**  In a diagnostic run, whatever memory fails, take
the calls on the granules of one residue modulo `slot_capacity`.  What they return, the reports they
make, hand to the callback and log, and what the slot holds in the end, are the same in the run of
these calls alone. -/
theorem residues_independent {env : Env} {config : Config} {prof prof' : Profiler}
    (hcreate : createWithConfig env config = some prof) (hmode : config.mode = .diagnostic)
    (hcap : 0 < config.slotCapacity.toNat) {calls : List (Env × Call)} {os : List Outcome}
    (hrun : run Profiler.call prof calls = .ok (os, prof')) (residue : ℕ) :
    let mine : Env × Call → Bool := fun i => i.2.hasResidue config.slotCapacity residue
    ∃ os' prof'', run Profiler.call prof (calls.filter mine) = .ok (os', prof'') ∧
      os'.map Outcome.ofGranule = (ownOutputs mine calls os).map Outcome.ofGranule ∧
      SharesSlot config.slotCapacity residue prof' prof'' := by
  intro mine
  obtain ⟨hconfig, -, hbuf, arr, hs, hcapacity, -⟩ := createWithConfig_diag hcreate hmode
  have hne : config.slotCapacity ≠ 0 := by
    rintro h0
    rw [h0] at hcap
    exact absurd hcap (by decide)
  have hstart : SharesSlot config.slotCapacity residue prof prof :=
    ⟨rfl, ⟨_, hbuf⟩, ⟨_, hbuf⟩, arr, arr, hs, hs, hcapacity, hcapacity, rfl⟩
  exact run_purge (fun h hmine hcall => h.mine hne hmine hcall)
    (fun h hother hcall => h.other hne hother hcall) hstart hrun

/-- Two slots, and a callback. -/
def sharingConfig : Config :=
  { smallConfig .diagnostic 2 with onPinning := true }

/-- Granule `3` has to wait for the slot of granule `1`, while granule `2` is open in the other. -/
def sharingRun : List (Env × Call) :=
  [.granuleOpen 1, .granuleOpen 2, .allocRegister 1 7 64, .granuleOpen 3, .granuleClose 2,
    .granuleClose 1, .granuleOpen 3].map fun c => (Env.ample default, c)

theorem residues_independent_sharing :
    ∃ prof prof' os, createWithConfig (Env.ample default) sharingConfig = some prof ∧
      run Profiler.call prof sharingRun = .ok (os, prof') ∧
      ∃ os' prof'', run Profiler.call prof
          (sharingRun.filter fun i => i.2.hasResidue 2 1) = .ok (os', prof'') ∧
        os'.map Outcome.ofGranule
          = (ownOutputs (fun i => i.2.hasResidue 2 1) sharingRun os).map Outcome.ofGranule ∧
        os'.map Outcome.result = [.int 0, .int 0, .int (-1), .int 0, .int 0] := by
  let prof := (createWithConfig (Env.ample default) sharingConfig).get rfl
  have hcreate : createWithConfig (Env.ample default) sharingConfig = some prof := rfl
  obtain ⟨⟨os, prof'⟩, hrun, -⟩ :=
    exists_of_okAnd (show okAnd (run Profiler.call prof sharingRun) (fun _ => true) = true by decide)
  obtain ⟨os', prof'', hrun', hown, -⟩ := residues_independent hcreate rfl (by decide) hrun 1
  refine ⟨prof, prof', os, hcreate, hrun, os', prof'', hrun', hown, ?_⟩
  -- what the calls returned
  have hresults : okAnd (run Profiler.call prof (sharingRun.filter fun i => i.2.hasResidue 2 1))
      (fun r => r.1.map Outcome.result = [.int 0, .int 0, .int (-1), .int 0, .int 0]) = true := by
    decide
  have heq : sharingConfig.slotCapacity = 2 := rfl
  rw [heq] at hrun'
  rw [hrun'] at hresults
  exact of_decide_eq_true hresults

end Drainprof
