import Drainprof.Equiv.Diagnostic

/-!
# The open granules as a map

`Profiler.Tables prof n f m` says that a diagnostic profiler with `n` slots holds exactly the
granules of the map `m`, whose values are the values `f` of the granules' diagnostic states.  Each
public call is a case distinction over that map, whatever `f` keeps of the states: a specification of
diagnostic mode picks its `f` and has no slots to look at.
-/

namespace Drainprof

open Table Transition

/-- The profiler holds the granules of `m`, in `n` well-formed diagnostic slots. -/
def Profiler.Tables {β : Type} (prof : Profiler) (n : UInt32) (f : GranuleDiag → β)
    (m : FinMap GranuleId β) : Prop :=
  ∃ arr, prof.storage = .slotArrayDiag arr ∧ arr.capacity = n ∧ arr.WF GranuleDiag.WF ∧
    Tabulates (arr.entries f) m

namespace Profiler.Tables

variable {β : Type} {prof : Profiler} {n : UInt32} {f : GranuleDiag → β} {m : FinMap GranuleId β}
  {env : Env}

theorem of_storage_eq {prof' : Profiler} (h : prof.Tables n f m)
    (hs : prof'.storage = prof.storage) : prof'.Tables n f m := by
  obtain ⟨arr, hs', h⟩ := h
  exact ⟨arr, hs.trans hs', h⟩

/-- `open` succeeds exactly when no open granule has the same residue. -/
theorem granuleOpen_cases (h : prof.Tables n f m) (henv : env.Plentiful) (g : GranuleId) :
    ((∃ k ∈ m.keys, k.toNat % n.toNat = g.toNat % n.toNat) ∧
        granuleOpen env prof g = .ok (-1, prof)) ∨
      ((¬∃ k ∈ m.keys, k.toNat % n.toNat = g.toNat % n.toNat) ∧
        ∃ d storage, granuleDiagCreate env g env.now = some d ∧
          granuleOpen env prof g = .ok (0, { prof with
            counters := prof.counters.opened, storage := storage }) ∧
          { prof with storage := storage }.Tables n f (m.insert g (f d))) := by
  obtain ⟨arr, hs, rfl, harr, hm⟩ := h
  have hfree : (arr.slot (harr.home g)).diag = none ↔ _ := harr.diag_eq_none_iff hm
  rcases granuleOpen_diag_cases hs harr env g with ⟨⟨d, hd⟩, hopen⟩ | ⟨hd, hcreate, hopen⟩ |
    ⟨hd, d, hcreate, hopen⟩
  · refine Or.inl ⟨?_, hopen⟩
    by_contra hno
    rw [hfree.mpr fun k hk heq => hno ⟨k, hk, heq⟩] at hd
    cases hd
  · obtain ⟨d, hd'⟩ := granuleDiagCreate_of_plentiful henv g env.now
    rw [hd'] at hcreate
    cases hcreate
  · obtain ⟨hwf, hgid, -⟩ := granuleDiagCreate_spec hcreate
    refine Or.inr ⟨?_, d, _, hcreate, hopen, _, rfl, rfl, harr.write (by rw [hgid]) hwf,
      harr.tabulates_claim hm hgid hd⟩
    rintro ⟨k, hk, heq⟩
    exact hfree.mp hd k hk heq

/-- A registration appends a live record, unless the record array can grow no further. -/
theorem allocRegisterLocated_cases (h : prof.Tables n f m) (henv : env.Plentiful) (g : GranuleId)
    (a : AllocId) (size : UInt64) (file : FilePtr) (line : UInt32) :
    (m.lookup g = none ∧ allocRegisterLocated env prof g a size file line = .ok (-1, { prof with
        counters := { prof.counters with totalAllocs := prof.counters.totalAllocs + 1 } })) ∨
      ∃ d : GranuleDiag, m.lookup g = some (f d) ∧ d.WF ∧ (d.allocCount.toNat = 2 ^ 31 ∨
        ∃ (d' : GranuleDiag) (storage : Storage),
          d'.allocCount.toNat = d.allocCount.toNat + 1 ∧
          d'.live = d.live ++ [.registered d.granuleId a size file line env.now] ∧
          allocRegisterLocated env prof g a size file line = .ok (0, { prof with
            counters := { prof.counters with totalAllocs := prof.counters.totalAllocs + 1 }
            storage := storage }) ∧
          { prof with storage := storage }.Tables n f (m.insert g (f d'))) := by
  obtain ⟨arr, hs, rfl, harr, hm⟩ := h
  have hlookup := harr.lookup_eq hm g
  cases hfind : (arr.slot (harr.home g)).find g with
  | none =>
    rw [hfind, Option.map_none] at hlookup
    exact Or.inl ⟨hlookup, allocRegisterLocated_diag_of_none hs harr hfind⟩
  | some d =>
    obtain ⟨hd, hgid⟩ := harr.find_eq_some_iff.mp hfind
    have hwf := harr.diag _ d hd
    rw [hfind, Option.map_some] at hlookup
    refine Or.inr ⟨d, hlookup, hwf, ?_⟩
    have hcall : allocRegisterLocated env prof g a size file line = _ :=
      allocRegisterLocated_diag_of_find hs harr hfind
    rcases granuleDiagAddAlloc_cases hwf env a size file line env.now with
      ⟨d', hadd, hwf', hgid', -, hrecords, hlive⟩ | ⟨hfail, -⟩ | ⟨hfull, -⟩
    · rw [hadd, ok_bind] at hcall
      have hcount : d'.allocCount.toNat = d.allocCount.toNat + 1 := by
        rw [← hwf'.length_records, hrecords, List.length_append, List.length_singleton,
          hwf.length_records]
      exact Or.inr ⟨d', _, hcount, hlive, hcall, _, rfl, rfl,
        harr.write (by rw [hgid', hgid]) hwf', harr.tabulates_rewrite hm hfind (hgid'.trans hgid)⟩
    · rw [henv] at hfail
      cases hfail
    · exact Or.inl hfull

/-- `deregister` frees a live record of the allocation, if there is one. -/
theorem allocDeregister_cases (h : prof.Tables n f m) (env : Env) (g : GranuleId) (a : AllocId) :
    (m.lookup g = none ∧ allocDeregister env prof g a = .ok (-1, { prof with
        counters := { prof.counters with totalDeallocs := prof.counters.totalDeallocs + 1 } })) ∨
      ∃ d : GranuleDiag, m.lookup g = some (f d) ∧ d.WF ∧
        (((∀ r ∈ d.records, ¬r.Matches a) ∧ allocDeregister env prof g a = .ok (-1, { prof with
            counters :=
              { prof.counters with totalDeallocs := prof.counters.totalDeallocs + 1 } })) ∨
          ∃ (i : ℕ) (r : AllocRecord) (storage : Storage),
            d.records[i]? = some r ∧ r.Matches a ∧
            allocDeregister env prof g a = .ok (0, { prof with
              counters := { prof.counters with totalDeallocs := prof.counters.totalDeallocs + 1 }
              storage := storage }) ∧
            { prof with storage := storage }.Tables n f
              (m.insert g (f (d.freeAt i r env.now)))) := by
  obtain ⟨arr, hs, rfl, harr, hm⟩ := h
  have hlookup := harr.lookup_eq hm g
  cases hfind : (arr.slot (harr.home g)).find g with
  | none =>
    rw [hfind, Option.map_none] at hlookup
    exact Or.inl ⟨hlookup, allocDeregister_diag_of_none hs harr hfind⟩
  | some d =>
    obtain ⟨hd, hgid⟩ := harr.find_eq_some_iff.mp hfind
    have hwf := harr.diag _ d hd
    rw [hfind, Option.map_some] at hlookup
    refine Or.inr ⟨d, hlookup, hwf, ?_⟩
    have hcall : allocDeregister env prof g a = _ := allocDeregister_diag_of_find hs harr hfind
    rcases granuleDiagMarkFreed_cases hwf a env.now with ⟨i, r, hi, hr, hfree⟩ | ⟨hmiss, hnone⟩
    · rw [hfree, ok_bind] at hcall
      exact Or.inr ⟨i, r, _, hi, hr, hcall, _, rfl, rfl,
        harr.write (by rw [← hgid]; rfl) (hwf.freeAt hi hr.2 _),
        harr.tabulates_rewrite hm hfind hgid⟩
    · rw [hmiss, ok_bind, arr.setSlot_of_find hfind, ← hs] at hcall
      exact Or.inl ⟨hnone, hcall⟩

/-- `close` takes the granule out, and reports it if it has live allocations. -/
theorem granuleClose_cases (h : prof.Tables n f m) (env : Env) (g : GranuleId) :
    (m.lookup g = none ∧ granuleClose env prof g = .ok (-1, prof, [])) ∨
      ∃ (d : GranuleDiag) (storage : Storage), m.lookup g = some (f d) ∧ d.WF ∧
        d.granuleId = g ∧ (∃ arr i, prof.storage = .slotArrayDiag arr ∧
          slotArrayDiagGet arr g = .ok (some (i, d))) ∧
        { prof with storage := storage }.Tables n f (m.erase g) ∧
        ((d.liveCount = 0 ∧ granuleClose env prof g
            = .ok (1, finishClose { prof with storage := storage } true)) ∨
          (d.liveCount ≠ 0 ∧ granuleClose env prof g = (do
            let r ← reportPinned env { prof with storage := storage } g d
            .ok (0, (finishClose r.1 false).1, r.2 ++ (finishClose r.1 false).2)))) := by
  obtain ⟨arr, hs, rfl, harr, hm⟩ := h
  have hlookup := harr.lookup_eq hm g
  cases hfind : (arr.slot (harr.home g)).find g with
  | none =>
    rw [hfind, Option.map_none] at hlookup
    exact Or.inl ⟨hlookup, granuleClose_diag_of_none hs harr hfind⟩
  | some d =>
    obtain ⟨hd, hgid⟩ := harr.find_eq_some_iff.mp hfind
    rw [hfind, Option.map_some] at hlookup
    refine Or.inr ⟨d, .slotArrayDiag (arr.setSlot (harr.home g) ⟨false, none⟩), hlookup,
      harr.diag _ d hd, hgid, ⟨arr, _, hs, by rw [slotArrayDiagGet_eq harr, hfind]; rfl⟩,
      ⟨_, rfl, rfl, harr.clear _, harr.tabulates_release hm hfind⟩, ?_⟩
    by_cases hzero : d.liveCount = 0
    · exact Or.inl ⟨hzero, granuleClose_diag_of_drainable hs harr hfind (harr.diag _ d hd) hzero⟩
    · exact Or.inr ⟨hzero, granuleClose_diag_of_pinned hs harr hfind (harr.diag _ d hd) hzero⟩

/-- A count over the live counts the sweep reads is a count over the map. -/
theorem countP_sweptCounts (h : prof.Tables n f m) {p : β → Bool} {q : UInt32 → Bool}
    (hpq : ∀ d : GranuleDiag, d.WF → p (f d) = q d.liveCount) :
    (sweptCounts prof.storage).countP q = m.entries.countP fun e => p e.2 := by
  obtain ⟨arr, hs, rfl, harr, hm⟩ := h
  rw [hs, hm.countP_eq fun _ b => p b, sweptCounts, SlotArrayDiag.entries, List.countP_map,
    List.countP_filterMap]
  refine List.countP_congr ?_
  intro s hsmem
  obtain ⟨j, hj, rfl⟩ := List.getElem_of_mem hsmem
  have hdiag := harr.diag ⟨j, arr.length_slots ▸ hj⟩
  show _ ↔ (DiagSlot.entry _ _).any _ = true
  rw [DiagSlot.entry]
  cases hd : (arr.slots[j]).diag with
  | none => split_ifs <;> simp
  | some d =>
    split_ifs
    · simp only [Option.map_some, Option.getD_some, Option.any_some, hpq d (hdiag d hd)]
    · simp

/-- The counts of a sweep do not wrap. -/
theorem countP_sweptCounts_lt (h : prof.Tables n f m) (q : UInt32 → Bool) :
    (sweptCounts prof.storage).countP q < 2 ^ 64 := by
  obtain ⟨arr, hs, rfl, -, -⟩ := h
  rw [hs]
  have hlen : (sweptCounts (.slotArrayDiag arr)).length ≤ arr.slots.length :=
    List.length_filterMap_le ..
  have hcount : (sweptCounts (.slotArrayDiag arr)).countP q ≤ _ := List.countP_le_length
  have hcap := arr.capacity.toNat_lt
  have hslots := arr.length_slots
  omega

end Profiler.Tables

/-- The table of a profiler created in diagnostic mode is empty. -/
theorem tables_of_created {β : Type} {env : Env} {config : Config} {prof : Profiler}
    (h : createWithConfig env config = some prof) (hmode : config.mode = .diagnostic)
    (hcap : 0 < config.slotCapacity.toNat) (f : GranuleDiag → β) :
    prof.Tables config.slotCapacity f ∅ := by
  obtain ⟨-, -, -, arr, hs, harrcap, hfree⟩ := createWithConfig_diag h hmode
  have hne : arr.capacity ≠ 0 := by
    intro h0
    rw [← harrcap, h0] at hcap
    exact absurd hcap (Nat.lt_irrefl 0)
  exact ⟨arr, hs, harrcap, SlotArrayDiag.wf_of_free hne hfree,
    SlotArrayDiag.tabulates_of_free hfree f⟩

end Drainprof
