import Mathlib.Data.Finset.Erase
import Mathlib.Data.Finset.Insert
import Drainprof.Equiv.Diagnostic

/-!
# Which granules a diagnostic profiler can open

The slot of a granule is its id modulo the capacity, and a slot holds one granule.  So in every state
a profiler can reach, whatever failed on the way, `open` succeeds exactly when no open granule has
the same residue: always for ids below the capacity, but not for every set of fewer than `capacity`
granules.  The open granules are those that a call has opened and none has closed since
(`hasOpen_iff_opened`).
-/

namespace Drainprof

open Transition

/-- A slot of the diagnostic array holds granule `id`. -/
def Profiler.HasOpen (prof : Profiler) (id : GranuleId) : Prop :=
  ∃ arr i, prof.storage = .slotArrayDiag arr ∧ ((arr.slot i).find id).isSome = true

instance (prof : Profiler) (id : GranuleId) : Decidable (prof.HasOpen id) :=
  match hs : prof.storage with
  | .slotArray arr => isFalse (by
      rintro ⟨arr', i, hs', -⟩
      rw [hs] at hs'
      cases hs')
  | .slotArrayDiag arr =>
    decidable_of_iff (∃ i, ((arr.slot i).find id).isSome = true) (by
      constructor
      · rintro ⟨i, hi⟩
        exact ⟨arr, i, hs, hi⟩
      · rintro ⟨arr', i, hs', hi⟩
        rw [hs] at hs'
        cases hs'
        exact ⟨i, hi⟩)

/-- A slot of the array holds granule `id`. -/
def SlotArrayDiag.Opens (arr : SlotArrayDiag) (id : GranuleId) : Prop :=
  ∃ i, ((arr.slot i).find id).isSome = true

theorem Profiler.hasOpen_iff {prof : Profiler} {arr : SlotArrayDiag}
    (hs : prof.storage = .slotArrayDiag arr) (id : GranuleId) : prof.HasOpen id ↔ arr.Opens id := by
  constructor
  · rintro ⟨arr', i, hs', hi⟩
    rw [hs] at hs'
    cases hs'
    exact ⟨i, hi⟩
  · rintro ⟨i, hi⟩
    exact ⟨arr, i, hs, hi⟩

/-! ### Opens and closes -/

/-- The open granules after a call that returned `r`: an `open` that returns `0` adds its granule, and
a `close` takes its granule out unless it returns `-1`. -/
def Call.opens (c : Call) (r : Result) (opened : Finset GranuleId) : Finset GranuleId :=
  match c with
  | .granuleOpen id => if r = .int 0 then insert id opened else opened
  | .granuleClose id => if r = .int (-1) then opened else opened.erase id
  | _ => opened

theorem Call.opens_of_moved {opened : Finset GranuleId} {c : Call} {r : Result}
    (h : ∀ g ∈ c.moved, r = .int (-1)) : c.opens r opened = opened := by
  cases c with
  | granuleOpen g =>
    have hr := h g rfl
    exact if_neg (by rw [hr]; decide)
  | granuleClose g => exact if_pos (h g rfl)
  | _ => rfl

namespace SlotArrayDiag

variable {arr arr' : SlotArrayDiag} {P : GranuleDiag → Prop} {env : Env} {c : Call} {r : Result}
  {id : GranuleId}

/-- After a slot is written, a granule is in that slot or in another. -/
theorem opens_setSlot_iff (arr : SlotArrayDiag) (i : Fin arr.capacity.toNat) (s : DiagSlot) :
    (arr.setSlot i s).Opens id ↔
      (s.find id).isSome = true ∨ ∃ j, i ≠ j ∧ ((arr.slot j).find id).isSome = true := by
  constructor
  · rintro ⟨j, hj⟩
    by_cases hij : i = j
    · subst hij
      rw [arr.slot_setSlot_self] at hj
      exact Or.inl hj
    · rw [arr.slot_setSlot_of_ne hij] at hj
      exact Or.inr ⟨j, hij, hj⟩
  · rintro (hs | ⟨j, hij, hj⟩)
    · exact ⟨i, by rwa [arr.slot_setSlot_self]⟩
    · exact ⟨j, by rwa [arr.slot_setSlot_of_ne hij]⟩

/-- A granule that another slot does not hold is opened by writing its slot. -/
theorem opens_setSlot_of_find {i : Fin arr.capacity.toNat} {s : DiagSlot}
    (h : ((arr.slot i).find id).isSome = true → (s.find id).isSome = true) :
    (arr.setSlot i s).Opens id ↔ (s.find id).isSome = true ∨ arr.Opens id := by
  rw [arr.opens_setSlot_iff]
  constructor
  · rintro (hs | ⟨j, -, hj⟩)
    · exact Or.inl hs
    · exact Or.inr ⟨j, hj⟩
  · rintro (hs | ⟨j, hj⟩)
    · exact Or.inl hs
    · by_cases hij : i = j
      · subst hij
        exact Or.inl (h hj)
      · exact Or.inr ⟨j, hij, hj⟩

/-- A slot in use holds its granule and no other. -/
theorem find_isSome_iff (d : GranuleDiag) :
    ((DiagSlot.find ⟨true, some d⟩ id).isSome = true) ↔ id = d.granuleId := by
  rw [Option.isSome_iff_exists]
  constructor
  · rintro ⟨d', hd'⟩
    obtain ⟨-, hd, rfl⟩ := DiagSlot.find_eq_some_iff.mp hd'
    cases hd
    rfl
  · rintro rfl
    exact ⟨d, DiagSlot.find_eq_some_iff.mpr ⟨rfl, rfl, rfl⟩⟩

/-- Writing the record of a granule back, changed, opens and closes nothing. -/
theorem opens_rewrite {i : Fin arr.capacity.toNat} {g : GranuleId} {d d' : GranuleDiag}
    (hfind : (arr.slot i).find g = some d) (hid : d'.granuleId = d.granuleId) :
    (arr.setSlot i ⟨true, some d'⟩).Opens id ↔ arr.Opens id := by
  obtain ⟨hocc, hd, -⟩ := DiagSlot.find_eq_some_iff.mp hfind
  have hslot : ((arr.slot i).find id).isSome = true ↔ id = d'.granuleId := by
    rw [hid, ← find_isSome_iff, show arr.slot i = ⟨true, some d⟩ from ?_]
    cases hs : arr.slot i with
    | mk occupied diag =>
      rw [hs] at hocc hd
      rw [show occupied = true from hocc, show diag = some d from hd]
  rw [opens_setSlot_of_find fun h => (find_isSome_iff d').mpr (hslot.mp h), find_isSome_iff]
  constructor
  · rintro (h | h)
    · exact ⟨i, hslot.mpr h⟩
    · exact h
  · exact Or.inr

/-- What a call does to the open granules. -/
theorem Step.opens_iff (h : arr.WF P) (hstep : arr.Step env c r arr') {opened : Finset GranuleId}
    (hopened : ∀ k, arr.Opens k ↔ k ∈ opened) (k : GranuleId) :
    arr'.Opens k ↔ k ∈ c.opens r opened := by
  -- a slot that is not in use holds no granule
  have hfree : ∀ {s : DiagSlot}, s.occupied = false → ((s.find k).isSome = true ↔ False) := by
    intro s hs
    rw [DiagSlot.find, hs]
    exact ⟨Bool.false_ne_true, False.elim⟩
  cases hstep with
  | keep hmoved => rw [Call.opens_of_moved hmoved, hopened]
  | @claim g i d hi hocc hcreate =>
    obtain ⟨-, hid, -⟩ := granuleDiagCreate_spec hcreate
    rw [opens_setSlot_of_find fun hold => ((hfree hocc).mp hold).elim, find_isSome_iff, hid, hopened,
      Call.opens, if_pos rfl, Finset.mem_insert]
  | @abort g i hocc =>
    rw [opens_setSlot_of_find fun hold => ((hfree hocc).mp hold).elim, hfree rfl, false_or, hopened,
      Call.opens, if_neg (by decide)]
  | @release g i d r hi hfind hr =>
    obtain ⟨hd, hid⟩ := h.find_eq_some_iff.mp hfind
    have hr' : Result.int r ≠ .int (-1) := by
      rintro heq
      cases heq
      omega
    rw [opens_setSlot_iff, hfree rfl, false_or, Call.opens, if_neg hr', Finset.mem_erase, ← hopened]
    constructor
    · rintro ⟨j, hij, hj⟩
      refine ⟨?_, j, hj⟩
      -- the granule that is closed is in its home only
      rintro rfl
      obtain ⟨d', hd'⟩ := Option.isSome_iff_exists.mp hj
      obtain ⟨hd', hid'⟩ := h.find_eq_some_iff.mp hd'
      have hhome := h.home_eq i d hd
      rw [hid] at hhome
      have hhome' := h.home_eq j d' hd'
      rw [hid'] at hhome'
      exact hij (hhome.symm.trans hhome')
    · rintro ⟨hne, j, hj⟩
      refine ⟨j, ?_, hj⟩
      rintro rfl
      obtain ⟨d', hd'⟩ := Option.isSome_iff_exists.mp hj
      obtain ⟨hd', hid'⟩ := h.find_eq_some_iff.mp hd'
      rw [hd] at hd'
      cases hd'
      exact hne (hid'.symm.trans hid)
  | register hc hi hfind hadd =>
    rw [opens_rewrite hfind (granuleDiagAddAlloc_outcome hadd).1, hopened,
      Call.opens_of_moved (by rw [(Call.moved_of_located hc).1]; exact nofun)]
  | deregister hi hfind hfreed =>
    rw [opens_rewrite hfind (granuleDiagMarkFreed_outcome hfreed).1, hopened]
    rfl

end SlotArrayDiag

/-- **The open granules are those opened and not closed since**, by the results of the calls. -/
theorem hasOpen_iff_opened {env : Env} {config : Config} {prof prof' : Profiler}
    (hcreate : createWithConfig env config = some prof) (hmode : config.mode = .diagnostic)
    (hcap : 0 < config.slotCapacity.toNat) {calls : List (Env × Call)} {os : List Outcome}
    (hrun : run Profiler.call prof calls = .ok (os, prof')) (id : GranuleId) :
    prof'.HasOpen id ↔ id ∈ ((calls.map Prod.snd).zip os).foldl
      (fun opened e => e.1.opens e.2.result opened) ∅ := by
  let R : Finset GranuleId → Call × Outcome → Finset GranuleId → Prop :=
    fun opened e opened' => opened' = e.1.opens e.2.result opened
  let Holds : Profiler → Finset GranuleId → Prop := fun p opened =>
    ∃ arr, p.storage = .slotArrayDiag arr ∧ (arr.WF fun _ => True) ∧ ∀ k, arr.Opens k ↔ k ∈ opened
  have hstart : Holds prof ∅ := by
    obtain ⟨arr, hs, -, hwf⟩ := run_diag_wf hcreate hmode hcap (show run _ prof [] = .ok _ from rfl)
    obtain ⟨-, -, -, arr', hs', -, hfree⟩ := createWithConfig_diag hcreate hmode
    rw [hs] at hs'
    cases hs'
    refine ⟨arr, hs, hwf, fun k => iff_of_false ?_ (Finset.notMem_empty k)⟩
    rintro ⟨i, hi⟩
    rw [hfree i] at hi
    cases hi
  have hstep : ∀ {p opened i o p'}, Holds p opened → True → Profiler.call p i = .ok (o, p') →
      ∃ opened', R opened (i.2, o) opened' ∧ Holds p' opened' := by
    rintro p opened ⟨env, c⟩ o p' ⟨arr, hs, hwf, hopened⟩ - hcall
    obtain ⟨arr', hs', hstep⟩ := call_slotArrayDiag_step hs hcall
    exact ⟨_, rfl, arr', hs', hstep.wf hwf, hstep.opens_iff hwf hopened⟩
  obtain ⟨opened, hsteps, arr, hs, -, hopened⟩ :=
    exists_steps_of_run hstep hstart (fun _ _ => trivial) hrun
  rw [Profiler.hasOpen_iff hs, hopened, hsteps.eq_foldl fun h => h]

/-! ### Free residues -/

/-- A slot is taken by a granule that is open and has its residue. -/
theorem SlotArrayDiag.WF.diag_eq_none_iff_find {arr : SlotArrayDiag} {P : GranuleDiag → Prop}
    (h : arr.WF P) (id : GranuleId) :
    (arr.slot (h.home id)).diag = none ↔ ∀ i k, ((arr.slot i).find k).isSome = true →
      k.toNat % arr.capacity.toNat ≠ id.toNat % arr.capacity.toNat := by
  constructor
  · intro hnone i k hk heq
    obtain ⟨d, hd⟩ := Option.isSome_iff_exists.mp hk
    obtain ⟨hdiag, rfl⟩ := h.find_eq_some_iff.mp hd
    have hi : h.home id = i := ((home_eq_iff h.capacity_ne).mpr heq.symm).trans (h.home_eq i d hdiag)
    rw [hi, hdiag] at hnone
    cases hnone
  · intro hall
    cases hdiag : (arr.slot (h.home id)).diag with
    | none => rfl
    | some d =>
      have hfind := h.find_eq_some_iff.mpr ⟨hdiag, rfl⟩
      have hhome := h.home_eq _ d hdiag
      exact absurd ((home_eq_iff h.capacity_ne).mp hhome) (hall _ _ (by rw [hfind]; rfl))

/-- **A diagnostic `open` succeeds exactly on a free residue**, in every reachable state.  In
particular dense ids never collide. -/
theorem granuleOpen_iff_residue_free {env₀ env : Env} {config : Config} {prof prof' : Profiler}
    (hcreate : createWithConfig env₀ config = some prof) (hmode : config.mode = .diagnostic)
    (hcap : 0 < config.slotCapacity.toNat) {calls : List (Env × Call)} {os : List Outcome}
    (hrun : run Profiler.call prof calls = .ok (os, prof')) (henv : env.Plentiful)
    (id : GranuleId) :
    ∃ r prof'', granuleOpen env prof' id = .ok (r, prof'') ∧ (r = 0 ∨ r = -1) ∧
      (r = 0 ↔ ∀ k, prof'.HasOpen k →
        k.toNat % config.slotCapacity.toNat ≠ id.toNat % config.slotCapacity.toNat) ∧
      (¬prof'.HasOpen id → id.toNat < config.slotCapacity.toNat →
        (∀ k, prof'.HasOpen k → k.toNat < config.slotCapacity.toNat) → r = 0) := by
  obtain ⟨arr, hs, hcap', hwf⟩ := run_diag_wf hcreate hmode hcap hrun
  rw [← hcap']
  have hopen := Profiler.hasOpen_iff hs
  have hfree := hwf.diag_eq_none_iff_find id
  have hresidue : (∀ k, prof'.HasOpen k →
      k.toNat % arr.capacity.toNat ≠ id.toNat % arr.capacity.toNat) ↔
        (arr.slot (hwf.home id)).diag = none := by
    rw [hfree]
    constructor
    · intro h i k hk
      exact h k ((hopen k).mpr ⟨i, hk⟩)
    · intro h k hk
      obtain ⟨i, hi⟩ := (hopen k).mp hk
      exact h i k hi
  -- ids below the capacity are their own residues
  have hdense : ¬prof'.HasOpen id → id.toNat < arr.capacity.toNat →
      (∀ k, prof'.HasOpen k → k.toNat < arr.capacity.toNat) →
        (arr.slot (hwf.home id)).diag = none := by
    intro hnew hid hall
    rw [← hresidue]
    intro k hk heq
    rw [Nat.mod_eq_of_lt (hall k hk), Nat.mod_eq_of_lt hid, UInt64.toNat_inj] at heq
    rw [heq] at hk
    exact hnew hk
  rw [hresidue]
  rcases granuleOpen_diag_cases hs hwf env id with ⟨⟨d, hd⟩, hcall⟩ | ⟨-, hcreate', -⟩ |
    ⟨hd, d, -, hcall⟩
  · refine ⟨-1, _, hcall, Or.inr rfl, ?_, fun hnew hid hall => ?_⟩
    · rw [hd]
      exact ⟨nofun, nofun⟩
    · rw [hdense hnew hid hall] at hd
      cases hd
  · obtain ⟨d, hd'⟩ := granuleDiagCreate_of_plentiful henv id env.now
    rw [hd'] at hcreate'
    cases hcreate'
  · exact ⟨0, _, hcall, Or.inl rfl, ⟨fun _ => hd, fun _ => rfl⟩, fun _ _ _ => rfl⟩

/-- Granule `0` is open and granule `2` is not, yet its slot is taken. -/
theorem slot_capacity_not_honoured :
    ¬∀ (env₀ env : Env) (config : Config) (prof prof' : Profiler) (calls : List (Env × Call))
      (os : List Outcome) (id : GranuleId),
      createWithConfig env₀ config = some prof → config.mode = .diagnostic →
      0 < config.slotCapacity.toNat → run Profiler.call prof calls = .ok (os, prof') →
      prof'.openCount < config.slotCapacity.toNat → env.Plentiful → ¬prof'.HasOpen id →
      ∃ prof'', granuleOpen env prof' id = .ok (0, prof'') := by
  intro h
  let env := Env.ample default
  let prof := (createWithConfig env (smallConfig .diagnostic 2)).get rfl
  obtain ⟨⟨os, prof'⟩, hrun, hstate⟩ := exists_of_okAnd (show okAnd
    (run Profiler.call prof [(env, .granuleOpen 0)]) (fun r => r.2.openCount < 2 ∧
      ¬r.2.HasOpen 2 ∧ okAnd (granuleOpen env r.2 2) (fun q => q.1 = -1) = true) = true by decide)
  obtain ⟨hcount, hnew, hfails⟩ := of_decide_eq_true hstate
  obtain ⟨prof'', hopen⟩ := h env env (smallConfig .diagnostic 2) prof prof' _ os 2 rfl rfl (by decide) hrun hcount
    (Env.plentiful_ample _) hnew
  rw [hopen] at hfails
  cases hfails

/-- Beside granule `0`, granule `1` can be opened and granule `2` cannot. -/
theorem granuleOpen_dense :
    ∃ prof os prof', createWithConfig (Env.ample default) (smallConfig .diagnostic 2) = some prof ∧
      run Profiler.call prof [(Env.ample default, .granuleOpen 0)] = .ok (os, prof') ∧
      (∃ prof'', granuleOpen (Env.ample default) prof' 1 = .ok (0, prof'') ∧
        ∀ k, prof'.HasOpen k → k.toNat % 2 ≠ 1) ∧
      ∃ prof'', granuleOpen (Env.ample default) prof' 2 = .ok (-1, prof'') ∧
        ¬∀ k, prof'.HasOpen k → k.toNat % 2 ≠ 0 := by
  let env := Env.ample default
  let prof := (createWithConfig env (smallConfig .diagnostic 2)).get rfl
  obtain ⟨⟨os, prof'⟩, hrun, hstate⟩ := exists_of_okAnd (show okAnd
    (run Profiler.call prof [(env, .granuleOpen 0)]) (fun r =>
      okAnd (granuleOpen env r.2 1) (fun q => q.1 = 0) = true ∧
      okAnd (granuleOpen env r.2 2) (fun q => q.1 = -1) = true) = true by decide)
  obtain ⟨hopens, hfails⟩ := of_decide_eq_true hstate
  have hcreate : createWithConfig env (smallConfig .diagnostic 2) = some prof := rfl
  obtain ⟨r₁, prof₁, hopen₁, -, hresidue₁, -⟩ := granuleOpen_iff_residue_free hcreate rfl
    (by decide) hrun (Env.plentiful_ample _) 1
  obtain ⟨r₂, prof₂, hopen₂, -, hresidue₂, -⟩ := granuleOpen_iff_residue_free hcreate rfl
    (by decide) hrun (Env.plentiful_ample _) 2
  rw [hopen₁] at hopens
  rw [hopen₂] at hfails
  obtain rfl : r₁ = 0 := of_decide_eq_true hopens
  obtain rfl : r₂ = -1 := of_decide_eq_true hfails
  exact ⟨prof, os, prof', hcreate, hrun, ⟨prof₁, hopen₁, hresidue₁.mp rfl⟩, prof₂, hopen₂,
    fun hfree => absurd (hresidue₂.mpr hfree) (by decide)⟩

end Drainprof
