import Drainprof.Equiv.FreeScan

/-!
# How far the record array grows

The capacity doubles in 32-bit arithmetic from `64` on.  Below `2 ^ 31` records every registration
finds or makes room for its record behind the others, and at `2 ^ 31` records the doubled capacity
wraps to zero (`growth_safe_iff`).
-/

namespace Drainprof

open Transition

namespace GranuleDiag

/-- The capacity after the growth step. -/
def grownCapacity (d : GranuleDiag) : UInt32 :=
  if d.allocCount ≥ d.allocCapacity then d.allocCapacity * 2 else d.allocCapacity

/-- The growth step yields a capacity above the count, and what it clears is the part of the block
between the two.  A registration whose `realloc` succeeds then writes its record at the index of the
count, inside the block and behind the records there were. -/
structure GrowsSafely (d : GranuleDiag) : Prop where
  capacity_gt : d.allocCount < d.grownCapacity
  cleared : d.allocCount.toNat + (d.grownCapacity - d.allocCount).toNat = d.grownCapacity.toNat
  registers : ∀ env : Env, env.succeeds .diagAllocsRealloc = true → ∀ a size file line t,
    ∃ d' block, granuleDiagAddAlloc env d a size file line t = .ok (0, d') ∧
      d'.allocs = some block ∧ block.length = d'.allocCapacity.toNat ∧
      d'.allocCapacity = d.grownCapacity ∧ d'.allocCount.toNat = d.allocCount.toNat + 1 ∧
      block[d.allocCount.toNat]? = some (.registered d.granuleId a size file line t) ∧
      d'.records = d.records ++ [.registered d.granuleId a size file line t]

variable {d d' : GranuleDiag} {env : Env} {r : Int}

/-- A growth step that succeeds yields the grown capacity. -/
theorem growAllocs_capacity (h : growAllocs env d = .ok (0, d')) :
    d'.allocCapacity = d.grownCapacity := by
  unfold growAllocs at h
  unfold grownCapacity
  split_ifs at h ⊢ with hfull
  · obtain ⟨block, -, h⟩ := bind_eq_ok.mp h
    unfold realloc at h
    split_ifs at h
    · cases h
    · obtain ⟨zeroed, -, h⟩ := bind_eq_ok.mp h
      cases h
      rfl
    · cases h
  · cases h
    rfl

/-- So does a registration. -/
theorem granuleDiagAddAlloc_capacity {a : AllocId} {size : UInt64} {file : FilePtr} {line : UInt32}
    {t : Timespec} (h : granuleDiagAddAlloc env d a size file line t = .ok (0, d')) :
    d'.allocCapacity = d.grownCapacity := by
  obtain ⟨⟨grown, d₁⟩, hgrow, h⟩ := bind_eq_ok.mp h
  dsimp only at h
  split_ifs at h with hfailed
  · cases h
    exact absurd rfl hfailed
  · obtain ⟨block, -, h⟩ := bind_eq_ok.mp h
    obtain ⟨block', -, h⟩ := bind_eq_ok.mp h
    cases h
    obtain rfl := not_not.mp hfailed
    have hcap := growAllocs_capacity hgrow
    exact hcap

/-- Below `2 ^ 31` records there is room for one more, or it is made. -/
theorem WF.lt_grownCapacity (h : d.WF) (hcount : d.allocCount.toNat < 2 ^ 31) :
    d.allocCount < d.grownCapacity := by
  rcases growAllocs_cases h (Env.ample default) with ⟨xs, c, hgrow, -, hlt, -⟩ | ⟨hfails, -⟩ |
    ⟨hfull, -⟩
  · rw [← growAllocs_capacity hgrow]
    exact UInt32.lt_iff_toNat_lt.mpr hlt
  · cases hfails
  · omega

theorem WF.growsSafely (h : d.WF) (hcount : d.allocCount.toNat < 2 ^ 31) : d.GrowsSafely where
  capacity_gt := h.lt_grownCapacity hcount
  cleared := by
    have hlt := UInt32.lt_iff_toNat_lt.mp (h.lt_grownCapacity hcount)
    rw [toNat_sub (Nat.le_of_lt hlt)]
    omega
  registers env henv a size file line t := by
    rcases granuleDiagAddAlloc_cases h env a size file line t with
      ⟨d', hadd, hwf, -, -, hrecords, -⟩ | ⟨hfails, -⟩ | ⟨hfull, -⟩
    · obtain ⟨block, hblock, hlength⟩ := hwf.block
      have hcount' : d'.allocCount.toNat = d.allocCount.toNat + 1 := by
        rw [← hwf.length_records, hrecords, List.length_append, h.length_records,
          List.length_singleton]
      refine ⟨d', block, hadd, hblock, hlength, granuleDiagAddAlloc_capacity hadd, hcount', ?_,
        hrecords⟩
      -- the last of the records in use
      have hlast : d'.records[d.allocCount.toNat]? = block[d.allocCount.toNat]? := by
        rw [records, hblock, Option.getD_some, List.getElem?_take_of_lt (by omega)]
      rw [← hlast, hrecords, ← h.length_records, List.getElem?_concat_length]
    · rw [henv] at hfails
      cases hfails
    · omega

/-- At `2 ^ 31` records the doubled capacity is zero. -/
theorem WF.not_growsSafely (h : d.WF) (hcount : d.allocCount.toNat = 2 ^ 31) :
    ¬d.GrowsSafely := by
  intro hsafe
  obtain ⟨hfull, hzero⟩ := (saturated_iff h).mpr hcount
  have hgt := hsafe.capacity_gt
  rw [grownCapacity, if_pos hfull, hzero] at hgt
  exact absurd (UInt32.lt_iff_toNat_lt.mp hgt) (Nat.not_lt_zero _)

theorem Lost.not_growsSafely (h : d.Lost) : ¬d.GrowsSafely := by
  intro hsafe
  obtain ⟨d', block, hadd, -⟩ := hsafe.registers (Env.ample default) rfl 0 0 0 0 default
  have hlost := h.step (Env.ample default, .addAlloc 0 0 0 0)
  rw [GranuleDiag.step] at hlost
  rw [show (Env.ample default).now = default from rfl, hadd] at hlost
  cases hlost

end GranuleDiag

/-! ### The number of registrations -/

/-- The call is a registration that succeeded. -/
def DiagOp.Registered : (Env × DiagOp) × Int → Bool
  | ((_, .addAlloc _ _ _ _), r) => r == 0
  | ((_, .markFreed _), _) => false

/-- The number of registrations of a run that succeeded. -/
def registeredCount (ops : List (Env × DiagOp)) (os : List Int) : ℕ :=
  (ops.zip os).countP DiagOp.Registered

namespace GranuleDiag

variable {d d' : GranuleDiag}

/-- Only a registration that succeeds adds a record. -/
theorem WF.allocCount_step {i : Env × DiagOp} {r : Int} (h : d.WF)
    (hstep : d.step i = .ok (r, d')) : d'.allocCount.toNat
      = d.allocCount.toNat + if DiagOp.Registered (i, r) then 1 else 0 := by
  obtain ⟨env, op⟩ := i
  cases op with
  | addAlloc a size file line =>
    rcases granuleDiagAddAlloc_cases h env a size file line env.now with
      ⟨d₁, hadd, hwf, -, -, hrecords, -⟩ | ⟨-, hadd⟩ | ⟨-, hadd⟩
    · rw [GranuleDiag.step, hadd] at hstep
      cases hstep
      rw [← hwf.length_records, hrecords, List.length_append, h.length_records]
      rfl
    · rw [GranuleDiag.step, hadd] at hstep
      cases hstep
      rfl
    · rw [GranuleDiag.step, hadd] at hstep
      cases hstep
      rfl
  | markFreed a =>
    rcases granuleDiagMarkFreed_cases h a env.now with ⟨j, x, -, -, hfreed⟩ | ⟨hfreed, -⟩
    · rw [GranuleDiag.step, hfreed] at hstep
      cases hstep
      rfl
    · rw [GranuleDiag.step, hfreed] at hstep
      cases hstep
      rfl

/-- The count is the number of registrations that succeeded. -/
theorem allocCount_of_run {ops : List (Env × DiagOp)} :
    ∀ {d d' : GranuleDiag} {os : List Int}, d.WF ∨ d.Lost →
      run GranuleDiag.step d ops = .ok (os, d') →
      d'.allocCount.toNat = d.allocCount.toNat + registeredCount ops os := by
  induction ops with
  | nil =>
    intro d d' os _ hrun
    cases hrun
    rfl
  | cons i ops ih =>
    intro d d' os h hrun
    obtain ⟨r, d₁, os', hstep, hrest, rfl⟩ := run_cons_eq_ok.mp hrun
    rcases h with hwf | hlost
    · rw [ih (hwf.step hstep) hrest, hwf.allocCount_step hstep, registeredCount, registeredCount,
        List.zip_cons_cons, List.countP_cons]
      omega
    · rw [hlost.step] at hstep
      cases hstep

end GranuleDiag

/-- **The record array grows safely** in every state that registrations and frees lead to, exactly as
long as fewer than `2 ^ 31` registrations have succeeded. -/
theorem growth_safe_iff {env : Env} {id : GranuleId} {t : Timespec} {d d' : GranuleDiag}
    {ops : List (Env × DiagOp)} {os : List Int} (hcreate : granuleDiagCreate env id t = some d)
    (hrun : run GranuleDiag.step d ops = .ok (os, d')) :
    d'.GrowsSafely ↔ registeredCount ops os < 2 ^ 31 := by
  obtain ⟨hwf₀, -, -, hempty⟩ := granuleDiagCreate_spec hcreate
  have hcount := GranuleDiag.allocCount_of_run (Or.inl hwf₀) hrun
  rw [← hwf₀.length_records, hempty, List.length_nil, Nat.zero_add] at hcount
  rw [← hcount]
  rcases GranuleDiag.wf_or_lost_of_run hcreate hrun with hwf | hlost
  · constructor
    · intro hsafe
      refine lt_of_le_of_ne hwf.count_le_two_pow ?_
      intro hcount
      exact hwf.not_growsSafely hcount hsafe
    · intro hcount
      exact hwf.growsSafely hcount
  · refine iff_of_false hlost.not_growsSafely ?_
    rw [hlost.count]
    exact Nat.lt_irrefl _

/-- After `2 ^ 31` registrations the doubled capacity wraps to zero. -/
theorem growth_wraps :
    ¬∀ (env : Env) (id : GranuleId) (t : Timespec) (d d' : GranuleDiag)
      (ops : List (Env × DiagOp)) (os : List Int), granuleDiagCreate env id t = some d →
      run GranuleDiag.step d ops = .ok (os, d') → d'.GrowsSafely := by
  intro h
  obtain ⟨d, hcreate⟩ := granuleDiagCreate_of_plentiful (Env.plentiful_ample default) 0 default
  obtain ⟨hwf, -, -, hempty⟩ := granuleDiagCreate_spec hcreate
  obtain ⟨os, d', hrun, hwf', hlength⟩ := run_registrations hwf hempty (2 ^ 31) le_rfl
  rw [hwf'.length_records] at hlength
  exact hwf'.not_growsSafely hlength (h _ 0 default d d' _ os hcreate hrun)

theorem growth_safe_two :
    ∃ d os d', granuleDiagCreate (Env.ample default) 0 default = some d ∧
      run GranuleDiag.step d ([.addAlloc 7 0 0 0, .markFreed 7, .addAlloc 8 0 0 0].map
        fun op => (Env.ample default, op)) = .ok (os, d') ∧ d'.GrowsSafely := by
  have hcreate : granuleDiagCreate (Env.ample default) 0 default = some _ := rfl
  obtain ⟨⟨os, d'⟩, hrun, hcount⟩ := exists_of_okAnd (show okAnd
    (run GranuleDiag.step ((granuleDiagCreate (Env.ample default) 0 default).get rfl)
      ([.addAlloc 7 0 0 0, .markFreed 7, .addAlloc 8 0 0 0].map fun op => (Env.ample default, op)))
    (fun r => registeredCount ([.addAlloc 7 0 0 0, .markFreed 7, .addAlloc 8 0 0 0].map
      fun op => (Env.ample default, op)) r.1 < 2 ^ 31) = true by decide)
  exact ⟨_, os, d', hcreate, hrun, (growth_safe_iff hcreate hrun).mpr (of_decide_eq_true hcount)⟩

end Drainprof
