import Mathlib.Algebra.Order.Group.Multiset
import Drainprof.Equiv.AtomicGranuleDiag

/-!
# Concurrent frees and what stays pinned

When every free names an allocation whose registration has returned, and each registration is freed
at most once, no interleaving makes a free miss its record: the frees all succeed, and what pins the
granule is what was registered and not freed (`shared_granule_pins_exactly`).  The calls may take the
lock in any order; the argument is that a registration which has returned comes before the free in
the order in which the lock is released.
-/

namespace Drainprof

open Interleaving hiding Event
open Mutex Mutex.Section Transition

/-! ### Registrations and frees of an id -/

/-- The id a call registers. -/
def DiagCall.registeredId : DiagCall → Option AllocId
  | .op _ (.addAlloc a _ _ _) => some a
  | .op _ (.markFreed _) => none
  | .report _ => none

/-- The id a call frees. -/
def DiagCall.freedId : DiagCall → Option AllocId
  | .op _ (.addAlloc _ _ _ _) => none
  | .op _ (.markFreed a) => some a
  | .report _ => none

/-- The ids that a list of calls registers. -/
def registeredIds (cs : List DiagCall) : Multiset AllocId :=
  (cs.filterMap DiagCall.registeredId : List AllocId)

/-- The ids that a list of calls frees. -/
def freedIds (cs : List DiagCall) : Multiset AllocId :=
  (cs.filterMap DiagCall.freedId : List AllocId)

theorem count_registeredIds (a : AllocId) (cs : List DiagCall) :
    (registeredIds cs).count a = cs.countP fun c => c.registeredId == some a := by
  rw [registeredIds, Multiset.coe_count, List.count_filterMap]

theorem count_freedIds (a : AllocId) (cs : List DiagCall) :
    (freedIds cs).count a = cs.countP fun c => c.freedId == some a := by
  rw [freedIds, Multiset.coe_count, List.count_filterMap]

theorem registeredIds_cons (c : DiagCall) (cs : List DiagCall) :
    registeredIds (c :: cs) = (c.registeredId.toList : Multiset AllocId) + registeredIds cs := by
  rw [registeredIds, registeredIds, List.filterMap_cons, Multiset.coe_add]
  cases c.registeredId <;> rfl

theorem freedIds_cons (c : DiagCall) (cs : List DiagCall) :
    freedIds (c :: cs) = (c.freedId.toList : Multiset AllocId) + freedIds cs := by
  rw [freedIds, freedIds, List.filterMap_cons, Multiset.coe_add]
  cases c.freedId <;> rfl

/-! ### Frees of live allocations, one after the other -/

/-- A free names an allocation that is live. -/
def FreesLive (l : LiveSet) (c : DiagCall) : Prop :=
  ∀ a, c.freedId = some a → a ∈ l.live

/-- One call that frees nothing but what is live. -/
theorem liveServe_of_freesLive {l : LiveSet} {c : DiagCall} (h : FreesLive l c) :
    (liveServe l c).2.live + (c.freedId.toList : Multiset AllocId)
        = l.live + (c.registeredId.toList : Multiset AllocId) ∧
      (c.freedId.isSome = true → (liveServe l c).1 = .int 0) := by
  cases c with
  | op env op =>
    cases op with
    | addAlloc a size file line =>
      refine ⟨?_, nofun⟩
      show a ::ₘ l.live + 0 = l.live + {a}
      rw [add_zero, ← Multiset.singleton_add, add_comm]
    | markFreed a =>
      have hmem : a ∈ l.live := h a rfl
      have hserve : liveServe l (.op env (.markFreed a))
          = (.int 0, ⟨l.registered, l.live.erase a⟩) := if_pos hmem
      rw [hserve]
      refine ⟨?_, fun _ => rfl⟩
      show l.live.erase a + {a} = l.live + 0
      rw [add_zero, add_comm, Multiset.singleton_add, Multiset.cons_erase hmem]
  | report env => exact ⟨rfl, nofun⟩

theorem trace_of_freesLive {cs : List DiagCall} :
    ∀ {l : LiveSet}, Admits liveServe FreesLive l cs →
      (trace liveServe l cs).2.live + freedIds cs = l.live + registeredIds cs ∧
      ∀ (i : ℕ) (c : DiagCall), cs[i]? = some c → c.freedId.isSome = true →
        (trace liveServe l cs).1[i]? = some (.int 0) := by
  induction cs with
  | nil =>
    intro l _
    exact ⟨rfl, nofun⟩
  | cons c cs ih =>
    intro l hadm
    obtain ⟨hlive, hresult⟩ := liveServe_of_freesLive hadm.1
    obtain ⟨hrest, hresults⟩ := ih hadm.2
    constructor
    · rw [trace]
      dsimp only
      rw [freedIds_cons, registeredIds_cons, add_left_comm, hrest, ← add_assoc, ← add_assoc,
        add_comm (c.freedId.toList : Multiset AllocId), hlive]
    · intro i c' hi hfree
      cases i with
      | zero =>
        cases hi
        exact congrArg some (hresult hfree)
      | succ i => exact hresults i c' hi hfree

/-! ### Frees of registered allocations, in any interleaving -/

/-- The call is a registration of `a` that has returned. -/
def hasRegistered (a : AllocId) : Mutex.Pc DiagPc DiagCall DiagResult Fault → Bool
  | .returned c _ => c.registeredId == some a
  | .lock _ | .body _ _ | .unlock _ _ | .faulted _ _ => false

/-- A free of `a` begins only while more registrations of `a` have returned than frees of `a` have
begun. -/
def FreesRegistered (s : Pool (Locked GranuleDiag) (Mutex.Pc DiagPc DiagCall DiagResult Fault)) :
    Interleaving.Event DiagCall Unit → Prop
  | .start (.op _ (.markFreed a)) =>
    s.calls.countP (fun p => p.call.freedId == some a) < s.calls.countP (hasRegistered a)
  | .start (.op _ (.addAlloc _ _ _ _)) => True
  | .start (.report _) => True
  | .step _ _ => True

instance : ∀ s e, Decidable (FreesRegistered s e)
  | _, .start (.op _ (.markFreed _)) => inferInstanceAs (Decidable (_ < _))
  | _, .start (.op _ (.addAlloc _ _ _ _)) => inferInstanceAs (Decidable True)
  | _, .start (.report _) => inferInstanceAs (Decidable True)
  | _, .step _ _ => inferInstanceAs (Decidable True)

/-- The invariant: there are at least as many registrations of an id in the log as there are frees of
it among the calls, and the logged frees have found their allocation live. -/
structure PinsInv (d : GranuleDiag) (log : List (ℕ × DiagCall × DiagResult))
    (s : Pool (Locked GranuleDiag) (Mutex.Pc DiagPc DiagCall DiagResult Fault)) : Prop where
  excludes : ∃ d', Excludes diagSection GranuleDiag.serve d log d' s
  credit : ∀ a, s.calls.countP (fun p => p.call.freedId == some a)
    ≤ log.countP fun e => e.2.1.registeredId == some a
  admits : Admits liveServe FreesLive ⟨0, 0⟩ (log.map fun e => e.2.1)

variable {d : GranuleDiag} {log : List (ℕ × DiagCall × DiagResult)}
  {s : Pool (Locked GranuleDiag) (Mutex.Pc DiagPc DiagCall DiagResult Fault)}

/-- The registrations that have returned are logged. -/
theorem PinsInv.hasRegistered_le (h : PinsInv d log s) (a : AllocId) :
    s.calls.countP (hasRegistered a) ≤ log.countP fun e => e.2.1.registeredId == some a := by
  obtain ⟨d', hexcludes⟩ := h.excludes
  rw [hexcludes.countP_eq fun c => c.registeredId == some a]
  refine List.countP_mono_left ?_
  intro p _ hp
  cases p with
  | returned c r => exact Bool.and_eq_true_iff.mpr ⟨hp, rfl⟩
  | lock c | body c p | unlock c r | faulted c e => cases hp

/-- A free that is about to release the lock has found its allocation live. -/
theorem PinsInv.freesLive (h : PinsInv d log s) {c : DiagCall} {r : DiagResult}
    (hmem : .unlock c r ∈ s.calls) :
    FreesLive (trace liveServe ⟨0, 0⟩ (log.map fun e => e.2.1)).2 c := by
  intro a ha
  obtain ⟨d', hexcludes⟩ := h.excludes
  have hpending := hexcludes.countP_lt (fun c => c.freedId == some a) hmem (beq_iff_eq.mpr ha) rfl
  have hlive := congrArg (Multiset.count a) (trace_of_freesLive h.admits).1
  rw [Multiset.count_add, Multiset.count_add, Multiset.count_zero, Nat.zero_add,
    count_registeredIds, count_freedIds, List.countP_map, List.countP_map] at hlive
  refine Multiset.count_pos.mp ?_
  have hfree : log.countP ((fun c : DiagCall => c.freedId == some a) ∘ fun e => e.2.1)
      < log.countP ((fun c : DiagCall => c.registeredId == some a) ∘ fun e => e.2.1) :=
    Nat.lt_of_lt_of_le hpending (h.credit a)
  omega

theorem PinsInv.next (h : PinsInv d log s) (e : Interleaving.Event DiagCall Unit) (hok : FreesRegistered s e) :
    PinsInv d (diagSection.note log s e) (diagSection.program.next s e) := by
  obtain ⟨d', hexcludes⟩ := h.excludes
  refine ⟨hexcludes.next diagSection_implements e, ?_, ?_⟩
  · intro a
    cases e with
    | start c =>
      show (s.calls ++ [Mutex.Pc.lock c]).countP _ ≤ log.countP _
      rw [List.countP_append, List.countP_singleton]
      have hcredit := h.credit a
      split_ifs with hc
      · have hc : c.freedId = some a := beq_iff_eq.mp hc
        have hle := h.hasRegistered_le a
        cases c with
        | op env op =>
          cases op with
          | addAlloc a' size file line => cases hc
          | markFreed a' =>
            cases hc
            have hlt : s.calls.countP _ < s.calls.countP _ := hok
            omega
        | report env => cases hc
      · exact hcredit
    | step k c =>
      rw [countP_next_step s k fun c => c.freedId == some a]
      exact (h.credit a).trans ((note_grows log s (.step k c)).sublist.countP_le)
  · cases e with
    | start c => exact h.admits
    | step k c =>
      rw [note]
      split
      · next c r hk =>
        rw [List.map_append, List.map_singleton, admits_append_iff]
        exact ⟨h.admits, h.freesLive (List.mem_of_getElem? hk), trivial⟩
      · exact h.admits

theorem pinsInv_run {es : List (Interleaving.Event DiagCall Unit)}
    (hes : diagSection.program.Along FreesRegistered (pool d) es) :
    PinsInv d (diagSection.log d es) (diagSection.program.run (pool d) es) := by
  have hstart : PinsInv d [] (pool d) :=
    ⟨⟨d, excludes_pool diagSection GranuleDiag.serve d⟩, fun _ => Nat.le_refl 0, trivial⟩
  have hnext : ∀ log s e, PinsInv d log s → FreesRegistered s e →
      PinsInv d (diagSection.note log s e) (diagSection.program.next s e) :=
    fun _ _ e h hok => h.next e hok
  exact Program.observe_inv_of_along hnext hstart hes

/-- When all calls have returned they are all logged. -/
theorem PinsInv.ids_eq (h : PinsInv d log s) (hall : ∀ p ∈ s.calls, p.hasReturned = true) :
    registeredIds (log.map fun e => e.2.1) = registeredIds (s.calls.map Mutex.Pc.call) ∧
      freedIds (log.map fun e => e.2.1) = freedIds (s.calls.map Mutex.Pc.call) := by
  obtain ⟨d', hexcludes⟩ := h.excludes
  have hcount : ∀ f : DiagCall → Bool, (log.map fun e => e.2.1).countP f
      = (s.calls.map Mutex.Pc.call).countP f := by
    intro f
    rw [List.countP_map, List.countP_map]
    refine (hexcludes.countP_eq f).trans (List.countP_congr ?_)
    intro p hp
    have hreturned := hall p hp
    cases p with
    | returned c r => exact Iff.of_eq (congrArg (· = true) (Bool.and_true (f c)))
    | lock c | body c p | unlock c r | faulted c e => cases hreturned
  constructor
  · ext a
    rw [count_registeredIds, count_registeredIds, hcount]
  · ext a
    rw [count_freedIds, count_freedIds, hcount]

theorem PinsInv.unlocked (h : PinsInv d log s) (hall : ∀ p ∈ s.calls, p.hasReturned = true) :
    s.shared.locked = false := by
  obtain ⟨d', hexcludes⟩ := h.excludes
  rw [← Bool.not_eq_true, hexcludes.locked_iff]
  rintro ⟨p, hp, hin⟩
  have hreturned := hall p hp
  cases p with
  | returned c r => cases hin
  | lock c | body c p | unlock c r | faulted c e => cases hreturned

/-- The frees that have returned have found their allocation.  When all calls have returned, the live
allocations together with the freed ones are the registered ones, and nothing pins the granule just
when every registered allocation has been freed. -/
structure PinsExactly (d : GranuleDiag) (es : List (Interleaving.Event DiagCall Unit)) : Prop where
  freed : ∀ c r, .returned c r ∈ (diagSection.program.run (pool d) es).calls →
    c.freedId.isSome = true → r = .int 0
  live_add : (∀ p ∈ (diagSection.program.run (pool d) es).calls, p.hasReturned = true) →
    (diagSection.program.run (pool d) es).shared.data.liveSet.live
      + freedIds ((diagSection.program.run (pool d) es).calls.map Mutex.Pc.call)
      = registeredIds ((diagSection.program.run (pool d) es).calls.map Mutex.Pc.call)
  drainable_iff : (∀ p ∈ (diagSection.program.run (pool d) es).calls, p.hasReturned = true) →
    ((diagSection.program.run (pool d) es).shared.data.liveCount = 0 ↔
      freedIds ((diagSection.program.run (pool d) es).calls.map Mutex.Pc.call)
        = registeredIds ((diagSection.program.run (pool d) es).calls.map Mutex.Pc.call))

/-- **Concurrent frees are exact**: when every free names an allocation whose registration has
returned and which no other free names, then whatever the interleaving no free fails, and what pins
the granule is what has been registered and not freed. -/
theorem shared_granule_pins_exactly {env : Env} {id : GranuleId} {t : Timespec}
    {es : List (Interleaving.Event DiagCall Unit)} (hcreate : granuleDiagCreate env id t = some d)
    (henv : ∀ c, .start c ∈ es → c.env.Plentiful)
    (hfew : (diagSection.program.run (pool d) es).calls.countP (fun p => p.call.registers)
      ≤ 2 ^ 31)
    (hpaired : diagSection.program.Along FreesRegistered (pool d) es) : PinsExactly d es := by
  obtain ⟨l, hacts⟩ := shared_granule_acts_as_multiset hcreate henv hfew
  have hpins := pinsInv_run hpaired
  obtain ⟨hlive, hresults⟩ := trace_of_freesLive hpins.admits
  rw [hacts.trace_eq] at hlive hresults
  have hbalance : (∀ p ∈ (diagSection.program.run (pool d) es).calls, p.hasReturned = true) →
      l.live + freedIds ((diagSection.program.run (pool d) es).calls.map Mutex.Pc.call)
        = registeredIds ((diagSection.program.run (pool d) es).calls.map Mutex.Pc.call) := by
    intro hall
    obtain ⟨hregistered, hfreed⟩ := hpins.ids_eq hall
    rw [← hregistered, ← hfreed, hlive, zero_add]
  refine ⟨?_, ?_, ?_⟩
  · intro c r hmem hfree
    obtain ⟨k, hk⟩ := List.mem_iff_getElem?.mp hmem
    obtain ⟨i, hi⟩ := List.mem_iff_getElem?.mp ((hacts.returned_iff k c r).mp hk)
    have hresult := hresults i c (by rw [List.getElem?_map, hi]; rfl) hfree
    rw [List.getElem?_map, hi, Option.map_some, Option.some.injEq] at hresult
    cases r with
    | int n => cases hresult; rfl
    | report r => cases hresult
  · intro hall
    obtain ⟨hset, -⟩ := hacts.live (hpins.unlocked hall)
    rw [hset, hbalance hall]
  · intro hall
    obtain ⟨-, hcard⟩ := hacts.live (hpins.unlocked hall)
    rw [← UInt32.toNat_inj, hcard, UInt32.toNat_zero, Multiset.card_eq_zero, ← hbalance hall,
      right_eq_add]

/-- A registration, then its free, another registration and a report that contend for the lock. -/
def pairedRun : List (Interleaving.Event DiagCall Unit) :=
  [.start (.op (Env.ample default) (.addAlloc 7 16 0 3))] ++ List.replicate 6 (.step 0 ()) ++
    [.start (.op (Env.ample default) (.markFreed 7)),
      .start (.op (Env.ample default) (.addAlloc 7 8 0 4)), .start (.report (Env.ample default))] ++
    (List.range 30).map fun i => .step (1 + i % 3) ()

theorem shared_granule_pins_exactly_paired :
    ∃ d, granuleDiagCreate (Env.ample default) 1 default = some d ∧ PinsExactly d pairedRun := by
  refine ⟨_, rfl, @shared_granule_pins_exactly _ (Env.ample default) 1 default pairedRun rfl ?_
    (by decide +kernel) (by decide +kernel)⟩
  intro c hc
  simp only [pairedRun, List.mem_append, List.mem_cons, Interleaving.Event.start.injEq,
    List.mem_replicate, List.mem_map, reduceCtorEq, and_false, exists_false, List.not_mem_nil,
    or_false] at hc
  rcases hc with rfl | rfl | rfl | rfl <;> exact Env.plentiful_ample default

end Drainprof
