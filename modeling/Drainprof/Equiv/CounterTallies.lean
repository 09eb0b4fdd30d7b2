import Mathlib.Data.UInt
import Drainprof.AtomicCounters
import Drainprof.Equiv.PeakMark
import Drainprof.Equiv.TornSnapshot

/-!
# What the counters count

Every call increments its counters by atomic operations of its own, so at any moment of any
interleaving a counter is the number of calls that have made its increment, modulo `2 ^ 64`
(`counterProgram_tallies`).  Once all calls have returned, the counters are exact
(`counters_exact`).  While calls are in flight, each counter of a snapshot lies between the calls that
had returned when the snapshot began and those that had begun when it returned
(`snapshot_regular`).
-/

namespace Drainprof

open Interleaving
open Interleaving.Program.Tallies (tally)

/-! ### Increments -/

/-- The increments of the global counters, `closed` being the decrement of `open_granules`. -/
inductive Increment where
  | opened
  | closed
  | total
  | class_ (drainable : Bool)
  | alloc
  | dealloc
  deriving DecidableEq, Repr

/-- The calls that make the increment. -/
def Increment.isMadeBy : Increment → CounterCall → Bool
  | opened, .granuleOpen result => result == 0
  | closed, .granuleClose (some _) => true
  | total, .granuleClose (some _) => true
  | class_ drainable, .granuleClose (some d) => d == drainable
  | alloc, .allocRegister _ => true
  | dealloc, .allocDeregister _ => true
  | _, _ => false

/-- The call itself. -/
def CounterPc.call : CounterPc → CounterCall
  | openAdd | openLoadPeak _ | openExchange _ _ => .granuleOpen 0
  | closeSub d | closeAddTotal d | closeAddClass d | closeLogTotal d | closeLogDrainable d _
  | closeLogPinned d _ _ => .granuleClose (some d)
  | allocAdd result => .allocRegister result
  | deallocAdd result => .allocDeregister result
  | snapshotTotal out | snapshotDrainable out | snapshotPinned out | snapshotOpen out
  | snapshotPeak out | snapshotAllocs out | snapshotDeallocs out => .snapshot out.timestamp
  | returned call _ => call

/-- The increment is one the call still has to make, if it makes it at all. -/
def CounterPc.precedes : Increment → CounterPc → Bool
  | .opened, openAdd => true
  | .closed, closeSub _ => true
  | .total, closeSub _ | .total, closeAddTotal _ => true
  | .class_ _, closeSub _ | .class_ _, closeAddTotal _ | .class_ _, closeAddClass _ => true
  | .alloc, allocAdd _ => true
  | .dealloc, deallocAdd _ => true
  | _, _ => false

/-- The call has made the increment. -/
def CounterPc.hasMade (i : Increment) (p : CounterPc) : Bool :=
  i.isMadeBy p.call && !p.precedes i

/-- The call has returned. -/
def CounterPc.hasReturned : CounterPc → Bool
  | returned _ _ => true
  | _ => false

/-- Only a call that makes an increment has made it. -/
theorem CounterPc.isMadeBy_of_hasMade {i : Increment} {p : CounterPc} (h : p.hasMade i = true) :
    i.isMadeBy p.call = true :=
  (Bool.and_eq_true_iff.mp h).1

/-- A call that has returned has made its increments. -/
theorem CounterPc.hasMade_of_hasReturned {i : Increment} {p : CounterPc}
    (h : p.hasReturned = true) : p.hasMade i = i.isMadeBy p.call := by
  cases p with
  | returned call ret =>
    have hnone : (returned call ret).precedes i = false := by cases i <;> rfl
    rw [hasMade, hnone, Bool.not_false, Bool.and_true]
  | _ => cases h

theorem CounterCall.start_hasMade (i : Increment) (a : CounterCall) :
    a.start.hasMade i = false := by
  cases a with
  | granuleOpen result =>
    rw [CounterCall.start]
    split_ifs with h
    · cases i with
      | opened => simp [CounterPc.hasMade, CounterPc.call, Increment.isMadeBy, h]
      | _ => rfl
    · cases i <;> rfl
  | granuleClose found => cases found with
    | none => cases i <;> rfl
    | some d =>
      cases i <;> simp [CounterPc.hasMade, CounterCall.start, CounterPc.precedes, CounterPc.call,
        Increment.isMadeBy]
  | _ => cases i <;> rfl

/-! ### What the counters show -/

/-- The counters after the increment. -/
def Counters.bump (c : Counters) : Increment → Counters
  | .opened => { c with openGranules := c.openGranules + 1 }
  | .closed => { c with openGranules := c.openGranules - 1 }
  | .total => { c with totalCloses := c.totalCloses + 1 }
  | .class_ true => { c with drainableCloses := c.drainableCloses + 1 }
  | .class_ false => { c with pinnedCloses := c.pinnedCloses + 1 }
  | .alloc => { c with totalAllocs := c.totalAllocs + 1 }
  | .dealloc => { c with totalDeallocs := c.totalDeallocs + 1 }

/-- The counters after `n i` increments of each kind. -/
structure Counters.Shows (n : Increment → ℕ) (c : Counters) : Prop where
  open_ : c.openGranules = UInt64.ofNat (n .opened) - UInt64.ofNat (n .closed)
  total : c.totalCloses = UInt64.ofNat (n .total)
  drainable : c.drainableCloses = UInt64.ofNat (n (.class_ true))
  pinned : c.pinnedCloses = UInt64.ofNat (n (.class_ false))
  allocs : c.totalAllocs = UInt64.ofNat (n .alloc)
  deallocs : c.totalDeallocs = UInt64.ofNat (n .dealloc)

section Shows

variable {n : Increment → ℕ} {c c' : Counters}

/-- The counters show one increment more. -/
theorem Counters.Shows.bump (h : c.Shows n) (i : Increment) :
    (c.bump i).Shows (Function.update n i (n i + 1)) := by
  have hadd : ∀ k : ℕ, UInt64.ofNat (k + 1) = UInt64.ofNat k + 1 := fun k => UInt64.ofNat_add k 1
  obtain ⟨hopen, htotal, hdrainable, hpinned, hallocs, hdeallocs⟩ := h
  cases i with
  | class_ d => cases d <;> constructor <;> simp [Counters.bump, *]
  | opened =>
    constructor <;> simp [Counters.bump, *]
    exact sub_add_eq_add_sub _ _ _
  | closed =>
    constructor <;> simp [Counters.bump, *]
    exact sub_sub _ _ _
  | _ => constructor <;> simp [Counters.bump, *]

/-- Only the mark is not among the counters that are shown. -/
theorem Counters.Shows.setPeak (h : c.Shows n) (peak : UInt64) :
    { c with peakOpenGranules := peak }.Shows n :=
  ⟨h.open_, h.total, h.drainable, h.pinned, h.allocs, h.deallocs⟩

end Shows

/-- What a step does: it makes an increment of its call, or none and then changes at most the mark. -/
theorem counterStep_bump {logInterval : UInt64} {b : Bool} {c c' : Counters} {p p' : CounterPc}
    (h : counterStep logInterval b c p = some (c', p')) :
    (∃ i, (∀ u, p'.hasMade u = (p.hasMade u || u == i)) ∧ p.hasMade i = false ∧ c' = c.bump i) ∨
      (∀ u, p'.hasMade u = p.hasMade u) ∧
        ∃ peak, c' = { c with peakOpenGranules := peak } := by
  cases p with
  | openAdd =>
    cases h
    exact Or.inl ⟨.opened, fun u => by cases u <;> rfl, rfl, rfl⟩
  | openExchange open_ peak =>
    refine Or.inr ?_
    rw [counterStep] at h
    split_ifs at h
    all_goals
      cases h
      exact ⟨fun u => by cases u <;> rfl, _, rfl⟩
  | closeSub d =>
    cases h
    refine Or.inl ⟨.closed, ?_, rfl, rfl⟩
    intro u
    cases u with
    | class_ e => cases d <;> cases e <;> rfl
    | _ => rfl
  | closeAddTotal d =>
    cases h
    refine Or.inl ⟨.total, ?_, rfl, rfl⟩
    intro u
    cases u with
    | class_ e => cases d <;> cases e <;> rfl
    | _ => rfl
  | closeAddClass d =>
    cases h
    refine Or.inl ⟨.class_ d, ?_, ?_, ?_⟩
    · intro u
      split_ifs
      all_goals
        cases u with
        | class_ e => cases d <;> cases e <;> rfl
        | _ => rfl
    · cases d <;> rfl
    · cases d <;> rfl
  | closeLogTotal d =>
    cases h
    refine Or.inr ⟨?_, _, rfl⟩
    intro u
    split_ifs <;> cases u <;> rfl
  | allocAdd result =>
    cases h
    exact Or.inl ⟨.alloc, fun u => by cases u <;> rfl, rfl, rfl⟩
  | deallocAdd result =>
    cases h
    exact Or.inl ⟨.dealloc, fun u => by cases u <;> rfl, rfl, rfl⟩
  | returned call ret => cases h
  | _ =>
    cases h
    exact Or.inr ⟨fun u => by cases u <;> rfl, _, rfl⟩

/-- The steps of the program tally the increments. -/
theorem counterProgram_tallies (logInterval : UInt64) :
    (counterProgram logInterval).Tallies CounterPc.hasMade Counters.Shows := by
  refine ⟨fun i a => a.start_hasMade i, ?_⟩
  intro b c p c' p' hstep
  rcases counterStep_bump hstep with ⟨i, hnew, hold, rfl⟩ | ⟨hsame, peak, rfl⟩
  · exact Or.inr ⟨i, hnew, hold, fun n h => h.bump i⟩
  · exact Or.inl ⟨hsame, fun n h => h.setPeak peak⟩

/-! ### The counters at rest -/

/-- The number of calls begun that make the increment. -/
def begun (i : Increment) (calls : List CounterPc) : ℕ :=
  calls.countP fun p => i.isMadeBy p.call

/-- The number of those that have returned. -/
def completed (i : Increment) (calls : List CounterPc) : ℕ :=
  calls.countP fun p => p.hasReturned && i.isMadeBy p.call

theorem completed_le_tally (i : Increment) (calls : List CounterPc) :
    completed i calls ≤ tally CounterPc.hasMade calls i := by
  apply List.countP_mono_left
  intro p _ h
  obtain ⟨hret, hmade⟩ := Bool.and_eq_true_iff.mp h
  rw [CounterPc.hasMade_of_hasReturned hret]
  exact hmade

theorem tally_le_begun (i : Increment) (calls : List CounterPc) :
    tally CounterPc.hasMade calls i ≤ begun i calls :=
  List.countP_mono_left fun _ _ h => CounterPc.isMadeBy_of_hasMade h

theorem begun_eq_completed {calls : List CounterPc} (h : ∀ p ∈ calls, p.hasReturned = true)
    (i : Increment) : begun i calls = completed i calls := by
  apply List.countP_congr
  intro p hp
  rw [h p hp, Bool.true_and]

/-- At every moment of every interleaving the counters show the increments made so far. -/
theorem counters_show (logInterval : UInt64) (es : List (Interleaving.Event CounterCall Bool)) :
    let s := (counterProgram logInterval).run counterPool es
    s.shared.Shows (tally CounterPc.hasMade s.calls) :=
  ((counterProgram_tallies logInterval).run (s := counterPool)
    ⟨rfl, rfl, rfl, rfl, rfl, rfl⟩ es).1

/-- **No count is lost.**  Whatever the interleaving of the calls was, once all of them have returned
every counter is the number of calls that were to be counted there, and `open_granules` is the number
of successful opens less that of successful closes. -/
theorem counters_exact (logInterval : UInt64) (es : List (Interleaving.Event CounterCall Bool)) :
    let s := (counterProgram logInterval).run counterPool es
    (∀ p ∈ s.calls, p.hasReturned = true) →
      s.shared.Shows (fun i => begun i s.calls) := by
  intro s hall
  have heq : tally CounterPc.hasMade s.calls = fun i => begun i s.calls := by
    funext i
    have hle := completed_le_tally i s.calls
    have hle' := tally_le_begun i s.calls
    have := begun_eq_completed hall i
    omega
  rw [← heq]
  exact counters_show logInterval es

/-- Two opens and two closes whose increments alternate; the second open has to retry. -/
def alternatingRun : List (Interleaving.Event CounterCall Bool) :=
  [.start (.granuleOpen 0), .start (.granuleClose (some true)), .start (.granuleOpen 0),
    .start (.granuleClose (some false)), .step 0 false, .step 1 false, .step 2 false, .step 3 false,
    .step 1 false, .step 3 false, .step 3 false, .step 1 false, .step 2 false, .step 0 true,
    .step 0 false, .step 2 false, .step 2 false]

theorem counters_exact_alternating :
    (((counterProgram 0).run counterPool alternatingRun).shared.Shows fun i =>
      begun i ((counterProgram 0).run counterPool alternatingRun).calls) :=
  counters_exact 0 alternatingRun (by decide)

/-! ### A snapshot among other calls -/

/-- The counter is a number between the two. -/
def Within (low high : ℕ) (v : UInt64) : Prop :=
  ∃ n, low ≤ n ∧ n ≤ high ∧ v = UInt64.ofNat n

/-- The counter is the difference of two numbers, each between its bounds. -/
def WithinSub (low high low' high' : ℕ) (v : UInt64) : Prop :=
  ∃ n m, low ≤ n ∧ n ≤ high ∧ low' ≤ m ∧ m ≤ high' ∧ v = UInt64.ofNat n - UInt64.ofNat m

theorem Within.mono {low high low' high' : ℕ} {v : UInt64} (h : Within low high v)
    (hlow : low' ≤ low) (hhigh : high ≤ high') : Within low' high' v := by
  obtain ⟨n, hn, hn', rfl⟩ := h
  exact ⟨n, Nat.le_trans hlow hn, Nat.le_trans hn' hhigh, rfl⟩

/-- What a snapshot has loaded after its first `stage` loads, when the increments were between `low`
and `high` and the mark between `peak` and `peak'`. -/
structure Snapshot.Loaded (low high : Increment → ℕ) (peak peak' : UInt64) (stage : ℕ)
    (out : Snapshot) : Prop where
  total : 0 < stage → Within (low .total) (high .total) out.totalCloses
  drainable : 1 < stage → Within (low (.class_ true)) (high (.class_ true)) out.drainableCloses
  pinned : 2 < stage → Within (low (.class_ false)) (high (.class_ false)) out.pinnedCloses
  open_ : 3 < stage →
    WithinSub (low .opened) (high .opened) (low .closed) (high .closed) out.openGranules
  peak : 4 < stage → peak ≤ out.peakOpenGranules ∧ out.peakOpenGranules ≤ peak'
  allocs : 5 < stage → Within (low .alloc) (high .alloc) out.totalAllocs
  deallocs : 6 < stage → Within (low .dealloc) (high .dealloc) out.totalDeallocs

/-- How many loads of its snapshot a call has behind it, and what it has loaded. -/
def CounterPc.loads : CounterPc → Option (ℕ × Snapshot)
  | snapshotTotal out => some (0, out)
  | snapshotDrainable out => some (1, out)
  | snapshotPinned out => some (2, out)
  | snapshotOpen out => some (3, out)
  | snapshotPeak out => some (4, out)
  | snapshotAllocs out => some (5, out)
  | snapshotDeallocs out => some (6, out)
  | returned _ (.snapshot out) => some (7, out)
  | _ => none

section Loads

variable {low high high' : Increment → ℕ} {peak peak' peak'' : UInt64} {stage : ℕ} {out : Snapshot}

/-- More increments do not invalidate what has been loaded. -/
theorem Snapshot.Loaded.mono (h : out.Loaded low high peak peak' stage)
    (hhigh : ∀ i, high i ≤ high' i) (hpeak : peak' ≤ peak'') :
    out.Loaded low high' peak peak'' stage := by
  refine ⟨?_, ?_, ?_, ?_, ?_, ?_, ?_⟩
  · exact fun hs => (h.total hs).mono (Nat.le_refl _) (hhigh _)
  · exact fun hs => (h.drainable hs).mono (Nat.le_refl _) (hhigh _)
  · exact fun hs => (h.pinned hs).mono (Nat.le_refl _) (hhigh _)
  · intro hs
    obtain ⟨n, m, hn, hn', hm, hm', heq⟩ := h.open_ hs
    exact ⟨n, m, hn, Nat.le_trans hn' (hhigh _), hm, Nat.le_trans hm' (hhigh _), heq⟩
  · exact fun hs => ⟨(h.peak hs).1, UInt64.le_trans (h.peak hs).2 hpeak⟩
  · exact fun hs => (h.allocs hs).mono (Nat.le_refl _) (hhigh _)
  · exact fun hs => (h.deallocs hs).mono (Nat.le_refl _) (hhigh _)

/-- A snapshot's next load is of a counter that shows the increments made so far. -/
theorem Snapshot.Loaded.load {logInterval : UInt64} {b : Bool} {c c' : Counters}
    {p p' : CounterPc} (hp : p.loads = some (stage, out))
    (h : out.Loaded low high peak c.peakOpenGranules stage) (hshows : c.Shows high)
    (hlow : ∀ i, low i ≤ high i) (hpeak : peak ≤ c.peakOpenGranules)
    (hstep : counterStep logInterval b c p = some (c', p')) :
    c' = c ∧ ∃ out', p'.loads = some (stage + 1, out') ∧ out'.timestamp = out.timestamp ∧
      out'.Loaded low high peak c.peakOpenGranules (stage + 1) ∧
      (stage = 6 → out'.dsr = dsrOf out'.drainableCloses out'.totalCloses) := by
  have hwithin : ∀ i, Within (low i) (high i) (UInt64.ofNat (high i)) :=
    fun i => ⟨high i, hlow i, Nat.le_refl _, rfl⟩
  have htotal := hshows.total ▸ hwithin .total
  have hdrainable := hshows.drainable ▸ hwithin (.class_ true)
  have hpinned := hshows.pinned ▸ hwithin (.class_ false)
  have hopen : WithinSub (low .opened) (high .opened) (low .closed) (high .closed) c.openGranules :=
    ⟨_, _, hlow _, Nat.le_refl _, hlow _, Nat.le_refl _, hshows.open_⟩
  have hallocs := hshows.allocs ▸ hwithin .alloc
  have hdeallocs := hshows.deallocs ▸ hwithin .dealloc
  have hlater : ∀ {m n : ℕ} {P : Prop}, n ≤ m → m < n → P := fun hle hlt => by omega
  -- the counters already loaded, the one that is loaded now, and those still to come
  cases p with
  | snapshotTotal out =>
    cases hp
    cases hstep
    refine ⟨rfl, _, rfl, rfl, ?_, nofun⟩
    exact ⟨fun _ => htotal, hlater (by decide), hlater (by decide), hlater (by decide),
      hlater (by decide), hlater (by decide), hlater (by decide)⟩
  | snapshotDrainable out =>
    cases hp
    cases hstep
    refine ⟨rfl, _, rfl, rfl, ?_, nofun⟩
    exact ⟨fun _ => h.total (by decide), fun _ => hdrainable, hlater (by decide),
      hlater (by decide), hlater (by decide), hlater (by decide), hlater (by decide)⟩
  | snapshotPinned out =>
    cases hp
    cases hstep
    refine ⟨rfl, _, rfl, rfl, ?_, nofun⟩
    exact ⟨fun _ => h.total (by decide), fun _ => h.drainable (by decide), fun _ => hpinned,
      hlater (by decide), hlater (by decide), hlater (by decide), hlater (by decide)⟩
  | snapshotOpen out =>
    cases hp
    cases hstep
    refine ⟨rfl, _, rfl, rfl, ?_, nofun⟩
    exact ⟨fun _ => h.total (by decide), fun _ => h.drainable (by decide),
      fun _ => h.pinned (by decide), fun _ => hopen, hlater (by decide), hlater (by decide),
      hlater (by decide)⟩
  | snapshotPeak out =>
    cases hp
    cases hstep
    refine ⟨rfl, _, rfl, rfl, ?_, nofun⟩
    exact ⟨fun _ => h.total (by decide), fun _ => h.drainable (by decide),
      fun _ => h.pinned (by decide), fun _ => h.open_ (by decide),
      fun _ => ⟨hpeak, UInt64.le_refl _⟩, hlater (by decide), hlater (by decide)⟩
  | snapshotAllocs out =>
    cases hp
    cases hstep
    refine ⟨rfl, _, rfl, rfl, ?_, nofun⟩
    exact ⟨fun _ => h.total (by decide), fun _ => h.drainable (by decide),
      fun _ => h.pinned (by decide), fun _ => h.open_ (by decide), fun _ => h.peak (by decide),
      fun _ => hallocs, hlater (by decide)⟩
  | snapshotDeallocs out =>
    cases hp
    cases hstep
    refine ⟨rfl, _, rfl, rfl, ?_, fun _ => rfl⟩
    exact ⟨fun _ => h.total (by decide), fun _ => h.drainable (by decide),
      fun _ => h.pinned (by decide), fun _ => h.open_ (by decide), fun _ => h.peak (by decide),
      fun _ => h.allocs (by decide), fun _ => hdeallocs⟩
  | returned call ret => cases hstep
  | _ => cases hp

end Loads

/-- The mark never decreases. -/
theorem peak_mono (logInterval : UInt64) (es es' : List (Interleaving.Event CounterCall Bool)) :
    ((counterProgram logInterval).run counterPool es).shared.peakOpenGranules
      ≤ ((counterProgram logInterval).run ((counterProgram logInterval).run counterPool es)
        es').shared.peakOpenGranules := by
  let s := (peakProgram logInterval).run peakPool es
  have hplain : s.plain = (counterProgram logInterval).run counterPool es :=
    Program.run_withHistory peakPool es
  have hplain' : ((peakProgram logInterval).run s es').plain
      = (counterProgram logInterval).run s.plain es' := Program.run_withHistory s es'
  have hmono : s.shared.1.peakOpenGranules.toNat
      ≤ ((peakProgram logInterval).run s es').shared.1.peakOpenGranules.toNat :=
    ((peakInv_init.run es).2.run es').1
  rw [← hplain, ← hplain', UInt64.le_iff_toNat_le]
  exact hmono

/-- Call number `k` is a snapshot, and its counters were loaded after the pool `s₀`. -/
structure Reading (logInterval : UInt64) (s₀ : Pool Counters CounterPc) (now : Timespec) (k : ℕ)
    (s : Pool Counters CounterPc) : Prop where
  reached : ∃ es, s = (counterProgram logInterval).run counterPool es
  low : ∀ i, tally CounterPc.hasMade s₀.calls i ≤ tally CounterPc.hasMade s.calls i
  peak : s₀.shared.peakOpenGranules ≤ s.shared.peakOpenGranules
  call : ∃ p stage out, s.calls[k]? = some p ∧ p.loads = some (stage, out) ∧ out.timestamp = now ∧
    out.Loaded (tally CounterPc.hasMade s₀.calls) (tally CounterPc.hasMade s.calls)
      s₀.shared.peakOpenGranules s.shared.peakOpenGranules stage ∧
    (stage = 7 → out.dsr = dsrOf out.drainableCloses out.totalCloses)

theorem Reading.next {logInterval : UInt64} {s₀ s : Pool Counters CounterPc} {now : Timespec} {k : ℕ}
    (h : Reading logInterval s₀ now k s) (e : Interleaving.Event CounterCall Bool) :
    Reading logInterval s₀ now k ((counterProgram logInterval).next s e) := by
  obtain ⟨⟨es, hes⟩, hlow, hpeak, p, stage, out, hk, hloads, hnow, hloaded, hdsr⟩ := h
  have hshows : s.shared.Shows (tally CounterPc.hasMade s.calls) := by
    rw [hes]
    exact counters_show logInterval es
  have hle := ((counterProgram_tallies logInterval).next hshows e).2
  have hpeak' : s.shared.peakOpenGranules
      ≤ ((counterProgram logInterval).next s e).shared.peakOpenGranules := by
    rw [hes]
    exact peak_mono logInterval es [e]
  have hreached : ∃ es, (counterProgram logInterval).next s e
      = (counterProgram logInterval).run counterPool es := by
    refine ⟨es ++ [e], ?_⟩
    rw [Program.run_append, ← hes]
    rfl
  refine ⟨hreached, fun i => Nat.le_trans (hlow i) (hle i), UInt64.le_trans hpeak hpeak', ?_⟩
  -- the call stays where it is, unless it makes its next load
  have hstays : ((counterProgram logInterval).next s e).calls[k]? = some p →
      ∃ p stage out, ((counterProgram logInterval).next s e).calls[k]? = some p ∧
        p.loads = some (stage, out) ∧ out.timestamp = now ∧
        out.Loaded (tally CounterPc.hasMade s₀.calls)
          (tally CounterPc.hasMade ((counterProgram logInterval).next s e).calls)
          s₀.shared.peakOpenGranules
          ((counterProgram logInterval).next s e).shared.peakOpenGranules stage ∧
        (stage = 7 → out.dsr = dsrOf out.drainableCloses out.totalCloses) :=
    fun hk' => ⟨p, stage, out, hk', hloads, hnow, hloaded.mono hle hpeak', hdsr⟩
  rcases (counterProgram logInterval).next_cases s e with ⟨a, -, hnext⟩ |
    ⟨j, b, q, c', q', -, hj, hstep, hnext⟩ | hnext
  · apply hstays
    rw [hnext]
    exact (List.getElem?_append_left (List.getElem?_eq_some_iff.mp hk).1).trans hk
  · by_cases hjk : j = k
    · subst hjk
      rw [hk, Option.some.injEq] at hj
      subst hj
      obtain ⟨rfl, out', hloads', hnow', hloaded', hdsr'⟩ :=
        Snapshot.Loaded.load hloads hloaded hshows hlow hpeak hstep
      have hlt : j < s.calls.length := (List.getElem?_eq_some_iff.mp hk).1
      refine ⟨q', stage + 1, out', ?_, hloads', hnow'.trans hnow, hloaded'.mono hle hpeak', ?_⟩
      · rw [hnext]
        exact List.getElem?_set_self hlt
      · intro hstage
        exact hdsr' (by omega)
    · apply hstays
      rw [hnext]
      exact (List.getElem?_set_ne hjk).trans hk
  · apply hstays
    rw [hnext]
    exact hk

/-- What a snapshot reports of the calls: each counter covers the calls that had returned in the pool
`s` and none that had not begun in the pool `s'`. -/
structure Snapshot.Covers (s s' : Pool Counters CounterPc) (out : Snapshot) : Prop where
  total : Within (completed .total s.calls) (begun .total s'.calls) out.totalCloses
  drainable : Within (completed (.class_ true) s.calls) (begun (.class_ true) s'.calls)
    out.drainableCloses
  pinned : Within (completed (.class_ false) s.calls) (begun (.class_ false) s'.calls)
    out.pinnedCloses
  open_ : WithinSub (completed .opened s.calls) (begun .opened s'.calls)
    (completed .closed s.calls) (begun .closed s'.calls) out.openGranules
  peak : s.shared.peakOpenGranules ≤ out.peakOpenGranules ∧
    out.peakOpenGranules ≤ s'.shared.peakOpenGranules
  allocs : Within (completed .alloc s.calls) (begun .alloc s'.calls) out.totalAllocs
  deallocs : Within (completed .dealloc s.calls) (begun .dealloc s'.calls) out.totalDeallocs
  dsr : out.dsr = dsrOf out.drainableCloses out.totalCloses

/-- **Snapshots are regular.**  Whatever runs beside a snapshot, each of its counters includes every
call that had returned when the snapshot began, and none that began after it has returned. -/
theorem snapshot_regular (logInterval : UInt64) (es es' : List (Interleaving.Event CounterCall Bool))
    (k : ℕ) (now : Timespec) (out : Snapshot) :
    let s := (counterProgram logInterval).run counterPool es
    let s' := (counterProgram logInterval).run s es'
    s.calls[k]? = some (CounterCall.snapshot now).start →
      s'.calls[k]? = some (.returned (.snapshot now) (.snapshot out)) →
      out.timestamp = now ∧ out.Covers s s' := by
  intro s s' hstart hend
  have hread : Reading logInterval s now k s' := by
    have hs : Reading logInterval s now k s := by
      refine ⟨⟨es, rfl⟩, fun i => Nat.le_refl _, UInt64.le_refl _, _, 0, .blank now, hstart, rfl, rfl,
        ?_, nofun⟩
      constructor <;> exact fun h0 => absurd h0 (Nat.not_lt_zero _)
    exact Program.run_inv (fun s e h _ => h.next e) hs
      (Program.along_of_forall fun _ _ => trivial)
  obtain ⟨p, stage, out', hk, hloads, hnow, hloaded, hdsr⟩ := hread.call
  rw [hend, Option.some.injEq] at hk
  subst hk
  cases hloads
  have hlow := fun i => completed_le_tally i s.calls
  have hhigh := fun i => tally_le_begun i s'.calls
  refine ⟨hnow, ?_, ?_, ?_, ?_, hloaded.peak (by decide), ?_, ?_, hdsr rfl⟩
  · exact (hloaded.total (by decide)).mono (hlow _) (hhigh _)
  · exact (hloaded.drainable (by decide)).mono (hlow _) (hhigh _)
  · exact (hloaded.pinned (by decide)).mono (hlow _) (hhigh _)
  · obtain ⟨n, m, hn, hn', hm, hm', heq⟩ := hloaded.open_ (by decide)
    exact ⟨n, m, Nat.le_trans (hlow _) hn, Nat.le_trans hn' (hhigh _), Nat.le_trans (hlow _) hm,
      Nat.le_trans hm' (hhigh _), heq⟩
  · exact (hloaded.allocs (by decide)).mono (hlow _) (hhigh _)
  · exact (hloaded.deallocs (by decide)).mono (hlow _) (hhigh _)

/-- A close of a drainable granule has returned when the snapshot begins, and one of a pinned granule
begins and ends between its first two loads. -/
theorem snapshot_regular_overtaken :
    let s := (counterProgram 0).run counterPool [.start (.granuleClose (some true)), .step 0 false,
      .step 0 false, .step 0 false, .start (.snapshot default)]
    let s' := (counterProgram 0).run s [.step 1 false, .start (.granuleClose (some false)),
      .step 2 false, .step 2 false, .step 2 false, .step 1 false, .step 1 false, .step 1 false,
      .step 1 false, .step 1 false, .step 1 false]
    ∃ out : Snapshot, out.pinnedCloses = 1 ∧ out.totalCloses = 1 ∧ out.Covers s s' :=
  ⟨_, rfl, rfl, (snapshot_regular 0 [.start (.granuleClose (some true)), .step 0 false,
    .step 0 false, .step 0 false, .start (.snapshot default)] [.step 1 false,
    .start (.granuleClose (some false)), .step 2 false, .step 2 false, .step 2 false, .step 1 false,
    .step 1 false, .step 1 false, .step 1 false, .step 1 false, .step 1 false] 1 default _ rfl
    rfl).2⟩

end Drainprof
