import Drainprof.Equiv.GranuleTable

/-!
# Pinning reports are exact

The specification `Accounts.step` keeps for every open granule its live registrations in order, and
how many registrations it had.  As long as no allocation id is registered while it is live in the
same granule, a profiler in diagnostic mode holds exactly these accounts, whatever the ids of the
records freed before and wherever the search hint stands (`Accounts.Represents`).  A `close` that
returns `0` then reports the account of its granule, and the report goes to the callback or into the
buffer (`pinning_reports_exact`).
-/

namespace Drainprof

open Table Ring Transition

/-! ### The specification -/

/-- What is known of a live allocation. -/
structure Registration where
  allocId : AllocId
  size : UInt64
  file : FilePtr
  line : UInt32
  deriving DecidableEq, Repr

/-- The account of an open granule: its live registrations, oldest first, and the number of all. -/
structure Account where
  registered : ℕ
  live : List Registration
  deriving DecidableEq

/-- The accounts of the open granules. -/
abbrev Accounts := FinMap GranuleId Account

namespace Accounts

/-- A registration for granule `g`. -/
def register (m : Accounts) (g : GranuleId) (r : Registration) : Accounts :=
  match m.lookup g with
  | some e => m.insert g ⟨e.registered + 1, e.live ++ [r]⟩
  | none => m

/-- One call, with `n` slots. -/
def step (n : ℕ) (m : Accounts) : Call → Accounts
  | .granuleOpen g =>
    if ∃ k ∈ m.keys, k.toNat % n = g.toNat % n then m else m.insert g ⟨0, []⟩
  | .granuleClose g =>
    match m.lookup g with
    | some _ => m.erase g
    | none => m
  | .allocRegister g a size => m.register g ⟨a, size, 0, 0⟩
  | .allocRegisterLocated g a size file line => m.register g ⟨a, size, file, line⟩
  | .allocDeregister g a =>
    match m.lookup g with
    | some e =>
      if ∃ r ∈ e.live, r.allocId = a then
        m.insert g ⟨e.registered, e.live.eraseP fun r => r.allocId = a⟩
      else m
    | none => m
  | .snapshot => m
  | .sweep => m
  | .reset => m
  | .drainReports _ => m
  | .diagnosticSummaryCompute => m

/-- Allocation `a` may be registered for granule `g`: it is not live there, and the granule has had
fewer than `2 ^ 31` registrations. -/
def MayRegister (m : Accounts) (g : GranuleId) (a : AllocId) : Prop :=
  ∀ e ∈ m.lookup g, (∀ r ∈ e.live, r.allocId ≠ a) ∧ e.registered < 2 ^ 31

instance (m : Accounts) (g : GranuleId) (a : AllocId) : Decidable (m.MayRegister g a) :=
  inferInstanceAs (Decidable (∀ e ∈ m.lookup g,
    (∀ r ∈ e.live, r.allocId ≠ a) ∧ e.registered < 2 ^ 31))

/-- The calls a run may consist of. -/
def Allows (m : Accounts) : Call → Prop
  | .allocRegister g a _ => m.MayRegister g a
  | .allocRegisterLocated g a _ _ _ => m.MayRegister g a
  | _ => True

/-- The specification, fed with public calls. -/
def spec (n : ℕ) (m : Accounts) (i : Env × Call) : Unit × Accounts :=
  ((), m.step n i.2)

/-- The calls of a run, made while the library's allocations succeed. -/
def Admitted (m : Accounts) (i : Env × Call) : Prop :=
  i.1.Plentiful ∧ m.Allows i.2

end Accounts

/-! ### The account of a granule -/

/-- What a record says of its allocation. -/
def AllocRecord.registration (r : AllocRecord) : Registration :=
  ⟨r.allocId, r.size, r.allocSite.file, r.allocSite.line⟩

/-- What a report says of an allocation. -/
def PinningAlloc.registration (p : PinningAlloc) : Registration :=
  ⟨p.allocId, p.size, p.allocSite.file, p.allocSite.line⟩

/-- The account a granule's diagnostic state holds. -/
def GranuleDiag.account (d : GranuleDiag) : Account :=
  ⟨d.allocCount.toNat, d.live.map AllocRecord.registration⟩

namespace GranuleDiag

variable {d d' : GranuleDiag}

theorem account_of_created {env : Env} {id : GranuleId} {t : Timespec}
    (h : granuleDiagCreate env id t = some d) : d.account = ⟨0, []⟩ := by
  obtain ⟨hwf, -, -, hrecords⟩ := granuleDiagCreate_spec h
  have hcount := hwf.length_records
  rw [hrecords, List.length_nil] at hcount
  unfold account live
  rw [← hcount, hrecords]
  rfl

theorem account_of_registered {r : AllocRecord}
    (hcount : d'.allocCount.toNat = d.allocCount.toNat + 1) (hlive : d'.live = d.live ++ [r]) :
    d'.account = ⟨d.account.registered + 1, d.account.live ++ [r.registration]⟩ := by
  unfold account
  rw [hcount, hlive, List.map_append, List.map_singleton]

/-- When no two live records share an id, the record that is freed is the one with the id. -/
theorem account_freeAt {i : ℕ} {r : AllocRecord} {a : AllocId} (hi : d.records[i]? = some r)
    (hr : r.Matches a) (hnodup : (d.account.live.map Registration.allocId).Nodup) (t : Timespec) :
    (d.freeAt i r t).account
      = ⟨d.account.registered, d.account.live.eraseP fun r => r.allocId = a⟩ := by
  obtain ⟨before, after, hbefore, hafter⟩ := live_freeAt hi hr.2 t
  unfold account at hnodup ⊢
  rw [hbefore, List.map_append, List.map_append, List.map_cons, List.map_cons,
    List.nodup_middle] at hnodup
  have hnotin : ∀ x ∈ before.map AllocRecord.registration, ¬decide (x.allocId = a) = true := by
    intro x hx heq
    refine (List.nodup_cons.mp hnodup).1 (List.mem_append_left _ ?_)
    refine List.mem_map.mpr ⟨x, hx, ?_⟩
    rw [of_decide_eq_true heq]
    exact hr.1.symm
  rw [hafter, hbefore, List.map_append, List.map_append, List.map_cons,
    List.eraseP_append_right _ hnotin, List.eraseP_cons,
    decide_eq_true (show r.registration.allocId = a from hr.1)]
  rfl

/-- An allocation is live in the account exactly when some record matches it. -/
theorem mem_account_iff {a : AllocId} :
    (∃ x ∈ d.account.live, x.allocId = a) ↔ ∃ r ∈ d.records, r.Matches a := by
  unfold account live
  simp only [List.mem_map, List.mem_filter, Bool.not_eq_true', AllocRecord.Matches]
  constructor
  · rintro ⟨x, ⟨r, ⟨hr, hfreed⟩, rfl⟩, hx⟩
    exact ⟨r, hr, hx, hfreed⟩
  · rintro ⟨r, hr, hx, hfreed⟩
    exact ⟨_, ⟨r, ⟨hr, hfreed⟩, rfl⟩, hx⟩

end GranuleDiag

/-! ### The simulation -/

/-- The profiler is in diagnostic mode and holds the accounts `m`, in none of which an id is live
twice. -/
structure Accounts.Represents (n : UInt32) (prof : Profiler) (m : Accounts) : Prop where
  tables : prof.Tables n GranuleDiag.account m
  nodup : ∀ g, ∀ e ∈ m.lookup g, (e.live.map Registration.allocId).Nodup

namespace Accounts

variable {n : UInt32} {prof prof' : Profiler} {m : Accounts} {env : Env} {o : Outcome}

theorem represents_register (h : Represents n prof m) (henv : env.Plentiful) {g : GranuleId}
    {a : AllocId} {size : UInt64} {file : FilePtr} {line : UInt32} {r : Int}
    (hmay : m.MayRegister g a)
    (hcall : allocRegisterLocated env prof g a size file line = .ok (r, prof')) :
    Represents n prof' (m.register g ⟨a, size, file, line⟩) := by
  rw [register]
  rcases h.tables.allocRegisterLocated_cases henv g a size file line with ⟨hlookup, hcall'⟩ |
    ⟨d, hlookup, hwf, hfull | ⟨d', storage, hcount, hlive, hcall', htables⟩⟩
  · rw [hcall] at hcall'
    cases hcall'
    rw [hlookup]
    exact ⟨h.tables.of_storage_eq rfl, h.nodup⟩
  · exact absurd hfull (Nat.ne_of_lt (hmay _ hlookup).2)
  · rw [hcall] at hcall'
    cases hcall'
    have haccount : d'.account = ⟨d.account.registered + 1,
        d.account.live ++ [⟨a, size, file, line⟩]⟩ :=
      GranuleDiag.account_of_registered hcount hlive
    rw [haccount] at htables
    rw [hlookup]
    refine ⟨htables.of_storage_eq rfl, forall_lookup_insert h.nodup ?_⟩
    rw [List.map_append, List.map_singleton]
    refine (h.nodup g _ hlookup).append (List.nodup_singleton _) ?_
    -- the id is not live yet
    intro x hx hx'
    obtain ⟨y, hy, rfl⟩ := List.mem_map.mp hx
    exact (hmay _ hlookup).1 y hy (List.mem_singleton.mp hx')

theorem represents_deregister (h : Represents n prof m) {g : GranuleId} {a : AllocId} {r : Int}
    (hcall : allocDeregister env prof g a = .ok (r, prof')) :
    Represents n prof' (m.step n.toNat (.allocDeregister g a)) := by
  rw [step]
  rcases h.tables.allocDeregister_cases env g a with ⟨hlookup, hcall'⟩ |
    ⟨d, hlookup, hwf, ⟨hnone, hcall'⟩ | ⟨i, r, storage, hi, hr, hcall', htables⟩⟩
  · rw [hcall] at hcall'
    cases hcall'
    rw [hlookup]
    exact ⟨h.tables.of_storage_eq rfl, h.nodup⟩
  · rw [hcall] at hcall'
    cases hcall'
    rw [hlookup]
    dsimp only
    rw [if_neg fun hmem => by
      obtain ⟨r, hr, hmatch⟩ := GranuleDiag.mem_account_iff.mp hmem
      exact hnone r hr hmatch]
    exact ⟨h.tables.of_storage_eq rfl, h.nodup⟩
  · rw [hcall] at hcall'
    cases hcall'
    rw [GranuleDiag.account_freeAt hi hr (h.nodup g _ hlookup)] at htables
    rw [hlookup]
    dsimp only
    rw [if_pos (GranuleDiag.mem_account_iff.mpr ⟨r, List.mem_of_getElem? hi, hr⟩)]
    refine ⟨htables.of_storage_eq rfl, forall_lookup_insert h.nodup ?_⟩
    exact (h.nodup g _ hlookup).sublist ((List.eraseP_sublist).map _)

theorem represents_open (h : Represents n prof m) (henv : env.Plentiful) {g : GranuleId} {r : Int}
    (hcall : granuleOpen env prof g = .ok (r, prof')) :
    Represents n prof' (m.step n.toNat (.granuleOpen g)) := by
  rw [step]
  rcases h.tables.granuleOpen_cases henv g with ⟨htaken, hopen⟩ |
    ⟨hfree, d, storage, hcreate, hopen, htables⟩
  · rw [hcall] at hopen
    cases hopen
    rw [if_pos htaken]
    exact h
  · rw [hcall] at hopen
    cases hopen
    rw [GranuleDiag.account_of_created hcreate] at htables
    rw [if_neg hfree]
    exact ⟨htables.of_storage_eq rfl, forall_lookup_insert h.nodup List.nodup_nil⟩

theorem represents_close (h : Represents n prof m) {g : GranuleId} {r : Int} {events : List Event}
    (hcall : granuleClose env prof g = .ok (r, prof', events)) :
    Represents n prof' (m.step n.toNat (.granuleClose g)) := by
  rw [step]
  rcases h.tables.granuleClose_cases env g with ⟨hlookup, hclose⟩ |
    ⟨d, storage, hlookup, -, -, -, htables, hclose⟩
  · rw [hcall] at hclose
    cases hclose
    rw [hlookup]
    exact h
  · -- the account is closed, whether the granule is drainable or pinned
    have hstorage : prof'.storage = storage := by
      rcases hclose with ⟨-, hclose⟩ | ⟨-, hclose⟩
      · rw [hcall] at hclose
        cases hclose
        rfl
      · rw [hcall] at hclose
        obtain ⟨⟨p₁, events₁⟩, hpin, hclose⟩ := bind_eq_ok.mp hclose.symm
        cases hclose
        exact (reportPinned_frame hpin).2.2
    rw [hlookup]
    exact ⟨htables.of_storage_eq hstorage, forall_lookup_erase h.nodup g⟩

/-- A call that returns keeps the relation, whatever it returns. -/
theorem represents_call (h : Represents n prof m) {i : Env × Call} (hadm : m.Admitted i)
    (hcall : prof.call i = .ok (o, prof')) : Represents n prof' (spec n.toNat m i).2 := by
  obtain ⟨env, c⟩ := i
  obtain ⟨henv, hallows⟩ := hadm
  rw [spec]
  cases returns_of_call hcall with
  | granuleOpen hopen => exact represents_open h henv hopen
  | granuleClose hclose => exact represents_close h hclose
  | allocRegister hreg => exact represents_register h henv hallows hreg
  | allocRegisterLocated hreg => exact represents_register h henv hallows hreg
  | allocDeregister hdereg => exact represents_deregister h hdereg
  | reset =>
    -- the counters are reset, and the accounts are not
    refine ⟨h.tables.of_storage_eq ?_, h.nodup⟩
    obtain ⟨arr, hs, -⟩ := h.tables
    rw [reset, hs]
  | drainReports hdrain =>
    exact ⟨h.tables.of_storage_eq (drainReports_counters hdrain).2.2, h.nodup⟩
  | _ => exact h

end Accounts

/-! ### Reports -/

/-- The reports created, in order. -/
def createdReports (events : List Event) : List PinningReport :=
  events.filterMap fun
    | .reportCreated r => some r
    | _ => none

theorem createdReports_append (events events' : List Event) :
    createdReports (events ++ events') = createdReports events ++ createdReports events' :=
  List.filterMap_append

/-- The reports freed. -/
def freedReports (events : List Event) : List PinningReport :=
  events.filterMap fun
    | .reportFreed r => some r
    | _ => none

/-- The reports the callback is called with. -/
def callbackReports (events : List Event) : List PinningReport :=
  events.filterMap fun
    | .pinCallback r => some r
    | _ => none

theorem freedReports_append (events events' : List Event) :
    freedReports (events ++ events') = freedReports events ++ freedReports events' :=
  List.filterMap_append

theorem callbackReports_append (events events' : List Event) :
    callbackReports (events ++ events') = callbackReports events ++ callbackReports events' :=
  List.filterMap_append

/-- Delivering a report creates none. -/
theorem createdReports_deliverReport {prof prof' : Profiler} {r : PinningReport}
    {events : List Event} (h : deliverReport prof r = .ok (prof', events)) :
    createdReports events = [] := by
  unfold deliverReport at h
  split at h
  · cases h
    rfl
  · split at h
    · obtain ⟨⟨freed, buf⟩, -, h⟩ := bind_eq_ok.mp h
      cases h
      cases freed <;> rfl
    · cases h
      rfl

/-- The callback gets the report that is delivered, or else it is the last one in the buffer. -/
theorem deliverReport_reaches {prof prof' : Profiler} {rs : List PinningReport} {r : PinningReport}
    {events : List Event} (hrs : prof.Buffers rs) (h : deliverReport prof r = .ok (prof', events)) :
    (prof.config.onPinning = true → callbackReports events = [r]) ∧
      (prof.config.onPinning = false → callbackReports events = [] ∧
        prof'.Buffers (enqueue prof.config.maxBufferedReports.toNat rs r).2) := by
  constructor
  · intro hcallback
    rw [deliverReport_of_callback hcallback] at h
    cases h
    rfl
  · intro hcallback
    rcases Nat.eq_zero_or_pos prof.config.maxBufferedReports.toNat with hzero | hpos
    · rw [deliverReport_of_no_capacity hrs hcallback hzero] at h
      cases h
    · obtain ⟨buf, heq, hbuffers⟩ := deliverReport_of_buffer hrs hcallback hpos r
      rw [heq] at h
      cases h
      refine ⟨?_, hbuffers⟩
      cases (enqueue prof.config.maxBufferedReports.toNat rs r).1 <;> rfl

/-- A `close` that reports creates exactly the report of what is live, and delivers it. -/
theorem createdReports_reportPinned {env : Env} {prof prof' : Profiler} {id : GranuleId}
    {d : GranuleDiag} {rs : List PinningReport} {events : List Event} (hd : d.WF)
    (hpinned : d.liveCount ≠ 0) (henv : env.Plentiful) (hrs : prof.Buffers rs)
    (h : reportPinned env prof id d = .ok (prof', events)) :
    createdReports events = [d.report env.now] ∧
      (prof.config.onPinning = true → callbackReports events = [d.report env.now]) ∧
      (prof.config.onPinning = false → callbackReports events = [] ∧ prof'.Buffers
        (enqueue prof.config.maxBufferedReports.toNat rs (d.report env.now)).2) := by
  rw [reportPinned_eq hd hpinned henv] at h
  obtain ⟨⟨p, delivered⟩, hdeliver, h⟩ := bind_eq_ok.mp h
  cases h
  obtain ⟨hcallback, hbuffer⟩ := deliverReport_reaches hrs hdeliver
  have hlog : ∀ verbose : Bool, createdReports
      (if verbose then [.logPinned id d.liveCount] else []) = [] ∧ callbackReports
      (if verbose then [.logPinned id d.liveCount] else []) = [] := by
    intro verbose
    cases verbose <;> exact ⟨rfl, rfl⟩
  have hcreated : createdReports (.reportCreated (d.report env.now) :: delivered)
      = [d.report env.now] := congrArg (_ :: ·) (createdReports_deliverReport hdeliver)
  have hdelivered : callbackReports (.reportCreated (d.report env.now) :: delivered)
      = callbackReports delivered := rfl
  rw [createdReports_append, callbackReports_append, hcreated, hdelivered, (hlog _).1, (hlog _).2,
    List.append_nil, List.append_nil]
  exact ⟨rfl, hcallback, hbuffer⟩

/-- The log lines at the end of a close carry no report. -/
theorem finishClose_events (prof : Profiler) (drainable : Bool) :
    createdReports (finishClose prof drainable).2 = [] ∧
      callbackReports (finishClose prof drainable).2 = [] ∧
      freedReports (finishClose prof drainable).2 = [] := by
  unfold finishClose
  dsimp only
  split_ifs <;> exact ⟨rfl, rfl, rfl⟩

/-- The report of a granule is its account. -/
theorem GranuleDiag.report_account {d : GranuleDiag} (hd : d.WF) (t : Timespec) :
    (d.report t).pinningAllocs.map PinningAlloc.registration = d.account.live ∧
      (d.report t).pinningCount.toNat = d.account.live.length ∧
      (d.report t).totalAllocs.toNat = d.account.registered ∧
      (d.report t).pinningCount.toNat + (d.report t).drainedAllocs.toNat
        = (d.report t).totalAllocs.toNat := by
  have hlive := hd.live_eq
  have hle := hd.live_le
  refine ⟨?_, ?_, rfl, ?_⟩
  · show (d.live.map AllocRecord.toPinning).map _ = d.live.map _
    rw [List.map_map]
    rfl
  · show d.liveCount.toNat = (d.live.map _).length
    rw [List.length_map, hlive]
  · show d.liveCount.toNat + (d.allocCount - d.liveCount).toNat = d.allocCount.toNat
    rw [toNat_sub hle]
    omega

/-- A diagnostic array without slots faults at every `close`. -/
theorem granuleClose_of_capacity_zero {env : Env} {prof : Profiler} {arr : SlotArrayDiag}
    (hs : prof.storage = .slotArrayDiag arr) (hcap : arr.capacity = 0) (g : GranuleId) :
    granuleClose env prof g = .error .divByZero := by
  unfold granuleClose
  rw [hs]
  dsimp only
  rw [slotArrayDiagClose, diagSlotIndex, dif_pos hcap]
  rfl

/-- **Pinning reports are exact.**  In every state a run reaches, a `close` that returns `0` creates
one report, which lists the live registrations of its granule in order, with their counts.  The callback
is called with that report, or else it is the last one in the buffer afterwards.  The copy loop that
fills a report stays inside the array that was allocated for it, and fills it. -/
theorem pinning_reports_exact {env : Env} {config : Config} {prof prof' : Profiler}
    (hcreate : createWithConfig env config = some prof) (hmode : config.mode = .diagnostic)
    {calls : List (Env × Call)} {os : List Outcome}
    (hcalls : Admits (Accounts.spec config.slotCapacity.toNat) Accounts.Admitted ∅ calls)
    (hrun : run Profiler.call prof calls = .ok (os, prof')) {env' : Env} (henv : env'.Plentiful) :
    (∀ g prof'' events, granuleClose env' prof' g = .ok (0, prof'', events) →
      ∃ e ∈ (trace (Accounts.spec config.slotCapacity.toNat) ∅ calls).2.lookup g,
        ∃ r, createdReports events = [r] ∧ r.granuleId = g ∧
          r.pinningAllocs.map PinningAlloc.registration = e.live ∧
          r.pinningCount.toNat = e.live.length ∧ r.totalAllocs.toNat = e.registered ∧
          r.pinningCount.toNat + r.drainedAllocs.toNat = r.totalAllocs.toNat ∧
          (config.onPinning = true → callbackReports events = [r]) ∧
          (config.onPinning = false → callbackReports events = [] ∧ ∃ rs, prof'.Buffers rs ∧
            prof''.Buffers (enqueue config.maxBufferedReports.toNat rs r).2)) ∧
    (∀ arr i d t, prof'.storage = .slotArrayDiag arr → (arr.slot i).diag = some d →
      d.liveCount ≠ 0 → ∃ r, granuleDiagGenerateReport env' d t = .ok (some r) ∧
        r.pinningAllocs.length = d.liveCount.toNat) := by
  obtain ⟨hcreated, -, -, arr₀, hs₀, hcap₀, -⟩ := createWithConfig_diag hcreate hmode
  obtain ⟨arr, hs, hcap⟩ := run_diag_capacity hs₀ hrun
  obtain ⟨rs, hrs⟩ := run_buffers hcreate hmode hrun
  have hconfig := (run_config hrun).trans hcreated
  by_cases hpos : 0 < config.slotCapacity.toNat
  · have hrep : Accounts.Represents config.slotCapacity prof' _ :=
      run_related Profiler.call (Accounts.spec config.slotCapacity.toNat)
        (Accounts.Represents config.slotCapacity) Accounts.Admitted
        (fun h hadm hcall => Accounts.represents_call h hadm hcall)
        ⟨tables_of_created hcreate hmode hpos _, fun g e he => by cases he⟩ hcalls hrun
    constructor
    · intro g prof'' events hclose
      rcases hrep.tables.granuleClose_cases env' g with ⟨-, hclose'⟩ |
        ⟨d, storage, hlookup, hwf, hgid, -, -, ⟨-, hclose'⟩ | ⟨hpinned, hclose'⟩⟩
      · rw [hclose] at hclose'
        cases hclose'
      · rw [hclose] at hclose'
        cases hclose'
      · rw [hclose] at hclose'
        obtain ⟨⟨p, events₁⟩, hpin, hclose'⟩ := bind_eq_ok.mp hclose'.symm
        cases hclose'
        have hrs₁ : { prof' with storage := storage : Profiler }.Buffers rs := hrs.of_eq rfl rfl
        obtain ⟨hreport, hcallback, hbuffer⟩ := createdReports_reportPinned hwf hpinned henv hrs₁ hpin
        obtain ⟨hcreated, hcalled, -⟩ := finishClose_events p false
        obtain ⟨hlive, hcount, htotal, hsum⟩ := GranuleDiag.report_account hwf env'.now
        refine ⟨_, hlookup, d.report env'.now, ?_, hgid, hlive, hcount, htotal, hsum, ?_, ?_⟩
        · rw [createdReports_append, hreport, hcreated, List.append_nil]
        · intro hset
          rw [callbackReports_append, hcallback (by rw [← hset, ← hconfig]), hcalled,
            List.append_nil]
        · intro hset
          obtain ⟨hnone, hbuffers⟩ := hbuffer (by rw [← hset, ← hconfig])
          rw [callbackReports_append, hnone, hcalled, ← hconfig]
          exact ⟨rfl, rs, hrs, hbuffers.of_eq rfl rfl⟩
    · intro arr' i d t hs' hd hpinned
      obtain ⟨arr₁, hs₁, -, harr, -⟩ := hrep.tables
      rw [hs'] at hs₁
      cases hs₁
      have hwf := harr.diag i d hd
      refine ⟨_, granuleDiagGenerateReport_eq hwf hpinned (henv _) (henv _) t, ?_⟩
      show (d.live.map AllocRecord.toPinning).length = _
      rw [List.length_map, hwf.live_eq]
  · -- without slots no granule is ever open
    have hzero : arr.capacity = 0 := by
      apply UInt32.toNat_inj.mp
      rw [hcap, hcap₀]
      exact Nat.eq_zero_of_not_pos hpos
    constructor
    · intro g prof'' events hclose
      rw [granuleClose_of_capacity_zero hs hzero] at hclose
      cases hclose
    · intro arr' i d t hs' hd
      rw [hs] at hs'
      cases hs'
      have hlt := lt_of_lt_of_eq i.isLt (congrArg UInt32.toNat hzero)
      exact absurd hlt (Nat.not_lt_zero _)

/-- An address is registered, freed and registered again; two allocations are live at the end. -/
def reusedAddressRun : List (Env × Call) :=
  [.granuleOpen 5, .allocRegisterLocated 5 100 64 9 1, .allocRegister 5 200 32,
    .allocDeregister 5 100, .allocRegisterLocated 5 100 128 9 2].map
      fun c => (Env.ample default, c)

theorem reusedAddressRun_admitted :
    Admits (Accounts.spec 8) Accounts.Admitted ∅ reusedAddressRun := by
  have hample := Env.plentiful_ample default
  refine ⟨⟨hample, trivial⟩, ⟨hample, ?_⟩, ⟨hample, ?_⟩, ⟨hample, trivial⟩, ⟨hample, ?_⟩, trivial⟩
  all_goals
    show Accounts.MayRegister _ _ _
    decide

/-- The report of the granule lists the allocation at the address's second registration. -/
theorem pinning_reports_reused :
    ∃ prof prof' prof'' os events,
      createWithConfig (Env.ample default) { configDefault with
        mode := .diagnostic, slotCapacity := 8, maxBufferedReports := 1 } = some prof ∧
      run Profiler.call prof reusedAddressRun = .ok (os, prof') ∧
      granuleClose (Env.ample default) prof' 5 = .ok (0, prof'', events) ∧
      ∃ r, createdReports events = [r] ∧
        r.pinningAllocs.map PinningAlloc.registration = [⟨200, 32, 0, 0⟩, ⟨100, 128, 9, 2⟩] := by
  obtain ⟨prof, hcreate⟩ : ∃ prof, createWithConfig (Env.ample default) { configDefault with
    mode := .diagnostic, slotCapacity := 8, maxBufferedReports := 1 } = some prof := ⟨_, rfl⟩
  have hclosed : okAnd (run Profiler.call prof reusedAddressRun) (fun r =>
      okAnd (granuleClose (Env.ample default) r.2 5) fun c => c.1 = 0) = true := by
    rw [← Option.some.inj hcreate]
    decide
  obtain ⟨⟨os, prof'⟩, hrun, hclosed⟩ := exists_of_okAnd hclosed
  obtain ⟨⟨c, prof'', events⟩, hclose, hc⟩ := exists_of_okAnd hclosed
  obtain rfl : c = 0 := of_decide_eq_true hc
  obtain ⟨e, he, r, hr, -, hlive, -⟩ := (pinning_reports_exact hcreate rfl
    reusedAddressRun_admitted hrun (Env.plentiful_ample default)).1 5 prof'' events hclose
  refine ⟨prof, prof', prof'', os, events, hcreate, hrun, hclose, r, hr, hlive.trans ?_⟩
  rw [← Option.some.inj he]
  decide

end Drainprof
