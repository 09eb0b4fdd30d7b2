import Mathlib.Algebra.Order.BigOperators.Group.List
import Mathlib.Data.Multiset.OrderedMonoid
import Drainprof.Heap
import Drainprof.Equiv.Summary

/-!
# The blocks of the reports

What the report buffer does with blocks.  `ReportBuffer.Holds buf rs` says which reports it holds, and
those are the ones it owns (`ReportBuffer.own`): a push takes a report over and frees the one it drops
(`reportBufferPush_realizes`), a drain gives reports away (`reportBufferDrain_realizes`), and the
destruction frees those that are left (`reportBufferDestroy_realizes`).
-/

namespace Drainprof.Heap

open Ownership Ring

/-! ### Loads and stores of a block whose contents are seen in part -/

theorem load_map {α β : Type} (f : α → β) (block : List α) (i : UInt32) :
    load (block.map f) i = (load block i).map f := by
  rw [load, load, List.getElem?_map]
  cases block[i.toNat]? <;> rfl

theorem store_map {α β : Type} (f : α → β) (block : List α) (i : UInt32) (x : α) :
    store (block.map f) i (f x) = (store block i x).map (List.map f) := by
  rw [store, store, List.length_map]
  split_ifs
  · rw [← List.map_set]
    rfl
  · rfl

theorem map_bind {α β γ : Type} (x : Exec α) (f : α → β) (g : β → Exec γ) :
    (x.map f >>= g) = x >>= fun a => g (f a) := by
  cases x <;> rfl

/-! ### Reports -/

/-- The blocks of a report. -/
def PinningReport.own (report : PinningReport) : Multiset Block :=
  {report.block} + {report.pinningAllocs}

/-- The blocks behind a pointer that may be `NULL`. -/
def ownReport : Option PinningReport → Multiset Block
  | none => 0
  | some report => report.own

theorem pinningReportFree_realizes (report : PinningReport) :
    Realizes report.own (pinningReportFree report) (.ok ()) (fun _ _ => True) fun _ => 0 := by
  refine Realizes.use ?_ (Realizes.free {report.block} (add_comm _ _) ?_)
  · exact Multiset.mem_add.mpr (Or.inl (Multiset.mem_singleton_self _))
  · exact Realizes.free_last 0 (add_zero _).symm trivial

theorem pinningReportFreeOpt_realizes (report : Option PinningReport) :
    Realizes (ownReport report) (pinningReportFreeOpt report) (.ok ()) (fun _ _ => True)
      fun _ => 0 := by
  cases report with
  | none => exact Realizes.pure trivial rfl
  | some report => exact pinningReportFree_realizes report

/-! ### The report buffer -/

namespace ReportBuffer

variable {buf : ReportBuffer} {rs : List PinningReport}

/-- The buffer without its blocks. -/
def content (buf : ReportBuffer) : Drainprof.ReportBuffer where
  reports := buf.reports.map (Option.map PinningReport.content)
  capacity := buf.capacity
  count := buf.count
  head := buf.head
  tail := buf.tail

/-- The pointers in use, oldest first. -/
def held (buf : ReportBuffer) : List (Option PinningReport) :=
  contents buf.reports buf.tail.toNat buf.count.toNat

/-- The blocks of the buffer and of the reports it holds. -/
def own (buf : ReportBuffer) : Multiset Block :=
  {buf.block} + ({buf.reportsBlock} + (buf.held.map ownReport).sum)

theorem block_mem_own (buf : ReportBuffer) : buf.block ∈ buf.own :=
  Multiset.mem_add.mpr (Or.inl (Multiset.mem_singleton_self _))

theorem reportsBlock_mem_own (buf : ReportBuffer) : buf.reportsBlock ∈ buf.own :=
  Multiset.mem_add.mpr (Or.inr (Multiset.mem_add.mpr (Or.inl (Multiset.mem_singleton_self _))))

/-- The reports that the buffer holds are its own. -/
theorem ownReport_le_own {report : Option PinningReport} (h : report ∈ buf.held) :
    ownReport report ≤ buf.own := by
  have hsum : ownReport report ≤ (buf.held.map ownReport).sum :=
    List.le_sum_of_mem (List.mem_map_of_mem h)
  exact hsum.trans ((Multiset.le_add_left _ _).trans (Multiset.le_add_left _ _))

/-- The ring of the buffer is in order. -/
structure InOrder (buf : ReportBuffer) : Prop where
  length_reports : buf.reports.length = buf.capacity.toNat
  count_le : buf.count.toNat ≤ buf.capacity.toNat
  tail_lt : 0 < buf.capacity.toNat → buf.tail.toNat < buf.capacity.toNat
  head_eq : buf.head.toNat = (buf.tail.toNat + buf.count.toNat) % buf.capacity.toNat

namespace InOrder

theorem length_held (h : buf.InOrder) : buf.held.length = buf.count.toNat := by
  rw [held, contents, List.length_take, List.length_rotate, h.length_reports]
  exact min_eq_left h.count_le

/-- The pointer at `tail` is the oldest one. -/
theorem held_pop (h : buf.InOrder) {n : ℕ} (hcount : buf.count.toNat = n + 1)
    {report : Option PinningReport} (hload : load buf.reports buf.tail = .ok report) :
    buf.held = report :: contents buf.reports (buf.tail.toNat + 1) n := by
  have hle := h.count_le
  have hlen := h.length_reports
  have htail : buf.tail.toNat < buf.reports.length := by
    rw [hlen]
    exact h.tail_lt (by omega)
  rw [load_of_lt htail] at hload
  cases hload
  rw [held, hcount]
  exact contents_pop htail (by omega)

/-- The pointer read at position `i` is the one of that rank. -/
theorem held_rank (h : buf.InOrder) {i : ℕ} (hi : i < buf.count.toNat) {idx : UInt32}
    (hidx : umod (buf.tail + UInt32.ofNat i) buf.capacity = .ok idx)
    {report : Option PinningReport} (hload : load buf.reports idx = .ok report) :
    buf.held[rank (2 ^ 32) buf.capacity.toNat buf.tail.toNat i]? = some report := by
  have hle := h.count_le
  have hcap := buf.capacity.toNat_lt
  have htail := h.tail_lt (by omega)
  have hrank := rank_le (2 ^ 32) buf.capacity.toNat buf.tail.toNat i
  rw [umod_of_ne_zero (ne_zero_of_lt_toNat htail)] at hidx
  cases hidx
  have hval := mod_mod_eq_rank htail (show i < buf.capacity.toNat by omega) (Nat.le_of_lt hcap)
  rw [load, toNat_add_ofNat_mod _ _ (by omega), hval] at hload
  have hlen := h.length_reports
  rw [held, getElem?_contents (by omega) (by omega), hlen, Nat.add_comm]
  cases hget : buf.reports[(buf.tail.toNat
      + rank (2 ^ 32) buf.capacity.toNat buf.tail.toNat i) % buf.capacity.toNat]? with
  | none =>
    rw [hget] at hload
    cases hload
  | some r =>
    rw [hget] at hload
    cases hload
    rfl

/-- With room left, a report goes behind the others. -/
theorem push (h : buf.InOrder) (hroom : buf.count.toNat < buf.capacity.toNat)
    {report : Option PinningReport} {reports : List (Option PinningReport)} {head : UInt32}
    (hstore : store buf.reports buf.head report = .ok reports)
    (hhead : umod (buf.head + 1) buf.capacity = .ok head) :
    { buf with reports := reports, head := head, count := buf.count + 1 : ReportBuffer }.InOrder ∧
      { buf with reports := reports, head := head, count := buf.count + 1 : ReportBuffer }.held
        = buf.held ++ [report] := by
  have hlen := h.length_reports
  have hlt : buf.head.toNat < buf.capacity.toNat := by
    rw [h.head_eq]
    exact Nat.mod_lt _ (by omega)
  obtain ⟨head', hmod, hval⟩ := umod_succ hlt
  rw [hmod] at hhead
  cases hhead
  rw [store_of_lt _ (by omega)] at hstore
  cases hstore
  have hcount : (buf.count + 1).toNat = buf.count.toNat + 1 := by
    have := buf.capacity.toNat_lt
    exact toNat_add_one (by omega)
  refine ⟨⟨?_, ?_, h.tail_lt, ?_⟩, ?_⟩
  · show (buf.reports.set _ _).length = _
    rw [List.length_set, hlen]
  · show (buf.count + 1).toNat ≤ _
    rw [hcount]
    exact hroom
  · show head.toNat = (_ + (buf.count + 1).toNat) % _
    rw [hval, h.head_eq, hcount, Nat.mod_add_mod, Nat.add_assoc]
  · show contents (buf.reports.set _ _) _ (buf.count + 1).toNat = _
    rw [hcount, h.head_eq, ← hlen]
    exact contents_push (by omega)

/-- The oldest report is given up, and what is left in its slot does not matter. -/
theorem pop (h : buf.InOrder) {n : ℕ} (hcount : buf.count.toNat = n + 1) {tail count : UInt32}
    (htail : umod (buf.tail + 1) buf.capacity = .ok tail) (hn : count.toNat = n)
    {reports : List (Option PinningReport)}
    (hreports : reports = buf.reports ∨ ∃ report, store buf.reports buf.tail report = .ok reports) :
    { buf with reports := reports, tail := tail, count := count : ReportBuffer }.InOrder ∧
      { buf with reports := reports, tail := tail, count := count : ReportBuffer }.held
        = contents buf.reports (buf.tail.toNat + 1) n := by
  have hle := h.count_le
  have hlen := h.length_reports
  have hlt := h.tail_lt (by omega)
  obtain ⟨tail', hmod, hval⟩ := umod_succ hlt
  rw [hmod] at htail
  cases htail
  have hlt' : buf.tail.toNat < buf.reports.length := by
    rw [hlen]
    exact hlt
  have hsame : reports.length = buf.reports.length ∧
      contents reports (buf.tail.toNat + 1) n = contents buf.reports (buf.tail.toNat + 1) n := by
    rcases hreports with rfl | ⟨report, hstore⟩
    · exact ⟨rfl, rfl⟩
    · rw [store_of_lt _ hlt'] at hstore
      cases hstore
      exact ⟨List.length_set, contents_set_behind hlt' (by omega)⟩
  refine ⟨⟨?_, ?_, fun _ => ?_, ?_⟩, ?_⟩
  · exact hsame.1.trans hlen
  · show count.toNat ≤ buf.capacity.toNat
    omega
  · show tail.toNat < _
    rw [hval]
    exact Nat.mod_lt _ (by omega)
  · show buf.head.toNat = (tail.toNat + count.toNat) % _
    rw [h.head_eq, hval, hn, hcount, Rotation.succ_mod_add_mod]
  · show contents reports tail.toNat count.toNat = _
    rw [hval, hn, ← hlen, ← hsame.1, contents_mod, hsame.2]

end InOrder

end ReportBuffer

/-- A full buffer frees its oldest report. -/
theorem reportBufferDropOldest_realizes {buf : ReportBuffer} (h : buf.InOrder)
    (hfull : buf.count = buf.capacity) :
    Realizes buf.own (reportBufferDropOldest buf) (Drainprof.reportBufferDropOldest buf.content)
      (fun r r' => r.1.map PinningReport.content = r'.1 ∧ r.2.content = r'.2 ∧ r.2.InOrder ∧
        r.2.count.toNat < r.2.capacity.toNat)
      fun r => r.2.own := by
  refine Realizes.use buf.reportsBlock_mem_own ?_
  rw [Drainprof.reportBufferDropOldest, ReportBuffer.content, load_map, map_bind]
  refine Realizes.eval ?_
  intro oldest hload
  have hpos : 0 < buf.count.toNat := by
    by_contra hzero
    have hlen := h.length_reports
    rw [load, List.getElem?_eq_none (by rw [hlen, ← hfull]; omega)] at hload
    cases hload
  obtain ⟨n, hn⟩ := Nat.exists_eq_succ_of_ne_zero (Nat.ne_of_gt hpos)
  refine Realizes.step ({buf.block} + ({buf.reportsBlock} +
    ((contents buf.reports (buf.tail.toNat + 1) n).map ownReport).sum)) ?_
    (pinningReportFreeOpt_realizes oldest) ?_
  · rw [ReportBuffer.own, h.held_pop hn hload, List.map_cons, List.sum_cons]
    abel
  · intro _ _
    refine Realizes.eval ?_
    intro tail htail
    have hcount : (buf.count - 1).toNat = n := by
      rw [toNat_sub (by show 1 ≤ _; omega), hn]
      rfl
    obtain ⟨horder, hheld⟩ := h.pop hn htail hcount (Or.inl rfl)
    refine Realizes.pure ⟨rfl, rfl, horder, ?_⟩ ?_
    · show (buf.count - 1).toNat < buf.capacity.toNat
      rw [hcount, ← hfull, hn]
      exact Nat.lt_succ_self n
    · rw [ReportBuffer.own, hheld, zero_add]

/-- A push makes room, and writes the report. -/
theorem reportBufferPush_eq_bind (buf : Drainprof.ReportBuffer) (report : Drainprof.PinningReport) :
    Drainprof.reportBufferPush buf report
      = (if buf.count = buf.capacity then Drainprof.reportBufferDropOldest buf
          else .ok (none, buf)) >>= fun r =>
        store r.2.reports r.2.head (some report) >>= fun reports =>
        umod (r.2.head + 1) r.2.capacity >>= fun head =>
        .ok (r.1, { r.2 with reports := reports, head := head, count := r.2.count + 1 }) := by
  rw [Drainprof.reportBufferPush]
  split_ifs <;> rfl

/-- A push takes the report over. -/
theorem reportBufferPush_realizes {buf : ReportBuffer} (h : buf.InOrder) (report : PinningReport) :
    Realizes (buf.own + report.own) (reportBufferPush buf report)
      (Drainprof.reportBufferPush buf.content report.content)
      (fun r r' => r.1.map PinningReport.content = r'.1 ∧ r.2.content = r'.2 ∧ r.2.InOrder)
      fun r => r.2.own := by
  have hroom : Realizes buf.own
      (if buf.count = buf.capacity then reportBufferDropOldest buf else pure (none, buf))
      (if buf.content.count = buf.content.capacity then
        Drainprof.reportBufferDropOldest buf.content else .ok (none, buf.content))
      (fun r r' => r.1.map PinningReport.content = r'.1 ∧ r.2.content = r'.2 ∧ r.2.InOrder ∧
        r.2.count.toNat < r.2.capacity.toNat)
      fun r => r.2.own := by
    by_cases hfull : buf.count = buf.capacity
    · rw [if_pos hfull, if_pos (show buf.content.count = buf.content.capacity from hfull)]
      exact reportBufferDropOldest_realizes h hfull
    · rw [if_neg hfull, if_neg (show ¬buf.content.count = buf.content.capacity from hfull)]
      refine Realizes.pure ⟨rfl, rfl, h, ?_⟩ rfl
      exact Nat.lt_of_le_of_ne h.count_le fun heq => hfull (UInt32.toNat_inj.mp heq)
  rw [reportBufferPush_eq_bind]
  refine Realizes.use (Multiset.mem_add.mpr (Or.inl buf.block_mem_own)) ?_
  refine Realizes.bind report.own rfl hroom ?_
  rintro ⟨freed, buf₁⟩ ⟨freed', buf₁'⟩ - ⟨rfl, rfl, horder, hlt⟩
  refine Realizes.use (Multiset.mem_add.mpr (Or.inl buf₁.reportsBlock_mem_own)) ?_
  show Realizes _ _ (store (buf₁.reports.map _) buf₁.head (Option.map PinningReport.content (some report))
    >>= _) _ _
  rw [store_map, map_bind]
  refine Realizes.eval ?_
  intro reports hstore
  refine Realizes.eval ?_
  intro head hhead
  obtain ⟨horder', hheld⟩ := horder.push hlt hstore hhead
  refine Realizes.pure ⟨rfl, rfl, horder'⟩ ?_
  simp only [ReportBuffer.own, hheld, List.map_append, List.sum_append, List.map_cons, List.map_nil,
    List.sum_singleton, ownReport]
  abel

/-- The drain loop gives the oldest reports away; the count is adjusted after it. -/
theorem reportBufferDrain.go_realizes :
    ∀ (fuel : ℕ) (buf : ReportBuffer) (count : UInt32),
      { buf with count := count : ReportBuffer }.InOrder → fuel ≤ count.toNat →
      Realizes { buf with count := count : ReportBuffer }.own (reportBufferDrain.go fuel buf)
        (Drainprof.reportBufferDrain.go fuel buf.content)
        (fun r r' => r.1.map (Option.map PinningReport.content) = r'.1 ∧ r.2.content = r'.2 ∧
          r.2.count = buf.count ∧
          { r.2 with count := count - UInt32.ofNat fuel : ReportBuffer }.InOrder)
        fun r => { r.2 with count := count - UInt32.ofNat fuel : ReportBuffer }.own +
          (r.1.map ownReport).sum := by
  intro fuel
  induction fuel with
  | zero =>
    intro buf count h _
    have hsame : count - UInt32.ofNat 0 = count := UInt32.sub_zero _
    refine Realizes.pure ⟨rfl, rfl, rfl, ?_⟩ ?_
    · rw [hsame]
      exact h
    · rw [hsame]
      exact (add_zero _).symm
  | succ fuel ih =>
    intro buf count h hfuel
    obtain ⟨n, hn⟩ : ∃ n, count.toNat = n + 1 := ⟨count.toNat - 1, by omega⟩
    have hcount : (count - 1).toNat = n := by
      rw [toNat_sub (by show 1 ≤ _; omega), hn]
      rfl
    have hlast : count - UInt32.ofNat (fuel + 1) = count - 1 - UInt32.ofNat fuel := by
      rw [UInt32.ofNat_add]
      grind
    refine Realizes.use { buf with count := count : ReportBuffer }.reportsBlock_mem_own ?_
    rw [Drainprof.reportBufferDrain.go]
    show Realizes _ _ (load (buf.reports.map _) buf.tail >>= _) _ _
    rw [load_map, map_bind]
    refine Realizes.eval ?_
    intro report hload
    show Realizes _ _ (store (buf.reports.map _) buf.tail (Option.map PinningReport.content none)
      >>= _) _ _
    rw [store_map, map_bind]
    refine Realizes.eval ?_
    intro reports hstore
    refine Realizes.eval ?_
    intro tail htail
    obtain ⟨horder, hheld⟩ := h.pop hn htail hcount (Or.inr ⟨none, hstore⟩)
    refine Realizes.bind (ownReport report) ?_ (ih _ _ horder (by omega)) ?_
    · have hown := h.held_pop hn hload
      simp only [ReportBuffer.own, hown, hheld, List.map_cons, List.sum_cons]
      abel
    · rintro ⟨rest, buf'⟩ ⟨rest', buf''⟩ - ⟨rfl, rfl, hcount', horder'⟩
      refine Realizes.pure ⟨rfl, rfl, hcount', ?_⟩ ?_
      · rw [hlast]
        exact horder'
      · rw [hlast, List.map_cons, List.sum_cons]
        abel

/-- A drain gives reports away. -/
theorem reportBufferDrain_realizes {buf : ReportBuffer} (h : buf.InOrder) (maxReports : UInt32) :
    Realizes buf.own (reportBufferDrain buf maxReports)
      (Drainprof.reportBufferDrain buf.content maxReports)
      (fun r r' => (r.1.1, r.1.2.map (Option.map PinningReport.content)) = r'.1 ∧
        r.2.content = r'.2 ∧ r.2.InOrder)
      fun r => r.2.own + (r.1.2.map ownReport).sum := by
  rw [reportBufferDrain, Drainprof.reportBufferDrain]
  by_cases hzero : maxReports = 0
  · rw [if_pos hzero, if_pos hzero]
    exact Realizes.pure ⟨rfl, rfl, h⟩ (add_zero _).symm
  · rw [if_neg hzero, if_neg hzero]
    have hle : (if buf.count < maxReports then buf.count else maxReports).toNat
        ≤ buf.count.toNat := by
      split_ifs with hlt
      · exact Nat.le_refl _
      · exact UInt32.le_iff_toNat_le.mp (UInt32.not_lt.mp hlt)
    rw [show buf.content.count = buf.count from rfl]
    generalize (if buf.count < maxReports then buf.count else maxReports) = toDrain at hle ⊢
    refine Realizes.use buf.block_mem_own ?_
    refine Realizes.bind 0 (add_zero _).symm
      (reportBufferDrain.go_realizes toDrain.toNat buf buf.count h hle) ?_
    rintro ⟨out, buf'⟩ ⟨out', buf''⟩ - ⟨rfl, rfl, hcount, horder⟩
    have hsame : buf.count - UInt32.ofNat toDrain.toNat = buf'.count - toDrain := by
      rw [UInt32.ofNat_toNat, hcount]
    rw [hsame] at horder
    refine Realizes.pure ⟨rfl, rfl, horder⟩ ?_
    rw [hsame, add_zero]

/-! ### Creation and destruction -/

theorem reportBufferCreate_realizes (env : Env) (capacity : UInt32) :
    Realizes 0 (reportBufferCreate env capacity) (.ok (Drainprof.reportBufferCreate env capacity))
      (fun r r' => r.map ReportBuffer.content = r' ∧ ∀ buf ∈ r, buf.InOrder)
      fun r => r.elim 0 ReportBuffer.own := by
  have hnone : Realizes 0 (pure none : Prog (Option ReportBuffer)) (.ok none)
      (fun r r' => r.map ReportBuffer.content = r' ∧ ∀ buf ∈ r, buf.InOrder)
      fun r => r.elim 0 ReportBuffer.own :=
    Realizes.pure ⟨rfl, fun _ h => nomatch h⟩ rfl
  rw [reportBufferCreate, Drainprof.reportBufferCreate]
  refine Realizes.malloc ?_ ?_
  · intro hmalloc
    rw [hmalloc]
    exact hnone
  · intro hmalloc block
    rw [hmalloc]
    refine Realizes.malloc ?_ ?_
    · intro hcalloc
      rw [hcalloc]
      exact Realizes.free 0 rfl hnone
    · intro hcalloc reportsBlock
      rw [hcalloc]
      cases hmutex : env.succeeds .bufferMutexInit with
      | false => exact Realizes.free _ rfl (Realizes.free 0 rfl hnone)
      | true =>
        refine Realizes.pure ⟨?_, ?_⟩ ?_
        · simp [ReportBuffer.content]
        · intro buf hbuf
          cases hbuf
          exact ⟨List.length_replicate, Nat.zero_le _, id, (Nat.zero_mod _).symm⟩
        · show _ = ({block} : Multiset Block) + ({reportsBlock} + 0)
          rw [add_zero, add_zero, add_comm]

/-- The loop that destroys the buffer frees what it holds, as long as no index wraps. -/
theorem reportBufferDestroy.go_realizes {buf : ReportBuffer} (h : buf.InOrder)
    (hsmall : buf.capacity.toNat ≤ 2 ^ 31) :
    ∀ fuel i : ℕ, i + fuel = buf.count.toNat →
      Realizes ({buf.reportsBlock} + ((buf.held.drop i).map ownReport).sum)
        (reportBufferDestroy.go buf fuel i) (Drainprof.reportBufferDestroy.go buf.content fuel i)
        (fun _ _ => True) fun _ => {buf.reportsBlock} := by
  intro fuel
  induction fuel with
  | zero =>
    intro i hi
    rw [List.drop_eq_nil_of_le (by rw [h.length_held]; omega)]
    exact Realizes.pure trivial (add_zero _)
  | succ fuel ih =>
    intro i hi
    have hlt : i < buf.held.length := by
      rw [h.length_held]
      omega
    refine Realizes.eval ?_
    intro idx hidx
    refine Realizes.use (Multiset.mem_add.mpr (Or.inl (Multiset.mem_singleton_self _))) ?_
    show Realizes _ _ (load (buf.reports.map _) idx >>= _) _ _
    rw [load_map, map_bind]
    refine Realizes.eval ?_
    intro report hload
    -- the index does not wrap, so this is the pointer of rank `i`
    have hrank : buf.held[i] = report := by
      have hread := h.held_rank (show i < buf.count.toNat by omega) hidx hload
      have hle := h.count_le
      have htail := h.tail_lt (by omega)
      rw [rank_eq_self (by omega), List.getElem?_eq_getElem hlt] at hread
      exact Option.some.inj hread
    rw [List.drop_eq_getElem_cons hlt, hrank, List.map_cons, List.sum_cons]
    refine Realizes.step ({buf.reportsBlock} + ((buf.held.drop (i + 1)).map ownReport).sum) (by abel)
      (pinningReportFreeOpt_realizes report) ?_
    intro _ _
    rw [zero_add]
    rw [← bind_pure (reportBufferDestroy.go buf fuel (i + 1))]
    refine Realizes.bind 0 (add_zero _).symm (ih (i + 1) (by omega)) ?_
    intro _ _ _ _
    exact Realizes.pure trivial (add_zero _)

/-- The destruction of a buffer frees what it holds, and the buffer. -/
theorem reportBufferDestroy_realizes {buf : ReportBuffer} (h : buf.InOrder)
    (hsmall : buf.capacity.toNat ≤ 2 ^ 31) :
    Realizes buf.own (reportBufferDestroy buf) (Drainprof.reportBufferDestroy buf.content)
      (fun _ _ => True) fun _ => 0 := by
  have hgo := reportBufferDestroy.go_realizes h hsmall buf.count.toNat 0 (Nat.zero_add _)
  rw [List.drop_zero] at hgo
  rw [Drainprof.reportBufferDestroy, ← bind_pure (Drainprof.reportBufferDestroy.go _ _ _)]
  refine Realizes.use buf.block_mem_own ?_
  refine Realizes.bind {buf.block} (add_comm _ _) hgo ?_
  intro _ freed _ _
  exact Realizes.free {buf.block} rfl (Realizes.free_last 0 (add_zero _).symm trivial)

end Drainprof.Heap
