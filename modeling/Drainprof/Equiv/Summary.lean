import Drainprof.Summary
import Drainprof.Equiv.ReportBuffer

/-!
# What the summary reads

The summary does not drain the buffer but reads it in place, at indices computed in 32-bit
arithmetic, and so does the destruction.  They thus go through the buffered reports as `readInPlace`
lists them (`diagnosticSummaryOfBuffer_eq`, `reportBufferDestroy_eq`): oldest first, as long as the
buffer has at most `2 ^ 31` slots.
-/

namespace Drainprof

open Ring

/-- The loop over the buffered reports, as a loop over the reports it reads. -/
def summarize (env : Env) : List PinningReport → SummaryState → Exec (Option SummaryState)
  | [], st => .ok (some st)
  | r :: rs, st => do
    match ← summaryAddReport env (some r) st with
    | none => .ok none
    | some st => summarize env rs st

/-- The summary of the reports that are read. -/
def summaryOfReports (env : Env) (rs : List PinningReport) : Exec (Option DiagnosticSummary) :=
  if !env.succeeds .summaryCalloc then .ok none
  else if !env.succeeds .trackingCalloc then .ok none
  else do
    match ← summarize env rs SummaryState.initial with
    | none => .ok none
    | some st => .ok (some {
        sites := st.sites.take st.siteCount.toNat
        siteCount := st.siteCount
        totalPinningAllocs := st.totalPinningAllocs
        reportsAnalyzed := st.reportsAnalyzed })

namespace ReportBuffer.Holds

variable {buf : ReportBuffer} {rs : List PinningReport}

/-- The report read at position `i` is the buffered one of that rank. -/
theorem load_rank (h : buf.Holds rs) {i : ℕ} (hi : i < rs.length)
    (hlt : rank (2 ^ 32) buf.capacity.toNat buf.tail.toNat i < rs.length) :
    ∃ idx, umod (buf.tail + UInt32.ofNat i) buf.capacity = .ok idx ∧
      load buf.reports idx
        = .ok (some rs[rank (2 ^ 32) buf.capacity.toNat buf.tail.toNat i]) := by
  have hle := h.count_le
  have hcap := buf.capacity.toNat_lt
  have htail := h.tail_lt (by omega)
  refine ⟨_, umod_of_ne_zero (ne_zero_of_lt_toNat htail), h.load_at hlt ?_⟩
  rw [toNat_add_ofNat_mod _ _ (by omega)]
  exact mod_mod_eq_rank htail (by omega) (Nat.le_of_lt hcap)

/-- The loop of the summary goes through the reports as they are read in place. -/
theorem summary_go_eq (h : buf.Holds rs) (env : Env) :
    ∀ (fuel i : ℕ) (st : SummaryState), i + fuel = rs.length →
      diagnosticSummaryCompute.go env buf fuel i st = summarize env
        ((readInPlace (2 ^ 32) buf.capacity.toNat buf.tail.toNat rs).drop i) st := by
  intro fuel
  have hlength := length_readInPlace (2 ^ 32) buf.capacity.toNat buf.tail.toNat rs
  induction fuel with
  | zero =>
    intro i st hi
    rw [List.drop_eq_nil_of_le (by omega)]
    rfl
  | succ fuel ih =>
    intro i st hi
    have hrank : rank (2 ^ 32) buf.capacity.toNat buf.tail.toNat i < rs.length :=
      lt_of_le_of_lt (rank_le ..) (by omega)
    obtain ⟨idx, hmod, hload⟩ := h.load_rank (show i < rs.length by omega) hrank
    rw [List.drop_eq_getElem_cons (by omega), diagnosticSummaryCompute.go, hmod, ok_bind, hload,
      ok_bind, summarize, getElem_readInPlace (by omega) hrank]
    congr 1
    funext analyzed
    cases analyzed with
    | none => rfl
    | some st => exact ih (i + 1) st (by omega)

/-- The loop of the destruction frees the reports as they are read in place. -/
theorem destroy_go_eq (h : buf.Holds rs) :
    ∀ fuel i : ℕ, i + fuel = rs.length → reportBufferDestroy.go buf fuel i
      = .ok ((readInPlace (2 ^ 32) buf.capacity.toNat buf.tail.toNat rs).drop i) := by
  intro fuel
  have hlength := length_readInPlace (2 ^ 32) buf.capacity.toNat buf.tail.toNat rs
  induction fuel with
  | zero =>
    intro i hi
    rw [List.drop_eq_nil_of_le (by omega)]
    rfl
  | succ fuel ih =>
    intro i hi
    have hrank : rank (2 ^ 32) buf.capacity.toNat buf.tail.toNat i < rs.length :=
      lt_of_le_of_lt (rank_le ..) (by omega)
    obtain ⟨idx, hmod, hload⟩ := h.load_rank (show i < rs.length by omega) hrank
    rw [List.drop_eq_getElem_cons (by omega), reportBufferDestroy.go, hmod, ok_bind, hload,
      ok_bind, ih (i + 1) (by omega), ok_bind, getElem_readInPlace (by omega) hrank]
    rfl

end ReportBuffer.Holds

/-- The summary of a buffer is that of its reports, as they are read in place. -/
theorem diagnosticSummaryOfBuffer_eq {buf : ReportBuffer} {rs : List PinningReport}
    (h : buf.Holds rs) (env : Env) :
    diagnosticSummaryOfBuffer env buf = summaryOfReports env
      (readInPlace (2 ^ 32) buf.capacity.toNat buf.tail.toNat rs) := by
  have hgo := h.summary_go_eq env buf.count.toNat 0 SummaryState.initial
    (by rw [h.count_eq, Nat.zero_add])
  rw [List.drop_zero] at hgo
  unfold diagnosticSummaryOfBuffer summaryOfReports
  split_ifs
  · rfl
  · rfl
  · exact congrArg (fun x => x >>= _) hgo

/-- The destruction of a buffer frees its reports, as they are read in place. -/
theorem reportBufferDestroy_eq {buf : ReportBuffer} {rs : List PinningReport} (h : buf.Holds rs) :
    reportBufferDestroy buf
      = .ok (readInPlace (2 ^ 32) buf.capacity.toNat buf.tail.toNat rs) := by
  rw [reportBufferDestroy, h.count_eq, h.destroy_go_eq rs.length 0 (Nat.zero_add _), List.drop_zero]

end Drainprof
