import Mathlib.Data.List.Nodup
import Mathlib.Data.List.Range
import Mathlib.Data.Nat.ModEq
import Mathlib.Tactic.Ring

/-!
# Rotated index ranges

A scan of `n` places that starts at place `s` and wraps around visits `(s + k) % n` for `k < n`:
every place once.  When the sum is computed in arithmetic that wraps at `w > n`, before it is reduced,
this holds exactly as long as no sum of the scan wraps (`perm_range_iff`).
-/

namespace Rotation

/-- A rotated scan reaches every place. -/
theorem exists_add_mod_eq {n s j : ℕ} (hs : s < n) (hj : j < n) : ∃ k < n, (s + k) % n = j := by
  by_cases h : s ≤ j
  · refine ⟨j - s, by omega, ?_⟩
    rw [show s + (j - s) = j by omega, Nat.mod_eq_of_lt hj]
  · refine ⟨j + n - s, by omega, ?_⟩
    rw [show s + (j + n - s) = j + n by omega, Nat.add_mod_right, Nat.mod_eq_of_lt hj]

/-- A rotated scan visits no place twice. -/
theorem add_mod_inj {n s k k' : ℕ} (hk : k < n) (hk' : k' < n)
    (h : (s + k) % n = (s + k') % n) : k = k' := by
  have hmod : k ≡ k' [MOD n] := Nat.ModEq.add_left_cancel' s h
  rwa [Nat.ModEq, Nat.mod_eq_of_lt hk, Nat.mod_eq_of_lt hk'] at hmod

/-- One step of a rotated scan. -/
theorem succ_mod_add_mod (n s k : ℕ) : ((s + 1) % n + k) % n = (s + (k + 1)) % n := by
  rw [Nat.mod_add_mod]
  congr 1
  omega

/-! ### Scans whose index sum wraps -/

section Wrap

variable {n w s k : ℕ}

/-- Up to the wrap at `w` the scan is the rotation. -/
theorem add_mod_mod_of_lt (h : s + k < w) : (s + k) % w % n = (s + k) % n := by
  rw [Nat.mod_eq_of_lt h]

/-- Behind it the scan starts again at place `0`. -/
theorem add_mod_mod_of_ge (hs : s < n) (hk : k < n) (hn : n ≤ w) (h : w ≤ s + k) :
    (s + k) % w % n = s + k - w := by
  rw [Nat.mod_eq_sub_mod h, Nat.mod_eq_of_lt (show s + k - w < w by omega)]
  exact Nat.mod_eq_of_lt (by omega)

/-- A scan that wraps starts again at place `0` before it has come to the place before its first
one, which it never visits. -/
theorem add_mod_mod_ne (hs : s < n) (hk : k < n) (hn : n < w) (hwrap : w < s + n) :
    (s + k) % w % n ≠ s - 1 := by
  rcases Nat.lt_or_ge (s + k) w with hlt | hge
  · rw [add_mod_mod_of_lt hlt]
    rcases Nat.lt_or_ge (s + k) n with hbefore | hafter
    · rw [Nat.mod_eq_of_lt hbefore]
      omega
    · rw [Nat.mod_eq_sub_mod hafter, Nat.mod_eq_of_lt (by omega)]
      omega
  · rw [add_mod_mod_of_ge hs hk (Nat.le_of_lt hn) hge]
    omega

/-- A scan of `c` places visits none of them twice exactly when no index sum wraps: the first that
does stands for place `0`, which the scan has come to before. -/
theorem nodup_map_iff {c : ℕ} (hs : s < n) (hn : n < w) (hc : c ≤ n) :
    ((List.range c).map fun k => (s + k) % w % n).Nodup ↔ s + c ≤ w := by
  constructor
  · intro hnodup
    by_contra hwrap
    have hinj := List.inj_on_of_nodup_map hnodup
    have hearly : (s + (n - s)) % w % n = 0 := by
      rw [show s + (n - s) = n by omega, Nat.mod_eq_of_lt hn, Nat.mod_self]
    have hlate : (s + (w - s)) % w % n = 0 := by
      rw [show s + (w - s) = w by omega, Nat.mod_self, Nat.zero_mod]
    have hsame := @hinj (n - s) (List.mem_range.mpr (by omega)) (w - s)
      (List.mem_range.mpr (by omega)) (hearly.trans hlate.symm)
    omega
  · intro hfit
    refine List.nodup_range.map_on ?_
    intro k hk k' hk' heq
    have hk := List.mem_range.mp hk
    have hk' := List.mem_range.mp hk'
    rw [add_mod_mod_of_lt (by omega), add_mod_mod_of_lt (by omega)] at heq
    exact add_mod_inj (by omega) (by omega) heq

/-- **A scan whose index sum wraps at `w`** visits every place once if no sum wraps, and only
then. -/
theorem perm_range_iff (hs : s < n) (hn : n < w) :
    ((List.range n).map fun k => (s + k) % w % n).Perm (List.range n) ↔ s + n ≤ w := by
  have hnodup := nodup_map_iff hs hn le_rfl
  constructor
  · intro hperm
    exact hnodup.mp (hperm.nodup_iff.mpr List.nodup_range)
  · intro hfit
    refine (List.perm_ext_iff_of_nodup (hnodup.mpr hfit) List.nodup_range).mpr ?_
    intro j
    rw [List.mem_map, List.mem_range]
    constructor
    · rintro ⟨k, -, rfl⟩
      exact Nat.mod_lt _ (by omega)
    · intro hj
      obtain ⟨k, hk, hkj⟩ := exists_add_mod_eq hs hj
      refine ⟨k, List.mem_range.mpr hk, ?_⟩
      rw [add_mod_mod_of_lt (by omega), hkj]

end Wrap

end Rotation
