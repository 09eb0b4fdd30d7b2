import Mathlib.Algebra.GroupWithZero.Nat
import Mathlib.Data.List.Basic
import Mathlib.Data.Rat.Defs

/-!
# Machine types, faults and library allocations

The vocabulary of the model.  C's `uint32_t`, `uint64_t` and `size_t` are Lean's `UInt32` and
`UInt64`, with their wrap-around.  A step whose behaviour C leaves undefined (a division by zero,
an access outside a block, a use of a freed block) ends in a `Fault`, so that a function which
reaches one returns nothing at all.

What the code asks of its environment is explicit: an `Env` holds, for one public call, the reading
of the monotonic clock and the answer to each library allocation the call may make.
-/

namespace Drainprof

/-- `drainprof_granule_id`. -/
abbrev GranuleId := UInt64

/-- `drainprof_alloc_id`. -/
abbrev AllocId := UInt64

/-- A `const char *`, as its address; `NULL` is `0`.  The library compares such pointers and never
reads through them. -/
abbrev FilePtr := UInt64

/-- `UINT32_MAX`. -/
def uint32Max : UInt32 := 0xFFFFFFFF

/-- `UINT64_MAX`. -/
def uint64Max : UInt64 := 0xFFFFFFFFFFFFFFFF

/-- `struct timespec`, a reading of `CLOCK_MONOTONIC`. -/
structure Timespec where
  tvSec : Int
  tvNsec : Int
  deriving DecidableEq, Repr, Inhabited

/-! ### 32-bit arithmetic -/

theorem ne_zero_of_lt_toNat {c : UInt32} {n : ℕ} (h : n < c.toNat) : c ≠ 0 := by
  intro h0
  rw [h0] at h
  exact absurd h (Nat.not_lt_zero _)

theorem toNat_add_one {a : UInt32} (h : a.toNat + 1 < 2 ^ 32) : (a + 1).toNat = a.toNat + 1 := by
  rw [UInt32.toNat_add]
  exact Nat.mod_eq_of_lt h

theorem toNat_sub {a b : UInt32} (h : b.toNat ≤ a.toNat) : (a - b).toNat = a.toNat - b.toNat :=
  UInt32.toNat_sub_of_le _ _ (UInt32.le_iff_toNat_le.mpr h)

/-- An index sum that is reduced, which may have wrapped before. -/
theorem toNat_add_ofNat_mod (a c : UInt32) {i : ℕ} (h : i < 2 ^ 32) :
    ((a + UInt32.ofNat i) % c).toNat = (a.toNat + i) % 2 ^ 32 % c.toNat := by
  rw [UInt32.toNat_mod, UInt32.toNat_add, UInt32.toNat_ofNat_of_lt' h]

/-- The next index of a ring. -/
theorem toNat_succ_mod {i c : UInt32} (h : i.toNat < c.toNat) :
    ((i + 1) % c).toNat = (i.toNat + 1) % c.toNat := by
  have hlt := c.toNat_lt
  rw [UInt32.toNat_mod, toNat_add_one (by omega)]

/-! ### Faults -/

/-- What makes the rest of an execution undefined. -/
inductive Fault where
  | divByZero
  | outOfBounds
  | useAfterFree
  deriving DecidableEq, Repr

/-- A computation that may fault. -/
abbrev Exec (α : Type) := Except Fault α

/-- `a % b` on `uint32_t`. -/
def umod (a b : UInt32) : Exec UInt32 :=
  if b = 0 then .error .divByZero else .ok (a % b)

/-- The element at index `i` of a block. -/
def load {α : Type} (block : List α) (i : UInt32) : Exec α :=
  match block[i.toNat]? with
  | some x => .ok x
  | none => .error .outOfBounds

/-- The block with `x` written at index `i`. -/
def store {α : Type} (block : List α) (i : UInt32) (x : α) : Exec (List α) :=
  if i.toNat < block.length then .ok (block.set i.toNat x) else .error .outOfBounds

/-- The block behind a pointer; `none` is a pointer whose block has been freed. -/
def deref {α : Type} : Option α → Exec α
  | some block => .ok block
  | none => .error .useAfterFree

/-- A computation in two steps succeeds when both steps do. -/
theorem bind_eq_ok {α β : Type} {x : Exec α} {f : α → Exec β} {b : β} :
    (x >>= f) = .ok b ↔ ∃ a, x = .ok a ∧ f a = .ok b := by
  cases x with
  | error e => exact ⟨nofun, by rintro ⟨a, ha, -⟩; cases ha⟩
  | ok a => exact ⟨fun h => ⟨a, rfl, h⟩, by rintro ⟨a', ha, h⟩; cases ha; exact h⟩

@[simp] theorem ok_bind {α β : Type} (a : α) (f : α → Exec β) : (Except.ok a >>= f) = f a := rfl

/-- The computation succeeds with a value that satisfies `p`. -/
def okAnd {α : Type} (x : Exec α) (p : α → Bool) : Bool :=
  match x with
  | .ok a => p a
  | .error _ => false

theorem exists_of_okAnd {α : Type} {x : Exec α} {p : α → Bool} (h : okAnd x p = true) :
    ∃ a, x = .ok a ∧ p a = true := by
  cases x with
  | error e => cases h
  | ok a => exact ⟨a, rfl, h⟩

theorem umod_of_ne_zero {a b : UInt32} (hb : b ≠ 0) : umod a b = .ok (a % b) := by
  rw [umod, if_neg hb]

theorem load_of_lt {α : Type} {block : List α} {i : UInt32} (h : i.toNat < block.length) :
    load block i = .ok block[i.toNat] := by
  rw [load, List.getElem?_eq_getElem h]

theorem store_of_lt {α : Type} {block : List α} {i : UInt32} (x : α)
    (h : i.toNat < block.length) : store block i x = .ok (block.set i.toNat x) := by
  rw [store, if_pos h]

/-- Doubling a capacity that is a power of two: it grows until it wraps to zero. -/
theorem mul_two_cases {c : UInt32} {j : ℕ} (h : c.toNat = 2 ^ j) :
    (j < 31 ∧ (c * 2).toNat = 2 ^ (j + 1) ∧ c.toNat < (c * 2).toNat ∧ c * 2 ≠ 0) ∨
      (j = 31 ∧ c * 2 = 0) := by
  have hj : j < 32 := by
    rw [← Nat.pow_lt_pow_iff_right (show 1 < 2 by decide), ← h]
    exact c.toNat_lt
  have hdouble : (c * 2).toNat = 2 ^ (j + 1) % 2 ^ 32 := by
    rw [UInt32.toNat_mul, h, pow_succ]
    rfl
  rcases Nat.lt_or_ge j 31 with hlt | hge
  · have hpow : 2 ^ (j + 1) < 2 ^ 32 := Nat.pow_lt_pow_right (by decide) (by omega)
    rw [Nat.mod_eq_of_lt hpow] at hdouble
    have hgrown : c.toNat < (c * 2).toNat := by
      rw [h, hdouble]
      exact Nat.pow_lt_pow_right (by decide) (Nat.lt_succ_self j)
    exact Or.inl ⟨hlt, hdouble, hgrown, ne_zero_of_lt_toNat hgrown⟩
  · obtain rfl : j = 31 := by omega
    refine Or.inr ⟨rfl, ?_⟩
    apply UInt32.toNat_inj.mp
    rw [hdouble]
    rfl

/-! ### Library allocations -/

/-- The allocations the library makes, each at most once in a public call (the two summary arrays
are named by the capacity they grow to). -/
inductive Request where
  | profMalloc
  | slotArrayMalloc
  | slotsCalloc
  | diagSlotArrayMalloc
  | diagSlotsCalloc
  | bufferMalloc
  | bufferReportsCalloc
  | bufferMutexInit
  | diagMalloc
  | diagAllocsCalloc
  | diagMutexInit
  | diagAllocsRealloc
  | reportMalloc
  | pinningAllocsMalloc
  | summaryCalloc
  | trackingCalloc
  | sitesRealloc (capacity : UInt32)
  | trackingRealloc (capacity : UInt32)
  deriving DecidableEq, Repr

/-- What one public call reads from outside: the clock, and whether each allocation it asks for
succeeds. -/
structure Env where
  now : Timespec
  succeeds : Request → Bool

/-- Every library allocation of the call succeeds. -/
def Env.Plentiful (env : Env) : Prop :=
  ∀ r, env.succeeds r = true

/-- The environment at time `now` with memory to spare. -/
def Env.ample (now : Timespec) : Env :=
  ⟨now, fun _ => true⟩

theorem Env.plentiful_ample (now : Timespec) : (Env.ample now).Plentiful := fun _ => rfl

/-- The outcome of `realloc` on a live block. -/
inductive Realloc (α : Type) where
  | moved (block : List α)
  | failed
  | freed

/-- `realloc` of a block to `n` elements.  Memory past the old length reads as `fresh`.  A request
of zero bytes frees the block and returns `NULL`, as glibc documents. -/
def realloc {α : Type} (block : List α) (n : UInt32) (fresh : α) (succeeds : Bool) : Realloc α :=
  if n = 0 then .freed
  else if succeeds then
    .moved (block.take n.toNat ++ List.replicate (n.toNat - block.length) fresh)
  else .failed

end Drainprof
