import Mathlib.Data.List.Rotate
import Drainprof.Library.Rotation

/-!
# Ring buffers

A ring is a list of slots of which the `count` ones from index `tail` on, wrapping around, are in
use: `contents slots tail count` lists them, oldest first.  Writing the slot after the last one adds
an element at the end (`contents_push`), and moving `tail` one slot on takes one from the front
(`contents_pop`), whatever is left in the slot behind it (`contents_set_behind`).  `enqueue` is the
queue a full ring makes room in by dropping its oldest element, and `readInPlace` what is read when
the indices are computed in arithmetic that wraps.
-/

namespace Ring

variable {α : Type} {slots : List α} {tail count k : ℕ} {x : α}

/-- The elements in use, oldest first. -/
def contents (slots : List α) (tail count : ℕ) : List α :=
  (slots.rotate tail).take count

/-- Only the position of `tail` in the ring matters. -/
theorem contents_mod (slots : List α) (tail count : ℕ) :
    contents slots (tail % slots.length) count = contents slots tail count := by
  rw [contents, List.rotate_mod, contents]

theorem getElem?_contents (hk : k < count) (hcount : count ≤ slots.length) :
    (contents slots tail count)[k]? = slots[(k + tail) % slots.length]? := by
  rw [contents, List.getElem?_take_of_lt hk, List.getElem?_rotate (by omega)]

/-- A write that is `k` slots after `tail` is the write of element `k`. -/
theorem rotate_set (hk : k < slots.length) :
    (slots.set ((tail + k) % slots.length) x).rotate tail = (slots.rotate tail).set k x := by
  apply List.ext_getElem
  · rw [List.length_rotate, List.length_set, List.length_set, List.length_rotate]
  · intro j hj hj'
    rw [List.length_rotate, List.length_set] at hj
    rw [List.getElem_rotate, List.getElem_set, List.getElem_set, List.getElem_rotate]
    simp only [List.length_set, Nat.add_comm j tail]
    by_cases hkj : k = j
    · rw [if_pos (by rw [hkj]), if_pos hkj]
    · rw [if_neg fun h => hkj (Rotation.add_mod_inj hk hj h), if_neg hkj]

/-- Writing the slot after the last element adds an element. -/
theorem contents_push (h : count < slots.length) :
    contents (slots.set ((tail + count) % slots.length) x) tail (count + 1)
      = contents slots tail count ++ [x] := by
  have hlen : count < (slots.rotate tail).length := by rwa [List.length_rotate]
  rw [contents, rotate_set h, List.take_add_one, List.getElem?_set_self hlen,
    List.take_set_of_le le_rfl]
  rfl

/-- The oldest element is the one at `tail`, and the others start one slot further on. -/
theorem contents_pop (htail : tail < slots.length) (hcount : count < slots.length) :
    contents slots tail (count + 1) = slots[tail] :: contents slots (tail + 1) count := by
  have hlen : 0 < (slots.rotate tail).length := by rw [List.length_rotate]; omega
  have hsucc : slots.rotate (tail + 1) = (slots.rotate tail).rotate 1 :=
    (List.rotate_rotate ..).symm
  rcases hrot : slots.rotate tail with _ | ⟨y, ys⟩
  · rw [hrot] at hlen
    exact absurd hlen (Nat.lt_irrefl 0)
  · have hy : slots[tail] = y := by
      have h0 := List.getElem_rotate slots tail 0 hlen
      simp only [hrot, List.getElem_cons_zero, Nat.zero_add, Nat.mod_eq_of_lt htail] at h0
      exact h0.symm
    have hys : count ≤ ys.length := by
      have hl := congrArg List.length hrot
      rw [List.length_rotate, List.length_cons] at hl
      omega
    rw [contents, contents, hsucc, hrot, List.take_succ_cons, List.rotate_cons_succ,
      List.rotate_zero, List.take_append_of_le_length hys, hy]

/-- The slot behind `tail` is not in use unless the ring is full. -/
theorem contents_set_behind (htail : tail < slots.length) (hcount : count < slots.length) :
    contents (slots.set tail x) (tail + 1) count = contents slots (tail + 1) count := by
  have hback : (tail + 1 + (slots.length - 1)) % slots.length = tail := by
    rw [show tail + 1 + (slots.length - 1) = tail + slots.length by omega, Nat.add_mod_right,
      Nat.mod_eq_of_lt htail]
  have hset : (slots.set tail x).rotate (tail + 1)
      = (slots.rotate (tail + 1)).set (slots.length - 1) x := by
    rw [← rotate_set (show slots.length - 1 < slots.length by omega), hback]
  rw [contents, hset, List.take_set_of_le (by omega), contents]

/-! ### Reading in place with machine arithmetic

An element is also read in place, at index `(tail + i) % w % n` when the sum wraps at `w`.  The
element found is the one of the rank given here, which is `i` as long as the sum does not wrap. -/

/-- The rank of the element found at index `(tail + i) % w % n`. -/
def rank (w n tail i : ℕ) : ℕ :=
  if tail + i < w then i else i - (w - n)

theorem rank_le (w n tail i : ℕ) : rank w n tail i ≤ i := by
  unfold rank
  split_ifs
  · exact le_rfl
  · exact Nat.sub_le ..

theorem rank_eq_self {w n i : ℕ} (h : tail + i < w) : rank w n tail i = i :=
  if_pos h

theorem mod_mod_eq_rank {w n i : ℕ} (htail : tail < n) (hi : i < n) (hn : n ≤ w) :
    (tail + i) % w % n = (tail + rank w n tail i) % n := by
  unfold rank
  split_ifs with hwrap
  · exact Rotation.add_mod_mod_of_lt hwrap
  · have hhigh : tail + (i - (w - n)) = tail + i - w + n := by omega
    rw [Rotation.add_mod_mod_of_ge htail hi hn (by omega), hhigh, Nat.add_mod_right,
      Nat.mod_eq_of_lt (by omega)]

/-- The elements `xs` of a ring, as they are read in place. -/
def readInPlace (w n tail : ℕ) (xs : List α) : List α :=
  List.ofFn fun i : Fin xs.length =>
    xs.get ⟨rank w n tail i, lt_of_le_of_lt (rank_le ..) i.isLt⟩

theorem length_readInPlace (w n tail : ℕ) (xs : List α) :
    (readInPlace w n tail xs).length = xs.length :=
  List.length_ofFn

theorem getElem_readInPlace {w n i : ℕ} {xs : List α} (hi : i < (readInPlace w n tail xs).length)
    (hrank : rank w n tail i < xs.length) :
    (readInPlace w n tail xs)[i] = xs[rank w n tail i] :=
  List.getElem_ofFn ..

/-- Only elements of the ring are read. -/
theorem mem_of_mem_readInPlace {w n : ℕ} {xs : List α} (h : x ∈ readInPlace w n tail xs) :
    x ∈ xs := by
  obtain ⟨i, rfl⟩ := List.mem_ofFn.mp h
  exact List.get_mem ..

/-- As long as no index wraps, the elements are read in order. -/
theorem readInPlace_eq_self {w n : ℕ} {xs : List α} (h : tail + xs.length ≤ w) :
    readInPlace w n tail xs = xs := by
  apply List.ext_getElem
  · exact length_readInPlace ..
  · intro i hi hi'
    have hrank : rank w n tail i = i := rank_eq_self (by omega)
    rw [getElem_readInPlace hi (by rw [hrank]; exact hi')]
    simp only [hrank]

/-- If the index of the last element is the first to wrap, another one is read in its place. -/
theorem readInPlace_concat {w n : ℕ} {xs : List α} (h : tail + xs.length = w)
    (hrank : xs.length - (w - n) < xs.length) (x : α) :
    readInPlace w n tail (xs ++ [x]) = xs ++ [xs[xs.length - (w - n)]] := by
  have hlength : (xs ++ [x]).length = xs.length + 1 := List.length_append
  apply List.ext_getElem
  · rw [length_readInPlace, hlength, List.length_append, List.length_singleton]
  · intro i hi hi'
    have hi₁ : i < (xs ++ [x]).length := by rwa [length_readInPlace] at hi
    rw [getElem_readInPlace hi (lt_of_le_of_lt (rank_le ..) hi₁)]
    rcases Nat.lt_or_ge i xs.length with hlt | hge
    · simp only [rank_eq_self (show tail + i < w by omega)]
      rw [List.getElem_append_left hlt, List.getElem_append_left hlt]
    · have hlast : i = xs.length := by omega
      have hwrap : rank w n tail i = xs.length - (w - n) := by
        rw [rank, if_neg (by omega), hlast]
      simp only [hwrap]
      rw [List.getElem_append_left hrank, List.getElem_append_right hge]
      simp only [hlast, Nat.sub_self, List.getElem_singleton]

/-! ### Bounded queues -/

/-- The queue of at most `n` elements with `x` added at the end.  A full queue gives up its oldest
element, which is returned. -/
def enqueue (n : ℕ) (xs : List α) (x : α) : Option α × List α :=
  if xs.length < n then (none, xs ++ [x]) else (xs.head?, xs.tail ++ [x])

theorem enqueue_of_room {n : ℕ} {xs : List α} (h : xs.length < n) (x : α) :
    enqueue n xs x = (none, xs ++ [x]) :=
  if_pos h

theorem enqueue_of_full {n : ℕ} {old : α} {xs : List α} (h : (old :: xs).length = n) (x : α) :
    enqueue n (old :: xs) x = (some old, xs ++ [x]) :=
  if_neg (Nat.not_lt.mpr (Nat.le_of_eq h.symm))

/-- How many elements are kept, and how many given up. -/
theorem length_enqueue {n : ℕ} {xs : List α} (hpos : 0 < n) (hle : xs.length ≤ n) (x : α) :
    (enqueue n xs x).2.length = min (xs.length + 1) n ∧
      (enqueue n xs x).1.toList.length = xs.length + 1 - n := by
  unfold enqueue
  split_ifs with hroom
  · simp
    omega
  · cases xs with
    | nil =>
      rw [List.length_nil] at hroom
      omega
    | cons y ys =>
      rw [List.length_cons] at hroom hle
      simp
      omega

/-- Nothing is lost and the order is kept. -/
theorem enqueue_append (n : ℕ) (xs : List α) (x : α) :
    (enqueue n xs x).1.toList ++ (enqueue n xs x).2 = xs ++ [x] := by
  unfold enqueue
  split_ifs
  · rfl
  · cases xs <;> rfl

end Ring
