import Mathlib.Algebra.BigOperators.Group.List.Lemmas
import Mathlib.Algebra.GroupWithZero.Nat
import Mathlib.Data.List.Dedup
import Mathlib.Data.List.Perm.Subperm

/-!
# Grouping a list by key

A table is built from a list of items by booking them one after the other: an item whose key the
table has updates that entry, and any other item opens an entry at the end.

The result is the list grouped by key (`grouped_foldl`): one entry for each key, in the order of the
first occurrences, and each entry is what the updates with the items of its key alone make of it
(`cell`).  So what holds of an entry is a matter of the items of one key, in their order.
-/

namespace Grouping

variable {α β κ : Type} [DecidableEq κ]

/-! ### Keys in the order of their first occurrence -/

theorem nodup_eraseDups (ks : List κ) : ks.eraseDups.Nodup := by
  induction hn : ks.length using Nat.strong_induction_on generalizing ks with
  | _ n ih =>
    cases ks with
    | nil => exact List.nodup_nil
    | cons k ks =>
      have hlt : (ks.filter fun b => !b == k).length < n := by
        have hle := List.length_filter_le (fun b => !b == k) ks
        rw [List.length_cons] at hn
        omega
      rw [List.eraseDups_cons]
      refine List.nodup_cons.mpr ⟨?_, ih _ hlt _ rfl⟩
      simp

theorem eraseDups_concat_of_mem {ks : List κ} {k : κ} (h : k ∈ ks) :
    (ks ++ [k]).eraseDups = ks.eraseDups := by
  have hremove : [k].removeAll ks = [] := by
    simp [List.removeAll, h]
  rw [List.eraseDups_append, hremove, List.eraseDups_nil, List.append_nil]

theorem eraseDups_concat_of_not_mem {ks : List κ} {k : κ} (h : k ∉ ks) :
    (ks ++ [k]).eraseDups = ks.eraseDups ++ [k] := by
  have hremove : [k].removeAll ks = [k] := by
    simp [List.removeAll, h]
  rw [List.eraseDups_append, hremove]
  rfl

theorem eraseDups_replicate (n : ℕ) (k : κ) : (List.replicate (n + 1) k).eraseDups = [k] := by
  induction n with
  | zero => rfl
  | succ n ih =>
    rw [List.replicate_succ', eraseDups_concat_of_mem, ih]
    exact List.mem_replicate.mpr ⟨Nat.succ_ne_zero n, rfl⟩

/-- The numbers of occurrences of the different keys add up to the number of items. -/
theorem sum_count_eraseDups (ks : List κ) : (ks.eraseDups.map fun k => ks.count k).sum = ks.length := by
  have hperm : ks.eraseDups.Perm ks.dedup := by
    refine (List.perm_ext_iff_of_nodup (nodup_eraseDups ks) (List.nodup_dedup ks)).mpr ?_
    intro k
    rw [List.mem_eraseDups, List.mem_dedup]
  rw [(hperm.map _).sum_eq, List.sum_map_count_dedup_eq_length]

theorem length_eraseDups_le (ks : List κ) : ks.eraseDups.length ≤ ks.length := by
  have hsubset : ks.eraseDups ⊆ ks := fun _ hk => List.mem_eraseDups.mp hk
  exact (List.Nodup.subperm (nodup_eraseDups ks) hsubset).length_le

theorem eraseDups_of_nodup {ks : List κ} (h : ks.Nodup) : ks.eraseDups = ks := by
  induction ks with
  | nil => rfl
  | cons k ks ih =>
    obtain ⟨hk, hks⟩ := List.nodup_cons.mp h
    have hfilter : (ks.filter fun b => !b == k) = ks := by
      refine List.filter_eq_self.mpr ?_
      intro b hb
      have hne : b ≠ k := fun hbk => hk (hbk ▸ hb)
      simpa using hne
    rw [List.eraseDups_cons, hfilter, ih hks]

/-- The different keys of a list and of a permutation of it are as many. -/
theorem length_eraseDups_of_perm {ks ks' : List κ} (h : ks.Perm ks') :
    ks.eraseDups.length = ks'.eraseDups.length := by
  have hperm : ks.eraseDups.Perm ks'.eraseDups := by
    refine (List.perm_ext_iff_of_nodup (nodup_eraseDups ks) (nodup_eraseDups ks')).mpr ?_
    intro k
    rw [List.mem_eraseDups, List.mem_eraseDups]
    exact h.mem_iff
  exact hperm.length_eq

/-! ### The table -/

/-- How items are booked: an item opens an entry of its key, and updates keep the key of an entry. -/
structure Scheme (α β κ : Type) where
  itemKey : α → κ
  entryKey : β → κ
  start : α → β
  update : β → α → β
  entryKey_start : ∀ a, entryKey (start a) = itemKey a
  entryKey_update : ∀ b a, entryKey (update b a) = entryKey b

namespace Scheme

variable (S : Scheme α β κ)

/-- The index of the entry for a key. -/
def find (table : List β) (k : κ) : Option ℕ :=
  table.findIdx? fun b => S.entryKey b = k

/-- The booking of one item. -/
def book (table : List β) (a : α) : List β :=
  match S.find table (S.itemKey a) with
  | some i => table.modify i fun b => S.update b a
  | none => table ++ [S.update (S.start a) a]

/-- What the items with key `k` make of an entry: nothing if there is none. -/
def cell (as : List α) (k : κ) : Option β :=
  (as.filter fun a => S.itemKey a = k).foldl (fun b a => some (S.update (b.getD (S.start a)) a)) none

/-- The table is the list grouped by key. -/
structure Grouped (as : List α) (table : List β) : Prop where
  keys : table.map S.entryKey = (as.map S.itemKey).eraseDups
  cells : ∀ b ∈ table, S.cell as (S.entryKey b) = some b

variable {S} {as : List α} {table : List β} {a : α} {b : β} {k : κ} {i : ℕ}

theorem find_eq_some (h : S.find table k = some i) :
    ∃ hi : i < table.length, S.entryKey table[i] = k := by
  obtain ⟨hi, hkey, -⟩ := List.findIdx?_eq_some_iff_getElem.mp h
  exact ⟨hi, of_decide_eq_true hkey⟩

theorem find_eq_none_iff : S.find table k = none ↔ k ∉ table.map S.entryKey := by
  rw [find, List.findIdx?_eq_none_iff]
  simp

theorem book_of_find (h : S.find table (S.itemKey a) = some i) :
    S.book table a = table.modify i fun b => S.update b a := by
  rw [book, h]

theorem book_of_absent (h : S.find table (S.itemKey a) = none) :
    S.book table a = table ++ [S.update (S.start a) a] := by
  rw [book, h]

theorem cell_concat (as : List α) (a : α) (k : κ) : S.cell (as ++ [a]) k =
    if S.itemKey a = k then some (S.update ((S.cell as k).getD (S.start a)) a) else S.cell as k := by
  rw [cell, List.filter_append, List.foldl_append, ← cell]
  split_ifs with hkey
  · rw [List.filter_cons_of_pos (by rw [hkey]; exact decide_eq_true rfl)]
    rfl
  · rw [List.filter_cons_of_neg (by simpa using hkey)]
    rfl

theorem cell_eq_none (h : k ∉ as.map S.itemKey) : S.cell as k = none := by
  have hfilter : (as.filter fun a => S.itemKey a = k) = [] := by
    refine List.filter_eq_nil_iff.mpr ?_
    intro a ha hkey
    exact h (List.mem_map.mpr ⟨a, ha, of_decide_eq_true hkey⟩)
  rw [cell, hfilter]
  rfl

omit [DecidableEq κ] in
/-- Updates do not change the keys of the table. -/
theorem map_entryKey_modify (table : List β) (i : ℕ) (a : α) :
    (table.modify i fun b => S.update b a).map S.entryKey = table.map S.entryKey := by
  apply List.ext_getElem?
  intro j
  rw [List.getElem?_map, List.getElem?_map, List.getElem?_modify]
  cases table[j]? with
  | none => rfl
  | some b =>
    show some (S.entryKey (if i = j then S.update b a else b)) = some (S.entryKey b)
    split_ifs
    · rw [S.entryKey_update]
    · rfl

theorem length_le_length_book (table : List β) (a : α) :
    table.length ≤ (S.book table a).length := by
  rw [book]
  cases S.find table (S.itemKey a) with
  | some i => simp
  | none => simp

theorem length_le_length_foldl_book (as : List α) :
    ∀ table : List β, table.length ≤ (as.foldl S.book table).length := by
  induction as with
  | nil => intro table; exact le_rfl
  | cons a as ih =>
    intro table
    exact (length_le_length_book table a).trans (ih _)

/-! ### The table is the grouped list -/

theorem Grouped.nil : S.Grouped [] [] :=
  ⟨rfl, nofun⟩

theorem Grouped.nodup (h : S.Grouped as table) : (table.map S.entryKey).Nodup := by
  rw [h.keys]
  exact nodup_eraseDups _

theorem Grouped.find_eq_none_iff (h : S.Grouped as table) :
    S.find table k = none ↔ k ∉ as.map S.itemKey := by
  rw [Scheme.find_eq_none_iff, h.keys, List.mem_eraseDups]

/-- Booking one more item keeps the table grouped. -/
theorem Grouped.book (h : S.Grouped as table) (a : α) :
    S.Grouped (as ++ [a]) (S.book table a) := by
  cases hfind : S.find table (S.itemKey a) with
  | some i =>
    obtain ⟨hi, hkey⟩ := find_eq_some hfind
    have hmem : S.itemKey a ∈ as.map S.itemKey := by
      rw [← List.mem_eraseDups, ← h.keys, ← hkey]
      exact List.mem_map_of_mem (List.getElem_mem hi)
    rw [book_of_find hfind]
    constructor
    · rw [map_entryKey_modify, h.keys, List.map_append, List.map_singleton,
        eraseDups_concat_of_mem hmem]
    · intro b hb
      obtain ⟨j, hj, rfl⟩ := List.getElem_of_mem hb
      rw [List.length_modify] at hj
      rw [List.getElem_modify, cell_concat]
      by_cases hij : i = j
      · -- the entry that is updated
        subst hij
        simp only [if_true, S.entryKey_update, hkey]
        have hcell := h.cells _ (List.getElem_mem hi)
        rw [hkey] at hcell
        rw [hcell, Option.getD_some]
      · -- another entry has another key
        have hne : S.itemKey a ≠ S.entryKey table[j] := by
          intro hsame
          have hi' : i < (table.map S.entryKey).length := by rwa [List.length_map]
          have hj' : j < (table.map S.entryKey).length := by rwa [List.length_map]
          have hkeys : (table.map S.entryKey)[i] = (table.map S.entryKey)[j] := by
            rw [List.getElem_map, List.getElem_map, hkey, hsame]
          exact hij (h.nodup.getElem_inj_iff.mp hkeys)
        rw [if_neg hij, if_neg hne]
        exact h.cells _ (List.getElem_mem hj)
  | none =>
    have hnew := h.find_eq_none_iff.mp hfind
    rw [book_of_absent hfind]
    constructor
    · rw [List.map_append, List.map_append, h.keys, List.map_singleton, List.map_singleton,
        S.entryKey_update, S.entryKey_start, eraseDups_concat_of_not_mem hnew]
    · intro b hb
      rw [cell_concat]
      rcases List.mem_append.mp hb with hold | hlast
      · have hne : S.itemKey a ≠ S.entryKey b := by
          intro hsame
          refine hnew ?_
          rw [hsame, ← List.mem_eraseDups, ← h.keys]
          exact List.mem_map_of_mem hold
        rw [if_neg hne]
        exact h.cells b hold
      · rw [List.mem_singleton.mp hlast, S.entryKey_update, S.entryKey_start, if_pos rfl,
          cell_eq_none hnew, Option.getD_none]

/-- **Booking the items of a list one after the other groups it by key.** -/
theorem Grouped.foldl (h : S.Grouped as table) (as' : List α) :
    S.Grouped (as ++ as') (as'.foldl S.book table) := by
  induction as' generalizing as table with
  | nil =>
    rw [List.append_nil]
    exact h
  | cons a as' ih =>
    have hnext := ih (h.book a)
    rwa [List.append_assoc, List.singleton_append] at hnext

theorem Grouped.length_eq (h : S.Grouped as table) :
    table.length = (as.map S.itemKey).eraseDups.length := by
  rw [← h.keys, List.length_map]

/-- An entry is what the items of its key make of it, the first of which has opened it. -/
theorem Grouped.exists_items (h : S.Grouped as table) (hb : b ∈ table) :
    ∃ a rest, as.filter (fun a => S.itemKey a = S.entryKey b) = a :: rest ∧
      b = (a :: rest).foldl S.update (S.start a) := by
  have hcell := h.cells b hb
  rw [cell] at hcell
  cases hitems : as.filter fun a => S.itemKey a = S.entryKey b with
  | nil =>
    rw [hitems] at hcell
    cases hcell
  | cons a rest =>
    refine ⟨a, rest, rfl, ?_⟩
    rw [hitems] at hcell
    have hsome : ∀ (xs : List α) (c : β),
        xs.foldl (fun b a => some (S.update (b.getD (S.start a)) a)) (some c)
          = some (xs.foldl S.update c) := by
      intro xs
      induction xs with
      | nil => intro c; rfl
      | cons x xs ih => intro c; exact ih _
    have hstart : some ((a :: rest).foldl S.update (S.start a)) = some b := by
      rw [← hcell, List.foldl_cons, List.foldl_cons, ← hsome]
      rfl
    exact (Option.some.inj hstart).symm

end Scheme

/-! ### Changes along a list

An entry that remembers the last item booked can count how often the items change. -/

variable {x y : κ} {xs : List κ}

/-- The number of places at which the list `x :: xs` changes. -/
def changes (x : κ) : List κ → ℕ
  | [] => 0
  | y :: ys => (if x ≠ y then 1 else 0) + changes y ys

theorem changes_le_length (x : κ) (xs : List κ) : changes x xs ≤ xs.length := by
  induction xs generalizing x with
  | nil => exact le_rfl
  | cons y ys ih =>
    have hle := ih y
    rw [changes, List.length_cons]
    split_ifs <;> omega

/-- A list that always changes has no two equal neighbours. -/
theorem changes_eq_length_iff :
    changes x xs = xs.length ↔ (x :: xs).IsChain fun a b => a ≠ b := by
  induction xs generalizing x with
  | nil => exact iff_of_true rfl (List.IsChain.singleton x)
  | cons y ys ih =>
    have hle := changes_le_length y ys
    rw [changes, List.length_cons, List.isChain_cons_cons, ← ih]
    split_ifs with hne
    · rw [and_iff_right hne]
      omega
    · exact iff_of_false (by omega) fun h => hne h.1

/-- Repetitions are no changes. -/
theorem changes_replicate_append (x y : κ) (n : ℕ) (xs : List κ) :
    changes x (List.replicate (n + 1) y ++ xs) = changes x (y :: xs) := by
  induction n generalizing x with
  | zero => rfl
  | succ n ih =>
    rw [List.replicate_succ, List.cons_append, changes, ih, changes, if_neg (not_not.mpr rfl),
      Nat.zero_add, changes]

/-- In a sorted list equal elements are neighbours, so a sorted list that always changes has no
element twice. -/
theorem nodup_of_changes {r : κ → κ → Prop} (hanti : ∀ {a b}, r a b → r b a → a = b)
    (hsorted : (x :: xs).Pairwise r) (h : changes x xs = xs.length) : (x :: xs).Nodup := by
  have hchain := changes_eq_length_iff.mp h
  clear h
  induction xs generalizing x with
  | nil => exact List.pairwise_singleton _ x
  | cons y ys ih =>
    obtain ⟨hne, hrest⟩ := List.isChain_cons_cons.mp hchain
    obtain ⟨hfirst, hsorted'⟩ := List.pairwise_cons.mp hsorted
    obtain ⟨hsecond, -⟩ := List.pairwise_cons.mp hsorted'
    refine List.nodup_cons.mpr ⟨?_, ih hsorted' hrest⟩
    intro hmem
    rcases List.mem_cons.mp hmem with hxy | hmem
    · exact hne hxy
    · exact hne (hanti (hfirst y List.mem_cons_self) (hsecond x hmem))

end Grouping
