import Mathlib.Data.List.AList
import Mathlib.Data.List.ReduceOption

/-!
# Tables of keyed entries

A table is a list of slots, each free or holding an entry: a key and a value.  `Tabulates slots m`
says that the entries of the table are those of the finite map `m`, in some order.  Since the keys
of a map are distinct, so are those of the table.

The three lemmas about writing one slot (`Tabulates.insert`, `Tabulates.update`, `Tabulates.erase`)
follow the map operation of the same name, and `Tabulates.countP_eq` lets a count over the slots be
read as a count over the map.  `Projects F m' m` relates a map to one that keeps less of the values.
-/

namespace Table

variable {κ β : Type} [DecidableEq κ]

/-- A finite map from keys to values. -/
abbrev FinMap (κ β : Type) := AList fun _ : κ => β

/-- An entry of a table, as an entry of a map. -/
def entry (e : κ × β) : Σ _ : κ, β :=
  ⟨e.1, e.2⟩

/-- The entries of the table are those of the map, in some order. -/
def Tabulates (slots : List (Option (κ × β))) (m : FinMap κ β) : Prop :=
  m.entries.Perm (slots.reduceOption.map entry)

section Tabulates

variable {slots : List (Option (κ × β))} {m : FinMap κ β} {k : κ} {b : β} {i : ℕ}

omit [DecidableEq κ] in
theorem tabulates_of_free (h : ∀ e ∈ slots, e = none) :
    Tabulates slots (∅ : FinMap κ β) := by
  have hnil : slots.reduceOption = [] := by
    rw [List.eq_nil_iff_forall_not_mem]
    intro e he
    cases h _ (List.reduceOption_mem_iff.mp he)
  rw [Tabulates, hnil]
  exact List.Perm.nil

/-- A key is bound to a value in the map iff some slot holds the entry. -/
theorem Tabulates.lookup_eq_some_iff (h : Tabulates slots m) :
    m.lookup k = some b ↔ some (k, b) ∈ slots := by
  rw [← Option.mem_def, AList.mem_lookup_iff, List.Perm.mem_iff h, ← List.reduceOption_mem_iff]
  constructor
  · intro hmem
    obtain ⟨e, he, heq⟩ := List.mem_map.mp hmem
    cases heq
    exact he
  · intro hmem
    exact List.mem_map.mpr ⟨(k, b), hmem, rfl⟩

omit [DecidableEq κ] in
theorem Tabulates.mem_iff (h : Tabulates slots m) : k ∈ m ↔ ∃ b, some (k, b) ∈ slots := by
  rw [AList.mem_keys, AList.keys, List.mem_keys]
  constructor
  · rintro ⟨b, hb⟩
    obtain ⟨e, he, heq⟩ := List.mem_map.mp ((List.Perm.mem_iff h).mp hb)
    cases heq
    exact ⟨e.2, List.reduceOption_mem_iff.mp he⟩
  · rintro ⟨b, hb⟩
    exact ⟨b, (List.Perm.mem_iff h).mpr
      (List.mem_map.mpr ⟨(k, b), List.reduceOption_mem_iff.mpr hb, rfl⟩)⟩

/-! ### Writing one slot -/

omit [DecidableEq κ] in
theorem reduceOption_set_some (hi : slots[i]? = some none) (e : κ × β) :
    (slots.set i (some e)).reduceOption.Perm (e :: slots.reduceOption) := by
  obtain ⟨hlt, hnone⟩ := List.getElem?_eq_some_iff.mp hi
  rw [List.set_eq_take_append_cons_drop, if_pos hlt]
  conv_rhs => rw [← List.take_append_drop i slots, List.drop_eq_getElem_cons hlt, hnone]
  rw [List.reduceOption_append, List.reduceOption_append, List.reduceOption_cons_of_some,
    List.reduceOption_cons_of_none]
  exact List.perm_middle

omit [DecidableEq κ] in
theorem reduceOption_set_none {e : κ × β} (hi : slots[i]? = some (some e)) :
    slots.reduceOption.Perm (e :: (slots.set i none).reduceOption) := by
  obtain ⟨hlt, hsome⟩ := List.getElem?_eq_some_iff.mp hi
  have hback : (slots.set i none).set i (some e) = slots := by
    rw [List.set_set, ← hsome, List.set_getElem_self]
  have hfree : (slots.set i none)[i]? = some none := by
    rw [List.getElem?_set_self hlt]
  have := reduceOption_set_some hfree e
  rwa [hback] at this

/-- Filling a free slot with a new key inserts it. -/
theorem Tabulates.insert (h : Tabulates slots m) (hi : slots[i]? = some none) (hk : k ∉ m) :
    Tabulates (slots.set i (some (k, b))) (m.insert k b) := by
  rw [Tabulates, AList.entries_insert_of_notMem hk]
  exact (h.cons _).trans ((reduceOption_set_some hi (k, b)).map entry).symm

/-- What is left of the map's entries when the key of slot `i` is removed. -/
theorem Tabulates.kerase_perm (h : Tabulates slots m) (hi : slots[i]? = some (some (k, b))) :
    (List.kerase k m.entries).Perm
      ((slots.set i none).reduceOption.map entry) := by
  have hperm := h.trans ((reduceOption_set_none hi).map entry)
  have hkerase := @List.Perm.kerase _ _ _ k _ _ m.nodupKeys hperm
  rwa [List.map_cons, List.kerase_cons_eq (by rfl)] at hkerase

/-- Emptying a slot erases its key. -/
theorem Tabulates.erase (h : Tabulates slots m) (hi : slots[i]? = some (some (k, b))) :
    Tabulates (slots.set i none) (m.erase k) :=
  h.kerase_perm hi

/-- Rewriting the value in a slot rebinds its key. -/
theorem Tabulates.update {b' : β} (h : Tabulates slots m)
    (hi : slots[i]? = some (some (k, b))) :
    Tabulates (slots.set i (some (k, b'))) (m.insert k b') := by
  obtain ⟨hlt, -⟩ := List.getElem?_eq_some_iff.mp hi
  have hfree : (slots.set i none)[i]? = some none := by rw [List.getElem?_set_self hlt]
  have hset := reduceOption_set_some hfree (k, b')
  rw [List.set_set] at hset
  rw [Tabulates, AList.entries_insert]
  exact ((h.kerase_perm hi).cons _).trans (hset.map entry).symm

/-! ### Counting -/

omit [DecidableEq κ] in
/-- A count over the map is a count over the slots. -/
theorem Tabulates.countP_eq (h : Tabulates slots m) (p : κ → β → Bool) :
    m.entries.countP (fun e => p e.1 e.2)
      = slots.countP fun e => e.any fun e => p e.1 e.2 := by
  rw [List.Perm.countP_eq _ h, List.countP_map]
  clear h
  induction slots with
  | nil => rfl
  | cons e slots ih =>
    cases e with
    | none =>
      rw [List.reduceOption_cons_of_none, ih, List.countP_cons_of_neg (by simp)]
    | some e =>
      rw [List.reduceOption_cons_of_some, List.countP_cons, List.countP_cons, ih]
      rfl

omit [DecidableEq κ] in
/-- The map has as many keys as there are slots in use. -/
theorem Tabulates.length_keys (h : Tabulates slots m) :
    m.keys.length = slots.countP Option.isSome := by
  have hcount := h.countP_eq fun _ _ => true
  rw [List.countP_true] at hcount
  rw [AList.keys, List.keys, List.length_map, hcount]
  refine List.countP_congr ?_
  rintro (_ | e) _ <;> simp

end Tabulates

/-! ### Properties of all values -/

/-- A property of all values is kept by binding a key to a value that has it. -/
theorem forall_lookup_insert {P : β → Prop} {m : FinMap κ β} {k : κ} {b : β}
    (h : ∀ k, ∀ b ∈ m.lookup k, P b) (hb : P b) : ∀ k', ∀ b' ∈ (m.insert k b).lookup k', P b' := by
  intro k' b' hb'
  by_cases hk : k' = k
  · subst hk
    rw [AList.lookup_insert, Option.mem_def, Option.some.injEq] at hb'
    rwa [← hb']
  · rw [AList.lookup_insert_ne hk] at hb'
    exact h k' b' hb'

theorem forall_lookup_erase {P : β → Prop} {m : FinMap κ β} (h : ∀ k, ∀ b ∈ m.lookup k, P b)
    (k : κ) : ∀ k', ∀ b ∈ (m.erase k).lookup k', P b := by
  intro k' b hb
  by_cases hk : k' = k
  · subst hk
    rw [AList.lookup_erase] at hb
    cases hb
  · rw [AList.lookup_erase_ne hk] at hb
    exact h k' b hb

/-! ### Projections of a map -/

section Projects

variable {γ : Type} {F : β → γ} {m' : FinMap κ γ} {m : FinMap κ β} {k : κ}

/-- The map `m'` binds every key to the value `F` of what `m` binds it to. -/
def Projects (F : β → γ) (m' : FinMap κ γ) (m : FinMap κ β) : Prop :=
  ∀ k, m'.lookup k = (m.lookup k).map F

theorem projects_empty : Projects F (∅ : FinMap κ γ) ∅ := fun _ => rfl

theorem Projects.mem_iff (h : Projects F m' m) : k ∈ m' ↔ k ∈ m := by
  rw [← AList.lookup_isSome, ← AList.lookup_isSome, h k, Option.isSome_map]

theorem Projects.insert (h : Projects F m' m) (k : κ) (b : β) :
    Projects F (m'.insert k (F b)) (m.insert k b) := by
  intro k'
  by_cases hk : k' = k
  · subst hk
    rw [AList.lookup_insert, AList.lookup_insert, Option.map_some]
  · rw [AList.lookup_insert_ne hk, AList.lookup_insert_ne hk, h k']

theorem Projects.erase (h : Projects F m' m) (k : κ) :
    Projects F (m'.erase k) (m.erase k) := by
  intro k'
  by_cases hk : k' = k
  · subst hk
    rw [AList.lookup_erase, AList.lookup_erase, Option.map_none]
  · rw [AList.lookup_erase_ne hk, AList.lookup_erase_ne hk, h k']

/-- The entries of the projection are the projected entries. -/
theorem Projects.entries_perm (h : Projects F m' m) :
    m'.entries.Perm (m.entries.map fun e => entry (e.1, F e.2)) := by
  have hkeys : (m.entries.map fun e => entry (e.1, F e.2)).NodupKeys := by
    rw [List.NodupKeys, List.keys, List.map_map]
    exact m.nodupKeys
  refine (List.perm_ext_iff_of_nodup m'.nodupKeys.nodup hkeys.nodup).mpr ?_
  rintro ⟨k, c⟩
  rw [← AList.mem_lookup_iff, Option.mem_def, h k, Option.map_eq_some_iff, List.mem_map]
  constructor
  · rintro ⟨b, hb, rfl⟩
    exact ⟨⟨k, b⟩, AList.mem_lookup_iff.mp hb, rfl⟩
  · rintro ⟨⟨k', b⟩, hb, heq⟩
    cases heq
    exact ⟨b, AList.mem_lookup_iff.mpr hb, rfl⟩

/-- A count over the projection is a count over the map. -/
theorem Projects.countP_eq (h : Projects F m' m) (p : γ → Bool) :
    m'.entries.countP (fun e => p e.2) = m.entries.countP fun e => p (F e.2) := by
  rw [h.entries_perm.countP_eq, List.countP_map]
  rfl

end Projects

end Table
